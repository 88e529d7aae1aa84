import KernelStore.Proofs.Arena.Invariant

/-!
A ledger of the blocks an arena has handed out, kept from calls and replies alone. Main statement:
after every run the blocks in the ledger lie in the mapping and apart from each other, and the
bodies among them are the ones that the arena lists.
-/

namespace KernelStore

/-- A block of the code region, with a name if it is a function body. -/
structure CodeBlock where
  name : Option String
  span : Span
  deriving DecidableEq

def CodeBlock.body? (block : CodeBlock) : Option Body :=
  block.name.map fun name => ⟨name, block.span.start, block.span.stop⟩

def CodeBlock.lower (size : Nat) (block : CodeBlock) : CodeBlock :=
  { block with span.start := block.span.start - size }

/-- Takes a body out; every block taken later moves down by its size. -/
def removeNamed (name : String) : List CodeBlock → List CodeBlock
  | [] => []
  | block :: rest =>
      if block.name = some name then rest.map (CodeBlock.lower block.span.size)
      else block :: removeNamed name rest

/-- Blocks of each region in the order in which they were handed out. The global offset table is
one of the stub region. -/
structure Ledger where
  code : List CodeBlock := []
  stubs : List Span := []
  data : List Span := []

def Block.span (block : Block) : Span := ⟨block.address, block.size⟩

namespace Ledger

def bodies (ledger : Ledger) : List Body := ledger.code.filterMap CodeBlock.body?

def blocks (ledger : Ledger) : List Span :=
  ledger.code.map CodeBlock.span ++ ledger.stubs ++ ledger.data

/-- The ledger after a call and its reply. -/
def record (ledger : Ledger) : ArenaCall → Except ArenaFault ArenaReply → Ledger
  | .endBody _ _, .ok (.body body) =>
      { ledger with code := ledger.code ++ [⟨some body.name, ⟨body.start, body.size⟩⟩] }
  | .takeCode _ _, .ok (.block block) =>
      { ledger with code := ledger.code ++ [⟨none, block.span⟩] }
  | .takeStub _ _, .ok (.block block) => { ledger with stubs := ledger.stubs ++ [block.span] }
  | .takeGot, .ok (.block block) => { ledger with stubs := ledger.stubs ++ [block.span] }
  | .takeData _ _, .ok (.block block) => { ledger with data := ledger.data ++ [block.span] }
  | .removeBody name, .ok _ => { ledger with code := removeNamed name ledger.code }
  | .reset, .ok _ => {}
  | _, _ => ledger

/-- The arena and its ledger after calls in turn. -/
def run (arena : Arena) (ledger : Ledger) : List ArenaCall → Arena × Ledger
  | [] => (arena, ledger)
  | call :: rest =>
      run (arena.perform call).2 (ledger.record call (arena.perform call).1) rest

/-- The blocks of a region follow each other between the bounds that the arena keeps for it. -/
structure Accounts (ledger : Ledger) (arena : Arena) : Prop where
  bodies : arena.bodies = ledger.bodies
  codeOrder : ledger.code.Pairwise fun first second => first.span.stop ≤ second.span.start
  code : ∀ block ∈ ledger.code, arena.base ≤ block.span.start ∧
    block.span.stop ≤ arena.base + arena.codeCursor
  stubOrder : ledger.stubs.Pairwise fun first second => second.stop ≤ first.start
  stubs : ∀ span ∈ ledger.stubs, arena.base + arena.stubCursor ≤ span.start ∧
    span.stop ≤ arena.base + arena.codeSize
  dataOrder : ledger.data.Pairwise fun first second => first.stop ≤ second.start
  data : ∀ span ∈ ledger.data, arena.base + arena.codeSize ≤ span.start ∧
    span.stop ≤ arena.base + arena.dataCursor
  table : ∀ address, arena.got = some address → ⟨address, arena.gotSize⟩ ∈ ledger.stubs

theorem accounts_ofLease (lease : Lease) : Accounts {} (Arena.ofLease lease) where
  bodies := rfl
  codeOrder := List.Pairwise.nil
  code := nofun
  stubOrder := List.Pairwise.nil
  stubs := nofun
  dataOrder := List.Pairwise.nil
  data := nofun
  table := nofun

/-! ### Function bodies -/

theorem body?_eq_some {block : CodeBlock} {body : Body} (same : block.body? = some body) :
    block.name = some body.name ∧ block.span.start = body.start ∧ block.span.size = body.size := by
  obtain ⟨name, named, rfl⟩ := Option.map_eq_some_iff.mp same
  refine ⟨named, rfl, ?_⟩
  simp [Body.size, Span.stop]

theorem body?_lower (block : CodeBlock) (size : Nat) (above : size ≤ block.span.start) :
    (block.lower size).body? = block.body?.map (Body.lower size) := by
  have stop : block.span.start - size + block.span.size =
      block.span.start + block.span.size - size := by omega
  cases named : block.name with
  | none => simp [CodeBlock.body?, CodeBlock.lower, named]
  | some name => simp [CodeBlock.body?, CodeBlock.lower, Body.lower, Span.stop, named, stop]

theorem removeNamed_append {name : String} {front rest : List CodeBlock} {removed : CodeBlock}
    (absent : ∀ block ∈ front, block.name ≠ some name) (same : removed.name = some name) :
    removeNamed name (front ++ removed :: rest) =
      front ++ rest.map (CodeBlock.lower removed.span.size) := by
  induction front with
  | nil => simp [removeNamed, same]
  | cons head tail ih =>
      have other := absent head List.mem_cons_self
      rw [List.cons_append, removeNamed, if_neg other,
        ih fun block member => absent block (List.mem_cons_of_mem _ member), List.cons_append]

theorem Accounts.endBody {ledger : Ledger} {arena after : Arena} {name : String} {size : Nat}
    {body : Body} (accounts : ledger.Accounts arena) (wellFormed : arena.WellFormed)
    (ended : arena.endBody name size = .ok (body, after)) :
    (ledger.record (.endBody name size) (.ok (.body body))).Accounts after := by
  obtain ⟨opened, isOpen, _, fits, rfl, rfl⟩ := Arena.endBody_eq_ok_iff.mp ended
  have start := wellFormed.openStart opened isOpen
  have length : arena.base + opened.start + size - (arena.base + opened.start) = size := by omega
  refine { accounts with bodies := ?_, codeOrder := ?_, code := ?_ }
  · simp [record, Ledger.bodies, CodeBlock.body?, Span.stop, Body.size, accounts.bodies]
  · refine List.pairwise_append.mpr ⟨accounts.codeOrder, List.pairwise_singleton _ _, ?_⟩
    intro earlier member later same
    have extent := accounts.code earlier member
    rw [List.mem_singleton.mp same]
    change earlier.span.stop ≤ arena.base + opened.start
    omega
  · intro block member
    change arena.base ≤ block.span.start ∧
      block.span.stop ≤ arena.base + (opened.start + size)
    rcases List.mem_append.mp member with earlier | same
    · have extent := accounts.code block earlier
      omega
    · rw [List.mem_singleton.mp same]
      simp only [Span.stop, Body.size]
      omega

/-- A removed body has its block in the ledger, between those of the bodies before and after. -/
theorem Accounts.split {ledger : Ledger} {arena : Arena} (accounts : ledger.Accounts arena)
    (wellFormed : arena.WellFormed) {before later : List Body} {removed : Body}
    (bodies : arena.bodies = before ++ removed :: later) :
    ∃ front block rest, ledger.code = front ++ block :: rest ∧
      block.span.start = removed.start ∧ block.span.size = removed.size ∧
      front.filterMap CodeBlock.body? = before ∧ rest.filterMap CodeBlock.body? = later ∧
      removeNamed removed.name ledger.code = front ++ rest.map (CodeBlock.lower removed.size) := by
  have names := wellFormed.names
  rw [bodies, List.map_append, List.map_cons, List.nodup_append] at names
  rw [accounts.bodies] at bodies
  obtain ⟨first, second, code, early, late⟩ := List.filterMap_eq_append_iff.mp bodies
  obtain ⟨spaces, block, rest, apart, unnamed, same, others⟩ :=
    List.filterMap_eq_cons_iff.mp late
  obtain ⟨blockName, start, length⟩ := body?_eq_some same
  have joined : ledger.code = (first ++ spaces) ++ block :: rest := by
    rw [code, apart, List.append_assoc]
  have early : (first ++ spaces).filterMap CodeBlock.body? = before := by
    rw [List.filterMap_append, List.filterMap_eq_nil_iff.mpr unnamed, List.append_nil, early]
  have absent : ∀ other ∈ first ++ spaces, other.name ≠ some removed.name := by
    intro other member sameName
    have listed : ⟨removed.name, other.span.start, other.span.stop⟩ ∈ before := by
      rw [← early]
      exact List.mem_filterMap.mpr ⟨other, member, by simp [CodeBlock.body?, sameName]⟩
    have twice : removed.name ∈ before.map Body.name := List.mem_map.mpr ⟨_, listed, rfl⟩
    exact names.2.2 removed.name twice removed.name List.mem_cons_self rfl
  refine ⟨first ++ spaces, block, rest, joined, start, length, early, others, ?_⟩
  rw [joined, removeNamed_append absent blockName, length]

theorem Accounts.removeBody {ledger : Ledger} {arena after : Arena} {name : String}
    (accounts : ledger.Accounts arena) (wellFormed : arena.WellFormed)
    (removal : arena.removeBody name = .ok after) :
    (ledger.record (.removeBody name) (.ok .done)).Accounts after := by
  obtain ⟨_, _, removed, found, rfl⟩ := Arena.removeBody_eq_ok_iff.mp removal
  obtain ⟨rfl, before, later, bodies⟩ := Arena.findBody?_split found
  obtain ⟨front, block, rest, code, start, length, early, others, shifted⟩ :=
    accounts.split wellFormed bodies
  have codeOrder := accounts.codeOrder
  have placed := accounts.code
  rw [code] at codeOrder placed
  obtain ⟨frontOrder, laterOrder, beforeOrder⟩ := List.pairwise_append.mp codeOrder
  obtain ⟨beyond, restOrder⟩ := List.pairwise_cons.mp laterOrder
  -- Later blocks begin far enough up for the subtraction to be exact.
  have above : ∀ other ∈ rest, block.span.start + removed.size ≤ other.span.start := by
    intro other member
    have order := beyond other member
    change block.span.start + block.span.size ≤ other.span.start at order
    omega
  refine { accounts with bodies := ?_, codeOrder := ?_, code := ?_ }
  · change (arena.bodies.erase removed).map (Arena.shift removed) =
      (removeNamed removed.name ledger.code).filterMap CodeBlock.body?
    rw [wellFormed.shifted bodies, shifted, List.filterMap_append, early, List.filterMap_map,
      ← others, List.map_filterMap]
    congr 1
    apply List.filterMap_congr
    intro other member
    have room := above other member
    exact (body?_lower other removed.size (by omega)).symm
  · change (removeNamed removed.name ledger.code).Pairwise _
    rw [shifted]
    refine List.pairwise_append.mpr ⟨frontOrder, ?_, ?_⟩
    · refine List.pairwise_map.mpr (restOrder.imp_of_mem ?_)
      intro first second firstMember secondMember order
      have room := above first firstMember
      change first.span.start - removed.size + first.span.size ≤
        second.span.start - removed.size
      change first.span.start + first.span.size ≤ second.span.start at order
      omega
    · intro first member second lowered
      obtain ⟨original, later, rfl⟩ := List.mem_map.mp lowered
      have below := beforeOrder first member block List.mem_cons_self
      have room := above original later
      change first.span.stop ≤ original.span.start - removed.size
      omega
  · intro other member
    change other ∈ removeNamed removed.name ledger.code at member
    change arena.base ≤ other.span.start ∧
      other.span.stop ≤ arena.base + (arena.codeCursor - removed.size)
    have range := placed block (List.mem_append_right _ List.mem_cons_self)
    change _ ∧ block.span.start + block.span.size ≤ _ at range
    rw [shifted] at member
    rcases List.mem_append.mp member with earlier | lowered
    · have below := beforeOrder other earlier block List.mem_cons_self
      have extent := placed other (List.mem_append_left _ earlier)
      omega
    · obtain ⟨original, later, rfl⟩ := List.mem_map.mp lowered
      have room := above original later
      have extent := placed original (List.mem_append_right _ (List.mem_cons_of_mem _ later))
      change _ ∧ original.span.start + original.span.size ≤ _ at extent
      change arena.base ≤ original.span.start - removed.size ∧
        original.span.start - removed.size + original.span.size ≤ _
      omega

/-! ### Blocks -/

section

variable {ledger : Ledger} {arena after : Arena} {size align : Nat} {block : Block}

theorem Accounts.takeCode (accounts : ledger.Accounts arena)
    (taken : arena.takeCode size align = .ok (block, after)) :
    (ledger.record (.takeCode size align) (.ok (.block block))).Accounts after := by
  obtain ⟨_, _, unit, _, fits, rfl, rfl⟩ := Arena.takeCode_eq_ok_iff.mp taken
  have rounded := le_roundUp (arena.base + arena.codeCursor) unit
  generalize roundUp (arena.base + arena.codeCursor) unit = start at *
  refine { accounts with bodies := ?_, codeOrder := ?_, code := ?_ }
  · simp [record, Ledger.bodies, CodeBlock.body?, accounts.bodies]
  · refine List.pairwise_append.mpr ⟨accounts.codeOrder, List.pairwise_singleton _ _, ?_⟩
    intro earlier member later same
    have extent := accounts.code earlier member
    rw [List.mem_singleton.mp same]
    change earlier.span.stop ≤ arena.base + (start - arena.base)
    omega
  · intro other member
    change arena.base ≤ other.span.start ∧
      other.span.stop ≤ arena.base + (start - arena.base + size)
    rcases List.mem_append.mp member with earlier | same
    · have extent := accounts.code other earlier
      omega
    · rw [List.mem_singleton.mp same]
      simp only [Span.stop, Block.span, Arena.block]
      omega

theorem Accounts.takeStub (accounts : ledger.Accounts arena) (wellFormed : arena.WellFormed)
    (taken : arena.takeStub size align = .ok (block, after)) :
    (ledger.record (.takeStub size align) (.ok (.block block))).Accounts after := by
  obtain ⟨_, unit, _, ⟨room, above⟩, rfl, rfl⟩ := Arena.takeStub_eq_ok_iff.mp taken
  have rounded := Nat.div_mul_le_self (arena.base + arena.stubCursor - size) unit
  have inside := wellFormed.stubs
  generalize (arena.base + arena.stubCursor - size) / unit * unit = start at *
  refine { accounts with stubOrder := ?_, stubs := ?_, table := ?_ }
  · refine List.pairwise_append.mpr ⟨accounts.stubOrder, List.pairwise_singleton _ _, ?_⟩
    intro earlier member later same
    have extent := accounts.stubs earlier member
    rw [List.mem_singleton.mp same]
    change arena.base + (start - arena.base) + size ≤ earlier.start
    omega
  · intro other member
    change arena.base + (start - arena.base) ≤ other.start ∧
      other.stop ≤ arena.base + arena.codeSize
    rcases List.mem_append.mp member with earlier | same
    · have extent := accounts.stubs other earlier
      omega
    · rw [List.mem_singleton.mp same]
      simp only [Span.stop, Block.span, Arena.block]
      omega
  · intro address allocated
    exact List.mem_append_left _ (accounts.table address allocated)

theorem Accounts.takeGot (accounts : ledger.Accounts arena) (wellFormed : arena.WellFormed)
    (taken : arena.takeGot = .ok (block, after)) :
    (ledger.record .takeGot (.ok (.block block))).Accounts after := by
  obtain ⟨_, changed, stub, rfl⟩ := Arena.takeGot_eq_ok_iff.mp taken
  have kept := accounts.takeStub wellFormed stub
  obtain ⟨_, unit, _, _, rfl, rfl⟩ := Arena.takeStub_eq_ok_iff.mp stub
  refine { kept with table := ?_ }
  intro address same
  cases same
  exact List.mem_append_right _ (List.mem_singleton_self _)

theorem Accounts.takeData (accounts : ledger.Accounts arena) (wellFormed : arena.WellFormed)
    (taken : arena.takeData size align = .ok (block, after)) :
    (ledger.record (.takeData size align) (.ok (.block block))).Accounts after := by
  obtain ⟨unit, _, fits, rfl, rfl⟩ := Arena.takeData_eq_ok_iff.mp taken
  have rounded := le_roundUp (arena.base + arena.dataCursor) unit
  have data := wellFormed.data
  generalize roundUp (arena.base + arena.dataCursor) unit = start at *
  refine { accounts with dataOrder := ?_, data := ?_ }
  · refine List.pairwise_append.mpr ⟨accounts.dataOrder, List.pairwise_singleton _ _, ?_⟩
    intro earlier member later same
    have extent := accounts.data earlier member
    rw [List.mem_singleton.mp same]
    change earlier.stop ≤ arena.base + (start - arena.base)
    omega
  · intro other member
    change arena.base + arena.codeSize ≤ other.start ∧
      other.stop ≤ arena.base + (start - arena.base + size)
    rcases List.mem_append.mp member with earlier | same
    · have extent := accounts.data other earlier
      omega
    · rw [List.mem_singleton.mp same]
      simp only [Span.stop, Block.span, Arena.block]
      omega

end

/-! ### Runs -/

theorem record_error (ledger : Ledger) (call : ArenaCall) (fault : ArenaFault) :
    ledger.record call (.error fault) = ledger := by
  cases call <;> rfl

theorem accounts_settle {ledger : Ledger} {arena : Arena} {α : Type} {call : ArenaCall}
    {reply : α → ArenaReply} {outcome : Except ArenaFault (α × Arena)}
    (accounts : ledger.Accounts arena)
    (kept : ∀ value changed, outcome = .ok (value, changed) →
      (ledger.record call (.ok (reply value))).Accounts changed) :
    (ledger.record call (arena.settle reply outcome).1).Accounts
      (arena.settle reply outcome).2 := by
  rcases Arena.settle_cases reply outcome with ⟨value, changed, done, same⟩ | ⟨fault, _, same⟩
  · rw [same]
    exact kept value changed done
  · rw [same, record_error]
    exact accounts

theorem Accounts.perform {ledger : Ledger} {arena : Arena} (accounts : ledger.Accounts arena)
    (wellFormed : arena.WellFormed) (call : ArenaCall) :
    (ledger.record call (arena.perform call).1).Accounts (arena.perform call).2 := by
  cases call with
  | beginBody name =>
      refine accounts_settle accounts fun _ _ done => ?_
      obtain ⟨_, _, _, _, rfl⟩ := Arena.beginBody_eq_ok_iff.mp done
      exact { accounts with }
  | endBody name size =>
      exact accounts_settle accounts fun _ _ done => accounts.endBody wellFormed done
  | takeCode size align => exact accounts_settle accounts fun _ _ done => accounts.takeCode done
  | takeStub size align =>
      exact accounts_settle accounts fun _ _ done => accounts.takeStub wellFormed done
  | takeData size align =>
      exact accounts_settle accounts fun _ _ done => accounts.takeData wellFormed done
  | takeGot => exact accounts_settle accounts fun _ _ done => accounts.takeGot wellFormed done
  | gotAddress => exact accounts
  | setWritable => exact { accounts with }
  | setExecutable => exact { accounts with }
  | refusedProtection fault => exact accounts
  | reset => exact { accounts_ofLease arena.lease with }
  | removeBody name =>
      exact accounts_settle accounts fun value _ done =>
        accounts.removeBody wellFormed ((Arena.map_unit_eq_ok_iff value).mp done)
  | findBody name => exact accounts
  | bodies => exact accounts
  | write address bytes =>
      refine accounts_settle accounts fun value _ done => ?_
      obtain ⟨_, _, rfl⟩ := Arena.write_eq_ok_iff.mp ((Arena.map_unit_eq_ok_iff value).mp done)
      exact { accounts with }
  | read address size =>
      change (ledger.record _ ((arena.read address size).map .bytes)).Accounts arena
      cases arena.read address size with
      | ok bytes => exact accounts
      | error fault => exact accounts

theorem run_keeps {ledger : Ledger} {arena : Arena} {lease : Lease}
    (accounts : ledger.Accounts arena) (wellFormed : arena.WellFormed)
    (occupies : arena.Occupies lease) (calls : List ArenaCall) :
    (run arena ledger calls).2.Accounts (run arena ledger calls).1 ∧
      (run arena ledger calls).1.WellFormed ∧ (run arena ledger calls).1.Occupies lease := by
  induction calls generalizing arena ledger with
  | nil => exact ⟨accounts, wellFormed, occupies⟩
  | cons call rest ih =>
      exact ih (accounts.perform wellFormed call) (wellFormed.perform call)
        (occupies.perform call)

theorem run_fst (arena : Arena) (ledger : Ledger) (calls : List ArenaCall) :
    (run arena ledger calls).1 = arena.performAll calls := by
  induction calls generalizing arena ledger with
  | nil => rfl
  | cons call rest ih => exact ih _ _

theorem Accounts.apart {ledger : Ledger} {arena : Arena} (accounts : ledger.Accounts arena)
    (wellFormed : arena.WellFormed) : ledger.blocks.Pairwise Span.Apart := by
  have below := wellFormed.code
  have stubsEnd := wellFormed.stubs
  have codeApart : (ledger.code.map CodeBlock.span).Pairwise Span.Apart :=
    List.pairwise_map.mpr (accounts.codeOrder.imp Or.inl)
  have stubsApart : ledger.stubs.Pairwise Span.Apart := accounts.stubOrder.imp Or.inr
  have dataApart : ledger.data.Pairwise Span.Apart := accounts.dataOrder.imp Or.inl
  refine List.pairwise_append.mpr ⟨List.pairwise_append.mpr ⟨codeApart, stubsApart, ?_⟩,
    dataApart, ?_⟩
  · intro first member second stub
    obtain ⟨block, inCode, rfl⟩ := List.mem_map.mp member
    have codeExtent := accounts.code block inCode
    have stubExtent := accounts.stubs second stub
    left
    omega
  · intro first member second inData
    have dataExtent := accounts.data second inData
    left
    rcases List.mem_append.mp member with listed | stub
    · obtain ⟨block, inCode, rfl⟩ := List.mem_map.mp listed
      have codeExtent := accounts.code block inCode
      omega
    · have stubExtent := accounts.stubs first stub
      omega

theorem Accounts.inside {ledger : Ledger} {arena : Arena} (accounts : ledger.Accounts arena)
    (wellFormed : arena.WellFormed) {span : Span} (member : span ∈ ledger.blocks) :
    arena.base ≤ span.start ∧ span.stop ≤ arena.base + arena.lease.size := by
  have code := wellFormed.code
  have stubs := wellFormed.stubs
  have data := wellFormed.data
  have inside := wellFormed.inside
  rcases List.mem_append.mp member with upper | inData
  · rcases List.mem_append.mp upper with listed | stub
    · obtain ⟨block, inCode, rfl⟩ := List.mem_map.mp listed
      have extent := accounts.code block inCode
      omega
    · have extent := accounts.stubs span stub
      omega
  · have extent := accounts.data span inData
    omega

/-- Whatever is called on an arena, it stays well formed, its bodies are those of the ledger in
the order of their emission, and no two blocks of the ledger meet. -/
theorem blocks_apart_after_run (lease : Lease) (calls : List ArenaCall) :
    let arena := (Arena.ofLease lease).performAll calls
    let ledger := (run (Arena.ofLease lease) {} calls).2
    arena.WellFormed ∧ arena.Occupies lease ∧ ledger.Accounts arena ∧
      ledger.blocks.Pairwise Span.Apart ∧
      ∀ span ∈ ledger.blocks,
        lease.address ≤ span.start ∧ span.stop ≤ lease.address + lease.size := by
  intro arena ledger
  obtain ⟨accounts, wellFormed, occupies⟩ :=
    run_keeps (accounts_ofLease lease) (Arena.wellFormed_ofLease lease)
      (Arena.occupies_ofLease lease) calls
  rw [run_fst] at accounts wellFormed occupies
  refine ⟨wellFormed, occupies, accounts, accounts.apart wellFormed, ?_⟩
  intro span member
  have inside := accounts.inside wellFormed member
  have size : arena.lease.size = lease.size :=
    congrArg (fun table => table.layout.slotSize) occupies.table
  rw [size] at inside
  exact occupies.address ▸ inside

end Ledger

end KernelStore
