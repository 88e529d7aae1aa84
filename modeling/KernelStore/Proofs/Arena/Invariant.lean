import KernelStore.Proofs.Arena.Steps

/-!
What holds of every arena that calls lead to. The cursors stay in order, and an open body starts
at the code cursor; without the latter, closing a body would not keep the former.
-/

namespace KernelStore

/-- Where a body lies once `size` bytes below it are gone. -/
def Body.lower (size : Nat) (body : Body) : Body :=
  { body with start := body.start - size, stop := body.stop - size }

namespace Arena

structure WellFormed (arena : Arena) : Prop where
  code : arena.codeCursor ≤ arena.stubCursor
  stubs : arena.stubCursor ≤ arena.codeSize
  data : arena.codeSize ≤ arena.dataCursor
  inside : arena.dataCursor ≤ arena.lease.size
  openStart : ∀ opened, arena.openBody = some opened → opened.start = arena.codeCursor
  openName : ∀ opened, arena.openBody = some opened →
    opened.name ∉ arena.bodies.map Body.name
  names : (arena.bodies.map Body.name).Nodup
  ordered : arena.bodies.Pairwise fun first second => first.stop ≤ second.start
  placed : ∀ body ∈ arena.bodies, arena.base ≤ body.start ∧ body.start ≤ body.stop ∧
    body.stop ≤ arena.base + arena.codeCursor
  table : ∀ address, arena.got = some address → address % 8 = 0 ∧
    arena.base + arena.stubCursor ≤ address ∧
    address + arena.gotSize ≤ arena.base + arena.codeSize

variable {arena after : Arena} {name : String} {size align : Nat} {block : Block}

theorem wellFormed_ofLease (lease : Lease) : (ofLease lease).WellFormed where
  code := Nat.zero_le _
  stubs := Nat.le_refl _
  data := Nat.le_refl _
  inside := Nat.le_add_right _ _
  openStart := nofun
  openName := nofun
  names := List.nodup_nil
  ordered := List.Pairwise.nil
  placed := nofun
  table := nofun

/-! ### Function bodies -/

theorem findBody?_eq_none_iff :
    arena.findBody? name = none ↔ name ∉ arena.bodies.map Body.name := by
  simp [findBody?, List.find?_eq_none]

theorem findBody?_split {removed : Body} (found : arena.findBody? name = some removed) :
    removed.name = name ∧ ∃ front rest, arena.bodies = front ++ removed :: rest := by
  obtain ⟨same, front, rest, split, _⟩ := List.find?_eq_some_iff_append.mp found
  exact ⟨eq_of_beq same, front, rest, split⟩

/-- The comparison of addresses moves exactly the bodies emitted later. An empty body may begin
where an earlier one ends, but then nothing is moved by any byte. -/
theorem WellFormed.shifted (wellFormed : arena.WellFormed) {front rest : List Body}
    {removed : Body} (split : arena.bodies = front ++ removed :: rest) :
    (arena.bodies.erase removed).map (shift removed) =
      front ++ rest.map (Body.lower removed.size) := by
  have ordered := wellFormed.ordered
  have placed := wellFormed.placed
  have names := wellFormed.names
  rw [split] at ordered placed names
  rw [List.map_append, List.map_cons, List.nodup_append] at names
  have absent : removed ∉ front := by
    intro member
    exact names.2.2 removed.name (List.mem_map_of_mem member) removed.name List.mem_cons_self rfl
  rw [split, List.erase_append_right _ absent, List.erase_cons_head, List.map_append]
  obtain ⟨_, later, before⟩ := List.pairwise_append.mp ordered
  congr 1
  · refine (List.map_congr_left ?_).trans (List.map_id front)
    intro body member
    have below := before body member removed List.mem_cons_self
    have extent := placed body (List.mem_append_left _ member)
    have range := placed removed (List.mem_append_right _ List.mem_cons_self)
    unfold shift
    split
    · have empty : removed.size = 0 := by
        unfold Body.size
        omega
      simp [empty]
    · rfl
  · apply List.map_congr_left
    intro body member
    have above := (List.pairwise_cons.mp later).1 body member
    simp [shift, above, Body.lower]

theorem WellFormed.beginBody (wellFormed : arena.WellFormed)
    (begun : arena.beginBody name = .ok (block, after)) : after.WellFormed := by
  obtain ⟨_, _, unknown, _, rfl⟩ := beginBody_eq_ok_iff.mp begun
  refine { wellFormed with openStart := ?_, openName := ?_ }
  · intro _ same
    cases same
    rfl
  · intro _ same
    cases same
    exact findBody?_eq_none_iff.mp unknown

theorem WellFormed.endBody (wellFormed : arena.WellFormed) {body : Body}
    (ended : arena.endBody name size = .ok (body, after)) : after.WellFormed := by
  obtain ⟨opened, isOpen, sameName, fits, rfl, rfl⟩ := endBody_eq_ok_iff.mp ended
  have start := wellFormed.openStart opened isOpen
  have fresh := wellFormed.openName opened isOpen
  have code := wellFormed.code
  refine { wellFormed with
    code := ?_, openStart := nofun, openName := nofun, names := ?_, ordered := ?_, placed := ?_ }
  · -- The new code cursor is the end of the body, which began at the old one.
    change opened.start + size ≤ arena.stubCursor
    omega
  · rw [List.map_append, List.map_singleton, List.nodup_append_comm]
    exact List.nodup_cons.mpr ⟨sameName ▸ fresh, wellFormed.names⟩
  · refine List.pairwise_append.mpr ⟨wellFormed.ordered, List.pairwise_singleton _ _, ?_⟩
    intro earlier member later same
    have extent := wellFormed.placed earlier member
    rw [List.mem_singleton.mp same]
    change earlier.stop ≤ arena.base + opened.start
    omega
  · intro other member
    change arena.base ≤ other.start ∧ other.start ≤ other.stop ∧
      other.stop ≤ arena.base + (opened.start + size)
    rcases List.mem_append.mp member with earlier | same
    · have extent := wellFormed.placed other earlier
      omega
    · rw [List.mem_singleton.mp same]
      dsimp only
      omega

theorem WellFormed.removeBody (wellFormed : arena.WellFormed)
    (removal : arena.removeBody name = .ok after) : after.WellFormed := by
  obtain ⟨_, closed, removed, found, rfl⟩ := removeBody_eq_ok_iff.mp removal
  obtain ⟨_, front, rest, split⟩ := findBody?_split found
  have names := wellFormed.names
  have ordered := wellFormed.ordered
  have placed := wellFormed.placed
  have code := wellFormed.code
  -- Only the bodies behind the removed one move, all of them by its size.
  rw [wellFormed.shifted split]
  rw [split] at names ordered placed
  obtain ⟨frontOrdered, laterOrdered, before⟩ := List.pairwise_append.mp ordered
  obtain ⟨beyond, restOrdered⟩ := List.pairwise_cons.mp laterOrdered
  have range := placed removed (List.mem_append_right _ List.mem_cons_self)
  have length : removed.size = removed.stop - removed.start := rfl
  have remaining : (front ++ rest.map (Body.lower removed.size)).map Body.name =
      (front ++ rest).map Body.name := by
    rw [List.map_append, List.map_append, List.map_map]
    rfl
  refine { wellFormed with
    code := ?_, openStart := ?_, openName := ?_, names := ?_, ordered := ?_, placed := ?_ }
  · change arena.codeCursor - removed.size ≤ arena.stubCursor
    omega
  · intro opened isOpen
    rw [closed] at isOpen
    cases isOpen
  · intro opened isOpen
    rw [closed] at isOpen
    cases isOpen
  · change ((front ++ rest.map (Body.lower removed.size)).map Body.name).Nodup
    rw [remaining]
    refine names.sublist (List.Sublist.map _ ?_)
    exact List.Sublist.append_left (List.sublist_cons_self removed rest) front
  · refine List.pairwise_append.mpr ⟨frontOrdered, ?_, ?_⟩
    · refine List.pairwise_map.mpr (restOrdered.imp ?_)
      intro first second order
      change first.stop - removed.size ≤ second.start - removed.size
      omega
    · intro first member second lowered
      obtain ⟨second, later, rfl⟩ := List.mem_map.mp lowered
      have below := before first member removed List.mem_cons_self
      have above := beyond second later
      change first.stop ≤ second.start - removed.size
      omega
  · intro body member
    change arena.base ≤ body.start ∧ body.start ≤ body.stop ∧
      body.stop ≤ arena.base + (arena.codeCursor - removed.size)
    rcases List.mem_append.mp member with earlier | lowered
    · have below := before body earlier removed List.mem_cons_self
      have extent := placed body (List.mem_append_left _ earlier)
      omega
    · obtain ⟨original, later, rfl⟩ := List.mem_map.mp lowered
      have above := beyond original later
      have extent := placed original (List.mem_append_right _ (List.mem_cons_of_mem _ later))
      dsimp only [Body.lower]
      omega

/-! ### Blocks -/

theorem WellFormed.takeCode (wellFormed : arena.WellFormed)
    (taken : arena.takeCode size align = .ok (block, after)) : after.WellFormed := by
  obtain ⟨_, closed, unit, _, fits, _, rfl⟩ := takeCode_eq_ok_iff.mp taken
  have rounded := le_roundUp (arena.base + arena.codeCursor) unit
  refine { wellFormed with code := fits, openStart := ?_, placed := ?_ }
  · intro opened isOpen
    rw [closed] at isOpen
    cases isOpen
  · intro body member
    have extent := wellFormed.placed body member
    refine ⟨extent.1, extent.2.1, Nat.le_trans extent.2.2 ?_⟩
    change _ ≤ arena.base + (_ - arena.base + size)
    omega

theorem WellFormed.takeStub (wellFormed : arena.WellFormed)
    (taken : arena.takeStub size align = .ok (block, after)) : after.WellFormed := by
  obtain ⟨_, unit, _, ⟨_, above⟩, _, rfl⟩ := takeStub_eq_ok_iff.mp taken
  have rounded := Nat.div_mul_le_self (arena.base + arena.stubCursor - size) unit
  have stubs := wellFormed.stubs
  refine { wellFormed with code := ?_, stubs := ?_, table := ?_ }
  · change arena.codeCursor ≤ _ - arena.base
    omega
  · change _ - arena.base ≤ arena.codeSize
    omega
  · intro address allocated
    have inside := wellFormed.table address allocated
    refine ⟨inside.1, Nat.le_trans ?_ inside.2.1, inside.2.2⟩
    change arena.base + (_ - arena.base) ≤ _
    omega

theorem WellFormed.takeData (wellFormed : arena.WellFormed)
    (taken : arena.takeData size align = .ok (block, after)) : after.WellFormed := by
  obtain ⟨unit, _, fits, _, rfl⟩ := takeData_eq_ok_iff.mp taken
  have rounded := le_roundUp (arena.base + arena.dataCursor) unit
  have data := wellFormed.data
  refine { wellFormed with data := ?_, inside := fits }
  change arena.codeSize ≤ _ - arena.base + size
  omega

theorem WellFormed.takeGot (wellFormed : arena.WellFormed)
    (taken : arena.takeGot = .ok (block, after)) : after.WellFormed := by
  obtain ⟨_, changed, stub, rfl⟩ := takeGot_eq_ok_iff.mp taken
  have kept := wellFormed.takeStub stub
  obtain ⟨_, unit, aligned, ⟨size, above⟩, rfl, rfl⟩ := takeStub_eq_ok_iff.mp stub
  have eight : unit = 8 := by
    rcases (alignment_eq_ok_iff unit).mp aligned with ⟨zero, _⟩ | ⟨_, _, same⟩
    · cases zero
    · exact same
  have stubs := wellFormed.stubs
  refine { kept with table := ?_ }
  intro address same
  cases same
  subst eight
  change (arena.base + (_ - arena.base)) % 8 = 0 ∧ arena.base + (_ - arena.base) ≤ _ ∧ _
  refine ⟨?_, Nat.le_refl _, ?_⟩
  · omega
  · change arena.base + (_ - arena.base) + arena.gotSize ≤ arena.base + arena.codeSize
    omega

theorem WellFormed.write (wellFormed : arena.WellFormed) {address : Nat} {bytes : Bytes}
    (written : arena.write address bytes = .ok after) : after.WellFormed := by
  obtain ⟨_, _, rfl⟩ := write_eq_ok_iff.mp written
  exact { wellFormed with }

theorem wellFormed_reset (arena : Arena) : arena.reset.WellFormed :=
  { wellFormed_ofLease arena.lease with }

/-! ### Runs -/

/-- A call either succeeds and leads to the arena it computed, or leaves the arena alone. -/
theorem settle_cases {α : Type} (reply : α → ArenaReply)
    (outcome : Except ArenaFault (α × Arena)) :
    (∃ value changed, outcome = .ok (value, changed) ∧
      arena.settle reply outcome = (.ok (reply value), changed)) ∨
    (∃ fault, outcome = .error fault ∧ arena.settle reply outcome = (.error fault, arena)) := by
  cases outcome with
  | ok result => exact Or.inl ⟨result.1, result.2, rfl, rfl⟩
  | error fault => exact Or.inr ⟨fault, rfl, rfl⟩

theorem settle_eq_ok_iff {α : Type} {reply : α → ArenaReply} {answer : ArenaReply}
    {outcome : Except ArenaFault (α × Arena)} :
    arena.settle reply outcome = (.ok answer, after) ↔
      ∃ value, outcome = .ok (value, after) ∧ reply value = answer := by
  rcases settle_cases reply outcome with ⟨value, changed, done, same⟩ | ⟨fault, failed, same⟩
  · rw [same, done]
    simp [and_comm]
  · rw [same, failed]
    simp

theorem settle_keeps {α : Type} {holds : Arena → Prop} {reply : α → ArenaReply}
    {outcome : Except ArenaFault (α × Arena)} (before : holds arena)
    (kept : ∀ value changed, outcome = .ok (value, changed) → holds changed) :
    holds (arena.settle reply outcome).2 := by
  rcases settle_cases reply outcome with ⟨value, changed, done, same⟩ | ⟨fault, _, same⟩
  · rw [same]
    exact kept value changed done
  · rw [same]
    exact before

theorem map_unit_eq_ok_iff {outcome : Except ArenaFault Arena} (value : Unit) :
    outcome.map ((), ·) = .ok (value, after) ↔ outcome = .ok after := by
  cases outcome <;> simp [Except.map]

theorem WellFormed.perform (wellFormed : arena.WellFormed) (call : ArenaCall) :
    (arena.perform call).2.WellFormed := by
  cases call with
  | beginBody name => exact settle_keeps wellFormed fun _ _ => wellFormed.beginBody
  | endBody name size => exact settle_keeps wellFormed fun _ _ => wellFormed.endBody
  | takeCode size align => exact settle_keeps wellFormed fun _ _ => wellFormed.takeCode
  | takeStub size align => exact settle_keeps wellFormed fun _ _ => wellFormed.takeStub
  | takeData size align => exact settle_keeps wellFormed fun _ _ => wellFormed.takeData
  | takeGot => exact settle_keeps wellFormed fun _ _ => wellFormed.takeGot
  | gotAddress => exact wellFormed
  | setWritable => exact { wellFormed with }
  | setExecutable => exact { wellFormed with }
  | refusedProtection fault => exact wellFormed
  | reset => exact wellFormed_reset arena
  | removeBody name =>
      exact settle_keeps wellFormed fun value _ done =>
        wellFormed.removeBody ((map_unit_eq_ok_iff value).mp done)
  | findBody name => exact wellFormed
  | bodies => exact wellFormed
  | write address bytes =>
      exact settle_keeps wellFormed fun value _ done =>
        wellFormed.write ((map_unit_eq_ok_iff value).mp done)
  | read address size => exact wellFormed

theorem WellFormed.performAll (wellFormed : arena.WellFormed) (calls : List ArenaCall) :
    (arena.performAll calls).WellFormed := by
  induction calls generalizing arena with
  | nil => exact wellFormed
  | cons call rest ih => exact ih (wellFormed.perform call)

theorem WellFormed.stubCursor_le (wellFormed : arena.WellFormed) :
    arena.stubCursor ≤ arena.lease.size :=
  Nat.le_trans wellFormed.stubs (Nat.le_trans wellFormed.data wellFormed.inside)

theorem WellFormed.body_inside (wellFormed : arena.WellFormed) {body : Body}
    (member : body ∈ arena.bodies) :
    arena.lease.address ≤ body.start ∧ body.start ≤ body.stop ∧
      body.stop ≤ arena.lease.address + arena.lease.size := by
  obtain ⟨above, order, below⟩ := wellFormed.placed body member
  have code := wellFormed.code
  have stubs := wellFormed.stubs
  have data := wellFormed.data
  have inside := wellFormed.inside
  unfold base at above below
  omega

theorem WellFormed.body_inCode (wellFormed : arena.WellFormed) {body : Body}
    (member : body ∈ arena.bodies) :
    arena.base ≤ body.start ∧ body.start ≤ body.stop ∧
      body.stop ≤ arena.base + arena.codeSize := by
  obtain ⟨above, order, below⟩ := wellFormed.placed body member
  have code := wellFormed.code
  have stubs := wellFormed.stubs
  omega

/-! ### The mapping -/

/-- Only removing a body and writing touch the lease, and of it only the bytes. -/
inductive LeaseStep (before : Arena) : Arena → Prop
  | kept {after : Arena} (same : after.lease = before.lease) : LeaseStep before after
  | removed {after : Arena} {name : String} (removal : before.removeBody name = .ok after) :
      LeaseStep before after
  | written {after : Arena} {address : Nat} {bytes : Bytes}
      (done : before.write address bytes = .ok after) : LeaseStep before after

theorem leaseStep_perform (arena : Arena) (call : ArenaCall) :
    LeaseStep arena (arena.perform call).2 := by
  cases call with
  | beginBody name =>
      refine settle_keeps (.kept rfl) fun _ _ done => ?_
      obtain ⟨_, _, _, _, rfl⟩ := beginBody_eq_ok_iff.mp done
      exact .kept rfl
  | endBody name size =>
      refine settle_keeps (.kept rfl) fun _ _ done => ?_
      obtain ⟨_, _, _, _, _, rfl⟩ := endBody_eq_ok_iff.mp done
      exact .kept rfl
  | takeCode size align =>
      refine settle_keeps (.kept rfl) fun _ _ done => ?_
      obtain ⟨_, _, _, _, _, _, rfl⟩ := takeCode_eq_ok_iff.mp done
      exact .kept rfl
  | takeStub size align =>
      refine settle_keeps (.kept rfl) fun _ _ done => ?_
      obtain ⟨_, _, _, _, _, rfl⟩ := takeStub_eq_ok_iff.mp done
      exact .kept rfl
  | takeData size align =>
      refine settle_keeps (.kept rfl) fun _ _ done => ?_
      obtain ⟨_, _, _, _, rfl⟩ := takeData_eq_ok_iff.mp done
      exact .kept rfl
  | takeGot =>
      refine settle_keeps (.kept rfl) fun _ _ done => ?_
      obtain ⟨_, _, stub, rfl⟩ := takeGot_eq_ok_iff.mp done
      obtain ⟨_, _, _, _, _, rfl⟩ := takeStub_eq_ok_iff.mp stub
      exact .kept rfl
  | removeBody name =>
      exact settle_keeps (.kept rfl) fun value _ done =>
        .removed ((map_unit_eq_ok_iff value).mp done)
  | write address bytes =>
      exact settle_keeps (.kept rfl) fun value _ done =>
        .written ((map_unit_eq_ok_iff value).mp done)
  | gotAddress => exact .kept rfl
  | setWritable => exact .kept rfl
  | setExecutable => exact .kept rfl
  | refusedProtection fault => exact .kept rfl
  | reset => exact .kept rfl
  | findBody name => exact .kept rfl
  | bodies => exact .kept rfl
  | read address size => exact .kept rfl

/-- The arena works on the mapping of a lease. -/
structure Occupies (lease : Lease) (arena : Arena) : Prop where
  table : arena.lease.table = lease.table
  address : arena.lease.address = lease.address
  slot : arena.lease.slot = lease.slot

theorem occupies_ofLease (lease : Lease) : (ofLease lease).Occupies lease := ⟨rfl, rfl, rfl⟩

theorem Occupies.size_eq {lease : Lease} (occupies : arena.Occupies lease) :
    arena.lease.size = lease.size :=
  congrArg (fun table => table.layout.slotSize) occupies.table

theorem Occupies.codeSize_eq {lease : Lease} (occupies : arena.Occupies lease) :
    arena.codeSize = lease.layout.codeSize :=
  congrArg (fun table => table.layout.codeSize) occupies.table

theorem Occupies.perform {lease : Lease} (occupies : arena.Occupies lease) (call : ArenaCall) :
    (arena.perform call).2.Occupies lease := by
  cases leaseStep_perform arena call with
  | kept same => exact ⟨same ▸ occupies.table, same ▸ occupies.address, same ▸ occupies.slot⟩
  | removed removal =>
      obtain ⟨_, _, _, _, same⟩ := removeBody_eq_ok_iff.mp removal
      rw [same]
      exact { occupies with }
  | written done =>
      obtain ⟨_, _, same⟩ := write_eq_ok_iff.mp done
      rw [same]
      exact { occupies with }

theorem Occupies.performAll {lease : Lease} (occupies : arena.Occupies lease)
    (calls : List ArenaCall) : (arena.performAll calls).Occupies lease := by
  induction calls generalizing arena with
  | nil => exact occupies
  | cons call rest ih => exact ih (occupies.perform call)

/-- The mapping has as many bytes as its layout says. -/
def Whole (arena : Arena) : Prop := arena.lease.content.size = arena.lease.size

theorem WellFormed.whole_removeBody (wellFormed : arena.WellFormed) (whole : arena.Whole)
    (removal : arena.removeBody name = .ok after) : after.Whole := by
  obtain ⟨_, _, removed, found, rfl⟩ := removeBody_eq_ok_iff.mp removal
  have extent := wellFormed.placed removed (List.mem_of_find?_eq_some found)
  have code := wellFormed.code
  have stubs := wellFormed.stubs
  have data := wellFormed.data
  have inside := wellFormed.inside
  change (arena.closeUp removed).size = arena.lease.size
  unfold Whole at whole
  rw [Content.size_eq] at whole ⊢
  simp only [closeUp, Content.bytes_append, Content.bytes_take, Content.bytes_part,
    Content.bytes_zeros, Content.bytes_drop, Bytes.part, List.length_append, List.length_take,
    List.length_drop, Bytes.length_zeros, Body.size, whole]
  omega

theorem Whole.write (whole : arena.Whole) {address : Nat} {bytes : Bytes}
    (written : arena.write address bytes = .ok after) : after.Whole := by
  obtain ⟨contains, _, rfl⟩ := write_eq_ok_iff.mp written
  simp only [Lease.contains, Bool.and_eq_true, decide_eq_true_eq] at contains
  change (arena.lease.content.overwrite (address - arena.lease.address) bytes).size =
    arena.lease.size
  unfold Whole at whole
  rw [Content.size_eq] at whole ⊢
  rw [Content.bytes_overwrite, Bytes.length_overwrite, whole]
  omega

theorem WellFormed.whole_perform (wellFormed : arena.WellFormed) (whole : arena.Whole)
    (call : ArenaCall) : (arena.perform call).2.Whole := by
  cases leaseStep_perform arena call with
  | kept same =>
      unfold Whole
      rw [same]
      exact whole
  | removed removal => exact wellFormed.whole_removeBody whole removal
  | written done => exact whole.write done

theorem WellFormed.whole_performAll (wellFormed : arena.WellFormed) (whole : arena.Whole)
    (calls : List ArenaCall) : (arena.performAll calls).Whole := by
  induction calls generalizing arena with
  | nil => exact whole
  | cons call rest ih => exact ih (wellFormed.perform call) (wellFormed.whole_perform whole call)

end Arena

/-- A dialogue leads where some calls in turn lead. -/
theorem Emission.run_eq_performAll {α : Type} (emission : Emission α) (arena : Arena) :
    ∃ calls, (emission.run arena).2.2 = arena.performAll calls := by
  induction emission generalizing arena with
  | finish result => exact ⟨[], rfl⟩
  | ask call next ih =>
      obtain ⟨calls, same⟩ := ih (arena.perform call).1 (arena.perform call).2
      exact ⟨call :: calls, same⟩

end KernelStore
