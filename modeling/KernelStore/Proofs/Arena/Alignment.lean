import KernelStore.Proofs.Arena.Compaction
import KernelStore.Proofs.Arena.Ledger
import KernelStore.Proofs.Rounding

/-!
What becomes of alignment. A block is handed out at a multiple of its unit, but bodies that are
removed below it move it down by their sizes, which need not be multiples. Main statement: after
every run a block lies below where it was handed out by just the sizes that have been removed
below it since, and so is aligned just if their sum is.
-/

namespace KernelStore

/-- A block of the code region, and how it has come where it is. -/
structure TrackedBlock extends CodeBlock where
  /-- What its address was asked to be a multiple of. -/
  unit : Nat
  /-- Where it was handed out. -/
  address : Nat
  /-- The sizes of the bodies that have been removed below it since, the last one first. -/
  passed : List Nat := []
  deriving DecidableEq

namespace TrackedBlock

def lower (size : Nat) (block : TrackedBlock) : TrackedBlock :=
  { block with toCodeBlock := block.toCodeBlock.lower size, passed := size :: block.passed }

/-- Takes a body out; every block taken later moves down by its size. -/
def remove (name : String) : List TrackedBlock → List TrackedBlock
  | [] => []
  | block :: rest =>
      if block.name = some name then rest.map (lower block.span.size)
      else block :: remove name rest

/-- The blocks after a call and its reply. -/
def record (blocks : List TrackedBlock) :
    ArenaCall → Except ArenaFault ArenaReply → List TrackedBlock
  | .endBody _ _, .ok (.body body) =>
      blocks ++ [⟨⟨some body.name, ⟨body.start, body.size⟩⟩, 1, body.start, []⟩]
  | .takeCode _ align, .ok (.block block) =>
      blocks ++ [⟨⟨none, block.span⟩, max align 1, block.address, []⟩]
  | .removeBody name, .ok _ => remove name blocks
  | .reset, .ok _ => []
  | _, _ => blocks

/-- The blocks after calls in turn. -/
def run (arena : Arena) (blocks : List TrackedBlock) : List ArenaCall → List TrackedBlock
  | [] => blocks
  | call :: rest => run (arena.perform call).2 (record blocks call (arena.perform call).1) rest

/-- It was handed out aligned, and has been moved by what was removed below it. -/
structure Descends (block : TrackedBlock) : Prop where
  aligned : block.unit ∣ block.address
  moved : block.span.start + block.passed.sum = block.address

variable {blocks : List TrackedBlock} {ledger : Ledger} {arena : Arena}

/-! ### Removal -/

theorem map_remove (name : String) (blocks : List TrackedBlock) :
    (remove name blocks).map toCodeBlock = removeNamed name (blocks.map toCodeBlock) := by
  induction blocks with
  | nil => rfl
  | cons block rest ih =>
      rw [List.map_cons, remove, removeNamed]
      by_cases named : block.name = some name
      · rw [if_pos named, if_pos named, List.map_map, List.map_map]
        rfl
      · rw [if_neg named, if_neg named, List.map_cons, ih]

theorem Descends.lower {block : TrackedBlock} (descends : block.Descends) {size : Nat}
    (above : size ≤ block.span.start) : (block.lower size).Descends := by
  refine ⟨descends.aligned, ?_⟩
  change block.span.start - size + (size :: block.passed).sum = block.address
  have moved := descends.moved
  rw [List.sum_cons]
  omega

/-- Blocks above the removed one begin far enough up to be moved down by its size. -/
theorem descends_remove (name : String)
    (order : (blocks.map toCodeBlock).Pairwise fun first second =>
      first.span.stop ≤ second.span.start)
    (descend : ∀ block ∈ blocks, block.Descends) :
    ∀ block ∈ remove name blocks, block.Descends := by
  induction blocks with
  | nil => exact descend
  | cons removed rest ih =>
      obtain ⟨beyond, restOrder⟩ := List.pairwise_cons.mp order
      have first := descend removed List.mem_cons_self
      have others : ∀ block ∈ rest, block.Descends := fun block member =>
        descend block (List.mem_cons_of_mem _ member)
      intro block member
      rw [remove] at member
      by_cases named : removed.name = some name
      · rw [if_pos named] at member
        obtain ⟨original, later, rfl⟩ := List.mem_map.mp member
        have room : removed.span.start + removed.span.size ≤ original.span.start :=
          beyond original.toCodeBlock (List.mem_map_of_mem later)
        exact (others original later).lower (by omega)
      · rw [if_neg named] at member
        rcases List.mem_cons.mp member with same | later
        · exact same ▸ first
        · exact ih restOrder others block later

/-! ### Steps -/

theorem record_error (blocks : List TrackedBlock) (call : ArenaCall) (fault : ArenaFault) :
    record blocks call (.error fault) = blocks := by
  cases call <;> rfl

/-- The blocks are tracked along with the ledger. -/
theorem map_record (same : blocks.map toCodeBlock = ledger.code) (call : ArenaCall)
    (reply : Except ArenaFault ArenaReply) :
    (record blocks call reply).map toCodeBlock = (ledger.record call reply).code := by
  cases reply with
  | error fault =>
      rw [record_error, Ledger.record_error]
      exact same
  | ok answer =>
      cases call with
      | endBody name size =>
          cases answer with
          | body body =>
              change (blocks ++ [_]).map toCodeBlock = ledger.code ++ [_]
              rw [List.map_append, same]
              rfl
          | _ => exact same
      | takeCode size align =>
          cases answer with
          | block block =>
              change (blocks ++ [_]).map toCodeBlock = ledger.code ++ [_]
              rw [List.map_append, same]
              rfl
          | _ => exact same
      | removeBody name =>
          change (remove name blocks).map toCodeBlock = removeNamed name ledger.code
          rw [map_remove, same]
      | reset => rfl
      | takeStub size align => cases answer <;> exact same
      | takeData size align => cases answer <;> exact same
      | takeGot => cases answer <;> exact same
      | _ => exact same

theorem descends_append {block : TrackedBlock} (descend : ∀ block ∈ blocks, block.Descends)
    (last : block.Descends) : ∀ other ∈ blocks ++ [block], other.Descends := by
  intro other member
  rcases List.mem_append.mp member with earlier | same
  · exact descend other earlier
  · exact List.mem_singleton.mp same ▸ last

theorem descends_takeCode {size align : Nat} {block : Block} {after : Arena}
    (taken : arena.takeCode size align = .ok (block, after)) :
    Descends ⟨⟨none, block.span⟩, max align 1, block.address, []⟩ := by
  obtain ⟨_, _, unit, aligned, _, rfl, _⟩ := Arena.takeCode_eq_ok_iff.mp taken
  refine ⟨?_, rfl⟩
  have above := le_roundUp (arena.base + arena.codeCursor) unit
  have positive : 0 < max align 1 := by omega
  have least := isLeast_roundUp (arena.base + arena.codeCursor) positive
  have address : (arena.block (roundUp (arena.base + arena.codeCursor) unit - arena.base)
      size).address = roundUp (arena.base + arena.codeCursor) (max align 1) := by
    rw [← Arena.unit_eq_max aligned]
    change arena.base + (_ - arena.base) = _
    omega
  rw [address]
  exact least.1.1

theorem descends_settle {α : Type} {call : ArenaCall} {reply : α → ArenaReply}
    {outcome : Except ArenaFault (α × Arena)} (descend : ∀ block ∈ blocks, block.Descends)
    (kept : ∀ value changed, outcome = .ok (value, changed) →
      ∀ block ∈ record blocks call (.ok (reply value)), block.Descends) :
    ∀ block ∈ record blocks call (arena.settle reply outcome).1, block.Descends := by
  rcases Arena.settle_cases reply outcome with ⟨value, changed, done, same⟩ | ⟨fault, _, same⟩
  · rw [same]
    exact kept value changed done
  · rw [same, record_error]
    exact descend

theorem descends_perform (accounts : ledger.Accounts arena)
    (same : blocks.map toCodeBlock = ledger.code) (descend : ∀ block ∈ blocks, block.Descends)
    (call : ArenaCall) :
    ∀ block ∈ record blocks call (arena.perform call).1, block.Descends := by
  cases call with
  | endBody name size =>
      exact descends_settle descend fun _ _ _ =>
        descends_append descend ⟨Nat.one_dvd _, rfl⟩
  | takeCode size align =>
      exact descends_settle descend fun _ _ done =>
        descends_append descend (descends_takeCode done)
  | removeBody name =>
      exact descends_settle descend fun _ _ _ =>
        descends_remove name (same ▸ accounts.codeOrder) descend
  | reset => exact nofun
  | _ => exact descend

/-! ### Runs -/

theorem descends_run (accounts : ledger.Accounts arena) (wellFormed : arena.WellFormed)
    (same : blocks.map toCodeBlock = ledger.code)
    (descend : ∀ block ∈ blocks, block.Descends) (calls : List ArenaCall) :
    (run arena blocks calls).map toCodeBlock = (Ledger.run arena ledger calls).2.code ∧
      ∀ block ∈ run arena blocks calls, block.Descends := by
  induction calls generalizing arena blocks ledger with
  | nil => exact ⟨same, descend⟩
  | cons call rest ih =>
      exact ih (accounts.perform wellFormed call) (wellFormed.perform call)
        (map_record same call _) (descends_perform accounts same descend call)

/-- After any calls, every block of the code region that has been handed out since the last reset
and not been removed lies below its aligned start by the sizes of the bodies removed below it
since. It is aligned just if these add up to a multiple, and so if each of them is one. -/
theorem alignment_after_run (lease : Lease) (calls : List ArenaCall) :
    let blocks := run (.ofLease lease) [] calls
    blocks.map toCodeBlock = (Ledger.run (.ofLease lease) {} calls).2.code ∧
      ∀ block ∈ blocks, block.unit ∣ block.address ∧
        block.span.start + block.passed.sum = block.address ∧
        (block.unit ∣ block.span.start ↔ block.unit ∣ block.passed.sum) ∧
        ((∀ size ∈ block.passed, block.unit ∣ size) → block.unit ∣ block.span.start) := by
  intro blocks
  have first : ∀ block ∈ ([] : List TrackedBlock), block.Descends := nofun
  obtain ⟨same, descend⟩ := descends_run (Ledger.accounts_ofLease lease)
    (Arena.wellFormed_ofLease lease) rfl first calls
  refine ⟨same, ?_⟩
  intro block member
  obtain ⟨aligned, moved⟩ := descend block member
  have dividesAlike : block.unit ∣ block.span.start ↔ block.unit ∣ block.passed.sum := by
    rw [← moved] at aligned
    exact ⟨fun start => (Nat.dvd_add_right start).mp aligned,
      fun sum => (Nat.dvd_add_left sum).mp aligned⟩
  exact ⟨aligned, moved, dividesAlike, fun each => dividesAlike.mpr (List.dvd_sum each)⟩

/-- A body of three bytes, and behind it eight bytes that start at a multiple of eight. -/
def unsettling : List ArenaCall :=
  [.beginBody "f", .endBody "f" 3, .takeCode 8 8, .write 0x400008 (List.replicate 8 0xaa),
    .removeBody "f"]

/-- Removing the body moves the block off its alignment, and its bytes with it. -/
theorem alignment_not_kept :
    run (.ofLease Arena.twoPages) [] (unsettling.take 4) =
        [⟨⟨some "f", ⟨0x400000, 3⟩⟩, 1, 0x400000, []⟩, ⟨⟨none, ⟨0x400008, 8⟩⟩, 8, 0x400008, []⟩] ∧
      run (.ofLease Arena.twoPages) [] unsettling =
        [⟨⟨none, ⟨0x400005, 8⟩⟩, 8, 0x400008, [3]⟩] ∧
      ((Arena.ofLease Arena.twoPages).performAll unsettling).lease.bytes.part 5 8 =
        List.replicate 8 0xaa ∧
      ¬∀ block ∈ run (.ofLease Arena.twoPages) [] unsettling, block.unit ∣ block.span.start := by
  have moved : run (.ofLease Arena.twoPages) [] unsettling =
      [⟨⟨none, ⟨0x400005, 8⟩⟩, 8, 0x400008, [3]⟩] := by decide +kernel
  refine ⟨by decide +kernel, moved, by decide +kernel, ?_⟩
  rw [moved]
  decide

end TrackedBlock

end KernelStore
