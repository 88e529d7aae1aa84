import KernelStore.Proofs.Store.Coherence
import KernelStore.Proofs.Store.Stages

/-!
What looking up and serving do to memory. Main statement: a miss or a fault leaves all marks and
mappings as they were, and otherwise memory gains the kernel's lease and nothing else. Where the
system does not unmap a lease that is dropped on the way, that lease is all that is left besides.
-/

namespace KernelStore

namespace Memory

variable {memory after : Memory} {lease : Lease}

/-- Emitting into a mapping leaves it where it is. -/
theorem Gains.occupied {arena : Arena} (gains : memory.Gains lease after)
    (occupies : arena.Occupies lease) : memory.Gains arena.lease after := by
  have span : arena.lease.span = lease.span := by
    unfold Lease.span Lease.size Lease.layout
    rw [occupies.table, occupies.address]
  have undone : after.release arena.lease = after.release lease := by
    unfold release
    rw [span, occupies.slot, occupies.table]
  obtain ⟨tables, live, vacant, marks, back⟩ := gains
  rw [← occupies.table, ← occupies.slot] at vacant marks
  rw [← span] at live
  exact ⟨tables, live, vacant, marks, undone.trans back⟩

end Memory

section

-- How a memory follows another if all that has been leased in between was dropped.
variable (leaves : Memory → Memory → Prop)

/-- What a lookup does to memory: it leases the slot that the metadata names, or misses and drops what
it has leased by then. It has leased nothing before it compares the parity. -/
def Lookup.Settles (memory : Memory) (table : SlotTable) : Except Miss Found × Memory → Prop
  | (.error miss, after) => leaves memory after ∧
      (miss.stage ≠ .checksumValidated → after = memory)
  | (.ok found, after) => memory.Gains found.lease after ∧ found.lease.table = table ∧
      found.lease.isFixed = true ∧
      found.lease.slot = table.layout.slotIndex? found.header.imageAddress.toNat

/-- What serving does to the world once a lookup has dropped what it has leased: nothing that is not
dropped if it fails, and otherwise memory gains the kernel's lease until the kernel is dropped. -/
def Outcome.Settles (world : World) (placement : Placement) (table : SlotTable)
    (outcome : Outcome) : Prop :=
  ∃ memory, leaves world.memory memory ∧
    match outcome.result with
    | .error _ => outcome.world.files = world.files ∧ leaves memory outcome.world.memory
    | .ok kernel => memory.Gains kernel.lease outcome.world.memory ∧
        kernel.lease.table = table ∧
        leaves memory (outcome.world.memory.drop placement kernel.lease)

/-- What a lookup and a request do to memory. -/
def Store.Settles (store : Store) (machine : Machine) (world : World) (request : CompileRequest)
    (generator : Generator) : Prop :=
  (∀ paths wanted, Lookup.Settles leaves world.memory store.table
    (Lookup.load world.files world.memory machine.placement store.table paths wanted)) ∧
  (store.serve machine world request generator).Settles leaves world machine.placement store.table

end

section

variable {leaves other : Memory → Memory → Prop}
  (weaker : ∀ before after, leaves before after → other before after)

include weaker

theorem Lookup.Settles.imp {memory : Memory} {table : SlotTable}
    {loaded : Except Miss Found × Memory} (settles : Settles leaves memory table loaded) :
    Settles other memory table loaded := by
  obtain ⟨result, after⟩ := loaded
  cases result with
  | error miss => exact ⟨weaker _ _ settles.1, settles.2⟩
  | ok found => exact settles

theorem Outcome.Settles.imp {world : World} {placement : Placement} {table : SlotTable}
    {outcome : Outcome} (settles : outcome.Settles leaves world placement table) :
    outcome.Settles other world placement table := by
  unfold Settles at settles ⊢
  obtain ⟨memory, left, ended⟩ := settles
  refine ⟨memory, weaker _ _ left, ?_⟩
  cases result : outcome.result with
  | error fault =>
      rw [result] at ended
      exact ⟨ended.1, weaker _ _ ended.2⟩
  | ok kernel =>
      rw [result] at ended
      exact ⟨ended.1, ended.2.1, weaker _ _ ended.2.2⟩

end

namespace Store

variable {store : Store} {machine : Machine} {world : World} {request : CompileRequest}
  {generator : Generator} {busy : Bool} {outcome : Outcome}

/-- Whichever way compiling fails, what was leased for it is dropped. -/
theorem Compiling.settles {now : World} (files : now.files = world.files)
    (recovers : world.memory.Recovers machine.placement store.table now.memory)
    (compiling : Compiling store machine now request generator busy outcome) :
    outcome.Settles (Memory.Recovers machine.placement store.table) world machine.placement
      store.table := by
  refine ⟨now.memory, recovers, ?_⟩
  cases compiling with
  | refused allocated => exact ⟨files, .whole⟩
  | notWritable allocated protection =>
      have granted := Memory.allocate_grants allocated
      exact ⟨files, granted.gains.drop granted.owner _⟩
  | failed allocated ran =>
      have granted := Memory.allocate_grants allocated
      exact ⟨files, granted.gains.drop granted.owner _⟩
  | notExecutable allocated ran protection =>
      have granted := Memory.allocate_grants allocated
      exact ⟨files, granted.gains.drop granted.owner _⟩
  | made allocated ran persisting =>
      rename_i lease memory exchanges metadata emitted persisted files reported
      have granted := Memory.allocate_grants allocated
      have occupies : emitted.Occupies lease := dialogue_occupies ran
      have gains := granted.gains.occupied occupies
      have owner : emitted.lease.table = store.table := occupies.table.trans granted.owner
      exact ⟨gains, owner, gains.drop owner _⟩

end Store

end KernelStore
