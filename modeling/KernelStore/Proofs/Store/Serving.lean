import KernelStore.Proofs.Store.Persistence
import KernelStore.Proofs.Store.Stages

/-!
What serving a request leaves in the files: the new kernel's pair where the kernel was written, and
nothing new otherwise.
-/

namespace KernelStore

/-- A lease of a whole slot. -/
structure Lease.InSlot (lease : Lease) : Prop where
  address : ∃ index < lease.layout.count, lease.address = lease.layout.slotAddress index
  content : lease.content.size = lease.size

namespace Lease.InSlot

variable {lease : Lease}

theorem end_lt (inSlot : lease.InSlot) : lease.address + lease.content.size < addressLimit := by
  obtain ⟨index, inside, same⟩ := inSlot.address
  rw [same, inSlot.content]
  exact lease.layout.slotEnd_lt inside

/-- Both numbers of the lease that a header records are recorded without loss. -/
theorem toNat_address (inSlot : lease.InSlot) :
    (UInt64.ofNat lease.address).toNat = lease.address := by
  have bounded := inSlot.end_lt
  apply toNat_ofNat_of_lt
  omega

theorem toNat_size (inSlot : lease.InSlot) :
    (UInt64.ofNat lease.content.size).toNat = lease.content.size := by
  have bounded := inSlot.end_lt
  apply toNat_ofNat_of_lt
  omega

end Lease.InSlot

/-- The kernel that was compiled and written, if one was. -/
def Outcome.written? (outcome : Outcome) : Option Kernel :=
  match outcome.result with
  | .ok kernel => if kernel.origin = .compiled true then some kernel else none
  | .error _ => none

namespace Store

/-- The files hold a kernel that was just written. -/
structure Wrote (files : FileTree) (paths : StoredPaths) (kernel : Kernel) (after : FileTree) :
    Prop where
  inSlot : kernel.lease.InSlot
  replaced : ∃ file,
    kernel.metadata.encode (UInt64.ofNat kernel.lease.address) kernel.lease.content = .ok file ∧
      Persist.Replaced files paths (.ofBytes file) kernel.lease.content after

variable {store : Store} {files after : FileTree} {name : String}

theorem persist_cases {disk : Disk} {lease : Lease} {metadata : Metadata} {busy persisted : Bool}
    {reported : List Diagnostic}
    (apart : files.target (store.paths name).info ≠ files.target (store.paths name).object)
    (outcome : store.persist disk files name lease metadata busy = (persisted, after, reported)) :
    (persisted = true ∧ lease.isFixed = true ∧ ∃ file,
      metadata.encode (UInt64.ofNat lease.address) lease.content = .ok file ∧
        Persist.Replaced files (store.paths name) (.ofBytes file) lease.content after) ∨
    (persisted = false ∧ Persist.Lost files (store.paths name) after) := by
  cases persisting outcome with
  | unwanted reason => exact Or.inr ⟨rfl, .refl files _⟩
  | skipped enabled isFixed isBusy => exact Or.inr ⟨rfl, .refl files _⟩
  | failed enabled isFixed idle written =>
      rcases Persist.write_cases apart written with ⟨impossible, _⟩ | ⟨fault, _, lost⟩
      · cases impossible
      · exact Or.inr ⟨rfl, lost⟩
  | written enabled isFixed idle written =>
      rcases Persist.write_cases apart written with ⟨_, _, made⟩ | ⟨fault, impossible, _⟩
      · exact Or.inl ⟨rfl, isFixed, made⟩
      · cases impossible

/-- The slot of a granted lease, after calls on the arena in it. -/
theorem inSlot_performAll {memory held : Memory} {placement : Placement} {table : SlotTable}
    {lease : Lease} (granted : memory.Grants placement table lease held) (calls : List ArenaCall)
    (isFixed : ((Arena.ofLease lease).performAll calls).lease.isFixed = true) :
    ((Arena.ofLease lease).performAll calls).lease.InSlot := by
  obtain ⟨rfl, content, _, fixed, _⟩ := granted
  -- Calls on the arena change no more of the lease than its content, and not the size of that.
  have occupies := (Arena.occupies_ofLease lease).performAll calls
  have whole := (Arena.wellFormed_ofLease lease).whole_performAll content calls
  have layout : ((Arena.ofLease lease).performAll calls).lease.layout = lease.layout :=
    congrArg SlotTable.layout occupies.table
  rw [Lease.isFixed, occupies.slot] at isFixed
  obtain ⟨index, slot⟩ := Option.isSome_iff_exists.mp isFixed
  obtain ⟨inside, address, _⟩ := fixed index slot
  refine ⟨⟨index, ?_, ?_⟩, whole⟩
  · rw [layout]
    exact inside
  · rw [layout, occupies.address, address]
    rfl

variable {machine : Machine} {world : World} {request : CompileRequest} {generator : Generator}
  {busy : Bool}

/-- A kernel was made by calls on the arena in a fresh lease, and written if that was wanted. -/
structure Compiled (store : Store) (machine : Machine) (world : World) (request : CompileRequest)
    (busy : Bool) (kernel : Kernel) (after : World) : Prop where
  made : ∃ lease calls metadata,
    world.memory.allocate machine.placement store.table = .ok (lease, after.memory) ∧
      kernel.lease = ((Arena.ofLease lease).performAll calls).lease ∧
      kernel.metadata = store.complete request ((Arena.ofLease lease).performAll calls) metadata
  persisted : ∃ persisted reported, kernel.origin = .compiled persisted ∧
    store.persist machine.disk world.files request.name kernel.lease kernel.metadata busy =
      (persisted, after.files, reported)

theorem Compiled.inSlot {kernel : Kernel} {after : World}
    (compiled : store.Compiled machine world request busy kernel after)
    (isFixed : kernel.lease.isFixed = true) : kernel.lease.InSlot := by
  obtain ⟨lease, calls, metadata, allocated, same, _⟩ := compiled.made
  rw [same] at isFixed ⊢
  exact inSlot_performAll (Memory.allocate_grants allocated) calls isFixed

/-- Compiling yields a kernel that was made so, or changes no file. -/
theorem Compiling.result {outcome : Outcome}
    (compiling : Compiling store machine world request generator busy outcome) :
    (∃ kernel, outcome.result = .ok kernel ∧
      store.Compiled machine world request busy kernel outcome.world) ∨
    ∃ fault, outcome.result = .error fault ∧ outcome.world.files = world.files := by
  cases compiling with
  | refused allocated => exact Or.inr ⟨_, rfl, rfl⟩
  | notWritable allocated protection => exact Or.inr ⟨_, rfl, rfl⟩
  | failed allocated ran => exact Or.inr ⟨_, rfl, rfl⟩
  | notExecutable allocated ran protection => exact Or.inr ⟨_, rfl, rfl⟩
  | made allocated ran persisting =>
      rename_i lease memory exchanges metadata emitted persisted files reported
      obtain ⟨calls, called⟩ := Emission.run_eq_performAll
        (generator (store.asked request) (Arena.ofLease lease)) (Arena.ofLease lease)
      change (store.dialogue request generator lease).2.2 = _ at called
      rw [ran] at called
      subst called
      left
      exact ⟨_, rfl, ⟨lease, calls, metadata, allocated, rfl, rfl⟩,
        ⟨persisted, reported, rfl, persisting⟩⟩

theorem Compiling.written {outcome : Outcome}
    (apart : world.files.target (store.paths request.name).info ≠
      world.files.target (store.paths request.name).object)
    (compiling : Compiling store machine world request generator busy outcome) :
    (∃ kernel, outcome.written? = some kernel ∧
      Wrote world.files (store.paths request.name) kernel outcome.world.files) ∨
    (outcome.written? = none ∧
      Persist.Lost world.files (store.paths request.name) outcome.world.files) := by
  rcases compiling.result with ⟨kernel, result, made⟩ | ⟨fault, result, same⟩
  · obtain ⟨persisted, reported, origin, persisting⟩ := made.persisted
    rcases persist_cases apart persisting with ⟨rfl, isFixed, file, encoded, replaced⟩ | ⟨rfl, lost⟩
    · left
      refine ⟨kernel, ?_, made.inSlot isFixed, file, encoded, replaced⟩
      simp [Outcome.written?, result, origin]
    · right
      refine ⟨?_, lost⟩
      simp [Outcome.written?, result, origin]
  · right
    rw [same]
    refine ⟨?_, .refl _ _⟩
    simp [Outcome.written?, result]

/-- Serving writes a kernel's pair whole, or nothing new. -/
theorem serve_cases {outcome : Outcome}
    (apart : world.files.target (store.paths request.name).info ≠
      world.files.target (store.paths request.name).object)
    (served : store.serve machine world request generator = outcome) :
    (∃ kernel, outcome.written? = some kernel ∧
      Wrote world.files (store.paths request.name) kernel outcome.world.files) ∨
    (outcome.written? = none ∧
      Persist.Lost world.files (store.paths request.name) outcome.world.files) := by
  have serving := store.serving machine world request generator
  rw [served] at serving
  cases serving with
  | found enabled notForced loaded => exact Or.inr ⟨rfl, .refl _ _⟩
  | compiled recovers compiling =>
      have files : (store.afterMiss machine.placement world request).files = world.files := rfl
      rw [← files] at apart
      have written := compiling.written apart
      exact written

/-! ### Stored kernels -/

theorem Compiling.eq_ok {outcome : Outcome} {kernel : Kernel}
    (compiling : Compiling store machine world request generator busy outcome)
    (result : outcome.result = .ok kernel) :
    store.Compiled machine world request busy kernel outcome.world := by
  rcases compiling.result with ⟨other, same, made⟩ | ⟨fault, same, _⟩
  · cases same.symm.trans result
    exact made
  · cases same.symm.trans result

theorem Compiled.origin_ne {kernel : Kernel} {after : World}
    (compiled : store.Compiled machine world request busy kernel after) :
    kernel.origin ≠ .stored := by
  obtain ⟨persisted, _, origin, _⟩ := compiled.persisted
  intro same
  cases origin.symm.trans same

/-- A kernel that is served without being compiled was found in the files. -/
theorem serve_stored {kernel : Kernel}
    (served : (store.serve machine world request generator).result = .ok kernel)
    (stored : kernel.origin = .stored) :
    ∃ found memory, Lookup.load world.files world.memory machine.placement store.table
        (store.paths request.name) (store.wanted request) = (.ok found, memory) ∧
      kernel = ⟨found.metadata, found.lease, .stored⟩ := by
  have serving := store.serving machine world request generator
  generalize store.serve machine world request generator = outcome at serving served
  cases serving with
  | found enabled notForced loaded =>
      cases served
      exact ⟨_, _, loaded, rfl⟩
  | compiled recovers compiling => exact absurd stored (compiling.eq_ok served).origin_ne

/-- A kernel that was not in the files was compiled. -/
theorem serve_compiled {kernel : Kernel}
    (served : (store.serve machine world request generator).result = .ok kernel)
    (made : kernel.origin ≠ .stored) :
    ∃ busy, store.Compiled machine (store.afterMiss machine.placement world request) request busy
      kernel (store.serve machine world request generator).world := by
  have serving := store.serving machine world request generator
  generalize store.serve machine world request generator = outcome at serving served ⊢
  cases serving with
  | found enabled notForced loaded =>
      cases served
      exact absurd rfl made
  | compiled recovers compiling => exact ⟨_, compiling.eq_ok served⟩

end Store

end KernelStore
