import KernelStore.Proofs.Arena.Invariant
import KernelStore.Proofs.Store.Lookups
import KernelStore.Store.Compile

/-!
How far serving a request gets. Each way through writing, through compiling and through serving is one
constructor, which holds what happened on that way and the outcome it has.
-/

namespace KernelStore

/-- A dialogue with an arena leads to an arena on the same mapping. -/
theorem Emission.run_occupies {α : Type} (emission : Emission α) (lease : Lease) :
    (emission.run (Arena.ofLease lease)).2.2.Occupies lease := by
  obtain ⟨calls, same⟩ := emission.run_eq_performAll (Arena.ofLease lease)
  rw [same]
  exact (Arena.occupies_ofLease lease).performAll calls

namespace Arena

variable {arena : Arena} {lease : Lease} {placement : Placement} {writable : Bool}
  {fault : SystemFault}

/-- Code stays where it was leased, however it is emitted. -/
theorem Occupies.code (occupies : arena.Occupies lease) : arena.lease.code = lease.code := by
  unfold Lease.code Lease.layout
  rw [occupies.table, occupies.address]

theorem Occupies.protect_of_some (occupies : arena.Occupies lease)
    (refused : placement.protectFault? lease.code writable = some fault) :
    arena.protect placement writable = .error (.protection fault) := by
  rw [protect, occupies.code, refused]

theorem Occupies.protect_of_none (occupies : arena.Occupies lease)
    (granted : placement.protectFault? lease.code writable = none) :
    arena.protect placement writable =
      .ok (if writable then arena.setWritable else arena.setExecutable) := by
  rw [protect, occupies.code, granted]

theorem onLease_of_some (refused : placement.protectFault? lease.code true = some fault) :
    onLease placement lease = .error (.protection fault) :=
  (occupies_ofLease lease).protect_of_some refused

theorem onLease_of_none (granted : placement.protectFault? lease.code true = none) :
    onLease placement lease = .ok (ofLease lease) :=
  (occupies_ofLease lease).protect_of_none granted

end Arena

namespace Store

/-! ### Writing -/

/-- What becomes of the files of a kernel that was compiled: whether they are written, the files
after that, and what is reported. -/
inductive Persisting (store : Store) (disk : Disk) (files : FileTree) (name : String)
    (lease : Lease) (metadata : Metadata) (busy : Bool) :
    Bool → FileTree → List Diagnostic → Prop
  | unwanted (reason : store.toggles.enabled = false ∨ lease.isFixed = false) :
      Persisting store disk files name lease metadata busy false files []
  | skipped (enabled : store.toggles.enabled = true) (isFixed : lease.isFixed = true)
      (isBusy : busy = true) :
      Persisting store disk files name lease metadata busy false files [skippedDiagnostic name]
  | failed {fault : PersistFault} {after : FileTree} (enabled : store.toggles.enabled = true)
      (isFixed : lease.isFixed = true) (idle : busy = false)
      (written : Persist.write files disk (store.paths name) lease metadata =
        (.error fault, after)) :
      Persisting store disk files name lease metadata busy false after
        [failedDiagnostic name fault]
  | written {after : FileTree} (enabled : store.toggles.enabled = true)
      (isFixed : lease.isFixed = true) (idle : busy = false)
      (written : Persist.write files disk (store.paths name) lease metadata = (.ok (), after)) :
      Persisting store disk files name lease metadata busy true after []

variable {store : Store}

theorem persisting {disk : Disk} {files after : FileTree} {name : String} {lease : Lease}
    {metadata : Metadata} {busy persisted : Bool} {reported : List Diagnostic}
    (outcome : store.persist disk files name lease metadata busy = (persisted, after, reported)) :
    Persisting store disk files name lease metadata busy persisted after reported := by
  unfold persist at outcome
  split at outcome
  · rename_i unwanted
    cases outcome
    apply Persisting.unwanted
    simpa using unwanted
  rename_i wanted
  obtain ⟨enabled, isFixed⟩ : store.toggles.enabled = true ∧ lease.isFixed = true := by
    simpa using wanted
  split at outcome
  · rename_i isBusy
    cases outcome
    exact .skipped enabled isFixed isBusy
  rename_i notBusy
  have idle : busy = false := Bool.eq_false_iff.mpr notBusy
  cases written : Persist.write files disk (store.paths name) lease metadata with
  | mk result last =>
      rw [written] at outcome
      cases result with
      | ok done =>
          cases outcome
          exact .written enabled isFixed idle written
      | error fault =>
          cases outcome
          exact .failed enabled isFixed idle written

/-! ### Compiling -/

/-- The request as a generator is given it. -/
def asked (store : Store) (request : CompileRequest) : CompileRequest :=
  { request with precision := store.precisionFor request }

/-- The dialogue in which a generator compiles a request into a fresh lease. -/
def dialogue (store : Store) (request : CompileRequest) (generator : Generator) (lease : Lease) :
    List Exchange × Except String Metadata × Arena :=
  (generator (store.asked request) (.ofLease lease)).run (.ofLease lease)

/-- Whatever the generator does, its arena stays on the mapping that was leased. -/
theorem dialogue_occupies {store : Store} {request : CompileRequest} {generator : Generator}
    {lease : Lease} {exchanges : List Exchange} {result : Except String Metadata} {emitted : Arena}
    (ran : store.dialogue request generator lease = (exchanges, result, emitted)) :
    emitted.Occupies lease := by
  have occupies := (generator (store.asked request) (.ofLease lease)).run_occupies lease
  change (store.dialogue request generator lease).2.2.Occupies lease at occupies
  rw [ran] at occupies
  exact occupies

/-- What is reported of where a lease was placed. -/
def placedReport (name : String) (lease : Lease) : List Diagnostic :=
  if lease.isFixed then [] else [fallbackDiagnostic name lease.address]

inductive Compiling (store : Store) (machine : Machine) (world : World) (request : CompileRequest)
    (generator : Generator) (busy : Bool) : Outcome → Prop
  | refused {fault : LeaseFault}
      (allocated : world.memory.allocate machine.placement store.table = .error fault) :
      Compiling store machine world request generator busy { result := .error (.lease fault), world }
  | notWritable {lease : Lease} {memory : Memory} {fault : SystemFault}
      (allocated : world.memory.allocate machine.placement store.table = .ok (lease, memory))
      (protection : machine.placement.protectFault? lease.code true = some fault) :
      Compiling store machine world request generator busy
        { result := .error (.arena (.protection fault))
          world := { world with memory := memory.drop machine.placement lease }
          diagnostics := placedReport request.name lease }
  | failed {lease : Lease} {memory : Memory} {exchanges : List Exchange} {detail : String}
      {emitted : Arena}
      (allocated : world.memory.allocate machine.placement store.table = .ok (lease, memory))
      (ran : store.dialogue request generator lease = (exchanges, .error detail, emitted)) :
      Compiling store machine world request generator busy
        { result := .error (.generator detail)
          world := { world with memory := memory.drop machine.placement lease }
          diagnostics := placedReport request.name lease
          generation := some ⟨store.asked request, exchanges⟩ }
  | notExecutable {lease : Lease} {memory : Memory} {exchanges : List Exchange}
      {metadata : Metadata} {emitted : Arena} {fault : SystemFault}
      (allocated : world.memory.allocate machine.placement store.table = .ok (lease, memory))
      (ran : store.dialogue request generator lease = (exchanges, .ok metadata, emitted))
      (protection : machine.placement.protectFault? lease.code false = some fault) :
      Compiling store machine world request generator busy
        { result := .error (.arena (.protection fault))
          world := { world with memory := memory.drop machine.placement lease }
          diagnostics := placedReport request.name lease
          generation := some ⟨store.asked request, exchanges⟩ }
  | made {lease : Lease} {memory : Memory} {exchanges : List Exchange} {metadata : Metadata}
      {emitted : Arena} {persisted : Bool} {files : FileTree} {reported : List Diagnostic}
      (allocated : world.memory.allocate machine.placement store.table = .ok (lease, memory))
      (ran : store.dialogue request generator lease = (exchanges, .ok metadata, emitted))
      (persisting : store.persist machine.disk world.files request.name emitted.lease
        (store.complete request emitted metadata) busy = (persisted, files, reported)) :
      Compiling store machine world request generator busy
        { result := .ok ⟨store.complete request emitted metadata, emitted.lease,
            .compiled persisted⟩
          world := { files, memory }
          diagnostics := placedReport request.name lease ++ reported
          generation := some ⟨store.asked request, exchanges⟩ }

/-- Code that can no longer be written is the same code. -/
theorem persist_setExecutable (store : Store) (disk : Disk) (files : FileTree)
    (request : CompileRequest) (emitted : Arena) (metadata : Metadata) (busy : Bool) :
    store.persist disk files request.name emitted.setExecutable.lease
        (store.complete request emitted.setExecutable metadata) busy =
      store.persist disk files request.name emitted.lease
        (store.complete request emitted metadata) busy :=
  rfl

/-- What follows once a slot is leased whose code can be written. -/
theorem compiling_of_writable {store : Store} {machine : Machine} {world : World}
    {request : CompileRequest} {lease : Lease} {memory : Memory} (generator : Generator)
    (busy : Bool)
    (allocated : world.memory.allocate machine.placement store.table = .ok (lease, memory))
    (writable : machine.placement.protectFault? lease.code true = none) :
    Compiling store machine world request generator busy
      (store.compile machine world request generator busy) := by
  rw [compile, allocated]
  dsimp only
  rw [Arena.onLease_of_none writable]
  dsimp only
  cases ran : store.dialogue request generator lease with
  | mk exchanges rest =>
      obtain ⟨result, emitted⟩ := rest
      have same := ran
      unfold dialogue asked at same
      rw [same]
      cases result with
      | error detail => exact .failed allocated ran
      | ok metadata =>
          have occupies := dialogue_occupies ran
          dsimp only
          cases executable : machine.placement.protectFault? lease.code false with
          | some fault =>
              rw [occupies.protect_of_some executable]
              exact .notExecutable allocated ran executable
          | none =>
              rw [occupies.protect_of_none executable]
              dsimp only
              rw [if_neg Bool.false_ne_true, persist_setExecutable]
              cases persisting : store.persist machine.disk world.files request.name emitted.lease
                  (store.complete request emitted metadata) busy with
              | mk persisted rest =>
                  obtain ⟨files, reported⟩ := rest
                  have made := Compiling.made allocated ran persisting
                  exact made

theorem compiling (store : Store) (machine : Machine) (world : World) (request : CompileRequest)
    (generator : Generator) (busy : Bool) :
    Compiling store machine world request generator busy
      (store.compile machine world request generator busy) := by
  cases allocated : world.memory.allocate machine.placement store.table with
  | error fault =>
      rw [compile, allocated]
      exact .refused allocated
  | ok leased =>
      obtain ⟨lease, memory⟩ := leased
      cases writable : machine.placement.protectFault? lease.code true with
      | none => exact compiling_of_writable generator busy allocated writable
      | some fault =>
          rw [compile, allocated]
          dsimp only
          rw [Arena.onLease_of_some writable]
          exact .notWritable allocated writable

/-! ### Serving -/

/-- The miss that leads to compiling, if the files were consulted at all. -/
def missed? (store : Store) (placement : Placement) (world : World) (request : CompileRequest) :
    Option Miss :=
  if store.toggles.enabled && !store.toggles.forceRecompile then
    match (store.load placement world request).1 with
    | .ok _ => none
    | .error miss => some miss
  else none

/-- Whether the stored kernel could not be used because its slot is taken. -/
def isBusy (store : Store) (placement : Placement) (world : World) (request : CompileRequest) :
    Bool :=
  (store.missed? placement world request).any Miss.isSlotInUse

/-- What is reported of the lookup. -/
def missReport (store : Store) (placement : Placement) (world : World)
    (request : CompileRequest) : List Diagnostic :=
  ((store.missed? placement world request).map Miss.diagnostic).toList

/-- The world in which a kernel is compiled. A lookup has read the files, and may have left a mapping
that the system did not unmap. -/
def afterMiss (store : Store) (placement : Placement) (world : World) (request : CompileRequest) :
    World :=
  { world with
    memory :=
      if store.toggles.enabled && !store.toggles.forceRecompile then
        (store.load placement world request).2.memory
      else world.memory }

inductive Serving (store : Store) (machine : Machine) (world : World) (request : CompileRequest)
    (generator : Generator) : Outcome → Prop
  | found {found : Lookup.Found} {memory : Memory} (enabled : store.toggles.enabled = true)
      (notForced : store.toggles.forceRecompile = false)
      (loaded : Lookup.load world.files world.memory machine.placement store.table
        (store.paths request.name) (store.wanted request) = (.ok found, memory)) :
      Serving store machine world request generator
        { result := .ok ⟨found.metadata, found.lease, .stored⟩, world := { world with memory } }
  | compiled {outcome : Outcome}
      (recovers : world.memory.Recovers machine.placement store.table
        (store.afterMiss machine.placement world request).memory)
      (compiling : Compiling store machine (store.afterMiss machine.placement world request) request
        generator (store.isBusy machine.placement world request) outcome) :
      Serving store machine world request generator
        { outcome with
          diagnostics := store.missReport machine.placement world request ++ outcome.diagnostics }

theorem serving (store : Store) (machine : Machine) (world : World) (request : CompileRequest)
    (generator : Generator) :
    Serving store machine world request generator
      (store.serve machine world request generator) := by
  have busy := store.compiling machine (store.afterMiss machine.placement world request) request
    generator (store.isBusy machine.placement world request)
  unfold serve
  split
  · rename_i consulted
    obtain ⟨enabled, notForced⟩ : store.toggles.enabled = true ∧
        store.toggles.forceRecompile = false := by
      simpa using consulted
    unfold load
    cases loaded : Lookup.load world.files world.memory machine.placement store.table
        (store.paths request.name) (store.wanted request) with
    | mk result memory =>
        cases result with
        | ok found => exact .found enabled notForced loaded
        | error miss =>
            have missed : store.missed? machine.placement world request = some miss := by
              unfold missed? load
              rw [if_pos consulted, loaded]
            have left : store.afterMiss machine.placement world request = { world with memory } := by
              unfold afterMiss load
              rw [if_pos consulted, loaded]
            have recovers := (Lookup.load_error loaded).1
            have served := Serving.compiled (by rw [left]; exact recovers) busy
            unfold isBusy missReport at served
            rw [left, missed] at served
            exact served
  · rename_i direct
    have missed : store.missed? machine.placement world request = none := if_neg direct
    have left : store.afterMiss machine.placement world request = world := by
      unfold afterMiss
      rw [if_neg direct]
    have served := Serving.compiled (by rw [left]; exact .whole) busy
    unfold isBusy missReport at served
    rw [left, missed] at served
    exact served

end Store

end KernelStore
