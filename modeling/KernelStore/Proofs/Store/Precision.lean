import KernelStore.Proofs.Store.Reporting
import KernelStore.Proofs.Store.Reuse

/-!
The precision of the kernels that are served. A stored kernel is compared with what is required, and
a compiled one has its pragmas rewritten. Main statement: either way the kernel asks for the
required precision, and so does what is read back of one that was written.
-/

namespace KernelStore

/-- A kernel that was found asks for the required precision. -/
theorem Lookup.precision_of_load {files : FileTree} {memory after : Memory} {placement : Placement}
    {table : SlotTable} {paths : StoredPaths} {wanted : Wanted} {found : Found}
    {required : Precision}
    (loaded : load files memory placement table paths wanted = (.ok found, after))
    (asked : wanted.precision = some required) : found.metadata.precision = required := by
  obtain ⟨_, _, _, _, same, _⟩ := load_eq_ok_iff.mp loaded
  obtain ⟨_, precision⟩ := Wanted.difference?_eq_none_iff.mp same
  exact precision required asked

namespace Store

variable {store : Store} {request : CompileRequest} {required : Precision}

theorem asked_eq (settled : store.precisionFor request = some required) :
    store.asked request = { request with precision := some required } := by
  unfold asked
  rw [settled]

/-- Completing a generator's metadata leaves all pragmas that ask for no precision. -/
theorem otherPragmas_complete (store : Store) (request : CompileRequest) (arena : Arena)
    (metadata : Metadata) :
    (store.complete request arena metadata).otherPragmas = metadata.otherPragmas := by
  unfold complete
  cases store.precisionFor request with
  | none => rfl
  | some precision => exact metadata.otherPragmas_setPrecision precision

/-- A file that was written for a kernel reads back with the kernel's precision, if at all. -/
theorem precision_of_encoded {metadata : Metadata} {address : UInt64} {image : Content}
    {file : Bytes} {info : InfoFile} (encoded : metadata.encode address image = .ok file)
    (parsed : InfoFile.parse file = .ok info) :
    info.metadata.precision = metadata.precision := by
  rw [Metadata.parse_encoded encoded parsed]

end Store

/-- Whatever the files hold, and whatever pragmas a generator returns, a kernel that is served asks
for the required precision. A generator was asked for just that precision, and the pragmas that ask
for none are its own; and if the kernel's file is read back, it asks for the same. -/
theorem served_at_precision {store : Store} {machine : Machine} {world : World}
    {request : CompileRequest} {generator : Generator} {kernel : Kernel} {required : Precision}
    (asked : store.precisionFor request = some required)
    (served : (store.serve machine world request generator).result = .ok kernel) :
    let outcome := store.serve machine world request generator
    let precise : CompileRequest := { request with precision := some required }
    kernel.metadata.precision = required ∧
      (kernel.origin ≠ .stored → ∃ lease exchanges metadata emitted,
        (generator precise (.ofLease lease)).run (.ofLease lease) =
          (exchanges, .ok metadata, emitted) ∧
        outcome.generation = some ⟨precise, exchanges⟩ ∧ kernel.lease = emitted.lease ∧
        kernel.metadata.otherPragmas = metadata.otherPragmas) ∧
      (kernel.origin = .compiled true → ∃ file,
        outcome.world.files.read (store.paths request.name).info = .ok file ∧
        ∀ info, InfoFile.parse file = .ok info → info.metadata.precision = required) := by
  have serving := store.serving machine world request generator
  generalize store.serve machine world request generator = outcome at serving served ⊢
  dsimp only
  cases serving with
  | found enabled notForced loaded =>
      cases served
      refine ⟨Lookup.precision_of_load loaded asked, ?_, nofun⟩
      intro compiled
      exact absurd rfl compiled
  | compiled recovers compiling =>
      cases compiling with
      | refused allocated => cases served
      | notWritable allocated protection => cases served
      | failed allocated ran => cases served
      | notExecutable allocated ran protection => cases served
      | made allocated ran persist =>
          rename_i lease memory exchanges metadata emitted persisted files reported
          cases served
          have precision := store.precision_complete request emitted metadata asked
          unfold Store.dialogue at ran
          rw [Store.asked_eq asked] at ran
          refine ⟨precision, ?_, ?_⟩
          · intro compiled
            refine ⟨lease, exchanges, metadata, emitted, ran, ?_, rfl, ?_⟩
            · rw [← Store.asked_eq asked]
            · exact store.otherPragmas_complete request emitted metadata
          · intro origin
            obtain rfl : persisted = true := Origin.compiled.inj origin
            cases Store.persisting persist with
            | written enabled isFixed idle written =>
                obtain ⟨file, encoded, read, _⟩ := Store.read_of_written written
                refine ⟨file, read, ?_⟩
                intro info parsed
                rw [Store.precision_of_encoded encoded parsed]
                exact precision

/-- Full precision is required by the store, against the request. -/
def fullStore : Store := { soloStore [] with toggles := { precision := some .full } }

/-- Returns pragmas for both lower precisions, one of them with a value, between others. -/
def mixedGenerator : Generator := fun _ _ =>
  .finish (.ok { pragmas := [⟨"fp_relaxed", "1"⟩, ⟨"unroll", "4"⟩, ⟨"fp_imprecise", ""⟩,
    ⟨"unroll", "2"⟩] })

def mixedOutcome : Outcome :=
  fullStore.serve .standard { memory := { nextTable := 1 } } relaxedRequest mixedGenerator

theorem served_at_precision_mixed :
    ∃ kernel, mixedOutcome.result = .ok kernel ∧ kernel.origin = .compiled true ∧
      kernel.metadata.precision = .full ∧
      kernel.metadata.otherPragmas = [⟨"unroll", "4"⟩, ⟨"unroll", "2"⟩] ∧
      ∃ file info, mixedOutcome.world.files.read (fullStore.paths "k").info = .ok file ∧
        InfoFile.parse file = .ok info ∧ info.metadata.precision = .full := by
  have recorded : mixedOutcome.result.toOption.map (·.origin) = some (.compiled true) := by
    decide +kernel
  have readable : (mixedOutcome.world.files.read (fullStore.paths "k").info).toOption.any
      (fun file => (InfoFile.parse file).toOption.isSome) = true := by decide +kernel
  cases result : mixedOutcome.result with
  | error fault =>
      rw [result] at recorded
      cases recorded
  | ok kernel =>
      rw [result] at recorded
      have origin : kernel.origin = .compiled true := Option.some.inj recorded
      have asked : fullStore.precisionFor relaxedRequest = some .full := rfl
      obtain ⟨precision, compiled, written⟩ := served_at_precision asked result
      have made : kernel.origin ≠ .stored := by
        rw [origin]
        exact nofun
      obtain ⟨lease, exchanges, metadata, emitted, ran, _, _, pragmas⟩ := compiled made
      obtain ⟨file, read, parsed⟩ := written origin
      refine ⟨kernel, rfl, origin, precision, ?_, file, ?_⟩
      · cases ran
        exact pragmas
      · change mixedOutcome.world.files.read (fullStore.paths "k").info = .ok file at read
        rw [read] at readable
        cases outcome : InfoFile.parse file with
        | error fault =>
            change (InfoFile.parse file).toOption.isSome = true at readable
            rw [outcome] at readable
            cases readable
        | ok info => exact ⟨info, read, rfl, parsed info outcome⟩

end KernelStore
