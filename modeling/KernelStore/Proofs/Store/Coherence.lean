import KernelStore.Proofs.Artifact.RoundTrip
import KernelStore.Proofs.FileTree.Paths
import KernelStore.Proofs.Store.Lookups
import KernelStore.Proofs.Store.Serving

/-!
Any number of stores over one directory that nobody else writes to. Main statement: a stored kernel
that is served is the one written last under its name, and was built from what is wanted now.
-/

namespace KernelStore

/-! ### The files of a name -/

/-- The metadata file of a name in a directory. -/
def infoAt (home : Location) (name : String) : Location := home ++ [name ++ ".info"]

/-- The object file of a name in a directory. -/
def objectAt (home : Location) (name : String) : Location := home ++ [name ++ ".o"]

section

variable {home : Location} {name other : String}

theorem eq_of_append_eq {ending : String} (same : name ++ ending = other ++ ending) :
    name = other := by
  have letters := congrArg String.toList same
  rw [String.toList_append, String.toList_append] at letters
  exact String.toList_inj.mp (List.append_cancel_right letters)

theorem infoAt_inj (same : infoAt home name = infoAt home other) : name = other :=
  eq_of_append_eq (List.singleton_inj.mp (List.append_cancel_left same))

theorem objectAt_inj (same : objectAt home name = objectAt home other) : name = other :=
  eq_of_append_eq (List.singleton_inj.mp (List.append_cancel_left same))

theorem infoAt_ne_objectAt (home : Location) (name other : String) :
    infoAt home name ≠ objectAt home other := by
  intro same
  have letters := congrArg (fun text => text.toList.reverse)
    (List.singleton_inj.mp (List.append_cancel_left same))
  simp at letters

end

section

variable {store : Store} {files : FileTree} {home : Location} {name : String}

theorem Store.target_info (located : files.target store.directory = home)
    (plain : '/' ∉ name.toList) : files.target (store.paths name).info = infoAt home name := by
  rw [← located]
  exact files.target_join _ (FilePath.isName_append plain (by decide) rfl (by decide))

theorem Store.target_object (located : files.target store.directory = home)
    (plain : '/' ∉ name.toList) : files.target (store.paths name).object = objectAt home name := by
  rw [← located]
  exact files.target_join _ (FilePath.isName_append plain (by decide) rfl (by decide))

end

/-! ### Histories -/

/-- A request that was served. -/
structure Call where
  request : CompileRequest
  outcome : Outcome

/-- The kernel written last under a name. The calls are listed from the last one back. -/
def latest? (log : List Call) (name : String) : Option Kernel :=
  log.findSome? fun call => if call.request.name = name then call.outcome.written? else none

/-- In the directory every file is as it was, or gone. -/
def Kept (home : Location) (before after : FileTree) : Prop :=
  ∀ name, after.contentAt? (home ++ [name]) = before.contentAt? (home ++ [name]) ∨
    after.contentAt? (home ++ [name]) = none

/-- The worlds that come about, and the calls that led there, when a directory starts out without
files and only stores write to it. -/
inductive History (home : Location) : World → List Call → Prop
  | start {world : World} (empty : ∀ name, world.files.contentAt? (home ++ [name]) = none) :
      History home world []
  | serve {world : World} {log : List Call} (before : History home world log) (store : Store)
      (machine : Machine) (request : CompileRequest) (generator : Generator)
      (located : world.files.target store.directory = home) (plain : '/' ∉ request.name.toList) :
      History home (store.serve machine world request generator).world
        (⟨request, store.serve machine world request generator⟩ :: log)
  | drop {world : World} {log : List Call} (before : History home world log)
      (placement : Placement) (lease : Lease) :
      History home { world with memory := world.memory.drop placement lease } log
  | elsewhere {world changed : World} {log : List Call} (before : History home world log)
      (kept : Kept home world.files changed.files) : History home changed log

/-- What the files in a directory hold is what the kernels written last under their names left. -/
structure Coherent (home : Location) (files : FileTree) (log : List Call) : Prop where
  info : ∀ {name content}, files.contentAt? (infoAt home name) = some content →
    ∃ written, latest? log name = some written ∧ written.lease.InSlot ∧
      ∃ file, written.metadata.encode (UInt64.ofNat written.lease.address) written.lease.content =
        .ok file ∧ content = .ofBytes file
  object : ∀ {name content}, files.contentAt? (objectAt home name) = some content →
    ∃ written, latest? log name = some written ∧ content = written.lease.content

theorem latest?_cons_written {call : Call} {log : List Call} {kernel : Kernel}
    (written : call.outcome.written? = some kernel) (name : String) :
    latest? (call :: log) name =
      if call.request.name = name then some kernel else latest? log name := by
  unfold latest?
  rw [List.findSome?_cons, written]
  by_cases same : call.request.name = name
  · rw [if_pos same, if_pos same]
  · rw [if_neg same, if_neg same]

theorem latest?_cons_not_written {call : Call} {log : List Call}
    (nothing : call.outcome.written? = none) (name : String) :
    latest? (call :: log) name = latest? log name := by
  unfold latest?
  rw [List.findSome?_cons, nothing, ite_self]

theorem origin_of_written {outcome : Outcome} {kernel : Kernel}
    (written : outcome.written? = some kernel) : kernel.origin = .compiled true := by
  unfold Outcome.written? at written
  split at written
  · split at written
    · rename_i origin
      cases written
      exact origin
    · cases written
  · cases written

theorem origin_of_latest {log : List Call} {name : String} {kernel : Kernel}
    (latest : latest? log name = some kernel) : kernel.origin = .compiled true := by
  obtain ⟨call, _, found⟩ := List.exists_of_findSome?_eq_some latest
  split at found
  · exact origin_of_written found
  · cases found

namespace Coherent

variable {home : Location} {files after : FileTree} {log : List Call}

theorem start (empty : ∀ name, files.contentAt? (home ++ [name]) = none) :
    Coherent home files [] := by
  constructor
  · intro name content held
    cases (empty _).symm.trans held
  · intro name content held
    cases (empty _).symm.trans held

theorem kept (coherent : Coherent home files log) (kept : Kept home files after) :
    Coherent home after log := by
  constructor
  · intro name content held
    rcases kept (name ++ ".info") with same | gone
    · exact coherent.info (same.symm.trans held)
    · cases gone.symm.trans held
  · intro name content held
    rcases kept (name ++ ".o") with same | gone
    · exact coherent.object (same.symm.trans held)
    · cases gone.symm.trans held

theorem wrote {store : Store} {call : Call} {kernel : Kernel} (coherent : Coherent home files log)
    (located : files.target store.directory = home) (plain : '/' ∉ call.request.name.toList)
    (written : call.outcome.written? = some kernel)
    (wrote : Store.Wrote files (store.paths call.request.name) kernel after) :
    Coherent home after (call :: log) := by
  obtain ⟨inSlot, file, encoded, replaced⟩ := wrote
  have infoPlace := Store.target_info located plain
  have objectPlace := Store.target_object located plain
  constructor
  · intro name content held
    rw [latest?_cons_written written]
    by_cases same : call.request.name = name
    · rw [if_pos same]
      subst same
      rw [← infoPlace, replaced.infoAt] at held
      exact ⟨kernel, rfl, inSlot, file, encoded, (Option.some.inj held).symm⟩
    · -- The files of another name lie elsewhere, and the call was not about it.
      rw [if_neg same]
      apply coherent.info
      rw [← held, replaced.others]
      · rw [infoPlace]
        exact fun equal => same (infoAt_inj equal).symm
      · rw [objectPlace]
        exact infoAt_ne_objectAt home _ _
  · intro name content held
    rw [latest?_cons_written written]
    by_cases same : call.request.name = name
    · rw [if_pos same]
      subst same
      rw [← objectPlace, replaced.objectAt] at held
      exact ⟨kernel, rfl, (Option.some.inj held).symm⟩
    · rw [if_neg same]
      apply coherent.object
      rw [← held, replaced.others]
      · rw [infoPlace]
        exact (infoAt_ne_objectAt home _ _).symm
      · rw [objectPlace]
        exact fun equal => same (objectAt_inj equal).symm

theorem wroteNothing {call : Call} (coherent : Coherent home files log)
    (nothing : call.outcome.written? = none) : Coherent home files (call :: log) := by
  constructor
  · intro name content held
    rw [latest?_cons_not_written nothing]
    exact coherent.info held
  · intro name content held
    rw [latest?_cons_not_written nothing]
    exact coherent.object held

theorem serve {world : World} (coherent : Coherent home world.files log) (store : Store)
    (machine : Machine) (request : CompileRequest) (generator : Generator)
    (located : world.files.target store.directory = home) (plain : '/' ∉ request.name.toList) :
    Coherent home (store.serve machine world request generator).world.files
      (⟨request, store.serve machine world request generator⟩ :: log) := by
  have apart : world.files.target (store.paths request.name).info ≠
      world.files.target (store.paths request.name).object := by
    rw [Store.target_info located plain, Store.target_object located plain]
    exact infoAt_ne_objectAt home _ _
  generalize served : store.serve machine world request generator = outcome
  rcases Store.serve_cases apart served with ⟨kernel, written, wrote⟩ | ⟨nothing, lost⟩
  · exact coherent.wrote located plain written wrote
  · apply wroteNothing _ nothing
    apply coherent.kept
    intro name
    rcases lost.contents (home ++ [name]) with same | ⟨_, gone⟩
    · exact Or.inl same
    · exact Or.inr gone

/-- However the stores are used, the files stay in accord with the calls. -/
theorem of_history {world : World} (history : History home world log) :
    Coherent home world.files log := by
  induction history with
  | start empty => exact start empty
  | serve before store machine request generator located plain ih =>
      exact ih.serve store machine request generator located plain
  | drop before placement lease ih => exact ih
  | elsewhere before kept ih => exact ih.kept kept

end Coherent

/-! ### Stored kernels -/

/-- A stored kernel that is served is the kernel written last under its name. -/
theorem stored_is_latest {home : Location} {world : World} {log : List Call} {store : Store}
    {machine : Machine} {request : CompileRequest} {generator : Generator} {kernel : Kernel}
    (history : History home world log) (located : world.files.target store.directory = home)
    (plain : '/' ∉ request.name.toList)
    (served : (store.serve machine world request generator).result = .ok kernel)
    (stored : kernel.origin = .stored) :
    ∃ written, latest? log request.name = some written ∧ written.origin = .compiled true ∧
      kernel.lease.address = written.lease.address ∧ kernel.lease.size = written.lease.size ∧
      kernel.lease.bytes = written.lease.bytes ∧ kernel.metadata = written.metadata ∧
      written.metadata.dependencies = store.dependencies request := by
  have coherent := Coherent.of_history history
  obtain ⟨found, memory, loaded, rfl⟩ := Store.serve_stored served stored
  obtain ⟨info, image, infoHeld, parsed, dependencies, objectHeld, size, _, allocated⟩ :=
    Lookup.load_eq_ok loaded
  rw [Store.target_info located plain] at infoHeld
  rw [Store.target_object located plain] at objectHeld
  -- Each of the two files is of the kernel written last, so both are of one kernel.
  obtain ⟨written, latest, inSlot, file, encoded, rfl⟩ := coherent.info infoHeld
  obtain ⟨other, alsoLatest, rfl⟩ := coherent.object objectHeld
  obtain rfl := Option.some.inj (latest.symm.trans alsoLatest)
  rw [Content.bytes_ofBytes] at parsed
  obtain ⟨header, metadata⟩ := InfoFile.mk.inj (Metadata.parse_encoded encoded parsed)
  have fills : written.lease.content.size = store.table.layout.slotSize := by
    rw [← size, header]
    exact inSlot.toNat_size.symm
  obtain ⟨address, whole, bytes⟩ := Memory.bytes_of_allocateFile allocated fills
  refine ⟨written, latest, origin_of_latest latest, ?_, ?_, bytes, metadata, ?_⟩
  · rw [address, header]
    exact inSlot.toNat_address
  · rw [whole, ← fills]
    exact inSlot.content
  · rw [← metadata]
    exact dependencies

/-- The world once the kernel that was served is dropped and its mapping is gone. -/
def Outcome.dropped (outcome : Outcome) : World :=
  match outcome.result with
  | .ok kernel => { outcome.world with memory := outcome.world.memory.release kernel.lease }
  | .error _ => outcome.world

theorem History.dropped {home : Location} {log : List Call} {outcome : Outcome}
    (history : History home outcome.world log) : History home outcome.dropped log := by
  unfold Outcome.dropped
  cases outcome.result with
  | ok kernel => exact history.drop .standard kernel.lease
  | error fault => exact history

/-- A store with one slot. -/
def soloStore (runtime : List Dependency) : Store :=
  ⟨⟨0, ⟨0x100000, 1, 4096, 4096, 8, by decide⟩⟩, "cache", {}, runtime⟩

def soloRuntime : Dependency := ⟨"r", .runtime, ⟨Bytes.zeros 20, Bytes.length_zeros 20⟩⟩

def soloRequest : CompileRequest := ⟨"k", [], none⟩

def returnGenerator : Generator := fun _ _ =>
  .ask (.write 0x100000 [0xc3]) fun _ => .finish (.ok {})

def firstOutcome : Outcome :=
  (soloStore []).serve .standard { memory := { nextTable := 1 } } soloRequest returnGenerator

def secondOutcome : Outcome :=
  (soloStore [soloRuntime]).serve .standard firstOutcome.dropped soloRequest returnGenerator

def thirdOutcome : Outcome :=
  (soloStore [soloRuntime]).serve .standard secondOutcome.dropped soloRequest returnGenerator

/-- A kernel is replaced because of a new runtime, and served from the store the next time. -/
theorem stored_is_latest_after_replacement :
    ∃ kernel written, thirdOutcome.result = .ok kernel ∧ kernel.origin = .stored ∧
      latest? [⟨soloRequest, secondOutcome⟩, ⟨soloRequest, firstOutcome⟩] "k" = some written ∧
      kernel.lease.bytes = written.lease.bytes ∧ written.metadata.dependencies = [soloRuntime] := by
  have plain : '/' ∉ soloRequest.name.toList := by decide
  have located : firstOutcome.dropped.files.target (soloStore [soloRuntime]).directory =
        ["cache"] ∧
      secondOutcome.dropped.files.target (soloStore [soloRuntime]).directory = ["cache"] ∧
      thirdOutcome.result.toOption.map (·.origin) = some .stored := by decide +kernel
  obtain ⟨firstLocated, secondLocated, served⟩ := located
  have empty : History ["cache"] { memory := { nextTable := 1 } } [] := .start fun _ => rfl
  have first : History ["cache"] firstOutcome.world [⟨soloRequest, firstOutcome⟩] :=
    empty.serve (soloStore []) .standard soloRequest returnGenerator rfl plain
  have second : History ["cache"] secondOutcome.world
      [⟨soloRequest, secondOutcome⟩, ⟨soloRequest, firstOutcome⟩] :=
    first.dropped.serve (soloStore [soloRuntime]) .standard soloRequest returnGenerator
      firstLocated plain
  cases result : thirdOutcome.result with
  | error fault =>
      rw [result] at served
      cases served
  | ok kernel =>
      rw [result] at served
      have stored : kernel.origin = .stored := Option.some.inj served
      obtain ⟨written, latest, _, _, _, bytes, _, dependencies⟩ :=
        stored_is_latest second.dropped secondLocated plain result stored
      exact ⟨kernel, written, rfl, stored, latest, bytes, dependencies⟩

end KernelStore
