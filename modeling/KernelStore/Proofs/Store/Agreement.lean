import KernelStore.Proofs.Store.Coherence
import KernelStore.Store.Reader

/-!
Looking a kernel up with and without mapping it. Main statement: a check misses just what a load
misses before it maps anything, a slot is found in use only after all that a check looks at was in
order, and every miss is reported once.
-/

namespace KernelStore

/-! ### Slots in use -/

theorem Memory.allocateFile_eq_occupied_iff {memory : Memory} {placement : Placement}
    {table : SlotTable} {address index : Nat} {file : OpenFile} :
    memory.allocateFile placement table address file 0 = .error (.occupied index) ↔
      table.layout.slotIndex? address = some index ∧ memory.isTaken table index = true := by
  unfold allocateFile
  rw [if_neg (not_not.mpr (Nat.zero_mod pageSize))]
  cases slot : table.layout.slotIndex? address with
  | none => simp
  | some other =>
      dsimp only
      constructor
      · intro refused
        split at refused
        · rename_i taken
          cases refused
          exact ⟨rfl, taken⟩
        · -- Nothing is said of the slot once it has been found free.
          split at refused
          · cases refused
          split at refused
          · cases refused
          split at refused
          · cases refused
          split at refused
          · cases refused
          split at refused <;> cases refused
      · intro ⟨same, taken⟩
        cases same
        exact if_pos taken

theorem Wanted.firstDifference?_ne_slotInUse (start index : Nat) (wanted found : List Dependency) :
    firstDifference? start wanted found ≠ some (.slotInUse index) := by
  intro same
  induction wanted generalizing start found with
  | nil =>
      unfold firstDifference? at same
      cases same
  | cons first rest ih =>
      cases found with
      | nil =>
          unfold firstDifference? at same
          cases same
      | cons head tail =>
          unfold firstDifference? at same
          cases differs : differingField? first head with
          | some field =>
              rw [differs] at same
              cases same
          | none =>
              rw [differs] at same
              exact ih (start + 1) tail same

theorem Wanted.difference?_ne_slotInUse (wanted : Wanted) (metadata : Metadata) (index : Nat) :
    wanted.difference? metadata ≠ some (.slotInUse index) := by
  unfold difference?
  split
  · exact nofun
  have dependencies :=
    firstDifference?_ne_slotInUse 0 index wanted.dependencies metadata.dependencies
  split
  · rename_i reason differs
    rw [← differs]
    exact dependencies
  · split
    · exact nofun
    · split <;> exact nofun

namespace Lookup

variable {files : FileTree} {memory held : Memory} {placement : Placement} {table : SlotTable}
  {paths : StoredPaths} {wanted : Wanted} {header : Header} {index : Nat}

/-- Only the slot is in the way: it is the one that the header names, and the image has its size. -/
structure Busy (files : FileTree) (memory : Memory) (table : SlotTable) (paths : StoredPaths)
    (header : Header) (index : Nat) : Prop where
  slot : table.layout.slotIndex? header.imageAddress.toNat = some index
  taken : memory.isTaken table index = true
  size : header.imageSize.toNat = table.layout.slotSize
  object : ∃ entry, files.openFile paths.object = .ok entry ∧
    table.layout.slotSize ≤ (opened files entry).2
  /-- Where directories are reported smaller than a slot, the object is a file. -/
  image : (∀ entries, files.directorySize entries < table.layout.slotSize) →
    ∃ image, files.content paths.object = .ok image ∧ table.layout.slotSize ≤ image.size

theorem content_of_opened {entry : Entry} {size : Nat}
    (small : ∀ entries, files.directorySize entries < size)
    (opening : files.openFile paths.object = .ok entry) (enough : size ≤ (opened files entry).2) :
    ∃ image, files.content paths.object = .ok image ∧ size ≤ image.size := by
  cases entry with
  | directory entries => exact absurd enough (Nat.not_le.mpr (small entries))
  | file image => exact ⟨image, FileTree.openFile_eq_ok_iff.mp opening, enough⟩

theorem fileReason_ne_slotInUse (file : StoredFile) (fault : FileError) :
    fileReason file fault ≠ .slotInUse index := by
  unfold fileReason
  split <;> exact nofun

/-- Of the reasons not to map an image, that the slot is in use comes after all that concern the
files. -/
theorem busy_of_map (mapping : map files memory placement table paths header =
    .error (.slotInUse index)) : Busy files memory table paths header index := by
  unfold map at mapping
  dsimp only at mapping
  split at mapping
  · cases mapping
  split at mapping
  · cases mapping
  rename_i size
  cases opening : files.openFile paths.object with
  | error fault =>
      rw [opening] at mapping
      exact absurd (Except.error.inj mapping) (fileReason_ne_slotInUse .object fault)
  | ok entry =>
      rw [opening] at mapping
      dsimp only at mapping
      split at mapping
      · cases mapping
      rename_i enough
      have refused : memory.allocateFile placement table header.imageAddress.toNat
          (opened files entry).1 0 = .error (.occupied index) := by
        cases outcome : memory.allocateFile placement table header.imageAddress.toNat
            (opened files entry).1 0 with
        | ok leased =>
            rw [outcome] at mapping
            cases mapping
        | error fault =>
            rw [outcome] at mapping
            cases fault <;> cases mapping
            rfl
      obtain ⟨slot, taken⟩ := Memory.allocateFile_eq_occupied_iff.mp refused
      have enough : table.layout.slotSize ≤ (opened files entry).2 := by
        rw [← not_not.mp size]
        exact Nat.not_lt.mp enough
      exact ⟨slot, taken, not_not.mp size, ⟨entry, opening, enough⟩,
        fun small => content_of_opened small opening enough⟩

/-! ### Ways through a lookup -/

/-- A miss before anything is mapped, and so for no reason that has to do with a slot. -/
structure Early (miss : Miss) : Prop where
  stage : miss.stage = .headerValidated ∨ miss.stage = .dependenciesValidated
  reason : ∀ index, miss.reason ≠ .slotInUse index

theorem early_of_check {content : Except FileError Bytes} {miss : Miss}
    (missed : check content wanted = .error miss) : Early miss := by
  unfold check at missed
  cases content with
  | error fault =>
      cases missed
      exact ⟨Or.inl rfl, fun index => fileReason_ne_slotInUse .metadata fault⟩
  | ok file =>
      dsimp only at missed
      split at missed
      · cases missed
        exact ⟨Or.inl rfl, nofun⟩
      · split at missed
        · rename_i reason differs
          cases missed
          refine ⟨Or.inr rfl, ?_⟩
          intro index same
          exact wanted.difference?_ne_slotInUse _ index (differs.trans (congrArg some same))
        · cases missed

/-- How a check and a load of the same files end together. -/
inductive Loading (files : FileTree) (memory : Memory) (placement : Placement) (table : SlotTable)
    (paths : StoredPaths) : Except Miss InfoFile → Except Miss Found × Memory → Prop
  | unchecked {miss : Miss} (early : Early miss) :
      Loading files memory placement table paths (.error miss) (.error miss, memory)
  | unmapped {info : InfoFile} {reason : MissReason}
      (mapping : map files memory placement table paths info.header = .error reason) :
      Loading files memory placement table paths (.ok info) (.error ⟨.mapped, reason⟩, memory)
  | corrupt {info : InfoFile} {lease : Lease} {held : Memory}
      (mapping : map files memory placement table paths info.header = .ok (lease, held))
      (parity : lease.content.hasParity info.header.checksum = false) :
      Loading files memory placement table paths (.ok info)
        (.error ⟨.checksumValidated, .checksum⟩, held.drop placement lease)
  | ready {info : InfoFile} {lease : Lease} {held : Memory}
      (mapping : map files memory placement table paths info.header = .ok (lease, held))
      (parity : lease.content.hasParity info.header.checksum = true) :
      Loading files memory placement table paths (.ok info)
        (.ok ⟨info.header, info.metadata, lease⟩, held)

theorem loading (files : FileTree) (memory : Memory) (placement : Placement) (table : SlotTable)
    (paths : StoredPaths) (wanted : Wanted) :
    Loading files memory placement table paths (checkFiles files paths wanted)
      (load files memory placement table paths wanted) := by
  unfold load
  cases checked : checkFiles files paths wanted with
  | error miss => exact .unchecked (early_of_check checked)
  | ok info =>
      dsimp only
      cases mapping : map files memory placement table paths info.header with
      | error reason => exact .unmapped mapping
      | ok leased =>
          obtain ⟨lease, held⟩ := leased
          dsimp only
          cases parity : lease.content.hasParity info.header.checksum with
          | true => exact .ready mapping parity
          | false => exact .corrupt mapping parity

section

variable {checked : Except Miss InfoFile} {loaded : Except Miss Found × Memory}
  (ended : Loading files memory placement table paths checked loaded)

include ended

theorem Loading.early (miss : Miss) :
    checked = .error miss ↔ loaded.1 = .error miss ∧
      (miss.stage = .headerValidated ∨ miss.stage = .dependenciesValidated) := by
  cases ended with
  | unchecked early =>
      constructor
      · intro same
        cases same
        exact ⟨rfl, early.stage⟩
      · intro ⟨same, _⟩
        cases same
        rfl
  | unmapped mapping =>
      constructor
      · exact nofun
      · intro ⟨same, early⟩
        cases same
        rcases early with impossible | impossible <;> cases impossible
  | corrupt mapping parity =>
      constructor
      · exact nofun
      · intro ⟨same, early⟩
        cases same
        rcases early with impossible | impossible <;> cases impossible
  | ready mapping parity =>
      constructor
      · exact nofun
      · intro ⟨same, _⟩
        cases same

theorem Loading.late {info : InfoFile} (found : checked = .ok info) :
    (∃ lease, loaded.1 = .ok ⟨info.header, info.metadata, lease⟩) ∨
      ∃ miss, loaded.1 = .error miss ∧
        (miss.stage = .mapped ∨ miss.stage = .checksumValidated) := by
  cases ended with
  | unchecked early => cases found
  | unmapped mapping =>
      right
      exact ⟨_, rfl, Or.inl rfl⟩
  | corrupt mapping parity =>
      right
      exact ⟨_, rfl, Or.inr rfl⟩
  | ready mapping parity =>
      cases found
      left
      exact ⟨_, rfl⟩

theorem Loading.busy {miss : Miss} (missed : loaded.1 = .error miss)
    (inUse : miss.reason = .slotInUse index) :
    ∃ info, checked = .ok info ∧ Busy files memory table paths info.header index := by
  cases ended with
  | unchecked early =>
      cases missed
      exact absurd inUse (early.reason index)
  | unmapped mapping =>
      cases missed
      cases inUse
      exact ⟨_, rfl, busy_of_map mapping⟩
  | corrupt mapping parity =>
      cases missed
      cases inUse
  | ready mapping parity => cases missed

end

end Lookup

/-! ### Steps of a reader -/

namespace ReaderAction

variable {α β : Type} {state : ReaderState}

theorem runOn_bind (action : ReaderAction α) (next : α → ReaderAction β) (state : ReaderState) :
    (action >>= next).runOn state = match action.runOn state with
      | (.ok value, after) => (next value).runOn after
      | (.error miss, after) => (.error miss, after) := by
  unfold runOn
  simp only [bind, ExceptT.bind, ExceptT.run, ExceptT.mk, StateT.bind, StateT.run, Id.run]
  cases action state with
  | mk result after => cases result <;> rfl

theorem runOn_reach (stage : Stage) (outcome : Except MissReason α) (state : ReaderState) :
    (reach stage outcome).runOn state = (outcome.mapError (Miss.mk stage), state) := by
  cases outcome <;> rfl

end ReaderAction

namespace Reader

open ReaderAction (runOn_bind runOn_reach)

variable (reader : Reader) (paths : StoredPaths) (state : ReaderState)

theorem runOn_validate :
    (reader.validate paths).runOn state =
      (Lookup.checkFiles reader.files paths reader.wanted, state) := by
  unfold validate Lookup.checkFiles Lookup.check
  rw [runOn_bind, runOn_reach]
  cases reader.files.read paths.info with
  | error fault => rfl
  | ok file =>
      dsimp only [Except.mapError]
      rw [runOn_bind, runOn_reach]
      cases InfoFile.parse file with
      | error fault => rfl
      | ok info =>
          dsimp only [Except.mapError]
          rw [runOn_bind, runOn_reach, compare]
          cases reader.wanted.difference? info.metadata with
          | some reason => rfl
          | none => rfl

theorem runOn_leaseFile (address : Nat) (file : OpenFile) :
    (reader.leaseFile address file).runOn state =
      match state.memory.allocateFile reader.placement reader.table address file 0 with
      | .ok (lease, memory) => (.ok lease, { state with memory })
      | .error (.occupied index) => (.error ⟨.mapped, .slotInUse index⟩, state)
      | .error fault => (.error ⟨.mapped, .mapping fault.message⟩, state) := by
  unfold leaseFile
  rw [runOn_bind]
  change ReaderAction.runOn _ state = _
  cases state.memory.allocateFile reader.placement reader.table address file 0 with
  | ok leased => rfl
  | error fault => cases fault <;> rfl

theorem runOn_map (header : Header) :
    (reader.map paths header).runOn state =
      match Lookup.map reader.files state.memory reader.placement reader.table paths header with
      | .ok (lease, memory) => (.ok lease, { state with memory })
      | .error reason => (.error ⟨.mapped, reason⟩, state) := by
  unfold map Lookup.map
  dsimp only
  split
  · rfl
  split
  · rfl
  rw [runOn_bind, runOn_reach]
  cases reader.files.openFile paths.object with
  | error fault => rfl
  | ok entry =>
      dsimp only [Except.mapError]
      split
      · rfl
      rw [runOn_leaseFile]
      cases state.memory.allocateFile reader.placement reader.table header.imageAddress.toNat
          (Lookup.opened reader.files entry).1 0 with
      | ok leased => rfl
      | error fault => cases fault <;> rfl

/-- The steps end as the lookup does, and leave memory as it does. -/
theorem runOn_find :
    (reader.find paths).runOn state =
      let (result, memory) := Lookup.load reader.files state.memory reader.placement reader.table
        paths reader.wanted
      (result, { state with memory }) := by
  unfold find Lookup.load
  rw [runOn_bind, runOn_validate]
  cases Lookup.checkFiles reader.files paths reader.wanted with
  | error miss => rfl
  | ok info =>
      dsimp only
      rw [runOn_bind, runOn_map]
      cases Lookup.map reader.files state.memory reader.placement reader.table paths
          info.header with
      | error reason => rfl
      | ok leased =>
          obtain ⟨lease, memory⟩ := leased
          dsimp only
          cases lease.content.hasParity info.header.checksum with
          | true => rfl
          | false => rfl

/-! ### Agreement -/

/-- What a reader reports of how a call of it ends. -/
def reports {α : Type} (reader : Reader) : Except Miss α → List Diagnostic
  | .ok _ => []
  | .error miss => if reader.isReporting then [miss.diagnostic] else []

variable {α : Type} {state after : ReaderState}

/-- Carrying steps out changes their end in nothing, and reports it. -/
theorem carryOut_of_runOn (reader : Reader) {action : ReaderAction α} {outcome : Except Miss α}
    (run : action.runOn state = (outcome, after)) :
    (reader.carryOut action state).1 = outcome ∧
      (reader.carryOut action state).2.memory = after.memory ∧
      (reader.carryOut action state).2.log.held = after.log.held ++ reader.reports outcome := by
  unfold carryOut
  rw [run]
  cases outcome with
  | ok value => exact ⟨rfl, rfl, (List.append_nil _).symm⟩
  | error miss =>
      dsimp only [report, reports]
      split
      · exact ⟨rfl, rfl, rfl⟩
      · exact ⟨rfl, rfl, (List.append_nil _).symm⟩

/-- A check and a load of the same files agree. -/
structure Agree (reader : Reader) (paths : StoredPaths) (state : ReaderState) : Prop where
  /-- The check misses what the load misses before it maps anything. -/
  early : ∀ miss, (reader.check paths state).1 = .error miss ↔
    (reader.load paths state).1 = .error miss ∧
      (miss.stage = .headerValidated ∨ miss.stage = .dependenciesValidated)
  /-- Past the check, the load finds the same kernel or misses a later stage. -/
  late : ∀ info, (reader.check paths state).1 = .ok info →
    (∃ lease, (reader.load paths state).1 = .ok ⟨info.header, info.metadata, lease⟩) ∨
      ∃ miss, (reader.load paths state).1 = .error miss ∧
        (miss.stage = .mapped ∨ miss.stage = .checksumValidated)
  /-- The slot is only found in use where the check succeeds. -/
  busy : ∀ miss index, (reader.load paths state).1 = .error miss →
    miss.reason = .slotInUse index → ∃ info, (reader.check paths state).1 = .ok info ∧
      Lookup.Busy reader.files state.memory reader.table paths info.header index
  memory : (reader.check paths state).2.memory = state.memory
  checkReports : (reader.check paths state).2.log.held =
    state.log.held ++ reader.reports (reader.check paths state).1
  loadReports : (reader.load paths state).2.log.held =
    state.log.held ++ reader.reports (reader.load paths state).1

end Reader

/-- Whatever the files, the table and what is wanted, a check and a load in one state agree. -/
theorem check_agrees_with_load (reader : Reader) (paths : StoredPaths) (state : ReaderState) :
    reader.Agree paths state := by
  obtain ⟨checked, memory, checkReports⟩ := reader.carryOut_of_runOn
    (reader.runOn_validate paths state)
  obtain ⟨loaded, _, loadReports⟩ := reader.carryOut_of_runOn
    (reader.runOn_find paths state)
  change (reader.check paths state).1 = _ at checked
  change (reader.load paths state).1 = _ at loaded
  rw [← checked] at checkReports
  rw [← loaded] at loadReports
  have loading := Lookup.loading reader.files state.memory reader.placement reader.table paths
    reader.wanted
  rw [← checked] at loading
  refine { early := ?_, late := ?_, busy := ?_, memory, checkReports, loadReports }
  · intro miss
    rw [loaded]
    exact loading.early miss
  · intro info found
    rw [loaded]
    exact loading.late found
  · intro miss index missed inUse
    rw [loaded] at missed
    exact loading.busy missed inUse

/-- Looks for a kernel that is still held. -/
def secondReader : Reader where
  files := firstOutcome.world.files
  placement := .standard
  table := (soloStore []).table
  wanted := (soloStore []).wanted soloRequest
  isReporting := true

def secondState : ReaderState := ⟨firstOutcome.world.memory, {}⟩

theorem check_agrees_with_load_in_use :
    ∃ info, (secondReader.check ((soloStore []).paths "k") secondState).1 = .ok info ∧
      Lookup.Busy secondReader.files secondState.memory secondReader.table
        ((soloStore []).paths "k") info.header 0 ∧
      (secondReader.load ((soloStore []).paths "k") secondState).2.log.held =
        [Miss.diagnostic ⟨.mapped, .slotInUse 0⟩] := by
  have refused :
      ((secondReader.load ((soloStore []).paths "k") secondState).1.map fun _ => ()) =
        .error ⟨.mapped, .slotInUse 0⟩ := by decide +kernel
  have agree := check_agrees_with_load secondReader ((soloStore []).paths "k") secondState
  cases ended : (secondReader.load ((soloStore []).paths "k") secondState).1 with
  | ok found =>
      rw [ended] at refused
      cases refused
  | error miss =>
      rw [ended] at refused
      cases refused
      obtain ⟨info, checked, busy⟩ := agree.busy _ 0 ended rfl
      have reported := agree.loadReports
      rw [ended] at reported
      exact ⟨info, checked, busy, reported⟩

end KernelStore
