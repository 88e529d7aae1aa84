import KernelStore.Proofs.Artifact.Guards

/-!
Reading a metadata file is safe. Main statement: whatever the file, no guard is met, and once the
header has been accepted, a list is refused only for what one of its records says.
-/

namespace KernelStore

open InfoFormat

/-! ### Records that are refused -/

namespace InfoFormat

/-- What a record can be refused for. -/
inductive Broken (header : Header) (file : Bytes) (part : Section) (position : Nat) : Prop
  | reference {field : Nat} (inRecord : field ∈ part.references)
      (unknown : header.records .names ≤ (file.wordAt (position + field)).toNat)
  | kind (ofPart : part = .dependencies) (noRuntime : file.wordAt (position + 4) ≠ 0)
      (noSource : file.wordAt (position + 4) ≠ 1)
  | exported (ofPart : part = .globals)
      (outside : ¬header.Encloses (file.longAt position).toNat 1)
  | function (ofPart : part = .functions)
      (outside : ¬header.Encloses (file.longAt position).toNat
        (file.wordAt (position + 8)).toNat)

variable {header : Header} {file : Bytes} {part : Section} {position : Nat}

theorem broken_of_not_sound (unsound : ¬RecordSound header file part position) :
    Broken header file part position := by
  by_contra whole
  apply unsound
  constructor
  · intro field inRecord
    by_contra unknown
    exact whole (.reference inRecord (Nat.not_lt.mp unknown))
  · intro ofPart
    by_contra other
    obtain ⟨noRuntime, noSource⟩ := not_or.mp other
    exact whole (.kind ofPart noRuntime noSource)
  · intro ofPart
    by_contra outside
    exact whole (.exported ofPart outside)
  · intro ofPart
    by_contra outside
    exact whole (.function ofPart outside)

/-- The first record of a list that cannot be accepted. All its bytes are in the file. -/
structure FirstBroken (header : Header) (file : Bytes) (part : Section) (index : Nat) : Prop where
  below : index < header.records part
  inside : header.recordAt part index + part.itemSize.toNat ≤ file.length
  broken : Broken header file part (header.recordAt part index)
  earlier : ∀ earlier < index, RecordSound header file part (header.recordAt part earlier)

end InfoFormat

/-- The record at which reading a list ends does not pass, and those before it do. -/
theorem RecordReading.many_error {α : Type} {reading : RecordReading α} {file : Bytes}
    {start size failing : Nat} {fault : RecordFault} {passes : Nat → Prop} {read : Nat → α}
    (first count : Nat)
    (each : ∀ record < first + count, ∀ item rest,
      reading (file.drop (start + record * size)) = .ok (item, rest) ↔
        passes record ∧ item = read record ∧ rest = file.drop (start + (record + 1) * size))
    (refused : many reading count first (file.drop (start + first * size)) =
      .error (failing, fault)) :
    failing < first + count ∧ ¬passes failing ∧
      ∀ earlier, first ≤ earlier → earlier < failing → passes earlier := by
  -- On the records left, the first of which moves on with the index that would be told of it.
  induction count generalizing first with
  | zero => cases refused
  | succ count ih =>
      have here := each first (by omega)
      unfold many at refused
      cases outcome : reading (file.drop (start + first * size)) with
      | error reason =>
          rw [outcome] at refused
          cases refused
          refine ⟨by omega, ?_, fun earlier above before => by omega⟩
          intro passed
          cases outcome.symm.trans ((here _ _).mpr ⟨passed, rfl, rfl⟩)
      | ok result =>
          obtain ⟨item, rest⟩ := result
          obtain ⟨passed, rfl, rfl⟩ := (here item rest).mp outcome
          rw [outcome] at refused
          dsimp only at refused
          cases behind : many reading count (first + 1)
              (file.drop (start + (first + 1) * size)) with
          | ok items =>
              rw [behind] at refused
              cases refused
          | error reason =>
              rw [behind] at refused
              cases refused
              obtain ⟨below, unsound, before⟩ :=
                ih (first + 1) (fun record bound => each record (by omega)) behind
              refine ⟨by omega, unsound, ?_⟩
              intro earlier above lower
              rcases Nat.eq_or_lt_of_le above with rfl | beyond
              · exact passed
              · exact before earlier beyond lower

namespace InfoFile

variable {header : Header} {file : Bytes} {part : Section} {fault : InfoFault}

/-- A fault of the records of the file, as it is told. -/
def Refuses (header : Header) (file : Bytes) (fault : InfoFault) : Prop :=
  ∃ part index, fault = .record part index ∧ FirstBroken header file part index

theorem readRecords_error {α : Type} {reading : RecordReading α} {read : Nat → α}
    (places : header.Places file.length part)
    (each : ∀ {position : Nat}, position + part.itemSize.toNat ≤ file.length → ∀ item rest,
      reading (file.drop position) = .ok (item, rest) ↔
        RecordSound header file part position ∧ item = read position ∧
          rest = file.drop (position + part.itemSize.toNat))
    (refused : readRecords header file part reading = .error fault) :
    Refuses header file fault := by
  unfold readRecords at refused
  cases outcome : RecordReading.many reading (header.sections.get part).count.toNat 0
      (fromSection header file part) with
  | ok items =>
      rw [outcome] at refused
      cases refused
  | error reason =>
      obtain ⟨index, short⟩ := reason
      rw [outcome] at refused
      cases refused
      have start : fromSection header file part =
          file.drop ((header.sections.get part).offset.toNat + 0 * part.itemSize.toNat) := by
        rw [Nat.zero_mul]
        rfl
      rw [start] at outcome
      obtain ⟨below, unsound, before⟩ :=
        RecordReading.many_error 0 (header.records part) (fun _ => record_at places each) outcome
      rw [Nat.zero_add] at below
      refine ⟨part, index, rfl, below, places.record_le below, broken_of_not_sound unsound, ?_⟩
      intro earlier lower
      exact before earlier (Nat.zero_le earlier) lower

theorem readLists_error (places : ∀ part, header.Places file.length part) {names : List String}
    (known : names.length = header.records .names)
    (refused : readLists header file names.toArray = .error fault) :
    Refuses header file fault := by
  unfold readLists at refused
  simp only [bind_eq_error_iff] at refused
  rcases refused with dependencies | ⟨_, _, pragmas | ⟨_, _, objectSlots | ⟨_, _, globals |
    ⟨_, _, functionNames | ⟨_, _, kernels | ⟨_, _, functions | ⟨_, _, impossible⟩⟩⟩⟩⟩⟩⟩
  · exact readRecords_error (places _) (RecordReading.dependency_at known) dependencies
  · exact readRecords_error (places _) (RecordReading.pragma_at known) pragmas
  · exact readRecords_error (places _) RecordReading.objectSlot_at objectSlots
  · exact readRecords_error (places _) (RecordReading.exportedVariable_at known) globals
  · exact readRecords_error (places _) (RecordReading.name_at known) functionNames
  · exact readRecords_error (places _) (RecordReading.kernelEntry_at known) kernels
  · exact readRecords_error (places _) (RecordReading.function_at known) functions
  · cases impossible

/-- Whatever the file, reading it meets no guard. Once the header is accepted, every list begins in
the file, the names can all be read, and a list is refused only because of what is said in one of
its records, the first that says such a thing. -/
theorem parse_is_safe (file : Bytes) :
    (Guarded.parse file).run = .ok (parse file) ∧
      ∀ header : Header, header.check file.length = .ok () →
        (∀ part, Cursor.at? file (header.sections.get part).offset.toNat =
          some ⟨(header.sections.get part).offset.toNat, fromSection header file part⟩) ∧
        readNames header file ≠ .error (.outOfBounds .names) ∧
        ∀ names fault, readNames header file = .ok names →
          readLists header file names.toArray = .error fault →
            ∃ part index, fault = .record part index ∧ FirstBroken header file part index := by
  refine ⟨Guarded.ends_parse file, ?_⟩
  intro header checked
  obtain ⟨_, _, _, places⟩ := Header.check_eq_ok_iff.mp checked
  refine ⟨fun part => Guarded.at?_offset (places part), ?_, ?_⟩
  · intro short
    rw [readNames_eq (places .names)] at short
    cases decoded : NamePool.decode (entriesOf header file) (nameData header file) with
    | ok names =>
        rw [decoded] at short
        cases short
    | error fault =>
        rw [decoded] at short
        cases short
  · intro names fault named refused
    obtain ⟨_, rfl⟩ := (readNames_eq_ok_iff (places .names)).mp named
    exact readLists_error places (length_namesOf header file) refused

/-- The second of the functions goes on behind the end of the image. -/
def strayFile : Bytes :=
  (Metadata.encode { functions := [⟨"f", 0x1000, 4⟩, ⟨"g", 0x100e, 4⟩] } 0x1000
    (.zeros 16)).toOption.getD []

theorem parse_is_safe_stray :
    (Guarded.parse strayFile).run = .ok (.error (.record .functions 1)) ∧
      FirstBroken (.of strayFile) strayFile .functions 1 := by
  have checked : (Header.of strayFile).check strayFile.length = .ok () := by decide +kernel
  have named : readNames (.of strayFile) strayFile = .ok ["f", "g"] := by decide +kernel
  have refused : readLists (.of strayFile) strayFile #["f", "g"] =
      .error (.record .functions 1) := by decide +kernel
  have parsed : parse strayFile = .error (.record .functions 1) := by decide +kernel
  obtain ⟨unguarded, safe⟩ := parse_is_safe strayFile
  obtain ⟨_, _, broken⟩ := safe _ checked
  obtain ⟨part, index, same, first⟩ := broken ["f", "g"] _ named refused
  cases same
  exact ⟨parsed ▸ unguarded, first⟩

end InfoFile

end KernelStore
