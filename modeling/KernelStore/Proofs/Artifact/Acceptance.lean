import KernelStore.Proofs.Artifact.Format
import KernelStore.Proofs.Artifact.RecordReading

/-!
Which files are accepted, and what is read of them. Main statement: reading a file succeeds just if
the file is sound, and yields what the format says of it.
-/

namespace KernelStore

open InfoFormat

/-! ### The checks of the header -/

theorem require_eq_ok_iff {ε : Type} {condition : Bool} {fault : ε} {done : Unit} :
    require condition fault = .ok done ↔ condition = true := by
  unfold require
  cases condition <;> simp

namespace Header

theorem checkHost_eq_ok_iff {host : Host} {done : Unit} :
    checkHost host = .ok done ↔ host = .current := by
  obtain ⟨endianness, fileOffsetSize, wordSize, pointerSize⟩ := host
  simp only [checkHost, bind_eq_ok_iff, require_eq_ok_iff, exists_and_left, exists_const,
    beq_iff_eq, Host.current, Host.mk.injEq]
  constructor
  · rintro ⟨rfl, rfl, rfl, rfl⟩
    exact ⟨rfl, rfl, rfl, rfl⟩
  · rintro ⟨rfl, rfl, rfl, rfl⟩
    exact ⟨rfl, rfl, rfl, rfl⟩

variable {header : Header} {fileSize : Nat} {done : Unit}

theorem checkSection_eq_ok_iff {part : Section} :
    header.checkSection fileSize part = .ok done ↔ header.Places fileSize part := by
  have stop (itemSize : (header.sections.get part).itemSize = part.itemSize) :
      header.sectionStop part =
        (header.sections.get part).offset.toNat + header.extent part := by
    rw [sectionStop, SectionDescriptor.stop, itemSize, Nat.add_assoc]
    rfl
  simp only [checkSection, bind_eq_ok_iff, require_eq_ok_iff, exists_and_left, exists_const,
    beq_iff_eq, Bool.and_eq_true, decide_eq_true_eq]
  constructor
  · rintro ⟨itemSize, aligned, behindHeader, inside⟩
    exact ⟨itemSize, aligned, behindHeader, stop itemSize ▸ inside⟩
  · rintro ⟨itemSize, aligned, behindHeader, inside⟩
    exact ⟨itemSize, aligned, behindHeader, (stop itemSize).symm ▸ inside⟩

theorem checkSections_eq_ok_iff {parts : List Section} :
    header.checkSections fileSize parts = .ok done ↔
      ∀ part ∈ parts, header.Places fileSize part := by
  induction parts with
  | nil => simp [checkSections]
  | cons part rest ih =>
      simp only [checkSections, bind_eq_ok_iff, checkSection_eq_ok_iff, ih, exists_const,
        List.forall_mem_cons]

theorem check_eq_ok_iff :
    header.check fileSize = .ok done ↔
      header.magic = currentMagic ∧ header.version = currentVersion ∧ header.host = .current ∧
        ∀ part, header.Places fileSize part := by
  simp only [check, bind_eq_ok_iff, require_eq_ok_iff, checkHost_eq_ok_iff,
    checkSections_eq_ok_iff, exists_and_left, exists_const, beq_iff_eq]
  constructor
  · rintro ⟨magic, version, host, sections⟩
    exact ⟨magic, version, host, fun part => sections part (Section.mem_all part)⟩
  · rintro ⟨magic, version, host, sections⟩
    exact ⟨magic, version, host, fun part _ => sections part⟩

end Header

/-! ### Flags -/

namespace Header

theorem and_flag_eq (flags : UInt32) {bit : Nat} {flag : UInt32} (single : flag.toNat = 2 ^ bit) :
    flags &&& flag = if flags.toNat.testBit bit then flag else 0 := by
  apply UInt32.toNat_inj.mp
  rw [UInt32.toNat_and, single, Nat.and_two_pow]
  cases flags.toNat.testBit bit with
  | true => rw [if_pos rfl, single, Bool.toNat_true, Nat.one_mul]
  | false => rw [if_neg Bool.false_ne_true, Bool.toNat_false, Nat.zero_mul]; rfl

theorem testFlag_eq (flags : UInt32) {bit : Nat} {flag : UInt32} (single : flag.toNat = 2 ^ bit) :
    (flags &&& flag != 0) = flags.toNat.testBit bit := by
  have nonzero : flag ≠ 0 := by
    rintro rfl
    exact absurd single.symm (Nat.two_pow_pos bit).ne'
  rw [and_flag_eq flags single]
  cases flags.toNat.testBit bit with
  | true => exact bne_iff_ne.mpr nonzero
  | false => rfl

theorem threadable_eq (header : Header) : header.threadable = header.flags.toNat.testBit 0 :=
  testFlag_eq header.flags rfl

theorem debugInfo_eq (header : Header) : header.debugInfo = header.flags.toNat.testBit 1 :=
  testFlag_eq header.flags rfl

end Header

/-! ### Records at their positions -/

theorem ResourceKind.ofCode?_eq_some_iff {code : UInt32} {kind : ResourceKind} :
    ofCode? code = some kind ↔
      (code = 0 ∨ code = 1) ∧ kind = if code = 0 then .runtime else .source := by
  by_cases zero : code = 0
  · subst zero
    simp [ofCode?, all, ResourceKind.code, eq_comm]
  · by_cases one : code = 1
    · subst one
      simp [ofCode?, all, ResourceKind.code, eq_comm]
    · simp [ofCode?, all, ResourceKind.code, zero, one, Ne.symm zero, Ne.symm one]

namespace RecordReading

theorem bind_eq_ok_iff {α β : Type} {reading : RecordReading α} {next : α → RecordReading β}
    {input : Bytes} {outcome : β × Bytes} :
    (reading >>= next) input = .ok outcome ↔
      ∃ value rest, reading input = .ok (value, rest) ∧ next value rest = .ok outcome := by
  change (reading input >>= fun result => next result.1 result.2) = .ok outcome ↔ _
  rw [KernelStore.bind_eq_ok_iff, Prod.exists]

theorem pure_eq_ok_iff {α : Type} {value result : α} {input rest : Bytes} :
    (pure value : RecordReading α) input = .ok (result, rest) ↔ result = value ∧ rest = input := by
  change Except.ok (value, input) = .ok (result, rest) ↔ _
  simp [eq_comm]

theorem demand_eq_ok_iff {α : Type} {fault : RecordFault} {wanted : Option α} {value : α}
    {input rest : Bytes} :
    demand fault wanted input = .ok (value, rest) ↔ wanted = some value ∧ rest = input := by
  cases wanted with
  | none => simp [demand]
  | some found =>
      change Except.ok (found, input) = .ok (value, rest) ↔ _
      simp [eq_comm]

variable {file rest : Bytes} {position : Nat}

theorem field_eq_ok_iff {α : Type} {reading : Reading α} {value found : α} {behind : Bytes}
    (read : reading (file.drop position) = some (found, behind)) :
    field reading (file.drop position) = .ok (value, rest) ↔ value = found ∧ rest = behind := by
  rw [field, read]
  simp [eq_comm]

theorem demand_ite_eq_ok_iff {α : Type} {fault : RecordFault} {condition : Bool}
    {value found : α} {input rest : Bytes} :
    demand fault (if condition then some found else none) input = .ok (value, rest) ↔
      condition = true ∧ value = found ∧ rest = input := by
  rw [demand_eq_ok_iff, Option.ite_none_right_eq_some, Option.some.injEq, and_assoc,
    @eq_comm α found value]

section

variable {header : Header} {names : List String} (known : names.length = header.records .names)

include known

theorem name_eq_ok_iff {text : String} (enough : position + 4 ≤ file.length) :
    name names.toArray (file.drop position) = .ok (text, rest) ↔
      (file.wordAt position).toNat < header.records .names ∧ text = nameAt file names position ∧
        rest = file.drop (position + 4) := by
  simp only [name, bind_eq_ok_iff, field_eq_ok_iff (Reading.u32_at enough), demand_eq_ok_iff,
    List.getElem?_toArray, and_assoc, exists_and_left, exists_eq_left, ← known, nameAt]
  constructor
  · rintro ⟨found, rfl⟩
    obtain ⟨below, rfl⟩ := List.getElem?_eq_some_iff.mp found
    exact ⟨below, (List.getD_eq_getElem names "" below).symm, rfl⟩
  · rintro ⟨below, rfl, rfl⟩
    rw [List.getElem?_eq_getElem below, List.getD_eq_getElem names "" below]
    exact ⟨rfl, rfl⟩

theorem name_at (enough : position + 4 ≤ file.length) (text : String) (rest : Bytes) :
    name names.toArray (file.drop position) = .ok (text, rest) ↔
      RecordSound header file .functionNames position ∧ text = nameAt file names position ∧
        rest = file.drop (position + 4) := by
  rw [name_eq_ok_iff known enough]
  simp [recordSound_iff, Section.references]

theorem dependency_at (enough : position + 28 ≤ file.length) (item : Dependency) (rest : Bytes) :
    dependency names.toArray (file.drop position) = .ok (item, rest) ↔
      RecordSound header file .dependencies position ∧ item = dependencyAt file names position ∧
        rest = file.drop (position + 28) := by
  have first : position + 4 ≤ file.length := by omega
  have kind := Reading.u32_at (show position + 4 + 4 ≤ file.length by omega)
  have digest := Reading.fixed_at (show position + 4 + 4 + 20 ≤ file.length by omega)
  simp only [dependency, bind_eq_ok_iff, name_eq_ok_iff known first, field_eq_ok_iff kind,
    field_eq_ok_iff digest, demand_eq_ok_iff, ResourceKind.ofCode?_eq_some_iff, pure_eq_ok_iff,
    and_assoc, exists_and_left, exists_eq_left]
  simp [recordSound_iff, Section.references, dependencyAt, and_assoc]

theorem pragma_at (enough : position + 8 ≤ file.length) (item : Pragma) (rest : Bytes) :
    pragma names.toArray (file.drop position) = .ok (item, rest) ↔
      RecordSound header file .pragmas position ∧ item = pragmaAt file names position ∧
        rest = file.drop (position + 8) := by
  have first : position + 4 ≤ file.length := by omega
  have second : position + 4 + 4 ≤ file.length := by omega
  simp only [pragma, bind_eq_ok_iff, name_eq_ok_iff known first, name_eq_ok_iff known second,
    pure_eq_ok_iff, and_assoc, exists_and_left, exists_eq_left]
  simp [recordSound_iff, Section.references, pragmaAt, and_assoc]

theorem exportedVariable_at (enough : position + 16 ≤ file.length) (item : ExportedVariable)
    (rest : Bytes) :
    exportedVariable header names.toArray (file.drop position) = .ok (item, rest) ↔
      RecordSound header file .globals position ∧ item = exportedVariableAt file names position ∧
        rest = file.drop (position + 16) := by
  have address := Reading.u64_at (show position + 8 ≤ file.length by omega)
  have second : position + 8 + 4 ≤ file.length := by omega
  have unused := Reading.u32_at (show position + 8 + 4 + 4 ≤ file.length by omega)
  simp only [exportedVariable, bind_eq_ok_iff, field_eq_ok_iff address, field_eq_ok_iff unused,
    name_eq_ok_iff known second, demand_ite_eq_ok_iff, Header.holds_iff, and_assoc,
    exists_and_left, exists_eq_left]
  simp [recordSound_iff, Section.references, exportedVariableAt, and_assoc]

theorem kernelEntry_at (enough : position + 8 ≤ file.length) (item : KernelEntry) (rest : Bytes) :
    kernelEntry names.toArray (file.drop position) = .ok (item, rest) ↔
      RecordSound header file .kernels position ∧ item = kernelEntryAt file names position ∧
        rest = file.drop (position + 8) := by
  have first : position + 4 ≤ file.length := by omega
  have signature := Reading.u32_at (show position + 4 + 4 ≤ file.length by omega)
  simp only [kernelEntry, bind_eq_ok_iff, field_eq_ok_iff signature, name_eq_ok_iff known first,
    pure_eq_ok_iff, and_assoc, exists_and_left, exists_eq_left]
  simp [recordSound_iff, Section.references, kernelEntryAt]

theorem function_at (enough : position + 16 ≤ file.length) (item : FunctionRecord)
    (rest : Bytes) :
    function header names.toArray (file.drop position) = .ok (item, rest) ↔
      RecordSound header file .functions position ∧ item = functionAt file names position ∧
        rest = file.drop (position + 16) := by
  have address := Reading.u64_at (show position + 8 ≤ file.length by omega)
  have size := Reading.u32_at (show position + 8 + 4 ≤ file.length by omega)
  have third : position + 8 + 4 + 4 ≤ file.length := by omega
  simp only [function, bind_eq_ok_iff, field_eq_ok_iff address, field_eq_ok_iff size,
    name_eq_ok_iff known third, demand_ite_eq_ok_iff, Header.holds_iff, and_assoc,
    exists_and_left, exists_eq_left]
  simp [recordSound_iff, Section.references, functionAt, and_assoc]

end

theorem objectSlot_at {header : Header} (enough : position + 4 ≤ file.length) (item : UInt32)
    (rest : Bytes) :
    objectSlot (file.drop position) = .ok (item, rest) ↔
      RecordSound header file .objectSlots position ∧ item = file.wordAt position ∧
        rest = file.drop (position + 4) := by
  rw [objectSlot, field_eq_ok_iff (Reading.u32_at enough)]
  simp [recordSound_iff, Section.references]

/-! ### Lists of records -/

/-- The records from one of them on, if each is read at its position. -/
theorem many_eq_ok_iff {α : Type} {reading : RecordReading α} {start size : Nat}
    {passes : Nat → Prop} {read : Nat → α} (first count index : Nat)
    (each : ∀ record < first + count, ∀ item rest,
      reading (file.drop (start + record * size)) = .ok (item, rest) ↔
        passes record ∧ item = read record ∧ rest = file.drop (start + (record + 1) * size))
    (items : List α) :
    many reading count index (file.drop (start + first * size)) = .ok items ↔
      (∀ record, first ≤ record → record < first + count → passes record) ∧
        items = (List.range' first count).map read := by
  induction count generalizing first index items with
  | zero =>
      rw [many, List.range'_zero, List.map_nil]
      constructor
      · intro same
        cases same
        exact ⟨fun record above below => by omega, rfl⟩
      · rintro ⟨_, rfl⟩
        rfl
  | succ count ih =>
      have here := each first (by omega)
      have later := ih (first + 1) (index + 1) fun record below => each record (by omega)
      rw [many, List.range'_succ, List.map_cons]
      cases outcome : reading (file.drop (start + first * size)) with
      | error fault =>
          constructor
          · intro same
            cases same
          · rintro ⟨sound, _⟩
            have read := (here _ _).mpr ⟨sound first (Nat.le_refl first) (by omega), rfl, rfl⟩
            rw [outcome] at read
            cases read
      | ok result =>
          obtain ⟨item, rest⟩ := result
          obtain ⟨sound, rfl, rfl⟩ := (here item rest).mp outcome
          dsimp only
          constructor
          · intro same
            cases behind : many reading count (index + 1)
                (file.drop (start + (first + 1) * size)) with
            | error fault =>
                rw [behind] at same
                cases same
            | ok others =>
                rw [behind] at same
                cases same
                obtain ⟨otherSound, rfl⟩ := (later others).mp behind
                refine ⟨?_, rfl⟩
                intro record above below
                rcases Nat.eq_or_lt_of_le above with rfl | beyond
                · exact sound
                · exact otherSound record beyond (by omega)
          · rintro ⟨all, rfl⟩
            rw [(later _).mpr ⟨fun record above below => all record (by omega) (by omega), rfl⟩]
            rfl

end RecordReading

theorem mapError_eq_ok_iff {ε φ α : Type} {change : ε → φ} {outcome : Except ε α} {value : α} :
    outcome.mapError change = .ok value ↔ outcome = .ok value := by
  cases outcome <;> simp [Except.mapError]

/-! ### Names -/

namespace NamePool

theorem nameAt_eq_ok_iff {data : Bytes} {offset length : Nat} {name : String} :
    nameAt data.toArray offset length = .ok name ↔
      NameSound data offset length ∧ name = nameIn data offset length := by
  have named :
      (data.toArray.extract offset (offset + length)).toList = data.part offset length := by
    simp [Bytes.part]
  unfold nameAt nameIn
  rw [List.getElem?_toArray, named]
  cases last : data[offset + length]? with
  | none =>
      constructor
      · intro same
        cases same
      · rintro ⟨sound, _⟩
        cases last.symm.trans sound.terminated
  | some byte =>
      have inside := (List.getElem?_eq_some_iff.mp last).1
      dsimp only
      by_cases zero : byte = 0
      · subst zero
        rw [if_neg (not_not.mpr rfl)]
        cases decoded : Utf8.decode? (data.part offset length) with
        | none =>
            constructor
            · intro same
              cases same
            · rintro ⟨⟨_, _, text, encoded⟩, _⟩
              rw [← encoded, Utf8.decode?_encode] at decoded
              cases decoded
        | some text =>
            have sound : NameSound data offset length :=
              ⟨inside, last, text, Utf8.encode_of_decode? decoded⟩
            simp [sound, eq_comm]
      · rw [if_pos zero]
        constructor
        · intro same
          cases same
        · rintro ⟨sound, _⟩
          exact absurd (Option.some.inj (last.symm.trans sound.terminated)) zero

theorem namesFrom_eq_ok_iff {data : Bytes} {index : Nat} {entries : List (UInt32 × UInt32)}
    {names : List String} :
    namesFrom data.toArray index entries = .ok names ↔
      (∀ entry ∈ entries, NameSound data entry.1.toNat entry.2.toNat) ∧
        names = entries.map fun entry => nameIn data entry.1.toNat entry.2.toNat := by
  induction entries generalizing index names with
  | nil => simp [namesFrom, eq_comm]
  | cons entry rest ih =>
      obtain ⟨offset, length⟩ := entry
      rw [namesFrom, List.forall_mem_cons, List.map_cons]
      cases named : nameAt data.toArray offset.toNat length.toNat with
      | error fault =>
          constructor
          · intro same
            cases same
          · rintro ⟨⟨sound, _⟩, _⟩
            cases named.symm.trans (nameAt_eq_ok_iff.mpr ⟨sound, rfl⟩)
      | ok name =>
          obtain ⟨sound, rfl⟩ := nameAt_eq_ok_iff.mp named
          dsimp only
          constructor
          · intro same
            cases later : namesFrom data.toArray (index + 1) rest with
            | error fault =>
                rw [later] at same
                cases same
            | ok others =>
                rw [later] at same
                cases same
                obtain ⟨otherSound, rfl⟩ := ih.mp later
                exact ⟨⟨sound, otherSound⟩, rfl⟩
          · rintro ⟨⟨_, others⟩, rfl⟩
            rw [ih.mpr ⟨others, rfl⟩]
            rfl

end NamePool

namespace InfoFile

variable {header : Header} {file : Bytes}

theorem readEntries_at {position count : Nat} (enough : position + count * 8 ≤ file.length) :
    readEntries count (file.drop position) =
      some ((List.range count).map fun index => entryAt file (position + index * 8),
        file.drop (position + count * 8)) := by
  induction count generalizing position with
  | zero => simp [readEntries, pure, StateT.pure]
  | succ count ih =>
      have offset := Reading.u32_at (show position + 4 ≤ file.length by omega)
      have length := Reading.u32_at (show position + 4 + 4 ≤ file.length by omega)
      have later := ih (show position + 4 + 4 + count * 8 ≤ file.length by omega)
      have next (index : Nat) : position + 4 + 4 + index * 8 = position + (index + 1) * 8 := by
        omega
      rw [readEntries, Reading.bind_of_some offset, Reading.bind_of_some length,
        Reading.bind_of_some later, List.range_succ_eq_map, List.map_cons, List.map_map]
      simp only [next, Nat.zero_mul, Nat.add_zero]
      rfl

/-- The entries of the names can all be read, and what is behind them. -/
theorem readEntries_names (places : header.Places file.length .names) :
    readEntries (header.sections.get .names).count.toNat (fromSection header file .names) =
      some (entriesOf header file, file.drop (header.recordAt .names (header.records .names))) := by
  have inside : (header.sections.get .names).offset.toNat
      + ((header.sections.get .names).count.toNat * 8 + header.nameDataSize.toNat) ≤
      file.length := places.inside
  apply readEntries_at
  omega

theorem take_nameData (places : header.Places file.length .names) :
    Reading.take header.nameDataSize.toNat
        (file.drop (header.recordAt .names (header.records .names))) =
      some (nameData header file, file.drop (header.recordAt .names (header.records .names)
        + header.nameDataSize.toNat)) := by
  have inside : (header.sections.get .names).offset.toNat
      + ((header.sections.get .names).count.toNat * 8 + header.nameDataSize.toNat) ≤
      file.length := places.inside
  apply Reading.take_at
  change (header.sections.get .names).offset.toNat
    + (header.sections.get .names).count.toNat * 8 + _ ≤ _
  omega

theorem readNames_eq (places : header.Places file.length .names) :
    readNames header file =
      (NamePool.decode (entriesOf header file) (nameData header file)).mapError
        fun (index, fault) => .names (fault.message index) := by
  unfold readNames
  dsimp only
  rw [Reading.bind_of_some (readEntries_names places), Reading.bind_of_some (take_nameData places)]
  rfl

theorem readNames_eq_ok_iff (places : header.Places file.length .names) {names : List String} :
    readNames header file = .ok names ↔
      (∀ entry ∈ entriesOf header file,
        NameSound (nameData header file) entry.1.toNat entry.2.toNat) ∧
        names = namesOf header file := by
  rw [readNames_eq places, mapError_eq_ok_iff, NamePool.decode, NamePool.namesFrom_eq_ok_iff]
  rfl

/-! ### Lists of records -/

section

variable {α : Type} {part : Section} {reading : RecordReading α} {read : Nat → α}
  (places : header.Places file.length part)
  (each : ∀ {position : Nat}, position + part.itemSize.toNat ≤ file.length → ∀ item rest,
    reading (file.drop position) = .ok (item, rest) ↔
      RecordSound header file part position ∧ item = read position ∧
        rest = file.drop (position + part.itemSize.toNat))

include places each

/-- A record whose reading says what is at its position does so at its place in the list, behind
which the next record is. -/
theorem record_at {index : Nat} (below : index < 0 + header.records part) (item : α)
    (rest : Bytes) :
    reading (file.drop ((header.sections.get part).offset.toNat + index * part.itemSize.toNat)) =
        .ok (item, rest) ↔
      RecordSound header file part (header.recordAt part index) ∧
        item = read (header.recordAt part index) ∧
        rest = file.drop ((header.sections.get part).offset.toNat
          + (index + 1) * part.itemSize.toNat) := by
  have here := each (places.record_le (by omega : index < header.records part)) item rest
  rwa [Header.recordAt, Nat.add_assoc, ← Nat.succ_mul] at here

theorem readRecords_eq_ok_iff (items : List α) :
    readRecords header file part reading = .ok items ↔
      (∀ index < header.records part,
        RecordSound header file part (header.recordAt part index)) ∧
        items = listOf header part read := by
  have many := RecordReading.many_eq_ok_iff 0 (header.records part) 0
    (fun _ => record_at places each) items
  rw [Nat.zero_mul, Nat.add_zero, ← List.range_eq_range'] at many
  unfold readRecords
  rw [mapError_eq_ok_iff]
  refine many.trans (and_congr_left' ?_)
  constructor
  · intro sound index below
    exact sound index (Nat.zero_le index) (by omega)
  · intro sound index _ below
    exact sound index (by omega)

end

theorem readLists_eq_ok_iff (places : ∀ part, header.Places file.length part)
    {names : List String} (known : names.length = header.records .names) {metadata : Metadata} :
    readLists header file names.toArray = .ok metadata ↔
      (∀ part, ∀ index < header.records part,
        RecordSound header file part (header.recordAt part index)) ∧
        metadata = metadataOf header file names := by
  have dependencies := readRecords_eq_ok_iff (places .dependencies)
    (RecordReading.dependency_at known)
  have pragmas := readRecords_eq_ok_iff (places .pragmas)
    (RecordReading.pragma_at known)
  have objectSlots := readRecords_eq_ok_iff (places .objectSlots)
    RecordReading.objectSlot_at
  have globals := readRecords_eq_ok_iff (places .globals)
    (RecordReading.exportedVariable_at known)
  have functionNames := readRecords_eq_ok_iff (places .functionNames)
    (RecordReading.name_at known)
  have kernels := readRecords_eq_ok_iff (places .kernels)
    (RecordReading.kernelEntry_at known)
  have functions := readRecords_eq_ok_iff (places .functions)
    (RecordReading.function_at known)
  unfold readLists
  simp only [bind_eq_ok_iff, dependencies, pragmas, objectSlots, globals, functionNames, kernels,
    functions, and_assoc, exists_and_left, exists_eq_left]
  constructor
  · rintro ⟨dependency, pragma, objectSlot, exported, functionName, kernel, function, made⟩
    refine ⟨?_, ?_⟩
    · intro part
      cases part with
      | names => exact fun index _ => (recordSound_iff ..).mpr (by simp [Section.references])
      | dependencies => exact dependency
      | pragmas => exact pragma
      | objectSlots => exact objectSlot
      | globals => exact exported
      | functionNames => exact functionName
      | kernels => exact kernel
      | functions => exact function
    · cases made
      unfold metadataOf
      rw [header.threadable_eq, header.debugInfo_eq]
  · rintro ⟨sound, rfl⟩
    refine ⟨sound _, sound _, sound _, sound _, sound _, sound _, sound _, ?_⟩
    unfold metadataOf
    rw [header.threadable_eq, header.debugInfo_eq]
    rfl

/-! ### Files -/

theorem length_namesOf (header : Header) (file : Bytes) :
    (namesOf header file).length = header.records .names := by
  rw [namesOf, entriesOf, listOf, List.length_map, List.length_map, List.length_range]

theorem take_front {file : Bytes} (enough : 140 ≤ file.length) :
    file.take 16 = (Header.of file).magic.val ++ (Header.of file).version.val
      ++ [(Header.of file).host.endianness, (Header.of file).host.fileOffsetSize,
        (Header.of file).host.wordSize, (Header.of file).host.pointerSize] := by
  have magic : (Header.of file).magic.val = file.part 0 8 := Bytes.val_fixedAt (by omega)
  have version : (Header.of file).version.val = file.part 8 4 := Bytes.val_fixedAt (by omega)
  have host :
      file.part 12 4 = [file.byteAt 12, file.byteAt 13, file.byteAt 14, file.byteAt 15] := by
    have byte (position : Nat) (inside : position < 140) :=
      Bytes.part_one (show position + 1 ≤ file.length by omega)
    rw [← Bytes.part_append file 12 1 3, ← Bytes.part_append file 13 1 2,
      ← Bytes.part_append file 14 1 1, byte 12 (by omega), byte 13 (by omega), byte 14 (by omega),
      byte 15 (by omega)]
    rfl
  change file.part 0 16 =
    _ ++ _ ++ [file.byteAt 12, file.byteAt 13, file.byteAt 14, file.byteAt 15]
  rw [magic, version, ← host, Bytes.part_append file 0 8 4, Bytes.part_append file 0 12 4]

theorem take_eq_front_iff {file : Bytes} (enough : 140 ≤ file.length) :
    file.take 16 = front ↔ (Header.of file).magic = Header.currentMagic ∧
      (Header.of file).version = Header.currentVersion ∧ (Header.of file).host = .current := by
  rw [take_front enough, front]
  generalize Header.of file = header
  obtain ⟨magic, version, ⟨endianness, fileOffsetSize, wordSize, pointerSize⟩⟩ := header
  constructor
  · intro same
    obtain ⟨early, host⟩ := List.append_inj same (by
      simp [magic.property, version.property, Header.currentMagic.property,
        Header.currentVersion.property])
    obtain ⟨magicSame, versionSame⟩ := List.append_inj early (by
      rw [magic.property, Header.currentMagic.property])
    refine ⟨Subtype.ext magicSame, Subtype.ext versionSame, ?_⟩
    simpa [Host.current] using host
  · rintro ⟨rfl, rfl, host⟩
    cases host
    rfl

/-- A file is read when each stage succeeds. -/
theorem parse_stages {info : InfoFile} :
    parse file = .ok info ↔
      140 ≤ file.length ∧ info.header = .of file ∧ (Header.of file).check file.length = .ok () ∧
        ∃ names, readNames (.of file) file = .ok names ∧
          readLists (.of file) file names.toArray = .ok info.metadata := by
  unfold parse
  cases read : Header.reading file with
  | none =>
      constructor
      · intro same
        cases same
      · rintro ⟨enough, _⟩
        cases read.symm.trans (Header.reading_of enough)
  | some result =>
      obtain ⟨header, rest⟩ := result
      obtain ⟨enough, rfl, _⟩ := Header.reading_eq_some_iff.mp read
      simp only [bind_eq_ok_iff]
      constructor
      · rintro ⟨_, checked, names, named, metadata, listed, made⟩
        cases made
        exact ⟨enough, rfl, checked, names, named, listed⟩
      · rintro ⟨_, same, checked, names, named, listed⟩
        refine ⟨(), checked, names, named, info.metadata, listed, ?_⟩
        rw [← same]
        rfl

theorem mem_listOf {α : Type} {header : Header} {part : Section} {read : Nat → α} {item : α}
    (member : item ∈ listOf header part read) :
    ∃ index < header.records part, item = read (header.recordAt part index) := by
  obtain ⟨index, below, rfl⟩ := List.mem_map.mp member
  exact ⟨index, List.mem_range.mp below, rfl⟩

/-- What is read of a file that is accepted, whose header and records are sound. -/
theorem parse_ok_reads {info : InfoFile} (parsed : parse file = .ok info) :
    (info.header = .of file ∧
      info.metadata = metadataOf (.of file) file (namesOf (.of file) file)) ∧
    ((Header.of file).magic = Header.currentMagic ∧
      (Header.of file).version = Header.currentVersion ∧ (Header.of file).host = .current) ∧
    ∀ part, ∀ index < (Header.of file).records part,
      RecordSound (.of file) file part ((Header.of file).recordAt part index) := by
  obtain ⟨_, header, checked, names, named, listed⟩ := parse_stages.mp parsed
  obtain ⟨magic, version, host, places⟩ := Header.check_eq_ok_iff.mp checked
  obtain ⟨_, rfl⟩ := (readNames_eq_ok_iff (places .names)).mp named
  obtain ⟨sound, metadata⟩ :=
    (readLists_eq_ok_iff places (length_namesOf (.of file) file)).mp listed
  exact ⟨⟨header, metadata⟩, ⟨magic, version, host⟩, sound⟩

/-- The header of a file that is accepted is of this format and this machine, and the image that it
tells of has all functions and exported variables in it. -/
theorem parse_ok_inside {info : InfoFile} (parsed : parse file = .ok info) :
    (info.header.magic = Header.currentMagic ∧ info.header.version = Header.currentVersion ∧
      info.header.host = .current) ∧
    (∀ function ∈ info.metadata.functions,
      info.header.Encloses function.address.toNat function.size.toNat) ∧
    ∀ exported ∈ info.metadata.globals, info.header.Encloses exported.address.toNat 1 := by
  obtain ⟨⟨header, metadata⟩, ours, sound⟩ := parse_ok_reads parsed
  rw [header, metadata]
  refine ⟨ours, ?_, ?_⟩
  · intro function member
    obtain ⟨index, below, rfl⟩ := mem_listOf member
    simpa [functionAt] using (sound .functions index below).function rfl
  · intro exported member
    obtain ⟨index, below, rfl⟩ := mem_listOf member
    exact (sound .globals index below).exported rfl

/-- A file is accepted just if it is sound, and what is read of it is what the format says. -/
theorem parse_eq_ok_iff (file : Bytes) (info : InfoFile) :
    parse file = .ok info ↔ Sound file ∧ info = infoOf file := by
  rw [parse_stages]
  constructor
  · rintro ⟨size, header, checked, names, named, listed⟩
    obtain ⟨magic, version, host, places⟩ := Header.check_eq_ok_iff.mp checked
    obtain ⟨nameSound, rfl⟩ := (readNames_eq_ok_iff (places .names)).mp named
    obtain ⟨recordSound, metadata⟩ :=
      (readLists_eq_ok_iff places (length_namesOf _ _)).mp listed
    refine ⟨⟨size, (take_eq_front_iff size).mpr ⟨magic, version, host⟩, places, nameSound,
      recordSound⟩, ?_⟩
    cases info
    subst header metadata
    rfl
  · rintro ⟨sound, rfl⟩
    obtain ⟨magic, version, host⟩ := (take_eq_front_iff sound.size).mp sound.front
    have named := (readNames_eq_ok_iff (sound.sections .names)).mpr ⟨sound.names, rfl⟩
    have listed := (readLists_eq_ok_iff sound.sections (length_namesOf (.of file) file)).mpr
      ⟨sound.records, rfl⟩
    exact ⟨sound.size, rfl, Header.check_eq_ok_iff.mpr ⟨magic, version, host, sound.sections⟩, _,
      named, listed⟩

end InfoFile

end KernelStore
