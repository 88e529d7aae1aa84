import KernelStore.Artifact.Header.Steps
import KernelStore.Proofs.Artifact.Positions

/-!
Headers and byte strings of 140 bytes are the same thing. Main statement: writing a header appends
140 bytes, scanning them yields that header and stops behind them, every byte string that is not
shorter has a header, and writing it again yields the bytes that it was read from.
-/

namespace KernelStore

namespace LittleEndian

theorem decode_lt (bytes : Bytes) : decode bytes < 256 ^ bytes.length := by
  induction bytes with
  | nil => exact Nat.one_pos
  | cons byte rest ih =>
      have small := byte.toNat_lt
      rw [decode, List.length_cons, Nat.pow_succ]
      omega

theorem encode_decode (bytes : Bytes) : encode bytes.length (decode bytes) = bytes := by
  induction bytes with
  | nil => rfl
  | cons byte rest ih =>
      have small := byte.toNat_lt
      have low : UInt8.ofNat (byte.toNat + 256 * decode rest) = byte := by
        apply UInt8.toNat_inj.mp
        rw [UInt8.toNat_ofNat']
        omega
      have high : (byte.toNat + 256 * decode rest) / 256 = decode rest := by omega
      rw [decode, List.length_cons, encode, low, high, ih]

/-- A word has exactly the bytes that it was read from. -/
theorem encode_decode_mod {bytes : Bytes} {width : Nat} (length : bytes.length = width) :
    encode width (decode bytes % 2 ^ (8 * width)) = bytes := by
  subst length
  have small := decode_lt bytes
  rw [show 256 = 2 ^ 8 from rfl, ← Nat.pow_mul] at small
  rw [Nat.mod_eq_of_lt small, encode_decode]

end LittleEndian

/-! ### What was read, written again -/

namespace Reading

theorem bind_eq_some_iff {α β : Type} {reading : Reading α} {next : α → Reading β}
    {input rest : Bytes} {result : β} :
    (reading >>= next) input = some (result, rest) ↔
      ∃ value middle, reading input = some (value, middle) ∧
        next value middle = some (result, rest) := by
  change (reading input).bind (fun result => next result.1 result.2) = _ ↔ _
  rw [Option.bind_eq_some_iff, Prod.exists]

theorem pure_eq_some_iff {α : Type} {value result : α} {input rest : Bytes} :
    (pure value : Reading α) input = some (result, rest) ↔ value = result ∧ input = rest := by
  change some (value, input) = _ ↔ _
  rw [Option.some.injEq, Prod.mk.injEq]

theorem fixed_eq_some_iff {size : Nat} {input rest : Bytes} {value : FixedBytes size} :
    fixed size input = some (value, rest) ↔ input = value.val ++ rest := by
  constructor
  · intro read
    unfold fixed at read
    dsimp only at read
    split at read
    · cases read
      exact (List.take_append_drop _ _).symm
    · cases read
  · rintro rfl
    exact fixed_append value rest

theorem u8_eq_some_iff {input rest : Bytes} {value : UInt8} :
    u8 input = some (value, rest) ↔ input = value :: rest := by
  constructor
  · intro read
    obtain ⟨bytes, middle, taken, made⟩ := bind_eq_some_iff.mp read
    obtain ⟨rfl, length⟩ := take_eq_some_iff.mp taken
    obtain ⟨rfl, rfl⟩ := pure_eq_some_iff.mp made
    obtain ⟨byte, rfl⟩ := List.length_eq_one_iff.mp length
    simp [LittleEndian.decode]
  · rintro rfl
    exact u8_cons value rest

theorem u32_eq_some_iff {input rest : Bytes} {value : UInt32} :
    u32 input = some (value, rest) ↔ input = LittleEndian.ofUInt32 value ++ rest := by
  constructor
  · intro read
    obtain ⟨bytes, middle, taken, made⟩ := bind_eq_some_iff.mp read
    obtain ⟨rfl, length⟩ := take_eq_some_iff.mp taken
    obtain ⟨rfl, rfl⟩ := pure_eq_some_iff.mp made
    rw [LittleEndian.ofUInt32, UInt32.toNat_ofNat']
    exact congrArg (· ++ middle) (LittleEndian.encode_decode_mod length).symm
  · rintro rfl
    exact u32_append value rest

theorem u64_eq_some_iff {input rest : Bytes} {value : UInt64} :
    u64 input = some (value, rest) ↔ input = LittleEndian.ofUInt64 value ++ rest := by
  constructor
  · intro read
    obtain ⟨bytes, middle, taken, made⟩ := bind_eq_some_iff.mp read
    obtain ⟨rfl, length⟩ := take_eq_some_iff.mp taken
    obtain ⟨rfl, rfl⟩ := pure_eq_some_iff.mp made
    rw [LittleEndian.ofUInt64, UInt64.toNat_ofNat']
    exact congrArg (· ++ middle) (LittleEndian.encode_decode_mod length).symm
  · rintro rfl
    exact u64_append value rest

end Reading

open Reading (bind_of_some bind_eq_some_iff pure_eq_some_iff fixed_eq_some_iff u8_eq_some_iff
  u32_eq_some_iff u64_eq_some_iff)

theorem SectionDescriptor.encode_of_reading {descriptor : SectionDescriptor} {input rest : Bytes}
    (read : SectionDescriptor.reading input = some (descriptor, rest)) :
    input = descriptor.encode ++ rest := by
  simp only [SectionDescriptor.reading, bind_eq_some_iff, pure_eq_some_iff, u32_eq_some_iff] at read
  obtain ⟨offset, _, rfl, count, _, rfl, itemSize, _, rfl, rfl, rfl⟩ := read
  simp only [SectionDescriptor.encode, List.append_assoc]

theorem SectionTable.encode_of_reading {table : SectionTable} {input rest : Bytes}
    (read : SectionTable.reading input = some (table, rest)) : input = table.encode ++ rest := by
  simp only [SectionTable.reading, bind_eq_some_iff, pure_eq_some_iff] at read
  obtain ⟨names, _, first, dependencies, _, second, pragmas, _, third, objectSlots, _, fourth,
    globals, _, fifth, functionNames, _, sixth, kernels, _, seventh, functions, _, eighth, rfl,
    rfl⟩ := read
  rw [SectionDescriptor.encode_of_reading first, SectionDescriptor.encode_of_reading second,
    SectionDescriptor.encode_of_reading third, SectionDescriptor.encode_of_reading fourth,
    SectionDescriptor.encode_of_reading fifth, SectionDescriptor.encode_of_reading sixth,
    SectionDescriptor.encode_of_reading seventh, SectionDescriptor.encode_of_reading eighth]
  simp only [SectionTable.encode, Section.all, List.flatMap_cons, List.flatMap_nil,
    SectionTable.get, List.append_nil, List.append_assoc]

theorem Header.encode_of_reading {header : Header} {file rest : Bytes}
    (read : Header.reading file = some (header, rest)) : file = header.encode ++ rest := by
  simp only [Header.reading, bind_eq_some_iff, pure_eq_some_iff, fixed_eq_some_iff, u8_eq_some_iff,
    u32_eq_some_iff, u64_eq_some_iff] at read
  obtain ⟨magic, _, rfl, version, _, rfl, endianness, _, rfl, fileOffsetSize, _, rfl, wordSize, _,
    rfl, pointerSize, _, rfl, imageAddress, _, rfl, imageSize, _, rfl, checksum, _, rfl, flags, _,
    rfl, nameDataSize, _, rfl, sections, _, table, rfl, rfl⟩ := read
  rw [SectionTable.encode_of_reading table]
  simp only [Header.encode, List.append_assoc, List.cons_append, List.nil_append]

theorem Header.reading_eq_none_iff {file : Bytes} :
    Header.reading file = none ↔ file.length < Header.size := by
  rw [← Nat.not_le]
  constructor
  · intro failed enough
    rw [Header.reading_of enough] at failed
    cases failed
  · intro short
    cases read : Header.reading file with
    | none => rfl
    | some found => exact absurd (Header.reading_eq_some_iff.mp read).1 short

/-! ### Writing -/

namespace Writing

/-- Steps that append a block, whatever there is already. -/
def Appends (steps : Writing Unit) (block : Bytes) : Prop :=
  ∀ before, steps.run before = ((), before ++ block)

namespace Appends

theorem bytes (block : Bytes) : Appends (Writing.bytes block) block := fun _ => rfl

theorem u8 (value : UInt8) : Appends (Writing.u8 value) [value] := by
  intro before
  change ((), before.concat value) = _
  rw [List.concat_eq_append]

theorem andThen {first second : Writing Unit} {front behind : Bytes}
    (here : Appends first front) (later : Appends second behind) :
    Appends (first >>= fun _ => second) (front ++ behind) := by
  intro before
  rw [StateT.run_bind, here before, ← List.append_assoc]
  exact later _

theorem forM {α : Type} {write : α → Writing Unit} {encode : α → Bytes}
    (each : ∀ item, Appends (write item) (encode item)) (items : List α) :
    Appends (items.forM write) (items.flatMap encode) := by
  induction items with
  | nil => exact fun before => congrArg ((), ·) (List.append_nil before).symm
  | cons item rest ih => exact (each item).andThen ih

end Appends

end Writing

theorem SectionDescriptor.appends_write (descriptor : SectionDescriptor) :
    Writing.Appends descriptor.write descriptor.encode := by
  unfold SectionDescriptor.write SectionDescriptor.encode
  rw [List.append_assoc]
  exact (Writing.Appends.bytes _).andThen ((Writing.Appends.bytes _).andThen (.bytes _))

theorem SectionTable.appends_write (table : SectionTable) :
    Writing.Appends table.write table.encode :=
  .forM (fun part => (table.get part).appends_write) Section.all

theorem Header.appends_write (header : Header) :
    Writing.Appends header.write header.encode := by
  have flat : header.encode = header.magic.val ++ (header.version.val ++
      ([header.host.endianness] ++ ([header.host.fileOffsetSize] ++ ([header.host.wordSize] ++
      ([header.host.pointerSize] ++ (LittleEndian.ofUInt64 header.imageAddress ++
      (LittleEndian.ofUInt64 header.imageSize ++ (LittleEndian.ofUInt32 header.checksum ++
      (LittleEndian.ofUInt32 header.flags ++ (LittleEndian.ofUInt32 header.nameDataSize ++
      header.sections.encode)))))))))) := by
    simp only [Header.encode, List.append_assoc, List.cons_append, List.nil_append]
  rw [flat]
  have block := Writing.Appends.bytes
  have byte := Writing.Appends.u8
  exact (block _).andThen <| (block _).andThen <| (byte _).andThen <| (byte _).andThen <|
    (byte _).andThen <| (byte _).andThen <| (block _).andThen <| (block _).andThen <|
    (block _).andThen <| (block _).andThen <| (block _).andThen header.sections.appends_write

/-! ### Scanning -/

namespace Scanning

theorem run_bind {α β : Type} (scanning : Scanning α) (next : α → Scanning β) (cursor : Cursor) :
    (scanning >>= next).run.run cursor =
      match scanning.run.run cursor with
      | (some value, after) => (next value).run.run after
      | (none, after) => (none, after) := by
  rw [OptionT.run_bind, Option.elimM, StateT.run_bind]
  generalize scanning.run.run cursor = outcome
  obtain ⟨found, after⟩ := outcome
  cases found <;> rfl

/-- Steps that yield what a reading does, and move the cursor as far as the reading takes. -/
structure Follows {α : Type} (scanning : Scanning α) (reading : Reading α) (count : Nat) :
    Prop where
  fails : ∀ position input, reading input = none → (scanning.run.run ⟨position, input⟩).1 = none
  yields : ∀ position input value rest, reading input = some (value, rest) →
    scanning.run.run ⟨position, input⟩ = (some value, ⟨position + count, rest⟩)

namespace Follows

variable {α β : Type} {scanning : Scanning α} {reading : Reading α} {first second : Nat}

theorem field (takes : reading.Takes first) : Follows (Scanning.field reading) reading first where
  fails := by
    intro position input failed
    change (Cursor.read reading ⟨position, input⟩).1 = none
    simp only [Cursor.read, failed]
  yields := by
    intro position input value rest read
    have taken := takes input value rest read
    change Cursor.read reading ⟨position, input⟩ = _
    simp only [Cursor.read, read, taken, Nat.add_sub_cancel]

theorem pure (value : α) : Follows (Pure.pure value) (Pure.pure value) 0 where
  fails := nofun
  yields := by
    intro position input result rest read
    cases read
    rfl

theorem bind (here : Follows scanning reading first) {next : α → Scanning β}
    {following : α → Reading β} (later : ∀ value, Follows (next value) (following value) second) :
    Follows (scanning >>= next) (reading >>= following) (first + second) where
  fails := by
    intro position input failed
    rw [run_bind]
    cases read : reading input with
    | none =>
        have stopped := here.fails position input read
        generalize scanning.run.run ⟨position, input⟩ = outcome at stopped
        obtain ⟨found, after⟩ := outcome
        cases stopped
        rfl
    | some found =>
        obtain ⟨value, rest⟩ := found
        rw [here.yields position input value rest read]
        apply (later value).fails
        rw [← bind_of_some read following]
        exact failed
  yields := by
    intro position input result rest read
    obtain ⟨value, middle, early, late⟩ := bind_eq_some_iff.mp read
    rw [run_bind, here.yields position input value middle early, ← Nat.add_assoc]
    exact (later value).yields _ _ _ _ late

theorem foldlM {ι : Type} {step : α → ι → Scanning α} {following : α → ι → Reading α}
    (each : ∀ value item, Follows (step value item) (following value item) first)
    (items : List ι) (value : α) :
    Follows (items.foldlM step value) (items.foldlM following value) (items.length * first) := by
  induction items generalizing value with
  | nil =>
      rw [List.length_nil, Nat.zero_mul]
      exact .pure value
  | cons item rest ih =>
      rw [List.length_cons, Nat.succ_mul, Nat.add_comm, List.foldlM_cons, List.foldlM_cons]
      exact (each value item).bind fun _ => ih _

/-! From the front of a byte string. -/

variable {input : Bytes}

theorem start_eq_none_iff (follows : Follows scanning reading first) :
    (scanning.start input).1 = none ↔ reading input = none := by
  refine ⟨?_, follows.fails 0 input⟩
  intro stopped
  cases read : reading input with
  | none => rfl
  | some found =>
      have yielded := follows.yields 0 input found.1 found.2 read
      rw [start, yielded] at stopped
      cases stopped

theorem start_eq_some_iff (follows : Follows scanning reading first) {value : α}
    {after : Cursor} :
    scanning.start input = (some value, after) ↔
      ∃ rest, reading input = some (value, rest) ∧ after = ⟨first, rest⟩ := by
  constructor
  · intro scanned
    cases read : reading input with
    | none =>
        have stopped := follows.start_eq_none_iff.mpr read
        rw [scanned] at stopped
        cases stopped
    | some found =>
        have yielded := follows.yields 0 input found.1 found.2 read
        rw [start, yielded, Nat.zero_add] at scanned
        cases scanned
        exact ⟨found.2, rfl, rfl⟩
  · rintro ⟨rest, read, rfl⟩
    have yielded := follows.yields 0 input value rest read
    rw [Nat.zero_add] at yielded
    exact yielded

end Follows

end Scanning

theorem SectionDescriptor.scan_follows :
    SectionDescriptor.scan.Follows SectionDescriptor.reading 12 := by
  have word := Scanning.Follows.field Reading.Takes.u32
  exact word.bind fun _ => word.bind fun _ => word.bind fun _ => .pure _

/-- The table is read one descriptor after another. -/
theorem SectionTable.reading_eq_foldlM :
    SectionTable.reading = Section.all.foldlM
      (fun table part => return table.set part (← SectionDescriptor.reading)) blank := by
  simp only [Section.all, List.foldlM_cons, List.foldlM_nil, bind_assoc, pure_bind]
  rfl

theorem SectionTable.scan_follows : SectionTable.scan.Follows SectionTable.reading 96 := by
  have each (table : SectionTable) (part : Section) :
      Scanning.Follows (do return table.set part (← SectionDescriptor.scan))
        (do return table.set part (← SectionDescriptor.reading)) 12 :=
    SectionDescriptor.scan_follows.bind fun _ => .pure _
  rw [SectionTable.reading_eq_foldlM]
  exact .foldlM each Section.all blank

theorem Header.scan_follows : Header.scan.Follows Header.reading Header.size := by
  have block (size : Nat) := Scanning.Follows.field (Reading.Takes.fixed size)
  have byte := Scanning.Follows.field Reading.Takes.u8
  have long := Scanning.Follows.field Reading.Takes.u64
  have word := Scanning.Follows.field Reading.Takes.u32
  exact (block 8).bind fun _ => (block 4).bind fun _ => byte.bind fun _ => byte.bind fun _ =>
    byte.bind fun _ => byte.bind fun _ => long.bind fun _ => long.bind fun _ => word.bind fun _ =>
    word.bind fun _ => word.bind fun _ => SectionTable.scan_follows.bind fun _ => .pure _

namespace Header

/-- Writing a header appends 140 bytes, whatever its fields hold. Scanning them yields the header
and stops behind them, whatever follows. Only a shorter byte string has no header, and the header of
any other is written as the bytes that it was read from. -/
theorem codec_is_bijection (header : Header) (before behind file : Bytes) :
    header.write.run before = ((), before ++ header.encode) ∧
      header.encode.length = 140 ∧
      Header.scan.start (header.encode ++ behind) = (some header, ⟨140, behind⟩) ∧
      ((Header.scan.start file).1 = none ↔ file.length < 140) ∧
      ∀ found after, Header.scan.start file = (some found, after) →
        found.write.run [] = ((), file.take 140) ∧ after = ⟨140, file.drop 140⟩ := by
  refine ⟨header.appends_write before, header.length_encode, ?_, ?_, ?_⟩
  · exact scan_follows.start_eq_some_iff.mpr ⟨behind, header.reading_encode behind, rfl⟩
  · rw [scan_follows.start_eq_none_iff, reading_eq_none_iff]
    rfl
  · intro found after scanned
    obtain ⟨rest, read, rfl⟩ := scan_follows.start_eq_some_iff.mp scanned
    obtain rfl := encode_of_reading read
    have length : found.encode.length = 140 := found.length_encode
    rw [List.take_left' length, List.drop_left' length]
    exact ⟨found.appends_write [], rfl⟩

/-- The bytes from 0 on, one more than a header has. No field holds what it should. -/
def countingFile : Bytes := (List.range 141).map UInt8.ofNat

theorem codec_is_bijection_of_countingFile :
    ∃ header, Header.scan.start countingFile = (some header, ⟨140, [140]⟩) ∧
      header.write.run [] = ((), countingFile.take 140) ∧
      header.sections.functions.itemSize = 0x8b8a8988 := by
  have codec := codec_is_bijection (.of countingFile) [] [] countingFile
  obtain ⟨_, _, _, missing, again⟩ := codec
  have fields : (Header.scan.start countingFile).1.map (·.sections.functions.itemSize) =
      some 0x8b8a8988 := by decide +kernel
  cases scanned : Header.scan.start countingFile with
  | mk found after =>
      rw [scanned] at fields
      cases found with
      | none => cases fields
      | some header =>
          obtain ⟨written, rfl⟩ := again header after scanned
          exact ⟨header, rfl, written, Option.some.inj fields⟩

end Header

end KernelStore
