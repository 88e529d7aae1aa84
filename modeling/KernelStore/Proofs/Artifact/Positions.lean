import KernelStore.Proofs.Artifact.HeaderReading

/-!
Fields by their positions in a file. Reading from a position on takes the field that is there, so
the header is the fields at fixed positions, and a file that is shorter has no header.
-/

namespace KernelStore

namespace Bytes

/-- The number in the bytes from a position on. -/
def numberAt (file : Bytes) (position width : Nat) : Nat :=
  LittleEndian.decode (file.part position width)

def byteAt (file : Bytes) (position : Nat) : UInt8 := UInt8.ofNat (file.numberAt position 1)

def wordAt (file : Bytes) (position : Nat) : UInt32 := UInt32.ofNat (file.numberAt position 4)

def longAt (file : Bytes) (position : Nat) : UInt64 := UInt64.ofNat (file.numberAt position 8)

/-- The bytes from a position on, with zeros for those that are not there. -/
def fixedAt (file : Bytes) (position size : Nat) : FixedBytes size :=
  ⟨resize (file.drop position) size, length_resize _ _⟩

theorem length_part {file : Bytes} {position size : Nat} (enough : position + size ≤ file.length) :
    (file.part position size).length = size := by
  rw [part, List.length_take, List.length_drop]
  omega

theorem part_append (file : Bytes) (position first second : Nat) :
    file.part position first ++ file.part (position + first) second =
      file.part position (first + second) := by
  rw [part, part, part, List.take_add, List.drop_drop]

theorem part_one {file : Bytes} {position : Nat} (enough : position + 1 ≤ file.length) :
    file.part position 1 = [file.byteAt position] := by
  obtain ⟨byte, single⟩ := List.length_eq_one_iff.mp (length_part enough)
  rw [byteAt, numberAt, single]
  simp [LittleEndian.decode]

theorem val_fixedAt {file : Bytes} {position size : Nat}
    (enough : position + size ≤ file.length) :
    (file.fixedAt position size).val = file.part position size := by
  apply resize_eq_take
  rw [List.length_drop]
  omega

end Bytes

namespace Reading

variable {file : Bytes} {position : Nat}

theorem take_at {count : Nat} (enough : position + count ≤ file.length) :
    take count (file.drop position) =
      some (file.part position count, file.drop (position + count)) := by
  have length : ((file.drop position).take count).length = count := Bytes.length_part enough
  simp only [take, length, if_true, List.drop_drop, Bytes.part]

theorem fixed_at {size : Nat} (enough : position + size ≤ file.length) :
    fixed size (file.drop position) =
      some (file.fixedAt position size, file.drop (position + size)) := by
  have length : ((file.drop position).take size).length = size := Bytes.length_part enough
  have same : (⟨(file.drop position).take size, length⟩ : FixedBytes size) =
      file.fixedAt position size := Subtype.ext (Bytes.val_fixedAt enough).symm
  simp only [fixed, dif_pos length, same, List.drop_drop]

theorem u8_at (enough : position + 1 ≤ file.length) :
    u8 (file.drop position) = some (file.byteAt position, file.drop (position + 1)) := by
  unfold u8
  rw [bind_of_some (take_at enough)]
  rfl

theorem u32_at (enough : position + 4 ≤ file.length) :
    u32 (file.drop position) = some (file.wordAt position, file.drop (position + 4)) := by
  unfold u32
  rw [bind_of_some (take_at enough)]
  rfl

theorem u64_at (enough : position + 8 ≤ file.length) :
    u64 (file.drop position) = some (file.longAt position, file.drop (position + 8)) := by
  unfold u64
  rw [bind_of_some (take_at enough)]
  rfl

/-! ### How much a reading takes -/

/-- A reading that takes so many bytes whenever it succeeds. -/
def Takes {α : Type} (reading : Reading α) (count : Nat) : Prop :=
  ∀ input value rest, reading input = some (value, rest) → input.length = count + rest.length

namespace Takes

variable {α β : Type} {reading : Reading α} {first second : Nat}

theorem pure (value : α) : Takes (Pure.pure value) 0 := by
  intro input result rest read
  cases read
  exact (Nat.zero_add _).symm

theorem bind (here : Takes reading first) {next : α → Reading β}
    (later : ∀ value, Takes (next value) second) : Takes (reading >>= next) (first + second) := by
  intro input result rest read
  obtain ⟨⟨value, middle⟩, early, late⟩ := Option.bind_eq_some_iff.mp read
  have front := here input value middle early
  have behind := later value middle result rest late
  omega

theorem take (count : Nat) : Takes (Reading.take count) count := by
  intro input front rest read
  obtain ⟨rfl, length⟩ := take_eq_some_iff.mp read
  rw [List.length_append, length]

theorem fixed (size : Nat) : Takes (Reading.fixed size) size := by
  intro input front rest read
  unfold Reading.fixed at read
  dsimp only at read
  split at read
  · rename_i length
    cases read
    rw [List.length_take] at length
    rw [List.length_drop]
    omega
  · cases read

theorem u8 : Takes Reading.u8 1 := (take 1).bind fun _ => pure _

theorem u32 : Takes Reading.u32 4 := (take 4).bind fun _ => pure _

theorem u64 : Takes Reading.u64 8 := (take 8).bind fun _ => pure _

end Takes

end Reading

/-! ### The header -/

def SectionDescriptor.at (file : Bytes) (position : Nat) : SectionDescriptor :=
  ⟨file.wordAt position, file.wordAt (position + 4), file.wordAt (position + 8)⟩

/-- The fields at their positions in a file. -/
def Header.of (file : Bytes) : Header where
  magic := file.fixedAt 0 8
  version := file.fixedAt 8 4
  host := ⟨file.byteAt 12, file.byteAt 13, file.byteAt 14, file.byteAt 15⟩
  imageAddress := file.longAt 16
  imageSize := file.longAt 24
  checksum := file.wordAt 32
  flags := file.wordAt 36
  nameDataSize := file.wordAt 40
  sections := .ofFn fun part => .at file (44 + 12 * part.index)

theorem SectionDescriptor.reading_at {file : Bytes} {position : Nat}
    (enough : position + 12 ≤ file.length) :
    SectionDescriptor.reading (file.drop position) =
      some (.at file position, file.drop (position + 12)) := by
  unfold SectionDescriptor.reading
  iterate 3 rw [Reading.bind_of_some (Reading.u32_at (by omega))]
  rfl

theorem SectionTable.reading_at {file : Bytes} {position : Nat}
    (enough : position + 96 ≤ file.length) :
    SectionTable.reading (file.drop position) =
      some (.ofFn fun part => .at file (position + 12 * part.index),
        file.drop (position + 96)) := by
  unfold SectionTable.reading
  iterate 8 rw [Reading.bind_of_some (SectionDescriptor.reading_at (by omega))]
  rfl

theorem Header.reading_of {file : Bytes} (enough : Header.size ≤ file.length) :
    Header.reading file = some (.of file, file.drop Header.size) := by
  unfold Header.size at enough
  change Header.reading (file.drop 0) = _
  unfold Header.reading
  iterate 2 rw [Reading.bind_of_some (Reading.fixed_at (by omega))]
  iterate 4 rw [Reading.bind_of_some (Reading.u8_at (by omega))]
  iterate 2 rw [Reading.bind_of_some (Reading.u64_at (by omega))]
  iterate 3 rw [Reading.bind_of_some (Reading.u32_at (by omega))]
  rw [Reading.bind_of_some (SectionTable.reading_at (by omega))]
  rfl

theorem SectionDescriptor.takes_reading : Reading.Takes SectionDescriptor.reading 12 :=
  Reading.Takes.u32.bind fun _ => Reading.Takes.u32.bind fun _ =>
    Reading.Takes.u32.bind fun _ => .pure _

theorem SectionTable.takes_reading : Reading.Takes SectionTable.reading 96 := by
  have each := SectionDescriptor.takes_reading
  exact each.bind fun _ => each.bind fun _ => each.bind fun _ => each.bind fun _ =>
    each.bind fun _ => each.bind fun _ => each.bind fun _ => each.bind fun _ => .pure _

theorem Header.takes_reading : Reading.Takes Header.reading Header.size := by
  have byte := Reading.Takes.u8
  have long := Reading.Takes.u64
  have word := Reading.Takes.u32
  exact (Reading.Takes.fixed 8).bind fun _ => (Reading.Takes.fixed 4).bind fun _ =>
    byte.bind fun _ => byte.bind fun _ => byte.bind fun _ => byte.bind fun _ =>
    long.bind fun _ => long.bind fun _ => word.bind fun _ => word.bind fun _ =>
    word.bind fun _ => SectionTable.takes_reading.bind fun _ => .pure _

/-- A file has a header just if it is long enough, and then its fields are those at their
positions. -/
theorem Header.reading_eq_some_iff {file rest : Bytes} {header : Header} :
    Header.reading file = some (header, rest) ↔
      Header.size ≤ file.length ∧ header = .of file ∧ rest = file.drop Header.size := by
  constructor
  · intro read
    have enough : Header.size ≤ file.length := by
      have taken := Header.takes_reading file header rest read
      omega
    rw [Header.reading_of enough] at read
    cases read
    exact ⟨enough, rfl, rfl⟩
  · rintro ⟨enough, rfl, rfl⟩
    exact Header.reading_of enough

end KernelStore
