import Mathlib
import KernelStore.Artifact.Header

/-!
Decoding a number inverts encoding it below the bound of its width, and reading a header inverts
encoding it, whatever its fields hold and whatever follows it.
-/

namespace KernelStore

namespace LittleEndian

theorem decode_encode (width value : Nat) (fits : value < 256 ^ width) :
    decode (encode width value) = value := by
  induction width generalizing value with
  | zero => simp [encode, decode]; omega
  | succ width ih =>
      have small : value / 256 < 256 ^ width := by
        rw [Nat.pow_succ] at fits
        omega
      simp only [encode, decode, ih _ small, UInt8.toNat_ofNat']
      omega

end LittleEndian

namespace Reading

theorem u8_cons (byte : UInt8) (rest : Bytes) : u8 (byte :: rest) = some (byte, rest) := by
  simp only [u8, bind, StateT.bind, take, Option.bind]
  simp [LittleEndian.decode, pure, StateT.pure]

theorem u32_append (value : UInt32) (rest : Bytes) :
    u32 (LittleEndian.ofUInt32 value ++ rest) = some (value, rest) := by
  have taken : take 4 (LittleEndian.ofUInt32 value ++ rest) =
      some (LittleEndian.ofUInt32 value, rest) :=
    take_eq_some_iff.mpr ⟨rfl, LittleEndian.length_encode 4 _⟩
  have small : value.toNat < 256 ^ 4 := value.toNat_lt
  simp only [u32, bind, StateT.bind, taken, Option.bind]
  simp [LittleEndian.ofUInt32, LittleEndian.decode_encode 4 value.toNat small, pure, StateT.pure]

theorem u64_append (value : UInt64) (rest : Bytes) :
    u64 (LittleEndian.ofUInt64 value ++ rest) = some (value, rest) := by
  have taken : take 8 (LittleEndian.ofUInt64 value ++ rest) =
      some (LittleEndian.ofUInt64 value, rest) :=
    take_eq_some_iff.mpr ⟨rfl, LittleEndian.length_encode 8 _⟩
  have small : value.toNat < 256 ^ 8 := value.toNat_lt
  simp only [u64, bind, StateT.bind, taken, Option.bind]
  simp [LittleEndian.ofUInt64, LittleEndian.decode_encode 8 value.toNat small, pure, StateT.pure]

theorem bind_of_some {α β : Type} {reading : Reading α} {input rest : Bytes} {value : α}
    (read : reading input = some (value, rest)) (next : α → Reading β) :
    (reading >>= next) input = next value rest := by
  change (reading input).bind (fun result => next result.1 result.2) = _
  rw [read]
  rfl

end Reading

theorem SectionDescriptor.reading_encode (descriptor : SectionDescriptor) (rest : Bytes) :
    SectionDescriptor.reading (descriptor.encode ++ rest) = some (descriptor, rest) := by
  unfold SectionDescriptor.reading SectionDescriptor.encode
  simp only [List.append_assoc]
  iterate 3 rw [Reading.bind_of_some (Reading.u32_append _ _)]
  rfl

theorem SectionTable.reading_encode (table : SectionTable) (rest : Bytes) :
    SectionTable.reading (table.encode ++ rest) = some (table, rest) := by
  unfold SectionTable.reading SectionTable.encode
  simp only [Section.all, List.flatMap_cons, List.flatMap_nil, List.append_nil, List.append_assoc]
  iterate 8 rw [Reading.bind_of_some (SectionDescriptor.reading_encode _ _)]
  rfl

theorem Header.reading_encode (header : Header) (rest : Bytes) :
    Header.reading (header.encode ++ rest) = some (header, rest) := by
  unfold Header.reading Header.encode
  simp only [List.append_assoc, List.cons_append, List.nil_append]
  iterate 2 rw [Reading.bind_of_some (Reading.fixed_append _ _)]
  iterate 4 rw [Reading.bind_of_some (Reading.u8_cons _ _)]
  iterate 2 rw [Reading.bind_of_some (Reading.u64_append _ _)]
  iterate 3 rw [Reading.bind_of_some (Reading.u32_append _ _)]
  rw [Reading.bind_of_some (SectionTable.reading_encode _ _)]
  rfl

end KernelStore
