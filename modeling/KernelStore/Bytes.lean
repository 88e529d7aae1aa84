/-!
Byte strings: runs of zeros, writing over a part in place, rounding a length up.
-/

namespace KernelStore

abbrev Bytes := List UInt8

abbrev FixedBytes (size : Nat) := { bytes : Bytes // bytes.length = size }

/-- One more than the largest address. -/
def addressLimit : Nat := 1 <<< 64

theorem toNat_ofNat_of_lt {value : Nat} (bounded : value < addressLimit) :
    (UInt64.ofNat value).toNat = value := by
  rw [UInt64.toNat_ofNat']
  exact Nat.mod_eq_of_lt bounded

/-- Memory is mapped and protected in units of this size. -/
def pageSize : Nat := 4096

/-- The least multiple of `unit` at or above `size`; `size` itself when `unit` is zero. -/
def roundUp (size unit : Nat) : Nat :=
  if unit = 0 then size else (size + unit - 1) / unit * unit

namespace Bytes

def zeros (count : Nat) : Bytes := List.replicate count 0

def part (bytes : Bytes) (start count : Nat) : Bytes := (bytes.drop start).take count

/-- Cuts or zero-fills to exactly `size` bytes. -/
def resize (bytes : Bytes) (size : Nat) : Bytes :=
  let kept := bytes.take size
  kept ++ zeros (size - kept.length)

/-- Writes `patch` over the bytes from `start` on. A gap before `start` is filled with zeros,
and the result grows when `patch` runs past the end. -/
def overwrite (bytes : Bytes) (start : Nat) (patch : Bytes) : Bytes :=
  if patch.isEmpty then bytes
  else resize bytes start ++ patch ++ bytes.drop (start + patch.length)

def padTo (bytes : Bytes) (unit : Nat) : Bytes :=
  bytes ++ zeros (roundUp bytes.length unit - bytes.length)

@[simp] theorem length_zeros (count : Nat) : (zeros count).length = count := by
  simp [zeros]

@[simp] theorem length_resize (bytes : Bytes) (size : Nat) :
    (resize bytes size).length = size := by
  simp only [resize, List.length_append, List.length_take, length_zeros]
  omega

theorem resize_eq_take {bytes : Bytes} {size : Nat} (enough : size ≤ bytes.length) :
    resize bytes size = bytes.take size := by
  simp only [resize, List.length_take_of_le enough, Nat.sub_self, zeros, List.replicate_zero,
    List.append_nil]

/-- Writing inside the bounds keeps the length. -/
theorem length_overwrite (bytes patch : Bytes) (start : Nat)
    (inside : start + patch.length ≤ bytes.length) :
    (overwrite bytes start patch).length = bytes.length := by
  unfold overwrite
  split
  · rfl
  · simp only [List.length_append, length_resize, List.length_drop]
    omega

end Bytes

end KernelStore
