import KernelStore.Bytes

/-!
Unsigned numbers as little-endian byte strings.
-/

namespace KernelStore.LittleEndian

/-- The low `width` bytes of a number, least significant first. -/
def encode : (width value : Nat) → Bytes
  | 0, _ => []
  | width + 1, value => UInt8.ofNat value :: encode width (value / 256)

/-- The number whose base-256 digits are the bytes, least significant first. -/
def decode : Bytes → Nat
  | [] => 0
  | byte :: rest => byte.toNat + 256 * decode rest

@[simp] theorem length_encode (width value : Nat) : (encode width value).length = width := by
  induction width generalizing value with
  | zero => rfl
  | succ width ih => simp [encode, ih]

def ofUInt32 (value : UInt32) : Bytes := encode 4 value.toNat

def ofUInt64 (value : UInt64) : Bytes := encode 8 value.toNat

end KernelStore.LittleEndian
