import KernelStore.Bytes

/-!
Numbers and byte strings in lower-case hexadecimal.
-/

namespace KernelStore.Hexadecimal

def digits (value : Nat) : String := String.ofList (Nat.toDigits 16 value)

def address (value : Nat) : String := "0x" ++ digits value

/-- The digits of a number behind `0x`, zero-filled to at least `width` digits. -/
def padded (width value : Nat) : String :=
  let shown := Nat.toDigits 16 value
  "0x" ++ String.ofList (List.replicate (width - shown.length) '0' ++ shown)

def digit (value : Nat) : Char := "0123456789abcdef".toList.getD value '0'

def ofBytes (bytes : Bytes) : String :=
  String.ofList (bytes.flatMap fun byte => [digit (byte.toNat / 16), digit (byte.toNat % 16)])

end KernelStore.Hexadecimal
