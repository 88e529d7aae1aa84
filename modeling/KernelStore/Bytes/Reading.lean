import KernelStore.Bytes.LittleEndian

/-!
Reading fields from the front of a byte string. A reading yields its value and what is left, or
nothing when the string is too short. `Cursor` keeps the position in a longer string as well, and
a failed reading leaves it where it was.
-/

namespace KernelStore

/-- A computation that takes fields from the front of a byte string. -/
abbrev Reading := StateT Bytes Option

namespace Reading

def take (count : Nat) : Reading Bytes := fun input =>
  let front := input.take count
  if front.length = count then some (front, input.drop count) else none

def fixed (size : Nat) : Reading (FixedBytes size) := fun input =>
  let front := input.take size
  if length : front.length = size then some (⟨front, length⟩, input.drop size) else none

def u8 : Reading UInt8 := do
  return UInt8.ofNat (LittleEndian.decode (← take 1))

def u32 : Reading UInt32 := do
  return UInt32.ofNat (LittleEndian.decode (← take 4))

def u64 : Reading UInt64 := do
  return UInt64.ofNat (LittleEndian.decode (← take 8))

theorem fixed_append {size : Nat} (front : FixedBytes size) (rest : Bytes) :
    fixed size (front.val ++ rest) = some (front, rest) := by
  obtain ⟨front, rfl⟩ := front
  simp [fixed]

theorem take_append (front rest : Bytes) : take front.length (front ++ rest) = some (front, rest) := by
  simp [take]

theorem take_eq_some_iff {count : Nat} {input front rest : Bytes} :
    take count input = some (front, rest) ↔ input = front ++ rest ∧ front.length = count := by
  constructor
  · intro taken
    simp only [take] at taken
    split at taken
    · rename_i enough
      simp only [Option.some.injEq, Prod.mk.injEq] at taken
      obtain ⟨rfl, rfl⟩ := taken
      exact ⟨(List.take_append_drop count input).symm, enough⟩
    · cases taken
  · rintro ⟨rfl, rfl⟩
    exact take_append front rest

end Reading

/-- A place in a byte string, with what lies beyond it. -/
structure Cursor where
  position : Nat
  rest : Bytes

namespace Cursor

/-- Starts at `position`, which may be the very end but not beyond it. -/
def at? (input : Bytes) (position : Nat) : Option Cursor :=
  if position ≤ input.length then some ⟨position, input.drop position⟩ else none

def read {α : Type} (reading : Reading α) (cursor : Cursor) : Option α × Cursor :=
  match reading cursor.rest with
  | none => (none, cursor)
  | some (value, rest) =>
      (some value, ⟨cursor.position + (cursor.rest.length - rest.length), rest⟩)

end Cursor

end KernelStore
