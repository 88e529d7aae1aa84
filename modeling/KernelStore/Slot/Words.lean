import KernelStore.Slot.Layout
import KernelStore.Word

/-!
Layouts in words. Whether the slots fit into the address space is tested for, but the size of one
slot is a plain sum. Where that is no word it is trapped, or it wraps around and the steps go on. A
division by zero is trapped either way.
-/

namespace KernelStore

structure WordLayout where
  base : UInt64
  count : UInt64
  codeSize : UInt64
  dataSize : UInt64
  gotSize : UInt64
  deriving DecidableEq

def WordLayout.isPages (size : UInt64) : Bool := size != 0 && size % 4096 == 0

/-- What becomes of a plain sum or product that is no word. -/
inductive Overflow
  | trapped
  | wrapped
  deriving DecidableEq

namespace Overflow

variable {ε : Type} (overflow : Overflow)

def sum (first second : UInt64) : Trapping ε UInt64 :=
  match overflow with
  | trapped => Word.sum first second
  | wrapped => return first + second

def product (first second : UInt64) : Trapping ε UInt64 :=
  match overflow with
  | trapped => Word.product first second
  | wrapped => return first * second

def makeLayout (base count codeSize dataSize gotSize : UInt64) :
    Trapping LayoutFault WordLayout :=
  if count = 0 then throw .noSlots
  else if !WordLayout.isPages base then throw (.baseAddress base.toNat)
  else if !WordLayout.isPages codeSize then throw (.partSize .code codeSize.toNat)
  else if !WordLayout.isPages dataSize then throw (.partSize .data dataSize.toNat)
  else if codeSize ≤ gotSize then throw (.gotSize gotSize.toNat codeSize.toNat)
  else do
    let size ← overflow.sum codeSize dataSize
    match (Word.product? size count).bind (Word.sum? · base) with
    | none => throw .pastAddressSpace
    | some _ => return ⟨base, count, codeSize, dataSize, gotSize⟩

def slotSize (layout : WordLayout) : Trapping ε UInt64 :=
  overflow.sum layout.codeSize layout.dataSize

def slotAddress (layout : WordLayout) (index : UInt64) : Trapping ε UInt64 := do
  overflow.sum layout.base (← overflow.product index (← overflow.slotSize layout))

def slotHolding? (layout : WordLayout) (address : UInt64) : Trapping ε (Option UInt64) := do
  match Word.difference? address layout.base with
  | none => return none
  | some offset =>
      let index ← Word.quotient offset (← overflow.slotSize layout)
      return if index < layout.count then some index else none

def slotIndex? (layout : WordLayout) (address : UInt64) : Trapping ε (Option UInt64) := do
  match Word.difference? address layout.base with
  | none => return none
  | some offset =>
      let index ← Word.quotient offset (← overflow.slotSize layout)
      let rest ← Word.remainder offset (← overflow.slotSize layout)
      return if rest = 0 ∧ index < layout.count then some index else none

end Overflow

/-! ### Layouts whose sums are trapped -/

namespace WordLayout

variable {ε : Type}

def make : (base count codeSize dataSize gotSize : UInt64) → Trapping LayoutFault WordLayout :=
  Overflow.trapped.makeLayout

def slotSize : WordLayout → Trapping ε UInt64 := Overflow.trapped.slotSize

def slotAddress : WordLayout → (index : UInt64) → Trapping ε UInt64 :=
  Overflow.trapped.slotAddress

def slotHolding? : WordLayout → (address : UInt64) → Trapping ε (Option UInt64) :=
  Overflow.trapped.slotHolding?

def slotIndex? : WordLayout → (address : UInt64) → Trapping ε (Option UInt64) :=
  Overflow.trapped.slotIndex?

end WordLayout

/-- The layout as it is computed with. -/
def Layout.words (layout : Layout) : WordLayout where
  base := .ofNat layout.base
  count := .ofNat layout.count
  codeSize := .ofNat layout.codeSize
  dataSize := .ofNat layout.dataSize
  gotSize := .ofNat layout.gotSize

end KernelStore
