import KernelStore.Settings.Validation

/-!
Where slots lie. Slot `i` begins `i` slot sizes after the base; its first part holds code and
stubs, the rest global data. A layout exists only if all its slots lie within the address space.
-/

namespace KernelStore

inductive LayoutFault
  | noSlots
  | baseAddress (address : Nat)
  | partSize (part : SlotPart) (size : Nat)
  | gotSize (got code : Nat)
  /-- The size of one slot is no address. -/
  | slotSize (code data : Nat)
  | pastAddressSpace
  deriving DecidableEq

namespace LayoutFault

def detail : LayoutFault → String
  | noSlots => "slot count must be non-zero"
  | baseAddress address => s!"base address {Hexadecimal.address address} is not page-aligned"
  | partSize .code size => s!"code size {size} is not a multiple of {pageSize}"
  | partSize .data size => s!"data size {size} is not a multiple of {pageSize}"
  | gotSize got code => s!"GOT size {got} does not fit in code size {code}"
  | slotSize code data => s!"code size {code} and data size {data} exceed the address space"
  | pastAddressSpace => "slots extend past the end of the address space"

def message (fault : LayoutFault) : String := "invalid slot layout: " ++ fault.detail

end LayoutFault

/-- The first reason why these numbers are no layout. -/
def layoutFault? (base count codeSize dataSize gotSize : Nat) : Option LayoutFault :=
  if count = 0 then some .noSlots
  else if !isPages base then some (.baseAddress base)
  else if !isPages codeSize then some (.partSize .code codeSize)
  else if !isPages dataSize then some (.partSize .data dataSize)
  else if codeSize ≤ gotSize then some (.gotSize gotSize codeSize)
  else if addressLimit ≤ codeSize + dataSize then some (.slotSize codeSize dataSize)
  else if addressLimit ≤ (codeSize + dataSize) * count + base then some .pastAddressSpace
  else none

structure Layout where
  base : Nat
  count : Nat
  codeSize : Nat
  dataSize : Nat
  gotSize : Nat
  sound : layoutFault? base count codeSize dataSize gotSize = none
  deriving DecidableEq

namespace Layout

def make (base count codeSize dataSize gotSize : Nat) : Except LayoutFault Layout :=
  match sound : layoutFault? base count codeSize dataSize gotSize with
  | none => .ok ⟨base, count, codeSize, dataSize, gotSize, sound⟩
  | some fault => .error fault

def ofSettings (memory : MemorySettings) : Except LayoutFault Layout :=
  make memory.baseAddress memory.slotCount memory.codeSize memory.dataSize memory.gotSize

def slotSize (layout : Layout) : Nat := layout.codeSize + layout.dataSize

def slotAddress (layout : Layout) (index : Nat) : Nat := layout.base + index * layout.slotSize

def stop (layout : Layout) : Nat := layout.slotAddress layout.count

def slotHolding? (layout : Layout) (address : Nat) : Option Nat :=
  if layout.base ≤ address then
    let index := (address - layout.base) / layout.slotSize
    if index < layout.count then some index else none
  else none

def slotIndex? (layout : Layout) (address : Nat) : Option Nat :=
  if layout.base ≤ address then
    let offset := address - layout.base
    let index := offset / layout.slotSize
    if offset % layout.slotSize = 0 ∧ index < layout.count then some index else none
  else none

end Layout

end KernelStore
