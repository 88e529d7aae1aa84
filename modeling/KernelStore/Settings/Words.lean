import KernelStore.Slot.Words

/-!
Settings of memory in words: the check that settings pass, and the layout that is made of them.
Each adds up the size of one slot for itself.
-/

namespace KernelStore

structure WordMemory where
  baseAddress : UInt64
  slotCount : UInt64
  codeSize : UInt64
  dataSize : UInt64
  gotSize : UInt64
  deriving DecidableEq

namespace WordMemory

variable {ε : Type}

/-- The last address there is. -/
def lastAddress : UInt64 := 0xffffffffffffffff

def slotSize (memory : WordMemory) : Trapping ε UInt64 := Word.sum memory.codeSize memory.dataSize

def check (memory : WordMemory) : Trapping SettingsFault Unit :=
  if memory.slotCount = 0 then throw .noSlots
  else if !WordLayout.isPages memory.baseAddress then
    throw (.baseAddress memory.baseAddress.toNat)
  else if !WordLayout.isPages memory.codeSize then throw (.partSize .code memory.codeSize.toNat)
  else if !WordLayout.isPages memory.dataSize then throw (.partSize .data memory.dataSize.toNat)
  else if memory.codeSize ≤ memory.gotSize then
    throw (.gotSize memory.gotSize.toNat memory.codeSize.toNat)
  else do
    let size ← memory.slotSize
    match (Word.product? size memory.slotCount).bind (Word.sum? · memory.baseAddress) with
    | none => throw .pastAddressSpace
    | some stop => if lastAddress < stop then throw .pastAddressSpace else return

def layout (memory : WordMemory) : Trapping LayoutFault WordLayout :=
  WordLayout.make memory.baseAddress memory.slotCount memory.codeSize memory.dataSize
    memory.gotSize

end WordMemory

/-- The settings as they are computed with. -/
def MemorySettings.words (memory : MemorySettings) : WordMemory where
  baseAddress := .ofNat memory.baseAddress
  slotCount := .ofNat memory.slotCount
  codeSize := .ofNat memory.codeSize
  dataSize := .ofNat memory.dataSize
  gotSize := .ofNat memory.gotSize

end KernelStore
