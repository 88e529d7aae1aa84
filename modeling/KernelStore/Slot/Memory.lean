import KernelStore.Bytes.Content
import KernelStore.Slot.Layout

/-!
Mapped memory, and the tables that say which of their slots are taken. A lease is the sole
ownership of one mapping; dropping it unmaps it and frees its slot, unless the system refuses.
-/

namespace KernelStore

structure Span where
  start : Nat
  size : Nat
  deriving DecidableEq

namespace Span

def stop (span : Span) : Nat := span.start + span.size

def overlaps (a b : Span) : Bool := a.start < b.stop && b.start < a.stop

def isFree (span : Span) (live : List Span) : Bool := live.all (!span.overlaps ·)

end Span

inductive SystemFault
  | noMemory
  | accessDenied
  | noDevice
  /-- The range of a file that is to be mapped ends beyond all file positions. -/
  | overflow
  | offsetRange
  deriving DecidableEq

def SystemFault.message : SystemFault → String
  | noMemory => "Cannot allocate memory (os error 12)"
  | accessDenied => "Permission denied (os error 13)"
  | noDevice => "No such device (os error 19)"
  | overflow => "Value too large for defined data type (os error 75)"
  | offsetRange => "file offset out of range"

/-- How the operating system maps memory, and unmaps and protects what it has mapped. -/
structure Placement where
  /-- Given the live mappings, an address it is asked for, if any, and a size, it names a start or
  refuses. -/
  place : List Span → Option Nat → Nat → Option Nat
  /-- Why it does not map so many bytes of a file from an offset on, wherever that may be. -/
  fileFault? : (offset size : Nat) → Option SystemFault
  /-- Whether, given the live mappings, it unmaps one of them. -/
  unmaps : List Span → Span → Bool
  /-- Why it does not let code be written, or else executed. -/
  protectFault? : (code : Span) → (writable : Bool) → Option SystemFault

namespace Placement

/-- The lowest address at which unasked mappings are placed. -/
def mappingBase : Nat := 0x7f0000000000

/-- Grants the address asked for when it is free, and places everything else above all live
mappings. What is mapped can be unmapped and protected. -/
def unlimited : Placement where
  place live wanted size :=
    let above := roundUp (live.foldl (fun top span => max top span.stop) mappingBase) pageSize
    match wanted with
    | some start =>
        if (Span.mk start size).isFree live then some start
        else if above + size < addressLimit then some above else none
    | none => if above + size < addressLimit then some above else none
  fileFault? _ _ := none
  unmaps _ _ := true
  protectFault? _ _ := none

/-- The lowest address that a program may map. -/
def lowestAddress : Nat := 0x10000

/-- One past the highest address that a program may map. -/
def highestAddress : Nat := 0x7ffffffff000

/-- A mapping of this size or more is refused as larger than the machine's memory. -/
def memorySize : Nat := 1 <<< 35

/-- Every position in a file is below this. -/
def positionLimit : Nat := 1 <<< 63

/-- Maps what is smaller than the memory, at the address asked for only if a program may map
there, and of a file what lies below the limit of positions. -/
def standard : Placement where
  place live wanted size :=
    if memorySize ≤ size then none
    else
      let isOpen (start : Nat) : Bool := lowestAddress ≤ start && start + size ≤ highestAddress
      unlimited.place live (wanted.filter isOpen) size
  fileFault? offset size := if positionLimit ≤ offset + size then some .overflow else none
  unmaps := unlimited.unmaps
  protectFault? := unlimited.protectFault?

end Placement

/-- A table of slots. Copies of one table are the same table. -/
structure SlotTable where
  id : Nat
  layout : Layout
  deriving DecidableEq

/-- All mapped memory, and the taken slots of all tables. -/
structure Memory where
  nextTable : Nat := 0
  /-- Taken slots: which table, and which index. -/
  taken : List (Nat × Nat) := []
  live : List Span := []
  deriving DecidableEq

/-- Sole ownership of a mapping the size of a slot, and its contents. -/
structure Lease where
  table : SlotTable
  address : Nat
  /-- The slot it occupies; none if the system placed the mapping elsewhere. -/
  slot : Option Nat
  content : Content
  deriving DecidableEq

namespace Lease

def bytes (lease : Lease) : Bytes := lease.content.bytes

def layout (lease : Lease) : Layout := lease.table.layout

def size (lease : Lease) : Nat := lease.layout.slotSize

def span (lease : Lease) : Span := ⟨lease.address, lease.size⟩

/-- The part of the mapping that holds code. -/
def code (lease : Lease) : Span := ⟨lease.address, lease.layout.codeSize⟩

/-- Whether the mapping is in a slot, and so may be cached. -/
def isFixed (lease : Lease) : Bool := lease.slot.isSome

/-- Whether the range lies inside the mapping. A range that wraps around lies nowhere. -/
def contains (lease : Lease) (address size : Nat) : Bool :=
  lease.address ≤ address && address + size < addressLimit
    && address + size ≤ lease.address + lease.size

end Lease

inductive LeaseFault
  | notSlotAddress (address : Nat)
  | misalignedOffset (offset : Nat)
  | occupied (index : Nat)
  | relocated (requested actual : Nat)
  | system (fault : SystemFault)
  deriving DecidableEq

def LeaseFault.message : LeaseFault → String
  | notSlotAddress address => s!"address {Hexadecimal.address address} is not a slot address"
  | misalignedOffset offset => s!"file offset {Hexadecimal.address offset} is not page-aligned"
  | occupied index => s!"slot {index} is already occupied"
  | relocated requested actual =>
      s!"requested mapping at {Hexadecimal.address requested} but the OS placed it at "
        ++ Hexadecimal.address actual
  | system fault => s!"memory mapping failed: {fault.message}"

/-- A file that is open for reading, or a directory that is. -/
inductive OpenFile
  | regular (content : Content)
  | directory

/-- The first number from `start` on, of `count` ones, that passes. -/
def firstPassing (passes : Nat → Bool) (start : Nat) : (count : Nat) → Option Nat
  | 0 => none
  | count + 1 => if passes start then some start else firstPassing passes (start + 1) count

namespace Memory

def newTable (memory : Memory) (layout : Layout) : SlotTable × Memory :=
  (⟨memory.nextTable, layout⟩, { memory with nextTable := memory.nextTable + 1 })

def isTaken (memory : Memory) (table : SlotTable) (index : Nat) : Bool :=
  memory.taken.contains (table.id, index)

def takenCount (memory : Memory) (table : SlotTable) : Nat :=
  memory.taken.countP (·.1 == table.id)

def isManaging (memory : Memory) (table : SlotTable) (address : Nat) : Bool :=
  match table.layout.slotHolding? address with
  | some index => memory.isTaken table index
  | none => false

def hold (memory : Memory) (table : SlotTable) (address : Nat) (slot : Option Nat) : Memory :=
  { memory with
    live := ⟨address, table.layout.slotSize⟩ :: memory.live
    taken := match slot with
      | some index => (table.id, index) :: memory.taken
      | none => memory.taken }

/-- Whether the slot is free and the system maps it at its own address. -/
def grants (memory : Memory) (placement : Placement) (table : SlotTable) (index : Nat) : Bool :=
  let address := table.layout.slotAddress index
  !memory.isTaken table index
    && placement.place memory.live (some address) table.layout.slotSize == some address

/-- Leases fresh memory: the first slot that is granted, or else a mapping wherever the system
places it. -/
def allocate (memory : Memory) (placement : Placement) (table : SlotTable) :
    Except LeaseFault (Lease × Memory) :=
  let fresh := Content.zeros table.layout.slotSize
  match firstPassing (memory.grants placement table) 0 table.layout.count with
  | some index =>
      let address := table.layout.slotAddress index
      .ok (⟨table, address, some index, fresh⟩, memory.hold table address (some index))
  | none =>
      match placement.place memory.live none table.layout.slotSize with
      | some address => .ok (⟨table, address, none, fresh⟩, memory.hold table address none)
      | none => .error (.system .noMemory)

/-- Leases the slot that begins at `address`, filled with a private copy of a file's content from
`offset` on. -/
def allocateFile (memory : Memory) (placement : Placement) (table : SlotTable) (address : Nat)
    (file : OpenFile) (offset : Nat) : Except LeaseFault (Lease × Memory) :=
  if offset % pageSize ≠ 0 then .error (.misalignedOffset offset)
  else match table.layout.slotIndex? address with
    | none => .error (.notSlotAddress address)
    | some index =>
        if memory.isTaken table index then .error (.occupied index)
        else if Placement.positionLimit ≤ offset then .error (.system .offsetRange)
        else match file with
          | .directory => .error (.system .noDevice)
          | .regular content =>
              let size := table.layout.slotSize
              match placement.fileFault? offset size with
              | some fault => .error (.system fault)
              | none =>
                  match placement.place memory.live (some address) size with
                  | none => .error (.system .noMemory)
                  | some actual =>
                      if actual = address then
                        .ok (⟨table, address, some index, (content.drop offset).resize size⟩,
                          memory.hold table address (some index))
                      else .error (.relocated address actual)

/-- Unmaps what is leased, and frees its slot. -/
def release (memory : Memory) (lease : Lease) : Memory :=
  { memory with
    live := memory.live.erase lease.span
    taken := match lease.slot with
      | some index => memory.taken.erase (lease.table.id, index)
      | none => memory.taken }

/-- Drops a lease. What the system does not unmap stays mapped, and its slot taken, though nobody
holds it any more. -/
def drop (memory : Memory) (placement : Placement) (lease : Lease) : Memory :=
  if placement.unmaps memory.live lease.span then memory.release lease else memory

end Memory

end KernelStore
