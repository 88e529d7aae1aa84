import KernelStore.Slot.Memory

/-!
Leasing as it goes, step by step. The system is asked for one mapping at a time. A mapping is live
from then on, and one that lies elsewhere than it should is unmapped again before the next step.
Whatever a call ends in, it leaves a memory.
-/

namespace KernelStore.Memory

/-! ### Calls of the system -/

/-- Has so many bytes mapped, and yields where they are. -/
def map? (memory : Memory) (placement : Placement) (wanted : Option Nat) (size : Nat) :
    Option (Nat × Memory) :=
  (placement.place memory.live wanted size).map fun start =>
    (start, { memory with live := ⟨start, size⟩ :: memory.live })

/-- Has unmapped again what was mapped last. That always succeeds, for it leaves no more mappings
than there were. -/
def unmap (memory : Memory) (span : Span) : Memory :=
  { memory with live := memory.live.erase span }

/-- Has so many bytes of a file mapped from an offset on, and yields where and what they are. -/
def mapFile (memory : Memory) (placement : Placement) (wanted size : Nat) (file : OpenFile)
    (offset : Nat) : Except SystemFault ((Nat × Content) × Memory) :=
  if Placement.positionLimit ≤ offset then .error .offsetRange
  else match file with
    | .directory => .error .noDevice
    | .regular content =>
        match placement.fileFault? offset size with
        | some fault => .error fault
        | none =>
            match memory.map? placement (some wanted) size with
            | none => .error .noMemory
            | some (start, mapped) => .ok ((start, (content.drop offset).resize size), mapped)

/-! ### Leasing -/

def mark (memory : Memory) (table : SlotTable) (index : Nat) : Memory :=
  { memory with taken := (table.id, index) :: memory.taken }

/-- Tries so many slots in order, from one of them on. -/
def scan (placement : Placement) (table : SlotTable) (memory : Memory) (index : Nat) :
    (count : Nat) → Option Lease × Memory
  | 0 => (none, memory)
  | count + 1 =>
      let wanted := table.layout.slotAddress index
      let size := table.layout.slotSize
      if memory.isTaken table index then scan placement table memory (index + 1) count
      else match memory.map? placement (some wanted) size with
        | none => scan placement table memory (index + 1) count
        | some (actual, mapped) =>
            if actual = wanted then
              (some ⟨table, actual, some index, .zeros size⟩, mapped.mark table index)
            else scan placement table (mapped.unmap ⟨actual, size⟩) (index + 1) count

/-- Leases fresh memory, outside all slots if no slot can be had. -/
def lease (memory : Memory) (placement : Placement) (table : SlotTable) :
    Except LeaseFault Lease × Memory :=
  let size := table.layout.slotSize
  match scan placement table memory 0 table.layout.count with
  | (some lease, after) => (.ok lease, after)
  | (none, scanned) =>
      match scanned.map? placement none size with
      | some (start, mapped) => (.ok ⟨table, start, none, .zeros size⟩, mapped)
      | none => (.error (.system .noMemory), scanned)

/-- Leases the slot that begins at `address`, filled from a file. -/
def leaseFile (memory : Memory) (placement : Placement) (table : SlotTable) (address : Nat)
    (file : OpenFile) (offset : Nat) : Except LeaseFault Lease × Memory :=
  let size := table.layout.slotSize
  if offset % pageSize ≠ 0 then (.error (.misalignedOffset offset), memory)
  else match table.layout.slotIndex? address with
    | none => (.error (.notSlotAddress address), memory)
    | some index =>
        if memory.isTaken table index then (.error (.occupied index), memory)
        else match memory.mapFile placement address size file offset with
          | .error fault => (.error (.system fault), memory)
          | .ok ((actual, content), mapped) =>
              if actual = address then
                (.ok ⟨table, actual, some index, content⟩, mapped.mark table index)
              else (.error (.relocated address actual), mapped.unmap ⟨actual, size⟩)

end KernelStore.Memory
