import KernelStore.Artifact.Header

/-!
The header field by field, in the order of the file. Writing appends each field to what there is
already. Scanning moves a cursor over the fields, and stops in front of one that is cut off.
-/

namespace KernelStore

/-- Steps that append to what has been written. -/
abbrev Writing := StateM Bytes

namespace Writing

def bytes (block : Bytes) : Writing Unit := modify (· ++ block)

def u8 (value : UInt8) : Writing Unit := modify (·.concat value)

def u32 (value : UInt32) : Writing Unit := bytes (LittleEndian.ofUInt32 value)

def u64 (value : UInt64) : Writing Unit := bytes (LittleEndian.ofUInt64 value)

end Writing

/-- Steps that move a cursor over a byte string. They end where one of them fails. -/
abbrev Scanning := OptionT (StateM Cursor)

namespace Scanning

def field {α : Type} (reading : Reading α) : Scanning α :=
  OptionT.mk fun cursor => cursor.read reading

/-- What the steps yield on a byte string, and where they leave the cursor. -/
def start {α : Type} (scanning : Scanning α) (input : Bytes) : Option α × Cursor :=
  scanning.run.run ⟨0, input⟩

end Scanning

namespace SectionDescriptor

def write (descriptor : SectionDescriptor) : Writing Unit := do
  Writing.u32 descriptor.offset
  Writing.u32 descriptor.count
  Writing.u32 descriptor.itemSize

def scan : Scanning SectionDescriptor := do
  let offset ← Scanning.field Reading.u32
  let count ← Scanning.field Reading.u32
  let itemSize ← Scanning.field Reading.u32
  return { offset, count, itemSize }

end SectionDescriptor

namespace SectionTable

def blank : SectionTable := ofFn fun _ => ⟨0, 0, 0⟩

def set (table : SectionTable) (part : Section) (descriptor : SectionDescriptor) : SectionTable :=
  ofFn fun other => if other = part then descriptor else table.get other

def write (table : SectionTable) : Writing Unit :=
  Section.all.forM fun part => (table.get part).write

def scan : Scanning SectionTable :=
  Section.all.foldlM (fun table part => return table.set part (← SectionDescriptor.scan)) blank

end SectionTable

namespace Header

def write (header : Header) : Writing Unit := do
  Writing.bytes header.magic.val
  Writing.bytes header.version.val
  Writing.u8 header.host.endianness
  Writing.u8 header.host.fileOffsetSize
  Writing.u8 header.host.wordSize
  Writing.u8 header.host.pointerSize
  Writing.u64 header.imageAddress
  Writing.u64 header.imageSize
  Writing.u32 header.checksum
  Writing.u32 header.flags
  Writing.u32 header.nameDataSize
  header.sections.write

def scan : Scanning Header := do
  let magic ← Scanning.field (Reading.fixed 8)
  let version ← Scanning.field (Reading.fixed 4)
  let endianness ← Scanning.field Reading.u8
  let fileOffsetSize ← Scanning.field Reading.u8
  let wordSize ← Scanning.field Reading.u8
  let pointerSize ← Scanning.field Reading.u8
  let host : Host := { endianness, fileOffsetSize, wordSize, pointerSize }
  let imageAddress ← Scanning.field Reading.u64
  let imageSize ← Scanning.field Reading.u64
  let checksum ← Scanning.field Reading.u32
  let flags ← Scanning.field Reading.u32
  let nameDataSize ← Scanning.field Reading.u32
  let sections ← SectionTable.scan
  return {
    magic, version, host, imageAddress, imageSize, checksum, flags, nameDataSize, sections }

end Header

end KernelStore
