import KernelStore.Artifact.Section
import KernelStore.Bytes.Reading

/-!
The header of a metadata file: 140 bytes that say who may use the file, where the image belongs,
and where each list lies. Encoding and reading are for every header, sound or not.
-/

namespace KernelStore

/-- What a machine must have in common with the one that wrote a file. -/
structure Host where
  /-- The letter `e` where the least significant byte of a number comes first. -/
  endianness : UInt8
  fileOffsetSize : UInt8
  wordSize : UInt8
  pointerSize : UInt8
  deriving DecidableEq

/-- A 64-bit machine that puts the least significant byte first. -/
def Host.current : Host := ⟨101, 8, 8, 8⟩

structure SectionDescriptor where
  offset : UInt32
  count : UInt32
  itemSize : UInt32
  deriving DecidableEq

namespace SectionDescriptor

def stop (descriptor : SectionDescriptor) : Nat :=
  descriptor.offset.toNat + descriptor.count.toNat * descriptor.itemSize.toNat

def encode (descriptor : SectionDescriptor) : Bytes :=
  LittleEndian.ofUInt32 descriptor.offset ++ LittleEndian.ofUInt32 descriptor.count
    ++ LittleEndian.ofUInt32 descriptor.itemSize

def reading : Reading SectionDescriptor := do
  return ⟨← Reading.u32, ← Reading.u32, ← Reading.u32⟩

end SectionDescriptor

structure SectionTable where
  names : SectionDescriptor
  dependencies : SectionDescriptor
  pragmas : SectionDescriptor
  objectSlots : SectionDescriptor
  globals : SectionDescriptor
  functionNames : SectionDescriptor
  kernels : SectionDescriptor
  functions : SectionDescriptor
  deriving DecidableEq

namespace SectionTable

def get (table : SectionTable) : Section → SectionDescriptor
  | .names => table.names
  | .dependencies => table.dependencies
  | .pragmas => table.pragmas
  | .objectSlots => table.objectSlots
  | .globals => table.globals
  | .functionNames => table.functionNames
  | .kernels => table.kernels
  | .functions => table.functions

def ofFn (descriptor : Section → SectionDescriptor) : SectionTable where
  names := descriptor .names
  dependencies := descriptor .dependencies
  pragmas := descriptor .pragmas
  objectSlots := descriptor .objectSlots
  globals := descriptor .globals
  functionNames := descriptor .functionNames
  kernels := descriptor .kernels
  functions := descriptor .functions

theorem get_ofFn (descriptor : Section → SectionDescriptor) (part : Section) :
    (ofFn descriptor).get part = descriptor part := by
  cases part <;> rfl

def encode (table : SectionTable) : Bytes := Section.all.flatMap fun part => (table.get part).encode

def reading : Reading SectionTable := do
  return {
    names := ← SectionDescriptor.reading
    dependencies := ← SectionDescriptor.reading
    pragmas := ← SectionDescriptor.reading
    objectSlots := ← SectionDescriptor.reading
    globals := ← SectionDescriptor.reading
    functionNames := ← SectionDescriptor.reading
    kernels := ← SectionDescriptor.reading
    functions := ← SectionDescriptor.reading }

end SectionTable

structure Header where
  magic : FixedBytes 8
  version : FixedBytes 4
  host : Host
  imageAddress : UInt64
  imageSize : UInt64
  checksum : UInt32
  flags : UInt32
  /-- The size of the bytes behind the entries of the name pool. -/
  nameDataSize : UInt32
  sections : SectionTable
  deriving DecidableEq

namespace Header

def size : Nat := 140

def currentMagic : FixedBytes 8 := ⟨[0, 107, 105, 108, 110, 102, 111, 10], rfl⟩

/-- The version of the format, the digits 001 and a zero byte. -/
def currentVersion : FixedBytes 4 := ⟨[48, 48, 49, 0], rfl⟩

def threadableFlag : UInt32 := 1

def debugInfoFlag : UInt32 := 2

def threadable (header : Header) : Bool := header.flags &&& threadableFlag != 0

def debugInfo (header : Header) : Bool := header.flags &&& debugInfoFlag != 0

def encode (header : Header) : Bytes :=
  header.magic.val ++ header.version.val
    ++ [header.host.endianness, header.host.fileOffsetSize, header.host.wordSize,
      header.host.pointerSize]
    ++ LittleEndian.ofUInt64 header.imageAddress ++ LittleEndian.ofUInt64 header.imageSize
    ++ LittleEndian.ofUInt32 header.checksum ++ LittleEndian.ofUInt32 header.flags
    ++ LittleEndian.ofUInt32 header.nameDataSize ++ header.sections.encode

def reading : Reading Header := do
  return {
    magic := ← Reading.fixed 8
    version := ← Reading.fixed 4
    host := ⟨← Reading.u8, ← Reading.u8, ← Reading.u8, ← Reading.u8⟩
    imageAddress := ← Reading.u64
    imageSize := ← Reading.u64
    checksum := ← Reading.u32
    flags := ← Reading.u32
    nameDataSize := ← Reading.u32
    sections := ← SectionTable.reading }

/-- One past the last address of the image, or the largest address if the image would run past
it. -/
def imageStop (header : Header) : Nat :=
  min (header.imageAddress.toNat + header.imageSize.toNat) (addressLimit - 1)

def holds (header : Header) (address size : Nat) : Bool :=
  header.imageAddress.toNat ≤ address && address + size ≤ header.imageStop

@[simp] theorem length_encode (header : Header) : header.encode.length = size := by
  simp [encode, SectionTable.encode, SectionDescriptor.encode, Section.all, LittleEndian.ofUInt32,
    LittleEndian.ofUInt64, header.magic.property, header.version.property, size]

end Header

end KernelStore
