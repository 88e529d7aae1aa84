import KernelStore.Artifact.Header
import KernelStore.Artifact.Metadata
import KernelStore.Artifact.NamePool
import KernelStore.Text.Quoted

/-!
Reading a metadata file: the header is checked against this machine and the file's size, then the
name pool is read, then each list. A file is refused at its first fault.
-/

namespace KernelStore

inductive WordKind
  | fileOffset
  | word
  | pointer
  deriving DecidableEq

def WordKind.name : WordKind → String
  | fileOffset => "off_t"
  | word => "usize"
  | pointer => "pointer"

inductive InfoFault
  | tooSmall
  | magic
  | version (found : String)
  | endianness
  | wordSize (kind : WordKind) (expected found : UInt8)
  | itemSize (part : Section) (found : UInt32)
  | misaligned (part : Section)
  | outOfBounds (part : Section)
  | names (detail : String)
  | record (part : Section) (index : Nat)
  deriving DecidableEq

def InfoFault.message : InfoFault → String
  | tooSmall => "metadata file is smaller than its header"
  | magic => "bad magic"
  | version found => s!"format version {Text.quoted found} is not supported"
  | endianness => "endianness mismatch"
  | wordSize kind expected found =>
      s!"{kind.name} size {found.toNat} does not match host size {expected.toNat}"
  | itemSize part found =>
      s!"{part.title} has record size {found.toNat}, expected {part.itemSize.toNat}"
  | misaligned part => s!"{part.title} is not word-aligned"
  | outOfBounds part => s!"{part.title} lies outside the file"
  | names detail => s!"string pool: {detail}"
  | record part index => s!"record {index} of the {part.title} is invalid"

def require {ε : Type} (condition : Bool) (fault : ε) : Except ε Unit :=
  if condition then .ok () else .error fault

/-- Lists begin at multiples of this. -/
def wordAlignment : Nat := 4

/-! ### The header -/

namespace Header

/-- The bytes of a section, including those that names have behind their entries. -/
def sectionStop (header : Header) (part : Section) : Nat :=
  (header.sections.get part).stop + if part = .names then header.nameDataSize.toNat else 0

def checkHost (host : Host) : Except InfoFault Unit := do
  require (host.endianness == Host.current.endianness) .endianness
  let checkSize (kind : WordKind) (expected found : UInt8) : Except InfoFault Unit :=
    require (expected == found) (.wordSize kind expected found)
  checkSize .fileOffset Host.current.fileOffsetSize host.fileOffsetSize
  checkSize .word Host.current.wordSize host.wordSize
  checkSize .pointer Host.current.pointerSize host.pointerSize

def checkSection (header : Header) (fileSize : Nat) (part : Section) : Except InfoFault Unit := do
  let descriptor := header.sections.get part
  require (descriptor.itemSize == part.itemSize) (.itemSize part descriptor.itemSize)
  require (descriptor.offset.toNat % wordAlignment == 0) (.misaligned part)
  require (Header.size ≤ descriptor.offset.toNat && header.sectionStop part ≤ fileSize)
    (.outOfBounds part)

def checkSections (header : Header) (fileSize : Nat) : List Section → Except InfoFault Unit
  | [] => .ok ()
  | part :: rest => do
      header.checkSection fileSize part
      header.checkSections fileSize rest

def check (header : Header) (fileSize : Nat) : Except InfoFault Unit := do
  require (header.magic == currentMagic) .magic
  require (header.version == currentVersion) (.version (Utf8.decodeLossy header.version.val))
  checkHost header.host
  header.checkSections fileSize Section.all

end Header

/-! ### Records -/

inductive RecordFault
  | truncated
  | unknownName
  | unknownKind
  | outsideImage
  deriving DecidableEq

/-- Reads a record, which may be refused for what it says. -/
abbrev RecordReading := StateT Bytes (Except RecordFault)

namespace RecordReading

def field {α : Type} (reading : Reading α) : RecordReading α := fun input =>
  match reading input with
  | some result => .ok result
  | none => .error .truncated

def demand {α : Type} (fault : RecordFault) : Option α → RecordReading α
  | some value => pure value
  | none => fun _ => .error fault

/-- The name that an index in the record refers to. -/
def name (names : Array String) : RecordReading String := do
  demand .unknownName names[(← field Reading.u32).toNat]?

def dependency (names : Array String) : RecordReading Dependency := do
  let name ← name names
  let kind ← demand .unknownKind (ResourceKind.ofCode? (← field Reading.u32))
  let digest ← field (Reading.fixed 20)
  return ⟨name, kind, ⟨digest.val, digest.property⟩⟩

def pragma (names : Array String) : RecordReading Pragma := do
  return ⟨← name names, ← name names⟩

def objectSlot : RecordReading UInt32 := field Reading.u32

/-- The last four bytes of the record are not used. -/
def exportedVariable (header : Header) (names : Array String) : RecordReading ExportedVariable := do
  let address ← field Reading.u64
  let name ← name names
  let _ ← field Reading.u32
  demand .outsideImage (if header.holds address.toNat 1 then some ⟨name, address⟩ else none)

def kernelEntry (names : Array String) : RecordReading KernelEntry := do
  return ⟨← name names, ← field Reading.u32⟩

def function (header : Header) (names : Array String) : RecordReading FunctionRecord := do
  let address ← field Reading.u64
  let size ← field Reading.u32
  let name ← name names
  demand .outsideImage
    (if header.holds address.toNat size.toNat then some ⟨name, address, size.toUInt64⟩ else none)

/-- Reads `count` records, the first of which has the given index. On a fault its index is told. -/
def many {α : Type} (reading : RecordReading α) :
    (count index : Nat) → Bytes → Except (Nat × RecordFault) (List α)
  | 0, _, _ => .ok []
  | count + 1, index, input =>
      match reading input with
      | .error fault => .error (index, fault)
      | .ok (item, rest) => (many reading count (index + 1) rest).map (item :: ·)

end RecordReading

/-! ### The file -/

structure InfoFile where
  header : Header
  metadata : Metadata
  deriving DecidableEq

namespace InfoFile

def fromSection (header : Header) (file : Bytes) (part : Section) : Bytes :=
  file.drop (header.sections.get part).offset.toNat

def readEntries : (count : Nat) → Reading (List (UInt32 × UInt32))
  | 0 => return []
  | count + 1 => do
      let entry := (← Reading.u32, ← Reading.u32)
      return entry :: (← readEntries count)

def readNames (header : Header) (file : Bytes) : Except InfoFault (List String) :=
  let reading : Reading (List (UInt32 × UInt32) × Bytes) := do
    let entries ← readEntries (header.sections.get .names).count.toNat
    return (entries, ← Reading.take header.nameDataSize.toNat)
  match reading (fromSection header file .names) with
  | none => .error (.outOfBounds .names)
  | some ((entries, data), _) =>
      (NamePool.decode entries data).mapError fun (index, fault) => .names (fault.message index)

def readRecords {α : Type} (header : Header) (file : Bytes) (part : Section)
    (reading : RecordReading α) : Except InfoFault (List α) :=
  (RecordReading.many reading (header.sections.get part).count.toNat 0
    (fromSection header file part)).mapError fun (index, _) => .record part index

def readLists (header : Header) (file : Bytes) (names : Array String) :
    Except InfoFault Metadata := do
  return {
    threadable := header.threadable
    debugInfo := header.debugInfo
    dependencies := ← readRecords header file .dependencies (.dependency names)
    pragmas := ← readRecords header file .pragmas (.pragma names)
    objectSlots := ← readRecords header file .objectSlots .objectSlot
    globals := ← readRecords header file .globals (.exportedVariable header names)
    functionNames := ← readRecords header file .functionNames (.name names)
    kernels := ← readRecords header file .kernels (.kernelEntry names)
    functions := ← readRecords header file .functions (.function header names) }

def parse (file : Bytes) : Except InfoFault InfoFile :=
  match Header.reading file with
  | none => .error .tooSmall
  | some (header, _) => do
      header.check file.length
      let names ← readNames header file
      return ⟨header, ← readLists header file names.toArray⟩

end InfoFile

end KernelStore
