import KernelStore.Artifact.InfoFile
import KernelStore.Proofs.Artifact.Positions

/-!
The format of metadata files, said of the bytes at their positions and not of how they are read:
what makes a file sound (`Sound`), and what a sound file says (`infoOf`).
-/

namespace KernelStore

/-- Where the indices of names stand in a record. -/
def Section.references : Section → List Nat
  | .names => []
  | .dependencies => [0]
  | .pragmas => [0, 4]
  | .objectSlots => []
  | .globals => [8]
  | .functionNames => [0]
  | .kernels => [0]
  | .functions => [12]

namespace Header

/-- How many records a section has. -/
def records (header : Header) (part : Section) : Nat := (header.sections.get part).count.toNat

def recordAt (header : Header) (part : Section) (index : Nat) : Nat :=
  (header.sections.get part).offset.toNat + index * part.itemSize.toNat

/-- The bytes of a section, as the format has them. -/
def extent (header : Header) (part : Section) : Nat :=
  header.records part * part.itemSize.toNat
    + if part = .names then header.nameDataSize.toNat else 0

/-- A section has the right records and lies behind the header and within the file. -/
structure Places (header : Header) (fileSize : Nat) (part : Section) : Prop where
  itemSize : (header.sections.get part).itemSize = part.itemSize
  aligned : (header.sections.get part).offset.toNat % 4 = 0
  behindHeader : 140 ≤ (header.sections.get part).offset.toNat
  inside : (header.sections.get part).offset.toNat + header.extent part ≤ fileSize

/-- A range of addresses lies in the image, or in what of it the addresses reach. -/
def Encloses (header : Header) (address size : Nat) : Prop :=
  header.imageAddress.toNat ≤ address ∧
    address + size ≤ min (header.imageAddress.toNat + header.imageSize.toNat) (2 ^ 64 - 1)

theorem Places.record_le {header : Header} {fileSize : Nat} {part : Section}
    (places : header.Places fileSize part) {index : Nat} (below : index < header.records part) :
    header.recordAt part index + part.itemSize.toNat ≤ fileSize := by
  have inside := places.inside
  have upTo : (index + 1) * part.itemSize.toNat ≤ header.records part * part.itemSize.toNat :=
    Nat.mul_le_mul_right _ below
  rw [Nat.succ_mul] at upTo
  unfold extent at inside
  unfold recordAt
  omega

theorem holds_iff {header : Header} {address size : Nat} :
    header.holds address size = true ↔ header.Encloses address size := by
  rw [holds, Bool.and_eq_true, decide_eq_true_iff, decide_eq_true_iff]
  rfl

end Header

namespace InfoFormat

/-- The records of a section in their order in the file. -/
def listOf {α : Type} (header : Header) (part : Section) (read : Nat → α) : List α :=
  (List.range (header.records part)).map fun index => read (header.recordAt part index)

/-! ### Names -/

/-- An entry's name lies in the data, ends in a zero byte and is a text. -/
structure NameSound (data : Bytes) (offset length : Nat) : Prop where
  inside : offset + length < data.length
  terminated : data[offset + length]? = some 0
  text : ∃ text, Utf8.encode text = data.part offset length

def nameIn (data : Bytes) (offset length : Nat) : String :=
  (Utf8.decode? (data.part offset length)).getD ""

/-- The offset and the length of a name. -/
def entryAt (file : Bytes) (position : Nat) : UInt32 × UInt32 :=
  (file.wordAt position, file.wordAt (position + 4))

def entriesOf (header : Header) (file : Bytes) : List (UInt32 × UInt32) :=
  listOf header .names (entryAt file)

/-- The bytes behind the entries. -/
def nameData (header : Header) (file : Bytes) : Bytes :=
  file.part (header.recordAt .names (header.records .names)) header.nameDataSize.toNat

def namesOf (header : Header) (file : Bytes) : List String :=
  (entriesOf header file).map fun entry =>
    nameIn (nameData header file) entry.1.toNat entry.2.toNat

/-! ### Records -/

/-- A record refers to names that are there, and what it says otherwise has a meaning. -/
@[mk_iff]
structure RecordSound (header : Header) (file : Bytes) (part : Section) (position : Nat) :
    Prop where
  references : ∀ field ∈ part.references,
    (file.wordAt (position + field)).toNat < header.records .names
  kind : part = .dependencies → file.wordAt (position + 4) = 0 ∨ file.wordAt (position + 4) = 1
  exported : part = .globals → header.Encloses (file.longAt position).toNat 1
  function : part = .functions →
    header.Encloses (file.longAt position).toNat (file.wordAt (position + 8)).toNat

section

variable (file : Bytes) (names : List String) (position : Nat)

/-- The name that an index stands for. -/
def nameAt : String := names.getD (file.wordAt position).toNat ""

def dependencyAt : Dependency where
  name := nameAt file names position
  kind := if file.wordAt (position + 4) = 0 then .runtime else .source
  digest := ⟨(file.fixedAt (position + 8) 20).val, (file.fixedAt (position + 8) 20).property⟩

def pragmaAt : Pragma := ⟨nameAt file names position, nameAt file names (position + 4)⟩

def exportedVariableAt : ExportedVariable :=
  ⟨nameAt file names (position + 8), file.longAt position⟩

def kernelEntryAt : KernelEntry := ⟨nameAt file names position, file.wordAt (position + 4)⟩

def functionAt : FunctionRecord where
  name := nameAt file names (position + 12)
  address := file.longAt position
  size := (file.wordAt (position + 8)).toUInt64

end

def metadataOf (header : Header) (file : Bytes) (names : List String) : Metadata where
  threadable := header.flags.toNat.testBit 0
  debugInfo := header.flags.toNat.testBit 1
  dependencies := listOf header .dependencies (dependencyAt file names)
  pragmas := listOf header .pragmas (pragmaAt file names)
  objectSlots := listOf header .objectSlots file.wordAt
  globals := listOf header .globals (exportedVariableAt file names)
  functionNames := listOf header .functionNames (nameAt file names)
  kernels := listOf header .kernels (kernelEntryAt file names)
  functions := listOf header .functions (functionAt file names)

/-! ### Files -/

/-- The bytes that every file of this format and this machine begins with. -/
def front : Bytes :=
  Header.currentMagic.val ++ Header.currentVersion.val
    ++ [Host.current.endianness, Host.current.fileOffsetSize, Host.current.wordSize,
      Host.current.pointerSize]

structure Sound (file : Bytes) : Prop where
  size : 140 ≤ file.length
  front : file.take 16 = front
  sections : ∀ part, (Header.of file).Places file.length part
  names : ∀ entry ∈ entriesOf (.of file) file,
    NameSound (nameData (.of file) file) entry.1.toNat entry.2.toNat
  records : ∀ part, ∀ index < (Header.of file).records part,
    RecordSound (.of file) file part ((Header.of file).recordAt part index)

def infoOf (file : Bytes) : InfoFile where
  header := .of file
  metadata := metadataOf (.of file) file (namesOf (.of file) file)

end InfoFormat

end KernelStore
