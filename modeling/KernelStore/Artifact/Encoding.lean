import KernelStore.Artifact.InfoFile
import KernelStore.Bytes.Parity

/-!
Writing a metadata file: the header, then each section at the next multiple of four. Every number
that the format gives four bytes has to fit in them, else nothing is written.
-/

namespace KernelStore

inductive Quantity
  | filePosition
  | records (part : Section)
  | nameOffset
  | nameLength
  | functionSize
  | nameData
  deriving DecidableEq

def Quantity.title : Quantity → String
  | filePosition => "metadata file"
  | records part => part.title
  | nameOffset => "string offset"
  | nameLength => "string length"
  | functionSize => "function size"
  | nameData => "string blob"

structure TooLarge where
  quantity : Quantity
  value : Nat
  deriving DecidableEq

def TooLarge.message (fault : TooLarge) : String :=
  s!"{fault.quantity.title} ({fault.value}) exceeds the metadata format's 32-bit limit"

/-- The number as four bytes hold it. -/
def fit (quantity : Quantity) (value : Nat) : Except TooLarge UInt32 :=
  if value < 1 <<< 32 then .ok (UInt32.ofNat value) else .error ⟨quantity, value⟩

theorem fit_eq_ok_iff {quantity : Quantity} {value : Nat} {word : UInt32} :
    fit quantity value = .ok word ↔ word.toNat = value := by
  unfold fit
  have small := word.toNat_lt
  split
  · rename_i fits
    simp only [Except.ok.injEq, ← UInt32.toNat_inj, UInt32.toNat_ofNat']
    omega
  · constructor
    · intro impossible
      cases impossible
    · omega

namespace Metadata

def allNames (metadata : Metadata) : List String :=
  metadata.dependencies.map (·.name)
    ++ metadata.pragmas.flatMap (fun pragma => [pragma.key, pragma.value])
    ++ metadata.globals.map (·.name)
    ++ metadata.functionNames
    ++ metadata.kernels.map (·.name)
    ++ metadata.functions.map (·.name)

def pool (metadata : Metadata) : NamePool := .ofNames metadata.allNames

def flags (metadata : Metadata) : UInt32 :=
  (if metadata.threadable then Header.threadableFlag else 0)
    ||| (if metadata.debugInfo then Header.debugInfoFlag else 0)

end Metadata

/-! ### Records -/

namespace NamePool

def reference (pool : NamePool) (name : String) : Bytes :=
  LittleEndian.ofUInt32 (UInt32.ofNat (pool.indexOf name))

def encodeEntry (entry : Nat × Nat) : Except TooLarge Bytes := do
  return LittleEndian.ofUInt32 (← fit .nameOffset entry.1)
    ++ LittleEndian.ofUInt32 (← fit .nameLength entry.2)

end NamePool

def Dependency.encode (pool : NamePool) (dependency : Dependency) : Bytes :=
  pool.reference dependency.name ++ LittleEndian.ofUInt32 dependency.kind.code
    ++ dependency.digest.bytes

def Pragma.encode (pool : NamePool) (pragma : Pragma) : Bytes :=
  pool.reference pragma.key ++ pool.reference pragma.value

/-- The last four bytes are not used. -/
def ExportedVariable.encode (pool : NamePool) (exported : ExportedVariable) : Bytes :=
  LittleEndian.ofUInt64 exported.address ++ pool.reference exported.name ++ Bytes.zeros 4

def KernelEntry.encode (pool : NamePool) (kernel : KernelEntry) : Bytes :=
  pool.reference kernel.name ++ LittleEndian.ofUInt32 kernel.signature

def FunctionRecord.encode (pool : NamePool) (function : FunctionRecord) : Except TooLarge Bytes := do
  return LittleEndian.ofUInt64 function.address
    ++ LittleEndian.ofUInt32 (← fit .functionSize function.size.toNat)
    ++ pool.reference function.name

/-! ### Sections -/

namespace Metadata

def count (metadata : Metadata) (pool : NamePool) : Section → Nat
  | .names => pool.names.length
  | .dependencies => metadata.dependencies.length
  | .pragmas => metadata.pragmas.length
  | .objectSlots => metadata.objectSlots.length
  | .globals => metadata.globals.length
  | .functionNames => metadata.functionNames.length
  | .kernels => metadata.kernels.length
  | .functions => metadata.functions.length

def encodeSection (metadata : Metadata) (pool : NamePool) : Section → Except TooLarge Bytes
  | .names => do return (← pool.entries.mapM NamePool.encodeEntry).flatten ++ pool.data
  | .dependencies => .ok (metadata.dependencies.flatMap (·.encode pool))
  | .pragmas => .ok (metadata.pragmas.flatMap (·.encode pool))
  | .objectSlots => .ok (metadata.objectSlots.flatMap LittleEndian.ofUInt32)
  | .globals => .ok (metadata.globals.flatMap (·.encode pool))
  | .functionNames => .ok (metadata.functionNames.flatMap pool.reference)
  | .kernels => .ok (metadata.kernels.flatMap (·.encode pool))
  | .functions => do return (← metadata.functions.mapM (·.encode pool)).flatten

/-- Puts sections one after another from a position on, each at the next multiple of four. Yields
their descriptors, and the bytes from the position on. -/
def encodeSections (metadata : Metadata) (pool : NamePool) (position : Nat) :
    List Section → Except TooLarge (List (Section × SectionDescriptor) × Bytes)
  | [] => .ok ([], [])
  | part :: rest => do
      let start := roundUp position wordAlignment
      let descriptor : SectionDescriptor :=
        ⟨← fit .filePosition start, ← fit (.records part) (metadata.count pool part), part.itemSize⟩
      let bytes ← metadata.encodeSection pool part
      let (descriptors, behind) ← metadata.encodeSections pool (start + bytes.length) rest
      return ((part, descriptor) :: descriptors, Bytes.zeros (start - position) ++ bytes ++ behind)

def sectionTable (descriptors : List (Section × SectionDescriptor)) : SectionTable :=
  .ofFn fun part => (descriptors.lookup part).getD ⟨0, 0, 0⟩

def encode (metadata : Metadata) (address : UInt64) (image : Content) :
    Except TooLarge Bytes := do
  let pool := metadata.pool
  let (descriptors, body) ← metadata.encodeSections pool Header.size Section.all
  let header : Header :=
    { magic := Header.currentMagic
      version := Header.currentVersion
      host := Host.current
      imageAddress := address
      imageSize := UInt64.ofNat image.size
      checksum := image.parity
      flags := metadata.flags
      nameDataSize := ← fit .nameData pool.data.length
      sections := sectionTable descriptors }
  return header.encode ++ body

end Metadata

end KernelStore
