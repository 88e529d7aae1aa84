import KernelStore.Bytes.Parity
import KernelStore.FileTree
import KernelStore.Slot.Memory
import KernelStore.Store.Miss

/-!
Looking up a stored kernel. Its metadata is read and checked, its dependencies and its precision
are compared with what is wanted, its image is mapped into the slot it was made for, and the
mapping's parity is compared with the recorded one. After a miss nothing is held.
-/

namespace KernelStore

structure StoredPaths where
  info : String
  object : String
  deriving DecidableEq

namespace StoredPaths

def inDirectory (directory name : String) : StoredPaths where
  info := FilePath.join directory (name ++ ".info")
  object := FilePath.join directory (name ++ ".o")

end StoredPaths

/-- What a kernel has to have been built from, and for. -/
structure Wanted where
  dependencies : List Dependency
  /-- Without a precision, any will do. -/
  precision : Option Precision := none
  deriving DecidableEq

namespace Wanted

def differingField? (wanted found : Dependency) : Option DependencyField :=
  if wanted.name ≠ found.name then some .name
  else if wanted.kind ≠ found.kind then some .kind
  else if wanted.digest ≠ found.digest then some .digest
  else none

/-- The first difference of two lists of one length, the heads having the given index. -/
def firstDifference? (index : Nat) : List Dependency → List Dependency → Option MissReason
  | wanted :: restWanted, found :: restFound =>
      match differingField? wanted found with
      | some field => some (.dependency index wanted.name field)
      | none => firstDifference? (index + 1) restWanted restFound
  | _, _ => none

def difference? (wanted : Wanted) (metadata : Metadata) : Option MissReason :=
  if metadata.dependencies.length ≠ wanted.dependencies.length then
    some (.dependencyCount wanted.dependencies.length metadata.dependencies.length)
  else match firstDifference? 0 wanted.dependencies metadata.dependencies with
    | some reason => some reason
    | none =>
        match wanted.precision with
        | none => none
        | some required =>
            if metadata.precision = required then none
            else some (.precision required metadata.precision)

end Wanted

namespace Lookup

def fileReason (file : StoredFile) (fault : FileError) : MissReason :=
  if fault = .notFound then .absent file else .unreadable file fault.message

/-- Checks the metadata that has been read, and compares it with what is wanted. -/
def check (content : Except FileError Bytes) (wanted : Wanted) : Except Miss InfoFile :=
  match content with
  | .error fault => .error ⟨.headerValidated, fileReason .metadata fault⟩
  | .ok file =>
      match InfoFile.parse file with
      | .error fault => .error ⟨.headerValidated, .refused fault⟩
      | .ok info =>
          match wanted.difference? info.metadata with
          | some reason => .error ⟨.dependenciesValidated, reason⟩
          | none => .ok info

def checkFiles (files : FileTree) (paths : StoredPaths) (wanted : Wanted) : Except Miss InfoFile :=
  check (files.read paths.info) wanted

/-- What has been opened, for mapping, and the size that is reported for it. -/
def opened (files : FileTree) : Entry → OpenFile × Nat
  | .file content => (.regular content, content.size)
  | .directory entries => (.directory, files.directorySize entries)

def map (files : FileTree) (memory : Memory) (placement : Placement) (table : SlotTable)
    (paths : StoredPaths) (header : Header) : Except MissReason (Lease × Memory) :=
  let address := header.imageAddress.toNat
  let size := header.imageSize.toNat
  if (table.layout.slotIndex? address).isNone then .error (.notSlotAddress address)
  else if size ≠ table.layout.slotSize then .error (.size table.layout.slotSize size)
  else match files.openFile paths.object with
    | .error fault => .error (fileReason .object fault)
    | .ok entry =>
        let (file, found) := opened files entry
        if found < size then .error (.objectTruncated size found)
        else match memory.allocateFile placement table address file 0 with
          | .ok leased => .ok leased
          | .error (.occupied index) => .error (.slotInUse index)
          | .error fault => .error (.mapping fault.message)

structure Found where
  header : Header
  metadata : Metadata
  lease : Lease

/-- Looks a kernel up. A mapping with another parity than the recorded one is dropped. -/
def load (files : FileTree) (memory : Memory) (placement : Placement) (table : SlotTable)
    (paths : StoredPaths) (wanted : Wanted) : Except Miss Found × Memory :=
  match checkFiles files paths wanted with
  | .error miss => (.error miss, memory)
  | .ok info =>
      match map files memory placement table paths info.header with
      | .error reason => (.error ⟨.mapped, reason⟩, memory)
      | .ok (lease, held) =>
          if lease.content.hasParity info.header.checksum then
            (.ok ⟨info.header, info.metadata, lease⟩, held)
          else (.error ⟨.checksumValidated, .checksum⟩, held.drop placement lease)

end Lookup

/-- Reports a miss. A lookup that succeeds goes unreported. -/
def DiagnosticLog.reportMiss {α : Type} (log : DiagnosticLog) (outcome : Except Miss α) :
    DiagnosticLog :=
  match outcome with
  | .ok _ => log
  | .error miss => log.emit miss.diagnostic

end KernelStore
