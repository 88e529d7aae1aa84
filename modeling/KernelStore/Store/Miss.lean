import KernelStore.Artifact.InfoFile
import KernelStore.Diagnostic

/-!
Misses: why a kernel was not found in the store. A lookup goes through stages, and a miss names the
stage that it did not reach.
-/

namespace KernelStore

inductive Stage
  | start
  | headerValidated
  | dependenciesValidated
  | mapped
  | checksumValidated
  | ready
  deriving DecidableEq

namespace Stage

def all : List Stage :=
  [.start, .headerValidated, .dependenciesValidated, .mapped, .checksumValidated, .ready]

def name : Stage → String
  | start => "Start"
  | headerValidated => "HeaderValidated"
  | dependenciesValidated => "DependenciesValidated"
  | mapped => "Mapped"
  | checksumValidated => "ChecksumValidated"
  | ready => "Ready"

def ofName? (text : String) : Option Stage := all.find? (·.name == text)

end Stage

inductive StoredFile
  | metadata
  | object
  deriving DecidableEq

def StoredFile.name : StoredFile → String
  | metadata => "metadata"
  | object => "object"

inductive DependencyField
  | name
  | kind
  | digest
  deriving DecidableEq

def DependencyField.title : DependencyField → String
  | name => "name"
  | kind => "kind"
  | digest => "digest"

inductive MissReason
  | absent (file : StoredFile)
  | unreadable (file : StoredFile) (detail : String)
  | refused (fault : InfoFault)
  | dependencyCount (expected found : Nat)
  | dependency (index : Nat) (name : String) (field : DependencyField)
  | precision (required found : Precision)
  | notSlotAddress (address : Nat)
  | size (expected found : Nat)
  | objectTruncated (expected found : Nat)
  | slotInUse (index : Nat)
  | mapping (detail : String)
  | checksum
  deriving DecidableEq

namespace MissReason

def message : MissReason → String
  | absent file => s!"{file.name} file does not exist"
  | unreadable file detail => s!"{file.name} file is unreadable: {detail}"
  | refused fault => fault.message
  | dependencyCount expected found => s!"expected {expected} dependencies, found {found}"
  | dependency index name field => s!"dependency {index} ('{name}') has a different {field.title}"
  | precision required found =>
      s!"kernel was compiled for {found.name} precision, {required.name} is required"
  | notSlotAddress address =>
      s!"artifact address {Hexadecimal.address address} is not a slot address"
  | size expected found => s!"artifact size {found} differs from slot size {expected}"
  | objectTruncated expected found => s!"object file holds {found} bytes, {expected} expected"
  | slotInUse index => s!"slot {index} is in use"
  | mapping detail => s!"mapping failed: {detail}"
  | checksum => "image checksum mismatch"

/-- Only what calls for attention is a warning. -/
def severity : MissReason → Severity
  | absent _ | dependencyCount _ _ | dependency _ _ _ | precision _ _ | slotInUse _ => .info
  | _ => .warning

def code : MissReason → DiagnosticCode
  | absent _ => ⟨.cache, 101⟩
  | unreadable _ _ | refused _ => ⟨.cache, 102⟩
  | dependencyCount _ _ | dependency _ _ _ => ⟨.dependency, 201⟩
  | precision _ _ => ⟨.dependency, 202⟩
  | notSlotAddress _ | size _ _ | objectTruncated _ _ | mapping _ => ⟨.cache, 103⟩
  | slotInUse _ => ⟨.memory, 301⟩
  | checksum => ⟨.cache, 104⟩

end MissReason

structure Miss where
  stage : Stage
  reason : MissReason
  deriving DecidableEq

namespace Miss

def message (miss : Miss) : String := s!"miss at {miss.stage.name}: {miss.reason.message}"

/-- Whether the kernel's slot is taken. What is stored is then most likely sound, and is not to be
replaced. -/
def isSlotInUse (miss : Miss) : Bool :=
  match miss.reason with
  | .slotInUse _ => true
  | _ => false

def diagnostic (miss : Miss) : Diagnostic where
  severity := miss.reason.severity
  code := miss.reason.code
  message := s!"cache miss: {miss.reason.message}"
  notes := [s!"rejected at {miss.stage.name}"]

end Miss

end KernelStore
