import KernelStore.Digest.Streaming
import KernelStore.FileTree.Path
import KernelStore.Settings

/-!
Dependencies: the inputs a kernel was built from, each with the digest of its content. Shared
libraries come before the sources of a request.
-/

namespace KernelStore

inductive ResourceKind
  | runtime
  | source
  deriving DecidableEq

namespace ResourceKind

def all : List ResourceKind := [.runtime, .source]

def name : ResourceKind → String
  | runtime => "runtime"
  | source => "source"

def ofName? (text : String) : Option ResourceKind := all.find? (·.name == text)

def code : ResourceKind → UInt32
  | runtime => 0
  | source => 1

def ofCode? (code : UInt32) : Option ResourceKind := all.find? (·.code == code)

theorem ofCode?_code (kind : ResourceKind) : ofCode? kind.code = some kind := by
  cases kind <;> decide

end ResourceKind

structure Dependency where
  name : String
  kind : ResourceKind
  digest : Digest
  deriving DecidableEq

structure SourceInput where
  name : String
  content : Bytes
  deriving DecidableEq

namespace SourceInput

/-- The source in a file, which it is named after. -/
def ofFile {ε : Type} (path : String) (content : Except ε Bytes) : Except ε SourceInput :=
  content.map fun content => ⟨(FilePath.fileName? path).getD path, content⟩

def dependency (source : SourceInput) : Dependency :=
  ⟨source.name, .source, .ofBytes source.content⟩

end SourceInput

namespace RuntimeLibrary

/-- The digest stored for a library, or else the digest of the library itself. -/
def digest {m : Type → Type} [Monad m] {ε : Type} (read : String → m (Except ε Bytes))
    (library : RuntimeLibrary) : m Digest :=
  match library.digestFile, library.path with
  | some file, _ => return .stored (← read file)
  | none, some path => return .ofReadable (← read path)
  | none, none => return .zero

def dependency {m : Type → Type} [Monad m] {ε : Type} (read : String → m (Except ε Bytes))
    (library : RuntimeLibrary) : m Dependency :=
  return ⟨library.name, .runtime, ← library.digest read⟩

end RuntimeLibrary

end KernelStore
