import KernelStore.Arena.Emission
import KernelStore.Settings.Toggles
import KernelStore.Store.Lookup

/-!
Kernels, the requests for them, and the store that serves requests.
-/

namespace KernelStore

structure CompileRequest where
  /-- Also the stem of the kernel's files. -/
  name : String
  sources : List SourceInput
  /-- The precision to compile for. Without one the kernel's own pragmas decide. -/
  precision : Option Precision := none
  deriving DecidableEq

/-- Turns a request into code by a dialogue with an arena, and yields the code's metadata or a
reason why there is none. -/
abbrev Generator := CompileRequest → Arena → Emission (Except String Metadata)

inductive Origin
  | stored
  | compiled (persisted : Bool)
  deriving DecidableEq

/-- A kernel ready to run. Giving up its lease ends it. -/
structure Kernel where
  metadata : Metadata
  lease : Lease
  origin : Origin
  deriving DecidableEq

namespace Kernel

def functionAddress? (kernel : Kernel) (name : String) : Option UInt64 :=
  (kernel.metadata.findFunction? name).map (·.address)

def variableAddress? (kernel : Kernel) (name : String) : Option UInt64 :=
  (kernel.metadata.findVariable? name).map (·.address)

end Kernel

/-- What the machine decides: where it maps memory, and which writes it refuses. -/
structure Machine where
  placement : Placement
  disk : Disk

def Machine.standard : Machine := ⟨.standard, .standard⟩

/-- The files and the memory that stores share. -/
structure World where
  files : FileTree := {}
  memory : Memory := {}

/-- Serves requests from one directory and one table of slots. -/
structure Store where
  table : SlotTable
  directory : String
  toggles : Toggles
  /-- The dependencies of every kernel, ahead of its sources. -/
  runtime : List Dependency
  deriving DecidableEq

namespace Store

/-- The store that settings ask for, with a table of its own. -/
def ofSettings (world : World) (settings : Settings) (toggles : Toggles) :
    Except LayoutFault (Store × World) :=
  match Layout.ofSettings settings.memory with
  | .error fault => .error fault
  | .ok layout =>
      let (table, memory) := world.memory.newTable layout
      let runtime := (settings.cache.runtime.mapM
        (RuntimeLibrary.dependency fun path => pure (world.files.read path)) : Id _).run
      .ok (⟨table, settings.cache.dir, toggles, runtime⟩, { world with memory })

def paths (store : Store) (name : String) : StoredPaths := .inDirectory store.directory name

def dependencies (store : Store) (request : CompileRequest) : List Dependency :=
  store.runtime ++ request.sources.map (·.dependency)

/-- The precision that a request is served at; the store's own comes first. -/
def precisionFor (store : Store) (request : CompileRequest) : Option Precision :=
  store.toggles.precision.or request.precision

def wanted (store : Store) (request : CompileRequest) : Wanted where
  dependencies := store.dependencies request
  precision := store.precisionFor request

/-- Looks a requested kernel up, whatever the toggles say. -/
def load (store : Store) (placement : Placement) (world : World) (request : CompileRequest) :
    Except Miss Lookup.Found × World :=
  let (outcome, memory) := Lookup.load world.files world.memory placement store.table
    (store.paths request.name) (store.wanted request)
  (outcome, { world with memory })

end Store

end KernelStore
