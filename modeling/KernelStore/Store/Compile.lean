import KernelStore.Store.Kernel
import KernelStore.Store.Persist

/-!
Serving a request: the stored kernel if it can be used, else one compiled into a fresh slot and
written back. A kernel outside the slots is not written, nor is one that would replace what is
stored only because the stored kernel's slot is taken. That writing fails does not fail the request.
-/

namespace KernelStore

inductive CompileFault
  | lease (fault : LeaseFault)
  /-- The code of the fresh slot could not be made writable, or executable once it was there. -/
  | arena (fault : ArenaFault)
  | generator (detail : String)
  deriving DecidableEq

def CompileFault.message : CompileFault → String
  | lease fault => fault.message
  | arena fault => fault.message
  | generator detail => s!"code generation failed: internal error: {detail}"

/-- What a generator was asked, and how it went about it. -/
structure Generation where
  request : CompileRequest
  exchanges : List Exchange

structure Outcome where
  result : Except CompileFault Kernel
  world : World
  diagnostics : List Diagnostic := []
  /-- Nothing, if no generator was asked. -/
  generation : Option Generation := none

namespace Store

/-! ### Reports -/

def fallbackDiagnostic (name : String) (address : Nat) : Diagnostic where
  severity := .warning
  code := ⟨.memory, 302⟩
  message := s!"no free slot for '{name}'"
  notes := [s!"kernel placed at {Hexadecimal.address address} and will not be cached"]

def skippedDiagnostic (name : String) : Diagnostic where
  severity := .info
  code := ⟨.write, 402⟩
  message := s!"not replacing cache files for '{name}' while their slot is in use"

def failedDiagnostic (name : String) (fault : PersistFault) : Diagnostic where
  severity := .warning
  code := ⟨.write, 401⟩
  message := s!"failed to cache '{name}'"
  notes := [fault.message]

/-! ### Compiling -/

/-- The metadata of a compiled kernel: the generator's, with the required precision, the bodies that
the arena holds, and the dependencies of the request. -/
def complete (store : Store) (request : CompileRequest) (arena : Arena) (metadata : Metadata) :
    Metadata :=
  let settled := match store.precisionFor request with
    | some precision => metadata.setPrecision precision
    | none => metadata
  { settled with
    functions := arena.bodies.map .ofBody
    dependencies := store.dependencies request }

/-- Writes a compiled kernel's files where that is wanted. Yields whether they were written, the
files, and what is reported. -/
def persist (store : Store) (disk : Disk) (files : FileTree) (name : String) (lease : Lease)
    (metadata : Metadata) (busy : Bool) : Bool × FileTree × List Diagnostic :=
  if !store.toggles.enabled || !lease.isFixed then (false, files, [])
  else if busy then (false, files, [skippedDiagnostic name])
  else match Persist.write files disk (store.paths name) lease metadata with
    | (.ok (), files) => (true, files, [])
    | (.error fault, files) => (false, files, [failedDiagnostic name fault])

/-- Compiles a kernel into a fresh slot, which is dropped if that fails. The stored kernel is busy if
it could not be used because its slot is taken. -/
def compile (store : Store) (machine : Machine) (world : World) (request : CompileRequest)
    (generator : Generator) (busy : Bool) : Outcome :=
  match world.memory.allocate machine.placement store.table with
  | .error fault => { result := .error (.lease fault), world }
  | .ok (lease, memory) =>
      let placed := if lease.isFixed then [] else [fallbackDiagnostic request.name lease.address]
      let asked := { request with precision := store.precisionFor request }
      let failed (fault : CompileFault) (generation : Option Generation) : Outcome :=
        { result := .error fault
          world := { world with memory := memory.drop machine.placement lease }
          diagnostics := placed
          generation }
      match Arena.onLease machine.placement lease with
      | .error fault => failed (.arena fault) none
      | .ok arena =>
          let (exchanges, result, emitted) := (generator asked arena).run arena
          let generation := some ⟨asked, exchanges⟩
          match result with
          | .error detail => failed (.generator detail) generation
          | .ok metadata =>
              match emitted.protect machine.placement false with
              | .error fault => failed (.arena fault) generation
              | .ok emitted =>
                  let metadata := store.complete request emitted metadata
                  let (persisted, files, reported) :=
                    store.persist machine.disk world.files request.name emitted.lease metadata busy
                  { result := .ok ⟨metadata, emitted.lease, .compiled persisted⟩
                    world := { files, memory }
                    diagnostics := placed ++ reported
                    generation }

def serve (store : Store) (machine : Machine) (world : World) (request : CompileRequest)
    (generator : Generator) : Outcome :=
  if store.toggles.enabled && !store.toggles.forceRecompile then
    match store.load machine.placement world request with
    | (.ok found, world) => { result := .ok ⟨found.metadata, found.lease, .stored⟩, world }
    | (.error miss, world) =>
        let outcome := store.compile machine world request generator miss.isSlotInUse
        { outcome with diagnostics := miss.diagnostic :: outcome.diagnostics }
  else store.compile machine world request generator false

end Store

end KernelStore
