import KernelStore.Store.Lookup

/-!
Looking up a stored kernel as it goes, step by step. A reader takes a lease on the way, which it
drops if the image turns out to be another one. A miss ends the steps where it occurs, and a
reader that reports does so then.
-/

namespace KernelStore

/-- Looks kernels up for one table. -/
structure Reader where
  files : FileTree
  placement : Placement
  table : SlotTable
  wanted : Wanted
  isReporting : Bool

/-- What a reader may change. -/
structure ReaderState where
  memory : Memory
  log : DiagnosticLog

/-- Steps of a reader that may end in a miss, which leaves what the steps have changed. -/
abbrev ReaderAction := ExceptT Miss (StateM ReaderState)

namespace ReaderAction

/-- What the steps end in, and what they leave. -/
def runOn {α : Type} (action : ReaderAction α) (state : ReaderState) :
    Except Miss α × ReaderState :=
  (action.run.run state).run

/-- Misses a stage for the reason there is, if there is one. -/
def reach {α : Type} (stage : Stage) (outcome : Except MissReason α) : ReaderAction α :=
  match outcome with
  | .ok value => return value
  | .error reason => throw ⟨stage, reason⟩

end ReaderAction

namespace Reader

open Lookup (Found fileReason opened)
open ReaderAction (reach)

/-! ### Checking -/

def compare (reader : Reader) (metadata : Metadata) : Except MissReason Unit :=
  match reader.wanted.difference? metadata with
  | some reason => .error reason
  | none => .ok ()

def validate (reader : Reader) (paths : StoredPaths) : ReaderAction InfoFile := do
  let file ← reach .headerValidated
    ((reader.files.read paths.info).mapError (fileReason .metadata))
  let info ← reach .headerValidated ((InfoFile.parse file).mapError .refused)
  reach .dependenciesValidated (reader.compare info.metadata)
  return info

/-! ### Mapping -/

def leaseFile (reader : Reader) (address : Nat) (file : OpenFile) : ReaderAction Lease := do
  let state ← get
  match state.memory.allocateFile reader.placement reader.table address file 0 with
  | .ok (lease, memory) =>
      set { state with memory }
      return lease
  | .error (.occupied index) => throw ⟨.mapped, .slotInUse index⟩
  | .error fault => throw ⟨.mapped, .mapping fault.message⟩

def map (reader : Reader) (paths : StoredPaths) (header : Header) : ReaderAction Lease := do
  let layout := reader.table.layout
  let address := header.imageAddress.toNat
  let size := header.imageSize.toNat
  if (layout.slotIndex? address).isNone then throw ⟨.mapped, .notSlotAddress address⟩
  if size ≠ layout.slotSize then throw ⟨.mapped, .size layout.slotSize size⟩
  let entry ← reach .mapped ((reader.files.openFile paths.object).mapError (fileReason .object))
  let (file, found) := opened reader.files entry
  if found < size then throw ⟨.mapped, .objectTruncated size found⟩
  reader.leaseFile address file

/-- A lease whose bytes have another parity than the recorded one is dropped. -/
def find (reader : Reader) (paths : StoredPaths) : ReaderAction Found := do
  let info ← reader.validate paths
  let lease ← reader.map paths info.header
  if !lease.content.hasParity info.header.checksum then
    modify fun state => { state with memory := state.memory.drop reader.placement lease }
    throw ⟨.checksumValidated, .checksum⟩
  return ⟨info.header, info.metadata, lease⟩

/-! ### Reporting -/

def report (reader : Reader) (miss : Miss) (state : ReaderState) : ReaderState :=
  if reader.isReporting then { state with log := state.log.emit miss.diagnostic } else state

/-- Carries the steps out, and reports the miss if they end in one. -/
def carryOut {α : Type} (reader : Reader) (action : ReaderAction α) (state : ReaderState) :
    Except Miss α × ReaderState :=
  match action.runOn state with
  | (.ok value, after) => (.ok value, after)
  | (.error miss, after) => (.error miss, reader.report miss after)

/-- Looks a kernel up and maps it. -/
def load (reader : Reader) (paths : StoredPaths) (state : ReaderState) :
    Except Miss Found × ReaderState :=
  reader.carryOut (reader.find paths) state

/-- Looks a kernel's metadata up and maps nothing. -/
def check (reader : Reader) (paths : StoredPaths) (state : ReaderState) :
    Except Miss InfoFile × ReaderState :=
  reader.carryOut (reader.validate paths) state

end Reader

end KernelStore
