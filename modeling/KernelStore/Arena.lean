import KernelStore.Slot.Memory

/-!
Emitting a kernel into a leased mapping. Function bodies and other code grow up from the start of
the mapping, stubs and the global offset table grow down from the end of the code part, and global
data grows up from there. A call that fails yields no arena, so the one at hand stays as it was.
-/

namespace KernelStore

inductive Region
  | code
  | stub
  | data
  deriving DecidableEq

def Region.name : Region → String
  | code => "code"
  | stub => "stub"
  | data => "global data"

inductive ArenaFault
  | outOfMemory (region : Region) (requested available : Nat)
  | alignment (align : Nat)
  | notWritable
  | bodyOpen (name : String)
  | noOpenBody (name : String)
  | duplicateBody (name : String)
  | unknownBody (name : String)
  | gotAllocated
  | outOfBounds (address size : Nat)
  | protection (fault : SystemFault)
  deriving DecidableEq

def ArenaFault.message : ArenaFault → String
  | outOfMemory region requested available =>
      s!"out of {region.name} memory: requested {requested} bytes, {available} available"
  | alignment align => s!"alignment {align} is not a power of two"
  | notWritable => "code area is not writable"
  | bodyOpen name => s!"function '{name}' is still being emitted"
  | noOpenBody name => s!"no function body is open for '{name}'"
  | duplicateBody name => s!"function '{name}' is already defined"
  | unknownBody name => s!"unknown function '{name}'"
  | gotAllocated => "global offset table is already allocated"
  | outOfBounds address size =>
      s!"range {Hexadecimal.address address}+{size} lies outside the slot"
  | protection fault => s!"changing page protection failed: {fault.message}"

structure Block where
  address : Nat
  offset : Nat
  size : Nat
  deriving DecidableEq

structure Body where
  name : String
  start : Nat
  stop : Nat
  deriving DecidableEq

def Body.size (body : Body) : Nat := body.stop - body.start

structure OpenBody where
  name : String
  start : Nat
  deriving DecidableEq

structure Arena where
  lease : Lease
  /-- Offset of the first free byte between code and stubs. -/
  codeCursor : Nat
  /-- Offset one past the last free byte between code and stubs. -/
  stubCursor : Nat
  /-- Offset of the first free byte of global data. -/
  dataCursor : Nat
  got : Option Nat
  /-- Whether the code part can be written; if not, it can be executed. -/
  writable : Bool
  openBody : Option OpenBody
  bodies : List Body
  deriving DecidableEq

namespace Arena

def base (arena : Arena) : Nat := arena.lease.address

def codeSize (arena : Arena) : Nat := arena.lease.layout.codeSize

def gotSize (arena : Arena) : Nat := arena.lease.layout.gotSize

def ofLease (lease : Lease) : Arena where
  lease := lease
  codeCursor := 0
  stubCursor := lease.layout.codeSize
  dataCursor := lease.layout.codeSize
  got := none
  writable := true
  openBody := none
  bodies := []

/-! ### Bytes in use -/

def codeUsed (arena : Arena) : Nat := arena.codeCursor

def stubUsed (arena : Arena) : Nat := arena.codeSize - arena.stubCursor

def dataUsed (arena : Arena) : Nat := arena.dataCursor - arena.codeSize

def codeFree (arena : Arena) : Nat := arena.stubCursor - arena.codeCursor

/-! ### Conditions on calls -/

def requireWritable (arena : Arena) : Except ArenaFault Unit :=
  if arena.writable then .ok () else .error .notWritable

def requireNoOpenBody (arena : Arena) : Except ArenaFault Unit :=
  match arena.openBody with
  | some body => .error (.bodyOpen body.name)
  | none => .ok ()

/-- A power of two; zero stands for one. -/
def alignment (align : Nat) : Except ArenaFault Nat :=
  if align = 0 then .ok 1
  else if 1 <<< align.log2 = align then .ok align
  else .error (.alignment align)

def block (arena : Arena) (offset size : Nat) : Block := ⟨arena.base + offset, offset, size⟩

def findBody? (arena : Arena) (name : String) : Option Body :=
  arena.bodies.find? (·.name == name)

/-! ### Function bodies -/

def beginBody (arena : Arena) (name : String) : Except ArenaFault (Block × Arena) := do
  arena.requireWritable
  arena.requireNoOpenBody
  if (arena.findBody? name).isSome then throw (.duplicateBody name)
  return (arena.block arena.codeCursor arena.codeFree,
    { arena with openBody := some ⟨name, arena.codeCursor⟩ })

def endBody (arena : Arena) (name : String) (size : Nat) : Except ArenaFault (Body × Arena) :=
  match arena.openBody with
  | none => .error (.noOpenBody name)
  | some opened =>
      if opened.name ≠ name then .error (.noOpenBody name)
      else
        let available := arena.stubCursor - opened.start
        if available < size then .error (.outOfMemory .code size available)
        else
          let start := arena.base + opened.start
          let body : Body := ⟨name, start, start + size⟩
          .ok (body, { arena with
            openBody := none
            codeCursor := opened.start + size
            bodies := arena.bodies ++ [body] })

/-- Where a body lies after `removed` has been taken out below or above it. -/
def shift (removed body : Body) : Body :=
  if removed.stop ≤ body.start then
    { body with start := body.start - removed.size, stop := body.stop - removed.size }
  else body

/-- The bytes of the mapping after the ones of `removed` have been closed up to the code cursor,
zeros filling the room this makes. -/
def closeUp (arena : Arena) (removed : Body) : Content :=
  let content := arena.lease.content
  let start := removed.start - arena.base
  let stop := removed.stop - arena.base
  content.take start ++ content.part stop (arena.codeCursor - stop)
    ++ Content.zeros removed.size ++ content.drop arena.codeCursor

/-- Removes a body; all code beyond it moves down over it. -/
def removeBody (arena : Arena) (name : String) : Except ArenaFault Arena := do
  arena.requireWritable
  arena.requireNoOpenBody
  match arena.findBody? name with
  | none => throw (.unknownBody name)
  | some removed =>
      return { arena with
        lease := { arena.lease with content := arena.closeUp removed }
        codeCursor := arena.codeCursor - removed.size
        bodies := (arena.bodies.erase removed).map (shift removed) }

/-! ### Blocks -/

def takeCode (arena : Arena) (size align : Nat) : Except ArenaFault (Block × Arena) := do
  arena.requireWritable
  arena.requireNoOpenBody
  let align ← alignment align
  let start := roundUp (arena.base + arena.codeCursor) align - arena.base
  if start + size ≤ arena.stubCursor then
    return (arena.block start size, { arena with codeCursor := start + size })
  else throw (.outOfMemory .code size arena.codeFree)

def takeStub (arena : Arena) (size align : Nat) : Except ArenaFault (Block × Arena) := do
  arena.requireWritable
  let align ← alignment align
  let limit := arena.base + arena.stubCursor
  let start := (limit - size) / align * align
  if size ≤ limit ∧ arena.base + arena.codeCursor ≤ start then
    let offset := start - arena.base
    return (arena.block offset size, { arena with stubCursor := offset })
  else throw (.outOfMemory .stub size arena.codeFree)

/-- Takes the lowest aligned block of global data, whether or not code can be written. -/
def takeData (arena : Arena) (size align : Nat) : Except ArenaFault (Block × Arena) := do
  let align ← alignment align
  let start := roundUp (arena.base + arena.dataCursor) align - arena.base
  if start + size ≤ arena.lease.size then
    return (arena.block start size, { arena with dataCursor := start + size })
  else throw (.outOfMemory .data size (arena.lease.size - arena.dataCursor))

def gotAlignment : Nat := 8

def takeGot (arena : Arena) : Except ArenaFault (Block × Arena) := do
  if arena.got.isSome then throw .gotAllocated
  let (table, arena) ← arena.takeStub arena.gotSize gotAlignment
  return (table, { arena with got := some table.address })

/-! ### Protection and contents -/

def setWritable (arena : Arena) : Arena := { arena with writable := true }

def setExecutable (arena : Arena) : Arena := { arena with writable := false }

/-- Has the code part made writable, or else executable. -/
def protect (arena : Arena) (placement : Placement) (writable : Bool) : Except ArenaFault Arena :=
  match placement.protectFault? arena.lease.code writable with
  | some fault => .error (.protection fault)
  | none => .ok (if writable then arena.setWritable else arena.setExecutable)

/-- An arena on a lease whose code can be written from now on. -/
def onLease (placement : Placement) (lease : Lease) : Except ArenaFault Arena :=
  (ofLease lease).setExecutable.protect placement true

/-- Forgets every block and body; contents and protection stay. -/
def reset (arena : Arena) : Arena :=
  { ofLease arena.lease with writable := arena.writable }

/-- Whether a range can be written: it lies inside, and does not begin in code that can be
executed. -/
def requireAccess (arena : Arena) (address size : Nat) : Except ArenaFault Unit :=
  if !arena.lease.contains address size then .error (.outOfBounds address size)
  else if address < arena.base + arena.codeSize && !arena.writable then .error .notWritable
  else .ok ()

def read (arena : Arena) (address size : Nat) : Except ArenaFault Bytes := do
  arena.requireAccess address size
  return (arena.lease.content.part (address - arena.base) size).bytes

def write (arena : Arena) (address : Nat) (bytes : Bytes) : Except ArenaFault Arena := do
  arena.requireAccess address bytes.length
  return { arena with lease := { arena.lease with
    content := arena.lease.content.overwrite (address - arena.base) bytes } }

end Arena

end KernelStore
