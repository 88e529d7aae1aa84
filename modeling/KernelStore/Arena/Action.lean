import KernelStore.Arena.Emission

/-!
Calls on an arena as they are carried out in place, step by step. A check that fails ends the call,
and takes back nothing of what has been assigned by then.
-/

namespace KernelStore

/-- Steps on an arena that may end in a fault, which leaves the arena as the steps have made it. -/
abbrev ArenaAction := ExceptT ArenaFault (StateM Arena)

namespace ArenaAction

open Arena (shift gotAlignment)

/-- The result of an action, and the arena that it leaves. -/
def runOn {α : Type} (action : ArenaAction α) (arena : Arena) : Except ArenaFault α × Arena :=
  (action.run.run arena).run

/-- Fails where the condition does, and assigns nothing. -/
def check {α : Type} (condition : Arena → Except ArenaFault α) : ArenaAction α := do
  match condition (← get) with
  | .ok value => return value
  | .error fault => throw fault

/-! ### Function bodies -/

def beginBody (name : String) : ArenaAction Block := do
  check Arena.requireWritable
  check Arena.requireNoOpenBody
  let arena ← get
  if (arena.findBody? name).isSome then throw (.duplicateBody name)
  modify ({ · with openBody := some ⟨name, arena.codeCursor⟩ })
  return arena.block arena.codeCursor arena.codeFree

/-- Where the open body starts, if it has this name. -/
def openStart (name : String) (arena : Arena) : Except ArenaFault Nat :=
  match arena.openBody with
  | none => .error (.noOpenBody name)
  | some opened => if opened.name = name then .ok opened.start else .error (.noOpenBody name)

def endBody (name : String) (size : Nat) : ArenaAction Body := do
  let start ← check (openStart name)
  let arena ← get
  let available := arena.stubCursor - start
  if available < size then throw (.outOfMemory .code size available)
  let body : Body := ⟨name, arena.base + start, arena.base + start + size⟩
  modify ({ · with openBody := none })
  modify ({ · with codeCursor := start + size })
  modify fun arena => { arena with bodies := arena.bodies ++ [body] }
  return body

def knownBody (name : String) (arena : Arena) : Except ArenaFault Body :=
  match arena.findBody? name with
  | none => .error (.unknownBody name)
  | some body => .ok body

/-- The bodies that stay are moved only after their bytes, and the cursor last. -/
def removeBody (name : String) : ArenaAction Unit := do
  check Arena.requireWritable
  check Arena.requireNoOpenBody
  let removed ← check (knownBody name)
  modify fun arena => { arena with bodies := arena.bodies.erase removed }
  modify fun arena => { arena with
    lease := { arena.lease with content := arena.closeUp removed } }
  modify fun arena => { arena with bodies := arena.bodies.map (shift removed) }
  modify fun arena => { arena with codeCursor := arena.codeCursor - removed.size }

/-! ### Blocks -/

def takeCode (size align : Nat) : ArenaAction Block := do
  check Arena.requireWritable
  check Arena.requireNoOpenBody
  let unit ← check fun _ => Arena.alignment align
  let arena ← get
  let start := roundUp (arena.base + arena.codeCursor) unit - arena.base
  if arena.stubCursor < start + size then throw (.outOfMemory .code size arena.codeFree)
  modify ({ · with codeCursor := start + size })
  return arena.block start size

def takeStub (size align : Nat) : ArenaAction Block := do
  check Arena.requireWritable
  let unit ← check fun _ => Arena.alignment align
  let arena ← get
  let limit := arena.base + arena.stubCursor
  let start := (limit - size) / unit * unit
  if limit < size ∨ start < arena.base + arena.codeCursor then
    throw (.outOfMemory .stub size arena.codeFree)
  modify ({ · with stubCursor := start - arena.base })
  return arena.block (start - arena.base) size

def takeData (size align : Nat) : ArenaAction Block := do
  let unit ← check fun _ => Arena.alignment align
  let arena ← get
  let start := roundUp (arena.base + arena.dataCursor) unit - arena.base
  if arena.lease.size < start + size then
    throw (.outOfMemory .data size (arena.lease.size - arena.dataCursor))
  modify ({ · with dataCursor := start + size })
  return arena.block start size

/-- The table is recorded once its block has been taken. -/
def takeGot : ArenaAction Block := do
  let arena ← get
  if arena.got.isSome then throw .gotAllocated
  let table ← takeStub arena.gotSize gotAlignment
  modify ({ · with got := some table.address })
  return table

/-! ### Contents -/

def write (address : Nat) (bytes : Bytes) : ArenaAction Unit := do
  check (·.requireAccess address bytes.length)
  modify fun arena => { arena with lease := { arena.lease with
    content := arena.lease.content.overwrite (address - arena.base) bytes } }

/-! ### Calls -/

def ofCall : ArenaCall → ArenaAction ArenaReply
  | .beginBody name => .block <$> beginBody name
  | .endBody name size => .body <$> endBody name size
  | .takeCode size align => .block <$> takeCode size align
  | .takeStub size align => .block <$> takeStub size align
  | .takeData size align => .block <$> takeData size align
  | .takeGot => .block <$> takeGot
  | .gotAddress => return .address (← get).got
  | .setWritable => do modify Arena.setWritable; return .done
  | .setExecutable => do modify Arena.setExecutable; return .done
  | .refusedProtection fault => throw (.protection fault)
  | .reset => do modify Arena.reset; return .done
  | .removeBody name => (fun _ => .done) <$> removeBody name
  | .findBody name => return .found ((← get).findBody? name)
  | .bodies => return .bodies (← get).bodies
  | .write address bytes => (fun _ => .done) <$> write address bytes
  | .read address size => .bytes <$> check (·.read address size)

/-- The replies to calls in turn, and the arena that they leave. -/
def carryOut (arena : Arena) : List ArenaCall → List (Except ArenaFault ArenaReply) × Arena
  | [] => ([], arena)
  | call :: rest =>
      let (reply, after) := (ofCall call).runOn arena
      let (replies, last) := carryOut after rest
      (reply :: replies, last)

end ArenaAction

end KernelStore
