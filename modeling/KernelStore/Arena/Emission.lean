import KernelStore.Arena

/-!
Emitting as a dialogue: a generator makes calls on an arena, and each call may depend on the
replies so far. A dialogue is finite, and running it yields the record of all exchanges.
-/

namespace KernelStore

inductive ArenaCall
  | beginBody (name : String)
  | endBody (name : String) (size : Nat)
  | takeCode (size align : Nat)
  | takeStub (size align : Nat)
  | takeData (size align : Nat)
  | takeGot
  | gotAddress
  | setWritable
  | setExecutable
  /-- A change of protection, to either side, that the system refuses. -/
  | refusedProtection (fault : SystemFault)
  | reset
  | removeBody (name : String)
  | findBody (name : String)
  | bodies
  | write (address : Nat) (bytes : Bytes)
  | read (address size : Nat)
  deriving DecidableEq

inductive ArenaReply
  | done
  | block (block : Block)
  | body (body : Body)
  | found (body : Option Body)
  | bodies (bodies : List Body)
  | address (address : Option Nat)
  | bytes (bytes : Bytes)
  deriving DecidableEq

namespace Arena

/-- Keeps the arena after a failure, and the changed one after a success. -/
def settle {α : Type} (arena : Arena) (reply : α → ArenaReply) :
    Except ArenaFault (α × Arena) → Except ArenaFault ArenaReply × Arena
  | .ok (value, changed) => (.ok (reply value), changed)
  | .error fault => (.error fault, arena)

def perform (arena : Arena) : ArenaCall → Except ArenaFault ArenaReply × Arena
  | .beginBody name => arena.settle .block (arena.beginBody name)
  | .endBody name size => arena.settle .body (arena.endBody name size)
  | .takeCode size align => arena.settle .block (arena.takeCode size align)
  | .takeStub size align => arena.settle .block (arena.takeStub size align)
  | .takeData size align => arena.settle .block (arena.takeData size align)
  | .takeGot => arena.settle .block arena.takeGot
  | .gotAddress => (.ok (.address arena.got), arena)
  | .setWritable => (.ok .done, arena.setWritable)
  | .setExecutable => (.ok .done, arena.setExecutable)
  | .refusedProtection fault => (.error (.protection fault), arena)
  | .reset => (.ok .done, arena.reset)
  | .removeBody name =>
      arena.settle (fun _ => .done) ((arena.removeBody name).map ((), ·))
  | .findBody name => (.ok (.found (arena.findBody? name)), arena)
  | .bodies => (.ok (.bodies arena.bodies), arena)
  | .write address bytes =>
      arena.settle (fun _ => .done) ((arena.write address bytes).map ((), ·))
  | .read address size => ((arena.read address size).map .bytes, arena)

def performAll (arena : Arena) (calls : List ArenaCall) : Arena :=
  calls.foldl (fun arena call => (arena.perform call).2) arena

end Arena

structure Exchange where
  call : ArenaCall
  reply : Except ArenaFault ArenaReply
  after : Arena

/-- A dialogue with an arena that ends in a result. -/
inductive Emission (α : Type)
  | finish (result : α)
  | ask (call : ArenaCall) (next : Except ArenaFault ArenaReply → Emission α)

namespace Emission

def run {α : Type} : Emission α → Arena → List Exchange × α × Arena
  | .finish result, arena => ([], result, arena)
  | .ask call next, arena =>
      let (reply, after) := arena.perform call
      let (exchanges, result, final) := (next reply).run after
      (⟨call, reply, after⟩ :: exchanges, result, final)

end Emission

end KernelStore
