import KernelStore.Arena
import KernelStore.Word

/-!
Taking blocks in words. An aligned start beyond all words, or an end there, is tested for and means
that there is no room; all other sums and differences must be words.
-/

namespace KernelStore.WordArena

variable {ε : Type}

/-- Start and end of the lowest aligned block between a cursor and a limit, as offsets. -/
def lowest (base cursor limit size unit : UInt64) : Trapping ε (Option (UInt64 × UInt64)) := do
  match ← Word.alignUp? (← Word.sum base cursor) unit with
  | none => return none
  | some address =>
      let start ← Word.difference address base
      return ((Word.sum? start size).map (start, ·)).filter (·.2 ≤ limit)

/-- Start of the highest aligned block between a floor and a cursor, as an offset. -/
def highest (base floor cursor size unit : UInt64) : Trapping ε (Option UInt64) := do
  match Word.difference? (← Word.sum base cursor) size with
  | none => return none
  | some address =>
      let aligned ← Word.alignDown address unit
      return (Word.difference? aligned base).filter (floor ≤ ·)

def alignment (align : UInt64) : Trapping ArenaFault UInt64 := do
  let unit ← ofExcept (Arena.alignment align.toNat)
  return .ofNat unit

def block (arena : Arena) (start size : UInt64) : Trapping ε Block := do
  let address ← Word.sum (.ofNat arena.base) start
  return ⟨address.toNat, start.toNat, size.toNat⟩

def takeCode (arena : Arena) (size align : UInt64) : Trapping ArenaFault (Block × Arena) := do
  ofExcept arena.requireWritable
  ofExcept arena.requireNoOpenBody
  let unit ← alignment align
  let cursor := .ofNat arena.codeCursor
  let limit := .ofNat arena.stubCursor
  match ← lowest (.ofNat arena.base) cursor limit size unit with
  | some (start, stop) =>
      return (← block arena start size, { arena with codeCursor := stop.toNat })
  | none =>
      let available ← Word.difference limit cursor
      throw (.outOfMemory .code size.toNat available.toNat)

def takeStub (arena : Arena) (size align : UInt64) : Trapping ArenaFault (Block × Arena) := do
  ofExcept arena.requireWritable
  let unit ← alignment align
  let floor := .ofNat arena.codeCursor
  let cursor := .ofNat arena.stubCursor
  let available ← Word.difference cursor floor
  match ← highest (.ofNat arena.base) floor cursor size unit with
  | some start => return (← block arena start size, { arena with stubCursor := start.toNat })
  | none => throw (.outOfMemory .stub size.toNat available.toNat)

def takeData (arena : Arena) (size align : UInt64) : Trapping ArenaFault (Block × Arena) := do
  let unit ← alignment align
  let cursor := .ofNat arena.dataCursor
  let limit := .ofNat arena.lease.size
  let available ← Word.difference limit cursor
  match ← lowest (.ofNat arena.base) cursor limit size unit with
  | some (start, stop) =>
      return (← block arena start size, { arena with dataCursor := stop.toNat })
  | none => throw (.outOfMemory .data size.toNat available.toNat)

end KernelStore.WordArena
