/-!
The tree that a TOML document describes. Each table remembers how it came about, since that
decides which later statements may still extend it.
-/

namespace KernelStore.Toml

inductive Origin
  | header
  /-- Only passed through by a longer header. -/
  | passed
  /-- Named by a dotted key. -/
  | dotted
  /-- Written between braces; closed for good. -/
  | inline
  deriving DecidableEq

inductive Node
  | text (value : String)
  | integer (value : Int)
  | fraction
  | boolean (value : Bool)
  | moment
  | array (items : List Node)
  | table (origin : Origin) (entries : List (String × Node))
  /-- Tables that double-bracket headers add one after the other, the last one first. -/
  | tables (elements : List (List (String × Node)))

/-- The entries of a table in order of their first mention; no key stands twice. -/
abbrev Entries := List (String × Node)

namespace Entries

def find? (entries : Entries) (key : String) : Option Node := entries.lookup key

/-- Gives the key a new node, in its place if it had one and at the end if not. -/
def put (entries : Entries) (key : String) (node : Node) : Entries :=
  match entries with
  | [] => [(key, node)]
  | (name, old) :: rest =>
      if name == key then (name, node) :: rest else (name, old) :: put rest key node

def erase (entries : Entries) (key : String) : Entries := entries.filter (·.1 != key)

/-- Changes the table at the end of a path. A key on the way that is missing becomes a table; of
several tables under one key the last is meant. Dotted keys pass through no table that a header
has named, and nothing passes through a finished value. -/
def edit (dottedKey : Bool) (path : List String) (change : Origin → Entries → Option Entries)
    (origin : Origin) (entries : Entries) : Option Entries :=
  match path with
  | [] => change origin entries
  | key :: path =>
      let inside (origin : Origin) (inner : Entries) : Option Entries := do
        let inner ← edit dottedKey path change origin inner
        return entries.put key (.table origin inner)
      match entries.find? key with
      | none => inside (if dottedKey then .dotted else .passed) []
      | some (.table .inline _) => none
      | some (.table .header inner) => if dottedKey then none else inside .header inner
      | some (.table origin inner) => inside origin inner
      | some (.tables (last :: earlier)) => do
          let last ← edit dottedKey path change .header last
          return entries.put key (.tables (last :: earlier))
      | some _ => none

/-- Enters a value under a key. A key of several parts adds only to a table that such a key
made, and no key is given twice. -/
def insert (entries : Entries) (key : List String) (value : Node) : Option Entries :=
  match key.getLast? with
  | none => none
  | some name =>
      let path := key.dropLast
      edit true path (fun origin inner =>
        if (origin == .dotted) == path.isEmpty then none
        else if (inner.find? name).isSome then none
        else some (inner ++ [(name, value)])) .header entries

end Entries

end KernelStore.Toml
