import KernelStore.Toml.Value

/-!
Whole documents. Statements are read in order: a header opens a table, and key-value pairs go into
the open table, which joins the tree when the next header or the end closes it.
-/

namespace KernelStore.Toml

inductive Statement
  | table (path : List String)
  | element (path : List String)
  | entry (key : List String) (value : Node)

/-- One statement and the end of its line. -/
def statement? (fuel : Nat) (source : Source) : Option (Statement × Source) :=
  match source with
  | '[' :: '[' :: rest => do
      let (path, rest) ← key? fuel rest
      let rest ← expect? ']' rest
      let rest ← expect? ']' rest
      return (.element path, ← lineEnd? rest)
  | '[' :: rest => do
      let (path, rest) ← key? fuel rest
      let rest ← expect? ']' rest
      return (.table path, ← lineEnd? rest)
  | _ => do
      let (key, rest) ← key? fuel source
      let rest ← expect? '=' rest
      let (value, rest) ← value? (depthLimit - 1) fuel (skipBlanks rest)
      return (.entry key value, ← lineEnd? rest)

structure OpenTable where
  path : List String := []
  /-- Whether it is one more of several tables under its key. -/
  isElement : Bool := false
  entries : Entries := []

/-- The closed part of a document, and its open table. -/
structure Draft where
  root : Entries := []
  current : OpenTable := {}

namespace Draft

/-- Joins the open table to the rest. -/
def close (draft : Draft) : Option Entries :=
  let table := draft.current
  match table.path.getLast? with
  | none => some table.entries
  | some name =>
      Entries.edit false table.path.dropLast (fun _ outer =>
        match table.isElement, outer.find? name with
        | true, none => some (outer.put name (.tables [table.entries]))
        | true, some (.tables elements) =>
            some (outer.put name (.tables (table.entries :: elements)))
        | false, none => some (outer.put name (.table .header table.entries))
        | _, _ => none) .header draft.root

/-- The entries under a key that a header names: those of a table that was only passed through,
none if the key is free. -/
def reopened? (outer : Entries) (name : String) : Option Entries :=
  match outer.find? name with
  | none => some []
  | some (.table .passed entries) => some entries
  | some _ => none

/-- The entries of the table at the end of a path, passing through tables as headers do. -/
def entriesAt? : List String → Entries → Option Entries
  | [], entries => some entries
  | key :: path, entries =>
      match entries.find? key with
      | none => some []
      | some (.table .inline _) => none
      | some (.table _ inner) => entriesAt? path inner
      | some (.tables (last :: _)) => entriesAt? path last
      | some _ => none

/-- Opens the table that a header names, taking it out of the tree if it was passed through. -/
def openTable (root : Entries) (path : List String) : Option Draft :=
  match path.getLast? with
  | none => none
  | some name => do
      let outer ← entriesAt? path.dropLast root
      let entries ← reopened? outer name
      let root ← Entries.edit false path.dropLast (fun _ outer => some (outer.erase name))
        .header root
      return { root, current := { path, entries } }

/-- Opens one more table under a key that has only such tables. -/
def openElement (root : Entries) (path : List String) : Option Draft :=
  match path.getLast? with
  | none => none
  | some name => do
      let outer ← entriesAt? path.dropLast root
      match outer.find? name with
      | none => return { root, current := { path, isElement := true } }
      | some (.tables _) => return { root, current := { path, isElement := true } }
      | some _ => none

def add (draft : Draft) : Statement → Option Draft
  | .table path => do openTable (← draft.close) path
  | .element path => do openElement (← draft.close) path
  | .entry key value => do
      let entries ← draft.current.entries.insert key value
      return { draft with current := { draft.current with entries } }

end Draft

def statements? : (fuel : Nat) → Draft → Source → Option Draft
  | 0, _, _ => none
  | fuel + 1, draft, source =>
      match skipBlanks source with
      | [] => some draft
      | '#' :: rest => do statements? fuel draft (← lineEnd? ('#' :: rest))
      | '\n' :: rest => statements? fuel draft rest
      | '\r' :: rest => do statements? fuel draft (← newline? ('\r' :: rest))
      | source => do
          let (statement, rest) ← statement? (fuel + 1) source
          statements? fuel (← draft.add statement) rest

/-- The entries of the table that a document describes. A byte order mark in front is passed
over. -/
def document? (text : String) : Option Entries := do
  let source := match text.toList with
    | '\uFEFF' :: rest => rest
    | source => source
  let draft ← statements? (source.length + 1) {} source
  draft.close

end KernelStore.Toml
