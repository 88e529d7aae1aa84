import Mathlib
import KernelStore.Toml.Document

/-!
How large the whole numbers of a document can be. What a reading keeps is followed from one number
through values, statements and tables up to the document: every whole number in the tree that a
text describes has 64 bits and a sign.
-/

namespace KernelStore.Toml

/-- Whether all whole numbers below a node have 64 bits and a sign. -/
inductive Node.InRange : Node → Prop
  | text (value : String) : InRange (.text value)
  | integer {value : Int} (low : -largestInteger - 1 ≤ value) (high : value ≤ largestInteger) :
      InRange (.integer value)
  | fraction : InRange .fraction
  | boolean (value : Bool) : InRange (.boolean value)
  | moment : InRange .moment
  | array {items : List Node} (each : ∀ item ∈ items, InRange item) : InRange (.array items)
  | table (origin : Origin) {entries : List (String × Node)}
      (each : ∀ entry ∈ entries, InRange entry.2) : InRange (.table origin entries)
  | tables {elements : List (List (String × Node))}
      (each : ∀ element ∈ elements, ∀ entry ∈ element, InRange entry.2) :
      InRange (.tables elements)

def Entries.InRange (entries : Entries) : Prop := ∀ entry ∈ entries, entry.2.InRange

namespace Node

theorem inRange_table_iff {origin : Origin} {entries : Entries} :
    (table origin entries).InRange ↔ entries.InRange := by
  constructor
  · intro inRange
    cases inRange with
    | table _ each => exact each
  · exact InRange.table origin

theorem inRange_tables_iff {elements : List Entries} :
    (tables elements).InRange ↔ ∀ element ∈ elements, element.InRange := by
  constructor
  · intro inRange
    cases inRange with
    | tables each => exact each
  · exact InRange.tables

end Node

/-! ### Tables -/

namespace Entries

theorem inRange_nil : InRange [] := nofun

theorem inRange_cons {name : String} {node : Node} {rest : Entries} :
    InRange ((name, node) :: rest) ↔ node.InRange ∧ InRange rest := List.forall_mem_cons

theorem InRange.find? {entries : Entries} (inRange : entries.InRange) {key : String} {node : Node}
    (found : entries.find? key = some node) : node.InRange := by
  obtain ⟨before, after, parts, _⟩ := List.lookup_eq_some_iff.mp found
  apply inRange (key, node)
  rw [parts]
  exact List.mem_append_right _ List.mem_cons_self

theorem InRange.append {first second : Entries} (firstInRange : first.InRange)
    (secondInRange : second.InRange) : InRange (first ++ second) :=
  List.forall_mem_append.mpr ⟨firstInRange, secondInRange⟩

theorem InRange.put {entries : Entries} (inRange : entries.InRange) {key : String} {node : Node}
    (isNode : node.InRange) : (entries.put key node).InRange := by
  induction entries with
  | nil => exact inRange_cons.mpr ⟨isNode, inRange_nil⟩
  | cons entry rest ih =>
      obtain ⟨name, old⟩ := entry
      obtain ⟨isOld, isRest⟩ := inRange_cons.mp inRange
      unfold Entries.put
      split
      · exact inRange_cons.mpr ⟨isNode, isRest⟩
      · exact inRange_cons.mpr ⟨isOld, ih isRest⟩

theorem InRange.erase {entries : Entries} (inRange : entries.InRange) (key : String) :
    (entries.erase key).InRange := by
  intro entry isEntry
  exact inRange entry (List.mem_of_mem_filter isEntry)

/-- A change deep in a tree keeps the range if it keeps that of the table changed. -/
theorem InRange.edit {dottedKey : Bool} {path : List String}
    {change : Origin → Entries → Option Entries}
    (keeps : ∀ {origin inner result}, InRange inner → change origin inner = some result →
      InRange result) {origin : Origin} {entries result : Entries} (inRange : entries.InRange)
    (edited : Entries.edit dottedKey path change origin entries = some result) :
    result.InRange := by
  induction path generalizing origin entries result with
  | nil => exact keeps inRange edited
  | cons key path ih =>
      have inside {origin : Origin} {inner result : Entries} (isInner : inner.InRange)
          (edited : (do
            let inner ← Entries.edit dottedKey path change origin inner
            return entries.put key (.table origin inner)) = some result) : result.InRange := by
        obtain ⟨changed, isChanged, made⟩ := Option.bind_eq_some_iff.mp edited
        cases made
        exact inRange.put (.table _ (ih isInner isChanged))
      rw [Entries.edit] at edited
      split at edited
      · exact inside inRange_nil edited
      · cases edited
      · rename_i inner found
        split at edited
        · cases edited
        · exact inside (Node.inRange_table_iff.mp (inRange.find? found)) edited
      · rename_i found
        exact inside (Node.inRange_table_iff.mp (inRange.find? found)) edited
      · rename_i last earlier found
        obtain ⟨isLast, isEarlier⟩ :=
          List.forall_mem_cons.mp (Node.inRange_tables_iff.mp (inRange.find? found))
        obtain ⟨changed, isChanged, made⟩ := Option.bind_eq_some_iff.mp edited
        cases made
        exact inRange.put (Node.inRange_tables_iff.mpr
          (List.forall_mem_cons.mpr ⟨ih isLast isChanged, isEarlier⟩))
      · cases edited

theorem InRange.insert {entries result : Entries} (inRange : entries.InRange) {key : List String}
    {value : Node} (isValue : value.InRange) (inserted : entries.insert key value = some result) :
    result.InRange := by
  unfold Entries.insert at inserted
  split at inserted
  · cases inserted
  · rename_i name _
    refine inRange.edit ?_ inserted
    intro origin inner result isInner changed
    split_ifs at changed
    cases changed
    exact isInner.append (inRange_cons.mpr ⟨isValue, inRange_nil⟩)

end Entries

/-! ### Values -/

theorem ranged?_inRange {negative : Bool} {base : Nat} {digits : List Nat} {value : Int}
    (read : ranged? negative base digits = some value) : (Node.integer value).InRange := by
  unfold ranged? at read
  dsimp only at read
  obtain ⟨_, read⟩ := Option.ite_none_left_eq_some.mp read
  obtain ⟨⟨low, high⟩, made⟩ := Option.ite_none_right_eq_some.mp read
  cases made
  exact .integer low high

theorem integer?_inRange {source rest : Source} {value : Int}
    (read : integer? source = some (value, rest)) : (Node.integer value).InRange := by
  unfold integer? at read
  -- Whatever the base, the digits end in one test of the range.
  split at read
  all_goals
    obtain ⟨_, _, read⟩ := Option.bind_eq_some_iff.mp read
    obtain ⟨_, isValue, made⟩ := Option.bind_eq_some_iff.mp read
    cases made
    exact ranged?_inRange isValue

theorem scalar?_inRange {source rest : Source} {node : Node}
    (read : scalar? source = some (node, rest)) : node.InRange := by
  unfold scalar? at read
  split at read
  · obtain ⟨_, _, made⟩ := Option.map_eq_some_iff.mp read
    cases made
    exact .moment
  · split at read
    · cases read
      exact .fraction
    · cases read
      exact .fraction
    · obtain ⟨⟨value, after⟩, isValue, read⟩ := Option.bind_eq_some_iff.mp read
      dsimp only at read
      split at read
      · cases read
      · cases read
      · cases read
      · cases read
        exact integer?_inRange isValue

section

variable {value? : Nat → Source → Option (Node × Source)}
  (inRange : ∀ {fuel source node rest}, value? fuel source = some (node, rest) → node.InRange)

include inRange

theorem items?_inRange {fuel : Nat} {source rest : Source} {items : List Node}
    (read : items? value? fuel source = some (items, rest)) : ∀ item ∈ items, item.InRange := by
  induction fuel generalizing source rest items with
  | zero => cases read
  | succ fuel ih =>
      unfold items? at read
      split at read
      · cases read
        exact nofun
      · obtain ⟨⟨item, after⟩, isItem, read⟩ := Option.bind_eq_some_iff.mp read
        dsimp only at read
        split at read
        · obtain ⟨⟨more, end_⟩, isMore, made⟩ := Option.bind_eq_some_iff.mp read
          cases made
          exact List.forall_mem_cons.mpr ⟨inRange isItem, ih isMore⟩
        · cases read
          exact List.forall_mem_singleton.mpr (inRange isItem)
        · cases read

theorem inlineEntries?_inRange {fuel : Nat} {entries result : Entries} {source rest : Source}
    (before : entries.InRange)
    (read : inlineEntries? value? fuel entries source = some (result, rest)) :
    result.InRange := by
  induction fuel generalizing entries source with
  | zero => cases read
  | succ fuel ih =>
      unfold inlineEntries? at read
      obtain ⟨_, _, read⟩ := Option.bind_eq_some_iff.mp read
      obtain ⟨_, _, read⟩ := Option.bind_eq_some_iff.mp read
      obtain ⟨⟨value, after⟩, isValue, read⟩ := Option.bind_eq_some_iff.mp read
      obtain ⟨more, inserted, read⟩ := Option.bind_eq_some_iff.mp read
      have isMore := before.insert (inRange isValue) inserted
      split at read
      · exact ih isMore read
      · cases read
        exact isMore
      · cases read

end

theorem value?_inRange {depth fuel : Nat} {source rest : Source} {node : Node}
    (read : value? depth fuel source = some (node, rest)) : node.InRange := by
  induction depth using Nat.strongRecOn generalizing fuel source rest node with
  | ind depth ih =>
      unfold value? at read
      split at read
      · cases read
      · cases read
      · obtain ⟨⟨items, after⟩, isItems, made⟩ := Option.bind_eq_some_iff.mp read
        cases made
        exact .array (items?_inRange (ih _ (Nat.lt_succ_self _)) isItems)
      · split at read
        · cases read
          exact .table _ Entries.inRange_nil
        · obtain ⟨⟨entries, after⟩, isEntries, made⟩ := Option.bind_eq_some_iff.mp read
          cases made
          exact .table _ (inlineEntries?_inRange (ih _ (Nat.lt_succ_self _))
            Entries.inRange_nil isEntries)
      · cases read
        exact .boolean true
      · cases read
        exact .boolean false
      · obtain ⟨_, _, made⟩ := Option.map_eq_some_iff.mp read
        cases made
        exact .text _
      · obtain ⟨_, _, made⟩ := Option.map_eq_some_iff.mp read
        cases made
        exact .text _
      · exact scalar?_inRange read

/-! ### Documents -/

/-- Whether what a statement enters is in range. -/
def Statement.InRange : Statement → Prop
  | .entry _ value => value.InRange
  | _ => True

theorem statement?_inRange {fuel : Nat} {source rest : Source} {statement : Statement}
    (read : statement? fuel source = some (statement, rest)) : statement.InRange := by
  unfold statement? at read
  split at read
  · obtain ⟨_, _, read⟩ := Option.bind_eq_some_iff.mp read
    obtain ⟨_, _, read⟩ := Option.bind_eq_some_iff.mp read
    obtain ⟨_, _, read⟩ := Option.bind_eq_some_iff.mp read
    obtain ⟨_, _, made⟩ := Option.bind_eq_some_iff.mp read
    cases made
    exact trivial
  · obtain ⟨_, _, read⟩ := Option.bind_eq_some_iff.mp read
    obtain ⟨_, _, read⟩ := Option.bind_eq_some_iff.mp read
    obtain ⟨_, _, made⟩ := Option.bind_eq_some_iff.mp read
    cases made
    exact trivial
  · obtain ⟨_, _, read⟩ := Option.bind_eq_some_iff.mp read
    obtain ⟨_, _, read⟩ := Option.bind_eq_some_iff.mp read
    obtain ⟨_, isValue, read⟩ := Option.bind_eq_some_iff.mp read
    obtain ⟨_, _, made⟩ := Option.bind_eq_some_iff.mp read
    cases made
    exact value?_inRange isValue

namespace Draft

structure InRange (draft : Draft) : Prop where
  root : draft.root.InRange
  current : draft.current.entries.InRange

theorem InRange.close {draft : Draft} (inRange : draft.InRange) {entries : Entries}
    (closed : draft.close = some entries) : entries.InRange := by
  unfold Draft.close at closed
  dsimp only at closed
  split at closed
  · cases closed
    exact inRange.current
  · rename_i name _
    refine inRange.root.edit ?_ closed
    intro origin outer result isOuter changed
    split at changed
    · cases changed
      exact isOuter.put (Node.inRange_tables_iff.mpr
        (List.forall_mem_singleton.mpr inRange.current))
    · rename_i elements _ found
      cases changed
      exact isOuter.put (Node.inRange_tables_iff.mpr (List.forall_mem_cons.mpr
        ⟨inRange.current, Node.inRange_tables_iff.mp (isOuter.find? found)⟩))
    · cases changed
      exact isOuter.put (.table _ inRange.current)
    · cases changed

theorem reopened?_inRange {outer entries : Entries} (inRange : outer.InRange) {name : String}
    (opened : reopened? outer name = some entries) : entries.InRange := by
  unfold reopened? at opened
  split at opened
  · cases opened
    exact Entries.inRange_nil
  · rename_i found
    cases opened
    exact Node.inRange_table_iff.mp (inRange.find? found)
  · cases opened

theorem entriesAt?_inRange {path : List String} {entries result : Entries}
    (inRange : entries.InRange) (found : entriesAt? path entries = some result) :
    result.InRange := by
  induction path generalizing entries with
  | nil =>
      cases found
      exact inRange
  | cons key path ih =>
      unfold entriesAt? at found
      split at found
      · cases found
        exact Entries.inRange_nil
      · cases found
      · rename_i under
        exact ih (Node.inRange_table_iff.mp (inRange.find? under)) found
      · rename_i under
        have elements := Node.inRange_tables_iff.mp (inRange.find? under)
        exact ih (List.forall_mem_cons.mp elements).1 found
      · cases found

theorem openTable_inRange {root : Entries} (inRange : root.InRange) {path : List String}
    {draft : Draft} (opened : openTable root path = some draft) : draft.InRange := by
  unfold openTable at opened
  split at opened
  · cases opened
  · obtain ⟨outer, isOuter, opened⟩ := Option.bind_eq_some_iff.mp opened
    obtain ⟨entries, isOpen, opened⟩ := Option.bind_eq_some_iff.mp opened
    obtain ⟨rest, isRest, made⟩ := Option.bind_eq_some_iff.mp opened
    cases made
    refine ⟨inRange.edit ?_ isRest, reopened?_inRange (entriesAt?_inRange inRange isOuter) isOpen⟩
    intro _ inner result isInner changed
    cases changed
    exact isInner.erase _

theorem openElement_inRange {root : Entries} (inRange : root.InRange) {path : List String}
    {draft : Draft} (opened : openElement root path = some draft) : draft.InRange := by
  unfold openElement at opened
  split at opened
  · cases opened
  · obtain ⟨outer, isOuter, opened⟩ := Option.bind_eq_some_iff.mp opened
    split at opened
    · cases opened
      exact ⟨inRange, Entries.inRange_nil⟩
    · cases opened
      exact ⟨inRange, Entries.inRange_nil⟩
    · cases opened

theorem InRange.add {draft result : Draft} (inRange : draft.InRange) {statement : Statement}
    (isStatement : statement.InRange) (added : draft.add statement = some result) :
    result.InRange := by
  cases statement with
  | table path =>
      obtain ⟨root, closed, opened⟩ := Option.bind_eq_some_iff.mp added
      exact openTable_inRange (inRange.close closed) opened
  | element path =>
      obtain ⟨root, closed, opened⟩ := Option.bind_eq_some_iff.mp added
      exact openElement_inRange (inRange.close closed) opened
  | entry key value =>
      obtain ⟨entries, inserted, made⟩ := Option.bind_eq_some_iff.mp added
      cases made
      exact ⟨inRange.root, inRange.current.insert isStatement inserted⟩

end Draft

theorem statements?_inRange {fuel : Nat} {draft result : Draft} (inRange : draft.InRange)
    {source : Source} (read : statements? fuel draft source = some result) : result.InRange := by
  induction fuel generalizing draft source with
  | zero => cases read
  | succ fuel ih =>
      unfold statements? at read
      split at read
      · cases read
        exact inRange
      · obtain ⟨_, _, read⟩ := Option.bind_eq_some_iff.mp read
        exact ih inRange read
      · exact ih inRange read
      · obtain ⟨_, _, read⟩ := Option.bind_eq_some_iff.mp read
        exact ih inRange read
      · obtain ⟨⟨statement, rest⟩, isStatement, read⟩ := Option.bind_eq_some_iff.mp read
        obtain ⟨next, added, read⟩ := Option.bind_eq_some_iff.mp read
        exact ih (inRange.add (statement?_inRange isStatement) added) read

theorem document?_inRange {text : String} {entries : Entries}
    (read : document? text = some entries) : entries.InRange := by
  obtain ⟨draft, isDraft, closed⟩ := Option.bind_eq_some_iff.mp read
  have empty : Draft.InRange {} := ⟨Entries.inRange_nil, Entries.inRange_nil⟩
  exact (statements?_inRange empty isDraft).close closed

end KernelStore.Toml
