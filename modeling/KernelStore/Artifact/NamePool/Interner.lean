import KernelStore.Artifact.NamePool

/-!
Building a name pool over an interner: a table that has a word as the key of each text, and finds
the text again by its key. How it does so is left open. What has been interned is laid out in the
order of the keys, in one pass.
-/

namespace KernelStore

structure Interner (State : Type) where
  empty : State
  count : State → Nat
  /-- The key of a text, which is put in unless it is there. Nothing if no key is left for it. -/
  key? : State → String → Option (UInt32 × State)
  text? : State → UInt32 → Option String

namespace Interner

variable {State : Type} (interner : Interner State)

/-- The key with an index, if a word can hold it. -/
def keyAt? (index : Nat) : Option UInt32 :=
  if index < UInt32.size then some (UInt32.ofNat index) else none

/-- The keys of texts that are interned one after another, and the state that they lead to. -/
def keys? : List String → State → Option (List UInt32 × State)
  | [], state => some ([], state)
  | text :: rest, state =>
      match interner.key? state text with
      | none => none
      | some (key, state) => (keys? rest state).map fun (keys, state) => (key :: keys, state)

def texts (state : State) : List String :=
  (List.range (interner.count state)).filterMap fun index =>
    (keyAt? index).bind (interner.text? state)

/-- Adds an entry for a text, which begins where the data has ended so far. -/
def append (layout : List (Nat × Nat) × Bytes) (text : String) : List (Nat × Nat) × Bytes :=
  (layout.1 ++ [(layout.2.length, text.utf8ByteSize)], layout.2 ++ Utf8.encode text ++ [0])

/-- The entries of all texts, and their data. -/
def layout (state : State) : List (Nat × Nat) × Bytes :=
  (interner.texts state).foldl append ([], [])

/-- What is relied on: the indices below the count are the keys, a text that is there keeps its key,
and another one gets the next key, if there is one, and leaves the others as they are. -/
structure Lawful : Prop where
  count_empty : interner.count interner.empty = 0
  text?_eq_none_iff : ∀ state key,
    interner.text? state key = none ↔ interner.count state ≤ key.toNat
  key?_present : ∀ state key text, interner.text? state key = some text →
    interner.key? state text = some (key, state)
  key?_absent : ∀ state text, (∀ key, interner.text? state key ≠ some text) →
    match keyAt? (interner.count state) with
    | none => interner.key? state text = none
    | some key => ∃ after, interner.key? state text = some (key, after) ∧
        interner.count after = interner.count state + 1 ∧
        interner.text? after key = some text ∧
        ∀ earlier, earlier.toNat < interner.count state →
          interner.text? after earlier = interner.text? state earlier

end Interner

/-- A pool as an interner. -/
def NamePool.interner : Interner NamePool where
  empty := .ofNames []
  count pool := pool.names.length
  key? pool text := (Interner.keyAt? (pool.intern text).1).map (·, (pool.intern text).2)
  text? pool key := pool.names[key.toNat]?

end KernelStore
