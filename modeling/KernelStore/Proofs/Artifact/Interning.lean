import KernelStore.Artifact.NamePool.Interner
import KernelStore.Proofs.Artifact.Names

/-!
Interning builds the same pool as putting the names in one after another, whatever the interner.
Main statement: names that are different have different keys and keep them, and the pool that is
laid out is read back, with each name at its key, from data that the names fill without a gap.
-/

namespace KernelStore

namespace NamePool

/-! ### Indices -/

theorem insert_of_mem {pool : NamePool} {name : String} (present : name ∈ pool.names) :
    pool.insert name = pool := dif_pos present

theorem length_insert_of_notMem {pool : NamePool} {name : String} (absent : name ∉ pool.names) :
    (pool.insert name).names.length = pool.names.length + 1 := by
  rw [names_insert_of_notMem absent, List.length_append, List.length_singleton]

theorem indexOf_insert_of_mem {pool : NamePool} {name : String} (member : name ∈ pool.names)
    (added : String) : (pool.insert added).indexOf name = pool.indexOf name := by
  by_cases present : added ∈ pool.names
  · rw [insert_of_mem present]
  · rw [indexOf, names_insert_of_notMem present, List.idxOf_append_of_mem member, indexOf]

theorem indexOf_insert_of_notMem {pool : NamePool} {name : String} (absent : name ∉ pool.names) :
    (pool.insert name).indexOf name = pool.names.length := by
  rw [indexOf, names_insert_of_notMem absent, List.idxOf_append_of_notMem absent,
    List.idxOf_cons_self, Nat.add_zero]

/-- Names that are put in later do not change the index of one that is there. -/
theorem indexOf_foldl_insert {pool : NamePool} {name : String} (member : name ∈ pool.names)
    (names : List String) : (names.foldl insert pool).indexOf name = pool.indexOf name := by
  induction names generalizing pool with
  | nil => rfl
  | cons added rest ih =>
      rw [List.foldl_cons, ih (mem_insert_of_mem added member), indexOf_insert_of_mem member]

theorem length_le_foldl_insert (pool : NamePool) (names : List String) :
    pool.names.length ≤ (names.foldl insert pool).names.length := by
  induction names generalizing pool with
  | nil => exact Nat.le_refl _
  | cons added rest ih =>
      refine Nat.le_trans ?_ (ih (pool.insert added))
      by_cases present : added ∈ pool.names
      · rw [insert_of_mem present]
      · rw [length_insert_of_notMem present]
        exact Nat.le_succ _

/-- The index of a name on its first use is the number of different names before. -/
theorem indexOf_ofNames_first {front behind : List String} {name : String}
    (first : name ∉ front) :
    (ofNames (front ++ name :: behind)).indexOf name = front.toFinset.card := by
  have absent : name ∉ (ofNames front).names := first ∘ mem_ofNames_iff.mp
  rw [ofNames, List.foldl_append, List.foldl_cons, indexOf_foldl_insert (mem_insert _ name)]
  change ((ofNames front).insert name).indexOf name = front.toFinset.card
  rw [indexOf_insert_of_notMem absent, length_ofNames]

/-! ### Ranges -/

/-- The places of an entry's name in the data, and of the zero byte behind it. -/
def range (entry : Nat × Nat) : Set Nat := Set.Icc entry.1 (entry.1 + entry.2)

/-- The ranges of entries are apart, end in a zero byte and are together all of the data. -/
structure Divides (entries : List (Nat × Nat)) (data : Bytes) : Prop where
  apart : entries.Pairwise fun first second => Disjoint (range first) (range second)
  terminated : ∀ entry ∈ entries, data[entry.1 + entry.2]? = some 0
  covers : ∀ position, position < data.length ↔ ∃ entry ∈ entries, position ∈ range entry

theorem length_dataOf_cons (name : String) (rest : List String) :
    (dataOf (name :: rest)).length = name.utf8ByteSize + 1 + (dataOf rest).length := by
  simp only [dataOf, List.flatMap_cons, List.length_append, Utf8.length_encode, List.length_cons,
    List.length_nil]

theorem le_of_mem_entriesFrom {names : List String} {offset : Nat} {entry : Nat × Nat}
    (member : entry ∈ entriesFrom offset names) : offset ≤ entry.1 := by
  induction names generalizing offset with
  | nil => cases member
  | cons name rest ih =>
      rcases List.mem_cons.mp member with rfl | later
      · exact Nat.le_refl _
      · have behind := ih later
        omega

theorem pairwise_entriesFrom (names : List String) (offset : Nat) :
    (entriesFrom offset names).Pairwise fun first second =>
      Disjoint (range first) (range second) := by
  induction names generalizing offset with
  | nil => exact List.Pairwise.nil
  | cons name rest ih =>
      refine List.Pairwise.cons ?_ (ih _)
      intro entry member
      have behind := le_of_mem_entriesFrom member
      apply Set.disjoint_left.mpr
      intro position within elsewhere
      have below := within.2
      have above := elsewhere.1
      dsimp only at below
      omega

theorem mem_entriesFrom_terminated (names : List String) (front : Bytes) :
    ∀ entry ∈ entriesFrom front.length names,
      (front ++ dataOf names)[entry.1 + entry.2]? = some 0 := by
  induction names generalizing front with
  | nil => exact nofun
  | cons name rest ih =>
      have split : front ++ dataOf (name :: rest) =
          (front ++ Utf8.encode name ++ [0]) ++ dataOf rest := by
        simp [dataOf]
      have size : front.length + name.utf8ByteSize + 1 =
          (front ++ Utf8.encode name ++ [0]).length := by
        simp [Utf8.length_encode]
        omega
      refine List.forall_mem_cons.mpr ⟨?_, ?_⟩
      · have length : (front ++ Utf8.encode name).length = front.length + name.utf8ByteSize := by
          rw [List.length_append, Utf8.length_encode]
        rw [split, List.append_assoc _ [0], ← length, List.getElem?_append_right (Nat.le_refl _),
          Nat.sub_self]
        rfl
      · rw [size, split]
        exact ih _

theorem mem_range_entriesFrom_iff (names : List String) (offset position : Nat) :
    (∃ entry ∈ entriesFrom offset names, position ∈ range entry) ↔
      offset ≤ position ∧ position < offset + (dataOf names).length := by
  induction names generalizing offset with
  | nil =>
      simp only [entriesFrom, List.not_mem_nil, false_and, exists_false, dataOf, List.flatMap_nil,
        List.length_nil, Nat.add_zero, false_iff, not_and]
      omega
  | cons name rest ih =>
      rw [entriesFrom, List.exists_mem_cons_iff, ih, length_dataOf_cons, range, Set.mem_Icc]
      omega

theorem divides (pool : NamePool) : Divides pool.entries pool.data where
  apart := pairwise_entriesFrom pool.names 0
  terminated := mem_entriesFrom_terminated pool.names []
  covers := by
    intro position
    refine Iff.trans ?_ (mem_range_entriesFrom_iff pool.names 0 position).symm
    rw [Nat.zero_add]
    exact ⟨fun inside => ⟨Nat.zero_le _, inside⟩, And.right⟩

end NamePool

namespace Interner

theorem exists_toNat_eq {index : Nat} (fits : index < 2 ^ 32) :
    ∃ key : UInt32, key.toNat = index :=
  ⟨UInt32.ofNat index, by rw [UInt32.toNat_ofNat', Nat.mod_eq_of_lt fits]⟩

theorem keyAt?_eq_some_iff {index : Nat} {key : UInt32} :
    keyAt? index = some key ↔ key.toNat = index := by
  have small := key.toNat_lt
  unfold keyAt?
  split
  · rename_i fits
    rw [Option.some.injEq, ← UInt32.toNat_inj, UInt32.toNat_ofNat', Nat.mod_eq_of_lt fits, eq_comm]
  · rename_i large
    change ¬ index < 2 ^ 32 at large
    constructor
    · exact nofun
    · intro same
      omega

theorem keyAt?_eq_none_iff {index : Nat} : keyAt? index = none ↔ 2 ^ 32 ≤ index := by
  unfold keyAt?
  split
  · rename_i fits
    exact ⟨nofun, fun large => absurd fits (Nat.not_lt.mpr large)⟩
  · rename_i large
    exact ⟨fun _ => Nat.not_lt.mp large, fun _ => rfl⟩

/-- A state holds the names of a pool, each by its index. -/
structure Holds {State : Type} (interner : Interner State) (state : State) (pool : NamePool) :
    Prop where
  count : interner.count state = pool.names.length
  text? : ∀ key, interner.text? state key = pool.names[key.toNat]?
  small : pool.names.length ≤ 2 ^ 32

variable {State : Type} {interner : Interner State}

theorem Lawful.holds_empty (lawful : interner.Lawful) : interner.Holds interner.empty {} where
  count := lawful.count_empty
  text? := by
    intro key
    apply (lawful.text?_eq_none_iff _ _).mpr
    rw [lawful.count_empty]
    exact Nat.zero_le _
  small := Nat.zero_le _

namespace Holds

variable {state : State} {pool : NamePool}

/-! ### One text -/

theorem key?_of_mem (holds : interner.Holds state pool) (lawful : interner.Lawful) {text : String}
    (member : text ∈ pool.names) :
    ∃ key, key.toNat = pool.indexOf text ∧ interner.key? state text = some (key, state) := by
  have below := NamePool.indexOf_lt member
  have small := holds.small
  obtain ⟨key, index⟩ := exists_toNat_eq (Nat.lt_of_lt_of_le below small)
  refine ⟨key, index, lawful.key?_present state key text ?_⟩
  rw [holds.text?, index]
  exact NamePool.getElem?_indexOf member

/-- Another text than those that are there is put in behind them, just if there is a key for it. -/
theorem key?_of_notMem (holds : interner.Holds state pool) (lawful : interner.Lawful)
    {text : String} (absent : text ∉ pool.names) :
    (2 ^ 32 ≤ pool.names.length ∧ interner.key? state text = none) ∨
      ∃ key after, key.toNat = (pool.insert text).indexOf text ∧
        interner.key? state text = some (key, after) ∧
        interner.Holds after (pool.insert text) := by
  have nowhere (key : UInt32) : interner.text? state key ≠ some text := by
    rw [holds.text?]
    intro found
    exact absent (List.mem_of_getElem? found)
  have interned := lawful.key?_absent state text nowhere
  cases next : keyAt? (interner.count state) with
  | none =>
      rw [next] at interned
      rw [keyAt?_eq_none_iff, holds.count] at next
      exact Or.inl ⟨next, interned⟩
  | some key =>
      rw [next] at interned
      obtain ⟨after, made, count, found, earlier⟩ := interned
      rw [keyAt?_eq_some_iff, holds.count] at next
      have names := NamePool.names_insert_of_notMem absent
      have length := NamePool.length_insert_of_notMem absent
      refine Or.inr ⟨key, after, ?_, made, ?_, ?_, ?_⟩
      · rw [next, NamePool.indexOf_insert_of_notMem absent]
      · rw [count, holds.count, length]
      · intro other
        rcases Nat.lt_trichotomy other.toNat pool.names.length with before | same | behind
        · rw [earlier other (holds.count ▸ before), holds.text?, names,
            List.getElem?_append_left before]
        · obtain rfl : other = key := UInt32.toNat_inj.mp (same.trans next.symm)
          rw [found, names, same, List.getElem?_concat_length]
        · rw [(lawful.text?_eq_none_iff _ _).mpr (by rw [count, holds.count]; exact behind),
            List.getElem?_eq_none (by rw [length]; exact behind)]
      · have small := key.toNat_lt
        rw [length, ← next]
        exact small

/-- Interning a text puts it into the pool, and yields its index there. -/
theorem key?_eq_some (holds : interner.Holds state pool) (lawful : interner.Lawful)
    {text : String} {key : UInt32} {after : State}
    (interned : interner.key? state text = some (key, after)) :
    interner.Holds after (pool.insert text) ∧ key.toNat = (pool.insert text).indexOf text := by
  by_cases present : text ∈ pool.names
  · obtain ⟨found, index, same⟩ := holds.key?_of_mem lawful present
    rw [interned] at same
    cases same
    rw [NamePool.insert_of_mem present]
    exact ⟨holds, index⟩
  · rcases holds.key?_of_notMem lawful present with ⟨_, failed⟩ | ⟨found, next, index, made, later⟩
    · rw [interned] at failed
      cases failed
    · rw [interned] at made
      cases made
      exact ⟨later, index⟩

/-! ### One text after another -/

theorem keys?_eq_some (holds : interner.Holds state pool) (lawful : interner.Lawful)
    {texts : List String} {keys : List UInt32} {after : State}
    (interned : interner.keys? texts state = some (keys, after)) :
    interner.Holds after (texts.foldl NamePool.insert pool) ∧
      keys = texts.map fun text =>
        UInt32.ofNat ((texts.foldl NamePool.insert pool).indexOf text) := by
  induction texts generalizing state pool keys with
  | nil =>
      cases interned
      exact ⟨holds, rfl⟩
  | cons text rest ih =>
      unfold keys? at interned
      cases first : interner.key? state text with
      | none =>
          rw [first] at interned
          cases interned
      | some made =>
          obtain ⟨key, middle⟩ := made
          rw [first] at interned
          obtain ⟨⟨others, last⟩, later, made⟩ := Option.map_eq_some_iff.mp interned
          cases made
          obtain ⟨holds, index⟩ := holds.key?_eq_some lawful first
          obtain ⟨reached, indices⟩ := ih holds later
          refine ⟨reached, ?_⟩
          rw [List.map_cons, List.foldl_cons, ← indices,
            NamePool.indexOf_foldl_insert (NamePool.mem_insert pool text), ← index,
            UInt32.ofNat_toNat]

/-- Texts are interned just if there are keys for all of them. -/
theorem isSome_keys?_iff (holds : interner.Holds state pool) (lawful : interner.Lawful)
    (texts : List String) :
    (interner.keys? texts state).isSome ↔
      (texts.foldl NamePool.insert pool).names.length ≤ 2 ^ 32 := by
  constructor
  · intro interned
    obtain ⟨⟨keys, after⟩, made⟩ := Option.isSome_iff_exists.mp interned
    exact (holds.keys?_eq_some lawful made).1.small
  · intro room
    induction texts generalizing state pool with
    | nil => rfl
    | cons text rest ih =>
        have upTo := NamePool.length_le_foldl_insert (pool.insert text) rest
        have found : ∃ key after, interner.key? state text = some (key, after) := by
          by_cases present : text ∈ pool.names
          · obtain ⟨key, _, made⟩ := holds.key?_of_mem lawful present
            exact ⟨key, state, made⟩
          · rcases holds.key?_of_notMem lawful present with ⟨full, _⟩ | ⟨key, after, _, made, _⟩
            · have length := NamePool.length_insert_of_notMem present
              rw [List.foldl_cons] at room
              omega
            · exact ⟨key, after, made⟩
        obtain ⟨key, after, made⟩ := found
        unfold keys?
        rw [made]
        dsimp only
        rw [Option.isSome_map]
        exact ih (holds.key?_eq_some lawful made).1 room

/-! ### Layout -/

theorem texts_eq (holds : interner.Holds state pool) : interner.texts state = pool.names := by
  have each : ∀ index ∈ List.range pool.names.length,
      (keyAt? index).bind (interner.text? state) = pool.names[index]? := by
    intro index member
    have below := List.mem_range.mp member
    have small := holds.small
    have fits : index < 2 ^ 32 := by omega
    have key : keyAt? index = some (UInt32.ofNat index) := if_pos fits
    rw [key, Option.bind_some, holds.text?, UInt32.toNat_ofNat', Nat.mod_eq_of_lt fits]
  rw [texts, holds.count, List.filterMap_congr each]
  have all : (List.range pool.names.length).map (fun index => pool.names[index]?) =
      pool.names.map some := by
    apply List.ext_getElem
    · simp
    · intro index below _
      simp
  calc (List.range pool.names.length).filterMap (fun index => pool.names[index]?)
      = ((List.range pool.names.length).map fun index => pool.names[index]?).filterMap id := by
        rw [List.filterMap_map]
        rfl
    _ = (pool.names.map some).filterMap id := by rw [all]
    _ = pool.names := by
        rw [List.filterMap_map]
        exact List.filterMap_some

/-- The pass over the texts adds to both what is there already. Each entry begins where the data
has ended. -/
theorem foldl_append (names : List String) (entries : List (Nat × Nat)) (data : Bytes) :
    names.foldl append (entries, data) =
      (entries ++ NamePool.entriesFrom data.length names, data ++ NamePool.dataOf names) := by
  induction names generalizing entries data with
  | nil => rw [NamePool.entriesFrom, NamePool.dataOf, List.flatMap_nil, List.append_nil,
      List.append_nil, List.foldl_nil]
  | cons name rest ih =>
      have length : (data ++ Utf8.encode name ++ [0]).length =
          data.length + name.utf8ByteSize + 1 := by
        rw [List.length_append, List.length_append, Utf8.length_encode, List.length_singleton]
      rw [List.foldl_cons, append, ih, length]
      simp only [NamePool.entriesFrom, NamePool.dataOf, List.flatMap_cons, List.append_assoc,
        List.singleton_append]

theorem layout_eq (holds : interner.Holds state pool) :
    interner.layout state = (pool.entries, pool.data) := by
  rw [layout, holds.texts_eq, foldl_append, List.nil_append, List.nil_append]
  rfl

end Holds

/-! ### Keys -/

/-- What keys of texts have to satisfy: just the same texts have the same key, a new text gets the
number of those before it, and a text keeps its key. -/
structure Keeps (interner : Interner State) (texts : List String) (keys : List UInt32)
    (state : State) : Prop where
  length : keys.length = texts.length
  count : interner.count state = texts.toFinset.card
  same_iff : ∀ call ∈ texts.zip keys, ∀ other ∈ texts.zip keys,
    call.2 = other.2 ↔ call.1 = other.1
  first : ∀ front text behind, texts = front ++ text :: behind → text ∉ front →
    keys[front.length]?.map UInt32.toNat = some front.toFinset.card
  kept : ∀ call ∈ texts.zip keys, interner.key? state call.1 = some (call.2, state)

/-- Each text has the key with its index in the pool of all of them. -/
theorem Lawful.call_of_keys? (lawful : interner.Lawful) {texts : List String}
    {keys : List UInt32} {state : State}
    (interned : interner.keys? texts interner.empty = some (keys, state)) :
    ∀ call ∈ texts.zip keys, call.1 ∈ (NamePool.ofNames texts).names ∧
      call.2.toNat = (NamePool.ofNames texts).indexOf call.1 := by
  obtain ⟨holds, rfl⟩ := lawful.holds_empty.keys?_eq_some lawful interned
  change interner.Holds state (NamePool.ofNames texts) at holds
  intro call member
  rw [← List.map_prod_left_eq_zip] at member
  obtain ⟨text, listed, rfl⟩ := List.mem_map.mp member
  have present := NamePool.mem_ofNames listed
  have below := NamePool.indexOf_lt present
  have small := holds.small
  refine ⟨present, ?_⟩
  change (UInt32.ofNat ((NamePool.ofNames texts).indexOf text)).toNat =
    (NamePool.ofNames texts).indexOf text
  rw [UInt32.toNat_ofNat']
  omega

theorem Lawful.keeps (lawful : interner.Lawful) {texts : List String} {keys : List UInt32}
    {state : State} (interned : interner.keys? texts interner.empty = some (keys, state)) :
    interner.Keeps texts keys state := by
  have calls := lawful.call_of_keys? interned
  obtain ⟨holds, made⟩ := lawful.holds_empty.keys?_eq_some lawful interned
  change interner.Holds state (NamePool.ofNames texts) at holds
  have length : keys.length = texts.length := by rw [made, List.length_map]
  refine ⟨length, ?_, ?_, ?_, ?_⟩
  · rw [holds.count, NamePool.length_ofNames]
  · intro call member other listed
    obtain ⟨present, index⟩ := calls call member
    obtain ⟨_, position⟩ := calls other listed
    rw [← UInt32.toNat_inj, index, position]
    exact List.idxOf_inj present
  · intro front text behind split new
    have place : texts[front.length]? = some text := by
      rw [split, List.getElem?_append_right (Nat.le_refl _), Nat.sub_self]
      rfl
    have within : front.length < keys.length := by
      rw [length]
      exact (List.getElem?_eq_some_iff.mp place).1
    have listed : (text, keys[front.length]) ∈ texts.zip keys := by
      apply List.mem_of_getElem? (i := front.length)
      rw [List.getElem?_zip_eq_some]
      exact ⟨place, List.getElem?_eq_getElem within⟩
    rw [List.getElem?_eq_getElem within, Option.map_some, (calls _ listed).2, split,
      NamePool.indexOf_ofNames_first new]
  · intro call member
    obtain ⟨present, index⟩ := calls call member
    obtain ⟨key, same, again⟩ := holds.key?_of_mem lawful present
    obtain rfl : key = call.2 := UInt32.toNat_inj.mp (same.trans index.symm)
    exact again

/-- Any texts can be interned that are not more than there are keys. Just the same texts have the
same key then, the next one each that is new, and no later text changes it. Laid out, the texts fill
the data without a gap, each with a zero byte behind it. If the entries fit in words, reading them
back succeeds, and yields each text at its key and nothing beyond them. -/
theorem pool_keeps_names (lawful : interner.Lawful) (texts : List String) :
    ((interner.keys? texts interner.empty).isSome ↔ texts.toFinset.card ≤ 2 ^ 32) ∧
      ∀ keys state, interner.keys? texts interner.empty = some (keys, state) →
        interner.Keeps texts keys state ∧
        NamePool.Divides (interner.layout state).1 (interner.layout state).2 ∧
        ((∀ entry ∈ (interner.layout state).1, entry.1 < 2 ^ 32 ∧ entry.2 < 2 ^ 32) →
          ∃ names, NamePool.decode ((interner.layout state).1.map NamePool.entryWords)
              (interner.layout state).2 = .ok names ∧
            (∀ call ∈ texts.zip keys, names[call.2.toNat]? = some call.1) ∧
            ∀ index, interner.count state ≤ index → names[index]? = none) := by
  refine ⟨?_, ?_⟩
  · rw [lawful.holds_empty.isSome_keys?_iff lawful, ← NamePool.length_ofNames]
    rfl
  · intro keys state interned
    have calls := lawful.call_of_keys? interned
    obtain ⟨holds, _⟩ := lawful.holds_empty.keys?_eq_some lawful interned
    change interner.Holds state (NamePool.ofNames texts) at holds
    rw [holds.layout_eq]
    refine ⟨lawful.keeps interned, (NamePool.ofNames texts).divides, ?_⟩
    intro fits
    refine ⟨_, (NamePool.ofNames texts).decode_entries fits, ?_, ?_⟩
    · intro call member
      obtain ⟨present, index⟩ := calls call member
      rw [index]
      exact NamePool.getElem?_indexOf present
    · intro index beyond
      rw [holds.count] at beyond
      exact List.getElem?_eq_none beyond

end Interner

/-! ### Pools -/

namespace NamePool

theorem key?_interner_eq (pool : NamePool) (text : String) :
    interner.key? pool text = (Interner.keyAt? ((pool.insert text).indexOf text)).map
      (·, pool.insert text) := rfl

theorem interner_lawful : interner.Lawful where
  count_empty := rfl
  text?_eq_none_iff := fun _ _ => List.getElem?_eq_none_iff
  key?_present := by
    intro pool key text found
    change pool.names[key.toNat]? = some text at found
    have present := List.mem_of_getElem? found
    have index : key.toNat = pool.indexOf text := by
      obtain ⟨below, _⟩ := List.getElem?_eq_some_iff.mp found
      exact (List.getElem?_inj below pool.distinct).mp
        (found.trans (getElem?_indexOf present).symm)
    rw [key?_interner_eq, insert_of_mem present, Interner.keyAt?_eq_some_iff.mpr index]
    rfl
  key?_absent := by
    intro pool text nowhere
    change ∀ key : UInt32, pool.names[key.toNat]? ≠ some text at nowhere
    rw [key?_interner_eq, show interner.count pool = pool.names.length from rfl]
    -- A text whose index is no key does not count as being there.
    have far (present : text ∈ pool.names) : 2 ^ 32 ≤ pool.indexOf text := by
      by_contra below
      obtain ⟨key, index⟩ := Interner.exists_toNat_eq (Nat.not_le.mp below)
      exact nowhere key (index ▸ getElem?_indexOf present)
    cases next : Interner.keyAt? pool.names.length with
    | none =>
        have full := Interner.keyAt?_eq_none_iff.mp next
        have none : Interner.keyAt? ((pool.insert text).indexOf text) = none := by
          apply Interner.keyAt?_eq_none_iff.mpr
          by_cases present : text ∈ pool.names
          · rw [indexOf_insert_of_mem present]
            exact far present
          · rw [indexOf_insert_of_notMem present]
            exact full
        dsimp only
        rw [none]
        rfl
    | some key =>
        have index := Interner.keyAt?_eq_some_iff.mp next
        have absent : text ∉ pool.names := by
          intro present
          have below := indexOf_lt present
          have above := far present
          have small := key.toNat_lt
          omega
        have names := names_insert_of_notMem absent
        refine ⟨pool.insert text, ?_, ?_, ?_, ?_⟩
        · rw [indexOf_insert_of_notMem absent, next]
          rfl
        · exact length_insert_of_notMem absent
        · change (pool.insert text).names[key.toNat]? = some text
          rw [names, index, List.getElem?_concat_length]
        · intro earlier below
          change (pool.insert text).names[earlier.toNat]? = pool.names[earlier.toNat]?
          rw [names, List.getElem?_append_left below]

/-- Texts with nothing in them and with a zero byte, and some twice. -/
def oddTexts : List String := ["ab", "", "a\x00b", "ab", "é", ""]

theorem pool_keeps_names_of_oddTexts :
    ∃ keys state names, interner.keys? oddTexts interner.empty = some (keys, state) ∧
      interner.Keeps oddTexts keys state ∧
      Divides (interner.layout state).1 (interner.layout state).2 ∧
      decode ((interner.layout state).1.map entryWords) (interner.layout state).2 = .ok names ∧
      (∀ call ∈ oddTexts.zip keys, names[call.2.toNat]? = some call.1) ∧
      keys = [0, 1, 2, 0, 3, 1] ∧ (interner.layout state).1 = [(0, 2), (3, 0), (4, 3), (8, 2)] := by
  obtain ⟨total, kept⟩ := Interner.pool_keeps_names interner_lawful oddTexts
  have few : oddTexts.toFinset.card ≤ 2 ^ 32 :=
    Nat.le_trans (List.toFinset_card_le oddTexts) (by decide)
  obtain ⟨⟨keys, state⟩, interned⟩ := Option.isSome_iff_exists.mp (total.mpr few)
  obtain ⟨keeps, divides, read⟩ := kept keys state interned
  have recorded : (interner.keys? oddTexts interner.empty).map
      (fun made => (made.1, (interner.layout made.2).1)) =
        some ([0, 1, 2, 0, 3, 1], [(0, 2), (3, 0), (4, 3), (8, 2)]) := by decide +kernel
  rw [interned] at recorded
  obtain ⟨made, laid⟩ := Prod.mk.inj (Option.some.inj recorded)
  have fits : ∀ entry ∈ (interner.layout state).1, entry.1 < 2 ^ 32 ∧ entry.2 < 2 ^ 32 := by
    change (interner.layout state).1 = _ at laid
    rw [laid]
    decide
  obtain ⟨names, decoded, resolved, _⟩ := read fits
  exact ⟨keys, state, names, interned, keeps, divides, decoded, resolved, made, laid⟩

end NamePool

end KernelStore
