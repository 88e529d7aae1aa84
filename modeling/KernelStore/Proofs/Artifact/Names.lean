import Mathlib
import KernelStore.Artifact.NamePool

/-!
The names of a pool, found again: a pool has exactly the names that were put in, in the order of
their first use, each at an index below the number of names, and reading the pool's entries over its
data yields its names.
-/

namespace KernelStore

theorem Utf8.length_encode (text : String) : (Utf8.encode text).length = text.utf8ByteSize := by
  simp [Utf8.encode]

namespace NamePool

theorem mem_insert_of_mem {pool : NamePool} {name : String} (added : String)
    (member : name ∈ pool.names) : name ∈ (pool.insert added).names := by
  unfold insert
  split
  · exact member
  · exact List.mem_append_left _ member

theorem mem_foldl_insert (names : List String) (pool : NamePool) (name : String)
    (member : name ∈ pool.names ∨ name ∈ names) :
    name ∈ (names.foldl insert pool).names := by
  induction names generalizing pool with
  | nil =>
      rcases member with held | impossible
      · exact held
      · cases impossible
  | cons first rest ih =>
      apply ih
      rcases member with held | listed
      · exact Or.inl (mem_insert_of_mem first held)
      · rcases List.mem_cons.mp listed with same | later
        · subst same
          exact Or.inl (mem_insert pool name)
        · exact Or.inr later

theorem mem_ofNames {names : List String} {name : String} (member : name ∈ names) :
    name ∈ (ofNames names).names :=
  mem_foldl_insert names {} name (Or.inr member)

theorem ofNames_append_singleton (names : List String) (name : String) :
    ofNames (names ++ [name]) = (ofNames names).insert name := by
  rw [ofNames, List.foldl_append]
  rfl

theorem names_insert_of_mem {pool : NamePool} {name : String} (present : name ∈ pool.names) :
    (pool.insert name).names = pool.names := by
  rw [insert, dif_pos present]

theorem names_insert_of_notMem {pool : NamePool} {name : String} (absent : name ∉ pool.names) :
    (pool.insert name).names = pool.names ++ [name] := by
  rw [insert, dif_neg absent]

theorem mem_ofNames_iff {names : List String} {name : String} :
    name ∈ (ofNames names).names ↔ name ∈ names := by
  refine ⟨?_, mem_ofNames⟩
  induction names using List.reverseRecOn with
  | nil => exact id
  | append_singleton names last ih =>
      rw [ofNames_append_singleton, List.mem_append]
      by_cases present : last ∈ (ofNames names).names
      · rw [names_insert_of_mem present]
        exact Or.inl ∘ ih
      · rw [names_insert_of_notMem present, List.mem_append]
        exact Or.imp_left ih

/-- Names stand in a pool in the order of their first use. -/
theorem pairwise_ofNames (names : List String) :
    (ofNames names).names.Pairwise fun first second => names.idxOf first < names.idxOf second := by
  induction names using List.reverseRecOn with
  | nil => exact List.Pairwise.nil
  | append_singleton names last ih =>
      have earlier : (ofNames names).names.Pairwise fun first second =>
          (names ++ [last]).idxOf first < (names ++ [last]).idxOf second := by
        apply ih.imp_of_mem
        intro first second isFirst isSecond order
        rw [List.idxOf_append_of_mem (mem_ofNames_iff.mp isFirst),
          List.idxOf_append_of_mem (mem_ofNames_iff.mp isSecond)]
        exact order
      rw [ofNames_append_singleton]
      by_cases present : last ∈ (ofNames names).names
      · rw [names_insert_of_mem present]
        exact earlier
      · rw [names_insert_of_notMem present]
        apply List.pairwise_append.mpr
        refine ⟨earlier, List.pairwise_singleton _ _, ?_⟩
        intro name isName other isOther
        have used := mem_ofNames_iff.mp isName
        rw [List.mem_singleton.mp isOther, List.idxOf_append_of_mem used,
          List.idxOf_append_of_notMem (present ∘ mem_ofNames)]
        exact Nat.lt_of_lt_of_le (List.idxOf_lt_length_of_mem used) (Nat.le_add_right _ _)

/-- A pool has as many names as there are different ones. -/
theorem length_ofNames (names : List String) :
    (ofNames names).names.length = names.toFinset.card := by
  have same : (ofNames names).names.toFinset = names.toFinset := by
    ext name
    rw [List.mem_toFinset, List.mem_toFinset, mem_ofNames_iff]
  rw [← same, List.toFinset_card_of_nodup (ofNames names).distinct]

/-- The offset of a name is the size of all names before it, each with its zero byte. -/
theorem getElem?_entriesFrom (names : List String) (offset index : Nat) :
    (entriesFrom offset names)[index]? = names[index]?.map fun name =>
      (offset + ((names.take index).map fun earlier => earlier.utf8ByteSize + 1).sum,
        name.utf8ByteSize) := by
  induction names generalizing offset index with
  | nil => rfl
  | cons name rest ih =>
      cases index with
      | zero => rfl
      | succ index =>
          rw [entriesFrom, List.getElem?_cons_succ, ih, List.getElem?_cons_succ,
            List.take_succ_cons, List.map_cons, List.sum_cons, Nat.add_assoc offset,
            Nat.add_assoc offset]

theorem indexOf_lt {pool : NamePool} {name : String} (member : name ∈ pool.names) :
    pool.indexOf name < pool.names.length :=
  List.idxOf_lt_length_of_mem member

theorem getElem?_indexOf {pool : NamePool} {name : String} (member : name ∈ pool.names) :
    pool.names[pool.indexOf name]? = some name := by
  rw [List.getElem?_eq_getElem (indexOf_lt member)]
  exact congrArg some (List.getElem_idxOf (indexOf_lt member))

/-! ### Reading the names of entries -/

/-- An entry as four-byte numbers hold it. -/
def entryWords (entry : Nat × Nat) : UInt32 × UInt32 := (UInt32.ofNat entry.1, UInt32.ofNat entry.2)

def dataOf (names : List String) : Bytes := names.flatMap fun name => Utf8.encode name ++ [0]

theorem nameAt_encode (front rest : Bytes) (name : String) :
    nameAt (front ++ (Utf8.encode name ++ 0 :: rest)).toArray front.length name.utf8ByteSize =
      .ok name := by
  have last : (front ++ (Utf8.encode name ++ 0 :: rest)).toArray[
      front.length + name.utf8ByteSize]? = some 0 := by
    rw [List.getElem?_toArray, List.getElem?_append_right (Nat.le_add_right _ _),
      List.getElem?_append_right (by rw [Utf8.length_encode]; omega), Utf8.length_encode]
    simp
  have named : ((front ++ (Utf8.encode name ++ 0 :: rest)).toArray.extract front.length
      (front.length + name.utf8ByteSize)).toList = Utf8.encode name := by
    rw [← Utf8.length_encode]
    simp
  simp only [nameAt, last, ne_eq, not_true_eq_false, ↓reduceIte, named, Utf8.decode?_encode]

theorem namesFrom_entriesFrom (names : List String) (front : Bytes) (index : Nat)
    (fits : ∀ entry ∈ entriesFrom front.length names, entry.1 < 2 ^ 32 ∧ entry.2 < 2 ^ 32) :
    namesFrom (front ++ dataOf names).toArray index
      ((entriesFrom front.length names).map entryWords) = .ok names := by
  induction names generalizing front index with
  | nil => rfl
  | cons name rest ih =>
      simp only [entriesFrom, List.mem_cons, forall_eq_or_imp] at fits
      have split : front ++ dataOf (name :: rest) =
          (front ++ Utf8.encode name ++ [0]) ++ dataOf rest := by
        simp [dataOf]
      have here : nameAt (front ++ dataOf (name :: rest)).toArray front.length name.utf8ByteSize =
          .ok name := by
        simpa [dataOf] using nameAt_encode front (dataOf rest) name
      have size : front.length + name.utf8ByteSize + 1 =
          (front ++ Utf8.encode name ++ [0]).length := by
        simp [Utf8.length_encode]
        omega
      have later := ih (front ++ Utf8.encode name ++ [0]) (index + 1) (by rw [← size]; exact fits.2)
      simp only [entriesFrom, List.map_cons, namesFrom, entryWords, UInt32.toNat_ofNat',
        Nat.mod_eq_of_lt fits.1.1, Nat.mod_eq_of_lt fits.1.2, here, size]
      rw [split, later]
      rfl

theorem decode_entries (pool : NamePool)
    (fits : ∀ entry ∈ pool.entries, entry.1 < 2 ^ 32 ∧ entry.2 < 2 ^ 32) :
    decode (pool.entries.map entryWords) pool.data = .ok pool.names :=
  namesFrom_entriesFrom pool.names [] 0 fits

end NamePool

end KernelStore
