import Mathlib
import KernelStore.Bytes.Parity
import KernelStore.Proofs.Artifact.HeaderReading

/-!
What a parity tells of its bytes. Each byte goes into one of four lanes, which the remainder of its
position by four names, and a byte of the parity is all the bytes of a lane combined. Main
statement: a changed string passes for what it was just if the changes in each lane cancel out,
which those within four bytes in a row never do.
-/

namespace KernelStore.Parity

/-! ### Bytes at several positions -/

/-- The bytes at some positions, combined by exclusive or. -/
def combine (positions : Finset Nat) (byteAt : Nat → UInt8) : UInt8 :=
  positions.fold (· ^^^ ·) 0 byteAt

section

variable {positions : Finset Nat} {byteAt other : Nat → UInt8}

theorem combine_empty (byteAt : Nat → UInt8) : combine ∅ byteAt = 0 := rfl

theorem combine_insert {position : Nat} (absent : position ∉ positions) (byteAt : Nat → UInt8) :
    combine (insert position positions) byteAt =
      byteAt position ^^^ combine positions byteAt :=
  Finset.fold_insert absent

theorem combine_congr (same : ∀ position ∈ positions, byteAt position = other position) :
    combine positions byteAt = combine positions other :=
  Finset.fold_congr same

theorem combine_xor (positions : Finset Nat) (byteAt other : Nat → UInt8) :
    combine positions (fun position => byteAt position ^^^ other position) =
      combine positions byteAt ^^^ combine positions other := by
  change positions.fold (· ^^^ · : UInt8 → UInt8 → UInt8) (0 ^^^ 0) _ = _
  exact Finset.fold_op_distrib

/-- Zeros can be left out. -/
theorem combine_filter {passes : Nat → Prop} [DecidablePred passes]
    (silent : ∀ position ∈ positions, ¬passes position → byteAt position = 0) :
    combine (positions.filter passes) byteAt = combine positions byteAt := by
  induction positions using Finset.induction_on with
  | empty => rfl
  | insert position rest absent ih =>
      have later := ih fun other member => silent other (Finset.mem_insert_of_mem member)
      rw [combine_insert absent, Finset.filter_insert]
      by_cases kept : passes position
      · have stillAbsent : position ∉ rest.filter passes :=
          fun member => absent (Finset.mem_filter.mp member).1
        rw [if_pos kept, combine_insert stillAbsent, later]
      · rw [if_neg kept, later, silent position (Finset.mem_insert_self _ _) kept, UInt8.zero_xor]

end

/-! ### The bytes of a word -/

/-- The byte at a place in a word, least significant first. -/
def byteOf (word : UInt32) (index : Nat) : UInt8 := UInt8.ofNat (word.toNat / 256 ^ index)

theorem ofUInt32_eq (word : UInt32) :
    LittleEndian.ofUInt32 word = (List.range 4).map (byteOf word) := by
  have places : List.range 4 = [0, 1, 2, 3] := by decide
  simp only [places, LittleEndian.ofUInt32, LittleEndian.encode, List.map_cons, List.map_nil,
    byteOf, Nat.div_div_eq_div_mul, Nat.pow_zero, Nat.div_one]
  rfl

/-- A word is known by its four bytes. -/
theorem word_ext {first second : UInt32}
    (same : ∀ index < 4, byteOf first index = byteOf second index) : first = second := by
  have bytes : LittleEndian.ofUInt32 first = LittleEndian.ofUInt32 second := by
    rw [ofUInt32_eq, ofUInt32_eq]
    apply List.map_congr_left
    intro index inside
    exact same index (List.mem_range.mp inside)
  have decoded := congrArg LittleEndian.decode bytes
  unfold LittleEndian.ofUInt32 at decoded
  rw [LittleEndian.decode_encode 4 _ first.toNat_lt,
    LittleEndian.decode_encode 4 _ second.toNat_lt] at decoded
  exact UInt32.toNat_inj.mp decoded

theorem byteOf_xor (first second : UInt32) (index : Nat) :
    byteOf (first ^^^ second) index = byteOf first index ^^^ byteOf second index := by
  have power : 256 ^ index = 2 ^ (8 * index) := by rw [Nat.pow_mul]
  rw [byteOf, byteOf, byteOf, UInt32.toNat_xor, power, Nat.xor_div_two_pow, UInt8.ofNat_xor]

/-- A byte that is moved to a place in a word is there, and nothing else is in the word. -/
theorem byteOf_shifted (byte : UInt8) {place index : Nat} (atPlace : place < 4)
    (atIndex : index < 4) :
    byteOf (byte.toUInt32 <<< UInt32.ofNat (8 * place)) index =
      if place = index then byte else 0 := by
  have small := byte.toNat_lt
  have moved : (byte.toUInt32 <<< UInt32.ofNat (8 * place)).toNat = byte.toNat * 256 ^ place := by
    have power : 256 ^ place = 2 ^ (8 * place) := by rw [Nat.pow_mul]
    have inWord : byte.toNat * 256 ^ place < 2 ^ 32 := by
      interval_cases place <;> omega
    have shift : (UInt32.ofNat (8 * place)).toNat % 32 = 8 * place := by
      rw [UInt32.toNat_ofNat', Nat.mod_eq_of_lt (by omega : 8 * place < 2 ^ 32),
        Nat.mod_eq_of_lt (by omega)]
    rw [UInt32.toNat_shiftLeft, UInt8.toNat_toUInt32, shift, Nat.shiftLeft_eq, ← power,
      Nat.mod_eq_of_lt inWord]
  apply UInt8.toNat_inj.mp
  rw [byteOf, moved, UInt8.toNat_ofNat']
  interval_cases place <;> interval_cases index <;> simp <;> omega

/-! ### Lanes -/

/-- All the bytes of a string whose positions leave a remainder by four, combined. -/
def lane (bytes : Bytes) (index : Nat) : UInt8 :=
  combine {position ∈ Finset.range bytes.length | position % 4 = index} (bytes.getD · 0)

/-- Positions beyond the end of a string add nothing. -/
theorem lane_eq_combine {bytes : Bytes} {limit : Nat} (enough : bytes.length ≤ limit)
    (index : Nat) :
    lane bytes index =
      combine {position ∈ Finset.range limit | position % 4 = index} (bytes.getD · 0) := by
  have inside : {position ∈ Finset.range bytes.length | position % 4 = index} =
      ({position ∈ Finset.range limit | position % 4 = index} : Finset Nat).filter
        (· < bytes.length) := by
    ext position
    simp only [Finset.mem_filter, Finset.mem_range]
    omega
  rw [lane, inside]
  apply combine_filter
  intro position _ beyond
  exact List.getD_eq_default _ _ (Nat.le_of_not_lt beyond)

theorem lane_append_byte (bytes : Bytes) (byte : UInt8) (index : Nat) :
    lane (bytes ++ [byte]) index =
      lane bytes index ^^^ if bytes.length % 4 = index then byte else 0 := by
  have last : (bytes ++ [byte]).getD bytes.length 0 = byte := by simp
  have before : ∀ position ∈ ({position ∈ Finset.range bytes.length | position % 4 = index} :
      Finset Nat), (bytes ++ [byte]).getD position 0 = bytes.getD position 0 := by
    intro position member
    exact List.getD_append _ _ _ _ (Finset.mem_range.mp (Finset.mem_filter.mp member).1)
  rw [lane, List.length_append, List.length_singleton, Finset.range_add_one, Finset.filter_insert]
  split
  · rw [combine_insert (by simp), last, combine_congr before, UInt8.xor_comm]
    rfl
  · rw [combine_congr before, UInt8.xor_zero]
    rfl

theorem shift_foldl_feed (bytes : Bytes) :
    (bytes.foldl Lanes.feed ⟨0, 0⟩).shift = UInt32.ofNat (8 * (bytes.length % 4)) := by
  induction bytes using List.reverseRecOn with
  | nil => rfl
  | append_singleton bytes byte ih =>
      rw [List.foldl_append, List.foldl_cons, List.foldl_nil, Lanes.feed, ih, List.length_append,
        List.length_singleton]
      have remainder := Nat.mod_lt bytes.length (by decide : 0 < 4)
      have next : (bytes.length + 1) % 4 = (bytes.length % 4 + 1) % 4 := by omega
      rw [next]
      generalize bytes.length % 4 = place at remainder
      interval_cases place <;> rfl

/-- The last byte goes to the place in the word that its position names. -/
theorem parity_append_byte (bytes : Bytes) (byte : UInt8) :
    parity (bytes ++ [byte]) =
      parity bytes ^^^ (byte.toUInt32 <<< UInt32.ofNat (8 * (bytes.length % 4))) := by
  rw [parity, parity, ← foldl_feed, ← foldl_feed, List.foldl_append, List.foldl_cons,
    List.foldl_nil, Lanes.feed, shift_foldl_feed]

theorem byteOf_parity (bytes : Bytes) {index : Nat} (inside : index < 4) :
    byteOf (parity bytes) index = lane bytes index := by
  induction bytes using List.reverseRecOn with
  | nil =>
      have silent : lane [] index = 0 := combine_empty _
      rw [silent]
      simp [parity, absorb, byteOf]
  | append_singleton bytes byte ih =>
      rw [parity_append_byte, byteOf_xor, ih,
        byteOf_shifted byte (Nat.mod_lt _ (by decide)) inside, lane_append_byte]

theorem parity_eq_iff_lanes {first second : Bytes} :
    parity first = parity second ↔ ∀ index < 4, lane first index = lane second index := by
  constructor
  · intro same index inside
    rw [← byteOf_parity first inside, ← byteOf_parity second inside, same]
  · intro same
    apply word_ext
    intro index inside
    rw [byteOf_parity first inside, byteOf_parity second inside, same index inside]

theorem parity_append_zeros (bytes : Bytes) (count : Nat) :
    parity (bytes ++ Bytes.zeros count) = parity bytes := by
  rw [parity_eq_iff_lanes]
  intro index _
  have shorter : bytes.length ≤ (bytes ++ Bytes.zeros count).length := by simp
  rw [lane_eq_combine le_rfl, lane_eq_combine shorter]
  apply combine_congr
  intro position _
  by_cases inside : position < bytes.length
  · exact List.getD_append _ _ _ _ inside
  · have beyond : bytes.length ≤ position := Nat.le_of_not_lt inside
    rw [List.getD_eq_default _ _ beyond, List.getD_append_right _ _ _ _ beyond]
    simp only [Bytes.zeros, List.getD_eq_getElem?_getD, List.getElem?_replicate]
    split <;> rfl

/-! ### Changes -/

/-- Where two strings differ. -/
def differing (first second : Bytes) : Finset Nat :=
  {position ∈ Finset.range first.length | first[position]? ≠ second[position]?}

/-- All the changes in a lane, combined. -/
def change (first second : Bytes) (index : Nat) : UInt8 :=
  combine {position ∈ differing first second | position % 4 = index}
    fun position => first.getD position 0 ^^^ second.getD position 0

section

variable {first second : Bytes}

theorem getD_ne_of_differing (sameLength : first.length = second.length) {position : Nat}
    (member : position ∈ differing first second) :
    first.getD position 0 ≠ second.getD position 0 := by
  obtain ⟨member, differ⟩ := Finset.mem_filter.mp member
  have inFirst : position < first.length := Finset.mem_range.mp member
  have inSecond : position < second.length := sameLength ▸ inFirst
  intro same
  apply differ
  rw [List.getElem?_eq_getElem inFirst, List.getElem?_eq_getElem inSecond]
  rw [List.getD_eq_getElem _ _ inFirst, List.getD_eq_getElem _ _ inSecond] at same
  rw [same]

theorem differing_nonempty (sameLength : first.length = second.length) (differ : first ≠ second) :
    (differing first second).Nonempty := by
  by_contra empty
  apply differ
  apply List.ext_getElem sameLength
  intro position inFirst inSecond
  by_contra changed
  apply empty
  refine ⟨position, Finset.mem_filter.mpr ⟨Finset.mem_range.mpr inFirst, ?_⟩⟩
  rw [List.getElem?_eq_getElem inFirst, List.getElem?_eq_getElem inSecond]
  exact fun same => changed (Option.some.inj same)

theorem change_eq_xor_lanes (sameLength : first.length = second.length) (index : Nat) :
    change first second index = lane first index ^^^ lane second index := by
  have lanes : {position ∈ differing first second | position % 4 = index} =
      ({position ∈ Finset.range first.length | position % 4 = index} : Finset Nat).filter
        fun position => first[position]? ≠ second[position]? := by
    rw [differing, Finset.filter_comm]
  rw [lane, lane, ← sameLength, ← combine_xor, change, lanes]
  apply combine_filter
  intro position _ unchanged
  rw [List.getD_eq_getElem?_getD, List.getD_eq_getElem?_getD, Classical.not_not.mp unchanged,
    UInt8.xor_self]

/-- A string passes for another one just if no lane shows a change. -/
theorem verify_eq_true_iff_change (sameLength : first.length = second.length) :
    verify second (parity first) = true ↔ ∀ index < 4, change first second index = 0 := by
  rw [verify_eq_true_iff, eq_comm, parity_eq_iff_lanes]
  simp only [change_eq_xor_lanes sameLength, UInt8.xor_eq_zero_iff]

/-- Changes within four bytes in a row are each alone in their lanes. -/
theorem change_of_window (sameLength : first.length = second.length) {start position : Nat}
    (window : ∀ position ∈ differing first second, start ≤ position ∧ position < start + 4)
    (member : position ∈ differing first second) :
    change first second (position % 4) ≠ 0 := by
  have alone : {other ∈ differing first second | other % 4 = position % 4} = {position} := by
    ext other
    rw [Finset.mem_filter, Finset.mem_singleton]
    constructor
    · rintro ⟨inside, sameLane⟩
      have here := window position member
      have there := window other inside
      omega
    · rintro rfl
      exact ⟨member, rfl⟩
  rw [change, alone, combine, Finset.fold_singleton, UInt8.xor_zero]
  intro same
  exact getD_ne_of_differing sameLength member (UInt8.xor_eq_zero_iff.mp same)

theorem not_verify_of_window (sameLength : first.length = second.length) (differ : first ≠ second)
    {start : Nat}
    (window : ∀ position ∈ differing first second, start ≤ position ∧ position < start + 4) :
    verify second (parity first) = false := by
  obtain ⟨position, member⟩ := differing_nonempty sameLength differ
  apply Bool.eq_false_iff.mpr
  intro passes
  have unchanged := (verify_eq_true_iff_change sameLength).mp passes (position % 4)
    (Nat.mod_lt _ (by decide))
  exact change_of_window sameLength window member unchanged

end

/--
The bytes of a parity are the lanes of the string, zeros at its end do not count, and a string
passes for another of the same length just if its changes cancel out in each lane. Changes that
all lie within four bytes in a row, wherever these begin, never do.
-/
theorem changes_are_told :
    (∀ bytes, LittleEndian.ofUInt32 (parity bytes) = (List.range 4).map (lane bytes)) ∧
    (∀ bytes count, parity (bytes ++ Bytes.zeros count) = parity bytes) ∧
    ∀ first second : Bytes, first.length = second.length →
      (verify second (parity first) = true ↔ ∀ index < 4, change first second index = 0) ∧
      (first ≠ second →
        ∀ start, (∀ position ∈ differing first second, start ≤ position ∧ position < start + 4) →
          verify second (parity first) = false) := by
  refine ⟨?_, parity_append_zeros, ?_⟩
  · intro bytes
    rw [ofUInt32_eq]
    apply List.map_congr_left
    intro index inside
    exact byteOf_parity bytes (List.mem_range.mp inside)
  · intro first second sameLength
    refine ⟨verify_eq_true_iff_change sameLength, ?_⟩
    intro differ start window
    exact not_verify_of_window sameLength differ window

/-- Two changes on both sides of a word's end are told, two equal changes in one lane are not. -/
theorem changes_are_told_across_words :
    verify [1, 2, 3, 9, 7, 6] (parity [1, 2, 3, 4, 5, 6]) = false ∧
      verify [3, 2, 3, 4, 7, 6] (parity [1, 2, 3, 4, 5, 6]) = true := by
  obtain ⟨_, _, told⟩ := changes_are_told
  obtain ⟨_, window⟩ := told [1, 2, 3, 4, 5, 6] [1, 2, 3, 9, 7, 6] rfl
  obtain ⟨cancels, _⟩ := told [1, 2, 3, 4, 5, 6] [3, 2, 3, 4, 7, 6] rfl
  exact ⟨window (by decide) 2 (by decide), cancels.mpr (by decide)⟩

end KernelStore.Parity
