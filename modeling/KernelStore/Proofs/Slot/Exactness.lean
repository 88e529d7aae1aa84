import KernelStore.Proofs.Slot.Addresses
import KernelStore.Proofs.Word
import KernelStore.Slot.Words

/-!
Which numbers are a layout, and what is computed with one. Main statement: a layout is made of
exactly those whose slots lie in the address space, with one exception among the others. Where the
size of one slot is no word, making a layout is trapped instead of refused. On a layout that has
been made nothing is trapped.
-/

namespace KernelStore

open Trapping (trap)

namespace Layout

/-- What is asked of the numbers one by one. -/
structure Sized (base count codeSize dataSize gotSize : Nat) : Prop where
  slots : 0 < count
  start : 0 < base ∧ pageSize ∣ base
  code : 0 < codeSize ∧ pageSize ∣ codeSize
  data : 0 < dataSize ∧ pageSize ∣ dataSize
  got : gotSize < codeSize

theorem sized_iff {base count codeSize dataSize gotSize : Nat} :
    Sized base count codeSize dataSize gotSize ↔
      count ≠ 0 ∧ isPages base = true ∧ isPages codeSize = true ∧ isPages dataSize = true ∧
        gotSize < codeSize := by
  rw [isPages_iff, isPages_iff, isPages_iff, ← Nat.pos_iff_ne_zero]
  constructor
  · intro sized
    exact ⟨sized.slots, sized.start, sized.code, sized.data, sized.got⟩
  · intro parts
    obtain ⟨slots, start, code, data, got⟩ := parts
    exact ⟨slots, start, code, data, got⟩

/-- The numbers that are a layout. -/
structure Acceptable (base count codeSize dataSize gotSize : Nat) : Prop
    extends Sized base count codeSize dataSize gotSize where
  inside : base + count * (codeSize + dataSize) < addressLimit

end Layout

section

variable {base count codeSize dataSize gotSize : Nat}

theorem layoutFault?_eq_none_iff_acceptable :
    layoutFault? base count codeSize dataSize gotSize = none ↔
      Layout.Acceptable base count codeSize dataSize gotSize := by
  rw [layoutFault?_eq_none_iff, Nat.mul_comm, Nat.add_comm (count * _)]
  constructor
  · intro sound
    obtain ⟨slots, start, code, data, got, _, inside⟩ := sound
    exact ⟨Layout.sized_iff.mpr ⟨slots, start, code, data, got⟩, inside⟩
  · intro acceptable
    obtain ⟨slots, start, code, data, got⟩ := Layout.sized_iff.mp acceptable.toSized
    have once : 1 * (codeSize + dataSize) ≤ count * (codeSize + dataSize) :=
      Nat.mul_le_mul_right _ acceptable.slots
    have inside := acceptable.inside
    exact ⟨slots, start, code, data, got, by omega, inside⟩

theorem layoutFault?_eq_slotSize_iff {code data : Nat} :
    layoutFault? base count codeSize dataSize gotSize = some (.slotSize code data) ↔
      (Layout.Sized base count codeSize dataSize gotSize ∧
        addressLimit ≤ codeSize + dataSize) ∧ codeSize = code ∧ dataSize = data := by
  unfold layoutFault?
  rw [Layout.sized_iff]
  split_ifs with noSlots noBase noCode noData noTable large outside
  all_goals simp_all

end

namespace WordLayout

theorem isPages_eq (size : UInt64) : isPages size = KernelStore.isPages size.toNat := by
  have zero : (size = 0) ↔ size.toNat = 0 := by rw [← UInt64.toNat_inj, UInt64.toNat_zero]
  have whole : (size % 4096 = 0) ↔ size.toNat % pageSize = 0 := by
    rw [← UInt64.toNat_inj, UInt64.toNat_mod]
    rfl
  rw [Bool.eq_iff_iff, isPages, KernelStore.isPages, Bool.and_eq_true, Bool.and_eq_true,
    bne_iff_ne, bne_iff_ne, beq_iff_eq, beq_iff_eq, whole, ne_eq, ne_eq, zero]

/-- That all slots end in the address space is tested without error. -/
theorem stop?_eq {size : Nat} (sizeWord : size < addressLimit) (count base : UInt64) :
    (Word.product? (.ofNat size) count).bind (Word.sum? · base) =
      if size * count.toNat + base.toNat < addressLimit then
        some (.ofNat (size * count.toNat + base.toNat)) else none := by
  have product := Word.product?_eq sizeWord count.toNat_lt
  rw [UInt64.ofNat_toNat] at product
  rw [product]
  by_cases spanWord : size * count.toNat < addressLimit
  · have sum := Word.sum?_eq spanWord base.toNat_lt
    rw [UInt64.ofNat_toNat] at sum
    rw [if_pos spanWord, Option.bind_some, sum]
  · rw [if_neg spanWord, if_neg (by omega), Option.bind_none]

/-- Words are refused for what the numbers they stand for are, but the size of a slot is a trap. -/
theorem make_eq (base count codeSize dataSize gotSize : UInt64) :
    make base count codeSize dataSize gotSize =
      match layoutFault? base.toNat count.toNat codeSize.toNat dataSize.toNat gotSize.toNat with
      | none => pure ⟨base, count, codeSize, dataSize, gotSize⟩
      | some (.slotSize _ _) => trap .overflow
      | some fault => throw fault := by
  have zero : count = 0 ↔ count.toNat = 0 := by rw [← UInt64.toNat_inj, UInt64.toNat_zero]
  unfold make Overflow.makeLayout layoutFault?
  simp only [isPages_eq, zero, UInt64.le_iff_toNat_le, Overflow.sum]
  split_ifs with noSlots noBase noCode noData noTable large outside
  · rfl
  · rfl
  · rfl
  · rfl
  · rfl
  · have trapped := Word.sum_eq_trap (ε := LayoutFault) codeSize.toNat_lt dataSize.toNat_lt large
    rw [UInt64.ofNat_toNat, UInt64.ofNat_toNat] at trapped
    rw [trapped]
    rfl
  · have total := Word.sum_eq (ε := LayoutFault) (Nat.lt_of_not_le large)
    rw [UInt64.ofNat_toNat, UInt64.ofNat_toNat] at total
    rw [total, pure_bind, stop?_eq (Nat.lt_of_not_le large), if_neg (Nat.not_lt.mpr outside)]
  · have total := Word.sum_eq (ε := LayoutFault) (Nat.lt_of_not_le large)
    rw [UInt64.ofNat_toNat, UInt64.ofNat_toNat] at total
    rw [total, pure_bind, stop?_eq (Nat.lt_of_not_le large), if_pos (Nat.lt_of_not_le outside)]

end WordLayout

namespace Layout

/-! ### Computing with a layout -/

section

variable (layout : Layout)

theorem slotSize_lt : layout.slotSize < addressLimit := by
  obtain ⟨_, _, _, _, _, size, _⟩ := layoutFault?_eq_none_iff.mp layout.sound
  exact size

theorem base_lt : layout.base < addressLimit := by
  have bounded := layout.stop_lt
  unfold stop slotAddress at bounded
  omega

theorem count_lt : layout.count < addressLimit := by
  have bounded := layout.stop_lt
  have once : layout.count * 1 ≤ layout.count * layout.slotSize :=
    Nat.mul_le_mul_left _ layout.slotSize_pos
  unfold stop slotAddress at bounded
  omega

theorem words_difference? (address : UInt64) :
    Word.difference? address layout.words.base =
      if layout.base ≤ address.toNat then some (.ofNat (address.toNat - layout.base))
      else none := by
  have difference := Word.difference?_eq address.toNat_lt layout.base_lt
  rw [UInt64.ofNat_toNat] at difference
  exact difference

theorem words_index_lt {offset : Nat} (bounded : offset < addressLimit) :
    UInt64.ofNat (offset / layout.slotSize) < layout.words.count ↔
      offset / layout.slotSize < layout.count :=
  Word.lt_iff (Nat.lt_of_le_of_lt (Nat.div_le_self _ _) bounded) layout.count_lt

end

end Layout

namespace Overflow

variable {ε : Type} (overflow : Overflow)

theorem sum_eq {first second : Nat} (bounded : first + second < addressLimit) :
    (overflow.sum (.ofNat first) (.ofNat second) : Trapping ε UInt64) =
      pure (.ofNat (first + second)) := by
  cases overflow with
  | trapped => exact Word.sum_eq bounded
  | wrapped =>
      rw [UInt64.ofNat_add]
      rfl

theorem product_eq {first second : Nat} (firstWord : first < addressLimit)
    (secondWord : second < addressLimit) (bounded : first * second < addressLimit) :
    (overflow.product (.ofNat first) (.ofNat second) : Trapping ε UInt64) =
      pure (.ofNat (first * second)) := by
  cases overflow with
  | trapped => exact Word.product_eq firstWord secondWord bounded
  | wrapped =>
      rw [UInt64.ofNat_mul]
      rfl

variable (layout : Layout)

/-- On the words of a layout all results are those of the numbers, and all of these are words. -/
structure Computes : Prop where
  stop : layout.stop < addressLimit
  slotSize (ε : Type) :
    (overflow.slotSize layout.words : Trapping ε UInt64) = pure (.ofNat layout.slotSize)
  slotAddress (ε : Type) : ∀ index < layout.count,
    (overflow.slotAddress layout.words (.ofNat index) : Trapping ε UInt64) =
      pure (.ofNat (layout.slotAddress index))
  slotHolding? (ε : Type) (address : UInt64) :
    (overflow.slotHolding? layout.words address : Trapping ε (Option UInt64)) =
      pure ((layout.slotHolding? address.toNat).map .ofNat)
  slotIndex? (ε : Type) (address : UInt64) :
    (overflow.slotIndex? layout.words address : Trapping ε (Option UInt64)) =
      pure ((layout.slotIndex? address.toNat).map .ofNat)

theorem slotSize_words :
    (overflow.slotSize layout.words : Trapping ε UInt64) = pure (.ofNat layout.slotSize) :=
  overflow.sum_eq layout.slotSize_lt

theorem slotAddress_words {index : Nat} (inside : index < layout.count) :
    (overflow.slotAddress layout.words (.ofNat index) : Trapping ε UInt64) =
      pure (.ofNat (layout.slotAddress index)) := by
  have count := layout.count_lt
  have bounded := layout.slotEnd_lt inside
  unfold Layout.slotAddress at bounded ⊢
  rw [slotAddress, slotSize_words, pure_bind,
    overflow.product_eq (by omega) layout.slotSize_lt (by omega), pure_bind]
  exact overflow.sum_eq (by omega)

theorem slotHolding?_words (address : UInt64) :
    (overflow.slotHolding? layout.words address : Trapping ε (Option UInt64)) =
      pure ((layout.slotHolding? address.toNat).map .ofNat) := by
  have bounded := Word.toNat_lt address
  rw [slotHolding?, Layout.slotHolding?, layout.words_difference?]
  by_cases above : layout.base ≤ address.toNat
  · have offset : address.toNat - layout.base < addressLimit := by omega
    rw [if_pos above, if_pos above]
    dsimp only
    rw [slotSize_words, pure_bind,
      Word.quotient_eq offset layout.slotSize_lt layout.slotSize_pos, pure_bind]
    congr 1
    simp only [layout.words_index_lt offset, apply_ite (Option.map UInt64.ofNat),
      Option.map_some, Option.map_none]
  · rw [if_neg above, if_neg above]
    rfl

theorem slotIndex?_words (address : UInt64) :
    (overflow.slotIndex? layout.words address : Trapping ε (Option UInt64)) =
      pure ((layout.slotIndex? address.toNat).map .ofNat) := by
  have bounded := Word.toNat_lt address
  rw [slotIndex?, Layout.slotIndex?, layout.words_difference?]
  by_cases above : layout.base ≤ address.toNat
  · have offset : address.toNat - layout.base < addressLimit := by omega
    have remainder := Nat.mod_le (address.toNat - layout.base) layout.slotSize
    rw [if_pos above, if_pos above]
    dsimp only
    rw [slotSize_words, pure_bind,
      Word.quotient_eq offset layout.slotSize_lt layout.slotSize_pos, pure_bind, pure_bind,
      Word.remainder_eq offset layout.slotSize_lt layout.slotSize_pos, pure_bind]
    congr 1
    have start : UInt64.ofNat ((address.toNat - layout.base) % layout.slotSize) = 0 ↔
        (address.toNat - layout.base) % layout.slotSize = 0 := Word.eq_zero_iff (by omega)
    simp only [layout.words_index_lt offset, start, apply_ite (Option.map UInt64.ofNat),
      Option.map_some, Option.map_none]
  · rw [if_neg above, if_neg above]
    rfl

theorem computes : overflow.Computes layout where
  stop := layout.stop_lt
  slotSize _ := overflow.slotSize_words layout
  slotAddress _ _ := overflow.slotAddress_words layout
  slotHolding? _ := overflow.slotHolding?_words layout
  slotIndex? _ := overflow.slotIndex?_words layout

end Overflow

namespace Layout

/-- On the words of a layout nothing is trapped, and all results are those of the numbers. -/
structure Computes (layout : Layout) : Prop where
  size : 0 < layout.slotSize ∧ layout.slotSize < addressLimit
  stop : ∀ index < layout.count, layout.slotAddress index + layout.slotSize < addressLimit
  slotSize (ε : Type) :
    (layout.words.slotSize : Trapping ε UInt64) = pure (.ofNat layout.slotSize)
  slotAddress (ε : Type) : ∀ index < layout.count,
    (layout.words.slotAddress (.ofNat index) : Trapping ε UInt64) =
      pure (.ofNat (layout.slotAddress index))
  slotHolding? (ε : Type) (address : UInt64) :
    (layout.words.slotHolding? address : Trapping ε (Option UInt64)) =
      pure ((layout.slotHolding? address.toNat).map .ofNat)
  slotIndex? (ε : Type) (address : UInt64) :
    (layout.words.slotIndex? address : Trapping ε (Option UInt64)) =
      pure ((layout.slotIndex? address.toNat).map .ofNat)

theorem computes (layout : Layout) : layout.Computes where
  size := ⟨layout.slotSize_pos, layout.slotSize_lt⟩
  stop _ inside := layout.slotEnd_lt inside
  slotSize _ := Overflow.trapped.slotSize_words layout
  slotAddress _ _ := Overflow.trapped.slotAddress_words layout
  slotHolding? _ := Overflow.trapped.slotHolding?_words layout
  slotIndex? _ := Overflow.trapped.slotIndex?_words layout

/-! ### Making a layout -/

section

variable {base count codeSize dataSize gotSize : Nat}

theorem make_of_none (sound : layoutFault? base count codeSize dataSize gotSize = none) :
    make base count codeSize dataSize gotSize =
      .ok ⟨base, count, codeSize, dataSize, gotSize, sound⟩ := by
  unfold make
  split
  · rfl
  · rename_i fault refused
    rw [sound] at refused
    cases refused

theorem make_of_some {fault : LayoutFault}
    (refused : layoutFault? base count codeSize dataSize gotSize = some fault) :
    make base count codeSize dataSize gotSize = .error fault := by
  unfold make
  split
  · rename_i sound
    rw [refused] at sound
    cases sound
  · rename_i other same
    rw [refused] at same
    cases same
    rfl

theorem exists_make_iff :
    (∃ layout, make base count codeSize dataSize gotSize = .ok layout) ↔
      Acceptable base count codeSize dataSize gotSize := by
  rw [← layoutFault?_eq_none_iff_acceptable]
  cases outcome : layoutFault? base count codeSize dataSize gotSize with
  | none => exact iff_of_true ⟨_, make_of_none outcome⟩ rfl
  | some fault =>
      rw [make_of_some outcome]
      exact iff_of_false nofun nofun

theorem make_eq_slotSize_iff {code data : Nat} :
    make base count codeSize dataSize gotSize = .error (.slotSize code data) ↔
      (Sized base count codeSize dataSize gotSize ∧ addressLimit ≤ codeSize + dataSize) ∧
        codeSize = code ∧ dataSize = data := by
  rw [← layoutFault?_eq_slotSize_iff]
  cases outcome : layoutFault? base count codeSize dataSize gotSize with
  | none =>
      rw [make_of_none outcome]
      exact iff_of_false nofun nofun
  | some fault =>
      rw [make_of_some outcome, Except.error.injEq, Option.some.injEq]

end

/-- What making a layout of words comes to, by what it comes to with numbers. -/
def settleWords : Except LayoutFault Layout → Trapping LayoutFault WordLayout
  | .ok layout => return layout.words
  | .error (.slotSize _ _) => trap .overflow
  | .error fault => throw fault

theorem settleWords_eq_trap_iff (made : Except LayoutFault Layout) :
    settleWords made = trap .overflow ↔ ∃ code data, made = .error (.slotSize code data) := by
  cases made with
  | ok layout => exact iff_of_false nofun nofun
  | error fault =>
      cases fault with
      | slotSize code data => exact iff_of_true rfl ⟨code, data, rfl⟩
      | noSlots => exact iff_of_false nofun nofun
      | baseAddress address => exact iff_of_false nofun nofun
      | partSize part size => exact iff_of_false nofun nofun
      | gotSize got code => exact iff_of_false nofun nofun
      | pastAddressSpace => exact iff_of_false nofun nofun

theorem settleWords_eq (made : Except LayoutFault Layout)
    (small : ∀ code data, made ≠ .error (.slotSize code data)) :
    settleWords made = ofExcept (made.map words) := by
  cases made with
  | ok layout => rfl
  | error fault =>
      cases fault with
      | slotSize code data => exact absurd rfl (small code data)
      | noSlots => rfl
      | baseAddress address => rfl
      | partSize part size => rfl
      | gotSize got code => rfl
      | pastAddressSpace => rfl

theorem words_of_make {base count codeSize dataSize gotSize : UInt64} {layout : Layout}
    (made : make base.toNat count.toNat codeSize.toNat dataSize.toNat gotSize.toNat =
      .ok layout) : layout.words = ⟨base, count, codeSize, dataSize, gotSize⟩ := by
  cases outcome : layoutFault? base.toNat count.toNat codeSize.toNat dataSize.toNat
      gotSize.toNat with
  | none =>
      rw [make_of_none outcome] at made
      cases made
      simp only [words, UInt64.ofNat_toNat]
  | some fault =>
      rw [make_of_some outcome] at made
      cases made

theorem make_words (base count codeSize dataSize gotSize : UInt64) :
    WordLayout.make base count codeSize dataSize gotSize =
      settleWords
        (make base.toNat count.toNat codeSize.toNat dataSize.toNat gotSize.toNat) := by
  rw [WordLayout.make_eq]
  cases outcome : layoutFault? base.toNat count.toNat codeSize.toNat dataSize.toNat
      gotSize.toNat with
  | none =>
      have made := make_of_none outcome
      rw [made, settleWords, words_of_make made]
  | some fault =>
      rw [make_of_some outcome]
      cases fault <;> rfl

/-- Of any words, a layout is made exactly if its slots lie in the address space, and all further
steps compute what the numbers do. Making it is trapped exactly if each number passes but the
parts of a slot add up to no word; all else is refused. -/
theorem made_exactly (base count codeSize dataSize gotSize : UInt64) :
    let steps := WordLayout.make base count codeSize dataSize gotSize
    let made := make base.toNat count.toNat codeSize.toNat dataSize.toNat gotSize.toNat
    let large :=
      Sized base.toNat count.toNat codeSize.toNat dataSize.toNat gotSize.toNat ∧
        addressLimit ≤ codeSize.toNat + dataSize.toNat
    (steps = trap .overflow ↔ large) ∧
      (made = .error (.slotSize codeSize.toNat dataSize.toNat) ↔ large) ∧
      (¬large → steps = ofExcept (made.map words)) ∧
      ((∃ layout, made = .ok layout) ↔
        Acceptable base.toNat count.toNat codeSize.toNat dataSize.toNat gotSize.toNat) ∧
      ∀ layout, made = .ok layout →
        layout.words = ⟨base, count, codeSize, dataSize, gotSize⟩ ∧ layout.Computes := by
  intro steps made large
  have inWords : steps = settleWords made := make_words base count codeSize dataSize gotSize
  have refused (code data : Nat) : made = .error (.slotSize code data) ↔
      large ∧ codeSize.toNat = code ∧ dataSize.toNat = data := make_eq_slotSize_iff
  refine ⟨?_, ?_, ?_, exists_make_iff, ?_⟩
  · rw [inWords, settleWords_eq_trap_iff]
    constructor
    · intro trapped
      obtain ⟨code, data, same⟩ := trapped
      exact ((refused code data).mp same).1
    · intro isLarge
      exact ⟨_, _, (refused _ _).mpr ⟨isLarge, rfl, rfl⟩⟩
  · rw [refused, and_iff_left ⟨rfl, rfl⟩]
  · intro small
    rw [inWords, settleWords_eq]
    intro code data same
    exact small ((refused code data).mp same).1
  · intro layout isMade
    exact ⟨words_of_make isMade, layout.computes⟩

/-- Two parts of half the address space each are neither a layout nor refused. -/
theorem made_exactly_not_for_halves :
    WordLayout.make 4096 1 (2 ^ 63) (2 ^ 63) 0 = trap .overflow ∧
      (¬∃ outcome, WordLayout.make 4096 1 (2 ^ 63) (2 ^ 63) 0 = ofExcept outcome) ∧
      make 4096 1 (2 ^ 63) (2 ^ 63) 0 = .error (.slotSize (2 ^ 63) (2 ^ 63)) ∧
      ¬Acceptable 4096 1 (2 ^ 63) (2 ^ 63) 0 := by
  have trapped : WordLayout.make 4096 1 (2 ^ 63) (2 ^ 63) 0 = trap .overflow := by
    have refused : make (4096 : UInt64).toNat (1 : UInt64).toNat (2 ^ 63 : UInt64).toNat
        (2 ^ 63 : UInt64).toNat (0 : UInt64).toNat = .error (.slotSize (2 ^ 63) (2 ^ 63)) := by
      decide +kernel
    rw [make_words, refused]
    rfl
  refine ⟨trapped, ?_, by decide +kernel, ?_⟩
  · intro ended
    obtain ⟨outcome, same⟩ := ended
    rw [trapped] at same
    cases outcome <;> cases same
  · intro acceptable
    exact absurd acceptable.inside (by decide)

end Layout

end KernelStore
