import KernelStore.Proofs.Slot.Exactness
import KernelStore.Settings.Words
import KernelStore.Toml.Number

/-!
The check of settings, and the layout that is made of them. The numbers that pass the one are those
that are the other. As words they do the same, unless the size of a slot is no word; of numbers
that a document can give it always is.
-/

namespace KernelStore

open Trapping (trap)

/-- Whether a document can give these numbers. -/
structure MemorySettings.Expressible (memory : MemorySettings) : Prop where
  baseAddress : memory.baseAddress ≤ Toml.largestInteger
  slotCount : memory.slotCount ≤ Toml.largestInteger
  codeSize : memory.codeSize ≤ Toml.largestInteger
  dataSize : memory.dataSize ≤ Toml.largestInteger
  gotSize : memory.gotSize ≤ Toml.largestInteger

/-- A layout with the numbers of the settings. -/
structure Layout.Follows (layout : Layout) (memory : MemorySettings) : Prop where
  base : layout.base = memory.baseAddress
  count : layout.count = memory.slotCount
  codeSize : layout.codeSize = memory.codeSize
  dataSize : layout.dataSize = memory.dataSize
  gotSize : layout.gotSize = memory.gotSize
  slotSize : layout.slotSize = memory.slotSize

namespace MemorySettings

theorem expressible_default : Expressible {} := by
  constructor <;> decide

/-- Two sizes of a document add up to a word. -/
theorem Expressible.slotSize_lt {memory : MemorySettings} (expressible : memory.Expressible) :
    memory.slotSize < addressLimit := by
  have code := expressible.codeSize
  have data := expressible.dataSize
  have limit : (addressLimit : Int) = 2 * (Toml.largestInteger + 1) := rfl
  unfold slotSize
  omega

theorem lt_of_le_largestInteger {number : Nat} (small : (number : Int) ≤ Toml.largestInteger) :
    number < addressLimit := by
  have limit : (addressLimit : Int) = 2 * (Toml.largestInteger + 1) := rfl
  have positive : 0 ≤ Toml.largestInteger := by decide
  omega

end MemorySettings

/-! ### Numbers -/

namespace Settings

theorem memoryFault?_eq_none_iff {memory : MemorySettings} :
    memoryFault? memory = none ↔
      Layout.Acceptable memory.baseAddress memory.slotCount memory.codeSize memory.dataSize
        memory.gotSize := by
  have span : memory.slotSize * memory.slotCount + memory.baseAddress =
      memory.baseAddress + memory.slotCount * (memory.codeSize + memory.dataSize) := by
    rw [Nat.add_comm, Nat.mul_comm, MemorySettings.slotSize]
  constructor
  · intro sound
    unfold memoryFault? at sound
    split_ifs at sound with noSlots noBase noCode noData noTable outside
    simp only [Bool.not_eq_true', Bool.not_eq_false] at noBase noCode noData
    rw [span] at outside
    exact ⟨Layout.sized_iff.mpr ⟨noSlots, noBase, noCode, noData, Nat.lt_of_not_le noTable⟩,
      Nat.lt_of_not_le outside⟩
  · intro acceptable
    obtain ⟨slots, base, code, data, got⟩ := Layout.sized_iff.mp acceptable.toSized
    unfold memoryFault?
    rw [if_neg slots, if_neg (by simp [base]), if_neg (by simp [code]), if_neg (by simp [data]),
      if_neg (Nat.not_le.mpr got), if_neg]
    rw [span]
    exact Nat.not_le.mpr acceptable.inside

/-- The two checks pass the same numbers, whether or not a document can give them. -/
theorem memoryFault?_eq_none_iff_exists {memory : MemorySettings} :
    memoryFault? memory = none ↔ ∃ layout, Layout.ofSettings memory = .ok layout := by
  rw [memoryFault?_eq_none_iff, Layout.ofSettings, Layout.exists_make_iff]

end Settings

theorem Layout.follows_of_ofSettings {memory : MemorySettings} {layout : Layout}
    (made : ofSettings memory = .ok layout) : layout.Follows memory := by
  cases outcome : layoutFault? memory.baseAddress memory.slotCount memory.codeSize
      memory.dataSize memory.gotSize with
  | none =>
      rw [ofSettings, make_of_none outcome] at made
      cases made
      exact ⟨rfl, rfl, rfl, rfl, rfl, rfl⟩
  | some fault =>
      rw [ofSettings, make_of_some outcome] at made
      cases made

/-! ### Words -/

/-- The numbers that words of settings stand for. -/
def WordMemory.numbers (memory : WordMemory) : MemorySettings where
  baseAddress := memory.baseAddress.toNat
  slotCount := memory.slotCount.toNat
  codeSize := memory.codeSize.toNat
  dataSize := memory.dataSize.toNat
  gotSize := memory.gotSize.toNat

theorem MemorySettings.Expressible.numbers_words {memory : MemorySettings}
    (expressible : memory.Expressible) : memory.words.numbers = memory := by
  unfold WordMemory.numbers MemorySettings.words
  rw [toNat_ofNat_of_lt (lt_of_le_largestInteger expressible.baseAddress),
    toNat_ofNat_of_lt (lt_of_le_largestInteger expressible.slotCount),
    toNat_ofNat_of_lt (lt_of_le_largestInteger expressible.codeSize),
    toNat_ofNat_of_lt (lt_of_le_largestInteger expressible.dataSize),
    toNat_ofNat_of_lt (lt_of_le_largestInteger expressible.gotSize)]

namespace WordMemory

theorem not_lastAddress_lt (stop : UInt64) : ¬lastAddress < stop := by
  have bounded := stop.toNat_lt
  rw [UInt64.lt_iff_toNat_lt]
  change ¬2 ^ 64 - 1 < stop.toNat
  omega

/-- What is refused first is refused alike in words and in numbers. -/
theorem refused_ite {condition : Prop} [Decidable condition] {fault : SettingsFault}
    {steps : Trapping SettingsFault Unit} {found : Option SettingsFault}
    (later : ¬condition → steps = found.elim (pure ()) throw) :
    (if condition then throw fault else steps) =
      (if condition then some fault else found).elim (pure ()) throw := by
  by_cases holds : condition
  · rw [if_pos holds, if_pos holds]
    rfl
  · rw [if_neg holds, if_neg holds]
    exact later holds

variable (memory : WordMemory) (small : memory.numbers.slotSize < addressLimit)

include small

theorem slotSize_eq {ε : Type} :
    (memory.slotSize : Trapping ε UInt64) = pure (.ofNat memory.numbers.slotSize) := by
  have total := Word.sum_eq (ε := ε) small
  rw [numbers, UInt64.ofNat_toNat, UInt64.ofNat_toNat] at total
  exact total

/-- Unless a slot is too large for a word, the check of words refuses what that of numbers does. -/
theorem check_eq :
    memory.check = (Settings.memoryFault? memory.numbers).elim (pure ()) throw := by
  have zero : memory.slotCount = 0 ↔ memory.slotCount.toNat = 0 := by
    rw [← UInt64.toNat_inj, UInt64.toNat_zero]
  unfold check Settings.memoryFault?
  simp only [WordLayout.isPages_eq, zero, UInt64.le_iff_toNat_le]
  apply refused_ite
  intro _
  apply refused_ite
  intro _
  apply refused_ite
  intro _
  apply refused_ite
  intro _
  apply refused_ite
  intro _
  rw [memory.slotSize_eq small, pure_bind, WordLayout.stop?_eq small]
  by_cases inside : memory.numbers.slotSize * memory.slotCount.toNat + memory.baseAddress.toNat <
      addressLimit
  · rw [if_pos inside]
    dsimp only
    rw [if_neg (not_lastAddress_lt _), if_neg]
    · rfl
    · exact Nat.not_le.mpr inside
  · rw [if_neg inside, if_pos]
    · rfl
    · exact Nat.le_of_not_lt inside

theorem layout_eq :
    memory.layout = ofExcept ((Layout.ofSettings memory.numbers).map Layout.words) := by
  rw [layout, Layout.make_words]
  apply Layout.settleWords_eq
  intro code data large
  obtain ⟨⟨_, outside⟩, _⟩ := Layout.make_eq_slotSize_iff.mp large
  exact absurd small (Nat.not_lt.mpr outside)

end WordMemory

namespace MemorySettings.Expressible

variable {memory : MemorySettings} (expressible : memory.Expressible)

include expressible

theorem check_words :
    memory.words.check = (Settings.memoryFault? memory).elim (pure ()) throw := by
  rw [memory.words.check_eq, expressible.numbers_words]
  rw [expressible.numbers_words]
  exact expressible.slotSize_lt

theorem layout_words :
    memory.words.layout = ofExcept ((Layout.ofSettings memory).map Layout.words) := by
  rw [memory.words.layout_eq, expressible.numbers_words]
  rw [expressible.numbers_words]
  exact expressible.slotSize_lt

end MemorySettings.Expressible

end KernelStore
