import Mathlib
import KernelStore.Slot.Memory

/-!
Slots tile the addresses from the base of a layout to its end: an address lies in at most one of
them, and starts at most one. What a table manages are the addresses of its taken slots.
-/

namespace KernelStore

theorem layoutFault?_eq_none_iff {base count codeSize dataSize gotSize : Nat} :
    layoutFault? base count codeSize dataSize gotSize = none ↔
      count ≠ 0 ∧ isPages base = true ∧ isPages codeSize = true ∧ isPages dataSize = true ∧
        gotSize < codeSize ∧ codeSize + dataSize < addressLimit ∧
        (codeSize + dataSize) * count + base < addressLimit := by
  unfold layoutFault?
  repeat' split
  all_goals simp_all

theorem isPages_iff {size : Nat} : isPages size = true ↔ 0 < size ∧ pageSize ∣ size := by
  unfold isPages
  rw [Bool.and_eq_true, bne_iff_ne, beq_iff_eq, Nat.pos_iff_ne_zero, Nat.dvd_iff_mod_eq_zero]

namespace Layout

variable (layout : Layout)

theorem slotSize_pos : 0 < layout.slotSize := by
  obtain ⟨_, _, code, _⟩ := layoutFault?_eq_none_iff.mp layout.sound
  have positive := (isPages_iff.mp code).1
  unfold slotSize
  omega

theorem slotAddress_succ (index : Nat) :
    layout.slotAddress (index + 1) = layout.slotAddress index + layout.slotSize := by
  unfold slotAddress
  rw [Nat.succ_mul, Nat.add_assoc]

theorem slotAddress_le {first second : Nat} (order : first ≤ second) :
    layout.slotAddress first ≤ layout.slotAddress second :=
  Nat.add_le_add_left (Nat.mul_le_mul_right _ order) _

theorem stop_lt : layout.stop < addressLimit := by
  obtain ⟨_, _, _, _, _, _, fits⟩ := layoutFault?_eq_none_iff.mp layout.sound
  unfold stop slotAddress slotSize
  rw [Nat.mul_comm, Nat.add_comm]
  exact fits

/-- No address of a slot wraps around. -/
theorem slotEnd_lt {index : Nat} (inside : index < layout.count) :
    layout.slotAddress index + layout.slotSize < addressLimit := by
  rw [← slotAddress_succ]
  exact Nat.lt_of_le_of_lt (layout.slotAddress_le inside) layout.stop_lt

theorem slotHolding?_eq_some_iff {address index : Nat} :
    layout.slotHolding? address = some index ↔
      index < layout.count ∧ layout.slotAddress index ≤ address ∧
        address < layout.slotAddress index + layout.slotSize := by
  have positive := layout.slotSize_pos
  unfold slotHolding? slotAddress
  by_cases above : layout.base ≤ address
  · have quotient : (address - layout.base) / layout.slotSize = index ↔
        layout.base + index * layout.slotSize ≤ address ∧
          address < layout.base + index * layout.slotSize + layout.slotSize := by
      rw [Nat.div_eq_iff positive]
      omega
    rw [if_pos above, ← quotient]
    by_cases inside : (address - layout.base) / layout.slotSize < layout.count
    · simp only [inside, if_true, Option.some.injEq]
      constructor
      · intro same
        subst same
        exact ⟨inside, rfl⟩
      · exact And.right
    · simp only [inside, if_false, reduceCtorEq, false_iff, not_and]
      intro within same
      subst same
      exact inside within
  · rw [if_neg above]
    simp only [reduceCtorEq, false_iff, not_and, Nat.not_lt]
    intro _ after
    omega

theorem slotIndex?_eq_some_iff {address index : Nat} :
    layout.slotIndex? address = some index ↔
      index < layout.count ∧ address = layout.slotAddress index := by
  have positive := layout.slotSize_pos
  unfold slotIndex? slotAddress
  by_cases above : layout.base ≤ address
  · rw [if_pos above]
    dsimp only
    split
    · rename_i passed
      have product := Nat.div_mul_cancel (Nat.dvd_of_mod_eq_zero passed.1)
      simp only [Option.some.injEq]
      constructor
      · intro same
        subst same
        exact ⟨passed.2, by omega⟩
      · rintro ⟨_, same⟩
        rw [same, Nat.add_sub_cancel_left, Nat.mul_div_cancel _ positive]
    · rename_i failed
      simp only [reduceCtorEq, false_iff, not_and]
      intro inside same
      subst same
      apply failed
      rw [Nat.add_sub_cancel_left, Nat.mul_mod_left, Nat.mul_div_cancel _ positive]
      exact ⟨rfl, inside⟩
  · rw [if_neg above]
    simp only [reduceCtorEq, false_iff, not_and]
    intro _ same
    subst same
    exact above (Nat.le_add_right _ _)

theorem slotIndex?_slotAddress {index : Nat} (inside : index < layout.count) :
    layout.slotIndex? (layout.slotAddress index) = some index :=
  layout.slotIndex?_eq_some_iff.mpr ⟨inside, rfl⟩

/-! ### The ranges of slots -/

/-- The addresses of one slot. -/
def range (index : Nat) : Set Nat :=
  Set.Ico (layout.slotAddress index) (layout.slotAddress index + layout.slotSize)

theorem slotAddress_mem_range (index : Nat) : layout.slotAddress index ∈ layout.range index :=
  ⟨Nat.le_refl _, Nat.lt_add_of_pos_right layout.slotSize_pos⟩

theorem slotHolding?_slotAddress {index : Nat} (inside : index < layout.count) :
    layout.slotHolding? (layout.slotAddress index) = some index :=
  layout.slotHolding?_eq_some_iff.mpr ⟨inside, layout.slotAddress_mem_range index⟩

theorem range_eq (index : Nat) :
    layout.range index = Set.Ico (layout.slotAddress index) (layout.slotAddress (index + 1)) := by
  rw [range, slotAddress_succ]

theorem disjoint_range : Pairwise (Function.onFun Disjoint layout.range) := by
  have ordered : Monotone layout.slotAddress := fun _ _ => layout.slotAddress_le
  intro first second different
  have apart := ordered.pairwise_disjoint_on_Ico_succ different
  simp only [Function.onFun, range_eq]
  exact apart

theorem mem_range_inj {first second address : Nat} (inFirst : address ∈ layout.range first)
    (inSecond : address ∈ layout.range second) : first = second := by
  by_contra different
  exact Set.disjoint_left.mp (layout.disjoint_range different) inFirst inSecond

theorem slotAddress_inj {first second : Nat}
    (same : layout.slotAddress first = layout.slotAddress second) : first = second :=
  layout.mem_range_inj (layout.slotAddress_mem_range first)
    (same ▸ layout.slotAddress_mem_range second)

/-- The ranges of the slots fill the layout from its base to its end. -/
theorem exists_mem_range_iff {address : Nat} :
    (∃ index < layout.count, address ∈ layout.range index) ↔
      layout.base ≤ address ∧ address < layout.stop := by
  constructor
  · intro held
    obtain ⟨index, inside, above, below⟩ := held
    have first := layout.slotAddress_le (Nat.zero_le index)
    have last := layout.slotAddress_le (Nat.succ_le_of_lt inside)
    rw [slotAddress, Nat.zero_mul, Nat.add_zero] at first
    rw [slotAddress_succ] at last
    exact ⟨Nat.le_trans first above, Nat.lt_of_lt_of_le below last⟩
  · intro between
    obtain ⟨above, below⟩ := between
    have quotient : (address - layout.base) / layout.slotSize < layout.count := by
      rw [Nat.div_lt_iff_lt_mul layout.slotSize_pos]
      unfold stop slotAddress at below
      omega
    have holding : layout.slotHolding? address =
        some ((address - layout.base) / layout.slotSize) := by
      rw [slotHolding?, if_pos above]
      exact if_pos quotient
    exact ⟨_, layout.slotHolding?_eq_some_iff.mp holding⟩

theorem pageSize_dvd_slotSize : pageSize ∣ layout.slotSize := by
  obtain ⟨_, _, code, data, _⟩ := layoutFault?_eq_none_iff.mp layout.sound
  exact Nat.dvd_add (isPages_iff.mp code).2 (isPages_iff.mp data).2

theorem pageSize_dvd_slotAddress (index : Nat) : pageSize ∣ layout.slotAddress index := by
  obtain ⟨_, base, _⟩ := layoutFault?_eq_none_iff.mp layout.sound
  have multiple := Nat.dvd_mul_left_of_dvd layout.pageSize_dvd_slotSize index
  exact Nat.dvd_add (isPages_iff.mp base).2 multiple

/-! ### Addresses that start no slot -/

/-- Below the base, inside a slot, or from the end of the last slot on. -/
def Foreign (address : Nat) : Prop :=
  address < layout.base ∨
    (∃ index < layout.count, address ∈ layout.range index ∧
      address ≠ layout.slotAddress index) ∨
    layout.stop ≤ address

theorem slotIndex?_eq_none_iff {address : Nat} :
    layout.slotIndex? address = none ↔ layout.Foreign address := by
  constructor
  · intro nowhere
    -- Between the base and the end some slot holds the address, so it does not start that one.
    by_cases between : layout.base ≤ address ∧ address < layout.stop
    · obtain ⟨index, inside, holds⟩ := layout.exists_mem_range_iff.mpr between
      refine .inr (.inl ⟨index, inside, holds, ?_⟩)
      intro start
      rw [start, layout.slotIndex?_slotAddress inside] at nowhere
      cases nowhere
    · rcases Nat.lt_or_ge address layout.base with below | above
      · exact .inl below
      · exact .inr (.inr (Nat.le_of_not_lt fun before => between ⟨above, before⟩))
  · intro foreign
    cases found : layout.slotIndex? address with
    | none => rfl
    | some index =>
        obtain ⟨inside, start⟩ := layout.slotIndex?_eq_some_iff.mp found
        have holds : address ∈ layout.range index := start ▸ layout.slotAddress_mem_range index
        obtain ⟨above, below⟩ := layout.exists_mem_range_iff.mp ⟨index, inside, holds⟩
        rcases foreign with before | ⟨other, _, otherHolds, within⟩ | past
        · omega
        · rw [layout.mem_range_inj otherHolds holds] at within
          exact absurd start within
        · omega

end Layout

/-! ### Managed addresses -/

namespace Memory

variable (memory : Memory) (table : SlotTable)

theorem isManaging_slotAddress {index : Nat} (inside : index < table.layout.count) :
    memory.isManaging table (table.layout.slotAddress index) = memory.isTaken table index := by
  rw [isManaging, table.layout.slotHolding?_slotAddress inside]

theorem isManaging_iff (address : Nat) :
    memory.isManaging table address = true ↔
      ∃ index < table.layout.count, address ∈ table.layout.range index ∧
        memory.isTaken table index = true := by
  unfold isManaging
  cases holding : table.layout.slotHolding? address with
  | none =>
      refine iff_of_false nofun ?_
      intro managed
      obtain ⟨index, inside, holds, _⟩ := managed
      rw [table.layout.slotHolding?_eq_some_iff.mpr ⟨inside, holds⟩] at holding
      cases holding
  | some index =>
      obtain ⟨inside, holds⟩ := table.layout.slotHolding?_eq_some_iff.mp holding
      constructor
      · intro taken
        exact ⟨index, inside, holds, taken⟩
      · intro managed
        obtain ⟨other, _, otherHolds, taken⟩ := managed
        rw [table.layout.mem_range_inj holds otherHolds]
        exact taken

end Memory

end KernelStore
