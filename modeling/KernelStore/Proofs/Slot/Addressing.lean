import KernelStore.Proofs.Slot.Exactness

/-!
From slots to addresses and back. Main statement: in a layout whose slots lie in the address space
a slot is found at its start and nowhere else, it holds the addresses up to the next slot, and all
other addresses are foreign. This does not depend on what becomes of sums that are no words.
-/

namespace KernelStore

open Trapping (trap)

namespace Layout

variable (layout : Layout)

/-- Slots and addresses determine each other. -/
structure AddressesExactly : Prop where
  found : ∀ index < layout.count, layout.slotIndex? (layout.slotAddress index) = some index
  start : ∀ address index, layout.slotIndex? address = some index →
    index < layout.count ∧ address = layout.slotAddress index
  foreign : ∀ address, layout.slotIndex? address = none ↔ layout.Foreign address
  held : ∀ address index, layout.slotHolding? address = some index ↔
    layout.slotAddress index ≤ address ∧
      address < layout.slotAddress index + layout.slotSize ∧ index < layout.count
  managed : ∀ memory id address, Memory.isManaging memory ⟨id, layout⟩ address = true ↔
    ∃ index < layout.count, address ∈ layout.range index ∧
      memory.isTaken ⟨id, layout⟩ index = true
  pages : ∀ index, pageSize ∣ layout.slotAddress index ∧
    pageSize ∣ layout.slotAddress index + layout.slotSize
  apart : ∀ first second, first ≠ second → Disjoint (layout.range first) (layout.range second)

theorem addressesExactly : layout.AddressesExactly where
  found _ inside := layout.slotIndex?_slotAddress inside
  start _ _ found := layout.slotIndex?_eq_some_iff.mp found
  foreign _ := layout.slotIndex?_eq_none_iff
  held address index := by
    rw [slotHolding?_eq_some_iff, and_comm, and_assoc]
  managed memory id address := memory.isManaging_iff ⟨id, layout⟩ address
  pages index := by
    have start := layout.pageSize_dvd_slotAddress index
    exact ⟨start, Nat.dvd_add start layout.pageSize_dvd_slotSize⟩
  apart _ _ different := layout.disjoint_range different

end Layout

/-! ### Accepted words -/

/-- If the slots lie in the address space, the size of one is a word, and it does not matter what
would become of a sum that is none. -/
theorem Overflow.makeLayout_eq (overflow : Overflow) {base count codeSize dataSize : UInt64}
    (gotSize : UInt64)
    (inside : base.toNat + count.toNat * (codeSize.toNat + dataSize.toNat) < addressLimit) :
    overflow.makeLayout base count codeSize dataSize gotSize =
      WordLayout.make base count codeSize dataSize gotSize := by
  by_cases noSlots : count = 0
  · rw [makeLayout, WordLayout.make, makeLayout, if_pos noSlots, if_pos noSlots]
  · have positive : 0 < count.toNat := by
      rw [Nat.pos_iff_ne_zero, ne_eq, ← UInt64.toNat_zero, UInt64.toNat_inj]
      exact noSlots
    have once : 1 * (codeSize.toNat + dataSize.toNat) ≤
        count.toNat * (codeSize.toNat + dataSize.toNat) := Nat.mul_le_mul_right _ positive
    have bounded : codeSize.toNat + dataSize.toNat < addressLimit := by omega
    have size (overflow : Overflow) :
        (overflow.sum codeSize dataSize : Trapping LayoutFault UInt64) =
          pure (.ofNat (codeSize.toNat + dataSize.toNat)) := by
      have total := overflow.sum_eq (ε := LayoutFault) bounded
      rw [UInt64.ofNat_toNat, UInt64.ofNat_toNat] at total
      exact total
    rw [makeLayout, WordLayout.make, makeLayout, size, size]

namespace Layout

theorem settleWords_eq_pure_iff {made : Except LayoutFault Layout} {words : WordLayout} :
    settleWords made = pure words ↔ ∃ layout, made = .ok layout ∧ layout.words = words := by
  cases made with
  | ok layout =>
      constructor
      · intro same
        cases same
        exact ⟨layout, rfl, rfl⟩
      · intro accepted
        obtain ⟨other, same, inWords⟩ := accepted
        cases same
        rw [settleWords, inWords]
  | error fault =>
      constructor
      · intro same
        cases fault <;> cases same
      · intro accepted
        obtain ⟨layout, same, _⟩ := accepted
        cases same

/-- Of words that are accepted as a layout, and whose slots lie in the address space as exact
numbers, all addresses are those of the numbers, whatever becomes of sums that are no words. Each
slot is found by its start, no other address yields a slot, and an address is held by a slot just
if it lies in its range; the ranges consist of whole pages and do not meet. -/
theorem addressing_is_exact (overflow : Overflow)
    {base count codeSize dataSize gotSize : UInt64} {words : WordLayout}
    (accepted : overflow.makeLayout base count codeSize dataSize gotSize = pure words)
    (inside : base.toNat + count.toNat * (codeSize.toNat + dataSize.toNat) ≤ 2 ^ 64 - 1) :
    ∃ layout,
      make base.toNat count.toNat codeSize.toNat dataSize.toNat gotSize.toNat = .ok layout ∧
        layout.words = words ∧ layout.AddressesExactly ∧ overflow.Computes layout := by
  have bounded : base.toNat + count.toNat * (codeSize.toNat + dataSize.toNat) < addressLimit :=
    Nat.lt_of_le_pred (by decide) inside
  rw [overflow.makeLayout_eq gotSize bounded, make_words] at accepted
  obtain ⟨layout, made, same⟩ := settleWords_eq_pure_iff.mp accepted
  exact ⟨layout, made, same, layout.addressesExactly, overflow.computes layout⟩

/-- Three slots of which the last one ends one page before the end of the address space. -/
def topLayout : Layout := ⟨0xffffffffffff9000, 3, 4096, 4096, 8, by decide⟩

/-- Around the last slot of all: its start, its last address, the first one past it, and below all
slots. -/
theorem addressing_is_exact_at_the_top :
    Overflow.wrapped.makeLayout 0xffffffffffff9000 3 4096 4096 8 = pure topLayout.words ∧
      (0xffffffffffff9000 : UInt64).toNat + (3 : UInt64).toNat *
        ((4096 : UInt64).toNat + (4096 : UInt64).toNat) ≤ 2 ^ 64 - 1 ∧
      (Overflow.wrapped.slotIndex? topLayout.words 0xffffffffffffd000 :
        Trapping LayoutFault (Option UInt64)) = pure (some 2) ∧
      (Overflow.wrapped.slotHolding? topLayout.words 0xffffffffffffefff :
        Trapping LayoutFault (Option UInt64)) = pure (some 2) ∧
      (Overflow.wrapped.slotIndex? topLayout.words 0xfffffffffffff000 :
        Trapping LayoutFault (Option UInt64)) = pure none ∧
      (Overflow.wrapped.slotIndex? topLayout.words 0xffffffffffff8fff :
        Trapping LayoutFault (Option UInt64)) = pure none := by
  have accepted : Overflow.wrapped.makeLayout 0xffffffffffff9000 3 4096 4096 8 =
      pure topLayout.words := rfl
  have inside : (0xffffffffffff9000 : UInt64).toNat + (3 : UInt64).toNat *
      ((4096 : UInt64).toNat + (4096 : UInt64).toNat) ≤ 2 ^ 64 - 1 := by decide
  obtain ⟨layout, made, _, addresses, computes⟩ :=
    addressing_is_exact .wrapped accepted inside
  have same : .ok layout = Except.ok topLayout := made.symm.trans (make_of_none topLayout.sound)
  cases same
  refine ⟨accepted, inside, ?_, ?_, ?_, ?_⟩
  · have found := addresses.found 2 (by decide)
    rw [computes.slotIndex?]
    exact congrArg pure (congrArg (Option.map UInt64.ofNat) found)
  · have held := (addresses.held 0xffffffffffffefff 2).mpr (by decide)
    rw [computes.slotHolding?]
    exact congrArg pure (congrArg (Option.map UInt64.ofNat) held)
  · have past := (addresses.foreign 0xfffffffffffff000).mpr (.inr (.inr (by decide)))
    rw [computes.slotIndex?]
    exact congrArg pure (congrArg (Option.map UInt64.ofNat) past)
  · have below := (addresses.foreign 0xffffffffffff8fff).mpr (.inl (by decide))
    rw [computes.slotIndex?]
    exact congrArg pure (congrArg (Option.map UInt64.ofNat) below)

/-- Where sums wrap around, parts of half the address space each add up to nothing. They are
accepted, and looking for a slot divides by zero. -/
example :
    let halves : WordLayout := ⟨4096, 1, 0x8000000000000000, 0x8000000000000000, 0⟩
    Overflow.wrapped.makeLayout 4096 1 0x8000000000000000 0x8000000000000000 0 = pure halves ∧
      (Overflow.wrapped.slotIndex? halves 4096 : Trapping LayoutFault (Option UInt64)) =
        trap .divisionByZero :=
  ⟨rfl, rfl⟩

end Layout

end KernelStore
