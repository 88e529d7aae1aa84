import KernelStore.Proofs.Rounding
import KernelStore.Word

/-!
Words that stand for numbers. Steps on them compute what the numbers do, and are trapped exactly
where a number is no word.
-/

namespace KernelStore

/-- What may end in a fault is followed alike in words and in numbers. -/
theorem Trapping.ofExcept_bind {ε α β : Type} {outcome : Except ε α} {next : α → Trapping ε β}
    {compute : α → Except ε β}
    (each : ∀ value, outcome = .ok value → next value = ofExcept (compute value)) :
    ((ofExcept outcome : Trapping ε α) >>= next) = ofExcept (outcome >>= compute) := by
  cases outcome with
  | error fault => rfl
  | ok value => exact each value rfl

namespace Word

variable {ε : Type} {first second : Nat}

theorem toNat_lt (word : UInt64) : word.toNat < addressLimit := word.toNat_lt

theorem le_iff (firstWord : first < addressLimit) (secondWord : second < addressLimit) :
    UInt64.ofNat first ≤ UInt64.ofNat second ↔ first ≤ second := by
  rw [UInt64.le_iff_toNat_le, toNat_ofNat_of_lt firstWord, toNat_ofNat_of_lt secondWord]

theorem lt_iff (firstWord : first < addressLimit) (secondWord : second < addressLimit) :
    UInt64.ofNat first < UInt64.ofNat second ↔ first < second := by
  rw [UInt64.lt_iff_toNat_lt, toNat_ofNat_of_lt firstWord, toNat_ofNat_of_lt secondWord]

theorem eq_zero_iff (firstWord : first < addressLimit) : UInt64.ofNat first = 0 ↔ first = 0 := by
  rw [← UInt64.toNat_inj, toNat_ofNat_of_lt firstWord, UInt64.toNat_zero]

/-! ### Sums, products and differences -/

theorem sum?_eq (firstWord : first < addressLimit) (secondWord : second < addressLimit) :
    sum? (.ofNat first) (.ofNat second) =
      if first + second < addressLimit then some (.ofNat (first + second)) else none := by
  rw [sum?, toNat_ofNat_of_lt firstWord, toNat_ofNat_of_lt secondWord, UInt64.ofNat_add]

theorem product?_eq (firstWord : first < addressLimit) (secondWord : second < addressLimit) :
    product? (.ofNat first) (.ofNat second) =
      if first * second < addressLimit then some (.ofNat (first * second)) else none := by
  rw [product?, toNat_ofNat_of_lt firstWord, toNat_ofNat_of_lt secondWord, UInt64.ofNat_mul]

theorem difference?_eq (firstWord : first < addressLimit) (secondWord : second < addressLimit) :
    difference? (.ofNat first) (.ofNat second) =
      if second ≤ first then some (.ofNat (first - second)) else none := by
  unfold difference?
  by_cases order : second ≤ first
  · rw [if_pos ((le_iff secondWord firstWord).mpr order), if_pos order, UInt64.ofNat_sub order]
  · rw [if_neg (order ∘ (le_iff secondWord firstWord).mp), if_neg order]

theorem sum_eq (bounded : first + second < addressLimit) :
    (sum (.ofNat first) (.ofNat second) : Trapping ε UInt64) = pure (.ofNat (first + second)) := by
  rw [sum, sum?_eq (by omega) (by omega), if_pos bounded]
  rfl

theorem sum_eq_trap (firstWord : first < addressLimit) (secondWord : second < addressLimit)
    (large : addressLimit ≤ first + second) :
    (sum (.ofNat first) (.ofNat second) : Trapping ε UInt64) = Trapping.trap .overflow := by
  rw [sum, sum?_eq firstWord secondWord, if_neg (Nat.not_lt.mpr large)]
  rfl

theorem product_eq (firstWord : first < addressLimit) (secondWord : second < addressLimit)
    (bounded : first * second < addressLimit) :
    (product (.ofNat first) (.ofNat second) : Trapping ε UInt64) =
      pure (.ofNat (first * second)) := by
  rw [product, product?_eq firstWord secondWord, if_pos bounded]
  rfl

theorem difference_eq (firstWord : first < addressLimit) (order : second ≤ first) :
    (difference (.ofNat first) (.ofNat second) : Trapping ε UInt64) =
      pure (.ofNat (first - second)) := by
  rw [difference, difference?_eq firstWord (by omega), if_pos order]
  rfl

/-! ### Division -/

theorem quotient_eq (firstWord : first < addressLimit) (secondWord : second < addressLimit)
    (positive : 0 < second) :
    (quotient (.ofNat first) (.ofNat second) : Trapping ε UInt64) =
      pure (.ofNat (first / second)) := by
  rw [quotient, if_neg (Nat.ne_of_gt positive ∘ (eq_zero_iff secondWord).mp),
    UInt64.ofNat_div firstWord secondWord]

theorem remainder_eq (firstWord : first < addressLimit) (secondWord : second < addressLimit)
    (positive : 0 < second) :
    (remainder (.ofNat first) (.ofNat second) : Trapping ε UInt64) =
      pure (.ofNat (first % second)) := by
  rw [remainder, if_neg (Nat.ne_of_gt positive ∘ (eq_zero_iff secondWord).mp),
    UInt64.ofNat_mod firstWord secondWord]

/-! ### Rounding to a power of two -/

/-- Clearing the bits below a power of two rounds down to a multiple of it. -/
theorem toNat_cleared (address : UInt64) {exponent : Nat} (small : 2 ^ exponent < addressLimit) :
    (address &&& ~~~(UInt64.ofNat (2 ^ exponent - 1))).toNat =
      address.toNat / 2 ^ exponent * 2 ^ exponent := by
  have positive := Nat.two_pow_pos exponent
  have mask : (~~~(UInt64.ofNat (2 ^ exponent - 1))).toNat =
      2 ^ 64 - (2 ^ exponent - 1 + 1) := by
    rw [UInt64.toNat_not, toNat_ofNat_of_lt (by omega)]
    change 2 ^ 64 - 1 - (2 ^ exponent - 1) = _
    omega
  apply Nat.eq_of_testBit_eq
  intro bit
  rw [UInt64.toNat_and, mask, Nat.testBit_and,
    Nat.testBit_two_pow_sub_succ (by change _ < addressLimit; omega),
    Nat.testBit_two_pow_sub_one, Nat.testBit_mul_two_pow, Nat.testBit_div_two_pow]
  by_cases kept : exponent ≤ bit
  · rw [Nat.sub_add_cancel kept]
    by_cases inside : bit < 64
    · simp [kept, inside, Nat.not_lt.mpr kept]
    · -- There are no bits up there to clear.
      have high : address.toNat.testBit bit = false := by
        apply Nat.testBit_lt_two_pow
        exact Nat.lt_of_lt_of_le address.toNat_lt
          (Nat.pow_le_pow_right (by decide) (Nat.not_lt.mp inside))
      simp [high]
  · simp [kept, Nat.lt_of_not_le kept]

/-- The sum on the way to a multiple is a word whenever the multiple is. -/
theorem roundUp_lt_iff {number unit : Nat} (power : unit.isPowerOfTwo)
    (small : unit < addressLimit) :
    roundUp number unit < addressLimit ↔ number + (unit - 1) < addressLimit := by
  obtain ⟨exponent, rfl⟩ := power
  have positive := Nat.two_pow_pos exponent
  have limit : 2 ^ exponent ∣ addressLimit := by
    have order : exponent ≤ 64 :=
      Nat.le_of_lt ((Nat.pow_lt_pow_iff_right (Nat.lt_succ_self 1)).mp small)
    exact Nat.pow_dvd_pow 2 order
  have above := le_roundUp number (2 ^ exponent)
  rw [roundUp, if_neg (Nat.ne_of_gt positive)] at above ⊢
  have below := Nat.div_mul_le_self (number + 2 ^ exponent - 1) (2 ^ exponent)
  constructor
  · intro inside
    by_contra outside
    have greatest := (isGreatest_roundDown (number + 2 ^ exponent - 1) positive).2
      ⟨limit, by omega⟩
    omega
  · intro inside
    omega

theorem alignUp?_eq {address unit : Nat} (power : unit.isPowerOfTwo)
    (addressWord : address < addressLimit) (unitWord : unit < addressLimit) :
    (alignUp? (.ofNat address) (.ofNat unit) : Trapping ε (Option UInt64)) =
      pure (if roundUp address unit < addressLimit then some (.ofNat (roundUp address unit))
        else none) := by
  have positive := Nat.pos_of_isPowerOfTwo power
  have one : (1 : UInt64) = .ofNat 1 := rfl
  rw [alignUp?, one, difference_eq unitWord positive, pure_bind,
    sum?_eq addressWord (by omega)]
  congr 1
  by_cases inside : address + (unit - 1) < addressLimit
  · rw [if_pos inside, if_pos ((roundUp_lt_iff power unitWord).mpr inside), Option.map_some]
    congr 1
    obtain ⟨exponent, rfl⟩ := power
    apply UInt64.toNat_inj.mp
    rw [toNat_cleared _ unitWord, toNat_ofNat_of_lt inside, roundUp,
      if_neg (Nat.ne_of_gt positive), Nat.add_sub_assoc positive, toNat_ofNat_of_lt]
    exact Nat.lt_of_le_of_lt (Nat.div_mul_le_self _ _) inside
  · rw [if_neg inside, if_neg (inside ∘ (roundUp_lt_iff power unitWord).mp), Option.map_none]

theorem alignDown_eq {address unit : Nat} (power : unit.isPowerOfTwo)
    (addressWord : address < addressLimit) (unitWord : unit < addressLimit) :
    (alignDown (.ofNat address) (.ofNat unit) : Trapping ε UInt64) =
      pure (.ofNat (address / unit * unit)) := by
  have positive := Nat.pos_of_isPowerOfTwo power
  have one : (1 : UInt64) = .ofNat 1 := rfl
  rw [alignDown, one, difference_eq unitWord positive, pure_bind]
  congr 1
  obtain ⟨exponent, rfl⟩ := power
  apply UInt64.toNat_inj.mp
  rw [toNat_cleared _ unitWord, toNat_ofNat_of_lt addressWord, toNat_ofNat_of_lt]
  exact Nat.lt_of_le_of_lt (Nat.div_mul_le_self _ _) addressWord

end Word

end KernelStore
