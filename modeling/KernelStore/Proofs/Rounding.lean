import Mathlib
import KernelStore.Proofs.Slot.Spans

/-!
Rounding as choosing among multiples: up to the least one at or above a number, down to the
greatest one at or below it.
-/

namespace KernelStore

theorem isLeast_roundUp (number : Nat) {unit : Nat} (positive : 0 < unit) :
    IsLeast {multiple | unit ∣ multiple ∧ number ≤ multiple} (roundUp number unit) := by
  constructor
  · refine ⟨?_, le_roundUp number unit⟩
    rw [roundUp, if_neg (Nat.ne_of_gt positive)]
    exact Nat.dvd_mul_left unit _
  · intro multiple member
    obtain ⟨⟨count, rfl⟩, above⟩ := member
    rw [roundUp, if_neg (Nat.ne_of_gt positive), Nat.mul_comm unit count]
    apply Nat.mul_le_mul_right
    rw [Nat.mul_comm] at above
    have bounded : (number + unit - 1) / unit < count + 1 := by
      rw [Nat.div_lt_iff_lt_mul positive, Nat.succ_mul]
      omega
    exact Nat.le_of_lt_succ bounded

theorem isGreatest_roundDown (number : Nat) {unit : Nat} (positive : 0 < unit) :
    IsGreatest {multiple | unit ∣ multiple ∧ multiple ≤ number} (number / unit * unit) := by
  constructor
  · exact ⟨Nat.dvd_mul_left unit _, Nat.div_mul_le_self number unit⟩
  · intro multiple member
    obtain ⟨⟨count, rfl⟩, below⟩ := member
    rw [Nat.mul_comm unit count]
    apply Nat.mul_le_mul_right
    rw [Nat.le_div_iff_mul_le positive, Nat.mul_comm]
    exact below

end KernelStore
