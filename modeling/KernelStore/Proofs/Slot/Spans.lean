import Mathlib
import KernelStore.Slot.Memory

/-!
Ranges of addresses that do not meet, and the way up to the next multiple of a unit.
-/

namespace KernelStore

theorem le_roundUp (start unit : Nat) : start ≤ roundUp start unit := by
  unfold roundUp
  split
  · exact Nat.le_refl start
  · rename_i positive
    have remainder := Nat.mod_lt (start + unit - 1) (Nat.pos_of_ne_zero positive)
    have divided := Nat.div_add_mod' (start + unit - 1) unit
    omega

namespace Span

/-- One ends before the other begins. -/
def Apart (first second : Span) : Prop :=
  first.stop ≤ second.start ∨ second.stop ≤ first.start

theorem Apart.symm {first second : Span} (apart : first.Apart second) : second.Apart first :=
  Or.symm apart

theorem overlaps_eq_false_iff (first second : Span) :
    first.overlaps second = false ↔ first.Apart second := by
  simp only [overlaps, Apart, Bool.and_eq_false_iff, decide_eq_false_iff_not, Nat.not_lt]
  exact or_comm

theorem isFree_iff (span : Span) (live : List Span) :
    span.isFree live = true ↔ ∀ other ∈ live, span.Apart other := by
  simp only [isFree, List.all_eq_true, Bool.not_eq_true', overlaps_eq_false_iff]

end Span

end KernelStore
