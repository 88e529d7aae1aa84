import Mathlib
import KernelStore.Artifact.Metadata

/-!
The precision as a field of metadata that has no place of its own: it is what the pragmas ask for.
Main statement: setting it and reading it back behave like those of a field. The precision that was
set is read back, setting it once more forgets the first time, and nothing else changes.
-/

namespace KernelStore

def Pragma.AsksPrecision (pragma : Pragma) : Prop :=
  pragma.key = Precision.relaxedKey ∨ pragma.key = Precision.impreciseKey

instance (pragma : Pragma) : Decidable pragma.AsksPrecision :=
  inferInstanceAs (Decidable (_ ∨ _))

theorem Pragma.isKey_iff (pragma : Pragma) :
    Precision.isKey pragma.key = true ↔ pragma.AsksPrecision := by
  rw [Precision.isKey, Bool.or_eq_true, beq_iff_eq, beq_iff_eq]
  rfl

/-- Only the two keys that ask for a precision matter, and of these only whether they occur. -/
theorem Precision.ofKeys_congr {keys others : List String}
    (relaxed : relaxedKey ∈ keys ↔ relaxedKey ∈ others)
    (imprecise : impreciseKey ∈ keys ↔ impreciseKey ∈ others) : ofKeys keys = ofKeys others := by
  simp only [ofKeys, relaxed, imprecise]

/-- A precision is asked for by one pragma at most, which has no value. -/
theorem Precision.filter_pragmaKey? (precision : Precision) :
    (precision.pragmaKey?.map (⟨·, ""⟩ : String → Pragma)).toList.filter
        (fun pragma => pragma.AsksPrecision) =
      (precision.pragmaKey?.map (⟨·, ""⟩ : String → Pragma)).toList := by
  cases precision <;> decide

namespace Metadata

variable (metadata : Metadata)

theorem otherPragmas_eq :
    metadata.otherPragmas = metadata.pragmas.filter fun pragma => ¬ pragma.AsksPrecision := by
  apply List.filter_congr
  intro pragma _
  rw [Bool.eq_iff_iff, Bool.not_eq_true', ← Bool.not_eq_true, pragma.isKey_iff,
    decide_eq_true_iff]

theorem filter_otherPragmas :
    metadata.otherPragmas.filter (fun pragma => pragma.AsksPrecision) = [] := by
  rw [otherPragmas_eq, List.filter_filter]
  apply List.filter_eq_nil_iff.mpr
  intro pragma _
  simp

theorem setPrecision_setPrecision (first second : Precision) :
    (metadata.setPrecision first).setPrecision second = metadata.setPrecision second := by
  rw [setPrecision, otherPragmas_setPrecision]
  rfl

/-- After a precision is set, the pragmas that ask for one are the one that asks for it. -/
theorem filter_setPrecision (precision : Precision) :
    (metadata.setPrecision precision).pragmas.filter (fun pragma => pragma.AsksPrecision) =
      (precision.pragmaKey?.map (⟨·, ""⟩ : String → Pragma)).toList := by
  rw [setPrecision, List.filter_append, filter_otherPragmas, Precision.filter_pragmaKey?]
  rfl

theorem countP_setPrecision (precision : Precision) :
    (metadata.setPrecision precision).pragmas.countP (fun pragma => pragma.AsksPrecision) ≤ 1 := by
  rw [List.countP_eq_length_filter, filter_setPrecision, Option.length_toList]
  split <;> simp

/-- A precision that is set is read back, and setting another one is as if it had never been set.
The pragmas that ask for none are kept, with their values and in their order, and so is all that is
no pragma; of the others there is one at most. What is read is what one pass over the keys finds,
and depends only on which keys there are. -/
theorem precision_is_lens (first second : Precision) :
    let keys (metadata : Metadata) := metadata.pragmas.map (·.key)
    let others (metadata : Metadata) :=
      metadata.pragmas.filter fun pragma => ¬ pragma.AsksPrecision
    let set := metadata.setPrecision first
    set.precision = first ∧
      set.setPrecision second = metadata.setPrecision second ∧
      others set = others metadata ∧
      set.pragmas.countP (fun pragma => pragma.AsksPrecision) ≤ 1 ∧
      { set with pragmas := metadata.pragmas } = metadata ∧
      Precision.scan false (keys metadata) = metadata.precision ∧
      ∀ other : Metadata, (∀ key, key ∈ keys other ↔ key ∈ keys metadata) →
        other.precision = metadata.precision := by
  intro keys others set
  refine ⟨metadata.precision_setPrecision first, metadata.setPrecision_setPrecision first second,
    ?_, metadata.countP_setPrecision first, rfl, Precision.scan_eq _, ?_⟩
  · change set.pragmas.filter _ = metadata.pragmas.filter _
    rw [← otherPragmas_eq, ← otherPragmas_eq]
    exact metadata.otherPragmas_setPrecision first
  · intro other same
    exact Precision.ofKeys_congr (same _) (same _)

/-- Asks for both lower precisions, for one of them twice and with a value. -/
def conflicting : Metadata where
  threadable := true
  pragmas := [⟨"fp_relaxed", "1"⟩, ⟨"unroll", "4"⟩, ⟨"fp_imprecise", ""⟩, ⟨"unroll", "4"⟩,
    ⟨"fp_relaxed", ""⟩]
  objectSlots := [7]

/-- The same keys, in another order and number. -/
def conflictingToo : Metadata where
  pragmas := [⟨"fp_imprecise", "on"⟩, ⟨"fp_imprecise", ""⟩, ⟨"fp_relaxed", ""⟩, ⟨"unroll", ""⟩]

theorem precision_is_lens_of_conflicting :
    (conflicting.setPrecision .relaxed).precision = .relaxed ∧
      (conflicting.setPrecision .relaxed).setPrecision .full =
        { threadable := true, pragmas := [⟨"unroll", "4"⟩, ⟨"unroll", "4"⟩], objectSlots := [7] } ∧
      conflictingToo.precision = .imprecise := by
  obtain ⟨read, twice, _, _, _, scanned, depends⟩ := conflicting.precision_is_lens .relaxed .full
  have same (key : String) : key ∈ conflictingToo.pragmas.map (·.key) ↔
      key ∈ conflicting.pragmas.map (·.key) := by
    simp only [conflictingToo, conflicting, List.map_cons, List.map_nil, List.mem_cons,
      List.not_mem_nil, or_false]
    tauto
  refine ⟨read, twice.trans (by decide), (depends conflictingToo same).trans ?_⟩
  exact scanned.symm.trans (by decide)

end Metadata

end KernelStore
