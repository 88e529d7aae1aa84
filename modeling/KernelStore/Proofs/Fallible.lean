import Mathlib
import KernelStore.Bytes

/-!
Computations that may fail: what has to hold for one after another to succeed, and to fail.
-/

namespace KernelStore

theorem bind_eq_ok_iff {ε α β : Type} {first : Except ε α} {next : α → Except ε β} {result : β} :
    first >>= next = .ok result ↔ ∃ value, first = .ok value ∧ next value = .ok result := by
  cases first with
  | error fault => simp [bind, Except.bind]
  | ok value => simp [bind, Except.bind]

theorem bind_eq_error_iff {ε α β : Type} {first : Except ε α} {next : α → Except ε β} {fault : ε} :
    first >>= next = .error fault ↔
      first = .error fault ∨ ∃ value, first = .ok value ∧ next value = .error fault := by
  cases first with
  | error reason => simp [bind, Except.bind]
  | ok value => simp [bind, Except.bind]

theorem mapM_eq_ok_iff {ε α β : Type} {encode : α → Except ε β} {plain : α → β} {fits : α → Prop}
    (each : ∀ item block, encode item = .ok block ↔ fits item ∧ block = plain item)
    (items : List α) (blocks : List β) :
    items.mapM encode = .ok blocks ↔ (∀ item ∈ items, fits item) ∧ blocks = items.map plain := by
  induction items generalizing blocks with
  | nil => simp [pure, Except.pure, eq_comm]
  | cons item rest ih =>
      simp only [List.mapM_cons, bind_eq_ok_iff, each, ih, List.mem_cons, forall_eq_or_imp,
        List.map_cons]
      constructor
      · rintro ⟨block, ⟨fitting, rfl⟩, later, ⟨others, rfl⟩, made⟩
        exact ⟨⟨fitting, others⟩, (Except.ok.inj made).symm⟩
      · rintro ⟨⟨fitting, others⟩, rfl⟩
        exact ⟨plain item, ⟨fitting, rfl⟩, rest.map plain, ⟨others, rfl⟩, rfl⟩

end KernelStore
