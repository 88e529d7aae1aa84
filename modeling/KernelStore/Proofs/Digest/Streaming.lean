import Mathlib
import KernelStore.Digest.Streaming

/-!
However a source brings its bytes, the digest is that of all of them together. Main statement:
neither the pieces nor interruptions between them matter, and a source that fails has no digest,
whatever it has brought before.
-/

namespace KernelStore

/-- Answers that bring a content piece by piece, with interruptions anywhere. -/
inductive Answer.Bring {ε : Type} : List (Answer ε) → Bytes → Prop
  | nothing : Bring [] []
  | piece {bytes content : Bytes} {fits : bytes.length ≤ Digest.bufferSize}
      {rest : List (Answer ε)} (some : bytes ≠ []) (later : Bring rest content) :
      Bring (.filled bytes fits :: rest) (bytes ++ content)
  | again {content : Bytes} {rest : List (Answer ε)} (later : Bring rest content) :
      Bring (.interrupted :: rest) content

namespace Digest

theorem Buffer.front_fill (buffer : Buffer) (bytes : Bytes) (fits : bytes.length ≤ bufferSize) :
    (buffer.fill bytes fits).front bytes.length = bytes := by
  unfold front fill Bytes.overwrite
  cases bytes with
  | nil => rfl
  | cons byte rest =>
      have nothing : Bytes.resize buffer.val 0 = [] := List.eq_nil_of_length_eq_zero (by simp)
      simp [nothing]

/-! ### Reading on -/

section

variable {ε : Type} {answers : List (Answer ε)} {content : Bytes}

/-- After the answers that bring a content, reading goes on as if it had been hashed at once. The
buffer is another one by then. -/
theorem hashAnswers_append (brings : Answer.Bring answers content) (buffer : Buffer)
    (state : Sha1.State) (rest : List (Answer ε)) :
    ∃ later, hashAnswers buffer state (answers ++ rest) =
      hashAnswers later (state.update content) rest := by
  induction brings generalizing buffer state with
  | nothing => exact ⟨buffer, rfl⟩
  | @piece bytes content fits others some later ih =>
      obtain ⟨reached, read⟩ := ih (buffer.fill bytes fits) (state.update bytes)
      refine ⟨reached, ?_⟩
      have filled : ¬ bytes.length = 0 := fun empty => some (List.eq_nil_of_length_eq_zero empty)
      rw [List.cons_append, hashAnswers, if_neg filled]
      dsimp only
      rw [Buffer.front_fill, read, Sha1.State.update_append]
  | again later ih => exact ih buffer state

theorem ofAnswers_append (brings : Answer.Bring answers content) (rest : List (Answer ε)) :
    ∃ buffer, ofAnswers (answers ++ rest) =
      (hashAnswers buffer (Sha1.State.initial.update content) rest).map fun state =>
        ⟨state.finish, state.length_finish⟩ := by
  obtain ⟨buffer, read⟩ := hashAnswers_append brings .empty Sha1.State.initial rest
  exact ⟨buffer, by rw [ofAnswers, read]⟩

theorem ofAnswers_eq (brings : Answer.Bring answers content) :
    ofAnswers answers = .ok (ofBytes content) := by
  obtain ⟨buffer, read⟩ := ofAnswers_append brings []
  rw [List.append_nil] at read
  exact read

/-- A request that brings nothing is the end, whatever might come behind it. -/
theorem ofAnswers_append_nothing (brings : Answer.Bring answers content)
    (rest : List (Answer ε)) :
    ofAnswers (answers ++ .filled [] (Nat.zero_le _) :: rest) = .ok (ofBytes content) := by
  obtain ⟨buffer, read⟩ := ofAnswers_append brings (.filled [] (Nat.zero_le _) :: rest)
  exact read

theorem ofAnswers_append_failed (brings : Answer.Bring answers content) (fault : ε)
    (rest : List (Answer ε)) :
    ofAnswers (answers ++ .failed fault :: rest) = .error fault := by
  obtain ⟨buffer, read⟩ := ofAnswers_append brings (.failed fault :: rest)
  exact read

theorem ofSource_of_ok {digest : Digest} (read : ofAnswers answers = .ok digest) :
    ofSource answers = digest := by
  rw [ofSource, read]

theorem ofSource_of_error {fault : ε} (read : ofAnswers answers = .error fault) :
    ofSource answers = zero := by
  rw [ofSource, read]

/-! ### Files -/

/-- The answers of a file bring its content. -/
theorem bring_answersOf_go (fuel : Nat) (content : Bytes) (enough : content.length ≤ fuel) :
    Answer.Bring (answersOf.go (ε := ε) fuel content) content := by
  induction fuel generalizing content with
  | zero =>
      obtain rfl := List.eq_nil_of_length_eq_zero (Nat.le_zero.mp enough)
      exact .nothing
  | succ fuel ih =>
      cases content with
      | nil => exact .nothing
      | cons byte rest =>
          have shorter : ((byte :: rest).drop bufferSize).length ≤ fuel := by
            rw [List.length_drop, bufferSize]
            omega
          have brings : Answer.Bring (answersOf.go (ε := ε) (fuel + 1) (byte :: rest))
              ((byte :: rest).take bufferSize ++ (byte :: rest).drop bufferSize) :=
            .piece (List.cons_ne_nil _ _) (ih _ shorter)
          rw [List.take_append_drop] at brings
          exact brings

theorem ofFile_eq (content : Bytes) : ofFile content = ofBytes content := by
  have brings := bring_answersOf_go (ε := Unit) content.length content (Nat.le_refl _)
  exact ofSource_of_ok (ofAnswers_eq brings)

/-- In whatever pieces a content is brought, and however often that is interrupted, its digest is
the one that it has as a whole. If another fault comes before the end, that fault is all that comes
of it, and the zero digest stands for the file. -/
theorem streaming_is_hashing (brings : Answer.Bring answers content) :
    ofAnswers answers = .ok (ofBytes content) ∧
      (∀ rest, ofAnswers (answers ++ .filled [] (Nat.zero_le _) :: rest) =
        .ok (ofBytes content)) ∧
      ofOpened (.ok answers) = ofBytes content ∧
      (∀ (fault : ε) (rest : List (Answer ε)),
        ofAnswers (answers ++ .failed fault :: rest) = .error fault ∧
        ofOpened (.ok (answers ++ .failed fault :: rest)) = zero ∧
        ofSource (answers ++ .failed fault :: rest) = zero) ∧
      ofSource answers = ofBytes content ∧
      ofFile content = ofBytes content := by
  have whole := ofAnswers_eq brings
  have source := ofSource_of_ok whole
  refine ⟨whole, ofAnswers_append_nothing brings, source, ?_, source, ofFile_eq content⟩
  intro fault rest
  have failed := ofAnswers_append_failed brings fault rest
  exact ⟨failed, ofSource_of_error failed, ofSource_of_error failed⟩

/-- The letters `abc` in two pieces, with interruptions before each. -/
def interruptedLetters : List (Answer Unit) :=
  [.interrupted, .filled [97] (by decide), .interrupted, .interrupted,
    .filled [98, 99] (by decide)]

theorem streaming_is_hashing_of_interruptedLetters :
    Answer.Bring interruptedLetters [97, 98, 99] ∧
      (ofAnswers interruptedLetters).map hex =
        .ok "a9993e364706816aba3e25717850c26c9cd0d89d" ∧
      ofOpened (.ok (interruptedLetters ++ [.failed ()])) = zero := by
  have brings : Answer.Bring interruptedLetters [97, 98, 99] :=
    .again (.piece (List.cons_ne_nil _ _) (.again (.again (.piece (List.cons_ne_nil _ _) .nothing))))
  obtain ⟨whole, _, _, failed, _⟩ := streaming_is_hashing brings
  refine ⟨brings, ?_, (failed () []).2.1⟩
  rw [whole]
  decide +kernel

end

end Digest

end KernelStore
