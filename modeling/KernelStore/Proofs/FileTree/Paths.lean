import KernelStore.Proofs.FileTree.Resolution

/-!
The text of a path in a directory. Joined to a directory, a name without strokes leads one step down
from where the directory lies.
-/

namespace KernelStore

namespace FilePath

theorem cut_ne_nil (text : List Char) : cut text ≠ [] := by
  cases text with
  | nil => exact List.cons_ne_nil _ _
  | cons letter rest =>
      unfold cut
      split
      · simp_all
      · simp_all
      · split <;> simp

theorem cut_stroke (rest : List Char) : cut ('/' :: rest) = [] :: cut rest := by
  rw [cut]

theorem cut_letter {letter : Char} (other : letter ≠ '/') (rest : List Char) :
    ∃ first others, cut rest = first :: others ∧
      cut (letter :: rest) = (letter :: first) :: others := by
  cases stretches : cut rest with
  | nil => exact absurd stretches (cut_ne_nil rest)
  | cons first others =>
      refine ⟨first, others, rfl, ?_⟩
      rw [cut]
      · rw [stretches]
      · exact other

theorem cut_append_stroke (front rest : List Char) :
    cut (front ++ '/' :: rest) = cut front ++ cut rest := by
  induction front with
  | nil => exact cut_stroke rest
  | cons letter inner ih =>
      by_cases stroke : letter = '/'
      · subst stroke
        rw [List.cons_append, cut_stroke, cut_stroke, ih, List.cons_append]
      · obtain ⟨first, others, before, joined⟩ := cut_letter stroke inner
        obtain ⟨whole, further, after, longer⟩ := cut_letter stroke (inner ++ '/' :: rest)
        rw [ih, before, List.cons_append] at after
        obtain ⟨rfl, rfl⟩ := List.cons.inj after
        rw [List.cons_append, longer, joined, List.cons_append]

theorem cut_plain {text : List Char} (plain : '/' ∉ text) : cut text = [text] := by
  induction text with
  | nil => rfl
  | cons letter rest ih =>
      have other : letter ≠ '/' := by
        intro same
        subst same
        exact plain List.mem_cons_self
      obtain ⟨first, others, before, joined⟩ := cut_letter other rest
      rw [ih fun member => plain (List.mem_cons_of_mem _ member)] at before
      obtain ⟨rfl, rfl⟩ := List.cons.inj before
      exact joined

/-- A name that is one step on a way. -/
structure IsName (name : String) : Prop where
  plain : '/' ∉ name.toList
  notEmpty : name ≠ ""
  notHere : name ≠ "."
  notUp : name ≠ ".."

theorem isName_append {name ending : String} {last : Char} (plain : '/' ∉ name.toList)
    (plainEnding : '/' ∉ ending.toList) (ends : ending.toList.getLast? = some last)
    (other : last ≠ '.') : IsName (name ++ ending) := by
  have wholeEnds : (name ++ ending).toList.getLast? = some last := by
    rw [String.toList_append, List.getLast?_append, ends]
    rfl
  constructor
  · rw [String.toList_append, List.mem_append]
    exact not_or.mpr ⟨plain, plainEnding⟩
  · intro same
    rw [same] at wholeEnds
    cases wholeEnds
  · intro same
    rw [same] at wholeEnds
    exact other (Option.some.inj wholeEnds).symm
  · intro same
    rw [same] at wholeEnds
    exact other (Option.some.inj wholeEnds).symm

/-- The steps that stretches of a text stand for. -/
def stepsOf (stretches : List (List Char)) : List Step :=
  ((stretches.map String.ofList).filter (· != "")).map fun piece =>
    if piece == "." then .here else if piece == ".." then .up else .down piece

theorem steps_eq (path : String) : steps path = stepsOf (cut path.toList) := rfl

theorem stepsOf_append (front rest : List (List Char)) :
    stepsOf (front ++ rest) = stepsOf front ++ stepsOf rest := by
  unfold stepsOf
  rw [List.map_append, List.filter_append, List.map_append]

theorem stepsOf_name {name : String} (isName : IsName name) :
    stepsOf [name.toList] = [.down name] := by
  simp [stepsOf, isName.notEmpty, isName.notHere, isName.notUp]

theorem IsName.notAbsolute {name : String} (isName : IsName name) : isAbsolute name = false := by
  unfold isAbsolute
  rw [beq_eq_false_iff_ne]
  intro first
  exact isName.plain (List.mem_of_head? first)

theorem steps_join (directory : String) {name : String} (isName : IsName name) :
    steps (join directory name) = steps directory ++ [.down name] := by
  rw [steps_eq, steps_eq, ← stepsOf_name isName, ← stepsOf_append]
  unfold join
  rw [isName.notAbsolute, Bool.false_or]
  split
  · rename_i empty
    rw [eq_of_beq empty, cut_plain isName.plain]
    rfl
  · split
    · rename_i closed
      obtain ⟨front, whole⟩ := List.getLast?_eq_some_iff.mp (eq_of_beq closed)
      rw [String.toList_append, whole, List.append_assoc, List.singleton_append,
        cut_append_stroke, cut_append_stroke, cut_plain isName.plain, stepsOf_append,
        stepsOf_append, stepsOf_append]
      simp [stepsOf, cut]
    · rw [String.toList_append, String.toList_append, List.append_assoc]
      change stepsOf (cut (directory.toList ++ '/' :: name.toList)) = _
      rw [cut_append_stroke, cut_plain isName.plain]

theorem isAbsolute_join (directory : String) {name : String} (isName : IsName name) :
    isAbsolute (join directory name) = isAbsolute directory := by
  unfold join
  rw [isName.notAbsolute, Bool.false_or]
  split
  · rename_i empty
    rw [eq_of_beq empty, isName.notAbsolute]
    rfl
  · rename_i filled
    have first : directory.toList ≠ [] := by
      intro nothing
      apply filled
      rw [String.toList_eq_nil_iff.mp nothing]
      rfl
    split
    · unfold isAbsolute
      rw [String.toList_append, List.head?_append_of_ne_nil _ first]
    · unfold isAbsolute
      rw [String.toList_append, String.toList_append, List.append_assoc,
        List.head?_append_of_ne_nil _ first]

end FilePath

theorem FileTree.target_join (tree : FileTree) (directory : String) {name : String}
    (isName : FilePath.IsName name) :
    tree.target (FilePath.join directory name) = tree.target directory ++ [name] := by
  unfold target start
  rw [FilePath.steps_join directory isName, FilePath.isAbsolute_join directory isName,
    FilePath.destination_append]
  rfl

end KernelStore
