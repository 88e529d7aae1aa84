import KernelStore.Proofs.FileTree.Changes
import KernelStore.Proofs.FileTree.Paths

/-!
Paths that differ in their endings only. They have one parent, which all of them begin with, so that
where its directories cannot be made none of them leads anywhere (`not_place_of_makeDirectories`).
-/

namespace KernelStore

namespace FilePath

/-- An ending that belongs to a name, and makes it one. -/
structure IsEnding (ending : String) : Prop where
  plain : '/' ∉ ending.toList
  last : ∃ letter, ending.toList.getLast? = some letter ∧ letter ≠ '.'

theorem IsEnding.isName {name ending : String} (isEnding : IsEnding ending)
    (plain : '/' ∉ name.toList) : IsName (name ++ ending) := by
  obtain ⟨letter, ends, other⟩ := isEnding.last
  exact isName_append plain isEnding.plain ends other

/-! ### Stretches -/

theorem plain_of_mem_cut {text stretch : List Char} (member : stretch ∈ cut text) :
    '/' ∉ stretch := by
  induction text generalizing stretch with
  | nil =>
      rw [List.mem_singleton.mp member]
      exact List.not_mem_nil
  | cons letter rest ih =>
      by_cases stroke : letter = '/'
      · subst stroke
        rw [cut_stroke] at member
        rcases List.mem_cons.mp member with rfl | later
        · exact List.not_mem_nil
        · exact ih later
      · obtain ⟨first, others, before, joined⟩ := cut_letter stroke rest
        rw [joined] at member
        rw [before] at ih
        rcases List.mem_cons.mp member with rfl | later
        · have plain := ih List.mem_cons_self
          simp [Ne.symm stroke, plain]
        · exact ih (List.mem_cons_of_mem _ later)

/-- An ending without strokes goes to the last stretch. -/
theorem exists_cut_append (text : List Char) :
    ∃ front stem, ∀ ending, '/' ∉ ending → cut (text ++ ending) = front ++ [stem ++ ending] := by
  induction text with
  | nil => exact ⟨[], [], fun ending plain => cut_plain plain⟩
  | cons letter rest ih =>
      obtain ⟨front, stem, cuts⟩ := ih
      by_cases stroke : letter = '/'
      · subst stroke
        refine ⟨[] :: front, stem, ?_⟩
        intro ending plain
        rw [List.cons_append, cut_stroke, cuts ending plain]
        rfl
      · cases front with
        | nil =>
            refine ⟨[], letter :: stem, ?_⟩
            intro ending plain
            obtain ⟨first, others, before, joined⟩ := cut_letter stroke (rest ++ ending)
            rw [cuts ending plain] at before
            cases before
            exact joined
        | cons head tail =>
            refine ⟨(letter :: head) :: tail, stem, ?_⟩
            intro ending plain
            obtain ⟨first, others, before, joined⟩ := cut_letter stroke (rest ++ ending)
            rw [cuts ending plain] at before
            cases before
            exact joined

theorem cut_eq_splitOn (text : List Char) : cut text = text.splitOn '/' := by
  induction text with
  | nil => rfl
  | cons letter rest ih =>
      by_cases stroke : letter = '/'
      · subst stroke
        rw [cut_stroke, ih]
        simp [List.splitOn, List.splitOnP_cons_eq_if_modifyHead]
      · obtain ⟨first, others, before, joined⟩ := cut_letter stroke rest
        rw [joined]
        rw [ih] at before
        simp only [List.splitOn] at before
        simp [List.splitOn, List.splitOnP_cons_eq_if_modifyHead, stroke, before]

/-- Whatever stretches are joined again, the steps are theirs. -/
theorem stepsOf_cut_intercalate {stretches : List (List Char)}
    (plain : ∀ stretch ∈ stretches, '/' ∉ stretch) :
    stepsOf (cut (['/'].intercalate stretches)) = stepsOf stretches := by
  cases stretches with
  | nil => rfl
  | cons first rest =>
      rw [cut_eq_splitOn, List.splitOn_intercalate _ plain (List.cons_ne_nil first rest)]

theorem intercalate_front (stroke : List Char) (front rest : List (List Char)) :
    stroke.intercalate front <+: stroke.intercalate (front ++ rest) := by
  induction front with
  | nil => exact List.nil_prefix
  | cons first others ih =>
      cases others with
      | nil =>
          cases rest with
          | nil => exact List.prefix_refl _
          | cons next later =>
              rw [List.singleton_append, List.intercalate_cons_cons, List.append_assoc]
              simp
      | cons second more =>
          rw [List.cons_append, List.cons_append, List.intercalate_cons_cons,
            List.intercalate_cons_cons]
          exact (List.prefix_append_right_inj _).mpr ih

theorem intercalate_nil_cons (stroke : List Char) {rest : List (List Char)} (filled : rest ≠ []) :
    stroke.intercalate ([] :: rest) = stroke ++ stroke.intercalate rest := by
  obtain ⟨first, others, rfl⟩ := List.exists_cons_of_ne_nil filled
  exact List.intercalate_cons_cons

theorem trimEnd_split (absolute : Bool) (pieces : List String) :
    ∃ dropped, pieces = dropped ++ trimEnd absolute pieces := by
  fun_induction trimEnd absolute pieces with
  | case1 => exact ⟨[], rfl⟩
  | case2 first => exact ⟨[first], rfl⟩
  | case3 first => exact ⟨[], rfl⟩
  | case4 last before _ _ ih =>
      obtain ⟨dropped, same⟩ := ih
      refine ⟨last :: dropped, ?_⟩
      rw [List.cons_append, ← same]
  | case5 last before => exact ⟨[], rfl⟩

theorem trimEnd_name {absolute : Bool} {name : String} (isName : IsName name)
    (before : List String) : trimEnd absolute (name :: before) = name :: before := by
  cases before <;> simp [trimEnd, isName.notEmpty, isName.notHere]

/-! ### Parents -/

theorem isAbsolute_of_cut {path : String} {front : List (List Char)} {last : List Char}
    (cuts : cut path.toList = front ++ [last]) :
    isAbsolute path = (front.head? == some []) := by
  unfold isAbsolute
  generalize path.toList = text at cuts
  cases text with
  | nil =>
      have single := congrArg List.length cuts
      rw [List.length_append] at single
      rw [List.length_eq_zero_iff.mp (Nat.succ.inj single).symm]
      rfl
  | cons letter rest =>
      by_cases stroke : letter = '/'
      · subst stroke
        rw [cut_stroke] at cuts
        cases front with
        | nil => exact absurd (List.cons.inj cuts).2 (cut_ne_nil rest)
        | cons head tail =>
            rw [← (List.cons.inj cuts).1]
            rfl
      · obtain ⟨first, others, _, joined⟩ := cut_letter stroke rest
        rw [joined] at cuts
        cases front with
        | nil => simp [stroke]
        | cons head tail =>
            rw [← (List.cons.inj cuts).1]
            simp [stroke]

/-- A path ends in a name, behind its parent and what counts for nothing there. -/
structure EndsIn (path directory : String) (between : List Step) (name : String) : Prop where
  parent : parent? path = some directory
  absolute : isAbsolute path = isAbsolute directory
  steps : steps path = steps directory ++ between ++ [.down name]
  front : directory.toList <+: path.toList

/-- The parent of a path with these stretches before its last one, and with a stroke before them if
it is absolute. -/
def parentOf (absolute : Bool) (middle : List (List Char)) : String :=
  (if absolute then "/" else "")
    ++ "/".intercalate (trimEnd absolute (middle.map String.ofList).reverse).reverse

theorem exists_parentOf (absolute : Bool) (middle : List (List Char)) :
    ∃ kept between, middle = kept ++ between ∧
      (parentOf absolute middle).toList =
        (if absolute then ['/'] else []) ++ ['/'].intercalate kept := by
  obtain ⟨dropped, same⟩ := trimEnd_split absolute (middle.map String.ofList).reverse
  refine ⟨(trimEnd absolute (middle.map String.ofList).reverse).reverse.map String.toList,
    dropped.reverse.map String.toList, ?_, ?_⟩
  · rw [← List.map_append, ← List.reverse_append, ← same, List.reverse_reverse, List.map_map]
    simp
  · unfold parentOf
    rw [String.toList_append, String.toList_intercalate]
    cases absolute <;> rfl

section

variable {path name : String} {absolute : Bool} {middle kept between : List (List Char)}

theorem parent?_of_cut (isName : IsName name) (starts : isAbsolute path = absolute)
    (cuts : cut path.toList = (if absolute then [[]] else []) ++ middle ++ [name.toList]) :
    parent? path = some (parentOf absolute middle) := by
  have backwards : reversed path = name :: (middle.map String.ofList).reverse := by
    unfold reversed pieces
    rw [starts, cuts]
    cases absolute <;> simp [trimEnd_name isName]
  unfold parent?
  rw [backwards, starts]
  rfl

theorem endsIn_parentOf (isName : IsName name) (starts : isAbsolute path = absolute)
    (cuts : cut path.toList = (if absolute then [[]] else []) ++ middle ++ [name.toList])
    (split : middle = kept ++ between)
    (text : (parentOf absolute middle).toList =
      (if absolute then ['/'] else []) ++ ['/'].intercalate kept) :
    EndsIn path (parentOf absolute middle) (stepsOf between) name := by
  have parent := parent?_of_cut isName starts cuts
  generalize parentOf absolute middle = directory at parent text
  subst split
  have whole : ['/'].intercalate (cut path.toList) = path.toList := by
    rw [cut_eq_splitOn, List.intercalate_splitOn]
  have plain : ∀ stretch ∈ kept, '/' ∉ stretch := by
    intro stretch member
    have inside : stretch ∈ cut path.toList := by
      rw [cuts]
      simp [member]
    exact plain_of_mem_cut inside
  have front : directory.toList <+: path.toList := by
    rw [text, ← whole, cuts, List.append_assoc, List.append_assoc]
    cases absolute with
    | false => exact intercalate_front _ _ _
    | true =>
        have filled : kept ++ (between ++ [name.toList]) ≠ [] := by simp
        rw [if_pos rfl, if_pos rfl]
        change _ <+: ['/'].intercalate ([] :: (kept ++ (between ++ [name.toList])))
        rw [intercalate_nil_cons _ filled]
        exact (List.prefix_append_right_inj _).mpr (intercalate_front _ _ _)
  refine ⟨parent, ?_, ?_, front⟩
  · -- What the directory begins with, the path begins with.
    obtain ⟨rest, same⟩ := front
    cases letters : directory.toList with
    | nil =>
        rw [letters] at text
        cases absolute with
        | true => cases text
        | false =>
            rw [starts, isAbsolute, letters]
            rfl
    | cons letter others =>
        unfold isAbsolute
        rw [← same, letters]
        rfl
  · have stroke (stretches : List (List Char)) : stepsOf ([] :: stretches) = stepsOf stretches :=
      rfl
    rw [steps_eq, steps_eq, cuts, stepsOf_append, stepsOf_name isName, text]
    cases absolute with
    | false =>
        rw [if_neg Bool.false_ne_true, if_neg Bool.false_ne_true, List.nil_append, List.nil_append,
          stepsOf_cut_intercalate plain, stepsOf_append]
    | true =>
        rw [if_pos rfl, if_pos rfl, List.singleton_append, List.singleton_append, cut_stroke,
          stroke, stroke, stepsOf_cut_intercalate plain, stepsOf_append]

end

/-- Paths that differ in their endings have one parent, and end in names there that differ in the
same way. -/
theorem exists_endsIn (text : String) :
    ∃ directory between stem, ∀ ending, IsEnding ending →
      EndsIn (text ++ ending) directory between (stem ++ ending) := by
  obtain ⟨front, stem, cuts⟩ := exists_cut_append text.toList
  have plain : '/' ∉ stem := by
    have whole := cuts [] List.not_mem_nil
    rw [List.append_nil, List.append_nil] at whole
    apply plain_of_mem_cut
    rw [whole]
    exact List.mem_append_right _ List.mem_cons_self
  -- The stretch before the first stroke of an absolute path is no part of it.
  obtain ⟨absolute, middle, same, starts⟩ : ∃ absolute middle,
      front = (if absolute then [[]] else []) ++ middle ∧
        (front.head? == some []) = absolute := by
    cases first : front.head? == some [] with
    | false => exact ⟨false, front, rfl, rfl⟩
    | true =>
        obtain ⟨middle, same⟩ := List.head?_eq_some_iff.mp (eq_of_beq first)
        exact ⟨true, middle, same, rfl⟩
  obtain ⟨kept, between, split, parent⟩ := exists_parentOf absolute middle
  refine ⟨parentOf absolute middle, stepsOf between, String.ofList stem, ?_⟩
  intro ending isEnding
  have stretches : cut (text ++ ending).toList = front ++ [stem ++ ending.toList] := by
    rw [String.toList_append]
    exact cuts ending.toList isEnding.plain
  refine endsIn_parentOf (isEnding.isName ?_) ?_ ?_ split parent
  · rw [String.toList_ofList]
    exact plain
  · rw [isAbsolute_of_cut stretches, starts]
  · rw [stretches, same, String.toList_append, String.toList_ofList]

/-- A name may be given its ending before or after it is joined to a directory. -/
theorem join_append (directory name : String) {ending : String} (isEnding : IsEnding ending) :
    join directory (name ++ ending) = join directory name ++ ending := by
  have absolute : isAbsolute (name ++ ending) = isAbsolute name := by
    unfold isAbsolute
    rw [String.toList_append]
    cases letters : name.toList with
    | cons letter others => rfl
    | nil =>
        rw [List.nil_append]
        cases first : ending.toList.head? == some '/' with
        | false => rfl
        | true => exact absurd (List.mem_of_head? (eq_of_beq first)) isEnding.plain
  unfold join
  rw [absolute]
  split
  · rfl
  · split
    · rw [String.append_assoc]
    · rw [String.append_assoc, String.append_assoc, String.append_assoc]

end FilePath

namespace FileTree

variable {tree after : FileTree} {location last : Location} {path directory : String}

theorem target_endsIn (tree : FileTree) {name : String} {between : List FilePath.Step}
    (ends : FilePath.EndsIn path directory between name) :
    tree.target path =
      FilePath.destination (tree.start directory) (FilePath.steps directory ++ between)
        ++ [name] := by
  unfold target start
  rw [ends.absolute, ends.steps, FilePath.destination_append]
  rfl

/-! ### Directories that cannot be made -/

theorem follow_front {front rest : List FilePath.Step}
    (walked : tree.follow location (front ++ rest) = .ok last) :
    ∃ middle, tree.follow location front = .ok middle := by
  induction front generalizing location with
  | nil => exact ⟨location, follow_nil_eq_ok_iff.mpr ⟨follow_start walked, rfl⟩⟩
  | cons step inner ih =>
      obtain ⟨there, next, advanced, further⟩ := follow_cons_eq_ok_iff.mp walked
      obtain ⟨middle, reached⟩ := ih further
      exact ⟨middle, follow_cons_eq_ok_iff.mpr ⟨there, next, advanced, reached⟩⟩

/-- A way that could not be made cannot be walked. -/
theorem not_follow_of_makeWay {made : Bool} {steps : List FilePath.Step} {fault : FileError}
    (failed : tree.makeWay made location steps = (.error fault, after)) (last : Location) :
    after.follow location steps ≠ .ok last := by
  intro walked
  induction steps generalizing tree made location with
  | nil => cases failed
  | cons step rest ih =>
      obtain ⟨_, next, advanced, further⟩ := follow_cons_eq_ok_iff.mp walked
      cases step with
      | here =>
          cases advanced
          exact ih failed further
      | up =>
          cases advanced
          exact ih failed further
      | down name =>
          obtain ⟨short, rfl, present⟩ := advance_down_eq_ok_iff.mp advanced
          unfold makeWay at failed
          rw [named_eq_ok_iff.mpr ⟨short, rfl⟩] at failed
          dsimp only at failed
          cases held : tree.entryAt? (location ++ [name]) with
          | some entry =>
              rw [held] at failed
              cases entry with
              | directory inside => exact ih failed further
              | file content =>
                  cases failed
                  cases (follow_start further).symm.trans (not_isDirectory_of_file held)
          | none =>
              rw [held] at failed
              dsimp only at failed
              split at failed
              · cases failed
                rw [held] at present
                cases present
              · exact ih failed further

theorem pathFault?_of_front (front : directory.toList <+: path.toList) (filled : directory ≠ "")
    (sound : pathFault? path = none) : pathFault? directory = none := by
  obtain ⟨rest, same⟩ := front
  have whole : path = directory ++ String.ofList rest := by
    apply String.toList_inj.mp
    rw [String.toList_append, String.toList_ofList, same]
  unfold pathFault? at sound ⊢
  rw [whole, String.toList_append, String.utf8ByteSize_append] at sound
  split at sound
  · cases sound
  rename_i zero
  split at sound
  · cases sound
  split at sound
  · cases sound
  rename_i short
  rw [if_neg, if_neg, if_neg]
  · omega
  · simpa using filled
  · intro inside
    apply zero
    rw [List.contains_iff_mem] at inside ⊢
    exact List.mem_append_left _ inside

/-- Where the parent of a path cannot be made, the path leads nowhere. -/
theorem not_place_of_makeDirectories {name : String} {between : List FilePath.Step}
    {fault : FileError} (ends : FilePath.EndsIn path directory between name)
    (failed : tree.makeDirectories directory = (.error fault, after)) (found : Place) :
    after.place path ≠ .ok found := by
  intro placed
  obtain ⟨sound, front, walked, _⟩ := place_eq_ok_iff.mp placed
  have start : after.start path = after.start directory := by
    unfold FileTree.start
    rw [ends.absolute]
  rw [start, ends.steps, List.dropLast_concat] at walked
  obtain ⟨middle, reached⟩ := follow_front walked
  have grown := (makeDirectories_grows tree directory).grown
  rw [failed] at grown
  have same : after.start directory = tree.start directory := by
    unfold FileTree.start
    rw [grown.start]
  unfold makeDirectories at failed
  split at failed
  · cases failed
  rename_i filled
  rw [pathFault?_of_front ends.front (by simpa using filled) sound] at failed
  dsimp only at failed
  split at failed
  · rw [same] at reached
    exact not_follow_of_makeWay failed middle reached
  · rename_i nowhere
    cases failed
    exact nowhere (follow_start reached)

end FileTree

end KernelStore
