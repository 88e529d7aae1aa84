import Mathlib
import KernelStore.FileTree

/-!
What the files of a tree hold, location by location. Putting a file, removing one and making an
empty directory each change the content at one location at most, and take no directory away.
-/

namespace KernelStore

namespace Entry

theorem at?_append (entry : Entry) (front rest : Location) :
    entry.at? (front ++ rest) = (entry.at? front).bind (·.at? rest) := by
  induction front generalizing entry with
  | nil => rfl
  | cons name inner ih =>
      rw [List.cons_append, at?, at?, Option.bind_assoc]
      congr 1
      funext below
      exact ih below

/-- Nothing lies below what is no directory. -/
theorem at?_below {entry : Entry} {location rest : Location}
    (plain : entry.isDirectoryAt location = false) (below : rest ≠ []) :
    entry.at? (location ++ rest) = none := by
  rw [at?_append]
  unfold isDirectoryAt at plain
  cases found : entry.at? location with
  | none => rfl
  | some there =>
      cases there with
      | directory held => simp [found, isDirectory] at plain
      | file content =>
          cases rest with
          | nil => exact absurd rfl below
          | cons name inner => simp [at?, entries]

theorem isDirectoryAt_of_append {entry : Entry} {front rest : Location}
    (there : entry.isDirectoryAt (front ++ rest) = true) : entry.isDirectoryAt front = true := by
  cases rest with
  | nil => rwa [List.append_nil] at there
  | cons name inner =>
      by_contra plain
      have nothing := at?_below (Bool.eq_false_of_not_eq_true plain) (List.cons_ne_nil name inner)
      rw [isDirectoryAt, nothing] at there
      cases there

/-- An entry with nothing in it. -/
def IsLeaf (new : Option Entry) : Prop := ∀ entry, new = some entry → entry.entries = []

theorem IsLeaf.at?_eq_none {new : Option Entry} (leaf : IsLeaf new) {rest : Location}
    (below : rest ≠ []) : new.bind (·.at? rest) = none := by
  cases new with
  | none => rfl
  | some entry =>
      cases rest with
      | nil => exact absurd rfl below
      | cons name inner => simp [at?, leaf entry rfl]

section

variable {entry : Entry} {new : Option Entry} {directory : Location} {name : String}

/-- Either a place is the one where something was put, or nothing is or was there, or putting did
not reach it. -/
theorem put_cases (there : entry.isDirectoryAt directory = true) (leaf : IsLeaf new)
    (plain : entry.isDirectoryAt (directory ++ [name]) = false) (place : Location) :
    (place = directory ++ [name] ∧
      (entry.put new (directory ++ [name])).at? place = new) ∨
    (place ≠ directory ++ [name] ∧ entry.at? place = none ∧
      (entry.put new (directory ++ [name])).at? place = none) ∨
    (place ≠ directory ++ [name] ∧ ¬(directory ++ [name]) <+: place) := by
  by_cases under : (directory ++ [name]) <+: place
  · obtain ⟨rest, rfl⟩ := under
    have landed := at?_put entry new directory name rest there
    rw [List.append_assoc, List.singleton_append]
    cases rest with
    | nil =>
        left
        refine ⟨rfl, ?_⟩
        rw [landed]
        cases new <;> rfl
    | cons next inner =>
        right
        left
        have below := at?_below plain (List.cons_ne_nil next inner)
        rw [List.append_assoc, List.singleton_append] at below
        refine ⟨by simp, below, ?_⟩
        rw [landed]
        exact leaf.at?_eq_none (List.cons_ne_nil next inner)
  · right
    right
    refine ⟨?_, under⟩
    intro same
    subst same
    exact under (List.prefix_refl _)

theorem contentAt?_put_leaf (there : entry.isDirectoryAt directory = true) (leaf : IsLeaf new)
    (plain : entry.isDirectoryAt (directory ++ [name]) = false) (place : Location) :
    (entry.put new (directory ++ [name])).contentAt? place =
      if place = directory ++ [name] then new.bind content? else entry.contentAt? place := by
  rcases put_cases there leaf plain place with ⟨same, landed⟩ | ⟨other, before, after⟩ |
    ⟨other, beside⟩
  · rw [if_pos same, contentAt?, landed]
  · rw [if_neg other, contentAt?, contentAt?, before, after]
  · rw [if_neg other, contentAt?_put _ _ _ _ beside]

theorem isDirectoryAt_put_leaf (there : entry.isDirectoryAt directory = true) (leaf : IsLeaf new)
    (plain : entry.isDirectoryAt (directory ++ [name]) = false) (place : Location) :
    (entry.put new (directory ++ [name])).isDirectoryAt place =
      if place = directory ++ [name] then new.any isDirectory
      else entry.isDirectoryAt place := by
  rcases put_cases there leaf plain place with ⟨same, landed⟩ | ⟨other, before, after⟩ |
    ⟨other, beside⟩
  · rw [if_pos same, isDirectoryAt, landed]
  · rw [if_neg other, isDirectoryAt, isDirectoryAt, before, after]
  · rw [if_neg other, isDirectoryAt_put _ _ _ _ beside]

end

end Entry

namespace FileTree

/-- The content of the file at a location. -/
def contentAt? (tree : FileTree) (location : Location) : Option Content :=
  tree.root.contentAt? location

/-- No directory is gone, and paths still start where they did. -/
structure Extends (before after : FileTree) : Prop where
  directories : ∀ location, before.isDirectory location = true →
    after.isDirectory location = true
  start : after.workingDirectory = before.workingDirectory

theorem Extends.refl (tree : FileTree) : tree.Extends tree := ⟨fun _ there => there, rfl⟩

theorem Extends.trans {first second third : FileTree} (early : first.Extends second)
    (late : second.Extends third) : first.Extends third :=
  ⟨fun location there => late.directories location (early.directories location there),
    late.start.trans early.start⟩

variable {tree : FileTree} {directory : Location} {name : String}

theorem root_set (tree : FileTree) (location : Location) (entry : Entry) :
    (tree.set location entry).root = tree.root.put entry location := by
  cases location with
  | nil => rfl
  | cons first rest => cases rest <;> rfl

theorem root_erase (tree : FileTree) (location : Location) :
    (tree.erase location).root = tree.root.put none location := by
  cases location with
  | nil => rfl
  | cons first rest => cases rest <;> rfl

theorem isDirectory_of_append {front rest : Location}
    (there : tree.isDirectory (front ++ rest) = true) : tree.isDirectory front = true :=
  Entry.isDirectoryAt_of_append there

theorem isDirectory_dropLast {location : Location} (there : tree.isDirectory location = true) :
    tree.isDirectory location.dropLast = true := by
  by_cases empty : location = []
  · rw [empty]
    rfl
  · rw [← List.dropLast_append_getLast empty] at there
    exact isDirectory_of_append there

theorem not_isDirectory_of_entryAt? {location : Location}
    (free : tree.entryAt? location = none) : tree.isDirectory location = false := by
  unfold isDirectory Entry.isDirectoryAt
  unfold entryAt? at free
  rw [free]
  rfl

theorem not_isDirectory_of_file {location : Location} {content : Content}
    (found : tree.entryAt? location = some (.file content)) :
    tree.isDirectory location = false := by
  unfold isDirectory Entry.isDirectoryAt
  unfold entryAt? at found
  rw [found]
  rfl

theorem isDirectory_of_entryAt? {location : Location} {held : List (String × Entry)}
    (found : tree.entryAt? location = some (.directory held)) :
    tree.isDirectory location = true := by
  unfold isDirectory Entry.isDirectoryAt
  unfold entryAt? at found
  rw [found]
  rfl

theorem contentAt?_of_directory {location : Location} {held : List (String × Entry)}
    (found : tree.entryAt? location = some (.directory held)) :
    tree.contentAt? location = none := by
  unfold contentAt? Entry.contentAt?
  unfold entryAt? at found
  rw [found]
  rfl

theorem contentAt?_of_entryAt? {location : Location} {content : Content}
    (found : tree.entryAt? location = some (.file content)) :
    tree.contentAt? location = some content := by
  unfold contentAt? Entry.contentAt?
  unfold entryAt? at found
  rw [found]
  rfl

theorem contentAt?_of_absent {location : Location} (free : tree.entryAt? location = none) :
    tree.contentAt? location = none := by
  unfold contentAt? Entry.contentAt?
  unfold entryAt? at free
  rw [free]
  rfl

theorem entryAt?_of_contentAt? {location : Location} {content : Content}
    (held : tree.contentAt? location = some content) :
    tree.entryAt? location = some (.file content) := by
  cases found : tree.entryAt? location with
  | none =>
      rw [contentAt?_of_absent found] at held
      cases held
  | some entry =>
      cases entry with
      | directory inside =>
          rw [contentAt?_of_directory found] at held
          cases held
      | file other =>
          rw [contentAt?_of_entryAt? found] at held
          cases held
          rfl

/-! ### One location -/

section

variable {after : FileTree} {new : Option Entry}

theorem contentAt?_of_put (root : after.root = tree.root.put new (directory ++ [name]))
    (there : tree.isDirectory directory = true)
    (plain : tree.isDirectory (directory ++ [name]) = false) (leaf : Entry.IsLeaf new)
    (place : Location) :
    after.contentAt? place =
      if place = directory ++ [name] then new.bind Entry.content? else tree.contentAt? place := by
  unfold contentAt?
  rw [root]
  exact Entry.contentAt?_put_leaf there leaf plain place

theorem isDirectory_of_put (root : after.root = tree.root.put new (directory ++ [name]))
    (there : tree.isDirectory directory = true)
    (plain : tree.isDirectory (directory ++ [name]) = false) (leaf : Entry.IsLeaf new)
    (place : Location) :
    after.isDirectory place =
      if place = directory ++ [name] then new.any Entry.isDirectory
      else tree.isDirectory place := by
  unfold isDirectory
  rw [root]
  exact Entry.isDirectoryAt_put_leaf there leaf plain place

theorem extends_of_put (root : after.root = tree.root.put new (directory ++ [name]))
    (start : after.workingDirectory = tree.workingDirectory)
    (there : tree.isDirectory directory = true)
    (plain : tree.isDirectory (directory ++ [name]) = false) (leaf : Entry.IsLeaf new) :
    tree.Extends after := by
  refine ⟨?_, start⟩
  intro location held
  have different : location ≠ directory ++ [name] := by
    intro same
    subst same
    rw [plain] at held
    cases held
  rw [isDirectory_of_put root there plain leaf location, if_neg different]
  exact held

end

theorem contentAt?_set (there : tree.isDirectory directory = true)
    (plain : tree.isDirectory (directory ++ [name]) = false) (content : Content)
    (place : Location) :
    (tree.set (directory ++ [name]) (.file content)).contentAt? place =
      if place = directory ++ [name] then some content else tree.contentAt? place := by
  refine contentAt?_of_put (root_set _ _ _) there plain ?_ place
  intro _ same
  cases same
  rfl

theorem extends_set (there : tree.isDirectory directory = true)
    (plain : tree.isDirectory (directory ++ [name]) = false) {entry : Entry}
    (empty : entry.entries = []) : tree.Extends (tree.set (directory ++ [name]) entry) := by
  apply extends_of_put (root_set _ _ _) rfl there plain
  intro _ same
  cases same
  exact empty

theorem contentAt?_erase (there : tree.isDirectory directory = true)
    (plain : tree.isDirectory (directory ++ [name]) = false) (place : Location) :
    (tree.erase (directory ++ [name])).contentAt? place =
      if place = directory ++ [name] then none else tree.contentAt? place := by
  refine contentAt?_of_put (root_erase _ _) there plain ?_ place
  intro _ same
  cases same

theorem extends_erase (there : tree.isDirectory directory = true)
    (plain : tree.isDirectory (directory ++ [name]) = false) :
    tree.Extends (tree.erase (directory ++ [name])) := by
  apply extends_of_put (root_erase _ _) rfl there plain
  intro _ same
  cases same

/-- No directory is made where something is removed. -/
theorem extends_of_erase (there : tree.isDirectory directory = true)
    (plain : tree.isDirectory (directory ++ [name]) = false) :
    (tree.erase (directory ++ [name])).Extends tree := by
  refine ⟨?_, rfl⟩
  intro location held
  rw [isDirectory_of_put (root_erase _ _) there plain (by simp [Entry.IsLeaf]) location] at held
  split at held
  · cases held
  · exact held

theorem contentAt?_makeDirectory (there : tree.isDirectory directory = true)
    (free : tree.entryAt? (directory ++ [name]) = none) (place : Location) :
    (tree.set (directory ++ [name]) (.directory [])).contentAt? place =
      tree.contentAt? place := by
  rw [contentAt?_of_put (root_set _ _ _) there (not_isDirectory_of_entryAt? free)]
  · split
    · rename_i same
      rw [same, contentAt?_of_absent free]
      rfl
    · rfl
  · intro _ same
    cases same
    rfl

end FileTree

end KernelStore
