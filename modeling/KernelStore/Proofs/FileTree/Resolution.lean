import KernelStore.Proofs.Fallible
import KernelStore.Proofs.FileTree.Contents

/-!
Where paths lead. With no links in a tree the location of a path can be read off its steps, whatever
is there; what is there only decides whether the way is open. A way that is open stays open while
directories are only added.
-/

namespace KernelStore

/-- The location that steps describe. -/
def FilePath.destination (location : Location) : List FilePath.Step → Location
  | [] => location
  | .here :: rest => destination location rest
  | .up :: rest => destination location.dropLast rest
  | .down name :: rest => destination (location ++ [name]) rest

theorem FilePath.destination_append (location : Location) (front rest : List FilePath.Step) :
    destination location (front ++ rest) = destination (destination location front) rest := by
  induction front generalizing location with
  | nil => rfl
  | cons step inner ih => cases step <;> exact ih _

namespace FileTree

def Place.location : Place → Location
  | .entry parent name _ => parent ++ [name]
  | .directory there => there

/-- The directory that has to be there for the place to be reached. -/
def Place.base : Place → Location
  | .entry parent _ _ => parent
  | .directory there => there

variable {tree after : FileTree} {location last : Location} {path name : String}

/-- The location of a path. -/
def target (tree : FileTree) (path : String) : Location :=
  FilePath.destination (tree.start path) (FilePath.steps path)

theorem named_eq_ok_iff {directory : Location} :
    named directory name = .ok location ↔
      name.utf8ByteSize ≤ nameLimit ∧ location = directory ++ [name] := by
  unfold named
  split
  · rename_i long
    simp [Nat.not_le.mpr long]
  · rename_i short
    simp [Nat.not_lt.mp short, eq_comm]

theorem entryNamed_eq_ok_iff {directory : Location} {entry : Entry} :
    tree.entryNamed directory name = .ok (location, entry) ↔
      name.utf8ByteSize ≤ nameLimit ∧ location = directory ++ [name] ∧
        tree.entryAt? location = some entry := by
  unfold entryNamed
  rw [bind_eq_ok_iff]
  constructor
  · rintro ⟨place, short, found⟩
    obtain ⟨fits, rfl⟩ := named_eq_ok_iff.mp short
    cases held : tree.entryAt? (directory ++ [name]) with
    | none =>
        rw [held] at found
        cases found
    | some there =>
        rw [held] at found
        cases found
        exact ⟨fits, rfl, held⟩
  · rintro ⟨fits, rfl, held⟩
    refine ⟨directory ++ [name], named_eq_ok_iff.mpr ⟨fits, rfl⟩, ?_⟩
    rw [held]
    rfl

/-! ### Ways -/

theorem advance_down_eq_ok_iff {next : Location} :
    tree.advance location (.down name) = .ok next ↔
      name.utf8ByteSize ≤ nameLimit ∧ next = location ++ [name] ∧
        (tree.entryAt? next).isSome = true := by
  change (tree.entryNamed location name).map (·.1) = .ok next ↔ _
  cases entered : tree.entryNamed location name with
  | ok found =>
      obtain ⟨place, entry⟩ := found
      obtain ⟨fits, rfl, held⟩ := entryNamed_eq_ok_iff.mp entered
      constructor
      · intro same
        cases same
        exact ⟨fits, rfl, by rw [held]; rfl⟩
      · rintro ⟨_, rfl, _⟩
        rfl
  | error fault =>
      constructor
      · intro same
        cases same
      · rintro ⟨fits, rfl, present⟩
        obtain ⟨entry, held⟩ := Option.isSome_iff_exists.mp present
        have found := entryNamed_eq_ok_iff.mpr ⟨fits, rfl, held⟩
        rw [entered] at found
        cases found

/-- A step that succeeds leads where it says. -/
theorem advance_destination {step : FilePath.Step} {next : Location}
    (advanced : tree.advance location step = .ok next) :
    next = FilePath.destination location [step] := by
  cases step with
  | here => exact (Except.ok.inj advanced).symm
  | up => exact (Except.ok.inj advanced).symm
  | down name => exact (advance_down_eq_ok_iff.mp advanced).2.1

theorem follow_cons_eq_ok_iff {step : FilePath.Step} {rest : List FilePath.Step} :
    tree.follow location (step :: rest) = .ok last ↔
      tree.isDirectory location = true ∧ ∃ next, tree.advance location step = .ok next ∧
        tree.follow next rest = .ok last := by
  rw [follow]
  by_cases there : tree.isDirectory location = true
  · rw [if_pos there]
    cases tree.advance location step <;> simp [there]
  · rw [if_neg there]
    simp [there]

theorem follow_nil_eq_ok_iff :
    tree.follow location [] = .ok last ↔ tree.isDirectory location = true ∧ last = location := by
  rw [follow]
  by_cases there : tree.isDirectory location = true <;> simp [there, eq_comm]

theorem follow_start {steps : List FilePath.Step}
    (walked : tree.follow location steps = .ok last) : tree.isDirectory location = true := by
  cases steps with
  | nil => exact (follow_nil_eq_ok_iff.mp walked).1
  | cons step rest => exact (follow_cons_eq_ok_iff.mp walked).1

theorem follow_destination {steps : List FilePath.Step}
    (walked : tree.follow location steps = .ok last) :
    last = FilePath.destination location steps ∧ tree.isDirectory last = true := by
  induction steps generalizing location with
  | nil =>
      obtain ⟨there, rfl⟩ := follow_nil_eq_ok_iff.mp walked
      exact ⟨rfl, there⟩
  | cons step rest ih =>
      obtain ⟨_, next, advanced, further⟩ := follow_cons_eq_ok_iff.mp walked
      obtain ⟨same, there⟩ := ih further
      refine ⟨?_, there⟩
      rw [same, advance_destination advanced, ← FilePath.destination_append, List.singleton_append]

theorem isSome_entryAt?_of_isDirectory (there : tree.isDirectory location = true) :
    (tree.entryAt? location).isSome = true := by
  cases found : tree.entryAt? location with
  | some entry => rfl
  | none =>
      rw [not_isDirectory_of_entryAt? found] at there
      cases there

theorem Extends.advance (grown : tree.Extends after) {step : FilePath.Step} {next : Location}
    (advanced : tree.advance location step = .ok next) (there : tree.isDirectory next = true) :
    after.advance location step = .ok next := by
  cases step with
  | here => exact advanced
  | up => exact advanced
  | down name =>
      obtain ⟨fits, same, _⟩ := advance_down_eq_ok_iff.mp advanced
      have kept := isSome_entryAt?_of_isDirectory (grown.directories next there)
      exact advance_down_eq_ok_iff.mpr ⟨fits, same, kept⟩

theorem Extends.follow (grown : tree.Extends after) {steps : List FilePath.Step}
    (walked : tree.follow location steps = .ok last) :
    after.follow location steps = .ok last := by
  induction steps generalizing location with
  | nil =>
      obtain ⟨there, rfl⟩ := follow_nil_eq_ok_iff.mp walked
      exact follow_nil_eq_ok_iff.mpr ⟨grown.directories _ there, rfl⟩
  | cons step rest ih =>
      obtain ⟨there, next, advanced, further⟩ := follow_cons_eq_ok_iff.mp walked
      exact follow_cons_eq_ok_iff.mpr ⟨grown.directories _ there, next,
        grown.advance advanced (follow_start further), ih further⟩

/-! ### Places -/

theorem place_eq_ok_iff {found : Place} :
    tree.place path = .ok found ↔
      pathFault? path = none ∧
      ∃ front, tree.follow (tree.start path) (FilePath.steps path).dropLast = .ok front ∧
        found = match (FilePath.steps path).getLast? with
          | some (.down name) => .entry front name (FilePath.isClosed path)
          | some .up => .directory front.dropLast
          | some .here | none => .directory front := by
  unfold place
  dsimp only
  cases pathFault? path with
  | some fault => simp
  | none =>
      dsimp only
      cases tree.follow (tree.start path) (FilePath.steps path).dropLast with
      | error fault => simp
      | ok front =>
          simp only [Except.ok.injEq, true_and, exists_eq_left']
          cases (FilePath.steps path).getLast? with
          | none => simp [eq_comm]
          | some step => cases step <;> simp [eq_comm]

theorem Extends.place (grown : tree.Extends after) {found : Place}
    (placed : tree.place path = .ok found) : after.place path = .ok found := by
  obtain ⟨sound, front, walked, same⟩ := place_eq_ok_iff.mp placed
  have start : after.start path = tree.start path := by
    unfold FileTree.start
    rw [grown.start]
  exact place_eq_ok_iff.mpr ⟨sound, front, start ▸ grown.follow walked, same⟩

theorem place_target {found : Place} (placed : tree.place path = .ok found) :
    found.location = tree.target path ∧ tree.isDirectory found.base = true := by
  obtain ⟨_, front, walked, same⟩ := place_eq_ok_iff.mp placed
  obtain ⟨reached, there⟩ := follow_destination walked
  unfold target
  cases steps : FilePath.steps path using List.reverseRec with
  | nil =>
      rw [steps] at same reached
      rw [same]
      exact ⟨reached, there⟩
  | append_singleton inner step =>
      rw [steps, List.getLast?_concat] at same
      rw [steps, List.dropLast_concat] at reached
      rw [FilePath.destination_append, ← reached]
      cases step with
      | here =>
          rw [same]
          exact ⟨rfl, there⟩
      | up =>
          rw [same]
          exact ⟨rfl, isDirectory_dropLast there⟩
      | down name =>
          rw [same]
          exact ⟨rfl, there⟩

theorem find_eq_ok {entry : Entry} (found : tree.find path = .ok (location, entry)) :
    location = tree.target path ∧ tree.entryAt? location = some entry := by
  unfold find at found
  cases placed : tree.place path with
  | error fault =>
      rw [placed] at found
      cases found
  | ok place =>
      rw [placed] at found
      cases place with
      | directory there =>
          dsimp only at found
          cases held : tree.entryAt? there with
          | none =>
              rw [held] at found
              cases found
          | some inside =>
              rw [held] at found
              cases found
              exact ⟨(place_target placed).1, held⟩
      | entry directory name closed =>
          dsimp only at found
          cases named : tree.entryNamed directory name with
          | error fault =>
              rw [named] at found
              cases found
          | ok result =>
              obtain ⟨there, inside⟩ := result
              rw [named] at found
              dsimp only at found
              split at found
              · cases found
              · cases found
                obtain ⟨_, same, held⟩ := entryNamed_eq_ok_iff.mp named
                exact ⟨same.trans (place_target placed).1, held⟩

end FileTree

end KernelStore
