import KernelStore.Proofs.FileTree.Resolution

/-!
What the calls that persisting makes do to the contents of a tree: making directories changes none,
and making or removing a file changes the one its path leads to, if the way there is open.
-/

namespace KernelStore.FileTree

variable {tree after : FileTree} {path : String}

/-- The way to a path is open, and a file could be there. -/
structure Reaches (tree : FileTree) (path : String) (directory : Location) (name : String) :
    Prop where
  placed : tree.place path = .ok (.entry directory name false)
  short : name.utf8ByteSize ≤ nameLimit

section

variable {directory : Location} {name : String}

theorem Reaches.target (reaches : tree.Reaches path directory name) :
    tree.target path = directory ++ [name] :=
  (place_target reaches.placed).1.symm

theorem Reaches.there (reaches : tree.Reaches path directory name) :
    tree.isDirectory directory = true :=
  (place_target reaches.placed).2

theorem Reaches.find {entry : Entry} (reaches : tree.Reaches path directory name)
    (held : tree.entryAt? (directory ++ [name]) = some entry) :
    tree.find path = .ok (directory ++ [name], entry) := by
  have entered : tree.entryNamed directory name = .ok (directory ++ [name], entry) :=
    entryNamed_eq_ok_iff.mpr ⟨reaches.short, rfl, held⟩
  unfold FileTree.find
  rw [reaches.placed]
  dsimp only
  rw [entered]
  rfl

theorem Extends.reaches (grown : tree.Extends after) (reaches : tree.Reaches path directory name) :
    after.Reaches path directory name :=
  ⟨grown.place reaches.placed, reaches.short⟩

end

theorem Extends.target (grown : tree.Extends after) (path : String) :
    after.target path = tree.target path := by
  unfold FileTree.target FileTree.start
  rw [grown.start]

/-! ### Reading a file -/

theorem find_file {location : Location} {content : Content}
    (found : tree.find path = .ok (location, .file content)) :
    ∃ directory name, tree.Reaches path directory name ∧ location = directory ++ [name] ∧
      tree.entryAt? location = some (.file content) := by
  have held := (find_eq_ok found).2
  unfold find at found
  cases placed : tree.place path with
  | error fault =>
      rw [placed] at found
      cases found
  | ok place =>
      rw [placed] at found
      cases place with
      | directory there =>
          dsimp only at found
          cases inside : tree.entryAt? there with
          | none =>
              rw [inside] at found
              cases found
          | some entry =>
              rw [inside] at found
              cases found
              have isDirectory := (place_target placed).2
              rw [Place.base, not_isDirectory_of_file held] at isDirectory
              cases isDirectory
      | entry directory name closed =>
          dsimp only at found
          cases named : tree.entryNamed directory name with
          | error fault =>
              rw [named] at found
              cases found
          | ok result =>
              obtain ⟨there, inside⟩ := result
              obtain ⟨short, same, _⟩ := entryNamed_eq_ok_iff.mp named
              rw [named] at found
              dsimp only at found
              split at found
              · cases found
              · rename_i passed
                cases found
                cases closed with
                | true => exact absurd rfl passed
                | false => exact ⟨directory, name, ⟨placed, short⟩, same, held⟩

/-- A path leads to a file just if the way there is open and a file is at its end. -/
theorem content_eq_ok_iff {content : Content} :
    tree.content path = .ok content ↔
      (∃ directory name, tree.Reaches path directory name) ∧
        tree.contentAt? (tree.target path) = some content := by
  unfold FileTree.content
  constructor
  · intro held
    cases found : tree.find path with
    | error fault =>
        rw [found] at held
        cases held
    | ok result =>
        obtain ⟨location, entry⟩ := result
        rw [found] at held
        cases entry with
        | directory inside => cases held
        | file content =>
            cases held
            obtain ⟨directory, name, reaches, rfl, there⟩ := find_file found
            refine ⟨⟨directory, name, reaches⟩, ?_⟩
            rw [reaches.target]
            exact contentAt?_of_entryAt? there
  · rintro ⟨⟨directory, name, reaches⟩, held⟩
    rw [reaches.target] at held
    rw [reaches.find (entryAt?_of_contentAt? held)]

theorem Extends.content {content : Content} (grown : tree.Extends after)
    (held : tree.content path = .ok content)
    (same : after.contentAt? (tree.target path) = tree.contentAt? (tree.target path)) :
    after.content path = .ok content := by
  obtain ⟨⟨directory, name, reaches⟩, there⟩ := content_eq_ok_iff.mp held
  refine content_eq_ok_iff.mpr ⟨⟨directory, name, grown.reaches reaches⟩, ?_⟩
  rw [grown.target, same]
  exact there

/-! ### Making a file -/

theorem createNew_eq_ok {content : Content} (made : tree.createNew path content = .ok after) :
    ∃ directory name, tree.Reaches path directory name ∧
      tree.entryAt? (directory ++ [name]) = none ∧
      after = tree.set (directory ++ [name]) (.file content) := by
  unfold createNew at made
  cases placed : tree.place path with
  | error fault =>
      rw [placed] at made
      cases made
  | ok place =>
      rw [placed] at made
      cases place with
      | directory there => cases made
      | entry directory name closed =>
          dsimp only at made
          cases closed with
          | true => cases made
          | false =>
              cases location : named directory name with
              | error fault =>
                  rw [location] at made
                  cases made
              | ok there =>
                  rw [location] at made
                  obtain ⟨short, rfl⟩ := named_eq_ok_iff.mp location
                  simp only [Bool.false_eq_true, if_false] at made
                  cases held : tree.entryAt? (directory ++ [name]) with
                  | some entry =>
                      rw [held] at made
                      cases made
                  | none =>
                      rw [held] at made
                      cases made
                      exact ⟨directory, name, ⟨placed, short⟩, held, rfl⟩

/-- A file was made where there was nothing. -/
structure Creates (tree : FileTree) (path : String) (content : Content) (after : FileTree) :
    Prop where
  reaches : ∃ directory name, tree.Reaches path directory name
  grown : tree.Extends after
  contents : ∀ place, after.contentAt? place =
    if place = tree.target path then some content else tree.contentAt? place

theorem createNew_creates {content : Content} (made : tree.createNew path content = .ok after) :
    tree.Creates path content after := by
  obtain ⟨directory, name, reaches, free, rfl⟩ := createNew_eq_ok made
  have plain := not_isDirectory_of_entryAt? free
  refine ⟨⟨directory, name, reaches⟩, extends_set reaches.there plain rfl, ?_⟩
  rw [reaches.target]
  exact contentAt?_set reaches.there plain content

theorem Creates.content {content : Content} (created : tree.Creates path content after) :
    after.content path = .ok content := by
  obtain ⟨directory, name, reaches⟩ := created.reaches
  refine content_eq_ok_iff.mpr ⟨⟨directory, name, created.grown.reaches reaches⟩, ?_⟩
  rw [created.grown.target, created.contents, if_pos rfl]

/-- Either nothing was made, or a file with all the content or with what the disk took of it. -/
theorem createAndWrite_cases {disk : Disk} {content : Content} {result : Except FileError Unit}
    (outcome : tree.createAndWrite disk path content = (result, after)) :
    (result = .ok () ∧ tree.Creates path content after) ∨
    (∃ fault, result = .error fault ∧ (after = tree ∨ ∃ taken, tree.Creates path taken after)) := by
  unfold createAndWrite at outcome
  cases refused : disk.refusal? path content with
  | none =>
      rw [refused] at outcome
      dsimp only at outcome
      cases made : tree.createNew path content with
      | error fault =>
          rw [made] at outcome
          cases outcome
          exact Or.inr ⟨fault, rfl, Or.inl rfl⟩
      | ok changed =>
          rw [made] at outcome
          cases outcome
          exact Or.inl ⟨rfl, createNew_creates made⟩
  | some refusal =>
      rw [refused] at outcome
      dsimp only at outcome
      cases made : tree.createNew path (content.take refusal.1) with
      | error fault =>
          rw [made] at outcome
          cases outcome
          exact Or.inr ⟨fault, rfl, Or.inl rfl⟩
      | ok changed =>
          rw [made] at outcome
          cases outcome
          exact Or.inr ⟨_, rfl, Or.inr ⟨_, createNew_creates made⟩⟩

/-! ### Removing a file -/

/-- No file is at the path, and all directories and all other contents are as before. -/
structure Removes (tree : FileTree) (path : String) (after : FileTree) : Prop where
  grown : tree.Extends after
  shrunk : after.Extends tree
  contents : ∀ place, after.contentAt? place =
    if place = tree.target path then none else tree.contentAt? place

theorem unlink_removes (removed : tree.unlink path = .ok after) : tree.Removes path after := by
  unfold unlink at removed
  cases found : tree.find path with
  | error fault =>
      rw [found] at removed
      cases removed
  | ok result =>
      obtain ⟨location, entry⟩ := result
      rw [found] at removed
      cases entry with
      | directory held => cases removed
      | file content =>
          cases removed
          obtain ⟨directory, name, reaches, rfl, held⟩ := find_file found
          have plain := not_isDirectory_of_file held
          refine ⟨extends_erase reaches.there plain, extends_of_erase reaches.there plain, ?_⟩
          rw [reaches.target]
          exact contentAt?_erase reaches.there plain

theorem discard_cases (tree : FileTree) (path : String) :
    tree.discard path = tree ∨ tree.Removes path (tree.discard path) := by
  unfold discard
  cases removed : tree.unlink path with
  | error fault => exact Or.inl rfl
  | ok after => exact Or.inr (unlink_removes removed)

theorem removes_of_absent (nothing : tree.contentAt? (tree.target path) = none) :
    tree.Removes path (tree.discard path) := by
  rcases discard_cases tree path with same | removed
  · rw [same]
    refine ⟨.refl tree, .refl tree, ?_⟩
    intro place
    split
    · rename_i here
      rw [here, nothing]
    · rfl
  · exact removed

/-- Where the way is open, a file that is there is removed. -/
theorem Reaches.discard {directory : Location} {name : String}
    (reaches : tree.Reaches path directory name) : tree.Removes path (tree.discard path) := by
  cases held : tree.entryAt? (directory ++ [name]) with
  | some entry =>
      cases entry with
      | file content =>
          have removed : tree.unlink path = .ok (tree.erase (directory ++ [name])) := by
            unfold unlink
            rw [reaches.find held]
          unfold FileTree.discard
          rw [removed]
          exact unlink_removes removed
      | directory inside =>
          have nothing := contentAt?_of_directory held
          rw [← reaches.target] at nothing
          exact removes_of_absent nothing
  | none =>
      have nothing := contentAt?_of_absent held
      rw [← reaches.target] at nothing
      exact removes_of_absent nothing

/-- After a path was discarded it leads to no file. -/
theorem discard_not_content (tree : FileTree) (path : String) (content : Content) :
    (tree.discard path).content path ≠ .ok content := by
  intro held
  have removed : tree.Removes path (tree.discard path) := by
    rcases discard_cases tree path with same | removed
    · rw [same] at held
      obtain ⟨⟨directory, name, reaches⟩, _⟩ := content_eq_ok_iff.mp held
      exact reaches.discard
    · exact removed
  obtain ⟨_, there⟩ := content_eq_ok_iff.mp held
  rw [removed.grown.target, removed.contents, if_pos rfl] at there
  cases there

/-- Discarding a path opens no way, and adds no file to another. -/
theorem content_of_discard {other : String} {content : Content}
    (held : (tree.discard path).content other = .ok content) :
    tree.content other = .ok content := by
  rcases discard_cases tree path with same | removed
  · rwa [same] at held
  · refine removed.shrunk.content held ?_
    obtain ⟨_, there⟩ := content_eq_ok_iff.mp held
    have before := removed.contents ((tree.discard path).target other)
    rw [there] at before ⊢
    split at before
    · cases before
    · exact before.symm

/-! ### Making directories -/

/-- Directories may have been added, and nothing else. -/
structure Grows (tree after : FileTree) : Prop where
  grown : tree.Extends after
  contents : ∀ place, after.contentAt? place = tree.contentAt? place

theorem Grows.refl (tree : FileTree) : tree.Grows tree := ⟨.refl tree, fun _ => rfl⟩

theorem Grows.trans {middle : FileTree} (early : tree.Grows middle) (late : middle.Grows after) :
    tree.Grows after :=
  ⟨early.grown.trans late.grown, fun place => (late.contents place).trans (early.contents place)⟩

section

variable {directory : Location} {name : String}

theorem grows_makeDirectory (there : tree.isDirectory directory = true)
    (free : tree.entryAt? (directory ++ [name]) = none) :
    tree.Grows (tree.set (directory ++ [name]) (.directory [])) :=
  ⟨extends_set there (not_isDirectory_of_entryAt? free) rfl, contentAt?_makeDirectory there free⟩

theorem made_isDirectory (there : tree.isDirectory directory = true)
    (free : tree.entryAt? (directory ++ [name]) = none) :
    (tree.set (directory ++ [name]) (.directory [])).isDirectory (directory ++ [name]) = true := by
  unfold isDirectory
  rw [root_set, Entry.isDirectoryAt_put_leaf there _ (not_isDirectory_of_entryAt? free), if_pos rfl]
  · rfl
  · intro _ same
    cases same
    rfl

end

theorem makeWay_grows {made : Bool} {location : Location} {steps : List FilePath.Step}
    (there : tree.isDirectory location = true) :
    tree.Grows (tree.makeWay made location steps).2 := by
  induction steps generalizing tree made location with
  | nil => exact .refl tree
  | cons step rest ih =>
      cases step with
      | here => exact ih there
      | up => exact ih (isDirectory_dropLast there)
      | down name =>
          unfold makeWay
          cases short : named location name with
          | error fault => exact .refl tree
          | ok next =>
              obtain ⟨_, rfl⟩ := named_eq_ok_iff.mp short
              dsimp only
              cases held : tree.entryAt? (location ++ [name]) with
              | some entry =>
                  cases entry with
                  | directory inside => exact ih (isDirectory_of_entryAt? held)
                  | file content => exact .refl tree
              | none =>
                  dsimp only
                  split
                  · exact .refl tree
                  · have made := grows_makeDirectory there held
                    exact made.trans (ih (made_isDirectory there held))

theorem makeDirectories_grows (tree : FileTree) (path : String) :
    tree.Grows (tree.makeDirectories path).2 := by
  unfold makeDirectories
  split
  · exact .refl tree
  · cases pathFault? path with
    | some fault => exact .refl tree
    | none =>
        dsimp only
        split
        · rename_i there
          exact makeWay_grows there
        · exact .refl tree

end KernelStore.FileTree
