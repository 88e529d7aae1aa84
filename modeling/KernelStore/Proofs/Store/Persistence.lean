import KernelStore.Proofs.FileTree.Changes
import KernelStore.Store.Persist

/-!
Replacing two files leaves exactly the new two, or else nothing new: each of the two then holds what
it held before, or is gone.
-/

namespace KernelStore

namespace FileTree

variable {before after : FileTree} {lost : List Location} {path : String}

/-- Files are gone at some of the locations, and all other contents are as before. -/
structure Wears (before : FileTree) (lost : List Location) (after : FileTree) : Prop where
  grown : before.Extends after
  contents : ∀ place, after.contentAt? place = before.contentAt? place ∨
    place ∈ lost ∧ after.contentAt? place = none

theorem Wears.refl (tree : FileTree) (lost : List Location) : tree.Wears lost tree :=
  ⟨.refl tree, fun _ => Or.inl rfl⟩

theorem Wears.trans {middle : FileTree} (early : before.Wears lost middle)
    (late : middle.Wears lost after) : before.Wears lost after := by
  refine ⟨early.grown.trans late.grown, ?_⟩
  intro place
  rcases late.contents place with same | gone
  · rw [same]
    exact early.contents place
  · exact Or.inr gone

theorem Grows.wears (grows : before.Grows after) (lost : List Location) :
    before.Wears lost after :=
  ⟨grows.grown, fun place => Or.inl (grows.contents place)⟩

theorem Removes.wears (removed : before.Removes path after)
    (member : before.target path ∈ lost) : before.Wears lost after := by
  refine ⟨removed.grown, ?_⟩
  intro place
  rw [removed.contents place]
  split
  · rename_i here
    exact Or.inr ⟨here ▸ member, rfl⟩
  · exact Or.inl rfl

theorem wears_discard (member : before.target path ∈ lost) :
    before.Wears lost (before.discard path) := by
  rcases discard_cases before path with same | removed
  · rw [same]
    exact .refl before lost
  · exact removed.wears member

/-- What is made and then discarded has only been lost. -/
theorem Creates.discard {content : Content} (created : before.Creates path content after)
    (member : before.target path ∈ lost) : before.Wears lost (after.discard path) := by
  obtain ⟨directory, name, reaches⟩ := created.reaches
  have removed := (created.grown.reaches reaches).discard
  refine ⟨created.grown.trans removed.grown, ?_⟩
  intro place
  rw [removed.contents place, created.grown.target path]
  split
  · rename_i here
    exact Or.inr ⟨here ▸ member, rfl⟩
  · rename_i other
    rw [created.contents place, if_neg other]
    exact Or.inl rfl

end FileTree

namespace Persist

variable {files after : FileTree} {disk : Disk} {paths : StoredPaths} {info image : Content}
  {result : Except PersistFault Unit} {lost : List Location}

theorem clear_wears {path : String} (cleared : clear files path = (result, after))
    (member : files.target path ∈ lost) : files.Wears lost after := by
  unfold clear at cleared
  cases parent : FilePath.parent? path with
  | none =>
      rw [parent] at cleared
      cases cleared
      exact FileTree.wears_discard member
  | some directory =>
      rw [parent] at cleared
      dsimp only at cleared
      have grows := FileTree.makeDirectories_grows files directory
      cases made : files.makeDirectories directory with
      | mk outcome middle =>
          rw [made] at cleared grows
          cases outcome with
          | error fault =>
              cases cleared
              exact grows.wears lost
          | ok done =>
              cases cleared
              refine (grows.wears lost).trans (FileTree.wears_discard ?_)
              rw [grows.grown.target path]
              exact member

/-- The two files are the new ones, and all other contents are as before. -/
structure Replaced (files : FileTree) (paths : StoredPaths) (info image : Content)
    (after : FileTree) : Prop where
  grown : files.Extends after
  info : after.content paths.info = .ok info
  object : after.content paths.object = .ok image
  others : ∀ place, place ≠ files.target paths.info → place ≠ files.target paths.object →
    after.contentAt? place = files.contentAt? place

theorem Replaced.infoAt (replaced : Replaced files paths info image after) :
    after.contentAt? (files.target paths.info) = some info := by
  rw [← replaced.grown.target]
  exact (FileTree.content_eq_ok_iff.mp replaced.info).2

theorem Replaced.objectAt (replaced : Replaced files paths info image after) :
    after.contentAt? (files.target paths.object) = some image := by
  rw [← replaced.grown.target]
  exact (FileTree.content_eq_ok_iff.mp replaced.object).2

/-- Nothing is new, and only the two files may be gone. -/
def Lost (files : FileTree) (paths : StoredPaths) (after : FileTree) : Prop :=
  files.Wears [files.target paths.info, files.target paths.object] after

theorem Lost.trans {middle : FileTree} (early : Lost files paths middle)
    (late : Lost middle paths after) : Lost files paths after := by
  unfold Lost at late
  rw [early.grown.target, early.grown.target] at late
  exact FileTree.Wears.trans early late

theorem Lost.replaced {middle : FileTree} (early : Lost files paths middle)
    (late : Replaced middle paths info image after) : Replaced files paths info image after := by
  have infoPlace := early.grown.target paths.info
  have objectPlace := early.grown.target paths.object
  refine ⟨early.grown.trans late.grown, late.info, late.object, ?_⟩
  intro place notInfo notObject
  rw [late.others place (by rwa [infoPlace]) (by rwa [objectPlace])]
  rcases early.contents place with same | ⟨member, _⟩
  · exact same
  · simp [notInfo, notObject] at member

/-- Where both files were made, discarding them leaves what was there before. -/
theorem wears_of_created {middle : FileTree} {content : Content}
    (first : files.Creates paths.info info middle)
    (second : middle.Creates paths.object content after) :
    Lost files paths ((after.discard paths.info).discard paths.object) := by
  obtain ⟨infoDirectory, infoName, infoWay⟩ := first.reaches
  obtain ⟨objectDirectory, objectName, objectWay⟩ := second.reaches
  -- The ways on which the files were made are still open, so that removing them does not fail.
  have infoGone := (second.grown.reaches (first.grown.reaches infoWay)).discard
  have objectGone :=
    (infoGone.grown.reaches (second.grown.reaches objectWay)).discard
  have grown := first.grown.trans second.grown
  have infoPlace := grown.target paths.info
  have objectPlace := (grown.trans infoGone.grown).target paths.object
  refine ⟨(grown.trans infoGone.grown).trans objectGone.grown, ?_⟩
  intro place
  rw [objectGone.contents place, infoGone.contents place, infoPlace, objectPlace]
  by_cases isObject : place = files.target paths.object
  · rw [if_pos isObject]
    exact Or.inr ⟨by simp [isObject], rfl⟩
  · rw [if_neg isObject]
    by_cases isInfo : place = files.target paths.info
    · rw [if_pos isInfo]
      exact Or.inr ⟨by simp [isInfo], rfl⟩
    · rw [if_neg isInfo, second.contents place, first.grown.target, if_neg isObject,
        first.contents place, if_neg isInfo]
      exact Or.inl rfl

/-- The two files are made, or what was made of them is lost when both are discarded. -/
theorem create_cases (apart : files.target paths.info ≠ files.target paths.object)
    (created : create files disk paths info image = (result, after)) :
    (result = .ok () ∧ Replaced files paths info image after) ∨
    (∃ fault, result = .error fault ∧
      Lost files paths ((after.discard paths.info).discard paths.object)) := by
  have discarded {tree : FileTree} (worn : Lost files paths tree) :
      Lost files paths (tree.discard paths.object) := by
    refine worn.trans (FileTree.wears_discard ?_)
    rw [worn.grown.target]
    exact List.mem_cons_of_mem _ List.mem_cons_self
  unfold create at created
  cases infoMade : files.createAndWrite disk paths.info info with
  | mk infoResult middle =>
      rw [infoMade] at created
      rcases FileTree.createAndWrite_cases infoMade with ⟨rfl, first⟩ | ⟨fault, rfl, left⟩
      · dsimp only at created
        cases objectMade : middle.createAndWrite disk paths.object image with
        | mk objectResult last =>
            rw [objectMade] at created
            rcases FileTree.createAndWrite_cases objectMade with
              ⟨rfl, second⟩ | ⟨fault, rfl, left⟩
            · cases created
              left
              have infoContent : after.content paths.info = .ok info := by
                refine second.grown.content first.content ?_
                rw [second.contents, first.grown.target, first.grown.target, if_neg apart]
              refine ⟨rfl, first.grown.trans second.grown, infoContent, second.content, ?_⟩
              intro place notInfo notObject
              rw [second.contents, first.grown.target, if_neg notObject, first.contents,
                if_neg notInfo]
            · cases created
              right
              refine ⟨_, rfl, ?_⟩
              rcases left with rfl | ⟨taken, second⟩
              · exact discarded (first.discard List.mem_cons_self)
              · exact wears_of_created first second
      · cases created
        right
        refine ⟨_, rfl, ?_⟩
        rcases left with rfl | ⟨taken, first⟩
        · exact discarded (FileTree.wears_discard List.mem_cons_self)
        · exact discarded (first.discard List.mem_cons_self)

/-- How far replacing two files gets. -/
inductive Replacing (files : FileTree) (disk : Disk) (paths : StoredPaths) (info image : Content) :
    Except PersistFault Unit → FileTree → Prop
  | infoBlocked {fault : PersistFault} {after : FileTree}
      (infoCleared : clear files paths.info = (.error fault, after)) :
      Replacing files disk paths info image (.error fault) after
  | objectBlocked {fault : PersistFault} {first after : FileTree}
      (infoCleared : clear files paths.info = (.ok (), first))
      (objectCleared : clear first paths.object = (.error fault, after)) :
      Replacing files disk paths info image (.error fault) after
  | undone {fault : PersistFault} {first second last : FileTree}
      (infoCleared : clear files paths.info = (.ok (), first))
      (objectCleared : clear first paths.object = (.ok (), second))
      (created : create second disk paths info image = (.error fault, last)) :
      Replacing files disk paths info image (.error fault)
        ((last.discard paths.info).discard paths.object)
  | done {first second after : FileTree}
      (infoCleared : clear files paths.info = (.ok (), first))
      (objectCleared : clear first paths.object = (.ok (), second))
      (created : create second disk paths info image = (.ok (), after)) :
      Replacing files disk paths info image (.ok ()) after

theorem replacing (replaced : replace files disk paths info image = (result, after)) :
    Replacing files disk paths info image result after := by
  unfold replace at replaced
  cases infoCleared : clear files paths.info with
  | mk infoResult first =>
      rw [infoCleared] at replaced
      cases infoResult with
      | error fault =>
          cases replaced
          exact .infoBlocked infoCleared
      | ok done =>
          dsimp only at replaced
          cases objectCleared : clear first paths.object with
          | mk objectResult second =>
              rw [objectCleared] at replaced
              cases objectResult with
              | error fault =>
                  cases replaced
                  exact .objectBlocked infoCleared objectCleared
              | ok done =>
                  dsimp only at replaced
                  cases created : create second disk paths info image with
                  | mk outcome last =>
                      rw [created] at replaced
                      cases outcome with
                      | error fault =>
                          cases replaced
                          exact .undone infoCleared objectCleared created
                      | ok done =>
                          cases replaced
                          exact .done infoCleared objectCleared created

/-- Either the two files are the new ones, or nothing is new. -/
theorem replace_cases (apart : files.target paths.info ≠ files.target paths.object)
    (replaced : replace files disk paths info image = (result, after)) :
    (result = .ok () ∧ Replaced files paths info image after) ∨
    (∃ fault, result = .error fault ∧ Lost files paths after) := by
  have infoWears {outcome : Except PersistFault Unit} {tree : FileTree}
      (cleared : clear files paths.info = (outcome, tree)) : Lost files paths tree :=
    clear_wears cleared List.mem_cons_self
  have objectWears {outcome : Except PersistFault Unit} {first tree : FileTree}
      (infoWorn : Lost files paths first)
      (cleared : clear first paths.object = (outcome, tree)) : Lost files paths tree := by
    refine infoWorn.trans (clear_wears cleared ?_)
    rw [infoWorn.grown.target]
    exact List.mem_cons_of_mem _ List.mem_cons_self
  have stillApart {tree : FileTree} (worn : Lost files paths tree) :
      tree.target paths.info ≠ tree.target paths.object := by
    rwa [worn.grown.target, worn.grown.target]
  cases replacing replaced with
  | infoBlocked infoCleared => exact Or.inr ⟨_, rfl, infoWears infoCleared⟩
  | objectBlocked infoCleared objectCleared =>
      exact Or.inr ⟨_, rfl, objectWears (infoWears infoCleared) objectCleared⟩
  | undone infoCleared objectCleared created =>
      have worn := objectWears (infoWears infoCleared) objectCleared
      rcases create_cases (stillApart worn) created with ⟨impossible, _⟩ | ⟨_, _, lost⟩
      · cases impossible
      · exact Or.inr ⟨_, rfl, Lost.trans worn lost⟩
  | done infoCleared objectCleared created =>
      have worn := objectWears (infoWears infoCleared) objectCleared
      rcases create_cases (stillApart worn) created with ⟨_, made⟩ | ⟨_, impossible, _⟩
      · exact Or.inl ⟨rfl, Lost.replaced worn made⟩
      · cases impossible

theorem write_cases {lease : Lease} {metadata : Metadata}
    (apart : files.target paths.info ≠ files.target paths.object)
    (written : write files disk paths lease metadata = (result, after)) :
    (result = .ok () ∧ lease.isFixed = true ∧ ∃ file,
      metadata.encode (UInt64.ofNat lease.address) lease.content = .ok file ∧
        Replaced files paths (.ofBytes file) lease.content after) ∨
    (∃ fault, result = .error fault ∧ Lost files paths after) := by
  unfold write at written
  split at written
  · rename_i isFixed
    cases encoded : metadata.encode (UInt64.ofNat lease.address) lease.content with
    | error fault =>
        rw [encoded] at written
        cases written
        exact Or.inr ⟨_, rfl, .refl files _⟩
    | ok file =>
        rw [encoded] at written
        rcases replace_cases apart written with ⟨done, replaced⟩ | failed
        · exact Or.inl ⟨done, isFixed, file, rfl, replaced⟩
        · exact Or.inr failed
  · cases written
    exact Or.inr ⟨_, rfl, .refl files _⟩

end Persist

end KernelStore
