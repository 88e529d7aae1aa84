import KernelStore.Proofs.FileTree.Parents
import KernelStore.Proofs.Store.Lookups
import KernelStore.Proofs.Store.Persistence

/-!
A kernel's two files are written both or neither, at any directory and name. Main statement: a
success leaves exactly the new pair, a fault of the kernel leaves everything as it was, and a fault
of the files leaves neither of the two; no other file changes.
-/

namespace KernelStore

/-- No file can be read at the path. -/
def FileTree.Lacks (tree : FileTree) (path : String) : Prop :=
  ∀ content, tree.content path ≠ .ok content

theorem FileTree.lacks_discard (tree : FileTree) (path : String) :
    (tree.discard path).Lacks path :=
  tree.discard_not_content path

theorem FileTree.Lacks.discard {tree : FileTree} {path : String} (lacks : tree.Lacks path)
    (other : String) : (tree.discard other).Lacks path := by
  intro content held
  exact lacks content (content_of_discard held)

/-! ### The two paths -/

/-- The files of one name lie in one directory. -/
theorem StoredPaths.exists_endsIn (directory name : String) :
    ∃ parent between stem,
      FilePath.EndsIn (inDirectory directory name).info parent between (stem ++ ".info") ∧
      FilePath.EndsIn (inDirectory directory name).object parent between (stem ++ ".o") := by
  have info : FilePath.IsEnding ".info" := ⟨by decide, 'o', rfl, by decide⟩
  have object : FilePath.IsEnding ".o" := ⟨by decide, 'o', rfl, by decide⟩
  obtain ⟨parent, between, stem, ends⟩ := FilePath.exists_endsIn (FilePath.join directory name)
  refine ⟨parent, between, stem, ?_, ?_⟩
  · unfold inDirectory
    rw [FilePath.join_append directory name info]
    exact ends ".info" info
  · unfold inDirectory
    rw [FilePath.join_append directory name object]
    exact ends ".o" object

theorem StoredPaths.target_apart (files : FileTree) (directory name : String) :
    files.target (inDirectory directory name).info ≠
      files.target (inDirectory directory name).object := by
  obtain ⟨parent, between, stem, info, object⟩ := exists_endsIn directory name
  rw [files.target_endsIn info, files.target_endsIn object]
  intro same
  have letters := congrArg String.toList (List.singleton_inj.mp (List.append_cancel_left same))
  rw [String.toList_append, String.toList_append] at letters
  exact absurd (List.append_cancel_left letters) (by decide)

/-! ### Faults -/

namespace Persist

variable {files after : FileTree} {disk : Disk} {paths : StoredPaths} {info image : Content}
  {fault : PersistFault}

/-- If the way to a file cannot be cleared, no path that ends there leads anywhere. -/
theorem clear_error {path other directory name otherName : String} {between : List FilePath.Step}
    (ends : FilePath.EndsIn path directory between name)
    (alsoEnds : FilePath.EndsIn other directory between otherName)
    (cleared : clear files path = (.error fault, after)) :
    (∃ reason, fault = .file directory reason) ∧ after.Lacks other := by
  unfold clear at cleared
  rw [ends.parent] at cleared
  dsimp only at cleared
  cases made : files.makeDirectories directory with
  | mk outcome middle =>
      rw [made] at cleared
      cases outcome with
      | ok done => cases cleared
      | error reason =>
          cases cleared
          refine ⟨⟨reason, rfl⟩, ?_⟩
          intro content held
          obtain ⟨⟨_, _, reaches⟩, _⟩ := FileTree.content_eq_ok_iff.mp held
          exact FileTree.not_place_of_makeDirectories alsoEnds made _ reaches.placed

theorem create_error (created : create files disk paths info image = (.error fault, after)) :
    ∃ path reason, fault = .file path reason := by
  unfold create at created
  split at created
  · cases created
    exact ⟨_, _, rfl⟩
  · split at created
    · cases created
      exact ⟨_, _, rfl⟩
    · cases created

/-- When replacing the two files fails, at whichever step, neither is left. -/
theorem replace_error {directory infoName objectName : String} {between : List FilePath.Step}
    (infoEnds : FilePath.EndsIn paths.info directory between infoName)
    (objectEnds : FilePath.EndsIn paths.object directory between objectName)
    (replaced : replace files disk paths info image = (.error fault, after)) :
    (∃ path reason, fault = .file path reason) ∧
      after.Lacks paths.info ∧ after.Lacks paths.object := by
  cases replacing replaced with
  | infoBlocked infoCleared =>
      obtain ⟨named, infoLacks⟩ := clear_error infoEnds infoEnds infoCleared
      obtain ⟨_, objectLacks⟩ := clear_error infoEnds objectEnds infoCleared
      exact ⟨⟨_, named⟩, infoLacks, objectLacks⟩
  | objectBlocked infoCleared objectCleared =>
      obtain ⟨named, infoLacks⟩ := clear_error objectEnds infoEnds objectCleared
      obtain ⟨_, objectLacks⟩ := clear_error objectEnds objectEnds objectCleared
      exact ⟨⟨_, named⟩, infoLacks, objectLacks⟩
  | undone infoCleared objectCleared created =>
      exact ⟨create_error created, (FileTree.lacks_discard _ _).discard _,
        FileTree.lacks_discard _ _⟩

/-- What the result of writing says of the two files. -/
def Leaves (files : FileTree) (paths : StoredPaths) (lease : Lease) (metadata : Metadata)
    (after : FileTree) : Except PersistFault Unit → Prop
  | .ok () => lease.isFixed = true ∧ ∃ info,
      metadata.encode (UInt64.ofNat lease.address) lease.content = .ok info ∧
        after.read paths.info = .ok info ∧ after.read paths.object = .ok lease.bytes
  | .error .notFixed => after = files
  | .error (.tooLarge _) => after = files
  | .error (.file _ _) => after.Lacks paths.info ∧ after.Lacks paths.object

theorem write_leaves (files : FileTree) (disk : Disk) (directory name : String) (lease : Lease)
    (metadata : Metadata) :
    Leaves files (.inDirectory directory name) lease metadata
      (write files disk (.inDirectory directory name) lease metadata).2
      (write files disk (.inDirectory directory name) lease metadata).1 := by
  obtain ⟨parent, between, stem, infoEnds, objectEnds⟩ := StoredPaths.exists_endsIn directory name
  have apart := StoredPaths.target_apart files directory name
  generalize StoredPaths.inDirectory directory name = paths at infoEnds objectEnds apart ⊢
  cases written : write files disk paths lease metadata with
  | mk result after =>
      cases result with
      | ok done =>
          rcases write_cases apart written with ⟨_, isFixed, info, encoded, replaced⟩ |
            ⟨fault, same, _⟩
          · refine ⟨isFixed, info, encoded, ?_, ?_⟩
            · exact FileTree.read_eq_ok_iff.mpr ⟨_, replaced.info, Content.bytes_ofBytes info⟩
            · exact FileTree.read_eq_ok_iff.mpr ⟨_, replaced.object, rfl⟩
          · cases same
      | error fault =>
          unfold write at written
          split at written
          · cases encoded : metadata.encode (UInt64.ofNat lease.address) lease.content with
            | error reason =>
                rw [encoded] at written
                cases written
                rfl
            | ok info =>
                rw [encoded] at written
                obtain ⟨⟨path, reason, rfl⟩, lacks⟩ := replace_error infoEnds objectEnds written
                exact lacks
          · cases written
            rfl

/-- Whatever comes of writing, the two files are the new pair, or as they were, or both gone, as the
result says, and every other file is as it was. The mapping is only read. -/
theorem write_all_or_nothing (files : FileTree) (disk : Disk) (directory name : String)
    (lease : Lease) (metadata : Metadata) :
    let paths := StoredPaths.inDirectory directory name
    let (result, after) := write files disk paths lease metadata
    Leaves files paths lease metadata after result ∧
      (∀ place, place ≠ files.target paths.info → place ≠ files.target paths.object →
        after.contentAt? place = files.contentAt? place) ∧
      ∀ path content, files.target path ≠ files.target paths.info →
        files.target path ≠ files.target paths.object →
        files.content path = .ok content → after.content path = .ok content := by
  have leaves := write_leaves files disk directory name lease metadata
  have apart := StoredPaths.target_apart files directory name
  dsimp only
  generalize StoredPaths.inDirectory directory name = paths at leaves apart ⊢
  cases written : write files disk paths lease metadata with
  | mk result after =>
      rw [written] at leaves
      have beside : files.Extends after ∧
          ∀ place, place ≠ files.target paths.info → place ≠ files.target paths.object →
            after.contentAt? place = files.contentAt? place := by
        rcases write_cases apart written with ⟨_, _, _, _, replaced⟩ | ⟨_, _, lost⟩
        · exact ⟨replaced.grown, replaced.others⟩
        · refine ⟨lost.grown, ?_⟩
          intro place notInfo notObject
          rcases lost.contents place with same | ⟨member, _⟩
          · exact same
          · simp [notInfo, notObject] at member
      refine ⟨leaves, beside.2, ?_⟩
      intro path content notInfo notObject held
      exact beside.1.content held (beside.2 _ notInfo notObject)

end Persist

end KernelStore
