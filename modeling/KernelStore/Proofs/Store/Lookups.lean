import KernelStore.Proofs.FileTree.Changes
import KernelStore.Proofs.Slot.Leasing
import KernelStore.Store.Lookup

/-!
What a lookup that succeeds has read: a metadata file that could be parsed and records the wanted
dependencies, and an object file that fills the slot it was made for.
-/

namespace KernelStore

namespace FileTree

variable {tree : FileTree} {path : String}

theorem read_eq_ok_iff {bytes : Bytes} :
    tree.read path = .ok bytes ↔
      ∃ content, tree.content path = .ok content ∧ content.bytes = bytes := by
  unfold FileTree.read
  cases tree.content path <;> simp [Except.map]

theorem openFile_eq_ok_iff {content : Content} :
    tree.openFile path = .ok (.file content) ↔ tree.content path = .ok content := by
  unfold openFile FileTree.content
  cases tree.find path with
  | error fault => simp [Except.map]
  | ok result =>
      obtain ⟨location, entry⟩ := result
      cases entry <;> simp [Except.map]

end FileTree

namespace Wanted

theorem differingField?_eq_none_iff {wanted found : Dependency} :
    differingField? wanted found = none ↔ wanted = found := by
  obtain ⟨name, kind, digest⟩ := wanted
  obtain ⟨otherName, otherKind, otherDigest⟩ := found
  unfold differingField?
  by_cases names : name = otherName
  · by_cases kinds : kind = otherKind
    · by_cases digests : digest = otherDigest <;> simp [names, kinds, digests]
    · simp [names, kinds]
  · simp [names]

theorem firstDifference?_eq_none_iff {index : Nat} {wanted found : List Dependency}
    (length : found.length = wanted.length) :
    firstDifference? index wanted found = none ↔ wanted = found := by
  induction wanted generalizing index found with
  | nil =>
      cases found with
      | nil => simp [firstDifference?]
      | cons head tail => cases length
  | cons first rest ih =>
      cases found with
      | nil => cases length
      | cons head tail =>
          have shorter : tail.length = rest.length := Nat.succ.inj length
          unfold firstDifference?
          cases differs : differingField? first head with
          | none =>
              rw [differingField?_eq_none_iff] at differs
              simp only [differs, List.cons.injEq, true_and]
              exact ih shorter
          | some field =>
              have different : first ≠ head := by
                intro same
                subst same
                rw [differingField?_eq_none_iff.mpr rfl] at differs
                cases differs
              simp [different]

/-- A kernel is the wanted one just if it was built from the wanted dependencies, in their order,
and for the wanted precision, if there is one. -/
theorem difference?_eq_none_iff {wanted : Wanted} {metadata : Metadata} :
    wanted.difference? metadata = none ↔
      metadata.dependencies = wanted.dependencies ∧
        ∀ required, wanted.precision = some required → metadata.precision = required := by
  unfold difference?
  by_cases length : metadata.dependencies.length = wanted.dependencies.length
  · rw [if_neg (not_not.mpr length)]
    cases differs : firstDifference? 0 wanted.dependencies metadata.dependencies with
    | some reason =>
        have different : metadata.dependencies ≠ wanted.dependencies := by
          intro same
          rw [(firstDifference?_eq_none_iff length).mpr same.symm] at differs
          cases differs
        simp [different]
    | none =>
        have same := (firstDifference?_eq_none_iff length).mp differs
        cases wanted.precision with
        | none => simp [same]
        | some required => simp [same]
  · have different : metadata.dependencies ≠ wanted.dependencies := by
      intro same
      exact length (congrArg List.length same)
    rw [if_pos length]
    simp [different]

end Wanted

namespace Lookup

variable {files : FileTree} {memory after : Memory} {placement : Placement} {table : SlotTable}
  {paths : StoredPaths} {wanted : Wanted}

theorem check_eq_ok_iff {content : Except FileError Bytes} {info : InfoFile} :
    check content wanted = .ok info ↔
      ∃ file, content = .ok file ∧ InfoFile.parse file = .ok info ∧
        wanted.difference? info.metadata = none := by
  unfold check
  cases content with
  | error fault => simp
  | ok file =>
      cases parsed : InfoFile.parse file with
      | error fault => simp [parsed]
      | ok read =>
          cases differs : wanted.difference? read.metadata with
          | some reason =>
              simp only [differs, Except.ok.injEq, exists_eq_left', parsed, reduceCtorEq, false_iff]
              rintro ⟨rfl, same⟩
              rw [differs] at same
              cases same
          | none =>
              simp only [differs, Except.ok.injEq, exists_eq_left', parsed]
              constructor
              · intro same
                subst same
                exact ⟨rfl, differs⟩
              · exact And.left

/-- The image that is mapped is the start of the object file. -/
theorem map_eq_ok_iff {header : Header} {lease : Lease} :
    map files memory placement table paths header = .ok (lease, after) ↔
      ∃ image, files.content paths.object = .ok image ∧
        header.imageSize.toNat = table.layout.slotSize ∧ table.layout.slotSize ≤ image.size ∧
        memory.allocateFile placement table header.imageAddress.toNat (.regular image) 0 =
          .ok (lease, after) := by
  unfold map
  dsimp only
  constructor
  · intro mapped
    split at mapped
    · cases mapped
    split at mapped
    · cases mapped
    rename_i size
    cases opening : files.openFile paths.object with
    | error fault =>
        rw [opening] at mapped
        cases mapped
    | ok entry =>
        rw [opening] at mapped
        dsimp only at mapped
        split at mapped
        · cases mapped
        rename_i enough
        have allocated : memory.allocateFile placement table header.imageAddress.toNat
            (opened files entry).1 0 = .ok (lease, after) := by
          cases outcome : memory.allocateFile placement table header.imageAddress.toNat
              (opened files entry).1 0 with
          | ok leased =>
              rw [outcome] at mapped
              cases mapped
              rfl
          | error fault =>
              rw [outcome] at mapped
              cases fault <;> cases mapped
        obtain ⟨_, _, _, image, _, _, regular, _⟩ :=
          Memory.allocateFile_eq_ok_iff.mp allocated
        cases entry with
        | directory inside => cases regular
        | file content =>
            cases regular
            refine ⟨image, FileTree.openFile_eq_ok_iff.mp opening, not_not.mp size, ?_, allocated⟩
            rw [← not_not.mp size]
            exact Nat.not_lt.mp enough
  · rintro ⟨image, content, size, enough, allocated⟩
    obtain ⟨_, _, index, _, slot, _⟩ := Memory.allocateFile_eq_ok_iff.mp allocated
    rw [slot, FileTree.openFile_eq_ok_iff.mpr content, size]
    simp only [Option.isNone_some, Bool.false_eq_true, if_false, ne_eq, not_true_eq_false, opened,
      if_neg (Nat.not_lt.mpr enough), allocated]

/-- A kernel is found just if the metadata file can be read and records what is wanted, and the
object file can be mapped into the slot that it names and has the recorded parity there. -/
theorem load_eq_ok_iff {found : Found} :
    load files memory placement table paths wanted = (.ok found, after) ↔
      ∃ file image, files.read paths.info = .ok file ∧
        InfoFile.parse file = .ok ⟨found.header, found.metadata⟩ ∧
        wanted.difference? found.metadata = none ∧ files.content paths.object = .ok image ∧
        found.header.imageSize.toNat = table.layout.slotSize ∧
        table.layout.slotSize ≤ image.size ∧
        memory.allocateFile placement table found.header.imageAddress.toNat (.regular image) 0 =
          .ok (found.lease, after) ∧
        found.lease.content.hasParity found.header.checksum = true := by
  unfold load
  constructor
  · intro loaded
    cases checked : checkFiles files paths wanted with
    | error miss =>
        rw [checked] at loaded
        cases loaded
    | ok info =>
        rw [checked] at loaded
        dsimp only at loaded
        obtain ⟨file, read, parsed, same⟩ := check_eq_ok_iff.mp checked
        cases mapping : map files memory placement table paths info.header with
        | error reason =>
            rw [mapping] at loaded
            cases loaded
        | ok leased =>
            obtain ⟨lease, memory⟩ := leased
            rw [mapping] at loaded
            dsimp only at loaded
            split at loaded
            · rename_i parity
              cases loaded
              obtain ⟨image, object, size, enough, allocated⟩ := map_eq_ok_iff.mp mapping
              exact ⟨file, image, read, parsed, same, object, size, enough, allocated, parity⟩
            · cases loaded
  · rintro ⟨file, image, read, parsed, same, object, size, enough, allocated, parity⟩
    have checked : checkFiles files paths wanted = .ok ⟨found.header, found.metadata⟩ :=
      check_eq_ok_iff.mpr ⟨file, read, parsed, same⟩
    have mapped := map_eq_ok_iff.mpr ⟨image, object, size, enough, allocated⟩
    rw [checked]
    dsimp only
    rw [mapped]
    dsimp only
    rw [if_pos parity]

/-- A miss takes a lease at most when the image is mapped, and drops it again. -/
theorem load_error {miss : Miss}
    (missed : load files memory placement table paths wanted = (.error miss, after)) :
    memory.Recovers placement table after ∧ (miss.stage ≠ .checksumValidated → after = memory) := by
  unfold load at missed
  cases checked : checkFiles files paths wanted with
  | error early =>
      rw [checked] at missed
      cases missed
      exact ⟨.whole, fun _ => rfl⟩
  | ok info =>
      rw [checked] at missed
      dsimp only at missed
      cases mapping : map files memory placement table paths info.header with
      | error reason =>
          rw [mapping] at missed
          cases missed
          exact ⟨.whole, fun _ => rfl⟩
      | ok leased =>
          obtain ⟨lease, held⟩ := leased
          rw [mapping] at missed
          dsimp only at missed
          split at missed
          · cases missed
          · -- The mapping has the wrong parity.
            cases missed
            obtain ⟨_, _, _, _, allocated⟩ := map_eq_ok_iff.mp mapping
            have granted := Memory.allocateFile_grants allocated
            exact ⟨granted.gains.drop granted.owner placement, fun other => absurd rfl other⟩

/-- A kernel that is found comes from a metadata file and an object file as they are, and lies in
the slot that the metadata names. -/
theorem load_eq_ok {found : Found}
    (loaded : load files memory placement table paths wanted = (.ok found, after)) :
    ∃ info image, files.contentAt? (files.target paths.info) = some info ∧
      InfoFile.parse info.bytes = .ok ⟨found.header, found.metadata⟩ ∧
      found.metadata.dependencies = wanted.dependencies ∧
      files.contentAt? (files.target paths.object) = some image ∧
      found.header.imageSize.toNat = table.layout.slotSize ∧
      table.layout.slotSize ≤ image.size ∧
      memory.allocateFile placement table found.header.imageAddress.toNat (.regular image) 0 =
        .ok (found.lease, after) := by
  obtain ⟨_, image, read, parsed, same, object, size, enough, allocated, _⟩ :=
    load_eq_ok_iff.mp loaded
  obtain ⟨info, held, rfl⟩ := FileTree.read_eq_ok_iff.mp read
  exact ⟨info, image, (FileTree.content_eq_ok_iff.mp held).2, parsed,
    (Wanted.difference?_eq_none_iff.mp same).1, (FileTree.content_eq_ok_iff.mp object).2, size,
    enough, allocated⟩

end Lookup

end KernelStore
