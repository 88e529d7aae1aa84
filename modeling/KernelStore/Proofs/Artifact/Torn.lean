import KernelStore.Proofs.Artifact.FileLayout

/-!
Metadata files that were cut off, and files with more behind them. Main statement: whatever is
missing at the end of a file that was written, reading it fails for that reason and no other;
whatever follows, reading yields what it would without.
-/

namespace KernelStore

theorem SectionFound.append {header : Header} {file : Bytes} {metadata : Metadata} {part : Section}
    (found : SectionFound header file metadata part) (extra : Bytes) :
    SectionFound header (file ++ extra) metadata part where
  itemSize := found.itemSize
  count := found.count
  aligned := found.aligned
  behindHeader := found.behindHeader
  inside := by
    rw [List.length_append]
    exact Nat.le_trans found.inside (Nat.le_add_right _ _)
  content := by
    obtain ⟨behind, content⟩ := found.content
    have start := Nat.le_trans (header.offset_le_sectionStop part) found.inside
    refine ⟨behind ++ extra, ?_⟩
    rw [InfoFile.fromSection, List.drop_append_of_le_length start]
    change InfoFile.fromSection header file part ++ extra = _
    rw [content, List.append_assoc]

namespace Metadata

theorem parse_take_short {file : Bytes} {size : Nat} (short : size < Header.size) :
    InfoFile.parse (file.take size) = .error .tooSmall := by
  unfold InfoFile.parse
  cases read : Header.reading (file.take size) with
  | none => rfl
  | some result =>
      have enough := (Header.reading_eq_some_iff.mp read).1
      rw [List.length_take] at enough
      omega

namespace Fits

variable {metadata : Metadata} (fits : metadata.Fits) (address : UInt64) (image : Content)

include fits

theorem parse_append (extra : Bytes) :
    InfoFile.parse (metadata.fileFor address image ++ extra) =
      InfoFile.parse (metadata.fileFor address image) := by
  rw [parse_fileFor fits, fileFor, List.append_assoc]
  apply parse_of_found fits
  intro part
  rw [← List.append_assoc]
  exact (fits.sectionFound address image part).append extra

/-- The last section has the end of the file in it, so something is missing of some section. -/
theorem exists_torn {size : Nat} (torn : size < (metadata.fileFor address image).length) :
    ∃ part, (Section.all.find? fun part =>
      size < (metadata.headerFor address image).sectionStop part) = some part := by
  apply Option.isSome_iff_exists.mp
  rw [List.find?_isSome]
  refine ⟨.functions, Section.mem_all .functions, ?_⟩
  rw [fits.sectionStop_functions]
  exact decide_eq_true torn

theorem parse_take {size : Nat} (enough : Header.size ≤ size) {part : Section}
    (torn : size < (metadata.fileFor address image).length)
    (first : (Section.all.find? fun part =>
      size < (metadata.headerFor address image).sectionStop part) = some part) :
    InfoFile.parse ((metadata.fileFor address image).take size) = .error (.outOfBounds part) := by
  have cut : (metadata.fileFor address image).take size =
      (metadata.headerFor address image).encode ++
        (metadata.bytesFrom metadata.pool Header.size Section.all).take (size - Header.size) := by
    rw [fileFor, List.take_append, Header.length_encode, List.take_of_length_le]
    rw [Header.length_encode]
    exact enough
  have length : ((metadata.fileFor address image).take size).length = size := by
    rw [List.length_take, Nat.min_eq_left (Nat.le_of_lt torn)]
  rw [cut] at length ⊢
  simp only [InfoFile.parse, Header.reading_encode]
  rw [length, check_headerFor_size (fits.sectionFound address image), first]
  rfl

end Fits

/-- Of a file that was written no proper part at its beginning is read: one that is shorter than the
header is too small, and of a longer one the first section that is not all there lies outside. What
is behind the file is passed over. -/
theorem torn_is_told (metadata : Metadata) (address : UInt64) (image : Content) (file : Bytes)
    (written : metadata.encode address image = .ok file) :
    (∀ size < file.length,
      (size < 140 → InfoFile.parse (file.take size) = .error .tooSmall) ∧
      (140 ≤ size → ∃ part,
        (Section.all.find? fun part => size < (Header.of file).sectionStop part) = some part ∧
          InfoFile.parse (file.take size) = .error (.outOfBounds part))) ∧
    ∀ extra, InfoFile.parse (file ++ extra) = InfoFile.parse file := by
  obtain ⟨fits, rfl⟩ := (metadata.encode_eq_ok_iff address image file).mp written
  refine ⟨?_, fits.parse_append address image⟩
  intro size torn
  refine ⟨parse_take_short, ?_⟩
  intro enough
  obtain ⟨part, first⟩ := fits.exists_torn address image torn
  rw [of_fileFor]
  exact ⟨part, first, fits.parse_take address image enough torn first⟩

/-- A cut through the gap behind the names, and one through the last section with anything in it. -/
theorem torn_is_told_of_repeatedNames :
    ∃ file, repeatedNames.encode 0x600000000000 (.ofBytes [1, 2, 3]) = .ok file ∧
      InfoFile.parse (file.take 139) = .error .tooSmall ∧
      InfoFile.parse (file.take 186) = .error (.outOfBounds .dependencies) ∧
      InfoFile.parse (file.take 255) = .error (.outOfBounds .kernels) ∧
      InfoFile.parse (file ++ [0]) = InfoFile.parse file := by
  have written := encode_repeatedNames 0x600000000000 (.ofBytes [1, 2, 3])
  have length : (repeatedNames.fileFor 0x600000000000 (.ofBytes [1, 2, 3])).length = 256 := by
    decide +kernel
  obtain ⟨torn, behind⟩ := torn_is_told _ _ _ _ written
  have gap := (torn 186 (by rw [length]; decide)).2 (by decide)
  have last := (torn 255 (by rw [length]; decide)).2 (by decide)
  obtain ⟨inGap, isInGap, gap⟩ := gap
  obtain ⟨inLast, isInLast, last⟩ := last
  have firstInGap : some .dependencies = some inGap := by
    rw [← isInGap]
    decide +kernel
  have firstInLast : some .kernels = some inLast := by
    rw [← isInLast]
    decide +kernel
  cases firstInGap
  cases firstInLast
  exact ⟨_, written, (torn 139 (by rw [length]; decide)).1 (by decide), gap, last, behind [0]⟩

end Metadata

end KernelStore
