import KernelStore.Proofs.Artifact.Written

/-!
Sections that fill a file. Each begins at the next multiple of four behind the one before, with
zeros in the gap, and the last one ends where the file does. A file that is written is filled like
this from the end of its header on.
-/

namespace KernelStore

/-- Sections that fill a file from a position on. -/
inductive Header.Tiles (header : Header) (file : Bytes) : Nat → List Section → Prop
  | done {position : Nat} (stop : position = file.length) : Tiles header file position []
  | next {position : Nat} {part : Section} {rest : List Section}
      (start : (header.sections.get part).offset.toNat = roundUp position wordAlignment)
      (gap : file.part position (roundUp position wordAlignment - position) =
        Bytes.zeros (roundUp position wordAlignment - position))
      (later : Tiles header file (header.sectionStop part) rest) :
      Tiles header file position (part :: rest)

namespace Header

theorem offset_le_sectionStop (header : Header) (part : Section) :
    (header.sections.get part).offset.toNat ≤ header.sectionStop part := by
  rw [sectionStop, SectionDescriptor.stop, Nat.add_assoc]
  exact Nat.le_add_right _ _

namespace Tiles

variable {header : Header} {file : Bytes} {position : Nat} {parts : List Section}

/-- No section begins before the position. -/
theorem le_offset (tiles : header.Tiles file position parts) :
    ∀ part ∈ parts, position ≤ (header.sections.get part).offset.toNat := by
  induction tiles with
  | done stop => exact nofun
  | @next position part rest start gap later ih =>
      obtain ⟨above, _⟩ := roundUp_word position
      refine List.forall_mem_cons.mpr ⟨start ▸ above, ?_⟩
      intro other listed
      have extent := header.offset_le_sectionStop part
      have behind := ih other listed
      omega

/-- Each section ends before the next one begins. -/
theorem pairwise (tiles : header.Tiles file position parts) :
    parts.Pairwise fun before after =>
      header.sectionStop before ≤ (header.sections.get after).offset.toNat := by
  induction tiles with
  | done stop => exact List.Pairwise.nil
  | next start gap later ih => exact List.Pairwise.cons later.le_offset ih

/-- The last section ends with the file. -/
theorem sectionStop_last {front : List Section} {last : Section}
    (tiles : header.Tiles file position (front ++ [last])) :
    header.sectionStop last = file.length := by
  induction front generalizing position with
  | nil =>
      cases tiles with
      | next start gap later =>
          cases later with
          | done stop => exact stop
  | cons part rest ih =>
      cases tiles with
      | next start gap later => exact ih later

end Tiles

end Header

namespace Metadata

/-- Sections that are written one after another fill the file, if the header has their places. -/
theorem tiles_bytesFrom {metadata : Metadata} {pool : NamePool} {header : Header}
    {parts : List Section} {front : Bytes}
    (offset : ∀ placed ∈ metadata.startsFrom pool front.length parts,
      (header.sections.get placed.1).offset.toNat = placed.2)
    (stop : ∀ placed ∈ metadata.startsFrom pool front.length parts,
      header.sectionStop placed.1 = placed.2 + metadata.sectionSize pool placed.1) :
    header.Tiles (front ++ metadata.bytesFrom pool front.length parts) front.length parts := by
  induction parts generalizing front with
  | nil => exact .done (by rw [bytesFrom, List.append_nil])
  | cons part rest ih =>
      obtain ⟨above, _⟩ := roundUp_word front.length
      obtain ⟨hereStart, laterStart⟩ := List.forall_mem_cons.mp offset
      obtain ⟨hereStop, laterStop⟩ := List.forall_mem_cons.mp stop
      let gap := Bytes.zeros (roundUp front.length wordAlignment - front.length)
      have reached : (front ++ gap ++ metadata.sectionBytes pool part).length =
          roundUp front.length wordAlignment + metadata.sectionSize pool part := by
        rw [List.length_append, List.length_append, Bytes.length_zeros, length_sectionBytes,
          Nat.add_sub_cancel' above]
      have split : front ++ metadata.bytesFrom pool front.length (part :: rest) =
          (front ++ gap ++ metadata.sectionBytes pool part) ++ metadata.bytesFrom pool
            (front ++ gap ++ metadata.sectionBytes pool part).length rest := by
        rw [reached]
        simp only [bytesFrom, gap, List.append_assoc]
      refine .next hereStart ?_ ?_
      · rw [Bytes.part, List.drop_left, bytesFrom, List.append_assoc]
        exact List.take_left' (Bytes.length_zeros _)
      · rw [hereStop, split, ← reached]
        rw [← reached] at laterStart laterStop
        exact ih laterStart laterStop

end Metadata

/-- The sections of a file that is written fill it from the end of the header on. -/
theorem Metadata.Fits.tiles {metadata : Metadata} (fits : metadata.Fits) (address : UInt64)
    (image : Content) :
    (metadata.headerFor address image).Tiles (metadata.fileFor address image) Header.size
      Section.all := by
  have size := (metadata.headerFor address image).length_encode
  rw [Metadata.fileFor, ← size]
  apply tiles_bytesFrom
  · intro placed member
    rw [size] at member
    exact fits.offset_headerFor address image member
  · intro placed member
    rw [size] at member
    exact fits.sectionStop_headerFor address image member

theorem Metadata.Fits.sectionStop_functions {metadata : Metadata} (fits : metadata.Fits)
    (address : UInt64) (image : Content) :
    (metadata.headerFor address image).sectionStop .functions =
      (metadata.fileFor address image).length := by
  have tiles := fits.tiles address image
  have parts : Section.all = Section.all.dropLast ++ [.functions] := rfl
  rw [parts] at tiles
  exact tiles.sectionStop_last

end KernelStore
