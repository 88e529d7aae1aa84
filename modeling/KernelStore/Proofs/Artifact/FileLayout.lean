import KernelStore.Proofs.Artifact.Acceptance
import KernelStore.Proofs.Artifact.RoundTrip
import KernelStore.Proofs.Artifact.Tiling

/-!
The bytes of a metadata file. Main statement: in a file that is written each byte belongs to the
header, a record, a name or a gap, and where each of them stands and what it is follows from the
metadata alone.
-/

namespace KernelStore

open InfoFormat

/-- The names in a file are those that are used, each once and in the order of first use; their
bytes follow each other, a zero byte behind each. -/
structure InfoFormat.PoolsNames (header : Header) (file : Bytes) (used : List String) : Prop where
  distinct : (namesOf header file).Nodup
  mem_iff : ∀ name, name ∈ namesOf header file ↔ name ∈ used
  order : (namesOf header file).Pairwise fun first second =>
    used.idxOf first < used.idxOf second
  count : header.records .names = used.toFinset.card
  entry : ∀ index name, (namesOf header file)[index]? = some name →
    ∃ offset length, (entriesOf header file)[index]? = some (offset, length) ∧
      offset.toNat =
        (((namesOf header file).take index).map fun name => name.utf8ByteSize + 1).sum ∧
      length.toNat = name.utf8ByteSize
  data : nameData header file = (namesOf header file).flatMap fun name => Utf8.encode name ++ [0]
  size : header.nameDataSize.toNat = (nameData header file).length

/-- A section has as many records as the metadata has items, and they are the bytes from its offset
on, with the data of names behind their entries. -/
structure InfoFormat.HoldsRecords (header : Header) (file : Bytes) (metadata : Metadata)
    (part : Section) : Prop where
  itemSize : (header.sections.get part).itemSize = part.itemSize
  count : header.records part = metadata.count metadata.pool part
  bytes : file.part (header.sections.get part).offset.toNat (header.extent part) =
    metadata.sectionBytes metadata.pool part

/-- A header says what it has to of an image with metadata. -/
structure Header.Describes (header : Header) (metadata : Metadata) (address : UInt64)
    (image : Content) : Prop where
  magic : header.magic = currentMagic
  version : header.version = currentVersion
  host : header.host = .current
  imageAddress : header.imageAddress = address
  imageSize : header.imageSize = UInt64.ofNat image.size
  checksum : header.checksum = Parity.parity image.bytes
  flags : header.flags = metadata.flags

namespace Metadata

theorem headerFor_describes (metadata : Metadata) (address : UInt64) (image : Content) :
    (metadata.headerFor address image).Describes metadata address image where
  magic := rfl
  version := rfl
  host := rfl
  imageAddress := rfl
  imageSize := rfl
  checksum := image.parity_eq
  flags := rfl

theorem of_fileFor (metadata : Metadata) (address : UInt64) (image : Content) :
    Header.of (metadata.fileFor address image) = metadata.headerFor address image := by
  have read := (metadata.headerFor address image).reading_encode
    (metadata.bytesFrom metadata.pool Header.size Section.all)
  obtain ⟨_, same, _⟩ := Header.reading_eq_some_iff.mp read
  exact same.symm

theorem take_fileFor (metadata : Metadata) (address : UInt64) (image : Content) :
    (metadata.fileFor address image).take Header.size =
      (metadata.headerFor address image).encode :=
  List.take_left' (Header.length_encode _)

namespace Fits

variable {metadata : Metadata} (fits : metadata.Fits) (address : UInt64) (image : Content)

include fits

theorem places (part : Section) :
    (metadata.headerFor address image).Places (metadata.fileFor address image).length part := by
  have checked := check_headerFor (fits.sectionFound address image)
  obtain ⟨_, _, _, places⟩ := Header.check_eq_ok_iff.mp checked
  exact places part

theorem extent_headerFor (part : Section) :
    (metadata.headerFor address image).extent part =
      metadata.sectionSize metadata.pool part := by
  have count := (fits.sectionFound address image part).count
  rw [Header.extent, Header.records, count, fits.nameDataSize_headerFor, sectionSize]

theorem holdsRecords (part : Section) :
    HoldsRecords (metadata.headerFor address image) (metadata.fileFor address image) metadata
      part := by
  have found := fits.sectionFound address image part
  obtain ⟨behind, content⟩ := found.content
  refine ⟨found.itemSize, found.count, ?_⟩
  rw [fits.extent_headerFor, ← length_sectionBytes]
  change (InfoFile.fromSection _ _ part).take _ = _
  rw [content]
  exact List.take_left

/-! ### Names -/

theorem namesOf_fileFor :
    namesOf (metadata.headerFor address image) (metadata.fileFor address image) =
      metadata.pool.names := by
  have read := InfoFile.readNames_eq_ok fits (fits.sectionFound address image .names)
    (fits.nameDataSize_headerFor address image)
  exact ((InfoFile.readNames_eq_ok_iff (fits.places address image .names)).mp read).2.symm

/-- The entries in the file, and the data behind them. -/
theorem poolOf_fileFor :
    entriesOf (metadata.headerFor address image) (metadata.fileFor address image) =
        metadata.pool.entries.map NamePool.entryWords ∧
      InfoFormat.nameData (metadata.headerFor address image) (metadata.fileFor address image) =
        metadata.pool.data := by
  have places := fits.places address image .names
  have found := fits.sectionFound address image .names
  obtain ⟨behind, content⟩ := found.content
  have count : ((metadata.headerFor address image).sections.get .names).count.toNat =
      metadata.pool.entries.length := by
    rw [found.count]
    exact (NamePool.length_entriesFrom metadata.pool.names 0).symm
  have entries := InfoFile.readEntries_names places
  rw [content, count, sectionBytes, List.append_assoc, Reading.readEntries_bytes] at entries
  obtain ⟨same, rest⟩ := Prod.mk.inj (Option.some.inj entries)
  have data := InfoFile.take_nameData places
  rw [← rest, fits.nameDataSize_headerFor, Reading.take_append] at data
  exact ⟨same.symm, (Prod.mk.inj (Option.some.inj data)).1.symm⟩

theorem poolsNames :
    PoolsNames (metadata.headerFor address image) (metadata.fileFor address image)
      metadata.allNames := by
  obtain ⟨entries, data⟩ := fits.poolOf_fileFor address image
  have names := fits.namesOf_fileFor address image
  constructor
  · rw [names]
    exact metadata.pool.distinct
  · rw [names]
    exact fun name => NamePool.mem_ofNames_iff
  · rw [names]
    exact NamePool.pairwise_ofNames _
  · rw [← NamePool.length_ofNames]
    exact (fits.sectionFound address image .names).count
  · intro index name here
    rw [names] at here ⊢
    have entry := NamePool.getElem?_entriesFrom metadata.pool.names 0 index
    change metadata.pool.entries[index]? = _ at entry
    rw [here, Option.map_some, Nat.zero_add] at entry
    have member := List.mem_of_getElem? entry
    have listed := congrArg (Option.map NamePool.entryWords) entry
    rw [← List.getElem?_map, ← entries] at listed
    exact ⟨_, _, listed, UInt32.toNat_ofNat_of_lt' (fits.nameOffset _ member),
      UInt32.toNat_ofNat_of_lt' (fits.nameLength _ member)⟩
  · rw [data, names]
    rfl
  · rw [data]
    exact fits.nameDataSize_headerFor address image

end Fits

/-- Of a file that is written the first 140 bytes are the header, and what it tells is what lies
behind it: the sections in their order, each at the first multiple of four behind the one before,
with nothing but zeros between them and nothing behind the last; in them a record for each item, and
every name that an item has just once. -/
theorem written_bit_by_bit (metadata : Metadata) (address : UInt64) (image : Content) (file : Bytes)
    (written : metadata.encode address image = .ok file) :
    let header := Header.of file
    (file.take 140 = header.encode ∧ header.Describes metadata address image) ∧
      (header.Tiles file 140 Section.all ∧ header.sections.names.offset = 140 ∧
        header.sectionStop .functions = file.length ∧
        Section.all.Pairwise fun before after =>
          header.sectionStop before ≤ (header.sections.get after).offset.toNat) ∧
      (∀ part, HoldsRecords header file metadata part) ∧
      PoolsNames header file metadata.allNames := by
  obtain ⟨fits, rfl⟩ := (metadata.encode_eq_ok_iff address image file).mp written
  have tiles := fits.tiles address image
  rw [of_fileFor]
  refine ⟨⟨metadata.take_fileFor address image, metadata.headerFor_describes address image⟩,
    ⟨tiles, ?_, fits.sectionStop_functions address image, tiles.pairwise⟩,
    fits.holdsRecords address image, fits.poolsNames address image⟩
  cases tiles with
  | next start gap later => exact UInt32.toNat_inj.mp start

/-- Four different names that are used seven times, with a gap behind them, and three sections with
nothing in them, one of which is the last. -/
def repeatedNames : Metadata where
  dependencies := [⟨"kiln", .runtime, ⟨List.replicate 20 7, by decide⟩⟩]
  pragmas := [⟨"abc", ""⟩, ⟨"abc", "kiln"⟩]
  globals := [⟨"é", 0x600000000000⟩]
  kernels := [⟨"abc", 1⟩]

theorem repeatedNames_fits : repeatedNames.Fits :=
  ⟨by decide, by intro part; cases part <;> decide, by decide, by decide, by decide, by decide⟩

theorem encode_repeatedNames (address : UInt64) (image : Content) :
    repeatedNames.encode address image = .ok (repeatedNames.fileFor address image) :=
  (repeatedNames.encode_eq_ok_iff address image _).mpr ⟨repeatedNames_fits, rfl⟩

theorem written_bit_by_bit_with_repeated_names :
    ∃ file, repeatedNames.encode 0x600000000000 (.ofBytes [1, 2, 3]) = .ok file ∧
      (Header.of file).Tiles file 140 Section.all ∧ (Header.of file).records .names = 4 ∧
      (Header.of file).sections.functions.offset = 256 ∧ file.length = 256 := by
  have written := encode_repeatedNames 0x600000000000 (.ofBytes [1, 2, 3])
  obtain ⟨_, ⟨tiles, _⟩, _, names⟩ := written_bit_by_bit _ _ _ _ written
  refine ⟨_, written, tiles, names.count.trans (by decide), ?_, ?_⟩
  · decide +kernel
  · decide +kernel

end Metadata

end KernelStore
