import KernelStore.Proofs.Artifact.Acceptance
import KernelStore.Proofs.Store.Lookups

/-!
What can be relied on when a lookup succeeds, whatever the two files hold. Functions and variables
are checked against the image that the header tells of, and the header's image is later found to be
the slot; so they lie in the mapping (`Header.Encloses.inSlot`).
-/

namespace KernelStore

/-- Where a header's image is a slot, what lies in the image lies in the slot. -/
theorem Header.Encloses.inSlot {header : Header} {layout : Layout} {index address size : Nat}
    (encloses : header.Encloses address size)
    (start : header.imageAddress.toNat = layout.slotAddress index)
    (whole : header.imageSize.toNat = layout.slotSize) :
    layout.slotAddress index ≤ address ∧
      address + size ≤ layout.slotAddress index + layout.slotSize := by
  obtain ⟨above, below⟩ := encloses
  rw [start] at above
  rw [start, whole] at below
  exact ⟨above, Nat.le_trans below (Nat.min_le_left _ _)⟩

namespace Lookup

/-- A kernel that was found is the wanted one, is as its two files have it, and fills the slot that
it was made for, which was free. -/
structure Sound (files : FileTree) (before : Memory) (table : SlotTable) (paths : StoredPaths)
    (wanted : Wanted) (found : Found) : Prop where
  dependencies : found.metadata.dependencies = wanted.dependencies
  precision : ∀ required, wanted.precision = some required → found.metadata.precision = required
  magic : found.header.magic = Header.currentMagic
  version : found.header.version = Header.currentVersion
  host : found.header.host = Host.current
  slot : ∃ index < table.layout.count,
    found.header.imageAddress.toNat = table.layout.slotAddress index ∧
      before.isTaken table index = false ∧ found.lease.slot = some index
  owner : found.lease.table = table
  address : found.lease.address = found.header.imageAddress.toNat
  size : found.header.imageSize.toNat = table.layout.slotSize
  metadata : ∃ info, files.read paths.info = .ok info ∧
    InfoFile.parse info = .ok ⟨found.header, found.metadata⟩
  image : ∃ object, files.read paths.object = .ok object ∧ table.layout.slotSize ≤ object.length ∧
    found.lease.bytes = object.take table.layout.slotSize
  parity : Parity.parity found.lease.bytes = found.header.checksum
  functions : ∀ function ∈ found.metadata.functions,
    found.lease.address ≤ function.address.toNat ∧
      function.address.toNat + function.size.toNat ≤ found.lease.address + found.lease.size
  globals : ∀ exported ∈ found.metadata.globals,
    found.lease.address ≤ exported.address.toNat ∧
      exported.address.toNat < found.lease.address + found.lease.size

variable {files : FileTree} {memory after : Memory} {placement : Placement} {table : SlotTable}
  {paths : StoredPaths} {wanted : Wanted}

/-- A kernel is only found where all of this holds, whatever the files hold, whichever slots are
taken and wherever the system places mappings. -/
theorem load_sound {found : Found}
    (loaded : load files memory placement table paths wanted = (.ok found, after)) :
    Sound files memory table paths wanted found := by
  obtain ⟨info, image, read, parsed, same, object, size, enough, allocated, parity⟩ :=
    load_eq_ok_iff.mp loaded
  obtain ⟨dependencies, precision⟩ := Wanted.difference?_eq_none_iff.mp same
  obtain ⟨⟨magic, version, host⟩, functions, globals⟩ := InfoFile.parse_ok_inside parsed
  obtain ⟨_, _, index, content, slot, free, regular, _, _, lease, _⟩ :=
    Memory.allocateFile_eq_ok_iff.mp allocated
  cases regular
  obtain ⟨inside, start⟩ := table.layout.slotIndex?_eq_some_iff.mp slot
  -- The mapping is the image that the functions and the variables were checked against.
  have address : found.lease.address = table.layout.slotAddress index := by
    rw [lease]
    exact start
  have length : found.lease.size = table.layout.slotSize := by
    rw [lease]
    rfl
  rw [Content.size_eq] at enough
  refine ⟨dependencies, precision, magic, version, host, ⟨index, inside, start, free, ?_⟩, ?_,
    address.trans start.symm, size, ⟨info, read, parsed⟩,
    ⟨image.bytes, FileTree.read_eq_ok_iff.mpr ⟨image, object, rfl⟩, enough, ?_⟩, ?_, ?_, ?_⟩
  · rw [lease]
  · rw [lease]
  · rw [lease]
    change ((image.drop 0).resize table.layout.slotSize).bytes = _
    rw [Content.bytes_resize, Content.bytes_drop, List.drop_zero, Bytes.resize_eq_take enough]
  · rw [Content.hasParity_eq] at parity
    exact Parity.verify_eq_true_iff.mp parity
  · intro function member
    rw [address, length]
    exact (functions function member).inSlot start size
  · intro exported member
    rw [address, length]
    exact (globals exported member).inSlot start size

/-- The pair of a kernel with an empty function where its image ends, and a variable in the last
byte. The object file is longer than the slot. -/
def edgeMetadata : Metadata where
  pragmas := [⟨"fp_relaxed", ""⟩]
  globals := [⟨"last", 0x201fff⟩]
  functions := [⟨"empty", 0x202000, 0⟩]

def edgeImage : Content := .ofBytes [1, 2, 3, 4] ++ .zeros 8192

def edgeFiles : FileTree :=
  let info := (edgeMetadata.encode 0x200000 (edgeImage.take 8192)).toOption.getD []
  { entries := [("k.info", .file (.ofBytes info)), ("k.o", .file edgeImage)] }

def edgeTable : SlotTable := ⟨0, ⟨0x200000, 1, 4096, 4096, 8, by decide⟩⟩

theorem load_sound_edge :
    ∃ found after,
      load edgeFiles {} .standard edgeTable ⟨"k.info", "k.o"⟩ ⟨[], some .relaxed⟩ =
        (.ok found, after) ∧
      found.metadata = edgeMetadata ∧
      Sound edgeFiles {} edgeTable ⟨"k.info", "k.o"⟩ ⟨[], some .relaxed⟩ found := by
  have metadata : (load edgeFiles {} .standard edgeTable ⟨"k.info", "k.o"⟩
      ⟨[], some .relaxed⟩).1.toOption.map (·.metadata) = some edgeMetadata := by decide +kernel
  cases loaded : load edgeFiles {} .standard edgeTable ⟨"k.info", "k.o"⟩ ⟨[], some .relaxed⟩ with
  | mk result after =>
      rw [loaded] at metadata
      cases result with
      | error miss => cases metadata
      | ok found => exact ⟨found, after, rfl, Option.some.inj metadata, load_sound loaded⟩

end Lookup

end KernelStore
