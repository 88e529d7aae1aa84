import KernelStore.Proofs.Artifact.SectionLayout

/-!
Metadata files as they are written. A file is written exactly when all its numbers fit in four
bytes, and its header then says of each section where it is found.
-/

namespace KernelStore

namespace Metadata

/-! ### When a file is written -/

/-- Every number that the format gives four bytes fits in them. -/
structure Fits (metadata : Metadata) : Prop where
  offset : ∀ placed ∈ metadata.startsFrom metadata.pool Header.size Section.all, placed.2 < 2 ^ 32
  count : ∀ part, metadata.count metadata.pool part < 2 ^ 32
  nameOffset : ∀ entry ∈ metadata.pool.entries, entry.1 < 2 ^ 32
  nameLength : ∀ entry ∈ metadata.pool.entries, entry.2 < 2 ^ 32
  nameData : metadata.pool.data.length < 2 ^ 32
  functionSize : ∀ function ∈ metadata.functions, function.size.toNat < 2 ^ 32

/-- The header of the file for an image at an address. -/
def headerFor (metadata : Metadata) (address : UInt64) (image : Content) : Header where
  magic := Header.currentMagic
  version := Header.currentVersion
  host := Host.current
  imageAddress := address
  imageSize := UInt64.ofNat image.size
  checksum := image.parity
  flags := metadata.flags
  nameDataSize := UInt32.ofNat metadata.pool.data.length
  sections := sectionTable ((metadata.startsFrom metadata.pool Header.size Section.all).map
    fun placed => (placed.1, metadata.descriptorAt metadata.pool placed.1 placed.2))

def fileFor (metadata : Metadata) (address : UInt64) (image : Content) : Bytes :=
  (metadata.headerFor address image).encode
    ++ metadata.bytesFrom metadata.pool Header.size Section.all

theorem Fits.records {metadata : Metadata} (fits : metadata.Fits) (part : Section) :
    metadata.RecordsFit metadata.pool part := by
  cases part with
  | names => exact fun entry member => ⟨fits.nameOffset entry member, fits.nameLength entry member⟩
  | functions => exact fits.functionSize
  | _ => trivial

theorem fits_iff (metadata : Metadata) :
    metadata.Fits ↔
      (∀ placed ∈ metadata.startsFrom metadata.pool Header.size Section.all,
        metadata.SectionFits metadata.pool placed.1 placed.2) ∧
      metadata.pool.data.length < 2 ^ 32 := by
  constructor
  · intro fits
    exact ⟨fun placed member => ⟨fits.offset placed member, fits.count placed.1,
      fits.records placed.1⟩, fits.nameData⟩
  · rintro ⟨each, nameData⟩
    have section_ (part : Section) : ∃ start, metadata.SectionFits metadata.pool part start := by
      obtain ⟨start, placed⟩ :=
        metadata.exists_start metadata.pool Section.all Header.size part (Section.mem_all part)
      exact ⟨start, each _ placed⟩
    obtain ⟨_, names⟩ := section_ .names
    obtain ⟨_, functions⟩ := section_ .functions
    exact {
      offset := fun placed member => (each placed member).start
      count := fun part => (section_ part).choose_spec.count
      nameOffset := fun entry member => (names.records entry member).1
      nameLength := fun entry member => (names.records entry member).2
      nameData
      functionSize := functions.records }

theorem encode_eq_ok_iff (metadata : Metadata) (address : UInt64) (image : Content) (file : Bytes) :
    metadata.encode address image = .ok file ↔
      metadata.Fits ∧ file = metadata.fileFor address image := by
  simp only [encode, bind_eq_ok_iff, Prod.exists, encodeSections_eq_ok_iff, fit_eq_ok_iff_lt,
    fits_iff]
  constructor
  · rintro ⟨_, _, ⟨each, rfl, rfl⟩, _, ⟨nameData, rfl⟩, made⟩
    exact ⟨⟨each, nameData⟩, (Except.ok.inj made).symm⟩
  · rintro ⟨⟨each, nameData⟩, rfl⟩
    exact ⟨_, _, ⟨each, rfl, rfl⟩, _, ⟨nameData, rfl⟩, rfl⟩

end Metadata

/-! ### The header of a written file -/

namespace Metadata.Fits

variable {metadata : Metadata} (fits : metadata.Fits) (address : UInt64) (image : Content)
  {part : Section} {start : Nat}
  (placed : (part, start) ∈ metadata.startsFrom metadata.pool Header.size Section.all)

include placed in
theorem get_sections_headerFor : (metadata.headerFor address image).sections.get part =
    metadata.descriptorAt metadata.pool part start := by
  have listed := metadata.lookup_startsFrom metadata.pool Section.nodup_all Header.size placed
  simp only [headerFor, sectionTable, SectionTable.get_ofFn, listed, Option.getD_some]

include fits

theorem count_headerFor (part : Section) :
    (UInt32.ofNat (metadata.count metadata.pool part)).toNat = metadata.count metadata.pool part := by
  rw [UInt32.toNat_ofNat', Nat.mod_eq_of_lt (fits.count part)]

theorem nameDataSize_headerFor :
    (metadata.headerFor address image).nameDataSize.toNat = metadata.pool.data.length := by
  rw [headerFor, UInt32.toNat_ofNat', Nat.mod_eq_of_lt fits.nameData]

include placed

theorem offset_headerFor :
    ((metadata.headerFor address image).sections.get part).offset.toNat = start := by
  rw [get_sections_headerFor address image placed, descriptorAt, UInt32.toNat_ofNat',
    Nat.mod_eq_of_lt (fits.offset _ placed)]

theorem sectionStop_headerFor : (metadata.headerFor address image).sectionStop part =
    start + metadata.sectionSize metadata.pool part := by
  rw [Header.sectionStop, SectionDescriptor.stop, fits.offset_headerFor address image placed,
    get_sections_headerFor address image placed, descriptorAt, fits.count_headerFor,
    fits.nameDataSize_headerFor, sectionSize, Nat.add_assoc]

end Metadata.Fits

/-- What the header of a file says about a section, and what is found there. -/
structure SectionFound (header : Header) (file : Bytes) (metadata : Metadata) (part : Section) :
    Prop where
  itemSize : (header.sections.get part).itemSize = part.itemSize
  count : (header.sections.get part).count.toNat = metadata.count metadata.pool part
  aligned : (header.sections.get part).offset.toNat % wordAlignment = 0
  behindHeader : Header.size ≤ (header.sections.get part).offset.toNat
  inside : header.sectionStop part ≤ file.length
  content : ∃ behind, InfoFile.fromSection header file part =
    metadata.sectionBytes metadata.pool part ++ behind

theorem Metadata.Fits.sectionFound {metadata : Metadata} (fits : metadata.Fits) (address : UInt64)
    (image : Content) (part : Section) :
    SectionFound (metadata.headerFor address image) (metadata.fileFor address image) metadata
      part := by
  obtain ⟨start, placed⟩ :=
    metadata.exists_start metadata.pool Section.all Header.size part (Section.mem_all part)
  obtain ⟨above, aligned, before, behind, split, reached⟩ :=
    metadata.bytesFrom_at metadata.pool Section.all Header.size (part, start) placed
  have descriptor := get_sections_headerFor address image placed
  have offset := fits.offset_headerFor address image placed
  have size := (metadata.headerFor address image).length_encode
  have file : metadata.fileFor address image =
      ((metadata.headerFor address image).encode ++ before)
        ++ (metadata.sectionBytes metadata.pool part ++ behind) := by
    rw [Metadata.fileFor, split, List.append_assoc]
  have front : ((metadata.headerFor address image).encode ++ before).length = start := by
    rw [List.length_append, size, reached]
  exact {
    itemSize := by rw [descriptor]; rfl
    count := by rw [descriptor]; exact fits.count_headerFor part
    aligned := by rw [offset]; exact aligned
    behindHeader := by rw [offset]; exact above
    inside := by
      rw [fits.sectionStop_headerFor address image placed, file, List.length_append, front,
        List.length_append, Metadata.length_sectionBytes]
      omega
    content := by
      refine ⟨behind, ?_⟩
      rw [InfoFile.fromSection, offset, file, ← front]
      exact List.drop_left }

theorem require_of_true {ε : Type} {condition : Bool} (fault : ε) (holds : condition = true) :
    require condition fault = .ok () := by
  rw [require, if_pos holds]

/-! ### Checking the header of a written file -/

namespace Header

variable {header : Header} {file : Bytes} {metadata : Metadata}

/-- Of what is asked of a section only its end depends on the size of the file. -/
theorem checkSection_eq {part : Section} (found : SectionFound header file metadata part)
    (size : Nat) :
    header.checkSection size part =
      if size < header.sectionStop part then .error (.outOfBounds part) else .ok () := by
  have itemSize := beq_iff_eq.mpr found.itemSize
  have aligned := beq_iff_eq.mpr found.aligned
  rw [checkSection, require_of_true _ itemSize, require_of_true _ aligned]
  change require _ _ = _
  rw [require, decide_eq_true found.behindHeader, Bool.true_and]
  by_cases short : size < header.sectionStop part
  · rw [if_pos short, decide_eq_false (Nat.not_le.mpr short)]
    rfl
  · rw [if_neg short, decide_eq_true (Nat.le_of_not_lt short)]
    rfl

/-- The first section that reaches beyond the size is reported. -/
theorem checkSections_eq (found : ∀ part, SectionFound header file metadata part) (size : Nat)
    (parts : List Section) :
    header.checkSections size parts =
      match parts.find? fun part => size < header.sectionStop part with
      | some part => .error (.outOfBounds part)
      | none => .ok () := by
  induction parts with
  | nil => rfl
  | cons part rest ih =>
      rw [checkSections, checkSection_eq (found part), List.find?_cons]
      by_cases short : size < header.sectionStop part
      · rw [if_pos short, decide_eq_true short]
        rfl
      · rw [if_neg short, decide_eq_false short]
        exact ih

end Header

section

variable {metadata : Metadata} {address : UInt64} {image : Content} {file : Bytes}
  (found : ∀ part, SectionFound (metadata.headerFor address image) file metadata part)

include found

theorem Metadata.check_headerFor_size (size : Nat) :
    (metadata.headerFor address image).check size =
      match Section.all.find? fun part =>
        size < (metadata.headerFor address image).sectionStop part with
      | some part => .error (.outOfBounds part)
      | none => .ok () := by
  rw [← Header.checkSections_eq found]
  rfl

theorem Metadata.check_headerFor :
    (metadata.headerFor address image).check file.length = .ok () := by
  have inside : (Section.all.find? fun part =>
      file.length < (metadata.headerFor address image).sectionStop part) = none := by
    apply List.find?_eq_none.mpr
    intro part _ beyond
    exact absurd (found part).inside (Nat.not_le.mpr (of_decide_eq_true beyond))
  rw [Metadata.check_headerFor_size found, inside]

end

namespace Metadata

/-! ### What is not written -/

/-- A refusal names a number that four bytes do not hold. -/
def RefusesLarge {α : Type} (outcome : Except TooLarge α) : Prop :=
  ∀ fault, outcome = .error fault → 2 ^ 32 ≤ fault.value

/-- Every refusal has its cause. -/
def RefusesFor (cause : TooLarge → Prop) {α : Type} (outcome : Except TooLarge α) : Prop :=
  ∀ fault, outcome = .error fault → cause fault

/-- A number that four bytes do not hold, and if it is told to be the size of a function, the size
of one of these. -/
structure NotHeld (functions : List FunctionRecord) (fault : TooLarge) : Prop where
  large : 2 ^ 32 ≤ fault.value
  function : fault.quantity = .functionSize →
    ∃ function ∈ functions, function.size.toNat = fault.value

section

variable {cause : TooLarge → Prop} {α β : Type}

theorem refusesFor_fit {quantity : Quantity} {value : Nat}
    (large : 2 ^ 32 ≤ value → cause ⟨quantity, value⟩) : RefusesFor cause (fit quantity value) := by
  intro fault refused
  unfold fit at refused
  split at refused
  · cases refused
  · rename_i beyond
    cases refused
    exact large (Nat.le_of_not_lt beyond)

theorem refusesFor_ok (value : α) : RefusesFor cause (.ok value) := by
  intro fault impossible
  cases impossible

theorem RefusesFor.bind {first : Except TooLarge α} {next : α → Except TooLarge β}
    (here : RefusesFor cause first) (later : ∀ value, RefusesFor cause (next value)) :
    RefusesFor cause (first >>= next) := by
  intro fault refused
  cases first with
  | error earlier =>
      cases refused
      exact here fault rfl
  | ok value => exact later value fault refused

theorem RefusesFor.mapM {encode : α → Except TooLarge β} (items : List α)
    (each : ∀ item ∈ items, RefusesFor cause (encode item)) :
    RefusesFor cause (items.mapM encode) := by
  induction items with
  | nil => exact refusesFor_ok []
  | cons item rest ih =>
      rw [List.mapM_cons]
      have later := ih fun other member => each other (List.mem_cons_of_mem _ member)
      exact (each item List.mem_cons_self).bind fun block =>
        later.bind fun blocks => refusesFor_ok _

end

variable {functions : List FunctionRecord}

theorem notHeld_fit (quantity : Quantity) (value : Nat) (other : quantity ≠ .functionSize) :
    RefusesFor (NotHeld functions) (fit quantity value) :=
  refusesFor_fit fun large => ⟨large, fun same => absurd same other⟩

theorem notHeld_encodeSection (metadata : Metadata) (pool : NamePool) (part : Section) :
    RefusesFor (NotHeld metadata.functions) (metadata.encodeSection pool part) := by
  cases part with
  | names =>
      refine (RefusesFor.mapM _ ?_).bind fun blocks => refusesFor_ok _
      intro entry _
      exact (notHeld_fit .nameOffset _ nofun).bind fun _ =>
        (notHeld_fit .nameLength _ nofun).bind fun _ => refusesFor_ok _
  | functions =>
      refine (RefusesFor.mapM _ ?_).bind fun blocks => refusesFor_ok _
      intro function member
      exact (refusesFor_fit fun large => ⟨large, fun _ => ⟨function, member, rfl⟩⟩).bind fun _ =>
        refusesFor_ok _
  | _ => exact refusesFor_ok _

theorem notHeld_encodeSections (metadata : Metadata) (pool : NamePool) (parts : List Section)
    (position : Nat) :
    RefusesFor (NotHeld metadata.functions) (metadata.encodeSections pool position parts) := by
  induction parts generalizing position with
  | nil => exact refusesFor_ok _
  | cons part rest ih =>
      exact (notHeld_fit .filePosition _ nofun).bind fun _ =>
        (notHeld_fit (.records part) _ nofun).bind fun _ =>
        (notHeld_encodeSection metadata pool part).bind fun bytes => (ih _).bind fun _ =>
          refusesFor_ok _

/-- What is not written has a number that four bytes do not hold. -/
theorem notHeld_encode (metadata : Metadata) (address : UInt64) (image : Content) :
    RefusesFor (NotHeld metadata.functions) (metadata.encode address image) :=
  (notHeld_encodeSections metadata metadata.pool Section.all Header.size).bind fun _ =>
    (notHeld_fit .nameData _ nofun).bind fun _ => refusesFor_ok _

theorem refusesLarge_encode (metadata : Metadata) (address : UInt64) (image : Content) :
    RefusesLarge (metadata.encode address image) :=
  fun fault refused => (metadata.notHeld_encode address image fault refused).large

end Metadata

end KernelStore
