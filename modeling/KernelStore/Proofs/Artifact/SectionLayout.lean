import KernelStore.Artifact.Encoding
import KernelStore.Proofs.Fallible

/-!
Where the sections of a metadata file lie. Sections are written exactly when all their numbers fit
in four bytes, and then each lies at its start, a multiple of four behind the header.
-/

namespace KernelStore

theorem fit_eq_ok_iff_lt {quantity : Quantity} {value : Nat} {word : UInt32} :
    fit quantity value = .ok word ↔ value < 2 ^ 32 ∧ word = UInt32.ofNat value := by
  rw [fit_eq_ok_iff, ← UInt32.toNat_inj, UInt32.toNat_ofNat']
  have small := word.toNat_lt
  omega

/-! ### Records -/

namespace NamePool

def entryBytes (entry : Nat × Nat) : Bytes :=
  LittleEndian.ofUInt32 (UInt32.ofNat entry.1) ++ LittleEndian.ofUInt32 (UInt32.ofNat entry.2)

theorem encodeEntry_eq_ok_iff (entry : Nat × Nat) (block : Bytes) :
    encodeEntry entry = .ok block ↔
      (entry.1 < 2 ^ 32 ∧ entry.2 < 2 ^ 32) ∧ block = entryBytes entry := by
  simp only [encodeEntry, bind_eq_ok_iff, fit_eq_ok_iff_lt]
  constructor
  · rintro ⟨offset, ⟨offsetFits, rfl⟩, length, ⟨lengthFits, rfl⟩, made⟩
    exact ⟨⟨offsetFits, lengthFits⟩, (Except.ok.inj made).symm⟩
  · rintro ⟨⟨offsetFits, lengthFits⟩, rfl⟩
    exact ⟨_, ⟨offsetFits, rfl⟩, _, ⟨lengthFits, rfl⟩, rfl⟩

theorem length_entriesFrom (names : List String) (offset : Nat) :
    (entriesFrom offset names).length = names.length := by
  induction names generalizing offset with
  | nil => rfl
  | cons name rest ih => simp only [entriesFrom, List.length_cons, ih]

end NamePool

def FunctionRecord.bytes (pool : NamePool) (function : FunctionRecord) : Bytes :=
  LittleEndian.ofUInt64 function.address ++ LittleEndian.ofUInt32 function.size.toUInt32
    ++ pool.reference function.name

theorem FunctionRecord.encode_eq_ok_iff (pool : NamePool) (function : FunctionRecord)
    (block : Bytes) :
    function.encode pool = .ok block ↔
      function.size.toNat < 2 ^ 32 ∧ block = function.bytes pool := by
  simp only [encode, bind_eq_ok_iff, fit_eq_ok_iff_lt]
  constructor
  · rintro ⟨size, ⟨sizeFits, rfl⟩, made⟩
    exact ⟨sizeFits, (Except.ok.inj made).symm⟩
  · rintro ⟨sizeFits, rfl⟩
    exact ⟨_, ⟨sizeFits, rfl⟩, rfl⟩

theorem length_flatMap_fixed {α : Type} (encode : α → Bytes) (size : Nat)
    (each : ∀ item, (encode item).length = size) (items : List α) :
    (items.flatMap encode).length = items.length * size := by
  induction items with
  | nil => simp
  | cons item rest ih =>
      rw [List.flatMap_cons, List.length_append, each, ih, List.length_cons, Nat.succ_mul,
        Nat.add_comm]

theorem roundUp_word (position : Nat) :
    position ≤ roundUp position wordAlignment ∧ roundUp position wordAlignment % 4 = 0 := by
  have rounded : roundUp position wordAlignment = (position + 3) / 4 * 4 := rfl
  omega

namespace Metadata

/-! ### One section -/

section OneSection

variable (metadata : Metadata) (pool : NamePool)

/-- The bytes of a section's records, and of the names behind their entries. -/
def sectionSize (part : Section) : Nat :=
  metadata.count pool part * part.itemSize.toNat + if part = .names then pool.data.length else 0

/-- The numbers within a section's records fit. -/
def RecordsFit : Section → Prop
  | .names => ∀ entry ∈ pool.entries, entry.1 < 2 ^ 32 ∧ entry.2 < 2 ^ 32
  | .functions => ∀ function ∈ metadata.functions, function.size.toNat < 2 ^ 32
  | _ => True

/-- The bytes of a section whose records fit. -/
def sectionBytes : Section → Bytes
  | .names => pool.entries.flatMap NamePool.entryBytes ++ pool.data
  | .dependencies => metadata.dependencies.flatMap (·.encode pool)
  | .pragmas => metadata.pragmas.flatMap (·.encode pool)
  | .objectSlots => metadata.objectSlots.flatMap LittleEndian.ofUInt32
  | .globals => metadata.globals.flatMap (·.encode pool)
  | .functionNames => metadata.functionNames.flatMap pool.reference
  | .kernels => metadata.kernels.flatMap (·.encode pool)
  | .functions => metadata.functions.flatMap (·.bytes pool)

theorem encodeSection_eq_ok_iff (part : Section) (bytes : Bytes) :
    metadata.encodeSection pool part = .ok bytes ↔
      metadata.RecordsFit pool part ∧ bytes = metadata.sectionBytes pool part := by
  cases part with
  | names =>
      simp only [encodeSection, bind_eq_ok_iff, mapM_eq_ok_iff NamePool.encodeEntry_eq_ok_iff,
        RecordsFit, sectionBytes, List.flatMap_def]
      constructor
      · rintro ⟨blocks, ⟨fits, rfl⟩, made⟩
        exact ⟨fits, (Except.ok.inj made).symm⟩
      · rintro ⟨fits, rfl⟩
        exact ⟨_, ⟨fits, rfl⟩, rfl⟩
  | functions =>
      simp only [encodeSection, bind_eq_ok_iff,
        mapM_eq_ok_iff (FunctionRecord.encode_eq_ok_iff pool), RecordsFit, sectionBytes,
        List.flatMap_def]
      constructor
      · rintro ⟨blocks, ⟨fits, rfl⟩, made⟩
        exact ⟨fits, (Except.ok.inj made).symm⟩
      · rintro ⟨fits, rfl⟩
        exact ⟨_, ⟨fits, rfl⟩, rfl⟩
  | _ => simp [encodeSection, RecordsFit, sectionBytes, eq_comm]

theorem length_sectionBytes (part : Section) :
    (metadata.sectionBytes pool part).length = metadata.sectionSize pool part := by
  have reference (name : String) : (pool.reference name).length = 4 :=
    LittleEndian.length_encode 4 _
  have word (value : UInt32) : (LittleEndian.ofUInt32 value).length = 4 :=
    LittleEndian.length_encode 4 _
  have long (value : UInt64) : (LittleEndian.ofUInt64 value).length = 8 :=
    LittleEndian.length_encode 8 _
  cases part with
  | names =>
      have each (entry : Nat × Nat) : (NamePool.entryBytes entry).length = 8 := by
        simp [NamePool.entryBytes, word]
      have entries : pool.entries.length = pool.names.length := NamePool.length_entriesFrom _ 0
      simp only [sectionBytes, List.length_append, length_flatMap_fixed _ 8 each, entries]
      rfl
  | dependencies =>
      refine length_flatMap_fixed _ 28 ?_ _
      intro dependency
      simp [Dependency.encode, reference, word, dependency.digest.length_bytes]
  | pragmas =>
      refine length_flatMap_fixed _ 8 ?_ _
      intro pragma
      simp [Pragma.encode, reference]
  | objectSlots => exact length_flatMap_fixed _ 4 word _
  | globals =>
      refine length_flatMap_fixed _ 16 ?_ _
      intro exported
      simp [ExportedVariable.encode, reference, long]
  | functionNames => exact length_flatMap_fixed _ 4 reference _
  | kernels =>
      refine length_flatMap_fixed _ 8 ?_ _
      intro kernel
      simp [KernelEntry.encode, reference, word]
  | functions =>
      refine length_flatMap_fixed _ 16 ?_ _
      intro function
      simp [FunctionRecord.bytes, reference, word, long]

end OneSection

/-! ### One section after another -/

/-- Sections put one after another from a position on, each with its start. -/
def startsFrom (metadata : Metadata) (pool : NamePool) (position : Nat) :
    List Section → List (Section × Nat)
  | [] => []
  | part :: rest =>
      let start := roundUp position wordAlignment
      (part, start) :: metadata.startsFrom pool (start + metadata.sectionSize pool part) rest

/-- The bytes of these sections, with the zeros between them. -/
def bytesFrom (metadata : Metadata) (pool : NamePool) (position : Nat) : List Section → Bytes
  | [] => []
  | part :: rest =>
      let start := roundUp position wordAlignment
      Bytes.zeros (start - position) ++ metadata.sectionBytes pool part
        ++ metadata.bytesFrom pool (start + metadata.sectionSize pool part) rest

variable (metadata : Metadata) (pool : NamePool)

def descriptorAt (part : Section) (start : Nat) : SectionDescriptor :=
  ⟨UInt32.ofNat start, UInt32.ofNat (metadata.count pool part), part.itemSize⟩

/-- What the numbers of a section that begins at `start` have to satisfy. -/
structure SectionFits (part : Section) (start : Nat) : Prop where
  start : start < 2 ^ 32
  count : metadata.count pool part < 2 ^ 32
  records : metadata.RecordsFit pool part

theorem encodeSections_eq_ok_iff (parts : List Section) (position : Nat)
    (descriptors : List (Section × SectionDescriptor)) (bytes : Bytes) :
    metadata.encodeSections pool position parts = .ok (descriptors, bytes) ↔
      (∀ placed ∈ metadata.startsFrom pool position parts,
        metadata.SectionFits pool placed.1 placed.2) ∧
      descriptors = (metadata.startsFrom pool position parts).map
        (fun placed => (placed.1, metadata.descriptorAt pool placed.1 placed.2)) ∧
      bytes = metadata.bytesFrom pool position parts := by
  induction parts generalizing position descriptors bytes with
  | nil => simp [encodeSections, startsFrom, bytesFrom, eq_comm]
  | cons part rest ih =>
      simp only [encodeSections, bind_eq_ok_iff, fit_eq_ok_iff_lt, encodeSection_eq_ok_iff,
        Prod.exists, startsFrom, List.mem_cons, forall_eq_or_imp, List.map_cons, bytesFrom]
      constructor
      · rintro ⟨_, ⟨startFits, rfl⟩, _, ⟨countFits, rfl⟩, _, ⟨recordsFit, rfl⟩, _, _,
          encoded, made⟩
        rw [length_sectionBytes, ih] at encoded
        obtain ⟨others, rfl, rfl⟩ := encoded
        cases made
        exact ⟨⟨⟨startFits, countFits, recordsFit⟩, others⟩, rfl, rfl⟩
      · rintro ⟨⟨here, others⟩, rfl, rfl⟩
        refine ⟨_, ⟨here.start, rfl⟩, _, ⟨here.count, rfl⟩, _, ⟨here.records, rfl⟩, _, _, ?_, rfl⟩
        rw [length_sectionBytes, ih]
        exact ⟨others, rfl, rfl⟩

theorem bytesFrom_at (parts : List Section) (position : Nat) (placed : Section × Nat)
    (member : placed ∈ metadata.startsFrom pool position parts) :
    position ≤ placed.2 ∧ placed.2 % 4 = 0 ∧ ∃ before behind,
      metadata.bytesFrom pool position parts =
        before ++ (metadata.sectionBytes pool placed.1 ++ behind) ∧
      position + before.length = placed.2 := by
  induction parts generalizing position with
  | nil => cases member
  | cons part rest ih =>
      obtain ⟨above, aligned⟩ := roundUp_word position
      rcases List.mem_cons.mp member with rfl | later
      · refine ⟨above, aligned, Bytes.zeros (roundUp position wordAlignment - position), _,
          List.append_assoc _ _ _, ?_⟩
        rw [Bytes.length_zeros]
        exact Nat.add_sub_cancel' above
      · obtain ⟨after, aligned, before, behind, split, reached⟩ := ih _ later
        refine ⟨by omega, aligned, Bytes.zeros (roundUp position wordAlignment - position)
          ++ metadata.sectionBytes pool part ++ before, behind, ?_, ?_⟩
        · simp only [bytesFrom, split, List.append_assoc]
        · simp only [List.length_append, Bytes.length_zeros, length_sectionBytes]
          omega

theorem map_fst_startsFrom (parts : List Section) (position : Nat) :
    (metadata.startsFrom pool position parts).map Prod.fst = parts := by
  induction parts generalizing position with
  | nil => rfl
  | cons part rest ih => rw [startsFrom, List.map_cons, ih]

/-- The table has each section's start, if no section stands twice. -/
theorem lookup_startsFrom {parts : List Section} (distinct : parts.Nodup) (position : Nat)
    {placed : Section × Nat} (member : placed ∈ metadata.startsFrom pool position parts) :
    ((metadata.startsFrom pool position parts).map
      (fun placed => (placed.1, metadata.descriptorAt pool placed.1 placed.2))).lookup placed.1 =
    some (metadata.descriptorAt pool placed.1 placed.2) := by
  induction parts generalizing position with
  | nil => cases member
  | cons part rest ih =>
      obtain ⟨fresh, distinct⟩ := List.nodup_cons.mp distinct
      rw [startsFrom, List.map_cons]
      rcases List.mem_cons.mp member with rfl | later
      · exact List.lookup_cons_self
      · have listed : placed.1 ∈ rest := by
          rw [← metadata.map_fst_startsFrom pool rest _]
          exact List.mem_map_of_mem later
        have other : placed.1 ≠ part := by
          intro same
          exact fresh (same ▸ listed)
        rw [List.lookup_cons, beq_false_of_ne other]
        exact ih distinct _ later

/-- A section of the list has a start. -/
theorem exists_start (parts : List Section) (position : Nat) (part : Section)
    (member : part ∈ parts) : ∃ start, (part, start) ∈ metadata.startsFrom pool position parts := by
  rw [← metadata.map_fst_startsFrom pool parts position] at member
  obtain ⟨placed, listed, rfl⟩ := List.mem_map.mp member
  exact ⟨placed.2, listed⟩

end Metadata

end KernelStore
