import KernelStore.Artifact.Guarded
import KernelStore.Proofs.Artifact.Acceptance

/-!
No guard is met in reading a metadata file. What the check of the header has counted is there, so
that no read of an entry or a record is short. Main statement: whatever the file, the guarded steps
end as reading it does.
-/

namespace KernelStore

open InfoFormat

/-! ### Readings that are not short -/

namespace RecordReading

variable {α β : Type} {reading : RecordReading α} {first second size : Nat}

/-- A reading that takes so many bytes if it succeeds, and is not short where there are as many. -/
structure Needs (reading : RecordReading α) (count : Nat) : Prop where
  whole : ∀ input, count ≤ input.length → reading input ≠ .error .truncated
  taken : ∀ input value rest, reading input = .ok (value, rest) →
    input.length = count + rest.length

namespace Needs

theorem pure (value : α) : Needs (Pure.pure value) 0 where
  whole _ _ := nofun
  taken input result rest read := by
    obtain ⟨rfl, rfl⟩ := pure_eq_ok_iff.mp read
    exact (Nat.zero_add _).symm

theorem demand (fault : RecordFault) (other : fault ≠ .truncated) (wanted : Option α) :
    Needs (RecordReading.demand fault wanted) 0 where
  whole input _ short := by
    cases wanted with
    | none => exact other (Except.error.inj short)
    | some value => cases short
  taken input value rest read := by
    obtain ⟨_, rfl⟩ := demand_eq_ok_iff.mp read
    exact (Nat.zero_add _).symm

theorem field {reading : Reading α} (takes : Reading.Takes reading size)
    (enough : ∀ input, size ≤ input.length → reading input ≠ none) :
    Needs (RecordReading.field reading) size where
  whole input bound short := by
    unfold RecordReading.field at short
    cases outcome : reading input with
    | none => exact enough input bound outcome
    | some result =>
        rw [outcome] at short
        cases short
  taken input value rest read := by
    unfold RecordReading.field at read
    cases outcome : reading input with
    | none =>
        rw [outcome] at read
        cases read
    | some result =>
        rw [outcome] at read
        cases read
        exact takes input value rest outcome

theorem bind (here : Needs reading first) {next : α → RecordReading β}
    (later : ∀ value, Needs (next value) second) : Needs (reading >>= next) (first + second) where
  whole input bound short := by
    change (reading input >>= fun result => next result.1 result.2) = .error .truncated at short
    rcases bind_eq_error_iff.mp short with early | ⟨⟨value, middle⟩, read, late⟩
    · exact here.whole input (by omega) early
    · have front := here.taken input value middle read
      exact (later value).whole middle (by omega) late
  taken input result rest read := by
    obtain ⟨value, middle, early, late⟩ := bind_eq_ok_iff.mp read
    have front := here.taken input value middle early
    have behind := (later value).taken middle result rest late
    omega

theorem u32 : Needs (RecordReading.field Reading.u32) 4 := by
  apply field Reading.Takes.u32
  intro input enough short
  cases short.symm.trans (Reading.u32_at (show 0 + 4 ≤ input.length by omega))

theorem u64 : Needs (RecordReading.field Reading.u64) 8 := by
  apply field Reading.Takes.u64
  intro input enough short
  cases short.symm.trans (Reading.u64_at (show 0 + 8 ≤ input.length by omega))

theorem fixed (size : Nat) : Needs (RecordReading.field (Reading.fixed size)) size := by
  apply field (Reading.Takes.fixed size)
  intro input enough short
  cases short.symm.trans (Reading.fixed_at (show 0 + size ≤ input.length by omega))

/-! ### Each kind of record -/

variable (header : Header) (names : Array String)

theorem name : Needs (RecordReading.name names) Section.functionNames.itemSize.toNat :=
  u32.bind fun _ => demand .unknownName nofun _

theorem dependency : Needs (RecordReading.dependency names) Section.dependencies.itemSize.toNat :=
  (name names).bind fun _ => u32.bind fun _ => (demand .unknownKind nofun _).bind fun _ =>
    (fixed 20).bind fun _ => pure _

theorem pragma : Needs (RecordReading.pragma names) Section.pragmas.itemSize.toNat :=
  (name names).bind fun _ => (name names).bind fun _ => pure _

theorem objectSlot : Needs RecordReading.objectSlot Section.objectSlots.itemSize.toNat := u32

theorem exportedVariable :
    Needs (RecordReading.exportedVariable header names) Section.globals.itemSize.toNat :=
  u64.bind fun _ => (name names).bind fun _ => u32.bind fun _ => demand .outsideImage nofun _

theorem kernelEntry : Needs (RecordReading.kernelEntry names) Section.kernels.itemSize.toNat :=
  (name names).bind fun _ => u32.bind fun _ => pure _

theorem function :
    Needs (RecordReading.function header names) Section.functions.itemSize.toNat :=
  u64.bind fun _ => u32.bind fun _ => (name names).bind fun _ => demand .outsideImage nofun _

end Needs

/-! ### Lists of records -/

/-- Where there are bytes for all records, none of them is short. -/
theorem many_ne_truncated (needs : Needs reading size) (count index failing : Nat) {input : Bytes}
    (enough : count * size ≤ input.length) :
    many reading count index input ≠ .error (failing, .truncated) := by
  induction count generalizing index input with
  | zero => exact nofun
  | succ count ih =>
      rw [Nat.succ_mul] at enough
      intro short
      unfold many at short
      cases outcome : reading input with
      | error fault =>
          rw [outcome] at short
          cases short
          exact needs.whole input (by omega) outcome
      | ok result =>
          obtain ⟨item, rest⟩ := result
          have length := needs.taken input item rest outcome
          have later := ih (index + 1) (show count * size ≤ rest.length by omega)
          rw [outcome] at short
          dsimp only at short
          cases behind : many reading count (index + 1) rest with
          | ok items =>
              rw [behind] at short
              cases short
          | error fault =>
              rw [behind] at short
              cases short
              exact later behind

end RecordReading

/-! ### Steps without hazards -/

namespace Guarded

variable {ε φ α β : Type} {header : Header} {file : Bytes} {part : Section}

/-- The steps meet no guard, and end in this outcome. -/
def Ends (steps : Guarded ε α) (outcome : Except ε α) : Prop := steps.run = .ok outcome

theorem ends_pure (value : α) : Ends (pure value : Guarded ε α) (.ok value) := rfl

theorem ends_throw (fault : ε) : Ends (throw fault : Guarded ε α) (.error fault) := rfl

theorem ends_ofExcept (outcome : Except ε α) : Ends (ofExcept outcome) outcome := rfl

theorem Ends.bind {steps : Guarded ε α} {next : α → Guarded ε β} {outcome : Except ε α}
    {after : α → Except ε β} (early : Ends steps outcome)
    (later : ∀ value, outcome = .ok value → Ends (next value) (after value)) :
    Ends (steps >>= next) (outcome >>= after) := by
  unfold Ends at early ⊢
  rw [ExceptT.run_bind, early]
  cases outcome with
  | error fault => rfl
  | ok value => exact later value rfl

/-- What a step yields that has no fault goes into the next one. -/
theorem Ends.into {steps : Guarded ε α} {next : α → Guarded ε β} {value : α}
    {outcome : Except ε β} (early : Ends steps (.ok value))
    (later : Ends (next value) outcome) : Ends (steps >>= next) outcome := by
  change Ends (steps >>= next) ((.ok value : Except ε α) >>= fun _ => outcome)
  refine early.bind ?_
  intro _ same
  cases same
  exact later

theorem Ends.mapError {steps : Guarded ε α} {outcome : Except ε α} (ends : Ends steps outcome)
    (change : ε → φ) : Ends (Guarded.mapError change steps) (outcome.mapError change) := by
  unfold Ends at ends ⊢
  unfold Guarded.mapError
  rw [ends]
  rfl

/-! ### Guards -/

theorem ends_long {value : Nat} (bounded : value < addressLimit) :
    Ends (long value : Guarded ε Nat) (.ok value) := by
  unfold long
  rw [if_pos bounded]
  rfl

theorem ends_element {items : Array α} {index : Nat} {item : α}
    (found : items[index]? = some item) : Ends (element items index : Guarded ε α) (.ok item) := by
  unfold element
  rw [found]
  rfl

theorem ends_slice {items : Array α} {start stop : Nat} (order : start ≤ stop)
    (inside : stop ≤ items.size) :
    Ends (slice items start stop : Guarded ε (Array α)) (.ok (items.extract start stop)) := by
  unfold slice
  rw [if_pos ⟨order, inside⟩]
  rfl

theorem ends_descriptor (header : Header) (part : Section) :
    Ends (descriptor header part : Guarded ε SectionDescriptor)
      (.ok (header.sections.get part)) := by
  apply ends_element
  cases part <;> rfl

/-! ### The header -/

/-- The largest end there can be is the largest number of 64 bits. -/
theorem ends_sectionStop (header : Header) (part : Section) :
    Ends (sectionStop header part (header.sections.get part) : Guarded ε Nat)
      (.ok (header.sectionStop part)) := by
  have offset := (header.sections.get part).offset.toNat_lt
  have count := (header.sections.get part).count.toNat_lt
  have itemSize := (header.sections.get part).itemSize.toNat_lt
  have data := header.nameDataSize.toNat_lt
  have size : (header.sections.get part).count.toNat * (header.sections.get part).itemSize.toNat ≤
      (2 ^ 32 - 1) * (2 ^ 32 - 1) := Nat.mul_le_mul (by omega) (by omega)
  unfold sectionStop
  refine (ends_long ?_).into ((ends_long ?_).into ?_)
  · unfold addressLimit
    omega
  · unfold addressLimit
    omega
  · unfold Header.sectionStop SectionDescriptor.stop
    split
    · apply ends_long
      unfold addressLimit
      omega
    · exact ends_pure _

theorem ends_checkSection (header : Header) (fileSize : Nat) (part : Section) :
    Ends (checkSection header fileSize part) (header.checkSection fileSize part) := by
  refine (ends_descriptor header part).into ?_
  refine (ends_ofExcept _).bind fun _ _ => (ends_ofExcept _).bind fun _ _ => ?_
  exact (ends_sectionStop header part).into (ends_ofExcept _)

theorem ends_checkSections (header : Header) (fileSize : Nat) (parts : List Section) :
    Ends (checkSections header fileSize parts) (header.checkSections fileSize parts) := by
  induction parts with
  | nil => exact ends_pure ()
  | cons part rest ih => exact (ends_checkSection header fileSize part).bind fun _ _ => ih

theorem ends_check (header : Header) (fileSize : Nat) :
    Ends (check header fileSize) (header.check fileSize) := by
  refine (ends_ofExcept _).bind fun _ _ => (ends_ofExcept _).bind fun _ _ =>
    (ends_ofExcept _).bind fun _ _ => ?_
  exact ends_checkSections header fileSize Section.all

/-! ### Sections -/

/-- A section that lies in the file begins in it, so that there is something to read from. -/
theorem at?_offset (places : header.Places file.length part) :
    Cursor.at? file (header.sections.get part).offset.toNat =
      some ⟨(header.sections.get part).offset.toNat, InfoFile.fromSection header file part⟩ := by
  have inside := places.inside
  apply if_pos
  omega

theorem ends_fromSection (places : header.Places file.length part) :
    Ends (fromSection header file part : Guarded ε Bytes)
      (.ok (InfoFile.fromSection header file part)) := by
  refine (ends_descriptor header part).into ?_
  rw [at?_offset places]
  exact ends_pure _

theorem ends_reserve (places : header.Places file.length part) :
    Ends (reserve file part (header.records part) : Guarded ε Unit) (.ok ()) := by
  have inside := places.inside
  unfold Header.extent at inside
  unfold reserve
  rw [if_pos (by omega)]
  rfl

/-! ### Names -/

theorem ends_nameAt (data : Array UInt8) (offset length : UInt32) :
    Ends (nameAt data offset length) (NamePool.nameAt data offset.toNat length.toNat) := by
  have first := offset.toNat_lt
  have second := length.toNat_lt
  have small : ¬ addressLimit ≤ offset.toNat + length.toNat := by
    unfold addressLimit
    omega
  unfold nameAt NamePool.nameAt
  cases last : data[offset.toNat + length.toNat]? with
  | none =>
      have outside : data.size ≤ offset.toNat + length.toNat := Array.getElem?_eq_none_iff.mp last
      dsimp only
      rw [if_pos (Or.inr outside)]
      exact ends_throw _
  | some byte =>
      obtain ⟨inside, _⟩ := Array.getElem?_eq_some_iff.mp last
      dsimp only
      rw [if_neg (by omega)]
      refine (ends_element last).into ?_
      split
      · exact ends_throw _
      · refine (ends_slice (Nat.le_add_right _ _) (Nat.le_of_lt inside)).into ?_
        cases Utf8.decode? (data.extract offset.toNat (offset.toNat + length.toNat)).toList with
        | none => exact ends_throw _
        | some name => exact ends_pure _

theorem ends_namesFrom (data : Array UInt8) (index : Nat) (entries : List (UInt32 × UInt32)) :
    Ends (namesFrom data index entries) (NamePool.namesFrom data index entries) := by
  induction entries generalizing index with
  | nil => exact ends_pure []
  | cons entry rest ih =>
      obtain ⟨offset, length⟩ := entry
      have stepwise : NamePool.namesFrom data index ((offset, length) :: rest) =
          (NamePool.nameAt data offset.toNat length.toNat).mapError (index, ·) >>= fun name =>
            NamePool.namesFrom data (index + 1) rest >>= fun names => .ok (name :: names) := by
        rw [NamePool.namesFrom]
        cases NamePool.nameAt data offset.toNat length.toNat with
        | error fault => rfl
        | ok name => cases NamePool.namesFrom data (index + 1) rest <;> rfl
      rw [stepwise]
      refine ((ends_nameAt data offset length).mapError (index, ·)).bind fun name _ => ?_
      exact (ih (index + 1)).bind fun names _ => ends_pure (name :: names)

theorem ends_readNames (places : header.Places file.length .names) :
    Ends (readNames header file) (InfoFile.readNames header file) := by
  have length : (entriesOf header file).length = header.records .names := by
    rw [entriesOf, listOf, List.length_map, List.length_range]
  rw [InfoFile.readNames_eq places]
  refine (ends_descriptor header .names).into ?_
  refine (ends_fromSection places).into ((ends_reserve places).into ?_)
  rw [InfoFile.readEntries_names places]
  dsimp only
  rw [InfoFile.take_nameData places]
  dsimp only
  rw [length]
  exact (ends_reserve places).into ((ends_namesFrom _ 0 _).mapError _)

/-! ### Lists of records -/

theorem ends_readRecords (places : header.Places file.length part) {reading : RecordReading α}
    (needs : RecordReading.Needs reading part.itemSize.toNat) :
    Ends (readRecords header file part reading)
      (InfoFile.readRecords header file part reading) := by
  have inside := places.inside
  unfold Header.extent Header.records at inside
  have enough : (header.sections.get part).count.toNat * part.itemSize.toNat ≤
      (InfoFile.fromSection header file part).length := by
    unfold InfoFile.fromSection
    rw [List.length_drop]
    omega
  have complete (index : Nat) := RecordReading.many_ne_truncated needs
    (header.sections.get part).count.toNat 0 index enough
  refine (ends_descriptor header part).into ?_
  refine (ends_fromSection places).into ((ends_reserve places).into ?_)
  unfold InfoFile.readRecords
  cases outcome : RecordReading.many reading (header.sections.get part).count.toNat 0
      (InfoFile.fromSection header file part) with
  | ok items => exact ends_pure items
  | error refused =>
      obtain ⟨index, fault⟩ := refused
      cases fault with
      | truncated => exact absurd outcome (complete index)
      | unknownName => exact ends_throw _
      | unknownKind => exact ends_throw _
      | outsideImage => exact ends_throw _

theorem ends_readLists (places : ∀ part, header.Places file.length part) (names : Array String) :
    Ends (readLists header file names) (InfoFile.readLists header file names) := by
  refine (ends_readRecords (places .dependencies) (.dependency names)).bind fun _ _ => ?_
  refine (ends_readRecords (places .pragmas) (.pragma names)).bind fun _ _ => ?_
  refine (ends_readRecords (places .objectSlots) .objectSlot).bind fun _ _ => ?_
  refine (ends_readRecords (places .globals) (.exportedVariable header names)).bind fun _ _ => ?_
  refine (ends_readRecords (places .functionNames) (.name names)).bind fun _ _ => ?_
  refine (ends_readRecords (places .kernels) (.kernelEntry names)).bind fun _ _ => ?_
  refine (ends_readRecords (places .functions) (.function header names)).bind fun _ _ => ?_
  exact ends_pure _

/-- What has been checked of the header is what all later steps rely on. -/
theorem ends_parse (file : Bytes) : Ends (parse file) (InfoFile.parse file) := by
  unfold parse InfoFile.parse
  by_cases small : file.length < Header.size
  · have headless : Header.reading file = none := by
      cases read : Header.reading file with
      | none => rfl
      | some result =>
          obtain ⟨enough, _⟩ := Header.reading_eq_some_iff.mp read
          omega
    rw [if_pos small, headless]
    exact ends_throw _
  · rw [if_neg small]
    cases Header.reading file with
    | none => exact ends_throw _
    | some result =>
        obtain ⟨header, rest⟩ := result
        refine (ends_check header file.length).bind fun _ checked => ?_
        obtain ⟨_, _, _, places⟩ := Header.check_eq_ok_iff.mp checked
        refine (ends_readNames (places .names)).bind fun names _ => ?_
        exact (ends_readLists places names.toArray).bind fun _ _ => ends_pure _

end Guarded

end KernelStore
