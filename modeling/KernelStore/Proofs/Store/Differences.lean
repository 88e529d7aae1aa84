import KernelStore.Proofs.Store.Lookups
import KernelStore.Store.Reader

/-!
What a comparison of dependencies finds. Two lists of one length are told apart by their first
entries that differ, and these by the first of their fields that does. Main statement: a comparison
succeeds just if all is as wanted, and otherwise names the first difference there is, a precision
only where the dependencies are the same.
-/

namespace KernelStore

namespace Wanted

/-- The first field in which two dependencies differ, in the order of name, kind and digest. -/
inductive ToldApart (wanted found : Dependency) : DependencyField → Prop
  | name (names : wanted.name ≠ found.name) : ToldApart wanted found .name
  | kind (names : wanted.name = found.name) (kinds : wanted.kind ≠ found.kind) :
      ToldApart wanted found .kind
  | digest (names : wanted.name = found.name) (kinds : wanted.kind = found.kind)
      (digests : wanted.digest ≠ found.digest) : ToldApart wanted found .digest

/-- The first entries in which two lists differ. -/
structure FirstApart (wanted found : List Dependency) (index : Nat) (entry other : Dependency) :
    Prop where
  before : ∀ earlier < index, wanted[earlier]? = found[earlier]?
  wanted : wanted[index]? = some entry
  found : found[index]? = some other
  apart : entry ≠ other

theorem ToldApart.ne {wanted found : Dependency} {field : DependencyField}
    (told : ToldApart wanted found field) : wanted ≠ found := by
  rintro rfl
  cases told with
  | name names => exact names rfl
  | kind _ kinds => exact kinds rfl
  | digest _ _ digests => exact digests rfl

theorem toldApart_of_differingField? {wanted found : Dependency} {field : DependencyField}
    (differs : differingField? wanted found = some field) : ToldApart wanted found field := by
  unfold differingField? at differs
  split at differs
  · rename_i names
    cases differs
    exact .name names
  rename_i names
  split at differs
  · rename_i kinds
    cases differs
    exact .kind (not_not.mp names) kinds
  rename_i kinds
  split at differs
  · rename_i digests
    cases differs
    exact .digest (not_not.mp names) (not_not.mp kinds) digests
  · cases differs

/-- Equal entries at the front only move the first difference. -/
theorem FirstApart.cons {wanted found : List Dependency} {index : Nat} {entry other : Dependency}
    (first : FirstApart wanted found index entry other) (head : Dependency) :
    FirstApart (head :: wanted) (head :: found) (index + 1) entry other where
  before := by
    intro earlier before
    cases earlier with
    | zero => rfl
    | succ earlier => exact first.before earlier (Nat.lt_of_succ_lt_succ before)
  wanted := first.wanted
  found := first.found
  apart := first.apart

theorem exists_firstApart (start : Nat) {wanted found : List Dependency}
    (sameLength : found.length = wanted.length) (differ : found ≠ wanted) :
    ∃ index entry other field, FirstApart wanted found index entry other ∧
      ToldApart entry other field ∧
      firstDifference? start wanted found =
        some (.dependency (start + index) entry.name field) := by
  induction wanted generalizing start found with
  | nil => exact absurd (List.eq_nil_of_length_eq_zero sameLength) differ
  | cons first rest ih =>
      cases found with
      | nil => cases sameLength
      | cons head tail =>
          unfold firstDifference?
          cases differs : differingField? first head with
          | some field =>
              have told := toldApart_of_differingField? differs
              have before (earlier : Nat) (below : earlier < 0) :
                  (first :: rest)[earlier]? = (head :: tail)[earlier]? :=
                absurd below (Nat.not_lt_zero earlier)
              exact ⟨0, first, head, field, ⟨before, rfl, rfl, told.ne⟩, told, rfl⟩
          | none =>
              have same := differingField?_eq_none_iff.mp differs
              subst same
              have later : tail ≠ rest := fun same => differ (congrArg (first :: ·) same)
              obtain ⟨index, entry, other, field, apart, told, found⟩ :=
                ih (start + 1) (Nat.succ.inj sameLength) later
              refine ⟨index + 1, entry, other, field, apart.cons first, told, ?_⟩
              dsimp only
              rw [found, Nat.add_assoc, Nat.add_comm 1 index]

theorem difference?_of_length {wanted : Wanted} {metadata : Metadata}
    (lengths : metadata.dependencies.length ≠ wanted.dependencies.length) :
    wanted.difference? metadata =
      some (.dependencyCount wanted.dependencies.length metadata.dependencies.length) := by
  unfold difference?
  rw [if_pos lengths]

theorem difference?_of_entries {wanted : Wanted} {metadata : Metadata} {reason : MissReason}
    (sameLength : metadata.dependencies.length = wanted.dependencies.length)
    (found : firstDifference? 0 wanted.dependencies metadata.dependencies = some reason) :
    wanted.difference? metadata = some reason := by
  unfold difference?
  rw [if_neg (not_not.mpr sameLength), found]

theorem difference?_of_same {wanted : Wanted} {metadata : Metadata}
    (same : metadata.dependencies = wanted.dependencies) :
    wanted.difference? metadata = wanted.precision.bind fun required =>
      if metadata.precision = required then none
      else some (.precision required metadata.precision) := by
  unfold difference?
  rw [if_neg (not_not.mpr (congrArg List.length same)),
    (firstDifference?_eq_none_iff (congrArg List.length same)).mpr same.symm]
  cases wanted.precision <;> rfl

/-- A precision is found wrong only where nothing else is. -/
theorem difference?_eq_precision_iff {wanted : Wanted} {metadata : Metadata}
    {required found : Precision} :
    wanted.difference? metadata = some (.precision required found) ↔
      metadata.dependencies = wanted.dependencies ∧ wanted.precision = some required ∧
        metadata.precision = found ∧ found ≠ required := by
  by_cases sameLength : metadata.dependencies.length = wanted.dependencies.length
  · by_cases same : metadata.dependencies = wanted.dependencies
    · rw [difference?_of_same same]
      cases wanted.precision with
      | none => simp
      | some precision =>
          rw [Option.bind_some]
          split
          · rename_i met
            constructor
            · exact nofun
            · rintro ⟨_, asked, rfl, unmet⟩
              exact absurd (met.trans (Option.some.inj asked)) unmet
          · rename_i unmet
            constructor
            · intro told
              cases told
              exact ⟨same, rfl, rfl, unmet⟩
            · rintro ⟨_, asked, rfl, _⟩
              cases asked
              rfl
    · obtain ⟨index, entry, other, field, _, _, differs⟩ := exists_firstApart 0 sameLength same
      rw [difference?_of_entries sameLength differs]
      constructor
      · exact nofun
      · intro told
        exact absurd told.1 same
  · rw [difference?_of_length sameLength]
    constructor
    · exact nofun
    · intro told
      exact absurd (congrArg List.length told.1) sameLength

end Wanted

namespace Reader

variable {reader : Reader} {metadata : Metadata}

theorem compare_eq_ok_iff :
    reader.compare metadata = .ok () ↔ reader.wanted.difference? metadata = none := by
  unfold compare
  cases reader.wanted.difference? metadata <;> simp

theorem compare_eq_error_iff {reason : MissReason} :
    reader.compare metadata = .error reason ↔
      reader.wanted.difference? metadata = some reason := by
  unfold compare
  cases reader.wanted.difference? metadata <;> simp

/-- A comparison succeeds just if the dependencies are the wanted ones, in their order, and the
required precision is met. Otherwise it tells the numbers of dependencies where these differ, or
else the first entry that differs, by its wanted name and the first field that does; and a precision
just where the dependencies are the same. -/
theorem compare_tells_first_difference (reader : Reader) (metadata : Metadata) :
    let wanted := reader.wanted.dependencies
    let found := metadata.dependencies
    (reader.compare metadata = .ok () ↔
      found = wanted ∧ ∀ required, reader.wanted.precision = some required →
        metadata.precision = required) ∧
    (found.length ≠ wanted.length →
      reader.compare metadata = .error (.dependencyCount wanted.length found.length)) ∧
    (found.length = wanted.length → found ≠ wanted →
      ∃ index entry other field, Wanted.FirstApart wanted found index entry other ∧
        Wanted.ToldApart entry other field ∧
        reader.compare metadata = .error (.dependency index entry.name field)) ∧
    ∀ required precision, reader.compare metadata = .error (.precision required precision) ↔
      found = wanted ∧ reader.wanted.precision = some required ∧
        metadata.precision = precision ∧ precision ≠ required := by
  refine ⟨?_, ?_, ?_, ?_⟩
  · rw [compare_eq_ok_iff, Wanted.difference?_eq_none_iff]
  · intro lengths
    exact compare_eq_error_iff.mpr (Wanted.difference?_of_length lengths)
  · intro sameLength differ
    obtain ⟨index, entry, other, field, apart, told, found⟩ :=
      Wanted.exists_firstApart 0 sameLength differ
    rw [Nat.zero_add] at found
    exact ⟨index, entry, other, field, apart, told,
      compare_eq_error_iff.mpr (Wanted.difference?_of_entries sameLength found)⟩
  · intro required precision
    rw [compare_eq_error_iff, Wanted.difference?_eq_precision_iff]

/-- Wants a library and a source, and full precision. -/
def twoEntryReader : Reader where
  files := {}
  placement := .standard
  table := ⟨0, ⟨0x600000, 1, 4096, 4096, 8, by decide⟩⟩
  wanted := ⟨[⟨"runtime.bc", .runtime, .zero⟩, ⟨"blur.bc", .source, .zero⟩], some .full⟩
  isReporting := false

/-- The second entry differs in its kind and in its digest, and the kernel is a relaxed one. -/
def metadataApart : Metadata where
  dependencies :=
    [⟨"runtime.bc", .runtime, .zero⟩, ⟨"blur.bc", .runtime, ⟨List.replicate 20 1, rfl⟩⟩]
  pragmas := [⟨Precision.relaxedKey, ""⟩]

theorem compare_tells_first_difference_in_kind :
    twoEntryReader.compare metadataApart = .error (.dependency 1 "blur.bc" .kind) := by
  obtain ⟨_, _, entries, _⟩ := compare_tells_first_difference twoEntryReader metadataApart
  obtain ⟨index, entry, other, field, first, told, compared⟩ := entries rfl (by decide)
  rcases index with _ | _ | index
  · -- The first entries are the same.
    cases first.wanted
    cases first.found
    exact absurd rfl first.apart
  · cases first.wanted
    cases first.found
    cases told with
    | name names => exact absurd rfl names
    | kind _ kinds => exact compared
    | digest _ kinds digests => cases kinds
  · cases first.wanted

end Reader

end KernelStore
