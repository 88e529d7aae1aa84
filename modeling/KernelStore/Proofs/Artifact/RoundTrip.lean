import KernelStore.Proofs.Artifact.RecordReading
import KernelStore.Proofs.Artifact.Written

/-!
Writing a metadata file and reading it back. What is read is what was written when all exported
variables and functions lie in the image; else the first record that does not is named.
-/

namespace KernelStore

/-! ### Reading a written file -/

namespace InfoFile

theorem readNames_eq_ok {header : Header} {file : Bytes} {metadata : Metadata}
    (fits : metadata.Fits) (found : SectionFound header file metadata .names)
    (size : header.nameDataSize.toNat = metadata.pool.data.length) :
    readNames header file = .ok metadata.pool.names := by
  obtain ⟨behind, content⟩ := found.content
  have count : (header.sections.get .names).count.toNat = metadata.pool.entries.length := by
    rw [found.count]
    exact (NamePool.length_entriesFrom metadata.pool.names 0).symm
  have taken : Reading.take header.nameDataSize.toNat (metadata.pool.data ++ behind) =
      some (metadata.pool.data, behind) := by
    rw [size]
    exact Reading.take_append _ _
  have decoded := NamePool.decode_entries metadata.pool
    fun entry member => ⟨fits.nameOffset entry member, fits.nameLength entry member⟩
  have read : (do
      let entries ← readEntries metadata.pool.entries.length
      return (entries, ← Reading.take header.nameDataSize.toNat) : Reading _)
        (metadata.pool.entries.flatMap NamePool.entryBytes ++ (metadata.pool.data ++ behind)) =
      some ((metadata.pool.entries.map NamePool.entryWords, metadata.pool.data), behind) := by
    rw [Reading.bind_of_some (Reading.readEntries_bytes _ _), Reading.bind_of_some taken]
    rfl
  simp only [readNames, content, count, Metadata.sectionBytes, List.append_assoc, read, decoded]
  rfl

section Lists

variable {α : Type} {header : Header} {file : Bytes} {metadata : Metadata} {part : Section}
variable (found : SectionFound header file metadata part)
variable {reading : RecordReading α} {encode : α → Bytes} {items : List α}
variable (count : metadata.count metadata.pool part = items.length)
variable (bytes : metadata.sectionBytes metadata.pool part = items.flatMap encode)

include found count bytes

theorem readRecords_checked (passes : α → Bool) (fault : RecordFault)
    (each : ∀ item ∈ items, ∀ behind, reading (encode item ++ behind) =
      if passes item then .ok (item, behind) else .error fault) :
    readRecords header file part reading =
      match items.findIdx? (!passes ·) with
      | some index => .error (.record part index)
      | none => .ok items := by
  obtain ⟨behind, content⟩ := found.content
  rw [readRecords, found.count, count, content, bytes,
    RecordReading.many_flatMap passes fault items 0 behind each]
  cases items.findIdx? (!passes ·) with
  | none => rfl
  | some index => simp only [Except.mapError, Nat.zero_add]

theorem readRecords_unchecked
    (each : ∀ item ∈ items, ∀ behind, reading (encode item ++ behind) = .ok (item, behind)) :
    readRecords header file part reading = .ok items := by
  have passing : items.findIdx? (fun _ => !true) = none :=
    List.findIdx?_eq_none_iff.mpr (fun _ _ => rfl)
  have read := readRecords_checked found count bytes (fun _ => true) .truncated each
  rw [read, passing]

end Lists

end InfoFile

namespace Metadata

/-- Every name that a record refers to is in the pool. -/
theorem mem_pool {metadata : Metadata} {name : String}
    (used : (∃ dependency ∈ metadata.dependencies, dependency.name = name) ∨
      (∃ pragma ∈ metadata.pragmas, pragma.key = name ∨ pragma.value = name) ∨
      (∃ exported ∈ metadata.globals, exported.name = name) ∨ name ∈ metadata.functionNames ∨
      (∃ kernel ∈ metadata.kernels, kernel.name = name) ∨
      ∃ function ∈ metadata.functions, function.name = name) :
    name ∈ metadata.pool.names := by
  apply NamePool.mem_ofNames
  simpa only [allNames, List.mem_append, List.mem_map, List.mem_flatMap, List.mem_cons,
    List.not_mem_nil, or_false, or_assoc, eq_comm] using used

/-- The section and the index of the first record that lies outside the image. -/
def firstOutside? (metadata : Metadata) (header : Header) : Option (Section × Nat) :=
  match metadata.globals.findIdx? (fun exported => !header.holds exported.address.toNat 1) with
  | some index => some (.globals, index)
  | none =>
      (metadata.functions.findIdx? fun function =>
        !header.holds function.address.toNat function.size.toNat).map (.functions, ·)

theorem threadable_headerFor (metadata : Metadata) (address : UInt64) (image : Content) :
    (metadata.headerFor address image).threadable = metadata.threadable := by
  simp only [Header.threadable, headerFor, flags]
  cases metadata.threadable <;> cases metadata.debugInfo <;> rfl

theorem debugInfo_headerFor (metadata : Metadata) (address : UInt64) (image : Content) :
    (metadata.headerFor address image).debugInfo = metadata.debugInfo := by
  simp only [Header.debugInfo, headerFor, flags]
  cases metadata.threadable <;> cases metadata.debugInfo <;> rfl

theorem readLists_eq {metadata : Metadata} (fits : metadata.Fits) {address : UInt64}
    {image : Content} {file : Bytes}
    (found : ∀ part, SectionFound (metadata.headerFor address image) file metadata part) :
    InfoFile.readLists (metadata.headerFor address image) file metadata.pool.names.toArray =
      match metadata.firstOutside? (metadata.headerFor address image) with
      | some (part, index) => .error (.record part index)
      | none => .ok metadata := by
  have small : metadata.pool.names.length < 2 ^ 32 := fits.count .names
  have dependencies := InfoFile.readRecords_unchecked (found .dependencies) rfl rfl
    fun item member => RecordReading.dependency_encode small item
      (mem_pool (.inl ⟨item, member, rfl⟩))
  have pragmas := InfoFile.readRecords_unchecked (found .pragmas) rfl rfl
    fun item member => RecordReading.pragma_encode small item
      (mem_pool (.inr (.inl ⟨item, member, .inl rfl⟩)))
      (mem_pool (.inr (.inl ⟨item, member, .inr rfl⟩)))
  have objectSlots := InfoFile.readRecords_unchecked (found .objectSlots) rfl rfl
    fun item _ => RecordReading.u32_append item
  have globals := InfoFile.readRecords_checked (found .globals) rfl rfl _ _
    fun item member => RecordReading.exportedVariable_encode small
      (metadata.headerFor address image) item
      (mem_pool (.inr (.inr (.inl ⟨item, member, rfl⟩))))
  have functionNames := InfoFile.readRecords_unchecked (found .functionNames) rfl rfl
    fun item member => RecordReading.name_reference small
      (mem_pool (.inr (.inr (.inr (.inl member)))))
  have kernels := InfoFile.readRecords_unchecked (found .kernels) rfl rfl
    fun item member => RecordReading.kernelEntry_encode small item
      (mem_pool (.inr (.inr (.inr (.inr (.inl ⟨item, member, rfl⟩))))))
  have functions := InfoFile.readRecords_checked (found .functions) rfl rfl _ _
    fun item member => RecordReading.function_bytes small (metadata.headerFor address image) item
      (fits.functionSize item member)
      (mem_pool (.inr (.inr (.inr (.inr (.inr ⟨item, member, rfl⟩))))))
  unfold InfoFile.readLists firstOutside?
  rw [dependencies, pragmas, RecordReading.objectSlot, objectSlots, globals, functionNames, kernels,
    functions, threadable_headerFor, debugInfo_headerFor]
  cases metadata.globals.findIdx? _ with
  | some index => rfl
  | none =>
      cases metadata.functions.findIdx? _ with
      | some index => rfl
      | none => rfl

/-- Reading the header of a written file and whatever holds the sections that it tells of. -/
theorem parse_of_found {metadata : Metadata} (fits : metadata.Fits) {address : UInt64}
    {image : Content} {body : Bytes}
    (found : ∀ part, SectionFound (metadata.headerFor address image)
      ((metadata.headerFor address image).encode ++ body) metadata part) :
    InfoFile.parse ((metadata.headerFor address image).encode ++ body) =
      match metadata.firstOutside? (metadata.headerFor address image) with
      | some (part, index) => .error (.record part index)
      | none => .ok ⟨metadata.headerFor address image, metadata⟩ := by
  have names := InfoFile.readNames_eq_ok fits (found .names)
    (fits.nameDataSize_headerFor address image)
  simp only [InfoFile.parse, Header.reading_encode]
  rw [check_headerFor found, names]
  change (InfoFile.readLists _ _ metadata.pool.names.toArray >>= _) = _
  rw [readLists_eq fits found]
  cases metadata.firstOutside? (metadata.headerFor address image) with
  | some first => rfl
  | none => rfl

theorem parse_fileFor {metadata : Metadata} (fits : metadata.Fits) (address : UInt64)
    (image : Content) :
    InfoFile.parse (metadata.fileFor address image) =
      match metadata.firstOutside? (metadata.headerFor address image) with
      | some (part, index) => .error (.record part index)
      | none => .ok ⟨metadata.headerFor address image, metadata⟩ :=
  parse_of_found fits (fits.sectionFound address image)

/-- A written file yields nothing but what was written. -/
theorem parse_encoded {metadata : Metadata} {address : UInt64} {image : Content} {file : Bytes}
    {info : InfoFile} (encoded : metadata.encode address image = .ok file)
    (parsed : InfoFile.parse file = .ok info) :
    info = ⟨metadata.headerFor address image, metadata⟩ := by
  obtain ⟨fits, rfl⟩ := (metadata.encode_eq_ok_iff address image file).mp encoded
  rw [parse_fileFor fits] at parsed
  cases outside : metadata.firstOutside? (metadata.headerFor address image) with
  | some first =>
      rw [outside] at parsed
      cases parsed
  | none =>
      rw [outside] at parsed
      exact (Except.ok.inj parsed).symm

/-! ### The round trip -/

/-- A range of addresses lies in the image, or in what of it the address space holds. -/
def InImage (address : UInt64) (image : Content) (start size : Nat) : Prop :=
  address.toNat ≤ start ∧ start + size ≤ min (address.toNat + image.size) (addressLimit - 1)

theorem holds_headerFor_iff (metadata : Metadata) (address : UInt64) (image : Content)
    (bounded : image.size < addressLimit) (start size : Nat) :
    (metadata.headerFor address image).holds start size = true ↔
      InImage address image start size := by
  rw [Header.holds, Bool.and_eq_true, decide_eq_true_iff, decide_eq_true_iff, Header.imageStop]
  simp only [headerFor, toNat_ofNat_of_lt bounded, InImage]

theorem findIdx?_not_eq_some {α : Type} {passes : α → Bool} {items : List α} {index : Nat}
    {item : α} (here : items[index]? = some item) (fails : passes item = false)
    (earlier : ∀ before < index, ∀ other, items[before]? = some other → passes other = true) :
    items.findIdx? (!passes ·) = some index := by
  obtain ⟨inside, rfl⟩ := List.getElem?_eq_some_iff.mp here
  rw [List.findIdx?_eq_some_iff_getElem]
  refine ⟨inside, by rw [fails]; rfl, ?_⟩
  intro before less
  rw [earlier before less _ (List.getElem?_eq_getElem _)]
  decide

theorem findIdx?_not_eq_none {α : Type} {passes : α → Bool} {items : List α}
    (each : ∀ item ∈ items, passes item = true) : items.findIdx? (!passes ·) = none := by
  rw [List.findIdx?_eq_none_iff]
  intro item member
  rw [each item member]
  rfl

section FirstOutside

variable {metadata : Metadata} {header : Header}

theorem firstOutside?_eq_none
    (globals : ∀ exported ∈ metadata.globals, header.holds exported.address.toNat 1 = true)
    (functions : ∀ function ∈ metadata.functions,
      header.holds function.address.toNat function.size.toNat = true) :
    metadata.firstOutside? header = none := by
  rw [firstOutside?, findIdx?_not_eq_none globals, findIdx?_not_eq_none functions]
  rfl

theorem firstOutside?_eq_globals {index : Nat} {exported : ExportedVariable}
    (here : metadata.globals[index]? = some exported)
    (fails : header.holds exported.address.toNat 1 = false)
    (earlier : ∀ before < index, ∀ other, metadata.globals[before]? = some other →
      header.holds other.address.toNat 1 = true) :
    metadata.firstOutside? header = some (.globals, index) := by
  rw [firstOutside?, findIdx?_not_eq_some here fails earlier]

theorem firstOutside?_eq_functions {index : Nat} {function : FunctionRecord}
    (globals : ∀ exported ∈ metadata.globals, header.holds exported.address.toNat 1 = true)
    (here : metadata.functions[index]? = some function)
    (fails : header.holds function.address.toNat function.size.toNat = false)
    (earlier : ∀ before < index, ∀ other, metadata.functions[before]? = some other →
      header.holds other.address.toNat other.size.toNat = true) :
    metadata.firstOutside? header = some (.functions, index) := by
  rw [firstOutside?, findIdx?_not_eq_none globals, findIdx?_not_eq_some here fails earlier]
  rfl

end FirstOutside

/-- A metadata file is written exactly when all numbers fit, and reading it yields what was written,
or the first variable, and after all variables the first function, that lies outside the image. -/
theorem parse_encode (metadata : Metadata) (address : UInt64) (image : Content)
    (bounded : image.size < addressLimit) :
    ((∃ file, metadata.encode address image = .ok file) ↔ metadata.Fits) ∧
    (∀ fault, metadata.encode address image = .error fault → 2 ^ 32 ≤ fault.value) ∧
    ∀ file, metadata.encode address image = .ok file →
      ((∀ exported ∈ metadata.globals, InImage address image exported.address.toNat 1) →
        (∀ function ∈ metadata.functions,
          InImage address image function.address.toNat function.size.toNat) →
        ∃ header, InfoFile.parse file = .ok ⟨header, metadata⟩ ∧ header.imageAddress = address ∧
          header.imageSize.toNat = image.size ∧ header.checksum = Parity.parity image.bytes) ∧
      (∀ index exported, metadata.globals[index]? = some exported →
        ¬InImage address image exported.address.toNat 1 →
        (∀ before < index, ∀ other, metadata.globals[before]? = some other →
          InImage address image other.address.toNat 1) →
        InfoFile.parse file = .error (.record .globals index)) ∧
      ((∀ exported ∈ metadata.globals, InImage address image exported.address.toNat 1) →
        ∀ index function, metadata.functions[index]? = some function →
        ¬InImage address image function.address.toNat function.size.toNat →
        (∀ before < index, ∀ other, metadata.functions[before]? = some other →
          InImage address image other.address.toNat other.size.toNat) →
        InfoFile.parse file = .error (.record .functions index)) := by
  have inside := metadata.holds_headerFor_iff address image bounded
  have outside (start size : Nat) (out : ¬InImage address image start size) :
      (metadata.headerFor address image).holds start size = false := by
    rw [← Bool.not_eq_true, inside]
    exact out
  refine ⟨?_, metadata.refusesLarge_encode address image, ?_⟩
  · simp only [encode_eq_ok_iff, exists_and_left, exists_eq, and_true]
  · intro file written
    obtain ⟨fits, rfl⟩ := (metadata.encode_eq_ok_iff address image file).mp written
    rw [parse_fileFor fits]
    refine ⟨?_, ?_, ?_⟩
    · intro globals functions
      rw [firstOutside?_eq_none (by simpa only [inside] using globals)
        (by simpa only [inside] using functions)]
      exact ⟨_, rfl, rfl, toNat_ofNat_of_lt bounded, image.parity_eq⟩
    · intro index exported here out earlier
      rw [firstOutside?_eq_globals here (outside _ _ out) (by simpa only [inside] using earlier)]
    · intro globals index function here out earlier
      rw [firstOutside?_eq_functions (by simpa only [inside] using globals) here (outside _ _ out)
        (by simpa only [inside] using earlier)]

/-- Names that repeat, are empty or hold a zero byte, and a function at the end of the addresses. -/
def boundaryCase (globals : List ExportedVariable) : Metadata where
  threadable := true
  pragmas := [⟨"a\x00b", ""⟩, ⟨"a\x00b", "v"⟩]
  globals := globals
  functions := [⟨"f", 0xfffffffffffffffc, 3⟩]

/-- The last address but one can be exported, the last one cannot. -/
theorem parse_encode_boundaryCase :
    (Content.ofBytes [1, 2, 3, 4]).size < addressLimit ∧
    (∃ file header, (boundaryCase [⟨"", 0xfffffffffffffffe⟩]).encode 0xfffffffffffffffc
        (.ofBytes [1, 2, 3, 4]) = .ok file ∧
      InfoFile.parse file = .ok ⟨header, boundaryCase [⟨"", 0xfffffffffffffffe⟩]⟩) ∧
    ∃ file, (boundaryCase [⟨"", 0xfffffffffffffffe⟩, ⟨"", 0xffffffffffffffff⟩]).encode
        0xfffffffffffffffc (.ofBytes [1, 2, 3, 4]) = .ok file ∧
      InfoFile.parse file = .error (.record .globals 1) := by
  have bounded : (Content.ofBytes [1, 2, 3, 4]).size < addressLimit := by decide
  have accepted := parse_encode (boundaryCase [⟨"", 0xfffffffffffffffe⟩]) 0xfffffffffffffffc _
    bounded
  have refused := parse_encode (boundaryCase [⟨"", 0xfffffffffffffffe⟩, ⟨"", 0xffffffffffffffff⟩])
    0xfffffffffffffffc _ bounded
  obtain ⟨file, written⟩ := accepted.1.mpr
    ⟨by decide, by intro part; cases part <;> decide, by decide, by decide, by decide, by decide⟩
  obtain ⟨other, alsoWritten⟩ := refused.1.mpr
    ⟨by decide, by intro part; cases part <;> decide, by decide, by decide, by decide, by decide⟩
  obtain ⟨header, read, _⟩ := (accepted.2.2 file written).1
    (by simp only [InImage]; decide) (by simp only [InImage]; decide)
  have named := (refused.2.2 other alsoWritten).2.1 1 _ rfl
    (by simp only [InImage]; decide) (by
      intro before less other found
      obtain rfl : before = 0 := by omega
      cases found
      simp only [InImage]
      decide)
  exact ⟨bounded, ⟨file, header, written, read⟩, other, alsoWritten, named⟩

end Metadata

end KernelStore
