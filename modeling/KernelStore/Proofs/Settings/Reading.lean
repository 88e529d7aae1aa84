import KernelStore.Proofs.Settings.Agreement
import KernelStore.Proofs.Toml.Range
import KernelStore.Settings.File

/-!
Which settings can be read. Their numbers are those that a document can give, and there is a layout
of them.
-/

namespace KernelStore.Settings

open Toml

section

variable {keys : List String} {node : Node} (inRange : node.InRange) {key : String}

include inRange

theorem part?_inRange {part : Node} (found : part? keys node key = some (some part)) :
    part.InRange := by
  unfold part? at found
  split at found
  · rw [Option.some.injEq] at found
    exact (Node.inRange_table_iff.mp inRange).find? found
  · rename_i items
    cases inRange with
    | array each => exact each part (List.mem_of_getElem? (Option.some.inj found))
  · rename_i elements
    obtain ⟨element, isElement, rfl⟩ :=
      List.mem_map.mp (List.mem_of_getElem? (Option.some.inj found))
    exact .table _ (Node.inRange_tables_iff.mp inRange element (List.mem_reverse.mp isElement))
  · cases found
  · cases found

/-- What an optional part yields, it yields of a part in range or without any. -/
theorem optional_of_inRange {α : Type} (property : α → Prop) {read : Node → Option α}
    {otherwise value : α} (absent : property otherwise)
    (present : ∀ {part}, part.InRange → ∀ {value}, read part = some value → property value)
    (found : optional keys read node key otherwise = some value) : property value := by
  obtain ⟨part, isPart, found⟩ := Option.bind_eq_some_iff.mp found
  cases part with
  | none =>
      cases found
      exact absent
  | some part => exact present (part?_inRange inRange isPart) found

theorem natural?_le {value : Nat} (read : natural? node = some value) :
    (value : Int) ≤ largestInteger := by
  unfold natural? at read
  split at read
  · obtain ⟨positive, made⟩ := Option.ite_none_right_eq_some.mp read
    cases made
    cases inRange with
    | integer low high => rw [Int.toNat_of_nonneg positive]; exact high
  · cases read

theorem memory?_expressible {memory : MemorySettings} (read : memory? node = some memory) :
    memory.Expressible := by
  have default := MemorySettings.expressible_default
  have number {keys : List String} {key : String} {otherwise value : Nat}
      (small : otherwise ≤ largestInteger)
      (found : optional keys natural? node key otherwise = some value) :
      value ≤ largestInteger :=
    optional_of_inRange inRange (fun value : Nat => value ≤ largestInteger) small natural?_le found
  obtain ⟨base, isBase, read⟩ := Option.bind_eq_some_iff.mp read
  obtain ⟨count, isCount, read⟩ := Option.bind_eq_some_iff.mp read
  obtain ⟨code, isCode, read⟩ := Option.bind_eq_some_iff.mp read
  obtain ⟨data, isData, read⟩ := Option.bind_eq_some_iff.mp read
  obtain ⟨got, isGot, made⟩ := Option.bind_eq_some_iff.mp read
  cases made
  exact {
    baseAddress := number default.baseAddress isBase
    slotCount := number default.slotCount isCount
    codeSize := number default.codeSize isCode
    dataSize := number default.dataSize isData
    gotSize := number default.gotSize isGot }

end

theorem ofEntries?_expressible {entries : Entries} (inRange : entries.InRange)
    {settings : Settings} (read : ofEntries? entries = some settings) :
    settings.memory.Expressible := by
  obtain ⟨memory, isMemory, read⟩ := Option.bind_eq_some_iff.mp read
  obtain ⟨cache, isCache, made⟩ := Option.bind_eq_some_iff.mp read
  cases made
  exact optional_of_inRange (.table _ inRange) MemorySettings.Expressible
    MemorySettings.expressible_default memory?_expressible isMemory

/-- Settings that pass are settings whose memory passes. -/
theorem memoryFault?_of_fault? {settings : Settings} (sound : settings.fault? = none) :
    memoryFault? settings.memory = none := by
  rw [fault?, Option.or_eq_none_iff] at sound
  exact sound.1

theorem read_expressible {text : String} {settings : Settings}
    (isRead : read text = .ok settings) :
    settings.memory.Expressible ∧ memoryFault? settings.memory = none := by
  unfold read at isRead
  split at isRead
  · cases isRead
  · rename_i found given
    split at isRead
    · cases isRead
    · rename_i sound
      cases isRead
      obtain ⟨entries, isDocument, isSettings⟩ := Option.bind_eq_some_iff.mp given
      exact ⟨ofEntries?_expressible (document?_inRange isDocument) isSettings,
        memoryFault?_of_fault? sound⟩

theorem exists_layout_of_read {text : String} {settings : Settings}
    (isRead : read text = .ok settings) :
    ∃ layout, Layout.ofSettings settings.memory = .ok layout :=
  memoryFault?_eq_none_iff_exists.mp (read_expressible isRead).2

theorem exists_layout_of_ofFile {content : Except FileError Bytes} {settings : Settings}
    (isRead : ofFile content = .ok settings) :
    ∃ layout, Layout.ofSettings settings.memory = .ok layout := by
  unfold ofFile at isRead
  split at isRead
  · cases isRead
  · rename_i text _
    cases outcome : read text with
    | error fault =>
        rw [outcome] at isRead
        cases isRead
    | ok found =>
        rw [outcome] at isRead
        cases isRead
        exact exists_layout_of_read outcome

theorem exists_layout_of_ofFileOrDefault {content : Except FileError Bytes} {settings : Settings}
    (isRead : ofFileOrDefault content = .ok settings) :
    ∃ layout, Layout.ofSettings settings.memory = .ok layout := by
  unfold ofFileOrDefault at isRead
  split at isRead
  · cases isRead
    exact memoryFault?_eq_none_iff_exists.mp (by decide)
  · exact exists_layout_of_ofFile isRead

end KernelStore.Settings
