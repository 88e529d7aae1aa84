import KernelStore.CommandLine.Execution
import KernelStore.Proofs.Settings.Reading
import KernelStore.Store.Kernel

/-!
What becomes of settings that were accepted. Main statement: the two checks of memory settings
agree, on numbers and on words, and therefore neither a store nor a command ever refuses settings
for their layout.
-/

namespace KernelStore

/-! ### Messages -/

/-- Texts with different characters at one place near their beginning are different. -/
theorem append_ne_append {first second : String} (index : Nat)
    (inFirst : index < first.toList.length) (inSecond : index < second.toList.length)
    (differ : first.toList[index] ≠ second.toList[index]) (firstRest secondRest : String) :
    first ++ firstRest ≠ second ++ secondRest := by
  intro same
  have letters := congrArg (fun text : String => text.toList[index]?) same
  simp only [String.toList_append] at letters
  rw [List.getElem?_append_left inFirst, List.getElem?_append_left inSecond,
    List.getElem?_eq_getElem inFirst, List.getElem?_eq_getElem inSecond] at letters
  exact differ (Option.some.inj letters)

namespace LayoutFault

variable (fault : LayoutFault)

theorem append_ne_message {front : String} (index : Nat) (inFront : index < front.toList.length)
    (inside : index < "invalid slot layout: ".toList.length)
    (differ : front.toList[index] ≠ "invalid slot layout: ".toList[index]) (rest : String) :
    front ++ rest ≠ fault.message :=
  append_ne_append index inFront inside differ rest fault.detail

theorem settings_message_ne (other : SettingsFileError) : other.message ≠ fault.message := by
  cases other with
  | file reason => exact fault.append_ne_message 0 (by decide) (by decide) (by decide) _
  | content reason =>
      cases reason with
      | form =>
          change SettingsError.form.message ≠ _
          rw [← String.append_empty (s := SettingsError.form.message)]
          exact fault.append_ne_message 0 (by decide) (by decide) (by decide) _
      | invalid detail => exact fault.append_ne_message 0 (by decide) (by decide) (by decide) _

theorem toggle_message_ne (other : ToggleFault) : other.message ≠ fault.message := by
  have message : other.message =
      "invalid value '" ++ (other.value ++ ("' for environment variable " ++ other.name)) := by
    rw [← String.append_assoc, ← String.append_assoc]
    rfl
  rw [message]
  exact fault.append_ne_message 8 (by decide) (by decide) (by decide) _

end LayoutFault

namespace CommandLine

/-- A report that is not the one of a slot layout. -/
def Report.Other (report : Report) : Prop := ∀ fault : LayoutFault, report ≠ .failure fault.message

theorem Report.errors_failure (message : String) :
    (Report.failure message).errors = "error: " ++ (message ++ "\n") := by
  rw [← String.append_assoc]
  rfl

theorem Report.failure_other {message : String}
    (differs : ∀ fault : LayoutFault, message ≠ fault.message) : (failure message).Other := by
  intro fault same
  have errors := congrArg Report.errors same
  rw [errors_failure, errors_failure, String.append_right_inj, String.append_left_inj] at errors
  exact differs fault errors

/-- A failure begins with the severity of errors, as nothing else does that a command tells. -/
theorem Report.other_of_head {report : Report} (plain : report.errors.toList.head? ≠ some 'e') :
    report.Other := by
  intro fault same
  rw [same, errors_failure, String.toList_append] at plain
  exact plain rfl

theorem severityText_head {severity : Severity} (minor : severity ≠ .error) (coloured : Bool) :
    ∃ first rest, (Diagnostic.severityText coloured severity).toList = first :: rest ∧
      first ≠ 'e' := by
  cases coloured with
  | true =>
      refine ⟨'\x1b', ("[1;" ++ severity.colour ++ "m" ++ severity.name ++ "\x1b[0m").toList, ?_,
        by decide⟩
      cases severity <;> decide
  | false =>
      cases severity with
      | info => exact ⟨'i', "nfo".toList, by decide, by decide⟩
      | warning => exact ⟨'w', "arning".toList, by decide, by decide⟩
      | error => exact absurd rfl minor

theorem render_head {diagnostic : Diagnostic} (minor : diagnostic.severity ≠ .error)
    (coloured : Bool) (rest : String) :
    (diagnostic.render coloured ++ rest).toList.head? ≠ some 'e' := by
  obtain ⟨first, more, letters, plain⟩ := severityText_head minor coloured
  unfold Diagnostic.render
  simp only [String.append_assoc]
  change (Diagnostic.severityText coloured diagnostic.severity ++ _).toList.head? ≠ _
  rw [String.toList_append, letters]
  intro same
  exact plain (Option.some.inj same)

theorem severity_ne_error (reason : MissReason) : reason.severity ≠ .error := by
  cases reason <;> exact nofun

/-- A lookup reports no errors. -/
theorem severity_ne_error_of_mem {outcome : Except Miss InfoFile} {diagnostic : Diagnostic}
    (reported : diagnostic ∈ ((DiagnosticLog.mk []).reportMiss outcome).held) :
    diagnostic.severity ≠ .error := by
  cases outcome with
  | ok info => cases reported
  | error miss =>
      rw [List.mem_singleton.mp reported]
      exact severity_ne_error miss.reason

theorem join_head {diagnostics : List Diagnostic}
    (minor : ∀ diagnostic ∈ diagnostics, diagnostic.severity ≠ .error) (coloured : Bool) :
    (String.join (diagnostics.map (·.render coloured ++ "\n"))).toList.head? ≠ some 'e' := by
  cases diagnostics with
  | nil => exact nofun
  | cons diagnostic rest =>
      rw [List.map_cons, String.join_cons, String.append_assoc]
      exact render_head (minor diagnostic List.mem_cons_self) coloured _

/-- What a lookup has to say begins like no failure of a command. -/
theorem verdict_other (quiet coloured : Bool) (format : ReportFormat) (name : String)
    (outcome : Except Miss InfoFile) : (verdict quiet coloured format name outcome).Other := by
  apply Report.other_of_head
  have told := join_head (fun diagnostic kept => @severity_ne_error_of_mem outcome diagnostic
    (List.mem_of_mem_filter (p := fun diagnostic =>
      (if quiet then Severity.warning else .info) ≤ diagnostic.severity) kept)) coloured
  cases outcome with
  | error miss =>
      cases format with
      | json => exact nofun
      | text => exact told
  | ok info =>
      unfold verdict
      dsimp only
      split
      · cases format with
        | json => exact nofun
        | text => exact told
      · simp only [String.append_assoc]
        change ("    Verified " ++ _).toList.head? ≠ _
        rw [String.toList_append]
        exact nofun

section

variable {σ : Type}

/-- Whatever the state at the beginning, the result has the property. -/
structure Yields {α : Type} (action : StateM σ α) (property : α → Prop) : Prop where
  result : ∀ state, property (action.run state).1

namespace Yields

variable {α β : Type} {property : α → Prop} {after : β → Prop}

theorem pure {value : α} (holds : property value) :
    Yields (Pure.pure value : StateM σ α) property := ⟨fun _ => holds⟩

theorem any (action : StateM σ α) : Yields action fun _ => True := ⟨fun _ => trivial⟩

theorem bind {first : StateM σ α} {next : α → StateM σ β} (isFirst : Yields first property)
    (each : ∀ value, property value → Yields (next value) after) :
    Yields (first >>= next) after :=
  ⟨fun state => (each _ (isFirst.result state)).result _⟩

end Yields

variable (read : String → StateM σ (Except FileError Bytes))

theorem settings_yields_layout (config : Option String) :
    Yields (CommandLine.settings read config) fun outcome => ∀ found, outcome = .ok found →
      ∃ layout, Layout.ofSettings found.memory = .ok layout := by
  cases config with
  | some path =>
      apply (Yields.any _).bind
      intro content _
      apply Yields.pure
      intro found isRead
      exact Settings.exists_layout_of_ofFile isRead
  | none =>
      apply (Yields.any _).bind
      intro content _
      apply Yields.pure
      intro found isRead
      exact Settings.exists_layout_of_ofFileOrDefault isRead

theorem cannot_read_other (path : String) (reason : FileError) :
    (Report.failure s!"cannot read {path}: {reason.message}").Other := by
  apply Report.failure_other
  intro fault
  have message : s!"cannot read {path}: {reason.message}" =
      "cannot read " ++ (path ++ (": " ++ reason.message)) := by
    rw [← String.append_assoc, ← String.append_assoc]
    rfl
  rw [message]
  exact fault.append_ne_message 0 (by decide) (by decide) (by decide) _

theorem sourceDependencies_yields_other (sources : List String) :
    Yields (sourceDependencies read sources) fun outcome => ∀ message, outcome = .error message →
      (Report.failure message).Other := by
  induction sources with
  | nil =>
      apply Yields.pure
      intro message failed
      cases failed
  | cons path rest ih =>
      apply (Yields.any _).bind
      intro content _
      cases SourceInput.ofFile path content with
      | error reason =>
          apply Yields.pure
          intro message failed
          rw [← Except.error.inj failed]
          exact cannot_read_other path reason
      | ok source =>
          apply ih.bind
          intro outcome isOther
          apply Yields.pure
          intro message failed
          cases outcome with
          | error reason => exact isOther message failed
          | ok dependencies => cases failed

theorem verify_other (around : Surroundings (StateM σ)) (invocation : Invocation)
    (directory : Option String) (name : String) (sources : List String) (format : ReportFormat) :
    Yields (verify around invocation directory name sources format) Report.Other := by
  apply (settings_yields_layout around.read invocation.config).bind
  intro outcome hasLayout
  cases outcome with
  | error fault => exact Yields.pure (Report.failure_other fun other => other.settings_message_ne _)
  | ok settings =>
      dsimp only
      cases Toggles.resolve settings.cache around.environment with
      | error fault =>
          exact Yields.pure (Report.failure_other fun other => other.toggle_message_ne _)
      | ok toggles =>
          obtain ⟨layout, made⟩ := hasLayout settings rfl
          dsimp only
          rw [made]
          apply (Yields.any _).bind
          intro runtime _
          apply (sourceDependencies_yields_other around.read sources).bind
          intro outcome isOther
          cases outcome with
          | error message => exact Yields.pure (isOther message rfl)
          | ok dependencies =>
              apply (Yields.any _).bind
              intro content _
              exact Yields.pure (verdict_other _ _ _ _ _)

end

end CommandLine

namespace Settings

theorem ofSettings_follows {settings : Settings} {layout : Layout}
    (made : Layout.ofSettings settings.memory = .ok layout) (world : World) (toggles : Toggles) :
    ∃ store after, Store.ofSettings world settings toggles = .ok (store, after) ∧
      store.table.layout.Follows settings.memory := by
  unfold Store.ofSettings
  rw [made]
  exact ⟨_, _, rfl, Layout.follows_of_ofSettings made⟩

theorem words_accepted_iff {memory : MemorySettings} (expressible : memory.Expressible) :
    memory.words.check = pure () ↔ ∃ layout, memory.words.layout = pure layout := by
  rw [expressible.check_words, expressible.layout_words]
  cases outcome : Layout.ofSettings memory with
  | ok layout =>
      rw [memoryFault?_eq_none_iff_exists.mpr ⟨layout, outcome⟩]
      exact iff_of_true rfl ⟨layout.words, rfl⟩
  | error fault =>
      cases found : memoryFault? memory with
      | none =>
          obtain ⟨layout, made⟩ := memoryFault?_eq_none_iff_exists.mp found
          rw [outcome] at made
          cases made
      | some reason => exact iff_of_false nofun nofun

/-- Of numbers that a document can give, those pass as settings that are a layout, which has these
numbers; computing with words, neither step is trapped. All settings that are read are such, so
a store can be made of them, and verifying a kernel never fails for its layout, whatever settings
it finds and however the files change on the way. -/
theorem accepted_are_laid_out :
    (∀ memory : MemorySettings, memory.Expressible →
      memory.words.check = (memoryFault? memory).elim (pure ()) throw ∧
      memory.words.layout = ofExcept ((Layout.ofSettings memory).map Layout.words) ∧
      (memory.words.check = pure () ↔ ∃ layout, memory.words.layout = pure layout) ∧
      (memoryFault? memory = none ↔ ∃ layout, Layout.ofSettings memory = .ok layout) ∧
      ∀ layout, Layout.ofSettings memory = .ok layout →
        layout.Follows memory ∧ layout.Computes) ∧
    (∀ text settings, read text = .ok settings →
      settings.memory.Expressible ∧
      ∀ world toggles, ∃ store after, Store.ofSettings world settings toggles = .ok (store, after) ∧
        store.table.layout.Follows settings.memory) ∧
    ∀ (σ : Type) (around : CommandLine.Surroundings (StateM σ)) (state : σ)
      (invocation : CommandLine.Invocation) (directory : Option String) (name : String)
      (sources : List String) (format : CommandLine.ReportFormat) (fault : LayoutFault),
      ((CommandLine.verify around invocation directory name sources format).run state).1 ≠
        .failure fault.message := by
  refine ⟨?_, ?_, ?_⟩
  · intro memory expressible
    refine ⟨expressible.check_words, expressible.layout_words, words_accepted_iff expressible,
      memoryFault?_eq_none_iff_exists, ?_⟩
    intro layout made
    exact ⟨Layout.follows_of_ofSettings made, layout.computes⟩
  · intro text settings isRead
    obtain ⟨layout, made⟩ := exists_layout_of_read isRead
    exact ⟨(read_expressible isRead).1, ofSettings_follows made⟩
  · intro σ around state invocation directory name sources format
    exact (CommandLine.verify_other around invocation directory name sources format).result state

def topSettings : String :=
  "[memory]\nbase_address = 4096\nslot_count = 1\ncode_size = 9223372036854771712\n"
    ++ "data_size = 0x7ffffffffffff000\ngot_size = 9223372036854771711\n"

def topMemory : MemorySettings where
  baseAddress := 4096
  slotCount := 1
  codeSize := 9223372036854771712
  dataSize := 9223372036854771712
  gotSize := 9223372036854771711

/-- A single slot may reach from the second page to the last but one; a base one page further up
is refused twice. -/
theorem accepted_are_laid_out_up_to_the_top :
    (read topSettings = .ok { memory := topMemory } ∧
      ∃ store after, Store.ofSettings {} { memory := topMemory } {} = .ok (store, after)) ∧
    (topMemory.Expressible ∧ ∃ layout, topMemory.words.layout = pure layout) ∧
    ({ topMemory with baseAddress := 8192 }.Expressible ∧
      { topMemory with baseAddress := 8192 }.words.check = throw .pastAddressSpace ∧
      ¬∃ layout, { topMemory with baseAddress := 8192 }.words.layout = pure layout) := by
  have isRead : read topSettings = .ok { memory := topMemory } := by decide +kernel
  have onTop : topMemory.Expressible := by constructor <;> decide
  have above : { topMemory with baseAddress := 8192 }.Expressible := by constructor <;> decide
  refine ⟨⟨isRead, ?_⟩, ⟨onTop, ?_⟩, above, ?_, ?_⟩
  · obtain ⟨_, made⟩ := accepted_are_laid_out.2.1 _ _ isRead
    obtain ⟨store, after, same, _⟩ := made {} {}
    exact ⟨store, after, same⟩
  · obtain ⟨_, _, agree, _⟩ := accepted_are_laid_out.1 topMemory onTop
    exact agree.mp rfl
  · rfl
  · obtain ⟨_, _, agree, _⟩ := accepted_are_laid_out.1 _ above
    rw [← agree]
    exact nofun

end Settings

end KernelStore
