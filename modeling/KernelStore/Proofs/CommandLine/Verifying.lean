import KernelStore.CommandLine.Execution
import KernelStore.Proofs.Artifact.RoundTrip
import KernelStore.Proofs.Store.Serving

/-!
What a verified kernel is good for. Verifying compares what a kernel was built from and looks
neither at its image nor at the slots. Main statement: a kernel is verified just if its metadata is
found and as wanted, and a new process with the same settings then uses the stored kernel just if
the image fits besides.
-/

namespace KernelStore

namespace Lookup

/-- The image that a header tells of is there and whole, its slot is one of the layout, and the
system maps it there while nothing else is mapped. -/
structure ImageFits (files : FileTree) (placement : Placement) (layout : Layout) (object : String)
    (header : Header) : Prop where
  slot : ∃ index < layout.count, header.imageAddress.toNat = layout.slotAddress index
  size : header.imageSize.toNat = layout.slotSize
  content : ∃ content, files.read object = .ok content ∧ layout.slotSize ≤ content.length ∧
    Parity.parity (content.take layout.slotSize) = header.checksum
  mappable : placement.fileFault? 0 layout.slotSize = none
  placed : placement.place [] (some header.imageAddress.toNat) layout.slotSize =
    some header.imageAddress.toNat

variable {files : FileTree} {memory : Memory} {placement : Placement} {table : SlotTable}
  {paths : StoredPaths} {wanted : Wanted}

theorem fits_of_load {found : Found} {after : Memory} (unmapped : memory.live = [])
    (loaded : load files memory placement table paths wanted = (.ok found, after)) :
    checkFiles files paths wanted = .ok ⟨found.header, found.metadata⟩ ∧
      ImageFits files placement table.layout paths.object found.header := by
  obtain ⟨file, image, read, parsed, same, object, size, enough, allocated, parity⟩ :=
    load_eq_ok_iff.mp loaded
  obtain ⟨_, _, index, _, slot, _, regular, mappable, placed, lease, _⟩ :=
    Memory.allocateFile_eq_ok_iff.mp allocated
  cases regular
  rw [lease, Content.hasParity_eq, Content.bytes_mapped enough] at parity
  rw [unmapped] at placed
  rw [Content.size_eq] at enough
  refine ⟨check_eq_ok_iff.mpr ⟨file, read, parsed, same⟩, ?_⟩
  exact {
    slot := ⟨index, table.layout.slotIndex?_eq_some_iff.mp slot⟩
    size
    content := ⟨image.bytes, FileTree.read_eq_ok_iff.mpr ⟨image, object, rfl⟩, enough,
      Parity.verify_eq_true_iff.mp parity⟩
    mappable
    placed }

theorem ImageFits.exists_load {info : InfoFile} (untaken : memory.taken = [])
    (unmapped : memory.live = []) (checked : checkFiles files paths wanted = .ok info)
    (fits : ImageFits files placement table.layout paths.object info.header) :
    ∃ found after, load files memory placement table paths wanted = (.ok found, after) := by
  obtain ⟨file, read, parsed, same⟩ := check_eq_ok_iff.mp checked
  obtain ⟨index, inside, address⟩ := fits.slot
  obtain ⟨_, isRead, enough, parity⟩ := fits.content
  obtain ⟨image, object, rfl⟩ := FileTree.read_eq_ok_iff.mp isRead
  rw [← Content.size_eq] at enough
  have untaken : memory.isTaken table index = false := by
    rw [Memory.isTaken, untaken]
    rfl
  have placed := fits.placed
  rw [← unmapped] at placed
  let lease : Lease :=
    ⟨table, info.header.imageAddress.toNat, some index, (image.drop 0).resize table.layout.slotSize⟩
  have allocated : memory.allocateFile placement table info.header.imageAddress.toNat
      (.regular image) 0 = .ok (lease, memory.hold table lease.address (some index)) :=
    Memory.allocateFile_eq_ok_iff.mpr ⟨Nat.zero_mod _, by decide, index, image,
      table.layout.slotIndex?_eq_some_iff.mpr ⟨inside, address⟩, untaken, rfl, fits.mappable,
      placed, rfl, rfl⟩
  have whole : lease.content.hasParity info.header.checksum = true := by
    rw [Content.hasParity_eq, Content.bytes_mapped enough]
    exact Parity.verify_eq_true_iff.mpr parity
  exact ⟨⟨info.header, info.metadata, lease⟩, _, load_eq_ok_iff.mpr
    ⟨file, image, read, parsed, same, object, fits.size, enough, allocated, whole⟩⟩

/-- While nothing is mapped, a kernel is found just if its metadata is, and its image fits. -/
theorem exists_load_iff (untaken : memory.taken = []) (unmapped : memory.live = []) :
    (∃ found after, load files memory placement table paths wanted = (.ok found, after)) ↔
      ∃ info, checkFiles files paths wanted = .ok info ∧
        ImageFits files placement table.layout paths.object info.header := by
  constructor
  · rintro ⟨found, after, loaded⟩
    exact ⟨_, fits_of_load unmapped loaded⟩
  · rintro ⟨info, checked, fits⟩
    exact fits.exists_load untaken unmapped checked

end Lookup

namespace Store

variable {store : Store} {machine : Machine} {world : World} {request : CompileRequest}
  {generator : Generator}

/-- The outcome has a kernel that was stored. -/
def Reuses (outcome : Outcome) : Prop :=
  ∃ kernel, outcome.result = .ok kernel ∧ kernel.origin = .stored

theorem reuses_serve_iff :
    Reuses (store.serve machine world request generator) ↔
      (store.toggles.enabled = true ∧ store.toggles.forceRecompile = false) ∧
        ∃ found after, Lookup.load world.files world.memory machine.placement store.table
          (store.paths request.name) (store.wanted request) = (.ok found, after) := by
  constructor
  · rintro ⟨kernel, served, stored⟩
    have serving := store.serving machine world request generator
    generalize store.serve machine world request generator = outcome at serving served
    cases serving with
    | found enabled notForced loaded => exact ⟨⟨enabled, notForced⟩, _, _, loaded⟩
    | compiled recovers compiling => exact absurd stored (compiling.eq_ok served).origin_ne
  · rintro ⟨⟨enabled, notForced⟩, found, after, loaded⟩
    refine ⟨⟨found.metadata, found.lease, .stored⟩, ?_, rfl⟩
    unfold serve load
    rw [enabled, notForced, loaded]
    rfl

end Store

namespace CommandLine

/-- Files and an environment that stay as they are while a command runs. -/
def Surroundings.ofFiles (files : FileTree) (environment : String → Option String) :
    Surroundings Id where
  read path := files.read path
  environment := environment

/-- What a new process serves a kernel from, which has the settings, the toggles and the sources
that a command has. -/
inductive Prepares (files : FileTree) (environment : String → Option String)
    (config directory : Option String) (name : String) (sources : List String) :
    Store → World → CompileRequest → Prop
  | fresh {settings : Settings} {toggles : Toggles} {store : Store} {world : World}
      {inputs : List SourceInput}
      (found : (CommandLine.settings (Surroundings.ofFiles files environment).read config).run =
        .ok settings)
      (resolved : Toggles.resolve settings.cache environment = .ok toggles)
      (made : Store.ofSettings { files } settings toggles = .ok (store, world))
      (isRead : sources.mapM (fun path => SourceInput.ofFile path (files.read path)) = .ok inputs) :
      Prepares files environment config directory name sources
        { store with directory := directory.getD settings.cache.dir } world ⟨name, inputs, none⟩

/-- Whether a command's reports are coloured. -/
def Invocation.isColoured (invocation : Invocation) (environment : String → Option String) : Bool :=
  match invocation.colour with
  | .auto => (environment "TERM").isSome
  | .always => true
  | .never => false

theorem code_verdict (quiet coloured : Bool) (format : ReportFormat) (name : String)
    (outcome : Except Miss InfoFile) :
    (verdict quiet coloured format name outcome).code = if outcome.isOk then 0 else 1 := by
  unfold verdict
  cases outcome with
  | error miss => rfl
  | ok info =>
      dsimp only
      split
      · cases format <;> rfl
      · cases format <;> rfl

section

variable {files : FileTree} {environment : String → Option String}

theorem run_settings :
    (settings (Surroundings.ofFiles files environment).read none).run =
      Settings.ofFileOrDefault (files.read settingsFile) := rfl

theorem run_sourceDependencies_cons (path : String) (rest : List String) :
    (sourceDependencies (Surroundings.ofFiles files environment).read (path :: rest)).run =
      match SourceInput.ofFile path (files.read path) with
      | .error fault => .error s!"cannot read {path}: {fault.message}"
      | .ok input =>
          (sourceDependencies (Surroundings.ofFiles files environment).read rest).run.map
            (input.dependency :: ·) := rfl

/-- Sources are read as those of a request, or it is told which of them cannot be. -/
theorem sources_cases (files : FileTree) (environment : String → Option String)
    (sources : List String) :
    (∃ inputs, sources.mapM (fun path => SourceInput.ofFile path (files.read path)) = .ok inputs ∧
      (sourceDependencies (Surroundings.ofFiles files environment).read sources).run =
        .ok (inputs.map (·.dependency))) ∨
    ∃ fault message,
      sources.mapM (fun path => SourceInput.ofFile path (files.read path)) = .error fault ∧
      (sourceDependencies (Surroundings.ofFiles files environment).read sources).run =
        .error message := by
  induction sources with
  | nil => exact Or.inl ⟨[], rfl, rfl⟩
  | cons path rest ih =>
      rw [List.mapM_cons, run_sourceDependencies_cons]
      cases SourceInput.ofFile path (files.read path) with
      | error fault => exact Or.inr ⟨fault, _, rfl, rfl⟩
      | ok input =>
          rcases ih with ⟨inputs, isRead, same⟩ | ⟨fault, message, unread, same⟩
          · left
            dsimp only
            rw [isRead, same]
            exact ⟨input :: inputs, rfl, rfl⟩
          · right
            dsimp only
            rw [unread, same]
            exact ⟨fault, message, rfl, rfl⟩

variable {invocation : Invocation} {directory : Option String} {name : String}
  {sources : List String} {format : ReportFormat}

/-- Verifying, where files stay as they are: each stage fails or leads on to the next. -/
theorem run_verify :
    (verify (.ofFiles files environment) invocation directory name sources format).run =
      match (settings (Surroundings.ofFiles files environment).read invocation.config).run with
      | .error fault => .failure fault.message
      | .ok settings =>
          match Toggles.resolve settings.cache environment with
          | .error fault => .failure fault.message
          | .ok toggles =>
              match Store.ofSettings { files } settings toggles with
              | .error fault => .failure fault.message
              | .ok (store, _) =>
                  match (sourceDependencies (Surroundings.ofFiles files environment).read
                    sources).run with
                  | .error message => .failure message
                  | .ok inputs =>
                      verdict invocation.quiet (invocation.isColoured environment) format name
                        (Lookup.checkFiles files
                          (.inDirectory (directory.getD settings.cache.dir) name)
                          ⟨store.runtime ++ inputs, toggles.precision⟩) := by
  change (match (settings (Surroundings.ofFiles files environment).read invocation.config).run with
    | .error fault => Report.failure fault.message
    | .ok settings => _) = _
  cases (settings (Surroundings.ofFiles files environment).read invocation.config).run with
  | error fault => rfl
  | ok settings =>
      change (match Toggles.resolve settings.cache environment with
        | .error fault => Report.failure fault.message
        | .ok toggles => _) = _
      dsimp only
      cases Toggles.resolve settings.cache environment with
      | error fault => rfl
      | ok toggles =>
          unfold Store.ofSettings
          dsimp only
          cases Layout.ofSettings settings.memory with
          | error fault => rfl
          | ok layout => rfl

/-- What a new process serves a kernel from, where files stay as they are. -/
theorem Prepares.fresh_world {config : Option String} {store : Store} {world : World}
    {request : CompileRequest}
    (prepared : Prepares files environment config directory name sources store world request) :
    world.files = files ∧ world.memory.taken = [] ∧ world.memory.live = [] ∧
      request.name = name := by
  cases prepared with
  | fresh found resolved made isRead =>
      unfold Store.ofSettings at made
      split at made
      · cases made
      · cases made
        exact ⟨rfl, rfl, rfl, rfl⟩

theorem toggles_ofSettings {world after : World} {settings : Settings} {toggles : Toggles}
    {store : Store} (made : Store.ofSettings world settings toggles = .ok (store, after)) :
    store.toggles = toggles := by
  unfold Store.ofSettings at made
  split at made
  · cases made
  · cases made
    rfl

theorem run_verify_of_prepares {store : Store} {world : World} {request : CompileRequest}
    (prepared : Prepares files environment invocation.config directory name sources store world
      request) :
    (verify (.ofFiles files environment) invocation directory name sources format).run =
      verdict invocation.quiet (invocation.isColoured environment) format name
        (Lookup.checkFiles files (store.paths name) (store.wanted request)) := by
  cases prepared with
  | @fresh _ _ made _ _ found resolved isMade isRead =>
      rcases sources_cases files environment sources with ⟨inputs, same, told⟩ | ⟨_, _, unread, _⟩
      · cases same.symm.trans isRead
        have wanted : made.toggles.precision.or none = made.toggles.precision := Option.or_none
        rw [run_verify, found]
        dsimp only
        rw [resolved]
        dsimp only
        rw [isMade]
        dsimp only
        rw [told, ← toggles_ofSettings isMade, ← wanted]
        rfl
      · cases unread.symm.trans isRead

/-- Verifying fails, or there is what a new process serves the kernel from. -/
theorem run_verify_cases :
    (∃ message, (verify (.ofFiles files environment) invocation directory name sources format).run =
      .failure message) ∨
    ∃ store world request, Prepares files environment invocation.config directory name sources
      store world request := by
  rw [run_verify]
  cases found : (settings (Surroundings.ofFiles files environment).read invocation.config).run with
  | error fault => exact Or.inl ⟨_, rfl⟩
  | ok settings =>
      dsimp only
      cases resolved : Toggles.resolve settings.cache environment with
      | error fault => exact Or.inl ⟨_, rfl⟩
      | ok toggles =>
          dsimp only
          cases made : Store.ofSettings { files } settings toggles with
          | error fault => exact Or.inl ⟨_, rfl⟩
          | ok result =>
              obtain ⟨store, world⟩ := result
              dsimp only
              rcases sources_cases files environment sources with
                ⟨inputs, isRead, _⟩ | ⟨_, message, _, told⟩
              · exact Or.inr ⟨_, _, _, .fresh found resolved made isRead⟩
              · rw [told]
                exact Or.inl ⟨message, rfl⟩

end

/-- Verifying ends with the code 0 or 1, and with 0 only where a new process could be asked for the
kernel. It does so just if the kernel's metadata is found and as wanted; and the process then uses
the stored kernel just if its toggles let it and the image fits. -/
theorem verify_settles_all_but_image (files : FileTree) (environment : String → Option String)
    (invocation : Invocation) (directory : Option String) (name : String) (sources : List String)
    (format : ReportFormat) :
    let report := (verify (.ofFiles files environment) invocation directory name sources format).run
    (report.code = 0 ∨ report.code = 1) ∧
    (report.code = 0 → ∃ store world request,
      Prepares files environment invocation.config directory name sources store world request) ∧
    ∀ store world request,
      Prepares files environment invocation.config directory name sources store world request →
      (report.code = 0 ↔
        ∃ info, Lookup.checkFiles files (store.paths name) (store.wanted request) = .ok info) ∧
      ∀ machine generator,
        (Store.Reuses (store.serve machine world request generator) ↔
          (store.toggles.enabled = true ∧ store.toggles.forceRecompile = false) ∧
            ∃ info, Lookup.checkFiles files (store.paths name) (store.wanted request) = .ok info ∧
              Lookup.ImageFits files machine.placement store.table.layout (store.paths name).object
                info.header) := by
  have checked {store : Store} {world : World} {request : CompileRequest}
      (prepared : Prepares files environment invocation.config directory name sources store world
        request) :
      (verify (.ofFiles files environment) invocation directory name sources format).run.code =
        if (Lookup.checkFiles files (store.paths name) (store.wanted request)).isOk then 0
        else 1 := by
    rw [run_verify_of_prepares prepared, code_verdict]
  refine ⟨?_, ?_, ?_⟩
  · rcases run_verify_cases with ⟨message, failed⟩ | ⟨store, world, request, prepared⟩
    · exact Or.inr (congrArg Report.code failed)
    · rw [checked prepared]
      split
      · exact Or.inl rfl
      · exact Or.inr rfl
  · intro verified
    rcases run_verify_cases with ⟨message, failed⟩ | prepared
    · rw [failed] at verified
      cases verified
    · exact prepared
  · intro store world request prepared
    obtain ⟨same, untaken, unmapped, named⟩ := prepared.fresh_world
    constructor
    · rw [checked prepared]
      cases Lookup.checkFiles files (store.paths name) (store.wanted request) with
      | error miss => exact iff_of_false nofun nofun
      | ok info => exact iff_of_true rfl ⟨info, rfl⟩
    · intro machine generator
      rw [Store.reuses_serve_iff, Lookup.exists_load_iff untaken unmapped, same, named]

/-! ### A kernel with and without its image -/

def soloSettings : String :=
  "[memory]\nbase_address = 0x500000\nslot_count = 1\ncode_size = 4096\ndata_size = 4096\n"
    ++ "got_size = 8\n[cache]\ndir = \"c\"\n"

def soloMetadata : Metadata where
  dependencies := [⟨"k.bc", .source, .ofBytes []⟩]

def soloImage : Content := .ofBytes [0xc3] ++ .zeros 8191

def soloInfo : InfoFile := ⟨soloMetadata.headerFor 0x500000 soloImage, soloMetadata⟩

/-- A kernel's metadata, as it is written, and its image if it is there. -/
def soloFiles (isWhole : Bool) : FileTree where
  entries :=
    [("kiln.toml", .file (.ofBytes (Utf8.encode soloSettings))),
      ("k.bc", .file (.ofBytes [])),
      ("c", .directory
        (("k.info", .file (.ofBytes (soloMetadata.fileFor 0x500000 soloImage))) ::
          if isWhole then [("k.o", .file soloImage)] else []))]

def soloInvocation : Invocation := ⟨false, .never, none, .verify none "k" ["k.bc"] .text⟩

def soloServer : Store :=
  ⟨⟨0, ⟨0x500000, 1, 4096, 4096, 8, by decide⟩⟩, "c", {}, []⟩

def soloRequested : CompileRequest := ⟨"k", [⟨"k.bc", []⟩], none⟩

theorem soloFiles_prepares (isWhole : Bool) :
    Prepares (soloFiles isWhole) (fun _ => none) none none "k" ["k.bc"] soloServer
      { files := soloFiles isWhole, memory := { nextTable := 1 } } soloRequested := by
  have settingsRead : (soloFiles isWhole).read settingsFile =
      .ok (Content.ofBytes (Utf8.encode soloSettings)).bytes := by
    cases isWhole <;> rfl
  have understood :
      Settings.ofFileOrDefault (.ok (Content.ofBytes (Utf8.encode soloSettings)).bytes) =
        .ok { memory := ⟨0x500000, 1, 4096, 4096, 8⟩, cache := { dir := "c" } } := by
    decide +kernel
  have found : (settings (Surroundings.ofFiles (soloFiles isWhole) fun _ => none).read none).run =
      .ok { memory := ⟨0x500000, 1, 4096, 4096, 8⟩, cache := { dir := "c" } } := by
    rw [run_settings, settingsRead, understood]
  have isRead :
      ["k.bc"].mapM (fun path => SourceInput.ofFile path ((soloFiles isWhole).read path)) =
        .ok [⟨"k.bc", []⟩] := by
    cases isWhole <;> decide +kernel
  exact .fresh found rfl rfl isRead

theorem soloFiles_checked (isWhole : Bool) :
    Lookup.checkFiles (soloFiles isWhole) (soloServer.paths "k") (soloServer.wanted soloRequested) =
      .ok soloInfo := by
  have isRead : (soloFiles isWhole).read (soloServer.paths "k").info =
      .ok (Content.ofBytes (soloMetadata.fileFor 0x500000 soloImage)).bytes := by
    cases isWhole <;> rfl
  have fits : soloMetadata.Fits :=
    ⟨by decide, by intro part; cases part <;> decide, by decide, by decide, by decide, by decide⟩
  have parsed := Metadata.parse_fileFor fits 0x500000 soloImage
  rw [Metadata.firstOutside?_eq_none (List.forall_mem_nil _) (List.forall_mem_nil _)] at parsed
  rw [Content.bytes_ofBytes] at isRead
  have same : (soloServer.wanted soloRequested).difference? soloMetadata = none :=
    Wanted.difference?_eq_none_iff.mpr ⟨rfl, nofun⟩
  exact Lookup.check_eq_ok_iff.mpr ⟨_, isRead, parsed, same⟩

/-- A kernel is verified though its image is missing, and nothing uses what is stored of it. -/
theorem verify_does_not_predict_reuse :
    ∃ store world request,
      Prepares (soloFiles false) (fun _ => none) none none "k" ["k.bc"] store world request ∧
      (store.toggles.enabled = true ∧ store.toggles.forceRecompile = false) ∧
      (verify (.ofFiles (soloFiles false) fun _ => none) soloInvocation none "k" ["k.bc"]
        .text).run.code = 0 ∧
      ∀ machine generator, ¬Store.Reuses (store.serve machine world request generator) := by
  have prepared := soloFiles_prepares false
  refine ⟨_, _, _, prepared, ⟨rfl, rfl⟩, ?_, ?_⟩
  · have verified : (verify (.ofFiles (soloFiles false) fun _ => none) soloInvocation none "k"
        ["k.bc"] .text).run = _ := run_verify_of_prepares prepared
    rw [verified, soloFiles_checked, code_verdict]
    rfl
  · intro machine generator reuses
    obtain ⟨_, loaded⟩ := Store.reuses_serve_iff.mp reuses
    obtain ⟨_, _, fits⟩ := (Lookup.exists_load_iff rfl rfl).mp loaded
    obtain ⟨content, isRead, _⟩ := fits.content
    have missing : (soloFiles false).read (soloServer.paths "k").object = .error .notFound := by
      decide +kernel
    cases missing.symm.trans isRead

theorem soloFiles_image :
    Lookup.ImageFits (soloFiles true) .standard soloServer.table.layout
      (soloServer.paths "k").object soloInfo.header where
  slot := ⟨0, by decide, by decide⟩
  size := by decide
  content := by
    have isRead : (soloFiles true).read (soloServer.paths "k").object = .ok soloImage.bytes := rfl
    have length : soloImage.bytes.length = soloServer.table.layout.slotSize := by
      rw [← Content.size_eq]
      decide
    refine ⟨_, isRead, Nat.le_of_eq length.symm, ?_⟩
    rw [← length, List.take_length, ← Content.parity_eq]
    rfl
  mappable := by decide
  placed := by decide

/-- With its image, the kernel that is verified is the one that is used. -/
theorem verify_settles_all_but_image_of_whole :
    (verify (.ofFiles (soloFiles true) fun _ => none) soloInvocation none "k" ["k.bc"]
        .text).run.code = 0 ∧
      Store.Reuses (soloServer.serve .standard
        { files := soloFiles true, memory := { nextTable := 1 } } soloRequested
        fun _ _ => .finish (.error "nothing is compiled")) := by
  obtain ⟨_, _, settled⟩ := verify_settles_all_but_image (soloFiles true) (fun _ => none)
    soloInvocation none "k" ["k.bc"] .text
  obtain ⟨code, reuses⟩ := settled _ _ _ (soloFiles_prepares true)
  have checked := soloFiles_checked true
  exact ⟨code.mpr ⟨_, checked⟩,
    (reuses .standard _).mpr ⟨⟨rfl, rfl⟩, _, checked, soloFiles_image⟩⟩

end CommandLine

end KernelStore
