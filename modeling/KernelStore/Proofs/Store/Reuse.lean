import KernelStore.Proofs.Store.Atomicity
import KernelStore.Proofs.Store.Coherence

/-!
A kernel that was written is found again. Main statement: while its files stay as they are, its slot
can be mapped and the same is wanted, every later request is served from the files and asks no
generator.
-/

namespace KernelStore

/-! ### What a compiled kernel leaves -/

/-- What lies in the slot lies in the image that the header records. -/
theorem Lease.InSlot.holds {lease : Lease} (inSlot : lease.InSlot) (metadata : Metadata)
    {address size : Nat} (above : lease.address ≤ address)
    (below : address + size ≤ lease.address + lease.size) :
    (metadata.headerFor (UInt64.ofNat lease.address) lease.content).holds address size = true := by
  have bounded := inSlot.end_lt
  rw [Metadata.holds_headerFor_iff _ _ _ (by omega), Metadata.InImage, inSlot.toNat_address]
  rw [inSlot.content] at bounded ⊢
  omega

/-- The two files at the paths are those of a kernel, and all its addresses lie in its slot. -/
structure Kernel.StoredAt (kernel : Kernel) (files : FileTree) (paths : StoredPaths) : Prop where
  inSlot : kernel.lease.InSlot
  info : ∃ file,
    kernel.metadata.encode (UInt64.ofNat kernel.lease.address) kernel.lease.content = .ok file ∧
      files.content paths.info = .ok (.ofBytes file)
  object : files.content paths.object = .ok kernel.lease.content
  globals : ∀ exported ∈ kernel.metadata.globals,
    kernel.lease.address ≤ exported.address.toNat ∧
      exported.address.toNat < kernel.lease.address + kernel.lease.size
  functions : ∀ function ∈ kernel.metadata.functions,
    kernel.lease.address ≤ function.address.toNat ∧
      function.address.toNat + function.size.toNat ≤ kernel.lease.address + kernel.lease.size

theorem Kernel.StoredAt.parse {kernel : Kernel} {files : FileTree} {paths : StoredPaths}
    (stored : kernel.StoredAt files paths) :
    ∃ file, files.read paths.info = .ok file ∧ InfoFile.parse file = .ok
      ⟨kernel.metadata.headerFor (UInt64.ofNat kernel.lease.address) kernel.lease.content,
        kernel.metadata⟩ := by
  obtain ⟨file, encoded, held⟩ := stored.info
  obtain ⟨fits, rfl⟩ := (kernel.metadata.encode_eq_ok_iff _ _ _).mp encoded
  have read := FileTree.read_eq_ok_iff.mpr ⟨_, held, Content.bytes_ofBytes _⟩
  refine ⟨_, read, ?_⟩
  rw [Metadata.parse_fileFor fits, Metadata.firstOutside?_eq_none]
  · intro exported member
    obtain ⟨above, below⟩ := stored.globals exported member
    exact stored.inSlot.holds kernel.metadata above below
  · intro function member
    obtain ⟨above, below⟩ := stored.functions function member
    exact stored.inSlot.holds kernel.metadata above below

/-! ### Mapping the slot again -/

/-- The slot of a kernel can be mapped from a file: it is one of the table's, is not taken, and the
system maps it there. -/
structure Kernel.CanMap (kernel : Kernel) (memory : Memory) (placement : Placement)
    (table : SlotTable) : Prop where
  layout : table.layout = kernel.lease.layout
  vacant : memory.isManaging table kernel.lease.address = false
  place : placement.place memory.live (some kernel.lease.address) kernel.lease.size =
    some kernel.lease.address
  file : placement.fileFault? 0 kernel.lease.size = none

namespace Lookup

variable {files : FileTree} {memory : Memory} {placement : Placement} {table : SlotTable}
  {paths : StoredPaths} {wanted : Wanted} {kernel : Kernel}

theorem load_stored (stored : kernel.StoredAt files paths)
    (canMap : kernel.CanMap memory placement table)
    (same : wanted.difference? kernel.metadata = none) :
    ∃ found, load files memory placement table paths wanted =
        (.ok found, memory.hold found.lease.table found.lease.address found.lease.slot) ∧
      found.metadata = kernel.metadata ∧ found.lease.address = kernel.lease.address ∧
      found.lease.bytes = kernel.lease.bytes := by
  obtain ⟨file, read, parsed⟩ := stored.parse
  obtain ⟨index, inside, start⟩ := stored.inSlot.address
  have address := stored.inSlot.toNat_address
  have whole : table.layout.slotSize = kernel.lease.size := by
    rw [canMap.layout]
    rfl
  rw [← canMap.layout] at inside start
  have slot : table.layout.slotIndex? kernel.lease.address = some index := by
    rw [start]
    exact table.layout.slotIndex?_slotAddress inside
  have free : memory.isTaken table index = false := by
    have vacant := canMap.vacant
    rw [start, memory.isManaging_slotAddress table inside] at vacant
    exact vacant
  -- The header records the slot and its size without loss, so the mapping is the image again.
  let lease : Lease := ⟨table, kernel.lease.address, some index,
    (kernel.lease.content.drop 0).resize table.layout.slotSize⟩
  have allocated : memory.allocateFile placement table kernel.lease.address
      (.regular kernel.lease.content) 0 =
      .ok (lease, memory.hold table kernel.lease.address (some index)) :=
    Memory.allocateFile_eq_ok_iff.mpr ⟨rfl, by decide, index, kernel.lease.content, slot, free, rfl,
      whole ▸ canMap.file, whole ▸ canMap.place, rfl, rfl⟩
  obtain ⟨_, _, bytes⟩ := Memory.bytes_of_allocateFile allocated
    (stored.inSlot.content.trans whole.symm)
  refine ⟨⟨_, kernel.metadata, lease⟩, load_eq_ok_iff.mpr ⟨file, kernel.lease.content, read, parsed,
    same, stored.object, ?_, ?_, ?_, ?_⟩, rfl, rfl, bytes⟩
  · exact (stored.inSlot.toNat_size.trans stored.inSlot.content).trans whole.symm
  · rw [whole]
    exact Nat.le_of_eq stored.inSlot.content.symm
  · change memory.allocateFile placement table (UInt64.ofNat kernel.lease.address).toNat _ 0 = _
    rw [address]
    exact allocated
  · change lease.content.hasParity kernel.lease.content.parity = true
    rw [Content.hasParity_eq, Parity.verify_eq_true_iff, Content.parity_eq]
    exact congrArg Parity.parity bytes

end Lookup

/-! ### Serving from the files -/

/-- A request was served by the kernel that is in the files: no generator was asked, nothing was
reported, no file was touched, and once the kernel is dropped and unmapped the world is as before. -/
structure Outcome.Reuses (outcome : Outcome) (kernel : Kernel) (before : World) : Prop where
  found : ∃ again, outcome.result = .ok again ∧ again.origin = .stored ∧
    again.metadata = kernel.metadata ∧ again.lease.address = kernel.lease.address ∧
    again.lease.bytes = kernel.lease.bytes
  generation : outcome.generation = none
  diagnostics : outcome.diagnostics = []
  files : outcome.world.files = before.files
  dropped : outcome.dropped = before

namespace Store

variable {store : Store} {machine : Machine} {world : World} {request : CompileRequest}
  {generator : Generator} {kernel : Kernel}

theorem serve_stored_kernel (enabled : store.toggles.enabled = true)
    (notForced : store.toggles.forceRecompile = false)
    (stored : kernel.StoredAt world.files (store.paths request.name))
    (canMap : kernel.CanMap world.memory machine.placement store.table)
    (same : (store.wanted request).difference? kernel.metadata = none) :
    (store.serve machine world request generator).Reuses kernel world := by
  obtain ⟨found, loaded, metadata, address, bytes⟩ := Lookup.load_stored stored canMap same
  have served : store.serve machine world request generator =
      { result := .ok ⟨found.metadata, found.lease, .stored⟩
        world := ⟨world.files,
          world.memory.hold found.lease.table found.lease.address found.lease.slot⟩ } := by
    unfold serve load
    rw [enabled, notForced, loaded]
    rfl
  rw [served]
  refine ⟨⟨_, rfl, rfl, metadata, address, bytes⟩, rfl, rfl, rfl, ?_⟩
  change ({ files := world.files, memory := _ } : World) = world
  rw [Memory.release_hold]

/-- Serves a request again and again. Each kernel is dropped and unmapped before the next round. -/
def rounds (store : Store) (machine : Machine) (request : CompileRequest) :
    List Generator → World → List Outcome
  | [], _ => []
  | generator :: rest, world =>
      let outcome := store.serve machine world request generator
      outcome :: store.rounds machine request rest outcome.dropped

theorem rounds_reuse (enabled : store.toggles.enabled = true)
    (notForced : store.toggles.forceRecompile = false)
    (stored : kernel.StoredAt world.files (store.paths request.name))
    (canMap : kernel.CanMap world.memory machine.placement store.table)
    (same : (store.wanted request).difference? kernel.metadata = none)
    (generators : List Generator) :
    ∀ outcome ∈ store.rounds machine request generators world, outcome.Reuses kernel world := by
  induction generators with
  | nil =>
      intro outcome member
      cases member
  | cons generator rest ih =>
      have reuses : (store.serve machine world request generator).Reuses kernel world :=
        serve_stored_kernel enabled notForced stored canMap same
      intro outcome member
      rcases List.mem_cons.mp member with first | later
      · rw [first]
        exact reuses
      · rw [reuses.dropped] at later
        exact ih outcome later

/-! ### A kernel that was just compiled -/

theorem persist_enabled {disk : Disk} {files after : FileTree} {name : String} {lease : Lease}
    {metadata : Metadata} {busy : Bool} {reported : List Diagnostic}
    (persisted : store.persist disk files name lease metadata busy = (true, after, reported)) :
    store.toggles.enabled = true := by
  cases persisting persisted with
  | written enabled isFixed idle written => exact enabled

theorem precision_complete (request : CompileRequest) (arena : Arena) (metadata : Metadata)
    {required : Precision} (asked : store.precisionFor request = some required) :
    (store.complete request arena metadata).precision = required := by
  unfold complete
  rw [asked]
  exact metadata.precision_setPrecision required

namespace Compiled

variable {busy : Bool} {after : World}

theorem wanted (compiled : store.Compiled machine world request busy kernel after) :
    (store.wanted request).difference? kernel.metadata = none := by
  obtain ⟨_, calls, metadata, _, _, same⟩ := compiled.made
  rw [same]
  refine Wanted.difference?_eq_none_iff.mpr ⟨rfl, ?_⟩
  intro required asked
  exact precision_complete request _ metadata asked

/-- The functions are the bodies that the arena holds, and lie in its mapping. -/
theorem functions (compiled : store.Compiled machine world request busy kernel after)
    (inSlot : kernel.lease.InSlot) :
    ∀ function ∈ kernel.metadata.functions, kernel.lease.address ≤ function.address.toNat ∧
      function.address.toNat + function.size.toNat ≤ kernel.lease.address + kernel.lease.size := by
  intro function member
  obtain ⟨lease, calls, metadata, _, mapping, same⟩ := compiled.made
  rw [same] at member
  obtain ⟨body, held, rfl⟩ := List.mem_map.mp member
  have inside := ((Arena.wellFormed_ofLease lease).performAll calls).body_inside held
  rw [← mapping] at inside
  have bounded := inSlot.end_lt
  rw [inSlot.content] at bounded
  obtain ⟨above, order, below⟩ := inside
  unfold FunctionRecord.ofBody Body.size
  dsimp only
  rw [toNat_ofNat_of_lt (by omega), toNat_ofNat_of_lt (by omega)]
  omega

/-- The kernel lies where a fresh lease was granted. -/
theorem leased (compiled : store.Compiled machine world request busy kernel after) :
    ∃ lease, world.memory.allocate machine.placement store.table = .ok (lease, after.memory) ∧
      kernel.lease.table = store.table ∧ kernel.lease.address = lease.address ∧
      kernel.lease.slot = lease.slot := by
  obtain ⟨lease, calls, _, allocated, mapping, _⟩ := compiled.made
  have occupies := (Arena.occupies_ofLease lease).performAll calls
  have owner := (Memory.allocate_grants allocated).owner
  rw [mapping]
  exact ⟨lease, allocated, occupies.table.trans owner, occupies.address, occupies.slot⟩

/-- Once the kernel is dropped and unmapped, memory is as it was. -/
theorem release (compiled : store.Compiled machine world request busy kernel after) :
    after.memory.release kernel.lease = world.memory := by
  obtain ⟨lease, allocated, table, address, slot⟩ := compiled.leased
  rw [(Memory.allocate_grants allocated).held, ← table, ← address, ← slot]
  exact Memory.release_hold _ _

/-- Once the kernel is dropped and unmapped, the system maps its slot as it did before. -/
theorem canMap (compiled : store.Compiled machine world request busy kernel after)
    (isFixed : kernel.lease.isFixed = true)
    (file : machine.placement.fileFault? 0 kernel.lease.size = none) :
    kernel.CanMap world.memory machine.placement store.table := by
  obtain ⟨lease, allocated, table, address, slot⟩ := compiled.leased
  obtain ⟨index, occupied⟩ := Option.isSome_iff_exists.mp isFixed
  rw [slot] at occupied
  obtain ⟨inside, start, free, placed⟩ :=
    (Memory.allocate_grants allocated).fixed index occupied
  refine ⟨?_, ?_, ?_, file⟩
  · rw [Lease.layout, table]
  · rw [address, start, world.memory.isManaging_slotAddress store.table inside]
    exact free
  · rw [Lease.size, Lease.layout, table, address]
    exact placed

theorem storedAt (compiled : store.Compiled machine world request busy kernel after)
    (written : kernel.origin = .compiled true)
    (globals : ∀ exported ∈ kernel.metadata.globals,
      kernel.lease.address ≤ exported.address.toNat ∧
        exported.address.toNat < kernel.lease.address + kernel.lease.size) :
    store.toggles.enabled = true ∧ kernel.lease.isFixed = true ∧
      kernel.StoredAt after.files (store.paths request.name) := by
  obtain ⟨persisted, reported, origin, persisting⟩ := compiled.persisted
  obtain rfl : persisted = true := Origin.compiled.inj (origin.symm.trans written)
  have apart := StoredPaths.target_apart world.files store.directory request.name
  rcases persist_cases apart persisting with ⟨_, isFixed, file, encoded, replaced⟩ | ⟨impossible, _⟩
  · have inSlot := compiled.inSlot isFixed
    exact ⟨persist_enabled persisting, isFixed, inSlot, ⟨file, encoded, replaced.info⟩,
      replaced.object, globals, compiled.functions inSlot⟩
  · cases impossible

end Compiled

/-! ### Later states -/

/-- A state in which a kernel that was written can be found: its files are as they were, it is
wanted as it is, and nothing is in the way of its slot. -/
structure MayReuse (kernel : Kernel) (layout : Layout) (written : FileTree) (paths : StoredPaths)
    (store : Store) (machine : Machine) (world : World) (request : CompileRequest) : Prop where
  info : world.files.content (store.paths request.name).info = written.content paths.info
  object : world.files.content (store.paths request.name).object = written.content paths.object
  layout : store.table.layout = layout
  enabled : store.toggles.enabled = true
  notForced : store.toggles.forceRecompile = false
  dependencies : kernel.metadata.dependencies = store.dependencies request
  precision : ∀ required, store.precisionFor request = some required →
    kernel.metadata.precision = required
  system : machine.placement.GrantsFree kernel.lease.span
  unmapped : kernel.lease.span.isFree world.memory.live = true
  vacant : world.memory.isManaging store.table kernel.lease.address = false

end Store

/-- A kernel that was compiled and written, with all its variables in its slot, is found in every
later state that allows it. So however often the same request is served and the kernel dropped, a
generator is asked once at most. -/
theorem written_is_found {store : Store} {machine : Machine} {world : World}
    {request : CompileRequest} {generator : Generator} {kernel : Kernel}
    (served : (store.serve machine world request generator).result = .ok kernel)
    (written : kernel.origin = .compiled true)
    (globals : ∀ exported ∈ kernel.metadata.globals,
      kernel.lease.address ≤ exported.address.toNat ∧
        exported.address.toNat < kernel.lease.address + kernel.lease.size) :
    (∀ (again : Store) (later : Machine) (now : World) (next : CompileRequest) (other : Generator),
      Store.MayReuse kernel store.table.layout
        (store.serve machine world request generator).world.files (store.paths request.name)
        again later now next →
      (again.serve later now next other).Reuses kernel now) ∧
    (store.toggles.forceRecompile = false → machine.placement.GrantsFree kernel.lease.span →
      ∀ generators,
        (∀ outcome ∈ store.rounds machine request generators
            (store.serve machine world request generator).dropped,
          outcome.Reuses kernel (store.serve machine world request generator).dropped) ∧
        (store.rounds machine request (generator :: generators) world).countP
          (·.generation.isSome) ≤ 1) := by
  have made : kernel.origin ≠ .stored := by
    intro same
    cases written.symm.trans same
  obtain ⟨busy, compiled⟩ := Store.serve_compiled served made
  obtain ⟨enabled, isFixed, stored⟩ := compiled.storedAt written globals
  constructor
  · intro again later now next other may
    have storedNow : kernel.StoredAt now.files (again.paths next.name) := by
      obtain ⟨file, encoded, held⟩ := stored.info
      exact { stored with
        info := ⟨file, encoded, may.info.trans held⟩
        object := may.object.trans stored.object }
    obtain ⟨_, _, table, _, _⟩ := compiled.leased
    have layout : again.table.layout = kernel.lease.layout := by
      rw [may.layout, Lease.layout, table]
    have canMap : kernel.CanMap now.memory later.placement again.table :=
      ⟨layout, may.vacant, may.system.place _ may.unmapped, may.system.file⟩
    exact Store.serve_stored_kernel may.enabled may.notForced storedNow canMap
      (Wanted.difference?_eq_none_iff.mpr ⟨may.dependencies, may.precision⟩)
  · -- Dropping leads back to the memory in which the slot was granted, so the rounds all begin in
    -- one world, and by induction each reuses the kernel.
    intro notForced system generators
    generalize outcome : store.serve machine world request generator = first at *
    have dropped : first.dropped =
        ⟨first.world.files, (store.afterMiss machine.placement world request).memory⟩ := by
      rw [Outcome.dropped, served]
      dsimp only
      rw [compiled.release]
    have reuses : ∀ outcome ∈ store.rounds machine request generators first.dropped,
        outcome.Reuses kernel first.dropped := by
      rw [dropped]
      refine Store.rounds_reuse enabled notForced ?_ ?_ compiled.wanted generators
      · exact stored
      · exact compiled.canMap isFixed system.file
    refine ⟨reuses, ?_⟩
    unfold Store.rounds
    dsimp only
    rw [outcome, List.countP_cons, List.countP_eq_zero.mpr]
    · split <;> simp
    · intro later member
      rw [(reuses later member).generation]
      exact Bool.false_ne_true

def relaxedRequest : CompileRequest := ⟨"k", [], some .relaxed⟩

/-- Emits a function and a variable, and asks for less precision than is required. -/
def fullGenerator : Generator := fun _ _ =>
  .ask (.beginBody "f") fun _ => .ask (.write 0x100000 [0xc3]) fun _ =>
    .ask (.endBody "f" 1) fun _ => .ask (.takeData 8 8) fun _ =>
      .finish (.ok { pragmas := [⟨"fp_imprecise", ""⟩], globals := [⟨"v", 0x101000⟩] })

def relaxedOutcome : Outcome :=
  (soloStore []).serve .standard { memory := { nextTable := 1 } } relaxedRequest fullGenerator

/-- Another process, with the required precision in its toggles. -/
def laterStore : Store := { soloStore [] with toggles := { precision := some .relaxed } }

def laterWorld : World := { files := relaxedOutcome.world.files, memory := { nextTable := 1 } }

theorem written_is_found_by_another :
    ∃ kernel, relaxedOutcome.result = .ok kernel ∧ kernel.origin = .compiled true ∧
      (laterStore.serve .standard laterWorld soloRequest returnGenerator).Reuses kernel laterWorld ∧
      ∀ generators, ((soloStore []).rounds .standard relaxedRequest (fullGenerator :: generators)
        { memory := { nextTable := 1 } }).countP (·.generation.isSome) ≤ 1 := by
  have recorded : relaxedOutcome.result.toOption.any (fun kernel =>
      kernel.origin = .compiled true ∧ kernel.metadata.globals = [⟨"v", 0x101000⟩] ∧
        kernel.metadata.dependencies = [] ∧ kernel.metadata.precision = .relaxed ∧
        kernel.lease.address = 0x100000 ∧ kernel.lease.table = (soloStore []).table) = true := by
    decide +kernel
  cases result : relaxedOutcome.result with
  | error fault =>
      rw [result] at recorded
      cases recorded
  | ok kernel =>
      rw [result] at recorded
      obtain ⟨origin, globals, dependencies, precision, address, table⟩ :=
        of_decide_eq_true recorded
      have size : kernel.lease.size = 8192 := by
        rw [Lease.size, Lease.layout, table]
        rfl
      have system : Placement.standard.GrantsFree kernel.lease.span := by
        apply Placement.standard_grantsFree
        · change kernel.lease.size < _
          rw [size]
          decide
        · change _ ≤ kernel.lease.address
          rw [address]
          decide
        · rw [Lease.span, Span.stop, size, address]
          decide
      have inside : ∀ exported ∈ kernel.metadata.globals,
          kernel.lease.address ≤ exported.address.toNat ∧
            exported.address.toNat < kernel.lease.address + kernel.lease.size := by
        rw [globals, address, size]
        decide
      obtain ⟨found, once⟩ := written_is_found result origin inside
      refine ⟨kernel, rfl, origin, found laterStore .standard laterWorld soloRequest returnGenerator
        { info := rfl, object := rfl, layout := rfl, enabled := rfl, notForced := rfl,
          dependencies := dependencies, precision := ?_, system := system, unmapped := rfl,
          vacant := ?_ }, fun generators => (once rfl system generators).2⟩
      · intro required asked
        cases asked
        exact precision
      · rw [address]
        rfl

end KernelStore
