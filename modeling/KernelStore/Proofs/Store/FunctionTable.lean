import KernelStore.Proofs.Arena.Ledger
import KernelStore.Proofs.Store.Coherence

/-!
The function table of a compiled kernel. Main statement: it has the bodies that the calls of the
generator and the replies to them leave, whatever table the generator yields, and a name leads to
where its body begins.
-/

namespace KernelStore

/-! ### What a dialogue leaves -/

namespace Ledger

def recordAll (ledger : Ledger) (exchanges : List Exchange) : Ledger :=
  exchanges.foldl (fun ledger exchange => ledger.record exchange.call exchange.reply) ledger

/-- The bodies that a dialogue with a fresh arena leaves, by its calls and replies alone. -/
def bodiesOf (exchanges : List Exchange) : List Body := (recordAll {} exchanges).bodies

theorem Accounts.emission {α : Type} (emission : Emission α) {ledger : Ledger} {arena : Arena}
    (accounts : ledger.Accounts arena) (wellFormed : arena.WellFormed) :
    (ledger.recordAll (emission.run arena).1).Accounts (emission.run arena).2.2 ∧
      (emission.run arena).2.2.WellFormed := by
  induction emission generalizing ledger arena with
  | finish result => exact ⟨accounts, wellFormed⟩
  | ask call next ih =>
      apply ih
      · exact accounts.perform wellFormed call
      · exact wellFormed.perform call

end Ledger

/-! ### Records of bodies -/

def FunctionRecord.span (function : FunctionRecord) : Span :=
  ⟨function.address.toNat, function.size.toNat⟩

namespace Arena

variable {arena : Arena}

/-- Where no address wraps around, the record of a body has the body's range. -/
theorem WellFormed.span_ofBody (wellFormed : arena.WellFormed)
    (bounded : arena.base + arena.codeSize < addressLimit) {body : Body}
    (member : body ∈ arena.bodies) :
    (FunctionRecord.ofBody body).span = ⟨body.start, body.size⟩ := by
  obtain ⟨above, order, below⟩ := wellFormed.body_inCode member
  have start : (UInt64.ofNat body.start).toNat = body.start := by
    apply toNat_ofNat_of_lt
    omega
  have size : (UInt64.ofNat body.size).toNat = body.size := by
    apply toNat_ofNat_of_lt
    unfold Body.size
    omega
  change Span.mk (UInt64.ofNat body.start).toNat (UInt64.ofNat body.size).toNat = _
  rw [start, size]

theorem WellFormed.stop_span (wellFormed : arena.WellFormed) {body : Body}
    (member : body ∈ arena.bodies) : (Span.mk body.start body.size).stop = body.stop :=
  Nat.add_sub_of_le (wellFormed.placed body member).2.1

theorem WellFormed.findBody?_name (wellFormed : arena.WellFormed) {body : Body}
    (member : body ∈ arena.bodies) : arena.findBody? body.name = some body := by
  cases found : arena.findBody? body.name with
  | none =>
      have named := List.mem_map_of_mem (f := Body.name) member
      exact absurd named (findBody?_eq_none_iff.mp found)
  | some other =>
      have same : other.name = body.name := (findBody?_split found).1
      have listed : other ∈ arena.bodies := List.mem_of_find?_eq_some found
      rw [List.inj_on_of_nodup_map wellFormed.names listed member same]

end Arena

/-! ### Kernels -/

/-- The kernel has these functions: one behind the other in the code part of its mapping, each
under a name of its own, which leads to it. -/
structure Kernel.Lists (kernel : Kernel) (bodies : List Body) : Prop where
  functions : kernel.metadata.functions = bodies.map .ofBody
  spans : kernel.metadata.functions.map (·.span) =
    bodies.map fun body => ⟨body.start, body.size⟩
  names : (kernel.metadata.functions.map (·.name)).Nodup
  ordered : kernel.metadata.functions.Pairwise fun first second =>
    first.span.stop ≤ second.span.start
  inside : ∀ function ∈ kernel.metadata.functions,
    kernel.lease.address ≤ function.span.start ∧
      function.span.stop ≤ kernel.lease.address + kernel.lease.layout.codeSize
  found : ∀ body ∈ bodies, ∃ address, kernel.functionAddress? body.name = some address ∧
    address.toNat = body.start
  unknown : ∀ name, name ∉ bodies.map Body.name → kernel.functionAddress? name = none

theorem Kernel.lists_of_bodies {kernel : Kernel} {arena : Arena} (wellFormed : arena.WellFormed)
    (bounded : arena.base + arena.codeSize < addressLimit) (mapping : kernel.lease = arena.lease)
    (functions : kernel.metadata.functions = arena.bodies.map .ofBody) :
    kernel.Lists arena.bodies := by
  have search (name : String) : kernel.functionAddress? name =
      (arena.findBody? name).map fun body => UInt64.ofNat body.start := by
    unfold Kernel.functionAddress? Metadata.findFunction?
    rw [functions, List.find?_map, Option.map_map]
    rfl
  have span {body : Body} (member : body ∈ arena.bodies) := wellFormed.span_ofBody bounded member
  refine ⟨functions, ?_, ?_, ?_, ?_, ?_, ?_⟩
  · rw [functions, List.map_map]
    apply List.map_congr_left
    intro body member
    exact span member
  · rw [functions, List.map_map]
    exact wellFormed.names
  · rw [functions]
    apply List.pairwise_map.mpr
    apply wellFormed.ordered.imp_of_mem
    intro first second firstMember secondMember order
    rw [span firstMember, span secondMember, wellFormed.stop_span firstMember]
    exact order
  · intro function member
    rw [functions] at member
    obtain ⟨body, held, rfl⟩ := List.mem_map.mp member
    obtain ⟨above, _, below⟩ := wellFormed.body_inCode held
    rw [span held, wellFormed.stop_span held, mapping]
    exact ⟨above, below⟩
  · intro body member
    refine ⟨UInt64.ofNat body.start, ?_, congrArg Span.start (span member)⟩
    rw [search, wellFormed.findBody?_name member]
    rfl
  · intro name absent
    rw [search, Arena.findBody?_eq_none_iff.mpr absent]
    rfl

/-! ### Serving -/

namespace Store

variable {store : Store} {machine : Machine} {world : World} {request : CompileRequest}
  {generator : Generator}

/-- A kernel was emitted by its generator: in a dialogue on its mapping, which left the functions
that the kernel has. -/
def Emitted (store : Store) (request : CompileRequest) (generator : Generator)
    (outcome : Outcome) (kernel : Kernel) : Prop :=
  ∃ lease exchanges metadata emitted,
    store.dialogue request generator lease = (exchanges, .ok metadata, emitted) ∧
      kernel.lease = emitted.lease ∧
      outcome.generation = some ⟨store.asked request, exchanges⟩ ∧
      kernel.Lists (Ledger.bodiesOf exchanges)

theorem Compiling.emitted {busy : Bool} {outcome : Outcome} {kernel : Kernel}
    (endsInside : machine.placement.EndsInside)
    (compiling : Compiling store machine world request generator busy outcome)
    (result : outcome.result = .ok kernel) : store.Emitted request generator outcome kernel := by
  cases compiling with
  | refused allocated => cases result
  | notWritable allocated protection => cases result
  | failed allocated ran => cases result
  | notExecutable allocated ran protection => cases result
  | made allocated ran persisting =>
      rename_i lease memory exchanges metadata emitted persisted files reported
      cases result
      have run := (Ledger.accounts_ofLease lease).emission
        (generator (store.asked request) (.ofLease lease)) (Arena.wellFormed_ofLease lease)
      change (Ledger.recordAll {} (store.dialogue request generator lease).1).Accounts
          (store.dialogue request generator lease).2.2 ∧
        (store.dialogue request generator lease).2.2.WellFormed at run
      rw [ran] at run
      obtain ⟨accounts, wellFormed⟩ := run
      have occupies : emitted.Occupies lease := dialogue_occupies ran
      have ends := Memory.allocate_end_lt endsInside allocated
      have bounded : emitted.base + emitted.codeSize < addressLimit := by
        unfold Arena.base Arena.codeSize Lease.layout
        rw [occupies.address, occupies.table]
        unfold Lease.size Lease.layout Layout.slotSize at ends
        omega
      refine ⟨lease, exchanges, metadata, emitted, ran, rfl, rfl, ?_⟩
      unfold Ledger.bodiesOf
      rw [← accounts.bodies]
      exact Kernel.lists_of_bodies wellFormed bounded rfl rfl

end Store

/-- A compiled kernel has the functions that its generator ended since it last reset the arena, less
those it removed, at the places that the removals moved them to. -/
theorem served_functions {store : Store} {machine : Machine} {world : World}
    {request : CompileRequest} {generator : Generator} {kernel : Kernel}
    (endsInside : machine.placement.EndsInside)
    (served : (store.serve machine world request generator).result = .ok kernel)
    (compiled : kernel.origin ≠ .stored) :
    store.Emitted request generator (store.serve machine world request generator) kernel := by
  have serving := store.serving machine world request generator
  generalize store.serve machine world request generator = outcome at serving served ⊢
  cases serving with
  | found enabled notForced loaded =>
      cases served
      exact absurd rfl compiled
  | compiled recovers compiling =>
      have emitted := compiling.emitted endsInside served
      exact emitted

/-- Makes the calls in turn, whatever is replied. -/
def Emission.ofCalls {α : Type} (result : α) : List ArenaCall → Emission α
  | [] => .finish result
  | call :: rest => .ask call fun _ => ofCalls result rest

/-- Resets the arena over one body, removes another, uses its name again, and leaves a body open. -/
def movingGenerator : Generator := fun _ _ =>
  .ofCalls (.ok { functions := [⟨"early", 0x100000, 32⟩] })
    [.beginBody "early", .endBody "early" 32, .reset, .beginBody "a", .endBody "a" 8,
      .beginBody "b", .endBody "b" 4, .takeCode 3 8, .beginBody "c", .endBody "c" 2,
      .removeBody "a", .beginBody "a", .endBody "a" 6, .beginBody "last"]

def movingOutcome : Outcome :=
  (soloStore []).serve .standard { memory := { nextTable := 1 } } soloRequest movingGenerator

theorem served_functions_moved :
    ∃ kernel exchanges, movingOutcome.result = .ok kernel ∧ kernel.origin = .compiled true ∧
      movingOutcome.generation = some ⟨soloRequest, exchanges⟩ ∧
      Ledger.bodiesOf exchanges = [⟨"b", 0x100000, 0x100004⟩, ⟨"c", 0x10000b, 0x10000d⟩,
        ⟨"a", 0x10000d, 0x100013⟩] ∧
      kernel.Lists (Ledger.bodiesOf exchanges) ∧ kernel.functionAddress? "early" = none := by
  have recorded : movingOutcome.result.toOption.map (·.origin) = some (.compiled true) ∧
      movingOutcome.generation.map (Ledger.bodiesOf ·.exchanges) =
        some [⟨"b", 0x100000, 0x100004⟩, ⟨"c", 0x10000b, 0x10000d⟩,
          ⟨"a", 0x10000d, 0x100013⟩] := by decide +kernel
  cases result : movingOutcome.result with
  | error fault =>
      rw [result] at recorded
      cases recorded.1
  | ok kernel =>
      rw [result] at recorded
      have origin : kernel.origin = .compiled true := Option.some.inj recorded.1
      have compiled : kernel.origin ≠ .stored := by
        rw [origin]
        exact nofun
      obtain ⟨lease, exchanges, metadata, emitted, _, _, generation, lists⟩ :=
        served_functions Placement.standard_endsInside result compiled
      change movingOutcome.generation = some ⟨soloRequest, exchanges⟩ at generation
      rw [generation] at recorded
      have bodies : Ledger.bodiesOf exchanges = _ := Option.some.inj recorded.2
      refine ⟨kernel, exchanges, rfl, origin, generation, bodies, lists, ?_⟩
      apply lists.unknown
      rw [bodies]
      decide

end KernelStore
