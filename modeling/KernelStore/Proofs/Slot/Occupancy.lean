import KernelStore.Proofs.Arena.Invariant
import KernelStore.Proofs.Slot.Leasing

/-!
One process with any number of slot tables, and the leases that it holds. A lease that is dropped
while the system does not unmap it is stranded: nobody holds it, and it stays mapped and its slot
taken. Main statement: after every run a slot is taken just if one lease, held or stranded, occupies
it, and no two of them meet; and no lease is stranded if the system unmaps what it is asked to.
-/

namespace KernelStore

/-- What a lease marks as taken. -/
def Lease.mark? (lease : Lease) : Option (Nat × Nat) :=
  lease.slot.map fun index => (lease.table.id, index)

structure Process where
  memory : Memory := {}
  tables : List SlotTable := []
  held : List Lease := []
  stranded : List Lease := []

/-- What a process does with its tables and leases. Each lease is granted under some conduct of
the operating system, may then be emitted into, by an arena or for a kernel, and is dropped under
some conduct again. -/
inductive SlotCall
  | newTable (layout : Layout)
  | allocate (placement : Placement) (which : Nat)
  | allocateFile (placement : Placement) (which address : Nat) (file : OpenFile) (offset : Nat)
  | emit (position : Nat) (calls : List ArenaCall)
  | drop (placement : Placement) (position : Nat)

def SlotCall.KeepsApart : SlotCall → Prop
  | newTable _ => True
  | allocate placement _ => placement.KeepsApart
  | allocateFile placement _ _ _ _ => placement.KeepsApart
  | emit _ _ => True
  | drop _ _ => True

namespace Process

/-- Holds the lease that was granted, if one was. -/
def hold (process : Process) : Except LeaseFault (Lease × Memory) → Process
  | .ok (lease, memory) => { process with memory := memory, held := lease :: process.held }
  | .error _ => process

/-- A call on a table or a lease that the process does not have does nothing. -/
def perform (process : Process) : SlotCall → Process
  | .newTable layout =>
      let (table, memory) := process.memory.newTable layout
      { process with memory := memory, tables := process.tables ++ [table] }
  | .allocate placement which =>
      match process.tables[which]? with
      | some table => process.hold (process.memory.allocate placement table)
      | none => process
  | .allocateFile placement which address file offset =>
      match process.tables[which]? with
      | some table =>
          process.hold (process.memory.allocateFile placement table address file offset)
      | none => process
  | .emit position calls =>
      match process.held[position]? with
      | some lease =>
          let emitted := ((Arena.ofLease lease).performAll calls).lease
          { process with held := process.held.set position emitted }
      | none => process
  | .drop placement position =>
      match process.held[position]? with
      | some lease =>
          { process with
            memory := process.memory.drop placement lease
            held := process.held.eraseIdx position
            stranded :=
              if placement.unmaps process.memory.live lease.span then process.stranded
              else lease :: process.stranded }
      | none => process

def performAll (process : Process) (calls : List SlotCall) : Process :=
  calls.foldl perform process

end Process

namespace SlotTable

variable (table : SlotTable) (leases : List Lease)

/-- The leases that occupy a slot of a table. -/
def holders (index : Nat) : List Lease :=
  leases.filter fun lease => lease.table = table ∧ lease.slot = some index

/-- The leases of a table that occupy any of its slots. -/
def fixedAmong : List Lease :=
  leases.filter fun lease => lease.table = table ∧ lease.isFixed = true

end SlotTable

/-! ### The invariant -/

namespace Memory

/-- The marks of a memory and its live mappings are those of certain leases, each once. -/
structure Consistent (memory : Memory) (tables : List SlotTable) (leases : List Lease) : Prop where
  ids : tables.map SlotTable.id = List.range memory.nextTable
  owners : ∀ lease ∈ leases, lease.table ∈ tables
  slots : ∀ lease ∈ leases, ∀ index, lease.slot = some index →
    index < lease.layout.count ∧ lease.address = lease.layout.slotAddress index
  contents : ∀ lease ∈ leases, lease.content.size = lease.size
  once : memory.taken.Nodup
  taken : memory.taken.Perm (leases.filterMap Lease.mark?)
  live : memory.live.Perm (leases.map Lease.span)
  apart : (leases.map Lease.span).Pairwise Span.Apart

variable {memory : Memory} {tables : List SlotTable} {leases : List Lease}

theorem Consistent.newTable (consistent : memory.Consistent tables leases) (layout : Layout) :
    (memory.newTable layout).2.Consistent (tables ++ [(memory.newTable layout).1]) leases := by
  refine { consistent with ids := ?_, owners := ?_ }
  · change (tables ++ [SlotTable.mk memory.nextTable layout]).map SlotTable.id =
      List.range (memory.nextTable + 1)
    rw [List.map_append, consistent.ids, List.range_succ]
    rfl
  · intro lease member
    exact List.mem_append_left _ (consistent.owners lease member)

theorem Consistent.grants {placement : Placement} {table : SlotTable} {lease : Lease}
    {after : Memory} (consistent : memory.Consistent tables leases) (honest : placement.KeepsApart)
    (known : table ∈ tables) (granted : memory.Grants placement table lease after) :
    after.Consistent tables (lease :: leases) := by
  obtain ⟨rfl, content, ⟨wanted, placed⟩, fixed, rfl⟩ := granted
  have free := (Span.isFree_iff _ _).mp (honest _ _ _ _ placed)
  refine ⟨consistent.ids, ?_, ?_, ?_, ?_, ?_, ?_, ?_⟩
  · exact List.forall_mem_cons.mpr ⟨known, consistent.owners⟩
  · refine List.forall_mem_cons.mpr ⟨?_, consistent.slots⟩
    intro index occupied
    obtain ⟨inside, address, _⟩ := fixed index occupied
    exact ⟨inside, address⟩
  · exact List.forall_mem_cons.mpr ⟨content, consistent.contents⟩
  · cases slot : lease.slot with
    | none => simpa [Memory.hold] using consistent.once
    | some index =>
        obtain ⟨_, _, untaken, _⟩ := fixed index slot
        refine List.nodup_cons.mpr ⟨?_, consistent.once⟩
        intro member
        have taken : memory.isTaken lease.table index = true :=
          List.contains_iff_mem.mpr member
        rw [untaken] at taken
        cases taken
  · cases slot : lease.slot with
    | none => simpa [Memory.hold, Lease.mark?, slot] using consistent.taken
    | some index => simpa [Memory.hold, Lease.mark?, slot] using consistent.taken
  · exact consistent.live.cons lease.span
  · refine List.pairwise_cons.mpr ⟨?_, consistent.apart⟩
    intro other member
    exact free other (consistent.live.mem_iff.mpr member)

theorem Consistent.release {front rest : List Lease} {lease : Lease}
    (consistent : memory.Consistent tables (front ++ lease :: rest)) :
    (memory.release lease).Consistent tables (front ++ rest) := by
  obtain ⟨ids, owners, slots, contents, once, taken, live, apart⟩ := consistent
  have kept : (front ++ rest).Sublist (front ++ lease :: rest) :=
    List.Sublist.append_left (List.sublist_cons_self lease rest) front
  have moved : (front ++ lease :: rest).Perm (lease :: (front ++ rest)) := List.perm_middle
  refine ⟨ids, ?_, ?_, ?_, ?_, ?_, ?_, ?_⟩
  · exact fun other member => owners other (kept.subset member)
  · exact fun other member => slots other (kept.subset member)
  · exact fun other member => contents other (kept.subset member)
  · cases slot : lease.slot with
    | none => simpa [Memory.release, slot] using once
    | some index => simpa [Memory.release, slot] using once.erase (lease.table.id, index)
  · have marks := taken.trans (moved.filterMap Lease.mark?)
    cases slot : lease.slot with
    | none => simpa [Memory.release, Lease.mark?, slot] using marks
    | some index =>
        simp only [List.filterMap_cons, Lease.mark?, slot, Option.map_some] at marks
        have erased := marks.erase (lease.table.id, index)
        rw [List.erase_cons_head] at erased
        simpa only [Memory.release, slot] using erased
  · have erased := (live.trans (moved.map Lease.span)).erase lease.span
    rwa [List.map_cons, List.erase_cons_head] at erased
  · exact apart.sublist (kept.map Lease.span)

/-- Writing to the mapping of a lease leaves every mark and range alone. -/
theorem Consistent.emit {front rest : List Lease} {lease changed : Lease}
    (consistent : memory.Consistent tables (front ++ lease :: rest))
    (table : changed.table = lease.table) (address : changed.address = lease.address)
    (slot : changed.slot = lease.slot) (content : changed.content.size = changed.size) :
    memory.Consistent tables (front ++ changed :: rest) := by
  obtain ⟨ids, owners, slots, contents, once, taken, live, apart⟩ := consistent
  have present : lease ∈ front ++ lease :: rest :=
    List.mem_append_right _ List.mem_cons_self
  have layout : changed.layout = lease.layout := congrArg SlotTable.layout table
  have mark : changed.mark? = lease.mark? := by
    unfold Lease.mark?
    rw [slot, table]
  have span : changed.span = lease.span := by
    unfold Lease.span Lease.size
    rw [address, layout]
  have marks : (front ++ changed :: rest).filterMap Lease.mark? =
      (front ++ lease :: rest).filterMap Lease.mark? := by
    rw [List.filterMap_append, List.filterMap_append, List.filterMap_cons, List.filterMap_cons,
      mark]
  have spans : (front ++ changed :: rest).map Lease.span =
      (front ++ lease :: rest).map Lease.span := by
    rw [List.map_append, List.map_append, List.map_cons, List.map_cons, span]
  have members : ∀ other ∈ front ++ changed :: rest,
      other = changed ∨ other ∈ front ++ lease :: rest := by
    intro other member
    rcases List.mem_append.mp member with early | late
    · exact Or.inr (List.mem_append_left _ early)
    · rcases List.mem_cons.mp late with same | later
      · exact Or.inl same
      · exact Or.inr (List.mem_append_right _ (List.mem_cons_of_mem _ later))
  refine ⟨ids, ?_, ?_, ?_, once, ?_, ?_, ?_⟩
  · intro other member
    rcases members other member with rfl | old
    · exact table ▸ owners lease present
    · exact owners other old
  · intro other member
    rcases members other member with rfl | old
    · rw [slot, layout, address]
      exact slots lease present
    · exact slots other old
  · intro other member
    rcases members other member with rfl | old
    · exact content
    · exact contents other old
  · exact marks ▸ taken
  · exact spans ▸ live
  · exact spans ▸ apart

theorem Consistent.perm {others : List Lease} (consistent : memory.Consistent tables leases)
    (moved : leases.Perm others) : memory.Consistent tables others where
  ids := consistent.ids
  owners lease member := consistent.owners lease (moved.mem_iff.mpr member)
  slots lease member := consistent.slots lease (moved.mem_iff.mpr member)
  contents lease member := consistent.contents lease (moved.mem_iff.mpr member)
  once := consistent.once
  taken := consistent.taken.trans (moved.filterMap _)
  live := consistent.live.trans (moved.map _)
  apart := (moved.map Lease.span).pairwise consistent.apart Span.Apart.symm

/-! ### What the marks say -/

theorem Consistent.table_eq (consistent : memory.Consistent tables leases)
    {first second : SlotTable} (firstKnown : first ∈ tables) (secondKnown : second ∈ tables)
    (same : first.id = second.id) : first = second := by
  have distinct : (tables.map SlotTable.id).Nodup := by
    rw [consistent.ids]
    exact List.nodup_range
  exact List.inj_on_of_nodup_map distinct firstKnown secondKnown same

theorem Consistent.count_mark (consistent : memory.Consistent tables leases) {table : SlotTable}
    (known : table ∈ tables) (index : Nat) :
    memory.taken.count (table.id, index) = (table.holders leases index).length := by
  rw [consistent.taken.count_eq, List.count, List.countP_filterMap, SlotTable.holders,
    ← List.countP_eq_length_filter]
  apply List.countP_congr
  intro lease member
  have owner := consistent.table_eq (consistent.owners lease member) known
  cases slot : lease.slot with
  | none => simp [Lease.mark?, slot]
  | some other =>
      simp only [Lease.mark?, slot, Option.map_some, Option.getD_some, beq_iff_eq, Prod.mk.injEq,
        decide_eq_true_eq, Option.some.injEq]
      exact ⟨fun same => ⟨owner same.1, same.2⟩, fun same => ⟨congrArg _ same.1, same.2⟩⟩

theorem Consistent.isTaken_iff (consistent : memory.Consistent tables leases) {table : SlotTable}
    (known : table ∈ tables) (index : Nat) :
    (table.holders leases index).length ≤ 1 ∧
      (memory.isTaken table index = true ↔ (table.holders leases index).length = 1) := by
  have most := List.nodup_iff_count_le_one.mp consistent.once (table.id, index)
  rw [← consistent.count_mark known index]
  refine ⟨most, ?_⟩
  unfold isTaken
  rw [List.contains_iff_mem, ← List.count_pos_iff]
  omega

theorem Consistent.isTaken_iff_exists (consistent : memory.Consistent tables leases)
    {table : SlotTable} (known : table ∈ tables) (index : Nat) :
    memory.isTaken table index = true ↔
      ∃ lease ∈ leases, lease.table = table ∧ lease.slot = some index := by
  obtain ⟨most, exact_⟩ := consistent.isTaken_iff known index
  rw [exact_]
  constructor
  · intro one
    obtain ⟨lease, member⟩ := List.exists_mem_of_length_pos (by omega :
      0 < (table.holders leases index).length)
    obtain ⟨held, holds⟩ := List.mem_filter.mp member
    exact ⟨lease, held, of_decide_eq_true holds⟩
  · rintro ⟨lease, held, holds⟩
    have member : lease ∈ table.holders leases index :=
      List.mem_filter.mpr ⟨held, decide_eq_true holds⟩
    have positive := List.length_pos_of_mem member
    omega

theorem Consistent.isManaging_iff (consistent : memory.Consistent tables leases) {table : SlotTable}
    (known : table ∈ tables) (address : Nat) :
    memory.isManaging table address = true ↔
      ∃ lease ∈ table.fixedAmong leases,
        lease.address ≤ address ∧ address < lease.address + lease.size := by
  rw [Memory.isManaging_iff]
  constructor
  · intro managed
    obtain ⟨index, _, ⟨above, below⟩, taken⟩ := managed
    obtain ⟨lease, held, rfl, slot⟩ := (consistent.isTaken_iff_exists known index).mp taken
    obtain ⟨_, start⟩ := consistent.slots lease held index slot
    refine ⟨lease, List.mem_filter.mpr ⟨held, ?_⟩, ?_⟩
    · simp [Lease.isFixed, slot]
    · rw [start]
      exact ⟨above, below⟩
  · rintro ⟨lease, member, above, below⟩
    obtain ⟨held, holds⟩ := List.mem_filter.mp member
    obtain ⟨rfl, isFixed⟩ := of_decide_eq_true holds
    obtain ⟨index, slot⟩ := Option.isSome_iff_exists.mp isFixed
    obtain ⟨inside, start⟩ := consistent.slots lease held index slot
    rw [start] at above below
    have taken := (consistent.isTaken_iff_exists known index).mpr ⟨lease, held, rfl, slot⟩
    exact ⟨index, inside, ⟨above, below⟩, taken⟩

end Memory

/-! ### Runs -/

namespace Process

variable {process : Process}

/-- The held leases and the stranded ones account for the whole memory. -/
def Consistent (process : Process) : Prop :=
  process.memory.Consistent process.tables (process.held ++ process.stranded)

theorem split_at {held : List Lease} {position : Nat} {lease : Lease}
    (found : held[position]? = some lease) :
    ∃ front rest, held = front ++ lease :: rest ∧ held.eraseIdx position = front ++ rest ∧
      ∀ changed, held.set position changed = front ++ changed :: rest := by
  obtain ⟨inside, same⟩ := List.getElem?_eq_some_iff.mp found
  refine ⟨held.take position, held.drop (position + 1), ?_, ?_, ?_⟩
  · rw [← same, List.getElem_cons_drop, List.take_append_drop]
  · exact List.eraseIdx_eq_take_drop_succ held position
  · intro changed
    rw [List.set_eq_take_append_cons_drop, if_pos inside]

theorem Consistent.hold {placement : Placement} {table : SlotTable}
    {outcome : Except LeaseFault (Lease × Memory)} (consistent : process.Consistent)
    (honest : placement.KeepsApart) (known : table ∈ process.tables)
    (granted : ∀ lease after, outcome = .ok (lease, after) →
      process.memory.Grants placement table lease after) :
    (process.hold outcome).Consistent := by
  cases outcome with
  | error fault => exact consistent
  | ok result => exact Memory.Consistent.grants consistent honest known (granted _ _ rfl)

/-- A dropped lease is gone, or it is stranded. -/
theorem Consistent.drop (consistent : process.Consistent) (placement : Placement)
    (position : Nat) : (process.perform (.drop placement position)).Consistent := by
  cases found : process.held[position]? with
  | none => simpa only [Process.perform, found] using consistent
  | some lease =>
      obtain ⟨front, rest, held, erased, _⟩ := split_at found
      unfold Consistent at consistent ⊢
      rw [held, List.append_assoc, List.cons_append] at consistent
      simp only [Process.perform, found, erased, Memory.drop]
      cases unmapped : placement.unmaps process.memory.live lease.span with
      | true =>
          rw [if_pos rfl, if_pos rfl, List.append_assoc]
          exact consistent.release
      | false =>
          rw [if_neg Bool.false_ne_true, if_neg Bool.false_ne_true, List.append_assoc]
          apply consistent.perm
          apply List.Perm.append_left
          exact List.perm_middle.symm

theorem Consistent.perform (consistent : process.Consistent) (call : SlotCall)
    (honest : call.KeepsApart) : (process.perform call).Consistent := by
  cases call with
  | newTable layout => exact Memory.Consistent.newTable consistent layout
  | allocate placement which =>
      cases found : process.tables[which]? with
      | none => simpa only [Process.perform, found] using consistent
      | some table =>
          simp only [Process.perform, found]
          exact consistent.hold honest (List.mem_of_getElem? found)
            fun _ _ => Memory.allocate_grants
  | allocateFile placement which address file offset =>
      cases found : process.tables[which]? with
      | none => simpa only [Process.perform, found] using consistent
      | some table =>
          simp only [Process.perform, found]
          exact consistent.hold honest (List.mem_of_getElem? found)
            fun _ _ => Memory.allocateFile_grants
  | emit position calls =>
      cases found : process.held[position]? with
      | none => simpa only [Process.perform, found] using consistent
      | some lease =>
          obtain ⟨front, rest, held, _, replaced⟩ := split_at found
          have member : lease ∈ process.held ++ process.stranded :=
            List.mem_append_left _ (List.mem_of_getElem? found)
          have whole := consistent.contents lease member
          have occupies := (Arena.occupies_ofLease lease).performAll calls
          unfold Consistent at consistent ⊢
          rw [held, List.append_assoc, List.cons_append] at consistent
          simp only [Process.perform, found, replaced, List.append_assoc, List.cons_append]
          exact consistent.emit occupies.table occupies.address occupies.slot
            ((Arena.wellFormed_ofLease lease).whole_performAll whole calls)
  | drop placement position => exact consistent.drop placement position

theorem Consistent.performAll (consistent : process.Consistent) (calls : List SlotCall)
    (honest : ∀ call ∈ calls, call.KeepsApart) : (process.performAll calls).Consistent := by
  induction calls generalizing process with
  | nil => exact consistent
  | cons call rest ih =>
      obtain ⟨first, others⟩ := List.forall_mem_cons.mp honest
      exact ih (consistent.perform call first) others

end Process

end KernelStore
