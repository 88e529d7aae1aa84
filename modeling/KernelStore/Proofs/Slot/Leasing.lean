import KernelStore.Proofs.Slot.Addresses
import KernelStore.Proofs.Slot.Spans

/-!
What a lease that has been granted looks like, whichever way it was asked for, and what is left of
one that was dropped. All depends on the system: whether it maps nothing over what is mapped already,
and whether it unmaps what it is asked to.
-/

namespace KernelStore

/-- A mapping of a file that is large enough has the bytes at the file's start. -/
theorem Content.bytes_mapped {content : Content} {size : Nat} (enough : size ≤ content.size) :
    ((content.drop 0).resize size).bytes = content.bytes.take size := by
  rw [Content.size_eq] at enough
  rw [Content.bytes_resize, Content.bytes_drop, List.drop_zero, Bytes.resize_eq_take enough]

theorem firstPassing_eq_some_iff {passes : Nat → Bool} {start count index : Nat} :
    firstPassing passes start count = some index ↔
      start ≤ index ∧ index < start + count ∧ passes index = true ∧
        ∀ earlier, start ≤ earlier → earlier < index → passes earlier = false := by
  induction count generalizing start with
  | zero =>
      simp only [firstPassing, reduceCtorEq, false_iff]
      omega
  | succ count ih =>
      cases passed : passes start with
      | true =>
          simp only [firstPassing, passed, if_true, Option.some.injEq]
          constructor
          · intro same
            subst same
            exact ⟨Nat.le_refl _, by omega, passed, fun _ above below => by omega⟩
          · rintro ⟨above, _, _, least⟩
            by_cases same : start = index
            · exact same
            · have refused := least start (Nat.le_refl _) (by omega)
              rw [passed] at refused
              cases refused
      | false =>
          simp only [firstPassing, passed, Bool.false_eq_true, if_false, ih]
          constructor
          · rintro ⟨above, below, passing, least⟩
            refine ⟨by omega, by omega, passing, ?_⟩
            intro earlier atLeast before
            by_cases same : earlier = start
            · rw [same]
              exact passed
            · exact least earlier (by omega) before
          · rintro ⟨above, below, passing, least⟩
            have different : index ≠ start := by
              intro same
              subst same
              rw [passed] at passing
              cases passing
            exact ⟨by omega, by omega, passing, fun earlier atLeast => least earlier (by omega)⟩

/-! ### The operating system -/

namespace Placement

/-- The system maps nothing over a live mapping. -/
def KeepsApart (placement : Placement) : Prop :=
  ∀ live wanted size start, placement.place live wanted size = some start →
    (Span.mk start size).isFree live = true

theorem stop_le_foldl {live : List Span} {span : Span} (member : span ∈ live) (top : Nat) :
    span.stop ≤ live.foldl (fun top span => max top span.stop) top := by
  induction live generalizing top with
  | nil => cases member
  | cons head tail ih =>
      rcases List.mem_cons.mp member with same | later
      · have grows (rest : List Span) (start : Nat) :
            start ≤ rest.foldl (fun top span => max top span.stop) start := by
          induction rest generalizing start with
          | nil => exact Nat.le_refl start
          | cons next others ih =>
              exact Nat.le_trans (Nat.le_max_left _ _) (ih _)
        rw [same]
        exact Nat.le_trans (Nat.le_max_right _ _) (grows tail _)
      · exact ih later _

theorem unlimited_keepsApart : unlimited.KeepsApart := by
  intro live wanted size start placed
  unfold unlimited at placed
  dsimp only at placed
  have above : live.foldl (fun top span => max top span.stop) mappingBase ≤
      roundUp (live.foldl (fun top span => max top span.stop) mappingBase) pageSize :=
    le_roundUp _ _
  generalize roundUp (live.foldl (fun top span => max top span.stop) mappingBase) pageSize =
    top at above placed
  have highest (placed : (if top + size < addressLimit then some top else none) = some start) :
      (Span.mk start size).isFree live = true := by
    split at placed
    · cases placed
      rw [Span.isFree_iff]
      intro other member
      exact Or.inr (Nat.le_trans (stop_le_foldl member mappingBase) above)
    · cases placed
  cases wanted with
  | none => exact highest placed
  | some asked =>
      dsimp only at placed
      split at placed
      · rename_i free
        cases placed
        exact free
      · exact highest placed

/-- What the system maps where it is free to choose ends inside the address space. -/
def EndsInside (placement : Placement) : Prop :=
  ∀ live size start, placement.place live none size = some start → start + size < addressLimit

theorem unlimited_endsInside : unlimited.EndsInside := by
  intro live size start placed
  unfold unlimited at placed
  dsimp only at placed
  split at placed
  · rename_i fits
    cases placed
    exact fits
  · cases placed

theorem standard_endsInside : standard.EndsInside := by
  intro live size start placed
  unfold standard at placed
  dsimp only at placed
  split at placed
  · cases placed
  · exact unlimited_endsInside live size start placed

/-- The system maps a range, also of a file from its start on, where it is asked to whenever nothing
is mapped there. -/
structure GrantsFree (placement : Placement) (span : Span) : Prop where
  place : ∀ live, span.isFree live = true →
    placement.place live (some span.start) span.size = some span.start
  file : placement.fileFault? 0 span.size = none

theorem unlimited_grantsFree (span : Span) : unlimited.GrantsFree span := by
  refine ⟨?_, rfl⟩
  intro live free
  exact if_pos free

/-- Below the size of the memory, and where a program may map. -/
theorem standard_grantsFree {span : Span} (small : span.size < memorySize)
    (above : lowestAddress ≤ span.start) (below : span.stop ≤ highestAddress) :
    standard.GrantsFree span := by
  constructor
  · intro live free
    have isOpen : (decide (lowestAddress ≤ span.start) &&
        decide (span.start + span.size ≤ highestAddress)) = true := by
      rw [decide_eq_true above, Bool.true_and]
      exact decide_eq_true below
    unfold standard
    dsimp only
    rw [if_neg (Nat.not_le.mpr small), Option.filter_some, if_pos isOpen]
    exact (unlimited_grantsFree span).place live free
  · have within : 0 + span.size < positionLimit := by
      unfold memorySize at small
      unfold positionLimit
      omega
    exact if_neg (Nat.not_le.mpr within)

end Placement

/-! ### Leases -/

namespace Memory

variable {memory after : Memory} {placement : Placement} {table : SlotTable} {lease : Lease}

/-- A lease was granted: a mapping of the slot size at an address that the system named, in a slot
only if that slot was free, begins there and was asked for. -/
structure Grants (memory : Memory) (placement : Placement) (table : SlotTable) (lease : Lease)
    (after : Memory) : Prop where
  owner : lease.table = table
  content : lease.content.size = table.layout.slotSize
  placed : ∃ wanted, placement.place memory.live wanted table.layout.slotSize = some lease.address
  fixed : ∀ index, lease.slot = some index → index < table.layout.count ∧
    lease.address = table.layout.slotAddress index ∧ memory.isTaken table index = false ∧
    placement.place memory.live (some lease.address) table.layout.slotSize = some lease.address
  held : after = memory.hold table lease.address lease.slot

theorem allocate_grants (allocated : memory.allocate placement table = .ok (lease, after)) :
    memory.Grants placement table lease after := by
  unfold allocate at allocated
  cases first : firstPassing (memory.grants placement table) 0 table.layout.count with
  | some index =>
      rw [first] at allocated
      cases allocated
      obtain ⟨_, inside, granted, _⟩ := firstPassing_eq_some_iff.mp first
      simp only [grants, Bool.and_eq_true, Bool.not_eq_true', beq_iff_eq] at granted
      refine ⟨rfl, ?_, ⟨_, granted.2⟩, ?_, rfl⟩
      · simp [Content.size, Content.zeros, Run.size]
      · intro _ same
        cases same
        exact ⟨by omega, rfl, granted⟩
  | none =>
      rw [first] at allocated
      cases placed : placement.place memory.live none table.layout.slotSize with
      | some address =>
          rw [placed] at allocated
          cases allocated
          refine ⟨rfl, ?_, ⟨_, placed⟩, ?_, rfl⟩
          · simp [Content.size, Content.zeros, Run.size]
          · intro index occupied
            cases occupied
      | none =>
          rw [placed] at allocated
          cases allocated

/-- No address of a fresh lease wraps around. -/
theorem allocate_end_lt (endsInside : placement.EndsInside)
    (allocated : memory.allocate placement table = .ok (lease, after)) :
    lease.address + lease.size < addressLimit := by
  have granted := allocate_grants allocated
  unfold Lease.size Lease.layout
  rw [granted.owner]
  cases slot : lease.slot with
  | some index =>
      obtain ⟨inside, address, _⟩ := granted.fixed index slot
      rw [address]
      exact table.layout.slotEnd_lt inside
  | none =>
      unfold allocate at allocated
      split at allocated
      · cases allocated
        cases slot
      · split at allocated
        · rename_i placed
          cases allocated
          exact endsInside _ _ _ placed
        · cases allocated

/-- Unmapping what was leased last undoes the lease. -/
theorem release_hold (memory : Memory) (lease : Lease) :
    (memory.hold lease.table lease.address lease.slot).release lease = memory := by
  obtain ⟨nextTable, taken, live⟩ := memory
  unfold release hold
  cases slot : lease.slot with
  | none => simp [Lease.span, Lease.size, Lease.layout]
  | some index => simp [Lease.span, Lease.size, Lease.layout]

/-- The only change of memory is that the lease is held: its mapping is live, and the slot that it
is in, if it is in one, was free and is taken. Unmapping what is leased undoes this. -/
structure Gains (before : Memory) (lease : Lease) (after : Memory) : Prop where
  tables : after.nextTable = before.nextTable
  live : after.live = lease.span :: before.live
  vacant : ∀ index, lease.slot = some index → before.isTaken lease.table index = false
  marks : ∀ table index, after.isTaken table index = true ↔
    before.isTaken table index = true ∨
      table.id = lease.table.id ∧ lease.slot = some index
  undone : after.release lease = before

theorem isTaken_hold (memory : Memory) (lease : Lease) (table : SlotTable) (index : Nat) :
    (memory.hold lease.table lease.address lease.slot).isTaken table index = true ↔
      memory.isTaken table index = true ∨
        table.id = lease.table.id ∧ lease.slot = some index := by
  unfold isTaken hold
  cases slot : lease.slot with
  | none => simp
  | some other =>
      rw [List.contains_iff_mem, List.contains_iff_mem, List.mem_cons, Prod.mk.injEq,
        Option.some.injEq, or_comm, eq_comm (a := index)]

theorem Grants.gains (granted : memory.Grants placement table lease after) :
    memory.Gains lease after := by
  obtain ⟨rfl, _, _, fixed, rfl⟩ := granted
  refine ⟨rfl, rfl, ?_, memory.isTaken_hold lease, memory.release_hold lease⟩
  intro index slot
  obtain ⟨_, _, free, _⟩ := fixed index slot
  exact free

/-! ### Dropping -/

/-- Of a lease that was taken and dropped nothing is left, or else the system did not unmap it. -/
inductive Recovers (placement : Placement) (table : SlotTable) (before : Memory) : Memory → Prop
  | whole : Recovers placement table before before
  | stranded {lease : Lease} {after : Memory} (owner : lease.table = table)
      (gains : before.Gains lease after)
      (refused : placement.unmaps after.live lease.span = false) :
      Recovers placement table before after

theorem Gains.drop (gains : memory.Gains lease after) (owner : lease.table = table)
    (placement : Placement) : memory.Recovers placement table (after.drop placement lease) := by
  unfold Memory.drop
  cases unmapped : placement.unmaps after.live lease.span with
  | true =>
      rw [if_pos rfl, gains.undone]
      exact .whole
  | false =>
      rw [if_neg Bool.false_ne_true]
      exact .stranded owner gains unmapped

/-! ### Leasing a file -/

theorem allocateFile_eq_ok_iff {address offset : Nat} {file : OpenFile} :
    memory.allocateFile placement table address file offset = .ok (lease, after) ↔
      offset % pageSize = 0 ∧ offset < Placement.positionLimit ∧
        ∃ index content, table.layout.slotIndex? address = some index ∧
          memory.isTaken table index = false ∧ file = .regular content ∧
          placement.fileFault? offset table.layout.slotSize = none ∧
          placement.place memory.live (some address) table.layout.slotSize = some address ∧
          lease = ⟨table, address, some index,
            (content.drop offset).resize table.layout.slotSize⟩ ∧
          after = memory.hold table address (some index) := by
  unfold allocateFile
  by_cases aligned : offset % pageSize = 0
  · rw [if_neg (not_not.mpr aligned)]
    cases found : table.layout.slotIndex? address with
    | none => simp
    | some index =>
        cases taken : memory.isTaken table index with
        | true => simp [taken]
        | false =>
            by_cases inside : offset < Placement.positionLimit
            · simp only [taken, Bool.false_eq_true, if_false, if_neg (Nat.not_le.mpr inside)]
              cases file with
              | directory => simp
              | regular content =>
                  dsimp only
                  cases fault : placement.fileFault? offset table.layout.slotSize with
                  | some refusal => simp
                  | none =>
                      dsimp only
                      cases placed : placement.place memory.live (some address)
                          table.layout.slotSize with
                      | none => simp
                      | some actual =>
                          by_cases there : actual = address
                          · subst there
                            simp only [if_true]
                            constructor
                            · intro same
                              cases same
                              exact ⟨aligned, inside, index, content, rfl, taken, rfl, trivial,
                                trivial, rfl, rfl⟩
                            · rintro ⟨_, _, _, _, ⟨⟩, _, ⟨⟩, _, _, rfl, rfl⟩
                              rfl
                          · simp [there]
            · simp [taken, inside, Nat.not_lt.mp inside]
  · rw [if_pos aligned]
    simp [aligned]

theorem allocateFile_grants {address offset : Nat} {file : OpenFile}
    (allocated : memory.allocateFile placement table address file offset = .ok (lease, after)) :
    memory.Grants placement table lease after := by
  obtain ⟨_, _, index, content, found, free, _, _, placed, rfl, rfl⟩ :=
    allocateFile_eq_ok_iff.mp allocated
  obtain ⟨inside, same⟩ := table.layout.slotIndex?_eq_some_iff.mp found
  refine ⟨rfl, ?_, ⟨_, placed⟩, ?_, rfl⟩
  · simp [Content.size_eq]
  · intro _ same
    cases same
    exact ⟨inside, same, free, placed⟩

/-- A lease of a file's image has the image's bytes, if they fill the slot. -/
theorem bytes_of_allocateFile {address : Nat} {image : Content}
    (allocated :
      memory.allocateFile placement table address (.regular image) 0 = .ok (lease, after))
    (fills : image.size = table.layout.slotSize) :
    lease.address = address ∧ lease.size = table.layout.slotSize ∧ lease.bytes = image.bytes := by
  obtain ⟨_, _, index, content, _, _, same, _, _, rfl, _⟩ :=
    allocateFile_eq_ok_iff.mp allocated
  cases same
  refine ⟨rfl, rfl, ?_⟩
  change (image.drop 0 |>.resize table.layout.slotSize).bytes = image.bytes
  rw [Content.bytes_mapped (Nat.le_of_eq fills.symm), ← fills, Content.size_eq, List.take_length]

end Memory

end KernelStore
