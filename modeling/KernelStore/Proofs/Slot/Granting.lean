import KernelStore.Proofs.Slot.Leasing
import KernelStore.Slot.Steps

/-!
Which slot is granted. Main statement: whatever is mapped and marked, fresh memory is leased in the
first slot that is neither marked nor mapped over, and a file in the slot that begins at an address
just if that slot is neither. Nothing that was mapped on the way stays mapped.
-/

namespace KernelStore

/-! ### The operating system -/

namespace Placement

/-- So many bytes are mapped where they are wanted if nothing is mapped there, and otherwise at
some place where nothing is; of a file as well, from every position that there is. -/
structure Obliges (placement : Placement) (live : List Span) (size : Nat) : Prop where
  wanted : ∀ start, start + size < addressLimit → (Span.mk start size).isFree live = true →
    placement.place live (some start) size = some start
  apart : ∀ wanted, ∃ start, placement.place live wanted size = some start ∧
    (Span.mk start size).isFree live = true
  file : ∀ offset < positionLimit, placement.fileFault? offset size = none

variable {placement : Placement} {live : List Span} {size : Nat}

theorem Obliges.place_eq_iff (obliging : placement.Obliges live size) {start : Nat}
    (bounded : start + size < addressLimit) :
    placement.place live (some start) size = some start ↔
      (Span.mk start size).isFree live = true := by
  constructor
  · intro placed
    obtain ⟨actual, elsewhere, free⟩ := obliging.apart (some start)
    rw [placed] at elsewhere
    cases elsewhere
    exact free
  · exact obliging.wanted start bounded

/-- As long as there is room above everything that is mapped. -/
theorem unlimited_obliges
    (room : roundUp (live.foldl (fun top span => max top span.stop) mappingBase) pageSize + size <
      addressLimit) : unlimited.Obliges live size := by
  refine { wanted := fun start _ free => if_pos free, apart := ?_, file := fun _ _ => rfl }
  intro wanted
  have placed : ∃ start, unlimited.place live wanted size = some start := by
    unfold unlimited
    dsimp only
    cases wanted with
    | none => exact ⟨_, if_pos room⟩
    | some asked =>
        by_cases free : (Span.mk asked size).isFree live = true
        · exact ⟨_, if_pos free⟩
        · refine ⟨_, (if_neg free).trans (if_pos room)⟩
  obtain ⟨start, same⟩ := placed
  exact ⟨start, same, unlimited_keepsApart live wanted size start same⟩

end Placement

namespace Memory

variable {memory after : Memory} {placement : Placement} {table : SlotTable}

/-! ### What the steps come to -/

/-- A call that fails leaves memory as it was. -/
def settle (memory : Memory) :
    Except LeaseFault (Lease × Memory) → Except LeaseFault Lease × Memory
  | .ok (lease, after) => (.ok lease, after)
  | .error fault => (.error fault, memory)

theorem map?_eq_some_iff {wanted : Option Nat} {size start : Nat} :
    memory.map? placement wanted size = some (start, after) ↔
      placement.place memory.live wanted size = some start ∧
        after = { memory with live := ⟨start, size⟩ :: memory.live } := by
  unfold map?
  rw [Option.map_eq_some_iff]
  constructor
  · intro mapped
    obtain ⟨actual, placed, same⟩ := mapped
    cases same
    exact ⟨placed, rfl⟩
  · intro mapped
    obtain ⟨placed, rfl⟩ := mapped
    exact ⟨start, placed, rfl⟩

/-- What has just been mapped can be unmapped without a trace. -/
theorem unmap_of_map? {wanted : Option Nat} {size start : Nat}
    (mapped : memory.map? placement wanted size = some (start, after)) :
    after.unmap ⟨start, size⟩ = memory := by
  obtain ⟨_, rfl⟩ := map?_eq_some_iff.mp mapped
  unfold unmap
  rw [List.erase_cons_head]

theorem mark_of_map? {wanted : Option Nat} {start : Nat} (index : Nat)
    (mapped : memory.map? placement wanted table.layout.slotSize = some (start, after)) :
    after.mark table index = memory.hold table start (some index) := by
  obtain ⟨_, rfl⟩ := map?_eq_some_iff.mp mapped
  rfl

/-- The scan finds the first slot that the system grants. All that it maps before is unmapped. -/
theorem scan_eq (index count : Nat) :
    scan placement table memory index count =
      match firstPassing (memory.grants placement table) index count with
      | some found =>
          let address := table.layout.slotAddress found
          (some ⟨table, address, some found, .zeros table.layout.slotSize⟩,
            memory.hold table address (some found))
      | none => (none, memory) := by
  induction count generalizing index with
  | zero => rfl
  | succ count ih =>
      unfold scan firstPassing
      dsimp only
      cases taken : memory.isTaken table index with
      | true =>
          have refused : memory.grants placement table index = false := by simp [grants, taken]
          rw [if_pos rfl, refused, ih]
          rfl
      | false =>
          rw [if_neg Bool.false_ne_true]
          cases mapped : memory.map? placement (some (table.layout.slotAddress index))
              table.layout.slotSize with
          | none =>
              have refused : memory.grants placement table index = false := by
                rw [map?, Option.map_eq_none_iff] at mapped
                simp [grants, mapped]
              rw [refused, ih]
              rfl
          | some result =>
              obtain ⟨actual, after⟩ := result
              obtain ⟨placed, _⟩ := map?_eq_some_iff.mp mapped
              dsimp only
              by_cases there : actual = table.layout.slotAddress index
              · have granted : memory.grants placement table index = true := by
                  simp [grants, taken, placed, there]
                rw [if_pos there, mark_of_map? index mapped, granted, there]
                rfl
              · have refused : memory.grants placement table index = false := by
                  simp [grants, placed, there]
                rw [if_neg there, unmap_of_map? mapped, refused, ih]
                rfl

theorem lease_eq (memory : Memory) (placement : Placement) (table : SlotTable) :
    memory.lease placement table = memory.settle (memory.allocate placement table) := by
  unfold lease allocate
  dsimp only
  rw [scan_eq]
  cases firstPassing (memory.grants placement table) 0 table.layout.count with
  | some found => rfl
  | none =>
      dsimp only
      unfold map?
      cases placement.place memory.live none table.layout.slotSize with
      | none => rfl
      | some start => rfl

theorem leaseFile_eq (memory : Memory) (placement : Placement) (table : SlotTable)
    (address : Nat) (file : OpenFile) (offset : Nat) :
    memory.leaseFile placement table address file offset =
      memory.settle (memory.allocateFile placement table address file offset) := by
  unfold leaseFile allocateFile
  dsimp only
  split
  · rfl
  cases table.layout.slotIndex? address with
  | none => rfl
  | some index =>
      dsimp only
      split
      · rfl
      unfold mapFile
      by_cases beyond : Placement.positionLimit ≤ offset
      · rw [if_pos beyond, if_pos beyond]
        rfl
      rw [if_neg beyond, if_neg beyond]
      cases file with
      | directory => rfl
      | regular content =>
          dsimp only
          cases placement.fileFault? offset table.layout.slotSize with
          | some fault => rfl
          | none =>
              dsimp only
              cases mapped : memory.map? placement (some address) table.layout.slotSize with
              | none =>
                  rw [map?, Option.map_eq_none_iff] at mapped
                  rw [mapped]
                  rfl
              | some result =>
                  obtain ⟨actual, after⟩ := result
                  obtain ⟨placed, _⟩ := map?_eq_some_iff.mp mapped
                  rw [placed]
                  dsimp only
                  by_cases there : actual = address
                  · rw [if_pos there, if_pos there, mark_of_map? index mapped, there]
                    rfl
                  · rw [if_neg there, if_neg there, unmap_of_map? mapped]
                    rfl

/-! ### Open slots -/

/-- The range of a slot. -/
def slotSpan (table : SlotTable) (index : Nat) : Span :=
  ⟨table.layout.slotAddress index, table.layout.slotSize⟩

/-- The slots that are not marked and over which nothing is mapped. -/
def openSlots (memory : Memory) (table : SlotTable) : Set Nat :=
  {index | index < table.layout.count ∧ memory.isTaken table index = false ∧
    ∀ mapping ∈ memory.live, (slotSpan table index).Apart mapping}

theorem grants_iff (obliging : placement.Obliges memory.live table.layout.slotSize) {index : Nat}
    (inside : index < table.layout.count) :
    memory.grants placement table index = true ↔
      memory.isTaken table index = false ∧
        ∀ mapping ∈ memory.live, (slotSpan table index).Apart mapping := by
  unfold grants
  dsimp only
  rw [Bool.and_eq_true, Bool.not_eq_true', beq_iff_eq,
    obliging.place_eq_iff (table.layout.slotEnd_lt inside), Span.isFree_iff]
  rfl

theorem firstPassing_grants_eq_some_iff
    (obliging : placement.Obliges memory.live table.layout.slotSize) {index : Nat} :
    firstPassing (memory.grants placement table) 0 table.layout.count = some index ↔
      IsLeast (memory.openSlots table) index := by
  have isOpen (other : Nat) : other ∈ memory.openSlots table ↔
      other < table.layout.count ∧ memory.grants placement table other = true :=
    and_congr_right fun inside => (grants_iff obliging inside).symm
  rw [firstPassing_eq_some_iff]
  constructor
  · intro first
    obtain ⟨_, inside, granted, earlier⟩ := first
    refine ⟨(isOpen index).mpr ⟨by omega, granted⟩, ?_⟩
    intro other member
    by_contra before
    have refused := earlier other (Nat.zero_le other) (Nat.lt_of_not_le before)
    rw [((isOpen other).mp member).2] at refused
    cases refused
  · intro least
    obtain ⟨member, below⟩ := least
    obtain ⟨inside, granted⟩ := (isOpen index).mp member
    refine ⟨Nat.zero_le index, by omega, granted, ?_⟩
    intro other _ before
    by_contra passing
    have order := below ((isOpen other).mpr ⟨by omega, Bool.eq_true_of_not_eq_false passing⟩)
    omega

theorem firstPassing_grants_eq_none_iff
    (obliging : placement.Obliges memory.live table.layout.slotSize) :
    firstPassing (memory.grants placement table) 0 table.layout.count = none ↔
      memory.openSlots table = ∅ := by
  constructor
  · intro none_
    by_contra some_
    obtain ⟨index, member⟩ := Set.nonempty_iff_ne_empty.mpr some_
    have least : IsLeast (memory.openSlots table) (sInf (memory.openSlots table)) :=
      ⟨Nat.sInf_mem ⟨index, member⟩, fun other => Nat.sInf_le⟩
    rw [(firstPassing_grants_eq_some_iff obliging).mpr least] at none_
    cases none_
  · intro empty
    cases first : firstPassing (memory.grants placement table) 0 table.layout.count with
    | none => rfl
    | some index =>
        obtain ⟨member, _⟩ := (firstPassing_grants_eq_some_iff obliging).mp first
        rw [empty] at member
        cases member

/-! ### Fresh memory -/

/-- What a lease of fresh memory is, and what it leaves. -/
structure LeasesFresh (memory : Memory) (table : SlotTable) (lease : Lease) (after : Memory) :
    Prop where
  owner : lease.table = table
  first : ∀ index, lease.slot = some index ↔ IsLeast (memory.openSlots table) index
  elsewhere : lease.isFixed = false ↔ memory.openSlots table = ∅
  address : ∀ index, lease.slot = some index → lease.address = table.layout.slotAddress index
  apart : ∀ mapping ∈ memory.live, lease.span.Apart mapping
  /-- Nothing is mapped but the lease, and nothing is marked but its slot. -/
  gains : memory.Gains lease after

theorem slot_of_allocate {lease : Lease}
    (allocated : memory.allocate placement table = .ok (lease, after)) :
    lease.slot = firstPassing (memory.grants placement table) 0 table.layout.count := by
  unfold allocate at allocated
  cases first : firstPassing (memory.grants placement table) 0 table.layout.count with
  | some found =>
      rw [first] at allocated
      cases allocated
      rfl
  | none =>
      rw [first] at allocated
      cases placed : placement.place memory.live none table.layout.slotSize with
      | none =>
          rw [placed] at allocated
          cases allocated
      | some start =>
          rw [placed] at allocated
          cases allocated
          rfl

theorem exists_allocate (obliging : placement.Obliges memory.live table.layout.slotSize) :
    ∃ lease after, memory.allocate placement table = .ok (lease, after) := by
  obtain ⟨start, placed, _⟩ := obliging.apart none
  unfold allocate
  dsimp only
  cases firstPassing (memory.grants placement table) 0 table.layout.count with
  | some found => exact ⟨_, _, rfl⟩
  | none =>
      rw [placed]
      exact ⟨_, _, rfl⟩

theorem leasesFresh_of_allocate {lease : Lease}
    (obliging : placement.Obliges memory.live table.layout.slotSize)
    (allocated : memory.allocate placement table = .ok (lease, after)) :
    memory.LeasesFresh table lease after := by
  have granted := allocate_grants allocated
  have slot := slot_of_allocate allocated
  obtain ⟨wanted, placed⟩ := granted.placed
  obtain ⟨start, same, free⟩ := obliging.apart wanted
  rw [placed] at same
  cases same
  refine { owner := granted.owner, first := ?_, elsewhere := ?_, address := ?_, apart := ?_,
           gains := granted.gains }
  · intro index
    rw [slot]
    exact firstPassing_grants_eq_some_iff obliging
  · rw [← firstPassing_grants_eq_none_iff obliging, ← slot]
    exact Option.isSome_eq_false_iff.trans Option.isNone_iff_eq_none
  · intro index occupied
    exact (granted.fixed index occupied).2.1
  · unfold Lease.span Lease.size Lease.layout
    rw [granted.owner]
    exact (Span.isFree_iff _ _).mp free

/-! ### Files -/

/-- How leasing the slot at an address for a file ends. Of several reasons against it, the first
is told. -/
inductive LeasesFile (memory : Memory) (table : SlotTable) (address : Nat) (content : Content)
    (offset : Nat) : Except LeaseFault Lease × Memory → Prop
  | misaligned (unaligned : offset % pageSize ≠ 0) :
      LeasesFile memory table address content offset (.error (.misalignedOffset offset), memory)
  | notSlot (aligned : offset % pageSize = 0)
      (noSlot : ∀ index < table.layout.count, address ≠ table.layout.slotAddress index) :
      LeasesFile memory table address content offset (.error (.notSlotAddress address), memory)
  | occupied {index : Nat} (aligned : offset % pageSize = 0) (inside : index < table.layout.count)
      (start : address = table.layout.slotAddress index)
      (taken : memory.isTaken table index = true) :
      LeasesFile memory table address content offset (.error (.occupied index), memory)
  | relocated {index actual : Nat} (aligned : offset % pageSize = 0)
      (inside : index < table.layout.count) (start : address = table.layout.slotAddress index)
      (vacant : memory.isTaken table index = false)
      (covered : ∃ mapping ∈ memory.live, ¬(slotSpan table index).Apart mapping)
      (moved : actual ≠ address) :
      LeasesFile memory table address content offset (.error (.relocated address actual), memory)
  | granted {index : Nat} {lease : Lease} {after : Memory} (aligned : offset % pageSize = 0)
      (member : index ∈ memory.openSlots table) (start : address = table.layout.slotAddress index)
      (leased : lease = ⟨table, address, some index,
        (content.drop offset).resize table.layout.slotSize⟩)
      (gains : memory.Gains lease after) :
      LeasesFile memory table address content offset (.ok lease, after)

section

variable {address offset : Nat} {content : Content}

theorem leasesFile_of_obliging (obliging : placement.Obliges memory.live table.layout.slotSize)
    (inRange : offset < Placement.positionLimit) :
    memory.LeasesFile table address content offset
      (memory.settle (memory.allocateFile placement table address (.regular content) offset)) := by
  cases outcome : memory.allocateFile placement table address (.regular content) offset with
  | ok leased =>
      obtain ⟨lease, after⟩ := leased
      have granted := allocateFile_grants outcome
      obtain ⟨aligned, _, index, image, found, vacant, same, _, placed, leased, _⟩ :=
        allocateFile_eq_ok_iff.mp outcome
      cases same
      obtain ⟨inside, start⟩ := table.layout.slotIndex?_eq_some_iff.mp found
      rw [start] at placed
      have free := (obliging.place_eq_iff (table.layout.slotEnd_lt inside)).mp placed
      exact .granted aligned ⟨inside, vacant, (Span.isFree_iff _ _).mp free⟩ start leased
        granted.gains
  | error fault =>
      unfold allocateFile at outcome
      by_cases aligned : offset % pageSize = 0
      · rw [if_neg (not_not.mpr aligned)] at outcome
        cases found : table.layout.slotIndex? address with
        | none =>
            rw [found] at outcome
            cases outcome
            apply LeasesFile.notSlot aligned
            intro index inside start
            rw [start, table.layout.slotIndex?_slotAddress inside] at found
            cases found
        | some index =>
            obtain ⟨inside, start⟩ := table.layout.slotIndex?_eq_some_iff.mp found
            rw [found] at outcome
            dsimp only at outcome
            cases taken : memory.isTaken table index with
            | true =>
                rw [taken, if_pos rfl] at outcome
                cases outcome
                exact .occupied aligned inside start taken
            | false =>
                obtain ⟨actual, placed, _⟩ := obliging.apart (some address)
                rw [taken, if_neg Bool.false_ne_true, if_neg (Nat.not_le.mpr inRange),
                  obliging.file offset inRange, placed] at outcome
                dsimp only at outcome
                by_cases there : actual = address
                · rw [if_pos there] at outcome
                  cases outcome
                · rw [if_neg there] at outcome
                  cases outcome
                  refine .relocated aligned inside start taken ?_ there
                  by_contra apart
                  push Not at apart
                  have free := (Span.isFree_iff _ _).mpr apart
                  rw [start, obliging.wanted _ (table.layout.slotEnd_lt inside) free] at placed
                  cases placed
                  exact there start.symm
      · rw [if_pos aligned] at outcome
        cases outcome
        exact .misaligned aligned

/-- A slot begins at one address only. -/
theorem LeasesFile.isOk_iff {ended : Except LeaseFault Lease × Memory}
    (leases : memory.LeasesFile table address content offset ended) :
    (∃ lease, ended.1 = .ok lease) ↔
      offset % pageSize = 0 ∧
        ∃ index ∈ memory.openSlots table, address = table.layout.slotAddress index := by
  cases leases with
  | misaligned unaligned => exact iff_of_false nofun fun conditions => unaligned conditions.1
  | notSlot aligned noSlot =>
      apply iff_of_false nofun
      intro conditions
      obtain ⟨_, index, member, start⟩ := conditions
      exact noSlot index member.1 start
  | occupied aligned inside start taken =>
      apply iff_of_false nofun
      intro conditions
      obtain ⟨_, index, ⟨_, vacant, _⟩, otherStart⟩ := conditions
      rw [table.layout.slotAddress_inj (otherStart.symm.trans start), taken] at vacant
      cases vacant
  | relocated aligned inside start vacant covered moved =>
      apply iff_of_false nofun
      intro conditions
      obtain ⟨_, index, ⟨_, _, apart⟩, otherStart⟩ := conditions
      obtain ⟨mapping, live, meets⟩ := covered
      rw [table.layout.slotAddress_inj (otherStart.symm.trans start)] at apart
      exact meets (apart mapping live)
  | granted aligned member start leased gains =>
      exact iff_of_true ⟨_, rfl⟩ ⟨aligned, _, member, start⟩

end

/-- In every state of the memory, with any mappings and any marks: fresh memory is leased in the
least open slot, and outside all slots just if none is open; a file is leased just if its offset is
aligned and its address begins an open slot. The steps leave nothing mapped and nothing marked but
the lease, and a failed call leaves what was. -/
theorem open_slots_are_granted (memory : Memory) (placement : Placement) (table : SlotTable)
    (obliging : placement.Obliges memory.live table.layout.slotSize) :
    (∃ lease after, memory.lease placement table = (.ok lease, after) ∧
      memory.allocate placement table = .ok (lease, after) ∧
      memory.LeasesFresh table lease after) ∧
    ∀ address content offset, offset < Placement.positionLimit →
      let ended := memory.leaseFile placement table address (.regular content) offset
      ended = memory.settle
          (memory.allocateFile placement table address (.regular content) offset) ∧
        ((∃ lease, ended.1 = .ok lease) ↔ offset % pageSize = 0 ∧
          ∃ index ∈ memory.openSlots table, address = table.layout.slotAddress index) ∧
        memory.LeasesFile table address content offset ended := by
  constructor
  · obtain ⟨lease, after, allocated⟩ := exists_allocate obliging
    refine ⟨lease, after, ?_, allocated, leasesFresh_of_allocate obliging allocated⟩
    rw [lease_eq, allocated]
    rfl
  · intro address content offset inRange ended
    have settled := leaseFile_eq memory placement table address (.regular content) offset
    have leases : memory.LeasesFile table address content offset ended := by
      change memory.LeasesFile table address content offset
        (memory.leaseFile placement table address (.regular content) offset)
      rw [settled]
      exact leasesFile_of_obliging obliging inRange
    exact ⟨settled, leases.isOk_iff, leases⟩

/-- Five slots, only the last of which is open: the second is marked, and what others have mapped
reaches into the first, the third and the fourth. -/
def crowdedTable : SlotTable := ⟨0, 0x100000, 5, 4096, 4096, 8, by decide⟩

def crowdedMemory : Memory where
  nextTable := 2
  taken := [(0, 1), (1, 0)]
  live := [⟨0xff000, 0x2000⟩, ⟨0x102000, 0x2000⟩, ⟨0x105000, 0x2000⟩]

theorem open_slots_are_granted_in_a_crowd :
    Placement.unlimited.Obliges crowdedMemory.live crowdedTable.layout.slotSize ∧
      (∃ lease after, crowdedMemory.lease .unlimited crowdedTable = (.ok lease, after) ∧
        lease.slot = some 4) ∧
      (∃ lease, (crowdedMemory.leaseFile .unlimited crowdedTable 0x108000
        (.regular (.ofBytes [1, 2, 3])) 4096).1 = .ok lease) ∧
      ¬∃ lease, (crowdedMemory.leaseFile .unlimited crowdedTable 0x104000
        (.regular (.ofBytes [1, 2, 3])) 4096).1 = .ok lease := by
  have obliging : Placement.unlimited.Obliges crowdedMemory.live crowdedTable.layout.slotSize :=
    Placement.unlimited_obliges (by decide)
  have isOpen (index : Nat) : index ∈ crowdedMemory.openSlots crowdedTable ↔
      index < 5 ∧ crowdedMemory.isTaken crowdedTable index = false ∧
        (slotSpan crowdedTable index).isFree crowdedMemory.live = true := by
    rw [Span.isFree_iff]
    rfl
  have closed : ∀ index < 4, ¬(crowdedMemory.isTaken crowdedTable index = false ∧
      (slotSpan crowdedTable index).isFree crowdedMemory.live = true) := by decide
  have last : 4 ∈ crowdedMemory.openSlots crowdedTable := (isOpen 4).mpr (by decide)
  have least : IsLeast (crowdedMemory.openSlots crowdedTable) 4 := by
    refine ⟨last, ?_⟩
    intro index member
    by_contra before
    exact closed index (Nat.lt_of_not_le before) ((isOpen index).mp member).2
  obtain ⟨⟨lease, after, leased, _, fresh⟩, files⟩ :=
    open_slots_are_granted crowdedMemory .unlimited crowdedTable obliging
  refine ⟨obliging, ⟨lease, after, leased, (fresh.first 4).mpr least⟩, ?_, ?_⟩
  · exact (files 0x108000 (.ofBytes [1, 2, 3]) 4096 (by decide)).2.1.mpr
      ⟨by decide, 4, last, by decide⟩
  · intro granted
    obtain ⟨_, index, member, start⟩ :=
      (files 0x104000 (.ofBytes [1, 2, 3]) 4096 (by decide)).2.1.mp granted
    have third : index = 2 := by
      change 0x104000 = 0x100000 + index * 8192 at start
      omega
    subst third
    exact closed 2 (by decide) ((isOpen 2).mp member).2

end Memory

end KernelStore
