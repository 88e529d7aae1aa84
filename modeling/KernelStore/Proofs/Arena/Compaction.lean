import KernelStore.Proofs.Arena.Invariant
import KernelStore.Proofs.Bytes.Editing

/-!
Removing a function body closes up the code: the bytes beyond the body are moved down over it, the
room this makes is zeroed, and the bodies that stay are entered where their bytes have gone. Main
statement: after any calls, a removal that succeeds keeps the code of every other body, and changes
no byte but those from the removed body up to the code cursor.
-/

namespace KernelStore.Arena

/-- The byte at an address of the mapping. -/
def byteAt? (arena : Arena) (address : Nat) : Option UInt8 :=
  if arena.base ≤ address then arena.lease.bytes[address - arena.base]? else none

/-- The bytes between the bounds of a body. -/
def codeOf (arena : Arena) (body : Body) : Bytes :=
  arena.lease.bytes.part (body.start - arena.base) body.size

/-- How an arena differs from what it was before a body was removed. -/
structure Compacts (before : Arena) (removed : Body) (after : Arena) : Prop where
  range : before.base ≤ removed.start ∧ removed.start ≤ removed.stop ∧
    removed.stop ≤ before.base + before.codeCursor
  names : after.bodies.map Body.name = (before.bodies.map Body.name).erase removed.name
  bodies : ∃ front rest, before.bodies = front ++ removed :: rest ∧
    after.bodies = front ++ rest.map (Body.lower removed.size) ∧
    (∀ body ∈ front, body.stop ≤ removed.start ∧ after.codeOf body = before.codeOf body) ∧
    ∀ body ∈ rest, removed.stop ≤ body.start ∧
      (body.lower removed.size).start + removed.size = body.start ∧
      (body.lower removed.size).stop + removed.size = body.stop ∧
      after.codeOf (body.lower removed.size) = before.codeOf body
  below : ∀ address < removed.start, after.byteAt? address = before.byteAt? address
  moved : ∀ address, removed.stop ≤ address → address < before.base + before.codeCursor →
    after.byteAt? (address - removed.size) = before.byteAt? address
  vacated : ∀ address, before.base + before.codeCursor ≤ address + removed.size →
    address < before.base + before.codeCursor → after.byteAt? address = some 0
  beyond : ∀ address, before.base + before.codeCursor ≤ address →
    after.byteAt? address = before.byteAt? address
  /-- The move and the zeroing by which the bytes have come where they are. -/
  bytes : after.lease.bytes =
    (before.lease.bytes.move (removed.stop - before.base) (removed.start - before.base)
      (before.base + before.codeCursor - removed.stop)).clear
        (before.codeCursor - removed.size) removed.size
  codeCursor : after.codeCursor + removed.size = before.codeCursor
  stubCursor : after.stubCursor = before.stubCursor
  dataCursor : after.dataCursor = before.dataCursor
  got : after.got = before.got
  openBody : after.openBody = before.openBody
  writable : after.writable = before.writable
  occupies : after.Occupies before.lease

variable {arena after : Arena} {name : String} {removed : Body}

/-! ### Bytes -/

theorem WellFormed.codeCursor_le (wellFormed : arena.WellFormed) (whole : arena.Whole) :
    arena.codeCursor ≤ arena.lease.bytes.length := by
  have code := wellFormed.code
  have stubs := wellFormed.stubs
  have data := wellFormed.data
  have inside := wellFormed.inside
  unfold Whole at whole
  rw [Content.size_eq] at whole
  change arena.lease.bytes.length = arena.lease.size at whole
  omega

/-- Two bodies have the same code if they have the same bytes one by one. -/
theorem codeOf_eq {before : Arena} {first second : Body} (firstAbove : before.base ≤ first.start)
    (secondAbove : after.base ≤ second.start) (size : second.size = first.size)
    (each : ∀ index < first.size,
      after.byteAt? (second.start + index) = before.byteAt? (first.start + index)) :
    after.codeOf second = before.codeOf first := by
  apply List.ext_getElem?
  intro index
  rw [codeOf, codeOf, Bytes.getElem?_part, Bytes.getElem?_part, size]
  by_cases inside : index < first.size
  · have here := each index inside
    rw [byteAt?, if_pos (by omega), byteAt?, if_pos (by omega)] at here
    rw [if_pos inside, if_pos inside, ← Nat.sub_add_comm secondAbove,
      ← Nat.sub_add_comm firstAbove]
    exact here
  · rw [if_neg inside, if_neg inside]

section

variable (range : arena.base ≤ removed.start ∧ removed.start ≤ removed.stop ∧
    removed.stop ≤ arena.base + arena.codeCursor)
  (enough : arena.codeCursor ≤ arena.lease.bytes.length)

include range enough

theorem bytes_closeUp :
    (arena.closeUp removed).bytes =
      (arena.lease.bytes.move (removed.stop - arena.base) (removed.start - arena.base)
        (arena.base + arena.codeCursor - removed.stop)).clear
          (arena.codeCursor - removed.size) removed.size := by
  have size : removed.size = removed.stop - arena.base - (removed.start - arena.base) := by
    unfold Body.size
    omega
  have tail : arena.base + arena.codeCursor - removed.stop =
      arena.codeCursor - (removed.stop - arena.base) := by omega
  rw [size, tail, ← Bytes.closed_eq_move_clear (by omega) (by omega) enough, ← size]
  simp only [closeUp, Content.bytes_append, Content.bytes_take, Content.bytes_part,
    Content.bytes_zeros, Content.bytes_drop, Lease.bytes]

/-- What closing up leaves at an address: below the body what was there, beyond it what was so much
further up, then zeros, and from the old cursor on again what was there. -/
theorem byteAt?_closeUp (base : after.base = arena.base)
    (bytes : after.lease.bytes = (arena.closeUp removed).bytes) (address : Nat) :
    after.byteAt? address =
      if address < removed.start then arena.byteAt? address
      else if address + removed.size < arena.base + arena.codeCursor then
        arena.byteAt? (address + removed.size)
      else if address < arena.base + arena.codeCursor then some 0
      else arena.byteAt? address := by
  have size : removed.size = removed.stop - arena.base - (removed.start - arena.base) := by
    unfold Body.size
    omega
  have tail : arena.base + arena.codeCursor - removed.stop =
      arena.codeCursor - (removed.stop - arena.base) := by omega
  rw [byteAt?, base, bytes]
  by_cases inside : arena.base ≤ address
  · rw [if_pos inside, bytes_closeUp range enough, tail, size,
      Bytes.getElem?_move_clear (by omega) (by omega) enough, ← size, ← Nat.sub_add_comm inside]
    have first : address - arena.base < removed.start - arena.base ↔ address < removed.start := by
      omega
    have second : address + removed.size - arena.base < arena.codeCursor ↔
        address + removed.size < arena.base + arena.codeCursor := by omega
    have third : address - arena.base < arena.codeCursor ↔
        address < arena.base + arena.codeCursor := by omega
    have later : arena.base ≤ address + removed.size := by omega
    simp only [first, second, third, byteAt?, if_pos inside, if_pos later]
  · rw [if_neg inside, if_pos (by omega), byteAt?, if_neg inside]

end

/-! ### Removal -/

theorem WellFormed.compacts (wellFormed : arena.WellFormed) (whole : arena.Whole)
    (removal : arena.removeBody name = .ok after) :
    ∃ removed, arena.findBody? name = some removed ∧ arena.Compacts removed after := by
  obtain ⟨_, _, removed, found, same⟩ := removeBody_eq_ok_iff.mp removal
  obtain ⟨_, front, rest, split⟩ := findBody?_split found
  have placed := wellFormed.placed
  have ordered := wellFormed.ordered
  have names := wellFormed.names
  have range := placed removed (List.mem_of_find?_eq_some found)
  have enough := wellFormed.codeCursor_le whole
  have size : removed.size = removed.stop - removed.start := rfl
  have base : after.base = arena.base := by
    rw [same]
    rfl
  have bytes : after.lease.bytes = (arena.closeUp removed).bytes := by
    rw [same]
    rfl
  have byteAt := byteAt?_closeUp range enough base bytes
  have bodies : after.bodies = front ++ rest.map (Body.lower removed.size) := by
    rw [same]
    exact wellFormed.shifted split
  rw [split] at placed ordered names
  obtain ⟨_, laterOrdered, before⟩ := List.pairwise_append.mp ordered
  obtain ⟨beyond, _⟩ := List.pairwise_cons.mp laterOrdered
  refine ⟨removed, found, {
    range := range
    names := ?_
    bodies := ⟨front, rest, split, bodies, ?_, ?_⟩
    below := ?_
    moved := ?_
    vacated := ?_
    beyond := ?_
    bytes := ?_
    codeCursor := ?_
    stubCursor := by rw [same]
    dataCursor := by rw [same]
    got := by rw [same]
    openBody := by rw [same]
    writable := by rw [same]
    occupies := by rw [same]; exact ⟨rfl, rfl, rfl⟩ }⟩
  · -- No other body has the removed one's name.
    rw [List.map_append, List.map_cons, List.nodup_append] at names
    have absent : removed.name ∉ front.map Body.name := by
      intro twice
      exact names.2.2 removed.name twice removed.name List.mem_cons_self rfl
    rw [bodies, split, List.map_append, List.map_append, List.map_cons,
      List.erase_append_right _ absent, List.erase_cons_head, List.map_map]
    rfl
  · intro body member
    have earlier := before body member removed List.mem_cons_self
    have extent := placed body (List.mem_append_left _ member)
    refine ⟨earlier, ?_⟩
    apply codeOf_eq extent.1 (base ▸ extent.1) rfl
    intro index inside
    unfold Body.size at inside
    rw [byteAt, if_pos (by omega)]
  · intro body member
    have later := beyond body member
    have extent := placed body (List.mem_append_right _ (List.mem_cons_of_mem _ member))
    have start : (body.lower removed.size).start = body.start - removed.size := rfl
    have stop : (body.lower removed.size).stop = body.stop - removed.size := rfl
    refine ⟨later, by omega, by omega, ?_⟩
    apply codeOf_eq extent.1 (by omega)
    · change body.stop - removed.size - (body.start - removed.size) = body.stop - body.start
      omega
    · intro index inside
      unfold Body.size at inside
      have back : body.start - removed.size + index + removed.size = body.start + index := by
        omega
      rw [byteAt, start, if_neg (by omega), if_pos (by omega), back]
  · intro address lower
    rw [byteAt, if_pos lower]
  · intro address upper inside
    rw [byteAt, if_neg (by omega), if_pos (by omega), Nat.sub_add_cancel (by omega)]
  · intro address upper inside
    rw [byteAt, if_neg (by omega), if_neg (by omega), if_pos inside]
  · intro address upper
    rw [byteAt, if_neg (by omega), if_neg (by omega), if_neg (by omega)]
  · rw [bytes, bytes_closeUp range enough]
  · rw [same]
    change arena.codeCursor - removed.size + removed.size = arena.codeCursor
    omega

/-- After any calls on the arena in a mapping, removing a body closes up the code as described. -/
theorem removal_compacts {lease : Lease} (whole : lease.content.size = lease.size)
    (calls : List ArenaCall) {name : String} {after : Arena}
    (removal : ((ofLease lease).performAll calls).perform (.removeBody name) =
      (.ok .done, after)) :
    ∃ removed, ((ofLease lease).performAll calls).findBody? name = some removed ∧
      ((ofLease lease).performAll calls).Compacts removed after := by
  have initial := wellFormed_ofLease lease
  apply (initial.performAll calls).compacts (initial.whole_performAll whole calls)
  obtain ⟨value, done, _⟩ := settle_eq_ok_iff.mp removal
  exact (map_unit_eq_ok_iff value).mp done

/-- A mapping of two pages, the first of them for code. -/
def twoPages : Lease :=
  ⟨⟨0, ⟨0x400000, 1, 4096, 4096, 8, by decide⟩⟩, 0x400000, some 0, .zeros 8192⟩

/-- Three bodies and an empty one behind a block that is aligned, and a byte beyond them. -/
def stacking : List ArenaCall :=
  [.beginBody "a", .write 0x400000 [1, 2], .endBody "a" 2, .takeCode 1 4,
    .beginBody "b", .write 0x400005 [3, 4], .endBody "b" 2, .beginBody "none", .endBody "none" 0,
    .beginBody "c", .write 0x400007 [5, 6, 7, 8, 9], .endBody "c" 5, .takeGot,
    .write 0x40000c [10]]

/-- The last body is moved onto a part of itself. -/
theorem removal_compacts_overlapping :
    ∃ before after, (ofLease twoPages).performAll stacking = before ∧
      before.perform (.removeBody "b") = (.ok .done, after) ∧
      before.Compacts ⟨"b", 0x400005, 0x400007⟩ after ∧
      after.bodies = [⟨"a", 0x400000, 0x400002⟩, ⟨"none", 0x400005, 0x400005⟩,
        ⟨"c", 0x400005, 0x40000a⟩] ∧
      after.codeOf ⟨"c", 0x400005, 0x40000a⟩ = [5, 6, 7, 8, 9] ∧
      after.byteAt? 0x40000b = some 0 ∧ after.byteAt? 0x40000c = some 10 := by
  have reply : (((ofLease twoPages).performAll stacking).perform (.removeBody "b")).1 =
      .ok .done := by decide +kernel
  have removal : ((ofLease twoPages).performAll stacking).perform (.removeBody "b") =
      (.ok .done, (((ofLease twoPages).performAll stacking).perform (.removeBody "b")).2) :=
    Prod.ext reply rfl
  have named : ((ofLease twoPages).performAll stacking).findBody? "b" =
      some ⟨"b", 0x400005, 0x400007⟩ := by decide +kernel
  obtain ⟨removed, found, compacts⟩ := removal_compacts rfl stacking removal
  rw [named] at found
  cases found
  refine ⟨_, _, rfl, removal, compacts, by decide +kernel, by decide +kernel, ?_, ?_⟩
  · exact compacts.vacated 0x40000b (by decide +kernel) (by decide +kernel)
  · rw [compacts.beyond 0x40000c (by decide +kernel)]
    decide +kernel

end KernelStore.Arena
