import KernelStore.Proofs.Arena.Compaction

/-!
Code that can be executed is frozen, global data is not. Main statement: until the code part is
made writable, no call changes a byte of it, while every write to global data succeeds.
-/

namespace KernelStore.Arena

variable {arena after : Arena} {code : Bytes}

/-- The bytes of code and stubs. -/
def codeBytes (arena : Arena) : Bytes := arena.lease.bytes.take arena.codeSize

/-- Code and stubs can be executed, and are these bytes. -/
structure Frozen (code : Bytes) (arena : Arena) : Prop where
  executable : arena.writable = false
  code : arena.codeBytes = code

/-- How an arena differs from what it was before bytes were written to an address. -/
structure Writes (before : Arena) (address : Nat) (bytes : Bytes) (after : Arena) : Prop where
  within : ∀ index < bytes.length, after.byteAt? (address + index) = bytes[index]?
  outside : ∀ other, other < address ∨ address + bytes.length ≤ other →
    after.byteAt? other = before.byteAt? other
  rest : after = { before with lease := { before.lease with content := after.lease.content } }

/-! ### Writing -/

theorem bytes_of_write {address : Nat} {bytes : Bytes}
    (written : arena.write address bytes = .ok after) :
    after.lease.bytes = arena.lease.bytes.overwrite (address - arena.base) bytes := by
  obtain ⟨_, _, rfl⟩ := write_eq_ok_iff.mp written
  exact Content.bytes_overwrite _ _ _

theorem Whole.range_of_write (whole : arena.Whole) {address : Nat} {bytes : Bytes}
    (written : arena.write address bytes = .ok after) :
    arena.base ≤ address ∧ address - arena.base + bytes.length ≤ arena.lease.bytes.length := by
  obtain ⟨contains, _, _⟩ := write_eq_ok_iff.mp written
  simp only [Lease.contains, Bool.and_eq_true, decide_eq_true_eq] at contains
  unfold Whole at whole
  rw [Content.size_eq] at whole
  change arena.lease.bytes.length = arena.lease.size at whole
  change (arena.base ≤ address ∧ _) ∧ address + bytes.length ≤ arena.base + _ at contains
  omega

theorem Whole.writes (whole : arena.Whole) {address : Nat} {bytes : Bytes}
    (written : arena.write address bytes = .ok after) : arena.Writes address bytes after := by
  obtain ⟨above, inside⟩ := whole.range_of_write written
  have content := bytes_of_write written
  obtain ⟨_, _, same⟩ := write_eq_ok_iff.mp written
  have base : after.base = arena.base := by
    rw [same]
    rfl
  refine ⟨?_, ?_, ?_⟩
  · intro index small
    rw [byteAt?, base, if_pos (by omega), content, Bytes.getElem?_overwrite inside,
      if_pos (by omega)]
    congr 1
    omega
  · intro other apart
    unfold byteAt?
    rw [base]
    by_cases low : arena.base ≤ other
    · rw [if_pos low, if_pos low, content, Bytes.getElem?_overwrite inside, if_neg (by omega)]
    · rw [if_neg low, if_neg low]
  · rw [same]

/-! ### Steps -/

theorem Frozen.not_writable (frozen : arena.Frozen code) : ¬arena.writable = true := by
  rw [frozen.executable]
  exact nofun

theorem Frozen.write (frozen : arena.Frozen code) (whole : arena.Whole) {address : Nat}
    {bytes : Bytes} (written : arena.write address bytes = .ok after) : after.Frozen code := by
  obtain ⟨_, inside⟩ := whole.range_of_write written
  have content := bytes_of_write written
  obtain ⟨_, access, same⟩ := write_eq_ok_iff.mp written
  have inData := access.resolve_right frozen.not_writable
  have size : after.codeSize = arena.codeSize := by
    rw [same]
    rfl
  refine ⟨?_, ?_⟩
  · rw [same]
    exact frozen.executable
  · rw [← frozen.code, codeBytes, codeBytes, content, size,
      Bytes.take_overwrite inside (by omega)]

/-- Of all calls only one makes code writable. Those that lay out code are refused, and those that
lay out global data touch no bytes. -/
theorem Frozen.perform (frozen : arena.Frozen code) (whole : arena.Whole) {call : ArenaCall}
    (other : call ≠ .setWritable) : (arena.perform call).2.Frozen code := by
  cases call with
  | beginBody name =>
      exact settle_keeps frozen fun _ _ done =>
        absurd (beginBody_eq_ok_iff.mp done).1 frozen.not_writable
  | endBody name size =>
      refine settle_keeps frozen fun _ _ done => ?_
      obtain ⟨_, _, _, _, _, rfl⟩ := endBody_eq_ok_iff.mp done
      exact { frozen with }
  | takeCode size align =>
      exact settle_keeps frozen fun _ _ done =>
        absurd (takeCode_eq_ok_iff.mp done).1 frozen.not_writable
  | takeStub size align =>
      exact settle_keeps frozen fun _ _ done =>
        absurd (takeStub_eq_ok_iff.mp done).1 frozen.not_writable
  | takeData size align =>
      refine settle_keeps frozen fun _ _ done => ?_
      obtain ⟨_, _, _, _, rfl⟩ := takeData_eq_ok_iff.mp done
      exact { frozen with }
  | takeGot =>
      refine settle_keeps frozen fun _ _ done => ?_
      obtain ⟨_, _, stub, _⟩ := takeGot_eq_ok_iff.mp done
      exact absurd (takeStub_eq_ok_iff.mp stub).1 frozen.not_writable
  | gotAddress => exact frozen
  | setWritable => exact absurd rfl other
  | setExecutable => exact ⟨rfl, frozen.code⟩
  | refusedProtection fault => exact frozen
  | reset => exact ⟨frozen.executable, frozen.code⟩
  | removeBody name =>
      refine settle_keeps frozen fun value _ done => ?_
      have removal := (map_unit_eq_ok_iff value).mp done
      exact absurd (removeBody_eq_ok_iff.mp removal).1 frozen.not_writable
  | findBody name => exact frozen
  | bodies => exact frozen
  | write address bytes =>
      exact settle_keeps frozen fun value _ done =>
        frozen.write whole ((map_unit_eq_ok_iff value).mp done)
  | read address size => exact frozen

theorem Whole.perform_write (whole : arena.Whole) {address : Nat} {bytes : Bytes}
    (bounded : arena.base + arena.lease.size < addressLimit)
    (above : arena.base + arena.codeSize ≤ address)
    (inside : address + bytes.length ≤ arena.base + arena.lease.size) :
    ∃ changed, arena.perform (.write address bytes) = (.ok .done, changed) ∧
      arena.Writes address bytes changed := by
  have contains : arena.lease.contains address bytes.length = true := by
    simp only [Lease.contains, Bool.and_eq_true, decide_eq_true_eq]
    change (arena.base ≤ address ∧ _) ∧ address + bytes.length ≤ arena.base + _
    omega
  have written := write_eq_ok_iff.mpr ⟨contains, Or.inl above, rfl⟩
  refine ⟨_, ?_, whole.writes written⟩
  exact settle_eq_ok_iff.mpr ⟨(), (map_unit_eq_ok_iff ()).mpr written, rfl⟩

/-! ### Runs -/

theorem Frozen.performAll (frozen : arena.Frozen code) (wellFormed : arena.WellFormed)
    (whole : arena.Whole) {calls : List ArenaCall} (kept : ArenaCall.setWritable ∉ calls) :
    (arena.performAll calls).Frozen code := by
  induction calls generalizing arena with
  | nil => exact frozen
  | cons call rest ih =>
      have first : call ≠ .setWritable := by
        intro same
        exact kept (same ▸ List.mem_cons_self)
      exact ih (frozen.perform whole first) (wellFormed.perform call)
        (wellFormed.whole_perform whole call) (kept ∘ List.mem_cons_of_mem _)

/-- Once code can be executed, no calls but making it writable change code or stubs, or keep a
write from the bytes of global data. -/
theorem frozen_after_run {lease : Lease} (whole : lease.content.size = lease.size)
    (bounded : lease.address + lease.size < addressLimit) (earlier : List ArenaCall)
    (executable : ((ofLease lease).performAll earlier).writable = false)
    {later : List ArenaCall} (kept : ArenaCall.setWritable ∉ later) :
    let arena := (ofLease lease).performAll earlier
    let after := arena.performAll later
    after.Frozen arena.codeBytes ∧ after.Occupies arena.lease ∧
      ∀ address bytes, arena.base + arena.codeSize ≤ address →
        address + bytes.length ≤ arena.base + arena.lease.size →
        ∃ changed, after.perform (.write address bytes) = (.ok .done, changed) ∧
          after.Writes address bytes changed := by
  intro arena after
  have initial := wellFormed_ofLease lease
  have wellFormed : arena.WellFormed := initial.performAll earlier
  have wholeArena : arena.Whole := initial.whole_performAll whole earlier
  have wholeAfter : after.Whole := wellFormed.whole_performAll wholeArena later
  have same : after.Occupies arena.lease := Occupies.performAll ⟨rfl, rfl, rfl⟩ later
  have origin : arena.Occupies lease := (occupies_ofLease lease).performAll earlier
  have frozen : arena.Frozen arena.codeBytes := ⟨executable, rfl⟩
  refine ⟨frozen.performAll wellFormed wholeArena kept, same, ?_⟩
  intro address bytes above inside
  have start : after.base = arena.base := same.address
  have home : arena.base = lease.address := origin.address
  apply wholeAfter.perform_write
  · rw [start, same.size_eq, home, origin.size_eq]
    exact bounded
  · rw [start, same.codeSize_eq]
    exact above
  · rw [start, same.size_eq]
    exact inside

/-- Calls that would change code, if it could be written: removing a body, writing across the end
of the code part, writing nothing at all and writing beyond all addresses. -/
def attempts : List ArenaCall :=
  [.removeBody "b", .write 0x400fff [1, 2], .write 0x400000 [], .write (2 ^ 64 - 1) [3, 4],
    .write 0x401000 [5], .reset, .setExecutable, .takeCode 1 1, .takeData 8 8]

/-- None of them does, and the last byte of global data can still be written. -/
theorem frozen_after_run_of_attempts :
    ∃ arena after, (ofLease twoPages).performAll (stacking ++ [.setExecutable]) = arena ∧
      arena.performAll attempts = after ∧ after.codeBytes = arena.codeBytes ∧
      (arena.perform (.write 0x400fff [1, 2])).1 = .error .notWritable ∧
      (arena.perform (.write 0x400000 [])).1 = .error .notWritable ∧
      (arena.perform (.write (2 ^ 64 - 1) [3, 4])).1 = .error (.outOfBounds (2 ^ 64 - 1) 2) ∧
      ∃ changed, after.perform (.write 0x401fff [6]) = (.ok .done, changed) ∧
        changed.byteAt? 0x401fff = some 6 ∧ changed.byteAt? 0x401ffe = some 0 := by
  have whole : twoPages.content.size = twoPages.size := rfl
  have kept : ArenaCall.setWritable ∉ attempts := by decide
  obtain ⟨frozen, _, writes⟩ := frozen_after_run whole (by decide)
    (stacking ++ [.setExecutable]) (by decide +kernel) kept
  obtain ⟨changed, done, written⟩ :=
    writes 0x401fff [6] (by decide +kernel) (by decide +kernel)
  refine ⟨_, _, rfl, rfl, frozen.code, by decide +kernel, by decide +kernel, by decide +kernel,
    changed, done, written.within 0 (by decide), ?_⟩
  rw [written.outside 0x401ffe (Or.inl (by decide))]
  decide +kernel

end KernelStore.Arena
