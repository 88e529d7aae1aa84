import KernelStore.Arena.Emission
import KernelStore.Proofs.Fallible
import KernelStore.Proofs.Slot.Spans

/-!
When a call on an arena succeeds, and the arena it then leads to. Proofs about runs cite these
statements and open no call again.
-/

namespace KernelStore.Arena

variable {arena after : Arena} {name : String} {size align : Nat} {block : Block}

/-! ### Conditions on calls -/

theorem requireWritable_eq_ok_iff (result : Unit) :
    arena.requireWritable = .ok result ↔ arena.writable = true := by
  unfold requireWritable
  split
  · rename_i writable
    exact ⟨fun _ => writable, fun _ => rfl⟩
  · rename_i frozen
    exact ⟨nofun, fun writable => absurd writable frozen⟩

theorem requireNoOpenBody_eq_ok_iff (result : Unit) :
    arena.requireNoOpenBody = .ok result ↔ arena.openBody = none := by
  unfold requireNoOpenBody
  cases opened : arena.openBody with
  | none => exact ⟨fun _ => rfl, fun _ => rfl⟩
  | some body => exact ⟨nofun, nofun⟩

theorem alignment_eq_ok_iff (unit : Nat) :
    alignment align = .ok unit ↔
      (align = 0 ∧ unit = 1) ∨ (align ≠ 0 ∧ 1 <<< align.log2 = align ∧ unit = align) := by
  unfold alignment
  split
  · rename_i zero
    simp [zero, eq_comm]
  · rename_i positive
    split
    · rename_i power
      simp [positive, power, eq_comm]
    · rename_i other
      simp [positive, other]

theorem unit_eq_max {unit : Nat} (aligned : alignment align = .ok unit) :
    unit = max align 1 := by
  rcases (alignment_eq_ok_iff unit).mp aligned with ⟨zero, one⟩ | ⟨positive, _, same⟩
  · rw [zero, one]
    rfl
  · rw [same]
    omega

/-! ### Function bodies -/

theorem beginBody_eq_ok_iff :
    arena.beginBody name = .ok (block, after) ↔
      arena.writable = true ∧ arena.openBody = none ∧ arena.findBody? name = none ∧
        block = arena.block arena.codeCursor arena.codeFree ∧
        after = { arena with openBody := some ⟨name, arena.codeCursor⟩ } := by
  simp only [beginBody, bind_eq_ok_iff, requireWritable_eq_ok_iff, requireNoOpenBody_eq_ok_iff,
    exists_const]
  refine and_congr_right fun _ => and_congr_right fun _ => ?_
  cases found : arena.findBody? name with
  | none => simp [pure, Except.pure, eq_comm]
  | some body => simp [throw, throwThe, MonadExceptOf.throw]

theorem endBody_eq_ok_iff {body : Body} :
    arena.endBody name size = .ok (body, after) ↔
      ∃ opened, arena.openBody = some opened ∧ opened.name = name ∧
        size ≤ arena.stubCursor - opened.start ∧
        body = ⟨name, arena.base + opened.start, arena.base + opened.start + size⟩ ∧
        after = { arena with
          openBody := none
          codeCursor := opened.start + size
          bodies := arena.bodies ++ [body] } := by
  unfold endBody
  cases open? : arena.openBody with
  | none => simp
  | some opened =>
      by_cases same : opened.name = name
      · by_cases fits : size ≤ arena.stubCursor - opened.start
        · have enough : ¬arena.stubCursor - opened.start < size := Nat.not_lt.mpr fits
          simp [same, fits, enough, eq_comm]
          grind
        · have short : arena.stubCursor - opened.start < size := Nat.lt_of_not_le fits
          simp [same, fits, short]
      · simp [same]

theorem removeBody_eq_ok_iff :
    arena.removeBody name = .ok after ↔
      arena.writable = true ∧ arena.openBody = none ∧
        ∃ removed, arena.findBody? name = some removed ∧
          after = { arena with
            lease := { arena.lease with content := arena.closeUp removed }
            codeCursor := arena.codeCursor - removed.size
            bodies := (arena.bodies.erase removed).map (shift removed) } := by
  simp only [removeBody, bind_eq_ok_iff, requireWritable_eq_ok_iff, requireNoOpenBody_eq_ok_iff,
    exists_const]
  refine and_congr_right fun _ => and_congr_right fun _ => ?_
  cases found : arena.findBody? name with
  | none => simp [throw, throwThe, MonadExceptOf.throw]
  | some removed => simp [pure, Except.pure, eq_comm]

/-! ### Blocks -/

theorem takeCode_eq_ok_iff :
    arena.takeCode size align = .ok (block, after) ↔
      arena.writable = true ∧ arena.openBody = none ∧ ∃ unit, alignment align = .ok unit ∧
        roundUp (arena.base + arena.codeCursor) unit - arena.base + size ≤ arena.stubCursor ∧
        block = arena.block (roundUp (arena.base + arena.codeCursor) unit - arena.base) size ∧
        after = { arena with
          codeCursor := roundUp (arena.base + arena.codeCursor) unit - arena.base + size } := by
  simp only [takeCode, bind_eq_ok_iff, requireWritable_eq_ok_iff, requireNoOpenBody_eq_ok_iff,
    exists_const]
  refine and_congr_right fun _ => and_congr_right fun _ => ?_
  refine exists_congr fun unit => and_congr_right fun _ => ?_
  split
  · rename_i fits
    simp [fits, pure, Except.pure, eq_comm]
  · rename_i large
    simp [large, throw, throwThe, MonadExceptOf.throw]

theorem takeStub_eq_ok_iff :
    arena.takeStub size align = .ok (block, after) ↔
      arena.writable = true ∧ ∃ unit, alignment align = .ok unit ∧
        (size ≤ arena.base + arena.stubCursor ∧ arena.base + arena.codeCursor ≤
          (arena.base + arena.stubCursor - size) / unit * unit) ∧
        block = arena.block
          ((arena.base + arena.stubCursor - size) / unit * unit - arena.base) size ∧
        after = { arena with
          stubCursor := (arena.base + arena.stubCursor - size) / unit * unit - arena.base } := by
  simp only [takeStub, bind_eq_ok_iff, requireWritable_eq_ok_iff, exists_const]
  refine and_congr_right fun _ => exists_congr fun unit => and_congr_right fun _ => ?_
  split
  · rename_i fits
    simp [fits, pure, Except.pure, eq_comm]
  · rename_i large
    simp [large, throw, throwThe, MonadExceptOf.throw]

theorem takeData_eq_ok_iff :
    arena.takeData size align = .ok (block, after) ↔
      ∃ unit, alignment align = .ok unit ∧
        roundUp (arena.base + arena.dataCursor) unit - arena.base + size ≤ arena.lease.size ∧
        block = arena.block (roundUp (arena.base + arena.dataCursor) unit - arena.base) size ∧
        after = { arena with
          dataCursor := roundUp (arena.base + arena.dataCursor) unit - arena.base + size } := by
  simp only [takeData, bind_eq_ok_iff]
  refine exists_congr fun unit => and_congr_right fun _ => ?_
  split
  · rename_i fits
    simp [fits, pure, Except.pure, eq_comm]
  · rename_i large
    simp [large, throw, throwThe, MonadExceptOf.throw]

theorem takeGot_eq_ok_iff :
    arena.takeGot = .ok (block, after) ↔
      arena.got = none ∧ ∃ changed,
        arena.takeStub arena.gotSize gotAlignment = .ok (block, changed) ∧
        after = { changed with got := some block.address } := by
  unfold takeGot
  cases taken : arena.got with
  | some address => simp [throw, throwThe, MonadExceptOf.throw, bind, Except.bind]
  | none =>
      simp only [Option.isSome_none, Bool.false_eq_true, if_false, bind_eq_ok_iff, true_and]
      constructor
      · rintro ⟨⟨table, changed⟩, taken, made⟩
        cases made
        exact ⟨changed, taken, rfl⟩
      · rintro ⟨changed, taken, rfl⟩
        exact ⟨(block, changed), taken, rfl⟩

/-! ### Contents -/

theorem requireAccess_eq_ok_iff {address : Nat} (result : Unit) :
    arena.requireAccess address size = .ok result ↔
      arena.lease.contains address size = true ∧
        (arena.base + arena.codeSize ≤ address ∨ arena.writable = true) := by
  unfold requireAccess
  cases arena.lease.contains address size with
  | false => simp
  | true =>
      by_cases inData : arena.base + arena.codeSize ≤ address
      · have notCode : ¬address < arena.base + arena.codeSize := Nat.not_lt.mpr inData
        simp [inData, notCode]
      · have inCode : address < arena.base + arena.codeSize := Nat.lt_of_not_le inData
        cases writable : arena.writable <;> simp [inData, inCode]

theorem write_eq_ok_iff {address : Nat} {bytes : Bytes} :
    arena.write address bytes = .ok after ↔
      arena.lease.contains address bytes.length = true ∧
        (arena.base + arena.codeSize ≤ address ∨ arena.writable = true) ∧
        after = { arena with lease := { arena.lease with
          content := arena.lease.content.overwrite (address - arena.base) bytes } } := by
  simp only [write, bind_eq_ok_iff, requireAccess_eq_ok_iff, exists_const, and_assoc]
  refine and_congr_right fun _ => and_congr_right fun _ => ?_
  simp [pure, Except.pure, eq_comm]

end KernelStore.Arena
