import KernelStore.Arena.Words
import KernelStore.Proofs.Arena.Invariant
import KernelStore.Proofs.Slot.Leasing
import KernelStore.Proofs.Word

/-!
Where blocks fit. Main statement: of all places where a block fits, code and global data get the
lowest and stubs the highest, and a call fails only if there is none. In words the calls come to
the same, and nothing in them is trapped.
-/

namespace KernelStore

/-- The aligned starts of blocks of a size that lie between two bounds. -/
def room (unit low high size : Nat) : Set Nat :=
  {start | unit ∣ start ∧ low ≤ start ∧ start + size ≤ high}

section

variable {unit low high size : Nat}

theorem isLeast_room (positive : 0 < unit) (fits : roundUp low unit + size ≤ high) :
    IsLeast (room unit low high size) (roundUp low unit) := by
  obtain ⟨⟨aligned, above⟩, least⟩ := isLeast_roundUp low positive
  refine ⟨⟨aligned, above, fits⟩, ?_⟩
  intro start member
  exact least ⟨member.1, member.2.1⟩

theorem not_nonempty_room_of_least (positive : 0 < unit) (large : ¬roundUp low unit + size ≤ high) :
    ¬(room unit low high size).Nonempty := by
  intro nonempty
  obtain ⟨start, aligned, above, inside⟩ := nonempty
  have least := (isLeast_roundUp low positive).2 ⟨aligned, above⟩
  omega

theorem isGreatest_room (positive : 0 < unit) (fits : size ≤ high)
    (above : low ≤ (high - size) / unit * unit) :
    IsGreatest (room unit low high size) ((high - size) / unit * unit) := by
  obtain ⟨⟨aligned, below⟩, greatest⟩ := isGreatest_roundDown (high - size) positive
  refine ⟨⟨aligned, above, by omega⟩, ?_⟩
  intro start member
  obtain ⟨multiple, _, inside⟩ := member
  exact greatest ⟨multiple, by omega⟩

theorem not_nonempty_room_of_greatest (positive : 0 < unit)
    (large : ¬(size ≤ high ∧ low ≤ (high - size) / unit * unit)) :
    ¬(room unit low high size).Nonempty := by
  intro nonempty
  obtain ⟨start, aligned, above, inside⟩ := nonempty
  have greatest := (isGreatest_roundDown (high - size) positive).2 ⟨aligned, (by omega)⟩
  exact large ⟨by omega, Nat.le_trans above greatest⟩

end

/-- A call succeeds if there is room at all, takes the best start then, and fails for want of
room otherwise. -/
structure TakesBest (best : Set Nat → Nat → Prop) (room : Set Nat) (taken : Nat → Block × Arena)
    (short : ArenaFault) (outcome : Except ArenaFault (Block × Arena)) : Prop where
  succeeds : (∃ result, outcome = .ok result) ↔ room.Nonempty
  best : ∀ result, outcome = .ok result → ∃ start, best room start ∧ result = taken start
  fails : ∀ fault, outcome = .error fault → fault = short

theorem takesBest_ite {best : Set Nat → Nat → Prop} {room : Set Nat} {start : Nat}
    {taken : Nat → Block × Arena} {short : ArenaFault} {enough : Prop} [Decidable enough]
    (member : best room start → start ∈ room) (chosen : enough → best room start)
    (full : ¬enough → ¬room.Nonempty) :
    TakesBest best room taken short (if enough then .ok (taken start) else .error short) := by
  by_cases fits : enough
  · rw [if_pos fits]
    exact {
      succeeds := iff_of_true ⟨_, rfl⟩ ⟨start, member (chosen fits)⟩
      best := fun _ same => ⟨start, chosen fits, (Except.ok.inj same).symm⟩
      fails := nofun }
  · rw [if_neg fits]
    exact {
      succeeds := iff_of_false nofun (full fits)
      best := nofun
      fails := fun _ same => (Except.error.inj same).symm }

namespace Arena

variable {arena : Arena} {size align : Nat}

/-! ### Numbers -/

theorem alignment_eq (power : align = 0 ∨ align.isPowerOfTwo) :
    alignment align = .ok (max align 1) := by
  unfold alignment
  rcases power with zero | power
  · rw [if_pos zero, zero]
    rfl
  · have positive := Nat.pos_of_isPowerOfTwo power
    obtain ⟨exponent, rfl⟩ := power
    rw [if_neg (Nat.ne_of_gt positive), Nat.log2_two_pow, Nat.one_shiftLeft, if_pos rfl,
      Nat.max_eq_left positive]

/-- The block of a size that starts at an address. -/
def blockAt (arena : Arena) (size start : Nat) : Block := ⟨start, start - arena.base, size⟩

/-! What comes of taking a block that starts at an address. -/

def codeTaken (arena : Arena) (size start : Nat) : Block × Arena :=
  (arena.blockAt size start, { arena with codeCursor := start + size - arena.base })

def stubTaken (arena : Arena) (size start : Nat) : Block × Arena :=
  (arena.blockAt size start, { arena with stubCursor := start - arena.base })

def dataTaken (arena : Arena) (size start : Nat) : Block × Arena :=
  (arena.blockAt size start, { arena with dataCursor := start + size - arena.base })

theorem block_eq_blockAt {start : Nat} (above : arena.base ≤ start) :
    arena.block (start - arena.base) size = arena.blockAt size start := by
  rw [block, blockAt, Nat.add_sub_cancel' above]

theorem takeCode_eq {unit : Nat} (writable : arena.writable = true)
    (closed : arena.openBody = none) (aligned : alignment align = .ok unit) :
    arena.takeCode size align =
      if roundUp (arena.base + arena.codeCursor) unit + size ≤ arena.base + arena.stubCursor then
        .ok (arena.codeTaken size (roundUp (arena.base + arena.codeCursor) unit))
      else .error (.outOfMemory .code size (arena.stubCursor - arena.codeCursor)) := by
  have above := le_roundUp (arena.base + arena.codeCursor) unit
  have open? : arena.requireNoOpenBody = .ok () := (requireNoOpenBody_eq_ok_iff ()).mpr closed
  rw [takeCode, (requireWritable_eq_ok_iff ()).mpr writable, open?, aligned]
  change (if _ then _ else _) = _
  generalize roundUp (arena.base + arena.codeCursor) unit = start at *
  have offset : start - arena.base + size = start + size - arena.base := by omega
  have fits : start - arena.base + size ≤ arena.stubCursor ↔
      start + size ≤ arena.base + arena.stubCursor := by omega
  simp only [fits]
  rw [block_eq_blockAt (by omega), offset]
  rfl

theorem takeStub_eq {unit : Nat} (writable : arena.writable = true)
    (aligned : alignment align = .ok unit) :
    arena.takeStub size align =
      if size ≤ arena.base + arena.stubCursor ∧ arena.base + arena.codeCursor ≤
          (arena.base + arena.stubCursor - size) / unit * unit then
        .ok (arena.stubTaken size ((arena.base + arena.stubCursor - size) / unit * unit))
      else .error (.outOfMemory .stub size (arena.stubCursor - arena.codeCursor)) := by
  rw [takeStub, (requireWritable_eq_ok_iff ()).mpr writable, aligned]
  change (if _ then _ else _) = _
  split
  · rename_i fits
    rw [block_eq_blockAt (by omega)]
    rfl
  · rfl

theorem takeData_eq {unit : Nat} (aligned : alignment align = .ok unit) :
    arena.takeData size align =
      if roundUp (arena.base + arena.dataCursor) unit + size ≤
          arena.base + arena.lease.size then
        .ok (arena.dataTaken size (roundUp (arena.base + arena.dataCursor) unit))
      else .error (.outOfMemory .data size (arena.lease.size - arena.dataCursor)) := by
  have above := le_roundUp (arena.base + arena.dataCursor) unit
  rw [takeData, aligned]
  change (if _ then _ else _) = _
  generalize roundUp (arena.base + arena.dataCursor) unit = start at *
  have offset : start - arena.base + size = start + size - arena.base := by omega
  have fits : start - arena.base + size ≤ arena.lease.size ↔
      start + size ≤ arena.base + arena.lease.size := by omega
  simp only [fits]
  rw [block_eq_blockAt (by omega), offset]
  rfl

section

variable (power : align = 0 ∨ align.isPowerOfTwo)

include power

theorem takeCode_takesBest (writable : arena.writable = true) (closed : arena.openBody = none) :
    TakesBest IsLeast
      (room (max align 1) (arena.base + arena.codeCursor) (arena.base + arena.stubCursor) size)
      (arena.codeTaken size) (.outOfMemory .code size (arena.stubCursor - arena.codeCursor))
      (arena.takeCode size align) := by
  have positive : 0 < max align 1 := by omega
  rw [takeCode_eq writable closed (alignment_eq power)]
  exact takesBest_ite And.left (isLeast_room positive) (not_nonempty_room_of_least positive)

theorem takeStub_takesBest (writable : arena.writable = true) :
    TakesBest IsGreatest
      (room (max align 1) (arena.base + arena.codeCursor) (arena.base + arena.stubCursor) size)
      (arena.stubTaken size) (.outOfMemory .stub size (arena.stubCursor - arena.codeCursor))
      (arena.takeStub size align) := by
  have positive : 0 < max align 1 := by omega
  rw [takeStub_eq writable (alignment_eq power)]
  exact takesBest_ite And.left (fun fits => isGreatest_room positive fits.1 fits.2)
    (not_nonempty_room_of_greatest positive)

theorem takeData_takesBest :
    TakesBest IsLeast
      (room (max align 1) (arena.base + arena.dataCursor) (arena.base + arena.lease.size) size)
      (arena.dataTaken size) (.outOfMemory .data size (arena.lease.size - arena.dataCursor))
      (arena.takeData size align) := by
  have positive : 0 < max align 1 := by omega
  rw [takeData_eq (alignment_eq power)]
  exact takesBest_ite And.left (isLeast_room positive) (not_nonempty_room_of_least positive)

end

end Arena

/-! ### Words -/

namespace WordArena

variable {ε : Type}

theorem lowest_eq (base : Nat) {cursor limit size unit : Nat} (power : unit.isPowerOfTwo)
    (unitWord : unit < addressLimit) (sizeWord : size < addressLimit)
    (order : cursor ≤ limit) (bounded : base + limit < addressLimit) :
    (lowest (.ofNat base) (.ofNat cursor) (.ofNat limit) (.ofNat size) (.ofNat unit) :
        Trapping ε (Option (UInt64 × UInt64))) =
      pure (if roundUp (base + cursor) unit - base + size ≤ limit then
        some (.ofNat (roundUp (base + cursor) unit - base),
          .ofNat (roundUp (base + cursor) unit - base + size)) else none) := by
  have above := le_roundUp (base + cursor) unit
  rw [lowest, Word.sum_eq (by omega), pure_bind,
    Word.alignUp?_eq power (by omega) unitWord, pure_bind]
  generalize roundUp (base + cursor) unit = start at *
  by_cases startWord : start < addressLimit
  · rw [if_pos startWord]
    dsimp only
    rw [Word.difference_eq startWord (by omega), pure_bind, Word.sum?_eq (by omega) sizeWord]
    congr 1
    by_cases stopWord : start - base + size < addressLimit
    · have limitWord : limit < addressLimit := by omega
      have inside := Word.le_iff stopWord limitWord
      rw [if_pos stopWord, Option.map_some, Option.filter_some]
      simp only [inside, decide_eq_true_eq]
    · rw [if_neg stopWord, if_neg (by omega)]
      rfl
  · rw [if_neg startWord, if_neg (by omega)]

theorem highest_eq (base : Nat) {floor cursor size unit : Nat} (power : unit.isPowerOfTwo)
    (unitWord : unit < addressLimit) (sizeWord : size < addressLimit)
    (order : floor ≤ cursor) (bounded : base + cursor < addressLimit) :
    (highest (.ofNat base) (.ofNat floor) (.ofNat cursor) (.ofNat size) (.ofNat unit) :
        Trapping ε (Option UInt64)) =
      pure (if size ≤ base + cursor ∧ base + floor ≤ (base + cursor - size) / unit * unit then
        some (.ofNat ((base + cursor - size) / unit * unit - base)) else none) := by
  have below := Nat.div_mul_le_self (base + cursor - size) unit
  rw [highest, Word.sum_eq bounded, pure_bind, Word.difference?_eq bounded sizeWord]
  by_cases small : size ≤ base + cursor
  · rw [if_pos small]
    dsimp only
    rw [Word.alignDown_eq power (by omega) unitWord, pure_bind,
      Word.difference?_eq (by omega) (by omega)]
    generalize (base + cursor - size) / unit * unit = start at *
    congr 1
    by_cases inside : base ≤ start
    · have floorWord : floor < addressLimit := by omega
      have startWord : start - base < addressLimit := by omega
      have above := Word.le_iff floorWord startWord
      have order : floor ≤ start - base ↔ base + floor ≤ start := by omega
      rw [if_pos inside, Option.filter_some]
      simp only [above, order, small, true_and, decide_eq_true_eq]
    · rw [if_neg inside, if_neg (by omega)]
      rfl
  · rw [if_neg small, if_neg (by omega)]

theorem alignment_word {align : UInt64} {unit : Nat}
    (aligned : Arena.alignment align.toNat = .ok unit) :
    unit.isPowerOfTwo ∧ unit < addressLimit := by
  rcases (Arena.alignment_eq_ok_iff unit).mp aligned with ⟨_, one⟩ | ⟨_, power, same⟩
  · rw [one]
    exact ⟨⟨0, rfl⟩, by decide⟩
  · rw [same]
    rw [Nat.one_shiftLeft] at power
    exact ⟨⟨_, power.symm⟩, Word.toNat_lt align⟩

/-- What follows an alignment is followed alike with the word and with the number. -/
theorem alignment_bind {α : Type} {align : UInt64} {next : UInt64 → Trapping ArenaFault α}
    {compute : Nat → Except ArenaFault α}
    (each : ∀ unit, unit.isPowerOfTwo → unit < addressLimit →
      next (.ofNat unit) = ofExcept (compute unit)) :
    (alignment align >>= next) = ofExcept (Arena.alignment align.toNat >>= compute) := by
  rw [alignment, bind_assoc]
  apply Trapping.ofExcept_bind
  intro unit aligned
  obtain ⟨power, unitWord⟩ := alignment_word aligned
  rw [pure_bind]
  exact each unit power unitWord

section

variable {arena : Arena}

theorem block_eq {start : Nat} (bounded : arena.base + start < addressLimit) (size : UInt64) :
    (block arena (.ofNat start) size : Trapping ε Block) =
      pure (arena.block start size.toNat) := by
  rw [block, Word.sum_eq bounded, pure_bind, toNat_ofNat_of_lt bounded,
    toNat_ofNat_of_lt (by omega)]
  rfl

variable (wellFormed : arena.WellFormed) (bounded : arena.base + arena.lease.size < addressLimit)

include wellFormed bounded

theorem takeCode_eq (size align : UInt64) :
    takeCode arena size align = ofExcept (arena.takeCode size.toNat align.toNat) := by
  have code := wellFormed.code
  have stubs := wellFormed.stubCursor_le
  unfold takeCode Arena.takeCode
  apply Trapping.ofExcept_bind
  intro _ writable
  apply Trapping.ofExcept_bind
  intro _ closed
  apply alignment_bind
  intro unit power unitWord
  have lowest := lowest_eq (ε := ArenaFault) arena.base power unitWord
    (Word.toNat_lt size) code (by omega)
  rw [UInt64.ofNat_toNat] at lowest
  dsimp only
  rw [lowest, pure_bind]
  generalize roundUp (arena.base + arena.codeCursor) unit - arena.base = start
  by_cases fits : start + size.toNat ≤ arena.stubCursor
  · rw [if_pos fits, if_pos fits]
    dsimp only
    rw [block_eq (by omega), pure_bind, toNat_ofNat_of_lt (by omega)]
    rfl
  · rw [if_neg fits, if_neg fits]
    dsimp only
    rw [Word.difference_eq (by omega) code, pure_bind, toNat_ofNat_of_lt (by omega)]
    rfl

theorem takeStub_eq (size align : UInt64) :
    takeStub arena size align = ofExcept (arena.takeStub size.toNat align.toNat) := by
  have code := wellFormed.code
  have stubs := wellFormed.stubCursor_le
  unfold takeStub Arena.takeStub
  apply Trapping.ofExcept_bind
  intro _ writable
  apply alignment_bind
  intro unit power unitWord
  have highest := highest_eq (ε := ArenaFault) arena.base power unitWord
    (Word.toNat_lt size) code (by omega)
  have below := Nat.div_mul_le_self (arena.base + arena.stubCursor - size.toNat) unit
  rw [UInt64.ofNat_toNat] at highest
  dsimp only
  rw [Word.difference_eq (by omega) code, pure_bind, highest, pure_bind]
  generalize (arena.base + arena.stubCursor - size.toNat) / unit * unit = start at *
  by_cases fits : size.toNat ≤ arena.base + arena.stubCursor ∧
      arena.base + arena.codeCursor ≤ start
  · rw [if_pos fits, if_pos fits]
    dsimp only
    rw [block_eq (by omega), pure_bind, toNat_ofNat_of_lt (by omega)]
    rfl
  · rw [if_neg fits, if_neg fits]
    dsimp only
    rw [toNat_ofNat_of_lt (by omega)]
    rfl

theorem takeData_eq (size align : UInt64) :
    takeData arena size align = ofExcept (arena.takeData size.toNat align.toNat) := by
  have inside := wellFormed.inside
  unfold takeData Arena.takeData
  apply alignment_bind
  intro unit power unitWord
  have lowest := lowest_eq (ε := ArenaFault) arena.base power unitWord
    (Word.toNat_lt size) inside bounded
  rw [UInt64.ofNat_toNat] at lowest
  dsimp only
  rw [Word.difference_eq (by omega) inside, pure_bind, lowest, pure_bind]
  generalize roundUp (arena.base + arena.dataCursor) unit - arena.base = start
  by_cases fits : start + size.toNat ≤ arena.lease.size
  · rw [if_pos fits, if_pos fits]
    dsimp only
    rw [block_eq (by omega), pure_bind, toNat_ofNat_of_lt (by omega)]
    rfl
  · rw [if_neg fits, if_neg fits]
    dsimp only
    rw [toNat_ofNat_of_lt (by omega)]
    rfl

end

end WordArena

/-! ### Runs -/

namespace Arena

/-- After any calls on the arena in a mapping that ends inside the address space, as all do that
are leased, taking a block is exact: code and global data get the lowest place there is, stubs the
highest, and only if there is none the call fails. All steps on words come to this, and none is
trapped. -/
theorem taking_is_exact {lease : Lease} (bounded : lease.address + lease.size < addressLimit)
    (calls : List ArenaCall) (size align : UInt64)
    (power : align.toNat = 0 ∨ align.toNat.isPowerOfTwo) :
    let arena := (ofLease lease).performAll calls
    let unit := max align.toNat 1
    let between := room unit (arena.base + arena.codeCursor) (arena.base + arena.stubCursor)
      size.toNat
    let available := arena.stubCursor - arena.codeCursor
    (arena.writable = true → arena.openBody = none →
      TakesBest IsLeast between (arena.codeTaken size.toNat)
        (.outOfMemory .code size.toNat available) (arena.takeCode size.toNat align.toNat)) ∧
      (arena.writable = true →
        TakesBest IsGreatest between (arena.stubTaken size.toNat)
          (.outOfMemory .stub size.toNat available) (arena.takeStub size.toNat align.toNat)) ∧
      TakesBest IsLeast
        (room unit (arena.base + arena.dataCursor) (arena.base + arena.lease.size) size.toNat)
        (arena.dataTaken size.toNat)
        (.outOfMemory .data size.toNat (arena.lease.size - arena.dataCursor))
        (arena.takeData size.toNat align.toNat) ∧
      WordArena.takeCode arena size align = ofExcept (arena.takeCode size.toNat align.toNat) ∧
      WordArena.takeStub arena size align = ofExcept (arena.takeStub size.toNat align.toNat) ∧
      WordArena.takeData arena size align = ofExcept (arena.takeData size.toNat align.toNat) := by
  intro arena unit between available
  have wellFormed : arena.WellFormed := (wellFormed_ofLease lease).performAll calls
  have occupies : arena.Occupies lease := (occupies_ofLease lease).performAll calls
  have inside : arena.base + arena.lease.size < addressLimit := by
    rw [base, occupies.address, occupies.size_eq]
    exact bounded
  exact ⟨takeCode_takesBest power, takeStub_takesBest power, takeData_takesBest power,
    WordArena.takeCode_eq wellFormed inside size align,
    WordArena.takeStub_eq wellFormed inside size align,
    WordArena.takeData_eq wellFormed inside size align⟩

/-- A mapping that ends one page before the end of the address space. -/
def lastLease : Lease :=
  ⟨⟨0, ⟨2 ^ 64 - 12288, 1, 4096, 4096, 8, by decide⟩⟩, 2 ^ 64 - 12288, some 0, .zeros 8192⟩

/-- Of the code part all but five bytes are left. A block fills it up exactly from the first
multiple of the alignment on, and for one that could only start beyond all words there is no
room. -/
theorem taking_is_exact_at_the_end :
    let arena := (ofLease lastLease).performAll [.takeCode 5 0]
    WordArena.takeCode arena 4080 16 =
        ofExcept (.ok (arena.codeTaken 4080 (2 ^ 64 - 12272))) ∧
      WordArena.takeStub arena 4080 16 =
        ofExcept (.ok (arena.stubTaken 4080 (2 ^ 64 - 12272))) ∧
      WordArena.takeCode arena 1 (2 ^ 63) = ofExcept (.error (.outOfMemory .code 1 4091)) ∧
      ¬(room (2 ^ 63) (arena.base + arena.codeCursor) (arena.base + arena.stubCursor)
        1).Nonempty := by
  intro arena
  have bounded : lastLease.address + lastLease.size < addressLimit := by decide
  obtain ⟨_, _, _, codeWords, stubWords, _⟩ :=
    taking_is_exact bounded [.takeCode 5 0] 4080 16 (Or.inr ⟨4, by decide⟩)
  obtain ⟨code, _, _, words, _, _⟩ :=
    taking_is_exact bounded [.takeCode 5 0] 1 (2 ^ 63) (Or.inr ⟨63, by decide +kernel⟩)
  have failed : arena.takeCode (1 : UInt64).toNat (2 ^ 63 : UInt64).toNat =
      .error (.outOfMemory .code 1 4091) := by decide +kernel
  have unit : max (2 ^ 63 : UInt64).toNat 1 = 2 ^ 63 := by decide +kernel
  rw [unit] at code
  refine ⟨?_, ?_, ?_, ?_⟩
  · rw [codeWords]
    exact congrArg ofExcept (by decide +kernel)
  · rw [stubWords]
    exact congrArg ofExcept (by decide +kernel)
  · rw [words]
    exact congrArg ofExcept failed
  · intro nonempty
    obtain ⟨result, done⟩ := (code (by decide +kernel) (by decide +kernel)).succeeds.mpr nonempty
    rw [failed] at done
    cases done

end Arena

end KernelStore
