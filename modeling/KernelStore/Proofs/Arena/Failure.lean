import KernelStore.Arena.Action
import KernelStore.Proofs.Arena.Invariant

/-!
Calls that fail. Carried out in place, every call makes all its checks before it assigns anything:
in this it agrees with `Arena.perform`, where a call that fails yields no arena. Main statement: a
call that fails leaves the arena as it was, and may as well not have been made.
-/

namespace KernelStore

namespace ArenaAction

variable {α β : Type} {arena : Arena} {fault : ArenaFault}

/-! ### Running steps -/

theorem runOn_bind (action : ArenaAction α) (next : α → ArenaAction β) (arena : Arena) :
    (action >>= next).runOn arena = match action.runOn arena with
      | (.ok value, after) => (next value).runOn after
      | (.error fault, after) => (.error fault, after) := by
  unfold runOn
  simp only [bind, ExceptT.bind, ExceptT.run, ExceptT.mk, StateT.bind, StateT.run, Id.run]
  cases action arena with
  | mk result after => cases result <;> rfl

theorem runOn_map (reply : α → β) (action : ArenaAction α) (arena : Arena) :
    (reply <$> action).runOn arena =
      ((action.runOn arena).1.map reply, (action.runOn arena).2) := by
  rw [map_eq_pure_bind, runOn_bind]
  cases action.runOn arena with
  | mk result after => cases result <;> rfl

theorem runOn_get_bind (next : Arena → ArenaAction α) (arena : Arena) :
    (get >>= next).runOn arena = (next arena).runOn arena := rfl

theorem runOn_check (condition : Arena → Except ArenaFault α) (arena : Arena) :
    (check condition).runOn arena = (condition arena, arena) := by
  unfold check
  rw [runOn_get_bind]
  cases condition arena with
  | ok value => rfl
  | error fault => rfl

/-! ### Checks before assignments -/

/-- A computation that yields no arena when it fails leaves the one at hand. -/
def settled (arena : Arena) : Except ArenaFault (α × Arena) → Except ArenaFault α × Arena
  | .ok (value, after) => (.ok value, after)
  | .error fault => (.error fault, arena)

/-- An action that begins with a check settles the computation that begins with it, if what follows
the check does. -/
theorem runOn_checked {condition : Arena → Except ArenaFault α} {next : α → ArenaAction β}
    {compute : α → Except ArenaFault (β × Arena)}
    (each : ∀ value, (next value).runOn arena = settled arena (compute value)) :
    (check condition >>= next).runOn arena = settled arena (condition arena >>= compute) := by
  rw [runOn_bind, runOn_check]
  cases condition arena with
  | error fault => rfl
  | ok value => exact each value

/-- An action that compares before its only change settles the opposite comparison. -/
theorem runOn_compared {short enough : Prop} [Decidable short] [Decidable enough]
    (opposite : short ↔ ¬enough) (fault : ArenaFault) (change : Arena → Arena) (value : α) :
    (do
      if short then throw fault
      modify change
      return value : ArenaAction α).runOn arena =
    settled arena (if enough then .ok (value, change arena) else .error fault) := by
  by_cases fits : enough
  · rw [if_neg (not_not.mpr fits ∘ opposite.mp), if_pos fits]
    rfl
  · rw [if_pos (opposite.mpr fits), if_neg fits]
    rfl

theorem runOn_beginBody (name : String) (arena : Arena) :
    (beginBody name).runOn arena = settled arena (arena.beginBody name) := by
  apply runOn_checked
  intro writable
  apply runOn_checked
  intro closed
  rw [runOn_get_bind]
  split
  · rfl
  · rfl

theorem runOn_takeCode (size align : Nat) (arena : Arena) :
    (takeCode size align).runOn arena = settled arena (arena.takeCode size align) := by
  apply runOn_checked
  intro writable
  apply runOn_checked
  intro closed
  apply runOn_checked
  intro unit
  rw [runOn_get_bind]
  exact runOn_compared Nat.not_le.symm _ _ _

theorem runOn_takeStub (size align : Nat) (arena : Arena) :
    (takeStub size align).runOn arena = settled arena (arena.takeStub size align) := by
  apply runOn_checked
  intro writable
  apply runOn_checked
  intro unit
  rw [runOn_get_bind]
  refine runOn_compared ?_ _ _ _
  rw [not_and_or, Nat.not_le, Nat.not_le]

theorem runOn_takeData (size align : Nat) (arena : Arena) :
    (takeData size align).runOn arena = settled arena (arena.takeData size align) := by
  apply runOn_checked
  intro unit
  rw [runOn_get_bind]
  exact runOn_compared Nat.not_le.symm _ _ _

theorem runOn_takeGot (arena : Arena) : takeGot.runOn arena = settled arena arena.takeGot := by
  unfold takeGot Arena.takeGot
  rw [runOn_get_bind]
  split
  · rfl
  · rw [runOn_bind, runOn_takeStub]
    cases arena.takeStub arena.gotSize Arena.gotAlignment with
    | error fault => rfl
    | ok taken => rfl

theorem runOn_endBody (name : String) (size : Nat) (arena : Arena) :
    (endBody name size).runOn arena = settled arena (arena.endBody name size) := by
  unfold endBody Arena.endBody
  rw [runOn_bind, runOn_check, openStart]
  cases arena.openBody with
  | none => rfl
  | some opened =>
      dsimp only
      by_cases same : opened.name = name
      · rw [if_pos same, if_neg (not_not.mpr same)]
        dsimp only
        rw [runOn_get_bind]
        split
        · rfl
        · rfl
      · rw [if_neg same, if_pos same]
        rfl

theorem runOn_removeBody (name : String) (arena : Arena) :
    (removeBody name).runOn arena = settled arena ((arena.removeBody name).map ((), ·)) := by
  unfold removeBody Arena.removeBody
  rw [runOn_bind, runOn_check]
  cases arena.requireWritable with
  | error fault => rfl
  | ok writable =>
      dsimp only
      rw [runOn_bind, runOn_check]
      cases arena.requireNoOpenBody with
      | error fault => rfl
      | ok closed =>
          dsimp only
          rw [runOn_bind, runOn_check, knownBody]
          cases arena.findBody? name with
          | none => rfl
          | some removed => rfl

theorem runOn_write (address : Nat) (bytes : Bytes) (arena : Arena) :
    (write address bytes).runOn arena =
      settled arena ((arena.write address bytes).map ((), ·)) := by
  unfold write Arena.write
  rw [runOn_bind, runOn_check]
  cases arena.requireAccess address bytes.length with
  | error fault => rfl
  | ok access => rfl

/-! ### Calls -/

theorem runOn_replied {action : ArenaAction α} {outcome : Except ArenaFault (α × Arena)}
    (runs : action.runOn arena = settled arena outcome) (reply : α → ArenaReply) :
    (reply <$> action).runOn arena = arena.settle reply outcome := by
  rw [runOn_map, runs]
  cases outcome with
  | ok result => rfl
  | error fault => rfl

theorem runOn_ofCall (call : ArenaCall) (arena : Arena) :
    (ofCall call).runOn arena = arena.perform call := by
  cases call with
  | beginBody name => exact runOn_replied (runOn_beginBody name arena) _
  | endBody name size => exact runOn_replied (runOn_endBody name size arena) _
  | takeCode size align => exact runOn_replied (runOn_takeCode size align arena) _
  | takeStub size align => exact runOn_replied (runOn_takeStub size align arena) _
  | takeData size align => exact runOn_replied (runOn_takeData size align arena) _
  | takeGot => exact runOn_replied (runOn_takeGot arena) _
  | gotAddress => rfl
  | setWritable => rfl
  | setExecutable => rfl
  | refusedProtection fault => rfl
  | reset => rfl
  | removeBody name => exact runOn_replied (runOn_removeBody name arena) _
  | findBody name => rfl
  | bodies => rfl
  | write address bytes => exact runOn_replied (runOn_write address bytes arena) _
  | read address size =>
      change (_ <$> check _).runOn arena = _
      rw [runOn_map, runOn_check]
      rfl

theorem settle_error {outcome : Except ArenaFault (α × Arena)} {reply : α → ArenaReply}
    (failed : (arena.settle reply outcome).1 = .error fault) :
    arena.settle reply outcome = (.error fault, arena) := by
  rcases Arena.settle_cases reply outcome with ⟨value, changed, _, same⟩ | ⟨other, _, same⟩
  · rw [same] at failed
    cases failed
  · rw [same] at failed ⊢
    cases failed
    rfl

/-- Of the calls that are not settled, only reading and a refused change of protection can fail, and
neither changes anything. -/
theorem perform_error {call : ArenaCall} (failed : (arena.perform call).1 = .error fault) :
    arena.perform call = (.error fault, arena) := by
  cases call with
  | beginBody name => exact settle_error failed
  | endBody name size => exact settle_error failed
  | takeCode size align => exact settle_error failed
  | takeStub size align => exact settle_error failed
  | takeData size align => exact settle_error failed
  | takeGot => exact settle_error failed
  | removeBody name => exact settle_error failed
  | write address bytes => exact settle_error failed
  | read address size => exact Prod.ext failed rfl
  | gotAddress => cases failed
  | setWritable => cases failed
  | setExecutable => cases failed
  | refusedProtection refusal =>
      cases failed
      rfl
  | reset => cases failed
  | findBody name => cases failed
  | bodies => cases failed

/-! ### Runs -/

theorem carryOut_cons (arena : Arena) (call : ArenaCall) (rest : List ArenaCall) :
    carryOut arena (call :: rest) =
      ((arena.perform call).1 :: (carryOut (arena.perform call).2 rest).1,
        (carryOut (arena.perform call).2 rest).2) := by
  rw [← runOn_ofCall]
  rfl

theorem carryOut_append (arena : Arena) (earlier later : List ArenaCall) :
    carryOut arena (earlier ++ later) =
      ((carryOut arena earlier).1 ++ (carryOut (arena.performAll earlier) later).1,
        (carryOut (arena.performAll earlier) later).2) := by
  induction earlier generalizing arena with
  | nil => rfl
  | cons call rest ih =>
      rw [List.cons_append, carryOut_cons, ih, carryOut_cons]
      rfl

/-- After any calls, a call that fails leaves the arena in all its parts, and of all calls that
follow neither a reply nor the arena at the end shows that it was made. -/
theorem failed_call_is_forgotten {arena : Arena} {earlier : List ArenaCall} {call : ArenaCall}
    {fault : ArenaFault} (failed : ((arena.performAll earlier).perform call).1 = .error fault)
    (later : List ArenaCall) :
    let before := arena.performAll earlier
    (ofCall call).runOn before = (.error fault, before) ∧
      carryOut arena (earlier ++ later) =
        ((carryOut arena earlier).1 ++ (carryOut before later).1, (carryOut before later).2) ∧
      carryOut arena (earlier ++ call :: later) =
        ((carryOut arena earlier).1 ++ .error fault :: (carryOut before later).1,
          (carryOut before later).2) := by
  have unchanged := perform_error failed
  refine ⟨?_, carryOut_append arena earlier later, ?_⟩
  · rw [runOn_ofCall]
    exact unchanged
  · rw [carryOut_append, carryOut_cons, unchanged]

/-- A fresh mapping with a page for code. -/
def pageLease : Lease :=
  ⟨⟨0, ⟨0x300000, 1, 4096, 4096, 8, by decide⟩⟩, 0x300000, some 0, .zeros 8192⟩

/-- A body that leaves no room for the global offset table. -/
def crowding : List ArenaCall := [.beginBody "f", .write 0x300000 [1, 2, 3], .endBody "f" 4089]

/-- The table that found no room is not there afterwards, and can be taken once there is room. -/
theorem failed_call_is_forgotten_after_crowding :
    ∃ before, (Arena.ofLease pageLease).performAll crowding = before ∧
      (ofCall .takeGot).runOn before = (.error (.outOfMemory .stub 8 7), before) ∧
      (carryOut (.ofLease pageLease)
          (crowding ++ .takeGot :: [.gotAddress, .removeBody "f", .takeGot])).1.drop 3 =
        [.error (.outOfMemory .stub 8 7), .ok (.address none), .ok .done,
          .ok (.block ⟨0x300ff8, 4088, 8⟩)] := by
  have failed : (((Arena.ofLease pageLease).performAll crowding).perform .takeGot).1 =
      .error (.outOfMemory .stub 8 7) := by decide +kernel
  obtain ⟨unchanged, _, replies⟩ :=
    failed_call_is_forgotten failed [.gotAddress, .removeBody "f", .takeGot]
  refine ⟨_, rfl, unchanged, ?_⟩
  rw [replies]
  decide +kernel

end ArenaAction

end KernelStore
