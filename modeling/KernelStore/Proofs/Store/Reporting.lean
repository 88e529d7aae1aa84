import KernelStore.Proofs.Store.Atomicity
import KernelStore.Proofs.Store.Coherence
import KernelStore.Proofs.Store.Stages

/-!
What serving a request reports. Main statement: a kernel's origin, the two files and the diagnostics
tell the same of how the kernel was come by, in every combination of toggles, lookups, slots and
writes.
-/

namespace KernelStore

namespace Store

theorem placedReport_occupied {name : String} {lease : Lease} {arena : Arena}
    (occupies : arena.Occupies lease) : placedReport name arena.lease = placedReport name lease := by
  unfold placedReport Lease.isFixed
  rw [occupies.slot, occupies.address]

/-- The files hold the pair of a kernel that was written. -/
theorem read_of_written {disk : Disk} {files after : FileTree} {directory name : String}
    {lease : Lease} {metadata : Metadata}
    (written : Persist.write files disk (.inDirectory directory name) lease metadata =
      (.ok (), after)) :
    ∃ info, metadata.encode (UInt64.ofNat lease.address) lease.content = .ok info ∧
      after.read (StoredPaths.inDirectory directory name).info = .ok info ∧
      after.read (StoredPaths.inDirectory directory name).object = .ok lease.bytes := by
  have leaves := Persist.write_leaves files disk directory name lease metadata
  rw [written] at leaves
  exact leaves.2

end Store

open Store in
/-- A kernel from the files comes with no report and changes no file. A compiled one is written where
the store is on, the kernel is in a slot and the lookup did not miss because of a taken slot. Then
the files hold its pair, or a report says why writing failed; otherwise no file changes, and a
report says so if only the taken slot was in the way. A miss and a placement elsewhere are reported
before that. -/
theorem persisting_is_told {store : Store} {machine : Machine} {world : World}
    {request : CompileRequest} {generator : Generator} {kernel : Kernel}
    (served : (store.serve machine world request generator).result = .ok kernel) :
    let outcome := store.serve machine world request generator
    let paths := store.paths request.name
    let cached := store.toggles.enabled = true ∧ kernel.lease.isFixed = true
    let busy := store.isBusy machine.placement world request = true
    let early := store.missReport machine.placement world request ++
      placedReport request.name kernel.lease
    match kernel.origin with
    | .stored =>
        outcome.generation = none ∧ outcome.world.files = world.files ∧ outcome.diagnostics = []
    | .compiled true =>
        outcome.generation.isSome = true ∧ cached ∧ ¬busy ∧
          (∃ info, kernel.metadata.encode (UInt64.ofNat kernel.lease.address) kernel.lease.content =
              .ok info ∧
            outcome.world.files.read paths.info = .ok info ∧
            outcome.world.files.read paths.object = .ok kernel.lease.bytes) ∧
          outcome.diagnostics = early
    | .compiled false =>
        outcome.generation.isSome = true ∧
          ((¬cached ∧ outcome.world.files = world.files ∧ outcome.diagnostics = early) ∨
          (cached ∧ busy ∧ outcome.world.files = world.files ∧
            outcome.diagnostics = early ++ [skippedDiagnostic request.name]) ∨
          (cached ∧ ¬busy ∧ ∃ fault,
            Persist.write world.files machine.disk paths kernel.lease kernel.metadata =
              (.error fault, outcome.world.files) ∧
            outcome.diagnostics = early ++ [failedDiagnostic request.name fault])) := by
  have serving := store.serving machine world request generator
  generalize store.serve machine world request generator = outcome at serving served ⊢
  dsimp only
  cases serving with
  | found enabled notForced loaded =>
      cases served
      exact ⟨rfl, rfl, rfl⟩
  | compiled recovers compiling =>
      cases compiling with
      | refused allocated => cases served
      | notWritable allocated protection => cases served
      | failed allocated ran => cases served
      | notExecutable allocated ran protection => cases served
      | made allocated ran persist =>
          rename_i lease memory exchanges metadata emitted persisted files reported
          have occupies : emitted.Occupies lease := dialogue_occupies ran
          cases served
          dsimp only
          rw [placedReport_occupied occupies, ← List.append_assoc]
          cases persisting persist with
          | unwanted reason =>
              refine ⟨rfl, Or.inl ⟨?_, rfl, List.append_nil _⟩⟩
              rintro ⟨enabled, isFixed⟩
              rcases reason with disabled | elsewhere
              · cases disabled.symm.trans enabled
              · cases elsewhere.symm.trans isFixed
          | skipped enabled isFixed isBusy =>
              exact ⟨rfl, Or.inr (Or.inl ⟨⟨enabled, isFixed⟩, isBusy, rfl, rfl⟩)⟩
          | failed enabled isFixed idle written =>
              refine ⟨rfl, Or.inr (Or.inr ⟨⟨enabled, isFixed⟩, ?_, _, written, rfl⟩)⟩
              exact Bool.eq_false_iff.mp idle
          | written enabled isFixed idle written =>
              refine ⟨rfl, ⟨enabled, isFixed⟩, Bool.eq_false_iff.mp idle, ?_, List.append_nil _⟩
              exact read_of_written written

/-- A store with two slots. -/
def twinStore : Store :=
  ⟨⟨0, ⟨0x200000, 2, 4096, 4096, 8, by decide⟩⟩, "cache", {}, []⟩

def heldOutcome : Outcome :=
  twinStore.serve .standard { memory := { nextTable := 1 } } soloRequest returnGenerator

/-- The same request again, while the kernel of the first one is still held. -/
def busyOutcome : Outcome :=
  twinStore.serve .standard heldOutcome.world soloRequest returnGenerator

/-- The second kernel is compiled into the other slot, and the files of the first one stay. -/
theorem persisting_is_told_while_held :
    ∃ kernel, busyOutcome.result = .ok kernel ∧ kernel.origin = .compiled false ∧
      kernel.lease.slot = some 1 ∧ busyOutcome.world.files = heldOutcome.world.files ∧
      busyOutcome.diagnostics =
        [Miss.diagnostic ⟨.mapped, .slotInUse 0⟩, Store.skippedDiagnostic "k"] := by
  have recorded : busyOutcome.result.toOption.any (fun kernel =>
      kernel.origin = .compiled false ∧ kernel.lease.slot = some 1) = true := by decide +kernel
  have missed : twinStore.missed? Machine.standard.placement heldOutcome.world soloRequest =
      some ⟨.mapped, .slotInUse 0⟩ := by decide +kernel
  cases result : busyOutcome.result with
  | error fault =>
      rw [result] at recorded
      cases recorded
  | ok kernel =>
      rw [result] at recorded
      obtain ⟨origin, slot⟩ := of_decide_eq_true recorded
      have isFixed : kernel.lease.isFixed = true := by
        rw [Lease.isFixed, slot]
        rfl
      have enabled : twinStore.toggles.enabled = true := rfl
      have busy : twinStore.isBusy Machine.standard.placement heldOutcome.world soloRequest =
          true := by
        rw [Store.isBusy, missed]
        rfl
      have told := persisting_is_told result
      dsimp only at told
      rw [origin] at told
      refine ⟨kernel, rfl, origin, slot, ?_⟩
      unfold busyOutcome
      rcases told.2 with ⟨unwanted, _⟩ | ⟨_, _, files, diagnostics⟩ | ⟨_, idle, _⟩
      · exact absurd ⟨enabled, isFixed⟩ unwanted
      · refine ⟨files, diagnostics.trans ?_⟩
        rw [Store.missReport, missed, Store.placedReport, if_pos isFixed]
        rfl
      · exact absurd busy idle

end KernelStore
