import MishProxy.Rotation.Runtime
import MishProxy.Rotation.Restore

/-!
# The two records of an outstanding compensation

Whether mobile data still has to be enabled again is kept twice: by the mobile-data effect, in its
compensation bit, and by the rotation state machine, as the current operation's `restore_required`.
`compensation_released` proves that an ended operation which requires no restore leaves no
compensation behind, on every run in which

* a restore does not read the data as enabled while the compensation is owned,
* no rotation is started while the compensation is owned, and
* a disable takes the compensation only while its own operation is current and active.

Nothing in the source enforces the three. `restore_read_enabled` is a run without the first: the
disable never reached the device, the restore finds the data enabled and settles the operation, and
the effect keeps the compensation.

The invariant: an owned compensation is owed by the current operation, and each task knows what its
stage has made certain about the operation it runs for.
-/

namespace MishProxy.Rotation

open RotationStateMachine List Option Machine MobileData Session Net

/-! ## How far an operation is -/

/-- No call takes an operation back, apart from the phases between the enable and the second
probe, which count as one. -/
def RotationPhase.progress : RotationPhase → Nat
  | .idle | .preparing => 0
  | .dataDisabling => 1
  | .waitingCellularLoss => 2
  | .dataEnabling => 3
  | .waitingCellularRecovery | .waitingRootPolicy | .probingPublicIp => 4
  | .changed | .unchanged | .failed => 5

open RotationPhase

theorem progress_le (phase : RotationPhase) : phase.progress ≤ 5 := by
  cases phase <;> decide

variable {phase : RotationPhase}

theorem terminal_iff : phase.terminal = true ↔ 5 ≤ phase.progress := by
  cases phase <;> decide

theorem RotationPhase.progress_of_recovering (h : phase.recovering = true) :
    phase.progress ≤ 4 := by
  cases phase <;> first | decide | cases h

theorem progress_of_enabled (h : phase.enabled = true) : phase.progress = 4 := by
  cases phase <;> first | rfl | cases h

theorem progress_onOperation (op : RotationOperation) (call : OperationCall) :
    op.phase.progress ≤ (call.onOperation op).2.phase.progress := by
  cases (call.handles op).handled with
  | keeps hsame => rw [hsame.phase]
  | prepares hph =>
    rw [hph]
    exact Nat.zero_le _
  | starts hph hnext | restores hph hnext => rw [hph, hnext]
  | disables _ hph hnext =>
    rw [hph]
    rcases hnext with hnext | hnext <;> rw [hnext] <;> decide
  | loses hph hnext =>
    rw [hph, hnext]
    decide
  | recovers hph hnext =>
    rw [progress_of_enabled hnext]
    exact progress_of_recovering hph
  | fails _ hnext =>
    rw [hnext]
    exact progress_le _
  | ends _ hnext => exact (progress_le _).trans (terminal_iff.mp hnext)

/-! ## An operation whose disable is under way -/

structure Disabling (operation : RotationOperation) : Prop where
  phase : operation.phase = .dataDisabling
  required : operation.restoreRequired = true

section

variable {op : RotationOperation}

theorem Disabling.owes (h : Disabling op) : Owes op := ⟨h.required, .inl h.phase⟩

theorem Disabling.not_terminal (h : Disabling op) : op.phase.terminal = false := by
  rw [h.phase]
  rfl

/-- Only the report of the disable itself takes the operation further. -/
theorem Disabling.onOperation (h : Disabling op) {call : OperationCall}
    (hcall : call.reportsDisable = false) : (call.onOperation op).2.phase.terminal = true ∨
      Disabling (call.onOperation op).2 := by
  cases (call.handles op).handled with
  | keeps hsame => exact .inr ⟨hsame.phase.trans h.phase, hsame.required.trans h.required⟩
  | prepares hph | loses hph | ends hph | restores hph => cases hph.symm.trans h.phase
  | starts _ hnext hreqd => exact .inr ⟨hnext, hreqd⟩
  | disables hrpts => cases hcall.symm.trans hrpts
  | recovers hph => cases (congrArg _ h.phase).symm.trans hph
  | fails _ hnext =>
    left
    rw [hnext]
    rfl

end

/-! ## What the stage of a task makes certain -/

/-- The disable task has reported its mutation as started. -/
def DisableStage.started : DisableStage → Bool
  | .begun | .observing | .starting => false
  | .checking | .entering | .disabling | .reporting _ => true

/-- The restore is about to be recorded as successful. -/
def RestoreStage.settles : RestoreStage → Bool
  | .recording restore => restore.successful
  | _ => false

/-- What holds of the operation a task runs for, as long as that operation is the current
one. -/
def TaskStage.Fits (owned : Bool) (operation : RotationOperation) : TaskStage → Prop
  | .disableData stage =>
    1 ≤ operation.phase.progress ∧
      (stage.started = true → operation.phase.terminal = true ∨ Disabling operation) ∧
      (stage = .reporting .rejected → operation.phase.terminal = true ∨ owned = false)
  | .enableData stage =>
    3 ≤ operation.phase.progress ∧
      (stage = .reporting .applied → operation.phase.terminal = true ∨ owned = false)
  | .restoreEnabled stage =>
    operation.phase.terminal = true ∧ (stage.settles = true → owned = false)
  | .draining _ => operation.phase.terminal = true
  | .deadline | .beforeIp _ | .afterIp _ | .failing _ => True

def TaskStage.disables : TaskStage → Bool
  | .disableData _ => true
  | _ => false

section

variable {owned : Bool} {op : RotationOperation} {stage : TaskStage}

theorem terminal_onOperation (h : op.phase.terminal = true) (call : OperationCall) :
    (call.onOperation op).2.phase.terminal = true := by
  rw [terminal_iff] at h ⊢
  exact h.trans (progress_onOperation op call)

variable (h : stage.Fits owned op)
include h

theorem TaskStage.Fits.onOperation {call : OperationCall}
    (hcall : call.reportsDisable = false ∨ stage.disables = false) :
    stage.Fits owned (call.onOperation op).2 := by
  have hprogress := progress_onOperation op call
  have hterm : op.phase.terminal = true →
      (call.onOperation op).2.phase.terminal = true := (terminal_onOperation · call)
  cases stage with
  | disableData stage =>
    obtain ⟨hfar, hstrt, hrej⟩ := h
    refine ⟨hfar.trans hprogress, fun hs => ?_, fun hs => (hrej hs).imp_left hterm⟩
    rcases hstrt hs with hended | hdis
    · exact .inl (hterm hended)
    · exact hdis.onOperation (hcall.resolve_right Bool.noConfusion)
  | enableData stage => exact ⟨h.1.trans hprogress, fun hs => (h.2 hs).imp_left hterm⟩
  | restoreEnabled stage => exact ⟨hterm h.1, h.2⟩
  | draining forceRestore => exact hterm h
  | deadline | beforeIp stage | afterIp stage | failing failure => trivial

theorem TaskStage.Fits.release : stage.Fits false op := by
  cases stage with
  | disableData stage => exact ⟨h.1, h.2.1, fun _ => .inr rfl⟩
  | enableData stage => exact ⟨h.1, fun _ => .inr rfl⟩
  | restoreEnabled stage => exact ⟨h.1, fun _ => rfl⟩
  | draining forceRestore => exact h
  | deadline | beforeIp stage | afterIp stage | failing failure => trivial

/-- While the disable is under way no other task of the operation has a stage that excludes
an owned compensation. -/
theorem TaskStage.Fits.take (hdis : Disabling op)
    (hstg : stage.disables = false) : stage.Fits true op := by
  cases stage with
  | disableData stage => cases hstg
  | enableData stage =>
    have hfar := h.1
    rw [hdis.phase] at hfar
    exact absurd hfar (by decide)
  | restoreEnabled stage => exact absurd h.1 (by simp [hdis.not_terminal])
  | draining forceRestore => exact h
  | deadline | beforeIp stage | afterIp stage | failing failure => trivial

end

/-! ## The invariant -/

def RotationRuntime.withOperation (s : RotationRuntime) (operation : RotationOperation) :
    RotationRuntime :=
  { s with machine := { s.machine with current := some operation } }

/-- A disable task of the operation. -/
def RotationTask.disablesFor (operationId : Nat) (task : RotationTask) : Bool :=
  task.operation == operationId && task.stage.disables

structure Booked (s : RotationRuntime) : Prop where
  owes : s.compensationOwned = true →
    ∃ operation, s.machine.current = some operation ∧ Owes operation
  current : ∀ operation, s.machine.current = some operation →
    operation.id < s.machine.nextOperationId
  announced : ∀ snapshot ∈ s.announced,
    (∀ id, snapshot.operationId = some id → id < s.machine.nextOperationId) ∧
    ∀ operation, s.machine.current = some operation → snapshot.operationId = some operation.id →
      snapshot.phase.progress ≤ operation.phase.progress
  tasks : ∀ task ∈ s.tasks, task.operation < s.machine.nextOperationId ∧
    ∀ operation, s.machine.current = some operation → operation.id = task.operation →
      task.stage.Fits s.compensationOwned operation
  single : ∀ operation, s.machine.current = some operation →
    s.tasks.countP (·.disablesFor operation.id) ≤ 1 ∧
    (0 < s.tasks.countP (·.disablesFor operation.id) →
      (operation.id, .disableData) ∈ s.claimed)

/-- What a task outside of the list needs to be in it. -/
structure Held (s : RotationRuntime) (operationId : Nat) (stage : TaskStage) : Prop where
  below : operationId < s.machine.nextOperationId
  fits : ∀ operation, s.machine.current = some operation → operation.id = operationId →
    stage.Fits s.compensationOwned operation
  sole : stage.disables = true → ∀ operation, s.machine.current = some operation →
    operation.id = operationId →
      s.tasks.countP (·.disablesFor operationId) = 0 ∧ (operationId, .disableData) ∈ s.claimed

open RotationRuntime RotationTask

namespace Booked

variable {s : RotationRuntime} {opId : Nat} {stage next : TaskStage}

theorem new : Booked .new where
  owes := by simp [RotationRuntime.new]
  current := by simp [RotationRuntime.new, RotationStateMachine.new]
  announced := by simp [RotationRuntime.new]
  tasks := by simp [RotationRuntime.new]
  single := by simp [RotationRuntime.new]

variable (h : Booked s)
include h

theorem resume (hheld : Held s opId stage) : Booked (s.resume opId stage) where
  owes := h.owes
  current := h.current
  announced := h.announced
  tasks := by
    refine forall_mem_cons.mpr ⟨⟨hheld.below, hheld.fits⟩, h.tasks⟩
  single op hop := by
    have hsing := h.single op hop
    show (countP _ (_ :: s.tasks)) ≤ 1 ∧ (0 < countP _ (_ :: s.tasks) → _)
    rw [countP_cons]
    split
    · rename_i hdisb
      simp only [disablesFor, Bool.and_eq_true, beq_iff_eq] at hdisb
      obtain ⟨rfl, hstg⟩ := hdisb
      obtain ⟨hzero, hclaimed⟩ := hheld.sole hstg op hop rfl
      exact ⟨by omega, fun _ => hclaimed⟩
    · exact hsing

theorem take_task {task} (htask : task ∈ s.tasks) : Booked { s with tasks := s.tasks.erase task } ∧
      Held { s with tasks := s.tasks.erase task } task.operation task.stage := by
  have hcount (id : Nat) : s.tasks.countP (·.disablesFor id) =
      (s.tasks.erase task).countP (·.disablesFor id) + if task.disablesFor id then 1 else 0 := by
    rw [(perm_cons_erase htask).countP_eq, countP_cons]
  refine ⟨⟨h.owes, h.current, h.announced, fun other hoth =>
    h.tasks other (mem_of_mem_erase hoth), fun op hop => ?_⟩,
    ⟨(h.tasks task htask).1, (h.tasks task htask).2, fun hstg op hop hid => ?_⟩⟩
  · obtain ⟨hle, hclaimed⟩ := h.single op hop
    have hsplit := hcount op.id
    exact ⟨by dsimp only; omega, fun hpos => hclaimed (by dsimp only at hpos; omega)⟩
  · obtain ⟨hle, hclaimed⟩ := h.single op hop
    have hsplit := hcount op.id
    have hdisb : task.disablesFor op.id = true := by
      simp [disablesFor, hid, hstg]
    rw [hdisb, if_pos rfl] at hsplit
    rw [← hid]
    exact ⟨by dsimp only; omega, hclaimed (by omega)⟩

variable {op : RotationOperation}

theorem onOperation (hop : s.machine.current = some op)
    {call : OperationCall} (hsett : call.settles = true → s.compensationOwned = false)
    (hrpt : call.reportsDisable = false ∨ s.tasks.countP (·.disablesFor op.id) = 0) :
    Booked (s.withOperation (call.onOperation op).2) := by
  have hid := onOperation_id op call
  refine ⟨fun howned => ?_, fun new hnew => ?_, fun snap hsnap =>
    ⟨(h.announced snap hsnap).1, fun new hnew hof => ?_⟩, fun task htask =>
    ⟨(h.tasks task htask).1, fun new hnew hof => ?_⟩, fun new hnew => ?_⟩
  · obtain ⟨owing, howing, howes⟩ := h.owes howned
    obtain rfl : op = owing := some.inj (hop.symm.trans howing)
    rcases howes.onOperation call with hstill | ⟨-, hstd⟩
    · exact ⟨_, rfl, hstill⟩
    · have hnot := hsett hstd
      exact absurd (hnot.symm.trans howned) Bool.false_ne_true
  all_goals
    obtain rfl : (call.onOperation op).2 = new := some.inj hnew
    rw [hid] at *
  · exact h.current op hop
  · exact ((h.announced snap hsnap).2 op hop hof).trans
      (progress_onOperation op call)
  · refine ((h.tasks task htask).2 op hop hof).onOperation (hrpt.imp_right ?_)
    intro hnone
    have hnot := countP_eq_zero.mp hnone task htask
    simpa [disablesFor, hof] using hnot
  · exact h.single op hop

theorem announce (hop : s.machine.current = some op) :
    Booked { s with announced := op.snapshot :: s.announced } := by
  refine ⟨h.owes, h.current, forall_mem_cons.mpr ⟨⟨fun id hid => ?_, fun other hoth _ => ?_⟩,
    h.announced⟩, h.tasks, h.single⟩
  · obtain rfl : op.id = id := some.inj hid
    exact h.current op hop
  · obtain rfl : op = other := some.inj (hop.symm.trans hoth)
    exact le_rfl

theorem release (released : Bool) : Booked (s.release released) := by
  cases released with
  | false => exact h
  | true =>
    exact ⟨by rintro ⟨⟩, h.current, h.announced, fun task htask => ⟨(h.tasks task htask).1,
      fun op hop hof => ((h.tasks task htask).2 op hop hof).release⟩, h.single⟩

theorem take (hop : s.machine.current = some op)
    (hdis : Disabling op) (hnone : s.tasks.countP (·.disablesFor op.id) = 0) :
    Booked { s with compensationOwned := true } := by
  refine ⟨fun _ => ⟨op, hop, hdis.owes⟩, h.current, h.announced,
    fun task htask => ⟨(h.tasks task htask).1, fun other hoth hof => ?_⟩, h.single⟩
  have hfits := (h.tasks task htask).2 other hoth hof
  obtain rfl : op = other := some.inj (hop.symm.trans hoth)
  have hnot := countP_eq_zero.mp hnone task htask
  exact hfits.take hdis (by simpa [disablesFor, hof] using hnot)

end Booked

/-! ## What the functions of the runtime do to the machine -/

section

variable {s : RotationRuntime} {opId : Nat}

theorem snapshot_operationId_iff : s.machine.snapshot.operationId = some opId ↔
      ∃ op, s.machine.current = some op ∧ op.id = opId := by
  unfold snapshot
  cases s.machine.current with
  | none => simp [RotationSnapshot.idle]
  | some op => simp [RotationOperation.snapshot]

theorem snapshot_of_current {op} (hop : s.machine.current = some op) :
    s.machine.snapshot = op.snapshot := by
  rw [snapshot, hop, elim_some]

theorem operationCurrent_iff : s.operationCurrent opId = true ↔
    s.closed = false ∧ ∃ op, s.machine.current = some op ∧
      op.id = opId ∧ op.phase.terminal = false := by
  unfold operationCurrent snapshot
  cases s.machine.current with
  | none => simp [RotationSnapshot.idle]
  | some op => simp [RotationOperation.snapshot, and_assoc]

variable (s) in
theorem onCurrent_of_current {op} (call) (hop : s.machine.current = some op) :
    s.machine.onCurrent op.id call =
      ((call.onOperation op).1.map fun _ => (call.onOperation op).2.snapshot,
        (s.withOperation (call.onOperation op).2).machine) := by
  unfold onCurrent
  rw [hop]
  exact if_neg (not_not.mpr rfl)

/-- A transition is refused for another operation, or it changes the operation and is
announced when it is accepted. -/
theorem transition_cases (s : RotationRuntime) (opId : Nat) (call : OperationCall) :
    s.transition opId call = (false, s) ∨ ∃ op, s.machine.current = some op ∧ op.id = opId ∧
      ((call.onOperation op).1.isOk = false ∧ s.transition opId call =
          (false, s.withOperation (call.onOperation op).2) ∨
        (call.onOperation op).1.isOk = true ∧ s.transition opId call =
          (true, { s.withOperation (call.onOperation op).2 with
            announced := (call.onOperation op).2.snapshot :: s.announced })) := by
  by_cases hof : s.machine.snapshot.operationId = some opId
  · obtain ⟨op, hop, rfl⟩ := snapshot_operationId_iff.mp hof
    refine .inr ⟨op, hop, rfl, ?_⟩
    unfold transition
    rw [onCurrent_of_current s call hop]
    cases hres : (call.onOperation op).1 with
    | error e => exact .inl ⟨rfl, rfl⟩
    | ok u => exact .inr ⟨rfl, rfl⟩
  · left
    rw [snapshot_operationId_iff] at hof
    unfold transition onCurrent
    cases hcur : s.machine.current with
    | none => rfl
    | some op =>
      have hne : op.id ≠ opId := fun heq => hof ⟨op, hcur, heq⟩
      simp only [if_pos hne]

end

/-! ## The tasks keep the invariant -/

namespace Held

variable {s : RotationRuntime} {opId : Nat} {stage next : TaskStage}

theorem follow (h : Held s opId stage) (hfits : ∀ op, stage.Fits s.compensationOwned op →
      next.Fits s.compensationOwned op)
    (hdisb : next.disables = true → stage.disables = true) : Held s opId next where
  below := h.below
  fits op hop hof := hfits op (h.fits op hop hof)
  sole hnext := h.sole (hdisb hnext)

theorem plain (hbelow : opId < s.machine.nextOperationId)
    (hfits : ∀ op, next.Fits s.compensationOwned op)
    (hdisb : next.disables = false) : Held s opId next where
  below := hbelow
  fits op _ _ := hfits op
  sole hnext := absurd hnext (by simp [hdisb])

theorem failing (h : Held s opId stage) (failure) :
    Held s opId (.failing failure) := plain h.below (fun _ => trivial) rfl

theorem release (h : Held s opId stage) (released : Bool) :
    Held (s.release released) opId stage := by
  cases released with
  | false => exact h
  | true => exact ⟨h.below, fun op hop hof => (h.fits op hop hof).release, h.sole⟩

end Held

theorem mutationReport_eq_rejected {res}
    (h : mutationReport res = some .rejected) : res = .error .mutationRejected := by
  unfold mutationReport at h
  split at h <;> first | rfl | cases h

theorem mutationReport_eq_applied {res}
    (h : mutationReport res = some .applied) : res = .ok () := by
  unfold mutationReport at h
  split at h <;> first | rfl | cases h

theorem enableResult_eq_ok {out readback}
    (h : enableResult out readback = .ok ()) : readback = .ok .enabled := by
  unfold enableResult at h
  split at h <;> first | rfl | cases h

@[simp] theorem compensationOwned_release (s : RotationRuntime) (released : Bool) :
    (s.release released).compensationOwned = (s.compensationOwned && !released) := by
  cases released <;> simp [release]

namespace Booked

variable {s : RotationRuntime} {opId : Nat} {stage next : TaskStage} {call : OperationCall}

variable (h : Booked s)
include h

theorem transition (hsett : call.settles = true → ∀ op, s.machine.current = some op →
      op.id = opId → s.compensationOwned = false)
    (hrpt : call.reportsDisable = false ∨ ∀ op, s.machine.current = some op → op.id = opId →
        s.tasks.countP (·.disablesFor opId) = 0) : Booked (s.transition opId call).2 ∧
      (s.transition opId call).2.machine.nextOperationId = s.machine.nextOperationId := by
  rcases transition_cases s opId call with
    heq | ⟨op, hop, rfl, ⟨-, heq⟩ | ⟨-, heq⟩⟩
  · rw [heq]
    exact ⟨h, rfl⟩
  all_goals
    have hmoved := h.onOperation hop (hsett · op hop rfl)
      (hrpt.imp_right (· op hop rfl))
    rw [heq]
  · exact ⟨hmoved, rfl⟩
  · exact ⟨hmoved.announce rfl, rfl⟩

theorem transitionCurrent (hsett : call.settles = true → ∀ op, s.machine.current = some op →
      op.id = opId → op.phase.terminal = false → s.compensationOwned = false)
    (hrpt : call.reportsDisable = false ∨ ∀ op, s.machine.current = some op → op.id = opId →
        s.tasks.countP (·.disablesFor opId) = 0) : Booked (s.transitionCurrent opId call) := by
  unfold RotationRuntime.transitionCurrent
  split
  · rename_i hcur
    obtain ⟨-, op, hop, hof, hact⟩ := operationCurrent_iff.mp hcur
    refine (h.transition (fun hcall other hoth hid => ?_) hrpt).1
    obtain rfl : op = other := some.inj (hop.symm.trans hoth)
    exact hsett hcall op hop hof hact
  · exact h

theorem transition_plain (opId : Nat) (hsett : call.settles = false)
    (hrpt : call.reportsDisable = false) : Booked (s.transition opId call).2 ∧
      (s.transition opId call).2.machine.nextOperationId = s.machine.nextOperationId :=
  h.transition (fun hcall => absurd hcall (by simp [hsett])) (.inl hrpt)

theorem transitionCurrent_plain (hsett : call.settles = false)
    (hrpt : call.reportsDisable = false) : Booked (s.transitionCurrent opId call) :=
  h.transitionCurrent (fun hcall => absurd hcall (by simp [hsett])) (.inl hrpt)

theorem fail (hheld : Held s opId stage) (failure) : Booked (s.resume opId (.failing failure)) :=
  h.resume (hheld.failing failure)

theorem transitionOrFail (hheld : Held s opId stage) (hsett : call.settles = false)
    (hrpt : call.reportsDisable = false) (failure) :
    Booked (s.transitionOrFail opId call failure) := by
  obtain ⟨hmoved, hids⟩ := h.transition_plain opId hsett hrpt
  unfold RotationRuntime.transitionOrFail
  split
  · generalize s.transition opId call = out at hmoved hids
    obtain ⟨accepted, after⟩ := out
    cases accepted with
    | true => exact hmoved
    | false => exact hmoved.resume (.plain (hids ▸ hheld.below) (fun _ => trivial) rfl)
  · exact h

theorem runBeforeIp {stage} (input) (hheld : Held s opId (.beforeIp stage)) :
    Booked (s.runBeforeIp opId stage input) := by
  have hnext (next : BeforeIpStage) : Booked (s.resume opId (.beforeIp next)) :=
    h.resume (.plain hheld.below (fun _ => trivial) rfl)
  unfold RotationRuntime.runBeforeIp
  split
  · split
    · exact hnext _
    · exact h
  · split
    · exact hnext _
    · exact h.fail hheld _
  · exact h.fail hheld _
  · exact h.fail hheld _
  · exact h.transitionOrFail hheld rfl rfl _
  · exact hnext _

theorem runAfterIp {stage} (input) (hheld : Held s opId (.afterIp stage)) :
    Booked (s.runAfterIp opId stage input) := by
  have hnext (next : AfterIpStage) : Booked (s.resume opId (.afterIp next)) :=
    h.resume (.plain hheld.below (fun _ => trivial) rfl)
  unfold RotationRuntime.runAfterIp
  split
  · split
    · exact hnext _
    · exact h
  · split
    · exact hnext _
    · exact h.fail hheld _
  · exact h.fail hheld _
  · exact h.fail hheld _
  · split
    · exact hnext _
    · exact h.fail hheld _
  · exact h.transitionOrFail hheld rfl rfl _
  · exact hnext _

theorem mutationStarted (hheld : Held s opId (.disableData .starting)) {after}
    (hafter : s.transition opId .dataDisableMutationStarted = (true, after)) :
    Booked (after.resume opId (.disableData .checking)) := by
  have hmoved : Booked (s.transition opId .dataDisableMutationStarted).2 :=
    (h.transition_plain opId rfl rfl).1
  rw [hafter] at hmoved
  refine hmoved.resume ?_
  rcases transition_cases s opId .dataDisableMutationStarted with
    heq | ⟨op, hop, rfl, ⟨-, heq⟩ | ⟨hok, heq⟩⟩
  · cases hafter.symm.trans heq
  · cases hafter.symm.trans heq
  · have hid := onOperation_id op .dataDisableMutationStarted
    obtain ⟨hph, hreqd⟩ := started_of_accepted hok
    have hdis : Disabling _ := ⟨hph, hreqd⟩
    cases hafter.symm.trans heq
    refine ⟨hheld.below, fun new hnew _ => ?_, fun _ new hnew _ => hheld.sole rfl op hop rfl⟩
    cases hnew
    refine ⟨?_, fun _ => .inr hdis, by simp⟩
    rw [hdis.phase]
    exact le_rfl

theorem runDisableData {stage} (input) (hheld : Held s opId (.disableData stage))
    (hentering : stage = .entering → input = .next → s.compensationOwned = false →
      ∃ op, s.machine.current = some op ∧ op.id = opId ∧ op.phase.terminal = false) :
    Booked (s.runDisableData opId stage input) := by
  unfold RotationRuntime.runDisableData
  split
  · split
    · exact h.resume (hheld.follow (fun _ hfits => ⟨hfits.1, by rintro ⟨⟩, by rintro ⟨⟩⟩) id)
    · exact h
  · split
    · exact h.resume (hheld.follow (fun _ hfits => ⟨hfits.1, by rintro ⟨⟩, by rintro ⟨⟩⟩) id)
    · exact h.fail hheld _
    · exact h.fail hheld _
  · exact h.fail hheld _
  · split
    · split
      · exact h.mutationStarted hheld ‹_›
      · rename_i after hafter
        have hmoved : Booked (s.transition opId .dataDisableMutationStarted).2 :=
          (h.transition_plain opId rfl rfl).1
        rwa [hafter] at hmoved
    · exact h
  · split
    · exact h
    · exact h.resume (hheld.follow (fun _ hfits => ⟨hfits.1, fun _ => hfits.2.1 rfl, by simp⟩) id)
  · split
    · exact h.resume (hheld.follow (fun _ hfits => ⟨hfits.1, fun _ => hfits.2.1 rfl, by simp⟩) id)
    · rename_i hfree
      obtain ⟨op, hop, rfl, hact⟩ := hentering rfl rfl (by simpa using hfree)
      have hfits := hheld.fits op hop rfl
      have hdis : Disabling op := (hfits.2.1 rfl).resolve_left (by simp [hact])
      have hsole := hheld.sole rfl op hop rfl
      refine (h.take hop hdis hsole.1).resume
        ⟨hheld.below, fun other hoth _ => ?_, fun _ _ _ _ => hsole⟩
      obtain rfl : op = other := some.inj (hop.symm.trans hoth)
      exact ⟨hfits.1, fun _ => .inr hdis, by simp⟩
  · rename_i ans
    have hrel := h.release (decide (disableResult ans = .error .mutationRejected))
    have hheld := hheld.release (decide (disableResult ans = .error .mutationRejected))
    dsimp only
    split
    · rename_i out hout
      refine hrel.resume (hheld.follow (fun _ hfits =>
        ⟨hfits.1, fun _ => hfits.2.1 rfl, fun hrej => .inr ?_⟩) id)
      cases hrej
      simp [mutationReport_eq_rejected hout]
    · exact hrel.fail hheld _
  · exact h.resume (hheld.follow (fun _ hfits => ⟨hfits.1, fun _ => hfits.2.1 rfl, by simp⟩) id)
  · rename_i out
    refine h.transitionCurrent (fun hsett op hop hof hact => ?_)
      (.inr fun op hop hof => (hheld.sole rfl op hop hof).1)
    have hrej : out = .rejected := by cases out <;> first | rfl | cases hsett
    subst hrej
    exact ((hheld.fits op hop hof).2.2 rfl).resolve_left (by simp [hact])
  · exact h.resume hheld

theorem runEnableData {stage} (input) (hheld : Held s opId (.enableData stage)) :
    Booked (s.runEnableData opId stage input) := by
  have hnext {next : EnableStage} (hstg : next ≠ .reporting .applied) :
      Booked (s.resume opId (.enableData next)) :=
    h.resume (hheld.follow (fun _ hfits => ⟨hfits.1, fun heq => absurd heq hstg⟩) (by rintro ⟨⟩))
  unfold RotationRuntime.runEnableData
  split
  · split
    · exact hnext (by simp)
    · exact h
  · split
    · exact hnext (by simp)
    · exact h.fail hheld _
  · exact hnext (by simp)
  · rename_i out ans
    have hrel := h.release (decide (observeResult ans = .ok .enabled))
    have hheld := hheld.release (decide (observeResult ans = .ok .enabled))
    dsimp only
    split
    · rename_i report hrpt
      refine hrel.resume (hheld.follow (fun _ hfits =>
        ⟨hfits.1, fun happlied => .inr ?_⟩) (by rintro ⟨⟩))
      cases happlied
      simp [enableResult_eq_ok (mutationReport_eq_applied hrpt)]
    · exact hrel.fail hheld _
  · exact hnext (by simp)
  · exact hnext (by simp)
  · rename_i out
    refine h.transitionCurrent (fun hsett op hop hof hact => ?_) (.inl rfl)
    have happlied : out = .applied := by cases out <;> first | rfl | cases hsett
    subst happlied
    exact ((hheld.fits op hop hof).2 rfl).resolve_left (by simp [hact])
  · exact h.resume hheld

theorem restoreEnabledDirect {stage} (input) (hheld : Held s opId (.restoreEnabled stage))
    (hreading : stage = .observing ∨ stage = .observingAgain → ∀ ans, input = .answer ans →
      observeResult ans = .ok .enabled → s.compensationOwned = false) :
    Booked (s.restoreEnabledDirect opId stage input) := by
  have hnext {next : RestoreStage} (hstg : next.settles = false) {s : RotationRuntime}
      (h : Booked s) (hheld : Held s opId (.restoreEnabled stage)) :
      Booked (s.resume opId (.restoreEnabled next)) :=
    h.resume (hheld.follow (fun _ hfits => ⟨hfits.1, fun hs => absurd hs (by simp [hstg])⟩)
      (by rintro ⟨⟩))
  have hread (restore : RotationRestoreResult) (hfree : s.compensationOwned = false) :
      Booked (s.resume opId (.restoreEnabled (.recording restore))) :=
    h.resume (hheld.follow (fun _ hfits => ⟨hfits.1, fun _ => hfree⟩) (by rintro ⟨⟩))
  unfold RotationRuntime.restoreEnabledDirect
  split
  · rename_i ans
    split
    · exact hread _ (hreading (.inl rfl) ans rfl ‹_›)
    · exact hnext rfl h hheld
    · exact hnext rfl h hheld
  · exact hnext rfl h hheld
  · exact hnext rfl h hheld
  · split
    · exact hnext rfl h hheld
    · exact hnext rfl h hheld
  · exact hnext rfl h hheld
  · rename_i out ans
    have hrel := h.release (decide (observeResult ans = .ok .enabled))
    have hheld := hheld.release (decide (observeResult ans = .ok .enabled))
    dsimp only
    split
    · exact hnext rfl hrel hheld
    · exact hnext rfl hrel hheld
    · exact hnext rfl hrel hheld
    · exact hnext rfl hrel hheld
  · exact hnext rfl h hheld
  · exact hnext rfl h hheld
  · rename_i ans
    split
    · exact hread _ (hreading (.inr rfl) ans rfl ‹_›)
    · exact hnext rfl h hheld
    · exact hnext rfl h hheld
  · rename_i restore
    split
    · rename_i hcur
      obtain ⟨op, hop, rfl⟩ := snapshot_operationId_iff.mp hcur.1
      rw [onCurrent_of_current s _ hop]
      exact h.onOperation hop
        (hheld.fits op hop rfl).2 (.inl rfl)
    · exact h
  · exact h.resume hheld

end Booked

/-! ## The calls from outside -/

namespace Booked

variable {s : RotationRuntime} {opId : Nat}

variable (h : Booked s)
include h

theorem prepare {beforeGeneration : Nat}
    (hfree : s.closed = false → (s.machine.start beforeGeneration).1.isOk = true →
      s.compensationOwned = false) : Booked (s.prepare beforeGeneration) := by
  unfold RotationRuntime.prepare
  split
  · exact h
  · rename_i hopen
    split
    · rename_i id machine hstart
      have hnot := hfree (by simpa using hopen) (by rw [hstart]; rfl)
      obtain rfl : machine = ⟨s.machine.nextOperationId + 1,
          some (.started s.machine.nextOperationId beforeGeneration)⟩ := by
        unfold start at hstart
        split_ifs at hstart <;> cases hstart
        rfl
      -- nothing in the lists is about the new operation
      refine ⟨fun howned => absurd (hnot.symm.trans howned) Bool.false_ne_true, fun new hnew => ?_,
        fun snap hsnap => ?_, fun task htask => ?_, fun new hnew => ?_⟩
      · cases hnew
        exact Nat.lt_succ_self _
      · have hbelow := (h.announced snap hsnap).1
        refine ⟨fun id hid => Nat.lt_succ_of_lt (hbelow id hid), fun new hnew hof => ?_⟩
        cases hnew
        exact absurd (hbelow _ hof) (Nat.lt_irrefl _)
      · have hbelow := (h.tasks task htask).1
        refine ⟨Nat.lt_succ_of_lt hbelow, fun new hnew hof => ?_⟩
        cases hnew
        exact absurd hof (Nat.ne_of_gt hbelow)
      · cases hnew
        have hnone : s.tasks.countP
            (·.disablesFor s.machine.nextOperationId) = 0 := by
          refine countP_eq_zero.mpr fun task htask hdisb => ?_
          have hbelow := (h.tasks task htask).1
          simp only [disablesFor, Bool.and_eq_true, beq_iff_eq] at hdisb
          omega
        exact ⟨hnone.trans_le (Nat.zero_le 1), fun hpos => absurd hnone (Nat.ne_of_gt hpos)⟩
    · exact h

theorem activatePrepared (opId : Nat) : Booked (s.activatePrepared opId) := by
  unfold RotationRuntime.activatePrepared
  split
  · exact h
  · rename_i hready
    simp only [not_or, not_not] at hready
    obtain ⟨op, hop, rfl⟩ := snapshot_operationId_iff.mp hready.2.2.1
    rw [snapshot_of_current hop]
    have hdead : Held s op.id .deadline := .plain (h.current op hop) (fun _ => trivial) rfl
    have hann := (h.resume hdead).announce hop
    exact ⟨hann.owes, hann.current, hann.announced, hann.tasks, hann.single⟩

variable {op : RotationOperation}

theorem no_disable_of_preparing (hop : s.machine.current = some op)
    (hph : op.phase = .preparing) : s.tasks.countP (·.disablesFor op.id) = 0 := by
  refine countP_eq_zero.mpr fun task htask hdisb => ?_
  simp only [disablesFor, Bool.and_eq_true, beq_iff_eq] at hdisb
  have hfits := (h.tasks task htask).2 op hop hdisb.1.symm
  cases hstg : task.stage with
  | disableData stage =>
    rw [hstg] at hfits
    have hfar := hfits.1
    rw [hph] at hfar
    exact absurd hfar (by decide)
  | _ => simp [hstg, TaskStage.disables] at hdisb

theorem failPreparedBeforeMutation (opId : Nat) : Booked (s.failPreparedBeforeMutation opId) := by
  unfold RotationRuntime.failPreparedBeforeMutation
  split
  · rename_i hpreparing
    obtain ⟨op, hop, rfl⟩ := snapshot_operationId_iff.mp hpreparing.1
    rw [snapshot_of_current hop] at hpreparing
    have hnone := h.no_disable_of_preparing hop hpreparing.2
    rw [onCurrent_of_current s _ hop]
    have hfail : Booked
        (s.withOperation ((OperationCall.fail .stateUnavailable).onOperation op).2) :=
      h.onOperation hop (by rintro ⟨⟩) (.inl rfl)
    refine ⟨hfail.owes, hfail.current, hfail.announced, hfail.tasks, fun new hnew => ?_⟩
    cases hnew
    rw [onOperation_id]
    exact ⟨hnone.trans_le (Nat.zero_le 1), fun hpos => absurd hnone (Nat.ne_of_gt hpos)⟩
  · exact h

theorem observe {call} (hsett : call.settles = false)
    (hrpt : call.reportsDisable = false) : Booked (s.observe call) := by
  unfold RotationRuntime.observe
  split
  · exact h.transitionCurrent_plain hsett hrpt
  · exact h

theorem observeCellular (gen admitted networkLost) :
    Booked (s.observeCellular gen admitted networkLost) := by
  unfold RotationRuntime.observeCellular
  split
  · exact h
  · exact h.observe rfl rfl

theorem drain (hop : s.machine.current = some op)
    (hended : op.phase.terminal = true) (closed forceRestore : Bool) : Booked { s with
      closed := closed
      tasks := ⟨op.id, .draining forceRestore⟩ :: s.tasks } := by
  have hheld : Held s op.id (.draining forceRestore) := by
    refine ⟨h.current op hop, fun other hoth _ => ?_, by rintro ⟨⟩⟩
    obtain rfl : op = other := some.inj (hop.symm.trans hoth)
    exact hended
  have hbooked := h.resume hheld
  exact ⟨hbooked.owes, hbooked.current, hbooked.announced, hbooked.tasks, hbooked.single⟩

theorem shutdown : Booked s.shutdown := by
  unfold RotationRuntime.shutdown
  split
  · exact h
  · split
    · exact ⟨h.owes, h.current, h.announced, h.tasks, h.single⟩
    · rename_i opId hid
      obtain ⟨op, hop, rfl⟩ := snapshot_operationId_iff.mp hid
      simp only [snapshot_of_current hop, onCurrent_of_current s _ hop]
      split
      · exact h.drain hop ‹_› true _
      · rename_i hact
        change ¬ op.phase.terminal = true at hact
        have hfail : Booked
            (s.withOperation ((OperationCall.fail .stateUnavailable).onOperation op).2) :=
          h.onOperation hop (by rintro ⟨⟩) (.inl rfl)
        have hended : ((OperationCall.fail .stateUnavailable).onOperation
            op).2.phase.terminal = true := by
          simp only [OperationCall.onOperation, RotationOperation.active]
          rw [if_neg hact]
          rfl
        have hid := onOperation_id op (.fail .stateUnavailable)
        have hdrained := hfail.drain rfl hended true
        rw [hid] at hdrained
        exact hdrained _

omit h

/-- A phase that asks for a task has made certain what its first stage needs. -/
theorem firstStage_fits {snap : RotationSnapshot} {act : RotationAction}
    (hactn : snap.action = some act)
    (hfar : snap.phase.progress ≤ op.phase.progress) (owned : Bool) :
    act.firstStage.Fits owned op := by
  unfold RotationSnapshot.action at hactn
  split at hactn
  · cases hactn
    trivial
  · rename_i hph
    cases hactn
    rw [hph] at hfar
    exact ⟨hfar, by rintro ⟨⟩, by rintro ⟨⟩⟩
  · rename_i hph
    cases hactn
    rw [hph] at hfar
    exact ⟨hfar, by simp⟩
  · cases hactn
    trivial
  · rename_i hph
    split at hactn
    · cases hactn
      rw [hph] at hfar
      exact ⟨terminal_iff.mpr hfar, by rintro ⟨⟩⟩
    · cases hactn
  · cases hactn

theorem scheduleFor (h : Booked s) {snap} (hsnap : snap ∈ s.announced) :
    Booked ({ s with announced := s.announced.erase snap }.scheduleFor snap) := by
  have herased : Booked { s with announced := s.announced.erase snap } :=
    ⟨h.owes, h.current, fun other hoth => h.announced other (mem_of_mem_erase hoth),
      h.tasks, h.single⟩
  unfold RotationRuntime.scheduleFor
  split
  · rename_i opId act hid hactn
    split
    · exact herased
    · rename_i hunclaimed
      rw [not_or] at hunclaimed
      have hclaimed : Booked { s with
          announced := s.announced.erase snap
          claimed := (opId, act) :: s.claimed } :=
        ⟨herased.owes, herased.current, herased.announced, herased.tasks, fun op hop =>
          ⟨(h.single op hop).1, fun hpos => .tail _ ((h.single op hop).2 hpos)⟩⟩
      refine hclaimed.resume ⟨(h.announced snap hsnap).1 opId hid,
        fun op hop hof => ?_, fun hdisb op hop hof => ?_⟩
      · exact firstStage_fits hactn
          ((h.announced snap hsnap).2 op hop (hof ▸ hid)) _
      · obtain rfl : act = .disableData := by
          cases act <;> first | rfl | cases hdisb
        refine ⟨?_, .head _⟩
        by_contra hsome
        have hpos := Nat.pos_of_ne_zero hsome
        subst hof
        exact hunclaimed.2 ((h.single op hop).2 hpos)
  · exact herased

/-! ## Steps and runs -/

end Booked

/-- The three orders of events that the source leaves to chance. -/
def RotationRuntime.Agrees (s : RotationRuntime) : RotationRuntime.Action → Prop
  | .prepare beforeGeneration =>
    s.closed = false → (s.machine.start beforeGeneration).1.isOk = true →
      s.compensationOwned = false
  | .advance ⟨operationId, .disableData .entering⟩ .next =>
    s.compensationOwned = false →
      s.machine.snapshot.operationId = some operationId ∧
        s.machine.snapshot.phase.terminal = false
  | .advance ⟨_, .restoreEnabled .observing⟩ (.answer answer)
  | .advance ⟨_, .restoreEnabled .observingAgain⟩ (.answer answer) =>
    observeResult answer = .ok .enabled → s.compensationOwned = false
  | _ => True

instance (s : RotationRuntime) (action : RotationRuntime.Action) : Decidable (s.Agrees action) := by
  unfold RotationRuntime.Agrees
  split <;> infer_instance

namespace Booked

variable {s : RotationRuntime}

theorem advance (h : Booked s) {task input} (htask : task ∈ s.tasks)
    (hagrees : s.Agrees (.advance task input)) :
    Booked ({ s with tasks := s.tasks.erase task }.advance task.operation task.stage input) := by
  obtain ⟨hrest, hheld⟩ := h.take_task htask
  obtain ⟨opId, stage⟩ := task
  dsimp only at hrest hheld ⊢
  unfold RotationRuntime.advance
  split
  · exact hrest.transitionCurrent_plain rfl rfl
  · exact hrest
  · exact hrest.runBeforeIp _ hheld
  · refine hrest.runDisableData _ hheld ?_
    rintro rfl rfl hfree
    obtain ⟨hid, hact⟩ := hagrees hfree
    obtain ⟨op, hop, hof⟩ := snapshot_operationId_iff.mp hid
    rw [snapshot_of_current hop] at hact
    exact ⟨op, hop, hof, hact⟩
  · exact hrest.runEnableData _ hheld
  · exact hrest.runAfterIp _ hheld
  · refine hrest.restoreEnabledDirect _ hheld ?_
    rintro (rfl | rfl) ans rfl hread
    · exact hagrees hread
    · exact hagrees hread
  · exact hrest.transitionCurrent_plain rfl rfl
  · split
    · exact hrest.resume (hheld.follow (fun _ hfits => ⟨hfits, by rintro ⟨⟩⟩) (by rintro ⟨⟩))
    · exact hrest
  · exact hrest.resume hheld

theorem step (h : Booked s) {act} (hagrees : s.Agrees act) : Booked (s.step act) := by
  cases act with
  | prepare beforeGeneration => exact h.prepare hagrees
  | activatePrepared opId => exact h.activatePrepared opId
  | failPreparedBeforeMutation opId => exact h.failPreparedBeforeMutation opId
  | observeCellular gen admitted networkLost => exact h.observeCellular gen admitted networkLost
  | observeRootPolicy gen authorized => exact h.observe rfl rfl
  | shutdown => exact h.shutdown
  | schedule snap =>
    unfold RotationRuntime.step
    dsimp only
    split
    · exact h.scheduleFor ‹_›
    · exact h
  | advance task input =>
    unfold RotationRuntime.step
    dsimp only
    split
    · exact h.advance ‹_› hagrees
    · exact h
  | abandon task =>
    by_cases htask : task ∈ s.tasks
    · exact (h.take_task htask).1
    · show Booked { s with tasks := s.tasks.erase task }
      rwa [erase_of_not_mem htask]

end Booked

/-- On a run that keeps the three orders, an operation that requires no restore, ended or
not, leaves no compensation with the mobile-data effect. -/
theorem compensation_released (actions : List RotationRuntime.Action)
    (hagrees : Along .step RotationRuntime.Agrees .new actions)
    (operation : RotationOperation)
    (hoperation : (run RotationRuntime.step .new actions).machine.current = some operation)
    (hsettled : operation.restoreRequired = false) :
    (run step .new actions).compensationOwned = false := by
  have h : Booked (run .step .new actions) :=
    run_invariant_along (fun _ _ h => h.step) Booked.new hagrees
  by_contra howned
  obtain ⟨owing, howing, howes⟩ := h.owes (by simpa using howned)
  obtain rfl : operation = owing := some.inj (hoperation.symm.trans howing)
  exact absurd (hsettled.symm.trans howes.required) Bool.false_ne_true

/-! ## Two runs -/

/-- The snapshots of operation 1 that the runs below schedule. -/
def phaseOfFirst (phase : RotationPhase) (address : Option IpAddr) (restoreRequired : Bool) :
    RotationSnapshot :=
  { RotationSnapshot.idle with
    operationId := some 1
    phase := phase
    beforeGeneration := some 7
    beforeIp := address
    restoreRequired := restoreRequired }

def readEnabled : ExecuteResult := .ok ⟨0, "1\n".toList, false, true, 1⟩

/-- A rotation up to the disable that is handed to the root session. -/
def untilDisable (address : IpAddr) : List RotationRuntime.Action :=
  [.prepare 7, .activatePrepared 1, .schedule (phaseOfFirst .preparing none false),
    .advance ⟨1, .beforeIp .begun⟩ .next,
    .advance ⟨1, .beforeIp (.probing 7)⟩ (.egress 7 address),
    .advance ⟨1, .beforeIp (.reporting 7 address)⟩ .next,
    .schedule (phaseOfFirst .dataDisabling (some address) false),
    .advance ⟨1, .disableData .begun⟩ .next,
    .advance ⟨1, .disableData .observing⟩ (.answer readEnabled),
    .advance ⟨1, .disableData .starting⟩ .next,
    .schedule (phaseOfFirst .dataDisabling (some address) true),
    .advance ⟨1, .disableData .checking⟩ .next,
    .advance ⟨1, .disableData .entering⟩ .next]

def firstAddress : IpAddr := .v4 0xc0000201

/-- The device refuses the disable. -/
def refusedDisable : List RotationRuntime.Action :=
  untilDisable firstAddress ++
    [.advance ⟨1, .disableData .disabling⟩ (.answer (.ok ⟨1, [], false, true, 1⟩)),
      .advance ⟨1, .disableData (.reporting .rejected)⟩ .next, .advance ⟨1, .deadline⟩ .cancelled]

theorem compensation_released_refused :
    (run RotationRuntime.step .new refusedDisable).machine.snapshot.phase = .failed ∧
      (run step .new refusedDisable).compensationOwned = false := by
  refine ⟨by decide, ?_⟩
  cases hoperation : (run step .new refusedDisable).machine.current with
  | none => exact absurd hoperation (by decide)
  | some operation =>
    refine compensation_released refusedDisable (by decide) operation hoperation ?_
    have hsettled : ∀ operation ∈ (run step .new refusedDisable).machine.current,
        operation.restoreRequired = false := by decide
    exact hsettled operation hoperation

/-- The deadline passes before the disable reaches the device, and the restore reads the
data as enabled. -/
def unsentDisable : List RotationRuntime.Action :=
  untilDisable firstAddress ++
    [.advance ⟨1, .disableData .disabling⟩ .expired,
      .advance ⟨1, .disableData (.reporting .uncertain)⟩ .next,
      .advance ⟨1, .deadline⟩ .cancelled,
      .schedule { phaseOfFirst .failed (some firstAddress) true with
        terminalResult := some .failed, failure := some .dataDisableFailed },
      .advance ⟨1, .restoreEnabled .observing⟩ (.answer readEnabled),
      .advance ⟨1, .restoreEnabled (.recording .alreadyEnabled)⟩ .next]

/-- The operation has ended, requires no restore and has no task left, and the effect still
owns the compensation. -/
theorem restore_read_enabled :
    let s := run step .new unsentDisable
    s.machine.snapshot.phase = .failed ∧ s.machine.snapshot.restoreRequired = false ∧
      s.tasks = [] ∧ s.announced = [] ∧ s.compensationOwned = true := by
  decide

end MishProxy.Rotation
