import MishProxy.Rotation.Provenance

/-!
# The outstanding restore

An operation that reported its disable as started owes a restore until the disable is
rejected, an enable is reported applied or a restore is recorded as successful.
`restore_remembered` proves that the machine remembers the debt as long as no operation is
started over one that still reports it. `start` itself only asks whether the operation
has ended, and `restore_forgotten_after_start` is a run in which the debt is lost.
-/

namespace MishProxy.Rotation

open Machine Net RotationStateMachine

/-- A rejected disable speaks for its own operation only. -/
def Discharges (id : Nat) (e : Entry) : Bool :=
  e.output.accepted && match e.input with
    | .onCurrent other (.dataDisableEffectCompleted .rejected) => other == id
    | .onCurrent _ call => call.settles
    | .start _ => false

def RestoreOutstanding (id : Nat) : List Entry → Prop :=
  Since (fun e => Discharges id e = false) fun e _ => Reports id .dataDisableMutationStarted e

/-- The current operation is active or reports that a restore is required. -/
def RotationStateMachine.remembersRestore (machine : RotationStateMachine) : Bool :=
  machine.current.any fun operation => !operation.phase.terminal || operation.restoreRequired

/-- No operation is started over one that has ended and still reports a restore. The calls that
`start` refuses start none. -/
def StartsSettled (r : Recorded RotationStateMachine RotationCall RotationReply)
    (call : RotationCall) : Prop :=
  match call with
  | .start beforeGeneration =>
    beforeGeneration = 0 ∨ r.state.current.any (fun operation => !operation.phase.terminal) = true ∨
      r.state.nextOperationId = maxOperationId ∨ r.state.snapshot.restoreRequired = false
  | .onCurrent _ _ => True

instance (r : Recorded RotationStateMachine RotationCall RotationReply) (call : RotationCall) :
    Decidable (StartsSettled r call) := by
  unfold StartsSettled
  split <;> infer_instance

/-- What an operation with an outstanding restore looks like. -/
structure Owes (operation : RotationOperation) : Prop where
  required : operation.restoreRequired = true
  phase : operation.phase = .dataDisabling ∨ operation.phase = .waitingCellularLoss ∨
    operation.phase = .dataEnabling ∨ operation.phase = .failed

variable {operation : RotationOperation}

/-- The debt stays on the operation unless the call settles it. -/
def OwesOrSettled (call : OperationCall) (outcome : Transition) : Prop :=
  Owes outcome.2 ∨ outcome.1.isOk = true ∧ call.settles = true

theorem Owes.onOperation (h : Owes operation) (call) :
    OwesOrSettled call (call.onOperation operation) := by
  cases (call.handles operation).handled with
  | keeps hsame => exact .inl ⟨hsame.required.trans h.required, hsame.phase ▸ h.phase⟩
  | prepares hph | ends hph => exact absurd h.phase (by simp [hph])
  | starts _ hnext hreqd => exact .inl ⟨hreqd, .inl hnext⟩
  | disables _ _ hnext hreqd =>
    rcases hnext with hnext | hnext
    · exact .inl ⟨hreqd, .inr (.inl hnext)⟩
    · exact .inl ⟨hreqd, .inr (.inr (.inl hnext))⟩
  | loses _ hnext hreqd => exact .inl ⟨hreqd.trans h.required, .inr (.inr (.inl hnext))⟩
  | recovers hph _ hsett =>
    refine .inr (hsett ?_)
    rcases h.phase with howes | howes | howes | howes
    · cases (congrArg _ howes).symm.trans hph
    · cases (congrArg _ howes).symm.trans hph
    · exact howes
    · cases (congrArg _ howes).symm.trans hph
  | fails _ hnext hdebt | restores _ hnext hdebt =>
    exact (hdebt h.required).imp_left fun hreqd => ⟨hreqd, .inr (.inr (.inr hnext))⟩

/-! ## Whole runs -/

/-- Every outstanding restore is the current operation's. -/
def RestoreKnown (r : Recorded RotationStateMachine RotationCall RotationReply) : Prop :=
  ∀ id, RestoreOutstanding id r.history →
    ∃ operation, r.state.current = some operation ∧ operation.id = id ∧ Owes operation

variable {r : Recorded RotationStateMachine RotationCall RotationReply}

theorem RestoreKnown.refused (h : RestoreKnown r) {input output}
    (hinput : output.accepted = false) :
    RestoreKnown ⟨r.state, ⟨input, output, r.state⟩ :: r.history⟩ := by
  intro id houts
  rcases since_cons_iff.mp houts with hstrt | ⟨-, hbef⟩
  · cases hinput.symm.trans hstrt.2
  · exact h id hbef

theorem RestoreKnown.start (h : RestoreKnown r) {beforeGeneration : Nat}
    (hstd : StartsSettled r (.start beforeGeneration)) :
    RestoreKnown (record step r (.start beforeGeneration)) := by
  unfold StartsSettled at hstd
  unfold record step
  dsimp only
  unfold RotationStateMachine.start
  split_ifs with hzero hunfinished hlast
  · exact h.refused rfl
  · exact h.refused rfl
  · exact h.refused rfl
  · intro id houts
    have hsettled := ((hstd.resolve_left hzero).resolve_left hunfinished).resolve_left hlast
    rcases since_cons_iff.mp houts with hstrt | ⟨-, hbef⟩
    · cases hstrt.1
    · -- the operation that owes it would report it
      obtain ⟨operation, hcur, -, howes⟩ := h id hbef
      have hrptd : r.state.snapshot.restoreRequired = true := by
        simpa [snapshot, RotationOperation.snapshot, hcur]
          using howes.required
      cases hrptd.symm.trans hsettled

theorem discharges_of_settles {id call e}
    (hrpts : Reports id call e) (hsett : call.settles = true) : Discharges id e = true := by
  unfold Discharges
  rw [hrpts.1, hrpts.2]
  cases call with
  | dataDisableEffectCompleted out => cases out <;> simp_all [OperationCall.settles]
  | _ => simpa using hsett

/-- An accepted start of the disable is remembered, and the disable is still under way. -/
theorem started_of_accepted
    (hacc : (OperationCall.dataDisableMutationStarted.onOperation operation).1.isOk = true) :
    (OperationCall.dataDisableMutationStarted.onOperation operation).2.phase = .dataDisabling ∧
      (OperationCall.dataDisableMutationStarted.onOperation operation).2.restoreRequired =
        true := by
  unfold OperationCall.onOperation RotationOperation.active
    RotationOperation.dataDisableMutationStarted at *
  dsimp only at *
  split_ifs at * with hterm hph
  · cases hacc
  · cases hacc
  · exact ⟨not_not.mp hph, rfl⟩

theorem RestoreKnown.onCurrent (h : RestoreKnown r) (opId call) :
    RestoreKnown (record step r (.onCurrent opId call)) := by
  unfold record step RotationStateMachine.onCurrent
  cases hcur : r.state.current with
  | none => exact h.refused rfl
  | some operation =>
    dsimp only
    split_ifs with hid
    · exact h.refused rfl
    · rw [not_not] at hid
      subst hid
      intro id houts
      have hkept := onOperation_id operation call
      have hacc : ∀ after, (RotationReply.moved
          ((call.onOperation operation).1.map fun _ => after)).accepted =
            (call.onOperation operation).1.isOk := by
        intro after
        cases (call.onOperation operation).1 <;> rfl
      rcases since_cons_iff.mp houts with hstrt | ⟨hopen, hbef⟩
      · obtain ⟨rfl, rfl⟩ := RotationCall.onCurrent.inj hstrt.1
        obtain ⟨hph, hreqd⟩ := started_of_accepted ((hacc _).symm.trans hstrt.2)
        exact ⟨_, rfl, hkept, hreqd, .inl hph⟩
      · obtain ⟨current, hsome, rfl, howes⟩ := h id hbef
        cases hcur.symm.trans hsome
        rcases howes.onOperation call with hstill | ⟨hok, hsett⟩
        · exact ⟨_, rfl, hkept, hstill⟩
        · exact absurd (hopen.symm.trans
            (discharges_of_settles ⟨rfl, (hacc _).trans hok⟩ hsett)) (by simp)

theorem restoreKnown_runCalls {calls}
    (hstd : Along (record step) StartsSettled (.init .new) calls) :
    RestoreKnown (runCalls calls) := by
  have hnew : RestoreKnown (.init .new) := by
    rintro id ⟨newer, e, older, heq, -⟩
    cases newer <;> cases heq
  refine run_invariant_along (I := RestoreKnown) ?_ hnew hstd
  intro r call h hcall
  cases call with
  | start beforeGeneration => exact h.start hcall
  | onCurrent opId call => exact h.onCurrent opId call

/-- A restore that is owed is remembered in every run in which no operation is started over
one that still reports it. -/
theorem restore_remembered (calls : List RotationCall)
    (hsettled : Along (record step) StartsSettled (.init .new) calls)
    (id : Nat) (houtstanding : RestoreOutstanding id (runCalls calls).history) :
    (runCalls calls).state.remembersRestore = true := by
  obtain ⟨operation, hcurrent, -, howes⟩ := restoreKnown_runCalls hsettled id houtstanding
  simp [remembersRestore, hcurrent, howes.required]

/-- The deadline passed after the disable was started. -/
def failedAfterDisable : List RotationCall :=
  [.start 10, .onCurrent 1 (.recordBeforeIp 10 (.v4 1)), .onCurrent 1 .dataDisableMutationStarted,
    .onCurrent 1 .deadlineExceeded]

theorem restore_remembered_failedAfterDisable :
    RestoreOutstanding 1 (runCalls failedAfterDisable).history ∧
      (runCalls failedAfterDisable).state.remembersRestore = true := by
  have houtstanding : RestoreOutstanding 1 (runCalls failedAfterDisable).history :=
    ⟨(runCalls failedAfterDisable).history.take 1, _, _, rfl, by decide, rfl, rfl⟩
  exact ⟨houtstanding, restore_remembered failedAfterDisable (by decide) 1 houtstanding⟩

/-- The next operation is started and fails before it touched mobile data. -/
def failedAfterStart : List RotationCall :=
  failedAfterDisable ++ [.start 11, .onCurrent 2 (.fail .beforeIpFailed)]

theorem restore_forgotten_after_start :
    RestoreOutstanding 1 (runCalls failedAfterStart).history ∧
      (runCalls failedAfterStart).state.remembersRestore = false :=
  ⟨⟨(runCalls failedAfterStart).history.take 3, _, _, rfl, by decide, rfl, rfl⟩, by decide⟩

end MishProxy.Rotation
