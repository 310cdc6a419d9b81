import MishProxy.Machine.Run
import MishProxy.Net.Address

/-!
# The rotation state machine

One operation at a time: the address before, mobile data off, the cellular network lost,
mobile data on, a fresh cellular generation admitted and authorised, the address after.
The machine only accepts or refuses facts. Generations and operation ids are `u64` in the
source; only the count of ids can run out, which `start` checks.

A call may change the operation although it is refused: an observation of a newer owner
generation is remembered before its phase is looked at.
-/

namespace MishProxy.Rotation

open Net

inductive RotationPhase where
  | idle
  | preparing
  | dataDisabling
  | waitingCellularLoss
  | dataEnabling
  | waitingCellularRecovery
  | waitingRootPolicy
  | probingPublicIp
  | changed
  | unchanged
  | failed
  deriving DecidableEq, Repr

def RotationPhase.terminal : RotationPhase → Bool
  | .changed | .unchanged | .failed => true
  | _ => false

inductive RotationTerminalResult where
  | changed
  | unchanged
  | failed
  deriving DecidableEq, Repr

inductive RotationMutationOutcome where
  | applied
  | rejected
  | uncertain
  deriving DecidableEq, Repr

inductive RotationFailure where
  | runtimeNotRunning
  | noCurrentCellular
  | rootPolicyUnavailable
  | beforeIpFailed
  | dataDisableFailed
  | mobileDataObservationFailed
  | dataEnableFailed
  | freshCellularUnavailable
  | rootPolicyRecoveryFailed
  | afterIpFailed
  | credentialChanged
  | deadlineExceeded
  | stateUnavailable
  deriving DecidableEq, Repr

inductive RotationRestoreResult where
  | notRequired
  | alreadyEnabled
  | restoredEnabled
  | failed
  | uncertain
  deriving DecidableEq, Repr

/-- The results after which nothing is left to restore. -/
def RotationRestoreResult.successful : RotationRestoreResult → Bool
  | .notRequired | .alreadyEnabled | .restoredEnabled => true
  | .failed | .uncertain => false

inductive RotationStartError where
  | alreadyInProgress
  | invalidGeneration
  | operationIdExhausted
  deriving DecidableEq, Repr

inductive RotationTransitionError where
  | staleOperation
  | invalidPhase
  | staleGeneration
  | stateUnavailable
  deriving DecidableEq, Repr

structure RotationSnapshot where
  operationId : Option Nat
  phase : RotationPhase
  beforeGeneration : Option Nat
  afterGeneration : Option Nat
  beforeIp : Option IpAddr
  afterIp : Option IpAddr
  restoreRequired : Bool
  terminalResult : Option RotationTerminalResult
  failure : Option RotationFailure
  restoreResult : Option RotationRestoreResult
  deriving DecidableEq, Repr

def RotationSnapshot.idle : RotationSnapshot where
  operationId := none
  phase := .idle
  beforeGeneration := none
  afterGeneration := none
  beforeIp := none
  afterIp := none
  restoreRequired := false
  terminalResult := none
  failure := none
  restoreResult := none

structure RotationOperation where
  id : Nat
  phase : RotationPhase
  beforeGeneration : Nat
  afterGeneration : Option Nat
  beforeIp : Option IpAddr
  afterIp : Option IpAddr
  cellularLossObserved : Bool
  latestOwnerGeneration : Nat
  freshCellularGeneration : Option Nat
  rootAuthorizedGeneration : Option Nat
  restoreRequired : Bool
  terminalResult : Option RotationTerminalResult
  failure : Option RotationFailure
  restoreResult : Option RotationRestoreResult
  deriving DecidableEq, Repr

/-- What a call answers, and the operation it leaves. -/
abbrev Transition : Type := Except RotationTransitionError Unit × RotationOperation

namespace RotationOperation

/-- The operation that `start` installs. -/
def started (id beforeGeneration : Nat) : RotationOperation where
  id := id
  phase := .preparing
  beforeGeneration := beforeGeneration
  afterGeneration := none
  beforeIp := none
  afterIp := none
  cellularLossObserved := false
  latestOwnerGeneration := beforeGeneration
  freshCellularGeneration := none
  rootAuthorizedGeneration := none
  restoreRequired := false
  terminalResult := none
  failure := none
  restoreResult := none

def snapshot (operation : RotationOperation) : RotationSnapshot where
  operationId := some operation.id
  phase := operation.phase
  beforeGeneration := some operation.beforeGeneration
  afterGeneration := operation.afterGeneration
  beforeIp := operation.beforeIp
  afterIp := operation.afterIp
  restoreRequired := operation.restoreRequired
  terminalResult := operation.terminalResult
  failure := operation.failure
  restoreResult := operation.restoreResult

/-- The generation unless a newer one was seen. -/
def unlessOlder (generation : Nat) (current : Option Nat) : Option Nat :=
  if current.any (· < generation) then none else current

def observeOwnerGeneration (generation : Nat) (operation : RotationOperation) :
    Bool × RotationOperation :=
  if generation < operation.latestOwnerGeneration then (false, operation)
  else if operation.latestOwnerGeneration < generation then
    (true, { operation with
      latestOwnerGeneration := generation
      freshCellularGeneration := unlessOlder generation operation.freshCellularGeneration
      rootAuthorizedGeneration := unlessOlder generation operation.rootAuthorizedGeneration })
  else (true, operation)

def observeRecoveryCellular (generation : Nat) (admitted : Bool)
    (operation : RotationOperation) : RotationOperation :=
  if admitted then { operation with freshCellularGeneration := some generation }
  else { operation with
    freshCellularGeneration :=
      if operation.freshCellularGeneration = some generation then none
      else operation.freshCellularGeneration
    rootAuthorizedGeneration :=
      if operation.rootAuthorizedGeneration = some generation then none
      else operation.rootAuthorizedGeneration }

def observeLoss (admitted : Bool) (operation : RotationOperation) : RotationOperation :=
  if admitted then operation else { operation with cellularLossObserved := true }

def maybeAdvanceLoss (operation : RotationOperation) : RotationOperation :=
  if operation.phase = .waitingCellularLoss ∧ operation.cellularLossObserved then
    { operation with phase := .dataEnabling }
  else operation

def maybeAdvanceRecovery (operation : RotationOperation) : RotationOperation :=
  if operation.phase = .waitingCellularRecovery ∨ operation.phase = .waitingRootPolicy then
    match operation.freshCellularGeneration with
    | none => { operation with phase := .waitingCellularRecovery }
    | some fresh =>
      if operation.rootAuthorizedGeneration ≠ some fresh then
        { operation with phase := .waitingRootPolicy }
      else { operation with afterGeneration := some fresh, phase := .probingPublicIp }
  else operation

def failOperation (failure : RotationFailure) (operation : RotationOperation) : RotationOperation :=
  { operation with
    phase := .failed
    terminalResult := some .failed
    failure := some failure }

/-! ## The calls on an operation

The operation is kept on both ways out; the snapshot that an accepted call returns is taken
by `onCurrent`. -/

/-- Runs the call unless the operation has ended. -/
def active (operation : RotationOperation) (call : RotationOperation → Transition) : Transition :=
  if operation.phase.terminal then (.error .invalidPhase, operation) else call operation

def recordBeforeIp (generation : Nat) (address : IpAddr) (operation : RotationOperation) :
    Transition :=
  if operation.phase ≠ .preparing then (.error .invalidPhase, operation)
  else if generation ≠ operation.beforeGeneration then (.error .staleGeneration, operation)
  else (.ok (), { operation with beforeIp := some address, phase := .dataDisabling })

def dataDisableMutationStarted (operation : RotationOperation) : Transition :=
  if operation.phase ≠ .dataDisabling then (.error .invalidPhase, operation)
  else (.ok (), { operation with restoreRequired := true })

def dataDisableEffectCompleted (outcome : RotationMutationOutcome) (operation : RotationOperation) :
    Transition :=
  if operation.phase ≠ .dataDisabling then (.error .invalidPhase, operation)
  else match outcome with
    | .applied =>
      (.ok (), maybeAdvanceLoss
        { operation with restoreRequired := true, phase := .waitingCellularLoss })
    | .rejected =>
      (.ok (), failOperation .dataDisableFailed { operation with restoreRequired := false })
    | .uncertain =>
      (.ok (), failOperation .dataDisableFailed { operation with restoreRequired := true })

def dataEnableEffectCompleted (outcome : RotationMutationOutcome) (operation : RotationOperation) :
    Transition :=
  if operation.phase ≠ .dataEnabling then (.error .invalidPhase, operation)
  else match outcome with
    | .applied =>
      (.ok (), maybeAdvanceRecovery
        { operation with restoreRequired := false, phase := .waitingCellularRecovery })
    | .rejected | .uncertain =>
      (.ok (), failOperation .dataEnableFailed { operation with restoreRequired := true })

/-- The part of a cellular observation that depends on the phase. -/
def noteCellular (generation : Nat) (admitted : Bool) (operation : RotationOperation) :
    Transition :=
  match operation.phase with
  | .dataDisabling | .waitingCellularLoss =>
    (.ok (), maybeAdvanceLoss (observeLoss admitted operation))
  | .dataEnabling => (.ok (), observeRecoveryCellular generation admitted operation)
  | .waitingCellularRecovery | .waitingRootPolicy =>
    (.ok (), maybeAdvanceRecovery (observeRecoveryCellular generation admitted operation))
  | _ => (.error .invalidPhase, operation)

def observeCellular (generation : Nat) (admitted : Bool) (operation : RotationOperation) :
    Transition :=
  if generation ≤ operation.beforeGeneration then
    match operation.phase with
    | .dataDisabling | .waitingCellularLoss | .dataEnabling | .waitingCellularRecovery
    | .waitingRootPolicy => (.ok (), operation)
    | _ => (.error .staleGeneration, operation)
  else match observeOwnerGeneration generation operation with
    | (false, operation) => (.ok (), operation)
    | (true, operation) => noteCellular generation admitted operation

/-- The part of a root-policy observation that depends on the phase. -/
def noteRootPolicy (generation : Nat) (authorized : Bool) (operation : RotationOperation) :
    Transition :=
  let noted := { operation with
    rootAuthorizedGeneration := if authorized then some generation else none }
  match operation.phase with
  | .dataEnabling => (.ok (), noted)
  | .waitingCellularRecovery | .waitingRootPolicy => (.ok (), maybeAdvanceRecovery noted)
  | _ => (.error .invalidPhase, operation)

def observeRootPolicy (generation : Nat) (authorized : Bool) (operation : RotationOperation) :
    Transition :=
  if generation ≤ operation.beforeGeneration then
    match operation.phase with
    | .dataEnabling | .waitingCellularRecovery | .waitingRootPolicy => (.ok (), operation)
    | _ => (.error .staleGeneration, operation)
  else match observeOwnerGeneration generation operation with
    | (false, operation) => (.ok (), operation)
    | (true, operation) => noteRootPolicy generation authorized operation

def recordAfterIp (generation : Nat) (address : IpAddr) (operation : RotationOperation) :
    Transition :=
  if operation.phase ≠ .probingPublicIp then (.error .invalidPhase, operation)
  else if operation.afterGeneration ≠ some generation then (.error .staleGeneration, operation)
  else match operation.beforeIp with
    | none => (.error .stateUnavailable, operation)
    | some before =>
      if before = address then
        (.ok (), { operation with
          afterIp := some address
          phase := .unchanged
          terminalResult := some .unchanged
          restoreRequired := false })
      else
        (.ok (), { operation with
          afterIp := some address
          phase := .changed
          terminalResult := some .changed
          restoreRequired := false })

def recordRestore (restore : RotationRestoreResult) (operation : RotationOperation) : Transition :=
  if operation.phase ≠ .failed then (.error .invalidPhase, operation)
  else (.ok (), { operation with
    restoreResult := some restore
    restoreRequired := if restore.successful then false else operation.restoreRequired })

end RotationOperation

/-- The calls that name an operation. -/
inductive OperationCall where
  | recordBeforeIp (generation : Nat) (address : IpAddr)
  | dataDisableMutationStarted
  | dataDisableEffectCompleted (outcome : RotationMutationOutcome)
  | dataEnableEffectCompleted (outcome : RotationMutationOutcome)
  | observeCellular (generation : Nat) (admitted : Bool)
  | observeRootPolicy (generation : Nat) (authorized : Bool)
  | recordAfterIp (generation : Nat) (address : IpAddr)
  | fail (failure : RotationFailure)
  | deadlineExceeded
  | recordRestore (restore : RotationRestoreResult)
  deriving DecidableEq, Repr

/-- What a call does to the operation it names. Only `record_restore` is let through to an
operation that has ended. -/
def OperationCall.onOperation (call : OperationCall) (operation : RotationOperation) : Transition :=
  match call with
  | .recordBeforeIp generation address => operation.active (·.recordBeforeIp generation address)
  | .dataDisableMutationStarted => operation.active (·.dataDisableMutationStarted)
  | .dataDisableEffectCompleted outcome => operation.active (·.dataDisableEffectCompleted outcome)
  | .dataEnableEffectCompleted outcome => operation.active (·.dataEnableEffectCompleted outcome)
  | .observeCellular generation admitted =>
    operation.active (·.observeCellular generation admitted)
  | .observeRootPolicy generation authorized =>
    operation.active (·.observeRootPolicy generation authorized)
  | .recordAfterIp generation address => operation.active (·.recordAfterIp generation address)
  | .fail failure => operation.active fun operation => (.ok (), operation.failOperation failure)
  | .deadlineExceeded =>
    operation.active fun operation => (.ok (), operation.failOperation .deadlineExceeded)
  | .recordRestore restore => operation.recordRestore restore

inductive RotationCall where
  | start (beforeGeneration : Nat)
  | onCurrent (operationId : Nat) (call : OperationCall)
  deriving DecidableEq, Repr

inductive RotationReply where
  | started (result : Except RotationStartError Nat)
  | moved (result : Except RotationTransitionError RotationSnapshot)

def RotationReply.accepted : RotationReply → Bool
  | .started result => result.isOk
  | .moved result => result.isOk

structure RotationStateMachine where
  nextOperationId : Nat
  current : Option RotationOperation
  deriving DecidableEq, Repr

namespace RotationStateMachine

def new : RotationStateMachine where
  nextOperationId := 1
  current := none

def snapshot (machine : RotationStateMachine) : RotationSnapshot :=
  machine.current.elim .idle RotationOperation.snapshot

/-- The largest operation id that a `u64` holds. -/
def maxOperationId : Nat := 2 ^ 64 - 1

def start (beforeGeneration : Nat) (machine : RotationStateMachine) :
    Except RotationStartError Nat × RotationStateMachine :=
  if beforeGeneration = 0 then (.error .invalidGeneration, machine)
  else if machine.current.any (fun operation => !operation.phase.terminal) then
    (.error .alreadyInProgress, machine)
  else if machine.nextOperationId = maxOperationId then (.error .operationIdExhausted, machine)
  else
    (.ok machine.nextOperationId,
      { nextOperationId := machine.nextOperationId + 1
        current := some (.started machine.nextOperationId beforeGeneration) })

def onCurrent (operationId : Nat) (call : OperationCall) (machine : RotationStateMachine) :
    Except RotationTransitionError RotationSnapshot × RotationStateMachine :=
  match machine.current with
  | none => (.error .staleOperation, machine)
  | some operation =>
    if operation.id ≠ operationId then (.error .staleOperation, machine)
    else match call.onOperation operation with
      | (result, operation) =>
        (result.map fun _ => operation.snapshot, { machine with current := some operation })

def step (machine : RotationStateMachine) : RotationCall → RotationReply × RotationStateMachine
  | .start beforeGeneration =>
    let (result, machine) := machine.start beforeGeneration
    (.started result, machine)
  | .onCurrent operationId call =>
    let (result, machine) := machine.onCurrent operationId call
    (.moved result, machine)

end RotationStateMachine

/-! ## Observations -/

section

open RotationOperation

/-- What both observations do with a generation: one that is not newer than the rotation changes
nothing, a newer one is taken over, and then the phase decides. -/
structure Observes (generation : Nat) (observe note : RotationOperation → Transition)
    (operation : RotationOperation) : Prop where
  stale : generation ≤ operation.beforeGeneration → (observe operation).2 = operation
  fresh : operation.beforeGeneration < generation → observe operation =
    match operation.observeOwnerGeneration generation with
    | (false, operation) => (.ok (), operation)
    | (true, operation) => note operation

theorem observes_cellular (gen admitted op) :
    Observes gen (observeCellular gen admitted) (noteCellular gen admitted) op where
  stale hle := by
    rw [observeCellular, if_pos hle]
    split <;> rfl
  fresh hlt := if_neg (Nat.not_le.mpr hlt)

theorem observes_rootPolicy (gen authorized op) :
    Observes gen (observeRootPolicy gen authorized) (noteRootPolicy gen authorized) op where
  stale hle := by
    rw [observeRootPolicy, if_pos hle]
    split <;> rfl
  fresh hlt := if_neg (Nat.not_le.mpr hlt)

end

/-! ## Refused calls

A refused call leaves the machine alone, unless it is an observation for the current operation
of an owner generation that is newer than those it knows, in a phase that refuses it: the newer
generation is taken over before the phase is looked at. -/

def RotationPhase.refusesCellular : RotationPhase → Bool
  | .idle | .preparing | .probingPublicIp => true
  | _ => false

def RotationPhase.refusesRootPolicy : RotationPhase → Bool
  | .idle | .preparing | .dataDisabling | .waitingCellularLoss | .probingPublicIp => true
  | _ => false

def RotationOperation.outdatedBy (generation : Nat) (operation : RotationOperation) : Bool :=
  operation.beforeGeneration < generation && operation.latestOwnerGeneration < generation

def OperationCall.bringsNews (operation : RotationOperation) : OperationCall → Bool
  | .observeCellular generation _ =>
    operation.phase.refusesCellular && operation.outdatedBy generation
  | .observeRootPolicy generation _ =>
    operation.phase.refusesRootPolicy && operation.outdatedBy generation
  | _ => false

def RotationCall.bringsNews (machine : RotationStateMachine) : RotationCall → Bool
  | .start _ => false
  | .onCurrent operationId call => machine.current.any fun operation =>
    operation.id = operationId && call.bringsNews operation

/-- The answer to a call on `s` is no refusal, or nothing has changed. -/
def RefusedKeeps {ε α σ : Type} (s : σ) (answer : Except ε α × σ) : Prop :=
  answer.1.isOk = false → answer.2 = s

section

open RotationOperation

variable {op : RotationOperation} {gen : Nat}

theorem refusedKeeps_active {call} : RefusedKeeps op (op.active call) ↔
    (op.phase.terminal = false → RefusedKeeps op (call op)) := by
  unfold active
  cases op.phase.terminal <;> simp [RefusedKeeps]

theorem observeOwnerGeneration_of_le (h : gen ≤ op.latestOwnerGeneration) :
    ∃ known, op.observeOwnerGeneration gen = (known, op) := by
  unfold observeOwnerGeneration
  split_ifs
  · exact ⟨false, rfl⟩
  · omega
  · exact ⟨true, rfl⟩

theorem observeOwnerGeneration_of_lt (h : op.latestOwnerGeneration < gen) :
    ∃ next, op.observeOwnerGeneration gen = (true, next) ∧ next.phase = op.phase ∧ next ≠ op := by
  unfold observeOwnerGeneration
  rw [if_neg (by omega), if_pos h]
  refine ⟨_, rfl, rfl, fun heq => ?_⟩
  exact h.ne' (congrArg latestOwnerGeneration heq)

theorem refusedKeeps_observation {observe note} (hobs : Observes gen observe note op)
    {refuses : RotationPhase → Bool}
    (hended : op.phase.terminal = true → refuses op.phase = false)
    (hnote : ∀ next, next.phase = op.phase → op.phase.terminal = false →
      if refuses op.phase then note next = (.error .invalidPhase, next)
      else (note next).1.isOk = true) :
    RefusedKeeps op (op.active observe) ↔ (refuses op.phase && op.outdatedBy gen) = false := by
  rw [refusedKeeps_active]
  unfold outdatedBy RefusedKeeps
  cases hphase : op.phase.terminal with
  | true => simp [hended hphase]
  | false =>
    by_cases hbefore : gen ≤ op.beforeGeneration
    · simp [hobs.stale hbefore, Nat.not_lt.mpr hbefore]
    rw [hobs.fresh (by omega)]
    by_cases hlatest : gen ≤ op.latestOwnerGeneration
    · have hsame := hnote op rfl hphase
      obtain ⟨known, hkept⟩ := observeOwnerGeneration_of_le hlatest
      rw [hkept]
      cases known <;> split_ifs at hsame <;> simp [hsame, hlatest]
    · obtain ⟨next, hnext, hkept, hne⟩ :=
        observeOwnerGeneration_of_lt (Nat.lt_of_not_le hlatest)
      have hnewer := hnote next hkept hphase
      rw [hnext]
      split_ifs at hnewer with hrefuses
      · simp [hnewer, hrefuses, hne, Nat.lt_of_not_le hbefore, Nat.lt_of_not_le hlatest,
          Except.isOk, Except.toBool]
      · simp [hnewer, hrefuses]

theorem refusedKeeps_onOperation (call : OperationCall) :
    RefusedKeeps op (call.onOperation op) ↔ call.bringsNews op = false := by
  cases call with
  | observeCellular gen admitted =>
    refine refusedKeeps_observation (observes_cellular gen admitted op) ?_ fun next hphase => ?_
    · cases op.phase <;> decide
    · rw [← hphase]
      unfold noteCellular
      cases next.phase <;> simp [RotationPhase.terminal, RotationPhase.refusesCellular,
        Except.isOk, Except.toBool]
  | observeRootPolicy gen authorized =>
    refine refusedKeeps_observation (observes_rootPolicy gen authorized op) ?_ fun next hphase => ?_
    · cases op.phase <;> decide
    · rw [← hphase]
      unfold noteRootPolicy
      cases next.phase <;> simp [RotationPhase.terminal, RotationPhase.refusesRootPolicy,
        Except.isOk, Except.toBool]
  | recordBeforeIp | dataDisableMutationStarted | dataDisableEffectCompleted
  | dataEnableEffectCompleted | recordAfterIp | fail | deadlineExceeded | recordRestore =>
    refine iff_of_true ?_ rfl
    simp only [RefusedKeeps, OperationCall.onOperation, active, recordBeforeIp,
      dataDisableMutationStarted, dataDisableEffectCompleted, dataEnableEffectCompleted,
      recordAfterIp, recordRestore]
    repeat' split
    all_goals simp [Except.isOk, Except.toBool]

end

open RotationStateMachine

/-- A refused call leaves the machine as it was exactly when it brings no news. -/
theorem refused_call_keeps_iff (machine : RotationStateMachine) (call : RotationCall) :
    ((machine.step call).1.accepted = false → (machine.step call).2 = machine) ↔
      call.bringsNews machine = false := by
  cases call with
  | start beforeGeneration =>
    refine iff_of_true ?_ rfl
    simp only [step, start, RotationReply.accepted]
    split_ifs <;> simp [Except.isOk, Except.toBool]
  | onCurrent operationId call =>
    rcases machine with ⟨next, _ | op⟩
    · exact iff_of_true (fun _ => rfl) rfl
    simp only [step, onCurrent, RotationReply.accepted, RotationCall.bringsNews, Option.any_some]
    split_ifs with hid
    · simp [hid]
    · have hnews : (decide (op.id = operationId) && call.bringsNews op) = call.bringsNews op := by
        simp [not_not.mp hid]
      rw [hnews, ← refusedKeeps_onOperation]
      unfold RefusedKeeps
      rcases call.onOperation op with ⟨_ | _, after⟩ <;>
        simp [Except.map, Except.isOk, Except.toBool]

/-- A machine whose operation was just started from generation 10. -/
def startedMachine : RotationStateMachine := (RotationStateMachine.new.step (.start 10)).2

theorem refused_observation_counts :
    (startedMachine.step (.onCurrent 1 (.observeCellular 11 true))).1.accepted = false ∧
      (startedMachine.step (.onCurrent 1 (.observeCellular 11 true))).2 ≠ startedMachine := by
  decide

end MishProxy.Rotation
