import MishProxy.Rotation.StateMachine
import MishProxy.MobileData.Effect

/-!
# The rotation runtime

The coordinator drives the state machine with tasks that probe the address before, disable mobile
data, enable it again, probe the address after, and restore the data when the operation failed
owing it. The tasks share the machine, behind a lock, and the compensation bit of the mobile-data
effect, outside of it.

A stage of a task ends where its function gives up the lock, waits or touches the compensation bit.
After an accepted transition the caller still has to schedule what the new phase asks for. It has
given up the lock by then, so the snapshot waits in `announced` until `schedule` takes it. A task
can be abandoned at any stage, and one that the executor refuses to spawn is abandoned at its
first.

The deadline is kept as the operation it was set for, and reaching it is an input.
-/

namespace MishProxy.Rotation

open MobileData Session Net

inductive RotationAction where
  | beforeIp
  | disableData
  | enableData
  | afterIp
  | restoreEnabled
  deriving DecidableEq, Repr

/-! ## Tasks -/

inductive BeforeIpStage where
  | begun
  | probing (beforeGeneration : Nat)
  | reporting (generation : Nat) (address : IpAddr)
  deriving DecidableEq

inductive DisableStage where
  | begun
  | observing
  | starting
  | checking
  | entering
  | disabling
  | reporting (outcome : RotationMutationOutcome)
  deriving DecidableEq

inductive EnableStage where
  | begun
  | entering
  | enabling
  | verifying (outcome : MobileDataEffectError)
  | reporting (outcome : RotationMutationOutcome)
  deriving DecidableEq

inductive AfterIpStage where
  | begun
  | probing (afterGeneration : Nat)
  | checkingCredential (generation : Nat) (address : IpAddr)
  | reporting (generation : Nat) (address : IpAddr)
  deriving DecidableEq

inductive RestoreStage where
  | observing
  | entering
  | enabling
  | verifying (outcome : MobileDataEffectError)
  | observingAgain
  | recording (restore : RotationRestoreResult)
  deriving DecidableEq

/-- `failing` is a task on its way through `fail`, `draining` is `shutdown` while it waits
for the tasks. -/
inductive TaskStage where
  | deadline
  | beforeIp (stage : BeforeIpStage)
  | disableData (stage : DisableStage)
  | enableData (stage : EnableStage)
  | afterIp (stage : AfterIpStage)
  | restoreEnabled (stage : RestoreStage)
  | failing (failure : RotationFailure)
  | draining (forceRestore : Bool)
  deriving DecidableEq

structure RotationTask where
  operation : Nat
  stage : TaskStage
  deriving DecidableEq

def RotationAction.firstStage : RotationAction → TaskStage
  | .beforeIp => .beforeIp .begun
  | .disableData => .disableData .begun
  | .enableData => .enableData .begun
  | .afterIp => .afterIp .begun
  | .restoreEnabled => .restoreEnabled .observing

/-- What a task is resumed with. -/
inductive TaskInput where
  | next
  | answer (answer : ExecuteResult)
  | egress (generation : Nat) (address : IpAddr)
  | egressFailed
  | credential (current : Bool)
  | expired
  | cancelled
  deriving DecidableEq

/-- The report that follows from a finished mutation, `none` where the task fails instead. -/
def mutationReport : Except MobileDataEffectError Unit → Option RotationMutationOutcome
  | .ok () => some .applied
  | .error .mutationRejected => some .rejected
  | .error .mutationUncertain | .error .sessionUnavailable => some .uncertain
  | .error _ => none

/-- What the phase of a snapshot asks for. -/
def RotationSnapshot.action (snapshot : RotationSnapshot) : Option RotationAction :=
  match snapshot.phase with
  | .preparing => some .beforeIp
  | .dataDisabling => some .disableData
  | .dataEnabling => some .enableData
  | .probingPublicIp => some .afterIp
  | .failed => if snapshot.restoreRequired then some .restoreEnabled else none
  | _ => none

/-! ## The coordinator -/

structure RotationRuntime where
  machine : RotationStateMachine
  deadline : Option Nat
  claimed : List (Nat × RotationAction)
  closed : Bool
  tasks : List RotationTask
  announced : List RotationSnapshot
  compensationOwned : Bool
  deriving DecidableEq

namespace RotationRuntime

def new : RotationRuntime where
  machine := .new
  deadline := none
  claimed := []
  closed := false
  tasks := []
  announced := []
  compensationOwned := false

variable (s : RotationRuntime) (operationId : Nat)

def operationCurrent : Bool :=
  !s.closed && s.machine.snapshot.operationId == some operationId &&
    !s.machine.snapshot.phase.terminal

def operationDeadline : Bool :=
  !s.closed && s.machine.snapshot.operationId == some operationId &&
    s.deadline == some operationId

def operationGenerationDeadline (before : Bool) : Option Nat :=
  if s.operationCurrent operationId ∧ s.deadline = some operationId then
    if before then s.machine.snapshot.beforeGeneration else s.machine.snapshot.afterGeneration
  else none

/-- The task goes on at this stage. -/
def resume (stage : TaskStage) : RotationRuntime :=
  { s with tasks := ⟨operationId, stage⟩ :: s.tasks }

def release (released : Bool) : RotationRuntime :=
  if released then { s with compensationOwned := false } else s

/-- A call of the machine whose snapshot goes to `after_transition` when it is accepted. -/
def transition (call : OperationCall) : Bool × RotationRuntime :=
  match s.machine.onCurrent operationId call with
  | (.ok snapshot, machine) =>
    (true, { s with machine := machine, announced := snapshot :: s.announced })
  | (.error _, machine) => (false, { s with machine := machine })

/-- The transition unless the operation has ended or the coordinator is closed. -/
def transitionCurrent (call : OperationCall) : RotationRuntime :=
  if s.operationCurrent operationId then (s.transition operationId call).2 else s

/-- The same for a call whose refusal fails the operation. -/
def transitionOrFail (call : OperationCall) (failure : RotationFailure) : RotationRuntime :=
  if s.operationCurrent operationId then
    match s.transition operationId call with
    | (true, s) => s
    | (false, s) => s.resume operationId (.failing failure)
  else s

def fail (failure : RotationFailure) (credentialCurrent : Bool) : RotationRuntime :=
  s.transitionCurrent operationId
    (.fail (if credentialCurrent then failure else .credentialChanged))

/-- An accepted insertion into `claimed` and the task that follows from it. -/
def scheduleFor (snapshot : RotationSnapshot) : RotationRuntime :=
  match snapshot.operationId, snapshot.action with
  | some operationId, some action =>
    if s.closed ∨ (operationId, action) ∈ s.claimed then s
    else
      { s with
        claimed := (operationId, action) :: s.claimed
        tasks := ⟨operationId, action.firstStage⟩ :: s.tasks }
  | _, _ => s

/-! ### The functions of the tasks

The task itself has been taken out of the list before; an input that its stage does not wait
for puts it back as it was. -/

def runBeforeIp : BeforeIpStage → TaskInput → RotationRuntime
  | .begun, .next =>
    match s.operationGenerationDeadline operationId true with
    | some generation => s.resume operationId (.beforeIp (.probing generation))
    | none => s
  | .probing beforeGeneration, .egress generation address =>
    if generation = beforeGeneration then
      s.resume operationId (.beforeIp (.reporting generation address))
    else s.resume operationId (.failing .beforeIpFailed)
  | .probing _, .egressFailed => s.resume operationId (.failing .beforeIpFailed)
  | .probing _, .expired => s.resume operationId (.failing .deadlineExceeded)
  | .reporting generation address, .next =>
    s.transitionOrFail operationId (.recordBeforeIp generation address) .beforeIpFailed
  | stage, _ => s.resume operationId (.beforeIp stage)

def runDisableData : DisableStage → TaskInput → RotationRuntime
  | .begun, .next =>
    if s.operationDeadline operationId then s.resume operationId (.disableData .observing) else s
  | .observing, .answer answer =>
    match observeResult answer with
    | .ok .enabled => s.resume operationId (.disableData .starting)
    | .ok .disabled | .error _ => s.resume operationId (.failing .mobileDataObservationFailed)
  | .observing, .expired => s.resume operationId (.failing .deadlineExceeded)
  | .starting, .next =>
    if s.operationCurrent operationId then
      match s.transition operationId .dataDisableMutationStarted with
      | (true, s) => s.resume operationId (.disableData .checking)
      | (false, s) => s
    else s
  -- the snapshot that is looked at need not be one of this operation
  | .checking, .next =>
    if s.machine.snapshot.phase.terminal then s else s.resume operationId (.disableData .entering)
  | .entering, .next =>
    if s.compensationOwned then s.resume operationId (.disableData (.reporting .uncertain))
    else { s with compensationOwned := true }.resume operationId (.disableData .disabling)
  | .disabling, .answer answer =>
    let result := disableResult answer
    let s := s.release (result = .error .mutationRejected)
    match mutationReport result with
    | some outcome => s.resume operationId (.disableData (.reporting outcome))
    | none => s.resume operationId (.failing .dataDisableFailed)
  | .disabling, .expired => s.resume operationId (.disableData (.reporting .uncertain))
  | .reporting outcome, .next =>
    s.transitionCurrent operationId (.dataDisableEffectCompleted outcome)
  | stage, _ => s.resume operationId (.disableData stage)

def runEnableData : EnableStage → TaskInput → RotationRuntime
  | .begun, .next =>
    if s.operationDeadline operationId then s.resume operationId (.enableData .entering) else s
  | .entering, .next =>
    if s.compensationOwned then s.resume operationId (.enableData .enabling)
    else s.resume operationId (.failing .dataEnableFailed)
  | .enabling, .answer answer =>
    s.resume operationId (.enableData (.verifying (mutationOutcome answer)))
  | .verifying outcome, .answer answer =>
    let readback := observeResult answer
    let s := s.release (readback = .ok .enabled)
    match mutationReport (enableResult outcome readback) with
    | some outcome => s.resume operationId (.enableData (.reporting outcome))
    | none => s.resume operationId (.failing .dataEnableFailed)
  | .enabling, .expired | .verifying _, .expired =>
    s.resume operationId (.enableData (.reporting .uncertain))
  | .reporting outcome, .next =>
    s.transitionCurrent operationId (.dataEnableEffectCompleted outcome)
  | stage, _ => s.resume operationId (.enableData stage)

def runAfterIp : AfterIpStage → TaskInput → RotationRuntime
  | .begun, .next =>
    match s.operationGenerationDeadline operationId false with
    | some generation => s.resume operationId (.afterIp (.probing generation))
    | none => s
  | .probing afterGeneration, .egress generation address =>
    if generation = afterGeneration then
      s.resume operationId (.afterIp (.checkingCredential generation address))
    else s.resume operationId (.failing .afterIpFailed)
  | .probing _, .egressFailed => s.resume operationId (.failing .afterIpFailed)
  | .probing _, .expired => s.resume operationId (.failing .deadlineExceeded)
  | .checkingCredential generation address, .credential current =>
    if current ∧ s.machine.snapshot.operationId = some operationId then
      s.resume operationId (.afterIp (.reporting generation address))
    else s.resume operationId (.failing .credentialChanged)
  | .reporting generation address, .next =>
    s.transitionOrFail operationId (.recordAfterIp generation address) .afterIpFailed
  | stage, _ => s.resume operationId (.afterIp stage)

def restoreEnabledDirect : RestoreStage → TaskInput → RotationRuntime
  | .observing, .answer answer =>
    match observeResult answer with
    | .ok .enabled => s.resume operationId (.restoreEnabled (.recording .alreadyEnabled))
    | .ok .disabled => s.resume operationId (.restoreEnabled .entering)
    | .error _ => s.resume operationId (.restoreEnabled (.recording .uncertain))
  | .observing, .expired | .observingAgain, .expired =>
    s.resume operationId (.restoreEnabled (.recording .uncertain))
  | .entering, .next =>
    if s.compensationOwned then s.resume operationId (.restoreEnabled .enabling)
    else s.resume operationId (.restoreEnabled (.recording .failed))
  | .enabling, .answer answer =>
    s.resume operationId (.restoreEnabled (.verifying (mutationOutcome answer)))
  | .verifying outcome, .answer answer =>
    let readback := observeResult answer
    let s := s.release (readback = .ok .enabled)
    match enableResult outcome readback with
    | .ok () | .error .mutationUncertain | .error .sessionUnavailable =>
      s.resume operationId (.restoreEnabled .observingAgain)
    | .error _ => s.resume operationId (.restoreEnabled (.recording .failed))
  | .enabling, .expired | .verifying _, .expired =>
    s.resume operationId (.restoreEnabled (.recording .failed))
  | .observingAgain, .answer answer =>
    match observeResult answer with
    | .ok .enabled => s.resume operationId (.restoreEnabled (.recording .restoredEnabled))
    | .ok .disabled => s.resume operationId (.restoreEnabled (.recording .failed))
    | .error _ => s.resume operationId (.restoreEnabled (.recording .uncertain))
  -- nothing is scheduled after this one, and a closed coordinator records it too
  | .recording restore, .next =>
    if s.machine.snapshot.operationId = some operationId ∧ s.machine.snapshot.phase = .failed then
      { s with machine := (s.machine.onCurrent operationId (.recordRestore restore)).2 }
    else s
  | stage, _ => s.resume operationId (.restoreEnabled stage)

def advance (stage : TaskStage) (input : TaskInput) : RotationRuntime :=
  match stage, input with
  | .deadline, .expired => s.transitionCurrent operationId .deadlineExceeded
  | .deadline, .cancelled => s
  | .beforeIp stage, input => s.runBeforeIp operationId stage input
  | .disableData stage, input => s.runDisableData operationId stage input
  | .enableData stage, input => s.runEnableData operationId stage input
  | .afterIp stage, input => s.runAfterIp operationId stage input
  | .restoreEnabled stage, input => s.restoreEnabledDirect operationId stage input
  | .failing failure, .credential current => s.fail operationId failure current
  | .draining forceRestore, .next =>
    if s.machine.snapshot.phase = .failed ∧
        (s.machine.snapshot.restoreRequired ∨ forceRestore) then
      s.resume operationId (.restoreEnabled .observing)
    else s
  | stage, _ => s.resume operationId stage

/-! ### The calls from outside -/

def prepare (beforeGeneration : Nat) : RotationRuntime :=
  if s.closed then s
  else match s.machine.start beforeGeneration with
    | (.ok _, machine) => { s with machine := machine, deadline := none, claimed := [] }
    | (.error _, _) => s

def activatePrepared : RotationRuntime :=
  if s.closed ∨ s.deadline.isSome ∨ s.machine.snapshot.operationId ≠ some operationId ∨
      s.machine.snapshot.phase ≠ .preparing then s
  else
    { s with
      deadline := some operationId
      tasks := ⟨operationId, .deadline⟩ :: s.tasks
      announced := s.machine.snapshot :: s.announced }

def failPreparedBeforeMutation : RotationRuntime :=
  if s.machine.snapshot.operationId = some operationId ∧
      s.machine.snapshot.phase = .preparing then
    { s with
      machine := (s.machine.onCurrent operationId (.fail .stateUnavailable)).2
      deadline := none
      claimed := [] }
  else s

/-- A call about whichever operation is current. -/
def observe (call : OperationCall) : RotationRuntime :=
  match s.machine.snapshot.operationId with
  | some operationId => s.transitionCurrent operationId call
  | none => s

/-- While the loss of the old network is waited for, a refused admission counts only when
the network itself was reported lost. -/
def observeCellular (generation : Nat) (admitted networkLost : Bool) : RotationRuntime :=
  if admitted = false ∧ networkLost = false ∧ (s.machine.snapshot.phase = .dataDisabling ∨
      s.machine.snapshot.phase = .waitingCellularLoss) then s
  else s.observe (.observeCellular generation admitted)

def observeRootPolicy (generation : Nat) (authorized : Bool) : RotationRuntime :=
  s.observe (.observeRootPolicy generation authorized)

def shutdown : RotationRuntime :=
  if s.closed then s
  else match s.machine.snapshot.operationId with
    | none => { s with closed := true }
    | some operationId =>
      let phase := s.machine.snapshot.phase
      let forceRestore :=
        phase = .dataDisabling ∨ phase = .waitingCellularLoss ∨ phase = .dataEnabling
      { s with
        closed := true
        machine :=
          if phase.terminal then s.machine
          else (s.machine.onCurrent operationId (.fail .stateUnavailable)).2
        tasks := ⟨operationId, .draining forceRestore⟩ :: s.tasks }

inductive Action where
  | prepare (beforeGeneration : Nat)
  | activatePrepared (operationId : Nat)
  | failPreparedBeforeMutation (operationId : Nat)
  | observeCellular (generation : Nat) (admitted networkLost : Bool)
  | observeRootPolicy (generation : Nat) (authorized : Bool)
  | shutdown
  | schedule (snapshot : RotationSnapshot)
  | advance (task : RotationTask) (input : TaskInput)
  | abandon (task : RotationTask)
  deriving DecidableEq

def step : Action → RotationRuntime
  | .prepare beforeGeneration => s.prepare beforeGeneration
  | .activatePrepared operationId => s.activatePrepared operationId
  | .failPreparedBeforeMutation operationId => s.failPreparedBeforeMutation operationId
  | .observeCellular generation admitted networkLost =>
    s.observeCellular generation admitted networkLost
  | .observeRootPolicy generation authorized => s.observeRootPolicy generation authorized
  | .shutdown => s.shutdown
  | .schedule snapshot =>
    if snapshot ∈ s.announced then
      { s with announced := s.announced.erase snapshot }.scheduleFor snapshot
    else s
  | .advance task input =>
    if task ∈ s.tasks then
      { s with tasks := s.tasks.erase task }.advance task.operation task.stage input
    else s
  | .abandon task => { s with tasks := s.tasks.erase task }

end RotationRuntime

end MishProxy.Rotation
