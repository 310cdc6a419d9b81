import MishProxy.Control.ProxyQuery
import MishProxy.Rotation.Outcome

/-!
# The control runtime of the device

One task serves the connection of the device to its remote control: it authenticates, reads the
commands one after the other and writes the answers. A rotation that was asked for remotely is
prepared with the rotation owner, accepted in writing and only then activated. `pending` remembers
the request until its result is acknowledged, and the last acknowledged requests stay in
`recent_terminal`, so that a repeated command is answered and not run again.

The task gives up its lock between any two of its stages. In the meantime the rotation owner moves
on by itself, a local rotation may use it, a snapshot may reach `observe_rotation`, and the product
may shut the runtime down. Writing, signing and the preconditions of a rotation are answers from
outside.
-/

namespace MishProxy.Control

open Rotation

/-! ## Messages -/

inductive ServerControlMessage where
  | challenge (nonce : Text)
  | ready
  | rotateIp (requestId : Text)
  | getProxy (requestId : Text)
  | resultAck (requestId : Text)
  deriving DecidableEq

inductive RemoteRotationResult where
  | changed
  | unchanged
  | failed
  | rejected
  deriving DecidableEq, Repr

inductive DeviceMessage where
  | auth (deviceId signature : Text)
  | accepted (requestId : Text) (operationId : Nat)
  | result (requestId : Text) (result : RemoteRotationResult) (operationId : Option Nat)
  | proxy (requestId : Text) (answer : ProxyAnswer)
  deriving DecidableEq

def RemoteRotationResult.ofTerminal : RotationTerminalResult → RemoteRotationResult
  | .changed => .changed
  | .unchanged => .unchanged
  | .failed => .failed

/-! ## The state behind the lock -/

structure PendingRemoteOperation where
  requestId : Text
  operationId : Option Nat
  result : Option RemoteRotationResult
  deriving DecidableEq

structure ControlState where
  pending : Option PendingRemoteOperation
  recentTerminal : List PendingRemoteOperation
  lastTerminalResult : Option RemoteRotationResult
  closed : Bool
  deriving DecidableEq

/-- `CONTROL_RECENT_TERMINAL_REQUESTS` -/
def recentTerminalRequests : Nat := 32

namespace ControlState

def new : ControlState := ⟨none, [], none, false⟩

variable (state : ControlState)

def ackResult (requestId : Text) : ControlState :=
  match state.pending with
  | none => state
  | some completed =>
    if completed.requestId = requestId ∧ completed.operationId.isSome ∧ completed.result.isSome then
      { state with
        pending := none
        recentTerminal :=
          (completed :: state.recentTerminal.filter (·.requestId ≠ requestId)).take
            recentTerminalRequests }
    else state

def conclude (operation : PendingRemoteOperation) (result : RemoteRotationResult) : ControlState :=
  { state with
    pending := some { operation with result := some result }
    lastTerminalResult := some result }

def observeRotation (snapshot : RotationSnapshot) : ControlState :=
  match snapshot.operationId, snapshot.terminalResult, state.pending with
  | some operationId, some terminal, some operation =>
    if operation.operationId = some operationId ∧ operation.result = none then
      state.conclude operation (.ofTerminal terminal)
    else state
  | _, _, _ => state

def markAcceptanceDeliveryFailed (requestId : Text) (operationId : Nat) : ControlState :=
  match state.pending with
  | none => state
  | some operation =>
    if operation.requestId ≠ requestId ∨ operation.operationId ≠ some operationId ∨
        operation.result.isSome then state
    else state.conclude operation .rejected

/-- What `handle_rotate_ip` records when the activation was refused. It looks at the request
only. -/
def markActivationFailed (requestId : Text) : ControlState :=
  match state.pending with
  | none => state
  | some operation =>
    if operation.requestId = requestId then state.conclude operation .rejected else state

def reserve (requestId : Text) (operationId : Nat) : ControlState :=
  { state with pending := some ⟨requestId, some operationId, none⟩ }

def shutdown : ControlState :=
  if state.closed then state else { state with closed := true, pending := none }

/-- The operations that are remembered. -/
def records : List PendingRemoteOperation := state.pending.toList ++ state.recentTerminal

end ControlState

/-! ## The task -/

/-- Which step of `handle_rotate_ip` failed. A refused scheduling fails the operation inside of
`activate_prepared` already, and `handle_rotate_ip` then fails it once more. -/
inductive FailedStep where
  | acceptance
  | scheduling
  | activation
  deriving DecidableEq

/-- How the task goes on once a message is written. -/
inductive AfterWrite where
  | awaitReady
  | serve
  | remember (result : RemoteRotationResult)
  | repeatResult (operation : PendingRemoteOperation) (operationId : Nat)
  | activate (requestId : Text) (operationId : Nat)
  deriving DecidableEq

inductive ControlStage where
  | offline
  | awaitingChallenge
  | signing (nonce : Text)
  | awaitingReady
  | flushing
  | serving
  | writing (message : DeviceMessage) (after : AfterWrite)
  | preparing (requestId : Text)
  | reserving (requestId : Text) (operationId : Nat)
  | activating (requestId : Text) (operationId : Nat)
  | scheduling (requestId : Text) (operationId : Nat)
  | failing (requestId : Text) (operationId : Nat) (step : FailedStep)
  | publishing (requestId : Text) (operationId : Nat) (step : FailedStep)
      (snapshot : RotationSnapshot)
  | concluding (requestId : Text) (operationId : Nat) (step : FailedStep)
  | querying (requestId : Text)
  | stopped
  deriving DecidableEq

/-- The stages at which the task waits, and at which it can be cancelled. -/
def ControlStage.waits : ControlStage → Bool
  | .offline | .awaitingChallenge | .awaitingReady | .serving | .writing _ _ => true
  | _ => false

inductive ControlInput where
  | connected
  | disconnected
  | receive (message : ServerControlMessage)
  | signed (signature : Option Text)
  | resultChanged
  | next
  | written (ok : Bool)
  | prepared (beforeGeneration : Option Nat)
  | scheduled (ok : Bool)
  | answered (answer : ProxyAnswer)
  | rotation (action : RotationRuntime.Action)
  | notified (snapshot : RotationSnapshot)
  | shutdown
  | cancelled
  deriving DecidableEq

/-- What a step does that others can see; `confirmed` is the successful return of
`activate_prepared`. -/
inductive ControlEffect where
  | nothing
  | sent (message : DeviceMessage)
  | prepared (requestId : Text) (operationId : Nat)
  | activated (operationId : Nat)
  | confirmed (operationId : Nat)
  deriving DecidableEq

structure ControlRuntime where
  deviceId : Text
  control : ControlState
  rotation : RotationRuntime
  published : List RotationSnapshot
  stage : ControlStage
  deriving DecidableEq

namespace ControlRuntime

def new (deviceId : Text) : ControlRuntime where
  deviceId := deviceId
  control := .new
  rotation := .new
  published := []
  stage := .offline

variable (d : ControlRuntime)

def goto (stage : ControlStage) : ControlRuntime := { d with stage := stage }

def write (message : DeviceMessage) (after : AfterWrite) : ControlRuntime :=
  d.goto (.writing message after)

def sendKnownOperation (operation : PendingRemoteOperation) : ControlRuntime :=
  match operation.operationId with
  | none => d.goto .offline
  | some operationId =>
    d.write (.accepted operation.requestId operationId) (.repeatResult operation operationId)

/-- The first lock of `handle_rotate_ip` and what follows from it. -/
def handleRotateIp (requestId : Text) : ControlRuntime :=
  match d.control.pending with
  | some existing =>
    if existing.requestId = requestId then d.sendKnownOperation existing
    else d.write (.result requestId .rejected none) .serve
  | none =>
    match d.control.recentTerminal.find? (·.requestId = requestId) with
    | some existing => d.sendKnownOperation existing
    | none => d.goto (.preparing requestId)

def receive (message : ServerControlMessage) : ControlRuntime :=
  match d.stage, message with
  | .awaitingChallenge, .challenge nonce => d.goto (.signing nonce)
  | .awaitingReady, .ready => d.goto .flushing
  | .serving, .rotateIp requestId => d.handleRotateIp requestId
  | .serving, .getProxy requestId => d.goto (.querying requestId)
  | .serving, .resultAck requestId => { d with control := d.control.ackResult requestId }
  | .awaitingChallenge, _ | .awaitingReady, _ | .serving, _ => d.goto .offline
  | _, _ => d

/-- `send_pending_result_if_terminal`, up to its write. -/
def flush : ControlRuntime :=
  match d.control.pending with
  | some ⟨requestId, operationId, some result⟩ =>
    d.write (.result requestId result operationId) .serve
  | _ => d.goto .serving

def afterWrite : AfterWrite → ControlRuntime
  | .awaitReady => d.goto .awaitingReady
  | .serve => d.goto .serving
  | .remember result =>
    { d with control := { d.control with lastTerminalResult := some result } }.goto .serving
  | .repeatResult operation operationId =>
    match operation.result with
    | none => d.goto .serving
    | some result => d.write (.result operation.requestId result (some operationId)) .serve
  | .activate requestId operationId => d.goto (.activating requestId operationId)

/-- A write that fails ends the connection; the acceptance of a rotation is taken back first. -/
def afterFailedWrite : AfterWrite → ControlRuntime
  | .activate requestId operationId => d.goto (.failing requestId operationId .acceptance)
  | _ => d.goto .offline

/-- `RotationRuntimeCoordinator::prepare`, with the generation that its preconditions gave. -/
def prepare (requestId : Text) (beforeGeneration : Option Nat) : ControlEffect × ControlRuntime :=
  let refused := d.write (.result requestId .rejected none) (.remember .rejected)
  match beforeGeneration with
  | none => (.nothing, refused)
  | some beforeGeneration =>
    if d.rotation.closed then (.nothing, refused)
    else match d.rotation.machine.start beforeGeneration with
      | (.error _, _) => (.nothing, refused)
      | (.ok operationId, _) =>
        (.prepared requestId operationId,
          { d with rotation := d.rotation.step (.prepare beforeGeneration) }.goto
            (.reserving requestId operationId))

def activatable (operationId : Nat) : Bool :=
  !d.rotation.closed && d.rotation.deadline.isNone &&
    decide (d.rotation.machine.snapshot.operationId = some operationId) &&
    decide (d.rotation.machine.snapshot.phase = .preparing)

/-- Where the task goes on after `fail_prepared_before_mutation`. -/
def afterFailing (requestId : Text) (operationId : Nat) : FailedStep → ControlStage
  | .acceptance => .concluding requestId operationId .acceptance
  | .scheduling => .failing requestId operationId .activation
  | .activation => .concluding requestId operationId .activation

/-- The sections of `handle_rotate_ip` that wait for nothing. -/
def proceed : ControlEffect × ControlRuntime :=
  match d.stage with
  | .flushing => (.nothing, d.flush)
  | .reserving requestId operationId =>
    match d.control.pending with
    | none =>
      (.nothing, { d with control := d.control.reserve requestId operationId }.write
        (.accepted requestId operationId) (.activate requestId operationId))
    -- the owner would publish into the lock that is held here
    | some _ =>
      (.nothing, { d with
        rotation := d.rotation.step (.failPreparedBeforeMutation operationId) }.goto .stopped)
  | .activating requestId operationId =>
    if d.activatable operationId then
      (.activated operationId, { d with
        rotation := d.rotation.step (.activatePrepared operationId) }.goto
          (.scheduling requestId operationId))
    else (.nothing, d.goto (.failing requestId operationId .activation))
  | .failing requestId operationId step =>
    if d.rotation.machine.snapshot.operationId = some operationId ∧
        d.rotation.machine.snapshot.phase = .preparing then
      let rotation := d.rotation.step (.failPreparedBeforeMutation operationId)
      (.nothing, { d with rotation := rotation }.goto
        (.publishing requestId operationId step rotation.machine.snapshot))
    else (.nothing, d.goto (afterFailing requestId operationId step))
  -- the owner publishes on the thread of the task
  | .publishing requestId operationId step snapshot =>
    (.nothing, { d with control := d.control.observeRotation snapshot }.goto
      (afterFailing requestId operationId step))
  | .concluding requestId operationId .acceptance =>
    (.nothing, { d with
      control := d.control.markAcceptanceDeliveryFailed requestId operationId }.goto .offline)
  | .concluding requestId _ _ =>
    (.nothing, { d with control := d.control.markActivationFailed requestId }.goto .serving)
  | _ => (.nothing, d)

def step : ControlInput → ControlEffect × ControlRuntime
  | .connected => (.nothing, if d.stage = .offline then d.goto .awaitingChallenge else d)
  | .disconnected =>
    (.nothing, match d.stage with
      | .awaitingChallenge | .awaitingReady | .serving => d.goto .offline
      | _ => d)
  | .receive message => (.nothing, d.receive message)
  | .signed signature =>
    (.nothing, match d.stage, signature with
      | .signing _, some signature => d.write (.auth d.deviceId signature) .awaitReady
      | .signing _, none => d.goto .offline
      | _, _ => d)
  | .resultChanged => (.nothing, if d.stage = .serving then d.goto .flushing else d)
  | .next => d.proceed
  | .written ok =>
    match d.stage, ok with
    | .writing message after, true => (.sent message, d.afterWrite after)
    | .writing _ after, false => (.nothing, d.afterFailedWrite after)
    | _, _ => (.nothing, d)
  | .prepared beforeGeneration =>
    match d.stage with
    | .preparing requestId => d.prepare requestId beforeGeneration
    | _ => (.nothing, d)
  | .scheduled ok =>
    match d.stage, ok with
    | .scheduling _ operationId, true => (.confirmed operationId, d.goto .serving)
    | .scheduling requestId operationId, false =>
      (.nothing, d.goto (.failing requestId operationId .scheduling))
    | _, _ => (.nothing, d)
  | .answered answer =>
    (.nothing, match d.stage with
      | .querying requestId => d.write (.proxy requestId answer) .serve
      | _ => d)
  | .rotation action =>
    (.nothing, { d with
      rotation := d.rotation.step action
      published := (d.rotation.step action).machine.snapshot :: d.published })
  | .notified snapshot =>
    (.nothing, if snapshot ∈ d.published then
      { d with
        control := d.control.observeRotation snapshot
        published := d.published.erase snapshot }
      else d)
  | .shutdown => (.nothing, { d with control := d.control.shutdown })
  | .cancelled => (.nothing, if d.control.closed ∧ d.stage.waits then d.goto .stopped else d)

end ControlRuntime

open ControlRuntime

/-! ## What a step can do -/

/-- The request and the rotation that `handle_rotate_ip` is working on. -/
def ControlStage.operation : ControlStage → Option (Text × Nat)
  | .reserving requestId operationId | .writing _ (.activate requestId operationId)
  | .activating requestId operationId | .scheduling requestId operationId
  | .failing requestId operationId _ | .publishing requestId operationId _ _
  | .concluding requestId operationId _ => some (requestId, operationId)
  | _ => none

/-- The operation may still be activated for good. -/
def ControlStage.hopeful : ControlStage → Bool
  | .reserving _ _ | .writing _ (.activate _ _) | .activating _ _ | .scheduling _ _ => true
  | _ => false

/-- The request has its record. -/
def ControlStage.reserved : ControlStage → Bool
  | .reserving _ _ => false
  | _ => true

/-- The task goes on with the rotation it is working on, or drops it. -/
structure ControlStage.Continues (stage next : ControlStage) : Prop where
  operation : next.operation = none ∨
    next.operation = stage.operation ∧ stage.reserved = true
  hopeful : next.hopeful = true → stage.hopeful = true
  scheduling : ∀ requestId operationId, next ≠ .scheduling requestId operationId
  publishing : ∀ requestId operationId step snapshot,
    next ≠ .publishing requestId operationId step snapshot
  preparing : ∀ requestId, next ≠ .preparing requestId

/-- The task works on no rotation there. -/
def ControlStage.idle : ControlStage → Bool
  | .offline | .awaitingChallenge | .signing _ | .awaitingReady | .flushing | .serving
  | .querying _ | .stopped => true
  | .writing _ (.activate _ _) => false
  | .writing _ _ => true
  | _ => false

def ControlEffect.silent : ControlEffect → Bool
  | .nothing | .sent _ => true
  | _ => false

inductive Change (d : ControlRuntime) (input : ControlInput) :
    ControlEffect → ControlRuntime → Prop where
  | stays : Change d input .nothing d
  | goes {effect stage} (hsilent : effect.silent = true)
    (hcontinues : d.stage.Continues stage) : Change d input effect (d.goto stage)
  | remembers {effect} (result : RemoteRotationResult)
    (hsilent : effect.silent = true) :
    Change d input effect
      ({ d with control := { d.control with lastTerminalResult := some result } }.goto .serving)
  | asks {requestId} (hinput : input = .receive (.rotateIp requestId))
    (hstage : d.stage = .serving) (hfree : d.control.pending = none) :
    Change d input .nothing (d.goto (.preparing requestId))
  | acknowledges (requestId : Text) (hinput : input = .receive (.resultAck requestId))
    (hstage : d.stage = .serving) :
    Change d input .nothing { d with control := d.control.ackResult requestId }
  | prepares {requestId} (beforeGeneration : Nat) (hstage : d.stage = .preparing requestId)
    (hlt : d.rotation.machine.nextOperationId <
      (d.rotation.step (.prepare beforeGeneration)).machine.nextOperationId) :
    Change d input (.prepared requestId d.rotation.machine.nextOperationId)
      ({ d with rotation := d.rotation.step (.prepare beforeGeneration) }.goto
        (.reserving requestId d.rotation.machine.nextOperationId))
  | reserves {requestId operationId}
    (hstage : d.stage = .reserving requestId operationId) (hfree : d.control.pending = none) :
    Change d input .nothing ({ d with control := d.control.reserve requestId operationId }.write
      (.accepted requestId operationId) (.activate requestId operationId))
  | sticks (operationId : Nat) :
    Change d input .nothing ({ d with
      rotation := d.rotation.step (.failPreparedBeforeMutation operationId) }.goto .stopped)
  | activates {requestId operationId}
    (hstage : d.stage = .activating requestId operationId) :
    Change d input (.activated operationId) ({ d with
      rotation := d.rotation.step (.activatePrepared operationId) }.goto
        (.scheduling requestId operationId))
  | confirms {requestId operationId}
    (hstage : d.stage = .scheduling requestId operationId) :
    Change d input (.confirmed operationId) (d.goto .serving)
  | fails {requestId operationId step}
    (hstage : d.stage = .failing requestId operationId step) :
    Change d input .nothing
      ({ d with rotation := d.rotation.step (.failPreparedBeforeMutation operationId) }.goto
        (.publishing requestId operationId step
          (d.rotation.step (.failPreparedBeforeMutation operationId)).machine.snapshot))
  | publishes {requestId operationId step snapshot stage}
    (hstage : d.stage = .publishing requestId operationId step snapshot)
    (hcontinues : d.stage.Continues stage) :
    Change d input .nothing ({ d with control := d.control.observeRotation snapshot }.goto stage)
  | refusesAcceptance {requestId operationId}
    (hstage : d.stage = .concluding requestId operationId .acceptance) :
    Change d input .nothing ({ d with
      control := d.control.markAcceptanceDeliveryFailed requestId operationId }.goto .offline)
  | refusesActivation {requestId operationId step}
    (hstage : d.stage = .concluding requestId operationId step) :
    Change d input .nothing
      ({ d with control := d.control.markActivationFailed requestId }.goto .serving)
  | rotates (action : RotationRuntime.Action) :
    Change d input .nothing { d with
      rotation := d.rotation.step action
      published := (d.rotation.step action).machine.snapshot :: d.published }
  | observes {snapshot} (hpublished : snapshot ∈ d.published) :
    Change d input .nothing { d with
      control := d.control.observeRotation snapshot
      published := d.published.erase snapshot }
  | closes (hinput : input = .shutdown) :
    Change d input .nothing { d with control := d.control.shutdown }

namespace Change

variable {d : ControlRuntime} {input : ControlInput}

theorem turns {effect stage} (hsilent : effect.silent = true)
    (hidle : stage.idle = true) : Change d input effect (d.goto stage) := by
  have hnone : stage.operation = none ∧ stage.hopeful = false := by
    cases stage with
    | writing msg after => cases after <;> first | exact ⟨rfl, rfl⟩ | cases hidle
    | _ => first | exact ⟨rfl, rfl⟩ | cases hidle
  refine .goes hsilent ⟨.inl hnone.1, ?_, ?_, ?_, ?_⟩
  · exact fun hhopeful => absurd (hnone.2.symm.trans hhopeful) Bool.false_ne_true
  · rintro reqId opId rfl
    cases hidle
  · rintro reqId opId step snap rfl
    cases hidle
  · rintro reqId rfl
    cases hidle

theorem sendKnownOperation {effect} (hsilent : effect.silent = true)
    (op : PendingRemoteOperation) : Change d input effect (d.sendKnownOperation op) := by
  unfold ControlRuntime.sendKnownOperation
  split
  · exact turns hsilent rfl
  · exact turns hsilent rfl

theorem handleRotateIp (reqId : Text) (hstg : d.stage = .serving) :
    Change d (.receive (.rotateIp reqId)) .nothing (d.handleRotateIp reqId) := by
  unfold ControlRuntime.handleRotateIp
  split
  · split
    · exact sendKnownOperation rfl _
    · exact turns rfl rfl
  · split
    · exact sendKnownOperation rfl _
    · exact .asks rfl hstg ‹_›

theorem receive (msg : ServerControlMessage) :
    Change d (.receive msg) .nothing (d.receive msg) := by
  unfold ControlRuntime.receive
  split
  · exact turns rfl rfl
  · exact turns rfl rfl
  · exact handleRotateIp _ ‹_›
  · exact turns rfl rfl
  · exact .acknowledges _ rfl ‹_›
  · exact turns rfl rfl
  · exact turns rfl rfl
  · exact turns rfl rfl
  · exact .stays

theorem flush : Change d input .nothing d.flush := by
  unfold ControlRuntime.flush
  split
  · exact turns rfl rfl
  · exact turns rfl rfl

theorem afterWrite {msg after}
    (hstg : d.stage = .writing msg after) : Change d input (.sent msg) (d.afterWrite after) := by
  cases after with
  | awaitReady | serve => exact turns rfl rfl
  | remember res => exact .remembers res rfl
  | repeatResult op opId =>
    unfold ControlRuntime.afterWrite
    dsimp only
    split
    · exact turns rfl rfl
    · exact turns rfl rfl
  | activate reqId opId =>
    refine .goes rfl ⟨.inr ?_, ?_, ?_, ?_, ?_⟩
    · rw [hstg]
      exact ⟨rfl, rfl⟩
    · rw [hstg]
      exact fun _ => rfl
    · simp
    · simp
    · simp

theorem afterFailedWrite {msg after}
    (hstg : d.stage = .writing msg after) : Change d input .nothing (d.afterFailedWrite after) := by
  cases after with
  | activate reqId opId =>
    refine .goes rfl ⟨.inr ?_, ?_, ?_, ?_, ?_⟩
    · rw [hstg]
      exact ⟨rfl, rfl⟩
    · rintro ⟨⟩
    · simp
    · simp
    · simp
  | _ => exact turns rfl rfl

theorem prepare {reqId : Text} (hstg : d.stage = .preparing reqId) (beforeGeneration : Option Nat) :
    Change d input (d.prepare reqId beforeGeneration).1 (d.prepare reqId beforeGeneration).2 := by
  unfold ControlRuntime.prepare
  cases beforeGeneration with
  | none => exact turns rfl rfl
  | some beforeGeneration =>
    dsimp only
    split
    · exact turns rfl rfl
    · rename_i hopen
      split
      · exact turns rfl rfl
      · rename_i opId machine hstart
        have hmachine : (d.rotation.step (.prepare beforeGeneration)).machine = machine := by
          show (d.rotation.prepare beforeGeneration).machine = machine
          simp only [RotationRuntime.prepare, hopen, hstart, Bool.false_eq_true, if_false]
        obtain ⟨rfl, rfl⟩ : opId = d.rotation.machine.nextOperationId ∧
            machine = ⟨d.rotation.machine.nextOperationId + 1,
              some (.started d.rotation.machine.nextOperationId beforeGeneration)⟩ := by
          unfold RotationStateMachine.start at hstart
          split_ifs at hstart
          · cases hstart
          · cases hstart
          · cases hstart
          · cases hstart
            exact ⟨rfl, rfl⟩
        refine .prepares beforeGeneration hstg ?_
        rw [hmachine]
        exact Nat.lt_succ_self _

theorem continues_afterFailing {stage : ControlStage} {reqId : Text} {opId : Nat}
    (hop : stage.operation = some (reqId, opId) ∧ stage.reserved = true)
    (step : FailedStep) : stage.Continues (afterFailing reqId opId step) := by
  cases step
  all_goals
    refine ⟨.inr ⟨hop.1.symm, hop.2⟩, ?_, ?_, ?_, ?_⟩
    · rintro ⟨⟩
    · rintro _ _ ⟨⟩
    · rintro _ _ _ _ ⟨⟩
    · rintro _ ⟨⟩

theorem proceed : Change d input d.proceed.1 d.proceed.2 := by
  unfold ControlRuntime.proceed
  split
  · exact flush
  · rename_i reqId opId hstg
    split
    · exact .reserves hstg ‹_›
    · exact .sticks opId
  · rename_i reqId opId hstg
    split
    · exact .activates hstg
    · refine .goes rfl ⟨.inr ?_, ?_, ?_, ?_, ?_⟩
      · rw [hstg]
        exact ⟨rfl, rfl⟩
      · rintro ⟨⟩
      · simp
      · simp
      · simp
  · rename_i reqId opId step hstg
    split
    · exact .fails hstg
    · refine .goes rfl (continues_afterFailing ?_ step)
      rw [hstg]
      exact ⟨rfl, rfl⟩
  · rename_i reqId opId step snap hstg
    refine .publishes hstg (continues_afterFailing ?_ step)
    rw [hstg]
    exact ⟨rfl, rfl⟩
  · exact .refusesAcceptance ‹_›
  · exact .refusesActivation ‹_›
  · exact .stays

end Change

theorem change_step (d : ControlRuntime) (input : ControlInput) :
    Change d input (d.step input).1 (d.step input).2 := by
  cases input with
  | connected =>
    show Change d _ .nothing (if d.stage = .offline then d.goto .awaitingChallenge else d)
    split
    · exact .turns rfl rfl
    · exact .stays
  | disconnected =>
    unfold step
    dsimp only
    split
    · exact .turns rfl rfl
    · exact .turns rfl rfl
    · exact .turns rfl rfl
    · exact .stays
  | receive msg => exact .receive msg
  | signed signature =>
    unfold step
    dsimp only
    split
    · exact .turns rfl rfl
    · exact .turns rfl rfl
    · exact .stays
  | resultChanged =>
    show Change d _ .nothing (if d.stage = .serving then d.goto .flushing else d)
    split
    · exact .turns rfl rfl
    · exact .stays
  | next => exact .proceed
  | written ok =>
    unfold step
    dsimp only
    split
    · exact .afterWrite ‹_›
    · exact .afterFailedWrite ‹_›
    · exact .stays
  | prepared beforeGeneration =>
    unfold step
    dsimp only
    split
    · exact .prepare ‹_› beforeGeneration
    · exact .stays
  | scheduled ok =>
    unfold step
    dsimp only
    split
    · exact .confirms ‹_›
    · rename_i reqId opId hstg
      refine .goes rfl ⟨.inr ?_, ?_, ?_, ?_, ?_⟩
      · rw [hstg]
        exact ⟨rfl, rfl⟩
      · rintro ⟨⟩
      · simp
      · simp
      · simp
    · exact .stays
  | answered ans | cancelled =>
    unfold step
    dsimp only
    split
    · exact .turns rfl rfl
    · exact .stays
  | rotation act => exact .rotates act
  | notified snap =>
    unfold step
    dsimp only
    split
    · exact .observes ‹_›
    · exact .stays
  | shutdown => exact .closes rfl

/-! ## The request that the device works on -/

/-- The inputs that do not come from the connection. -/
def ControlInput.internal : ControlInput → Bool
  | .connected | .disconnected | .receive _ | .written _ => false
  | _ => true

def ControlStage.reads : ControlStage → Bool
  | .awaitingChallenge | .awaitingReady | .serving => true
  | _ => false

namespace ControlState

variable (state : ControlState)

def pendingRequest : Option Text := state.pending.map (·.requestId)

theorem pendingRequest_conclude {op} (h : state.pending = some op) (res : RemoteRotationResult) :
    (state.conclude op res).pendingRequest = state.pendingRequest := by
  simp [pendingRequest, conclude, h]

theorem pendingRequest_observeRotation (snap : Rotation.RotationSnapshot) :
    (state.observeRotation snap).pendingRequest = state.pendingRequest := by
  unfold observeRotation
  split
  · split
    · exact state.pendingRequest_conclude ‹_› _
    · rfl
  · rfl

theorem pendingRequest_markAcceptanceDeliveryFailed (reqId : Text) (opId : Nat) :
    (state.markAcceptanceDeliveryFailed reqId opId).pendingRequest = state.pendingRequest := by
  unfold markAcceptanceDeliveryFailed
  split
  · rfl
  · split
    · rfl
    · exact state.pendingRequest_conclude ‹_› _

theorem pendingRequest_markActivationFailed (reqId : Text) :
    (state.markActivationFailed reqId).pendingRequest = state.pendingRequest := by
  unfold markActivationFailed
  split
  · rfl
  · split
    · exact state.pendingRequest_conclude ‹_› _
    · rfl

theorem pendingRequest_ackResult {reqId acknowledged : Text}
    (h : state.pendingRequest = some reqId) (hne : acknowledged ≠ reqId) :
    (state.ackResult acknowledged).pendingRequest = some reqId := by
  unfold ackResult
  split
  · exact h
  · rename_i completed hpend
    split
    · rename_i hacked
      simp only [pendingRequest, hpend, Option.map_some, Option.some.injEq] at h
      exact absurd (hacked.1.symm.trans h) hne
    · exact h

end ControlState

namespace ControlRuntime

/-- The request has the record or is about to get it; a task that has stopped asks for nothing. -/
def Holds (d : ControlRuntime) (requestId : Text) : Prop :=
  d.control.pendingRequest = some requestId ∨
    (∃ operationId, d.stage = .reserving requestId operationId) ∨ d.stage = .stopped

variable {d : ControlRuntime} {reqId : Text} {input : ControlInput}

theorem step_stopped (h : d.stage = .stopped) (input : ControlInput) :
    (d.step input).2.stage = .stopped := by
  cases input with
  | notified snap =>
    unfold step
    dsimp only
    split_ifs <;> exact h
  | _ => simp [step, receive, proceed, h, ControlStage.waits]

theorem step_reserving {opId : Nat} (h : d.stage = .reserving reqId opId)
    (input : ControlInput) : (d.step input).2.Holds reqId := by
  cases input with
  | next =>
    unfold step proceed
    rw [h]
    dsimp only
    split
    · exact .inl rfl
    · exact .inr (.inr rfl)
  | notified snap =>
    refine .inr (.inl ⟨opId, ?_⟩)
    unfold step
    dsimp only
    split_ifs <;> exact h
  | _ => exact .inr (.inl ⟨opId, by simp [step, receive, h, ControlStage.waits]⟩)

/-- Only the acknowledgement of its result and a shutdown take the record away. -/
theorem Holds.step (h : d.Holds reqId) (hopen : input ≠ .shutdown)
    (hack : input ≠ .receive (.resultAck reqId)) : (d.step input).2.Holds reqId := by
  rcases h with hpend | ⟨opId, hreserving⟩ | hstop
  · left
    have hchg := change_step d input
    generalize (d.step input).1 = effect at hchg
    generalize (d.step input).2 = after at hchg
    cases hchg with
    | acknowledges acknowledged hinput hstg =>
      refine d.control.pendingRequest_ackResult hpend ?_
      rintro rfl
      exact hack hinput
    | reserves hstg hfree => simp [ControlState.pendingRequest, hfree] at hpend
    | publishes hstg hcont => exact (d.control.pendingRequest_observeRotation _).trans hpend
    | refusesAcceptance hstg =>
      exact (d.control.pendingRequest_markAcceptanceDeliveryFailed _ _).trans hpend
    | refusesActivation hstg => exact (d.control.pendingRequest_markActivationFailed _).trans hpend
    | observes hpub => exact (d.control.pendingRequest_observeRotation _).trans hpend
    | closes hinput => exact absurd hinput hopen
    | _ => exact hpend
  · exact step_reserving hreserving input
  · exact .inr (.inr (step_stopped hstop input))

/-- A rotation is prepared for the request that the task has just asked for. -/
theorem prepared_step {opId : Nat} (h : (d.step input).1 = .prepared reqId opId) :
    d.stage = .preparing reqId ∧ (d.step input).2.stage = .reserving reqId opId := by
  have hchg := change_step d input
  generalize (d.step input).2 = after at hchg ⊢
  rw [h] at hchg
  cases hchg with
  | goes hsilent hcont | remembers res hsilent => cases hsilent
  | prepares beforeGeneration hstg hlt => exact ⟨hstg, rfl⟩

theorem preparing_step (h : (d.step input).2.stage = .preparing reqId) :
    d.stage = .preparing reqId ∧ (∀ other opId, (d.step input).1 ≠ .prepared other opId) ∨
      input = .receive (.rotateIp reqId) ∧ d.stage = .serving ∧ d.control.pending = none := by
  have hchg := change_step d input
  generalize (d.step input).2 = after at hchg h
  generalize (d.step input).1 = effect at hchg ⊢
  cases hchg with
  | goes hsilent hcont | publishes hstg hcont => exact absurd h (hcont.preparing reqId)
  | asks hinput hstg hfree =>
    cases h
    exact .inr ⟨hinput, hstg, hfree⟩
  | stays | acknowledges acknowledged hinput hstg | rotates act | observes hpub
  | closes hinput => exact .inl ⟨h, by simp⟩
  | _ => cases h

end ControlRuntime

end MishProxy.Control
