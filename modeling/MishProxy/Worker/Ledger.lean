import MishProxy.Worker.DeviceControl

/-!
# What a step of the worker does to its operations

The active operation, the operations that ended and the alarm are the ledger of the worker. A
step makes a few changes to it one after the other: it reconciles the active operation and then
dispatches or redelivers a rotation. `stepChanges_step` lists the changes with their conditions, and
the results about operations are proved from that list.
-/

namespace MishProxy.Worker

open Control Machine List

structure Ledger where
  active : Option Operation
  recent : List Operation
  alarm : Option Int

def DeviceControl.ledger (w : DeviceControl) : Ledger := ⟨w.active, w.recent, w.alarm⟩

def remember (terminal : Operation) (recent : List Operation) : List Operation :=
  (terminal :: recent.filter (·.requestId ≠ terminal.requestId)).take maxRecentOperations

/-- What a step brings along: the clock, the request id of a new manager request and the result
that a device message reports. -/
structure Cause where
  nowMs : Int
  requested : Option Text
  reported : Option (Text × RemoteRotationResult)

/-- The record is read again and stored with the same meaning. -/
structure Operation.Rests (operation after : Operation) : Prop where
  requestId : after.requestId = operation.requestId
  status : after.status = operation.status
  createdAtMs : after.createdAtMs = operation.createdAtMs
  acceptedAtMs : after.acceptedAtMs = operation.acceptedAtMs
  attempts : after.attempts = operation.attempts
  deliveryDeadline : after.deliveryDeadline = operation.deliveryDeadline
  recoveryDeadline : after.recoveryDeadline = operation.recoveryDeadline
  fencedAtMs : ∀ fencedAtMs, operation.fencedAtMs = some fencedAtMs →
    after.fencedAtMs = some fencedAtMs

theorem Operation.Rests.refl (op : Operation) : op.Rests op :=
  ⟨rfl, rfl, rfl, rfl, rfl, rfl, rfl, fun _ h => h⟩

/-- One change of the ledger, with the ids of the rotations that are sent. -/
inductive Change (cause : Cause) : Ledger → List Text → Ledger → Prop where
  | stays (l : Ledger) : Change cause l [] l
  | idles {l} (hactive : l.active = none) : Change cause l [] { l with alarm := none }
  | rests {l operation after alarmMs}
    (hactive : l.active = some operation) (hrests : operation.Rests after)
    (halarm : operation.status = .accepted → ∀ acceptedAtMs,
      operation.acceptedAtMs = some acceptedAtMs → alarmMs = acceptedAtMs + acceptedResultLeaseMs) :
    Change cause l [] { l with active := some after, alarm := some alarmMs }
  | dates {l operation} (hactive : l.active = some operation)
    (hstatus : operation.status = .accepted) (hmissing : operation.acceptedAtMs = none) :
    Change cause l [] { l with
      active := some { operation with acceptedAtMs := some cause.nowMs }
      alarm := some (cause.nowMs + acceptedResultLeaseMs) }
  | halts {l operation} (hactive : l.active = some operation)
    (hstatus : operation.status = .terminal) : Change cause l [] { l with alarm := none }
  | recovers {l operation} (hactive : l.active = some operation)
    (hstatus : operation.status = .dispatched) (hattempts : operation.attempts < 2)
    (hdue : operation.deliveryDeadline ≤ cause.nowMs)
    (hearly : cause.nowMs < operation.recoveryDeadline) :
    Change cause l [] { l with
      active := some operation.recovering
      alarm := some operation.recoveryDeadline }
  | fences {l operation} (hactive : l.active = some operation)
    (hstatus : operation.status = .dispatched ∧ 2 ≤ operation.attempts ∨
      (operation.status = .dispatched ∨ operation.status = .recovering) ∧
        operation.recoveryDeadline ≤ cause.nowMs) :
    Change cause l [] { l with
      active := some (operation.fence cause.nowMs)
      alarm := some (cause.nowMs + fencedDrainMs) }
  | finishes {l operation result}
    (operationId : Option Nat) (hactive : l.active = some operation)
    (hresult : result = .unknown ∨ ∃ reported,
      result = .definitive reported ∧ cause.reported = some (operation.requestId, reported)) :
    Change cause l [] ⟨none,
      remember (operation.conclude cause.nowMs operationId result) l.recent, none⟩
  | redelivers {l operation} (sends : Bool)
    (hactive : l.active = some operation) (hstatus : operation.status = .recovering)
    (hearly : cause.nowMs < operation.recoveryDeadline) :
    Change cause l (if sends then [operation.requestId] else []) { l with
      active := some (operation.redelivered cause.nowMs)
      alarm := some (cause.nowMs + deliveryAckMs) }
  | accepts {l operation} (operationId : Nat)
    (hactive : l.active = some operation)
    (hstatus : operation.status = .dispatched ∨ operation.status = .recovering) :
    Change cause l [] { l with
      active := some (operation.accept cause.nowMs operationId)
      alarm := some (cause.nowMs + acceptedResultLeaseMs) }
  | names {l operation} (operationId : Nat)
    (hactive : l.active = some operation)
    (hstatus : operation.status = .accepted ∨ operation.status = .fenced) :
    Change cause l [] { l with active := some { operation with operationId := some operationId } }
  | upgrades {l known result}
    (operationId : Option Nat) (hknown : known ∈ l.recent)
    (hunknown : known.result = some .unknown)
    (hreported : cause.reported = some (known.requestId, result)) :
    Change cause l [] { l with
      recent := remember { known with
        operationId := operationId
        result := some (.definitive result)
        completedAtMs := some cause.nowMs } l.recent }

inductive Changes (cause : Cause) (l : Ledger) : List Text → Ledger → Prop where
  | none : Changes cause l [] l
  | more {sent more between after} (hpast : Changes cause l sent between)
    (hchange : Change cause between more after) : Changes cause l (sent ++ more) after

/-- A step makes changes, and it may dispatch a new rotation after them. -/
inductive StepChanges (cause : Cause) (l : Ledger) : List Text → Ledger → Prop where
  | settles {sent after} (hchanges : Changes cause l sent after) :
    StepChanges cause l sent after
  | dispatches {requestId between} (hchanges : Changes cause l [] between)
    (hactive : between.active = none) (hrequested : cause.requested = some requestId)
    (hnew : ∀ operation ∈ between.recent, operation.requestId ≠ requestId) :
    StepChanges cause l [requestId] { between with
      active := some (.dispatch requestId cause.nowMs)
      alarm := some (cause.nowMs + deliveryAckMs) }

namespace Changes

variable {cause : Cause} {l m n : Ledger} {sent more : List Text}

theorem one (h : Change cause l sent m) : Changes cause l sent m := .more .none h

theorem trans (h : Changes cause l sent m) (h' : Changes cause m more n) :
    Changes cause l (sent ++ more) n := by
  induction h' with
  | none => rwa [append_nil]
  | more _ hnext ih =>
    rw [← append_assoc]
    exact .more ih hnext

end Changes

/-! ## The handlers -/

def Sent.rotations (sent : Sent) : List Text :=
  sent.filterMap fun
    | (_, .rotateIp requestId) => some requestId
    | _ => none

def DeviceControl.Input.cause : DeviceControl.Input → Cause
  | .enroll _ _ nowMs | .connect _ _ nowMs | .verified _ _ nowMs _ _ | .proxy _ _ nowMs _
  | .alarm nowMs => ⟨nowMs, none, none⟩
  | .message _ (some (.result requestId result _)) nowMs _ =>
    ⟨nowMs, none, some (requestId, result)⟩
  | .message _ _ nowMs _ => ⟨nowMs, none, none⟩
  | .rotate requestId nowMs _ => ⟨nowMs, some requestId, none⟩
  | .waited _ _ nowMs => ⟨nowMs.getD 0, none, none⟩
  | .heartbeat _ _ | .disconnected _ | .waits _ _ _ | .proxied _ _ => ⟨0, none, none⟩

namespace DeviceControl

variable (w : DeviceControl)

@[simp] theorem ledger_closeStaleAuthenticatedSockets (nowMs : Int) :
    (w.closeStaleAuthenticatedSockets nowMs).ledger = w.ledger := rfl

@[simp] theorem ledger_fenceOperation (active : Operation) (nowMs : Int) (fenceSockets : Bool) :
    (w.fenceOperation active nowMs fenceSockets).ledger = { w.ledger with
        active := some (active.fence nowMs)
        alarm := some (nowMs + fencedDrainMs) } := by
  cases fenceSockets <;> rfl

@[simp] theorem ledger_finish (terminal : Operation) :
    (w.finish terminal).ledger = ⟨none, remember terminal w.recent, none⟩ := rfl

section

-- the alarm that is scheduled makes no difference, and it may have fired
variable {cause : Cause} {active : Operation} {alarm : Option Int}

theorem rests_migrateDelivery (active : Operation) : active.Rests active.migrateDelivery := by
  refine ⟨rfl, rfl, rfl, rfl, rfl, ?_, rfl, fun _ h => h⟩
  exact min_eq_left (min_le_right _ _)

variable (hactive : w.active = some active)
include hactive

theorem change_reconcileDispatched (hstat : active.status = .dispatched) (fenceSockets : Bool) :
    Change cause { w.ledger with alarm := alarm } []
      (w.reconcileDispatched active cause.nowMs fenceSockets).ledger := by
  unfold reconcileDispatched
  split_ifs with hearly hrecovers
  · refine .rests hactive (rests_migrateDelivery active) fun hacc => ?_
    rw [hstat] at hacc
    cases hacc
  · exact .recovers hactive hstat hrecovers.1 (not_lt.mp hearly) hrecovers.2
  · rw [ledger_fenceOperation]
    refine .fences hactive ?_
    by_cases hatts : active.attempts < 2
    · exact .inr ⟨.inl hstat, not_lt.mp fun hlt => hrecovers ⟨hatts, hlt⟩⟩
    · exact .inl ⟨hstat, not_lt.mp hatts⟩

theorem change_reconcileRecovering (hstat : active.status = .recovering) (fenceSockets : Bool) :
    Change cause { w.ledger with alarm := alarm } []
      (w.reconcileRecovering active cause.nowMs fenceSockets).ledger := by
  unfold reconcileRecovering
  split_ifs with hearly
  · refine .rests hactive ⟨rfl, rfl, rfl, rfl, rfl, rfl, rfl, fun _ h => h⟩ fun hacc => ?_
    rw [hstat] at hacc
    cases hacc
  · rw [ledger_fenceOperation]
    exact .fences hactive (.inr ⟨.inr hstat, not_lt.mp hearly⟩)

theorem change_finalizeUnknown :
    Change cause { w.ledger with alarm := alarm } []
      (w.finalizeUnknown active cause.nowMs).ledger :=
  .finishes active.operationId hactive (.inl rfl)

theorem change_reconcileAccepted (hstat : active.status = .accepted) :
    Change cause { w.ledger with alarm := alarm } []
      (w.reconcileAccepted active cause.nowMs).ledger := by
  unfold reconcileAccepted
  split
  · exact .dates hactive hstat ‹_›
  · rename_i acceptedAtMs hacc
    split_ifs
    · refine .rests hactive (.refl active) fun _ other hoth => ?_
      rw [Option.some.inj (hacc.symm.trans hoth)]
    · exact w.change_finalizeUnknown hactive

theorem change_reconcileFenced (hstat : active.status = .fenced) :
    Change cause { w.ledger with alarm := alarm } []
      (w.reconcileFenced active cause.nowMs).ledger := by
  have hnot : active.status = .accepted → False := by
    rw [hstat]
    simp
  unfold reconcileFenced
  split
  · refine .rests hactive ⟨rfl, rfl, rfl, rfl, rfl, rfl, rfl, ?_⟩ fun h => (hnot h).elim
    intro fencedAtMs hfenced
    simp [hfenced]
  · split_ifs
    · exact .rests hactive (.refl active) fun h => (hnot h).elim
    · exact w.change_finalizeUnknown hactive

omit hactive

theorem change_reconcile (fenceSockets : Bool) : Change cause w.ledger []
      (w.reconcileActiveOperation cause.nowMs fenceSockets).ledger := by
  unfold reconcileActiveOperation
  split
  · exact .idles ‹_›
  · rename_i active hactive
    split
    · exact w.change_reconcileDispatched hactive ‹_› fenceSockets
    · exact w.change_reconcileRecovering hactive ‹_› fenceSockets
    · exact w.change_reconcileAccepted hactive ‹_›
    · exact w.change_reconcileFenced hactive ‹_›
    · exact .stays _

theorem change_alarm : Change cause w.ledger []
      ({ w with alarm := none }.reconcileActiveOperation cause.nowMs true).ledger := by
  unfold reconcileActiveOperation
  split
  · rename_i hactive
    exact .idles hactive
  · rename_i active hactive
    split
    · exact change_reconcileDispatched { w with alarm := none } hactive ‹_› true
    · exact change_reconcileRecovering { w with alarm := none } hactive ‹_› true
    · exact change_reconcileAccepted { w with alarm := none } hactive ‹_›
    · exact change_reconcileFenced { w with alarm := none } hactive ‹_›
    · exact .halts hactive ‹_›

end

section

variable {cause : Cause}

theorem stepChanges_dispatchRotation (reqId : Text) (sends : Bool)
    (hreq : cause.requested = some reqId) :
    StepChanges cause w.ledger (w.dispatchRotation reqId cause.nowMs sends).2.1.rotations
      (w.dispatchRotation reqId cause.nowMs sends).2.2.ledger := by
  have hrcl : Changes cause w.ledger []
      (w.reconcileActiveOperation cause.nowMs true).ledger := .one (w.change_reconcile true)
  unfold dispatchRotation
  generalize w.reconcileActiveOperation cause.nowMs true = reconciled at hrcl
  dsimp only
  split
  · exact .settles hrcl
  · exact .settles hrcl
  · rename_i hknown hactive
    split
    · exact .settles hrcl
    · rename_i sock hsocket
      cases sends with
      | true =>
        refine .dispatches hrcl hactive hreq fun op hmem heq => ?_
        have hfound := find?_eq_none.mp hknown op hmem
        exact hfound (decide_eq_true heq)
      | false =>
        have hidle : Change cause reconciled.ledger []
            { reconciled.ledger with alarm := none } := .idles hactive
        have hledger : (reconciled.dispatchTo sock reqId cause.nowMs false).2.2.ledger =
            { reconciled.ledger with alarm := none } := by
          have hnone : reconciled.ledger.active = none := hactive
          simp only [dispatchTo, Bool.false_eq_true, if_false,
            ledger_closeStaleAuthenticatedSockets, ← hnone]
          rfl
        rw [hledger]
        exact .settles (hrcl.trans (.one hidle))

theorem changes_redeliver (sock : Nat) (sends : Bool) :
    Changes cause w.ledger (w.redeliverRecoveredOperation sock cause.nowMs sends).1.rotations
      (w.redeliverRecoveredOperation sock cause.nowMs sends).2.ledger := by
  unfold redeliverRecoveredOperation
  split
  · exact .none
  · rename_i active hactive
    split_ifs with hstat hlate
    · exact .none
    · exact .one (w.change_reconcile true)
    · exact .one (.redelivers true hactive (not_not.mp hstat) (not_le.mp hlate))
    · have hstored : Change cause w.ledger []
          (w.store (active.redelivered cause.nowMs) (cause.nowMs + deliveryAckMs)).ledger :=
        .redelivers false hactive (not_not.mp hstat) (not_le.mp hlate)
      rw [ledger_fenceOperation]
      exact (Changes.one hstored).trans (.one (.fences rfl (.inl ⟨rfl, le_rfl⟩)))

theorem changes_completeAuth (verif : Verification) (readySends rotateSends : Bool) :
    Changes cause w.ledger
      (w.completeAuth verif cause.nowMs readySends rotateSends).1.rotations
      (w.completeAuth verif cause.nowMs readySends rotateSends).2.ledger := by
  have hrcl : Changes cause w.ledger [] ((w.authenticateSocket verif
      cause.nowMs).reconcileActiveOperation cause.nowMs false).ledger :=
    .one ((w.authenticateSocket verif cause.nowMs).change_reconcile false)
  unfold completeAuth
  cases readySends with
  | true => exact hrcl.trans (changes_redeliver _ verif.socket rotateSends)
  | false => exact hrcl

theorem changes_handleAccepted (reqId : Text) (opId : Nat) :
    Changes cause w.ledger [] (w.handleAccepted reqId opId cause.nowMs).ledger := by
  unfold handleAccepted
  split
  · exact .none
  · rename_i active hactive
    split_ifs
    · exact .none
    · split
      · exact .one (.accepts opId hactive (.inl ‹_›))
      · exact .one (.accepts opId hactive (.inr ‹_›))
      · exact .one (.names opId hactive (.inl ‹_›))
      · exact .one (.names opId hactive (.inr ‹_›))
      · exact .none

@[simp] theorem rotations_sentIf_resultAck (sends : Bool) (sock : Nat) (reqId : Text) :
    (sentIf sends sock (.resultAck reqId)).rotations = [] := by
  cases sends <;> rfl

theorem changes_acceptLateResult (sock : Nat) {reqId res} (opId : Option Nat) (sends : Bool)
    (hrptd : cause.reported = some (reqId, res)) : Changes cause w.ledger
      (w.acceptLateResult sock reqId res opId cause.nowMs sends).1.rotations
      (w.acceptLateResult sock reqId res opId cause.nowMs sends).2.ledger := by
  unfold acceptLateResult
  split
  · exact .none
  · rename_i known hfound
    have hreqt : known.requestId = reqId := by
      simpa using find?_some hfound
    split_ifs with hunknown
    · exact .none
    · rw [rotations_sentIf_resultAck]
      refine .one (.upgrades _ (mem_of_find?_eq_some hfound) hunknown ?_)
      rw [hreqt]
      exact hrptd
    · rw [rotations_sentIf_resultAck]
      exact .none
    · exact .none

theorem changes_acceptResult (sock : Nat) {reqId res} (opId : Option Nat) (sends : Bool)
    (hrptd : cause.reported = some (reqId, res)) : Changes cause w.ledger
      (w.acceptResult sock reqId res opId cause.nowMs sends).1.rotations
      (w.acceptResult sock reqId res opId cause.nowMs sends).2.ledger := by
  unfold acceptResult
  split
  · exact w.changes_acceptLateResult sock opId sends hrptd
  · rename_i active hactive
    split_ifs with hoth
    · exact w.changes_acceptLateResult sock opId sends hrptd
    · exact .none
    · exact .none
    · rw [rotations_sentIf_resultAck, ledger_finish]
      refine .one (.finishes _ hactive (.inr ⟨res, rfl, ?_⟩))
      rw [not_not.mp hoth]
      exact hrptd

theorem ledger_beginAuth (sock : Socket) (deviceId signature : Text) (nowMs : Int) :
    (w.beginAuth sock deviceId signature nowMs).ledger = w.ledger := by
  unfold beginAuth
  split
  · split_ifs <;> rfl
  · rfl

theorem changes_webSocketMessage (sock : Nat) (msg : Option DeviceMessage) (nowMs : Int)
    (sends : Bool) : Changes (Input.message sock msg nowMs sends).cause w.ledger
      (w.webSocketMessage sock msg nowMs sends).1.rotations
      (w.webSocketMessage sock msg nowMs sends).2.ledger := by
  unfold webSocketMessage
  split
  · rename_i found msg _
    split_ifs
    · exact .none
    · split
      · rw [ledger_beginAuth]
        exact .none
      · exact .none
    · split
      · exact w.changes_handleAccepted _ _
      · exact w.changes_acceptResult sock _ sends rfl
      · exact .none
      · exact .none
  · exact .none

theorem ledger_enroll (ident : DeviceIdentity) (expd : Option Text) (nowMs : Int) :
    (w.enroll ident expd nowMs).ledger = w.ledger := by
  unfold enroll
  split
  · rfl
  · split
    · split <;> rfl
    · dsimp only
      split_ifs <;> rfl

end

theorem stepChanges_step (input : Input) :
    StepChanges input.cause w.ledger (w.step input).1.rotations (w.step input).2.ledger := by
  cases input with
  | enroll ident expd nowMs =>
    show StepChanges _ w.ledger [] (w.enroll ident expd nowMs).ledger
    rw [ledger_enroll]
    exact .settles .none
  | connect deviceId challenge nowMs =>
    show StepChanges _ w.ledger (w.connectDevice deviceId challenge nowMs).1.rotations
      (w.connectDevice deviceId challenge nowMs).2.ledger
    unfold connectDevice
    split
    · exact .settles .none
    · split_ifs
      · exact .settles .none
      · exact .settles .none
  | message sock msg nowMs sends => exact .settles (w.changes_webSocketMessage sock msg nowMs sends)
  | verified verif valid nowMs readySends rotateSends =>
    unfold step
    dsimp only
    split_ifs
    · exact .settles (changes_completeAuth { w with verifying := w.verifying.erase verif }
        verif readySends rotateSends)
    · exact .settles .none
    · exact .settles .none
  | heartbeat sock atMs | disconnected sock | proxied reqId waiter => exact .settles .none
  | rotate reqId nowMs sends => exact w.stepChanges_dispatchRotation reqId sends rfl
  | waits reqId expd waiter =>
    show StepChanges _ w.ledger [] (w.waitForStateChange reqId expd waiter).ledger
    unfold waitForStateChange
    dsimp only
    split_ifs
    · exact .settles .none
    · exact .settles .none
  | waited reqId waiter reconcileAtMs =>
    cases reconcileAtMs with
    | none => exact .settles .none
    | some nowMs =>
      exact .settles
        (.one (change_reconcile { w with waiters := w.waiters.erase (reqId, waiter) } true))
  | proxy reqId waiter nowMs sends =>
    show StepChanges _ w.ledger (w.proxyAndWait reqId waiter nowMs sends).1.rotations
      (w.proxyAndWait reqId waiter nowMs sends).2.ledger
    unfold proxyAndWait
    split
    · exact .settles .none
    · split_ifs
      · exact .settles .none
      · exact .settles .none
  | alarm nowMs =>
    unfold step
    split_ifs
    · exact .settles (.one w.change_alarm)
    · exact .settles .none

end DeviceControl

end MishProxy.Worker
