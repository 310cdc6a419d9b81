import MishProxy.Control.Device

/-!
# The control worker

One durable object stands between the manager and the device. It keeps the identity of the
enrolled device, the one active operation, the last operations that ended and one alarm in its
storage, and the sockets of the device with an attachment each.

A handler runs without interruption between two waits that are not waits for the storage. Such
segments are the steps: reading a body and comparing a digest come before a step, a signature is
verified between two, and so does a manager wait for a change. The clock is read once in a step.
Every number that is stored is a date of the runtime, which lies within 8.64e15 milliseconds, or
such a date and some minutes; so all of them are safe integers, and the test for one asks whether
the field is there.

Whether a message can be sent is an answer from outside, and a socket stays listed until it is
disconnected, also when the worker has closed it.
-/

namespace MishProxy.Worker

open Control

/-! ## Records -/

def productRotationSafetyMs : Int := 90000
def controlDeliveryMarginMs : Int := 30000
def acceptedResultLeaseMs : Int := productRotationSafetyMs + controlDeliveryMarginMs
def deliveryAckMs : Int := 2000
def managerRotateWaitTimeoutMs : Int := 18000
def naturalReconnectRecoveryMs : Int := managerRotateWaitTimeoutMs - deliveryAckMs
def fencedDrainMs : Int := productRotationSafetyMs + controlDeliveryMarginMs
def controlSessionFreshnessMs : Int := 10000
def deviceAuthChallengeMaxAgeMs : Int := 60000
def maxRecentOperations : Nat := 32

inductive OperationStatus where
  | dispatched
  | recovering
  | accepted
  | fenced
  | terminal
  deriving DecidableEq, Repr

inductive OperationResult where
  | definitive (result : RemoteRotationResult)
  | unknown
  deriving DecidableEq, Repr

structure Operation where
  requestId : Text
  status : OperationStatus
  operationId : Option Nat
  result : Option OperationResult
  createdAtMs : Int
  acceptedAtMs : Option Int
  deliveryAttempts : Option Int
  deliverySentAtMs : Option Int
  deliveryDeadlineMs : Option Int
  recoveryDeadlineMs : Option Int
  fencedAtMs : Option Int
  releaseAtMs : Option Int
  completedAtMs : Option Int
  deriving DecidableEq

structure DeviceIdentity where
  deviceId : Text
  publicKey : Text
  deriving DecidableEq

structure Attachment where
  authenticated : Bool
  deviceId : Text
  challenge : Option Text
  challengeIssuedAtMs : Option Int
  authenticatedAtMs : Option Int
  deriving DecidableEq

/-- `heartbeatAtMs` is the time of the last automatic response. -/
structure Socket where
  id : Nat
  attachment : Attachment
  heartbeatAtMs : Option Int
  deriving DecidableEq

/-- An AUTH handler that waits for its signature to be verified, with what it has read. -/
structure Verification where
  socket : Nat
  deviceId : Text
  challenge : Text
  publicKey : Text
  signature : Text
  deriving DecidableEq

def isDeviceId (value : Text) : Bool :=
  value.length == 64 && value.all fun c => c.isDigit || ('a' ≤ c && c ≤ 'f')

def isFreshAuthChallenge (issuedAtMs : Option Int) (nowMs : Int) : Bool :=
  issuedAtMs.any fun issuedAtMs =>
    decide (issuedAtMs ≤ nowMs ∧ nowMs - issuedAtMs ≤ deviceAuthChallengeMaxAgeMs)

namespace Socket

def freshnessAtMs (socket : Socket) : Option Int :=
  if socket.attachment.authenticated then
    match socket.attachment.authenticatedAtMs, socket.heartbeatAtMs with
    | some authenticatedAtMs, some heartbeatAtMs => some (max authenticatedAtMs heartbeatAtMs)
    | some authenticatedAtMs, none => some authenticatedAtMs
    | none, heartbeatAtMs => heartbeatAtMs
  else none

def isFresh (socket : Socket) (nowMs : Int) : Bool :=
  socket.freshnessAtMs.any fun freshestAtMs =>
    decide (freshestAtMs ≤ nowMs ∧ nowMs - freshestAtMs ≤ controlSessionFreshnessMs)

def deauthenticate (socket : Socket) : Socket :=
  { socket with attachment := { socket.attachment with authenticated := false } }

/-- The attachment of a socket whose device has proved its identity. -/
def authenticate (socket : Socket) (deviceId : Text) (nowMs : Int) : Socket :=
  { socket with
    attachment :=
      { authenticated := true
        deviceId := deviceId
        challenge := none
        challengeIssuedAtMs := none
        authenticatedAtMs := some nowMs } }

end Socket

namespace Operation

/-- The operation that `dispatchRotation` stores. -/
def dispatch (requestId : Text) (nowMs : Int) : Operation where
  requestId := requestId
  status := .dispatched
  operationId := none
  result := none
  createdAtMs := nowMs
  acceptedAtMs := none
  deliveryAttempts := some 1
  deliverySentAtMs := some nowMs
  deliveryDeadlineMs := some (nowMs + deliveryAckMs)
  recoveryDeadlineMs := some (nowMs + naturalReconnectRecoveryMs)
  fencedAtMs := none
  releaseAtMs := none
  completedAtMs := none

variable (operation : Operation) (nowMs : Int)

def recoveryDeadline : Int :=
  operation.recoveryDeadlineMs.getD (operation.createdAtMs + naturalReconnectRecoveryMs)

def deliverySent : Int := operation.deliverySentAtMs.getD operation.createdAtMs

def deliveryDeadline : Int :=
  min (operation.deliveryDeadlineMs.getD (operation.deliverySent + deliveryAckMs))
    (operation.deliverySent + deliveryAckMs)

def attempts : Int := operation.deliveryAttempts.getD 1

/-- The record with the fields that an older version of the worker did not store. -/
def migrateDelivery : Operation :=
  { operation with
    deliveryAttempts := some operation.attempts
    deliverySentAtMs := some operation.deliverySent
    deliveryDeadlineMs := some operation.deliveryDeadline }

def recovering : Operation :=
  { operation with
    status := .recovering
    deliveryAttempts := some 1
    deliveryDeadlineMs := none
    recoveryDeadlineMs := some operation.recoveryDeadline }

def redelivered : Operation :=
  { operation with
    status := .dispatched
    deliveryAttempts := some 2
    deliverySentAtMs := some nowMs
    deliveryDeadlineMs := some (nowMs + deliveryAckMs)
    recoveryDeadlineMs := some operation.recoveryDeadline }

def accept (operationId : Nat) : Operation :=
  { operation with
    operationId := some operationId
    status := .accepted
    acceptedAtMs := some nowMs
    deliveryDeadlineMs := none
    recoveryDeadlineMs := none }

def fence : Operation :=
  { operation with
    status := .fenced
    deliveryDeadlineMs := none
    recoveryDeadlineMs := none
    fencedAtMs := some nowMs
    releaseAtMs := some (nowMs + fencedDrainMs) }

def conclude (operationId : Option Nat) (result : OperationResult) : Operation :=
  { operation with
    operationId := operationId
    status := .terminal
    result := some result
    completedAtMs := some nowMs }

end Operation

/-! ## The durable object -/

structure DeviceControl where
  identity : Option DeviceIdentity
  active : Option Operation
  recent : List Operation
  alarm : Option Int
  sockets : List Socket
  nextSocket : Nat
  verifying : List Verification
  waiters : List (Text × Nat)
  proxyWaiters : List (Text × Nat)
  deriving DecidableEq

/-- What was sent, by the socket it was sent to. -/
abbrev Sent := List (Nat × ServerControlMessage)

namespace DeviceControl

def new : DeviceControl where
  identity := none
  active := none
  recent := []
  alarm := none
  sockets := []
  nextSocket := 0
  verifying := []
  waiters := []
  proxyWaiters := []

variable (w : DeviceControl)

/-! ### Sockets -/

def freshAuthenticatedSocket (nowMs : Int) : Option Socket :=
  w.sockets.find? (·.isFresh nowMs)

def closeStaleAuthenticatedSockets (nowMs : Int) : DeviceControl :=
  { w with
    sockets := w.sockets.map fun socket =>
      if socket.attachment.authenticated && !socket.isFresh nowMs then socket.deauthenticate
      else socket }

def fenceAuthenticatedSockets : DeviceControl :=
  { w with sockets := w.sockets.map Socket.deauthenticate }

/-- The socket of a verified AUTH takes the place of every other one. -/
def authenticateSocket (verification : Verification) (nowMs : Int) : DeviceControl :=
  { w with
    sockets := w.sockets.map fun socket =>
      if socket.id = verification.socket then socket.authenticate verification.deviceId nowMs
      else socket.deauthenticate }

/-! ### Operations -/

def resolveWaiters (requestId : Text) : DeviceControl :=
  { w with waiters := w.waiters.filter (·.1 ≠ requestId) }

def storeRecentTerminal (terminal : Operation) : DeviceControl :=
  { w with
    recent := (terminal :: w.recent.filter (·.requestId ≠ terminal.requestId)).take
      maxRecentOperations }

def fenceOperation (active : Operation) (nowMs : Int) (fenceSockets : Bool) : DeviceControl :=
  let stored := { w with
    active := some (active.fence nowMs)
    alarm := some (nowMs + fencedDrainMs) }
  (if fenceSockets then stored.fenceAuthenticatedSockets else stored).resolveWaiters
    active.requestId

/-- The operation ends and is remembered. -/
def finish (terminal : Operation) : DeviceControl :=
  { w.storeRecentTerminal terminal with active := none, alarm := none }.resolveWaiters
    terminal.requestId

def finalizeUnknown (active : Operation) (nowMs : Int) : DeviceControl :=
  w.finish (active.conclude nowMs active.operationId .unknown)

/-- The record that is stored and the time of the alarm. -/
def store (active : Operation) (alarmMs : Int) : DeviceControl :=
  { w with active := some active, alarm := some alarmMs }

def reconcileDispatched (active : Operation) (nowMs : Int) (fenceSockets : Bool) :
    DeviceControl :=
  if nowMs < active.deliveryDeadline then
    w.store active.migrateDelivery active.deliveryDeadline
  else if active.attempts < 2 ∧ nowMs < active.recoveryDeadline then
    (w.store active.recovering active.recoveryDeadline).resolveWaiters active.requestId
  else w.fenceOperation active nowMs fenceSockets

def reconcileRecovering (active : Operation) (nowMs : Int) (fenceSockets : Bool) :
    DeviceControl :=
  if nowMs < active.recoveryDeadline then
    w.store { active with recoveryDeadlineMs := some active.recoveryDeadline }
      active.recoveryDeadline
  else w.fenceOperation active nowMs fenceSockets

def reconcileAccepted (active : Operation) (nowMs : Int) : DeviceControl :=
  match active.acceptedAtMs with
  | none => w.store { active with acceptedAtMs := some nowMs } (nowMs + acceptedResultLeaseMs)
  | some acceptedAtMs =>
    if nowMs < acceptedAtMs + acceptedResultLeaseMs then
      w.store active (acceptedAtMs + acceptedResultLeaseMs)
    else w.finalizeUnknown active nowMs

def reconcileFenced (active : Operation) (nowMs : Int) : DeviceControl :=
  match active.releaseAtMs with
  | none =>
    w.store { active with
      fencedAtMs := some (active.fencedAtMs.getD nowMs)
      releaseAtMs := some (nowMs + fencedDrainMs) } (nowMs + fencedDrainMs)
  | some releaseAtMs =>
    if nowMs < releaseAtMs then w.store active releaseAtMs else w.finalizeUnknown active nowMs

/-- A terminal record is never the active one, the source throws there. -/
def reconcileActiveOperation (nowMs : Int) (fenceSockets : Bool) : DeviceControl :=
  match w.active with
  | none => { w with alarm := none }
  | some active =>
    match active.status with
    | .dispatched => w.reconcileDispatched active nowMs fenceSockets
    | .recovering => w.reconcileRecovering active nowMs fenceSockets
    | .accepted => w.reconcileAccepted active nowMs
    | .fenced => w.reconcileFenced active nowMs
    | .terminal => w

/-! ### The manager -/

inductive Dispatch where
  | terminal (operation : Operation)
  | activeSame (operation : Operation)
  | busy (operation : Operation)
  | deviceOffline
  | dispatched (operation : Operation)
  deriving DecidableEq

/-- A message that could be sent. -/
def sentIf (ok : Bool) (socket : Nat) (message : ServerControlMessage) : Sent :=
  if ok then [(socket, message)] else []

def dispatchTo (socket : Socket) (requestId : Text) (nowMs : Int) (sends : Bool) :
    Dispatch × Sent × DeviceControl :=
  if sends then
    (.dispatched (.dispatch requestId nowMs), [(socket.id, .rotateIp requestId)],
      w.store (.dispatch requestId nowMs) (nowMs + deliveryAckMs))
  else
    (.deviceOffline, [],
      { w with active := none, alarm := none }.closeStaleAuthenticatedSockets nowMs)

def dispatchRotation (requestId : Text) (nowMs : Int) (sends : Bool) :
    Dispatch × Sent × DeviceControl :=
  let w := w.reconcileActiveOperation nowMs true
  match w.recent.find? (·.requestId = requestId), w.active with
  | some known, _ => (.terminal known, [], w)
  | none, some active =>
    (if active.requestId = requestId then .activeSame active else .busy active, [], w)
  | none, none =>
    match w.freshAuthenticatedSocket nowMs with
    | none => (.deviceOffline, [], w.closeStaleAuthenticatedSockets nowMs)
    | some socket => w.dispatchTo socket requestId nowMs sends

/-- `waitForStateChange` up to its wait. A change before the waiter was there resolves it. -/
def waitForStateChange (requestId : Text) (expected : OperationStatus) (waiter : Nat) :
    DeviceControl :=
  let w := { w with waiters := (requestId, waiter) :: w.waiters }
  let waits := w.recent.all (·.requestId ≠ requestId) &&
    w.active.any fun active => active.requestId = requestId && active.status = expected
  if waits then w else w.resolveWaiters requestId

def proxyAndWait (requestId : Text) (waiter : Nat) (nowMs : Int) (sends : Bool) :
    Sent × DeviceControl :=
  match w.freshAuthenticatedSocket nowMs with
  | none => ([], w.closeStaleAuthenticatedSockets nowMs)
  | some socket =>
    if sends then
      ([(socket.id, .getProxy requestId)],
        { w with proxyWaiters := (requestId, waiter) :: w.proxyWaiters })
    else ([], w.closeStaleAuthenticatedSockets nowMs)

/-! ### Enrollment -/

def oldRuntimeActive : Bool :=
  w.sockets.any (·.attachment.authenticated) || !w.waiters.isEmpty || !w.proxyWaiters.isEmpty ||
    w.active.isSome

/-- `enroll`, once the body was read and the digest of the key compared with the id. -/
def enroll (identity : DeviceIdentity) (expected : Option Text) (nowMs : Int) : DeviceControl :=
  if !isDeviceId identity.deviceId then w
  else match w.identity with
    | none => if expected.isSome then w else { w with identity := some identity }
    | some current =>
      if current = identity then w
      else if expected ≠ some current.deviceId ∨ expected = some identity.deviceId then w
      else
        let w := w.closeStaleAuthenticatedSockets nowMs
        if w.oldRuntimeActive then w
        else { w with identity := some identity }.fenceAuthenticatedSockets

/-! ### The device -/

def connectDevice (deviceId challenge : Text) (nowMs : Int) : Sent × DeviceControl :=
  match w.identity with
  | none => ([], w)
  | some identity =>
    if isDeviceId deviceId ∧ deviceId = identity.deviceId then
      ([(w.nextSocket, .challenge challenge)],
        { w with
          sockets := w.sockets ++ [
            { id := w.nextSocket
              attachment :=
                { authenticated := false
                  deviceId := deviceId
                  challenge := some challenge
                  challengeIssuedAtMs := some nowMs
                  authenticatedAtMs := none }
              heartbeatAtMs := none }]
          nextSocket := w.nextSocket + 1 })
    else ([], w)

/-- An AUTH message up to the verification of its signature. -/
def beginAuth (socket : Socket) (deviceId signature : Text) (nowMs : Int) : DeviceControl :=
  match w.identity, socket.attachment.challenge with
  | some identity, some challenge =>
    if deviceId = socket.attachment.deviceId ∧ identity.deviceId = socket.attachment.deviceId ∧
        isFreshAuthChallenge socket.attachment.challengeIssuedAtMs nowMs then
      { w with
        verifying :=
          { socket := socket.id
            deviceId := socket.attachment.deviceId
            challenge := challenge
            publicKey := identity.publicKey
            signature := signature } :: w.verifying }
    else w
  | _, _ => w

def redeliverRecoveredOperation (socket : Nat) (nowMs : Int) (sends : Bool) :
    Sent × DeviceControl :=
  match w.active with
  | none => ([], w)
  | some active =>
    if active.status ≠ .recovering then ([], w)
    else if active.recoveryDeadline ≤ nowMs then ([], w.reconcileActiveOperation nowMs true)
    else
      let w := w.store (active.redelivered nowMs) (nowMs + deliveryAckMs)
      if sends then ([(socket, .rotateIp active.requestId)], w.resolveWaiters active.requestId)
      else ([], w.fenceOperation (active.redelivered nowMs) nowMs true)

/-- The rest of an AUTH handler. A READY that cannot be sent ends it with an exception. -/
def completeAuth (verification : Verification) (nowMs : Int) (readySends rotateSends : Bool) :
    Sent × DeviceControl :=
  let w := (w.authenticateSocket verification nowMs).reconcileActiveOperation nowMs false
  if readySends then
    let (sent, w) := w.redeliverRecoveredOperation verification.socket nowMs rotateSends
    ((verification.socket, .ready) :: sent, w)
  else ([], w)

def handleAccepted (requestId : Text) (operationId : Nat) (nowMs : Int) : DeviceControl :=
  match w.active with
  | none => w
  | some active =>
    if active.requestId ≠ requestId ∨ active.operationId.any (· ≠ operationId) then w
    else match active.status with
      | .dispatched | .recovering =>
        (w.store (active.accept nowMs operationId) (nowMs + acceptedResultLeaseMs)).resolveWaiters
          requestId
      | .accepted =>
        { w with active := some { active with operationId := some operationId } }.resolveWaiters
          requestId
      | .fenced => { w with active := some { active with operationId := some operationId } }
      | .terminal => w

/-- Two ids that are both known and differ. -/
def mismatch (known parsed : Option Nat) : Bool :=
  known.any fun known => parsed.any (· ≠ known)

/-- A result of an operation that is not the active one. -/
def acceptLateResult (socket : Nat) (requestId : Text) (result : RemoteRotationResult)
    (operationId : Option Nat) (nowMs : Int) (sends : Bool) : Sent × DeviceControl :=
  match w.recent.find? (·.requestId = requestId) with
  | none => ([], w)
  | some known =>
    if known.result = some .unknown then
      if mismatch known.operationId operationId then ([], w)
      else
        (sentIf sends socket (.resultAck requestId),
          w.storeRecentTerminal { known with
            operationId := operationId.or known.operationId
            result := some (.definitive result)
            completedAtMs := some nowMs })
    else if known.result = some (.definitive result) ∧ known.operationId = operationId then
      (sentIf sends socket (.resultAck requestId), w)
    else ([], w)

def acceptResult (socket : Nat) (requestId : Text) (result : RemoteRotationResult)
    (operationId : Option Nat) (nowMs : Int) (sends : Bool) : Sent × DeviceControl :=
  match w.active with
  | none => w.acceptLateResult socket requestId result operationId nowMs sends
  | some active =>
    if active.requestId ≠ requestId then
      w.acceptLateResult socket requestId result operationId nowMs sends
    else if mismatch active.operationId operationId then ([], w)
    else if active.status = .accepted ∧ operationId = none then ([], w)
    else
      (sentIf sends socket (.resultAck requestId),
        w.finish (active.conclude nowMs (operationId.or active.operationId)
          (.definitive result)))

/-- `webSocketMessage` with the parsed message, up to the verification of an AUTH. -/
def webSocketMessage (socketId : Nat) (message : Option DeviceMessage) (nowMs : Int)
    (sends : Bool) : Sent × DeviceControl :=
  match w.sockets.find? (·.id = socketId), message with
  | some socket, some message =>
    if !isDeviceId socket.attachment.deviceId then ([], w)
    else if !socket.attachment.authenticated then
      match message with
      | .auth deviceId signature => ([], w.beginAuth socket deviceId signature nowMs)
      | _ => ([], w)
    else match message with
      | .accepted requestId operationId => ([], w.handleAccepted requestId operationId nowMs)
      | .result requestId result operationId =>
        w.acceptResult socketId requestId result operationId nowMs sends
      | .proxy requestId _ =>
        ([], { w with proxyWaiters := w.proxyWaiters.filter (·.1 ≠ requestId) })
      | .auth _ _ => ([], w)
  | _, _ => ([], w)

/-! ### Steps -/

inductive Input where
  | enroll (identity : DeviceIdentity) (expected : Option Text) (nowMs : Int)
  | connect (deviceId challenge : Text) (nowMs : Int)
  | message (socket : Nat) (message : Option DeviceMessage) (nowMs : Int) (sends : Bool)
  | verified (verification : Verification) (valid : Bool) (nowMs : Int)
      (readySends rotateSends : Bool)
  | heartbeat (socket : Nat) (atMs : Int)
  | disconnected (socket : Nat)
  | rotate (requestId : Text) (nowMs : Int) (sends : Bool)
  | waits (requestId : Text) (expected : OperationStatus) (waiter : Nat)
  | waited (requestId : Text) (waiter : Nat) (reconcileAtMs : Option Int)
  | proxy (requestId : Text) (waiter : Nat) (nowMs : Int) (sends : Bool)
  | proxied (requestId : Text) (waiter : Nat)
  | alarm (nowMs : Int)
  deriving DecidableEq

def step : Input → Sent × DeviceControl
  | .enroll identity expected nowMs => ([], w.enroll identity expected nowMs)
  | .connect deviceId challenge nowMs => w.connectDevice deviceId challenge nowMs
  | .message socket message nowMs sends => w.webSocketMessage socket message nowMs sends
  | .verified verification valid nowMs readySends rotateSends =>
    if verification ∈ w.verifying then
      let w := { w with verifying := w.verifying.erase verification }
      if valid then w.completeAuth verification nowMs readySends rotateSends else ([], w)
    else ([], w)
  | .heartbeat socketId atMs =>
    ([], { w with
      sockets := w.sockets.map fun socket =>
        if socket.id = socketId then { socket with heartbeatAtMs := some atMs } else socket })
  | .disconnected socketId =>
    ([], { w with sockets := w.sockets.filter (·.id ≠ socketId) })
  | .rotate requestId nowMs sends => (w.dispatchRotation requestId nowMs sends).2
  | .waits requestId expected waiter => ([], w.waitForStateChange requestId expected waiter)
  | .waited requestId waiter reconcileAtMs =>
    let w := { w with waiters := w.waiters.erase (requestId, waiter) }
    ([], reconcileAtMs.elim w fun nowMs => w.reconcileActiveOperation nowMs true)
  | .proxy requestId waiter nowMs sends => w.proxyAndWait requestId waiter nowMs sends
  | .proxied requestId waiter =>
    ([], { w with proxyWaiters := w.proxyWaiters.erase (requestId, waiter) })
  | .alarm nowMs =>
    -- a fired alarm is no longer scheduled
    ([], if w.alarm.isSome then
      { w with alarm := none }.reconcileActiveOperation nowMs true else w)

end DeviceControl

end MishProxy.Worker
