import MishProxy.Mesh.Composition
import MishProxy.Probing.Delivered

/-!
# The proxy coordinator

The coordinator starts the current proxy, watches for its terminal failure, schedules the recovery
and stops it. The Mesh composition has the installed proxy, and readiness has a proxy fact with the
serving generation. Every call changes the coordinator under its own lock and then the two others
under theirs, so a call is a chain of sections, and sections of other calls may come between them.

The environment answers for the proxy itself (whether a candidate starts, whether the old one
stops), for the reconciliation behind an installed or cleared proxy, and for the executor. A
scheduled recovery is a delay in the state; the call that follows it is made when the delay is
over. The callback of a terminal failure may come at any time and for any generation.
-/

namespace MishProxy.Serving

open Machine Mesh Probing

inductive ProxyServingState where
  | stopped
  | starting
  | running
  | failed
  deriving DecidableEq, Repr

inductive ProxyServingFailure where
  | nativeRuntimeMissing
  | externalCredentialUnavailable
  | cellularConnectorUnavailable
  | proxyConfigurationRejected
  | mixedListenerUnavailable
  | socks5ListenerUnavailable
  | httpConnectListenerUnavailable
  | executorUnavailable
  | runtimeStateUnavailable
  | servingUnhealthy
  | shutdownFailed
  deriving DecidableEq, Repr

/-- `proxy_serving_failure_recoverable`. -/
def ProxyServingFailure.recoverable : ProxyServingFailure → Bool
  | .mixedListenerUnavailable | .socks5ListenerUnavailable | .httpConnectListenerUnavailable
  | .executorUnavailable | .servingUnhealthy => true
  | _ => false

structure ProxyCredentialMaterial where
  username : Text
  password : Text
  username_ne : username.trim.isEmpty = false
  password_ne : password.trim.isEmpty = false
  deriving DecidableEq

def ProxyCredentialMaterial.new (username password : Text) : Option ProxyCredentialMaterial :=
  if husername : username.trim.isEmpty = false then
    if hpassword : password.trim.isEmpty = false then
      some ⟨username, password, husername, hpassword⟩
    else none
  else none

structure ProxyCoordinatorState where
  current : Option ProxyServingRuntime
  state : ProxyServingState
  failure : Option ProxyServingFailure
  servingGeneration : Option Nat
  nextServingGeneration : Nat
  credentialVersion : Option Nat
  credentials : Option ProxyCredentialMaterial
  recoveryPending : Bool
  recoveryEpoch : Nat
  closed : Bool

structure ProxySystem where
  coordinator : ProxyCoordinatorState
  mesh : MeshCompositionState
  readiness : ReadinessRuntime
  /-- The epochs of the recoveries whose delay is not over. -/
  delays : List Nat

structure StartInput where
  credentialVersion : Option Nat
  username : Option Text
  password : Option Text
  deriving DecidableEq

inductive ProxyCall where
  | start (input : StartInput)
  /-- The delay of a recovery is over. -/
  | recover (epoch : Nat)
  | terminalFailure (generation : Nat) (failure : ProxyServingFailure)
  /-- `stop` and `shutdown`. -/
  | stop (close : Bool)
  deriving DecidableEq

/-- The call that withdraws the facts, with what it still has to do after that. -/
inductive Withdrawal where
  | terminalFailure
  | stop (runtime : Option ProxyServingRuntime) (clean : Bool)
  deriving DecidableEq

/-- A stop remembers that a part of it failed, a terminal failure does not. -/
def Withdrawal.spoiled : Withdrawal → Withdrawal
  | .terminalFailure => .terminalFailure
  | .stop runtime _ => .stop runtime false

/-- What a call does next. -/
inductive ProxyTask where
  | call (call : ProxyCall)
  | startCandidate (version : Nat)
  | finishStarted (runtime : ProxyServingRuntime) (version : Nat)
  | stillCurrent (runtime : ProxyServingRuntime) (generation version : Nat)
  | installProxy (runtime : ProxyServingRuntime) (generation version : Nat)
  | observeInstalled (generation version : Nat) (admission : Probing.MeshAdmissionSnapshot)
  | readCredentials (generation version : Nat)
  | observeProxyStarted (generation version : Nat) (credentials : ProxyCredentialMaterial)
  | publishRunning (generation : Nat)
  | publishStartFailure (failure : ProxyServingFailure)
  | observeProxyStopped (withdrawal : Withdrawal)
  | clearProxy (withdrawal : Withdrawal)
  | observeCleared (withdrawal : Withdrawal) (admission : Probing.MeshAdmissionSnapshot)
  | stopRuntime (runtime : Option ProxyServingRuntime) (clean : Bool)
  | publishStopFailure
  | spawnRecovery
  deriving DecidableEq

/-- What the environment answers in one section. -/
structure ProxyAnswers where
  candidate : Except ProxyServingFailure ProxyServingRuntime
  reconciled : Except MeshTransportError Probing.MeshAdmissionSnapshot
  stopped : Bool
  spawned : Bool

namespace ProxyCoordinatorState

def new : ProxyCoordinatorState where
  current := none
  state := .stopped
  failure := none
  servingGeneration := none
  nextServingGeneration := 1
  credentialVersion := none
  credentials := none
  recoveryPending := false
  recoveryEpoch := 0
  closed := false

/-- `wrapping_add(1)` on a `u64`. -/
def nextEpoch (s : ProxyCoordinatorState) : Nat := (s.recoveryEpoch + 1) % 2 ^ 64

/-- `schedule_recovery_state`. -/
def scheduleRecovery (failure : ProxyServingFailure) (s : ProxyCoordinatorState) :
    ProxyCoordinatorState :=
  if failure.recoverable && s.credentials.isSome then
    { s with recoveryPending := true, recoveryEpoch := s.nextEpoch }
  else { s with recoveryPending := false }

/-- The proxy is withdrawn for the failure. -/
def fail (failure : ProxyServingFailure) (s : ProxyCoordinatorState) : ProxyCoordinatorState :=
  scheduleRecovery failure
    { s with current := none, servingGeneration := none, state := .failed, failure := some failure }

/-- A start is refused when the coordinator is closed or has a proxy that starts or runs. -/
def refusesStart (s : ProxyCoordinatorState) : Bool :=
  s.closed || (s.current.isSome && (s.state = .starting || s.state = .running))

end ProxyCoordinatorState

/-- Whether readiness took an observation, or could not publish what follows from it. -/
def accepted : ReadinessReply → Bool
  | .rejected _ | .exhausted => false
  | _ => true

namespace ProxySystem

def new (generation : RuntimeGeneration) : ProxySystem := ⟨.new, .new, .new generation, []⟩

/-- The input is checked before the coordinator is asked. -/
def startRequest (input : StartInput) :
    Except ProxyServingFailure (Nat × ProxyCredentialMaterial) :=
  match input.credentialVersion, input.username, input.password with
  | none, none, none => .error .externalCredentialUnavailable
  | some version, some username, some password =>
    if 0 < version then
      match ProxyCredentialMaterial.new username password with
      | some credentials => .ok (version, credentials)
      | none => .error .proxyConfigurationRejected
    else .error .proxyConfigurationRejected
  | _, _, _ => .error .proxyConfigurationRejected

def start (input : StartInput) (s : ProxySystem) : ProxySystem × List ProxyTask :=
  match startRequest input with
  | .error failure => (s, [.publishStartFailure failure])
  | .ok (version, credentials) =>
    if s.coordinator.refusesStart then (s, [])
    else
      ({ s with coordinator := { s.coordinator with
          recoveryEpoch := s.coordinator.nextEpoch
          recoveryPending := false
          credentials := some credentials
          credentialVersion := some version
          state := .starting
          failure := none } },
        [.startCandidate version])

def finishStarted (runtime : ProxyServingRuntime) (version : Nat) (s : ProxySystem) :
    ProxySystem × List ProxyTask :=
  if s.coordinator.closed then (s, [])
  else if 2 ^ 64 ≤ s.coordinator.nextServingGeneration + 1 then
    (s, [.publishStartFailure .runtimeStateUnavailable])
  else
    ({ s with coordinator := { s.coordinator with
        nextServingGeneration := s.coordinator.nextServingGeneration + 1
        current := some runtime
        servingGeneration := some s.coordinator.nextServingGeneration
        credentialVersion := some version
        state := .starting
        failure := none
        recoveryPending := false } },
      [.stillCurrent runtime s.coordinator.nextServingGeneration version])

/-- The generation is served by this proxy, and nothing is wrong with it. -/
def Serves (runtime : ProxyServingRuntime) (generation : Nat) (s : ProxySystem) : Prop :=
  s.coordinator.servingGeneration = some generation ∧ s.coordinator.current = some runtime ∧
    s.coordinator.failure = none

instance (runtime : ProxyServingRuntime) (generation : Nat) (s : ProxySystem) :
    Decidable (s.Serves runtime generation) :=
  inferInstanceAs (Decidable (_ ∧ _))

/-- What a start that cannot be completed goes on with. -/
def giveUp (generation : Nat) : List ProxyTask :=
  [.call (.terminalFailure generation .runtimeStateUnavailable)]

def installProxy (runtime : ProxyServingRuntime) (generation version : Nat)
    (answers : ProxyAnswers) (s : ProxySystem) : ProxySystem × List ProxyTask :=
  ({ s with mesh := s.mesh.installProxy runtime },
    match answers.reconciled with
    | .ok admission => [.observeInstalled generation version admission]
    | .error _ => giveUp generation)

/-- An observation by readiness, and what follows when it is taken and when it is not. -/
def observe (update : FactUpdate) (taken refused : List ProxyTask) (s : ProxySystem) :
    ProxySystem × List ProxyTask :=
  ({ s with readiness := (s.readiness.observe update).2 },
    if accepted (s.readiness.observe update).1 then taken else refused)

def readCredentials (generation version : Nat) (s : ProxySystem) : ProxySystem × List ProxyTask :=
  match s.coordinator.credentials with
  | some credentials => (s, [.observeProxyStarted generation version credentials])
  | none => (s, giveUp generation)

def publishRunning (generation : Nat) (s : ProxySystem) : ProxySystem × List ProxyTask :=
  if s.coordinator.servingGeneration ≠ some generation ∨ s.coordinator.failure.isSome then (s, [])
  else
    ({ s with coordinator := { s.coordinator with
        state := .running
        failure := none
        recoveryPending := false } }, [])

def publishStartFailure (failure : ProxyServingFailure) (s : ProxySystem) :
    ProxySystem × List ProxyTask :=
  if s.coordinator.closed then (s, [])
  else ({ s with coordinator := s.coordinator.fail failure }, [.spawnRecovery])

def onTerminalFailure (generation : Nat) (failure : ProxyServingFailure) (s : ProxySystem) :
    ProxySystem × List ProxyTask :=
  if s.coordinator.closed ∨ s.coordinator.servingGeneration ≠ some generation then (s, [])
  else
    ({ s with coordinator := s.coordinator.fail failure }, [.observeProxyStopped .terminalFailure])

/-- What a withdrawal goes on with when the facts are withdrawn. -/
def withdrawn : Withdrawal → List ProxyTask
  | .terminalFailure => [.spawnRecovery]
  | .stop runtime clean => [.stopRuntime runtime clean]

def clearProxy (withdrawal : Withdrawal) (answers : ProxyAnswers) (s : ProxySystem) :
    ProxySystem × List ProxyTask :=
  ({ s with mesh := s.mesh.clearProxy },
    match answers.reconciled with
    | .ok admission => [.observeCleared withdrawal admission]
    | .error _ => withdrawn withdrawal.spoiled)

def stopRuntime (runtime : Option ProxyServingRuntime) (clean : Bool) (answers : ProxyAnswers)
    (s : ProxySystem) : ProxySystem × List ProxyTask :=
  if clean && (runtime.isNone || answers.stopped) then (s, []) else (s, [.publishStopFailure])

def publishStopFailure (s : ProxySystem) : ProxySystem × List ProxyTask :=
  ({ s with coordinator := { s.coordinator with
      state := .failed
      failure := some .shutdownFailed } }, [])

def spawnRecovery (answers : ProxyAnswers) (s : ProxySystem) : ProxySystem × List ProxyTask :=
  if s.coordinator.closed || !s.coordinator.recoveryPending || !answers.spawned then (s, [])
  else ({ s with delays := s.coordinator.recoveryEpoch :: s.delays }, [])

/-- A recovery of an earlier epoch, and one that is not pending any more, does nothing. -/
def recover (epoch : Nat) (s : ProxySystem) : ProxySystem × List ProxyTask :=
  if epoch ∈ s.delays then
    let s := { s with delays := s.delays.erase epoch }
    if s.coordinator.closed || !s.coordinator.recoveryPending ||
        s.coordinator.recoveryEpoch != epoch then (s, [])
    else
      let s := { s with coordinator := { s.coordinator with recoveryPending := false } }
      match s.coordinator.credentialVersion, s.coordinator.credentials with
      | some version, some _ =>
        ({ s with coordinator := { s.coordinator with state := .starting, failure := none } },
          [.startCandidate version])
      | _, _ => (s, [])
  else (s, [])

/-- `stop_internal`. -/
def stopInternal (close : Bool) (s : ProxySystem) : ProxySystem × List ProxyTask :=
  ({ s with coordinator := { s.coordinator with
      recoveryEpoch := s.coordinator.nextEpoch
      recoveryPending := false
      current := none
      servingGeneration := none
      state := .stopped
      failure := none
      credentials := none
      credentialVersion := none
      closed := s.coordinator.closed || close } },
    [.observeProxyStopped (.stop s.coordinator.current true)])

def proceedCall (s : ProxySystem) : ProxyCall → ProxySystem × List ProxyTask
  | .start input => s.start input
  | .recover epoch => s.recover epoch
  | .terminalFailure generation failure => s.onTerminalFailure generation failure
  | .stop close => s.stopInternal close

def proceed (task : ProxyTask) (answers : ProxyAnswers) (s : ProxySystem) :
    ProxySystem × List ProxyTask :=
  match task with
  | .call call => s.proceedCall call
  | .startCandidate version =>
    match answers.candidate with
    | .ok runtime => (s, [.finishStarted runtime version])
    | .error failure => (s, [.publishStartFailure failure])
  | .finishStarted runtime version => s.finishStarted runtime version
  | .stillCurrent runtime generation version =>
    if s.Serves runtime generation then (s, [.installProxy runtime generation version]) else (s, [])
  | .installProxy runtime generation version => s.installProxy runtime generation version answers
  | .observeInstalled generation version admission =>
    s.observe (.mesh admission) [.readCredentials generation version] (giveUp generation)
  | .readCredentials generation version => s.readCredentials generation version
  | .observeProxyStarted generation version credentials =>
    s.observe (.proxyStarted generation version credentials.username credentials.password)
      [.publishRunning generation] (giveUp generation)
  | .publishRunning generation => s.publishRunning generation
  | .publishStartFailure failure => s.publishStartFailure failure
  | .observeProxyStopped withdrawal =>
    s.observe .proxyStopped [.clearProxy withdrawal] [.clearProxy withdrawal.spoiled]
  | .clearProxy withdrawal => s.clearProxy withdrawal answers
  | .observeCleared withdrawal admission =>
    s.observe (.mesh admission) (withdrawn withdrawal) (withdrawn withdrawal.spoiled)
  | .stopRuntime runtime clean => s.stopRuntime runtime clean answers
  | .publishStopFailure => s.publishStopFailure
  | .spawnRecovery => s.spawnRecovery answers

end ProxySystem

def proxyProtocol : Protocol ProxySystem ProxyCall ProxyTask ProxyAnswers where
  first := .call
  proceed := ProxySystem.proceed

abbrev ProxyPool : Type := Pool ProxySystem ProxyTask

abbrev ProxyAction : Type := PoolAction ProxyCall ProxyTask ProxyAnswers

def runProxy (generation : RuntimeGeneration) (actions : List ProxyAction) : ProxyPool :=
  run (Pool.step proxyProtocol) (.init (.new generation)) actions

end MishProxy.Serving
