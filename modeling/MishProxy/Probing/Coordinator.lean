import MishProxy.Coordination.PolicyCoordinator
import MishProxy.Probing.Projection

/-!
# The readiness runtime

The runtime keeps the facts of the owners, the probe coordinator and the projected readiness under
one lock. A change of a fact invalidates the ticket, drops the observation, projects anew and, when
the facts are eligible, hands out a ticket. The completion of the current ticket projects again and
arms a timer; the timer hands out the next ticket for the same binding and leaves the projected
readiness alone.

One section under the lock is one step. A ticket that was handed out is started in a section of its
own, which looks up the credentials. The executor accepts every task. Completions are inputs with
an arbitrary ticket, outcome and duration, so they may be late, repeated or foreign; this includes
the failed completion that follows a start without credentials. Timers fire in any order, each at
most once. `exhausted` is the reply of a step that could not allocate a freshness marker.
-/

namespace MishProxy.Probing

open Machine Cellular Coordination MishProxy.Runtime

inductive ReadinessRuntimeError where
  | invalidRuntimeGeneration
  | invalidOwnerKey
  | stateUnavailable
  | executorUnavailable
  deriving DecidableEq, Repr

structure ProbeCredentials where
  version : CredentialVersion
  username : Text
  password : Text
  deriving DecidableEq

structure StructuralFacts where
  cellular : Option CellularReadinessFact
  runtime : RuntimeReadinessFact
  proxy : Option ProxyReadinessFact
  credential : Option CredentialReadinessFact
  mesh : Option MeshReadinessFact
  deriving DecidableEq

def inputFor (facts : StructuralFacts) (probe : EgressProbeCoordinator)
    (observation : Option EgressProbeObservation) : ProductReadinessInput where
  cellular := facts.cellular
  runtime := some facts.runtime
  proxy := facts.proxy
  credential := facts.credential
  mesh := facts.mesh
  expectedFreshness := probe.expectedFreshness
  probe := observation

/-! ## Fact updates -/

inductive MeshAdmissionState where
  | notAdmitted
  | admitted
  deriving DecidableEq, Repr

structure MeshAdmissionSnapshot where
  state : MeshAdmissionState
  admissionEpoch : Option Nat
  deriving DecidableEq

inductive FactUpdate where
  | cellularAdmission (admission : CellularAdmissionSnapshot)
  | cellular (publication : CellularPolicyPublication)
  | mesh (admission : MeshAdmissionSnapshot)
  | proxyStarted (servingGeneration credentialVersion : Nat) (username password : Text)
  | proxyStopped
  | credential (version : Option Nat) (active : Bool)
  deriving DecidableEq

/-- A key that an owner reports; zero is not one. -/
def ownerKey {kind : KeyKind} (raw : Nat) : Except ReadinessRuntimeError (GenerationKey kind) :=
  match GenerationKey.new raw with
  | some key => .ok key
  | none => .error .invalidOwnerKey

def ownerKey? {kind : KeyKind} :
    Option Nat → Except ReadinessRuntimeError (Option (GenerationKey kind))
  | none => .ok none
  | some raw => do
    let key ← ownerKey raw
    pure (some key)

def cellularFact (admission : CellularAdmissionSnapshot) (rootPolicyVerified : Bool) :
    Except ReadinessRuntimeError (Option CellularReadinessFact) := do
  let generation? ← ownerKey? (admission.lastSequence.map ObservationSequence.raw)
  pure (generation?.map fun ownerGeneration =>
    { ownerGeneration
      admitted := admission.state = .admitted
      rootPolicyVerified := rootPolicyVerified && decide (admission.state = .admitted) })

/-- The facts and credentials after an update. -/
structure Update where
  facts : StructuralFacts
  credentials : Option ProbeCredentials

def FactUpdate.resolve (facts : StructuralFacts) (credentials : Option ProbeCredentials) :
    FactUpdate → Except ReadinessRuntimeError Update
  | .cellularAdmission admission => do
    let cellular ← cellularFact admission false
    pure ⟨{ facts with cellular }, credentials⟩
  | .cellular publication => do
    let cellular ← cellularFact publication.admission (publication.result = .enforced)
    pure ⟨{ facts with cellular }, credentials⟩
  | .mesh admission => do
    let admissionEpoch ← ownerKey? admission.admissionEpoch
    pure ⟨{ facts with
      mesh := some
        { runtimeGeneration := facts.runtime.generation
          admissionEpoch
          admitted := admission.state = .admitted
          ingressRunning := false } }, credentials⟩
  | .proxyStarted servingGeneration credentialVersion username password => do
    let version ← ownerKey credentialVersion
    let servingGeneration ← ownerKey servingGeneration
    pure ⟨{ facts with
      proxy := some
        { runtimeGeneration := facts.runtime.generation
          servingGeneration := some servingGeneration
          credentialVersion := some version
          healthy := true }
      credential := some ⟨version, true⟩ }, some ⟨version, username, password⟩⟩
  | .proxyStopped =>
    pure ⟨{ facts with
      proxy := facts.proxy.map fun proxy =>
        { proxy with healthy := false, servingGeneration := none, credentialVersion := none }
      credential := none }, none⟩
  | .credential version active => do
    let version ← ownerKey? version
    pure ⟨{ facts with credential := version.map fun version => ⟨version, active⟩ },
      if active then credentials else none⟩

/-! ## The state -/

structure RefreshTimer where
  epoch : Nat
  binding : ProbeBinding
  deriving DecidableEq

structure ReadinessRuntime where
  facts : StructuralFacts
  probe : EgressProbeCoordinator
  observation : Option EgressProbeObservation
  projected : Readiness
  probeInFlight : Bool
  refreshEpoch : Nat
  refreshPending : Bool
  credentials : Option ProbeCredentials
  closed : Bool
  /-- The tickets that were handed out and are not started yet. -/
  starting : List ProbeTicket
  running : List ProbeTicket
  timers : List RefreshTimer

inductive ReadinessAction where
  | update (update : FactUpdate)
  | spawnProbe (ticket : ProbeTicket)
  | completeProbe (ticket : ProbeTicket) (outcome : ProbeOutcome) (elapsed : Nat)
  | fireRefresh (timer : RefreshTimer)
  | shutdown
  deriving DecidableEq

inductive ReadinessReply where
  | rejected (error : ReadinessRuntimeError)
  | unchanged
  | changed (ticket : Option ProbeTicket)
  | started (accepted : Bool)
  | completed (observation : EgressProbeObservation)
  | refreshed (ticket : ProbeTicket)
  | ignored
  | closed
  | exhausted
  deriving DecidableEq

namespace ReadinessRuntime

def new (generation : RuntimeGeneration) : ReadinessRuntime where
  facts := ⟨none, ⟨generation⟩, none, none, none⟩
  probe := .new
  observation := none
  projected := project (inputFor ⟨none, ⟨generation⟩, none, none, none⟩ .new none)
  probeInFlight := false
  refreshEpoch := 0
  refreshPending := false
  credentials := none
  closed := false
  starting := []
  running := []
  timers := []

/-- The binding for which the facts allow a probe. -/
def eligibility (s : ReadinessRuntime) : ProbeEligibility :=
  probeEligibility (inputFor s.facts s.probe s.observation)

/-- `wrapping_add(1)` on a `u64`. -/
def nextEpoch (s : ReadinessRuntime) : Nat := (s.refreshEpoch + 1) % 2 ^ 64

def credentialsCurrent (binding : ProbeBinding) (s : ReadinessRuntime) : Bool :=
  s.credentials.any fun credentials => credentials.version = binding.credentialVersion

def issue (binding : ProbeBinding) (s : ReadinessRuntime) :
    Except EgressProbeError (ProbeTicket × ReadinessRuntime) := do
  let (ticket, probe) ← s.probe.begin binding
  pure (ticket, { s with probe, probeInFlight := true, starting := ticket :: s.starting })

/-- The part of `update_structural` behind a change of a fact. -/
def reproject (s : ReadinessRuntime) : ReadinessReply × ReadinessRuntime :=
  let s := { s with refreshEpoch := s.nextEpoch, refreshPending := false, probeInFlight := false }
  match s.probe.invalidate with
  | .error _ => (.exhausted, s)
  | .ok (_, probe) =>
    let s :=
      { s with probe, observation := none, projected := project (inputFor s.facts probe none) }
    match s.eligibility with
    | .eligible binding =>
      if s.credentialsCurrent binding then
        match s.issue binding with
        | .error _ => (.exhausted, s)
        | .ok (ticket, s) => (.changed (some ticket), s)
      else (.changed none, s)
    | _ => (.changed none, s)

def updateStructural (update : Update) (s : ReadinessRuntime) : ReadinessReply × ReadinessRuntime :=
  if s.closed then (.rejected .stateUnavailable, s)
  else if update.facts = s.facts then
    (.unchanged, { s with facts := update.facts, credentials := update.credentials })
  else reproject { s with facts := update.facts, credentials := update.credentials }

def observe (update : FactUpdate) (s : ReadinessRuntime) : ReadinessReply × ReadinessRuntime :=
  match update.resolve s.facts s.credentials with
  | .error error => (.rejected error, s)
  | .ok update => s.updateStructural update

def spawnProbe (ticket : ProbeTicket) (s : ReadinessRuntime) : ReadinessReply × ReadinessRuntime :=
  if ticket ∈ s.starting then
    if s.credentialsCurrent ticket.binding then
      (.started true,
        { s with starting := s.starting.erase ticket, running := ticket :: s.running })
    else (.started false, { s with starting := s.starting.erase ticket })
  else (.ignored, s)

def completeProbe (ticket : ProbeTicket) (outcome : ProbeOutcome) (elapsed : Nat)
    (s : ReadinessRuntime) : ReadinessReply × ReadinessRuntime :=
  let s := { s with running := s.running.erase ticket }
  if s.closed then (.ignored, s)
  else match s.probe.completeBounded ticket outcome elapsed defaultEgressProbeBudget with
    | none => (.ignored, s)
    | some (observation, probe) =>
      let s := { s with
        probe
        probeInFlight := false
        observation := some observation
        projected := project (inputFor s.facts probe (some observation)) }
      if s.eligibility = .eligible observation.binding then
        (.completed observation, { s with
          refreshEpoch := s.nextEpoch
          refreshPending := true
          timers := ⟨s.nextEpoch, observation.binding⟩ :: s.timers })
      else (.completed observation, { s with refreshPending := false })

def fireRefresh (timer : RefreshTimer) (s : ReadinessRuntime) : ReadinessReply × ReadinessRuntime :=
  if timer ∈ s.timers then
    let s := { s with timers := s.timers.erase timer }
    if s.closed || !s.refreshPending || s.refreshEpoch != timer.epoch then (.ignored, s)
    else
      let s := { s with refreshPending := false }
      if s.eligibility = .eligible timer.binding then
        match s.issue timer.binding with
        | .error _ => (.exhausted, s)
        | .ok (ticket, s) => (.refreshed ticket, s)
      else (.ignored, s)
  else (.ignored, s)

def shutdown (s : ReadinessRuntime) : ReadinessReply × ReadinessRuntime :=
  if s.closed then (.ignored, s)
  else (.closed, { s with
    closed := true
    refreshEpoch := s.nextEpoch
    refreshPending := false
    probeInFlight := false
    facts := { s.facts with credential := none }
    credentials := none
    probe := match s.probe.invalidate with
      | .ok (_, probe) => probe
      | .error _ => s.probe
    observation := none
    projected := .unknown })

def step (s : ReadinessRuntime) : ReadinessAction → ReadinessReply × ReadinessRuntime
  | .update update => s.observe update
  | .spawnProbe ticket => s.spawnProbe ticket
  | .completeProbe ticket outcome elapsed => s.completeProbe ticket outcome elapsed
  | .fireRefresh timer => s.fireRefresh timer
  | .shutdown => s.shutdown

end ReadinessRuntime

abbrev ReadinessEntry : Type := Event ReadinessRuntime ReadinessAction ReadinessReply

abbrev ReadinessRun : Type := Recorded ReadinessRuntime ReadinessAction ReadinessReply

def runReadiness (generation : RuntimeGeneration) (actions : List ReadinessAction) : ReadinessRun :=
  run (record ReadinessRuntime.step) (.init (.new generation)) actions

end MishProxy.Probing
