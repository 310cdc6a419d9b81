import MishProxy.Mesh.Composition
import MishProxy.Product.Lifecycle
import MishProxy.Product.PlatformFacts

/-!
# A start that meets a live observation of the VPN

`run_start` copies the stored facts under the lock of the product and replays them after it has
released it. A live observation is stored under the same lock and applied to the generation later,
too. Whichever comes second shows the generation a sequence number that it has accepted already,
and the endpoint owner answers that the observation is stale. For a live call this is an answer;
for the replay it is a failure of the start (`start_failed_by_live_observation`).

`replay_stale_iff`: the replay fails this way exactly when a live call has made the generation
accept the copied observation or a newer one before.

The rest of `apply_mesh_observation`, behind the section of the transport, is an answer of the
environment, and so is what the transport asks of its executor.
-/

namespace MishProxy.Product

open Machine Mesh MeshEndpointOwner

/-- One generation from the request to start it. -/
structure MeshStart where
  state : RuntimeLifecycleState
  facts : ProductPlatformFacts
  transport : MeshTransport
  /-- The sequence numbers that the generation has accepted, newest first. -/
  received : List Nat
  /-- What the replay of the VPN observation returned. -/
  outcome : Option (Except MeshTransportError Unit)

inductive MeshStartCall where
  | requestStart
  | requestStop
  | observeMeshVpn (sequence : Nat) (observation : MeshVpnObservation)
  deriving DecidableEq

inductive MeshStartTask where
  | call (call : MeshStartCall)
  | runStart
  | apply (sequence : Nat) (observation : MeshVpnObservation)
  | replay (stored : Option StoredMeshObservation)
  | finishFailedStart
  deriving DecidableEq

/-- The answers of the executor to the transport, and the result of what follows its section:
the reconciliation of the ingress and the report to readiness ask the endpoint owner nothing. -/
structure MeshStartAnswers where
  ingress : IngressAnswers
  rest : Except MeshTransportError Unit
  rest_ne_owner : ∀ error, rest ≠ .error (.owner error)

namespace MeshStart

def new (accepted : Ipv4Cidr) : MeshStart where
  state := .stopped
  facts := .empty
  transport := .new accepted
  received := []
  outcome := none

/-- Whether a live call reaches the generation. -/
def active (s : MeshStart) : Bool := s.state = .starting || s.state = .running

def proceedCall (s : MeshStart) : MeshStartCall → MeshStart × List MeshStartTask
  | .requestStart =>
    if s.state = .stopped then ({ s with state := .starting }, [.runStart]) else (s, [])
  | .requestStop => ({ s with state := if s.active then .stopping else s.state }, [])
  | .observeMeshVpn sequence observation =>
    ({ s with facts := s.facts.recordMesh sequence observation },
      if s.active then [.apply sequence observation] else [])

/-- The section of the transport in `apply_mesh_observation`. -/
def applyMeshObservation (sequence : Nat) (observation : MeshVpnObservation)
    (answers : MeshStartAnswers) (s : MeshStart) : Except MeshTransportError Unit × MeshStart :=
  let (result, transport) := s.transport.observeVpn sequence observation answers.ingress
  (result.bind fun _ => answers.rest,
    { s with
      transport
      received := match s.transport.owner.observeLocalIpv4 sequence observation.addresses with
        | .ok _ => sequence :: s.received
        | .error _ => s.received })

def proceed (task : MeshStartTask) (answers : MeshStartAnswers) (s : MeshStart) :
    MeshStart × List MeshStartTask :=
  match task with
  | .call call => s.proceedCall call
  | .runStart => (s, if s.state = .starting then [.replay s.facts.mesh] else [])
  | .apply sequence observation => ((s.applyMeshObservation sequence observation answers).2, [])
  | .replay none => ({ s with outcome := some (.ok ()) }, [])
  | .replay (some stored) =>
    let (result, s) := s.applyMeshObservation stored.sequence stored.observation answers
    ({ s with outcome := some result }, if result.isOk then [] else [.finishFailedStart])
  | .finishFailedStart => (s, [])

end MeshStart

def meshStartProtocol : Protocol MeshStart MeshStartCall MeshStartTask MeshStartAnswers where
  first := .call
  proceed := MeshStart.proceed

abbrev MeshStartAction : Type := PoolAction MeshStartCall MeshStartTask MeshStartAnswers

def runMeshStart (accepted : Ipv4Cidr) (actions : List MeshStartAction) :
    Pool MeshStart MeshStartTask :=
  run (Pool.step meshStartProtocol) (.init (.new accepted)) actions

/-! ## What the owner of the endpoint has accepted -/

/-- The owner's last number is the largest one that it has accepted. -/
def HasReceived (s : MeshStart) : Prop :=
  ∀ sequence, (s.transport.owner.snapshot.lastSequence.any fun last => sequence ≤ last) = true ↔
    ∃ accepted ∈ s.received, sequence ≤ accepted

variable {sequence : Nat}

theorem lastSequence_observeLocalIpv4 {owner next : MeshEndpointOwner}
    {addresses : List (BitVec 32)} (h : owner.observeLocalIpv4 sequence addresses = .ok next) :
    next.snapshot.lastSequence = some sequence ∧
      (owner.snapshot.lastSequence.any fun last => sequence ≤ last) = false := by
  unfold observeLocalIpv4 at h
  split_ifs at h with hzero hstale
  refine ⟨?_, by simpa using hstale⟩
  split at h
  · cases h
    rfl
  · unfold admitEndpoint at h
    split_ifs at h
    · cases h
      rfl
    · cases h
      rfl
  · cases h
    rfl

variable {transport : MeshTransport} {answers : IngressAnswers}

/-- An observation that the owner accepts becomes its last one, whatever follows. -/
theorem owner_observeVpn {obs} : (transport.observeVpn sequence obs answers).2.owner =
      match transport.owner.observeLocalIpv4 sequence obs.addresses with
      | .ok owner => owner
      | .error _ => transport.owner := by
  unfold MeshTransport.observeVpn
  split
  · rename_i error herror
    rw [herror]
  · rename_i owner howner
    rw [howner]
    split_ifs
    · exact owner_stopIngressLocked _ answers
    · rfl

theorem HasReceived.apply {s} (h : HasReceived s) (sequence obs answers) :
    HasReceived (s.applyMeshObservation sequence obs answers).2 := by
  intro number
  simp only [MeshStart.applyMeshObservation, owner_observeVpn]
  cases hobs : s.transport.owner.observeLocalIpv4 sequence obs.addresses with
  | error error => exact h number
  | ok owner =>
    obtain ⟨hlast, hnewer⟩ := lastSequence_observeLocalIpv4 hobs
    have hnone : ¬ ∃ accepted ∈ s.received, sequence ≤ accepted := by
      rw [← h sequence, hnewer]
      exact Bool.false_ne_true
    simp only [hlast, Option.any_some, decide_eq_true_eq, List.exists_mem_cons_iff]
    refine ⟨.inl, ?_⟩
    rintro (hle | ⟨accepted, hmem, hle⟩)
    · exact hle
    · by_contra hgt
      exact hnone ⟨accepted, hmem, by omega⟩

theorem HasReceived.advance {s} (h : HasReceived s) (task answers) :
    HasReceived (s.proceed task answers).1 := by
  cases task with
  | call call =>
    cases call with
    | requestStart =>
      simp only [MeshStart.proceed, MeshStart.proceedCall]
      split_ifs <;> exact h
    | requestStop | observeMeshVpn sequence obs => exact h
  | runStart | finishFailedStart => exact h
  | apply sequence obs => exact h.apply sequence obs answers
  | replay stored =>
    cases stored with
    | none => exact h
    | some stored => exact h.apply stored.sequence stored.observation answers

theorem observeLocalIpv4_stale_iff {owner : MeshEndpointOwner} {addresses : List (BitVec 32)} :
    owner.observeLocalIpv4 sequence addresses = .error .staleObservation ↔
      sequence ≠ 0 ∧ (owner.snapshot.lastSequence.any fun last => sequence ≤ last) = true := by
  unfold observeLocalIpv4
  split_ifs with hzero hstale
  · simp [hzero]
  · exact iff_of_true rfl ⟨hzero, hstale⟩
  · refine iff_of_false ?_ fun h => hstale h.2
    split
    · simp
    · unfold admitEndpoint
      split_ifs <;> rintro ⟨⟩
    · simp

theorem stopIngressLocked_ne_owner {error} :
    (transport.stopIngressLocked answers).1 ≠ .error (.owner error) := by
  unfold MeshTransport.stopIngressLocked
  split_ifs <;> rintro ⟨⟩

theorem observeVpn_stale_iff {obs} :
    (transport.observeVpn sequence obs answers).1 = .error (.owner .staleObservation) ↔
      transport.owner.observeLocalIpv4 sequence obs.addresses = .error .staleObservation := by
  unfold MeshTransport.observeVpn
  split
  · rename_i error herror
    rw [herror]
    simp
  · rename_i owner howner
    rw [howner]
    refine iff_of_false ?_ (by simp)
    split_ifs
    · exact stopIngressLocked_ne_owner
    · simp

theorem applyMeshObservation_stale_iff {s} (h : HasReceived s) (sequence obs answers) :
    (s.applyMeshObservation sequence obs answers).1 = .error (.owner .staleObservation) ↔
      sequence ≠ 0 ∧ ∃ accepted ∈ s.received, sequence ≤ accepted := by
  rw [← h sequence, ← observeLocalIpv4_stale_iff, ← observeVpn_stale_iff]
  simp only [MeshStart.applyMeshObservation]
  cases (s.transport.observeVpn sequence obs answers.ingress).1 with
  | error error => exact Iff.rfl
  | ok => exact iff_of_false (answers.rest_ne_owner _) (by simp)

/-- The replay of a copied observation reports it as stale, and the start fails, exactly when
the generation has accepted that observation or a newer one from a live call. -/
theorem replay_stale_iff (accepted : Ipv4Cidr) (actions : List MeshStartAction)
    (stored : StoredMeshObservation) (answers : MeshStartAnswers) :
    (MeshStart.proceed (.replay (some stored)) answers
        (runMeshStart accepted actions).shared).1.outcome =
          some (.error (.owner .staleObservation)) ↔
      stored.sequence ≠ 0 ∧
        ∃ live ∈ (runMeshStart accepted actions).shared.received, stored.sequence ≤ live := by
  have hreceived : HasReceived (runMeshStart accepted actions).shared := by
    refine Pool.run_always (I := fun p => HasReceived p.shared) (fun _ _ h => h) ?_ ?_ actions
    · exact fun _ task answers h _ => h.advance task answers
    · exact fun sequence => by simp [Pool.init, MeshStart.new, MeshTransport.new, new]
  rw [← applyMeshObservation_stale_iff hreceived stored.sequence stored.observation answers]
  exact Option.some_inj

/-! ## Both orders of one observation -/

/-- Nothing is running that could fail, and what follows succeeds. -/
def MeshStartAnswers.good : MeshStartAnswers where
  ingress := ⟨true, true, 0, .ok ()⟩
  rest := .ok ()
  rest_ne_owner := by rintro _ ⟨⟩

def observedVpn : MeshVpnObservation := .uniqueVpn [0x64600204#32]

/-- A live observation is stored while the product is starting, and then the facts are copied. -/
def observedWhileStarting : List MeshStartAction :=
  [.call .requestStart, .advance (.call .requestStart) .good,
    .call (.observeMeshVpn 1 observedVpn), .advance (.call (.observeMeshVpn 1 observedVpn)) .good,
    .advance .runStart .good]

/-- The replay comes first: the start goes on, and the live call is told that it is late. -/
example : (runMeshStart sampleRange (observedWhileStarting ++
    [.advance (.replay (some ⟨1, observedVpn⟩)) .good,
      .advance (.apply 1 observedVpn) .good])).shared.outcome = some (.ok ()) := by
  decide +kernel

/-- The live call comes first: the start fails. -/
theorem start_failed_by_live_observation :
    (runMeshStart sampleRange (observedWhileStarting ++
        [.advance (.apply 1 observedVpn) .good,
          .advance (.replay (some ⟨1, observedVpn⟩)) .good])).shared.outcome =
      some (.error (.owner .staleObservation)) ∧
    (runMeshStart sampleRange (observedWhileStarting ++
        [.advance (.apply 1 observedVpn) .good,
          .advance (.replay (some ⟨1, observedVpn⟩)) .good])).tasks = [.finishFailedStart] := by
  decide +kernel

end MishProxy.Product
