import MishProxy.Probing.Coordinator

/-!
# The Mesh endpoint and its ingress

The endpoint owner admits an address when exactly one local address lies in the accepted
range. A change of the admitted address starts a new epoch, and so does a loss. The transport
keeps the owner together with the one ingress that runs for an epoch: an observation that
ends the epoch of the ingress stops it under the same lock, and a start is refused when its
epoch is not the admitted one.

Starting and stopping the listeners, their health and the number of sessions are answers of
the environment. `EpochCurrent` is what every operation of the transport keeps.
-/

namespace MishProxy.Mesh

/-! ## The endpoint owner -/

inductive MeshAdmissionReason where
  | noObservation
  | noAcceptedAddress
  | multipleAcceptedAddresses
  deriving DecidableEq, Repr

/-- The whole snapshot of the owner; readiness reads only its first part. -/
structure MeshAdmissionSnapshot extends Probing.MeshAdmissionSnapshot where
  reason : Option MeshAdmissionReason
  admittedEndpoint : Option (BitVec 32)
  lastSequence : Option Nat
  deriving DecidableEq

inductive MeshOwnerError where
  | invalidAcceptedCidr
  | invalidObservationSequence
  | staleObservation
  | admissionEpochExhausted
  deriving DecidableEq, Repr

/-- A range of addresses without bits outside of its mask. -/
structure Ipv4Cidr where
  network : BitVec 32
  mask : BitVec 32
  aligned : network &&& mask = network
  deriving DecidableEq

def minAcceptedPrefix : Nat := 8

namespace Ipv4Cidr

def new (network : BitVec 32) (length : Nat) : Except MeshOwnerError Ipv4Cidr :=
  if minAcceptedPrefix ≤ length ∧ length ≤ 32 then
    if h : network &&& (BitVec.allOnes 32 <<< (32 - length)) = network then
      .ok ⟨network, BitVec.allOnes 32 <<< (32 - length), h⟩
    else .error .invalidAcceptedCidr
  else .error .invalidAcceptedCidr

/-- Unspecified, multicast and broadcast addresses are in no range. -/
def contains (cidr : Ipv4Cidr) (address : BitVec 32) : Bool :=
  address ≠ 0 ∧ address >>> 28 ≠ 0xE ∧ address ≠ BitVec.allOnes 32 ∧
    address &&& cidr.mask = cidr.network

end Ipv4Cidr

structure MeshEndpointOwner where
  accepted : Ipv4Cidr
  snapshot : MeshAdmissionSnapshot
  nextEpoch : Nat
  deriving DecidableEq

def maxEpoch : Nat := 2 ^ 64 - 1

namespace MeshEndpointOwner

def new (accepted : Ipv4Cidr) : MeshEndpointOwner where
  accepted := accepted
  snapshot :=
    { state := .notAdmitted
      admissionEpoch := none
      reason := some .noObservation
      admittedEndpoint := none
      lastSequence := none }
  nextEpoch := 0

/-- The different local addresses in the accepted range. -/
def candidates (owner : MeshEndpointOwner) (addresses : List (BitVec 32)) : List (BitVec 32) :=
  (addresses.filter owner.accepted.contains).dedup

def withoutEndpoint (reason : MeshAdmissionReason) (sequence : Nat) (owner : MeshEndpointOwner) :
    MeshEndpointOwner :=
  { owner with
    snapshot :=
      { state := .notAdmitted
        admissionEpoch := none
        reason := some reason
        admittedEndpoint := none
        lastSequence := some sequence } }

def withEndpoint (endpoint : BitVec 32) (epoch : Option Nat) (sequence : Nat)
    (owner : MeshEndpointOwner) : MeshEndpointOwner :=
  { owner with
    snapshot :=
      { state := .admitted
        admissionEpoch := epoch
        reason := none
        admittedEndpoint := some endpoint
        lastSequence := some sequence } }

/-- The address that is admitted already keeps its epoch; another one gets the next epoch. -/
def admitEndpoint (endpoint : BitVec 32) (sequence : Nat) (owner : MeshEndpointOwner) :
    Except MeshOwnerError MeshEndpointOwner :=
  if owner.snapshot.admittedEndpoint = some endpoint then
    .ok (owner.withEndpoint endpoint owner.snapshot.admissionEpoch sequence)
  else if owner.nextEpoch < maxEpoch then
    .ok ({ owner with nextEpoch := owner.nextEpoch + 1 }.withEndpoint endpoint
      (some (owner.nextEpoch + 1)) sequence)
  else .error .admissionEpochExhausted

/-- A failed observation leaves the owner as it was. -/
def observeLocalIpv4 (sequence : Nat) (addresses : List (BitVec 32)) (owner : MeshEndpointOwner) :
    Except MeshOwnerError MeshEndpointOwner :=
  if sequence = 0 then .error .invalidObservationSequence
  else if owner.snapshot.lastSequence.any fun last => sequence ≤ last then .error .staleObservation
  else match owner.candidates addresses with
    | [] => .ok (owner.withoutEndpoint .noAcceptedAddress sequence)
    | [endpoint] => owner.admitEndpoint endpoint sequence
    | _ => .ok (owner.withoutEndpoint .multipleAcceptedAddresses sequence)

end MeshEndpointOwner

/-! ## The transport -/

inductive MeshVpnObservation where
  | absent
  | uniqueVpn (localIpv4 : List (BitVec 32))
  | ambiguousVpn
  deriving DecidableEq

def MeshVpnObservation.addresses : MeshVpnObservation → List (BitVec 32)
  | .absent | .ambiguousVpn => []
  | .uniqueVpn localIpv4 => localIpv4

inductive MeshIngressError where
  | invalidEndpoint
  | invalidPortMapping
  | bindFailed
  | listenerConfigurationFailed
  | executorUnavailable
  | shutdownTimedOut
  deriving DecidableEq, Repr

inductive MeshTransportError where
  | owner (error : MeshOwnerError)
  | stateUnavailable
  | ingressUnavailable
  | ingress (error : MeshIngressError)
  | cleanupFailed
  deriving DecidableEq, Repr

/-- One running proxy, which executes the ingress. -/
structure ProxyServingRuntime where
  id : Nat
  deriving DecidableEq

structure MeshTransport where
  owner : MeshEndpointOwner
  executor : Option ProxyServingRuntime
  /-- Whether there is an owner of the external sessions. -/
  sessions : Bool
  ingressEpoch : Option Nat
  cleanupFailed : Bool
  deriving DecidableEq

/-- What the executor answers at one operation of the transport. -/
structure IngressAnswers where
  healthy : Bool
  stopped : Bool
  activeSessions : Nat
  started : Except MeshIngressError Unit

namespace MeshTransport

def new (accepted : Ipv4Cidr) : MeshTransport where
  owner := .new accepted
  executor := none
  sessions := false
  ingressEpoch := none
  cleanupFailed := false

def admission (transport : MeshTransport) : MeshAdmissionSnapshot := transport.owner.snapshot

/-- A stop that left something behind taints the transport. -/
def stopIngressLocked (answers : IngressAnswers) (transport : MeshTransport) :
    Except MeshTransportError Unit × MeshTransport :=
  let stopped := { transport with ingressEpoch := none, sessions := false, executor := none }
  if (transport.executor.isSome && !answers.stopped) ||
      (transport.sessions && answers.activeSessions != 0) then
    (.error .cleanupFailed,
      { stopped with cleanupFailed := true, sessions := transport.sessions })
  else if transport.cleanupFailed then (.error .cleanupFailed, stopped)
  else (.ok (), stopped)

def observeVpn (sequence : Nat) (observation : MeshVpnObservation) (answers : IngressAnswers)
    (transport : MeshTransport) : Except MeshTransportError Unit × MeshTransport :=
  match transport.owner.observeLocalIpv4 sequence observation.addresses with
  | .error error => (.error (.owner error), transport)
  | .ok owner =>
    let observed := { transport with owner }
    if transport.ingressEpoch.isSome ∧ transport.ingressEpoch ≠ owner.snapshot.admissionEpoch then
      observed.stopIngressLocked answers
    else (.ok (), observed)

/-- The part of `start_ingress` behind the stop of an earlier ingress. -/
def launch (admissionEpoch : Nat) (executor : ProxyServingRuntime) (answers : IngressAnswers)
    (transport : MeshTransport) : Except MeshTransportError Bool × MeshTransport :=
  if transport.admission.admittedEndpoint.isNone then (.error .ingressUnavailable, transport)
  else match answers.started with
    | .error error => (.error (.ingress error), transport)
    | .ok () =>
      (.ok true, { transport with
        executor := some executor
        sessions := true
        ingressEpoch := some admissionEpoch })

/-- Whether an ingress is in the way of a new one. -/
def occupied (admissionEpoch : Nat) (transport : MeshTransport) : Bool :=
  transport.ingressEpoch = some admissionEpoch || transport.executor.isSome || transport.sessions

def startIngress (admissionEpoch : Nat) (executor : ProxyServingRuntime) (answers : IngressAnswers)
    (transport : MeshTransport) : Except MeshTransportError Bool × MeshTransport :=
  if transport.cleanupFailed then (.error .cleanupFailed, transport)
  else if transport.admission.state ≠ .admitted ∨
      transport.admission.admissionEpoch ≠ some admissionEpoch then (.ok false, transport)
  else if transport.ingressEpoch = some admissionEpoch ∧ transport.executor.isSome ∧
      answers.healthy then (.ok true, transport)
  else if transport.occupied admissionEpoch then
    match transport.stopIngressLocked answers with
    | (.error error, stopped) => (.error error, stopped)
    | (.ok (), stopped) => stopped.launch admissionEpoch executor answers
  else transport.launch admissionEpoch executor answers

end MeshTransport

/-! ## The epoch of the ingress -/

/-- An ingress runs for the admitted epoch only. -/
def EpochCurrent (transport : MeshTransport) : Prop :=
  ∀ epoch, transport.ingressEpoch = some epoch → transport.admission.admissionEpoch = some epoch

section

variable {transport : MeshTransport} {answers : IngressAnswers} {epoch : Nat}
  {executor : ProxyServingRuntime}

theorem epochCurrent_new (accepted) : EpochCurrent (.new accepted) := by rintro _ ⟨⟩

theorem ingressEpoch_stopIngressLocked (transport : MeshTransport) (answers : IngressAnswers) :
    (transport.stopIngressLocked answers).2.ingressEpoch = none := by
  unfold MeshTransport.stopIngressLocked
  split_ifs <;> rfl

theorem owner_stopIngressLocked (transport : MeshTransport) (answers : IngressAnswers) :
    (transport.stopIngressLocked answers).2.owner = transport.owner := by
  unfold MeshTransport.stopIngressLocked
  split_ifs <;> rfl

theorem epochCurrent_stopIngressLocked : EpochCurrent (transport.stopIngressLocked answers).2 := by
  intro epoch hepoch
  rw [ingressEpoch_stopIngressLocked] at hepoch
  cases hepoch

theorem EpochCurrent.observeVpn (h : EpochCurrent transport) (seq obs) :
    EpochCurrent (transport.observeVpn seq obs answers).2 := by
  unfold MeshTransport.observeVpn
  split
  · exact h
  · rename_i owner _
    split_ifs with hended
    · exact epochCurrent_stopIngressLocked
    · intro epoch hepoch
      have hsome : transport.ingressEpoch.isSome = true := by
        rw [show transport.ingressEpoch = some epoch from hepoch]
        rfl
      have hsame : transport.ingressEpoch = owner.snapshot.admissionEpoch := by
        by_contra hne
        exact hended ⟨hsome, hne⟩
      exact hsame.symm.trans hepoch

theorem ingressEpoch_observeVpn (transport : MeshTransport) (answers : IngressAnswers)
    (seq : Nat) (obs : MeshVpnObservation) :
    (transport.observeVpn seq obs answers).2.ingressEpoch = transport.ingressEpoch ∨
      (transport.observeVpn seq obs answers).2.ingressEpoch = none := by
  unfold MeshTransport.observeVpn
  split
  · exact .inl rfl
  · dsimp only
    split_ifs
    · exact .inr (ingressEpoch_stopIngressLocked _ answers)
    · exact .inl rfl

theorem EpochCurrent.launch (h : EpochCurrent transport)
    (hadm : transport.admission.admissionEpoch = some epoch) :
    EpochCurrent (transport.launch epoch executor answers).2 := by
  unfold MeshTransport.launch
  split_ifs
  · exact h
  · split
    · exact h
    · intro other hoth
      have heq : epoch = other := Option.some.inj hoth
      exact heq ▸ hadm

theorem EpochCurrent.startIngress (h : EpochCurrent transport) (epoch executor) :
    EpochCurrent (transport.startIngress epoch executor answers).2 := by
  unfold MeshTransport.startIngress
  split_ifs with hfail hstale hrun hoccupied
  · exact h
  · exact h
  · exact h
  · have hadm : transport.admission.admissionEpoch = some epoch := by
      by_contra hne
      exact hstale (.inr hne)
    have hstopped : EpochCurrent (transport.stopIngressLocked answers).2 :=
      epochCurrent_stopIngressLocked
    split
    · rename_i error stopped hstop
      rw [hstop] at hstopped
      exact hstopped
    · rename_i stopped hstop
      rw [hstop] at hstopped
      refine hstopped.launch ?_
      have howner := owner_stopIngressLocked transport answers
      rw [hstop] at howner
      have hadmn : stopped.admission = transport.admission := congrArg (·.snapshot) howner
      rw [hadmn]
      exact hadm
  · have hadm : transport.admission.admissionEpoch = some epoch := by
      by_contra hne
      exact hstale (.inr hne)
    exact h.launch hadm

end

end MishProxy.Mesh
