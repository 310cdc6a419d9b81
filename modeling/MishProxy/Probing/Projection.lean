import Mathlib.Algebra.Ring.Nat
import Mathlib.Data.Char
import Mathlib.Tactic.Common

/-!
# The readiness projection and the probe tickets

Readiness is a function of the facts of the natural owners and of one probe observation. A
probe is bound to the generations of all owners; `probeEligibility` forms this binding, and
`project` compares it with the observation.

The probe coordinator hands out tickets. A ticket is good for one completion, and only as
long as no other ticket was handed out and no fact changed. The freshness markers are the
values of a 64-bit counter that does not wrap: when it is used up, an allocation fails.

`project_eq_ready_iff` is what Ready says about the input.
-/

namespace MishProxy.Probing

inductive KeyKind where
  | cellularOwner
  | runtime
  | proxyServing
  | meshAdmission
  | credential
  | freshness
  deriving DecidableEq, Repr

/-- The number of a generation; zero is reserved. -/
@[ext]
structure GenerationKey (kind : KeyKind) where
  raw : Nat
  ne_zero : raw ≠ 0

instance (kind : KeyKind) : DecidableEq (GenerationKey kind) :=
  fun _ _ => decidable_of_iff _ GenerationKey.ext_iff.symm

def GenerationKey.new {kind : KeyKind} (raw : Nat) : Option (GenerationKey kind) :=
  if h : raw = 0 then none else some ⟨raw, h⟩

abbrev CellularOwnerGeneration : Type := GenerationKey .cellularOwner
abbrev RuntimeGeneration : Type := GenerationKey .runtime
abbrev ProxyServingGeneration : Type := GenerationKey .proxyServing
abbrev MeshAdmissionEpoch : Type := GenerationKey .meshAdmission
abbrev CredentialVersion : Type := GenerationKey .credential
abbrev FreshnessMarker : Type := GenerationKey .freshness

inductive Readiness where
  | ready
  | notReady
  | degraded
  | unknown
  deriving DecidableEq, Repr

inductive ProbeOutcome where
  | succeeded
  | dnsFailed
  | tlsFailed
  | authenticationFailed
  | transportFailed
  | timeout
  deriving DecidableEq, Repr

structure ProbeBinding where
  cellularOwnerGeneration : CellularOwnerGeneration
  runtimeGeneration : RuntimeGeneration
  proxyServingGeneration : ProxyServingGeneration
  meshAdmissionEpoch : MeshAdmissionEpoch
  credentialVersion : CredentialVersion
  deriving DecidableEq

structure EgressProbeObservation where
  outcome : ProbeOutcome
  binding : ProbeBinding
  freshness : FreshnessMarker
  deriving DecidableEq

structure CellularReadinessFact where
  ownerGeneration : CellularOwnerGeneration
  admitted : Bool
  rootPolicyVerified : Bool
  deriving DecidableEq

structure RuntimeReadinessFact where
  generation : RuntimeGeneration
  deriving DecidableEq

structure ProxyReadinessFact where
  runtimeGeneration : RuntimeGeneration
  servingGeneration : Option ProxyServingGeneration
  credentialVersion : Option CredentialVersion
  healthy : Bool
  deriving DecidableEq

structure CredentialReadinessFact where
  version : CredentialVersion
  active : Bool
  deriving DecidableEq

structure MeshReadinessFact where
  runtimeGeneration : RuntimeGeneration
  admissionEpoch : Option MeshAdmissionEpoch
  admitted : Bool
  ingressRunning : Bool
  deriving DecidableEq

structure ProductReadinessInput where
  cellular : Option CellularReadinessFact
  runtime : Option RuntimeReadinessFact
  proxy : Option ProxyReadinessFact
  credential : Option CredentialReadinessFact
  mesh : Option MeshReadinessFact
  expectedFreshness : Option FreshnessMarker
  probe : Option EgressProbeObservation
  deriving DecidableEq

inductive ProbeEligibility where
  | eligible (binding : ProbeBinding)
  | notReady
  | unknown
  deriving DecidableEq

/-- The part of `probe_eligibility` behind the presence of all facts. -/
def coherentBinding (cellular : CellularReadinessFact) (runtime : RuntimeReadinessFact)
    (proxy : ProxyReadinessFact) (credential : CredentialReadinessFact) (mesh : MeshReadinessFact) :
    ProbeEligibility :=
  if !cellular.admitted || !cellular.rootPolicyVerified || !proxy.healthy || !credential.active ||
      !mesh.admitted then .notReady
  else if proxy.runtimeGeneration ≠ runtime.generation ∨
      mesh.runtimeGeneration ≠ runtime.generation then .unknown
  else match proxy.servingGeneration, proxy.credentialVersion, mesh.admissionEpoch with
    | some proxyServingGeneration, some proxyCredentialVersion, some meshAdmissionEpoch =>
      if proxyCredentialVersion ≠ credential.version then .unknown
      else .eligible
        { cellularOwnerGeneration := cellular.ownerGeneration
          runtimeGeneration := runtime.generation
          proxyServingGeneration
          meshAdmissionEpoch
          credentialVersion := credential.version }
    | _, _, _ => .unknown

def probeEligibility (input : ProductReadinessInput) : ProbeEligibility :=
  match input.cellular, input.runtime, input.proxy, input.credential, input.mesh with
  | some cellular, some runtime, some proxy, some credential, some mesh =>
    coherentBinding cellular runtime proxy credential mesh
  | _, _, _, _, _ => .unknown

def ProbeOutcome.readiness : ProbeOutcome → Readiness
  | .succeeded => .ready
  | _ => .degraded

def project (input : ProductReadinessInput) : Readiness :=
  match probeEligibility input with
  | .notReady => .notReady
  | .unknown => .unknown
  | .eligible currentBinding =>
    match input.expectedFreshness, input.probe with
    | some expectedFreshness, some probe =>
      if probe.binding ≠ currentBinding ∨ probe.freshness ≠ expectedFreshness then .unknown
      else probe.outcome.readiness
    | _, _ => .unknown

theorem credential_of_eligible {input binding} (h : probeEligibility input = .eligible binding) :
    input.credential = some ⟨binding.credentialVersion, true⟩ := by
  unfold probeEligibility at h
  split at h
  · rename_i cellular rt proxy credential mesh _ _ _ hcredential _
    unfold coherentBinding at h
    split at h
    · cases h
    · rename_i hact
      split at h
      · cases h
      · split at h
        · split at h
          · cases h
          · cases h
            have hact : credential.active = true := by
              by_contra hinactive
              exact hact (by simp [hinactive])
            rw [hcredential, ← hact]
        · cases h
  · cases h

theorem project_eq_ready_iff {input} : project input = .ready ↔ ∃ probe, input.probe = some probe ∧
      probeEligibility input = .eligible probe.binding ∧
      input.expectedFreshness = some probe.freshness ∧ probe.outcome = .succeeded := by
  unfold project
  constructor
  · intro h
    split at h
    · cases h
    · cases h
    · rename_i binding helig
      split at h
      · rename_i freshness probe hfreshness hprobe
        split_ifs at h with hdiffers
        rw [not_or, Decidable.not_not, Decidable.not_not] at hdiffers
        refine ⟨probe, hprobe, hdiffers.1 ▸ helig, hdiffers.2 ▸ hfreshness, ?_⟩
        cases hout : probe.outcome with
        | succeeded => rfl
        | _ => cases (hout ▸ h)
      · cases h
  · rintro ⟨probe, hprobe, helig, hfreshness, hout⟩
    simp [helig, hfreshness, hprobe, hout, ProbeOutcome.readiness]

/-! ## Tickets -/

/-- Durations are counted in nanoseconds. -/
def defaultEgressProbeBudget : Nat := 20 * 1000000000

inductive EgressProbeError where
  | zeroBudget
  | deadlineOverflow
  | freshnessExhausted
  deriving DecidableEq, Repr

structure ProbeTicket where
  binding : ProbeBinding
  freshness : FreshnessMarker
  deriving DecidableEq

structure EgressProbeCoordinator where
  lastFreshness : Nat
  current : Option ProbeTicket
  deriving DecidableEq

def maxFreshness : Nat := 2 ^ 64 - 1

def classifyOutcome (reported : ProbeOutcome) (timedOut : Bool) : ProbeOutcome :=
  if timedOut then .timeout else reported

namespace EgressProbeCoordinator

def new : EgressProbeCoordinator := ⟨0, none⟩

def nextFreshness (probe : EgressProbeCoordinator) :
    Except EgressProbeError (FreshnessMarker × EgressProbeCoordinator) :=
  if probe.lastFreshness < maxFreshness then
    .ok (⟨probe.lastFreshness + 1, Nat.succ_ne_zero _⟩,
      { probe with lastFreshness := probe.lastFreshness + 1 })
  else .error .freshnessExhausted

def begin (binding : ProbeBinding) (probe : EgressProbeCoordinator) :
    Except EgressProbeError (ProbeTicket × EgressProbeCoordinator) := do
  let (freshness, probe) ← probe.nextFreshness
  pure (⟨binding, freshness⟩, { probe with current := some ⟨binding, freshness⟩ })

def invalidate (probe : EgressProbeCoordinator) :
    Except EgressProbeError (FreshnessMarker × EgressProbeCoordinator) := do
  let (freshness, probe) ← probe.nextFreshness
  pure (freshness, { probe with current := none })

def expectedFreshness (probe : EgressProbeCoordinator) : Option FreshnessMarker :=
  GenerationKey.new probe.lastFreshness

def completeBounded (ticket : ProbeTicket) (reported : ProbeOutcome) (elapsed budget : Nat)
    (probe : EgressProbeCoordinator) : Option (EgressProbeObservation × EgressProbeCoordinator) :=
  if probe.current ≠ some ticket then none
  else some
    (⟨classifyOutcome reported (decide (budget ≤ elapsed)), ticket.binding, ticket.freshness⟩,
      { probe with current := none })

/-- The marker that the next allocation hands out. -/
def marker (probe : EgressProbeCoordinator) : FreshnessMarker :=
  ⟨probe.lastFreshness + 1, Nat.succ_ne_zero _⟩

theorem begin_eq (binding : ProbeBinding) (probe : EgressProbeCoordinator) : probe.begin binding =
      if probe.lastFreshness < maxFreshness then
        .ok (⟨binding, probe.marker⟩, ⟨probe.lastFreshness + 1, some ⟨binding, probe.marker⟩⟩)
      else .error .freshnessExhausted := by
  unfold begin nextFreshness
  split <;> rfl

theorem invalidate_eq (probe : EgressProbeCoordinator) : probe.invalidate =
      if probe.lastFreshness < maxFreshness then .ok (probe.marker, ⟨probe.lastFreshness + 1, none⟩)
      else .error .freshnessExhausted := by
  unfold invalidate nextFreshness
  split <;> rfl

end EgressProbeCoordinator

end MishProxy.Probing
