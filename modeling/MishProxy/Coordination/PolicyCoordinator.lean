import MishProxy.Coordination.EffectGate
import MishProxy.Runtime.Reconcile

/-!
# The root-policy coordinator

Every section that the source runs under one lock is one step. A call changes the owner first and
offers its request in a later section; the drain takes the latest offer, waits until no outbound
effect is in flight, reconciles and publishes. A timer offers the request again after a failure
that may pass.

The choices of the environment are inputs: which task runs next, whether a wait times out, how many
changes a reconcile run makes, and how it ends. A run ends enforced only for an admitted request,
as `reconcileIfCurrent_enforced` says of the source's own run. The executor accepts every task, so
the drain is scheduled exactly when it has a stage.

`DrainMove` lists what a step of the drain can do, with the guards of the source.
-/

namespace MishProxy.Coordination

open Machine Cellular MishProxy.Runtime

structure ReconcileRequest where
  admission : CellularAdmissionSnapshot
  interfaceName : Option Text
  deriving DecidableEq

structure CellularPolicyPublication where
  admission : CellularAdmissionSnapshot
  result : RootPolicyResult
  deriving DecidableEq

def sameGeneration (expected current : CellularAdmissionSnapshot) : Bool :=
  if expected.lastSequence = none then
    expected.state = .unknown ∧ current.state = .unknown ∧ current.lastSequence = none ∧
      expected.admittedNetwork = none ∧ current.admittedNetwork = none
  else
    expected.lastSequence = current.lastSequence ∧ expected.state = current.state ∧
      expected.admittedNetwork = current.admittedNetwork

def rawSequence (admission : CellularAdmissionSnapshot) : Nat :=
  admission.lastSequence.elim 0 ObservationSequence.raw

theorem fields_of_sameGeneration {expd current} (h : sameGeneration expd current = true) :
    expd.lastSequence = current.lastSequence ∧ expd.state = current.state ∧
      expd.admittedNetwork = current.admittedNetwork := by
  unfold sameGeneration at h
  split at h
  · rename_i hnone
    obtain ⟨hst, hstate', hnone', hnet, hnetwork'⟩ := of_decide_eq_true h
    exact ⟨hnone.trans hnone'.symm, hst.trans hstate'.symm, hnet.trans hnetwork'.symm⟩
  · exact of_decide_eq_true h

theorem rawSequence_of_sameGeneration {expd current}
    (h : sameGeneration expd current = true) : rawSequence expd = rawSequence current := by
  rw [rawSequence, rawSequence, (fields_of_sameGeneration h).1]

/-! ## Tasks -/

inductive HintUpdate where
  | keep
  | insert (handle : NetworkHandle) (interfaceName : Text)
  | remove (handle : NetworkHandle)
  deriving DecidableEq

def HintUpdate.apply (hints : List (NetworkHandle × Text)) :
    HintUpdate → List (NetworkHandle × Text)
  | .keep => hints
  | .insert handle interfaceName =>
    (handle, interfaceName) :: hints.filter fun hint => hint.1 ≠ handle
  | .remove handle => hints.filter fun hint => hint.1 ≠ handle

/-- What a call that has read the owner does next. -/
inductive Call where
  | recordHint (admission : CellularAdmissionSnapshot) (update : HintUpdate)
  | publishAdmission (admission : CellularAdmissionSnapshot)
  | enqueue (admission : CellularAdmissionSnapshot)
  | offer (request : ReconcileRequest)
  deriving DecidableEq

def Call.admission : Call → CellularAdmissionSnapshot
  | .recordHint admission _ => admission
  | .publishAdmission admission => admission
  | .enqueue admission => admission
  | .offer request => request.admission

inductive DrainStage where
  | looping
  | dequeued (request : ReconcileRequest)
  | quiescing (request : ReconcileRequest) (waiting : Bool)
  | quiesced (request : ReconcileRequest)
  | reconciling (request : ReconcileRequest) (mutations : Nat)
  | reconciled (request : ReconcileRequest) (result : RootPolicyResult)
  | authorizing (request : ReconcileRequest) (authority : CellularNetworkAuthority)
  | resetting (request : ReconcileRequest) (result : RootPolicyResult)
  | publishing (request : ReconcileRequest) (result : RootPolicyResult) (retry : Bool)
  | scheduling (request : ReconcileRequest)
  deriving DecidableEq

structure RecoveryTask where
  epoch : Nat
  request : ReconcileRequest
  deriving DecidableEq

structure PolicyCoordinator where
  runtime : CellularRuntime
  calls : List Call
  interfaceHints : List (NetworkHandle × Text)
  latest : Option ReconcileRequest
  /-- The drain task; `drain_scheduled` is whether there is one. -/
  drain : Option DrainStage
  requested : Nat
  recoveryPending : Bool
  recoveryEpoch : Nat
  recoveries : List RecoveryTask
  lastPublication : Option CellularPolicyPublication
  lastAdmission : Option CellularAdmissionSnapshot
  closed : Bool

inductive DrainInput where
  | next
  | timeout
  | mutate
  | finish (result : RootPolicyResult)
  deriving DecidableEq

inductive CoordinatorAction where
  | observeNetwork (observation : NetworkObservation) (observedHandle : NetworkHandle)
      (interfaceName : Option Text)
  | networkLost (sequence : ObservationSequence) (handle : NetworkHandle)
  | start
  | call (call : Call)
  | drain (input : DrainInput)
  | recover (task : RecoveryTask)
  | acquire
  | dropPermit
  | shutdown
  | closeGate
  deriving DecidableEq

namespace PolicyCoordinator

def new : PolicyCoordinator where
  runtime := .new
  calls := []
  interfaceHints := []
  latest := none
  drain := none
  requested := 0
  recoveryPending := false
  recoveryEpoch := 0
  recoveries := []
  lastPublication := none
  lastAdmission := none
  closed := false

def admission (s : PolicyCoordinator) : CellularAdmissionSnapshot := s.runtime.owner.admission

def requestIsCurrent (request : ReconcileRequest) (s : PolicyCoordinator) : Bool :=
  sameGeneration request.admission s.admission

/-! ## Calls -/

/-- The owner's section of a callback: the gate is closed before the owner hears the event. -/
def ownerEvent (event : NetworkEvent) (update : HintUpdate) (s : PolicyCoordinator) :
    PolicyCoordinator :=
  let runtime := (s.runtime.closeGate.applyEvent event).2
  { s with runtime, calls := .recordHint runtime.owner.admission update :: s.calls }

def scheduleDrain (s : PolicyCoordinator) : PolicyCoordinator :=
  { s with drain := some (s.drain.getD .looping) }

/-- `wrapping_add(1)` on a `u64`. -/
def nextEpoch (s : PolicyCoordinator) : Nat := (s.recoveryEpoch + 1) % 2 ^ 64

def offerNewOwnerRequest (request : ReconcileRequest) (s : PolicyCoordinator) :
    PolicyCoordinator :=
  if s.closed then s
  else scheduleDrain { s with
    requested := min (s.requested + 1) (2 ^ 64 - 1)
    latest := some request
    recoveryEpoch := s.nextEpoch
    recoveryPending := false }

def interfaceHint (admission : CellularAdmissionSnapshot) (s : PolicyCoordinator) : Option Text :=
  admission.admittedNetwork.bind fun handle => s.interfaceHints.lookup handle

/-- The next section of a call that is not in the list any more. -/
def runCall (s : PolicyCoordinator) : Call → PolicyCoordinator
  | .recordHint admission update =>
    { s with
      interfaceHints := update.apply s.interfaceHints
      calls := .publishAdmission admission :: s.calls }
  | .publishAdmission admission =>
    { s with lastAdmission := some admission, calls := .enqueue admission :: s.calls }
  | .enqueue admission =>
    if s.closed then s
    else { s with calls := .offer ⟨admission, s.interfaceHint admission⟩ :: s.calls }
  | .offer request => s.offerNewOwnerRequest request

def callStep (call : Call) (s : PolicyCoordinator) : PolicyCoordinator :=
  if call ∈ s.calls then runCall { s with calls := s.calls.erase call } call else s

/-! ## The drain -/

def goto (stage : DrainStage) (s : PolicyCoordinator) : PolicyCoordinator :=
  { s with drain := some stage }

/-- What follows a reconcile run whose request is still current. -/
def settle (request : ReconcileRequest) (result : RootPolicyResult) : DrainStage :=
  if result = .enforced then
    match request.admission.lastSequence, request.admission.admittedNetwork with
    | some sequence, some network => .authorizing request { network, sequence }
    | _, _ => .looping
  else if result = .failClosed none ∧ request.admission.state ≠ .admitted then
    .resetting request result
  else if result.retryable then .publishing request result true
  else .resetting request result

def resetRecovery (s : PolicyCoordinator) : PolicyCoordinator :=
  { s with recoveryEpoch := s.nextEpoch, recoveryPending := false }

def publish (request : ReconcileRequest) (result : RootPolicyResult) (s : PolicyCoordinator) :
    PolicyCoordinator :=
  { s with lastPublication := some ⟨request.admission, result⟩ }

def scheduleRecovery (request : ReconcileRequest) (s : PolicyCoordinator) : PolicyCoordinator :=
  if s.closed || s.recoveryPending then s
  else { s with
    recoveryPending := true
    recoveries := ⟨s.recoveryEpoch, request⟩ :: s.recoveries }

/-- The next stage of a drain that looks at the generation of its request. -/
def ifCurrent (request : ReconcileRequest) (stage : DrainStage) (s : PolicyCoordinator) :
    PolicyCoordinator :=
  s.goto (if s.requestIsCurrent request then stage else .looping)

def drainStep (input : DrainInput) (s : PolicyCoordinator) : PolicyCoordinator :=
  match s.drain, input with
  | some .looping, .next =>
    if s.closed then { s with latest := none, drain := none }
    else match s.latest with
      | some request => { s with latest := none, drain := some (.dequeued request) }
      | none => { s with latest := none, drain := none }
  | some (.dequeued request), .next => s.ifCurrent request (.quiescing request false)
  | some (.quiescing request _), .next =>
    s.goto (if s.runtime.gate.inFlight = 0 then .quiesced request else .quiescing request true)
  | some (.quiescing _ true), .timeout => s.goto .looping
  | some (.quiesced request), .next => s.ifCurrent request (.reconciling request 0)
  | some (.reconciling request mutations), .next =>
    s.ifCurrent request (.reconciling request mutations)
  | some (.reconciling request mutations), .mutate => s.goto (.reconciling request (mutations + 1))
  | some (.reconciling request _), .finish result =>
    if result = .enforced ∧ request.admission.state ≠ .admitted then s
    else s.goto (.reconciled request result)
  | some (.reconciled request result), .next => s.ifCurrent request (settle request result)
  | some (.authorizing request authority), .next =>
    let (authorized, runtime) := s.runtime.authorizeRootPolicy authority
    { s with
      runtime
      drain := some (if authorized then .resetting request .enforced else .looping) }
  | some (.resetting request result), .next =>
    s.resetRecovery.goto (.publishing request result false)
  | some (.publishing request result retry), .next =>
    (s.publish request result).goto (if retry then .scheduling request else .looping)
  | some (.scheduling request), .next => (s.scheduleRecovery request).goto .looping
  | _, _ => s

/-! ## Recovery timers and the whole system -/

def fireRecovery (task : RecoveryTask) (s : PolicyCoordinator) : PolicyCoordinator :=
  if s.closed || s.recoveryEpoch != task.epoch || !s.recoveryPending then s
  else if s.requestIsCurrent task.request then
    scheduleDrain { s with recoveryPending := false, latest := some task.request }
  else { s with recoveryPending := false }

def recoverStep (task : RecoveryTask) (s : PolicyCoordinator) : PolicyCoordinator :=
  if task ∈ s.recoveries then fireRecovery task { s with recoveries := s.recoveries.erase task }
  else s

def step (s : PolicyCoordinator) : CoordinatorAction → PolicyCoordinator
  | .observeNetwork observation observedHandle interfaceName =>
    s.ownerEvent (.observed observation) (interfaceName.elim .keep (.insert observedHandle))
  | .networkLost sequence handle => s.ownerEvent (.lost sequence handle) (.remove handle)
  | .start => { s with calls := .publishAdmission s.admission :: s.calls }
  | .call call => s.callStep call
  | .drain input => s.drainStep input
  | .recover task => s.recoverStep task
  | .acquire => { s with runtime := s.runtime.acquire.2 }
  | .dropPermit => { s with runtime := s.runtime.dropPermit }
  | .shutdown => { s.resetRecovery with closed := true, latest := none }
  | .closeGate => { s with runtime := s.runtime.closeGate }

/-! ## What calls and timers leave alone -/

section

variable {s : PolicyCoordinator}

theorem mem_scheduleDrain {stage} (h : stage ∈ s.scheduleDrain.drain) :
    stage ∈ s.drain ∨ stage = .looping := by
  cases h
  cases hdrain : s.drain with
  | none => exact .inr rfl
  | some stage => exact .inl rfl

/-- What a step outside the drain keeps. -/
structure Frame (s next : PolicyCoordinator) : Prop where
  runtime : next.runtime = s.runtime
  lastPublication : next.lastPublication = s.lastPublication
  closed : next.closed = s.closed
  drain : ∀ stage ∈ next.drain, stage ∈ s.drain ∨ stage = .looping

theorem frame_refl (s) : Frame s s := ⟨rfl, rfl, rfl, fun _ h => .inl h⟩

theorem frame_offer (req) : Frame s (s.offerNewOwnerRequest req) := by
  unfold offerNewOwnerRequest
  split
  · exact frame_refl s
  · exact ⟨rfl, rfl, rfl, fun _ h => mem_scheduleDrain h⟩

theorem frame_callStep (call : Call) : Frame s (s.callStep call) := by
  unfold callStep
  split
  · cases call with
    | recordHint | publishAdmission => exact ⟨rfl, rfl, rfl, fun _ h => .inl h⟩
    | enqueue =>
      simp only [runCall]
      split
      · exact ⟨rfl, rfl, rfl, fun _ h => .inl h⟩
      · exact ⟨rfl, rfl, rfl, fun _ h => .inl h⟩
    | offer req =>
      have h := frame_offer (s := { s with calls := s.calls.erase (.offer req) }) req
      exact ⟨h.runtime, h.lastPublication, h.closed, h.drain⟩
  · exact frame_refl s

theorem frame_recoverStep (task) : Frame s (s.recoverStep task) := by
  unfold recoverStep fireRecovery
  split_ifs
  · exact ⟨rfl, rfl, rfl, fun _ h => .inl h⟩
  · exact ⟨rfl, rfl, rfl, fun _ h => mem_scheduleDrain h⟩
  · exact ⟨rfl, rfl, rfl, fun _ h => .inl h⟩
  · exact frame_refl s

end

/-! ## What a step of the drain can do -/

/-- The moves that change only the stage. -/
inductive StageMove (s : PolicyCoordinator) : DrainInput → DrainStage → DrainStage → Prop
  | abandon {stage request} (hstage : stage = .dequeued request ∨ stage = .quiesced request ∨
        (∃ mutations, stage = .reconciling request mutations) ∨
        ∃ result, stage = .reconciled request result)
      (hstale : s.requestIsCurrent request = false) : StageMove s .next stage .looping
  | accept {request} (hcurrent : s.requestIsCurrent request = true) :
      StageMove s .next (.dequeued request) (.quiescing request false)
  | wait {request waiting} :
      StageMove s .next (.quiescing request waiting) (.quiescing request true)
  | quiesce {request waiting} (hinFlight : s.runtime.gate.inFlight = 0) :
      StageMove s .next (.quiescing request waiting) (.quiesced request)
  | timeout {request} :
      StageMove s .timeout (.quiescing request true) .looping
  | reconcile {request} :
      StageMove s .next (.quiesced request) (.reconciling request 0)
  | recheck {request mutations} :
      StageMove s .next (.reconciling request mutations) (.reconciling request mutations)
  | mutate {request mutations} :
      StageMove s .mutate (.reconciling request mutations) (.reconciling request (mutations + 1))
  | finish {request mutations result}
      (hadmitted : result = .enforced → request.admission.state = .admitted) :
      StageMove s (.finish result) (.reconciling request mutations) (.reconciled request result)
  | settle {request result} (hcurrent : s.requestIsCurrent request = true) :
      StageMove s .next (.reconciled request result) (settle request result)

inductive DrainMove (s : PolicyCoordinator) : DrainInput → PolicyCoordinator → Prop
  | stay {input} : DrainMove s input s
  | move {input stage next} (hstage : s.drain = some stage)
      (hmove : StageMove s input stage next) : DrainMove s input (s.goto next)
  | leave (hstage : s.drain = some .looping) (hdone : s.closed = true ∨ s.latest = none) :
      DrainMove s .next { s with latest := none, drain := none }
  | dequeue {request} (hstage : s.drain = some .looping)
      (hlatest : s.latest = some request) :
      DrainMove s .next { s with latest := none, drain := some (.dequeued request) }
  | authorize {request authority} (hstage : s.drain = some (.authorizing request authority)) :
      DrainMove s .next { s with
        runtime := (s.runtime.authorizeRootPolicy authority).2
        drain := some (if (s.runtime.authorizeRootPolicy authority).1 then
          .resetting request .enforced else .looping) }
  | reset {request result} (hstage : s.drain = some (.resetting request result)) :
      DrainMove s .next (s.resetRecovery.goto (.publishing request result false))
  | publish {request result retry} (hstage : s.drain = some (.publishing request result retry)) :
      DrainMove s .next
        ((s.publish request result).goto (if retry then .scheduling request else .looping))
  | schedule {request} (hstage : s.drain = some (.scheduling request)) :
      DrainMove s .next ((s.scheduleRecovery request).goto .looping)

theorem ifCurrent_move {s stage next req} (hstg : s.drain = some stage)
    (hcur : s.requestIsCurrent req = true → StageMove s .next stage next)
    (hstale : s.requestIsCurrent req = false → StageMove s .next stage .looping) :
    DrainMove s .next (s.ifCurrent req next) := by
  unfold ifCurrent
  split
  · rename_i h
    exact .move hstg (hcur h)
  · rename_i h
    exact .move hstg (hstale (by simpa using h))

theorem drainStep_move (s input) : DrainMove s input (s.drainStep input) := by
  unfold drainStep
  split
  · rename_i hstg
    split
    · rename_i hclos
      exact .leave hstg (.inl hclos)
    · split
      · rename_i req hlat
        exact .dequeue hstg hlat
      · rename_i hlat
        exact .leave hstg (.inr hlat)
  · rename_i req hstg
    exact ifCurrent_move hstg .accept (.abandon (.inl rfl))
  · rename_i req waiting hstg
    split
    · rename_i hfly
      exact .move hstg (.quiesce hfly)
    · exact .move hstg .wait
  · rename_i req hstg
    exact .move hstg .timeout
  · rename_i req hstg
    exact ifCurrent_move hstg (fun _ => .reconcile) (.abandon (.inr (.inl rfl)))
  · rename_i req mutations hstg
    exact ifCurrent_move hstg (fun _ => .recheck) (.abandon (.inr (.inr (.inl ⟨mutations, rfl⟩))))
  · rename_i req mutations hstg
    exact .move hstg .mutate
  · rename_i req mutations res hstg
    split
    · exact .stay
    · rename_i hguard
      refine .move hstg (.finish fun henforced => ?_)
      by_contra hadm
      exact hguard ⟨henforced, hadm⟩
  · rename_i req res hstg
    exact ifCurrent_move hstg .settle (.abandon (.inr (.inr (.inr ⟨res, rfl⟩))))
  · rename_i req auth hstg
    exact .authorize hstg
  · rename_i req res hstg
    exact .reset hstg
  · rename_i req res retry hstg
    exact .publish hstg
  · rename_i req hstg
    exact .schedule hstg
  · exact .stay

end PolicyCoordinator

/-! ## What the drain knows about its request -/

def DrainStage.Justified : DrainStage → Prop
  | .reconciled request result => result = .enforced → request.admission.state = .admitted
  | .authorizing request authority =>
    request.admission.state = .admitted ∧
      request.admission.lastSequence = some authority.sequence ∧
      request.admission.admittedNetwork = some authority.network
  | _ => True

theorem settle_justified {req res} (h : (DrainStage.reconciled req res).Justified) :
    (PolicyCoordinator.settle req res).Justified := by
  unfold PolicyCoordinator.settle
  split_ifs with henforced
  · split
    · rename_i seq network hseq hnet
      exact ⟨h henforced, hseq, hnet⟩
    · trivial
  all_goals trivial

namespace PolicyCoordinator

variable {s : PolicyCoordinator}

theorem StageMove.justified {input stage next}
    (hmove : StageMove s input stage next) (h : stage.Justified) : next.Justified := by
  cases hmove with
  | finish hadm => exact hadm
  | settle => exact settle_justified h
  | _ => trivial

def Justified (s : PolicyCoordinator) : Prop := ∀ stage ∈ s.drain, stage.Justified

theorem DrainMove.justified {input next}
    (hmove : DrainMove s input next) (h : s.Justified) : next.Justified := by
  intro stage hnext
  cases hmove with
  | stay => exact h stage hnext
  | @move input before after hstg hmove =>
    cases hnext
    exact hmove.justified (h before hstg)
  | leave => cases hnext
  | dequeue | reset | schedule =>
    cases hnext
    trivial
  | authorize | publish =>
    cases hnext
    split <;> trivial

theorem Frame.justified {next} (hframe : Frame s next) (h : s.Justified) : next.Justified := by
  intro stage hstg
  rcases hframe.drain stage hstg with hbef | rfl
  · exact h stage hbef
  · trivial

/-- Authorizing the generation of a justified request asks whether the request is current. -/
theorem isCurrent_eq_requestIsCurrent {req auth} (h : (DrainStage.authorizing req auth).Justified) :
    s.runtime.isCurrent auth = s.requestIsCurrent req := by
  obtain ⟨hst, hseq, hnet⟩ := h
  have hcur : s.runtime.isCurrent auth = true ↔ s.requestIsCurrent req = true := by
    rw [isCurrent_iff, requestIsCurrent, sameGeneration, hseq, hst, hnet]
    simp only [reduceCtorEq, if_false, decide_eq_true_eq]
    constructor
    · rintro ⟨hst, hnet, hseq⟩
      exact ⟨hseq.symm, hst.symm, hnet.symm⟩
    · rintro ⟨hseq, hst, hnet⟩
      exact ⟨hst.symm, hnet.symm, hseq.symm⟩
  exact Bool.eq_iff_iff.mpr hcur

end PolicyCoordinator

def runCoordinator (actions : List CoordinatorAction) : PolicyCoordinator :=
  run PolicyCoordinator.step .new actions

/-! ## A callback, section by section -/

def sampleObservation (sequence : ObservationSequence) : NetworkObservation where
  sequence
  handle := sampleHandle
  isCellular := true
  hasInternet := true
  isValidated := true
  isNotVpn := true

def sampleInterface : Text := "rmnet0".toList

def sampleRequest (sequence : ObservationSequence) : ReconcileRequest where
  admission :=
    { state := .admitted
      reason := none
      admittedNetwork := some sampleHandle
      lastSequence := some sequence }
  interfaceName := some sampleInterface

def sampleHint : HintUpdate := .insert sampleHandle sampleInterface

/-- The sections of a callback behind that of the owner. -/
def offerSections (request : ReconcileRequest) : List CoordinatorAction :=
  [.call (.recordHint request.admission sampleHint), .call (.publishAdmission request.admission),
   .call (.enqueue request.admission), .call (.offer request)]

def observeSample (sequence : ObservationSequence) : CoordinatorAction :=
  .observeNetwork (sampleObservation sequence) sampleHandle (some sampleInterface)

def observeAndOffer (sequence : ObservationSequence) : List CoordinatorAction :=
  observeSample sequence :: offerSections (sampleRequest sequence)

/-- From the offer to the first change of the kernel. -/
def drainToMutation : List CoordinatorAction :=
  List.replicate 4 (.drain .next) ++ [.drain .mutate]

/-- The rest of a run that enforces the policy, up to the publication. -/
def drainToPublication : List CoordinatorAction :=
  .drain (.finish .enforced) :: List.replicate 4 (.drain .next)

end MishProxy.Coordination
