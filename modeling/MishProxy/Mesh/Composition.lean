import MishProxy.Machine.Pool
import MishProxy.Mesh.Transport

/-!
# The Mesh composition

Whether the ingress runs depends on the admitted endpoint, the installed proxy and the readiness
flag. Each call changes one of the facts under its lock and then reconciles, which takes four locks
in turn: it reads the endpoint, reads the facts, starts or stops the ingress, and records the
result. Nothing ties the effect to the facts it was decided on.

A start that was decided before the facts were withdrawn may be made after the stop that withdrew
them (`ingress_started_after_withdrawal`). `ingress_allowed` says that nothing else can leave an
ingress behind that should not run: when every start is made while its facts stand, or while a call
that is still to decide or to stop is in progress, the ingress runs only while it is allowed. So it
is when no fact is withdrawn between a decision to start and the start
(`startsWhileServing_of_order`).
-/

namespace MishProxy.Mesh

open Machine

def meshIngressServingAllowed
    (proxyRunning readinessReady meshAdmitted admissionEpochPresent : Bool) : Bool :=
  proxyRunning && readinessReady && meshAdmitted && admissionEpochPresent

structure MeshCompositionState where
  proxy : Option ProxyServingRuntime
  readinessReady : Bool
  lastFailure : Option MeshTransportError
  deriving DecidableEq

namespace MeshCompositionState

def new : MeshCompositionState := ⟨none, false, none⟩

def installProxy (proxy : ProxyServingRuntime) (state : MeshCompositionState) :
    MeshCompositionState :=
  { state with proxy := some proxy }

def clearProxy (state : MeshCompositionState) : MeshCompositionState := { state with proxy := none }

def setReadinessReady (readinessReady : Bool) (state : MeshCompositionState) :
    MeshCompositionState :=
  { state with readinessReady }

/-- The facts that the ingress needs, apart from the endpoint. -/
def Serves (state : MeshCompositionState) : Prop :=
  state.proxy.isSome = true ∧ state.readinessReady = true

instance (state : MeshCompositionState) : Decidable state.Serves :=
  inferInstanceAs (Decidable (_ ∧ _))

end MeshCompositionState

structure MeshComposition where
  transport : MeshTransport
  state : MeshCompositionState
  deriving DecidableEq

def MeshComposition.new (accepted : Ipv4Cidr) : MeshComposition := ⟨.new accepted, .new⟩

inductive MeshCall where
  | observeVpn (sequence : Nat) (observation : MeshVpnObservation)
  | installProxy (proxy : ProxyServingRuntime)
  | clearProxy
  | setReadinessReady (readinessReady : Bool)
  | shutdown
  deriving DecidableEq

inductive MeshTask where
  | call (call : MeshCall)
  | snapshot
  | facts (admission : MeshAdmissionSnapshot)
  | startIngress (epoch : Nat) (proxy : ProxyServingRuntime)
  /-- The stop of a reconciling call records its result, the one of a shutdown does not. -/
  | stopIngress (records : Bool)
  | record (failure : Option MeshTransportError)
  deriving DecidableEq

/-- What the environment answers in one section: the health of the installed proxy, and the
executor of the ingress. -/
structure MeshAnswers where
  proxyHealthy : Bool
  ingress : IngressAnswers

def failureOf {α : Type} : Except MeshTransportError α → Option MeshTransportError
  | .ok _ => none
  | .error error => some error

namespace MeshComposition

/-- The decision of `reconcile`, from the endpoint and the facts it has read. -/
def decision (admission : MeshAdmissionSnapshot) (state : MeshCompositionState)
    (proxyHealthy : Bool) : MeshTask :=
  if meshIngressServingAllowed (state.proxy.isSome && proxyHealthy) state.readinessReady
      (admission.state = .admitted) admission.admissionEpoch.isSome then
    match state.proxy, admission.admissionEpoch with
    | some proxy, some epoch => .startIngress epoch proxy
    | _, _ => .record (some .ingressUnavailable)
  else .stopIngress true

def proceedCall (mesh : MeshComposition) (answers : MeshAnswers) :
    MeshCall → MeshComposition × List MeshTask
  | .observeVpn sequence observation =>
    match mesh.transport.observeVpn sequence observation answers.ingress with
    | (.ok (), transport) => ({ mesh with transport }, [.snapshot])
    | (.error _, transport) => ({ mesh with transport }, [])
  | .installProxy proxy => ({ mesh with state := mesh.state.installProxy proxy }, [.snapshot])
  | .clearProxy => ({ mesh with state := mesh.state.clearProxy }, [.snapshot])
  | .setReadinessReady ready =>
    ({ mesh with state := mesh.state.setReadinessReady ready }, [.snapshot])
  | .shutdown =>
    ({ mesh with state := mesh.state.clearProxy.setReadinessReady false }, [.stopIngress false])

def proceed (task : MeshTask) (answers : MeshAnswers) (mesh : MeshComposition) :
    MeshComposition × List MeshTask :=
  match task with
  | .call call => mesh.proceedCall answers call
  | .snapshot => (mesh, [.facts mesh.transport.admission])
  | .facts admission => (mesh, [decision admission mesh.state answers.proxyHealthy])
  | .startIngress epoch proxy =>
    let (result, transport) := mesh.transport.startIngress epoch proxy answers.ingress
    ({ mesh with transport }, [.record (failureOf result)])
  | .stopIngress records =>
    let (result, transport) := mesh.transport.stopIngressLocked answers.ingress
    ({ mesh with transport }, if records then [.record (failureOf result)] else [])
  | .record failure => ({ mesh with state := { mesh.state with lastFailure := failure } }, [])

end MeshComposition

def meshProtocol : Protocol MeshComposition MeshCall MeshTask MeshAnswers where
  first := .call
  proceed := MeshComposition.proceed

abbrev MeshPool : Type := Pool MeshComposition MeshTask

abbrev MeshAction : Type := PoolAction MeshCall MeshTask MeshAnswers

def runMesh (accepted : Ipv4Cidr) (actions : List MeshAction) : MeshPool :=
  run (Pool.step meshProtocol) (.init (.new accepted)) actions

/-! ## Calls that have yet to stop the ingress, or to decide about it -/

/-- The call will read the facts as they are then, or stop the ingress whatever they are. A
VPN observation may be refused, so it is not one of them. -/
def MeshTask.Reconsiders : MeshTask → Prop
  | .call (.observeVpn _ _) => False
  | .call _ | .snapshot | .facts _ | .stopIngress _ => True
  | .startIngress _ _ | .record _ => False

instance : DecidablePred MeshTask.Reconsiders := fun task =>
  match task with
  | .call (.observeVpn _ _) => .isFalse id
  | .call (.installProxy _) | .call .clearProxy | .call (.setReadinessReady _) | .call .shutdown =>
    .isTrue trivial
  | .snapshot | .facts _ | .stopIngress _ => .isTrue trivial
  | .startIngress _ _ | .record _ => .isFalse id

/-- A start is made while its facts stand, or while a call in progress reconsiders them. -/
def StartsWhileServing (p : MeshPool) : MeshAction → Prop
  | .advance (.startIngress epoch proxy) _ => .startIngress epoch proxy ∈ p.tasks →
    p.shared.state.Serves ∨ ∃ other ∈ p.tasks.erase (.startIngress epoch proxy), other.Reconsiders
  | _ => True

instance (p : MeshPool) (action : MeshAction) : Decidable (StartsWhileServing p action) :=
  match action with
  | .call _ => .isTrue trivial
  | .advance (.startIngress _ _) _ => inferInstanceAs (Decidable (_ → _))
  | .advance (.call _) _ | .advance .snapshot _ | .advance (.facts _) _
  | .advance (.stopIngress _) _ | .advance (.record _) _ => .isTrue trivial

def IngressServed (mesh : MeshComposition) : Prop :=
  mesh.transport.ingressEpoch.isSome = true → mesh.state.Serves

def IngressSettled : MeshPool → Prop := Pool.Settled IngressServed fun _ task => task.Reconsiders

variable {p : MeshPool} {answers : MeshAnswers}

/-- A call that reconsiders the facts is not held up by a section of another call. -/
theorem ingressSettled_of_other {task other} (hmem : other ∈ p.tasks.erase task)
    (hrcs : other.Reconsiders) : IngressSettled (p.advance meshProtocol task answers) :=
  .of_task (.inr hmem) hrcs

theorem ingressSettled_of_left {task other}
    (hleft : other ∈ (MeshComposition.proceed task answers p.shared).2)
    (hrcs : other.Reconsiders) : IngressSettled (p.advance meshProtocol task answers) :=
  .of_task (.inl hleft) hrcs

open MeshComposition

theorem proceedCall_observeVpn (mesh : MeshComposition) (seq : Nat) (obs : MeshVpnObservation) :
    (mesh.proceedCall answers (.observeVpn seq obs)).1 = { mesh with
        transport := (mesh.transport.observeVpn seq obs answers.ingress).2 } := by
  unfold proceedCall
  dsimp only
  split <;> rename_i hobs <;> rw [hobs]

theorem IngressServed.observeVpn {mesh} (h : IngressServed mesh) (seq obs) :
    IngressServed (mesh.proceedCall answers (.observeVpn seq obs)).1 := by
  rw [proceedCall_observeVpn]
  intro hrun
  rcases ingressEpoch_observeVpn mesh.transport answers.ingress seq obs with hsame | hnone
  · have hbef : mesh.transport.ingressEpoch.isSome = true := hsame ▸ hrun
    exact h hbef
  · dsimp only at hrun
    rw [hnone] at hrun
    cases hrun

/-- The decision to start was made on facts that stand, every other decision is to stop. -/
theorem serves_or_reconsiders_decision (adm state proxyHealthy) :
    state.Serves ∨ (decision adm state proxyHealthy).Reconsiders := by
  unfold decision
  split_ifs with hallw
  · refine .inl ?_
    simp only [meshIngressServingAllowed, Bool.and_eq_true] at hallw
    exact ⟨hallw.1.1.1.1, hallw.1.1.2⟩
  · exact .inr trivial

theorem IngressSettled.advance (h : IngressSettled p) {task} (hmem : task ∈ p.tasks)
    (hguard : StartsWhileServing p (.advance task answers)) :
    IngressSettled (p.advance meshProtocol task answers) := by
  refine Pool.Settled.advance h (fun hown => ?_) fun other hmem hrcs =>
    ingressSettled_of_other hmem hrcs
  cases task with
  | call call =>
    cases call with
    | observeVpn seq obs =>
      refine .inl ?_
      have hserv : IngressServed p.shared := by
        rcases hown with hserv | hrcs
        · exact hserv
        · exact hrcs.elim
      exact hserv.observeVpn seq obs
    | shutdown | installProxy proxy | clearProxy | setReadinessReady ready =>
      exact ingressSettled_of_left (List.mem_singleton.mpr rfl) trivial
  | snapshot => exact ingressSettled_of_left (List.mem_singleton.mpr rfl) trivial
  | facts adm =>
    rcases serves_or_reconsiders_decision adm p.shared.state answers.proxyHealthy with
      hserves | hrcs
    · exact .inl fun _ => hserves
    · exact ingressSettled_of_left (List.mem_singleton.mpr rfl) hrcs
  | startIngress epoch proxy =>
    rcases hguard hmem with hserves | ⟨other, hmem, hrcs⟩
    · exact .inl fun _ => hserves
    · exact ingressSettled_of_other hmem hrcs
  | stopIngress records =>
    refine .inl fun hrun => ?_
    have hnone := ingressEpoch_stopIngressLocked p.shared.transport answers.ingress
    have hrun : (p.shared.transport.stopIngressLocked answers.ingress).2.ingressEpoch.isSome =
        true := hrun
    rw [hnone] at hrun
    cases hrun
  | record failure =>
    rcases hown with hserv | hrcs
    · exact .inl hserv
    · exact hrcs.elim

theorem epochCurrent_proceed {mesh} (h : EpochCurrent mesh.transport) (task) :
    EpochCurrent (proceed task answers mesh).1.transport := by
  cases task with
  | call call =>
    cases call with
    | observeVpn seq obs =>
      show EpochCurrent (mesh.proceedCall answers (.observeVpn seq obs)).1.transport
      rw [proceedCall_observeVpn]
      exact h.observeVpn seq obs
    | installProxy proxy | clearProxy | setReadinessReady ready | shutdown => exact h
  | snapshot | facts adm | record failure => exact h
  | startIngress epoch proxy => exact h.startIngress epoch proxy
  | stopIngress records => exact epochCurrent_stopIngressLocked

/-- Between calls, the ingress runs only with an installed proxy, under a set readiness flag
and for the admitted epoch, when every start is made while its facts stand or while a call
in progress reconsiders them. -/
theorem ingress_allowed (accepted : Ipv4Cidr) (actions : List MeshAction)
    (hstarts : Along (Pool.step meshProtocol) StartsWhileServing (.init (.new accepted)) actions)
    (hidle : (runMesh accepted actions).tasks = []) (epoch : Nat)
    (hrunning : (runMesh accepted actions).shared.transport.ingressEpoch = some epoch) :
    (runMesh accepted actions).shared.state.proxy.isSome = true ∧
      (runMesh accepted actions).shared.state.readinessReady = true ∧
      (runMesh accepted actions).shared.transport.admission.admissionEpoch = some epoch := by
  have hinvariant : IngressSettled (runMesh accepted actions) ∧
      EpochCurrent (runMesh accepted actions).shared.transport := by
    refine Pool.run_keeps (I := fun p => IngressSettled p ∧ EpochCurrent p.shared.transport)
      ?_ ?_ ?_ hstarts
    · intro p call h
      exact ⟨.enter h.1 call, h.2⟩
    · intro p task answers h hmem hguard
      exact ⟨h.1.advance hmem hguard, epochCurrent_proceed h.2 task⟩
    · exact ⟨.inl (by rintro ⟨⟩), epochCurrent_new accepted⟩
  have hserved : IngressServed (runMesh accepted actions).shared := hinvariant.1.good hidle
  have hserves := hserved (hrunning ▸ rfl)
  exact ⟨hserves.1, hserves.2, hinvariant.2 epoch hrunning⟩

/-! ## Starts before withdrawals -/

/-- The call takes away a fact that the ingress needs. -/
def MeshCall.withdraws : MeshCall → Bool
  | .clearProxy | .setReadinessReady false | .shutdown => true
  | .observeVpn _ _ | .installProxy _ | .setReadinessReady true => false

def MeshTask.starts : MeshTask → Bool
  | .startIngress _ _ => true
  | _ => false

/-- No fact is withdrawn while a call that has decided to start has yet to start. -/
def StartsBeforeWithdrawals (p : MeshPool) : MeshAction → Prop
  | .advance (.call call) _ => call.withdraws = true → ∀ task ∈ p.tasks, task.starts = false
  | _ => True

/-- The facts of every start that is decided stand. -/
def StartsStand (p : MeshPool) : Prop :=
  ∀ task ∈ p.tasks, task.starts = true → p.shared.state.Serves

theorem serves_of_left {mesh : MeshComposition} {task other}
    (hleft : other ∈ (proceed task answers mesh).2) (hstarts : other.starts = true) :
    (proceed task answers mesh).1.state.Serves := by
  cases task with
  | call call =>
    cases call with
    | observeVpn seq obs =>
      simp only [proceed, proceedCall] at hleft
      split at hleft
      · cases List.mem_singleton.mp hleft
        cases hstarts
      · cases hleft
    | installProxy proxy | clearProxy | setReadinessReady ready | shutdown =>
      cases List.mem_singleton.mp hleft
      cases hstarts
  | facts adm =>
    rcases serves_or_reconsiders_decision adm mesh.state answers.proxyHealthy with hserves | hrcs
    · exact hserves
    · cases List.mem_singleton.mp hleft
      cases hdec : decision adm mesh.state answers.proxyHealthy <;> simp_all [MeshTask.Reconsiders,
        MeshTask.starts]
  | snapshot | startIngress epoch proxy =>
    cases List.mem_singleton.mp hleft
    cases hstarts
  | stopIngress records =>
    cases records with
    | true =>
      cases List.mem_singleton.mp hleft
      cases hstarts
    | false => cases hleft
  | record failure => cases hleft

theorem serves_proceed {mesh : MeshComposition} (h : mesh.state.Serves) {task}
    (hkeeps : ∀ call, task = .call call → call.withdraws = false) :
    (proceed task answers mesh).1.state.Serves := by
  cases task with
  | call call =>
    have hkept := hkeeps call rfl
    cases call with
    | observeVpn seq obs =>
      show (mesh.proceedCall answers (.observeVpn seq obs)).1.state.Serves
      rw [proceedCall_observeVpn]
      exact h
    | installProxy proxy => exact ⟨rfl, h.2⟩
    | setReadinessReady ready =>
      cases ready with
      | true => exact ⟨h.1, rfl⟩
      | false => cases hkept
    | clearProxy | shutdown => cases hkept
  | snapshot | facts adm | startIngress epoch proxy | stopIngress records | record failure =>
    exact h

theorem StartsStand.advance (h : StartsStand p) {task}
    (hguard : StartsBeforeWithdrawals p (.advance task answers)) :
    StartsStand (p.advance meshProtocol task answers) := by
  intro other hmem hstarts
  rcases List.mem_append.mp hmem with hleft | hkept
  · exact serves_of_left hleft hstarts
  · have hold := List.mem_of_mem_erase hkept
    refine serves_proceed (h other hold hstarts) ?_
    rintro call rfl
    refine Bool.eq_false_iff.mpr fun hwithdraws => ?_
    rw [hguard hwithdraws other hold] at hstarts
    cases hstarts

/-- When no fact is withdrawn between a decision to start and the start, every start is made
while its facts stand. -/
theorem startsWhileServing_of_order {accepted : Ipv4Cidr} {actions : List MeshAction}
    (horder : Along (Pool.step meshProtocol) StartsBeforeWithdrawals (.init (.new accepted))
      actions) :
    Along (Pool.step meshProtocol) StartsWhileServing (.init (.new accepted)) actions := by
  refine along_of_invariant (I := StartsStand) (Pool.step_keeps ?_ ?_) ?_ ?_ horder
  · intro p call h task hmem hstarts
    rcases List.mem_cons.mp hmem with rfl | hmem
    · cases hstarts
    · exact h task hmem hstarts
  · intro p task answers h _ hguard
    exact h.advance hguard
  · intro p action h
    unfold StartsWhileServing
    split
    · exact fun hmem => .inl (h _ hmem rfl)
    · trivial
  · intro task hmem
    cases hmem

/-! ## Two readiness changes that cross -/

/-- The range of the tests of the source. -/
def sampleRange : Ipv4Cidr := ⟨0x64600000#32, 0xFFF00000#32, by decide⟩

def sampleProxy : ProxyServingRuntime := ⟨1⟩

/-- Everything is healthy, and every start and stop succeeds. -/
def MeshAnswers.good : MeshAnswers := ⟨true, true, true, 0, .ok ()⟩

/-- A section of a call with good answers. -/
def goodSection (task : MeshTask) : MeshAction := .advance task .good

def sampleAdmission : MeshAdmissionSnapshot where
  state := .admitted
  admissionEpoch := some 1
  reason := none
  admittedEndpoint := some 0x64600204#32
  lastSequence := some 1

/-- A call that finds the endpoint and the facts in the way of the ingress, and stops it. -/
def stoppingCall (call : MeshCall) (admission : MeshAdmissionSnapshot) : List MeshAction :=
  [.call call, goodSection (.call call), goodSection .snapshot, goodSection (.facts admission),
    goodSection (.stopIngress true), goodSection (.record none)]

/-- The endpoint is admitted and a proxy is installed. -/
def admittedActions : List MeshAction :=
  stoppingCall (.observeVpn 1 (.uniqueVpn [0x64600204#32])) sampleAdmission ++
    stoppingCall (.installProxy sampleProxy) sampleAdmission

/-- Readiness is set, and the call decides to start. -/
def decideStart : List MeshAction :=
  [.call (.setReadinessReady true), goodSection (.call (.setReadinessReady true)),
    goodSection .snapshot, goodSection (.facts sampleAdmission)]

def makeStart : List MeshAction :=
  [goodSection (.startIngress 1 sampleProxy), goodSection (.record none)]

theorem ingress_allowed_undisturbed :
    (runMesh sampleRange (admittedActions ++ decideStart ++ makeStart)).shared.state.proxy.isSome =
        true ∧
      (runMesh sampleRange
        (admittedActions ++ decideStart ++ makeStart)).shared.state.readinessReady = true ∧
      (runMesh sampleRange
        (admittedActions ++ decideStart ++ makeStart)).shared.transport.admission.admissionEpoch =
          some 1 :=
  ingress_allowed sampleRange (admittedActions ++ decideStart ++ makeStart)
    (by decide) (by decide) 1 (by decide)

/-- Readiness is withdrawn between the decision to start and the start. No call is in
progress any more, the flag is down, and the ingress runs. -/
theorem ingress_started_after_withdrawal :
    (runMesh sampleRange (admittedActions ++ decideStart ++
        stoppingCall (.setReadinessReady false) sampleAdmission ++ makeStart)).tasks = [] ∧
      (runMesh sampleRange (admittedActions ++ decideStart ++
        stoppingCall (.setReadinessReady false) sampleAdmission ++
          makeStart)).shared.transport.ingressEpoch = some 1 ∧
      (runMesh sampleRange (admittedActions ++ decideStart ++
        stoppingCall (.setReadinessReady false) sampleAdmission ++
          makeStart)).shared.state.readinessReady = false := by
  decide

end MishProxy.Mesh
