import MishProxy.Mesh.Epochs
import MishProxy.Serving.TemporaryGrants

/-!
# The proxy connection for a remote manager

A manager asks the device for the address and the credentials of its proxy. The device reads
readiness, the Mesh transport and the proxy coordinator one after the other, each under its own
lock, and reads all of them again before it answers.

The epoch of an admitted endpoint is never used again, so the endpoint of both Mesh readings was
admitted at the reading of the proxy between them. The coordinator keeps the credentials apart
from the current proxy, and they are those of the proxy only as long as no start crosses another
(`ready_answers_other_credentials`).

* `ready_answer_consistent`: an answer describes the moment at which the proxy was read, when a
  start is accepted only without a current proxy and a started proxy becomes current only while
  its credentials are the ones of the coordinator.
-/

namespace MishProxy.Control

open Machine Mesh Probing Serving Function ProxySystem

/-! ## The query -/

def mixedPort : Nat := 1080
def socks5Port : Nat := 1081
def httpConnectPort : Nat := 3128

structure ProxyConnectionSnapshot where
  servingGeneration : Nat
  credentialVersion : Nat
  material : ProxyCredentialMaterial
  deriving DecidableEq

def connectionSnapshot (state : ProxyCoordinatorState) : Option ProxyConnectionSnapshot :=
  if state.closed || decide (state.state ≠ .running) || state.failure.isSome then none
  else do
    let servingGeneration ← state.servingGeneration
    let credentialVersion ← state.credentialVersion
    let material ← state.credentials
    pure ⟨servingGeneration, credentialVersion, material⟩

def connectionSnapshotMatches (snapshot : ProxyConnectionSnapshot)
    (state : ProxyCoordinatorState) : Bool :=
  !state.closed && decide (state.state = .running) && state.failure.isNone &&
    decide (state.servingGeneration = some snapshot.servingGeneration) &&
    decide (state.credentialVersion = some snapshot.credentialVersion) &&
    decide (state.credentials = some snapshot.material)

inductive RemoteProxyReason where
  | notReady
  | proxyUnavailable
  | credentialUnavailable
  | internalError
  deriving DecidableEq, Repr

inductive ProxyAnswer where
  | ready (host : BitVec 32) (mixedPort socks5Port httpPort : Nat) (username password : Text)
  | unavailable (reason : RemoteProxyReason)
  deriving DecidableEq

/-- The parts of a transport snapshot that identify the connection. -/
structure MeshReading where
  admission : Mesh.MeshAdmissionSnapshot
  ingressRunning : Bool
  deriving DecidableEq

/-- `snapshot_locked`; the health of the executor is an answer. -/
def readMesh (healthy : Bool) (transport : MeshTransport) : MeshReading where
  admission := transport.admission
  ingressRunning := !transport.cleanupFailed && transport.executor.isSome && healthy

/-- What the query reads next, with what it has read. -/
inductive QueryStage where
  | readiness
  | mesh
  | state (mesh : MeshReading) (endpoint : BitVec 32)
  | collect (mesh : MeshReading) (endpoint : BitVec 32)
  | meshAgain (mesh : MeshReading) (endpoint : BitVec 32) (proxy : ProxyConnectionSnapshot)
  | readinessAgain (mesh after : MeshReading) (endpoint : BitVec 32)
      (proxy : ProxyConnectionSnapshot)
  | confirm (endpoint : BitVec 32) (proxy : ProxyConnectionSnapshot)
  deriving DecidableEq

structure ConnectionSystem where
  grants : GrantPool
  transport : MeshTransport
  query : Option QueryStage

namespace ConnectionSystem

def new (generation : RuntimeGeneration) (accepted : Ipv4Cidr) : ConnectionSystem :=
  ⟨.init (.new generation), .new accepted, none⟩

variable (s : ConnectionSystem)

def coordinator : ProxyCoordinatorState := s.grants.shared.proxy.coordinator

def readiness : ReadinessRuntime := s.grants.shared.proxy.readiness

/-- Both Mesh readings are of one admission with a running ingress. -/
def sameAdmission (mesh after : MeshReading) (endpoint : BitVec 32) : Bool :=
  after.ingressRunning && decide (after.admission.state = .admitted) &&
    decide (after.admission.admittedEndpoint = some endpoint) &&
    decide (after.admission.admissionEpoch = mesh.admission.admissionEpoch)

/-- One reading of `proxy_connection_message`: the next stage or the answer. -/
def read (healthy : Bool) : QueryStage → QueryStage ⊕ ProxyAnswer
  | .readiness =>
    if s.readiness.projected = .ready then .inl .mesh else .inr (.unavailable .notReady)
  | .mesh =>
    match (readMesh healthy s.transport).admission.admittedEndpoint with
    | none => .inr (.unavailable .proxyUnavailable)
    | some endpoint =>
      if (readMesh healthy s.transport).admission.state = .admitted ∧
          (readMesh healthy s.transport).ingressRunning then
        .inl (.state (readMesh healthy s.transport) endpoint)
      else .inr (.unavailable .proxyUnavailable)
  | .state mesh endpoint =>
    if s.coordinator.state = .running then .inl (.collect mesh endpoint)
    else .inr (.unavailable .proxyUnavailable)
  | .collect mesh endpoint =>
    match connectionSnapshot s.coordinator with
    | none => .inr (.unavailable .credentialUnavailable)
    | some proxy => .inl (.meshAgain mesh endpoint proxy)
  | .meshAgain mesh endpoint proxy =>
    .inl (.readinessAgain mesh (readMesh healthy s.transport) endpoint proxy)
  | .readinessAgain mesh after endpoint proxy =>
    if s.readiness.projected = .ready ∧ sameAdmission mesh after endpoint then
      .inl (.confirm endpoint proxy)
    else .inr (.unavailable .notReady)
  | .confirm endpoint proxy =>
    if connectionSnapshotMatches proxy s.coordinator then
      .inr (.ready endpoint mixedPort socks5Port httpConnectPort proxy.material.username
        proxy.material.password)
    else .inr (.unavailable .notReady)

end ConnectionSystem

inductive ConnectionAction where
  | grants (action : GrantAction)
  | readiness (action : ReadinessAction)
  | observeVpn (sequence : Nat) (observation : MeshVpnObservation) (answers : IngressAnswers)
  | startIngress (epoch : Nat) (proxy : ProxyServingRuntime) (answers : IngressAnswers)
  | stopIngress (answers : IngressAnswers)
  /-- A query begins, unless one is under way. -/
  | ask
  | read (healthy : Bool)

inductive ConnectionReply where
  | nothing
  | asked
  | answered (answer : ProxyAnswer)
  deriving DecidableEq

def withReadiness (readiness : ReadinessRuntime) (p : GrantPool) : GrantPool :=
  ⟨{ p.shared with proxy := { p.shared.proxy with readiness := readiness } }, p.tasks⟩

def connectionStep (s : ConnectionSystem) : ConnectionAction → ConnectionReply × ConnectionSystem
  | .grants action => (.nothing, { s with grants := (grantStep s.grants action).2 })
  | .readiness action =>
    (.nothing, { s with grants := withReadiness (s.readiness.step action).2 s.grants })
  | .observeVpn sequence observation answers =>
    (.nothing, { s with transport := (s.transport.observeVpn sequence observation answers).2 })
  | .startIngress epoch proxy answers =>
    (.nothing, { s with transport := (s.transport.startIngress epoch proxy answers).2 })
  | .stopIngress answers =>
    (.nothing, { s with transport := (s.transport.stopIngressLocked answers).2 })
  | .ask =>
    match s.query with
    | none => (.asked, { s with query := some .readiness })
    | some _ => (.nothing, s)
  | .read healthy =>
    match s.query with
    | none => (.nothing, s)
    | some stage =>
      match s.read healthy stage with
      | .inl next => (.nothing, { s with query := some next })
      | .inr answer => (.answered answer, { s with query := none })

abbrev ConnectionEvent : Type := Event ConnectionSystem ConnectionAction ConnectionReply

abbrev RecordedConnection : Type := Recorded ConnectionSystem ConnectionAction ConnectionReply

def runConnection (generation : RuntimeGeneration) (accepted : Ipv4Cidr)
    (actions : List ConnectionAction) : RecordedConnection :=
  run (record connectionStep) (.init (.new generation accepted)) actions

/-! ## What an answer describes -/

/-- The credentials that the proxy of the running serving generation was started with. -/
def runningCredentials (s : GrantSystem) : Option ProxyCredentialMaterial :=
  if s.proxy.coordinator.state = .running ∧ s.proxy.coordinator.servingGeneration.isSome then
    s.proxy.coordinator.current.bind fun runtime =>
      (s.runtimes runtime.id).map fun served => served.authorization.primary
  else none

/-- The host is the admitted endpoint, and the credentials are those of the running proxy. -/
def Consistent (host : BitVec 32) (username password : Text) (s : ConnectionSystem) : Prop :=
  s.transport.admission.admittedEndpoint = some host ∧
    (runningCredentials s.grants.shared).map
      (fun material => (material.username, material.password)) =
      some (username, password)

instance (host : BitVec 32) (username password : Text) (s : ConnectionSystem) :
    Decidable (Consistent host username password s) :=
  inferInstanceAs (Decidable (_ ∧ _))

/-- A ready answer has a moment of its query that it describes. -/
def DescribesMoment (e : ConnectionEvent) (older : List ConnectionEvent) : Prop :=
  ∀ host mixed socks5 http username password,
    e.output = .answered (.ready host mixed socks5 http username password) →
    Since (fun x => x.output ≠ .asked)
      (fun moment _ => Consistent host username password moment.after) older

/-! ## The owner of the endpoint -/

/-- The owner is as it was, or it has taken an observation. -/
def OwnerMoves (owner after : MeshEndpointOwner) : Prop :=
  after = owner ∨ ∃ sequence addresses, owner.observeLocalIpv4 sequence addresses = .ok after

theorem observeVpn_owner (transport : MeshTransport) (seq : Nat)
    (obs : MeshVpnObservation) (answers : IngressAnswers) :
    OwnerMoves transport.owner (transport.observeVpn seq obs answers).2.owner := by
  unfold MeshTransport.observeVpn
  split
  · exact .inl rfl
  case h_2 owner hobs =>
    split_ifs
    · rw [owner_stopIngressLocked]
      exact .inr ⟨seq, obs.addresses, hobs⟩
    · exact .inr ⟨seq, obs.addresses, hobs⟩

theorem launch_owner (transport : MeshTransport) (epoch : Nat) (executor : ProxyServingRuntime)
    (answers : IngressAnswers) :
    (transport.launch epoch executor answers).2.owner = transport.owner := by
  unfold MeshTransport.launch
  split_ifs
  · rfl
  · split <;> rfl

theorem startIngress_owner (transport : MeshTransport) (epoch : Nat)
    (executor : ProxyServingRuntime) (answers : IngressAnswers) :
    (transport.startIngress epoch executor answers).2.owner = transport.owner := by
  have hstop := owner_stopIngressLocked transport answers
  unfold MeshTransport.startIngress
  split_ifs
  · rfl
  · rfl
  · rfl
  · split
    · rename_i hstopped
      rw [hstopped] at hstop
      exact hstop
    · rename_i hstopped
      rw [hstopped] at hstop
      rw [launch_owner]
      exact hstop
  · rw [launch_owner]

/-! ## The credentials of the current proxy -/

/-- What the section of a task does to the proxy that is served and its credentials. -/
inductive CredentialMove (task : ProxyTask) (s s' : ProxyCoordinatorState) : Prop where
  | kept (hcurrent : s'.current = s.current) (hserved : s'.servingGeneration = s.servingGeneration)
      (hcredentials : s'.credentials = s.credentials)
  | withdrawn (hcurrent : s'.current = none) (hserved : s'.servingGeneration = none)
  | accepted (input : StartInput) (htask : task = .call (.start input))
      (haccepted : s.refusesStart = false) (hcurrent : s'.current = s.current)
      (hserved : s'.servingGeneration = s.servingGeneration)
  | serving (runtime : ProxyServingRuntime) (version : Nat)
      (htask : task = .finishStarted runtime version) (hcurrent : s'.current = some runtime)
      (hcredentials : s'.credentials = s.credentials)

theorem CredentialMove.refl (task s) : CredentialMove task s s := .kept rfl rfl rfl

section

variable {s : ProxySystem} {answers : ProxyAnswers}

theorem fail_withdrawn (task failure s) : CredentialMove task s (s.fail failure) := by
  unfold ProxyCoordinatorState.fail ProxyCoordinatorState.scheduleRecovery
  split_ifs <;> exact .withdrawn rfl rfl

theorem start_move (input) :
    CredentialMove (.call (.start input)) s.coordinator (s.start input).1.coordinator := by
  unfold start
  split
  · exact .refl _ _
  · split_ifs with hrefuses
    · exact .refl _ _
    · exact .accepted input rfl (Bool.eq_false_iff.mpr hrefuses) rfl rfl

theorem recover_move (epoch task) :
    CredentialMove task s.coordinator (s.recover epoch).1.coordinator := by
  unfold recover
  dsimp only
  split_ifs
  · exact .refl _ _
  · split <;> exact .kept rfl rfl rfl
  · exact .refl _ _

theorem proceed_move (task) :
    CredentialMove task s.coordinator (s.proceed task answers).1.coordinator := by
  cases task with
  | call call =>
    cases call with
    | start input => exact start_move input
    | recover epoch => exact recover_move epoch _
    | terminalFailure gen failure =>
      show CredentialMove _ _ (s.onTerminalFailure gen failure).1.coordinator
      unfold onTerminalFailure
      split_ifs
      · exact .refl _ _
      · exact fail_withdrawn _ failure _
    | stop close => exact .withdrawn rfl rfl
  | startCandidate version =>
    unfold proceed
    dsimp only
    split <;> exact .refl _ _
  | finishStarted rt version =>
    show CredentialMove _ _ (s.finishStarted rt version).1.coordinator
    unfold finishStarted
    split_ifs
    · exact .refl _ _
    · exact .refl _ _
    · exact .serving rt version rfl rfl rfl
  | stillCurrent rt gen version =>
    unfold proceed
    dsimp only
    split_ifs <;> exact .refl _ _
  | installProxy rt gen version | observeInstalled gen version adm
  | observeProxyStarted gen version credentials | observeProxyStopped withdrawal
  | clearProxy withdrawal | observeCleared withdrawal adm => exact .refl _ _
  | readCredentials gen version =>
    show CredentialMove _ _ (s.readCredentials gen version).1.coordinator
    unfold readCredentials
    split <;> exact .refl _ _
  | publishRunning gen =>
    show CredentialMove _ _ (s.publishRunning gen).1.coordinator
    unfold publishRunning
    split_ifs
    · exact .refl _ _
    · exact .kept rfl rfl rfl
  | publishStartFailure failure =>
    show CredentialMove _ _ (s.publishStartFailure failure).1.coordinator
    unfold publishStartFailure
    split_ifs
    · exact .refl _ _
    · exact fail_withdrawn _ failure _
  | stopRuntime rt clean =>
    show CredentialMove _ _ (s.stopRuntime rt clean answers).1.coordinator
    unfold stopRuntime
    split_ifs <;> exact .refl _ _
  | publishStopFailure => exact .kept rfl rfl rfl
  | spawnRecovery =>
    show CredentialMove _ _ (s.spawnRecovery answers).1.coordinator
    unfold spawnRecovery
    split_ifs <;> exact .refl _ _

end

/-- The credentials that a proxy was started with. -/
def primaryOf (s : GrantSystem) (id : Nat) : Option ProxyCredentialMaterial :=
  (s.runtimes id).map fun served => served.authorization.primary

section

variable {s s' : GrantSystem} {id : Nat} {material : ProxyCredentialMaterial}

theorem primaryOf_update {other served after} (hserv : s.runtimes id = some served)
    (hrts : s'.runtimes = Function.update s.runtimes id (some after))
    (hprim : after.authorization.primary = served.authorization.primary) :
    primaryOf s' other = primaryOf s other := by
  unfold primaryOf
  rw [hrts]
  by_cases hid : other = id
  · subst hid
    rw [update_self, hserv, Option.map_some, Option.map_some, hprim]
  · rw [update_of_ne hid]

theorem setUnderLock_primary (authz : ServingAuthorization) (temporary : ProxyCredentialMaterial) :
    (authz.setUnderLock temporary).2.primary = authz.primary := by
  unfold ServingAuthorization.setUnderLock
  split
  · rfl
  case h_2 adm _ =>
    exact (step_primary _ .install).trans
      ((step_primary _ (.lock (.granted adm))).trans (step_primary authz (.setTemporary temporary)))

theorem clearUnderLock_primary (authz : ServingAuthorization) :
    authz.clearUnderLock.primary = authz.primary :=
  (step_primary _ .install).trans
    ((step_primary _ (.lock (.material authz.primary))).trans (step_primary authz .clearTemporary))

theorem reapply_primary (rt) : primaryOf (s.reapply rt) id = primaryOf s id := by
  unfold GrantSystem.reapply
  split
  case h_1 temporary served _ hserv =>
    split_ifs
    · exact primaryOf_update hserv rfl (setUnderLock_primary _ temporary)
    · exact primaryOf_update hserv rfl (clearUnderLock_primary _)
  case h_2 => rfl

theorem regrant_primary (task) : primaryOf (s.regrant task) id = primaryOf s id := by
  unfold GrantSystem.regrant
  split
  · split
    · split_ifs <;> rfl
    · rfl
  · rfl
  · split_ifs
    · rfl
    · exact reapply_primary _
  · rfl

theorem proceed_primary (hsound : Sound s) (task answers) (h : primaryOf s id = some material) :
    primaryOf (s.proceed task answers).1 id = some material := by
  cases task with
  | proxy task => exact (regrant_primary task).trans h
  | startCandidate version credentials =>
    unfold GrantSystem.proceed
    dsimp only
    split
    · have hid : id ≠ s.nextRuntime := by
        rintro rfl
        unfold primaryOf at h
        rw [hsound.fresh _ le_rfl] at h
        cases h
      unfold primaryOf at h ⊢
      dsimp only
      rw [update_of_ne hid]
      exact h
    · exact h

/-- The actions that do not belong to the coordinator leave it and the credentials alone. -/
theorem setTemporary_primary (expd username password) :
    (s.setTemporary expd username password).2.proxy = s.proxy ∧
      ∀ id, primaryOf (s.setTemporary expd username password).2 id = primaryOf s id := by
  unfold GrantSystem.setTemporary
  split
  · exact ⟨rfl, fun _ => rfl⟩
  · split_ifs
    · exact ⟨rfl, fun _ => rfl⟩
    · split
      · exact ⟨rfl, fun _ => rfl⟩
      case h_2 current served hcur =>
        obtain ⟨rt, -, hmap⟩ := Option.bind_eq_some_iff.mp hcur
        obtain ⟨found, hfound, heq⟩ := Option.map_eq_some_iff.mp hmap
        cases heq
        split_ifs
        · exact ⟨rfl, fun _ => primaryOf_update hfound rfl (setUnderLock_primary _ _)⟩
        · exact ⟨rfl, fun _ => rfl⟩

theorem clearTemporary_primary : s.clearTemporary.2.proxy = s.proxy ∧
    ∀ id, primaryOf s.clearTemporary.2 id = primaryOf s id := by
  rcases Sound.clearTemporary_cases s with ⟨heq, -⟩ | ⟨current, served, -, hserv, heq⟩
  · rw [heq]
    exact ⟨rfl, fun _ => rfl⟩
  · rw [heq]
    exact ⟨rfl, fun _ => primaryOf_update hserv rfl (clearUnderLock_primary _)⟩

theorem session_primary (rt step) : (s.session rt step).2.proxy = s.proxy ∧
      ∀ id, primaryOf (s.session rt step).2 id = primaryOf s id := by
  unfold GrantSystem.session
  cases hserv : s.runtimes rt with
  | none => exact ⟨rfl, fun _ => rfl⟩
  | some served =>
    exact ⟨rfl, fun _ => primaryOf_update hserv rfl (Sound.session_kept served step).primary⟩

theorem stopped_primary (rt : Nat) : (s.stopped rt).proxy = s.proxy ∧
    ∀ id, primaryOf (s.stopped rt) id = primaryOf s id := by
  unfold GrantSystem.stopped
  cases hserv : s.runtimes rt with
  | none => exact ⟨rfl, fun _ => rfl⟩
  | some served => exact ⟨rfl, fun _ => primaryOf_update hserv rfl rfl⟩

end

/-- What is served has a current proxy, and its credentials are those of the coordinator. -/
structure CredentialsMatch (s : GrantSystem) : Prop where
  served : s.proxy.coordinator.servingGeneration.isSome = true →
    s.proxy.coordinator.current.isSome = true
  credentials : ∀ runtime, s.proxy.coordinator.current = some runtime →
    ∃ material, primaryOf s runtime.id = some material ∧
      s.proxy.coordinator.credentials = some material

/-- A start is accepted while there is no current proxy, and a started proxy becomes current
while the coordinator has the credentials it was started with. -/
def KeepsCredentials (p : GrantPool) : GrantAction → Prop
  | .coordinator (.advance (.proxy (.call (.start _))) _) =>
    p.shared.proxy.coordinator.refusesStart = true ∨ p.shared.proxy.coordinator.current = none
  | .coordinator (.advance (.proxy (.finishStarted runtime _)) _) =>
    (primaryOf p.shared runtime.id).isSome = true ∧
      p.shared.proxy.coordinator.credentials = primaryOf p.shared runtime.id
  | _ => True

instance (p : GrantPool) (action : GrantAction) : Decidable (KeepsCredentials p action) := by
  unfold KeepsCredentials
  split <;> infer_instance

section

variable {s s' : GrantSystem} {p : GrantPool}

theorem CredentialsMatch.of_proxy (h : CredentialsMatch s) (hproxy : s'.proxy = s.proxy)
    (hprim : ∀ id, primaryOf s' id = primaryOf s id) : CredentialsMatch s' := by
  refine ⟨?_, fun rt => ?_⟩
  · rw [hproxy]
    exact h.served
  · rw [hproxy, hprim]
    exact h.credentials rt

theorem CredentialsMatch.proceed (h : CredentialsMatch p.shared) (hsound : Sound p.shared)
    (task answers)
    (hguard : KeepsCredentials p (.coordinator (.advance task answers))) :
    CredentialsMatch (p.shared.proceed task answers).1 := by
  cases task with
  | startCandidate version credentials =>
    have hproxy : (p.shared.proceed (.startCandidate version credentials) answers).1.proxy =
        p.shared.proxy := by
      unfold GrantSystem.proceed
      dsimp only
      split <;> rfl
    refine ⟨by rw [hproxy]; exact h.served, fun rt hcur => ?_⟩
    rw [hproxy] at hcur ⊢
    obtain ⟨material, hprim, hcred⟩ := h.credentials rt hcur
    exact ⟨material, proceed_primary hsound _ answers hprim, hcred⟩
  | proxy task =>
    have hprim : ∀ id, primaryOf (p.shared.proceed (.proxy task) answers).1 id =
        primaryOf p.shared id := fun id => regrant_primary task
    have hmove : CredentialMove task p.shared.proxy.coordinator
        (p.shared.proceed (.proxy task) answers).1.proxy.coordinator := proceed_move task
    cases hmove with
    | kept hcur hserv hcred =>
      refine ⟨by rw [hserv, hcur]; exact h.served, fun rt => ?_⟩
      rw [hcur, hcred, hprim]
      exact h.credentials rt
    | withdrawn hcur hserv =>
      refine ⟨?_, fun rt heq => ?_⟩
      · rw [hserv]
        simp
      · cases hcur.symm.trans heq
    | accepted input htask hacc hcur hserv =>
      subst htask
      have hnone : p.shared.proxy.coordinator.current = none :=
        hguard.resolve_left (by rw [hacc]; exact Bool.false_ne_true)
      refine ⟨by rw [hserv, hcur]; exact h.served, fun rt heq => ?_⟩
      cases (hcur.trans hnone).symm.trans heq
    | serving rt version htask hcur hcred =>
      subst htask
      obtain ⟨hsome, hsame⟩ := hguard
      obtain ⟨material, hmat⟩ := Option.isSome_iff_exists.mp hsome
      refine ⟨fun _ => by rw [hcur]; rfl, fun other heq => ?_⟩
      cases hcur.symm.trans heq
      exact ⟨material, (hprim rt.id).trans hmat, hcred.trans (hsame.trans hmat)⟩

theorem CredentialsMatch.step (h : CredentialsMatch p.shared) (hsound : Sound p.shared)
    (act) (hguard : KeepsCredentials p act) : CredentialsMatch (grantStep p act).2.shared := by
  cases act with
  | coordinator act =>
    cases act with
    | call call => exact h
    | advance task answers =>
      show CredentialsMatch (p.step grantProtocol (.advance task answers)).shared
      unfold Pool.step
      dsimp only
      split_ifs
      · exact h.proceed hsound task answers hguard
      · exact h
  | setTemporary expd username password =>
    obtain ⟨hproxy, hprim⟩ := setTemporary_primary (s := p.shared) expd username password
    exact h.of_proxy hproxy hprim
  | clearTemporary =>
    obtain ⟨hproxy, hprim⟩ := clearTemporary_primary (s := p.shared)
    exact h.of_proxy hproxy hprim
  | session rt step =>
    obtain ⟨hproxy, hprim⟩ := session_primary (s := p.shared) rt step
    exact h.of_proxy hproxy hprim
  | stopped rt =>
    obtain ⟨hproxy, hprim⟩ := stopped_primary (s := p.shared) rt
    exact h.of_proxy hproxy hprim

end

/-! ## The query in a run -/

/-- The query has met a moment that an answer with this endpoint and this proxy describes. -/
def Described (endpoint : BitVec 32) (proxy : ProxyConnectionSnapshot)
    (history : List ConnectionEvent) : Prop :=
  Since (fun x => x.output ≠ .asked)
    (fun moment _ => Consistent endpoint proxy.material.username proxy.material.password
      moment.after) history

/-- What the query knows at a stage. The epoch of the first Mesh reading is still the one of the
endpoint, or it is gone for good. -/
def StageSound (owner : MeshEndpointOwner) (history : List ConnectionEvent) : QueryStage → Prop
  | .readiness | .mesh => True
  | .state mesh endpoint | .collect mesh endpoint =>
    ∃ epoch, mesh.admission.admissionEpoch = some epoch ∧
      (Held endpoint epoch owner ∨ Gone epoch owner)
  | .meshAgain mesh endpoint proxy =>
    ∃ epoch, mesh.admission.admissionEpoch = some epoch ∧
      (Described endpoint proxy history ∨ Gone epoch owner)
  | .readinessAgain mesh after endpoint proxy =>
    after.admission.admissionEpoch = mesh.admission.admissionEpoch →
      Described endpoint proxy history
  | .confirm endpoint proxy => Described endpoint proxy history

section

variable {owner after : MeshEndpointOwner} {hist : List ConnectionEvent} {e : ConnectionEvent}
  {endpoint : BitVec 32} {epoch : Nat}

theorem gone_moves (h : Gone epoch owner) (hmoves : OwnerMoves owner after) : Gone epoch after := by
  rcases hmoves with rfl | ⟨seq, addresses, hobs⟩
  · exact h
  · exact h.observe hobs

theorem numbered_moves (h : Numbered owner) (hmoves : OwnerMoves owner after) : Numbered after := by
  rcases hmoves with rfl | ⟨seq, addresses, hobs⟩
  · exact h
  · exact h.observe hobs

theorem held_or_gone_moves (hnumd : Numbered owner)
    (h : Held endpoint epoch owner ∨ Gone epoch owner) (hmoves : OwnerMoves owner after) :
    Held endpoint epoch after ∨ Gone epoch after := by
  rcases h with hheld | hgone
  · rcases hmoves with rfl | ⟨seq, addresses, hobs⟩
    · exact .inl hheld
    · exact hheld.observe hnumd hobs
  · exact .inr (gone_moves hgone hmoves)

theorem StageSound.wait {stage} (h : StageSound owner hist stage)
    (hnumd : Numbered owner) (hmoves : OwnerMoves owner after)
    (hasked : e.output ≠ .asked) : StageSound after (e :: hist) stage := by
  cases stage with
  | readiness | mesh => trivial
  | state mesh endpoint | collect mesh endpoint =>
    obtain ⟨epoch, hepoch, hheld⟩ := h
    exact ⟨epoch, hepoch, held_or_gone_moves hnumd hheld hmoves⟩
  | meshAgain mesh endpoint proxy =>
    obtain ⟨epoch, hepoch, hdescribed | hgone⟩ := h
    · exact ⟨epoch, hepoch, .inl (Since.cons hdescribed hasked)⟩
    · exact ⟨epoch, hepoch, .inr (gone_moves hgone hmoves)⟩
  | readinessAgain mesh again endpoint proxy => exact fun hsame => Since.cons (h hsame) hasked
  | confirm endpoint proxy => exact Since.cons h hasked

end

theorem connectionSnapshot_eq {state proxy} (h : connectionSnapshot state = some proxy) :
    state.state = .running ∧ state.servingGeneration = some proxy.servingGeneration ∧
      state.credentials = some proxy.material := by
  unfold connectionSnapshot at h
  split_ifs at h with hclos
  obtain ⟨gen, hgen, h⟩ := Option.bind_eq_some_iff.mp h
  obtain ⟨version, -, h⟩ := Option.bind_eq_some_iff.mp h
  obtain ⟨material, hmat, h⟩ := Option.bind_eq_some_iff.mp h
  cases h
  refine ⟨?_, hgen, hmat⟩
  by_contra hst
  exact hclos (by simp [hst])

theorem runningCredentials_collected {s} (h : CredentialsMatch s) {proxy}
    (hcollect : connectionSnapshot s.proxy.coordinator = some proxy) :
    runningCredentials s = some proxy.material := by
  obtain ⟨hrun, hgen, hmat⟩ := connectionSnapshot_eq hcollect
  have hserv : s.proxy.coordinator.servingGeneration.isSome = true := by
    rw [hgen]
    rfl
  obtain ⟨rt, hcur⟩ := Option.isSome_iff_exists.mp (h.served hserv)
  obtain ⟨material, hprim, hcred⟩ := h.credentials rt hcur
  cases hcred.symm.trans hmat
  unfold runningCredentials
  rw [if_pos ⟨hrun, hserv⟩, hcur]
  exact hprim

structure QuerySound (r : RecordedConnection) : Prop where
  sound : Sound r.state.grants.shared
  credentials : CredentialsMatch r.state.grants.shared
  numbered : Numbered r.state.transport.owner
  stage : ∀ stage, r.state.query = some stage →
    StageSound r.state.transport.owner r.history stage

namespace QuerySound

variable {r : RecordedConnection} {e : ConnectionEvent} {s : ConnectionSystem}

theorem init (gen accepted) : QuerySound (.init (.new gen accepted)) where
  sound := .init gen
  credentials := ⟨by rintro ⟨⟩, by rintro rt ⟨⟩⟩
  numbered := ⟨by rintro endpoint ⟨⟩, by rintro epoch ⟨⟩⟩
  stage stage h := by cases h

theorem wait (h : QuerySound r) (hsound : Sound s.grants.shared)
    (hcred : CredentialsMatch s.grants.shared)
    (hmoves : OwnerMoves r.state.transport.owner s.transport.owner)
    (hquery : s.query = r.state.query) (hasked : e.output ≠ .asked) :
    QuerySound ⟨s, e :: r.history⟩ where
  sound := hsound
  credentials := hcred
  numbered := numbered_moves h.numbered hmoves
  stage stage hstg := (h.stage stage (hquery ▸ hstg)).wait h.numbered hmoves hasked

theorem next (h : QuerySound r) {stage} (hgrants : s.grants = r.state.grants)
    (htran : s.transport = r.state.transport) (hquery : s.query = some stage)
    (hstg : StageSound r.state.transport.owner (e :: r.history) stage) :
    QuerySound ⟨s, e :: r.history⟩ where
  sound := hgrants ▸ h.sound
  credentials := hgrants ▸ h.credentials
  numbered := htran ▸ h.numbered
  stage other hoth := by
    cases hquery.symm.trans hoth
    exact htran ▸ hstg

theorem read (h : QuerySound r) (healthy : Bool) {stage} (hstg : r.state.query = some stage) :
    (∀ next, r.state.read healthy stage = .inl next → ∀ e : ConnectionEvent,
      e.output ≠ .asked → e.after.grants = r.state.grants → e.after.transport = r.state.transport →
      StageSound r.state.transport.owner (e :: r.history) next) ∧
    ∀ host mixed socks5 http username password,
      r.state.read healthy stage = .inr (.ready host mixed socks5 http username password) →
      Since (fun x => x.output ≠ .asked)
        (fun moment _ => Consistent host username password moment.after) r.history := by
  have hsound := h.stage stage hstg
  cases stage with
  | readiness =>
    simp only [ConnectionSystem.read]
    split_ifs
    · exact ⟨by rintro next ⟨⟩; intros; trivial, by simp⟩
    · exact ⟨by rintro next ⟨⟩, by simp⟩
  | mesh =>
    simp only [ConnectionSystem.read]
    split
    · exact ⟨by rintro next ⟨⟩, by simp⟩
    case h_2 endpoint hend =>
      split_ifs
      · refine ⟨?_, by simp⟩
        rintro next heq e - - -
        cases heq
        obtain ⟨epoch, hepoch⟩ := h.numbered.epoch endpoint hend
        exact ⟨epoch, hepoch, .inl ⟨hepoch, hend⟩⟩
      · exact ⟨by rintro next ⟨⟩, by simp⟩
  | state mesh endpoint =>
    simp only [ConnectionSystem.read]
    split_ifs
    · refine ⟨?_, by simp⟩
      rintro next heq e - - -
      cases heq
      exact hsound
    · exact ⟨by rintro next ⟨⟩, by simp⟩
  | collect mesh endpoint =>
    simp only [ConnectionSystem.read]
    cases hcollect : connectionSnapshot r.state.coordinator with
    | none => exact ⟨by rintro next ⟨⟩, by simp⟩
    | some proxy =>
      refine ⟨?_, by simp⟩
      rintro next heq e - hgrants htran
      cases heq
      obtain ⟨epoch, hepoch, hheld | hgone⟩ := hsound
      · refine ⟨epoch, hepoch, .inl (Since.now ?_)⟩
        have hrun := runningCredentials_collected h.credentials hcollect
        rw [Consistent, hgrants, htran, hrun]
        exact ⟨hheld.2, rfl⟩
      · exact ⟨epoch, hepoch, .inr hgone⟩
  | meshAgain mesh endpoint proxy =>
    refine ⟨?_, by rintro _ _ _ _ _ _ ⟨⟩⟩
    rintro next heq e hasked - -
    cases heq
    obtain ⟨epoch, hepoch, hdescribed | hgone⟩ := hsound
    · exact fun _ => Since.cons hdescribed hasked
    · intro hsame
      exact absurd (hsame.trans hepoch) hgone.2
  | readinessAgain mesh after endpoint proxy =>
    simp only [ConnectionSystem.read]
    split_ifs with hready
    · refine ⟨?_, by simp⟩
      rintro next heq e hasked - -
      cases heq
      have hsame := hready.2
      simp only [ConnectionSystem.sameAdmission, Bool.and_eq_true, decide_eq_true_eq] at hsame
      exact Since.cons (hsound hsame.2) hasked
    · exact ⟨by rintro next ⟨⟩, by simp⟩
  | confirm endpoint proxy =>
    simp only [ConnectionSystem.read]
    split_ifs
    · refine ⟨by rintro next ⟨⟩, ?_⟩
      intro host mixed socks5 http username password heq
      cases heq
      exact hsound
    · exact ⟨by rintro next ⟨⟩, by simp⟩

end QuerySound

/-- The starts of the proxy are made in turn. -/
def StartsInTurn (r : RecordedConnection) : ConnectionAction → Prop
  | .grants action => KeepsCredentials r.state.grants action
  | _ => True

instance (r : RecordedConnection) (action : ConnectionAction) :
    Decidable (StartsInTurn r action) := by
  unfold StartsInTurn
  split <;> infer_instance

theorem QuerySound.step {r} (h : QuerySound r) (act) (hguard : StartsInTurn r act) :
    QuerySound (record connectionStep r act) ∧
      DescribesMoment (eventOf connectionStep r.state act) r.history := by
  -- An event that is not an answer describes nothing.
  have hquiet : ∀ e : ConnectionEvent, (∀ ans, e.output ≠ .answered ans) →
      DescribesMoment e r.history := fun e hans _ _ _ _ _ _ heq => absurd heq (hans _)
  cases act with
  | grants act =>
    refine ⟨h.wait (h.sound.step act) (h.credentials.step h.sound act hguard) (.inl rfl) rfl
      (by simp), hquiet _ (by rintro ans ⟨⟩)⟩
  | readiness act =>
    refine ⟨h.wait (h.sound.of_runtimes rfl rfl) ⟨h.credentials.served, h.credentials.credentials⟩
      (.inl rfl) rfl (by simp), hquiet _ (by rintro ans ⟨⟩)⟩
  | observeVpn seq obs answers =>
    refine ⟨h.wait h.sound h.credentials (observeVpn_owner _ seq obs answers) rfl
      (by simp), hquiet _ (by rintro ans ⟨⟩)⟩
  | startIngress epoch proxy answers =>
    refine ⟨h.wait h.sound h.credentials (.inl (startIngress_owner _ epoch proxy answers)) rfl
      (by simp), hquiet _ (by rintro ans ⟨⟩)⟩
  | stopIngress answers =>
    refine ⟨h.wait h.sound h.credentials (.inl (owner_stopIngressLocked _ answers)) rfl
      (by simp), hquiet _ (by rintro ans ⟨⟩)⟩
  | ask =>
    cases hquery : r.state.query with
    | none =>
      have hstep : connectionStep r.state .ask =
          (.asked, { r.state with query := some .readiness }) := by
        simp only [connectionStep, hquery]
      simp only [record, eventOf, hstep]
      exact ⟨h.next rfl rfl rfl trivial, hquiet _ (by rintro ans ⟨⟩)⟩
    | some stage =>
      have hstep : connectionStep r.state .ask = (.nothing, r.state) := by
        simp only [connectionStep, hquery]
      simp only [record, eventOf, hstep]
      exact ⟨h.wait h.sound h.credentials (.inl rfl) rfl (by simp), hquiet _ (by rintro ans ⟨⟩)⟩
  | read healthy =>
    cases hquery : r.state.query with
    | none =>
      have hstep : connectionStep r.state (.read healthy) = (.nothing, r.state) := by
        simp only [connectionStep, hquery]
      simp only [record, eventOf, hstep]
      exact ⟨h.wait h.sound h.credentials (.inl rfl) rfl (by simp), hquiet _ (by rintro ans ⟨⟩)⟩
    | some stage =>
      obtain ⟨hnext, hansw⟩ := h.read healthy hquery
      cases hread : r.state.read healthy stage with
      | inl next =>
        have hstep : connectionStep r.state (.read healthy) =
            (.nothing, { r.state with query := some next }) := by
          simp only [connectionStep, hquery, hread]
        simp only [record, eventOf, hstep]
        exact ⟨h.next rfl rfl rfl (hnext next hread _ (by simp) rfl rfl),
          hquiet _ (by rintro ans ⟨⟩)⟩
      | inr ans =>
        have hstep : connectionStep r.state (.read healthy) =
            (.answered ans, { r.state with query := none }) := by
          simp only [connectionStep, hquery, hread]
        simp only [record, eventOf, hstep]
        refine ⟨⟨h.sound, h.credentials, h.numbered, by rintro stage ⟨⟩⟩, ?_⟩
        intro host mixed socks5 http username password heq
        cases heq
        exact hansw _ _ _ _ _ _ hread

/-- A ready answer describes a moment of its query: the host was the admitted endpoint and the
credentials were those of the running proxy. -/
theorem ready_answer_consistent (generation : RuntimeGeneration) (accepted : Ipv4Cidr)
    (actions : List ConnectionAction)
    (hstarts : Along (record connectionStep) StartsInTurn (.init (.new generation accepted))
      actions) :
    Always DescribesMoment (runConnection generation accepted actions).history :=
  always_record_along (I := QuerySound) (fun _ action h hguard => h.step action hguard)
    (.init generation accepted) .nil hstarts

/-! ## A start that crosses a failed stop -/

def firstMaterial : ProxyCredentialMaterial :=
  ⟨"user".toList, "first".toList, sampleMaterial.username_ne, by decide⟩

def secondMaterial : ProxyCredentialMaterial :=
  ⟨"user".toList, "second".toList, sampleMaterial.username_ne, by decide⟩

def thirdMaterial : ProxyCredentialMaterial :=
  ⟨"user".toList, "third".toList, sampleMaterial.username_ne, by decide⟩

def inputFor (version : Nat) (material : ProxyCredentialMaterial) : StartInput :=
  ⟨some version, some material.username, some material.password⟩

def firstEpoch : Probing.MeshAdmissionSnapshot := ⟨.admitted, some 1⟩

/-- A section of the coordinator in which everything succeeds. -/
def goodSection (task : GrantTask) : ConnectionAction :=
  .grants (.coordinator (.advance task ⟨.ok sampleProxy, .ok firstEpoch, true, true⟩))

/-- A start up to the observation of its proxy by readiness. -/
def observedStart (material : ProxyCredentialMaterial) (runtime generation version : Nat) :
    List ConnectionAction :=
  [.grants (.coordinator (.call (.start (inputFor version material)))),
    goodSection (.proxy (.call (.start (inputFor version material)))),
    goodSection (.startCandidate version material),
    goodSection (.proxy (.finishStarted ⟨runtime⟩ version)),
    goodSection (.proxy (.stillCurrent ⟨runtime⟩ generation version)),
    goodSection (.proxy (.installProxy ⟨runtime⟩ generation version)),
    goodSection (.proxy (.observeInstalled generation version firstEpoch)),
    goodSection (.proxy (.readCredentials generation version)),
    goodSection (.proxy (.observeProxyStarted generation version material))]

/-- The cellular network and the Mesh endpoint are there. -/
def networks : List ConnectionAction :=
  [.readiness (.update (.cellular
      ⟨⟨.admitted, none, some Cellular.sampleHandle, some sampleSequence⟩, .enforced⟩)),
    .observeVpn 1 (.uniqueVpn [0x64600204#32]) ⟨true, true, 0, .ok ()⟩]

def bindingFor (generation : GenerationKey .proxyServing) : ProbeBinding :=
  { sampleBinding with
    proxyServingGeneration := generation
    meshAdmissionEpoch := ⟨1, Nat.one_ne_zero⟩ }

/-- The egress probe of the ticket succeeds, and the ingress is started. -/
def becomesReady (ticket : ProbeTicket) (runtime : Nat) : List ConnectionAction :=
  [.readiness (.spawnProbe ticket), .readiness (.completeProbe ticket .succeeded 1000000000),
    .startIngress 1 ⟨runtime⟩ ⟨true, true, 0, .ok ()⟩]

def query : List ConnectionAction := .ask :: List.replicate 7 (.read true)

/-- A start that nothing crosses, and a query. -/
def plainRun : List ConnectionAction :=
  networks ++ observedStart secondMaterial 0 1 51 ++
    becomesReady ⟨bindingFor ⟨1, Nat.one_ne_zero⟩, ⟨4, Nat.succ_ne_zero 3⟩⟩ 0 ++
    [goodSection (.proxy (.publishRunning 1))] ++ query

/-- The first proxy runs and is stopped; the stop has withdrawn the facts and waits for it. -/
def stoppingRun : List ConnectionAction :=
  networks ++ observedStart firstMaterial 0 1 50 ++ [goodSection (.proxy (.publishRunning 1)),
    .grants (.coordinator (.call (.stop false))), goodSection (.proxy (.call (.stop false))),
    goodSection (.proxy (.observeProxyStopped (.stop (some ⟨0⟩) true))),
    goodSection (.proxy (.clearProxy (.stop (some ⟨0⟩) true))),
    goodSection (.proxy (.observeCleared (.stop (some ⟨0⟩) true) firstEpoch))]

/-- The second proxy is started and becomes ready before its start is over. -/
def crossedRun : List ConnectionAction :=
  stoppingRun ++ observedStart secondMaterial 1 2 51 ++
    becomesReady ⟨bindingFor ⟨2, Nat.succ_ne_zero 1⟩, ⟨7, Nat.succ_ne_zero 6⟩⟩ 1

/-- The first proxy does not stop in time, which leaves the coordinator failed with the second
proxy in place. A third start is accepted, and then the second one is over. -/
def crossingRun : List ConnectionAction :=
  crossedRun ++ [.grants (.coordinator (.advance (.proxy (.stopRuntime (some ⟨0⟩) true))
      ⟨.ok sampleProxy, .ok firstEpoch, false, true⟩)),
    goodSection (.proxy .publishStopFailure),
    .grants (.coordinator (.call (.start (inputFor 52 thirdMaterial)))),
    goodSection (.proxy (.call (.start (inputFor 52 thirdMaterial)))),
    goodSection (.proxy (.publishRunning 2))]

theorem ready_answer_consistent_plainRun :
    let history := (runConnection sampleGeneration sampleRange plainRun).history
    history.head?.map Event.output = some (.answered (.ready 0x64600204#32 mixedPort socks5Port
      httpConnectPort "user".toList "second".toList)) ∧ Always DescribesMoment history :=
  ⟨by decide +kernel,
    ready_answer_consistent sampleGeneration sampleRange plainRun (by decide +kernel)⟩

/-- The query answers with the credentials of the third start, which no proxy serves; at every
moment of it the second proxy is the one that runs. -/
theorem ready_answers_other_credentials :
    let history := (runConnection sampleGeneration sampleRange (crossingRun ++ query)).history
    history.head?.map Event.output = some (.answered (.ready 0x64600204#32 mixedPort socks5Port
        httpConnectPort "user".toList "third".toList)) ∧
      ¬ Since (fun x => x.output ≠ .asked) (fun moment _ =>
        Consistent 0x64600204#32 "user".toList "third".toList moment.after) history.tail ∧
      Consistent 0x64600204#32 "user".toList "second".toList
        (runConnection sampleGeneration sampleRange (crossingRun ++ query)).state := by
  decide +kernel

end MishProxy.Control
