import MishProxy.Serving.Authorization
import MishProxy.Serving.ProxyFacts

/-!
# Revoking the temporary credential

The coordinator keeps the temporary credential next to the current proxy and installs it in every
proxy that it starts. It clears it in the current one only. A proxy that has left that place, by
a terminal failure or a failed start, is stopped later and serves its sessions until then, with
the gate of its grant open (`clear_misses_failed_runtime`).

The coordinator here is the one of `ProxyCoordinator` with the lines about the temporary
credential, and every proxy that was ever started has its own authorization. A proxy may be
stopped at any time; its sessions are over then and no check starts in it.

* `clear_revokes_iff`: behind a clear no check is answered for a temporary grant until the next
  set, exactly when the other proxies have no grant at that moment.
-/

namespace MishProxy.Serving

open Machine Mesh Probing Credentials ServingAuthorization List Option Function
  ProxyCredentialAdmission

/-! ## One proxy -/

namespace ServingAuthorization

/-- `set_temporary_credential` under the lock of the coordinator. No other write can wait. -/
def setUnderLock (temporary : ProxyCredentialMaterial) (s : ServingAuthorization) :
    Bool × ServingAuthorization :=
  match withTemporary s.primary temporary s.nextGate with
  | .error _ => (false, s)
  | .ok admission =>
    (true, ((s.setTemporary temporary).2.lock (.granted admission)).2.install.2)

/-- `clear_temporary_credential` under the lock of the coordinator. -/
def clearUnderLock (s : ServingAuthorization) : ServingAuthorization :=
  (s.clearTemporary.2.lock (.material s.primary)).2.install.2

end ServingAuthorization

inductive SessionStep where
  | snapshot
  | begin (verifier : ProxyVerifier) (check : AuthorizationCheck)
  | advance (id : Nat) (available : Bool)
  deriving DecidableEq

structure ServedRuntime where
  authorization : ServingAuthorization
  stopped : Bool

/-- A session step; a proxy that is stopped only ends the checks that run. -/
def ServedRuntime.session (runtime : ServedRuntime) (step : SessionStep) :
    AuthorizationReply × ServedRuntime :=
  match step with
  | .snapshot =>
    if runtime.stopped then (.nothing, runtime)
    else (runtime.authorization.snapshot.1, ⟨runtime.authorization.snapshot.2, false⟩)
  | .begin verifier check =>
    if runtime.stopped then (.nothing, runtime)
    else ((runtime.authorization.begin verifier check).1,
      ⟨(runtime.authorization.begin verifier check).2, false⟩)
  | .advance id available => ((runtime.authorization.advance id available).1,
      ⟨(runtime.authorization.advance id available).2, runtime.stopped⟩)

/-! ## The coordinator -/

structure GrantSystem where
  proxy : ProxySystem
  temporary : Option ProxyCredentialMaterial
  /-- Every proxy that was ever started, by its number. -/
  runtimes : Nat → Option ServedRuntime
  nextRuntime : Nat

/-- The tasks of the coordinator; a start carries the credential it captured. -/
inductive GrantTask where
  | proxy (task : ProxyTask)
  | startCandidate (version : Nat) (credentials : ProxyCredentialMaterial)
  deriving DecidableEq

def GrantTask.ofProxy (credentials : Option ProxyCredentialMaterial) : ProxyTask → GrantTask
  | .startCandidate version =>
    match credentials with
    | some credentials => .startCandidate version credentials
    | none => .proxy (.startCandidate version)
  | task => .proxy task

namespace GrantSystem

def new (generation : RuntimeGeneration) : GrantSystem := ⟨.new generation, none, fun _ => none, 0⟩

def withAuthorization (id : Nat) (authorization : ServingAuthorization) (runtime : ServedRuntime)
    (s : GrantSystem) : GrantSystem :=
  { s with runtimes := Function.update s.runtimes id (some ⟨authorization, runtime.stopped⟩) }

/-- `finish_started` installs the grant in the proxy it makes current; when that fails there is
none. -/
def reapply (runtime : ProxyServingRuntime) (s : GrantSystem) : GrantSystem :=
  match s.temporary, s.runtimes runtime.id with
  | some material, some served =>
    if (served.authorization.setUnderLock material).1 then
      s.withAuthorization runtime.id (served.authorization.setUnderLock material).2 served
    else
      { s.withAuthorization runtime.id served.authorization.clearUnderLock served with
        temporary := none }
  | _, _ => s

/-- What the section of the task does to the temporary credential. -/
def regrant (task : ProxyTask) (s : GrantSystem) : GrantSystem :=
  match task with
  | .call (.start input) =>
    match ProxySystem.startRequest input with
    | .ok _ => if s.proxy.coordinator.refusesStart then s else { s with temporary := none }
    | .error _ => s
  | .call (.stop _) => { s with temporary := none }
  | .finishStarted runtime _ =>
    if s.proxy.coordinator.closed || decide (2 ^ 64 ≤ s.proxy.coordinator.nextServingGeneration + 1)
    then s
    else s.reapply runtime
  | _ => s

def proceed (task : GrantTask) (answers : ProxyAnswers) (s : GrantSystem) :
    GrantSystem × List GrantTask :=
  match task with
  | .proxy task =>
    ({ s.regrant task with proxy := (s.proxy.proceed task answers).1 },
      (s.proxy.proceed task answers).2.map
        (.ofProxy (s.proxy.proceed task answers).1.coordinator.credentials))
  | .startCandidate version credentials =>
    match answers.candidate with
    | .ok _ =>
      ({ s with
          runtimes := Function.update s.runtimes s.nextRuntime (some ⟨.new credentials, false⟩)
          nextRuntime := s.nextRuntime + 1 },
        [.proxy (.finishStarted ⟨s.nextRuntime⟩ version)])
    | .error failure => (s, [.proxy (.publishStartFailure failure)])

/-- `set_temporary_credential_if_generation`. -/
def setTemporary (expected : Option Nat) (username password : Text) (s : GrantSystem) :
    Bool × GrantSystem :=
  match ProxyCredentialMaterial.new username password with
  | none => (false, s)
  | some material =>
    if s.proxy.coordinator.closed || decide (s.proxy.coordinator.state ≠ .running) ||
        expected.any (fun generation =>
          decide (s.proxy.coordinator.servingGeneration ≠ some generation)) then (false, s)
    else
      match s.proxy.coordinator.current.bind fun runtime =>
          (s.runtimes runtime.id).map fun served => (runtime.id, served) with
      | none => (false, s)
      | some (id, served) =>
        if (served.authorization.setUnderLock material).1 then
          (true, { s.withAuthorization id (served.authorization.setUnderLock material).2 served with
            temporary := some material })
        else (false, s)

/-- `clear_temporary_credential`. -/
def clearTemporary (s : GrantSystem) : Bool × GrantSystem :=
  match s.proxy.coordinator.current.bind fun runtime =>
      (s.runtimes runtime.id).map fun served => (runtime.id, served) with
  | none => (true, { s with temporary := none })
  | some (id, served) =>
    (true, { s.withAuthorization id served.authorization.clearUnderLock served with
      temporary := none })

def session (id : Nat) (step : SessionStep) (s : GrantSystem) : AuthorizationReply × GrantSystem :=
  match s.runtimes id with
  | none => (.nothing, s)
  | some served =>
    ((served.session step).1,
      { s with runtimes := Function.update s.runtimes id (some (served.session step).2) })

def stopped (id : Nat) (s : GrantSystem) : GrantSystem :=
  match s.runtimes id with
  | none => s
  | some served =>
    { s with runtimes := Function.update s.runtimes id (some { served with stopped := true }) }

end GrantSystem

def grantProtocol : Protocol GrantSystem ProxyCall GrantTask ProxyAnswers where
  first call := .proxy (.call call)
  proceed := GrantSystem.proceed

abbrev GrantPool : Type := Pool GrantSystem GrantTask

inductive GrantAction where
  | coordinator (action : PoolAction ProxyCall GrantTask ProxyAnswers)
  | setTemporary (expected : Option Nat) (username password : Text)
  | clearTemporary
  | session (runtime : Nat) (step : SessionStep)
  | stopped (runtime : Nat)

inductive GrantReply where
  | nothing
  | stored (success : Bool)
  | cleared (success : Bool)
  | session (runtime : Nat) (reply : AuthorizationReply)
  deriving DecidableEq

def grantStep (p : GrantPool) : GrantAction → GrantReply × GrantPool
  | .coordinator action => (.nothing, p.step grantProtocol action)
  | .setTemporary expected username password =>
    (.stored (p.shared.setTemporary expected username password).1,
      ⟨(p.shared.setTemporary expected username password).2, p.tasks⟩)
  | .clearTemporary =>
    (.cleared p.shared.clearTemporary.1, ⟨p.shared.clearTemporary.2, p.tasks⟩)
  | .session runtime step =>
    (.session runtime (p.shared.session runtime step).1,
      ⟨(p.shared.session runtime step).2, p.tasks⟩)
  | .stopped runtime => (.nothing, ⟨p.shared.stopped runtime, p.tasks⟩)

abbrev GrantEvent : Type := Event GrantPool GrantAction GrantReply

def recordGrants (p : GrantPool) (actions : List GrantAction) :
    Recorded GrantPool GrantAction GrantReply :=
  run (record grantStep) (.init p) actions

def runGrants (generation : RuntimeGeneration) (actions : List GrantAction) : GrantPool :=
  (recordGrants (.init (.new generation)) actions).state

/-- An answer to a check that began earlier in this history is not for a temporary grant. -/
def NotTemporary (e : GrantEvent) (older : List GrantEvent) : Prop :=
  ∀ runtime id answer, e.output = .session runtime (.answered id answer) →
    (∃ began ∈ older, ∃ verifier check,
      began.output = .session runtime (.began id verifier check)) →
    answer.admitsTemporary = false

/-- From here on no check that starts is answered for a temporary grant, until a set succeeds. -/
def RevocationComplete (p : GrantPool) : Prop :=
  ∀ actions, (∀ e ∈ (recordGrants p actions).history, e.output ≠ .stored true) →
    Always NotTemporary (recordGrants p actions).history

/-- No proxy but the current one has a grant while its sessions run. -/
def OnlyCurrentGranted (s : GrantSystem) : Prop :=
  ∀ id served, s.runtimes id = some served → served.stopped = false →
    s.proxy.coordinator.current.map ProxyServingRuntime.id ≠ some id →
    served.authorization.live.temporaryGenerationGate = none

/-! ## What the operations do to one proxy -/

section

variable {s s' : ServingAuthorization} {temporary : ProxyCredentialMaterial}
  {admission : ProxyCredentialAdmission}

theorem setUnderLock_eq (hfree : s.writer = none)
    (h : withTemporary s.primary temporary s.nextGate = .ok admission) :
    s.setUnderLock temporary = (true, { s with
      nextGate := s.nextGate + 1
      writer := none
      closed := s.live.temporaryGenerationGate.toList ++ s.closed
      live := ⟨.granted admission, some admission.gate⟩ }) := by
  have hlock : .granted admission ∈ .granted admission :: s.waiting ∧ s.writer = none :=
    ⟨.head _, hfree⟩
  simp only [ServingAuthorization.setUnderLock, setTemporary, h,
    lock, if_pos hlock, install, ProxyVerifier.gate, erase_cons_head]

theorem clearUnderLock_eq (hfree : s.writer = none) : s.clearUnderLock = { s with
      writer := none
      closed := s.live.temporaryGenerationGate.toList ++ s.closed
      live := ⟨.material s.primary, none⟩ } := by
  have hlock : .material s.primary ∈ .material s.primary :: s.waiting ∧
      s.writer = none := ⟨.head _, hfree⟩
  simp only [clearUnderLock, clearTemporary, lock, if_pos hlock, install, ProxyVerifier.gate,
    erase_cons_head]

/-- Nothing waits for the lock, and the gate of the live grant is open. -/
structure Resting (s : ServingAuthorization) : Prop where
  coherent : Coherent s
  free : s.writer = none
  closed_lt : ∀ gate ∈ s.closed, gate < s.nextGate
  granted : ∀ gate, s.live.temporaryGenerationGate = some gate →
    gate < s.nextGate ∧ gate ∉ s.closed ∧
      ∃ admission, s.live.verifier = .granted admission ∧ admission.gate = gate

/-- No verifier that a session has or can take has an open gate. -/
def Shut (s : ServingAuthorization) : Prop :=
  ∀ admission, s.live.verifier = .granted admission ∨ .granted admission ∈ s.snapshots →
    admission.gate ∈ s.closed

theorem Resting.new (primary) : Resting (.new primary) where
  coherent := .new primary
  free := rfl
  closed_lt gate h := by cases h
  granted gate h := by cases h

theorem shut_new (primary) : Shut (.new primary) := by
  rintro admission (h | h) <;> cases h

theorem Coherent.shut (h : Coherent s) (hnone : s.live.temporaryGenerationGate = none) :
    Shut s := by
  have hlive : ∀ admission, s.live.verifier = .granted admission → admission.gate ∈ s.closed := by
    intro admission hver
    refine (h.gate admission hver).resolve_left ?_
    rw [hnone]
    simp
  rintro admission (hver | hmem)
  · exact hlive admission hver
  · exact (h.snapshots admission hmem).elim id (hlive admission)

theorem withTemporary_gate {primary gate}
    (h : withTemporary primary temporary gate = .ok admission) :
    admission.gate = gate := by
  unfold withTemporary at h
  split at h
  · cases h
  · split at h
    · cases h
      rfl
    · cases h

/-- The gates that a write closes are older than the next one. -/
theorem Resting.closing_lt (h : Resting s) {gate : Nat}
    (hmem : gate ∈ s.live.temporaryGenerationGate.toList ++ s.closed) : gate < s.nextGate := by
  rcases mem_append.mp hmem with hlive | hclos
  · exact (h.granted gate (mem_toList.mp hlive)).1
  · exact h.closed_lt gate hclos

theorem Resting.setUnderLock (h : Resting s) (temporary) :
    Resting (s.setUnderLock temporary).2 := by
  cases hadm : withTemporary s.primary temporary s.nextGate with
  | error error =>
    simp only [ServingAuthorization.setUnderLock, hadm]
    exact h
  | ok admission =>
    have hcoh : Coherent (s.setUnderLock temporary).2 := by
      simp only [ServingAuthorization.setUnderLock, hadm]
      exact ((h.coherent.setTemporary temporary).lock _).install
    rw [setUnderLock_eq h.free hadm] at hcoh ⊢
    refine ⟨hcoh, rfl, fun gate hmem => Nat.lt_succ_of_lt (h.closing_lt hmem), ?_⟩
    intro gate heq
    cases heq
    have hgate := withTemporary_gate hadm
    refine ⟨by rw [hgate]; exact Nat.lt_succ_self _, fun hmem => ?_, admission, rfl, rfl⟩
    exact absurd hgate (Nat.ne_of_lt (h.closing_lt hmem))

theorem Resting.clearUnderLock (h : Resting s) : Resting s.clearUnderLock := by
  have hcoh : Coherent s.clearUnderLock := ((h.coherent.clearTemporary).lock _).install
  rw [clearUnderLock_eq h.free] at hcoh ⊢
  exact ⟨hcoh, rfl, fun gate hmem => h.closing_lt hmem, by rintro gate ⟨⟩⟩

theorem Resting.shut_clearUnderLock (h : Resting s) : Shut s.clearUnderLock := by
  refine h.clearUnderLock.coherent.shut ?_
  rw [clearUnderLock_eq h.free]

/-- A session step changes the checks and takes at most the live verifier. -/
structure SessionKept (s s' : ServingAuthorization) : Prop where
  primary : s'.primary = s.primary
  live : s'.live = s.live
  closed : s'.closed = s.closed
  nextGate : s'.nextGate = s.nextGate
  waiting : s'.waiting = s.waiting
  writer : s'.writer = s.writer
  snapshots : ∀ verifier ∈ s'.snapshots, verifier = s.live.verifier ∨ verifier ∈ s.snapshots

theorem SessionKept.of_checks (checks : Nat → Option RunningCheck) (next : Nat) :
    SessionKept s { s with checks := checks, nextCheck := next } :=
  ⟨rfl, rfl, rfl, rfl, rfl, rfl, fun _ => .inr⟩

theorem SessionKept.refl (s) : SessionKept s s := .of_checks s.checks s.nextCheck

theorem snapshot_kept (s) : SessionKept s s.snapshot.2 := by
  unfold snapshot
  split_ifs
  · exact ⟨rfl, rfl, rfl, rfl, rfl, rfl, fun _ => mem_cons.mp⟩
  · exact .refl s

theorem begin_kept (s verifier check) : SessionKept s (s.begin verifier check).2 := by
  unfold begin
  split_ifs
  · exact .of_checks _ _
  · exact .refl s

theorem advance_kept (s id avail) : SessionKept s (s.advance id avail).2 := by
  unfold advance
  repeat' split
  all_goals first | exact .refl s | exact .of_checks _ _

theorem SessionKept.coherent (h : SessionKept s s') (hs : Coherent s) : Coherent s' where
  gate := by
    rw [h.live, h.closed]
    exact hs.gate
  locked := by
    rw [h.writer, h.live, h.closed]
    exact hs.locked
  snapshots admission hmem := by
    rw [h.live, h.closed]
    rcases h.snapshots _ hmem with hlive | hold
    · exact .inr hlive.symm
    · exact hs.snapshots admission hold
  live_primary := by rw [h.live, h.primary, hs.live_primary]
  waiting_primary := by
    rw [h.waiting, h.primary]
    exact hs.waiting_primary
  writer_primary := by
    rw [h.writer, h.primary]
    exact hs.writer_primary
  snapshots_primary verifier hmem := by
    rw [h.primary]
    rcases h.snapshots _ hmem with rfl | hold
    · exact hs.live_primary
    · exact hs.snapshots_primary verifier hold

theorem SessionKept.resting (h : SessionKept s s') (hs : Resting s) : Resting s' where
  coherent := h.coherent hs.coherent
  free := h.writer.trans hs.free
  closed_lt := by
    rw [h.closed, h.nextGate]
    exact hs.closed_lt
  granted := by
    rw [h.closed, h.nextGate, h.live]
    exact hs.granted

theorem SessionKept.shut (h : SessionKept s s') (hs : Shut s) : Shut s' := by
  intro admission hheld
  rw [h.closed]
  refine hs admission ?_
  rcases hheld with hlive | hmem
  · exact .inl (h.live ▸ hlive)
  · exact (h.snapshots _ hmem).imp_left Eq.symm

/-- The check ends without a temporary answer: it has not passed the gate, which is closed. -/
structure Harmless (closed : List Nat) (running : RunningCheck) : Prop where
  gate : ∀ admission, running.verifier = .granted admission → admission.gate ∈ closed
  stage : running.stage = .started ∨ ∃ gate ∈ closed, running.stage = .loading gate

theorem Harmless.mono {closed closed' running}
    (h : Harmless closed running) (hsubset : closed ⊆ closed') : Harmless closed' running := by
  refine ⟨fun admission hv => hsubset (h.gate admission hv), h.stage.imp_right ?_⟩
  rintro ⟨gate, hmem, heq⟩
  exact ⟨gate, hsubset hmem, heq⟩

theorem advance_checks_of_ne {id other : Nat} (hne : other ≠ id) (avail : Bool) :
    (s.advance id avail).2.checks other = s.checks other := by
  unfold advance
  repeat' split
  all_goals first | rfl | exact update_of_ne hne _ _

theorem advance_harmless {id : Nat} (avail : Bool) {running}
    (hrun : s.checks id = some running) (h : Harmless s.closed running) :
    (∃ ans, s.advance id avail = s.answer id ans ∧ ans.admitsTemporary = false) ∨
      ∃ stage, s.advance id avail = (.nothing, s.moveTo id running stage) ∧
        Harmless s.closed { running with stage := stage } := by
  rcases h.stage with hat | ⟨gate, hclos, hat⟩
  · cases hinsp : running.verifier.inspect running.check with
    | answered ans =>
      refine .inl ⟨ans, ?_, inspect_answered hinsp⟩
      simp only [advance, hrun, hat, hinsp]
    | gated gate =>
      obtain ⟨admission, hver, hgate, -⟩ := inspect_gated hinsp
      refine .inr ⟨.loading gate, ?_, h.gate, .inr ⟨gate, ?_, rfl⟩⟩
      · simp only [advance, hrun, hat, hinsp]
      · exact hgate ▸ h.gate admission hver
  · refine .inl ⟨running.check.verdict false, ?_, ?_⟩
    · simp only [advance, hrun, hat, if_pos hclos]
    · cases running.check <;> rfl

end

/-! ## What the coordinator does to all proxies -/

structure Sound (s : GrantSystem) : Prop where
  resting : ∀ id served, s.runtimes id = some served → Resting served.authorization
  fresh : ∀ id, s.nextRuntime ≤ id → s.runtimes id = none

open ServedRuntime

namespace Sound

variable {s s' : GrantSystem} {id : Nat} {served : ServedRuntime}

theorem init (gen) : Sound (.new gen) where
  resting id served h := by cases h
  fresh id _ := rfl

variable (h : Sound s)
include h

theorem of_runtimes (hrts : s'.runtimes = s.runtimes)
    (hnext : s'.nextRuntime = s.nextRuntime) : Sound s' where
  resting := by
    rw [hrts]
    exact h.resting
  fresh := by
    rw [hrts, hnext]
    exact h.fresh

theorem update (hserv : s.runtimes id = some served) {after}
    (hrts : s'.runtimes = Function.update s.runtimes id (some after))
    (hnext : s'.nextRuntime = s.nextRuntime) (hafter : Resting after.authorization) : Sound s' where
  resting other found hfound := by
    rw [hrts] at hfound
    rcases of_update hfound with ⟨rfl, ⟨⟩⟩ | ⟨-, hold⟩
    · exact hafter
    · exact h.resting other found hold
  fresh other hoth := by
    have hid : other ≠ id := by
      rintro rfl
      rw [h.fresh other (hnext ▸ hoth)] at hserv
      cases hserv
    rw [hrts, update_of_ne hid]
    exact h.fresh other (hnext ▸ hoth)

theorem reapply (rt) : Sound (s.reapply rt) := by
  unfold GrantSystem.reapply
  split
  case h_1 material served _ hserv =>
    have hresting := h.resting _ served hserv
    split_ifs
    · exact h.update hserv rfl rfl (hresting.setUnderLock material)
    · exact h.update hserv rfl rfl hresting.clearUnderLock
  case h_2 => exact h

theorem regrant (task) : Sound (s.regrant task) := by
  unfold GrantSystem.regrant
  split
  · split
    · split_ifs
      · exact h
      · exact h.of_runtimes rfl rfl
    · exact h
  · exact h.of_runtimes rfl rfl
  · split_ifs
    · exact h
    · exact h.reapply _
  · exact h

theorem startCandidate (credentials) : Sound { s with
      runtimes := Function.update s.runtimes s.nextRuntime (some ⟨.new credentials, false⟩)
      nextRuntime := s.nextRuntime + 1 } where
  resting other found hfound := by
    rcases of_update hfound with ⟨rfl, ⟨⟩⟩ | ⟨-, hold⟩
    · exact .new credentials
    · exact h.resting other found hold
  fresh other hoth := by
    have hid : other ≠ s.nextRuntime := Nat.ne_of_gt hoth
    exact (Function.update_of_ne hid _ s.runtimes).trans (h.fresh other (Nat.le_of_succ_le hoth))

theorem proceed (task answers) : Sound (s.proceed task answers).1 := by
  cases task with
  | proxy task => exact (h.regrant task).of_runtimes rfl rfl
  | startCandidate version credentials =>
    unfold GrantSystem.proceed
    dsimp only
    split
    · exact h.startCandidate credentials
    · exact h

theorem setTemporary (expd username password) :
    Sound (s.setTemporary expd username password).2 := by
  unfold GrantSystem.setTemporary
  split
  · exact h
  · split_ifs
    · exact h
    · split
      · exact h
      case h_2 id served hcur =>
        obtain ⟨rt, -, hmap⟩ := bind_eq_some_iff.mp hcur
        obtain ⟨found, hfound, heq⟩ := map_eq_some_iff.mp hmap
        cases heq
        split_ifs
        · exact h.update hfound rfl rfl ((h.resting _ _ hfound).setUnderLock _)
        · exact h

omit h

theorem clearTemporary_cases (s : GrantSystem) :
    (s.clearTemporary = (true, { s with temporary := none }) ∧
      ∀ id served, s.runtimes id = some served →
        s.proxy.coordinator.current.map ProxyServingRuntime.id ≠ some id) ∨
    ∃ id served, s.proxy.coordinator.current.map ProxyServingRuntime.id = some id ∧
      s.runtimes id = some served ∧ s.clearTemporary = (true,
        { s.withAuthorization id served.authorization.clearUnderLock served with
          temporary := none }) := by
  unfold GrantSystem.clearTemporary
  cases hcur : s.proxy.coordinator.current with
  | none =>
    refine .inl ⟨rfl, ?_⟩
    rintro id served _ ⟨⟩
  | some rt =>
    cases hserv : s.runtimes rt.id with
    | none =>
      refine .inl ⟨by simp only [bind_some, hserv, map_none], ?_⟩
      rintro id served hsome heq
      cases heq
      rw [hserv] at hsome
      cases hsome
    | some served =>
      refine .inr ⟨rt.id, served, rfl, hserv, ?_⟩
      simp only [bind_some, hserv, map_some]

theorem clearTemporary (h : Sound s) : Sound s.clearTemporary.2 := by
  rcases clearTemporary_cases s with ⟨heq, -⟩ | ⟨id, served, -, hserv, heq⟩
  · rw [heq]
    exact h.of_runtimes rfl rfl
  · rw [heq]
    exact h.update hserv rfl rfl (h.resting id served hserv).clearUnderLock

theorem session_kept (served : ServedRuntime) (step : SessionStep) :
    SessionKept served.authorization (served.session step).2.authorization := by
  cases step with
  | snapshot =>
    unfold session
    split_ifs
    · exact .refl _
    · exact snapshot_kept _
  | begin verifier check =>
    unfold session
    split_ifs
    · exact .refl _
    · exact begin_kept _ verifier check
  | advance id avail => exact advance_kept _ id avail

theorem session (h : Sound s) (id step) : Sound (s.session id step).2 := by
  unfold GrantSystem.session
  cases hserv : s.runtimes id with
  | none => exact h
  | some served =>
    exact h.update hserv rfl rfl ((session_kept served step).resting (h.resting id served hserv))

theorem stopped (h : Sound s) (id : Nat) : Sound (s.stopped id) := by
  unfold GrantSystem.stopped
  cases hserv : s.runtimes id with
  | none => exact h
  | some served => exact h.update hserv rfl rfl (h.resting id served hserv)

end Sound

theorem coordinator_shared (p : GrantPool) (act : PoolAction ProxyCall GrantTask ProxyAnswers) :
    (p.step grantProtocol act).shared = p.shared ∨
      ∃ task answers, (p.step grantProtocol act).shared = (p.shared.proceed task answers).1 := by
  cases act with
  | call call => exact .inl rfl
  | advance task answers =>
    unfold Pool.step
    dsimp only
    split_ifs
    · exact .inr ⟨task, answers, rfl⟩
    · exact .inl rfl

theorem Sound.step {p} (h : Sound p.shared) (act) : Sound (grantStep p act).2.shared := by
  cases act with
  | coordinator act =>
    show Sound (p.step grantProtocol act).shared
    rcases coordinator_shared p act with heq | ⟨task, answers, heq⟩
    · rw [heq]
      exact h
    · rw [heq]
      exact h.proceed task answers
  | setTemporary expd username password => exact h.setTemporary expd username password
  | clearTemporary => exact h.clearTemporary
  | session rt step => exact h.session rt step
  | stopped rt => exact h.stopped rt

theorem sound_run (gen actions) : Sound (runGrants gen actions).shared := by
  refine run_invariant (I := fun r : Recorded GrantPool GrantAction GrantReply =>
    Sound r.state.shared) ?_ (.init gen) actions
  exact fun r act h => h.step act

/-! ## Behind a clear -/

/-- No credential waits to be installed, and no session can take an open gate. -/
structure Cleared (s : GrantSystem) : Prop where
  sound : Sound s
  temporary : s.temporary = none
  shut : ∀ id served, s.runtimes id = some served → served.stopped = false →
    Shut served.authorization

/-- The proxies go on with the checks they had; their gates may be closed. -/
def Follows (s s' : GrantSystem) : Prop :=
  ∀ id served, s.runtimes id = some served → ∃ after, s'.runtimes id = some after ∧
    after.authorization.checks = served.authorization.checks ∧
    served.authorization.closed ⊆ after.authorization.closed

namespace Cleared

variable {s s' : GrantSystem} {id : Nat} {served : ServedRuntime}

theorem follows_of_runtimes (hrts : s'.runtimes = s.runtimes) : Follows s s' :=
  fun _ served h => ⟨served, hrts ▸ h, rfl, Subset.refl _⟩

theorem follows_update (hserv : s.runtimes id = some served) {after}
    (hrts : s'.runtimes = Function.update s.runtimes id (some after))
    (hchecks : after.authorization.checks = served.authorization.checks)
    (hclos : served.authorization.closed ⊆ after.authorization.closed) : Follows s s' := by
  intro other found hfound
  rw [hrts]
  by_cases hid : other = id
  · subst hid
    rw [hserv] at hfound
    cases hfound
    exact ⟨after, update_self _ _ _, hchecks, hclos⟩
  · exact ⟨found, (update_of_ne hid _ _).trans hfound, rfl, Subset.refl _⟩

theorem update (h : Cleared s) (hsound : Sound s') {after}
    (hrts : s'.runtimes = Function.update s.runtimes id (some after))
    (htemp : s'.temporary = none)
    (hafter : after.stopped = false → Shut after.authorization) : Cleared s' where
  sound := hsound
  temporary := htemp
  shut other found hfound hrun := by
    rw [hrts] at hfound
    rcases of_update hfound with ⟨rfl, ⟨⟩⟩ | ⟨-, hold⟩
    · exact hafter hrun
    · exact h.shut other found hold hrun

theorem regrant_runtimes (h : s.temporary = none) (task) :
    (s.regrant task).runtimes = s.runtimes ∧ (s.regrant task).temporary = none := by
  unfold GrantSystem.regrant
  split
  · split
    · split_ifs
      · exact ⟨rfl, h⟩
      · exact ⟨rfl, rfl⟩
    · exact ⟨rfl, h⟩
  · exact ⟨rfl, rfl⟩
  · split_ifs
    · exact ⟨rfl, h⟩
    · simp only [GrantSystem.reapply, h]
      exact ⟨trivial, trivial⟩
  · exact ⟨rfl, h⟩

theorem proceed (h : Cleared s) (task answers) :
    Cleared (s.proceed task answers).1 ∧ Follows s (s.proceed task answers).1 := by
  have hsound := h.sound.proceed task answers
  cases task with
  | proxy task =>
    obtain ⟨hrts, htemp⟩ := regrant_runtimes h.temporary task
    refine ⟨⟨hsound, htemp, fun id served hserv => ?_⟩, follows_of_runtimes hrts⟩
    exact h.shut id served (hrts ▸ hserv)
  | startCandidate version credentials =>
    unfold GrantSystem.proceed at hsound ⊢
    cases hcand : answers.candidate with
    | error failure => exact ⟨h, follows_of_runtimes rfl⟩
    | ok rt =>
      rw [hcand] at hsound
      refine ⟨h.update hsound rfl h.temporary fun _ => shut_new credentials, ?_⟩
      intro other found hfound
      have hid : other ≠ s.nextRuntime := by
        rintro rfl
        rw [h.sound.fresh _ le_rfl] at hfound
        cases hfound
      exact ⟨found, (update_of_ne hid _ s.runtimes).trans hfound, rfl, Subset.refl _⟩

theorem clearUnderLock_follows {authz}
    (h : Resting authz) : authz.clearUnderLock.checks = authz.checks ∧
      authz.closed ⊆ authz.clearUnderLock.closed := by
  rw [clearUnderLock_eq h.free]
  exact ⟨rfl, subset_append_right _ _⟩

theorem clearTemporary (h : Cleared s) :
    Cleared s.clearTemporary.2 ∧ Follows s s.clearTemporary.2 := by
  have hsound := h.sound.clearTemporary
  rcases Sound.clearTemporary_cases s with ⟨heq, -⟩ | ⟨id, served, -, hserv, heq⟩
  · rw [heq] at hsound ⊢
    exact ⟨⟨hsound, rfl, h.shut⟩, follows_of_runtimes rfl⟩
  · rw [heq] at hsound ⊢
    have hresting := h.sound.resting id served hserv
    obtain ⟨hchecks, hclos⟩ := clearUnderLock_follows hresting
    exact ⟨h.update hsound rfl rfl fun _ => hresting.shut_clearUnderLock,
      follows_update hserv rfl hchecks hclos⟩

theorem setTemporary (h : Cleared s) {expd username password}
    (hfail : (s.setTemporary expd username password).1 = false) :
    Cleared (s.setTemporary expd username password).2 ∧
      Follows s (s.setTemporary expd username password).2 := by
  have hsame : (s.setTemporary expd username password).2 = s := by
    revert hfail
    unfold GrantSystem.setTemporary
    split
    · exact fun _ => rfl
    · split_ifs
      · exact fun _ => rfl
      · split
        · exact fun _ => rfl
        · split_ifs
          · simp
          · exact fun _ => rfl
  rw [hsame]
  exact ⟨h, follows_of_runtimes rfl⟩

theorem stopped (h : Cleared s) (id : Nat) : Cleared (s.stopped id) ∧ Follows s (s.stopped id) := by
  have hsound := h.sound.stopped id
  unfold GrantSystem.stopped at hsound ⊢
  cases hserv : s.runtimes id with
  | none => exact ⟨h, follows_of_runtimes rfl⟩
  | some served =>
    rw [hserv] at hsound
    exact ⟨h.update hsound rfl h.temporary (by simp), follows_update hserv rfl rfl (Subset.refl _)⟩

/-- A clear brings it about when no other proxy has a grant. -/
theorem of_clear (hs : Sound s) (honly : OnlyCurrentGranted s) : Cleared s.clearTemporary.2 := by
  have hsound := hs.clearTemporary
  have hothers : ∀ id served, s.runtimes id = some served → served.stopped = false →
      s.proxy.coordinator.current.map ProxyServingRuntime.id ≠ some id →
      Shut served.authorization := fun id served hserv hrun hcur =>
    (hs.resting id served hserv).coherent.shut (honly id served hserv hrun hcur)
  rcases Sound.clearTemporary_cases s with ⟨heq, hnone⟩ | ⟨id, served, hcur, hserv, heq⟩
  · rw [heq] at hsound ⊢
    exact ⟨hsound, rfl, fun id served hserv hrun =>
      hothers id served hserv hrun (hnone id served hserv)⟩
  · rw [heq] at hsound ⊢
    refine ⟨hsound, rfl, fun other found hfound hrun => ?_⟩
    rcases of_update hfound with ⟨rfl, ⟨⟩⟩ | ⟨hid, hold⟩
    · exact (hs.resting other served hserv).shut_clearUnderLock
    · refine hothers other found hold hrun ?_
      rw [hcur]
      exact fun h => hid (some.inj h).symm

end Cleared

/-! ## The checks behind a clear -/

def BeganIn (history : List GrantEvent) (runtime id : Nat) : Prop :=
  ∃ began ∈ history, ∃ verifier check, began.output = .session runtime (.began id verifier check)

/-- The check, if it still runs, is harmless. -/
def EndsHarmless (served : ServedRuntime) (id : Nat) : Prop :=
  ∀ running, served.authorization.checks id = some running →
    Harmless served.authorization.closed running

theorem advance_reply (s : ServingAuthorization) (id : Nat) (avail : Bool) :
    (s.advance id avail).1 = .nothing ∨ (s.advance id avail).1 = .called id avail ∨
      ∃ ans, (s.advance id avail).1 = .answered id ans := by
  unfold advance
  repeat' split
  all_goals first | exact .inl rfl | exact .inr (.inl rfl) | exact .inr (.inr ⟨_, rfl⟩)

section

variable {served : ServedRuntime} {id : Nat}

theorem session_advance {other avail} (h : EndsHarmless served id) :
    EndsHarmless (served.session (.advance other avail)).2 id ∧
      ∀ ans, (served.session (.advance other avail)).1 = .answered id ans →
        ans.admitsTemporary = false := by
  have hclos := (advance_kept served.authorization other avail).closed
  by_cases hid : id = other
  · subst hid
    cases hrun : served.authorization.checks id with
    | none =>
      have hstep : served.authorization.advance id avail = (.nothing, served.authorization) := by
        simp only [advance, hrun]
      simp only [session, hstep]
      exact ⟨h, by rintro ans ⟨⟩⟩
    | some running =>
      rcases advance_harmless avail hrun (h running hrun) with ⟨ans, hstep, hansw⟩ |
        ⟨stage, hstep, hharm⟩
      · simp only [session, hstep]
        refine ⟨fun after hafter => ?_, fun given heq => by cases heq; exact hansw⟩
        obtain ⟨-, ⟨⟩⟩ | ⟨hid, -⟩ := of_update hafter
        exact absurd rfl hid
      · simp only [session, hstep]
        refine ⟨fun after hafter => ?_, by rintro given ⟨⟩⟩
        rcases of_update hafter with ⟨-, ⟨⟩⟩ | ⟨hid, -⟩
        · exact hharm
        · exact absurd rfl hid
  · refine ⟨fun running hrun => ?_, fun ans heq => ?_⟩
    · have hold : served.authorization.checks id = some running :=
        (advance_checks_of_ne hid avail).symm.trans hrun
      exact hclos ▸ h running hold
    · rcases advance_reply served.authorization other avail with hreply | hreply | ⟨_, hreply⟩
      · cases hreply.symm.trans heq
      · cases hreply.symm.trans heq
      · cases hreply.symm.trans heq
        exact absurd rfl hid

/-- A check that begins with a gate that is closed, and the checks before it. -/
theorem session_begin {verifier check}
    (hshut : served.stopped = false → Shut served.authorization) (h : EndsHarmless served id ∨
      ∃ v c, (served.session (.begin verifier check)).1 = .began id v c) :
    EndsHarmless (served.session (.begin verifier check)).2 id := by
  unfold session begin at h ⊢
  cases hstop : served.stopped with
  | true =>
    rw [hstop] at h
    rcases h with hold | ⟨v, c, heq⟩
    · exact hold
    · cases heq
  | false =>
    rw [hstop] at h
    by_cases hmem : verifier ∈ served.authorization.snapshots
    · simp only [if_pos hmem] at h ⊢
      intro running hrun
      rcases of_update hrun with ⟨rfl, ⟨⟩⟩ | ⟨hid, hbef⟩
      · refine ⟨fun adm hver => ?_, .inl rfl⟩
        exact hshut hstop adm (.inr (hver ▸ hmem))
      · rcases h with hold | ⟨v, c, heq⟩
        · exact hold running hbef
        · cases heq
          exact absurd rfl hid
    · simp only [if_neg hmem] at h ⊢
      rcases h with hold | ⟨v, c, heq⟩
      · exact hold
      · cases heq

theorem session_snapshot (served) : (served.session .snapshot).1 = .nothing ∧
    ∀ id, EndsHarmless served id → EndsHarmless (served.session .snapshot).2 id := by
  unfold session snapshot
  split_ifs
  · exact ⟨rfl, fun _ h => h⟩
  · exact ⟨rfl, fun _ h => h⟩
  · exact ⟨rfl, fun _ h => h⟩

end

variable {served : ServedRuntime}

theorem session_harmless {id : Nat} (step)
    (hshut : served.stopped = false → Shut served.authorization)
    (h : EndsHarmless served id ∨ ∃ v c, (served.session step).1 = .began id v c) :
    EndsHarmless (served.session step).2 id := by
  cases step with
  | snapshot =>
    rcases h with hold | ⟨v, c, heq⟩
    · exact (session_snapshot served).2 id hold
    · cases (session_snapshot served).1.symm.trans heq
  | begin verifier check => exact session_begin hshut h
  | advance other avail =>
    rcases h with hold | ⟨v, c, heq⟩
    · exact (session_advance hold).1
    · rcases advance_reply served.authorization other avail with hreply | hreply | ⟨_, hreply⟩ <;>
        cases hreply.symm.trans heq

theorem session_answered {id ans} (step)
    (h : EndsHarmless served id) (hans : (served.session step).1 = .answered id ans) :
    ans.admitsTemporary = false := by
  cases step with
  | snapshot => cases (session_snapshot served).1.symm.trans hans
  | begin verifier check =>
    unfold session begin at hans
    dsimp only at hans
    split at hans
    · cases hans
    · split at hans <;> cases hans
  | advance other avail => exact (session_advance h).2 ans hans

structure Revoked (r : Recorded GrantPool GrantAction GrantReply) : Prop where
  cleared : Cleared r.state.shared
  began : ∀ runtime id, BeganIn r.history runtime id →
    ∃ served, r.state.shared.runtimes runtime = some served ∧ EndsHarmless served id

namespace Revoked

variable {r : Recorded GrantPool GrantAction GrantReply} {e : GrantEvent} {after : GrantPool}

theorem follow (h : Revoked r) (hclr : Cleared after.shared)
    (hfollows : Follows r.state.shared after.shared)
    (hreply : ∀ rt reply, e.output ≠ .session rt reply) :
    Revoked ⟨after, e :: r.history⟩ ∧ NotTemporary e r.history := by
  refine ⟨⟨hclr, ?_⟩, fun rt id ans heq => absurd heq (hreply rt _)⟩
  rintro rt id ⟨began, hmem, verifier, check, heq⟩
  rcases mem_cons.mp hmem with rfl | hold
  · exact absurd heq (hreply rt _)
  · obtain ⟨served, hserv, hharm⟩ := h.began rt id ⟨began, hold, verifier, check, heq⟩
    obtain ⟨found, hfound, hchecks, hclos⟩ := hfollows rt served hserv
    refine ⟨found, hfound, fun running hrun => ?_⟩
    exact (hharm running (hchecks ▸ hrun)).mono hclos

theorem session (h : Revoked r) (rt step) : Revoked (record grantStep r (.session rt step)) ∧
      NotTemporary ⟨.session rt step, (grantStep r.state (.session rt step)).1,
        (grantStep r.state (.session rt step)).2⟩ r.history := by
  have hsound := h.cleared.sound.session rt step
  have hsession : ∀ reply s', r.state.shared.session rt step = (reply, s') →
      record grantStep r (.session rt step) = ⟨⟨s', r.state.tasks⟩,
        ⟨.session rt step, .session rt reply, ⟨s', r.state.tasks⟩⟩ :: r.history⟩ := by
    intro reply s' heq
    simp only [record, grantStep, heq]
  cases hserv : r.state.shared.runtimes rt with
  | none =>
    have heq : r.state.shared.session rt step = (.nothing, r.state.shared) := by
      simp only [GrantSystem.session, hserv]
    rw [hsession _ _ heq]
    refine ⟨⟨h.cleared, ?_⟩, ?_⟩
    · rintro other id ⟨began, hmem, verifier, check, hbegan⟩
      rcases mem_cons.mp hmem with rfl | hold
      · cases hbegan
      · exact h.began other id ⟨began, hold, verifier, check, hbegan⟩
    · intro other id ans hans
      simp only [grantStep, heq] at hans
      cases hans
  | some served =>
    have heq : r.state.shared.session rt step = ((served.session step).1, { r.state.shared with
          runtimes := update r.state.shared.runtimes rt (some (served.session step).2) }) := by
      simp only [GrantSystem.session, hserv]
    have hshut := h.cleared.shut rt served hserv
    rw [hsession _ _ heq]
    rw [heq] at hsound
    -- What a check of this proxy is after the step, if it began behind the clear.
    have hnext : ∀ id, (BeganIn r.history rt id ∨ ∃ v c, (served.session step).1 = .began id v c) →
        EndsHarmless (served.session step).2 id := by
      intro id hid
      refine session_harmless step hshut (hid.imp_left fun hbegan => ?_)
      obtain ⟨found, hfound, hharm⟩ := h.began rt id hbegan
      rw [hserv] at hfound
      cases hfound
      exact hharm
    refine ⟨⟨h.cleared.update hsound rfl h.cleared.temporary ?_, ?_⟩, ?_⟩
    · intro hrun
      refine (Sound.session_kept served step).shut (hshut ?_)
      revert hrun
      cases step with
      | snapshot | begin verifier check =>
        unfold ServedRuntime.session
        split_ifs with hstop
        · exact fun h => h
        · exact fun _ => Bool.eq_false_iff.mpr hstop
      | advance id avail => exact fun h => h
    · rintro other id ⟨began, hmem, verifier, check, hbegan⟩
      by_cases hid : other = rt
      · subst hid
        refine ⟨(served.session step).2, update_self _ _ _, hnext id ?_⟩
        rcases mem_cons.mp hmem with rfl | hold
        · exact .inr ⟨verifier, check, (GrantReply.session.inj hbegan).2⟩
        · exact .inl ⟨began, hold, verifier, check, hbegan⟩
      · rcases mem_cons.mp hmem with rfl | hold
        · exact absurd (GrantReply.session.inj hbegan).1.symm hid
        · obtain ⟨found, hfound, hharm⟩ := h.began other id ⟨began, hold, verifier, check, hbegan⟩
          exact ⟨found, (update_of_ne hid _ _).trans hfound, hharm⟩
    · rintro other id ans hans hbegan
      simp only [grantStep, heq] at hans
      obtain ⟨rfl, hreply⟩ := GrantReply.session.inj hans
      obtain ⟨found, hfound, hharm⟩ := h.began rt id hbegan
      rw [hserv] at hfound
      cases hfound
      exact session_answered step hharm hreply

theorem step (h : Revoked r) (act) (hset : (grantStep r.state act).1 ≠ .stored true) :
    Revoked (record grantStep r act) ∧ NotTemporary ⟨act, (grantStep r.state act).1,
      (grantStep r.state act).2⟩ r.history := by
  cases act with
  | coordinator act =>
    have hnext : Cleared (r.state.step grantProtocol act).shared ∧
        Follows r.state.shared (r.state.step grantProtocol act).shared := by
      rcases coordinator_shared r.state act with heq | ⟨task, answers, heq⟩
      · rw [heq]
        exact ⟨h.cleared, Cleared.follows_of_runtimes rfl⟩
      · rw [heq]
        exact h.cleared.proceed task answers
    exact h.follow hnext.1 hnext.2 (by rintro rt reply ⟨⟩)
  | setTemporary expd username password =>
    have hfail : (r.state.shared.setTemporary expd username password).1 = false := by
      rw [← Bool.not_eq_true]
      exact fun htrue => hset (congrArg GrantReply.stored htrue)
    obtain ⟨hclr, hfollows⟩ := h.cleared.setTemporary hfail
    exact h.follow hclr hfollows (by rintro rt reply ⟨⟩)
  | clearTemporary =>
    obtain ⟨hclr, hfollows⟩ := h.cleared.clearTemporary
    exact h.follow hclr hfollows (by rintro rt reply ⟨⟩)
  | session rt step => exact h.session rt step
  | stopped rt =>
    obtain ⟨hclr, hfollows⟩ := h.cleared.stopped rt
    exact h.follow hclr hfollows (by rintro rt reply ⟨⟩)

end Revoked

theorem revocationComplete_of_cleared {p} (h : Cleared p.shared) : RevocationComplete p := by
  intro actions hset
  refine always_record (fun r act hr hevent => hr.step act hevent)
    (show Revoked (.init p) from ⟨h, ?_⟩) .nil hset
  rintro rt id ⟨began, hmem, -⟩
  cases hmem

/-! ## A grant that a clear leaves -/

theorem record_session {r id after step reply} (hserv : r.state.shared.runtimes id = some served)
    (hstep : served.session step = (reply, after)) :
    (record grantStep r (.session id step)).state.shared.runtimes id = some after ∧
      ∃ ev : GrantEvent, ev.output = .session id reply ∧
        (record grantStep r (.session id step)).history = ev :: r.history := by
  have heq : r.state.shared.session id step = (reply, { r.state.shared with
      runtimes := update r.state.shared.runtimes id (some after) }) := by
    simp only [GrantSystem.session, hserv, hstep]
  refine ⟨?_, ⟨_, _, _⟩, ?_, rfl⟩
  · simp only [record, grantStep, heq]
    exact update_self _ _ _
  · simp only [heq]

section

variable (authorization : ServingAuthorization) (admission : ProxyCredentialAdmission)

/-- A session has taken the verifier of the grant, and its relay check is at the stage. -/
def relayCheck (stage : CheckStage) : ServedRuntime where
  authorization := { authorization with
    snapshots := .granted admission :: authorization.snapshots
    checks := Function.update authorization.checks authorization.nextCheck
      (some ⟨.granted admission, .relay, stage⟩)
    nextCheck := authorization.nextCheck + 1 }
  stopped := false

variable {authorization admission}

theorem relay_snapshot (hfree : authorization.writer = none)
    (hlive : authorization.live.verifier = .granted admission) :
    ServedRuntime.session ⟨authorization, false⟩ .snapshot = (.nothing, ⟨{ authorization with
        snapshots := .granted admission :: authorization.snapshots }, false⟩) := by
  simp only [session, snapshot, if_pos hfree, hlive, Bool.false_eq_true, if_false]

theorem relay_begin : ServedRuntime.session ⟨{ authorization with
        snapshots := .granted admission :: authorization.snapshots }, false⟩
      (.begin (.granted admission) .relay) =
    (.began authorization.nextCheck (.granted admission) .relay,
      relayCheck authorization admission .started) := by
  simp only [session, begin, relayCheck, mem_cons_self, if_true, Bool.false_eq_true, if_false]

theorem relay_started (avail : Bool) : (relayCheck authorization admission .started).session
      (.advance authorization.nextCheck avail) =
    (.nothing, relayCheck authorization admission (.loading admission.gate)) := by
  simp only [relayCheck, session, advance, update_self, ProxyVerifier.inspect, moveTo, update_idem]

theorem relay_loading (avail : Bool) (hopen : admission.gate ∉ authorization.closed) :
    (relayCheck authorization admission (.loading admission.gate)).session
      (.advance authorization.nextCheck avail) =
    (.nothing, relayCheck authorization admission .asking) := by
  simp only [relayCheck, session, advance, update_self, if_neg hopen, moveTo, update_idem]

theorem relay_asking (avail : Bool) : (relayCheck authorization admission .asking).session
      (.advance authorization.nextCheck avail) = (.called authorization.nextCheck avail,
      relayCheck authorization admission (.returned avail)) := by
  simp only [relayCheck, session, advance, update_self, moveTo, update_idem]

theorem relay_returned (avail returned : Bool) :
    ((relayCheck authorization admission (.returned returned)).session
      (.advance authorization.nextCheck avail)).1 =
    .answered authorization.nextCheck (.relay returned) := by
  simp only [relayCheck, session, advance, update_self, answer, AuthorizationCheck.verdict]

end

/-- A session of a proxy with a grant gets its check through behind the clear. -/
theorem open_grant_answers {p id gate}
    (hserv : p.shared.runtimes id = some served) (hrun : served.stopped = false)
    (hresting : Resting served.authorization)
    (hgate : served.authorization.live.temporaryGenerationGate = some gate) :
    ¬ RevocationComplete p := by
  obtain ⟨-, hopen, adm, hlive, rfl⟩ := hresting.granted gate hgate
  obtain ⟨authz, stopped⟩ := served
  obtain rfl : stopped = false := hrun
  obtain ⟨htaken, e₁, hout₁, hhistory₁⟩ :=
    record_session (r := .init p) hserv (relay_snapshot hresting.free hlive)
  obtain ⟨hstrt, e₂, hout₂, hhistory₂⟩ := record_session htaken relay_begin
  obtain ⟨hloading, e₃, hout₃, hhistory₃⟩ := record_session hstrt (relay_started false)
  obtain ⟨hasking, e₄, hout₄, hhistory₄⟩ := record_session hloading (relay_loading false hopen)
  obtain ⟨hret, e₅, hout₅, hhistory₅⟩ := record_session hasking (relay_asking true)
  obtain ⟨-, e₆, hout₆, hhistory₆⟩ := record_session hret (Prod.eta _).symm
  rw [relay_returned false true] at hout₆
  have hhist : (recordGrants p [.session id .snapshot, .session id (.begin (.granted adm) .relay),
      .session id (.advance authz.nextCheck false), .session id (.advance authz.nextCheck false),
      .session id (.advance authz.nextCheck true),
      .session id (.advance authz.nextCheck false)]).history = [e₆, e₅, e₄, e₃, e₂, e₁] := by
    rw [hhistory₅, hhistory₄, hhistory₃, hhistory₂, hhistory₁] at hhistory₆
    exact hhistory₆
  intro hcomp
  have hquiet := hcomp _ (by
    rw [hhist]
    intro e hmem
    simp only [mem_cons, not_mem_nil, or_false] at hmem
    rcases hmem with rfl | rfl | rfl | rfl | rfl | rfl
    all_goals simp only [hout₁, hout₂, hout₃, hout₄, hout₅, hout₆, ne_eq, reduceCtorEq,
      not_false_eq_true])
  rw [hhist] at hquiet
  have hansw := hquiet [] e₆ _ rfl id _ _ hout₆ ⟨e₂, by simp, _, _, hout₂⟩
  cases hansw

/-- A clear returns true, and behind it no check that starts is answered for a temporary grant
until a set succeeds, exactly when no other proxy has a grant while its sessions run. -/
theorem clear_revokes_iff (generation : RuntimeGeneration) (actions : List GrantAction) :
    (grantStep (runGrants generation actions) .clearTemporary).1 = .cleared true ∧
      (RevocationComplete (grantStep (runGrants generation actions) .clearTemporary).2 ↔
        OnlyCurrentGranted (runGrants generation actions).shared) := by
  have hsound := sound_run generation actions
  generalize runGrants generation actions = p at hsound
  have hcases := Sound.clearTemporary_cases p.shared
  constructor
  · refine congrArg GrantReply.cleared ?_
    rcases hcases with ⟨heq, -⟩ | ⟨id, served, -, -, heq⟩ <;> rw [heq]
  · refine ⟨fun hcomplete id served hserved hrunning hcurrent => ?_,
      fun honly => revocationComplete_of_cleared (.of_clear hsound honly)⟩
    by_contra hgate
    obtain ⟨gate, hgate⟩ := ne_none_iff_exists'.mp hgate
    -- The clear does not reach this proxy.
    have hkept : (grantStep p .clearTemporary).2.shared.runtimes id = some served := by
      show p.shared.clearTemporary.2.runtimes id = some served
      rcases hcases with ⟨heq, -⟩ | ⟨current, found, hfound, -, heq⟩
      · rw [heq]
        exact hserved
      · rw [heq]
        have hid : id ≠ current := fun h => hcurrent (h ▸ hfound)
        exact (update_of_ne hid _ p.shared.runtimes).trans hserved
    exact open_grant_answers hkept hrunning (hsound.resting id served hserved) hgate hcomplete

/-! ## A proxy that failed and is not yet stopped -/

def guestMaterial : ProxyCredentialMaterial :=
  ⟨"guest".toList, "guest-secret".toList, by decide, by decide⟩

def guestAdmission : ProxyCredentialAdmission :=
  ⟨sampleMaterial, guestMaterial, 0, by decide, by decide⟩

def grantSection (task : GrantTask) : GrantAction :=
  .coordinator (.advance task ⟨.ok sampleProxy, .ok meshAdmitted, true, true⟩)

/-- The first proxy is started, and the guest is granted access. -/
def grantedStart : List GrantAction :=
  [.coordinator (.call (.start sampleInput)), grantSection (.proxy (.call (.start sampleInput))),
    grantSection (.startCandidate 51 sampleMaterial),
    grantSection (.proxy (.finishStarted ⟨0⟩ 51)), grantSection (.proxy (.stillCurrent ⟨0⟩ 1 51)),
    grantSection (.proxy (.installProxy ⟨0⟩ 1 51)),
    grantSection (.proxy (.observeInstalled 1 51 meshAdmitted)),
    grantSection (.proxy (.readCredentials 1 51)),
    grantSection (.proxy (.observeProxyStarted 1 51 sampleMaterial)),
    grantSection (.proxy (.publishRunning 1)),
    .setTemporary none "guest".toList "guest-secret".toList]

/-- It reports its terminal failure, which takes it out of the place of the current proxy. -/
def reportedFailure : List GrantAction :=
  [.coordinator (.call (.terminalFailure 1 .servingUnhealthy)),
    grantSection (.proxy (.call (.terminalFailure 1 .servingUnhealthy)))]

/-- The guest logs in, and the relay of the session is checked. -/
def guestSession : List GrantAction :=
  [.snapshot, .begin (.granted guestAdmission)
      (.classify (.usernamePassword (utf8 guestMaterial.username) (utf8 guestMaterial.password))),
    .advance 0 true, .advance 0 true, .advance 0 true, .advance 0 true,
    .begin (.granted guestAdmission) .relay,
    .advance 1 true, .advance 1 true, .advance 1 true, .advance 1 true].map (.session 0)

/-- The clear of a credential whose proxy has failed returns true; the guest is admitted behind it
and the relay goes on. -/
theorem clear_misses_failed_runtime :
    let p := runGrants sampleGeneration (grantedStart ++ reportedFailure)
    let later :=
      (recordGrants (grantStep p .clearTemporary).2 guestSession).history.map Event.output
    (grantStep p .clearTemporary).1 = .cleared true ∧
      .session 0 (.answered 0 (.classified (some .temporary))) ∈ later ∧
      .session 0 (.answered 1 (.relay true)) ∈ later := by
  decide +kernel

end MishProxy.Serving
