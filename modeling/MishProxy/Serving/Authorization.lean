import MishProxy.Serving.Authentication

/-!
# Temporary grants in one serving runtime

The runtime has one verifier behind a read-write lock. A session takes the verifier once, under
the read lock, and uses it for the rest of its life; a temporary grant is therefore revoked
through a gate that all copies of its verifier share. Setting, replacing and clearing a grant
close the gate of the grant before under the write lock and then install the next verifier.

A check is not one step: the login is compared, the gate is loaded and the callback is asked,
and the steps of other threads may come between these. The callback belongs to the owner of the
credentials, so its answer is an input.

* `temporary_grants_gated`: over every interleaving.
-/

namespace MishProxy.Serving

open Machine List Function

structure LiveProxyAuthorization where
  verifier : ProxyVerifier
  temporaryGenerationGate : Option Nat
  deriving DecidableEq

inductive CheckStage where
  | started
  | loading (gate : Nat)
  | asking
  | returned (available : Bool)
  deriving DecidableEq

structure RunningCheck where
  verifier : ProxyVerifier
  check : AuthorizationCheck
  stage : CheckStage
  deriving DecidableEq

structure ServingAuthorization where
  primary : ProxyCredentialMaterial
  live : LiveProxyAuthorization
  /-- The gates that store `false`; every other gate stores `true`. -/
  closed : List Nat
  nextGate : Nat
  /-- The verifiers of the writes that wait for the lock. -/
  waiting : List ProxyVerifier
  /-- The write that has the lock and has closed the gate before it. -/
  writer : Option ProxyVerifier
  snapshots : List ProxyVerifier
  checks : Nat → Option RunningCheck
  nextCheck : Nat

inductive AuthorizationStep where
  | setTemporary (temporary : ProxyCredentialMaterial)
  | clearTemporary
  | lock (verifier : ProxyVerifier)
  | install
  | snapshot
  | begin (verifier : ProxyVerifier) (check : AuthorizationCheck)
  | advance (id : Nat) (available : Bool)
  deriving DecidableEq

inductive AuthorizationReply where
  | nothing
  | refused (error : ProxyPolicyError)
  | installed (verifier : ProxyVerifier)
  | began (id : Nat) (verifier : ProxyVerifier) (check : AuthorizationCheck)
  | called (id : Nat) (available : Bool)
  | answered (id : Nat) (answer : CheckAnswer)
  deriving DecidableEq

def ProxyVerifier.gate : ProxyVerifier → Option Nat
  | .material _ => none
  | .granted admission => some admission.gate

namespace ServingAuthorization

def new (primary : ProxyCredentialMaterial) : ServingAuthorization where
  primary := primary
  live := ⟨.material primary, none⟩
  closed := []
  nextGate := 0
  waiting := []
  writer := none
  snapshots := []
  checks := fun _ => none
  nextCheck := 0

variable (s : ServingAuthorization)

/-- The part of `set_temporary_credential` before the lock. -/
def setTemporary (temporary : ProxyCredentialMaterial) :
    AuthorizationReply × ServingAuthorization :=
  match ProxyCredentialAdmission.withTemporary s.primary temporary s.nextGate with
  | .error error => (.refused error, s)
  | .ok admission =>
    (.nothing, { s with nextGate := s.nextGate + 1, waiting := .granted admission :: s.waiting })

def clearTemporary : AuthorizationReply × ServingAuthorization :=
  (.nothing, { s with waiting := .material s.primary :: s.waiting })

/-- A write takes the lock, takes the gate of the live verifier and stores `false` in it. -/
def lock (verifier : ProxyVerifier) : AuthorizationReply × ServingAuthorization :=
  if verifier ∈ s.waiting ∧ s.writer = none then
    (.nothing, { s with
      waiting := s.waiting.erase verifier
      writer := some verifier
      live := ⟨s.live.verifier, none⟩
      closed := s.live.temporaryGenerationGate.toList ++ s.closed })
  else (.nothing, s)

/-- The write installs its verifier and releases the lock. -/
def install : AuthorizationReply × ServingAuthorization :=
  match s.writer with
  | some verifier =>
    (.installed verifier, { s with live := ⟨verifier, verifier.gate⟩, writer := none })
  | none => (.nothing, s)

def snapshot : AuthorizationReply × ServingAuthorization :=
  if s.writer = none then (.nothing, { s with snapshots := s.live.verifier :: s.snapshots })
  else (.nothing, s)

def begin (verifier : ProxyVerifier) (check : AuthorizationCheck) :
    AuthorizationReply × ServingAuthorization :=
  if verifier ∈ s.snapshots then
    (.began s.nextCheck verifier check, { s with
      checks := Function.update s.checks s.nextCheck (some ⟨verifier, check, .started⟩)
      nextCheck := s.nextCheck + 1 })
  else (.nothing, s)

def moveTo (id : Nat) (running : RunningCheck) (stage : CheckStage) : ServingAuthorization :=
  { s with checks := Function.update s.checks id (some { running with stage := stage }) }

def answer (id : Nat) (answer : CheckAnswer) : AuthorizationReply × ServingAuthorization :=
  (.answered id answer, { s with checks := Function.update s.checks id none })

def advance (id : Nat) (available : Bool) : AuthorizationReply × ServingAuthorization :=
  match s.checks id with
  | none => (.nothing, s)
  | some running =>
    match running.stage with
    | .started =>
      match running.verifier.inspect running.check with
      | .answered answer => s.answer id answer
      | .gated gate => (.nothing, s.moveTo id running (.loading gate))
    | .loading gate =>
      if gate ∈ s.closed then s.answer id (running.check.verdict false)
      else (.nothing, s.moveTo id running .asking)
    | .asking => (.called id available, s.moveTo id running (.returned available))
    | .returned returned => s.answer id (running.check.verdict returned)

def step : AuthorizationStep → AuthorizationReply × ServingAuthorization
  | .setTemporary temporary => s.setTemporary temporary
  | .clearTemporary => s.clearTemporary
  | .lock verifier => s.lock verifier
  | .install => s.install
  | .snapshot => s.snapshot
  | .begin verifier check => s.begin verifier check
  | .advance id available => s.advance id available

end ServingAuthorization

open ServingAuthorization

theorem of_update {α : Type} {f : Nat → Option α} {id other : Nat} {value : Option α} {found : α}
    (h : Function.update f id value other = some found) :
    other = id ∧ value = some found ∨ other ≠ id ∧ f other = some found := by
  by_cases hid : other = id
  · subst hid
    exact .inl ⟨rfl, update_self other value f ▸ h⟩
  · exact .inr ⟨hid, update_of_ne hid value f ▸ h⟩

abbrev AuthorizationEvent : Type :=
  Event ServingAuthorization AuthorizationStep AuthorizationReply

abbrev RecordedAuthorization : Type :=
  Recorded ServingAuthorization AuthorizationStep AuthorizationReply

def runAuthorization (primary : ProxyCredentialMaterial) (steps : List AuthorizationStep) :
    RecordedAuthorization :=
  run (record ServingAuthorization.step) (.init (.new primary)) steps

/-! ## What the history says about a check -/

section

variable (id : Nat) (admission : ProxyCredentialAdmission) (history : List AuthorizationEvent)

def Unanswered (e : AuthorizationEvent) : Prop := ∀ answer, e.output ≠ .answered id answer

/-- The grant was installed and neither cleared nor replaced since. -/
def LastInstalled : Prop :=
  Since (fun e => ∀ verifier, e.output ≠ .installed verifier)
    (fun e _ => e.output = .installed (.granted admission)) history

/-- The check began and is not answered; `P` holds of the history before it. -/
def Began (verifier : ProxyVerifier) (check : AuthorizationCheck)
    (P : List AuthorizationEvent → Prop) : Prop :=
  Since (Unanswered id) (fun e before => e.output = .began id verifier check ∧ P before) history

/-- The callback returned during the check. -/
def Called (verifier : ProxyVerifier) (check : AuthorizationCheck) (available : Bool)
    (P : List AuthorizationEvent → Prop) : Prop :=
  Since (Unanswered id) (fun e before => e.output = .called id available ∧
    Began id before verifier check P) history

end

/-- The check is answered for this grant when the callback allows it. -/
def ProxyCredentialAdmission.Concerns (admission : ProxyCredentialAdmission) :
    AuthorizationCheck → Prop
  | .classify login => admission.temporary.Presented login
  | .relay => True

/-- What one event says about the check it belongs to, in view of the history before it. -/
structure Classified (primary : ProxyCredentialMaterial) (e : AuthorizationEvent)
    (history : List AuthorizationEvent) : Prop where
  /-- The grant was the one installed when the check began, and the callback returned true. -/
  temporary : ∀ id answer, e.output = .answered id answer → answer.admitsTemporary = true →
    ∃ admission check, ProxyCredentialAdmission.Concerns admission check ∧
      Called id history (.granted admission) check true (LastInstalled admission)
  /-- The first step of a check of a login with the primary credential answers it. -/
  primary : ∀ id verifier login, Began id history verifier (.classify login) (fun _ => True) →
    primary.Presented login →
    (∀ available, e.input = .advance id available → ∃ answer, e.output = .answered id answer) ∧
      ∀ answer, e.output = .answered id answer → answer = .classified (some .primary)

/-! ## The gates -/

def ProxyVerifier.primary : ProxyVerifier → ProxyCredentialMaterial
  | .material primary => primary
  | .granted admission => admission.primary

/-- Every verifier in use knows the primary credential, and every grant but the live one is
closed; during a write the live one is closed too. -/
structure Coherent (s : ServingAuthorization) : Prop where
  gate : ∀ admission, s.live.verifier = .granted admission →
    s.live.temporaryGenerationGate = some admission.gate ∨ admission.gate ∈ s.closed
  locked : s.writer ≠ none →
    ∀ admission, s.live.verifier = .granted admission → admission.gate ∈ s.closed
  snapshots : ∀ admission, .granted admission ∈ s.snapshots →
    admission.gate ∈ s.closed ∨ s.live.verifier = .granted admission
  live_primary : s.live.verifier.primary = s.primary
  waiting_primary : ∀ verifier ∈ s.waiting, verifier.primary = s.primary
  writer_primary : ∀ verifier ∈ s.writer, verifier.primary = s.primary
  snapshots_primary : ∀ verifier ∈ s.snapshots, verifier.primary = s.primary

open ProxyCredentialAdmission

namespace Coherent

variable {s : ServingAuthorization}

theorem new (primary) : Coherent (.new primary) where
  gate adm h := by cases h
  locked h := absurd rfl h
  snapshots adm h := by cases h
  live_primary := rfl
  waiting_primary verifier h := by cases h
  writer_primary verifier h := by cases h
  snapshots_primary verifier h := by cases h

variable (h : Coherent s)
include h

theorem setTemporary (temporary) : Coherent (s.setTemporary temporary).2 := by
  unfold ServingAuthorization.setTemporary
  cases hadm : withTemporary s.primary temporary s.nextGate with
  | error error => exact h
  | ok adm =>
    have hprim : adm.primary = s.primary := by
      unfold withTemporary at hadm
      split at hadm
      · cases hadm
      · split at hadm
        · cases hadm
          rfl
        · cases hadm
    exact { h with waiting_primary := forall_mem_cons.mpr ⟨hprim, h.waiting_primary⟩ }

theorem clearTemporary : Coherent s.clearTemporary.2 :=
  { h with waiting_primary := forall_mem_cons.mpr ⟨rfl, h.waiting_primary⟩ }

theorem lock (verifier) : Coherent (s.lock verifier).2 := by
  unfold ServingAuthorization.lock
  by_cases hfree : verifier ∈ s.waiting ∧ s.writer = none
  · rw [if_pos hfree]
    -- The gate of the live grant is closed by this step, or was closed before.
    have hclos : ∀ adm, s.live.verifier = .granted adm →
        adm.gate ∈ s.live.temporaryGenerationGate.toList ++ s.closed := by
      intro adm hlive
      rcases h.gate adm hlive with hgate | hgate
      · rw [hgate]
        exact .head _
      · exact mem_append_right _ hgate
    exact
      { h with
        gate := fun adm hlive => .inr (hclos adm hlive)
        locked := fun _ => hclos
        snapshots := fun adm hmem => (h.snapshots adm hmem).imp_left (mem_append_right _)
        waiting_primary := fun v hv => h.waiting_primary v (mem_of_mem_erase hv)
        writer_primary := fun v hv => h.waiting_primary v (Option.some.inj hv ▸ hfree.1) }
  · rw [if_neg hfree]
    exact h

theorem install : Coherent s.install.2 := by
  unfold ServingAuthorization.install
  cases hwriter : s.writer with
  | none => exact h
  | some verifier =>
    have hlocked := h.locked (by rw [hwriter]; exact Option.some_ne_none verifier)
    exact
      { h with
        gate := fun adm hlive => .inl (by rw [show verifier = _ from hlive]; rfl)
        locked := fun hnone => absurd rfl hnone
        snapshots := fun adm hmem =>
          .inl ((h.snapshots adm hmem).elim id (hlocked adm))
        live_primary := h.writer_primary verifier hwriter
        writer_primary := fun v hv => by cases hv }

theorem snapshot : Coherent s.snapshot.2 := by
  unfold ServingAuthorization.snapshot
  by_cases hfree : s.writer = none
  · rw [if_pos hfree]
    refine { h with snapshots := ?_, snapshots_primary := ?_ }
    · intro adm hmem
      rcases mem_cons.mp hmem with hlive | hold
      · exact .inr hlive.symm
      · exact h.snapshots adm hold
    · exact forall_mem_cons.mpr ⟨h.live_primary, h.snapshots_primary⟩
  · rw [if_neg hfree]
    exact h

end Coherent

/-! ## The checks -/

section

variable {id : Nat} {hist : List AuthorizationEvent} {e : AuthorizationEvent}
  {verifier : ProxyVerifier} {check : AuthorizationCheck}
  {P P' : List AuthorizationEvent → Prop}

theorem Began.cons (h : Began id hist verifier check P) (he : Unanswered id e) :
    Began id (e :: hist) verifier check P := Since.cons h he

theorem Began.imp (h : Began id hist verifier check P) (hP : ∀ before, P before → P' before) :
    Began id hist verifier check P' := Since.imp h fun _ before hb => ⟨hb.1, hP before hb.2⟩

/-- What is known of a check at its stage. Before the gate is loaded, the grant was the last one
installed when the check began or its gate is closed by now. -/
def StageFacts (closed : List Nat) (history : List AuthorizationEvent) (id : Nat)
    (verifier : ProxyVerifier) (check : AuthorizationCheck) : CheckStage → Prop
  | .started => Began id history verifier check fun before =>
      ∀ admission, verifier = .granted admission →
        admission.gate ∈ closed ∨ LastInstalled admission before
  | .loading gate => ∃ admission, verifier = .granted admission ∧ admission.gate = gate ∧
      admission.Concerns check ∧ Began id history verifier check fun before =>
        admission.gate ∈ closed ∨ LastInstalled admission before
  | .asking => ∃ admission, verifier = .granted admission ∧ admission.Concerns check ∧
      Began id history verifier check (LastInstalled admission)
  | .returned available => ∃ admission, verifier = .granted admission ∧ admission.Concerns check ∧
      Called id history verifier check available (LastInstalled admission)

theorem StageFacts.cons {closed closed' stage}
    (h : StageFacts closed hist id verifier check stage) (he : Unanswered id e)
    (hclos : closed ⊆ closed') : StageFacts closed' (e :: hist) id verifier check stage := by
  cases stage with
  | started =>
    have hbegan : Began id hist verifier check _ := h
    exact (hbegan.imp fun before hbef adm hv => (hbef adm hv).imp_left (@hclos _)).cons he
  | loading gate =>
    obtain ⟨adm, hv, hgate, hconc, hbegan⟩ := h
    refine ⟨adm, hv, hgate, hconc, (hbegan.imp fun before hbef => ?_).cons he⟩
    exact hbef.imp_left (@hclos _)
  | asking =>
    obtain ⟨adm, hv, hconc, hbegan⟩ := h
    exact ⟨adm, hv, hconc, hbegan.cons he⟩
  | returned avail =>
    obtain ⟨adm, hv, hconc, hcalled⟩ := h
    exact ⟨adm, hv, hconc, Since.cons hcalled he⟩

end

structure RunningFacts (s : ServingAuthorization) (history : List AuthorizationEvent) (id : Nat)
    (running : RunningCheck) : Prop where
  primary : running.verifier.primary = s.primary
  stage : StageFacts s.closed history id running.verifier running.check running.stage
  /-- A login with the primary credential is answered before the gate matters. -/
  primary_login : ∀ login, running.check = .classify login → s.primary.Presented login →
    running.stage = .started

structure Gated (r : RecordedAuthorization) : Prop where
  coherent : Coherent r.state
  live : ∀ admission, r.state.live.verifier = .granted admission → LastInstalled admission r.history
  running : ∀ id running, r.state.checks id = some running →
    RunningFacts r.state r.history id running
  began : ∀ id verifier check, Began id r.history verifier check (fun _ => True) →
    ∃ stage, r.state.checks id = some ⟨verifier, check, stage⟩
  fresh : ∀ id, r.state.nextCheck ≤ id → r.state.checks id = none

namespace Gated

variable {r : RecordedAuthorization} {s : ServingAuthorization} {e : AuthorizationEvent}

theorem init (primary) : Gated (.init (.new primary)) where
  coherent := .new primary
  live adm h := by cases h
  running id running h := by cases h
  began id verifier check h := by
    obtain ⟨newer, e, older, heq, -⟩ := h
    cases newer <;> cases heq
  fresh id _ := rfl

theorem began_of_cons {id verifier check P} (h : Began id (e :: r.history) verifier check P)
    (hbegan : e.output ≠ .began id verifier check) : Began id r.history verifier check P := by
  rcases since_cons_iff.mp h with hnow | hbef
  · exact absurd hnow.1 hbegan
  · exact hbef.2

variable (h : Gated r)
include h

theorem frame (hcoh : Coherent s) (hlive : ∀ adm, s.live.verifier = .granted adm →
      LastInstalled adm (e :: r.history))
    (hchecks : s.checks = r.state.checks) (hnext : s.nextCheck = r.state.nextCheck)
    (hprim : s.primary = r.state.primary) (hclos : r.state.closed ⊆ s.closed)
    (hans : ∀ id, Unanswered id e)
    (hbegan : ∀ id verifier check, e.output ≠ .began id verifier check) :
    Gated ⟨s, e :: r.history⟩ where
  coherent := hcoh
  live := hlive
  running id running hrun := by
    have hfacts := h.running id running (hchecks ▸ hrun)
    exact ⟨hprim ▸ hfacts.primary, hfacts.stage.cons (hans id) hclos, hprim ▸ hfacts.primary_login⟩
  began id verifier check hb := by
    rw [show (Recorded.mk s (e :: r.history)).state.checks = r.state.checks from hchecks]
    exact h.began id verifier check (began_of_cons hb (hbegan id verifier check))
  fresh id hid := by
    rw [show (Recorded.mk s (e :: r.history)).state.checks = r.state.checks from hchecks]
    exact h.fresh id (hnext ▸ hid)

theorem live_cons (hinst : ∀ verifier, e.output ≠ .installed verifier)
    {adm} (hlive : r.state.live.verifier = .granted adm) : LastInstalled adm (e :: r.history) :=
  Since.cons (h.live adm hlive) hinst

/-- A step of a write or of a session that takes the verifier, with the reply it gives. -/
theorem frame_quiet (hcoh : Coherent s) (hlive : s.live.verifier = r.state.live.verifier)
    (hchecks : s.checks = r.state.checks) (hnext : s.nextCheck = r.state.nextCheck)
    (hprim : s.primary = r.state.primary) (hclos : r.state.closed ⊆ s.closed)
    (hreply : e.output = .nothing ∨ ∃ error, e.output = .refused error) :
    Gated ⟨s, e :: r.history⟩ := by
  refine h.frame hcoh ?_ hchecks hnext hprim hclos ?_ ?_
  · intro adm hgrt
    refine h.live_cons ?_ (hlive ▸ hgrt)
    rcases hreply with heq | ⟨error, heq⟩ <;> rw [heq] <;> rintro verifier ⟨⟩
  · rcases hreply with heq | ⟨error, heq⟩ <;> rintro id ans hout <;> rw [heq] at hout <;>
      cases hout
  · rcases hreply with heq | ⟨error, heq⟩ <;> rw [heq] <;> rintro id verifier check ⟨⟩

theorem setTemporary (temporary) : Gated (record step r (.setTemporary temporary)) := by
  have hcoh := h.coherent.setTemporary temporary
  show Gated ⟨(r.state.setTemporary temporary).2, ⟨_, (r.state.setTemporary temporary).1, _⟩ :: _⟩
  revert hcoh
  unfold ServingAuthorization.setTemporary
  cases withTemporary r.state.primary temporary r.state.nextGate with
  | error error =>
    exact fun hcoh => h.frame_quiet hcoh rfl rfl rfl rfl (Subset.refl _) (.inr ⟨error, rfl⟩)
  | ok adm => exact fun hcoh => h.frame_quiet hcoh rfl rfl rfl rfl (Subset.refl _) (.inl rfl)

theorem lock (verifier) : Gated (record step r (.lock verifier)) := by
  have hcoh := h.coherent.lock verifier
  show Gated ⟨(r.state.lock verifier).2, ⟨_, (r.state.lock verifier).1, _⟩ :: _⟩
  revert hcoh
  unfold ServingAuthorization.lock
  by_cases hfree : verifier ∈ r.state.waiting ∧ r.state.writer = none
  · rw [if_pos hfree]
    exact fun hcoh => h.frame_quiet hcoh rfl rfl rfl rfl (subset_append_right _ _) (.inl rfl)
  · rw [if_neg hfree]
    exact fun hcoh => h.frame_quiet hcoh rfl rfl rfl rfl (Subset.refl _) (.inl rfl)

theorem install : Gated (record step r .install) := by
  have hcoh := h.coherent.install
  show Gated ⟨r.state.install.2, ⟨_, r.state.install.1, _⟩ :: _⟩
  revert hcoh
  unfold ServingAuthorization.install
  cases r.state.writer with
  | none => exact fun hcoh => h.frame_quiet hcoh rfl rfl rfl rfl (Subset.refl _) (.inl rfl)
  | some verifier =>
    intro hcoh
    refine h.frame hcoh ?_ rfl rfl rfl (Subset.refl _) ?_ ?_
    · intro adm hlive
      rw [show verifier = _ from hlive]
      exact Since.now rfl
    · rintro id ans ⟨⟩
    · rintro id verifier check ⟨⟩

theorem snapshot : Gated (record step r .snapshot) := by
  have hcoh := h.coherent.snapshot
  show Gated ⟨r.state.snapshot.2, ⟨_, r.state.snapshot.1, _⟩ :: _⟩
  revert hcoh
  unfold ServingAuthorization.snapshot
  by_cases hfree : r.state.writer = none
  · rw [if_pos hfree]
    exact fun hcoh => h.frame_quiet hcoh rfl rfl rfl rfl (Subset.refl _) (.inl rfl)
  · rw [if_neg hfree]
    exact fun hcoh => h.frame_quiet hcoh rfl rfl rfl rfl (Subset.refl _) (.inl rfl)

theorem begin (verifier check) : Gated (record step r (.begin verifier check)) := by
  show Gated ⟨(r.state.begin verifier check).2, ⟨_, (r.state.begin verifier check).1, _⟩ :: _⟩
  unfold ServingAuthorization.begin
  by_cases hmem : verifier ∈ r.state.snapshots
  · rw [if_pos hmem]
    refine ⟨{ h.coherent with }, ?_, ?_, ?_, ?_⟩
    · intro adm hlive
      exact h.live_cons (by rintro v ⟨⟩) hlive
    · intro id running hrun
      rcases of_update hrun with ⟨rfl, ⟨⟩⟩ | ⟨-, hold⟩
      · refine ⟨h.coherent.snapshots_primary verifier hmem, Since.now ⟨rfl, ?_⟩, fun _ _ _ => rfl⟩
        rintro adm rfl
        exact (h.coherent.snapshots adm hmem).imp_right (h.live adm)
      · have hfacts := h.running id running hold
        exact ⟨hfacts.primary, hfacts.stage.cons (by rintro ans ⟨⟩) (Subset.refl _),
          hfacts.primary_login⟩
    · intro id v c hbegan
      rcases since_cons_iff.mp hbegan with ⟨hnow, -⟩ | ⟨-, hbef⟩
      · cases hnow
        exact ⟨.started, update_self _ _ _⟩
      · obtain ⟨stage, hstg⟩ := h.began id v c hbef
        have hid : id ≠ r.state.nextCheck := by
          rintro rfl
          rw [h.fresh _ le_rfl] at hstg
          cases hstg
        exact ⟨stage, (update_of_ne hid _ _).trans hstg⟩
    · intro id hid
      have hne : id ≠ r.state.nextCheck := Nat.ne_of_gt hid
      exact (update_of_ne hne _ r.state.checks).trans (h.fresh id (Nat.le_of_succ_le hid))
  · rw [if_neg hmem]
    exact h.frame_quiet h.coherent rfl rfl rfl rfl (Subset.refl _) (.inl rfl)

variable {id : Nat} {running : RunningCheck} {input : AuthorizationStep}

theorem moveTo (hrun : r.state.checks id = some running) {stage reply}
    (hreply : reply = .nothing ∨ ∃ avail, reply = .called id avail)
    (hstg : ∀ after, StageFacts r.state.closed (⟨input, reply, after⟩ :: r.history) id
      running.verifier running.check stage)
    (hprim : ∀ login, running.check = .classify login → ¬ r.state.primary.Presented login) :
    Gated ⟨r.state.moveTo id running stage,
      ⟨input, reply, r.state.moveTo id running stage⟩ :: r.history⟩ := by
  refine ⟨{ h.coherent with }, ?_, ?_, ?_, ?_⟩
  · intro adm hlive
    refine h.live_cons ?_ hlive
    rcases hreply with rfl | ⟨avail, rfl⟩ <;> rintro v ⟨⟩
  · intro other c hc
    rcases of_update hc with ⟨rfl, ⟨⟩⟩ | ⟨-, hold⟩
    · exact ⟨(h.running other running hrun).primary, hstg _,
        fun login hcheck hlogin => absurd hlogin (hprim login hcheck)⟩
    · have hfacts := h.running other c hold
      refine ⟨hfacts.primary, hfacts.stage.cons ?_ (Subset.refl _), hfacts.primary_login⟩
      rcases hreply with rfl | ⟨avail, rfl⟩ <;> rintro ans ⟨⟩
  · intro other v c hbegan
    have hbef : Began other r.history v c (fun _ => True) := by
      refine began_of_cons hbegan ?_
      rcases hreply with rfl | ⟨avail, rfl⟩ <;> rintro ⟨⟩
    obtain ⟨old, hold⟩ := h.began other v c hbef
    by_cases hid : other = id
    · subst hid
      rw [hrun] at hold
      cases hold
      exact ⟨stage, update_self _ _ _⟩
    · exact ⟨old, (update_of_ne hid _ _).trans hold⟩
  · intro other hoth
    have hid : other ≠ id := by
      rintro rfl
      rw [h.fresh other hoth] at hrun
      cases hrun
    exact (update_of_ne hid _ r.state.checks).trans (h.fresh other hoth)

theorem answer (ans) : Gated ⟨(r.state.answer id ans).2,
      ⟨input, (r.state.answer id ans).1, (r.state.answer id ans).2⟩ :: r.history⟩ := by
  refine ⟨{ h.coherent with }, ?_, ?_, ?_, ?_⟩
  · intro adm hlive
    exact h.live_cons (by rintro v ⟨⟩) hlive
  · intro other c hc
    obtain ⟨-, ⟨⟩⟩ | ⟨hid, hold⟩ := of_update hc
    have hfacts := h.running other c hold
    refine ⟨hfacts.primary, hfacts.stage.cons ?_ (Subset.refl _), hfacts.primary_login⟩
    rintro ans heq
    cases heq
    exact hid rfl
  · intro other v c hbegan
    rcases since_cons_iff.mp hbegan with ⟨hnow, -⟩ | ⟨hunanswered, hbef⟩
    · cases hnow
    · obtain ⟨stage, hstg⟩ := h.began other v c hbef
      have hid : other ≠ id := by
        rintro rfl
        exact hunanswered ans rfl
      exact ⟨stage, (update_of_ne hid _ _).trans hstg⟩
  · intro other hoth
    by_cases hid : other = id
    · subst hid
      exact update_self _ _ _
    · exact (update_of_ne hid _ r.state.checks).trans (h.fresh other hoth)

end Gated

/-! ## What a check answers -/

variable {verifier : ProxyVerifier}

theorem inspect_primary {login} (h : verifier.primary.Presented login) :
    verifier.inspect (.classify login) = .answered (.classified (some .primary)) := by
  have hmatches := ProxyCredentialMaterial.matches_iff.mpr h
  cases verifier with
  | material primary =>
    exact congrArg (fun principal => Inspection.answered (.classified principal))
      (if_pos hmatches)
  | granted adm => exact if_pos hmatches

variable {check : AuthorizationCheck}

theorem inspect_answered {ans} (h : verifier.inspect check = .answered ans) :
    ans.admitsTemporary = false := by
  cases verifier with
  | material primary =>
    cases check with
    | classify login =>
      cases h
      simp only [CheckAnswer.admitsTemporary, decide_eq_false_iff_not]
      split <;> rintro ⟨⟩
    | relay =>
      cases h
      rfl
  | granted adm =>
    cases check with
    | classify login =>
      simp only [ProxyVerifier.inspect] at h
      split at h
      · cases h
        rfl
      · split at h
        · cases h
        · cases h
          rfl
    | relay => cases h

theorem inspect_gated {gate : Nat} (h : verifier.inspect check = .gated gate) :
    ∃ adm, verifier = .granted adm ∧ adm.gate = gate ∧ adm.Concerns check := by
  cases verifier with
  | material primary => cases check <;> cases h
  | granted adm =>
    cases check with
    | classify login =>
      simp only [ProxyVerifier.inspect] at h
      split at h
      · cases h
      · split at h
        case isTrue hmatches =>
          cases h
          exact ⟨adm, rfl, rfl, ProxyCredentialMaterial.matches_iff.mp hmatches⟩
        case isFalse => cases h
    | relay =>
      cases h
      exact ⟨adm, rfl, rfl, trivial⟩

theorem verdict_admits {avail : Bool} (h : (check.verdict avail).admitsTemporary = true) :
    avail = true := by
  cases avail with
  | true => rfl
  | false => cases check <;> cases h

section

variable {r : RecordedAuthorization} {e : AuthorizationEvent} {id : Nat} {running : RunningCheck}

theorem Classified.of_quiet {primary hist} (hans : ∀ id, Unanswered id e)
    (hinput : ∀ id avail, e.input ≠ .advance id avail) : Classified primary e hist where
  temporary id ans heq _ := absurd heq (hans id ans)
  primary id _ _ _ _ :=
    ⟨fun avail heq => absurd heq (hinput id avail), fun ans heq => absurd heq (hans id ans)⟩

/-- A step of a check that is not one of a login with the primary credential. -/
theorem Classified.of_running (h : Gated r) (hrun : r.state.checks id = some running)
    (hlogin : ∀ login, running.check = .classify login → ¬ r.state.primary.Presented login)
    (hinput : ∀ other avail, e.input = .advance other avail → other = id)
    (hoth : ∀ other, other ≠ id → Unanswered other e)
    (htemp : ∀ ans, e.output = .answered id ans → ans.admitsTemporary = true →
      ∃ adm check, adm.Concerns check ∧
        Called id r.history (.granted adm) check true (LastInstalled adm)) :
    Classified r.state.primary e r.history where
  temporary other ans heq := by
    by_cases hid : other = id
    · subst hid
      exact htemp ans heq
    · exact absurd heq (hoth other hid ans)
  primary other verifier login hbegan hpres := by
    have hid : other ≠ id := by
      rintro rfl
      obtain ⟨stage, hstg⟩ := h.began other verifier _ hbegan
      rw [hrun] at hstg
      cases hstg
      exact hlogin login rfl hpres
    exact ⟨fun avail heq => absurd (hinput other avail heq) hid,
      fun ans heq => absurd heq (hoth other hid ans)⟩

end

/-- One step, with the invariant behind it and what its event says. -/
def Kept (r : RecordedAuthorization) (input : AuthorizationStep) : Prop :=
  Gated (record ServingAuthorization.step r input) ∧
    Classified r.state.primary ⟨input, (r.state.step input).1, (r.state.step input).2⟩ r.history

section

variable {r : RecordedAuthorization} {input : AuthorizationStep} {reply : AuthorizationReply}
  {after : ServingAuthorization} {id : Nat} {avail : Bool} {running : RunningCheck}

theorem Kept.of_eq (hstep : r.state.step input = (reply, after))
    (hgated : Gated ⟨after, ⟨input, reply, after⟩ :: r.history⟩)
    (hclassified : Classified r.state.primary ⟨input, reply, after⟩ r.history) : Kept r input := by
  have hrecord : record step r input =
      ⟨after, ⟨input, reply, after⟩ :: r.history⟩ := by rw [record, hstep]
  rw [Kept, hrecord, hstep]
  exact ⟨hgated, hclassified⟩

theorem advance_injective {other more}
    (h : AuthorizationStep.advance id avail = .advance other more) : other = id := by
  cases h
  rfl

variable (h : Gated r)
include h

theorem kept_absent (hrun : r.state.checks id = none) : Kept r (.advance id avail) := by
  have hstep : r.state.step (.advance id avail) = (.nothing, r.state) := by
    simp only [step, advance, hrun]
  refine .of_eq hstep
    (h.frame_quiet h.coherent rfl rfl rfl rfl (Subset.refl _) (.inl rfl)) ⟨?_, ?_⟩
  · rintro other ans ⟨⟩
  · intro other verifier login hbegan _
    obtain ⟨stage, hstg⟩ := h.began other verifier _ hbegan
    refine ⟨fun _ heq => ?_, by rintro ans ⟨⟩⟩
    cases advance_injective heq
    rw [hrun] at hstg
    cases hstg

variable (hrun : r.state.checks id = some running)
include hrun

theorem kept_started (hat : running.stage = .started) : Kept r (.advance id avail) := by
  have hfacts := h.running id running hrun
  have hstg := hfacts.stage
  rw [hat] at hstg
  have hinspected : ∀ login, running.check = .classify login → r.state.primary.Presented login →
      running.verifier.inspect running.check = .answered (.classified (some .primary)) := by
    intro login hcheck hpres
    rw [hcheck, inspect_primary (hfacts.primary.symm ▸ hpres)]
  cases hinsp : running.verifier.inspect running.check with
  | answered ans =>
    have hstep : r.state.step (.advance id avail) = r.state.answer id ans := by
      simp only [step, advance, hrun, hat, hinsp]
    refine .of_eq hstep (h.answer ans) ⟨?_, ?_⟩
    · intro other given heq hadmits
      cases heq
      rw [inspect_answered hinsp] at hadmits
      cases hadmits
    · intro other verifier login hbegan hpres
      obtain ⟨stage, hoth⟩ := h.began other verifier _ hbegan
      refine ⟨fun more heq => ⟨ans, by cases advance_injective heq; rfl⟩, fun given heq => ?_⟩
      cases heq
      rw [hrun] at hoth
      cases hoth
      rw [hinspected login rfl hpres] at hinsp
      cases hinsp
      rfl
  | gated gate =>
    have hstep : r.state.step (.advance id avail) =
        (.nothing, r.state.moveTo id running (.loading gate)) := by
      simp only [step, advance, hrun, hat, hinsp]
    obtain ⟨adm, hver, hgate, hconc⟩ := inspect_gated hinsp
    have hprim : ∀ login, running.check = .classify login → ¬ r.state.primary.Presented login := by
      intro login hcheck hpres
      rw [hinspected login hcheck hpres] at hinsp
      cases hinsp
    have hbegan : Began id r.history running.verifier running.check fun before =>
        adm.gate ∈ r.state.closed ∨ LastInstalled adm before :=
      Began.imp hstg fun before hbef => hbef adm hver
    refine .of_eq hstep (h.moveTo hrun (.inl rfl) (fun after => ?_) hprim)
      (.of_running h hrun hprim (fun _ _ => advance_injective)
        (by rintro other _ ans ⟨⟩) (by rintro ans ⟨⟩))
    exact ⟨adm, hver, hgate, hconc, hbegan.cons (by rintro ans ⟨⟩)⟩

variable (hprim : ∀ login, running.check = .classify login → ¬ r.state.primary.Presented login)
include hprim

theorem kept_verdict {allowed : Bool}
    (hstep : r.state.step (.advance id avail) = r.state.answer id (running.check.verdict allowed))
    (hallw : allowed = true → ∃ adm check, adm.Concerns check ∧
      Called id r.history (.granted adm) check true (LastInstalled adm)) :
    Kept r (.advance id avail) := by
  refine .of_eq hstep (h.answer _)
    (.of_running h hrun hprim (fun _ _ => advance_injective) ?_ ?_)
  · rintro other hne ans heq
    cases heq
    exact hne rfl
  · intro ans heq hadmits
    cases heq
    exact hallw (verdict_admits hadmits)

theorem kept_loading {gate : Nat} (hat : running.stage = .loading gate) :
    Kept r (.advance id avail) := by
  have hstg := (h.running id running hrun).stage
  rw [hat] at hstg
  obtain ⟨adm, hver, rfl, hconc, hbegan⟩ := hstg
  by_cases hclos : adm.gate ∈ r.state.closed
  · have hstep : r.state.step (.advance id avail) =
        r.state.answer id (running.check.verdict false) := by
      simp only [step, advance, hrun, hat, if_pos hclos]
    exact kept_verdict h hrun hprim hstep (by simp)
  · have hstep : r.state.step (.advance id avail) =
        (.nothing, r.state.moveTo id running .asking) := by
      simp only [step, advance, hrun, hat, if_neg hclos]
    refine .of_eq hstep (h.moveTo hrun (.inl rfl) (fun after => ?_) hprim)
      (.of_running h hrun hprim (fun _ _ => advance_injective)
        (by rintro other _ ans ⟨⟩) (by rintro ans ⟨⟩))
    exact ⟨adm, hver, hconc, (hbegan.imp fun before hbef =>
      hbef.resolve_left hclos).cons (by rintro ans ⟨⟩)⟩

theorem kept_asking (hat : running.stage = .asking) : Kept r (.advance id avail) := by
  have hstg := (h.running id running hrun).stage
  rw [hat] at hstg
  obtain ⟨adm, hver, hconc, hbegan⟩ := hstg
  have hstep : r.state.step (.advance id avail) =
      (.called id avail, r.state.moveTo id running (.returned avail)) := by
    simp only [step, advance, hrun, hat]
  refine .of_eq hstep (h.moveTo hrun (.inr ⟨avail, rfl⟩) (fun after => ?_) hprim)
    (.of_running h hrun hprim (fun _ _ => advance_injective)
      (by rintro other _ ans ⟨⟩) (by rintro ans ⟨⟩))
  exact ⟨adm, hver, hconc, Since.now ⟨rfl, hbegan⟩⟩

theorem kept_returned {returned : Bool} (hat : running.stage = .returned returned) :
    Kept r (.advance id avail) := by
  have hstg := (h.running id running hrun).stage
  rw [hat] at hstg
  obtain ⟨adm, hver, hconc, hcalled⟩ := hstg
  have hstep : r.state.step (.advance id avail) =
      r.state.answer id (running.check.verdict returned) := by
    simp only [step, advance, hrun, hat]
  refine kept_verdict h hrun hprim hstep ?_
  rintro rfl
  exact ⟨adm, running.check, hconc, hver ▸ hcalled⟩

omit hrun hprim

theorem kept_advance : Kept r (.advance id avail) := by
  cases hrun : r.state.checks id with
  | none => exact kept_absent h hrun
  | some running =>
    -- Past its first stage a check is not one of a login with the primary credential.
    have hlogin : running.stage ≠ .started → ∀ login, running.check = .classify login →
        ¬ r.state.primary.Presented login := fun hne login hcheck hpres =>
      hne ((h.running id running hrun).primary_login login hcheck hpres)
    cases hat : running.stage with
    | started => exact kept_started h hrun hat
    | loading gate => exact kept_loading h hrun (hlogin (by rw [hat]; rintro ⟨⟩)) hat
    | asking => exact kept_asking h hrun (hlogin (by rw [hat]; rintro ⟨⟩)) hat
    | returned returned => exact kept_returned h hrun (hlogin (by rw [hat]; rintro ⟨⟩)) hat

end

theorem Gated.step {r} (h : Gated r) (input) : Kept r input := by
  cases input with
  | setTemporary temporary =>
    refine ⟨h.setTemporary temporary, .of_quiet ?_ (by rintro id avail ⟨⟩)⟩
    intro id ans
    simp only [ServingAuthorization.step, ServingAuthorization.setTemporary]
    split <;> rintro ⟨⟩
  | clearTemporary =>
    exact ⟨h.frame_quiet h.coherent.clearTemporary rfl rfl rfl rfl (Subset.refl _) (.inl rfl),
      .of_quiet (by rintro id ans ⟨⟩) (by rintro id avail ⟨⟩)⟩
  | lock verifier =>
    refine ⟨h.lock verifier, .of_quiet ?_ (by rintro id avail ⟨⟩)⟩
    intro id ans
    simp only [ServingAuthorization.step, ServingAuthorization.lock]
    split <;> rintro ⟨⟩
  | install =>
    refine ⟨h.install, .of_quiet ?_ (by rintro id avail ⟨⟩)⟩
    intro id ans
    simp only [ServingAuthorization.step, ServingAuthorization.install]
    split <;> rintro ⟨⟩
  | snapshot =>
    refine ⟨h.snapshot, .of_quiet ?_ (by rintro id avail ⟨⟩)⟩
    intro id ans
    simp only [ServingAuthorization.step, ServingAuthorization.snapshot]
    split <;> rintro ⟨⟩
  | begin verifier check =>
    refine ⟨h.begin verifier check, .of_quiet ?_ (by rintro id avail ⟨⟩)⟩
    intro id ans
    simp only [ServingAuthorization.step, ServingAuthorization.begin]
    split <;> rintro ⟨⟩
  | advance id avail => exact kept_advance h

theorem step_primary (s : ServingAuthorization) (input : AuthorizationStep) :
    (s.step input).2.primary = s.primary := by
  cases input with
  | setTemporary temporary =>
    simp only [step, setTemporary]
    split <;> rfl
  | clearTemporary => rfl
  | lock verifier =>
    simp only [step, lock]
    split <;> rfl
  | install =>
    simp only [step, install]
    split <;> rfl
  | snapshot =>
    simp only [step, snapshot]
    split <;> rfl
  | begin verifier check =>
    simp only [step, begin]
    split <;> rfl
  | advance id avail =>
    simp only [step, advance]
    repeat' split
    all_goals rfl

/-- A check that starts behind a clear or a replacement is never answered for the old grant, a
temporary answer has a callback that returned true during the check, and a login with the primary
credential is answered as the primary. -/
theorem temporary_grants_gated (primary : ProxyCredentialMaterial)
    (steps : List AuthorizationStep) :
    Always (Classified primary) (runAuthorization primary steps).history := by
  have hstep : ∀ r input, Gated r ∧ r.state.primary = primary → True →
      (Gated (record step r input) ∧
        (record step r input).state.primary = primary) ∧
      Classified primary (eventOf step r.state input) r.history := by
    rintro r input ⟨hgated, hprimary⟩ -
    obtain ⟨hnext, hclassified⟩ := hgated.step input
    exact ⟨⟨hnext, (step_primary r.state input).trans hprimary⟩, hprimary ▸ hclassified⟩
  exact always_record hstep ⟨.init primary, rfl⟩ .nil fun _ _ => trivial

end MishProxy.Serving
