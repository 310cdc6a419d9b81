import MishProxy.Probing.Coordinator

/-!
# Ready is never stale

The projected readiness is stored and not recomputed while a refresh is on its way. What
makes the stored value right is an invariant of whole runs: a ticket is current only as long
as the facts for which it was handed out stand, so the last accepted completion is about the
present facts; and after it either the timer of the present epoch is armed or the next ticket
is out.

The epoch of the timers wraps around at 64 bits. It is bumped once for each marker that was
allocated, so it does not get there while allocations succeed (`Sound.markers`).

`ready_fresh` is the result.
-/

namespace MishProxy.Probing

open Machine ReadinessRuntime List Option EgressProbeCoordinator

/-! ## The past of a run -/

def ChangesFacts (e : ReadinessEntry) : Prop :=
  (∃ ticket, e.output = .changed ticket) ∨ e.output = .closed

def AcceptsCompletion (e : ReadinessEntry) : Prop :=
  ∃ observation, e.output = .completed observation

/-- The ticket was handed out after the last change of a fact. -/
def Issued (ticket : ProbeTicket) : List ReadinessEntry → Prop :=
  Since (fun e => ¬ ChangesFacts e) fun e _ =>
    e.output = .changed (some ticket) ∨ e.output = .refreshed ticket

/-- The last accepted completion was a success in time, of a ticket of this binding that was
handed out after the last change of a fact. -/
def FreshSuccess (binding : ProbeBinding) : List ReadinessEntry → Prop :=
  Since (fun e => ¬ AcceptsCompletion e ∧ ¬ ChangesFacts e) fun e older =>
    ∃ ticket elapsed, e.input = .completeProbe ticket .succeeded elapsed ∧ AcceptsCompletion e ∧
      elapsed < defaultEgressProbeBudget ∧ ticket.binding = binding ∧ Issued ticket older

namespace ReadinessRuntime

variable {s next : ReadinessRuntime} {binding : ProbeBinding}

/-- The facts allow a probe of this binding and the credentials for it are there. -/
structure Supported (s : ReadinessRuntime) (binding : ProbeBinding) : Prop where
  eligible : s.eligibility = .eligible binding
  credentials : s.credentialsCurrent binding = true

theorem eligibility_congr (h : next.facts = s.facts) : next.eligibility = s.eligibility := by
  have hfacts : ∀ s : ReadinessRuntime,
      s.eligibility = probeEligibility (inputFor s.facts .new none) := fun _ => rfl
  rw [hfacts, hfacts, h]

theorem nextEpoch_eq (h : s.refreshEpoch < maxFreshness) : s.nextEpoch = s.refreshEpoch + 1 := by
  unfold maxFreshness at h
  exact Nat.mod_eq_of_lt (by omega)

theorem exists_of_bind_eq_ok {ε α β : Type} {x : Except ε α} {f : α → Except ε β} {b : β}
    (h : (x >>= f) = .ok b) : ∃ a, x = .ok a ∧ f a = .ok b := by
  cases x with
  | error e => cases h
  | ok a => exact ⟨a, rfl, h⟩

/-- An update brings credentials with an active version, or drops them together with it, or
leaves them. -/
theorem resolve_credentials {facts : StructuralFacts} {credentials : Option ProbeCredentials}
    {update : FactUpdate} {after : Update} (h : update.resolve facts credentials = .ok after) :
    after.credentials = credentials ∨
      (∃ version username password, after.credentials = some ⟨version, username, password⟩ ∧
        after.facts.credential = some ⟨version, true⟩) ∨
      ∀ version, after.facts.credential ≠ some ⟨version, true⟩ := by
  cases update with
  | cellularAdmission adm | cellular publication | mesh adm =>
    obtain ⟨_, _, hafter⟩ := exists_of_bind_eq_ok h
    cases hafter
    exact .inl rfl
  | proxyStarted servingGeneration credentialVersion username password =>
    obtain ⟨version, _, hrest⟩ := exists_of_bind_eq_ok h
    obtain ⟨_, _, hafter⟩ := exists_of_bind_eq_ok hrest
    cases hafter
    exact .inr (.inl ⟨version, username, password, rfl, rfl⟩)
  | proxyStopped =>
    cases h
    exact .inr (.inr (by simp))
  | credential version active =>
    obtain ⟨version, _, hafter⟩ := exists_of_bind_eq_ok h
    cases hafter
    cases active with
    | true => exact .inl rfl
    | false => exact .inr (.inr (by cases version <;> simp))

/-- An update that changes no fact leaves the credentials of an eligible binding. -/
theorem Supported.of_unchanged {update : FactUpdate} {after : Update}
    (hsup : s.Supported binding) (h : update.resolve s.facts s.credentials = .ok after)
    (hfacts : after.facts = s.facts) :
    Supported { s with facts := after.facts, credentials := after.credentials } binding := by
  have hcredential : after.facts.credential = some ⟨binding.credentialVersion, true⟩ := by
    rw [hfacts]
    exact credential_of_eligible hsup.eligible
  refine ⟨(eligibility_congr hfacts).trans hsup.eligible, ?_⟩
  rcases resolve_credentials h with hkept | ⟨version, username, password, hnew, hversion⟩ | hdropped
  · have := hsup.credentials
    simpa only [credentialsCurrent, hkept] using this
  · have hsame : version = binding.credentialVersion := by
      simpa using hversion.symm.trans hcredential
    simp [credentialsCurrent, hnew, hsame]
  · exact absurd hcredential (hdropped _)

/-! ## What the steps do -/

variable {ticket : ProbeTicket}

theorem issue_eq_ok (h : s.issue binding = .ok (ticket, next)) :
    s.probe.lastFreshness < maxFreshness ∧ ticket.binding = binding ∧ next = { s with
        probe := ⟨s.probe.lastFreshness + 1, some ticket⟩
        probeInFlight := true
        starting := ticket :: s.starting } := by
  unfold issue at h
  rw [begin_eq] at h
  split_ifs at h with hleft
  · cases h
    exact ⟨hleft, rfl, rfl⟩
  · cases h

/-- The state after a change of a fact, before a ticket is handed out. -/
def cleared (s : ReadinessRuntime) : ReadinessRuntime :=
  { s with
    refreshEpoch := s.nextEpoch
    refreshPending := false
    probeInFlight := false
    probe := ⟨s.probe.lastFreshness + 1, none⟩
    observation := none
    projected := project (inputFor s.facts ⟨s.probe.lastFreshness + 1, none⟩ none) }

theorem cleared_projected (s : ReadinessRuntime) : s.cleared.projected ≠ .ready := by
  intro hready
  obtain ⟨probe, hprobe, _⟩ := project_eq_ready_iff.mp hready
  cases hprobe

/-- The ticket that the facts allow, when they allow one. -/
def offerTicket (s : ReadinessRuntime) : ReadinessReply × ReadinessRuntime :=
  match s.eligibility with
  | .eligible binding =>
    if s.credentialsCurrent binding then
      match s.issue binding with
      | .error _ => (.exhausted, s)
      | .ok (ticket, s) => (.changed (some ticket), s)
    else (.changed none, s)
  | _ => (.changed none, s)

theorem reproject_cases {reply} (h : s.reproject = (reply, next)) (halloc : reply ≠ .exhausted) :
    s.probe.lastFreshness < maxFreshness ∧ (reply = .changed none ∧ next = s.cleared ∨
        ∃ binding ticket, s.cleared.Supported binding ∧
          s.cleared.issue binding = .ok (ticket, next) ∧
          reply = .changed (some ticket)) := by
  unfold reproject at h
  simp only [invalidate_eq] at h
  split_ifs at h with hleft
  · refine ⟨hleft, ?_⟩
    change s.cleared.offerTicket = (reply, next) at h
    unfold offerTicket at h
    split at h
    · rename_i binding helig
      split_ifs at h with hcred
      · split at h
        · cases h
          exact absurd rfl halloc
        · rename_i ticket after hissue
          cases h
          exact .inr ⟨binding, ticket, ⟨helig, hcred⟩, hissue, rfl⟩
      · cases h
        exact .inl ⟨rfl, rfl⟩
    · cases h
      exact .inl ⟨rfl, rfl⟩
  · cases h
    exact absurd rfl halloc

theorem observe_cases (s : ReadinessRuntime) (update : FactUpdate) :
    (∃ error, s.observe update = (.rejected error, s)) ∨
      ∃ after, update.resolve s.facts s.credentials = .ok after ∧
        (after.facts = s.facts ∧ s.observe update =
            (.unchanged, { s with facts := after.facts, credentials := after.credentials }) ∨
          s.observe update =
            reproject { s with facts := after.facts, credentials := after.credentials }) := by
  cases hresv : update.resolve s.facts s.credentials with
  | error error => exact .inl ⟨error, by simp only [observe, hresv]⟩
  | ok after =>
    have hobs : s.observe update = s.updateStructural after := by simp only [observe, hresv]
    rw [hobs]
    unfold updateStructural
    split_ifs with hclos hfacts
    · exact .inl ⟨_, rfl⟩
    · exact .inr ⟨after, rfl, .inl ⟨hfacts, rfl⟩⟩
    · exact .inr ⟨after, rfl, .inr rfl⟩

def completion (ticket : ProbeTicket) (outcome : ProbeOutcome) (elapsed : Nat) :
    EgressProbeObservation :=
  ⟨classifyOutcome outcome (decide (defaultEgressProbeBudget ≤ elapsed)), ticket.binding,
    ticket.freshness⟩

variable {out : ProbeOutcome}

theorem completion_succeeded {elapsed : Nat}
    (h : (completion ticket out elapsed).outcome = .succeeded) :
    out = .succeeded ∧ elapsed < defaultEgressProbeBudget := by
  unfold completion classifyOutcome at h
  split_ifs at h with hlate
  exact ⟨h, by simpa using hlate⟩

/-- The completion of the current ticket, when the facts still allow its binding. -/
theorem completeProbe_of_current {elapsed : Nat} (hopen : s.closed = false)
    (hcur : s.probe.current = some ticket)
    (helig : s.eligibility = .eligible ticket.binding) : s.completeProbe ticket out elapsed =
      (.completed (completion ticket out elapsed), { s with
        running := s.running.erase ticket
        probe := { s.probe with current := none }
        probeInFlight := false
        observation := some (completion ticket out elapsed)
        projected := project (inputFor s.facts { s.probe with current := none }
          (some (completion ticket out elapsed)))
        refreshEpoch := s.nextEpoch
        refreshPending := true
        timers := ⟨s.nextEpoch, ticket.binding⟩ :: s.timers }) := by
  unfold completeProbe completeBounded
  simp only [hopen, Bool.false_eq_true, if_false, hcur, ne_eq, not_true_eq_false]
  exact (if_pos helig).trans rfl

theorem completeProbe_of_not_current {elapsed : Nat}
    (h : s.closed = true ∨ s.probe.current ≠ some ticket) : s.completeProbe ticket out elapsed =
      (.ignored, { s with running := s.running.erase ticket }) := by
  unfold completeProbe completeBounded
  rcases h with hclos | hother
  · simp [hclos]
  · simp [hother]

theorem fireRefresh_of_dead {timer} (hmem : timer ∈ s.timers)
    (hdead : s.closed = true ∨ s.refreshPending = false ∨ s.refreshEpoch ≠ timer.epoch) :
    s.fireRefresh timer = (.ignored, { s with timers := s.timers.erase timer }) := by
  unfold fireRefresh
  rw [if_pos hmem]
  refine if_pos ?_
  rcases hdead with hclos | hidle | hepoch
  · simp [hclos]
  · simp [hidle]
  · simp [hepoch]

/-- The timer of a pending refresh has been taken. -/
def refreshing (timer : RefreshTimer) (s : ReadinessRuntime) : ReadinessRuntime :=
  { s with timers := s.timers.erase timer, refreshPending := false }

/-- What a timer makes of the ticket it asked for. -/
def refreshed (s : ReadinessRuntime) :
    Except EgressProbeError (ProbeTicket × ReadinessRuntime) → ReadinessReply × ReadinessRuntime
  | .error _ => (.exhausted, s)
  | .ok (ticket, s) => (.refreshed ticket, s)

theorem fireRefresh_of_live {timer} (hmem : timer ∈ s.timers)
    (hopen : s.closed = false) (hpend : s.refreshPending = true)
    (hepoch : s.refreshEpoch = timer.epoch) (helig : s.eligibility = .eligible timer.binding)
    (halloc : (s.fireRefresh timer).1 ≠ .exhausted) :
    ∃ ticket next, (s.refreshing timer).issue timer.binding = .ok (ticket, next) ∧
      s.fireRefresh timer = (.refreshed ticket, next) := by
  have hfire : s.fireRefresh timer =
      (s.refreshing timer).refreshed ((s.refreshing timer).issue timer.binding) := by
    unfold fireRefresh
    rw [if_pos hmem]
    refine (if_neg ?_).trans (if_pos helig)
    simp [hopen, hpend, hepoch]
  rw [hfire] at halloc ⊢
  cases hissue : (s.refreshing timer).issue timer.binding with
  | error error =>
    rw [hissue] at halloc
    exact absurd rfl halloc
  | ok res => exact ⟨res.1, res.2, rfl, rfl⟩

end ReadinessRuntime

/-! ## The invariant -/

structure Sound (s : ReadinessRuntime) (history : List ReadinessEntry) : Prop where
  opened : s.closed = false
  markers : s.refreshEpoch + s.probe.current.toList.length ≤ s.probe.lastFreshness ∧
    s.probe.lastFreshness ≤ maxFreshness
  timers : ∀ timer ∈ s.timers, timer.epoch ≤ s.refreshEpoch
  current : ∀ ticket ∈ s.probe.current, s.Supported ticket.binding ∧ Issued ticket history ∧
    s.probeInFlight = true ∧ (ticket ∈ s.starting ∨ ticket ∈ s.running)
  pending : s.refreshPending = true → ∃ binding, s.Supported binding ∧
    ⟨s.refreshEpoch, binding⟩ ∈ s.timers ∧
    ∀ timer ∈ s.timers, timer.epoch = s.refreshEpoch → timer.binding = binding
  ready : s.projected = .ready → ∃ binding, s.Supported binding ∧ FreshSuccess binding history ∧
    (s.refreshPending = true ∨ ∃ ticket ∈ s.probe.current, ticket.binding = binding)

/-- The runtime is open and sound, or it is closed and not ready. -/
def NeverStale (r : ReadinessRun) : Prop :=
  Sound r.state r.history ∨ r.state.closed = true ∧ r.state.projected ≠ .ready

open ReadinessRuntime

namespace Sound

variable {s next : ReadinessRuntime} {hist : List ReadinessEntry} {e : ReadinessEntry}

/-- A step that only moves tasks, or looks up the credentials of an eligible binding. -/
theorem keep (h : Sound s hist) (hquiet : ¬ AcceptsCompletion e ∧ ¬ ChangesFacts e)
    (hclos : next.closed = s.closed) (hprobe : next.probe = s.probe)
    (hproj : next.projected = s.projected)
    (hepoch : next.refreshEpoch = s.refreshEpoch) (hpend : next.refreshPending = s.refreshPending)
    (hfly : next.probeInFlight = s.probeInFlight)
    (hsup : ∀ binding, s.Supported binding → next.Supported binding)
    (htix : ∀ ticket ∈ s.probe.current, s.Supported ticket.binding →
      ticket ∈ s.starting ∨ ticket ∈ s.running → ticket ∈ next.starting ∨ ticket ∈ next.running)
    (htimers : ∀ timer ∈ next.timers, timer ∈ s.timers)
    (hlive : s.refreshPending = true → ∀ timer ∈ s.timers, timer.epoch = s.refreshEpoch →
      timer ∈ next.timers) : Sound next (e :: hist) where
  opened := hclos.trans h.opened
  markers := by
    rw [hprobe, hepoch]
    exact h.markers
  timers := by
    rw [hepoch]
    exact fun timer htimer => h.timers timer (htimers timer htimer)
  current := by
    rw [hprobe, hfly]
    intro ticket hticket
    obtain ⟨hbinding, hissued, hflight, htask⟩ := h.current ticket hticket
    exact ⟨hsup _ hbinding, hissued.cons hquiet.2, hflight, htix ticket hticket hbinding htask⟩
  pending := by
    rw [hpend, hepoch]
    intro hpend
    obtain ⟨binding, hbinding, htimer, honly⟩ := h.pending hpend
    exact ⟨binding, hsup _ hbinding, hlive hpend _ htimer rfl,
      fun timer hmem => honly timer (htimers timer hmem)⟩
  ready := by
    rw [hproj, hpend, hprobe]
    intro hready
    obtain ⟨binding, hbinding, hfresh, hnext⟩ := h.ready hready
    exact ⟨binding, hsup _ hbinding, hfresh.cons hquiet, hnext⟩

theorem ignore (h : Sound s hist) (hquiet : ¬ AcceptsCompletion e ∧ ¬ ChangesFacts e) :
    Sound s (e :: hist) :=
  h.keep hquiet rfl rfl rfl rfl rfl rfl (fun _ hsup => hsup) (fun _ _ _ htask => htask)
    (fun _ htimer => htimer) fun _ _ htimer _ => htimer

theorem issue {binding ticket act reply} (hissue : s.issue binding = .ok (ticket, next))
    (hreply : reply = .changed (some ticket) ∨ reply = .refreshed ticket)
    (hopen : s.closed = false) (hsup : s.Supported binding)
    (hmarkers : s.refreshEpoch ≤ s.probe.lastFreshness)
    (htimers : ∀ timer ∈ s.timers, timer.epoch ≤ s.refreshEpoch) (hpend : s.refreshPending = false)
    (hready : s.projected = .ready → FreshSuccess binding (⟨act, reply, next⟩ :: hist)) :
    Sound next (⟨act, reply, next⟩ :: hist) := by
  obtain ⟨hleft, hbinding, rfl⟩ := issue_eq_ok hissue
  have hkept : Supported { s with
      probe := ⟨s.probe.lastFreshness + 1, some ticket⟩
      probeInFlight := true
      starting := ticket :: s.starting } binding := ⟨hsup.eligible, hsup.credentials⟩
  refine ⟨hopen, ⟨?_, hleft⟩, htimers, ?_, ?_, ?_⟩
  · exact Nat.add_le_add_right hmarkers 1
  · intro other hoth
    cases hoth
    exact ⟨hbinding ▸ hkept, Since.now hreply, rfl, .inl (.head _)⟩
  · exact fun htrue => absurd (hpend.symm.trans htrue) (by simp)
  · exact fun hproj => ⟨binding, hkept, hready hproj, .inr ⟨ticket, rfl, hbinding⟩⟩

variable (h : Sound s hist)
include h

/-- A fact changed: nothing of the past counts any more. -/
theorem reproject {facts credentials reply act}
    (hstep : reproject { s with facts, credentials } = (reply, next))
    (halloc : reply ≠ .exhausted) : Sound next (⟨act, reply, next⟩ :: hist) := by
  obtain ⟨hleft, hcases⟩ := reproject_cases hstep halloc
  have hmarkers := h.markers.1
  have hepoch : nextEpoch { s with facts, credentials } = s.refreshEpoch + 1 :=
    nextEpoch_eq (by
      have := hleft
      simp only at this ⊢
      omega)
  have hclr : (cleared { s with facts, credentials }).refreshEpoch = s.refreshEpoch + 1 := hepoch
  have hlast : (cleared { s with facts, credentials }).probe.lastFreshness =
      s.probe.lastFreshness + 1 := rfl
  have htimers : ∀ timer ∈ s.timers,
      timer.epoch ≤ (cleared { s with facts, credentials }).refreshEpoch := by
    intro timer htimer
    have := h.timers timer htimer
    omega
  have hnotReady := cleared_projected { s with facts, credentials }
  rcases hcases with ⟨rfl, rfl⟩ | ⟨binding, ticket, hsup, hissue, rfl⟩
  · refine ⟨h.opened, ⟨?_, hleft⟩, htimers, by rintro _ ⟨⟩, by rintro ⟨⟩,
      fun hready => absurd hready hnotReady⟩
    rw [hclr, hlast]
    simp only [cleared, toList_none, length_nil]
    omega
  · refine Sound.issue hissue (.inl rfl) h.opened hsup ?_ htimers rfl
      fun hready => absurd hready hnotReady
    omega

theorem complete (ticket out elapsed) : Sound (s.completeProbe ticket out elapsed).2
      (⟨.completeProbe ticket out elapsed, (s.completeProbe ticket out elapsed).1,
        (s.completeProbe ticket out elapsed).2⟩ :: hist) := by
  by_cases hcur : s.probe.current = some ticket
  · obtain ⟨hsup, hissued, _, _⟩ := h.current ticket hcur
    have hmarkers := h.markers
    rw [hcur, toList_some, length_singleton] at hmarkers
    have hepoch : s.nextEpoch = s.refreshEpoch + 1 :=
      nextEpoch_eq (Nat.lt_of_lt_of_le hmarkers.1 hmarkers.2)
    rw [completeProbe_of_current h.opened hcur hsup.eligible]
    refine ⟨h.opened, ⟨?_, hmarkers.2⟩, ?_, by simp, fun _ => ?_, fun hready => ?_⟩
    · simp only [toList_none, length_nil, hepoch]
      exact hmarkers.1
    · simp only [hepoch, forall_mem_cons]
      exact ⟨Nat.le_refl _, fun timer htimer => Nat.le_succ_of_le (h.timers timer htimer)⟩
    · refine ⟨ticket.binding, ⟨hsup.eligible, hsup.credentials⟩, .head _, ?_⟩
      rw [forall_mem_cons]
      refine ⟨fun _ => rfl, fun timer htimer heq => ?_⟩
      -- the timers of earlier epochs are dead
      have hold := h.timers timer htimer
      simp only [hepoch] at heq
      omega
    · obtain ⟨probe, hprobe, _, _, hout⟩ := project_eq_ready_iff.mp hready
      cases hprobe
      obtain ⟨rfl, hearly⟩ := completion_succeeded hout
      refine ⟨ticket.binding, ⟨hsup.eligible, hsup.credentials⟩, ?_, .inl rfl⟩
      exact Since.now ⟨ticket, elapsed, rfl, ⟨_, rfl⟩, hearly, rfl, hissued⟩
  · rw [completeProbe_of_not_current (.inr hcur)]
    refine h.keep ⟨by simp [AcceptsCompletion], by simp [ChangesFacts]⟩ rfl rfl rfl rfl rfl rfl
      (fun _ hsup => ⟨hsup.eligible, hsup.credentials⟩) ?_
      (fun _ htimer => htimer) fun _ _ htimer _ => htimer
    intro other hoth _ htask
    have hne : other ≠ ticket := by
      rintro rfl
      exact hcur hoth
    exact htask.imp_right fun hrun => (mem_erase_of_ne hne).mpr hrun

theorem spawn (ticket) : Sound (s.spawnProbe ticket).2
      (⟨.spawnProbe ticket, (s.spawnProbe ticket).1, (s.spawnProbe ticket).2⟩ :: hist) := by
  unfold spawnProbe
  split_ifs with hstarting hcred
  · refine h.keep ⟨by simp [AcceptsCompletion], by simp [ChangesFacts]⟩ rfl rfl rfl rfl rfl rfl
      (fun _ hsup => ⟨hsup.eligible, hsup.credentials⟩) ?_
      (fun _ htimer => htimer) fun _ _ htimer _ => htimer
    intro other _ _ htask
    by_cases hsame : other = ticket
    · exact .inr (hsame ▸ (.head _))
    · exact htask.imp (mem_erase_of_ne hsame).mpr (mem_cons_of_mem _)
  · refine h.keep ⟨by simp [AcceptsCompletion], by simp [ChangesFacts]⟩ rfl rfl rfl rfl rfl rfl
      (fun _ hsup => ⟨hsup.eligible, hsup.credentials⟩) ?_
      (fun _ htimer => htimer) fun _ _ htimer _ => htimer
    intro other _ hsup htask
    have hne : other ≠ ticket := by
      rintro rfl
      exact hcred hsup.credentials
    exact htask.imp_left (mem_erase_of_ne hne).mpr
  · exact h.ignore ⟨by simp [AcceptsCompletion], by simp [ChangesFacts]⟩

theorem refresh (timer) (halloc : (s.fireRefresh timer).1 ≠ .exhausted) :
    Sound (s.fireRefresh timer).2
      (⟨.fireRefresh timer, (s.fireRefresh timer).1, (s.fireRefresh timer).2⟩ :: hist) := by
  by_cases hmem : timer ∈ s.timers
  · by_cases hlive : s.refreshPending = true ∧ s.refreshEpoch = timer.epoch
    · obtain ⟨binding, hsup, _, honly⟩ := h.pending hlive.1
      have hbinding : timer.binding = binding := honly timer hmem hlive.2.symm
      subst hbinding
      obtain ⟨ticket, next, hissue, hfire⟩ := fireRefresh_of_live hmem h.opened hlive.1
        hlive.2 hsup.eligible halloc
      have hmarkers : s.refreshEpoch ≤ s.probe.lastFreshness :=
        Nat.le_trans (Nat.le_add_right _ _) h.markers.1
      rw [hfire]
      refine Sound.issue hissue (.inr rfl) h.opened ⟨hsup.eligible, hsup.credentials⟩ hmarkers
        (fun other hoth => h.timers other (mem_of_mem_erase hoth)) rfl ?_
      intro hready
      obtain ⟨other, hoth, hfresh, _⟩ := h.ready hready
      have hsame : other = timer.binding := by
        simpa using hoth.eligible.symm.trans hsup.eligible
      exact hsame ▸ hfresh.cons ⟨by simp [AcceptsCompletion], by simp [ChangesFacts]⟩
    · rw [fireRefresh_of_dead hmem (by
        by_cases hpend : s.refreshPending = true
        · exact .inr (.inr fun hepoch => hlive ⟨hpend, hepoch⟩)
        · exact .inr (.inl (by simpa using hpend)))]
      refine h.keep ⟨by simp [AcceptsCompletion], by simp [ChangesFacts]⟩ rfl rfl rfl rfl rfl rfl
        (fun _ hsup => ⟨hsup.eligible, hsup.credentials⟩)
        (fun _ _ _ htask => htask) (fun _ htimer => mem_of_mem_erase htimer) ?_
      intro hpend other hoth hepoch
      have hne : other ≠ timer := by
        rintro rfl
        exact hlive ⟨hpend, hepoch.symm⟩
      exact (mem_erase_of_ne hne).mpr hoth
  · have hfire : s.fireRefresh timer = (.ignored, s) := if_neg hmem
    rw [hfire]
    exact h.ignore ⟨by simp [AcceptsCompletion], by simp [ChangesFacts]⟩

theorem observe (update) (halloc : (s.observe update).1 ≠ .exhausted) : Sound (s.observe update).2
      (⟨.update update, (s.observe update).1, (s.observe update).2⟩ :: hist) := by
  rcases s.observe_cases update with ⟨error, hreject⟩ | ⟨after, hresv, ⟨hfacts, hsame⟩ | hchg⟩
  · rw [hreject]
    exact h.ignore ⟨by simp [AcceptsCompletion], by simp [ChangesFacts]⟩
  · rw [hsame]
    exact h.keep ⟨by simp [AcceptsCompletion], by simp [ChangesFacts]⟩ rfl rfl rfl rfl rfl rfl
      (fun _ hsup => hsup.of_unchanged hresv hfacts) (fun _ _ _ htask => htask)
      (fun _ htimer => htimer) fun _ _ htimer _ => htimer
  · rw [hchg] at halloc ⊢
    exact h.reproject rfl halloc

end Sound

/-! ## Whole runs -/

/-- The step did not fail to allocate a marker. -/
def Allocates (r : ReadinessRun) (action : ReadinessAction) : Prop :=
  (r.state.step action).1 ≠ .exhausted

instance (r : ReadinessRun) (action : ReadinessAction) : Decidable (Allocates r action) :=
  inferInstanceAs (Decidable ((r.state.step action).1 ≠ .exhausted))

theorem neverStale_new (gen) : NeverStale (.init (.new gen)) := by
  refine .inl ⟨rfl, ⟨Nat.le_refl _, Nat.zero_le _⟩, by rintro _ ⟨⟩, by rintro _ ⟨⟩, by rintro ⟨⟩,
    fun hready => ?_⟩
  cases hready

theorem closed_step {s : ReadinessRuntime} (hclos : s.closed = true) (act) :
    (s.step act).2.closed = true ∧ (s.step act).2.projected = s.projected := by
  cases act with
  | update update =>
    simp only [step, observe, updateStructural, hclos, if_true]
    split <;> exact ⟨hclos, rfl⟩
  | spawnProbe ticket =>
    simp only [step, spawnProbe]
    split_ifs <;> exact ⟨hclos, rfl⟩
  | completeProbe ticket out elapsed =>
    rw [step, completeProbe_of_not_current (.inl hclos)]
    exact ⟨hclos, rfl⟩
  | fireRefresh timer =>
    by_cases hmem : timer ∈ s.timers
    · rw [step, fireRefresh_of_dead hmem (.inl hclos)]
      exact ⟨hclos, rfl⟩
    · rw [step, fireRefresh, if_neg hmem]
      exact ⟨hclos, rfl⟩
  | shutdown =>
    rw [step, shutdown, if_pos hclos]
    exact ⟨hclos, rfl⟩

theorem NeverStale.step {r} (h : NeverStale r) {act}
    (hallocates : Allocates r act) : NeverStale (record ReadinessRuntime.step r act) := by
  rcases h with h | ⟨hclos, hnotReady⟩
  · cases act with
    | update update => exact .inl (h.observe update hallocates)
    | spawnProbe ticket => exact .inl (h.spawn ticket)
    | completeProbe ticket out elapsed => exact .inl (h.complete ticket out elapsed)
    | fireRefresh timer => exact .inl (h.refresh timer hallocates)
    | shutdown =>
      refine .inr ?_
      simp only [record, ReadinessRuntime.step, shutdown, h.opened]
      exact ⟨rfl, by simp⟩
  · obtain ⟨hstill, hproj⟩ := closed_step hclos act
    exact .inr ⟨hstill, fun hready => hnotReady (hproj.symm.trans hready)⟩

/-- As long as markers can be allocated: when the projected readiness is Ready, the facts
allow a probe of some binding, the last accepted completion was a timely success of a ticket
that was handed out for this binding after the last change of a fact, and the next probe of
it is armed, about to start or running. -/
theorem ready_fresh (generation : RuntimeGeneration) (actions : List ReadinessAction)
    (hallocates : Along (record ReadinessRuntime.step) Allocates (.init (.new generation)) actions)
    (hready : (runReadiness generation actions).state.projected = .ready) :
    ∃ binding, (runReadiness generation actions).state.eligibility = .eligible binding ∧
      FreshSuccess binding (runReadiness generation actions).history ∧
      ((runReadiness generation actions).state.refreshPending = true ∧
          ⟨(runReadiness generation actions).state.refreshEpoch, binding⟩ ∈
            (runReadiness generation actions).state.timers ∨
        (runReadiness generation actions).state.probeInFlight = true ∧
          ∃ ticket, (runReadiness generation actions).state.probe.current = some ticket ∧
            ticket.binding = binding ∧
            (ticket ∈ (runReadiness generation actions).state.starting ∨
              ticket ∈ (runReadiness generation actions).state.running)) := by
  have h : NeverStale (runReadiness generation actions) :=
    run_invariant_along (fun _ _ h hallocates => h.step hallocates) (neverStale_new generation)
      hallocates
  rcases h with h | ⟨_, hnotReady⟩
  · obtain ⟨binding, hsupported, hfresh, hnext⟩ := h.ready hready
    refine ⟨binding, hsupported.eligible, hfresh, ?_⟩
    rcases hnext with hpending | ⟨ticket, hticket, hbinding⟩
    · obtain ⟨other, hother, htimer, _⟩ := h.pending hpending
      have hsame : other = binding := by
        simpa using hother.eligible.symm.trans hsupported.eligible
      exact .inl ⟨hpending, hsame ▸ htimer⟩
    · obtain ⟨_, _, hinFlight, htask⟩ := h.current ticket hticket
      exact .inr ⟨hinFlight, ticket, hticket, hbinding, htask⟩
  · exact absurd hready hnotReady

def sampleSequence : Cellular.ObservationSequence := ⟨11, by decide⟩

def sampleGeneration : RuntimeGeneration := ⟨21, by decide⟩

def sampleBinding : ProbeBinding where
  cellularOwnerGeneration := ⟨11, by decide⟩
  runtimeGeneration := sampleGeneration
  proxyServingGeneration := ⟨31, by decide⟩
  meshAdmissionEpoch := ⟨41, by decide⟩
  credentialVersion := ⟨51, by decide⟩

/-- The ticket takes the marker after those of the three changes. -/
def sampleTicket : ProbeTicket := ⟨sampleBinding, ⟨4, by decide⟩⟩

/-- All owners report, and the probe succeeds after a second. -/
def sampleProbe : List ReadinessAction :=
  [.update
      (.cellular ⟨⟨.admitted, none, some Cellular.sampleHandle, some sampleSequence⟩, .enforced⟩),
    .update (.mesh ⟨.admitted, some 41⟩),
    .update (.proxyStarted 31 51 "user".toList "secret".toList),
    .spawnProbe sampleTicket, .completeProbe sampleTicket .succeeded 1000000000]

theorem ready_fresh_sampleProbe :
    (runReadiness sampleGeneration sampleProbe).state.projected = .ready ∧
      ∃ binding, (runReadiness sampleGeneration sampleProbe).state.eligibility = .eligible binding ∧
        FreshSuccess binding (runReadiness sampleGeneration sampleProbe).history := by
  obtain ⟨binding, heligible, hfresh, -⟩ :=
    ready_fresh sampleGeneration sampleProbe (by decide) (by decide)
  exact ⟨by decide, binding, heligible, hfresh⟩

end MishProxy.Probing
