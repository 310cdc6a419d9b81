import MishProxy.MobileData.EnableOwned
import MishProxy.Session.Reading

/-!
# Whether a disable keeps its owner

When the shell process ends, the session takes a non-zero exit code of the process for the status
of the command. A shell that has run the disable and dies before it prints the marker line is
therefore reported as a rejected disable, and the effect gives up a compensation that it owes
(`compensation_lost`).

`disable_compensated` says when this cannot happen. The conditions are about the shell (it does not
die with a non-zero code between running a disable and printing its marker line, and no command
prints a marker line), about the numbering of the markers and about calls: a mutation is not called
while another one is in progress.

`Hot` says that something may have to be compensated: a disable has been run and not read back, or
its frame may still be run. While the disable is in progress nothing else is hot (`Covered`), so a
rejection that is true of its frame releases nothing that is owed.
-/

namespace MishProxy.MobileData

open Session Machine EffectSystem List Option

/-- The shell ran a disable of this effect successfully, and the data has not been read
back as enabled since. -/
def DisabledUnread (history : List (Event EffectSystem Action Reply)) : Prop :=
  Since (fun e => ¬ e.output.ReadsEnabled) (fun e _ => e.output = .ran .disabling 0) history

instance : DecidablePred DisabledUnread :=
  inferInstanceAs (DecidablePred (Since (fun e : Event EffectSystem Action Reply =>
    ¬ e.output.ReadsEnabled) fun e _ => e.output = .ran .disabling 0))

namespace EffectSystem

/-- The shell has run a disable successfully and not printed its marker line. -/
def unreportedDisable (s : EffectSystem) : Bool :=
  match s.manager.session with
  | some session =>
    match session.process.ran with
    | some (frame, status) => frame.caller = .disabling && status = 0
    | none => false
  | none => false

def Orderly (s : EffectSystem) : Action → Prop
  | .disable => s.mutating = 0
  | .enable => s.mutating = 0
  | .acquire _ => ∀ session ∈ s.manager.session, session.sequence < 2 ^ 64 - 1
  | .session (.shell (.run printed _)) => ∀ line ∈ printed, line.isMarker = false
  | .session (.shell (.exit (some code))) => code ≠ 0 → s.unreportedDisable = false
  | _ => True

/-- A frame of a disable may still be run. -/
def LiveDisable (s : EffectSystem) : Prop :=
  ∃ frame ∈ s.manager.liveFrames, frame.caller = .disabling

variable {s : EffectSystem} {act : Action}

theorem Orderly.exclusive (h : s.Orderly act) : s.Exclusive act := by
  rintro (rfl | rfl)
  · exact h
  · exact h

theorem Orderly.unforged {act} (h : s.Orderly (.session act)) :
    RootSessionManager.Unforged act := by
  cases act with
  | shell act =>
    cases act with
    | run printed status => exact h
    | reportStatus | exit code => trivial
  | _ => trivial

/-! ## Frames that may still be run -/

def usesSession : Action → Bool
  | .session _ | .acquire _ => true
  | _ => false

structure LeavesSession (s : EffectSystem) (action : Action) : Prop where
  manager : (s.step action).2.manager = s.manager
  wrote : ∀ purpose, (s.step action).1 ≠ .wrote purpose
  ran : ∀ purpose status, (s.step action).1 ≠ .ran purpose status

theorem leavesSession (h : usesSession act = false) : s.LeavesSession act := by
  cases act with
  | session act | acquire purp => cases h
  | settle purp ans =>
    have hsettle : (s.settle purp ans).2.manager = s.manager := by
      cases purp with
      | disabling | verifying out => simp only [settle, release]; split <;> rfl
      | _ => rfl
    by_cases hmem : (purp, ans) ∈ s.answered
    · have hstep : s.step (.settle purp ans) = s.settle purp ans := if_pos hmem
      refine ⟨by rw [hstep]; exact hsettle, ?_, ?_⟩
      · rw [hstep]
        cases purp <;> rintro _ ⟨⟩
      · rw [hstep]
        cases purp <;> rintro _ _ ⟨⟩
    · have hstep : s.step (.settle purp ans) = (.quiet, s) := if_neg hmem
      exact ⟨by rw [hstep], by rw [hstep]; rintro _ ⟨⟩, by rw [hstep]; rintro _ _ ⟨⟩⟩
  | disable | enable =>
    refine ⟨?_, ?_, ?_⟩
    · simp only [step]; split <;> rfl
    · simp only [step]; split <;> rintro _ ⟨⟩
    · simp only [step]; split <;> rintro _ _ ⟨⟩
  | _ => exact ⟨rfl, by rintro _ ⟨⟩, by rintro _ _ ⟨⟩⟩

theorem liveDisable_step (h : (s.step act).2.LiveDisable) :
    s.LiveDisable ∨ (s.step act).1 = .wrote .disabling := by
  obtain ⟨frame, hlive, hdis⟩ := h
  cases act with
  | session act =>
    simp only [step, manager_deliver] at hlive
    rcases (RootSessionManager.moves_step s.manager act).live hlive with hold | hwrote
    · exact .inl ⟨frame, hold, hdis⟩
    · refine .inr ?_
      rw [step, deliver, hwrote, ← hdis]
  | acquire purp =>
    simp only [step] at hlive
    split at hlive
    · rename_i hready
      rw [manager_deliver] at hlive
      exact .inl ⟨frame, (RootSessionManager.acquires hready.2 purp).live hlive, hdis⟩
    · exact .inl ⟨frame, hlive, hdis⟩
  | _ =>
    rw [(leavesSession rfl).manager] at hlive
    exact .inl ⟨frame, hlive, hdis⟩

theorem liveDisable_of_ran {status} (h : (s.step act).1 = .ran .disabling status) :
    s.LiveDisable := by
  cases act with
  | session act =>
    obtain ⟨frame, printed, hrpt, hdis⟩ := deliver_eq_ran h
    have hmoves := RootSessionManager.moves_step s.manager act
    rw [hrpt] at hmoves
    exact ⟨frame, hmoves.live_of_ran, hdis⟩
  | acquire purp =>
    simp only [step] at h
    split at h
    · rename_i hready
      obtain ⟨frame, printed, hran, _⟩ := deliver_eq_ran h
      rcases (RootSessionManager.acquires hready.2 purp).report with hrpt | hrpt
      all_goals cases hran.symm.trans hrpt
    · cases h
  | _ => exact absurd h ((leavesSession rfl).ran _ _)

end EffectSystem

/-! ## What may have to be compensated -/

def Hot (r : EffectRun) : Prop := DisabledUnread r.history ∨ r.state.LiveDisable

theorem disabledUnread_step {r act} (h : DisabledUnread (record step r act).history) :
    (r.state.step act).1 = .ran .disabling 0 ∨
      ¬ (r.state.step act).1.ReadsEnabled ∧ DisabledUnread r.history := since_cons_iff.mp h

theorem hot_step {r act} (h : Hot (record step r act)) :
    Hot r ∨ (r.state.step act).1 = .wrote .disabling := by
  rcases h with hunr | hlive
  · rcases disabledUnread_step hunr with hran | ⟨_, hbef⟩
    · exact .inl (.inr (liveDisable_of_ran hran))
    · exact .inl (.inl hbef)
  · rcases liveDisable_step hlive with hbef | hwrote
    · exact .inl (.inr hbef)
    · exact .inr hwrote

/-! ## The invariant -/

structure Covered (r : EffectRun) : Prop where
  alone : r.state.mutating ≤ 1
  traced : r.state.manager.Traced
  alive : ∀ session frame code, r.state.manager.session = some session →
    session.process.ran = some (frame, 0) → frame.caller = .disabling →
      session.process.exited = some (some code) → code = 0
  hot : Hot r → r.state.compensationOwned = true
  disabling : .disabling ∈ r.state.inProgress → r.state.compensationOwned = true
  /-- While a disable has not written, nothing is hot. -/
  unwritten : r.state.BeforeWrite .disabling → ¬ Hot r
  /-- While a disable reads, its own frame is the only hot thing. -/
  reading : ∀ marker captured,
    r.state.manager.active = some (.disabling, .reading marker captured) →
      ∃ session fate, r.state.manager.session = some session ∧
        FateOf ⟨marker, .disabling⟩ session.process fate ∧
        (DisabledUnread r.history → fate = some 0) ∧
        ∀ frame ∈ r.state.manager.liveFrames, frame.caller = .disabling → frame.marker = marker
  destroying : ∀ result, r.state.manager.active = some (.disabling, .destroying result) →
    disableResult (.ok result) = .error .mutationRejected → ¬ Hot r
  rejected : ∀ answer, (.disabling, answer) ∈ r.state.answered →
    disableResult answer = .error .mutationRejected → ¬ Hot r
  verified : ∀ outcome answer, (.verifying outcome, answer) ∈ r.state.answered →
    observeResult answer = .ok .enabled → ¬ r.state.LiveDisable

theorem covered_new : Covered (.init .new) where
  alone := Nat.zero_le 1
  traced := .new
  alive := by rintro _ _ _ ⟨⟩
  hot := by
    rintro (⟨_, _, _, heq, _⟩ | ⟨_, hlive, _⟩)
    · exact absurd heq (by simp [Recorded.init])
    · cases hlive
  disabling := by rintro ⟨⟩
  unwritten := by simp [Recorded.init, new, EffectSystem.BeforeWrite,
    RootSessionManager.unwritten, RootSessionManager.new]
  reading := by rintro _ _ ⟨⟩
  destroying := by rintro _ ⟨⟩
  rejected := by rintro _ ⟨⟩
  verified := by rintro _ _ ⟨⟩

theorem exitCode_of_rejected {res} (h : disableResult (.ok res) = .error .mutationRejected) :
    res.outputComplete = true ∧ res.exitCode ≠ 0 := by
  simp only [disableResult] at h
  split_ifs at h with hincomplete hstat
  · cases h
  · exact ⟨by simpa using (not_or.mp hincomplete).2, hstat⟩

namespace Covered

variable {r : EffectRun} {captured : Captured}

/-- What the reader of a disable can conclude when its marker line or the end of a shell
with a non-zero code says that it was rejected. -/
theorem not_hot_of_reading (h : Covered r) {marker}
    (hact : r.state.manager.active = some (.disabling, .reading marker captured))
    {sess} (hs : r.state.manager.session = some sess)
    (hfalse : ∀ fate, FateOf ⟨marker, .disabling⟩ sess.process fate →
      fate ≠ some 0 ∧ r.state.manager.liveFrames = []) : ¬ Hot r := by
  obtain ⟨session', fate, hs', hfate, hunr, _⟩ := h.reading marker captured hact
  cases hs.symm.trans hs'
  obtain ⟨hne, hnone⟩ := hfalse fate hfate
  rintro (hran | ⟨frame, hlive, _⟩)
  · exact hne (hunr hran)
  · rw [hnone] at hlive
    cases hlive

theorem liveFrames_of_drained {m : RootSessionManager Purpose} {sess : RootShellSession Purpose}
    (hs : m.session = some sess) (hin : sess.process.input = []) : m.liveFrames = [] := by
  rw [RootSessionManager.liveFrames, hs]
  simp [hin]

theorem liveFrames_of_exited {m : RootSessionManager Purpose} {sess : RootShellSession Purpose}
    (hs : m.session = some sess) {code}
    (hexit : sess.process.exited = some code) : m.liveFrames = [] := by
  rw [RootSessionManager.liveFrames, hs]
  simp [hexit]

theorem not_hot_of_marker (h : Covered r) {marker sess rawStatus rest code}
    (hact : r.state.manager.active = some (.disabling, .reading marker captured))
    (hs : r.state.manager.session = some sess)
    (hout : sess.process.output = .marker marker rawStatus :: rest)
    (hcode : parseStatus rawStatus = some code) (hne : code ≠ 0) : ¬ Hot r := by
  refine h.not_hot_of_reading hact hs fun fate hfate => ?_
  obtain ⟨hin, status, rfl, rfl⟩ := hfate.of_marker (hout ▸ mem_cons_self)
  refine ⟨?_, liveFrames_of_drained hs hin⟩
  intro hzero
  cases hzero
  rw [parseStatus_decimal (by decide)] at hcode
  exact hne (some.inj hcode).symm

theorem not_hot_of_denial (h : Covered r) {marker sess code}
    (hact : r.state.manager.active = some (.disabling, .reading marker captured))
    (hs : r.state.manager.session = some sess) (hout : sess.process.output = [])
    (hexit : sess.process.exited = some (some code)) (hne : code ≠ 0) : ¬ Hot r := by
  refine h.not_hot_of_reading hact hs fun fate hfate => ⟨?_, liveFrames_of_exited hs hexit⟩
  rintro rfl
  exact hne (h.alive sess _ code hs (hfate.of_drained hout) rfl hexit)

section

variable {act : SessionAction} (h : Covered r) (horderly : r.state.Orderly (.session act))
include h horderly

theorem alive_session : ∀ sess frame code,
    (r.state.step (.session act)).2.manager.session = some sess →
    sess.process.ran = some (frame, 0) → frame.caller = .disabling →
      sess.process.exited = some (some code) → code = 0 := by
  intro sess frame code hs' hran hdis hexit
  simp only [step, manager_deliver] at hs'
  have hmoves := RootSessionManager.moves_step r.state.manager act
  generalize r.state.manager.step act = next at hmoves hs'
  obtain ⟨report, m'⟩ := next
  cases hmoves with
  | stay | failed | destroyed => exact h.alive sess frame code hs' hran hdis hexit
  | gaveUp | denied | shut => cases hs'
  | started | reported _ hlive =>
    cases hs'
    cases hran
  | wrote _ hs | captured _ hs | answered _ hs =>
    cases hs'
    exact h.alive _ frame code hs hran hdis hexit
  | @expired _ _ _ _ sess hact hs =>
    cases hs'
    cases hbef : sess.process.exited with
    | none =>
      simp only [hbef, getD_none] at hexit
      cases hexit
    | some code' =>
      simp only [hbef, getD_some] at hexit
      exact h.alive _ frame code hs hran hdis (hbef.trans hexit)
  | ran _ hlive =>
    cases hs'
    rw [hlive] at hexit
    cases hexit
  | @exited sess _ hs =>
    cases hs'
    cases hexit
    by_contra hcode
    have hunreported := horderly hcode
    simp only [unreportedDisable, hs] at hunreported
    dsimp only at hran
    simp [hran, hdis] at hunreported
  | dropped consumed =>
    split at hs'
    · rename_i hs
      cases hs'
      exact h.alive _ frame code hs hran hdis hexit
    · exact h.alive sess frame code hs' hran hdis hexit

theorem reading_session : ∀ marker captured, (r.state.step (.session act)).2.manager.active =
        some (.disabling, .reading marker captured) →
      ∃ sess fate, (r.state.step (.session act)).2.manager.session = some sess ∧
        FateOf ⟨marker, .disabling⟩ sess.process fate ∧
        (DisabledUnread (record step r (.session act)).history → fate = some 0) ∧
        ∀ frame ∈ (r.state.step (.session act)).2.manager.liveFrames,
          frame.caller = .disabling → frame.marker = marker := by
  intro marker captured hafter
  have hunf := horderly.unforged
  have hmoves := RootSessionManager.moves_step r.state.manager act
  simp only [step, manager_deliver] at hafter ⊢
  rcases hmoves.follow hunf hafter with hwrote | ⟨⟨before, hbef⟩, hfollow⟩
  · -- the frame has just been written, and nothing else is hot
    rw [hwrote] at hmoves
    have hcold := h.unwritten (.inr hmoves.unwritten_of_wrote)
    obtain ⟨sess, hs, _, hfate⟩ := h.traced.fate_of_wrote hmoves
    refine ⟨sess, none, hs, hfate, ?_, ?_⟩
    · intro hunr
      rcases disabledUnread_step hunr with hran | ⟨_, hbef⟩
      · exact absurd (.inr (liveDisable_of_ran hran)) hcold
      · exact absurd (.inl hbef) hcold
    · intro frame hlive hdis
      rcases hmoves.live hlive with hold | hnew
      · exact absurd (.inr ⟨frame, hold, hdis⟩) hcold
      · obtain rfl := Report.wrote.inj hnew
        rfl
  · obtain ⟨sess, fate, hs, hfate, hunr, hown⟩ := h.reading marker before hbef
    have hwritten : r.state.manager.unwritten = none := by
      rw [RootSessionManager.unwritten, hbef]
    have hown' : ∀ frame ∈ (r.state.manager.step act).2.liveFrames,
        frame.caller = .disabling → frame.marker = marker := by
      intro frame hlive hdis
      rcases hmoves.live hlive with hold | hnew
      · exact hown frame hold hdis
      · rw [hnew] at hmoves
        cases hwritten.symm.trans hmoves.unwritten_of_wrote
    obtain ⟨session', hs', hran | hsame⟩ := hfollow sess fate hs hfate
    · -- the shell runs the frame of this disable
      obtain ⟨printed, status, hrpt, rfl, hfate'⟩ := hran
      refine ⟨session', some status, hs', hfate', ?_, hown'⟩
      intro hunread'
      rcases disabledUnread_step hunread' with hnow | ⟨_, hold⟩
      · obtain ⟨frame, printed', hreport', _⟩ := deliver_eq_ran hnow
        rw [(Report.ran.inj (hrpt.symm.trans hreport')).2.2]
      · cases hunr hold
    · refine ⟨session', fate, hs', hsame.2, ?_, hown'⟩
      intro hunread'
      rcases disabledUnread_step hunread' with hnow | ⟨_, hold⟩
      · obtain ⟨frame, printed, hrpt, hdis⟩ := deliver_eq_ran hnow
        rw [hrpt] at hmoves
        have hmarker := hown frame hmoves.live_of_ran hdis
        obtain ⟨marker', caller⟩ := frame
        subst hmarker hdis
        exact absurd hrpt (hsame.1 printed 0)
      · exact hunr hold

omit h horderly in
theorem not_hot_session (hcold : ¬ Hot r)
    (hrpt : ∀ frame, (r.state.manager.step act).1 ≠ .wrote frame) :
    ¬ Hot (record step r (.session act)) := by
  intro hhot
  rcases hot_step hhot with hbef | hwrote
  · exact hcold hbef
  · obtain ⟨frame, hwrote, _⟩ := deliver_eq_wrote hwrote
    exact hrpt frame hwrote

omit horderly in
/-- An answered mutation and a disable that is about to write would be two. -/
theorem not_wrote_of_answered {purp ans}
    (hans : (purp, ans) ∈ r.state.answered) (hmut : purp.mutates = true) :
    (r.state.step (.session act)).1 ≠ .wrote .disabling := by
  intro hwrote
  have hact := RootSessionManager.active_of_unwritten
    (unwritten_of_wrote_session hwrote)
  have htwo := two_le_mutating hact rfl hmut (.inr ⟨ans, hans⟩)
  have := h.alone
  omega

omit horderly in
theorem destroying_session : ∀ res,
    (r.state.step (.session act)).2.manager.active = some (.disabling, .destroying res) →
    disableResult (.ok res) = .error .mutationRejected → ¬ Hot (record step r (.session act)) := by
  intro res hafter hrej
  obtain ⟨hcomp, hne⟩ := exitCode_of_rejected hrej
  have hmoves := RootSessionManager.moves_step r.state.manager act
  simp only [step, manager_deliver] at hafter
  suffices hcold : ¬ Hot r ∧ ∀ frame, (r.state.manager.step act).1 ≠ .wrote frame from
    not_hot_session hcold.1 hcold.2
  generalize r.state.manager.step act = next at hmoves hafter ⊢
  obtain ⟨report, m'⟩ := next
  cases hmoves with
  | stay | ran | reported | exited | shut => exact ⟨h.destroying res hafter hrej, by simp⟩
  | gaveUp =>
    cases hafter
    cases hcomp
  | denied hact hs hout hexit hcode =>
    cases hafter
    exact ⟨h.not_hot_of_denial hact hs hout hexit hcode, by simp⟩
  | dropped consumed => cases (RootSessionManager.active_dropActive _ consumed).symm.trans hafter
  | started | failed | wrote | captured | answered | expired | destroyed => cases hafter

omit horderly in
theorem rejected_session : ∀ ans, (.disabling, ans) ∈ (r.state.step (.session act)).2.answered →
    disableResult ans = .error .mutationRejected → ¬ Hot (record step r (.session act)) := by
  intro ans hans hrej
  rcases mem_answered_deliver.mp hans with hold | hret
  · intro hhot
    rcases hot_step hhot with hbef | hwrote
    · exact h.rejected ans hold hrej hbef
    · exact h.not_wrote_of_answered hold rfl hwrote
  · have hmoves := RootSessionManager.moves_step r.state.manager act
    refine not_hot_session ?_ (by rw [hret]; rintro _ ⟨⟩)
    rw [hret] at hmoves
    generalize (r.state.manager.step act).2 = m' at hmoves
    cases hmoves with
    | failed => cases hrej
    | answered hact hs hout hcode =>
      exact h.not_hot_of_marker hact hs hout hcode (exitCode_of_rejected hrej).2
    | destroyed hact => exact h.destroying _ hact hrej

omit horderly in
theorem verified_session : ∀ out ans,
    (.verifying out, ans) ∈ (r.state.step (.session act)).2.answered →
    observeResult ans = .ok .enabled → ¬ (r.state.step (.session act)).2.LiveDisable := by
  intro out ans hans hen hlive
  have hbef := liveDisable_step hlive
  rcases mem_answered_deliver.mp hans with hold | hret
  · rcases hbef with hlive | hwrote
    · exact h.verified out ans hold hen hlive
    · exact h.not_wrote_of_answered hold rfl hwrote
  · have hmoves := RootSessionManager.moves_step r.state.manager act
    have hframe : r.state.LiveDisable := by
      refine hbef.resolve_right fun hwrote => ?_
      obtain ⟨frame, hwrote, _⟩ := deliver_eq_wrote hwrote
      cases hret.symm.trans hwrote
    obtain ⟨frame, hmem, _⟩ := hframe
    rw [hret] at hmoves
    generalize (r.state.manager.step act).2 = m' at hmoves
    cases hmoves with
    | failed => cases hen
    | answered hact hs hout hcode =>
      obtain ⟨sess, fate, hs', hfate⟩ := h.traced.reading _ _ _ hact
      cases hs.symm.trans hs'
      have hin := (hfate.of_marker (hout ▸ mem_cons_self)).1
      rw [liveFrames_of_drained hs hin] at hmem
      cases hmem
    | destroyed hact =>
      have hnone := h.traced.destroying _ _ hact
      rw [RootSessionManager.liveFrames, hnone] at hmem
      cases hmem

theorem session : Covered (record step r (.session act)) where
  alone := mutating_step_le_one h.alone horderly.exclusive
  traced := by
    have hmoves := RootSessionManager.moves_step r.state.manager act
    have htraced := h.traced.step hmoves horderly.unforged
    rwa [← manager_deliver r.state] at htraced
  alive := h.alive_session horderly
  hot := by
    intro hhot
    refine (compensationOwned_deliver _ _).trans ?_
    rcases hot_step hhot with hbef | hwrote
    · exact h.hot hbef
    · have hunw := unwritten_of_wrote_session hwrote
      exact h.disabling (EffectSystem.BeforeWrite.mem_inProgress (.inr hunw))
  disabling := by
    intro hafter
    refine (compensationOwned_deliver _ _).trans ?_
    exact h.disabling (mem_inProgress_session hafter)
  unwritten := by
    intro hafter hhot
    have hbef := beforeWrite_session hafter
    rcases hot_step hhot with hhot | hwrote
    · exact h.unwritten hbef hhot
    · obtain ⟨frame, hrpt, _⟩ := deliver_eq_wrote hwrote
      have hmoves := RootSessionManager.moves_step r.state.manager act
      have hact := RootSessionManager.active_of_unwritten
        (unwritten_of_wrote_session hwrote)
      rw [hrpt] at hmoves
      rcases hafter with hwait | hunw
      · have htwo := two_le_mutating hact rfl rfl
          (.inl ((waiting_deliver _ _) ▸ hwait))
        have := h.alone
        omega
      · have hwritten := hmoves.written
        rw [← manager_deliver r.state] at hwritten
        cases hwritten.symm.trans hunw
  reading := h.reading_session horderly
  destroying := h.destroying_session
  rejected := h.rejected_session
  verified := h.verified_session

end

/-! ### The other steps -/

variable {act : Action}

variable (h : Covered r)
include h

theorem keep (horderly : r.state.Orderly act) (hleav : r.state.LeavesSession act)
    (hans : ∀ call ∈ (r.state.step act).2.answered, call ∈ r.state.answered)
    (hhot : Hot (record step r act) → (r.state.step act).2.compensationOwned = true)
    (hdis : .disabling ∈ (r.state.step act).2.inProgress →
      (r.state.step act).2.compensationOwned = true)
    (hunw : (r.state.step act).2.BeforeWrite .disabling → ¬ Hot r) :
    Covered (record step r act) := by
  have hcold : ¬ Hot r → ¬ Hot (record step r act) :=
    fun hcold hhot => (hot_step hhot).elim hcold (hleav.wrote _)
  have hst : (record step r act).state = (r.state.step act).2 := rfl
  refine ⟨mutating_step_le_one h.alone horderly.exclusive, ?_, ?_, hhot, hdis,
    fun hbef => hcold (hunw hbef), ?_, ?_, ?_, ?_⟩
  all_goals rw [hst]
  · rw [hleav.manager]
    exact h.traced
  · rw [hleav.manager]
    exact h.alive
  · rw [hleav.manager]
    intro marker captured hact
    obtain ⟨sess, fate, hs, hfate, hunr, hown⟩ := h.reading marker captured hact
    refine ⟨sess, fate, hs, hfate, ?_, hown⟩
    intro hunread'
    rcases disabledUnread_step hunread' with hran | ⟨_, hold⟩
    · exact absurd hran (hleav.ran _ _)
    · exact hunr hold
  · rw [hleav.manager]
    exact fun res hact hrej => hcold (h.destroying res hact hrej)
  · exact fun ans hmem hrej => hcold (h.rejected ans (hans _ hmem) hrej)
  · intro out ans hmem hen hlive
    rcases liveDisable_step hlive with hbef | hnow
    · exact h.verified out ans (hans _ hmem) hen hbef
    · exact hleav.wrote _ hnow

theorem quiet (horderly : r.state.Orderly act) (hleav : r.state.LeavesSession act)
    (hans : ∀ call ∈ (r.state.step act).2.answered, call ∈ r.state.answered)
    (howned : (r.state.step act).2.compensationOwned = r.state.compensationOwned)
    (hwait : .disabling ∈ (r.state.step act).2.waiting → .disabling ∈ r.state.waiting) :
    Covered (record step r act) := by
  refine h.keep horderly hleav hans ?_ ?_ ?_
  · intro hhot
    rw [howned]
    exact h.hot ((hot_step hhot).resolve_right (hleav.wrote _))
  · intro hafter
    rw [howned]
    rw [mem_inProgress, hleav.manager] at hafter
    refine h.disabling (mem_inProgress.mpr ?_)
    rcases hafter with hafter | hact | ⟨ans, hafter⟩
    · exact .inl (hwait hafter)
    · exact .inr (.inl hact)
    · exact .inr (.inr ⟨ans, hans _ hafter⟩)
  · rintro (hafter | hunw)
    · exact h.unwritten (.inl (hwait hafter))
    · rw [hleav.manager] at hunw
      exact h.unwritten (.inr hunw)

theorem unchanged (horderly : r.state.Orderly act)
    (hleav : r.state.LeavesSession act) (hstep : (r.state.step act).2 = r.state) :
    Covered (record step r act) :=
  h.quiet horderly hleav (by rw [hstep]; exact fun _ => id) (by rw [hstep])
    (by rw [hstep]; exact id)

theorem disable (horderly : r.state.Orderly .disable) : Covered (record step r .disable) := by
  cases howned : r.state.compensationOwned with
  | true =>
    have hstep : r.state.step .disable = (.refused .mutationUncertain, r.state) := by
      simp [step, howned]
    exact h.unchanged horderly (leavesSession rfl) (by rw [hstep])
  | false =>
    have hstep : r.state.step .disable = (.quiet, { r.state with
        compensationOwned := true, waiting := .disabling :: r.state.waiting }) := by
      simp [step, howned]
    have hcold : ¬ Hot r := fun hhot => absurd (howned.symm.trans (h.hot hhot)) (by simp)
    refine h.keep horderly (leavesSession rfl) ?_ ?_ ?_ fun _ => hcold
    all_goals rw [hstep]
    · exact fun _ => id
    · exact fun _ => rfl
    · exact fun _ => rfl

theorem enable (horderly : r.state.Orderly .enable) : Covered (record step r .enable) := by
  cases howned : r.state.compensationOwned with
  | true =>
    have hstep : r.state.step .enable =
        (.quiet, { r.state with waiting := .enabling :: r.state.waiting }) := by
      simp [step, howned]
    refine h.quiet horderly (leavesSession rfl) ?_ ?_ ?_
    all_goals rw [hstep]
    · exact fun _ => id
    · exact fun hafter => (mem_cons.mp hafter).resolve_left (by simp)
  | false =>
    have hstep : r.state.step .enable = (.refused .mutationNotOwned, r.state) := by
      simp [step, howned]
    exact h.unchanged horderly (leavesSession rfl) (by rw [hstep])

variable {purp : Purpose}

/-- A settled mutation was the only one, so nothing is known to be owed to a disable that is
still in progress. -/
theorem settleMutation {ans} (horderly : r.state.Orderly (.settle purp ans))
    (hmem : (purp, ans) ∈ r.state.answered) (hmut : purp.mutates = true)
    (hne : purp ≠ .enabling)
    (hhot : Hot (record step r (.settle purp ans)) →
      (r.state.step (.settle purp ans)).2.compensationOwned = true) :
    Covered (record step r (.settle purp ans)) := by
  have hstep : r.state.step (.settle purp ans) = r.state.settle purp ans := if_pos hmem
  have hcount := mutating_settle hmem
  rw [countP_singleton, if_pos hmut, if_neg hne] at hcount
  have hone := h.alone
  have hzero : (r.state.step (.settle purp ans)).2.mutating = 0 := by
    rw [hstep]
    omega
  refine h.keep horderly (leavesSession rfl) ?_ hhot ?_ ?_
  · rw [hstep]
    exact mem_of_mem_answered_settle
  · exact fun hafter => absurd rfl (countP_eq_zero.mp hzero .disabling hafter)
  · exact fun hafter => absurd hafter (not_beforeWrite hzero rfl)

theorem settle {ans} (horderly : r.state.Orderly (.settle purp ans)) :
    Covered (record step r (.settle purp ans)) := by
  have hleav : r.state.LeavesSession (.settle purp ans) := leavesSession rfl
  by_cases hmem : (purp, ans) ∈ r.state.answered
  · have hstep : r.state.step (.settle purp ans) = r.state.settle purp ans := if_pos hmem
    have hans : ∀ call ∈ (r.state.step (.settle purp ans)).2.answered, call ∈ r.state.answered := by
      rw [hstep]
      exact mem_of_mem_answered_settle
    cases purp with
    | disabling =>
      refine h.settleMutation horderly hmem rfl (by simp) ?_
      intro hhot
      have hbef := (hot_step hhot).resolve_right (hleav.wrote _)
      rw [hstep]
      simp only [settle, release]
      split
      · rename_i hrej
        exact absurd hbef (h.rejected ans hmem (by simpa using hrej))
      · exact h.hot hbef
    | verifying out =>
      refine h.settleMutation horderly hmem rfl (by simp) ?_
      intro hhot
      have hbef := (hot_step hhot).resolve_right (hleav.wrote _)
      rw [hstep]
      simp only [settle, release]
      split
      · rename_i hen
        have hen : observeResult ans = .ok .enabled := by simpa using hen
        -- the readback settles every disable that was run, and none can still be run
        rcases hhot with hunr | hlive
        · rcases disabledUnread_step hunr with hran | ⟨hreads, _⟩
          · exact absurd hran (hleav.ran _ _)
          · rw [hstep] at hreads
            exact absurd hen hreads
        · have hafter : (r.state.step (.settle (.verifying out) ans)).2.LiveDisable := hlive
          have hbef := (liveDisable_step hafter).resolve_right (hleav.wrote _)
          exact absurd hbef (h.verified out ans hmem hen)
      · exact h.hot hbef
    | enabling =>
      refine h.quiet horderly hleav hans (by rw [hstep]; rfl) ?_
      rw [hstep]
      exact fun hafter => (mem_cons.mp hafter).resolve_left (by simp)
    | observing | other cmd =>
      exact h.quiet horderly hleav hans (by rw [hstep]; rfl) (by rw [hstep]; exact id)
  · have hstep : r.state.step (.settle purp ans) = (.quiet, r.state) := if_neg hmem
    exact h.unchanged horderly (leavesSession rfl) (by rw [hstep])

theorem acquired (horderly : r.state.Orderly (.acquire purp))
    (hready : purp ∈ r.state.waiting ∧ r.state.manager.active = none) :
    Covered (record step r (.acquire purp)) := by
  have hacq := RootSessionManager.acquires hready.2 purp
  have hstep : r.state.step (.acquire purp) = deliver
      { r.state with waiting := r.state.waiting.erase purp }
      (r.state.manager.acquire purp) := if_pos hready
  have hmanager : (record step r (.acquire purp)).state.manager =
      (r.state.manager.acquire purp).2 :=
    (congrArg (fun next => next.2.manager) hstep).trans (manager_deliver _ _)
  have howned : (record step r (.acquire purp)).state.compensationOwned =
      r.state.compensationOwned :=
    (congrArg (fun next => next.2.compensationOwned) hstep).trans
      (compensationOwned_deliver _ _)
  have hwrote : (r.state.step (.acquire purp)).1 ≠ .wrote .disabling := by
    rw [hstep]
    intro hwrote
    obtain ⟨frame, hwrote, _⟩ := deliver_eq_wrote hwrote
    rcases hacq.report with hrpt | hrpt <;> cases hwrote.symm.trans hrpt
  have hcold : Hot (record step r (.acquire purp)) → Hot r :=
    fun hhot => (hot_step hhot).resolve_right hwrote
  -- a call that is answered here got an error
  have hans : ∀ call ans, (call, ans) ∈ (r.state.step (.acquire purp)).2.answered →
      (call, ans) ∈ r.state.answered ∨ ans = .error .stateUnavailable := by
    intro call ans hmem
    rw [hstep] at hmem
    rcases mem_answered_deliver.mp hmem with hold | hret
    · exact .inl hold
    · rcases hacq.report with hrpt | hrpt
      · cases hret.symm.trans hrpt
      · exact .inr (Report.returned.inj (hret.symm.trans hrpt)).2
  refine ⟨mutating_step_le_one h.alone horderly.exclusive, ?_, ?_, ?_, ?_, ?_, ?_, ?_, ?_, ?_⟩
  · rw [hmanager]
    exact h.traced.acquire hacq fun sess hs => horderly sess hs
  · rw [hmanager]
    intro sess frame code hs'
    generalize r.state.manager.acquire purp = next at hacq hs'
    obtain ⟨report, m⟩ := next
    cases hacq with
    | refused => exact h.alive sess frame code hs'
    | began => cases hs'
    | @entered before hs =>
      cases hs'
      exact h.alive before frame code hs
  · intro hhot
    rw [howned]
    exact h.hot (hcold hhot)
  · intro hafter
    rw [howned]
    exact h.disabling (mem_inProgress_acquire hafter)
  · intro hafter hhot
    exact h.unwritten (beforeWrite_acquire hafter) (hcold hhot)
  · rw [hmanager]
    intro marker captured hact
    rcases (hacq.stage hready.2 hact).2 with ⟨_, hstg⟩ | ⟨_, hstg⟩ <;> cases hstg
  · rw [hmanager]
    intro res hact
    rcases (hacq.stage hready.2 hact).2 with ⟨_, hstg⟩ | ⟨_, hstg⟩ <;> cases hstg
  · intro ans hmem hrej hhot
    rcases hans _ _ hmem with hold | rfl
    · exact h.rejected ans hold hrej (hcold hhot)
    · cases hrej
  · intro out ans hmem hen hlive
    rcases hans _ _ hmem with hold | rfl
    · have hafter : (r.state.step (.acquire purp)).2.LiveDisable := hlive
      exact h.verified out ans hold hen
        ((liveDisable_step hafter).resolve_right hwrote)
    · cases hen

theorem acquire (horderly : r.state.Orderly (.acquire purp)) :
    Covered (record step r (.acquire purp)) := by
  by_cases hready : purp ∈ r.state.waiting ∧ r.state.manager.active = none
  · exact h.acquired horderly hready
  · have hstep : r.state.step (.acquire purp) = (.quiet, r.state) := if_neg hready
    exact h.unchanged horderly
      ⟨by rw [hstep], by rw [hstep]; rintro _ ⟨⟩, by rw [hstep]; rintro _ _ ⟨⟩⟩ (by rw [hstep])

theorem step (horderly : r.state.Orderly act) : Covered (record step r act) := by
  cases act with
  | session act => exact h.session horderly
  | acquire purp => exact h.acquire horderly
  | disable => exact h.disable horderly
  | enable => exact h.enable horderly
  | settle purp ans => exact h.settle horderly
  | observe | other cmd =>
    exact h.quiet horderly (leavesSession rfl) (fun _ => id) rfl
      fun hafter => (mem_cons.mp hafter).resolve_left (by simp)
  | dropWaiting purp =>
    exact h.quiet horderly (leavesSession rfl)
      (fun _ => id) rfl fun hafter => mem_of_mem_erase hafter

end Covered

/-! ## Whole runs -/

instance (s : EffectSystem) : ∀ action, Decidable (s.Orderly action)
  | .disable | .enable => inferInstanceAs (Decidable (s.mutating = 0))
  | .acquire _ =>
    inferInstanceAs (Decidable (∀ session ∈ s.manager.session, session.sequence < 2 ^ 64 - 1))
  | .session (.shell (.run printed _)) =>
    inferInstanceAs (Decidable (∀ line ∈ printed, line.isMarker = false))
  | .session (.shell (.exit (some code))) =>
    inferInstanceAs (Decidable (code ≠ 0 → s.unreportedDisable = false))
  | .session (.shell (.exit none)) | .session (.shell .reportStatus) | .session (.advance _)
  | .session (.dropActive _) | .session .shutdown | .observe | .other _ | .dropWaiting _
  | .settle _ _ => .isTrue trivial

/-- A disable that the shell ran successfully and that has not been read back as undone has
an owner. -/
theorem disable_compensated (actions : List Action)
    (horderly : Along (record step) (fun r => r.state.Orderly) (.init .new) actions)
    (hran : DisabledUnread (runEffect actions).history) :
    (runEffect actions).state.compensationOwned = true := by
  have h : Covered (runEffect actions) :=
    run_invariant_along (fun _ _ h => h.step) covered_new horderly
  exact h.hot (.inl hran)

/-- The shell runs the disable and exits with code 0 before it prints the marker line. -/
def quietDeath : List Action :=
  [.disable, .acquire .disabling, .session (.advance .ready), .session (.advance .ready),
    .session (.shell (.run [] 0)), .session (.shell (.exit (some 0))), .session (.advance .ready),
    .session (.advance .ready), .settle .disabling (.ok (noStatus 1 false))]

theorem disable_compensated_quietDeath : DisabledUnread (runEffect quietDeath).history ∧
    (runEffect quietDeath).state.compensationOwned = true := by
  have hran : DisabledUnread (runEffect quietDeath).history := by decide
  exact ⟨hran, disable_compensated quietDeath (by decide) hran⟩

/-- The same shell exits with code 1. -/
def deniedDisable : List Action :=
  [.disable, .acquire .disabling, .session (.advance .ready), .session (.advance .ready),
    .session (.shell (.run [] 0)), .session (.shell (.exit (some 1))), .session (.advance .ready),
    .session (.advance .ready), .settle .disabling (.ok ⟨1, [], false, true, 1⟩)]

/-- The disable was run, nothing was read back, and the effect owns nothing. -/
theorem compensation_lost : DisabledUnread (runEffect deniedDisable).history ∧
    (runEffect deniedDisable).state.compensationOwned = false := by
  decide

end MishProxy.MobileData
