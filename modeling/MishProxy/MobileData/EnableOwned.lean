import MishProxy.MobileData.Effect

/-!
# When the effect may switch the mobile data on

`disable` takes the ownership before its command reaches the session, and `enable` asks for the
ownership only. So the bit can be set with no disable behind it: the call is dropped while it waits
for the session, or no shell can be started. The next enable then switches the data on although the
effect never switched them off (`enable_without_disable`). An observation outside `enable` that
reads the data as enabled does not release the bit either.

`enable_follows_disable`: if no disable that owns the compensation ends before its command is
written, no observation of its own reads the data as enabled while the compensation is owned, and
mutations do not overlap, then every enable command follows an own disable command that was neither
rejected nor read back as undone.
-/

namespace MishProxy.MobileData

open Session Machine EffectSystem List

abbrev EffectRun := Recorded EffectSystem Action Reply

def runEffect (actions : List Action) : EffectRun :=
  run (record step) (.init .new) actions

/-- The last own disable command was written, and since then no disable was reported
rejected and the mobile data was not read back as enabled. -/
def Granted (history : List (Event EffectSystem Action Reply)) : Prop :=
  Since (fun e => ¬ e.output.Rejected ∧ ¬ e.output.ReadsEnabled)
    (fun e _ => e.output = .wrote .disabling) history

/-- An enable command is written without a grant. -/
def Ungranted (e : Event EffectSystem Action Reply)
    (older : List (Event EffectSystem Action Reply)) : Prop :=
  e.output = .wrote .enabling ∧ ¬ Granted older

namespace EffectSystem

/-- A call for this purpose is in progress and has not written its command. -/
def BeforeWrite (s : EffectSystem) (purpose : Purpose) : Prop :=
  purpose ∈ s.waiting ∨ s.manager.unwritten = some purpose

instance (s : EffectSystem) (purpose : Purpose) : Decidable (s.BeforeWrite purpose) :=
  inferInstanceAs (Decidable (_ ∨ _))

structure Disciplined (s : EffectSystem) (action : Action) : Prop where
  exclusive : s.Exclusive action
  /-- A disable that owns the compensation goes on until its command is written. -/
  writes : s.BeforeWrite .disabling →
    (s.step action).2.BeforeWrite .disabling ∨ (s.step action).1 = .wrote .disabling
  observes : s.compensationOwned = true → (s.step action).1 ≠ .observed (.ok .enabled)

instance (s : EffectSystem) (action : Action) : Decidable (s.Disciplined action) :=
  decidable_of_iff (s.Exclusive action ∧
      (s.BeforeWrite .disabling →
        (s.step action).2.BeforeWrite .disabling ∨ (s.step action).1 = .wrote .disabling) ∧
      (s.compensationOwned = true → (s.step action).1 ≠ .observed (.ok .enabled)))
    ⟨fun h => ⟨h.1, h.2.1, h.2.2⟩, fun h => ⟨h.1, h.2, h.3⟩⟩

variable {s : EffectSystem} {purp : Purpose}

theorem BeforeWrite.mem_inProgress (h : s.BeforeWrite purp) : purp ∈ s.inProgress := by
  unfold inProgress
  rcases h with hwait | hunw
  · simp [hwait]
  · simp [RootSessionManager.active_of_unwritten hunw]

theorem not_beforeWrite (hzero : s.mutating = 0) (hmut : purp.mutates = true) :
    ¬ s.BeforeWrite purp := by
  intro hbef
  exact countP_eq_zero.mp hzero purp hbef.mem_inProgress hmut

theorem beforeWrite_alone (hone : s.mutating ≤ 1)
    (henabling : s.manager.unwritten = some .enabling) : ¬ s.BeforeWrite .disabling := by
  rintro (hwait | hunw)
  · have htwo := two_le_mutating (RootSessionManager.active_of_unwritten henabling) rfl rfl
      (.inl hwait)
    omega
  · rw [henabling] at hunw
    cases hunw

/-! ## What the steps do to a call that has not written -/

theorem beforeWrite_session {act}
    (h : (s.step (.session act)).2.BeforeWrite purp) : s.BeforeWrite purp := by
  simp only [step, BeforeWrite, waiting_deliver, manager_deliver] at h
  rcases h with hwait | hunw
  · exact .inl hwait
  · exact .inr ((RootSessionManager.moves_step s.manager act).unwritten hunw)

theorem beforeWrite_acquire {acquired}
    (h : (s.step (.acquire acquired)).2.BeforeWrite purp) : s.BeforeWrite purp := by
  simp only [step] at h
  split at h
  · rename_i hready
    simp only [BeforeWrite, waiting_deliver, manager_deliver] at h
    rcases h with hwait | hunw
    · exact .inl (mem_of_mem_erase hwait)
    · have hacq := RootSessionManager.acquires hready.2 acquired
      rw [hacq.unwritten hready.2 hunw]
      exact .inl hready.1
  · exact h

theorem unwritten_of_wrote_session {act}
    (h : (s.step (.session act)).1 = .wrote purp) : s.manager.unwritten = some purp := by
  obtain ⟨frame, hrpt, rfl⟩ := deliver_eq_wrote h
  have hmoves := RootSessionManager.moves_step s.manager act
  rw [hrpt] at hmoves
  exact hmoves.unwritten_of_wrote

end EffectSystem

/-! ## The invariant -/

structure Granting (r : EffectRun) : Prop where
  alone : r.state.mutating ≤ 1
  /-- An owned compensation belongs to a written disable or to one that will be written. -/
  owner : r.state.compensationOwned = true →
    Granted r.history ∨ r.state.BeforeWrite .disabling
  armed : r.state.BeforeWrite .enabling → r.state.compensationOwned = true
  enables : ¬ Once Ungranted r.history

theorem granting_new : Granting (.init .new) where
  alone := Nat.zero_le 1
  owner := by rintro ⟨⟩
  armed := by simp [Recorded.init, new, EffectSystem.BeforeWrite,
    RootSessionManager.unwritten, RootSessionManager.new]
  enables := by
    rintro ⟨newer, e, older, heq, _⟩
    exact append_ne_nil_of_right_ne_nil newer (cons_ne_nil e older) heq.symm

namespace Granting

variable {r : EffectRun} {act : Action}

variable (h : Granting r)
include h

theorem granted_of_unwritten (hunw : r.state.manager.unwritten = some .enabling) :
    Granted r.history :=
  (h.owner (h.armed (.inr hunw))).resolve_right
    (beforeWrite_alone h.alone hunw)

/-- A step that keeps the invariant: ownership comes from before, with nothing said against
it, or from a disable that is about to be written. -/
theorem keep (hdisc : r.state.Disciplined act)
    (howner : (r.state.step act).2.compensationOwned = true →
      (r.state.compensationOwned = true ∧ ¬ (r.state.step act).1.Rejected ∧
        ¬ (r.state.step act).1.ReadsEnabled) ∨ (r.state.step act).2.BeforeWrite .disabling)
    (harmed : (r.state.step act).2.BeforeWrite .enabling →
      (r.state.step act).2.compensationOwned = true)
    (hwrote : (r.state.step act).1 = .wrote .enabling →
      r.state.manager.unwritten = some .enabling) : Granting (record step r act) where
  alone := mutating_step_le_one h.alone hdisc.exclusive
  owner := by
    intro howned
    rcases howner howned with ⟨hbef, hquiet⟩ | hpend
    · rcases h.owner hbef with hgrt | hpend
      · exact .inl (hgrt.cons hquiet)
      · rcases hdisc.writes hpend with hstill | hnow
        · exact .inr hstill
        · exact .inl (Since.now hnow)
    · exact .inr hpend
  armed := harmed
  enables := by
    have hstep : record step r act =
      ⟨(r.state.step act).2, ⟨act, (r.state.step act).1, (r.state.step act).2⟩ :: r.history⟩ := rfl
    rw [hstep, once_cons_iff]
    rintro (⟨hnow, hungranted⟩ | hearl)
    · exact hungranted (h.granted_of_unwritten (hwrote hnow))
    · exact h.enables hearl

theorem quiet (hdisc : r.state.Disciplined act)
    (howned : (r.state.step act).2.compensationOwned = r.state.compensationOwned)
    (hreply : ¬ (r.state.step act).1.Rejected ∧ ¬ (r.state.step act).1.ReadsEnabled)
    (hbef : (r.state.step act).2.BeforeWrite .enabling → r.state.BeforeWrite .enabling)
    (hwrote : (r.state.step act).1 = .wrote .enabling →
      r.state.manager.unwritten = some .enabling) : Granting (record step r act) := by
  refine h.keep hdisc (fun hafter => .inl ⟨howned ▸ hafter, hreply⟩) ?_ hwrote
  intro hafter
  rw [howned]
  exact h.armed (hbef hafter)

theorem disable (hdisc : r.state.Disciplined .disable) : Granting (record step r .disable) := by
  cases howned : r.state.compensationOwned with
  | true =>
    have hstep : r.state.step .disable = (.refused .mutationUncertain, r.state) := by
      simp [step, howned]
    exact h.quiet hdisc (by rw [hstep]) (by rw [hstep]; exact ⟨id, id⟩)
      (by rw [hstep]; exact id) (by rw [hstep]; rintro ⟨⟩)
  | false =>
    have hstep : r.state.step .disable = (.quiet, { r.state with
        compensationOwned := true, waiting := .disabling :: r.state.waiting }) := by
      simp [step, howned]
    refine h.keep hdisc ?_ ?_ ?_
    · exact fun _ => .inr (by rw [hstep]; exact .inl (.head _))
    · exact fun _ => by rw [hstep]
    · rw [hstep]
      simp

theorem enable (hdisc : r.state.Disciplined .enable) : Granting (record step r .enable) := by
  cases howned : r.state.compensationOwned with
  | true =>
    have hstep : r.state.step .enable =
        (.quiet, { r.state with waiting := .enabling :: r.state.waiting }) := by
      simp [step, howned]
    refine h.keep hdisc ?_ ?_ ?_
    · exact fun _ => .inl ⟨howned, by rw [hstep]; exact ⟨id, id⟩⟩
    · exact fun _ => by rw [hstep]; exact howned
    · rw [hstep]
      simp
  | false =>
    have hstep : r.state.step .enable = (.refused .mutationNotOwned, r.state) := by
      simp [step, howned]
    exact h.quiet hdisc (by rw [hstep]) (by rw [hstep]; exact ⟨id, id⟩)
      (by rw [hstep]; exact id) (by rw [hstep]; rintro ⟨⟩)

theorem session {act} (hdisc : r.state.Disciplined (.session act)) :
    Granting (record step r (.session act)) :=
  h.quiet hdisc (compensationOwned_deliver _ _) not_says_deliver
    beforeWrite_session unwritten_of_wrote_session

theorem acquire {purp} (hdisc : r.state.Disciplined (.acquire purp)) :
    Granting (record step r (.acquire purp)) := by
  have hreply : (r.state.step (.acquire purp)).1 = .quiet ∧
      (r.state.step (.acquire purp)).2.compensationOwned = r.state.compensationOwned := by
    simp only [step]
    split
    · rename_i hready
      refine ⟨?_, compensationOwned_deliver _ _⟩
      rcases (RootSessionManager.acquires hready.2 purp).report with hrpt | hrpt
      all_goals rw [deliver, hrpt]
    · exact ⟨rfl, rfl⟩
  exact h.quiet hdisc hreply.2 (by rw [hreply.1]; exact ⟨id, id⟩)
    beforeWrite_acquire (by rw [hreply.1]; rintro ⟨⟩)

/-- An answered mutation that is over leaves no other mutation in progress. -/
theorem not_enabling_of_settled {purp ans}
    (hmem : (purp, ans) ∈ r.state.answered) (hmut : purp.mutates = true)
    (hne : purp ≠ .enabling) : ¬ (r.state.settle purp ans).2.BeforeWrite .enabling := by
  have hcount := mutating_settle hmem
  rw [countP_singleton, if_pos hmut, if_neg hne] at hcount
  have hone := h.alone
  exact not_beforeWrite (by omega) rfl

theorem settle {purp ans} (hdisc : r.state.Disciplined (.settle purp ans)) :
    Granting (record step r (.settle purp ans)) := by
  by_cases hmem : (purp, ans) ∈ r.state.answered
  · have hstep : r.state.step (.settle purp ans) = r.state.settle purp ans := if_pos hmem
    have hfinal := h.not_enabling_of_settled hmem
    have hobserves := hdisc.observes
    cases purp with
    | observing =>
      refine h.keep hdisc ?_ ?_ ?_
      all_goals rw [hstep] at *
      · intro howned
        refine .inl ⟨howned, id, ?_⟩
        intro hreads
        exact hobserves howned (congrArg Reply.observed hreads)
      · exact h.armed
      · rintro ⟨⟩
    | disabling =>
      refine h.keep hdisc ?_ ?_ ?_
      all_goals rw [hstep]
      · intro howned
        simp only [EffectSystem.settle, release] at howned ⊢
        split at howned
        · cases howned
        · rename_i hacc
          exact .inl ⟨howned, by simpa [Reply.Rejected] using hacc, id⟩
      · exact fun hafter => absurd hafter (hfinal rfl (by simp))
      · rintro ⟨⟩
    | verifying out =>
      refine h.keep hdisc ?_ ?_ ?_
      all_goals rw [hstep]
      · intro howned
        simp only [EffectSystem.settle, release] at howned ⊢
        split at howned
        · cases howned
        · rename_i hunverified
          exact .inl ⟨howned, id, by simpa [Reply.ReadsEnabled] using hunverified⟩
      · exact fun hafter => absurd hafter (hfinal rfl (by simp))
      · rintro ⟨⟩
    | enabling =>
      refine h.quiet hdisc ?_ ?_ ?_ ?_
      all_goals rw [hstep]
      · rfl
      · exact ⟨id, id⟩
      · rintro (hwait | hunw)
        · exact .inl ((mem_cons.mp hwait).resolve_left (by simp))
        · exact .inr hunw
      · rintro ⟨⟩
    | other cmd =>
      refine h.quiet hdisc ?_ ?_ ?_ ?_
      all_goals rw [hstep]
      · rfl
      · exact ⟨id, id⟩
      · exact id
      · rintro ⟨⟩
  · have hstep : r.state.step (.settle purp ans) = (.quiet, r.state) := if_neg hmem
    exact h.quiet hdisc (by rw [hstep]) (by rw [hstep]; exact ⟨id, id⟩)
      (by rw [hstep]; exact id) (by rw [hstep]; rintro ⟨⟩)

theorem step (hdisc : r.state.Disciplined act) : Granting (record step r act) := by
  cases act with
  | disable => exact h.disable hdisc
  | enable => exact h.enable hdisc
  | acquire purp => exact h.acquire hdisc
  | session act => exact h.session hdisc
  | settle purp ans => exact h.settle hdisc
  | observe | other cmd =>
    refine h.quiet hdisc rfl ⟨id, id⟩ ?_ (by rintro ⟨⟩)
    rintro (hwait | hunw)
    · exact .inl ((mem_cons.mp hwait).resolve_left (by simp))
    · exact .inr hunw
  | dropWaiting purp =>
    refine h.quiet hdisc rfl ⟨id, id⟩ ?_ (by rintro ⟨⟩)
    rintro (hwait | hunw)
    · exact .inl (mem_of_mem_erase hwait)
    · exact .inr hunw

end Granting

/-! ## Whole runs -/

/-- Every enable command follows an own disable command that has been neither rejected nor
followed by a readback of enabled data. -/
theorem enable_follows_disable (actions : List Action)
    (hdisciplined : Along (record step) (fun r => r.state.Disciplined) (.init .new)
      actions) :
    ∀ newer e older, (runEffect actions).history = newer ++ e :: older →
      e.output = .wrote .enabling → Granted older := by
  intro newer e older hhistory hwrote
  have h : Granting (runEffect actions) :=
    run_invariant_along (fun _ _ h => h.step) granting_new hdisciplined
  by_contra hungranted
  exact h.enables ⟨newer, e, older, hhistory, hwrote, hungranted⟩

/-- A disable that succeeds and the enable that follows it. -/
def ownRotation : List Action :=
  [.disable, .acquire .disabling, .session (.advance .ready), .session (.advance .ready),
    .session (.shell (.run [] 0)), .session (.shell .reportStatus), .session (.advance .ready),
    .settle .disabling (.ok ⟨0, [], false, true, 1⟩),
    .enable, .acquire .enabling, .session (.advance .ready)]

theorem enable_follows_disable_ownRotation :
    (∃ e ∈ (runEffect ownRotation).history, e.output = .wrote .enabling) ∧
      ∀ newer e older, (runEffect ownRotation).history = newer ++ e :: older →
        e.output = .wrote .enabling → Granted older :=
  ⟨by decide, enable_follows_disable ownRotation (by decide)⟩

/-- The disable is dropped while it waits for the session. -/
def droppedDisable : List Action :=
  [.disable, .dropWaiting .disabling, .enable, .acquire .enabling, .session (.advance .ready),
    .session (.advance .ready)]

/-- The enable command is written though no disable command ever was. -/
theorem enable_without_disable :
    (∃ e ∈ (runEffect droppedDisable).history, e.output = .wrote .enabling) ∧
      ∀ e ∈ (runEffect droppedDisable).history, e.output ≠ .wrote .disabling := by
  decide

end MishProxy.MobileData
