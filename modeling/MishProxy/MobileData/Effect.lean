import MishProxy.Machine.Run
import MishProxy.Session.Moves

/-!
# The mobile-data effect over the root session

`MobileDataEffect` observes the mobile-data setting, disables it and enables it again. Its
one bit, `compensationOwned`, is taken by `disable` before the command reaches the session
and released when the disable is reported rejected or when the readback of an enable finds
the data enabled.

The calls of one effect and the calls of the other users of the session run side by side.
A call waits for the session lock, holds it, or has been answered and is about to use its
answer; it can be dropped while it waits and while it holds the lock. Using the answer is a
step of its own, since another thread may act between the two.
-/

namespace MishProxy.MobileData

open Session Machine List Option RootSessionManager

inductive MobileDataState where
  | enabled
  | disabled
  deriving DecidableEq, Repr

inductive MobileDataEffectError where
  | sessionUnavailable
  | observationIncomplete
  | observationRejected
  | invalidObservation
  | mutationRejected
  | mutationUncertain
  | mutationNotOwned
  deriving DecidableEq, Repr

/-! ## What the effect makes of an answer -/

def parseMobileDataState (raw : Text) : Option MobileDataState :=
  if Text.trim raw = ['1'] then some .enabled
  else if Text.trim raw = ['0'] then some .disabled
  else none

def observeResult (answer : ExecuteResult) : Except MobileDataEffectError MobileDataState :=
  match answer with
  | .error _ => .error .sessionUnavailable
  | .ok result =>
    if result.timedOut ∨ ¬ result.outputComplete then .error .observationIncomplete
    else if result.exitCode ≠ 0 then .error .observationRejected
    else
      match parseMobileDataState result.stdout with
      | some state => .ok state
      | none => .error .invalidObservation

def disableResult (answer : ExecuteResult) : Except MobileDataEffectError Unit :=
  match answer with
  | .error _ => .error .mutationUncertain
  | .ok result =>
    if result.timedOut ∨ ¬ result.outputComplete then .error .mutationUncertain
    else if result.exitCode ≠ 0 then .error .mutationRejected
    else .ok ()

/-- What the enable command's own answer is worth; it never proves success. -/
def mutationOutcome (answer : ExecuteResult) : MobileDataEffectError :=
  match answer with
  | .error _ => .mutationUncertain
  | .ok result =>
    if result.timedOut ∨ ¬ result.outputComplete then .mutationUncertain
    else if result.exitCode ≠ 0 then .mutationRejected
    else .mutationUncertain

def enableResult (outcome : MobileDataEffectError)
    (readback : Except MobileDataEffectError MobileDataState) :
    Except MobileDataEffectError Unit :=
  match readback with
  | .ok .enabled => .ok ()
  | .ok .disabled => .error outcome
  | .error _ => .error .mutationUncertain

/-! ## Calls -/

/-- What a call of the session is for. `verifying` is the readback of an enable whose
command had this outcome. -/
inductive Purpose where
  | observing
  | disabling
  | enabling
  | verifying (outcome : MobileDataEffectError)
  | other (command : RootCommand)
  deriving DecidableEq

/-- A call of `disable` or of `enable_and_verify`. -/
def Purpose.mutates : Purpose → Bool
  | .disabling | .enabling | .verifying _ => true
  | .observing | .other _ => false

structure EffectSystem where
  compensationOwned : Bool
  manager : RootSessionManager Purpose
  waiting : List Purpose
  answered : List (Purpose × ExecuteResult)

def EffectSystem.new : EffectSystem := ⟨false, .new, [], []⟩

inductive Action where
  | observe
  | disable
  | enable
  | other (command : RootCommand)
  | acquire (purpose : Purpose)
  | session (action : SessionAction)
  | dropWaiting (purpose : Purpose)
  | settle (purpose : Purpose) (answer : ExecuteResult)
  deriving DecidableEq

inductive Reply where
  | quiet
  | wrote (purpose : Purpose)
  | ran (purpose : Purpose) (status : Fin 256)
  | refused (error : MobileDataEffectError)
  | observed (result : Except MobileDataEffectError MobileDataState)
  | disabled (result : Except MobileDataEffectError Unit)
  | enabled (readback : Except MobileDataEffectError MobileDataState)
      (result : Except MobileDataEffectError Unit)
  deriving DecidableEq

/-- The mobile data was read back as enabled, by an observation of its own or by the one
that verifies an enable. -/
def Reply.ReadsEnabled : Reply → Prop
  | .observed result => result = .ok .enabled
  | .enabled readback _ => readback = .ok .enabled
  | _ => False

instance : DecidablePred Reply.ReadsEnabled
  | .observed result => inferInstanceAs (Decidable (result = .ok .enabled))
  | .enabled readback _ => inferInstanceAs (Decidable (readback = .ok .enabled))
  | .quiet | .wrote _ | .ran _ _ | .refused _ | .disabled _ => .isFalse id

def Reply.Rejected : Reply → Prop
  | .disabled result => result = .error .mutationRejected
  | _ => False

open Purpose

namespace EffectSystem

/-- What a step of the session means for the calls of the effect. -/
def deliver (s : EffectSystem) (step : Report Purpose × RootSessionManager Purpose) :
    Reply × EffectSystem :=
  let s := { s with manager := step.2 }
  match step.1 with
  | .nothing => (.quiet, s)
  | .wrote frame => (.wrote frame.caller, s)
  | .ran frame _ status => (.ran frame.caller status, s)
  | .returned purpose answer => (.quiet, { s with answered := (purpose, answer) :: s.answered })

section

variable (s : EffectSystem) (next : Report Purpose × RootSessionManager Purpose)

@[simp] theorem manager_deliver : (s.deliver next).2.manager = next.2 := by
  unfold deliver
  split <;> rfl

@[simp] theorem waiting_deliver : (s.deliver next).2.waiting = s.waiting := by
  unfold deliver
  split <;> rfl

@[simp] theorem compensationOwned_deliver :
    (s.deliver next).2.compensationOwned = s.compensationOwned := by
  unfold deliver
  split <;> rfl

variable {s next}

theorem mem_answered_deliver {purp ans} : (purp, ans) ∈ (s.deliver next).2.answered ↔
      (purp, ans) ∈ s.answered ∨ next.1 = .returned purp ans := by
  unfold deliver
  split <;> simp_all
  rw [or_comm, eq_comm, eq_comm (a := ans)]

theorem deliver_eq_wrote {purp} (h : (s.deliver next).1 = .wrote purp) :
    ∃ frame, next.1 = .wrote frame ∧ frame.caller = purp := by
  unfold deliver at h
  split at h
  all_goals try cases h
  exact ⟨_, ‹_›, rfl⟩

theorem deliver_eq_ran {purp status} (h : (s.deliver next).1 = .ran purp status) :
    ∃ frame printed, next.1 = .ran frame printed status ∧ frame.caller = purp := by
  unfold deliver at h
  split at h
  all_goals try cases h
  exact ⟨_, _, ‹_›, rfl⟩

theorem not_says_deliver : ¬ (s.deliver next).1.Rejected ∧ ¬ (s.deliver next).1.ReadsEnabled := by
  unfold deliver
  split <;> exact ⟨id, id⟩

end

def release (s : EffectSystem) (released : Bool) : EffectSystem :=
  if released then { s with compensationOwned := false } else s

def settle (s : EffectSystem) (purpose : Purpose) (answer : ExecuteResult) :
    Reply × EffectSystem :=
  let s := { s with answered := s.answered.erase (purpose, answer) }
  match purpose with
  | .observing => (.observed (observeResult answer), s)
  | .disabling =>
    let result := disableResult answer
    (.disabled result, s.release (result = .error .mutationRejected))
  | .enabling =>
    (.quiet, { s with waiting := .verifying (mutationOutcome answer) :: s.waiting })
  | .verifying outcome =>
    let readback := observeResult answer
    (.enabled readback (enableResult outcome readback), s.release (readback = .ok .enabled))
  | .other _ => (.quiet, s)

variable {purpose : Purpose} {answer : ExecuteResult}

theorem mem_of_mem_answered_settle {s : EffectSystem} :
    ∀ call ∈ (s.settle purpose answer).2.answered, call ∈ s.answered := by
  intro call hcall
  cases purpose with
  | disabling | verifying out =>
    simp only [settle, release] at hcall
    split at hcall <;> exact mem_of_mem_erase hcall
  | _ => exact mem_of_mem_erase hcall

def step (s : EffectSystem) (action : Action) : Reply × EffectSystem :=
  match action with
  | .observe => (.quiet, { s with waiting := .observing :: s.waiting })
  | .disable =>
    if s.compensationOwned then (.refused .mutationUncertain, s)
    else (.quiet, { s with compensationOwned := true, waiting := .disabling :: s.waiting })
  | .enable =>
    if s.compensationOwned then (.quiet, { s with waiting := .enabling :: s.waiting })
    else (.refused .mutationNotOwned, s)
  | .other command => (.quiet, { s with waiting := .other command :: s.waiting })
  | .acquire purpose =>
    if purpose ∈ s.waiting ∧ s.manager.active = none then
      deliver { s with waiting := s.waiting.erase purpose } (s.manager.acquire purpose)
    else (.quiet, s)
  | .session action => s.deliver (s.manager.step action)
  | .dropWaiting purpose => (.quiet, { s with waiting := s.waiting.erase purpose })
  | .settle purpose answer =>
    if (purpose, answer) ∈ s.answered then s.settle purpose answer else (.quiet, s)

/-! ## Mutations in progress -/

def inProgress (s : EffectSystem) : List Purpose :=
  s.waiting ++ (s.manager.active.map Prod.fst).toList ++ s.answered.map Prod.fst

/-- How many calls of `disable` and `enable_and_verify` are in progress. -/
def mutating (s : EffectSystem) : Nat := s.inProgress.countP Purpose.mutates

/-- A mutation is called only when no other one is in progress. -/
def Exclusive (s : EffectSystem) (action : Action) : Prop :=
  action = .disable ∨ action = .enable → s.mutating = 0

instance (s : EffectSystem) (action : Action) : Decidable (s.Exclusive action) :=
  inferInstanceAs (Decidable (_ → _))

variable {s : EffectSystem}

theorem mutating_eq (s : EffectSystem) : s.mutating = s.waiting.countP Purpose.mutates +
      (s.manager.active.map Prod.fst).toList.countP Purpose.mutates +
      (s.answered.map Prod.fst).countP mutates := by
  simp only [mutating, inProgress, countP_append]

theorem mem_inProgress : purpose ∈ s.inProgress ↔
    purpose ∈ s.waiting ∨ s.manager.active.map Prod.fst = some purpose ∨
      ∃ answer, (purpose, answer) ∈ s.answered := by
  simp [inProgress, eq_comm]

theorem two_le_mutating {other} (hact : s.manager.active.map Prod.fst = some purpose)
    (hmut : purpose.mutates = true) (hoth : other.mutates = true)
    (helse : other ∈ s.waiting ∨ ∃ answer, (other, answer) ∈ s.answered) : 2 ≤ s.mutating := by
  have hone : [purpose].countP mutates = 1 := by simp [hmut]
  rw [mutating_eq, hact, toList_some, hone]
  rcases helse with hwait | ⟨answer, hans⟩
  · have : 0 < s.waiting.countP mutates := countP_pos_iff.mpr ⟨other, hwait, hoth⟩
    omega
  · have : 0 < (s.answered.map Prod.fst).countP mutates :=
      countP_pos_iff.mpr ⟨other, mem_map_of_mem hans, hoth⟩
    omega

theorem mem_inProgress_session {act}
    (h : purpose ∈ (s.deliver (s.manager.step act)).2.inProgress) : purpose ∈ s.inProgress := by
  have hmoves := (moves_step s.manager act).active
  rw [mem_inProgress, waiting_deliver, manager_deliver] at h
  rw [mem_inProgress]
  rcases h with hwait | hact | ⟨answer, hans⟩
  · exact .inl hwait
  · rcases hmoves with ⟨_, _, _, _, hnone⟩ | ⟨_, hsame | hnone⟩
    · rw [hnone] at hact
      cases hact
    · exact .inr (.inl (hsame ▸ hact))
    · rw [hnone] at hact
      cases hact
  · rcases mem_answered_deliver.mp hans with hold | hret
    · exact .inr (.inr ⟨answer, hold⟩)
    · rcases hmoves with ⟨caller, answer', hrpt, hbef, _⟩ | ⟨hquiet, _⟩
      · obtain ⟨rfl, _⟩ := Report.returned.inj (hrpt.symm.trans hret)
        exact .inr (.inl hbef)
      · exact absurd hret (hquiet _ _)

theorem mem_inProgress_acquire {acquired}
    (h : purpose ∈ (s.step (.acquire acquired)).2.inProgress) : purpose ∈ s.inProgress := by
  simp only [step] at h
  split at h
  · rename_i hready
    have hacq := acquires hready.2 acquired
    rw [mem_inProgress, waiting_deliver, manager_deliver] at h
    rw [mem_inProgress]
    rcases h with hwait | hact | ⟨answer, hans⟩
    · exact .inl (mem_of_mem_erase hwait)
    · obtain ⟨⟨caller, stage⟩, hstg, rfl⟩ := map_eq_some_iff.mp hact
      rw [(hacq.stage hready.2 hstg).1]
      exact .inl hready.1
    · rcases mem_answered_deliver.mp hans with hold | hret
      · exact .inr (.inr ⟨answer, hold⟩)
      · rcases hacq.report with hrpt | hrpt
        · cases hret.symm.trans hrpt
        · rw [(Report.returned.inj (hret.symm.trans hrpt)).1]
          exact .inl hready.1
  · exact h

theorem countP_waiting_erase (h : purpose ∈ s.waiting) : s.waiting.countP Purpose.mutates =
      (s.waiting.erase purpose).countP mutates + [purpose].countP mutates := by
  rw [(perm_cons_erase h).countP_eq, countP_cons, countP_singleton]

theorem countP_answered_erase (h : (purpose, answer) ∈ s.answered) :
    (s.answered.map Prod.fst).countP Purpose.mutates =
      ((s.answered.erase (purpose, answer)).map Prod.fst).countP Purpose.mutates +
        [purpose].countP mutates := by
  rw [((perm_cons_erase h).map Prod.fst).countP_eq, map_cons, countP_cons, countP_singleton]

theorem mutating_session_le (s : EffectSystem) (act : SessionAction) :
    (s.deliver (s.manager.step act)).2.mutating ≤ s.mutating := by
  have hmoves := (moves_step s.manager act).active
  generalize s.manager.step act = next at hmoves ⊢
  obtain ⟨report, m⟩ := next
  simp only [mutating_eq]
  rcases hmoves with ⟨purpose, answer, hrpt, hbef, hafter⟩ | ⟨hrpt, hact⟩
  · dsimp only at hrpt hafter
    subst hrpt
    simp only [deliver, hbef, hafter, map_none, toList_none, countP_nil,
      toList_some, map_cons, countP_cons]
    omega
  · have hcalls : (m.active.map Prod.fst).toList.countP mutates ≤
        (s.manager.active.map Prod.fst).toList.countP mutates := by
      rcases hact with hsame | hnone
      · exact Nat.le_of_eq (by rw [hsame])
      · dsimp only at hnone
        simp [hnone]
    cases report with
    | returned purpose answer => exact absurd rfl (hrpt purpose answer)
    | nothing | wrote frame | ran frame printed status =>
      exact Nat.add_le_add_right (Nat.add_le_add_left hcalls _) _

theorem mutating_acquire_le (hmem : purpose ∈ s.waiting) (hfree : s.manager.active = none) :
    (deliver { s with waiting := s.waiting.erase purpose } (s.manager.acquire purpose)).2.mutating ≤
      s.mutating := by
  have hacq := acquires hfree purpose
  have hcount := countP_waiting_erase hmem
  generalize s.manager.acquire purpose = next at hacq ⊢
  obtain ⟨report, m⟩ := next
  simp only [mutating_eq, hfree]
  cases hacq with
  | refused =>
    simp only [deliver, hfree, map_cons, countP_cons, countP_nil, map_none, toList_none] at hcount ⊢
    omega
  | began hnone =>
    simp only [deliver, map_some, toList_some, map_none, toList_none, countP_nil]
    omega
  | entered hs =>
    simp only [deliver, map_none, toList_none, countP_nil]
    exact Nat.le_of_eq (by rw [hcount]; rfl)

/-- A settled call is over, unless it was the command of an enable, whose readback follows. -/
theorem mutating_settle (hmem : (purpose, answer) ∈ s.answered) :
    (s.settle purpose answer).2.mutating + [purpose].countP Purpose.mutates =
      s.mutating + if purpose = .enabling then 1 else 0 := by
  have hcount := countP_answered_erase hmem
  simp only [mutating_eq]
  cases purpose with
  | observing | other cmd => simp only [settle]; simp at hcount ⊢; omega
  | disabling | verifying out => simp only [settle, release]; split <;> simp at hcount ⊢ <;> omega
  | enabling =>
    simp only [settle, countP_cons]
    simp [mutates] at hcount ⊢
    omega

theorem mutating_step_le_one (hone : s.mutating ≤ 1) {act}
    (hexclusive : s.Exclusive act) : (s.step act).2.mutating ≤ 1 := by
  cases act with
  | observe | other cmd => exact hone
  | disable =>
    have hzero := hexclusive (.inl rfl)
    simp only [step]
    split
    · exact hone
    · simp only [mutating_eq, countP_cons] at hzero ⊢
      split <;> omega
  | enable =>
    have hzero := hexclusive (.inr rfl)
    simp only [step]
    split
    · simp only [mutating_eq, countP_cons] at hzero ⊢
      split <;> omega
    · exact hone
  | acquire purpose =>
    simp only [step]
    split
    · rename_i h
      exact (mutating_acquire_le h.1 h.2).trans hone
    · exact hone
  | session act => exact (mutating_session_le s act).trans hone
  | dropWaiting purpose =>
    have hle : (s.waiting.erase purpose).countP mutates ≤
        s.waiting.countP mutates := erase_sublist.countP_le
    simp only [step, mutating_eq] at hone ⊢
    omega
  | settle purpose answer =>
    simp only [step]
    split
    · rename_i hmem
      have hsettle := mutating_settle hmem
      split at hsettle
      · rename_i henabling
        subst henabling
        simp [mutates] at hsettle
        omega
      · omega
    · exact hone

end EffectSystem

end MishProxy.MobileData
