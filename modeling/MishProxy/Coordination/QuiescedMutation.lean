import MishProxy.Coordination.PolicyCoordinator

/-!
# Kernel changes behind a closed gate

The drain waits until no permit is in flight and then changes the kernel. It never closes the gate
itself: an event closes it, and it stays closed until the event's own request is authorized. This
breaks down when two requests of one generation are on the way: the first one opens the gate, and
the second one is current and changes the kernel while permits are handed out again.

`mutations_quiesced` says that this is the only way. `owed` are the requests that may still lead to
an authorization; no step but a new call creates one (`owed_callStep_le`, `DrainMove.owed_le`,
`owed_recoverStep_le`). As long as no call repeats a generation that is still owed, an open gate
means that nothing is owed for the current generation.

A recovery timer is live while a recovery is pending and the timer carries the present epoch. The
epoch wraps around at 64 bits: a timer that slept through all of them would come alive again when
the next recovery is scheduled, and `EpochUnused` says that none does.
-/

namespace MishProxy.Coordination

open Machine Cellular MishProxy.Runtime List CellularRuntime

/-- The request that may still lead to an authorization. -/
def DrainStage.owed : DrainStage → Option CellularAdmissionSnapshot
  | .looping => none
  | .dequeued request => some request.admission
  | .quiescing request _ => some request.admission
  | .quiesced request => some request.admission
  | .reconciling request _ => some request.admission
  | .reconciled request _ => some request.admission
  | .authorizing request _ => some request.admission
  | .resetting _ _ => none
  | .publishing request _ retry => if retry then some request.admission else none
  | .scheduling request => some request.admission

/-- The stages from the first check of the generation to the authorization. -/
def DrainStage.processing : DrainStage → Bool
  | .quiescing _ _ => true
  | .quiesced _ => true
  | .reconciling _ _ => true
  | .reconciled _ _ => true
  | .authorizing _ _ => true
  | _ => false

def DrainStage.waited : DrainStage → Bool
  | .quiescing _ _ => false
  | stage => stage.processing

theorem processing_of_waited {stage : DrainStage} (h : stage.waited = true) :
    stage.processing = true := by
  cases stage with
  | quiescing => rfl
  | _ => exact h

open PolicyCoordinator

namespace PolicyCoordinator

/-- The timers that offer their request when they fire; the first one ends the recovery. -/
def liveRecoveries (s : PolicyCoordinator) : List RecoveryTask :=
  if s.recoveryPending then s.recoveries.filter fun task => task.epoch = s.recoveryEpoch else []

/-- No timer of an ended recovery carries the present epoch. -/
def EpochUnused (s : PolicyCoordinator) : Prop :=
  s.recoveryPending = false → ∀ task ∈ s.recoveries, task.epoch ≠ s.recoveryEpoch

def owed (s : PolicyCoordinator) : List CellularAdmissionSnapshot :=
  s.calls.map Call.admission ++ s.latest.toList.map ReconcileRequest.admission ++
    (s.drain.bind DrainStage.owed).toList ++
    s.liveRecoveries.map fun task => task.request.admission

/-- Nothing is on the way for the owner's current generation. -/
def NothingOwed (s : PolicyCoordinator) : Prop :=
  ∀ admission ∈ s.owed, sameGeneration admission s.admission = false

/-! ## No step but a call creates a request -/

section

variable {s : PolicyCoordinator} (p : CellularAdmissionSnapshot → Bool)

theorem countP_owed (s : PolicyCoordinator) : s.owed.countP p =
    s.calls.countP (fun call => p call.admission) +
      s.latest.toList.countP (fun req => p req.admission) +
      (s.drain.bind DrainStage.owed).toList.countP p +
      s.liveRecoveries.countP (fun task => p task.request.admission) := by
  simp [owed, countP_map, Function.comp_def, Nat.add_assoc]

theorem countP_getD_looping (drain : Option DrainStage) :
    ((some (drain.getD .looping)).bind DrainStage.owed).toList.countP p =
      (drain.bind DrainStage.owed).toList.countP p := by
  cases drain <;> rfl

theorem owed_offer_le (req) :
    (s.offerNewOwnerRequest req).owed.countP p ≤ s.owed.countP p + [req.admission].countP p := by
  unfold offerNewOwnerRequest
  split
  · exact Nat.le_add_right _ _
  · simp only [countP_owed, scheduleDrain, countP_getD_looping, liveRecoveries,
      Option.toList_some, countP_cons, countP_nil, Bool.false_eq_true, if_false]
    omega

theorem owed_addCall (s : PolicyCoordinator) (call : Call) :
    ({ s with calls := call :: s.calls } : PolicyCoordinator).owed.countP p =
      s.owed.countP p + [call.admission].countP p := by
  simp only [countP_owed, liveRecoveries, countP_cons, countP_nil]
  omega

theorem owed_runCall_le (call : Call) : (s.runCall call).owed.countP p ≤
      s.owed.countP p + [call.admission].countP p := by
  cases call with
  | recordHint adm update => exact Nat.le_of_eq (owed_addCall p s (.publishAdmission adm))
  | publishAdmission adm => exact Nat.le_of_eq (owed_addCall p s (.enqueue adm))
  | enqueue adm =>
    simp only [runCall]
    split
    · exact Nat.le_add_right _ _
    · exact Nat.le_of_eq (owed_addCall p s (.offer _))
  | offer req => exact owed_offer_le p req

theorem owed_callStep_le (call : Call) : (s.callStep call).owed.countP p ≤ s.owed.countP p := by
  unfold callStep
  split
  · rename_i hmem
    have hperm := (perm_cons_erase hmem).countP_eq fun call => p call.admission
    have hrun := owed_runCall_le p (s := { s with calls := s.calls.erase call }) call
    simp only [countP_owed, liveRecoveries, countP_cons, countP_nil] at hrun hperm ⊢
    omega
  · exact Nat.le_refl _

theorem owed_settle_le (req res) :
    (settle req res).owed.toList.countP p ≤ [req.admission].countP p := by
  unfold settle
  split_ifs
  · split
    · rfl
    · exact Nat.zero_le _
  · exact Nat.zero_le _
  · rfl
  · exact Nat.zero_le _

theorem StageMove.owed_le {input stage next} (h : StageMove s input stage next) :
    next.owed.toList.countP p ≤ stage.owed.toList.countP p := by
  cases h with
  | abandon | timeout => exact Nat.zero_le _
  | settle => exact owed_settle_le p _ _
  | _ => exact Nat.le_refl _

theorem owed_authorize {req auth}
    (hstg : s.drain = some (.authorizing req auth)) (runtime : CellularRuntime)
    (authorized : Bool) : ({ s with
        runtime
        drain := some (if authorized then .resetting req .enforced else .looping) } :
      PolicyCoordinator).owed.countP p + [req.admission].countP p = s.owed.countP p := by
  simp only [countP_owed, hstg]
  cases authorized <;> simp [DrainStage.owed, liveRecoveries] <;> omega

theorem owed_scheduleRecovery_le (hunused : s.EpochUnused) (req) :
    (s.scheduleRecovery req).liveRecoveries.countP (fun task => p task.request.admission) ≤
      s.liveRecoveries.countP (fun task => p task.request.admission) +
        [req.admission].countP p := by
  unfold scheduleRecovery
  split
  · exact Nat.le_add_right _ _
  · rename_i hfree
    have hpending : s.recoveryPending = false := by simp_all
    have hdead : (s.recoveries.filter fun task => task.epoch = s.recoveryEpoch) = [] :=
      filter_eq_nil_iff.mpr fun task htask => by simpa using hunused hpending task htask
    simp [liveRecoveries, hdead, countP_cons]

theorem DrainMove.owed_le {input next} (hunused : s.EpochUnused) (h : DrainMove s input next) :
    next.owed.countP p ≤ s.owed.countP p := by
  cases h with
  | stay => exact Nat.le_refl _
  | move hstg hmove =>
    have hle := hmove.owed_le p
    simp only [countP_owed, hstg, goto, liveRecoveries, Option.bind_some]
    omega
  | leave hstg => simp [countP_owed, hstg, liveRecoveries, DrainStage.owed]
  | dequeue hstg hlat => simp [countP_owed, hstg, hlat, liveRecoveries, DrainStage.owed]
  | @authorize req auth hstg =>
    have heq := owed_authorize p hstg (s.runtime.authorizeRootPolicy auth).2
      (s.runtime.authorizeRootPolicy auth).1
    omega
  | reset hstg =>
    simp only [countP_owed, hstg, goto, resetRecovery, liveRecoveries]
    simp [DrainStage.owed]
  | @publish req res retry hstg =>
    simp only [countP_owed, hstg, goto, PolicyCoordinator.publish, liveRecoveries]
    cases retry <;> simp [DrainStage.owed]
  | @schedule req hstg =>
    have hle := owed_scheduleRecovery_le p hunused req
    have hkept : (s.scheduleRecovery req).calls = s.calls ∧
        (s.scheduleRecovery req).latest = s.latest := by
      unfold scheduleRecovery
      split <;> exact ⟨rfl, rfl⟩
    simp only [countP_owed, hstg, goto, hkept, liveRecoveries] at hle ⊢
    simp [DrainStage.owed] at hle ⊢
    omega

/-- A timer that is not live goes; a live one ends the recovery and may offer its request. -/
theorem owed_recoverStep_le (task) : (s.recoverStep task).owed.countP p ≤ s.owed.countP p := by
  unfold recoverStep fireRecovery
  split_ifs with hmem hdead hcur
  · have herase : ((s.recoveries.erase task).filter fun task => task.epoch = s.recoveryEpoch) <+
        s.recoveries.filter fun task => task.epoch = s.recoveryEpoch := (erase_sublist).filter _
    have hle := herase.countP_le (p := fun task => p task.request.admission)
    simp only [countP_owed, liveRecoveries]
    split <;> omega
  · have hlive : [task] <+ s.liveRecoveries := by
      simp_all [liveRecoveries]
    have hle := hlive.countP_le (p := fun task => p task.request.admission)
    simp only [countP_owed, scheduleDrain, countP_getD_looping] at hle ⊢
    simp [liveRecoveries] at hle ⊢
    omega
  · simp [countP_owed, liveRecoveries]
  · exact Nat.le_refl _

theorem runtime_scheduleRecovery (req : ReconcileRequest) (s : PolicyCoordinator) :
    (s.scheduleRecovery req).runtime = s.runtime := by
  unfold scheduleRecovery
  split <;> rfl

end

/-! ## The invariant -/

def isCurrentAdmission (s : PolicyCoordinator) (admission : CellularAdmissionSnapshot) : Bool :=
  sameGeneration admission s.admission

structure Quiescence (s : PolicyCoordinator) : Prop where
  gate : GateSound s.runtime
  justified : s.Justified
  reached : s.owed.countP (fun admission => s.runtime.owner.lastRaw < rawSequence admission) = 0
  once : s.owed.countP s.isCurrentAdmission ≤ 1
  /-- An open gate was opened by the last request of its generation. -/
  opened : s.runtime.gate.ready = true → s.owed.countP s.isCurrentAdmission = 0
  processing : ∀ stage ∈ s.drain, stage.processing = true → s.runtime.gate.ready = false
  waited : ∀ stage ∈ s.drain, stage.waited = true → s.runtime.gate.inFlight = 0

theorem quiescence_new : Quiescence new where
  gate := gateSound_new
  justified := by simp [Justified, new]
  reached := by simp [owed, liveRecoveries, new]
  once := by simp [owed, liveRecoveries, new]
  opened := by simp [new, CellularRuntime.new]
  processing := by simp [new]
  waited := by simp [new]

namespace Quiescence

variable {s next : PolicyCoordinator}

variable (h : Quiescence s)
include h

theorem ready_of_owed {adm} (howed : adm ∈ s.owed) (hcur : sameGeneration adm s.admission = true) :
    s.runtime.gate.ready = false := by
  by_contra hready
  have hnone := h.opened (by simpa using hready)
  rw [countP_eq_zero] at hnone
  exact hnone adm howed hcur

/-- A step that keeps the owner, opens no gate and creates no request. -/
theorem keep (hgate : GateSound next.runtime) (howner : next.runtime.owner = s.runtime.owner)
    (hready : next.runtime.gate.ready = true → s.runtime.gate.ready = true)
    (hjust : next.Justified)
    (howed : ∀ p, next.owed.countP p ≤ s.owed.countP p)
    (hprocessing : ∀ stage ∈ next.drain, stage.processing = true → next.runtime.gate.ready = false)
    (hwaited : ∀ stage ∈ next.drain, stage.waited = true → next.runtime.gate.inFlight = 0) :
    Quiescence next := by
  have hcur : next.isCurrentAdmission = s.isCurrentAdmission := by
    funext adm
    rw [isCurrentAdmission, isCurrentAdmission, admission, admission, howner]
  refine ⟨hgate, hjust, ?_, ?_, ?_, hprocessing, hwaited⟩
  · have hle := howed fun adm => s.runtime.owner.lastRaw < rawSequence adm
    rw [howner]
    exact Nat.le_zero.mp (Nat.le_trans hle (Nat.le_of_eq h.reached))
  · rw [hcur]
    exact Nat.le_trans (howed _) h.once
  · intro hopen
    rw [hcur]
    exact Nat.le_zero.mp (Nat.le_trans (howed _) (Nat.le_of_eq (h.opened (hready hopen))))

theorem frame (hframe : Frame s next)
    (howed : ∀ p, next.owed.countP p ≤ s.owed.countP p) : Quiescence next := by
  refine h.keep (hframe.runtime ▸ h.gate) (by rw [hframe.runtime]) (by simp [hframe.runtime])
    (hframe.justified h.justified) howed ?_ ?_
  all_goals
    intro stage hstg hkind
    rw [hframe.runtime]
    rcases hframe.drain stage hstg with hbef | rfl
  · exact h.processing stage hbef hkind
  · cases hkind
  · exact h.waited stage hbef hkind
  · cases hkind

theorem keepIdle (hrt : next.runtime = s.runtime) (hjust : next.Justified)
    (howed : ∀ p, next.owed.countP p ≤ s.owed.countP p)
    (hidle : ∀ stage ∈ next.drain, stage.processing = false) : Quiescence next := by
  refine h.keep (hrt ▸ h.gate) (by rw [hrt]) (by simp [hrt]) hjust howed ?_ ?_
  · exact fun stage hstg hkind => absurd ((hidle stage hstg).symm.trans hkind) (by simp)
  · exact fun stage hstg hkind =>
      absurd ((hidle stage hstg).symm.trans (processing_of_waited hkind)) (by simp)

theorem withRuntime {runtime} (hgate : GateSound runtime) (howner : runtime.owner = s.runtime.owner)
    (hready : runtime.gate.ready = true → s.runtime.gate.ready = true)
    (hfly : s.runtime.gate.ready = false → s.runtime.gate.inFlight = 0 →
      runtime.gate.inFlight = 0) : Quiescence { s with runtime } := by
  have hclos : s.runtime.gate.ready = false → runtime.gate.ready = false := by
    intro hbef
    by_contra hafter
    cases hbef.symm.trans (hready (by simpa using hafter))
  refine h.keep hgate howner hready h.justified (fun p => Nat.le_refl _) ?_ ?_
  · intro stage hstg hkind
    exact hclos (h.processing stage hstg hkind)
  · intro stage hstg hkind
    exact hfly (h.processing stage hstg (processing_of_waited hkind))
      (h.waited stage hstg hkind)

theorem acquire : Quiescence { s with runtime := s.runtime.acquire.2 } := by
  refine h.withRuntime h.gate.acquire ?_ ?_ ?_
  all_goals
    rw [acquire_eq]
    split_ifs with hopen
  · rfl
  · rfl
  · exact fun hready => hready
  · exact fun hready => hready
  · exact fun hclos => absurd (hclos.symm.trans hopen.1) (by simp)
  · exact fun _ hzero => hzero

theorem dropPermit : Quiescence { s with runtime := s.runtime.dropPermit } := by
  refine h.withRuntime h.gate.dropPermit ?_ ?_ ?_
  all_goals
    unfold CellularRuntime.dropPermit RootPolicyEffectGateState.dropPermit
    split_ifs
  all_goals simp_all

theorem closeGate : Quiescence { s with runtime := s.runtime.closeGate } :=
  h.withRuntime h.gate.closeGate rfl (by rintro ⟨⟩) fun _ hzero => hzero

/-! ### New requests -/

/-- A call reads the owner while the gate is closed and nothing is owed for what it reads. -/
theorem addCall (hgate : GateSound next.runtime) (hclos : next.runtime.gate.ready = false)
    (hfly : next.runtime.gate.inFlight = s.runtime.gate.inFlight)
    (hlast : s.runtime.owner.lastRaw ≤ next.runtime.owner.lastRaw)
    (hnothing : s.owed.countP next.isCurrentAdmission = 0)
    (hdrain : next.drain = s.drain)
    (howed : ∀ p, next.owed.countP p = s.owed.countP p + [next.admission].countP p) :
    Quiescence next := by
  refine ⟨hgate, ?_, ?_, ?_, ?_, fun _ _ _ => hclos, ?_⟩
  · intro stage hstg
    exact h.justified stage (hdrain ▸ hstg)
  · rw [howed]
    have hself : rawSequence next.admission = next.runtime.owner.lastRaw := rfl
    have hold : s.owed.countP (fun adm => next.runtime.owner.lastRaw < rawSequence adm) ≤
        s.owed.countP (fun adm => s.runtime.owner.lastRaw < rawSequence adm) := by
      refine countP_mono_left fun adm _ hlt => ?_
      simp only [decide_eq_true_eq] at hlt ⊢
      omega
    have hrch := h.reached
    simp only [countP_singleton, hself, Nat.lt_irrefl, decide_false, Bool.false_eq_true, if_false]
    omega
  · rw [howed, hnothing, countP_singleton]
    split <;> simp
  · exact fun hready => absurd (hclos.symm.trans hready) (by simp)
  · rw [hdrain, hfly]
    exact h.waited

theorem nothingOwed_of_accepts {ev} (haccs : s.runtime.owner.accepts ev = true) :
    s.owed.countP (fun adm => sameGeneration adm (s.runtime.owner.next ev).admission) = 0 := by
  have hlt := CellularEgress.lastRaw_next_of_accepts haccs
  rw [countP_eq_zero]
  intro adm howed hcur
  have hrch := countP_eq_zero.mp h.reached adm howed
  have hsame : rawSequence adm = (s.runtime.owner.next ev).lastRaw :=
    rawSequence_of_sameGeneration hcur
  rw [decide_eq_true_eq] at hrch
  omega

theorem ownerEvent (ev update) (hfresh : s.runtime.owner.accepts ev = true ∨ s.NothingOwed) :
    Quiescence (s.ownerEvent ev update) := by
  have howner : (s.ownerEvent ev update).runtime.owner = s.runtime.owner.next ev := rfl
  have hgate : GateSound (s.ownerEvent ev update).runtime := h.gate.closeGate.applyEvent ev rfl
  have hcur : (s.ownerEvent ev update).isCurrentAdmission =
      fun adm => sameGeneration adm (s.runtime.owner.next ev).admission := rfl
  have hnew : s.runtime.owner.lastRaw ≤ (s.runtime.owner.next ev).lastRaw ∧
      s.owed.countP (s.ownerEvent ev update).isCurrentAdmission = 0 := by
    rw [hcur]
    cases haccs : s.runtime.owner.accepts ev with
    | true =>
      exact ⟨Nat.le_of_lt (CellularEgress.lastRaw_next_of_accepts haccs),
        h.nothingOwed_of_accepts haccs⟩
    | false =>
      rw [CellularEgress.next_of_not_accepts haccs]
      refine ⟨Nat.le_refl _, countP_eq_zero.mpr ?_⟩
      intro adm howed
      have hnothing := hfresh.resolve_left (by simp [haccs])
      simpa [admission] using hnothing adm howed
  exact h.addCall hgate rfl rfl hnew.1 hnew.2 rfl fun p => owed_addCall p s _

theorem start (hclos : s.runtime.gate.ready = false) (hnothing : s.NothingOwed) :
    Quiescence (s.step .start) := by
  refine h.addCall h.gate hclos rfl (Nat.le_refl _) ?_ rfl fun p => owed_addCall p s _
  rw [countP_eq_zero]
  intro adm howed
  exact Bool.eq_false_iff.mp (hnothing adm howed)

end Quiescence

/-! ### The drain -/

theorem StageMove.processing {s input stage next}
    (hmove : StageMove s input stage next) (hnext : next.processing = true) :
    stage.processing = true ∨ ∃ req, stage = .dequeued req ∧ s.requestIsCurrent req = true := by
  cases hmove with
  | abandon | timeout => cases hnext
  | accept hcur => exact .inr ⟨_, rfl, hcur⟩
  | _ => exact .inl rfl

theorem StageMove.waited {s input stage next}
    (hmove : StageMove s input stage next) (hnext : next.waited = true) :
    stage.waited = true ∨ s.runtime.gate.inFlight = 0 := by
  cases hmove with
  | abandon | timeout | accept | wait => cases hnext
  | quiesce hfly => exact .inr hfly
  | _ => exact .inl rfl

namespace Quiescence

variable {s next : PolicyCoordinator}

variable (h : Quiescence s)
include h

theorem move (hunused : s.EpochUnused) {input before after}
    (hstg : s.drain = some before) (hmove : StageMove s input before after) :
    Quiescence (s.goto after) := by
  have hdrain : DrainMove s input (s.goto after) := .move hstg hmove
  refine h.keep h.gate rfl (fun hready => hready) (hdrain.justified h.justified)
    (fun p => hdrain.owed_le p hunused) ?_ ?_
  · intro stage hafter hkind
    cases hafter
    rcases hmove.processing hkind with hbef | ⟨req, rfl, hcur⟩
    · exact h.processing before hstg hbef
    · have howed : req.admission ∈ s.owed := by simp [owed, hstg, DrainStage.owed]
      exact h.ready_of_owed howed hcur
  · intro stage hafter hkind
    cases hafter
    rcases hmove.waited hkind with hbef | hfly
    · exact h.waited before hstg hbef
    · exact hfly

theorem authorize (hunused : s.EpochUnused) {req auth}
    (hstg : s.drain = some (.authorizing req auth)) : Quiescence { s with
      runtime := (s.runtime.authorizeRootPolicy auth).2
      drain := some (if (s.runtime.authorizeRootPolicy auth).1 then
        .resetting req .enforced else .looping) } := by
  have hdrain : DrainMove s .next _ := .authorize hstg
  have hle := fun p => hdrain.owed_le p hunused
  have heq := owed_authorize s.isCurrentAdmission hstg (s.runtime.authorizeRootPolicy auth).2
    (s.runtime.authorizeRootPolicy auth).1
  have hgate := h.gate.authorizeRootPolicy auth
  have hjust := hdrain.justified h.justified
  have hasks := isCurrent_eq_requestIsCurrent (s := s) (h.justified _ hstg)
  unfold authorizeRootPolicy at heq hgate hjust hle ⊢
  split at hgate
  · rename_i hcur
    simp only [hcur, if_true] at heq hjust hle ⊢
    have honce := h.once
    have hrch := hle fun adm => s.runtime.owner.lastRaw < rawSequence adm
    -- the request itself was the one that is owed
    have hself : s.isCurrentAdmission req.admission = true := hasks.symm.trans hcur
    rw [countP_singleton, if_pos hself] at heq
    refine ⟨hgate, hjust, Nat.le_zero.mp (h.reached ▸ hrch), ?_, ?_, ?_, ?_⟩
    · exact Nat.le_trans (hle s.isCurrentAdmission) honce
    · intro _
      refine Nat.le_zero.mp ?_
      exact Nat.le_of_add_le_add_right (heq.trans_le honce)
    · simp [DrainStage.processing]
    · simp [DrainStage.waited, DrainStage.processing]
  · rename_i hstale
    simp only [hstale] at hjust hle ⊢
    refine h.keep hgate rfl (by rintro ⟨⟩) hjust hle ?_ ?_
    · simp [DrainStage.processing]
    · simp [DrainStage.waited, DrainStage.processing]

theorem drainStep (hunused : s.EpochUnused) (input) : Quiescence (s.drainStep input) := by
  have hmove := drainStep_move s input
  have howed := fun p => hmove.owed_le p hunused
  have hjust := hmove.justified h.justified
  revert howed hjust hmove
  generalize s.drainStep input = next
  intro hmove howed hjust
  cases hmove with
  | stay => exact h
  | move hstg hmove => exact h.move hunused hstg hmove
  | leave => exact h.keepIdle rfl hjust howed (by simp)
  | dequeue => exact h.keepIdle rfl hjust howed (by simp [DrainStage.processing])
  | authorize hstg => exact h.authorize hunused hstg
  | reset => exact h.keepIdle rfl hjust howed (by simp [goto, DrainStage.processing])
  | publish =>
    refine h.keepIdle rfl hjust howed ?_
    intro stage hstg
    cases hstg
    split <;> rfl
  | @schedule req =>
    exact h.keepIdle (runtime_scheduleRecovery req s) hjust howed
      (by simp [goto, DrainStage.processing])

theorem callStep (call : Call) : Quiescence (s.callStep call) :=
  h.frame (frame_callStep call) fun p => owed_callStep_le p call

theorem recoverStep (task) : Quiescence (s.recoverStep task) :=
  h.frame (frame_recoverStep task) fun p => owed_recoverStep_le p task

theorem shutdown : Quiescence (s.step .shutdown) := by
  refine h.keep h.gate rfl (fun hready => hready) h.justified ?_ h.processing h.waited
  intro p
  simp only [countP_owed, step, resetRecovery, liveRecoveries, Option.toList_none, countP_nil,
    Bool.false_eq_true, if_false]
  omega

end Quiescence

/-! ## Whole runs -/

/-- The calls of the step read a generation for which nothing is on the way, behind a closed
gate, and no timer has slept through all epochs when the drain schedules the next one. -/
def RepeatsNothing (s : PolicyCoordinator) : CoordinatorAction → Prop
  | .observeNetwork observation _ _ =>
    s.runtime.owner.accepts (.observed observation) = true ∨ s.NothingOwed
  | .networkLost sequence handle =>
    s.runtime.owner.accepts (.lost sequence handle) = true ∨ s.NothingOwed
  | .start => s.runtime.gate.ready = false ∧ s.NothingOwed
  | .drain _ => s.EpochUnused
  | _ => True

instance (s : PolicyCoordinator) : Decidable s.NothingOwed :=
  inferInstanceAs (Decidable (∀ admission ∈ s.owed, sameGeneration admission s.admission = false))

instance (s : PolicyCoordinator) : ∀ action, Decidable (s.RepeatsNothing action)
  | .observeNetwork observation _ _ => inferInstanceAs
    (Decidable (s.runtime.owner.accepts (.observed observation) = true ∨ s.NothingOwed))
  | .networkLost sequence handle => inferInstanceAs
    (Decidable (s.runtime.owner.accepts (.lost sequence handle) = true ∨ s.NothingOwed))
  | .start => inferInstanceAs (Decidable (s.runtime.gate.ready = false ∧ s.NothingOwed))
  | .drain _ => inferInstanceAs (Decidable (_ → _))
  | .call _ | .recover _ | .acquire | .dropPermit | .shutdown | .closeGate =>
    .isTrue trivial

theorem Quiescence.step {s} (h : Quiescence s) {act}
    (hfresh : s.RepeatsNothing act) : Quiescence (s.step act) := by
  cases act with
  | observeNetwork obs observedHandle interfaceName | networkLost seq handle =>
    exact h.ownerEvent _ _ hfresh
  | start => exact h.start hfresh.1 hfresh.2
  | call call => exact h.callStep call
  | drain input => exact h.drainStep hfresh input
  | recover task => exact h.recoverStep task
  | acquire => exact h.acquire
  | dropPermit => exact h.dropPermit
  | shutdown => exact h.shutdown
  | closeGate => exact h.closeGate

end PolicyCoordinator

/-- While a reconcile run changes the kernel no permit is live and none can be acquired, as
long as no call repeats a generation that is still on the way. -/
theorem mutations_quiesced (actions : List CoordinatorAction)
    (hfresh : Along PolicyCoordinator.step PolicyCoordinator.RepeatsNothing .new actions)
    (request : ReconcileRequest) (mutations : Nat)
    (hstage : (runCoordinator actions).drain = some (.reconciling request mutations)) :
    (runCoordinator actions).runtime.permits = 0 ∧
      (runCoordinator actions).runtime.acquire.1 = false := by
  have h : (runCoordinator actions).Quiescence :=
    run_invariant_along (fun _ _ h hfresh => h.step hfresh) quiescence_new hfresh
  have hready := h.processing _ hstage rfl
  refine ⟨h.gate.permits.symm.trans (h.waited _ hstage rfl), ?_⟩
  rw [acquire_eq, if_neg (by simp [hready])]

theorem mutations_quiesced_sampleRun :
    (runCoordinator (observeAndOffer ⟨1, by decide⟩ ++ drainToMutation)).drain =
        some (.reconciling (sampleRequest ⟨1, by decide⟩) 1) ∧
      (runCoordinator (observeAndOffer ⟨1, by decide⟩ ++ drainToMutation)).runtime.acquire.1 =
        false :=
  ⟨by decide, (mutations_quiesced (observeAndOffer ⟨1, by decide⟩ ++ drainToMutation) (by decide)
    (sampleRequest ⟨1, by decide⟩) 1 (by decide)).2⟩

/-! ## Two requests of one generation -/

/-- The same observation arrives a second time before the first request is authorized. The
owner ignores it, but its request is offered; it is dequeued after the authorization, and a
connect takes its permit after the first change. -/
def repeatedObservation : List CoordinatorAction :=
  observeAndOffer firstSequence ++ drainToMutation ++ observeAndOffer firstSequence ++
    drainToPublication ++ drainToMutation ++ [.acquire]

/-- A permit is live between two changes of one reconcile run. -/
theorem permit_between_mutations :
    (runCoordinator repeatedObservation).drain =
        some (.reconciling (sampleRequest ⟨1, by decide⟩) 1) ∧
      (runCoordinator repeatedObservation).runtime.permits = 1 ∧
      (runCoordinator (repeatedObservation ++ [.drain .mutate])).drain =
        some (.reconciling (sampleRequest ⟨1, by decide⟩) 2) ∧
      (runCoordinator (repeatedObservation ++ [.drain .mutate])).runtime.permits = 1 := by
  decide

end MishProxy.Coordination
