import MishProxy.Coordination.PolicyCoordinator

/-!
# Which generations the coordinator publishes

The owner's current generation is held by a call that has not offered it yet, by the queue,
by the drain, or by the last publication. A step that lets go of it passes it on or finds
that it is not current any more, with two exceptions:

* the queue keeps the latest offer and not the newest generation, so an older request that
  is offered late replaces the request of the current generation;
* a wait for quiescence that times out drops its request.

Without these, `no_generation_lost` holds. Sequence numbers order the generations: what the
coordinator holds is not newer than the owner, and equally new only if it is current
(`Stamped`).
-/

namespace MishProxy.Coordination

open Machine Cellular MishProxy.Runtime DrainStage

variable {admission : CellularAdmissionSnapshot}

theorem sameGeneration_self (h : admission.Complete) :
    sameGeneration admission admission = true := by
  unfold sameGeneration
  split
  · rename_i hnone
    obtain ⟨hst, hnet⟩ := h.unheard hnone
    exact decide_eq_true ⟨hst, hst, hnone, hnet, hnet⟩
  · exact decide_eq_true ⟨rfl, rfl, rfl⟩

/-- Not newer than the owner, and equally new only if it is the current generation. -/
structure Stamped (owner : CellularEgress) (admission : CellularAdmissionSnapshot) : Prop where
  reached : rawSequence admission ≤ owner.lastRaw
  current : rawSequence admission = owner.lastRaw →
    sameGeneration admission owner.admission = true

theorem Stamped.of_current {owner}
    (h : sameGeneration admission owner.admission = true) : Stamped owner admission :=
  ⟨Nat.le_of_eq (rawSequence_of_sameGeneration h), fun _ => h⟩

theorem Stamped.next {owner} (h : Stamped owner admission) (ev) :
    Stamped (owner.next ev) admission := by
  cases haccs : owner.accepts ev with
  | true =>
    have hlt := CellularEgress.lastRaw_next_of_accepts haccs
    have hle := h.reached
    exact ⟨by omega, fun heq => absurd heq (by omega)⟩
  | false =>
    rw [CellularEgress.next_of_not_accepts haccs]
    exact h

/-! ## Who holds a generation -/

/-- The request that the drain has not published yet. -/
def DrainStage.unpublished : DrainStage → Option CellularAdmissionSnapshot
  | .looping => none
  | .dequeued request => some request.admission
  | .quiescing request _ => some request.admission
  | .quiesced request => some request.admission
  | .reconciling request _ => some request.admission
  | .reconciled request _ => some request.admission
  | .authorizing request _ => some request.admission
  | .resetting request _ => some request.admission
  | .publishing request _ _ => some request.admission
  | .scheduling _ => none

/-- The same once the drain has found it current. -/
def DrainStage.checked : DrainStage → Option CellularAdmissionSnapshot
  | .dequeued _ => none
  | stage => stage.unpublished

theorem unpublished_of_checked {stage : DrainStage} (h : stage.checked = some admission) :
    stage.unpublished = some admission := by
  cases stage with
  | dequeued => cases h
  | _ => exact h

/-- The request of a wait that may time out. -/
def DrainStage.waitsFor : DrainStage → Option CellularAdmissionSnapshot
  | .quiescing request true => some request.admission
  | _ => none

open CellularRuntime

namespace PolicyCoordinator

inductive Holds (s : PolicyCoordinator) (admission : CellularAdmissionSnapshot) : Prop
  | call {call : Call} (hcall : call ∈ s.calls) (hadmission : call.admission = admission)
  | latest {request : ReconcileRequest} (hlatest : s.latest = some request)
      (hadmission : request.admission = admission)
  | drain {stage : DrainStage} (hstage : s.drain = some stage)
      (hadmission : stage.unpublished = some admission)
  | published {publication : CellularPolicyPublication}
      (hpublished : s.lastPublication = some publication)
      (hadmission : publication.admission = admission)

variable {s : PolicyCoordinator}

theorem Holds.mono {next : PolicyCoordinator} {admission : CellularAdmissionSnapshot}
    (h : s.Holds admission)
    (hcalls : ∀ call ∈ s.calls, ∃ other ∈ next.calls, other.admission = call.admission)
    (hlat : ∀ req, s.latest = some req → next.latest = some req)
    (hdrain : ∀ stage, s.drain = some stage → next.drain = some stage ∨ stage.unpublished = none)
    (hpub : next.lastPublication = s.lastPublication) : next.Holds admission := by
  cases h with
  | call hcall heq =>
    obtain ⟨other, hoth, hsame⟩ := hcalls _ hcall
    exact .call hoth (hsame.trans heq)
  | latest hqueued heq => exact .latest (hlat _ hqueued) heq
  | drain hstg heq =>
    rcases hdrain _ hstg with hnext | hnone
    · exact .drain hnext heq
    · cases hnone.symm.trans heq
  | published hlast heq => exact .published (hpub.trans hlast) heq

def HoldsCurrent (s : PolicyCoordinator) : Prop :=
  ∃ admission, s.Holds admission ∧ sameGeneration admission s.admission = true

structure Coverage (s : PolicyCoordinator) : Prop where
  justified : s.Justified
  complete : s.admission.Complete
  stamped : ∀ admission, s.Holds admission → Stamped s.runtime.owner admission
  /-- What the drain is going to publish is not older than what is published. -/
  newest : ∀ stage ∈ s.drain, ∀ admission ∈ stage.checked, ∀ publication ∈ s.lastPublication,
    rawSequence publication.admission ≤ rawSequence admission
  held : s.closed = false → (s.calls = [] ∧ s.requested = 0) ∨ s.HoldsCurrent

theorem coverage_new : Coverage new where
  justified := by simp [Justified, new]
  complete := ⟨fun _ => ⟨rfl, rfl⟩, by rintro ⟨⟩⟩
  stamped := by
    intro admission h
    cases h with
    | call hcall => cases hcall
    | latest hlat => cases hlat
    | drain hstg => cases hstg
    | published hpub => cases hpub
  newest := by simp [new]
  held := fun _ => .inl ⟨rfl, rfl⟩

namespace Coverage

variable {s next : PolicyCoordinator}

variable (h : Coverage s)
include h

/-- A step that keeps the owner. What it holds afterwards was held before or is current. -/
theorem keep (howner : next.runtime.owner = s.runtime.owner) (hjust : next.Justified)
    (hback : ∀ admission, next.Holds admission →
      s.Holds admission ∨ sameGeneration admission s.admission = true)
    (hnewest : ∀ stage ∈ next.drain, ∀ admission ∈ stage.checked,
      ∀ publication ∈ next.lastPublication,
        rawSequence publication.admission ≤ rawSequence admission)
    (hheld : next.closed = false → (next.calls = [] ∧ next.requested = 0) ∨ next.HoldsCurrent) :
    Coverage next := by
  have hadm : next.admission = s.admission := congrArg CellularEgress.admission howner
  refine ⟨hjust, hadm ▸ h.complete, ?_, hnewest, hheld⟩
  intro admission hnext
  rw [howner]
  rcases hback admission hnext with hbef | hcur
  · exact h.stamped admission hbef
  · exact Stamped.of_current hcur

theorem frame (hframe : Frame s next) (hback : ∀ admission, next.Holds admission →
      s.Holds admission ∨ sameGeneration admission s.admission = true)
    (hheld : next.closed = false → (next.calls = [] ∧ next.requested = 0) ∨ next.HoldsCurrent) :
    Coverage next := by
  refine h.keep (by rw [hframe.runtime]) (hframe.justified h.justified) hback ?_ hheld
  intro stage hstg admission hadm
  rw [hframe.lastPublication]
  rcases hframe.drain stage hstg with hbef | rfl
  · exact h.newest stage hbef admission hadm
  · cases hadm

theorem sameHolders (howner : next.runtime.owner = s.runtime.owner)
    (hcalls : next.calls = s.calls) (hlat : next.latest = s.latest) (hdrain : next.drain = s.drain)
    (hpub : next.lastPublication = s.lastPublication) (hreq : next.requested = s.requested)
    (hclos : next.closed = s.closed) : Coverage next := by
  have hsame : ∀ admission, next.Holds admission ↔ s.Holds admission := by
    intro admission
    constructor <;> intro hholds
    · exact hholds.mono (fun call hcall => ⟨call, hcalls ▸ hcall, rfl⟩)
        (fun _ hqueued => hlat ▸ hqueued) (fun _ hstg => .inl (hdrain ▸ hstg)) hpub.symm
    · exact hholds.mono (fun call hcall => ⟨call, hcalls ▸ hcall, rfl⟩)
        (fun _ hqueued => hlat ▸ hqueued) (fun _ hstg => .inl (hdrain ▸ hstg)) hpub
  refine h.keep howner ?_ (fun admission hnext => .inl ((hsame admission).mp hnext)) ?_ ?_
  · exact fun stage hstg => h.justified stage (hdrain ▸ hstg)
  · rw [hdrain, hpub]
    exact h.newest
  · rw [hcalls, hreq, hclos]
    intro hopen
    refine (h.held hopen).imp_right ?_
    rintro ⟨admission, hholds, hcur⟩
    refine ⟨admission, (hsame admission).mpr hholds, ?_⟩
    simpa only [PolicyCoordinator.admission, howner] using hcur

/-! ### Calls -/

theorem addCall {runtime call}
    (hstamped : ∀ admission, Stamped s.runtime.owner admission → Stamped runtime.owner admission)
    (hcomp : runtime.owner.admission.Complete)
    (hcall : call.admission = runtime.owner.admission) :
    Coverage { s with runtime, calls := call :: s.calls } := by
  have hcur : sameGeneration call.admission runtime.owner.admission = true := by
    rw [hcall]
    exact sameGeneration_self hcomp
  refine ⟨h.justified, hcomp, ?_, h.newest, ?_⟩
  · intro admission hholds
    cases hholds with
    | call hmem heq =>
      rcases List.mem_cons.mp hmem with rfl | hbef
      · exact Stamped.of_current (heq ▸ hcur)
      · exact hstamped _ (h.stamped _ (.call hbef heq))
    | latest hlat heq => exact hstamped _ (h.stamped _ (.latest hlat heq))
    | drain hstg heq => exact hstamped _ (h.stamped _ (.drain hstg heq))
    | published hpub heq => exact hstamped _ (h.stamped _ (.published hpub heq))
  · exact fun _ => .inr ⟨call.admission, .call (.head _) rfl, hcur⟩

theorem ownerEvent (ev update) : Coverage (s.ownerEvent ev update) := by
  have hcomp : (s.runtime.owner.next ev).admission.Complete := by
    cases haccs : s.runtime.owner.accepts ev with
    | true =>
      rw [CellularEgress.next_of_accepts haccs]
      exact CellularAdmissionSnapshot.Complete.accept h.complete ev
    | false =>
      rw [CellularEgress.next_of_not_accepts haccs]
      exact h.complete
  exact h.addCall (fun _ hstamped => hstamped.next ev) hcomp rfl

theorem start : Coverage (s.step .start) := h.addCall (fun _ hstamped => hstamped) h.complete rfl

theorem heldCurrent_of_call {call : Call} (hmem : call ∈ s.calls)
    (hopen : s.closed = false) : s.HoldsCurrent :=
  (h.held hopen).resolve_left fun hnone => by simp [hnone.1] at hmem

theorem replaceCall {call : Call} (hmem : call ∈ s.calls) (replacement : Call)
    (hsame : replacement.admission = call.admission) {hints lastAdmission} : Coverage { s with
      interfaceHints := hints
      lastAdmission
      calls := replacement :: s.calls.erase call } := by
  refine h.frame ⟨rfl, rfl, rfl, fun _ hstg => .inl hstg⟩ ?_ ?_
  · intro admission hholds
    refine .inl (hholds.mono ?_ (fun _ hlat => hlat) (fun _ hstg => .inl hstg) rfl)
    intro other hother
    rcases List.mem_cons.mp hother with rfl | hother
    · exact ⟨call, hmem, hsame.symm⟩
    · exact ⟨other, List.mem_of_mem_erase hother, rfl⟩
  · intro hopen
    obtain ⟨admission, hholds, hcur⟩ := h.heldCurrent_of_call hmem hopen
    refine .inr ⟨admission, hholds.mono ?_ (fun _ hlat => hlat) (fun _ hstg => .inl hstg) rfl, hcur⟩
    intro other hother
    by_cases hcall : other = call
    · exact ⟨replacement, .head _, hcall ▸ hsame⟩
    · exact ⟨other, .tail _ ((List.mem_erase_of_ne hcall).mpr hother), rfl⟩

/-- A closed coordinator is not asked to hold anything. -/
theorem dropCall {call : Call} (hclos : s.closed = true) :
    Coverage { s with calls := s.calls.erase call } := by
  refine h.frame ⟨rfl, rfl, rfl, fun _ hstg => .inl hstg⟩ ?_ ?_
  · intro admission hholds
    refine .inl (hholds.mono ?_ (fun _ hlat => hlat) (fun _ hstg => .inl hstg) rfl)
    exact fun other hoth => ⟨other, List.mem_of_mem_erase hoth, rfl⟩
  · exact fun hopen => absurd (hclos.symm.trans hopen) (by simp)

theorem offer {req} (hmem : Call.offer req ∈ s.calls)
    (hkeeps : ∀ queued ∈ s.latest, s.requestIsCurrent queued = true →
      s.requestIsCurrent req = true) : Coverage (s.callStep (.offer req)) := by
  have hframe := frame_callStep (s := s) (.offer req)
  revert hframe
  rw [callStep, if_pos hmem, runCall, offerNewOwnerRequest]
  split
  · rename_i hclos
    exact fun _ => h.dropCall hclos
  · intro hframe
    refine h.frame hframe ?_ ?_
    · intro admission hholds
      refine .inl ?_
      cases hholds with
      | call hcall heq => exact .call (List.mem_of_mem_erase hcall) heq
      | latest hlat heq =>
        cases hlat
        exact .call hmem heq
      | drain hstg heq =>
        rcases hframe.drain _ hstg with hbef | rfl
        · exact .drain hbef heq
        · cases heq
      | published hpub heq => exact .published hpub heq
    · intro hopen
      obtain ⟨admission, hholds, hcur⟩ := h.heldCurrent_of_call hmem hopen
      cases hholds with
      | @call other hoth heq =>
        by_cases hcall : other = .offer req
        · subst hcall
          exact .inr ⟨admission, .latest rfl heq, hcur⟩
        · exact .inr ⟨admission, .call ((List.mem_erase_of_ne hcall).mpr hoth) heq, hcur⟩
      | latest hlat heq =>
        subst heq
        exact .inr ⟨req.admission, .latest rfl rfl, hkeeps _ hlat hcur⟩
      | drain hstg heq => exact .inr ⟨admission, .drain (by simp [scheduleDrain, hstg]) heq, hcur⟩
      | published hpub heq => exact .inr ⟨admission, .published hpub heq, hcur⟩

theorem callStep (call : Call) (hkeeps : ∀ req, call = .offer req → ∀ queued ∈ s.latest,
      s.requestIsCurrent queued = true → s.requestIsCurrent req = true) :
    Coverage (s.callStep call) := by
  by_cases hmem : call ∈ s.calls
  · cases call with
    | recordHint admission update =>
      rw [PolicyCoordinator.callStep, if_pos hmem]
      exact h.replaceCall hmem (.publishAdmission admission) rfl
    | publishAdmission admission =>
      rw [PolicyCoordinator.callStep, if_pos hmem]
      exact h.replaceCall hmem (.enqueue admission) rfl
    | enqueue admission =>
      rw [PolicyCoordinator.callStep, if_pos hmem, runCall]
      split
      · rename_i hclos
        exact h.dropCall hclos
      · exact h.replaceCall hmem (.offer ⟨admission, s.interfaceHint admission⟩) rfl
    | offer req => exact h.offer hmem (hkeeps req rfl)
  · rw [PolicyCoordinator.callStep, if_neg hmem]
    exact h

/-! ### Timers -/

/-- A timer queues its request only while it is current. -/
theorem requeue {req} (hcur : s.requestIsCurrent req = true) :
    Coverage (scheduleDrain { s with latest := some req }) := by
  refine h.frame ⟨rfl, rfl, rfl, fun _ hstg => mem_scheduleDrain hstg⟩ ?_ ?_
  · intro admission hholds
    cases hholds with
    | call hcall heq => exact .inl (.call hcall heq)
    | latest hlat heq =>
      cases hlat
      exact .inr (heq ▸ hcur)
    | drain hstg heq =>
      rcases mem_scheduleDrain hstg with hbef | rfl
      · exact .inl (.drain hbef heq)
      · cases heq
    | published hpub heq => exact .inl (.published hpub heq)
  · exact fun _ => .inr ⟨req.admission, .latest rfl rfl, hcur⟩

theorem recoverStep (task) : Coverage (s.recoverStep task) := by
  unfold PolicyCoordinator.recoverStep fireRecovery
  split_ifs with hmem hdead hcur
  · exact h.sameHolders rfl rfl rfl rfl rfl rfl rfl
  · have htaken :
        Coverage { s with recoveries := s.recoveries.erase task, recoveryPending := false } :=
      h.sameHolders rfl rfl rfl rfl rfl rfl rfl
    exact htaken.requeue hcur
  · exact h.sameHolders rfl rfl rfl rfl rfl rfl rfl
  · exact h

end Coverage

/-! ### The drain -/

section

variable {s : PolicyCoordinator} {input : DrainInput} {stage next : DrainStage}
  {admission : CellularAdmissionSnapshot}

theorem unpublished_settle {req res}
    (h : (settle req res).unpublished = some admission) : req.admission = admission := by
  unfold settle at h
  split_ifs at h
  · split at h
    · exact Option.some.inj h
    · cases h
  all_goals exact Option.some.inj h

/-- An enforced policy of the current generation has a network to authorize. -/
theorem settle_unpublished {req res} (hcomp : s.admission.Complete)
    (hjust : (reconciled req res).Justified)
    (hcur : s.requestIsCurrent req = true) : (settle req res).unpublished = some req.admission := by
  unfold settle
  split_ifs with henforced
  · obtain ⟨hseq, hst, hnet⟩ := fields_of_sameGeneration hcur
    obtain ⟨hheard, hnamed⟩ := hcomp.named (hst.symm.trans (hjust henforced))
    rw [← hseq, Option.isSome_iff_exists] at hheard
    rw [← hnet, Option.isSome_iff_exists] at hnamed
    obtain ⟨seq, hseq⟩ := hheard
    obtain ⟨network, hnet⟩ := hnamed
    simp only [hseq, hnet]
    rfl
  all_goals rfl

variable (hmove : StageMove s input stage next)
include hmove

theorem StageMove.unpublished_of_next
    (h : next.unpublished = some admission) : stage.unpublished = some admission := by
  cases hmove with
  | abandon | timeout => cases h
  | settle => exact congrArg some (unpublished_settle h)
  | _ => exact h

theorem StageMove.checked (h : next.checked = some admission) :
    stage.checked = some admission ∨ sameGeneration admission s.admission = true := by
  have hbef := hmove.unpublished_of_next (unpublished_of_checked h)
  cases hmove with
  | abandon | timeout => cases h
  | accept hcur =>
    cases h
    exact .inr hcur
  | _ => exact .inl hbef

/-- The drain lets go of a current request only when it waits in vain. -/
theorem StageMove.unpublished_next (hcomp : s.admission.Complete) (hjust : stage.Justified)
    (hwait : input = .timeout → ∀ waiting ∈ stage.waitsFor,
      sameGeneration waiting s.admission = false)
    (h : stage.unpublished = some admission)
    (hcur : sameGeneration admission s.admission = true) : next.unpublished = some admission := by
  cases hmove with
  | @abandon _ req hstg hstale =>
    have heq : req.admission = admission := by
      rcases hstg with rfl | rfl | ⟨_, rfl⟩ | ⟨_, rfl⟩ <;> exact Option.some.inj h
    subst heq
    cases hstale.symm.trans hcur
  | timeout => cases (hwait rfl admission h).symm.trans hcur
  | settle hsett =>
    rw [settle_unpublished hcomp hjust hsett]
    exact h
  | _ => exact h

end

namespace Coverage

variable {s next : PolicyCoordinator}

variable (h : Coverage s)
include h

/-- The drain goes on with its request, or drops it because it is not current. -/
theorem moveDrain {before after} (hstg : s.drain = some before) (hjust : after.Justified)
    (hback : ∀ admission, after.unpublished = some admission → before.unpublished = some admission)
    (hchk : ∀ admission, after.checked = some admission →
      before.checked = some admission ∨ sameGeneration admission s.admission = true)
    (hforward : ∀ admission, before.unpublished = some admission →
      sameGeneration admission s.admission = true → after.unpublished = some admission) :
    Coverage (s.goto after) := by
  refine h.keep rfl ?_ ?_ ?_ ?_
  · intro stage hnext
    cases hnext
    exact hjust
  · intro admission hholds
    refine .inl ?_
    cases hholds with
    | call hcall heq => exact .call hcall heq
    | latest hlat heq => exact .latest hlat heq
    | drain hnext heq =>
      cases hnext
      exact .drain hstg (hback admission heq)
    | published hpub heq => exact .published hpub heq
  · intro stage hnext admission hadm publication hpublication
    cases hnext
    rcases hchk admission hadm with hbef | hcur
    · exact h.newest before hstg admission hbef publication hpublication
    · have hrch := (h.stamped _ (.published hpublication rfl)).reached
      exact Nat.le_trans hrch (Nat.le_of_eq (rawSequence_of_sameGeneration hcur).symm)
  · intro hopen
    refine (h.held hopen).imp_right ?_
    rintro ⟨admission, hholds, hcur⟩
    refine ⟨admission, ?_, hcur⟩
    cases hholds with
    | call hcall heq => exact .call hcall heq
    | latest hlat heq => exact .latest hlat heq
    | drain hbef heq =>
      cases hstg.symm.trans hbef
      exact .drain rfl (hforward admission heq hcur)
    | published hpub heq => exact .published hpub heq

theorem leave (hstg : s.drain = some .looping) (hdone : s.closed = true ∨ s.latest = none) :
    Coverage { s with latest := none, drain := none } := by
  refine h.keep rfl (by simp [Justified]) ?_ (by simp) ?_
  · intro admission hholds
    refine .inl (hholds.mono (fun call hcall => ⟨call, hcall, rfl⟩) (by simp) (by simp) rfl)
  · intro hopen
    refine (h.held hopen).imp_right ?_
    rintro ⟨admission, hholds, hcur⟩
    refine ⟨admission, hholds.mono (fun call hcall => ⟨call, hcall, rfl⟩) ?_ ?_ rfl, hcur⟩
    · intro req hlat
      have hnone := hdone.resolve_left fun hclos => absurd (hclos.symm.trans hopen) (by simp)
      cases hnone.symm.trans hlat
    · intro stage hbef
      cases hstg.symm.trans hbef
      exact .inr rfl

variable {req : ReconcileRequest}

theorem dequeue (hstg : s.drain = some .looping) (hlat : s.latest = some req) :
    Coverage { s with latest := none, drain := some (.dequeued req) } := by
  refine h.keep rfl ?_ ?_ ?_ ?_
  · intro stage hnext
    cases hnext
    trivial
  · intro admission hholds
    refine .inl ?_
    cases hholds with
    | call hcall heq => exact .call hcall heq
    | latest hnone heq => cases hnone
    | drain hnext heq =>
      cases hnext
      exact .latest hlat (Option.some.inj heq)
    | published hpub heq => exact .published hpub heq
  · intro stage hnext admission hadm
    cases hnext
    cases hadm
  · intro hopen
    refine (h.held hopen).imp_right ?_
    rintro ⟨admission, hholds, hcur⟩
    refine ⟨admission, ?_, hcur⟩
    cases hholds with
    | call hcall heq => exact .call hcall heq
    | latest hqueued heq =>
      cases hlat.symm.trans hqueued
      exact .drain rfl (congrArg some heq)
    | drain hbef heq =>
      cases hstg.symm.trans hbef
      cases heq
    | published hpub heq => exact .published hpub heq

theorem authorize {auth} (hstg : s.drain = some (.authorizing req auth)) : Coverage { s with
      runtime := (s.runtime.authorizeRootPolicy auth).2
      drain := some (if (s.runtime.authorizeRootPolicy auth).1 then
        .resetting req .enforced else .looping) } := by
  have howner : (s.runtime.authorizeRootPolicy auth).2.owner = s.runtime.owner := by
    unfold authorizeRootPolicy
    split <;> rfl
  have hgrt : (s.runtime.authorizeRootPolicy auth).1 = s.requestIsCurrent req := by
    rw [← isCurrent_eq_requestIsCurrent (h.justified _ hstg)]
    unfold authorizeRootPolicy
    split
    · rename_i hcur
      exact hcur.symm
    · rename_i hstale
      exact (Bool.eq_false_iff.mpr hstale).symm
  have hrt : Coverage { s with runtime := (s.runtime.authorizeRootPolicy auth).2 } :=
    h.sameHolders howner rfl rfl rfl rfl rfl rfl
  refine hrt.moveDrain hstg ?_ ?_ ?_ ?_
  · split <;> trivial
  · intro admission hafter
    split at hafter
    · exact hafter
    · cases hafter
  · intro admission hafter
    split at hafter
    · exact .inl hafter
    · cases hafter
  · intro admission hbef hcur
    cases hbef
    have hreqt : s.requestIsCurrent req = true := by
      simpa only [PolicyCoordinator.admission, howner, requestIsCurrent] using hcur
    rw [hgrt, hreqt]
    rfl

/-- What is published afterwards is as new as what was published before. -/
theorem publish {res retry} (hstg : s.drain = some (.publishing req res retry)) :
    Coverage ((s.publish req res).goto (if retry then .scheduling req else .looping)) := by
  have hnone : (if retry then scheduling req else .looping).unpublished = none := by
    cases retry <;> rfl
  have hchk : (if retry then scheduling req else .looping).checked = none := by
    cases retry <;> rfl
  refine h.keep rfl ?_ ?_ ?_ ?_
  · intro stage hnext
    cases hnext
    cases retry <;> trivial
  · intro admission hholds
    refine .inl ?_
    cases hholds with
    | call hcall heq => exact .call hcall heq
    | latest hlat heq => exact .latest hlat heq
    | drain hnext heq =>
      cases hnext
      cases hnone.symm.trans heq
    | published hpub heq =>
      cases hpub
      exact .drain hstg (congrArg some heq)
  · intro stage hnext admission hadm
    cases hnext
    cases hchk.symm.trans hadm
  · intro hopen
    refine (h.held hopen).imp_right ?_
    rintro ⟨admission, hholds, hcur⟩
    cases hholds with
    | call hcall heq => exact ⟨admission, .call hcall heq, hcur⟩
    | latest hlat heq => exact ⟨admission, .latest hlat heq, hcur⟩
    | drain hbef heq =>
      cases hstg.symm.trans hbef
      exact ⟨admission, .published rfl (Option.some.inj heq), hcur⟩
    | @published publication hpub heq =>
      refine ⟨req.admission, .published rfl rfl, ?_⟩
      have hstamped := h.stamped req.admission (.drain hstg rfl)
      have hnewest := h.newest _ hstg req.admission rfl publication hpub
      have hrch := hstamped.reached
      have hsame : rawSequence publication.admission = s.runtime.owner.lastRaw :=
        rawSequence_of_sameGeneration (heq ▸ hcur)
      exact hstamped.current (by omega)

theorem drainStep (input)
    (hwait : input = .timeout → ∀ admission ∈ s.drain.bind waitsFor,
      sameGeneration admission s.admission = false) : Coverage (s.drainStep input) := by
  have hmove := drainStep_move s input
  revert hmove
  generalize s.drainStep input = next
  intro hmove
  cases hmove with
  | stay => exact h
  | @move _ before after hstg hmove =>
    refine h.moveDrain hstg (hmove.justified (h.justified _ hstg))
      (fun _ => hmove.unpublished_of_next) (fun _ => hmove.checked) ?_
    intro admission hbef hcur
    refine hmove.unpublished_next h.complete (h.justified _ hstg) ?_ hbef hcur
    rw [hstg] at hwait
    exact hwait
  | leave hstg hdone => exact h.leave hstg hdone
  | dequeue hstg hlat => exact h.dequeue hstg hlat
  | authorize hstg => exact h.authorize hstg
  | reset hstg =>
    have hreset : Coverage s.resetRecovery := h.sameHolders rfl rfl rfl rfl rfl rfl rfl
    exact hreset.moveDrain hstg trivial (fun _ hafter => hafter) (fun _ hafter => .inl hafter)
      fun _ hbef _ => hbef
  | publish hstg => exact h.publish hstg
  | @schedule req hstg =>
    have hscheduled : Coverage (s.scheduleRecovery req) ∧
        (s.scheduleRecovery req).drain = s.drain := by
      unfold scheduleRecovery
      split
      · exact ⟨h, rfl⟩
      · exact ⟨h.sameHolders rfl rfl rfl rfl rfl rfl rfl, rfl⟩
    exact hscheduled.1.moveDrain (hscheduled.2.trans hstg) trivial
      (by rintro _ ⟨⟩) (by rintro _ ⟨⟩) (by rintro _ ⟨⟩)

theorem shutdown : Coverage (s.step .shutdown) := by
  refine h.keep rfl h.justified ?_ h.newest fun hopen => Bool.noConfusion hopen
  intro admission hholds
  exact .inl (hholds.mono (fun call hcall => ⟨call, hcall, rfl⟩) (by simp [step])
    (fun _ hstg => .inl hstg) rfl)

theorem acquire : Coverage (s.step .acquire) := by
  refine h.sameHolders ?_ rfl rfl rfl rfl rfl rfl
  simp only [step, acquire_eq]
  split_ifs <;> rfl

theorem dropPermit : Coverage (s.step .dropPermit) := by
  refine h.sameHolders ?_ rfl rfl rfl rfl rfl rfl
  simp only [step, CellularRuntime.dropPermit]
  split_ifs <;> rfl

end Coverage

/-! ## Whole runs -/

/-- No offer of an older generation replaces the queued request of the current one, and no
wait of the current generation times out. -/
def KeepsCurrent (s : PolicyCoordinator) : CoordinatorAction → Prop
  | .call (.offer request) => ∀ queued ∈ s.latest,
      s.requestIsCurrent queued = true → s.requestIsCurrent request = true
  | .drain .timeout => ∀ admission ∈ s.drain.bind waitsFor,
      sameGeneration admission s.admission = false
  | _ => True

instance (s : PolicyCoordinator) : ∀ action, Decidable (s.KeepsCurrent action)
  | .call (.offer request) => inferInstanceAs (Decidable (∀ queued ∈ s.latest,
      s.requestIsCurrent queued = true → s.requestIsCurrent request = true))
  | .drain .timeout => inferInstanceAs (Decidable (∀ admission ∈ s.drain.bind waitsFor,
      sameGeneration admission s.admission = false))
  | .call (.recordHint _ _) | .call (.publishAdmission _) | .call (.enqueue _) => .isTrue trivial
  | .drain .next | .drain .mutate | .drain (.finish _) => .isTrue trivial
  | .observeNetwork _ _ _ | .networkLost _ _ | .start | .recover _ | .acquire | .dropPermit |
    .shutdown | .closeGate => .isTrue trivial

theorem Coverage.step (h : Coverage s) {act} (hkeeps : s.KeepsCurrent act) :
    Coverage (s.step act) := by
  cases act with
  | observeNetwork obs observedHandle interfaceName | networkLost seq handle =>
    exact h.ownerEvent _ _
  | start => exact h.start
  | call call =>
    refine h.callStep call ?_
    rintro req rfl
    exact hkeeps
  | drain input =>
    refine h.drainStep input ?_
    rintro rfl
    exact hkeeps
  | recover task => exact h.recoverStep task
  | acquire => exact h.acquire
  | dropPermit => exact h.dropPermit
  | shutdown => exact h.shutdown
  | closeGate => exact h.sameHolders rfl rfl rfl rfl rfl rfl rfl

/-- Nothing is in progress that would lead to a publication. -/
structure Quiet (s : PolicyCoordinator) : Prop where
  calls : s.calls = []
  latest : s.latest = none
  drain : s.drain = none
  recovery : s.recoveryPending = false
  opened : s.closed = false

theorem Coverage.published (h : Coverage s) (hquiet : s.Quiet) (hreq : s.requested ≠ 0) :
    ∃ publication, s.lastPublication = some publication ∧
      sameGeneration publication.admission s.admission = true := by
  have hheld := (h.held hquiet.opened).resolve_left fun hnone => hreq hnone.2
  obtain ⟨admission, hholds, hcur⟩ := hheld
  cases hholds with
  | call hcall => cases hquiet.calls ▸ hcall
  | latest hlat => cases hquiet.latest.symm.trans hlat
  | drain hstg => cases hquiet.drain.symm.trans hstg
  | published hpub heq => exact ⟨_, hpub, heq ▸ hcur⟩

end PolicyCoordinator

/-- When everything is quiet after at least one request, the last publication is of the
owner's current generation, as long as no step loses it. -/
theorem no_generation_lost (actions : List CoordinatorAction)
    (hkeeps : Along PolicyCoordinator.step PolicyCoordinator.KeepsCurrent .new actions)
    (hquiet : (runCoordinator actions).Quiet)
    (hrequested : (runCoordinator actions).requested ≠ 0) :
    ∃ publication, (runCoordinator actions).lastPublication = some publication ∧
      sameGeneration publication.admission (runCoordinator actions).admission = true := by
  have h : (runCoordinator actions).Coverage :=
    run_invariant_along (fun _ _ h hkeeps => h.step hkeeps) PolicyCoordinator.coverage_new hkeeps
  exact h.published hquiet hrequested

/-- One callback from the event to the end of the drain. -/
def publishedRun (sequence : ObservationSequence) : List CoordinatorAction :=
  observeAndOffer sequence ++ drainToMutation ++ drainToPublication ++ [.drain .next]

theorem no_generation_lost_publishedRun :
    (runCoordinator (publishedRun ⟨1, by decide⟩)).Quiet ∧
      ∃ publication, (runCoordinator (publishedRun ⟨1, by decide⟩)).lastPublication =
        some publication ∧
        sameGeneration publication.admission
          (runCoordinator (publishedRun ⟨1, by decide⟩)).admission = true :=
  have hquiet : (runCoordinator (publishedRun ⟨1, by decide⟩)).Quiet :=
    ⟨by decide, by decide, by decide, by decide, by decide⟩
  ⟨hquiet, no_generation_lost (publishedRun ⟨1, by decide⟩) (by decide) hquiet (by decide)⟩

/-! ## The two ways to lose a generation -/

/-- Two callbacks reach the owner in order and the queue in the other order. -/
def lateOffer : List CoordinatorAction :=
  [observeSample firstSequence, observeSample secondSequence] ++
    offerSections (sampleRequest secondSequence) ++ offerSections (sampleRequest firstSequence) ++
    List.replicate 3 (.drain .next)

/-- A connect of the first generation outlasts the wait of the second. -/
def waitInVain : List CoordinatorAction :=
  publishedRun firstSequence ++ [.acquire] ++ observeAndOffer secondSequence ++
    List.replicate 3 (.drain .next) ++ [.drain .timeout, .drain .next]

theorem generation_lost :
    ((runCoordinator lateOffer).Quiet ∧ (runCoordinator lateOffer).requested = 2 ∧
      (runCoordinator lateOffer).lastPublication = none) ∧
    ((runCoordinator waitInVain).Quiet ∧ (runCoordinator waitInVain).requested = 2 ∧
      ∀ publication ∈ (runCoordinator waitInVain).lastPublication,
        sameGeneration publication.admission (runCoordinator waitInVain).admission = false) := by
  refine ⟨⟨⟨?_, ?_, ?_, ?_, ?_⟩, ?_, ?_⟩, ⟨⟨?_, ?_, ?_, ?_, ?_⟩, ?_, ?_⟩⟩ <;> decide

end MishProxy.Coordination
