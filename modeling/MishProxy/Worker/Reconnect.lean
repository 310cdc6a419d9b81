import MishProxy.Worker.Operations

/-!
# The redelivery to a connection that comes back

A rotation that was sent once and not acknowledged in the delivery window is sent again to a
connection that completes its authentication before the recovery deadline.
`fenced_without_late_reconnect` proves that an operation is fenced after one delivery only when no
connection did so after the window. A connection that comes back within the window is not served:
its AUTH handler finds the operation dispatched, and nothing looks for the connection when the
window has passed. `early_reconnect_fenced` is such a run.
-/

namespace MishProxy.Worker

open Control Machine Option

/-! ## What is required -/

/-- When the step completes the authentication of a connection and tells it so. -/
def authenticatedAtMs (x : WorkerEvent) : Option Int :=
  match x.input with
  | .verified verification true nowMs true _ =>
    if (verification.socket, .ready) ∈ x.output then some nowMs else none
  | _ => none

/-- A connection is authenticated between `sinceMs` after the dispatch and the recovery deadline. -/
def Reconnects (sinceMs createdAtMs : Int) (x : WorkerEvent) : Prop :=
  ∃ nowMs ∈ authenticatedAtMs x, createdAtMs + sinceMs ≤ nowMs ∧
    nowMs < createdAtMs + naturalReconnectRecoveryMs

instance Reconnects.decidable (sinceMs createdAtMs : Int) (x : WorkerEvent) :
    Decidable (Reconnects sinceMs createdAtMs x) :=
  inferInstanceAs (Decidable (∃ nowMs ∈ authenticatedAtMs x, _))

def Dispatches (requestId : Text) (createdAtMs : Int) (x : WorkerEvent) : Prop :=
  x.input.cause.requested = some requestId ∧ x.input.cause.nowMs = createdAtMs ∧
    requestId ∈ x.output.rotations

instance Dispatches.decidable (requestId : Text) (createdAtMs : Int) (x : WorkerEvent) :
    Decidable (Dispatches requestId createdAtMs x) :=
  inferInstanceAs (Decidable (_ ∧ _ ∧ _))

/-- If the event fences an operation after one delivery, no connection has come back since. -/
def FencesUnreached (sinceMs : Int) (e : WorkerEvent) (older : List WorkerEvent) : Prop :=
  ∀ operation, e.after.active = some operation → operation.status = .fenced →
    operation.attempts < 2 →
    (∀ earlier, (lastState .new older).active = some earlier → earlier.status ≠ .fenced) →
    Since (fun x => ¬ Reconnects sinceMs operation.createdAtMs x)
      (fun x _ => Dispatches operation.requestId operation.createdAtMs x) (e :: older)

/-! ## The operation that waits -/

/-- Sent once, and neither accepted nor fenced. -/
def Operation.Pending (operation : Operation) : Prop :=
  (operation.status = .dispatched ∨ operation.status = .recovering) ∧ operation.attempts < 2

/-- The deadlines are those of the dispatch. -/
structure Operation.OnTime (operation : Operation) : Prop where
  delivery : operation.status = .dispatched →
    operation.deliveryDeadline = operation.createdAtMs + deliveryAckMs
  recovery : operation.recoveryDeadline = operation.createdAtMs + naturalReconnectRecoveryMs

/-- `known` holds of the pending operation, and of a fenced one unless it was fenced before. -/
structure Tracked (known : Text → Int → Prop) (before : Prop) (l : Ledger) : Prop where
  pending : ∀ operation, l.active = some operation → operation.Pending →
    operation.OnTime ∧ known operation.requestId operation.createdAtMs
  fenced : ∀ operation, l.active = some operation → operation.status = .fenced →
    operation.attempts < 2 → before ∨ known operation.requestId operation.createdAtMs

namespace Tracked

variable {known : Text → Int → Prop} {before : Prop} {l after : Ledger} {cause : Cause}

theorem of_none (h : l.active = none) : Tracked known before l := by
  constructor
  all_goals
    intro op hact
    rw [h] at hact
    cases hact

theorem of_some {op} (h : l.active = some op) (hpend : op.Pending →
      op.OnTime ∧ known op.requestId op.createdAtMs)
    (hfenced : op.status = .fenced → op.attempts < 2 →
      before ∨ known op.requestId op.createdAtMs) : Tracked known before l := by
  constructor
  · intro other hoth
    rw [← some.inj (h.symm.trans hoth)]
    exact hpend
  · intro other hoth
    rw [← some.inj (h.symm.trans hoth)]
    exact hfenced

theorem change (h : Tracked known before l) {sent}
    (hchg : Change cause l sent after) : Tracked known before after := by
  cases hchg with
  | stays => exact h
  | idles hact => exact of_none hact
  | rests hact hrests halarm =>
    rename_i op after alarmMs
    refine of_some rfl ?_ ?_
    · rintro ⟨hstat, hatts⟩
      rw [hrests.status] at hstat
      rw [hrests.attempts] at hatts
      obtain ⟨htime, hknown⟩ := h.pending op hact ⟨hstat, hatts⟩
      rw [hrests.requestId, hrests.createdAtMs]
      refine ⟨⟨?_, ?_⟩, hknown⟩
      · rw [hrests.status, hrests.deliveryDeadline, hrests.createdAtMs]
        exact htime.delivery
      · rw [hrests.recoveryDeadline, hrests.createdAtMs]
        exact htime.recovery
    · rw [hrests.status, hrests.attempts, hrests.requestId, hrests.createdAtMs]
      exact h.fenced op hact
  | dates hact hstat hmissing =>
    refine of_some rfl ?_ ?_
    · rintro ⟨hpend, -⟩
      simp [hstat] at hpend
    · rw [hstat]
      simp
  | halts hact hstat => exact of_some hact (h.pending _ hact) (h.fenced _ hact)
  | recovers hact hstat hatts hdue hearly =>
    rename_i op
    obtain ⟨htime, hknown⟩ := h.pending op hact ⟨.inl hstat, hatts⟩
    refine of_some rfl (fun _ => ⟨⟨by rintro ⟨⟩, htime.recovery⟩, hknown⟩) ?_
    rintro ⟨⟩
  | fences hact hstat =>
    rename_i op
    refine of_some rfl ?_ fun _ hatts => .inr ?_
    · rintro ⟨⟨⟨⟩⟩ | ⟨⟨⟩⟩, -⟩
    · rcases hstat with ⟨-, htwo⟩ | ⟨hstat, -⟩
      · exact absurd hatts (not_lt.mpr htwo)
      · exact (h.pending op hact ⟨hstat, hatts⟩).2
  | finishes opId hact hres => exact of_none rfl
  | redelivers sends hact hstat hearly =>
    have htwo : ∀ {op : Operation}, ¬ (op.redelivered cause.nowMs).attempts < 2 :=
      lt_irrefl (2 : Int)
    exact of_some rfl (fun hpend => absurd hpend.2 htwo) (fun _ hless => absurd hless htwo)
  | accepts opId hact hstat =>
    refine of_some rfl ?_ ?_
    · rintro ⟨⟨⟨⟩⟩ | ⟨⟨⟩⟩, -⟩
    · rintro ⟨⟩
  | names opId hact hstat =>
    rename_i op
    refine of_some rfl (fun hpend => ?_) (h.fenced op hact)
    have hwaits : op.status = .dispatched ∨ op.status = .recovering := hpend.1
    rcases hstat with hstat | hstat <;> simp [hstat] at hwaits
  | upgrades opId hknown hunknown hrptd => exact ⟨h.pending, h.fenced⟩

theorem changes (h : Tracked known before l) {sent}
    (hchgs : Changes cause l sent after) : Tracked known before after := by
  induction hchgs with
  | none => exact h
  | more _ hchg ih => exact ih.change hchg

end Tracked

namespace DeviceControl

variable {w : DeviceControl} {op : Operation} {nowMs : Int}

theorem reconcile_recovering (hact : w.active = some op) (hpend : op.Pending)
    (htime : op.OnTime) (hdue : op.createdAtMs + deliveryAckMs ≤ nowMs)
    (hearly : nowMs < op.createdAtMs + naturalReconnectRecoveryMs) :
    ∃ after, (w.reconcileActiveOperation nowMs false).active = some after ∧
      after.status = .recovering ∧ nowMs < after.recoveryDeadline := by
  have hrcv : nowMs < op.recoveryDeadline := by
    rw [htime.recovery]
    exact hearly
  unfold reconcileActiveOperation
  rw [hact]
  rcases hpend.1 with hstat | hstat
  · have hwaited : ¬ nowMs < op.deliveryDeadline := by
      rw [htime.delivery hstat]
      exact not_lt.mpr hdue
    simp only [hstat, reconcileDispatched, if_neg hwaited, if_pos (And.intro hpend.2 hrcv)]
    exact ⟨op.recovering, rfl, rfl, hrcv⟩
  · simp only [hstat, reconcileRecovering, if_pos hrcv]
    exact ⟨_, rfl, rfl, hrcv⟩

theorem redeliver_attempts (hact : w.active = some op)
    (hstat : op.status = .recovering) (hearly : nowMs < op.recoveryDeadline)
    (sock : Nat) (sends : Bool) :
    ∃ after, (w.redeliverRecoveredOperation sock nowMs sends).2.active = some after ∧
      2 ≤ after.attempts := by
  unfold redeliverRecoveredOperation
  rw [hact]
  simp only [hstat, ne_eq, not_true_eq_false, if_false, if_neg (not_le.mpr hearly)]
  cases sends with
  | true => exact ⟨op.redelivered nowMs, rfl, le_refl (2 : Int)⟩
  | false => exact ⟨(op.redelivered nowMs).fence nowMs, rfl, le_refl (2 : Int)⟩

theorem authenticated_verified {x} (h : nowMs ∈ authenticatedAtMs x) :
    ∃ verif rotateSends, x.input = .verified verif true nowMs true rotateSends ∧
      (verif.socket, .ready) ∈ x.output := by
  unfold authenticatedAtMs at h
  split at h
  · rename_i verif atMs rotateSends hinput
    split_ifs at h with hready
    · cases h
      exact ⟨verif, rotateSends, hinput, hready⟩
    · cases h
  · cases h

/-- An AUTH after the delivery window delivers the pending operation again. -/
theorem step_attempts {x} (hx : x = eventOf step w x.input)
    (hreconnects : Reconnects deliveryAckMs op.createdAtMs x)
    (hact : w.active = some op) (hpend : op.Pending)
    (htime : op.OnTime) : ∃ after, x.after.active = some after ∧ 2 ≤ after.attempts := by
  obtain ⟨nowMs, hauthenticated, hdue, hearly⟩ := hreconnects
  obtain ⟨verif, rotateSends, hinput, hready⟩ := authenticated_verified hauthenticated
  rw [hx, hinput] at hready ⊢
  simp only [eventOf, step] at hready ⊢
  split_ifs at hready ⊢ with hwait
  · have hauth : ({ w with verifying := w.verifying.erase verif }.authenticateSocket
        verif nowMs).active = some op := hact
    obtain ⟨recovering, hrec, hstat, hrcv⟩ := reconcile_recovering hauth hpend htime hdue hearly
    exact redeliver_attempts hrec hstat hrcv verif.socket rotateSends
  · cases hready

end DeviceControl

/-! ## Whole runs -/

/-- Since the dispatch of the pending operation no connection has come back after the window. -/
structure Unreached (r : Recorded DeviceControl DeviceControl.Input Sent) : Prop where
  state : r.state = lastState .new r.history
  pending : ∀ operation, r.state.active = some operation → operation.Pending →
    operation.OnTime ∧
      Since (fun x => ¬ Reconnects deliveryAckMs operation.createdAtMs x)
        (fun x _ => Dispatches operation.requestId operation.createdAtMs x) r.history

open DeviceControl

namespace Unreached

theorem init : Unreached (.init .new) := ⟨rfl, by rintro _ ⟨⟩⟩

variable {r : Recorded DeviceControl DeviceControl.Input Sent}

/-- What the step knows of a pending operation, by its request id and its time. -/
def Known (r : Recorded DeviceControl DeviceControl.Input Sent) (requestId : Text)
    (createdAtMs : Int) : Prop :=
  ∃ operation, r.state.active = some operation ∧ operation.Pending ∧ operation.OnTime ∧
    operation.createdAtMs = createdAtMs ∧
    Since (fun x => ¬ Reconnects deliveryAckMs createdAtMs x)
      (fun x _ => Dispatches requestId createdAtMs x) r.history

theorem tracked (h : Unreached r) :
    Tracked (Known r) (∃ earlier, r.state.active = some earlier ∧ earlier.status = .fenced)
      r.state.ledger where
  pending := by
    intro op hact hpend
    obtain ⟨htime, hsince⟩ := h.pending op hact hpend
    exact ⟨htime, op, hact, hpend, htime, rfl, hsince⟩
  fenced := by
    intro op hact hstat _
    exact .inl ⟨op, hact, hstat⟩

/-- The event does not change this, or the operation was delivered twice. -/
theorem Known.since {reqId createdAtMs} (h : Known r reqId createdAtMs) {input op}
    (hafter : (r.state.step input).2.active = some op) (hatts : op.attempts < 2) :
    Since (fun x => ¬ Reconnects deliveryAckMs createdAtMs x)
      (fun x _ => Dispatches reqId createdAtMs x)
      (eventOf step r.state input :: r.history) := by
  obtain ⟨earlier, hact, hpend, htime, rfl, hsince⟩ := h
  refine hsince.cons fun hreconnects => ?_
  obtain ⟨other, hoth, htwo⟩ := step_attempts (w := r.state) rfl hreconnects hact hpend htime
  rw [some.inj (hafter.symm.trans hoth)] at hatts
  exact absurd hatts (not_lt.mpr htwo)

theorem record_step (h : Unreached r) (input : DeviceControl.Input) :
    Unreached (record DeviceControl.step r input) ∧
      FencesUnreached deliveryAckMs (eventOf step r.state input) r.history := by
  have hstep := r.state.stepChanges_step input
  generalize hsent : (r.state.step input).1.rotations = sent at hstep
  generalize hledger : (r.state.step input).2.ledger = after at hstep
  have hact : (r.state.step input).2.active = after.active := by rw [← hledger]; rfl
  cases hstep with
  | settles hchgs =>
    have htracked := h.tracked.changes hchgs
    refine ⟨⟨rfl, ?_⟩, ?_⟩
    · intro op hafter hpend
      obtain ⟨htime, hknown⟩ := htracked.pending op (hact.symm.trans hafter) hpend
      exact ⟨htime, hknown.since hafter hpend.2⟩
    · intro op hafter hstat hatts hnew
      rcases htracked.fenced op (hact.symm.trans hafter) hstat hatts with
        ⟨earlier, hearl, hfenced⟩ | hknown
      · rw [h.state] at hearl
        exact absurd hfenced (hnew earlier hearl)
      · exact hknown.since hafter hatts
  | dispatches hchgs hidle hreq hnew =>
    rename_i reqId between
    refine ⟨⟨rfl, ?_⟩, ?_⟩
    · intro op hafter hpend
      cases some.inj (hact.symm.trans hafter)
      refine ⟨⟨fun _ => ?_, rfl⟩, .now ⟨hreq, rfl, ?_⟩⟩
      · exact min_self _
      · show reqId ∈ (r.state.step input).1.rotations
        rw [hsent]
        exact List.mem_singleton_self reqId
    · intro op hafter hstat
      cases some.inj (hact.symm.trans hafter)
      cases hstat

end Unreached

theorem fenced_without_late_reconnect (inputs : List DeviceControl.Input) :
    Always (FencesUnreached deliveryAckMs) (runWorker inputs).history :=
  always_record (I := Unreached) (Q := fun _ => True) (fun _ input h _ => h.record_step input)
    .init .nil fun _ _ => trivial

/-- The connection comes back 900 ms after the dispatch, and the alarm fires at the delivery
deadline. -/
def earlyReconnect : List DeviceControl.Input :=
  .enroll sampleIdentity none 0 :: sampleIdentity.connects 0 0 ++ [.rotate firstRequest 100 true] ++
  sampleIdentity.connects 1 1000 ++ [.alarm 2100]

def firstOperation : Operation := .dispatch firstRequest 100

theorem early_reconnect_fenced :
    (runWorker earlyReconnect).state.active = some firstOperation.recovering ∧
    (∃ socket ∈ (runWorker earlyReconnect).state.sockets,
      socket.id = 1 ∧ socket.attachment.authenticated = true) ∧
    (runWorker (earlyReconnect ++ [.alarm 16100])).state.active =
      some (firstOperation.recovering.fence 16100) ∧
    (firstOperation.recovering.fence 16100).attempts = 1 ∧
    ¬ Always (FencesUnreached 0) (runWorker (earlyReconnect ++ [.alarm 16100])).history := by
  have hhistory : (runWorker (earlyReconnect ++ [.alarm 16100])).history =
      eventOf step (runWorker earlyReconnect).state (.alarm 16100) ::
        (runWorker earlyReconnect).history := by
    rw [runWorker, run_append]
    rfl
  have hstate : (runWorker earlyReconnect).state =
      lastState .new (runWorker earlyReconnect).history := by
    decide +kernel
  have hactive : (runWorker earlyReconnect).state.active = some firstOperation.recovering := by
    decide +kernel
  have hfenced : ((runWorker earlyReconnect).state.step (.alarm 16100)).2.active =
      some (firstOperation.recovering.fence 16100) := by decide +kernel
  have hreached : ¬ Since (fun x => ¬ Reconnects 0 100 x)
      (fun x _ => Dispatches firstRequest 100 x)
      (eventOf step (runWorker earlyReconnect).state (.alarm 16100) ::
        (runWorker earlyReconnect).history) := by decide +kernel
  refine ⟨hactive, by decide +kernel, by decide +kernel, rfl, fun h => hreached ?_⟩
  refine h [] _ _ hhistory _ hfenced rfl (by decide) ?_
  rw [← hstate, hactive]
  rintro _ ⟨⟩ ⟨⟩

end MishProxy.Worker
