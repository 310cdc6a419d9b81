import MishProxy.Control.Device

/-!
# The result of a remote rotation

The result of a remote rotation is written into its record by the observer of the rotation owner
and by the two failure paths of `handle_rotate_ip`. The failure paths first fail the prepared
operation, and the owner publishes that on the same thread, so the observer comes first. When the
acceptance could not be written, the record says failed and stays so, although the rotation was
never activated. When the activation was refused, the record says failed for a moment and rejected
in the end (`failure_path_results`).

* `confirmed_result_truthful`: when `activate_prepared` succeeded, the only result that is ever
  recorded is the one the rotation itself ended with.
-/

namespace MishProxy.Control

open Machine Rotation ControlRuntime List Option RotationRuntime

/-! ## What is recorded -/

abbrev ControlEvent := Event ControlRuntime ControlInput ControlEffect

def runControl (deviceId : Text) (inputs : List ControlInput) :
    Recorded ControlRuntime ControlInput ControlEffect :=
  run (record step) (.init (.new deviceId)) inputs

def ControlState.RecordsResult (state : ControlState) (operationId : Nat)
    (result : RemoteRotationResult) : Prop :=
  ∃ operation ∈ state.records, operation.operationId = some operationId ∧
    operation.result = some result

instance (state : ControlState) (operationId : Nat) (result : RemoteRotationResult) :
    Decidable (state.RecordsResult operationId result) := by
  unfold ControlState.RecordsResult
  infer_instance

def Activated (history : List ControlEvent) (operationId : Nat) : Prop :=
  ∃ x ∈ history, x.output = .activated operationId

def Confirmed (history : List ControlEvent) (operationId : Nat) : Prop :=
  ∃ x ∈ history, x.output = .confirmed operationId

def EndedAs (history : List ControlEvent) (operationId : Nat) (result : RotationTerminalResult) :
    Prop :=
  ∃ x ∈ history, x.after.rotation.machine.snapshot.Ends operationId result

instance (history : List ControlEvent) (operationId : Nat) :
    Decidable (Activated history operationId) := by
  unfold Activated
  infer_instance

/-- The results recorded for the operation are true, and there is only one. -/
structure ResultTruthful (history : List ControlEvent) (operationId : Nat) : Prop where
  rejected_iff : ∀ x ∈ history, ∀ result, x.after.control.RecordsResult operationId result →
    (result = .rejected ↔ ¬ Activated history operationId)
  own : ∀ x ∈ history, ∀ result, x.after.control.RecordsResult operationId result →
    result ≠ .rejected → ∃ terminal, EndedAs history operationId terminal ∧
      result = .ofTerminal terminal
  kept : ∀ x ∈ history, ∀ y ∈ history, ∀ result other,
    x.after.control.RecordsResult operationId result →
    y.after.control.RecordsResult operationId other → other = result

section

variable {hist : List ControlEvent} {opId : Nat} {terminal : RotationTerminalResult}

theorem EndedAs.cons (h : EndedAs hist opId terminal) (e : ControlEvent) :
    EndedAs (e :: hist) opId terminal := by
  obtain ⟨x, hx, hends⟩ := h
  exact ⟨x, .tail _ hx, hends⟩

theorem Activated.cons (h : Activated hist opId) (e : ControlEvent) :
    Activated (e :: hist) opId := by
  obtain ⟨x, hx, hactd⟩ := h
  exact ⟨x, .tail _ hx, hactd⟩

theorem endedAs_cons_iff {e} : EndedAs (e :: hist) opId terminal ↔
      e.after.rotation.machine.snapshot.Ends opId terminal ∨ EndedAs hist opId terminal := by
  simp [EndedAs]

theorem confirmed_cons_iff {e} : Confirmed (e :: hist) opId ↔
      e.output = .confirmed opId ∨ Confirmed hist opId := by
  simp [Confirmed]

end

/-! ## What a step records -/

namespace ControlState

variable {state : ControlState} {op : PendingRemoteOperation}

theorem mem_records : op ∈ state.records ↔ state.pending = some op ∨ op ∈ state.recentTerminal := by
  simp [records]

theorem mem_records_ackResult {reqId : Text}
    (h : op ∈ (state.ackResult reqId).records) : op ∈ state.records := by
  unfold ackResult at h
  split at h
  · exact h
  · rename_i completed hpend
    split at h
    · rw [mem_records] at h ⊢
      rcases h with h | h
      · cases h
      · rcases mem_cons.mp (mem_of_mem_take h) with rfl | h
        · exact .inl hpend
        · exact .inr (mem_of_mem_filter h)
    · exact h

theorem mem_records_conclude {old res} (h : op ∈ (state.conclude old res).records) :
    op ∈ state.records ∨ op = { old with result := some res } := by
  rw [mem_records] at h ⊢
  rcases h with h | h
  · exact .inr (some.inj h).symm
  · exact .inl (.inr h)

/-- A record is new only when the snapshot shows how its operation ended. -/
theorem mem_records_observeRotation {snap} (h : op ∈ (state.observeRotation snap).records) :
    op ∈ state.records ∨ ∃ opId terminal, snap.Ends opId terminal ∧
      op.operationId = some opId ∧ op.result = some (.ofTerminal terminal) := by
  unfold observeRotation at h
  split at h
  · rename_i opId terminal old hid hterm hpend
    split at h
    · rename_i hold
      rcases mem_records_conclude h with h | rfl
      · exact .inl h
      · exact .inr ⟨opId, terminal, ⟨hid, hterm⟩, hold.1, rfl⟩
    · exact .inl h
  · exact .inl h

theorem mem_records_markAcceptanceDeliveryFailed {reqId opId}
    (h : op ∈ (state.markAcceptanceDeliveryFailed reqId opId).records) : op ∈ state.records ∨
      op.operationId = some opId ∧ op.result = some .rejected := by
  unfold markAcceptanceDeliveryFailed at h
  split at h
  · exact .inl h
  · rename_i old hpend
    split at h
    · exact .inl h
    · rename_i hold
      rcases mem_records_conclude h with h | rfl
      · exact .inl h
      · simp only [not_or, not_not] at hold
        exact .inr ⟨hold.2.1, rfl⟩

theorem mem_records_markActivationFailed {reqId : Text}
    (h : op ∈ (state.markActivationFailed reqId).records) :
    op ∈ state.records ∨ ∃ old, state.pending = some old ∧ old.requestId = reqId ∧
      op.operationId = old.operationId ∧ op.result = some .rejected := by
  unfold markActivationFailed at h
  split at h
  · exact .inl h
  · rename_i old hpend
    split at h
    · rename_i hold
      rcases mem_records_conclude h with h | rfl
      · exact .inl h
      · exact .inr ⟨old, hpend, hold, rfl, rfl⟩
    · exact .inl h

theorem mem_records_shutdown (h : op ∈ state.shutdown.records) : op ∈ state.records := by
  unfold shutdown at h
  split at h
  · exact h
  · rw [mem_records] at h ⊢
    rcases h with h | h
    · cases h
    · exact .inr h

theorem pending_observeRotation {snap} (h : (state.observeRotation snap).pending = some op) :
    ∃ old, state.pending = some old ∧ op.operationId = old.operationId := by
  unfold observeRotation at h
  split at h
  · rename_i old _ _ hpend
    split at h
    · cases h
      exact ⟨old, hpend, rfl⟩
    · exact ⟨op, h, rfl⟩
  · exact ⟨op, h, rfl⟩

theorem pending_shutdown (h : state.shutdown.pending = some op) : state.pending = some op := by
  unfold shutdown at h
  split at h
  · exact h
  · cases h

end ControlState

/-- The operation may still be confirmed by the task. -/
def ControlStage.Hopes (stage : ControlStage) (operationId : Nat) : Prop :=
  stage.hopeful = true ∧ ∃ requestId, stage.operation = some (requestId, operationId)

/-- Where a record that was not there before comes from. -/
inductive Written (d after : ControlRuntime) (operation : PendingRemoteOperation) : Prop where
  | reserved {requestId : Text} {operationId : Nat}
    (hstage : d.stage.operation = some (requestId, operationId))
    (hid : operation.operationId = some operationId) (hresult : operation.result = none)
  | observed {snapshot : RotationSnapshot} {operationId : Nat} {terminal : RotationTerminalResult}
    (hsnapshot : snapshot ∈ d.published ∨ ∃ requestId operationId step,
      d.stage = .publishing requestId operationId step snapshot)
    (hends : snapshot.Ends operationId terminal) (hid : operation.operationId = some operationId)
    (hresult : operation.result = some (.ofTerminal terminal))
  | refused {requestId : Text} {operationId : Nat}
    (hstage : d.stage.operation = some (requestId, operationId))
    (hhopeless : d.stage.hopeful = false) (hdone : after.stage.operation = none)
    (hid : operation.operationId = some operationId) (hresult : operation.result = some .rejected)

/-- The pending record belongs to the rotation the task is working on. -/
def PendingFits (d : ControlRuntime) : Prop :=
  ∀ requestId operationId, d.stage.operation = some (requestId, operationId) →
    d.stage.reserved = true → ∀ operation, d.control.pending = some operation →
      operation.operationId = some operationId

/-- What one step does to the records, the rotation and the rotation the task works on. -/
structure StepFacts (d : ControlRuntime) (effect : ControlEffect) (after : ControlRuntime) :
    Prop where
  moves : d.rotation.machine.Moves after.rotation.machine
  published : ∀ snapshot ∈ after.published,
    snapshot ∈ d.published ∨ snapshot = after.rotation.machine.snapshot
  publishing : ∀ requestId operationId step snapshot,
    after.stage = .publishing requestId operationId step snapshot →
      d.stage = .publishing requestId operationId step snapshot ∨
        snapshot = after.rotation.machine.snapshot
  scheduling : ∀ requestId operationId, after.stage = .scheduling requestId operationId →
    d.stage = .scheduling requestId operationId ∨ effect = .activated operationId
  records : ∀ operation ∈ after.control.records,
    operation ∈ d.control.records ∨ Written d after operation
  working : ∀ requestId operationId, after.stage.operation = some (requestId, operationId) →
    (d.stage.operation = some (requestId, operationId) ∧
      (after.stage.hopeful = true → d.stage.hopeful = true) ∨
      operationId = d.rotation.machine.nextOperationId ∧
        operationId < after.rotation.machine.nextOperationId) ∧
    ∀ other, effect ≠ .confirmed other
  confirmed : ∀ operationId, effect = .confirmed operationId →
    ∃ requestId, d.stage = .scheduling requestId operationId
  fits : PendingFits after

open ControlState

namespace StepFacts

variable {d : ControlRuntime} {effect : ControlEffect} {stage : ControlStage}

theorem holds {after} (hstg : after.stage = d.stage)
    (hmoves : d.rotation.machine.Moves after.rotation.machine)
    (hpub : ∀ snap ∈ after.published, snap ∈ d.published ∨ snap = after.rotation.machine.snapshot)
    (hrecords : ∀ op ∈ after.control.records, op ∈ d.control.records ∨ Written d after op)
    (hfits : PendingFits after) : StepFacts d .nothing after where
  moves := hmoves
  published := hpub
  publishing := fun _ _ _ _ h => .inl (hstg ▸ h)
  scheduling := fun _ _ h => .inl (hstg ▸ h)
  records := hrecords
  working := fun _ _ h => ⟨.inl (hstg ▸ ⟨h, id⟩), by simp⟩
  confirmed := by simp
  fits := hfits

theorem working_of_continues {next} (h : stage.Continues next) {reqId opId}
    (hop : next.operation = some (reqId, opId)) :
    stage.operation = some (reqId, opId) ∧ stage.reserved = true := by
  rcases h.operation with hnone | ⟨heq, hresd⟩
  · rw [hnone] at hop
    cases hop
  · exact ⟨heq.symm.trans hop, hresd⟩

theorem goes {control} (hfits : PendingFits d) (hconf : ∀ opId, effect ≠ .confirmed opId)
    (hcont : d.stage.Continues stage)
    (hrecords : ∀ op ∈ control.records, op ∈ d.control.records ∨
      Written d ({ d with control := control }.goto stage) op)
    (hpend : ∀ op, control.pending = some op →
      ∃ old, d.control.pending = some old ∧ op.operationId = old.operationId) :
    StepFacts d effect ({ d with control := control }.goto stage) where
  moves := .stays
  published := fun _ h => .inl h
  publishing := fun _ _ _ _ h => absurd h (hcont.publishing _ _ _ _)
  scheduling := fun _ _ h => absurd h (hcont.scheduling _ _)
  records := hrecords
  working := by
    intro reqId opId hop
    exact ⟨.inl ⟨(working_of_continues hcont hop).1, hcont.hopeful⟩, hconf⟩
  confirmed := fun opId h => absurd h (hconf opId)
  fits := by
    intro reqId opId hop _ op hop'
    obtain ⟨hbef, hresd⟩ := working_of_continues hcont hop
    obtain ⟨old, hold, hid⟩ := hpend op hop'
    rw [hid]
    exact hfits reqId opId hbef hresd old hold

theorem leaves {after} (hmoves : d.rotation.machine.Moves after.rotation.machine)
    (hpub : after.published = d.published) (hstg : after.stage.operation = none)
    (hconf : ∀ opId, effect = .confirmed opId → ∃ reqId, d.stage = .scheduling reqId opId)
    (hrecords : ∀ op ∈ after.control.records, op ∈ d.control.records ∨ Written d after op) :
    StepFacts d effect after where
  moves := hmoves
  published := fun _ h => .inl (hpub ▸ h)
  publishing := by
    intro _ _ _ _ h
    rw [h] at hstg
    cases hstg
  scheduling := by
    intro _ _ h
    rw [h] at hstg
    cases hstg
  records := hrecords
  working := by
    intro reqId opId hop
    cases hstg.symm.trans hop
  confirmed := hconf
  fits := by
    intro reqId opId hop
    cases hstg.symm.trans hop

theorem of_change {input after} (hfits : PendingFits d)
    (h : Change d input effect after) : StepFacts d effect after := by
  cases h with
  | stays => exact holds rfl .stays (fun _ h => .inl h) (fun _ h => .inl h) hfits
  | goes hsilent hcont =>
    refine goes hfits ?_ hcont (fun _ h => .inl h) fun op h => ⟨op, h, rfl⟩
    rintro opId rfl
    cases hsilent
  | remembers res hsilent =>
    refine leaves .stays rfl rfl ?_ fun _ h => .inl h
    rintro opId rfl
    cases hsilent
  | asks hinput hstg hfree =>
    exact leaves .stays rfl rfl (by rintro _ ⟨⟩) fun _ h => .inl h
  | acknowledges reqId hinput hstg =>
    refine holds rfl .stays (fun _ h => .inl h)
      (fun _ h => .inl (mem_records_ackResult h)) fun reqId opId hop => ?_
    change d.stage.operation = _ at hop
    rw [hstg] at hop
    cases hop
  | prepares beforeGeneration hstg hlt =>
    constructor
    · exact moves_step _ _
    · exact fun _ h => .inl h
    · rintro _ _ _ _ ⟨⟩
    · rintro _ _ ⟨⟩
    · exact fun _ h => .inl h
    · rintro _ _ ⟨⟩
      refine ⟨.inr ⟨rfl, hlt⟩, ?_⟩
      rintro _ ⟨⟩
    · rintro _ ⟨⟩
    · rintro _ _ _ ⟨⟩
  | reserves hstg hfree =>
    rename_i reqId opId
    have hop : d.stage.operation = some (reqId, opId) := by
      rw [hstg]
      rfl
    constructor
    · exact .stays
    · exact fun _ h => .inl h
    · rintro _ _ _ _ ⟨⟩
    · rintro _ _ ⟨⟩
    · intro op h
      rcases mem_records.mp h with h | h
      · cases h
        exact .inr (.reserved hop rfl rfl)
      · exact .inl (mem_records.mpr (.inr h))
    · rintro _ _ ⟨⟩
      refine ⟨.inl ⟨hop, ?_⟩, ?_⟩
      · rw [hstg]
        exact fun _ => rfl
      · rintro _ ⟨⟩
    · rintro _ ⟨⟩
    · rintro _ _ ⟨⟩ _ _ ⟨⟩
      rfl
  | sticks opId =>
    exact leaves (moves_step _ _) rfl rfl (by rintro _ ⟨⟩) fun _ h => .inl h
  | activates hstg =>
    rename_i reqId opId
    have hop : d.stage.operation = some (reqId, opId) := by
      rw [hstg]
      rfl
    constructor
    · exact moves_step _ _
    · exact fun _ h => .inl h
    · rintro _ _ _ _ ⟨⟩
    · rintro _ _ ⟨⟩
      exact .inr rfl
    · exact fun _ h => .inl h
    · rintro _ _ ⟨⟩
      refine ⟨.inl ⟨hop, ?_⟩, ?_⟩
      · rw [hstg]
        exact fun _ => rfl
      · rintro _ ⟨⟩
    · rintro _ ⟨⟩
    · rintro _ _ ⟨⟩ _ op hpend
      refine hfits reqId opId hop ?_ op hpend
      rw [hstg]
      rfl
  | confirms hstg =>
    rename_i reqId opId
    refine leaves .stays rfl rfl ?_ fun _ h => .inl h
    rintro _ ⟨⟩
    exact ⟨reqId, hstg⟩
  | fails hstg =>
    rename_i reqId opId step
    have hop : d.stage.operation = some (reqId, opId) := by
      rw [hstg]
      rfl
    constructor
    · exact moves_step _ _
    · exact fun _ h => .inl h
    · rintro _ _ _ _ ⟨⟩
      exact .inr rfl
    · rintro _ _ ⟨⟩
    · exact fun _ h => .inl h
    · rintro _ _ ⟨⟩
      refine ⟨.inl ⟨hop, by rintro ⟨⟩⟩, ?_⟩
      rintro _ ⟨⟩
    · rintro _ ⟨⟩
    · rintro _ _ ⟨⟩ _ op hpend
      refine hfits reqId opId hop ?_ op hpend
      rw [hstg]
      rfl
  | publishes hstg hcont =>
    refine goes hfits (by rintro _ ⟨⟩) hcont (fun op h => ?_)
      fun _ => pending_observeRotation
    rcases mem_records_observeRotation h with h | ⟨_, _, hends, hid, hres⟩
    · exact .inl h
    · exact .inr (.observed (.inr ⟨_, _, _, hstg⟩) hends hid hres)
  | refusesAcceptance hstg =>
    rename_i reqId opId
    have hop : d.stage.operation = some (reqId, opId) := by
      rw [hstg]
      rfl
    refine leaves .stays rfl rfl (by rintro _ ⟨⟩) fun op h => ?_
    rcases mem_records_markAcceptanceDeliveryFailed h with h | ⟨hid, hres⟩
    · exact .inl h
    · refine .inr (.refused hop ?_ rfl hid hres)
      rw [hstg]
      rfl
  | refusesActivation hstg =>
    rename_i reqId opId step
    have hop : d.stage.operation = some (reqId, opId) := by
      rw [hstg]
      rfl
    have hresd : d.stage.reserved = true := by
      rw [hstg]
      rfl
    refine leaves .stays rfl rfl (by rintro _ ⟨⟩) fun op h => ?_
    rcases mem_records_markActivationFailed h with h | ⟨old, hold, -, hid, hres⟩
    · exact .inl h
    · rw [hfits _ _ hop hresd old hold] at hid
      refine .inr (.refused hop ?_ rfl hid hres)
      rw [hstg]
      rfl
  | rotates act =>
    exact holds rfl (moves_step _ _) (fun _ h => (mem_cons.mp h).symm)
      (fun _ h => .inl h) hfits
  | observes hpub =>
    refine holds rfl .stays (fun _ h => .inl (mem_of_mem_erase h)) (fun op h => ?_) ?_
    · rcases mem_records_observeRotation h with h | ⟨_, _, hends, hid, hres⟩
      · exact .inl h
      · exact .inr (.observed (.inl hpub) hends hid hres)
    · intro _ _ hop hresd op hpend
      obtain ⟨old, hold, hid⟩ := pending_observeRotation hpend
      rw [hid]
      exact hfits _ _ hop hresd old hold
  | closes hinput =>
    refine holds rfl .stays (fun _ h => .inl h)
      (fun _ h => .inl (mem_records_shutdown h)) ?_
    intro _ _ hop hresd op hpend
    exact hfits _ _ hop hresd op (pending_shutdown hpend)

end StepFacts

/-! ## Whole runs -/

/-- A recorded result is the one the rotation ended with, or the rejection of a rotation that
can no longer be confirmed. -/
def Sourced (history : List ControlEvent) (stage : ControlStage) (operationId : Nat)
    (result : RemoteRotationResult) : Prop :=
  result = .rejected ∧ ¬ Confirmed history operationId ∧ ¬ stage.Hopes operationId ∨
    ∃ terminal, EndedAs history operationId terminal ∧ result = .ofTerminal terminal

structure ResultsKept (r : Recorded ControlRuntime ControlInput ControlEffect) : Prop where
  numbered : r.state.rotation.machine.Numbered
  published : ∀ snapshot ∈ r.state.published, ∀ operationId terminal,
    snapshot.Ends operationId terminal → EndedAs r.history operationId terminal
  publishing : ∀ requestId operationId step snapshot,
    r.state.stage = .publishing requestId operationId step snapshot →
      ∀ other terminal, snapshot.Ends other terminal → EndedAs r.history other terminal
  scheduling : ∀ requestId operationId,
    r.state.stage = .scheduling requestId operationId → Activated r.history operationId
  fits : PendingFits r.state
  working : ∀ requestId operationId, r.state.stage.operation = some (requestId, operationId) →
    operationId < r.state.rotation.machine.nextOperationId ∧ ¬ Confirmed r.history operationId
  recorded : ∀ operation ∈ r.state.control.records, ∀ operationId,
    operation.operationId = some operationId →
      operationId < r.state.rotation.machine.nextOperationId ∧
        ∀ result, operation.result = some result →
          Sourced r.history r.state.stage operationId result
  past : ∀ x ∈ r.history, ∀ operationId result,
    x.after.control.RecordsResult operationId result →
      operationId < r.state.rotation.machine.nextOperationId ∧
        Sourced r.history r.state.stage operationId result
  confirmed : ∀ operationId, Confirmed r.history operationId →
    operationId < r.state.rotation.machine.nextOperationId ∧ Activated r.history operationId
  ended : ∀ operationId terminal, EndedAs r.history operationId terminal →
    operationId < r.state.rotation.machine.nextOperationId ∧
      (r.state.rotation.machine.snapshot.Ends operationId terminal ∨
        r.state.rotation.machine.snapshot.operationId ≠ some operationId)
  unique : ∀ operationId terminal other, EndedAs r.history operationId terminal →
    EndedAs r.history operationId other → other = terminal

namespace ResultsKept

theorem init (deviceId : Text) : ResultsKept (.init (.new deviceId)) where
  numbered := .new
  published := by
    intro snap h
    cases h
  publishing := by rintro _ _ _ _ ⟨⟩
  scheduling := by rintro _ _ ⟨⟩
  fits := by rintro _ _ ⟨⟩
  working := by rintro _ _ ⟨⟩
  recorded := by
    intro op h
    cases h
  past := by
    intro x h
    cases h
  confirmed := by
    rintro opId ⟨x, hx, -⟩
    cases hx
  ended := by
    rintro opId terminal ⟨x, hx, -⟩
    cases hx
  unique := by
    rintro opId terminal other ⟨x, hx, -⟩
    cases hx

variable {r : Recorded ControlRuntime ControlInput ControlEffect} {opId : Nat}
  {e : ControlEvent}

/-- A rotation the task works on was not confirmed before, and a confirmation ends the work. -/
theorem working_cons (h : ResultsKept r) (hfacts : StepFacts r.state e.output e.after)
    {reqId : Text} (hop : e.after.stage.operation = some (reqId, opId)) :
    opId < e.after.rotation.machine.nextOperationId ∧ ¬ Confirmed (e :: r.history) opId := by
  obtain ⟨hbef, hoth⟩ := hfacts.working reqId opId hop
  have hle := hfacts.moves.nextOperationId_le
  rw [confirmed_cons_iff, not_or]
  rcases hbef with ⟨hbef, -⟩ | ⟨hnew, hlt⟩
  · obtain ⟨hlt, hnot⟩ := h.working reqId opId hbef
    exact ⟨hlt.trans_le hle, hoth opId, hnot⟩
  · refine ⟨hlt, hoth opId, fun hold => ?_⟩
    have := (h.confirmed opId hold).1
    omega

theorem hopes_of_scheduling {stage : ControlStage}
    (h : ∃ reqId, stage = .scheduling reqId opId) : stage.Hopes opId := by
  obtain ⟨reqId, rfl⟩ := h
  exact ⟨rfl, reqId, rfl⟩

theorem sourced_cons (hfacts : StepFacts r.state e.output e.after) {res}
    (hlt : opId < r.state.rotation.machine.nextOperationId)
    (hsourced : Sourced r.history r.state.stage opId res) :
    Sourced (e :: r.history) e.after.stage opId res := by
  rcases hsourced with ⟨hrej, hnot, hhopes⟩ | ⟨terminal, hended, hres⟩
  · refine .inl ⟨hrej, ?_, ?_⟩
    · rw [confirmed_cons_iff, not_or]
      exact ⟨fun hnow => hhopes (hopes_of_scheduling (hfacts.confirmed opId hnow)), hnot⟩
    · rintro ⟨hhopeful, reqId, hop⟩
      rcases (hfacts.working reqId opId hop).1 with ⟨hbef, hkeeps⟩ | ⟨hnew, -⟩
      · exact hhopes ⟨hkeeps hhopeful, reqId, hbef⟩
      · omega
  · exact .inr ⟨terminal, hended.cons e, hres⟩

theorem ended_cons (h : ResultsKept r) (hfacts : StepFacts r.state e.output e.after)
    {terminal} (hended : EndedAs (e :: r.history) opId terminal) :
    opId < e.after.rotation.machine.nextOperationId ∧
      (e.after.rotation.machine.snapshot.Ends opId terminal ∨
        e.after.rotation.machine.snapshot.operationId ≠ some opId) := by
  rcases endedAs_cons_iff.mp hended with hnow | hpast
  · exact ⟨(hfacts.moves.numbered h.numbered).operationId_lt hnow.operationId, .inl hnow⟩
  · obtain ⟨hlt, hstnd⟩ := h.ended opId terminal hpast
    refine ⟨hlt.trans_le hfacts.moves.nextOperationId_le, ?_⟩
    rcases hstnd with hstnd | hother
    · exact hfacts.moves.ends h.numbered hstnd
    · right
      rcases hfacts.moves.snapshot_operationId with heq | heq
      · rwa [heq]
      · rw [heq]
        rintro ⟨⟩
        exact absurd hlt (lt_irrefl _)

theorem recorded_cons (h : ResultsKept r) (hfacts : StepFacts r.state e.output e.after)
    {op} (hmem : op ∈ e.after.control.records)
    (hid : op.operationId = some opId) : opId < e.after.rotation.machine.nextOperationId ∧
      ∀ res, op.result = some res → Sourced (e :: r.history) e.after.stage opId res := by
  have hle := hfacts.moves.nextOperationId_le
  rcases hfacts.records op hmem with hold | hwritten
  · obtain ⟨hlt, hsourced⟩ := h.recorded op hold opId hid
    exact ⟨hlt.trans_le hle, fun res hres => sourced_cons hfacts hlt (hsourced res hres)⟩
  · cases hwritten with
    | reserved hstg hid' hresult' =>
      cases hid.symm.trans hid'
      refine ⟨(h.working _ _ hstg).1.trans_le hle, fun res hres => ?_⟩
      cases hresult'.symm.trans hres
    | observed hsnap hends hid' hresult' =>
      rename_i snap _ terminal
      cases hid.symm.trans hid'
      have hended : EndedAs r.history opId terminal := by
        rcases hsnap with hpub | ⟨_, _, _, hstg⟩
        · exact h.published _ hpub _ _ hends
        · exact h.publishing _ _ _ _ hstg _ _ hends
      refine ⟨(h.ended _ _ hended).1.trans_le hle, fun res hres => ?_⟩
      cases hresult'.symm.trans hres
      exact .inr ⟨_, hended.cons e, rfl⟩
    | refused hstg hhopeless hdone hid' hresult' =>
      cases hid.symm.trans hid'
      obtain ⟨hlt, hnot⟩ := h.working _ _ hstg
      refine ⟨hlt.trans_le hle, fun res hres => ?_⟩
      cases hresult'.symm.trans hres
      refine .inl ⟨rfl, ?_, ?_⟩
      · rw [confirmed_cons_iff, not_or]
        refine ⟨fun hnow => ?_, hnot⟩
        have hhopes := hopes_of_scheduling (hfacts.confirmed opId hnow)
        exact Bool.false_ne_true (hhopeless.symm.trans hhopes.1)
      · rintro ⟨-, reqId, hop⟩
        cases hdone.symm.trans hop

theorem record_step (h : ResultsKept r) (input : ControlInput) :
    ResultsKept (record step r input) := by
  have hfacts : StepFacts r.state (r.state.step input).1 (r.state.step input).2 :=
    .of_change h.fits (change_step r.state input)
  have hnow : ∀ {snap : RotationSnapshot} {opId : Nat}
      {terminal : RotationTerminalResult}, snap = (r.state.step input).2.rotation.machine.snapshot →
      snap.Ends opId terminal →
      EndedAs (eventOf step r.state input :: r.history) opId terminal := by
    rintro _ opId terminal rfl hends
    exact ⟨_, .head _, hends⟩
  constructor
  · exact hfacts.moves.numbered h.numbered
  · intro snap hsnap opId terminal hends
    rcases hfacts.published snap hsnap with hold | heq
    · exact (h.published snap hold opId terminal hends).cons _
    · exact hnow heq hends
  · intro reqId opId step snap hstg other terminal hends
    rcases hfacts.publishing reqId opId step snap hstg with hold | heq
    · exact (h.publishing reqId opId step snap hold other terminal hends).cons _
    · exact hnow heq hends
  · intro reqId opId hstg
    rcases hfacts.scheduling reqId opId hstg with hold | hnow
    · exact (h.scheduling reqId opId hold).cons _
    · exact ⟨_, .head _, hnow⟩
  · exact hfacts.fits
  · intro reqId opId hop
    exact h.working_cons (e := eventOf step r.state input) hfacts hop
  · intro op hmem opId hid
    exact h.recorded_cons (e := eventOf step r.state input) hfacts hmem hid
  · intro x hx opId res hres
    rcases mem_cons.mp hx with rfl | hold
    · obtain ⟨op, hmem, hid, hres⟩ := hres
      obtain ⟨hlt, hsourced⟩ := h.recorded_cons (e := eventOf step r.state input) hfacts hmem hid
      exact ⟨hlt, hsourced res hres⟩
    · obtain ⟨hlt, hsourced⟩ := h.past x hold opId res hres
      exact ⟨hlt.trans_le hfacts.moves.nextOperationId_le,
        sourced_cons (e := eventOf step r.state input) hfacts hlt hsourced⟩
  · intro opId hconf
    have hle := hfacts.moves.nextOperationId_le
    rcases confirmed_cons_iff.mp hconf with hnow | hpast
    · obtain ⟨reqId, hstg⟩ := hfacts.confirmed opId hnow
      have hlt := (h.working reqId opId (by rw [hstg]; rfl)).1
      exact ⟨hlt.trans_le hle, (h.scheduling reqId opId hstg).cons _⟩
    · obtain ⟨hlt, hactd⟩ := h.confirmed opId hpast
      exact ⟨hlt.trans_le hle, hactd.cons _⟩
  · intro opId terminal hended
    exact h.ended_cons (e := eventOf step r.state input) hfacts hended
  · intro opId terminal other hterm hoth
    -- a result shown now is the one that a result of the past still stands for
    have hstnd := h.ended_cons (e := eventOf step r.state input) hfacts hterm
    have hstands' := h.ended_cons (e := eventOf step r.state input) hfacts hoth
    rcases endedAs_cons_iff.mp hterm with hshown | hpast
    · rcases hstands'.2 with hends | hne
      · exact some.inj (hends.result.symm.trans hshown.result)
      · exact absurd hshown.operationId hne
    · rcases endedAs_cons_iff.mp hoth with hshown | hpast'
      · rcases hstnd.2 with hends | hne
        · exact some.inj (hshown.result.symm.trans hends.result)
        · exact absurd hshown.operationId hne
      · exact h.unique opId terminal other hpast hpast'

theorem runControl (deviceId : Text) (inputs : List ControlInput) :
    ResultsKept (Control.runControl deviceId inputs) :=
  run_invariant (fun _ input h => h.record_step input) (init deviceId) inputs

end ResultsKept

/-- The executor accepts the tasks of an operation whose acceptance was written and that
`activate_prepared` has activated. -/
theorem confirmed_of_scheduled {deviceId inputs reqId opId}
    (hstg : (runControl deviceId inputs).state.stage = .scheduling reqId opId) (more) :
    Confirmed (runControl deviceId (inputs ++ .scheduled true :: more)).history opId := by
  unfold runControl at hstg ⊢
  rw [run_append]
  refine ⟨_, mem_history (.head _) more, ?_⟩
  simp [hstg]

theorem confirmed_result_truthful (deviceId : Text) (before after : List ControlInput)
    (requestId : Text) (operationId : Nat)
    (hscheduling : (runControl deviceId before).state.stage = .scheduling requestId operationId) :
    ResultTruthful (runControl deviceId (before ++ .scheduled true :: after)).history
      operationId := by
  have hconfirmed := confirmed_of_scheduled hscheduling after
  generalize before ++ .scheduled true :: after = inputs at hconfirmed
  have hkept := ResultsKept.runControl deviceId inputs
  have hactivated := (hkept.confirmed operationId hconfirmed).2
  -- the rejection of a confirmed rotation has no source
  have hown : ∀ x ∈ (runControl deviceId inputs).history, ∀ result,
      x.after.control.RecordsResult operationId result →
      ∃ terminal, EndedAs (runControl deviceId inputs).history operationId terminal ∧
        result = .ofTerminal terminal := by
    intro x hx result hresult
    rcases (hkept.past x hx operationId result hresult).2 with ⟨-, hnot, -⟩ | hended
    · exact absurd hconfirmed hnot
    · exact hended
  refine ⟨?_, ?_, ?_⟩
  · intro x hx result hresult
    obtain ⟨terminal, -, rfl⟩ := hown x hx result hresult
    refine iff_of_false ?_ (not_not.mpr hactivated)
    cases terminal <;> rintro ⟨⟩
  · intro x hx result hresult _
    exact hown x hx result hresult
  · intro x hx y hy result other hresult hother
    obtain ⟨terminal, hended, rfl⟩ := hown x hx result hresult
    obtain ⟨terminal', hended', rfl⟩ := hown y hy other hother
    rw [hkept.unique operationId terminal terminal' hended hended']

/-! ## The failure paths -/

def sampleDevice : Text := "device".toList

def sampleRequest : Text := "req_1".toList

/-- A device that connected, took the command and is about to write its acceptance. -/
def untilAcceptance : List ControlInput :=
  [.connected, .receive (.challenge "nonce".toList), .signed (some "signature".toList),
    .written true, .receive .ready, .next, .receive (.rotateIp sampleRequest),
    .prepared (some 7), .next]

def untilScheduling : List ControlInput := untilAcceptance ++ [.written true, .next]

/-- The rotation is activated and reaches its deadline. -/
def activatedRotation : List ControlInput :=
  untilScheduling ++ .scheduled true :: [.rotation (.advance ⟨1, .deadline⟩ .expired),
    .notified (RotationOperation.failOperation .deadlineExceeded (.started 1 7)).snapshot]

theorem confirmed_result_truthful_activated :
    (runControl sampleDevice activatedRotation).state.control.RecordsResult 1 .failed ∧
      ResultTruthful (runControl sampleDevice activatedRotation).history 1 :=
  ⟨by decide +kernel,
    confirmed_result_truthful sampleDevice untilScheduling _ sampleRequest 1 (by decide +kernel)⟩

def unwrittenAcceptance : List ControlInput :=
  untilAcceptance ++ [.written false, .next, .next, .next]

/-- The executor refuses the tasks of the activated rotation. -/
def unscheduledActivation : List ControlInput :=
  untilScheduling ++ [.scheduled false, .next, .next, .next, .next]

/-- The first rotation was never activated and is recorded as failed; the second one was
activated, is recorded as failed first and as rejected afterwards. -/
theorem failure_path_results :
    (¬ Activated (runControl sampleDevice unwrittenAcceptance).history 1 ∧
      (runControl sampleDevice unwrittenAcceptance).state.control.RecordsResult 1 .failed ∧
      ¬ ResultTruthful (runControl sampleDevice unwrittenAcceptance).history 1) ∧
    Activated (runControl sampleDevice unscheduledActivation).history 1 ∧
      (runControl sampleDevice unscheduledActivation).state.control.RecordsResult 1 .rejected ∧
      (∃ x ∈ (runControl sampleDevice unscheduledActivation).history,
        x.after.control.RecordsResult 1 .failed) ∧
      ¬ ResultTruthful (runControl sampleDevice unscheduledActivation).history 1 := by
  have hunwritten : ¬ Activated (runControl sampleDevice unwrittenAcceptance).history 1 := by
    decide +kernel
  have hfailed : ∃ x ∈ (runControl sampleDevice unwrittenAcceptance).history,
      x.after.control.RecordsResult 1 .failed := by
    decide +kernel
  have hfirst : ∃ x ∈ (runControl sampleDevice unscheduledActivation).history,
      x.after.control.RecordsResult 1 .failed := by
    decide +kernel
  have hsecond : ∃ x ∈ (runControl sampleDevice unscheduledActivation).history,
      x.after.control.RecordsResult 1 .rejected := by
    decide +kernel
  refine ⟨⟨hunwritten, by decide +kernel, fun h => ?_⟩,
    by decide +kernel, by decide +kernel, hfirst, fun h => ?_⟩
  · obtain ⟨x, hx, hresult⟩ := hfailed
    cases (h.rejected_iff x hx .failed hresult).mpr hunwritten
  · obtain ⟨x, hx, hresult⟩ := hfirst
    obtain ⟨y, hy, hother⟩ := hsecond
    cases h.kept x hx y hy .failed .rejected hresult hother

end MishProxy.Control
