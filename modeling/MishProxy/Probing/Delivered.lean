import MishProxy.Probing.Fresh

/-!
# How cellular facts reach readiness

The policy coordinator records an admission snapshot or a policy publication under its own
lock and calls the observer of the readiness runtime after it has released it. The call is a
delivery; it may be made by any thread and at any later moment, and the receiver compares no
sequence. So an older snapshot can overwrite a newer fact (`cellular_fact_set_back`).

`cellular_fact_advances` says that nothing else sets the fact back: when every delivery is made
while the owner has accepted no event since the snapshot was taken, the sequence in the fact
never decreases. The argument needs one invariant, that the fact is not ahead of the owner.
-/

namespace MishProxy.Probing

open Machine Cellular Coordination MishProxy.Runtime PolicyCoordinator

/-- A call of an observer that has not reached readiness yet. -/
inductive Delivery where
  | admission (snapshot : CellularAdmissionSnapshot)
  | publication (published : CellularPolicyPublication)
  deriving DecidableEq

def Delivery.update : Delivery → FactUpdate
  | .admission snapshot => .cellularAdmission snapshot
  | .publication published => .cellular published

def Delivery.snapshot : Delivery → CellularAdmissionSnapshot
  | .admission snapshot => snapshot
  | .publication published => published.admission

/-- Whether the coordinator's observers are the ones to make this update. -/
def FactUpdate.isCellular : FactUpdate → Bool
  | .cellularAdmission _ | .cellular _ => true
  | _ => false

structure CellularFeed where
  coordinator : PolicyCoordinator
  readiness : ReadinessRuntime
  deliveries : List Delivery

inductive FeedAction where
  | coordinator (action : CoordinatorAction)
  | deliver (delivery : Delivery)
  | readiness (action : ReadinessAction)
  deriving DecidableEq

/-- The observers that a section of the coordinator goes on to call. -/
def announced (s : PolicyCoordinator) : CoordinatorAction → List Delivery
  | .call (.publishAdmission admission) =>
    if .publishAdmission admission ∈ s.calls ∧ s.lastAdmission ≠ some admission then
      [.admission admission]
    else []
  | .drain .next =>
    match s.drain with
    | some (.publishing request result _) => [.publication ⟨request.admission, result⟩]
    | _ => []
  | _ => []

/-- The sequence of the owner that the cellular fact carries, zero without a fact. -/
def ReadinessRuntime.cellularSequence (s : ReadinessRuntime) : Nat :=
  s.facts.cellular.elim 0 fun fact => fact.ownerGeneration.raw

namespace CellularFeed

def new (generation : RuntimeGeneration) : CellularFeed := ⟨.new, .new generation, []⟩

def step (s : CellularFeed) : FeedAction → CellularFeed
  | .coordinator action =>
    { s with
      coordinator := s.coordinator.step action
      deliveries := announced s.coordinator action ++ s.deliveries }
  | .deliver delivery =>
    if delivery ∈ s.deliveries then
      { s with
        readiness := (s.readiness.observe delivery.update).2
        deliveries := s.deliveries.erase delivery }
    else s
  | .readiness (.update update) =>
    if update.isCellular then s else { s with readiness := (s.readiness.observe update).2 }
  | .readiness action => { s with readiness := (s.readiness.step action).2 }

end CellularFeed

def runFeed (generation : RuntimeGeneration) (actions : List FeedAction) : CellularFeed :=
  run CellularFeed.step (.new generation) actions

/-! ## What readiness does with a delivery -/

namespace ReadinessRuntime

variable {s : ReadinessRuntime}

theorem reproject_kept (s : ReadinessRuntime) :
    s.reproject.2.facts = s.facts ∧ s.reproject.2.closed = s.closed := by
  unfold reproject
  dsimp only
  split
  · exact ⟨rfl, rfl⟩
  · split
    · split_ifs
      · split
        · exact ⟨rfl, rfl⟩
        · rename_i hissue
          obtain ⟨_, _, rfl⟩ := issue_eq_ok hissue
          exact ⟨rfl, rfl⟩
      · exact ⟨rfl, rfl⟩
    · exact ⟨rfl, rfl⟩

theorem observe_closed (s : ReadinessRuntime) (update : FactUpdate) :
    (s.observe update).2.closed = s.closed := by
  rcases s.observe_cases update with ⟨error, hreject⟩ | ⟨after, -, ⟨-, hsame⟩ | hchg⟩
  · rw [hreject]
  · rw [hsame]
  · rw [hchg]
    exact (reproject_kept _).2

theorem observe_facts_of_resolve {update after} (hopen : s.closed = false)
    (hresv : update.resolve s.facts s.credentials = .ok after) :
    (s.observe update).2.facts = after.facts := by
  simp only [observe, hresv, updateStructural, hopen, Bool.false_eq_true, if_false]
  split_ifs
  · rfl
  · exact (reproject_kept _).1

theorem observe_facts (s : ReadinessRuntime) (update : FactUpdate) :
    (s.observe update).2.facts = s.facts ∨
      ∃ after, update.resolve s.facts s.credentials = .ok after ∧
        (s.observe update).2.facts = after.facts := by
  rcases s.observe_cases update with ⟨error, hreject⟩ | ⟨after, hresv, ⟨_, hsame⟩ | hchg⟩
  · rw [hreject]
    exact .inl rfl
  · rw [hsame]
    exact .inr ⟨after, hresv, rfl⟩
  · rw [hchg]
    exact .inr ⟨after, hresv, (reproject_kept _).1⟩

theorem ownerKey_raw {kind : KeyKind} {raw : Nat} {key : GenerationKey kind}
    (h : ownerKey raw = .ok key) : key.raw = raw := by
  unfold ownerKey GenerationKey.new at h
  split_ifs at h
  exact (congrArg GenerationKey.raw (Except.ok.inj h)).symm

theorem cellularFact_sequence {adm verified fact} (h : cellularFact adm verified = .ok fact) :
    fact.elim 0 (fun fact => fact.ownerGeneration.raw) = rawSequence adm := by
  unfold cellularFact at h
  obtain ⟨gen, hkey, hfact⟩ := exists_of_bind_eq_ok h
  cases hfact
  unfold rawSequence
  cases hlast : adm.lastSequence with
  | none =>
    rw [hlast] at hkey
    cases hkey
    rfl
  | some seq =>
    rw [hlast] at hkey
    obtain ⟨key, hnew, hgen⟩ := exists_of_bind_eq_ok hkey
    cases hgen
    exact ownerKey_raw hnew

theorem resolve_delivery {delivery : Delivery} {facts : StructuralFacts}
    {credentials : Option ProbeCredentials} {after : Update}
    (h : delivery.update.resolve facts credentials = .ok after) :
    after.facts.cellular.elim 0 (fun fact => fact.ownerGeneration.raw) =
      rawSequence delivery.snapshot := by
  cases delivery with
  | admission snap | publication published =>
    obtain ⟨fact, hfact, hafter⟩ := exists_of_bind_eq_ok h
    cases hafter
    exact cellularFact_sequence hfact

theorem resolve_other {update : FactUpdate} (hoth : update.isCellular = false)
    {facts credentials after}
    (h : update.resolve facts credentials = .ok after) : after.facts.cellular = facts.cellular := by
  cases update with
  | cellularAdmission adm | cellular publication => cases hoth
  | mesh adm | credential version active =>
    obtain ⟨_, _, hafter⟩ := exists_of_bind_eq_ok h
    cases hafter
    rfl
  | proxyStarted servingGeneration credentialVersion username password =>
    obtain ⟨_, _, hrest⟩ := exists_of_bind_eq_ok h
    obtain ⟨_, _, hafter⟩ := exists_of_bind_eq_ok hrest
    cases hafter
    rfl
  | proxyStopped =>
    cases h
    rfl

theorem observe_delivery (s : ReadinessRuntime) (delivery : Delivery) :
    (s.observe delivery.update).2.cellularSequence = s.cellularSequence ∨
      (s.observe delivery.update).2.cellularSequence = rawSequence delivery.snapshot := by
  rcases s.observe_facts delivery.update with hkept | ⟨after, hresv, hafter⟩
  · exact .inl (by rw [cellularSequence, hkept, cellularSequence])
  · exact .inr (by rw [cellularSequence, hafter, resolve_delivery hresv])

theorem observe_other (s : ReadinessRuntime) {update} (hoth : update.isCellular = false) :
    (s.observe update).2.cellularSequence = s.cellularSequence := by
  rcases s.observe_facts update with hkept | ⟨after, hresv, hafter⟩
  · rw [cellularSequence, hkept, cellularSequence]
  · rw [cellularSequence, hafter, resolve_other hoth hresv, cellularSequence]

theorem step_other (s : ReadinessRuntime) {act} (hoth : ∀ update, act ≠ .update update) :
    (s.step act).2.cellularSequence = s.cellularSequence := by
  cases act with
  | update update => exact absurd rfl (hoth update)
  | spawnProbe ticket =>
    simp only [step, spawnProbe]
    split_ifs <;> rfl
  | completeProbe ticket out elapsed =>
    simp only [step, completeProbe]
    split_ifs
    · rfl
    · split
      · rfl
      · split_ifs <;> rfl
  | fireRefresh timer =>
    simp only [step, fireRefresh]
    split_ifs
    · rfl
    · split
      · rfl
      · rename_i hissue
        obtain ⟨_, _, rfl⟩ := issue_eq_ok hissue
        rfl
    · rfl
    · rfl
  | shutdown =>
    simp only [step, shutdown]
    split_ifs <;> rfl

end ReadinessRuntime

/-! ## The owner behind the coordinator -/

theorem lastRaw_next (owner : CellularEgress) (ev : NetworkEvent) :
    owner.lastRaw ≤ (owner.next ev).lastRaw := owner.lastRaw_le_runEvents [ev]

theorem lastRaw_drainStep (s : PolicyCoordinator) (input : DrainInput) :
    (s.drainStep input).runtime.owner = s.runtime.owner := by
  generalize hnext : s.drainStep input = next
  have hmove := s.drainStep_move input
  rw [hnext] at hmove
  cases hmove with
  | stay | move _ _ | leave _ _ | dequeue _ _ | reset _ | publish _ => rfl
  | authorize _ =>
    simp only [CellularRuntime.authorizeRootPolicy]
    split_ifs <;> rfl
  | schedule _ =>
    simp only [scheduleRecovery, goto]
    split_ifs <;> rfl

/-- The owner's sequence never decreases, whatever the coordinator does. -/
theorem rawSequence_step (s : PolicyCoordinator) (act : CoordinatorAction) :
    rawSequence s.admission ≤ rawSequence (s.step act).admission := by
  cases act with
  | observeNetwork obs observedHandle interfaceName =>
    exact lastRaw_next s.runtime.owner (.observed obs)
  | networkLost seq handle => exact lastRaw_next s.runtime.owner (.lost seq handle)
  | call call =>
    have hrt := (frame_callStep (s := s) call).runtime
    simp only [step, admission, hrt, le_refl]
  | recover task =>
    have hrt := (frame_recoverStep (s := s) task).runtime
    simp only [step, admission, hrt, le_refl]
  | drain input => simp only [step, admission, lastRaw_drainStep, le_refl]
  | dropPermit =>
    simp only [step, admission, CellularRuntime.dropPermit]
    split_ifs <;> exact le_refl _
  | start | acquire | shutdown | closeGate => exact le_refl _

/-! ## The fact over a run -/

namespace CellularFeed

/-- The fact is not ahead of the owner. -/
def Behind (s : CellularFeed) : Prop :=
  s.readiness.cellularSequence ≤ rawSequence s.coordinator.admission

/-- A delivery is made while the owner still has the sequence of its snapshot. -/
def DeliversCurrent (s : CellularFeed) : FeedAction → Prop
  | .deliver delivery => rawSequence delivery.snapshot = rawSequence s.coordinator.admission
  | _ => True

instance (s : CellularFeed) : ∀ action, Decidable (s.DeliversCurrent action)
  | .deliver delivery => inferInstanceAs
      (Decidable (rawSequence delivery.snapshot = rawSequence s.coordinator.admission))
  | .coordinator _ | .readiness _ => .isTrue trivial

variable {act : FeedAction}

theorem step_sequences (s : CellularFeed) (hcur : s.DeliversCurrent act) :
    rawSequence s.coordinator.admission ≤ rawSequence (s.step act).coordinator.admission ∧
      ((s.step act).readiness.cellularSequence = s.readiness.cellularSequence ∨
        (s.step act).readiness.cellularSequence = rawSequence s.coordinator.admission) := by
  cases act with
  | coordinator act => exact ⟨rawSequence_step s.coordinator act, .inl rfl⟩
  | deliver delivery =>
    simp only [step]
    split_ifs
    · have hcur : rawSequence delivery.snapshot = rawSequence s.coordinator.admission := hcur
      exact ⟨le_refl _, hcur ▸ s.readiness.observe_delivery delivery⟩
    · exact ⟨le_refl _, .inl rfl⟩
  | readiness act =>
    cases act with
    | update update =>
      simp only [step]
      split_ifs with hcellular
      · exact ⟨le_refl _, .inl rfl⟩
      · exact ⟨le_refl _, .inl (s.readiness.observe_other (by simpa using hcellular))⟩
    | spawnProbe | completeProbe | fireRefresh | shutdown =>
      exact ⟨le_refl _, .inl (s.readiness.step_other (by simp))⟩

theorem Behind.step {s : CellularFeed} (h : s.Behind) (hcur : s.DeliversCurrent act) :
    (s.step act).Behind := by
  obtain ⟨howner, hfact⟩ := s.step_sequences hcur
  unfold Behind at h ⊢
  omega

theorem Behind.advances {s : CellularFeed} (h : s.Behind) (hcur : s.DeliversCurrent act) :
    s.readiness.cellularSequence ≤ (s.step act).readiness.cellularSequence := by
  obtain ⟨_, hfact⟩ := s.step_sequences hcur
  unfold Behind at h
  omega

end CellularFeed

/-- From any moment of a run to any later one, the sequence in the cellular fact does not
decrease, as long as every delivery is made while its snapshot is current. -/
theorem cellular_fact_advances (generation : RuntimeGeneration) (actions more : List FeedAction)
    (hcurrent : Along CellularFeed.step CellularFeed.DeliversCurrent (.new generation)
      (actions ++ more)) :
    (runFeed generation actions).readiness.cellularSequence ≤
      (runFeed generation (actions ++ more)).readiness.cellularSequence := by
  have hnew : (CellularFeed.new generation).Behind := Nat.zero_le _
  exact run_le_along (m := fun s : CellularFeed => s.readiness.cellularSequence)
    (fun _ _ h hcurrent => h.step hcurrent) (fun _ _ h hcurrent => h.advances hcurrent)
    hnew hcurrent

/-- A callback up to its published admission, and the delivery of that admission. -/
def deliveredCallback (sequence : ObservationSequence) : List FeedAction :=
  [.coordinator (observeSample sequence),
   .coordinator (.call (.recordHint (sampleRequest sequence).admission sampleHint)),
   .coordinator (.call (.publishAdmission (sampleRequest sequence).admission)),
   .deliver (.admission (sampleRequest sequence).admission)]

theorem cellular_fact_advances_callbacks :
    (runFeed sampleGeneration (deliveredCallback ⟨1, by decide⟩)).readiness.cellularSequence = 1 ∧
      (runFeed sampleGeneration (deliveredCallback ⟨1, by decide⟩)).readiness.cellularSequence ≤
        (runFeed sampleGeneration (deliveredCallback ⟨1, by decide⟩ ++
          deliveredCallback ⟨2, by decide⟩)).readiness.cellularSequence :=
  ⟨by decide, cellular_fact_advances sampleGeneration (deliveredCallback ⟨1, by decide⟩)
    (deliveredCallback ⟨2, by decide⟩) (by decide)⟩

/-- The second callback overtakes the first one, which has published but not delivered. -/
def overtakenDelivery : List FeedAction :=
  (deliveredCallback firstSequence).dropLast ++ deliveredCallback secondSequence

theorem cellular_fact_set_back :
    (runFeed sampleGeneration overtakenDelivery).readiness.cellularSequence = 2 ∧
      (runFeed sampleGeneration (overtakenDelivery ++
        [.deliver (.admission
          (sampleRequest ⟨1, by decide⟩).admission)])).readiness.cellularSequence = 1 := by
  decide

end MishProxy.Probing
