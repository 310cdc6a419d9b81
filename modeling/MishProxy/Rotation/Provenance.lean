import MishProxy.Rotation.Standing

/-!
# Where a successful rotation comes from

`Provenance operation history` says what must have been reported, and in which order, for
an operation that ended with two addresses. `success_provenance` proves it of every
sequence of calls.

The invariant `Sound` says for each phase which facts the operation stands on. Its two
generation-tagged fields are only ever the latest owner generation; this is why a stale
observation cannot disturb them and a newer one clears both.
-/

namespace MishProxy.Rotation

open Machine Net RotationOperation List Option

abbrev Entry : Type := Event RotationStateMachine RotationCall RotationReply

/-- Every call of the run with its reply, newest first. -/
def runCalls (calls : List RotationCall) :
    Recorded RotationStateMachine RotationCall RotationReply :=
  run (record RotationStateMachine.step) (.init .new) calls

/-! ## What was reported -/

def Reports (id : Nat) (call : OperationCall) (e : Entry) : Prop :=
  e.input = .onCurrent id call ∧ e.output.accepted = true

/-- The operation is probing after the call. -/
def Probes (id : Nat) (e : Entry) : Prop :=
  e.after.snapshot.operationId = some id ∧ e.after.snapshot.phase = .probingPublicIp

/-- An observation of a newer generation, accepted or not. -/
def Overtakes (id generation : Nat) (e : Entry) : Prop :=
  ∃ newer flag, generation < newer ∧
    (e.input = .onCurrent id (.observeCellular newer flag) ∨
      e.input = .onCurrent id (.observeRootPolicy newer flag))

section

variable (id before : Nat) (address : IpAddr)

def BeforeRecorded : List Entry → Prop :=
  Once fun e _ => Reports id (.recordBeforeIp before address) e

def DisableApplied : List Entry → Prop :=
  Once fun e past =>
    Reports id (.dataDisableEffectCompleted .applied) e ∧ BeforeRecorded id before address past

def LossObserved : List Entry → Prop :=
  Once fun e past =>
    (∃ generation, before < generation ∧ Reports id (.observeCellular generation false) e) ∧
      BeforeRecorded id before address past

structure Detached (history : List Entry) : Prop where
  disable : DisableApplied id before address history
  loss : LossObserved id before address history

def EnableApplied : List Entry → Prop :=
  Once fun e past =>
    Reports id (.dataEnableEffectCompleted .applied) e ∧ Detached id before address past

/-- The generation was observed as admitted, and nothing heard since speaks against it. -/
def CellularStands (generation : Nat) : List Entry → Prop :=
  Since
    (fun e => e.input ≠ .onCurrent id (.observeCellular generation false) ∧
      ¬ Overtakes id generation e)
    (fun e past =>
      Reports id (.observeCellular generation true) e ∧ Detached id before address past)

/-- The generation was observed as authorised, and nothing heard since speaks against it. -/
def RootStands (generation : Nat) : List Entry → Prop :=
  Since
    (fun e => e.input ≠ .onCurrent id (.observeRootPolicy generation false) ∧
      e.input ≠ .onCurrent id (.observeCellular generation false) ∧ ¬ Overtakes id generation e)
    (fun e past =>
      Reports id (.observeRootPolicy generation true) e ∧ Detached id before address past)

structure Recovered (generation : Nat) (history : List Entry) : Prop where
  enable : EnableApplied id before address history
  cellular : CellularStands id before address generation history
  root : RootStands id before address generation history

/-- The first call after which the operation is probing, with everything that was reported
up to and including it. -/
def ProbingBegan (generation : Nat) : List Entry → Prop :=
  Once fun e past =>
    Probes id e ∧ (∀ x ∈ past, ¬ Probes id x) ∧ Recovered id before address generation (e :: past)

def AfterRecorded (generation : Nat) (afterAddress : IpAddr) : List Entry → Prop :=
  Once fun e past =>
    Reports id (.recordAfterIp generation afterAddress) e ∧
      ProbingBegan id before address generation past

end

structure Provenance (operation : RotationOperation) (history : List Entry) : Prop where
  reported : ∃ address generation afterAddress,
    operation.beforeIp = some address ∧ operation.afterGeneration = some generation ∧
    operation.afterIp = some afterAddress ∧ operation.beforeGeneration < generation ∧
    AfterRecorded operation.id operation.beforeGeneration address generation afterAddress history
  changed_iff : operation.phase = .changed ↔ operation.beforeIp ≠ operation.afterIp

/-! ## The past is kept -/

section

variable {id before generation : Nat} {addr afterAddress : IpAddr} {hist : List Entry}

theorem Detached.cons (h : Detached id before addr hist) (e) :
    Detached id before addr (e :: hist) := ⟨.cons h.disable e, .cons h.loss e⟩

/-- Observations of generations older than the one that stands change nothing. -/
def Quiet (id latest : Nat) (e : Entry) : Prop :=
  ∀ generation flag, latest ≤ generation →
    e.input ≠ .onCurrent id (.observeCellular generation flag) ∧
      e.input ≠ .onCurrent id (.observeRootPolicy generation flag)

theorem Quiet.not_overtakes {e} (h : Quiet id generation e) : ¬ Overtakes id generation e := by
  rintro ⟨newer, flag, hlt, heq | heq⟩
  · exact (h newer flag (Nat.le_of_lt hlt)).1 heq
  · exact (h newer flag (Nat.le_of_lt hlt)).2 heq

theorem CellularStands.quiet {e}
    (h : CellularStands id before addr generation hist) (he : Quiet id generation e) :
    CellularStands id before addr generation (e :: hist) :=
  Since.cons h ⟨(he generation false (Nat.le_refl _)).1, he.not_overtakes⟩

theorem RootStands.quiet {e}
    (h : RootStands id before addr generation hist) (he : Quiet id generation e) :
    RootStands id before addr generation (e :: hist) :=
  Since.cons h
    ⟨(he generation false (Nat.le_refl _)).2, (he generation false (Nat.le_refl _)).1,
      he.not_overtakes⟩

end

/-! ## The invariant -/

/-- The facts from the loss of the network on. -/
structure Recovering (address : IpAddr) (history : List Entry) (operation : RotationOperation) :
    Prop where
  beforeIp : operation.beforeIp = some address
  detached : Detached operation.id operation.beforeGeneration address history
  fresh : ∀ generation, operation.freshCellularGeneration = some generation →
    operation.beforeGeneration < generation ∧ generation = operation.latestOwnerGeneration ∧
      CellularStands operation.id operation.beforeGeneration address generation history
  root : ∀ generation, operation.rootAuthorizedGeneration = some generation →
    operation.beforeGeneration < generation ∧ generation = operation.latestOwnerGeneration ∧
      RootStands operation.id operation.beforeGeneration address generation history

structure NothingFresh (operation : RotationOperation) : Prop where
  fresh : operation.freshCellularGeneration = none
  root : operation.rootAuthorizedGeneration = none

def NotProbed (id : Nat) (history : List Entry) : Prop := ∀ e ∈ history, ¬ Probes id e

def Sound (history : List Entry) (operation : RotationOperation) : Prop :=
  match operation.phase with
  | .preparing =>
    NotProbed operation.id history ∧ NothingFresh operation ∧
      operation.cellularLossObserved = false
  | .dataDisabling =>
    NotProbed operation.id history ∧ NothingFresh operation ∧
      ∃ address, operation.beforeIp = some address ∧
        BeforeRecorded operation.id operation.beforeGeneration address history ∧
        (operation.cellularLossObserved = true →
          LossObserved operation.id operation.beforeGeneration address history)
  | .waitingCellularLoss =>
    NotProbed operation.id history ∧ NothingFresh operation ∧
      ∃ address, operation.beforeIp = some address ∧
        BeforeRecorded operation.id operation.beforeGeneration address history ∧
        DisableApplied operation.id operation.beforeGeneration address history ∧
        (operation.cellularLossObserved = true →
          LossObserved operation.id operation.beforeGeneration address history)
  | .dataEnabling =>
    NotProbed operation.id history ∧ ∃ address, Recovering address history operation
  | .waitingCellularRecovery | .waitingRootPolicy =>
    NotProbed operation.id history ∧ ∃ address, Recovering address history operation ∧
      EnableApplied operation.id operation.beforeGeneration address history
  | .probingPublicIp =>
    ∃ address generation, operation.beforeIp = some address ∧
      operation.afterGeneration = some generation ∧ operation.beforeGeneration < generation ∧
      ProbingBegan operation.id operation.beforeGeneration address generation history
  | .changed | .unchanged => Provenance operation history
  | .idle | .failed => True

/-! ## One call on an operation -/

/-- The entry that a call on the current operation leaves. -/
structure Records (id : Nat) (call : OperationCall)
    (outcome : Transition) (e : Entry) : Prop where
  input : e.input = .onCurrent id call
  accepted : e.output.accepted = outcome.1.isOk
  after : e.after.current = some outcome.2

theorem probes_iff {e id op} (h : e.after.current = some op) :
    Probes id e ↔ op.id = id ∧ op.phase = .probingPublicIp := by
  simp [Probes, RotationStateMachine.snapshot, h, snapshot]

section

variable {op : RotationOperation} {hist : List Entry} {e : Entry}
  {call : OperationCall} {out : Transition}

theorem Records.reports {id : Nat} (he : Records id call out e) (hok : out.1.isOk = true) :
    Reports id call e := ⟨he.input, he.accepted.trans hok⟩

theorem NotProbed.cons {id : Nat} (h : NotProbed id hist)
    (hafter : e.after.current = some op) (hph : op.phase ≠ .probingPublicIp) :
    NotProbed id (e :: hist) := by
  intro x hx
  rcases mem_cons.mp hx with rfl | hx
  · rw [probes_iff hafter]
    exact fun hprobes => hph hprobes.2
  · exact h x hx

theorem Provenance.cons (h : Provenance op hist) (e) : Provenance op (e :: hist) := by
  obtain ⟨addr, gen, afterAddress, hbef, hgen, hafter, hlt, hrecd⟩ := h.reported
  exact ⟨⟨addr, gen, afterAddress, hbef, hgen, hafter, hlt, .cons hrecd e⟩, h.changed_iff⟩

variable {address : IpAddr}

theorem Recovering.quiet (h : Recovering address hist op)
    (he : op.beforeGeneration < op.latestOwnerGeneration → Quiet op.id op.latestOwnerGeneration e) :
    Recovering address (e :: hist) op where
  beforeIp := h.beforeIp
  detached := h.detached.cons e
  fresh := by
    intro gen hfresh
    obtain ⟨hlt, rfl, hstnd⟩ := h.fresh gen hfresh
    exact ⟨hlt, rfl, hstnd.quiet (he hlt)⟩
  root := by
    intro gen hroot
    obtain ⟨hlt, rfl, hstnd⟩ := h.root gen hroot
    exact ⟨hlt, rfl, hstnd.quiet (he hlt)⟩

/-- Only a recovering operation can be disturbed by an observation, and nothing is tagged
while no generation after the first was seen. -/
def Undisturbed (operation : RotationOperation) (e : Entry) : Prop :=
  operation.phase.recovering = true →
    operation.beforeGeneration < operation.latestOwnerGeneration →
      Quiet operation.id operation.latestOwnerGeneration e

theorem undisturbed_of_not_recovering (h : op.phase.recovering = false) :
    Undisturbed op e := fun hrec => absurd (h.symm.trans hrec) (by simp)

theorem Sound.quiet (h : Sound hist op) (he : Undisturbed op e)
    (hafter : e.after.current = some op) : Sound (e :: hist) op := by
  unfold Sound at h ⊢
  cases hph : op.phase <;> simp only [hph] at h ⊢
  case preparing => exact ⟨h.1.cons hafter (by simp [hph]), h.2⟩
  case dataDisabling =>
    obtain ⟨hprob, hfresh, address, hbef, hrecd, hloss⟩ := h
    exact ⟨hprob.cons hafter (by simp [hph]), hfresh, address, hbef,
      .cons hrecd e, fun hobsd => .cons (hloss hobsd) e⟩
  case waitingCellularLoss =>
    obtain ⟨hprob, hfresh, address, hbef, hrecd, hdisable, hloss⟩ := h
    exact ⟨hprob.cons hafter (by simp [hph]), hfresh, address, hbef,
      .cons hrecd e, .cons hdisable e, fun hobsd => .cons (hloss hobsd) e⟩
  case dataEnabling =>
    obtain ⟨hprob, address, hrec⟩ := h
    exact ⟨hprob.cons hafter (by simp [hph]), address, hrec.quiet (he (by rw [hph]; rfl))⟩
  case waitingCellularRecovery | waitingRootPolicy =>
    obtain ⟨hprob, address, hrec, henable⟩ := h
    exact ⟨hprob.cons hafter (by simp [hph]), address,
      hrec.quiet (he (by rw [hph]; rfl)), Once.cons henable e⟩
  case probingPublicIp =>
    obtain ⟨address, gen, hbef, hgen, hlt, hbegan⟩ := h
    exact ⟨address, gen, hbef, hgen, hlt, .cons hbegan e⟩
  case changed | unchanged => exact h.cons e

/-- A call that is no observation and leaves the operation as it was. -/
theorem Sound.refused {res} (h : Sound hist op)
    (hcall : ∀ gen flag, call ≠ .observeCellular gen flag ∧ call ≠ .observeRootPolicy gen flag)
    (he : Records op.id call (res, op) e) : Sound (e :: hist) op :=
  h.quiet (by simp [Undisturbed, Quiet, he.input, hcall]) he.after

theorem sound_failOperation (failure : RotationFailure) (op : RotationOperation)
    (hist : List Entry) : Sound hist (op.failOperation failure) := trivial

variable {gen : Nat}

theorem sound_recordBeforeIp (h : Sound hist op) (he : Records op.id (.recordBeforeIp gen address)
      (op.recordBeforeIp gen address) e) : Sound (e :: hist) (op.recordBeforeIp gen address).2 := by
  revert he
  unfold recordBeforeIp
  split_ifs with hph hgen
  · exact h.refused (by simp)
  · exact h.refused (by simp)
  · intro he
    rw [not_not] at hph hgen
    subst hgen
    simp only [Sound, hph] at h
    obtain ⟨hprob, hfresh, hloss⟩ := h
    refine ⟨hprob.cons he.after (by simp), ⟨hfresh.fresh, hfresh.root⟩, address, rfl,
      .now (he.reports rfl), ?_⟩
    simp [hloss]

theorem sound_dataDisableMutationStarted (h : Sound hist op)
    (he : Records op.id .dataDisableMutationStarted op.dataDisableMutationStarted e) :
    Sound (e :: hist) op.dataDisableMutationStarted.2 := by
  revert he
  unfold dataDisableMutationStarted
  split_ifs with hph
  · exact h.refused (by simp)
  · intro he
    rw [not_not] at hph
    simp only [Sound, hph] at h ⊢
    obtain ⟨hprob, hfresh, address, hbef, hrecd, hloss⟩ := h
    exact ⟨hprob.cons he.after (by simp [hph]), ⟨hfresh.fresh, hfresh.root⟩, address, hbef,
      .cons hrecd e, fun hobsd => .cons (hloss hobsd) e⟩

theorem Recovering.of_nothingFresh (hfresh : NothingFresh op) (hbef : op.beforeIp = some address)
    (hdet : Detached op.id op.beforeGeneration address hist) : Recovering address hist op where
  beforeIp := hbef
  detached := hdet
  fresh := by simp [hfresh.fresh]
  root := by simp [hfresh.root]

theorem sound_maybeAdvanceLoss (hph : op.phase = .waitingCellularLoss)
    (hprob : NotProbed op.id hist) (hfresh : NothingFresh op)
    (hbef : op.beforeIp = some address)
    (hrecd : BeforeRecorded op.id op.beforeGeneration address (e :: hist))
    (hdisable : DisableApplied op.id op.beforeGeneration address (e :: hist))
    (hloss : op.cellularLossObserved = true →
      LossObserved op.id op.beforeGeneration address (e :: hist))
    (hafter : e.after.current = some op.maybeAdvanceLoss) :
    Sound (e :: hist) op.maybeAdvanceLoss := by
  revert hafter
  unfold maybeAdvanceLoss
  split_ifs with hobsd
  · intro hafter
    exact ⟨hprob.cons hafter (by simp), address,
      .of_nothingFresh ⟨hfresh.fresh, hfresh.root⟩ hbef ⟨hdisable, hloss hobsd.2⟩⟩
  · intro hafter
    simp only [Sound, hph]
    exact ⟨hprob.cons hafter (by simp [hph]), hfresh, address, hbef, hrecd, hdisable, hloss⟩

theorem sound_maybeAdvanceRecovery
    (hph : op.phase = .waitingCellularRecovery ∨ op.phase = .waitingRootPolicy)
    (hprob : NotProbed op.id hist)
    (hrec : Recovering address (e :: hist) op)
    (henable : EnableApplied op.id op.beforeGeneration address (e :: hist))
    (hafter : e.after.current = some op.maybeAdvanceRecovery) :
    Sound (e :: hist) op.maybeAdvanceRecovery := by
  obtain ⟨hbef, hdet, hfresh, hroot⟩ := hrec
  revert hafter
  unfold maybeAdvanceRecovery
  rw [if_pos hph]
  cases hgen : op.freshCellularGeneration with
  | none =>
    intro hafter
    rw [hgen] at hfresh
    exact ⟨hprob.cons hafter (by simp), address, ⟨hbef, hdet, by simp, hroot⟩, henable⟩
  | some gen =>
    rw [hgen] at hfresh
    dsimp only
    split_ifs with hauthd
    · intro hafter
      refine ⟨hprob.cons hafter (by simp), address, ⟨hbef, hdet, ?_, hroot⟩, henable⟩
      exact fun g hg => hfresh g hg
    · intro hafter
      rw [not_not] at hauthd
      obtain ⟨hlt, -, hcellular⟩ := hfresh gen rfl
      obtain ⟨-, -, hstnd⟩ := hroot gen hauthd
      refine ⟨address, gen, hbef, rfl, hlt, .now ⟨?_, hprob, ?_⟩⟩
      · exact (probes_iff hafter).mpr ⟨rfl, rfl⟩
      · exact ⟨henable, hcellular, hstnd⟩

theorem sound_dataDisableEffectCompleted {out} (h : Sound hist op)
    (he : Records op.id (.dataDisableEffectCompleted out) (op.dataDisableEffectCompleted out) e) :
    Sound (e :: hist) (op.dataDisableEffectCompleted out).2 := by
  revert he
  unfold dataDisableEffectCompleted
  split_ifs with hph
  · exact h.refused (by simp)
  · intro he
    rw [not_not] at hph
    simp only [Sound, hph] at h
    obtain ⟨hprob, hfresh, address, hbef, hrecd, hloss⟩ := h
    cases out with
    | applied =>
      exact sound_maybeAdvanceLoss rfl hprob ⟨hfresh.fresh, hfresh.root⟩ hbef
        (.cons hrecd e) (.now ⟨he.reports rfl, hrecd⟩)
        (fun hobsd => .cons (hloss hobsd) e) he.after
    | rejected | uncertain => exact sound_failOperation _ _ _

theorem sound_dataEnableEffectCompleted {out} (h : Sound hist op)
    (he : Records op.id (.dataEnableEffectCompleted out) (op.dataEnableEffectCompleted out) e) :
    Sound (e :: hist) (op.dataEnableEffectCompleted out).2 := by
  revert he
  unfold dataEnableEffectCompleted
  split_ifs with hph
  · exact h.refused (by simp)
  · intro he
    rw [not_not] at hph
    simp only [Sound, hph] at h
    obtain ⟨hprob, address, hrec⟩ := h
    have hquiet : Quiet op.id op.latestOwnerGeneration e := by simp [Quiet, he.input]
    obtain ⟨hbef, hdet, hfresh, hroot⟩ := hrec.quiet fun _ => hquiet
    cases out with
    | applied =>
      exact sound_maybeAdvanceRecovery (.inl rfl) hprob ⟨hbef, hdet, hfresh, hroot⟩
        (.now ⟨he.reports rfl, hrec.detached⟩) he.after
    | rejected | uncertain => exact sound_failOperation _ _ _

/-! ## Observations

An observation that is not older than the latest owner generation is the latest itself from
then on, and the tagged fields that it leaves are of that generation. -/

theorem unlessOlder_eq_some_iff {x current} : unlessOlder gen current = some x ↔
      current = some x ∧ gen ≤ x := by
  unfold unlessOlder
  cases current with
  | none => simp
  | some y =>
    by_cases hlt : y < gen
    · simp only [any_some, hlt, decide_true, if_true, reduceCtorEq, some.injEq, false_iff, not_and]
      omega
    · simp only [any_some, hlt, decide_false, Bool.false_eq_true, if_false,
        some.injEq, iff_self_and]
      omega

/-- The owner generation of an observation was taken over. -/
structure TakesOver (generation : Nat) (operation heard : RotationOperation) : Prop where
  id : heard.id = operation.id
  phase : heard.phase = operation.phase
  beforeGeneration : heard.beforeGeneration = operation.beforeGeneration
  afterGeneration : heard.afterGeneration = operation.afterGeneration
  beforeIp : heard.beforeIp = operation.beforeIp
  loss : heard.cellularLossObserved = operation.cellularLossObserved
  restoreRequired : heard.restoreRequired = operation.restoreRequired
  latest : heard.latestOwnerGeneration = generation
  fresh : ∀ x, heard.freshCellularGeneration = some x →
    operation.freshCellularGeneration = some x ∧
      (x = operation.latestOwnerGeneration → x = generation)
  root : ∀ x, heard.rootAuthorizedGeneration = some x →
    operation.rootAuthorizedGeneration = some x ∧
      (x = operation.latestOwnerGeneration → x = generation)

theorem observeOwnerGeneration_cases (gen op) : (gen < op.latestOwnerGeneration ∧
      op.observeOwnerGeneration gen = (false, op)) ∨
    ∃ heard, op.observeOwnerGeneration gen = (true, heard) ∧ TakesOver gen op heard := by
  unfold observeOwnerGeneration
  split_ifs with holder hnewer
  · exact .inl ⟨holder, rfl⟩
  · refine .inr ⟨_, rfl, ⟨rfl, rfl, rfl, rfl, rfl, rfl, rfl, rfl, ?_, ?_⟩⟩
    all_goals
      intro x hx
      obtain ⟨hcur, hle⟩ := unlessOlder_eq_some_iff.mp hx
      exact ⟨hcur, by omega⟩
  · have hlat : op.latestOwnerGeneration = gen := by omega
    exact .inr ⟨_, rfl, ⟨rfl, rfl, rfl, rfl, rfl, rfl, rfl, hlat,
      fun x hx => ⟨hx, (·.trans hlat)⟩, fun x hx => ⟨hx, (·.trans hlat)⟩⟩⟩

/-- The operation after the generation of an observation was taken over and before the
observation itself is looked at. -/
structure Heard (address : IpAddr) (history : List Entry) (generation : Nat)
    (operation : RotationOperation) : Prop where
  newer : operation.beforeGeneration < generation
  latest : operation.latestOwnerGeneration = generation
  beforeIp : operation.beforeIp = some address
  detached : Detached operation.id operation.beforeGeneration address history
  fresh : ∀ x, operation.freshCellularGeneration = some x → x = generation ∧
    CellularStands operation.id operation.beforeGeneration address generation history
  root : ∀ x, operation.rootAuthorizedGeneration = some x → x = generation ∧
    RootStands operation.id operation.beforeGeneration address generation history

def SoundHeard (history : List Entry) (generation : Nat) (operation : RotationOperation) : Prop :=
  match operation.phase with
  | .dataEnabling =>
    NotProbed operation.id history ∧ ∃ address, Heard address history generation operation
  | .waitingCellularRecovery | .waitingRootPolicy =>
    NotProbed operation.id history ∧ ∃ address, Heard address history generation operation ∧
      EnableApplied operation.id operation.beforeGeneration address history
  | _ => Sound history operation

section

variable {gen : Nat} {next : RotationOperation}

theorem NothingFresh.heard (h : NothingFresh op) (hto : TakesOver gen op next) :
    NothingFresh next where
  fresh := eq_none_iff_forall_ne_some.mpr fun x hx => by
    simpa [h.fresh] using (hto.fresh x hx).1
  root := eq_none_iff_forall_ne_some.mpr fun x hx => by
    simpa [h.root] using (hto.root x hx).1

theorem Recovering.heard {address} (h : Recovering address hist op) (hto : TakesOver gen op next)
    (hnewer : op.beforeGeneration < gen) : Heard address hist gen next where
  newer := hto.beforeGeneration ▸ hnewer
  latest := hto.latest
  beforeIp := hto.beforeIp.trans h.beforeIp
  detached := by
    rw [hto.id, hto.beforeGeneration]
    exact h.detached
  fresh := by
    intro x hx
    obtain ⟨hcur, hlat⟩ := hto.fresh x hx
    obtain ⟨-, heq, hstnd⟩ := h.fresh x hcur
    rw [hto.id, hto.beforeGeneration, ← hlat heq]
    exact ⟨rfl, hstnd⟩
  root := by
    intro x hx
    obtain ⟨hcur, hlat⟩ := hto.root x hx
    obtain ⟨-, heq, hstnd⟩ := h.root x hcur
    rw [hto.id, hto.beforeGeneration, ← hlat heq]
    exact ⟨rfl, hstnd⟩

theorem Sound.heard (h : Sound hist op) (hact : op.phase.terminal = false)
    (hto : TakesOver gen op next)
    (hnewer : op.beforeGeneration < gen) : SoundHeard hist gen next := by
  unfold SoundHeard Sound
  unfold Sound at h
  rw [hto.phase]
  cases hph : op.phase <;>
    simp only [hph, RotationPhase.terminal, reduceCtorEq, hto.id, hto.beforeGeneration,
      hto.afterGeneration, hto.beforeIp, hto.loss] at h hact ⊢
  case preparing | dataDisabling | waitingCellularLoss => exact ⟨h.1, h.2.1.heard hto, h.2.2⟩
  case dataEnabling =>
    obtain ⟨hprob, address, hrec⟩ := h
    exact ⟨hprob, address, hrec.heard hto hnewer⟩
  case waitingCellularRecovery | waitingRootPolicy =>
    obtain ⟨hprob, address, hrec, henable⟩ := h
    exact ⟨hprob, address, hrec.heard hto hnewer, henable⟩
  case probingPublicIp => exact h

end

variable {admitted : Bool}

theorem not_overtakes_of_cellular {id : Nat}
    (hinput : e.input = .onCurrent id (.observeCellular gen admitted)) : ¬ Overtakes id gen e := by
  rintro ⟨newer, flag, hlt, heq | heq⟩ <;> simp only [hinput, RotationCall.onCurrent.injEq,
    OperationCall.observeCellular.injEq, true_and, reduceCtorEq, and_false] at heq
  omega

variable {authorized : Bool}

theorem not_overtakes_of_rootPolicy {id : Nat}
    (hinput : e.input = .onCurrent id (.observeRootPolicy gen authorized)) :
    ¬ Overtakes id gen e := by
  rintro ⟨newer, flag, hlt, heq | heq⟩ <;> simp only [hinput, RotationCall.onCurrent.injEq,
    OperationCall.observeRootPolicy.injEq, true_and, reduceCtorEq, and_false] at heq
  omega

theorem Heard.cellular (h : Heard address hist gen op)
    (hrpts : Reports op.id (.observeCellular gen admitted) e) : Recovering address (e :: hist)
      (op.observeRecoveryCellular gen admitted) := by
  have hovertakes := not_overtakes_of_cellular hrpts.1
  cases admitted with
  | true =>
    refine ⟨h.beforeIp, h.detached.cons e, ?_, ?_⟩
    · intro x hx
      cases hx
      exact ⟨h.newer, h.latest.symm, Since.now ⟨hrpts, h.detached⟩⟩
    · intro x hx
      obtain ⟨rfl, hstnd⟩ := h.root x hx
      refine ⟨h.newer, h.latest.symm, Since.cons hstnd ⟨?_, ?_, hovertakes⟩⟩
      · simp [hrpts.1]
      · simp [hrpts.1]
  | false =>
    -- The tagged fields can only be of this generation, so both are cleared.
    have hfresh : op.freshCellularGeneration = none ∨ op.freshCellularGeneration = some gen := by
      cases hx : op.freshCellularGeneration with
      | none => exact .inl rfl
      | some x => exact .inr (congrArg some (h.fresh x hx).1)
    have hroot : op.rootAuthorizedGeneration = none ∨ op.rootAuthorizedGeneration = some gen := by
      cases hx : op.rootAuthorizedGeneration with
      | none => exact .inl rfl
      | some x => exact .inr (congrArg some (h.root x hx).1)
    refine .of_nothingFresh ⟨?_, ?_⟩ h.beforeIp (h.detached.cons e)
    · rcases hfresh with hx | hx <;> simp [observeRecoveryCellular, hx]
    · rcases hroot with hx | hx <;> simp [observeRecoveryCellular, hx]

theorem Heard.rootPolicy (h : Heard address hist gen op)
    (hrpts : Reports op.id (.observeRootPolicy gen authorized) e) :
    Recovering address (e :: hist) { op with
      rootAuthorizedGeneration := if authorized then some gen else none } := by
  refine ⟨h.beforeIp, h.detached.cons e, ?_, ?_⟩
  · intro x hx
    obtain ⟨rfl, hstnd⟩ := h.fresh x hx
    refine ⟨h.newer, h.latest.symm, Since.cons hstnd ⟨?_, not_overtakes_of_rootPolicy hrpts.1⟩⟩
    simp [hrpts.1]
  · intro x hx
    cases authorized with
    | false => cases hx
    | true =>
      cases hx
      exact ⟨h.newer, h.latest.symm, Since.now ⟨hrpts, h.detached⟩⟩

section

variable (gen : Nat) (admitted : Bool) (op : RotationOperation)

@[simp] theorem observeRecoveryCellular_phase :
    (op.observeRecoveryCellular gen admitted).phase = op.phase := by
  cases admitted <;> rfl

@[simp] theorem observeRecoveryCellular_id :
    (op.observeRecoveryCellular gen admitted).id = op.id := by
  cases admitted <;> rfl

@[simp] theorem observeRecoveryCellular_beforeGeneration :
    (op.observeRecoveryCellular gen admitted).beforeGeneration = op.beforeGeneration := by
  cases admitted <;> rfl

@[simp] theorem observeLoss_phase : (op.observeLoss admitted).phase = op.phase := by
  cases admitted <;> rfl

@[simp] theorem observeLoss_id : (op.observeLoss admitted).id = op.id := by
  cases admitted <;> rfl

@[simp] theorem observeLoss_beforeGeneration :
    (op.observeLoss admitted).beforeGeneration = op.beforeGeneration := by
  cases admitted <;> rfl

@[simp] theorem observeLoss_beforeIp : (op.observeLoss admitted).beforeIp = op.beforeIp := by
  cases admitted <;> rfl

variable {gen op}

theorem NothingFresh.observeLoss (h : NothingFresh op) :
    NothingFresh (op.observeLoss admitted) := by
  cases admitted with
  | true => exact h
  | false => exact ⟨h.fresh, h.root⟩

variable {admitted}

theorem observeLoss_observed {address}
    (hrecd : BeforeRecorded op.id op.beforeGeneration address hist)
    (hnewer : op.beforeGeneration < gen)
    (hloss : op.cellularLossObserved = true → LossObserved op.id op.beforeGeneration address hist)
    (hrpts : Reports op.id (.observeCellular gen admitted) e)
    (hobsd : (op.observeLoss admitted).cellularLossObserved = true) :
    LossObserved op.id op.beforeGeneration address (e :: hist) := by
  cases admitted with
  | true => exact .cons (hloss hobsd) e
  | false => exact .now ⟨⟨gen, hnewer, hrpts⟩, hrecd⟩

end

theorem sound_noteCellular (h : SoundHeard hist gen op) (hnewer : op.beforeGeneration < gen)
    (he : Records op.id (.observeCellular gen admitted) (op.noteCellular gen admitted) e) :
    Sound (e :: hist) (op.noteCellular gen admitted).2 := by
  unfold SoundHeard at h
  revert he
  unfold noteCellular
  cases hph : op.phase <;> simp only [hph] at h ⊢
  case dataDisabling =>
    intro he
    simp only [Sound, hph] at h
    obtain ⟨hprob, hnothing, address, hbef, hrecd, hloss⟩ := h
    have hloss' := observeLoss_observed hrecd hnewer hloss (he.reports rfl)
    have hkept : (op.observeLoss admitted).maybeAdvanceLoss = op.observeLoss admitted := by
      simp [maybeAdvanceLoss, hph]
    rw [hkept] at he ⊢
    simp only [Sound, observeLoss_phase, hph, observeLoss_id, observeLoss_beforeGeneration,
      observeLoss_beforeIp]
    exact ⟨hprob.cons he.after (by simp [hph]), hnothing.observeLoss admitted, address, hbef,
      .cons hrecd e, hloss'⟩
  case waitingCellularLoss =>
    intro he
    simp only [Sound, hph] at h
    obtain ⟨hprob, hnothing, address, hbef, hrecd, hdisable, hloss⟩ := h
    have hloss' := observeLoss_observed hrecd hnewer hloss (he.reports rfl)
    refine sound_maybeAdvanceLoss (by simp [hph]) (by simpa using hprob)
      (hnothing.observeLoss admitted) (by simpa using hbef) ?_ ?_ ?_ he.after
    all_goals simp only [observeLoss_id, observeLoss_beforeGeneration]
    · exact .cons hrecd e
    · exact .cons hdisable e
    · exact hloss'
  case dataEnabling =>
    intro he
    obtain ⟨hprob, address, hheard⟩ := h
    simp only [Sound, observeRecoveryCellular_phase, hph, observeRecoveryCellular_id]
    exact ⟨hprob.cons he.after (by simp [hph]), address, hheard.cellular (he.reports rfl)⟩
  case waitingCellularRecovery | waitingRootPolicy =>
    intro he
    obtain ⟨hprob, address, hheard, henable⟩ := h
    refine sound_maybeAdvanceRecovery (by simp [hph]) (by simpa using hprob)
      (hheard.cellular (he.reports rfl)) ?_ he.after
    simp only [observeRecoveryCellular_id, observeRecoveryCellular_beforeGeneration]
    exact .cons henable e
  all_goals exact fun he => h.quiet (undisturbed_of_not_recovering (by rw [hph]; rfl)) he.after

theorem sound_noteRootPolicy (h : SoundHeard hist gen op)
    (he : Records op.id (.observeRootPolicy gen authorized) (op.noteRootPolicy gen authorized) e) :
    Sound (e :: hist) (op.noteRootPolicy gen authorized).2 := by
  unfold SoundHeard at h
  revert he
  unfold noteRootPolicy
  cases hph : op.phase <;> simp only [hph] at h ⊢
  case dataEnabling =>
    intro he
    obtain ⟨hprob, address, hheard⟩ := h
    have hrec := hheard.rootPolicy (he.reports rfl)
    simp only [hph] at hrec
    exact ⟨hprob.cons he.after (by simp), address, hrec⟩
  case waitingCellularRecovery | waitingRootPolicy =>
    intro he
    obtain ⟨hprob, address, hheard, henable⟩ := h
    have hrec := hheard.rootPolicy (he.reports rfl)
    simp only [hph] at hrec
    exact sound_maybeAdvanceRecovery (by simp) hprob hrec (.cons henable e) he.after
  all_goals exact fun he => h.quiet (undisturbed_of_not_recovering (by rw [hph]; rfl)) he.after

theorem undisturbed_of_older
    (hinput : ∃ flag, e.input = .onCurrent op.id (.observeCellular gen flag) ∨
      e.input = .onCurrent op.id (.observeRootPolicy gen flag))
    (holder : gen ≤ op.beforeGeneration ∨ gen < op.latestOwnerGeneration) : Undisturbed op e := by
  intro _ hlt newer flag hle
  obtain ⟨seen, hinput | hinput⟩ := hinput
  · simp only [hinput, ne_eq, RotationCall.onCurrent.injEq, OperationCall.observeCellular.injEq,
      true_and, reduceCtorEq, not_false_eq_true, and_true]
    omega
  · simp only [hinput, ne_eq, RotationCall.onCurrent.injEq, OperationCall.observeRootPolicy.injEq,
      true_and, reduceCtorEq, not_false_eq_true]
    omega

variable (h : Sound hist op)
include h

theorem sound_observation {observe note} (hobs : Observes gen observe note op)
    (hact : op.phase.terminal = false) (he : Records op.id call (observe op) e)
    (holder : gen ≤ op.beforeGeneration ∨ gen < op.latestOwnerGeneration → Undisturbed op e)
    (hnote : ∀ next, SoundHeard hist gen next → next.beforeGeneration < gen →
      Records next.id call (note next) e → Sound (e :: hist) (note next).2) :
    Sound (e :: hist) (observe op).2 := by
  by_cases hstale : gen ≤ op.beforeGeneration
  · have hafter := he.after
    rw [hobs.stale hstale] at hafter ⊢
    exact h.quiet (holder (.inl hstale)) hafter
  · rw [Nat.not_le] at hstale
    rw [hobs.fresh hstale] at he ⊢
    rcases observeOwnerGeneration_cases gen op with ⟨hlt, heq⟩ | ⟨next, heq, hto⟩
    · rw [heq] at he ⊢
      exact h.quiet (holder (.inr hlt)) he.after
    · rw [heq, ← hto.id] at he
      rw [heq]
      exact hnote next (h.heard hact hto hstale) (hto.beforeGeneration ▸ hstale) he

theorem sound_recordAfterIp (he : Records op.id (.recordAfterIp gen address)
      (op.recordAfterIp gen address) e) : Sound (e :: hist) (op.recordAfterIp gen address).2 := by
  revert he
  unfold recordAfterIp
  split_ifs with hph hgen
  · exact h.refused (by simp)
  · exact h.refused (by simp)
  rw [not_not] at hph hgen
  have hprg := h
  simp only [Sound, hph] at hprg
  obtain ⟨before, after, hbef, hafter, hlt, hbegan⟩ := hprg
  obtain rfl : after = gen := some.inj (hafter.symm.trans hgen)
  simp only [hbef]
  split_ifs with hsame
  all_goals
    intro he
    refine ⟨⟨before, after, address, rfl, hafter, rfl, hlt, ?_⟩, ?_⟩
    · exact .now ⟨he.reports rfl, hbegan⟩
    · simp [hsame]

theorem sound_recordRestore {restore}
    (he : Records op.id (.recordRestore restore) (op.recordRestore restore) e) :
    Sound (e :: hist) (op.recordRestore restore).2 := by
  revert he
  unfold recordRestore
  by_cases hph : op.phase = .failed
  · intro _
    simp only [Sound, hph, ne_eq, not_true_eq_false, if_false]
  · rw [if_pos hph]
    exact h.refused (by simp)

theorem sound_active {run} (hrun : op.phase.terminal = false → Records op.id call (run op) e →
      Sound (e :: hist) (run op).2)
    (he : Records op.id call (op.active run) e) : Sound (e :: hist) (op.active run).2 := by
  unfold active at he ⊢
  cases hterm : op.phase.terminal with
  | false =>
    rw [hterm] at he
    exact hrun hterm he
  | true =>
    rw [hterm] at he
    refine h.quiet (undisturbed_of_not_recovering ?_) he.after
    revert hterm
    cases op.phase <;> simp [RotationPhase.terminal, RotationPhase.recovering]

theorem sound_onOperation (he : Records op.id call (call.onOperation op) e) :
    Sound (e :: hist) (call.onOperation op).2 := by
  cases call with
  | recordBeforeIp gen address => exact sound_active h (fun _ => sound_recordBeforeIp h) he
  | dataDisableMutationStarted =>
    exact sound_active h (fun _ => sound_dataDisableMutationStarted h) he
  | dataDisableEffectCompleted out =>
    exact sound_active h (fun _ => sound_dataDisableEffectCompleted h) he
  | dataEnableEffectCompleted out =>
    exact sound_active h (fun _ => sound_dataEnableEffectCompleted h) he
  | observeCellular gen admitted =>
    refine sound_active h (fun hact he => ?_) he
    exact sound_observation h (observes_cellular gen admitted op) hact he
      (undisturbed_of_older ⟨admitted, .inl he.input⟩) fun _ => sound_noteCellular
  | observeRootPolicy gen authorized =>
    refine sound_active h (fun hact he => ?_) he
    exact sound_observation h (observes_rootPolicy gen authorized op) hact he
      (undisturbed_of_older ⟨authorized, .inr he.input⟩) fun _ hheard _ =>
        sound_noteRootPolicy hheard
  | recordAfterIp gen address => exact sound_active h (fun _ => sound_recordAfterIp h) he
  | fail failure | deadlineExceeded =>
    exact sound_active h (fun _ _ => sound_failOperation _ _ _) he
  | recordRestore restore => exact sound_recordRestore h he

end

/-! ## Whole runs -/

structure SoundRun (r : Recorded RotationStateMachine RotationCall RotationReply) : Prop where
  current : ∀ operation, r.state.current = some operation →
    operation.id < r.state.nextOperationId ∧ Sound r.history operation
  seen : ∀ e ∈ r.history, ∀ id, Probes id e → id < r.state.nextOperationId

theorem not_probes_of_none {id e} (h : e.after.current = none) : ¬ Probes id e := by
  simp [Probes, RotationStateMachine.snapshot, h, RotationSnapshot.idle]

variable {r : Recorded RotationStateMachine RotationCall RotationReply}

/-- A call that leaves the machine as it is and is no observation of the operation. -/
theorem SoundRun.refused (h : SoundRun r) (input output) (hinput : ∀ op, r.state.current = some op →
      Undisturbed op ⟨input, output, r.state⟩) :
    SoundRun ⟨r.state, ⟨input, output, r.state⟩ :: r.history⟩ where
  current := by
    intro op hcur
    obtain ⟨hid, hsound⟩ := h.current op hcur
    exact ⟨hid, hsound.quiet (hinput op hcur) hcur⟩
  seen := by
    intro e he id hprobes
    rcases mem_cons.mp he with rfl | he
    · cases hcur : r.state.current with
      | none => exact absurd hprobes (not_probes_of_none hcur)
      | some op =>
        obtain rfl := ((probes_iff hcur).mp hprobes).1
        exact (h.current op hcur).1
    · exact h.seen e he id hprobes

theorem SoundRun.start (h : SoundRun r) (beforeGeneration : Nat) :
    SoundRun (record RotationStateMachine.step r (.start beforeGeneration)) := by
  have href := fun output => h.refused (.start beforeGeneration) output
    (by simp [Undisturbed, Quiet])
  unfold record RotationStateMachine.step RotationStateMachine.start
  dsimp only
  split_ifs
  · exact href _
  · exact href _
  · exact href _
  · refine ⟨?_, ?_⟩
    · rintro op hcur
      cases hcur
      refine ⟨Nat.lt_succ_self _, ?_, ⟨rfl, rfl⟩, rfl⟩
      refine NotProbed.cons ?_ rfl (by simp [started])
      intro e he hprobes
      exact Nat.lt_irrefl _ (h.seen e he _ hprobes)
    · intro e he id hprobes
      rcases mem_cons.mp he with rfl | he
      · obtain ⟨rfl, -⟩ := (probes_iff rfl).mp hprobes
        exact Nat.lt_succ_self _
      · exact Nat.lt_succ_of_lt (h.seen e he id hprobes)

theorem SoundRun.onCurrent (h : SoundRun r) (opId call) :
    SoundRun (record RotationStateMachine.step r (.onCurrent opId call)) := by
  unfold record RotationStateMachine.step RotationStateMachine.onCurrent
  cases hcur : r.state.current with
  | none => exact h.refused _ _ (by simp [hcur])
  | some op =>
    dsimp only
    split_ifs with hid
    · refine h.refused _ _ ?_
      intro current hsome
      cases hcur.symm.trans hsome
      simp [Undisturbed, Quiet, Ne.symm hid]
    · rw [not_not] at hid
      subst hid
      obtain ⟨hlt, hsound⟩ := h.current op hcur
      have hkept := onOperation_id op call
      refine ⟨?_, ?_⟩
      · rintro next hnext
        cases hnext
        refine ⟨hkept.symm ▸ hlt, sound_onOperation hsound ⟨rfl, ?_, rfl⟩⟩
        cases (call.onOperation op).1 <;> rfl
      · intro e he id hprobes
        rcases mem_cons.mp he with rfl | he
        · obtain ⟨rfl, -⟩ := (probes_iff rfl).mp hprobes
          exact hkept.symm ▸ hlt
        · exact h.seen e he id hprobes

theorem soundRun_runCalls (calls) : SoundRun (runCalls calls) := by
  have hnew : SoundRun (.init .new) := by
    refine ⟨?_, ?_⟩
    · intro op hcur
      cases hcur
    · intro e he
      cases he
  refine run_invariant (I := SoundRun) ?_ hnew calls
  intro r call h
  cases call with
  | start beforeGeneration => exact h.start beforeGeneration
  | onCurrent opId call => exact h.onCurrent opId call

/-- An operation that ended with two addresses went through all of the rotation. -/
theorem success_provenance (calls : List RotationCall) (operation : RotationOperation)
    (hcurrent : (runCalls calls).state.current = some operation)
    (hphase : operation.phase = .changed ∨ operation.phase = .unchanged) :
    Provenance operation (runCalls calls).history := by
  have hsound := ((soundRun_runCalls calls).current operation hcurrent).2
  rcases hphase with hphase | hphase <;> simpa only [Sound, hphase] using hsound

def sampleRotation : List RotationCall :=
  [.start 10, .onCurrent 1 (.recordBeforeIp 10 (.v4 1)), .onCurrent 1 .dataDisableMutationStarted,
    .onCurrent 1 (.dataDisableEffectCompleted .applied), .onCurrent 1 (.observeCellular 11 false),
    .onCurrent 1 (.dataEnableEffectCompleted .applied), .onCurrent 1 (.observeCellular 12 true),
    .onCurrent 1 (.observeRootPolicy 12 true), .onCurrent 1 (.recordAfterIp 12 (.v4 2))]

theorem success_provenance_sampleRotation :
    ∃ operation, (runCalls sampleRotation).state.current = some operation ∧
      operation.phase = .changed ∧ Provenance operation (runCalls sampleRotation).history :=
  ⟨_, rfl, rfl, success_provenance sampleRotation _ rfl (.inl rfl)⟩

end MishProxy.Rotation
