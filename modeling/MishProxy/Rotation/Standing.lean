import MishProxy.Rotation.StateMachine

/-!
# The standing of an operation

The phase of an operation, its result and whether it requires a restore are its standing.
`OperationCall.Handled` lists what a call can make of it. Everything that is proved of the
operation without looking at the addresses and the generations it was told is read off that list.
-/

namespace MishProxy.Rotation

/-- The reports after which the operation owes nothing any more. -/
def OperationCall.settles : OperationCall → Bool
  | .dataDisableEffectCompleted .rejected => true
  | .dataEnableEffectCompleted .applied => true
  | .recordRestore restore => restore.successful
  | _ => false

def OperationCall.reportsDisable : OperationCall → Bool
  | .dataDisableEffectCompleted _ => true
  | _ => false

/-- The phases in which the two tagged fields count. -/
def RotationPhase.recovering : RotationPhase → Bool
  | .dataEnabling | .waitingCellularRecovery | .waitingRootPolicy => true
  | _ => false

/-- The phases behind an applied enable. -/
def RotationPhase.enabled : RotationPhase → Bool
  | .waitingCellularRecovery | .waitingRootPolicy | .probingPublicIp => true
  | _ => false

/-! ## What is only noted -/

structure SameStanding (operation next : RotationOperation) : Prop where
  id : next.id = operation.id
  phase : next.phase = operation.phase
  required : next.restoreRequired = operation.restoreRequired
  result : next.terminalResult = operation.terminalResult

namespace SameStanding

variable {op next last : RotationOperation}

theorem refl (op) : SameStanding op op := ⟨rfl, rfl, rfl, rfl⟩

variable (h : SameStanding op next)
include h

theorem trans (h' : SameStanding next last) : SameStanding op last :=
  ⟨h'.id.trans h.id, h'.phase.trans h.phase, h'.required.trans h.required, h'.result.trans h.result⟩

theorem observeLoss (admitted : Bool) : SameStanding op (next.observeLoss admitted) := by
  cases admitted
  · exact h.trans ⟨rfl, rfl, rfl, rfl⟩
  · exact h

theorem observeRecoveryCellular (gen admitted) :
    SameStanding op (next.observeRecoveryCellular gen admitted) := by
  cases admitted <;> exact h.trans ⟨rfl, rfl, rfl, rfl⟩

omit h

theorem observeOwnerGeneration (gen op) : SameStanding op (op.observeOwnerGeneration gen).2 := by
  unfold RotationOperation.observeOwnerGeneration
  split_ifs <;> exact ⟨rfl, rfl, rfl, rfl⟩

end SameStanding

/-! ## What a call can do -/

/-- The debt of the operation stays, or the call was accepted and settles it. -/
def OperationCall.KeepsDebt (call : OperationCall) (operation : RotationOperation)
    (outcome : Transition) : Prop :=
  operation.restoreRequired = true →
    outcome.2.restoreRequired = true ∨ outcome.1.isOk = true ∧ call.settles = true

inductive OperationCall.Handled (call : OperationCall) (operation : RotationOperation)
    (outcome : Transition) : Prop where
  | keeps (hsame : SameStanding operation outcome.2)
  | prepares (hphase : operation.phase = .preparing) (hnext : outcome.2.phase = .dataDisabling)
    (hresult : outcome.2.terminalResult = operation.terminalResult)
  | starts (hphase : operation.phase = .dataDisabling) (hnext : outcome.2.phase = .dataDisabling)
    (hrequired : outcome.2.restoreRequired = true)
    (hresult : outcome.2.terminalResult = operation.terminalResult)
  | disables (hcall : call.reportsDisable = true) (hphase : operation.phase = .dataDisabling)
    (hnext : outcome.2.phase = .waitingCellularLoss ∨ outcome.2.phase = .dataEnabling)
    (hrequired : outcome.2.restoreRequired = true)
    (hresult : outcome.2.terminalResult = operation.terminalResult)
  | loses (hphase : operation.phase = .waitingCellularLoss)
    (hnext : outcome.2.phase = .dataEnabling)
    (hrequired : outcome.2.restoreRequired = operation.restoreRequired)
    (hresult : outcome.2.terminalResult = operation.terminalResult)
  | recovers (hphase : operation.phase.recovering = true) (hnext : outcome.2.phase.enabled = true)
    (hsettles : operation.phase = .dataEnabling → outcome.1.isOk = true ∧ call.settles = true)
    (hresult : outcome.2.terminalResult = operation.terminalResult)
  | fails (hactive : operation.phase.terminal = false) (hnext : outcome.2.phase = .failed)
    (hdebt : call.KeepsDebt operation outcome)
    (hresult : outcome.2.terminalResult = some .failed)
  | ends (hphase : operation.phase = .probingPublicIp) (hnext : outcome.2.phase.terminal = true)
    (hresult : outcome.2.terminalResult.isSome = true)
  | restores (hphase : operation.phase = .failed) (hnext : outcome.2.phase = .failed)
    (hdebt : call.KeepsDebt operation outcome)
    (hresult : outcome.2.terminalResult = operation.terminalResult)

/-- The operation keeps its id as well. -/
structure OperationCall.Handles (call : OperationCall) (operation : RotationOperation)
    (outcome : Transition) : Prop where
  id : outcome.2.id = operation.id
  handled : call.Handled operation outcome

namespace OperationCall.Handles

variable {call : OperationCall} {op next : RotationOperation}
  {res : Except RotationTransitionError Unit}

theorem of_same (h : SameStanding op next) : Handles call op (res, next) := ⟨h.id, .keeps h⟩

theorem kept : Handles call op (res, op) := of_same (.refl op)

theorem failed {failure} (hact : op.phase.terminal = false) (hid : next.id = op.id)
    (hdebt : call.KeepsDebt op (.ok (), next.failOperation failure)) :
    Handles call op (.ok (), next.failOperation failure) := ⟨hid, .fails hact rfl hdebt rfl⟩

theorem maybeAdvanceLoss (h : SameStanding op next) :
    Handles call op (.ok (), next.maybeAdvanceLoss) := by
  unfold RotationOperation.maybeAdvanceLoss
  split
  · rename_i hloss
    exact ⟨h.id, .loses (h.phase.symm.trans hloss.1) rfl h.required h.result⟩
  · exact of_same h

theorem maybeAdvanceRecovery {waiting : RotationOperation}
    (hwait : waiting.phase = .waitingCellularRecovery ∨ waiting.phase = .waitingRootPolicy)
    (hid : waiting.id = op.id) (hres : waiting.terminalResult = op.terminalResult)
    (hph : op.phase.recovering = true)
    (hsett : op.phase = .dataEnabling → call.settles = true) :
    Handles call op (.ok (), waiting.maybeAdvanceRecovery) := by
  unfold RotationOperation.maybeAdvanceRecovery
  rw [if_pos hwait]
  split
  · exact ⟨hid, .recovers hph rfl (fun h => ⟨rfl, hsett h⟩) hres⟩
  · split_ifs
    · exact ⟨hid, .recovers hph rfl (fun h => ⟨rfl, hsett h⟩) hres⟩
    · exact ⟨hid, .recovers hph rfl (fun h => ⟨rfl, hsett h⟩) hres⟩

variable (h : SameStanding op next)
include h

theorem noted (hwait : op.phase = .waitingCellularRecovery ∨ op.phase = .waitingRootPolicy) :
    Handles call op (.ok (), next.maybeAdvanceRecovery) := by
  refine maybeAdvanceRecovery (h.phase ▸ hwait) h.id h.result ?_ ?_
  · rcases hwait with hphase | hphase <;> rw [hphase] <;> rfl
  · rcases hwait with hphase | hphase <;> rw [hphase] <;> rintro ⟨⟩

theorem noteCellular (gen admitted) : Handles call op (next.noteCellular gen admitted) := by
  unfold RotationOperation.noteCellular
  split
  · exact maybeAdvanceLoss (h.observeLoss admitted)
  · exact maybeAdvanceLoss (h.observeLoss admitted)
  · exact of_same (h.observeRecoveryCellular gen admitted)
  · exact noted (h.observeRecoveryCellular gen admitted) (.inl (h.phase.symm.trans ‹_›))
  · exact noted (h.observeRecoveryCellular gen admitted) (.inr (h.phase.symm.trans ‹_›))
  · exact of_same h

theorem noteRootPolicy (gen authorized) : Handles call op (next.noteRootPolicy gen authorized) := by
  have hnoted : SameStanding op { next with
      rootAuthorizedGeneration := if authorized then some gen else none } :=
    h.trans ⟨rfl, rfl, rfl, rfl⟩
  unfold RotationOperation.noteRootPolicy
  dsimp only
  split
  · exact of_same hnoted
  · exact noted hnoted (.inl (h.phase.symm.trans ‹_›))
  · exact noted hnoted (.inr (h.phase.symm.trans ‹_›))
  · exact of_same h

omit h

/-- The owner generation is taken over before the observation itself counts. -/
theorem heard {gen : Nat}
    {note : RotationOperation → Transition}
    (hnote : ∀ next, SameStanding op next → Handles call op (note next)) :
    Handles call op (match op.observeOwnerGeneration gen with
      | (false, op) => (.ok (), op)
      | (true, op) => note op) := by
  have hsame := SameStanding.observeOwnerGeneration gen op
  split
  · rename_i heq
    rw [heq] at hsame
    exact of_same hsame
  · rename_i heq
    rw [heq] at hsame
    exact hnote _ hsame

theorem active {f} (h : op.phase.terminal = false → Handles call op (f op)) :
    Handles call op (op.active f) := by
  unfold RotationOperation.active
  split
  · exact kept
  · exact h (Bool.eq_false_iff.mpr ‹_›)

theorem failing (failure) : Handles call op
      (op.active fun op => (.ok (), op.failOperation failure)) :=
  active fun hact => failed hact rfl .inl

end OperationCall.Handles

theorem OperationCall.handles (call : OperationCall) (op : RotationOperation) :
    call.Handles op (call.onOperation op) := by
  cases call with
  | recordBeforeIp gen addr =>
    refine .active fun _ => ?_
    unfold RotationOperation.recordBeforeIp
    split_ifs with hph
    · exact .kept
    · exact .kept
    · exact ⟨rfl, .prepares (not_not.mp hph) rfl rfl⟩
  | dataDisableMutationStarted =>
    refine .active fun _ => ?_
    unfold RotationOperation.dataDisableMutationStarted
    split_ifs with hph
    · exact .kept
    · exact ⟨rfl, .starts (not_not.mp hph) (not_not.mp hph) rfl rfl⟩
  | dataDisableEffectCompleted out =>
    refine .active fun hact => ?_
    unfold RotationOperation.dataDisableEffectCompleted
    split_ifs with hph
    · exact .kept
    · cases out with
      | applied =>
        dsimp only
        unfold RotationOperation.maybeAdvanceLoss
        split
        · exact ⟨rfl, .disables rfl (not_not.mp hph) (.inr rfl) rfl rfl⟩
        · exact ⟨rfl, .disables rfl (not_not.mp hph) (.inl rfl) rfl rfl⟩
      | rejected => exact .failed hact rfl fun _ => .inr ⟨rfl, rfl⟩
      | uncertain => exact .failed hact rfl fun _ => .inl rfl
  | dataEnableEffectCompleted out =>
    refine .active fun hact => ?_
    unfold RotationOperation.dataEnableEffectCompleted
    split_ifs with hph
    · exact .kept
    · cases out with
      | applied =>
        refine .maybeAdvanceRecovery (.inl rfl) rfl rfl ?_ fun _ => rfl
        rw [not_not.mp hph]
        rfl
      | rejected | uncertain => exact .failed hact rfl fun _ => .inl rfl
  | observeCellular gen admitted =>
    refine .active fun _ => ?_
    unfold RotationOperation.observeCellular
    split
    · split <;> exact .kept
    · exact .heard fun _ h => .noteCellular h gen admitted
  | observeRootPolicy gen authorized =>
    refine .active fun _ => ?_
    unfold RotationOperation.observeRootPolicy
    split
    · split <;> exact .kept
    · exact .heard fun _ h => .noteRootPolicy h gen authorized
  | recordAfterIp gen addr =>
    refine .active fun _ => ?_
    unfold RotationOperation.recordAfterIp
    split_ifs with hph
    · exact .kept
    · exact .kept
    · split
      · exact .kept
      · split_ifs <;> exact ⟨rfl, .ends (not_not.mp hph) rfl rfl⟩
  | fail failure => exact .failing failure
  | deadlineExceeded => exact .failing .deadlineExceeded
  | recordRestore restore =>
    show Handles _ op (op.recordRestore restore)
    unfold RotationOperation.recordRestore
    split_ifs with hph hrestore
    · exact .kept
    · exact ⟨rfl, .restores (not_not.mp hph) (not_not.mp hph) (fun _ => .inr ⟨rfl, hrestore⟩) rfl⟩
    · exact ⟨rfl, .restores (not_not.mp hph) (not_not.mp hph) .inl rfl⟩

theorem onOperation_id (op : RotationOperation) (call : OperationCall) :
    (call.onOperation op).2.id = op.id := (call.handles op).id

end MishProxy.Rotation
