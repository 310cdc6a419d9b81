import MishProxy.Rotation.Bookkeeping

/-!
# How a rotation ends

An operation carries a terminal result exactly when its phase is terminal, and no call changes
the result after that. The id of an operation is never given again. Together the two say that an
operation has at most one terminal result over a whole run of the coordinator: once the machine
shows one, it shows the same one until another operation has taken its place (`Moves.ends`).
-/

namespace MishProxy.Rotation

/-! ## One operation -/

def RotationOperation.Settled (operation : RotationOperation) : Prop :=
  operation.terminalResult.isSome = operation.phase.terminal

namespace RotationOperation

variable {op : RotationOperation}

theorem Settled.of_active (h : op.Settled) (hact : op.phase.terminal = false)
    {next : RotationOperation} (hres : next.terminalResult = op.terminalResult)
    (hnext : next.phase.terminal = false) : next.Settled := by
  rw [Settled, hres, hnext, ← hact]
  exact h

theorem terminal_of_recovering (h : op.phase.recovering = true) : op.phase.terminal = false := by
  cases hph : op.phase <;> first | rfl | cases (congrArg _ hph).symm.trans h

theorem terminal_of_enabled {phase : RotationPhase} (h : phase.enabled = true) :
    phase.terminal = false := by
  cases phase <;> first | rfl | cases h

theorem Settled.onOperation (h : Settled op) (call : OperationCall) :
    Settled (call.onOperation op).2 := by
  cases (call.handles op).handled with
  | keeps hsame =>
    rw [Settled, hsame.result, hsame.phase]
    exact h
  | prepares hph hnext hres | starts hph hnext _ hres | loses hph hnext _ hres =>
    exact h.of_active (by rw [hph]; rfl) hres (by rw [hnext]; rfl)
  | disables _ hph hnext _ hres =>
    refine h.of_active (by rw [hph]; rfl) hres ?_
    rcases hnext with hnext | hnext <;> rw [hnext] <;> rfl
  | recovers hph hnext _ hres =>
    exact h.of_active (terminal_of_recovering hph) hres (terminal_of_enabled hnext)
  | fails _ hnext _ hres =>
    rw [Settled, hres, hnext]
    rfl
  | ends _ hnext hres => exact hres.trans hnext.symm
  | restores hph hnext _ hres =>
    rw [Settled, hres, hnext, ← hph]
    exact h

/-- Nothing touches the result of an operation that has ended. -/
theorem terminalResult_onOperation (h : op.phase.terminal = true) (call : OperationCall) :
    (call.onOperation op).2.terminalResult = op.terminalResult := by
  cases (call.handles op).handled with
  | keeps hsame => exact hsame.result
  | prepares _ _ hres | starts _ _ _ hres | disables _ _ _ _ hres | loses _ _ _ hres
  | recovers _ _ _ hres | restores _ _ _ hres => exact hres
  | fails hact => cases hact.symm.trans h
  | ends hph => cases (congrArg _ hph).symm.trans h

end RotationOperation

/-! ## The machine -/

structure RotationSnapshot.Ends (snapshot : RotationSnapshot) (operationId : Nat)
    (result : RotationTerminalResult) : Prop where
  operationId : snapshot.operationId = some operationId
  result : snapshot.terminalResult = some result

/-- The later snapshot shows the same operation, with the result it had, or a newer one. -/
structure RotationSnapshot.Precedes (snapshot later : RotationSnapshot) : Prop where
  operationId : ∀ id, snapshot.operationId = some id →
    ∃ current, later.operationId = some current ∧ id ≤ current
  result : ∀ id result, snapshot.Ends id result → later.operationId = some id →
    later.Ends id result

namespace RotationStateMachine

/-- One call of the machine, or none. -/
inductive Moves (machine : RotationStateMachine) : RotationStateMachine → Prop where
  | stays : Moves machine machine
  | starts (beforeGeneration : Nat) :
    Moves machine ⟨machine.nextOperationId + 1,
      some (.started machine.nextOperationId beforeGeneration)⟩
  | moves {operation : RotationOperation} (call : OperationCall)
    (hcurrent : machine.current = some operation) :
    Moves machine { machine with current := some (call.onOperation operation).2 }

theorem moves_start (machine beforeGeneration) :
    Moves machine (machine.start beforeGeneration).2 := by
  unfold start
  split_ifs
  · exact .stays
  · exact .stays
  · exact .stays
  · exact .starts beforeGeneration

theorem moves_onCurrent (machine opId call) : Moves machine (machine.onCurrent opId call).2 := by
  unfold onCurrent
  split
  · exact .stays
  · rename_i op hcur
    split_ifs
    · exact .stays
    · exact .moves call hcur

structure Numbered (machine : RotationStateMachine) : Prop where
  below : ∀ operation, machine.current = some operation →
    operation.id < machine.nextOperationId
  settled : ∀ operation, machine.current = some operation → operation.Settled

theorem Numbered.new : Numbered .new where
  below := by
    intro op hcur
    cases hcur
  settled := by
    intro op hcur
    cases hcur

variable {machine after : RotationStateMachine} {opId : Nat}
  {res : RotationTerminalResult}

theorem Moves.numbered (hmoves : Moves machine after) (h : Numbered machine) : Numbered after := by
  cases hmoves with
  | stays => exact h
  | starts beforeGeneration =>
    constructor
    · rintro op ⟨⟩
      exact Nat.lt_succ_self _
    · rintro op ⟨⟩
      rfl
  | moves call hcur =>
    constructor
    · rintro op ⟨⟩
      rw [onOperation_id]
      exact h.below _ hcur
    · rintro op ⟨⟩
      exact (h.settled _ hcur).onOperation call

theorem Moves.nextOperationId_le (hmoves : Moves machine after) :
    machine.nextOperationId ≤ after.nextOperationId := by
  cases hmoves with
  | stays | moves call hcur => exact le_rfl
  | starts beforeGeneration => exact Nat.le_succ _

/-- Only a start changes which operation is current, and it gives a new id. -/
theorem Moves.snapshot_operationId (hmoves : Moves machine after) :
    after.snapshot.operationId = machine.snapshot.operationId ∨
      after.snapshot.operationId = some machine.nextOperationId := by
  cases hmoves with
  | stays => exact .inl rfl
  | starts beforeGeneration => exact .inr rfl
  | moves call hcur =>
    left
    simp [snapshot, hcur, RotationOperation.snapshot, onOperation_id]

theorem Numbered.operationId_lt (h : Numbered machine)
    (hid : machine.snapshot.operationId = some opId) : opId < machine.nextOperationId := by
  unfold snapshot at hid
  cases hcur : machine.current with
  | none => simp [hcur, RotationSnapshot.idle] at hid
  | some op =>
    have hop : op.id = opId := by
      simpa [hcur, RotationOperation.snapshot] using hid
    rw [← hop]
    exact h.below op hcur

/-- A result stands until another operation is current. -/
theorem Moves.ends (hmoves : Moves machine after) (h : Numbered machine)
    (hends : machine.snapshot.Ends opId res) :
    after.snapshot.Ends opId res ∨ after.snapshot.operationId ≠ some opId := by
  cases hmoves with
  | stays => exact .inl hends
  | starts beforeGeneration =>
    right
    have hlt := h.operationId_lt hends.operationId
    intro hid
    have hid : machine.nextOperationId = opId := Option.some.inj hid
    omega
  | moves call hcur =>
    left
    rename_i op
    have hres : op.terminalResult = some res := by
      have hres := hends.result
      rwa [snapshot, hcur] at hres
    have hterm : op.phase.terminal = true := by
      rw [← h.settled op hcur, hres]
      rfl
    constructor
    · have hid := hends.operationId
      rw [snapshot, hcur] at hid
      simpa [snapshot, RotationOperation.snapshot, onOperation_id] using hid
    · exact (RotationOperation.terminalResult_onOperation hterm call).trans hres

theorem Moves.precedes (hmoves : Moves machine after) (hnum : Numbered machine)
    {snap : RotationSnapshot} (h : snap.Precedes machine.snapshot) :
    snap.Precedes after.snapshot := by
  have hids := hmoves.snapshot_operationId
  constructor
  · intro id hid
    obtain ⟨current, hcur, hle⟩ := h.operationId id hid
    have hlt := hnum.operationId_lt hcur
    rcases hids with hsame | hnew
    · exact ⟨current, hsame.trans hcur, hle⟩
    · exact ⟨_, hnew, by omega⟩
  · intro id res hends hid
    -- The operation was current before, since a start gives a newer id.
    have hbef : machine.snapshot.operationId = some id := by
      obtain ⟨current, hcur, hle⟩ := h.operationId id hends.operationId
      have hlt := hnum.operationId_lt hcur
      rcases hids with hsame | hnew
      · exact hsame.symm.trans hid
      · cases hnew.symm.trans hid
        omega
    rcases hmoves.ends hnum (h.result id res hends hbef) with hkept | hne
    · exact hkept
    · exact absurd hid hne

end RotationStateMachine

/-! ## The coordinator -/

namespace RotationRuntime

open RotationStateMachine

variable (s : RotationRuntime) (opId : Nat)

@[simp] theorem resume_machine (stage) : (s.resume opId stage).machine = s.machine := rfl

@[simp] theorem release_machine (released : Bool) : (s.release released).machine = s.machine := by
  cases released <;> rfl

theorem moves_transition (call) : Moves s.machine (s.transition opId call).2.machine := by
  have hmoves := moves_onCurrent s.machine opId call
  unfold transition
  split
  all_goals
    rename_i heq
    rw [heq] at hmoves
    exact hmoves

theorem moves_transitionCurrent (call) :
    Moves s.machine (s.transitionCurrent opId call).machine := by
  unfold transitionCurrent
  split
  · exact s.moves_transition opId call
  · exact .stays

theorem moves_transitionOrFail (call failure) :
    Moves s.machine (s.transitionOrFail opId call failure).machine := by
  have hmoves := s.moves_transition opId call
  unfold transitionOrFail
  split
  · split
    all_goals
      rename_i heq
      rw [heq] at hmoves
      exact hmoves
  · exact .stays

theorem moves_runBeforeIp (stage input) :
    Moves s.machine (s.runBeforeIp opId stage input).machine := by
  unfold runBeforeIp
  split
  · split <;> exact .stays
  · split <;> exact .stays
  · exact .stays
  · exact .stays
  · exact s.moves_transitionOrFail opId _ _
  · exact .stays

theorem moves_runDisableData (stage input) :
    Moves s.machine (s.runDisableData opId stage input).machine := by
  unfold runDisableData
  split
  · split <;> exact .stays
  · split <;> exact .stays
  · exact .stays
  · split
    · have hmoves := s.moves_transition opId .dataDisableMutationStarted
      split
      all_goals
        rename_i heq
        rw [heq] at hmoves
        exact hmoves
    · exact .stays
  · split <;> exact .stays
  · split <;> exact .stays
  · dsimp only
    split
    all_goals
      rw [resume_machine, release_machine]
      exact .stays
  · exact .stays
  · exact s.moves_transitionCurrent opId _
  · exact .stays

theorem moves_runEnableData (stage input) :
    Moves s.machine (s.runEnableData opId stage input).machine := by
  unfold runEnableData
  split
  · split <;> exact .stays
  · split <;> exact .stays
  · exact .stays
  · dsimp only
    split
    all_goals
      rw [resume_machine, release_machine]
      exact .stays
  · exact .stays
  · exact .stays
  · exact s.moves_transitionCurrent opId _
  · exact .stays

theorem moves_runAfterIp (stage input) :
    Moves s.machine (s.runAfterIp opId stage input).machine := by
  unfold runAfterIp
  split
  · split <;> exact .stays
  · split <;> exact .stays
  · exact .stays
  · exact .stays
  · split <;> exact .stays
  · exact s.moves_transitionOrFail opId _ _
  · exact .stays

theorem moves_restoreEnabledDirect (stage input) :
    Moves s.machine (s.restoreEnabledDirect opId stage input).machine := by
  unfold restoreEnabledDirect
  split
  · split <;> exact .stays
  · exact .stays
  · exact .stays
  · split <;> exact .stays
  · exact .stays
  · dsimp only
    split
    all_goals
      rw [resume_machine, release_machine]
      exact .stays
  · exact .stays
  · exact .stays
  · split <;> exact .stays
  · split
    · exact moves_onCurrent s.machine opId _
    · exact .stays
  · exact .stays

theorem moves_advance (stage input) : Moves s.machine (s.advance opId stage input).machine := by
  unfold advance
  split
  · exact s.moves_transitionCurrent opId _
  · exact .stays
  · exact s.moves_runBeforeIp opId _ _
  · exact s.moves_runDisableData opId _ _
  · exact s.moves_runEnableData opId _ _
  · exact s.moves_runAfterIp opId _ _
  · exact s.moves_restoreEnabledDirect opId _ _
  · exact s.moves_transitionCurrent opId _
  · split <;> exact .stays
  · exact .stays

theorem moves_prepare (beforeGeneration : Nat) :
    Moves s.machine (s.prepare beforeGeneration).machine := by
  have hmoves := moves_start s.machine beforeGeneration
  unfold prepare
  split
  · exact .stays
  · split
    · rename_i heq
      rw [heq] at hmoves
      exact hmoves
    · exact .stays

theorem moves_shutdown : Moves s.machine s.shutdown.machine := by
  unfold shutdown
  split
  · exact .stays
  · split
    · exact .stays
    · dsimp only
      split
      · exact .stays
      · exact moves_onCurrent s.machine _ _

theorem moves_observe (call) : Moves s.machine (s.observe call).machine := by
  unfold observe
  split
  · exact s.moves_transitionCurrent _ call
  · exact .stays

theorem scheduleFor_machine (snap) : (s.scheduleFor snap).machine = s.machine := by
  unfold scheduleFor
  split
  · split <;> rfl
  · rfl

theorem moves_step (act) : Moves s.machine (s.step act).machine := by
  cases act with
  | prepare beforeGeneration => exact s.moves_prepare beforeGeneration
  | activatePrepared opId =>
    show Moves s.machine (s.activatePrepared opId).machine
    unfold activatePrepared
    split <;> exact .stays
  | failPreparedBeforeMutation opId =>
    show Moves s.machine (s.failPreparedBeforeMutation opId).machine
    unfold failPreparedBeforeMutation
    split
    · exact moves_onCurrent s.machine opId _
    · exact .stays
  | observeCellular gen admitted networkLost =>
    show Moves s.machine (s.observeCellular gen admitted networkLost).machine
    unfold observeCellular
    split
    · exact .stays
    · exact s.moves_observe _
  | observeRootPolicy gen authorized => exact s.moves_observe _
  | shutdown => exact s.moves_shutdown
  | schedule snap =>
    show Moves s.machine (if _ then _ else _ : RotationRuntime).machine
    split
    · rw [scheduleFor_machine]
      exact .stays
    · exact .stays
  | advance task input =>
    show Moves s.machine (if _ then _ else _ : RotationRuntime).machine
    split
    · exact moves_advance { s with tasks := s.tasks.erase task } task.operation task.stage input
    · exact .stays
  | abandon task => exact .stays

/-- Over a whole run of the coordinator an operation has one result, and no id is used again. -/
theorem results_final (actions more : List Action) :
    (Machine.run step new actions).machine.snapshot.Precedes
      (Machine.run step new (actions ++ more)).machine.snapshot := by
  have hnum : Numbered (Machine.run step new actions).machine :=
    Machine.run_invariant (I := fun s : RotationRuntime => Numbered s.machine)
      (fun s act h => (s.moves_step act).numbered h) .new actions
  rw [Machine.run_append]
  generalize Machine.run step new actions = first at hnum
  have hrefl : first.machine.snapshot.Precedes first.machine.snapshot :=
    ⟨fun id hid => ⟨id, hid, Nat.le_refl _⟩, fun _ _ hends _ => hends⟩
  refine (Machine.run_invariant (I := fun s : RotationRuntime => Numbered s.machine ∧
    first.machine.snapshot.Precedes s.machine.snapshot) ?_ ⟨hnum, hrefl⟩ more).2
  rintro s act ⟨hnum, h⟩
  have hmoves := s.moves_step act
  exact ⟨hmoves.numbered hnum, hmoves.precedes hnum h⟩

end RotationRuntime

end MishProxy.Rotation
