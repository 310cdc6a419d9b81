import MishProxy.Session.RootShell

/-!
# What one step does to the root session

`Acquires` and `Moves` list, branch by branch, what `acquire` and every other step can do.
The facts about whole runs are proved from these lists; nothing after this file unfolds a
step of the session.
-/

namespace MishProxy.Session

open Option

variable {κ : Type}

namespace RootSessionManager

variable {m : RootSessionManager κ}

/-- What a caller that gets the free lock does. -/
inductive Acquires (m : RootSessionManager κ) (caller : κ) :
    Report κ → RootSessionManager κ → Prop where
  | refused : Acquires m caller (.returned caller (.error .stateUnavailable)) m
  | began (hnone : m.session = none) :
      Acquires m caller .nothing { m with
        session := none
        nextGeneration := m.nextGeneration + 1
        active := some (caller, .starting m.nextGeneration) }
  | entered {session} (hs : m.session = some session) :
      Acquires m caller .nothing (m.enter caller session)

theorem acquires (hfree : m.active = none) (caller : κ) :
    Acquires m caller (m.acquire caller).1 (m.acquire caller).2 := by
  unfold acquire
  rw [hfree]
  cases hs : m.session with
  | some sess => exact .entered hs
  | none =>
    dsimp only
    split
    · exact .began hs
    · exact .refused

variable {m' : RootSessionManager κ} {caller : κ}

theorem Acquires.report {report} (h : Acquires m caller report m') :
    report = .nothing ∨ report = .returned caller (.error .stateUnavailable) := by
  cases h with
  | refused => exact .inr rfl
  | began | entered => exact .inl rfl

theorem Acquires.stage {other report stage}
    (h : Acquires m caller report m') (hfree : m.active = none)
    (hafter : m'.active = some (other, stage)) : other = caller ∧
      ((∃ gen, stage = .starting gen) ∨ ∃ marker, stage = .writing marker) := by
  cases h with
  | refused => cases hfree.symm.trans hafter
  | began =>
    cases some.inj hafter
    exact ⟨rfl, .inl ⟨_, rfl⟩⟩
  | entered =>
    cases some.inj hafter
    exact ⟨rfl, .inr ⟨_, rfl⟩⟩

/-- What any other step does. -/
inductive Moves (m : RootSessionManager κ) :
    SessionAction → Report κ → RootSessionManager κ → Prop where
  | stay {action} : Moves m action .nothing m
  | started {answer caller generation} (h : m.active = some (caller, .starting generation)) :
      Moves m (.advance answer) .nothing (m.enter caller ⟨generation, 0, .new⟩)
  | failed {answer caller stage error} (h : m.active = some (caller, stage)) :
      Moves m (.advance answer) (.returned caller (.error error)) { m with active := none }
  | gaveUp {answer caller stage} (generation : Nat)
      (timedOut : Bool) (h : m.active = some (caller, stage)) :
      Moves m (.advance answer) .nothing (m.giveUp caller (noStatus generation timedOut))
  | denied {answer caller marker captured session code}
      (h : m.active = some (caller, .reading marker captured))
      (hs : m.session = some session) (hout : session.process.output = [])
      (hexit : session.process.exited = some (some code)) (hcode : code ≠ 0) :
      Moves m (.advance answer) .nothing (m.giveUp caller (captured.result session.generation code))
  | wrote {answer caller marker session}
      (h : m.active = some (caller, .writing marker)) (hs : m.session = some session)
      (hlive : session.process.exited = none) :
      Moves m (.advance answer) (.wrote ⟨marker, caller⟩)
        { m.withProcess session { session.process with
            input := session.process.input ++ [⟨marker, caller⟩] } with
          active := some (caller, .reading marker .empty) }
  | captured {answer caller marker captured session line rest}
      (h : m.active = some (caller, .reading marker captured)) (hs : m.session = some session)
      (hout : session.process.output = line :: rest)
      (hline : ∀ rawStatus, line ≠ .marker marker rawStatus) :
      Moves m (.advance answer) .nothing
        { m.withProcess session { session.process with output := rest } with
          active := some (caller, .reading marker (captured.push line)) }
  | answered {answer caller marker captured session rawStatus rest code}
      (h : m.active = some (caller, .reading marker captured)) (hs : m.session = some session)
      (hout : session.process.output = .marker marker rawStatus :: rest)
      (hcode : parseStatus rawStatus = some code) :
      Moves m (.advance answer) (.returned caller (.ok (captured.result session.generation code)))
        { m.withProcess session { session.process with output := rest } with active := none }
  | expired {answer caller marker captured session}
      (h : m.active = some (caller, .reading marker captured)) (hs : m.session = some session) :
      Moves m (.advance answer) .nothing
        { m.withProcess session { session.process with
            exited := some (session.process.exited.getD none) } with
          active := some (caller, .stopping) }
  | destroyed {answer caller result} (h : m.active = some (caller, .destroying result)) :
      Moves m (.advance answer) (.returned caller (.ok result)) { m with active := none }
  | dropped (consumed : Nat) : Moves m (.dropActive consumed) .nothing (m.dropActive consumed)
  | shut (hfree : m.active = none) : Moves m .shutdown .nothing { m with session := none }
  | ran {session frame rest printed status} (hs : m.session = some session)
      (hlive : session.process.exited = none) (hidle : session.process.ran = none)
      (hin : session.process.input = frame :: rest) :
      Moves m (.shell (.run printed status)) (.ran frame printed status)
        (m.withProcess session { session.process with
          input := rest
          ran := some (frame, status)
          output := session.process.output ++ printed })
  | reported {session frame status}
      (hs : m.session = some session) (hlive : session.process.exited = none)
      (hran : session.process.ran = some (frame, status)) :
      Moves m (.shell .reportStatus) .nothing (m.withProcess session { session.process with
        ran := none
        output := session.process.output ++ [.done frame.marker status] })
  | exited {session code} (hs : m.session = some session)
      (hlive : session.process.exited = none) :
      Moves m (.shell (.exit code)) .nothing
        (m.withProcess session { session.process with exited := some code })

theorem active_dropActive (m : RootSessionManager κ) (consumed : Nat) :
    (m.dropActive consumed).active = none := by
  unfold dropActive
  split <;> rfl

variable {sess : RootShellSession κ} {marker : Marker}

theorem moves_write (h : m.active = some (caller, .writing marker)) (hs : m.session = some sess)
    (ans) : Moves m (.advance ans) (m.write caller marker ans sess).1
      (m.write caller marker ans sess).2 := by
  unfold write
  split
  · exact .gaveUp _ _ h
  · rename_i hok
    split
    · refine .wrote h hs ?_
      simpa using fun hsome => hok (.inr hsome)
    · exact .stay

variable {captured : Captured}

variable (h : m.active = some (caller, .reading marker captured))
include h

theorem moves_readLine {ans line rest} (hs : m.session = some sess)
    (hout : sess.process.output = line :: rest) :
    Moves m (.advance ans) (m.readLine caller marker captured sess line rest).1
      (m.readLine caller marker captured sess line rest).2 := by
  unfold readLine
  cases line with
  | text line => exact .captured h hs hout (by simp)
  | marker found rawStatus =>
    dsimp only
    split
    · rename_i hown
      subst hown
      split
      · rename_i code hcode
        exact .answered h hs hout hcode
      · exact .gaveUp _ _ h
    · rename_i hoth
      exact .captured h hs hout (by simp [hoth])

theorem moves_atEndOfFile {ans}
    (hs : m.session = some sess) (hout : sess.process.output = []) {exitCode}
    (hexit : ∀ code, exitCode = some code → sess.process.exited = some (some code)) :
    Moves m (.advance ans) .nothing
      (m.giveUp caller (atEndOfFile sess.generation captured exitCode)) := by
  unfold atEndOfFile
  split
  · rename_i code
    split
    · rename_i hne
      exact .denied h hs hout (hexit code rfl) hne
    · exact .gaveUp _ _ h
  · exact .gaveUp _ _ h

theorem moves_read (hs : m.session = some sess) (ans) :
    Moves m (.advance ans) (m.read caller marker captured ans sess).1
      (m.read caller marker captured ans sess).2 := by
  unfold read
  split
  · exact .gaveUp _ _ h
  · exact .expired h hs
  · split
    · rename_i hout
      exact moves_readLine h hs hout
    · exact .stay
    · rename_i code hout hexit
      refine moves_atEndOfFile h hs hout ?_
      intro found hfound
      split at hfound
      · cases hfound
      · rw [hexit, hfound]

omit h

theorem moves_advance (m : RootSessionManager κ) (ans : Answer) :
    Moves m (.advance ans) (m.advance ans).1 (m.advance ans).2 := by
  unfold advance
  split
  · exact .stay
  · rename_i caller gen hact
    split
    · exact .started hact
    · exact .failed hact
    · exact .stay
  · rename_i caller marker sess hact hs
    exact moves_write hact hs ans
  · rename_i caller marker captured sess hact hs
    exact moves_read hact hs ans
  · rename_i hact _
    exact .gaveUp _ _ hact
  · rename_i hact
    exact .destroyed hact
  · rename_i hact _
    exact .failed hact

theorem moves_shell (m : RootSessionManager κ) (act : ShellAction) :
    Moves m (.shell act) (m.shell act).1 (m.shell act).2 := by
  unfold shell
  split
  · exact .stay
  · rename_i sess hs
    dsimp only
    split
    · rename_i hlive hidle hin
      exact .ran hs hlive hidle hin
    · rename_i hlive hran
      exact .reported hs hlive hran
    · rename_i hlive
      exact .exited hs hlive
    · exact .stay

theorem moves_shutdown (m : RootSessionManager κ) : Moves m .shutdown .nothing m.shutdown := by
  unfold shutdown
  split
  · exact .stay
  · rename_i hfree
    exact .shut hfree

variable {act : SessionAction}

theorem Moves.active {report} (h : Moves m act report m') :
    (∃ caller ans, report = .returned caller ans ∧ m.active.map Prod.fst = some caller ∧
      m'.active = none) ∨ (∀ caller ans, report ≠ .returned caller ans) ∧
      (m'.active.map Prod.fst = m.active.map Prod.fst ∨ m'.active = none) := by
  cases h with
  | failed h | answered h | destroyed h => exact .inl ⟨_, _, rfl, by rw [h]; rfl, rfl⟩
  | stay | shut hfree | ran hs | reported hs | exited hs => exact .inr ⟨by simp, .inl rfl⟩
  | started h | gaveUp gen timedOut h | denied h | wrote h | captured h | expired h =>
    exact .inr ⟨by simp, .inl (by rw [h]; rfl)⟩
  | dropped consumed => exact .inr ⟨by simp, .inr (active_dropActive m consumed)⟩

/-- The active call, while its frame is not written. -/
def unwritten (m : RootSessionManager κ) : Option κ :=
  match m.active with
  | some (caller, .starting _) => some caller
  | some (caller, .writing _) => some caller
  | _ => none

theorem unwritten_of_free (hfree : m.active = none) : m.unwritten = none := by
  rw [unwritten, hfree]

theorem active_of_unwritten (h : m.unwritten = some caller) :
    m.active.map Prod.fst = some caller := by
  unfold RootSessionManager.unwritten at h
  split at h
  · rename_i hact
    rw [hact, ← h]
    rfl
  · rename_i hact
    rw [hact, ← h]
    rfl
  · cases h

theorem Moves.unwritten {report} (h : Moves m act report m')
    (hafter : m'.unwritten = some caller) : m.unwritten = some caller := by
  cases h with
  | started h =>
    cases hafter
    rw [RootSessionManager.unwritten, h]
  | dropped consumed =>
    rw [unwritten_of_free (active_dropActive m consumed)] at hafter
    cases hafter
  | stay | shut | ran | reported | exited => exact hafter
  | failed | gaveUp | denied | wrote | captured | answered | expired | destroyed => cases hafter

theorem Moves.unwritten_of_wrote {frame} (h : Moves m act (.wrote frame) m') :
    m.unwritten = some frame.caller := by
  cases h with
  | wrote h => rw [RootSessionManager.unwritten, h]

theorem Moves.written {frame} (h : Moves m act (.wrote frame) m') : m'.unwritten = none := by
  cases h with
  | wrote => rfl

theorem Acquires.unwritten {other report} (h : Acquires m caller report m')
    (hfree : m.active = none) (hafter : m'.unwritten = some other) : other = caller := by
  obtain ⟨⟨caller', stage⟩, hact, rfl⟩ := map_eq_some_iff.mp (active_of_unwritten hafter)
  exact (h.stage hfree hact).1

theorem moves_step (m : RootSessionManager κ) (act : SessionAction) :
    Moves m act (m.step act).1 (m.step act).2 := by
  cases act with
  | advance ans => exact moves_advance m ans
  | dropActive consumed => exact .dropped consumed
  | shutdown => exact moves_shutdown m
  | shell act => exact moves_shell m act

end RootSessionManager

end MishProxy.Session
