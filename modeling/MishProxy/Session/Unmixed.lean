import MishProxy.Machine.Run
import MishProxy.Session.Reading

/-!
# Whose output a command gets

A call that is dropped after it has written its frame leaves the frame, or its output, on
the session. The next call on this session reads past the foreign marker line, since the
marker is not its own, but keeps every line before it: its standard output begins with the
output of the dropped command (`output_mixed`).

`results_unmixed` says that this is the only way to get foreign output. If a call enters a
session only when nothing of an earlier call is left on it, or when its process has ended,
then every result of a command is either the report that there is none, or the status and
the output of the frame that the call itself has written.
-/

namespace MishProxy.Session

open Machine RootSessionManager List Option

variable {κ : Type}

inductive CallAction (κ : Type) where
  | acquire (caller : κ)
  | session (action : SessionAction)

def RootSessionManager.call (m : RootSessionManager κ) :
    CallAction κ → Report κ × RootSessionManager κ
  | .acquire caller => m.acquire caller
  | .session action => m.step action

abbrev CallRun (κ : Type) := Recorded (RootSessionManager κ) (CallAction κ) (Report κ)

abbrev CallEvent (κ : Type) := Event (RootSessionManager κ) (CallAction κ) (Report κ)

def runCalls (actions : List (CallAction κ)) : CallRun κ :=
  run (record call) (.init .new) actions

/-- Nothing of an earlier call is left. -/
def ShellProcess.Idle (p : ShellProcess κ) : Prop :=
  p.input = [] ∧ p.ran = none ∧ p.output = []

/-- The shell ran a frame of the caller, and no call has begun since. -/
def RanOwn (history : List (CallEvent κ)) (caller : κ) (printed : List OutputLine)
    (status : Fin 256) : Prop :=
  Since (fun e => e.after.unwritten = none)
    (fun e _ => ∃ marker, e.output = .ran ⟨marker, caller⟩ printed status) history

/-- The result says that no status was obtained, or it is made of what the caller's own frame
printed and of the status it was run with. -/
def OwnResult (history : List (CallEvent κ)) (caller : κ) (result : RootCommandResult) : Prop :=
  (∃ generation timedOut, result = noStatus generation timedOut) ∨
    ∃ printed status generation, RanOwn history caller printed status ∧
      result = (Captured.empty.pushAll printed).result generation (status : Nat)

/-- How far the reader of a frame has come: `consumed` are the lines it has read. -/
inductive ReaderAt (history : List (CallEvent κ)) (frame : Frame κ) (captured : Captured)
    (p : ShellProcess κ) : Prop where
  | queued (hin : p.input = [frame]) (hran : p.ran = none) (hout : p.output = [])
      (hcaptured : captured = .empty)
  | ran (consumed : List OutputLine) {status : Fin 256} (hin : p.input = [])
      (hran : p.ran = some (frame, status))
      (hcaptured : captured = Captured.empty.pushAll consumed)
      (hunforged : ∀ line ∈ p.output, line.isMarker = false)
      (hown : RanOwn history frame.caller (consumed ++ p.output) status)
  | done (consumed : List OutputLine) {rest : List OutputLine} {status : Fin 256}
      (hin : p.input = []) (hran : p.ran = none)
      (hout : p.output = rest ++ [.done frame.marker status])
      (hcaptured : captured = Captured.empty.pushAll consumed)
      (hunforged : ∀ line ∈ rest, line.isMarker = false)
      (hown : RanOwn history frame.caller (consumed ++ rest) status)

namespace ReaderAt

variable {hist : List (CallEvent κ)} {frame : Frame κ} {captured : Captured}
  {p : ShellProcess κ} {e : CallEvent κ}

theorem cons (h : ReaderAt hist frame captured p) (hnone : e.after.unwritten = none) :
    ReaderAt (e :: hist) frame captured p := by
  cases h with
  | queued hin hran hout hcap => exact .queued hin hran hout hcap
  | ran consumed hin hran hcap hunf hown =>
    exact .ran consumed hin hran hcap hunf (Since.cons hown hnone)
  | done consumed hin hran hout hcap hunf hown =>
    exact .done consumed hin hran hout hcap hunf (Since.cons hown hnone)

theorem exit (h : ReaderAt hist frame captured p) (code) :
    ReaderAt hist frame captured { p with exited := code } := by
  cases h with
  | queued hin hran hout hcap => exact .queued hin hran hout hcap
  | ran consumed hin hran hcap hunf hown => exact .ran consumed hin hran hcap hunf hown
  | done consumed hin hran hout hcap hunf hown => exact .done consumed hin hran hout hcap hunf hown

theorem pushAll_concat (consumed line) :
    (Captured.empty.pushAll consumed).push line = Captured.empty.pushAll (consumed ++ [line]) := by
  simp [Captured.pushAll]

variable (h : ReaderAt hist frame captured p)
include h

theorem read {line rest} (hout : p.output = line :: rest)
    (hline : ∀ rawStatus, line ≠ .marker frame.marker rawStatus) :
    ReaderAt hist frame (captured.push line) { p with output := rest } := by
  cases h with
  | queued _ _ hnil => cases hout.symm.trans hnil
  | ran consumed hin hran hcap hunf hown =>
    rw [hout] at hunf hown
    refine .ran (consumed ++ [line]) hin hran ?_ ?_ ?_
    · rw [hcap, pushAll_concat]
    · exact fun other hoth => hunf other (mem_cons_of_mem line hoth)
    · simpa using hown
  | @done consumed before _ hin hran hdone hcap hunf hown =>
    cases before with
    | nil =>
      cases hout.symm.trans hdone
      exact absurd rfl (hline _)
    | cons first before =>
      cases hout.symm.trans hdone
      refine .done (consumed ++ [line]) hin hran rfl ?_ ?_ ?_
      · rw [hcap, pushAll_concat]
      · exact fun other hoth => hunf other (mem_cons_of_mem line hoth)
      · simpa using hown

theorem run {first rest printed status} (hin : p.input = first :: rest)
    (hprinted : ∀ line ∈ printed, line.isMarker = false)
    (hran : e.output = .ran first printed status) : ReaderAt (e :: hist) frame captured
      { p with input := rest, ran := some (first, status), output := p.output ++ printed } := by
  cases h with
  | ran _ hnil | done _ hnil => cases hin.symm.trans hnil
  | queued hqueue _ hout hcap =>
    cases hin.symm.trans hqueue
    refine .ran [] rfl rfl hcap ?_ ?_
    · rw [hout]
      exact hprinted
    · rw [hout]
      exact Since.now ⟨_, hran⟩

theorem report {first status} (hran : p.ran = some (first, status)) : ReaderAt hist frame captured
      { p with ran := none, output := p.output ++ [.done first.marker status] } := by
  cases h with
  | queued _ hnone | done _ _ hnone => cases hran.symm.trans hnone
  | ran consumed hin hown hcap hunf hranOwn =>
    cases some.inj (hran.symm.trans hown)
    exact .done consumed hin rfl rfl hcap hunf hranOwn

/-- At its marker line the reader has the output and the status of its own frame. -/
theorem ownResult {rawStatus rest code} (hout : p.output = .marker frame.marker rawStatus :: rest)
    (hcode : parseStatus rawStatus = some code) (gen : Nat) :
    OwnResult hist frame.caller (captured.result gen code) := by
  cases h with
  | queued _ _ hnil => cases hout.symm.trans hnil
  | ran _ _ _ _ hunf =>
    have hmem : .marker frame.marker rawStatus ∈ p.output := hout ▸ (.head _)
    cases hunf _ hmem
  | @done consumed before status _ _ hdone hcap hunf hown =>
    cases before with
    | cons first before =>
      cases hout.symm.trans hdone
      cases hunf (.marker frame.marker rawStatus) (.head _)
    | nil =>
      have hraw : rawStatus = Text.decimal status :=
        (OutputLine.marker.inj (cons.inj (hout.symm.trans hdone)).1).2
      rw [hraw, parseStatus_decimal (status.isLt.trans (by decide))] at hcode
      cases hcode
      rw [append_nil] at hown
      exact .inr ⟨consumed, status, gen, hown, by rw [hcap]⟩

end ReaderAt

/-! ## The invariant -/

/-- A command gets a result that is not its own. -/
def Foreign (e : CallEvent κ) (older : List (CallEvent κ)) : Prop :=
  ∃ caller result, e.output = .returned caller (.ok result) ∧ ¬ OwnResult older caller result

structure Unmixed (r : CallRun κ) : Prop where
  exits : ∀ session code, r.state.session = some session →
    session.process.exited = some (some code) → code = 0
  writing : ∀ caller marker, r.state.active = some (caller, .writing marker) →
    ∃ session, r.state.session = some session ∧
      (session.process.exited = none → session.process.Idle)
  reading : ∀ caller marker captured, r.state.active = some (caller, .reading marker captured) →
    ∃ session, r.state.session = some session ∧
      ReaderAt r.history ⟨marker, caller⟩ captured session.process
  destroying : ∀ caller result, r.state.active = some (caller, .destroying result) →
    ∃ generation timedOut, result = noStatus generation timedOut
  returns : ¬ Once Foreign r.history

theorem unmixed_new : Unmixed (.init .new : CallRun κ) where
  exits := by rintro _ _ ⟨⟩
  writing := by rintro _ _ ⟨⟩
  reading := by rintro _ _ _ ⟨⟩
  destroying := by rintro _ _ ⟨⟩
  returns := by
    rintro ⟨newer, e, older, heq, _⟩
    exact append_ne_nil_of_right_ne_nil newer (cons_ne_nil e older) heq.symm

/-- A call enters a session on which nothing is left or whose process has ended; no command
prints a marker line; the shell does not exit with a non-zero code. -/
def RootSessionManager.Undisturbed (m : RootSessionManager κ) : CallAction κ → Prop
  | .acquire _ => m.active = none → ∀ session ∈ m.session,
      session.process.exited = none → session.process.Idle
  | .session (.shell (.run printed _)) => ∀ line ∈ printed, line.isMarker = false
  | .session (.shell (.exit (some code))) => code = 0
  | _ => True

theorem unwritten_of_reading {m : RootSessionManager κ} {caller : κ} {marker : Marker}
    {captured : Captured} (h : m.active = some (caller, .reading marker captured)) :
    m.unwritten = none := by
  rw [unwritten, h]

namespace Unmixed

variable {r : CallRun κ} {act : SessionAction} {report : Report κ} {m' : RootSessionManager κ}

section

variable (h : Unmixed r) (hmoves : RootSessionManager.Moves r.state act report m')
  (hundisturbed : r.state.Undisturbed (.session act))
include h hmoves

include hundisturbed in
theorem exits_session : ∀ sess code, m'.session = some sess →
    sess.process.exited = some (some code) → code = 0 := by
  intro sess code hs' hexit
  cases hmoves with
  | stay | failed | destroyed => exact h.exits sess code hs' hexit
  | gaveUp | denied | shut => cases hs'
  | started =>
    cases hs'
    cases hexit
  | wrote _ hs | captured _ hs | answered _ hs =>
    cases hs'
    exact h.exits _ code hs hexit
  | @expired _ _ _ _ sess _ hs =>
    cases hs'
    cases hbef : sess.process.exited with
    | none =>
      simp only [hbef, getD_none] at hexit
      cases hexit
    | some code' =>
      simp only [hbef, getD_some] at hexit
      exact h.exits _ code hs (hbef.trans hexit)
  | ran _ hlive | reported _ hlive =>
    cases hs'
    cases hlive.symm.trans hexit
  | exited =>
    cases hs'
    cases hexit
    exact hundisturbed
  | dropped consumed =>
    unfold dropActive at hs'
    split at hs'
    · rename_i hs
      cases hs'
      exact h.exits _ code hs hexit
    · exact h.exits sess code hs' hexit

theorem writing_session : ∀ caller marker, m'.active = some (caller, .writing marker) →
    ∃ sess, m'.session = some sess ∧ (sess.process.exited = none → sess.process.Idle) := by
  intro caller marker hafter
  cases hmoves with
  | stay => exact h.writing caller marker hafter
  | started => exact ⟨_, rfl, fun _ => ⟨rfl, rfl, rfl⟩⟩
  | ran hs hlive _ hin =>
    obtain ⟨sess, hs', hidle⟩ := h.writing caller marker hafter
    cases hs.symm.trans hs'
    cases hin.symm.trans (hidle hlive).1
  | reported hs hlive hran =>
    obtain ⟨sess, hs', hidle⟩ := h.writing caller marker hafter
    cases hs.symm.trans hs'
    cases hran.symm.trans (hidle hlive).2.1
  | exited => exact ⟨_, rfl, by simp⟩
  | shut hfree => cases hfree.symm.trans hafter
  | dropped consumed => cases (active_dropActive _ consumed).symm.trans hafter
  | failed | gaveUp | denied | wrote | captured | answered | expired | destroyed => cases hafter

include hundisturbed in
theorem reading_session {e} (houtput : e.output = report) (hst : e.after = m') :
    ∀ caller marker captured, m'.active = some (caller, .reading marker captured) →
      ∃ sess, m'.session = some sess ∧
        ReaderAt (e :: r.history) ⟨marker, caller⟩ captured sess.process := by
  intro caller marker captured hafter
  have hnone : e.after.unwritten = none := by
    rw [hst]
    exact unwritten_of_reading hafter
  cases hmoves with
  | stay =>
    obtain ⟨sess, hs, hreader⟩ := h.reading caller marker captured hafter
    exact ⟨sess, hs, hreader.cons hnone⟩
  | wrote hact hs hlive =>
    cases hafter
    obtain ⟨sess, hs', hidle⟩ := h.writing _ _ hact
    cases hs.symm.trans hs'
    obtain ⟨hin, hran, hout⟩ := hidle hlive
    exact ⟨_, rfl, .queued (by dsimp only; rw [hin]; rfl) hran hout rfl⟩
  | captured hact hs hout hline =>
    cases hafter
    obtain ⟨sess, hs', hreader⟩ := h.reading _ _ _ hact
    cases hs.symm.trans hs'
    exact ⟨_, rfl, (hreader.read hout hline).cons hnone⟩
  | ran hs _ _ hin =>
    obtain ⟨sess, hs', hreader⟩ := h.reading caller marker captured hafter
    cases hs.symm.trans hs'
    exact ⟨_, rfl, hreader.run hin hundisturbed houtput⟩
  | reported hs _ hran =>
    obtain ⟨sess, hs', hreader⟩ := h.reading caller marker captured hafter
    cases hs.symm.trans hs'
    exact ⟨_, rfl, (hreader.report hran).cons hnone⟩
  | exited hs =>
    obtain ⟨sess, hs', hreader⟩ := h.reading caller marker captured hafter
    cases hs.symm.trans hs'
    exact ⟨_, rfl, (hreader.exit _).cons hnone⟩
  | shut hfree => cases hfree.symm.trans hafter
  | dropped consumed => cases (active_dropActive _ consumed).symm.trans hafter
  | started | failed | gaveUp | denied | answered | expired | destroyed => cases hafter

theorem destroying_session : ∀ caller res, m'.active = some (caller, .destroying res) →
    ∃ gen timedOut, res = noStatus gen timedOut := by
  intro caller res hafter
  cases hmoves with
  | stay | ran | reported | exited => exact h.destroying caller res hafter
  | gaveUp =>
    cases hafter
    exact ⟨_, _, rfl⟩
  | denied _ hs _ hexit hcode => exact absurd (h.exits _ _ hs hexit) hcode
  | shut hfree => cases hfree.symm.trans hafter
  | dropped consumed => cases (active_dropActive _ consumed).symm.trans hafter
  | started | failed | wrote | captured | answered | expired | destroyed => cases hafter

theorem returns_session {caller res}
    (hret : report = .returned caller (.ok res)) : OwnResult r.history caller res := by
  subst hret
  cases hmoves with
  | answered hact hs hout hcode =>
    obtain ⟨sess, hs', hreader⟩ := h.reading _ _ _ hact
    cases hs.symm.trans hs'
    exact hreader.ownResult hout hcode _
  | destroyed hact => exact .inl (h.destroying _ _ hact)

end

variable (h : Unmixed r)
include h

theorem session (hundisturbed : r.state.Undisturbed (.session act)) :
    Unmixed (record call r (.session act)) := by
  have hmoves := moves_step r.state act
  refine ⟨h.exits_session hmoves hundisturbed, h.writing_session hmoves,
    h.reading_session hmoves hundisturbed rfl rfl, h.destroying_session hmoves, ?_⟩
  have hstep : record call r (.session act) =
    ⟨(r.state.step act).2, ⟨.session act, (r.state.step act).1,
      (r.state.step act).2⟩ :: r.history⟩ := rfl
  rw [hstep, once_cons_iff]
  rintro (⟨caller, res, hret, hforeign⟩ | hearl)
  · exact hforeign (h.returns_session hmoves hret)
  · exact h.returns hearl

theorem waiting {e} (hst : e.after = r.state)
    (houtput : e.output = .nothing) : Unmixed ⟨r.state, e :: r.history⟩ := by
  refine ⟨h.exits, h.writing, ?_, h.destroying, ?_⟩
  · intro caller marker captured hact
    obtain ⟨sess, hs, hreader⟩ := h.reading caller marker captured hact
    exact ⟨sess, hs, hreader.cons (by rw [hst]; exact unwritten_of_reading hact)⟩
  · rw [once_cons_iff]
    rintro (⟨caller, res, hret, _⟩ | hearl)
    · cases houtput.symm.trans hret
    · exact h.returns hearl

theorem entered {caller : κ} (hfree : r.state.active = none)
    (hidle : ∀ sess, r.state.session = some sess → sess.process.exited = none → sess.process.Idle)
    (hacq : RootSessionManager.Acquires r.state caller report m') {e}
    (houtput : e.output = report) : Unmixed ⟨m', e :: r.history⟩ := by
  have hreturns : ¬ Once Foreign (e :: r.history) := by
    rw [once_cons_iff]
    rintro (⟨caller, res, hret, _⟩ | hearl)
    · rw [houtput] at hret
      rcases hacq.report with hrpt | hrpt <;>
        cases hret.symm.trans hrpt
    · exact h.returns hearl
  refine ⟨?_, ?_, ?_, ?_, hreturns⟩
  · intro sess code hs' hexit
    cases hacq with
    | refused => exact h.exits sess code hs' hexit
    | began => cases hs'
    | entered hs =>
      cases hs'
      exact h.exits _ code hs hexit
  · intro caller' marker hact
    cases hacq with
    | refused => exact h.writing caller' marker hact
    | began => cases hact
    | @entered before hs => exact ⟨_, rfl, fun hlive => hidle before hs hlive⟩
  · intro caller' marker captured hact
    rcases (hacq.stage hfree hact).2 with ⟨_, hstg⟩ | ⟨_, hstg⟩ <;> cases hstg
  · intro caller' res hact
    rcases (hacq.stage hfree hact).2 with ⟨_, hstg⟩ | ⟨_, hstg⟩ <;> cases hstg

theorem acquire {caller : κ} (hundisturbed : r.state.Undisturbed (.acquire caller)) :
    Unmixed (record call r (.acquire caller)) := by
  have hstep : record call r (.acquire caller) =
    ⟨(r.state.acquire caller).2, ⟨.acquire caller, (r.state.acquire caller).1,
      (r.state.acquire caller).2⟩ :: r.history⟩ := rfl
  rw [hstep]
  cases hact : r.state.active with
  | none =>
    have hidle := hundisturbed hact
    exact h.entered hact (fun sess hs => hidle sess hs)
      (acquires hact caller) rfl
  | some call =>
    have hsame : r.state.acquire caller = (.nothing, r.state) := by
      rw [RootSessionManager.acquire, hact]
    rw [hsame]
    exact h.waiting rfl rfl

theorem step {act} (hundisturbed : r.state.Undisturbed act) : Unmixed (record call r act) := by
  cases act with
  | acquire caller => exact h.acquire hundisturbed
  | session act => exact h.session hundisturbed

end Unmixed

/-! ## Whole runs -/

instance [DecidableEq κ] (p : ShellProcess κ) : Decidable p.Idle :=
  inferInstanceAs (Decidable (p.input = [] ∧ p.ran = none ∧ p.output = []))

instance [DecidableEq κ] (m : RootSessionManager κ) : ∀ action, Decidable (m.Undisturbed action)
  | .acquire _ => inferInstanceAs (Decidable (m.active = none → ∀ session ∈ m.session,
      session.process.exited = none → session.process.Idle))
  | .session (.shell (.run printed _)) =>
    inferInstanceAs (Decidable (∀ line ∈ printed, line.isMarker = false))
  | .session (.shell (.exit (some code))) => inferInstanceAs (Decidable (code = 0))
  | .session (.shell (.exit none)) | .session (.shell .reportStatus) | .session (.advance _)
  | .session (.dropActive _) | .session .shutdown => .isTrue trivial

/-- Every result is the caller's own, as long as no call enters a session on which something
of an earlier call is left. -/
theorem results_unmixed (actions : List (CallAction κ))
    (hundisturbed : Along (record call)
      (fun r => r.state.Undisturbed) (.init .new) actions) :
    ∀ newer e older, (runCalls actions).history = newer ++ e :: older →
      ∀ caller result, e.output = .returned caller (.ok result) →
        OwnResult older caller result := by
  intro newer e older hhistory caller result hreturned
  have h : Unmixed (runCalls actions) :=
    run_invariant_along (fun _ _ h => h.step) unmixed_new hundisturbed
  by_contra hforeign
  exact h.returns ⟨newer, e, older, hhistory, caller, result, hreturned, hforeign⟩

/-- Caller 1 starts the shell and runs a command that prints `1`. -/
def firstCall : List (CallAction Nat) :=
  [.acquire 1, .session (.advance .ready), .session (.advance .ready),
    .session (.shell (.run [.text ['1', '\n']] 0)), .session (.shell .reportStatus)]

/-- Caller 2 runs a command that prints `0` on the same shell. -/
def secondCall : List (CallAction Nat) :=
  [.acquire 2, .session (.advance .ready), .session (.shell (.run [.text ['0', '\n']] 0)),
    .session (.shell .reportStatus)]

def readLines (count : Nat) : List (CallAction Nat) :=
  List.replicate count (.session (.advance .ready))

theorem results_unmixed_twoCalls :
    (∃ e ∈ (runCalls (firstCall ++ readLines 2 ++ secondCall ++ readLines 2)).history,
      e.output = .returned 2 (.ok ⟨0, ['0', '\n'], false, true, 1⟩)) ∧
    ∀ newer e older,
      (runCalls (firstCall ++ readLines 2 ++ secondCall ++ readLines 2)).history =
        newer ++ e :: older →
      ∀ caller result, e.output = .returned caller (.ok result) →
        OwnResult older caller result :=
  ⟨by decide, results_unmixed _ (by decide)⟩

/-- The first call is dropped before it reads; the second one gets the output of both. -/
theorem output_mixed :
    (∃ e ∈ (runCalls (firstCall ++ [.session (.dropActive 0)] ++ secondCall)).history,
      e.output = .ran ⟨⟨1, 2⟩, 2⟩ [.text ['0', '\n']] 0) ∧
    ∃ e ∈ (runCalls (firstCall ++ [.session (.dropActive 0)] ++ secondCall ++ readLines 4)).history,
      e.output = .returned 2
        (.ok ⟨0, "1\n__MISH_ROOT_DONE_1_1:0\n0\n".toList, false, true, 1⟩) := by
  decide

end MishProxy.Session
