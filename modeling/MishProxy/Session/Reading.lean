import MishProxy.Session.Moves

/-!
# The frame a reader waits for

A session may hold frames of calls that were dropped. Its markers are numbered, so a reader
can tell its own marker line from theirs (`Traced`), and its own frame is the last one
written. `FateOf` says what has become of that frame: it is queued, it has been run and its
marker line is not printed, or the marker line stands in the output.

`FateOf.step` follows the frame through one step of the session. `liveFrames` are the frames
that may still be run.
-/

namespace MishProxy.Session

open List Option

variable {κ : Type}

def OutputLine.isMarker : OutputLine → Bool
  | .marker _ _ => true
  | .text _ => false

/-- All markers of the process are numbered below the bound. -/
structure ShellProcess.Below (p : ShellProcess κ) (bound : Nat) : Prop where
  input : ∀ frame ∈ p.input, frame.marker.sequence < bound
  ran : ∀ frame status, p.ran = some (frame, status) → frame.marker.sequence < bound
  output : ∀ found rawStatus, .marker found rawStatus ∈ p.output → found.sequence < bound

/-- What has become of the frame; the status, once it has been run. -/
inductive FateOf (frame : Frame κ) (p : ShellProcess κ) : Option (Fin 256) → Prop where
  | queued {before : List (Frame κ)} (hin : p.input = before ++ [frame])
      (hbefore : ∀ other ∈ before, other.marker ≠ frame.marker)
      (hran : ∀ other status, p.ran = some (other, status) → other.marker ≠ frame.marker)
      (hout : ∀ rawStatus, .marker frame.marker rawStatus ∉ p.output) : FateOf frame p none
  | ran {status : Fin 256} (hin : p.input = []) (hran : p.ran = some (frame, status))
      (hout : ∀ rawStatus, .marker frame.marker rawStatus ∉ p.output) :
      FateOf frame p (some status)
  | done {status : Fin 256} (hin : p.input = []) (hran : p.ran = none)
      (hmem : .done frame.marker status ∈ p.output)
      (hout : ∀ rawStatus, .marker frame.marker rawStatus ∈ p.output →
        rawStatus = Text.decimal status) : FateOf frame p (some status)

theorem mem_loseRead {consumed lines found rawStatus}
    (h : .marker found rawStatus ∈ loseRead consumed lines) :
    .marker found rawStatus ∈ lines := by
  cases lines with
  | nil => exact h
  | cons line rest =>
    simp only [loseRead] at h
    split at h
    · exact mem_cons_of_mem line ((mem_cons.mp h).resolve_left (by simp))
    · exact h

/-! ## The process -/

section

variable {p : ShellProcess κ} {bound : Nat} {frame first : Frame κ} {rest : List (Frame κ)}
  {printed lines : List OutputLine} {line : OutputLine} {status : Fin 256}
  {fate : Option (Fin 256)}

namespace ShellProcess.Below

theorem new (bound : Nat) : (ShellProcess.new : ShellProcess κ).Below bound :=
  ⟨by rintro _ ⟨⟩, by rintro _ _ ⟨⟩, by rintro _ _ ⟨⟩⟩

variable (h : p.Below bound)
include h

theorem mono {larger : Nat} (hle : bound ≤ larger) : p.Below larger :=
  ⟨fun frame hframe => (h.input frame hframe).trans_le hle,
    fun frame status hran => (h.ran frame status hran).trans_le hle,
    fun found rawStatus hmem => (h.output found rawStatus hmem).trans_le hle⟩

theorem exit (code) :
    ({ p with exited := code } : ShellProcess κ).Below bound := ⟨h.input, h.ran, h.output⟩

theorem output_of_subset (hsubset : ∀ found rawStatus, .marker found rawStatus ∈ lines →
      .marker found rawStatus ∈ p.output) :
    ({ p with output := lines } : ShellProcess κ).Below bound :=
  ⟨h.input, h.ran, fun found rawStatus hmem => h.output found rawStatus (hsubset _ _ hmem)⟩

theorem write (hframe : frame.marker.sequence < bound) :
    ({ p with input := p.input ++ [frame] } : ShellProcess κ).Below bound := by
  refine ⟨?_, h.ran, h.output⟩
  intro other hoth
  rcases mem_append.mp hoth with hold | hnew
  · exact h.input other hold
  · rw [mem_singleton.mp hnew]
    exact hframe

theorem run (hin : p.input = first :: rest) (hunf : ∀ line ∈ printed, line.isMarker = false) :
    ({ p with input := rest, ran := some (first, status), output := p.output ++ printed } :
      ShellProcess κ).Below bound := by
  refine ⟨fun other hoth => h.input other (hin ▸ mem_cons_of_mem first hoth), ?_, ?_⟩
  · intro other status' hran
    cases some.inj hran
    exact h.input first (hin ▸ (.head _))
  · intro found rawStatus hmem
    rcases mem_append.mp hmem with hold | hnew
    · exact h.output found rawStatus hold
    · cases hunf _ hnew

theorem report (hran : p.ran = some (first, status)) :
    ({ p with ran := none, output := p.output ++ [.done first.marker status] } :
      ShellProcess κ).Below bound := by
  refine ⟨h.input, by simp, ?_⟩
  intro found rawStatus hmem
  rcases mem_append.mp hmem with hold | hnew
  · exact h.output found rawStatus hold
  · obtain ⟨rfl, _⟩ := OutputLine.marker.inj (mem_singleton.mp hnew)
    exact h.ran first status hran

end ShellProcess.Below

namespace FateOf

theorem write (h : p.Below bound) (hframe : frame.marker.sequence = bound) :
    FateOf frame { p with input := p.input ++ [frame] } none := by
  have hne : ∀ marker : Marker, marker.sequence < bound → marker ≠ frame.marker := by
    rintro marker hlt rfl
    omega
  refine .queued rfl (fun other hoth => hne _ (h.input other hoth))
    (fun other status hran => hne _ (h.ran other status hran)) ?_
  intro rawStatus hmem
  exact hne _ (h.output _ rawStatus hmem) rfl

variable (h : FateOf frame p fate)
include h

theorem exit (code) : FateOf frame { p with exited := code } fate := by
  cases h with
  | queued hin hbef hran hout => exact .queued hin hbef hran hout
  | ran hin hran hout => exact .ran hin hran hout
  | done hin hran hmem hout => exact .done hin hran hmem hout

theorem run (hin : p.input = first :: rest)
    (hunf : ∀ line ∈ printed, line.isMarker = false) (status) :
    first = frame ∧ fate = none ∧ FateOf frame
        { p with input := rest, ran := some (first, status), output := p.output ++ printed }
        (some status) ∨ first ≠ frame ∧ FateOf frame
        { p with input := rest, ran := some (first, status), output := p.output ++ printed }
        fate := by
  have hunm : ∀ rawStatus, .marker frame.marker rawStatus ∉ printed :=
    fun rawStatus hmem => absurd (hunf _ hmem) (by rintro ⟨⟩)
  cases h with
  | ran hnil | done hnil => cases hin.symm.trans hnil
  | @queued before hqueue hbef hran hout =>
    have hout' : ∀ rawStatus, .marker frame.marker rawStatus ∉ p.output ++ printed := by
      intro rawStatus hmem
      rcases mem_append.mp hmem with hold | hnew
      · exact hout rawStatus hold
      · exact hunm rawStatus hnew
    cases before with
    | nil =>
      cases hin.symm.trans hqueue
      exact .inl ⟨rfl, rfl, .ran rfl rfl hout'⟩
    | cons other before =>
      cases hin.symm.trans hqueue
      have hne := hbef first (.head _)
      refine .inr ⟨fun heq => hne (congrArg Frame.marker heq), .queued rfl ?_ ?_ hout'⟩
      · exact fun other hoth => hbef other (mem_cons_of_mem first hoth)
      · intro other status' hoth
        cases some.inj hoth
        exact hne

theorem report (hran : p.ran = some (first, status)) :
    FateOf frame { p with ran := none, output := p.output ++ [.done first.marker status] }
      fate := by
  cases h with
  | done _ hnone => cases hran.symm.trans hnone
  | queued hin hbef hoth hout =>
    refine .queued hin hbef (by simp) ?_
    intro rawStatus hmem
    rcases mem_append.mp hmem with hold | hnew
    · exact hout rawStatus hold
    · obtain ⟨heq, _⟩ := OutputLine.marker.inj (mem_singleton.mp hnew)
      exact hoth first status hran heq.symm
  | ran hin hown hout =>
    cases some.inj (hran.symm.trans hown)
    refine .done hin rfl (mem_append_right _ (.head _)) ?_
    intro rawStatus hmem
    rcases mem_append.mp hmem with hold | hnew
    · exact absurd hold (hout rawStatus)
    · exact (OutputLine.marker.inj (mem_singleton.mp hnew)).2

theorem read (hout : p.output = line :: lines)
    (hline : ∀ rawStatus, line ≠ .marker frame.marker rawStatus) :
    FateOf frame { p with output := lines } fate := by
  have hold : ∀ rawStatus, .marker frame.marker rawStatus ∈ lines →
      .marker frame.marker rawStatus ∈ p.output :=
    fun rawStatus hmem => hout ▸ mem_cons_of_mem line hmem
  cases h with
  | queued hin hbef hran hnone =>
    exact .queued hin hbef hran fun rawStatus hmem => hnone rawStatus (hold rawStatus hmem)
  | ran hin hran hnone =>
    exact .ran hin hran fun rawStatus hmem => hnone rawStatus (hold rawStatus hmem)
  | done hin hran hmem hstat =>
    rw [hout] at hmem
    exact .done hin hran ((mem_cons.mp hmem).resolve_left fun heq => hline _ heq.symm)
      fun rawStatus hmem => hstat rawStatus (hold rawStatus hmem)

/-- A reader that meets its marker line gets the status its frame was run with. -/
theorem of_marker {rawStatus : Text} (hmem : .marker frame.marker rawStatus ∈ p.output) :
    p.input = [] ∧ ∃ status : Fin 256, fate = some status ∧ rawStatus = Text.decimal status := by
  cases h with
  | queued _ _ _ hout | ran _ _ hout => exact absurd hmem (hout rawStatus)
  | done hin _ _ hout => exact ⟨hin, _, rfl, hout rawStatus hmem⟩

omit h

/-- At the end of the output a frame that was run has not been reported. -/
theorem of_drained (h : FateOf frame p (some status)) (hout : p.output = []) :
    p.ran = some (frame, status) := by
  cases h with
  | ran _ hran => exact hran
  | done _ _ hmem =>
    rw [hout] at hmem
    cases hmem

end FateOf

end

namespace RootSessionManager

variable {m m' : RootSessionManager κ} {act : SessionAction} {report : Report κ}

def liveFrames (m : RootSessionManager κ) : List (Frame κ) :=
  match m.session with
  | some session => if session.process.exited = none then session.process.input else []
  | none => []

theorem mem_liveFrames {frame} : frame ∈ m.liveFrames ↔
    ∃ sess, m.session = some sess ∧ sess.process.exited = none ∧ frame ∈ sess.process.input := by
  unfold liveFrames
  cases m.session with
  | none => simp
  | some sess => by_cases hlive : sess.process.exited = none <;> simp [hlive]

structure Traced (m : RootSessionManager κ) : Prop where
  numbered : ∀ session, m.session = some session → session.process.Below (session.sequence + 1)
  writing : ∀ caller marker, m.active = some (caller, .writing marker) →
    ∃ session, m.session = some session ∧ marker.sequence = session.sequence ∧
      session.process.Below session.sequence
  reading : ∀ caller marker captured, m.active = some (caller, .reading marker captured) →
    ∃ session fate, m.session = some session ∧ FateOf ⟨marker, caller⟩ session.process fate
  destroying : ∀ caller result, m.active = some (caller, .destroying result) → m.session = none

/-- No command prints a marker line. -/
def Unforged : SessionAction → Prop
  | .shell (.run printed _) => ∀ line ∈ printed, line.isMarker = false
  | _ => True

/-! ## One step of the session -/

/-- A reader has just written its frame, or it was reading before and the step takes its
frame from one fate to the next. -/
theorem Moves.follow (h : Moves m act report m') (hunf : Unforged act) {caller marker captured}
    (hafter : m'.active = some (caller, .reading marker captured)) :
    report = .wrote ⟨marker, caller⟩ ∨
    (∃ before, m.active = some (caller, .reading marker before)) ∧
      ∀ sess fate, m.session = some sess → FateOf ⟨marker, caller⟩ sess.process fate →
        ∃ session', m'.session = some session' ∧
          ((∃ printed status, report = .ran ⟨marker, caller⟩ printed status ∧ fate = none ∧
              FateOf ⟨marker, caller⟩ session'.process (some status)) ∨
            (∀ printed status, report ≠ .ran ⟨marker, caller⟩ printed status) ∧
              FateOf ⟨marker, caller⟩ session'.process fate) := by
  cases h with
  | started | failed | gaveUp | denied | answered | expired | destroyed => cases hafter
  | dropped consumed =>
    rw [active_dropActive] at hafter
    cases hafter
  | shut hfree =>
    rw [hfree] at hafter
    cases hafter
  | wrote =>
    cases hafter
    exact .inl rfl
  | stay => exact .inr ⟨⟨_, hafter⟩, fun sess fate hs hfate => ⟨sess, hs, .inr ⟨by simp, hfate⟩⟩⟩
  | captured hact hs hout hline =>
    cases hafter
    refine .inr ⟨⟨_, hact⟩, ?_⟩
    intro sess fate hs' hfate
    cases hs.symm.trans hs'
    exact ⟨_, rfl, .inr ⟨by simp, hfate.read hout hline⟩⟩
  | @ran _ first _ printed status hs _ _ hin =>
    refine .inr ⟨⟨_, hafter⟩, ?_⟩
    intro sess fate hs' hfate
    cases hs.symm.trans hs'
    refine ⟨_, rfl, ?_⟩
    rcases hfate.run hin hunf status with ⟨rfl, hnone, hran⟩ | ⟨hne, hsame⟩
    · exact .inl ⟨printed, status, rfl, hnone, hran⟩
    · refine .inr ⟨?_, hsame⟩
      intro printed' status' heq
      exact hne (Report.ran.inj heq).1
  | reported hs _ hran =>
    refine .inr ⟨⟨_, hafter⟩, ?_⟩
    intro sess fate hs' hfate
    cases hs.symm.trans hs'
    exact ⟨_, rfl, .inr ⟨by simp, hfate.report hran⟩⟩
  | exited hs =>
    refine .inr ⟨⟨_, hafter⟩, ?_⟩
    intro sess fate hs' hfate
    cases hs.symm.trans hs'
    exact ⟨_, rfl, .inr ⟨by simp, hfate.exit _⟩⟩

theorem Moves.live (h : Moves m act report m') {frame}
    (hafter : frame ∈ m'.liveFrames) : frame ∈ m.liveFrames ∨ report = .wrote frame := by
  obtain ⟨sess, hs', hlive, hmem⟩ := mem_liveFrames.mp hafter
  rw [mem_liveFrames]
  cases h with
  | stay | failed | destroyed => exact .inl ⟨sess, hs', hlive, hmem⟩
  | gaveUp | denied | shut => cases hs'
  | expired | exited =>
    cases hs'
    cases hlive
  | started =>
    cases hs'
    cases hmem
  | wrote _ hs =>
    cases hs'
    rcases mem_append.mp hmem with hold | hnew
    · exact .inl ⟨_, hs, hlive, hold⟩
    · exact .inr (by rw [mem_singleton.mp hnew])
  | captured _ hs | answered _ hs | reported hs =>
    cases hs'
    exact .inl ⟨_, hs, hlive, hmem⟩
  | ran hs hlive' _ hin =>
    cases hs'
    exact .inl ⟨_, hs, hlive', hin ▸ .tail _ hmem⟩
  | dropped consumed =>
    unfold dropActive at hs'
    split at hs'
    · rename_i hs
      cases hs'
      exact .inl ⟨_, hs, hlive, hmem⟩
    · exact .inl ⟨sess, hs', hlive, hmem⟩

theorem Moves.live_of_ran {frame printed status}
    (h : Moves m act (.ran frame printed status) m') : frame ∈ m.liveFrames := by
  cases h with
  | ran hs hlive _ hin => simp [liveFrames, hs, hlive, hin]

theorem Acquires.live {caller : κ} (h : Acquires m caller report m') {frame}
    (hafter : frame ∈ m'.liveFrames) : frame ∈ m.liveFrames := by
  obtain ⟨sess, hs', hlive, hmem⟩ := mem_liveFrames.mp hafter
  cases h with
  | refused => exact hafter
  | began => cases hs'
  | entered hs =>
    cases hs'
    exact mem_liveFrames.mpr ⟨_, hs, hlive, hmem⟩

namespace Traced

theorem new : (RootSessionManager.new : RootSessionManager κ).Traced :=
  ⟨by rintro _ ⟨⟩, by rintro _ _ ⟨⟩, by rintro _ _ _ ⟨⟩, by rintro _ _ ⟨⟩⟩

theorem enter {caller sess} (hbelow : sess.process.Below (sess.sequence + 1))
    (hnum : sess.sequence < 2 ^ 64 - 1) : (m.enter caller sess).Traced := by
  have hnext : min (sess.sequence + 1) (2 ^ 64 - 1) = sess.sequence + 1 := by omega
  refine ⟨?_, ?_, by rintro _ _ _ ⟨⟩, by rintro _ _ ⟨⟩⟩
  · intro session' hs
    cases hs
    rw [hnext]
    exact hbelow.mono (Nat.le_succ _)
  · intro caller' marker hact
    obtain ⟨_, hwriting⟩ := Prod.mk.inj (some.inj hact)
    obtain rfl := ExecuteStage.writing.inj hwriting
    refine ⟨_, rfl, rfl, ?_⟩
    rw [hnext]
    exact hbelow

variable (h : m.Traced)
include h

theorem acquire {caller : κ} (hacq : Acquires m caller report m')
    (hnum : ∀ sess, m.session = some sess → sess.sequence < 2 ^ 64 - 1) : m'.Traced := by
  cases hacq with
  | refused => exact h
  | began => exact ⟨by simp, by simp, by simp, by simp⟩
  | entered hs => exact enter (h.numbered _ hs) (hnum _ hs)

theorem numbered_step (hmoves : Moves m act report m') (hunf : Unforged act) :
    ∀ sess, m'.session = some sess → sess.process.Below (sess.sequence + 1) := by
  intro sess hs'
  cases hmoves with
  | stay | failed | destroyed => exact h.numbered sess hs'
  | gaveUp | denied | shut => cases hs'
  | started =>
    cases hs'
    exact .new _
  | expired _ hs | exited hs =>
    cases hs'
    exact (h.numbered _ hs).exit _
  | wrote hact hs =>
    cases hs'
    obtain ⟨session', hs', hmarker, hbelow⟩ := h.writing _ _ hact
    cases hs.symm.trans hs'
    exact (h.numbered _ hs).write (by dsimp only; omega)
  | captured _ hs hout | answered _ hs hout =>
    cases hs'
    exact (h.numbered _ hs).output_of_subset
      fun found rawStatus hmem => hout ▸ .tail _ hmem
  | ran hs _ _ hin =>
    cases hs'
    exact (h.numbered _ hs).run hin hunf
  | reported hs _ hran =>
    cases hs'
    exact (h.numbered _ hs).report hran
  | dropped consumed =>
    unfold dropActive at hs'
    split at hs'
    · rename_i hs
      cases hs'
      exact (h.numbered _ hs).output_of_subset fun found rawStatus hmem => mem_loseRead hmem
    · exact h.numbered sess hs'

theorem writing_step (hmoves : Moves m act report m')
    (hunf : Unforged act) : ∀ caller marker, m'.active = some (caller, .writing marker) →
      ∃ sess, m'.session = some sess ∧ marker.sequence = sess.sequence ∧
        sess.process.Below sess.sequence := by
  intro caller marker hafter
  cases hmoves with
  | stay => exact h.writing caller marker hafter
  | started =>
    exact (enter (m := m) (ShellProcess.Below.new _) (by simp)).writing caller marker hafter
  | ran hs _ _ hin =>
    obtain ⟨sess, hs', hmarker, hbelow⟩ := h.writing caller marker hafter
    cases hs.symm.trans hs'
    exact ⟨_, rfl, hmarker, hbelow.run hin hunf⟩
  | reported hs _ hran =>
    obtain ⟨sess, hs', hmarker, hbelow⟩ := h.writing caller marker hafter
    cases hs.symm.trans hs'
    exact ⟨_, rfl, hmarker, hbelow.report hran⟩
  | exited hs =>
    obtain ⟨sess, hs', hmarker, hbelow⟩ := h.writing caller marker hafter
    cases hs.symm.trans hs'
    exact ⟨_, rfl, hmarker, hbelow.exit _⟩
  | shut hfree => cases hfree.symm.trans hafter
  | dropped consumed => cases (active_dropActive m consumed).symm.trans hafter
  | failed | gaveUp | denied | wrote | captured | answered | expired | destroyed => cases hafter

theorem fate_of_wrote {frame} (hmoves : Moves m act (.wrote frame) m') :
    ∃ sess, m'.session = some sess ∧ sess.process.exited = none ∧
      FateOf frame sess.process none := by
  cases hmoves with
  | wrote hact hs hlive =>
    obtain ⟨sess, hs', hmarker, hbelow⟩ := h.writing _ _ hact
    cases hs.symm.trans hs'
    exact ⟨_, rfl, hlive, .write hbelow hmarker⟩

theorem step (hmoves : Moves m act report m') (hunf : Unforged act) : m'.Traced := by
  refine ⟨h.numbered_step hmoves hunf, h.writing_step hmoves hunf, ?_, ?_⟩
  · intro caller marker captured hafter
    rcases hmoves.follow hunf hafter with hwrote | ⟨⟨before, hbef⟩, hfollow⟩
    · obtain ⟨sess, hs, _, hfate⟩ := h.fate_of_wrote (hwrote ▸ hmoves)
      exact ⟨sess, none, hs, hfate⟩
    · obtain ⟨sess, fate, hs, hfate⟩ := h.reading _ _ _ hbef
      obtain ⟨session', hs', hran | hsame⟩ := hfollow sess fate hs hfate
      · obtain ⟨_, status, _, _, hfate'⟩ := hran
        exact ⟨session', some status, hs', hfate'⟩
      · exact ⟨session', fate, hs', hsame.2⟩
  · intro caller res hafter
    cases hmoves with
    | stay => exact h.destroying caller res hafter
    | gaveUp | denied | shut => rfl
    | ran hs | reported hs | exited hs => cases hs.symm.trans (h.destroying caller res hafter)
    | dropped consumed => cases (active_dropActive m consumed).symm.trans hafter
    | started | failed | wrote | captured | answered | expired | destroyed => cases hafter

end Traced

end RootSessionManager

end MishProxy.Session
