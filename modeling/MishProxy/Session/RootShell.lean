import MishProxy.Session.Command

/-!
# The persistent root shell and the call that holds it

One root shell serves all callers. A call of `execute` takes the session lock, starts a shell if
there is none, writes its frame and reads lines until it meets its own marker line. Every await
point is one step, so a call can be dropped between any two steps; a dropped call releases the lock
and leaves the shell as it is.

* `κ` is what the caller wants its result for; a frame remembers it.
* A frame is far below the size up to which a pipe takes a write as a whole, so it is written in
  one step or not at all.
* `ShellAction`: the shell process runs the oldest frame, prints the marker line of the frame it
  has run, and may exit in between.
* An output line is a text or a marker line. What is left of a line that a dropped call had read in
  part is a text.
-/

namespace MishProxy.Session

structure Marker where
  generation : Nat
  sequence : Nat
  deriving DecidableEq, Repr

def Marker.text (marker : Marker) : Text :=
  "__MISH_ROOT_DONE_".toList ++ Text.decimal marker.generation ++ '_' ::
    Text.decimal marker.sequence

structure Frame (κ : Type) where
  marker : Marker
  caller : κ
  deriving DecidableEq

/-! ## What the reader collects -/

/-- An exit status is one byte. -/
instance instNeZeroStatus : NeZero 256 := ⟨by decide⟩

/-- A line as the reader gets it, its line feed included. -/
inductive OutputLine where
  | text (line : Text)
  | marker (found : Marker) (rawStatus : Text)
  deriving DecidableEq

def OutputLine.raw : OutputLine → Text
  | .text line => line
  | .marker found rawStatus => found.text ++ ':' :: rawStatus ++ ['\n']

/-- The marker line `printf` writes for a command that ended with this status. -/
def OutputLine.done (marker : Marker) (status : Fin 256) : OutputLine :=
  .marker marker (Text.decimal status)

def parseStatus (rawStatus : Text) : Option Int :=
  match rawStatus with
  | '-' :: '+' :: _ => none
  | '-' :: digits => (Text.parseRadix 10 (2 ^ 31) digits).map Int.negOfNat
  | _ => (Text.parseRadix 10 (2 ^ 31 - 1) rawStatus).map Int.ofNat

theorem parseStatus_decimal {n : Nat} (h : n < 2 ^ 31) :
    parseStatus (Text.decimal n) = some (n : Int) := by
  have hradix : Text.parseRadix 10 (2 ^ 31 - 1) (Text.decimal n) = some n :=
    Text.parseRadix_decimal (by omega)
  unfold parseStatus
  split
  · rename_i rest heq
    exact absurd heq (Text.decimal_ne (by decide) n _)
  · rename_i rest heq
    exact absurd heq (Text.decimal_ne (by decide) n _)
  · rw [hradix]
    rfl

def byteLength (line : Text) : Nat := (line.map Char.utf8Size).sum

structure Captured where
  stdout : Text
  bytes : Nat
  complete : Bool
  deriving DecidableEq

namespace Captured

def empty : Captured := ⟨[], 0, true⟩

/-- A line that no longer fits into 4096 bytes is left out and the output counts as
incomplete; a later, shorter line may still fit. -/
def push (captured : Captured) (line : OutputLine) : Captured :=
  if captured.bytes + byteLength line.raw ≤ 4096 then
    ⟨captured.stdout ++ line.raw, captured.bytes + byteLength line.raw, captured.complete⟩
  else { captured with complete := false }

def pushAll (captured : Captured) (lines : List OutputLine) : Captured :=
  lines.foldl push captured

end Captured

/-! ## The shell process -/

structure ShellProcess (κ : Type) where
  /-- Frames written and not yet run. -/
  input : List (Frame κ)
  /-- The frame that has been run and whose marker line is not printed yet. -/
  ran : Option (Frame κ × Fin 256)
  output : List OutputLine
  /-- The exit code, if the process has ended and has one. -/
  exited : Option (Option Int)
  deriving DecidableEq

variable {κ : Type}

def ShellProcess.new : ShellProcess κ := ⟨[], none, [], none⟩

inductive ShellAction where
  | run (printed : List OutputLine) (status : Fin 256)
  | reportStatus
  | exit (code : Option Int)
  deriving DecidableEq

structure RootShellSession (κ : Type) where
  generation : Nat
  sequence : Nat
  process : ShellProcess κ
  deriving DecidableEq

/-! ## One call of `execute` -/

inductive ExecuteStage where
  | starting (generation : Nat)
  | writing (marker : Marker)
  | reading (marker : Marker) (captured : Captured)
  /-- The command timed out and the process is being stopped. -/
  | stopping
  /-- The session has been given up and its process is being stopped. -/
  | destroying (result : RootCommandResult)
  deriving DecidableEq

abbrev ExecuteResult := Except RootSessionError RootCommandResult

structure RootSessionManager (κ : Type) where
  session : Option (RootShellSession κ)
  nextGeneration : Nat
  /-- The call that holds the lock. -/
  active : Option (κ × ExecuteStage)

/-- How an await of the active call is answered: it completes, it fails, the command's ten
seconds are over, or it completes with an end of file before the exit status is known. -/
inductive Answer where
  | ready
  | failed
  | expired
  | unreaped
  deriving DecidableEq

inductive Report (κ : Type) where
  | nothing
  | wrote (frame : Frame κ)
  | ran (frame : Frame κ) (printed : List OutputLine) (status : Fin 256)
  | returned (caller : κ) (result : ExecuteResult)
  deriving DecidableEq

/-- No exit status was obtained. -/
def noStatus (generation : Nat) (timedOut : Bool) : RootCommandResult where
  exitCode := -1
  stdout := []
  timedOut := timedOut
  outputComplete := false
  sessionGeneration := generation

def Captured.result (captured : Captured) (generation : Nat) (exitCode : Int) :
    RootCommandResult where
  exitCode := exitCode
  stdout := captured.stdout
  timedOut := false
  outputComplete := captured.complete
  sessionGeneration := generation

/-- At the end of the output: a process that ended with a non-zero code is taken as the
answer to the command. -/
def atEndOfFile (generation : Nat) (captured : Captured) (exitCode : Option Int) :
    RootCommandResult :=
  match exitCode with
  | some code => if code ≠ 0 then captured.result generation code else noStatus generation false
  | none => noStatus generation false

/-- The line that a dropped call had read in part loses what was read. -/
def loseRead (consumed : Nat) : List OutputLine → List OutputLine
  | [] => []
  | line :: rest =>
    if 0 < consumed ∧ consumed < line.raw.length then .text (line.raw.drop consumed) :: rest
    else line :: rest

namespace RootSessionManager

def new : RootSessionManager κ := ⟨none, 1, none⟩

variable (m : RootSessionManager κ)

def withProcess (session : RootShellSession κ) (process : ShellProcess κ) : RootSessionManager κ :=
  { m with session := some { session with process := process } }

/-- The start of `RootShellSession::execute`: the next sequence number names the marker. -/
def enter (caller : κ) (session : RootShellSession κ) : RootSessionManager κ :=
  let sequence := min (session.sequence + 1) (2 ^ 64 - 1)
  { m with
    session := some { session with sequence := sequence }
    active := some (caller, .writing ⟨session.generation, sequence⟩) }

def acquire (caller : κ) : Report κ × RootSessionManager κ :=
  match m.active with
  | some _ => (.nothing, m)
  | none =>
    match m.session with
    | some session => (.nothing, m.enter caller session)
    | none =>
      if m.nextGeneration + 1 < 2 ^ 64 then
        (.nothing, { m with
          nextGeneration := m.nextGeneration + 1
          active := some (caller, .starting m.nextGeneration) })
      else (.returned caller (.error .stateUnavailable), m)

/-- The transport is unhealthy: the session is taken out and destroyed. -/
def giveUp (caller : κ) (result : RootCommandResult) : RootSessionManager κ :=
  { m with session := none, active := some (caller, .destroying result) }

def finish (caller : κ) (result : ExecuteResult) : Report κ × RootSessionManager κ :=
  (.returned caller result, { m with active := none })

def write (caller : κ) (marker : Marker) (answer : Answer)
    (session : RootShellSession κ) : Report κ × RootSessionManager κ :=
  if answer = .failed ∨ session.process.exited.isSome then
    (.nothing, m.giveUp caller (noStatus session.generation false))
  else if answer = .ready then
    let frame : Frame κ := ⟨marker, caller⟩
    let process := { session.process with input := session.process.input ++ [frame] }
    (.wrote frame, { m.withProcess session process with
      active := some (caller, .reading marker .empty) })
  else (.nothing, m)

/-- One line of the read loop. -/
def readLine (caller : κ) (marker : Marker) (captured : Captured)
    (session : RootShellSession κ) (line : OutputLine) (rest : List OutputLine) :
    Report κ × RootSessionManager κ :=
  let m := m.withProcess session { session.process with output := rest }
  let other := { m with active := some (caller, .reading marker (captured.push line)) }
  match line with
  | .text _ => (.nothing, other)
  | .marker found rawStatus =>
    if found = marker then
      match parseStatus rawStatus with
      | some exitCode => m.finish caller (.ok (captured.result session.generation exitCode))
      | none => (.nothing, m.giveUp caller (noStatus session.generation false))
    else (.nothing, other)

def read (caller : κ) (marker : Marker) (captured : Captured)
    (answer : Answer) (session : RootShellSession κ) : Report κ × RootSessionManager κ :=
  match answer with
  | .failed => (.nothing, m.giveUp caller (noStatus session.generation false))
  | .expired =>
    let process := { session.process with exited := some (session.process.exited.getD none) }
    (.nothing, { m.withProcess session process with active := some (caller, .stopping) })
  | _ =>
    match session.process.output, session.process.exited with
    | line :: rest, _ => m.readLine caller marker captured session line rest
    | [], none => (.nothing, m)
    | [], some code =>
      let exitCode := if answer = .unreaped then none else code
      (.nothing, m.giveUp caller (atEndOfFile session.generation captured exitCode))

def advance (answer : Answer) : Report κ × RootSessionManager κ :=
  match m.active, m.session with
  | none, _ => (.nothing, m)
  | some (caller, .starting generation), _ =>
    match answer with
    | .ready => (.nothing, m.enter caller ⟨generation, 0, .new⟩)
    | .failed => m.finish caller (.error .spawnUnavailable)
    | _ => (.nothing, m)
  | some (caller, .writing marker), some session => m.write caller marker answer session
  | some (caller, .reading marker captured), some session =>
    m.read caller marker captured answer session
  | some (caller, .stopping), some session =>
    (.nothing, m.giveUp caller (noStatus session.generation true))
  | some (caller, .destroying result), _ => m.finish caller (.ok result)
  | some (caller, _), none => m.finish caller (.error .stateUnavailable)

/-- The future of the active call is dropped; `consumed` characters of the next line had
been read. -/
def dropActive (consumed : Nat) : RootSessionManager κ :=
  match m.active, m.session with
  | some (_, .reading _ _), some session =>
    let process :=
      { session.process with output := loseRead consumed session.process.output }
    { m.withProcess session process with active := none }
  | _, _ => { m with active := none }

def shutdown : RootSessionManager κ :=
  match m.active with
  | some _ => m
  | none => { m with session := none }

def shell (action : ShellAction) : Report κ × RootSessionManager κ :=
  match m.session with
  | none => (.nothing, m)
  | some session =>
    let p := session.process
    match p.exited, action, p.ran, p.input with
    | none, .run printed status, none, frame :: rest =>
      (.ran frame printed status, m.withProcess session
        { p with input := rest, ran := some (frame, status), output := p.output ++ printed })
    | none, .reportStatus, some (frame, status), _ =>
      (.nothing, m.withProcess session
        { p with ran := none, output := p.output ++ [.done frame.marker status] })
    | none, .exit code, _, _ => (.nothing, m.withProcess session { p with exited := some code })
    | _, _, _, _ => (.nothing, m)

end RootSessionManager

/-- What happens to the session while nobody takes the lock. -/
inductive SessionAction where
  | advance (answer : Answer)
  | dropActive (consumed : Nat)
  | shutdown
  | shell (action : ShellAction)
  deriving DecidableEq

def RootSessionManager.step (m : RootSessionManager κ) :
    SessionAction → Report κ × RootSessionManager κ
  | .advance answer => m.advance answer
  | .dropActive consumed => (.nothing, m.dropActive consumed)
  | .shutdown => (.nothing, m.shutdown)
  | .shell action => m.shell action

end MishProxy.Session
