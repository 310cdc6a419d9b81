import MishProxy.Machine.Pool
import MishProxy.Product.Lifecycle
import MishProxy.Text.Basic

/-!
# The product runtime

Requests to start and to stop, platform mutations of a stopped product, and the tasks that start
and stop a generation. Each section under the lock of the runtime is one step; the executor's
decision about a task, the work of a start between its sections and the beginning of a cleanup are
steps of their own. The environment answers whether the executor accepts a task, whether a
generation can be built, whether a start succeeds and whether a cleanup is clean. Once the executor
has rejected a task it rejects all later ones.

Two facts about the past are kept beside the state, newest first: which objects passed the entry
check of `run_start` and which objects a cleanup was begun for.

* `ProductMove` lists what a section can do, and `proceed_move` says that the list is complete.
* `lease_excludes_running`: while the product is starting or running, there is no lease and the
  generation is not marked, when every restart finds it so. A restart is a second section after the
  one that completed the stop, and it looks at neither; `restarted_under_lease` is a mutation that
  begins between the two.
-/

namespace MishProxy.Product

open Machine Text RuntimeLifecycle

structure ProductStartInput where
  credentialVersion : Option Nat
  username : Option Text
  password : Option Text
  deriving DecidableEq

/-- A built generation. Its serial number tells objects apart, as pointer equality does. -/
structure ProductGeneration where
  number : Nat
  serial : Nat
  deriving DecidableEq

inductive GenerationEvent where
  | entered (generation : ProductGeneration)
  | cleaning (generation : ProductGeneration)
  deriving DecidableEq

def GenerationEvent.generation : GenerationEvent → ProductGeneration
  | .entered generation => generation
  | .cleaning generation => generation

structure ProductRuntime where
  lifecycle : RuntimeLifecycle
  generation : ProductGeneration
  pendingStart : Option ProductStartInput
  platformMutationEpoch : Nat
  activePlatformMutation : Option Nat
  closed : Bool
  /-- The executor has rejected a task. -/
  executorRejects : Bool
  history : List GenerationEvent

inductive ProductCall where
  | requestStart (input : ProductStartInput)
  | requestStop
  | beginStoppedPlatformMutation
  | completeStoppedPlatformMutation (lease : Nat) (succeeded : Bool)
  | shutdownBlocking
  deriving DecidableEq

/-- What a call or a task of the executor does next. -/
inductive ProductTask where
  | call (call : ProductCall)
  | spawnStart (expected : Nat) (input : ProductStartInput)
  | startSubmissionFailed
  | runStart (expected : Nat) (input : ProductStartInput)
  | startOwners (expected : Nat) (generation : ProductGeneration)
  | completeStart (expected : Nat)
  | finishFailedStart (expected : Nat) (generation : ProductGeneration)
  | cleanFailedStart (expected : Nat) (generation : ProductGeneration)
  | completeFailedStart (expected : Nat)
  | spawnStop (expected : Nat)
  | stopSubmissionFailed
  | runStop (expected : Nat)
  | cleanStop (expected : Nat) (generation : ProductGeneration)
  | completeStop (expected : Nat)
  | restart (input : ProductStartInput)
  | readShutdown
  | cleanShutdown (generation : ProductGeneration)
  | shutdownExecutor
  deriving DecidableEq

structure ProductAnswers where
  accepted : Bool
  built : Bool
  succeeded : Bool
  clean : Bool
  deriving DecidableEq

namespace ProductRuntime

def new : ProductRuntime where
  lifecycle := .new
  generation := ⟨1, 0⟩
  pendingStart := none
  platformMutationEpoch := 0
  activePlatformMutation := none
  closed := false
  executorRejects := false
  history := []

def buildGeneration (number : Nat) (built : Bool) (s : ProductRuntime) : Option ProductGeneration :=
  if built then some ⟨number, s.generation.serial + 1⟩ else none

/-- Builds and installs a generation of the present number, or marks the stopped one. -/
def installFreshGeneration (built : Bool) (s : ProductRuntime) : Bool × ProductRuntime :=
  match s.buildGeneration s.lifecycle.generation built with
  | some generation => (true, { s with generation })
  | none => (false, { s with lifecycle := s.lifecycle.markStoppedGenerationDirty })

/-! ## Calls -/

def requestStart (input : ProductStartInput) (built : Bool) (s : ProductRuntime) :
    ProductRuntime × List ProductTask :=
  if s.closed || s.activePlatformMutation.isSome then (s, [])
  else
    match s.lifecycle.requestStart with
    | (.alreadyActive, lifecycle) => ({ s with lifecycle }, [])
    | (.queuedAfterStop, lifecycle) => ({ s with lifecycle, pendingStart := some input }, [])
    | (.startNow, lifecycle) =>
      if lifecycle.generationRequiresReplacement then
        match lifecycle.takeGenerationReplacementForStart with
        | (false, lifecycle) => ({ s with lifecycle := lifecycle.startSubmissionFailed }, [])
        | (true, lifecycle) =>
          match s.buildGeneration lifecycle.generation built with
          | none =>
            ({ s with lifecycle := lifecycle.startSubmissionFailed.markStoppedGenerationDirty }, [])
          | some generation =>
            ({ s with lifecycle, generation, pendingStart := none },
              [.spawnStart lifecycle.generation input])
      else ({ s with lifecycle, pendingStart := none }, [.spawnStart lifecycle.generation input])

def beginStoppedPlatformMutation (s : ProductRuntime) : ProductRuntime :=
  if s.closed || s.activePlatformMutation.isSome || !s.lifecycle.canMutateStoppedGeneration then s
  else if s.platformMutationEpoch < maxGeneration then
    { s with
      platformMutationEpoch := s.platformMutationEpoch + 1
      activePlatformMutation := some (s.platformMutationEpoch + 1) }
  else { s with lifecycle := s.lifecycle.markStoppedGenerationDirty }

def completeStoppedPlatformMutation (lease : Nat) (succeeded built : Bool) (s : ProductRuntime) :
    ProductRuntime :=
  if s.closed || s.activePlatformMutation != some lease then s
  else
    let s := { s with activePlatformMutation := none }
    if !succeeded || !s.lifecycle.canMutateStoppedGeneration then
      { s with lifecycle := s.lifecycle.markStoppedGenerationDirty }
    else
      match s.lifecycle.advanceStoppedGeneration with
      | (false, lifecycle) => { s with lifecycle := lifecycle.markStoppedGenerationDirty }
      | (true, lifecycle) => ({ s with lifecycle }.installFreshGeneration built).2

def requestStop (s : ProductRuntime) : ProductRuntime × List ProductTask :=
  if s.closed then (s, [])
  else
    match s.lifecycle.requestStop with
    | (.stopNow, lifecycle) => ({ s with lifecycle }, [.spawnStop lifecycle.generation])
    | (_, lifecycle) => ({ s with lifecycle }, [])

def shutdownBlocking (s : ProductRuntime) : ProductRuntime × List ProductTask :=
  if s.closed then (s, [])
  else ({ s with closed := true, pendingStart := none }, [.readShutdown])

def proceedCall (answers : ProductAnswers) (s : ProductRuntime) :
    ProductCall → ProductRuntime × List ProductTask
  | .requestStart input => s.requestStart input answers.built
  | .requestStop => s.requestStop
  | .beginStoppedPlatformMutation => (s.beginStoppedPlatformMutation, [])
  | .completeStoppedPlatformMutation lease succeeded =>
    (s.completeStoppedPlatformMutation lease succeeded answers.built, [])
  | .shutdownBlocking => s.shutdownBlocking

/-! ## Tasks -/

/-- The executor takes a task or rejects it. -/
def spawn (task failed : ProductTask) (accepted : Bool) (s : ProductRuntime) :
    ProductRuntime × List ProductTask :=
  if accepted && !s.executorRejects then (s, [task])
  else ({ s with executorRejects := true }, [failed])

/-- The product is starting the expected generation and is not closed. -/
def stillStarting (expected : Nat) (s : ProductRuntime) : Bool :=
  !s.closed && s.lifecycle.generation = expected && s.lifecycle.state = .starting

def runStart (expected : Nat) (s : ProductRuntime) : ProductRuntime × List ProductTask :=
  if s.stillStarting expected && s.generation.number = expected then
    ({ s with history := .entered s.generation :: s.history }, [.startOwners expected s.generation])
  else (s, [])

def completeStart (expected : Nat) (s : ProductRuntime) : ProductRuntime :=
  if s.stillStarting expected then { s with lifecycle := (s.lifecycle.completeStart true true).2 }
  else s

def completeFailedStartAfterCleanup (expected : Nat) (clean built : Bool) (s : ProductRuntime) :
    ProductRuntime :=
  if s.stillStarting expected then
    match s.lifecycle.completeStart false clean with
    | (false, lifecycle) => { s with lifecycle }
    | (true, lifecycle) => ({ s with lifecycle }.installFreshGeneration built).2
  else s

def completeStopAfterCleanup (expected : Nat) (clean built : Bool) (s : ProductRuntime) :
    ProductRuntime × List ProductTask :=
  if s.closed || s.lifecycle.generation != expected || s.lifecycle.state != .stopping then (s, [])
  else
    let (disposition, lifecycle) := s.lifecycle.completeStop clean
    let s := { s with lifecycle }
    let (rebound, s) :=
      if disposition.installFreshGenerationNow then s.installFreshGeneration built else (false, s)
    ({ s with pendingStart := none },
      if disposition.restartNow && rebound then (s.pendingStart.map .restart).toList else [])

/-- The section of a restart; the start itself goes on in the same task. -/
def restart (input : ProductStartInput) (s : ProductRuntime) : ProductRuntime × List ProductTask :=
  match s.lifecycle.requestStart with
  | (.startNow, lifecycle) => ({ s with lifecycle }, [.runStart lifecycle.generation input])
  | (_, lifecycle) => ({ s with lifecycle }, [])

def beginCleanup (generation : ProductGeneration) (next : ProductTask) (s : ProductRuntime) :
    ProductRuntime × List ProductTask :=
  ({ s with history := .cleaning generation :: s.history }, [next])

def proceed (task : ProductTask) (answers : ProductAnswers) (s : ProductRuntime) :
    ProductRuntime × List ProductTask :=
  match task with
  | .call call => s.proceedCall answers call
  | .spawnStart expected input =>
    s.spawn (.runStart expected input) .startSubmissionFailed answers.accepted
  | .startSubmissionFailed => ({ s with lifecycle := s.lifecycle.startSubmissionFailed }, [])
  | .runStart expected _ => s.runStart expected
  | .startOwners expected generation =>
    (s, [if answers.succeeded then .completeStart expected
      else .finishFailedStart expected generation])
  | .completeStart expected => (s.completeStart expected, [])
  | .finishFailedStart expected generation =>
    (s, if s.stillStarting expected && s.generation = generation then
      [.cleanFailedStart expected generation] else [])
  | .cleanFailedStart expected generation =>
    s.beginCleanup generation (.completeFailedStart expected)
  | .completeFailedStart expected =>
    (s.completeFailedStartAfterCleanup expected answers.clean answers.built, [])
  | .spawnStop expected => s.spawn (.runStop expected) .stopSubmissionFailed answers.accepted
  | .stopSubmissionFailed => ({ s with lifecycle := s.lifecycle.stopSubmissionFailed }, [])
  | .runStop expected =>
    (s, if s.lifecycle.generation = expected ∧ s.lifecycle.state = .stopping then
      [.cleanStop expected s.generation] else [])
  | .cleanStop expected generation => s.beginCleanup generation (.completeStop expected)
  | .completeStop expected => s.completeStopAfterCleanup expected answers.clean answers.built
  | .restart input => s.restart input
  | .readShutdown => (s, [.cleanShutdown s.generation])
  | .cleanShutdown generation => s.beginCleanup generation .shutdownExecutor
  | .shutdownExecutor => ({ s with executorRejects := true }, [])

end ProductRuntime

def productProtocol : Protocol ProductRuntime ProductCall ProductTask ProductAnswers where
  first := .call
  proceed := ProductRuntime.proceed

abbrev ProductPool : Type := Pool ProductRuntime ProductTask

abbrev ProductAction : Type := PoolAction ProductCall ProductTask ProductAnswers

def runProduct (actions : List ProductAction) : ProductPool :=
  run (Pool.step productProtocol) (.init .new) actions

/-! ## What a section can do -/

/-- What most sections keep. Only a stopped product gets a lease. -/
structure Same (s next : ProductRuntime) : Prop where
  state : next.lifecycle.state = s.lifecycle.state
  number : next.lifecycle.generation = s.lifecycle.generation
  marked : next.lifecycle.generationRequiresReplacement = s.lifecycle.generationRequiresReplacement
  generation : next.generation = s.generation
  lease : next.activePlatformMutation.isSome = true →
    s.activePlatformMutation.isSome = true ∨ s.lifecycle.state = .stopped
  closed : next.closed = s.closed
  rejects : next.executorRejects = s.executorRejects
  history : next.history = s.history

theorem Same.refl (s) : Same s s := ⟨rfl, rfl, rfl, rfl, .inl, rfl, rfl, rfl⟩

/-- The product is stopped, perhaps after the number has advanced. -/
structure Halted (s next : ProductRuntime) : Prop where
  state : next.lifecycle.state = .stopped
  number : next.lifecycle.generation = s.lifecycle.generation ∨
    next.lifecycle.generation = s.lifecycle.generation + 1
  generation : next.generation = s.generation
  closed : next.closed = s.closed
  rejects : next.executorRejects = s.executorRejects
  history : next.history = s.history

/-- The tasks that can neither start a generation nor clean one up before another section has
looked at the lifecycle. -/
def ProductTask.plain : ProductTask → Bool
  | .completeStart _ | .completeFailedStart _ | .spawnStop _ | .stopSubmissionFailed | .runStop _
  | .completeStop _ | .shutdownExecutor => true
  | _ => false

inductive ProductMove (s : ProductRuntime) : ProductTask → ProductRuntime → List ProductTask → Prop
  | pass {task next left}
      (hsame : Same s next) (hplain : ∀ task ∈ left, task.plain = true) :
      ProductMove s task next left
  /-- An unmarked stopped product is granted a start. -/
  | grant {input} (hstate : s.lifecycle.state = .stopped)
      (hunmarked : s.lifecycle.generationRequiresReplacement = false)
      (hlease : s.activePlatformMutation = none) (hopen : s.closed = false) :
      ProductMove s (.call (.requestStart input))
        { s with lifecycle := { s.lifecycle with state := .starting }, pendingStart := none }
        [.spawnStart s.lifecycle.generation input]
  /-- A marked stopped product is granted a start of the next generation. -/
  | renew {input} (hstate : s.lifecycle.state = .stopped)
      (hlease : s.activePlatformMutation = none) (hopen : s.closed = false) :
      ProductMove s (.call (.requestStart input))
        { s with
          lifecycle := { s.lifecycle with
            state := .starting
            generation := s.lifecycle.generation + 1
            generationRequiresReplacement := false }
          generation := ⟨s.lifecycle.generation + 1, s.generation.serial + 1⟩
          pendingStart := none }
        [.spawnStart (s.lifecycle.generation + 1) input]
  | mark {task next} (hhalted : Halted s next)
      (hmarked : next.lifecycle.generationRequiresReplacement = true) : ProductMove s task next []
  /-- A fresh generation is installed. Only the end of a stop leaves a restart. -/
  | refresh {task next left}
      (hhalted : Halted s next) (hunmarked : next.lifecycle.generationRequiresReplacement = false)
      (hnumber : next.lifecycle.generation = s.lifecycle.generation + 1)
      (hleft : left = [] ∨ s.lifecycle.state = .stopping ∧ ∃ input, left = [.restart input]) :
      ProductMove s task
        { next with generation := ⟨s.lifecycle.generation + 1, s.generation.serial + 1⟩ } left
  | accept {expected input} (hrejects : s.executorRejects = false) :
      ProductMove s (.spawnStart expected input) s [.runStart expected input]
  | reject {expected input} :
      ProductMove s (.spawnStart expected input) { s with executorRejects := true }
        [.startSubmissionFailed]
  | refuse {task left} (hplain : ∀ task ∈ left, task.plain = true) :
      ProductMove s task { s with executorRejects := true } left
  | abort (hstate : s.lifecycle.state = .starting) :
      ProductMove s .startSubmissionFailed
        { s with lifecycle := { s.lifecycle with state := .stopped } } []
  | enter {expected input} (hopen : s.closed = false)
      (hstate : s.lifecycle.state = .starting) (hnumber : s.lifecycle.generation = expected)
      (hgeneration : s.generation.number = expected) :
      ProductMove s (.runStart expected input)
        { s with history := .entered s.generation :: s.history }
        [.startOwners expected s.generation]
  | run {expected} (hstate : s.lifecycle.state = .starting) :
      ProductMove s (.completeStart expected)
        { s with lifecycle := { s.lifecycle with state := .running } } []
  | fail {expected generation} :
      ProductMove s (.startOwners expected generation) s [.finishFailedStart expected generation]
  | abandon {expected generation} :
      ProductMove s (.finishFailedStart expected generation) s
        [.cleanFailedStart expected generation]
  | cleanFailedStart {expected generation} :
      ProductMove s (.cleanFailedStart expected generation)
        { s with history := .cleaning generation :: s.history } [.completeFailedStart expected]
  | halt (hstate : s.lifecycle.state = .starting ∨ s.lifecycle.state = .running) :
      ProductMove s (.call .requestStop)
        { s with lifecycle := { s.lifecycle with state := .stopping } }
        [.spawnStop s.lifecycle.generation]
  | stop {expected} (hstate : s.lifecycle.state = .stopping) :
      ProductMove s (.runStop expected) s [.cleanStop expected s.generation]
  | cleanStop {expected generation} :
      ProductMove s (.cleanStop expected generation)
        { s with history := .cleaning generation :: s.history } [.completeStop expected]
  | restart {input} (hstate : s.lifecycle.state = .stopped) :
      ProductMove s (.restart input) { s with lifecycle := { s.lifecycle with state := .starting } }
        [.runStart s.lifecycle.generation input]
  | close : ProductMove s (.call .shutdownBlocking)
      { s with closed := true, pendingStart := none } [.readShutdown]
  | readShutdown : ProductMove s .readShutdown s [.cleanShutdown s.generation]
  | cleanShutdown {generation} :
      ProductMove s (.cleanShutdown generation)
        { s with history := .cleaning generation :: s.history } [.shutdownExecutor]

section

variable {s : ProductRuntime} {task : ProductTask}

theorem keep_move {next} (hsame : Same s next) : ProductMove s task next [] := .pass hsame (by simp)

theorem stay_move : ProductMove s task s [] := keep_move (.refl s)

theorem markStoppedGenerationDirty_move {stopped} (h : Halted s stopped) : ProductMove s task
      { stopped with lifecycle := stopped.lifecycle.markStoppedGenerationDirty } [] := by
  have hmark : stopped.lifecycle.markStoppedGenerationDirty =
      { stopped.lifecycle with generationRequiresReplacement := true } := if_pos h.state
  rw [hmark]
  exact .mark ⟨h.state, h.number, h.generation, h.closed, h.rejects, h.history⟩ rfl

/-- Both ends of an attempt to install a generation of a number that has just advanced. -/
theorem installFreshGeneration_move {stopped} (h : Halted s stopped)
    (hunm : stopped.lifecycle.generationRequiresReplacement = false)
    (hnum : stopped.lifecycle.generation = s.lifecycle.generation + 1) (built : Bool) :
    ProductMove s task (stopped.installFreshGeneration built).2 [] := by
  cases built with
  | true =>
    have hinst : (stopped.installFreshGeneration true).2 =
        { stopped with generation := ⟨s.lifecycle.generation + 1, s.generation.serial + 1⟩ } := by
      rw [← hnum, ← h.generation]
      rfl
    rw [hinst]
    exact .refresh h hunm hnum (.inl rfl)
  | false => exact markStoppedGenerationDirty_move h

theorem requestStart_move (s input built) :
    ProductMove s (.call (.requestStart input)) (s.requestStart input built).1
      (s.requestStart input built).2 := by
  obtain ⟨⟨state, restarts, marked, number⟩, gen, pending, epoch, lease, closed, rejects, hist⟩ := s
  cases closed with
  | true => exact stay_move
  | false =>
    cases lease with
    | some lease => exact stay_move
    | none =>
      cases state with
      | starting | running => exact stay_move
      | stopping => exact keep_move ⟨rfl, rfl, rfl, rfl, .inl, rfl, rfl, rfl⟩
      | stopped =>
        cases marked with
        | false => exact .grant rfl rfl rfl rfl
        | true =>
          by_cases hmax : number < maxGeneration
          · simp only [ProductRuntime.requestStart, requestStart,
              takeGenerationReplacementForStart, advanceGeneration, if_pos hmax]
            cases built with
            | true => exact .renew rfl rfl rfl
            | false => exact .mark ⟨rfl, .inr rfl, rfl, rfl, rfl, rfl⟩ rfl
          · simp only [ProductRuntime.requestStart, requestStart,
              takeGenerationReplacementForStart, advanceGeneration, if_neg hmax]
            exact .mark ⟨rfl, .inl rfl, rfl, rfl, rfl, rfl⟩ rfl

theorem beginStoppedPlatformMutation_move (s) :
    ProductMove s (.call .beginStoppedPlatformMutation) s.beginStoppedPlatformMutation [] := by
  unfold ProductRuntime.beginStoppedPlatformMutation
  split_ifs with href hepoch
  · exact stay_move
  all_goals
    have hstop : s.lifecycle.canMutateStoppedGeneration = true := by
      by_contra hnot
      exact href (by simp [Bool.eq_false_iff.mpr hnot])
    have hst := (canMutateStoppedGeneration_iff.mp hstop).1
  · exact keep_move ⟨rfl, rfl, rfl, rfl, fun _ => .inr hst, rfl, rfl, rfl⟩
  · exact markStoppedGenerationDirty_move ⟨hst, .inl rfl, rfl, rfl, rfl, rfl⟩

theorem completeStoppedPlatformMutation_move (s lease succeeded built) :
    ProductMove s (.call (.completeStoppedPlatformMutation lease succeeded))
      (s.completeStoppedPlatformMutation lease succeeded built) [] := by
  unfold ProductRuntime.completeStoppedPlatformMutation
  dsimp only
  split_ifs with href hfail
  · exact stay_move
  · by_cases hstop : s.lifecycle.state = .stopped
    · have hhalt : Halted s { s with activePlatformMutation := none } :=
        ⟨hstop, .inl rfl, rfl, rfl, rfl, rfl⟩
      exact markStoppedGenerationDirty_move hhalt
    · rw [markStoppedGenerationDirty_of_not_stopped hstop]
      exact keep_move ⟨rfl, rfl, rfl, rfl, by simp, rfl, rfl, rfl⟩
  · have hmutable : s.lifecycle.canMutateStoppedGeneration = true := by
      by_contra hnot
      exact hfail (by simp [Bool.eq_false_iff.mpr hnot])
    obtain ⟨hst, hunm⟩ := canMutateStoppedGeneration_iff.mp hmutable
    rw [advanceStoppedGeneration_of_mutable hmutable]
    rcases s.lifecycle.advanceGeneration_cases with hadv | hadv
    · rw [hadv]
      have hhalt : Halted s { s with
          lifecycle := { s.lifecycle with generation := s.lifecycle.generation + 1 }
          activePlatformMutation := none } := ⟨hst, .inr rfl, rfl, rfl, rfl, rfl⟩
      exact installFreshGeneration_move hhalt hunm rfl built
    · rw [hadv]
      have hhalt : Halted s { s with activePlatformMutation := none } :=
        ⟨hst, .inl rfl, rfl, rfl, rfl, rfl⟩
      exact markStoppedGenerationDirty_move hhalt

theorem requestStop_move (s) :
    ProductMove s (.call .requestStop) s.requestStop.1 s.requestStop.2 := by
  obtain ⟨⟨state, restarts, marked, number⟩, gen, pending, epoch, lease, closed, rejects, hist⟩ := s
  cases closed with
  | true => exact stay_move
  | false =>
    cases state with
    | stopped => exact stay_move
    | stopping => exact keep_move ⟨rfl, rfl, rfl, rfl, .inl, rfl, rfl, rfl⟩
    | starting => exact .halt (.inl rfl)
    | running => exact .halt (.inr rfl)

theorem stillStarting_iff {expd : Nat} : s.stillStarting expd = true ↔
      s.closed = false ∧ s.lifecycle.generation = expd ∧ s.lifecycle.state = .starting := by
  simp [ProductRuntime.stillStarting, and_assoc]

theorem runStart_move (s expd input) :
    ProductMove s (.runStart expd input) (s.runStart expd).1 (s.runStart expd).2 := by
  unfold ProductRuntime.runStart
  split_ifs with hent
  · simp only [Bool.and_eq_true, stillStarting_iff, decide_eq_true_eq] at hent
    obtain ⟨⟨hopen, hnum, hst⟩, hgen⟩ := hent
    exact .enter hopen hst hnum hgen
  · exact stay_move

theorem completeStart_move (s expd) :
    ProductMove s (.completeStart expd) (s.completeStart expd) [] := by
  unfold ProductRuntime.completeStart
  split_ifs with hstarting
  · have hst := (stillStarting_iff.mp hstarting).2.2
    simp only [completeStart, hst, ne_eq, not_true_eq_false, if_false, if_true]
    exact .run hst
  · exact stay_move

theorem completeFailedStartAfterCleanup_move (s expd clean built) :
    ProductMove s (.completeFailedStart expd)
      (s.completeFailedStartAfterCleanup expd clean built) [] := by
  unfold ProductRuntime.completeFailedStartAfterCleanup
  split_ifs with hstarting
  · have hst := (stillStarting_iff.mp hstarting).2.2
    rcases completeStart_failed_cases hst clean with hcomp | hcomp
    · rw [hcomp]
      have hhalt : Halted s { s with
          lifecycle := { s.lifecycle with
            state := .stopped
            generation := s.lifecycle.generation + 1
            generationRequiresReplacement := false } } := ⟨rfl, .inr rfl, rfl, rfl, rfl, rfl⟩
      exact installFreshGeneration_move hhalt rfl rfl built
    · rw [hcomp]
      exact .mark ⟨rfl, .inl rfl, rfl, rfl, rfl, rfl⟩ rfl
  · exact stay_move

theorem restart_cases (wanted : Bool) (pending : Option ProductStartInput) :
    (if wanted = true then (pending.map ProductTask.restart).toList else []) = [] ∨
      ∃ input, (if wanted = true then (pending.map ProductTask.restart).toList else []) =
        [.restart input] := by
  cases wanted with
  | false => exact .inl rfl
  | true =>
    cases pending with
    | none => exact .inl rfl
    | some input => exact .inr ⟨input, rfl⟩

theorem completeStopAfterCleanup_move (s expd clean built) :
    ProductMove s (.completeStop expd) (s.completeStopAfterCleanup expd clean built).1
      (s.completeStopAfterCleanup expd clean built).2 := by
  unfold ProductRuntime.completeStopAfterCleanup
  by_cases href :
      (s.closed || s.lifecycle.generation != expd || s.lifecycle.state != .stopping) = true
  · rw [if_pos href]
    exact stay_move
  rw [if_neg href]
  have hst : s.lifecycle.state = .stopping := by
    by_contra hnot
    exact href (by simp [hnot])
  rcases s.lifecycle.completeStop_cases clean with hcomp | hcomp
  · have hhalt : Halted s { s with
        lifecycle := { s.lifecycle with
          state := .stopped
          restartAfterStop := false
          generation := s.lifecycle.generation + 1
          generationRequiresReplacement := false }
        pendingStart := none } := ⟨rfl, .inr rfl, rfl, rfl, rfl, rfl⟩
    rw [hcomp]
    cases built with
    | false =>
      cases hrestart : s.lifecycle.restartAfterStop with
      | true | false => exact markStoppedGenerationDirty_move hhalt
    | true =>
      refine .refresh hhalt rfl rfl ?_
      rcases restart_cases (s.lifecycle.restartAfterStop && true) s.pendingStart with
        hleft | ⟨input, hleft⟩
      · exact .inl hleft
      · exact .inr ⟨hst, input, hleft⟩
  · rw [hcomp]
    exact .mark ⟨rfl, .inl rfl, rfl, rfl, rfl, rfl⟩ rfl

theorem restart_move (s input) :
    ProductMove s (.restart input) (s.restart input).1 (s.restart input).2 := by
  obtain ⟨⟨state, restarts, marked, number⟩, gen, pending, epoch, lease, closed, rejects, hist⟩ := s
  cases state with
  | stopped => exact .restart rfl
  | starting | running => exact stay_move
  | stopping => exact keep_move ⟨rfl, rfl, rfl, rfl, .inl, rfl, rfl, rfl⟩

theorem spawnStart_move (s expd input accepted) : ProductMove s (.spawnStart expd input)
      (s.spawn (.runStart expd input) .startSubmissionFailed accepted).1
      (s.spawn (.runStart expd input) .startSubmissionFailed accepted).2 := by
  unfold ProductRuntime.spawn
  split_ifs with hacc
  · rw [Bool.and_eq_true, Bool.not_eq_true'] at hacc
    exact .accept hacc.2
  · exact .reject

theorem spawnStop_move (s expd accepted) : ProductMove s (.spawnStop expd)
      (s.spawn (.runStop expd) .stopSubmissionFailed accepted).1
      (s.spawn (.runStop expd) .stopSubmissionFailed accepted).2 := by
  unfold ProductRuntime.spawn
  split_ifs
  · exact .pass (.refl s) (by simp [ProductTask.plain])
  · exact .refuse (by simp [ProductTask.plain])

theorem proceed_move (s task answers) :
    ProductMove s task (s.proceed task answers).1 (s.proceed task answers).2 := by
  cases task with
  | call call =>
    cases call with
    | requestStart input => exact requestStart_move s input answers.built
    | requestStop => exact requestStop_move s
    | beginStoppedPlatformMutation => exact beginStoppedPlatformMutation_move s
    | completeStoppedPlatformMutation lease succeeded =>
      exact completeStoppedPlatformMutation_move s lease succeeded answers.built
    | shutdownBlocking =>
      simp only [ProductRuntime.proceed, ProductRuntime.proceedCall,
        ProductRuntime.shutdownBlocking]
      split_ifs
      · exact stay_move
      · exact .close
  | spawnStart expd input => exact spawnStart_move s expd input answers.accepted
  | startSubmissionFailed =>
    simp only [ProductRuntime.proceed, startSubmissionFailed]
    split_ifs with hst
    · exact .abort hst
    · exact stay_move
  | runStart expd input => exact runStart_move s expd input
  | startOwners expd gen =>
    simp only [ProductRuntime.proceed]
    split_ifs
    · exact .pass (.refl s) (by simp [ProductTask.plain])
    · exact .fail
  | completeStart expd => exact completeStart_move s expd
  | finishFailedStart expd gen =>
    simp only [ProductRuntime.proceed]
    split_ifs
    · exact .abandon
    · exact stay_move
  | cleanFailedStart expd gen => exact .cleanFailedStart
  | completeFailedStart expd =>
    exact completeFailedStartAfterCleanup_move s expd answers.clean answers.built
  | spawnStop expd => exact spawnStop_move s expd answers.accepted
  | stopSubmissionFailed =>
    simp only [ProductRuntime.proceed, stopSubmissionFailed]
    split_ifs
    · exact keep_move ⟨rfl, rfl, rfl, rfl, .inl, rfl, rfl, rfl⟩
    · exact stay_move
  | runStop expd =>
    simp only [ProductRuntime.proceed]
    split_ifs with hstpg
    · exact .stop hstpg.2
    · exact stay_move
  | cleanStop expd gen => exact .cleanStop
  | completeStop expd => exact completeStopAfterCleanup_move s expd answers.clean answers.built
  | restart input => exact restart_move s input
  | readShutdown => exact .readShutdown
  | cleanShutdown gen => exact .cleanShutdown
  | shutdownExecutor =>
    have hleft : ∀ task ∈ ([] : List ProductTask), task.plain = true := by simp
    exact .refuse hleft

end

/-! ## Leases -/

def RuntimeLifecycleState.Active (state : RuntimeLifecycleState) : Prop :=
  state = .starting ∨ state = .running

namespace ProductRuntime

/-- No lease is out and the generation is not marked. -/
def Free (s : ProductRuntime) : Prop :=
  s.activePlatformMutation = none ∧ s.lifecycle.generationRequiresReplacement = false

instance (s : ProductRuntime) : Decidable s.Free := inferInstanceAs (Decidable (_ ∧ _))

/-- A lease excludes a product that starts or runs. -/
def LeaseExcludes (s : ProductRuntime) : Prop := s.lifecycle.state.Active → s.Free

end ProductRuntime

def ProductTask.isRestart : ProductTask → Bool
  | .restart _ => true
  | _ => false

/-- A restart that finds the product stopped finds no lease and no mark. -/
def RestartsUnleased (p : ProductPool) : ProductAction → Prop
  | .call _ => True
  | .advance task _ =>
    task.isRestart = true → p.shared.lifecycle.state = .stopped → p.shared.Free

instance (p : ProductPool) : ∀ action, Decidable (RestartsUnleased p action)
  | .call _ => .isTrue trivial
  | .advance task _ => inferInstanceAs
      (Decidable (task.isRestart = true → p.shared.lifecycle.state = .stopped → p.shared.Free))

theorem not_active_stopped {state : RuntimeLifecycleState} (h : state = .stopped) :
    ¬ state.Active := by
  rintro (hstate | hstate) <;> cases h.symm.trans hstate

theorem ProductRuntime.LeaseExcludes.same {s next} (h : s.LeaseExcludes) (hsame : Same s next) :
    next.LeaseExcludes := by
  intro hact
  rw [hsame.state] at hact
  obtain ⟨hlease, hunm⟩ := h hact
  refine ⟨?_, hsame.marked.trans hunm⟩
  by_contra hsome
  rcases hsame.lease (Option.isSome_iff_ne_none.mpr hsome) with hbef | hstop
  · rw [hlease] at hbef
    cases hbef
  · exact not_active_stopped hstop hact

theorem ProductRuntime.LeaseExcludes.move {s next task left}
    (h : s.LeaseExcludes) (hmove : ProductMove s task next left)
    (hrestart : task.isRestart = true → s.lifecycle.state = .stopped → s.Free) :
    next.LeaseExcludes := by
  cases hmove with
  | pass hsame _ => exact h.same hsame
  | grant hst hunm hlease _ => exact fun _ => ⟨hlease, hunm⟩
  | renew hst hlease _ => exact fun _ => ⟨hlease, rfl⟩
  | mark hhalt _ => exact fun hact => absurd hact (not_active_stopped hhalt.state)
  | refresh hhalt _ _ _ => exact fun hact => absurd hact (not_active_stopped hhalt.state)
  | abort hst => exact fun hact => absurd hact (not_active_stopped rfl)
  | run hst => exact fun _ => h (.inl hst)
  | halt hst => exact fun hact => hact.elim (by simp) (by simp)
  | restart hst => exact fun _ => hrestart rfl hst
  | accept _ | reject | refuse _ | enter _ _ _ _ | fail | abandon | cleanFailedStart | stop _
  | cleanStop | close | readShutdown | cleanShutdown => exact h

/-- While the product is starting or running there is no lease, and the installed generation is
not marked, when every restart finds it so. -/
theorem lease_excludes_running (actions : List ProductAction)
    (hrestarts : Along (Pool.step productProtocol) RestartsUnleased (.init .new) actions)
    (hactive : (runProduct actions).shared.lifecycle.state = .starting ∨
      (runProduct actions).shared.lifecycle.state = .running) :
    (runProduct actions).shared.activePlatformMutation = none ∧
      (runProduct actions).shared.lifecycle.generationRequiresReplacement = false := by
  have hinvariant : (runProduct actions).shared.LeaseExcludes := by
    refine Pool.run_keeps (I := fun p => p.shared.LeaseExcludes) (fun _ _ h => h) ?_ ?_ hrestarts
    · intro p task answers h _ hguard
      exact h.move (proceed_move p.shared task answers) hguard
    · exact fun hactive => absurd hactive (not_active_stopped rfl)
  exact hinvariant hactive

/-! ## A mutation between the end of a stop and the restart -/

def sampleInput : ProductStartInput := ⟨none, none, none⟩

/-- Everything the environment is asked succeeds. -/
def ProductAnswers.good : ProductAnswers := ⟨true, true, true, true⟩

/-- A call, and the section of a task with good answers. -/
def request (call : ProductCall) : List ProductAction :=
  [.call call, .advance (.call call) .good]

def goodTask (task : ProductTask) : ProductAction := .advance task .good

/-- A first start of the generation of a number, up to running. -/
def startedProduct (generation : ProductGeneration) : List ProductAction :=
  request (.requestStart sampleInput) ++
    [.spawnStart generation.number sampleInput, .runStart generation.number sampleInput,
      .startOwners generation.number generation, .completeStart generation.number].map goodTask

/-- A stop with a start queued behind it, up to the section that completes the stop. -/
def stoppedForRestart (generation : ProductGeneration) : List ProductAction :=
  request .requestStop ++ request (.requestStart sampleInput) ++
    [.spawnStop generation.number, .runStop generation.number,
      .cleanStop generation.number generation,
      .completeStop generation.number].map goodTask

theorem lease_excludes_running_restarted :
    (runProduct (startedProduct ⟨1, 0⟩ ++ stoppedForRestart ⟨1, 0⟩ ++
        [goodTask (.restart sampleInput)])).shared.lifecycle.state = .starting ∧
      (runProduct (startedProduct ⟨1, 0⟩ ++ stoppedForRestart ⟨1, 0⟩ ++
        [goodTask (.restart sampleInput)])).shared.activePlatformMutation = none :=
  ⟨by decide, (lease_excludes_running (startedProduct ⟨1, 0⟩ ++ stoppedForRestart ⟨1, 0⟩ ++
    [goodTask (.restart sampleInput)]) (by decide) (.inl (by decide))).1⟩

theorem restarted_under_lease :
    (runProduct (startedProduct ⟨1, 0⟩ ++ stoppedForRestart ⟨1, 0⟩ ++
        request .beginStoppedPlatformMutation ++
        [goodTask (.restart sampleInput)])).shared.lifecycle.state = .starting ∧
      (runProduct (startedProduct ⟨1, 0⟩ ++ stoppedForRestart ⟨1, 0⟩ ++
        request .beginStoppedPlatformMutation ++
        [goodTask (.restart sampleInput)])).shared.activePlatformMutation = some 1 := by
  decide

end MishProxy.Product
