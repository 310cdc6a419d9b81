import Mathlib.Algebra.Ring.Nat
import Mathlib.Data.Char
import Mathlib.Tactic.Common

/-!
# The lifecycle of the product runtime

The owner of the state, of the number of the current generation and of the mark that the
generation has to be replaced before the next start. Every function returns the action or
disposition of the source together with the new lifecycle. The number is a checked `u64`;
when it cannot advance, the generation is marked instead.
-/

namespace MishProxy.Product

inductive RuntimeLifecycleState where
  | stopped
  | starting
  | running
  | stopping
  deriving DecidableEq, Repr

inductive RuntimeStartAction where
  | startNow
  | alreadyActive
  | queuedAfterStop
  deriving DecidableEq, Repr

inductive RuntimeStopAction where
  | stopNow
  | alreadyStopped
  | alreadyStopping
  deriving DecidableEq, Repr

structure RuntimeCleanupDisposition where
  installFreshGenerationNow : Bool
  requireFreshGenerationBeforeNextExplicitStart : Bool
  restartNow : Bool
  deriving DecidableEq

structure RuntimeLifecycle where
  state : RuntimeLifecycleState
  restartAfterStop : Bool
  generationRequiresReplacement : Bool
  generation : Nat
  deriving DecidableEq

def maxGeneration : Nat := 2 ^ 64 - 1

namespace RuntimeLifecycle

def new : RuntimeLifecycle where
  state := .stopped
  restartAfterStop := false
  generationRequiresReplacement := false
  generation := 1

variable (lifecycle : RuntimeLifecycle)

def advanceGeneration : Bool × RuntimeLifecycle :=
  if lifecycle.generation < maxGeneration then
    (true, { lifecycle with generation := lifecycle.generation + 1 })
  else (false, lifecycle)

def requestStart : RuntimeStartAction × RuntimeLifecycle :=
  match lifecycle.state with
  | .stopped => (.startNow, { lifecycle with state := .starting })
  | .starting | .running => (.alreadyActive, lifecycle)
  | .stopping => (.queuedAfterStop, { lifecycle with restartAfterStop := true })

def takeGenerationReplacementForStart : Bool × RuntimeLifecycle :=
  if lifecycle.state ≠ .starting ∨ lifecycle.generationRequiresReplacement = false then
    (false, lifecycle)
  else
    let (advanced, lifecycle) := lifecycle.advanceGeneration
    if advanced then (true, { lifecycle with generationRequiresReplacement := false })
    else (false, lifecycle)

def advanceStoppedGeneration : Bool × RuntimeLifecycle :=
  if lifecycle.state ≠ .stopped ∨ lifecycle.generationRequiresReplacement = true then
    (false, lifecycle)
  else lifecycle.advanceGeneration

def startSubmissionFailed : RuntimeLifecycle :=
  if lifecycle.state = .starting then { lifecycle with state := .stopped } else lifecycle

/-- The flag says whether to install a fresh generation now. -/
def completeStart (started cleanAfterFailedStart : Bool) (lifecycle : RuntimeLifecycle) :
    Bool × RuntimeLifecycle :=
  if lifecycle.state ≠ .starting then (false, lifecycle)
  else if started then (false, { lifecycle with state := .running })
  else
    let lifecycle := { lifecycle with state := .stopped }
    let (fresh, lifecycle) :=
      if cleanAfterFailedStart then lifecycle.advanceGeneration else (false, lifecycle)
    (fresh, { lifecycle with generationRequiresReplacement := !fresh })

def requestStop : RuntimeStopAction × RuntimeLifecycle :=
  match lifecycle.state with
  | .stopped => (.alreadyStopped, lifecycle)
  | .stopping => (.alreadyStopping, { lifecycle with restartAfterStop := false })
  | .starting | .running => (.stopNow, { lifecycle with state := .stopping })

def stopSubmissionFailed : RuntimeLifecycle :=
  if lifecycle.state = .stopping then { lifecycle with restartAfterStop := false } else lifecycle

def completeStop (clean : Bool) (lifecycle : RuntimeLifecycle) :
    RuntimeCleanupDisposition × RuntimeLifecycle :=
  let restartRequested := lifecycle.restartAfterStop
  let lifecycle := { lifecycle with restartAfterStop := false, state := .stopped }
  let (replacementAdvanced, lifecycle) :=
    if clean then lifecycle.advanceGeneration else (false, lifecycle)
  let disposition : RuntimeCleanupDisposition :=
    if replacementAdvanced then ⟨true, false, restartRequested⟩ else ⟨false, true, false⟩
  (disposition, { lifecycle with
    generationRequiresReplacement := disposition.requireFreshGenerationBeforeNextExplicitStart })

def canMutateStoppedGeneration : Bool :=
  lifecycle.state = .stopped && !lifecycle.generationRequiresReplacement

def markStoppedGenerationDirty : RuntimeLifecycle :=
  if lifecycle.state = .stopped then { lifecycle with generationRequiresReplacement := true }
  else lifecycle

/-! ## The two ways a generation ends

Its number advances, or it is marked. -/

variable {lifecycle}

theorem canMutateStoppedGeneration_iff : lifecycle.canMutateStoppedGeneration = true ↔
      lifecycle.state = .stopped ∧ lifecycle.generationRequiresReplacement = false := by
  simp [canMutateStoppedGeneration]

theorem markStoppedGenerationDirty_of_not_stopped (h : lifecycle.state ≠ .stopped) :
    lifecycle.markStoppedGenerationDirty = lifecycle := if_neg h

theorem advanceGeneration_cases (lifecycle : RuntimeLifecycle) : lifecycle.advanceGeneration =
        (true, { lifecycle with generation := lifecycle.generation + 1 }) ∨
      lifecycle.advanceGeneration = (false, lifecycle) := by
  unfold advanceGeneration
  split_ifs
  · exact .inl rfl
  · exact .inr rfl

theorem advanceStoppedGeneration_of_mutable (h : lifecycle.canMutateStoppedGeneration = true) :
    lifecycle.advanceStoppedGeneration = lifecycle.advanceGeneration := by
  obtain ⟨hst, hunm⟩ := canMutateStoppedGeneration_iff.mp h
  simp [advanceStoppedGeneration, hst, hunm]

theorem completeStart_failed_cases (h : lifecycle.state = .starting) (clean : Bool) :
    lifecycle.completeStart false clean = (true, { lifecycle with
          state := .stopped
          generation := lifecycle.generation + 1
          generationRequiresReplacement := false }) ∨ lifecycle.completeStart false clean =
        (false, { lifecycle with state := .stopped, generationRequiresReplacement := true }) := by
  have hcomp : lifecycle.completeStart false clean =
      let (fresh, stopped) :=
        if clean then advanceGeneration { lifecycle with state := .stopped }
        else (false, { lifecycle with state := .stopped })
      (fresh, { stopped with generationRequiresReplacement := !fresh }) := by
    simp only [completeStart, h, ne_eq, not_true_eq_false, if_false, Bool.false_eq_true]
  rw [hcomp]
  cases clean with
  | false => exact .inr rfl
  | true =>
    rcases advanceGeneration_cases { lifecycle with state := .stopped } with hadv | hadv
    · exact .inl (by simp only [if_true, hadv, Bool.not_true])
    · exact .inr (by simp only [if_true, hadv, Bool.not_false])

theorem completeStop_cases (lifecycle : RuntimeLifecycle) (clean : Bool) :
    lifecycle.completeStop clean = (⟨true, false, lifecycle.restartAfterStop⟩, { lifecycle with
          state := .stopped
          restartAfterStop := false
          generation := lifecycle.generation + 1
          generationRequiresReplacement := false }) ∨ lifecycle.completeStop clean =
        (⟨false, true, false⟩, { lifecycle with
          state := .stopped
          restartAfterStop := false
          generationRequiresReplacement := true }) := by
  cases clean with
  | false => exact .inr rfl
  | true =>
    rcases advanceGeneration_cases { lifecycle with restartAfterStop := false, state := .stopped }
      with hadv | hadv
    · exact .inl (by simp only [completeStop, if_true, hadv])
    · exact .inr (by
        simp only [completeStop, if_true, hadv, Bool.false_eq_true, if_false])

end RuntimeLifecycle

end MishProxy.Product
