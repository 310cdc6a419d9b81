import Mathlib.Data.List.Induction
import MishProxy.Runtime.Keeps

/-!
# Traces of the policy transaction

`traced io` behaves as `io` and writes down every effect with its answer. Nothing is
assumed of `io`: its answers are arbitrary.

A property of traces is kept by the effects of the traced interface when it is closed
under the events they emit (`Observes`, `Passes`).
-/

namespace MishProxy.Runtime

open Text Cellular Routing Effects Effects.Exec Session List

inductive PolicyEvent where
  | generation (answer : Option Nat)
  | raw (command : PolicyCommand) (answer : Except RootSessionError RootCommandResult)
  | observed (command : PolicyCommand) (answer : Except RootPolicyEffectFailure RootCommandResult)
  | listed (command : PolicyCommand) (answer : Except RootPolicyEffectFailure (List Text))
  | mutated (command : PolicyCommand) (answer : Except RootPolicyEffectFailure Unit)
  | current (answer : Bool)

structure Traced (σ : Type) where
  world : σ
  trace : List PolicyEvent

section

variable {σ ε α : Type}

def record (event : Except ε α → PolicyEvent) (x : Exec σ ε α) : Exec (Traced σ) ε α := fun t =>
  ((x t.world).1, ⟨(x t.world).2, t.trace ++ [event (x t.world).1]⟩)

def recordAnswer (event : α → PolicyEvent) (step : σ → α × σ) : Traced σ → α × Traced σ := fun t =>
  ((step t.world).1, ⟨(step t.world).2, t.trace ++ [event (step t.world).1]⟩)

theorem ends_record {ev : Except ε α → PolicyEvent} {x : Exec σ ε α}
    {Q : α → Traced σ → Prop} {E : ε → Traced σ → Prop} {t : Traced σ}
    (hQ : ∀ a world, Q a ⟨world, t.trace ++ [ev (.ok a)]⟩)
    (hE : ∀ e world, E e ⟨world, t.trace ++ [ev (.error e)]⟩) : Ends (record ev x) Q E t := by
  unfold Ends record
  rcases x t.world with ⟨res, world⟩
  cases res with
  | ok a => exact hQ a world
  | error e => exact hE e world

end

def traced {σ : Type} (io : RootPolicyIo σ) : RootPolicyIo (Traced σ) where
  sessionGeneration := recordAnswer .generation io.sessionGeneration
  rawObservation command := record (.raw command) (io.rawObservation command)
  observe command := record (.observed command) (io.observe command)
  lines command := record (.listed command) (io.lines command)
  mutate command := record (.mutated command) (io.mutate command)

def tracedCurrent {σ : Type} (isCurrent : σ → Bool × σ) : Traced σ → Bool × Traced σ :=
  recordAnswer .current isCurrent

/-! ## Properties of traces that effects keep -/

/-- The property is closed under the observations of the transaction. -/
structure Observes (P : List PolicyEvent → Prop) : Prop where
  listed : ∀ trace command answer, P trace → P (trace ++ [.listed command answer])
  observed : ∀ trace command answer, P trace → P (trace ++ [.observed command answer])

/-- The property is closed under this mutation. -/
def Passes (P : List PolicyEvent → Prop) (command : PolicyCommand) : Prop :=
  ∀ trace answer, P trace → P (trace ++ [.mutated command answer])

def OnTrace {σ : Type} (P : List PolicyEvent → Prop) (t : Traced σ) : Prop := P t.trace

def NoListing (trace : List PolicyEvent) : Prop :=
  ∀ command answer, .listed command answer ∉ trace

/-- Every mutation of the trace has `R` with what comes before it. -/
def EveryMutation (R : List PolicyEvent → PolicyCommand → Prop) (trace : List PolicyEvent) : Prop :=
  ∀ past command answer later, trace = past ++ .mutated command answer :: later → R past command

theorem EveryMutation.append {R trace ev} (h : EveryMutation R trace)
    (hevent : ∀ cmd ans, ev = .mutated cmd ans → R trace cmd) :
    EveryMutation R (trace ++ [ev]) := by
  intro past cmd ans later hsplit
  rcases eq_nil_or_concat later with rfl | ⟨front, last, rfl⟩
  · obtain ⟨rfl, hlast⟩ := append_inj' hsplit rfl
    exact hevent cmd ans (cons.inj hlast).1
  · have hsplit' : trace ++ [ev] = (past ++ .mutated cmd ans :: front) ++ [last] := by
      simpa using hsplit
    exact h past cmd ans front (append_inj' hsplit' rfl).1

section

variable {σ : Type} {io : RootPolicyIo σ} {P : List PolicyEvent → Prop}

theorem Observes.reads (h : Observes P) : Reads (OnTrace P) (traced io) where
  lines _ _ ht := ends_record (fun _ _ => h.listed _ _ _ ht) fun _ _ => h.listed _ _ _ ht
  observe _ _ ht := ends_record (fun _ _ => h.observed _ _ _ ht) fun _ _ => h.observed _ _ _ ht

theorem Passes.keeps {cmd} (h : Passes P cmd) : Keeps (OnTrace P) ((traced io).mutate cmd) := by
  intro t ht
  exact ends_record (fun _ _ => h _ _ ht) fun _ _ => h _ _ ht

end

end MishProxy.Runtime
