import Mathlib.Algebra.Ring.Nat
import Mathlib.Data.Char
import Mathlib.Tactic.Common
import Mathlib.Order.Basic

/-!
# Runs of a state machine and what happened in them

A machine takes one input after another; every input changes the state and is answered.
`record` runs it and keeps the history, newest event first.

* `run_invariant`: what every step keeps holds after every run. `Along G` says that each
  step of a run meets `G` in the state it is taken from.
* `Once P history`: some event had `P`, which also sees the history before that event.
* `Since Q P history`: some event had `P`, and every event after it had `Q`.
* `Always P history`: every event had `P`.
-/

namespace MishProxy.Machine

open List

section

variable {σ ι : Type*} (step : σ → ι → σ)

def run (s : σ) (inputs : List ι) : σ := inputs.foldl step s

def Along (G : σ → ι → Prop) : σ → List ι → Prop
  | _, [] => True
  | s, input :: rest => G s input ∧ Along G (step s input) rest

instance Along.decidable (G : σ → ι → Prop) [∀ s input, Decidable (G s input)] :
    ∀ s inputs, Decidable (Along step G s inputs)
  | _, [] => .isTrue trivial
  | s, input :: rest =>
    have := Along.decidable G (step s input) rest
    inferInstanceAs (Decidable (G s input ∧ Along step G (step s input) rest))

variable {step} {I : σ → Prop} {s : σ} {G : σ → ι → Prop}

theorem run_invariant_along (hstep : ∀ s input, I s → G s input → I (step s input)) (hs : I s)
    {inputs} (hG : Along step G s inputs) : I (run step s inputs) := by
  induction inputs generalizing s with
  | nil => exact hs
  | cons input rest ih => exact ih (hstep s input hs hG.1) hG.2

theorem along_of_invariant {H : σ → ι → Prop}
    (hstep : ∀ s input, I s → G s input → I (step s input)) (hshow : ∀ s input, I s → H s input)
    (hs : I s) {inputs} (hG : Along step G s inputs) : Along step H s inputs := by
  induction inputs generalizing s with
  | nil => trivial
  | cons input rest ih => exact ⟨hshow s input hs, ih (hstep s input hs hG.1) hG.2⟩

theorem run_invariant (hstep : ∀ s input, I s → I (step s input)) (hs : I s)
    (inputs) : I (run step s inputs) := by
  induction inputs generalizing s with
  | nil => exact hs
  | cons input rest ih => exact ih (hstep s input hs)

theorem along_append {inputs more} :
    Along step G s (inputs ++ more) ↔ Along step G s inputs ∧
      Along step G (run step s inputs) more := by
  induction inputs generalizing s with
  | nil => simp [Along, run]
  | cons input rest ih => simp only [cons_append, Along, ih, run, foldl_cons, and_assoc]

theorem run_append (inputs more) :
    run step s (inputs ++ more) = run step (run step s inputs) more := foldl_append

/-- A measure that no step lowers, read at two moments of one run. -/
theorem run_le_along {α} [Preorder α] {m : σ → α}
    (hstep : ∀ s input, I s → G s input → I (step s input))
    (hle : ∀ s input, I s → G s input → m s ≤ m (step s input)) (hs : I s) {inputs more}
    (hG : Along step G s (inputs ++ more)) :
    m (run step s inputs) ≤ m (run step s (inputs ++ more)) := by
  obtain ⟨hinputs, hmore⟩ := along_append.mp hG
  have hrch : I (run step s inputs) := run_invariant_along hstep hs hinputs
  rw [run_append]
  clear hG hinputs
  generalize run step s inputs = reached at hrch hmore
  induction more generalizing reached with
  | nil => exact le_refl _
  | cons input rest ih =>
    exact (hle reached input hrch hmore.1).trans
      (ih _ (hstep reached input hrch hmore.1) hmore.2)

end

/-! ## Recorded runs -/

structure Event (σ ι ω : Type*) where
  input : ι
  output : ω
  after : σ

structure Recorded (σ ι ω : Type*) where
  state : σ
  history : List (Event σ ι ω)

variable {σ ι ω : Type*}

def Recorded.init (s : σ) : Recorded σ ι ω := ⟨s, []⟩

def record (step : σ → ι → ω × σ) (r : Recorded σ ι ω) (input : ι) : Recorded σ ι ω :=
  let (output, after) := step r.state input
  ⟨after, ⟨input, output, after⟩ :: r.history⟩

/-- The state that a history of a run from `initial` has led to. -/
def lastState (initial : σ) : List (Event σ ι ω) → σ
  | [] => initial
  | e :: _ => e.after

def eventOf (step : σ → ι → ω × σ) (s : σ) (input : ι) : Event σ ι ω :=
  ⟨input, (step s input).1, (step s input).2⟩

/-! ## The past -/

variable {ε : Type*} {P P' : ε → List ε → Prop} {Q : ε → Prop} {e : ε} {history : List ε}

def Once (P : ε → List ε → Prop) (history : List ε) : Prop :=
  ∃ newer e older, history = newer ++ e :: older ∧ P e older

def Since (Q : ε → Prop) (P : ε → List ε → Prop) (history : List ε) : Prop :=
  ∃ newer e older, history = newer ++ e :: older ∧ (∀ x ∈ newer, Q x) ∧ P e older

def Always (P : ε → List ε → Prop) (history : List ε) : Prop :=
  ∀ newer e older, history = newer ++ e :: older → P e older

theorem Always.nil : Always P [] := by
  rintro newer e older heq
  cases newer <;> cases heq

theorem always_cons_iff : Always P (e :: history) ↔ P e history ∧ Always P history := by
  constructor
  · intro h
    refine ⟨h [] e history rfl, fun newer other older heq => h (e :: newer) other older ?_⟩
    rw [heq, cons_append]
  · rintro ⟨hnow, hpast⟩ newer other older heq
    cases newer with
    | nil =>
      cases heq
      exact hnow
    | cons x newer =>
      obtain ⟨rfl, hrest⟩ := cons.inj heq
      exact hpast newer other older hrest

variable {step : σ → ι → ω × σ} {r : Recorded σ ι ω}

theorem mem_history {x} (h : x ∈ r.history) (inputs) :
    x ∈ (run (record step) r inputs).history := by
  induction inputs generalizing r with
  | nil => exact h
  | cons input rest ih => exact ih (.tail _ h)

theorem always_record {I : Recorded σ ι ω → Prop} {Q : Event σ ι ω → Prop}
    {P : Event σ ι ω → List (Event σ ι ω) → Prop}
    (hstep : ∀ r input, I r → Q (eventOf step r.state input) →
      I (record step r input) ∧ P (eventOf step r.state input) r.history) (hr : I r)
    (hpast : Always P r.history) {inputs}
    (hQ : ∀ x ∈ (run (record step) r inputs).history, Q x) :
    Always P (run (record step) r inputs).history := by
  induction inputs generalizing r with
  | nil => exact hpast
  | cons input rest ih =>
    have hmem : eventOf step r.state input ∈
        (run (record step) (record step r input) rest).history :=
      mem_history (.head _) rest
    obtain ⟨hnext, hnow⟩ := hstep r input hr (hQ _ hmem)
    exact ih hnext (always_cons_iff.mpr ⟨hnow, hpast⟩) hQ

theorem always_record_along {I : Recorded σ ι ω → Prop} {G : Recorded σ ι ω → ι → Prop}
    {P : Event σ ι ω → List (Event σ ι ω) → Prop}
    (hstep : ∀ r input, I r → G r input →
      I (record step r input) ∧ P (eventOf step r.state input) r.history) (hr : I r)
    (hpast : Always P r.history) {inputs} (hG : Along (record step) G r inputs) :
    Always P (run (record step) r inputs).history := by
  induction inputs generalizing r with
  | nil => exact hpast
  | cons input rest ih =>
    obtain ⟨hnext, hnow⟩ := hstep r input hr hG.1
    exact ih hnext (always_cons_iff.mpr ⟨hnow, hpast⟩) hG.2

/-- The values that the inputs of a run bring are all different, so each is new to the history it
comes to. -/
theorem along_fresh {α : Type*} {f : ι → Option α} {Q : ι → Prop} {inputs : List ι}
    (hnodup : (inputs.filterMap f).Nodup)
    (hnew : ∀ a ∈ inputs.filterMap f, a ∉ r.history.filterMap fun x => f x.input)
    (hQ : ∀ input ∈ inputs, Q input) : Along (record step) (fun r input =>
      (∀ a, f input = some a → a ∉ r.history.filterMap fun x => f x.input) ∧ Q input) r inputs := by
  induction inputs generalizing r with
  | nil => trivial
  | cons input rest ih =>
    have hrest : ∀ a ∈ rest.filterMap f, a ∈ (input :: rest).filterMap f := fun a hmem =>
      (((sublist_cons_self input rest).filterMap f).subset hmem)
    refine ⟨⟨fun a ha => hnew a ?_, hQ input (.head _)⟩, ih ?_ ?_ ?_⟩
    · exact mem_filterMap.mpr ⟨input, .head _, ha⟩
    · exact hnodup.sublist ((sublist_cons_self input rest).filterMap f)
    · intro a hmem hpast
      obtain ⟨x, hx, ha⟩ := mem_filterMap.mp hpast
      rcases mem_cons.mp hx with rfl | hx
      · rw [filterMap_cons_some ha, nodup_cons] at hnodup
        exact hnodup.1 hmem
      · exact hnew a (hrest a hmem) (mem_filterMap.mpr ⟨x, hx, ha⟩)
    · exact fun other hoth => hQ other (.tail _ hoth)

theorem Once.now (h : P e history) : Once P (e :: history) := ⟨[], e, history, rfl, h⟩

theorem Once.cons (h : Once P history) (e : ε) : Once P (e :: history) := by
  obtain ⟨newer, e', older, rfl, hP⟩ := h
  exact ⟨e :: newer, e', older, rfl, hP⟩

theorem Since.now (h : P e history) : Since Q P (e :: history) := ⟨[], e, history, rfl, by simp, h⟩

theorem Since.cons (h : Since Q P history) (hQ : Q e) : Since Q P (e :: history) := by
  obtain ⟨newer, e', older, rfl, hnewer, hP⟩ := h
  exact ⟨e :: newer, e', older, rfl, by simpa using ⟨hQ, hnewer⟩, hP⟩

theorem Since.imp {history} (h : Since Q P history)
    (hP : ∀ e older, P e older → P' e older) : Since Q P' history := by
  obtain ⟨newer, e, older, rfl, hnewer, he⟩ := h
  exact ⟨newer, e, older, rfl, hnewer, hP e older he⟩

theorem once_cons_iff : Once P (e :: history) ↔ P e history ∨ Once P history := by
  constructor
  · rintro ⟨newer, e', older, heq, hP⟩
    cases newer with
    | nil =>
      cases heq
      exact .inl hP
    | cons x newer =>
      cases heq
      exact .inr ⟨newer, e', older, rfl, hP⟩
  · rintro (hP | h)
    · exact Once.now hP
    · exact h.cons e

theorem since_cons_iff : Since Q P (e :: history) ↔ P e history ∨ Q e ∧ Since Q P history := by
  constructor
  · rintro ⟨newer, e', older, heq, hnewer, hP⟩
    cases newer with
    | nil =>
      cases heq
      exact .inl hP
    | cons x newer =>
      cases heq
      rw [forall_mem_cons] at hnewer
      exact .inr ⟨hnewer.1, newer, e', older, rfl, hnewer.2, hP⟩
  · rintro (hP | ⟨hQ, h⟩)
    · exact Since.now hP
    · exact h.cons hQ

instance Since.decidable (Q : ε → Prop) (P : ε → List ε → Prop) [DecidablePred Q]
    [∀ e older, Decidable (P e older)] : ∀ history, Decidable (Since Q P history)
  | [] => .isFalse fun ⟨_, _, _, heq, _⟩ => by simp at heq
  | e :: history =>
    have := Since.decidable Q P history
    decidable_of_iff (P e history ∨ Q e ∧ Since Q P history) since_cons_iff.symm

end MishProxy.Machine
