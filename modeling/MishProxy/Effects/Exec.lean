import Mathlib.Tactic.Common

/-!
# Programs over a state with early exits

A program returns a value or exits early with an error; the state is kept on both ways out.
`Ends x Q E s` says how a run of `x` from `s` ends: with a value and a state in `Q`, or with an
error and a state in `E`.

* `ends_bind`, `ends_mapError`, `ends_attempt`: one rewriting rule for each way to build a program.
* `ends_repeatUntil`: a bounded loop with an early exit and a last look. The invariant is indexed
  by the passes that are left.
* `ends_drain`, `ends_drain_lt`: such a loop when every pass that goes on leaves less.
* `ends_whileFuel`: a loop without a bound, cut off when the fuel is used up.
* `ends_forEach`: a loop over a list, with an invariant on what is left of it.
* `Keeps I x`: the program keeps `I` on every way out.
-/

namespace MishProxy.Effects

def Exec (σ ε α : Type) : Type := σ → Except ε α × σ

namespace Exec

variable {σ ε δ α β : Type}

def bindWith (x : Exec σ ε α) (f : α → Exec σ ε β) : Exec σ ε β := fun s =>
  match x s with
  | (.ok a, s') => f a s'
  | (.error e, s') => (.error e, s')

instance : Monad (Exec σ ε) where
  pure a := fun s => (.ok a, s)
  bind := bindWith

def fail (e : ε) : Exec σ ε α := fun s => (.error e, s)

def mapError (f : ε → δ) (x : Exec σ ε α) : Exec σ δ α := fun s =>
  match x s with
  | (.ok a, s') => (.ok a, s')
  | (.error e, s') => (.error (f e), s')

/-- Runs `x` and returns how it ended. -/
def attempt (x : Exec σ ε α) : Exec σ δ (Except ε α) := fun s => (.ok (x s).1, (x s).2)

/-- A state transition as a program that never exits early. -/
def lift (step : σ → α × σ) : Exec σ ε α := fun s => (.ok (step s).1, (step s).2)

/-- Nothing when the condition holds already. -/
def skipIf (c : Prop) [Decidable c] (x : Exec σ ε Unit) : Exec σ ε Unit :=
  if c then pure () else x

/-- At most the given number of passes, until one of them yields a value; `last` decides
when none did. -/
def repeatUntil (pass : Exec σ ε (Option α)) (last : Exec σ ε α) : Nat → Exec σ ε α
  | 0 => last
  | n + 1 => do
      match ← pass with
      | some a => pure a
      | none => repeatUntil pass last n

/-- Passes until one of them yields a value. A run that needs more passes than the fuel
allows is cut off, which is the outcome `none`. -/
def whileFuel (pass : β → Exec σ ε (α ⊕ β)) : Nat → β → Exec σ (Option ε) α
  | 0, _ => fail none
  | n + 1, b => do
      match ← mapError some (pass b) with
      | .inl a => pure a
      | .inr b => whileFuel pass n b

def forEach (body : α → Exec σ ε Unit) : List α → Exec σ ε Unit
  | [] => pure ()
  | a :: rest => do
      body a
      forEach body rest

/-! ## How a run ends -/

def Ends (x : Exec σ ε α) (Q : α → σ → Prop) (E : ε → σ → Prop) (s : σ) : Prop :=
  match x s with
  | (.ok a, s') => Q a s'
  | (.error e, s') => E e s'

variable {Q R : α → σ → Prop} {E F : ε → σ → Prop} {s : σ}

@[simp] theorem ends_pure {a : α} : Ends (pure a : Exec σ ε α) Q E s ↔ Q a s := Iff.rfl

@[simp] theorem ends_fail {e : ε} : Ends (fail e : Exec σ ε α) Q E s ↔ E e s := Iff.rfl

@[simp] theorem ends_lift {step} :
    Ends (lift step : Exec σ ε α) Q E s ↔ Q (step s).1 (step s).2 := Iff.rfl

variable {x : Exec σ ε α} {f : α → Exec σ ε β}

@[simp] theorem ends_bind {Q} : Ends (x >>= f) Q E s ↔ Ends x (fun a => Ends (f a) Q E) E s := by
  show Ends (bindWith x f) Q E s ↔ _
  unfold Ends bindWith
  rcases x s with ⟨res, s'⟩
  cases res <;> rfl

@[simp] theorem ends_mapError {f : ε → δ} {F : δ → σ → Prop} :
    Ends (mapError f x) Q F s ↔ Ends x Q (fun e => F (f e)) s := by
  unfold Ends mapError
  rcases x s with ⟨res, s'⟩
  cases res <;> rfl

@[simp] theorem ends_attempt {Q : Except ε α → σ → Prop} {F : δ → σ → Prop} :
    Ends (attempt x) Q F s ↔ Ends x (fun a => Q (.ok a)) (fun e => Q (.error e)) s := by
  unfold Ends attempt
  rcases x s with ⟨res, s'⟩
  cases res <;> rfl

theorem ends_ite {c : Prop} [Decidable c] {y} :
    Ends (if c then x else y) Q E s ↔ (c → Ends x Q E s) ∧ (¬ c → Ends y Q E s) := by
  by_cases h : c <;> simp [h]

theorem ends_skipIf {c : Prop} [Decidable c] {x Q} :
    Ends (skipIf c x) Q E s ↔ (c → Q () s) ∧ (¬ c → Ends x Q E s) := by
  unfold skipIf
  rw [ends_ite, ends_pure]

theorem ends_mono (h : Ends x Q E s) (hQ : ∀ a s', Q a s' → R a s') (hE : ∀ e s', E e s' → F e s') :
    Ends x R F s := by
  unfold Ends at h ⊢
  rcases hx : x s with ⟨res, s'⟩
  rw [hx] at h
  cases res with
  | ok a => exact hQ a s' h
  | error e => exact hE e s' h

theorem ends_of_forall (hQ : ∀ a s', Q a s') (hE : ∀ e s', E e s') : Ends x Q E s := by
  unfold Ends
  split
  · exact hQ _ _
  · exact hE _ _

theorem Ends.imp (h : Ends x Q E s) (hQ : ∀ a s', Q a s' → R a s') : Ends x R E s :=
  ends_mono h hQ fun _ _ h => h

theorem Ends.bind {R} (h : Ends x Q E s) (hf : ∀ a s', Q a s' → Ends (f a) R E s') :
    Ends (x >>= f) R E s := ends_bind.mpr (h.imp hf)

theorem Ends.of_ok {a s'} (h : Ends x Q E s) (hx : x s = (.ok a, s')) : Q a s' := by
  unfold Ends at h
  rwa [hx] at h

theorem Ends.state {I} (h : Ends x (fun _ => I) (fun _ => I) s) : I (x s).2 := by
  unfold Ends at h
  rcases hx : x s with ⟨res, s'⟩
  rw [hx] at h
  cases res <;> exact h

theorem Ends.exists_ok (h : Ends x Q (fun _ _ => False) s) :
    ∃ a s', x s = (.ok a, s') ∧ Q a s' := by
  unfold Ends at h
  rcases hx : x s with ⟨res, s'⟩
  rw [hx] at h
  cases res with
  | ok a => exact ⟨a, s', rfl, h⟩
  | error e => exact h.elim

/-! ## Loops -/

variable {pass : Exec σ ε (Option α)} {last : Exec σ ε α}

theorem ends_repeatUntil (I : Nat → σ → Prop) (hpass : ∀ n s, I (n + 1) s →
      Ends pass (fun res s' => match res with
        | some a => Q a s'
        | none => I n s') E s) (hlast : ∀ s, I 0 s → Ends last Q E s) :
    ∀ n s, I n s → Ends (repeatUntil pass last n) Q E s := by
  intro n
  induction n with
  | zero => exact hlast
  | succ n ih =>
    intro s h
    rw [repeatUntil, ends_bind]
    refine .imp (hpass n s h) ?_
    intro res s' hres
    cases res with
    | some a => exact hres
    | none => exact ih s' hres

section

variable {J : σ → Prop} (μ : σ → Nat) (hpass : ∀ s, J s →
      Ends pass (fun res s' => match res with
        | some a => Q a s'
        | none => J s' ∧ μ s' < μ s) E s)
include hpass

/-- A loop that removes what is left: every pass that goes on leaves less, so the last look
comes after `n` passes only when `n` is no more than the spare passes. -/
theorem ends_drain_spare (k) (hlast : ∀ s, J s → μ s + k = 0 → Ends last Q E s) :
    ∀ n s, J s → μ s + k ≤ n → Ends (repeatUntil pass last n) Q E s := by
  intro n s hs hn
  refine ends_repeatUntil (fun n s => J s ∧ μ s + k ≤ n) ?_ ?_ n s ⟨hs, hn⟩
  · rintro n s ⟨hs, hn⟩
    refine .imp (hpass s hs) ?_
    intro res s' h
    cases res with
    | some a => exact h
    | none => exact ⟨h.1, by have := h.2; omega⟩
  · rintro s ⟨hs, hn⟩
    exact hlast s hs (by omega)

/-- The passes are enough when they are as many as the pieces at the start and the last look
is right about an empty rest. -/
theorem ends_drain (hlast : ∀ s, J s → μ s = 0 → Ends last Q E s) :
    ∀ n s, J s → μ s ≤ n → Ends (repeatUntil pass last n) Q E s := ends_drain_spare μ hpass 0 hlast

theorem ends_drain_lt : ∀ n s, J s → μ s < n → Ends (repeatUntil pass last n) Q E s :=
  ends_drain_spare μ hpass 1 fun _ _ h => absurd h (Nat.succ_ne_zero _)

end

theorem ends_whileFuel {pass : β → Exec σ ε (α ⊕ β)} {F : Option ε → σ → Prop}
    (I : Nat → β → σ → Prop)
    (hpass : ∀ n b s, I (n + 1) b s → Ends (pass b) (fun res s' => match res with
        | .inl a => Q a s'
        | .inr b => I n b s') (fun e => F (some e)) s)
    (hcut : ∀ b s, I 0 b s → F none s) : ∀ n b s, I n b s → Ends (whileFuel pass n b) Q F s := by
  intro n
  induction n with
  | zero => exact hcut
  | succ n ih =>
    intro b s h
    rw [whileFuel, ends_bind, ends_mapError]
    refine .imp (hpass n b s h) ?_
    intro res s' hres
    cases res with
    | inl a => exact hres
    | inr b => exact ih b s' hres

theorem ends_forEach {body Q} (I : List α → σ → Prop)
    (hbody : ∀ a rest s, I (a :: rest) s → Ends (body a) (fun _ => I rest) E s)
    (hdone : ∀ s, I [] s → Q () s) : ∀ items s, I items s → Ends (forEach body items) Q E s := by
  intro items
  induction items with
  | nil => exact hdone
  | cons a rest ih =>
    intro s h
    rw [forEach, ends_bind]
    exact .imp (hbody a rest s h) fun _ s' h => ih s' h

/-! ## Invariants -/

/-- The program keeps `I`, whether it returns or exits early. -/
def Keeps (I : σ → Prop) (x : Exec σ ε α) : Prop :=
  ∀ s, I s → Ends x (fun _ => I) (fun _ => I) s

variable {I : σ → Prop}

theorem Keeps.pure (a : α) : Keeps I (Pure.pure a : Exec σ ε α) := fun _ h => h

theorem Keeps.fail (e : ε) : Keeps I (Exec.fail e : Exec σ ε α) := fun _ h => h

theorem Keeps.bind (hx : Keeps I x) (hf : ∀ a, Keeps I (f a)) : Keeps I (x >>= f) := by
  intro s h
  rw [ends_bind]
  exact .imp (hx s h) fun a s' h => hf a s' h

theorem Keeps.mapError (f : ε → δ) (hx : Keeps I x) : Keeps I (Exec.mapError f x) := by
  intro s h
  rw [ends_mapError]
  exact hx s h

theorem Keeps.attempt (hx : Keeps I x) : Keeps I (Exec.attempt x : Exec σ δ (Except ε α)) := by
  intro s h
  rw [ends_attempt]
  exact hx s h

theorem Keeps.ite {c : Prop} {_ : Decidable c} {y : Exec σ ε α} (hx : Keeps I x) (hy : Keeps I y) :
    Keeps I (if c then x else y) := by
  split
  · exact hx
  · exact hy

theorem Keeps.skipIf {c : Prop} {_ : Decidable c} {x : Exec σ ε Unit} (hx : Keeps I x) :
    Keeps I (Exec.skipIf c x) := Keeps.ite (Keeps.pure _) hx

theorem Keeps.repeatUntil (hpass : Keeps I pass) (hlast : Keeps I last) (n : Nat) :
    Keeps I (Exec.repeatUntil pass last n) := by
  refine ends_repeatUntil (fun _ => I) ?_ hlast n
  intro n s h
  refine .imp (hpass s h) ?_
  intro res s' h
  cases res <;> exact h

theorem Keeps.whileFuel {pass : β → Exec σ ε (α ⊕ β)} (hpass : ∀ b, Keeps I (pass b)) (n b) :
    Keeps I (Exec.whileFuel pass n b) := by
  refine ends_whileFuel (fun _ _ => I) ?_ (fun _ _ h => h) n b
  intro n b s h
  refine .imp (hpass b s h) ?_
  intro res s' h
  cases res <;> exact h

theorem Keeps.forEach {body : α → Exec σ ε Unit} {items : List α}
    (hbody : ∀ a ∈ items, Keeps I (body a)) : Keeps I (Exec.forEach body items) := by
  intro s h
  refine ends_forEach (fun rest s => I s ∧ ∀ a ∈ rest, a ∈ items) ?_ (fun _ h => h.1) items s
    ⟨h, fun _ ha => ha⟩
  intro a rest s h
  refine .imp (hbody a (h.2 a (.head _)) s h.1) ?_
  intro _ s' hs'
  exact ⟨hs', fun b hb => h.2 b (.tail _ hb)⟩

end Exec

end MishProxy.Effects
