import MishProxy.Machine.Run

/-!
# Calls in progress on a shared state

Several threads make calls on one shared state. A call is a chain of sections; each section
holds a lock and is one step, and sections of other calls may run between two sections of
one call. What a call does next is its task, so a state of the system is the shared state
with the tasks of the calls in progress. No call is in progress when there is no task.

`Settled Good Repairs` is the invariant of such a system: what should hold between calls
holds now, or a call in progress has yet to repair it. A section keeps it when it leaves the
other repairing tasks to their work (`Settled.advance`).
-/

namespace MishProxy.Machine

structure Pool (σ τ : Type*) where
  shared : σ
  tasks : List τ

/-- A new call, or the next section of a call with the answers of its environment. -/
inductive PoolAction (κ τ ι : Type*) where
  | call (call : κ)
  | advance (task : τ) (answer : ι)
  deriving DecidableEq

/-- The first task of each call, and what a section does to the shared state and leaves to
be done. -/
structure Protocol (σ κ τ ι : Type*) where
  first : κ → τ
  proceed : τ → ι → σ → σ × List τ

namespace Pool

variable {σ κ τ ι : Type*} [DecidableEq τ] (P : Protocol σ κ τ ι)

def init (s : σ) : Pool σ τ := ⟨s, []⟩

def enter (call : κ) (p : Pool σ τ) : Pool σ τ := ⟨p.shared, P.first call :: p.tasks⟩

def advance (task : τ) (answer : ι) (p : Pool σ τ) : Pool σ τ :=
  ⟨(P.proceed task answer p.shared).1, (P.proceed task answer p.shared).2 ++ p.tasks.erase task⟩

def step (p : Pool σ τ) : PoolAction κ τ ι → Pool σ τ
  | .call call => p.enter P call
  | .advance task answer => if task ∈ p.tasks then p.advance P task answer else p

variable {P}

theorem run_always {I : Pool σ τ → Prop} (hcall : ∀ p call, I p → I (p.enter P call))
    (hadv : ∀ p task ans, I p → task ∈ p.tasks → I (p.advance P task ans))
    {p} (hp : I p) (actions) : I (run (step P) p actions) := by
  refine run_invariant ?_ hp actions
  intro p act hI
  cases act with
  | call call => exact hcall p call hI
  | advance task ans =>
    show I (if task ∈ p.tasks then p.advance P task ans else p)
    split_ifs with hmem
    · exact hadv p task ans hI hmem
    · exact hI

section

variable {I : Pool σ τ → Prop} {G : Pool σ τ → PoolAction κ τ ι → Prop}
  (hcall : ∀ p call, I p → I (p.enter P call))
  (hadv : ∀ p task ans, I p → task ∈ p.tasks → G p (.advance task ans) → I (p.advance P task ans))

include hcall hadv

theorem step_keeps (p : Pool σ τ) (act) (hI : I p) (hguard : G p act) : I (p.step P act) := by
  cases act with
  | call call => exact hcall p call hI
  | advance task ans =>
    show I (if task ∈ p.tasks then p.advance P task ans else p)
    split_ifs with hmem
    · exact hadv p task ans hI hmem hguard
    · exact hI

theorem run_keeps {p} (hp : I p) {actions} (hG : Along (step P) G p actions) :
    I (run (step P) p actions) :=
  run_invariant_along (step_keeps hcall hadv) hp hG

end

/-! ## What a call has yet to repair -/

variable {Good : σ → Prop} {Repairs : σ → τ → Prop}

def Settled (Good : σ → Prop) (Repairs : σ → τ → Prop) (p : Pool σ τ) : Prop :=
  Good p.shared ∨ ∃ task ∈ p.tasks, Repairs p.shared task

omit [DecidableEq τ] in
theorem Settled.enter {p} (h : Settled Good Repairs p) (call : κ) :
    Settled Good Repairs (p.enter P call) := by
  rcases h with hgood | ⟨task, hmem, hrep⟩
  · exact .inl hgood
  · exact .inr ⟨task, .tail _ hmem, hrep⟩

/-- A section keeps the invariant when the other repairing tasks stay repairing, and when a
section that finds nothing to repair, or has to repair it itself, leaves it settled. -/
theorem Settled.advance {p task ans} (h : Settled Good Repairs p)
    (hown : Good p.shared ∨ Repairs p.shared task → Settled Good Repairs (p.advance P task ans))
    (hoth : ∀ other ∈ p.tasks.erase task, Repairs p.shared other →
      Settled Good Repairs (p.advance P task ans)) :
    Settled Good Repairs (p.advance P task ans) := by
  rcases h with hgood | ⟨other, hmem, hrep⟩
  · exact hown (.inl hgood)
  · by_cases heq : other = task
    · subst heq
      exact hown (.inr hrep)
    · have hrest : other ∈ p.tasks.erase task := (List.mem_erase_of_ne heq).mpr hmem
      exact hoth other hrest hrep

/-- A task that a section leaves, or one of another call, that repairs what is left. -/
theorem Settled.of_task {p : Pool σ τ} {task other : τ} {ans : ι}
    (hmem : other ∈ (P.proceed task ans p.shared).2 ∨ other ∈ p.tasks.erase task)
    (hrep : Repairs (P.proceed task ans p.shared).1 other) :
    Settled Good Repairs (p.advance P task ans) := .inr ⟨other, List.mem_append.mpr hmem, hrep⟩

omit [DecidableEq τ] in
theorem Settled.good {p} (h : Settled Good Repairs p) (hidle : p.tasks = []) : Good p.shared := by
  rcases h with hgood | ⟨task, hmem, -⟩
  · exact hgood
  · rw [hidle] at hmem
    cases hmem

end Pool

end MishProxy.Machine
