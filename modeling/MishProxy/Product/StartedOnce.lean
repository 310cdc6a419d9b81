import MishProxy.Product.Runtime

/-!
# A generation is started at most once

`generation_started_once`: along every run in which no start is granted while a restart is pending,
the entry check of `run_start` lets each object pass at most once and never after a cleanup of it
has begun, and the numbers of the entries increase.

A ticket is what can still become an entry of the present number, or has become one: a task of
`run_start`, a submission that the executor may still accept, an entry. `Ticketed` says that there
is at most one. A stopped and unmarked product has none, unless the executor has begun to reject;
after a failed submission the number is used again, but then no submission is accepted any more.
`Spent` says why an object that was entered, or is to be cleaned up, cannot be entered again.

`generation_restarted` is a restart that starts the object of a failed start a second time, because
another start was granted before it.
-/

namespace MishProxy.Product

open Machine ProductTask List Option Bool

def GenerationEvent.entry : GenerationEvent → Option ProductGeneration
  | .entered generation => some generation
  | .cleaning _ => none

/-- The objects that passed the entry check, newest first. -/
def ProductRuntime.entries (s : ProductRuntime) : List ProductGeneration :=
  s.history.filterMap GenerationEvent.entry

/-- Every entry is of an object that was neither entered nor cleaned up before, and of a larger
number than the entries before it. -/
def EntersOnce : List GenerationEvent → Prop
  | [] => True
  | .cleaning _ :: older => EntersOnce older
  | .entered generation :: older =>
    (∀ earlier, .entered earlier ∈ older → earlier.number < generation.number) ∧
      (∀ event ∈ older, event.generation.serial ≠ generation.serial) ∧ EntersOnce older

def ProductTask.requestsStart : ProductTask → Bool
  | .call (.requestStart _) => true
  | _ => false

/-- The product would grant a start. -/
def ProductRuntime.Grants (s : ProductRuntime) : Prop :=
  s.closed = false ∧ s.activePlatformMutation = none ∧ s.lifecycle.state = .stopped

instance (s : ProductRuntime) : Decidable s.Grants := inferInstanceAs (Decidable (_ ∧ _ ∧ _))

/-- No start is granted while a restart is pending. -/
def RestartsFirst (p : ProductPool) : ProductAction → Prop
  | .call _ => True
  | .advance task _ =>
    task.requestsStart = true → p.shared.Grants → ∀ other ∈ p.tasks, other.isRestart = false

instance (p : ProductPool) : ∀ action, Decidable (RestartsFirst p action)
  | .call _ => .isTrue trivial
  | .advance task _ => inferInstanceAs (Decidable (task.requestsStart = true → p.shared.Grants →
      ∀ other ∈ p.tasks, other.isRestart = false))

/-! ## Tickets -/

/-- The number that the entry check of a start will compare with. -/
def ProductTask.expected : ProductTask → Option Nat
  | .spawnStart expected _ | .runStart expected _ => some expected
  | _ => none

/-- The task may still become an entry of the present number. -/
def ProductTask.opens (s : ProductRuntime) : ProductTask → Bool
  | .spawnStart expected _ => !s.executorRejects && expected = s.lifecycle.generation
  | .runStart expected _ => expected = s.lifecycle.generation
  | _ => false

def tickets (s : ProductRuntime) (tasks : List ProductTask) : Nat :=
  tasks.countP (opens s) +
    s.entries.countP fun generation => generation.number = s.lifecycle.generation

structure Ticketed (s : ProductRuntime) (tasks : List ProductTask) : Prop where
  expected : ∀ task ∈ tasks, ∀ number ∈ task.expected, number ≤ s.lifecycle.generation
  numbered : ∀ generation ∈ s.entries, generation.number ≤ s.lifecycle.generation
  single : tickets s tasks ≤ 1
  idle : s.lifecycle.state = .stopped → s.lifecycle.generationRequiresReplacement = false →
    tickets s tasks = 0 ∨ s.executorRejects = true
  rejected : .startSubmissionFailed ∈ tasks → s.executorRejects = true
  pending : ∀ task ∈ tasks, task.isRestart = true →
    s.lifecycle.state = .stopped ∧ tickets s tasks = 0
  lone : tasks.countP isRestart ≤ 1

open ProductRuntime

namespace Ticketed

variable {s next : ProductRuntime} {task : ProductTask} {left rest : List ProductTask}
  {expected : Nat} {input : ProductStartInput}

theorem perm {tasks tasks'} (h : Ticketed s tasks) (hperm : tasks.Perm tasks') :
    Ticketed s tasks' := by
  have htix : tickets s tasks = tickets s tasks' := by
    rw [tickets, tickets, hperm.countP_eq]
  refine ⟨fun task hmem => h.expected task (hperm.mem_iff.mpr hmem), h.numbered, htix ▸ h.single,
    htix ▸ h.idle, fun hmem => h.rejected (hperm.mem_iff.mpr hmem),
    fun task hmem => htix ▸ h.pending task (hperm.mem_iff.mpr hmem), ?_⟩
  rw [← hperm.countP_eq]
  exact h.lone

/-- The number has advanced: no old task and no old entry is a ticket. -/
theorem tickets_advanced (h : Ticketed s (task :: rest))
    (hnum : next.lifecycle.generation = s.lifecycle.generation + 1)
    (hents : next.entries = s.entries) : tickets next rest = 0 := by
  have htasks : rest.countP (opens next) = 0 := by
    rw [countP_eq_zero]
    intro other hmem hopens
    have hle := h.expected other (.tail _ hmem)
    cases other with
    | spawnStart expected input =>
      have hexp := hle expected rfl
      simp only [opens, and_eq_true, decide_eq_true_eq] at hopens
      omega
    | runStart expected input =>
      have hexp := hle expected rfl
      simp only [opens, decide_eq_true_eq] at hopens
      omega
    | _ => simp [opens] at hopens
  have hent : next.entries.countP
      (fun gen => gen.number = next.lifecycle.generation) = 0 := by
    rw [countP_eq_zero, hents]
    intro gen hmem heq
    have hle := h.numbered gen hmem
    simp only [decide_eq_true_eq] at heq
    omega
  rw [tickets, htasks, hent]

/-- A task that is gone takes its ticket with it, and rejecting only removes tickets. -/
theorem tickets_le (hnum : next.lifecycle.generation = s.lifecycle.generation)
    (hrejs : s.executorRejects = true → next.executorRejects = true)
    (hents : next.entries = s.entries) : tickets next rest ≤ tickets s (task :: rest) := by
  have hopens : ∀ other ∈ rest, other.opens next = true → other.opens s = true := by
    intro other _ hopens
    cases other with
    | spawnStart expected input =>
      simp only [opens, and_eq_true, not_eq_true', decide_eq_true_eq] at hopens ⊢
      refine ⟨?_, hopens.2.trans hnum⟩
      by_contra hrej
      rw [hrejs (by simpa using hrej)] at hopens
      cases hopens.1
    | runStart expected input => simpa only [opens, hnum] using hopens
    | _ => simp [opens] at hopens
  have htasks := countP_mono_left hopens
  have hcons : rest.countP (opens s) ≤ (task :: rest).countP (opens s) := by
    rw [countP_cons]
    omega
  rw [tickets, tickets, hents, hnum]
  omega

theorem tickets_append (s left rest) :
    tickets s (left ++ rest) = left.countP (opens s) + tickets s rest := by
  rw [tickets, tickets, countP_append, Nat.add_assoc]

theorem opens_eq_false {other : ProductTask} (h : other.expected = none) :
    other.opens s = false := by
  cases other with
  | spawnStart expected input | runStart expected input => cases h
  | _ => rfl

theorem countP_opens_eq_zero (h : ∀ other ∈ left, other.expected = none) :
    left.countP (opens s) = 0 := by
  rw [countP_eq_zero]
  intro other hmem
  rw [opens_eq_false (h other hmem)]
  exact false_ne_true

theorem of_tickets_le (h : Ticketed s (task :: rest))
    (hnum : next.lifecycle.generation = s.lifecycle.generation)
    (hrejs : s.executorRejects = true → next.executorRejects = true)
    (hle : tickets next (left ++ rest) ≤ tickets s (task :: rest))
    (hnumd : ∀ gen ∈ next.entries, gen.number ≤ next.lifecycle.generation)
    (hexp : ∀ other ∈ left, ∀ number ∈ other.expected, number ≤ s.lifecycle.generation)
    (hrestart : ∀ other ∈ left, other.isRestart = false)
    (hfail : .startSubmissionFailed ∈ left → next.executorRejects = true)
    (hstop : s.lifecycle.state = .stopped → next.lifecycle.state = .stopped)
    (hidle : next.lifecycle.state = .stopped →
      next.lifecycle.generationRequiresReplacement = false →
      (s.lifecycle.state = .stopped ∧ s.lifecycle.generationRequiresReplacement = false) ∨
        next.executorRejects = true) : Ticketed next (left ++ rest) where
  expected other hmem number hnumber' := by
    rw [hnum]
    rcases mem_append.mp hmem with hnew | hold
    · exact hexp other hnew number hnumber'
    · exact h.expected other (.tail _ hold) number hnumber'
  numbered := hnumd
  single := hle.trans h.single
  idle hst hunm := by
    rcases hidle hst hunm with hbef | hrej
    · rcases h.idle hbef.1 hbef.2 with hnone | hrej
      · exact .inl (Nat.eq_zero_of_le_zero (hnone ▸ hle))
      · exact .inr (hrejs hrej)
    · exact .inr hrej
  rejected hmem := by
    rcases mem_append.mp hmem with hnew | hold
    · exact hfail hnew
    · exact hrejs (h.rejected (.tail _ hold))
  pending other hmem hrst := by
    rcases mem_append.mp hmem with hnew | hold
    · rw [hrestart other hnew] at hrst
      cases hrst
    · obtain ⟨hst, hnone⟩ := h.pending other (.tail _ hold) hrst
      exact ⟨hstop hst, Nat.eq_zero_of_le_zero (hnone ▸ hle)⟩
  lone := by
    have hnew : left.countP isRestart = 0 := by
      rw [countP_eq_zero]
      intro other hmem
      rw [hrestart other hmem]
      exact false_ne_true
    have hlone := h.lone
    rw [countP_cons] at hlone
    rw [countP_append]
    omega

theorem keep (h : Ticketed s (task :: rest))
    (hnum : next.lifecycle.generation = s.lifecycle.generation)
    (hrejs : s.executorRejects = true → next.executorRejects = true)
    (hents : next.entries = s.entries)
    (hleft : ∀ other ∈ left, other.expected = none ∧ other.isRestart = false)
    (hfail : .startSubmissionFailed ∈ left → next.executorRejects = true)
    (hstop : s.lifecycle.state = .stopped → next.lifecycle.state = .stopped)
    (hidle : next.lifecycle.state = .stopped →
      next.lifecycle.generationRequiresReplacement = false →
      (s.lifecycle.state = .stopped ∧ s.lifecycle.generationRequiresReplacement = false) ∨
        next.executorRejects = true) : Ticketed next (left ++ rest) := by
  have hle : tickets next (left ++ rest) ≤ tickets s (task :: rest) := by
    rw [tickets_append, countP_opens_eq_zero fun other hmem => (hleft other hmem).1, Nat.zero_add]
    exact tickets_le hnum hrejs hents
  refine h.of_tickets_le hnum hrejs hle ?_ ?_ (fun other hmem => (hleft other hmem).2) hfail
    hstop hidle
  · rw [hents, hnum]
    exact h.numbered
  · intro other hmem number hexp
    rw [(hleft other hmem).1] at hexp
    cases hexp

theorem of_advanced (h : Ticketed s (task :: rest))
    (hnum : next.lifecycle.generation = s.lifecycle.generation + 1)
    (hrejs : next.executorRejects = s.executorRejects) (hents : next.entries = s.entries)
    (hexp : ∀ other ∈ left, ∀ number ∈ other.expected, number ≤ next.lifecycle.generation)
    (hfail : .startSubmissionFailed ∉ left)
    (hsing : left.countP (opens next) ≤ 1)
    (hstop : next.lifecycle.state = .stopped ∧ left.countP (opens next) = 0 ∨
      next.lifecycle.state ≠ .stopped ∧ ∀ other ∈ left ++ rest, other.isRestart = false)
    (hlone : (left ++ rest).countP isRestart ≤ 1) : Ticketed next (left ++ rest) := by
  have htix : tickets next (left ++ rest) = left.countP (opens next) := by
    rw [tickets_append, h.tickets_advanced hnum hents, Nat.add_zero]
  refine ⟨?_, ?_, htix ▸ hsing, ?_, ?_, ?_, hlone⟩
  · intro other hmem number hnumber'
    rcases mem_append.mp hmem with hnew | hold
    · exact hexp other hnew number hnumber'
    · have hle := h.expected other (.tail _ hold) number hnumber'
      omega
  · rw [hents, hnum]
    intro gen hmem
    exact Nat.le_succ_of_le (h.numbered gen hmem)
  · intro hst _
    rcases hstop with ⟨_, hnone⟩ | ⟨hnot, _⟩
    · exact .inl (htix.trans hnone)
    · exact absurd hst hnot
  · intro hmem
    rcases mem_append.mp hmem with hnew | hold
    · exact absurd hnew hfail
    · rw [hrejs]
      exact h.rejected (.tail _ hold)
  · intro other hmem hrst
    rcases hstop with ⟨hst, hnone⟩ | ⟨_, hnoRestart⟩
    · exact ⟨hst, htix.trans hnone⟩
    · rw [hnoRestart other hmem] at hrst
      cases hrst

theorem plain_left (hplain : ∀ other ∈ left, other.plain = true) :
    (∀ other ∈ left, other.expected = none ∧ other.isRestart = false) ∧
      .startSubmissionFailed ∉ left := by
  constructor
  · intro other hmem
    have hoth := hplain other hmem
    cases other with
    | spawnStart expected input | runStart expected input | restart input => cases hoth
    | _ => exact ⟨rfl, rfl⟩
  · intro hmem
    cases hplain _ hmem

theorem same (h : Ticketed s (task :: rest)) (hsame : Same s next)
    (hplain : ∀ other ∈ left, other.plain = true) : Ticketed next (left ++ rest) := by
  obtain ⟨hleft, hfail⟩ := plain_left hplain
  refine h.keep hsame.number (fun hrej => hsame.rejects.trans hrej) ?_ hleft
    (fun hmem => absurd hmem hfail) (fun hst => hsame.state.trans hst) ?_
  · rw [entries, hsame.history, entries]
  · intro hst hunm
    exact .inl ⟨hsame.state ▸ hst, hsame.marked ▸ hunm⟩

theorem quiet (h : Ticketed s (task :: rest)) (hlifecycle : next.lifecycle = s.lifecycle)
    (hrejs : s.executorRejects = true → next.executorRejects = true)
    (hents : next.entries = s.entries)
    (hleft : ∀ other ∈ left, other.expected = none ∧ other.isRestart = false)
    (hfail : .startSubmissionFailed ∈ left → next.executorRejects = true) :
    Ticketed next (left ++ rest) := by
  refine h.keep (congrArg _ hlifecycle) hrejs hents hleft hfail ?_ ?_
  · intro hst
    rw [hlifecycle]
    exact hst
  · intro hst hunm
    rw [hlifecycle] at hst hunm
    exact .inl ⟨hst, hunm⟩

/-- A start of the present number: there was no ticket before, or the new task is none. No
restart is pending any more. -/
theorem opened (h : Ticketed s (task :: rest)) {start}
    (hnum : next.lifecycle.generation = s.lifecycle.generation)
    (hrejs : next.executorRejects = s.executorRejects) (hents : next.entries = s.entries)
    (hst : next.lifecycle.state = .starting)
    (hstart : start.expected = some s.lifecycle.generation)
    (hticket : tickets s (task :: rest) = 0 ∨ start.opens next = false)
    (hfirst : ∀ other ∈ rest, other.isRestart = false) : Ticketed next (start :: rest) := by
  have hle : tickets next rest ≤ tickets s (task :: rest) :=
    tickets_le hnum (fun hrej => hrejs.trans hrej) hents
  have hcount : tickets next (start :: rest) =
      (if start.opens next then 1 else 0) + tickets next rest := by
    rw [tickets, tickets, countP_cons]
    omega
  have hplain : start.isRestart = false ∧ start ≠ .startSubmissionFailed := by
    cases start with
    | restart input | startSubmissionFailed => cases hstart
    | _ => exact ⟨rfl, by simp⟩
  have hnone : ∀ other ∈ start :: rest, other.isRestart = false := by
    intro other hmem
    rcases mem_cons.mp hmem with rfl | hold
    · exact hplain.1
    · exact hfirst other hold
  refine ⟨?_, ?_, ?_, ?_, ?_, ?_, ?_⟩
  · intro other hmem number hexp
    rw [hnum]
    rcases mem_cons.mp hmem with rfl | hold
    · rw [hstart] at hexp
      exact Nat.le_of_eq (some.inj hexp).symm
    · exact h.expected other (.tail _ hold) number hexp
  · rw [hents, hnum]
    exact h.numbered
  · have hsing := h.single
    rw [hcount]
    rcases hticket with hzero | hclos
    · split_ifs <;> omega
    · rw [hclos, if_neg Bool.false_ne_true]
      omega
  · intro hstop
    cases hst.symm.trans hstop
  · intro hmem
    rcases mem_cons.mp hmem with heq | hold
    · exact absurd heq.symm hplain.2
    · rw [hrejs]
      exact h.rejected (.tail _ hold)
  · intro other hmem hrst
    rw [hnone other hmem] at hrst
    cases hrst
  · have hzero : (start :: rest).countP isRestart = 0 := by
      rw [countP_eq_zero]
      intro other hmem
      rw [hnone other hmem]
      exact false_ne_true
    omega

theorem accept (h : Ticketed s (.spawnStart expected input :: rest))
    (hrejs : s.executorRejects = false) : Ticketed s ([.runStart expected input] ++ rest) := by
  refine h.of_tickets_le rfl id ?_ h.numbered ?_ (by simp [isRestart]) (by simp) id
    fun hst hunm => .inl ⟨hst, hunm⟩
  · have hopens : opens s (.spawnStart expected input) = opens s (.runStart expected input) := by
      simp only [opens, hrejs, Bool.not_false, Bool.true_and]
    rw [singleton_append, tickets, tickets, countP_cons, countP_cons, hopens]
  · intro other hmem
    obtain rfl := mem_singleton.mp hmem
    exact h.expected (.spawnStart expected input) (.head _)

theorem enter (h : Ticketed s (.runStart expected input :: rest))
    (hnum : s.lifecycle.generation = expected) (hgen : s.generation.number = expected) :
    Ticketed { s with history := .entered s.generation :: s.history }
      ([.startOwners expected s.generation] ++ rest) := by
  refine h.of_tickets_le rfl id ?_ ?_ (by simp [ProductTask.expected])
    (by simp [isRestart]) (by simp) id fun hst hunm => .inl ⟨hst, hunm⟩
  · -- The task becomes an entry of the same number.
    have hopens : opens { s with history := .entered s.generation :: s.history } = opens s := by
      funext other
      cases other <;> rfl
    simp only [tickets, entries, singleton_append, countP_cons, hopens,
      opens, filterMap_cons, GenerationEvent.entry, hnum, hgen,
      decide_true, if_true, false_eq_true, if_false]
    omega
  · intro gen hmem
    rcases mem_cons.mp hmem with rfl | hold
    · exact Nat.le_of_eq (hgen.trans hnum.symm)
    · exact h.numbered gen hold

variable (h : Ticketed s (task :: rest))
include h

theorem mark (hhalt : Halted s next) (hmrk : next.lifecycle.generationRequiresReplacement = true) :
    Ticketed next ([] ++ rest) := by
  have hents : next.entries = s.entries := by
    rw [entries, hhalt.history, entries]
  rcases hhalt.number with hnum | hnum
  · refine h.keep hnum (fun hrej => hhalt.rejects.trans hrej) hents (by simp) (by simp)
      (fun _ => hhalt.state) fun _ hunm => ?_
    rw [hmrk] at hunm
    cases hunm
  · have hlone := h.lone
    rw [countP_cons] at hlone
    exact h.of_advanced hnum hhalt.rejects hents (by simp) (by simp) (Nat.zero_le _)
      (.inl ⟨hhalt.state, rfl⟩) (by rw [nil_append]; omega)

/-- The section that ends a stop finds no restart pending, since the product is not stopped. -/
theorem refresh {generation}
    (hhalt : Halted s next) (hnum : next.lifecycle.generation = s.lifecycle.generation + 1)
    (hleft : left = [] ∨ s.lifecycle.state = .stopping ∧ ∃ input, left = [.restart input]) :
    Ticketed { next with generation } (left ++ rest) := by
  have hents : entries { next with generation } = s.entries := by
    rw [entries, entries, ← hhalt.history]
  have hlone := h.lone
  rw [countP_cons] at hlone
  rcases hleft with rfl | ⟨hstpg, input, rfl⟩
  · exact h.of_advanced hnum hhalt.rejects hents (by simp) (by simp) (Nat.zero_le _)
      (.inl ⟨hhalt.state, rfl⟩) (by rw [nil_append]; omega)
  · have hnone : rest.countP isRestart = 0 := by
      rw [countP_eq_zero]
      intro other hmem hrst
      have hstop := (h.pending other (.tail _ hmem) hrst).1
      cases hstpg.symm.trans hstop
    refine h.of_advanced hnum hhalt.rejects hents ?_ (by simp) (Nat.zero_le _)
      (.inl ⟨hhalt.state, rfl⟩) ?_
    · intro other hmem number hexp
      obtain rfl := mem_singleton.mp hmem
      cases hexp
    · rw [singleton_append, countP_cons, hnone]
      exact Nat.le_refl 1

theorem move (hmove : ProductMove s task next left)
    (hfirst : task.requestsStart = true → s.Grants → ∀ other ∈ rest, other.isRestart = false) :
    Ticketed next (left ++ rest) := by
  cases hmove with
  | pass hsame hplain => exact h.same hsame hplain
  | grant hstate hunm hlease hopen =>
    refine h.opened rfl rfl rfl rfl rfl ?_ (hfirst rfl ⟨hopen, hlease, hstate⟩)
    rcases h.idle hstate hunm with hnone | hrej
    · exact .inl hnone
    · exact .inr (by simp [opens, hrej])
  | renew hstate hlease hopen =>
    have hnone := hfirst rfl ⟨hopen, hlease, hstate⟩
    refine h.of_advanced rfl rfl rfl ?_ (by simp) ?_ (.inr ⟨by simp, ?_⟩) ?_
    · intro other hmem number hexp
      obtain rfl := mem_singleton.mp hmem
      exact Nat.le_of_eq (some.inj hexp).symm
    · exact countP_le_length
    · intro other hmem
      rcases mem_cons.mp hmem with rfl | hold
      · rfl
      · exact hnone other hold
    · have hzero : rest.countP isRestart = 0 := by
        rw [countP_eq_zero]
        intro other hmem
        rw [hnone other hmem]
        exact false_ne_true
      rw [singleton_append, countP_cons, hzero]
      exact Nat.zero_le 1
  | mark hhalt hmrk => exact h.mark hhalt hmrk
  | refresh hhalt _ hnum hleft => exact h.refresh hhalt hnum hleft
  | accept hrejs => exact h.accept hrejs
  | reject =>
    exact h.quiet rfl (fun _ => rfl) rfl (by simp [ProductTask.expected, isRestart])
      fun _ => rfl
  | refuse hplain => exact h.quiet rfl (fun _ => rfl) rfl (plain_left hplain).1 fun _ => rfl
  | abort hstate =>
    refine h.keep rfl id rfl (by simp) (by simp) (fun _ => rfl) fun _ _ => .inr ?_
    exact h.rejected (.head _)
  | enter hopen hstate hnum hgen => exact h.enter hnum hgen
  | run hstate =>
    exact h.keep rfl id rfl (by simp) (by simp) (fun hstop => by cases hstate.symm.trans hstop)
      (by simp)
  | halt hstate =>
    refine h.keep rfl id rfl (by simp [ProductTask.expected, isRestart]) (by simp) ?_ (by simp)
    intro hstop
    rcases hstate with hstate | hstate <;> cases hstate.symm.trans hstop
  | restart hstate =>
    have hpend := h.pending _ (.head _) rfl
    refine h.opened rfl rfl rfl rfl rfl (.inl hpend.2) ?_
    have hlone := h.lone
    rw [countP_cons_of_pos rfl] at hlone
    have hzero : rest.countP isRestart = 0 := by omega
    rw [countP_eq_zero] at hzero
    intro other hmem
    exact eq_false_iff.mpr (hzero other hmem)
  | fail | abandon | cleanFailedStart | stop _ | cleanStop | close | readShutdown | cleanShutdown =>
    exact h.quiet rfl id rfl (by simp [ProductTask.expected, isRestart]) (by simp)

end Ticketed

/-! ## Why an object is not entered again -/

/-- Its number is over, or will be before the next entry. -/
def Retired (s : ProductRuntime) (tasks : List ProductTask)
    (generation : ProductGeneration) : Prop :=
  generation.number < s.lifecycle.generation ∨
    generation.number = s.lifecycle.generation ∧
      (s.lifecycle.state = .stopping ∨
        s.lifecycle.state = .stopped ∧ s.lifecycle.generationRequiresReplacement = true ∧
          ∀ task ∈ tasks, task.isRestart = false)

/-- The installed object is the newest one. -/
def Known (s : ProductRuntime) (generation : ProductGeneration) : Prop :=
  generation.serial < s.generation.serial ∨ generation = s.generation

/-- An object that was entered before, is retired, or belongs to a closed product. -/
structure Spent (s : ProductRuntime) (tasks : List ProductTask) (generation : ProductGeneration) :
    Prop where
  known : Known s generation
  reason : generation ∈ s.entries ∨ Retired s tasks generation ∨ s.closed = true

/-- The object that a task has in its hands. -/
def ProductTask.holds : ProductTask → Option ProductGeneration
  | .startOwners _ generation | .finishFailedStart _ generation | .cleanFailedStart _ generation
  | .cleanStop _ generation | .cleanShutdown generation => some generation
  | _ => none

structure Orderly (s : ProductRuntime) (tasks : List ProductTask) : Prop where
  ticketed : Ticketed s tasks
  installed : s.generation.number ≤ s.lifecycle.generation
  held : ∀ task ∈ tasks, ∀ generation ∈ task.holds, Spent s tasks generation
  past : ∀ event ∈ s.history, Spent s tasks event.generation
  closing : .readShutdown ∈ tasks → s.closed = true
  once : EntersOnce s.history

section

variable {s next : ProductRuntime} {task : ProductTask} {left rest : List ProductTask}
  {gen : ProductGeneration}

variable {tasks : List ProductTask}

theorem Retired.of_stopping (hle : gen.number ≤ s.lifecycle.generation)
    (hst : s.lifecycle.state = .stopping) : Retired s tasks gen := by
  rcases Nat.lt_or_eq_of_le hle with hlt | heq
  · exact .inl hlt
  · exact .inr ⟨heq, .inl hst⟩

theorem Retired.le (h : Retired s tasks gen) : gen.number ≤ s.lifecycle.generation := by
  rcases h with hlt | ⟨heq, _⟩ <;> omega

variable (h : Retired s (task :: rest) gen)
include h

/-- A section that keeps the number, keeps a product stopping, keeps a stopped one stopped and
marked, and leaves no restart. -/
theorem Retired.keep (hnum : next.lifecycle.generation = s.lifecycle.generation)
    (hstpg : s.lifecycle.state = .stopping → next.lifecycle.state = .stopping)
    (hstop : s.lifecycle.state = .stopped → s.lifecycle.generationRequiresReplacement = true →
      task.isRestart = false →
      next.lifecycle.state = .stopped ∧ next.lifecycle.generationRequiresReplacement = true)
    (hleft : ∀ other ∈ left, other.isRestart = false) : Retired next (left ++ rest) gen := by
  rw [Retired, hnum]
  rcases h with hlt | ⟨heq, hst | ⟨hst, hmrk, hnone⟩⟩
  · exact .inl hlt
  · exact .inr ⟨heq, .inl (hstpg hst)⟩
  · rw [forall_mem_cons] at hnone
    obtain ⟨hstate', hmarked'⟩ := hstop hst hmrk hnone.1
    refine .inr ⟨heq, .inr ⟨hstate', hmarked', ?_⟩⟩
    intro other hmem
    rcases mem_append.mp hmem with hnew | hold
    · exact hleft other hnew
    · exact hnone.2 other hold

theorem Retired.advanced (hnum : next.lifecycle.generation = s.lifecycle.generation + 1) :
    Retired next tasks gen := by
  have hle := h.le
  exact .inl (by omega)

theorem Retired.mark (hticketed : Ticketed s (task :: rest))
    (hhalt : Halted s next) (hmrk : next.lifecycle.generationRequiresReplacement = true) :
    Retired next ([] ++ rest) gen := by
  rcases hhalt.number with hnum | hnum
  · rw [Retired, hnum]
    rcases h with hlt | ⟨heq, hst⟩
    · exact .inl hlt
    · refine .inr ⟨heq, .inr ⟨hhalt.state, hmrk, fun other hmem => ?_⟩⟩
      have hmem : other ∈ task :: rest := .tail _ hmem
      rcases hst with hstpg | ⟨_, _, hnone⟩
      · by_contra hrestart
        have hstop := (hticketed.pending other hmem (by simpa using hrestart)).1
        cases hstpg.symm.trans hstop
      · exact hnone other hmem
  · exact h.advanced hnum

theorem Retired.move
    (hticketed : Ticketed s (task :: rest)) (hmove : ProductMove s task next left) :
    Retired next (left ++ rest) gen := by
  cases hmove with
  | pass hsame hplain =>
    refine h.keep hsame.number (fun hstate => hsame.state.trans hstate)
      (fun hstate hmrk _ => ⟨hsame.state.trans hstate, hsame.marked.trans hmrk⟩) ?_
    exact fun other hmem => ((Ticketed.plain_left hplain).1 other hmem).2
  | grant hstate hunm _ _ =>
    refine h.keep rfl (fun hstpg => by cases hstate.symm.trans hstpg)
      (fun _ hmrk => by cases hunm.symm.trans hmrk) (by simp [isRestart])
  | renew _ _ _ => exact h.advanced rfl
  | mark hhalt hmrk => exact h.mark hticketed hhalt hmrk
  | refresh _ _ hnum _ => exact h.advanced hnum
  | abort hstate =>
    exact h.keep rfl (fun hstpg => by cases hstate.symm.trans hstpg)
      (fun hstop => by cases hstate.symm.trans hstop) (by simp)
  | run hstate =>
    exact h.keep rfl (fun hstpg => by cases hstate.symm.trans hstpg)
      (fun hstop => by cases hstate.symm.trans hstop) (by simp)
  | halt hstate =>
    refine h.keep rfl (fun _ => rfl) (fun hstop => ?_) (by simp [isRestart])
    rcases hstate with hstate | hstate <;> cases hstate.symm.trans hstop
  | restart hstate =>
    exact h.keep rfl (fun hstpg => by cases hstate.symm.trans hstpg)
      (fun _ _ hnot => by cases hnot) (by simp [isRestart])
  | refuse hplain =>
    exact h.keep rfl id (fun hstate hmrk _ => ⟨hstate, hmrk⟩) fun other hmem =>
      ((Ticketed.plain_left hplain).1 other hmem).2
  | accept _ | reject | enter _ _ _ _ | fail | abandon | cleanFailedStart | stop _ | cleanStop
  | close | readShutdown | cleanShutdown =>
    exact h.keep rfl id (fun hstate hmrk _ => ⟨hstate, hmrk⟩) (by simp [isRestart])

omit h

/-- A successful entry check. -/
structure Enters (s : ProductRuntime) (task : ProductTask) (next : ProductRuntime) : Prop where
  opened : s.closed = false
  state : s.lifecycle.state = .starting
  ticket : task.opens s = true
  number : s.generation.number = s.lifecycle.generation
  history : next.history = .entered s.generation :: s.history

/-- What a section does to the objects. -/
structure ObjectMove (s : ProductRuntime) (task : ProductTask) (next : ProductRuntime)
    (left : List ProductTask) : Prop where
  number : s.lifecycle.generation ≤ next.lifecycle.generation
  installed : next.generation = s.generation ∨
    next.generation = ⟨next.lifecycle.generation, s.generation.serial + 1⟩
  closed : s.closed = true → next.closed = true
  history : next.history = s.history ∨
    (∃ generation ∈ task.holds, next.history = .cleaning generation :: s.history) ∨
    Enters s task next
  holds : ∀ other ∈ left, ∀ generation ∈ other.holds, generation ∈ task.holds ∨
    generation = s.generation ∧ next.generation = s.generation ∧
      (generation ∈ next.entries ∨ next.lifecycle.state = .stopping ∨ task = .readShutdown)
  closing : .readShutdown ∈ left → next.closed = true

theorem holds_of_plain (hplain : ∀ other ∈ left, other.plain = true) :
    (∀ other ∈ left, other.holds = none) ∧ .readShutdown ∉ left := by
  constructor
  · intro other hmem
    have hoth := hplain other hmem
    cases other with
    | startOwners expd gen | finishFailedStart expd gen
    | cleanFailedStart expd gen | cleanStop expd gen
    | cleanShutdown gen => cases hoth
    | _ => rfl
  · intro hmem
    cases hplain _ hmem

theorem ObjectMove.free (hnum : s.lifecycle.generation ≤ next.lifecycle.generation)
    (hinst : next.generation = s.generation ∨
      next.generation = ⟨next.lifecycle.generation, s.generation.serial + 1⟩)
    (hclos : s.closed = true → next.closed = true) (hhist : next.history = s.history)
    (hleft : ∀ other ∈ left, other.holds = none)
    (hclosing : .readShutdown ∈ left → next.closed = true) : ObjectMove s task next left := by
  refine ⟨hnum, hinst, hclos, .inl hhist, ?_, hclosing⟩
  intro other hmem gen hholds
  rw [hleft other hmem] at hholds
  cases hholds

theorem ObjectMove.of_move (hmove : ProductMove s task next left) :
    ObjectMove s task next left := by
  cases hmove with
  | pass hsame hplain =>
    obtain ⟨hleft, hclosing⟩ := holds_of_plain hplain
    exact .free (Nat.le_of_eq hsame.number.symm) (.inl hsame.generation)
      (fun hclos => hsame.closed.trans hclos) hsame.history hleft
      fun hmem => absurd hmem hclosing
  | renew _ _ _ =>
    exact .free (Nat.le_succ _) (.inr rfl) id rfl (by simp [ProductTask.holds]) (by simp)
  | mark hhalt _ =>
    refine .free ?_ (.inl hhalt.generation) (fun hclos => hhalt.closed.trans hclos)
      hhalt.history (by simp) (by simp)
    have hnum := hhalt.number
    omega
  | refresh hhalt _ hnum hleft =>
    refine .free (by rw [hnum]; exact Nat.le_succ _) (.inr (by rw [hnum]))
      (fun hclos => hhalt.closed.trans hclos) hhalt.history ?_ ?_
    · rcases hleft with rfl | ⟨_, input, rfl⟩ <;> simp [ProductTask.holds]
    · rcases hleft with rfl | ⟨_, input, rfl⟩ <;> simp
  | refuse hplain =>
    obtain ⟨hleft, hclosing⟩ := holds_of_plain hplain
    exact .free (Nat.le_refl _) (.inl rfl) id rfl hleft fun hmem => absurd hmem hclosing
  | enter hopen hst hnum hgen =>
    refine ⟨Nat.le_refl _, .inl rfl, id, .inr (.inr ⟨hopen, hst, ?_, ?_, rfl⟩), ?_, by simp⟩
    · simp [opens, hnum]
    · exact hgen.trans hnum.symm
    · intro other hmem gen hholds
      obtain rfl := mem_singleton.mp hmem
      cases hholds
      exact .inr ⟨rfl, rfl, .inl (.head _)⟩
  | fail | abandon =>
    refine ⟨Nat.le_refl _, .inl rfl, id, .inl rfl, ?_, by simp⟩
    intro other hmem gen hholds
    obtain rfl := mem_singleton.mp hmem
    exact .inl hholds
  | stop hst =>
    refine ⟨Nat.le_refl _, .inl rfl, id, .inl rfl, ?_, by simp⟩
    intro other hmem gen hholds
    obtain rfl := mem_singleton.mp hmem
    exact .inr ⟨(some.inj hholds).symm, rfl, .inr (.inl hst)⟩
  | readShutdown =>
    refine ⟨Nat.le_refl _, .inl rfl, id, .inl rfl, ?_, by simp⟩
    intro other hmem gen hholds
    obtain rfl := mem_singleton.mp hmem
    exact .inr ⟨(some.inj hholds).symm, rfl, .inr (.inr rfl)⟩
  | close =>
    exact .free (Nat.le_refl _) (.inl rfl) (fun _ => rfl) rfl (by simp [ProductTask.holds])
      fun _ => rfl
  | cleanFailedStart | cleanStop | cleanShutdown =>
    refine ⟨Nat.le_refl _, .inl rfl, id, .inr (.inl ⟨_, rfl, rfl⟩), ?_, by simp⟩
    simp [ProductTask.holds]
  | grant _ _ _ _ | accept _ | reject | abort _ | run _ | halt _ | restart _ =>
    exact .free (Nat.le_refl _) (.inl rfl) id rfl (by simp [ProductTask.holds]) (by simp)

theorem ObjectMove.entries (h : ObjectMove s task next left) :
    ∀ earlier ∈ s.entries, earlier ∈ next.entries := by
  intro earlier hmem
  rcases h.history with hsame | ⟨cleaned, _, hcons⟩ | henters
  · rwa [ProductRuntime.entries, hsame]
  · rwa [ProductRuntime.entries, hcons]
  · rw [ProductRuntime.entries, henters.history]
    exact .tail _ hmem

theorem Known.move (h : Known s gen) (hobjs : ObjectMove s task next left) : Known next gen := by
  rcases hobjs.installed with hsame | hfresh
  · rw [Known, hsame]
    exact h
  · rw [Known, hfresh]
    rcases h with hlt | rfl
    · exact .inl (Nat.lt_succ_of_lt hlt)
    · exact .inl (Nat.lt_succ_self _)

theorem Spent.move (h : Spent s (task :: rest) gen) (hticketed : Ticketed s (task :: rest))
    (hmove : ProductMove s task next left) : Spent next (left ++ rest) gen := by
  have hobjs := ObjectMove.of_move hmove
  refine ⟨h.known.move hobjs, ?_⟩
  rcases h.reason with hent | hretired | hclos
  · exact .inl (hobjs.entries gen hent)
  · exact .inr (.inl (hretired.move hticketed hmove))
  · exact .inr (.inr (hobjs.closed hclos))

/-- The entered object is new: no ticket was spent on it, and it has no reason to be cleaned. -/
theorem Orderly.enters (h : Orderly s (task :: rest)) (henters : Enters s task next) :
    EntersOnce next.history := by
  rw [henters.history]
  have hnone : ∀ earlier ∈ s.entries, earlier.number ≠ s.lifecycle.generation := by
    have hsing := h.ticketed.single
    rw [tickets, countP_cons_of_pos henters.ticket] at hsing
    have hzero : s.entries.countP (fun earlier => earlier.number = s.lifecycle.generation) = 0 := by
      omega
    rw [countP_eq_zero] at hzero
    intro earlier hmem heq
    exact hzero earlier hmem (decide_eq_true heq)
  refine ⟨?_, ?_, h.once⟩
  · intro earlier hmem
    have hentry : earlier ∈ s.entries := mem_filterMap.mpr ⟨.entered earlier, hmem, rfl⟩
    rw [henters.number]
    exact Nat.lt_of_le_of_ne (h.ticketed.numbered earlier hentry) (hnone earlier hentry)
  · intro ev hmem heq
    obtain ⟨hknown, hreason⟩ := h.past ev hmem
    have hinst : ev.generation = s.generation := by
      rcases hknown with hlt | heq'
      · omega
      · exact heq'
    rw [hinst] at hreason
    rcases hreason with hent | (hlt | ⟨_, hstpg | ⟨hstop, _⟩⟩) | hclos
    · exact hnone _ hent henters.number
    · exact absurd henters.number (Nat.ne_of_lt hlt)
    · cases henters.state.symm.trans hstpg
    · cases henters.state.symm.trans hstop
    · cases henters.opened.symm.trans hclos

theorem Orderly.move (h : Orderly s (task :: rest)) (hmove : ProductMove s task next left)
    (hfirst : task.requestsStart = true → s.Grants → ∀ other ∈ rest, other.isRestart = false) :
    Orderly next (left ++ rest) := by
  have hobjs := ObjectMove.of_move hmove
  have hspent : ∀ {gen}, Spent s (task :: rest) gen →
      Spent next (left ++ rest) gen := fun hspent => hspent.move h.ticketed hmove
  have hinst : next.generation.number ≤ next.lifecycle.generation := by
    rcases hobjs.installed with hsame | hfresh
    · rw [hsame]
      exact h.installed.trans hobjs.number
    · rw [hfresh]
  refine ⟨h.ticketed.move hmove hfirst, hinst, ?_, ?_, ?_, ?_⟩
  · intro other hmem gen hholds
    rcases mem_append.mp hmem with hnew | hold
    · rcases hobjs.holds other hnew gen hholds with hown | ⟨rfl, hsame, hreason⟩
      · exact hspent (h.held task (.head _) gen hown)
      · refine ⟨.inr hsame.symm, ?_⟩
        rcases hreason with hent | hstpg | rfl
        · exact .inl hent
        · exact .inr (.inl (.of_stopping (hsame ▸ hinst) hstpg))
        · exact .inr (.inr (hobjs.closed (h.closing (.head _))))
    · exact hspent (h.held other (.tail _ hold) gen hholds)
  · intro ev hmem
    rcases hobjs.history with hsame | ⟨cleaned, hholds, hcons⟩ | henters
    · rw [hsame] at hmem
      exact hspent (h.past ev hmem)
    · rw [hcons] at hmem
      rcases mem_cons.mp hmem with rfl | hold
      · exact hspent (h.held task (.head _) cleaned hholds)
      · exact hspent (h.past ev hold)
    · rw [henters.history] at hmem
      rcases mem_cons.mp hmem with rfl | hold
      · have hent : s.generation ∈ next.entries := by
          rw [entries, henters.history]
          exact .head _
        have hknown : Known s s.generation := .inr rfl
        exact ⟨hknown.move hobjs, .inl hent⟩
      · exact hspent (h.past ev hold)
  · intro hmem
    rcases mem_append.mp hmem with hnew | hold
    · exact hobjs.closing hnew
    · exact hobjs.closed (h.closing (.tail _ hold))
  · rcases hobjs.history with hsame | ⟨cleaned, _, hcons⟩ | henters
    · rw [hsame]
      exact h.once
    · rw [hcons]
      exact h.once
    · exact h.enters henters

end

/-! ## Whole runs -/

variable {tasks : List ProductTask} {s : ProductRuntime}

theorem Orderly.perm {tasks'} (h : Orderly s tasks) (hperm : tasks.Perm tasks') :
    Orderly s tasks' := by
  have hspent : ∀ {gen}, Spent s tasks gen → Spent s tasks' gen := by
    intro gen hspent
    refine ⟨hspent.known, hspent.reason.imp_right (Or.imp_left ?_)⟩
    intro hretired
    simpa only [Retired, hperm.mem_iff] using hretired
  exact ⟨h.ticketed.perm hperm, h.installed,
    fun task hmem gen hholds => hspent (h.held task (hperm.mem_iff.mpr hmem) gen hholds),
    fun ev hmem => hspent (h.past ev hmem), fun hmem => h.closing (hperm.mem_iff.mpr hmem), h.once⟩

theorem Ticketed.call (h : Ticketed s tasks) (call) : Ticketed s (.call call :: tasks) := by
  have htix : tickets s (.call call :: tasks) = tickets s tasks := by
    rw [tickets, tickets, countP_cons_of_neg Bool.false_ne_true]
  refine ⟨forall_mem_cons.mpr ⟨by rintro _ ⟨⟩, h.expected⟩, h.numbered, htix ▸ h.single,
    htix ▸ h.idle, fun hmem => h.rejected (by simpa using hmem),
    forall_mem_cons.mpr ⟨by rintro ⟨⟩, htix ▸ h.pending⟩, ?_⟩
  rw [countP_cons_of_neg Bool.false_ne_true]
  exact h.lone

theorem Orderly.call (h : Orderly s tasks) (call) : Orderly s (.call call :: tasks) := by
  have hspent : ∀ {gen}, Spent s tasks gen → Spent s (.call call :: tasks) gen := by
    intro gen hspent
    refine ⟨hspent.known, hspent.reason.imp_right (Or.imp_left ?_)⟩
    rintro (hlt | ⟨heq, hstpg | ⟨hstop, hmrk, hnone⟩⟩)
    · exact .inl hlt
    · exact .inr ⟨heq, .inl hstpg⟩
    · exact .inr ⟨heq, .inr ⟨hstop, hmrk, forall_mem_cons.mpr ⟨rfl, hnone⟩⟩⟩
  refine ⟨h.ticketed.call call, h.installed, ?_, fun ev hmem => hspent (h.past ev hmem),
    fun hmem => h.closing (by simpa using hmem), h.once⟩
  refine forall_mem_cons.mpr ⟨by rintro _ ⟨⟩, ?_⟩
  exact fun task hmem gen hholds => hspent (h.held task hmem gen hholds)

theorem orderly_new : Orderly .new [] where
  ticketed := ⟨by rintro _ ⟨⟩, by rintro _ ⟨⟩, Nat.zero_le 1, fun _ _ => .inl rfl,
    by rintro ⟨⟩, by rintro _ ⟨⟩, Nat.zero_le 1⟩
  installed := Nat.le_refl 1
  held := by simp
  past := by rintro _ ⟨⟩
  closing := by simp
  once := trivial

/-- Each object is entered at most once and never after a cleanup of it has begun, and the
numbers of the entries increase, as long as no start is granted while a restart is pending. -/
theorem generation_started_once (actions : List ProductAction)
    (hfirst : Along (Pool.step productProtocol) RestartsFirst (.init .new) actions) :
    EntersOnce (runProduct actions).shared.history := by
  have hinvariant : Orderly (runProduct actions).shared (runProduct actions).tasks := by
    refine Pool.run_keeps (I := fun p => Orderly p.shared p.tasks) ?_ ?_ orderly_new hfirst
    · intro p call h
      exact h.call call
    · intro p task answers h hmem hguard
      refine (h.perm (perm_cons_erase hmem)).move (proceed_move p.shared task answers) ?_
      intro hrequests hgrants other hother
      exact hguard hrequests hgrants other (mem_of_mem_erase hother)
  exact hinvariant.once

theorem generation_started_once_restarted :
    (runProduct (startedProduct ⟨1, 0⟩ ++ stoppedForRestart ⟨1, 0⟩ ++
        [goodTask (.restart sampleInput), goodTask (.runStart 2 sampleInput)])).shared.entries =
          [⟨2, 1⟩, ⟨1, 0⟩] ∧
      EntersOnce (runProduct (startedProduct ⟨1, 0⟩ ++ stoppedForRestart ⟨1, 0⟩ ++
        [goodTask (.restart sampleInput), goodTask (.runStart 2 sampleInput)])).shared.history :=
  ⟨by decide, generation_started_once (startedProduct ⟨1, 0⟩ ++ stoppedForRestart ⟨1, 0⟩ ++
    [goodTask (.restart sampleInput), goodTask (.runStart 2 sampleInput)]) (by decide)⟩

/-- The tasks of a start of an object that fails, with a cleanup that is not clean. -/
def failedStart (generation : ProductGeneration) : List ProductAction :=
  request (.requestStart sampleInput) ++
    [.spawnStart generation.number sampleInput,
      .runStart generation.number sampleInput].map goodTask ++
    [.startOwners generation.number generation, .finishFailedStart generation.number generation,
      .cleanFailedStart generation.number generation,
      .completeFailedStart generation.number].map
        fun task => .advance task ⟨true, true, false, false⟩

/-- With a restart pending, another start is granted and fails; then the restart goes on. -/
def restartAfterFailure : List ProductAction :=
  startedProduct ⟨1, 0⟩ ++ stoppedForRestart ⟨1, 0⟩ ++ failedStart ⟨2, 1⟩ ++
    [goodTask (.restart sampleInput), goodTask (.runStart 2 sampleInput)]

theorem generation_restarted :
    (runProduct restartAfterFailure).shared.history =
        [.entered ⟨2, 1⟩, .cleaning ⟨2, 1⟩, .entered ⟨2, 1⟩, .cleaning ⟨1, 0⟩, .entered ⟨1, 0⟩] ∧
      ¬ EntersOnce (runProduct restartAfterFailure).shared.history := by
  have hhistory : (runProduct restartAfterFailure).shared.history =
      [.entered ⟨2, 1⟩, .cleaning ⟨2, 1⟩, .entered ⟨2, 1⟩, .cleaning ⟨1, 0⟩, .entered ⟨1, 0⟩] := by
    decide
  refine ⟨hhistory, fun honce => ?_⟩
  rw [hhistory] at honce
  exact honce.2.1 (.cleaning ⟨2, 1⟩) (.head _) rfl

end MishProxy.Product
