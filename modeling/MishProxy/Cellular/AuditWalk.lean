import MishProxy.Cellular.Audit
import Mathlib.Logic.Relation

/-!
# What the walk of the audit decides

`CleanChain` is the declarative counterpart of a clean walk: every rule of the chain
passes the rule check and every declared chain it names is clean in turn. It is
inductive, so a clean chain lies on no cycle of calls.

`visit_sound` reads `CleanChain` off a clean answer, and `visit_complete` gives the
clean answer back for a depth that counts the declared chains not yet opened.
-/

namespace MishProxy.Cellular

open List Text

section

variable (table : MangleTable) (allowed : List Text) (candidateMark : Nat)

/-- The check of one rule, without entering the chain it names. -/
structure RuleClean (tokens : List Text) : Prop where
  semantics : ruleSemantics allowed candidateMark tokens = .clean
  target : chainTarget tokens ≠ .malformed
  declared : ∀ chain, chainTarget tokens = .named chain →
    chain ∈ table.userChains ∨ table.rulesOf chain = []

/-- A rule of `chain` names the declared chain `target`. -/
def Calls (chain target : Text) : Prop :=
  ∃ tokens ∈ table.rulesOf chain, chainTarget tokens = .named target ∧ target ∈ table.userChains

inductive CleanChain : Text → Prop
  | intro {chain : Text}
      (rules : ∀ tokens ∈ table.rulesOf chain, RuleClean table allowed candidateMark tokens)
      (calls : ∀ target, Calls table chain target → CleanChain target) : CleanChain chain

variable {table allowed candidateMark} {chain : Text}

variable (h : CleanChain table allowed candidateMark chain)
include h

theorem CleanChain.rules_clean :
    ∀ toks ∈ table.rulesOf chain, RuleClean table allowed candidateMark toks := by
  cases h with
  | intro rules _ => exact rules

theorem CleanChain.call {tgt : Text}
    (hcall : Calls table chain tgt) : CleanChain table allowed candidateMark tgt := by
  cases h with
  | intro _ calls => exact calls tgt hcall

/-- A clean chain is not called back by the chains below it. -/
theorem CleanChain.no_cycle : ¬ Relation.TransGen (Calls table) chain chain := by
  induction h with
  | @intro chain _ _ ih =>
    intro hcycle
    obtain ⟨next, hcall, hback⟩ := Relation.TransGen.head'_iff.mp hcycle
    exact ih next hcall (Relation.TransGen.tail' hback hcall)

omit h

/-- A clean rule whose declared target is clean as well. -/
structure RuleChecked (table : MangleTable) (allowed : List Text) (candidateMark : Nat)
    (tokens : List Text) : Prop where
  clean : RuleClean table allowed candidateMark tokens
  called : ∀ target, chainTarget tokens = .named target → target ∈ table.userChains →
    CleanChain table allowed candidateMark target

theorem cleanChain_of_checked
    (h : ∀ toks ∈ table.rulesOf chain, RuleChecked table allowed candidateMark toks) :
    CleanChain table allowed candidateMark chain := by
  refine .intro (fun toks ht => (h toks ht).clean) ?_
  rintro tgt ⟨toks, ht, htgt, hmem⟩
  exact (h toks ht).called tgt htgt hmem

theorem CleanChain.checked (h : CleanChain table allowed candidateMark chain) :
    ∀ toks ∈ table.rulesOf chain, RuleChecked table allowed candidateMark toks :=
  fun toks ht => ⟨h.rules_clean toks ht, fun _ htgt hmem => h.call ⟨toks, ht, htgt, hmem⟩⟩

/-! ## Soundness -/

/-- Every chain the walk has closed is clean. -/
def VisitedClean (table : MangleTable) (allowed : List Text) (candidateMark : Nat)
    (states : VisitStates) : Prop :=
  ∀ chain, states.lookup chain = some .visited → CleanChain table allowed candidateMark chain

variable {states : VisitStates}

theorem visitedClean_cons_visiting (h : VisitedClean table allowed candidateMark states) :
    VisitedClean table allowed candidateMark ((chain, .visiting) :: states) := by
  intro c hc
  rw [lookup_cons] at hc
  split at hc
  · cases hc
  · exact h c hc

theorem visitedClean_cons_visited (h : VisitedClean table allowed candidateMark states)
    (hchain : CleanChain table allowed candidateMark chain) :
    VisitedClean table allowed candidateMark ((chain, .visited) :: states) := by
  intro c hc
  rw [lookup_cons] at hc
  split at hc
  · rename_i heq
    rw [beq_iff_eq.mp heq]
    exact hchain
  · exact h c hc

variable {enter : Text → VisitStates → MangleAuditResult × VisitStates} {states' : VisitStates}

variable
  (henter : ∀ chain states states', VisitedClean table allowed candidateMark states →
    enter chain states = (.clean, states') →
      CleanChain table allowed candidateMark chain ∧
        VisitedClean table allowed candidateMark states')
include henter

/-- What a clean answer for one rule says, `enter` being sound for the chain it enters. -/
theorem auditRule_sound {toks} (hstates : VisitedClean table allowed candidateMark states)
    (h : auditRule table allowed candidateMark enter toks states = (.clean, states')) :
    RuleChecked table allowed candidateMark toks ∧
      VisitedClean table allowed candidateMark states' := by
  unfold auditRule at h
  split at h
  · rename_i hsem
    split at h
    · cases h
    · rename_i htgt
      cases h
      exact ⟨⟨⟨hsem, by simp [htgt], by simp [htgt]⟩, by simp [htgt]⟩, hstates⟩
    · rename_i tgt htgt
      split at h
      · rename_i hmem
        obtain ⟨hcalled, hent⟩ := henter tgt states states' hstates h
        refine ⟨⟨⟨hsem, by simp [htgt], ?_⟩, ?_⟩, hent⟩
        · intro chain hchain
          rw [htgt] at hchain
          cases hchain
          exact Or.inl hmem
        · intro chain hchain _
          rw [htgt] at hchain
          cases hchain
          exact hcalled
      · rename_i hnot
        split at h
        · rename_i hempty
          cases h
          refine ⟨⟨⟨hsem, by simp [htgt], ?_⟩, ?_⟩, hstates⟩
          · intro chain hchain
            rw [htgt] at hchain
            cases hchain
            exact Or.inr hempty
          · intro chain hchain hmem
            rw [htgt] at hchain
            cases hchain
            exact absurd hmem hnot
        · cases h
  · rename_i hbad
    exact absurd (congrArg Prod.fst h) hbad

theorem visitRules_sound {rules} (hstates : VisitedClean table allowed candidateMark states)
    (h : visitRules (auditRule table allowed candidateMark enter) rules states =
      (.clean, states')) :
    (∀ toks ∈ rules, RuleChecked table allowed candidateMark toks) ∧
      VisitedClean table allowed candidateMark states' := by
  induction rules generalizing states with
  | nil =>
    cases h
    exact ⟨by simp, hstates⟩
  | cons toks rest ih =>
    unfold visitRules at h
    split at h
    · rename_i mid hrule
      obtain ⟨hchk, hmid⟩ := auditRule_sound henter hstates hrule
      obtain ⟨hrest, hfinal⟩ := ih hmid h
      exact ⟨forall_mem_cons.mpr ⟨hchk, hrest⟩, hfinal⟩
    · rename_i hbad _
      exact (hbad (congrArg Prod.fst h)).elim

omit henter

theorem visit_sound (depth : Nat) (hstates : VisitedClean table allowed candidateMark states)
    (h : visit table allowed candidateMark depth chain states = (.clean, states')) :
    CleanChain table allowed candidateMark chain ∧
      VisitedClean table allowed candidateMark states' := by
  induction depth generalizing chain states states' with
  | zero => cases h
  | succ depth ih =>
    unfold visit at h
    split at h
    · cases h
    · rename_i hvisited
      cases h
      exact ⟨hstates chain hvisited, hstates⟩
    · split at h
      · rename_i inner hrules
        cases h
        obtain ⟨hclean, hinner⟩ := visitRules_sound (fun c s s' => ih)
          (visitedClean_cons_visiting hstates) hrules
        have hchain := cleanChain_of_checked hclean
        exact ⟨hchain, visitedClean_cons_visited hinner hchain⟩
      · rename_i hbad _
        exact (hbad (congrArg Prod.fst h)).elim

/-! ## Completeness -/

/-- The declared chains the walk has not opened yet. -/
def unopened (table : MangleTable) (states : VisitStates) : Nat :=
  (table.userChains.filter fun chain => (states.lookup chain).isNone).length

/-- The walk only adds entries, and what it opens it also closes. -/
structure Grows (states states' : VisitStates) : Prop where
  opened : ∀ chain, states'.lookup chain = none → states.lookup chain = none
  visiting : ∀ chain, states'.lookup chain = some .visiting →
    states.lookup chain = some .visiting

theorem grows_refl (states) : Grows states states := ⟨fun _ h => h, fun _ h => h⟩

theorem Grows.trans {a b c} (h₁ : Grows a b) (h₂ : Grows b c) : Grows a c :=
  ⟨fun chain h => h₁.opened chain (h₂.opened chain h),
    fun chain h => h₁.visiting chain (h₂.visiting chain h)⟩

theorem grows_close (h : Grows ((chain, .visiting) :: states) states') :
    Grows states ((chain, .visited) :: states') := by
  constructor
  · intro c hc
    rw [lookup_cons] at hc
    split at hc
    · cases hc
    · rename_i hne
      have := h.opened c hc
      rw [lookup_cons, hne] at this
      exact this
  · intro c hc
    rw [lookup_cons] at hc
    split at hc
    · cases hc
    · rename_i hne
      have := h.visiting c hc
      rw [lookup_cons, hne] at this
      exact this

theorem unopened_le (h : Grows states states') :
    unopened table states' ≤ unopened table states := by
  unfold unopened
  apply Sublist.length_le
  apply monotone_filter_right
  intro chain hchain
  simp only [Option.isNone_iff_eq_none] at hchain ⊢
  exact h.opened chain hchain

theorem unopened_cons_lt (hmem : chain ∈ table.userChains) (hnone : states.lookup chain = none) :
    unopened table ((chain, .visiting) :: states) < unopened table states := by
  unfold unopened
  have hsub : (table.userChains.filter fun c =>
        (lookup c ((chain, VisitState.visiting) :: states)).isNone) =
      (table.userChains.filter fun c => (states.lookup c).isNone).filter fun c =>
        !(c == chain) := by
    rw [filter_filter]
    apply filter_congr
    intro c _
    rw [lookup_cons]
    cases hc : c == chain <;> simp
  rw [hsub]
  refine length_filter_lt_length_iff_exists.mpr ⟨chain, ?_, by simp⟩
  exact mem_filter.mpr ⟨hmem, by simp [hnone]⟩

/-- No chain below `chain` is open. -/
def NoneVisiting (table : MangleTable) (chain : Text) (states : VisitStates) : Prop :=
  ∀ target, Relation.ReflTransGen (Calls table) chain target →
    states.lookup target ≠ some .visiting

/-- The answer for one checked rule, `enter` being complete below the bound. -/
theorem auditRule_complete {toks} (hrule : RuleChecked table allowed candidateMark toks)
    (henter : ∀ tgt, chainTarget toks = .named tgt → tgt ∈ table.userChains →
      ∃ states', enter tgt states = (.clean, states') ∧ Grows states states') :
    ∃ states', auditRule table allowed candidateMark enter toks states = (.clean, states') ∧
      Grows states states' := by
  unfold auditRule
  rw [hrule.clean.semantics]
  cases htgt : chainTarget toks with
  | malformed => exact absurd htgt hrule.clean.target
  | none => exact ⟨states, rfl, grows_refl states⟩
  | named tgt =>
    by_cases hmem : tgt ∈ table.userChains
    · simpa only [hmem, if_true] using henter tgt htgt hmem
    · have hempty := (hrule.clean.declared tgt htgt).resolve_left hmem
      simp only [hmem, if_false, hempty, if_true]
      exact ⟨states, rfl, grows_refl states⟩

theorem visitRules_complete {bound : Nat}
    (henter : ∀ chain states, chain ∈ table.userChains → unopened table states ≤ bound →
      CleanChain table allowed candidateMark chain → NoneVisiting table chain states →
      ∃ states', enter chain states = (.clean, states') ∧ Grows states states')
    {rules}
    (hrules : ∀ toks ∈ rules, RuleChecked table allowed candidateMark toks)
    (hbound : unopened table states ≤ bound)
    (hopen : ∀ toks ∈ rules, ∀ tgt, chainTarget toks = .named tgt →
      tgt ∈ table.userChains → NoneVisiting table tgt states) :
    ∃ states', visitRules (auditRule table allowed candidateMark enter) rules states =
      (.clean, states') ∧ Grows states states' := by
  induction rules generalizing states with
  | nil => exact ⟨states, rfl, grows_refl states⟩
  | cons toks rest ih =>
    obtain ⟨hrule, hrest⟩ := forall_mem_cons.mp hrules
    have hcalled : ∀ tgt, chainTarget toks = .named tgt → tgt ∈ table.userChains →
        ∃ states', enter tgt states = (.clean, states') ∧ Grows states states' := by
      intro tgt htgt hmem
      exact henter tgt states hmem hbound (hrule.called tgt htgt hmem)
        (hopen toks (.head _) tgt htgt hmem)
    obtain ⟨mid, hmid, hgrows⟩ := auditRule_complete hrule hcalled
    have hopen' : ∀ t ∈ rest, ∀ tgt, chainTarget t = .named tgt →
        tgt ∈ table.userChains → NoneVisiting table tgt mid := by
      intro t ht tgt htgt hmem below hbelow hvisiting
      exact hopen t (.tail _ ht) tgt htgt hmem below hbelow
        (hgrows.visiting below hvisiting)
    obtain ⟨final, hfinal, hmore⟩ := ih hrest ((unopened_le hgrows).trans hbound) hopen'
    refine ⟨final, ?_, hgrows.trans hmore⟩
    simp only [visitRules, hmid, hfinal]

theorem visit_visited {depth : Nat} (h : states.lookup chain = some .visited) :
    visit table allowed candidateMark (depth + 1) chain states = (.clean, states) := by
  simp only [visit, h]

theorem visit_complete (depth : Nat) (hclean : CleanChain table allowed candidateMark chain)
    (hdepth : unopened table ((chain, .visiting) :: states) + 1 < depth)
    (hopen : NoneVisiting table chain states) :
    ∃ states', visit table allowed candidateMark depth chain states = (.clean, states') ∧
      Grows states states' := by
  induction depth generalizing chain states with
  | zero => omega
  | succ depth ih =>
    cases hlook : states.lookup chain with
    | some state =>
      cases state with
      | visiting => exact absurd hlook (hopen chain .refl)
      | visited => exact ⟨states, visit_visited hlook, grows_refl states⟩
    | none =>
      have hinner : ∀ toks ∈ table.rulesOf chain, ∀ tgt,
          chainTarget toks = .named tgt → tgt ∈ table.userChains →
          NoneVisiting table tgt ((chain, .visiting) :: states) := by
        intro toks ht tgt htgt hmem below hbelow
        have hcall : Calls table chain tgt := ⟨toks, ht, htgt, hmem⟩
        rw [lookup_cons]
        split
        · rename_i heq
          rw [beq_iff_eq] at heq
          subst heq
          exact absurd (Relation.TransGen.head' hcall hbelow) hclean.no_cycle
        · exact hopen below (.head hcall hbelow)
      have henter : ∀ c s, c ∈ table.userChains →
          unopened table s ≤ unopened table ((chain, .visiting) :: states) →
          CleanChain table allowed candidateMark c → NoneVisiting table c s →
          ∃ s', visit table allowed candidateMark depth c s = (.clean, s') ∧ Grows s s' := by
        intro c s hmem hs hc hn
        cases hlookup' : s.lookup c with
        | some state =>
          cases state with
          | visiting => exact absurd hlookup' (hn c .refl)
          | visited =>
            obtain ⟨d, rfl⟩ : ∃ d, depth = d + 1 := ⟨depth - 1, by omega⟩
            exact ⟨s, visit_visited hlookup', grows_refl s⟩
        | none =>
          have := unopened_cons_lt hmem hlookup'
          exact ih hc (by omega) hn
      obtain ⟨final, hfinal, hgrows⟩ := visitRules_complete henter hclean.checked (le_refl _) hinner
      refine ⟨(chain, .visited) :: final, ?_, grows_close hgrows⟩
      simp only [visit, hlook, hfinal]

theorem visit_output_clean_iff :
    (visit table allowed candidateMark (table.userChains.length + 2) outputChain []).1 = .clean ↔
      CleanChain table allowed candidateMark outputChain := by
  constructor
  · intro h
    have hvisited : VisitedClean table allowed candidateMark [] := by
      intro c hc
      cases hc
    exact (visit_sound _ hvisited (Prod.ext h rfl)).1
  · intro h
    have hle : unopened table ((outputChain, .visiting) :: []) ≤ table.userChains.length :=
      length_filter_le _ _
    obtain ⟨final, hfinal, -⟩ := visit_complete (table.userChains.length + 2) h
      (show unopened table ((outputChain, .visiting) :: []) + 1 < _ by omega)
      (fun tgt _ hvisiting => by cases hvisiting)
    rw [hfinal]

end

end MishProxy.Cellular
