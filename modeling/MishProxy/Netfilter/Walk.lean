import MishProxy.Netfilter.Rule

/-!
# The walk of a packet through the chains

A packet meets the rules of a chain in order. The first terminal verdict ends the walk,
a jump comes back behind the calling rule, and a goto comes back behind the rule that
called the present chain. The walk of a chain takes a bound on the depth of the calls;
without enough depth it has no outcome.

* `runRules_append` cuts the walk of a rule list in two.
* `runRules_holds` is the invariant rule: when every rule of the list has an outcome
  and keeps a property of the marks, so does the list.
-/

namespace MishProxy.Netfilter

open Text Cellular

/-- How a packet leaves a rule or a chain: behind its end, by a return, or with a
verdict. -/
inductive Outcome where
  | fell (marks : Marks)
  | returned (marks : Marks)
  | accepted (marks : Marks)
  | dropped
  deriving DecidableEq

/-- The marks the packet leaves with have the property; a dropped packet has none. -/
def Outcome.Holds (P : Marks → Prop) : Outcome → Prop
  | fell marks => P marks
  | returned marks => P marks
  | accepted marks => P marks
  | dropped => True

/-- The outcome of a called chain for the calling rule. -/
def Outcome.back (goto : Bool) : Outcome → Outcome
  | fell marks => if goto then .returned marks else .fell marks
  | returned marks => if goto then .returned marks else .fell marks
  | accepted marks => .accepted marks
  | dropped => .dropped

theorem Outcome.Holds.back {P : Marks → Prop} {out : Outcome} (h : out.Holds P)
    (goto : Bool) : (out.back goto).Holds P := by
  cases out <;> cases goto <;> exact h

/-- What the target of a rule asks for. -/
inductive TargetKind where
  | absent
  | accept
  | drop
  | ret
  | mark
  | chain (goto : Bool) (name : Text)
  | other
  deriving DecidableEq

def targetKind (userChains : List Text) (tokens : List Text) : TargetKind :=
  match ruleTarget tokens with
  | none => .absent
  | some (goto, name) =>
      if name = "ACCEPT".toList then .accept
      else if name = "DROP".toList then .drop
      else if name = "RETURN".toList then .ret
      else if name = "MARK".toList ∨ name = "CONNMARK".toList then .mark
      else if name ∈ userChains then .chain goto name
      else .other

section

variable {ω : Type} (table : MangleTable) (env : Environment ω) (flow : Flow ω)

/-- The outcome of one rule; `fell` hands the packet to the next rule. -/
def runRule (enter : Text → Marks → Option Outcome) (tokens : List Text) (marks : Marks) :
    Option Outcome :=
  if ruleMatches env tokens flow marks then
    match targetKind table.userChains tokens with
    | .absent => some (.fell marks)
    | .accept => some (.accepted marks)
    | .drop => some .dropped
    | .ret => some (.returned marks)
    | .mark => some (.fell (ruleMarks tokens marks))
    | .chain goto name => (enter name marks).map (Outcome.back goto)
    | .other =>
        match env.verdict tokens flow with
        | .proceed => some (.fell (env.marks tokens flow marks))
        | .accept => some (.accepted (env.marks tokens flow marks))
        | .drop => some .dropped
  else some (.fell marks)

def runRules (run : List Text → Marks → Option Outcome) :
    List (List Text) → Marks → Option Outcome
  | [], marks => some (.fell marks)
  | tokens :: rest, marks =>
      match run tokens marks with
      | some (.fell marks') => runRules run rest marks'
      | other => other

def runChain : Nat → Text → Marks → Option Outcome
  | 0, _, _ => none
  | depth + 1, chain, marks =>
      runRules (runRule table env flow (runChain depth)) (table.rulesOf chain) marks

end

theorem runRules_append (run : List Text → Marks → Option Outcome) (first second marks) :
    runRules run (first ++ second) marks = match runRules run first marks with
      | some (.fell marks') => runRules run second marks'
      | other => other := by
  induction first generalizing marks with
  | nil => rfl
  | cons toks rest ih =>
    simp only [List.cons_append, runRules]
    cases hrun : run toks marks with
    | none => rfl
    | some out =>
      cases out with
      | fell marks' => exact ih marks'
      | returned marks' | accepted marks' | dropped => rfl

theorem runRules_holds {run P rules}
    (h : ∀ toks ∈ rules, ∀ marks, P marks → ∃ out, run toks marks = some out ∧ out.Holds P)
    {marks} (hmarks : P marks) : ∃ out, runRules run rules marks = some out ∧ out.Holds P := by
  induction rules generalizing marks with
  | nil => exact ⟨.fell marks, rfl, hmarks⟩
  | cons toks rest ih =>
    obtain ⟨hfirst, hrest⟩ := List.forall_mem_cons.mp h
    obtain ⟨out, hrun, hout⟩ := hfirst marks hmarks
    simp only [runRules, hrun]
    cases out with
    | fell marks' => exact ih hrest hout
    | returned marks' => exact ⟨.returned marks', rfl, hout⟩
    | accepted marks' => exact ⟨.accepted marks', rfl, hout⟩
    | dropped => exact ⟨.dropped, rfl, trivial⟩

/-- One rule keeps a property that its mark action, its other target and every chain it
calls keep. -/
theorem runRule_holds {ω : Type} {tbl : MangleTable} {env : Environment ω} {flow : Flow ω}
    {enter : Text → Marks → Option Outcome} {P : Marks → Prop} {toks : List Text}
    {marks : Marks} (hmarks : P marks)
    (hmark : ruleMatches env toks flow marks = true →
      targetKind tbl.userChains toks = .mark → P (ruleMarks toks marks))
    (hother : targetKind tbl.userChains toks = .other → P (env.marks toks flow marks))
    (hcall : ∀ goto name, targetKind tbl.userChains toks = .chain goto name →
      ∃ out, enter name marks = some out ∧ out.Holds P) :
    ∃ out, runRule tbl env flow enter toks marks = some out ∧ out.Holds P := by
  unfold runRule
  by_cases hmatch : ruleMatches env toks flow marks = true
  · rw [if_pos hmatch]
    cases hkind : targetKind tbl.userChains toks with
    | absent | accept | ret => exact ⟨_, rfl, hmarks⟩
    | drop => exact ⟨_, rfl, trivial⟩
    | mark => exact ⟨_, rfl, hmark hmatch hkind⟩
    | chain goto name =>
      obtain ⟨out, henter, hout⟩ := hcall goto name hkind
      exact ⟨out.back goto, by simp only [henter, Option.map_some], hout.back goto⟩
    | other =>
      cases env.verdict toks flow with
      | proceed | accept => exact ⟨_, rfl, hother hkind⟩
      | drop => exact ⟨_, rfl, trivial⟩
  · rw [if_neg hmatch]
    exact ⟨_, rfl, hmarks⟩

theorem targetKind_chain {userChains toks goto name}
    (h : targetKind userChains toks = .chain goto name) :
    ruleTarget toks = some (goto, name) ∧ name ∈ userChains := by
  unfold targetKind at h
  split at h
  · cases h
  · rename_i goto' name' htgt
    split_ifs at h with _ _ _ _ hmem
    cases h
    exact ⟨htgt, hmem⟩

end MishProxy.Netfilter
