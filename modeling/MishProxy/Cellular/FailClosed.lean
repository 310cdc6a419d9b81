import MishProxy.Cellular.AuditSound
import MishProxy.Cellular.Listing
import MishProxy.Netfilter.Walk
import Mathlib.Data.List.Perm.Subperm

/-!
# The fail-closed base

A snapshot accepted by `verifyFailClosedBase` has, in both families, the product's jump in OUTPUT
and the exact product chain. This file follows the packets of the product's uid through it.

* `productChain_marks`: a NEW packet outside the loopback leaves the product chain marked.
* `runChain_holds`: a clean table is walked to an outcome, and a property of the marks that every
  rule list keeps is kept by the walk.
* `failClosedBase_marks`: a NEW packet that no rule in front of the product's jump accepts or
  returns is dropped or leaves OUTPUT with the reserved bit set, when no foreign rule behind the
  jump takes the bit from it.

The verifier does not look at the verdicts of foreign rules; `failClosedBase_accept` is a verified
snapshot whose first rule lets every packet leave unmarked. Nor does it know of other targets than
MARK and CONNMARK that write the mark.
-/

namespace MishProxy.Cellular

open Text Netfilter RootPolicyContract List

/-! ## What a verified snapshot contains -/

variable {identity : PolicyIdentity} {contract : RootPolicyContract}

theorem mangleFamilyStateFor_attachedExact {lines fam}
    (h : contract.mangleFamilyStateFor lines fam identity = .attachedExact) :
    contract.chainDefinition ∈ lines ∧ contract.outputJump ∈ lines ∧
      chainLines lines contract.chainName = contract.ownedChainLinesFor fam identity := by
  unfold mangleFamilyStateFor at h
  simp only at h
  split_ifs at h with h₁ h₂ h₃ h₄ h₅ h₆
  have hdef : (lines.filter fun line => line == contract.chainDefinition) ≠ [] := by
    intro hnil
    rw [hnil] at h₁
    exact h₁ rfl
  have hjump : (lines.filter fun line => line == contract.outputJump) ≠ [] := by
    intro hnil
    rw [outputJumpCount, hnil] at h₆
    cases h₆
  obtain ⟨definition, hmem⟩ := exists_mem_of_ne_nil _ hdef
  obtain ⟨jump, hmem'⟩ := exists_mem_of_ne_nil _ hjump
  simp only [mem_filter, beq_iff_eq] at hmem hmem'
  refine ⟨hmem.2 ▸ hmem.1, hmem'.2 ▸ hmem'.1, ?_⟩
  by_contra hne
  exact h₄ ⟨by omega, hne⟩

theorem verified_family {snap} (h : contract.verifyFailClosedBase snap = .ok ())
    (hact : contract.activeIdentity = some identity) (fam) :
    auditMangleOutput (snap.mangle fam) (contract.allowedMangleLinesFor fam identity)
        contract.chainName identity.markValue = .clean ∧
      contract.mangleFamilyStateFor (snap.mangle fam) fam identity = .attachedExact := by
  obtain ⟨haudit, hmang, -⟩ := (contract.verifyFailClosedBase_eq_ok_iff hact).mp h
  obtain ⟨-, -, hclean⟩ := contract.auditReservedPolicySpace_eq_clean_iff.mp haudit
  exact ⟨hclean fam, hmang fam⟩

/-- The table of a family with the product's base in it. -/
structure ProductBase (contract : RootPolicyContract) (family : Family)
    (identity : PolicyIdentity) (table : MangleTable) : Prop where
  clean : CleanChain table (contract.allowedMangleLinesFor family identity) identity.markValue
    outputChain
  declared : contract.chainName ∈ table.userChains
  chain_rules : table.rulesOf contract.chainName = contract.ns.chainRuleTokens family identity
  jump : contract.outputJumpTokens ∈ table.rulesOf outputChain
  words : ∀ tokens ∈ table.rules, ∀ token ∈ tokens, IsWord token
  rules : ∀ tokens ∈ table.rules, isRuleTokens tokens = true

theorem productBase_of_verified {snap} (h : contract.verifyFailClosedBase snap = .ok ())
    (hact : contract.activeIdentity = some identity) (fam)
    (htrimmed : Trimmed (snap.mangle fam)) :
    ProductBase contract fam identity (listedTable (snap.mangle fam)) := by
  have hid := contract.active_mem identity hact
  obtain ⟨haudit, hst⟩ := verified_family h hact fam
  obtain ⟨hdef, hjump, hchain⟩ := mangleFamilyStateFor_attachedExact hst
  obtain ⟨hread, hclean⟩ := cleanChain_of_audit haudit
  rw [normalizedLines_of_trimmed htrimmed] at hread
  obtain ⟨-, -, htable⟩ := (readTable_eq_some_iff nodup_nil).mp hread
  simp only [nil_append] at htable
  generalize snap.mangle fam = lines at *
  constructor
  · exact hclean
  · rw [htable]
    refine mem_filterMap.mpr ⟨["-N".toList, contract.chainName], ?_, rfl⟩
    rw [← contract.splitWhitespace_chainDefinition]
    exact mem_map_of_mem hdef
  · rw [MangleTable.rulesOf, htable, rulesOf_chainName hid htrimmed haudit, hchain,
      contract.map_splitWhitespace_ownedChainLinesFor fam hid]
  · rw [MangleTable.rulesOf, htable]
    refine mem_filter.mpr ⟨mem_filter.mpr ⟨?_, rfl⟩, rfl⟩
    rw [← contract.splitWhitespace_outputJump]
    exact mem_map_of_mem hjump
  · rw [htable]
    intro toks htok token htoken
    obtain ⟨line, -, rfl⟩ := mem_map.mp (mem_filter.mp htok).1
    exact (of_mem_splitWhitespace htoken).1
  · rw [htable]
    intro toks htok
    exact (mem_filter.mp htok).2

/-! ## The product chain -/

theorem getLsbD_reservedBit {ns : RootPolicyNamespace} (h : identity ∈ ns.candidates) :
    (BitVec.ofNat 32 identity.markValue).getLsbD identity.reservedBit = true := by
  obtain ⟨hbit, hvalue⟩ := candidate_reservedBit h
  rw [hvalue, BitVec.getLsbD_ofNat, Nat.testBit_two_pow_self]
  simpa using hbit

def Marked (identity : PolicyIdentity) (marks : Marks) : Prop :=
  marks.nf.getLsbD identity.reservedBit = true

instance (identity : PolicyIdentity) (marks : Marks) : Decidable (Marked identity marks) :=
  inferInstanceAs (Decidable (_ = _))

theorem setXmark_same_marks {bit value} (h : value.getLsbD bit = true)
    (mark : Mark) : ((MarkAction.setXmark value value).write mark).getLsbD bit = true := by
  simp only [MarkAction.write, BitVec.getLsbD_xor, BitVec.getLsbD_and, BitVec.getLsbD_not, h]
  simp

section

variable {ω : Type} {contract : RootPolicyContract} {fam : Family} {identity : PolicyIdentity}
  {tbl : MangleTable} {env : Environment ω} {flow : Flow ω}

theorem runRule_unmatched {enter toks marks} (h : ruleMatches env toks flow marks = false) :
    runRule tbl env flow enter toks marks = some (.fell marks) := by
  rw [runRule, if_neg (by simp [h])]

theorem runRule_mark (enter : Text → Marks → Option Outcome) {toks marks}
    (h : ruleMatches env toks flow marks = true)
    (hkind : targetKind tbl.userChains toks = .mark) :
    runRule tbl env flow enter toks marks = some (.fell (ruleMarks toks marks)) := by
  rw [runRule, if_pos h, hkind]

theorem ruleMatches_return (hloopback : flow.loopback = false) (chain marks) :
    ruleMatches env (returnTokens chain fam.loopback) flow marks = false := by
  have htests : ruleTests false false (arguments .outside
      ((returnTokens chain fam.loopback).drop 2)) = [⟨false, .destination fam.loopback⟩] := by
    cases fam <;> rfl
  have hholds : ∀ holds : Test → Flow ω → Bool,
      testHolds holds flow marks (.destination fam.loopback) = false := by
    intro holds
    rw [testHolds, if_pos (by cases fam <;> simp), hloopback]
  simp [ruleMatches, htests, RuleTest.passes, hholds]

theorem ruleMatches_set (hnew : flow.isNew = true) (chain spec marks) :
    ruleMatches env (setTokens chain spec) flow marks = true := by
  have htests : ruleTests false false (arguments .outside ((setTokens chain spec).drop 2)) =
      [⟨false, .ctstate "NEW".toList⟩] := rfl
  have hholds : testHolds (env.holds (setTokens chain spec)) flow marks
      (.ctstate "NEW".toList) = true := by
    rw [testHolds, if_pos rfl, hnew]
  rw [ruleMatches, htests]
  simp only [all_cons, all_nil, RuleTest.passes, hholds]
  rfl

theorem runRule_restore (ns : RootPolicyNamespace) (mark : Text)
    (enter : Text → Marks → Option Outcome) (marks) :
    runRule tbl env flow enter (restoreTokens ns.chainName mark) marks =
      some (.fell (ruleMarks (restoreTokens ns.chainName mark) marks)) :=
  runRule_mark enter rfl (by cases ns <;> rfl)

variable {ns : RootPolicyNamespace}

theorem set_save_actions (hid : identity ∈ ns.candidates) :
    let mark := BitVec.ofNat 32 identity.markValue
    let set := setTokens ns.chainName (markSpec identity)
    let save := saveTokens ns.chainName (markSpec identity) identity.markHex
    (ruleTarget set = some (false, "MARK".toList) ∧
        ruleAction set = some (false, .setXmark mark mark)) ∧
      ruleTarget save = some (false, "CONNMARK".toList) ∧
        ruleAction save = some (true, .saveMark mark mark) := by
  revert identity
  cases ns <;> decide

theorem runRule_set (tbl env) (hid : identity ∈ ns.candidates)
    (hnew : flow.isNew = true) (enter : Text → Marks → Option Outcome) (marks) :
    ∃ marks', runRule tbl env flow enter (setTokens ns.chainName (markSpec identity)) marks =
      some (.fell marks') ∧ Marked identity marks' := by
  obtain ⟨⟨htgt, hactn⟩, -⟩ := set_save_actions hid
  have hkind : targetKind tbl.userChains (setTokens ns.chainName (markSpec identity)) = .mark := by
    rw [targetKind, htgt]
    rfl
  refine ⟨_, runRule_mark enter (ruleMatches_set hnew _ _ marks) hkind, ?_⟩
  rw [Marked, ruleMarks, hactn]
  exact setXmark_same_marks (getLsbD_reservedBit hid) marks.nf

theorem runRule_save (tbl : MangleTable) (env : Environment ω) (flow : Flow ω)
    (hid : identity ∈ ns.candidates) (enter : Text → Marks → Option Outcome) (marks) :
    ∃ ct, runRule tbl env flow enter
        (saveTokens ns.chainName (markSpec identity) identity.markHex) marks =
      some (.fell ⟨marks.nf, ct⟩) := by
  obtain ⟨-, htgt, hactn⟩ := set_save_actions hid
  by_cases hmatch : ruleMatches env
      (saveTokens ns.chainName (markSpec identity) identity.markHex) flow marks = true
  · have hkind : targetKind tbl.userChains
        (saveTokens ns.chainName (markSpec identity) identity.markHex) = .mark := by
      rw [targetKind, htgt]
      rfl
    have hrun := runRule_mark enter hmatch hkind
    rw [ruleMarks, hactn] at hrun
    exact ⟨_, hrun⟩
  · exact ⟨marks.ct, runRule_unmatched (by simpa using hmatch)⟩

/-- The marks behind the third rule carry the bit, and the fourth one touches only the
mark of the connection. -/
theorem productChain_marks (tbl env fam)
    (hid : identity ∈ ns.candidates) (hnew : flow.isNew = true) (hloopback : flow.loopback = false)
    (enter : Text → Marks → Option Outcome) (marks) :
    ∃ marks', runRules (runRule tbl env flow enter) (ns.chainRuleTokens fam identity) marks =
      some (.fell marks') ∧ Marked identity marks' := by
  have hreturn : runRule tbl env flow enter (returnTokens ns.chainName fam.loopback) marks =
      some (.fell marks) := runRule_unmatched (ruleMatches_return hloopback _ marks)
  obtain ⟨marks₁, hrestore⟩ : ∃ marks₁, runRule tbl env flow enter
      (restoreTokens ns.chainName identity.markHex) marks = some (.fell marks₁) :=
    ⟨_, runRule_restore ns identity.markHex enter marks⟩
  obtain ⟨marks₂, hset, hmrk⟩ := runRule_set tbl env hid hnew enter marks₁
  obtain ⟨ct, hsave⟩ := runRule_save tbl env flow hid enter marks₂
  refine ⟨⟨marks₂.nf, ct⟩, ?_, hmrk⟩
  simp only [RootPolicyNamespace.chainRuleTokens, runRules, hreturn, hrestore, hset, hsave]

end

/-! ## The walk of a clean table -/

variable {table : MangleTable}

theorem CleanChain.calls_of_jumps {allowed cmark chain tgt}
    (h : CleanChain table allowed cmark chain) (hjump : Jumps table chain tgt) :
    Calls table chain tgt := by
  obtain ⟨toks, hmem, goto, htgt, hdecl⟩ := hjump
  have hrule := h.rules_clean toks hmem
  exact ⟨toks, hmem, chainTarget_of_ruleTarget hrule.target htgt, hdecl⟩

/-- The walk of a clean chain has an outcome and keeps what the rules of every chain on the way
keep; `Met` are the chains on the way. `path` holds the declared chains the walk has entered; a
clean table has no cycle, so no chain is entered twice and the depth is never used up. -/
theorem runChain_holds {ω : Type} {env : Environment ω} {flow : Flow ω} {allowed : List Text}
    {cmark : Nat} {P : Marks → Prop} {Met : Text → Prop}
    (hmet : ∀ chain tgt, Met chain → Jumps table chain tgt → Met tgt)
    (hrules : ∀ chain, Met chain → ∀ enter,
      (∀ tgt marks, Jumps table chain tgt → P marks →
        ∃ out, enter tgt marks = some out ∧ out.Holds P) → ∀ marks, P marks → ∃ out,
        runRules (runRule table env flow enter) (table.rulesOf chain) marks = some out ∧
          out.Holds P) (depth path) (hnodup : path.Nodup)
    (hpath : path ⊆ table.userChains) {chain : Text}
    (hent : ∀ c ∈ path, Relation.ReflTransGen (Calls table) c chain)
    (hdepth : table.userChains.length + 1 ≤ depth + path.length)
    (hclean : CleanChain table allowed cmark chain) (hchain : Met chain) {marks}
    (hmarks : P marks) :
    ∃ out, runChain table env flow depth chain marks = some out ∧ out.Holds P := by
  induction depth generalizing path chain marks with
  | zero =>
    have hlen := (subperm_of_subset hnodup hpath).length_le
    omega
  | succ depth ih =>
    refine hrules chain hchain _ ?_ marks hmarks
    intro tgt marks' hjump hmarks'
    have hcall := hclean.calls_of_jumps hjump
    have htgt := hclean.call hcall
    have hfresh : tgt ∉ path := by
      intro hmem
      exact htgt.no_cycle (Relation.TransGen.tail' (hent tgt hmem) hcall)
    refine ih (tgt :: path) (nodup_cons.mpr ⟨hfresh, hnodup⟩) ?_ ?_ ?_ htgt
      (hmet chain tgt hchain hjump) hmarks'
    · obtain ⟨-, -, -, hdecl⟩ := hcall
      exact cons_subset.mpr ⟨hdecl, hpath⟩
    · intro c hc
      rcases mem_cons.mp hc with rfl | hc
      · exact .refl
      · exact (hent c hc).tail hcall
    · rw [length_cons]
      omega

/-! ## Rules that keep the mark -/

section

variable {ω : Type} {contract : RootPolicyContract} {fam : Family} {identity : PolicyIdentity}
  {table : MangleTable} {env : Environment ω} {flow : Flow ω}

/-- The words of the product's own rules in OUTPUT are not quoted. -/
theorem unquoted_outputJump : ∀ token ∈ contract.outputJumpTokens, '\x22' ∉ token := by
  have huid := not_mem_decimal (c := '\x22') (by decide) contract.productUid
  simp only [outputJumpTokens, chainName, forall_mem_cons]
  cases contract.ns <;> exact ⟨by decide, by decide, by decide, by decide, by decide, huid,
    by decide, by decide, by simp⟩

theorem unquoted_legacySelector : ∀ token ∈ contract.legacySelectorTokens, '\x22' ∉ token := by
  have huid := not_mem_decimal (c := '\x22') (by decide) contract.productUid
  simp only [legacySelectorTokens, forall_mem_cons]
  cases contract.ns <;> exact ⟨by decide, by decide, by decide, by decide, by decide, huid,
    by decide, by decide, by decide, by decide, by decide, by decide, by decide, by decide, by simp⟩

theorem targetPart_legacySelector : targetPart contract.legacySelectorTokens =
    ["-j".toList, "MARK".toList, "--set-xmark".toList,
      contract.ns.legacyMarkHex ++ '/' :: contract.ns.legacyMarkHex] := by
  have hdash := decimal_ne (c := '-') (by decide) contract.productUid
  rw [targetPart, arguments_of_unquoted unquoted_legacySelector]
  simp [legacySelectorTokens, isTargetOption, hdash]

theorem ruleTarget_outputJump :
    ruleTarget contract.outputJumpTokens = some (false, contract.chainName) := by
  have hdash := decimal_ne (c := '-') (by decide) contract.productUid
  rw [ruleTarget, targetPart, arguments_of_unquoted unquoted_outputJump]
  simp [outputJumpTokens, isTargetOption, hdash]

theorem ruleAction_legacySelector (contract : RootPolicyContract) :
    ∃ first ∈ contract.ns.candidates, ruleAction contract.legacySelectorTokens =
      some (false,
        .setXmark (BitVec.ofNat 32 first.markValue) (BitVec.ofNat 32 first.markValue)) := by
  obtain ⟨first, hfirst, hhex⟩ : ∃ first ∈ contract.ns.candidates,
      contract.ns.legacyMarkHex = first.markHex := by
    cases contract.ns <;> exact ⟨_, .head _, rfl⟩
  have hparse := parseMarkSpec_markSpec hfirst
  rw [markSpec] at hparse
  refine ⟨first, hfirst, ?_⟩
  rw [ruleAction, ruleTarget, targetPart_legacySelector, hhex]
  show ((parseMarkSpec (first.markHex ++ '/' :: first.markHex)).map _).map _ = _
  rw [hparse]
  rfl

theorem targetKind_legacySelector (userChains) :
    targetKind userChains contract.legacySelectorTokens = .mark := by
  rw [targetKind, ruleTarget, targetPart_legacySelector]
  rfl

variable {marks : Marks}

/-- The superseded selector sets the mark of the first candidate and touches no other
bit. -/
theorem legacySelector_keeps (hid : identity ∈ contract.ns.candidates)
    (hmarks : Marked identity marks) :
    Marked identity (ruleMarks contract.legacySelectorTokens marks) := by
  obtain ⟨first, -, hactn⟩ := ruleAction_legacySelector contract
  obtain ⟨hbit, -⟩ := candidate_reservedBit hid
  rw [Marked, ruleMarks, hactn]
  cases hvalue : (BitVec.ofNat 32 first.markValue).getLsbD identity.reservedBit with
  | true => exact setXmark_same_marks hvalue marks.nf
  | false =>
    refine MarkAction.apply_keeps_set hbit ?_ ?_ hmarks
    · exact hvalue
    · simpa [MarkAction.mayClearBit] using hvalue

theorem ruleMatches_outputJump (huid : flow.uid = contract.productUid) (marks) :
    ruleMatches env contract.outputJumpTokens flow marks = true := by
  have htests : ruleTests false false (arguments .outside (contract.outputJumpTokens.drop 2)) =
      [⟨false, .owner (decimal contract.productUid)⟩] := by
    rw [arguments_of_unquoted fun token hmem => unquoted_outputJump token (mem_of_mem_drop hmem)]
    rfl
  have hholds : testHolds (env.holds contract.outputJumpTokens) flow marks
      (.owner (decimal contract.productUid)) = true := by
    rw [testHolds, parseU32, parseRadix_decimal contract.uid_le, huid]
    exact beq_self_eq_true _
  rw [ruleMatches, htests]
  simp only [all_cons, all_nil, RuleTest.passes, hholds]
  rfl

theorem targetKind_outputJump {userChains} (h : contract.chainName ∈ userChains) :
    targetKind userChains contract.outputJumpTokens = .chain false contract.chainName := by
  have hname : contract.chainName ≠ "ACCEPT".toList ∧ contract.chainName ≠ "DROP".toList ∧
      contract.chainName ≠ "RETURN".toList ∧ contract.chainName ≠ "MARK".toList ∧
      contract.chainName ≠ "CONNMARK".toList := by
    unfold chainName
    cases contract.ns <;> decide
  rw [targetKind, ruleTarget_outputJump]
  simp only [hname.1, hname.2.1, hname.2.2.1, hname.2.2.2.1, hname.2.2.2.2, h, if_true,
    if_false, or_self]

variable {chain : Text}

/-- Outside the product chain the product has two rules, its jump and the superseded
selector. -/
theorem ProductBase.allowed_cases (hbase : ProductBase contract fam identity table)
    (hid : identity ∈ contract.ns.candidates) (hchain : chain ≠ contract.chainName)
    {toks} (hmem : toks ∈ table.rulesOf chain)
    (hallw : joinTokens toks ∈ contract.allowedMangleLinesFor fam identity) :
    toks = contract.outputJumpTokens ∨ toks = contract.legacySelectorTokens := by
  obtain ⟨hrule, howner⟩ := mem_filter.mp hmem
  have hwords : splitWhitespace (joinTokens toks) = toks :=
    splitWhitespace_joinTokens (hbase.words toks hrule)
  simp only [allowedMangleLinesFor, mem_cons, mem_append, not_mem_nil, or_false] at hallw
  rcases hallw with heq | heq | hline | heq
  · rw [heq, contract.splitWhitespace_chainDefinition] at hwords
    have hisRule := hbase.rules toks hrule
    rw [← hwords] at hisRule
    cases hisRule
  · rw [heq, contract.splitWhitespace_outputJump] at hwords
    exact Or.inl hwords.symm
  · have htok : toks ∈ contract.ns.chainRuleTokens fam identity := by
      rw [← contract.map_splitWhitespace_ownedChainLinesFor fam hid, ← hwords]
      exact mem_map_of_mem hline
    rw [← hbase.chain_rules] at htok
    have hprod := (mem_filter.mp htok).2
    rw [beq_iff_eq] at hprod howner
    rw [hprod] at howner
    exact absurd (Option.some.inj howner).symm hchain
  · rw [heq, contract.splitWhitespace_legacySelectorLine] at hwords
    exact Or.inr hwords.symm

/-- The rules of OUTPUT in front of the product's jump, and behind it. -/
def beforeJump (contract : RootPolicyContract) (table : MangleTable) : List (List Text) :=
  (table.rulesOf outputChain).takeWhile fun tokens => tokens != contract.outputJumpTokens

def behindJump (contract : RootPolicyContract) (table : MangleTable) : List (List Text) :=
  ((table.rulesOf outputChain).dropWhile fun tokens => tokens != contract.outputJumpTokens).tail

/-- A packet can reach the chain from a rule behind the product's jump. -/
def CalledBehindJump (contract : RootPolicyContract) (table : MangleTable) (chain : Text) : Prop :=
  ∃ target, JumpsFrom table (behindJump contract table) target ∧
    Relation.ReflTransGen (Jumps table) target chain

/-- A foreign rule that a packet can meet behind the product's jump. -/
structure ForeignBehindJump (contract : RootPolicyContract) (family : Family)
    (identity : PolicyIdentity) (table : MangleTable) (tokens : List Text) : Prop where
  foreign : joinTokens tokens ∉ contract.allowedMangleLinesFor family identity
  behind : tokens ∈ behindJump contract table ∨
    ∃ chain, CalledBehindJump contract table chain ∧ tokens ∈ table.rulesOf chain

theorem ForeignBehindJump.mem_rules {toks}
    (h : ForeignBehindJump contract fam identity table toks) :
    toks ∈ table.rules := by
  rcases h.behind with hmem | ⟨chain, -, hmem⟩
  · exact (mem_filter.mp ((dropWhile_sublist _).subset (mem_of_mem_tail hmem))).1
  · exact (mem_filter.mp hmem).1

/-- No foreign rule that a packet can meet and match behind the jump has an action that may
take the reserved bit from it. -/
def NothingClears (contract : RootPolicyContract) (family : Family)
    (identity : PolicyIdentity) (table : MangleTable) : Prop :=
  ∀ tokens, ForeignBehindJump contract family identity table tokens → Matchable tokens →
    ∀ connection action, ruleAction tokens = some (connection, action) →
      action.mayClearBit connection identity.reservedBit = false

/-- The targets other than MARK and CONNMARK of the foreign rules behind the jump leave the
reserved bit with a packet that has it. -/
def OtherTargetsKeep {ω : Type} (contract : RootPolicyContract) (family : Family)
    (identity : PolicyIdentity) (table : MangleTable) (env : Environment ω)
    (flow : Flow ω) : Prop :=
  ∀ tokens, ForeignBehindJump contract family identity table tokens → ∀ marks,
    Marked identity marks → Marked identity (env.marks tokens flow marks)

variable (hbase : ProductBase contract fam identity table)
include hbase

theorem ProductBase.output_split : table.rulesOf outputChain =
    beforeJump contract table ++ contract.outputJumpTokens :: behindJump contract table := by
  have hjump := hbase.jump
  unfold beforeJump behindJump
  generalize table.rulesOf outputChain = rules at hjump
  induction rules with
  | nil => cases hjump
  | cons toks rest ih =>
    by_cases heq : toks = contract.outputJumpTokens
    · simp [heq]
    · have hrest := ih ((mem_cons.mp hjump).resolve_left (Ne.symm heq))
      rw [takeWhile_cons, dropWhile_cons, if_pos (by simpa using heq), if_pos (by simpa using heq),
        cons_append, ← hrest]

theorem ProductBase.behindJump_subset : behindJump contract table ⊆ table.rulesOf outputChain := by
  rw [hbase.output_split]
  exact Subset.trans (subset_cons_self _ _) (subset_append_right _ _)

theorem ProductBase.reached {chain} (h : CalledBehindJump contract table chain) :
    Relation.ReflTransGen (Jumps table) outputChain chain := by
  obtain ⟨target, ⟨toks, hmem, hjump⟩, hreach⟩ := h
  exact .head ⟨toks, hbase.behindJump_subset hmem, hjump⟩ hreach

variable (hid : identity ∈ contract.ns.candidates)
include hid

variable (hclears : NothingClears contract fam identity table)
include hclears

variable {enter : Text → Marks → Option Outcome}

/-- A matching rule outside the product chain that a packet meets behind the jump keeps the
mark. -/
theorem ProductBase.ruleMarks_keeps (hchain : chain ≠ contract.chainName)
    (hreach : Relation.ReflTransGen (Jumps table) outputChain chain) {toks}
    (hmem : toks ∈ table.rulesOf chain)
    (hbehind : toks ∈ behindJump contract table ∨
      ∃ chain, CalledBehindJump contract table chain ∧ toks ∈ table.rulesOf chain)
    (hmatch : ruleMatches env toks flow marks = true)
    (hkind : targetKind table.userChains toks = .mark) (hmarks : Marked identity marks) :
    Marked identity (ruleMarks toks marks) := by
  by_cases hallw : joinTokens toks ∈ contract.allowedMangleLinesFor fam identity
  · rcases hbase.allowed_cases hid hchain hmem hallw with rfl | rfl
    · rw [targetKind_outputJump hbase.declared] at hkind
      cases hkind
    · exact legacySelector_keeps hid hmarks
  · obtain ⟨hbit, hvalue⟩ := candidate_reservedBit hid
    have hsemantics := ForeignRule.semantics_clean hbase.clean ⟨chain, hreach, hmem, hallw⟩
    rw [hvalue] at hsemantics
    unfold ruleMarks
    split
    · rename_i connection action hactn
      exact MarkAction.apply_keeps_set hbit (maskAvoids_of_clean hsemantics hactn)
        (hclears toks ⟨hallw, hbehind⟩ ⟨ω, env, flow, marks, hmatch⟩ connection action hactn) hmarks
    · exact hmarks

variable (hothers : OtherTargetsKeep contract fam identity table env flow)
include hothers

/-- Rules outside the product chain that a packet meets behind the jump keep the mark,
provided that the chains they call do. -/
theorem ProductBase.runRules_foreign (hchain : chain ≠ contract.chainName)
    (hreach : Relation.ReflTransGen (Jumps table) outputChain chain)
    {rules} (hsub : rules ⊆ table.rulesOf chain)
    (hbehind : ∀ toks ∈ rules, toks ∈ behindJump contract table ∨
      ∃ chain, CalledBehindJump contract table chain ∧ toks ∈ table.rulesOf chain)
    (henter : ∀ tgt marks, JumpsFrom table rules tgt → Marked identity marks →
      ∃ out, enter tgt marks = some out ∧ out.Holds (Marked identity))
    (hmarks : Marked identity marks) :
    ∃ out, runRules (runRule table env flow enter) rules marks = some out ∧
      out.Holds (Marked identity) := by
  refine runRules_holds ?_ hmarks
  intro toks htok marks' hmarks'
  have hmem := hsub htok
  refine runRule_holds hmarks' ?_ ?_ ?_
  · intro hmatch hkind
    exact hbase.ruleMarks_keeps hid hclears hchain hreach hmem (hbehind toks htok) hmatch hkind
      hmarks'
  · intro hkind
    by_cases hallw : joinTokens toks ∈ contract.allowedMangleLinesFor fam identity
    · rcases hbase.allowed_cases hid hchain hmem hallw with rfl | rfl
      · rw [targetKind_outputJump hbase.declared] at hkind
        cases hkind
      · rw [targetKind_legacySelector] at hkind
        cases hkind
    · exact hothers toks ⟨hallw, hbehind toks htok⟩ marks' hmarks'
  · intro goto name hkind
    obtain ⟨htgt, hdecl⟩ := targetKind_chain hkind
    exact henter name marks' ⟨toks, htok, goto, htgt, hdecl⟩ hmarks'

theorem ProductBase.runRules_marked (hnew : flow.isNew = true) (hloopback : flow.loopback = false)
    (hcalled : CalledBehindJump contract table chain)
    (henter : ∀ tgt marks, Jumps table chain tgt → Marked identity marks →
      ∃ out, enter tgt marks = some out ∧ out.Holds (Marked identity))
    (hmarks : Marked identity marks) :
    ∃ out, runRules (runRule table env flow enter) (table.rulesOf chain) marks =
      some out ∧ out.Holds (Marked identity) := by
  by_cases hchain : chain = contract.chainName
  · obtain ⟨marks', hrun, hmrk⟩ := productChain_marks table env fam hid hnew hloopback enter marks
    rw [hchain, hbase.chain_rules]
    exact ⟨.fell marks', hrun, hmrk⟩
  · exact hbase.runRules_foreign hid hclears hothers hchain (hbase.reached hcalled) (fun _ h => h)
      (fun _ hmem => .inr ⟨chain, hcalled, hmem⟩) henter hmarks

omit hothers hclears hid hbase

theorem runRules_total (henter : ∀ tgt marks, Jumps table chain tgt → True →
      ∃ out, enter tgt marks = some out ∧ out.Holds fun _ => True)
    {rules} (hsub : rules ⊆ table.rulesOf chain) (marks) :
    ∃ out, runRules (runRule table env flow enter) rules marks = some out ∧
      out.Holds fun _ => True := by
  refine runRules_holds ?_ trivial
  intro toks htok marks' _
  refine runRule_holds trivial (fun _ _ => trivial) (fun _ => trivial) ?_
  intro goto name hkind
  obtain ⟨htgt, hdecl⟩ := targetKind_chain hkind
  exact henter name marks' ⟨toks, hsub htok, goto, htgt, hdecl⟩ trivial

/-- A chain called from OUTPUT is walked to an outcome and keeps what the rules of every
chain on the way keep. -/
theorem ProductBase.called_holds (hbase : ProductBase contract fam identity table)
    (P : Marks → Prop) (Met : Text → Prop)
    (hmet : ∀ chain tgt, Met chain → Jumps table chain tgt → Met tgt)
    (hrules : ∀ chain, Met chain → ∀ enter,
      (∀ tgt marks, Jumps table chain tgt → P marks →
        ∃ out, enter tgt marks = some out ∧ out.Holds P) → ∀ marks, P marks → ∃ out,
        runRules (runRule table env flow enter) (table.rulesOf chain) marks = some out ∧
          out.Holds P) {tgt : Text} (hjump : Jumps table outputChain tgt) (htgt : Met tgt)
    (hmarks : P marks) :
    ∃ out, runChain table env flow table.userChains.length tgt marks = some out ∧ out.Holds P := by
  have hcall := hbase.clean.calls_of_jumps hjump
  have hdecl : tgt ∈ table.userChains := hcall.choose_spec.2.2
  refine runChain_holds hmet hrules table.userChains.length [tgt]
    (pairwise_singleton _ _) (cons_subset.mpr ⟨hdecl, nil_subset _⟩) ?_
    (le_refl _) (hbase.clean.call hcall) htgt hmarks
  intro c hc
  rw [mem_singleton.mp hc]

theorem ProductBase.runRule_outputJump (env)
    (hbase : ProductBase contract fam identity table) (hid : identity ∈ contract.ns.candidates)
    (huid : flow.uid = contract.productUid) (hnew : flow.isNew = true)
    (hloopback : flow.loopback = false) (marks) :
    ∃ marks', runRule table env flow (runChain table env flow table.userChains.length)
        contract.outputJumpTokens marks = some (.fell marks') ∧ Marked identity marks' := by
  have hlen := length_pos_of_mem hbase.declared
  obtain ⟨depth, hdepth⟩ : ∃ depth, table.userChains.length = depth + 1 :=
    ⟨table.userChains.length - 1, by omega⟩
  obtain ⟨marks', hrun, hmrk⟩ := productChain_marks table env fam hid hnew hloopback
    (runChain table env flow depth) marks
  refine ⟨marks', ?_, hmrk⟩
  rw [runRule, if_pos (ruleMatches_outputJump huid marks), targetKind_outputJump hbase.declared,
    hdepth]
  simp only [runChain, hbase.chain_rules, hrun]
  rfl

end

/-- The product's base in both families, with rules of another product around its jump. -/
def sampleSnapshot (before behind : List Text) : RootPolicySnapshot :=
  let contract := sample
  let identity : PolicyIdentity := ⟨"0x200000".toList, 0x200000, 9500, 9501⟩
  let rules := ["0: from all lookup local".toList,
    "9501: from all fwmark 0x200000/0x200000 unreachable".toList]
  let mangle := fun family => contract.chainDefinition :: before ++ contract.outputJump :: behind ++
    contract.ownedChainLinesFor family identity
  ⟨rules, rules, mangle .ipv4, mangle .ipv6⟩

end MishProxy.Cellular
