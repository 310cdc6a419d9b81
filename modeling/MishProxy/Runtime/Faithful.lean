import MishProxy.Cellular.OwnedRules
import MishProxy.Netfilter.ProductRules
import MishProxy.Runtime.Kernel

/-!
# The removal loops on a faithful kernel

When every observation succeeds, each removal of the transaction has a functional
description: the rules it is for are filtered out of the kernel and everything else is as
before. The bounded loops need that there are not more copies than passes.

* `ends_removeOwnedIpv4Lookups`: the owned lookups.
* `ends_removeAllOutputJumps`, `ends_removeLegacySelector`: a rule of a mangle table.
* `ends_removeGuard`, `fails_removeGuard`: the guards. The loop over guards has no last
  look, so it needs a pass to spare.
* `Faithful.ends_probeAuthority`: root is granted and nothing is changed.
-/

namespace MishProxy.Runtime

open Text Cellular Routing Netfilter Effects Effects.Exec Session Kernel RootPolicyContract List
  Function Option

/-- Observations succeed and show the kernel, and the root session is there. -/
structure Faithful (env : KernelEnvironment) : Prop where
  fails : ∀ n, env.fails n = none
  raw : ∀ n, env.raw n = none
  generation : ∀ n, (env.generation n).isSome = true

variable {env : KernelEnvironment} {ker : Kernel} {con : RootPolicyContract}
  {ident : PolicyIdentity} {fam : Family}

namespace Faithful

variable {E : RootPolicyFailure → Kernel → Prop}

variable (henv : Faithful env)
include henv

theorem ends_rules {Q} : Ends (readLines (kernelIo env) (.ruleShow fam)) Q E ker ↔
      Q (ker.ruleLines fam) ker.tick := by
  simp [ends_readRules, henv.fails]

theorem ends_mangle {Q} : Ends (readLines (kernelIo env) (.mangleShow fam)) Q E ker ↔
      Q (ker.mangleLines fam) ker.tick := by
  simp [ends_readMangle, henv.fails]

theorem ends_check {spec Q} : Ends (readResult (kernelIo env) (.mangle fam (.check spec))) Q E ker ↔
      Q (result (if ker.hasRule fam spec then 0 else 1) []) ker.tick := by
  rw [ends_readResult]
  simp [henv.fails, observation]

theorem ends_raw {cmd Q E} : Ends ((kernelIo env).rawObservation cmd) Q E ker ↔
      Q (ker.observation env cmd) ker.tick := by
  unfold Ends kernelIo
  simp [henv.raw]

theorem ends_snapshot {Q} : Ends (readSnapshot (kernelIo env)) Q E ker ↔
      Q ker.snapshot ker.tick.tick.tick.tick := by
  unfold readSnapshot
  simp only [ends_bind, henv.ends_rules, henv.ends_mangle, ends_pure]
  rfl

end Faithful

theorem ownedChainLinesOf_of_active (hact : con.activeIdentity = some ident) :
    ownedChainLinesOf con fam = some (con.ownedChainLinesFor fam ident) := by
  cases fam
  · rw [ownedChainLinesOf, ipv4OwnedChainLines, hact]
    rfl
  · rw [ownedChainLinesOf, ipv6OwnedChainLines, hact]
    rfl

/-! ## Frames -/

/-- Nothing but the mangle table of the family has changed. -/
structure OnlyMangle (family : Family) (kernel after : Kernel) : Prop where
  rpdb : after.rpdb = kernel.rpdb
  others : ∀ other, other ≠ family → after.mangle other = kernel.mangle other

namespace OnlyMangle

variable {after : Kernel}

theorem refl (fam ker) : OnlyMangle fam ker ker := ⟨rfl, fun _ _ => rfl⟩

theorem tick (h : OnlyMangle fam ker after) : OnlyMangle fam ker after.tick := ⟨h.rpdb, h.others⟩

theorem set (h : OnlyMangle fam ker after) (tbl cmd) :
    OnlyMangle fam ker ((after.setMangle fam tbl).logged cmd) := by
  refine ⟨h.rpdb, fun other hoth => ?_⟩
  rw [mangle_logged, mangle_setMangle, update_of_ne hoth, h.others other hoth]

end OnlyMangle

/-- Rules of the family outside `kept` were removed, and nothing else. -/
structure RulesRemoved (family : Family) (kept : RpdbRule → Bool) (kernel after : Kernel) :
    Prop where
  mangle : after.mangle = kernel.mangle
  others : ∀ other, other ≠ family → after.rpdb other = kernel.rpdb other
  subset : after.rpdb family ⊆ kernel.rpdb family
  rest : (after.rpdb family).filter kept = (kernel.rpdb family).filter kept

namespace RulesRemoved

variable {kept : RpdbRule → Bool} {after : Kernel}

theorem refl (fam kept ker) : RulesRemoved fam kept ker ker :=
  ⟨rfl, fun _ _ => rfl, Subset.refl _, rfl⟩

theorem tick (h : RulesRemoved fam kept ker after) : RulesRemoved fam kept ker after.tick :=
  ⟨h.mangle, h.others, h.subset, h.rest⟩

theorem done (h : RulesRemoved fam kept ker after)
    (hkept : ∀ rule ∈ after.rpdb fam, kept rule = true) : after.mangle = ker.mangle ∧
      after.rpdb = update ker.rpdb fam ((ker.rpdb fam).filter kept) := by
  refine ⟨h.mangle, funext fun other => ?_⟩
  by_cases hoth : other = fam
  · subst hoth
    rw [update_self, ← h.rest, filter_eq_self.mpr hkept]
  · rw [update_of_ne hoth, h.others other hoth]

theorem delete (h : RulesRemoved fam kept ker after) {before rule behind}
    (hsplit : after.rpdb fam = before ++ rule :: behind) (hrule : kept rule = false) (cmd) :
    RulesRemoved fam kept ker ((after.setRpdb fam (before ++ behind)).logged cmd) := by
  have hsub := h.subset
  have hrest := h.rest
  rw [hsplit] at hsub hrest
  refine ⟨h.mangle, fun other hoth => ?_, ?_, ?_⟩
  · rw [rpdb_logged, rpdb_setRpdb, update_of_ne hoth, h.others other hoth]
  · rw [rpdb_logged, rpdb_setRpdb, update_self]
    exact Subset.trans ((sublist_cons_self rule behind).append_left before).subset hsub
  · rw [rpdb_logged, rpdb_setRpdb, update_self, ← hrest]
    simp [hrule]

end RulesRemoved

variable {rules : List RpdbRule}

theorem exists_deleteFirst {attributes : RuleAttributes} {rule} (hrule : rule ∈ rules)
    (hsel : attributes.selects rule = true) :
    ∃ before removed after, rules = before ++ removed :: after ∧
      deleteFirst attributes rules = some (before ++ after) ∧
      attributes.selects removed = true := by
  have hdel : deleteFirst attributes rules = some (rules.eraseP attributes.selects) := by
    rw [deleteFirst, if_pos (any_eq_true.mpr ⟨rule, hrule, hsel⟩)]
  obtain ⟨before, removed, after, hsplit, hrest, hrem⟩ := deleteFirst_eq_some hdel
  exact ⟨before, removed, after, hsplit, hdel.trans (congrArg some hrest), hrem⟩

/-! ## Owned lookups -/

/-- The table of the owned lookup the rule is recognised as. -/
abbrev lookupOf (identity : PolicyIdentity) (rule : RpdbRule) : Option Text :=
  ownedLookupTable rule.line identity

/-- Every recognised lookup has the attributes the product's own commands name. -/
def ProductLookups (identity : PolicyIdentity) (rules : List RpdbRule) : Prop :=
  ∀ rule ∈ rules, ∀ table, lookupOf identity rule = some table →
    (lookupAttributes identity table).selects rule = true

def lookupCount (identity : PolicyIdentity) (table : Text) (rules : List RpdbRule) : Nat :=
  rules.countP fun rule => lookupOf identity rule == some table

theorem lookupCount_pos {tbl : Text} :
    0 < lookupCount ident tbl rules ↔ ∃ rule ∈ rules, lookupOf ident rule = some tbl := by
  simp [lookupCount, countP_pos_iff]

/-- The rules that are not recognised as lookups. -/
def withoutLookups (identity : PolicyIdentity) (rules : List RpdbRule) : List RpdbRule :=
  rules.filter fun rule => lookupOf identity rule == none

theorem deleteFirst_lookup {ns : RootPolicyNamespace} (hid : ident ∈ ns.candidates)
    (hprod : ProductLookups ident rules) {tbl : Text}
    (hpos : 0 < lookupCount ident tbl rules) :
    ∃ before rule after, rules = before ++ rule :: after ∧
      deleteFirst (lookupAttributes ident tbl) rules = some (before ++ after) ∧
      lookupOf ident rule = some tbl := by
  obtain ⟨rule, hrule, htable⟩ := lookupCount_pos.mp hpos
  have hsafe : isSafeTableToken tbl = true := ((ownedLookupTable_line_iff hid).mp htable).2.2.2
  obtain ⟨before, removed, after, hsplit, hdel, hrem⟩ :=
    exists_deleteFirst hrule (hprod rule hrule tbl htable)
  refine ⟨before, removed, after, hsplit, hdel, ?_⟩
  -- the removed rule is recognised, and its action says for which table
  obtain ⟨word, hword⟩ := ownedLookup_of_selects hid hsafe hrem
  have hmem : removed ∈ rules := by
    rw [hsplit]
    exact mem_append_right _ (.head _)
  have hactn := hprod removed hmem word hword
  simp only [RuleAttributes.selects, lookupAttributes, Bool.and_eq_true, beq_iff_eq]
    at hactn hrem
  rw [hactn.2] at hrem
  rw [← RpdbAction.lookup.inj hrem.2]
  exact hword

/-- Lookups were removed from the kernel, and nothing else. -/
abbrev LookupsRemoved (identity : PolicyIdentity) :=
  RulesRemoved .ipv4 fun rule => lookupOf identity rule == none

variable {E : RootPolicyFailure → Kernel → Prop}

/-- One deletion for each of the tables, each of which has a lookup. -/
theorem ends_deleteLookups (hact : con.activeIdentity = some ident) {start failure tables n}
    (hprod : ProductLookups ident (start.rpdb .ipv4)) (hnodup : tables.Nodup)
    (hrem : LookupsRemoved ident start ker)
    (hsome : ∀ tbl ∈ tables, 0 < lookupCount ident tbl (ker.rpdb .ipv4))
    (hcount : ∀ tbl, lookupCount ident tbl (ker.rpdb .ipv4) ≤ if tbl ∈ tables then n + 1 else n) :
    Ends (deleteLookups (kernelIo env) con failure tables)
      (fun _ after => LookupsRemoved ident start after ∧
        ∀ tbl, lookupCount ident tbl (after.rpdb .ipv4) ≤ n) E ker := by
  have hid := con.active_mem ident hact
  refine ends_forEach (fun rest after => rest.Nodup ∧ LookupsRemoved ident start after ∧
      (∀ tbl ∈ rest, 0 < lookupCount ident tbl (after.rpdb .ipv4)) ∧
      ∀ tbl, lookupCount ident tbl (after.rpdb .ipv4) ≤
        if tbl ∈ rest then n + 1 else n) ?_ ?_ tables ker ⟨hnodup, hrem, hsome, hcount⟩
  · rintro tbl rest after ⟨hnodup, hrem, hsome, hcount⟩
    obtain ⟨hfresh, hnodup⟩ := nodup_cons.mp hnodup
    have hpos := hsome tbl (.head _)
    obtain ⟨recognised, -, htable⟩ := lookupCount_pos.mp hpos
    have hsafe : isSafeTableToken tbl = true := ((ownedLookupTable_line_iff hid).mp htable).2.2.2
    obtain ⟨before, rule, behind, hsplit, hdel, hrule⟩ := deleteFirst_lookup hid
      (fun rule hrule => hprod rule (hrem.subset hrule)) hpos
    have hbuild : ipv4LookupDelete con tbl =
        some (.ruleDelete .ipv4 (lookupAttributes ident tbl)) := by
      rw [ipv4LookupDelete, if_pos hsafe, hact, map_some]
    have happly : after.apply (.ruleDelete .ipv4 (lookupAttributes ident tbl)) =
        some (after.setRpdb .ipv4 (before ++ behind)) := by
      rw [apply, hdel, map_some]
    have hcounts (other : Text) : lookupCount ident other (after.rpdb .ipv4) =
        lookupCount ident other (before ++ behind) + if other = tbl then 1 else 0 := by
      rw [hsplit]
      simp only [lookupCount, countP_append, countP_cons, hrule, beq_iff_eq,
        some.injEq, eq_comm (a := other)]
      omega
    rw [ends_bind, hbuild]
    simp only [require, ends_pure, ends_issue, happly, some.injEq, forall_eq', reduceCtorEq,
      false_imp_iff, and_true]
    have hrules : ((after.setRpdb .ipv4 (before ++ behind)).logged
        (.ruleDelete .ipv4 (lookupAttributes ident tbl))).rpdb .ipv4 = before ++ behind := by
      rw [rpdb_logged, rpdb_setRpdb, update_self]
    refine ⟨hnodup, hrem.delete hsplit ?_ _, fun other hoth => ?_, fun other => ?_⟩
    · rw [hrule]
      rfl
    · have hne : other ≠ tbl := fun heq => hfresh (heq ▸ hoth)
      have hbef := hsome other (.tail _ hoth)
      rw [hcounts other, if_neg hne] at hbef
      rwa [hrules]
    · have hbef := hcount other
      rw [hcounts other] at hbef
      rw [hrules]
      by_cases heq : other = tbl
      · subst heq
        rw [if_pos rfl, if_pos (.head _)] at hbef
        rw [if_neg hfresh]
        omega
      · rw [if_neg heq] at hbef
        simpa [heq] using hbef
  · rintro after ⟨-, hrem, -, hcount⟩
    exact ⟨hrem, fun tbl => by simpa using hcount tbl⟩

theorem ends_removeOwnedIpv4Lookups (henv : Faithful env) (hact : con.activeIdentity = some ident)
    (hprod : ProductLookups ident (ker.rpdb .ipv4))
    (hcount : ∀ tbl, lookupCount ident tbl (ker.rpdb .ipv4) ≤ maxReconcilePasses) :
    Ends (removeOwnedIpv4Lookups (kernelIo env) con)
      (fun _ after => after.mangle = ker.mangle ∧ after.rpdb =
        update ker.rpdb .ipv4 (withoutLookups ident (ker.rpdb .ipv4))) E ker := by
  have hnone {after : Kernel} (h : LookupsRemoved ident ker after)
      (hempty : con.ownedIpv4LookupTables (after.ruleLines .ipv4) = []) :
      after.mangle = ker.mangle ∧ after.rpdb =
        update ker.rpdb .ipv4 (withoutLookups ident (ker.rpdb .ipv4)) := by
    rw [con.ownedIpv4LookupTables_of_active hact, ownedLookupTablesFor_eq_nil_iff] at hempty
    exact h.done fun rule hrule => beq_iff_eq.mpr (hempty _ (mem_map_of_mem hrule))
  have hmem {after : Kernel} {tbl : Text} :
      tbl ∈ con.ownedIpv4LookupTables (after.ruleLines .ipv4) ↔
        0 < lookupCount ident tbl (after.rpdb .ipv4) := by
    rw [con.ownedIpv4LookupTables_of_active hact, mem_ownedLookupTablesFor, lookupCount_pos]
    simp [ruleLines]
  refine ends_repeatUntil (fun n after => LookupsRemoved ident ker after ∧
    ∀ tbl, lookupCount ident tbl (after.rpdb .ipv4) ≤ n) ?_ ?_ maxReconcilePasses ker
    ⟨.refl _ _ ker, hcount⟩
  · rintro n after ⟨hrem, hcount⟩
    rw [ends_bind, henv.ends_rules]
    rw [ends_ite]
    refine ⟨fun hempty => ?_, fun _ => ?_⟩
    · exact hnone hrem.tick (isEmpty_iff.mp hempty)
    · rw [ends_bind]
      refine ends_deleteLookups hact (n := n) hprod ?_ hrem.tick ?_ ?_
      · rw [con.ownedIpv4LookupTables_of_active hact]
        exact nodup_ownedLookupTablesFor _
      · exact fun tbl htable => hmem.mp htable
      · intro tbl
        split
        · exact hcount tbl
        · rename_i hnot
          have hzero := mt hmem.mpr hnot
          show lookupCount ident tbl (after.rpdb .ipv4) ≤ n
          omega
  · rintro after ⟨hrem, hcount⟩
    rw [ends_bind, henv.ends_rules, ends_ensure]
    have hempty : con.ownedIpv4LookupTables (after.ruleLines .ipv4) = [] := by
      refine eq_nil_iff_forall_not_mem.mpr fun tbl htable => ?_
      have hpos := hmem.mp htable
      have hzero := hcount tbl
      omega
    rw [hempty]
    exact ⟨fun _ => hnone hrem.tick hempty, by simp⟩

/-! ## Every copy of a rule of a mangle table -/

variable {rule : ChainRule}

/-- A specification names the rule whose line continues it. -/
theorem ofTokens_of_line {spec : Text} (h : rule.line = "-A ".toList ++ spec) :
    ChainRule.ofTokens (splitWhitespace spec) = some rule := by
  have hjoin : rule.line = "-A ".toList ++ joinTokens (rule.chain :: rule.body) := by
    obtain ⟨token, rest, hbody⟩ := exists_cons_of_ne_nil rule.body_ne_nil
    rw [rule.line_eq, hbody]
    simp [joinTokens]
  rw [h, append_cancel_left_eq] at hjoin
  rw [hjoin, splitWhitespace_joinTokens fun token htoken =>
    rule.isWord_of_mem_tokens (.tail _ htoken), ChainRule.ofTokens_eq]

theorem ofTokens_outputJumpSpec :
    ChainRule.ofTokens (splitWhitespace (outputJumpSpec con.productUid con.chainName)) =
      some (jumpRule con) := ofTokens_of_line (line_jumpRule con)

theorem ofTokens_legacySelectorSpec : ChainRule.ofTokens (splitWhitespace con.legacySelectorSpec) =
      some (legacyRule con) := ofTokens_of_line (line_legacyRule con)

theorem apply_remove {spec : Text} (h : ChainRule.ofTokens (splitWhitespace spec) = some rule) :
    ker.apply (.mangle fam (.remove spec)) =
      ((ker.mangle fam).removeRule rule).map (ker.setMangle fam) := by
  rw [apply, applyMangle, h, bind_some]

/-- Copies of the rule were removed from the family's table, and nothing else. -/
structure CopiesRemoved (family : Family) (rule : ChainRule) (kernel after : Kernel) : Prop
    extends OnlyMangle family kernel after where
  rest : (after.mangle family).filterRules (fun other => other != rule) =
    (kernel.mangle family).filterRules (fun other => other != rule)

namespace CopiesRemoved

variable {rule : ChainRule} {after : Kernel}

theorem tick (h : CopiesRemoved fam rule ker after) :
    CopiesRemoved fam rule ker after.tick := ⟨h.toOnlyMangle.tick, h.rest⟩

theorem refl (fam rule ker) : CopiesRemoved fam rule ker ker := ⟨.refl fam ker, rfl⟩

theorem done (h : CopiesRemoved fam rule ker after) (hnone : rule ∉ (after.mangle fam).rules) :
    after.rpdb = ker.rpdb ∧ after.mangle = Function.update ker.mangle fam
      ((ker.mangle fam).filterRules fun other => other != rule) := by
  refine ⟨h.rpdb, funext fun other => ?_⟩
  by_cases hoth : other = fam
  · subst hoth
    rw [update_self, ← h.rest, Table.filterRules_of_not_mem hnone]
  · rw [update_of_ne hoth, h.others other hoth]

theorem remove (h : CopiesRemoved fam rule ker after) {spec : Text}
    (hspec : ChainRule.ofTokens (splitWhitespace spec) = some rule)
    (hsome : rule ∈ (after.mangle fam).rules) :
    ∃ next, after.apply (.mangle fam (.remove spec)) = some next ∧
      CopiesRemoved fam rule ker (next.logged (.mangle fam (.remove spec))) ∧
      (next.mangle fam).rules.count rule + 1 = (after.mangle fam).rules.count rule := by
  obtain ⟨tbl, hremove, hrest, hcount⟩ := Table.removeRule_of_mem hsome
  refine ⟨after.setMangle fam tbl, ?_, ⟨h.toOnlyMangle.set tbl _, ?_⟩, ?_⟩
  · rw [apply_remove hspec, hremove, map_some]
  · rw [mangle_logged, mangle_setMangle, update_self, hrest, h.rest]
  · rw [mangle_setMangle, update_self, hcount]

end CopiesRemoved

theorem exitCode_check_ne_zero_iff {spec : Text}
    (hspec : ChainRule.ofTokens (splitWhitespace spec) = some rule) :
    (result (if ker.hasRule fam spec then 0 else 1) []).exitCode ≠ 0 ↔
      rule ∉ (ker.mangle fam).rules := by
  rw [hasRule, hspec]
  by_cases hmem : rule ∈ (ker.mangle fam).rules <;> simp [result, hmem]

theorem ends_removeExactRule (henv : Faithful env) {spec : Text}
    (hspec : ChainRule.ofTokens (splitWhitespace spec) = some rule)
    (hcount : (ker.mangle fam).rules.count rule ≤ maxReconcilePasses) :
    Ends (removeExactRule (kernelIo env) (.mangle fam (.check spec)) (.mangle fam (.remove spec)))
      (fun _ after => after.rpdb = ker.rpdb ∧ after.mangle = Function.update ker.mangle fam
        ((ker.mangle fam).filterRules fun other => other != rule)) E ker := by
  refine ends_drain (J := CopiesRemoved fam rule ker)
    (fun after => (after.mangle fam).rules.count rule) ?_ ?_ maxReconcilePasses ker
    (.refl fam rule ker) hcount
  · intro after hrem
    rw [ends_bind, henv.ends_check, ends_ite, exitCode_check_ne_zero_iff hspec]
    refine ⟨hrem.tick.done, fun hthere => ?_⟩
    obtain ⟨next, happly, hnext, hcount⟩ := hrem.tick.remove hspec (not_not.mp hthere)
    rw [ends_bind, ends_issue, happly]
    refine ⟨fun _ heq => ?_, by simp⟩
    cases heq
    exact ⟨hnext, Nat.lt_of_succ_le (Nat.le_of_eq hcount)⟩
  · intro after hrem hzero
    have hnot : rule ∉ (after.mangle fam).rules := count_eq_zero.mp hzero
    have hcode := (exitCode_check_ne_zero_iff hspec).mpr hnot
    rw [ends_bind, henv.ends_check, ends_ensure, bne_iff_ne.mpr hcode]
    exact ⟨fun _ => hrem.tick.done hnot, by simp⟩

theorem ends_removeLegacySelector (henv : Faithful env)
    (hcount : (ker.mangle fam).rules.count (legacyRule con) ≤ maxReconcilePasses) :
    Ends (removeLegacySelector (kernelIo env) con fam)
      (fun _ after => after.rpdb = ker.rpdb ∧ after.mangle = Function.update ker.mangle fam
        ((ker.mangle fam).filterRules fun other => other != legacyRule con)) E ker :=
  ends_removeExactRule henv ofTokens_legacySelectorSpec hcount

theorem ends_removeAllOutputJumps (henv : Faithful env)
    (hcount : (ker.mangle fam).rules.count (jumpRule con) ≤ maxReconcilePasses) :
    Ends (removeAllOutputJumps (kernelIo env) con fam)
      (fun _ after => after.rpdb = ker.rpdb ∧ after.mangle = Function.update ker.mangle fam
        ((ker.mangle fam).filterRules fun other => other != jumpRule con)) E ker := by
  refine ends_drain (J := CopiesRemoved fam (jumpRule con) ker)
    (fun after => (after.mangle fam).rules.count (jumpRule con)) ?_ ?_ maxReconcilePasses
    ker (.refl fam _ ker) hcount
  · intro after hrem
    rw [ends_bind, henv.ends_mangle, ends_ite, mangleLines, outputJumpCount_listing, count_eq_zero]
    refine ⟨hrem.tick.done, fun hthere => ?_⟩
    obtain ⟨next, happly, hnext, hcount⟩ :=
      hrem.tick.remove ofTokens_outputJumpSpec (not_not.mp hthere)
    have hdel : after.tick.apply (outputJumpDelete con fam) = some next := happly
    rw [ends_bind, ends_attempt, ends_mutate, hdel]
    refine ⟨fun _ heq => ?_, by simp⟩
    cases heq
    exact ⟨hnext, Nat.lt_of_succ_le (Nat.le_of_eq hcount)⟩
  · intro after hrem hzero
    rw [ends_bind, henv.ends_mangle, ends_ensure, mangleLines, outputJumpCount_listing, hzero]
    exact ⟨fun _ => hrem.tick.done (count_eq_zero.mp hzero), by simp⟩

/-! ## Guards -/

/-- Every recognised guard has the attributes the product's own commands name. -/
def ProductGuards (identity : PolicyIdentity) (rules : List RpdbRule) : Prop :=
  ∀ rule ∈ rules, lineIsOwnedGuardFor rule.line identity = true →
    (guardAttributes identity).selects rule = true

def guardCount (identity : PolicyIdentity) (rules : List RpdbRule) : Nat :=
  rules.countP fun rule => lineIsOwnedGuardFor rule.line identity

/-- The rules that are not recognised as guards. -/
def withoutGuards (identity : PolicyIdentity) (rules : List RpdbRule) : List RpdbRule :=
  rules.filter fun rule => !lineIsOwnedGuardFor rule.line identity

theorem hasOwnedGuard_iff (hact : con.activeIdentity = some ident) :
    hasOwnedGuard con fam (ker.ruleLines fam) = true ↔ 0 < guardCount ident (ker.rpdb fam) := by
  have hguard := con.isOwnedGuard_of_active hact
  have hipv4 : con.isOwnedIpv4Guard = con.isOwnedGuard := rfl
  have hipv6 : con.isOwnedIpv6Guard = con.isOwnedGuard := rfl
  unfold hasOwnedGuard
  rw [hipv4, hipv6, hguard, guardCount, countP_pos_iff]
  cases fam <;> simp [ruleLines]

theorem deleteFirst_guard {ns : RootPolicyNamespace} (hid : ident ∈ ns.candidates)
    (hprod : ProductGuards ident rules) (hpos : 0 < guardCount ident rules) :
    ∃ before rule after, rules = before ++ rule :: after ∧
      deleteFirst (guardAttributes ident) rules = some (before ++ after) ∧
      lineIsOwnedGuardFor rule.line ident = true := by
  obtain ⟨rule, hrule, hguard⟩ := countP_pos_iff.mp hpos
  obtain ⟨before, removed, after, hsplit, hdel, hrem⟩ :=
    exists_deleteFirst hrule (hprod rule hrule hguard)
  exact ⟨before, removed, after, hsplit, hdel, ownedGuard_of_selects hid hrem⟩

/-- Guards were removed from the family's rules, and nothing else. -/
abbrev GuardsRemoved (family : Family) (identity : PolicyIdentity) :=
  RulesRemoved family fun rule => !lineIsOwnedGuardFor rule.line identity

theorem delete_ownedGuard {ns : RootPolicyNamespace} (hid : ident ∈ ns.candidates)
    (hprod : ProductGuards ident (ker.rpdb fam)) {after} (h : GuardsRemoved fam ident ker after)
    (hpos : 0 < guardCount ident (after.rpdb fam)) :
    ∃ next, after.apply (.ruleDelete fam (guardAttributes ident)) = some next ∧
      GuardsRemoved fam ident ker
        (next.logged (.ruleDelete fam (guardAttributes ident))) ∧
      guardCount ident (next.rpdb fam) + 1 = guardCount ident (after.rpdb fam) := by
  obtain ⟨before, rule, behind, hsplit, hdel, hrule⟩ :=
    deleteFirst_guard hid (fun rule hrule => hprod rule (h.subset hrule)) hpos
  refine ⟨after.setRpdb fam (before ++ behind), ?_, h.delete hsplit (by simp [hrule]) _, ?_⟩
  · rw [apply, hdel, map_some]
  · rw [rpdb_setRpdb, update_self, hsplit]
    simp only [guardCount, countP_append, countP_cons, hrule, if_true]
    omega

theorem guardDeleteOf_of_active (hact : con.activeIdentity = some ident) :
    guardDeleteOf con fam = some (.ruleDelete fam (guardAttributes ident)) := by
  cases fam <;> simp [guardDeleteOf, ipv4GuardDelete, ipv6GuardDelete, guardDelete, hact]

/-- A pass of the loop over guards: it ends the loop when none is left and removes one
otherwise. -/
theorem ends_guardPass (henv : Faithful env) (hact : con.activeIdentity = some ident)
    (hprod : ProductGuards ident (ker.rpdb fam)) {after} (h : GuardsRemoved fam ident ker after)
    {Q}
    (hdone : guardCount ident (after.rpdb fam) = 0 → Q (some ()) after.tick)
    (hnext : ∀ next, GuardsRemoved fam ident ker next →
      guardCount ident (next.rpdb fam) + 1 = guardCount ident (after.rpdb fam) → Q none next) :
    Ends (do
      let rules ← readLines (kernelIo env) (.ruleShow fam)
      if hasOwnedGuard con fam rules then do
        let delete ← require .exactCleanupFailed (guardDeleteOf con fam)
        issue (kernelIo env) delete
        pure none
      else pure (some ())) Q E after := by
  rw [ends_bind, henv.ends_rules, ends_ite, hasOwnedGuard_iff hact]
  refine ⟨fun hpos => ?_, fun hzero => ?_⟩
  · obtain ⟨next, happly, hrem, hcount⟩ :=
      delete_ownedGuard (con.active_mem ident hact) hprod h.tick hpos
    rw [ends_bind, guardDeleteOf_of_active hact]
    simp only [require, ends_pure, ends_bind, ends_issue, happly]
    refine ⟨fun _ heq => ?_, by simp⟩
    cases heq
    exact hnext _ hrem hcount
  · rw [ends_pure]
    exact hdone (by omega)

theorem ends_removeGuard (henv : Faithful env) (hact : con.activeIdentity = some ident)
    (hprod : ProductGuards ident (ker.rpdb fam))
    (hcount : guardCount ident (ker.rpdb fam) < maxReconcilePasses) :
    Ends (removeGuard (kernelIo env) con fam)
      (fun _ after => after.mangle = ker.mangle ∧ after.rpdb =
        Function.update ker.rpdb fam (withoutGuards ident (ker.rpdb fam)))
      E ker := by
  refine ends_drain_lt (J := GuardsRemoved fam ident ker)
    (fun after => guardCount ident (after.rpdb fam)) ?_ maxReconcilePasses ker
    (.refl _ _ ker) hcount
  intro after hrem
  refine ends_guardPass henv hact hprod hrem (fun hzero => hrem.tick.done fun rule hrule => ?_)
    fun next hnext hless => ⟨hnext, by omega⟩
  simpa using countP_eq_zero.mp hzero rule hrule

/-- With as many guards as passes the loop removes them all and fails. -/
theorem fails_removeGuard (henv : Faithful env) (hact : con.activeIdentity = some ident)
    (hprod : ProductGuards ident (ker.rpdb fam))
    (hcount : maxReconcilePasses ≤ guardCount ident (ker.rpdb fam))
    {Q} : Ends (removeGuard (kernelIo env) con fam) Q (fun _ _ => True) ker := by
  refine ends_repeatUntil (fun n after => GuardsRemoved fam ident ker after ∧
    n ≤ guardCount ident (after.rpdb fam)) ?_ (fun _ _ => ends_fail.mpr trivial)
    maxReconcilePasses ker ⟨.refl _ _ ker, hcount⟩
  rintro n after ⟨hrem, hcount⟩
  refine ends_guardPass henv hact hprod hrem (fun hzero => ?_) fun next hnext hless => ?_
  · omega
  · exact ⟨hnext, by omega⟩

/-! ## Authority -/

/-- A table without a line that mentions the product has no jump of a former uid. -/
theorem staleOwnerJumpUids_eq_nil {lines}
    (h : con.hasMangleSignature lines = false) : con.staleOwnerJumpUids lines = [] := by
  have hnone : lines.filterMap con.exactOwnerJumpUid = [] := by
    rw [filterMap_eq_nil_iff]
    intro line hline
    have hmentions := any_eq_false.mp h line hline
    refine Option.eq_none_iff_forall_not_mem.mpr fun uid huid => hmentions ?_
    obtain ⟨raw, htokens, -⟩ := (con.exactOwnerJumpUid_eq_some_iff line uid).mp huid
    have hmem : con.chainName ∈ splitWhitespace line := by
      rw [htokens]
      simp
    rw [contains_iff.mpr (of_mem_splitWhitespace hmem).2, Bool.true_or]
  rw [staleOwnerJumpUids, hnone]
  rfl

theorem trim_ruleLines_ne_nil (h : ker.rpdb fam ≠ []) :
    trim (unlines (ker.ruleLines fam)) ≠ [] := by
  intro htrim
  have hsplit := splitWhitespace_trim (unlines (ker.ruleLines fam))
  obtain ⟨rule, rest, hrules⟩ := exists_cons_of_ne_nil h
  have hline : unlines (ker.ruleLines fam) =
      rule.line ++ '\n' :: unlines (rest.map RpdbRule.line) := by
    simp [ruleLines, hrules, unlines]
  rw [htrim, hline, splitWhitespace_append (by decide), rule.splitWhitespace_line] at hsplit
  cases hsplit

theorem Faithful.ends_readMangleRaw (henv : Faithful env) {Q E} :
    Ends (readMangleRaw (kernelIo env) fam) Q E ker ↔ Q (ker.mangleLines fam) ker.tick := by
  have hrows : parseLines (unlines (ker.mangleLines fam)) = ker.mangleLines fam :=
    parseLines_unlines fun _ => Table.isRow_of_mem_listing _
  unfold readMangleRaw
  rw [ends_bind, ends_mapError, henv.ends_raw]
  simp only [observation, result, Bool.not_false, Bool.true_and, beq_self_eq_true,
    if_true, ends_pure, hrows]

theorem Faithful.ends_bootstrapFamily (henv : Faithful env)
    (hclean : con.hasMangleSignature (ker.mangleLines fam) = false)
    {Q E} : Ends (bootstrapFamily (kernelIo env) con fam) Q E ker ↔ Q () ker.tick := by
  unfold bootstrapFamily
  rw [ends_bind, henv.ends_readMangleRaw]
  simp only [staleOwnerJumpUids_eq_nil hclean, isEmpty_nil, Bool.true_or, if_true, ends_pure]

/-- Root is granted, with the given contract, and the kernel holds what it held. -/
def Granted (contract : RootPolicyContract) (kernel : Kernel)
    (result : RootAuthorityStatus × RootPolicyState) (after : Kernel) : Prop :=
  result.1 = .ready ∧ result.2.contract = contract ∧ after.rpdb = kernel.rpdb ∧
    after.mangle = kernel.mangle

theorem Faithful.ends_probeRules {ε : Type} (henv : Faithful env) {state}
    (hrules : ker.rpdb .ipv4 ≠ [])
    (hclean : ∀ fam, state.contract.hasMangleSignature (ker.mangleLines fam) = false)
    {E : ε → Kernel → Prop} :
    Ends (probeRules (kernelIo env) state) (Granted state.contract ker) E ker := by
  have hshown : (trim (unlines (ker.ruleLines .ipv4))).isEmpty = false :=
    isEmpty_eq_false_iff.mpr (trim_ruleLines_ne_nil hrules)
  unfold probeRules
  rw [ends_bind, ends_attempt, henv.ends_raw]
  simp only [observation, result, Bool.not_true, bne_self_eq_false, Bool.or_false,
    hshown, Bool.false_eq_true, if_false]
  have hipv4 : state.contract.hasMangleSignature (ker.tick.mangleLines .ipv4) = false :=
    hclean .ipv4
  have hipv6 : state.contract.hasMangleSignature (ker.tick.tick.mangleLines .ipv6) = false :=
    hclean .ipv6
  unfold bootstrapStaleOwnerJumps
  rw [ends_bind, ends_bind, ends_attempt, ends_bind, henv.ends_bootstrapFamily hipv4,
    henv.ends_bootstrapFamily hipv6]
  simp only [ends_pure, if_true, ends_bind, ends_lift]
  exact ⟨if_pos (henv.generation _), rfl, rfl, rfl⟩

theorem Faithful.ends_probeAuthority {ε : Type} (henv : Faithful env) {state}
    (hterm : state.terminalAuthority = none) (hrules : ker.rpdb .ipv4 ≠ [])
    (hclean : ∀ fam, state.contract.hasMangleSignature (ker.mangleLines fam) = false)
    {E : ε → Kernel → Prop} :
    Ends (probeAuthority (kernelIo env) state) (Granted state.contract ker) E ker := by
  unfold probeAuthority
  rw [hterm]
  rw [ends_bind, ends_lift, ends_ite]
  refine ⟨fun _ => ⟨rfl, rfl, rfl, rfl⟩, fun _ => ?_⟩
  have huser : trim "0\n".toList = "0".toList := by decide
  unfold probeIdentity
  rw [ends_bind, ends_attempt, henv.ends_raw]
  simp only [observation, result, huser]
  rw [if_neg (by decide), if_neg (by decide), if_neg (by decide)]
  simp only [Bool.not_true, bne_self_eq_false, Bool.or_false, Bool.false_eq_true, if_false]
  have hprob : Ends (probeRules (kernelIo env) ⟨state.contract, none, none⟩)
      (Granted state.contract ker.tick) E ker.tick := by
    refine henv.ends_probeRules ?_ ?_
    · exact hrules
    · exact hclean
  exact hprob

end MishProxy.Runtime
