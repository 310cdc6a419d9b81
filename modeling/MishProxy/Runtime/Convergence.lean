import MishProxy.Runtime.BoundedCleanup

/-!
# Convergence of the reconcile

On a kernel that applies the commands, a request that is not admitted brings every state it
can repair to the fail-closed base, and the same request finds nothing to do there.

* `ends_ensureGuard`, `ends_ensureMangleFamily`: the two repairs. The rules of others stay,
  so an audit that was clean is clean behind them (`ProductAdded.auditedClean`).
* `Converged` is the base together with the absence of legacy selectors. It is what the
  preparation reaches (`ends_prepareFailClosed`) and what it leaves alone
  (`quiet_prepareFailClosed`).
* `reconcile_converges` is the result.
-/

namespace MishProxy.Runtime

open Text Cellular Routing Netfilter Effects Effects.Exec Session RootPolicyContract Kernel List
  Function

variable {env : KernelEnvironment} {kernel : Kernel} {con : RootPolicyContract}
  {ident : PolicyIdentity} {family : Family}

/-! ## Guards -/

/-- The family has a guard, which is new if it had none, and nothing else has changed. -/
structure Guarded (family : Family) (identity : PolicyIdentity) (kernel after : Kernel) : Prop where
  mangle : after.mangle = kernel.mangle
  others : ∀ other, other ≠ family → after.rpdb other = kernel.rpdb other
  present : 0 < guardCount identity (after.rpdb family)
  rules : ∀ rule ∈ after.rpdb family, rule ∈ kernel.rpdb family ∨
    lineIsOwnedGuardFor rule.line identity = true
  lookups : ∀ table, lookupCount identity table (after.rpdb family) =
    lookupCount identity table (kernel.rpdb family)

theorem Guarded.of_present (h : 0 < guardCount ident (kernel.rpdb family)) :
    Guarded family ident kernel kernel :=
  ⟨rfl, fun _ _ => rfl, h, fun _ hrule => .inl hrule, fun _ => rfl⟩

variable {after : Kernel}

theorem Guarded.tick (h : Guarded family ident kernel after) :
    Guarded family ident kernel after.tick := ⟨h.mangle, h.others, h.present, h.rules, h.lookups⟩

theorem Guarded.insert {ns : RootPolicyNamespace} (hid : ident ∈ ns.candidates)
    {rule} (hrule : lineIsOwnedGuardFor rule.line ident = true)
    (cmd) : Guarded family ident kernel
      ((kernel.tick.setRpdb family (insertRule rule (kernel.rpdb family))).logged cmd) := by
  have hrules : ((kernel.tick.setRpdb family (insertRule rule (kernel.rpdb family))).logged
      cmd).rpdb family = insertRule rule (kernel.rpdb family) := by
    rw [rpdb_logged, rpdb_setRpdb, update_self]
  have hnone := ownedLookupTable_of_ownedGuard hid hrule
  refine ⟨rfl, fun other hoth => ?_, ?_, fun other hoth => ?_, fun tbl => ?_⟩
  · rw [rpdb_logged, rpdb_setRpdb, update_of_ne hoth, rpdb_tick]
  · rw [hrules]
    exact countP_pos_iff.mpr ⟨rule, mem_insertRule.mpr (.inl rfl), hrule⟩
  · rw [hrules] at hoth
    rcases mem_insertRule.mp hoth with rfl | hmem
    · exact .inr hrule
    · exact .inl hmem
  · rw [hrules, lookupCount, (perm_insertRule rule _).countP_eq, countP_cons_of_neg]
    · rfl
    · simp [lookupOf, hnone]

theorem guardAddOf_of_active (hact : con.activeIdentity = some ident) :
    guardAddOf con family = some (.ruleAdd family (guardAttributes ident)) := by
  cases family <;> simp [guardAddOf, ipv4GuardAdd, ipv6GuardAdd, guardAdd, hact]

variable {E : RootPolicyFailure → Kernel → Prop}

theorem ends_ensureGuard (henv : Faithful env) (hact : con.activeIdentity = some ident) :
    Ends (ensureGuard (kernelIo env) con family)
      (fun _ after => Guarded family ident kernel after) E kernel := by
  have hid := con.active_mem ident hact
  obtain ⟨rule, hadded, hguard⟩ := guard_added hid
  have happly : kernel.tick.apply (.ruleAdd family (guardAttributes ident)) =
      some (kernel.tick.setRpdb family (insertRule rule (kernel.rpdb family))) := by
    show ((guardAttributes ident).added).map _ = _
    rw [hadded, Option.map_some]
    rfl
  unfold ensureGuard
  rw [ends_bind, henv.ends_rules, ends_ite, hasOwnedGuard_iff hact]
  refine ⟨fun hpresent => (Guarded.of_present hpresent).tick, fun _ => ?_⟩
  rw [ends_bind, guardAddOf_of_active hact]
  dsimp only [require]
  rw [ends_pure, ends_bind, ends_issue, happly]
  refine ⟨fun _ heq => ?_, by simp⟩
  cases heq
  have hgrd : Guarded family ident kernel _ :=
    Guarded.insert hid hguard (.ruleAdd family (guardAttributes ident))
  rw [ends_bind, henv.ends_rules, ends_ensure, (hasOwnedGuard_iff hact).mpr hgrd.present]
  exact ⟨fun _ => hgrd.tick, by simp⟩

/-! ## The product chain -/

theorem jumpRule_ne_legacyRule : jumpRule con ≠ legacyRule con := by
  intro heq
  have hlen : 6 = 12 := congrArg (fun rule => rule.body.length) heq
  omega

theorem ne_legacyRule_of_owned {rule}
    (h : rule.line ∈ con.ownedChainLinesFor family ident) : rule ≠ legacyRule con := by
  rintro rfl
  exact output_ne_chainName (chain_of_line_mem_ownedChainLines h)

theorem ne_jumpRule_of_owned {rule}
    (h : rule.line ∈ con.ownedChainLinesFor family ident) : rule ≠ jumpRule con := by
  rintro rfl
  exact output_ne_chainName (chain_of_line_mem_ownedChainLines h)

/-- The family's table has the product chain. What is new in it is the product's, and there is
no new legacy selector. -/
structure Repairing (contract : RootPolicyContract) (family : Family) (identity : PolicyIdentity)
    (kernel after : Kernel) : Prop extends OnlyMangle family kernel after where
  added : ProductAdded contract family identity (kernel.mangle family) (after.mangle family)
  legacy : (after.mangle family).rules.count (legacyRule contract) ≤
    (kernel.mangle family).rules.count (legacyRule contract)

namespace Repairing

variable {after : Kernel}

theorem tick (h : Repairing con family ident kernel after) :
    Repairing con family ident kernel after.tick := ⟨h.toOnlyMangle.tick, h.added, h.legacy⟩

theorem of_declared (h : con.chainName ∈ (kernel.mangle family).userChains) :
    Repairing con family ident kernel kernel :=
  ⟨.refl family kernel, ⟨rfl, Subset.refl _, h, fun _ => .inl, fun _ => .inl⟩, Nat.le_refl _⟩

theorem create (ident) (hnew : con.chainName ∉ (kernel.mangle family).userChains) :
    ∃ next, kernel.apply (createChainCommand con family) = some next ∧
      Repairing con family ident kernel
        (next.logged (createChainCommand con family)) ∧
      (next.mangle family).rules = (kernel.mangle family).rules := by
  have hword : IsWord con.chainName := isWord_chainName con.ns
  have hname : con.chainName ∉ builtinChains ∧ con.chainName ∉ targetNames := by
    unfold chainName
    cases con.ns <;> decide
  obtain ⟨tbl, hcreate, hpol, hchains, hrules⟩ :=
    (kernel.mangle family).exists_createChain hword hname hnew
  have htable : (kernel.setMangle family tbl).mangle family = tbl := by
    rw [mangle_setMangle, update_self]
  refine ⟨kernel.setMangle family tbl, ?_, ⟨(OnlyMangle.refl family kernel).set tbl _, ?_, ?_⟩,
    by rw [htable, hrules]⟩
  · show (Table.createChain (kernel.mangle family) con.chainName).map _ = _
    rw [hcreate, Option.map_some]
  · rw [mangle_logged, htable]
    refine ⟨hpol, ?_, ?_, fun chain hchain => ?_, fun rule hrule => ?_⟩
    · rw [hchains]
      exact subset_append_left _ _
    · rw [hchains]
      exact mem_append_right _ (.head _)
    · rw [hchains, mem_append, mem_singleton] at hchain
      exact hchain
    · rw [hrules] at hrule
      exact .inl hrule
  · rw [mangle_logged, htable, hrules]

theorem filter (h : Repairing con family ident kernel after) (keep : ChainRule → Bool) (cmd) :
    Repairing con family ident kernel
      ((after.setMangle family ((after.mangle family).filterRules keep)).logged cmd) := by
  refine ⟨h.toOnlyMangle.set _ _, ?_, ?_⟩
  · rw [mangle_logged, mangle_setMangle, update_self]
    exact ⟨h.added.policy, h.added.kept, h.added.declared, h.added.chains,
      fun rule hrule => h.added.rules rule (mem_of_mem_filter hrule)⟩
  · rw [mangle_logged, mangle_setMangle, update_self]
    exact Nat.le_trans (filter_sublist.count_le _) h.legacy

theorem append (h : Repairing con family ident kernel after)
    (hid : ident ∈ con.ns.candidates) {rule}
    (hrule : rule = jumpRule con ∨ rule.line ∈ con.ownedChainLinesFor family ident) :
    ∃ next, after.apply (.mangle family (.append rule.line)) = some next ∧
      Repairing con family ident kernel
        (next.logged (.mangle family (.append rule.line))) ∧
      (next.mangle family).rules = (after.mangle family).rules ++ [rule] := by
  have hdecl : rule.chain ∈ builtinChains ∨ rule.chain ∈ (after.mangle family).userChains := by
    rcases hrule with rfl | howned
    · exact .inl (by show "OUTPUT".toList ∈ builtinChains; decide)
    · rw [chain_of_line_mem_ownedChainLines howned]
      exact .inr h.added.declared
  have htgt : (after.mangle family).knowsTarget (chainTarget rule.tokens) = true := by
    rcases hrule with rfl | howned
    · have hname := ((after.mangle family).userChain_ne _ h.added.declared).1
      simp [chainTarget_jumpRule, Table.knowsTarget, hname, h.added.declared]
    · obtain ⟨other, hoth, -, tgt, hmem, hnamed⟩ := exists_chainRule hid howned
      have hbuiltin : ∀ tgt ∈ targetNames, tgt ∉ builtinChains := by decide
      rw [ChainRule.line_injective hoth] at hnamed
      simp [hnamed, Table.knowsTarget, hbuiltin tgt hmem, hmem]
  obtain ⟨tbl, happend, hpol, hchains, hrules⟩ := (after.mangle family).exists_appendRule hdecl htgt
  have htable : (after.setMangle family tbl).mangle family = tbl := by
    rw [mangle_setMangle, update_self]
  refine ⟨after.setMangle family tbl, ?_, ⟨h.toOnlyMangle.set tbl _, ?_, ?_⟩,
    by rw [htable, hrules]⟩
  · rw [apply, applyMangle, rule.splitWhitespace_line]
    show Option.map _ (if "-A".toList = "-A".toList then
      (ChainRule.ofTokens (rule.chain :: rule.body)).bind _ else none) = _
    rw [if_pos rfl, ChainRule.ofTokens_eq, Option.bind_some, happend, Option.map_some]
  · rw [mangle_logged, htable]
    refine ⟨hpol.trans h.added.policy, ?_, ?_, ?_, fun other hoth => ?_⟩
    · rw [hchains]
      exact h.added.kept
    · rw [hchains]
      exact h.added.declared
    · rw [hchains]
      exact h.added.chains
    · rw [hrules, mem_append, mem_singleton] at hoth
      rcases hoth with hold | rfl
      · exact h.added.rules other hold
      · exact .inr hrule
  · have hne : rule ≠ legacyRule con := by
      rcases hrule with rfl | howned
      · exact jumpRule_ne_legacyRule
      · exact ne_legacyRule_of_owned howned
    rw [mangle_logged, htable, hrules, count_append, count_singleton,
      if_neg (by simpa using hne), Nat.add_zero]
    exact h.legacy

theorem of_copiesRemoved (h : CopiesRemoved family (jumpRule con) kernel after)
    (hdecl : con.chainName ∈ (kernel.mangle family).userChains) :
    Repairing con family ident kernel after := by
  have hpol := congrArg Table.dropPolicy h.rest
  have hchains : (after.mangle family).userChains = (kernel.mangle family).userChains := by
    have hrest := congrArg Table.userChains h.rest
    exact hrest
  have hrules : ((after.mangle family).rules.filter fun other => other != jumpRule con) =
      (kernel.mangle family).rules.filter fun other => other != jumpRule con :=
    congrArg Table.rules h.rest
  have hlegacy : (legacyRule con != jumpRule con) = true :=
    bne_iff_ne.mpr jumpRule_ne_legacyRule.symm
  refine ⟨h.toOnlyMangle, ⟨hpol, ?_, ?_, ?_, fun rule hrule => ?_⟩, ?_⟩
  · rw [hchains]
    exact Subset.refl _
  · rw [hchains]
    exact hdecl
  · rw [hchains]
    exact fun _ => .inl
  · by_cases hjump : rule = jumpRule con
    · exact .inr (.inl hjump)
    · have hmem : rule ∈ (after.mangle family).rules.filter fun other =>
          other != jumpRule con := mem_filter.mpr ⟨hrule, bne_iff_ne.mpr hjump⟩
      rw [hrules] at hmem
      exact .inl (mem_of_mem_filter hmem)
  · have hcount (rules : List ChainRule) :
        (rules.filter fun other => other != jumpRule con).count (legacyRule con) =
          rules.count (legacyRule con) :=
      count_filter (p := fun other => other != jumpRule con) hlegacy
    rw [← hcount, hrules, hcount]

end Repairing

/-! ## States of a family -/

section

variable {tbl : Table}

theorem familyState_missing (hnew : con.chainName ∉ tbl.userChains)
    (hfree : jumpRule con ∉ tbl.rules) :
    con.mangleFamilyStateFor tbl.listing family ident = .missing := by
  rw [mangleFamilyStateFor_listing, if_pos hnew, if_pos (count_eq_zero.mpr hfree)]

theorem familyState_detached (hdecl : con.chainName ∈ tbl.userChains)
    (hfree : jumpRule con ∉ tbl.rules) : con.mangleFamilyStateFor tbl.listing family ident =
      if ExactChain con family ident tbl then .detachedExact else .detachedMismatch := by
  rw [mangleFamilyStateFor_listing, if_neg (not_not.mpr hdecl), count_eq_zero.mpr hfree]
  simp

theorem familyState_attached (hdecl : con.chainName ∈ tbl.userChains)
    (hexact : ExactChain con family ident tbl)
    (hjump : jumpRule con ∈ tbl.rules) : con.mangleFamilyStateFor tbl.listing family ident =
      if tbl.rules.count (jumpRule con) = 1 then .attachedExact
      else .attachedDuplicateExact := by
  have hpos : 0 < tbl.rules.count (jumpRule con) := count_pos_iff.mpr hjump
  rw [mangleFamilyStateFor_listing, if_neg (not_not.mpr hdecl), if_neg (fun h => h.2 hexact)]
  by_cases hone : tbl.rules.count (jumpRule con) = 1
  · rw [if_neg (by omega), if_pos hone, if_pos hone]
  · rw [if_pos (by omega), if_neg hone]

/-- Without duplicates a family is never in a state that cannot be built upon. -/
theorem familyState_single (hready : jumpRule con ∈ tbl.rules →
      con.chainName ∈ tbl.userChains ∧ ExactChain con family ident tbl)
    (hsing : tbl.rules.count (jumpRule con) ≤ 1) :
    con.mangleFamilyStateFor tbl.listing family ident ≠ .invalidReferenced ∧
      con.mangleFamilyStateFor tbl.listing family ident ≠ .attachedDuplicateExact := by
  by_cases hjump : jumpRule con ∈ tbl.rules
  · obtain ⟨hdecl, hexact⟩ := hready hjump
    have hpos : 0 < tbl.rules.count (jumpRule con) := count_pos_iff.mpr hjump
    rw [familyState_attached hdecl hexact hjump, if_pos (by omega)]
    exact ⟨by simp, by simp⟩
  by_cases hdecl : con.chainName ∈ tbl.userChains
  · rw [familyState_detached hdecl hjump]
    split
    · exact ⟨by simp, by simp⟩
    · exact ⟨by simp, by simp⟩
  · rw [familyState_missing hdecl hjump]
    exact ⟨by simp, by simp⟩

end

theorem ends_familyState_of_active (hact : con.activeIdentity = some ident) {lines Q} :
    Ends (familyState con family lines) Q E kernel ↔
      Q (con.mangleFamilyStateFor lines family ident) kernel := by
  rw [familyState, mangleFamilyState, hact]
  exact Iff.rfl

theorem Faithful.ends_readFamilyState (henv : Faithful env)
    (hact : con.activeIdentity = some ident) {Q} :
    Ends (readFamilyState (kernelIo env) con family) Q E kernel ↔
      Q (con.mangleFamilyStateFor (kernel.mangleLines family) family ident) kernel.tick := by
  rw [readFamilyState, ends_bind, henv.ends_mangle, ends_familyState_of_active hact]

/-! ## Building the chain -/

/-- The product chain is there, and no jump leads to it. -/
structure Detached (contract : RootPolicyContract) (family : Family) (identity : PolicyIdentity)
    (kernel after : Kernel) : Prop extends Repairing contract family identity kernel after where
  unreferenced : jumpRule contract ∉ (after.mangle family).rules

/-- The exact product chain is there, and one jump leads to it. -/
structure Built (contract : RootPolicyContract) (family : Family) (identity : PolicyIdentity)
    (kernel after : Kernel) : Prop extends Repairing contract family identity kernel after where
  exact : ExactChain contract family identity (after.mangle family)
  single : (after.mangle family).rules.count (jumpRule contract) = 1

theorem Detached.tick (h : Detached con family ident kernel after) :
    Detached con family ident kernel after.tick := ⟨h.toRepairing.tick, h.unreferenced⟩

theorem Built.tick (h : Built con family ident kernel after) :
    Built con family ident kernel after.tick := ⟨h.toRepairing.tick, h.exact, h.single⟩

theorem Built.familyState (h : Built con family ident kernel after) :
    con.mangleFamilyStateFor (after.mangleLines family) family ident = .attachedExact := by
  have hjump : jumpRule con ∈ (after.mangle family).rules := by
    rw [← count_pos_iff, h.single]
    decide
  rw [mangleLines, familyState_attached h.added.declared h.exact hjump, if_pos h.single]

theorem ends_createChain (henv : Faithful env) (hact : con.activeIdentity = some ident)
    (hfree : jumpRule con ∉ (kernel.mangle family).rules) :
    Ends (createChain (kernelIo env) con family
        (con.mangleFamilyStateFor (kernel.mangleLines family) family ident))
      (fun state after => Detached con family ident kernel after ∧
        state = con.mangleFamilyStateFor (after.mangleLines family) family ident)
      E kernel := by
  unfold createChain
  by_cases hdecl : con.chainName ∈ (kernel.mangle family).userChains
  · have hst : con.mangleFamilyStateFor (kernel.mangleLines family) family ident ≠ .missing := by
      rw [mangleLines, familyState_detached hdecl hfree]
      split <;> rintro ⟨⟩
    rw [if_neg hst, ends_pure]
    exact ⟨⟨.of_declared hdecl, hfree⟩, rfl⟩
  · obtain ⟨next, happly, hnext, hrules⟩ := Repairing.create ident hdecl
    rw [mangleLines, familyState_missing hdecl hfree, if_pos rfl, ends_bind, ends_issue, happly]
    refine ⟨fun _ heq => ?_, by simp⟩
    cases heq
    rw [henv.ends_readFamilyState hact]
    refine ⟨Detached.tick ⟨hnext, ?_⟩, rfl⟩
    rw [mangle_logged, hrules]
    exact hfree

/-- The lines of the product chain that are there. -/
def chainLinesOf (contract : RootPolicyContract) (table : Table) : List Text :=
  (table.rules.filter fun rule => rule.chain == contract.chainName).map ChainRule.line

theorem Detached.append (h : Detached con family ident kernel after)
    (hid : ident ∈ con.ns.candidates) {line : Text}
    (hline : line ∈ con.ownedChainLinesFor family ident) :
    ∃ next, after.apply (.mangle family (.append line)) = some next ∧
      Detached con family ident kernel (next.logged (.mangle family (.append line))) ∧
      chainLinesOf con (next.mangle family) = chainLinesOf con (after.mangle family) ++ [line] := by
  obtain ⟨rule, rfl, hchain, -⟩ := exists_chainRule hid hline
  obtain ⟨next, happly, hnext, hrules⟩ := h.toRepairing.append hid (.inr hline)
  refine ⟨next, happly, ⟨hnext, ?_⟩, ?_⟩
  · rw [mangle_logged, hrules, mem_append, mem_singleton, not_or]
    exact ⟨h.unreferenced, (ne_jumpRule_of_owned hline).symm⟩
  · rw [chainLinesOf, hrules, filter_append, map_append, filter_singleton, beq_iff_eq.mpr hchain]
    rfl

variable {start : Kernel}

theorem ends_appendLines (hid : ident ∈ con.ns.candidates)
    (h : Detached con family ident start kernel)
    (hempty : chainLinesOf con (kernel.mangle family) = []) :
    Ends (forEach (fun rule => issue (kernelIo env) (.mangle family (.append rule)))
        (con.ownedChainLinesFor family ident))
      (fun _ after => Detached con family ident start after ∧
        ExactChain con family ident (after.mangle family)) E kernel := by
  refine ends_forEach (fun rest after => Detached con family ident start after ∧
    chainLinesOf con (after.mangle family) ++ rest =
      con.ownedChainLinesFor family ident) ?_ ?_ _ kernel ⟨h, by rw [hempty]; rfl⟩
  · rintro line rest after ⟨hdet, hlines⟩
    have hline : line ∈ con.ownedChainLinesFor family ident := by
      rw [← hlines]
      exact mem_append_right _ (.head _)
    obtain ⟨next, happly, hnext, hmore⟩ := hdet.append hid hline
    rw [ends_issue, happly]
    refine ⟨fun _ heq => ?_, by simp⟩
    cases heq
    refine ⟨hnext, ?_⟩
    rw [mangle_logged, hmore, append_assoc]
    exact hlines
  · rintro after ⟨hdet, hlines⟩
    rw [append_nil] at hlines
    exact ⟨hdet, hlines⟩

theorem ends_fillChain (henv : Faithful env) (hact : con.activeIdentity = some ident)
    (h : Detached con family ident start kernel) : Ends (fillChain (kernelIo env) con family
        (con.mangleFamilyStateFor (kernel.mangleLines family) family ident))
      (fun state after => state = .detachedExact ∧ Detached con family ident start after ∧
        ExactChain con family ident (after.mangle family)) E kernel := by
  have hid := con.active_mem ident hact
  unfold fillChain
  rw [mangleLines, familyState_detached h.added.declared h.unreferenced]
  by_cases hexact : ExactChain con family ident (kernel.mangle family)
  · rw [if_pos hexact, if_neg (by simp)]
    exact ⟨rfl, h, hexact⟩
  rw [if_neg hexact, if_pos rfl]
  have hflush : kernel.apply (flushChainCommand con family) = some (kernel.setMangle family
        ((kernel.mangle family).filterRules fun rule => rule.chain != con.chainName)) := by
    show (Table.flushChain (kernel.mangle family) con.chainName).map _ = _
    rw [Table.flushChain, if_pos (.inr h.added.declared), Option.map_some]
  rw [ends_bind, ends_issue, hflush]
  refine ⟨fun _ heq => ?_, by simp⟩
  cases heq
  have hrules : (((kernel.setMangle family ((kernel.mangle family).filterRules fun rule =>
      rule.chain != con.chainName)).logged (flushChainCommand con family)).mangle family).rules =
      (kernel.mangle family).rules.filter fun rule => rule.chain != con.chainName := by
    rw [mangle_logged, mangle_setMangle, update_self]
    rfl
  rw [ends_bind, ownedChainLinesOf_of_active hact]
  refine .bind (ends_appendLines hid ⟨h.toRepairing.filter _ _, ?_⟩ ?_) ?_
  · rw [hrules]
    exact fun hmem => h.unreferenced (mem_of_mem_filter hmem)
  · rw [chainLinesOf, hrules, filter_filter, map_eq_nil_iff, filter_eq_nil_iff]
    intro rule _
    simp
  · rintro _ after ⟨hdet, hfilled⟩
    rw [henv.ends_readFamilyState hact]
    refine ⟨?_, hdet.tick, hfilled⟩
    rw [mangleLines, familyState_detached hdet.added.declared hdet.unreferenced, if_pos hfilled]

theorem ends_attachChain (henv : Faithful env) (hact : con.activeIdentity = some ident)
    (h : Detached con family ident start kernel)
    (hexact : ExactChain con family ident (kernel.mangle family)) :
    Ends (attachChain (kernelIo env) con family .detachedExact)
      (fun _ after => Built con family ident start after) E kernel := by
  have hid := con.active_mem ident hact
  have hoff : "OUTPUT".toList ≠ con.chainName := output_ne_chainName
  have hprod : jumpRule con = jumpRule con ∨
      (jumpRule con).line ∈ con.ownedChainLinesFor family ident := .inl rfl
  obtain ⟨next, happly, hnext, hrules⟩ := h.toRepairing.append hid hprod
  rw [line_jumpRule] at happly hnext
  have hbuilt : Built con family ident start
      (next.logged (outputJumpAdd con family)) := by
    refine ⟨hnext, ?_, ?_⟩
    · have hjump : ((jumpRule con).chain == con.chainName) = false := beq_eq_false_iff_ne.mpr hoff
      unfold ExactChain at hexact ⊢
      rw [mangle_logged, hrules, filter_append, filter_singleton, hjump]
      simpa using hexact
    · rw [mangle_logged, hrules, count_append, count_eq_zero.mpr h.unreferenced]
      simp
  unfold attachChain
  rw [if_pos rfl, ends_bind, ends_issue]
  refine ⟨fun _ heq => ?_, fun hrej => ?_⟩
  · cases happly.symm.trans heq
    rw [ends_bind, henv.ends_mangle, ends_ensure, mangleFamilyState, hact,
      Option.map_some, hbuilt.familyState]
    exact ⟨fun _ => hbuilt.tick, by simp⟩
  · cases happly.symm.trans hrej

/-- From a table without duplicate jumps to an attached chain. -/
theorem ends_buildChain (henv : Faithful env) (hact : con.activeIdentity = some ident)
    (hready : jumpRule con ∈ (kernel.mangle family).rules →
      con.chainName ∈ (kernel.mangle family).userChains ∧
        ExactChain con family ident (kernel.mangle family))
    (hsing : (kernel.mangle family).rules.count (jumpRule con) ≤ 1) :
    Ends (buildChain (kernelIo env) con family
        (con.mangleFamilyStateFor (kernel.mangleLines family) family ident))
      (fun _ after => Built con family ident kernel after) E kernel := by
  unfold buildChain
  by_cases hjump : jumpRule con ∈ (kernel.mangle family).rules
  · obtain ⟨hdecl, hexact⟩ := hready hjump
    have hpos : 0 < (kernel.mangle family).rules.count (jumpRule con) := count_pos_iff.mpr hjump
    have hone : (kernel.mangle family).rules.count (jumpRule con) = 1 := by omega
    rw [mangleLines, familyState_attached hdecl hexact hjump, if_pos hone, if_pos rfl]
    exact ⟨.of_declared hdecl, hexact, hone⟩
  · have hst : con.mangleFamilyStateFor (kernel.mangleLines family) family ident ≠
        .attachedExact := by
      rw [mangleLines]
      by_cases hdecl : con.chainName ∈ (kernel.mangle family).userChains
      · rw [familyState_detached hdecl hjump]
        split <;> rintro ⟨⟩
      · rw [familyState_missing hdecl hjump]
        simp
    rw [if_neg hst]
    refine .bind (ends_createChain henv hact hjump) ?_
    rintro _ created ⟨hcreated, rfl⟩
    refine .bind (ends_fillChain henv hact hcreated) ?_
    rintro _ filled ⟨rfl, hfilled, hexact⟩
    exact ends_attachChain henv hact hfilled hexact

variable {F : Option RootPolicyFailure → Kernel → Prop} {fuel : Nat}

theorem ends_removeDuplicateJumps (henv : Faithful env)
    (h : CopiesRemoved family (jumpRule con) start kernel)
    (hpos : 0 < (kernel.mangle family).rules.count (jumpRule con))
    (hfuel : (kernel.mangle family).rules.count (jumpRule con) ≤ fuel) :
    Ends (whileFuel (removeDuplicateJump (kernelIo env) con family) fuel
        (kernel.mangleLines family))
      (fun single after => single = after.mangleLines family ∧
        CopiesRemoved family (jumpRule con) start after ∧
        (after.mangle family).rules.count (jumpRule con) = 1) F kernel := by
  refine ends_whileFuel (fun n snap after => snap = after.mangleLines family ∧
    CopiesRemoved family (jumpRule con) start after ∧
    0 < (after.mangle family).rules.count (jumpRule con) ∧
    (after.mangle family).rules.count (jumpRule con) ≤ n) ?_ ?_ fuel _ kernel
    ⟨rfl, h, hpos, hfuel⟩
  · rintro n _ after ⟨rfl, hrem, hpos, hle⟩
    unfold removeDuplicateJump
    rw [ends_ite, mangleLines, outputJumpCount_listing]
    refine ⟨fun hone => ?_, fun hmany => ?_⟩
    · exact ⟨rfl, hrem, by omega⟩
    · obtain ⟨next, happly, hnext, hcount⟩ :=
        hrem.remove ofTokens_outputJumpSpec (count_pos_iff.mp hpos)
      rw [ends_bind, ends_attempt, ends_mutate]
      refine ⟨fun _ heq => ?_, fun hrej => ?_⟩
      · cases happly.symm.trans heq
        rw [ends_bind, henv.ends_mangle]
        have hleft : ((next.logged (outputJumpDelete con family)).mangle family).rules.count
            (jumpRule con) + 1 = (after.mangle family).rules.count (jumpRule con) := hcount
        exact ⟨rfl, hnext.tick, by rw [mangle_tick]; omega, by rw [mangle_tick]; omega⟩
      · cases happly.symm.trans hrej
  · rintro _ after ⟨-, -, hpos, hle⟩
    omega

theorem CopiesRemoved.built (h : CopiesRemoved family (jumpRule con) kernel after)
    (hdecl : con.chainName ∈ (kernel.mangle family).userChains)
    (hexact : ExactChain con family ident (kernel.mangle family))
    (hsing : (after.mangle family).rules.count (jumpRule con) = 1) :
    Built con family ident kernel after := by
  have hoff : (jumpRule con).chain ≠ con.chainName := output_ne_chainName
  refine ⟨.of_copiesRemoved h hdecl, ?_, hsing⟩
  rw [← exactChain_filterRules_iff hoff, h.rest, exactChain_filterRules_iff hoff]
  exact hexact

theorem Built.of_tick (h : Built con family ident kernel.tick after) :
    Built con family ident kernel after :=
  ⟨⟨⟨h.rpdb, h.others⟩, h.added, h.legacy⟩, h.exact, h.single⟩

theorem ends_ensureMangleFamily (henv : Faithful env) (hact : con.activeIdentity = some ident)
    (hready : jumpRule con ∈ (kernel.mangle family).rules →
      con.chainName ∈ (kernel.mangle family).userChains ∧
        ExactChain con family ident (kernel.mangle family))
    (hfuel : (kernel.mangle family).rules.count (jumpRule con) ≤ fuel) :
    Ends (ensureMangleFamily (kernelIo env) con fuel family)
      (fun _ after => Built con family ident kernel after) F kernel := by
  unfold ensureMangleFamily
  rw [ends_bind, ends_mapError, henv.ends_mangle, ends_bind, ends_mapError,
    ends_familyState_of_active hact]
  by_cases hsing : (kernel.mangle family).rules.count (jumpRule con) ≤ 1
  · obtain ⟨hvalid, hunique⟩ := familyState_single hready hsing
    rw [← mangleLines] at hvalid hunique
    rw [if_neg hvalid, if_neg hunique, ends_mapError]
    have hbuild : Ends (buildChain (kernelIo env) con family
        (con.mangleFamilyStateFor (kernel.tick.mangleLines family) family ident))
        (fun _ after => Built con family ident kernel.tick after) (fun _ _ => False)
        kernel.tick := by
      refine ends_buildChain henv hact ?_ ?_
      · exact hready
      · exact hsing
    exact ends_mono hbuild (fun _ _ hbuilt => hbuilt.of_tick) fun _ _ => False.elim
  · have hjump : jumpRule con ∈ (kernel.mangle family).rules := count_pos_iff.mp (by omega)
    obtain ⟨hdecl, hexact⟩ := hready hjump
    have hst : con.mangleFamilyStateFor (kernel.mangleLines family) family ident =
        .attachedDuplicateExact := by
      rw [mangleLines, familyState_attached hdecl hexact hjump, if_neg]
      omega
    rw [hst, if_neg (by simp), if_pos rfl, ends_bind]
    have hpos : 0 < (kernel.mangle family).rules.count (jumpRule con) := by omega
    refine .imp (ends_removeDuplicateJumps henv (CopiesRemoved.refl family _ kernel).tick hpos
      hfuel) ?_
    rintro _ after ⟨rfl, hrem, hone⟩
    have hbuilt := hrem.built hdecl hexact hone
    rw [ends_bind, ends_mapError, ends_familyState_of_active hact, hbuilt.familyState,
      ends_mapError, buildChain, if_pos rfl]
    exact hbuilt

/-! ## The steps of the preparation -/

/-- A state the reconcile can repair: each family's product chain is absent, detached, or exact
and attached, the lookups are the product's own, and the bounded loops have passes enough. -/
structure Repairable (contract : RootPolicyContract) (identity : PolicyIdentity) (kernel : Kernel) :
    Prop where
  chains : ∀ family, contract.mangleFamilyStateFor (kernel.mangleLines family) family identity ≠
    .invalidReferenced
  product : ProductLookups identity (kernel.rpdb .ipv4)
  lookups : ∀ table, lookupCount identity table (kernel.rpdb .ipv4) ≤ maxReconcilePasses
  legacy : ∀ family, (kernel.mangle family).rules.count (legacyRule contract) ≤ maxReconcilePasses

theorem ready_of_valid {tbl}
    (h : con.mangleFamilyStateFor tbl.listing family ident ≠ .invalidReferenced)
    (hjump : jumpRule con ∈ tbl.rules) :
    con.chainName ∈ tbl.userChains ∧ ExactChain con family ident tbl := by
  have hcount : tbl.rules.count (jumpRule con) ≠ 0 := by
    rw [Ne, count_eq_zero, not_not]
    exact hjump
  rw [mangleFamilyStateFor_listing] at h
  by_cases hdecl : con.chainName ∈ tbl.userChains
  · refine ⟨hdecl, ?_⟩
    by_contra hexact
    rw [if_neg (not_not.mpr hdecl), if_pos ⟨hcount, hexact⟩] at h
    exact h rfl
  · rw [if_pos hdecl, if_neg hcount] at h
    exact absurd rfl h

theorem Built.of_attached (h : con.mangleFamilyStateFor (kernel.mangleLines family) family ident =
      .attachedExact) : Built con family ident kernel kernel := by
  rw [mangleLines] at h
  have hjump : jumpRule con ∈ (kernel.mangle family).rules := by
    by_contra hfree
    by_cases hdecl : con.chainName ∈ (kernel.mangle family).userChains
    · rw [familyState_detached hdecl hfree] at h
      split at h <;> cases h
    · rw [familyState_missing hdecl hfree] at h
      cases h
  obtain ⟨hdecl, hexact⟩ := ready_of_valid (by rw [h]; rintro ⟨⟩) hjump
  refine ⟨.of_declared hdecl, hexact, ?_⟩
  rw [familyState_attached hdecl hexact hjump] at h
  by_contra hmany
  rw [if_neg hmany] at h
  cases h

theorem ends_guardFamily (henv : Faithful env) (hact : con.activeIdentity = some ident)
    {lines} (hlines : lines = kernel.ruleLines family) :
    Ends (skipIf (hasOwnedGuard con family lines)
        (mapError some (ensureGuard (kernelIo env) con family)))
      (fun _ after => Guarded family ident kernel after) F kernel := by
  rw [ends_skipIf, hlines, hasOwnedGuard_iff hact, ends_mapError]
  exact ⟨fun hpresent => .of_present hpresent, fun _ => ends_ensureGuard henv hact⟩

theorem ends_repairFamily (henv : Faithful env) (hact : con.activeIdentity = some ident)
    {lines} (hlines : lines = kernel.mangleLines family)
    (hvalid : con.mangleFamilyStateFor (kernel.mangleLines family) family ident ≠
      .invalidReferenced) (hfuel : (kernel.mangle family).rules.count (jumpRule con) ≤ fuel) :
    Ends (skipIf (con.mangleFamilyState lines family = some .attachedExact)
        (ensureMangleFamily (kernelIo env) con fuel family))
      (fun _ after => Built con family ident kernel after) F kernel := by
  rw [ends_skipIf, hlines, mangleFamilyState, hact, Option.map_some, Option.some_inj]
  exact ⟨.of_attached, fun _ => ends_ensureMangleFamily henv hact (ready_of_valid hvalid) hfuel⟩

theorem lookupTables_empty_iff (hact : con.activeIdentity = some ident) :
    (con.ownedIpv4LookupTables (kernel.ruleLines .ipv4)).isEmpty = true ↔
      ∀ rule ∈ kernel.rpdb .ipv4, lookupOf ident rule = none := by
  rw [List.isEmpty_iff, con.ownedIpv4LookupTables_of_active hact, ownedLookupTablesFor_eq_nil_iff]
  simp [ruleLines]

/-! ## The rules -/

/-- The rules of both families are as the base has them; what is new among them is a guard. -/
structure RulesPrepared (identity : PolicyIdentity) (kernel after : Kernel) : Prop where
  mangle : after.mangle = kernel.mangle
  guards : ∀ family, 0 < guardCount identity (after.rpdb family)
  lookups : ∀ rule ∈ after.rpdb .ipv4, lookupOf identity rule = none
  rules : ∀ family, ∀ rule ∈ after.rpdb family, rule ∈ kernel.rpdb family ∨
    lineIsOwnedGuardFor rule.line identity = true

/-- Guards in both families. -/
structure BothGuarded (identity : PolicyIdentity) (kernel after : Kernel) : Prop where
  mangle : after.mangle = kernel.mangle
  present : ∀ family, 0 < guardCount identity (after.rpdb family)
  rules : ∀ family, ∀ rule ∈ after.rpdb family, rule ∈ kernel.rpdb family ∨
    lineIsOwnedGuardFor rule.line identity = true
  lookups : ∀ table, lookupCount identity table (after.rpdb .ipv4) =
    lookupCount identity table (kernel.rpdb .ipv4)

theorem Guarded.both {middle} (h : Guarded .ipv4 ident kernel middle)
    (h' : Guarded .ipv6 ident middle after) : BothGuarded ident kernel after := by
  have hfour : after.rpdb .ipv4 = middle.rpdb .ipv4 := h'.others .ipv4 (by decide)
  have hsix : middle.rpdb .ipv6 = kernel.rpdb .ipv6 := h.others .ipv6 (by decide)
  refine ⟨h'.mangle.trans h.mangle, fun family => ?_, fun family rule hrule => ?_, fun tbl => ?_⟩
  · cases family with
    | ipv4 =>
      rw [hfour]
      exact h.present
    | ipv6 => exact h'.present
  · cases family with
    | ipv4 =>
      rw [hfour] at hrule
      exact h.rules rule hrule
    | ipv6 =>
      rw [← hsix]
      exact h'.rules rule hrule
  · rw [hfour]
    exact h.lookups tbl

namespace BothGuarded

variable {after : Kernel} {ns : RootPolicyNamespace}

variable (hid : ident ∈ ns.candidates)
include hid

variable (h : BothGuarded ident kernel after)
include h

theorem product (hprod : ProductLookups ident (kernel.rpdb .ipv4)) :
    ProductLookups ident (after.rpdb .ipv4) := by
  intro rule hrule tbl htable
  rcases h.rules .ipv4 rule hrule with hold | hguard
  · exact hprod rule hold tbl htable
  · cases (ownedLookupTable_of_ownedGuard hid hguard).symm.trans htable

theorem lookups_none (hnone : ∀ rule ∈ kernel.rpdb .ipv4, lookupOf ident rule = none) :
    ∀ rule ∈ after.rpdb .ipv4, lookupOf ident rule = none := by
  intro rule hrule
  rcases h.rules .ipv4 rule hrule with hold | hguard
  · exact hnone rule hold
  · exact ownedLookupTable_of_ownedGuard hid hguard

/-- A guard is no lookup, so the guards stay when the lookups go. -/
theorem cleared {last} (hmang : last.mangle = after.mangle) (hrpdb : last.rpdb =
      Function.update after.rpdb .ipv4 (withoutLookups ident (after.rpdb .ipv4))) :
    RulesPrepared ident kernel last := by
  have hfour : last.rpdb .ipv4 = withoutLookups ident (after.rpdb .ipv4) := by
    rw [hrpdb, update_self]
  have hsix : last.rpdb .ipv6 = after.rpdb .ipv6 := by
    have hne : Family.ipv6 ≠ .ipv4 := by decide
    rw [hrpdb, update_of_ne hne]
  refine ⟨hmang.trans h.mangle, fun family => ?_, fun rule hrule => ?_, fun family rule hrule => ?_⟩
  · cases family with
    | ipv4 =>
      obtain ⟨guard, hmem, hguard⟩ := countP_pos_iff.mp (h.present .ipv4)
      rw [hfour]
      refine countP_pos_iff.mpr ⟨guard, mem_filter.mpr ⟨hmem, ?_⟩, hguard⟩
      exact beq_iff_eq.mpr (ownedLookupTable_of_ownedGuard hid hguard)
    | ipv6 =>
      rw [hsix]
      exact h.present .ipv6
  · rw [hfour] at hrule
    exact beq_iff_eq.mp (mem_filter.mp hrule).2
  · cases family with
    | ipv4 =>
      rw [hfour] at hrule
      exact h.rules .ipv4 rule (mem_of_mem_filter hrule)
    | ipv6 =>
      rw [hsix] at hrule
      exact h.rules .ipv6 rule hrule

end BothGuarded

theorem ends_clearLookups (henv : Faithful env) (hact : con.activeIdentity = some ident)
    (hgrd : BothGuarded ident start kernel)
    (hprod : ProductLookups ident (start.rpdb .ipv4))
    (hcount : ∀ tbl, lookupCount ident tbl (start.rpdb .ipv4) ≤ maxReconcilePasses) :
    Ends (skipIf (con.ownedIpv4LookupTables (start.ruleLines .ipv4)).isEmpty
        (mapError some (removeOwnedIpv4Lookups (kernelIo env) con)))
      (fun _ after => RulesPrepared ident start after) F kernel := by
  have hid := con.active_mem ident hact
  rw [ends_skipIf, lookupTables_empty_iff hact, ends_mapError]
  refine ⟨fun hnone => ?_, fun _ => ?_⟩
  · exact ⟨hgrd.mangle, hgrd.present, hgrd.lookups_none hid hnone, hgrd.rules⟩
  · refine .imp (ends_removeOwnedIpv4Lookups henv hact (hgrd.product hid hprod) (fun tbl => ?_)) ?_
    · rw [hgrd.lookups]
      exact hcount tbl
    · rintro _ after ⟨hmang, hrpdb⟩
      exact hgrd.cleared hid hmang hrpdb

/-! ## The base -/

/-- The table of a family as the base has it, and no legacy selector in it. -/
structure TableSettled (contract : RootPolicyContract) (family : Family) (identity : PolicyIdentity)
    (start table : Table) : Prop where
  added : ProductAdded contract family identity start table
  attached : contract.mangleFamilyStateFor table.listing family identity = .attachedExact
  legacy : legacyRule contract ∉ table.rules

theorem Built.withoutLegacy (h : Built con family ident kernel after) :
    TableSettled con family ident (kernel.mangle family)
      ((after.mangle family).filterRules fun other => other != legacyRule con) := by
  have hoff : (legacyRule con).chain ≠ con.chainName := output_ne_chainName
  have hjump : (jumpRule con != legacyRule con) = true := bne_iff_ne.mpr jumpRule_ne_legacyRule
  have hcount : ((after.mangle family).rules.filter fun other =>
      other != legacyRule con).count (jumpRule con) = 1 := by
    rw [count_filter (p := fun other => other != legacyRule con) hjump, h.single]
  refine ⟨⟨h.added.policy, h.added.kept, h.added.declared, h.added.chains, fun rule hrule => ?_⟩,
    ?_, fun hmem => ?_⟩
  · exact h.added.rules rule (mem_of_mem_filter hrule)
  · have hexact := (exactChain_filterRules_iff hoff).mpr h.exact
    have hpos := Nat.lt_of_lt_of_eq Nat.one_pos hcount.symm
    have hst := familyState_attached (by exact h.added.declared) hexact
      (by exact count_pos_iff.mp hpos)
    rw [hst]
    exact if_pos hcount
  · simpa using (mem_filter.mp hmem).2

/-- The fail-closed base, without legacy selectors. -/
structure Converged (contract : RootPolicyContract) (identity : PolicyIdentity) (kernel : Kernel) :
    Prop where
  audit : contract.auditReservedPolicySpace kernel.snapshot identity = .clean
  chains : ∀ family, contract.mangleFamilyStateFor (kernel.mangleLines family) family identity =
    .attachedExact
  guards : ∀ family, 0 < guardCount identity (kernel.rpdb family)
  lookups : ∀ rule ∈ kernel.rpdb .ipv4, lookupOf identity rule = none
  legacy : ∀ family, legacyRule contract ∉ (kernel.mangle family).rules

/-- A rule that was there before is no more foreign than it was, and a guard is not foreign. -/
theorem RulesPrepared.settled (hid : ident ∈ con.ns.candidates) {middle}
    (h : RulesPrepared ident kernel middle) (hrpdb : after.rpdb = middle.rpdb)
    (htables : ∀ family, TableSettled con family ident (kernel.mangle family) (after.mangle family))
    (haudit : con.auditReservedPolicySpace kernel.snapshot ident = .clean) :
    Converged con ident after := by
  obtain ⟨hfour, hsix, hmang⟩ := con.auditReservedPolicySpace_eq_clean_iff.mp haudit
  refine ⟨con.auditReservedPolicySpace_eq_clean_iff.mpr ⟨fun line hline => ?_,
    fun line hline => ?_, fun family => ?_⟩, fun family => (htables family).attached,
    fun family => ?_, fun rule hrule => ?_, fun family => (htables family).legacy⟩
  · obtain ⟨rule, hrule, rfl⟩ := mem_map.mp hline
    rw [hrpdb] at hrule
    rcases h.rules .ipv4 rule hrule with hold | hguard
    · exact hfour _ (mem_map_of_mem hold)
    · exact if_pos (by rw [hguard, Bool.or_true])
  · obtain ⟨rule, hrule, rfl⟩ := mem_map.mp hline
    rw [hrpdb] at hrule
    rcases h.rules .ipv6 rule hrule with hold | hguard
    · exact hsix _ (mem_map_of_mem hold)
    · exact if_pos hguard
  · have hclean : AuditedClean con family ident (kernel.mangle family) := by
      rw [← audit_listing_clean_iff]
      cases family with
      | ipv4 => exact hmang .ipv4
      | ipv6 => exact hmang .ipv6
    have hafter := (audit_listing_clean_iff (after.mangle family)).mpr
      ((htables family).added.auditedClean hid hclean)
    cases family with
    | ipv4 | ipv6 => exact hafter
  · rw [hrpdb]
    exact h.guards family
  · rw [hrpdb] at hrule
    exact h.lookups rule hrule

theorem ends_prepareTables (henv : Faithful env) (hact : con.activeIdentity = some ident)
    (hmang : kernel.mangle = start.mangle) (hready : Repairable con ident start)
    (hfuel : ∀ family, (start.mangle family).rules.count (jumpRule con) ≤ fuel) : Ends (do
        skipIf (con.mangleFamilyState start.snapshot.ipv4Mangle .ipv4 = some .attachedExact)
          (ensureMangleFamily (kernelIo env) con fuel .ipv4)
        skipIf (con.mangleFamilyState start.snapshot.ipv6Mangle .ipv6 = some .attachedExact)
          (ensureMangleFamily (kernelIo env) con fuel .ipv6)
        mapError some (removeLegacySelector (kernelIo env) con .ipv4)
        mapError some (removeLegacySelector (kernelIo env) con .ipv6))
      (fun _ after => after.rpdb = kernel.rpdb ∧ ∀ family, TableSettled con family ident
        (start.mangle family) (after.mangle family)) F kernel := by
  have hne : Family.ipv6 ≠ .ipv4 := by decide
  have hlines (family : Family) : start.mangleLines family = kernel.mangleLines family := by
    rw [mangleLines, mangleLines, hmang]
  have hvalid := hready.chains
  have hlegacy := hready.legacy
  simp only [hlines, ← hmang] at hvalid hlegacy hfuel ⊢
  refine .bind (ends_repairFamily henv hact (hlines .ipv4) (hvalid .ipv4) (hfuel .ipv4)) ?_
  intro _ four hfour
  have hsix : four.mangle .ipv6 = kernel.mangle .ipv6 := hfour.others .ipv6 hne
  have hsame : kernel.mangleLines .ipv6 = four.mangleLines .ipv6 := by
    rw [mangleLines, mangleLines, hsix]
  refine .bind (ends_repairFamily henv hact ((hlines .ipv6).trans hsame)
    (hsame ▸ hvalid .ipv6) (hsix ▸ hfuel .ipv6)) ?_
  intro _ both hboth
  have hkept : both.mangle .ipv4 = four.mangle .ipv4 := hboth.others .ipv4 hne.symm
  have hboundfour : (both.mangle .ipv4).rules.count (legacyRule con) ≤ maxReconcilePasses := by
    rw [hkept]
    exact Nat.le_trans hfour.legacy (hlegacy .ipv4)
  have hboundsix : (both.mangle .ipv6).rules.count (legacyRule con) ≤ maxReconcilePasses := by
    refine Nat.le_trans hboth.legacy ?_
    rw [hsix]
    exact hlegacy .ipv6
  rw [ends_bind, ends_mapError]
  refine .imp (ends_removeLegacySelector henv hboundfour) ?_
  rintro _ cut ⟨hcutRpdb, hcut⟩
  have hcutsix : cut.mangle .ipv6 = both.mangle .ipv6 := by rw [hcut, update_of_ne hne]
  rw [ends_mapError]
  refine .imp (ends_removeLegacySelector henv (hcutsix ▸ hboundsix)) ?_
  rintro _ last ⟨hlastRpdb, hlast⟩
  refine ⟨?_, forall_family.mpr ⟨?_, ?_⟩⟩
  · rw [hlastRpdb, hcutRpdb, hboth.rpdb, hfour.rpdb]
  · rw [hlast, update_of_ne hne.symm, hcut, update_self, hkept]
    exact hfour.withoutLegacy
  · rw [hlast, update_self, hcutsix, ← hsix]
    exact hboth.withoutLegacy

theorem ends_prepareFailClosed (henv : Faithful env) (hact : con.activeIdentity = some ident)
    (haudit : con.auditReservedPolicySpace kernel.snapshot ident = .clean)
    (hready : Repairable con ident kernel)
    (hfuel : ∀ family, (kernel.mangle family).rules.count (jumpRule con) ≤ fuel) :
    Ends (prepareFailClosed (kernelIo env) con fuel kernel.snapshot)
      (fun _ after => Converged con ident after) F kernel := by
  have hid := con.active_mem ident hact
  refine .bind (ends_guardFamily henv hact rfl) ?_
  intro _ four hfour
  have hsix : kernel.ruleLines .ipv6 = four.ruleLines .ipv6 := by
    have hothers : four.rpdb .ipv6 = kernel.rpdb .ipv6 := hfour.others .ipv6 (by decide)
    rw [ruleLines, ruleLines, hothers]
  refine .bind (ends_guardFamily henv hact hsix) ?_
  intro _ both hboth
  refine .bind (ends_clearLookups henv hact (hfour.both hboth) hready.product hready.lookups) ?_
  intro _ ruled hruled
  refine .imp (ends_prepareTables henv hact hruled.mangle hready hfuel) ?_
  rintro _ after ⟨hrpdb, htables⟩
  exact hruled.settled hid hrpdb htables haudit

/-! ## Nothing to do -/

/-- The policy is as it was, and no mutation was issued. -/
structure Unchanged (kernel after : Kernel) : Prop where
  rpdb : after.rpdb = kernel.rpdb
  mangle : after.mangle = kernel.mangle
  log : after.log = kernel.log

theorem Unchanged.trans {middle} (h : Unchanged kernel middle)
    (h' : Unchanged middle after) : Unchanged kernel after :=
  ⟨h'.rpdb.trans h.rpdb, h'.mangle.trans h.mangle, h'.log.trans h.log⟩

theorem Unchanged.snapshot (h : Unchanged kernel after) : after.snapshot = kernel.snapshot := by
  simp only [Kernel.snapshot, ruleLines, mangleLines, h.rpdb, h.mangle]

namespace Converged

theorem unchanged {after} (h : Converged con ident kernel)
    (hsame : Unchanged kernel after) : Converged con ident after := by
  refine ⟨?_, ?_, ?_, ?_, ?_⟩
  · rw [hsame.snapshot]
    exact h.audit
  · unfold mangleLines
    rw [hsame.mangle]
    exact h.chains
  · rw [hsame.rpdb]
    exact h.guards
  · rw [hsame.rpdb]
    exact h.lookups
  · rw [hsame.mangle]
    exact h.legacy

theorem verified (hact : con.activeIdentity = some ident) (h : Converged con ident kernel) :
    con.verifyFailClosedBase kernel.snapshot = .ok () := by
  have hguard (family : Family) : ∃ line ∈ kernel.ruleLines family,
      lineIsOwnedGuardFor line ident = true := by
    obtain ⟨rule, hrule, hguard⟩ := countP_pos_iff.mp (h.guards family)
    exact ⟨rule.line, mem_map_of_mem hrule, hguard⟩
  have htables : (con.ownedIpv4LookupTables (kernel.ruleLines .ipv4)).isEmpty = true :=
    (lookupTables_empty_iff hact).mpr h.lookups
  rw [con.verifyFailClosedBase_eq_ok_iff hact, forall_family, forall_family]
  refine ⟨h.audit, ⟨h.chains .ipv4, h.chains .ipv6⟩, ⟨hguard .ipv4, hguard .ipv6⟩, ?_⟩
  rw [← con.ownedIpv4LookupTables_of_active hact]
  exact isEmpty_iff.mp htables

theorem chainLines (h : Converged con ident kernel) (family) :
    RootPolicyContract.chainLines (kernel.mangleLines family) con.chainName =
      con.ownedChainLinesFor family ident := by
  have hword : IsWord con.chainName := isWord_chainName con.ns
  rw [mangleLines, Table.chainLines_listing _ hword]
  exact (Built.of_attached (h.chains family)).exact

theorem not_dangling (h : Converged con ident kernel) (family) :
    con.danglingJump (kernel.mangleLines family) = false := by
  have hword : IsWord con.chainName := isWord_chainName con.ns
  have hdefined : (kernel.mangleLines family).any (fun line => line == con.chainDefinition) =
      true := by
    refine any_eq_true.mpr ⟨con.chainDefinition, ?_, beq_self_eq_true _⟩
    exact ((kernel.mangle family).definitionLine_mem_listing_iff hword).mpr
      (Built.of_attached (h.chains family)).added.declared
  rw [danglingJump, hdefined, h.chainLines]
  simp [ownedChainLinesFor]

theorem resolved (hact : con.activeIdentity = some ident) (h : Converged con ident kernel) :
    con.resolveIdentity kernel.snapshot = (.selected ident, con) := by
  have hfour : con.danglingJump kernel.snapshot.ipv4Mangle = false := h.not_dangling .ipv4
  have hsix : con.danglingJump kernel.snapshot.ipv6Mangle = false := h.not_dangling .ipv6
  have hlines : RootPolicyContract.chainLines kernel.snapshot.ipv4Mangle con.chainName =
      con.ownedChainLinesFor .ipv4 ident := h.chainLines .ipv4
  have hlines' : RootPolicyContract.chainLines kernel.snapshot.ipv6Mangle con.chainName =
      con.ownedChainLinesFor .ipv6 ident := h.chainLines .ipv6
  have hmatch (lines : List Text) : prefixMatches lines lines = true := by
    simp [prefixMatches]
  have hcompat : ident ∈ con.compatibleCandidates kernel.snapshot := by
    unfold compatibleCandidates
    rw [hlines, hlines']
    refine mem_filter.mpr ⟨con.active_mem ident hact, ?_⟩
    rw [Bool.and_eq_true]
    exact ⟨hmatch _, hmatch _⟩
  have hsome : (con.compatibleCandidates kernel.snapshot).isEmpty = false :=
    isEmpty_eq_false_iff.mpr (ne_nil_of_mem hcompat)
  have hst : (!(con.ownedChainLinesFor .ipv4 ident).isEmpty ||
      !(con.ownedChainLinesFor .ipv6 ident).isEmpty) = true := rfl
  unfold resolveIdentity
  rw [hfour, hsix]
  simp only [hlines, hlines', hst, hsome, Bool.or_self, Bool.false_eq_true, if_false,
    Bool.and_false, if_true, hact]
  rw [if_neg (not_not.mpr hcompat), if_pos h.audit]

end Converged

/-- A selector that is not there is looked for once. -/
theorem quiet_removeLegacySelector (henv : Faithful env)
    (hnone : legacyRule con ∉ (kernel.mangle family).rules) :
    Ends (removeLegacySelector (kernelIo env) con family)
      (fun _ after => Unchanged kernel after) E kernel := by
  have hpasses : 0 < maxReconcilePasses := by decide
  refine ends_drain_lt (J := fun after => after = kernel) (fun _ => 0) ?_ maxReconcilePasses kernel
    rfl hpasses
  rintro _ rfl
  rw [ends_bind]
  refine henv.ends_check.mpr ?_
  rw [if_pos ((exitCode_check_ne_zero_iff ofTokens_legacySelectorSpec).mpr hnone), ends_pure]
  exact ⟨rfl, rfl, rfl⟩

theorem quiet_prepareFailClosed (henv : Faithful env)
    (hact : con.activeIdentity = some ident) (h : Converged con ident kernel) :
    Ends (prepareFailClosed (kernelIo env) con fuel kernel.snapshot)
      (fun _ after => Unchanged kernel after) F kernel := by
  have hst (family : Family) : con.mangleFamilyState (kernel.mangleLines family) family =
      some .attachedExact := by
    rw [mangleFamilyState, hact, Option.map_some, h.chains]
  have hguard (family : Family) : hasOwnedGuard con family (kernel.ruleLines family) = true :=
    (hasOwnedGuard_iff hact).mpr (h.guards family)
  have hlookups : (con.ownedIpv4LookupTables (kernel.ruleLines .ipv4)).isEmpty = true :=
    (lookupTables_empty_iff hact).mpr h.lookups
  unfold prepareFailClosed
  rw [ends_bind, ends_skipIf]
  refine ⟨fun _ => ?_, fun hnot => absurd (hguard .ipv4) hnot⟩
  rw [ends_bind, ends_skipIf]
  refine ⟨fun _ => ?_, fun hnot => absurd (hguard .ipv6) hnot⟩
  rw [ends_bind, ends_skipIf]
  refine ⟨fun _ => ?_, fun hnot => absurd hlookups hnot⟩
  rw [ends_bind, ends_skipIf]
  refine ⟨fun _ => ?_, fun hnot => absurd (hst .ipv4) hnot⟩
  rw [ends_bind, ends_skipIf]
  refine ⟨fun _ => ?_, fun hnot => absurd (hst .ipv6) hnot⟩
  rw [ends_bind, ends_mapError]
  refine .imp (quiet_removeLegacySelector henv (h.legacy .ipv4)) ?_
  intro _ four hfour
  rw [ends_mapError]
  refine .imp (quiet_removeLegacySelector henv ((h.unchanged hfour).legacy .ipv6)) ?_
  intro _ last hlast
  exact hfour.trans hlast

/-! ## The run -/

/-- What follows the preparation changes nothing when the request is not admitted. -/
theorem ends_reconcileSelected (henv : Faithful env) (hcur : ∀ n, env.current n = true)
    (hact : con.activeIdentity = some ident) {initial : RootPolicySnapshot}
    {interface : Option Text} {Q : Kernel → Prop}
    (hprepare : Ends (prepareFailClosed (kernelIo env) con fuel initial)
      (fun _ after => Converged con ident after ∧ ∀ last, Unchanged after last → Q last)
      (fun _ _ => False) kernel) {E} :
    Ends (reconcileSelected (kernelIo env) con (kernelCurrent env) fuel initial false interface)
      (fun res after => res = .failClosed none ∧ Q after) E kernel := by
  unfold reconcileSelected
  rw [ends_bind, ends_mapError]
  refine ends_mono hprepare ?_ fun _ _ => False.elim
  rintro _ after ⟨hstd, hlast⟩
  unfold verifyFailClosed
  rw [ends_bind, ends_mapError, ends_bind, henv.ends_snapshot, hstd.verified hact]
  rw [ends_pure, ends_bind, ends_lift]
  simp only [kernelCurrent, hcur, if_true, reconcileAdmitted, Bool.false_eq_true, if_false,
    ends_pure, true_and]
  exact hlast _ ⟨rfl, rfl, rfl⟩

theorem ends_reconcileAuthorized {ε : Type} (henv : Faithful env)
    (hcur : ∀ n, env.current n = true) {selected}
    (hresv : con.resolveIdentity kernel.snapshot = (.selected ident, selected))
    (hact : selected.activeIdentity = some ident) {interface : Option Text}
    {Q : Kernel → Prop}
    (hprepare : ∀ start, Unchanged kernel start →
      Ends (prepareFailClosed (kernelIo env) selected fuel start.snapshot)
        (fun _ after => Converged selected ident after ∧ ∀ last, Unchanged after last → Q last)
        (fun _ _ => False) start) {E : ε → Kernel → Prop} :
    Ends (reconcileAuthorized (kernelIo env) con (kernelCurrent env) fuel false interface)
      (fun res after => res = (some (.completed (.failClosed none)), selected) ∧ Q after)
      E kernel := by
  unfold reconcileAuthorized
  rw [ends_bind, ends_attempt, henv.ends_snapshot]
  rw [ends_bind, ends_lift]
  simp only [kernelCurrent, hcur, if_true, hresv]
  rw [ends_bind, ends_attempt]
  have hstart := hprepare { kernel.tick.tick.tick.tick with
    checks := kernel.tick.tick.tick.tick.checks + 1 } ⟨rfl, rfl, rfl⟩
  refine .imp (ends_reconcileSelected henv hcur hact hstart) ?_
  rintro _ after ⟨rfl, hlast⟩
  exact ⟨rfl, hlast⟩

theorem Repairable.unchanged (h : Repairable con ident kernel)
    (hsame : Unchanged kernel after) : Repairable con ident after := by
  refine ⟨?_, ?_, ?_, ?_⟩
  · unfold mangleLines
    rw [hsame.mangle]
    exact h.chains
  · rw [hsame.rpdb]
    exact h.product
  · rw [hsame.rpdb]
    exact h.lookups
  · rw [hsame.mangle]
    exact h.legacy

/-- The contract behind a selection has the selected identity, whose audit is clean, and is the
same contract otherwise. -/
theorem exists_selected {snap} (h : (con.resolveIdentity snap).1 = .selected ident) :
    ∃ hid : ident ∈ con.ns.candidates,
      con.resolveIdentity snap = (.selected ident, con.withIdentity ident hid) ∧
      con.auditReservedPolicySpace snap ident = .clean := by
  rcases con.resolveIdentity_cases snap with hcase | ⟨other, hact, hclean, hcase⟩ |
    ⟨-, other, hid, hclean, hcase⟩ | ⟨-, hcase⟩
  · rw [hcase] at h
    cases h
  · rw [hcase] at h
    cases h
    refine ⟨con.active_mem _ hact, ?_, hclean⟩
    rw [con.withIdentity_self hact]
    exact hcase
  · rw [hcase] at h
    cases h
    exact ⟨hid, hcase, hclean⟩
  · rw [hcase] at h
    cases h

/-- On a kernel that applies the commands, a request that is not admitted and stays current ends
in the fail-closed base of the identity it selects, from every state it can repair. The same
request issues no mutation from there. The loop over duplicate jumps is given a pass for each of
them. -/
theorem reconcile_converges {ε : Type} {env : KernelEnvironment} (henv : Faithful env)
    (hcurrent : ∀ n, env.current n = true) {contract : RootPolicyContract} {kernel : Kernel}
    {identity : PolicyIdentity}
    (hidentity : (contract.resolveIdentity kernel.snapshot).1 = .selected identity)
    (hready : Repairable contract identity kernel) {fuel : Nat}
    (hfuel : ∀ family, (kernel.mangle family).rules.count (jumpRule contract) ≤ fuel)
    (interface : Option Text) :
    ∃ selected after,
      (reconcileAuthorized (kernelIo env) contract (kernelCurrent env) fuel false interface :
        Exec Kernel ε _) kernel = (.ok (some (.completed (.failClosed none)), selected), after) ∧
      selected.activeIdentity = some identity ∧
      selected.verifyFailClosedBase after.snapshot = .ok () ∧
      ∃ again,
        (reconcileAuthorized (kernelIo env) selected (kernelCurrent env) fuel false interface :
          Exec Kernel ε _) after = (.ok (some (.completed (.failClosed none)), selected), again) ∧
        again.log = after.log := by
  obtain ⟨hid, hresolve, haudit⟩ := exists_selected hidentity
  have hactive : (contract.withIdentity identity hid).activeIdentity = some identity := rfl
  have hfirst : Ends (reconcileAuthorized (kernelIo env) contract (kernelCurrent env) fuel false
      interface : Exec Kernel ε _)
      (fun result after => result = (some (.completed (.failClosed none)),
        contract.withIdentity identity hid) ∧
        Converged (contract.withIdentity identity hid) identity after)
      (fun _ _ => False) kernel := by
    refine ends_reconcileAuthorized henv hcurrent hresolve hactive fun start hsame => ?_
    have hstart := hready.unchanged hsame
    rw [← hsame.snapshot] at haudit
    rw [← hsame.mangle] at hfuel
    refine ends_mono (ends_prepareFailClosed henv hactive haudit
      ⟨hstart.chains, hstart.product, hstart.lookups, hstart.legacy⟩ hfuel) ?_ fun _ _ => False.elim
    intro _ after hsettled
    exact ⟨hsettled, fun last hlast => hsettled.unchanged hlast⟩
  obtain ⟨_, after, hrun, rfl, hsettled⟩ := hfirst.exists_ok
  have hsecond : Ends (reconcileAuthorized (kernelIo env) (contract.withIdentity identity hid)
      (kernelCurrent env) fuel false interface : Exec Kernel ε _)
      (fun result again => result = (some (.completed (.failClosed none)),
        contract.withIdentity identity hid) ∧ Unchanged after again)
      (fun _ _ => False) after := by
    refine ends_reconcileAuthorized henv hcurrent (hsettled.resolved hactive) hactive
      fun start hsame => ?_
    refine ends_mono (quiet_prepareFailClosed henv hactive (hsettled.unchanged hsame)) ?_
      fun _ _ => False.elim
    intro _ prepared hprepared
    have hall := hsame.trans hprepared
    exact ⟨hsettled.unchanged hall, fun last hlast => hall.trans hlast⟩
  obtain ⟨_, again, hagain, rfl, hquiet⟩ := hsecond.exists_ok
  exact ⟨_, after, hrun, hactive, hsettled.verified hactive, again, hagain, hquiet.log⟩

theorem Repairable.of_checked (h : con.mangleFamilyStateFor (kernel.mangleLines .ipv4) .ipv4 ident ≠
        .invalidReferenced ∧ con.mangleFamilyStateFor (kernel.mangleLines .ipv6) .ipv6 ident ≠
        .invalidReferenced ∧ ProductLookups ident (kernel.rpdb .ipv4) ∧
      ((kernel.rpdb .ipv4).countP fun rule => (lookupOf ident rule).isSome) ≤ maxReconcilePasses ∧
      (kernel.mangle .ipv4).rules.count (legacyRule con) ≤ maxReconcilePasses ∧
      (kernel.mangle .ipv6).rules.count (legacyRule con) ≤ maxReconcilePasses) :
    Repairable con ident kernel :=
  ⟨forall_family.mpr ⟨h.1, h.2.1⟩, h.2.2.1,
    fun tbl => Nat.le_trans (lookupCount_le tbl _) h.2.2.2.1, forall_family.mpr h.2.2.2.2⟩

theorem repairable_installed : Repairable .sample sampleIdentity (installedKernel 0) ∧
      (sample.resolveIdentity (installedKernel 0).snapshot).1 = .selected sampleIdentity ∧
      ((installedKernel 0).mangle .ipv4).rules.count (jumpRule .sample) ≤ 1 ∧
      ((installedKernel 0).mangle .ipv6).rules.count (jumpRule .sample) ≤ 1 := by
  refine And.imp_left Repairable.of_checked ?_
  decide +kernel

/-- Attached chains, a lookup and no guard in IPv4. -/
theorem reconcile_converges_installed :
    ∃ selected after,
      (reconcileAuthorized (kernelIo .sample) .sample (kernelCurrent .sample) 1 false none :
        Exec Kernel Empty _) (installedKernel 0) =
          (.ok (some (.completed (.failClosed none)), selected), after) ∧
      selected.verifyFailClosedBase after.snapshot = .ok () := by
  obtain ⟨hready, hidentity, hfuel⟩ := repairable_installed
  obtain ⟨selected, after, hrun, -, hverified, -⟩ := reconcile_converges faithful_sample
    (fun _ => rfl) hidentity hready (forall_family.mpr hfuel) none
  exact ⟨selected, after, hrun, hverified⟩

end MishProxy.Runtime
