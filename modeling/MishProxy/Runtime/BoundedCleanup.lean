import MishProxy.Runtime.CleanupComplete
import MishProxy.Runtime.Faithful

/-!
# Cleanup of a bounded policy

The policy of one identity: the exact product chain in both families and at most
`maxReconcilePasses` copies of each jump, guard and lookup. On a kernel that applies the
commands, `cleanup_bounded_iff` says when a cleanup removes it: exactly when each family has
fewer guards than there are passes. The loops over lookups, jumps and legacy selectors look
once more after the last pass; the loop over guards does not, so it removes the eighth guard
and fails all the same (`cleanup_fails_at_eight_guards`).
-/

namespace MishProxy.Runtime

open Text Cellular Routing Netfilter Effects Effects.Exec Session RootPolicyContract List Function
  Table

/-- The product's objects of one family, and no other line that mentions the product. -/
@[mk_iff]
structure FamilyPolicy (contract : RootPolicyContract) (identity : PolicyIdentity)
    (family : Family) (table : Table) (rules : List RpdbRule) : Prop where
  declared : contract.chainName ∈ table.userChains
  exact : ExactChain contract family identity table
  mentions : ∀ line ∈ table.listing, contains line contract.chainName = true →
    line = contract.chainDefinition ∨ line = contract.outputJump ∨
      line ∈ contract.ownedChainLinesFor family identity
  jump_le : table.rules.count (jumpRule contract) ≤ maxReconcilePasses
  legacy_le : table.rules.count (legacyRule contract) ≤ maxReconcilePasses
  guards : ProductGuards identity rules
  guard_le : guardCount identity rules ≤ maxReconcilePasses

/-- The policy of the identity in both families. A kernel routes nothing without a rule of
its own, so there is one that is not the product's. -/
structure BoundedPolicy (contract : RootPolicyContract) (identity : PolicyIdentity)
    (kernel : Kernel) : Prop where
  families : ∀ family,
    FamilyPolicy contract identity family (kernel.mangle family) (kernel.rpdb family)
  lookups : ProductLookups identity (kernel.rpdb .ipv4)
  lookup_le : ∀ table, lookupCount identity table (kernel.rpdb .ipv4) ≤ maxReconcilePasses
  foreign : ∃ rule ∈ kernel.rpdb .ipv4, ownsRule identity .ipv4 rule = false

variable {env : KernelEnvironment} {kernel : Kernel} {con : RootPolicyContract}
  {ident : PolicyIdentity} {family : Family}

variable {rules : List RpdbRule} {table : Table}

theorem FamilyPolicy.withIdentity (h : FamilyPolicy con ident family table rules)
    (hid : ident ∈ con.ns.candidates) :
    FamilyPolicy (con.withIdentity ident hid) ident family table rules :=
  ⟨h.declared, h.exact, h.mentions, h.jump_le, h.legacy_le, h.guards, h.guard_le⟩

/-! ## The product chain -/

/-- The lines that mention the product are the definition and the lines of its chain. -/
def OnlyChainMentions (contract : RootPolicyContract) (family : Family)
    (identity : PolicyIdentity) (table : Table) : Prop :=
  ∀ line ∈ table.listing, contains line contract.chainName = true →
    line = contract.chainDefinition ∨ line ∈ contract.ownedChainLinesFor family identity

theorem OnlyChainMentions.rule (h : OnlyChainMentions con family ident table)
    {rule} (hrule : rule ∈ table.rules)
    (hment : contains rule.line con.chainName = true) : rule.chain = con.chainName := by
  rcases h _ (table.line_mem_listing_iff.mpr hrule) hment with heq | hline
  · exact absurd heq (line_ne_chainDefinition rule)
  · exact chain_of_line_mem_ownedChainLines hline

/-- The flush and the deletion of the chain leave no line that mentions it. -/
theorem OnlyChainMentions.exists_deleted (hid : ident ∈ con.ns.candidates)
    (h : OnlyChainMentions con family ident table)
    (hdecl : con.chainName ∈ table.userChains) :
    ∃ flushed deleted, table.flushChain con.chainName = some flushed ∧
      flushed.deleteChain con.chainName = some deleted ∧
      ∀ line ∈ deleted.listing, line ∈ table.listing ∧ contains line con.chainName = false := by
  have hflush : table.flushChain con.chainName =
      some (table.filterRules fun rule => rule.chain != con.chainName) := by
    rw [flushChain, if_pos (.inr hdecl)]
  have hkept {rule : ChainRule}
      (hrule : rule ∈ (table.filterRules fun rule => rule.chain != con.chainName).rules) :
      rule ∈ table.rules ∧ rule.chain ≠ con.chainName := by
    obtain ⟨hmem, hchain⟩ := mem_filter.mp hrule
    exact ⟨hmem, bne_iff_ne.mp hchain⟩
  obtain ⟨deleted, hdel, hpol, hchains, hrules⟩ := exists_deleteChain
    (table.filterRules fun rule => rule.chain != con.chainName) hdecl
    (fun rule hrule => (hkept hrule).2) (fun rule hrule htgt => by
      have hmem := mem_of_chainTarget htgt
      rw [← rule.splitWhitespace_line] at hmem
      exact (hkept hrule).2
        (h.rule (hkept hrule).1 (contains_iff.mpr (of_mem_splitWhitespace hmem).2)))
  refine ⟨_, deleted, hflush, hdel, fun line hline => ?_⟩
  have hold : line ∈ table.listing := by
    refine table.listing_filterRules_subset _ (listing_subset hpol ?_ ?_ hline)
    · rw [hchains]
      exact erase_subset
    · rw [hrules]
      exact Subset.refl _
  refine ⟨hold, Bool.eq_false_iff.mpr fun hment => ?_⟩
  rcases h line hold hment with rfl | howned
  · have hword : IsWord con.chainName := isWord_chainName con.ns
    have hmem := (definitionLine_mem_listing_iff _ hword).mp hline
    rw [hchains] at hmem
    exact table.userChains_nodup.not_mem_erase hmem
  · obtain ⟨rule, rfl, hchain, -⟩ := exists_chainRule hid howned
    have hmem := (line_mem_listing_iff _).mp hline
    rw [hrules] at hmem
    exact (hkept hmem).2 hchain

/-- The chain of the family is gone, and nothing else has changed. -/
structure ChainRemoved (contract : RootPolicyContract) (family : Family) (kernel after : Kernel) :
    Prop extends OnlyMangle family kernel after where
  lines : ∀ line ∈ after.mangleLines family, line ∈ kernel.mangleLines family ∧
    contains line contract.chainName = false

theorem ends_removeOwnedChain (henv : Faithful env) (hact : con.activeIdentity = some ident)
    (hdecl : con.chainName ∈ (kernel.mangle family).userChains)
    (hexact : ExactChain con family ident (kernel.mangle family))
    (hmentions : OnlyChainMentions con family ident (kernel.mangle family))
    {E} : Ends (removeOwnedChain (kernelIo env) con family)
      (fun _ after => ChainRemoved con family kernel after) E kernel := by
  have hid := con.active_mem ident hact
  have hword : IsWord con.chainName := isWord_chainName con.ns
  obtain ⟨flushed, deleted, hflush, hdel, hclean⟩ := hmentions.exists_deleted hid hdecl
  have hlisted : (kernel.mangleLines family).contains con.chainDefinition = true := by
    rw [contains_iff_mem]
    exact (definitionLine_mem_listing_iff _ hword).mpr hdecl
  have hactual : chainLines (kernel.mangleLines family) con.chainName =
      con.ownedChainLinesFor family ident := by
    rw [Kernel.mangleLines, chainLines_listing _ hword]
    exact hexact
  have hflushed : kernel.tick.apply (flushChainCommand con family) =
      some (kernel.tick.setMangle family flushed) := by
    show (flushChain (kernel.mangle family) con.chainName).map _ = _
    rw [hflush, Option.map_some]
  have hdeleted (cmd : PolicyCommand) : ((kernel.tick.setMangle family flushed).logged cmd).apply
        (deleteChainCommand con family) =
      some (((kernel.tick.setMangle family flushed).logged cmd).setMangle family deleted) := by
    show (deleteChain (update kernel.mangle family flushed family) con.chainName).map _ = _
    rw [update_self, hdel, Option.map_some]
  unfold removeOwnedChain
  rw [ends_bind, henv.ends_mangle, if_pos hlisted, ends_bind, ownedChainLinesOf_of_active hact]
  dsimp only [require]
  rw [ends_pure, hactual, if_neg (by simp), ends_bind, ends_issue, hflushed]
  refine ⟨fun _ heq => ?_, by simp⟩
  cases heq
  rw [ends_bind, ends_issue, hdeleted]
  refine ⟨fun _ heq => ?_, by simp⟩
  cases heq
  rw [ends_bind, henv.ends_mangle, ends_ensure]
  have hlines (observed : Kernel) (hobsd : observed.mangle family = deleted) :
      ∀ line ∈ observed.mangleLines family, line ∈ kernel.mangleLines family ∧
        contains line con.chainName = false := by
    rw [Kernel.mangleLines, hobsd]
    exact hclean
  have hafter : (((kernel.tick.setMangle family flushed).logged
      (flushChainCommand con family)).setMangle family deleted).mangle family = deleted :=
    update_self ..
  refine ⟨fun _ => ⟨?_, hlines _ hafter⟩, fun hmentioned => ?_⟩
  · exact (((OnlyMangle.refl family kernel).tick.set flushed _).set deleted _).tick
  · rw [Bool.not_eq_false', any_eq_true] at hmentioned
    obtain ⟨line, hline, hment⟩ := hmentioned
    rw [(hlines _ hafter line hline).2] at hment
    cases hment

/-! ## One family -/

/-- No line of the family mentions the product, and nothing but its mangle table has changed. -/
structure MangleCleared (contract : RootPolicyContract) (family : Family) (kernel after : Kernel) :
    Prop extends OnlyMangle family kernel after where
  clean : contract.hasMangleSignature (after.mangleLines family) = false

/-- The table of the family without its jumps and legacy selectors. -/
def withoutReferences (contract : RootPolicyContract) (table : Table) : Table :=
  (table.filterRules fun other => other != jumpRule contract).filterRules
    fun other => other != legacyRule contract

theorem withoutReferences_listing_subset (table) :
    (withoutReferences con table).listing ⊆ table.listing :=
  Subset.trans (listing_filterRules_subset _ _) (table.listing_filterRules_subset _)

theorem FamilyPolicy.onlyChainMentions (h : FamilyPolicy con ident family table rules) :
    OnlyChainMentions con family ident (withoutReferences con table) := by
  intro line hline hment
  rcases h.mentions line (withoutReferences_listing_subset table hline) hment with
    heq | rfl | howned
  · exact .inl heq
  · rw [← line_jumpRule, line_mem_listing_iff] at hline
    have hjump := mem_of_mem_filter hline
    simp [filterRules] at hjump
  · exact .inr howned

theorem legacySelectorLine_notMem (table) :
    con.legacySelectorLine ∉ (withoutReferences con table).listing := by
  rw [← line_legacyRule, line_mem_listing_iff]
  simp [withoutReferences, filterRules]

variable {E : RootPolicyCleanupFailure → Kernel → Prop}
  {chainFailure guardFailure : RootPolicyCleanupFailure}

theorem ends_cleanupFamily (henv : Faithful env) (hact : con.activeIdentity = some ident)
    (h : FamilyPolicy con ident family (kernel.mangle family) (kernel.rpdb family))
    {Q}
    (hguard : ∀ middle, MangleCleared con family kernel middle →
      Ends (removeGuard (kernelIo env) con family) (fun _ => Q (true, true))
        (fun _ => E guardFailure) middle) :
    Ends (cleanupFamily (kernelIo env) con family chainFailure guardFailure) Q E kernel := by
  have hoff : "OUTPUT".toList ≠ con.chainName := output_ne_chainName
  unfold cleanupFamily
  rw [ends_bind, ends_attempt]
  refine .imp (ends_removeAllOutputJumps henv h.jump_le) ?_
  rintro _ unjumped ⟨hrpdb₁, hmangle₁⟩
  have hlegacy : (unjumped.mangle family).rules.count (legacyRule con) ≤ maxReconcilePasses := by
    rw [hmangle₁, update_self]
    exact Nat.le_trans (filter_sublist.count_le _) h.legacy_le
  rw [ends_bind, ends_attempt]
  refine .imp (ends_removeLegacySelector henv hlegacy) ?_
  rintro _ free ⟨hrpdb₂, hmangle₂⟩
  have hfree : free.mangle family = withoutReferences con (kernel.mangle family) := by
    rw [hmangle₂, update_self, hmangle₁, update_self]
    rfl
  have hexact : ExactChain con family ident (free.mangle family) := by
    rw [hfree, withoutReferences, exactChain_filterRules_iff hoff, exactChain_filterRules_iff hoff]
    exact h.exact
  have hdecl : con.chainName ∈ (free.mangle family).userChains := by
    rw [hfree]
    exact h.declared
  have hmentions : OnlyChainMentions con family ident (free.mangle family) := by
    rw [hfree]
    exact h.onlyChainMentions
  rw [if_pos (by rfl), ends_bind, ends_mapError]
  refine .imp (ends_removeOwnedChain henv hact hdecl hexact hmentions) ?_
  intro _ middle hrem
  rw [ends_bind, ends_mapError]
  refine hguard middle ⟨⟨?_, fun other hoth => ?_⟩, ?_⟩
  · rw [hrem.rpdb, hrpdb₂, hrpdb₁]
  · rw [hrem.others other hoth, hmangle₂, update_of_ne hoth, hmangle₁, update_of_ne hoth]
  · refine any_eq_false.mpr fun line hline hsig => ?_
    obtain ⟨hold, hment⟩ := hrem.lines line hline
    rw [hment, Bool.false_or, beq_iff_eq] at hsig
    rw [hsig, Kernel.mangleLines, hfree] at hold
    exact legacySelectorLine_notMem _ hold

/-- The product's objects of the family are gone, and nothing else has changed. -/
structure FamilyCleaned (contract : RootPolicyContract) (identity : PolicyIdentity)
    (family : Family) (kernel after : Kernel) : Prop where
  rpdb : after.rpdb =
    Function.update kernel.rpdb family (withoutGuards identity (kernel.rpdb family))
  others : ∀ other, other ≠ family → after.mangle other = kernel.mangle other
  clean : contract.hasMangleSignature (after.mangleLines family) = false

theorem cleanupFamily_succeeds (henv : Faithful env) (hact : con.activeIdentity = some ident)
    (h : FamilyPolicy con ident family (kernel.mangle family) (kernel.rpdb family))
    (hcount : guardCount ident (kernel.rpdb family) < maxReconcilePasses) :
    Ends (cleanupFamily (kernelIo env) con family chainFailure guardFailure)
      (fun res after => res = (true, true) ∧
        FamilyCleaned con ident family kernel after) E kernel := by
  refine ends_cleanupFamily henv hact h fun middle hclr => ?_
  have hguards := h.guards
  rw [← hclr.rpdb] at hguards hcount
  refine .imp (ends_removeGuard henv hact hguards hcount) ?_
  rintro _ after ⟨hmang, hrpdb⟩
  refine ⟨rfl, ?_, fun other hoth => ?_, ?_⟩
  · rw [hrpdb, hclr.rpdb]
  · rw [hmang, hclr.others other hoth]
  · rw [Kernel.mangleLines, hmang]
    exact hclr.clean

theorem cleanupFamily_fails (henv : Faithful env) (hact : con.activeIdentity = some ident)
    (h : FamilyPolicy con ident family (kernel.mangle family) (kernel.rpdb family))
    (hcount : maxReconcilePasses ≤ guardCount ident (kernel.rpdb family))
    {Q} : Ends (cleanupFamily (kernelIo env) con family chainFailure guardFailure) Q
      (fun _ _ => True) kernel := by
  refine ends_cleanupFamily henv hact h fun middle hclr => ?_
  have hguards := h.guards
  rw [← hclr.rpdb] at hguards hcount
  exact fails_removeGuard henv hact hguards hcount

/-! ## Both families -/

theorem guardCount_withoutLookups (hid : ident ∈ con.ns.candidates) (rules) :
    guardCount ident (withoutLookups ident rules) = guardCount ident rules := by
  unfold guardCount withoutLookups
  rw [countP_filter]
  refine countP_congr fun rule _ => ?_
  rw [Bool.and_eq_true, beq_iff_eq, and_iff_left_iff_imp]
  exact ownedLookupTable_of_ownedGuard hid

theorem BoundedPolicy.familyPolicy (h : BoundedPolicy con ident kernel)
    (hid : ident ∈ con.ns.candidates) {after : Kernel} (hmang : after.mangle = kernel.mangle)
    (hrpdb : after.rpdb =
      Function.update kernel.rpdb .ipv4 (withoutLookups ident (kernel.rpdb .ipv4)))
    (family) : FamilyPolicy con ident family (after.mangle family) (after.rpdb family) ∧
      guardCount ident (after.rpdb family) = guardCount ident (kernel.rpdb family) := by
  have hpol := h.families family
  rw [hmang, hrpdb]
  cases family with
  | ipv4 =>
    rw [update_self]
    have hcount := guardCount_withoutLookups hid (kernel.rpdb .ipv4)
    refine ⟨⟨hpol.declared, hpol.exact, hpol.mentions, hpol.jump_le, hpol.legacy_le,
      fun rule hrule => hpol.guards rule (mem_of_mem_filter hrule), ?_⟩, hcount⟩
    rw [hcount]
    exact hpol.guard_le
  | ipv6 =>
    have hne : Family.ipv6 ≠ .ipv4 := by decide
    rw [update_of_ne hne]
    exact ⟨hpol, rfl⟩

theorem mem_withoutGuards_withoutLookups {rule} :
    rule ∈ withoutGuards ident (withoutLookups ident rules) ↔
      rule ∈ rules ∧ ownsRule ident .ipv4 rule = false := by
  simp only [withoutGuards, withoutLookups, mem_filter, ownsRule, beq_self_eq_true,
    Bool.true_and, lineIsOwnedLookupFor, Bool.or_eq_false_iff, beq_iff_eq,
    Bool.not_eq_true', Option.isSome_eq_false_iff, Option.isNone_iff_eq_none, and_assoc]
  rw [and_comm (b := lineIsOwnedGuardFor rule.line ident = false)]

/-- What the removals leave: neither a line nor a rule of the product. -/
structure PolicyRemoved (contract : RootPolicyContract) (identity : PolicyIdentity)
    (after : Kernel) : Prop where
  mangle : NoMangleSignature contract after
  rules : NoRuleOf identity after
  routed : after.rpdb .ipv4 ≠ []

variable (henv : Faithful env)
include henv

theorem cleanupRules_succeeds
    (hact : con.activeIdentity = some ident) (h : BoundedPolicy con ident kernel)
    (hcount : ∀ family, guardCount ident (kernel.rpdb family) < maxReconcilePasses) :
    Ends (cleanupRules (kernelIo env) con)
      (fun _ after => PolicyRemoved con ident after) E kernel := by
  have hid := con.active_mem ident hact
  have hne : Family.ipv6 ≠ .ipv4 := by decide
  unfold cleanupRules
  rw [ends_bind, ends_mapError]
  refine .imp (ends_removeOwnedIpv4Lookups henv hact h.lookups h.lookup_le) ?_
  rintro _ bare ⟨hmang, hrpdb⟩
  have hpol := h.familyPolicy hid hmang hrpdb
  refine .bind (cleanupFamily_succeeds henv hact (hpol .ipv4).1 ((hpol .ipv4).2 ▸ hcount .ipv4)) ?_
  rintro res four ⟨rfl, hfour⟩
  have hsix : FamilyPolicy con ident .ipv6 (four.mangle .ipv6) (four.rpdb .ipv6) ∧
      guardCount ident (four.rpdb .ipv6) = guardCount ident (kernel.rpdb .ipv6) := by
    rw [hfour.others .ipv6 hne, hfour.rpdb, update_of_ne hne]
    exact hpol .ipv6
  refine .bind (cleanupFamily_succeeds henv hact hsix.1 (hsix.2 ▸ hcount .ipv6)) ?_
  rintro res after ⟨rfl, hafter⟩
  have hipv4 : after.rpdb .ipv4 =
      withoutGuards ident (withoutLookups ident (kernel.rpdb .ipv4)) := by
    rw [hafter.rpdb, update_of_ne hne.symm, hfour.rpdb, update_self, hrpdb, update_self]
  refine ⟨forall_family.mpr ⟨?_, hafter.clean⟩, forall_family.mpr ⟨?_, ?_⟩, ?_⟩
  · rw [Kernel.mangleLines, hafter.others .ipv4 hne.symm]
    exact hfour.clean
  · rw [hipv4]
    exact fun rule hrule => (mem_withoutGuards_withoutLookups.mp hrule).2
  · rw [hafter.rpdb, update_self]
    intro rule hrule
    have hguard := (mem_filter.mp hrule).2
    rw [Bool.not_eq_true'] at hguard
    rw [ownsRule, hguard]
    rfl
  · obtain ⟨rule, hrule, hforeign⟩ := h.foreign
    rw [hipv4]
    exact ne_nil_of_mem (mem_withoutGuards_withoutLookups.mpr ⟨hrule, hforeign⟩)

theorem cleanupRules_fails (hact : con.activeIdentity = some ident)
    (h : BoundedPolicy con ident kernel) {family}
    (hcount : maxReconcilePasses ≤ guardCount ident (kernel.rpdb family))
    {Q} : Ends (cleanupRules (kernelIo env) con) Q (fun _ _ => True) kernel := by
  have hid := con.active_mem ident hact
  have hne : Family.ipv6 ≠ .ipv4 := by decide
  unfold cleanupRules
  rw [ends_bind, ends_mapError]
  refine .imp (ends_removeOwnedIpv4Lookups henv hact h.lookups h.lookup_le) ?_
  rintro _ bare ⟨hmang, hrpdb⟩
  have hpol := h.familyPolicy hid hmang hrpdb
  rw [ends_bind]
  by_cases hfour : maxReconcilePasses ≤ guardCount ident (kernel.rpdb .ipv4)
  · exact cleanupFamily_fails henv hact (hpol .ipv4).1 ((hpol .ipv4).2 ▸ hfour)
  · have hsix : maxReconcilePasses ≤ guardCount ident (kernel.rpdb .ipv6) := by
      cases family with
      | ipv4 => exact absurd hcount hfour
      | ipv6 => exact hcount
    refine .imp (cleanupFamily_succeeds henv hact (hpol .ipv4).1
      ((hpol .ipv4).2 ▸ Nat.lt_of_not_le hfour)) ?_
    rintro res four ⟨rfl, hcleaned⟩
    rw [ends_bind]
    refine cleanupFamily_fails henv hact ?_ ?_
    · rw [hcleaned.others .ipv6 hne, hcleaned.rpdb, update_of_ne hne]
      exact (hpol .ipv6).1
    · rw [hcleaned.rpdb, update_of_ne hne, (hpol .ipv6).2]
      exact hsix

/-! ## The run -/

variable {state : RootPolicyState}

theorem cleanupSelected_succeeds (hact : state.contract.activeIdentity = some ident)
    (hterm : state.terminalAuthority = none) (h : BoundedPolicy state.contract ident kernel)
    (hcount : ∀ family, guardCount ident (kernel.rpdb family) < maxReconcilePasses)
    {E} : Ends (cleanupSelected (kernelIo env) state)
      (fun _ after => NoMangleSignature state.contract after ∧ NoRuleOf ident after) E kernel := by
  unfold cleanupSelected
  rw [ends_bind, ends_mapError]
  refine .imp (cleanupRules_succeeds henv hact h hcount) ?_
  intro _ removed hrem
  refine .bind (henv.ends_probeAuthority hterm hrem.routed hrem.mangle) ?_
  rintro ⟨auth, probed⟩ granted ⟨hready, hcontr, hrpdb, hmang⟩
  have hclean : NoMangleSignature state.contract granted ∧ NoRuleOf ident granted := by
    unfold NoMangleSignature NoRuleOf Kernel.mangleLines
    rw [hrpdb, hmang]
    exact ⟨hrem.mangle, hrem.rules⟩
  dsimp only at hready hcontr ⊢
  rw [if_pos hready, ends_bind, ends_mapError, henv.ends_snapshot, hcontr,
    if_pos ((verifyExactCleanup_iff hact).mpr hclean)]
  exact hclean

theorem cleanupSelected_fails (hact : state.contract.activeIdentity = some ident)
    (h : BoundedPolicy state.contract ident kernel)
    (hcount : maxReconcilePasses ≤ guardCount ident (kernel.rpdb family))
    {Q} : Ends (cleanupSelected (kernelIo env) state) Q (fun _ _ => True) kernel := by
  unfold cleanupSelected
  rw [ends_bind, ends_mapError]
  exact cleanupRules_fails henv hact h hcount

theorem ends_cleanupExact (hident : cleanupIdentity state.contract kernel.snapshot = some ident)
    {Q E}
    (hsel : ∀ (hid : ident ∈ state.contract.ns.candidates) (after : Kernel),
      after.rpdb = kernel.rpdb → after.mangle = kernel.mangle → Ends (cleanupSelected (kernelIo env)
        { state with contract := state.contract.withIdentity ident hid }) Q E after) :
    Ends (cleanupExact (kernelIo env) state) Q E kernel := by
  unfold cleanupExact
  cases hact : state.contract.activeIdentity with
  | some active =>
    rw [cleanupIdentity, hact] at hident
    cases hident
    have hrun := hsel (state.contract.active_mem ident hact) kernel rfl rfl
    rw [state.contract.withIdentity_self hact] at hrun
    rw [if_pos (by rfl)]
    exact hrun
  | none =>
    rw [if_neg (by simp), ends_bind, ends_mapError, henv.ends_snapshot]
    rcases resolveIdentity_of_none hact kernel.snapshot with hresv | ⟨other, hid, hresv⟩
    · rw [cleanupIdentity, hact, hresv] at hident
      cases hident
    · rw [cleanupIdentity, hact, hresv] at hident
      cases hident
      rw [hresv]
      exact hsel hid _ rfl rfl

omit henv

theorem BoundedPolicy.selected (h : BoundedPolicy con ident kernel)
    (hid : ident ∈ con.ns.candidates) {after} (hrpdb : after.rpdb = kernel.rpdb)
    (hmang : after.mangle = kernel.mangle) :
    BoundedPolicy (con.withIdentity ident hid) ident after := by
  refine ⟨fun family => ?_, ?_, ?_, ?_⟩
  · rw [hrpdb, hmang]
    exact (h.families family).withIdentity hid
  · rw [hrpdb]
    exact h.lookups
  · rw [hrpdb]
    exact h.lookup_le
  · rw [hrpdb]
    exact h.foreign

theorem cleanupExact_fails (henv : Faithful env)
    (hident : cleanupIdentity state.contract kernel.snapshot = some ident)
    (h : BoundedPolicy state.contract ident kernel)
    (hcount : maxReconcilePasses ≤ guardCount ident (kernel.rpdb family)) :
    Ends (cleanupExact (kernelIo env) state) (fun _ _ => False) (fun _ _ => True) kernel := by
  refine ends_cleanupExact henv hident fun hid middle hrpdb hmang => ?_
  rw [← hrpdb] at hcount
  exact cleanupSelected_fails henv rfl (h.selected hid hrpdb hmang) hcount

/-- On a kernel that applies the commands, a cleanup of a bounded policy succeeds and leaves
nothing of it exactly when each family has fewer guards than there are passes. -/
theorem cleanup_bounded_iff {env : KernelEnvironment} (henv : Faithful env)
    {state : RootPolicyState} (hterminal : state.terminalAuthority = none) {kernel : Kernel}
    {identity : PolicyIdentity}
    (hidentity : cleanupIdentity state.contract kernel.snapshot = some identity)
    (h : BoundedPolicy state.contract identity kernel) :
    (∃ result after, cleanupExact (kernelIo env) state kernel = (.ok result, after) ∧
        NoMangleSignature state.contract after ∧ NoRuleOf identity after) ↔
      ∀ family, guardCount identity (kernel.rpdb family) < maxReconcilePasses := by
  constructor
  · rintro ⟨result, after, hrun, -⟩ family
    by_contra hcount
    exact (cleanupExact_fails henv hidentity h (Nat.le_of_not_lt hcount)).of_ok hrun
  · intro hcount
    refine (ends_cleanupExact henv hidentity fun hid middle hrpdb hmangle => ?_).exists_ok
    rw [← hrpdb] at hcount
    have hpolicy := h.selected hid hrpdb hmangle
    exact cleanupSelected_succeeds henv (by rfl) (by exact hterminal) hpolicy hcount

/-! ## Policies of the sample contract -/

theorem faithful_sample : Faithful .sample := ⟨fun _ => rfl, fun _ => rfl, fun _ => rfl⟩

instance (identity : PolicyIdentity) (rules : List RpdbRule) :
    Decidable (ProductGuards identity rules) :=
  inferInstanceAs (Decidable (∀ _ ∈ _, _ → _))

instance (identity : PolicyIdentity) (rules : List RpdbRule) :
    Decidable (ProductLookups identity rules) :=
  inferInstanceAs (Decidable (∀ rule ∈ rules, ∀ table ∈ lookupOf identity rule, _))

instance (contract : RootPolicyContract) (identity : PolicyIdentity) (family : Family)
    (table : Table) (rules : List RpdbRule) :
    Decidable (FamilyPolicy contract identity family table rules) :=
  decidable_of_iff _ (familyPolicy_iff ..).symm

/-- The identity of the sample contract. -/
def sampleIdentity : PolicyIdentity := ⟨"0x200000".toList, 0x200000, 9500, 9501⟩

/-- The product's own commands for the chains, one jump in each family, the guards and a
lookup. -/
def installCommands (ipv4Guards : Nat) : List PolicyCommand :=
  ([Family.ipv4, .ipv6].flatMap fun family =>
    createChainCommand .sample family ::
      (sample.ownedChainLinesFor family sampleIdentity).map
        (fun rule => .mangle family (.append rule)) ++ [outputJumpAdd .sample family]) ++
    List.replicate ipv4Guards (.ruleAdd .ipv4 (guardAttributes sampleIdentity)) ++
    [.ruleAdd .ipv6 (guardAttributes sampleIdentity),
      .ruleAdd .ipv4 (lookupAttributes sampleIdentity "1000".toList)]

def installedKernel (ipv4Guards : Nat) : Kernel :=
  (installCommands ipv4Guards).foldl (fun kernel command => (kernel.apply command).getD kernel)
    .sample

theorem lookupCount_le (table rules) :
    lookupCount ident table rules ≤ rules.countP fun rule => (lookupOf ident rule).isSome := by
  refine countP_mono_left fun rule _ hlook => ?_
  rw [beq_iff_eq.mp hlook]
  rfl

theorem BoundedPolicy.of_checked
    (h : FamilyPolicy con ident .ipv4 (kernel.mangle .ipv4) (kernel.rpdb .ipv4) ∧
      FamilyPolicy con ident .ipv6 (kernel.mangle .ipv6) (kernel.rpdb .ipv6) ∧
      ProductLookups ident (kernel.rpdb .ipv4) ∧
      ((kernel.rpdb .ipv4).countP fun rule => (lookupOf ident rule).isSome) ≤ maxReconcilePasses ∧
      ∃ rule ∈ kernel.rpdb .ipv4, ownsRule ident .ipv4 rule = false) :
    BoundedPolicy con ident kernel :=
  ⟨forall_family.mpr ⟨h.1, h.2.1⟩, h.2.2.1,
    fun table => Nat.le_trans (lookupCount_le table _) h.2.2.2.1, h.2.2.2.2⟩

theorem boundedPolicy_seven : BoundedPolicy .sample sampleIdentity (installedKernel 7) ∧
      guardCount sampleIdentity ((installedKernel 7).rpdb .ipv4) < maxReconcilePasses ∧
      guardCount sampleIdentity ((installedKernel 7).rpdb .ipv6) < maxReconcilePasses := by
  refine And.imp_left BoundedPolicy.of_checked ?_
  decide +kernel

theorem boundedPolicy_eight : BoundedPolicy .sample sampleIdentity (installedKernel 8) ∧
      maxReconcilePasses ≤ guardCount sampleIdentity ((installedKernel 8).rpdb .ipv4) := by
  refine And.imp_left BoundedPolicy.of_checked ?_
  decide +kernel

/-- Seven guards are removed. -/
theorem cleanup_bounded_seven :
    ∃ result after, cleanupExact (kernelIo .sample) ⟨.sample, some 1, none⟩ (installedKernel 7) =
        (.ok result, after) ∧
      NoMangleSignature .sample after ∧ NoRuleOf sampleIdentity after :=
  (cleanup_bounded_iff faithful_sample rfl rfl boundedPolicy_seven.1).mpr
    (forall_family.mpr boundedPolicy_seven.2)

/-- With eight guards the cleanup does not succeed. -/
theorem cleanup_fails_at_eight_guards :
    Faithful .sample ∧ cleanupIdentity .sample (installedKernel 8).snapshot = some sampleIdentity ∧
      BoundedPolicy .sample sampleIdentity (installedKernel 8) ∧
      ∀ result after, cleanupExact (kernelIo .sample) ⟨.sample, some 1, none⟩ (installedKernel 8) ≠
        (.ok result, after) := by
  obtain ⟨hpolicy, hcount⟩ := boundedPolicy_eight
  refine ⟨faithful_sample, rfl, hpolicy, fun result after hrun => ?_⟩
  exact (cleanupExact_fails faithful_sample rfl hpolicy hcount).of_ok hrun

end MishProxy.Runtime
