import MishProxy.Cellular.AuditSound
import MishProxy.Netfilter.Table

/-!
# The product's rules in a mangle table

The rules behind the lines of the contract, and what the contract reads off the listing
of a table, in terms of the table itself.

* `line_jumpRule`, `line_legacyRule`, `exists_chainRule`: the rules whose lines are the
  jump, the legacy selector and the lines of the product chain.
* `mangleFamilyStateFor_listing`: the state of a family.
* `audit_listing_clean_iff`: a clean audit.
-/

namespace MishProxy.Netfilter

open Text Cellular RootPolicyContract List

/-! ## Rules of the contract -/

section

variable (contract : RootPolicyContract)

def jumpRule : ChainRule where
  chain := "OUTPUT".toList
  body := contract.outputJumpTokens.drop 2
  isWord_chain := by decide
  isWord_body token h := contract.isWord_of_mem_outputJumpTokens token (List.mem_of_mem_drop h)
  body_ne_nil := by simp [outputJumpTokens]

theorem line_jumpRule : (jumpRule contract).line = contract.outputJump :=
  contract.outputJump_eq_joinTokens.symm

def legacyRule : ChainRule where
  chain := "OUTPUT".toList
  body := contract.legacySelectorTokens.drop 2
  isWord_chain := by decide
  isWord_body token h := contract.isWord_of_mem_legacySelectorTokens token (List.mem_of_mem_drop h)
  body_ne_nil := by simp [legacySelectorTokens]

theorem line_legacyRule : (legacyRule contract).line = contract.legacySelectorLine :=
  contract.legacySelectorLine_eq_joinTokens.symm

variable {contract} {fam : Family} {ident : PolicyIdentity}

theorem chainRuleTokens_shape {toks} (h : toks ∈ contract.ns.chainRuleTokens fam ident) :
    ∃ body, toks = "-A".toList :: contract.chainName :: body ∧ body ≠ [] := by
  simp only [RootPolicyNamespace.chainRuleTokens, mem_cons, not_mem_nil, or_false] at h
  rcases h with rfl | rfl | rfl | rfl
  all_goals exact ⟨_, rfl, by simp⟩

theorem chainTarget_chainRuleTokens (hid : ident ∈ contract.ns.candidates) {toks}
    (h : toks ∈ contract.ns.chainRuleTokens fam ident) :
    ∃ tgt ∈ targetNames, chainTarget toks = .named tgt := by
  have hall : ∀ (ns : RootPolicyNamespace), ∀ ident ∈ ns.candidates,
      ∀ toks ∈ ns.chainRuleTokens fam ident,
        ∃ tgt ∈ targetNames, chainTarget toks = .named tgt := by
    intro ns
    cases ns <;> cases fam <;> decide +kernel
  exact hall contract.ns ident hid toks h

theorem exists_chainRule (hid : ident ∈ contract.ns.candidates) {line : Text}
    (h : line ∈ contract.ownedChainLinesFor fam ident) :
    ∃ rule : ChainRule, rule.line = line ∧ rule.chain = contract.chainName ∧
      ∃ tgt ∈ targetNames, chainTarget rule.tokens = .named tgt := by
  rw [contract.ownedChainLinesFor_eq_map_joinTokens] at h
  obtain ⟨toks, htok, rfl⟩ := mem_map.mp h
  have hwords := contract.isWord_of_mem_chainRuleTokens hid htok
  have htgt := chainTarget_chainRuleTokens hid htok
  obtain ⟨body, rfl, hbody⟩ := chainRuleTokens_shape htok
  refine ⟨⟨contract.chainName, body, hwords _ (by simp), fun token htoken => hwords token ?_,
    hbody⟩, rfl, rfl, htgt⟩
  exact .tail _ (.tail _ htoken)

/-- A rule whose only target option is the last one names its target. -/
theorem chainTarget_jump {first tgt} (hfirst : ∀ token ∈ first, isTargetOption token = false)
    (hoption : isTargetOption tgt = false) (hdash : startsWith tgt ['-'] = false) :
    chainTarget (first ++ ["-j".toList, tgt]) = .named tgt := by
  have hjump : isTargetOption ['-', 'j'] = true := by decide
  unfold chainTarget
  induction first with
  | nil => simp [chainTargetFrom, hjump, hoption, hdash]
  | cons token rest ih =>
    obtain ⟨htoken, hrest⟩ := forall_mem_cons.mp hfirst
    rw [cons_append, chainTargetFrom, if_neg (by simp [htoken]), ih hrest]

theorem chainTarget_jumpRule :
    chainTarget (jumpRule contract).tokens = .named contract.chainName := by
  have hsplit : (jumpRule contract).tokens = ["-A".toList, "OUTPUT".toList, "-m".toList,
      "owner".toList, "--uid-owner".toList, decimal contract.productUid] ++
        ["-j".toList, contract.chainName] := rfl
  have huid : isTargetOption (decimal contract.productUid) = false := by
    simp [isTargetOption, decimal_ne (c := '-') (by decide) contract.productUid]
  have hname : isTargetOption contract.chainName = false ∧
      startsWith contract.chainName ['-'] = false := by
    unfold chainName
    cases contract.ns <;> decide
  rw [hsplit]
  refine chainTarget_jump ?_ hname.1 hname.2
  simp only [forall_mem_cons]
  exact ⟨by decide, by decide, by decide, by decide, by decide, huid, by simp⟩

theorem mem_of_chainTarget {toks tgt} (h : chainTarget toks = .named tgt) : tgt ∈ toks := by
  have hfrom : ∀ (toks : List Text) (start : Option Text),
      chainTargetFrom start toks = .named tgt → tgt ∈ toks ∨ start = some tgt := by
    intro toks
    induction toks with
    | nil =>
      intro start h
      cases start with
      | none => cases h
      | some other =>
        cases h
        exact .inr rfl
    | cons token rest ih =>
      intro start h
      rw [chainTargetFrom] at h
      split at h
      · split at h
        · cases h
        · rename_i candidate hcand
          have hmem : candidate ∈ rest := mem_of_mem_head? hcand
          have hnext : chainTargetFrom (some candidate) rest = .named tgt := by
            split at h
            · cases h
            · split at h
              · split at h
                · cases h
                · exact h
              · exact h
          rcases ih _ hnext with hrest | heq
          · exact .inl (.tail _ hrest)
          · cases heq
            exact .inl (.tail _ hmem)
      · exact (ih start h).imp_left (mem_cons_of_mem _)
  exact (hfrom toks none h).resolve_right (by simp)

end

/-! ## What the contract reads off a listing -/

section

variable {con : RootPolicyContract} {fam : Family} {ident : PolicyIdentity}

theorem outputJumpCount_listing (tbl : Table) :
    con.outputJumpCount tbl.listing = tbl.rules.count (jumpRule con) := by
  rw [outputJumpCount, ← line_jumpRule]
  exact tbl.count_line_listing (jumpRule con)

/-- The rules of the product chain, as listed. -/
def ExactChain (contract : RootPolicyContract) (family : Family) (identity : PolicyIdentity)
    (table : Table) : Prop :=
  (table.rules.filter fun rule => rule.chain == contract.chainName).map ChainRule.line =
    contract.ownedChainLinesFor family identity

instance (contract : RootPolicyContract) (family : Family) (identity : PolicyIdentity)
    (table : Table) : Decidable (ExactChain contract family identity table) :=
  inferInstanceAs (Decidable (_ = _))

theorem output_ne_chainName : "OUTPUT".toList ≠ con.chainName := by
  unfold chainName
  cases con.ns <;> decide

theorem exactChain_filterRules_iff {tbl rule} (h : rule.chain ≠ con.chainName) :
    ExactChain con fam ident (tbl.filterRules fun other => other != rule) ↔
      ExactChain con fam ident tbl := by
  have hrules : ((tbl.rules.filter fun other => other != rule).filter fun other =>
      other.chain == con.chainName) =
      tbl.rules.filter fun other => other.chain == con.chainName := by
    rw [filter_filter]
    refine filter_congr fun other _ => ?_
    by_cases heq : other = rule
    · rw [heq, beq_eq_false_iff_ne.mpr h, Bool.false_and]
    · rw [bne_iff_ne.mpr heq, Bool.and_true]
  unfold ExactChain
  rw [← hrules]
  rfl

theorem mangleFamilyStateFor_listing (tbl) : con.mangleFamilyStateFor tbl.listing fam ident =
      if con.chainName ∉ tbl.userChains then
        if tbl.rules.count (jumpRule con) = 0 then .missing else .invalidReferenced
      else if tbl.rules.count (jumpRule con) ≠ 0 ∧
          ¬ ExactChain con fam ident tbl then .invalidReferenced
      else if tbl.rules.count (jumpRule con) > 1 then .attachedDuplicateExact
      else if tbl.rules.count (jumpRule con) = 1 then .attachedExact
      else if ExactChain con fam ident tbl then .detachedExact
      else .detachedMismatch := by
  have hdefs : (tbl.listing.filter fun line => line == con.chainDefinition).length =
      if con.chainName ∈ tbl.userChains then 1 else 0 :=
    tbl.count_definition_listing (isWord_chainName con.ns)
  have hexact : chainLines tbl.listing con.chainName =
      con.ownedChainLinesFor fam ident ↔ ExactChain con fam ident tbl := by
    have hword : IsWord con.chainName := isWord_chainName con.ns
    rw [ExactChain, tbl.chainLines_listing hword]
  unfold mangleFamilyStateFor
  simp only [hdefs, outputJumpCount_listing, hexact]
  by_cases hmem : con.chainName ∈ tbl.userChains
  · simp [hmem]
  · simp [hmem]

/-- The table the audit reads off the listing. -/
def Table.audited (table : Table) : MangleTable :=
  ⟨table.userChains, table.rules.map ChainRule.tokens⟩

theorem trimmed_listing (tbl : Table) : Trimmed tbl.listing :=
  fun _ hline => ⟨(tbl.isRow_of_mem_listing hline).trimmed, (tbl.isRow_of_mem_listing hline).ne_nil⟩

theorem lineOk_listing_iff (tbl : Table) : (∀ line ∈ tbl.listing, LineOk line) ↔
      (∀ chain ∈ tbl.userChains, isSafeChainName chain = true) ∧
        ∀ rule ∈ tbl.rules, isSafeChainName rule.chain = true := by
  constructor
  · intro h
    constructor
    · intro chain hchain
      have hline : Table.definitionLine chain ∈ tbl.listing := by
        unfold Table.listing
        exact mem_append_left _ (mem_append_right _ (mem_map_of_mem hchain))
      have htok := Table.splitWhitespace_definitionLine (tbl.isWord_userChain chain hchain)
      obtain ⟨other, hoth, hsafe⟩ := (h _ hline).declares (by rw [htok]; rfl)
      rw [htok] at hoth
      cases hoth
      exact hsafe
    · intro rule hrule
      have hline : rule.line ∈ tbl.listing := by
        unfold Table.listing
        exact mem_append_right _ (mem_map_of_mem hrule)
      obtain ⟨chain, option, rest, hoth, hsafe⟩ :=
        (h _ hline).rule (by rw [rule.splitWhitespace_line]; rfl)
      rw [rule.splitWhitespace_line] at hoth
      obtain ⟨-, hchain⟩ := cons.inj hoth
      obtain ⟨rfl, -⟩ := cons.inj hchain
      exact hsafe
  · rintro ⟨hchains, hrules⟩ line hline
    rcases tbl.mem_listing_of_tokens hline rfl with ⟨chain, -, -, hhead⟩ |
      ⟨chain, hchain, -, htok⟩ | ⟨rule, hrule, -, htok⟩
    · constructor
      · intro hdeclares
        rw [hhead] at hdeclares
        cases hdeclares
      · intro hrule
        rw [hhead] at hrule
        cases hrule
    · constructor
      · intro _
        exact ⟨chain, htok, hchains chain hchain⟩
      · intro hrule
        rw [htok] at hrule
        cases hrule
    · constructor
      · intro hdeclares
        rw [htok] at hdeclares
        cases hdeclares
      · intro _
        obtain ⟨option, rest, hbody⟩ := exists_cons_of_ne_nil rule.body_ne_nil
        refine ⟨rule.chain, option, rest, ?_, hrules rule hrule⟩
        rw [htok, ChainRule.tokens, hbody]

theorem readTable_listing_iff (tbl : Table) (res : MangleTable) :
    readTable ⟨[], []⟩ tbl.listing = some res ↔
      ((∀ chain ∈ tbl.userChains, isSafeChainName chain = true) ∧
        ∀ rule ∈ tbl.rules, isSafeChainName rule.chain = true) ∧ res = tbl.audited := by
  rw [readTable_eq_some_iff nodup_nil, lineOk_listing_iff, tbl.declaredChains_listing,
    tbl.ruleTokens_listing, nil_append, nil_append]
  exact and_congr_right fun _ => and_iff_right tbl.userChains_nodup

/-- A clean audit of a table, in terms of the table. -/
structure AuditedClean (contract : RootPolicyContract) (family : Family) (identity : PolicyIdentity)
    (table : Table) : Prop where
  mark_ne_zero : identity.markValue ≠ 0
  mentions : ∀ line ∈ table.listing, contains line contract.chainName = true →
    line ∈ contract.allowedMangleLinesFor family identity
  safe_chains : ∀ chain ∈ table.userChains, isSafeChainName chain = true
  safe_rules : ∀ rule ∈ table.rules, isSafeChainName rule.chain = true
  clean : CleanChain table.audited (contract.allowedMangleLinesFor family identity)
    identity.markValue outputChain

theorem audit_listing_clean_iff (tbl) :
    auditMangleOutput tbl.listing (con.allowedMangleLinesFor fam ident)
        con.chainName ident.markValue = .clean ↔ AuditedClean con fam ident tbl := by
  have hmentions : ((tbl.listing.any fun line => contains line con.chainName &&
      line ∉ con.allowedMangleLinesFor fam ident) = false) ↔
      ∀ line ∈ tbl.listing, contains line con.chainName = true →
        line ∈ con.allowedMangleLinesFor fam ident := by
    simp
  unfold auditMangleOutput
  rw [normalizedLines_of_trimmed (trimmed_listing tbl)]
  split_ifs with hzero hany
  · exact iff_of_false (by simp) fun h => h.mark_ne_zero hzero
  · refine iff_of_false (by simp) fun h => ?_
    rw [hmentions.mpr h.mentions] at hany
    cases hany
  · rw [Bool.not_eq_true, hmentions] at hany
    cases hread : readTable ⟨[], []⟩ tbl.listing with
    | none =>
      refine iff_of_false (by simp) fun h => ?_
      rw [(readTable_listing_iff tbl tbl.audited).mpr ⟨⟨h.safe_chains, h.safe_rules⟩, rfl⟩]
        at hread
      cases hread
    | some res =>
      obtain ⟨⟨hchains, hrules⟩, rfl⟩ := (readTable_listing_iff tbl res).mp hread
      rw [visit_output_clean_iff]
      exact ⟨fun h => ⟨hzero, hany, hchains, hrules, h⟩, fun h => h.clean⟩

/-! ## The product's own rules keep an audit clean -/

theorem mem_rulesOf_audited {tbl : Table} {chain : Text} {toks : List Text} :
    toks ∈ tbl.audited.rulesOf chain ↔
      ∃ rule ∈ tbl.rules, rule.chain = chain ∧ rule.tokens = toks := by
  simp only [Table.audited, MangleTable.rulesOf, mem_filter, mem_map, beq_iff_eq]
  constructor
  · rintro ⟨⟨rule, hrule, rfl⟩, hchain⟩
    exact ⟨rule, hrule, Option.some.inj hchain, rfl⟩
  · rintro ⟨rule, hrule, rfl, rfl⟩
    exact ⟨⟨rule, hrule, rfl⟩, rfl⟩

theorem isSafeChainName_chainName : isSafeChainName con.chainName = true := by
  unfold chainName
  cases con.ns <;> decide

theorem chain_of_line_mem_ownedChainLines {rule : ChainRule}
    (h : rule.line ∈ con.ownedChainLinesFor fam ident) : rule.chain = con.chainName := by
  have hword : IsWord con.chainName := isWord_chainName con.ns
  have hstart := con.startsWith_ownedChainLinesFor h
  rw [Table.startsWith_line hword, beq_iff_eq] at hstart
  exact hstart

theorem line_ne_chainDefinition (rule : ChainRule) : rule.line ≠ con.chainDefinition := by
  intro heq
  have htok := rule.splitWhitespace_line
  rw [heq, con.splitWhitespace_chainDefinition] at htok
  cases htok

theorem allowed_rule_cases {rule} (h : rule.line ∈ con.allowedMangleLinesFor fam ident) :
    rule = jumpRule con ∨ rule = legacyRule con ∨ rule.line ∈ con.ownedChainLinesFor fam ident := by
  rcases mem_cons.mp h with heq | h
  · exact absurd heq (line_ne_chainDefinition rule)
  rcases mem_cons.mp h with heq | h
  · rw [← line_jumpRule] at heq
    exact .inl (ChainRule.line_injective heq)
  rcases mem_append.mp h with howned | hlegacy
  · exact .inr (.inr howned)
  · have heq := mem_singleton.mp hlegacy
    rw [← line_legacyRule] at heq
    exact .inr (.inl (ChainRule.line_injective heq))

theorem contains_chain_line (rule : ChainRule) : contains rule.line rule.chain = true := by
  have hmem : rule.chain ∈ splitWhitespace rule.line := by
    rw [rule.splitWhitespace_line]
    simp [ChainRule.tokens]
  exact contains_iff.mpr (of_mem_splitWhitespace hmem).2

/-- The table has the product chain, and what is new in it is the product's. -/
structure ProductAdded (contract : RootPolicyContract) (family : Family) (identity : PolicyIdentity)
    (start table : Table) : Prop where
  policy : table.dropPolicy = start.dropPolicy
  kept : start.userChains ⊆ table.userChains
  declared : contract.chainName ∈ table.userChains
  chains : ∀ chain ∈ table.userChains, chain ∈ start.userChains ∨ chain = contract.chainName
  rules : ∀ rule ∈ table.rules, rule ∈ start.rules ∨ rule = jumpRule contract ∨
    rule.line ∈ contract.ownedChainLinesFor family identity

namespace ProductAdded

variable {start tbl : Table}

/-- A line of the product chain passes the check, and its target is not a chain. -/
theorem checked_owned (hid : ident ∈ con.ns.candidates) {rule : ChainRule}
    (hline : rule.line ∈ con.ownedChainLinesFor fam ident) :
    RuleChecked tbl.audited (con.allowedMangleLinesFor fam ident) ident.markValue
      rule.tokens := by
  obtain ⟨other, hoth, -, tgt, htgt, hnamed⟩ := exists_chainRule hid hline
  rw [ChainRule.line_injective hoth] at hnamed
  have hallw : joinTokens rule.tokens ∈ con.allowedMangleLinesFor fam ident :=
    .tail _ (.tail _ (mem_append_left _ hline))
  have hnot : tgt ∉ tbl.userChains := fun hmem => (tbl.userChain_ne tgt hmem).2 htgt
  have hbuiltin : ∀ tgt ∈ targetNames, tgt ∉ builtinChains := by decide
  refine ⟨⟨if_pos hallw, by rw [hnamed]; rintro ⟨⟩, fun chain hchain => .inr ?_⟩,
    fun chain hchain hmem => ?_⟩
  · rw [hnamed] at hchain
    cases hchain
    refine eq_nil_iff_forall_not_mem.mpr fun toks htok => ?_
    obtain ⟨declared, hdecl, rfl, -⟩ := mem_rulesOf_audited.mp htok
    rcases tbl.rule_declared declared hdecl with hchain | hchain
    · exact hbuiltin _ htgt hchain
    · exact hnot hchain
  · rw [hnamed] at hchain
    cases hchain
    exact absurd hmem hnot

theorem owned_of_chain (h : ProductAdded con fam ident start tbl)
    (hclean : AuditedClean con fam ident start) {rule}
    (hrule : rule ∈ tbl.rules) (hchain : rule.chain = con.chainName) :
    rule.line ∈ con.ownedChainLinesFor fam ident := by
  have hoff : "OUTPUT".toList ≠ con.chainName := output_ne_chainName
  rcases h.rules rule hrule with hold | rfl | howned
  · have hment := contains_chain_line rule
    rw [hchain] at hment
    rcases allowed_rule_cases (hclean.mentions _ (start.line_mem_listing_iff.mpr hold) hment)
      with rfl | rfl | howned
    · exact absurd hchain hoff
    · exact absurd hchain hoff
    · exact howned
  · exact absurd hchain hoff
  · exact howned

theorem cleanChain_product (hid : ident ∈ con.ns.candidates)
    (h : ProductAdded con fam ident start tbl)
    (hclean : AuditedClean con fam ident start) :
    CleanChain tbl.audited (con.allowedMangleLinesFor fam ident) ident.markValue
      con.chainName := by
  refine cleanChain_of_checked fun toks htok => ?_
  obtain ⟨rule, hrule, hchain, rfl⟩ := mem_rulesOf_audited.mp htok
  exact checked_owned hid (h.owned_of_chain hclean hrule hchain)

/-- A rule of the start passes the check still, given that the chains it calls do. -/
theorem checked_old (h : ProductAdded con fam ident start tbl)
    (hprod : CleanChain tbl.audited (con.allowedMangleLinesFor fam ident)
      ident.markValue con.chainName) {rule} (hrule : rule ∈ start.rules)
    (hclean : RuleClean start.audited (con.allowedMangleLinesFor fam ident)
      ident.markValue rule.tokens)
    (hcalls : ∀ tgt, chainTarget rule.tokens = .named tgt → tgt ∈ start.userChains →
      CleanChain tbl.audited (con.allowedMangleLinesFor fam ident) ident.markValue tgt) :
    RuleChecked tbl.audited (con.allowedMangleLinesFor fam ident) ident.markValue
      rule.tokens := by
  refine ⟨⟨hclean.semantics, hclean.target, fun tgt htgt => ?_⟩, fun tgt htgt hmem => ?_⟩
  · by_cases hname : tgt = con.chainName
    · rw [hname]
      exact .inl h.declared
    · refine (hclean.declared tgt htgt).imp (fun hmem => h.kept hmem) fun hnone => ?_
      refine eq_nil_iff_forall_not_mem.mpr fun toks htok => ?_
      obtain ⟨other, hoth, rfl, -⟩ := mem_rulesOf_audited.mp htok
      rcases h.rules other hoth with hold | rfl | howned
      · exact not_mem_nil (hnone ▸ mem_rulesOf_audited.mpr ⟨other, hold, rfl, rfl⟩)
      · have hbuiltin : "OUTPUT".toList ∈ builtinChains := by decide
        exact start.target_ne rule hrule _ htgt hbuiltin
      · exact hname (chain_of_line_mem_ownedChainLines howned)
  · rcases h.chains tgt hmem with hold | rfl
    · exact hcalls tgt htgt hold
    · exact hprod

/-- A clean chain is clean still; by induction on the chains below it. -/
theorem cleanChain (hid : ident ∈ con.ns.candidates) (h : ProductAdded con fam ident start tbl)
    (hprod : CleanChain tbl.audited (con.allowedMangleLinesFor fam ident)
      ident.markValue con.chainName) {chain : Text}
    (hchain : CleanChain start.audited (con.allowedMangleLinesFor fam ident)
      ident.markValue chain) :
    CleanChain tbl.audited (con.allowedMangleLinesFor fam ident) ident.markValue
      chain := by
  induction hchain with
  | @intro chain rules calls ih =>
    refine cleanChain_of_checked fun toks htok => ?_
    obtain ⟨rule, hrule, rfl, rfl⟩ := mem_rulesOf_audited.mp htok
    rcases h.rules rule hrule with hold | rfl | howned
    · have hmem := mem_rulesOf_audited.mpr ⟨rule, hold, rfl, rfl⟩
      exact h.checked_old hprod hold (rules _ hmem)
        fun tgt htgt hdecl => ih tgt ⟨_, hmem, htgt, hdecl⟩
    · have hallw : joinTokens (jumpRule con).tokens ∈ con.allowedMangleLinesFor fam ident := by
        refine .tail _ (mem_cons.mpr (.inl ?_))
        exact line_jumpRule con
      refine ⟨⟨if_pos hallw, ?_, fun tgt htgt => .inl ?_⟩, fun tgt htgt _ => ?_⟩
      · rw [chainTarget_jumpRule]
        simp
      · rw [chainTarget_jumpRule] at htgt
        cases htgt
        exact h.declared
      · rw [chainTarget_jumpRule] at htgt
        cases htgt
        exact hprod
    · exact checked_owned hid howned

theorem auditedClean (hid : ident ∈ con.ns.candidates) (h : ProductAdded con fam ident start tbl)
    (hclean : AuditedClean con fam ident start) : AuditedClean con fam ident tbl := by
  refine ⟨hclean.mark_ne_zero, fun line hline hment => ?_, fun chain hchain => ?_,
    fun rule hrule => ?_, h.cleanChain hid (h.cleanChain_product hid hclean) hclean.clean⟩
  · rcases tbl.mem_listing_iff.mp hline with ⟨chain, hchain, rfl⟩ | ⟨chain, hchain, rfl⟩ |
      ⟨rule, hrule, rfl⟩
    · refine hclean.mentions _ (start.mem_listing_iff.mpr (.inl ⟨chain, hchain, ?_⟩)) hment
      rw [Table.policyLine, Table.policyLine, h.policy]
    · rcases h.chains chain hchain with hold | rfl
      · exact hclean.mentions _ (start.mem_listing_iff.mpr (.inr (.inl ⟨chain, hold, rfl⟩))) hment
      · exact .head _
    · rcases h.rules rule hrule with hold | rfl | howned
      · exact hclean.mentions _ (start.line_mem_listing_iff.mpr hold) hment
      · exact .tail _ (mem_cons.mpr (.inl (line_jumpRule con)))
      · exact .tail _ (.tail _ (mem_append_left _ howned))
  · rcases h.chains chain hchain with hold | rfl
    · exact hclean.safe_chains chain hold
    · exact isSafeChainName_chainName
  · rcases h.rules rule hrule with hold | rfl | howned
    · exact hclean.safe_rules rule hold
    · show isSafeChainName "OUTPUT".toList = true
      decide
    · rw [chain_of_line_mem_ownedChainLines howned]
      exact isSafeChainName_chainName

end ProductAdded

end

end MishProxy.Netfilter
