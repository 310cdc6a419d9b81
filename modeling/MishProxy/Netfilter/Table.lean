import MishProxy.Cellular.Listing

/-!
# The mangle table of the kernel

The table holds the policies of the built-in chains, the user-defined chains and the
rules. What the tool refuses cannot be built: a rule in a chain that does not exist, a
user chain with the name of a built-in chain or of a target, a jump to a built-in chain.

`Table.listing` is what the tool prints. Rules of different chains are printed in the
order of their creation; no reader of a listing compares rules of different chains.

* `ruleTokens_listing`, `declaredChains_listing`: the audit reads the table back from its
  listing.
* `removeRule_of_mem`: one removal, for the loops that remove every copy of a rule.
* `chainLines_listing`, `count_line_listing`: the lines the contract selects and counts
  are those of the rules.
-/

namespace MishProxy.Netfilter

open Text Cellular List

structure ChainRule where
  chain : Text
  body : List Text
  isWord_chain : IsWord chain
  isWord_body : ∀ token ∈ body, IsWord token
  body_ne_nil : body ≠ []
  deriving DecidableEq

namespace ChainRule

variable (rule : ChainRule)

def tokens : List Text := "-A".toList :: rule.chain :: rule.body

def line : Text := joinTokens rule.tokens

theorem isWord_of_mem_tokens {token : Text} (h : token ∈ rule.tokens) : IsWord token := by
  rcases mem_cons.mp h with rfl | h
  · decide
  rcases mem_cons.mp h with rfl | h
  · exact rule.isWord_chain
  · exact rule.isWord_body token h

theorem splitWhitespace_line : splitWhitespace rule.line = rule.tokens :=
  splitWhitespace_joinTokens fun _ => rule.isWord_of_mem_tokens

theorem tokens_injective {a b : ChainRule} (h : a.tokens = b.tokens) : a = b := by
  cases a
  cases b
  obtain ⟨rfl, rfl⟩ := h
  rfl

theorem line_injective {a b : ChainRule} (h : a.line = b.line) : a = b := by
  apply tokens_injective
  rw [← a.splitWhitespace_line, ← b.splitWhitespace_line, h]

theorem line_eq : rule.line = "-A ".toList ++ rule.chain ++ ' ' :: joinTokens rule.body := by
  obtain ⟨token, rest, hbody⟩ := exists_cons_of_ne_nil rule.body_ne_nil
  unfold line tokens
  rw [hbody]
  simp [joinTokens]

/-- The rule a specification without its `-A` names. -/
def ofTokens : List Text → Option ChainRule
  | chain :: token :: rest =>
      if h : ∀ word ∈ chain :: token :: rest, IsWord word then
        some ⟨chain, token :: rest, h chain List.mem_cons_self,
          fun word hword => h word (List.mem_cons_of_mem _ hword), by simp⟩
      else none
  | _ => none

theorem ofTokens_eq (rule) : ofTokens (rule.chain :: rule.body) = some rule := by
  obtain ⟨chain, body, hchain, hbody, hne⟩ := rule
  cases body with
  | nil => exact absurd rfl hne
  | cons token rest =>
    have hwords : ∀ word ∈ chain :: token :: rest, IsWord word :=
      forall_mem_cons.mpr ⟨hchain, hbody⟩
    simp only [ofTokens, dif_pos hwords]

end ChainRule

/-! ## The table -/

def builtinChains : List Text :=
  ["PREROUTING".toList, "INPUT".toList, "FORWARD".toList, "OUTPUT".toList, "POSTROUTING".toList]

/-- Names a user chain cannot have. -/
def targetNames : List Text :=
  ["ACCEPT".toList, "DROP".toList, "QUEUE".toList, "RETURN".toList, "MARK".toList,
    "CONNMARK".toList]

@[ext]
structure Table where
  dropPolicy : List Text
  userChains : List Text
  rules : List ChainRule
  isWord_userChain : ∀ chain ∈ userChains, IsWord chain
  userChain_ne : ∀ chain ∈ userChains, chain ∉ builtinChains ∧ chain ∉ targetNames
  userChains_nodup : userChains.Nodup
  rule_declared : ∀ rule ∈ rules, rule.chain ∈ builtinChains ∨ rule.chain ∈ userChains
  target_ne : ∀ rule ∈ rules, ∀ target, chainTarget rule.tokens = .named target →
    target ∉ builtinChains

open ChainRule

namespace Table

/-- The table without a user chain or a rule. -/
def empty : Table :=
  ⟨[], [], [], by simp, by simp, by simp, by simp, by simp⟩

variable (table : Table)

def policyLine (chain : Text) : Text :=
  joinTokens ["-P".toList, chain,
    if chain ∈ table.dropPolicy then "DROP".toList else "ACCEPT".toList]

def definitionLine (chain : Text) : Text := joinTokens ["-N".toList, chain]

def listing : List Text :=
  builtinChains.map table.policyLine ++ table.userChains.map definitionLine ++
    table.rules.map ChainRule.line

/-! ## Operations -/

def createChain (chain : Text) : Option Table :=
  if h : IsWord chain ∧ (chain ∉ builtinChains ∧ chain ∉ targetNames) ∧
      chain ∉ table.userChains then
    some
      { table with
        userChains := table.userChains ++ [chain]
        isWord_userChain := by
          intro other hother
          rcases List.mem_append.mp hother with hother | hother
          · exact table.isWord_userChain other hother
          · rw [List.mem_singleton.mp hother]
            exact h.1
        userChain_ne := by
          intro other hother
          rcases List.mem_append.mp hother with hother | hother
          · exact table.userChain_ne other hother
          · rw [List.mem_singleton.mp hother]
            exact h.2.1
        userChains_nodup := by
          rw [List.nodup_append]
          refine ⟨table.userChains_nodup, by simp, ?_⟩
          rintro a ha b hb rfl
          exact h.2.2 (List.mem_singleton.mp hb ▸ ha)
        rule_declared := by
          intro rule hrule
          exact (table.rule_declared rule hrule).imp_right (List.mem_append_left _) }
  else none

/-- The rules that pass the filter; a table with fewer rules is a table. -/
def filterRules (keep : ChainRule → Bool) : Table :=
  { table with
    rules := table.rules.filter keep
    rule_declared := fun rule hrule => table.rule_declared rule (List.mem_of_mem_filter hrule)
    target_ne := fun rule hrule => table.target_ne rule (List.mem_of_mem_filter hrule) }

def flushChain (chain : Text) : Option Table :=
  if chain ∈ builtinChains ∨ chain ∈ table.userChains then
    some (table.filterRules fun rule => rule.chain != chain)
  else none

/-- A chain goes when it has no rule and no rule names it. -/
def deleteChain (chain : Text) : Option Table :=
  if h : chain ∈ table.userChains ∧ (∀ rule ∈ table.rules, rule.chain ≠ chain) ∧
      ∀ rule ∈ table.rules, chainTarget rule.tokens ≠ .named chain then
    some
      { table with
        userChains := table.userChains.erase chain
        isWord_userChain := fun other hother =>
          table.isWord_userChain other (List.mem_of_mem_erase hother)
        userChain_ne := fun other hother => table.userChain_ne other (List.mem_of_mem_erase hother)
        userChains_nodup := table.userChains_nodup.erase chain
        rule_declared := by
          intro rule hrule
          refine (table.rule_declared rule hrule).imp_right fun hmem => ?_
          exact (List.mem_erase_of_ne (h.2.1 rule hrule)).mpr hmem }
  else none

def knowsTarget : ChainTarget → Bool
  | .named target =>
      target ∉ builtinChains && (table.userChains.contains target || targetNames.contains target)
  | _ => true

def appendRule (rule : ChainRule) : Option Table :=
  if h : (rule.chain ∈ builtinChains ∨ rule.chain ∈ table.userChains) ∧
      table.knowsTarget (chainTarget rule.tokens) = true then
    some
      { table with
        rules := table.rules ++ [rule]
        rule_declared := by
          intro other hother
          rcases List.mem_append.mp hother with hother | hother
          · exact table.rule_declared other hother
          · rw [List.mem_singleton.mp hother]
            exact h.1
        target_ne := by
          intro other hother target htarget
          rcases List.mem_append.mp hother with hother | hother
          · exact table.target_ne other hother target htarget
          · rw [List.mem_singleton.mp hother] at htarget
            have hknown := h.2
            rw [htarget, knowsTarget, Bool.and_eq_true, decide_eq_true_eq] at hknown
            exact hknown.1 }
  else none

/-- The first rule equal to the given one goes. -/
def removeRule (rule : ChainRule) : Option Table :=
  if rule ∈ table.rules then
    some
      { table with
        rules := table.rules.erase rule
        rule_declared := fun other hother =>
          table.rule_declared other (List.mem_of_mem_erase hother)
        target_ne := fun other hother => table.target_ne other (List.mem_of_mem_erase hother) }
  else none

variable {chain : Text}

theorem exists_createChain (hword : IsWord chain)
    (hname : chain ∉ builtinChains ∧ chain ∉ targetNames) (hnew : chain ∉ table.userChains) :
    ∃ after, table.createChain chain = some after ∧ after.dropPolicy = table.dropPolicy ∧
      after.userChains = table.userChains ++ [chain] ∧ after.rules = table.rules := by
  rw [createChain, dif_pos ⟨hword, hname, hnew⟩]
  exact ⟨_, rfl, rfl, rfl, rfl⟩

theorem exists_appendRule {rule}
    (hchain : rule.chain ∈ builtinChains ∨ rule.chain ∈ table.userChains)
    (htgt : table.knowsTarget (chainTarget rule.tokens) = true) :
    ∃ after, table.appendRule rule = some after ∧ after.dropPolicy = table.dropPolicy ∧
      after.userChains = table.userChains ∧ after.rules = table.rules ++ [rule] := by
  rw [appendRule, dif_pos ⟨hchain, htgt⟩]
  exact ⟨_, rfl, rfl, rfl, rfl⟩

theorem exists_deleteChain (hdecl : chain ∈ table.userChains)
    (hempty : ∀ rule ∈ table.rules, rule.chain ≠ chain)
    (hfree : ∀ rule ∈ table.rules, chainTarget rule.tokens ≠ .named chain) :
    ∃ after, table.deleteChain chain = some after ∧ after.dropPolicy = table.dropPolicy ∧
      after.userChains = table.userChains.erase chain ∧ after.rules = table.rules := by
  rw [deleteChain, dif_pos ⟨hdecl, hempty, hfree⟩]
  exact ⟨_, rfl, rfl, rfl, rfl⟩

/-! ## Removing every copy of a rule -/

variable {table} {rule : ChainRule}

theorem filterRules_of_not_mem (h : rule ∉ table.rules) :
    table.filterRules (fun other => other != rule) = table := by
  refine Table.ext rfl rfl ?_
  refine filter_eq_self.mpr fun other hoth => ?_
  rw [bne_iff_ne]
  rintro rfl
  exact h hoth

theorem removeRule_of_mem (h : rule ∈ table.rules) : ∃ after, table.removeRule rule = some after ∧
      after.filterRules (fun other => other != rule) =
        table.filterRules (fun other => other != rule) ∧
      after.rules.count rule + 1 = table.rules.count rule := by
  have hpos : 0 < table.rules.count rule := count_pos_iff.mpr h
  rw [removeRule, if_pos h]
  refine ⟨_, rfl, Table.ext rfl rfl ?_, ?_⟩
  · obtain ⟨before, after, hbef, hrules, herase⟩ := exists_erase_eq h
    show (table.rules.erase rule).filter _ = table.rules.filter _
    rw [herase, hrules, filter_append, filter_append, filter_cons, if_neg (by simp)]
  · show (table.rules.erase rule).count rule + 1 = _
    rw [count_erase_self]
    omega

/-! ## The listing -/

variable (table)

theorem isWord_of_mem_builtinChains (h : chain ∈ builtinChains) : IsWord chain := by
  revert chain
  decide

theorem isWord_policy (chain : Text) :
    IsWord (if chain ∈ table.dropPolicy then "DROP".toList else "ACCEPT".toList) := by
  split <;> decide

theorem splitWhitespace_policyLine (h : chain ∈ builtinChains) :
    splitWhitespace (table.policyLine chain) = ["-P".toList, chain,
      if chain ∈ table.dropPolicy then "DROP".toList else "ACCEPT".toList] := by
  refine splitWhitespace_joinTokens ?_
  simp only [forall_mem_cons]
  exact ⟨by decide, isWord_of_mem_builtinChains h, table.isWord_policy chain, by simp⟩

theorem splitWhitespace_definitionLine (h : IsWord chain) :
    splitWhitespace (definitionLine chain) = ["-N".toList, chain] := by
  refine splitWhitespace_joinTokens ?_
  simp only [forall_mem_cons]
  exact ⟨by decide, h, by simp⟩

theorem map_splitWhitespace_listing : table.listing.map splitWhitespace =
      builtinChains.map (fun chain => ["-P".toList, chain,
        if chain ∈ table.dropPolicy then "DROP".toList else "ACCEPT".toList]) ++
      table.userChains.map (fun chain => ["-N".toList, chain]) ++
      table.rules.map tokens := by
  unfold listing
  rw [map_append, map_append, map_map, map_map, map_map]
  congr 1
  · congr 1
    · exact map_congr_left fun chain h => table.splitWhitespace_policyLine h
    · exact map_congr_left fun chain h =>
        splitWhitespace_definitionLine (table.isWord_userChain chain h)
  · exact map_congr_left fun rule _ => rule.splitWhitespace_line

theorem ruleTokens_listing : ruleTokens table.listing = table.rules.map tokens := by
  unfold ruleTokens
  rw [map_splitWhitespace_listing, filter_append, filter_append]
  have hpolicies : (builtinChains.map fun chain => ["-P".toList, chain,
      if chain ∈ table.dropPolicy then "DROP".toList else "ACCEPT".toList]).filter isRuleTokens =
      [] := by
    rw [filter_eq_nil_iff]
    intro toks htok
    obtain ⟨chain, -, rfl⟩ := mem_map.mp htok
    simp [isRuleTokens]
  have hdefs : (table.userChains.map fun chain => ["-N".toList, chain]).filter
      isRuleTokens = [] := by
    rw [filter_eq_nil_iff]
    intro toks htok
    obtain ⟨chain, -, rfl⟩ := mem_map.mp htok
    simp [isRuleTokens]
  have hrules : (table.rules.map tokens).filter isRuleTokens = table.rules.map tokens := by
    rw [filter_eq_self]
    intro toks htok
    obtain ⟨rule, -, rfl⟩ := mem_map.mp htok
    rfl
  rw [hpolicies, hdefs, hrules]
  rfl

theorem declaredChains_listing : declaredChains table.listing = table.userChains := by
  unfold declaredChains
  rw [map_splitWhitespace_listing, filterMap_append, filterMap_append]
  have hpolicies : (builtinChains.map fun chain => ["-P".toList, chain,
      if chain ∈ table.dropPolicy then "DROP".toList else "ACCEPT".toList]).filterMap
      declaredChain = [] := by
    rw [filterMap_eq_nil_iff]
    intro toks htok
    obtain ⟨chain, -, rfl⟩ := mem_map.mp htok
    simp [declaredChain]
  have hdefs : (table.userChains.map fun chain => ["-N".toList, chain]).filterMap
      declaredChain = table.userChains := by
    rw [filterMap_map]
    have hsome : (declaredChain ∘ fun chain => ["-N".toList, chain]) = some := by
      funext chain
      simp [declaredChain]
    rw [hsome, filterMap_some]
  have hrules : (table.rules.map tokens).filterMap declaredChain = [] := by
    rw [filterMap_eq_nil_iff]
    intro toks htok
    obtain ⟨rule, -, rfl⟩ := mem_map.mp htok
    simp [declaredChain, tokens]
  rw [hpolicies, hdefs, hrules]
  simp

theorem isRow_of_mem_listing {line : Text} (h : line ∈ table.listing) : IsRow line := by
  unfold listing at h
  rcases mem_append.mp h with h | h
  · rcases mem_append.mp h with h | h
    · obtain ⟨chain, hchain, rfl⟩ := mem_map.mp h
      refine isRow_joinTokens (by simp) ?_
      simp only [forall_mem_cons]
      exact ⟨by decide, isWord_of_mem_builtinChains hchain, table.isWord_policy chain, by simp⟩
    · obtain ⟨chain, hchain, rfl⟩ := mem_map.mp h
      refine isRow_joinTokens (by simp) ?_
      simp only [forall_mem_cons]
      exact ⟨by decide, table.isWord_userChain chain hchain, by simp⟩
  · obtain ⟨rule, -, rfl⟩ := mem_map.mp h
    exact isRow_joinTokens (by simp [tokens]) fun _ => rule.isWord_of_mem_tokens

theorem mem_listing_of_tokens {line toks} (h : line ∈ table.listing)
    (htok : splitWhitespace line = toks) :
    (∃ chain ∈ builtinChains, line = table.policyLine chain ∧ toks.head? = some "-P".toList) ∨
      (∃ chain ∈ table.userChains, line = definitionLine chain ∧ toks = ["-N".toList, chain]) ∨
      ∃ rule ∈ table.rules, line = rule.line ∧ toks = rule.tokens := by
  unfold listing at h
  rcases mem_append.mp h with h | h
  · rcases mem_append.mp h with h | h
    · obtain ⟨chain, hchain, rfl⟩ := mem_map.mp h
      refine .inl ⟨chain, hchain, rfl, ?_⟩
      rw [← htok, table.splitWhitespace_policyLine hchain]
      rfl
    · obtain ⟨chain, hchain, rfl⟩ := mem_map.mp h
      refine .inr (.inl ⟨chain, hchain, rfl, ?_⟩)
      rw [← htok, splitWhitespace_definitionLine (table.isWord_userChain chain hchain)]
  · obtain ⟨rule, hrule, rfl⟩ := mem_map.mp h
    exact .inr (.inr ⟨rule, hrule, rfl, htok ▸ rule.splitWhitespace_line⟩)

theorem filter_map_eq_nil {α : Type} {f : α → Text} {l : List α} {p} {word : Text}
    (hp : ∀ line, p line = true → (splitWhitespace line).head? = some word)
    (hne : ∀ x ∈ l, (splitWhitespace (f x)).head? ≠ some word) : (l.map f).filter p = [] := by
  rw [filter_eq_nil_iff]
  rintro line hline hpline
  obtain ⟨x, hx, rfl⟩ := mem_map.mp hline
  exact hne x hx (hp _ hpline)

theorem filter_listing_rules {p}
    (hp : ∀ line, p line = true → (splitWhitespace line).head? = some "-A".toList) :
    table.listing.filter p = (table.rules.filter fun rule => p rule.line).map line := by
  have hpolicies : (builtinChains.map table.policyLine).filter p = [] := by
    refine filter_map_eq_nil hp fun chain hchain => ?_
    simp [table.splitWhitespace_policyLine hchain]
  have hdefs : (table.userChains.map definitionLine).filter p = [] := by
    refine filter_map_eq_nil hp fun chain hchain => ?_
    simp [splitWhitespace_definitionLine (table.isWord_userChain chain hchain)]
  unfold listing
  rw [filter_append, filter_append, hpolicies, hdefs, filter_map]
  rfl

theorem filter_listing_definitions {p}
    (hp : ∀ line, p line = true → (splitWhitespace line).head? = some "-N".toList) :
    table.listing.filter p =
      (table.userChains.filter fun chain => p (definitionLine chain)).map definitionLine := by
  have hpolicies : (builtinChains.map table.policyLine).filter p = [] := by
    refine filter_map_eq_nil hp fun chain hchain => ?_
    simp [table.splitWhitespace_policyLine hchain]
  have hrules : (table.rules.map line).filter p = [] := by
    refine filter_map_eq_nil hp fun rule _ => ?_
    simp [rule.splitWhitespace_line, tokens]
  unfold listing
  rw [filter_append, filter_append, hpolicies, hrules, filter_map]
  simp [Function.comp_def]

theorem count_line_listing (rule) :
    (table.listing.filter fun line => line == rule.line).length = table.rules.count rule := by
  rw [table.filter_listing_rules, length_map, count_eq_length_filter]
  · congr 1
    apply filter_congr
    intro other _
    by_cases h : other = rule
    · rw [h, beq_self_eq_true, beq_self_eq_true]
    · have hline : other.line ≠ rule.line := fun heq => h (line_injective heq)
      rw [beq_eq_false_iff_ne.mpr h, beq_eq_false_iff_ne.mpr hline]
  · intro line hline
    rw [beq_iff_eq.mp hline, rule.splitWhitespace_line]
    rfl

theorem count_definition_listing (h : IsWord chain) :
    (table.listing.filter fun line => line == definitionLine chain).length =
      if chain ∈ table.userChains then 1 else 0 := by
  rw [table.filter_listing_definitions, length_map, ← table.userChains_nodup.count,
    count_eq_length_filter]
  · rfl
  · intro line hline
    rw [beq_iff_eq.mp hline, splitWhitespace_definitionLine h]
    rfl

theorem line_mem_listing_iff {rule} : rule.line ∈ table.listing ↔ rule ∈ table.rules := by
  rw [← count_pos_iff (l := table.rules), ← table.count_line_listing, length_pos_iff,
    ne_eq, filter_eq_nil_iff]
  simp

theorem definitionLine_mem_listing_iff (h : IsWord chain) :
    definitionLine chain ∈ table.listing ↔ chain ∈ table.userChains := by
  have hcount := table.count_definition_listing h
  rw [← count_pos_iff (l := table.listing), count_eq_length_filter, hcount]
  split <;> simp_all

theorem mem_listing_iff {line : Text} :
    line ∈ table.listing ↔ (∃ chain ∈ builtinChains, line = table.policyLine chain) ∨
      (∃ chain ∈ table.userChains, line = definitionLine chain) ∨
      ∃ rule ∈ table.rules, line = rule.line := by
  simp only [listing, mem_append, mem_map, or_assoc, eq_comm (a := line)]

variable {table} in
theorem listing_subset {other : Table} (hpol : other.dropPolicy = table.dropPolicy)
    (hchains : other.userChains ⊆ table.userChains) (hrules : other.rules ⊆ table.rules) :
    other.listing ⊆ table.listing := by
  intro line hline
  rw [mem_listing_iff] at hline ⊢
  rcases hline with ⟨chain, hchain, rfl⟩ | ⟨chain, hchain, rfl⟩ | ⟨rule, hrule, rfl⟩
  · refine .inl ⟨chain, hchain, ?_⟩
    rw [policyLine, policyLine, hpol]
  · exact .inr (.inl ⟨chain, hchains hchain, rfl⟩)
  · exact .inr (.inr ⟨rule, hrules hrule, rfl⟩)

theorem listing_filterRules_subset (keep : ChainRule → Bool) :
    (table.filterRules keep).listing ⊆ table.listing :=
  listing_subset rfl (Subset.refl _) fun _ hrule => mem_of_mem_filter hrule

theorem word_blank_prefix_iff {a b : Text} (ha : ∀ c ∈ a, isWhitespace c = false)
    (hb : ∀ c ∈ b, isWhitespace c = false) (rest : Text) :
    a ++ [' '] <+: b ++ ' ' :: rest ↔ b = a := by
  have hblank : isWhitespace ' ' = true := by decide
  induction a generalizing b with
  | nil =>
    cases b with
    | nil => simp
    | cons c b =>
      simp only [nil_append, cons_append, cons_prefix_cons, reduceCtorEq, iff_false, not_and]
      rintro rfl
      rw [hb ' ' (.head _)] at hblank
      cases hblank
  | cons c a ih =>
    cases b with
    | nil =>
      simp only [nil_append, cons_append, cons_prefix_cons, reduceCtorEq, iff_false, not_and]
      rintro rfl
      rw [ha ' ' (.head _)] at hblank
      cases hblank
    | cons d b =>
      simp only [cons_append, cons_prefix_cons, cons.injEq]
      have hrest := ih (fun x hx => ha x (.tail _ hx))
        (fun x hx => hb x (.tail _ hx))
      exact ⟨fun h => ⟨h.1.symm, hrest.mp h.2⟩, fun h => ⟨h.1.symm, hrest.mpr h.2⟩⟩

theorem startsWith_line {rule : ChainRule} (h : IsWord chain) :
    startsWith rule.line ("-A ".toList ++ chain ++ [' ']) = (rule.chain == chain) := by
  rw [Bool.eq_iff_iff, startsWith_iff, beq_iff_eq, rule.line_eq, append_assoc,
    append_assoc, prefix_append_right_inj]
  exact word_blank_prefix_iff h.2 rule.isWord_chain.2 _

theorem chainLines_listing (h : IsWord chain) : RootPolicyContract.chainLines table.listing chain =
      (table.rules.filter fun rule => rule.chain == chain).map line := by
  unfold RootPolicyContract.chainLines
  rw [table.filter_listing_rules]
  · congr 1
    exact filter_congr fun rule _ => startsWith_line h
  · intro line hline
    obtain ⟨rest, rfl⟩ := startsWith_iff.mp hline
    have hsplit : "-A ".toList ++ chain ++ [' '] ++ rest =
        "-A".toList ++ ' ' :: (chain ++ [' '] ++ rest) := by simp
    rw [hsplit, splitWhitespace_append (by decide), splitWhitespace_word (by decide)]
    rfl

end Table

end MishProxy.Netfilter
