import MishProxy.Cellular.AuditWalk
import MishProxy.Cellular.Contract

/-!
# Mangle listings and the product's lines in them

`readTable` succeeds exactly on listings whose declarations and rules are well formed and that
declare no chain twice (`readTable_eq_some_iff`).

In a clean listing every line that mentions the product chain is one of the allowed lines
(`allowed_of_contains`). Hence the rules the table has for that chain are the chain lines the
contract compares (`rulesOf_chainName`).
-/

namespace MishProxy.Cellular

open Text List

/-! ## Reading a table -/

def isRuleTokens (tokens : List Text) : Bool := tokens.head? == some "-A".toList

def declaredChain (tokens : List Text) : Option Text :=
  if tokens.head? = some "-N".toList then tokens[1]? else none

def ruleTokens (lines : List Text) : List (List Text) :=
  (lines.map splitWhitespace).filter isRuleTokens

def declaredChains (lines : List Text) : List Text :=
  (lines.map splitWhitespace).filterMap declaredChain

theorem ruleTokens_cons (line rest) : ruleTokens (line :: rest) =
      if isRuleTokens (splitWhitespace line) then splitWhitespace line :: ruleTokens rest
      else ruleTokens rest := by
  rw [ruleTokens, map_cons, filter_cons]
  rfl

theorem declaredChains_cons (line rest) : declaredChains (line :: rest) =
      (declaredChain (splitWhitespace line)).toList ++ declaredChains rest := by
  rw [declaredChains, map_cons, filterMap_cons]
  cases declaredChain (splitWhitespace line) <;> rfl

/-- The line is a well formed declaration, a well formed rule, or neither of both. -/
structure LineOk (line : Text) : Prop where
  declares : (splitWhitespace line).head? = some "-N".toList →
    ∃ chain, splitWhitespace line = ["-N".toList, chain] ∧ isSafeChainName chain = true
  rule : (splitWhitespace line).head? = some "-A".toList →
    ∃ chain option rest, splitWhitespace line = "-A".toList :: chain :: option :: rest ∧
      isSafeChainName chain = true

variable {tbl : MangleTable} {rest : List Text} {line : Text}

theorem readTable_cons_other (hN : (splitWhitespace line).head? ≠ some "-N".toList)
    (hA : (splitWhitespace line).head? ≠ some "-A".toList) :
    readTable tbl (line :: rest) = readTable tbl rest := by
  conv_lhs => unfold readTable
  cases htok : splitWhitespace line with
  | nil => rfl
  | cons first more =>
    rw [htok, head?_cons, ne_eq, Option.some.injEq] at hN hA
    simp only [hN, hA, if_false]

theorem readTable_cons_declaration {chain : Text}
    (htok : splitWhitespace line = ["-N".toList, chain]) :
    readTable tbl (line :: rest) = if isSafeChainName chain = true ∧ chain ∉ tbl.userChains then
        readTable { tbl with userChains := tbl.userChains ++ [chain] } rest
      else none := by
  conv_lhs => unfold readTable
  simp only [htok, if_true]

theorem readTable_cons_rule {chain option more}
    (htok : splitWhitespace line = "-A".toList :: chain :: option :: more) :
    readTable tbl (line :: rest) = if isSafeChainName chain = true then
        readTable { tbl with rules := tbl.rules ++ [splitWhitespace line] } rest
      else none := by
  conv_lhs => unfold readTable
  have hne : ¬ "-A".toList = "-N".toList := by decide
  simp only [htok, hne, if_false, if_true]

theorem lineOk_of_readTable {res} (h : readTable tbl (line :: rest) = some res) : LineOk line := by
  constructor
  · intro hhead
    unfold readTable at h
    cases htok : splitWhitespace line with
    | nil => rw [htok] at hhead; cases hhead
    | cons first more =>
      rw [htok, head?_cons, Option.some.injEq] at hhead
      subst hhead
      simp only [htok, if_true] at h
      rcases more with _ | ⟨chain, _ | ⟨option, tail⟩⟩
      · cases h
      · simp only at h
        split_ifs at h with hsafe
        exact ⟨chain, rfl, hsafe.1⟩
      · cases h
  · intro hhead
    unfold readTable at h
    have hne : ¬ "-A".toList = "-N".toList := by decide
    cases htok : splitWhitespace line with
    | nil => rw [htok] at hhead; cases hhead
    | cons first more =>
      rw [htok, head?_cons, Option.some.injEq] at hhead
      subst hhead
      simp only [htok, hne, if_false, if_true] at h
      rcases more with _ | ⟨chain, _ | ⟨option, tail⟩⟩
      · cases h
      · cases h
      · simp only at h
        split_ifs at h with hsafe
        exact ⟨chain, option, tail, rfl, hsafe⟩

variable {lines : List Text}

theorem readTable_eq_some_iff {res} (hnodup : tbl.userChains.Nodup) :
    readTable tbl lines = some res ↔
      (∀ line ∈ lines, LineOk line) ∧ (tbl.userChains ++ declaredChains lines).Nodup ∧
        res = ⟨tbl.userChains ++ declaredChains lines, tbl.rules ++ ruleTokens lines⟩ := by
  induction lines generalizing tbl with
  | nil =>
    have heq : readTable tbl [] = some res ↔ res = tbl := by
      simp only [readTable, Option.some.injEq, eq_comm]
    simp [heq, declaredChains, ruleTokens, hnodup]
  | cons line rest ih =>
    rw [forall_mem_cons]
    by_cases hok : LineOk line
    swap
    · exact ⟨fun h => absurd (lineOk_of_readTable h) hok, fun h => absurd h.1.1 hok⟩
    by_cases hN : (splitWhitespace line).head? = some "-N".toList
    · obtain ⟨chain, htok, hsafe⟩ := hok.declares hN
      have hdecl : declaredChains (line :: rest) = chain :: declaredChains rest := by
        simp [declaredChains_cons, htok, declaredChain]
      have hrules : ruleTokens (line :: rest) = ruleTokens rest := by
        simp [ruleTokens_cons, htok, isRuleTokens]
      rw [readTable_cons_declaration htok, hdecl, hrules]
      have hassoc : tbl.userChains ++ chain :: declaredChains rest =
          (tbl.userChains ++ [chain]) ++ declaredChains rest := by simp
      by_cases hfresh : chain ∈ tbl.userChains
      · have hdup : ¬ (tbl.userChains ++ chain :: declaredChains rest).Nodup := by
          intro hnd
          exact (nodup_append.mp hnd).2.2 chain hfresh chain (.head _) rfl
        simp [hfresh, hdup]
      · have hnodup' : (tbl.userChains ++ [chain]).Nodup := by
          rw [nodup_append]
          refine ⟨hnodup, by simp, ?_⟩
          rintro a ha b hb rfl
          rw [mem_singleton] at hb
          exact hfresh (hb ▸ ha)
        have hnodup'' : (MangleTable.mk (tbl.userChains ++ [chain])
            tbl.rules).userChains.Nodup := hnodup'
        rw [if_pos ⟨hsafe, hfresh⟩, ih hnodup'', hassoc]
        simp [hok]
    · by_cases hA : (splitWhitespace line).head? = some "-A".toList
      · obtain ⟨chain, option, more, htok, hsafe⟩ := hok.rule hA
        have hdecl : declaredChains (line :: rest) = declaredChains rest := by
          simp [declaredChains_cons, htok, declaredChain]
        have hrules : ruleTokens (line :: rest) = splitWhitespace line :: ruleTokens rest := by
          simp [ruleTokens_cons, htok, isRuleTokens]
        have hnodup' : (MangleTable.mk tbl.userChains
            (tbl.rules ++ [splitWhitespace line])).userChains.Nodup := hnodup
        rw [readTable_cons_rule htok, if_pos hsafe, ih hnodup', hdecl, hrules]
        simp [hok]
      · have hdecl : declaredChains (line :: rest) = declaredChains rest := by
          rw [declaredChains_cons, declaredChain, if_neg hN]
          rfl
        have hrules : ruleTokens (line :: rest) = ruleTokens rest := by
          rw [ruleTokens_cons, isRuleTokens, if_neg (by simpa using hA)]
        rw [readTable_cons_other hN hA, ih hnodup, hdecl, hrules]
        simp [hok]

/-! ## Trimmed listings -/

/-- The lines are as a listing of the runtime returns them: trimmed and not empty. -/
def Trimmed (lines : List Text) : Prop := ∀ line ∈ lines, trim line = line ∧ line ≠ []

theorem normalizedLines_of_trimmed (h : Trimmed lines) : normalizedLines lines = lines := by
  have hmap : lines.map trim = lines := by
    conv_rhs => rw [← map_id lines]
    exact map_congr_left fun line hline => (h line hline).1
  rw [normalizedLines, hmap, filter_eq_self]
  intro line hline
  simpa using (h line hline).2

/-! ## The product's lines as tokens -/

theorem isWord_chainName (ns : RootPolicyNamespace) : IsWord ns.chainName := by
  cases ns <;> decide

theorem isWord_markHex {ns : RootPolicyNamespace} {ident : PolicyIdentity}
    (h : ident ∈ ns.candidates) : IsWord ident.markHex := by
  have hall : ∀ ident ∈ ns.candidates, IsWord ident.markHex := by cases ns <;> decide
  exact hall ident h

theorem isWord_legacyMarkHex (ns : RootPolicyNamespace) : IsWord ns.legacyMarkHex := by
  cases ns <;> decide

theorem isWord_loopback (fam : Family) : IsWord fam.loopback := by
  cases fam <;> decide

theorem isWord_maskedMark {mark : Text} (h : IsWord mark) : IsWord (mark ++ '/' :: mark) := by
  refine isWord_append h ?_
  intro c hc
  rcases mem_cons.mp hc with rfl | hc
  · decide
  · exact h.2 c hc

def returnTokens (chain loopback : Text) : List Text :=
  ["-A".toList, chain, "-d".toList, loopback, "-j".toList, "RETURN".toList]

def restoreTokens (chain mark : Text) : List Text :=
  ["-A".toList, chain, "-j".toList, "CONNMARK".toList, "--restore-mark".toList,
    "--nfmask".toList, mark, "--ctmask".toList, mark]

def setTokens (chain spec : Text) : List Text :=
  ["-A".toList, chain, "-m".toList, "conntrack".toList, "--ctstate".toList, "NEW".toList,
    "-j".toList, "MARK".toList, "--set-xmark".toList, spec]

def saveTokens (chain spec mark : Text) : List Text :=
  ["-A".toList, chain, "-m".toList, "conntrack".toList, "--ctstate".toList, "NEW".toList,
    "-m".toList, "mark".toList, "--mark".toList, spec, "-j".toList, "CONNMARK".toList,
    "--save-mark".toList, "--nfmask".toList, mark, "--ctmask".toList, mark]

/-- The token lists of the four rules of the product chain. -/
def RootPolicyNamespace.chainRuleTokens (ns : RootPolicyNamespace) (family : Family)
    (identity : PolicyIdentity) : List (List Text) :=
  [returnTokens ns.chainName family.loopback, restoreTokens ns.chainName identity.markHex,
   setTokens ns.chainName (markSpec identity),
   saveTokens ns.chainName (markSpec identity) identity.markHex]

open RootPolicyNamespace

namespace RootPolicyContract

variable (contract : RootPolicyContract)

def outputJumpTokens : List Text :=
  ["-A".toList, "OUTPUT".toList, "-m".toList, "owner".toList, "--uid-owner".toList,
    decimal contract.productUid, "-j".toList, contract.chainName]

def legacySelectorTokens : List Text :=
  let mark := contract.ns.legacyMarkHex
  ["-A".toList, "OUTPUT".toList, "-m".toList, "owner".toList, "--uid-owner".toList,
    decimal contract.productUid, "-m".toList, "conntrack".toList, "--ctstate".toList,
    "NEW".toList, "-j".toList, "MARK".toList, "--set-xmark".toList, mark ++ '/' :: mark]

theorem outputJump_eq_joinTokens : contract.outputJump = joinTokens contract.outputJumpTokens := by
  unfold outputJump outputJumpOf outputJumpTokens
  generalize decimal contract.productUid = uid
  simp [joinTokens]

theorem isWord_of_mem_outputJumpTokens : ∀ token ∈ contract.outputJumpTokens, IsWord token := by
  have hchain := isWord_chainName contract.ns
  have huid := isWord_decimal contract.productUid
  simp only [outputJumpTokens, forall_mem_cons]
  exact ⟨by decide, by decide, by decide, by decide, by decide, huid, by decide, hchain, by simp⟩

theorem splitWhitespace_outputJump :
    splitWhitespace contract.outputJump = contract.outputJumpTokens := by
  rw [outputJump_eq_joinTokens]
  exact splitWhitespace_joinTokens contract.isWord_of_mem_outputJumpTokens

theorem legacySelectorLine_eq_joinTokens :
    contract.legacySelectorLine = joinTokens contract.legacySelectorTokens := by
  unfold legacySelectorLine legacySelectorSpec legacySelectorTokens
  generalize decimal contract.productUid = uid
  simp [joinTokens]

theorem isWord_of_mem_legacySelectorTokens :
    ∀ token ∈ contract.legacySelectorTokens, IsWord token := by
  have huid := isWord_decimal contract.productUid
  have hmark := isWord_maskedMark (isWord_legacyMarkHex contract.ns)
  simp only [legacySelectorTokens, forall_mem_cons]
  exact ⟨by decide, by decide, by decide, by decide, by decide, huid, by decide, by decide,
    by decide, by decide, by decide, by decide, by decide, hmark, by simp⟩

theorem splitWhitespace_legacySelectorLine :
    splitWhitespace contract.legacySelectorLine = contract.legacySelectorTokens := by
  rw [legacySelectorLine_eq_joinTokens]
  exact splitWhitespace_joinTokens contract.isWord_of_mem_legacySelectorTokens

theorem splitWhitespace_chainDefinition :
    splitWhitespace contract.chainDefinition = ["-N".toList, contract.chainName] := by
  have hjoin : contract.chainDefinition = joinTokens ["-N".toList, contract.chainName] := rfl
  rw [hjoin]
  apply splitWhitespace_joinTokens
  simp only [forall_mem_cons]
  exact ⟨by decide, isWord_chainName contract.ns, by simp⟩

theorem ownedChainLinesFor_eq_map_joinTokens (fam ident) : contract.ownedChainLinesFor fam ident =
      (contract.ns.chainRuleTokens fam ident).map joinTokens := by
  simp [ownedChainLinesFor, chainRuleTokens, returnTokens, restoreTokens,
    setTokens, saveTokens, markSpec, chainName, joinTokens]

variable {ident : PolicyIdentity}

theorem isWord_of_mem_chainRuleTokens {fam} (h : ident ∈ contract.ns.candidates)
    {toks} (htok : toks ∈ contract.ns.chainRuleTokens fam ident) :
    ∀ token ∈ toks, IsWord token := by
  have hchain := isWord_chainName contract.ns
  have hmark := isWord_markHex h
  have hmasked : IsWord (markSpec ident) := isWord_maskedMark hmark
  have hloopback := isWord_loopback fam
  intro token htoken
  simp only [chainRuleTokens, mem_cons, not_mem_nil, or_false] at htok
  rcases htok with rfl | rfl | rfl | rfl <;>
    simp only [returnTokens, restoreTokens, setTokens, saveTokens, mem_cons,
      not_mem_nil, or_false] at htoken
  · rcases htoken with rfl | rfl | rfl | rfl | rfl | rfl <;>
      first | assumption | decide
  · rcases htoken with rfl | rfl | rfl | rfl | rfl | rfl | rfl | rfl | rfl <;>
      first | assumption | decide
  · rcases htoken with rfl | rfl | rfl | rfl | rfl | rfl | rfl | rfl | rfl | rfl <;>
      first | assumption | decide
  · rcases htoken with rfl | rfl | rfl | rfl | rfl | rfl | rfl | rfl | rfl | rfl | rfl | rfl |
      rfl | rfl | rfl | rfl | rfl <;> first | assumption | decide

theorem map_splitWhitespace_ownedChainLinesFor (fam) (h : ident ∈ contract.ns.candidates) :
    (contract.ownedChainLinesFor fam ident).map splitWhitespace =
      contract.ns.chainRuleTokens fam ident := by
  rw [ownedChainLinesFor_eq_map_joinTokens, map_map]
  conv_rhs => rw [← map_id (contract.ns.chainRuleTokens fam ident)]
  apply map_congr_left
  intro toks htok
  exact splitWhitespace_joinTokens (contract.isWord_of_mem_chainRuleTokens h htok)

/-! ## The product's rules in a clean table -/

theorem startsWith_ownedChainLinesFor {fam line}
    (h : line ∈ contract.ownedChainLinesFor fam ident) :
    startsWith line ("-A ".toList ++ contract.chainName ++ [' ']) = true := by
  rw [startsWith_iff]
  simp only [ownedChainLinesFor, mem_cons, not_mem_nil, or_false] at h
  rcases h with rfl | rfl | rfl | rfl
  · exact ⟨"-d ".toList ++ fam.loopback ++ " -j RETURN".toList, by simp⟩
  · exact ⟨"-j CONNMARK --restore-mark".toList ++ (" --nfmask ".toList ++ ident.markHex ++
      " --ctmask ".toList ++ ident.markHex), by simp⟩
  · exact ⟨"-m conntrack --ctstate NEW -j MARK --set-xmark ".toList ++ ident.markHex ++
      '/' :: ident.markHex, by simp⟩
  · exact ⟨"-m conntrack --ctstate NEW -m mark --mark ".toList ++ ident.markHex ++
      '/' :: ident.markHex ++ " -j CONNMARK --save-mark".toList ++ (" --nfmask ".toList ++
      ident.markHex ++ " --ctmask ".toList ++ ident.markHex), by simp⟩

/-- A line of the product belongs to the product chain as a rule exactly when it is one
of the chain's lines. -/
theorem isChainRule_iff_startsWith {fam} (hid : ident ∈ contract.ns.candidates)
    {line : Text} (h : line ∈ contract.allowedMangleLinesFor fam ident) :
    (isRuleTokens (splitWhitespace line) &&
        (ruleChain (splitWhitespace line) == some contract.chainName)) =
      startsWith line ("-A ".toList ++ contract.chainName ++ [' ']) := by
  simp only [allowedMangleLinesFor, mem_cons, mem_append, not_mem_nil, or_false] at h
  rcases h with rfl | rfl | h | rfl
  · rw [splitWhitespace_chainDefinition]
    unfold chainDefinition chainName
    cases contract.ns <;> decide
  · rw [splitWhitespace_outputJump]
    unfold outputJump outputJumpOf outputJumpTokens chainName
    generalize decimal contract.productUid = uid
    cases contract.ns <;> rfl
  · rw [contract.startsWith_ownedChainLinesFor h]
    have htok : splitWhitespace line ∈ contract.ns.chainRuleTokens fam ident := by
      rw [← contract.map_splitWhitespace_ownedChainLinesFor fam hid]
      exact mem_map_of_mem h
    simp only [chainRuleTokens, mem_cons, not_mem_nil, or_false] at htok
    rcases htok with heq | heq | heq | heq <;> rw [heq] <;>
      simp [isRuleTokens, ruleChain, returnTokens, restoreTokens, setTokens, saveTokens, chainName]
  · rw [splitWhitespace_legacySelectorLine]
    unfold legacySelectorLine legacySelectorSpec legacySelectorTokens chainName
    generalize decimal contract.productUid = uid
    cases contract.ns <;> rfl

end RootPolicyContract

theorem allowed_of_contains {allowed mishChain cmark}
    (h : auditMangleOutput lines allowed mishChain cmark = .clean)
    (hline : line ∈ normalizedLines lines) (hcontains : mishChain <:+: line) : line ∈ allowed := by
  unfold auditMangleOutput at h
  split_ifs at h with _ hany
  rw [any_eq_true] at hany
  by_contra hnot
  exact hany ⟨line, hline, by simp [contains_iff.mpr hcontains, hnot]⟩

theorem rulesOf_chainName {con : RootPolicyContract} {fam : Family}
    {ident : PolicyIdentity} (hid : ident ∈ con.ns.candidates) (htrimmed : Trimmed lines)
    (hclean : auditMangleOutput lines (con.allowedMangleLinesFor fam ident)
      con.chainName ident.markValue = .clean) :
    (ruleTokens lines).filter (fun toks => ruleChain toks == some con.chainName) =
      (RootPolicyContract.chainLines lines con.chainName).map splitWhitespace := by
  rw [ruleTokens, filter_map, filter_map, filter_filter, RootPolicyContract.chainLines]
  congr 1
  apply filter_congr
  intro line hline
  have hnormal : line ∈ normalizedLines lines := by
    rw [normalizedLines_of_trimmed htrimmed]
    exact hline
  by_cases hcontains : con.chainName <:+: line
  · have hallw := allowed_of_contains hclean hnormal hcontains
    rw [← con.isChainRule_iff_startsWith hid hallw, Bool.and_comm]
    rfl
  · have hstart : startsWith line ("-A ".toList ++ con.chainName ++ [' ']) = false := by
      rw [Bool.eq_false_iff, ne_eq, startsWith_iff]
      rintro ⟨rest, rfl⟩
      exact hcontains ⟨"-A ".toList, [' '] ++ rest, by simp⟩
    have hchain : (ruleChain (splitWhitespace line) == some con.chainName) = false := by
      rw [beq_eq_false_iff_ne]
      intro heq
      exact hcontains (of_mem_splitWhitespace (mem_of_getElem? heq)).2
    rw [hstart, Function.comp_apply, hchain, Bool.false_and]

end MishProxy.Cellular
