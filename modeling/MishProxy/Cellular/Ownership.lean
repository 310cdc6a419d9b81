import MishProxy.Cellular.Listing
import MishProxy.Routing.Rule

/-!
# Which rules are recognised as the product's

The contract recognises its RPDB rules by three tokens of a line: the priority, the mark behind
`fwmark`, and the word `unreachable` or a table behind `lookup`.

* `guard_installed_iff`, `lookup_installed_iff`: a recognised rule is the one the product's own
  command installs exactly when its line has no further token and selects all sources.
* `owned_rules_exact_iff` puts both together for the rules of a family. Under the same condition
  the guard rejects every marked packet that no earlier rule takes, and a deletion removes only
  rules the product installs.

An inverted rule passes the recognition (`guard_recognised_inverted`) and matches exactly the
packets without the mark.
-/

namespace MishProxy.Cellular

open Text Routing Netfilter RootPolicyContract RpdbRule List Option RuleAttributes
  RootPolicyNamespace

/-! ## The product's rules -/

def guardAttributes (identity : PolicyIdentity) : RuleAttributes :=
  ⟨identity.guardPriority, markSpec identity, .unreachable⟩

def lookupAttributes (identity : PolicyIdentity) (table : Text) : RuleAttributes :=
  ⟨identity.lookupPriority, markSpec identity, .lookup table⟩

theorem added_eq_some_iff {attributes : RuleAttributes} {rule : RpdbRule} :
    attributes.added = some rule ↔ rule.priority = attributes.priority ∧ rule.inverted = false ∧
      rule.source = none ∧ rule.before = [] ∧ rule.fwmark = some attributes.fwmark ∧
      rule.after = [] ∧ rule.action = attributes.action ∧ rule.modifiers = [] := by
  unfold added
  constructor
  · intro h
    split_ifs at h
    cases h
    exact ⟨rfl, rfl, rfl, rfl, rfl, rfl, rfl, rfl⟩
  · rintro ⟨hprio, hinv, hsrc, hbef, hfwmark, hafter, hactn, hmods⟩
    have hvalid : attributes.priority ≤ u32Max ∧ IsWord attributes.fwmark ∧
        ∀ token ∈ attributes.action.tokens, IsWord token := by
      rw [← hprio, ← hactn]
      exact ⟨rule.priority_le, rule.fwmark_word _ hfwmark, rule.action_words⟩
    rw [dif_pos hvalid]
    obtain ⟨priority, inverted, source, before, fwmark, after, act, modifiers⟩ := rule
    simp only at hprio hinv hsrc hbef hfwmark hafter hactn hmods
    subst hprio hinv hsrc hbef hfwmark hafter hactn hmods
    rfl

/-- The product's mark is no keyword. -/
theorem markSpec_starts {ns : RootPolicyNamespace} {ident : PolicyIdentity}
    (h : ident ∈ ns.candidates) : ∃ rest, markSpec ident = '0' :: rest := by
  have hall : ∀ ident ∈ ns.candidates, (markSpec ident).head? = some '0' := by
    cases ns <;> decide
  have hhead := hall ident h
  cases hspec : markSpec ident with
  | nil => rw [hspec] at hhead; cases hhead
  | cons c rest =>
    rw [hspec, head?_cons, some.injEq] at hhead
    exact ⟨rest, by rw [hhead]⟩

theorem priorityToken_ne {rule : RpdbRule} {c : Char} {rest : Text} (hc : c.isDigit = false)
    (hcolon : c ≠ ':') : rule.priorityToken ≠ c :: rest := by
  intro heq
  have hmem : c ∈ rule.priorityToken.take 1 := by rw [heq]; simp
  have hdigits : ∀ d ∈ decimal rule.priority, d.isDigit = true := fun d hd =>
    Nat.isDigit_of_mem_toDigits (by decide) (by decide) hd
  rcases mem_append.mp (mem_of_mem_take hmem) with hdigit | hlast
  · rw [hdigits c hdigit] at hc
    cases hc
  · exact hcolon (mem_singleton.mp hlast)

/-! ## The shape of a recognised line -/

/-- The line has the given number of tokens and selects every source without `not`. -/
structure PlainShape (count : Nat) (tokens : List Text) : Prop where
  length : tokens.length = count
  direct : tokens[1]? = some "from".toList
  source : tokens[2]? = some "all".toList

theorem plainShape_iff {count : Nat} {rule : RpdbRule} : PlainShape (count + 3) rule.tokens ↔
      rule.inverted = false ∧ rule.source = none ∧ rule.restTokens.length = count := by
  constructor
  · rintro ⟨hlen, hdirect, hsrc⟩
    have hinv : rule.inverted = false := by
      cases hrule : rule.inverted with
      | false => rfl
      | true => simp [tokens, bodyTokens, hrule] at hdirect
    simp only [tokens, bodyTokens, hinv, Bool.false_eq_true, if_false, nil_append] at hlen hsrc
    refine ⟨hinv, ?_, by simpa using hlen⟩
    cases hrule : rule.source with
    | none => rfl
    | some word =>
      have hword : word.1 = "all".toList := by
        simpa [sourceText, hrule] using hsrc
      exact absurd hword (rule.source_ne word hrule).1
  · rintro ⟨hinv, hsrc, hlen⟩
    constructor <;>
      simp [tokens, bodyTokens, sourceText, hinv, hsrc, hlen]

theorem length_selectors (selectors : List Selector) :
    (selectors.flatMap Selector.tokens).length = 2 * selectors.length := by
  induction selectors with
  | nil => rfl
  | cons selector rest ih =>
    rw [flatMap_cons, length_append, ih, length_cons, Selector.tokens]
    simp only [length_cons, length_nil]
    omega

theorem length_restTokens (rule : RpdbRule) :
    rule.restTokens.length = 2 * (rule.before.length + rule.after.length + rule.modifiers.length) +
      rule.fwmarkTokens.length + rule.action.tokens.length := by
  simp only [restTokens, length_append, length_selectors]
  omega

/-! ## The word behind a keyword

A value of a rule may be any word, so it may be one of the keywords; an interface can be
called `lookup`. What is printed behind a value is always the start of the next part. -/

/-- The words that start a part of a printed rule. -/
inductive Marker : Text → Prop
  | selector (kind : SelectorKind) : Marker kind.keyword
  | fwmark : Marker "fwmark".toList
  | action (action : RpdbAction) : Marker action.word

variable {word : Text}

theorem Marker.safe (h : Marker word) : isSafeTableToken word = true := by
  cases h with
  | selector kind => cases kind <;> decide
  | fwmark => decide
  | action act => cases act <;> rfl

theorem Marker.ne_zero {rest : Text} (h : Marker word) : word ≠ '0' :: rest := by
  intro heq
  have hhead : word.head? = some '0' := by rw [heq]; rfl
  cases h with
  | selector kind => cases kind <;> cases hhead
  | fwmark => cases hhead
  | action act => cases act <;> cases hhead

variable {selectors : List Selector}

theorem marker_of_head_selectors {rest}
    (h : (selectors.flatMap Selector.tokens ++ rest).head? = some word)
    (hrest : ∀ other, rest.head? = some other → Marker other) : Marker word := by
  cases selectors with
  | nil => exact hrest word h
  | cons selector more =>
    cases h
    exact .selector selector.kind

/-- Behind a value stands the start of the next part. -/
theorem tokenAfter_selectors {rest keyword}
    (hkeyword : ∀ kind : SelectorKind, kind.keyword ≠ keyword)
    (hrest : ∀ other, rest.head? = some other → Marker other)
    (h : tokenAfter (selectors.flatMap Selector.tokens ++ rest) keyword = some word) :
    Marker word ∨ tokenAfter rest keyword = some word := by
  induction selectors with
  | nil => exact Or.inr h
  | cons selector more ih =>
    simp only [flatMap_cons, Selector.tokens, cons_append, nil_append, tokenAfter,
      hkeyword selector.kind, if_false] at h
    split at h
    · exact Or.inl (marker_of_head_selectors h hrest)
    · exact ih h

theorem tokenAfter_selectors_safe {rest keyword}
    (hkeyword : ∀ kind : SelectorKind, kind.keyword ≠ keyword)
    (hhead : ∃ other, rest.head? = some other ∧ Marker other)
    (h : ∃ word, tokenAfter rest keyword = some word ∧ isSafeTableToken word = true) :
    ∃ word, tokenAfter (selectors.flatMap Selector.tokens ++ rest) keyword = some word ∧
      isSafeTableToken word = true := by
  induction selectors with
  | nil => exact h
  | cons selector more ih =>
    simp only [flatMap_cons, Selector.tokens, cons_append, nil_append, tokenAfter,
      hkeyword selector.kind, if_false]
    split
    · cases more with
      | nil =>
        obtain ⟨other, hoth, hmarker⟩ := hhead
        exact ⟨other, hoth, hmarker.safe⟩
      | cons next more => exact ⟨_, rfl, (Marker.selector next.kind).safe⟩
    · exact ih

theorem selector_keyword_ne_fwmark (kind : SelectorKind) : kind.keyword ≠ "fwmark".toList := by
  cases kind <;> decide

theorem selector_keyword_ne_lookup (kind : SelectorKind) : kind.keyword ≠ "lookup".toList := by
  cases kind <;> decide

variable {ns : RootPolicyNamespace} {identity : PolicyIdentity} {rule : RpdbRule}

theorem tokens_eq (rule : RpdbRule) :
    rule.tokens = (rule.priorityToken :: ((if rule.inverted then ["not".toList] else []) ++
      ["from".toList])) ++ rule.sourceText :: (rule.before.flatMap Selector.tokens ++
        (rule.fwmarkTokens ++ (rule.after.flatMap Selector.tokens ++ (rule.action.tokens ++
          rule.modifiers.flatMap Selector.tokens)))) := by
  simp [tokens, bodyTokens, restTokens]

theorem not_mem_start {c rest} (hc : c.isDigit = false) (hcolon : c ≠ ':')
    (hnot : c :: rest ≠ "not".toList) (hfrom : c :: rest ≠ "from".toList) :
    c :: rest ∉ rule.priorityToken :: ((if rule.inverted then ["not".toList] else []) ++
      ["from".toList]) := by
  have hprio : rule.priorityToken ≠ c :: rest := priorityToken_ne hc hcolon
  cases rule.inverted <;>
    simp only [Bool.false_eq_true, if_true, if_false, cons_append, nil_append,
      mem_cons, not_mem_nil, or_false, not_or] <;>
    exact ⟨Ne.symm hprio, by first | exact ⟨hnot, hfrom⟩ | exact hfrom⟩

theorem fwmark_not_mem_start (rule : RpdbRule) : "fwmark".toList ∉ rule.priorityToken ::
      ((if rule.inverted then ["not".toList] else []) ++ ["from".toList]) :=
  not_mem_start (by decide) (by decide) (by decide) (by decide)

theorem sourceText_ne_fwmark (rule : RpdbRule) : rule.sourceText ≠ "fwmark".toList := by
  unfold sourceText
  cases hrule : rule.source with
  | none => decide
  | some word => exact (rule.source_ne word hrule).2

theorem fwmark_not_mem_before (rule : RpdbRule) :
    "fwmark".toList ∉ rule.before.flatMap Selector.tokens := by
  intro hmem
  obtain ⟨selector, hselector, htoken⟩ := mem_flatMap.mp hmem
  simp only [Selector.tokens, mem_cons, not_mem_nil, or_false] at htoken
  rcases htoken with heq | heq
  · exact selector_keyword_ne_fwmark selector.kind heq.symm
  · exact rule.before_ne selector hselector heq.symm

theorem tokenAfter_fwmark (rule : RpdbRule) : tokenAfter rule.tokens "fwmark".toList =
      tokenAfter (rule.fwmarkTokens ++ (rule.after.flatMap Selector.tokens ++
        (rule.action.tokens ++ rule.modifiers.flatMap Selector.tokens))) "fwmark".toList := by
  rw [tokens_eq, tokenAfter_append (fwmark_not_mem_start rule), tokenAfter,
    if_neg (sourceText_ne_fwmark rule), tokenAfter_append (fwmark_not_mem_before rule)]

theorem tokenAfter_fwmark_of_some {spec : Text} (h : rule.fwmark = some spec) :
    tokenAfter rule.tokens "fwmark".toList = some spec := by
  rw [tokenAfter_fwmark, fwmarkTokens, h]
  rfl

theorem marker_of_tokenAfter_action
    (h : tokenAfter (rule.action.tokens ++ rule.modifiers.flatMap Selector.tokens)
      "fwmark".toList = some word) : Marker word := by
  have hnil : ∀ other, ([] : List Text).head? = some other → Marker other := by
    intro other hoth
    cases hoth
  have hmods : tokenAfter (rule.modifiers.flatMap Selector.tokens) "fwmark".toList =
      some word → Marker word := by
    intro hafter
    rw [← append_nil (rule.modifiers.flatMap Selector.tokens)] at hafter
    rcases tokenAfter_selectors selector_keyword_ne_fwmark hnil hafter with hmarker | hnone
    · exact hmarker
    · cases hnone
  have hhead : (rule.modifiers.flatMap Selector.tokens).head? = some word → Marker word := by
    intro hhead
    rw [← append_nil (rule.modifiers.flatMap Selector.tokens)] at hhead
    exact marker_of_head_selectors hhead hnil
  cases hactn : rule.action with
  | lookup tbl =>
    have hne : "lookup".toList ≠ "fwmark".toList := by decide
    simp only [hactn, RpdbAction.tokens, cons_append, nil_append, tokenAfter, hne, if_false] at h
    split at h
    · exact hhead h
    · exact hmods h
  | goto tgt =>
    have hne : "goto".toList ≠ "fwmark".toList := by decide
    have hdigits : decimal tgt ≠ "fwmark".toList := decimal_ne (by decide) tgt _
    simp only [hactn, RpdbAction.tokens, cons_append, nil_append, tokenAfter, hne,
      hdigits, if_false] at h
    exact hmods h
  | unreachable | prohibit | blackhole | nop =>
    rw [hactn] at h
    exact hmods (by simpa [RpdbAction.tokens, tokenAfter] using h)

theorem marker_of_action_head
    (h : (rule.action.tokens ++ rule.modifiers.flatMap Selector.tokens).head? = some word) :
    Marker word := by
  obtain ⟨rest, htok⟩ := rule.action.tokens_cons
  rw [htok] at h
  cases h
  exact .action rule.action

variable (hid : identity ∈ ns.candidates)
include hid

/-- The word behind `fwmark` is the product's mark exactly for the rules with that mark. -/
theorem tokenAfter_fwmark_iff : tokenAfter rule.tokens "fwmark".toList = some (markSpec identity) ↔
      rule.fwmark = some (markSpec identity) := by
  cases hmark : rule.fwmark with
  | some spec => rw [tokenAfter_fwmark_of_some hmark]
  | none =>
    refine ⟨fun h => ?_, by simp⟩
    obtain ⟨rest, hzero⟩ := markSpec_starts hid
    rw [tokenAfter_fwmark, fwmarkTokens, hmark, nil_append] at h
    have hmarker : Marker (markSpec identity) := by
      rcases tokenAfter_selectors selector_keyword_ne_fwmark
          (fun other => marker_of_action_head) h with hmarker | hactn
      · exact hmarker
      · exact marker_of_tokenAfter_action hactn
    exact absurd hzero hmarker.ne_zero

variable {table : Text}

/-- A rule with the product's mark that looks a table up shows a safe word behind
`lookup`. -/
theorem tokenAfter_lookup_safe
    (hmark : rule.fwmark = some (markSpec identity)) (hactn : rule.action = .lookup table)
    (hsafe : isSafeTableToken table = true) :
    ∃ word, tokenAfter rule.tokens "lookup".toList = some word ∧ isSafeTableToken word = true := by
  have hstart : "lookup".toList ∉ rule.priorityToken ::
      ((if rule.inverted then ["not".toList] else []) ++ ["from".toList]) :=
    not_mem_start (by decide) (by decide) (by decide) (by decide)
  have hspec : markSpec identity ≠ "lookup".toList := by
    obtain ⟨rest, hzero⟩ := markSpec_starts hid
    rw [hzero]
    exact fun heq => absurd (cons.inj heq).1 (by decide)
  have hne : "fwmark".toList ≠ "lookup".toList := by decide
  have hend : ∃ word, tokenAfter (rule.after.flatMap Selector.tokens ++ (rule.action.tokens ++
      rule.modifiers.flatMap Selector.tokens)) "lookup".toList = some word ∧
        isSafeTableToken word = true := by
    refine tokenAfter_selectors_safe selector_keyword_ne_lookup ?_ ?_
    · exact ⟨_, by rw [hactn]; rfl, .action (.lookup table)⟩
    · refine ⟨table, ?_, hsafe⟩
      rw [hactn, RpdbAction.tokens, cons_append, tokenAfter_self]
      rfl
  have hmrk : ∃ word, tokenAfter (rule.before.flatMap Selector.tokens ++ (rule.fwmarkTokens ++
      (rule.after.flatMap Selector.tokens ++ (rule.action.tokens ++
        rule.modifiers.flatMap Selector.tokens)))) "lookup".toList = some word ∧
          isSafeTableToken word = true := by
    rw [fwmarkTokens, hmark]
    refine tokenAfter_selectors_safe selector_keyword_ne_lookup ⟨_, rfl, .fwmark⟩ ?_
    simp only [cons_append, nil_append, tokenAfter, hne, hspec, if_false]
    exact hend
  rw [tokens_eq, tokenAfter_append hstart, tokenAfter]
  split
  · rw [fwmarkTokens, hmark]
    cases rule.before with
    | nil => exact ⟨_, rfl, Marker.fwmark.safe⟩
    | cons selector more => exact ⟨_, rfl, (Marker.selector selector.kind).safe⟩
  · exact hmrk

/-! ## Recognised rules -/

theorem ownedGuard_line_iff : lineIsOwnedGuardFor rule.line identity = true ↔
      rule.priority = identity.guardPriority ∧ rule.fwmark = some (markSpec identity) ∧
        "unreachable".toList ∈ rule.tokens := by
  rw [lineIsOwnedGuardFor]
  simp only [rule.splitWhitespace_line, rule.rpdbPriority_line, Bool.and_eq_true, beq_iff_eq,
    some.injEq, contains_iff_mem, and_assoc]
  rw [tokenAfter_fwmark_iff hid]

theorem ownedLookupTable_line_iff : ownedLookupTable rule.line identity = some table ↔
      rule.priority = identity.lookupPriority ∧ rule.fwmark = some (markSpec identity) ∧
        tokenAfter rule.tokens "lookup".toList = some table ∧ isSafeTableToken table = true := by
  rw [ownedLookupTable]
  simp only [rule.splitWhitespace_line, rule.rpdbPriority_line, some.injEq,
    tokenAfter_fwmark_iff hid]
  by_cases hcond : rule.priority = identity.lookupPriority ∧ rule.fwmark = some (markSpec identity)
  · rw [if_pos hcond, filter_eq_some_iff]
    simp [hcond.1, hcond.2]
  · rw [if_neg hcond]
    exact ⟨by simp, fun h => absurd ⟨h.1, h.2.1⟩ hcond⟩

theorem markSpec_ne {c rest} (hc : c ≠ '0') : markSpec identity ≠ c :: rest := by
  obtain ⟨more, hzero⟩ := markSpec_starts hid
  rw [hzero]
  exact fun heq => hc (cons.inj heq).1.symm

omit hid

theorem tokens_of_plain {spec : Text} (hinv : rule.inverted = false)
    (hsrc : rule.source = none) (hmark : rule.fwmark = some spec) (hbef : rule.before = [])
    (hafter : rule.after = []) (hmods : rule.modifiers = []) :
    rule.tokens = rule.priorityToken :: "from".toList :: "all".toList :: "fwmark".toList :: spec ::
      rule.action.tokens := by
  simp [tokens, bodyTokens, restTokens, sourceText,
    fwmarkTokens, hinv, hsrc, hmark, hbef, hafter, hmods]

theorem guard_installed_iff (hid : identity ∈ ns.candidates)
    (howned : lineIsOwnedGuardFor rule.line identity = true) :
    (guardAttributes identity).added = some rule ↔ PlainShape 6 rule.tokens := by
  obtain ⟨hprio, hmark, hunre⟩ := (ownedGuard_line_iff hid).mp howned
  rw [added_eq_some_iff, plainShape_iff, length_restTokens, fwmarkTokens, hmark]
  constructor
  · rintro ⟨-, hinv, hsrc, hbef, -, hafter, hactn, hmods⟩
    refine ⟨hinv, hsrc, ?_⟩
    rw [hbef, hafter, hactn, hmods]
    rfl
  · rintro ⟨hinv, hsrc, hlen⟩
    have hactn : 0 < rule.action.tokens.length := by
      obtain ⟨rest, htok⟩ := rule.action.tokens_cons
      rw [htok]
      exact Nat.succ_pos _
    simp only [length_cons, length_nil] at hlen
    have hbef : rule.before = [] := eq_nil_of_length_eq_zero (by omega)
    have hafter : rule.after = [] := eq_nil_of_length_eq_zero (by omega)
    have hmods : rule.modifiers = [] := eq_nil_of_length_eq_zero (by omega)
    refine ⟨hprio, hinv, hsrc, hbef, rfl, hafter, ?_, hmods⟩
    rw [tokens_of_plain hinv hsrc hmark hbef hafter hmods] at hunre
    have hpriorityToken : "unreachable".toList ≠ rule.priorityToken :=
      Ne.symm (priorityToken_ne (by decide) (by decide))
    have hspec : "unreachable".toList ≠ markSpec identity :=
      Ne.symm (markSpec_ne hid (by decide))
    have hmem : "unreachable".toList ∈ rule.action.tokens := by
      simp only [mem_cons] at hunre
      rcases hunre with h | h | h | h | h | h
      · exact absurd h hpriorityToken
      · exact absurd h (by decide)
      · exact absurd h (by decide)
      · exact absurd h (by decide)
      · exact absurd h hspec
      · exact h
    cases hrule : rule.action with
    | unreachable => rfl
    | lookup table | goto tgt =>
      rw [hrule] at hlen
      simp [RpdbAction.tokens, hbef, hafter, hmods] at hlen
    | prohibit | blackhole | nop => rw [hrule] at hmem; exact absurd hmem (by decide)

theorem lookup_installed_iff (hid : identity ∈ ns.candidates)
    (howned : ownedLookupTable rule.line identity = some table) :
    (lookupAttributes identity table).added = some rule ↔ PlainShape 7 rule.tokens := by
  obtain ⟨hprio, hmark, hlook, -⟩ := (ownedLookupTable_line_iff hid).mp howned
  rw [added_eq_some_iff, plainShape_iff, length_restTokens, fwmarkTokens, hmark]
  constructor
  · rintro ⟨-, hinv, hsrc, hbef, -, hafter, hactn, hmods⟩
    refine ⟨hinv, hsrc, ?_⟩
    rw [hbef, hafter, hactn, hmods]
    rfl
  · rintro ⟨hinv, hsrc, hlen⟩
    have hpriorityToken : rule.priorityToken ≠ "lookup".toList :=
      priorityToken_ne (by decide) (by decide)
    have hspec : markSpec identity ≠ "lookup".toList := markSpec_ne hid (by decide)
    simp only [length_cons, length_nil] at hlen
    -- an action of one word leaves an odd number of tokens
    have hwords : rule.action.tokens.length = 2 := by
      revert hlen
      cases rule.action <;> intro hlen <;> first
        | rfl
        | simp only [RpdbAction.tokens, length_cons, length_nil] at hlen
          omega
    have hbef : rule.before = [] := eq_nil_of_length_eq_zero (by omega)
    have hafter : rule.after = [] := eq_nil_of_length_eq_zero (by omega)
    have hmods : rule.modifiers = [] := eq_nil_of_length_eq_zero (by omega)
    refine ⟨hprio, hinv, hsrc, hbef, rfl, hafter, ?_, hmods⟩
    have hstart : "lookup".toList ∉ [rule.priorityToken, "from".toList, "all".toList,
        "fwmark".toList, markSpec identity] := by
      simp only [mem_cons, not_mem_nil, or_false, not_or]
      exact ⟨Ne.symm hpriorityToken, by decide, by decide, by decide, Ne.symm hspec⟩
    have hsplit : rule.tokens = [rule.priorityToken, "from".toList, "all".toList,
        "fwmark".toList, markSpec identity] ++ rule.action.tokens :=
      tokens_of_plain hinv hsrc hmark hbef hafter hmods
    rw [hsplit, tokenAfter_append hstart] at hlook
    cases hrule : rule.action with
    | lookup name =>
      rw [hrule, RpdbAction.tokens, tokenAfter_self, head?_cons, some.injEq] at hlook
      rw [hlook]
      rfl
    | goto tgt =>
      have hnone : "lookup".toList ∉ (RpdbAction.goto tgt).tokens := by
        simp only [RpdbAction.tokens, mem_cons, not_mem_nil, or_false, not_or]
        exact ⟨by decide, Ne.symm (decimal_ne (by decide) tgt _)⟩
      rw [hrule, tokenAfter_of_not_mem hnone] at hlook
      cases hlook
    | unreachable | prohibit | blackhole | nop => rw [hrule] at hwords; cases hwords

/-! ## The rules of a family -/

/-- Every rule recognised as the identity's is the one the product's command installs. -/
structure OwnedExact (identity : PolicyIdentity) (rules : List RpdbRule) : Prop where
  guard : ∀ rule ∈ rules, lineIsOwnedGuardFor rule.line identity = true →
    (guardAttributes identity).added = some rule
  lookup : ∀ rule ∈ rules, ∀ table,
    ownedLookupTable rule.line identity = some table →
      (lookupAttributes identity table).added = some rule

/-- The recognised lines have no token but the product's. -/
structure OwnedPlain (identity : PolicyIdentity) (rules : List RpdbRule) : Prop where
  guard : ∀ rule ∈ rules, lineIsOwnedGuardFor rule.line identity = true →
    PlainShape 6 (splitWhitespace rule.line)
  lookup : ∀ rule ∈ rules, ∀ table,
    ownedLookupTable rule.line identity = some table →
      PlainShape 7 (splitWhitespace rule.line)

variable {rules : List RpdbRule}

variable (hid : identity ∈ ns.candidates)
include hid

theorem ownedExact_iff_plain : OwnedExact identity rules ↔ OwnedPlain identity rules := by
  constructor
  · rintro ⟨hguard, hlook⟩
    constructor
    · intro rule hrule howned
      rw [rule.splitWhitespace_line]
      exact (guard_installed_iff hid howned).mp (hguard rule hrule howned)
    · intro rule hrule table howned
      rw [rule.splitWhitespace_line]
      exact (lookup_installed_iff hid howned).mp (hlook rule hrule table howned)
  · rintro ⟨hguard, hlook⟩
    constructor
    · intro rule hrule howned
      have hplain := hguard rule hrule howned
      rw [rule.splitWhitespace_line] at hplain
      exact (guard_installed_iff hid howned).mpr hplain
    · intro rule hrule table howned
      have hplain := hlook rule hrule table howned
      rw [rule.splitWhitespace_line] at hplain
      exact (lookup_installed_iff hid howned).mpr hplain

theorem ownedGuard_of_selects (h : (guardAttributes identity).selects rule = true) :
    lineIsOwnedGuardFor rule.line identity = true := by
  simp only [selects, guardAttributes, Bool.and_eq_true, beq_iff_eq] at h
  obtain ⟨⟨hprio, hmark⟩, hactn⟩ := h
  refine (ownedGuard_line_iff hid).mpr ⟨hprio, hmark, ?_⟩
  rw [tokens_eq, hactn]
  simp [RpdbAction.tokens]

theorem ownedLookup_of_selects (hsafe : isSafeTableToken table = true)
    (h : (lookupAttributes identity table).selects rule = true) :
    ∃ word, ownedLookupTable rule.line identity = some word := by
  simp only [selects, lookupAttributes, Bool.and_eq_true, beq_iff_eq] at h
  obtain ⟨⟨hprio, hmark⟩, hactn⟩ := h
  obtain ⟨word, hword, hwordSafe⟩ := tokenAfter_lookup_safe hid hmark hactn hsafe
  exact ⟨word, (ownedLookupTable_line_iff hid).mpr ⟨hprio, hmark, hword, hwordSafe⟩⟩

theorem guard_matches
    (h : (guardAttributes identity).added = some rule) {ω : Type} (env : RoutingEnvironment ω)
    (packet : RoutedPacket ω) : rule.matchesPacket env packet =
      (packet.mark &&& BitVec.ofNat 32 identity.markValue ==
        BitVec.ofNat 32 identity.markValue) := by
  obtain ⟨-, hinv, hsrc, hbef, hmark, hafter, -, -⟩ := added_eq_some_iff.mp h
  simp [matchesPacket, selectorsMatch, markMatches, hinv, hsrc,
    hbef, hafter, hmark, guardAttributes, parseMarkSpec_markSpec hid]

omit hid

/-- What follows from exact recognition: the guard rejects the marked packets, and the
deletions remove the product's rules only. -/
structure OwnedEffective (identity : PolicyIdentity) (rules : List RpdbRule) : Prop where
  rejects : (rules.any fun rule =>
      lineIsOwnedGuardFor rule.line identity) = true →
    ∃ earlier guard later, rules = earlier ++ guard :: later ∧
      ∀ {ω : Type} (env : RoutingEnvironment ω) (packet : RoutedPacket ω),
        packet.mark &&& BitVec.ofNat 32 identity.markValue =
          BitVec.ofNat 32 identity.markValue →
        (∀ other ∈ earlier, other.takes env packet = false) → route env rules packet = .rejected
  guard_deletion : ∀ rest, deleteFirst (guardAttributes identity) rules = some rest →
    ∃ before rule after, rules = before ++ rule :: after ∧ rest = before ++ after ∧
      (guardAttributes identity).added = some rule
  lookup_deletion : ∀ table, isSafeTableToken table = true →
    ∀ rest, deleteFirst (lookupAttributes identity table) rules = some rest →
      ∃ before rule after, rules = before ++ rule :: after ∧ rest = before ++ after ∧
        (lookupAttributes identity table).added = some rule

theorem deleteFirst_eq_some {attributes rest} (h : deleteFirst attributes rules = some rest) :
    ∃ before rule after, rules = before ++ rule :: after ∧ rest = before ++ after ∧
      attributes.selects rule = true := by
  unfold deleteFirst at h
  split_ifs at h with hany
  obtain ⟨rule, hmem, hselects⟩ := any_eq_true.mp hany
  obtain ⟨found, before, after, -, hfound, hrules, herased⟩ := exists_of_eraseP hmem hselects
  cases h
  exact ⟨before, found, after, hrules, herased, hfound⟩

theorem ownedEffective_of_exact (hid : identity ∈ ns.candidates)
    (hexact : OwnedExact identity rules) : OwnedEffective identity rules := by
  constructor
  · intro hany
    obtain ⟨guard, hmem, howned⟩ := any_eq_true.mp hany
    obtain ⟨earlier, later, hrules⟩ := append_of_mem hmem
    have hadded := hexact.guard guard hmem howned
    refine ⟨earlier, guard, later, hrules, ?_⟩
    intro ω env packet hmark hearl
    rw [hrules]
    refine route_rejects env hearl (added_eq_some_iff.mp hadded).2.2.2.2.2.2.1 ?_ later
    rw [guard_matches hid hadded, hmark]
    exact beq_self_eq_true _
  · intro rest hdel
    obtain ⟨before, rule, after, hrules, hrest, hselects⟩ := deleteFirst_eq_some hdel
    have hmem : rule ∈ rules := by rw [hrules]; simp
    exact ⟨before, rule, after, hrules, hrest,
      hexact.guard rule hmem (ownedGuard_of_selects hid hselects)⟩
  · intro table hsafe rest hdel
    obtain ⟨before, rule, after, hrules, hrest, hselects⟩ := deleteFirst_eq_some hdel
    have hmem : rule ∈ rules := by rw [hrules]; simp
    obtain ⟨word, howned⟩ := ownedLookup_of_selects hid hsafe hselects
    have hadded := hexact.lookup rule hmem word howned
    have hactn : rule.action = .lookup word := (added_eq_some_iff.mp hadded).2.2.2.2.2.2.1
    have hsel : rule.action = .lookup table := by
      simp only [selects, lookupAttributes, Bool.and_eq_true, beq_iff_eq] at hselects
      exact hselects.2
    cases hactn.symm.trans hsel
    exact ⟨before, rule, after, hrules, hrest, hadded⟩

/-- The recognition is exact for the rules of a family exactly when every recognised line
consists of the product's tokens only. Then the guard rejects every marked packet that no
earlier rule takes, and every deletion removes a rule the product installs. -/
theorem owned_rules_exact_iff (hid : identity ∈ ns.candidates) (rules : List RpdbRule) :
    (OwnedExact identity rules ↔ OwnedPlain identity rules) ∧
      (OwnedPlain identity rules → OwnedEffective identity rules) :=
  ⟨ownedExact_iff_plain hid,
    fun hplain => ownedEffective_of_exact hid ((ownedExact_iff_plain hid).mpr hplain)⟩

/-- The first identity of the release product. -/
theorem owned_rules_exact_iff_release :
    let identity : PolicyIdentity := ⟨"0x200000".toList, 0x200000, 9500, 9501⟩
    identity ∈ release.candidates ∧
      ∀ rules, (OwnedExact identity rules ↔ OwnedPlain identity rules) ∧
        (OwnedPlain identity rules → OwnedEffective identity rules) := by
  intro identity
  have hid : identity ∈ release.candidates := by decide
  exact ⟨hid, owned_rules_exact_iff hid⟩

/-- `9501: not from all fwmark 0x200000/0x200000 unreachable`. -/
def invertedGuard : RpdbRule where
  priority := 9501
  inverted := true
  source := none
  before := []
  fwmark := some "0x200000/0x200000".toList
  after := []
  action := .unreachable
  modifiers := []
  priority_le := by decide
  source_ne := ne_of_source_none
  before_ne := ne_of_mem_nil
  fwmark_word := by
    intro spec hspec
    cases hspec
    decide
  action_words := by decide

/-- The inverted guard is recognised as the product's, is not the rule the product
installs, and does not match a packet with the mark. -/
theorem guard_recognised_inverted :
    let identity : PolicyIdentity := ⟨"0x200000".toList, 0x200000, 9500, 9501⟩
    let env : RoutingEnvironment Unit :=
      ⟨fun _ _ => true, fun _ _ _ => true, fun _ _ => true⟩
    identity ∈ release.candidates ∧
      lineIsOwnedGuardFor invertedGuard.line identity = true ∧
      (guardAttributes identity).added ≠ some invertedGuard ∧
      invertedGuard.matchesPacket env ⟨BitVec.ofNat 32 identity.markValue, ()⟩ = false := by
  decide

end MishProxy.Cellular
