import MishProxy.Cellular.Identity
import MishProxy.Netfilter.Mark

/-!
# Rules of the routing policy database

A rule of the RPDB has a priority, selectors (possibly inverted as a whole) and an
action. This file gives the line `ip rule show` prints for a rule, the packets it
matches, the walk of a packet through the rules, and how the kernel adds and deletes
rules.

* `splitWhitespace_line`, `rpdbPriority_line`: the tokens and the priority of a printed
  line are those of the rule.
* `route_rejects`: a packet that no rule in front of a rejecting rule takes is rejected
  there.
* A deletion names a priority, a mark and an action. The kernel removes the first rule
  with these attributes and compares nothing else (`deleteFirst`).
-/

namespace MishProxy.Routing

open Text Cellular Netfilter List

abbrev Word := { text : Text // IsWord text }

inductive SelectorKind where
  | destination
  | tos
  | iif
  | oif
  | uidrange
  | ipproto
  | sport
  | dport
  | tunId
  | suppressPrefixlength
  | suppressIfgroup
  | realms
  | proto
  deriving DecidableEq, Repr

def SelectorKind.keyword : SelectorKind → Text
  | destination => "to".toList
  | tos => "tos".toList
  | iif => "iif".toList
  | oif => "oif".toList
  | uidrange => "uidrange".toList
  | ipproto => "ipproto".toList
  | sport => "sport".toList
  | dport => "dport".toList
  | tunId => "tun_id".toList
  | suppressPrefixlength => "suppress_prefixlength".toList
  | suppressIfgroup => "suppress_ifgroup".toList
  | realms => "realms".toList
  | proto => "proto".toList

structure Selector where
  kind : SelectorKind
  value : Word
  deriving DecidableEq

def Selector.tokens (selector : Selector) : List Text := [selector.kind.keyword, selector.value.1]

inductive RpdbAction where
  | lookup (table : Text)
  | unreachable
  | prohibit
  | blackhole
  | nop
  | goto (target : Nat)
  deriving DecidableEq

def RpdbAction.tokens : RpdbAction → List Text
  | lookup table => ["lookup".toList, table]
  | unreachable => ["unreachable".toList]
  | prohibit => ["prohibit".toList]
  | blackhole => ["blackhole".toList]
  | nop => ["nop".toList]
  | goto target => ["goto".toList, decimal target]

/-- The word that starts the action. -/
def RpdbAction.word : RpdbAction → Text
  | lookup _ => "lookup".toList
  | unreachable => "unreachable".toList
  | prohibit => "prohibit".toList
  | blackhole => "blackhole".toList
  | nop => "nop".toList
  | goto _ => "goto".toList

theorem RpdbAction.tokens_cons (act : RpdbAction) : ∃ rest, act.tokens = act.word :: rest := by
  cases act <;> exact ⟨_, rfl⟩

theorem ne_of_source_none (word : Word) (h : none = some word) :
    word.1 ≠ "all".toList ∧ word.1 ≠ "fwmark".toList := by
  cases h

theorem ne_of_mem_nil (selector : Selector) (h : selector ∈ []) :
    selector.value.1 ≠ "fwmark".toList := by
  cases h

/-- A rule in the order in which its parts are printed. The source and the selectors in
front of the mark are addresses and numbers, never the word that announces the mark. -/
structure RpdbRule where
  priority : Nat
  inverted : Bool
  source : Option Word
  before : List Selector
  fwmark : Option Text
  after : List Selector
  action : RpdbAction
  modifiers : List Selector
  priority_le : priority ≤ u32Max
  source_ne : ∀ word, source = some word →
    word.1 ≠ "all".toList ∧ word.1 ≠ "fwmark".toList
  before_ne : ∀ selector ∈ before, selector.value.1 ≠ "fwmark".toList
  fwmark_word : ∀ spec, fwmark = some spec → IsWord spec
  action_words : ∀ token ∈ action.tokens, IsWord token
  deriving DecidableEq

namespace RpdbRule

variable (rule : RpdbRule)

def sourceText : Text :=
  match rule.source with
  | none => "all".toList
  | some word => word.1

def fwmarkTokens : List Text :=
  match rule.fwmark with
  | none => []
  | some spec => ["fwmark".toList, spec]

/-- Everything behind the source. -/
def restTokens : List Text :=
  rule.before.flatMap Selector.tokens ++ rule.fwmarkTokens ++
    rule.after.flatMap Selector.tokens ++ rule.action.tokens ++
    rule.modifiers.flatMap Selector.tokens

def bodyTokens : List Text :=
  (if rule.inverted then ["not".toList] else []) ++ "from".toList :: rule.sourceText ::
    rule.restTokens

def priorityToken : Text := decimal rule.priority ++ [':']

def tokens : List Text := rule.priorityToken :: rule.bodyTokens

/-- The line of `ip rule show`: a tab separates the priority from the rest. -/
def line : Text := rule.priorityToken ++ '\t' :: joinTokens rule.bodyTokens

/-! ## Tokens of the line -/

theorem isWord_keyword (kind : SelectorKind) : IsWord kind.keyword := by
  cases kind <;> decide

theorem isWord_of_mem_selectors {selectors : List Selector} {token : Text}
    (h : token ∈ selectors.flatMap Selector.tokens) : IsWord token := by
  obtain ⟨selector, -, htoken⟩ := mem_flatMap.mp h
  simp only [Selector.tokens, mem_cons, not_mem_nil, or_false] at htoken
  rcases htoken with rfl | rfl
  · exact isWord_keyword selector.kind
  · exact selector.value.2

theorem isWord_sourceText : IsWord rule.sourceText := by
  unfold sourceText
  cases rule.source with
  | none => decide
  | some word => exact word.2

theorem isWord_of_mem_body {token : Text} (h : token ∈ rule.bodyTokens) : IsWord token := by
  simp only [bodyTokens, restTokens, mem_append, mem_cons] at h
  rcases h with h | rfl | rfl | (((h | h) | h) | h) | h
  · split at h
    · rw [mem_singleton.mp h]
      decide
    · cases h
  · decide
  · exact rule.isWord_sourceText
  · exact isWord_of_mem_selectors h
  · unfold fwmarkTokens at h
    split at h
    · cases h
    · rename_i spec hspec
      simp only [mem_cons, not_mem_nil, or_false] at h
      rcases h with rfl | rfl
      · decide
      · exact rule.fwmark_word token hspec
  · exact isWord_of_mem_selectors h
  · exact rule.action_words token h
  · exact isWord_of_mem_selectors h

theorem isWord_priorityToken : IsWord rule.priorityToken := by
  refine isWord_append (isWord_decimal rule.priority) ?_
  intro c hc
  rw [mem_singleton.mp hc]
  rfl

theorem splitWhitespace_line : splitWhitespace rule.line = rule.tokens := by
  rw [line, splitWhitespace_append (by decide), splitWhitespace_word rule.isWord_priorityToken,
    splitWhitespace_joinTokens fun token => rule.isWord_of_mem_body, tokens]
  rfl

/-- The line starts with a digit and ends with the last character of a word. -/
theorem trim_line : trim rule.line = rule.line := by
  have hprio := rule.isWord_priorityToken
  apply trim_eq_self
  · intro c hc
    refine hprio.2 c (mem_of_mem_head? ?_)
    rwa [line, head?_append_of_ne_nil _ hprio.1] at hc
  · intro c hc
    have hbody : joinTokens rule.bodyTokens ≠ [] := by
      intro hnil
      have hsplit : splitWhitespace (joinTokens rule.bodyTokens) = rule.bodyTokens :=
        splitWhitespace_joinTokens fun token => rule.isWord_of_mem_body
      rw [hnil, splitWhitespace_nil] at hsplit
      simp [bodyTokens] at hsplit
    refine getLast?_joinTokens (fun token => rule.isWord_of_mem_body) ?_
    rw [line, getLast?_append, getLast?_cons] at hc
    rw [getLast?_eq_some_getLast hbody] at hc ⊢
    simpa using hc

theorem isRow_line : IsRow rule.line := by
  refine ⟨?_, rule.trim_line, ?_⟩
  · unfold line
    simp
  · rintro c hc rfl
    rw [line, mem_append, mem_cons] at hc
    rcases hc with hc | hc | hc
    · exact absurd (rule.isWord_priorityToken.2 _ hc) (by decide)
    · exact absurd hc (by decide)
    · rcases isWhitespace_of_mem_joinTokens (fun _ => rule.isWord_of_mem_body) hc with h | h
      · exact absurd h (by decide)
      · exact absurd h (by decide)

theorem rpdbPriority_line : rpdbPriority rule.line = some rule.priority := by
  have hdigits : ∀ c ∈ decimal rule.priority, c.isDigit = true := fun c hc =>
    Nat.isDigit_of_mem_toDigits (by decide) (by decide) hc
  have hcolon : ∀ c ∈ decimal rule.priority, c ≠ ':' := by
    rintro c hc rfl
    exact absurd (hdigits ':' hc) (by decide)
  have hline :
      rule.line = decimal rule.priority ++ ':' :: ('\t' :: joinTokens rule.bodyTokens) := by
    simp [line, priorityToken]
  rw [rpdbPriority, rule.trim_line, hline, splitOnce_append hcolon, Option.bind_some, parseU32,
    parseRadix_decimal rule.priority_le]

end RpdbRule

/-! ## Matching and routing -/

/-- What the selectors see of a packet. `detail` stands for everything but the mark. -/
structure RoutedPacket (ω : Type) where
  mark : Mark
  detail : ω

/-- The meaning of the selectors other than the mark, and the tables that have a route
for a packet. -/
structure RoutingEnvironment (ω : Type) where
  sourceMatches : Text → ω → Bool
  selectorMatches : SelectorKind → Text → ω → Bool
  hasRoute : Text → ω → Bool

namespace RpdbRule

variable {ω : Type} (env : RoutingEnvironment ω) (rule : RpdbRule) (packet : RoutedPacket ω)

def markMatches : Bool :=
  match rule.fwmark with
  | none => true
  | some spec =>
      match parseMarkSpec spec with
      | some (value, mask) => packet.mark &&& BitVec.ofNat 32 mask == BitVec.ofNat 32 value
      | none => false

def selectorsMatch : Bool :=
  (match rule.source with
    | none => true
    | some source => env.sourceMatches source.1 packet.detail) &&
  (rule.before ++ rule.after).all fun selector =>
    env.selectorMatches selector.kind selector.value.1 packet.detail

def matchesPacket : Bool :=
  (rule.selectorsMatch env packet && rule.markMatches packet) != rule.inverted

/-- The rule ends the walk of the packet through the rules, or sends it past the next
ones. -/
def takes : Bool :=
  rule.matchesPacket env packet &&
    match rule.action with
    | .lookup table => env.hasRoute table packet.detail
    | .nop => false
    | _ => true

end RpdbRule

inductive RouteOutcome where
  | routed (table : Text)
  | rejected
  | unrouted
  deriving DecidableEq

section

variable {ω : Type} (env : RoutingEnvironment ω)

/-- The walk of a packet through the rules; `skip` is the priority a goto leads to. -/
def routeFrom (packet : RoutedPacket ω) : Nat → List RpdbRule → RouteOutcome
  | _, [] => .unrouted
  | skip, rule :: rest =>
      if rule.priority < skip then routeFrom packet skip rest
      else if rule.matchesPacket env packet then
        match rule.action with
        | .lookup table =>
            if env.hasRoute table packet.detail then .routed table
            else routeFrom packet skip rest
        | .nop => routeFrom packet skip rest
        | .goto target => routeFrom packet target rest
        | .unreachable => .rejected
        | .prohibit => .rejected
        | .blackhole => .rejected
      else routeFrom packet skip rest

def route (rules : List RpdbRule) (packet : RoutedPacket ω) : RouteOutcome :=
  routeFrom env packet 0 rules

theorem route_cons_of_not_takes {rule packet} (h : rule.takes env packet = false) (rest) :
    route env (rule :: rest) packet = route env rest packet := by
  unfold route
  rw [routeFrom, if_neg (Nat.not_lt_zero _)]
  unfold RpdbRule.takes at h
  by_cases hmatch : rule.matchesPacket env packet = true
  · rw [if_pos hmatch]
    rw [hmatch, Bool.true_and] at h
    cases hactn : rule.action with
    | lookup tbl =>
      rw [hactn] at h
      simp only at h
      simp only [h, Bool.false_eq_true, if_false]
    | nop => rfl
    | goto tgt | unreachable | prohibit | blackhole => rw [hactn] at h; cases h
  · rw [if_neg hmatch]

theorem route_rejects {earlier rule packet}
    (hearl : ∀ other ∈ earlier, other.takes env packet = false)
    (hactn : rule.action = .unreachable) (hmatch : rule.matchesPacket env packet = true)
    (later) : route env (earlier ++ rule :: later) packet = .rejected := by
  induction earlier with
  | nil => rw [nil_append, route, routeFrom, if_neg (Nat.not_lt_zero _), if_pos hmatch, hactn]
  | cons other rest ih =>
    obtain ⟨hoth, hrest⟩ := forall_mem_cons.mp hearl
    rw [cons_append, route_cons_of_not_takes env hoth, ih hrest]

end

/-! ## Adding and deleting rules -/

/-- The attributes a command names. -/
structure RuleAttributes where
  priority : Nat
  fwmark : Text
  action : RpdbAction
  deriving DecidableEq

/-- The rule an addition with these attributes installs: it has no other selector. An
attribute that is no word or no 32-bit number is refused. -/
def RuleAttributes.added (attributes : RuleAttributes) : Option RpdbRule :=
  if h : attributes.priority ≤ u32Max ∧ IsWord attributes.fwmark ∧
      ∀ token ∈ attributes.action.tokens, IsWord token then
    some
      { priority := attributes.priority
        inverted := false
        source := none
        before := []
        fwmark := some attributes.fwmark
        after := []
        action := attributes.action
        modifiers := []
        priority_le := h.1
        source_ne := ne_of_source_none
        before_ne := ne_of_mem_nil
        fwmark_word := by
          intro spec hspec
          cases hspec
          exact h.2.1
        action_words := h.2.2 }
  else none

/-- The kernel compares the attributes the deletion names and no others. -/
def RuleAttributes.selects (attributes : RuleAttributes) (rule : RpdbRule) : Bool :=
  rule.priority == attributes.priority &&
    rule.fwmark == some attributes.fwmark && rule.action == attributes.action

/-- A new rule goes behind the rules of its own and of lower priorities. -/
def insertRule (rule : RpdbRule) : List RpdbRule → List RpdbRule
  | [] => [rule]
  | other :: rest =>
      if other.priority ≤ rule.priority then other :: insertRule rule rest
      else rule :: other :: rest

/-- The rules without the first one the attributes select; none when there is none. -/
def deleteFirst (attributes : RuleAttributes) (rules : List RpdbRule) : Option (List RpdbRule) :=
  if rules.any attributes.selects then some (rules.eraseP attributes.selects) else none

theorem perm_insertRule (rule rules) : (insertRule rule rules).Perm (rule :: rules) := by
  induction rules with
  | nil => exact Perm.refl _
  | cons first rest ih =>
    unfold insertRule
    split
    · exact (ih.cons first).trans (Perm.swap rule first rest)
    · exact Perm.refl _

theorem mem_insertRule {rule other rules} :
    other ∈ insertRule rule rules ↔ other = rule ∨ other ∈ rules := by
  rw [(perm_insertRule rule rules).mem_iff, mem_cons]

end MishProxy.Routing
