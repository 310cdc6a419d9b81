import MishProxy.Netfilter.Mark
import MishProxy.Cellular.Audit

/-!
# The meaning of a mangle rule

A rule of a listing is a token list `-A chain matches target options`. This file gives the packets
it matches and what its target does, with netfilter's meaning of MARK, CONNMARK and the mark tests.
Everything else a foreign rule may hold (protocols, ports, sets) is left to an environment that
sees the rule and the packet but not its marks; the marks it sees only where another target changes
them.

* `arguments` reads a quotation as one argument; the audit of the code looks at all tokens alike.
* `ruleMatches` evaluates the tests in front of the target. Owner, loopback destination, connection
  state NEW and the two mark tests have their own meaning.
* `ruleAction` is the action in the options behind the target MARK or CONNMARK, and `ruleMarks` its
  effect on the marks.
-/

namespace MishProxy.Netfilter

open Text Cellular

/-- What the tests see of a packet besides its marks. `detail` stands for everything
the foreign tests look at. -/
structure Flow (ω : Type) where
  uid : Nat
  loopback : Bool
  isNew : Bool
  detail : ω

inductive Test where
  | owner (raw : Text)
  | destination (raw : Text)
  | ctstate (raw : Text)
  | mark (connection : Bool) (spec : Text)
  | other (token : Text)
  deriving DecidableEq

structure RuleTest where
  negated : Bool
  test : Test
  deriving DecidableEq

/-- What an unknown target does with a packet. -/
inductive Verdict where
  | proceed
  | accept
  | drop
  deriving DecidableEq

/-- The meaning of the tests and targets of other modules in a rule. -/
structure Environment (ω : Type) where
  holds : List Text → Test → Flow ω → Bool
  verdict : List Text → Flow ω → Verdict
  marks : List Text → Flow ω → Marks → Marks

/-! ## Arguments -/

inductive Quotation where
  | outside
  | inside
  | escaped
  deriving DecidableEq

namespace Quotation

def next : Quotation → Char → Quotation
  | outside, char => if char = '\x22' then inside else outside
  | inside, char => if char = '\x22' then outside else if char = '\x5c' then escaped else inside
  | escaped, _ => inside

/-- Where the token and the blank behind it lead. -/
def behind (quotation : Quotation) (token : Text) : Quotation :=
  (token ++ [' ']).foldl next quotation

theorem behind_outside {token : Text} (h : '\x22' ∉ token) : outside.behind token = outside := by
  have hout : ∀ text : Text, '\x22' ∉ text → text.foldl next outside = outside := by
    intro text htext
    induction text with
    | nil => rfl
    | cons char rest ih =>
      rw [List.mem_cons, not_or] at htext
      rw [List.foldl_cons, next, if_neg (Ne.symm htext.1), ih htext.2]
  refine hout _ ?_
  simpa using h

end Quotation

/-- The arguments of a rule: the tokens that do not start inside a quotation, so that a quoted
argument stands there with its first token. -/
def arguments : Quotation → List Text → List Text
  | _, [] => []
  | quotation, token :: rest =>
      if quotation = .outside then token :: arguments (quotation.behind token) rest
      else arguments (quotation.behind token) rest

section

variable {quotation : Quotation} {tokens : List Text}

theorem arguments_subset : arguments quotation tokens ⊆ tokens := by
  induction tokens generalizing quotation with
  | nil => exact List.Subset.refl _
  | cons token rest ih =>
    unfold arguments
    split
    · exact List.cons_subset_cons _ ih
    · exact List.subset_cons_of_subset _ ih

/-- What stands behind an unquoted argument is the token behind it. -/
theorem infix_of_arguments {first second : Text} (hfirst : '\x22' ∉ first)
    (h : [first, second] <:+: arguments quotation tokens) : [first, second] <:+: tokens := by
  induction tokens generalizing quotation with
  | nil => exact h
  | cons token rest ih =>
    rw [List.infix_cons_iff]
    unfold arguments at h
    split at h
    · rename_i hout
      rcases List.infix_cons_iff.mp h with hhere | hrest
      · left
        obtain ⟨rfl, hnext⟩ := List.cons_prefix_cons.mp hhere
        rw [hout, Quotation.behind_outside hfirst] at hnext
        cases rest with
        | nil => exact absurd hnext.length_le (by simp [arguments])
        | cons other rest =>
          rw [arguments, if_pos rfl] at hnext
          obtain ⟨rfl, -⟩ := List.cons_prefix_cons.mp hnext
          simp
      · exact .inr (ih hrest)
    · exact .inr (ih h)

theorem arguments_of_unquoted (h : ∀ token ∈ tokens, '\x22' ∉ token) :
    arguments .outside tokens = tokens := by
  induction tokens with
  | nil => rfl
  | cons token rest ih =>
    obtain ⟨htoken, hrest⟩ := List.forall_mem_cons.mp h
    rw [arguments, if_pos rfl, Quotation.behind_outside htoken, ih hrest]

end

/-! ## Tests -/

/-- The options in front of a target. -/
inductive TestOption where
  | target
  | negation
  | module
  | owner
  | destination
  | ctstate
  | mark
  | other
  deriving DecidableEq

def testOption (token : Text) : TestOption :=
  if isTargetOption token then .target
  else if token = "!".toList then .negation
  else if token = "-m".toList then .module
  else if token = "--uid-owner".toList then .owner
  else if token = "-d".toList then .destination
  else if token = "--ctstate".toList then .ctstate
  else if token = "--mark".toList then .mark
  else .other

/-- The tests of a rule, up to its target. The second flag says that the last module
named was `connmark`. -/
def ruleTests : Bool → Bool → List Text → List RuleTest
  | _, _, [] => []
  | negated, _, [token] => [⟨negated, .other token⟩]
  | negated, connection, token :: value :: rest =>
      match testOption token with
      | .target => []
      | .negation => ruleTests true connection (value :: rest)
      | .module => ruleTests false (value == "connmark".toList) rest
      | .owner => ⟨negated, .owner value⟩ :: ruleTests false connection rest
      | .destination => ⟨negated, .destination value⟩ :: ruleTests false connection rest
      | .ctstate => ⟨negated, .ctstate value⟩ :: ruleTests false connection rest
      | .mark => ⟨negated, .mark connection value⟩ :: ruleTests false connection rest
      | .other => ⟨negated, .other token⟩ :: ruleTests false connection (value :: rest)

/-- Whether a test of a rule holds; `holds` are the tests of other modules. -/
def testHolds {ω : Type} (holds : Test → Flow ω → Bool) (flow : Flow ω) (marks : Marks) :
    Test → Bool
  | .owner raw =>
      match parseU32 raw with
      | some uid => flow.uid == uid
      | none => holds (.owner raw) flow
  | .destination raw =>
      if raw = Family.ipv4.loopback ∨ raw = Family.ipv6.loopback then flow.loopback
      else holds (.destination raw) flow
  | .ctstate raw =>
      if raw = "NEW".toList then flow.isNew else holds (.ctstate raw) flow
  | .mark connection spec =>
      match parseMarkSpec spec with
      | some (value, mask) =>
          (if connection then marks.ct else marks.nf) &&& BitVec.ofNat 32 mask ==
            BitVec.ofNat 32 value
      | none => holds (.mark connection spec) flow
  | .other token => holds (.other token) flow

def RuleTest.passes {ω : Type} (holds : Test → Flow ω → Bool) (flow : Flow ω) (marks : Marks)
    (ruleTest : RuleTest) : Bool :=
  testHolds holds flow marks ruleTest.test != ruleTest.negated

def ruleMatches {ω : Type} (env : Environment ω) (tokens : List Text) (flow : Flow ω)
    (marks : Marks) : Bool :=
  (ruleTests false false (arguments .outside (tokens.drop 2))).all fun ruleTest =>
    ruleTest.passes (env.holds tokens) flow marks

/-! ## Targets -/

/-- The first target option, its target and the options of the target. -/
def targetPart (tokens : List Text) : List Text :=
  (arguments .outside tokens).dropWhile fun token => !isTargetOption token

/-- Whether the target is a goto, and what it names. -/
def ruleTarget (tokens : List Text) : Option (Bool × Text) :=
  match targetPart tokens with
  | option :: name :: _ => some (option == "-g".toList || option == "--goto".toList, name)
  | _ => none

def actionMask (options : List Text) (option : Text) : Mark :=
  BitVec.ofNat 32 ((optionMask options option).getD ipv4FullMask)

/-- The first mark action among the options; `all` are the options of the target. -/
def markAction (all : List Text) : List Text → Option MarkAction
  | [] => none
  | token :: rest =>
      if token = "--set-xmark".toList then
        (rest.head?.bind parseMarkSpec).map fun spec =>
          .setXmark (BitVec.ofNat 32 spec.1) (BitVec.ofNat 32 spec.2)
      else if token = "--set-mark".toList then
        (rest.head?.bind parseMarkSpec).map fun spec =>
          .setMark (BitVec.ofNat 32 spec.1) (BitVec.ofNat 32 spec.2)
      else if token = "--and-mark".toList then
        (rest.head?.bind parseUnsigned).map fun bits => .andMark (BitVec.ofNat 32 bits)
      else if token = "--or-mark".toList then
        (rest.head?.bind parseUnsigned).map fun bits => .orMark (BitVec.ofNat 32 bits)
      else if token = "--xor-mark".toList then
        (rest.head?.bind parseUnsigned).map fun bits => .xorMark (BitVec.ofNat 32 bits)
      else if token = "--save-mark".toList then
        some (.saveMark (actionMask all "--nfmask".toList) (actionMask all "--ctmask".toList))
      else if token = "--restore-mark".toList then
        some (.restoreMark (actionMask all "--nfmask".toList) (actionMask all "--ctmask".toList))
      else markAction all rest

/-- The action of a MARK or CONNMARK rule, and whether it is CONNMARK. -/
def ruleAction (tokens : List Text) : Option (Bool × MarkAction) :=
  let options := (targetPart tokens).drop 2
  match ruleTarget tokens with
  | some (_, name) =>
      if name = "MARK".toList then (markAction options options).map (false, ·)
      else if name = "CONNMARK".toList then (markAction options options).map (true, ·)
      else none
  | none => none

/-- The effect of the action of a matching rule on the marks. -/
def ruleMarks (tokens : List Text) (marks : Marks) : Marks :=
  match ruleAction tokens with
  | some (connection, action) => action.apply connection marks
  | none => marks

/-! ## Touching a mark bit -/

/-- Some packet matches the rule. -/
def Matchable (tokens : List Text) : Prop :=
  ∃ (ω : Type) (env : Environment ω) (flow : Flow ω) (marks : Marks),
    ruleMatches env tokens flow marks = true

/-- Some packet matches the rule and leaves it with another value of the bit, in its
own mark or in the mark of its connection. -/
def ChangesBit (bit : Nat) (tokens : List Text) : Prop :=
  ∃ (ω : Type) (env : Environment ω) (flow : Flow ω) (marks : Marks),
    ruleMatches env tokens flow marks = true ∧ ¬ SameBit bit (ruleMarks tokens marks) marks

/-- Whether some packet matches the rule depends on the bit. -/
def TestsBit (bit : Nat) (tokens : List Text) : Prop :=
  ∃ (ω : Type) (env : Environment ω) (flow : Flow ω) (marks marks' : Marks),
    SameElsewhere bit marks marks' ∧
      ruleMatches env tokens flow marks ≠ ruleMatches env tokens flow marks'

theorem markAction_of_ruleAction {toks connection act}
    (h : ruleAction toks = some (connection, act)) :
    markAction ((targetPart toks).drop 2) ((targetPart toks).drop 2) = some act := by
  unfold ruleAction at h
  simp only at h
  split at h
  · split_ifs at h
    all_goals
      obtain ⟨action, haction, heq⟩ := Option.map_eq_some_iff.mp h
      cases heq
      exact haction
  · cases h

end MishProxy.Netfilter
