import MishProxy.Cellular.AuditWalk
import MishProxy.Cellular.Contract
import MishProxy.Netfilter.Rule

/-!
# What a clean audit says about packets

The audit compares the masks of a rule with the candidate mark. `TokensClean` is what it
has checked of the tokens of a rule it found clean. From it:

* no test of the rule reads the reserved bit (`not_testsBit_of_clean`);
* the mask of a set action leaves the bit out (`maskAvoids_of_clean`).

Two things the audit does not see. The value of `--set-xmark` and `--set-mark` may reach
outside the mask. And the masks of `--save-mark` and `--restore-mark` it takes from
anywhere in the line, a quoted comment included, so the copy itself may be without one.
`audit_clean_untouched_iff` says that these are the only ways in which a foreign rule of a
clean listing can still touch the bit.
-/

namespace MishProxy.Cellular

open Text Netfilter List

/-! ## The tokens of a clean rule -/

/-- What the audit has checked of the tokens of a rule. -/
structure TokensClean (candidateMark : Nat) (tokens : List Text) : Prop where
  spec : ∀ token spec, [token, spec] <:+: tokens → markToken token = .spec →
    ∃ value mask, parseMarkSpec spec = some (value, mask) ∧ mask &&& candidateMark = 0
  masked : ∀ token ∈ tokens, markToken token ≠ .unmasked

variable {cmark : Nat}

theorem markSpecTouches_eq_false {spec : Text} (h : markSpecTouches spec cmark = some false) :
    ∃ value mask, parseMarkSpec spec = some (value, mask) ∧ mask &&& cmark = 0 := by
  unfold markSpecTouches at h
  cases hparse : parseMarkSpec spec with
  | none =>
    rw [hparse] at h
    cases h
  | some parts =>
    rw [hparse] at h
    exact ⟨parts.1, parts.2, rfl, by simpa using h⟩

variable {all tokens : List Text}

/-- The scan continues behind a clean token only. -/
theorem auditMarkTokens_cons {scan token rest}
    (h : auditMarkTokens all cmark scan (token :: rest) = .clean) :
    (markToken token = .spec → ∃ spec value mask, rest.head? = some spec ∧
        parseMarkSpec spec = some (value, mask) ∧ mask &&& cmark = 0) ∧
      markToken token ≠ .unmasked ∧ ∃ scan', auditMarkTokens all cmark scan' rest = .clean := by
  unfold auditMarkTokens at h
  cases hkind : markToken token with
  | target =>
    simp only [hkind] at h
    split at h
    · cases h
    · exact ⟨by simp, by simp, _, h⟩
  | spec =>
    simp only [hkind] at h
    split at h
    · cases h
    · rename_i htouch
      obtain ⟨spec, hhead, htouch⟩ := Option.bind_eq_some_iff.mp htouch
      obtain ⟨value, mask, hparse, hmask⟩ := markSpecTouches_eq_false htouch
      exact ⟨fun _ => ⟨spec, value, mask, hhead, hparse, hmask⟩, by simp, _, h⟩
    · cases h
  | mask =>
    simp only [hkind] at h
    split at h
    · cases h
    · split_ifs at h
      exact ⟨by simp, by simp, _, h⟩
  | copy =>
    simp only [hkind] at h
    split_ifs at h
    exact ⟨by simp, by simp, _, h⟩
  | unmasked =>
    simp only [hkind] at h
    cases h
  | other =>
    simp only [hkind] at h
    exact ⟨by simp, by simp, _, h⟩

theorem tokensClean_of_clean {scan} (h : auditMarkTokens all cmark scan tokens = .clean) :
    TokensClean cmark tokens := by
  induction tokens generalizing scan with
  | nil => exact ⟨fun token spec hinside => by simp at hinside, by simp⟩
  | cons token rest ih =>
    obtain ⟨hspec, hmasked, scan', hrest⟩ := auditMarkTokens_cons h
    refine ⟨fun first second hinside hkind => ?_, forall_mem_cons.mpr ⟨hmasked, (ih hrest).masked⟩⟩
    rcases infix_cons_iff.mp hinside with hhere | hinside
    · obtain ⟨rfl, hnext⟩ := cons_prefix_cons.mp hhere
      obtain ⟨spec, value, mask, hhead, hparse⟩ := hspec hkind
      obtain ⟨tail, rfl⟩ := head?_eq_some_iff.mp hhead
      obtain ⟨rfl, -⟩ := cons_prefix_cons.mp hnext
      exact ⟨value, mask, hparse⟩
    · exact (ih hrest).spec first second hinside hkind

namespace TokensClean

variable (h : TokensClean cmark tokens)
include h

theorem mono {part} (hpart : part <:+: tokens) : TokensClean cmark part :=
  ⟨fun token spec hinside => h.spec token spec (hinside.trans hpart),
    fun token hmem => h.masked token (hpart.subset hmem)⟩

/-- The options of mark operations are not quoted, so the audit has seen what stands behind
them as an argument. -/
theorem arguments : TokensClean cmark (arguments .outside tokens) := by
  refine ⟨fun token spec hinside hkind => ?_,
    fun token hmem => h.masked token (arguments_subset hmem)⟩
  refine h.spec token spec (infix_of_arguments ?_ hinside) hkind
  unfold markToken at hkind
  split_ifs at hkind with _ hspec
  rcases hspec with rfl | rfl | rfl <;> decide

end TokensClean

theorem TokensClean.tail {token} (h : TokensClean cmark (token :: tokens)) :
    TokensClean cmark tokens := h.mono (suffix_cons _ _).isInfix

/-! ## Tests -/

theorem markToken_of_testOption_mark {token : Text} (h : testOption token = .mark) :
    markToken token = .spec := by
  have htoken : token = "--mark".toList := by
    unfold testOption at h
    split_ifs at h
    assumption
  rw [htoken]
  decide

theorem mark_test_mask (h : TokensClean cmark tokens) {negated connection ruleTest}
    (hmem : ruleTest ∈ ruleTests negated connection tokens) {isConnection spec}
    (htest : ruleTest.test = .mark isConnection spec) :
    ∃ value mask, parseMarkSpec spec = some (value, mask) ∧ mask &&& cmark = 0 := by
  induction negated, connection, tokens using ruleTests.induct with
  | case1 => cases hmem
  | case2 =>
    simp only [ruleTests, mem_singleton] at hmem
    rw [hmem] at htest
    cases htest
  | case3 negated connection token value rest hkind =>
    simp only [ruleTests, hkind, not_mem_nil] at hmem
  | case4 negated connection token value rest hkind ih =>
    simp only [ruleTests, hkind] at hmem
    exact ih h.tail hmem
  | case5 negated connection token value rest hkind ih =>
    simp only [ruleTests, hkind] at hmem
    exact ih h.tail.tail hmem
  | case6 negated connection token value rest hkind ih
  | case7 negated connection token value rest hkind ih
  | case8 negated connection token value rest hkind ih =>
    simp only [ruleTests, hkind, mem_cons] at hmem
    rcases hmem with rfl | hmem
    · cases htest
    · exact ih h.tail.tail hmem
  | case9 negated connection token value rest hkind ih =>
    simp only [ruleTests, hkind, mem_cons] at hmem
    rcases hmem with rfl | hmem
    · cases htest
      exact h.spec token _ ⟨[], rest, rfl⟩ (markToken_of_testOption_mark hkind)
    · exact ih h.tail.tail hmem
  | case10 negated connection token value rest hkind ih =>
    simp only [ruleTests, hkind, mem_cons] at hmem
    rcases hmem with rfl | hmem
    · cases htest
    · exact ih h.tail hmem

variable {bit : Nat}

theorem testHolds_congr {ω marks marks'} (hmarks : SameElsewhere bit marks marks') {test : Test}
    (htest : ∀ connection spec, test = .mark connection spec →
      ∃ value mask, parseMarkSpec spec = some (value, mask) ∧ mask &&& 2 ^ bit = 0)
    (holds : Test → Flow ω → Bool) (flow : Flow ω) :
    testHolds holds flow marks test = testHolds holds flow marks' test := by
  cases test with
  | mark connection spec =>
    obtain ⟨value, mask, hparse, hmask⟩ := htest connection spec rfl
    have hbit := getLsbD_ofNat_of_and_twoPow hmask
    have hct := and_mask_congr hmarks.ct hbit
    have hnf := and_mask_congr hmarks.nf hbit
    simp only [testHolds, hparse]
    cases connection <;> simp [hct, hnf]
  | owner raw | destination raw | ctstate raw | other token => rfl

theorem ruleMatches_congr {ω : Type} (hclean : auditMarkSemantics tokens (2 ^ bit) = .clean)
    {marks marks'} (hmarks : SameElsewhere bit marks marks') (env : Environment ω)
    (flow : Flow ω) : ruleMatches env tokens flow marks = ruleMatches env tokens flow marks' := by
  have htok := ((tokensClean_of_clean hclean).mono (drop_suffix 2 tokens).isInfix).arguments
  unfold ruleMatches
  rw [Bool.eq_iff_iff, all_eq_true, all_eq_true]
  refine forall₂_congr fun ruleTest hmem => ?_
  have hsame := testHolds_congr hmarks
    (fun connection spec htest => mark_test_mask htok hmem htest) (env.holds tokens) flow
  simp only [RuleTest.passes, hsame]

theorem not_testsBit_of_clean (hclean : auditMarkSemantics tokens (2 ^ bit) = .clean) :
    ¬ TestsBit bit tokens := by
  rintro ⟨ω, env, flow, marks, marks', hmarks, hne⟩
  exact hne (ruleMatches_congr hclean hmarks env flow)

/-! ## Actions -/

variable {action : MarkAction}

theorem markAction_maskAvoids (h : TokensClean (2 ^ bit) tokens)
    (hactn : markAction all tokens = some action) : action.MaskAvoids bit := by
  induction tokens with
  | nil => cases hactn
  | cons token rest ih =>
    have hspec : ∀ make : Nat × Nat → MarkAction, markToken token = .spec →
        (rest.head?.bind parseMarkSpec).map make = some action →
        ∃ value mask, action = make (value, mask) ∧ mask &&& 2 ^ bit = 0 := by
      intro make hkind hsome
      obtain ⟨parts, hparts, rfl⟩ := Option.map_eq_some_iff.mp hsome
      obtain ⟨spec, hhead, hparse⟩ := Option.bind_eq_some_iff.mp hparts
      obtain ⟨tail, rfl⟩ := head?_eq_some_iff.mp hhead
      obtain ⟨value, mask, hparse', hmask⟩ := h.spec token spec ⟨[], tail, rfl⟩ hkind
      rw [hparse] at hparse'
      cases hparse'
      exact ⟨value, mask, rfl, hmask⟩
    have hmasked := h.masked token (.head _)
    unfold markAction at hactn
    split_ifs at hactn with h₁ h₂ h₃ h₄ h₅ h₆ h₇
    · obtain ⟨value, mask, rfl, hmask⟩ := hspec _ (by rw [h₁]; decide) hactn
      exact getLsbD_ofNat_of_and_twoPow hmask
    · obtain ⟨value, mask, rfl, hmask⟩ := hspec _ (by rw [h₂]; decide) hactn
      exact getLsbD_ofNat_of_and_twoPow hmask
    · exact absurd (by rw [h₃]; decide) hmasked
    · exact absurd (by rw [h₄]; decide) hmasked
    · exact absurd (by rw [h₅]; decide) hmasked
    · cases hactn
      trivial
    · cases hactn
      trivial
    · exact ih h.tail hactn

theorem maskAvoids_of_clean (hclean : auditMarkSemantics tokens (2 ^ bit) = .clean) {connection}
    (hactn : ruleAction tokens = some (connection, action)) : action.MaskAvoids bit := by
  have hoptions : (targetPart tokens).drop 2 <:+: arguments .outside tokens :=
    ((drop_suffix _ _).trans (dropWhile_suffix _)).isInfix
  exact markAction_maskAvoids ((tokensClean_of_clean hclean).arguments.mono hoptions)
    (markAction_of_ruleAction hactn)

theorem ruleMarks_keeps (hbit : bit < 32) (hclean : auditMarkSemantics tokens (2 ^ bit) = .clean)
    (htouch : ∀ connection action, ruleAction tokens = some (connection, action) →
      action.touchesBit connection bit = false)
    (marks) : SameBit bit (ruleMarks tokens marks) marks := by
  unfold ruleMarks
  split
  · rename_i connection action hactn
    exact action.apply_keeps hbit (maskAvoids_of_clean hclean hactn)
      (htouch connection action hactn) marks
  · exact sameBit_refl bit marks

/-! ## Reachable foreign rules -/

theorem chainTargetFrom_some {chain : Text} (h : chainTargetFrom (some chain) tokens ≠ .malformed) :
    chainTargetFrom (some chain) tokens = .named chain := by
  induction tokens with
  | nil => rfl
  | cons token rest ih =>
    unfold chainTargetFrom at h ⊢
    split_ifs at h ⊢ with hoption
    · split at h
      · exact absurd rfl h
      · rename_i candidate hhead
        split_ifs at h ⊢ with hdash
        · exact absurd rfl h
        · by_cases heq : chain = candidate
          · subst heq
            simp only [ne_eq, not_true_eq_false, if_false] at h ⊢
            exact ih h
          · exact absurd (by simp only [ne_eq, heq, not_false_eq_true, if_true]) h
    · exact ih h

theorem chainTargetFrom_of_infix {start : Option Text}
    (h : chainTargetFrom start tokens ≠ .malformed) {option name : Text}
    (hinside : [option, name] <:+: tokens) (hoption : isTargetOption option = true) :
    chainTargetFrom start tokens = .named name := by
  induction tokens generalizing start with
  | nil => simp at hinside
  | cons token rest ih =>
    unfold chainTargetFrom at h ⊢
    rcases infix_cons_iff.mp hinside with hhere | hrest
    · obtain ⟨rfl, hnext⟩ := cons_prefix_cons.mp hhere
      obtain ⟨tail, rfl⟩ := hnext
      simp only [hoption, if_true, singleton_append, head?_cons] at h ⊢
      split_ifs at h ⊢ with hdash
      · exact absurd rfl h
      · cases start with
        | none => exact chainTargetFrom_some h
        | some existing =>
          simp only at h ⊢
          split_ifs at h ⊢
          · exact absurd rfl h
          · exact chainTargetFrom_some h
    · split_ifs at h ⊢
      · split at h
        · exact absurd rfl h
        · split_ifs at h ⊢
          · exact absurd rfl h
          · cases start with
            | none => exact ih h hrest
            | some existing =>
              simp only at h ⊢
              split_ifs at h ⊢
              · exact absurd rfl h
              · exact ih h hrest
      · exact ih h hrest

theorem chainTarget_of_ruleTarget (h : chainTarget tokens ≠ .malformed) {goto name}
    (htgt : ruleTarget tokens = some (goto, name)) : chainTarget tokens = .named name := by
  unfold ruleTarget at htgt
  split at htgt
  · rename_i option name' options hpart
    cases htgt
    have hoption : isTargetOption option = true := by
      have hhead := head?_dropWhile_not (fun token => !isTargetOption token)
        (arguments .outside tokens)
      rw [← targetPart, hpart] at hhead
      simpa using hhead
    have hinside : [option, name] <:+: arguments .outside tokens := by
      refine IsInfix.trans ?_ (dropWhile_suffix fun token => !isTargetOption token).isInfix
      rw [← targetPart, hpart]
      exact ⟨[], options, rfl⟩
    refine chainTargetFrom_of_infix h (infix_of_arguments ?_ hinside) hoption
    unfold isTargetOption at hoption
    simp only [Bool.or_eq_true, beq_iff_eq] at hoption
    rcases hoption with ((rfl | rfl) | rfl) | rfl <;> decide
  · cases htgt

/-- One of the rules jumps to the declared chain `target` or goes to it. -/
def JumpsFrom (table : MangleTable) (rules : List (List Text)) (target : Text) : Prop :=
  ∃ tokens ∈ rules, ∃ goto, ruleTarget tokens = some (goto, target) ∧ target ∈ table.userChains

def Jumps (table : MangleTable) (chain : Text) : Text → Prop :=
  JumpsFrom table (table.rulesOf chain)

/-- A rule of OUTPUT or of a chain packets can reach from it, other than the allowed
lines. -/
def ForeignRule (table : MangleTable) (allowed : List Text) (tokens : List Text) : Prop :=
  ∃ chain, Relation.ReflTransGen (Jumps table) outputChain chain ∧
    tokens ∈ table.rulesOf chain ∧ joinTokens tokens ∉ allowed

variable {allowed : List Text}

theorem CleanChain.reach_jumps {tbl chain tgt} (h : CleanChain tbl allowed cmark chain)
    (hreach : Relation.ReflTransGen (Jumps tbl) chain tgt) : CleanChain tbl allowed cmark tgt := by
  induction hreach with
  | refl => exact h
  | tail _ hjump ih =>
    obtain ⟨tokens, hmem, goto, htgt, hdecl⟩ := hjump
    have hrule := ih.rules_clean tokens hmem
    exact ih.call ⟨tokens, hmem, chainTarget_of_ruleTarget hrule.target htgt, hdecl⟩

theorem ForeignRule.semantics_clean {tbl} (h : CleanChain tbl allowed cmark outputChain)
    (hforeign : ForeignRule tbl allowed tokens) : auditMarkSemantics tokens cmark = .clean := by
  obtain ⟨chain, hreach, hmem, hnot⟩ := hforeign
  have hrule := ((h.reach_jumps hreach).rules_clean tokens hmem).semantics
  rwa [ruleSemantics, if_neg hnot] at hrule

/-- The table of a listing; a listing that cannot be read has none. -/
def listedTable (lines : List Text) : MangleTable :=
  (readTable ⟨[], []⟩ (normalizedLines lines)).getD ⟨[], []⟩

theorem cleanChain_of_audit {lines mishChain}
    (h : auditMangleOutput lines allowed mishChain cmark = .clean) :
    readTable ⟨[], []⟩ (normalizedLines lines) = some (listedTable lines) ∧
      CleanChain (listedTable lines) allowed cmark outputChain := by
  unfold auditMangleOutput at h
  split_ifs at h
  split at h
  · cases h
  · rename_i tbl hread
    have htable : listedTable lines = tbl := by rw [listedTable, hread, Option.getD_some]
    rw [htable]
    exact ⟨hread, visit_output_clean_iff.mp h⟩

/-- On a clean listing no foreign rule changes or tests the reserved bit exactly when no
foreign rule a packet can match writes a value that has the bit, or copies it. -/
theorem audit_clean_untouched_iff {ns : RootPolicyNamespace} {identity : PolicyIdentity}
    (hid : identity ∈ ns.candidates) {lines allowed : List Text} {mishChain : Text}
    (hclean : auditMangleOutput lines allowed mishChain identity.markValue = .clean) :
    (∀ tokens, ForeignRule (listedTable lines) allowed tokens →
        ¬ ChangesBit identity.reservedBit tokens ∧ ¬ TestsBit identity.reservedBit tokens) ↔
      ∀ tokens, ForeignRule (listedTable lines) allowed tokens → Matchable tokens →
        ∀ connection action, ruleAction tokens = some (connection, action) →
          action.touchesBit connection identity.reservedBit = false := by
  obtain ⟨hbit, hvalue⟩ := candidate_reservedBit hid
  obtain ⟨-, hchain⟩ := cleanChain_of_audit hclean
  rw [hvalue] at hchain
  constructor
  · intro huntouched tokens hforeign hmatch connection action haction
    obtain ⟨ω, env, flow, marks, hmarks⟩ := hmatch
    have hsemantics := hforeign.semantics_clean hchain
    by_contra htouch
    rw [Bool.not_eq_false] at htouch
    -- the tests do not read the bit, so the packet matches with any value of it
    obtain ⟨nf, ct, hchanged⟩ := MarkAction.exists_changed hbit htouch marks
    have hsame := sameElsewhere_put hbit nf ct marks
    refine (huntouched tokens hforeign).1
      ⟨ω, env, flow, marks.put identity.reservedBit nf ct, ?_, ?_⟩
    · rw [ruleMatches_congr hsemantics hsame, hmarks]
    · rw [ruleMarks, haction]
      exact hchanged
  · intro huntouching tokens hforeign
    have hsemantics := hforeign.semantics_clean hchain
    refine ⟨?_, not_testsBit_of_clean hsemantics⟩
    rintro ⟨ω, env, flow, marks, hmatch, hchanged⟩
    exact hchanged (ruleMarks_keeps hbit hsemantics
      (huntouching tokens hforeign ⟨ω, env, flow, marks, hmatch⟩) marks)

/-- Another product marks its packets with the lowest bit. -/
theorem audit_clean_untouched_iff_low_bit :
    let identity : PolicyIdentity := ⟨"0x200000".toList, 0x200000, 9500, 9501⟩
    let lines := ["-A OUTPUT -j MARK --set-xmark 0x1/0x1".toList]
    let allowed := RootPolicyContract.sample.ipv4AllowedMangleLinesFor identity
    auditMangleOutput lines allowed releaseMishChain identity.markValue = .clean ∧
      ((∀ tokens, ForeignRule (listedTable lines) allowed tokens →
          ¬ ChangesBit identity.reservedBit tokens ∧ ¬ TestsBit identity.reservedBit tokens) ↔
        ∀ tokens, ForeignRule (listedTable lines) allowed tokens → Matchable tokens →
          ∀ connection action, ruleAction tokens = some (connection, action) →
            action.touchesBit connection identity.reservedBit = false) := by
  intro identity lines allowed
  have hclean : auditMangleOutput lines allowed releaseMishChain identity.markValue = .clean := by
    decide
  have hid : identity ∈ RootPolicyNamespace.release.candidates := by decide
  exact ⟨hclean, audit_clean_untouched_iff hid hclean⟩

/-- Every foreign test holds, and no other target does anything. -/
def sampleEnvironment : Environment Unit where
  holds _ _ _ := true
  verdict _ _ := .proceed
  marks _ _ marks := marks

/-- The listing of `--xor-mark 0x200000`, printed as a value outside an empty mask, is
clean, and its rule sets the reserved bit of every packet that does not have it. -/
theorem audit_clean_value_outside_mask :
    let identity : PolicyIdentity := ⟨"0x200000".toList, 0x200000, 9500, 9501⟩
    let lines := ["-A OUTPUT -j MARK --set-xmark 0x200000/0x0".toList]
    let allowed := RootPolicyContract.sample.ipv4AllowedMangleLinesFor identity
    identity ∈ RootPolicyNamespace.release.candidates ∧
      auditMangleOutput lines allowed releaseMishChain identity.markValue = .clean ∧
      ∃ tokens, ForeignRule (listedTable lines) allowed tokens ∧
        ChangesBit identity.reservedBit tokens := by
  intro identity lines allowed
  let tokens := splitWhitespace "-A OUTPUT -j MARK --set-xmark 0x200000/0x0".toList
  have hmem : tokens ∈ (listedTable lines).rulesOf outputChain := by decide
  have hforeign : joinTokens tokens ∉ allowed := by decide
  refine ⟨by decide, by decide, tokens, ⟨outputChain, .refl, hmem, hforeign⟩,
    Unit, sampleEnvironment, ⟨0, false, true, ()⟩, ⟨0, 0⟩, by decide, ?_⟩
  intro hsame
  exact absurd hsame.nf (by decide)

/-- The audit reads the masks of a copy out of a comment; the copy itself has none. -/
example :
    let tokens := splitWhitespace
      "-A OUTPUT -m comment --comment \"a --nfmask 1 --ctmask 1 b\" -j CONNMARK --save-mark".toList
    auditMarkSemantics tokens 0x200000 = .clean ∧
      ruleAction tokens = some (true, .saveMark 0xffffffff 0xffffffff) := by decide

end MishProxy.Cellular
