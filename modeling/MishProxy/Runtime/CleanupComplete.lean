import MishProxy.Cellular.OwnedRules
import MishProxy.Runtime.Kernel

/-!
# What a successful cleanup leaves

A successful cleanup verified that no line of the mangle tables mentions the product and
that the rules of one identity are gone: the active one, or the one resolution selected.
It removes rules at the two priorities of that identity only, so the rules of the other
candidates are those of the start. A product signature is left exactly when there was a
rule of another candidate (`cleanup_leaves_no_signature_iff`).
-/

namespace MishProxy.Runtime

open Text Cellular Routing Netfilter Effects Effects.Exec Session RootPolicyContract List Bool

/-- The identity whose rules a cleanup removes. -/
def cleanupIdentity (contract : RootPolicyContract) (snapshot : RootPolicySnapshot) :
    Option PolicyIdentity :=
  match contract.activeIdentity with
  | some identity => some identity
  | none =>
      match contract.resolveIdentity snapshot with
      | (.selected identity, _) => some identity
      | (.collision, _) => none

/-- The rule is recognised as one of the identity; a lookup is looked for in IPv4 only. -/
def ownsRule (identity : PolicyIdentity) (family : Family) (rule : RpdbRule) : Bool :=
  lineIsOwnedGuardFor rule.line identity ||
    (family == .ipv4 && lineIsOwnedLookupFor rule.line identity)

def NoRuleOf (identity : PolicyIdentity) (kernel : Kernel) : Prop :=
  ∀ family, ∀ rule ∈ kernel.rpdb family, ownsRule identity family rule = false

/-- No rule of a candidate other than the one the cleanup is for. -/
def OnlyCleanupIdentity (contract : RootPolicyContract) (kernel : Kernel) : Prop :=
  ∀ identity ∈ contract.candidates, cleanupIdentity contract kernel.snapshot ≠ some identity →
    NoRuleOf identity kernel

variable {env : KernelEnvironment} {kernel : Kernel} {con : RootPolicyContract}
  {identity : PolicyIdentity} {family : Family}

/-! ## Signatures in the kernel -/

theorem usesPriority_of_ownsRule {ns : RootPolicyNamespace} (hid : identity ∈ ns.candidates)
    {rule} (h : ownsRule identity family rule = true) : identity.UsesPriority rule.priority := by
  rw [ownsRule, or_eq_true, and_eq_true] at h
  rcases h with hguard | ⟨-, hlook⟩
  · exact .inr ((ownedGuard_line_iff hid).mp hguard).1
  · obtain ⟨tbl, htable⟩ := Option.isSome_iff_exists.mp hlook
    exact .inl ((ownedLookupTable_line_iff hid).mp htable).1

theorem noRuleOf_iff : NoRuleOf identity kernel ↔
      ownedLookupTablesFor (kernel.ruleLines .ipv4) identity = [] ∧
      ∀ family, ∀ line ∈ kernel.ruleLines family, lineIsOwnedGuardFor line identity = false := by
  rw [ownedLookupTablesFor_eq_nil_iff]
  constructor
  · intro h
    constructor
    · intro line hline
      obtain ⟨rule, hrule, rfl⟩ := mem_map.mp hline
      have howns := h .ipv4 rule hrule
      rw [ownsRule, Bool.or_eq_false_iff, beq_self_eq_true, Bool.true_and] at howns
      exact Option.not_isSome_iff_eq_none.mp (eq_false_iff.mp howns.2)
    · intro family line hline
      obtain ⟨rule, hrule, rfl⟩ := mem_map.mp hline
      have howns := h family rule hrule
      rw [ownsRule, or_eq_false_iff] at howns
      exact howns.1
  · rintro ⟨hlook, hguard⟩ family rule hrule
    rw [ownsRule, hguard family _ (mem_map_of_mem hrule), Bool.false_or]
    cases family with
    | ipv4 =>
      rw [lineIsOwnedLookupFor, hlook _ (mem_map_of_mem hrule)]
      rfl
    | ipv6 => rfl

theorem hasRuleSignature_eq_false_iff (hact : con.activeIdentity = some identity) :
    con.hasRuleSignature kernel.snapshot = false ↔ NoRuleOf identity kernel := by
  have hlook : ∀ line, con.isOwnedIpv4Lookup line = false ↔
      ownedLookupTable line identity = none := by
    intro line
    rw [isOwnedIpv4Lookup, con.ownedIpv4LookupTables_of_active hact,
      not_eq_false', List.isEmpty_iff, ownedLookupTablesFor_eq_nil_iff]
    simp
  have hguard : con.isOwnedGuard = fun line => lineIsOwnedGuardFor line identity :=
    con.isOwnedGuard_of_active hact
  have hipv4 : con.isOwnedIpv4Guard = con.isOwnedGuard := rfl
  have hipv6 : con.isOwnedIpv6Guard = con.isOwnedGuard := rfl
  rw [noRuleOf_iff, forall_family, ownedLookupTablesFor_eq_nil_iff,
    hasRuleSignature, hipv4, hipv6, hguard, or_eq_false_iff]
  simp only [any_eq_false, not_eq_true, or_eq_false_iff, hlook]
  constructor
  · rintro ⟨hboth, hsix⟩
    exact ⟨fun line hline => (hboth line hline).1, fun line hline => (hboth line hline).2, hsix⟩
  · rintro ⟨htables, hfour, hsix⟩
    exact ⟨fun line hline => ⟨htables line hline, hfour line hline⟩, hsix⟩

/-- No line of a mangle table mentions the product. -/
def NoMangleSignature (contract : RootPolicyContract) (kernel : Kernel) : Prop :=
  ∀ family, contract.hasMangleSignature (kernel.mangleLines family) = false

theorem hasAnyProductSignature_eq_false_iff : con.hasAnyProductSignature kernel.snapshot = false ↔
      NoMangleSignature con kernel ∧ ∀ identity ∈ con.candidates, NoRuleOf identity kernel := by
  unfold hasAnyProductSignature NoMangleSignature
  rw [forall_family, or_eq_false_iff, or_eq_false_iff, any_eq_false]
  refine and_congr Iff.rfl ⟨fun h identity hid => ?_, fun h candidate _ => ?_⟩
  · have hcand := h ⟨identity, hid⟩ (mem_attach _ _)
    rw [not_eq_true] at hcand
    exact (hasRuleSignature_eq_false_iff rfl).mp hcand
  · rw [not_eq_true]
    exact (hasRuleSignature_eq_false_iff rfl).mpr (h candidate.1 candidate.2)

theorem verifyExactCleanup_iff (hact : con.activeIdentity = some identity) :
    con.verifyExactCleanup kernel.snapshot = true ↔
      NoMangleSignature con kernel ∧ NoRuleOf identity kernel := by
  have hipv4 : con.isOwnedIpv4Guard = con.isOwnedGuard := rfl
  have hipv6 : con.isOwnedIpv6Guard = con.isOwnedGuard := rfl
  unfold verifyExactCleanup NoMangleSignature
  rw [noRuleOf_iff, forall_family, forall_family, hipv4, hipv6, con.isOwnedGuard_of_active hact,
    con.ownedIpv4LookupTables_of_active hact]
  simp only [and_eq_true, not_eq_true', List.isEmpty_iff, List.any_eq_false, not_eq_true]
  exact ⟨fun h => ⟨⟨h.1.2, h.2⟩, h.1.1.1.1, h.1.1.1.2, h.1.1.2⟩,
    fun h => ⟨⟨⟨⟨h.2.1, h.2.2.1⟩, h.2.2.2⟩, h.1.1⟩, h.1.2⟩⟩

/-! ## Rules a cleanup does not touch -/

/-- The rules away from the two priorities of the identity are those of the start. -/
def OthersKept (identity : PolicyIdentity) (start kernel : Kernel) : Prop :=
  ∀ family rule, ¬ identity.UsesPriority rule.priority →
    (rule ∈ kernel.rpdb family ↔ rule ∈ start.rpdb family)

variable {start : Kernel}

theorem reads_othersKept : Reads (OthersKept identity start) (kernelIo env) :=
  reads_kernelIo fun _ h => h

theorem othersKept_mangle (family op) :
    Keeps (OthersKept identity start) ((kernelIo env).mutate (.mangle family op)) := by
  refine keeps_kernelMutate ?_ fun _ h => h
  intro kernel after h hafter
  obtain ⟨tbl, -, rfl⟩ := Option.map_eq_some_iff.mp hafter
  exact h

theorem othersKept_delete {attributes}
    (hprio : identity.UsesPriority attributes.priority) (family) :
    Keeps (OthersKept identity start) ((kernelIo env).mutate (.ruleDelete family attributes)) := by
  refine keeps_kernelMutate ?_ fun _ h => h
  intro kernel after h hafter family' rule hoth
  obtain ⟨rules, hrules, rfl⟩ := Option.map_eq_some_iff.mp hafter
  rw [← h family' rule hoth]
  show rule ∈ Function.update kernel.rpdb family rules family' ↔ _
  by_cases hfamily : family' = family
  · subst hfamily
    unfold deleteFirst at hrules
    split_ifs at hrules
    cases hrules
    rw [Function.update_self, mem_eraseP_of_neg]
    intro hselects
    simp only [RuleAttributes.selects, and_eq_true, beq_iff_eq] at hselects
    rw [← hselects.1.1] at hprio
    exact hoth hprio
  · rw [Function.update_of_ne hfamily]

theorem othersKept_cleanupRules (hact : con.activeIdentity = some identity) :
    Keeps (OthersKept identity start) (cleanupRules (kernelIo env) con) := by
  refine keeps_cleanupRules reads_othersKept ?_ ?_ othersKept_mangle
  · intro family other hoth
    cases hact.symm.trans hoth
    exact othersKept_delete (.inr rfl) family
  · intro other tbl hoth _
    cases hact.symm.trans hoth
    exact othersKept_delete (.inl rfl) .ipv4

theorem OthersKept.noRuleOf_iff (h : OthersKept identity start kernel)
    (hid : identity ∈ con.ns.candidates) {other}
    (hoth : other ∈ con.ns.candidates) (hne : other ≠ identity) :
    NoRuleOf other kernel ↔ NoRuleOf other start := by
  have hsame : ∀ family rule, ownsRule other family rule = true →
      (rule ∈ kernel.rpdb family ↔ rule ∈ start.rpdb family) := by
    intro family rule howns
    refine h family rule fun huses => hne ?_
    exact candidate_eq_of_usesPriority hoth hid (usesPriority_of_ownsRule hoth howns) huses
  constructor
  · intro hnone family rule hrule
    by_contra howns
    rw [not_eq_false] at howns
    rw [hnone family rule ((hsame family rule howns).mpr hrule)] at howns
    cases howns
  · intro hnone family rule hrule
    by_contra howns
    rw [not_eq_false] at howns
    rw [hnone family rule ((hsame family rule howns).mp hrule)] at howns
    cases howns

/-! ## The run -/

theorem ends_cleanupSelected {state} (hact : state.contract.activeIdentity = some identity)
    (h : OthersKept identity start kernel) : Ends (cleanupSelected (kernelIo env) state)
      (fun _ after => OthersKept identity start after ∧
        NoMangleSignature state.contract after ∧ NoRuleOf identity after)
      (fun _ _ => True) kernel := by
  unfold cleanupSelected
  rw [ends_bind, ends_mapError]
  refine ends_mono (othersKept_cleanupRules hact kernel h) ?_ fun _ _ _ => trivial
  intro _ kernel h
  rw [ends_bind]
  have hprobes : Probes (OthersKept identity start) (kernelIo env) := probes_kernelIo fun _ h => h
  have hboot (fam) : Keeps (OthersKept identity start)
      (bootstrapFamily (kernelIo env) state.contract fam) :=
    keeps_bootstrapFamily hprobes (othersKept_mangle fam)
  refine ends_mono (ends_probeAuthority_keeps hprobes hboot h) ?_ fun _ _ _ => trivial
  rintro ⟨auth, probed⟩ kernel ⟨h, hcontr⟩
  rw [ends_ite]
  refine ⟨fun _ => ?_, fun _ => trivial⟩
  rw [ends_bind, ends_mapError]
  refine ends_mono (ends_readSnapshot
    (I := fun after => after.rpdb = kernel.rpdb ∧ after.mangle = kernel.mangle)
    (fun _ h => h) ⟨rfl, rfl⟩) ?_ fun _ _ _ => trivial
  rintro snap after ⟨rfl, hrpdb, hmang⟩
  rw [ends_ite, hcontr]
  refine ⟨fun hverified => ?_, fun _ => trivial⟩
  obtain ⟨hsig, hrules⟩ := (verifyExactCleanup_iff hact).mp hverified
  rw [ends_pure]
  unfold OthersKept NoMangleSignature NoRuleOf Kernel.mangleLines at *
  rw [hrpdb, hmang]
  exact ⟨h, hsig, hrules⟩

theorem signature_iff_of_cleaned {after}
    (hident : cleanupIdentity con start.snapshot = some identity)
    (hid : identity ∈ con.ns.candidates) (hkept : OthersKept identity start after)
    (hsig : NoMangleSignature con after) (hrules : NoRuleOf identity after) :
    con.hasAnyProductSignature after.snapshot = false ↔ OnlyCleanupIdentity con start := by
  rw [hasAnyProductSignature_eq_false_iff]
  constructor
  · rintro ⟨-, hall⟩ other hoth hne
    rw [hident] at hne
    exact (hkept.noRuleOf_iff hid hoth fun h => hne (h ▸ rfl)).mp (hall other hoth)
  · intro hothers
    refine ⟨hsig, fun other hoth => ?_⟩
    by_cases hne : other = identity
    · rw [hne]
      exact hrules
    · refine (hkept.noRuleOf_iff hid hoth hne).mpr (hothers other hoth ?_)
      rw [hident]
      exact fun h => hne (Option.some.inj h).symm

/-- Resolution without an active identity: a collision keeps the contract. -/
theorem resolveIdentity_of_none (hnone : con.activeIdentity = none) (snap) :
    con.resolveIdentity snap = (.collision, con) ∨
      ∃ (identity : PolicyIdentity) (hid : identity ∈ con.ns.candidates), con.resolveIdentity snap =
          (.selected identity, con.withIdentity identity hid) := by
  rcases con.resolveIdentity_cases snap with hresv | ⟨identity, hact, -⟩ |
    ⟨-, identity, hid, -, hresv⟩ | ⟨-, hresv⟩
  · exact .inl hresv
  · rw [hnone] at hact
    cases hact
  · exact .inr ⟨identity, hid, hresv⟩
  · rw [con.clearActiveIdentity_of_none hnone] at hresv
    exact .inl hresv

/-- A cleanup that succeeds leaves no product signature exactly when there was no rule of
a candidate other than the one it was for. -/
theorem cleanup_leaves_no_signature_iff {env : KernelEnvironment} {state result : RootPolicyState}
    {kernel after : Kernel} (h : cleanupExact (kernelIo env) state kernel = (.ok result, after)) :
    state.contract.hasAnyProductSignature after.snapshot = false ↔
      OnlyCleanupIdentity state.contract kernel := by
  have hends : Ends (cleanupExact (kernelIo env) state)
      (fun _ after => state.contract.hasAnyProductSignature after.snapshot = false ↔
        OnlyCleanupIdentity state.contract kernel) (fun _ _ => True) kernel := by
    unfold cleanupExact
    cases hactive : state.contract.activeIdentity with
    | some identity =>
      rw [if_pos (by rfl)]
      refine ends_mono (ends_cleanupSelected hactive fun _ _ _ => Iff.rfl) ?_ fun _ _ _ => trivial
      rintro _ after ⟨hkept, hsignature, hrules⟩
      refine signature_iff_of_cleaned ?_ (state.contract.active_mem identity hactive) hkept
        hsignature hrules
      rw [cleanupIdentity, hactive]
    | none =>
      rw [if_neg (by simp), ends_bind, ends_mapError]
      refine ends_mono (ends_readSnapshot
        (I := fun after => after.rpdb = kernel.rpdb ∧ after.mangle = kernel.mangle)
        (fun _ h => h) ⟨rfl, rfl⟩) ?_ fun _ _ _ => trivial
      rintro snapshot after ⟨rfl, hrpdb, hmangle⟩
      rcases resolveIdentity_of_none hactive kernel.snapshot with hresolve |
        ⟨identity, hid, hresolve⟩
      · rw [hresolve]
        rw [ends_ite]
        refine ⟨fun _ => trivial, fun hclean => ?_⟩
        rw [not_eq_true] at hclean
        have hsame : after.snapshot = kernel.snapshot := by
          unfold Kernel.snapshot Kernel.ruleLines Kernel.mangleLines
          rw [hrpdb, hmangle]
        rw [ends_pure, hsame]
        exact iff_of_true hclean fun other hother _ =>
          (hasAnyProductSignature_eq_false_iff.mp hclean).2 other hother
      · rw [hresolve]
        have hselected : ({ state with contract := state.contract.withIdentity identity hid } :
            RootPolicyState).contract.activeIdentity = some identity := rfl
        have hkept : OthersKept identity kernel after := by
          intro family rule _
          rw [hrpdb]
        refine ends_mono (ends_cleanupSelected hselected hkept) ?_ fun _ _ _ => trivial
        rintro _ after ⟨hkept, hsignature, hrules⟩
        refine signature_iff_of_cleaned ?_ hid hkept hsignature hrules
        rw [cleanupIdentity, hactive, hresolve]
  exact hends.of_ok h

/-- The sample kernel with the guard of the second release candidate. -/
def secondGuardKernel : Kernel :=
  (Kernel.sample.apply
    (.ruleAdd .ipv4 ⟨9521, "0x400000/0x400000".toList, .unreachable⟩)).getD .sample

/-- The cleanup for the first candidate succeeds on it. -/
theorem cleanup_leaves_no_signature_iff_second_guard :
    ∃ result after, cleanupExact (kernelIo .sample) ⟨.sample, some 1, none⟩ secondGuardKernel =
        (.ok result, after) ∧
      (sample.hasAnyProductSignature after.snapshot = false ↔
        OnlyCleanupIdentity .sample secondGuardKernel) := by
  have hok : (cleanupExact (kernelIo .sample) ⟨.sample, some 1, none⟩ secondGuardKernel).1.isOk =
      true := by
    decide +kernel
  rcases hrun : cleanupExact (kernelIo .sample) ⟨.sample, some 1, none⟩ secondGuardKernel with
    ⟨failure | result, after⟩
  · rw [hrun] at hok
    cases hok
  · exact ⟨result, after, rfl, cleanup_leaves_no_signature_iff hrun⟩

/-- Without an active identity, the first candidate is selected; the cleanup succeeds, and
the guard of the second one is left. -/
theorem cleanup_leaves_second_guard :
    ∃ result after, cleanupExact (kernelIo .sample)
        ⟨sample.clearActiveIdentity, some 1, none⟩ secondGuardKernel =
          (.ok result, after) ∧
      sample.clearActiveIdentity.hasAnyProductSignature after.snapshot =
        true := by
  have hok : (cleanupExact (kernelIo .sample)
      ⟨sample.clearActiveIdentity, some 1, none⟩ secondGuardKernel).1.isOk =
        true := by
    decide +kernel
  have hsignature : sample.clearActiveIdentity.hasAnyProductSignature
      (cleanupExact (kernelIo .sample)
        ⟨sample.clearActiveIdentity, some 1, none⟩
          secondGuardKernel).2.snapshot = true := by
    decide +kernel
  rcases hrun : cleanupExact (kernelIo .sample)
      ⟨sample.clearActiveIdentity, some 1, none⟩ secondGuardKernel with
    ⟨failure | result, after⟩
  · rw [hrun] at hok
    cases hok
  · rw [hrun] at hsignature
    exact ⟨result, after, rfl, hsignature⟩

end MishProxy.Runtime
