import MishProxy.Cellular.Contract
import MishProxy.Machine.Run

/-!
# The selection of a policy identity

A contract without an identity takes the first candidate that can be selected on a snapshot and
keeps it, whatever later snapshots show, until it is cleared. A candidate can be selected
(`Selectable`) when its reserved space is clean and the product chains that are there already
are ones its own lines continue.

`Disciplined` says what a call may do to the identity, and `selection_disciplined` that every
call of every sequence keeps to it.
-/

namespace MishProxy.Cellular

open Text Machine RootPolicyContract List Bool

variable {con : RootPolicyContract} {snapshot : RootPolicySnapshot} {identity : PolicyIdentity}

structure Selectable (contract : RootPolicyContract) (snapshot : RootPolicySnapshot)
    (identity : PolicyIdentity) : Prop where
  candidate : identity ∈ contract.candidates
  clean : contract.auditReservedPolicySpace snapshot identity = .clean
  continues : ∀ family, chainLines (snapshot.mangle family) contract.chainName <+:
    contract.ownedChainLinesFor family identity

/-- No candidate in front of this one can be selected. -/
def FirstSelectable (contract : RootPolicyContract) (snapshot : RootPolicySnapshot)
    (identity : PolicyIdentity) : Prop :=
  ∃ before after, contract.candidates = before ++ identity :: after ∧
    ∀ other ∈ before, ¬ Selectable contract snapshot other

/-! ## The candidates that are considered -/

theorem prefixMatches_iff {actual expd} : prefixMatches actual expd = true ↔ actual <+: expd := by
  rw [prefixMatches, and_eq_true, decide_eq_true_iff, beq_iff_eq, prefix_iff_eq_take]
  refine ⟨fun h => h.2, fun h => ⟨?_, h⟩⟩
  have hlen := congrArg length h
  rw [length_take] at hlen
  omega

theorem mem_compatibleCandidates :
    identity ∈ con.compatibleCandidates snapshot ↔ identity ∈ con.candidates ∧
      ∀ fam, chainLines (snapshot.mangle fam) con.chainName <+:
        con.ownedChainLinesFor fam identity := by
  rw [forall_family, ← prefixMatches_iff, ← prefixMatches_iff, ← and_eq_true]
  exact mem_filter

theorem selectable_iff :
    Selectable con snapshot identity ↔ identity ∈ con.compatibleCandidates snapshot ∧
      con.auditReservedPolicySpace snapshot identity = .clean := by
  rw [mem_compatibleCandidates]
  exact ⟨fun h => ⟨⟨h.candidate, h.continues⟩, h.clean⟩, fun h => ⟨h.1.1, h.2, h.1.2⟩⟩

/-- Without lines of a product chain every candidate is compatible, so the candidates that are
considered are the compatible ones in either case. -/
theorem considered_eq {hasChainState : Bool} (h : hasChainState = (!(chainLines snapshot.ipv4Mangle
        con.chainName).isEmpty || !(chainLines snapshot.ipv6Mangle con.chainName).isEmpty)) :
    (if hasChainState = true then con.compatibleCandidates snapshot else con.candidates) =
      con.compatibleCandidates snapshot := by
  cases hasChainState with
  | true => rfl
  | false =>
    obtain ⟨hfour, hsix⟩ := or_eq_false_iff.mp h.symm
    rw [not_eq_false', List.isEmpty_iff] at hfour hsix
    have hnil (lines : List Text) : prefixMatches [] lines = true :=
      prefixMatches_iff.mpr nil_prefix
    unfold compatibleCandidates
    rw [hfour, hsix]
    simp [hnil]

/-! ## One resolution -/

theorem resolveIdentity_of_active (h : con.activeIdentity = some identity) :
    con.resolveIdentity snapshot = (.collision, con) ∨ Selectable con snapshot identity ∧
        con.resolveIdentity snapshot = (.selected identity, con) := by
  unfold resolveIdentity
  split
  · exact .inl rfl
  dsimp only
  split
  · exact .inl rfl
  split
  · rename_i active hact
    cases h.symm.trans hact
    rw [considered_eq rfl]
    by_cases hmem : identity ∈ con.compatibleCandidates snapshot
    · rw [if_neg (not_not.mpr hmem)]
      by_cases hclean : con.auditReservedPolicySpace snapshot identity = .clean
      · rw [if_pos hclean]
        exact .inr ⟨selectable_iff.mpr ⟨hmem, hclean⟩, rfl⟩
      · rw [if_neg hclean]
        exact .inl rfl
    · rw [if_pos hmem]
      exact .inl rfl
  · rename_i hnone
    cases h.symm.trans hnone

theorem selectCandidate_compatible {candidates}
    (heq : candidates = con.compatibleCandidates snapshot)
    (hmem : ∀ identity ∈ candidates, identity ∈ con.ns.candidates) :
    con.selectCandidate snapshot candidates hmem = (.collision, con.clearActiveIdentity) ∨
      ∃ (identity : PolicyIdentity) (hid : identity ∈ con.ns.candidates),
        Selectable con snapshot identity ∧ FirstSelectable con snapshot identity ∧
        con.selectCandidate snapshot candidates hmem =
          (.selected identity, con.withIdentity identity hid) := by
  unfold selectCandidate
  split
  · rename_i identity hfind
    have hlisted := mem_of_find?_eq_some hfind
    refine .inr ⟨identity, hmem identity hlisted, ?_⟩
    have hclean := find?_some hfind
    rw [beq_iff_eq] at hclean
    rw [heq] at hlisted hfind
    refine ⟨selectable_iff.mpr ⟨hlisted, hclean⟩, ?_, rfl⟩
    -- the search in the compatible candidates is a search in all of them
    rw [compatibleCandidates, find?_filter, find?_eq_some_iff_append] at hfind
    obtain ⟨-, before, after, hsplit, hbef⟩ := hfind
    refine ⟨before, after, hsplit, fun other hoth hsela => ?_⟩
    obtain ⟨hcompat, haudit⟩ := selectable_iff.mp hsela
    have hskipped := hbef other hoth
    have hmatches := (mem_filter.mp hcompat).2
    rw [hmatches, haudit] at hskipped
    cases hskipped
  · exact .inl rfl

theorem resolveIdentity_of_inactive (h : con.activeIdentity = none) :
    con.resolveIdentity snapshot = (.collision, con) ∨
      ∃ (identity : PolicyIdentity) (hid : identity ∈ con.ns.candidates),
        Selectable con snapshot identity ∧ FirstSelectable con snapshot identity ∧
        con.resolveIdentity snapshot = (.selected identity, con.withIdentity identity hid) := by
  unfold resolveIdentity
  split
  · exact .inl rfl
  dsimp only
  split
  · exact .inl rfl
  split
  · rename_i active hact
    cases h.symm.trans hact
  · rcases selectCandidate_compatible (considered_eq rfl) _ with hselect | hselect
    · left
      rw [hselect, con.clearActiveIdentity_of_none h]
    · exact .inr hselect

/-! ## Sequences of calls -/

inductive IdentityCall where
  | resolve (snapshot : RootPolicySnapshot)
  | clear
  deriving DecidableEq

def IdentityCall.apply (contract : RootPolicyContract) : IdentityCall → RootPolicyContract
  | .resolve snapshot => (contract.resolveIdentity snapshot).2
  | .clear => contract.clearActiveIdentity

/-- What a call may do. A contract gets an identity by a successful resolution only, and it loses
one by a clear only. -/
structure Disciplined (contract : RootPolicyContract) (call : IdentityCall) : Prop where
  namespace_kept : (call.apply contract).ns = contract.ns
  changes : (call.apply contract).activeIdentity = contract.activeIdentity ∨
    (∃ snapshot identity, call = .resolve snapshot ∧ contract.activeIdentity = none ∧
      (contract.resolveIdentity snapshot).1 = .selected identity ∧
      (call.apply contract).activeIdentity = some identity) ∨
    call = .clear ∧ (call.apply contract).activeIdentity = none
  selected : ∀ snapshot identity, call = .resolve snapshot →
    (contract.resolveIdentity snapshot).1 = .selected identity →
      Selectable contract snapshot identity ∧ (call.apply contract).activeIdentity = some identity
  first : ∀ snapshot identity, call = .resolve snapshot → contract.activeIdentity = none →
    (contract.resolveIdentity snapshot).1 = .selected identity →
      FirstSelectable contract snapshot identity
  collision : ∀ snapshot, call = .resolve snapshot → contract.activeIdentity = none →
    (contract.resolveIdentity snapshot).1 = .collision → (call.apply contract).activeIdentity = none

open IdentityCall

theorem disciplined_resolve_active (h : con.activeIdentity = some identity) :
    Disciplined con (.resolve snapshot) := by
  have hnone : con.activeIdentity ≠ none := by
    rw [h]
    simp
  have hsame : (resolve snapshot).apply con = con := by
    rcases resolveIdentity_of_active h with hcase | ⟨-, hcase⟩
    · exact congrArg Prod.snd hcase
    · exact congrArg Prod.snd hcase
  refine ⟨by rw [hsame], .inl (by rw [hsame]), ?_, fun _ _ _ hinactive => absurd hinactive hnone,
    fun _ _ hinactive => absurd hinactive hnone⟩
  rintro _ other ⟨⟩ hsel
  rw [hsame]
  rcases resolveIdentity_of_active h with hcase | ⟨hsela, hcase⟩
  · rw [hcase] at hsel
    cases hsel
  · rw [hcase] at hsel
    cases hsel
    exact ⟨hsela, h⟩

theorem disciplined_resolve_inactive (h : con.activeIdentity = none) :
    Disciplined con (.resolve snapshot) := by
  rcases resolveIdentity_of_inactive h with hcase | ⟨identity, hid, hsela, hfirst, hcase⟩
  · have hsame : (resolve snapshot).apply con = con := congrArg Prod.snd hcase
    refine ⟨by rw [hsame], .inl (by rw [hsame]), ?_, ?_, fun _ _ _ _ => by rw [hsame, h]⟩
    · rintro _ other ⟨⟩ hsel
      rw [hcase] at hsel
      cases hsel
    · rintro _ other ⟨⟩ - hsel
      rw [hcase] at hsel
      cases hsel
  · have hafter : (resolve snapshot).apply con =
        con.withIdentity identity hid := congrArg Prod.snd hcase
    have hres : (con.resolveIdentity snapshot).1 = .selected identity := congrArg Prod.fst hcase
    have hact : ((resolve snapshot).apply con).activeIdentity = some identity := by
      rw [hafter]
      rfl
    refine ⟨by rw [hafter]; rfl, .inr (.inl ⟨snapshot, identity, rfl, h, hres, hact⟩), ?_, ?_, ?_⟩
    · rintro _ other ⟨⟩ hsel
      cases hres.symm.trans hsel
      exact ⟨hsela, hact⟩
    · rintro _ other ⟨⟩ - hsel
      cases hres.symm.trans hsel
      exact hfirst
    · rintro _ ⟨⟩ - hcoll
      cases hres.symm.trans hcoll

theorem disciplined_clear : Disciplined con .clear := by
  refine ⟨rfl, .inr (.inr ⟨rfl, rfl⟩), ?_, ?_, ?_⟩
  · simp
  · simp
  · simp

theorem disciplined (con call) : Disciplined con call := by
  cases call with
  | clear => exact disciplined_clear
  | resolve snapshot =>
    cases hact : con.activeIdentity with
    | none => exact disciplined_resolve_inactive hact
    | some identity => exact disciplined_resolve_active hact

theorem Disciplined.keeps {call} (h : Disciplined con call)
    (hact : con.activeIdentity = some identity) (hcall : call ≠ .clear) :
    (call.apply con).activeIdentity = some identity := by
  rcases h.changes with hsame | ⟨_, _, -, hnone, -⟩ | ⟨hclear, -⟩
  · rw [hsame, hact]
  · cases hnone.symm.trans hact
  · exact absurd hclear hcall

theorem active_until_clear {calls}
    (hact : con.activeIdentity = some identity) (hcalls : .clear ∉ calls) :
    (run apply con calls).activeIdentity = some identity := by
  induction calls generalizing con with
  | nil => exact hact
  | cons call rest ih =>
    obtain ⟨hcall, hrest⟩ := ne_and_not_mem_of_not_mem_cons hcalls
    exact ih ((disciplined con call).keeps hact hcall.symm) hrest

/-- Every call of every sequence is disciplined, and an identity stays until it is cleared. -/
theorem selection_disciplined (start : RootPolicyContract) (calls : List IdentityCall) :
    Along IdentityCall.apply Disciplined start calls ∧
      ∀ before after identity, calls = before ++ after → .clear ∉ after →
        (run IdentityCall.apply start before).activeIdentity = some identity →
          (run apply start calls).activeIdentity = some identity := by
  constructor
  · induction calls generalizing start with
    | nil => trivial
    | cons call rest ih => exact ⟨disciplined start call, ih _⟩
  · rintro before after identity rfl hclear hactive
    rw [run_append]
    exact active_until_clear hactive hclear

end MishProxy.Cellular
