import MishProxy.Cellular.Audit

/-!
# The pure root-policy contract

`RootPolicyContract` owns the policy identity, the exact shape of the product's rules,
collision detection and verification. It performs no effect: it reads snapshots of the
four listings and builds the commands the runtime issues.

A contract exists for a nonzero product uid only, and its active identity is always one
of the candidates of its namespace; both facts are fields.
-/

namespace MishProxy.Cellular

open Text

structure RootPolicySnapshot where
  ipv4Rules : List Text
  ipv6Rules : List Text
  ipv4Mangle : List Text
  ipv6Mangle : List Text
  deriving DecidableEq

def RootPolicySnapshot.rules (snapshot : RootPolicySnapshot) : Family → List Text
  | .ipv4 => snapshot.ipv4Rules
  | .ipv6 => snapshot.ipv6Rules

def RootPolicySnapshot.mangle (snapshot : RootPolicySnapshot) : Family → List Text
  | .ipv4 => snapshot.ipv4Mangle
  | .ipv6 => snapshot.ipv6Mangle

inductive PolicyIdentityResolution where
  | selected (identity : PolicyIdentity)
  | collision
  deriving DecidableEq

inductive MangleFamilyState where
  | missing
  | detachedExact
  | detachedMismatch
  | attachedExact
  | attachedDuplicateExact
  | invalidReferenced
  deriving DecidableEq, Repr

inductive RootPolicyStructuralFailure where
  | identityUnavailable
  | reservedPolicyCollision
  | mangleMismatch
  | guardMismatch
  | lookupStillPresent
  deriving DecidableEq, Repr

structure RootPolicyContract where
  productUid : Nat
  ns : RootPolicyNamespace
  activeIdentity : Option PolicyIdentity
  uid_pos : 0 < productUid
  uid_le : productUid ≤ u32Max
  active_mem : ∀ identity, activeIdentity = some identity → identity ∈ ns.candidates

namespace RootPolicyContract

def new (productUid : Nat) (ns : RootPolicyNamespace) : Option RootPolicyContract :=
  if h : 0 < productUid ∧ productUid ≤ u32Max then
    some ⟨productUid, ns, none, h.1, h.2, by simp⟩
  else none

variable (contract : RootPolicyContract)

def clearActiveIdentity : RootPolicyContract :=
  { contract with activeIdentity := none, active_mem := by simp }

def withIdentity (identity : PolicyIdentity) (h : identity ∈ contract.ns.candidates) :
    RootPolicyContract :=
  { contract with
    activeIdentity := some identity
    active_mem := by
      intro other hother
      cases hother
      exact h }

def chainName : Text := contract.ns.chainName

def candidates : List PolicyIdentity := contract.ns.candidates

/-! ## The product's lines -/

def outputJumpOf (uid : Nat) (chain : Text) : Text :=
  "-A OUTPUT -m owner --uid-owner ".toList ++ decimal uid ++ " -j ".toList ++ chain

def outputJump : Text := outputJumpOf contract.productUid contract.chainName

def chainDefinition : Text := "-N ".toList ++ contract.chainName

/-- The four rules of the product chain for one identity, in order. -/
def ownedChainLinesFor (family : Family) (identity : PolicyIdentity) : List Text :=
  let start := "-A ".toList ++ contract.chainName
  let mark := identity.markHex
  let masks := " --nfmask ".toList ++ mark ++ " --ctmask ".toList ++ mark
  [start ++ " -d ".toList ++ family.loopback ++ " -j RETURN".toList,
   start ++ " -j CONNMARK --restore-mark".toList ++ masks,
   start ++ " -m conntrack --ctstate NEW -j MARK --set-xmark ".toList ++ mark ++ '/' :: mark,
   start ++ " -m conntrack --ctstate NEW -m mark --mark ".toList ++ mark ++ '/' :: mark ++
     " -j CONNMARK --save-mark".toList ++ masks]

def ipv4OwnedChainLinesFor (identity : PolicyIdentity) : List Text :=
  contract.ownedChainLinesFor .ipv4 identity

def ipv6OwnedChainLinesFor (identity : PolicyIdentity) : List Text :=
  contract.ownedChainLinesFor .ipv6 identity

def ipv4OwnedChainLines : Option (List Text) :=
  contract.activeIdentity.map contract.ipv4OwnedChainLinesFor

def ipv6OwnedChainLines : Option (List Text) :=
  contract.activeIdentity.map contract.ipv6OwnedChainLinesFor

def legacySelectorSpec : Text :=
  "OUTPUT -m owner --uid-owner ".toList ++ decimal contract.productUid ++
    " -m conntrack --ctstate NEW -j MARK --set-xmark ".toList ++ contract.ns.legacyMarkHex ++
    '/' :: contract.ns.legacyMarkHex

def legacySelectorLine : Text := "-A ".toList ++ contract.legacySelectorSpec

def allowedMangleLinesFor (family : Family) (identity : PolicyIdentity) : List Text :=
  contract.chainDefinition :: contract.outputJump ::
    (contract.ownedChainLinesFor family identity ++ [contract.legacySelectorLine])

def ipv4AllowedMangleLinesFor (identity : PolicyIdentity) : List Text :=
  contract.allowedMangleLinesFor .ipv4 identity

def ipv6AllowedMangleLinesFor (identity : PolicyIdentity) : List Text :=
  contract.allowedMangleLinesFor .ipv6 identity

def outputJumpCount (lines : List Text) : Nat :=
  (lines.filter fun line => line == contract.outputJump).length

def chainLines (lines : List Text) (chain : Text) : List Text :=
  lines.filter fun line => startsWith line ("-A ".toList ++ chain ++ [' '])

def prefixMatches (actual expected : List Text) : Bool :=
  actual.length ≤ expected.length && actual == expected.take actual.length

/-! ## Ownership of RPDB lines -/

def lineIsOwnedGuardFor (line : Text) (identity : PolicyIdentity) : Bool :=
  let tokens := splitWhitespace line
  rpdbPriority line == some identity.guardPriority &&
    tokenAfter tokens "fwmark".toList == some (markSpec identity) &&
    tokens.contains "unreachable".toList

def ownedLookupTable (line : Text) (identity : PolicyIdentity) : Option Text :=
  let tokens := splitWhitespace line
  if rpdbPriority line = some identity.lookupPriority ∧
      tokenAfter tokens "fwmark".toList = some (markSpec identity) then
    (tokenAfter tokens "lookup".toList).filter isSafeTableToken
  else none

def lineIsOwnedLookupFor (line : Text) (identity : PolicyIdentity) : Bool :=
  (ownedLookupTable line identity).isSome

def insertNew (tables : List Text) (table : Text) : List Text :=
  if table ∈ tables then tables else tables ++ [table]

/-- The tables of the owned lookup lines, each once, in listing order. -/
def ownedLookupTablesFor (lines : List Text) (identity : PolicyIdentity) : List Text :=
  (lines.filterMap fun line => ownedLookupTable line identity).foldl insertNew []

def isOwnedGuard (line : Text) : Bool :=
  match contract.activeIdentity with
  | none => false
  | some identity => lineIsOwnedGuardFor line identity

def ownedIpv4LookupTables (lines : List Text) : List Text :=
  match contract.activeIdentity with
  | none => []
  | some identity => ownedLookupTablesFor lines identity

def isOwnedIpv4Guard (line : Text) : Bool := contract.isOwnedGuard line

def isOwnedIpv6Guard (line : Text) : Bool := contract.isOwnedGuard line

def isOwnedIpv4Lookup (line : Text) : Bool := !(contract.ownedIpv4LookupTables [line]).isEmpty

/-- The line uses a priority or the mark of the identity. -/
def usesReservedSpace (line : Text) (identity : PolicyIdentity) : Bool :=
  rpdbPriority line == some identity.lookupPriority ||
    rpdbPriority line == some identity.guardPriority ||
    rpdbLineTouchesReservedMark line identity.markValue

def isForeignReservedIpv4Line (line : Text) (identity : PolicyIdentity) : Bool :=
  if lineIsOwnedLookupFor line identity || lineIsOwnedGuardFor line identity then false
  else usesReservedSpace line identity

/-- There is no lookup of the product in IPv6, so every line at its priority is foreign. -/
def isForeignReservedIpv6Line (line : Text) (identity : PolicyIdentity) : Bool :=
  if lineIsOwnedGuardFor line identity then false else usesReservedSpace line identity

/-! ## Audit and verification -/

def auditReservedPolicySpace (snapshot : RootPolicySnapshot) (identity : PolicyIdentity) :
    MangleAuditResult :=
  if (snapshot.ipv4Rules.any fun line => isForeignReservedIpv4Line line identity) ||
      (snapshot.ipv6Rules.any fun line => isForeignReservedIpv6Line line identity) then
    .collision
  else
    match auditMangleOutput snapshot.ipv4Mangle (contract.ipv4AllowedMangleLinesFor identity)
        contract.chainName identity.markValue with
    | .clean =>
        auditMangleOutput snapshot.ipv6Mangle (contract.ipv6AllowedMangleLinesFor identity)
          contract.chainName identity.markValue
    | other => other

def mangleFamilyStateFor (lines : List Text) (family : Family) (identity : PolicyIdentity) :
    MangleFamilyState :=
  let definitionCount := (lines.filter fun line => line == contract.chainDefinition).length
  let jumpCount := contract.outputJumpCount lines
  let exact := chainLines lines contract.chainName = contract.ownedChainLinesFor family identity
  if definitionCount = 0 then
    if jumpCount = 0 then .missing else .invalidReferenced
  else if definitionCount ≠ 1 then .invalidReferenced
  else if jumpCount ≠ 0 ∧ ¬ exact then .invalidReferenced
  else if jumpCount > 1 then .attachedDuplicateExact
  else if jumpCount = 1 then .attachedExact
  else if exact then .detachedExact
  else .detachedMismatch

def mangleFamilyState (lines : List Text) (family : Family) : Option MangleFamilyState :=
  contract.activeIdentity.map (contract.mangleFamilyStateFor lines family)

/-- A jump without a chain, or to a chain without rules. -/
def danglingJump (lines : List Text) : Bool :=
  contract.outputJumpCount lines != 0 &&
    (!(lines.any fun line => line == contract.chainDefinition) ||
      (chainLines lines contract.chainName).isEmpty)

/-- The candidates the chains present in the snapshot are compatible with. -/
def compatibleCandidates (snapshot : RootPolicySnapshot) : List PolicyIdentity :=
  let ipv4Chain := chainLines snapshot.ipv4Mangle contract.chainName
  let ipv6Chain := chainLines snapshot.ipv6Mangle contract.chainName
  contract.candidates.filter fun identity =>
    prefixMatches ipv4Chain (contract.ipv4OwnedChainLinesFor identity) &&
      prefixMatches ipv6Chain (contract.ipv6OwnedChainLinesFor identity)

theorem compatibleCandidates_subset (snap) :
    ∀ ident ∈ contract.compatibleCandidates snap, ident ∈ contract.ns.candidates :=
  fun _ h => (List.mem_filter.mp h).1

/-- The first candidate of the list whose reserved space is clean. -/
def selectCandidate (snapshot : RootPolicySnapshot) (candidates : List PolicyIdentity)
    (hmem : ∀ identity ∈ candidates, identity ∈ contract.ns.candidates) :
    PolicyIdentityResolution × RootPolicyContract :=
  match h : candidates.find? fun identity =>
      contract.auditReservedPolicySpace snapshot identity == .clean with
  | some identity =>
      (.selected identity, contract.withIdentity identity (hmem _ (List.mem_of_find?_eq_some h)))
  | none => (.collision, contract.clearActiveIdentity)

def resolveIdentity (snapshot : RootPolicySnapshot) :
    PolicyIdentityResolution × RootPolicyContract :=
  if contract.danglingJump snapshot.ipv4Mangle || contract.danglingJump snapshot.ipv6Mangle then
    (.collision, contract)
  else
    let hasChainState :=
      !(chainLines snapshot.ipv4Mangle contract.chainName).isEmpty ||
        !(chainLines snapshot.ipv6Mangle contract.chainName).isEmpty
    let compatible := contract.compatibleCandidates snapshot
    if hasChainState && compatible.isEmpty then (.collision, contract)
    else
      let candidates := if hasChainState then compatible else contract.candidates
      match contract.activeIdentity with
      | some active =>
          if active ∉ candidates then (.collision, contract)
          else if contract.auditReservedPolicySpace snapshot active = .clean then
            (.selected active, contract)
          else (.collision, contract)
      | none =>
          contract.selectCandidate snapshot candidates (by
            intro identity hmem
            simp only [candidates] at hmem
            split at hmem
            · exact contract.compatibleCandidates_subset snapshot identity hmem
            · exact hmem)

variable {identity : PolicyIdentity}

theorem withIdentity_self (h : contract.activeIdentity = some identity) :
    contract.withIdentity identity (contract.active_mem identity h) = contract := by
  cases contract
  cases h
  rfl

theorem clearActiveIdentity_of_none (h : contract.activeIdentity = none) :
    contract.clearActiveIdentity = contract := by
  cases contract
  cases h
  rfl

theorem selectCandidate_cases (snap candidates)
    (hmem : ∀ identity ∈ candidates, identity ∈ contract.ns.candidates) :
    contract.selectCandidate snap candidates hmem = (.collision, contract.clearActiveIdentity) ∨
      ∃ (identity : PolicyIdentity) (h : identity ∈ contract.ns.candidates),
        contract.auditReservedPolicySpace snap identity = .clean ∧
        contract.selectCandidate snap candidates hmem =
          (.selected identity, contract.withIdentity identity h) := by
  unfold selectCandidate
  split
  · rename_i identity hfind
    have hclean := List.find?_some hfind
    rw [beq_iff_eq] at hclean
    exact .inr ⟨identity, hmem identity (List.mem_of_find?_eq_some hfind), hclean, rfl⟩
  · exact .inl rfl

/-- Resolution keeps the contract, or gives a contract without an identity a clean one. -/
theorem resolveIdentity_cases (snap) : contract.resolveIdentity snap = (.collision, contract) ∨
      (∃ identity, contract.activeIdentity = some identity ∧
        contract.auditReservedPolicySpace snap identity = .clean ∧
        contract.resolveIdentity snap = (.selected identity, contract)) ∨
      (contract.activeIdentity = none ∧ ∃ (identity : PolicyIdentity)
        (h : identity ∈ contract.ns.candidates),
        contract.auditReservedPolicySpace snap identity = .clean ∧
        contract.resolveIdentity snap = (.selected identity, contract.withIdentity identity h)) ∨
      (contract.activeIdentity = none ∧
        contract.resolveIdentity snap = (.collision, contract.clearActiveIdentity)) := by
  unfold resolveIdentity
  split
  · exact .inl rfl
  dsimp only
  split
  · exact .inl rfl
  split
  · rename_i active hact
    by_cases hclean : contract.auditReservedPolicySpace snap active = .clean
    · rw [if_pos hclean]
      split_ifs <;> first
        | exact .inl rfl
        | exact .inr (.inl ⟨active, hact, hclean, rfl⟩)
    · rw [if_neg hclean, ite_self]
      exact .inl rfl
  · rename_i hnone
    rcases contract.selectCandidate_cases snap _ _ with hselect | ⟨identity, h, hclean, hselect⟩
    · exact .inr (.inr (.inr ⟨hnone, hselect⟩))
    · exact .inr (.inr (.inl ⟨hnone, identity, h, hclean, hselect⟩))

def verifyFailClosedBase (snapshot : RootPolicySnapshot) :
    Except RootPolicyStructuralFailure Unit :=
  match contract.activeIdentity with
  | none => .error .identityUnavailable
  | some identity =>
      if contract.auditReservedPolicySpace snapshot identity ≠ .clean then
        .error .reservedPolicyCollision
      else if contract.mangleFamilyState snapshot.ipv4Mangle .ipv4 ≠ some .attachedExact ∨
          contract.mangleFamilyState snapshot.ipv6Mangle .ipv6 ≠ some .attachedExact then
        .error .mangleMismatch
      else if !(snapshot.ipv4Rules.any contract.isOwnedIpv4Guard) ||
          !(snapshot.ipv6Rules.any contract.isOwnedIpv6Guard) then
        .error .guardMismatch
      else if contract.ownedIpv4LookupTables snapshot.ipv4Rules ≠ [] then
        .error .lookupStillPresent
      else .ok ()

theorem forall_family {P : Family → Prop} : (∀ fam, P fam) ↔ P .ipv4 ∧ P .ipv6 :=
  ⟨fun h => ⟨h .ipv4, h .ipv6⟩, fun h fam => by cases fam; exacts [h.1, h.2]⟩

theorem auditReservedPolicySpace_eq_clean_iff {snap} :
    contract.auditReservedPolicySpace snap identity = .clean ↔
      (∀ line ∈ snap.ipv4Rules, isForeignReservedIpv4Line line identity = false) ∧
      (∀ line ∈ snap.ipv6Rules, isForeignReservedIpv6Line line identity = false) ∧
      ∀ fam, auditMangleOutput (snap.mangle fam)
        (contract.allowedMangleLinesFor fam identity) contract.chainName identity.markValue =
          .clean := by
  have hrules : ((snap.ipv4Rules.any fun line => isForeignReservedIpv4Line line identity) ||
      (snap.ipv6Rules.any fun line => isForeignReservedIpv6Line line identity)) = false ↔
      (∀ line ∈ snap.ipv4Rules, isForeignReservedIpv4Line line identity = false) ∧
        ∀ line ∈ snap.ipv6Rules, isForeignReservedIpv6Line line identity = false := by
    simp
  rw [forall_family, ← and_assoc, ← hrules]
  unfold auditReservedPolicySpace
  split
  · rename_i h
    simp [h]
  · rename_i h
    rw [Bool.not_eq_true] at h
    split
    · rename_i hipv4
      exact ⟨fun hipv6 => ⟨h, hipv4, hipv6⟩, fun hall => hall.2.2⟩
    · rename_i hbad
      exact ⟨fun hclean => (hbad hclean).elim, fun hall => (hbad hall.2.1).elim⟩

variable (hact : contract.activeIdentity = some identity)
include hact

theorem isOwnedGuard_of_active :
    contract.isOwnedGuard = fun line => lineIsOwnedGuardFor line identity := by
  funext line
  rw [isOwnedGuard, hact]

theorem ownedIpv4LookupTables_of_active (lines) :
    contract.ownedIpv4LookupTables lines = ownedLookupTablesFor lines identity := by
  rw [ownedIpv4LookupTables, hact]

theorem verifyFailClosedBase_eq_ok_iff {snap} : contract.verifyFailClosedBase snap = .ok () ↔
      contract.auditReservedPolicySpace snap identity = .clean ∧
      (∀ fam, contract.mangleFamilyStateFor (snap.mangle fam) fam identity = .attachedExact) ∧
      (∀ fam, ∃ line ∈ snap.rules fam, lineIsOwnedGuardFor line identity = true) ∧
      ownedLookupTablesFor snap.ipv4Rules identity = [] := by
  have hipv4 : contract.isOwnedIpv4Guard = fun line => lineIsOwnedGuardFor line identity :=
    contract.isOwnedGuard_of_active hact
  have hipv6 : contract.isOwnedIpv6Guard = fun line => lineIsOwnedGuardFor line identity :=
    contract.isOwnedGuard_of_active hact
  rw [forall_family, forall_family]
  unfold verifyFailClosedBase
  simp only [hact, mangleFamilyState, Option.map_some, hipv4, hipv6,
    contract.ownedIpv4LookupTables_of_active hact, RootPolicySnapshot.mangle,
    RootPolicySnapshot.rules]
  split_ifs with haudit hmang hguard htables
  · simp [haudit]
  · simp only [false_iff]
    rintro ⟨-, hboth, -⟩
    simp [hboth] at hmang
  · simp only [false_iff]
    rintro ⟨-, -, hboth, -⟩
    simp only [← List.any_eq_true] at hboth
    rw [hboth.1, hboth.2] at hguard
    cases hguard
  · simp [htables]
  · simp only [ne_eq, not_not, not_or, Option.some.injEq, Bool.or_eq_true, Bool.not_eq_true',
      Bool.not_eq_false, List.any_eq_true] at haudit hmang hguard htables
    exact ⟨fun _ => ⟨haudit, hmang, hguard, htables⟩, fun _ => rfl⟩

omit hact

def hasMangleSignature (lines : List Text) : Bool :=
  lines.any fun line => contains line contract.chainName || line == contract.legacySelectorLine

def verifyExactCleanup (snapshot : RootPolicySnapshot) : Bool :=
  (contract.ownedIpv4LookupTables snapshot.ipv4Rules).isEmpty &&
    !(snapshot.ipv4Rules.any contract.isOwnedIpv4Guard) &&
    !(snapshot.ipv6Rules.any contract.isOwnedIpv6Guard) &&
    !contract.hasMangleSignature snapshot.ipv4Mangle &&
    !contract.hasMangleSignature snapshot.ipv6Mangle

/-- A rule of the active identity, in either RPDB. -/
def hasRuleSignature (snapshot : RootPolicySnapshot) : Bool :=
  (snapshot.ipv4Rules.any fun line =>
      contract.isOwnedIpv4Lookup line || contract.isOwnedIpv4Guard line) ||
    snapshot.ipv6Rules.any contract.isOwnedIpv6Guard

/-- The source makes each candidate active in turn and puts the active identity back. -/
def hasAnyProductSignature (snapshot : RootPolicySnapshot) : Bool :=
  contract.hasMangleSignature snapshot.ipv4Mangle ||
    contract.hasMangleSignature snapshot.ipv6Mangle ||
    contract.candidates.attach.any fun candidate =>
      (contract.withIdentity candidate.1 candidate.2).hasRuleSignature snapshot

/-! ## Jumps of a former uid -/

def exactOwnerJumpUid (line : Text) : Option Nat :=
  match splitWhitespace line with
  | [t₀, t₁, t₂, t₃, t₄, uid, t₆, t₇] =>
      if t₀ = "-A".toList ∧ t₁ = "OUTPUT".toList ∧ t₂ = "-m".toList ∧ t₃ = "owner".toList ∧
          t₄ = "--uid-owner".toList ∧ t₆ = "-j".toList ∧ t₇ = contract.chainName then
        (parseU32 uid).filter fun uid => uid != 0
      else none
  | _ => none

/-- The lines that count as a jump of an owner are those of an `OUTPUT` rule with the owner test and
the jump to the chain, and nothing else; the uid is in range and not root's. -/
theorem exactOwnerJumpUid_eq_some_iff (line : Text) (uid : Nat) :
    contract.exactOwnerJumpUid line = some uid ↔
      ∃ raw, splitWhitespace line = ["-A".toList, "OUTPUT".toList, "-m".toList, "owner".toList,
        "--uid-owner".toList, raw, "-j".toList, contract.chainName] ∧
        parseU32 raw = some uid ∧ uid ≠ 0 := by
  unfold exactOwnerJumpUid
  split
  · rename_i t₀ t₁ t₂ t₃ t₄ raw t₆ t₇ htokens
    rw [htokens]
    split_ifs with hshape
    · obtain ⟨rfl, rfl, rfl, rfl, rfl, rfl, rfl⟩ := hshape
      simp [Option.filter_eq_some_iff]
    · refine ⟨by rintro ⟨⟩, ?_⟩
      rintro ⟨_, heq, -⟩
      cases heq
      exact absurd ⟨rfl, rfl, rfl, rfl, rfl, rfl, rfl⟩ hshape
  · rename_i hother
    refine ⟨by rintro ⟨⟩, ?_⟩
    rintro ⟨raw, heq, -⟩
    exact absurd heq (hother _ _ _ _ _ _ _ _)

def staleOwnerJumpUids (lines : List Text) : List Nat :=
  ((lines.filterMap contract.exactOwnerJumpUid).filter fun uid =>
    uid != contract.productUid).foldl
      (fun uids uid => if uid ∈ uids then uids else uids ++ [uid]) []

def isExactKnownProductState (lines : List Text) (family : Family) : Bool :=
  let actualChain := chainLines lines contract.chainName
  (lines.filter fun line => line == contract.chainDefinition).length == 1 &&
    (contract.candidates.filter fun identity =>
      actualChain == contract.ownedChainLinesFor family identity).length == 1 &&
    (lines.filter fun line => contains line contract.chainName).all fun line =>
      line == contract.chainDefinition || actualChain.contains line ||
        (contract.exactOwnerJumpUid line).isSome

/-- The release contract of uid 10123 with its first identity, for concrete runs. -/
def sample : RootPolicyContract :=
  ⟨10123, .release, some ⟨"0x200000".toList, 0x200000, 9500, 9501⟩, by decide, by decide, by
    intro identity h
    cases h
    decide⟩

end RootPolicyContract

/-! ## Listings used by table discovery -/

def referencedTables (lines : List Text) : List Text :=
  (lines.flatMap fun line =>
    let tokens := splitWhitespace line
    ["lookup".toList, "table".toList].filterMap fun keyword =>
      (tokenAfter tokens keyword).filter isSafeTableToken).foldl RootPolicyContract.insertNew []

def routeHasDefaultOnInterface (lines : List Text) (interface : Text) : Bool :=
  isSafeInterfaceName interface &&
    lines.any fun line =>
      let tokens := splitWhitespace line
      tokens.head? == some "default".toList && tokenAfter tokens "dev".toList == some interface

def routeGetUsesInterface (output interface : Text) : Bool :=
  isSafeInterfaceName interface &&
    (lines output).any fun line =>
      tokenAfter (splitWhitespace line) "dev".toList == some interface

end MishProxy.Cellular
