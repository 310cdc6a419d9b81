import MishProxy.Runtime.PolicyIo

/-!
# The root-policy transaction

`reconcileIfCurrent` brings the kernel to the fail-closed base and, when the request is
admitted, installs the permitting IPv4 lookup. It is a program over an arbitrary world:
the effects are those of a `RootPolicyIo`, and the currentness of the request is asked of
the world as well.

The loop over duplicate jumps has no bound in the source. It takes fuel here, and a run
that is cut off has no outcome. The other loops make at most `maxReconcilePasses` passes.
Command windows, phase timings and counters are diagnostics and are left out.
-/

namespace MishProxy.Runtime

open Text Cellular Routing Effects Effects.Exec Session

inductive RootAuthorityStatus where
  | ready
  | interactiveGrantRequired
  | denied
  | unavailable
  | incomplete
  deriving DecidableEq, Repr

inductive RootPolicyFailure where
  | invalidInterface
  | reservedPolicyCollision
  | observationUnavailable
  | observationIncomplete
  | structuralMismatch
  | routeTableDiscoveryFailed
  | mutationRejected
  | mutationUncertain
  | lookupRuleCreationFailed
  | routeLookupVerificationFailed
  | exactCleanupFailed
  deriving DecidableEq, Repr

inductive RootPolicyResult where
  | enforced
  | failClosed (failure : Option RootPolicyFailure)
  | authorityUnavailable (status : RootAuthorityStatus)
  deriving DecidableEq, Repr

def RootPolicyResult.retryable : RootPolicyResult → Bool
  | .authorityUnavailable .unavailable => true
  | .authorityUnavailable .incomplete => true
  | .failClosed (some .observationUnavailable) => true
  | .failClosed (some .observationIncomplete) => true
  | .failClosed (some .mutationUncertain) => true
  | _ => false

inductive RootPolicyReconcileOutcome where
  | completed (result : RootPolicyResult)
  | superseded
  deriving DecidableEq, Repr

structure RootPolicyState where
  contract : RootPolicyContract
  readySessionGeneration : Option Nat
  terminalAuthority : Option RootAuthorityStatus

def mapEffectFailure : RootPolicyEffectFailure → RootPolicyFailure
  | .observationUnavailable => .observationUnavailable
  | .observationIncomplete => .observationIncomplete
  | .mutationRejected => .mutationRejected
  | .mutationUncertain => .mutationUncertain

/-- The outcome of a step that failed; a run that was cut off has none. -/
def failClosedOutcome (failure : Option RootPolicyFailure) : Option RootPolicyReconcileOutcome :=
  failure.map fun failure => .completed (.failClosed (some failure))

theorem failClosedOutcome_ne_enforced (failure) :
    failClosedOutcome failure ≠ some (.completed .enforced) := by
  cases failure <;> simp [failClosedOutcome]

section

variable {σ ε : Type} (io : RootPolicyIo σ) (contract : RootPolicyContract)

def readLines (command : PolicyCommand) : Exec σ RootPolicyFailure (List Text) :=
  mapError mapEffectFailure (io.lines command)

def readResult (command : PolicyCommand) : Exec σ RootPolicyFailure RootCommandResult :=
  mapError mapEffectFailure (io.observe command)

def issue (command : PolicyCommand) : Exec σ RootPolicyFailure Unit :=
  mapError mapEffectFailure (io.mutate command)

/-- A command the contract could not build is a failure of the step. -/
def require {α : Type} (failure : RootPolicyFailure) : Option α → Exec σ RootPolicyFailure α
  | none => fail failure
  | some a => pure a

def ensure (failure : RootPolicyFailure) (holds : Bool) : Exec σ RootPolicyFailure Unit :=
  if holds then pure () else fail failure

theorem ends_require {α : Type} {failure : RootPolicyFailure} {value : Option α}
    {Q : α → σ → Prop} {E : RootPolicyFailure → σ → Prop} {s : σ} :
    Ends (require failure value) Q E s ↔
      (∀ a, value = some a → Q a s) ∧ (value = none → E failure s) := by
  cases value <;> simp [require]

theorem ends_ensure {failure : RootPolicyFailure} {holds : Bool} {Q : Unit → σ → Prop}
    {E : RootPolicyFailure → σ → Prop} {s : σ} : Ends (ensure failure holds) Q E s ↔
      (holds = true → Q () s) ∧ (holds = false → E failure s) := by
  cases holds <;> simp [ensure]

def readSnapshot : Exec σ RootPolicyFailure RootPolicySnapshot := do
  let ipv4Rules ← readLines io (.ruleShow .ipv4)
  let ipv6Rules ← readLines io (.ruleShow .ipv6)
  let ipv4Mangle ← readLines io (.mangleShow .ipv4)
  let ipv6Mangle ← readLines io (.mangleShow .ipv6)
  pure ⟨ipv4Rules, ipv6Rules, ipv4Mangle, ipv6Mangle⟩

/-! ## Guards -/

def hasOwnedGuard (family : Family) (rules : List Text) : Bool :=
  match family with
  | .ipv4 => rules.any contract.isOwnedIpv4Guard
  | .ipv6 => rules.any contract.isOwnedIpv6Guard

def guardAddOf : Family → Option PolicyCommand
  | .ipv4 => ipv4GuardAdd contract
  | .ipv6 => ipv6GuardAdd contract

def ensureGuard (family : Family) : Exec σ RootPolicyFailure Unit := do
  let current ← readLines io (.ruleShow family)
  if hasOwnedGuard contract family current then
    pure ()
  else do
    let add ← require .structuralMismatch (guardAddOf contract family)
    issue io add
    let verified ← readLines io (.ruleShow family)
    ensure .structuralMismatch (hasOwnedGuard contract family verified)

/-! ## The product chain -/

def ownedChainLinesOf : Family → Option (List Text)
  | .ipv4 => contract.ipv4OwnedChainLines
  | .ipv6 => contract.ipv6OwnedChainLines

def familyState (family : Family) (snapshot : List Text) :
    Exec σ RootPolicyFailure MangleFamilyState :=
  require .structuralMismatch (contract.mangleFamilyState snapshot family)

def readFamilyState (family : Family) : Exec σ RootPolicyFailure MangleFamilyState := do
  let snapshot ← readLines io (.mangleShow family)
  familyState contract family snapshot

/-- One pass of the loop over duplicate jumps, with the listing it starts from. An
uncertain deletion ends the loop or the step, by what a fresh listing shows. -/
def removeDuplicateJump (family : Family) (snapshot : List Text) :
    Exec σ RootPolicyFailure (List Text ⊕ List Text) :=
  if contract.outputJumpCount snapshot ≤ 1 then
    pure (.inl snapshot)
  else do
    match ← attempt (io.mutate (outputJumpDelete contract family)) with
    | .ok () => do
        let fresh ← readLines io (.mangleShow family)
        pure (.inr fresh)
    | .error .mutationUncertain => do
        let fresh ← readLines io (.mangleShow family)
        if contract.outputJumpCount fresh ≤ 1 then pure (.inl fresh) else fail .mutationUncertain
    | .error error => fail (mapEffectFailure error)

def createChain (family : Family) (state : MangleFamilyState) :
    Exec σ RootPolicyFailure MangleFamilyState :=
  if state = .missing then do
    issue io (createChainCommand contract family)
    readFamilyState io contract family
  else pure state

def fillChain (family : Family) (state : MangleFamilyState) :
    Exec σ RootPolicyFailure MangleFamilyState :=
  if state = .detachedMismatch then do
    issue io (flushChainCommand contract family)
    let expected ← require .structuralMismatch (ownedChainLinesOf contract family)
    forEach (fun rule => issue io (.mangle family (.append rule))) expected
    readFamilyState io contract family
  else pure state

def attachChain (family : Family) (state : MangleFamilyState) : Exec σ RootPolicyFailure Unit :=
  if state = .detachedExact then do
    issue io (outputJumpAdd contract family)
    let verified ← readLines io (.mangleShow family)
    ensure .structuralMismatch
      (contract.mangleFamilyState verified family == some .attachedExact)
  else fail .structuralMismatch

/-- From a state without duplicate jumps to an attached chain. -/
def buildChain (family : Family) (state : MangleFamilyState) : Exec σ RootPolicyFailure Unit :=
  if state = .attachedExact then pure ()
  else do
    let created ← createChain io contract family state
    let filled ← fillChain io contract family created
    attachChain io contract family filled

def ensureMangleFamily (fuel : Nat) (family : Family) : Exec σ (Option RootPolicyFailure) Unit := do
  let snapshot ← mapError some (readLines io (.mangleShow family))
  let state ← mapError some (familyState contract family snapshot)
  if state = .invalidReferenced then
    fail (some .structuralMismatch)
  else if state = .attachedDuplicateExact then do
    let single ← whileFuel (removeDuplicateJump io contract family) fuel snapshot
    let state ← mapError some (familyState contract family single)
    mapError some (buildChain io contract family state)
  else
    mapError some (buildChain io contract family state)

/-! ## Removals -/

def removeExactRule (check delete : PolicyCommand) : Exec σ RootPolicyFailure Unit :=
  repeatUntil
    (do
      let observed ← readResult io check
      if observed.exitCode ≠ 0 then
        pure (some ())
      else do
        issue io delete
        pure none)
    (do
      let final ← readResult io check
      ensure .mutationRejected (final.exitCode != 0))
    maxReconcilePasses

def removeLegacySelector (family : Family) : Exec σ RootPolicyFailure Unit :=
  removeExactRule io (legacySelectorCheck contract family) (legacySelectorDelete contract family)

/-- Deletes the lookups of these tables; the failure is the one of a name that is not safe. -/
def deleteLookups (failure : RootPolicyFailure) (tables : List Text) :
    Exec σ RootPolicyFailure Unit :=
  forEach (fun table => do
    let delete ← require failure (ipv4LookupDelete contract table)
    issue io delete) tables

def removeOwnedIpv4Lookups : Exec σ RootPolicyFailure Unit :=
  repeatUntil
    (do
      let rules ← readLines io (.ruleShow .ipv4)
      let tables := contract.ownedIpv4LookupTables rules
      if tables.isEmpty then
        pure (some ())
      else do
        deleteLookups io contract .mutationRejected tables
        pure none)
    (do
      let finalRules ← readLines io (.ruleShow .ipv4)
      ensure .mutationRejected (contract.ownedIpv4LookupTables finalRules).isEmpty)
    maxReconcilePasses

/-! ## The permitting lookup -/

def matchingTables (interface : Text) : List Text → Exec σ RootPolicyFailure (List Text)
  | [] => pure []
  | table :: rest => do
      let route ← readResult io (.routeShow table)
      let matching ← matchingTables interface rest
      if route.exitCode = 0 ∧ routeHasDefaultOnInterface (parseLines route.stdout) interface then
        pure (table :: matching)
      else pure matching

def discoverValidatedIpv4Table (rules : List Text) (interface : Text) :
    Exec σ RootPolicyFailure Text := do
  match ← matchingTables io interface (referencedTables rules) with
  | [table] => pure table
  | _ => fail .routeTableDiscoveryFailed

def replaceIpv4Lookup (table : Text) : Exec σ RootPolicyFailure Unit := do
  let rules ← readLines io (.ruleShow .ipv4)
  let existing := contract.ownedIpv4LookupTables rules
  deleteLookups io contract .lookupRuleCreationFailed (existing.filter fun other => other != table)
  let afterDelete ← readLines io (.ruleShow .ipv4)
  if (contract.ownedIpv4LookupTables afterDelete).contains table then
    pure ()
  else do
    let add ← require .lookupRuleCreationFailed (ipv4LookupAdd contract table)
    issue io add
    let afterAdd ← readLines io (.ruleShow .ipv4)
    ensure .lookupRuleCreationFailed ((contract.ownedIpv4LookupTables afterAdd).contains table)

/-- Installs the lookup and validates the route; a route over another interface removes
the lookup again, whether or not the removal succeeds. -/
def applyAdmitted (table interface : Text) : Exec σ RootPolicyFailure Unit := do
  replaceIpv4Lookup io contract table
  let identity ← require .structuralMismatch contract.activeIdentity
  let route ← readResult io (.routeGet identity.markHex)
  if route.exitCode ≠ 0 ∨ routeGetUsesInterface route.stdout interface = false then do
    let _ ← attempt (removeOwnedIpv4Lookups io contract)
    fail .routeLookupVerificationFailed
  else pure ()

/-! ## The transaction -/

variable (isCurrent : σ → Bool × σ)

/-- The changes that lead to the fail-closed base. The initial snapshot is reused only to
find that nothing has to be done. -/
def prepareFailClosed (fuel : Nat) (initial : RootPolicySnapshot) :
    Exec σ (Option RootPolicyFailure) Unit := do
  skipIf (hasOwnedGuard contract .ipv4 initial.ipv4Rules)
    (mapError some (ensureGuard io contract .ipv4))
  skipIf (hasOwnedGuard contract .ipv6 initial.ipv6Rules)
    (mapError some (ensureGuard io contract .ipv6))
  skipIf (contract.ownedIpv4LookupTables initial.ipv4Rules).isEmpty
    (mapError some (removeOwnedIpv4Lookups io contract))
  skipIf (contract.mangleFamilyState initial.ipv4Mangle .ipv4 = some .attachedExact)
    (ensureMangleFamily io contract fuel .ipv4)
  skipIf (contract.mangleFamilyState initial.ipv6Mangle .ipv6 = some .attachedExact)
    (ensureMangleFamily io contract fuel .ipv6)
  mapError some (removeLegacySelector io contract .ipv4)
  mapError some (removeLegacySelector io contract .ipv6)

def verifyFailClosed : Exec σ RootPolicyFailure RootPolicySnapshot := do
  let failClosed ← readSnapshot io
  match contract.verifyFailClosedBase failClosed with
  | .error _ => fail .structuralMismatch
  | .ok () => pure failClosed

/-- The part behind the verified base. -/
def reconcileAdmitted (failClosed : RootPolicySnapshot) (admitted : Bool)
    (interface : Option Text) : Exec σ (Option RootPolicyReconcileOutcome) RootPolicyResult := do
  if admitted then
    match interface.filter isSafeInterfaceName with
    | none => fail (failClosedOutcome (some .invalidInterface))
    | some interface => do
        let table ← mapError (fun failure => failClosedOutcome (some failure))
          (discoverValidatedIpv4Table io failClosed.ipv4Rules interface)
        let current ← lift isCurrent
        if current then do
          mapError (fun failure => failClosedOutcome (some failure))
            (applyAdmitted io contract table interface)
          pure .enforced
        else fail (some .superseded)
  else pure (.failClosed none)

def reconcileSelected (fuel : Nat) (initial : RootPolicySnapshot) (admitted : Bool)
    (interface : Option Text) : Exec σ (Option RootPolicyReconcileOutcome) RootPolicyResult := do
  mapError failClosedOutcome (prepareFailClosed io contract fuel initial)
  let failClosed ← mapError (fun failure => failClosedOutcome (some failure))
    (verifyFailClosed io contract)
  let current ← lift isCurrent
  if current then reconcileAdmitted io contract isCurrent failClosed admitted interface
  else fail (some .superseded)

/-- The failure of a run without a usable identity. The permitting lookups of an active
identity are removed all the same. -/
def reconcileCollision : Exec σ ε RootPolicyFailure := do
  if contract.activeIdentity.isSome then
    match ← attempt (removeOwnedIpv4Lookups io contract) with
    | .error _ => pure .mutationRejected
    | .ok () => pure .reservedPolicyCollision
  else pure .reservedPolicyCollision

def reconcileAuthorized (fuel : Nat) (admitted : Bool) (interface : Option Text) :
    Exec σ ε (Option RootPolicyReconcileOutcome × RootPolicyContract) := do
  match ← attempt (readSnapshot io) with
  | .error failure => pure (failClosedOutcome (some failure), contract)
  | .ok initial => do
      let current ← lift isCurrent
      if current then
        match contract.resolveIdentity initial with
        | (.collision, contract) => do
            let failure ← reconcileCollision io contract
            pure (failClosedOutcome (some failure), contract)
        | (.selected _, contract) => do
            match ← attempt
              (reconcileSelected io contract isCurrent fuel initial admitted interface) with
            | .error outcome => pure (outcome, contract)
            | .ok result => pure (some (.completed result), contract)
      else pure (some .superseded, contract)

/-! ## Authority -/

def readMangleRaw (family : Family) : Exec σ Unit (List Text) := do
  let result ← mapError (fun _ => ()) (io.rawObservation (.mangleShow family))
  if !result.timedOut && result.outputComplete && result.exitCode == 0 then
    pure (parseLines result.stdout)
  else fail ()

/-- Deletes the jumps of former uids when the chain is in an exact known state. -/
def bootstrapFamily (family : Family) : Exec σ Unit Unit := do
  let before ← readMangleRaw io family
  let staleUids := contract.staleOwnerJumpUids before
  if staleUids.isEmpty || !contract.isExactKnownProductState before family then
    pure ()
  else do
    forEach (fun uid => mapError (fun _ => ())
      (io.mutate (staleOwnerJumpDelete contract family uid))) staleUids
    let after ← readMangleRaw io family
    if (contract.staleOwnerJumpUids after).isEmpty then pure () else fail ()

def bootstrapStaleOwnerJumps : Exec σ ε Bool := do
  match ← attempt (do
      bootstrapFamily io contract .ipv4
      bootstrapFamily io contract .ipv6) with
  | .ok () => pure true
  | .error () => pure false

/-- The part of the probe that follows a granted root identity. -/
def probeRules (state : RootPolicyState) : Exec σ ε (RootAuthorityStatus × RootPolicyState) := do
  match ← attempt (io.rawObservation (.ruleShow .ipv4)) with
  | .error _ => pure (.incomplete, state)
  | .ok rules =>
      if rules.timedOut || !rules.outputComplete || rules.exitCode != 0 ||
          (trim rules.stdout).isEmpty then
        pure (.incomplete, state)
      else do
        let bootstrapped ← bootstrapStaleOwnerJumps io state.contract
        if bootstrapped then do
          let generation ← lift io.sessionGeneration
          pure (if generation.isSome then .ready else .incomplete,
            { state with readySessionGeneration := generation })
        else pure (.incomplete, state)

def probeIdentity (state : RootPolicyState) : Exec σ ε (RootAuthorityStatus × RootPolicyState) := do
  match ← attempt (io.rawObservation .userId) with
  | .error _ => pure (.unavailable, state)
  | .ok identity =>
      if identity.timedOut then
        pure (.interactiveGrantRequired,
          { state with terminalAuthority := some .interactiveGrantRequired })
      else if identity.exitCode = 126 ∨ identity.exitCode = 127 then
        pure (.unavailable, state)
      else if 0 < identity.exitCode ∨ trim identity.stdout ≠ "0".toList then
        pure (.denied, { state with terminalAuthority := some .denied })
      else if !identity.outputComplete || identity.exitCode != 0 then
        pure (.incomplete, state)
      else probeRules io state

def probeAuthority (state : RootPolicyState) : Exec σ ε (RootAuthorityStatus × RootPolicyState) :=
  match state.terminalAuthority with
  | some terminal => pure (terminal, state)
  | none => do
      let generation ← lift io.sessionGeneration
      if generation.isSome ∧ generation = state.readySessionGeneration then
        pure (.ready, state)
      else probeIdentity io { state with readySessionGeneration := none }

def reconcileIfCurrent (fuel : Nat) (state : RootPolicyState) (admitted : Bool)
    (interface : Option Text) :
    Exec σ ε (Option RootPolicyReconcileOutcome × RootPolicyState) := do
  let current ← lift isCurrent
  if current then do
    let (authority, state) ← probeAuthority io state
    if authority = .ready then do
      let current ← lift isCurrent
      if current then do
        let (outcome, contract) ←
          reconcileAuthorized io state.contract isCurrent fuel admitted interface
        pure (outcome, { state with contract })
      else pure (some .superseded, state)
    else pure (some (.completed (.authorityUnavailable authority)), state)
  else pure (some .superseded, state)

end

/-! ## Only an admitted request ends enforced -/

section

variable {σ ε : Type} {io : RootPolicyIo σ} {con : RootPolicyContract} {isCurrent : σ → Bool × σ}
  {admitted : Bool} {interface : Option Text} {s : σ}

theorem reconcileAdmitted_enforced (failClosed) :
    Ends (reconcileAdmitted io con isCurrent failClosed admitted interface)
      (fun result _ => result = .enforced → admitted = true)
      (fun outcome _ => outcome ≠ some (.completed .enforced)) s := by
  unfold reconcileAdmitted
  split_ifs with hadmitted
  · split
    · exact failClosedOutcome_ne_enforced _
    · rw [ends_bind, ends_mapError]
      refine ends_of_forall (fun table s => ?_) fun _ _ => failClosedOutcome_ne_enforced _
      refine ends_ite.mpr ⟨fun _ => ?_, fun _ => by simp⟩
      rw [ends_bind, ends_mapError]
      exact ends_of_forall (fun _ _ _ => hadmitted) fun _ _ => failClosedOutcome_ne_enforced _
  · exact fun h => by cases h

theorem reconcileSelected_enforced (fuel initial) :
    Ends (reconcileSelected io con isCurrent fuel initial admitted interface)
      (fun result _ => result = .enforced → admitted = true)
      (fun outcome _ => outcome ≠ some (.completed .enforced)) s := by
  unfold reconcileSelected
  rw [ends_bind, ends_mapError]
  refine ends_of_forall (fun _ _ => ?_) fun _ _ => failClosedOutcome_ne_enforced _
  rw [ends_bind, ends_mapError]
  refine ends_of_forall (fun failClosed _ => ?_) fun _ _ => failClosedOutcome_ne_enforced _
  refine ends_ite.mpr ⟨fun _ => ?_, fun _ => by simp⟩
  exact reconcileAdmitted_enforced failClosed

theorem reconcileAuthorized_enforced (fuel) :
    Ends (reconcileAuthorized io con isCurrent fuel admitted interface : Exec σ ε _)
      (fun answer _ => answer.1 = some (.completed .enforced) → admitted = true)
      (fun _ _ => True) s := by
  have hfailed : ∀ failure, failClosedOutcome failure = some (.completed .enforced) →
      admitted = true :=
    fun _ h => absurd h (failClosedOutcome_ne_enforced _)
  unfold reconcileAuthorized
  rw [ends_bind, ends_attempt]
  refine ends_of_forall (fun initial _ => ?_) fun failure _ => hfailed (some failure)
  refine ends_ite.mpr ⟨fun _ => ?_, fun _ h => by cases h⟩
  split
  · rw [ends_bind]
    exact ends_of_forall (fun failure _ => hfailed (some failure)) fun _ _ => trivial
  · rw [ends_bind, ends_attempt]
    refine ends_mono (reconcileSelected_enforced fuel initial) (fun result _ h henf => ?_)
      fun _ _ hne henf => absurd henf hne
    cases henf
    exact h rfl

theorem reconcileIfCurrent_enforced (fuel state) :
    Ends (reconcileIfCurrent io isCurrent fuel state admitted interface : Exec σ ε _)
      (fun answer _ => answer.1 = some (.completed .enforced) → admitted = true)
      (fun _ _ => True) s := by
  unfold reconcileIfCurrent
  refine ends_ite.mpr ⟨fun _ => ?_, fun _ h => by cases h⟩
  rw [ends_bind]
  refine ends_of_forall (fun authority _ => ?_) fun _ _ => trivial
  refine ends_ite.mpr ⟨fun _ => ?_, fun _ h => by cases h⟩
  refine ends_ite.mpr ⟨fun _ => ?_, fun _ h => by cases h⟩
  rw [ends_bind]
  exact (reconcileAuthorized_enforced fuel).imp fun _ _ h => h

end

end MishProxy.Runtime
