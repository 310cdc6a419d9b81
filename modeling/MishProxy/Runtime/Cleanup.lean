import MishProxy.Runtime.Reconcile

/-!
# Exact cleanup

`cleanupExact` removes the product's rules and chains and forgets the active identity.
Each removal loop makes at most `maxReconcilePasses` passes. The loops over lookups,
jumps and legacy selectors look once more when the passes are used up; the loop over
guards does not, and fails.
-/

namespace MishProxy.Runtime

open Text Cellular Routing Effects Effects.Exec Session

inductive RootPolicyCleanupFailure where
  | identityUnavailable
  | identityCollision
  | ipv4LookupDeleteFailed
  | ipv4OutputJumpDeleteFailed
  | ipv4LegacySelectorDeleteFailed
  | ipv4ChainDeleteFailed
  | ipv4GuardDeleteFailed
  | ipv6OutputJumpDeleteFailed
  | ipv6LegacySelectorDeleteFailed
  | ipv6ChainDeleteFailed
  | ipv6GuardDeleteFailed
  | finalVerificationFailed
  deriving DecidableEq, Repr

section

variable {σ : Type} (io : RootPolicyIo σ) (contract : RootPolicyContract)

def removeAllOutputJumps (family : Family) : Exec σ RootPolicyFailure Unit :=
  repeatUntil
    (do
      let lines ← readLines io (.mangleShow family)
      if contract.outputJumpCount lines = 0 then
        pure (some ())
      else do
        match ← attempt (io.mutate (outputJumpDelete contract family)) with
        | .ok () => pure none
        | .error .mutationUncertain => do
            let fresh ← readLines io (.mangleShow family)
            if contract.outputJumpCount fresh = 0 then pure (some ()) else fail .mutationUncertain
        | .error error => fail (mapEffectFailure error))
    (do
      let finalLines ← readLines io (.mangleShow family)
      ensure .mutationRejected (contract.outputJumpCount finalLines == 0))
    maxReconcilePasses

def removeOwnedChain (family : Family) : Exec σ RootPolicyFailure Unit := do
  let lines ← readLines io (.mangleShow family)
  if lines.contains contract.chainDefinition then do
    let expected ← require .exactCleanupFailed (ownedChainLinesOf contract family)
    let actual := RootPolicyContract.chainLines lines contract.chainName
    if actual.any fun line => !expected.contains line then
      fail .exactCleanupFailed
    else do
      issue io (flushChainCommand contract family)
      issue io (deleteChainCommand contract family)
      let fresh ← readLines io (.mangleShow family)
      ensure .exactCleanupFailed (!(fresh.any fun line => contains line contract.chainName))
  else pure ()

def guardDeleteOf : Family → Option PolicyCommand
  | .ipv4 => ipv4GuardDelete contract
  | .ipv6 => ipv6GuardDelete contract

def removeGuard (family : Family) : Exec σ RootPolicyFailure Unit :=
  repeatUntil
    (do
      let rules ← readLines io (.ruleShow family)
      if hasOwnedGuard contract family rules then do
        let delete ← require .exactCleanupFailed (guardDeleteOf contract family)
        issue io delete
        pure none
      else pure (some ()))
    (fail .exactCleanupFailed)
    maxReconcilePasses

/-- The outcomes of the two removals of a family; the chain and the guard go only when
both succeeded. -/
def cleanupFamily (family : Family) (chainFailure guardFailure : RootPolicyCleanupFailure) :
    Exec σ RootPolicyCleanupFailure (Bool × Bool) := do
  let jump ← attempt (removeAllOutputJumps io contract family)
  let legacy ← attempt (removeLegacySelector io contract family)
  if jump.isOk && legacy.isOk then do
    mapError (fun _ => chainFailure) (removeOwnedChain io contract family)
    mapError (fun _ => guardFailure) (removeGuard io contract family)
    pure (jump.isOk, legacy.isOk)
  else pure (jump.isOk, legacy.isOk)

def cleanupRules : Exec σ RootPolicyCleanupFailure Unit := do
  mapError (fun _ => .ipv4LookupDeleteFailed) (removeOwnedIpv4Lookups io contract)
  let (ipv4Jump, ipv4Legacy) ←
    cleanupFamily io contract .ipv4 .ipv4ChainDeleteFailed .ipv4GuardDeleteFailed
  let (ipv6Jump, ipv6Legacy) ←
    cleanupFamily io contract .ipv6 .ipv6ChainDeleteFailed .ipv6GuardDeleteFailed
  if !ipv4Jump then fail .ipv4OutputJumpDeleteFailed
  else if !ipv4Legacy then fail .ipv4LegacySelectorDeleteFailed
  else if !ipv6Jump then fail .ipv6OutputJumpDeleteFailed
  else if !ipv6Legacy then fail .ipv6LegacySelectorDeleteFailed
  else pure ()

/-- The removal for a contract with an active identity, and the final verification. A
failure comes with the state it leaves. -/
def cleanupSelected (state : RootPolicyState) :
    Exec σ (RootPolicyCleanupFailure × RootPolicyState) RootPolicyState := do
  mapError (fun failure => (failure, state)) (cleanupRules io state.contract)
  let (authority, state) ← probeAuthority io state
  if authority = .ready then do
    let finalSnapshot ← mapError (fun _ => (.finalVerificationFailed, state)) (readSnapshot io)
    if state.contract.verifyExactCleanup finalSnapshot then
      pure { state with contract := state.contract.clearActiveIdentity }
    else fail (.finalVerificationFailed, state)
  else fail (.finalVerificationFailed, state)

def cleanupExact (state : RootPolicyState) :
    Exec σ (RootPolicyCleanupFailure × RootPolicyState) RootPolicyState :=
  if state.contract.activeIdentity.isSome then
    cleanupSelected io state
  else do
    let snapshot ← mapError (fun _ => (.identityUnavailable, state)) (readSnapshot io)
    match state.contract.resolveIdentity snapshot with
    | (.collision, contract) =>
        if contract.hasAnyProductSignature snapshot then
          fail (.identityCollision, { state with contract })
        else pure { state with contract }
    | (.selected _, contract) => cleanupSelected io { state with contract }

end

end MishProxy.Runtime
