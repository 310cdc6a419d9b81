import MishProxy.Cellular.Ownership
import MishProxy.Effects.Exec
import MishProxy.Session.Command

/-!
# Commands and effects of the root policy

The commands the policy transaction issues, each with the shell text it is written as,
and the interface through which they are executed: observations, which may fail, and
mutations, which may be rejected or end in an uncertain state.

The contract builds every command; the builders stand here under the names of the
source, and the texts are those of its format strings.
-/

namespace MishProxy.Runtime

open Text Cellular Routing Effects Session

inductive RootPolicyEffectFailure where
  | observationUnavailable
  | observationIncomplete
  | mutationRejected
  | mutationUncertain
  deriving DecidableEq, Repr

/-- What follows `-t mangle`. A rule is appended as the line of a listing; a deletion and
a check name the line without its `-A`. -/
inductive MangleOperation where
  | create (chain : Text)
  | flush (chain : Text)
  | delete (chain : Text)
  | append (rule : Text)
  | remove (spec : Text)
  | check (spec : Text)
  deriving DecidableEq

def MangleOperation.text : MangleOperation → Text
  | create chain => "-N ".toList ++ chain
  | flush chain => "-F ".toList ++ chain
  | delete chain => "-X ".toList ++ chain
  | append rule => rule
  | remove spec => "-D ".toList ++ spec
  | check spec => "-C ".toList ++ spec

inductive PolicyCommand where
  | userId
  | ruleShow (family : Family)
  | mangleShow (family : Family)
  | routeShow (table : Text)
  | routeGet (mark : Text)
  | ruleAdd (family : Family) (attributes : RuleAttributes)
  | ruleDelete (family : Family) (attributes : RuleAttributes)
  | mangle (family : Family) (operation : MangleOperation)
  deriving DecidableEq

def ruleText (attributes : RuleAttributes) : Text :=
  "pref ".toList ++ decimal attributes.priority ++ " fwmark ".toList ++ attributes.fwmark ++
    ' ' :: joinTokens attributes.action.tokens

def PolicyCommand.text : PolicyCommand → Text
  | userId => "id -u".toList
  | ruleShow family => "ip ".toList ++ family.flag ++ " rule show".toList
  | mangleShow family => family.binary ++ " -t mangle -S".toList
  | routeShow table => "ip -4 route show table ".toList ++ table ++ " default".toList
  | routeGet mark => "ip -4 route get 1.1.1.1 mark ".toList ++ mark
  | ruleAdd family attributes =>
      "ip ".toList ++ family.flag ++ " rule add ".toList ++ ruleText attributes
  | ruleDelete family attributes =>
      "ip ".toList ++ family.flag ++ " rule del ".toList ++ ruleText attributes
  | mangle family operation => family.binary ++ " -t mangle ".toList ++ operation.text

/-- The command that permits traffic again. -/
def isLookupAdd : PolicyCommand → Bool
  | .ruleAdd _ attributes =>
      match attributes.action with
      | .lookup _ => true
      | _ => false
  | _ => false

/-! ## Builders -/

section

variable (contract : RootPolicyContract)

def outputJumpSpec (uid : Nat) (chain : Text) : Text :=
  "OUTPUT -m owner --uid-owner ".toList ++ decimal uid ++ " -j ".toList ++ chain

def staleOwnerJumpDelete (family : Family) (staleUid : Nat) : PolicyCommand :=
  .mangle family (.remove (outputJumpSpec staleUid contract.chainName))

def outputJumpDelete (family : Family) : PolicyCommand :=
  .mangle family (.remove (outputJumpSpec contract.productUid contract.chainName))

def outputJumpAdd (family : Family) : PolicyCommand :=
  .mangle family (.append contract.outputJump)

def createChainCommand (family : Family) : PolicyCommand :=
  .mangle family (.create contract.chainName)

def flushChainCommand (family : Family) : PolicyCommand :=
  .mangle family (.flush contract.chainName)

def deleteChainCommand (family : Family) : PolicyCommand :=
  .mangle family (.delete contract.chainName)

def legacySelectorCheck (family : Family) : PolicyCommand :=
  .mangle family (.check contract.legacySelectorSpec)

def legacySelectorDelete (family : Family) : PolicyCommand :=
  .mangle family (.remove contract.legacySelectorSpec)

def guardAdd (family : Family) : Option PolicyCommand :=
  contract.activeIdentity.map fun identity => .ruleAdd family (guardAttributes identity)

def guardDelete (family : Family) : Option PolicyCommand :=
  contract.activeIdentity.map fun identity => .ruleDelete family (guardAttributes identity)

def ipv4GuardAdd : Option PolicyCommand := guardAdd contract .ipv4

def ipv6GuardAdd : Option PolicyCommand := guardAdd contract .ipv6

def ipv4GuardDelete : Option PolicyCommand := guardDelete contract .ipv4

def ipv6GuardDelete : Option PolicyCommand := guardDelete contract .ipv6

def ipv4LookupAdd (table : Text) : Option PolicyCommand :=
  if isSafeTableToken table then
    contract.activeIdentity.map fun identity => .ruleAdd .ipv4 (lookupAttributes identity table)
  else none

def ipv4LookupDelete (table : Text) : Option PolicyCommand :=
  if isSafeTableToken table then
    contract.activeIdentity.map fun identity => .ruleDelete .ipv4 (lookupAttributes identity table)
  else none

end

example : (staleOwnerJumpDelete .sample .ipv6 10077).text =
    "ip6tables -t mangle -D OUTPUT -m owner --uid-owner 10077 -j MISH_EGRESS_V1".toList := by
  decide

example : (ipv4LookupAdd .sample "rmnet0".toList).map PolicyCommand.text =
    some "ip -4 rule add pref 9500 fwmark 0x200000/0x200000 lookup rmnet0".toList := by
  decide

/-! ## The interface -/

/-- The effects of the policy transaction over a world `σ`. -/
structure RootPolicyIo (σ : Type) where
  sessionGeneration : σ → Option Nat × σ
  rawObservation : PolicyCommand → Exec σ RootSessionError RootCommandResult
  observe : PolicyCommand → Exec σ RootPolicyEffectFailure RootCommandResult
  lines : PolicyCommand → Exec σ RootPolicyEffectFailure (List Text)
  mutate : PolicyCommand → Exec σ RootPolicyEffectFailure Unit

/-- Trimmed lines that are not empty. -/
def parseLines (stdout : Text) : List Text :=
  ((lines stdout).map trim).filter fun line => !line.isEmpty

end MishProxy.Runtime
