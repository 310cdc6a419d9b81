import MishProxy.Cellular.Identity

/-!
# The collision audit of mangle OUTPUT

`auditMangleOutput` walks OUTPUT and the user-defined chains reachable from it in the lines of one
listing, and answers whether a rule other than the allowed product lines can touch the candidate
mark.

The depth-first walk colours the chains: a chain met again while it is still open closes a cycle.
Every nested call of `visit` opens a declared chain that was not open before, so a depth of one
more than the declared chains is enough (`Cellular/AuditWalk.lean`).
-/

namespace MishProxy.Cellular

open Text

inductive MangleAuditResult where
  | clean
  | collision
  | ambiguous
  deriving DecidableEq, Repr

/-- The options that name the target of a rule. -/
def isTargetOption (token : Text) : Bool :=
  token == "-j".toList || token == "--jump".toList || token == "-g".toList ||
    token == "--goto".toList

/-- The first value of a mask option, when it is a 32-bit number. -/
def optionMask (tokens : List Text) (option : Text) : Option Nat :=
  ((tokenAfter tokens option).bind parseUnsigned).filter fun value => value ≤ ipv4FullMask

/-- The tokens the audit of a rule looks at. -/
inductive MarkToken where
  | target
  | spec
  | mask
  | copy
  | unmasked
  | other
  deriving DecidableEq, Repr

def markToken (token : Text) : MarkToken :=
  if isTargetOption token then .target
  else if token = "--mark".toList ∨ token = "--set-xmark".toList ∨
      token = "--set-mark".toList then .spec
  else if token = "--nfmask".toList ∨ token = "--ctmask".toList then .mask
  else if token = "--restore-mark".toList ∨ token = "--save-mark".toList then .copy
  else if token = "--and-mark".toList ∨ token = "--or-mark".toList ∨
      token = "--xor-mark".toList then .unmasked
  else .other

/-- What the audit has seen of the rule so far. -/
structure MarkScan where
  sawKnownMarkOperation : Bool
  markTarget : Bool
  connmarkTarget : Bool

def auditMarkTokens (all : List Text) (candidateMark : Nat) :
    MarkScan → List Text → MangleAuditResult
  | scan, [] =>
      if (scan.markTarget || scan.connmarkTarget) && !scan.sawKnownMarkOperation then .ambiguous
      else .clean
  | scan, token :: rest =>
      let known : MarkScan := { scan with sawKnownMarkOperation := true }
      match markToken token with
      | .target =>
          match rest.head? with
          | none => .ambiguous
          | some target =>
              auditMarkTokens all candidateMark
                { scan with
                  markTarget := scan.markTarget || target == "MARK".toList
                  connmarkTarget := scan.connmarkTarget || target == "CONNMARK".toList } rest
      | .spec =>
          match rest.head?.bind fun spec => markSpecTouches spec candidateMark with
          | some true => .collision
          | some false => auditMarkTokens all candidateMark known rest
          | none => .ambiguous
      | .mask =>
          match rest.head?.bind parseUnsigned with
          | none => .ambiguous
          | some mask =>
              if mask > ipv4FullMask then .ambiguous
              else if mask &&& candidateMark ≠ 0 then .collision
              else auditMarkTokens all candidateMark known rest
      | .copy =>
          let nfmask := (optionMask all "--nfmask".toList).getD ipv4FullMask
          let ctmask := (optionMask all "--ctmask".toList).getD ipv4FullMask
          if nfmask &&& candidateMark ≠ 0 ∨ ctmask &&& candidateMark ≠ 0 then .collision
          else auditMarkTokens all candidateMark known rest
      | .unmasked => .collision
      | .other => auditMarkTokens all candidateMark scan rest

def auditMarkSemantics (tokens : List Text) (candidateMark : Nat) : MangleAuditResult :=
  auditMarkTokens tokens candidateMark ⟨false, false, false⟩ tokens

inductive ChainTarget where
  | none
  | malformed
  | named (chain : Text)
  deriving DecidableEq, Repr

def chainTargetFrom : Option Text → List Text → ChainTarget
  | target, [] =>
      match target with
      | some chain => .named chain
      | none => .none
  | target, token :: rest =>
      if isTargetOption token then
        match rest.head? with
        | none => .malformed
        | some candidate =>
            if startsWith candidate ['-'] then .malformed
            else match target with
              | some existing =>
                  if existing ≠ candidate then .malformed else chainTargetFrom (some candidate) rest
              | none => chainTargetFrom (some candidate) rest
      else chainTargetFrom target rest

def chainTarget (tokens : List Text) : ChainTarget := chainTargetFrom none tokens

/-! ## The table of a listing -/

/-- The declared user chains and the token lists of the rules, in listing order. -/
structure MangleTable where
  userChains : List Text
  rules : List (List Text)

/-- The chain a rule belongs to. -/
def ruleChain (tokens : List Text) : Option Text := tokens[1]?

def MangleTable.rulesOf (table : MangleTable) (chain : Text) : List (List Text) :=
  table.rules.filter fun tokens => ruleChain tokens == some chain

def normalizedLines (lines : List Text) : List Text :=
  (lines.map trim).filter fun line => !line.isEmpty

/-- The declarations and rules of the lines; none when one of them is malformed or a
chain is declared twice. -/
def readTable : MangleTable → List Text → Option MangleTable
  | table, [] => some table
  | table, line :: rest =>
      let tokens := splitWhitespace line
      match tokens with
      | [] => readTable table rest
      | first :: _ =>
          if first = "-N".toList then
            match tokens with
            | [_, chain] =>
                if isSafeChainName chain ∧ chain ∉ table.userChains then
                  readTable { table with userChains := table.userChains ++ [chain] } rest
                else none
            | _ => none
          else if first = "-A".toList then
            match tokens with
            | _ :: chain :: _ :: _ =>
                if isSafeChainName chain then
                  readTable { table with rules := table.rules ++ [tokens] } rest
                else none
            | _ => none
          else readTable table rest

/-! ## The walk -/

inductive VisitState where
  | visiting
  | visited
  deriving DecidableEq, Repr

abbrev VisitStates := List (Text × VisitState)

/-- The mark semantics of a rule; the product's own lines are exempt. -/
def ruleSemantics (allowed : List Text) (candidateMark : Nat) (tokens : List Text) :
    MangleAuditResult :=
  if joinTokens tokens ∈ allowed then .clean else auditMarkSemantics tokens candidateMark

/-- Audit one rule; `enter` visits the declared chain it names. -/
def auditRule (table : MangleTable) (allowed : List Text) (candidateMark : Nat)
    (enter : Text → VisitStates → MangleAuditResult × VisitStates)
    (tokens : List Text) (states : VisitStates) : MangleAuditResult × VisitStates :=
  match ruleSemantics allowed candidateMark tokens with
  | .clean =>
      match chainTarget tokens with
      | .malformed => (.ambiguous, states)
      | .none => (.clean, states)
      | .named target =>
          if target ∈ table.userChains then enter target states
          else if table.rulesOf target = [] then (.clean, states)
          else (.ambiguous, states)
  | other => (other, states)

/-- Audit the rules of one chain in order, up to the first that is not clean. -/
def visitRules (audit : List Text → VisitStates → MangleAuditResult × VisitStates) :
    List (List Text) → VisitStates → MangleAuditResult × VisitStates
  | [], states => (.clean, states)
  | tokens :: rest, states =>
      match audit tokens states with
      | (.clean, states') => visitRules audit rest states'
      | (other, states') => (other, states')

def visit (table : MangleTable) (allowed : List Text) (candidateMark : Nat) :
    Nat → Text → VisitStates → MangleAuditResult × VisitStates
  | 0, _, states => (.ambiguous, states)
  | depth + 1, chain, states =>
      match states.lookup chain with
      | some .visiting => (.ambiguous, states)
      | some .visited => (.clean, states)
      | none =>
          match visitRules
              (auditRule table allowed candidateMark (visit table allowed candidateMark depth))
              (table.rulesOf chain) ((chain, .visiting) :: states) with
          | (.clean, states') => (.clean, (chain, .visited) :: states')
          | (other, states') => (other, states')

def outputChain : Text := "OUTPUT".toList

def auditMangleOutput (lines allowed : List Text) (mishChain : Text) (candidateMark : Nat) :
    MangleAuditResult :=
  if candidateMark = 0 then .ambiguous
  else if (normalizedLines lines).any fun line => contains line mishChain && line ∉ allowed then
    .collision
  else
    match readTable ⟨[], []⟩ (normalizedLines lines) with
    | none => .ambiguous
    | some table =>
        (visit table allowed candidateMark (table.userChains.length + 2) outputChain []).1

end MishProxy.Cellular
