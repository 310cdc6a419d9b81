import MishProxy.Text.Basic

/-!
# Policy identities and the tokens of a rule

The bounded candidate set of policy identities (mark, lookup priority and guard
priority) for the two namespaces, and the token functions of the pure root-policy
contract: priorities and mark specifications are read from text here.

The marks of one namespace are distinct single bits of a 32-bit packet mark, and no
two candidates share a priority; `candidate_mark_bit` and `candidate_eq_of_usesPriority`
are the forms later files use.
-/

namespace MishProxy.Cellular

open Text

def u32Max : Nat := 0xffffffff

def u64Max : Nat := 0xffffffffffffffff

def ipv4FullMask : Nat := 0xffffffff

def maxReconcilePasses : Nat := 8

def releaseMishChain : Text := "MISH_EGRESS_V1".toList

def debugMishChain : Text := "MISH_DEBUG_EGRESS_V1".toList

inductive RootPolicyNamespace where
  | release
  | debug
  deriving DecidableEq, Repr

/-- The two address families, with the binary and the `ip` flag of each. -/
inductive Family where
  | ipv4
  | ipv6
  deriving DecidableEq, Repr

def Family.binary : Family → Text
  | .ipv4 => "iptables".toList
  | .ipv6 => "ip6tables".toList

def Family.flag : Family → Text
  | .ipv4 => "-4".toList
  | .ipv6 => "-6".toList

/-- The destination the family's chain lets pass unmarked. -/
def Family.loopback : Family → Text
  | .ipv4 => "127.0.0.0/8".toList
  | .ipv6 => "::1/128".toList

structure PolicyIdentity where
  markHex : Text
  markValue : Nat
  lookupPriority : Nat
  guardPriority : Nat
  deriving DecidableEq, Repr

def releasePolicyCandidates : List PolicyIdentity :=
  [⟨"0x200000".toList, 0x200000, 9500, 9501⟩,
   ⟨"0x400000".toList, 0x400000, 9520, 9521⟩,
   ⟨"0x800000".toList, 0x800000, 9540, 9541⟩,
   ⟨"0x1000000".toList, 0x1000000, 9560, 9561⟩]

def debugPolicyCandidates : List PolicyIdentity :=
  [⟨"0x2000000".toList, 0x2000000, 9580, 9581⟩,
   ⟨"0x4000000".toList, 0x4000000, 9600, 9601⟩,
   ⟨"0x8000000".toList, 0x8000000, 9620, 9621⟩,
   ⟨"0x10000000".toList, 0x10000000, 9640, 9641⟩]

def RootPolicyNamespace.candidates : RootPolicyNamespace → List PolicyIdentity
  | .release => releasePolicyCandidates
  | .debug => debugPolicyCandidates

def RootPolicyNamespace.chainName : RootPolicyNamespace → Text
  | .release => releaseMishChain
  | .debug => debugMishChain

/-- The mark of the first candidate, the only one the superseded selector used. -/
def RootPolicyNamespace.legacyMarkHex (ns : RootPolicyNamespace) : Text :=
  match ns.candidates with
  | [] => []
  | first :: _ => first.markHex

/-! ## Tokens -/

def tokenAfter (tokens : List Text) (keyword : Text) : Option Text :=
  match tokens with
  | [] => none
  | token :: rest => if token = keyword then rest.head? else tokenAfter rest keyword

theorem tokenAfter_append {keyword first} (h : keyword ∉ first)
    (second) : tokenAfter (first ++ second) keyword = tokenAfter second keyword := by
  induction first with
  | nil => rfl
  | cons token rest ih =>
    rw [List.mem_cons, not_or] at h
    rw [List.cons_append, tokenAfter, if_neg (Ne.symm h.1), ih h.2]

theorem tokenAfter_self (keyword rest) : tokenAfter (keyword :: rest) keyword = rest.head? := by
  rw [tokenAfter, if_pos rfl]

theorem tokenAfter_of_not_mem {keyword toks} (h : keyword ∉ toks) :
    tokenAfter toks keyword = none := by
  simpa [tokenAfter] using tokenAfter_append h []

def parseU32 (raw : Text) : Option Nat := parseRadix 10 u32Max raw

def parseUnsigned (raw : Text) : Option Nat :=
  match raw with
  | '0' :: 'x' :: hex => parseRadix 16 u64Max hex
  | '0' :: 'X' :: hex => parseRadix 16 u64Max hex
  | _ => parseRadix 10 u64Max raw

def rpdbPriority (line : Text) : Option Nat :=
  (splitOnce ':' (trim line)).bind fun parts => parseU32 parts.1

def markSpec (identity : PolicyIdentity) : Text := identity.markHex ++ '/' :: identity.markHex

/-- The value and the mask of a mark specification, both within 32 bits; a missing
mask is the full one. -/
def parseMarkSpec (spec : Text) : Option (Nat × Nat) :=
  match splitChar '/' spec with
  | [value] => (parseUnsigned value).bind fun v =>
      if v ≤ ipv4FullMask then some (v, ipv4FullMask) else none
  | [value, mask] => (parseUnsigned value).bind fun v => (parseUnsigned mask).bind fun m =>
      if v ≤ ipv4FullMask ∧ m ≤ ipv4FullMask then some (v, m) else none
  | _ => none

def markSpecTouches (spec : Text) (reservedMark : Nat) : Option Bool :=
  (parseMarkSpec spec).map fun parts => parts.2 &&& reservedMark != 0

def rpdbLineTouchesReservedMark (line : Text) (reservedMark : Nat) : Bool :=
  match tokenAfter (splitWhitespace line) "fwmark".toList with
  | none => false
  | some spec => (markSpecTouches spec reservedMark).getD true

def safeByte (c : Char) : Bool :=
  c.isAlphanum || c == '_' || c == '.' || c == '-'

/-- Table names and interface names are interpolated into commands, so they are
nonempty, bounded and free of shell characters. -/
def isSafeName (limit : Nat) (value : Text) : Bool :=
  !value.isEmpty && value.length ≤ limit && value.all safeByte

def isSafeInterfaceName (value : Text) : Bool := isSafeName 15 value

def isSafeTableToken (value : Text) : Bool := isSafeName 32 value

def isSafeChainName (value : Text) : Bool :=
  !value.isEmpty && value.length ≤ 28 && value.all fun c => safeByte c || c == ':' || c == '+'

/-! ## The candidates -/

variable {ns : RootPolicyNamespace} {ident : PolicyIdentity}

theorem candidate_mark_bit (h : ident ∈ ns.candidates) : ∃ k < 32, ident.markValue = 2 ^ k := by
  revert ident
  cases ns <;> decide

/-- The bit of the packet mark the identity reserves. -/
def PolicyIdentity.reservedBit (identity : PolicyIdentity) : Nat := identity.markValue.log2

theorem candidate_reservedBit (h : ident ∈ ns.candidates) :
    ident.reservedBit < 32 ∧ ident.markValue = 2 ^ ident.reservedBit := by
  obtain ⟨k, hk, hvalue⟩ := candidate_mark_bit h
  have hbit : ident.reservedBit = k := by
    rw [PolicyIdentity.reservedBit, hvalue, Nat.log2_two_pow]
  rw [hbit]
  exact ⟨hk, hvalue⟩

theorem parseMarkSpec_markSpec (h : ident ∈ ns.candidates) :
    parseMarkSpec (markSpec ident) = some (ident.markValue, ident.markValue) := by
  have hall : ∀ ident ∈ ns.candidates, parseMarkSpec (markSpec ident) =
      some (ident.markValue, ident.markValue) := by cases ns <;> decide
  exact hall ident h

/-- The identity has this priority, for its guard or its lookup. -/
def PolicyIdentity.UsesPriority (identity : PolicyIdentity) (priority : Nat) : Prop :=
  priority = identity.lookupPriority ∨ priority = identity.guardPriority

theorem candidate_eq_of_usesPriority {a b} (ha : a ∈ ns.candidates)
    (hb : b ∈ ns.candidates) {priority : Nat} (h : a.UsesPriority priority)
    (h' : b.UsesPriority priority) : a = b := by
  have hall : ∀ a ∈ ns.candidates, ∀ b ∈ ns.candidates,
      a.lookupPriority = b.lookupPriority ∨ a.lookupPriority = b.guardPriority ∨
        a.guardPriority = b.lookupPriority ∨ a.guardPriority = b.guardPriority → a = b := by
    cases ns <;> decide
  apply hall a ha b hb
  rcases h with rfl | rfl
  · rcases h' with h' | h'
    · exact .inl h'
    · exact .inr (.inl h')
  · rcases h' with h' | h'
    · exact .inr (.inr (.inl h'))
    · exact .inr (.inr (.inr h'))

end MishProxy.Cellular
