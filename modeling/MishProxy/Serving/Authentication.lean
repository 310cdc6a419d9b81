import Mathlib.Data.Nat.Bitwise
import MishProxy.Credentials.Temporary
import MishProxy.Serving.ProxyCoordinator

/-!
# Proxy authentication

A login comes over HTTP, as the value of the `Proxy-Authorization` header, or over SOCKS5, as a
username and a password. A verifier knows the primary credential and, when a temporary grant is
installed, the temporary one with the gate of its grant.

* `constantTimeEq_iff`: the comparison without early exit is equality.
* `matches_iff`: a credential matches a login exactly when the login presents it.
-/

namespace MishProxy.Serving

open Credentials List

/-! ## Logins -/

/-- The loop over the longer of the two; `difference` collects every differing bit. -/
def constantTimeEq (expected supplied : Bytes) : Bool :=
  (List.range (max expected.length supplied.length)).foldl
    (fun difference index =>
      difference ||| (expected.getD index 0 ^^^ supplied.getD index 0).toNat)
    (expected.length ^^^ supplied.length) == 0

def base64Alphabet : Text :=
  "ABCDEFGHIJKLMNOPQRSTUVWXYZabcdefghijklmnopqrstuvwxyz0123456789+/".toList

def base64Digit (index : UInt8) : Char := base64Alphabet.getD index.toNat '='

/-- One chunk of at most three bytes; what is missing counts as zero. -/
def encodeBase64Chunk (first : UInt8) (second third : Option UInt8) : Text :=
  [base64Digit (first >>> 2),
    base64Digit (((first &&& 0x03) <<< 4) ||| (second.getD 0 >>> 4)),
    if second.isSome then base64Digit (((second.getD 0 &&& 0x0f) <<< 2) ||| (third.getD 0 >>> 6))
      else '=',
    if third.isSome then base64Digit (third.getD 0 &&& 0x3f) else '=']

def encodeBase64 : Bytes → Text
  | [] => []
  | [first] => encodeBase64Chunk first none none
  | [first, second] => encodeBase64Chunk first (some second) none
  | first :: second :: third :: rest =>
    encodeBase64Chunk first (some second) (some third) ++ encodeBase64 rest

inductive Login where
  | httpBasic (supplied : Text)
  | usernamePassword (username password : Bytes)
  deriving DecidableEq

namespace ProxyCredentialMaterial

variable (material : ProxyCredentialMaterial)

/-- `expected_basic_authorization`. -/
def basicAuthorizationValue : Text :=
  "Basic ".toList ++ encodeBase64 (utf8 material.username ++ utf8 [':'] ++ utf8 material.password)

def matchesHttpBasic (supplied : Text) : Bool :=
  constantTimeEq (utf8 material.basicAuthorizationValue) (utf8 supplied)

def matchesUsernamePassword (username password : Bytes) : Bool :=
  constantTimeEq (utf8 material.username) username &&
    constantTimeEq (utf8 material.password) password

def matchesLogin : Login → Bool
  | .httpBasic supplied => material.matchesHttpBasic supplied
  | .usernamePassword username password => material.matchesUsernamePassword username password

/-- The login is one with this credential. -/
def Presented : Login → Prop
  | .httpBasic supplied => supplied = material.basicAuthorizationValue
  | .usernamePassword username password =>
    username = utf8 material.username ∧ password = utf8 material.password

/-- `valid_socks_pair`; the lengths are those of the bytes. -/
def validSocksPair : Bool :=
  decide (1 ≤ (utf8 material.username).length ∧ (utf8 material.username).length ≤ 255) &&
    decide (1 ≤ (utf8 material.password).length ∧ (utf8 material.password).length ≤ 255)

end ProxyCredentialMaterial

theorem foldl_or_eq_zero_iff {α} (f : α → Nat) (start : Nat) (l : List α) :
    l.foldl (fun difference x => difference ||| f x) start = 0 ↔ start = 0 ∧ ∀ x ∈ l, f x = 0 := by
  induction l generalizing start with
  | nil => simp
  | cons x rest ih => rw [foldl_cons, ih, Nat.or_eq_zero_iff, forall_mem_cons, and_assoc]

theorem constantTimeEq_iff {expd supplied} :
    constantTimeEq expd supplied = true ↔ expd = supplied := by
  rw [constantTimeEq, beq_iff_eq, foldl_or_eq_zero_iff, Nat.xor_eq_zero_iff]
  constructor
  · rintro ⟨hlen, hbytes⟩
    refine ext_getElem hlen fun index hexp hsupplied => ?_
    have hzero := hbytes index (mem_range.mpr (lt_max_of_lt_left hexp))
    rw [getD_eq_getElem _ _ hexp, getD_eq_getElem _ _ hsupplied] at hzero
    exact UInt8.xor_eq_zero_iff.mp (UInt8.toNat_inj.mp hzero)
  · rintro rfl
    exact ⟨rfl, fun index _ => by simp⟩

theorem utf8_inj {left right : Text} : utf8 left = utf8 right ↔ left = right := by
  refine ⟨fun h => ?_, congrArg utf8⟩
  have hdecoded := congrArg fromUtf8 h
  rw [fromUtf8_utf8, fromUtf8_utf8] at hdecoded
  exact Option.some.inj hdecoded

theorem ProxyCredentialMaterial.matches_iff {material : ProxyCredentialMaterial} {login : Login} :
    material.matchesLogin login = true ↔ material.Presented login := by
  cases login with
  | httpBasic supplied =>
    show constantTimeEq _ _ = true ↔ supplied = _
    rw [constantTimeEq_iff, utf8_inj, eq_comm]
  | usernamePassword username password =>
    show (constantTimeEq _ _ && constantTimeEq _ _) = true ↔ username = _ ∧ password = _
    rw [Bool.and_eq_true, constantTimeEq_iff, constantTimeEq_iff, eq_comm, @eq_comm _ password]

/-! ## Verifiers -/

inductive ProxyPrincipal where
  | primary
  | temporary
  deriving DecidableEq, Repr

inductive ProxyPolicyError where
  | duplicateCredentialUsername
  | invalidTemporarySocks5Credential
  deriving DecidableEq, Repr

/-- The primary credential with one temporary grant. Its callback reads the gate of the grant
first and asks the owner of the credentials when the gate is open. -/
structure ProxyCredentialAdmission where
  primary : ProxyCredentialMaterial
  temporary : ProxyCredentialMaterial
  gate : Nat
  username_ne : primary.username ≠ temporary.username
  socks : temporary.validSocksPair = true
  deriving DecidableEq

def ProxyCredentialAdmission.withTemporary (primary temporary : ProxyCredentialMaterial)
    (gate : Nat) : Except ProxyPolicyError ProxyCredentialAdmission :=
  if hname : primary.username = temporary.username then .error .duplicateCredentialUsername
  else if hsocks : temporary.validSocksPair = true then
    .ok ⟨primary, temporary, gate, hname, hsocks⟩
  else .error .invalidTemporarySocks5Credential

inductive ProxyVerifier where
  | material (primary : ProxyCredentialMaterial)
  | granted (admission : ProxyCredentialAdmission)
  deriving DecidableEq

/-- What a verifier is asked: to classify a login, or whether the relay of an authenticated
temporary session may go on (`temporary_session_available`). -/
inductive AuthorizationCheck where
  | classify (login : Login)
  | relay
  deriving DecidableEq

inductive CheckAnswer where
  | classified (principal : Option ProxyPrincipal)
  | relay (available : Bool)
  deriving DecidableEq

/-- The answer is good for the temporary grant only. -/
def CheckAnswer.admitsTemporary : CheckAnswer → Bool
  | .classified principal => principal = some .temporary
  | .relay available => available

/-- What a check has found without its callback: the answer, or that the callback decides. -/
inductive Inspection where
  | answered (answer : CheckAnswer)
  | gated (gate : Nat)
  deriving DecidableEq

def ProxyVerifier.inspect : ProxyVerifier → AuthorizationCheck → Inspection
  | .material primary, .classify login =>
    .answered (.classified (if primary.matchesLogin login then some .primary else none))
  | .material _, .relay => .answered (.relay false)
  | .granted admission, .classify login =>
    if admission.primary.matchesLogin login then .answered (.classified (some .primary))
    else if admission.temporary.matchesLogin login then .gated admission.gate
    else .answered (.classified none)
  | .granted admission, .relay => .gated admission.gate

/-- The answer of a check that the callback decides. -/
def AuthorizationCheck.verdict (available : Bool) : AuthorizationCheck → CheckAnswer
  | .classify _ => .classified (if available then some .temporary else none)
  | .relay => .relay available

end MishProxy.Serving
