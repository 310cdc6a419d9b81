import MishProxy.Coordination.GatedConnect
import MishProxy.Serving.Authentication

/-!
# HTTP CONNECT requests

The parser of a CONNECT request, with the address literals of the standard library it reads.
`connect_authority_strict_iff`: the request target of an accepted request is a bracketed IPv6
literal, or a host without colon, in front of the decimal port that is returned, unless the port
has the plus sign that the number parser takes (`connect_plus_port`).
-/

namespace MishProxy.Serving

open Credentials Coordination Text List Option
open Probing.ReadinessRuntime (exists_of_bind_eq_ok)

/-! ## Targets -/

inductive ProxyTargetError where
  | emptyDomain
  | domainTooLong
  | invalidDomain
  | zeroPort
  deriving DecidableEq

def isAsciiControl (byte : UInt8) : Bool := byte.toNat < 32 || byte.toNat == 127

/-- `ProxyTargetHost::domain`. -/
def domainHost (domain : Text) : Except ProxyTargetError ProxyTargetHost :=
  if domain.isEmpty then .error .emptyDomain
  else if 255 < (utf8 domain).length then .error .domainTooLong
  else if (utf8 domain).any fun byte => byte == 0 || isAsciiControl byte then .error .invalidDomain
  else .ok (.domain domain)

/-- `ProxyConnectTarget::new`. -/
def connectTarget (host : ProxyTargetHost) (port : Nat) :
    Except ProxyTargetError ProxyConnectTarget :=
  if port = 0 then .error .zeroPort else .ok ⟨host, port⟩

def domainTarget (domain : Text) (port : Nat) : Except ProxyTargetError ProxyConnectTarget := do
  connectTarget (← domainHost domain) port

/-! ## Address literals -/

/-- `Parser::read_number`; a leading zero is one digit too many unless `zeros` are allowed. -/
def readNumber (radix digits largest : Nat) (zeros : Bool) (text : Text) : Option (Nat × Text) :=
  let run := text.takeWhile fun c => (digitValue radix c).isSome
  if run.isEmpty ∨ digits < run.length ∨
      (!zeros && decide (1 < run.length) && run.head? == some '0') then none
  else ((parseDigits radix 0 run).filter (· ≤ largest)).map fun n => (n, text.drop run.length)

def readSeparator (separator : Char) (first : Bool) (text : Text) : Option Text :=
  if first then some text else if text.head? = some separator then some text.tail else none

/-- `Parser::read_ipv4_addr`, with so many octets left. -/
def readOctets : Nat → Text → Option (List Nat × Text)
  | 0, text => some ([], text)
  | left + 1, text => do
    let (octet, rest) ← readNumber 10 3 255 false (← readSeparator '.' (left == 3) text)
    let (octets, rest) ← readOctets left rest
    some (octet :: octets, rest)

def parseIpv4 (text : Text) : Option (BitVec 32) :=
  match readOctets 4 text with
  | some (octets, []) => some (.ofNat 32 (octets.foldl (256 * · + ·) 0))
  | _ => none

/-- `read_groups`: the groups, and whether the last two are an IPv4 address. -/
def readGroups : Nat → Bool → Text → List Nat × Bool × Text
  | 0, _, text => ([], false, text)
  | left + 1, first, text =>
    let next := readSeparator ':' first text
    match if left = 0 then none else next.bind (readOctets 4) with
    | some (octets, rest) => ([256 * octets.getD 0 0 + octets.getD 1 0,
        256 * octets.getD 2 0 + octets.getD 3 0], true, rest)
    | none =>
      match next.bind (readNumber 16 4 0xffff true) with
      | none => ([], false, text)
      | some (group, rest) =>
        let (groups, ipv4, rest) := readGroups left false rest
        (group :: groups, ipv4, rest)

def parseIpv6 (text : Text) : Option (BitVec 128) :=
  let (head, ipv4, rest) := readGroups 8 true text
  let (groups, rest) :=
    if head.length = 8 then (head, rest)
    else if ipv4 || !startsWith rest "::".toList then ([], [':'])
    else
      let (tail, _, rest) := readGroups (7 - head.length) true (rest.drop 2)
      (head ++ List.replicate (8 - head.length - tail.length) 0 ++ tail, rest)
  if rest.isEmpty then some (.ofNat 128 (groups.foldl (65536 * · + ·) 0)) else none

/-! ## Requests -/

inductive HttpConnectError where
  | headerTooLarge
  | incompleteHeader
  | malformedHeader
  | malformedRequestLine
  | methodNotAllowed
  | unsupportedHttpVersion
  | duplicateProxyAuthorization
  | proxyAuthenticationRequired
  | proxyAuthenticationFailed
  | invalidTarget
  | target (error : ProxyTargetError)
  deriving DecidableEq

def parsePort (raw : Text) : Except HttpConnectError Nat :=
  (((parseRadix 10 65535 raw).filter (· ≠ 0)).map .ok).getD (.error .invalidTarget)

def rsplitOnce (separator : Char) (text : Text) : Option (Text × Text) :=
  (splitOnce separator text.reverse).map fun parts => (parts.2.reverse, parts.1.reverse)

def parseConnectAuthority (authority : Text) : Except HttpConnectError ProxyConnectTarget :=
  if authority.isEmpty || (utf8 authority).any isAsciiControl then .error .invalidTarget
  else if authority.head? = some '[' then
    match splitOnce ']' authority.tail with
    | some (host, ':' :: port) =>
      if host.isEmpty ∨ port.isEmpty ∨ ':' ∈ port then .error .invalidTarget
      else match parseIpv6 host with
        | none => .error .invalidTarget
        | some address => do (connectTarget (.ipv6 address) (← parsePort port)).mapError .target
    | _ => .error .invalidTarget
  else match rsplitOnce ':' authority with
    | none => .error .invalidTarget
    | some (host, raw) =>
      if host.isEmpty ∨ raw.isEmpty ∨ ':' ∈ host ∨ host.any (· ∈ ['/', '@', '#', '?']) then
        .error .invalidTarget
      else do
        let port ← parsePort raw
        match parseIpv4 host with
        | some address => (connectTarget (.ipv4 address) port).mapError .target
        | none =>
          if (parseIpv6 host).isSome then .error .invalidTarget
          else (domainTarget host port).mapError .target

def isAsciiWhitespace (c : Char) : Bool := c ∈ [' ', '\t', '\n', '\x0c', '\r']

/-- `split("\r\n")`. -/
def splitCrlf : Text → List Text
  | [] => [[]]
  | '\r' :: '\n' :: rest => [] :: splitCrlf rest
  | c :: rest =>
    let parts := splitCrlf rest
    (c :: parts.headD []) :: parts.tail

/-- The loop over the header lines, with the authorization found so far. -/
def readAuthorization : Option Text → List Text → Except HttpConnectError (Option Text)
  | found, [] => .ok found
  | found, line :: lines =>
    match splitOnce ':' line with
    | none => .error .malformedHeader
    | some (name, value) =>
      if name.isEmpty || name.any isAsciiWhitespace then .error .malformedHeader
      else if name.map Char.toLower = "proxy-authorization".toList then
        if found.isSome then .error .duplicateProxyAuthorization
        else readAuthorization (some (trim value)) lines
      else readAuthorization found lines

/-- The request target and the authorization of a header. -/
def readHeaderText (header : Text) : Except HttpConnectError (Text × Text) :=
  let lines := splitCrlf header
  match ((lines.headD []).splitOnP isAsciiWhitespace).filter fun word => !word.isEmpty with
  | [method, authority, version] =>
    if method ≠ "CONNECT".toList then .error .methodNotAllowed
    else if version ≠ "HTTP/1.1".toList ∧ version ≠ "HTTP/1.0".toList then
      .error .unsupportedHttpVersion
    else do
      match ← readAuthorization none lines.tail with
      | none => .error .proxyAuthenticationRequired
      | some supplied => .ok (authority, supplied)
  | _ => .error .malformedRequestLine

/-- What `parse_http_connect_request` does before it asks the authenticator. -/
def readHeader (request : Bytes) : Except HttpConnectError (Text × Text) :=
  if 16 * 1024 < request.length then .error .headerTooLarge
  else if !(utf8 "\r\n\r\n".toList).isSuffixOf request then .error .incompleteHeader
  else match fromUtf8 request with
    | none => .error .malformedHeader
    | some text => readHeaderText (text.take (text.length - 4))

/-- The trait: whether the credentials fit into a SOCKS5 login, and the logins they accept. -/
structure ProxyAuthenticator where
  socksCompatible : Bool
  accepts : Login → Bool

def parseHttpConnectRequest (credentials : ProxyAuthenticator) (request : Bytes) :
    Except HttpConnectError ProxyConnectTarget := do
  let (authority, supplied) ← readHeader request
  if credentials.accepts (.httpBasic supplied) then parseConnectAuthority authority
  else .error .proxyAuthenticationFailed

/-! ## What an accepted authority looks like -/

theorem splitOnce_eq_some {separator} {text first rest : Text}
    (h : splitOnce separator text = some (first, rest)) :
    text = first ++ separator :: rest ∧ separator ∉ first := by
  induction text generalizing first with
  | nil => cases h
  | cons c text ih =>
    rw [splitOnce] at h
    split at h
    · cases h
      simp [*]
    next hc =>
      obtain ⟨parts, hparts, heq⟩ := map_eq_some_iff.mp h
      cases heq
      obtain ⟨rfl, hfirst⟩ := ih hparts
      simp [hfirst, Ne.symm hc]

theorem rsplitOnce_eq_some {separator} {text first rest : Text}
    (h : rsplitOnce separator text = some (first, rest)) :
    text = first ++ separator :: rest ∧ separator ∉ rest := by
  obtain ⟨parts, hparts, heq⟩ := map_eq_some_iff.mp h
  cases heq
  obtain ⟨htext, hrest⟩ := splitOnce_eq_some hparts
  refine ⟨?_, fun hmem => hrest (mem_reverse.mp hmem)⟩
  rw [← text.reverse_reverse, htext]
  simp

theorem last_separator_unique {separator : Char} {first rest first' rest' : Text}
    (h : first ++ separator :: rest = first' ++ separator :: rest')
    (hrest : separator ∉ rest) (hrest' : separator ∉ rest') : rest = rest' := by
  have hsplit : ∀ (first : Text) {rest : Text}, separator ∉ rest →
      splitOnce separator (first ++ separator :: rest).reverse =
        some (rest.reverse, first.reverse) := by
    intro first rest hfree
    rw [reverse_append, reverse_cons, append_assoc]
    refine splitOnce_append ?_ _
    rintro c hc rfl
    exact hfree (mem_reverse.mp hc)
  have heq := hsplit first hrest
  rw [h, hsplit first' hrest'] at heq
  simpa using (congrArg (·.1) (some.inj heq)).symm

/-- Decimal digits that denote the port. -/
structure StrictPort (text : Text) (port : Nat) : Prop where
  digits : ∀ c ∈ text, c.isDigit = true
  denotes : parseDigits 10 0 text = some port
  range : 1 ≤ port ∧ port ≤ 65535

/-- `'[' IPv6 literal ']:' port`, or `host ':' port` with the address or the domain returned. -/
inductive StrictAuthority : Text → ProxyConnectTarget → Prop
  | bracketed {host text address port} (haddress : parseIpv6 host = some address)
      (hport : StrictPort text port) :
      StrictAuthority ('[' :: host ++ ']' :: ':' :: text) ⟨.ipv6 address, port⟩
  | dotted {host text address port} (hhost : ':' ∉ host)
      (haddress : parseIpv4 host = some address) (hport : StrictPort text port) :
      StrictAuthority (host ++ ':' :: text) ⟨.ipv4 address, port⟩
  | domain {host text port} (hhost : ':' ∉ host) (hport : StrictPort text port) :
      StrictAuthority (host ++ ':' :: text) ⟨.domain host, port⟩

/-- The text behind the last colon does not start with a plus sign. -/
def UnsignedPort (authority : Text) : Prop :=
  ∀ first text, authority = first ++ ':' :: text → ':' ∉ text → text.head? ≠ some '+'

theorem isDigit_of_digitValue {c v} (h : digitValue 10 c = some v) : c.isDigit = true := by
  obtain ⟨hval, hlt⟩ := filter_eq_some_iff.mp h
  have hlt := of_decide_eq_true hlt
  split_ifs at hval with hdigit <;> cases hval
  · simpa [Char.isDigit, Char.le_def] using hdigit
  · omega
  · omega

theorem isDigit_of_parseDigits {value n : Nat} {text : Text}
    (h : parseDigits 10 value text = some n) : ∀ c ∈ text, c.isDigit = true := by
  induction text generalizing value with
  | nil => simp
  | cons c text ih =>
    rw [parseDigits] at h
    split at h
    · cases h
    next hdigit => exact forall_mem_cons.mpr ⟨isDigit_of_digitValue hdigit, ih h⟩

/-- Without a plus sign the number parser reads digits only. -/
theorem strictPort_of_parsePort {raw : Text} {port} (h : parsePort raw = .ok port)
    (hsign : raw.head? ≠ some '+') : StrictPort raw port := by
  unfold parsePort parseRadix at h
  dsimp only at h
  split at h
  · exact absurd rfl hsign
  by_cases hempty : raw.isEmpty
  · simp [hempty] at h
  simp only [hempty] at h
  cases hnum : parseDigits 10 0 raw with
  | none => simp [hnum] at h
  | some n =>
    by_cases hn : n ≤ 65535 <;> by_cases hzero : n = 0 <;>
      simp [hnum, Option.filter, hn, hzero] at h
    subst h
    exact ⟨isDigit_of_parseDigits hnum, hnum, Nat.pos_of_ne_zero hzero, hn⟩

theorem StrictPort.unsigned {text : Text} {port} (h : StrictPort text port) :
    ':' ∉ text ∧ text.head? ≠ some '+' := by
  have hmem : ∀ {c : Char}, c.isDigit = false → c ∉ text := by
    intro c hc hmem
    simp [h.digits c hmem] at hc
  exact ⟨hmem rfl, fun hhead => hmem (c := '+') rfl (mem_of_head? hhead)⟩

theorem StrictAuthority.unsigned {auth tgt} (h : StrictAuthority auth tgt) : UnsignedPort auth := by
  obtain ⟨first, text, port, rfl, hport⟩ :
      ∃ first text port, auth = first ++ ':' :: text ∧ StrictPort text port := by
    cases h with
    | @bracketed host text _ port _ hport =>
      exact ⟨'[' :: host ++ [']'], text, port, by simp, hport⟩
    | @dotted host text _ port _ _ hport => exact ⟨host, text, port, rfl, hport⟩
    | @domain host text port _ hport => exact ⟨host, text, port, rfl, hport⟩
  intro first' text' heq hfree
  rw [← last_separator_unique heq hport.unsigned.1 hfree]
  exact hport.unsigned.2

theorem connectTarget_eq_ok {host port tgt}
    (h : (connectTarget host port).mapError HttpConnectError.target = .ok tgt) :
    tgt = ⟨host, port⟩ := by
  unfold connectTarget at h
  split at h <;> cases h
  rfl

theorem domainTarget_eq_ok {host port tgt}
    (h : (domainTarget host port).mapError HttpConnectError.target = .ok tgt) :
    tgt = ⟨.domain host, port⟩ := by
  unfold domainTarget domainHost at h
  split_ifs at h <;> try cases h
  exact connectTarget_eq_ok h

/-- An accepted authority is strict as soon as its port is. -/
theorem authority_shape {auth tgt} (h : parseConnectAuthority auth = .ok tgt) :
    ∃ first raw, auth = first ++ ':' :: raw ∧ ':' ∉ raw ∧ parsePort raw = .ok tgt.port ∧
      (StrictPort raw tgt.port → StrictAuthority auth tgt) := by
  unfold parseConnectAuthority at h
  split at h
  · cases h
  split at h
  next hbracket =>
    split at h
    next host raw hsplit =>
      split at h
      · cases h
      next hraw =>
        push Not at hraw
        split at h
        · cases h
        next addr haddress =>
          obtain ⟨port, hport, htarget⟩ := exists_of_bind_eq_ok h
          obtain rfl := connectTarget_eq_ok htarget
          obtain ⟨hauthority, -⟩ := splitOnce_eq_some hsplit
          have hauthority : auth = '[' :: host ++ ']' :: ':' :: raw := by
            rw [cons_append, ← hauthority]
            exact (cons_head?_tail hbracket).symm
          refine ⟨'[' :: host ++ [']'], raw, by simp [hauthority], hraw.2.2, hport, ?_⟩
          intro hstrict
          rw [hauthority]
          exact .bracketed haddress hstrict
    · cases h
  · split at h
    · cases h
    next host raw hsplit =>
      split at h
      · cases h
      next hhost =>
        push Not at hhost
        obtain ⟨port, hport, htarget⟩ := exists_of_bind_eq_ok h
        obtain ⟨rfl, hraw⟩ := rsplitOnce_eq_some hsplit
        split at htarget
        next addr haddress =>
          obtain rfl := connectTarget_eq_ok htarget
          exact ⟨host, raw, rfl, hraw, hport, .dotted hhost.2.2.1 haddress⟩
        · split at htarget
          · cases htarget
          · obtain rfl := domainTarget_eq_ok htarget
            exact ⟨host, raw, rfl, hraw, hport, .domain hhost.2.2.1⟩

theorem connect_authority_strict_iff {credentials request target}
    (h : parseHttpConnectRequest credentials request = .ok target) :
    ∃ authority supplied, readHeader request = .ok (authority, supplied) ∧
      (StrictAuthority authority target ↔ UnsignedPort authority) := by
  obtain ⟨⟨authority, supplied⟩, hheader, hrest⟩ := exists_of_bind_eq_ok h
  refine ⟨authority, supplied, hheader, StrictAuthority.unsigned, ?_⟩
  dsimp only at hrest
  split at hrest
  · obtain ⟨first, raw, hraw, hcolon, hport, hstrict⟩ := authority_shape hrest
    intro hunsigned
    exact hstrict (strictPort_of_parsePort hport (hunsigned first raw hraw hcolon))
  · cases hrest

theorem readHeader_utf8 {text : Text} (hlen : (utf8 text).length ≤ 16 * 1024)
    (hend : (utf8 "\r\n\r\n".toList).isSuffixOf (utf8 text) = true) :
    readHeader (utf8 text) = readHeaderText (text.take (text.length - 4)) := by
  rw [readHeader, if_neg (by omega), hend, fromUtf8_utf8]
  rfl

/-- A request with an authorization that every login passes. -/
def connectRequest (authority : String) : Text :=
  "CONNECT ".toList ++ authority.toList ++
    " HTTP/1.1\r\nProxy-Authorization: Basic dTpw\r\n\r\n".toList

theorem connect_authority_strict_plain : ∃ target authority supplied,
    parseHttpConnectRequest ⟨true, fun _ => true⟩ (utf8 (connectRequest "10.0.0.1:443")) =
      .ok target ∧
    readHeader (utf8 (connectRequest "10.0.0.1:443")) = .ok (authority, supplied) ∧
    (StrictAuthority authority target ↔ UnsignedPort authority) := by
  have hparse : parseHttpConnectRequest ⟨true, fun _ => true⟩
      (utf8 (connectRequest "10.0.0.1:443")) = .ok ⟨.ipv4 0x0a000001, 443⟩ := by
    rw [parseHttpConnectRequest, readHeader_utf8 (by decide +kernel) (by decide +kernel)]
    decide +kernel
  obtain ⟨authority, supplied, hheader, hiff⟩ := connect_authority_strict_iff hparse
  exact ⟨_, authority, supplied, hparse, hheader, hiff⟩

/-- The port `+443` is taken for 443. -/
theorem connect_plus_port : ∃ target supplied,
    parseHttpConnectRequest ⟨true, fun _ => true⟩ (utf8 (connectRequest "example.invalid:+443")) =
      .ok target ∧
    readHeader (utf8 (connectRequest "example.invalid:+443")) =
      .ok ("example.invalid:+443".toList, supplied) ∧
    ¬ StrictAuthority "example.invalid:+443".toList target := by
  refine ⟨⟨.domain "example.invalid".toList, 443⟩, "Basic dTpw".toList, ?_, ?_, ?_⟩
  · rw [parseHttpConnectRequest, readHeader_utf8 (by decide +kernel) (by decide +kernel)]
    decide +kernel
  · rw [readHeader_utf8 (by decide +kernel) (by decide +kernel)]
    decide +kernel
  · intro hstrict
    exact hstrict.unsigned "example.invalid".toList "+443".toList (by decide) (by decide) rfl

end MishProxy.Serving
