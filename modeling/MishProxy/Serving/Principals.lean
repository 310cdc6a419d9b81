import MishProxy.Serving.Authentication

/-!
# Principals over the two protocols

A header carries the username and the password in one string, a SOCKS5 login carries them apart.
`classified_alike_iff`: a pair has the same principal over both exactly when no credential of the
admission contains a colon; `colon_confuses_pairs` has two credentials with one header.
-/

namespace MishProxy.Serving

open Credentials List Option ProxyVerifier

/-! ## The header determines what it encodes -/

theorem toNat_joined {high low shift : UInt8} (hshift : shift.toNat < 8)
    (hhigh : high.toNat * 2 ^ shift.toNat < 256) (hlow : low.toNat < 2 ^ shift.toNat) :
    (high <<< shift ||| low).toNat = high.toNat * 2 ^ shift.toNat + low.toNat := by
  rw [UInt8.toNat_or, UInt8.toNat_shiftLeft, Nat.mod_eq_of_lt hshift, Nat.shiftLeft_eq,
    Nat.mod_eq_of_lt hhigh, ← Nat.shiftLeft_eq, ← Nat.shiftLeft_add_eq_or_of_lt hlow]

def base64Value (digit : Char) : Nat := base64Alphabet.idxOf digit

/-- Reads chunks of four digits back. -/
def decodeBase64 : Text → Bytes
  | w :: x :: y :: z :: rest =>
    let first := .ofNat (base64Value w * 4 + base64Value x / 16)
    let second := .ofNat (base64Value x % 16 * 16 + base64Value y / 4)
    if y = '=' then [first]
    else if z = '=' then [first, second]
    else first :: second :: .ofNat (base64Value y % 4 * 64 + base64Value z) :: decodeBase64 rest
  | _ => []

theorem base64Digit_facts {index : UInt8} (h : index.toNat < 64) :
    base64Value (base64Digit index) = index.toNat ∧ base64Digit index ≠ '=' := by
  have hdigits : ∀ n : Fin 64, base64Alphabet.idxOf (base64Alphabet.getD n '=') = n.val ∧
      base64Alphabet.getD n '=' ≠ '=' := by
    decide +kernel
  exact hdigits ⟨_, h⟩

theorem toNat_sextets (a b c : UInt8) : (a >>> 2).toNat = a.toNat / 4 ∧
    (((a &&& 0x03) <<< 4) ||| (b >>> 4)).toNat = a.toNat % 4 * 16 + b.toNat / 16 ∧
    (((b &&& 0x0f) <<< 2) ||| (c >>> 6)).toNat = b.toNat % 16 * 4 + c.toNat / 64 ∧
    (c &&& 0x3f).toNat = c.toNat % 64 := by
  have ha : (a &&& 0x03).toNat = a.toNat % 4 := Nat.and_two_pow_sub_one_eq_mod a.toNat 2
  have hb : (b &&& 0x0f).toNat = b.toNat % 16 := Nat.and_two_pow_sub_one_eq_mod b.toNat 4
  have hshift (x : UInt8) {n : UInt8} (hn : n.toNat < 8) :
      (x >>> n).toNat = x.toNat / 2 ^ n.toNat := by
    rw [UInt8.toNat_shiftRight, Nat.mod_eq_of_lt hn, Nat.shiftRight_eq_div_pow]
  have hb4 : (b >>> 4).toNat = b.toNat / 16 := hshift b (by decide)
  have hc6 : (c >>> 6).toNat = c.toNat / 64 := hshift c (by decide)
  have hblt := b.toNat_lt
  have hclt := c.toNat_lt
  refine ⟨hshift a (by decide), ?_, ?_, Nat.and_two_pow_sub_one_eq_mod c.toNat 6⟩
  · rw [toNat_joined (by decide) (by rw [ha]; show _ * 16 < _; omega)
      (by rw [hb4]; show _ < 16; omega), ha, hb4]
    rfl
  · rw [toNat_joined (by decide) (by rw [hb]; show _ * 4 < _; omega)
      (by rw [hc6]; show _ < 4; omega), hb, hc6]
    rfl

theorem sextets_decode (a b c : UInt8) : let w := base64Digit (a >>> 2)
    let x := base64Digit (((a &&& 0x03) <<< 4) ||| (b >>> 4))
    let y := base64Digit (((b &&& 0x0f) <<< 2) ||| (c >>> 6))
    let z := base64Digit (c &&& 0x3f)
    (UInt8.ofNat (base64Value w * 4 + base64Value x / 16) = a ∧
      UInt8.ofNat (base64Value x % 16 * 16 + base64Value y / 4) = b ∧
      UInt8.ofNat (base64Value y % 4 * 64 + base64Value z) = c) ∧ y ≠ '=' ∧ z ≠ '=' := by
  obtain ⟨h₁, h₂, h₃, h₄⟩ := toNat_sextets a b c
  have ha := a.toNat_lt
  have hb := b.toNat_lt
  have hc := c.toNat_lt
  have hbyte {byte : UInt8} {n : Nat} (h : byte.toNat = n) : UInt8.ofNat n = byte := by
    rw [← h, UInt8.ofNat_toNat]
  dsimp only
  rw [(base64Digit_facts (by omega)).1, (base64Digit_facts (by omega)).1,
    (base64Digit_facts (by omega)).1, (base64Digit_facts (by omega)).1, h₁, h₂, h₃, h₄]
  exact ⟨⟨hbyte (by omega), hbyte (by omega), hbyte (by omega)⟩, (base64Digit_facts (by omega)).2,
    (base64Digit_facts (by omega)).2⟩

theorem decodeBase64_encodeBase64 (bytes : Bytes) : decodeBase64 (encodeBase64 bytes) = bytes := by
  induction bytes using encodeBase64.induct with
  | case1 => rfl
  | case2 a =>
    have h := sextets_decode a 0 0
    exact congrArg (fun x => [x]) h.1.1
  | case3 a b =>
    have h := sextets_decode a b 0
    simp only [encodeBase64, encodeBase64Chunk, decodeBase64, getD_some, getD_none,
      isSome_some, reduceIte, h]
    rfl
  | case4 a b c rest ih =>
    have h := sextets_decode a b c
    simp only [encodeBase64, encodeBase64Chunk, cons_append, nil_append, decodeBase64,
      getD_some, isSome_some, reduceIte, h, ih]

/-! ## Pairs -/

/-- A username and a password behind each other, as a header has them. -/
def joinPair (username password : Bytes) : Bytes := username ++ utf8 [':'] ++ password

def basicAuthorization (username password : Bytes) : Text :=
  "Basic ".toList ++ encodeBase64 (joinPair username password)

@[simp] theorem utf8_colon : utf8 [':'] = [58] := rfl

section

variable {username password name secret : Bytes}

theorem joinPair_inj (h : 58 ∉ name ∧ 58 ∉ secret) :
    joinPair username password = joinPair name secret ↔ username = name ∧ password = secret := by
  refine ⟨fun heq => ?_, by rintro ⟨rfl, rfl⟩; rfl⟩
  have hcount : ∀ left right : Bytes,
      (joinPair left right).count 58 = left.count 58 + 1 + right.count 58 := by
    intro left right
    simp [joinPair, count_append]
    omega
  -- There is one colon, so the pair is split there.
  have hfree : 58 ∉ username := by
    rw [← count_eq_zero]
    have hone := congrArg (count 58) heq
    rw [hcount, hcount, count_eq_zero.mpr h.1, count_eq_zero.mpr h.2] at hone
    omega
  have htake {left : Bytes} (hleft : 58 ∉ left) (right : Bytes) :
      (joinPair left right).takeWhile (· ≠ 58) = left := by
    rw [joinPair, append_assoc, takeWhile_append_of_pos
      (by simpa using fun a ha (hc : a = 58) => hleft (hc ▸ ha))]
    exact append_nil left
  have hname := congrArg (takeWhile (· ≠ 58)) heq
  rw [htake hfree, htake h.1] at hname
  subst hname
  exact ⟨rfl, append_cancel_left heq⟩

/-- With a colon inside, another pair is joined to the same. -/
theorem exists_joined_alike (h : ¬ (58 ∉ name ∧ 58 ∉ secret)) :
    ∃ username password, joinPair username password = joinPair name secret ∧
      ¬ (username = name ∧ password = secret) := by
  rcases not_and_or.mp h with hmem | hmem
  · obtain ⟨first, rest, rfl⟩ := append_of_mem (not_not.mp hmem)
    refine ⟨first, joinPair rest secret, by simp [joinPair], ?_⟩
    intro hsame
    simpa using hsame.1
  · obtain ⟨first, rest, rfl⟩ := append_of_mem (not_not.mp hmem)
    refine ⟨joinPair name first, rest, by simp [joinPair], ?_⟩
    intro hsame
    simpa [joinPair] using hsame.1

variable {material : ProxyCredentialMaterial}

theorem matches_header_iff :
    material.matchesLogin (.httpBasic (basicAuthorization username password)) = true ↔
      joinPair username password = joinPair (utf8 material.username) (utf8 material.password) := by
  rw [ProxyCredentialMaterial.matches_iff]
  refine ⟨fun heq => ?_, fun heq => congrArg (fun pair => _ ++ encodeBase64 pair) heq⟩
  have hdecoded := congrArg decodeBase64 (append_cancel_left heq)
  rwa [decodeBase64_encodeBase64, decodeBase64_encodeBase64] at hdecoded

theorem matches_pair_iff : material.matchesLogin (.usernamePassword username password) = true ↔
      username = utf8 material.username ∧ password = utf8 material.password :=
  ProxyCredentialMaterial.matches_iff

end

/-! ## Principals -/

/-- The answer of a check while the grant is available. -/
def ProxyVerifier.answer (verifier : ProxyVerifier) (check : AuthorizationCheck) : CheckAnswer :=
  match verifier.inspect check with
  | .answered answer => answer
  | .gated _ => check.verdict true

/-- Every pair has the same principal over both protocols, and the temporary pair is not the
primary's. -/
def ClassifiedAlike (admission : ProxyCredentialAdmission) : Prop :=
  (∀ username password,
    (granted admission).answer
        (.classify (.httpBasic (basicAuthorization username password))) =
      (granted admission).answer (.classify (.usernamePassword username password))) ∧
  (granted admission).answer
    (.classify (.httpBasic admission.temporary.basicAuthorizationValue)) ≠
      .classified (some .primary)

/-- There is no colon in the credential. -/
def ProxyCredentialMaterial.Plain (material : ProxyCredentialMaterial) : Prop :=
  58 ∉ utf8 material.username ∧ 58 ∉ utf8 material.password

open ProxyVerifier

section

variable {admission : ProxyCredentialAdmission}

theorem answer_classify (login) : (granted admission).answer (.classify login) =
    .classified (if admission.primary.matchesLogin login then some .primary
      else if admission.temporary.matchesLogin login then some .temporary else none) := by
  cases hprim : admission.primary.matchesLogin login <;>
    cases htemp : admission.temporary.matchesLogin login <;>
    simp [answer, inspect, hprim, htemp, AuthorizationCheck.verdict]

theorem temporary_pair_ne : ¬ (utf8 admission.temporary.username = utf8 admission.primary.username ∧
      utf8 admission.temporary.password = utf8 admission.primary.password) :=
  fun hsame => admission.username_ne (utf8_inj.mp hsame.1).symm

theorem plain_of_alike (h : ClassifiedAlike admission) :
    admission.primary.Plain ∧ admission.temporary.Plain := by
  have hprim : admission.primary.Plain := by
    by_contra hcolon
    obtain ⟨username, password, hjoin, hne⟩ := exists_joined_alike hcolon
    have halike := h.1 username password
    rw [answer_classify, answer_classify, if_pos (matches_header_iff.mpr hjoin),
      if_neg (fun hpair => hne (matches_pair_iff.mp hpair))] at halike
    split_ifs at halike <;> cases halike
  refine ⟨hprim, ?_⟩
  by_contra hcolon
  obtain ⟨username, password, hjoin, hne⟩ := exists_joined_alike hcolon
  have halike := h.1 username password
  have hother : ¬ admission.primary.matchesLogin
      (.httpBasic (basicAuthorization username password)) = true := fun hmatch =>
    temporary_pair_ne ((joinPair_inj hprim).mp (hjoin.symm.trans (matches_header_iff.mp hmatch)))
  rw [answer_classify, answer_classify, if_neg hother, if_pos (matches_header_iff.mpr hjoin),
    if_neg (c := admission.temporary.matchesLogin _ = true)
      (fun hpair => hne (matches_pair_iff.mp hpair))] at halike
  split_ifs at halike <;> cases halike

end

theorem classified_alike_iff (admission : ProxyCredentialAdmission) :
    ClassifiedAlike admission ↔ admission.primary.Plain ∧ admission.temporary.Plain := by
  refine ⟨plain_of_alike, ?_⟩
  rintro ⟨hprim, htemp⟩
  have hsame : ∀ {material : ProxyCredentialMaterial}, material.Plain → ∀ username password,
      material.matchesLogin (.httpBasic (basicAuthorization username password)) =
        material.matchesLogin (.usernamePassword username password) := by
    intro material hplain username password
    rw [Bool.eq_iff_iff, matches_header_iff, matches_pair_iff, joinPair_inj hplain]
  have halike : ∀ username password,
      (granted admission).answer
          (.classify (.httpBasic (basicAuthorization username password))) =
        (granted admission).answer (.classify (.usernamePassword username password)) := by
    intro username password
    rw [answer_classify, answer_classify, hsame hprim, hsame htemp]
  refine ⟨halike, ?_⟩
  have htemporary := halike (utf8 admission.temporary.username) (utf8 admission.temporary.password)
  rw [answer_classify (.usernamePassword _ _),
    if_neg (fun hpair => temporary_pair_ne (matches_pair_iff.mp hpair))] at htemporary
  show (granted admission).answer (.classify (.httpBasic (basicAuthorization _ _))) ≠ _
  rw [htemporary]
  split_ifs <;> simp

/-- The primary is `a:b` with password `c`, the temporary one `a` with password `b:c`. -/
def colonAdmission : ProxyCredentialAdmission :=
  ⟨⟨['a', ':', 'b'], ['c'], by decide, by decide⟩, ⟨['a'], ['b', ':', 'c'], by decide, by decide⟩,
    0, by decide, by decide⟩

/-- The temporary pair is the primary's over HTTP. -/
theorem colon_confuses_pairs :
    (granted colonAdmission).answer (.classify (.httpBasic (basicAuthorization
        (utf8 colonAdmission.temporary.username) (utf8 colonAdmission.temporary.password)))) =
      .classified (some .primary) ∧
    (granted colonAdmission).answer (.classify (.usernamePassword
        (utf8 colonAdmission.temporary.username) (utf8 colonAdmission.temporary.password))) =
      .classified (some .temporary) := by
  decide +kernel

end MishProxy.Serving
