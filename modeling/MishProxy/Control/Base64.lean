import MishProxy.Serving.Principals

/-!
# The two base64 encoders

The control crate has an encoder of its own, with a choice of alphabet and padding.
`encoders_agree`: with the standard alphabet and padding it is the encoder of the proxy crate, and
the other form it is used in is that text with two digits exchanged and without the padding.
-/

namespace MishProxy.Control

open Credentials Serving

def standardAlphabet : Text :=
  "ABCDEFGHIJKLMNOPQRSTUVWXYZabcdefghijklmnopqrstuvwxyz0123456789+/".toList

def urlSafeAlphabet : Text :=
  "ABCDEFGHIJKLMNOPQRSTUVWXYZabcdefghijklmnopqrstuvwxyz0123456789-_".toList

section

variable (urlSafe padding : Bool)

def alphabetDigit (index : UInt8) : Char :=
  (if urlSafe then urlSafeAlphabet else standardAlphabet).getD index.toNat '='

def padded : Text := if padding then ['='] else []

/-- One chunk; what is missing counts as zero. -/
def encodeChunk (a : UInt8) (b c : Option UInt8) : Text :=
  [alphabetDigit urlSafe (a >>> 2)] ++
  [alphabetDigit urlSafe (((a &&& 0x03) <<< 4) ||| (b.getD 0 >>> 4))] ++
  (if b.isSome then [alphabetDigit urlSafe (((b.getD 0 &&& 0x0f) <<< 2) ||| (c.getD 0 >>> 6))]
    else padded padding) ++
  if c.isSome then [alphabetDigit urlSafe (c.getD 0 &&& 0x3f)] else padded padding

def encodeBase64 : Bytes → Text
  | [] => []
  | [a] => encodeChunk urlSafe padding a none none
  | [a, b] => encodeChunk urlSafe padding a (some b) none
  | a :: b :: c :: rest => encodeChunk urlSafe padding a (some b) (some c) ++ encodeBase64 rest

end

/-- The digit of the url-safe alphabet in place of one of the standard alphabet. -/
def urlSafeDigit (digit : Char) : Char :=
  if digit = '+' then '-' else if digit = '/' then '_' else digit

/-- The url-safe form of a padded text, without the padding. -/
def urlSafeForm (text : Text) : Text := (text.filter (· ≠ '=')).map urlSafeDigit

theorem urlSafeForm_append (first second : Text) :
    urlSafeForm (first ++ second) = urlSafeForm first ++ urlSafeForm second := by
  rw [urlSafeForm, List.filter_append, List.map_append]
  rfl

theorem urlSafeForm_digit {index : UInt8} (h : index.toNat < 64) :
    urlSafeForm [alphabetDigit false index] = [alphabetDigit true index] := by
  have hdigits : ∀ n : Fin 64, urlSafeForm [standardAlphabet.getD n '='] =
      [urlSafeAlphabet.getD n '='] := by
    decide +kernel
  exact hdigits ⟨_, h⟩

theorem urlSafeForm_encodeChunk (a : UInt8) (b c : Option UInt8) :
    encodeChunk true false a b c = urlSafeForm (encodeChunk false true a b c) := by
  obtain ⟨h₁, h₂, h₃, h₄⟩ := toNat_sextets a (b.getD 0) (c.getD 0)
  have ha := a.toNat_lt
  have hb := (b.getD 0).toNat_lt
  have hc := (c.getD 0).toNat_lt
  have hpad : urlSafeForm (padded true) = padded false := rfl
  simp only [encodeChunk, urlSafeForm_append, apply_ite urlSafeForm, hpad]
  rw [urlSafeForm_digit (by omega), urlSafeForm_digit (by omega), urlSafeForm_digit (by omega),
    urlSafeForm_digit (by omega)]

theorem urlSafeForm_encodeBase64 (bytes) :
    encodeBase64 true false bytes = urlSafeForm (encodeBase64 false true bytes) := by
  induction bytes using Serving.encodeBase64.induct with
  | case1 => rfl
  | case2 a => exact urlSafeForm_encodeChunk a none none
  | case3 a b => exact urlSafeForm_encodeChunk a (some b) none
  | case4 a b c rest ih =>
    rw [encodeBase64, encodeBase64, urlSafeForm_append, urlSafeForm_encodeChunk, ih]

theorem encoders_agree (bytes : Bytes) :
    Serving.encodeBase64 bytes = encodeBase64 false true bytes ∧
    decodeBase64 (Serving.encodeBase64 bytes) = bytes ∧
    decodeBase64 (encodeBase64 false true bytes) = bytes ∧
    encodeBase64 true false bytes = urlSafeForm (encodeBase64 false true bytes) := by
  have hagree : Serving.encodeBase64 bytes = encodeBase64 false true bytes := by
    induction bytes using Serving.encodeBase64.induct with
    | case1 | case2 | case3 => rfl
    | case4 a b c rest ih => exact congrArg _ ih
  have hdecode := decodeBase64_encodeBase64 bytes
  exact ⟨hagree, hdecode, hagree ▸ hdecode, urlSafeForm_encodeBase64 bytes⟩

end MishProxy.Control
