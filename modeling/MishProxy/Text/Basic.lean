import Mathlib.Algebra.Ring.Nat
import Mathlib.Data.Char
import Mathlib.Tactic.Common
import Mathlib.Data.List.Basic
import Mathlib.Data.List.TakeWhile

/-!
# Text as character lists

The standard-library operations on text that the code calls, on lists of characters, with the facts
about them that later files use.

* `splitWhitespace`, `trim`, `lines`, `contains`, `splitOnce`, `splitChar` follow
  `str::split_whitespace`, `str::trim`, `str::lines`, `str::contains`, `str::split_once` and
  `str::split`. White space is the Unicode property.
* `parseRadix` follows `from_str_radix` of an unsigned type with the given largest value: one
  optional plus sign, at least one digit, no overflow.
* `joinTokens` is `join(" ")`, and `decimal` prints an unsigned number.
-/

namespace MishProxy

open List

abbrev Text := List Char

instance instLawfulBEqText : LawfulBEq Text := inferInstance

/-- Mathlib's instance for a statement about all characters would go through all of them. -/
instance instDecidableForallMemText (text : Text) (P : Char → Prop) [DecidablePred P] :
    Decidable (∀ c ∈ text, P c) :=
  List.decidableBAll P text

namespace Text

/-- The Unicode `White_Space` property. -/
def isWhitespace (c : Char) : Bool :=
  (9 ≤ c.toNat && c.toNat ≤ 13) || c.toNat == 0x20 || c.toNat == 0x85 || c.toNat == 0xA0 ||
    c.toNat == 0x1680 || (0x2000 ≤ c.toNat && c.toNat ≤ 0x200A) || c.toNat == 0x2028 ||
    c.toNat == 0x2029 || c.toNat == 0x202F || c.toNat == 0x205F || c.toNat == 0x3000

/-- The maximal runs of characters other than white space. -/
def splitWhitespace (line : Text) : List Text :=
  (line.splitOnP isWhitespace).filter fun word => !word.isEmpty

def trimStart (line : Text) : Text := line.dropWhile isWhitespace

def trimEnd (line : Text) : Text := (line.reverse.dropWhile isWhitespace).reverse

def trim (line : Text) : Text := trimEnd (trimStart line)

def startsWith (line start : Text) : Bool := start.isPrefixOf line

def contains (line pattern : Text) : Bool :=
  match line with
  | [] => pattern.isEmpty
  | c :: rest => pattern.isPrefixOf (c :: rest) || contains rest pattern

def splitOnce (separator : Char) : Text → Option (Text × Text)
  | [] => none
  | c :: rest =>
      if c = separator then some ([], rest)
      else (splitOnce separator rest).map fun parts => (c :: parts.1, parts.2)

def splitChar (separator : Char) (text : Text) : List Text :=
  text.splitOnP fun c => c == separator

def joinTokens : List Text → Text
  | [] => []
  | [token] => token
  | token :: next :: rest => token ++ ' ' :: joinTokens (next :: rest)

/-- The lines of a text: a final line feed ends the last line, and a carriage
return in front of a line feed belongs to the line ending. -/
def linesFrom : Text → Text → List Text
  | line, [] => if line.isEmpty then [] else [line]
  | line, c :: rest =>
      if c = '\n' then
        (if line.getLast? = some '\r' then line.dropLast else line) :: linesFrom [] rest
      else linesFrom (line ++ [c]) rest

def lines (text : Text) : List Text := linesFrom [] text

/-- The text a listing of these lines prints. -/
def unlines (rows : List Text) : Text := rows.flatMap fun row => row ++ ['\n']

def digitValue (radix : Nat) (c : Char) : Option Nat :=
  let value :=
    if '0' ≤ c ∧ c ≤ '9' then some (c.toNat - '0'.toNat)
    else if 'a' ≤ c ∧ c ≤ 'z' then some (c.toNat - 'a'.toNat + 10)
    else if 'A' ≤ c ∧ c ≤ 'Z' then some (c.toNat - 'A'.toNat + 10)
    else none
  value.filter fun v => v < radix

def parseDigits (radix : Nat) : Nat → Text → Option Nat
  | value, [] => some value
  | value, c :: rest =>
      match digitValue radix c with
      | none => none
      | some digit => parseDigits radix (value * radix + digit) rest

def parseRadix (radix largest : Nat) (raw : Text) : Option Nat :=
  let digits := match raw with
    | '+' :: rest => rest
    | _ => raw
  if digits.isEmpty then none else (parseDigits radix 0 digits).filter fun v => v ≤ largest

def decimal (n : Nat) : Text := Nat.toDigits 10 n

/-! ## Words -/

/-- A nonempty text without white space, as every token of a line is. -/
def IsWord (token : Text) : Prop := token ≠ [] ∧ ∀ c ∈ token, isWhitespace c = false

instance (token : Text) : Decidable (IsWord token) :=
  decidable_of_iff ((!token.isEmpty && token.all fun c => !isWhitespace c) = true)
    (by simp [IsWord])

theorem isWord_append {a b : Text} (ha : IsWord a) (hb : ∀ c ∈ b, isWhitespace c = false) :
    IsWord (a ++ b) := by
  refine ⟨by simp [ha.1], ?_⟩
  intro c hc
  rcases mem_append.mp hc with h | h
  · exact ha.2 c h
  · exact hb c h

variable {c : Char}

theorem splitWhitespace_append (hc : isWhitespace c = true) (x y : Text) :
    splitWhitespace (x ++ c :: y) = splitWhitespace x ++ splitWhitespace y := by
  unfold splitWhitespace
  rw [splitOnP_append_cons x y hc, filter_append]

@[simp] theorem splitWhitespace_nil : splitWhitespace [] = [] := rfl

theorem splitWhitespace_cons (hc : isWhitespace c = true) (y : Text) :
    splitWhitespace (c :: y) = splitWhitespace y := by
  simpa using splitWhitespace_append hc [] y

theorem splitWhitespace_word {word : Text} (h : IsWord word) : splitWhitespace word = [word] := by
  unfold splitWhitespace
  rw [splitOnP_eq_singleton h.2]
  simp [h.1]

variable {toks : List Text}

theorem splitWhitespace_joinTokens (h : ∀ token ∈ toks, IsWord token) :
    splitWhitespace (joinTokens toks) = toks := by
  induction toks with
  | nil => rfl
  | cons token rest ih =>
    have hword := h token (.head _)
    cases rest with
    | nil => exact splitWhitespace_word hword
    | cons next rest =>
      rw [joinTokens, splitWhitespace_append (by decide), splitWhitespace_word hword,
        ih fun t ht => h t (.tail _ ht)]
      rfl

variable {line : Text}

theorem contains_iff {pattern : Text} : contains line pattern = true ↔ pattern <:+: line := by
  induction line with
  | nil => simp [contains]
  | cons c rest ih => rw [contains, Bool.or_eq_true, isPrefixOf_iff_prefix, ih, infix_cons_iff]

theorem startsWith_iff {start : Text} : startsWith line start = true ↔ start <+: line :=
  isPrefixOf_iff_prefix

/-- The tokens of a line are words, and each of them occurs in the line. The induction
is on the length: a line with white space falls apart at one of its blanks. -/
theorem of_mem_splitWhitespace {token : Text} (h : token ∈ splitWhitespace line) :
    IsWord token ∧ token <:+: line := by
  induction hlen : line.length using Nat.strongRecOn generalizing line with
  | ind n ih =>
    by_cases hblank : ∃ c ∈ line, isWhitespace c = true
    · obtain ⟨c, hmem, hc⟩ := hblank
      obtain ⟨x, y, rfl⟩ := append_of_mem hmem
      have hsum : x.length + (y.length + 1) = n := by
        rw [← hlen, length_append, length_cons]
      rw [splitWhitespace_append hc, mem_append] at h
      rcases h with h | h
      · obtain ⟨hword, hpart⟩ := ih x.length (by omega) h rfl
        exact ⟨hword, hpart.trans ⟨[], c :: y, by simp⟩⟩
      · obtain ⟨hword, hpart⟩ := ih y.length (by omega) h rfl
        exact ⟨hword, hpart.trans ⟨x ++ [c], [], by simp⟩⟩
    · have hnone : ∀ c ∈ line, isWhitespace c = false := by
        intro c hc
        by_contra hne
        exact hblank ⟨c, hc, by simpa using hne⟩
      cases line with
      | nil => cases h
      | cons c rest =>
        have hword : IsWord (c :: rest) := ⟨cons_ne_nil c rest, hnone⟩
        rw [splitWhitespace_word hword, mem_singleton] at h
        rw [h]
        exact ⟨hword, infix_rfl⟩

/-! ## Decimal numbers -/

theorem not_isWhitespace_of_isDigit (h : c.isDigit = true) : isWhitespace c = false := by
  have hrange : 48 ≤ c.toNat ∧ c.toNat ≤ 57 := by
    simpa [Char.isDigit, UInt32.le_iff_toNat_le] using h
  simp only [isWhitespace, Bool.or_eq_false_iff, Bool.and_eq_false_iff, beq_eq_false_iff_ne,
    decide_eq_false_iff_not]
  omega

theorem digitValue_of_isDigit (h : c.isDigit = true) :
    digitValue 10 c = some (c.toNat - '0'.toNat) := by
  have hrange : 48 ≤ c.toNat ∧ c.toNat ≤ 57 := by
    simpa [Char.isDigit, UInt32.le_iff_toNat_le] using h
  have hdigit : '0' ≤ c ∧ c ≤ '9' := by
    simpa [Char.isDigit, Char.le_def] using h
  have hsmall : c.toNat - 48 < 10 := by omega
  simp [digitValue, hdigit, Option.filter, hsmall]

theorem isWord_decimal (n : Nat) : IsWord (decimal n) :=
  ⟨Nat.toDigits_ne_nil, fun _ hc =>
    not_isWhitespace_of_isDigit (Nat.isDigit_of_mem_toDigits (by decide) (by decide) hc)⟩

theorem not_mem_decimal (hc : c.isDigit = false) (n) : c ∉ decimal n := by
  intro hmem
  rw [Nat.isDigit_of_mem_toDigits (by decide) (by decide) hmem] at hc
  cases hc

theorem decimal_ne (hc : c.isDigit = false) (n rest) : decimal n ≠ c :: rest := by
  intro heq
  exact not_mem_decimal hc n (heq ▸ .head _)

theorem parseDigits_of_isDigit {digits : Text} (h : ∀ c ∈ digits, c.isDigit = true)
    (value : Nat) : parseDigits 10 value digits = some (Nat.ofDigitChars 10 digits value) := by
  induction digits generalizing value with
  | nil => rfl
  | cons c rest ih =>
    obtain ⟨hc, hrest⟩ := forall_mem_cons.mp h
    rw [parseDigits, digitValue_of_isDigit hc]
    simp only
    rw [ih hrest, Nat.ofDigitChars_cons, Nat.mul_comm 10 value]

theorem parseRadix_decimal {n largest : Nat} (h : n ≤ largest) :
    parseRadix 10 largest (decimal n) = some n := by
  have hdigits : ∀ c ∈ decimal n, c.isDigit = true := fun c hc =>
    Nat.isDigit_of_mem_toDigits (by decide) (by decide) hc
  have hsign : ∀ rest, decimal n ≠ '+' :: rest := by
    intro rest heq
    have hplus := hdigits '+' (by rw [heq]; exact .head _)
    cases hplus
  have hnum : parseDigits 10 0 (decimal n) = some n := by
    rw [parseDigits_of_isDigit hdigits, decimal, Nat.ofDigitChars_ten_toDigits]
  unfold parseRadix
  cases hraw : decimal n with
  | nil => exact absurd hraw Nat.toDigits_ne_nil
  | cons c rest =>
    have hc : c ≠ '+' := by
      rintro rfl
      exact hsign rest hraw
    rw [hraw] at hnum
    simp [hc, hnum, Option.filter, h]

/-! ## Trimming -/

theorem splitWhitespace_trimStart (line : Text) :
    splitWhitespace (trimStart line) = splitWhitespace line := by
  induction line with
  | nil => rfl
  | cons c rest ih =>
    unfold trimStart at ih ⊢
    rw [dropWhile_cons]
    split
    · rw [ih, splitWhitespace_cons (by assumption)]
    · rfl

theorem splitWhitespace_append_of_all {blank : Text} (h : ∀ c ∈ blank, isWhitespace c = true) :
    splitWhitespace (line ++ blank) = splitWhitespace line := by
  induction blank generalizing line with
  | nil => simp
  | cons c rest ih =>
    have hrest : ∀ d ∈ rest, isWhitespace d = true := fun d hd => h d (.tail _ hd)
    have hblank : splitWhitespace ([] ++ rest) = splitWhitespace [] := ih hrest
    rw [nil_append, splitWhitespace_nil] at hblank
    rw [splitWhitespace_append (h c (.head _)), hblank, append_nil]

theorem splitWhitespace_trimEnd (line : Text) :
    splitWhitespace (trimEnd line) = splitWhitespace line := by
  have hsplit : line = trimEnd line ++ (line.reverse.takeWhile isWhitespace).reverse := by
    unfold trimEnd
    rw [← reverse_append, takeWhile_append_dropWhile, reverse_reverse]
  conv_rhs => rw [hsplit]
  refine (splitWhitespace_append_of_all ?_).symm
  intro c hc
  exact mem_takeWhile_imp (mem_reverse.mp hc)

theorem splitWhitespace_trim (line : Text) :
    splitWhitespace (trim line) = splitWhitespace line := by
  unfold trim
  rw [splitWhitespace_trimEnd, splitWhitespace_trimStart]

theorem trim_eq_self (hfirst : ∀ c, line.head? = some c → isWhitespace c = false)
    (hlast : ∀ c, line.getLast? = some c → isWhitespace c = false) : trim line = line := by
  have hstart : trimStart line = line := by
    unfold trimStart
    cases line with
    | nil => rfl
    | cons c rest => simp [hfirst c rfl]
  unfold trim
  rw [hstart]
  unfold trimEnd
  cases hrev : line.reverse with
  | nil => simpa using (reverse_eq_nil_iff.mp hrev).symm
  | cons c rest =>
    have hc : line.getLast? = some c := by rw [← head?_reverse, hrev]; rfl
    rw [dropWhile_cons, if_neg (by simp [hlast c hc]), ← hrev, reverse_reverse]

theorem splitOnce_append {separator first} (h : ∀ c ∈ first, c ≠ separator)
    (rest : Text) : splitOnce separator (first ++ separator :: rest) = some (first, rest) := by
  induction first with
  | nil => simp [splitOnce]
  | cons c first ih =>
    obtain ⟨hc, hfirst⟩ := forall_mem_cons.mp h
    rw [cons_append, splitOnce, if_neg hc, ih hfirst]
    rfl

theorem getLast?_joinTokens (h : ∀ token ∈ toks, IsWord token)
    (hc : (joinTokens toks).getLast? = some c) : isWhitespace c = false := by
  induction toks with
  | nil => cases hc
  | cons token rest ih =>
    obtain ⟨hword, hrest⟩ := forall_mem_cons.mp h
    cases rest with
    | nil => exact hword.2 c (mem_of_getLast? hc)
    | cons next rest =>
      refine ih hrest ?_
      have hnext := (hrest next (.head _)).1
      have hne : joinTokens (next :: rest) ≠ [] := by
        cases rest with
        | nil => exact hnext
        | cons other rest => simp [joinTokens, hnext]
      rw [joinTokens, getLast?_append, getLast?_cons] at hc
      rw [getLast?_eq_some_getLast hne] at hc ⊢
      simpa using hc

/-- A character of joined words is one of a word or the blank between two words. -/
theorem isWhitespace_of_mem_joinTokens (h : ∀ token ∈ toks, IsWord token)
    (hc : c ∈ joinTokens toks) : isWhitespace c = false ∨ c = ' ' := by
  induction toks with
  | nil => cases hc
  | cons token rest ih =>
    obtain ⟨htoken, hrest⟩ := forall_mem_cons.mp h
    cases rest with
    | nil => exact .inl (htoken.2 c hc)
    | cons next more =>
      rw [joinTokens, mem_append, mem_cons] at hc
      rcases hc with hc | rfl | hc
      · exact .inl (htoken.2 c hc)
      · exact .inr rfl
      · exact ih hrest hc

theorem head?_joinTokens {token rest} (h : IsWord token) :
    (joinTokens (token :: rest)).head? = token.head? := by
  cases rest with
  | nil => rfl
  | cons next more => rw [joinTokens, head?_append_of_ne_nil _ h.1]

theorem joinTokens_ne_nil (hne : toks ≠ []) (h : ∀ token ∈ toks, IsWord token) :
    joinTokens toks ≠ [] := by
  obtain ⟨token, rest, rfl⟩ := exists_cons_of_ne_nil hne
  have hword := h token (.head _)
  intro hnil
  have hhead : (joinTokens (token :: rest)).head? = token.head? := head?_joinTokens hword
  rw [hnil, head?_nil, eq_comm, head?_eq_none_iff] at hhead
  exact hword.1 hhead

theorem trim_joinTokens (h : ∀ token ∈ toks, IsWord token) :
    trim (joinTokens toks) = joinTokens toks := by
  refine trim_eq_self ?_ fun c hc => getLast?_joinTokens h hc
  intro c hc
  cases toks with
  | nil => cases hc
  | cons token rest =>
    have hword := h token (.head _)
    rw [head?_joinTokens hword] at hc
    exact hword.2 c (mem_of_mem_head? hc)

/-! ## Listings -/

theorem linesFrom_append {row : Text} (h : ∀ c ∈ row, c ≠ '\n') (line rest : Text) :
    linesFrom line (row ++ '\n' :: rest) =
      (if (line ++ row).getLast? = some '\r' then (line ++ row).dropLast else line ++ row) ::
        linesFrom [] rest := by
  induction row generalizing line with
  | nil => simp [linesFrom]
  | cons c row ih =>
    obtain ⟨hc, hrow⟩ := forall_mem_cons.mp h
    rw [cons_append, linesFrom, if_neg hc, ih hrow, append_assoc, singleton_append]

theorem not_isWhitespace_of_getLast?_trim (h : (trim line).getLast? = some c) :
    isWhitespace c = false := by
  unfold trim trimEnd at h
  rw [getLast?_reverse] at h
  have hfirst := head?_dropWhile_not isWhitespace (trimStart line).reverse
  rw [h] at hfirst
  simpa using hfirst

/-- A row of a listing: trimmed, not empty, one line. -/
structure IsRow (row : Text) : Prop where
  ne_nil : row ≠ []
  trimmed : trim row = row
  one_line : ∀ c ∈ row, c ≠ '\n'

theorem isRow_joinTokens (hne : toks ≠ []) (h : ∀ token ∈ toks, IsWord token) :
    IsRow (joinTokens toks) := by
  refine ⟨joinTokens_ne_nil hne h, trim_joinTokens h, ?_⟩
  rintro c hc rfl
  rcases isWhitespace_of_mem_joinTokens h hc with hblank | hblank
  · exact absurd hblank (by decide)
  · exact absurd hblank (by decide)

theorem lines_unlines {rows} (h : ∀ row ∈ rows, IsRow row) : lines (unlines rows) = rows := by
  induction rows with
  | nil => rfl
  | cons row rest ih =>
    obtain ⟨hrow, hrest⟩ := forall_mem_cons.mp h
    have hreturn : row.getLast? ≠ some '\r' := by
      intro hlast
      rw [← hrow.trimmed] at hlast
      exact absurd (not_isWhitespace_of_getLast?_trim hlast) (by decide)
    have hunlines : unlines (row :: rest) = row ++ '\n' :: unlines rest := by
      simp [unlines]
    have ih := ih hrest
    rw [lines] at ih ⊢
    rw [hunlines, linesFrom_append hrow.one_line, nil_append, if_neg hreturn, ih]

end Text

end MishProxy
