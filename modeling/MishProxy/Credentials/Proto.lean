import MishProxy.Effects.Exec
import Mathlib.Tactic.Ring

/-!
# The protobuf wire format of the credential store

Writers append to the output; here they return what they append. A reader holds the input and an
offset into it. It is a program over that state, so a read that fails keeps the offset it got to.

`Reads program bytes value` says that the program reads these bytes, whatever follows them, and
returns the value. `reads_readVarint`, `reads_readTag` and `reads_readBytes` give it for what the
writers write.
-/

namespace MishProxy.Credentials

open Effects Effects.Exec List

abbrev Bytes := List UInt8

def wireVarint : UInt8 := 0

def wireFixed64 : UInt8 := 1

def wireLengthDelimited : UInt8 := 2

def wireFixed32 : UInt8 := 5

def writeVarint (value : UInt64) : Bytes :=
  if 0x80 ≤ value then ((value &&& 0x7f).toUInt8 ||| 0x80) :: writeVarint (value >>> 7)
  else [value.toUInt8]
termination_by value.toNat
decreasing_by
  rename_i h
  rw [UInt64.le_iff_toNat_le] at h
  have hpos : 0x80 ≤ value.toNat := h
  have hshift : (value >>> 7).toNat = value.toNat / 128 := by
    rw [UInt64.toNat_shiftRight]
    exact Nat.shiftRight_eq_div_pow _ 7
  omega

def tagOf (fieldNumber : UInt32) (wireType : UInt8) : UInt64 :=
  ((fieldNumber <<< 3) ||| wireType.toUInt32).toUInt64

def writeVarintField (fieldNumber : UInt32) (value : UInt64) : Bytes :=
  writeVarint (tagOf fieldNumber wireVarint) ++ writeVarint value

def writeBytesField (fieldNumber : UInt32) (value : Bytes) : Bytes :=
  writeVarint (tagOf fieldNumber wireLengthDelimited) ++
    (writeVarint (.ofNat value.length) ++ value)

inductive ProtoError where
  | protoError
  deriving DecidableEq

structure ProtoTag where
  fieldNumber : UInt32
  wireType : UInt8
  deriving DecidableEq

structure ProtoReader where
  input : Bytes
  offset : Nat
  deriving DecidableEq

namespace ProtoReader

def new (input : Bytes) : ProtoReader := ⟨input, 0⟩

def exhausted (reader : ProtoReader) : Bool := reader.offset == reader.input.length

def unread (reader : ProtoReader) : Bytes := reader.input.drop reader.offset

def advanced (reader : ProtoReader) (count : Nat) : ProtoReader :=
  { reader with offset := reader.offset + count }

end ProtoReader

open ProtoReader

def readByte : Exec ProtoReader ProtoError UInt8 := fun reader =>
  match reader.input[reader.offset]? with
  | none => (.error .protoError, reader)
  | some byte => (.ok byte, reader.advanced 1)

/-- The passes of the loop over the ten bytes of a varint that are left. -/
def readVarintFrom : Nat → Nat → UInt64 → Exec ProtoReader ProtoError UInt64
  | 0, _, _ => fail .protoError
  | left + 1, index, result => do
      let byte ← readByte
      if index = 9 ∧ byte &&& 0xfe ≠ 0 then fail .protoError
      else do
        let result := result ||| ((byte &&& 0x7f).toUInt64 <<< UInt64.ofNat (index * 7))
        if byte &&& 0x80 = 0 then pure result else readVarintFrom left (index + 1) result

def readVarint : Exec ProtoReader ProtoError UInt64 := readVarintFrom 10 0 0

def readTag : Exec ProtoReader ProtoError ProtoTag := do
  let raw ← readVarint
  if raw = 0 ∨ 0xffffffff < raw then fail .protoError
  else
    let fieldNumber := (raw >>> 3).toUInt32
    let wireType := (raw &&& 0x07).toUInt8
    if fieldNumber = 0 then fail .protoError else pure ⟨fieldNumber, wireType⟩

/-- An end that overflows is behind the end of the input as well. -/
def readBytes : Exec ProtoReader ProtoError Bytes := do
  let length ← readVarint
  fun reader =>
    if reader.offset + length.toNat ≤ reader.input.length then
      (.ok (reader.unread.take length.toNat), reader.advanced length.toNat)
    else (.error .protoError, reader)

def ProtoReader.advance (count : Nat) : Exec ProtoReader ProtoError Unit := fun reader =>
  if reader.offset + count ≤ reader.input.length then (.ok (), reader.advanced count)
  else (.error .protoError, reader)

def skip (wireType : UInt8) : Exec ProtoReader ProtoError Unit :=
  if wireType = wireVarint then do
    let _ ← readVarint
    pure ()
  else if wireType = wireFixed64 then advance 8
  else if wireType = wireLengthDelimited then do
    let length ← readVarint
    advance length.toNat
  else if wireType = wireFixed32 then advance 4
  else fail .protoError

/-- `while !reader.exhausted()`, with the passes that are left. A pass of a decoder reads a tag, so
there are no more passes than bytes. -/
def whileUnread {ε β : Type} (cut : ε) (body : β → Exec ProtoReader ε β) :
    Nat → β → Exec ProtoReader ε β
  | 0, state => do
      let done ← lift fun reader => (reader.exhausted, reader)
      if done then pure state else fail cut
  | left + 1, state => do
      let done ← lift fun reader => (reader.exhausted, reader)
      if done then pure state
      else do
        let state ← body state
        whileUnread cut body left state

/-! ## Bytes as numbers -/

theorem toNat_and_low (byte : UInt8) : (byte &&& 0x7f).toNat = byte.toNat % 128 := by
  rw [UInt8.toNat_and]
  exact Nat.and_two_pow_sub_one_eq_mod byte.toNat 7

theorem and_high_eq_zero_iff (byte : UInt8) : byte &&& 0x80 = 0 ↔ byte.toNat < 128 := by
  have hall : ∀ n : Fin 256, n.val &&& 128 = 0 ↔ n.val < 128 := by decide +kernel
  rw [← UInt8.toNat_inj, UInt8.toNat_and]
  exact hall ⟨byte.toNat, byte.toNat_lt⟩

theorem and_above_bit_eq_zero {byte : UInt8} (h : byte.toNat < 2) : byte &&& 0xfe = 0 := by
  have hall : ∀ n : Fin 2, n.val &&& 254 = 0 := by decide
  rw [← UInt8.toNat_inj, UInt8.toNat_and]
  exact hall ⟨byte.toNat, h⟩

theorem toNat_shift (value : UInt64) : (value >>> 7).toNat = value.toNat / 128 := by
  rw [UInt64.toNat_shiftRight]
  exact Nat.shiftRight_eq_div_pow _ 7

theorem toNat_low (value : UInt64) : (value &&& 0x7f).toUInt8.toNat = value.toNat % 128 := by
  have hlow : (value &&& 0x7f).toNat = value.toNat % 128 := by
    rw [UInt64.toNat_and]
    exact Nat.and_two_pow_sub_one_eq_mod value.toNat 7
  rw [UInt64.toNat_toUInt8, hlow]
  omega

theorem toNat_continued (value : UInt64) :
    ((value &&& 0x7f).toUInt8 ||| 0x80).toNat = value.toNat % 128 + 128 := by
  have hlow : value.toNat % 128 < 2 ^ 7 := Nat.mod_lt _ (by decide)
  have hor : 2 ^ 7 * 1 + value.toNat % 128 = 2 ^ 7 * 1 ||| value.toNat % 128 :=
    Nat.two_pow_add_eq_or_of_lt hlow 1
  rw [UInt8.toNat_or, toNat_low, Nat.or_comm]
  show 2 ^ 7 * 1 ||| value.toNat % 128 = _
  rw [← hor]
  omega

theorem toNat_group {res : UInt64} {byte : UInt8} {index : Nat} (hindex : index ≤ 9)
    (hres : res.toNat < 2 ^ (index * 7))
    (hfits : byte.toNat % 128 * 2 ^ (index * 7) < 2 ^ 64) :
    (res ||| ((byte &&& 0x7f).toUInt64 <<< UInt64.ofNat (index * 7))).toNat =
      res.toNat + byte.toNat % 128 * 2 ^ (index * 7) := by
  have hshift : (UInt64.ofNat (index * 7)).toNat % 64 = index * 7 := by
    rw [UInt64.toNat_ofNat']
    omega
  have hor := Nat.two_pow_add_eq_or_of_lt hres (byte.toNat % 128)
  rw [UInt64.toNat_or, UInt64.toNat_shiftLeft, UInt8.toNat_toUInt64, toNat_and_low, hshift,
    Nat.shiftLeft_eq, Nat.mod_eq_of_lt hfits, Nat.or_comm, Nat.mul_comm, ← hor]
  omega

/-! ## What a program reads -/

/-- From every input with these bytes next, the program consumes them and returns the value. -/
def Reads {ε α : Type} (program : Exec ProtoReader ε α) (bytes : Bytes) (value : α) : Prop :=
  ∀ reader rest, reader.offset ≤ reader.input.length → reader.unread = bytes ++ rest →
    program reader = (.ok value, reader.advanced bytes.length)

namespace ProtoReader

variable {reader : ProtoReader} {bytes rest : Bytes}

theorem unread_advanced (h : reader.unread = bytes ++ rest) :
    (reader.advanced bytes.length).unread = rest := by
  have hdrop : (reader.advanced bytes.length).unread = reader.unread.drop bytes.length := by
    rw [unread, unread, drop_drop]
    rfl
  rw [hdrop, h, drop_left]

theorem offset_advanced_le (hoffset : reader.offset ≤ reader.input.length)
    (h : reader.unread = bytes ++ rest) : reader.offset + bytes.length ≤ reader.input.length := by
  have hlen := congrArg length h
  rw [unread, length_drop, length_append] at hlen
  omega

theorem advanced_advanced (reader : ProtoReader) (first second : Nat) :
    (reader.advanced first).advanced second = reader.advanced (first + second) := by
  unfold advanced
  rw [Nat.add_assoc]

end ProtoReader

namespace Reads

variable {ε δ α β : Type} {program : Exec ProtoReader ε α} {bytes : Bytes} {value : α}

theorem pure (value : α) : Reads (Pure.pure value : Exec ProtoReader ε α) [] value :=
  fun _ _ _ _ => rfl

variable (h : Reads program bytes value)
include h

theorem bind {next : α → Exec ProtoReader ε β} {more : Bytes} {res : β}
    (hnext : Reads (next value) more res) :
    Reads (program >>= next) (bytes ++ more) res := by
  intro reader rest hoffset hunr
  rw [append_assoc] at hunr
  have hfirst := h reader (more ++ rest) hoffset hunr
  have hsec := hnext _ rest (offset_advanced_le hoffset hunr) (unread_advanced hunr)
  show bindWith program next reader = _
  rw [bindWith, hfirst]
  dsimp only
  rw [hsec, advanced_advanced, length_append]

/-- The last step of a program, which reads nothing more. -/
theorem bind_pure {next : α → Exec ProtoReader ε β} {res : β}
    (hnext : Reads (next value) [] res) : Reads (program >>= next) bytes res := by
  have hboth := h.bind hnext
  rwa [append_nil] at hboth

theorem mapError (f : ε → δ) : Reads (Exec.mapError f program) bytes value := by
  intro reader rest hoffset hunr
  rw [Exec.mapError, h reader rest hoffset hunr]

end Reads

theorem reads_readByte (byte) : Reads readByte [byte] byte := by
  intro reader rest _ hunr
  have hget : reader.input[reader.offset]? = some byte := by
    have hdrop : (reader.input.drop reader.offset)[0]? = some byte := by
      rw [show reader.input.drop reader.offset = _ from hunr]
      rfl
    rw [getElem?_drop, Nat.add_zero] at hdrop
    exact hdrop
  rw [readByte, hget]
  rfl

theorem reads_readVarintFrom {left index res value}
    (hindex : index + left = 10) (hleft : 0 < left) (hres : res.toNat < 2 ^ (index * 7))
    (hfits : value.toNat * 2 ^ (index * 7) < 2 ^ 64) :
    Reads (readVarintFrom left index res) (writeVarint value)
      (.ofNat (res.toNat + value.toNat * 2 ^ (index * 7))) := by
  induction left generalizing index res value with
  | zero => omega
  | succ left ih =>
    rw [writeVarint, readVarintFrom]
    by_cases hmore : (0x80 : UInt64) ≤ value
    · have hlarge : 128 ≤ value.toNat := UInt64.le_iff_toNat_le.mp hmore
      have hbyte := toNat_continued value
      have hmod : ((value &&& 0x7f).toUInt8 ||| 0x80).toNat % 128 = value.toNat % 128 := by
        rw [hbyte]
        omega
      have hpower : 2 ^ ((index + 1) * 7) = 128 * 2 ^ (index * 7) := by ring
      -- another group follows, so this is not the tenth
      have hnext : value.toNat / 128 * 2 ^ ((index + 1) * 7) < 2 ^ 64 := by
        refine Nat.lt_of_le_of_lt ?_ hfits
        rw [hpower, ← Nat.mul_assoc]
        exact Nat.mul_le_mul_right _ (Nat.div_mul_le_self _ _)
      have hnotlast : index < 9 := by
        by_contra hlast
        have hpowers : 2 ^ 64 ≤ 2 ^ ((index + 1) * 7) := Nat.pow_le_pow_right (by decide) (by omega)
        have hone : 1 ≤ value.toNat / 128 := by omega
        have hmul := Nat.mul_le_mul hone hpowers
        omega
      have hgroup : value.toNat % 128 * 2 ^ (index * 7) < 2 ^ 64 :=
        Nat.lt_of_le_of_lt (Nat.mul_le_mul_right _ (Nat.mod_le _ _)) hfits
      have hsum := toNat_group (Nat.le_of_lt hnotlast) hres (hmod ▸ hgroup)
      rw [hmod] at hsum
      have hread : res.toNat + value.toNat % 128 * 2 ^ (index * 7) < 2 ^ ((index + 1) * 7) := by
        have hdigit : value.toNat % 128 + 1 ≤ 128 := Nat.mod_lt _ (by decide)
        have hmul := Nat.mul_le_mul_right (2 ^ (index * 7)) hdigit
        rw [Nat.add_mul] at hmul
        omega
      have htotal : res.toNat + value.toNat % 128 * 2 ^ (index * 7) +
          value.toNat / 128 * 2 ^ ((index + 1) * 7) =
          res.toNat + value.toNat * 2 ^ (index * 7) := by
        have hdigits := Nat.div_add_mod value.toNat 128
        conv_rhs => rw [← hdigits]
        ring
      rw [if_pos hmore]
      refine (reads_readByte _).bind ?_
      rw [if_neg (by omega), if_neg (by rw [and_high_eq_zero_iff, hbyte]; omega)]
      rw [← hsum] at hread
      rw [← toNat_shift] at hnext
      have hrest := ih (by omega) (by omega) hread hnext
      rw [hsum, toNat_shift, htotal] at hrest
      exact hrest
    · have hsmall : value.toNat < 128 := by
        rw [UInt64.le_iff_toNat_le] at hmore
        exact Nat.lt_of_not_le hmore
      have hbyte : value.toUInt8.toNat = value.toNat := by
        rw [UInt64.toNat_toUInt8]
        omega
      have htenth : ¬ (index = 9 ∧ value.toUInt8 &&& 0xfe ≠ 0) := by
        rintro ⟨rfl, hbits⟩
        refine hbits (and_above_bit_eq_zero ?_)
        omega
      have hmod : value.toUInt8.toNat % 128 = value.toNat := by omega
      have hsum := toNat_group (by omega) hres (hmod.symm ▸ hfits)
      rw [hmod] at hsum
      rw [if_neg hmore]
      refine (reads_readByte _).bind_pure ?_
      rw [if_neg htenth, if_pos ((and_high_eq_zero_iff _).mpr (by omega)), ← hsum,
        UInt64.ofNat_toNat]
      exact Reads.pure _

theorem reads_readVarint (value) : Reads readVarint (writeVarint value) value := by
  have hfits : value.toNat * 2 ^ (0 * 7) < 2 ^ 64 := by
    have hlt := value.toNat_lt
    omega
  have hstart : (0 : UInt64).toNat < 2 ^ (0 * 7) := by decide
  have hread : Reads readVarint (writeVarint value) _ :=
    reads_readVarintFrom rfl (by decide) hstart hfits
  have hvalue : UInt64.ofNat ((0 : UInt64).toNat + value.toNat * 2 ^ (0 * 7)) = value := by
    rw [Nat.zero_mul, Nat.pow_zero, Nat.mul_one]
    show UInt64.ofNat (0 + value.toNat) = value
    rw [Nat.zero_add, UInt64.ofNat_toNat]
  rw [hvalue] at hread
  exact hread

/-- The tags of the credential messages, whose field numbers are small. -/
theorem reads_readTag {fieldNumber wireType}
    (hfield : fieldNumber ∈ [1, 2, 3, 4, 5, 6])
    (hwire : wireType ∈ [wireVarint, wireLengthDelimited]) :
    Reads readTag (writeVarint (tagOf fieldNumber wireType)) ⟨fieldNumber, wireType⟩ := by
  obtain ⟨hraw, hnum, hpos, htype⟩ :
      ¬ (tagOf fieldNumber wireType = 0 ∨ 0xffffffff < tagOf fieldNumber wireType) ∧
      (tagOf fieldNumber wireType >>> 3).toUInt32 = fieldNumber ∧ fieldNumber ≠ 0 ∧
      (tagOf fieldNumber wireType &&& 0x07).toUInt8 = wireType := by
    simp only [mem_cons, not_mem_nil, or_false] at hfield hwire
    rcases hfield with rfl | rfl | rfl | rfl | rfl | rfl <;> rcases hwire with rfl | rfl
    all_goals decide
  refine (reads_readVarint _).bind_pure ?_
  rw [if_neg hraw, hnum, htype, if_neg hpos]
  exact Reads.pure _

theorem reads_readBytes {value} (hlen : value.length < 2 ^ 64) :
    Reads readBytes (writeVarint (.ofNat value.length) ++ value) value := by
  refine (reads_readVarint _).bind ?_
  intro reader rest hoffset hunr
  have hcount : (UInt64.ofNat value.length).toNat = value.length := by
    rw [UInt64.toNat_ofNat', Nat.mod_eq_of_lt hlen]
  rw [hcount]
  dsimp only
  rw [if_pos (offset_advanced_le hoffset hunr), hunr, take_left]

/-! ## Loops -/

section

variable {ε β : Type} {cut : ε} {body : β → Exec ProtoReader ε β}

/-- Each pass reads one of the chunks. -/
inductive ReadsChunks (body : β → Exec ProtoReader ε β) : β → List Bytes → β → Prop where
  | done (state : β) : ReadsChunks body state [] state
  | pass {state next last : β} {chunk : Bytes} {chunks : List Bytes} (hchunk : chunk ≠ [])
      (hpass : Reads (body state) chunk next) (hrest : ReadsChunks body next chunks last) :
      ReadsChunks body state (chunk :: chunks) last

theorem exhausted_iff {reader : ProtoReader} (h : reader.offset ≤ reader.input.length) :
    reader.exhausted = true ↔ reader.unread = [] := by
  rw [exhausted, beq_iff_eq, unread, drop_eq_nil_iff]
  omega

theorem whileUnread_done {reader : ProtoReader} (h : reader.exhausted = true) (passes state) :
    whileUnread cut body passes state reader = (.ok state, reader) := by
  cases passes with
  | zero | succ left =>
    rw [whileUnread]
    show bindWith (lift _) _ reader = _
    rw [bindWith, lift, h]
    rfl

theorem whileUnread_pass {reader : ProtoReader} (h : reader.exhausted = false) (left state) :
    whileUnread cut body (left + 1) state reader =
      bindWith (body state) (whileUnread cut body left) reader := by
  rw [whileUnread]
  show bindWith (lift _) _ reader = _
  rw [bindWith, lift, h]
  rfl

theorem ReadsChunks.whileUnread {state last chunks}
    (h : ReadsChunks body state chunks last) {passes : Nat} (hpasses : chunks.length ≤ passes)
    {reader} (hoffset : reader.offset ≤ reader.input.length)
    (hunr : reader.unread = chunks.flatten) : Credentials.whileUnread cut body passes state reader =
      (.ok last, reader.advanced chunks.flatten.length) := by
  induction h generalizing passes reader with
  | done state => exact whileUnread_done ((exhausted_iff hoffset).mpr hunr) passes state
  | @pass state next last chunk chunks hchunk hpass hrest ih =>
    obtain ⟨left, rfl⟩ : ∃ left, passes = left + 1 := by
      rw [length_cons] at hpasses
      exact ⟨passes - 1, by omega⟩
    rw [flatten_cons] at hunr
    have hmore : reader.exhausted = false := by
      rw [← Bool.not_eq_true, exhausted_iff hoffset, hunr]
      exact append_ne_nil_of_left_ne_nil hchunk _
    have hbody := hpass reader _ hoffset hunr
    have hloop := ih (Nat.le_of_succ_le_succ hpasses) (offset_advanced_le hoffset hunr)
      (unread_advanced hunr)
    rw [whileUnread_pass hmore, bindWith, hbody]
    dsimp only
    rw [hloop, advanced_advanced, flatten_cons, length_append]

end

/-! ## Progress -/

/-- The reader is on this input, from the offset on. -/
structure Within (input : Bytes) (low : Nat) (reader : ProtoReader) : Prop where
  same : reader.input = input
  low : low ≤ reader.offset
  offset : reader.offset ≤ reader.input.length

/-- The program stays on the input and never goes back. -/
def Forward {ε α : Type} (program : Exec ProtoReader ε α) : Prop :=
  ∀ input low, Keeps (Within input low) program

/-- It also gets on when it succeeds. -/
def Advances {ε α : Type} (program : Exec ProtoReader ε α) : Prop :=
  ∀ input low reader, Within input low reader →
    Ends program (fun _ => Within input (low + 1)) (fun _ => Within input low) reader

section

variable {ε δ α β : Type} {program : Exec ProtoReader ε α}

theorem Within.lower {input low reader} (h : Within input (low + 1) reader) :
    Within input low reader := ⟨h.same, Nat.le_of_succ_le h.low, h.offset⟩

theorem Advances.forward (h : Advances program) : Forward program :=
  fun input low reader hr => (h input low reader hr).imp fun _ _ => Within.lower

theorem Advances.bind {next : α → Exec ProtoReader ε β} (h : Advances program)
    (hnext : ∀ value, Forward (next value)) : Advances (program >>= next) := by
  intro input low reader hr
  refine (h input low reader hr).bind fun value after hafter => ?_
  exact ends_mono (hnext value input _ after hafter) (fun _ _ h => h) fun _ _ => Within.lower

theorem Advances.mapError (f : ε → δ) (h : Advances program) :
    Advances (Exec.mapError f program) := by
  intro input low reader hr
  rw [ends_mapError]
  exact h input low reader hr

theorem advances_readByte : Advances readByte := by
  intro input low reader hr
  unfold Ends readByte
  cases hget : reader.input[reader.offset]? with
  | none => exact hr
  | some byte =>
    obtain ⟨hlt, -⟩ := List.getElem?_eq_some_iff.mp hget
    exact ⟨hr.same, Nat.succ_le_succ hr.low, hlt⟩

theorem forward_readVarintFrom (left index res) : Forward (readVarintFrom left index res) := by
  induction left generalizing index res with
  | zero => exact fun _ _ => .fail _
  | succ left ih =>
    intro input low
    refine .bind (advances_readByte.forward input low) fun byte =>
      .ite (.fail _) (.ite (.pure _) ?_)
    exact ih _ _ input low

theorem advances_readVarint : Advances readVarint := by
  refine advances_readByte.bind fun byte input low => .ite (.fail _) (.ite (.pure _) ?_)
  exact forward_readVarintFrom _ _ _ input low

theorem advances_readTag : Advances readTag :=
  advances_readVarint.bind fun _ _ _ => .ite (.fail _) (.ite (.fail _) (.pure _))

theorem Within.advanced {input low reader count} (h : Within input low reader)
    (hfits : reader.offset + count ≤ reader.input.length) :
    Within input low (reader.advanced count) := ⟨h.same, Nat.le_add_right_of_le h.low, hfits⟩

theorem forward_advance (count) : Forward (advance count) := by
  intro input low reader hr
  unfold Ends advance
  by_cases hfits : reader.offset + count ≤ reader.input.length
  · rw [if_pos hfits]
    exact hr.advanced hfits
  · rw [if_neg hfits]
    exact hr

theorem forward_readBytes : Forward readBytes := by
  refine (advances_readVarint.bind fun length input low reader hr => ?_).forward
  unfold Ends
  by_cases hfits : reader.offset + length.toNat ≤ reader.input.length
  · simp only [if_pos hfits]
    exact hr.advanced hfits
  · simp only [if_neg hfits]
    exact hr

theorem forward_skip (wireType) : Forward (skip wireType) := by
  intro input low
  refine .ite (.bind (advances_readVarint.forward input low) fun _ => .pure _) ?_
  refine .ite (forward_advance 8 input low) (.ite ?_ (.ite (forward_advance 4 input low) (.fail _)))
  exact .bind (advances_readVarint.forward input low) fun length => forward_advance _ input low

/-- A pass gets on, so there are enough passes when there are as many as bytes: the loop ends by
itself, and what it does at the end of the passes does not matter. -/
theorem whileUnread_ends {body : β → Exec ProtoReader ε β} (hbody : ∀ state, Advances (body state))
    (cut cut' : ε) {passes more : Nat} {reader : ProtoReader} {state : β}
    (hoffset : reader.offset ≤ reader.input.length) (hpasses : reader.unread.length ≤ passes)
    (hmore : reader.unread.length ≤ more) :
    whileUnread cut body passes state reader = whileUnread cut' body more state reader := by
  induction passes generalizing reader state more with
  | zero =>
    have hdone := (exhausted_iff hoffset).mpr (length_eq_zero_iff.mp (by omega))
    rw [whileUnread_done hdone, whileUnread_done hdone]
  | succ left ih =>
    cases hdone : reader.exhausted with
    | true => rw [whileUnread_done hdone, whileUnread_done hdone]
    | false =>
      have hpos : 0 < reader.unread.length := by
        rw [length_pos_iff]
        intro hnil
        rw [(exhausted_iff hoffset).mpr hnil] at hdone
        cases hdone
      obtain ⟨rest, rfl⟩ : ∃ rest, more = rest + 1 := ⟨more - 1, by omega⟩
      have hadvance := hbody state reader.input reader.offset reader ⟨rfl, le_rfl, hoffset⟩
      rw [whileUnread_pass hdone, whileUnread_pass hdone, bindWith, bindWith]
      unfold Ends at hadvance
      rcases hrun : body state reader with ⟨res, after⟩
      rw [hrun] at hadvance
      cases res with
      | error failure => rfl
      | ok next =>
        have hless : after.unread.length < reader.unread.length := by
          have hlow := hadvance.low
          simp only [unread, length_drop, hadvance.same] at hpos ⊢
          omega
        exact ih hadvance.offset (by omega) (by omega)

/-! ## Every sequence of reads -/

inductive ReadOperation where
  | tag
  | varint
  | bytes
  | skip (wireType : UInt8)
  deriving DecidableEq

/-- The reader after the operation, whether it succeeds or not. -/
def ReadOperation.perform (reader : ProtoReader) : ReadOperation → ProtoReader
  | .tag => (readTag reader).2
  | .varint => (readVarint reader).2
  | .bytes => (readBytes reader).2
  | .skip wireType => (Credentials.skip wireType reader).2

theorem within_perform {input low reader} (h : Within input low reader) (op : ReadOperation) :
    Within input low (op.perform reader) := by
  cases op with
  | tag => exact (advances_readTag.forward input low reader h).state
  | varint => exact (advances_readVarint.forward input low reader h).state
  | bytes => exact (forward_readBytes input low reader h).state
  | skip wireType => exact (forward_skip wireType input low reader h).state

theorem within_operations {input low reader} (h : Within input low reader)
    (operations : List ReadOperation) :
    Within input low (operations.foldl ReadOperation.perform reader) := by
  induction operations generalizing reader with
  | nil => exact h
  | cons op rest ih => exact ih (within_perform h op)

end

/-- The offset stays within the input, every tag that is read advances it, so a loop over tags ends
whatever else its body reads, and a varint is read back exactly. -/
theorem reader_progress (input : Bytes) (operations : List ReadOperation) :
    let reader := operations.foldl ReadOperation.perform (.new input)
    reader.input = input ∧ reader.offset ≤ input.length ∧
    (∀ tag after, readTag reader = (.ok tag, after) → reader.offset < after.offset) ∧
    (∀ {ε β : Type} (f : ProtoError → ε) (rest : β → ProtoTag → Exec ProtoReader ε β),
      (∀ state tag, Forward (rest state tag)) → ∀ cut cut' state passes,
        reader.unread.length ≤ passes →
        whileUnread cut (fun state => mapError f readTag >>= rest state) passes state reader =
          whileUnread cut' (fun state => mapError f readTag >>= rest state) reader.unread.length
            state reader) ∧
    ∀ value before after, readVarint ⟨before ++ writeVarint value ++ after, before.length⟩ =
      (.ok value, ⟨before ++ writeVarint value ++ after,
        before.length + (writeVarint value).length⟩) := by
  intro reader
  have hnew : Within input 0 (.new input) := ⟨rfl, le_rfl, Nat.zero_le input.length⟩
  have hr : Within input 0 reader := within_operations hnew operations
  refine ⟨hr.same, hr.same ▸ hr.offset, fun tag after htag => ?_, ?_, fun value before after => ?_⟩
  · have hadvance := advances_readTag input reader.offset reader ⟨hr.same, le_rfl, hr.offset⟩
    exact (hadvance.of_ok htag).low
  · intro ε β f rest hrest cut cut' state passes hpasses
    exact whileUnread_ends (fun state => (advances_readTag.mapError f).bind (hrest state)) cut cut'
      hr.offset hpasses le_rfl
  · refine reads_readVarint value ⟨_, before.length⟩ after ?_ ?_
    · simp
    · simp [unread]

end MishProxy.Credentials
