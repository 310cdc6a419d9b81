import MishProxy.Credentials.Proto
import MishProxy.Machine.Run
import MishProxy.Text.Basic

/-!
# The temporary credential

A temporary credential has a lease of twenty-four hours. An observation of the trusted clock
admits while the lease is active, the clock is inside the window and has not gone back; every
other observation ends the lease for good. The record is stored as bytes and read back.

The constructors of the source check what the fields below state, so a lease or a record that
breaks it cannot be built.

* `decode_encode_lease`, `decode_encode_record`: what is stored is read back.
* `lease_within_window`: over every sequence of observations, revocations and round trips through
  the store.
-/

namespace MishProxy.Credentials

open Text Machine Effects Effects.Exec ProtoReader List

def temporaryCredentialTtlSeconds : Nat := 24 * 60 * 60

inductive TemporaryCredentialStatus where
  | active
  | expired
  | revoked
  deriving DecidableEq, Repr

inductive TemporaryCredentialError where
  | missingTrustedClock
  | invalidActivationTime
  | invalidGeneration
  | deadlineOverflow
  | malformedState
  | nonCanonicalState
  | invalidCredentialMaterial
  deriving DecidableEq, Repr

structure TemporaryCredentialLease where
  generation : UInt64
  activatedAtUnixSeconds : UInt64
  expiresAtUnixSeconds : UInt64
  lastObservedUnixSeconds : UInt64
  status : TemporaryCredentialStatus
  generation_ne : generation ≠ 0
  activated_ne : activatedAtUnixSeconds ≠ 0
  expires_eq : expiresAtUnixSeconds.toNat =
    activatedAtUnixSeconds.toNat + temporaryCredentialTtlSeconds
  activated_le : activatedAtUnixSeconds ≤ lastObservedUnixSeconds
  last_lt : status = .active → lastObservedUnixSeconds < expiresAtUnixSeconds
  le_last : status = .expired → expiresAtUnixSeconds ≤ lastObservedUnixSeconds
  deriving DecidableEq

theorem active_deadline {now expires : UInt64}
    (h : expires.toNat = now.toNat + temporaryCredentialTtlSeconds) : now < expires := by
  rw [UInt64.lt_iff_toNat_lt, h]
  exact Nat.lt_add_of_pos_right (by decide)

theorem toNat_deadline {now : UInt64} (h : now.toNat + temporaryCredentialTtlSeconds < 2 ^ 64) :
    (UInt64.ofNat (now.toNat + temporaryCredentialTtlSeconds)).toNat =
      now.toNat + temporaryCredentialTtlSeconds := by
  rw [UInt64.toNat_ofNat', Nat.mod_eq_of_lt h]

namespace TemporaryCredentialLease

def activate (generation : UInt64) (trustedUnixSeconds : Option UInt64) :
    Except TemporaryCredentialError TemporaryCredentialLease :=
  if hgeneration : generation = 0 then .error .invalidGeneration
  else
    match trustedUnixSeconds with
    | none => .error .missingTrustedClock
    | some now =>
        if hnow : now = 0 then .error .invalidActivationTime
        else if hfits : now.toNat + temporaryCredentialTtlSeconds < 2 ^ 64 then
          .ok ⟨generation, now, .ofNat (now.toNat + temporaryCredentialTtlSeconds), now, .active,
            hgeneration, hnow, toNat_deadline hfits, UInt64.le_refl now,
            fun _ => active_deadline (toNat_deadline hfits), by rintro ⟨⟩⟩
        else .error .deadlineOverflow

variable (lease : TemporaryCredentialLease)

def revoke : TemporaryCredentialLease :=
  { lease with status := .revoked, last_lt := by rintro ⟨⟩, le_last := by rintro ⟨⟩ }

/-- Fails closed on expiry, on a missing clock and on a clock that went back. -/
def observe (trustedUnixSeconds : Option UInt64) : TemporaryCredentialLease × Bool :=
  if lease.status ≠ .active then (lease, false)
  else
    match trustedUnixSeconds with
    | none => (lease.revoke, false)
    | some now =>
        if hback : now < lease.activatedAtUnixSeconds ∨ now < lease.lastObservedUnixSeconds then
          (lease.revoke, false)
        else if hover : lease.expiresAtUnixSeconds ≤ now then
          ({ lease with
            lastObservedUnixSeconds := now
            status := .expired
            activated_le := UInt64.not_lt.mp (not_or.mp hback).1
            last_lt := by rintro ⟨⟩
            le_last := fun _ => hover }, false)
        else
          ({ lease with
            lastObservedUnixSeconds := now
            status := .active
            activated_le := UInt64.not_lt.mp (not_or.mp hback).1
            last_lt := fun _ => UInt64.not_le.mp hover
            le_last := by rintro ⟨⟩ }, true)

end TemporaryCredentialLease

/-! ## Encoding of a lease -/

def TemporaryCredentialStatus.code : TemporaryCredentialStatus → UInt64
  | .active => 1
  | .expired => 2
  | .revoked => 3

def encodeTemporaryLease (lease : TemporaryCredentialLease) : Bytes :=
  writeVarintField 1 lease.generation ++ writeVarintField 2 lease.activatedAtUnixSeconds ++
    writeVarintField 3 lease.expiresAtUnixSeconds ++
    writeVarintField 4 lease.lastObservedUnixSeconds ++ writeVarintField 5 lease.status.code

abbrev LeaseFields := Fin 5 → Option UInt64

def readLeaseField (fields : LeaseFields) :
    Exec ProtoReader TemporaryCredentialError LeaseFields := do
  let tag ← mapError (fun _ => .malformedState) readTag
  if h : (1 ≤ tag.fieldNumber.toNat ∧ tag.fieldNumber.toNat ≤ 5) ∧ tag.wireType = wireVarint then
    let slot : Fin 5 := ⟨tag.fieldNumber.toNat - 1, by omega⟩
    if (fields slot).isSome then fail .malformedState
    else do
      let value ← mapError (fun _ => .malformedState) readVarint
      pure (Function.update fields slot (some value))
  else fail .malformedState

/-- The values of the fields as a lease. A deadline that overflows equals no value of the third
field. -/
def restoreLease (generation start stop last status : UInt64) :
    Except TemporaryCredentialError TemporaryCredentialLease :=
  if h : generation = 0 ∨ start = 0 ∨
      stop.toNat ≠ start.toNat + temporaryCredentialTtlSeconds ∨ last < start then
    .error .malformedState
  else
    have hgeneration := (not_or.mp h).1
    have hstart := (not_or.mp (not_or.mp h).2).1
    have hstop := not_not.mp (not_or.mp (not_or.mp (not_or.mp h).2).2).1
    have hlast := UInt64.not_lt.mp (not_or.mp (not_or.mp (not_or.mp h).2).2).2
    if hactive : status = 1 ∧ last < stop then
      .ok ⟨generation, start, stop, last, .active, hgeneration, hstart, hstop, hlast,
        fun _ => hactive.2, by rintro ⟨⟩⟩
    else if hexpired : status = 2 ∧ stop ≤ last then
      .ok ⟨generation, start, stop, last, .expired, hgeneration, hstart, hstop, hlast,
        by rintro ⟨⟩, fun _ => hexpired.2⟩
    else if status = 3 then
      .ok ⟨generation, start, stop, last, .revoked, hgeneration, hstart, hstop, hlast,
        by rintro ⟨⟩, by rintro ⟨⟩⟩
    else .error .malformedState

def decodeTemporaryLease (input : Bytes) :
    Except TemporaryCredentialError TemporaryCredentialLease := do
  let fields ← (whileUnread .malformedState readLeaseField input.length (fun _ => none)
    (.new input)).1
  match fields 0, fields 1, fields 2, fields 3, fields 4 with
  | some generation, some start, some stop, some last, some status => do
      let state ← restoreLease generation start stop last status
      if encodeTemporaryLease state ≠ input then .error .nonCanonicalState else .ok state
  | _, _, _, _, _ => .error .malformedState

open TemporaryCredentialStatus

theorem restoreLease_fields (lease) :
    restoreLease lease.generation lease.activatedAtUnixSeconds lease.expiresAtUnixSeconds
      lease.lastObservedUnixSeconds lease.status.code = .ok lease := by
  have hchk : ¬ (lease.generation = 0 ∨ lease.activatedAtUnixSeconds = 0 ∨
      lease.expiresAtUnixSeconds.toNat ≠
        lease.activatedAtUnixSeconds.toNat + temporaryCredentialTtlSeconds ∨
      lease.lastObservedUnixSeconds < lease.activatedAtUnixSeconds) := by
    rintro (h | h | h | h)
    · exact lease.generation_ne h
    · exact lease.activated_ne h
    · exact h lease.expires_eq
    · exact UInt64.not_lt.mpr lease.activated_le h
  have hcodes : code .expired ≠ 1 ∧ code .revoked ≠ 1 ∧ code .revoked ≠ 2 := by decide
  unfold restoreLease
  rw [dif_neg hchk]
  rcases lease with ⟨gen, start, stop, last, status, -, -, -, -, hlast, hover⟩
  cases status with
  | active => rw [dif_pos ⟨rfl, hlast rfl⟩]
  | expired => rw [dif_neg fun h => hcodes.1 h.1, dif_pos ⟨rfl, hover rfl⟩]
  | revoked =>
    rw [dif_neg fun h => hcodes.2.1 h.1, dif_neg fun h => hcodes.2.2 h.1]
    exact if_pos rfl

theorem reads_leaseField {fields} (slot) (hfree : fields slot = none) (value) :
    Reads (readLeaseField fields) (writeVarintField (UInt32.ofNat (slot.val + 1)) value)
      (Function.update fields slot (some value)) := by
  have hnum : ∀ slot : Fin 5, UInt32.ofNat (slot.val + 1) ∈ ([1, 2, 3, 4, 5, 6] : List UInt32) ∧
      (UInt32.ofNat (slot.val + 1)).toNat = slot.val + 1 := by decide
  obtain ⟨hmem, hvalue⟩ := hnum slot
  refine ((reads_readTag hmem (.head _)).mapError _).bind ?_
  have hslot := slot.isLt
  rw [dif_pos ⟨⟨by dsimp only; omega, by dsimp only; omega⟩, rfl⟩]
  have hsame : (⟨(UInt32.ofNat (slot.val + 1)).toNat - 1, by omega⟩ : Fin 5) = slot := by
    refine Fin.ext ?_
    show (UInt32.ofNat (slot.val + 1)).toNat - 1 = slot.val
    omega
  dsimp only
  rw [hsame, hfree, if_neg (by simp)]
  exact ((reads_readVarint value).mapError _).bind_pure (Reads.pure _)

theorem writeVarint_ne_nil (value) : writeVarint value ≠ [] := by
  rw [writeVarint]
  split
  · exact cons_ne_nil _ _
  · exact cons_ne_nil _ _

theorem chunk_ne_nil (tag bytes) : writeVarint tag ++ bytes ≠ [] :=
  append_ne_nil_of_left_ne_nil (writeVarint_ne_nil tag) bytes

theorem ReadsChunks.decode {ε β : Type} (cut : ε) {body : β → Exec ProtoReader ε β}
    {state last : β} {chunks : List Bytes} (h : ReadsChunks body state chunks last) :
    (Credentials.whileUnread cut body chunks.flatten.length state (.new chunks.flatten)).1 =
      .ok last := by
  have hpasses : chunks.length ≤ chunks.flatten.length := by
    induction h with
    | done state => exact Nat.zero_le _
    | @pass state next last chunk chunks hchunk hpass hrest ih =>
      have hpos := length_pos_of_ne_nil hchunk
      rw [flatten_cons, length_append, length_cons]
      omega
  rw [h.whileUnread hpasses (Nat.zero_le _) rfl]

theorem encodeTemporaryLease_eq (lease) :
    encodeTemporaryLease lease = [writeVarintField 1 lease.generation,
      writeVarintField 2 lease.activatedAtUnixSeconds,
      writeVarintField 3 lease.expiresAtUnixSeconds,
      writeVarintField 4 lease.lastObservedUnixSeconds,
      writeVarintField 5 lease.status.code].flatten := by
  simp only [encodeTemporaryLease, flatten_cons, flatten_nil, append_nil, append_assoc]

theorem decode_encode_lease (lease) :
    decodeTemporaryLease (encodeTemporaryLease lease) = .ok lease := by
  have hchunks : ReadsChunks readLeaseField (fun _ => none)
      [writeVarintField 1 lease.generation, writeVarintField 2 lease.activatedAtUnixSeconds,
        writeVarintField 3 lease.expiresAtUnixSeconds,
        writeVarintField 4 lease.lastObservedUnixSeconds, writeVarintField 5 lease.status.code] _ :=
    .pass (chunk_ne_nil _ _) (reads_leaseField 0 rfl _) <|
      .pass (chunk_ne_nil _ _) (reads_leaseField 1 rfl _) <|
      .pass (chunk_ne_nil _ _) (reads_leaseField 2 rfl _) <|
      .pass (chunk_ne_nil _ _) (reads_leaseField 3 rfl _) <|
      .pass (chunk_ne_nil _ _) (reads_leaseField 4 rfl _) <| .done _
  have hloop := hchunks.decode .malformedState
  rw [← encodeTemporaryLease_eq] at hloop
  unfold decodeTemporaryLease
  rw [hloop]
  show (restoreLease lease.generation lease.activatedAtUnixSeconds lease.expiresAtUnixSeconds
    lease.lastObservedUnixSeconds lease.status.code >>= fun state =>
      if encodeTemporaryLease state ≠ encodeTemporaryLease lease then
        .error .nonCanonicalState else .ok state) = .ok lease
  rw [restoreLease_fields]
  exact if_neg (not_not.mpr rfl)

/-! ## The record -/

def utf8 (text : Text) : Bytes := text.flatMap String.utf8EncodeChar

def fromUtf8 (bytes : Bytes) : Option Text := bytes.toByteArray.utf8Decode?.map Array.toList

theorem fromUtf8_utf8 (text : Text) : fromUtf8 (utf8 text) = some text := by
  have hdecode : (utf8 text).toByteArray.utf8Decode? = some text.toArray := utf8Decode?_utf8Encode
  rw [fromUtf8, hdecode, Option.map_some]

/-- Not blank, at most 255 bytes and without a zero byte. -/
def isCredentialText (text : Text) : Bool :=
  !(trim text).isEmpty && decide ((utf8 text).length ≤ 255) && !(utf8 text).contains 0

structure TemporaryCredentialRecord where
  lease : TemporaryCredentialLease
  username : Text
  password : Text
  username_ok : isCredentialText username = true
  password_ok : isCredentialText password = true
  deriving DecidableEq

namespace TemporaryCredentialRecord

def issue (generation : UInt64) (trustedUnixSeconds : Option UInt64) (username password : Text) :
    Except TemporaryCredentialError TemporaryCredentialRecord :=
  if h : isCredentialText username = true ∧ isCredentialText password = true then
    (TemporaryCredentialLease.activate generation trustedUnixSeconds).map fun lease =>
      ⟨lease, username, password, h.1, h.2⟩
  else .error .invalidCredentialMaterial

variable (record : TemporaryCredentialRecord)

def observe (trustedUnixSeconds : Option UInt64) : TemporaryCredentialRecord × Bool :=
  ({ record with lease := (record.lease.observe trustedUnixSeconds).1 },
    (record.lease.observe trustedUnixSeconds).2)

def revoke : TemporaryCredentialRecord := { record with lease := record.lease.revoke }

end TemporaryCredentialRecord

open TemporaryCredentialRecord

def encodeTemporaryRecord (record : TemporaryCredentialRecord) : Bytes :=
  writeVarintField 1 1 ++ writeBytesField 2 (encodeTemporaryLease record.lease) ++
    writeBytesField 3 (utf8 record.username) ++ writeBytesField 4 (utf8 record.password)

structure RecordFields where
  schema : Option UInt64
  lease : Option TemporaryCredentialLease
  username : Option Text
  password : Option Text

def readText : Exec ProtoReader TemporaryCredentialError Text := do
  let bytes ← mapError (fun _ => .malformedState) readBytes
  match fromUtf8 bytes with
  | none => fail .invalidCredentialMaterial
  | some text => pure text

def readRecordField (fields : RecordFields) :
    Exec ProtoReader TemporaryCredentialError RecordFields := do
  let tag ← mapError (fun _ => .malformedState) readTag
  if tag = ⟨1, wireVarint⟩ ∧ fields.schema = none then do
    let schema ← mapError (fun _ => .malformedState) readVarint
    pure { fields with schema := some schema }
  else if tag = ⟨2, wireLengthDelimited⟩ ∧ fields.lease = none then do
    let bytes ← mapError (fun _ => .malformedState) readBytes
    match decodeTemporaryLease bytes with
    | .error failure => fail failure
    | .ok lease => pure { fields with lease := some lease }
  else if tag = ⟨3, wireLengthDelimited⟩ ∧ fields.username = none then do
    let username ← readText
    pure { fields with username := some username }
  else if tag = ⟨4, wireLengthDelimited⟩ ∧ fields.password = none then do
    let password ← readText
    pure { fields with password := some password }
  else fail .malformedState

def restoreRecord (bytes : Bytes) (fields : RecordFields) :
    Except TemporaryCredentialError TemporaryCredentialRecord :=
  if fields.schema ≠ some 1 then .error .malformedState
  else
    match fields.lease, fields.username, fields.password with
    | some lease, some username, some password =>
        if h : isCredentialText username = true ∧ isCredentialText password = true then
          let record : TemporaryCredentialRecord := ⟨lease, username, password, h.1, h.2⟩
          if encodeTemporaryRecord record ≠ bytes then .error .nonCanonicalState else .ok record
        else .error .invalidCredentialMaterial
    | _, _, _ => .error .malformedState

def decodeTemporaryRecord (bytes : Bytes) :
    Except TemporaryCredentialError TemporaryCredentialRecord := do
  let fields ← (whileUnread .malformedState readRecordField bytes.length
    ⟨none, none, none, none⟩ (.new bytes)).1
  restoreRecord bytes fields

/-! ## Records are read back -/

theorem length_writeVarint_le {passes value} (h : value.toNat < 2 ^ (7 * passes)) :
    (writeVarint value).length ≤ max passes 1 := by
  induction passes generalizing value with
  | zero =>
    have hsmall : ¬ (0x80 : UInt64) ≤ value := by
      rw [UInt64.le_iff_toNat_le]
      show ¬ 128 ≤ value.toNat
      omega
    rw [writeVarint, if_neg hsmall]
    exact Nat.le_max_right _ _
  | succ passes ih =>
    rw [writeVarint]
    split
    · rename_i hmore
      have hlarge : 128 ≤ value.toNat := UInt64.le_iff_toNat_le.mp hmore
      have hpower : 2 ^ (7 * (passes + 1)) = 2 ^ (7 * passes) * 128 := by ring
      have hnext : (value >>> 7).toNat < 2 ^ (7 * passes) := by
        rw [toNat_shift]
        omega
      have hrest := ih hnext
      have hpos : passes ≠ 0 := by
        rintro rfl
        rw [toNat_shift] at hnext
        omega
      rw [length_cons]
      omega
    · exact Nat.le_max_right _ _

theorem length_varint_le (value) : (writeVarint value).length ≤ 10 := by
  have hlt := value.toNat_lt
  have hlen : (writeVarint value).length ≤ max 10 1 := length_writeVarint_le (by omega)
  omega

theorem length_encodeTemporaryLease_lt (lease) : (encodeTemporaryLease lease).length < 2 ^ 64 := by
  have hfield (number : UInt32) (value : UInt64) : (writeVarintField number value).length ≤ 20 := by
    have htag := length_varint_le (tagOf number wireVarint)
    have hvalue := length_varint_le value
    rw [writeVarintField, length_append]
    omega
  have h₁ := hfield 1 lease.generation
  have h₂ := hfield 2 lease.activatedAtUnixSeconds
  have h₃ := hfield 3 lease.expiresAtUnixSeconds
  have h₄ := hfield 4 lease.lastObservedUnixSeconds
  have h₅ := hfield 5 lease.status.code
  simp only [encodeTemporaryLease, length_append]
  omega

theorem length_utf8_lt {text : Text} (h : isCredentialText text = true) :
    (utf8 text).length < 2 ^ 64 := by
  have hlen : (utf8 text).length ≤ 255 := by
    simp only [isCredentialText, Bool.and_eq_true, decide_eq_true_eq] at h
    exact h.1.2
  omega

theorem reads_readText {text : Text} (h : isCredentialText text = true) :
    Reads readText (writeVarint (.ofNat (utf8 text).length) ++ utf8 text) text := by
  refine ((reads_readBytes (length_utf8_lt h)).mapError _).bind_pure ?_
  rw [fromUtf8_utf8]
  exact Reads.pure _

section

variable {fields : RecordFields}

theorem reads_schema (hfree : fields.schema = none) (schema) :
    Reads (readRecordField fields) (writeVarintField 1 schema)
      { fields with schema := some schema } := by
  refine ((reads_readTag (by decide) (by decide)).mapError _).bind ?_
  rw [if_pos ⟨rfl, hfree⟩]
  exact ((reads_readVarint schema).mapError _).bind_pure (Reads.pure _)

theorem reads_lease (hfree : fields.lease = none) (lease) :
    Reads (readRecordField fields) (writeBytesField 2 (encodeTemporaryLease lease))
      { fields with lease := some lease } := by
  refine ((reads_readTag (by decide) (by decide)).mapError _).bind ?_
  rw [if_neg (by rintro ⟨⟨⟩, -⟩), if_pos ⟨rfl, hfree⟩]
  refine ((reads_readBytes (length_encodeTemporaryLease_lt lease)).mapError _).bind_pure ?_
  rw [decode_encode_lease]
  exact Reads.pure _

theorem reads_username (hfree : fields.username = none) {username : Text}
    (h : isCredentialText username = true) :
    Reads (readRecordField fields) (writeBytesField 3 (utf8 username))
      { fields with username := some username } := by
  refine ((reads_readTag (by decide) (by decide)).mapError _).bind ?_
  rw [if_neg (by rintro ⟨⟨⟩, -⟩), if_neg (by rintro ⟨⟨⟩, -⟩), if_pos ⟨rfl, hfree⟩]
  exact (reads_readText h).bind_pure (Reads.pure _)

theorem reads_password (hfree : fields.password = none) {password : Text}
    (h : isCredentialText password = true) :
    Reads (readRecordField fields) (writeBytesField 4 (utf8 password))
      { fields with password := some password } := by
  refine ((reads_readTag (by decide) (by decide)).mapError _).bind ?_
  rw [if_neg (by rintro ⟨⟨⟩, -⟩), if_neg (by rintro ⟨⟨⟩, -⟩), if_neg (by rintro ⟨⟨⟩, -⟩),
    if_pos ⟨rfl, hfree⟩]
  exact (reads_readText h).bind_pure (Reads.pure _)

end

theorem encodeTemporaryRecord_eq (record) : encodeTemporaryRecord record = [writeVarintField 1 1,
      writeBytesField 2 (encodeTemporaryLease record.lease),
      writeBytesField 3 (utf8 record.username),
      writeBytesField 4 (utf8 record.password)].flatten := by
  simp only [encodeTemporaryRecord, flatten_cons, flatten_nil, append_nil, append_assoc]

theorem decode_encode_record (record) :
    decodeTemporaryRecord (encodeTemporaryRecord record) = .ok record := by
  have hchunks : ReadsChunks readRecordField ⟨none, none, none, none⟩
      [writeVarintField 1 1, writeBytesField 2 (encodeTemporaryLease record.lease),
        writeBytesField 3 (utf8 record.username), writeBytesField 4 (utf8 record.password)]
      ⟨some 1, some record.lease, some record.username, some record.password⟩ :=
    .pass (chunk_ne_nil _ _) (reads_schema rfl _) <| .pass (chunk_ne_nil _ _) (reads_lease rfl _) <|
      .pass (chunk_ne_nil _ _) (reads_username rfl record.username_ok) <|
      .pass (chunk_ne_nil _ _) (reads_password rfl record.password_ok) <| .done _
  have hloop := hchunks.decode .malformedState
  rw [← encodeTemporaryRecord_eq] at hloop
  unfold decodeTemporaryRecord
  rw [hloop]
  show restoreRecord (encodeTemporaryRecord record)
    ⟨some 1, some record.lease, some record.username, some record.password⟩ = _
  rw [restoreRecord, if_neg (not_not.mpr rfl)]
  dsimp only
  rw [dif_pos ⟨record.username_ok, record.password_ok⟩]
  exact if_neg (not_not.mpr rfl)

theorem encode_of_decode_record {bytes record} (h : decodeTemporaryRecord bytes = .ok record) :
    bytes = encodeTemporaryRecord record := by
  unfold decodeTemporaryRecord at h
  generalize (whileUnread _ _ _ _ _).1 = result at h
  cases result with
  | error failure => cases h
  | ok fields =>
    change restoreRecord bytes fields = _ at h
    unfold restoreRecord at h
    split_ifs at h
    split at h
    · dsimp only at h
      split_ifs at h with htexts hother
      cases h
      exact (not_not.mp hother).symm
    · cases h

/-- What is stored is read back, and only what is stored is read. -/
theorem record_codec_canonical :
    (∀ record, decodeTemporaryRecord (encodeTemporaryRecord record) = .ok record) ∧
    (∀ bytes record, decodeTemporaryRecord bytes = .ok record →
      bytes = encodeTemporaryRecord record) ∧
    ∀ bytes bytes' record record', decodeTemporaryRecord bytes = .ok record →
      decodeTemporaryRecord bytes' = .ok record' → bytes ≠ bytes' → record ≠ record' := by
  refine ⟨decode_encode_record, fun _ _ => encode_of_decode_record, ?_⟩
  rintro bytes bytes' record _ h h' hne rfl
  exact hne ((encode_of_decode_record h).trans (encode_of_decode_record h').symm)

/-! ## Every sequence of observations -/

inductive LeaseStep where
  | observe (trustedUnixSeconds : Option UInt64)
  | revoke
  | reload
  deriving DecidableEq

/-- A step, with the answer of an observation. A record that cannot be read back is lost. -/
def LeaseStep.take : Except TemporaryCredentialError TemporaryCredentialRecord → LeaseStep →
    Option Bool × Except TemporaryCredentialError TemporaryCredentialRecord
  | .ok record, .observe trusted =>
    (some (record.observe trusted).2, .ok (record.observe trusted).1)
  | .ok record, .revoke => (none, .ok record.revoke)
  | .ok record, .reload => (none, decodeTemporaryRecord (encodeTemporaryRecord record))
  | .error failure, .observe _ => (some false, .error failure)
  | .error failure, _ => (none, .error failure)

abbrev LeaseEvent :=
  Event (Except TemporaryCredentialError TemporaryCredentialRecord) LeaseStep (Option Bool)

/-- The grant of a record, which is everything but the progress of its lease. -/
structure SameGrant (issued record : TemporaryCredentialRecord) : Prop where
  generation : record.lease.generation = issued.lease.generation
  activated : record.lease.activatedAtUnixSeconds = issued.lease.activatedAtUnixSeconds
  expires : record.lease.expiresAtUnixSeconds = issued.lease.expiresAtUnixSeconds
  username : record.username = issued.username
  password : record.password = issued.password

def AdmittedAt (clock : UInt64) (event : LeaseEvent) : Prop :=
  event.input = .observe (some clock) ∧ event.output = some true

/-- A denied observation or a revocation. -/
def EndsLease (event : LeaseEvent) : Prop := event.output = some false ∨ event.input = .revoke

/-- An admitting observation is inside the window, the clock has not gone back and nothing before
it has ended the lease. -/
def AdmissionInWindow (issued : TemporaryCredentialRecord) (event : LeaseEvent)
    (older : List LeaseEvent) : Prop :=
  event.output = some true → ∃ clock, event.input = .observe (some clock) ∧
    issued.lease.activatedAtUnixSeconds ≤ clock ∧
    clock.toNat < issued.lease.activatedAtUnixSeconds.toNat + temporaryCredentialTtlSeconds ∧
    (∀ earlier ∈ older, ∀ before, AdmittedAt before earlier → before ≤ clock) ∧
    ∀ earlier ∈ older, ¬ EndsLease earlier

theorem TemporaryCredentialLease.observe_cases (lease : TemporaryCredentialLease)
    (trusted : Option UInt64) : let next := (lease.observe trusted).1
    (next.generation = lease.generation ∧
      next.activatedAtUnixSeconds = lease.activatedAtUnixSeconds ∧
      next.expiresAtUnixSeconds = lease.expiresAtUnixSeconds) ∧
    ((lease.observe trusted).2 = false ∧ next.status ≠ .active ∨
      (lease.observe trusted).2 = true ∧ lease.status = .active ∧
      ∃ now, trusted = some now ∧ lease.activatedAtUnixSeconds ≤ now ∧
        lease.lastObservedUnixSeconds ≤ now ∧ now < lease.expiresAtUnixSeconds ∧
        next.lastObservedUnixSeconds = now) := by
  unfold observe
  by_cases hact : lease.status = .active
  · rw [if_neg (not_not.mpr hact)]
    cases trusted with
    | none => exact ⟨⟨rfl, rfl, rfl⟩, .inl ⟨rfl, by rintro ⟨⟩⟩⟩
    | some now =>
      dsimp only
      by_cases hback : now < lease.activatedAtUnixSeconds ∨ now < lease.lastObservedUnixSeconds
      · rw [dif_pos hback]
        exact ⟨⟨rfl, rfl, rfl⟩, .inl ⟨rfl, by rintro ⟨⟩⟩⟩
      rw [dif_neg hback]
      by_cases hover : lease.expiresAtUnixSeconds ≤ now
      · rw [dif_pos hover]
        exact ⟨⟨rfl, rfl, rfl⟩, .inl ⟨rfl, by simp⟩⟩
      · rw [dif_neg hover]
        obtain ⟨hactd, hlast⟩ := not_or.mp hback
        exact ⟨⟨rfl, rfl, rfl⟩, .inr ⟨rfl, hact, now, rfl, UInt64.not_lt.mp hactd,
          UInt64.not_lt.mp hlast, UInt64.not_le.mp hover, rfl⟩⟩
  · rw [if_pos hact]
    exact ⟨⟨rfl, rfl, rfl⟩, .inl ⟨rfl, hact⟩⟩

/-- What a run keeps: while the lease is active nothing has ended it, and the last observation is
the latest admitted clock. -/
structure Leased (issued : TemporaryCredentialRecord)
    (recorded : Recorded (Except TemporaryCredentialError TemporaryCredentialRecord) LeaseStep
      (Option Bool)) (record : TemporaryCredentialRecord) : Prop where
  state : recorded.state = .ok record
  same : SameGrant issued record
  running : record.lease.status = .active → ∀ event ∈ recorded.history, ¬ EndsLease event
  latest : ∀ event ∈ recorded.history, ∀ clock, AdmittedAt clock event →
    clock ≤ record.lease.lastObservedUnixSeconds ∨ record.lease.status ≠ .active
  kept : ∀ event ∈ recorded.history, ∃ record, event.after = .ok record ∧ SameGrant issued record
  admissions : Always (AdmissionInWindow issued) recorded.history

section

variable {issued record next : TemporaryCredentialRecord}
  {recorded : Recorded (Except TemporaryCredentialError TemporaryCredentialRecord) LeaseStep
    (Option Bool)}

/-- A step that is not an observation leaves the lease as it is or revokes it. -/
theorem Leased.silent (h : Leased issued recorded record) {step}
    (htake : step.take (.ok record) = (none, .ok next)) (hsame : SameGrant issued next)
    (hnext : next = record ∧ step ≠ .revoke ∨ next.lease.status ≠ .active) :
    Leased issued (Machine.record LeaseStep.take recorded step)
      next := by
  have hrecord : Machine.record LeaseStep.take recorded step =
      ⟨.ok next, ⟨step, none, .ok next⟩ :: recorded.history⟩ := by
    rw [Machine.record, h.state, htake]
  rw [hrecord]
  refine ⟨rfl, hsame, fun hact ev hevent => ?_, fun ev hevent clock hadm => ?_,
    fun ev hevent => ?_, always_cons_iff.mpr ⟨by rintro ⟨⟩, h.admissions⟩⟩
  · rcases hnext with ⟨rfl, hstep⟩ | hended
    · rcases mem_cons.mp hevent with rfl | hold
      · rintro (hdenied | hrevoke)
        · cases hdenied
        · exact hstep hrevoke
      · exact h.running hact ev hold
    · exact absurd hact hended
  · rcases hnext with ⟨rfl, -⟩ | hended
    · rcases mem_cons.mp hevent with rfl | hold
      · cases hadm.2
      · exact h.latest ev hold clock hadm
    · exact .inr hended
  · rcases mem_cons.mp hevent with rfl | hold
    · exact ⟨next, rfl, hsame⟩
    · exact h.kept ev hold

theorem Leased.observed (h : Leased issued recorded record) (trusted) :
    Leased issued (Machine.record LeaseStep.take recorded
      (.observe trusted)) (record.observe trusted).1 := by
  have hrecord : Machine.record LeaseStep.take recorded
      (.observe trusted) = ⟨.ok (record.observe trusted).1,
        ⟨.observe trusted, some (record.observe trusted).2, .ok (record.observe trusted).1⟩ ::
          recorded.history⟩ := by
    rw [Machine.record, h.state]
    rfl
  obtain ⟨⟨hgen, hactd, hexpires⟩, hcases⟩ := record.lease.observe_cases trusted
  have hsame : SameGrant issued (record.observe trusted).1 :=
    ⟨hgen.trans h.same.generation, hactd.trans h.same.activated,
      hexpires.trans h.same.expires, h.same.username, h.same.password⟩
  have hkept : ∀ ev ∈ (⟨.observe trusted, some (record.observe trusted).2,
      .ok (record.observe trusted).1⟩ : LeaseEvent) :: recorded.history,
      ∃ record, ev.after = .ok record ∧ SameGrant issued record := by
    intro ev hevent
    rcases mem_cons.mp hevent with rfl | hold
    · exact ⟨_, rfl, hsame⟩
    · exact h.kept ev hold
  rw [hrecord]
  rcases hcases with ⟨hdenied, hended⟩ | ⟨hadm, hact, now, rfl, hstart, hlast, hstop, hnext⟩
  · refine ⟨rfl, hsame, fun hact => absurd hact hended, fun _ _ _ _ => .inr hended, hkept,
      always_cons_iff.mpr ⟨fun hadm => ?_, h.admissions⟩⟩
    cases hadm.symm.trans (congrArg some hdenied)
  · have hlat : ∀ earlier ∈ recorded.history, ∀ clock, AdmittedAt clock earlier → clock ≤ now := by
      intro earlier hearl clock hadm
      rcases h.latest earlier hearl clock hadm with hle | hended
      · exact UInt64.le_trans hle hlast
      · exact absurd hact hended
    refine ⟨rfl, hsame, fun _ ev hevent => ?_, fun ev hevent clock hadm => .inl ?_, hkept,
      always_cons_iff.mpr ⟨fun _ => ⟨now, rfl, ?_, ?_, hlat, h.running hact⟩, h.admissions⟩⟩
    · rcases mem_cons.mp hevent with rfl | hold
      · rintro (hdenied | hrevoke)
        · cases hdenied.symm.trans (congrArg some hadm)
        · cases hrevoke
      · exact h.running hact ev hold
    · show clock ≤ (record.lease.observe (some now)).1.lastObservedUnixSeconds
      rw [hnext]
      rcases mem_cons.mp hevent with rfl | hold
      · obtain ⟨hinput, -⟩ := hadm
        cases hinput
        exact UInt64.le_refl _
      · exact hlat ev hold clock hadm
    · rw [← h.same.activated]
      exact hstart
    · rw [← h.same.activated, ← record.lease.expires_eq]
      exact UInt64.lt_iff_toNat_lt.mp hstop

theorem Leased.step (h : ∃ record, Leased issued recorded record) (step) : ∃ record, Leased issued
      (Machine.record LeaseStep.take recorded step) record := by
  obtain ⟨record, hleased⟩ := h
  cases step with
  | observe trusted => exact ⟨_, hleased.observed trusted⟩
  | revoke =>
    have hsame := hleased.same
    refine ⟨record.revoke, hleased.silent rfl ?_ (.inr (by rintro ⟨⟩))⟩
    exact ⟨hsame.generation, hsame.activated, hsame.expires, hsame.username, hsame.password⟩
  | reload =>
    refine ⟨record, hleased.silent ?_ hleased.same (.inl ⟨rfl, by simp⟩)⟩
    show (none, decodeTemporaryRecord (encodeTemporaryRecord record)) = _
    rw [decode_encode_record]

end

theorem leased_run (issued steps) :
    ∃ record, Leased issued (run (Machine.record LeaseStep.take) (.init (.ok issued)) steps)
      record := by
  have hstart : Leased issued (.init (.ok issued)) issued :=
    ⟨rfl, ⟨rfl, rfl, rfl, rfl, rfl⟩, fun _ _ hevent => absurd hevent not_mem_nil,
      fun _ hevent => absurd hevent not_mem_nil,
      fun _ hevent => absurd hevent not_mem_nil, Always.nil⟩
  exact run_invariant (I := fun recorded => ∃ record, Leased issued recorded record)
    (fun _ step h => Leased.step h step) ⟨issued, hstart⟩ steps

theorem issue_ok {gen trusted username password issued}
    (h : issue gen trusted username password = .ok issued) :
    issued.lease.generation = gen ∧ trusted = some issued.lease.activatedAtUnixSeconds := by
  unfold issue TemporaryCredentialLease.activate at h
  split at h
  · split at h
    · cases h
    cases trusted with
    | none => cases h
    | some now =>
      dsimp only at h
      split at h
      · cases h
      split at h
      · cases h
        exact ⟨rfl, rfl⟩
      · cases h
  · cases h

/-- Over every sequence of observations with arbitrary clocks, revocations and round trips through
the store, an issued record is never lost and its grant never changes. An observation that admits
is inside the window and not before an admitted one, and nothing before it ended the lease. -/
theorem lease_within_window {generation : UInt64} {trusted : Option UInt64}
    {username password : Text} {issued : TemporaryCredentialRecord}
    (hissue : issue generation trusted username password = .ok issued)
    (steps : List LeaseStep) :
    let recorded := run (record LeaseStep.take) (.init (.ok issued)) steps
    (issued.lease.generation = generation ∧ trusted = some issued.lease.activatedAtUnixSeconds) ∧
      (∀ event ∈ recorded.history, ∃ record, event.after = .ok record ∧ SameGrant issued record) ∧
      Always (AdmissionInWindow issued) recorded.history := by
  obtain ⟨record, hleased⟩ := leased_run issued steps
  exact ⟨issue_ok hissue, hleased.kept, hleased.admissions⟩

/-- The last second of the window. -/
theorem lease_within_window_last_second :
    ∃ issued, issue 1 (some 1800000000) "guest".toList "secret".toList =
        .ok issued ∧
      Always (AdmissionInWindow issued) (run (record LeaseStep.take) (.init (.ok issued))
        [.observe (some 1800086399), .reload, .observe (some 1800086400)]).history := by
  obtain ⟨issued, hissue⟩ : ∃ issued, issue 1 (some 1800000000)
      "guest".toList "secret".toList = .ok issued := ⟨_, rfl⟩
  exact ⟨issued, hissue, (lease_within_window hissue _).2.2⟩

end MishProxy.Credentials
