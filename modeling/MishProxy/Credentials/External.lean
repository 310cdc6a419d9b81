import MishProxy.Credentials.Temporary
import Mathlib.Data.Nat.Digits.Defs

/-!
# The external credential

The credential of a remote proxy has a version and is active or revoked. Its state is stored as
bytes, which a lenient decoder reads: unknown fields are skipped. What is stored is accepted only
when it is what the encoder writes, so `persistence_stable` makes the stored state a fixed point.
An envelope carries the active credential to the remote side (`provisioning_round_trip`).
-/

namespace MishProxy.Credentials

open Text Effects Effects.Exec ProtoReader List

inductive ExternalCredentialError where
  | invalidVersion
  | malformedState
  | nonCanonicalState
  | mixedPersistenceSchemas
  | missingRootForState
  | incompleteLegacyState
  | invalidLegacyVersion
  | rootWithoutState
  | invalidProvisioningEnvelope
  deriving DecidableEq

inductive ExternalCredentialStatus where
  | active
  | revoked
  deriving DecidableEq

structure ExternalCredentialState where
  version : UInt64
  status : ExternalCredentialStatus
  version_ne : version ≠ 0

def ExternalCredentialStatus.ofRevoked (revoked : Bool) : ExternalCredentialStatus :=
  if revoked then .revoked else .active

namespace ExternalCredentialState

def new (version : UInt64) (status : ExternalCredentialStatus) :
    Except ExternalCredentialError ExternalCredentialState :=
  if h : version = 0 then .error .invalidVersion else .ok ⟨version, status, h⟩

theorem initialVersion_ne : (1 : UInt64) ≠ 0 := by decide

def initial : ExternalCredentialState := ⟨1, .active, initialVersion_ne⟩

def credentialId (state : ExternalCredentialState) : Text :=
  "external-proxy-v".toList ++ decimal state.version.toNat

end ExternalCredentialState

/-- A field that may occur once. -/
def readOnce {α : Type} (failure : ExternalCredentialError) (tag : ProtoTag) (wireType : UInt8)
    (seen : Option α) (read : Exec ProtoReader ProtoError α) :
    Exec ProtoReader ExternalCredentialError (Option α) :=
  if tag.wireType ≠ wireType ∨ seen.isSome then fail failure
  else do
    let value ← mapError (fun _ => failure) read
    pure (some value)

theorem reads_field {α β : Type} {failure number wireType read bytes} {value : α}
    {next : Option α → β} {body : ProtoTag → Exec ProtoReader ExternalCredentialError β}
    (htag : number ∈ [1, 2, 3, 4, 5, 6] ∧ wireType ∈ [wireVarint, wireLengthDelimited])
    (h : Reads read bytes value) (hbody : body ⟨number, wireType⟩ =
      readOnce failure ⟨number, wireType⟩ wireType none read >>= fun seen => pure (next seen)) :
    Reads (mapError (fun _ => failure) readTag >>= body)
      (writeVarint (tagOf number wireType) ++ bytes) (next (some value)) := by
  have honce : Reads (readOnce failure ⟨number, wireType⟩ wireType none read) bytes
      (some value) := by
    rw [readOnce, if_neg (by simp)]
    exact (h.mapError _).bind_pure (Reads.pure _)
  refine ((reads_readTag htag.1 htag.2).mapError _).bind ?_
  rw [hbody]
  exact honce.bind_pure (Reads.pure _)

/-! ## The stored state -/

def encodeState (state : ExternalCredentialState) : Bytes :=
  writeVarintField 1 state.version ++
    if state.status = .revoked then writeVarintField 2 1 else []

def readRevoked : Exec ProtoReader ProtoError Bool := do
  let value ← readVarint
  if value = 0 then pure false else if value = 1 then pure true else fail .protoError

structure StateFields where
  version : Option UInt64
  revoked : Option Bool

def readStateField (fields : StateFields) :
    Exec ProtoReader ExternalCredentialError StateFields := do
  let tag ← mapError (fun _ => .malformedState) readTag
  if tag.fieldNumber = 1 then do
    let version ← readOnce .malformedState tag wireVarint fields.version readVarint
    pure { fields with version := version }
  else if tag.fieldNumber = 2 then do
    let revoked ← readOnce .malformedState tag wireVarint fields.revoked readRevoked
    pure { fields with revoked := revoked }
  else do
    mapError (fun _ => .malformedState) (skip tag.wireType)
    pure fields

def decodeState (encoded : Bytes) : Except ExternalCredentialError ExternalCredentialState := do
  let fields ← (whileUnread .malformedState readStateField encoded.length ⟨none, none⟩
    (.new encoded)).1
  match fields.version with
  | none => .error .malformedState
  | some version => ExternalCredentialState.new version (.ofRevoked (fields.revoked.getD false))

inductive ExternalCredentialPersistenceAction where
  | useCurrent
  | persistCanonical
  | createRootAndPersistCanonical
  deriving DecidableEq

structure ExternalCredentialPersistenceResolution where
  state : ExternalCredentialState
  canonicalState : Bytes
  action : ExternalCredentialPersistenceAction

def resolvePersistence (canonicalState : Option Bytes) (legacyVersion : Option Text)
    (legacyRevoked : Option Bool) (rootExists : Bool) :
    Except ExternalCredentialError ExternalCredentialPersistenceResolution :=
  match canonicalState, legacyVersion, legacyRevoked with
  | some encoded, none, none =>
    if !rootExists then .error .missingRootForState
    else do
      let state ← decodeState encoded
      if encodeState state ≠ encoded then .error .nonCanonicalState
      else .ok ⟨state, encodeState state, .useCurrent⟩
  | some _, _, _ => .error .mixedPersistenceSchemas
  | none, some rawVersion, some revoked =>
    if !rootExists then .error .missingRootForState
    else
      match (parseRadix 10 (2 ^ 64 - 1) rawVersion).map fun version =>
        ExternalCredentialState.new (.ofNat version) (.ofRevoked revoked) with
      | some (.ok state) => .ok ⟨state, encodeState state, .persistCanonical⟩
      | _ => .error .invalidLegacyVersion
  | none, none, none =>
    if rootExists then .error .rootWithoutState
    else .ok ⟨.initial, encodeState .initial, .createRootAndPersistCanonical⟩
  | none, _, _ => .error .incompleteLegacyState

theorem decode_encode_state (state) : decodeState (encodeState state) = .ok state := by
  obtain ⟨version, status, hversion⟩ := state
  have hnew : ExternalCredentialState.new version status = .ok ⟨version, status, hversion⟩ :=
    dif_neg hversion
  have hfirst : Reads (readStateField ⟨none, none⟩) (writeVarintField 1 version) _ :=
    reads_field (by decide) (reads_readVarint version) rfl
  have hrevoked : Reads readRevoked (writeVarint 1) true :=
    (reads_readVarint 1).bind_pure (Reads.pure true)
  have hsecond : Reads (readStateField ⟨some version, none⟩) (writeVarintField 2 1) _ :=
    reads_field (by decide) hrevoked rfl
  unfold decodeState encodeState
  cases status with
  | active =>
    have hchunks : ReadsChunks readStateField ⟨none, none⟩ [writeVarintField 1 version] _ :=
      .pass (chunk_ne_nil _ _) hfirst (.done _)
    have hloop := hchunks.decode .malformedState
    rw [flatten_singleton] at hloop
    rw [if_neg (by simp), append_nil, hloop]
    exact hnew
  | revoked =>
    have hchunks : ReadsChunks readStateField ⟨none, none⟩
        [writeVarintField 1 version, writeVarintField 2 1] _ :=
      .pass (chunk_ne_nil _ _) hfirst (.pass (chunk_ne_nil _ _) hsecond (.done _))
    have hloop := hchunks.decode .malformedState
    rw [flatten_cons, flatten_singleton] at hloop
    rw [if_pos rfl, hloop]
    exact hnew

theorem resolve_encode (state) : resolvePersistence (some (encodeState state)) none none true =
    .ok ⟨state, encodeState state, .useCurrent⟩ := by
  show (decodeState (encodeState state)).bind _ = _
  rw [decode_encode_state]
  exact if_neg (not_not.mpr rfl)

theorem canonicalState_eq {canonical version revoked root resolution}
    (h : resolvePersistence canonical version revoked root = .ok resolution) :
    resolution.canonicalState = encodeState resolution.state := by
  unfold resolvePersistence at h
  split at h
  · split at h
    · cases h
    · rename_i encoded _
      generalize decodeState encoded = decoded at h
      cases decoded with
      | error failure => cases h
      | ok state =>
        change (if _ then _ else _) = _ at h
        split at h <;> cases h
        rfl
  · cases h
  · split at h
    · cases h
    · split at h <;> cases h
      rfl
  · split at h <;> cases h
    rfl
  · cases h

/-- Stored bytes are accepted exactly when they are the encoding of a state, which is then used;
and what an accepted input leaves in the store is accepted with the same state. -/
theorem persistence_stable :
    (∀ bytes resolution, resolvePersistence (some bytes) none none true = .ok resolution ↔
      ∃ state, bytes = encodeState state ∧ resolution = ⟨state, bytes, .useCurrent⟩) ∧
    ∀ canonical version revoked root resolution,
      resolvePersistence canonical version revoked root = .ok resolution →
      resolvePersistence (some resolution.canonicalState) none none true =
        .ok ⟨resolution.state, resolution.canonicalState, .useCurrent⟩ := by
  refine ⟨fun bytes resolution => ⟨fun h => ?_, ?_⟩, ?_⟩
  · have hstored : bytes = encodeState resolution.state ∧ resolution.action = .useCurrent := by
      change (decodeState bytes).bind _ = _ at h
      generalize decodeState bytes = decoded at h
      cases decoded with
      | error failure => cases h
      | ok state =>
        change (if _ then _ else _) = _ at h
        split at h
        · cases h
        · rename_i hsame
          cases h
          exact ⟨(not_not.mp hsame).symm, rfl⟩
    have hcanonical := canonicalState_eq h
    obtain ⟨state, canonical, action⟩ := resolution
    obtain ⟨rfl, rfl⟩ := hstored
    exact ⟨state, rfl, by rw [← hcanonical]⟩
  · rintro ⟨state, rfl, rfl⟩
    exact resolve_encode state
  · intro canonical version revoked root resolution h
    rw [canonicalState_eq h]
    exact resolve_encode resolution.state

/-! ## The life of a credential -/

namespace ExternalCredentialState

variable (state : ExternalCredentialState)

/-- `none` is `VersionExhausted`: the version wraps to zero where `checked_add` fails. -/
def rotate : Option ExternalCredentialState :=
  if h : state.version + 1 = 0 then none else some ⟨state.version + 1, .active, h⟩

theorem rotate_eq_none_iff : state.rotate = none ↔ state.version.toNat = 2 ^ 64 - 1 := by
  have hbound := state.version.toNat_lt
  rw [rotate, dite_eq_left_iff]
  simp [← UInt64.toNat_inj]
  omega

def revoke : ExternalCredentialState := { state with status := .revoked }

/-- A revocation, or a rotation, which leaves the state alone when it fails. -/
def change (rotates : Bool) : ExternalCredentialState :=
  if rotates then state.rotate.getD state else state.revoke

structure Follows (later : ExternalCredentialState) : Prop where
  version : state.version ≤ later.version
  revoked : later.version = state.version → state.status = .revoked → later.status = .revoked

/-- Versions do not go back, and a revoked one is never active again. -/
theorem follows_run (changes : List Bool) : state.Follows (Machine.run change state changes) := by
  refine Machine.run_invariant ?_ ⟨UInt64.le_refl _, fun _ h => h⟩ changes
  intro later rotates h
  cases rotates with
  | false => exact ⟨h.version, fun _ _ => rfl⟩
  | true =>
    rw [change, if_pos rfl, rotate]
    split_ifs with hlast
    · exact h
    · have hlt : state.version < later.version + 1 := by
        have hle := UInt64.le_iff_toNat_le.mp h.version
        have hbound := later.version.toNat_lt
        rw [← UInt64.toNat_inj] at hlast
        rw [UInt64.lt_iff_toNat_lt]
        simp at hlast ⊢
        omega
      refine ⟨UInt64.le_of_lt hlt, fun heq => ?_⟩
      exact absurd heq.symm (UInt64.ne_of_lt hlt)

end ExternalCredentialState

/-! ## The provisioning envelope -/

structure ExternalProxyProvisioningEnvelope where
  credentialVersion : UInt64
  credentialId : Text
  challenge : Bytes
  username : Text
  password : Text
  deriving DecidableEq

def validLowerHex (value : Text) (expectedLen : Nat) : Bool :=
  (utf8 value).length == expectedLen &&
    (utf8 value).all fun byte => (0x30 ≤ byte && byte ≤ 0x39) || (0x61 ≤ byte && byte ≤ 0x66)

def validUsername (username : Text) : Bool :=
  startsWith username "mish-".toList && validLowerHex (username.drop 5) 32

/-- `validate_material`, which has one error. -/
def validMaterial (state : ExternalCredentialState) (challenge : Bytes) (username password : Text) :
    Bool :=
  state.status == .active && challenge.length == 32 && validUsername username &&
    validLowerHex password 64

def encodeProvisioningEnvelope (state : ExternalCredentialState) (challenge : Bytes)
    (username password : Text) : Except ExternalCredentialError Bytes :=
  if validMaterial state challenge username password then
    .ok (writeVarintField 1 1 ++ (writeVarintField 2 state.version ++
      (writeBytesField 3 (utf8 state.credentialId) ++ (writeBytesField 4 challenge ++
      (writeBytesField 5 (utf8 username) ++ writeBytesField 6 (utf8 password))))))
  else .error .invalidProvisioningEnvelope

structure EnvelopeFields where
  schemaVersion : Option UInt64
  credentialVersion : Option UInt64
  credentialId : Option Text
  challenge : Option Bytes
  username : Option Text
  password : Option Text

def readUtf8 : Exec ProtoReader ProtoError Text := do
  let bytes ← readBytes
  match fromUtf8 bytes with
  | none => fail .protoError
  | some text => pure text

def readEnvelopeField (fields : EnvelopeFields) :
    Exec ProtoReader ExternalCredentialError EnvelopeFields := do
  let once {α : Type} := readOnce (α := α) .invalidProvisioningEnvelope
  let tag ← mapError (fun _ => .invalidProvisioningEnvelope) readTag
  if tag.fieldNumber = 1 then do
    let value ← once tag wireVarint fields.schemaVersion readVarint
    pure { fields with schemaVersion := value }
  else if tag.fieldNumber = 2 then do
    let value ← once tag wireVarint fields.credentialVersion readVarint
    pure { fields with credentialVersion := value }
  else if tag.fieldNumber = 3 then do
    let value ← once tag wireLengthDelimited fields.credentialId readUtf8
    pure { fields with credentialId := value }
  else if tag.fieldNumber = 4 then do
    let value ← once tag wireLengthDelimited fields.challenge readBytes
    pure { fields with challenge := value }
  else if tag.fieldNumber = 5 then do
    let value ← once tag wireLengthDelimited fields.username readUtf8
    pure { fields with username := value }
  else if tag.fieldNumber = 6 then do
    let value ← once tag wireLengthDelimited fields.password readUtf8
    pure { fields with password := value }
  else do
    mapError (fun _ => .invalidProvisioningEnvelope) (skip tag.wireType)
    pure fields

/-- The checks behind the loop, which have one error. -/
def restoreEnvelope : EnvelopeFields → Option ExternalProxyProvisioningEnvelope
  | ⟨some schema, some version, some credentialId, some challenge, some username, some password⟩ =>
    if hversion : schema ≠ 1 ∨ version = 0 then none
    else
      let state : ExternalCredentialState := ⟨version, .active, (not_or.mp hversion).2⟩
      if credentialId = state.credentialId ∧ validMaterial state challenge username password then
        some ⟨version, credentialId, challenge, username, password⟩
      else none
  | _ => none

def decodeProvisioningEnvelope (encoded : Bytes) :
    Except ExternalCredentialError ExternalProxyProvisioningEnvelope := do
  let fields ← (whileUnread .invalidProvisioningEnvelope readEnvelopeField encoded.length
    ⟨none, none, none, none, none, none⟩ (.new encoded)).1
  match restoreEnvelope fields with
  | none => .error .invalidProvisioningEnvelope
  | some envelope => .ok envelope

theorem length_utf8_le (text : Text) : (utf8 text).length ≤ 4 * text.length := by
  induction text with
  | nil => exact Nat.le_refl 0
  | cons c rest ih =>
    have hsize : (String.utf8EncodeChar c).length ≤ 4 := by
      rw [String.length_utf8EncodeChar]
      exact c.utf8Size_le_four
    rw [utf8, flatMap_cons, length_append, length_cons, ← utf8]
    omega

theorem length_credentialId_lt (state : ExternalCredentialState) :
    (utf8 state.credentialId).length < 2 ^ 64 := by
  have hlt := state.version.toNat_lt
  have hdigits : (decimal state.version.toNat).length ≤ 20 :=
    Nat.toDigits_length 10 _ 20 (by decide) (by omega)
  have hbytes := length_utf8_le (decimal state.version.toNat)
  have hname : (utf8 "external-proxy-v".toList).length = 16 := by decide
  unfold ExternalCredentialState.credentialId
  rw [utf8, flatMap_append, length_append, ← utf8, ← utf8, hname]
  omega

theorem reads_readUtf8 {text : Text} (h : (utf8 text).length < 2 ^ 64) :
    Reads readUtf8 (writeVarint (.ofNat (utf8 text).length) ++ utf8 text) text := by
  refine (reads_readBytes h).bind_pure ?_
  rw [fromUtf8_utf8]
  exact Reads.pure _

theorem length_of_validLowerHex {value : Text} {n} (h : validLowerHex value n = true) :
    (utf8 value).length = n := by
  rw [validLowerHex, Bool.and_eq_true, beq_iff_eq] at h
  exact h.1

theorem length_of_validUsername {username} (h : validUsername username = true) :
    (utf8 username).length = 37 := by
  rw [validUsername, Bool.and_eq_true, startsWith_iff] at h
  obtain ⟨rest, rfl⟩ := h.1
  have hrest := length_of_validLowerHex h.2
  change (utf8 rest).length = 32 at hrest
  rw [utf8, flatMap_append, length_append, ← utf8, ← utf8, hrest]
  rfl

theorem decode_encode_envelope {state challenge username password bytes}
    (h : encodeProvisioningEnvelope state challenge username password = .ok bytes) :
    decodeProvisioningEnvelope bytes =
      .ok ⟨state.version, state.credentialId, challenge, username, password⟩ := by
  unfold encodeProvisioningEnvelope at h
  split at h <;> cases h
  rename_i hvalid
  have hparts := hvalid
  simp only [validMaterial, Bool.and_eq_true, beq_iff_eq] at hparts
  obtain ⟨⟨⟨hactive, hchallenge⟩, husername⟩, hpassword⟩ := hparts
  have hid := reads_readUtf8 (length_credentialId_lt state)
  have hbytes : Reads readBytes _ challenge := reads_readBytes (by omega)
  have huser : Reads readUtf8 _ username :=
    reads_readUtf8 (by rw [length_of_validUsername husername]; decide)
  have hpass : Reads readUtf8 _ password :=
    reads_readUtf8 (by rw [length_of_validLowerHex hpassword]; decide)
  have hchunks : ReadsChunks readEnvelopeField ⟨none, none, none, none, none, none⟩
      [writeVarintField 1 1, writeVarintField 2 state.version,
        writeBytesField 3 (utf8 state.credentialId), writeBytesField 4 challenge,
        writeBytesField 5 (utf8 username), writeBytesField 6 (utf8 password)]
      ⟨some 1, some state.version, some state.credentialId, some challenge, some username,
        some password⟩ :=
    .pass (chunk_ne_nil _ _) (reads_field (by decide) (reads_readVarint 1) rfl) <|
      .pass (chunk_ne_nil _ _) (reads_field (by decide) (reads_readVarint _) rfl) <|
      .pass (chunk_ne_nil _ _) (reads_field (by decide) hid rfl) <|
      .pass (chunk_ne_nil _ _) (reads_field (by decide) hbytes rfl) <|
      .pass (chunk_ne_nil _ _) (reads_field (by decide) huser rfl) <|
      .pass (chunk_ne_nil _ _) (reads_field (by decide) hpass rfl) (.done _)
  have hloop := hchunks.decode .invalidProvisioningEnvelope
  simp only [flatten_cons, flatten_nil, append_nil] at hloop
  obtain ⟨version, status, hversion⟩ := state
  cases hactive
  unfold decodeProvisioningEnvelope
  rw [hloop]
  have hnew : ¬ ((1 : UInt64) ≠ 1 ∨ version = 0) := by simpa using hversion
  show (match restoreEnvelope _ with | none => _ | some envelope => _) = _
  rw [restoreEnvelope, dif_neg hnew]
  dsimp only
  rw [if_pos ⟨rfl, hvalid⟩]

theorem of_restoreEnvelope {fields envelope} (h : restoreEnvelope fields = some envelope) :
    ∃ hversion, let state : ExternalCredentialState :=
      ⟨envelope.credentialVersion, .active, hversion⟩
      envelope.credentialId = state.credentialId ∧
      validMaterial state envelope.challenge envelope.username envelope.password = true := by
  unfold restoreEnvelope at h
  split at h
  · dsimp only at h
    split_ifs at h with hversion hvalid
    cases h
    exact ⟨(not_or.mp hversion).2, hvalid⟩
  · cases h

/-- What is encoded is read back; and whatever is read, in any order of the fields and with any
unknown ones, can be encoded again for its version. -/
theorem provisioning_round_trip : (∀ state challenge username password bytes,
      encodeProvisioningEnvelope state challenge username password = .ok bytes →
      decodeProvisioningEnvelope bytes =
        .ok ⟨state.version, state.credentialId, challenge, username, password⟩) ∧
    ∀ bytes envelope, decodeProvisioningEnvelope bytes = .ok envelope →
      ∃ state : ExternalCredentialState, state.status = .active ∧
        state.version = envelope.credentialVersion ∧ state.credentialId = envelope.credentialId ∧
        ∃ again, encodeProvisioningEnvelope state envelope.challenge envelope.username
          envelope.password = .ok again := by
  refine ⟨fun _ _ _ _ _ => decode_encode_envelope, fun bytes envelope h => ?_⟩
  unfold decodeProvisioningEnvelope at h
  generalize (whileUnread _ _ _ _ _).1 = result at h
  cases result with
  | error failure => cases h
  | ok fields =>
    change (match restoreEnvelope fields with | none => _ | some envelope => _) = _ at h
    split at h
    · cases h
    · rename_i restored hrestored
      cases h
      obtain ⟨hversion, hid, hvalid⟩ := of_restoreEnvelope hrestored
      exact ⟨⟨_, .active, hversion⟩, rfl, rfl, hid.symm, _, if_pos hvalid⟩

end MishProxy.Credentials
