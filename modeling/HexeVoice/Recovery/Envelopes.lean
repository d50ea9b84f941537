import HexeVoice.Library.JsonBytes
import HexeVoice.Library.Machine
import HexeVoice.Recovery.Pairing

/-!
# Encrypted credential envelopes

Credential writes to the recovery BLE service: what an envelope is bound to, how it is decrypted and
applied, and the writes that are not encrypted.

## The model

The digest and the parser of JSON are parameters. AES-GCM, HKDF and X25519 are ideal: a key is the
endpoint key, the key of the supervisor and the salt that it is derived from, derivation does not fail,
and what decrypts is a parameter.
-/

namespace HexeVoice.Recovery.Envelopes

open HexeVoice.Library HexeVoice.Library.JsonBytes
open HexeVoice.Firmware.Settings (Config)
open HexeVoice.Recovery.Provisioning (stringField intField saveLocalRecoveryPayload)
open HexeVoice.Recovery.Pairing

/-! ### Canonical texts -/

def kEnvelopeSchemaVersion : CString := .ofAscii "1.0"
def kEncryptionAlgorithm : CString := .ofAscii "aes-256-gcm"
def kKeyAgreement : CString := .ofAscii "x25519-hkdf-sha256"

def canonicalSaltJson (onboardingSessionId targetNodeId pairingNonce : CString) : List UInt8 :=
  object
    [stringMember "contract_version" kContractVersion,
      stringMember "onboarding_session_id" onboardingSessionId,
      stringMember "pairing_nonce" pairingNonce,
      stringMember "schema_version" kEnvelopeSchemaVersion,
      stringMember "target_node_id" targetNodeId]

def canonicalAadJson (payloadSchemaId onboardingSessionId targetNodeId pairingNonce : CString)
    (sequence : ℤ) (expiresAt : CString) : List UInt8 :=
  object
    [stringMember "algorithm" kEncryptionAlgorithm,
      stringMember "contract_version" kContractVersion,
      stringMember "expires_at" expiresAt,
      stringMember "key_agreement" kKeyAgreement,
      stringMember "onboarding_session_id" onboardingSessionId,
      stringMember "pairing_nonce" pairingNonce,
      stringMember "payload_schema_id" payloadSchemaId,
      stringMember "schema_version" kEnvelopeSchemaVersion,
      intMember "sequence" sequence,
      stringMember "target_node_id" targetNodeId]

/-- `canonical_key_id_json`, of the endpoint key that is there. -/
def canonicalKeyIdJson (endpointPublicKeyB64 supervisorPublicKey onboardingSessionId
    targetNodeId : CString) (sequence : ℤ) : List UInt8 :=
  object
    [stringMember "endpoint_ephemeral_public_key" endpointPublicKeyB64,
      stringMember "onboarding_session_id" onboardingSessionId,
      intMember "sequence" sequence,
      stringMember "supervisor_ephemeral_public_key" supervisorPublicKey,
      stringMember "target_node_id" targetNodeId]

/-! ### Timestamps -/

def isDigit (c : UInt8) : Bool := 48 ≤ c && c ≤ 57

def isSpace (c : UInt8) : Bool := c = 32 || (9 ≤ c && c ≤ 13)

/-- At most `width` digits. -/
def scanDigits (value : ℤ) : ℕ → List UInt8 → ℤ × List UInt8
  | 0, cs => (value, cs)
  | _ + 1, [] => (value, [])
  | width + 1, c :: cs =>
    if isDigit c then scanDigits (value * 10 + (c.toNat - 48 : ℤ)) width cs else (value, c :: cs)

/-- One digit at least. -/
def scanNumber (width : ℕ) (cs : List UInt8) : Option (ℤ × List UInt8) :=
  if 0 < width ∧ cs.head?.any isDigit then some (scanDigits 0 width cs) else none

/-- `%d` of `sscanf`, with a width. -/
def scanInt (width : ℕ) (cs : List UInt8) : Option (ℤ × List UInt8) :=
  match cs.dropWhile isSpace with
  | 43 :: cs => scanNumber (width - 1) cs
  | 45 :: cs => (scanNumber (width - 1) cs).map fun (n, cs) => (-n, cs)
  | cs => scanNumber width cs

/-- A character of a format. -/
def scanChar (c : UInt8) (cs : List UInt8) : Option (List UInt8) :=
  if cs.head? = some c then some cs.tail else none

def parseIsoUtcSeconds (expiresAt : CString) : Bool :=
  let fields : Option (ℤ × ℤ × ℤ × ℤ × ℤ) := do
    let (_, cs) ← scanInt 4 expiresAt.bytes
    let cs ← scanChar 45 cs
    let (month, cs) ← scanInt 2 cs
    let cs ← scanChar 45 cs
    let (day, cs) ← scanInt 2 cs
    let cs ← scanChar 84 cs
    let (hour, cs) ← scanInt 2 cs
    let cs ← scanChar 58 cs
    let (minute, cs) ← scanInt 2 cs
    let cs ← scanChar 58 cs
    let (second, _) ← scanInt 2 cs
    some (month, day, hour, minute, second)
  fields.any fun (month, day, hour, minute, second) =>
    1 ≤ month && month ≤ 12 && 1 ≤ day && day ≤ 31 && 0 ≤ hour && hour ≤ 23 && 0 ≤ minute &&
      minute ≤ 59 && 0 ≤ second && second ≤ 60

/-! ### The binding -/

/-- The fields of an envelope. -/
structure EnvelopeFields where
  schemaVersion : CString
  payloadSchemaId : CString
  contractVersion : CString
  onboardingSessionId : CString
  targetNodeId : CString
  pairingNonce : CString
  sequence : ℤ
  expiresAt : CString
  algorithm : CString
  keyAgreement : CString
  keyId : CString
  supervisorPublicKey : CString
  nonce : CString
  aad : CString
  ciphertext : CString
  tag : CString
  deriving DecidableEq

/-- The fields of an object. -/
def readEnvelope (root : CJson) : Option EnvelopeFields := do
  let schemaVersion ← stringField root "schema_version"
  let payloadSchemaId ← stringField root "payload_schema_id"
  let contractVersion ← stringField root "contract_version"
  let onboardingSessionId ← stringField root "onboarding_session_id"
  let targetNodeId ← stringField root "target_node_id"
  let pairingNonce ← stringField root "pairing_nonce"
  let sequence ← intField root "sequence"
  let expiresAt ← stringField root "expires_at"
  let algorithm ← stringField root "algorithm"
  let keyAgreement ← stringField root "key_agreement"
  let keyId ← stringField root "key_id"
  let supervisorPublicKey ← stringField root "supervisor_ephemeral_public_key"
  let nonce ← stringField root "nonce"
  let aad ← stringField root "aad"
  let ciphertext ← stringField root "ciphertext"
  let tag ← stringField root "tag"
  some
    { schemaVersion, payloadSchemaId, contractVersion, onboardingSessionId, targetNodeId,
      pairingNonce, sequence, expiresAt, algorithm, keyAgreement, keyId, supervisorPublicKey, nonce,
      aad, ciphertext, tag }

/-- The target is this device. -/
def targetsDevice (config : Config) (hardwareId targetNodeId : CString) : Bool :=
  targetNodeId = config.kEndpointId || targetNodeId = hardwareId

/-- The keys and texts in base64 have the lengths that they need. -/
def wellEncoded (fields : EnvelopeFields) : Bool :=
  (Base64.decode fields.supervisorPublicKey).any (·.length = 32) &&
    (Base64.decode fields.nonce).any (·.length = 12) &&
    (Base64.decode fields.ciphertext).any (· ≠ []) &&
    (Base64.decode fields.tag).any (·.length = 16)

def validateEnvelopeBinding (config : Config) (hardwareId : CString)
    (sha256Hex : List UInt8 → CString) (root : CJson) (s : RecoveryBleState) :
    Except String EnvelopeFields :=
  match readEnvelope root with
  | none => .error "invalid_payload"
  | some fields =>
    if fields.schemaVersion ≠ kEnvelopeSchemaVersion ∨ fields.contractVersion ≠ kContractVersion then
      .error "unsupported_schema"
    else if fields.payloadSchemaId ≠ kPayloadSchemaId then .error "unsupported_schema"
    else if fields.algorithm ≠ kEncryptionAlgorithm ∨ fields.keyAgreement ≠ kKeyAgreement then
      .error "decrypt_failed"
    else if fields.onboardingSessionId ≠ s.onboardingSessionId.text then .error "invalid_payload"
    else if !targetsDevice config hardwareId fields.targetNodeId then .error "invalid_payload"
    else if fields.pairingNonce ≠ s.pairingNonce then .error "invalid_nonce"
    else if fields.sequence ≤ 0 ∨ fields.sequence ≤ s.lastSequence then .error "invalid_payload"
    else if !parseIsoUtcSeconds fields.expiresAt then .error "invalid_payload"
    else if Base64.decode fields.aad ≠ some (canonicalAadJson fields.payloadSchemaId
        fields.onboardingSessionId fields.targetNodeId fields.pairingNonce fields.sequence
        fields.expiresAt) then .error "invalid_payload"
    else if !wellEncoded fields then .error "invalid_payload"
    else if fields.keyId ≠ sha256Hex (canonicalKeyIdJson s.endpointPublicKeyB64.text
        fields.supervisorPublicKey fields.onboardingSessionId fields.targetNodeId
        fields.sequence) then .error "decrypt_failed"
    else .ok fields

/-! ### Ideal encryption -/

/-- What a key is derived from. -/
structure AesKey where
  endpointKey : KeyPair
  supervisorPublicKey : List UInt8
  salt : List UInt8
  deriving DecidableEq

/-- A ciphertext with all that it is decrypted with. -/
structure Sealed where
  key : AesKey
  nonce : List UInt8
  aad : List UInt8
  ciphertext : List UInt8
  tag : List UInt8
  deriving DecidableEq

/-- The ciphertext of an envelope under the endpoint key. -/
def EnvelopeFields.sealedUnder (fields : EnvelopeFields) (endpointKey : KeyPair) :
    Option Sealed := do
  let nonce ← Base64.decode fields.nonce
  let aad ← Base64.decode fields.aad
  let ciphertext ← Base64.decode fields.ciphertext
  let tag ← Base64.decode fields.tag
  let supervisorPublicKey ← Base64.decode fields.supervisorPublicKey
  let salt := canonicalSaltJson fields.onboardingSessionId fields.targetNodeId fields.pairingNonce
  some ⟨⟨endpointKey, supervisorPublicKey, salt⟩, nonce, aad, ciphertext, tag⟩

/-! ### Writes -/

/-- The service: its identity and the namespace that it writes to. -/
structure Service where
  ble : RecoveryBleState
  store : Nvs

/-- What becomes of a credential write. -/
inductive WriteResult where
  | refused (error : String)
  | appliedLocally
  | applied (fields : EnvelopeFields) (sealed : Sealed)
  deriving DecidableEq

/-- What the device and the libraries give. -/
structure Environment where
  config : Config
  hardwareId : CString
  parse : List UInt8 → Option CJson
  sha256Hex : List UInt8 → CString
  decrypt : Sealed → Option (List UInt8)

section writes

variable (env : Environment)

/-- The credential payload of a decrypted text. -/
def decryptedPayload (plaintext : List UInt8) : Option CJson := do
  let root ← env.parse plaintext
  let payloadSchemaId ← stringField root "payload_schema_id"
  let credentialPayload ← root.getObjectItem "credential_payload"
  if payloadSchemaId = kPayloadSchemaId ∧ credentialPayload.isObject then some credentialPayload
  else none

/-- `apply_encrypted_envelope`, which draws a key pair if there is none. -/
def applyEncryptedEnvelope (fields : EnvelopeFields) (drawn : Option KeyPair) (s : Service) :
    Service × WriteResult :=
  match ensureCryptoReady drawn s.ble with
  | (ble, false) => ({ s with ble }, .refused "key_derivation_failed")
  | (ble, true) =>
    match ble.endpointPrivateKey.bind fields.sealedUnder with
    | none => ({ s with ble }, .refused "invalid_payload")
    | some sealed =>
      match env.decrypt sealed with
      | none => ({ s with ble }, .refused "aes_gcm_decrypt_failed")
      | some plaintext =>
        match decryptedPayload env plaintext with
        | none => ({ s with ble }, .refused "invalid_payload")
        | some payload =>
          match saveLocalRecoveryPayload env.config env.hardwareId ble.onboardingSessionId.text
              payload s.store with
          | (store, some error) => (⟨ble, store⟩, .refused error)
          | (store, none) =>
            (⟨resetCryptoSession { ble with lastSequence := fields.sequence.toNat }, store⟩,
              .applied fields sealed)

/-- The payload of a local recovery write, or the error that `handle_local_recovery_write` sets. -/
def localPayload (root : CJson) (ble : RecoveryBleState) : Except String CJson :=
  match stringField root "contract_version", stringField root "onboarding_session_id",
      stringField root "target_node_id", stringField root "pairing_nonce" with
  | some contractVersion, some onboardingSessionId, some targetNodeId, some pairingNonce =>
    if contractVersion ≠ kContractVersion then .error "invalid_payload"
    else if onboardingSessionId ≠ ble.onboardingSessionId.text ∨
        !targetsDevice env.config env.hardwareId targetNodeId then .error "invalid_payload"
    else if pairingNonce ≠ ble.pairingNonce then .error "invalid_nonce"
    else
      match root.getObjectItem "credential_payload" with
      | some (.object entries) => .ok (.object entries)
      | _ => .error "invalid_payload"
  | _, _, _, _ => .error "invalid_payload"

def handleLocalRecoveryWrite (root : CJson) (s : Service) : Service × WriteResult :=
  match localPayload env root s.ble with
  | .error error => (s, .refused error)
  | .ok payload =>
    match saveLocalRecoveryPayload env.config env.hardwareId s.ble.onboardingSessionId.text payload
        s.store with
    | (store, some error) => ({ s with store }, .refused error)
    | (store, none) => ({ s with store }, .appliedLocally)

/-- `hexe_ble_provisioning_handle_encrypted_credentials`. -/
def handleEncryptedCredentials (json : List UInt8) (drawn : Option KeyPair) (s : Service) :
    Service × WriteResult :=
  if json.length = 0 ∨ 4096 < json.length then (s, .refused "invalid_payload")
  else
    match env.parse json with
    | some (.object entries) =>
      if stringField (.object entries) "mode" = some (.ofAscii "local_recovery") then
        handleLocalRecoveryWrite env (.object entries) s
      else
        match validateEnvelopeBinding env.config env.hardwareId env.sha256Hex (.object entries)
            s.ble with
        | .error error => (s, .refused error)
        | .ok fields => applyEncryptedEnvelope env fields drawn s
    | _ => (s, .refused "invalid_payload")

/-! ### Runs -/

/-- What reaches the service. -/
inductive Event where
  /-- A pairing offer of the host. -/
  | offer (json : List UInt8) (drawn : Drawn) (now : ℤ)
  /-- A read of the device identity or of the pairing nonce. -/
  | read (drawn : Drawn) (now : ℤ)
  /-- A credential write. -/
  | write (json : List UInt8) (drawn : Option KeyPair)

/-- The service after an event. -/
def step (s : Service) : Event → Service
  | .offer json drawn now =>
    match offerReceived env.parse json with
    | .ok session => { s with ble := rememberHostPairingOffer drawn now session s.ble }
    | .error _ => s
  | .read drawn now => { s with ble := ensurePairingNonce drawn now s.ble }
  | .write json drawn => (handleEncryptedCredentials env json drawn s).1

/-! ### What a write leaves -/

/-- **What becomes of an envelope**: it is refused, where at most a key is drawn or the flash fails,
or it decrypts under the endpoint key that is there and is applied. -/
theorem applyEncryptedEnvelope_cases (fields : EnvelopeFields) (drawn : Option KeyPair)
    (s : Service) :
    (∃ error store, applyEncryptedEnvelope env fields drawn s =
        (⟨(ensureCryptoReady drawn s.ble).1, store⟩, .refused error) ∧
        (store = s.store ∨ error = "wifi_apply_failed")) ∨
    ∃ key sealed plaintext store,
      (ensureCryptoReady drawn s.ble).1.endpointPrivateKey = some key ∧
      fields.sealedUnder key = some sealed ∧ env.decrypt sealed = some plaintext ∧
      applyEncryptedEnvelope env fields drawn s =
        (⟨resetCryptoSession { (ensureCryptoReady drawn s.ble).1 with
          lastSequence := fields.sequence.toNat }, store⟩, .applied fields sealed) := by
  rcases hensure : ensureCryptoReady drawn s.ble with ⟨ble, ready⟩
  cases ready with
  | false =>
    refine .inl ⟨"key_derivation_failed", s.store, ?_, .inl rfl⟩
    simp only [applyEncryptedEnvelope, hensure]
  | true =>
    cases hsealed : ble.endpointPrivateKey.bind fields.sealedUnder with
    | none =>
      refine .inl ⟨"invalid_payload", s.store, ?_, .inl rfl⟩
      simp only [applyEncryptedEnvelope, hensure, hsealed]
    | some sealed =>
      cases hdecrypt : env.decrypt sealed with
      | none =>
        refine .inl ⟨"aes_gcm_decrypt_failed", s.store, ?_, .inl rfl⟩
        simp only [applyEncryptedEnvelope, hensure, hsealed, hdecrypt]
      | some plaintext =>
        cases hpayload : decryptedPayload env plaintext with
        | none =>
          refine .inl ⟨"invalid_payload", s.store, ?_, .inl rfl⟩
          simp only [applyEncryptedEnvelope, hensure, hsealed, hdecrypt, hpayload]
        | some payload =>
          rcases hsave : saveLocalRecoveryPayload env.config env.hardwareId
            ble.onboardingSessionId.text payload s.store with ⟨store, error⟩
          cases error with
          | some error =>
            refine .inl ⟨error, store, ?_, Provisioning.saveLocalRecoveryPayload_refused hsave⟩
            simp only [applyEncryptedEnvelope, hensure, hsealed, hdecrypt, hpayload, hsave]
          | none =>
            obtain ⟨key, hkey, hunder⟩ := Option.bind_eq_some_iff.mp hsealed
            refine .inr ⟨key, sealed, plaintext, store, hkey, hunder, hdecrypt, ?_⟩
            simp only [applyEncryptedEnvelope, hensure, hsealed, hdecrypt, hpayload, hsave]

/-- **What becomes of a credential write**: it is refused, where the identity stays but for a key
that may be drawn and the store stays unless the flash fails; it is applied without encryption; or its
envelope is bound to the identity and is applied. -/
theorem handleEncryptedCredentials_cases (json : List UInt8) (drawn : Option KeyPair) (s : Service) :
    (∃ error ble store, handleEncryptedCredentials env json drawn s =
        (⟨ble, store⟩, .refused error) ∧
        (ble = s.ble ∨ ble = (ensureCryptoReady drawn s.ble).1) ∧
        (store = s.store ∨ error = "wifi_apply_failed")) ∨
    (∃ store, handleEncryptedCredentials env json drawn s = ({ s with store }, .appliedLocally)) ∨
    ∃ root fields key sealed plaintext store,
      validateEnvelopeBinding env.config env.hardwareId env.sha256Hex root s.ble = .ok fields ∧
      (ensureCryptoReady drawn s.ble).1.endpointPrivateKey = some key ∧
      fields.sealedUnder key = some sealed ∧ env.decrypt sealed = some plaintext ∧
      handleEncryptedCredentials env json drawn s =
        (⟨resetCryptoSession { (ensureCryptoReady drawn s.ble).1 with
          lastSequence := fields.sequence.toNat }, store⟩, .applied fields sealed) := by
  simp only [handleEncryptedCredentials]
  split
  · exact .inl ⟨_, _, _, rfl, .inl rfl, .inl rfl⟩
  · split
    · next entries hparse =>
      split
      · simp only [handleLocalRecoveryWrite]
        cases localPayload env (.object entries) s.ble with
        | error error => exact .inl ⟨_, _, _, rfl, .inl rfl, .inl rfl⟩
        | ok payload =>
          simp only
          rcases hsave : saveLocalRecoveryPayload env.config env.hardwareId
            s.ble.onboardingSessionId.text payload s.store with ⟨store, error⟩
          cases error with
          | some error =>
            exact .inl ⟨_, _, _, rfl, .inl rfl, Provisioning.saveLocalRecoveryPayload_refused hsave⟩
          | none => exact .inr (.inl ⟨_, rfl⟩)
      · cases hbinding : validateEnvelopeBinding env.config env.hardwareId env.sha256Hex
          (.object entries) s.ble with
        | error error => exact .inl ⟨_, _, _, rfl, .inl rfl, .inl rfl⟩
        | ok fields =>
          rcases applyEncryptedEnvelope_cases env fields drawn s with
            ⟨error, store, heq, hstore⟩ | ⟨key, sealed, plaintext, store, hkey, hsealed, hdecrypt, heq⟩
          · exact .inl ⟨error, _, store, heq, .inr rfl, hstore⟩
          · exact .inr (.inr ⟨_, fields, key, sealed, plaintext, store, hbinding, hkey, hsealed,
              hdecrypt, heq⟩)
    · exact .inl ⟨_, _, _, rfl, .inl rfl, .inl rfl⟩

end writes

end HexeVoice.Recovery.Envelopes
