import HexeVoice.Library.Base64
import HexeVoice.Recovery.Provisioning

/-!
# Recovery pairing

The identity of the recovery BLE service, from `recovery_ble_provisioning.cpp`: the session, the
pairing nonce and the key pair, which offers set and reads refresh.

## The model

What `esp_random` and the key generation give, and what the clock shows, are inputs; the generation of
a key may fail. A private key is its key pair. States that are only shown (`state`, `reason`,
`last_ack`, `last_error`) are left out; an operation that is refused gives its error.
-/

namespace HexeVoice.Recovery.Pairing

open HexeVoice.Library
open HexeVoice.Recovery.Provisioning (stringField optionalStringField)

/-! ### The state -/

def kPairingTtlUs : ℤ := 10 * 60 * 1000000

def kContractVersion : CString := .ofAscii "1.0"
def kPayloadSchemaId : CString := .ofAscii "hexe.voice_node.wifi_backend.v1"

/-- A key pair of X25519. -/
structure KeyPair where
  publicKey : List UInt8
  length_publicKey : publicKey.length = 32
  deriving DecidableEq

/-- The part of `RecoveryBleState` that identities are made of. -/
structure RecoveryBleState where
  hostPairingSessionId : CBuffer 64
  cryptoSessionId : CBuffer 64
  onboardingSessionId : CBuffer 64
  pairingNonce : CString
  endpointPublicKeyB64 : CBuffer 48
  endpointPrivateKey : Option KeyPair
  cryptoReady : Bool
  lastSequence : ℕ
  issuedAtUs : ℤ
  deriving DecidableEq

/-- What is drawn where an identity is made, and when that is. -/
structure Drawn where
  /-- The nonce, as it is printed. -/
  nonce : CString
  length_nonce : nonce.length = 32
  /-- The session id that is taken where there is no host session. -/
  sessionId : CBuffer 64
  /-- The key pair if the one that is there cannot be used, `none` if that fails. -/
  firstKey : Option KeyPair
  /-- The key pair of a new identity. -/
  secondKey : Option KeyPair
  issuedAtUs : ℤ

/-- An empty buffer. -/
def cleared (size : ℕ) (h : 0 < size) : CBuffer size := .copy size h .empty

/-- `g_ble` before it is initialized. -/
def RecoveryBleState.zero : RecoveryBleState where
  hostPairingSessionId := cleared 64 pos64
  cryptoSessionId := cleared 64 pos64
  onboardingSessionId := cleared 64 pos64
  pairingNonce := .empty
  endpointPublicKeyB64 := cleared 48 pos48
  endpointPrivateKey := none
  cryptoReady := false
  lastSequence := 0
  issuedAtUs := 0

/-! ### Identities -/

/-- `ensure_crypto_ready`, which may draw a key pair. -/
def ensureCryptoReady (drawn : Option KeyPair) (s : RecoveryBleState) : RecoveryBleState × Bool :=
  if s.cryptoReady ∧ s.endpointPrivateKey.isSome ∧ s.endpointPublicKeyB64.text ≠ .empty then
    (s, true)
  else
    let s := { s with endpointPrivateKey := none }
    match drawn with
    | none => (s, false)
    | some key =>
      match CBuffer.ofText 48 (Base64.encode key.publicKey) with
      | none => (s, false)
      | some encoded =>
        ({ s with
            endpointPrivateKey := some key
            endpointPublicKeyB64 := encoded
            cryptoReady := true }, true)

def resetCryptoSession (s : RecoveryBleState) : RecoveryBleState :=
  { s with
    endpointPrivateKey := none
    endpointPublicKeyB64 := cleared 48 pos48
    cryptoSessionId := cleared 64 pos64
    cryptoReady := false }

def hostSessionBound (s : RecoveryBleState) : Bool :=
  s.hostPairingSessionId.text ≠ .empty ∧ s.cryptoSessionId.text ≠ .empty ∧
    s.cryptoSessionId.text = s.hostPairingSessionId.text

def existingValid (now : ℤ) (s : RecoveryBleState) : Bool :=
  s.pairingNonce ≠ .empty ∧ (hostSessionBound s ∨ now - s.issuedAtUs < kPairingTtlUs)

/-- A new identity, as `ensure_pairing_nonce` makes it. -/
def newIdentity (drawn : Drawn) (s : RecoveryBleState) : RecoveryBleState :=
  let s := resetCryptoSession s
  let s :=
    { s with
      pairingNonce := drawn.nonce
      onboardingSessionId :=
        if s.hostPairingSessionId.text ≠ .empty then s.hostPairingSessionId else drawn.sessionId
      lastSequence := 0
      issuedAtUs := drawn.issuedAtUs }
  let s := (ensureCryptoReady drawn.secondKey s).1
  { s with cryptoSessionId := s.onboardingSessionId }

def ensurePairingNonce (drawn : Drawn) (now : ℤ) (s : RecoveryBleState) : RecoveryBleState :=
  if existingValid now s then
    match ensureCryptoReady drawn.firstKey s with
    | (s, true) => s
    | (s, false) => newIdentity drawn s
  else newIdentity drawn s

/-- What an identity or nonce read gives, but for what is always the same. -/
structure Identity where
  onboardingSessionId : CString
  pairingNonce : CString
  endpointEphemeralPublicKey : CString
  deriving DecidableEq

/-- The identity that is there. -/
def RecoveryBleState.identity (s : RecoveryBleState) : Identity where
  onboardingSessionId := s.onboardingSessionId.text
  pairingNonce := s.pairingNonce
  endpointEphemeralPublicKey := s.endpointPublicKeyB64.text

/-- `init_recovery_ble_provisioning`, of a board that supports it. -/
def initRecoveryBleProvisioning (drawn : Drawn) (now : ℤ) : RecoveryBleState :=
  ensurePairingNonce drawn now .zero

/-! ### Offers -/

/-- `optional_bool_field`, whether it is one. -/
def optionalBoolField (obj : CJson) (key : String) : Bool :=
  match obj.getObjectItem key with
  | none => true
  | some .null => true
  | some (.bool _) => true
  | _ => false

/-- A field that need not be there, but must have a certain text. -/
def fixedField (obj : CJson) (key : String) (text : CString) : Bool :=
  match obj.getObjectItem key with
  | none => true
  | some (.string s) => s = text
  | _ => false

/-- The state after an accepted offer, but for the identity. -/
def acceptOffer (onboardingSessionId : CString) (s : RecoveryBleState) : RecoveryBleState :=
  let sessionChanged :=
    s.hostPairingSessionId.text ≠ .empty ∧ s.hostPairingSessionId.text ≠ onboardingSessionId
  let s :=
    if sessionChanged then { resetCryptoSession s with pairingNonce := .empty, lastSequence := 0 }
    else s
  { s with
    hostPairingSessionId := .copy 64 pos64 onboardingSessionId
    onboardingSessionId := .copy 64 pos64 onboardingSessionId }

/-- The session of an offer, or the error that `remember_host_pairing_offer` sets. -/
def offeredSession (root : CJson) : Except String CString :=
  match stringField root "onboarding_session_id" with
  | none => .error "invalid_pairing_offer"
  | some onboardingSessionId =>
    if (optionalStringField root "session_hint").isNone ∨
        (optionalStringField root "expires_at").isNone ∨
        !optionalBoolField root "claim_code_required" then .error "invalid_pairing_offer"
    else if !fixedField root "contract_version" kContractVersion ∨
        !fixedField root "payload_schema_id" kPayloadSchemaId then .error "unsupported_pairing_offer"
    else .ok onboardingSessionId

/-- `hexe_ble_pairing_offer_received`: the session of an accepted offer, or the error. -/
def offerReceived (parse : List UInt8 → Option CJson) (json : List UInt8) : Except String CString :=
  if json.length = 0 ∨ 1024 < json.length then .error "invalid_pairing_offer"
  else
    match parse json with
    | some (.object entries) => offeredSession (.object entries)
    | _ => .error "invalid_pairing_offer"

/-- `remember_host_pairing_offer`, of an accepted offer. -/
def rememberHostPairingOffer (drawn : Drawn) (now : ℤ) (onboardingSessionId : CString)
    (s : RecoveryBleState) : RecoveryBleState :=
  ensurePairingNonce drawn now (acceptOffer onboardingSessionId s)

/-! ### What operations leave -/

/-- The key pair can be used. -/
def Ready (s : RecoveryBleState) : Prop :=
  s.cryptoReady ∧ s.endpointPrivateKey.isSome ∧ s.endpointPublicKeyB64.text ≠ .empty

/-- A key that is encoded fits its buffer. -/
theorem exists_encoded (key : KeyPair) :
    ∃ encoded, CBuffer.ofText 48 (Base64.encode key.publicKey) = some encoded ∧
      encoded.text ≠ .empty := by
  have hlength : (Base64.encode key.publicKey).length = 43 := by
    rw [Base64.length_encode, key.length_publicKey]
  refine ⟨⟨Base64.encode key.publicKey, by omega⟩, ?_, ?_⟩
  · simp [CBuffer.ofText, hlength]
  · intro hempty
    simp only at hempty
    rw [hempty] at hlength
    exact absurd hlength (by decide)

section readiness

variable {s : RecoveryBleState} {drawn : Option KeyPair}

/-- **Making the key ready**: it is and nothing changes, or a key is drawn, or none can be. -/
theorem ensureCryptoReady_cases (drawn : Option KeyPair) (s : RecoveryBleState) :
    (Ready s ∧ ensureCryptoReady drawn s = (s, true)) ∨
    (¬Ready s ∧ ∃ key encoded, drawn = some key ∧ encoded.text ≠ .empty ∧
      ensureCryptoReady drawn s =
        ({ s with
            endpointPrivateKey := some key
            endpointPublicKeyB64 := encoded
            cryptoReady := true }, true)) ∨
    (¬Ready s ∧ drawn = none ∧
      ensureCryptoReady drawn s = ({ s with endpointPrivateKey := none }, false)) := by
  by_cases hready : Ready s
  · have hcond := hready
    simp only [Ready] at hcond
    exact .inl ⟨hready, by rw [ensureCryptoReady, if_pos hcond]⟩
  · right
    have hcond := hready
    simp only [Ready] at hcond
    cases drawn with
    | none =>
      right
      refine ⟨hready, rfl, ?_⟩
      rw [ensureCryptoReady, if_neg hcond]
    | some key =>
      left
      obtain ⟨encoded, hencoded, hempty⟩ := exists_encoded key
      refine ⟨hready, key, encoded, rfl, hempty, ?_⟩
      simp only [ensureCryptoReady, hcond, if_false, hencoded]

theorem ensureCryptoReady_of_ready (h : Ready s) : ensureCryptoReady drawn s = (s, true) := by
  rcases ensureCryptoReady_cases drawn s with ⟨-, heq⟩ | ⟨hnot, -⟩ | ⟨hnot, -⟩
  · exact heq
  · exact absurd h hnot
  · exact absurd h hnot

/-- A key that is ready or drawn is ready after it. -/
theorem ready_ensureCryptoReady (h : Ready s ∨ drawn.isSome) :
    Ready (ensureCryptoReady drawn s).1 ∧ (ensureCryptoReady drawn s).2 = true := by
  rcases ensureCryptoReady_cases drawn s with ⟨hready, heq⟩ | ⟨-, key, encoded, -, hempty, heq⟩ |
    ⟨hnot, hnone, -⟩
  · rw [heq]
    exact ⟨hready, rfl⟩
  · rw [heq]
    exact ⟨⟨rfl, rfl, hempty⟩, rfl⟩
  · rcases h with h | h
    · exact absurd h hnot
    · simp [hnone] at h

/-- Only the key changes. -/
theorem ensureCryptoReady_frame (drawn : Option KeyPair) (s : RecoveryBleState) :
    (ensureCryptoReady drawn s).1 =
      { s with
        endpointPrivateKey := (ensureCryptoReady drawn s).1.endpointPrivateKey
        endpointPublicKeyB64 := (ensureCryptoReady drawn s).1.endpointPublicKeyB64
        cryptoReady := (ensureCryptoReady drawn s).1.cryptoReady } := by
  rcases ensureCryptoReady_cases drawn s with ⟨-, heq⟩ | ⟨-, key, encoded, -, -, heq⟩ |
    ⟨-, -, heq⟩ <;> rw [heq]

end readiness

/-- What a new identity consists of. -/
theorem newIdentity_frame (drawn : Drawn) (s : RecoveryBleState) :
    (newIdentity drawn s).pairingNonce = drawn.nonce ∧ (newIdentity drawn s).lastSequence = 0 ∧
      (newIdentity drawn s).hostPairingSessionId = s.hostPairingSessionId ∧
      (newIdentity drawn s).onboardingSessionId =
        if s.hostPairingSessionId.text ≠ .empty then s.hostPairingSessionId
        else drawn.sessionId := by
  simp only [newIdentity, resetCryptoSession]
  rw [ensureCryptoReady_frame]
  exact ⟨rfl, rfl, rfl, rfl⟩

theorem ready_newIdentity {drawn : Drawn} (h : drawn.secondKey.isSome) (s : RecoveryBleState) :
    Ready (newIdentity drawn s) := by
  simp only [newIdentity]
  exact (ready_ensureCryptoReady (.inr h)).1

/-- **Where an identity is asked for**: the one that is there is kept, with a key that is drawn if
there is none, or a new one is made. -/
theorem ensurePairingNonce_cases (drawn : Drawn) (now : ℤ) (s : RecoveryBleState) :
    (existingValid now s = true ∧ (ensureCryptoReady drawn.firstKey s).2 = true ∧
      ensurePairingNonce drawn now s = (ensureCryptoReady drawn.firstKey s).1) ∨
    (existingValid now s = true ∧ (ensureCryptoReady drawn.firstKey s).2 = false ∧
      ensurePairingNonce drawn now s =
        newIdentity drawn (ensureCryptoReady drawn.firstKey s).1) ∨
    (existingValid now s = false ∧ ensurePairingNonce drawn now s = newIdentity drawn s) := by
  simp only [ensurePairingNonce]
  cases existingValid now s with
  | false => simp
  | true =>
    rcases hensure : ensureCryptoReady drawn.firstKey s with ⟨kept, ready⟩
    cases ready <;> simp

/-- An identity that is there and can be used is kept. -/
theorem ensurePairingNonce_of_valid {s : RecoveryBleState} {drawn : Drawn} {now : ℤ}
    (hvalid : existingValid now s = true) (hready : Ready s) :
    ensurePairingNonce drawn now s = s := by
  simp only [ensurePairingNonce, hvalid, if_true, ensureCryptoReady_of_ready hready]

theorem ready_ensurePairingNonce {drawn : Drawn} (hfirst : drawn.firstKey.isSome)
    (hsecond : drawn.secondKey.isSome) (now : ℤ) (s : RecoveryBleState) :
    Ready (ensurePairingNonce drawn now s) := by
  rcases ensurePairingNonce_cases drawn now s with ⟨-, -, heq⟩ | ⟨-, -, heq⟩ | ⟨-, heq⟩
  · rw [heq]
    exact (ready_ensureCryptoReady (.inr hfirst)).1
  · rw [heq]
    exact ready_newIdentity hsecond _
  · rw [heq]
    exact ready_newIdentity hsecond _

/-- The host session stays, and a session that is the host's does. -/
theorem ensurePairingNonce_session (drawn : Drawn) (now : ℤ) (s : RecoveryBleState) :
    (ensurePairingNonce drawn now s).hostPairingSessionId = s.hostPairingSessionId ∧
      (s.hostPairingSessionId.text ≠ .empty → s.onboardingSessionId = s.hostPairingSessionId →
        (ensurePairingNonce drawn now s).onboardingSessionId = s.hostPairingSessionId) := by
  rcases ensurePairingNonce_cases drawn now s with ⟨-, -, heq⟩ | ⟨-, -, heq⟩ | ⟨-, heq⟩
  · rw [heq, ensureCryptoReady_frame]
    exact ⟨rfl, fun _ h => h⟩
  · obtain ⟨-, -, hhost, hsession⟩ :=
      newIdentity_frame drawn (ensureCryptoReady drawn.firstKey s).1
    rw [heq, hhost, hsession, ensureCryptoReady_frame]
    exact ⟨rfl, fun h _ => if_pos h⟩
  · obtain ⟨-, -, hhost, hsession⟩ := newIdentity_frame drawn s
    rw [heq, hhost, hsession]
    exact ⟨rfl, fun h _ => if_pos h⟩

end HexeVoice.Recovery.Pairing
