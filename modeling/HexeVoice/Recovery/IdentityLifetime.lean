import HexeVoice.Recovery.Envelopes

/-!
# The lifetime of a pairing identity

How long an identity that was read can be used for a credential write.

## The model

The service is run together with the identities that were read since the offer of the last host
session and since the last write that was applied.

## What is proved

**`identity_stays`**: in every run in which identities are asked for again only while they are bound
to the host session or younger than ten minutes, all identities that were read are the current one.
-/

namespace HexeVoice.Recovery.IdentityLifetime

open HexeVoice.Library
open HexeVoice.Recovery.Pairing HexeVoice.Recovery.Envelopes

variable {session : CString}

/-! ### Runs with what was read -/

/-- An identity, and the private key behind it. -/
structure Read where
  identity : Identity
  endpointPrivateKey : Option KeyPair
  deriving DecidableEq

/-- What a read gives. -/
def readOf (s : RecoveryBleState) : Read := ⟨s.identity, s.endpointPrivateKey⟩

/-- The service, the session of the last offer that was accepted, if it fits its buffer, and the
identities that were read for it and can be used. -/
structure Traced where
  service : Service
  session : Option CString := none
  outstanding : List Read := []

variable (env : Environment)

/-- The run that is observed. -/
def tracedStep (t : Traced) (event : Event) : Traced :=
  let service := step env t.service event
  match event with
  | .offer json _ _ =>
    match offerReceived env.parse json with
    | .error _ => { t with service }
    | .ok session =>
      { service
        session := if session.length < 64 then some session else none
        outstanding := if t.session = some session then t.outstanding else [] }
  | .read _ _ =>
    { t with
      service
      outstanding :=
        if t.session.isSome then readOf service.ble :: t.outstanding else t.outstanding }
  | .write json drawn =>
    match (handleEncryptedCredentials env json drawn t.service).2 with
    | .refused _ => { t with service }
    | _ => { t with service, outstanding := [] }

/-- An identity that was read is asked for again while it is valid, and the first read of one gets a
key. -/
def AskedWhileValid (t : Traced) : Event → Prop
  | .offer json _ now =>
    t.outstanding ≠ [] → ∀ session, offerReceived env.parse json = .ok session →
      t.session = some session → existingValid now t.service.ble = true
  | .read drawn now =>
    (t.outstanding ≠ [] → existingValid now t.service.ble = true) ∧
      (t.outstanding = [] → drawn.firstKey.isSome ∧ drawn.secondKey.isSome)
  | .write _ _ => True

/-- The session of the host is the current one, and all identities that were read are. -/
structure Valid (t : Traced) : Prop where
  session : ∀ session, t.session = some session → session ≠ .empty ∧ session.length < 64 ∧
    t.service.ble.hostPairingSessionId.text = session ∧
    t.service.ble.onboardingSessionId = t.service.ble.hostPairingSessionId
  read : ∀ r ∈ t.outstanding, r = readOf t.service.ble
  ready : t.outstanding ≠ [] → Ready t.service.ble ∧ t.session.isSome

/-! ### One step -/

variable {env} {t : Traced}

theorem offeredSession_ne_empty {root : CJson}
    (h : offeredSession root = .ok session) : session ≠ .empty := by
  simp only [offeredSession] at h
  split at h
  · cases h
  · next hfield =>
    split at h
    · cases h
    · split at h
      · cases h
      · cases h
        simp only [Provisioning.stringField, Option.filter_eq_some_iff, decide_eq_true_eq] at hfield
        exact hfield.2

theorem offerReceived_ne_empty {json : List UInt8}
    (h : offerReceived env.parse json = .ok session) : session ≠ .empty := by
  simp only [offerReceived] at h
  split at h
  · cases h
  · split at h
    · exact offeredSession_ne_empty h
    · cases h

/-- An offer of the current session leaves all but the identity as it is. -/
theorem acceptOffer_same {s : RecoveryBleState} (hhost : s.hostPairingSessionId.text = session)
    (honboarding : s.onboardingSessionId = s.hostPairingSessionId) : acceptOffer session s = s := by
  have hcopy : CBuffer.copy 64 (by decide) session = s.hostPairingSessionId := by
    apply CBuffer.ext
    rw [← hhost]
    exact CBuffer.copy_of_fits s.hostPairingSessionId.fits
  have hsame : ¬(s.hostPairingSessionId.text ≠ .empty ∧ s.hostPairingSessionId.text ≠ session) :=
    fun h => h.2 hhost
  simp only [acceptOffer, if_neg hsame, hcopy]
  cases s
  simp only at honboarding
  rw [honboarding]

/-- An accepted offer makes its session the current one. -/
theorem session_of_offer {drawn : Drawn} {now : ℤ} (hne : session ≠ .empty)
    (hfits : session.length < 64) (s : RecoveryBleState) :
    (rememberHostPairingOffer drawn now session s).hostPairingSessionId.text = session ∧
      (rememberHostPairingOffer drawn now session s).onboardingSessionId =
        (rememberHostPairingOffer drawn now session s).hostPairingSessionId := by
  have hcopy : (CBuffer.copy 64 (by decide) session).text = session := CBuffer.copy_of_fits hfits
  have hhost : (acceptOffer session s).hostPairingSessionId = .copy 64 (by decide) session := by
    simp only [acceptOffer]
  have honboarding : (acceptOffer session s).onboardingSessionId =
      .copy 64 (by decide) session := by
    simp only [acceptOffer]
  obtain ⟨hkept, hsession⟩ := ensurePairingNonce_session drawn now (acceptOffer session s)
  rw [rememberHostPairingOffer, hkept, hhost, hcopy]
  refine ⟨rfl, ?_⟩
  rw [← hhost]
  exact hsession (by rw [hhost, hcopy]; exact hne) (by rw [honboarding, hhost])

theorem valid_offer (h : Valid t) {json : List UInt8} {drawn : Drawn} {now : ℤ}
    (hasked : AskedWhileValid env t (.offer json drawn now)) :
    Valid (tracedStep env t (.offer json drawn now)) := by
  simp only [tracedStep, step]
  cases hoffer : offerReceived env.parse json with
  | error error => exact ⟨h.session, h.read, h.ready⟩
  | ok session =>
    have hne := offerReceived_ne_empty hoffer
    have hsession : ∀ other, (if session.length < 64 then some session else none) = some other →
        other ≠ .empty ∧ other.length < 64 ∧
        (rememberHostPairingOffer drawn now session t.service.ble).hostPairingSessionId.text =
          other ∧
        (rememberHostPairingOffer drawn now session t.service.ble).onboardingSessionId =
          (rememberHostPairingOffer drawn now session t.service.ble).hostPairingSessionId := by
      intro other hother
      split at hother
      · next hfits =>
        rw [Option.some.injEq] at hother
        subst hother
        exact ⟨hne, hfits, session_of_offer hne hfits t.service.ble⟩
      · cases hother
    by_cases hsame : t.session = some session
    · obtain ⟨-, hfits, hhost, honboarding⟩ := h.session session hsame
      refine ⟨hsession, ?_, ?_⟩
      · simp only [hsame, if_true]
        intro r hr
        have hout : t.outstanding ≠ [] := List.ne_nil_of_mem hr
        -- The identity is valid, so the offer changes nothing.
        have hkept : rememberHostPairingOffer drawn now session t.service.ble = t.service.ble := by
          rw [rememberHostPairingOffer, acceptOffer_same hhost honboarding]
          exact ensurePairingNonce_of_valid (hasked hout session hoffer hsame) (h.ready hout).1
        rw [hkept]
        exact h.read r hr
      · simp only [hsame, if_true, hfits, Option.isSome_some, and_true]
        intro hout
        rw [rememberHostPairingOffer, acceptOffer_same hhost honboarding,
          ensurePairingNonce_of_valid (hasked hout session hoffer hsame) (h.ready hout).1]
        exact (h.ready hout).1
    · refine ⟨hsession, ?_, ?_⟩
      · simp [hsame]
      · simp [hsame]

theorem valid_read (h : Valid t) {drawn : Drawn} {now : ℤ}
    (hasked : AskedWhileValid env t (.read drawn now)) :
    Valid (tracedStep env t (.read drawn now)) := by
  simp only [tracedStep, step]
  have hsession : ∀ session, t.session = some session → session ≠ .empty ∧ session.length < 64 ∧
      (ensurePairingNonce drawn now t.service.ble).hostPairingSessionId.text = session ∧
      (ensurePairingNonce drawn now t.service.ble).onboardingSessionId =
        (ensurePairingNonce drawn now t.service.ble).hostPairingSessionId := by
    intro session hsome
    obtain ⟨hne, hfits, hhost, honboarding⟩ := h.session session hsome
    obtain ⟨hkept, hbound⟩ := ensurePairingNonce_session drawn now t.service.ble
    rw [hkept]
    exact ⟨hne, hfits, hhost, hbound (hhost ▸ hne) honboarding⟩
  by_cases hout : t.outstanding = []
  · obtain ⟨hfirst, hsecond⟩ := hasked.2 hout
    refine ⟨hsession, ?_, ?_⟩
    · simp only [hout]
      split <;> simp
    · intro hnew
      cases hsome : t.session with
      | none => simp [hsome, hout] at hnew
      | some session =>
        exact ⟨ready_ensurePairingNonce hfirst hsecond now t.service.ble, rfl⟩
  · have hkept : ensurePairingNonce drawn now t.service.ble = t.service.ble :=
      ensurePairingNonce_of_valid (hasked.1 hout) (h.ready hout).1
    rw [hkept]
    refine ⟨h.session, ?_, fun _ => h.ready hout⟩
    intro r hr
    split at hr
    · rcases List.mem_cons.mp hr with hr | hr
      · exact hr
      · exact h.read r hr
    · exact h.read r hr

theorem valid_write (h : Valid t) (json : List UInt8) (drawn : Option KeyPair) :
    Valid (tracedStep env t (.write json drawn)) := by
  have hframe := ensureCryptoReady_frame drawn t.service.ble
  simp only [tracedStep, step]
  rcases handleEncryptedCredentials_cases env json drawn t.service with
    ⟨error, ble, store, heq, hble, -⟩ | ⟨store, heq⟩ | ⟨root, fields, key, sealed, plaintext, store,
      -, -, -, -, heq⟩
  · simp only [heq]
    have hsame : t.outstanding ≠ [] → ble = t.service.ble := by
      intro hout
      rcases hble with hble | hble
      · exact hble
      · rw [hble, ensureCryptoReady_of_ready (h.ready hout).1]
    refine ⟨?_, ?_, ?_⟩
    · intro session hsome
      rcases hble with hble | hble
      · rw [hble]
        exact h.session session hsome
      · rw [hble, hframe]
        exact h.session session hsome
    · intro r hr
      rw [hsame (List.ne_nil_of_mem hr)]
      exact h.read r hr
    · intro hout
      rw [hsame hout]
      exact h.ready hout
  · simp only [heq]
    exact ⟨h.session, by simp, by simp⟩
  · simp only [heq]
    refine ⟨?_, by simp, by simp⟩
    rw [hframe]
    exact h.session

theorem valid_step (h : Valid t) {event : Event} (hasked : AskedWhileValid env t event) :
    Valid (tracedStep env t event) := by
  cases event with
  | offer json drawn now => exact valid_offer h hasked
  | read drawn now => exact valid_read h hasked
  | write json drawn => exact valid_write h json drawn

/-! ### Whole runs -/

/-- The service after its start. -/
def start (drawn : Drawn) (now : ℤ) (store : Nvs) : Traced where
  service := ⟨initRecoveryBleProvisioning drawn now, store⟩

theorem valid_start (drawn : Drawn) (now : ℤ) (store : Nvs) : Valid (start drawn now store) := by
  constructor <;> simp [start]

/-- An envelope for an identity: its session, its nonce and its key. -/
def BuiltFrom (sha256Hex : List UInt8 → CString) (identity : Identity) (fields : EnvelopeFields) :
    Prop :=
  fields.onboardingSessionId = identity.onboardingSessionId ∧
    fields.pairingNonce = identity.pairingNonce ∧
    fields.keyId = sha256Hex (canonicalKeyIdJson identity.endpointEphemeralPublicKey
      fields.supervisorPublicKey fields.onboardingSessionId fields.targetNodeId fields.sequence)

/-- The checks of an envelope that are not about the identity. -/
def OtherwiseFine (config : Firmware.Settings.Config) (hardwareId : CString) (lastSequence : ℕ)
    (fields : EnvelopeFields) : Prop :=
  fields.schemaVersion = kEnvelopeSchemaVersion ∧ fields.contractVersion = kContractVersion ∧
    fields.payloadSchemaId = kPayloadSchemaId ∧ fields.algorithm = kEncryptionAlgorithm ∧
    fields.keyAgreement = kKeyAgreement ∧
    targetsDevice config hardwareId fields.targetNodeId = true ∧ 0 < fields.sequence ∧
    lastSequence < fields.sequence ∧ parseIsoUtcSeconds fields.expiresAt = true ∧
    Base64.decode fields.aad = some (canonicalAadJson fields.payloadSchemaId
      fields.onboardingSessionId fields.targetNodeId fields.pairingNonce fields.sequence
      fields.expiresAt) ∧
    wellEncoded fields = true

/-- An envelope for the current identity passes if it is otherwise fine. -/
theorem validate_of_builtFrom {root : CJson} {fields : EnvelopeFields} {s : RecoveryBleState}
    (hread : readEnvelope root = some fields) (hbuilt : BuiltFrom env.sha256Hex s.identity fields)
    (hfine : OtherwiseFine env.config env.hardwareId s.lastSequence fields) :
    validateEnvelopeBinding env.config env.hardwareId env.sha256Hex root s = .ok fields := by
  obtain ⟨hsession, hnonce, hkey⟩ := hbuilt
  obtain ⟨hschema, hcontract, hpayload, halgorithm, hagreement, htarget, hpositive, hsequence, htime,
    haad, hencoded⟩ := hfine
  have hsession' : fields.onboardingSessionId = s.onboardingSessionId.text := hsession
  have hnonce' : fields.pairingNonce = s.pairingNonce := hnonce
  have hkey' : fields.keyId = env.sha256Hex (canonicalKeyIdJson s.endpointPublicKeyB64.text
    fields.supervisorPublicKey fields.onboardingSessionId fields.targetNodeId fields.sequence) := hkey
  rw [validateEnvelopeBinding, hread]
  simp only
  rw [if_neg (by simp [hschema, hcontract]), if_neg (by simp [hpayload]),
    if_neg (by simp [halgorithm, hagreement]), if_neg (by simp [hsession']),
    if_neg (by simp [htarget]), if_neg (by simp [hnonce']), if_neg (by omega),
    if_neg (by simp [htime]), if_neg (by simp [haad]), if_neg (by simp [hencoded]),
    if_neg (by simp [← hkey'])]

/-- **A pairing identity stays valid.** -/
theorem identity_stays (env : Environment) (drawn : Drawn) (now : ℤ) (store : Nvs)
    (events : List Event)
    (h : AllSteps (tracedStep env) (AskedWhileValid env) (start drawn now store) events)
    (r : Read)
    (hread : r ∈ (run (tracedStep env) (start drawn now store) events).outstanding) :
    let s := (run (tracedStep env) (start drawn now store) events).service.ble
    s.identity = r.identity ∧
      (∀ root fields, readEnvelope root = some fields →
        BuiltFrom env.sha256Hex r.identity fields →
        OtherwiseFine env.config env.hardwareId s.lastSequence fields →
        validateEnvelopeBinding env.config env.hardwareId env.sha256Hex root s = .ok fields) ∧
      ∀ fresh, (ensureCryptoReady fresh s).1.endpointPrivateKey = r.endpointPrivateKey := by
  have hvalid : Valid (run (tracedStep env) (start drawn now store) events) := by
    revert h
    exact run_invariant (fun t event hs hok => valid_step (t := t) hs hok)
      (valid_start drawn now store)
  have hcurrent := hvalid.read r hread
  obtain ⟨hready, -⟩ := hvalid.ready (List.ne_nil_of_mem hread)
  subst hcurrent
  refine ⟨rfl, ?_, ?_⟩
  · intro root fields hfields hbuilt hfine
    exact validate_of_builtFrom hfields hbuilt hfine
  · intro fresh
    rw [ensureCryptoReady_of_ready hready]
    rfl

/-! ### Concrete runs -/

/-- A key pair of one byte. -/
def keyOf (byte : UInt8) : KeyPair := ⟨List.replicate 32 byte, List.length_replicate⟩

/-- A draw. -/
def drawOf (nonce : CString) (h : nonce.length = 32) (byte : UInt8) (at' : ℤ) : Drawn where
  nonce
  length_nonce := h
  sessionId := ⟨.ofAscii "recovery-ble-0000000100000002", by decide⟩
  firstKey := some (keyOf byte)
  secondKey := some (keyOf byte)
  issuedAtUs := at'

def firstDraw : Drawn :=
  drawOf (.ofAscii "00000000000000000000000000000001") (by decide) 1 0

def secondDraw : Drawn :=
  drawOf (.ofAscii "00000000000000000000000000000002") (by decide) 2 601000000

/-- What the first read gives. -/
def firstRead : Read where
  identity :=
    { onboardingSessionId := .ofAscii "s1"
      pairingNonce := .ofAscii "00000000000000000000000000000001"
      endpointEphemeralPublicKey := Base64.encode (List.replicate 32 1) }
  endpointPrivateKey := some (keyOf 1)

/-- An envelope for it. -/
def firstEnvelope : EnvelopeFields where
  schemaVersion := kEnvelopeSchemaVersion
  payloadSchemaId := kPayloadSchemaId
  contractVersion := kContractVersion
  onboardingSessionId := .ofAscii "s1"
  targetNodeId := .ofAscii "kitchen"
  pairingNonce := .ofAscii "00000000000000000000000000000001"
  sequence := 1
  expiresAt := .ofAscii "2030-01-01T00:00:00Z"
  algorithm := kEncryptionAlgorithm
  keyAgreement := kKeyAgreement
  keyId := .ofAscii "d1"
  supervisorPublicKey := Base64.encode (List.replicate 32 3)
  nonce := Base64.encode (List.replicate 12 4)
  aad := Base64.encode (canonicalAadJson kPayloadSchemaId (.ofAscii "s1") (.ofAscii "kitchen")
    (.ofAscii "00000000000000000000000000000001") 1 (.ofAscii "2030-01-01T00:00:00Z"))
  ciphertext := Base64.encode (List.replicate 8 5)
  tag := Base64.encode (List.replicate 16 6)

/-- The object of an envelope. -/
def envelopeObject (fields : EnvelopeFields) : CJson :=
  .object
    [(.ofAscii "schema_version", .string fields.schemaVersion),
      (.ofAscii "payload_schema_id", .string fields.payloadSchemaId),
      (.ofAscii "contract_version", .string fields.contractVersion),
      (.ofAscii "onboarding_session_id", .string fields.onboardingSessionId),
      (.ofAscii "target_node_id", .string fields.targetNodeId),
      (.ofAscii "pairing_nonce", .string fields.pairingNonce),
      (.ofAscii "sequence", .number fields.sequence),
      (.ofAscii "expires_at", .string fields.expiresAt),
      (.ofAscii "algorithm", .string fields.algorithm),
      (.ofAscii "key_agreement", .string fields.keyAgreement),
      (.ofAscii "key_id", .string fields.keyId),
      (.ofAscii "supervisor_ephemeral_public_key", .string fields.supervisorPublicKey),
      (.ofAscii "nonce", .string fields.nonce),
      (.ofAscii "aad", .string fields.aad),
      (.ofAscii "ciphertext", .string fields.ciphertext),
      (.ofAscii "tag", .string fields.tag)]

/-- The texts of an offer and of a credential write. -/
def offerJson : List UInt8 := JsonBytes.ascii "offer"
def writeJson : List UInt8 := JsonBytes.ascii "write"

/-- A board, and what cJSON makes of the two texts. -/
def board : Environment where
  config := Firmware.Settings.kitchen
  hardwareId := .ofAscii "esp32-000000000001"
  parse := fun json =>
    if json = offerJson then
      some (.object [(.ofAscii "onboarding_session_id", .string (.ofAscii "s1"))])
    else if json = writeJson then some (envelopeObject firstEnvelope)
    else none
  sha256Hex := fun _ => .ofAscii "d1"
  decrypt := fun _ => none

/-- The first offer after the start, and a read of the identity. -/
def offered : List Event := [.offer offerJson secondDraw 1000000, .read secondDraw 2000000]

/-- Ten minutes after the start another read replaces the identity that was read, and an envelope that
was built from it, which nothing else is wrong with, is refused for its nonce. -/
theorem identity_replaced :
    (run (tracedStep board) (start firstDraw 0 Nvs.empty) offered).outstanding = [firstRead] ∧
      board.parse writeJson = some (envelopeObject firstEnvelope) ∧
      readEnvelope (envelopeObject firstEnvelope) = some firstEnvelope ∧
      BuiltFrom board.sha256Hex firstRead.identity firstEnvelope ∧
      OtherwiseFine board.config board.hardwareId 0 firstEnvelope ∧
      (handleEncryptedCredentials board writeJson none
        (run (tracedStep board) (start firstDraw 0 Nvs.empty)
          (offered ++ [.read secondDraw 601000000])).service).2 = .refused "invalid_nonce" := by
  refine ⟨?_, rfl, ?_, ?_, ?_, ?_⟩
  · decide +kernel
  · decide +kernel
  · simp only [BuiltFrom]
    decide +kernel
  · simp only [OtherwiseFine]
    decide +kernel
  · decide +kernel

/-- Within ten minutes the identity stays. -/
theorem identity_stays_offered :
    (run (tracedStep board) (start firstDraw 0 Nvs.empty) offered).service.ble.identity =
      firstRead.identity := by
  have hasked : AllSteps (tracedStep board) (AskedWhileValid board) (start firstDraw 0 Nvs.empty)
      offered := by
    refine ⟨fun h => absurd rfl h, ⟨fun h => ?_, fun _ => ⟨rfl, rfl⟩⟩, trivial⟩
    have hnone : (tracedStep board (start firstDraw 0 Nvs.empty)
        (.offer offerJson secondDraw 1000000)).outstanding = [] := by
      decide +kernel
    exact absurd hnone h
  have hread : firstRead ∈
      (run (tracedStep board) (start firstDraw 0 Nvs.empty) offered).outstanding := by
    decide +kernel
  exact (identity_stays board firstDraw 0 Nvs.empty offered hasked firstRead hread).1

end HexeVoice.Recovery.IdentityLifetime
