import HexeVoice.Library.Outcomes
import HexeVoice.Recovery.IdentityLifetime

/-!
# Replayed envelopes

Whether an encrypted envelope can be applied twice, or under an identity it was not made for.

## The model

What can be decrypted was encrypted by an honest sender, in an arbitrary set of encryptions; the nonces
that are drawn in a run are distinct. The service is run together with the envelopes that were applied.

## What is proved

**`applied_once`**: in every run each envelope that is applied was encrypted for the identity of that
moment, no two are the same, and their sequence numbers grow under each nonce; a write that is refused
changes no setting but where the flash fails, and no identity.
-/

namespace HexeVoice.Recovery.EnvelopeReplay

open HexeVoice.Library HexeVoice.Library.JsonBytes
open HexeVoice.Recovery.Pairing HexeVoice.Recovery.Envelopes

/-! ### Honest encryptions -/

/-- What an honest sender encrypts, and what it encrypts it for. -/
structure Encryption where
  endpointKey : KeyPair
  supervisorPublicKey : List UInt8
  onboardingSessionId : CString
  targetNodeId : CString
  pairingNonce : CString
  sequence : ℤ
  expiresAt : CString
  nonce : List UInt8
  plaintext : List UInt8
  ciphertext : List UInt8
  tag : List UInt8

/-- The ciphertext of an encryption. -/
def Encryption.sealed (e : Encryption) : Sealed where
  key :=
    { endpointKey := e.endpointKey
      supervisorPublicKey := e.supervisorPublicKey
      salt := canonicalSaltJson e.onboardingSessionId e.targetNodeId e.pairingNonce }
  nonce := e.nonce
  aad := canonicalAadJson kPayloadSchemaId e.onboardingSessionId e.targetNodeId e.pairingNonce
    e.sequence e.expiresAt
  ciphertext := e.ciphertext
  tag := e.tag

/-- Only honest encryptions can be decrypted. -/
def Ideal (honest : Set Encryption) (decrypt : Sealed → Option (List UInt8)) : Prop :=
  ∀ sealed plaintext, decrypt sealed = some plaintext →
    ∃ e ∈ honest, e.sealed = sealed ∧ e.plaintext = plaintext

/-- **The associated data tell what they bind**. -/
theorem canonicalAadJson_inj {schema schema' session session' target target' nonce nonce' expiresAt
    expiresAt' : CString} {sequence sequence' : ℤ}
    (h : canonicalAadJson schema session target nonce sequence expiresAt =
      canonicalAadJson schema' session' target' nonce' sequence' expiresAt') :
    session = session' ∧ target = target' ∧ nonce = nonce' ∧ sequence = sequence' := by
  simp only [canonicalAadJson, object, List.intercalate, List.intersperse, List.flatten_cons,
    List.flatten_nil, List.append_assoc, List.cons_append, List.nil_append, List.cons.injEq,
    true_and, List.append_cancel_left_eq] at h
  obtain ⟨-, h⟩ := stringMember_cancel h
  simp only [List.cons.injEq, true_and, List.append_cancel_left_eq] at h
  obtain ⟨hsession, h⟩ := stringMember_cancel h
  simp only [List.cons.injEq, true_and] at h
  obtain ⟨hnonce, h⟩ := stringMember_cancel h
  simp only [List.cons.injEq, true_and] at h
  obtain ⟨-, h⟩ := stringMember_cancel h
  simp only [List.cons.injEq, true_and, List.append_cancel_left_eq] at h
  obtain ⟨hsequence, h⟩ := intMember_cancel h
  obtain ⟨htarget, -⟩ := stringMember_cancel h
  exact ⟨hsession, htarget, hnonce, hsequence⟩

/-! ### Runs with what was applied -/

/-- An envelope that was applied, and the identity that it was decrypted under. -/
structure Application where
  ble : RecoveryBleState
  fields : EnvelopeFields
  sealed : Sealed
  deriving DecidableEq

/-- The service, the envelopes that were applied, the last one first, and the nonces that were
drawn. -/
structure Traced where
  service : Service
  applied : List Application := []
  drawn : List CString

/-- The nonce that is drawn for an event. -/
def nonces : Event → List CString
  | .offer _ drawn _ => [drawn.nonce]
  | .read drawn _ => [drawn.nonce]
  | .write _ _ => []

variable (env : Environment)

/-- The envelopes that were applied, after an event. -/
def appliedAfter (t : Traced) : Event → List Application
  | .write json drawn =>
    match (handleEncryptedCredentials env json drawn t.service).2 with
    | .applied fields sealed =>
      ⟨(ensureCryptoReady drawn t.service.ble).1, fields, sealed⟩ :: t.applied
    | _ => t.applied
  | _ => t.applied

/-- The run that is observed. -/
def tracedStep (t : Traced) (event : Event) : Traced where
  service := step env t.service event
  applied := appliedAfter env t event
  drawn := nonces event ++ t.drawn

/-- Nonces are not drawn twice. -/
def NoncesFresh (t : Traced) (event : Event) : Prop := ∀ nonce ∈ nonces event, nonce ∉ t.drawn

/-- The service after its start. -/
def start (drawn : Drawn) (now : ℤ) (store : Nvs) : Traced where
  service := ⟨initRecoveryBleProvisioning drawn now, store⟩
  drawn := [drawn.nonce]

/-- The encryption was made for the identity that an envelope was applied under. -/
structure MadeFor (a : Application) (e : Encryption) : Prop where
  sealed : e.sealed = a.sealed
  session : e.onboardingSessionId = a.ble.onboardingSessionId.text
  target : targetsDevice env.config env.hardwareId e.targetNodeId = true
  nonce : e.pairingNonce = a.ble.pairingNonce
  key : a.ble.endpointPrivateKey = some e.endpointKey
  sequence : e.sequence = a.fields.sequence

/-- The later of two envelopes has the larger number, if they were applied under one nonce. -/
def Later (a b : Application) : Prop :=
  a.ble.pairingNonce = b.ble.pairingNonce → b.fields.sequence < a.fields.sequence

/-- All nonces in use were drawn, and the last sequence number bounds those that were applied under
the current nonce. -/
structure Valid (honest : Set Encryption) (t : Traced) : Prop where
  current : t.service.ble.pairingNonce ∈ t.drawn
  drawn : ∀ a ∈ t.applied, a.ble.pairingNonce ∈ t.drawn
  last : ∀ a ∈ t.applied, a.ble.pairingNonce = t.service.ble.pairingNonce →
    a.fields.sequence ≤ t.service.ble.lastSequence
  later : t.applied.Pairwise Later
  made : ∀ a ∈ t.applied, ∃ e ∈ honest, MadeFor env a e

/-! ### One step -/

variable {env} {honest : Set Encryption} {t : Traced}

/-- Where an identity is asked for, its nonce and number stay or it has the nonce that is drawn. -/
theorem ensurePairingNonce_nonce (drawn : Drawn) (now : ℤ) (s : RecoveryBleState) :
    ((ensurePairingNonce drawn now s).pairingNonce = s.pairingNonce ∧ s.pairingNonce ≠ .empty ∧
      (ensurePairingNonce drawn now s).lastSequence = s.lastSequence) ∨
    (ensurePairingNonce drawn now s).pairingNonce = drawn.nonce := by
  rcases ensurePairingNonce_cases drawn now s with ⟨hvalid, -, heq⟩ | ⟨-, -, heq⟩ | ⟨-, heq⟩
  · left
    rw [heq, ensureCryptoReady_frame]
    simp only [existingValid, Bool.decide_and, Bool.and_eq_true, decide_eq_true_eq] at hvalid
    exact ⟨rfl, hvalid.1, rfl⟩
  · right
    rw [heq]
    exact (newIdentity_frame drawn _).1
  · right
    rw [heq]
    exact (newIdentity_frame drawn s).1

/-- An accepted offer keeps the nonce and its number, or draws a nonce. -/
theorem rememberHostPairingOffer_nonce (drawn : Drawn) (now : ℤ) (session : CString)
    (s : RecoveryBleState) :
    ((rememberHostPairingOffer drawn now session s).pairingNonce = s.pairingNonce ∧
      (rememberHostPairingOffer drawn now session s).lastSequence = s.lastSequence) ∨
    (rememberHostPairingOffer drawn now session s).pairingNonce = drawn.nonce := by
  have haccept : ((acceptOffer session s).pairingNonce = s.pairingNonce ∧
      (acceptOffer session s).lastSequence = s.lastSequence) ∨
      (acceptOffer session s).pairingNonce = .empty := by
    simp only [acceptOffer]
    split
    · exact .inr rfl
    · exact .inl ⟨rfl, rfl⟩
  rcases ensurePairingNonce_nonce drawn now (acceptOffer session s) with ⟨hnonce, hne, hlast⟩ | hnew
  · rcases haccept with ⟨hkept, hnumber⟩ | hempty
    · exact .inl ⟨hnonce.trans hkept, hlast.trans hnumber⟩
    · exact absurd hempty hne
  · exact .inr hnew

/-- What an identity that is asked for preserves. -/
theorem valid_identity (h : Valid env honest t) {ble : RecoveryBleState} {nonce : CString}
    (hfresh : nonce ∉ t.drawn)
    (hble : (ble.pairingNonce = t.service.ble.pairingNonce ∧
      ble.lastSequence = t.service.ble.lastSequence) ∨ ble.pairingNonce = nonce) :
    Valid env honest
      { t with service := { t.service with ble }, drawn := nonce :: t.drawn } where
  current := by
    rcases hble with ⟨hnonce, -⟩ | hnonce
    · rw [hnonce]
      exact List.mem_cons_of_mem _ h.current
    · rw [hnonce]
      exact List.mem_cons_self
  drawn := fun a ha => List.mem_cons_of_mem _ (h.drawn a ha)
  last := by
    intro a ha hsame
    rcases hble with ⟨hnonce, hlast⟩ | hnonce
    · rw [hlast]
      exact h.last a ha (hsame.trans hnonce)
    · -- The nonce was drawn now, so nothing was applied under it.
      have hmem := h.drawn a ha
      rw [hsame, hnonce] at hmem
      exact absurd hmem hfresh
  later := h.later
  made := h.made

/-- **An envelope that passes** is bound to the identity. -/
theorem validateEnvelopeBinding_ok {root : CJson} {fields : EnvelopeFields} {s : RecoveryBleState}
    (h : validateEnvelopeBinding env.config env.hardwareId env.sha256Hex root s = .ok fields) :
    fields.payloadSchemaId = kPayloadSchemaId ∧
      fields.onboardingSessionId = s.onboardingSessionId.text ∧
      targetsDevice env.config env.hardwareId fields.targetNodeId = true ∧
      fields.pairingNonce = s.pairingNonce ∧ 0 < fields.sequence ∧
      s.lastSequence < fields.sequence ∧
      Base64.decode fields.aad = some (canonicalAadJson fields.payloadSchemaId
        fields.onboardingSessionId fields.targetNodeId fields.pairingNonce fields.sequence
        fields.expiresAt) := by
  simp only [validateEnvelopeBinding] at h
  split at h
  · cases h
  · next read hread =>
    -- Each check that fails refuses the envelope.
    obtain ⟨-, h⟩ := ite_ok h
    obtain ⟨hschema, h⟩ := ite_ok h
    obtain ⟨-, h⟩ := ite_ok h
    obtain ⟨hsession, h⟩ := ite_ok h
    obtain ⟨htarget, h⟩ := ite_ok h
    obtain ⟨hnonce, h⟩ := ite_ok h
    obtain ⟨hsequence, h⟩ := ite_ok h
    obtain ⟨-, h⟩ := ite_ok h
    obtain ⟨haad, h⟩ := ite_ok h
    obtain ⟨-, h⟩ := ite_ok h
    obtain ⟨-, h⟩ := ite_ok h
    cases h
    refine ⟨not_not.mp hschema, not_not.mp hsession, ?_, not_not.mp hnonce, by omega, by omega,
      not_not.mp haad⟩
    simpa using htarget

/-- An envelope that is decrypted was made for the identity that it is bound to. -/
theorem madeFor_of_decrypt (hideal : Ideal honest env.decrypt) {root : CJson}
    {fields : EnvelopeFields} {s : RecoveryBleState} {drawn : Option KeyPair} {key : KeyPair}
    {sealed : Sealed} {plaintext : List UInt8}
    (hbinding : validateEnvelopeBinding env.config env.hardwareId env.sha256Hex root s = .ok fields)
    (hkey : (ensureCryptoReady drawn s).1.endpointPrivateKey = some key)
    (hsealed : fields.sealedUnder key = some sealed)
    (hdecrypt : env.decrypt sealed = some plaintext) :
    ∃ e ∈ honest, MadeFor env ⟨(ensureCryptoReady drawn s).1, fields, sealed⟩ e := by
  obtain ⟨-, hsession, htarget, hnonce, -, -, haad⟩ := validateEnvelopeBinding_ok hbinding
  obtain ⟨e, he, hsame, -⟩ := hideal sealed plaintext hdecrypt
  simp only [EnvelopeFields.sealedUnder, haad, Option.bind_eq_bind, Option.bind_eq_some_iff,
    Option.some.injEq] at hsealed
  obtain ⟨gcmNonce, -, aad, rfl, ciphertext, -, tag, -, publicKey, -, hsealed⟩ := hsealed
  have hkeys : e.endpointKey = key := by
    have := congrArg (fun sealed => sealed.key.endpointKey) (hsame.trans hsealed.symm)
    exact this
  have hdata := congrArg Sealed.aad (hsame.trans hsealed.symm)
  obtain ⟨hsession', htarget', hnonce', hsequence'⟩ := canonicalAadJson_inj hdata
  refine ⟨e, he, hsame, ?_, ?_, ?_, ?_, hsequence'⟩
  · rw [hsession', hsession, ensureCryptoReady_frame]
  · rw [htarget']
    exact htarget
  · rw [hnonce', hnonce, ensureCryptoReady_frame]
  · rw [hkeys]
    exact hkey

theorem valid_write (hideal : Ideal honest env.decrypt) (h : Valid env honest t)
    (json : List UInt8) (drawn : Option KeyPair) :
    Valid env honest (tracedStep env t (.write json drawn)) := by
  have hframe := ensureCryptoReady_frame drawn t.service.ble
  simp only [tracedStep, step, nonces, appliedAfter, List.nil_append]
  rcases handleEncryptedCredentials_cases env json drawn t.service with
    ⟨error, ble, store, heq, hble, -⟩ | ⟨store, heq⟩ | ⟨root, fields, key, sealed, plaintext, store,
      hbinding, hkey, hsealed, hdecrypt, heq⟩
  · simp only [heq]
    have hnonce : ble.pairingNonce = t.service.ble.pairingNonce ∧
        ble.lastSequence = t.service.ble.lastSequence := by
      rcases hble with rfl | rfl
      · exact ⟨rfl, rfl⟩
      · rw [hframe]
        exact ⟨rfl, rfl⟩
    refine ⟨?_, h.drawn, ?_, h.later, h.made⟩
    · rw [hnonce.1]
      exact h.current
    · rw [hnonce.1, hnonce.2]
      exact h.last
  · simp only [heq]
    exact ⟨h.current, h.drawn, h.last, h.later, h.made⟩
  · simp only [heq]
    obtain ⟨-, -, -, -, hpositive, hnumber, -⟩ := validateEnvelopeBinding_ok hbinding
    have hnonce : (ensureCryptoReady drawn t.service.ble).1.pairingNonce =
        t.service.ble.pairingNonce := by
      rw [hframe]
    have hreset : (resetCryptoSession { (ensureCryptoReady drawn t.service.ble).1 with
        lastSequence := fields.sequence.toNat }).pairingNonce = t.service.ble.pairingNonce := hnonce
    refine ⟨?_, ?_, ?_, ?_, ?_⟩
    · rw [hreset]
      exact h.current
    · intro a ha
      rcases List.mem_cons.mp ha with rfl | ha
      · rw [hnonce]
        exact h.current
      · exact h.drawn a ha
    · intro a ha hsame
      have hlast : (resetCryptoSession { (ensureCryptoReady drawn t.service.ble).1 with
          lastSequence := fields.sequence.toNat }).lastSequence = fields.sequence.toNat := rfl
      rw [hlast, Int.toNat_of_nonneg (by omega)]
      rcases List.mem_cons.mp ha with rfl | ha
      · exact le_rfl
      · exact (h.last a ha (hsame.trans hreset)).trans hnumber.le
    · rw [List.pairwise_cons]
      refine ⟨fun a ha hsame => ?_, h.later⟩
      exact lt_of_le_of_lt (h.last a ha (hsame.symm.trans hnonce)) hnumber
    · intro a ha
      rcases List.mem_cons.mp ha with rfl | ha
      · exact madeFor_of_decrypt hideal hbinding hkey hsealed hdecrypt
      · exact h.made a ha

theorem valid_step (hideal : Ideal honest env.decrypt) (h : Valid env honest t) {event : Event}
    (hfresh : NoncesFresh t event) : Valid env honest (tracedStep env t event) := by
  cases event with
  | offer json drawn now =>
    have hnew : drawn.nonce ∉ t.drawn := hfresh _ List.mem_cons_self
    simp only [tracedStep, step, nonces, appliedAfter, List.cons_append, List.nil_append]
    cases offerReceived env.parse json with
    | error error => exact valid_identity h hnew (.inl ⟨rfl, rfl⟩)
    | ok session =>
      exact valid_identity h hnew (rememberHostPairingOffer_nonce drawn now session t.service.ble)
  | read drawn now =>
    have hnew : drawn.nonce ∉ t.drawn := hfresh _ List.mem_cons_self
    simp only [tracedStep, step, nonces, appliedAfter, List.cons_append, List.nil_append]
    apply valid_identity h hnew
    rcases ensurePairingNonce_nonce drawn now t.service.ble with ⟨hnonce, -, hlast⟩ | hdrawn
    · exact .inl ⟨hnonce, hlast⟩
    · exact .inr hdrawn
  | write json drawn => exact valid_write hideal h json drawn

/-! ### Whole runs -/

theorem valid_start (drawn : Drawn) (now : ℤ) (store : Nvs) :
    Valid env honest (start drawn now store) := by
  constructor
  case current =>
    rcases ensurePairingNonce_nonce drawn now .zero with ⟨-, hne, -⟩ | hdrawn
    · exact absurd rfl hne
    · simp only [start, initRecoveryBleProvisioning, hdrawn, List.mem_cons_self]
  all_goals simp [start]

/-- Envelopes with the same ciphertext have the same nonce and number, so the later one has not a
larger number. -/
theorem sealed_ne_of_later {a b : Application} (h : Later a b) (ha : ∃ e ∈ honest, MadeFor env a e)
    (hb : ∃ e ∈ honest, MadeFor env b e) : a.sealed ≠ b.sealed := by
  intro hsame
  obtain ⟨e, -, hmade⟩ := ha
  obtain ⟨e', -, hmade'⟩ := hb
  have hdata := congrArg Sealed.aad ((hmade.sealed.trans hsame).trans hmade'.sealed.symm)
  obtain ⟨-, -, hnonce, hsequence⟩ := canonicalAadJson_inj hdata
  have hlater := h ((hmade.nonce.symm.trans hnonce).trans hmade'.nonce)
  rw [← hmade.sequence, ← hmade'.sequence, hsequence] at hlater
  exact lt_irrefl _ hlater

/-- What a write that is refused leaves. -/
structure Unchanged (s after : Service) (error : String) : Prop where
  store : error ≠ "wifi_apply_failed" → after.store = s.store
  session : after.ble.onboardingSessionId = s.ble.onboardingSessionId ∧
    after.ble.hostPairingSessionId = s.ble.hostPairingSessionId ∧
    after.ble.cryptoSessionId = s.ble.cryptoSessionId
  nonce : after.ble.pairingNonce = s.ble.pairingNonce ∧
    after.ble.lastSequence = s.ble.lastSequence ∧ after.ble.issuedAtUs = s.ble.issuedAtUs
  key : Ready s.ble → after.ble = s.ble

theorem unchanged_of_refused {json : List UInt8} {drawn : Option KeyPair} {s : Service}
    {error : String} (h : (handleEncryptedCredentials env json drawn s).2 = .refused error) :
    Unchanged s (handleEncryptedCredentials env json drawn s).1 error := by
  have hframe := ensureCryptoReady_frame drawn s.ble
  rcases handleEncryptedCredentials_cases env json drawn s with
    ⟨error', ble, store, heq, hble, hstore⟩ | ⟨store, heq⟩ | ⟨root, fields, key, sealed, plaintext,
      store, -, -, -, -, heq⟩
  · rw [heq] at h ⊢
    cases h
    have hset : error ≠ "wifi_apply_failed" → store = s.store := fun hne =>
      hstore.resolve_right hne
    rcases hble with rfl | rfl
    · exact ⟨hset, ⟨rfl, rfl, rfl⟩, ⟨rfl, rfl, rfl⟩, fun _ => rfl⟩
    · refine ⟨hset, ?_, ?_, ?_⟩
      · rw [hframe]
        exact ⟨rfl, rfl, rfl⟩
      · rw [hframe]
        exact ⟨rfl, rfl, rfl⟩
      · intro hready
        rw [ensureCryptoReady_of_ready hready]
  · rw [heq] at h
    cases h
  · rw [heq] at h
    cases h

/-- **An envelope is applied once.** -/
theorem applied_once (env : Environment) (honest : Set Encryption)
    (hideal : Ideal honest env.decrypt) (drawn : Drawn) (now : ℤ) (store : Nvs)
    (events : List Event)
    (hfresh : AllSteps (tracedStep env) NoncesFresh (start drawn now store) events) :
    let t := run (tracedStep env) (start drawn now store) events
    (∀ a ∈ t.applied, ∃ e ∈ honest, MadeFor env a e) ∧
      (t.applied.map (·.sealed)).Nodup ∧
      t.applied.Pairwise Later ∧
      ∀ json fresh error, (handleEncryptedCredentials env json fresh t.service).2 = .refused error →
        Unchanged t.service (handleEncryptedCredentials env json fresh t.service).1 error := by
  have hvalid : Valid env honest (run (tracedStep env) (start drawn now store) events) := by
    revert hfresh
    exact run_invariant (fun t event hs hok => valid_step (t := t) hideal hs hok)
      (valid_start drawn now store)
  refine ⟨hvalid.made, ?_, hvalid.later, ?_⟩
  · rw [List.Nodup, List.pairwise_map]
    refine hvalid.later.imp_of_mem ?_
    intro a b ha hb hlater
    exact sealed_ne_of_later hlater (hvalid.made a ha) (hvalid.made b hb)
  · intro json fresh error hrefused
    exact unchanged_of_refused hrefused

/-! ### A concrete run -/

open HexeVoice.Recovery.IdentityLifetime (keyOf firstDraw secondDraw offerJson writeJson firstEnvelope
  envelopeObject)

/-- What an honest sender encrypts for the first identity. -/
def firstEncryption : Encryption where
  endpointKey := keyOf 1
  supervisorPublicKey := List.replicate 32 3
  onboardingSessionId := .ofAscii "s1"
  targetNodeId := .ofAscii "kitchen"
  pairingNonce := .ofAscii "00000000000000000000000000000001"
  sequence := 1
  expiresAt := .ofAscii "2030-01-01T00:00:00Z"
  nonce := List.replicate 12 4
  plaintext := JsonBytes.ascii "plaintext"
  ciphertext := List.replicate 8 5
  tag := List.replicate 16 6

/-- An envelope with the next number, that nobody encrypted. -/
def forgedEnvelope : EnvelopeFields :=
  { firstEnvelope with
    sequence := 2
    aad := Base64.encode (canonicalAadJson kPayloadSchemaId (.ofAscii "s1") (.ofAscii "kitchen")
      (.ofAscii "00000000000000000000000000000001") 2 (.ofAscii "2030-01-01T00:00:00Z")) }

/-- What is encrypted. -/
def plaintextObject : CJson :=
  .object
    [(.ofAscii "payload_schema_id", .string kPayloadSchemaId),
      (.ofAscii "credential_payload", .object
        [(.ofAscii "wifi_ssid", .string (.ofAscii "home")),
          (.ofAscii "backend_host", .string (.ofAscii "10.0.0.2")),
          (.ofAscii "http_port", .number 8000),
          (.ofAscii "ws_port", .number 8001),
          (.ofAscii "use_tls", .bool false)])]

def forgedJson : List UInt8 := JsonBytes.ascii "forged"

/-- A board that can decrypt the one encryption. -/
def board : Environment where
  config := Firmware.Settings.kitchen
  hardwareId := .ofAscii "esp32-000000000001"
  parse := fun json =>
    if json = offerJson then
      some (.object [(.ofAscii "onboarding_session_id", .string (.ofAscii "s1"))])
    else if json = writeJson then some (envelopeObject firstEnvelope)
    else if json = forgedJson then some (envelopeObject forgedEnvelope)
    else if json = JsonBytes.ascii "plaintext" then some plaintextObject
    else none
  sha256Hex := fun _ => .ofAscii "d1"
  decrypt := fun sealed =>
    if sealed = firstEncryption.sealed then some firstEncryption.plaintext else none

/-- An offer and a write, which is applied. -/
def provisioned : List Event := [.offer offerJson secondDraw 1000000, .write writeJson none]

/-- After a write that was applied there is no key; a forged envelope is refused, but a key is drawn
for it. -/
theorem refused_draws_key :
    let s := (run (tracedStep board) (start firstDraw 0 Nvs.empty) provisioned).service
    let after := handleEncryptedCredentials board forgedJson secondDraw.firstKey s
    after.2 = .refused "aes_gcm_decrypt_failed" ∧
      s.ble.identity.endpointEphemeralPublicKey = .empty ∧
      after.1.ble.identity.endpointEphemeralPublicKey = Base64.encode (List.replicate 32 2) := by
  decide +kernel

/-- The write is applied, and only once. -/
theorem applied_once_provisioned :
    let t := run (tracedStep board) (start firstDraw 0 Nvs.empty)
      (provisioned ++ [.write writeJson secondDraw.firstKey])
    t.applied.map (·.sealed) = [firstEncryption.sealed] ∧
      ∀ a ∈ t.applied, ∃ e ∈ ({firstEncryption} : Set Encryption), MadeFor board a e := by
  have hideal : Ideal {firstEncryption} board.decrypt := by
    intro sealed plaintext h
    simp only [board] at h
    split at h
    · next hsame =>
      rw [Option.some.injEq] at h
      exact ⟨firstEncryption, Set.mem_singleton _, hsame.symm, h⟩
    · cases h
  have hfresh : AllSteps (tracedStep board) NoncesFresh (start firstDraw 0 Nvs.empty)
      (provisioned ++ [.write writeJson secondDraw.firstKey]) := by
    refine ⟨?_, ?_, ?_, trivial⟩
    · intro nonce hnonce
      rw [List.mem_singleton.mp hnonce]
      decide +kernel
    · intro nonce hnonce
      cases hnonce
    · intro nonce hnonce
      cases hnonce
  refine ⟨by decide +kernel, ?_⟩
  exact (applied_once board {firstEncryption} hideal firstDraw 0 Nvs.empty _ hfresh).1

end HexeVoice.Recovery.EnvelopeReplay
