import HexeVoice.Admin.Passcodes
import HexeVoice.Library.Dict
import HexeVoice.Library.Lockout
import HexeVoice.Voice.Contracts
import Mathlib

/-!
# The voice admin maintenance store

`VoiceAdminMaintenanceStore` of `persistence/voice_admin_maintenance.py`: which spoken admin
intents are let through, and the lockout after wrong passcodes.

## The model

An operation runs on the state of the file: `load` and `save` are `get` and `set`, and an
exception leaves the file as it is then. The text of `locked_until` is the instant it denotes; every
text that the store writes denotes one. Each reading of the clock is a parameter of the operation
that takes it (`Clock`). `_hash_passcode` is a parameter, `pbkdf2`: nothing is asked of it.
-/

namespace HexeVoice.Admin

open HexeVoice.Library HexeVoice.Voice

def adminMaintenanceIntentIds : List String :=
  ["admin.debug.start", "admin.debug.stop", "admin.enrollment.start", "admin.enrollment.cancel",
    "admin.placement.start_active", "admin.placement.start_passive_48h", "admin.placement.status",
    "admin.placement.stop", "admin.privacy.status", "admin.privacy.purge_debug_audio",
    "admin.voice.quality.status", "admin.speaker.enrollment.status", "admin.passcode.rotate"]

def passcodeIterations : ℤ := 210000

def minAdminConfidence : ℚ := 0.95

def minAdminScoreMargin : ℚ := 0.15

def maxFailedAttempts : ℤ := 3

def lockoutMinutes : ℤ := 5

/-- `timedelta(minutes=LOCKOUT_MINUTES)`, in microseconds. -/
def lockoutPeriod : ℤ := lockoutMinutes * 60000000

/-- `BAD_AUDIO_WARNINGS`, sorted. -/
def badAudioWarnings : List String :=
  ["clipped", "low_level", "low_snr", "missing_audio", "short_audio", "silent", "unsupported_audio"]

/-! ### The file -/

/-- The stored hash of the passcode; a key that is missing has the empty value. -/
structure PasscodeHash where
  algorithm : String
  iterations : ℤ
  salt : String
  digest : String

structure VoiceAdminMaintenanceState where
  enabled : Bool := false
  adminSpeakerPublicIds : List String := []
  enabledIntents : Dict String Bool := Dict.empty
  passcodeHash : Option PasscodeHash := none
  failedAttempts : ℤ := 0
  lockedUntil : Option ℤ := none

structure AdminMaintenanceDecision where
  allowed : Bool
  reason : String
  intentId : String
  lockedUntil : Option ℤ := none

/-- The exceptions an operation can leave by. -/
inductive StoreError where
  /-- `TypeError`: a naive `datetime` compared with an aware one, or a digest outside ASCII. -/
  | typeError
  /-- `ValueError`, `OverflowError`: a number of iterations that `pbkdf2_hmac` refuses. -/
  | valueError

/-- An operation of the store, on its file. -/
abbrev Store := EStateM StoreError VoiceAdminMaintenanceState

/-- What `datetime.now(UTC)` gives the first and the second time. -/
structure Clock where
  first : ℤ
  second : ℤ

def save (state : VoiceAdminMaintenanceState) : Store VoiceAdminMaintenanceState := do
  set state
  return state

def normalizedEnabledIntents (value : Dict String Bool) : Dict String Bool :=
  ⟨adminMaintenanceIntentIds.map fun intentId => (intentId, (value.get intentId).getD false)⟩

def clearExpiredLockout (state : VoiceAdminMaintenanceState) (now : Datetime) :
    Store VoiceAdminMaintenanceState :=
  match state.lockedUntil with
  | none => return state
  | some lockedUntil =>
    if !now.aware then throw .typeError
    else if now.micros < lockedUntil then return state
    else save { state with lockedUntil := none, failedAttempts := 0 }

/-! ### Settings -/

/-- The answer of `status`. -/
structure Status where
  enabled : Bool
  adminSpeakerPublicIds : List String
  enabledIntents : Dict String Bool
  passcodeConfigured : Bool
  passcodeStorage : Option String
  failedAttempts : ℤ
  locked : Bool
  lockedUntil : Option ℤ

def status (now : ℤ) : Store Status := do
  let state ← clearExpiredLockout (← get) ⟨now, true⟩
  return {
    enabled := state.enabled
    adminSpeakerPublicIds := state.adminSpeakerPublicIds
    enabledIntents := normalizedEnabledIntents state.enabledIntents
    passcodeConfigured := state.passcodeHash.isSome
    passcodeStorage := if state.passcodeHash.isSome then some "pbkdf2_sha256" else none
    failedAttempts := state.failedAttempts
    locked := state.lockedUntil.isSome
    lockedUntil := state.lockedUntil }

/-- `sorted({item.strip() for item in ids if item.strip()})`. -/
def sortedIds (ids : List String) : List String :=
  ((ids.map strip).filter (· ≠ "")).dedup.insertionSort (· ≤ ·)

def updateSettings (enabled : Option Bool) (adminSpeakerPublicIds : Option (List String))
    (enabledIntents : Option (Dict String Bool)) (clock : Clock) : Store Status := do
  let state ← clearExpiredLockout (← get) ⟨clock.first, true⟩
  let _ ← save { state with
    enabled := enabled.getD state.enabled
    adminSpeakerPublicIds :=
      (adminSpeakerPublicIds.map sortedIds).getD state.adminSpeakerPublicIds
    enabledIntents := (enabledIntents.map normalizedEnabledIntents).getD state.enabledIntents }
  status clock.second

/-! ### Checks -/

/-- A number of a payload; an infinite one is as a large one to the bounds here. -/
inductive Number where
  | value (q : ℚ)
  | nan

/-- `number < bound`. -/
def Number.below : Number → ℚ → Bool
  | value q, bound => q < bound
  | nan, _ => false

/-- What is known of the speaker. -/
structure SpeakerIdentity where
  status : Option String
  speakerPublicId : Option String
  /-- `admin_eligible is True`. -/
  adminEligible : Bool
  confidence : Option Number
  scoreMargin : Option Number

/-- What is known of the recording. -/
structure AudioQuality where
  warnings : List String

def speakerRejectionReason (speaker : Option SpeakerIdentity) (adminIds : List String) :
    Option String :=
  match speaker with
  | none => some "admin_speaker_missing"
  | some speaker =>
    let speakerId := strip (speaker.speakerPublicId.getD "")
    if speaker.status ≠ some "identified" ∧ speaker.status ≠ some "verified" then
      some "admin_speaker_not_identified"
    else if speakerId = "" ∨ speakerId ∉ adminIds then some "admin_speaker_not_configured"
    else if !speaker.adminEligible then some "admin_speaker_not_eligible"
    else if speaker.confidence.all (·.below minAdminConfidence) then
      some "admin_speaker_confidence_too_low"
    else if speaker.scoreMargin.all (·.below minAdminScoreMargin) then
      some "admin_speaker_margin_too_low"
    else none

def audioRejectionReason (audioQuality : Option AudioQuality) : Option String :=
  match audioQuality with
  | none => some "admin_audio_quality_missing"
  | some quality =>
    (badAudioWarnings.find? (· ∈ quality.warnings)).map ("admin_audio_quality_" ++ ·)

/-- The hash to check the passcode against, or the decision without a look at the passcode: the
checks of `evaluate` up to there. -/
def admitted (state : VoiceAdminMaintenanceState) (intent : String)
    (speaker : Option SpeakerIdentity) (audioQuality : Option AudioQuality) :
    Except AdminMaintenanceDecision PasscodeHash := do
  if !state.enabled then throw ⟨false, "admin_maintenance_disabled", intent, none⟩
  if intent ∉ adminMaintenanceIntentIds then throw ⟨false, "admin_intent_unknown", intent, none⟩
  if (normalizedEnabledIntents state.enabledIntents).get intent ≠ some true then
    throw ⟨false, "admin_intent_disabled", intent, none⟩
  if state.lockedUntil.isSome then
    throw ⟨false, "admin_maintenance_locked", intent, state.lockedUntil⟩
  let some hashed := state.passcodeHash
    | throw ⟨false, "admin_passcode_not_configured", intent, none⟩
  if let some reason := speakerRejectionReason speaker state.adminSpeakerPublicIds then
    throw ⟨false, reason, intent, none⟩
  if let some reason := audioRejectionReason audioQuality then
    throw ⟨false, reason, intent, none⟩
  return hashed

/-! ### Passcodes -/

section passcodes

variable (t : CharTable) (pbkdf2 : String → String → ℤ → Except StoreError String)

def verifyPasscode (passcode : String) (hashed : PasscodeHash) : Except StoreError Bool := do
  if hashed.algorithm ≠ "pbkdf2_sha256" then return false
  let iterations := if hashed.iterations = 0 then passcodeIterations else hashed.iterations
  let hash ← pbkdf2 passcode hashed.salt iterations
  if hashed.digest.toList.any (128 ≤ ·.toNat) then throw .typeError
  return hash = hashed.digest

def failedPasscode (state : VoiceAdminMaintenanceState) (intent reason : String) (now : Datetime) :
    Store AdminMaintenanceDecision := do
  let failedAttempts := state.failedAttempts + 1
  let lockedUntil :=
    if maxFailedAttempts ≤ failedAttempts then some (now.micros + lockoutPeriod) else none
  let _ ← save { state with failedAttempts, lockedUntil }
  return ⟨false, if lockedUntil.isSome then "admin_maintenance_locked" else reason, intent,
    lockedUntil⟩

/-- What is wrong with the passcode, if anything is. -/
def passcodeFailure (text : String) (hashed : PasscodeHash) :
    Except StoreError (Option String) := do
  let some passcode := extractSpokenPasscode t text | return some "admin_passcode_missing"
  if !(← verifyPasscode pbkdf2 passcode hashed) then return some "admin_passcode_wrong"
  return none

def evaluate (text : String) (intentId : Option String) (speaker : Option SpeakerIdentity)
    (audioQuality : Option AudioQuality) (now : Option Datetime) (clock : Clock) :
    Store AdminMaintenanceDecision := do
  let state ← clearExpiredLockout (← get) (now.getD ⟨clock.first, true⟩)
  let nowDt := now.getD ⟨clock.second, true⟩
  let intent := strip (intentId.getD "")
  match admitted state intent speaker audioQuality with
  | .error decision => return decision
  | .ok hashed =>
    match passcodeFailure t pbkdf2 text hashed with
    | .error error => throw error
    | .ok (some reason) => failedPasscode state intent reason nowDt
    | .ok none =>
      if state.failedAttempts ≠ 0 then
        let _ ← save { state with failedAttempts := 0, lockedUntil := none }
      return ⟨true, "admin_maintenance_allowed", intent, none⟩

end passcodes

end HexeVoice.Admin
