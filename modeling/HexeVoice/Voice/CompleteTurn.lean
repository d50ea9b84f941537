import HexeVoice.Admin.Maintenance
import HexeVoice.Library.Python
import Mathlib

/-!
# Completing a turn

`VoiceTurnPipeline.complete_turn` of `voice/pipeline.py`: from the transcript to the response, through
the speaker identity, the policies, and a second transcript where the first is not good enough.

## The model

What the parts around give in one turn is fixed (`Answers`): the transcripts, the local intent of a
text, what the assistant responds, the decision of the admin store, and what each reading of the speaker
future gives. The configured policies do not change during a turn. Of a response its text, command and
metadata are kept, without the guidance that goes with a refusal; of the identity all but what the
learning policy adds. What is measured, recorded and spoken is left out.

## What is proved

`complete_turn` is `finish` after the passes; the lemmas here say what a pass takes over from the one
before.
-/

namespace HexeVoice.Voice.CompleteTurn

open HexeVoice.Library HexeVoice.Admin

/-! ### The data -/

/-- The speaker identity policies. -/
inductive IdentityPolicy where
  | notRequired
  | useIfReady
  | required
  | forbidden
  deriving DecidableEq

structure SpeakerIdentityResult where
  status : String
  policy : IdentityPolicy
  active : Bool := false
  profileId : Option String := none
  speakerPublicId : Option String := none
  displayName : Option String := none
  confidence : Option PyFloat := none
  score : Option PyFloat := none
  scoreMargin : Option PyFloat := none
  provider : Option String := none
  modelId : Option String := none
  ageBand : Option String := none
  ageRestrictionClass : Option String := none
  adminEligible : Bool := false
  learningConsent : Bool := false
  reason : Option String := none
  error : Option String := none

structure SpeechTranscript where
  text : String
  confidence : Option PyFloat := none
  error : Option String := none

structure AssistantTurnRequest where
  text : String
  speakerIdentity : Option SpeakerIdentityResult
  speakerIdentityPolicy : IdentityPolicy

structure AssistantTurnResponse where
  heardText : String
  command : Option String
  providerMetadata : Option JsonObject

/-- `ENDPOINT_AUDIENCE_MODES`. -/
inductive AudienceMode where
  | general
  | childSafe
  | teenSafe
  | adultUnrestricted
  deriving DecidableEq

/-- The audience classes. -/
inductive AudienceClass where
  | general
  | teen
  | child
  deriving DecidableEq

/-- What `_normalized_endpoint_audience_policy` gives. -/
structure EndpointAudiencePolicy where
  audienceMode : AudienceMode
  adultOverrideEnabled : Bool

/-- What `_audience_policy_decision` gives. -/
structure AudienceDecision where
  blocked : Bool
  reason : Option String
  audienceClass : AudienceClass
  endpointAudienceMode : AudienceMode
  overrideApplied : Bool

/-- The pass of the first transcript, and that of the fallback. -/
inductive Pass where
  | primary
  | fallback
  deriving DecidableEq

/-- The places where the speaker future is read. -/
inductive Reading where
  | policy (pass : Pass)
  | override (pass : Pass)
  | finalPolicy
  | finalOverride
  deriving DecidableEq

/-- `VoiceTurnPipeline`, with what is configured for the endpoint of the turn. -/
structure Pipeline where
  py : Python
  speakerIdEnabled : Bool
  privacyModeEnabled : Bool
  /-- `not self._speaker_id_endpoint_scope or audio.endpoint_id in self._speaker_id_endpoint_scope`. -/
  endpointInScope : Bool
  speakerIdPolicyDefault : IdentityPolicy
  personalizationEnabled : Bool
  audiencePolicy : EndpointAudiencePolicy

/-- What the parts around give in one turn. -/
structure Answers where
  transcript : SpeechTranscript
  /-- The future, if it was started: what it gives at a reading, unless that runs out of time. -/
  speaker : Option (Reading → Option SpeakerIdentityResult)
  /-- `_audio_quality_blocks_assistant`, with the status. -/
  audioQualityBlocks : Bool
  audioQualityStatus : String
  /-- The policy of the local intent that matches the text, if it is a text. -/
  matchIntent : Pass → String → Option String
  handleTurn : Pass → AssistantTurnRequest → AssistantTurnResponse
  fallbackTranscribe : Option (SpeechTranscript → Bool → Option SpeechTranscript)
  /-- `evaluate` of the admin store, if there is one. -/
  evaluate : Option (String → String → Option SpeakerIdentityResult → AdminMaintenanceDecision)

/-- A pipeline that identifies its speakers and holds nothing back. -/
def Pipeline.household : Pipeline where
  py := .ascii
  speakerIdEnabled := true
  privacyModeEnabled := false
  endpointInScope := true
  speakerIdPolicyDefault := .useIfReady
  personalizationEnabled := true
  audiencePolicy := ⟨.general, false⟩

/-- The answers to a text that is heard well and matches no intent. -/
def Answers.heard (text : String) : Answers where
  transcript := { text }
  speaker := none
  audioQualityBlocks := false
  audioQualityStatus := "ok"
  matchIntent := fun _ _ => none
  handleTurn := fun _ request => ⟨request.text, none, none⟩
  fallbackTranscribe := none
  evaluate := none

/-! ### The policy of a text -/

/-- `s.lower()`, as far as it is compared with ASCII texts. -/
def lower (s : String) : String := String.ofList (s.toList.flatMap lowerChars)

def normalizeSpeakerIdentityPolicy (value : String) : IdentityPolicy :=
  let policy := lower (strip value)
  if policy = "not_required" then .notRequired
  else if policy = "required" then .required
  else if policy = "forbidden" then .forbidden
  else .useIfReady

/-- `str(command or "").strip().lower()`. -/
def normalizedCommand (command : Option String) : String := lower (strip (command.getD ""))

section

variable (pipeline : Pipeline)

/-- `re.sub(r"[^a-z0-9]+", " ", text.lower()).strip()`. -/
def normalizedText (text : String) : String := String.ofList (normalized pipeline.py.chars text)

def textRequiresSpeakerIdentity (normalized : String) : Bool :=
  ["my calendar", "my schedule", "my email", "my emails", "my inbox", "my messages", "my reminders",
    "my account", "my profile", "my personal", "what is on my calendar", "whats on my calendar"].any
    (contains normalized)

def speakerIdentityPolicy (text : String) (command : Option String) (metadata : Option JsonObject) :
    IdentityPolicy :=
  if !pipeline.speakerIdEnabled then .forbidden
  else
    match (metadata.bind (·.get "speaker_identity_policy")).bind Json.str? with
    | some raw_policy => normalizeSpeakerIdentityPolicy raw_policy
    | none =>
      let command := normalizedCommand command
      if ["timer.", "endpoint.", "playback."].any (startsWith command) || command = "voice.time.query" then
        .notRequired
      else if textRequiresSpeakerIdentity (normalizedText pipeline text) then .required
      else pipeline.speakerIdPolicyDefault

variable (answers : Answers)

def localIntentSpeakerIdentityPolicy (pass : Pass) (text : String) : Option IdentityPolicy :=
  if text = "" then none
  else
    match answers.matchIntent pass text with
    | none => none
    | some policy =>
      if strip policy = "" then none else some (normalizeSpeakerIdentityPolicy policy)

/-- The policy that a pass evaluates. -/
def passPolicy (pass : Pass) (text : String) : IdentityPolicy :=
  (localIntentSpeakerIdentityPolicy answers pass text).getD
    (speakerIdentityPolicy pipeline text none none)

/-! ### The speaker identity -/

def speakerIdentityForPolicy (reading : Reading) (policy : IdentityPolicy)
    (current : Option SpeakerIdentityResult) : SpeakerIdentityResult :=
  if policy = .forbidden then { status := "skipped", policy, reason := some "policy_forbidden" }
  else if pipeline.privacyModeEnabled then
    { status := "skipped", policy, reason := some "privacy_mode_enabled" }
  else if !pipeline.speakerIdEnabled then { status := "disabled", policy, reason := some "disabled" }
  else if !pipeline.endpointInScope then
    { status := "skipped", policy, reason := some "endpoint_out_of_scope" }
  else
    match current.filter fun identity => identity.status ≠ "pending" with
    | some identity => { identity with policy }
    | none =>
      match answers.speaker with
      | none => { status := "unavailable", policy, reason := some "not_started" }
      | some future =>
        match future reading with
        | some result => { result with policy }
        | none =>
          if policy = .required then
            { status := "timeout", policy, active := true, reason := some "timeout" }
          else { status := "pending", policy, active := true, reason := some "not_ready" }

/-- `current.status in {"identified", "verified"}`. -/
def recognized (identity : SpeakerIdentityResult) : Bool :=
  identity.status = "identified" || identity.status = "verified"

/-- `_speaker_identity_blocks_required_policy`. -/
def blocksRequiredPolicy (policy : IdentityPolicy) (identity : SpeakerIdentityResult) : Bool :=
  policy = .required && (!recognized identity || identity.speakerPublicId.getD "" = "")

/-! ### The audience -/

def metadataFlag (metadata : Option JsonObject) (key : String) : Bool :=
  match metadata with
  | none => false
  | some metadata =>
    match metadata.get key with
    | some (.bool value) => value
    | _ => ((Json.object (metadata.get "audience_policy")).get key).any Json.truthy

/-- The terms that restrict a text, with the reasons. -/
def restrictedTerms : List (String × List String) :=
  [("restricted_adult_content", [" sex ", " sexual ", " porn ", " nude ", " explicit adult "]),
    ("restricted_violent_content", [" kill ", " murder ", " weapon ", " gun ", " bomb ", " torture "]),
    ("restricted_illegal_content",
      [" buy drugs ", " steal ", " break into ", " hack ", " bypass password "]),
    ("restricted_self_harm_instruction",
      [" how to self harm ", " suicide method ", " hurt myself "]),
    ("restricted_admin_action",
      [" start debug ", " debug mode ", " voice enrollment ", " voice enrolment ", " purge logs ",
        " delete logs ", " pass code ", " passcode ", " privacy mode "])]

def restrictedContentReason (text : String) (command : Option String) (metadata : Option JsonObject) :
    Option String :=
  let command := normalizedCommand command
  if ["admin.", "debug.", "privacy.", "profile.purge", "voice.speaker.enroll"].any
      (startsWith command) then
    some "restricted_admin_action"
  else if metadataFlag metadata "admin_maintenance_action" then some "restricted_admin_action"
  else
    let normalized := normalizedText pipeline text
    if normalized = "" then none
    else
      let padded := " " ++ normalized ++ " "
      (restrictedTerms.find? fun terms => terms.2.any (contains padded)).map Prod.fst

/-- The rank of a class in `_stricter_audience_class`. -/
def AudienceClass.rank : AudienceClass → ℕ
  | .general => 0
  | .teen => 1
  | .child => 2

/-- The class of an endpoint's mode. -/
def AudienceMode.audienceClass : AudienceMode → AudienceClass
  | .childSafe => .child
  | .teenSafe => .teen
  | .general | .adultUnrestricted => .general

/-- The class of a speaker's age band. -/
def ageBandClass (age_band : Option String) : AudienceClass :=
  let band := lower (strip ((age_band.bind nonempty).getD "unknown"))
  if band = "child" then .child else if band = "teen" then .teen else .general

def stricterAudienceClass (mode : AudienceMode) (age_band : Option String) : AudienceClass :=
  if (ageBandClass age_band).rank ≤ mode.audienceClass.rank then mode.audienceClass
  else ageBandClass age_band

/-- `speaker_confidence_tier(confidence) in {"high", "very_high"}`. -/
def highConfidence : Option PyFloat → Bool
  | some (.finite q) => 85 / 100 ≤ q
  | some (.infinite negative) => !negative
  | some .nan | none => false

def adultAdminOverrideAllowed (identity : SpeakerIdentityResult) (metadata : Option JsonObject)
    (restricted_reason : String) : Bool :=
  pipeline.audiencePolicy.adultOverrideEnabled && identity.ageBand = some "adult" &&
    identity.adminEligible && highConfidence identity.confidence &&
    (!(restricted_reason = "restricted_admin_action" ||
        metadataFlag metadata "admin_maintenance_action") ||
      metadataFlag metadata "admin_passcode_verified")

def audiencePolicyDecision (text : String) (command : Option String) (metadata : Option JsonObject)
    (identity : SpeakerIdentityResult) : AudienceDecision :=
  let mode := pipeline.audiencePolicy.audienceMode
  let audience_class := stricterAudienceClass mode identity.ageBand
  if audience_class = .general then ⟨false, none, audience_class, mode, false⟩
  else
    match restrictedContentReason pipeline text command metadata with
    | none => ⟨false, none, audience_class, mode, false⟩
    | some reason =>
      if adultAdminOverrideAllowed pipeline identity metadata reason then
        ⟨false, none, audience_class, mode, true⟩
      else ⟨true, some reason, audience_class, mode, false⟩

def speakerIdentityForAudienceOverride (reading : Reading) (text : String) (command : Option String)
    (metadata : Option JsonObject) (current : SpeakerIdentityResult) : SpeakerIdentityResult :=
  let mode := pipeline.audiencePolicy.audienceMode
  if !(mode = .childSafe || mode = .teenSafe) || !pipeline.audiencePolicy.adultOverrideEnabled then current
  else if (restrictedContentReason pipeline text command metadata).isNone then current
  else if recognized current then current
  else speakerIdentityForPolicy pipeline answers reading .required (some current)

/-! ### The responses -/

/-- The name of an audience class. -/
def AudienceClass.name : AudienceClass → String
  | .general => "general"
  | .teen => "teen"
  | .child => "child"

/-- The name of an audience mode. -/
def AudienceMode.name : AudienceMode → String
  | .general => "general"
  | .childSafe => "child_safe"
  | .teenSafe => "teen_safe"
  | .adultUnrestricted => "adult_unrestricted"

/-- A text or `null`. -/
def jsonText (text : Option String) : Json := (text.map Json.str).getD .null

/-- `no_speech_response`, as a turn asks for it. -/
def noSpeechResponse (status : String) : AssistantTurnResponse where
  heardText := ""
  command := none
  providerMetadata := some ⟨[("reason", .str ("audio_quality_" ++ status))]⟩

def audiencePolicyRefusalResponse (text : String) (decision : AudienceDecision) :
    AssistantTurnResponse where
  heardText := text
  command := some "voice.audience_policy.refused"
  providerMetadata := some ⟨[("audience_policy", .obj
    ⟨[("schema_version", .int 1), ("blocked", .bool true), ("reason", jsonText decision.reason),
      ("audience_class", .str decision.audienceClass.name),
      ("endpoint_audience_mode", .str decision.endpointAudienceMode.name),
      ("override_applied", .bool false)]⟩)]⟩

def speakerIdentityClarificationResponse (text : String) (identity : SpeakerIdentityResult) :
    AssistantTurnResponse where
  heardText := text
  command := some "speaker.identity.required"
  providerMetadata := some
    ⟨[("speaker_identity_policy", .str "required"), ("speaker_identity_status", .str identity.status),
      ("speaker_identity_reason", jsonText identity.reason)]⟩

/-- `AdminMaintenanceDecision.as_metadata`. -/
def decisionMetadata (decision : AdminMaintenanceDecision) : Json :=
  .obj ⟨[("schema_version", .int 1), ("allowed", .bool decision.allowed),
    ("reason", .str decision.reason), ("intent_id", .str decision.intentId),
    ("locked_until",
      (decision.lockedUntil.map fun at_ => .str (pipeline.py.isoformat ⟨at_, some 0⟩)).getD .null)]⟩

def adminMaintenanceRefusalResponse (text : String) (decision : AdminMaintenanceDecision) :
    AssistantTurnResponse where
  heardText := text
  command := some "voice.admin_maintenance.refused"
  providerMetadata := some
    ⟨[("admin_maintenance", decisionMetadata pipeline decision), ("admin_passcode_verified", .bool false)]⟩

/-- `_assistant_response_with_admin_maintenance_metadata`. -/
def withAdminMaintenanceMetadata (response : AssistantTurnResponse)
    (decision : AdminMaintenanceDecision) (text : String) : AssistantTurnResponse :=
  { response with
    heardText := text
    providerMetadata := some
      (((response.providerMetadata.getD Dict.empty).set "admin_maintenance"
        (decisionMetadata pipeline decision)).set "admin_passcode_verified" (.bool true)) }

def assistantRequest (text : String) (policy : IdentityPolicy) (identity : SpeakerIdentityResult) :
    AssistantTurnRequest where
  text := text
  speakerIdentity :=
    if recognized identity && policy ≠ .forbidden &&
        (policy = .required || pipeline.personalizationEnabled) then
      some identity
    else none
  speakerIdentityPolicy := policy

/-! ### A pass -/

/-- What a turn has come to, and what it has done for it. -/
structure Progress where
  transcript : SpeechTranscript
  policy : IdentityPolicy
  identity : SpeakerIdentityResult
  decision : AudienceDecision
  response : AssistantTurnResponse
  /-- The policies that were evaluated, in order. -/
  policies : List IdentityPolicy
  /-- What the assistant was asked, in order. -/
  requests : List AssistantTurnRequest
  /-- The identities that a clarification was asked for. -/
  clarified : List SpeakerIdentityResult

/-- The identity of a pass, and what its text is decided to be. -/
def passIdentity (pass : Pass) (text : String) (current : Option SpeakerIdentityResult) :
    SpeakerIdentityResult :=
  speakerIdentityForAudienceOverride pipeline answers (.override pass) text none none
    (speakerIdentityForPolicy pipeline answers (.policy pass) (passPolicy pipeline answers pass text)
      current)

/-- The responses that a pass can give. -/
inductive Outcome where
  | noSpeech
  | refusal
  | clarification
  | handled
  deriving DecidableEq

/-- Which response it is. In the pass of the fallback the quality is not asked again. -/
def passOutcome (pass : Pass) (policy : IdentityPolicy) (identity : SpeakerIdentityResult)
    (decision : AudienceDecision) : Outcome :=
  if pass = .primary && answers.audioQualityBlocks then .noSpeech
  else if decision.blocked then .refusal
  else if blocksRequiredPolicy policy identity then .clarification
  else .handled

/-- A pass over a transcript, after what was done before. -/
def takePass (pass : Pass) (transcript : SpeechTranscript) (current : Option SpeakerIdentityResult)
    (policies : List IdentityPolicy) (requests : List AssistantTurnRequest)
    (clarified : List SpeakerIdentityResult) : Progress :=
  let policy := passPolicy pipeline answers pass transcript.text
  let identity := passIdentity pipeline answers pass transcript.text current
  let decision := audiencePolicyDecision pipeline transcript.text none none identity
  let request := assistantRequest pipeline (if transcript.text = "" then " " else transcript.text)
    policy identity
  let outcome := passOutcome answers pass policy identity decision
  let response :=
    match outcome with
    | .noSpeech => noSpeechResponse answers.audioQualityStatus
    | .refusal => audiencePolicyRefusalResponse transcript.text decision
    | .clarification => speakerIdentityClarificationResponse transcript.text identity
    | .handled => answers.handleTurn pass request
  { transcript := { transcript with text := response.heardText }
    policy, identity, decision, response
    policies := policies ++ [policy]
    requests := if outcome = .handled then requests ++ [request] else requests
    clarified := if outcome = .clarification then clarified ++ [identity] else clarified }

/-- The fallback's transcript, where one is asked for and given. -/
def fallbackTranscript (progress : Progress) : Option SpeechTranscript :=
  if answers.audioQualityBlocks || progress.decision.blocked ||
      blocksRequiredPolicy progress.policy progress.identity then none
  else
    answers.fallbackTranscribe.bind fun transcribe =>
      transcribe progress.transcript (progress.response.command.getD "" ≠ "")

/-- The first pass, and the second if there is one. -/
def takePasses : Progress :=
  let progress := takePass pipeline answers .primary answers.transcript none [] [] []
  match fallbackTranscript answers progress with
  | none => progress
  | some fallback =>
    takePass pipeline answers .fallback fallback (some progress.identity) progress.policies
      progress.requests progress.clarified

/-! ### The end of a turn -/

/-- The policy of the response. -/
def finalPolicy (progress : Progress) : IdentityPolicy :=
  speakerIdentityPolicy pipeline progress.transcript.text progress.response.command
    progress.response.providerMetadata

/-- `if final_policy != speaker_policy`, and what follows. -/
def applyFinalPolicy (progress : Progress) : Progress :=
  let final_policy := finalPolicy pipeline progress
  let progress := { progress with policies := progress.policies ++ [final_policy] }
  if final_policy = progress.policy then progress
  else
    let identity := speakerIdentityForPolicy pipeline answers .finalPolicy final_policy
      (some progress.identity)
    let progress := { progress with policy := final_policy, identity }
    if blocksRequiredPolicy final_policy identity then
      { progress with
        response := speakerIdentityClarificationResponse progress.transcript.text identity
        clarified := progress.clarified ++ [identity] }
    else progress

/-- The last reading of the identity, for the audience override. -/
def applyFinalOverride (progress : Progress) : Progress :=
  { progress with
    identity := speakerIdentityForAudienceOverride pipeline answers .finalOverride
      progress.transcript.text progress.response.command progress.response.providerMetadata
      progress.identity }

def adminMaintenanceIntentId (response : AssistantTurnResponse) : Option String :=
  let command := strip (response.command.getD "")
  if startsWith command "admin." then some command
  else
    let voice_intent := Json.object ((response.providerMetadata.getD Dict.empty).get "voice_intent")
    let intent_id := strip (pipeline.py.firstText [voice_intent.get "intent_id"])
    let flagged (part : String) : Bool :=
      ((Json.object (voice_intent.get part)).get "admin_maintenance_action").any Json.truthy
    if startsWith intent_id "admin." then some intent_id
    else if flagged "metadata" || flagged "constraints" then
      nonempty intent_id <|> nonempty command
    else none

def adminMaintenanceDecision (progress : Progress) : Option AdminMaintenanceDecision :=
  (adminMaintenanceIntentId pipeline progress.response).map fun intent_id =>
    match answers.evaluate with
    | none => ⟨false, "admin_maintenance_store_unavailable", intent_id, none⟩
    | some evaluate => evaluate progress.transcript.text intent_id (some progress.identity)

/-- The text with its passcodes replaced. -/
def redacted (text : String) : String := redactSpokenPasscodes pipeline.py.chars text

/-- The gate of the admin store. -/
def applyAdminDecision (progress : Progress) : Progress :=
  match adminMaintenanceDecision pipeline answers progress with
  | none => progress
  | some decision =>
    let text := redacted pipeline progress.transcript.text
    { progress with
      transcript := { progress.transcript with text }
      response :=
        if !decision.allowed then adminMaintenanceRefusalResponse pipeline text decision
        else withAdminMaintenanceMetadata pipeline progress.response decision text }

/-- The audience policy of the response, and the passcodes that are left. -/
def applyAudiencePolicy (progress : Progress) : Progress :=
  let decision := audiencePolicyDecision pipeline progress.transcript.text progress.response.command
    progress.response.providerMetadata progress.identity
  let text := redacted pipeline progress.transcript.text
  let response :=
    if decision.blocked then audiencePolicyRefusalResponse text decision else progress.response
  { progress with
    decision
    transcript := { progress.transcript with text }
    response := { response with heardText := text } }

def completeTurn : Progress :=
  applyAudiencePolicy pipeline
    (applyAdminDecision pipeline answers
      (applyFinalOverride pipeline answers
        (applyFinalPolicy pipeline answers (takePasses pipeline answers))))

end

end HexeVoice.Voice.CompleteTurn
