import HexeVoice.Voice.CompleteTurn
import Mathlib

/-!
# The assistant of a turn

`AssistantTurnService.handle_turn` of `assistant/service.py`, and what it does in a turn of the pipeline.

## The model

The wake words, the intent finder, the classifier and the adapter are parameters (`Assistant`), which may
give something else in the second pass. What a turn does besides answering is a list of `Effect`s: the
event of a recognized intent, a timer request or an endpoint command, and a follow-up that is stored or
cleared. Latencies and the texts of the replies are left out.
-/

namespace HexeVoice.Voice.CompleteTurn

open HexeVoice.Library HexeVoice.Admin

variable {request : AssistantTurnRequest}

/-- `LocalIntentMatch`, with its timer resolved. -/
structure IntentMatch where
  intent : String
  command : String
  slots : JsonObject := .empty
  providerId : String := "local_pattern"
  intentName : Option String := none
  serviceId : Option String := none
  version : Option String := none
  /-- There is a `conversation_followup`. -/
  asksFollowup : Bool := false
  constraints : Option JsonObject := none
  metadata : Option JsonObject := none
  speakerIdentityPolicy : Option String := none

/-- What `_classify_missed_intent` makes of a classification. -/
inductive Classification where
  | intent (intent : IntentMatch) (providerMetadata : Option JsonObject)
  /-- A clarification or chat, with a text. -/
  | text (providerMetadata : Option JsonObject)

/-- `AssistantTurnService`, in one turn. -/
structure Assistant where
  chars : CharTable
  stripWakeWords : String → String
  find : Pass → String → Option IntentMatch
  classify : Pass → AssistantTurnRequest → Option Classification
  adapter : Pass → AssistantTurnRequest → AssistantTurnResponse
  /-- There is an endpoint command dispatcher. -/
  hasDispatcher : Bool
  /-- The slots of a timer intent make a request. -/
  makesRequest : IntentMatch → Bool
  /-- There is a pending follow-up that has not expired. -/
  pendingFollowup : Pass → Bool

/-- An assistant that takes every text for one intent. -/
def Assistant.matching (intent : IntentMatch) : Assistant where
  chars := .ascii
  stripWakeWords := strip
  find := fun _ _ => some intent
  classify := fun _ _ => none
  adapter := fun _ request => ⟨request.text, none, none⟩
  hasDispatcher := true
  makesRequest := fun _ => true
  pendingFollowup := fun _ => false

/-! ### Matched intents -/

/-- `isinstance(value, dict) and value.get("admin_maintenance_action")`. -/
def adminFlag (value : Option JsonObject) : Bool :=
  (value.bind (·.get "admin_maintenance_action")).any Json.truthy

/-- The text of the intent is redacted. -/
def IntentMatch.redacted (intent : IntentMatch) : Bool :=
  startsWith (strip intent.command) "admin." || adminFlag intent.metadata || adminFlag intent.constraints

/-- `_recorded_heard_text_for_intent`. -/
def recordedHeardText (chars : CharTable) (intent : IntentMatch) (heard_text : String) : String :=
  if intent.redacted then redactSpokenPasscodes chars heard_text else heard_text

def intentProviderMetadata (intent : IntentMatch) : JsonObject :=
  ⟨[("voice_intent", .obj
      ⟨[("intent_id", .str intent.intent), ("intent_name", jsonText intent.intentName),
        ("service_id", jsonText intent.serviceId), ("version", jsonText intent.version),
        ("provider_id", .str intent.providerId),
        ("metadata", .obj (intent.metadata.getD .empty)),
        ("constraints", .obj (intent.constraints.getD .empty))]⟩),
    ("speaker_identity_policy",
      .str ((intent.speakerIdentityPolicy.bind nonempty).getD "use_if_ready"))]⟩

/-- The response of `_handle_matched_intent`. -/
def matchedResponse (chars : CharTable) (intent : IntentMatch) (heard_text : String) :
    AssistantTurnResponse where
  heardText := recordedHeardText chars intent heard_text
  command := some intent.command
  providerMetadata := some (intentProviderMetadata intent)

namespace Assistant

variable (assistant : Assistant)

/-- The request without its wake words. -/
def heard (request : AssistantTurnRequest) : AssistantTurnRequest :=
  { request with text := assistant.stripWakeWords request.text }

/-- The intent that is matched, by the finder or by the classifier. -/
def matched (pass : Pass) (request : AssistantTurnRequest) : Option IntentMatch :=
  let heard := assistant.heard request
  if heard.text = "" then none
  else
    match assistant.find pass heard.text with
    | some intent => some intent
    | none =>
      match assistant.classify pass heard with
      | some (.intent intent _) => some intent
      | _ => none

def handleTurn (pass : Pass) (request : AssistantTurnRequest) : AssistantTurnResponse :=
  let heard := assistant.heard request
  if heard.text = "" then ⟨"", none, some ⟨[("reason", .str "empty_transcript")]⟩⟩
  else
    match assistant.find pass heard.text with
    | some intent => matchedResponse assistant.chars intent heard.text
    | none =>
      match assistant.classify pass heard with
      | some (.intent intent providerMetadata) =>
        { matchedResponse assistant.chars intent heard.text with
          providerMetadata := some ((intentProviderMetadata intent).set "ai_intent_classifier"
            (.obj (providerMetadata.getD .empty))) }
      | some (.text providerMetadata) => ⟨heard.text, none, providerMetadata⟩
      | none => assistant.adapter pass heard

/-- What the response to a matched intent says of it. -/
theorem handleTurn_matched {pass : Pass} {intent : IntentMatch}
    (h : assistant.matched pass request = some intent) :
    (assistant.handleTurn pass request).heardText =
        recordedHeardText assistant.chars intent (assistant.heard request).text ∧
      (assistant.handleTurn pass request).command = some intent.command := by
  have hheard : (assistant.heard request).text ≠ "" := by
    intro hempty
    simp only [matched, if_pos hempty] at h
    cases h
  simp only [matched, if_neg hheard] at h
  simp only [handleTurn, if_neg hheard]
  cases hfound : assistant.find pass (assistant.heard request).text with
  | some found =>
    rw [hfound] at h
    obtain rfl := Option.some.inj h
    simp only [matchedResponse, and_self]
  | none =>
    rw [hfound] at h
    simp only at h ⊢
    match hclassified : assistant.classify pass (assistant.heard request) with
    | some (.intent classified providerMetadata) =>
      rw [hclassified] at h
      obtain rfl := Option.some.inj h
      simp only [matchedResponse, and_self]
    | some (.text providerMetadata) =>
      rw [hclassified] at h
      cases h
    | none =>
      rw [hclassified] at h
      cases h

end Assistant

/-! ### Effects -/

/-- What a matched intent does. -/
inductive Effect where
  | intentRecognized (intent : IntentMatch)
  | timerRequested (command : String)
  | endpointCommand (command : String)
  | followupStored (intent : String)
  | followupCleared

/-- The commands of timers. -/
def timerCommands : List String :=
  ["timer.create", "timer.status", "timer.stop", "timer.cancel", "timer.adjust_time", "timer.snooze"]

/-- The commands of endpoints. -/
def endpointCommands : List String :=
  ["playback.stop", "playback.repeat", "endpoint.volume.set", "endpoint.volume.adjust",
    "endpoint.mute", "endpoint.unmute", "endpoint.identify", "endpoint.settings.open"]

def timerSelectionBlocksDispatch (intent : IntentMatch) : Bool :=
  ((intent.slots.get "timer_selection_status").bind Json.str?) = some "ambiguous"

namespace Assistant

variable (assistant : Assistant)

def dispatchIntent (intent : IntentMatch) : List Effect :=
  if timerSelectionBlocksDispatch intent then []
  else if intent.command ∈ timerCommands then
    if assistant.makesRequest intent then [.timerRequested intent.command] else []
  else if intent.command ∈ endpointCommands then
    if assistant.hasDispatcher then [.endpointCommand intent.command] else []
  else []

def applyFollowupTransition (pass : Pass) (intent : IntentMatch) : List Effect :=
  let cleared := if assistant.pendingFollowup pass then [Effect.followupCleared] else []
  if intent.command = "voice.confirm.yes" ∨ intent.command = "voice.confirm.no" then cleared
  else if intent.asksFollowup then [.followupStored intent.intent]
  else cleared

/-- The effects of `_handle_matched_intent`. -/
def matchedEffects (pass : Pass) (intent : IntentMatch) : List Effect :=
  .intentRecognized intent :: assistant.dispatchIntent intent ++
    assistant.applyFollowupTransition pass intent

/-- The effects of `handle_turn`. -/
def effects (pass : Pass) (request : AssistantTurnRequest) : List Effect :=
  ((assistant.matched pass request).map (assistant.matchedEffects pass)).getD []

/-- A turn without a matched intent has none. -/
theorem effects_eq_nil_iff {pass : Pass} :
    assistant.effects pass request = [] ↔ assistant.matched pass request = none := by
  unfold effects
  cases assistant.matched pass request with
  | none => exact iff_of_true rfl rfl
  | some intent => exact iff_of_false (List.cons_ne_nil _ _) nofun

end Assistant

/-! ### The requests of a turn -/

section

variable (pipeline : Pipeline) (answers : Answers)

/-- What the assistant is asked in a pass, if it is. -/
def passRequest (pass : Pass) (text : String) (current : Option SpeakerIdentityResult) :
    Option AssistantTurnRequest :=
  let policy := passPolicy pipeline answers pass text
  let identity := passIdentity pipeline answers pass text current
  let decision := audiencePolicyDecision pipeline text none none identity
  if passOutcome answers pass policy identity decision = .handled then
    some (assistantRequest pipeline (if text = "" then " " else text) policy identity)
  else none

/-- The pass of the first transcript. -/
def firstPass : Progress := takePass pipeline answers .primary answers.transcript none [] [] []

/-- What the assistant is asked in the first pass. -/
def firstRequest : Option AssistantTurnRequest :=
  passRequest pipeline answers .primary answers.transcript.text none

/-- What it is asked in the second pass. -/
def secondRequest : Option AssistantTurnRequest :=
  (fallbackTranscript answers (firstPass pipeline answers)).bind fun fallback =>
    passRequest pipeline answers .fallback fallback.text (some (firstPass pipeline answers).identity)

variable {pipeline answers}

theorem takePass_requests (pass : Pass) (transcript : SpeechTranscript)
    (current : Option SpeakerIdentityResult) (policies : List IdentityPolicy)
    (requests : List AssistantTurnRequest) (clarified : List SpeakerIdentityResult) :
    (takePass pipeline answers pass transcript current policies requests clarified).requests =
      requests ++ (passRequest pipeline answers pass transcript.text current).toList := by
  simp only [takePass, passRequest]
  by_cases houtcome : passOutcome answers pass (passPolicy pipeline answers pass transcript.text)
      (passIdentity pipeline answers pass transcript.text current)
      (audiencePolicyDecision pipeline transcript.text none none
        (passIdentity pipeline answers pass transcript.text current)) = .handled
  · rw [if_pos houtcome, if_pos houtcome, Option.toList_some]
  · rw [if_neg houtcome, if_neg houtcome, Option.toList_none, List.append_nil]

/-- A pass that is handled answers as the assistant does. -/
theorem takePass_response {pass : Pass} {transcript : SpeechTranscript}
    {current : Option SpeakerIdentityResult} {policies : List IdentityPolicy}
    {requests : List AssistantTurnRequest} {clarified : List SpeakerIdentityResult}
    (h : passRequest pipeline answers pass transcript.text current = some request) :
    (takePass pipeline answers pass transcript current policies requests clarified).response =
      answers.handleTurn pass request := by
  have houtcome : passOutcome answers pass (passPolicy pipeline answers pass transcript.text)
      (passIdentity pipeline answers pass transcript.text current)
      (audiencePolicyDecision pipeline transcript.text none none
        (passIdentity pipeline answers pass transcript.text current)) = .handled := by
    by_contra hother
    simp only [passRequest, if_neg hother] at h
    cases h
  simp only [passRequest, if_pos houtcome, Option.some_inj] at h
  simp only [takePass, houtcome, h]

/-- The end of a turn asks nothing more. -/
theorem completeTurn_requests :
    (completeTurn pipeline answers).requests =
      (firstRequest pipeline answers).toList ++ (secondRequest pipeline answers).toList := by
  have hfinal (progress : Progress) :
      (applyFinalPolicy pipeline answers progress).requests = progress.requests := by
    simp only [applyFinalPolicy]
    split_ifs <;> rfl
  have hadmin (progress : Progress) :
      (applyAdminDecision pipeline answers progress).requests = progress.requests := by
    simp only [applyAdminDecision]
    split <;> rfl
  have hfirst : (firstPass pipeline answers).requests = (firstRequest pipeline answers).toList := by
    rw [firstPass, takePass_requests, List.nil_append, firstRequest]
  simp only [completeTurn, applyAudiencePolicy, hadmin, applyFinalOverride, hfinal, takePasses,
    secondRequest]
  rw [← firstPass]
  cases fallbackTranscript answers (firstPass pipeline answers) with
  | none => rw [hfirst, Option.bind_none, Option.toList_none, List.append_nil]
  | some fallback =>
    simp only
    rw [takePass_requests, hfirst, Option.bind_some]

end

end HexeVoice.Voice.CompleteTurn
