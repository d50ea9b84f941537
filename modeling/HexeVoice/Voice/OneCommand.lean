import HexeVoice.Voice.TurnService
import Mathlib

/-!
# One command in a turn

The second pass of a turn with a `ProfiledSpeechToTextAdapter` (`voice/pipeline.py`, `stt_profiles.py`).

## What is proved

**`one_command_iff`**: the assistant is not asked again, and no second intent takes effect, in a turn whose
first pass has matched an intent, exactly if its transcript gives no reason for the fallback, or the
fallback's is refused.
-/

namespace HexeVoice.Voice.CompleteTurn

open HexeVoice.Library HexeVoice.Admin

/-! ### The fallback -/

/-- `SttModelProfile`, as far as it decides on the fallback. -/
structure SttModelProfile where
  fallbackProfile : Option String
  fallbackWhen : List String

/-- `value < bound`, of a float. -/
def floatBelow : PyFloat → ℚ → Bool
  | .finite q, bound => q < bound
  | .infinite negative, _ => negative
  | .nan, _ => false

def shouldUseSttFallback (transcript : SpeechTranscript) (profile : SttModelProfile)
    (intentMatched : Bool) : Bool :=
  if profile.fallbackProfile.getD "" = "" then false
  else
    let text := strip transcript.text
    transcript.error.getD "" ≠ "" ||
      ("empty_transcript" ∈ profile.fallbackWhen && text.length < 3) ||
      ("low_confidence" ∈ profile.fallbackWhen && transcript.confidence.any (floatBelow · (55 / 100))) ||
      ("intent_unmatched" ∈ profile.fallbackWhen && text ≠ "" && !intentMatched)

/-- `ProfiledSpeechToTextAdapter`, with what its fallback hears, if there is one. -/
structure ProfiledSpeechToTextAdapter where
  profile : SttModelProfile
  fallback : Option SpeechTranscript

/-- `maybe_fallback_transcribe`. -/
def ProfiledSpeechToTextAdapter.maybeFallbackTranscribe (adapter : ProfiledSpeechToTextAdapter)
    (primary : SpeechTranscript) (intentMatched : Bool) : Option SpeechTranscript :=
  if shouldUseSttFallback primary adapter.profile intentMatched then adapter.fallback else none

/-- The answers of a turn with the assistant and the adapter. -/
def Answers.withService (answers : Answers) (assistant : Assistant)
    (adapter : ProfiledSpeechToTextAdapter) : Answers :=
  { answers with
    handleTurn := assistant.handleTurn
    fallbackTranscribe := some adapter.maybeFallbackTranscribe }

section

variable (pipeline : Pipeline) (answers : Answers) (assistant : Assistant)

/-- The effects of the first pass. -/
def firstEffects : List Effect :=
  ((firstRequest pipeline answers).map (assistant.effects .primary)).getD []

/-- The effects of the second pass. -/
def secondEffects : List Effect :=
  ((secondRequest pipeline answers).map (assistant.effects .fallback)).getD []

/-- One intent takes effect, and the assistant is not asked again after it. -/
structure OneCommand : Prop where
  one : firstEffects pipeline answers assistant = [] ∨ secondEffects pipeline answers assistant = []
  not_again : firstEffects pipeline answers assistant ≠ [] →
    (completeTurn pipeline answers).requests.length = 1

/-- The transcript once an intent has been matched. -/
def recordedTranscript (request : AssistantTurnRequest) (intent : IntentMatch) : SpeechTranscript :=
  { answers.transcript with
    text := recordedHeardText assistant.chars intent (assistant.heard request).text }

/-- An intent of the first pass leaves no reason for the fallback, or its transcript is refused. -/
def FallbackStaysOut (adapter : ProfiledSpeechToTextAdapter) : Prop :=
  ∀ request intent fallback, firstRequest pipeline answers = some request →
    assistant.matched .primary request = some intent → adapter.fallback = some fallback →
    shouldUseSttFallback (recordedTranscript answers assistant request intent) adapter.profile
      (intent.command ≠ "") = true →
    passRequest pipeline answers .fallback fallback.text (some (firstPass pipeline answers).identity) =
      none

variable {pipeline answers assistant}

theorem passOutcome_primary {policy : IdentityPolicy} {identity : SpeakerIdentityResult}
    {decision : AudienceDecision} (h : passOutcome answers .primary policy identity decision = .handled) :
    (answers.audioQualityBlocks || decision.blocked || blocksRequiredPolicy policy identity) = false := by
  simp only [passOutcome] at h
  split_ifs at h with hquality hblocked hrequired
  rw [Bool.or_eq_false_iff, Bool.or_eq_false_iff]
  refine ⟨⟨?_, Bool.eq_false_of_not_eq_true hblocked⟩, Bool.eq_false_of_not_eq_true hrequired⟩
  cases hblocks : answers.audioQualityBlocks with
  | false => rfl
  | true => exact absurd hblocks (by simpa using hquality)

/-- A pass that is handled is open to a fallback. -/
theorem fallbackTranscript_of_request {request : AssistantTurnRequest}
    (h : firstRequest pipeline answers = some request) :
    fallbackTranscript answers (firstPass pipeline answers) =
      answers.fallbackTranscribe.bind fun transcribe =>
        transcribe { answers.transcript with text := (answers.handleTurn .primary request).heardText }
          ((answers.handleTurn .primary request).command.getD "" ≠ "") := by
  have hresponse : (firstPass pipeline answers).response = answers.handleTurn .primary request :=
    takePass_response h
  have htranscript : (firstPass pipeline answers).transcript =
      { answers.transcript with text := (answers.handleTurn .primary request).heardText } := by
    rw [← hresponse]
    rfl
  have hopen : (answers.audioQualityBlocks || (firstPass pipeline answers).decision.blocked ||
      blocksRequiredPolicy (firstPass pipeline answers).policy (firstPass pipeline answers).identity) =
        false := by
    simp only [firstPass, takePass]
    apply passOutcome_primary
    by_contra hother
    simp only [firstRequest, passRequest, if_neg hother] at h
    cases h
  rw [fallbackTranscript, hopen, hresponse, htranscript]
  rfl

theorem firstEffects_ne_nil_iff :
    firstEffects pipeline answers assistant ≠ [] ↔
      ∃ request intent, firstRequest pipeline answers = some request ∧
        assistant.matched .primary request = some intent := by
  unfold firstEffects
  cases firstRequest pipeline answers with
  | none => simp
  | some request =>
    rw [Option.map_some, Option.getD_some, Ne, assistant.effects_eq_nil_iff]
    constructor
    · intro hmatched
      obtain ⟨intent, hintent⟩ := Option.ne_none_iff_exists'.mp hmatched
      exact ⟨request, intent, rfl, hintent⟩
    · rintro ⟨_, intent, hsame, hintent⟩
      obtain rfl := Option.some.inj hsame
      rw [hintent]
      exact Option.some_ne_none _

/-- What is left of the fallback after a matched intent. -/
theorem secondRequest_of_matched {adapter : ProfiledSpeechToTextAdapter} {request : AssistantTurnRequest}
    {intent : IntentMatch} {base : Answers}
    (h : firstRequest pipeline (base.withService assistant adapter) = some request)
    (hmatched : assistant.matched .primary request = some intent) :
    secondRequest pipeline (base.withService assistant adapter) =
      (if shouldUseSttFallback
          (recordedTranscript (base.withService assistant adapter) assistant request intent)
          adapter.profile (intent.command ≠ "") = true then adapter.fallback
        else none).bind fun fallback =>
          passRequest pipeline (base.withService assistant adapter) .fallback fallback.text
            (some (firstPass pipeline (base.withService assistant adapter)).identity) := by
  obtain ⟨hheard, hcommand⟩ := assistant.handleTurn_matched hmatched
  have hservice : (base.withService assistant adapter).handleTurn .primary request =
      assistant.handleTurn .primary request := rfl
  rw [secondRequest, fallbackTranscript_of_request h, hservice, hheard, hcommand]
  rfl

end

/-- **One command takes effect exactly if the fallback stays out.** -/
theorem one_command_iff (pipeline : Pipeline) (base : Answers) (assistant : Assistant)
    (adapter : ProfiledSpeechToTextAdapter) :
    OneCommand pipeline (base.withService assistant adapter) assistant ↔
      FallbackStaysOut pipeline (base.withService assistant adapter) assistant adapter := by
  constructor
  · rintro ⟨-, hagain⟩ request intent fallback hfirst hmatched hfallback hreason
    have hone := hagain (firstEffects_ne_nil_iff.mpr ⟨request, intent, hfirst, hmatched⟩)
    rw [completeTurn_requests, hfirst] at hone
    have hsecond : secondRequest pipeline (base.withService assistant adapter) = none := by
      cases hrequest : secondRequest pipeline (base.withService assistant adapter) with
      | none => rfl
      | some second => simp [hrequest] at hone
    rw [secondRequest_of_matched hfirst hmatched, if_pos hreason, hfallback, Option.bind_some] at hsecond
    exact hsecond
  · intro hout
    have hsecond : firstEffects pipeline (base.withService assistant adapter) assistant ≠ [] →
        secondRequest pipeline (base.withService assistant adapter) = none := by
      intro heffects
      obtain ⟨request, intent, hfirst, hmatched⟩ := firstEffects_ne_nil_iff.mp heffects
      rw [secondRequest_of_matched hfirst hmatched]
      split_ifs with hreason
      · cases hfallback : adapter.fallback with
        | none => rfl
        | some fallback =>
          rw [Option.bind_some]
          exact hout request intent fallback hfirst hmatched hfallback hreason
      · rfl
    constructor
    · by_cases heffects : firstEffects pipeline (base.withService assistant adapter) assistant = []
      · exact .inl heffects
      · refine .inr ?_
        rw [secondEffects, hsecond heffects]
        rfl
    · intro heffects
      obtain ⟨request, -, hfirst, -⟩ := firstEffects_ne_nil_iff.mp heffects
      rw [completeTurn_requests, hsecond heffects, hfirst]
      rfl

/-! ### A timer is stopped twice -/

/-- The transcript is understood, with low confidence. -/
private def stopTimerAnswers : Answers :=
  { Answers.heard "stop the timer" with
    transcript := { text := "stop the timer", confidence := some (.finite (2 / 5)) } }

/-- Every text stops the timer. -/
private def timerAssistant : Assistant :=
  .matching { intent := "timer.stop", command := "timer.stop" }

/-- The profile `cuda_fast_intent`. -/
private def fastIntentAdapter : ProfiledSpeechToTextAdapter where
  profile :=
    { fallbackProfile := some "cuda_accurate_fallback"
      fallbackWhen := ["low_confidence", "empty_transcript", "intent_unmatched"] }
  fallback := some { text := "stop the timer", confidence := some (.finite (9 / 10)) }

/-- A transcript of low confidence is acted on, and then that of the fallback. -/
theorem timer_stopped_twice :
    ¬ ∀ (pipeline : Pipeline) (base : Answers) (assistant : Assistant)
      (adapter : ProfiledSpeechToTextAdapter),
      OneCommand pipeline (base.withService assistant adapter) assistant := by
  intro hclaim
  obtain ⟨hone, -⟩ := hclaim .household stopTimerAnswers timerAssistant fastIntentAdapter
  have hfirst : (firstEffects .household
      (stopTimerAnswers.withService timerAssistant fastIntentAdapter) timerAssistant).length = 2 := by
    decide +kernel
  have hsecond : (secondEffects .household
      (stopTimerAnswers.withService timerAssistant fastIntentAdapter) timerAssistant).length = 2 := by
    decide +kernel
  obtain hnone | hnone := hone
  · rw [hnone] at hfirst
    cases hfirst
  · rw [hnone] at hsecond
    cases hsecond

end HexeVoice.Voice.CompleteTurn
