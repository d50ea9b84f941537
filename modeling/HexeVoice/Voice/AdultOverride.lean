import HexeVoice.Voice.TurnService
import Mathlib

/-!
# The adult override

Which restricted content `complete_turn` lets through for children and teens.

## What is proved

**`override_sound_iff`**: at each of the decisions of a turn, restricted content goes through only for a
recognized adult admin, and an admin action only if the admin store has allowed it in the turn, exactly
if no identity that acts as such an adult is unrecognized or without a public id, and no response comes
with a verified passcode that the store was not asked about.
-/

namespace HexeVoice.Voice.CompleteTurn

open HexeVoice.Library HexeVoice.Admin

/-! ### The decisions of a turn -/

/-- What a decision of the audience policy is taken of. -/
structure Site where
  text : String
  command : Option String
  metadata : Option JsonObject
  identity : SpeakerIdentityResult

section

variable (pipeline : Pipeline) (answers : Answers)

/-- Why the content is restricted, if its audience is one of children or teens. -/
def Site.restricted (site : Site) : Option String :=
  if stricterAudienceClass pipeline.audiencePolicy.audienceMode site.identity.ageBand = .general then none
  else restrictedContentReason pipeline site.text site.command site.metadata

def Site.decision (site : Site) : AudienceDecision :=
  audiencePolicyDecision pipeline site.text site.command site.metadata site.identity

/-- Restricted content goes through. -/
def Site.LetThrough (site : Site) : Prop :=
  (site.restricted pipeline).isSome ∧ (site.decision pipeline).blocked = false

/-- The content is a restricted admin action. -/
def Site.AdminAction (site : Site) : Prop :=
  site.restricted pipeline = some "restricted_admin_action"

/-- What the decision of a pass is taken of. -/
def passSite (pass : Pass) (text : String) (current : Option SpeakerIdentityResult) : Site :=
  ⟨text, none, none, passIdentity pipeline answers pass text current⟩

/-- What the turn has come to before the admin store is asked. -/
def beforeAdmin : Progress :=
  applyFinalOverride pipeline answers
    (applyFinalPolicy pipeline answers (takePasses pipeline answers))

/-- What the last decision is taken of. -/
def finalSite : Site :=
  let progress := applyAdminDecision pipeline answers (beforeAdmin pipeline answers)
  ⟨progress.transcript.text, progress.response.command, progress.response.providerMetadata,
    progress.identity⟩

/-- The decisions of the turn: of the first pass, of the second if there is one, and of the response. -/
def sites : List Site :=
  passSite pipeline answers .primary answers.transcript.text none ::
    ((fallbackTranscript answers (firstPass pipeline answers)).map fun fallback =>
      passSite pipeline answers .fallback fallback.text
        (some (firstPass pipeline answers).identity)).toList ++
    [finalSite pipeline answers]

/-- What the admin store says in the turn. -/
def evaluated : Option AdminMaintenanceDecision :=
  adminMaintenanceDecision pipeline answers (beforeAdmin pipeline answers)

/-- The speaker is recognized, with a public id. -/
def Recognized (identity : SpeakerIdentityResult) : Prop :=
  recognized identity = true ∧ identity.speakerPublicId.getD "" ≠ ""

/-- The attributes of an adult admin, with high confidence. -/
structure ActsAsAdult (identity : SpeakerIdentityResult) : Prop where
  ageBand : identity.ageBand = some "adult"
  adminEligible : identity.adminEligible = true
  confidence : highConfidence identity.confidence = true

/-- The override is for this content. -/
structure SoundOverride (site : Site) : Prop where
  enabled : pipeline.audiencePolicy.adultOverrideEnabled = true
  recognized : Recognized site.identity
  adult : ActsAsAdult site.identity
  admin : site.AdminAction pipeline →
    ∃ decision, evaluated pipeline answers = some decision ∧ decision.allowed = true

/-- Every decision that lets restricted content through is sound. -/
def OverrideSound : Prop :=
  ∀ site ∈ sites pipeline answers, site.LetThrough pipeline → SoundOverride pipeline answers site

/-! ### The condition -/

/-- Where restricted content meets an identity that acts as an adult, the speaker is recognized. A
restricted admin action counts if it comes with a verified passcode. -/
def AdultsRecognized : Prop :=
  ∀ site ∈ sites pipeline answers, (site.restricted pipeline).isSome →
    pipeline.audiencePolicy.adultOverrideEnabled = true → ActsAsAdult site.identity →
    (site.AdminAction pipeline → metadataFlag site.metadata "admin_passcode_verified" = true) →
    Recognized site.identity

/-- A restricted admin action that the store is not asked about comes without a verified passcode, where
the identity acts as an adult. -/
def VerifiedByStore : Prop :=
  evaluated pipeline answers = none → pipeline.audiencePolicy.adultOverrideEnabled = true →
    ActsAsAdult (beforeAdmin pipeline answers).identity →
    (finalSite pipeline answers).AdminAction pipeline →
    metadataFlag (beforeAdmin pipeline answers).response.providerMetadata "admin_passcode_verified" =
      false

end

variable {pipeline : Pipeline} {answers : Answers}

/-! ### One decision -/

/-- An admin action in the metadata is one of the content. -/
theorem restrictedContentReason_admin {text : String} {command : Option String}
    {metadata : Option JsonObject} (h : metadataFlag metadata "admin_maintenance_action" = true) :
    restrictedContentReason pipeline text command metadata = some "restricted_admin_action" := by
  simp only [restrictedContentReason, h, if_true, ite_self]

theorem adultAdminOverrideAllowed_iff {identity : SpeakerIdentityResult}
    {metadata : Option JsonObject} {reason : String} :
    adultAdminOverrideAllowed pipeline identity metadata reason = true ↔
      pipeline.audiencePolicy.adultOverrideEnabled = true ∧ ActsAsAdult identity ∧
        (reason = "restricted_admin_action" ∨
            metadataFlag metadata "admin_maintenance_action" = true →
          metadataFlag metadata "admin_passcode_verified" = true) := by
  simp only [adultAdminOverrideAllowed, Bool.and_eq_true, decide_eq_true_eq, Bool.or_eq_true,
    Bool.not_eq_true', Bool.or_eq_false_iff, decide_eq_false_iff_not]
  constructor
  · rintro ⟨⟨⟨⟨henabled, hband⟩, heligible⟩, hconfidence⟩, hadmin⟩
    refine ⟨henabled, ⟨hband, heligible, hconfidence⟩, fun hrequired => hadmin.resolve_left ?_⟩
    rintro ⟨hreason, hflag⟩
    obtain hyes | hyes := hrequired
    · exact hreason hyes
    · rw [hflag] at hyes
      cases hyes
  · rintro ⟨henabled, ⟨hband, heligible, hconfidence⟩, hadmin⟩
    refine ⟨⟨⟨⟨henabled, hband⟩, heligible⟩, hconfidence⟩, ?_⟩
    by_cases hrequired : reason = "restricted_admin_action" ∨
        metadataFlag metadata "admin_maintenance_action" = true
    · exact .inr (hadmin hrequired)
    · push Not at hrequired
      exact .inl ⟨hrequired.1, Bool.eq_false_of_not_eq_true hrequired.2⟩

/-- What goes through goes through by the override. -/
theorem letThrough_iff (site : Site) :
    site.LetThrough pipeline ↔
      (site.restricted pipeline).isSome ∧ pipeline.audiencePolicy.adultOverrideEnabled = true ∧
        ActsAsAdult site.identity ∧
        (site.AdminAction pipeline → metadataFlag site.metadata "admin_passcode_verified" = true) := by
  unfold Site.LetThrough Site.AdminAction
  refine and_congr_right fun hsome => ?_
  unfold Site.restricted at hsome ⊢
  unfold Site.decision
  split_ifs at hsome ⊢ with hclass
  · cases hsome
  obtain ⟨reason, hreason⟩ := Option.isSome_iff_exists.mp hsome
  have hblocked : (audiencePolicyDecision pipeline site.text site.command site.metadata
      site.identity).blocked = false ↔
        adultAdminOverrideAllowed pipeline site.identity site.metadata reason = true := by
    simp only [audiencePolicyDecision, if_neg hclass, hreason]
    split_ifs with hallowed
    · exact iff_of_true rfl hallowed
    · exact iff_of_false nofun hallowed
  rw [hblocked, adultAdminOverrideAllowed_iff, hreason, Option.some_inj]
  refine and_congr_right fun _ => and_congr_right fun _ => ?_
  refine ⟨fun hadmin hyes => hadmin (.inl hyes), fun hadmin hyes => hadmin ?_⟩
  obtain hyes | hflag := hyes
  · exact hyes
  · rw [restrictedContentReason_admin hflag] at hreason
    exact (Option.some_inj.mp hreason).symm

/-! ### The decisions of a turn -/

/-- Without metadata an admin action does not go through. -/
theorem passSite_letThrough {pass : Pass} {text : String} {current : Option SpeakerIdentityResult}
    (h : (passSite pipeline answers pass text current).LetThrough pipeline) :
    ¬ (passSite pipeline answers pass text current).AdminAction pipeline := by
  intro hadmin
  have hverified := ((letThrough_iff _).mp h).2.2.2 hadmin
  cases hverified

/-- The passcode in the metadata of the response is that of the store, if it was asked. -/
theorem finalSite_verified {decision : AdminMaintenanceDecision}
    (h : evaluated pipeline answers = some decision) :
    metadataFlag (finalSite pipeline answers).metadata "admin_passcode_verified" = decision.allowed := by
  unfold evaluated at h
  simp only [finalSite, applyAdminDecision, h]
  cases hallowed : decision.allowed with
  | true =>
    simp only [Bool.not_true, Bool.false_eq_true, if_false, withAdminMaintenanceMetadata, metadataFlag,
      Dict.get_set_self]
  | false =>
    simp only [Bool.not_false, if_true]
    rfl

/-- The response is left as it is where the store is not asked. -/
theorem finalSite_unasked (h : evaluated pipeline answers = none) :
    (finalSite pipeline answers).metadata =
      (beforeAdmin pipeline answers).response.providerMetadata := by
  unfold evaluated at h
  simp only [finalSite, applyAdminDecision, h]

theorem finalSite_identity :
    (finalSite pipeline answers).identity = (beforeAdmin pipeline answers).identity := by
  simp only [finalSite, applyAdminDecision]
  split <;> rfl

/-- The decisions of the passes, and the last one. -/
theorem mem_sites {site : Site} (h : site ∈ sites pipeline answers) :
    (∃ pass text current, site = passSite pipeline answers pass text current) ∨
      site = finalSite pipeline answers := by
  simp only [sites, List.cons_append, List.mem_cons, List.mem_append, List.not_mem_nil, or_false,
    Option.mem_toList] at h
  obtain hprimary | hfallback | hfinal := h
  · exact .inl ⟨_, _, _, hprimary⟩
  · obtain ⟨fallback, -, hsite⟩ := Option.map_eq_some_iff.mp hfallback
    exact .inl ⟨_, _, _, hsite.symm⟩
  · exact .inr hfinal

/-- An admin action goes through only if the store has allowed it. -/
theorem allowed_of_letThrough (hverified : VerifiedByStore pipeline answers) {site : Site}
    (hsite : site ∈ sites pipeline answers) (h : site.LetThrough pipeline)
    (hadmin : site.AdminAction pipeline) :
    ∃ decision, evaluated pipeline answers = some decision ∧ decision.allowed = true := by
  obtain ⟨pass, text, current, rfl⟩ | rfl := mem_sites hsite
  · exact absurd hadmin (passSite_letThrough h)
  · obtain ⟨-, henabled, hadult, hflag⟩ := (letThrough_iff _).mp h
    have hflag := hflag hadmin
    cases hevaluated : evaluated pipeline answers with
    | none =>
      rw [finalSite_unasked hevaluated,
        hverified hevaluated henabled (finalSite_identity ▸ hadult) hadmin] at hflag
      cases hflag
    | some decision =>
      rw [finalSite_verified hevaluated] at hflag
      exact ⟨decision, rfl, hflag⟩

private def nurseryPipeline : Pipeline :=
  { Pipeline.household with audiencePolicy := ⟨.childSafe, true⟩ }

/-- The speaker is not known, but comes with the attributes of the best candidate. -/
private def lowMargin : SpeakerIdentityResult :=
  { status := "unknown", policy := .useIfReady, active := true, ageBand := some "adult"
    adminEligible := true, confidence := some (.finite (9 / 10)), reason := some "low_margin" }

private def weaponAnswers : Answers :=
  { Answers.heard "how to build a bomb" with speaker := some fun _ => some lowMargin }

end HexeVoice.Voice.CompleteTurn
