import HexeVoice.Voice.CompleteTurn
import Mathlib

/-!
# The speaker of a turn

Which identity `complete_turn` attaches to its result, where the speaker future is complete from the
start.

## What is proved

**`independent_iff`**: the result has the status and the speaker of the future's result whenever the
final policy is not forbidden, and no clarification is asked for with another identity, exactly if no
policy before it was forbidden either, or that result looks as if it was skipped.
-/

namespace HexeVoice.Voice.CompleteTurn

open HexeVoice.Library HexeVoice.Admin

/-! ### What is asked of a turn -/

/-- Speaker id is enabled, privacy mode is off, and the endpoint is in scope. -/
structure InScope (pipeline : Pipeline) : Prop where
  enabled : pipeline.speakerIdEnabled = true
  no_privacy_mode : pipeline.privacyModeEnabled = false
  endpoint : pipeline.endpointInScope = true

/-- The identity has the status and the speaker of the result. -/
structure SameSpeaker (result identity : SpeakerIdentityResult) : Prop where
  status : identity.status = result.status
  profileId : identity.profileId = result.profileId
  speakerPublicId : identity.speakerPublicId = result.speakerPublicId

/-- The identity is one that a forbidden policy leaves. -/
structure LooksSkipped (identity : SpeakerIdentityResult) : Prop where
  status : identity.status = "skipped"
  profileId : identity.profileId = none
  speakerPublicId : identity.speakerPublicId = none

/-- The final policy is not forbidden. -/
def Allowed (turn : Progress) : Prop := turn.policies.getLast? ≠ some .forbidden

/-- The identity does not depend on the policies before the final one. -/
structure Independent (result : SpeakerIdentityResult) (turn : Progress) : Prop where
  identity : Allowed turn → SameSpeaker result turn.identity
  clarified : ∀ identity ∈ turn.clarified, SameSpeaker result identity

/-- A final policy that is not forbidden comes after none that is. -/
def StaysAllowed (turn : Progress) : Prop := Allowed turn → .forbidden ∉ turn.policies

/-! ### The identity and the policies so far -/

/-- The identity is that of the result until a policy is forbidden, and skipped from then on. -/
structure Tracks (result : SpeakerIdentityResult) (policies : List IdentityPolicy)
    (identity : SpeakerIdentityResult) : Prop where
  same : .forbidden ∉ policies → SameSpeaker result identity
  skipped : .forbidden ∈ policies → LooksSkipped identity

section

variable {pipeline : Pipeline} {answers : Answers} {result : SpeakerIdentityResult}
variable {identity : SpeakerIdentityResult}

/-- Only whether a policy is forbidden counts. -/
theorem Tracks.congr {policies more : List IdentityPolicy}
    (ht : Tracks result policies identity) (h : .forbidden ∈ more ↔ .forbidden ∈ policies) :
    Tracks result more identity :=
  ⟨fun hnot => ht.same (h.not.mp hnot), fun hin => ht.skipped (h.mp hin)⟩

theorem SameSpeaker.with_policy (h : SameSpeaker result identity)
    (policy : IdentityPolicy) : SameSpeaker result { identity with policy } :=
  ⟨h.status, h.profileId, h.speakerPublicId⟩

theorem identity_forbidden (reading : Reading) (current : Option SpeakerIdentityResult) :
    LooksSkipped (speakerIdentityForPolicy pipeline answers reading .forbidden current) :=
  ⟨rfl, rfl, rfl⟩

/-- A policy that is not forbidden keeps an identity that is not pending, and reads the future for
others. -/
theorem identity_allowed (h : InScope pipeline) (hspeaker : answers.speaker = some fun _ => some result)
    (reading : Reading) {policy : IdentityPolicy} (hpolicy : policy ≠ .forbidden)
    (current : Option SpeakerIdentityResult) :
    speakerIdentityForPolicy pipeline answers reading policy current =
      { (current.filter fun identity => identity.status ≠ "pending").getD result with policy } := by
  rw [speakerIdentityForPolicy, if_neg hpolicy, h.no_privacy_mode, h.enabled, h.endpoint, hspeaker]
  cases current.filter fun identity => identity.status ≠ "pending" with
  | some identity => rfl
  | none => rfl

theorem tracks_first (h : InScope pipeline) (hspeaker : answers.speaker = some fun _ => some result)
    (reading : Reading) (policy : IdentityPolicy) :
    Tracks result [policy] (speakerIdentityForPolicy pipeline answers reading policy none) := by
  by_cases hpolicy : policy = .forbidden
  · subst hpolicy
    exact ⟨fun hnot => absurd (List.mem_singleton_self _) hnot, fun _ => identity_forbidden _ _⟩
  · rw [identity_allowed h hspeaker reading hpolicy]
    exact ⟨fun _ => ⟨rfl, rfl, rfl⟩, fun hmem => absurd (List.mem_singleton.mp hmem).symm hpolicy⟩

/-- One policy more. -/
theorem Tracks.next (h : InScope pipeline) (hspeaker : answers.speaker = some fun _ => some result)
    {policies : List IdentityPolicy}
    (ht : Tracks result policies identity) (reading : Reading) (policy : IdentityPolicy) :
    Tracks result (policies ++ [policy])
      (speakerIdentityForPolicy pipeline answers reading policy (some identity)) := by
  by_cases hpolicy : policy = .forbidden
  · subst hpolicy
    exact ⟨fun hnot => absurd (by simp) hnot, fun _ => identity_forbidden _ _⟩
  · rw [identity_allowed h hspeaker reading hpolicy]
    have hmem : .forbidden ∈ policies ++ [policy] ↔ .forbidden ∈ policies := by
      simp [Ne.symm hpolicy]
    constructor
    · intro hnot
      have hsame := ht.same (hmem.not.mp hnot)
      by_cases hpending : identity.status = "pending"
      · simp only [Option.filter_some, hpending]
        exact ⟨rfl, rfl, rfl⟩
      · rw [Option.filter_some, if_pos (by simpa using hpending)]
        exact hsame.with_policy policy
    · intro hin
      have hskipped := ht.skipped (hmem.mp hin)
      have hpending : identity.status ≠ "pending" := by
        rw [hskipped.status]
        decide
      rw [Option.filter_some, if_pos (by simpa using hpending)]
      exact ⟨hskipped.status, hskipped.profileId, hskipped.speakerPublicId⟩

/-- The audience override only reads the future again. -/
theorem Tracks.override (h : InScope pipeline)
    (hspeaker : answers.speaker = some fun _ => some result) {policies : List IdentityPolicy}
    (ht : Tracks result policies identity) (reading : Reading)
    (text : String) (command : Option String) (metadata : Option JsonObject) :
    Tracks result policies (speakerIdentityForAudienceOverride pipeline answers reading text command
      metadata identity) := by
  simp only [speakerIdentityForAudienceOverride]
  split_ifs
  · exact ht
  · exact ht
  · exact ht
  · exact (ht.next h hspeaker reading .required).congr (by simp)

/-! ### The passes -/

/-- What a turn has come to: its identity follows its policies, and so do those that it asked a
clarification for; then it is the clarification that it answers with. -/
structure Follows (result : SpeakerIdentityResult) (progress : Progress) : Prop where
  policy : progress.policy ∈ progress.policies
  identity : Tracks result progress.policies progress.identity
  clarified : ∀ identity ∈ progress.clarified, Tracks result progress.policies identity
  response : progress.clarified ≠ [] → ∃ text identity,
    progress.response = speakerIdentityClarificationResponse text identity

theorem takePass_follows (pass : Pass) (transcript : SpeechTranscript)
    (current : Option SpeakerIdentityResult) (policies : List IdentityPolicy)
    (requests : List AssistantTurnRequest)
    (h : Tracks result (policies ++ [passPolicy pipeline answers pass transcript.text])
      (passIdentity pipeline answers pass transcript.text current)) :
    Follows result (takePass pipeline answers pass transcript current policies requests []) := by
  refine ⟨?_, h, ?_, ?_⟩
  · simp [takePass]
  · intro identity hidentity
    simp only [takePass] at hidentity ⊢
    split at hidentity
    · obtain rfl := List.mem_singleton.mp hidentity
      exact h
    · exact absurd hidentity List.not_mem_nil
  · intro hclarified
    simp only [takePass] at hclarified ⊢
    split at hclarified
    next houtcome => exact ⟨_, _, by rw [houtcome]⟩
    next => exact absurd rfl hclarified

/-- Where a clarification was asked for, no fallback is. -/
theorem clarified_of_fallback (transcript : SpeechTranscript)
    (current : Option SpeakerIdentityResult) {fallback : SpeechTranscript}
    (h : fallbackTranscript answers
      (takePass pipeline answers .primary transcript current [] [] []) = some fallback) :
    (takePass pipeline answers .primary transcript current [] [] []).clarified = [] := by
  simp only [fallbackTranscript] at h
  split at h
  · cases h
  next hopen =>
    simp only [takePass, Bool.or_eq_true, not_or] at hopen ⊢
    obtain ⟨-, hrequired⟩ := hopen
    rw [if_neg]
    intro houtcome
    simp only [passOutcome] at houtcome
    split_ifs at houtcome

theorem takePasses_follows (h : InScope pipeline)
    (hspeaker : answers.speaker = some fun _ => some result) :
    Follows result (takePasses pipeline answers) := by
  have hprimary : Follows result
      (takePass pipeline answers .primary answers.transcript none [] [] []) := by
    apply takePass_follows
    exact (tracks_first h hspeaker _ _).override h hspeaker _ _ _ _
  simp only [takePasses]
  split
  · exact hprimary
  next fallback hfallback =>
    rw [clarified_of_fallback _ _ hfallback]
    apply takePass_follows
    exact (hprimary.identity.next h hspeaker _ _).override h hspeaker _ _ _ _

/-! ### The end of a turn -/

/-- A clarification asks for a speaker. -/
theorem finalPolicy_clarification (h : InScope pipeline) {progress : Progress} {text : String}
    (hresponse : progress.response = speakerIdentityClarificationResponse text identity) :
    finalPolicy pipeline progress = .required := by
  rw [finalPolicy, hresponse, speakerIdentityPolicy, h.enabled]
  rfl

/-- What a turn has come to with its final policy: that is the last one, and where a clarification was
asked for it is not forbidden. -/
structure Settled (result : SpeakerIdentityResult) (turn : Progress) : Prop where
  identity : Tracks result turn.policies turn.identity
  clarified : ∀ identity ∈ turn.clarified, Tracks result turn.policies identity
  allowed : turn.clarified ≠ [] → Allowed turn

theorem applyFinalPolicy_settled (h : InScope pipeline)
    (hspeaker : answers.speaker = some fun _ => some result) {progress : Progress}
    (hp : Follows result progress) : Settled result (applyFinalPolicy pipeline answers progress) := by
  have hnext := hp.identity.next h hspeaker .finalPolicy (finalPolicy pipeline progress)
  -- After a clarification the final policy is known.
  have hrequired : progress.clarified ≠ [] → finalPolicy pipeline progress = .required := fun hne => by
    obtain ⟨text, identity, hresponse⟩ := hp.response hne
    exact finalPolicy_clarification h hresponse
  have hclarified : ∀ identity ∈ progress.clarified,
      Tracks result (progress.policies ++ [finalPolicy pipeline progress]) identity := by
    intro identity hidentity
    rw [hrequired (List.ne_nil_of_mem hidentity)]
    exact (hp.clarified identity hidentity).congr (by simp)
  have hallowed : progress.clarified ≠ [] →
      (progress.policies ++ [finalPolicy pipeline progress]).getLast? ≠ some .forbidden := fun hne => by
    rw [List.getLast?_concat, hrequired hne]
    decide
  simp only [applyFinalPolicy]
  split_ifs with hsame hblocks
  · have hmem : .forbidden ∈ progress.policies ++ [finalPolicy pipeline progress] ↔
        .forbidden ∈ progress.policies := by
      rw [List.mem_append, List.mem_singleton]
      exact ⟨fun hor => hor.elim id fun heq => heq ▸ hsame ▸ hp.policy, .inl⟩
    exact ⟨hp.identity.congr hmem, hclarified, hallowed⟩
  · refine ⟨hnext, ?_, ?_⟩
    · intro identity hidentity
      obtain hold | hnew := List.mem_append.mp hidentity
      · exact hclarified identity hold
      · obtain rfl := List.mem_singleton.mp hnew
        exact hnext
    · intro _
      have hfinal : finalPolicy pipeline progress = .required := by
        simp only [blocksRequiredPolicy, Bool.and_eq_true, decide_eq_true_eq] at hblocks
        exact hblocks.1
      rw [Allowed, List.getLast?_concat, hfinal]
      decide
  · exact ⟨hnext, hclarified, hallowed⟩

theorem completeTurn_settled (h : InScope pipeline)
    (hspeaker : answers.speaker = some fun _ => some result) :
    Settled result (completeTurn pipeline answers) := by
  have hfinal := applyFinalPolicy_settled h hspeaker (takePasses_follows h hspeaker)
  have hoverride : Settled result (applyFinalOverride pipeline answers
      (applyFinalPolicy pipeline answers (takePasses pipeline answers))) :=
    ⟨hfinal.identity.override h hspeaker _ _ _ _, hfinal.clarified, hfinal.allowed⟩
  have hadmin (progress : Progress) (hp : Settled result progress) :
      Settled result (applyAdminDecision pipeline answers progress) := by
    simp only [applyAdminDecision]
    split
    · exact hp
    · exact ⟨hp.identity, hp.clarified, hp.allowed⟩
  have haudience (progress : Progress) (hp : Settled result progress) :
      Settled result (applyAudiencePolicy pipeline progress) :=
    ⟨hp.identity, hp.clarified, hp.allowed⟩
  exact haudience _ (hadmin _ hoverride)

end

/-- **The speaker does not depend on earlier policies exactly if none of them was forbidden.** -/
theorem independent_iff (pipeline : Pipeline) (answers : Answers) (result : SpeakerIdentityResult)
    (h : InScope pipeline) (hspeaker : answers.speaker = some fun _ => some result) :
    Independent result (completeTurn pipeline answers) ↔
      StaysAllowed (completeTurn pipeline answers) ∨ LooksSkipped result := by
  have hturn := completeTurn_settled h hspeaker
  constructor
  · intro hindependent
    by_cases hskipped : LooksSkipped result
    · exact .inr hskipped
    · refine .inl fun hallowed hforbidden => hskipped ?_
      have hleft := hturn.identity.skipped hforbidden
      have hsame := hindependent.identity hallowed
      exact ⟨hsame.status.symm.trans hleft.status, hsame.profileId.symm.trans hleft.profileId,
        hsame.speakerPublicId.symm.trans hleft.speakerPublicId⟩
  · intro hcondition
    have hsame (identity : SpeakerIdentityResult)
        (ht : Tracks result (completeTurn pipeline answers).policies identity)
        (hallowed : Allowed (completeTurn pipeline answers)) : SameSpeaker result identity := by
      by_cases hforbidden : .forbidden ∈ (completeTurn pipeline answers).policies
      · have hleft := ht.skipped hforbidden
        have hresult := hcondition.resolve_left fun hstays => hstays hallowed hforbidden
        exact ⟨hleft.status.trans hresult.status.symm, hleft.profileId.trans hresult.profileId.symm,
          hleft.speakerPublicId.trans hresult.speakerPublicId.symm⟩
      · exact ht.same hforbidden
    refine ⟨hsame _ hturn.identity, fun identity hidentity => ?_⟩
    exact hsame identity (hturn.clarified identity hidentity)
      (hturn.allowed (List.ne_nil_of_mem hidentity))

/-! ### A timer -/

/-- The speaker is known from the start. -/
private def ana : SpeakerIdentityResult :=
  { status := "identified", policy := .useIfReady, active := true, profileId := some "ana"
    speakerPublicId := some "spk_ana" }

/-- A timer is asked for, by an intent with a policy. -/
private def timerAnswers (policy : String) : Answers :=
  { Answers.heard "set a timer" with
    speaker := some fun _ => some ana
    matchIntent := fun _ _ => some policy
    handleTurn := fun _ _ => ⟨"set a timer", some "timer.create", none⟩ }

private theorem household_inScope : InScope .household := ⟨rfl, rfl, rfl⟩

theorem speaker_of_timer :
    Independent ana (completeTurn .household (timerAnswers "not_required")) := by
  apply (independent_iff .household (timerAnswers "not_required") ana household_inScope
    rfl).mpr
  refine .inl fun _ => ?_
  decide +kernel

/-- The local intent forbids the speaker identity, the command does not. -/
theorem timer_without_speaker :
    ¬ ∀ (pipeline : Pipeline) (answers : Answers) (result : SpeakerIdentityResult), InScope pipeline →
      (answers.speaker = some fun _ => some result) →
      Independent result (completeTurn pipeline answers) := by
  intro hclaim
  have hindependent := hclaim .household (timerAnswers "forbidden") ana household_inScope rfl
  have hallowed : (completeTurn .household (timerAnswers "forbidden")).policies.getLast? ≠
      some .forbidden := by decide +kernel
  have hsame := (hindependent.identity hallowed).status
  exact absurd hsame (by decide +kernel)

end HexeVoice.Voice.CompleteTurn
