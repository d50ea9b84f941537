import HexeVoice.Admin.Guessing
import HexeVoice.Voice.RefusedTurns
import Mathlib

/-!
# Spoken passcodes in a turn

What becomes of a passcode between `AssistantTurnService.handle_turn`, `complete_turn` and
`VoiceAdminMaintenanceStore.evaluate`.

## What is proved

**`gate_opens_iff`**: in a turn that everything else lets through, the configured passcode opens the gate
exactly if it is still read from the text that is recorded for the intent.
-/

namespace HexeVoice.Voice.CompleteTurn

open HexeVoice.Library HexeVoice.Admin

/-! ### The store in a turn -/

/-- The admin store of a turn, and what it is given of the audio. -/
structure AdminStore where
  chars : CharTable
  /-- The digest of a passcode, with a salt and the number of iterations that is stored. -/
  hash : String → String → ℤ → String
  state : VoiceAdminMaintenanceState
  audio : Option AudioQuality
  clock : Clock

/-- A float, as it is compared. -/
def number : PyFloat → Number
  | .finite q => .value q
  | .infinite negative => .value (if negative then -1 else 1)
  | .nan => .nan

/-- `as_context`, as the store reads it. -/
def speakerContext (identity : SpeakerIdentityResult) : SpeakerIdentity where
  status := some identity.status
  speakerPublicId := identity.speakerPublicId
  adminEligible := identity.adminEligible
  confidence := identity.confidence.map number
  scoreMargin := identity.scoreMargin.map number

namespace AdminStore

variable (store : AdminStore)

/-- `_hash_passcode`. -/
def pbkdf2 (passcode salt : String) (iterations : ℤ) : Except StoreError String :=
  .ok (store.hash passcode salt iterations)

/-- A call of `evaluate`. -/
def call (text intent_id : String) (identity : Option SpeakerIdentityResult) :
    EStateM.Result StoreError VoiceAdminMaintenanceState AdminMaintenanceDecision :=
  Admin.evaluate store.chars store.pbkdf2 text (some intent_id) (identity.map speakerContext)
    store.audio none store.clock store.state

/-- The decision of a call that does not raise. -/
def evaluate (text intent_id : String) (identity : Option SpeakerIdentityResult) :
    AdminMaintenanceDecision :=
  match store.call text intent_id identity with
  | .ok decision _ => decision
  | .error _ _ => ⟨false, "", intent_id, none⟩

/-- The file, without a lockout that has expired. -/
def swept : VoiceAdminMaintenanceState := cleared store.state store.clock.first

/-- The passcode that is read from the text is the configured one. -/
def Reads (hashed : PasscodeHash) (text : String) : Prop :=
  ∃ passcode, extractSpokenPasscode store.chars text = some passcode ∧
    verifyPasscode store.pbkdf2 passcode hashed = .ok true

/-- The store is enabled for the intent and not locked, and lets the speaker and the audio through. -/
def Admits (hashed : PasscodeHash) (intent_id : String) (identity : SpeakerIdentityResult) : Prop :=
  admitted store.swept (strip intent_id) (some (speakerContext identity)) store.audio = .ok hashed

variable {store} {hashed : PasscodeHash} {text intent_id : String} {identity : SpeakerIdentityResult}

theorem verifyPasscode_eq (passcode : String) :
    verifyPasscode store.pbkdf2 passcode hashed =
      if hashed.algorithm ≠ "pbkdf2_sha256" then .ok false
      else if hashed.digest.toList.any (128 ≤ ·.toNat) then .error .typeError
      else .ok (store.hash passcode hashed.salt
        (if hashed.iterations = 0 then passcodeIterations else hashed.iterations) = hashed.digest) := by
  simp only [verifyPasscode, pbkdf2, bind, Except.bind, throw, throwThe, MonadExceptOf.throw, pure,
    Except.pure]

/-- Where some passcode verifies, checking another does not raise. -/
theorem Reads.verifies (h : store.Reads hashed text) (passcode : String) :
    ∃ verified, verifyPasscode store.pbkdf2 passcode hashed = .ok verified := by
  obtain ⟨spoken, -, hspoken⟩ := h
  rw [verifyPasscode_eq] at hspoken ⊢
  split_ifs at hspoken ⊢
  all_goals exact ⟨_, rfl⟩

/-- The passcode is missing or wrong exactly if the configured one is not read. -/
theorem passcodeFailure_cases (hverifies : ∀ passcode, ∃ verified,
      verifyPasscode store.pbkdf2 passcode hashed = .ok verified) (text : String) :
    (store.Reads hashed text ∧ passcodeFailure store.chars store.pbkdf2 text hashed = .ok none) ∨
      (¬ store.Reads hashed text ∧
        ∃ reason, passcodeFailure store.chars store.pbkdf2 text hashed = .ok (some reason)) := by
  cases hextract : extractSpokenPasscode store.chars text with
  | none =>
    refine .inr ⟨?_, "admin_passcode_missing", ?_⟩
    · rintro ⟨passcode, hpasscode, -⟩
      cases hextract.symm.trans hpasscode
    · simp only [passcodeFailure, hextract]
      rfl
  | some passcode =>
    obtain ⟨verified, hverified⟩ := hverifies passcode
    cases verified with
    | true =>
      refine .inl ⟨⟨passcode, hextract, hverified⟩, ?_⟩
      simp only [passcodeFailure, hextract, hverified]
      rfl
    | false =>
      refine .inr ⟨?_, "admin_passcode_wrong", ?_⟩
      · rintro ⟨other, hother, hcorrect⟩
        obtain rfl := Option.some.inj (hextract.symm.trans hother)
        cases hverified.symm.trans hcorrect
      · simp only [passcodeFailure, hextract, hverified]
        rfl

/-- The store lets through what reads the configured passcode, and counts what does not. -/
theorem call_cases (h : store.Admits hashed intent_id identity)
    (hverifies : ∀ passcode, ∃ verified, verifyPasscode store.pbkdf2 passcode hashed = .ok verified)
    (text : String) :
    (store.Reads hashed text ∧
        store.evaluate text intent_id (some identity) =
          ⟨true, "admin_maintenance_allowed", strip intent_id, none⟩ ∧
        ((fileAfter (store.call text intent_id (some identity))).failedAttempts = 0)) ∨
      (¬ store.Reads hashed text ∧
        (fileAfter (store.call text intent_id (some identity))).failedAttempts =
          store.swept.failedAttempts + 1) := by
  have hcall := evaluate_eq store.chars store.pbkdf2 store.state text (some intent_id)
    (some (speakerContext identity)) store.audio none store.clock
  rw [if_neg (by simp)] at hcall
  have hadmitted := h
  unfold Admits swept at hadmitted
  simp only [Option.getD_none, Option.getD_some, hadmitted] at hcall
  have hcall' : store.call text intent_id (some identity) = _ := hcall
  unfold evaluate
  obtain ⟨hreads, hfailure⟩ | ⟨hreads, reason, hfailure⟩ := passcodeFailure_cases hverifies text
  · rw [hfailure] at hcall'
    refine .inl ⟨hreads, ?_, ?_⟩
    · rw [hcall']
    · rw [hcall']
      simp only [fileAfter]
      split_ifs with hcount
      · rfl
      · exact not_not.mp hcount
  · rw [hfailure] at hcall'
    refine .inr ⟨hreads, ?_⟩
    rw [hcall']
    rfl

end AdminStore

/-! ### The last pass -/

section

variable (pipeline : Pipeline) (answers : Answers)

/-- What the assistant is asked in the last pass, if it is. -/
def lastRequest : Option (Pass × AssistantTurnRequest) :=
  match fallbackTranscript answers (firstPass pipeline answers) with
  | none => (firstRequest pipeline answers).map (Pass.primary, ·)
  | some _ => (secondRequest pipeline answers).map (Pass.fallback, ·)

variable {pipeline answers}

/-- The turn has come to what the assistant answered last, and to the text that it heard. -/
theorem takePasses_answered {pass : Pass} {request : AssistantTurnRequest}
    (h : lastRequest pipeline answers = some (pass, request)) :
    (takePasses pipeline answers).response = answers.handleTurn pass request ∧
      (takePasses pipeline answers).transcript.text = (answers.handleTurn pass request).heardText := by
  have htext : (takePasses pipeline answers).transcript.text =
      (takePasses pipeline answers).response.heardText := by
    simp only [takePasses]
    split <;> simp only [takePass]
  have hresponse : (takePasses pipeline answers).response = answers.handleTurn pass request := by
    simp only [takePasses]
    rw [← firstPass]
    simp only [lastRequest, secondRequest] at h
    cases hfallback : fallbackTranscript answers (firstPass pipeline answers) with
    | none =>
      rw [hfallback] at h
      obtain ⟨first, hfirst, hpair⟩ := Option.map_eq_some_iff.mp h
      obtain ⟨rfl, rfl⟩ := Prod.mk.inj hpair
      exact takePass_response hfirst
    | some fallback =>
      rw [hfallback, Option.bind_some] at h
      obtain ⟨second, hsecond, hpair⟩ := Option.map_eq_some_iff.mp h
      obtain ⟨rfl, rfl⟩ := Prod.mk.inj hpair
      exact takePass_response hsecond
  exact ⟨hresponse, htext.trans (congrArg _ hresponse)⟩

/-- What the final policy does not refuse is as the passes left it. -/
theorem beforeAdmin_answered
    (h : finalPolicyRefuses pipeline answers (takePasses pipeline answers) = false) :
    (beforeAdmin pipeline answers).response = (takePasses pipeline answers).response ∧
      (beforeAdmin pipeline answers).transcript = (takePasses pipeline answers).transcript := by
  simp only [finalPolicyRefuses, Bool.and_eq_false_iff, decide_eq_false_iff_not, not_not] at h
  simp only [beforeAdmin, applyFinalOverride, applyFinalPolicy]
  split_ifs with hsame hblocks
  · exact ⟨rfl, rfl⟩
  · rw [hblocks] at h
    exact absurd (h.resolve_right (by simp)) hsame
  · exact ⟨rfl, rfl⟩

end

/-! ### The gate -/

/-- The answers of a turn with the assistant and the admin store. -/
def Answers.withStore (answers : Answers) (assistant : Assistant) (store : AdminStore) : Answers :=
  { answers with handleTurn := assistant.handleTurn, evaluate := some store.evaluate }

/-- The refusal of the admin store has this reason. -/
def AssistantTurnResponse.RefusedFor (response : AssistantTurnResponse) (reason : String) : Prop :=
  response.command = some "voice.admin_maintenance.refused" ∧
    (Json.object ((response.providerMetadata.getD .empty).get "admin_maintenance")).get "reason" =
      some (.str reason)

section

variable (pipeline : Pipeline) (answers : Answers) (assistant : Assistant) (store : AdminStore)

/-- The file after the turn. -/
def AdminStore.afterTurn : VoiceAdminMaintenanceState :=
  match adminMaintenanceIntentId pipeline (beforeAdmin pipeline answers).response with
  | none => store.state
  | some intent_id =>
    fileAfter (store.call (beforeAdmin pipeline answers).transcript.text intent_id
      (some (beforeAdmin pipeline answers).identity))

/-- The turn is not refused for its passcode, and no failed attempt is counted. -/
structure GateOpens : Prop where
  response : ∀ reason ∈ ["admin_passcode_missing", "admin_passcode_wrong"],
    ¬ (completeTurn pipeline answers).response.RefusedFor reason
  attempts : (store.afterTurn pipeline answers).failedAttempts ≤ store.swept.failedAttempts

/-- A turn whose last text matches an admin intent and reads the configured passcode, and that
everything but the passcode lets through. -/
structure AdminTurn (pass : Pass) (request : AssistantTurnRequest) (intent : IntentMatch)
    (intent_id : String) (hashed : PasscodeHash) : Prop where
  asked : lastRequest pipeline answers = some (pass, request)
  matched : assistant.matched pass request = some intent
  admin : adminMaintenanceIntentId pipeline (assistant.handleTurn pass request) = some intent_id
  spoken : store.Reads hashed request.text
  policy : finalPolicyRefuses pipeline answers (takePasses pipeline answers) = false
  admits : store.Admits hashed intent_id (beforeAdmin pipeline answers).identity
  counts : 0 ≤ store.state.failedAttempts

variable {pipeline answers assistant store}

theorem AdminStore.swept_nonneg (h : 0 ≤ store.state.failedAttempts) :
    0 ≤ store.swept.failedAttempts := by
  unfold swept cleared
  split
  · exact h
  · split_ifs
    · exact h
    · exact le_rfl

/-- What the store allows is not refused for the passcode. -/
theorem not_refusedFor {decision : AdminMaintenanceDecision}
    (h : evaluated pipeline answers = some decision) (hallowed : decision.allowed = true)
    {reason : String} (hreason : decision.reason ≠ reason) :
    ¬ (completeTurn pipeline answers).response.RefusedFor reason := by
  rintro ⟨hcommand, hmetadata⟩
  have hcompleted : completeTurn pipeline answers = applyAudiencePolicy pipeline
      (applyAdminDecision pipeline answers (beforeAdmin pipeline answers)) := rfl
  unfold evaluated at h
  rw [hcompleted] at hcommand hmetadata
  simp only [applyAudiencePolicy, applyAdminDecision, h, hallowed, Bool.not_true, Bool.false_eq_true,
    if_false] at hcommand hmetadata
  split_ifs at hcommand hmetadata with hblocked
  · simp [audiencePolicyRefusalResponse] at hcommand
  · have hother : "admin_maintenance" ≠ "admin_passcode_verified" := by decide
    simp only [withAdminMaintenanceMetadata, Option.getD_some, Dict.get_set_of_ne _ _ hother,
      Dict.get_set_self, decisionMetadata, Json.object] at hmetadata
    have hsame : some (Json.str decision.reason) = some (Json.str reason) := hmetadata
    exact hreason (Json.str.inj (Option.some.inj hsame))

section

variable {base : Answers} {pass : Pass} {request : AssistantTurnRequest} {intent : IntentMatch}
  {intent_id : String} {hashed : PasscodeHash}

/-- The store is asked about the text that is recorded for the intent. -/
theorem AdminTurn.beforeAdmin_eq (h : AdminTurn pipeline (base.withStore assistant store) assistant store
      pass request intent intent_id hashed) :
    adminMaintenanceIntentId pipeline
        (beforeAdmin pipeline (base.withStore assistant store)).response = some intent_id ∧
      (beforeAdmin pipeline (base.withStore assistant store)).transcript.text =
        recordedHeardText assistant.chars intent (assistant.heard request).text := by
  obtain ⟨hresponse, htranscript⟩ := beforeAdmin_answered h.policy
  obtain ⟨hanswered, htext⟩ := takePasses_answered h.asked
  obtain ⟨hheard, -⟩ := assistant.handleTurn_matched h.matched
  constructor
  · rw [hresponse, hanswered]
    exact h.admin
  · rw [htranscript, htext, ← hheard]
    rfl

/-- An admin turn leaves the file as the call leaves it. -/
theorem AdminTurn.afterTurn_eq (h : AdminTurn pipeline (base.withStore assistant store) assistant store
      pass request intent intent_id hashed) :
    store.afterTurn pipeline (base.withStore assistant store) =
      fileAfter (store.call (recordedHeardText assistant.chars intent (assistant.heard request).text)
        intent_id (some (beforeAdmin pipeline (base.withStore assistant store)).identity)) := by
  obtain ⟨hadmin, htext⟩ := h.beforeAdmin_eq
  simp only [AdminStore.afterTurn, hadmin, htext]

theorem AdminTurn.evaluated_eq (h : AdminTurn pipeline (base.withStore assistant store) assistant store
      pass request intent intent_id hashed) :
    evaluated pipeline (base.withStore assistant store) = some (store.evaluate
      (recordedHeardText assistant.chars intent (assistant.heard request).text) intent_id
      (some (beforeAdmin pipeline (base.withStore assistant store)).identity)) := by
  obtain ⟨hadmin, htext⟩ := h.beforeAdmin_eq
  rw [evaluated, adminMaintenanceDecision, hadmin, htext]
  rfl

/-- A recorded text that does not read the passcode is a failed attempt. -/
theorem AdminTurn.closed (h : AdminTurn pipeline (base.withStore assistant store) assistant store
      pass request intent intent_id hashed)
    (hreads : ¬ store.Reads hashed
      (recordedHeardText assistant.chars intent (assistant.heard request).text)) :
    ¬ GateOpens pipeline (base.withStore assistant store) store := by
  intro hopens
  have hattempts := hopens.attempts
  obtain ⟨hyes, -⟩ | ⟨-, hcount⟩ := AdminStore.call_cases h.admits h.spoken.verifies
    (recordedHeardText assistant.chars intent (assistant.heard request).text)
  · exact hreads hyes
  · rw [h.afterTurn_eq, hcount] at hattempts
    omega

end

end

/-- **The gate opens exactly if the recorded text still reads the configured passcode.** -/
theorem gate_opens_iff (pipeline : Pipeline) (base : Answers) (assistant : Assistant)
    (store : AdminStore) (pass : Pass) (request : AssistantTurnRequest) (intent : IntentMatch)
    (intent_id : String) (hashed : PasscodeHash)
    (h : AdminTurn pipeline (base.withStore assistant store) assistant store pass request intent
      intent_id hashed) :
    GateOpens pipeline (base.withStore assistant store) store ↔
      store.Reads hashed (recordedHeardText assistant.chars intent (assistant.heard request).text) := by
  constructor
  · intro hopens
    by_contra hreads
    exact h.closed hreads hopens
  · intro hreads
    have hcases := AdminStore.call_cases h.admits h.spoken.verifies
      (recordedHeardText assistant.chars intent (assistant.heard request).text)
    obtain ⟨-, hallowed, hcount⟩ | ⟨hno, -⟩ := hcases
    · have hevaluated := h.evaluated_eq
      rw [hallowed] at hevaluated
      refine ⟨fun reason hreason => not_refusedFor hevaluated rfl ?_, ?_⟩
      · rintro rfl
        simp at hreason
      · rw [h.afterTurn_eq, hcount]
        exact AdminStore.swept_nonneg h.counts
    · exact absurd hreads hno

/-! ### Spoken digits -/

deriving instance DecidableEq for PasscodeHash, AdminMaintenanceDecision

private def vaultHash : PasscodeHash := ⟨"pbkdf2_sha256", passcodeIterations, "salt", "1234"⟩

/-- The passcode is 1234, and the debug mode can be started by one speaker. -/
private def vaultStore : AdminStore where
  chars := .ascii
  hash := fun passcode _ _ => passcode
  state :=
    { enabled := true, adminSpeakerPublicIds := ["spk_1"]
      enabledIntents := ⟨[("admin.debug.start", true)]⟩, passcodeHash := some vaultHash }
  audio := some ⟨[]⟩
  clock := ⟨0, 0⟩

private def debugIntent : IntentMatch := { intent := "admin.debug.start", command := "admin.debug.start" }

private def vaultAssistant : Assistant := .matching debugIntent

private def adminSpeaker : SpeakerIdentityResult :=
  { status := "identified", policy := .useIfReady, active := true, speakerPublicId := some "spk_1"
    ageBand := some "adult", adminEligible := true, confidence := some (.finite (99 / 100))
    scoreMargin := some (.finite (30 / 100)) }

/-- The admin speaker says a text. -/
private def spokenAnswers (text : String) : Answers :=
  { Answers.heard text with speaker := some fun _ => some adminSpeaker }

/-- What the evaluation of a turn shows of it. -/
private structure Spoken (text : String) : Prop where
  asked : (lastRequest .household
    ((spokenAnswers text).withStore vaultAssistant vaultStore)).map (·.2.text) = some text
  heard : strip text ≠ ""
  read : extractSpokenPasscode .ascii text = some "1234"
  policy : finalPolicyRefuses .household ((spokenAnswers text).withStore vaultAssistant vaultStore)
    (takePasses .household ((spokenAnswers text).withStore vaultAssistant vaultStore)) = false
  admits : admitted vaultStore.swept (strip "admin.debug.start")
    (some (speakerContext (beforeAdmin .household
      ((spokenAnswers text).withStore vaultAssistant vaultStore)).identity)) vaultStore.audio = .ok vaultHash

private theorem vaultStore_reads {text : String} (h : extractSpokenPasscode .ascii text = some "1234") :
    vaultStore.Reads vaultHash text := by
  refine ⟨"1234", h, ?_⟩
  rw [AdminStore.verifyPasscode_eq, if_neg (by decide), if_neg (by decide +kernel)]
  rfl

private theorem Spoken.adminTurn {text : String} (h : Spoken text) :
    ∃ pass request, request.text = text ∧
      AdminTurn .household ((spokenAnswers text).withStore vaultAssistant vaultStore) vaultAssistant
        vaultStore pass request debugIntent "admin.debug.start" vaultHash := by
  obtain ⟨⟨pass, request⟩, hasked, htext⟩ := Option.map_eq_some_iff.mp h.asked
  have htext : request.text = text := htext
  have hmatched : vaultAssistant.matched pass request = some debugIntent := by
    have hheard : (vaultAssistant.heard request).text ≠ "" := by
      rw [Assistant.heard, htext]
      exact h.heard
    simp only [Assistant.matched, if_neg hheard]
    rfl
  have hcommand : strip ((some debugIntent.command).getD "") = "admin.debug.start" := by decide +kernel
  refine ⟨pass, request, htext, hasked, hmatched, ?_, ?_, h.policy, h.admits, le_rfl⟩
  · rw [adminMaintenanceIntentId, (vaultAssistant.handleTurn_matched hmatched).2, hcommand]
    exact if_pos (by decide +kernel)
  · rw [htext]
    exact vaultStore_reads h.read

private theorem spoken_digits : Spoken "start debug mode 1234" :=
  ⟨by decide +kernel, by decide +kernel, by decide +kernel, by decide +kernel, by decide +kernel⟩

private theorem spoken_mixed : Spoken "start debug mode 1 two 3 four" :=
  ⟨by decide +kernel, by decide +kernel, by decide +kernel, by decide +kernel, by decide +kernel⟩

/-- The correct passcode, spoken as digits, is a failed attempt. -/
theorem spoken_digits_counted :
    ¬ ∀ (pipeline : Pipeline) (base : Answers) (assistant : Assistant) (store : AdminStore)
      (pass : Pass) (request : AssistantTurnRequest) (intent : IntentMatch) (intent_id : String)
      (hashed : PasscodeHash),
      AdminTurn pipeline (base.withStore assistant store) assistant store pass request intent intent_id
          hashed →
        GateOpens pipeline (base.withStore assistant store) store := by
  intro hclaim
  obtain ⟨pass, request, -, hturn⟩ := spoken_digits.adminTurn
  have hattempts := (hclaim _ _ _ _ _ _ _ _ _ hturn).attempts
  have hcounted : (vaultStore.afterTurn .household ((spokenAnswers "start debug mode 1234").withStore
      vaultAssistant vaultStore)).failedAttempts = 1 := by
    decide +kernel
  rw [hcounted] at hattempts
  exact absurd hattempts (by decide +kernel)

/-- Digits and words by turns are not redacted. -/
theorem gate_opens_for_mixed :
    GateOpens .household ((spokenAnswers "start debug mode 1 two 3 four").withStore vaultAssistant
      vaultStore) vaultStore := by
  obtain ⟨pass, request, htext, hturn⟩ := spoken_mixed.adminTurn
  refine (gate_opens_iff _ _ _ _ _ _ _ _ _ hturn).mpr ?_
  have hrecorded : extractSpokenPasscode .ascii (recordedHeardText .ascii debugIntent
      (strip "start debug mode 1 two 3 four")) = some "1234" := by
    decide +kernel
  rw [Assistant.heard, htext]
  exact vaultStore_reads hrecorded

end HexeVoice.Voice.CompleteTurn
