import HexeVoice.Voice.Frames
import HexeVoice.Voice.Sessions

/-!
# Rejected events

## What is proved

Each handler that answers one error with a rejection code leaves its runtime as it was (the
lemmas `*_rejects`), with one exception: `_handle_session_start` cancels the session that a new
one may replace before it validates the new one's payload. **`rejection_changes_nothing`**: so
an event whose handling answers a rejection changes nothing, exactly when it is not such a
`session.start`.
-/

namespace HexeVoice.Voice

open HexeVoice.Library Std.Do

set_option mvcgen.warning false

/-- A new session replaces the active one, though its own payload is not valid: the active one
is of the same endpoint, is not completed as a capture, is not kept for a timer alarm, may be
replaced, and its record can be stored. -/
def Desk.replacedForNothing (d : Desk) (cfg : Config) (ev : VoiceEventEnvelope) : Bool :=
  ev.eventType = .sessionStart && !d.shouldCompletePlacementTestOnNewSession ev &&
    !d.shouldCompleteSpeakerEnrollmentOnNewSession ev && !d.canMergePlaybackInterruptEvent ev &&
    d.canReplace ev && d.persists cfg && !ev.payload.sessionStart.isOk

/-! ### The handlers -/

section handlers

variable (d : Desk) (cfg : Config) (ans : Answers) (ev : VoiceEventEnvelope)

/-- Where the computation answers a rejection, the runtime is as it was. -/
abbrev Rejects (c : Local (List BackendEvent)) : Prop :=
  Ends d c (fun es d' => isRejection es = true → d'.self = d.self) fun _ _ => True

theorem handleAudioEnd_rejects :
    Ends d (handleAudioEnd cfg ans ev)
      (fun es d' => es ≠ [] ∧ (isRejection es = true → d'.self = d.self)) fun _ _ => True := by
  unfold handleAudioEnd
  mvcgen [cancelBeforeWake_concludes, completeAudio_concludes] <;> simp_all

theorem handleSessionCancel_rejects : Rejects d (handleSessionCancel cfg ev) := by
  unfold handleSessionCancel
  mvcgen <;> simp_all

theorem handleSessionPing_rejects : Rejects d (handleSessionPing ev) := by
  unfold handleSessionPing
  mvcgen <;> simp_all

theorem handleVadSpeechStarted_rejects : Rejects d (handleVadSpeechStarted ev) := by
  unfold handleVadSpeechStarted
  mvcgen <;> simp_all

theorem handleVadSpeechEnded_rejects : Rejects d (handleVadSpeechEnded ev) := by
  unfold handleVadSpeechEnded
  mvcgen <;> simp_all

theorem handleCommandAck_rejects : Rejects d (handleCommandAck ev) := by
  unfold handleCommandAck
  mvcgen <;> simp_all

theorem handleCommandError_rejects : Rejects d (handleCommandError ev) := by
  unfold handleCommandError
  mvcgen <;> simp_all

theorem handleUiButtonPressed_rejects : Rejects d (handleUiButtonPressed ev) := by
  unfold handleUiButtonPressed
  mvcgen <;> simp_all

theorem handleUiScreenChanged_rejects : Rejects d (handleUiScreenChanged ev) := by
  unfold handleUiScreenChanged
  mvcgen <;> simp_all

theorem handleTtsPlaybackEvent_rejects : Rejects d (handleTtsPlaybackEvent cfg ev) := by
  unfold handleTtsPlaybackEvent
  mvcgen <;> simp_all +zetaDelta
  split <;> simp

theorem audioChunkUntilElection_rejects :
    Ends d (audioChunkUntilElection cfg ans ev)
      (fun r d' => ∀ es, r = .error es → isRejection es = true → d'.self = d.self)
      fun _ _ => True := by
  unfold audioChunkUntilElection activeSessionTimeoutReason cancelTimedOutActiveSession
  mvcgen <;> simp_all

theorem audioChunkAfterElection_answers (c : ChunkProgress) :
    Ends d (audioChunkAfterElection cfg c) (fun es _ => isRejection es = false) fun _ _ => True := by
  unfold audioChunkAfterElection acceptBackendCandidate acceptWakeCandidate
  mvcgen

theorem wakeCandidateUntilElection_rejects :
    Ends d (wakeCandidateUntilElection ev)
      (fun r d' => ∀ es, r = .error es → isRejection es = true → d'.self = d.self)
      fun _ _ => True := by
  unfold wakeCandidateUntilElection wakeElectionEvent
  mvcgen <;> simp_all +zetaDelta

theorem wakeCandidateAfterElection_answers (session : VoiceSessionSnapshot)
    (candidate : WakeCandidate) (decision : WakeElectionDecision) :
    Ends d (wakeCandidateAfterElection cfg session candidate decision)
      (fun es _ => isRejection es = false) fun _ _ => True := by
  unfold wakeCandidateAfterElection acceptWakeCandidate
  mvcgen

theorem startSession_rejects :
    Ends d (startSession ev)
      (fun es d' => isRejection es = true → d'.self = d.self ∧ ev.payload.sessionStart.isOk = false)
      fun _ _ => True := by
  unfold startSession
  mvcgen <;> simp_all +zetaDelta [Except.isOk, Except.toBool]

/-- A capture that a new session completes is answered for, and what is answered after it
rejects nothing. -/
theorem completeThenStart_rejects (reason : String) (hsome : d.self.activeSession ≠ none) :
    Rejects d (completeThenStart cfg ans ev reason) := by
  unfold completeThenStart
  mvcgen [handleAudioEnd_rejects, startSession_rejects] <;> simp_all
  rename_i completed d₁ _ _ _ hcompleted hnone _
  have hno : isRejection completed = false := by
    by_contra hyes
    rw [hcompleted.2 (by simpa using hyes)] at hnone
    exact hsome hnone
  simp [isRejection_append hcompleted.1 hno]

/-- Where `_handle_session_start` answers a rejection, the runtime is as it was, but where a
session was replaced for a payload that is not valid. -/
theorem handleSessionStart_rejects (htype : ev.eventType = .sessionStart) :
    Ends d (handleSessionStart cfg ans ev)
      (fun es d' => isRejection es = true → d'.self = d.self ∨ d.replacedForNothing cfg ev = true)
      fun _ _ => True := by
  unfold handleSessionStart
  mvcgen [completeThenStart_rejects, startSession_rejects] <;>
    simp_all +zetaDelta [Desk.replacedForNothing]

theorem startSession_invalid (h : ev.payload.sessionStart.isOk = false) :
    Ends d (startSession ev) (fun es d' => isRejection es = true ∧ d' = d) fun _ _ => False := by
  unfold startSession
  cases hp : ev.payload.sessionStart with
  | ok payload => simp [hp, Except.isOk, Except.toBool] at h
  | error message => mvcgen

/-- A session that is replaced for a payload that is not valid is gone. -/
theorem handleSessionStart_replaces (h : d.replacedForNothing cfg ev = true) :
    Ends d (handleSessionStart cfg ans ev)
      (fun es d' => isRejection es = true ∧ d'.self.activeSession = none) fun _ _ => False := by
  simp only [Desk.replacedForNothing, Bool.and_eq_true, Bool.not_eq_true'] at h
  obtain ⟨⟨⟨⟨⟨⟨-, hplacement⟩, henrollment⟩, hmerge⟩, hreplace⟩, hpersists⟩, hinvalid⟩ := h
  have hinvalid' := fun d' => startSession_invalid d' ev hinvalid
  unfold handleSessionStart
  mvcgen [hinvalid'] <;> simp_all

end handlers

/-! ### The manager -/

section manager

variable {cfg : Config} {ans : Answers} {transport : Transport} {i : RuntimeId}
  {ev : VoiceEventEnvelope} {v : VoiceSessionManager}

/-- The manager's runtimes hold what they held, and the history store has no new record. -/
def VoiceSessionManager.Untouched (v v' : VoiceSessionManager) : Prop :=
  ∀ j, (v'.sessions j).held = (v.sessions j).held ∧ (v'.sessions j).upserts = (v.sessions j).upserts

theorem untouched_putDesk {d : Desk} (h : d.self = v.sessions i) : v.Untouched (v.putDesk i d) := by
  intro j
  by_cases hj : j = i
  · subst hj
    rw [VoiceSessionManager.putDesk_sessions_self, h]
    exact ⟨rfl, rfl⟩
  · rw [VoiceSessionManager.putDesk_sessions_of_ne _ _ _ _ hj]
    exact ⟨rfl, rfl⟩

/-- Where the computation answers a rejection, the manager is untouched. -/
abbrev RejectsUntouched (v : VoiceSessionManager) (c : ManagerM (List BackendEvent)) : Prop :=
  Ends v c (fun es v' => isRejection es = true → v.Untouched v') fun _ _ => True

theorem onDesk_rejects {c : Local (List BackendEvent)} (h : Rejects (v.desk i) c) :
    RejectsUntouched v (onDesk i c) := by
  refine (onDesk_ends h).mono ?_ fun _ _ _ => trivial
  rintro es _ ⟨d, rfl, hd⟩ hrejected
  exact untouched_putDesk (hd hrejected)

theorem handleAudioChunk_rejects : RejectsUntouched v (handleAudioChunk cfg ans i ev) := by
  unfold handleAudioChunk
  refine .bind ((onDesk_ends (audioChunkUntilElection_rejects _ cfg ans ev)).mono
    (fun _ _ h => h) fun _ _ _ => trivial) ?_
  rintro r _ ⟨d, rfl, hd⟩
  cases r with
  | error es => exact .pure fun hrejected => untouched_putDesk (hd es rfl hrejected)
  | ok progress =>
    have hafter (w : VoiceSessionManager) :
        Ends w (onDesk i (audioChunkAfterElection cfg progress))
          (fun es v' => isRejection es = true → v.Untouched v') fun _ _ => True := by
      refine (onDesk_ends (audioChunkAfterElection_answers _ cfg progress)).mono ?_
        fun _ _ _ => trivial
      rintro es _ ⟨d', rfl, hno⟩ hrejected
      rw [hno] at hrejected
      cases hrejected
    dsimp only
    split
    · split
      · exact .bind (.trivial _ _) fun _ w _ => hafter w
      · exact hafter _
    · exact hafter _

theorem handleWakeCandidate_rejects : RejectsUntouched v (handleWakeCandidate cfg i ev) := by
  unfold handleWakeCandidate
  refine .bind ((onDesk_ends (wakeCandidateUntilElection_rejects _ ev)).mono
    (fun _ _ h => h) fun _ _ _ => trivial) ?_
  rintro r _ ⟨d, rfl, hd⟩
  match r with
  | .error es => exact .pure fun hrejected => untouched_putDesk (hd es rfl hrejected)
  | .ok (session, candidate, decision) =>
    refine .bind (.trivial _ _) fun _ v₁ _ => ?_
    refine (onDesk_ends (wakeCandidateAfterElection_answers _ cfg session candidate decision)).mono
      ?_ fun _ _ _ => trivial
    rintro es _ ⟨d', rfl, hno⟩ hrejected
    rw [hno] at hrejected
    cases hrejected

/-- The handler that an event is dispatched to answers rejections with the manager untouched, but
where a session was replaced for a payload that is not valid. -/
theorem dispatch_rejects (h : (v.desk i).replacedForNothing cfg ev = false) :
    RejectsUntouched v (dispatch cfg ans i ev) := by
  unfold dispatch
  split
  case h_1 htype =>
    refine onDesk_rejects ((handleSessionStart_rejects _ cfg ans ev htype).mono ?_ fun _ _ h => h)
    exact fun es d hd hrejected => (hd hrejected).resolve_right (by simp [h])
  case h_2 => exact handleAudioChunk_rejects
  case h_3 =>
    exact onDesk_rejects ((handleAudioEnd_rejects _ cfg ans ev).mono (fun _ _ h => h.2)
      fun _ _ h => h)
  case h_4 => exact onDesk_rejects (handleVadSpeechStarted_rejects _ ev)
  case h_5 => exact onDesk_rejects (handleVadSpeechEnded_rejects _ ev)
  case h_6 => exact handleWakeCandidate_rejects
  case h_7 => exact onDesk_rejects (handleSessionCancel_rejects _ cfg ev)
  case h_8 => exact onDesk_rejects (handleSessionPing_rejects _ ev)
  case h_9 => exact onDesk_rejects (handleCommandAck_rejects _ ev)
  case h_10 => exact onDesk_rejects (handleCommandError_rejects _ ev)
  case h_16 => exact onDesk_rejects (handleUiButtonPressed_rejects _ ev)
  case h_17 => exact onDesk_rejects (handleUiScreenChanged_rejects _ ev)
  case h_18 => exact fun _ _ => trivial
  all_goals exact onDesk_rejects (handleTtsPlaybackEvent_rejects _ cfg ev)

/-- A rejected event changes nothing: where the handling of the event answers a rejection, every
runtime holds what it held, and nothing was stored. -/
def RejectionChangesNothing (cfg : Config) (ans : Answers) (transport : Transport) (i : RuntimeId)
    (ev : VoiceEventEnvelope) (v : VoiceSessionManager) : Prop :=
  ∀ es v', handleEndpointEvent cfg ans transport i ev v = .ok es v' → isRejection es = true →
    v.Untouched v'

theorem handleEndpointEvent_of_rejected {error : BackendEvent}
    (h : v.registry.rejection i transport ev = some error) :
    handleEndpointEvent cfg ans transport i ev v = .ok [error] v := by
  simp only [handleEndpointEvent, bind, EStateM.bind, get, getThe, MonadStateOf.get, EStateM.get, h]
  rfl

theorem handleEndpointEvent_of_accepted (h : v.registry.rejection i transport ev = none) :
    handleEndpointEvent cfg ans transport i ev v =
      dispatch cfg ans i ((v.desk i).mergeEvent ev) (v.bound i ev.endpointId) := by
  simp only [handleEndpointEvent, bind, EStateM.bind, get, getThe, MonadStateOf.get, EStateM.get, h]
  rfl

/-- No capture window merges a `session.start`. -/
theorem mergeEvent_of_sessionStart {d : Desk} (h : ev.eventType = .sessionStart) :
    d.mergeEvent ev = ev := by
  simp [Desk.mergeEvent, Desk.canMergePlacementTestEvent, Desk.canMergeSpeakerEnrollmentEvent,
    Desk.mergedEvents, h]

theorem replacedForNothing_mergeEvent (d : Desk) :
    d.replacedForNothing cfg (d.mergeEvent ev) = d.replacedForNothing cfg ev := by
  by_cases h : ev.eventType = .sessionStart
  · rw [mergeEvent_of_sessionStart h]
  · simp [Desk.replacedForNothing, Desk.mergeEvent_eventType, h]

/-- The session that is replaced for nothing is lost: the property fails. -/
theorem not_rejectionChangesNothing (hr : v.registry.rejection i transport ev = none)
    (h : (v.desk i).replacedForNothing cfg ev = true) :
    ¬ RejectionChangesNothing cfg ans transport i ev v := by
  intro hkept
  have htype : ev.eventType = .sessionStart := by
    simp only [Desk.replacedForNothing, Bool.and_eq_true, decide_eq_true_eq] at h
    exact h.1.1.1.1.1.1
  obtain ⟨session, hsession⟩ : ∃ session, (v.sessions i).activeSession = some session := by
    simp only [Desk.replacedForNothing, Bool.and_eq_true] at h
    obtain ⟨session, hsession, -⟩ := Option.any_eq_true _ _ |>.mp h.1.1.2
    exact ⟨session, hsession⟩
  obtain ⟨es, d, hrun, hrejected, hnone⟩ :=
    (handleSessionStart_replaces (v.desk i) cfg ans ev h).exists_ok
  have hhandle : handleEndpointEvent cfg ans transport i ev v =
      .ok es ((v.bound i ev.endpointId).putDesk i d) := by
    rw [handleEndpointEvent_of_accepted hr, mergeEvent_of_sessionStart htype]
    unfold dispatch
    rw [htype]
    show onDesk i (handleSessionStart cfg ans ev) (v.bound i ev.endpointId) = _
    rw [onDesk, show (v.bound i ev.endpointId).desk i = v.desk i from rfl, hrun]
  have hheld := (hkept es _ hhandle hrejected i).1
  rw [VoiceSessionManager.putDesk_sessions_self] at hheld
  have := congrArg Held.activeSession hheld
  simp [SessionRuntime.held, hnone, hsession] at this

variable (cfg ans transport i ev v) in
/-- **A rejected event changes nothing**, exactly when it does not replace the active session
before its own payload turns out not to be valid. -/
theorem rejection_changes_nothing :
    RejectionChangesNothing cfg ans transport i ev v ↔
      ¬ (v.registry.rejection i transport ev = none ∧
        (v.desk i).replacedForNothing cfg ev = true) := by
  refine ⟨fun hkept ⟨hr, h⟩ => not_rejectionChangesNothing hr h hkept, fun h es v' hrun => ?_⟩
  cases hr : v.registry.rejection i transport ev with
  | some error =>
    rw [handleEndpointEvent_of_rejected hr] at hrun
    cases hrun
    exact fun _ j => ⟨rfl, rfl⟩
  | none =>
    rw [handleEndpointEvent_of_accepted hr] at hrun
    refine (dispatch_rejects (v := v.bound i ev.endpointId) ?_).ok hrun
    rw [show (v.bound i ev.endpointId).desk i = v.desk i from rfl, replacedForNothing_mergeEvent]
    simpa [hr] using h

end manager

/-- A `session.start` whose payload is not valid, one second after the first. -/
def invalidStart : VoiceEventEnvelope where
  eventType := .sessionStart
  endpointId := "kitchen"
  sessionId := some "s2"
  timestamp := { micros := 1000000 }
  payload := { sessionStart := .error "Input should be 'openwakeword', 'button', 'manual'" }

/-- The session that waits for its wake word is cancelled, and the endpoint is told of the invalid
payload alone. -/
theorem rejection_loses_session :
    ¬ RejectionChangesNothing {} {} .webSocket (.connection 0) invalidStart
      (run (step {}) (.init {}) [kitchenConnects, kitchen .sessionStart]) :=
  not_rejectionChangesNothing (by decide +kernel) (by decide +kernel)

end HexeVoice.Voice
