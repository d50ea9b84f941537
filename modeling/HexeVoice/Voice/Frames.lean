import HexeVoice.Library.Frame
import HexeVoice.Voice.Manager

/-!
# What the handlers' parts leave alone

One rule for each computation that the handlers share: what it leaves of the runtime as it
was, whether it returns or raises, and whatever its arguments. The rules are triples tagged
`spec`, and a handler is taken apart by them.

## The model

`SessionRuntime.held` is what a runtime holds of its session; `timeouts` and `upserts` are the
parts of the trace that tell of sessions that timed out and of records given to the history
store.
-/

namespace HexeVoice.Voice

open HexeVoice.Library Std.Do

set_option mvcgen.warning false

/-! ### The parts of a runtime -/

/-- What a runtime holds of its session. -/
structure Held where
  activeSession : Option VoiceSessionSnapshot
  activeSessionHistory : Option SessionHistory
  chunkCount : ℕ
  audioChunks : List Chunk
  ambientAudioChunks : List Chunk
  audioFormat : Option VoiceAudioFormat
  pendingSessionFollowup : Option PendingFollowup
  deriving DecidableEq

/-- The effect, where it tells of a session that timed out. -/
@[simp] def Effect.timeout : Effect → List Effect
  | .sessionTimedOut reason state age openFor => [.sessionTimedOut reason state age openFor]
  | _ => []

/-- The effect gives the history store a record. -/
def Effect.isUpsert : Effect → Bool
  | .sessionUpserted _ => true
  | _ => false

namespace SessionRuntime

variable (r : SessionRuntime)

/-- What the runtime holds of its session. -/
def held : Held :=
  { activeSession := r.activeSession, activeSessionHistory := r.activeSessionHistory
    chunkCount := r.chunkCount, audioChunks := r.audioChunks
    ambientAudioChunks := r.ambientAudioChunks, audioFormat := r.audioFormat
    pendingSessionFollowup := r.pendingSessionFollowup }

/-- The time-outs of the runtime's sessions, and the moves back to `idle` that were asked of
them. -/
def timeouts : List Effect × List (VoiceSessionState × VoiceSessionState) :=
  (r.trace.flatMap (·.timeout), r.moves.filter fun m => m.2 = .idle)

/-- The records of the runtime's sessions in the history store. -/
def upserts : List Effect := r.trace.filter (·.isUpsert)

@[simp] theorem held_activeSession : r.held.activeSession = r.activeSession := rfl

@[simp] theorem held_activeSessionHistory :
    r.held.activeSessionHistory = r.activeSessionHistory := rfl

@[simp] theorem held_chunkCount : r.held.chunkCount = r.chunkCount := rfl

@[simp] theorem held_pendingSessionFollowup :
    r.held.pendingSessionFollowup = r.pendingSessionFollowup := rfl

@[simp] theorem held_record (e : Effect) : (r.record e).held = r.held := rfl

@[simp] theorem timeouts_record (e : Effect) :
    (r.record e).timeouts = (r.timeouts.1 ++ e.timeout, r.timeouts.2) := by
  simp [timeouts, record]

@[simp] theorem timeouts_setSessionState {next : VoiceSessionState} (h : next ≠ .idle) :
    (r.setSessionState next).timeouts = r.timeouts := by
  unfold setSessionState
  split
  · rfl
  · simp [timeouts, h]

@[simp] theorem timeouts_setCancelReason (reason : String) :
    (r.setCancelReason reason).timeouts = r.timeouts := rfl

@[simp] theorem timeouts_updateHistory (f : SessionHistory → SessionHistory) :
    (r.updateHistory f).timeouts = r.timeouts := rfl

@[simp] theorem timeouts_setWake (wake : WakeRecord) : (r.setWake wake).timeouts = r.timeouts :=
  rfl

@[simp] theorem timeouts_cancelFollowupTimeoutTask :
    r.cancelFollowupTimeoutTask.timeouts = r.timeouts := rfl

@[simp] theorem activeSession_cleared : r.cleared.activeSession = none := rfl

@[simp] theorem timeouts_cleared : r.cleared.timeouts = r.timeouts := rfl

@[simp] theorem timeouts_appendAudio (chunk : Option Chunk) :
    (r.appendAudio chunk).timeouts = r.timeouts := rfl

@[simp] theorem timeouts_countChunk (audioFormat : VoiceAudioFormat) :
    (r.countChunk audioFormat).timeouts = r.timeouts := rfl

@[simp] theorem timeouts_begun (session : VoiceSessionSnapshot) (audioFormat : VoiceAudioFormat)
    (placementTest : Option PlacementWindow) :
    (r.begun session audioFormat placementTest).timeouts = r.timeouts := rfl

@[simp] theorem timeouts_awaitFollowup (followup : ConversationFollowup) :
    (r.awaitFollowup followup).timeouts = r.timeouts := rfl

@[simp] theorem timeouts_listenForFollowup (now : ℤ) :
    (r.listenForFollowup now).timeouts = r.timeouts := rfl

@[simp] theorem timeouts_scheduleFollowupTimeout (task : FollowupTask) :
    (r.scheduleFollowupTimeout task).timeouts = r.timeouts := rfl

@[simp] theorem timeouts_taskDone (id : ℕ) : (r.taskDone id).timeouts = r.timeouts := rfl

@[simp] theorem timeouts_overhear (ev : VoiceEventEnvelope) (session : VoiceSessionSnapshot)
    (chunk : Option Chunk) : (r.overhear ev session chunk).timeouts = r.timeouts := by
  unfold overhear
  split <;> rfl

@[simp] theorem timeouts_keepAmbient (c : ChunkProgress) :
    (r.keepAmbient c).timeouts = r.timeouts := by
  unfold keepAmbient
  split <;> rfl

@[simp] theorem timeouts_trackPlaybackLifecycle (eventType : VoiceEventType)
    (record : PlaybackRecord) :
    (trackPlaybackLifecycle eventType record r).timeouts = r.timeouts := by
  unfold trackPlaybackLifecycle
  dsimp only
  split_ifs <;> rfl

end SessionRuntime

/-! ### Answers -/

/-- The codes of the errors that reject an event. -/
def rejectionCodes : List String :=
  ["invalid_direction", "unsupported_endpoint_event", "unsupported_endpoint_transport_event",
    "endpoint_already_connected", "endpoint_conflict", "no_active_session", "session_conflict",
    "active_session_exists", "invalid_session_start", "invalid_audio_chunk",
    "invalid_wake_candidate", "invalid_vad_speech_started", "invalid_vad_speech_ended",
    "invalid_command_ack", "invalid_command_error", "invalid_tts_playback_event",
    "invalid_ui_button_pressed", "invalid_ui_screen_changed"]

/-- The answer is one error that rejects the event. -/
def isRejection : List BackendEvent → Bool
  | [e] => e.error.any fun error => rejectionCodes.contains error.code
  | _ => false

@[simp] theorem stateEvent_error (eventType : VoiceEventType) (session : VoiceSessionSnapshot) :
    (stateEvent eventType session).error = none := by
  unfold stateEvent
  rfl

@[simp] theorem uiScreenClearEvent_error (endpointId : EndpointId) :
    (uiScreenClearEvent endpointId).error = none := by
  unfold uiScreenClearEvent
  rfl

@[simp] theorem isRejection_nil : isRejection [] = false := rfl

@[simp] theorem isRejection_cons {e : BackendEvent} (h : e.error = none) (es : List BackendEvent) :
    isRejection (e :: es) = false := by
  cases es <;> simp [isRejection, h]

@[simp] theorem isRejection_two (a b : BackendEvent) (es : List BackendEvent) :
    isRejection (a :: b :: es) = false := rfl

@[simp] theorem isRejection_append_of_none {e : BackendEvent} (h : e.error = none)
    (es : List BackendEvent) : isRejection (es ++ [e]) = false := by
  match es with
  | [] => simp [h]
  | [_] => rfl
  | _ :: _ :: _ => rfl

theorem isRejection_append {es : List BackendEvent} (h : es ≠ []) (h' : isRejection es = false)
    (fs : List BackendEvent) : isRejection (es ++ fs) = false := by
  match es, fs with
  | [], _ => contradiction
  | [_], [] => simpa using h'
  | [_], _ :: _ => rfl
  | _ :: _ :: _, _ => rfl

@[simp] theorem isRejection_states (sessions : List VoiceSessionSnapshot)
    (eventType : VoiceEventType) : isRejection (sessions.map (stateEvent eventType)) = false := by
  cases sessions <;> simp

@[simp] theorem isRejection_errorEvent (endpointId : EndpointId) (sessionId : Option SessionId)
    (code message : String) (recoverable : Bool) :
    isRejection [errorEvent endpointId sessionId code message recoverable] =
      rejectionCodes.contains code := by
  simp [isRejection, errorEvent]

/-! ### Writing the desk -/

section primitives

variable (d : Desk)

@[spec] theorem modifySelf_spec (f : SessionRuntime → SessionRuntime) :
    Ends d (modifySelf f) (fun _ d' => d' = { d with self := f d.self }) fun _ _ => False :=
  .of_run rfl rfl

@[spec] theorem modifyShared_spec (f : Shared → Shared) :
    Ends d (modifyShared f) (fun _ d' => d' = { d with shared := f d.shared }) fun _ _ => False :=
  .of_run rfl rfl

@[spec] theorem emit_spec (e : Effect) :
    Ends d (emit e) (fun _ d' => d' = { d with self := d.self.record e }) fun _ _ => False :=
  .of_run rfl rfl

@[spec] theorem setSessionState_spec (next : VoiceSessionState) :
    Ends d (setSessionState next)
      (fun _ d' => d' = { d with self := d.self.setSessionState next }) fun _ _ => False :=
  .of_run rfl rfl

@[spec] theorem drawUuid_spec :
    Ends d drawUuid (fun _ d' => d'.self = d.self) fun _ _ => False :=
  .of_run rfl rfl

end primitives

/-- A computation of one runtime leaves the others alone. -/
theorem onDesk_ends {α : Type} {v : VoiceSessionManager} {i : RuntimeId} {c : Local α}
    {Q : α → Desk → Prop} {E : PyError → Desk → Prop} (h : Ends (v.desk i) c Q E) :
    Ends v (onDesk i c) (fun a v' => ∃ d, v' = v.putDesk i d ∧ Q a d)
      fun e v' => ∃ d, v' = v.putDesk i d ∧ E e d := by
  intro w hw
  rw [show w = v from hw, wp_apply]
  cases hrun : c (v.desk i) with
  | ok a d =>
    rw [show (onDesk i c).run v = .ok a (v.putDesk i d) by simp [onDesk, EStateM.run, hrun]]
    exact ⟨d, rfl, h.ok hrun⟩
  | error e d =>
    rw [show (onDesk i c).run v = .error e (v.putDesk i d) by simp [onDesk, EStateM.run, hrun]]
    exact ⟨d, rfl, h.error hrun⟩

/-! ### Computations that change nothing of the runtime -/

/-- What `_can_replace_active_session` answers, where it does not raise. -/
def Desk.canReplace (d : Desk) (ev : VoiceEventEnvelope) : Bool :=
  d.self.activeSession.any fun s =>
    s.endpointId = ev.endpointId && ev.timestamp.aware = s.startedAt.aware &&
      !(d.self.chunkCount = 0 &&
        ev.timestamp.micros - s.startedAt.micros < preAudioSessionReplacementGrace) &&
      if s.sessionState = .idle then !d.self.wakeIsAccepted
      else (s.sessionState = .wakeDetected || s.sessionState = .listening) && d.self.chunkCount = 0

section reads

variable (d : Desk)

/-- The computation returns, and the runtime is as it was. -/
abbrev Shares {α : Type} (c : Local α) : Prop :=
  Ends d c (fun _ d' => d'.self = d.self) fun _ _ => False

@[spec] theorem sub_spec (a b : Datetime) :
    Ends d (Datetime.sub a b)
      (fun age d' => d' = d ∧ a.aware = b.aware ∧ age = a.micros - b.micros)
      fun _ d' => d' = d ∧ a.aware ≠ b.aware := by
  unfold Datetime.sub
  mvcgen

@[spec] theorem currentSession_spec (session : VoiceSessionSnapshot) :
    Ends d (currentSession session)
      (fun s d' => d' = d ∧ s = d.self.activeSession.getD session) fun _ _ => False := by
  unfold currentSession
  mvcgen
  simp_all

@[spec] theorem requireActiveSession_spec (ev : VoiceEventEnvelope) :
    Ends d (requireActiveSession ev)
      (fun r d' => d' = d ∧ r.toOption = d.requiredSession ev) fun _ _ => False := by
  unfold requireActiveSession
  mvcgen <;> simp_all [Except.toOption]

@[spec] theorem canReplaceActiveSession_spec (ev : VoiceEventEnvelope) :
    Ends d (canReplaceActiveSession ev) (fun b d' => d' = d ∧ b = d.canReplace ev)
      fun _ d' => d' = d ∧ d.canReplace ev = false := by
  unfold canReplaceActiveSession Desk.canReplace
  mvcgen <;> simp_all +zetaDelta
  tauto

@[spec] theorem activeStateEvents_spec :
    Ends d activeStateEvents (fun es d' => d' = d ∧
      es = d.self.activeSession.toList.map (stateEvent .sessionState)) fun _ _ => False := by
  unfold activeStateEvents
  mvcgen
  simp_all

@[spec] theorem activePlacementTestWindow_shares (e : EndpointId) :
    Shares d (activePlacementTestWindow e) := by
  unfold activePlacementTestWindow
  mvcgen
  simp_all

@[spec] theorem activeSpeakerEnrollmentCaptureWindow_shares (e : EndpointId) :
    Shares d (activeSpeakerEnrollmentCaptureWindow e) := by
  unfold activeSpeakerEnrollmentCaptureWindow
  mvcgen
  simp_all

end reads

/-! ### The end of a session -/

section ending

variable (d : Desk) (cfg : Config)

/-- The history store can be given the session's record, or is given none: its duration can be
taken. -/
def Desk.persists (d : Desk) (cfg : Config) : Bool :=
  !cfg.sessionHistoryStore || d.self.activeSessionHistory.isNone ||
    d.self.activeSession.all fun s => s.startedAt.aware

/-- The runtime holds what it held, and tells of no new time-out. -/
def SessionRuntime.Same (r r' : SessionRuntime) : Prop :=
  r'.held = r.held ∧ r'.timeouts = r.timeouts

@[spec] theorem persist_spec (reason : String) :
    Ends d (persistActiveSessionHistory cfg reason)
      (fun _ d' => d.self.Same d'.self ∧ d.persists cfg = true)
      fun _ d' => d.self.Same d'.self ∧ d.persists cfg = false := by
  unfold persistActiveSessionHistory
  mvcgen <;> simp_all +contextual [SessionRuntime.Same, Desk.persists]
  case vc4.h_2 session history hnone _ _ => cases session <;> cases history <;> simp_all

@[spec] theorem release_spec :
    Ends d (releaseActiveSessionWakeStream cfg) (fun _ d' => d.self.Same d'.self)
      fun _ _ => False := by
  unfold releaseActiveSessionWakeStream
  mvcgen <;> simp_all +contextual [SessionRuntime.Same]

@[spec] theorem clear_spec :
    Ends d (clearActiveSessionRuntime cfg)
      (fun _ d' => d'.self.activeSession = none ∧ d'.self.timeouts = d.self.timeouts)
      fun _ _ => False := by
  unfold clearActiveSessionRuntime
  mvcgen <;> simp_all +contextual

/-- A session that ends is gone; where its record cannot be given, it is still held. -/
@[spec] theorem endActiveSession_spec (reason : String) :
    Ends d (endActiveSession cfg reason)
      (fun _ d' => d'.self.activeSession = none ∧ d'.self.timeouts = d.self.timeouts ∧
        d.persists cfg = true)
      fun _ d' => d.self.Same d'.self ∧ d.persists cfg = false := by
  unfold endActiveSession
  mvcgen <;> simp_all [SessionRuntime.Same]

@[simp] theorem VoiceSessionSnapshot.startedAt_moved (s : VoiceSessionSnapshot)
    (next : VoiceSessionState) : (s.moved next).startedAt = s.startedAt := by
  unfold moved
  split <;> rfl

@[simp] theorem Desk.persists_cancelled (reason : String) :
    ({ d with self := (d.self.setSessionState .cancelled).setCancelReason reason } : Desk).persists
      cfg = d.persists cfg := by
  unfold Desk.persists SessionRuntime.setCancelReason SessionRuntime.setSessionState
  cases hs : d.self.activeSession with
  | none => simp [hs]
  | some s => simp

/-- A session that is cancelled is gone; where its record cannot be given, it is held as
cancelled. -/
@[spec] theorem cancelActiveSession_spec (reason : String) :
    Ends d (cancelActiveSession cfg reason)
      (fun _ d' => d'.self.activeSession = none ∧ d'.self.timeouts = d.self.timeouts ∧
        d.persists cfg = true)
      fun _ d' => ((d.self.setSessionState .cancelled).setCancelReason reason).Same d'.self ∧
        d.persists cfg = false := by
  unfold cancelActiveSession
  mvcgen <;> simp_all [SessionRuntime.Same]

@[spec] theorem turnCompleted_spec (session : VoiceSessionSnapshot) (reason : String) :
    Ends d (turnCompleted cfg session reason)
      (fun e d' => e.error = none ∧ d'.self.activeSession = none ∧
        d'.self.timeouts = d.self.timeouts)
      fun _ d' => (d.self.setSessionState .completed).Same d'.self := by
  unfold turnCompleted
  mvcgen <;> simp_all +zetaDelta [SessionRuntime.Same]

@[spec] theorem recordAcceptedWakeSession_spec (session : VoiceSessionSnapshot) :
    Ends d (recordAcceptedWakeSession cfg session)
      (fun _ d' => d.self.Same d'.self) fun _ _ => False := by
  unfold recordAcceptedWakeSession
  mvcgen <;> simp_all [SessionRuntime.Same]

@[spec] theorem playbackInterruptStopEvent_spec (ans : Answers) (session : VoiceSessionSnapshot) :
    Ends d (playbackInterruptStopEvent cfg ans session)
      (fun e d' => (∀ x ∈ e, x.error = none) ∧ d.self.Same d'.self)
      fun _ d' => d.self.Same d'.self := by
  unfold playbackInterruptStopEvent
  mvcgen <;> simp_all [SessionRuntime.Same]

end ending

/-! ### The end of audio -/

section audioEnd

variable (ts : List Effect × List (VoiceSessionState × VoiceSessionState)) (cfg : Config)
  (ans : Answers) (session : VoiceSessionSnapshot)

/-- The computation tells of no time-out, and it answers, but with no rejection. -/
abbrev Concludes (c : Local (List BackendEvent)) : Prop :=
  ⦃fun d => ⌜d.self.timeouts = ts⌝⦄ c
    ⦃post⟨fun es d => ⌜(es ≠ [] ∧ isRejection es = false) ∧ d.self.timeouts = ts⌝,
      fun _ d => ⌜d.self.timeouts = ts⌝⟩⦄

attribute [local simp] SessionRuntime.Same rejectionCodes

theorem cancelBeforeWake_concludes : Concludes ts (cancelBeforeWake cfg ans session) := by
  unfold cancelBeforeWake
  mvcgen <;> simp_all +zetaDelta

theorem completeCustomCapture_concludes :
    Concludes ts (completeCustomCapture cfg ans session) := by
  unfold completeCustomCapture
  mvcgen <;> simp_all +zetaDelta

theorem completeActivePlacementTest_concludes :
    Concludes ts (completeActivePlacementTest cfg ans session) := by
  unfold completeActivePlacementTest
  mvcgen <;> simp_all +zetaDelta

theorem completeEnrollmentCapture_concludes :
    Concludes ts (completeEnrollmentCapture cfg ans session) := by
  unfold completeEnrollmentCapture
  mvcgen <;> simp_all +zetaDelta

/-- The two states that a session answers in. -/
@[simp] theorem answering_ne_idle (handledLocally : Bool) :
    (if handledLocally = true then VoiceSessionState.localCommand else .routing) ≠ .idle := by
  cases handledLocally <;> decide

theorem completeTurn_concludes : Concludes ts (completeTurn cfg ans session) := by
  unfold completeTurn
  mvcgen <;> simp_all +zetaDelta

theorem completeAudio_concludes : Concludes ts (completeAudio cfg ans session) := by
  unfold completeAudio
  mvcgen [completeCustomCapture_concludes, completeActivePlacementTest_concludes,
    completeEnrollmentCapture_concludes, completeTurn_concludes] <;> simp_all

end audioEnd

/-! ### Chunks and wakes -/

section chunks

variable (ts : List Effect × List (VoiceSessionState × VoiceSessionState)) (cfg : Config)

/-- The computation tells of no time-out. -/
abbrev Untimed {α : Type} (c : Local α) : Prop :=
  ⦃fun d => ⌜d.self.timeouts = ts⌝⦄ c
    ⦃post⟨fun _ d => ⌜d.self.timeouts = ts⌝, fun _ d => ⌜d.self.timeouts = ts⌝⟩⦄

@[spec] theorem submitWakeCandidate_untimed (serial : ℕ) (candidate : WakeCandidate) :
    Untimed ts (submitWakeCandidate serial candidate) := by
  unfold submitWakeCandidate
  mvcgen
  simp_all

@[spec] theorem captureMicroVadChunk_untimed (payload : VoiceAudioChunkPayload)
    (session : VoiceSessionSnapshot) (window : Option PlacementWindow) (chunk : Option Chunk) :
    Untimed ts (captureMicroVadChunk cfg payload session window chunk) := by
  unfold captureMicroVadChunk
  mvcgen
  simp_all

@[spec] theorem captureWakeChunk_untimed (payload : VoiceAudioChunkPayload)
    (session : VoiceSessionSnapshot) (recordable : Bool) (chunk : Option Chunk) :
    Untimed ts (captureWakeChunk cfg payload session recordable chunk) := by
  unfold captureWakeChunk
  mvcgen
  simp_all

@[spec] theorem captureWindows_untimed (ev : VoiceEventEnvelope) (payload : VoiceAudioChunkPayload)
    (session : VoiceSessionSnapshot) (chunk : Option Chunk) :
    Untimed ts (captureWindows cfg ev payload session chunk) := by
  unfold captureWindows acceptPlacementCapture acceptEnrollmentCapture
  mvcgen <;> simp_all

@[spec] theorem receiveChunk_untimed (payload : VoiceAudioChunkPayload) :
    Untimed ts (receiveChunk payload) := by
  unfold receiveChunk
  mvcgen <;> simp_all

@[spec] theorem inspectForWake_untimed (ans : Answers) (ev : VoiceEventEnvelope)
    (payload : VoiceAudioChunkPayload) (session : VoiceSessionSnapshot) :
    Untimed ts (inspectForWake ans ev payload session) := by
  unfold inspectForWake
  mvcgen <;> simp_all

@[spec] theorem sessionAfterStandDown_spec (d : Desk) (session : VoiceSessionSnapshot) :
    Ends d (sessionAfterStandDown session) (fun _ d' => d' = d) fun _ _ => False := by
  unfold sessionAfterStandDown
  mvcgen

@[spec] theorem openFollowupWindow_untimed : Untimed ts openFollowupWindow := by
  unfold openFollowupWindow
  mvcgen
  simp_all

@[spec] theorem captureChunk_untimed (c : ChunkProgress) : Untimed ts (captureChunk c) := by
  unfold captureChunk
  mvcgen <;> simp_all

end chunks

end HexeVoice.Voice
