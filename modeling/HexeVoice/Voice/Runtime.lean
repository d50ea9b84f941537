import HexeVoice.Library.Text
import HexeVoice.Voice.CommandLedger
import HexeVoice.Voice.WakeElection

/-!
# The runtime of one endpoint

The session side of `EndpointSessionRuntime` in `voice/session_manager.py` and the methods
of `VoiceSessionManager` that read and write it through `_current_runtime`.

## The model

A handler sees a `Desk`: the runtime it runs in and the fields the manager shares between
runtimes. It is a computation of `Local`, which keeps the desk when it raises, as Python
does. `Config` says which collaborators the manager was built with, and `Answers` what they
answer during one event; `shared.now` is what `datetime.now(UTC)` reads during it and
`shared.uuid` the next draw of `uuid4`.

The fields below a runtime's `ghost` line are not in the source. `moves` lists the moves
requested of `_set_session_state`, `trace` the calls to collaborators and the events of a
session's life, and `arrivals` numbers the chunks, so that a byte in a buffer can be told
from an equal one. `serial` tells one session object from another that was given the same
id, and `loopTasks` are the follow-up tasks the event loop still holds. `handledAt` and
`openedAt` say by the server's clock when a session's start was handled and its follow-up
window opened.

Log lines, the `last_*` fields, sequence numbers, latency points, playback and wake
histories are written for `status()` only and are left out.
-/

namespace HexeVoice.Voice

open HexeVoice.Library

/-! ### Data -/

structure VoiceSessionSnapshot where
  /-- Which session object this is. -/
  serial : ℕ
  sessionId : SessionId
  endpointId : EndpointId
  sessionState : VoiceSessionState := .idle
  startedAt : Datetime
  /-- When its `session.start` was handled. -/
  handledAt : ℤ := 0
  wakeSource : WakeSource := .unknown
  cancelReason : Option String := none
  lastError : Option VoiceErrorPayload := none
  deriving DecidableEq

/-- A decoded audio chunk; `arrival` is its number among the runtime's chunk events. -/
structure Chunk where
  arrival : ℕ
  bytes : Bytes
  deriving DecidableEq

structure VoiceTurnAudioSummary where
  endpointId : EndpointId
  sessionId : SessionId
  chunkCount : ℕ
  sampleRateHz : Option ℕ
  encoding : Option AudioEncoding
  channels : ℕ
  /-- The chunks `audio_bytes` is joined from. -/
  chunks : List Chunk
  ambientAudioBytes : Option Bytes
  deriving DecidableEq

/-- `audio_bytes`. -/
def VoiceTurnAudioSummary.audioBytes (a : VoiceTurnAudioSummary) : Bytes :=
  a.chunks.flatMap (·.bytes)

structure SpeechTranscript where
  text : String := ""
  error : Option String := none

/-- The follow-up an assistant response asks for. -/
structure ConversationFollowup where
  prompt : Option String := none
  deriving DecidableEq

structure AssistantTurnResponse where
  handledLocally : Bool := true
  spokenText : String := ""
  conversationFollowup : Option ConversationFollowup := none

structure TtsSynthesis where
  streamId : Option String := none
  error : Option String := none

structure VoiceTurnResult where
  transcript : SpeechTranscript := {}
  assistantResponse : AssistantTurnResponse := {}
  tts : TtsSynthesis := {}

/-- The turn is answered, the answer spoken, and it asks a follow-up. -/
def VoiceTurnResult.asksFollowup (turn : VoiceTurnResult) : Bool :=
  !truthy turn.transcript.error && truthy turn.tts.streamId && !truthy turn.tts.error &&
    turn.assistantResponse.conversationFollowup.isSome

structure WakeDetectionResult where
  detected : Bool := false
  model : Option String := none
  confidence : Option ℚ := none

/-- What the collaborators answer during one event. -/
structure Answers where
  /-- `WakeDetector.inspect_chunk`. -/
  inspectChunk : VoiceAudioChunkPayload → WakeDetectionResult := fun _ => {}
  /-- `complete_turn` of the turn pipeline. -/
  completeTurn : VoiceTurnAudioSummary → VoiceTurnResult := fun _ => {}
  /-- `transcribe_audio` of the turn pipeline, where it has one. -/
  transcribeAudio : Option (VoiceTurnAudioSummary → SpeechTranscript) := some fun _ => {}
  /-- `custom_capture_active(endpoint_id)`. -/
  customCaptureActive : Bool := false

theorem transcribes_default : ({} : Answers).transcribeAudio.isSome = true := rfl

/-- The answers of a `VoiceTurnPipeline`, which has `transcribe_audio`. -/
structure PipelineAnswers extends Answers where
  /-- `VoiceTurnPipeline.transcribe_audio` is there. -/
  transcribes : transcribeAudio.isSome = true := by first | exact transcribes_default | rfl

/-- How a `VoiceSessionManager` was built. Timeouts are in microseconds. -/
structure Config where
  turnPipeline : Bool := true
  wakeRecorder : Bool := false
  microVadChunkRecorder : Bool := false
  sessionHistoryStore : Bool := false
  privacyModeEnabled : Bool := false
  preWakeTimeout : ℤ := 10000000
  maxActiveSession : ℤ := 60000000
  wakeElectionWindowMs : ℕ := 250

/-- `PRE_AUDIO_SESSION_REPLACEMENT_GRACE_MS`, in microseconds. -/
def preAudioSessionReplacementGrace : ℤ := 750000

/-- The outcome of a wake record. -/
inductive WakeOutcome where
  | accepted | notDetected
  deriving DecidableEq

/-- The `wake` entry of a session's history. -/
structure WakeRecord where
  outcome : WakeOutcome
  source : Option String
  electionId : Option ℕ := none
  deriving DecidableEq

/-- An open placement-test window. -/
structure PlacementWindow where
  testId : String
  debugRecordAudio : Bool := false
  expiresAt : ℤ
  /-- `f"placement-{uuid4().hex[:12]}"`. -/
  testId_ne : testId ≠ "" := by decide
  deriving DecidableEq

/-- An open speaker-enrollment capture window. -/
structure EnrollmentWindow where
  expiresAt : ℤ
  deriving DecidableEq

/-- A playback event's record, as `active_playbacks` and the session's history keep it. -/
structure PlaybackRecord where
  eventId : String
  eventType : VoiceEventType
  endpointId : EndpointId
  sessionId : Option SessionId
  payload : VoiceTtsPlaybackPayload
  receivedAt : ℤ
  deriving DecidableEq

/-- `active_session_history`: the entries that handlers read, and the one that they write for
whatever session is active. -/
structure SessionHistory where
  wake : Option WakeRecord := none
  /-- `vad["speech_started_at"]`. -/
  vadSpeechStartedAt : Option Datetime := none
  placementTest : Option PlacementWindow := none
  ttsPlayback : Option PlaybackRecord := none
  deriving DecidableEq

/-- Where a follow-up stands. -/
inductive FollowupState where
  | waitingForTtsPlayback | listening
  deriving DecidableEq

/-- `pending_session_followup`. -/
structure PendingFollowup where
  prompt : Option String
  state : FollowupState
  /-- When its window opened. -/
  openedAt : Option ℤ := none
  deriving DecidableEq

/-- A scheduled `_followup_timeout` call. -/
structure FollowupTask where
  id : ℕ
  endpointId : EndpointId
  sessionId : SessionId
  deriving DecidableEq

/-- The session record given to the history store. -/
structure SessionRecord where
  session : VoiceSessionSnapshot
  completionReason : String
  capturedChunkCount : ℕ
  deriving DecidableEq

/-- A call to a collaborator, or an event of a session's life. -/
inductive Effect where
  /-- A session began. -/
  | sessionStarted (serial : ℕ)
  /-- An `audio.chunk` event with a decodable payload was handled on the session. -/
  | chunkHandled (chunk : Chunk)
  /-- `submit_candidate` answered the session's candidate. -/
  | electionDecided (serial : ℕ) (decision : WakeElectionDecision)
  /-- `_accept_wake_candidate` ran for the session. -/
  | wakeAccepted (serial electionId : ℕ) (candidate : WakeCandidate)
  /-- `speaker_id.enrollment_capture.started` was recorded. -/
  | enrollmentCaptureStarted
  /-- `placement_test.capture.started` was recorded. -/
  | placementCaptureStarted
  /-- An `audio.end` event was handled on the session. -/
  | audioEndHandled
  /-- `complete_turn` was called. -/
  | completeTurn (audio : VoiceTurnAudioSummary)
  /-- `transcribe_audio` was called. -/
  | transcribeAudio (audio : VoiceTurnAudioSummary)
  /-- A follow-up window opened, with its timeout task. -/
  | followupOpened (task : ℕ)
  /-- `_clear_active_session_runtime` dropped the session. -/
  | sessionCleared (serial : ℕ)
  /-- A session in this state and of this age was cancelled by a timeout; its follow-up window
  was open for so long. -/
  | sessionTimedOut (reason : String) (state : VoiceSessionState) (age : ℤ) (openFor : Option ℤ)
  /-- The history store was given the session's record. -/
  | sessionUpserted (record : SessionRecord)
  /-- `close_session` of the wake detector. -/
  | wakeStreamClosed (sessionId : SessionId)
  /-- `capture_wake_chunk` of the wake recorder. -/
  | wakeChunkCaptured (sessionId : SessionId) (format : VoiceAudioFormat) (chunk : Chunk)
  /-- `mark_accepted_wake` of the wake recorder. -/
  | acceptedWakeMarked (sessionId : SessionId) (source : String)
  /-- `record_accepted_session` of the wake recorder. -/
  | acceptedSessionRecorded (sessionId : SessionId) (chunks : List Chunk)
  /-- `close_session` of the wake recorder. -/
  | wakeRecordingClosed (sessionId : SessionId)
  /-- `capture_audio_chunk` of the micro-VAD recorder. -/
  | microVadCaptured (sessionId : SessionId) (chunkIndex : Option ℕ) (chunk : Chunk)
  /-- `mark_session_accepted` of the micro-VAD recorder. -/
  | microVadAccepted (sessionId : SessionId)
  /-- `close_session` of the micro-VAD recorder. -/
  | microVadClosed (sessionId : SessionId)
  /-- The custom capture handler was scheduled. -/
  | customCaptureScheduled (text : String)
  deriving DecidableEq

/-- The session side of `EndpointSessionRuntime`. -/
structure SessionRuntime where
  activeSession : Option VoiceSessionSnapshot := none
  chunkCount : ℕ := 0
  audioChunks : List Chunk := []
  ambientAudioChunks : List Chunk := []
  audioFormat : Option VoiceAudioFormat := none
  activeSessionHistory : Option SessionHistory := none
  activePlaybacks : Dict String PlaybackRecord := Dict.empty
  pendingSessionFollowup : Option PendingFollowup := none
  followupTimeoutTask : Option ℕ := none
  -- ghost
  loopTasks : List FollowupTask := []
  arrivals : ℕ := 0
  moves : List (VoiceSessionState × VoiceSessionState) := []
  trace : List Effect := []
  deriving DecidableEq

/-- The fields of `VoiceSessionManager` that its runtimes share. -/
structure Shared where
  /-- What `datetime.now(UTC)` reads, in microseconds. -/
  now : ℤ := 0
  /-- The next draw of `uuid4`. -/
  uuid : ℕ := 0
  wakeElection : WakeCandidateElection := {}
  speakerEnrollmentCaptureWindows : Dict EndpointId EnrollmentWindow := Dict.empty
  activePlacementTestWindows : Dict EndpointId PlacementWindow := Dict.empty
  commandRecords : Dict String CommandRecord := Dict.empty
  deriving DecidableEq

/-- What a handler sees: its runtime and the shared fields. -/
structure Desk where
  self : SessionRuntime
  shared : Shared

/-- A handler's computation. -/
abbrev Local := EStateM PyError Desk

/-- An event the backend returns to the endpoint. -/
structure BackendEvent where
  eventType : VoiceEventType
  endpointId : EndpointId
  sessionId : Option SessionId
  snapshot : Option VoiceSessionSnapshot := none
  error : Option VoiceErrorPayload := none
  election : Option WakeElectionDecision := none
  reason : Option String := none
  requestId : Option String := none

/-! ### Reading and writing the runtime -/

/-- Change the runtime. -/
def modifySelf (f : SessionRuntime → SessionRuntime) : Local Unit :=
  modify fun d => { d with self := f d.self }

/-- Change the shared fields. -/
def modifyShared (f : Shared → Shared) : Local Unit :=
  modify fun d => { d with shared := f d.shared }

/-- Append to the trace. -/
def SessionRuntime.record (r : SessionRuntime) (e : Effect) : SessionRuntime :=
  { r with trace := r.trace ++ [e] }

/-- Append to the runtime's trace. -/
def emit (e : Effect) : Local Unit := modifySelf (·.record e)

/-- A draw of `uuid4`. -/
def drawUuid : Local ℕ := modifyGet fun d =>
  (d.shared.uuid, { d with shared := { d.shared with uuid := d.shared.uuid + 1 } })

/-- The names of the states. -/
def VoiceSessionState.name : VoiceSessionState → String
  | .idle => "idle"
  | .wakeDetected => "wake_detected"
  | .listening => "listening"
  | .capturing => "capturing"
  | .transcribing => "transcribing"
  | .localCommand => "local_command"
  | .routing => "routing"
  | .responding => "responding"
  | .completed => "completed"
  | .cancelled => "cancelled"
  | .failed => "failed"

/-- A move that `_set_session_state` takes as it is: a self-loop or an allowed transition. -/
def legalMove (current next : VoiceSessionState) : Bool :=
  current = next || isValidTransition current next

/-- Where `_set_session_state` leaves a session that was asked to move. -/
def VoiceSessionSnapshot.moved (s : VoiceSessionSnapshot) (next : VoiceSessionState) :
    VoiceSessionSnapshot :=
  if legalMove s.sessionState next then { s with sessionState := next }
  else
    { s with
      sessionState := .failed
      lastError := some
        { code := "invalid_session_transition"
          message := "Cannot move voice session from " ++ s.sessionState.name ++ " to " ++
            next.name ++ "." } }

namespace SessionRuntime

variable (r : SessionRuntime)

def setSessionState (next : VoiceSessionState) : SessionRuntime :=
  match r.activeSession with
  | none => r
  | some s =>
    { r with
      activeSession := some (s.moved next)
      moves := r.moves ++ [(s.sessionState, next)] }

/-- `self._active_session.cancel_reason = reason`. -/
def setCancelReason (reason : String) : SessionRuntime :=
  { r with activeSession := r.activeSession.map fun s => { s with cancelReason := some reason } }

/-- `_update_active_session_history`, `_set_active_session_wake` and
`_set_active_session_vad`: no-ops without a history. -/
def updateHistory (f : SessionHistory → SessionHistory) : SessionRuntime :=
  { r with activeSessionHistory := r.activeSessionHistory.map f }

/-- `_set_active_session_wake`. -/
def setWake (wake : WakeRecord) : SessionRuntime :=
  r.updateHistory fun h => { h with wake := some wake }

/-- `_cancel_followup_timeout_task`: the event loop drops the task. -/
def cancelFollowupTimeoutTask : SessionRuntime :=
  { r with
    loopTasks := r.loopTasks.filter fun t => some t.id ≠ r.followupTimeoutTask
    followupTimeoutTask := none }

/-- The last lines of `_clear_active_session_runtime`. -/
def cleared : SessionRuntime :=
  { r with
    activeSession := none
    chunkCount := 0
    audioChunks := []
    ambientAudioChunks := []
    audioFormat := none
    activeSessionHistory := none
    pendingSessionFollowup := none }

/-- `self._audio_chunks.append(audio_bytes)`, for a chunk that was decoded. -/
def appendAudio (chunk : Option Chunk) : SessionRuntime :=
  { r with audioChunks := r.audioChunks ++ chunk.toList }

/-- `self._ambient_audio_chunks.append(audio_bytes)`. -/
def appendAmbientAudio (chunk : Option Chunk) : SessionRuntime :=
  { r with ambientAudioChunks := r.ambientAudioChunks ++ chunk.toList }

/-- A chunk is counted, and its format kept. -/
def countChunk (audioFormat : VoiceAudioFormat) : SessionRuntime :=
  { r with
    chunkCount := r.chunkCount + 1
    audioFormat := some audioFormat
    arrivals := r.arrivals + 1 }

/-- The runtime with a new active session. -/
def begun (session : VoiceSessionSnapshot) (audioFormat : VoiceAudioFormat)
    (placementTest : Option PlacementWindow) : SessionRuntime :=
  { r with
    activeSession := some session
    chunkCount := 0
    audioChunks := []
    ambientAudioChunks := []
    audioFormat := some audioFormat
    activeSessionHistory := some { placementTest } }

/-- `self._pending_session_followup = ...`, for a follow-up that the answer asks for. -/
def awaitFollowup (followup : ConversationFollowup) : SessionRuntime :=
  { r with
    pendingSessionFollowup := some { prompt := followup.prompt, state := .waitingForTtsPlayback } }

/-- The first lines of `_open_followup_window`: the buffers start afresh. -/
def listenForFollowup (now : ℤ) : SessionRuntime :=
  { r with
    audioChunks := []
    ambientAudioChunks := []
    chunkCount := 0
    pendingSessionFollowup := r.pendingSessionFollowup.map fun p =>
      { p with state := .listening, openedAt := some now } }

def scheduleFollowupTimeout (task : FollowupTask) : SessionRuntime :=
  { r.cancelFollowupTimeoutTask with
    followupTimeoutTask := some task.id
    loopTasks := r.cancelFollowupTimeoutTask.loopTasks ++ [task] }

/-- The event loop drops a follow-up task that woke up. -/
def taskDone (id : ℕ) : SessionRuntime :=
  { r with loopTasks := r.loopTasks.filter fun t => t.id ≠ id }

/-- `_active_session_is_speaker_enrollment_capture`. -/
def isSpeakerEnrollmentCapture : Bool :=
  r.activeSession.isSome && match r.activeSessionHistory with
    | some h => h.wake.any fun w => w.source = some "speaker_id_enrollment_capture"
    | none => false

/-- `_active_session_is_placement_test`. -/
def isPlacementTest : Bool :=
  r.activeSession.isSome && match r.activeSessionHistory with
    | some h => h.placementTest.any fun p => p.testId ≠ ""
    | none => false

/-- Whether the wake record says `accepted`. -/
def wakeIsAccepted : Bool :=
  match r.activeSessionHistory with
  | some h => h.wake.any fun w => w.outcome = .accepted
  | none => false

/-- The summary that the turn pipeline is given. -/
def audioSummary (session : VoiceSessionSnapshot) : VoiceTurnAudioSummary :=
  { endpointId := session.endpointId
    sessionId := session.sessionId
    chunkCount := r.chunkCount
    sampleRateHz := r.audioFormat.map (·.sampleRateHz)
    encoding := r.audioFormat.map (·.encoding)
    channels := (r.audioFormat.map (·.channels)).getD 1
    chunks := r.audioChunks
    ambientAudioBytes :=
      let bytes := r.ambientAudioChunks.flatMap (·.bytes)
      if bytes.isEmpty then none else some bytes }

end SessionRuntime

/-- A playback of a timer alarm, which a spoken stop can interrupt. -/
def PlaybackRecord.isTimerAlarm (p : PlaybackRecord) : Bool :=
  startsWith (p.payload.streamId.getD "") "timer-alarm-" ||
    contains (p.payload.audioUrl.getD "") "timer_alarm" ||
    startsWith (p.sessionId.getD "") "timer-completed-"

/-- `_active_playback_interrupt`. -/
def SessionRuntime.activePlaybackInterrupt (r : SessionRuntime) (endpointId : EndpointId) :
    Option PlaybackRecord :=
  r.activePlaybacks.values.find? fun p => p.endpointId = endpointId && p.isTimerAlarm

def setSessionState (next : VoiceSessionState) : Local Unit :=
  modifySelf (·.setSessionState next)

/-! ### Events to the endpoint -/

def stateEvent (eventType : VoiceEventType) (session : VoiceSessionSnapshot) : BackendEvent :=
  { eventType, endpointId := session.endpointId, sessionId := some session.sessionId,
    snapshot := some session }

def errorEvent (endpointId : EndpointId) (sessionId : Option SessionId) (code message : String)
    (recoverable : Bool := true) : BackendEvent :=
  { eventType := .sessionError, endpointId, sessionId,
    error := some { code, message, recoverable } }

/-- The active session, as the object the handler holds now reads. -/
def currentSession (session : VoiceSessionSnapshot) : Local VoiceSessionSnapshot := do
  return (← get).self.activeSession.getD session

/-! ### Capture windows -/

/-- `_active_placement_test_window`: expired windows are dropped first. -/
def activePlacementTestWindow (endpointId : EndpointId) : Local (Option PlacementWindow) := do
  modifyShared fun sh =>
    { sh with activePlacementTestWindows :=
        sh.activePlacementTestWindows.filter fun _ w => sh.now < w.expiresAt }
  return (← get).shared.activePlacementTestWindows.get endpointId

def activeSpeakerEnrollmentCaptureWindow (endpointId : EndpointId) :
    Local (Option EnrollmentWindow) := do
  modifyShared fun sh =>
    { sh with speakerEnrollmentCaptureWindows :=
        sh.speakerEnrollmentCaptureWindows.filter fun _ w => sh.now < w.expiresAt }
  return (← get).shared.speakerEnrollmentCaptureWindows.get endpointId

/-! ### The end of a session -/

/-- `_persist_active_session_history`: the record holds how long the session lasted, which
raises when the session was started with a naive timestamp. -/
def persistActiveSessionHistory (cfg : Config) (completionReason : String) : Local Unit := do
  let d ← get
  match d.self.activeSession, d.self.activeSessionHistory with
  | some session, some _ =>
    if cfg.sessionHistoryStore then do
      let _ ← Datetime.sub { micros := d.shared.now } session.startedAt
      emit (.sessionUpserted
        { session, completionReason, capturedChunkCount := d.self.audioChunks.length })
  | _, _ => pure ()

def releaseActiveSessionWakeStream (cfg : Config) : Local Unit := do
  match (← get).self.activeSession with
  | none => pure ()
  | some session =>
    emit (.wakeStreamClosed session.sessionId)
    if cfg.wakeRecorder then emit (.wakeRecordingClosed session.sessionId)

def clearActiveSessionRuntime (cfg : Config) : Local Unit := do
  modifySelf (·.cancelFollowupTimeoutTask)
  match (← get).self.activeSession with
  | none => pure ()
  | some session =>
    if cfg.microVadChunkRecorder then emit (.microVadClosed session.sessionId)
    emit (.sessionCleared session.serial)
  modifySelf (·.cleared)

/-- How every ending of a session ends: it is persisted, its wake stream is released and
the runtime is cleared. -/
def endActiveSession (cfg : Config) (completionReason : String) : Local Unit := do
  persistActiveSessionHistory cfg completionReason
  releaseActiveSessionWakeStream cfg
  clearActiveSessionRuntime cfg

/-- A session is cancelled and ended: the body shared by `session.cancel`, the operator,
timeouts, disconnects, replacements, stand-downs and unanswered follow-ups. -/
def cancelActiveSession (cfg : Config) (reason : String) : Local Unit := do
  setSessionState .cancelled
  modifySelf (·.setCancelReason reason)
  endActiveSession cfg reason

end HexeVoice.Voice
