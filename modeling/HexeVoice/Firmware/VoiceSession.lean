import HexeVoice.Library.CJson
import HexeVoice.Library.Utf8
import HexeVoice.Library.Machine
import Mathlib

/-!
# Voice sessions

How `voice/backend_client.cpp` starts, carries on and ends voice sessions, and the way of their audio:
from the queue through the pre-roll ring and the transport buffer to the buffer that is uploaded over
HTTP.

## The model

A step is one call from outside, one event of the control WebSocket or one pass of `websocket_task`, which
is cut where the task waits for a frame. What a step meets (the time, what the app state says, whether
memory is left, how sends and the upload end) is its environment. Texts that are sent on occasions other
than those modelled, among them what the other commands do, are steps of their own. Samples are of any
type, since the code only copies them. What happens to them is noted in a log, the last entry first; the
code looks neither at it nor at the session that a request to finalize names.

The phase that is shown, what only sends read (the sequence, the metrics of frames, the micro VAD other
than its end) and the audio WebSocket, which the HTTP build never starts, are left out. So is that
`post_tts_input_cooldown_active` clears a time that has passed.
-/

namespace HexeVoice.Firmware.VoiceSession

open HexeVoice.Library

/-! ### Constants -/

def kAudioQueueDepth : ℕ := 16
def kWakePredictionChunkSamples : ℕ := 1280
def kVoiceAudioHttpUploadChunkBytes : ℕ := 2048
def kVoiceAudioHttpUploadChunkSamples : ℕ := kVoiceAudioHttpUploadChunkBytes / 2
def kWakePrerollFrameCount : ℕ := 15
def kVoiceWsReadyWarmupUs : ℤ := 300000
def kPostTtsInputIgnoreUs : ℤ := 800000
def kSessionResetInputIgnoreUs : ℤ := 2000000
def kPreWakeStreamTimeoutUs : ℤ := 10000000
def kAcceptedCaptureTimeoutUs : ℤ := 15000000
def kWakeElectionTimeoutMs : ℤ := 300
def kAudioFinalizeRequestIdBytes : ℕ := 80
def kAudioFinalizeReasonBytes : ℕ := 64
def kVoiceEventSchemaVersion : CString := .ofAscii "hexevoice.voice.event.v1"

/-- What the build configuration and the settings fix. -/
structure Config where
  endpointId : CString
  kEndpointAudioSampleRateHz : ℕ
  kEndpointAudioChannels : ℕ
  kEndpointAudioChunkSamples : ℕ

def Config.kVoiceAudioMaxBufferedSamples (config : Config) : ℕ :=
  config.kEndpointAudioSampleRateHz * config.kEndpointAudioChannels * 20

def transportFlushSampleLimit : ℕ :=
  min kWakePredictionChunkSamples kVoiceAudioHttpUploadChunkSamples

/-! ### The state -/

structure AudioFrame (S : Type) where
  samples : List S
  vadSpeaking : Bool
  microVadEnded : Bool
  deriving DecidableEq

/-- What happens to samples. -/
inductive Entry (S : Type) where
  /-- A session starts. -/
  | started
  /-- `resume_audio_stream_for_followup`, in a session. -/
  | resumed
  /-- A frame is taken from the queue. -/
  | taken (samples : List S)
  /-- A `post_buffered_voice_audio_http` that succeeds. -/
  | posted (samples : List S)
  deriving DecidableEq

/-- The request to finalize that is pending, and the session that its envelope names. -/
structure AudioFinalize where
  requestId : CBuffer kAudioFinalizeRequestIdBytes
  reason : CBuffer kAudioFinalizeReasonBytes
  sessionId : Option CString
  deriving DecidableEq

/-- The globals of the client. -/
structure Client (S : Type) where
  sessionCounter : ℕ
  sessionId : CString
  sessionStarted : Bool
  sessionStartedAtUs : ℤ
  wakeAcceptedForSession : Bool
  wakeElectionWaiting : Bool
  wakeElectionStartedAtUs : ℤ
  wakeCandidateId : CString
  vadSpeechStartedReported : Bool
  audioStreamFinished : Bool
  /-- `audio_streaming` of the app state. -/
  audioStreaming : Bool
  ttsPlaybackSessionId : CString
  postTtsInputIgnoreUntilUs : ℤ
  audioQueue : List (AudioFrame S)
  prerollDrained : Bool
  /-- The frames of the ring, the oldest first. -/
  prerollFrames : List (AudioFrame S)
  transportSamples : List S
  transportContainsSpeech : Bool
  /-- The buffer is allocated. -/
  httpAudioBuffer : Bool
  httpAudioSamples : List S
  httpAudioBufferOverflow : Bool
  wsConnected : Bool
  wsConnectedAtUs : ℤ
  wsRestartRequested : Bool
  audioFinalize : Option AudioFinalize
  log : List (Entry S)
  deriving DecidableEq

/-- The client as it starts. -/
def Client.boot (S : Type) : Client S where
  sessionCounter := 0
  sessionId := .empty
  sessionStarted := false
  sessionStartedAtUs := 0
  wakeAcceptedForSession := false
  wakeElectionWaiting := false
  wakeElectionStartedAtUs := 0
  wakeCandidateId := .empty
  vadSpeechStartedReported := false
  audioStreamFinished := false
  audioStreaming := false
  ttsPlaybackSessionId := .empty
  postTtsInputIgnoreUntilUs := 0
  audioQueue := []
  prerollDrained := false
  prerollFrames := []
  transportSamples := []
  transportContainsSpeech := false
  httpAudioBuffer := false
  httpAudioSamples := []
  httpAudioBufferOverflow := false
  wsConnected := false
  wsConnectedAtUs := 0
  wsRestartRequested := false
  audioFinalize := none
  log := []

/-- How a send ends. -/
inductive SendResult where
  | sent
  /-- The lock is not free in time. -/
  | lockTimedOut
  | failed
  deriving DecidableEq

/-- What a step meets. -/
structure Env where
  /-- `esp_timer_get_time`. -/
  nowUs : ℤ
  muted : Bool
  otaActive : Bool
  /-- `wifi_connected && backend_connected`. -/
  backendConnected : Bool
  ttsPlaybackActive : Bool
  wakeWordElectionCapable : Bool
  /-- There is a WebSocket client, or it is started. -/
  wsClient : Bool
  /-- `heap_caps_malloc` succeeds. -/
  memory : Bool
  /-- The backend takes the upload. -/
  uploaded : Bool
  /-- The acknowledgement of a command. -/
  acknowledgement : SendResult
  /-- The message of the session. -/
  message : SendResult
  /-- What is sent after it. -/
  answer : SendResult
  deriving DecidableEq

section Model

variable {S : Type} (config : Config) (env : Env) (s : Client S)

/-- Something happens. -/
def Client.note (entry : Entry S) : Client S := { s with log := entry :: s.log }

/-! ### Resets -/

/-- `reset_transport_micro_vad`, with the metrics that it resets. -/
def resetTransportMicroVad : Client S := { s with transportContainsSpeech := false }

def resetHttpAudioBufferState : Client S :=
  { s with httpAudioSamples := [], httpAudioBufferOverflow := false }

def resetWakeElectionState : Client S :=
  { s with
    wakeElectionWaiting := false
    wakeElectionStartedAtUs := 0
    wakeCandidateId := .empty }

def setAudioStreaming (streaming : Bool) : Client S := { s with audioStreaming := streaming }

def resetVoiceSessionState (clearTtsSession : Bool) : Client S :=
  let s :=
    { s with
      sessionStarted := false
      wakeAcceptedForSession := false
      vadSpeechStartedReported := false
      audioStreamFinished := false
      prerollDrained := false
      prerollFrames := []
      transportSamples := []
      sessionStartedAtUs := 0 }
  let s := resetWakeElectionState (resetHttpAudioBufferState (resetTransportMicroVad s))
  let s := if clearTtsSession then { s with ttsPlaybackSessionId := .empty } else s
  setAudioStreaming s false

def resetAudioTransportQueue : Client S :=
  resetTransportMicroVad
    { s with
      audioQueue := []
      transportSamples := []
      prerollFrames := []
      prerollDrained := false }

def markVoiceSocketDisconnected : Client S :=
  resetAudioTransportQueue
    (resetVoiceSessionState { s with wsConnected := false, wsConnectedAtUs := 0 } true)

def startInputIgnoreCooldown (durationUs : ℤ) : Client S :=
  resetTransportMicroVad
    { s with
      postTtsInputIgnoreUntilUs := env.nowUs + durationUs
      prerollFrames := []
      transportSamples := [] }

def startPostTtsInputCooldown : Client S := startInputIgnoreCooldown env s kPostTtsInputIgnoreUs

def startSessionResetInputCooldown : Client S :=
  startInputIgnoreCooldown env s kSessionResetInputIgnoreUs

/-! ### What holds now -/

def backendReadyForVoice : Bool := env.backendConnected && !env.otaActive

/-- `voice_control_transport_ready`, and in this build `voice_audio_transport_ready` and
`voice_transport_ready`. -/
def voiceControlTransportReady : Bool :=
  let controlConnectedForUs := if s.wsConnectedAtUs > 0 then env.nowUs - s.wsConnectedAtUs else 0
  backendReadyForVoice env && s.wsConnected && !s.wsRestartRequested &&
    controlConnectedForUs ≥ kVoiceWsReadyWarmupUs

def voiceAudioUploadDesired : Bool :=
  s.sessionStarted && !s.audioStreamFinished && !env.otaActive && backendReadyForVoice env

def postTtsInputCooldownActive : Bool :=
  s.postTtsInputIgnoreUntilUs > 0 && env.nowUs < s.postTtsInputIgnoreUntilUs

def activeAudioStreamTimedOut : Bool :=
  if !s.sessionStarted || s.audioStreamFinished || s.sessionStartedAtUs ≤ 0 then false
  else
    env.nowUs - s.sessionStartedAtUs >
      if s.wakeAcceptedForSession then kAcceptedCaptureTimeoutUs else kPreWakeStreamTimeoutUs

def wakeElectionWaitTimedOut : Bool :=
  if !s.wakeElectionWaiting || s.wakeElectionStartedAtUs ≤ 0 then false
  else env.nowUs - s.wakeElectionStartedAtUs > kWakeElectionTimeoutMs * 1000

def wakeSourceIsLocalAcceptance (wakeSource : CString) : Bool :=
  wakeSource = .ofAscii "button" || wakeSource = .ofAscii "manual" || wakeSource = .ofAscii "touch"

/-! ### Sends -/

def sendWsText (result : SendResult) : Bool × Client S :=
  if result = .lockTimedOut then (false, s)
  else if env.otaActive || !s.wsConnected then (false, markVoiceSocketDisconnected s)
  else if result = .sent then (true, s)
  else (false, { markVoiceSocketDisconnected s with wsRestartRequested := true })

/-- `send_command_ack` and `send_command_error`, of whose texts nothing here depends. -/
def sendCommandAnswer (requestId : CString) (result : SendResult) : Client S :=
  if requestId = .empty then s else (sendWsText env s result).2

/-! ### Audio -/

def rememberPrerollFrame (frame : AudioFrame S) : Client S :=
  let frames := s.prerollFrames ++ [frame]
  { s with prerollFrames := frames.drop (frames.length - kWakePrerollFrameCount) }

def bufferVoiceAudioSamples (samples : List S) : Bool × Client S :=
  if samples = [] then (true, s)
  else if !s.httpAudioBuffer && !env.memory then (false, s)
  else
    let remaining := config.kVoiceAudioMaxBufferedSamples - s.httpAudioSamples.length
    let toCopy := min remaining samples.length
    (true,
      { s with
        httpAudioBuffer := true
        httpAudioSamples := s.httpAudioSamples ++ samples.take toCopy
        httpAudioBufferOverflow := s.httpAudioBufferOverflow || toCopy < samples.length })

def sendTransportChunk (samples : List S) : Bool × Client S :=
  if samples = [] then (true, s)
  else
    match bufferVoiceAudioSamples config env s samples with
    | (true, s) => (true, resetTransportMicroVad (setAudioStreaming s true))
    | (false, s) => (false, setAudioStreaming s false)

def flushTransportSamples (force : Bool) : Bool × Client S :=
  if s.transportSamples = [] then (true, s)
  else if !force && s.transportSamples.length < transportFlushSampleLimit then (true, s)
  else
    match sendTransportChunk config env s s.transportSamples with
    | (true, s) => (true, { s with transportSamples := [] })
    | (false, s) => (false, s)

def mergeTransportAudioMetrics (frame : AudioFrame S) : Client S :=
  { s with transportContainsSpeech := s.transportContainsSpeech || frame.vadSpeaking }

/-- The loop of `append_transport_frame`, over the samples of the frame that are not yet copied. At most
the first pass copies nothing, so that passes one more than samples are enough. -/
def appendTransportSamples (frame : AudioFrame S) : ℕ → List S → Client S → Bool × Client S
  | 0, _, s => (true, s)
  | passes + 1, samples, s =>
    if samples = [] then (true, s)
    else
      let available := transportFlushSampleLimit - s.transportSamples.length
      let rest := samples.drop available
      let s := { s with transportSamples := s.transportSamples ++ samples.take available }
      if s.transportSamples.length = transportFlushSampleLimit then
        match flushTransportSamples config env s false with
        | (false, s) => (false, s)
        | (true, s) =>
          appendTransportSamples frame passes rest
            (if s.transportSamples = [] ∧ rest ≠ [] then mergeTransportAudioMetrics s frame else s)
      else appendTransportSamples frame passes rest s

def appendTransportFrame (frame : AudioFrame S) : Bool × Client S :=
  match appendTransportSamples config env frame (frame.samples.length + 1) frame.samples
      (mergeTransportAudioMetrics s frame) with
  | (false, s) => (false, s)
  | (true, s) => if frame.microVadEnded then flushTransportSamples config env s true else (true, s)

/-- `append_transport_frame` of frames, up to the first that fails. -/
def appendTransportFrames : List (AudioFrame S) → Client S → Bool × Client S
  | [], s => (true, s)
  | frame :: frames, s =>
    match appendTransportFrame config env s frame with
    | (false, s) => (false, s)
    | (true, s) => appendTransportFrames frames s

def drainPrerollFrames : Bool × Client S :=
  if s.prerollDrained then (true, s)
  else
    match appendTransportFrames config env s.prerollFrames s with
    | (false, s) => (false, s)
    | (true, s) => (true, { s with prerollDrained := true })

/-- `drain_queued_audio_frames_to_transport_buffer`, which takes the frames that are `queued`. -/
def drainQueuedAudioFrames : List (AudioFrame S) → Client S → Client S
  | [], s => s
  | frame :: queued, s =>
    let s := { s with audioQueue := queued }.note (.taken frame.samples)
    match drainPrerollFrames config env s with
    | (false, s) => s
    | (true, s) =>
      match appendTransportFrame config env s frame with
      | (false, s) => s
      | (true, s) => drainQueuedAudioFrames queued s

def drainQueuedAudioFramesToTransportBuffer : Client S :=
  drainQueuedAudioFrames config env s.audioQueue s

/-- `post_buffered_voice_audio_http`, and `post_voice_audio_chunk_http`. -/
def postBufferedVoiceAudioHttp : Client S :=
  if s.httpAudioSamples = [] then s
  else if s.sessionId = .empty then s
  else if config.kVoiceAudioMaxBufferedSamples < s.httpAudioSamples.length then s
  else if env.uploaded then s.note (.posted s.httpAudioSamples) else s

/-- `finish_audio_stream`, once nothing is left in the transport buffer. -/
def finishFlushedAudioStream (reason : CString) : Bool × Client S :=
  let captureTimeoutWithoutSpeech :=
    reason = .ofAscii "capture_timeout" && !s.vadSpeechStartedReported && !s.transportContainsSpeech
  let s := setAudioStreaming { s with audioStreamFinished := true } false
  let s :=
    if captureTimeoutWithoutSpeech && s.httpAudioSamples.isEmpty then s
    else postBufferedVoiceAudioHttp config env s
  match sendWsText env s env.message with
  | (true, s) => (true, setAudioStreaming { s with audioStreamFinished := true } false)
  | (false, s) => (false, { s with audioStreamFinished := false })

def finishAudioStream (reason : CString) : Bool × Client S :=
  if env.otaActive || !s.sessionStarted || s.audioStreamFinished then (false, s)
  else if s.wakeElectionWaiting && !s.wakeAcceptedForSession then (false, s)
  else
    match flushTransportSamples config env (drainQueuedAudioFramesToTransportBuffer config env s) true with
    | (false, s) => (false, s)
    | (true, s) => finishFlushedAudioStream config env s reason

def submitAudioFrame (samples : List S) (vadSpeaking microVadEnded : Bool) : Client S :=
  if samples = [] || !voiceControlTransportReady env s || !voiceAudioUploadDesired env s then s
  else if postTtsInputCooldownActive env s then s
  else
    let frame := ⟨samples.take config.kEndpointAudioChunkSamples, vadSpeaking, microVadEnded⟩
    if s.audioQueue.length < kAudioQueueDepth then { s with audioQueue := s.audioQueue ++ [frame] }
    else { s with audioQueue := s.audioQueue.tail ++ [frame] }

def sendAudioFrame (frame : AudioFrame S) : Client S :=
  if !s.sessionStarted then rememberPrerollFrame s frame
  else if s.audioStreamFinished then s
  else if activeAudioStreamTimedOut env s then
    (finishAudioStream config env s (.ofAscii "capture_timeout")).2
  else if s.wakeElectionWaiting && !s.wakeAcceptedForSession && !wakeElectionWaitTimedOut env s then
    rememberPrerollFrame s frame
  else
    let s :=
      if s.wakeElectionWaiting && !s.wakeAcceptedForSession then
        setAudioStreaming (resetWakeElectionState s) true
      else s
    match drainPrerollFrames config env s with
    | (false, s) => s
    | (true, s) => (appendTransportFrame config env s frame).2

/-! ### Sessions -/

/-- The decimal digits of a number. -/
def digits (n : ℕ) : CString := .ofText (Nat.repr n)

/-- The parts of a formatted text, one after the other. -/
def concat (parts : List CString) : CString where
  bytes := parts.flatMap CString.bytes
  zero_notMem := by simp [CString.zero_notMem]

def ensureSessionStarted (wakeSource : CString) : Bool × Client S :=
  if s.sessionStarted then (true, s)
  else if !voiceControlTransportReady env s then (false, s)
  else if postTtsInputCooldownActive env s && !wakeSourceIsLocalAcceptance wakeSource then (false, s)
  else
    let accepted := wakeSourceIsLocalAcceptance wakeSource
    let sessionCounter := (s.sessionCounter + 1) % 2 ^ 32
    let s :=
      { s with
        postTtsInputIgnoreUntilUs := if accepted then 0 else s.postTtsInputIgnoreUntilUs
        sessionCounter
        audioStreamFinished := false
        wakeAcceptedForSession := accepted
        vadSpeechStartedReported := false
        prerollDrained := false
        transportSamples := []
        sessionStartedAtUs := env.nowUs }
    let s := resetWakeElectionState (resetTransportMicroVad s)
    let s :=
      { s with
        ttsPlaybackSessionId := .empty
        sessionId := (concat [config.endpointId, .ofAscii "-", digits sessionCounter]).take 95 }
    match sendWsText env s env.message with
    | (true, s) => (true, (setAudioStreaming { s with sessionStarted := true } true).note .started)
    | (false, s) => (false, { s with sessionStarted := false, wakeAcceptedForSession := false })

def startVoiceSession (wakeSource : CString) : Bool × Client S :=
  if env.muted || env.otaActive then (false, s)
  else if s.sessionStarted then (false, s)
  else if env.ttsPlaybackActive then (false, s)
  else if !voiceControlTransportReady env s then (false, s)
  else ensureSessionStarted config env s wakeSource

def submitWakeCandidate : Client S :=
  if env.muted || env.otaActive || !env.wakeWordElectionCapable then s
  else if s.sessionStarted then s
  else if !voiceControlTransportReady env s || postTtsInputCooldownActive env s then s
  else
    match ensureSessionStarted config env s (.ofAscii "unknown") with
    | (false, s) => s
    | (true, s) =>
      match sendWsText env s env.answer with
      | (true, s) =>
        setAudioStreaming
          { s with
            wakeCandidateId :=
              (concat [.ofAscii "wake_", config.endpointId, .ofAscii "_", digits s.sessionCounter,
                .ofAscii "_", digits env.nowUs.toNat]).take 127
            wakeElectionWaiting := true
            wakeElectionStartedAtUs := env.nowUs
            wakeAcceptedForSession := true } true
      | (false, s) => resetWakeElectionState s

def sendVadSpeechStartedEvent : Client S :=
  if s.vadSpeechStartedReported then s
  else if postTtsInputCooldownActive env s then s
  else if !s.sessionStarted || s.audioStreamFinished then s
  else
    match sendWsText env s env.message with
    | (true, s) => { s with vadSpeechStartedReported := true }
    | (false, s) => s

def resumeAudioStreamForFollowup : Client S :=
  if !s.sessionStarted then s
  else
    let s :=
      { s with
        audioStreamFinished := false
        vadSpeechStartedReported := false
        prerollDrained := false
        transportSamples := []
        sessionStartedAtUs := env.nowUs }
    (setAudioStreaming (resetWakeElectionState (resetTransportMicroVad s)) true).note .resumed

def cancelActiveSession : Client S :=
  if env.otaActive || !s.sessionStarted then s
  else
    startSessionResetInputCooldown env
      (resetVoiceSessionState (sendWsText env s env.message).2 true)

/-- `send_tts_playback_event`, of `tts.playback.completed` or of `tts.playback.failed`. -/
def sendTtsPlaybackEvent (completed : Bool) : Client S :=
  match sendWsText env s env.message with
  | (true, s) =>
    let s := if completed then startPostTtsInputCooldown env s else s
    { s with ttsPlaybackSessionId := .empty }
  | (false, s) => s

/-- `request_audio_finalize`, of a request whose envelope names the session. -/
def requestAudioFinalize (requestId reason : CString) (sessionId : Option CString) : Client S :=
  { s with
    audioFinalize :=
      some
        { requestId := .copy kAudioFinalizeRequestIdBytes (by decide) requestId
          reason := .copy kAudioFinalizeReasonBytes (by decide) reason
          sessionId } }

/-- `process_pending_audio_finalize`, of a request that is pending. -/
def processAudioFinalize (request : AudioFinalize) : Client S :=
  let reason :=
    if request.reason.text = .empty then .ofAscii "backend_finalize" else request.reason.text
  let s := (finishAudioStream config env { s with audioFinalize := none } reason).2
  sendCommandAnswer env s request.requestId.text env.answer

/-! ### Backend events -/

/-- What an event that is not ignored says. -/
structure Envelope where
  eventType : CString
  /-- The session that it names, if that is a string. -/
  sessionId : Option CString
  payload : CJson

/-- The checks at the start of `handle_backend_event_json`. -/
def acceptedEnvelope (root : CJson) : Option Envelope :=
  let eventType := (CJson.string? (root.getObjectItem "event_type")).getD .empty
  let eventId := (CJson.string? (root.getObjectItem "event_id")).getD .empty
  let schema := (CJson.string? (root.getObjectItem "schema_version")).getD .empty
  if eventType = .empty || eventId = .empty || schema = .empty ||
      (CJson.string? (root.getObjectItem "timestamp")).isNone then none
  else if schema ≠ kVoiceEventSchemaVersion then none
  else
    match root.getObjectItem "payload" with
    | some payload =>
      if payload.isObject then
        some ⟨eventType, CJson.string? (root.getObjectItem "session_id"), payload⟩
      else none
    | none => none

def payloadRequestId (payload : CJson) : CString :=
  (CJson.string? (payload.getObjectItem "request_id")).getD .empty

def isBackendCommandEvent (eventType : CString) : Bool :=
  eventType = .ofAscii "ota.update" || (CString.ofAscii "endpoint.").bytes.isPrefixOf eventType.bytes

/-- The `ux_state` of the snapshot in the payload. -/
def uxState (payload : CJson) : CString :=
  match payload.getObjectItem "snapshot" with
  | some snapshot => (CJson.string? (snapshot.getObjectItem "ux_state")).getD .empty
  | none => .empty

def eventRequestsFollowupListen (payload : CJson) : Bool :=
  if uxState payload ≠ .ofAscii "listening" then false
  else
    match payload.getObjectItem "followup" with
    | some followup =>
      CJson.bool? (followup.getObjectItem "needed") = some true ||
        (CJson.number? (followup.getObjectItem "listen_timeout_ms")).any (0 < ·)
    | none => false

def wakeElectionResultRequestsStandDown (payload : CJson) : Bool :=
  CJson.bool? (payload.getObjectItem "stand_down") = some true

/-- `wake.accepted`. -/
def acceptWake : Client S :=
  setAudioStreaming (resetWakeElectionState { s with wakeAcceptedForSession := true }) true

/-- `session.completed`, `session.cancelled` and `session.error`, the latter two of which clear the
session of the playback. -/
def endSession (clearTtsSession : Bool) : Client S :=
  startSessionResetInputCooldown env (resetVoiceSessionState s clearTtsSession)

/-- The branches of `handle_backend_event_json` that the type of the event selects. -/
def dispatchEvent (envelope : Envelope) : Client S :=
  let requestId := payloadRequestId envelope.payload
  if envelope.eventType = .ofAscii "session.state" then s
  else if envelope.eventType = .ofAscii "tts.ready" then
    { s with
      ttsPlaybackSessionId :=
        match envelope.sessionId with
        | some sessionId => if sessionId ≠ .empty then sessionId else s.sessionId
        | none => if s.sessionId ≠ .empty then s.sessionId else s.ttsPlaybackSessionId }
  else if envelope.eventType = .ofAscii "endpoint.mute" then
    match CJson.bool? (envelope.payload.getObjectItem "muted") with
    | some muted =>
      let s := if muted then cancelActiveSession env s else s
      sendCommandAnswer env s requestId env.answer
    | none => sendCommandAnswer env s requestId env.answer
  else if envelope.eventType = .ofAscii "endpoint.audio.finalize" then
    let reason := (CJson.string? (envelope.payload.getObjectItem "reason")).getD .empty
    requestAudioFinalize s requestId
      (if reason = .empty then .ofAscii "backend_finalize" else reason) envelope.sessionId
  else if envelope.eventType = .ofAscii "endpoint.cancel" then
    sendCommandAnswer env (cancelActiveSession env s) requestId env.answer
  else if envelope.eventType = .ofAscii "endpoint.listen" then
    sendCommandAnswer env (startVoiceSession config env s (.ofAscii "manual")).2 requestId env.answer
  else if envelope.eventType = .ofAscii "session.completed" then endSession env s false
  else if envelope.eventType = .ofAscii "session.cancelled" then
    endSession env { s with ttsPlaybackSessionId := .empty } false
  else if envelope.eventType = .ofAscii "session.error" then endSession env s true
  else s

/-- An event that is not a command only changes the phase if it says, of a wake that is accepted, that
the backend listens or thinks. -/
def onlyChangesPhase (envelope : Envelope) : Bool :=
  envelope.eventType = .ofAscii "wake.accepted" ||
    (!isBackendCommandEvent envelope.eventType && s.wakeAcceptedForSession &&
      (uxState envelope.payload = .ofAscii "listening" ||
        uxState envelope.payload = .ofAscii "thinking"))

/-- `handle_backend_event_json`, of an event that is not ignored. -/
def handleEnvelope (envelope : Envelope) : Client S :=
  let s :=
    if isBackendCommandEvent envelope.eventType then
      sendCommandAnswer env s (payloadRequestId envelope.payload) env.acknowledgement
    else s
  if envelope.eventType = .ofAscii "wake.election.result" &&
      wakeElectionResultRequestsStandDown envelope.payload then
    resetVoiceSessionState s false
  else
    let s := if envelope.eventType = .ofAscii "wake.accepted" then acceptWake s else s
    let s :=
      if eventRequestsFollowupListen envelope.payload then resumeAudioStreamForFollowup env s else s
    if onlyChangesPhase s envelope then s else dispatchEvent config env s envelope

/-- `handle_backend_event_json`, of a message that is JSON. -/
def handleBackendEventJson (root : CJson) : Client S :=
  match acceptedEnvelope root with
  | some envelope => handleEnvelope config env s envelope
  | none => s

/-! ### The task -/

/-- `websocket_task`, up to where it waits for a frame. -/
def websocketTask : Client S :=
  if env.otaActive || !backendReadyForVoice env then
    let s := if env.wsClient || s.wsConnected then markVoiceSocketDisconnected s else s
    { s with audioQueue := [] }
  else if s.wsRestartRequested then
    resetAudioTransportQueue
      { s with wsConnected := false, wsConnectedAtUs := 0, wsRestartRequested := false }
  else
    match s.audioFinalize with
    | some request => processAudioFinalize config env s request
    | none =>
      if voiceAudioUploadDesired env s && activeAudioStreamTimedOut env s then
        (finishAudioStream config env s (.ofAscii "capture_timeout")).2
      else s

/-- `websocket_task`, where it takes a frame. -/
def receiveAudioFrame : Client S :=
  if !voiceControlTransportReady env s then s
  else
    match s.audioQueue with
    | [] => s
    | frame :: queued =>
      sendAudioFrame config env ({ s with audioQueue := queued }.note (.taken frame.samples)) frame

end Model

/-- What happens. -/
inductive Action (S : Type) where
  | startVoiceSession (wakeSource : CString)
  | submitWakeCandidate
  | submitAudioFrame (samples : List S) (vadSpeaking microVadEnded : Bool)
  | notifyVadSpeechStarted
  | finishAudioStream (reason : CString)
  | cancelActiveSession
  | sendTtsPlaybackEvent (completed : Bool)
  | backendEvent (root : CJson)
  | websocketConnected
  | websocketDisconnected
  | websocketTask
  | receiveAudioFrame
  /-- Any other text is sent. -/
  | sendText

variable {S : Type}

/-- One step. -/
def step (config : Config) (s : Client S) : Env × Action S → Client S
  | (env, .startVoiceSession wakeSource) => (startVoiceSession config env s wakeSource).2
  | (env, .submitWakeCandidate) => submitWakeCandidate config env s
  | (env, .submitAudioFrame samples vadSpeaking microVadEnded) =>
    submitAudioFrame config env s samples vadSpeaking microVadEnded
  | (env, .notifyVadSpeechStarted) => sendVadSpeechStartedEvent env s
  | (env, .finishAudioStream reason) => (finishAudioStream config env s reason).2
  | (env, .cancelActiveSession) => cancelActiveSession env s
  | (env, .sendTtsPlaybackEvent completed) => sendTtsPlaybackEvent env s completed
  | (env, .backendEvent root) => handleBackendEventJson config env s root
  | (env, .websocketConnected) =>
    resetVoiceSessionState { s with wsConnected := true, wsConnectedAtUs := env.nowUs } false
  | (_, .websocketDisconnected) => { markVoiceSocketDisconnected s with wsRestartRequested := true }
  | (env, .websocketTask) => websocketTask config env s
  | (env, .receiveAudioFrame) => receiveAudioFrame config env s
  | (env, .sendText) => (sendWsText env s env.message).2

end HexeVoice.Firmware.VoiceSession
