import Mathlib

/-!
# The voice event contract

The vocabulary of `voice/contracts.py`: session states and the moves allowed between
them, event types and their directions, the validated payloads of the events an endpoint
sends, and the envelope that carries them.

## The model

An envelope's `payload` is a JSON dictionary that each handler passes to the validator of
its own payload class. `EventPayload` is the dictionary as the validators see it: for
every payload class either the validated value or the message of the first error, and the
few keys that handlers read without a validator.

A `datetime` is an instant together with whether it carries a timezone: Python refuses to
subtract one that does from one that does not. The schema of the envelope,
`docs/voice-event-envelope/envelope.schema.json`, asks for an RFC 3339 date-time, which
has an offset; `EndpointEvent` is an envelope that meets it.
-/

namespace HexeVoice.Voice

abbrev EndpointId := String
abbrev SessionId := String
abbrev Bytes := List UInt8

/-- The exceptions a handler can leave by. -/
inductive PyError where
  /-- `TypeError`: a timezone-aware and a naive `datetime` were subtracted. -/
  | typeError
  /-- `AttributeError`: the turn pipeline has no such method. -/
  | attributeError
  /-- `KeyError`: an event type has no handler. -/
  | keyError
  /-- `RuntimeError`: a follow-up window without a session. -/
  | runtimeError
  deriving DecidableEq

/-- A `datetime`, in microseconds; a naive one is read as UTC where it is normalised. -/
structure Datetime where
  /-- Microseconds since the epoch. -/
  micros : ℤ
  /-- Whether it carries a timezone. -/
  aware : Bool := true
  deriving DecidableEq

/-- `a - b`, in microseconds. -/
def Datetime.sub {σ : Type} (a b : Datetime) : EStateM PyError σ ℤ :=
  if a.aware = b.aware then pure (a.micros - b.micros) else throw .typeError

/-- The truth value of a `str | None`. -/
def truthy (s : Option String) : Bool := s.any (· ≠ "")

/-! ### Session states -/

inductive VoiceSessionState where
  | idle | wakeDetected | listening | capturing | transcribing | localCommand | routing
  | responding | completed | cancelled | failed
  deriving DecidableEq

/-- `VOICE_SESSION_ALLOWED_TRANSITIONS`. -/
def allowedTransitions : VoiceSessionState → List VoiceSessionState
  | .idle => [.wakeDetected, .listening, .capturing, .cancelled, .failed]
  | .wakeDetected => [.listening, .cancelled, .failed]
  | .listening => [.capturing, .cancelled, .failed]
  | .capturing => [.transcribing, .cancelled, .failed]
  | .transcribing => [.localCommand, .routing, .cancelled, .failed]
  | .localCommand => [.responding, .completed, .cancelled, .failed]
  | .routing => [.responding, .cancelled, .failed]
  | .responding => [.listening, .completed, .cancelled, .failed]
  | .completed => [.idle]
  | .cancelled => [.idle]
  | .failed => [.idle]

/-- `is_valid_voice_session_transition`. -/
def isValidTransition (current next : VoiceSessionState) : Bool :=
  (allowedTransitions current).contains next

/-! ### Event types -/

inductive VoiceEventType where
  | sessionStart | audioChunk | audioEnd | vadSpeechStarted | vadSpeechEnded | wakeCandidate
  | sessionCancel | sessionPing | sessionState | wakeElectionResult | wakeAccepted
  | captureStarted | captureStopped | transcriptPartial | transcriptFinal | commandResult
  | commandHandled | upstreamPending | upstreamResponse | responseText | ttsReady
  | ttsPlaybackDownloadStarted | ttsPlaybackFirstAudioFrame | ttsPlaybackCompleted
  | ttsPlaybackFailed | playbackStart | playbackStop | endpointUiButtonPressed
  | endpointUiScreenChanged | sessionComplete | sessionCompleted | sessionCancelled
  | sessionError | otaUpdate | endpointVolume | endpointMute | endpointMicroVad
  | endpointDisplayTuning | endpointAudioFinalize | endpointCancel | endpointListen
  | endpointReplay | endpointRestart | endpointAssetsSync | endpointAssetPrepare
  | endpointUiFlags | endpointUiMessage | endpointUiScreenRender | endpointUiScreenClear
  | endpointProvisioningApply | endpointProvisioningReset | endpointLedSimulate
  | endpointMediaTransfer | endpointStorageReformat | endpointTimer | commandAck | commandError
  deriving DecidableEq

/-- The name of an event type. -/
def VoiceEventType.name : VoiceEventType → String
  | .sessionStart => "session.start"
  | .audioChunk => "audio.chunk"
  | .audioEnd => "audio.end"
  | .vadSpeechStarted => "vad.speech_started"
  | .vadSpeechEnded => "vad.speech_ended"
  | .wakeCandidate => "wake.candidate"
  | .sessionCancel => "session.cancel"
  | .sessionPing => "session.ping"
  | .sessionState => "session.state"
  | .wakeElectionResult => "wake.election.result"
  | .wakeAccepted => "wake.accepted"
  | .captureStarted => "capture.started"
  | .captureStopped => "capture.stopped"
  | .transcriptPartial => "transcript.partial"
  | .transcriptFinal => "transcript.final"
  | .commandResult => "command.result"
  | .commandHandled => "command.handled"
  | .upstreamPending => "upstream.pending"
  | .upstreamResponse => "upstream.response"
  | .responseText => "response.text"
  | .ttsReady => "tts.ready"
  | .ttsPlaybackDownloadStarted => "tts.playback.download_started"
  | .ttsPlaybackFirstAudioFrame => "tts.playback.first_audio_frame"
  | .ttsPlaybackCompleted => "tts.playback.completed"
  | .ttsPlaybackFailed => "tts.playback.failed"
  | .playbackStart => "playback.start"
  | .playbackStop => "playback.stop"
  | .endpointUiButtonPressed => "endpoint.ui.button_pressed"
  | .endpointUiScreenChanged => "endpoint.ui.screen.changed"
  | .sessionComplete => "session.complete"
  | .sessionCompleted => "session.completed"
  | .sessionCancelled => "session.cancelled"
  | .sessionError => "session.error"
  | .otaUpdate => "ota.update"
  | .endpointVolume => "endpoint.volume"
  | .endpointMute => "endpoint.mute"
  | .endpointMicroVad => "endpoint.micro_vad"
  | .endpointDisplayTuning => "endpoint.display.tuning"
  | .endpointAudioFinalize => "endpoint.audio.finalize"
  | .endpointCancel => "endpoint.cancel"
  | .endpointListen => "endpoint.listen"
  | .endpointReplay => "endpoint.replay"
  | .endpointRestart => "endpoint.restart"
  | .endpointAssetsSync => "endpoint.assets.sync"
  | .endpointAssetPrepare => "endpoint.asset.prepare"
  | .endpointUiFlags => "endpoint.ui.flags"
  | .endpointUiMessage => "endpoint.ui.message"
  | .endpointUiScreenRender => "endpoint.ui.screen.render"
  | .endpointUiScreenClear => "endpoint.ui.screen.clear"
  | .endpointProvisioningApply => "endpoint.provisioning.apply"
  | .endpointProvisioningReset => "endpoint.provisioning.reset"
  | .endpointLedSimulate => "endpoint.led.simulate"
  | .endpointMediaTransfer => "endpoint.media.transfer"
  | .endpointStorageReformat => "endpoint.storage.reformat"
  | .endpointTimer => "endpoint.timer"
  | .commandAck => "command.ack"
  | .commandError => "command.error"

inductive VoiceEventDirection where
  | endpointToBackend | backendToEndpoint | internal
  deriving DecidableEq

def endpointToBackendEvents : List VoiceEventType :=
  [.sessionStart, .audioChunk, .audioEnd, .vadSpeechStarted, .vadSpeechEnded, .wakeCandidate,
    .sessionCancel, .sessionPing, .commandAck, .commandError, .ttsPlaybackDownloadStarted,
    .ttsPlaybackFirstAudioFrame, .ttsPlaybackCompleted, .ttsPlaybackFailed, .playbackStop,
    .endpointUiButtonPressed, .endpointUiScreenChanged]

/-! ### Payloads -/

/-- The audio encodings of `VoiceAudioFormat`. -/
inductive AudioEncoding where
  | pcmS16le | opus | wav
  deriving DecidableEq

theorem sampleRateHz_default : 8000 ≤ 16000 := by decide

theorem channels_default : 1 ≤ 1 ∧ 1 ≤ 2 := by decide

structure VoiceAudioFormat where
  encoding : AudioEncoding := .pcmS16le
  sampleRateHz : ℕ := 16000
  channels : ℕ := 1
  /-- `ge=8000`. -/
  sampleRateHz_ge : 8000 ≤ sampleRateHz := by first | exact sampleRateHz_default | decide
  /-- `ge=1, le=2`. -/
  channels_mem : 1 ≤ channels ∧ channels ≤ 2 := by first | exact channels_default | decide
  deriving DecidableEq

/-- The wake sources a session can be started with. -/
inductive WakeSource where
  | openwakeword | button | manual | touch | unknown
  deriving DecidableEq

/-- The name of a wake source. -/
def WakeSource.name : WakeSource → String
  | .openwakeword => "openwakeword"
  | .button => "button"
  | .manual => "manual"
  | .touch => "touch"
  | .unknown => "unknown"

/-- `wake_source in {"button", "manual", "touch"}`. -/
def WakeSource.isManual : WakeSource → Bool
  | .button | .manual | .touch => true
  | .openwakeword | .unknown => false

structure VoiceSessionStartPayload where
  audioFormat : VoiceAudioFormat := {}
  wakeSource : WakeSource := .unknown

structure VoiceAudioChunkPayload where
  chunkIndex : ℕ
  audioFormat : VoiceAudioFormat := {}
  payloadBase64 : Option String := none
  microVadChunkIndex : Option ℕ := none
  microVadChunkStarted : Bool := false
  microVadChunkFinal : Bool := false
  frameLevel : Option ℕ := none
  noiseFloorLevel : Option ℕ := none
  speechPeakLevel : Option ℕ := none

structure VoiceTtsPlaybackPayload where
  streamId : Option String := none
  audioUrl : Option String := none
  byteCount : Option ℕ := none
  reason : Option String := none
  message : Option String := none
  deriving DecidableEq

structure VoiceVadSpeechStartedPayload where
  level : Option ℕ := none
  source : Option String := none

structure VoiceVadSpeechEndedPayload where
  level : Option ℕ := none
  source : Option String := none
  reason : Option String := none

structure VoiceWakeCandidatePayload where
  source : String := "endpoint_micro_wake_word"
  model : Option String := none
  confidence : Option ℚ := none
  chunkIndex : Option ℕ := none
  chunkCount : Option ℕ := none
  detectedAt : Option Datetime := none
  frameLevel : Option ℕ := none
  speechPeakLevel : Option ℕ := none
  noiseFloorLevel : Option ℕ := none
  ambientLevel : Option ℕ := none
  snrDb : Option ℚ := none

/-- The statuses of a `VoiceCommandAckPayload`. -/
inductive AckStatus where
  | accepted | started | succeeded | unsupported
  deriving DecidableEq

structure VoiceCommandAckPayload where
  requestId : String
  commandType : String
  status : AckStatus
  message : Option String := none

structure VoiceCommandErrorPayload where
  requestId : String
  commandType : String
  code : String
  message : String

structure VoiceErrorPayload where
  code : String
  message : String
  recoverable : Bool := false
  deriving DecidableEq

/-- An event's `payload` dictionary, as the validators of the payload classes see it and
with the keys that are read without one. -/
structure EventPayload where
  sessionStart : Except String VoiceSessionStartPayload := .ok {}
  audioChunk : Except String VoiceAudioChunkPayload := .error "Field required"
  wakeCandidate : Except String VoiceWakeCandidatePayload := .ok {}
  vadSpeechStarted : Except String VoiceVadSpeechStartedPayload := .ok {}
  vadSpeechEnded : Except String VoiceVadSpeechEndedPayload := .ok {}
  ttsPlayback : Except String VoiceTtsPlaybackPayload := .ok {}
  commandAck : Except String VoiceCommandAckPayload := .error "Field required"
  commandError : Except String VoiceCommandErrorPayload := .error "Field required"
  uiButtonPressed : Except String Unit := .error "Field required"
  /-- `payload.get("reason")`. -/
  reason : Option String := none
  /-- `payload.get("screen_id")`. -/
  screenId : Option String := none

/-- `VoiceEventEnvelope`, as an endpoint sends it. -/
structure VoiceEventEnvelope where
  eventType : VoiceEventType
  eventId : String := "evt"
  endpointId : EndpointId
  direction : VoiceEventDirection := .endpointToBackend
  sessionId : Option SessionId := none
  timestamp : Datetime
  payload : EventPayload := {}

/-- A session starts with the timestamp of such an event, or is timed by it. -/
def VoiceEventType.timesSession (eventType : VoiceEventType) : Bool :=
  eventType = .sessionStart || eventType = .audioChunk

/-- An envelope as the documented schema has it, as far as sessions are concerned: the endpoint
has a name, and a timestamp that times a session has an offset. -/
structure EndpointEvent extends VoiceEventEnvelope where
  /-- `minLength: 1`. -/
  named : endpointId ≠ "" := by decide
  /-- The timestamp is an RFC 3339 date-time. -/
  aware : eventType.timesSession = true → timestamp.aware = true := by exact fun _ => rfl

/-! ### Base64 -/

/-- The value of a base64 character. -/
def b64value (c : Char) : Option ℕ :=
  if 'A' ≤ c ∧ c ≤ 'Z' then some (c.toNat - 'A'.toNat)
  else if 'a' ≤ c ∧ c ≤ 'z' then some (c.toNat - 'a'.toNat + 26)
  else if '0' ≤ c ∧ c ≤ '9' then some (c.toNat - '0'.toNat + 52)
  else if c = '+' then some 62
  else if c = '/' then some 63
  else none

private def b64decodeChars : List Char → Option Bytes
  | [] => some []
  | [a, b, '=', '='] => do
    let x ← b64value a
    let y ← b64value b
    return [UInt8.ofNat (x * 4 + y / 16)]
  | [a, b, c, '='] => do
    let x ← b64value a
    let y ← b64value b
    let z ← b64value c
    return [UInt8.ofNat (x * 4 + y / 16), UInt8.ofNat (y % 16 * 16 + z / 4)]
  | a :: b :: c :: d :: rest => do
    let x ← b64value a
    let y ← b64value b
    let z ← b64value c
    let w ← b64value d
    let bytes ← b64decodeChars rest
    return UInt8.ofNat (x * 4 + y / 16) :: UInt8.ofNat (y % 16 * 16 + z / 4) ::
      UInt8.ofNat (z % 4 * 64 + w) :: bytes
  | _ => none

/-- `base64.b64decode(s, validate=True)`: the bytes, or `none` where it raises. -/
def b64decode (s : String) : Option Bytes := b64decodeChars s.toList

/-- The decoded payload of a chunk, as `_handle_audio_chunk` computes `audio_bytes`: an
absent or empty payload and one that does not decode give none. -/
def VoiceAudioChunkPayload.audioBytes (p : VoiceAudioChunkPayload) : Option Bytes :=
  p.payloadBase64.bind fun s => if s = "" then none else b64decode s

example : b64decode "AAECAw==" = some [0, 1, 2, 3] := by decide

end HexeVoice.Voice
