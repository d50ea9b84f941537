import HexeVoice.Library.Machine
import HexeVoice.Recordings.Files

/-!
# Micro-VAD chunk recordings

`MicroVadChunkRecordingService` of `voice/micro_vad_chunks.py`: the stretches of speech that the
firmware marks in a session, kept until the session is accepted and then written to files.

## The model

What has been written is kept in order, with the metadata of each file; `cleanup_expired`, which
deletes files by their age, is left out, as are the fields that follow from others. Writing does not
fail. `strftime` is a parameter: it gives the time in the name of a file.
-/

namespace HexeVoice.Recordings

open HexeVoice.Library HexeVoice.Voice

/-- A session of an endpoint. -/
abbrev SessionKey := EndpointId × SessionId

/-- `VoiceAudioChunkPayload`, with the field that only this recorder reads. -/
structure MicroVadPayload extends VoiceAudioChunkPayload where
  microVadPauseMs : Option ℕ := none

structure MicroVadCapture where
  audioFormat : VoiceAudioFormat
  startedAt : WallTime
  audio : Bytes := []
  chunkCount : ℕ := 0
  firstAudioChunkIndex : Option ℕ := none
  lastAudioChunkIndex : Option ℕ := none
  finalPauseMs : Option ℕ := none
  deriving DecidableEq

/-- A capture with a chunk more. -/
def MicroVadCapture.extend (capture : MicroVadCapture)
    (payload : MicroVadPayload) (audioBytes : Bytes) : MicroVadCapture :=
  { capture with
    audio := capture.audio ++ audioBytes
    chunkCount := capture.chunkCount + 1
    firstAudioChunkIndex := capture.firstAudioChunkIndex.or (some payload.chunkIndex)
    lastAudioChunkIndex := some payload.chunkIndex
    finalPauseMs := payload.microVadPauseMs }

/-- An entry of `_pending_captures`. -/
structure PendingCapture where
  microChunkIndex : ℕ
  capture : MicroVadCapture
  completedAt : WallTime
  final : Bool
  deriving DecidableEq

/-- A written recording: the audio of the WAV file and the metadata beside it. -/
structure MicroVadRecording where
  recordingId : String
  recordedAt : WallTime
  completedAt : WallTime
  endpointId : EndpointId
  sessionId : SessionId
  microVadChunkIndex : ℕ
  microVadChunkFinal : Bool
  microVadPauseMs : Option ℕ
  audioFormat : VoiceAudioFormat
  frameCount : ℕ
  byteCount : ℕ
  audioChunkCount : ℕ
  firstAudioChunkIndex : Option ℕ
  lastAudioChunkIndex : Option ℕ
  audio : Bytes
  deriving DecidableEq

structure MicroVadChunkRecordingService where
  captures : Dict (SessionKey × ℕ) MicroVadCapture := Dict.empty
  pendingCaptures : Dict SessionKey (List PendingCapture) := Dict.empty
  acceptedSessions : List SessionKey := []
  recordings : List MicroVadRecording := []

/-- The name of a recording without its suffix. -/
def stem (strftime : WallTime → String) (session : SessionKey) (microChunkIndex : ℕ)
    (completedAt : WallTime) : String :=
  String.ofList (['_'].intercalate [(strftime completedAt).toList,
    (safeComponent session.1).toList, (safeComponent session.2).toList,
    "micro_vad".toList, paddedDigits microChunkIndex])

/-- What `_write_capture` writes. -/
def recordingOf (strftime : WallTime → String) (session : SessionKey) (pending : PendingCapture) :
    MicroVadRecording where
  recordingId := stem strftime session pending.microChunkIndex pending.completedAt
  recordedAt := pending.capture.startedAt
  completedAt := pending.completedAt
  endpointId := session.1
  sessionId := session.2
  microVadChunkIndex := pending.microChunkIndex
  microVadChunkFinal := pending.final
  microVadPauseMs := pending.capture.finalPauseMs
  audioFormat := pending.capture.audioFormat
  frameCount := Recordings.frameCount pending.capture.audioFormat pending.capture.audio
  byteCount := pending.capture.audio.length
  audioChunkCount := pending.capture.chunkCount
  firstAudioChunkIndex := pending.capture.firstAudioChunkIndex
  lastAudioChunkIndex := pending.capture.lastAudioChunkIndex
  audio := alignedAudio pending.capture.audioFormat pending.capture.audio

namespace MicroVadChunkRecordingService

variable (strftime : WallTime → String) (s : MicroVadChunkRecordingService)

def writeCapture (session : SessionKey) (pending : PendingCapture) :
    MicroVadRecording × MicroVadChunkRecordingService :=
  let recording := recordingOf strftime session pending
  (recording, { s with
    recordings := s.recordings ++ [recording]
    captures := s.captures.erase (session, pending.microChunkIndex) })

def flushPendingSession (session : SessionKey) :
    List MicroVadRecording × MicroVadChunkRecordingService :=
  let pending := (s.pendingCaptures.get session).getD []
  let s := { s with pendingCaptures := s.pendingCaptures.erase session }
  pending.foldl (fun (recordings, s) pending =>
    if pending.capture.audio = [] then (recordings, s)
    else
      let (recording, s) := s.writeCapture strftime session pending
      (recordings ++ [recording], s)) ([], s)

def finishCapture (session : SessionKey) (pending : PendingCapture) :
    Option MicroVadRecording × MicroVadChunkRecordingService :=
  let s := { s with captures := s.captures.erase (session, pending.microChunkIndex) }
  if session ∈ s.acceptedSessions then
    let (recording, s) := s.writeCapture strftime session pending
    (some recording, s)
  else
    (none, { s with
      pendingCaptures := s.pendingCaptures.set session
        ((s.pendingCaptures.get session).getD [] ++ [pending]) })

/-- The capture that a chunk goes to. -/
def captureFor (found : Option MicroVadCapture) (payload : MicroVadPayload)
    (receivedAt : WallTime) : MicroVadCapture :=
  let fresh : MicroVadCapture := { audioFormat := payload.audioFormat, startedAt := receivedAt }
  match found with
  | none => fresh
  | some capture =>
    if capture.audioFormat ≠ payload.audioFormat ∨ payload.microVadChunkStarted then fresh
    else capture

def captureAudioChunk (session : SessionKey) (payload : MicroVadPayload) (audioBytes : Bytes)
    (receivedAt : WallTime) : Option MicroVadRecording × MicroVadChunkRecordingService :=
  match payload.microVadChunkIndex with
  | none => (none, s)
  | some microChunkIndex =>
    if audioBytes = [] ∨ payload.audioFormat.encoding ≠ .pcmS16le then (none, s)
    else
      let key := (session, microChunkIndex)
      let capture := (captureFor (s.captures.get key) payload receivedAt).extend payload audioBytes
      let s := { s with captures := s.captures.set key capture }
      if payload.microVadChunkFinal then
        s.finishCapture strftime session ⟨microChunkIndex, capture, receivedAt, true⟩
      else (none, s)

def markSessionAccepted (session : SessionKey) :
    List MicroVadRecording × MicroVadChunkRecordingService :=
  let s := { s with acceptedSessions := s.acceptedSessions.insert session }
  s.flushPendingSession strftime session

def discardSession (session : SessionKey) : MicroVadChunkRecordingService :=
  { s with
    pendingCaptures := s.pendingCaptures.erase session
    captures := s.captures.filter fun key _ => key.1 ≠ session
    acceptedSessions := s.acceptedSessions.filter (· ≠ session) }

/-- The keys of the open captures of a session. -/
def openKeys (session : SessionKey) : List (SessionKey × ℕ) :=
  s.captures.keys.filter fun key => key.1 = session

/-- The loop of `close_session` over the open captures. -/
def closeCaptures (session : SessionKey) (now : WallTime) (keys : List (SessionKey × ℕ)) :
    MicroVadChunkRecordingService :=
  keys.foldl (fun s key =>
    match s.captures.get key with
    | none => s
    | some capture =>
      if capture.audio = [] then { s with captures := s.captures.erase key }
      else (s.writeCapture strftime session ⟨key.2, capture, now, false⟩).2) s

def closeSession (session : SessionKey) (now : WallTime) : MicroVadChunkRecordingService :=
  if session ∉ s.acceptedSessions then s.discardSession session
  else
    let s := (s.flushPendingSession strftime session).2
    let s := s.closeCaptures strftime session now (s.openKeys session)
    { s with acceptedSessions := s.acceptedSessions.filter (· ≠ session) }

end MicroVadChunkRecordingService

/-- A call of the recorder. -/
inductive Call where
  | captureAudioChunk (session : SessionKey) (payload : MicroVadPayload) (audioBytes : Bytes)
    (receivedAt : WallTime)
  | markSessionAccepted (session : SessionKey)
  | closeSession (session : SessionKey) (now : WallTime)

/-- The recorder after a call. -/
def step (strftime : WallTime → String) (s : MicroVadChunkRecordingService) :
    Call → MicroVadChunkRecordingService
  | .captureAudioChunk session payload audioBytes receivedAt =>
    (s.captureAudioChunk strftime session payload audioBytes receivedAt).2
  | .markSessionAccepted session => (s.markSessionAccepted strftime session).2
  | .closeSession session now => s.closeSession strftime session now

end HexeVoice.Recordings
