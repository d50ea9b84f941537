import HexeVoice.Voice.Runtime

/-!
# The handlers of endpoint events

The handlers of `voice/session_manager.py` that `_handle_endpoint_event` dispatches to.
A handler that enters the wake election is cut in two where it does: between the parts the
manager stands the replaced winner down, in another runtime (`Manager`).
-/

namespace HexeVoice.Voice

open HexeVoice.Library

/-! ### Which session an event is for -/

namespace Desk

variable (d : Desk) (ev : VoiceEventEnvelope)

def canMergePlaybackInterruptEvent : Bool :=
  d.self.activeSession.any fun s =>
    s.endpointId = ev.endpointId && s.sessionState = .idle &&
      (d.self.activePlaybackInterrupt ev.endpointId).isSome &&
      [VoiceEventType.sessionStart, .vadSpeechStarted, .vadSpeechEnded, .audioChunk,
        .audioEnd].contains ev.eventType

/-- Whether the endpoint has an open placement-test window. -/
def placementWindowOpen (endpointId : EndpointId) : Bool :=
  ((d.shared.activePlacementTestWindows.filter fun _ w => d.shared.now < w.expiresAt).get
    endpointId).isSome

/-- Whether the endpoint has an open speaker-enrollment capture window. -/
def enrollmentWindowOpen (endpointId : EndpointId) : Bool :=
  ((d.shared.speakerEnrollmentCaptureWindows.filter fun _ w => d.shared.now < w.expiresAt).get
    endpointId).isSome

/-- The events that a capture window merges into the session it captures. -/
def mergedEvents : List VoiceEventType :=
  [.vadSpeechStarted, .vadSpeechEnded, .audioChunk, .audioEnd, .sessionCancel]

def canMergePlacementTestEvent : Bool :=
  d.self.activeSession.any fun s =>
    s.endpointId = ev.endpointId && ev.sessionId ≠ some s.sessionId && d.self.isPlacementTest &&
      d.placementWindowOpen ev.endpointId && mergedEvents.contains ev.eventType

def canMergeSpeakerEnrollmentEvent : Bool :=
  d.self.activeSession.any fun s =>
    s.endpointId = ev.endpointId && ev.sessionId ≠ some s.sessionId &&
      d.self.isSpeakerEnrollmentCapture && d.enrollmentWindowOpen ev.endpointId &&
      mergedEvents.contains ev.eventType

/-- The event after the two merges of `_handle_endpoint_event`, which give it the active
session's id. -/
def mergeEvent : VoiceEventEnvelope :=
  if d.canMergePlacementTestEvent ev || d.canMergeSpeakerEnrollmentEvent ev then
    { ev with sessionId := d.self.activeSession.map (·.sessionId) }
  else ev

def shouldCompletePlacementTestOnNewSession : Bool :=
  d.self.activeSession.any fun s =>
    s.endpointId = ev.endpointId && ev.sessionId ≠ some s.sessionId &&
      ev.eventType = .sessionStart && (s.sessionState = .listening || s.sessionState = .capturing) &&
      d.self.isPlacementTest && d.placementWindowOpen ev.endpointId && 0 < d.self.chunkCount

def shouldCompleteSpeakerEnrollmentOnNewSession : Bool :=
  d.self.activeSession.any fun s =>
    s.endpointId = ev.endpointId && ev.sessionId ≠ some s.sessionId &&
      ev.eventType = .sessionStart && (s.sessionState = .listening || s.sessionState = .capturing) &&
      d.self.isSpeakerEnrollmentCapture && d.enrollmentWindowOpen ev.endpointId &&
      0 < d.self.chunkCount

/-- The session `_require_active_session` gives the handler, if it gives one. -/
def requiredSession : Option VoiceSessionSnapshot :=
  d.self.activeSession.filter fun s =>
    ev.sessionId = none || ev.sessionId = some s.sessionId || d.canMergePlaybackInterruptEvent ev

end Desk

/-- `_require_active_session`: the active session, or the error to answer with. -/
def requireActiveSession (ev : VoiceEventEnvelope) :
    Local (Except BackendEvent VoiceSessionSnapshot) := do
  let d ← get
  match d.requiredSession ev with
  | some session => return .ok session
  | none =>
    if d.self.activeSession.isNone then
      return .error (errorEvent ev.endpointId ev.sessionId "no_active_session"
        "Start a voice session before sending session control or audio events.")
    else
      return .error (errorEvent ev.endpointId ev.sessionId "session_conflict"
        "The event session_id does not match the active voice session.")

/-- The timeout of a session of this age, in microseconds. -/
def VoiceSessionSnapshot.timeoutReason (cfg : Config) (session : VoiceSessionSnapshot) (age : ℤ) :
    Option String :=
  if session.sessionState = .idle && cfg.preWakeTimeout < age then some "pre_wake_timeout"
  else if (session.sessionState = .wakeDetected || session.sessionState = .listening ||
      session.sessionState = .capturing) && cfg.maxActiveSession < age then
    some "active_session_timeout"
  else none

def activeSessionTimeoutReason (cfg : Config) (now : Datetime) : Local (Option String) := do
  match (← get).self.activeSession with
  | none => return none
  | some session => return session.timeoutReason cfg (← Datetime.sub now session.startedAt)

def cancelTimedOutActiveSession (cfg : Config) (reason : String) : Local (List BackendEvent) := do
  let d ← get
  match d.self.activeSession with
  | none => return []
  | some session =>
    emit (.sessionTimedOut reason session.sessionState (d.shared.now - session.handledAt)
      ((d.self.pendingSessionFollowup.bind (·.openedAt)).map (d.shared.now - ·)))
    cancelActiveSession cfg reason
    let session := { session.moved .cancelled with cancelReason := some reason }
    return [{ stateEvent .sessionCancelled session with reason := some reason }]

/-! ### Ending a turn -/

def playbackInterruptStopPhrases : List String :=
  ["stop", "stop it", "stop timer", "stop the timer", "stop alarm", "stop the alarm",
    "silence timer", "silence the timer", "dismiss timer", "dismiss the timer", "turn off timer",
    "turn off the timer", "turn off alarm", "turn off the alarm"]

private def collapseBlanks : List Char → List Char
  | ' ' :: ' ' :: rest => collapseBlanks (' ' :: rest)
  | c :: rest => c :: collapseBlanks rest
  | [] => []

/-- `_normalize_playback_interrupt_text`: lower case, every run of other characters than
`a-z`, `0-9` and blank a blank, runs of blanks one blank, no blanks at the ends. -/
def normalizePlaybackInterruptText (text : String) : String :=
  let keep (c : Char) : Char :=
    if ('a' ≤ c ∧ c ≤ 'z') ∨ ('0' ≤ c ∧ c ≤ '9') then c else ' '
  strip (String.ofList (collapseBlanks ((text.toList.flatMap lowerChars).map keep)))

def isPlaybackStopPhrase (text : String) : Bool :=
  playbackInterruptStopPhrases.contains (normalizePlaybackInterruptText text)

def playbackInterruptStopEvent (cfg : Config) (ans : Answers) (session : VoiceSessionSnapshot) :
    Local (Option BackendEvent) := do
  let d ← get
  match d.self.activePlaybackInterrupt session.endpointId, ans.transcribeAudio with
  | some playback, some transcribe =>
    if !cfg.turnPipeline || d.self.audioChunks.isEmpty then return none
    let audio := d.self.audioSummary session
    emit (.transcribeAudio audio)
    let transcript := transcribe audio
    if truthy transcript.error || !isPlaybackStopPhrase transcript.text then return none
    let requestId := "playback_interrupt_stop_" ++ toString (← drawUuid)
    modifyShared fun sh =>
      { sh with
        commandRecords := recordCommand sh.commandRecords sh.now requestId session.endpointId
          "playback.stop" .playbackStop commandTimeout }
    return some
      { eventType := .playbackStop, endpointId := session.endpointId
        sessionId := some (if truthy playback.sessionId then playback.sessionId.getD ""
          else session.sessionId)
        reason := some "voice_stop"
        requestId := some requestId }
  | _, _ => return none

/-- The branch of `_handle_audio_end` for a session no wake was heard in. -/
def cancelBeforeWake (cfg : Config) (ans : Answers) (session : VoiceSessionSnapshot) :
    Local (List BackendEvent) := do
  let playbackStop ← playbackInterruptStopEvent cfg ans session
  let reason := if playbackStop.isSome then "playback_interrupt_stop" else "wake_not_detected"
  setSessionState .cancelled
  modifySelf (·.setCancelReason reason)
  modifySelf (·.setWake { outcome := .notDetected, source := none })
  let cancelled := stateEvent .sessionCancelled (← currentSession session)
  endActiveSession cfg reason
  return playbackStop.toList ++ [cancelled]

def completeCustomCapture (cfg : Config) (ans : Answers) (session : VoiceSessionSnapshot) :
    Local (List BackendEvent) := do
  match ans.transcribeAudio with
  | none => throw .attributeError
  | some transcribe =>
    let audio := (← get).self.audioSummary session
    emit (.transcribeAudio audio)
    let transcript := transcribe audio
    let final := stateEvent .transcriptFinal (← currentSession session)
    if truthy transcript.error then
      setSessionState .failed
      let error := errorEvent session.endpointId (some session.sessionId) "stt_failed"
        (transcript.error.getD "")
      persistActiveSessionHistory cfg "stt_failed"
      emit (.customCaptureScheduled transcript.text)
      releaseActiveSessionWakeStream cfg
      clearActiveSessionRuntime cfg
      return [final, error]
    else
      setSessionState .localCommand
      setSessionState .responding
      setSessionState .completed
      let completed := stateEvent .sessionCompleted (← currentSession session)
      persistActiveSessionHistory cfg "custom_capture_completed"
      emit (.customCaptureScheduled transcript.text)
      releaseActiveSessionWakeStream cfg
      clearActiveSessionRuntime cfg
      return [final, completed]

/-- `_complete_active_placement_test`: the metrics report it builds is left out. -/
def completeActivePlacementTest (cfg : Config) (ans : Answers) (session : VoiceSessionSnapshot) :
    Local (List BackendEvent) := do
  match ans.transcribeAudio with
  | none =>
    return [errorEvent session.endpointId (some session.sessionId)
      "placement_test_pipeline_unavailable"
      "Placement tests require the voice turn pipeline STT path."]
  | some _ =>
    let audio := (← get).self.audioSummary session
    emit (.transcribeAudio audio)
    modifyShared fun sh =>
      { sh with activePlacementTestWindows :=
          sh.activePlacementTestWindows.erase session.endpointId }
    let final := stateEvent .transcriptFinal (← currentSession session)
    setSessionState .localCommand
    setSessionState .completed
    let completed := stateEvent .sessionCompleted (← currentSession session)
    endActiveSession cfg "placement_test"
    return [final, { completed with reason := some "placement_test" }]

def recordAcceptedWakeSession (cfg : Config) (session : VoiceSessionSnapshot) : Local Unit := do
  if cfg.wakeRecorder then
    emit (.acceptedSessionRecorded session.sessionId (← get).self.audioChunks)

/-- The branch of `_handle_audio_end` for an open speaker-enrollment capture window. -/
def completeEnrollmentCapture (cfg : Config) (ans : Answers) (session : VoiceSessionSnapshot) :
    Local (List BackendEvent) := do
  match ans.transcribeAudio with
  | none => throw .attributeError
  | some transcribe =>
    let audio := (← get).self.audioSummary session
    emit (.transcribeAudio audio)
    let transcript := transcribe audio
    if truthy transcript.error then
      let error := errorEvent session.endpointId (some session.sessionId) "stt_failed"
        (transcript.error.getD "")
      setSessionState .failed
      endActiveSession cfg "stt_failed"
      return [error]
    else
      let final := stateEvent .transcriptFinal (← currentSession session)
      setSessionState .localCommand
      setSessionState .completed
      let completed := stateEvent .sessionCompleted (← currentSession session)
      endActiveSession cfg "speaker_enrollment_capture"
      return [final, { completed with reason := some "speaker_enrollment_capture" }]

/-- The last lines of `_handle_audio_end`. -/
def turnCompleted (cfg : Config) (session : VoiceSessionSnapshot) (reason : String) :
    Local BackendEvent := do
  setSessionState .completed
  let completed := stateEvent .sessionCompleted (← currentSession session)
  endActiveSession cfg reason
  return { completed with reason := some reason }

/-- The branch of `_handle_audio_end` that runs the turn through the pipeline. -/
def completeTurn (cfg : Config) (ans : Answers) (session : VoiceSessionSnapshot) :
    Local (List BackendEvent) := do
  let audio := (← get).self.audioSummary session
  emit (.completeTurn audio)
  let turn := ans.completeTurn audio
  if truthy turn.transcript.error then
    let error := errorEvent session.endpointId (some session.sessionId) "stt_failed"
      (turn.transcript.error.getD "")
    setSessionState .failed
    endActiveSession cfg "stt_failed"
    return [error]
  else
    let final := stateEvent .transcriptFinal (← currentSession session)
    setSessionState (if turn.assistantResponse.handledLocally then .localCommand else .routing)
    let current ← currentSession session
    let text := if turn.assistantResponse.spokenText = "" then []
      else [stateEvent .responseText current]
    setSessionState .responding
    if !truthy turn.tts.streamId && !truthy turn.tts.error then
      let completed ← turnCompleted cfg session "result_media_pending"
      return final :: text ++ [completed]
    else if truthy turn.tts.error then
      let error := errorEvent session.endpointId (some session.sessionId) "tts_failed"
        (turn.tts.error.getD "")
      setSessionState .failed
      endActiveSession cfg "tts_failed"
      return final :: text ++ [error]
    else
      let render : BackendEvent :=
        { eventType := .endpointUiScreenRender, endpointId := session.endpointId, sessionId := none }
      let ready := stateEvent .ttsReady (← currentSession session)
      match turn.assistantResponse.conversationFollowup with
      | some followup =>
        modifySelf (·.awaitFollowup followup)
        return final :: text ++ [render, ready]
      | none =>
        let completed ← turnCompleted cfg session "turn_completed"
        return final :: text ++ [render, ready, completed]

/-- `_handle_audio_end` from where the session is transcribing: custom captures, placement
tests, enrollment captures and turns. -/
def completeAudio (cfg : Config) (ans : Answers) (session : VoiceSessionSnapshot) :
    Local (List BackendEvent) := do
  if cfg.turnPipeline && ans.customCaptureActive then
    completeCustomCapture cfg ans session
  else
    let _ ← activePlacementTestWindow session.endpointId
    if (← get).self.isPlacementTest && cfg.turnPipeline then
      completeActivePlacementTest cfg ans session
    else
      recordAcceptedWakeSession cfg session
      let enrollment ← activeSpeakerEnrollmentCaptureWindow session.endpointId
      if enrollment.isSome && cfg.turnPipeline then
        completeEnrollmentCapture cfg ans session
      else if cfg.turnPipeline then
        completeTurn cfg ans session
      else
        setSessionState .localCommand
        setSessionState .responding
        let completed ← turnCompleted cfg session "turn_completed"
        return [completed]

def handleAudioEnd (cfg : Config) (ans : Answers) (ev : VoiceEventEnvelope) :
    Local (List BackendEvent) := do
  match ← requireActiveSession ev with
  | .error error => return [error]
  | .ok session =>
    emit .audioEndHandled
    if session.sessionState = .idle then cancelBeforeWake cfg ans session
    else
      if session.sessionState = .wakeDetected then setSessionState .listening
      setSessionState .transcribing
      completeAudio cfg ans session

/-! ### Starting a session -/

def canReplaceActiveSession (ev : VoiceEventEnvelope) : Local Bool := do
  let r := (← get).self
  match r.activeSession with
  | none => return false
  | some session =>
    if session.endpointId ≠ ev.endpointId then return false
    let age ← Datetime.sub ev.timestamp session.startedAt
    if r.chunkCount = 0 && age < preAudioSessionReplacementGrace then return false
    if session.sessionState = .idle then return !r.wakeIsAccepted
    return (session.sessionState = .wakeDetected || session.sessionState = .listening) &&
      r.chunkCount = 0

/-- The session that `_handle_session_start` makes. -/
def newSession (ev : VoiceEventEnvelope) (wakeSource : WakeSource) (serial : ℕ)
    (handledAt : ℤ) : VoiceSessionSnapshot :=
  { serial
    sessionId := if truthy ev.sessionId then ev.sessionId.getD ""
      else "voice-session-" ++ toString serial
    endpointId := ev.endpointId
    startedAt := ev.timestamp
    handledAt
    wakeSource }

/-- `_handle_session_start` from where no session is active. -/
def startSession (ev : VoiceEventEnvelope) : Local (List BackendEvent) := do
  match ev.payload.sessionStart with
  | .error message =>
    return [errorEvent ev.endpointId ev.sessionId "invalid_session_start" message]
  | .ok payload =>
    let session := newSession ev payload.wakeSource (← drawUuid) (← get).shared.now
    let placement ← activePlacementTestWindow ev.endpointId
    modifySelf (·.begun session payload.audioFormat placement)
    emit (.sessionStarted session.serial)
    if payload.wakeSource.isManual then
      setSessionState .wakeDetected
      modifySelf (·.setWake { outcome := .accepted, source := some payload.wakeSource.name })
      let wakeEvent := stateEvent .wakeAccepted (← currentSession session)
      setSessionState .listening
      return [wakeEvent, stateEvent .sessionState (← currentSession session)]
    else
      return [stateEvent .sessionState session]

/-- The `audio.end` event that a new session completes a capture with. -/
def supersedingAudioEnd (d : Desk) (ev : VoiceEventEnvelope) (reason : String) :
    VoiceEventEnvelope :=
  { ev with
    eventType := .audioEnd
    sessionId := d.self.activeSession.map (·.sessionId)
    payload := { reason := some reason } }

/-- A capture is completed, and the new session starts if that ended it. -/
def completeThenStart (cfg : Config) (ans : Answers) (ev : VoiceEventEnvelope) (reason : String) :
    Local (List BackendEvent) := do
  let completed ← handleAudioEnd cfg ans (supersedingAudioEnd (← get) ev reason)
  if (← get).self.activeSession.isNone then
    return completed ++ (← startSession ev)
  else
    return completed

def handleSessionStart (cfg : Config) (ans : Answers) (ev : VoiceEventEnvelope) :
    Local (List BackendEvent) := do
  let d ← get
  match d.self.activeSession with
  | none => startSession ev
  | some session =>
    if d.shouldCompletePlacementTestOnNewSession ev then
      completeThenStart cfg ans ev "superseded_by_new_placement_session"
    else if d.shouldCompleteSpeakerEnrollmentOnNewSession ev then
      completeThenStart cfg ans ev "superseded_by_new_enrollment_session"
    else if d.canMergePlaybackInterruptEvent ev then
      return [stateEvent .sessionState session]
    else if ← canReplaceActiveSession ev then
      cancelActiveSession cfg "superseded_by_new_session"
      startSession ev
    else
      return [errorEvent ev.endpointId ev.sessionId "active_session_exists"
        "Only one active voice session is supported for the MVP."]

/-! ### Audio and wake -/

def isAmbientReferenceChunk (r : SessionRuntime) (session : VoiceSessionSnapshot) : Bool :=
  (r.activePlaybackInterrupt session.endpointId).isNone &&
    (session.sessionState = .idle ||
      ((session.sessionState = .wakeDetected || session.sessionState = .listening) &&
        (r.activeSessionHistory.bind (·.vadSpeechStartedAt)).isNone))

/-- What `_handle_audio_chunk` knows when the wake election has spoken. -/
structure ChunkProgress where
  session : VoiceSessionSnapshot
  chunk : Option Chunk
  enrollmentCaptureAccepted : Bool
  /-- The candidate and the decision, where the wake detector heard the wake word. -/
  backend : Option (WakeCandidate × WakeElectionDecision)

/-- `wake_accepted`. -/
def ChunkProgress.wakeAccepted (c : ChunkProgress) : Bool :=
  c.backend.any fun b => b.2.accepted

/-- The states in which a capture window captures a chunk. -/
def capturableStates : List VoiceSessionState := [.idle, .wakeDetected, .listening, .capturing]

/-- A candidate is submitted to the wake election. -/
def submitWakeCandidate (serial : ℕ) (candidate : WakeCandidate) :
    Local WakeElectionDecision := do
  let uuid ← drawUuid
  let (decision, election) := (← get).shared.wakeElection.submitCandidate candidate uuid
  modifyShared fun sh => { sh with wakeElection := election }
  emit (.electionDecided serial decision)
  return decision

/-- The micro-VAD recorder is given the chunk, unless a placement test keeps no audio. -/
def captureMicroVadChunk (cfg : Config) (payload : VoiceAudioChunkPayload)
    (session : VoiceSessionSnapshot) (placementWindow : Option PlacementWindow) :
    Option Chunk → Local Unit
  | none => pure ()
  | some chunk =>
    if cfg.microVadChunkRecorder && !placementWindow.any (!·.debugRecordAudio) then
      emit (.microVadCaptured session.sessionId payload.microVadChunkIndex chunk)
    else pure ()

/-- The wake recorder is given the chunk. -/
def captureWakeChunk (cfg : Config) (payload : VoiceAudioChunkPayload)
    (session : VoiceSessionSnapshot) (recordable : Bool) : Option Chunk → Local Unit
  | none => pure ()
  | some chunk =>
    if cfg.wakeRecorder && recordable then
      emit (.wakeChunkCaptured session.sessionId payload.audioFormat chunk)
    else pure ()

/-- The placement-test window takes the session over. -/
def acceptPlacementCapture (window : Option PlacementWindow) : Local Unit := do
  modifySelf (·.setWake { outcome := .accepted, source := some "placement_test_capture" })
  modifySelf (·.updateHistory fun h => { h with placementTest := window })
  emit .placementCaptureStarted
  setSessionState .listening

/-- The speaker-enrollment window takes the session over. -/
def acceptEnrollmentCapture (cfg : Config) (session : VoiceSessionSnapshot) : Local Unit := do
  if cfg.wakeRecorder then
    emit (.acceptedWakeMarked session.sessionId "speaker_id_enrollment_capture")
  if cfg.microVadChunkRecorder then emit (.microVadAccepted session.sessionId)
  modifySelf (·.setWake { outcome := .accepted, source := some "speaker_id_enrollment_capture" })
  emit .enrollmentCaptureStarted
  setSessionState .listening

/-- The capture windows' part of `_handle_audio_chunk`: whether the enrollment window
accepted the session. -/
def captureWindows (cfg : Config) (ev : VoiceEventEnvelope) (payload : VoiceAudioChunkPayload)
    (session : VoiceSessionSnapshot) (chunk : Option Chunk) : Local Bool := do
  let placementWindow ← activePlacementTestWindow ev.endpointId
  captureMicroVadChunk cfg payload session placementWindow chunk
  let enrollmentWindow ← activeSpeakerEnrollmentCaptureWindow ev.endpointId
  let placementCandidate := chunk.isSome && placementWindow.isSome &&
    capturableStates.contains session.sessionState
  let enrollmentCandidate := chunk.isSome && enrollmentWindow.isSome &&
    capturableStates.contains session.sessionState
  captureWakeChunk cfg payload session ((session.sessionState = .idle || enrollmentCandidate) &&
    !(placementCandidate && !placementWindow.any (·.debugRecordAudio))) chunk
  let r := (← get).self
  let placementAccepted := placementCandidate && !r.isPlacementTest
  let enrollmentAccepted := enrollmentCandidate && !r.isSpeakerEnrollmentCapture
  if placementAccepted then acceptPlacementCapture placementWindow
  if enrollmentAccepted then acceptEnrollmentCapture cfg session
  return enrollmentAccepted

/-- The candidate of a backend wake detection. -/
def backendCandidate (session : VoiceSessionSnapshot) (ev : VoiceEventEnvelope)
    (payload : VoiceAudioChunkPayload) (detection : WakeDetectionResult) (receivedAt : ℤ)
    (chunkCount candidateId : ℕ) : WakeCandidate :=
  WakeCandidate.postInit
    { endpointId := ev.endpointId, sessionId := session.sessionId
      source := "backend_openwakeword", model := detection.model
      confidence := detection.confidence, receivedAt, detectedAt := some ev.timestamp.micros
      chunkIndex := some payload.chunkIndex, chunkCount := some chunkCount
      frameLevel := payload.frameLevel, speechPeakLevel := payload.speechPeakLevel
      noiseFloorLevel := payload.noiseFloorLevel, candidateId }

/-- The wake detector's part of `_handle_audio_chunk`: a session that is still idle is
inspected, and a detection submitted to the wake election. -/
def inspectForWake (ans : Answers) (ev : VoiceEventEnvelope) (payload : VoiceAudioChunkPayload)
    (session : VoiceSessionSnapshot) : Local (Option (WakeCandidate × WakeElectionDecision)) := do
  let detection := ans.inspectChunk payload
  if session.sessionState = .idle && detection.detected then
    let d ← get
    let candidate := backendCandidate session ev payload detection d.shared.now d.self.chunkCount
      (← drawUuid)
    return some (candidate, ← submitWakeCandidate session.serial candidate)
  else
    return none

/-- A chunk event is counted and its payload decoded. -/
def receiveChunk (payload : VoiceAudioChunkPayload) : Local (Option Chunk) := do
  let arrival := (← get).self.arrivals
  let chunk := payload.audioBytes.map fun bytes => { arrival, bytes : Chunk }
  modifySelf (·.countChunk payload.audioFormat)
  match chunk with
  | none => return none
  | some c =>
    emit (.chunkHandled c)
    return some c

/-- While a timer alarm plays, the audio of an idle session is kept for a spoken stop. -/
def SessionRuntime.overhear (r : SessionRuntime) (ev : VoiceEventEnvelope)
    (session : VoiceSessionSnapshot) (chunk : Option Chunk) : SessionRuntime :=
  if session.sessionState = .idle && (r.activePlaybackInterrupt ev.endpointId).isSome then
    r.appendAudio chunk
  else r

/-- The audio before speech is kept as an ambient reference. -/
def SessionRuntime.keepAmbient (r : SessionRuntime) (c : ChunkProgress) : SessionRuntime :=
  if !c.wakeAccepted && isAmbientReferenceChunk r c.session then r.appendAmbientAudio c.chunk
  else r

/-- `_handle_audio_chunk` up to where the replaced winner is stood down: the answer where
the handler returns before, else what it goes on with. -/
def audioChunkUntilElection (cfg : Config) (ans : Answers) (ev : VoiceEventEnvelope) :
    Local (Except (List BackendEvent) ChunkProgress) := do
  match ← requireActiveSession ev with
  | .error error => return .error [error]
  | .ok session =>
    match ← activeSessionTimeoutReason cfg ev.timestamp with
    | some reason => return .error (← cancelTimedOutActiveSession cfg reason)
    | none =>
      match ev.payload.audioChunk with
      | .error message =>
        return .error [errorEvent ev.endpointId ev.sessionId "invalid_audio_chunk" message]
      | .ok payload =>
        let chunk ← receiveChunk payload
        let enrollmentCaptureAccepted ← captureWindows cfg ev payload session chunk
        let session ← currentSession session
        modifySelf (·.overhear ev session chunk)
        let backend ← inspectForWake ans ev payload session
        let progress : ChunkProgress := { session, chunk, enrollmentCaptureAccepted, backend }
        modifySelf (·.keepAmbient progress)
        return .ok progress

def acceptWakeCandidate (cfg : Config) (session : VoiceSessionSnapshot) (candidate : WakeCandidate)
    (decision : WakeElectionDecision) : Local (List BackendEvent) := do
  if cfg.wakeRecorder then emit (.acceptedWakeMarked session.sessionId candidate.source)
  if cfg.microVadChunkRecorder then emit (.microVadAccepted session.sessionId)
  modifySelf (·.setWake
    { outcome := .accepted, source := some candidate.source
      electionId := some decision.electionId })
  emit (.wakeAccepted session.serial decision.electionId candidate)
  setSessionState .wakeDetected
  let wakeEvent := { stateEvent .wakeAccepted (← currentSession session) with
    election := some decision }
  setSessionState .listening
  return [wakeEvent]

/-- `replacement_decision.reason`. -/
def standDownReason : String := "stand_down_replaced_by_better_candidate"

/-- The handler's session object after the replaced winner was stood down: stood down
itself, it is cancelled and no longer the active session. -/
def sessionAfterStandDown (session : VoiceSessionSnapshot) : Local VoiceSessionSnapshot := do
  return (← get).self.activeSession.getD
    { session.moved .cancelled with cancelReason := some standDownReason }

/-- The wake of the session is accepted, if the wake election accepted its candidate. -/
def acceptBackendCandidate (cfg : Config) (c : ChunkProgress) : Local (List BackendEvent) := do
  let session ← sessionAfterStandDown c.session
  match c.backend with
  | some (candidate, decision) =>
    if decision.accepted then acceptWakeCandidate cfg session candidate decision else return []
  | none => return []

/-- A session that listens or captures takes the chunk. -/
def captureChunk (c : ChunkProgress) : Local Unit := do
  let session ← sessionAfterStandDown c.session
  if session.sessionState = .listening || session.sessionState = .capturing then
    setSessionState .capturing
    if !c.wakeAccepted && !c.enrollmentCaptureAccepted then
      modifySelf (·.appendAudio c.chunk)

/-- `_handle_audio_chunk` from where the replaced winner has been stood down. -/
def audioChunkAfterElection (cfg : Config) (c : ChunkProgress) : Local (List BackendEvent) := do
  let events ← acceptBackendCandidate cfg c
  captureChunk c
  let session ← sessionAfterStandDown c.session
  return events ++ [{ stateEvent .sessionState session with election := c.backend.map (·.2) }]

def wakeCandidateFromPayload (session : VoiceSessionSnapshot) (endpointId : EndpointId)
    (payload : VoiceWakeCandidatePayload) (receivedAt : ℤ) (candidateId : ℕ) : WakeCandidate :=
  WakeCandidate.postInit
    { endpointId, sessionId := session.sessionId, source := payload.source, model := payload.model
      confidence := payload.confidence, receivedAt
      detectedAt := payload.detectedAt.map (·.micros), chunkIndex := payload.chunkIndex
      chunkCount := payload.chunkCount, frameLevel := payload.frameLevel
      speechPeakLevel := payload.speechPeakLevel, noiseFloorLevel := payload.noiseFloorLevel
      ambientLevel := payload.ambientLevel, snrDb := payload.snrDb, candidateId }

def wakeElectionEvent (session : VoiceSessionSnapshot) (decision : WakeElectionDecision) :
    BackendEvent :=
  { stateEvent .wakeElectionResult session with election := some decision }

/-- `_handle_wake_candidate` up to where the replaced winner is stood down. -/
def wakeCandidateUntilElection (ev : VoiceEventEnvelope) :
    Local (Except (List BackendEvent) (VoiceSessionSnapshot × WakeCandidate ×
      WakeElectionDecision)) := do
  match ← requireActiveSession ev with
  | .error error => return .error [error]
  | .ok session =>
    match ev.payload.wakeCandidate with
    | .error message =>
      return .error [errorEvent ev.endpointId ev.sessionId "invalid_wake_candidate" message]
    | .ok payload =>
      let candidateId ← drawUuid
      if session.sessionState ≠ .idle then
        let candidate := wakeCandidateFromPayload session ev.endpointId payload
          ev.timestamp.micros candidateId
        let decision : WakeElectionDecision :=
          { electionId := ← drawUuid, accepted := false, reason := .wakeAlreadyDetected
            candidate := some candidate, winner := none, candidates := [candidate]
            decidedAt := ev.timestamp.micros }
        return .error [wakeElectionEvent session decision]
      else
        let candidate := wakeCandidateFromPayload session ev.endpointId payload
          (← get).shared.now candidateId
        let decision ← submitWakeCandidate session.serial candidate
        if decision.accepted then return .ok (session, candidate, decision)
        else return .error [wakeElectionEvent session decision]

/-- `_handle_wake_candidate` from where the replaced winner has been stood down. -/
def wakeCandidateAfterElection (cfg : Config) (session : VoiceSessionSnapshot)
    (candidate : WakeCandidate) (decision : WakeElectionDecision) : Local (List BackendEvent) := do
  let session ← sessionAfterStandDown session
  let events ← acceptWakeCandidate cfg session candidate decision
  let session ← sessionAfterStandDown session
  return events ++ [{ stateEvent .sessionState session with election := some decision }]

/-! ### The other events -/

def handleSessionCancel (cfg : Config) (ev : VoiceEventEnvelope) : Local (List BackendEvent) := do
  match ← requireActiveSession ev with
  | .error error => return [error]
  | .ok session =>
    let reason := if truthy ev.payload.reason then ev.payload.reason.getD "" else "endpoint_cancelled"
    cancelActiveSession cfg reason
    let session := { session.moved .cancelled with cancelReason := some reason }
    return [stateEvent .sessionCancelled session]

def handleSessionPing (ev : VoiceEventEnvelope) : Local (List BackendEvent) := do
  if (← get).self.activeSession.isNone && ev.sessionId.isNone then return []
  match ← requireActiveSession ev with
  | .error error => return [error]
  | .ok session => return [stateEvent .sessionState session]

def handleVadSpeechStarted (ev : VoiceEventEnvelope) : Local (List BackendEvent) := do
  match ← requireActiveSession ev with
  | .error error => return [error]
  | .ok session =>
    match ev.payload.vadSpeechStarted with
    | .error message =>
      return [errorEvent ev.endpointId ev.sessionId "invalid_vad_speech_started" message]
    | .ok _ =>
      modifySelf (·.updateHistory fun h => { h with vadSpeechStartedAt := some ev.timestamp })
      return [stateEvent .sessionState session]

/-- `_handle_vad_speech_ended`: the endpoint is asked to finalise its audio. -/
def handleVadSpeechEnded (ev : VoiceEventEnvelope) : Local (List BackendEvent) := do
  match ← requireActiveSession ev with
  | .error error => return [error]
  | .ok session =>
    match ev.payload.vadSpeechEnded with
    | .error message =>
      return [errorEvent ev.endpointId ev.sessionId "invalid_vad_speech_ended" message]
    | .ok _ =>
      return [{ stateEvent .endpointAudioFinalize session with
        reason := some "backend_vad_speech_ended"
        requestId := some ("cmd_audio_finalize_" ++ toString (← drawUuid)) }]

/-- The active session's state, as the handlers of commands and playbacks answer it. -/
def activeStateEvents : Local (List BackendEvent) := do
  return (← get).self.activeSession.toList.map (stateEvent .sessionState)

def handleCommandAck (ev : VoiceEventEnvelope) : Local (List BackendEvent) := do
  match ev.payload.commandAck with
  | .error message => return [errorEvent ev.endpointId ev.sessionId "invalid_command_ack" message]
  | .ok payload =>
    modifyShared fun sh =>
      { sh with commandRecords := updateCommandFromAck sh.commandRecords sh.now payload }
    activeStateEvents

def handleCommandError (ev : VoiceEventEnvelope) : Local (List BackendEvent) := do
  match ev.payload.commandError with
  | .error message => return [errorEvent ev.endpointId ev.sessionId "invalid_command_error" message]
  | .ok payload =>
    modifyShared fun sh =>
      { sh with commandRecords := updateCommandFromError sh.commandRecords sh.now payload }
    activeStateEvents

def trackPlaybackLifecycle (eventType : VoiceEventType) (record : PlaybackRecord)
    (r : SessionRuntime) : SessionRuntime :=
  let streamId := strip (record.payload.streamId.getD "")
  if streamId = "" then r
  else if eventType = .ttsPlaybackDownloadStarted || eventType = .ttsPlaybackFirstAudioFrame then
    { r with activePlaybacks := r.activePlaybacks.set streamId record }
  else if eventType = .ttsPlaybackCompleted || eventType = .ttsPlaybackFailed ||
      eventType = .playbackStop then
    { r with activePlaybacks := r.activePlaybacks.erase streamId }
  else r

def shouldOpenFollowupWindow (r : SessionRuntime) (ev : VoiceEventEnvelope) : Bool :=
  r.pendingSessionFollowup.isSome && r.activeSession.any fun s =>
    ev.sessionId = some s.sessionId && s.sessionState = .responding

/-- `_open_followup_window`: the buffers start afresh and the timeout task is scheduled. -/
def openFollowupWindow : Local Unit := do
  let d ← get
  match d.self.activeSession, d.self.pendingSessionFollowup with
  | some session, some _ =>
    modifySelf (·.listenForFollowup d.shared.now)
    setSessionState .listening
    let id ← drawUuid
    modifySelf (·.scheduleFollowupTimeout
      { id, endpointId := session.endpointId, sessionId := session.sessionId })
    emit (.followupOpened id)
  | _, _ => throw .runtimeError

def uiScreenClearEvent (endpointId : EndpointId) : BackendEvent :=
  { eventType := .endpointUiScreenClear, endpointId, sessionId := none }

/-- The record of a playback event. -/
def playbackRecord (ev : VoiceEventEnvelope) (payload : VoiceTtsPlaybackPayload) (now : ℤ) :
    PlaybackRecord :=
  { eventId := ev.eventId, eventType := ev.eventType, endpointId := ev.endpointId
    sessionId := ev.sessionId, payload, receivedAt := now }

def handleTtsPlaybackEvent (cfg : Config) (ev : VoiceEventEnvelope) :
    Local (List BackendEvent) := do
  match ev.payload.ttsPlayback with
  | .error message =>
    return [errorEvent ev.endpointId ev.sessionId "invalid_tts_playback_event" message]
  | .ok payload =>
    let record := playbackRecord ev payload (← get).shared.now
    modifySelf (trackPlaybackLifecycle ev.eventType record)
    modifySelf (·.updateHistory fun h => { h with ttsPlayback := some record })
    let r := (← get).self
    if ev.eventType = .ttsPlaybackCompleted && shouldOpenFollowupWindow r ev then
      openFollowupWindow
      return (← activeStateEvents) ++ [uiScreenClearEvent ev.endpointId]
    else if ev.eventType = .ttsPlaybackFailed && r.pendingSessionFollowup.isSome &&
        r.activeSession.isSome then
      cancelActiveSession cfg "tts_playback_failed"
      let cancelled := r.activeSession.toList.map fun s =>
        stateEvent .sessionCancelled
          { s.moved .cancelled with cancelReason := some "tts_playback_failed" }
      return cancelled ++ [uiScreenClearEvent ev.endpointId]
    else
      let cleared := if ev.eventType = .ttsPlaybackCompleted || ev.eventType = .ttsPlaybackFailed ||
          ev.eventType = .playbackStop then [uiScreenClearEvent ev.endpointId] else []
      return (← activeStateEvents) ++ cleared

def handleUiButtonPressed (ev : VoiceEventEnvelope) : Local (List BackendEvent) :=
  match ev.payload.uiButtonPressed with
  | .error message =>
    pure [errorEvent ev.endpointId ev.sessionId "invalid_ui_button_pressed" message]
  | .ok _ => pure []

def handleUiScreenChanged (ev : VoiceEventEnvelope) : Local (List BackendEvent) :=
  if strip (ev.payload.screenId.getD "") = "" then
    pure [errorEvent ev.endpointId ev.sessionId "invalid_ui_screen_changed"
      "screen_id is required"]
  else pure []

end HexeVoice.Voice
