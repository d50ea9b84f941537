import HexeVoice.Voice.Handlers
import HexeVoice.Voice.Registry

/-!
# The session manager

`VoiceSessionManager`: the runtimes, their registry and the shared fields, and everything
that happens to them, one input at a time.

## The model

A handler runs in one runtime, the current one of `_runtime_context`; `onDesk` runs a
handler's computation there. Between two `await`s nothing else runs, and the handlers have
none, so an input is one step. A control connection replaces the endpoint's earlier one in
one step here; `Connections` takes that apart.

`Input.message` is a message on the control connection of a runtime, `Input.httpAudio` an
event of the HTTP audio endpoint, which the binary frames of an audio connection also take.
`Input.cancelFromOperator` cancels in the runtime that `_status_runtime` picked, whichever
that is. `Input.tick` lets the clock go on.
-/

namespace HexeVoice.Voice

open HexeVoice.Library

/-- The state of a `VoiceSessionManager`. -/
structure VoiceSessionManager where
  registry : Registry := {}
  sessions : RuntimeId → SessionRuntime := fun _ => {}
  shared : Shared := {}

/-- A `VoiceSessionManager` as its constructor leaves it. -/
def VoiceSessionManager.init (cfg : Config) : VoiceSessionManager :=
  { shared := { wakeElection := { windowMs := cfg.wakeElectionWindowMs } } }

/-- A computation of the manager. -/
abbrev ManagerM := EStateM PyError VoiceSessionManager

namespace VoiceSessionManager

variable (v : VoiceSessionManager)

/-- What a handler that runs in runtime `i` sees. -/
def desk (i : RuntimeId) : Desk := { self := v.sessions i, shared := v.shared }

/-- The manager after a handler that ran in runtime `i`. -/
def putDesk (i : RuntimeId) (d : Desk) : VoiceSessionManager :=
  { v with sessions := fun j => if j = i then d.self else v.sessions j, shared := d.shared }

end VoiceSessionManager

/-- Run a handler's computation in runtime `i`. -/
def onDesk {α : Type} (i : RuntimeId) (c : Local α) : ManagerM α := fun v =>
  match c (v.desk i) with
  | .ok a d => .ok a (v.putDesk i d)
  | .error e d => .error e (v.putDesk i d)

/-! ### The wake election's handlers -/

def standDownReplacedWinner (cfg : Config) (decision : WakeElectionDecision) : ManagerM Unit := do
  match decision.replacedWinner, decision.winner with
  | some replaced, some _ =>
    let v ← get
    match v.registry.runtimeForEndpoint replaced.endpointId with
    | none => pure ()
    | some i =>
      if (v.sessions i).activeSession.any fun s => s.sessionId = replaced.sessionId then
        onDesk i (cancelActiveSession cfg standDownReason)
  | _, _ => pure ()

def handleWakeCandidate (cfg : Config) (i : RuntimeId) (ev : VoiceEventEnvelope) :
    ManagerM (List BackendEvent) := do
  match ← onDesk i (wakeCandidateUntilElection ev) with
  | .error events => return events
  | .ok (session, candidate, decision) =>
    standDownReplacedWinner cfg decision
    onDesk i (wakeCandidateAfterElection cfg session candidate decision)

def handleAudioChunk (cfg : Config) (ans : Answers) (i : RuntimeId) (ev : VoiceEventEnvelope) :
    ManagerM (List BackendEvent) := do
  match ← onDesk i (audioChunkUntilElection cfg ans ev) with
  | .error events => return events
  | .ok progress =>
    match progress.backend with
    | some (_, decision) => if decision.accepted then standDownReplacedWinner cfg decision
    | none => pure ()
    onDesk i (audioChunkAfterElection cfg progress)

/-! ### Dispatch -/

/-- `transport_name` and `allowed_event_types`. -/
structure Transport where
  name : String
  allowedEventTypes : Option (List VoiceEventType) := none

/-- A control connection. -/
def Transport.webSocket : Transport := { name := "WebSocket" }

/-- The HTTP audio endpoint, with `HTTP_AUDIO_EVENTS`. -/
def Transport.httpAudio : Transport :=
  { name := "HTTP audio", allowedEventTypes := some [.audioChunk] }

/-- The checks of `_handle_endpoint_event`: the error to answer an event with that does not
pass them. -/
def Registry.rejection (r : Registry) (i : RuntimeId) (transport : Transport)
    (ev : VoiceEventEnvelope) : Option BackendEvent :=
  let error code message recoverable :=
    some (errorEvent ev.endpointId ev.sessionId code message recoverable)
  if ev.direction ≠ .endpointToBackend then
    error "invalid_direction"
      ("Endpoint " ++ transport.name ++ " messages must use endpoint_to_backend direction.") true
  else if !endpointToBackendEvents.contains ev.eventType then
    error "unsupported_endpoint_event" (ev.eventType.name ++ " is not accepted from endpoints.") true
  else if transport.allowedEventTypes.any fun types => !types.contains ev.eventType then
    error "unsupported_endpoint_transport_event"
      (ev.eventType.name ++ " is not accepted on the " ++ transport.name ++ " transport.") true
  else if r.takenByAnother i ev.endpointId then
    error "endpoint_already_connected" "This endpoint already has an active WebSocket." false
  else if (r.links i).connectedEndpointId.any fun e => e ≠ ev.endpointId then
    error "endpoint_conflict" "This WebSocket is already bound to another endpoint." false
  else none

/-- `_connected_endpoint_id`, set by the first event of a connection. -/
def Registry.bound (r : Registry) (i : RuntimeId) (endpointId : EndpointId) : Registry :=
  if (r.links i).connectedEndpointId.isNone then r.setConnectedEndpointId i endpointId else r

/-- `handlers[event.event_type](event)`. -/
def dispatch (cfg : Config) (ans : Answers) (i : RuntimeId) (ev : VoiceEventEnvelope) :
    ManagerM (List BackendEvent) :=
  match ev.eventType with
  | .sessionStart => onDesk i (handleSessionStart cfg ans ev)
  | .audioChunk => handleAudioChunk cfg ans i ev
  | .audioEnd => onDesk i (handleAudioEnd cfg ans ev)
  | .vadSpeechStarted => onDesk i (handleVadSpeechStarted ev)
  | .vadSpeechEnded => onDesk i (handleVadSpeechEnded ev)
  | .wakeCandidate => handleWakeCandidate cfg i ev
  | .sessionCancel => onDesk i (handleSessionCancel cfg ev)
  | .sessionPing => onDesk i (handleSessionPing ev)
  | .commandAck => onDesk i (handleCommandAck ev)
  | .commandError => onDesk i (handleCommandError ev)
  | .ttsPlaybackDownloadStarted | .ttsPlaybackFirstAudioFrame | .ttsPlaybackCompleted
  | .ttsPlaybackFailed | .playbackStop => onDesk i (handleTtsPlaybackEvent cfg ev)
  | .endpointUiButtonPressed => onDesk i (handleUiButtonPressed ev)
  | .endpointUiScreenChanged => onDesk i (handleUiScreenChanged ev)
  | _ => throw .keyError

def handleEndpointEvent (cfg : Config) (ans : Answers) (transport : Transport) (i : RuntimeId)
    (ev : VoiceEventEnvelope) : ManagerM (List BackendEvent) := do
  match (← get).registry.rejection i transport ev with
  | some error => return [error]
  | none =>
    modify fun v => { v with registry := v.registry.bound i ev.endpointId }
    dispatch cfg ans i (((← get).desk i).mergeEvent ev)

def handleHttpAudioEvent (cfg : Config) (ans : Answers) (ev : VoiceEventEnvelope) :
    ManagerM (List BackendEvent) := do
  match (← get).registry.runtimeForEndpoint ev.endpointId with
  | none => return []
  | some i => handleEndpointEvent cfg ans .httpAudio i ev

/-! ### What else happens to a session -/

/-- The checks of `_followup_timeout`, when the sleep is over. -/
def followupTimeoutApplies (v : VoiceSessionManager) (i : RuntimeId) (task : FollowupTask) : Bool :=
  (v.registry.links i).websocket && (v.sessions i).pendingSessionFollowup.isSome &&
    (v.sessions i).activeSession.any fun s =>
      s.endpointId = task.endpointId && s.sessionId = task.sessionId

/-- `_followup_timeout`: the task `id` of runtime `i`, if the event loop still holds it,
wakes up and is done. -/
def followupTimeout (cfg : Config) (i : RuntimeId) (id : ℕ) : ManagerM Unit := do
  match ((← get).sessions i).loopTasks.find? fun t => t.id = id with
  | none => pure ()
  | some task =>
    onDesk i (modifySelf (·.taskDone id))
    if followupTimeoutApplies (← get) i task then
      onDesk i (cancelActiveSession cfg "followup_timeout")

/-- `_expire_stale_active_sessions`, for one runtime. -/
def expireStaleActiveSession (cfg : Config) : Local Unit := do
  match ← activeSessionTimeoutReason cfg { micros := (← get).shared.now } with
  | none => pure ()
  | some reason => do
    let _ ← cancelTimedOutActiveSession cfg reason

/-- The runtimes of the list that are connected are swept. -/
def expireStaleActiveSessionsOf (cfg : Config) : List RuntimeId → ManagerM Unit
  | [] => pure ()
  | i :: is => do
    if ((← get).registry.links i).connectionActive then onDesk i (expireStaleActiveSession cfg)
    expireStaleActiveSessionsOf cfg is

def expireStaleActiveSessions (cfg : Config) : ManagerM Unit := do
  expireStaleActiveSessionsOf cfg ((← get).registry.endpointRuntimes.values ++ [.default])

/-- `cancel_from_operator`, in the runtime `_status_runtime` picked. -/
def cancelFromOperator (cfg : Config) (reason : String) : Local Unit := do
  if (← get).self.activeSession.isSome then cancelActiveSession cfg reason

/-- How a runtime's session ends when its connection does, in `_replace_endpoint_runtime`
and in the `finally` of `handle_websocket`. -/
def closeRuntimeSession (cfg : Config) (reason : String) : Local Unit := do
  if (← get).self.activeSession.isSome then
    setSessionState .cancelled
    modifySelf (·.setCancelReason reason)
    persistActiveSessionHistory cfg reason
  releaseActiveSessionWakeStream cfg
  clearActiveSessionRuntime cfg

def replaceEndpointRuntime (cfg : Config) (i : RuntimeId) : ManagerM Unit := do
  onDesk i (closeRuntimeSession cfg "endpoint_reconnected")
  modify fun v => { v with registry := (v.registry.replaced i).unbindRuntimeEndpoint i }

/-- `initial_endpoint_id`, of the `endpoint_id` query, where it is not empty. -/
def initialEndpointId (endpointId : Option EndpointId) : Option EndpointId :=
  (endpointId.map strip).filter fun e => e ≠ ""

/-- `handle_websocket` up to its first message. -/
def handleWebsocket (cfg : Config) (endpointId : Option EndpointId) : ManagerM Unit := do
  let initialEndpointId := initialEndpointId endpointId
  if let some existing := initialEndpointId.bind (← get).registry.runtimeForEndpoint then
    replaceEndpointRuntime cfg existing
  let i := RuntimeId.connection (← get).registry.nextConnection
  modify fun v => { v with registry := v.registry.connect }
  if let some e := initialEndpointId then
    modify fun v => { v with registry := v.registry.setConnectedEndpointId i e }

/-- The `finally` of `handle_websocket`. -/
def websocketDisconnected (cfg : Config) (i : RuntimeId) : ManagerM Unit := do
  onDesk i (closeRuntimeSession cfg "websocket_disconnected")
  modify fun v => { v with registry := v.registry.disconnect i }

/-! ### Capture windows -/

/-- `max(30, min(int(ttl_seconds), 900))`, in microseconds. -/
def windowTtl (ttlSeconds : ℤ) : ℤ := max 30 (min ttlSeconds 900) * 1000000

def startSpeakerEnrollmentCaptureWindow (cfg : Config) (endpointId : String) (ttlSeconds : ℤ)
    (sh : Shared) : Shared :=
  let endpointId := strip endpointId
  if endpointId = "" || cfg.privacyModeEnabled then sh
  else
    { sh with
      speakerEnrollmentCaptureWindows := sh.speakerEnrollmentCaptureWindows.set endpointId
        { expiresAt := sh.now + windowTtl ttlSeconds } }

def startPlacementTestWindow (cfg : Config) (endpointId room expectedPhrase : String)
    (ttlSeconds : ℤ) (debugRecordAudio : Bool) (sh : Shared) : Shared :=
  let endpointId := strip endpointId
  if endpointId = "" || strip room = "" || strip expectedPhrase = "" ||
      cfg.privacyModeEnabled then sh
  else
    { sh with
      uuid := sh.uuid + 1
      activePlacementTestWindows := sh.activePlacementTestWindows.set endpointId
        { testId := "placement-" ++ toString sh.uuid, debugRecordAudio
          expiresAt := sh.now + windowTtl ttlSeconds
          testId_ne := by simp } }

/-! ### Steps -/

/-- What can happen next. -/
inductive Input where
  | message (i : RuntimeId) (ev : EndpointEvent) (ans : PipelineAnswers)
  | httpAudio (ev : EndpointEvent) (ans : PipelineAnswers)
  | followupTimeout (i : RuntimeId) (task : ℕ)
  | expireStaleActiveSessions
  | cancelFromOperator (i : RuntimeId) (reason : String)
  | handleWebsocket (endpointId : Option EndpointId)
  | websocketDisconnected (i : RuntimeId)
  | startPlacementTestWindow (endpointId room expectedPhrase : String) (ttlSeconds : ℤ)
      (debugRecordAudio : Bool)
  | startSpeakerEnrollmentCaptureWindow (endpointId : String) (ttlSeconds : ℤ)
  | tick (micros : ℕ)

/-- What the manager does about an input. -/
def handleInput (cfg : Config) : Input → ManagerM Unit
  | .message i ev ans => do
    let _ ← handleEndpointEvent cfg ans.toAnswers .webSocket i ev.toVoiceEventEnvelope
  | .httpAudio ev ans => do
    let _ ← handleHttpAudioEvent cfg ans.toAnswers ev.toVoiceEventEnvelope
  | .followupTimeout i task => followupTimeout cfg i task
  | .expireStaleActiveSessions => expireStaleActiveSessions cfg
  | .cancelFromOperator i reason => onDesk i (cancelFromOperator cfg reason)
  | .handleWebsocket endpointId => handleWebsocket cfg endpointId
  | .websocketDisconnected i => websocketDisconnected cfg i
  | .startPlacementTestWindow endpointId room expectedPhrase ttlSeconds debugRecordAudio =>
    modify fun v =>
      { v with
        shared := startPlacementTestWindow cfg endpointId room expectedPhrase ttlSeconds
          debugRecordAudio v.shared }
  | .startSpeakerEnrollmentCaptureWindow endpointId ttlSeconds =>
    modify fun v =>
      { v with shared := startSpeakerEnrollmentCaptureWindow cfg endpointId ttlSeconds v.shared }
  | .tick micros => modify fun v => { v with shared.now := v.shared.now + micros }

/-- The manager after an input: an exception leaves what was done before it. -/
def step (cfg : Config) (v : VoiceSessionManager) (input : Input) : VoiceSessionManager :=
  match handleInput cfg input v with
  | .ok _ v' => v'
  | .error _ v' => v'

end HexeVoice.Voice
