import HexeVoice.Voice.Manager

/-!
# What an event finds

The conditions under which a handler takes one way or another, as predicates on the state
before the event and on the event: the words in which the results about sessions say when
they hold.

## The model

An `Occasion` is an event that has passed the checks of `_handle_endpoint_event` and its
merges, the desk its handler finds and the answers it gets. `VoiceSessionManager.occasion` says in which
runtime an input is one.
-/

namespace HexeVoice.Voice

/-- An event that a handler runs for. -/
structure Occasion where
  ans : PipelineAnswers
  desk : Desk
  event : EndpointEvent

theorem Desk.mergeEvent_timestamp (d : Desk) (ev : VoiceEventEnvelope) :
    (d.mergeEvent ev).timestamp = ev.timestamp := by
  unfold Desk.mergeEvent
  split <;> rfl

theorem Desk.mergeEvent_endpointId (d : Desk) (ev : VoiceEventEnvelope) :
    (d.mergeEvent ev).endpointId = ev.endpointId := by
  unfold Desk.mergeEvent
  split <;> rfl

theorem Desk.mergeEvent_eventType (d : Desk) (ev : VoiceEventEnvelope) :
    (d.mergeEvent ev).eventType = ev.eventType := by
  unfold Desk.mergeEvent
  split <;> rfl

/-- A merged event is an endpoint's event. -/
def Desk.merged (d : Desk) (ev : EndpointEvent) : EndpointEvent where
  toVoiceEventEnvelope := d.mergeEvent ev.toVoiceEventEnvelope
  named := by rw [Desk.mergeEvent_endpointId]; exact ev.named
  aware := by rw [Desk.mergeEvent_eventType, Desk.mergeEvent_timestamp]; exact ev.aware

/-- The event that an input is for the handlers of a runtime, if it is one. -/
def VoiceSessionManager.occasion (v : VoiceSessionManager) : Input → Option (RuntimeId × Occasion)
  | .message i ev ans =>
    match v.registry.rejection i .webSocket ev.toVoiceEventEnvelope with
    | some _ => none
    | none => some (i, { ans, desk := v.desk i, event := (v.desk i).merged ev })
  | .httpAudio ev ans =>
    match v.registry.runtimeForEndpoint ev.endpointId with
    | none => none
    | some i =>
      match v.registry.rejection i .httpAudio ev.toVoiceEventEnvelope with
      | some _ => none
      | none => some (i, { ans, desk := v.desk i, event := (v.desk i).merged ev })
  | _ => none

/-- A new session completes the capture of the active one. -/
def Desk.completesCapture (d : Desk) (ev : VoiceEventEnvelope) : Bool :=
  d.shouldCompletePlacementTestOnNewSession ev || d.shouldCompleteSpeakerEnrollmentOnNewSession ev

namespace Occasion

variable (cfg : Config) (o : Occasion)

/-- The envelope. -/
abbrev ev : VoiceEventEnvelope := o.event.toVoiceEventEnvelope

/-! ### The end of audio -/

/-- The session for which `_handle_audio_end` runs: at an `audio.end`, or at a
`session.start` that completes a capture. -/
def audioEndSession : Option VoiceSessionSnapshot :=
  match o.ev.eventType with
  | .audioEnd => o.desk.requiredSession o.ev
  | .sessionStart =>
    if o.desk.shouldCompletePlacementTestOnNewSession o.ev ||
        o.desk.shouldCompleteSpeakerEnrollmentOnNewSession o.ev then
      o.desk.self.activeSession
    else none
  | _ => none

/-- The end of audio of the session runs the turn pipeline's `complete_turn`. -/
def runsTurn (session : VoiceSessionSnapshot) : Bool :=
  session.sessionState ≠ .idle && cfg.turnPipeline && !o.ans.customCaptureActive &&
    !o.desk.self.isPlacementTest && !o.desk.enrollmentWindowOpen session.endpointId

/-- The end of audio of the session runs a turn that asks a follow-up. -/
def asksFollowup (session : VoiceSessionSnapshot) : Bool :=
  o.runsTurn cfg session &&
    (o.ans.completeTurn (o.desk.self.audioSummary session)).asksFollowup

/-! ### Chunks -/

/-- The session that a chunk is handled on, and the chunk: `_handle_audio_chunk` past its
checks. -/
def chunkOn : Option (VoiceSessionSnapshot × VoiceAudioChunkPayload) :=
  match o.ev.eventType, o.desk.requiredSession o.ev, o.ev.payload.audioChunk with
  | .audioChunk, some session, .ok payload =>
    if (session.timeoutReason cfg (o.ev.timestamp.micros - session.startedAt.micros)).isSome then
      none
    else some (session, payload)
  | _, _, _ => none

/-- The placement-test window takes the session over with this chunk. -/
def placementTakesOver : Bool :=
  (o.chunkOn cfg).any fun c =>
    c.2.audioBytes.isSome && o.desk.placementWindowOpen o.ev.endpointId &&
      capturableStates.contains c.1.sessionState && !o.desk.self.isPlacementTest

/-- The speaker-enrollment window takes the session over with this chunk. -/
def enrollmentTakesOver : Bool :=
  (o.chunkOn cfg).any fun c =>
    c.2.audioBytes.isSome && o.desk.enrollmentWindowOpen o.ev.endpointId &&
      capturableStates.contains c.1.sessionState && !o.desk.self.isSpeakerEnrollmentCapture

/-- A capture window takes the session over with this chunk. -/
def takesOver : Bool := o.placementTakesOver cfg || o.enrollmentTakesOver cfg

/-- A spoken stop could interrupt a timer alarm that plays. -/
def interruptible : Bool := (o.desk.self.activePlaybackInterrupt o.ev.endpointId).isSome

/-- The chunk, as the buffer holds it: numbered among the chunk events of the runtime. -/
def numbered (payload : VoiceAudioChunkPayload) : Option Chunk :=
  payload.audioBytes.map fun bytes => { arrival := o.desk.self.arrivals, bytes }

/-- What a session in which a wake is accepted overhears of the event. -/
def overheard : List Chunk :=
  match o.chunkOn cfg with
  | some (_, payload) => if o.interruptible then (o.numbered payload).toList else []
  | none => []

/-! ### Wake candidates -/

/-- The session that a candidate is submitted for, and the candidate. -/
def submittedCandidate : Option (VoiceSessionSnapshot × WakeCandidate) :=
  match o.ev.eventType with
  | .wakeCandidate =>
    match (o.desk.requiredSession o.ev).filter fun s => s.sessionState = .idle,
      o.ev.payload.wakeCandidate with
    | some session, .ok payload =>
      some (session, wakeCandidateFromPayload session o.ev.endpointId payload o.desk.shared.now
        o.desk.shared.uuid)
    | _, _ => none
  | .audioChunk =>
    match (o.chunkOn cfg).filter fun c =>
        c.1.sessionState = .idle && !o.placementTakesOver cfg && !o.enrollmentTakesOver cfg &&
          (o.ans.inspectChunk c.2).detected with
    | some (session, payload) =>
      some (session, backendCandidate session o.ev payload (o.ans.inspectChunk payload)
        o.desk.shared.now (o.desk.self.chunkCount + 1) o.desk.shared.uuid)
    | none => none
  | _ => none

/-- What the wake election says about a candidate that the event submits, and the election
after it. -/
def election (candidate : WakeCandidate) : WakeElectionDecision × WakeCandidateElection :=
  o.desk.shared.wakeElection.submitCandidate candidate (o.desk.shared.uuid + 1)

/-- The election after the event. -/
def electionAfter : WakeCandidateElection :=
  match o.submittedCandidate cfg with
  | some (_, candidate) => (o.election candidate).2
  | none => o.desk.shared.wakeElection

/-- The draws before the event and for its candidate: one for its id, one for its election. -/
def uuidAfterElection : ℕ :=
  match o.submittedCandidate cfg with
  | some _ => o.desk.shared.uuid + 2
  | none => o.desk.shared.uuid

/-- The session whose wake the event gets accepted, with the candidate and the decision. -/
def acceptedCandidate : Option (VoiceSessionSnapshot × WakeCandidate × WakeElectionDecision) :=
  match o.submittedCandidate cfg with
  | some (session, candidate) =>
    if (o.election candidate).1.accepted then some (session, candidate, (o.election candidate).1)
    else none
  | none => none

end Occasion

end HexeVoice.Voice
