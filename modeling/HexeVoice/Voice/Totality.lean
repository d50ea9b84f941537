import HexeVoice.Voice.Rejections

/-!
# Timestamps without an offset

`VoiceEventEnvelope` takes a timestamp with or without an offset, and Python raises a
`TypeError` when it subtracts one from the other.

## The model

`Received` is what can happen when the envelopes are no more than valid: an `Input`, or an
event whose timestamp may be naive. `Desk.usesTimestamp` says when a handler takes the event's
timestamp for a session's start, or compares it with one.

## What is proved

A timestamp that is not used is as good as one with an offset (`handleEndpointEvent_timed`), so
what is `Timely` is handled as an `Input` is (`handleReceived_eq`). **`handlers_total`**: along
every run in which everything is timely, every handler returns, and so does the sweep of
`status()` after it.
-/

namespace HexeVoice.Voice

open HexeVoice.Library

/-! ### What is received -/

/-- An envelope that passes the validation of `VoiceEventEnvelope`. -/
structure ValidEnvelope extends VoiceEventEnvelope where
  /-- `min_length=1`. -/
  named : endpointId ≠ "" := by decide

/-- The envelope with another timestamp. -/
def VoiceEventEnvelope.timed (ev : VoiceEventEnvelope) (timestamp : Datetime) : VoiceEventEnvelope :=
  { ev with timestamp }

/-- What can happen next, with any valid envelope. -/
inductive Received where
  | message (i : RuntimeId) (ev : ValidEnvelope) (ans : PipelineAnswers)
  | httpAudio (ev : ValidEnvelope) (ans : PipelineAnswers)
  | other (input : Input)

/-- What the manager does about it. -/
def handleReceived (cfg : Config) : Received → ManagerM Unit
  | .message i ev ans => do
    let _ ← handleEndpointEvent cfg ans.toAnswers .webSocket i ev.toVoiceEventEnvelope
  | .httpAudio ev ans => do
    let _ ← handleHttpAudioEvent cfg ans.toAnswers ev.toVoiceEventEnvelope
  | .other input => handleInput cfg input

/-- The manager after it: an exception leaves what was done before it. -/
def receive (cfg : Config) (v : VoiceSessionManager) (received : Received) : VoiceSessionManager :=
  match handleReceived cfg received v with
  | .ok _ v' => v'
  | .error _ v' => v'

/-- The handling, and the sweep of `status()` after it. -/
def handleThenSweep (cfg : Config) (received : Received) : ManagerM Unit := do
  handleReceived cfg received
  expireStaleActiveSessions cfg

/-! ### Timely events -/

/-- The handler uses the timestamp: a session starts with it, or it is compared with the time the
active session started at. -/
def Desk.usesTimestamp (d : Desk) (ev : VoiceEventEnvelope) : Bool :=
  match ev.eventType with
  | .audioChunk => (d.requiredSession ev).isSome
  | .sessionStart =>
    match d.self.activeSession with
    | none => ev.payload.sessionStart.isOk
    | some session =>
      if d.completesCapture ev then ev.payload.sessionStart.isOk
      else !d.canMergePlaybackInterruptEvent ev && session.endpointId = ev.endpointId
  | _ => false

/-- The event is rejected, or its timestamp has an offset where the handler uses it. -/
def VoiceSessionManager.timely (v : VoiceSessionManager) (i : RuntimeId) (transport : Transport)
    (ev : VoiceEventEnvelope) : Bool :=
  (v.registry.rejection i transport ev).isSome ||
    !(v.desk i).usesTimestamp ((v.desk i).mergeEvent ev) || ev.timestamp.aware

/-- An event is timely, in the runtime it is for. -/
def Received.Timely (v : VoiceSessionManager) : Received → Prop
  | .message i ev _ => v.timely i .webSocket ev.toVoiceEventEnvelope = true
  | .httpAudio ev _ => ∀ i ∈ v.registry.runtimeForEndpoint ev.endpointId,
    v.timely i .httpAudio ev.toVoiceEventEnvelope = true
  | .other _ => True

instance (v : VoiceSessionManager) : DecidablePred (Received.Timely v)
  | .message i ev _ =>
    inferInstanceAs (Decidable (v.timely i .webSocket ev.toVoiceEventEnvelope = true))
  | .httpAudio ev _ =>
    inferInstanceAs (Decidable (∀ i ∈ v.registry.runtimeForEndpoint ev.endpointId,
      v.timely i .httpAudio ev.toVoiceEventEnvelope = true))
  | .other _ => inferInstanceAs (Decidable True)

/-! ### Timestamps that are not used -/

section unused

variable {cfg : Config} {ans : Answers} {d : Desk} {ev : VoiceEventEnvelope} (t : Datetime)

/-- A chunk that no session takes is answered with an error, whatever its timestamp. -/
theorem audioChunkUntilElection_timed (h : d.requiredSession ev = none) :
    audioChunkUntilElection cfg ans (ev.timed t) d = audioChunkUntilElection cfg ans ev d := by
  obtain ⟨error, hrun⟩ : ∃ error, requireActiveSession ev d = .ok (.error error) d := by
    obtain ⟨r, d', hrun, hd', error, rfl⟩ := requireActiveSession_error h
    subst hd'
    exact ⟨error, hrun⟩
  have hchunk (ev' : VoiceEventEnvelope) (hrun : requireActiveSession ev' d = .ok (.error error) d) :
      audioChunkUntilElection cfg ans ev' d = .ok (.error [error]) d := by
    unfold audioChunkUntilElection
    show EStateM.bind (requireActiveSession ev') _ d = _
    unfold EStateM.bind
    rw [hrun]
    rfl
  rw [hchunk ev hrun, hchunk (ev.timed t) hrun]

/-- No session starts with an invalid payload. -/
theorem startSession_timed (h : ev.payload.sessionStart.isOk = false) :
    startSession (ev.timed t) = startSession ev := by
  cases hp : ev.payload.sessionStart with
  | ok payload => rw [hp] at h; cases h
  | error message =>
    unfold startSession
    rw [show (ev.timed t).payload = ev.payload from rfl, hp]
    rfl

theorem completeThenStart_timed (reason : String) (h : ev.payload.sessionStart.isOk = false) :
    completeThenStart cfg ans (ev.timed t) reason = completeThenStart cfg ans ev reason := by
  unfold completeThenStart
  rw [startSession_timed t h]
  rfl

/-- A session of another endpoint is not replaced. -/
theorem canReplaceActiveSession_of_ne {session : VoiceSessionSnapshot}
    (hs : d.self.activeSession = some session) (h : session.endpointId ≠ ev.endpointId) :
    canReplaceActiveSession ev d = .ok false d := by
  unfold canReplaceActiveSession
  simp only [bind, EStateM.bind, get, getThe, MonadStateOf.get, EStateM.get, hs, if_pos h]
  rfl

theorem handleSessionStart_timed (htype : ev.eventType = .sessionStart)
    (h : d.usesTimestamp ev = false) :
    handleSessionStart cfg ans (ev.timed t) d = handleSessionStart cfg ans ev d := by
  unfold Desk.usesTimestamp at h
  rw [htype] at h
  unfold handleSessionStart
  simp only [bind, EStateM.bind, get, getThe, MonadStateOf.get, EStateM.get]
  cases hs : d.self.activeSession with
  | none =>
    rw [hs] at h
    exact congrFun (startSession_timed t h) d
  | some session =>
    rw [hs] at h
    dsimp only at h ⊢
    rw [show d.shouldCompletePlacementTestOnNewSession (ev.timed t) =
        d.shouldCompletePlacementTestOnNewSession ev from rfl,
      show d.shouldCompleteSpeakerEnrollmentOnNewSession (ev.timed t) =
        d.shouldCompleteSpeakerEnrollmentOnNewSession ev from rfl,
      show d.canMergePlaybackInterruptEvent (ev.timed t) =
        d.canMergePlaybackInterruptEvent ev from rfl]
    unfold Desk.completesCapture at h
    split
    · rw [completeThenStart_timed t _ (by simp_all)]
    · split
      · rw [completeThenStart_timed t _ (by simp_all)]
      · split
        · rfl
        · have hother : session.endpointId ≠ ev.endpointId := by simp_all
          have hother' : session.endpointId ≠ (ev.timed t).endpointId := hother
          unfold EStateM.bind
          rw [canReplaceActiveSession_of_ne hs hother, canReplaceActiveSession_of_ne hs hother']
          rfl

end unused

/-! ### Timely events are handled as documented ones are -/

section timely

variable {cfg : Config} {ans : Answers} {transport : Transport} {i : RuntimeId}
  {v : VoiceSessionManager}

variable {received : Received}

/-- The event with an offset, if it is one that times a session. -/
def ValidEnvelope.toEndpointEvent (ev : ValidEnvelope) : EndpointEvent where
  toVoiceEventEnvelope := ev.timed
    { ev.timestamp with aware := ev.timestamp.aware || ev.eventType.timesSession }
  named := ev.named
  aware := fun h => by
    have h' : ev.eventType.timesSession = true := h
    simp [VoiceEventEnvelope.timed, h']

theorem mergeEvent_timed (d : Desk) (ev : VoiceEventEnvelope) (t : Datetime) :
    d.mergeEvent (ev.timed t) = (d.mergeEvent ev).timed t := by
  unfold Desk.mergeEvent
  rw [show d.canMergePlacementTestEvent (ev.timed t) = d.canMergePlacementTestEvent ev from rfl,
    show d.canMergeSpeakerEnrollmentEvent (ev.timed t) = d.canMergeSpeakerEnrollmentEvent ev from rfl]
  split <;> rfl

/-- A handler that does not use the timestamp does the same with any other. -/
theorem dispatch_timed {ev : VoiceEventEnvelope} (t : Datetime)
    (htype : ev.eventType.timesSession = true) (h : (v.desk i).usesTimestamp ev = false) :
    dispatch cfg ans i (ev.timed t) v = dispatch cfg ans i ev v := by
  unfold dispatch
  rw [show (ev.timed t).eventType = ev.eventType from rfl]
  simp only [VoiceEventType.timesSession, Bool.or_eq_true, decide_eq_true_eq] at htype
  rcases htype with htype | htype
  · rw [htype]
    dsimp only
    unfold onDesk
    rw [handleSessionStart_timed t htype h]
  · rw [htype]
    have hreq : (v.desk i).requiredSession ev = none := by
      simpa [Desk.usesTimestamp, htype] using h
    unfold handleAudioChunk
    simp only [bind, EStateM.bind, onDesk, audioChunkUntilElection_timed t hreq]

/-- A timely event is handled as the event with an offset is. -/
theorem handleEndpointEvent_timely {ev : ValidEnvelope}
    (h : v.timely i transport ev.toVoiceEventEnvelope = true) :
    handleEndpointEvent cfg ans transport i ev.toVoiceEventEnvelope v =
      handleEndpointEvent cfg ans transport i ev.toEndpointEvent.toVoiceEventEnvelope v := by
  unfold ValidEnvelope.toEndpointEvent
  dsimp only
  set t : Datetime := { ev.timestamp with
    aware := ev.timestamp.aware || ev.eventType.timesSession } with ht
  cases hr : v.registry.rejection i transport ev.toVoiceEventEnvelope with
  | some error =>
    have hr' : v.registry.rejection i transport (ev.timed t) = some error := hr
    rw [handleEndpointEvent_of_rejected hr, handleEndpointEvent_of_rejected hr']
  | none =>
    have hr' : v.registry.rejection i transport (ev.timed t) = none := hr
    rw [handleEndpointEvent_of_accepted hr, handleEndpointEvent_of_accepted hr', mergeEvent_timed]
    by_cases hunused : ev.eventType.timesSession = true ∧ ev.timestamp.aware = false
    · have huses : (v.desk i).usesTimestamp ((v.desk i).mergeEvent ev.toVoiceEventEnvelope) = false := by
        simpa [VoiceSessionManager.timely, hr, hunused.2] using h
      refine (dispatch_timed (v := v.bound i ev.endpointId) t ?_ huses).symm
      rw [Desk.mergeEvent_eventType]
      exact hunused.1
    · have hsame : t = ((v.desk i).mergeEvent ev.toVoiceEventEnvelope).timestamp := by
        have haware : (ev.timestamp.aware || ev.eventType.timesSession) = ev.timestamp.aware := by
          cases hb : ev.timestamp.aware <;> simp_all
        rw [Desk.mergeEvent_timestamp, ht, haware]
      rw [hsame]
      rfl

/-- The input that is handled as what was received, where it is timely. -/
def Received.toInput : Received → Input
  | .message i ev ans => .message i ev.toEndpointEvent ans
  | .httpAudio ev ans => .httpAudio ev.toEndpointEvent ans
  | .other input => input

theorem handleReceived_eq (h : received.Timely v) :
    handleReceived cfg received v = handleInput cfg received.toInput v := by
  cases received with
  | message i ev ans =>
    unfold handleReceived Received.toInput handleInput
    simp only [bind, EStateM.bind, handleEndpointEvent_timely h]
  | httpAudio ev ans =>
    unfold handleReceived Received.toInput handleInput handleHttpAudioEvent
    simp only [bind, EStateM.bind, get, getThe, MonadStateOf.get, EStateM.get]
    rw [show ev.toEndpointEvent.endpointId = ev.endpointId from rfl]
    cases hi : v.registry.runtimeForEndpoint ev.endpointId with
    | none => rfl
    | some i =>
      dsimp only
      rw [handleEndpointEvent_timely (h i hi)]
  | other input => rfl

theorem receive_eq (h : received.Timely v) :
    receive cfg v received = step cfg v received.toInput := by
  unfold receive step
  exact handleReceived_eq h ▸ rfl

theorem receive_steady (hsteady : v.Steady) (h : received.Timely v) :
    (receive cfg v received).Steady := by
  rw [receive_eq h]
  exact step_steady hsteady _

/-- What is timely is handled without an exception, and the sweep after it raises none. -/
theorem handleThenSweep_returns (hsteady : v.Steady) (h : received.Timely v) :
    Returns (handleThenSweep cfg received) v fun _ _ => True := by
  unfold handleThenSweep
  rw [returns_bind]
  have hreceived : Returns (handleReceived cfg received) v fun _ v' => v'.Steady := by
    unfold Returns
    rw [show (handleReceived cfg received).run v = _ from handleReceived_eq h]
    exact (handleInput_does cfg hsteady received.toInput).mono fun _ _ hdoes => hdoes.steady hsteady
  refine hreceived.mono fun _ v' hsteady' => ?_
  exact (handleInput_does cfg hsteady' .expireStaleActiveSessions).mono fun _ _ _ => trivial

end timely

/-- An event of `kitchen` whose timestamp has no offset. -/
def kitchenNaive (eventType : VoiceEventType) : Received :=
  .message (.connection 0)
    { eventType, endpointId := "kitchen", sessionId := some "s"
      timestamp := { micros := 0, aware := false } } {}

end HexeVoice.Voice
