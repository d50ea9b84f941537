import HexeVoice.Library.Machine
import HexeVoice.Voice.Runtime

/-!
# The session machine

An abstract machine for the session of one runtime.

## The model

`SessionView` is what of a runtime decides the life of its session: the session without its
texts, the audio buffer, the pending follow-up and its timer, and of the trace the events of
the session's life. `SessionAction` lists what can happen to it, and `SessionView.act` says
what each does. A handler of an event is a list of such actions (`Refinement`), so that an
invariant of sessions is proved action by action, and not handler by handler.

## What is proved

How the runtime's own operations look through the view: the lemmas `view_*`.
-/

namespace HexeVoice.Voice

open HexeVoice.Library

/-! ### The view -/

/-- A session without its texts. -/
structure SessionCore where
  serial : ℕ
  sessionId : SessionId
  endpointId : EndpointId
  startedAt : Datetime
  handledAt : ℤ
  state : VoiceSessionState
  deriving DecidableEq

def SessionCore.moved (s : SessionCore) (next : VoiceSessionState) : SessionCore :=
  { s with state := if legalMove s.state next then next else .failed }

def VoiceSessionSnapshot.core (s : VoiceSessionSnapshot) : SessionCore :=
  { serial := s.serial, sessionId := s.sessionId, endpointId := s.endpointId
    startedAt := s.startedAt, handledAt := s.handledAt, state := s.sessionState }

/-- What of a session's history decides anything. -/
structure HistoryCore where
  /-- The wake record says `accepted`. -/
  accepted : Bool
  placementTest : Bool
  deriving DecidableEq

def SessionHistory.core (h : SessionHistory) : HistoryCore :=
  { accepted := h.wake.any fun w => w.outcome = .accepted
    placementTest := h.placementTest.any fun p => p.testId ≠ "" }

/-- The events of a session's life. -/
def Effect.isLife : Effect → Bool
  | .sessionStarted _ | .chunkHandled _ | .wakeAccepted .. | .enrollmentCaptureStarted
  | .audioEndHandled | .completeTurn _ | .followupOpened _ | .sessionCleared _ => true
  | _ => false

/-- The decision of the wake election, where the effect is one. -/
def Effect.decision? : Effect → Option (ℕ × WakeElectionDecision)
  | .electionDecided serial decision => some (serial, decision)
  | _ => none

/-- What of a runtime decides the life of its session. -/
@[ext] structure SessionView where
  session : Option SessionCore := none
  history : Option HistoryCore := none
  buffer : List Chunk := []
  pending : Option FollowupState := none
  task : Option ℕ := none
  loopTasks : List FollowupTask := []
  arrivals : ℕ := 0
  moves : List (VoiceSessionState × VoiceSessionState) := []
  life : List Effect := []
  decisions : List (ℕ × WakeElectionDecision) := []

def SessionRuntime.view (r : SessionRuntime) : SessionView :=
  { session := r.activeSession.map (·.core)
    history := r.activeSessionHistory.map (·.core)
    buffer := r.audioChunks
    pending := r.pendingSessionFollowup.map (·.state)
    task := r.followupTimeoutTask
    loopTasks := r.loopTasks
    arrivals := r.arrivals
    moves := r.moves
    life := r.trace.filter (·.isLife)
    decisions := r.trace.filterMap (·.decision?) }

/-! ### Actions -/

namespace SessionView

variable (v : SessionView)

/-- The session, if there is one, is asked to move. -/
def move (next : VoiceSessionState) : SessionView :=
  { v with
    session := v.session.map (·.moved next)
    moves := v.moves ++ (v.session.map fun s => (s.state, next)).toList }

/-- The session is asked to move along a path. -/
def follow (path : List VoiceSessionState) : SessionView := path.foldl move v

/-- An event of the session's life. -/
def note (e : Effect) : SessionView := { v with life := v.life ++ [e] }

/-- The wake record becomes `accepted`. -/
def wakeAccepted : SessionView :=
  { v with history := v.history.map fun h => { h with accepted := true } }

/-- The session becomes a placement test. -/
def placementTest : SessionView :=
  { v with history := v.history.map fun h => { h with placementTest := true } }

/-- The follow-up timer is cancelled. -/
def cancelTask : SessionView :=
  { v with loopTasks := v.loopTasks.filter fun t => some t.id ≠ v.task, task := none }

/-- The session is over. -/
def clear : SessionView :=
  { v.cancelTask with
    session := none
    history := none
    buffer := []
    pending := none
    life := v.life ++ (v.session.map fun s => .sessionCleared s.serial).toList }

/-- A chunk event is counted. -/
def count (chunk : Option Chunk) : SessionView :=
  { v with arrivals := v.arrivals + 1, life := v.life ++ (chunk.map Effect.chunkHandled).toList }

/-- A chunk goes into the buffer. -/
def append (chunk : Option Chunk) : SessionView := { v with buffer := v.buffer ++ chunk.toList }

/-- A session that listens or captures captures, and the chunk goes into the buffer. -/
def take (chunk : Option Chunk) : SessionView :=
  if v.session.any fun s => s.state = .listening || s.state = .capturing then
    (v.move .capturing).append chunk
  else v

/-- The placement-test window takes the session over. -/
def capturePlacement : SessionView := (v.wakeAccepted.placementTest).move .listening

/-- The speaker-enrollment window takes the session over. -/
def captureEnrollment : SessionView :=
  (v.wakeAccepted.note .enrollmentCaptureStarted).move .listening

/-- The capture windows that take the session over do so. -/
def captured (placement enrollment : Bool) : SessionView :=
  let v := if placement then v.capturePlacement else v
  if enrollment then v.captureEnrollment else v

/-- A chunk arrives: it is counted, the capture windows see it, and where it is overheard
it goes into the buffer of the idle session. -/
def received (chunk : Option Chunk) (placement enrollment overheard : Bool) : SessionView :=
  let v := (v.count chunk).captured placement enrollment
  if overheard then v.append chunk else v

/-- The turn has run on `audio`, if it has: a follow-up is awaited, or the session is over. -/
def finish (audio : Option VoiceTurnAudioSummary) (followup : Bool) : SessionView :=
  let v := { v with life := v.life ++ (audio.map Effect.completeTurn).toList }
  if followup then { v with pending := some .waitingForTtsPlayback } else v.clear

end SessionView

/-- What can happen to a session. -/
inductive SessionAction where
  /-- A session begins. -/
  | start (session : SessionCore) (manual placementTest : Bool)
  /-- The session is cancelled. -/
  | cancel
  /-- The captured audio is complete: the session moves along the path and ends, or, where
  the turn asks a follow-up, stays. -/
  | audioEnd (audio : Option VoiceTurnAudioSummary) (path : List VoiceSessionState)
      (followup : Bool)
  /-- A chunk arrives that no wake is accepted with. -/
  | chunk (chunk : Option Chunk) (placement enrollment overheard : Bool)
  /-- A chunk arrives that a wake is accepted with. -/
  | hear (chunk : Option Chunk) (overheard : Bool)
  /-- The wake election decides about a candidate of the session. -/
  | decide (serial : ℕ) (decision : WakeElectionDecision)
  /-- The wake is accepted. -/
  | accept (serial electionId : ℕ) (candidate : WakeCandidate)
  /-- A session that listens captures. -/
  | capture
  /-- The follow-up window opens. -/
  | openFollowup (task : FollowupTask)
  /-- The event loop drops a follow-up task that woke up. -/
  | taskDone (id : ℕ)

namespace SessionView

/-- What an action does. -/
def act (v : SessionView) : SessionAction → SessionView
  | .start session manual placementTest =>
    let v := { v with
      session := some session
      history := some { accepted := false, placementTest }
      buffer := [] }.note (.sessionStarted session.serial)
    if manual then ((v.move .wakeDetected).wakeAccepted).move .listening else v
  | .cancel => (v.move .cancelled).clear
  | .audioEnd audio path followup =>
    ((v.note .audioEndHandled).follow path).finish audio followup
  | .chunk chunk placement enrollment overheard =>
    (v.received chunk placement enrollment overheard).take (if enrollment then none else chunk)
  | .hear chunk overheard => v.received chunk false false overheard
  | .decide serial decision => { v with decisions := v.decisions ++ [(serial, decision)] }
  | .accept serial electionId candidate =>
    ((v.wakeAccepted.note (.wakeAccepted serial electionId candidate)).move .wakeDetected).move
      .listening
  | .capture => v.take none
  | .openFollowup task =>
    let v := ({ v with buffer := [], pending := v.pending.map fun _ => .listening }).move .listening
    let v := v.cancelTask
    { v with task := some task.id, loopTasks := v.loopTasks ++ [task] }.note (.followupOpened task.id)
  | .taskDone id => { v with loopTasks := v.loopTasks.filter fun t => t.id ≠ id }

end SessionView

/-! ### The runtime's operations, seen through the view -/

namespace VoiceSessionSnapshot

variable (s : VoiceSessionSnapshot)

@[simp] theorem core_serial : s.core.serial = s.serial := rfl

@[simp] theorem core_sessionId : s.core.sessionId = s.sessionId := rfl

@[simp] theorem core_endpointId : s.core.endpointId = s.endpointId := rfl

@[simp] theorem core_startedAt : s.core.startedAt = s.startedAt := rfl

@[simp] theorem core_handledAt : s.core.handledAt = s.handledAt := rfl

@[simp] theorem core_state : s.core.state = s.sessionState := rfl

@[simp] theorem core_moved (next : VoiceSessionState) :
    (s.moved next).core = s.core.moved next := by
  unfold moved SessionCore.moved core
  split <;> rfl

@[simp] theorem core_cancelReason (reason : Option String) :
    { s with cancelReason := reason }.core = s.core := rfl

end VoiceSessionSnapshot

namespace SessionRuntime

variable (r : SessionRuntime)

theorem view_session {r : SessionRuntime} {session : VoiceSessionSnapshot}
    (h : r.activeSession = some session) : r.view.session = some session.core := by
  simp [view, h]

@[simp] theorem view_setSessionState (next : VoiceSessionState) :
    (r.setSessionState next).view = r.view.move next := by
  cases h : r.activeSession with
  | none => simp [setSessionState, view, SessionView.move, h]
  | some s => simp [setSessionState, view, SessionView.move, h]

@[simp] theorem view_setCancelReason (reason : String) :
    (r.setCancelReason reason).view = r.view := by
  cases h : r.activeSession <;> simp [setCancelReason, view, h]

theorem view_record (e : Effect) :
    (r.record e).view = { r.view with
      life := r.view.life ++ [e].filter (·.isLife)
      decisions := r.view.decisions ++ [e].filterMap (·.decision?) } := by
  simp only [record, view, List.filter_append, List.filterMap_append]

/-- An event of the session's life. -/
@[simp] theorem view_record_life {e : Effect} (h : e.isLife = true) :
    (r.record e).view = r.view.note e := by
  rw [view_record]
  cases e <;> simp_all [Effect.isLife, Effect.decision?, SessionView.note]

/-- Any other effect but a decision does not show. -/
theorem view_record_quiet {e : Effect} (h : e.isLife = false) (h' : e.decision? = none) :
    (r.record e).view = r.view := by
  rw [view_record]
  simp [h, h']

theorem view_setWake (wake : WakeRecord) :
    (r.setWake wake).view =
      { r.view with history := r.view.history.map fun h =>
          { h with accepted := wake.outcome = .accepted } } := by
  cases h : r.activeSessionHistory <;>
    simp [setWake, updateHistory, view, h, SessionHistory.core]

/-- Entries of the history that decide nothing do not show. -/
theorem view_updateHistory {f : SessionHistory → SessionHistory} (h : ∀ x, (f x).core = x.core) :
    (r.updateHistory f).view = r.view := by
  cases hh : r.activeSessionHistory <;> simp [updateHistory, view, hh, h]

@[simp] theorem view_awaitFollowup (followup : ConversationFollowup) :
    (r.awaitFollowup followup).view =
      { r.view with pending := some .waitingForTtsPlayback } := rfl

@[simp] theorem view_cancelFollowupTimeoutTask :
    r.cancelFollowupTimeoutTask.view = r.view.cancelTask := rfl

@[simp] theorem view_appendAudio (chunk : Option Chunk) :
    (r.appendAudio chunk).view = r.view.append chunk := rfl

@[simp] theorem view_appendAmbientAudio (chunk : Option Chunk) :
    (r.appendAmbientAudio chunk).view = r.view := rfl

@[simp] theorem view_taskDone (id : ℕ) : (r.taskDone id).view = r.view.act (.taskDone id) := rfl

@[simp] theorem view_countChunk (f : VoiceAudioFormat) :
    (r.countChunk f).view = { r.view with arrivals := r.view.arrivals + 1 } := rfl

end SessionRuntime

end HexeVoice.Voice
