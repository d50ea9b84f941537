import HexeVoice.Voice.Timeouts

/-!
# What becomes of a session's audio

## The model

`Essence` is what of a runtime decides what becomes of the audio of its session: the session
and whether it is a placement test, the buffer that a turn is run on, and of the trace the
`tape`, which tells of the chunks and of who was given them.

## What is proved

What each computation that starts, captures, completes or ends a session makes of the essence,
where it returns: one lemma `*_essence` each. Every other handler leaves it alone.
-/

namespace HexeVoice.Voice

open HexeVoice.Library Std.Do

set_option mvcgen.warning false

/-! ### The essence of a runtime -/

/-- The effect, where it tells what becomes of audio. -/
@[simp] def Effect.call : Effect → List Effect
  | .sessionStarted serial => [.sessionStarted serial]
  | .chunkHandled chunk => [.chunkHandled chunk]
  | .completeTurn audio => [.completeTurn audio]
  | .sessionCleared serial => [.sessionCleared serial]
  | .wakeChunkCaptured sessionId format chunk => [.wakeChunkCaptured sessionId format chunk]
  | .acceptedWakeMarked sessionId source => [.acceptedWakeMarked sessionId source]
  | .acceptedSessionRecorded sessionId chunks => [.acceptedSessionRecorded sessionId chunks]
  | .wakeRecordingClosed sessionId => [.wakeRecordingClosed sessionId]
  | .microVadCaptured sessionId index chunk => [.microVadCaptured sessionId index chunk]
  | _ => []

/-- What of a runtime decides what becomes of its session's audio. -/
@[ext] structure Essence where
  session : Option SessionCore
  /-- The history's placement test. -/
  placementTest : Option (Option PlacementWindow)
  audioChunks : List Chunk
  awaitsFollowup : Bool
  arrivals : ℕ
  tape : List Effect

def SessionRuntime.essence (r : SessionRuntime) : Essence :=
  { session := r.activeSession.map (·.core)
    placementTest := r.activeSessionHistory.map (·.placementTest)
    audioChunks := r.audioChunks
    awaitsFollowup := r.pendingSessionFollowup.isSome
    arrivals := r.arrivals
    tape := r.trace.flatMap (·.call) }

namespace Essence

variable (e : Essence) (cfg : Config)

/-- The session is asked to move. -/
def move (next : VoiceSessionState) : Essence := { e with session := e.session.map (·.moved next) }

/-- The session is asked to move along a path. -/
def follow (path : List VoiceSessionState) : Essence := path.foldl move e

/-- Calls are made. -/
def tell (calls : List Effect) : Essence := { e with tape := e.tape ++ calls }

/-- A chunk goes into the buffer. -/
def append (chunk : Option Chunk) : Essence :=
  { e with audioChunks := e.audioChunks ++ chunk.toList }

/-- The buffer holds these chunks. -/
def holding (buffer : List Chunk) : Essence := { e with audioChunks := buffer }

/-- The wake recorder, if there is one, is told to close the session. -/
def closing : List Effect :=
  if cfg.wakeRecorder then (e.session.map fun s => .wakeRecordingClosed s.sessionId).toList else []

/-- The session is told to be over. -/
def clearing : List Effect := (e.session.map fun s => .sessionCleared s.serial).toList

/-- The session is a placement test. -/
def isPlacementTest : Bool := e.session.isSome && e.placementTest.any (·.isSome)

/-- The wake recorder, if there is one, is given the accepted session. -/
def recording (sessionId : SessionId) : List Effect :=
  if cfg.wakeRecorder then [.acceptedSessionRecorded sessionId e.audioChunks] else []

/-- A follow-up is awaited. -/
def awaiting : Essence := { e with awaitsFollowup := true }

/-- Nothing is held of a session. -/
def cleared : Essence :=
  { e with session := none, placementTest := none, audioChunks := [], awaitsFollowup := false }

/-- A session begins. -/
def begun (session : SessionCore) (placementTest : Option PlacementWindow) : Essence :=
  { e with
    session := some session
    placementTest := some placementTest
    audioChunks := []
    tape := e.tape ++ [.sessionStarted session.serial] }

/-- The buffer starts afresh, and the session listens again. -/
def listening : Essence := { e.move .listening with audioChunks := [] }

/-- A chunk arrives. -/
def received (chunk : Option Chunk) : Essence :=
  { e with arrivals := e.arrivals + 1, tape := e.tape ++ (chunk.map Effect.chunkHandled).toList }

/-- The session, if there is one, becomes the placement test of a window. -/
def marked (window : Option PlacementWindow) : Essence :=
  { e with placementTest := e.placementTest.map fun _ => window }

/-- The placement-test window takes the session over. -/
def placed (window : Option PlacementWindow) : Essence := (e.marked window).move .listening

/-- The speaker-enrollment window takes the session over. -/
def enrolled (sessionId : SessionId) : Essence :=
  (e.tell (if cfg.wakeRecorder then
    [.acceptedWakeMarked sessionId "speaker_id_enrollment_capture"] else [])).move .listening

/-- The capture windows that take the session over do so. -/
def captured (sessionId : SessionId) (window : Option PlacementWindow)
    (placement enrollment : Bool) : Essence :=
  let e := if placement then e.placed window else e
  if enrollment then e.enrolled cfg sessionId else e

/-- The wake of the session is accepted. -/
def accepted (sessionId : SessionId) (source : String) : Essence :=
  (e.tell (if cfg.wakeRecorder then [.acceptedWakeMarked sessionId source] else [])).follow
    [.wakeDetected, .listening]

/-- A session that listens or captures takes a chunk. -/
def taken (chunk : Option Chunk) : Essence :=
  if e.session.any fun s => s.state = .listening || s.state = .capturing then
    (e.move .capturing).append chunk
  else e

/-- The session is over. -/
def ended : Essence := (e.tell (e.closing cfg ++ e.clearing)).cleared

@[simp] theorem append_none : e.append none = e := by simp [append]

@[simp] theorem tell_nil : e.tell [] = e := by simp [tell]

@[simp] theorem tell_tell (cs cs' : List Effect) : (e.tell cs).tell cs' = e.tell (cs ++ cs') := by
  simp [tell]

@[simp] theorem move_tell (next : VoiceSessionState) (cs : List Effect) :
    (e.tell cs).move next = (e.move next).tell cs := rfl

@[simp] theorem cleared_tell (cs : List Effect) : (e.tell cs).cleared = e.cleared.tell cs := rfl

@[simp] theorem closing_tell (cs : List Effect) : (e.tell cs).closing cfg = e.closing cfg := rfl

@[simp] theorem clearing_tell (cs : List Effect) : (e.tell cs).clearing = e.clearing := rfl

/-! How a session moved before it ended is not seen afterwards. -/

@[simp] theorem cleared_move (next : VoiceSessionState) : (e.move next).cleared = e.cleared := rfl

@[simp] theorem closing_move (next : VoiceSessionState) :
    (e.move next).closing cfg = e.closing cfg := by
  unfold closing move
  cases e.session <;> rfl

@[simp] theorem isPlacementTest_move (next : VoiceSessionState) :
    (e.move next).isPlacementTest = e.isPlacementTest := by
  simp [isPlacementTest, move]

@[simp] theorem clearing_move (next : VoiceSessionState) : (e.move next).clearing = e.clearing := by
  unfold clearing move
  cases e.session <;> rfl

theorem ended_move (next : VoiceSessionState) : (e.move next).ended cfg = e.ended cfg := by
  simp [ended]

theorem ended_tell_follow (path : List VoiceSessionState) (cs : List Effect) :
    ((e.follow path).tell cs).ended cfg = (e.tell cs).ended cfg := by
  induction path generalizing e with
  | nil => rfl
  | cons next path ih =>
    rw [follow, List.foldl_cons, ← follow, ih]
    simp [ended]

@[simp] theorem isPlacementTest_follow (path : List VoiceSessionState) :
    (e.follow path).isPlacementTest = e.isPlacementTest := by
  induction path generalizing e with
  | nil => rfl
  | cons next path ih => rw [follow, List.foldl_cons, ← follow, ih, isPlacementTest_move]

@[simp] theorem audioChunks_follow (path : List VoiceSessionState) :
    (e.follow path).audioChunks = e.audioChunks := by
  induction path generalizing e with
  | nil => rfl
  | cons next path ih => exact ih _

theorem follow_append (p q : List VoiceSessionState) : e.follow (p ++ q) = (e.follow p).follow q :=
  List.foldl_append

theorem follow_tell (path : List VoiceSessionState) (cs : List Effect) :
    (e.tell cs).follow path = (e.follow path).tell cs := by
  induction path generalizing e with
  | nil => rfl
  | cons next path ih => exact ih (e.move next)

/-! The tape. -/

variable {e cfg}

@[simp] theorem tape_move (next : VoiceSessionState) : (e.move next).tape = e.tape := rfl

@[simp] theorem tape_follow (path : List VoiceSessionState) : (e.follow path).tape = e.tape := by
  induction path generalizing e with
  | nil => rfl
  | cons next path ih => exact ih

@[simp] theorem tape_tell (calls : List Effect) : (e.tell calls).tape = e.tape ++ calls := rfl

@[simp] theorem tape_cleared : e.cleared.tape = e.tape := rfl

@[simp] theorem tape_append (chunk : Option Chunk) : (e.append chunk).tape = e.tape := rfl

@[simp] theorem tape_awaiting : e.awaiting.tape = e.tape := rfl

@[simp] theorem tape_listening : e.listening.tape = e.tape := rfl

@[simp] theorem tape_holding (buffer : List Chunk) : (e.holding buffer).tape = e.tape := rfl

theorem tape_ended : (e.ended cfg).tape = e.tape ++ (e.closing cfg ++ e.clearing) := rfl

theorem tape_taken (chunk : Option Chunk) : (e.taken chunk).tape = e.tape := by
  unfold taken
  split <;> rfl

theorem tape_begun (session : SessionCore) (placementTest : Option PlacementWindow) :
    (e.begun session placementTest).tape = e.tape ++ [.sessionStarted session.serial] := rfl

end Essence

namespace SessionRuntime

variable (r : SessionRuntime)

@[simp] theorem essence_record (e : Effect) : (r.record e).essence = r.essence.tell e.call := by
  simp [essence, record, Essence.tell]

/-- Calls that the runtime's trace is extended by. -/
def records (es : List Effect) : SessionRuntime := { r with trace := r.trace ++ es }

theorem records_records (es es' : List Effect) :
    (r.records es).records es' = r.records (es ++ es') := by
  simp [records]

theorem records_nil : r.records [] = r := by simp [records]

theorem essence_records (es : List Effect) :
    (r.records es).essence = r.essence.tell (es.flatMap (·.call)) := by
  simp [essence, records, Essence.tell]

@[simp] theorem essence_placementTest (window : Option PlacementWindow) :
    (r.updateHistory fun h => { h with placementTest := window }).essence =
      r.essence.marked window := by
  simp [essence, Essence.marked, updateHistory, Option.map_map, Function.comp_def]

@[simp] theorem essence_setSessionState (next : VoiceSessionState) :
    (r.setSessionState next).essence = r.essence.move next := by
  rw [setSessionState_eq]
  simp [essence, Essence.move, Option.map_map, Function.comp_def]

theorem essence_updateHistory {f : SessionHistory → SessionHistory}
    (h : ∀ x, (f x).placementTest = x.placementTest) : (r.updateHistory f).essence = r.essence := by
  simp [essence, updateHistory, Option.map_map, Function.comp_def, h]

@[simp] theorem essence_setWake (wake : WakeRecord) : (r.setWake wake).essence = r.essence :=
  r.essence_updateHistory fun _ => rfl

@[simp] theorem essence_setCancelReason (reason : String) :
    (r.setCancelReason reason).essence = r.essence := by
  simp [essence, setCancelReason, Option.map_map, Function.comp_def, VoiceSessionSnapshot.core]

@[simp] theorem essence_cancelFollowupTimeoutTask :
    r.cancelFollowupTimeoutTask.essence = r.essence := rfl

@[simp] theorem essence_cleared : r.cleared.essence = r.essence.cleared := rfl

@[simp] theorem activeSession_cancelFollowupTimeoutTask :
    r.cancelFollowupTimeoutTask.activeSession = r.activeSession := rfl

theorem essence_session : r.essence.session = r.activeSession.map (·.core) := rfl

theorem essence_audioChunks : r.essence.audioChunks = r.audioChunks := rfl

@[simp] theorem essence_taskDone (id : ℕ) : (r.taskDone id).essence = r.essence := rfl

@[simp] theorem essence_keepAmbient (c : ChunkProgress) :
    (r.keepAmbient c).essence = r.essence := by
  unfold keepAmbient
  split <;> rfl

@[simp] theorem essence_trackPlaybackLifecycle (eventType : VoiceEventType)
    (record : PlaybackRecord) :
    (trackPlaybackLifecycle eventType record r).essence = r.essence := by
  unfold trackPlaybackLifecycle
  dsimp only
  split_ifs <;> rfl

@[simp] theorem essence_begun (session : VoiceSessionSnapshot) (audioFormat : VoiceAudioFormat)
    (placementTest : Option PlacementWindow) :
    (r.begun session audioFormat placementTest).essence =
      { r.essence with
        session := some session.core, placementTest := some placementTest, audioChunks := [] } := rfl

@[simp] theorem essence_listenForFollowup (now : ℤ) :
    (r.listenForFollowup now).essence = { r.essence with audioChunks := [] } := by
  simp [essence, listenForFollowup]

@[simp] theorem essence_scheduleFollowupTimeout (task : FollowupTask) :
    (r.scheduleFollowupTimeout task).essence = r.essence := rfl

@[simp] theorem essence_countChunk (audioFormat : VoiceAudioFormat) :
    (r.countChunk audioFormat).essence = { r.essence with arrivals := r.arrivals + 1 } := rfl

theorem essence_arrivals : r.essence.arrivals = r.arrivals := rfl

@[simp] theorem essence_awaitFollowup (followup : ConversationFollowup) :
    (r.awaitFollowup followup).essence = r.essence.awaiting := rfl

@[simp] theorem isPlacementTest_essence : r.essence.isPlacementTest = r.isPlacementTest := by
  unfold Essence.isPlacementTest isPlacementTest essence
  cases r.activeSession <;> cases r.activeSessionHistory with
  | none => simp
  | some h => cases h.placementTest <;> simp [PlacementWindow.testId_ne]

@[simp] theorem essence_appendAudio (chunk : Option Chunk) :
    (r.appendAudio chunk).essence = r.essence.append chunk := rfl

end SessionRuntime

/-! ### The end of a session -/

/-- What the computation makes of the essence, where it returns. -/
abbrev Makes {α : Type} (d : Desk) (c : Local α) (Q : α → Essence → Prop) : Prop :=
  Ends d c (fun a d' => Q a d'.self.essence) fun _ _ => True

/-- A change of the runtime, and what follows. -/
theorem modifySelf_bind {α : Type} {d : Desk} {g : SessionRuntime → SessionRuntime}
    {f : PUnit → Local α} {Q : α → Desk → Prop} {E : PyError → Desk → Prop}
    (h : Ends { d with self := g d.self } (f ⟨⟩) Q E) : Ends d (modifySelf g >>= f) Q E :=
  .bind (.of_run (Q := fun _ d' => d' = { d with self := g d.self }) rfl rfl)
    fun _ _ h' => h' ▸ h

section ending

variable (d : Desk) (cfg : Config)

theorem persist_essence (reason : String) :
    Makes d (persistActiveSessionHistory cfg reason) fun _ e => e = d.self.essence := by
  unfold persistActiveSessionHistory
  mvcgen <;> simp_all +contextual

theorem release_essence :
    Makes d (releaseActiveSessionWakeStream cfg) fun _ e =>
      e = d.self.essence.tell (d.self.essence.closing cfg) := by
  unfold releaseActiveSessionWakeStream Essence.closing
  mvcgen <;> simp_all +contextual [SessionRuntime.essence_session, VoiceSessionSnapshot.core]

theorem clear_essence :
    Makes d (clearActiveSessionRuntime cfg) fun _ e =>
      e = (d.self.essence.tell d.self.essence.clearing).cleared := by
  unfold clearActiveSessionRuntime Essence.clearing
  mvcgen <;> simp_all +contextual [SessionRuntime.essence_session, VoiceSessionSnapshot.core]

end ending

/-- What the end of a session's audio comes to: the session is over, and of its audio nothing
was given away, or the wake recorder and the turn pipeline were; or it awaits a follow-up. -/
inductive Essence.AudioEnded (cfg : Config) (session : VoiceSessionSnapshot) (e : Essence) :
    Essence → Prop
  | discarded : AudioEnded cfg session e (e.ended cfg)
  | recorded (turn : Option VoiceTurnAudioSummary) (hstate : session.sessionState ≠ .idle)
      (hplacement : cfg.turnPipeline = true → e.isPlacementTest = false)
      (hturn : turn.isSome = true → cfg.turnPipeline = true) :
      AudioEnded cfg session e
        ((e.tell (e.recording cfg session.sessionId ++
          (turn.map Effect.completeTurn).toList)).ended cfg)
  | awaiting (audio : VoiceTurnAudioSummary) {answer : VoiceSessionState}
      (hanswer : answer = .localCommand ∨ answer = .routing)
      (hstate : session.sessionState ≠ .idle) (hpipeline : cfg.turnPipeline = true)
      (hplacement : e.isPlacementTest = false) :
      AudioEnded cfg session e
        (((e.follow (toTranscribing session.sessionState ++ [answer, .responding])).tell
          (e.recording cfg session.sessionId ++ [.completeTurn audio])).awaiting)

section ending

variable (d : Desk) (cfg : Config)

theorem cancelActiveSession_essence (reason : String) :
    Makes d (cancelActiveSession cfg reason) fun _ e => e = d.self.essence.ended cfg := by
  unfold cancelActiveSession endActiveSession
  mvcgen [-persist_spec, -release_spec, -clear_spec, persist_essence, release_essence,
    clear_essence]
  simp_all [Essence.ended]

theorem closeRuntimeSession_essence (reason : String) :
    Makes d (closeRuntimeSession cfg reason) fun _ e => e = d.self.essence.ended cfg := by
  unfold closeRuntimeSession
  mvcgen [-persist_spec, -release_spec, -clear_spec, persist_essence, release_essence,
    clear_essence] <;> simp_all +contextual [Essence.ended]

theorem cancelTimedOutActiveSession_essence (reason : String) :
    Makes d (cancelTimedOutActiveSession cfg reason) fun _ e =>
      e = d.self.essence ∨ e = d.self.essence.ended cfg := by
  unfold cancelTimedOutActiveSession
  refine .get_bind ?_
  split
  · exact .pure (.inl rfl)
  · refine modifySelf_bind (.bind (cancelActiveSession_essence _ cfg reason) fun _ _ h => .pure ?_)
    rw [h]
    exact .inr (by simp)

end ending

/-! ### The end of audio -/

section audioEnd

variable (d : Desk) (cfg : Config) (ans : Answers) (session : VoiceSessionSnapshot)

theorem playbackInterruptStopEvent_essence :
    Makes d (playbackInterruptStopEvent cfg ans session) fun _ e => e = d.self.essence := by
  unfold playbackInterruptStopEvent
  mvcgen <;> simp_all +contextual

theorem cancelBeforeWake_essence :
    Makes d (cancelBeforeWake cfg ans session) fun _ e => e = d.self.essence.ended cfg := by
  unfold cancelBeforeWake endActiveSession
  mvcgen [-playbackInterruptStopEvent_spec, -persist_spec, -release_spec, -clear_spec,
    playbackInterruptStopEvent_essence, persist_essence, release_essence, clear_essence]
  simp_all [Essence.ended]

theorem completeCustomCapture_essence :
    Makes d (completeCustomCapture cfg ans session) fun _ e => e = d.self.essence.ended cfg := by
  unfold completeCustomCapture
  mvcgen [-persist_spec, -release_spec, -clear_spec, persist_essence, release_essence,
    clear_essence] <;> simp_all [Essence.ended]

theorem completeActivePlacementTest_essence (hans : ans.transcribeAudio.isSome = true) :
    Makes d (completeActivePlacementTest cfg ans session) fun _ e =>
      e = d.self.essence.ended cfg := by
  unfold completeActivePlacementTest endActiveSession
  mvcgen [-persist_spec, -release_spec, -clear_spec, persist_essence, release_essence,
    clear_essence] <;> simp_all [Essence.ended]

theorem completeEnrollmentCapture_essence :
    Makes d (completeEnrollmentCapture cfg ans session) fun _ e =>
      e = d.self.essence.ended cfg := by
  unfold completeEnrollmentCapture endActiveSession
  mvcgen [-persist_spec, -release_spec, -clear_spec, persist_essence, release_essence,
    clear_essence] <;> simp_all [Essence.ended]

theorem turnCompleted_essence (reason : String) :
    Makes d (turnCompleted cfg session reason) fun _ e => e = d.self.essence.ended cfg := by
  unfold turnCompleted endActiveSession
  mvcgen [-persist_spec, -release_spec, -clear_spec, persist_essence, release_essence,
    clear_essence]
  simp_all [Essence.ended]

theorem completeTurn_essence :
    Makes d (completeTurn cfg ans session) fun _ e =>
      ∃ audio, e = (d.self.essence.tell [.completeTurn audio]).ended cfg ∨
        ∃ answer, (answer = .localCommand ∨ answer = .routing) ∧
          e = ((d.self.essence.follow [answer, .responding]).tell [.completeTurn audio]).awaiting := by
  unfold completeTurn endActiveSession
  mvcgen [-persist_spec, -release_spec, -clear_spec, -turnCompleted_spec, persist_essence,
    release_essence, clear_essence, turnCompleted_essence] <;> simp_all [Essence.ended]
  case vc4 =>
    -- the turn asks a follow-up
    refine ⟨‹VoiceTurnAudioSummary›, .inr ?_⟩
    split
    · exact .inl rfl
    · exact .inr rfl
  all_goals exact ⟨_, .inl rfl⟩

end audioEnd

section audioEnd

variable {d : Desk} (cfg : Config) (ans : PipelineAnswers) {session : VoiceSessionSnapshot}

theorem recordAcceptedWakeSession_essence :
    Makes d (recordAcceptedWakeSession cfg session) fun _ e =>
      e = d.self.essence.tell (d.self.essence.recording cfg session.sessionId) := by
  unfold recordAcceptedWakeSession
  mvcgen <;> simp_all +contextual [Essence.recording, SessionRuntime.essence_audioChunks]

/-- The last part of `_handle_audio_end`, from where the session was asked to transcribe. -/
theorem completeAudio_essence {e : Essence} (hstate : session.sessionState ≠ .idle)
    (hd : d.self.essence = e.follow (toTranscribing session.sessionState)) :
    Makes d (completeAudio cfg ans.toAnswers session) fun _ e' => e.AudioEnded cfg session e' := by
  set path := toTranscribing session.sessionState with hpath
  have hended := e.ended_tell_follow cfg path []
  rw [Essence.tell_nil, Essence.tell_nil] at hended
  unfold completeAudio
  split
  case isTrue =>
    refine (completeCustomCapture_essence d cfg _ session).mono (fun _ d' h => ?_) fun _ _ h => h
    rw [h, hd, hended]
    exact .discarded
  case isFalse =>
  refine .bind ((activePlacementTestWindow_shares d _).mono (fun _ _ h => h) fun _ _ h => h.elim)
    fun _ d₁ h₁ => ?_
  refine .get_bind ?_
  have he₁ : d₁.self.essence = e.follow path := by rw [h₁, hd]
  have hplacement : d₁.self.isPlacementTest = e.isPlacementTest := by
    rw [← SessionRuntime.isPlacementTest_essence, he₁, Essence.isPlacementTest_follow]
  split
  case isTrue =>
    refine (completeActivePlacementTest_essence d₁ cfg _ session ans.transcribes).mono
      (fun _ d' h => ?_) fun _ _ h => h
    rw [h, he₁, hended]
    exact .discarded
  case isFalse hnot =>
  have hnot' : cfg.turnPipeline = true → e.isPlacementTest = false := by
    intro hpipeline
    rw [← hplacement]
    simpa [hpipeline] using hnot
  refine .bind (recordAcceptedWakeSession_essence cfg) fun _ d₂ h₂ => ?_
  refine .bind ((activeSpeakerEnrollmentCaptureWindow_shares d₂ _).mono (fun _ _ h => h)
    fun _ _ h => h.elim) fun enrollment d₃ h₃ => ?_
  have he₃ : d₃.self.essence =
      (e.follow path).tell (e.recording cfg session.sessionId) := by
    rw [h₃, h₂, he₁]
    simp [Essence.recording]
  have hrecorded : d₃.self.essence.ended cfg =
      (e.tell (e.recording cfg session.sessionId)).ended cfg := by
    rw [he₃, Essence.ended_tell_follow]
  split
  case isTrue =>
    refine (completeEnrollmentCapture_essence d₃ cfg _ session).mono (fun _ d' h => ?_) fun _ _ h => h
    rw [h, hrecorded]
    simpa using Essence.AudioEnded.recorded none hstate hnot' (by simp)
  case isFalse =>
  split
  case isTrue hpipeline =>
    refine (completeTurn_essence d₃ cfg _ session).mono (fun _ d' h => ?_) fun _ _ h => h
    obtain ⟨audio, h | ⟨answer, hanswer, h⟩⟩ := h
    · rw [h, he₃, Essence.tell_tell, Essence.ended_tell_follow]
      exact .recorded (some audio) hstate hnot' fun _ => hpipeline
    · rw [h, he₃, Essence.follow_tell, ← Essence.follow_append, Essence.tell_tell]
      exact .awaiting audio hanswer hstate hpipeline (hnot' hpipeline)
  case isFalse =>
    refine modifySelf_bind (modifySelf_bind ?_)
    refine .bind (turnCompleted_essence _ cfg session _) fun _ d₄ h₄ => .pure ?_
    rw [h₄]
    simp only [SessionRuntime.essence_setSessionState, Essence.ended_move, hrecorded]
    simpa using Essence.AudioEnded.recorded none hstate hnot' (by simp)

theorem handleAudioEnd_essence {ev : VoiceEventEnvelope}
    (hreq : d.requiredSession ev = some session) :
    Makes d (handleAudioEnd cfg ans.toAnswers ev) fun _ e' =>
      d.self.essence.AudioEnded cfg session e' := by
  unfold handleAudioEnd
  refine .bind ((requireActiveSession_spec d ev).mono (fun _ _ h => h) fun _ _ h => h.elim) ?_
  rintro r _ ⟨rfl, hr⟩
  rename_i d
  rw [hreq] at hr
  cases r with
  | error => cases hr
  | ok active =>
    cases hr
    refine modifySelf_bind ?_
    have hended : (d.self.record .audioEndHandled).essence = d.self.essence := by simp
    split
    case isTrue hidle =>
      refine (cancelBeforeWake_essence _ cfg _ session).mono (fun _ d' h => ?_) fun _ _ h => h
      rw [h, hended]
      exact .discarded
    case isFalse hstate =>
      by_cases hwake : session.sessionState = .wakeDetected
      · simp only [hwake, if_true]
        refine modifySelf_bind (modifySelf_bind (completeAudio_essence cfg ans hstate ?_))
        simp [toTranscribing, hwake, Essence.follow]
      · simp only [hwake, if_false]
        refine modifySelf_bind (completeAudio_essence cfg ans hstate ?_)
        simp [toTranscribing, hwake, Essence.follow]

end audioEnd

/-! ### The start of a session -/

section start

variable (d : Desk) (ev : VoiceEventEnvelope)

theorem startSession_essence :
    Makes d (startSession ev) fun _ e => e = d.self.essence ∨
      ∃ session placementTest path, session.state = .idle ∧
        (path = [] ∨ path = [.wakeDetected, .listening]) ∧
        e = (d.self.essence.begun session placementTest).follow path := by
  unfold startSession
  mvcgen <;> simp_all +contextual
  case vc2 =>
    refine .inr ⟨_, ?_, _, .inr rfl⟩
    rfl
  case vc3 =>
    refine .inr ⟨_, ?_, _, .inl rfl⟩
    rfl

theorem openFollowupWindow_essence :
    Makes d openFollowupWindow fun _ e => e = d.self.essence.listening := by
  unfold openFollowupWindow Essence.listening
  mvcgen
  simp_all +contextual [Essence.move]

end start

/-! ### Chunks -/

section chunks

variable (d : Desk) (cfg : Config) (ev : VoiceEventEnvelope) (payload : VoiceAudioChunkPayload)
  (session : VoiceSessionSnapshot)

theorem receiveChunk_essence :
    Ends d (receiveChunk payload)
      (fun chunk d' => chunk = payload.audioBytes.map
          (fun bytes => { arrival := d.self.arrivals, bytes }) ∧
        d'.self.essence = d.self.essence.received chunk ∧ d'.shared = d.shared ∧
        d'.self.activeSession = d.self.activeSession ∧
        d'.self.activeSessionHistory = d.self.activeSessionHistory) fun _ _ => False := by
  unfold receiveChunk
  cases payload.audioBytes with
  | none =>
    refine .of_run rfl ⟨rfl, ?_, rfl, rfl, rfl⟩
    simp [Essence.received, SessionRuntime.essence_arrivals]
  | some bytes =>
    refine .of_run rfl ⟨rfl, ?_, rfl, rfl, rfl⟩
    simp [Essence.received, Essence.tell, SessionRuntime.essence_arrivals]

/-- The micro-VAD recorder is given the chunk. -/
def microVadCalls (sessionId : SessionId) (payload : VoiceAudioChunkPayload) (given : Bool)
    (chunk : Option Chunk) : List Effect :=
  chunk.toList.flatMap fun c =>
    if given then [.microVadCaptured sessionId payload.microVadChunkIndex c] else []

/-- The wake recorder is given the chunk. -/
def wakeCalls (sessionId : SessionId) (payload : VoiceAudioChunkPayload) (given : Bool)
    (chunk : Option Chunk) : List Effect :=
  chunk.toList.flatMap fun c =>
    if given then [.wakeChunkCaptured sessionId payload.audioFormat c] else []

theorem call_windowCalls (sessionId : SessionId) (toMicroVad toWake : Bool)
    (chunk : Option Chunk) :
    (microVadCalls sessionId payload toMicroVad chunk ++
      wakeCalls sessionId payload toWake chunk).flatMap (·.call) =
      microVadCalls sessionId payload toMicroVad chunk ++
        wakeCalls sessionId payload toWake chunk := by
  unfold microVadCalls wakeCalls
  cases chunk <;> cases toMicroVad <;> cases toWake <;> rfl

variable (chunk : Option Chunk)

theorem captureMicroVadChunk_records (window : Option PlacementWindow) :
    Ends d (captureMicroVadChunk cfg payload session window chunk)
      (fun _ d' => d'.shared = d.shared ∧ d'.self = d.self.records
        (microVadCalls session.sessionId payload
          (cfg.microVadChunkRecorder && !window.any (!·.debugRecordAudio)) chunk))
      fun _ _ => False := by
  cases chunk with
  | none => exact .pure ⟨rfl, (d.self.records_nil).symm⟩
  | some c =>
    cases h : cfg.microVadChunkRecorder && !window.any (!·.debugRecordAudio) with
    | true =>
      simp only [captureMicroVadChunk, h, if_true]
      exact .of_run rfl ⟨rfl, rfl⟩
    | false =>
      simp only [captureMicroVadChunk, h, Bool.false_eq_true, if_false]
      exact .pure ⟨rfl, (d.self.records_nil).symm⟩

theorem captureWakeChunk_records (recordable : Bool) :
    Ends d (captureWakeChunk cfg payload session recordable chunk)
      (fun _ d' => d'.shared = d.shared ∧ d'.self = d.self.records
        (wakeCalls session.sessionId payload (cfg.wakeRecorder && recordable) chunk))
      fun _ _ => False := by
  cases chunk with
  | none => exact .pure ⟨rfl, (d.self.records_nil).symm⟩
  | some c =>
    cases h : cfg.wakeRecorder && recordable with
    | true =>
      simp only [captureWakeChunk, h, if_true]
      exact .of_run rfl ⟨rfl, rfl⟩
    | false =>
      simp only [captureWakeChunk, h, Bool.false_eq_true, if_false]
      exact .pure ⟨rfl, (d.self.records_nil).symm⟩

theorem acceptPlacementCapture_essence (window : Option PlacementWindow) :
    Makes d (acceptPlacementCapture window) fun _ e => e = d.self.essence.placed window := by
  unfold acceptPlacementCapture
  mvcgen
  simp_all +contextual [Essence.placed]

theorem acceptEnrollmentCapture_essence :
    Makes d (acceptEnrollmentCapture cfg session) fun _ e =>
      e = d.self.essence.enrolled cfg session.sessionId := by
  unfold acceptEnrollmentCapture
  mvcgen <;> simp_all +contextual [Essence.enrolled]

end chunks

/-! ### Capture windows -/

namespace Desk

variable (d : Desk) (cfg : Config) (endpointId : EndpointId) (session : VoiceSessionSnapshot)
  (chunk : Option Chunk)

/-- The endpoint's open placement-test window. -/
def livePlacementWindow : Option PlacementWindow :=
  (d.shared.activePlacementTestWindows.filter fun _ w => d.shared.now < w.expiresAt).get endpointId

/-- The endpoint's open placement-test window keeps no audio. -/
def discardsAudio : Bool := (d.livePlacementWindow endpointId).any (!·.debugRecordAudio)

/-- The state of the session lets a capture window capture a chunk. -/
def capturable (session : VoiceSessionSnapshot) : Bool :=
  capturableStates.contains session.sessionState

/-- The micro-VAD recorder is given a chunk. -/
def givesMicroVad : Bool := cfg.microVadChunkRecorder && !d.discardsAudio endpointId

/-- The wake recorder is given a chunk of the session. -/
def givesWakeRecorder : Bool :=
  cfg.wakeRecorder &&
    ((session.sessionState = .idle || d.enrollmentWindowOpen endpointId && capturable session) &&
      !(capturable session && d.discardsAudio endpointId))

/-- The placement-test window takes the session over with the chunk. -/
def places : Bool :=
  chunk.isSome && d.placementWindowOpen endpointId && capturable session && !d.self.isPlacementTest

/-- The speaker-enrollment window takes the session over with the chunk. -/
def enrolls : Bool :=
  chunk.isSome && d.enrollmentWindowOpen endpointId && capturable session &&
    !d.self.isSpeakerEnrollmentCapture

theorem isSome_livePlacementWindow :
    (d.livePlacementWindow endpointId).isSome = d.placementWindowOpen endpointId := rfl

end Desk

section windows

variable (d : Desk) (cfg : Config) (ev : VoiceEventEnvelope) (payload : VoiceAudioChunkPayload)
  (session : VoiceSessionSnapshot) (chunk : Option Chunk)

theorem activePlacementTestWindow_live (endpointId : EndpointId) :
    Ends d (activePlacementTestWindow endpointId)
      (fun w d' => w = d.livePlacementWindow endpointId ∧ d'.self = d.self ∧
        d'.shared.now = d.shared.now ∧ d'.shared.speakerEnrollmentCaptureWindows =
          d.shared.speakerEnrollmentCaptureWindows) fun _ _ => False :=
  .of_run rfl ⟨rfl, rfl, rfl, rfl⟩

theorem activeSpeakerEnrollmentCaptureWindow_live (endpointId : EndpointId) :
    Ends d (activeSpeakerEnrollmentCaptureWindow endpointId)
      (fun w d' => w.isSome = d.enrollmentWindowOpen endpointId ∧ d'.self = d.self)
      fun _ _ => False :=
  .of_run rfl ⟨rfl, rfl⟩

theorem captureWindows_essence :
    Makes d (captureWindows cfg ev payload session chunk) fun accepted e =>
      accepted = d.enrolls ev.endpointId session chunk ∧
        e = (d.self.essence.tell
          (microVadCalls session.sessionId payload (d.givesMicroVad cfg ev.endpointId) chunk ++
            wakeCalls session.sessionId payload
              (d.givesWakeRecorder cfg ev.endpointId session) chunk)).captured cfg
          session.sessionId (d.livePlacementWindow ev.endpointId)
          (d.places ev.endpointId session chunk) (d.enrolls ev.endpointId session chunk) := by
  unfold captureWindows
  refine .bind ((activePlacementTestWindow_live d _).mono (fun _ _ h => h) fun _ _ h => h.elim) ?_
  rintro _ d₁ ⟨rfl, hself₁, hnow₁, hwindows₁⟩
  refine .bind ((captureMicroVadChunk_records d₁ cfg payload session chunk _).mono (fun _ _ h => h)
    fun _ _ h => h.elim) fun _ d₂ ⟨hshared₂, hself₂⟩ => ?_
  refine .bind ((activeSpeakerEnrollmentCaptureWindow_live d₂ _).mono (fun _ _ h => h)
    fun _ _ h => h.elim) fun enrollmentWindow d₃ ⟨hopen₃, hself₃⟩ => ?_
  have hopen : enrollmentWindow.isSome = d.enrollmentWindowOpen ev.endpointId := by
    rw [hopen₃]
    exact Desk.enrollmentWindowOpen_congr _ (by rw [hshared₂, hnow₁]) (by rw [hshared₂, hwindows₁])
  refine .bind ((captureWakeChunk_records d₃ cfg payload session chunk _).mono (fun _ _ h => h)
    fun _ _ h => h.elim) fun _ d₄ ⟨_, hself₄⟩ => .get_bind ?_
  have hself : d₄.self = d.self.records
      (microVadCalls session.sessionId payload (d.givesMicroVad cfg ev.endpointId) chunk ++
        wakeCalls session.sessionId payload (d.givesWakeRecorder cfg ev.endpointId session) chunk) := by
    rw [hself₄, hself₃, hself₂, hself₁, SessionRuntime.records_records]
    congr 2
    cases chunk with
    | none => rfl
    | some c =>
      unfold Desk.givesWakeRecorder Desk.capturable Desk.discardsAudio
      rw [hopen]
      cases d.livePlacementWindow ev.endpointId <;> simp
  have hplaces : (chunk.isSome && (d.livePlacementWindow ev.endpointId).isSome &&
      capturableStates.contains session.sessionState && !d₄.self.isPlacementTest) =
      d.places ev.endpointId session chunk := by
    rw [hself]
    rfl
  have henrolls : (chunk.isSome && enrollmentWindow.isSome &&
      capturableStates.contains session.sessionState && !d₄.self.isSpeakerEnrollmentCapture) =
      d.enrolls ev.endpointId session chunk := by
    rw [hself, hopen]
    rfl
  have hd₄ : d₄.self.essence = d.self.essence.tell
      (microVadCalls session.sessionId payload (d.givesMicroVad cfg ev.endpointId) chunk ++
        wakeCalls session.sessionId payload (d.givesWakeRecorder cfg ev.endpointId session) chunk) := by
    rw [hself, SessionRuntime.essence_records, call_windowCalls]
  dsimp only
  rw [hplaces, henrolls, ← hd₄]
  unfold Essence.captured
  cases d.places ev.endpointId session chunk <;> cases d.enrolls ev.endpointId session chunk
  case false.false => exact .pure ⟨rfl, rfl⟩
  case false.true =>
    exact .bind (acceptEnrollmentCapture_essence d₄ cfg session) fun _ _ h => .pure ⟨rfl, h⟩
  case true.false =>
    exact .bind (acceptPlacementCapture_essence d₄ _) fun _ _ h => .pure ⟨rfl, h⟩
  case true.true =>
    refine .bind (acceptPlacementCapture_essence d₄ _) fun _ d₅ h₅ => ?_
    refine .bind (acceptEnrollmentCapture_essence d₅ cfg session) fun _ _ h => .pure ⟨rfl, ?_⟩
    rw [h, h₅]
    rfl

end windows

/-! ### The handler of a chunk -/

section chunk

variable {cfg : Config}

theorem inspectForWake_essence (d : Desk) (ans : Answers) (ev : VoiceEventEnvelope)
    (payload : VoiceAudioChunkPayload) (session : VoiceSessionSnapshot) :
    Makes d (inspectForWake ans ev payload session) fun _ e => e = d.self.essence := by
  unfold inspectForWake submitWakeCandidate
  mvcgen [-submitWakeCandidate_untimed] <;> simp_all +contextual

/-- The essence after the capture windows have seen a chunk of the session. -/
def Desk.afterWindows (d : Desk) (cfg : Config) (endpointId : EndpointId)
    (payload : VoiceAudioChunkPayload) (session : VoiceSessionSnapshot) (chunk : Option Chunk) :
    Essence :=
  ((d.self.essence.received chunk).tell
    (microVadCalls session.sessionId payload (d.givesMicroVad cfg endpointId) chunk ++
      wakeCalls session.sessionId payload (d.givesWakeRecorder cfg endpointId session) chunk)).captured
    cfg session.sessionId (d.livePlacementWindow endpointId)
    (d.places endpointId session chunk) (d.enrolls endpointId session chunk)

theorem audioChunkUntilElection_essence (d : Desk) (ans : Answers) (ev : VoiceEventEnvelope) :
    Makes d (audioChunkUntilElection cfg ans ev) fun r e =>
      match r with
      | .error _ => e = d.self.essence ∨ e = d.self.essence.ended cfg
      | .ok c => ∃ session payload buffer, d.requiredSession ev = some session ∧
          ev.payload.audioChunk = .ok payload ∧
          e = (d.afterWindows cfg ev.endpointId payload session c.chunk).holding buffer := by
  unfold audioChunkUntilElection
  refine .bind ((requireActiveSession_spec d ev).mono (fun _ _ h => h) fun _ _ h => h.elim) ?_
  rintro r _ ⟨rfl, hr⟩
  rename_i d
  cases r with
  | error => exact .pure (.inl rfl)
  | ok session =>
  refine .bind ((activeSessionTimeoutReason_spec ev.timestamp).mono (fun _ _ h => h)
    fun _ _ _ => trivial) ?_
  rintro reason _ ⟨rfl, -⟩
  rename_i d
  cases reason with
  | some reason =>
    refine .bind (cancelTimedOutActiveSession_essence d cfg reason) fun _ _ h => .pure ?_
    exact h
  | none =>
  dsimp only
  split
  · exact .pure (.inl rfl)
  next payload hpayload =>
  refine .bind ((receiveChunk_essence d payload).mono (fun _ _ h => h) fun _ _ h => h.elim)
    fun chunk d₁ hpost => ?_
  obtain ⟨_, h₁, hshared, hactive, hhistory⟩ := hpost
  have hplaces : d₁.places ev.endpointId session chunk = d.places ev.endpointId session chunk := by
    simp [Desk.places, Desk.placementWindowOpen, SessionRuntime.isPlacementTest, hshared, hactive,
      hhistory]
  have henrolls : d₁.enrolls ev.endpointId session chunk =
      d.enrolls ev.endpointId session chunk := by
    simp [Desk.enrolls, Desk.enrollmentWindowOpen, SessionRuntime.isSpeakerEnrollmentCapture,
      hshared, hactive, hhistory]
  have hcalls : d₁.givesMicroVad cfg ev.endpointId = d.givesMicroVad cfg ev.endpointId ∧
      d₁.givesWakeRecorder cfg ev.endpointId session =
        d.givesWakeRecorder cfg ev.endpointId session ∧
      d₁.livePlacementWindow ev.endpointId = d.livePlacementWindow ev.endpointId := by
    simp [Desk.givesMicroVad, Desk.givesWakeRecorder, Desk.discardsAudio, Desk.livePlacementWindow,
      Desk.enrollmentWindowOpen, hshared]
  refine .bind (captureWindows_essence d₁ cfg ev payload session chunk) fun accepted d₂ hpost => ?_
  obtain ⟨_, h₂⟩ := hpost
  have he₂ : d₂.self.essence = d.afterWindows cfg ev.endpointId payload session chunk := by
    rw [h₂, h₁, hplaces, henrolls, hcalls.1, hcalls.2.1, hcalls.2.2]
    rfl
  refine .bind ((currentSession_spec _ _).mono (fun _ _ h => h) fun _ _ h => h.elim) ?_
  rintro current _ ⟨rfl, -⟩
  rename_i d₂
  refine modifySelf_bind ?_
  refine .bind (inspectForWake_essence _ ans ev payload current) fun backend d₃ h₃ => ?_
  refine modifySelf_bind (.pure ⟨session, payload, d₃.self.essence.audioChunks, hr.symm, hpayload, ?_⟩)
  rw [SessionRuntime.essence_keepAmbient, ← he₂]
  simp only [h₃]
  unfold SessionRuntime.overhear
  split <;> rfl

variable (cfg)

theorem acceptWakeCandidate_essence (d : Desk) (session : VoiceSessionSnapshot)
    (candidate : WakeCandidate) (decision : WakeElectionDecision) :
    Makes d (acceptWakeCandidate cfg session candidate decision) fun _ e =>
      e = d.self.essence.accepted cfg session.sessionId candidate.source := by
  unfold acceptWakeCandidate Essence.accepted
  mvcgen <;> simp_all [Essence.follow]

theorem sessionAfterStandDown_reads (d : Desk) (session : VoiceSessionSnapshot) :
    Ends d (sessionAfterStandDown session) (fun s d' => d' = d ∧ s = d.self.activeSession.getD
      { session.moved .cancelled with cancelReason := some standDownReason }) fun _ _ => False :=
  .of_run rfl ⟨rfl, rfl⟩

@[simp] theorem VoiceSessionSnapshot.sessionId_moved (s : VoiceSessionSnapshot)
    (next : VoiceSessionState) : (s.moved next).sessionId = s.sessionId := by
  unfold moved
  split <;> rfl

/-- The id of the session that the handler holds after the stand-down. -/
theorem sessionId_afterStandDown (r : SessionRuntime) (session : VoiceSessionSnapshot) :
    (r.activeSession.getD
      { session.moved .cancelled with cancelReason := some standDownReason }).sessionId =
        (r.essence.session.map (·.sessionId)).getD session.sessionId := by
  rw [SessionRuntime.essence_session]
  cases r.activeSession <;> simp [VoiceSessionSnapshot.core]

theorem captureChunk_essence (d : Desk) (c : ChunkProgress) :
    Makes d (captureChunk c) fun _ e => e = d.self.essence.taken
      (if !c.wakeAccepted && !c.enrollmentCaptureAccepted then c.chunk else none) := by
  unfold captureChunk
  refine .bind ((sessionAfterStandDown_reads d c.session).mono (fun _ _ h => h)
    fun _ _ h => h.elim) ?_
  rintro _ _ ⟨rfl, rfl⟩
  rename_i d
  cases hs : d.self.activeSession with
  | none =>
    -- a session that was stood down takes nothing
    have hnot : (c.session.moved .cancelled).sessionState ≠ .listening ∧
        (c.session.moved .cancelled).sessionState ≠ .capturing := by
      unfold VoiceSessionSnapshot.moved
      split <;> simp
    rw [if_neg (by simpa using hnot)]
    refine .pure ?_
    simp [Essence.taken, SessionRuntime.essence_session, hs]
  | some s =>
    have htakes : (d.self.essence.session.any fun s =>
        s.state = .listening || s.state = .capturing) =
        (s.sessionState = .listening || s.sessionState = .capturing) := by
      simp [SessionRuntime.essence_session, hs, VoiceSessionSnapshot.core]
    unfold Essence.taken
    rw [htakes, Option.getD_some]
    split
    · refine modifySelf_bind ?_
      split
      · exact .of_run rfl (by simp)
      · exact .pure (by simp)
    · exact .pure rfl

/-- The wake recorder is told of the wake, under the id of the session that the handler holds
after the stand-down. -/
def ChunkProgress.heard (c : ChunkProgress) (cfg : Config) (e : Essence) : Essence :=
  match c.backend with
  | some (candidate, decision) =>
    if decision.accepted then e.accepted cfg ((e.session.map (·.sessionId)).getD c.session.sessionId)
      candidate.source
    else e
  | none => e

theorem audioChunkAfterElection_essence (d : Desk) (c : ChunkProgress) :
    Makes d (audioChunkAfterElection cfg c) fun _ e => e = (c.heard cfg d.self.essence).taken
      (if !c.wakeAccepted && !c.enrollmentCaptureAccepted then c.chunk else none) := by
  have haccept : Makes d (acceptBackendCandidate cfg c) fun _ e => e = c.heard cfg d.self.essence := by
    unfold acceptBackendCandidate ChunkProgress.heard
    refine .bind ((sessionAfterStandDown_reads d c.session).mono (fun _ _ h => h)
      fun _ _ h => h.elim) ?_
    rintro _ _ ⟨rfl, rfl⟩
    cases c.backend with
    | none => exact .pure rfl
    | some b =>
      dsimp only
      split
      · rw [← sessionId_afterStandDown]
        exact acceptWakeCandidate_essence cfg _ _ _ _
      · exact .pure rfl
  unfold audioChunkAfterElection
  refine .bind haccept fun events d₁ h₁ => ?_
  refine .bind (captureChunk_essence d₁ c) fun _ d₂ h₂ => ?_
  refine .bind ((sessionAfterStandDown_reads d₂ c.session).mono (fun _ _ h => h)
    fun _ _ h => h.elim) ?_
  rintro _ _ ⟨rfl, -⟩
  exact .pure (by rw [h₂, h₁])

theorem wakeCandidateAfterElection_essence (d : Desk) (session : VoiceSessionSnapshot)
    (candidate : WakeCandidate) (decision : WakeElectionDecision) :
    Makes d (wakeCandidateAfterElection cfg session candidate decision) fun _ e =>
      e = d.self.essence.accepted cfg
        ((d.self.essence.session.map (·.sessionId)).getD session.sessionId) candidate.source := by
  unfold wakeCandidateAfterElection
  refine .bind ((sessionAfterStandDown_reads d session).mono (fun _ _ h => h)
    fun _ _ h => h.elim) ?_
  rintro _ _ ⟨rfl, rfl⟩
  rw [← sessionId_afterStandDown]
  refine .bind (acceptWakeCandidate_essence cfg _ _ candidate decision) fun _ d₁ h₁ => ?_
  refine .bind ((sessionAfterStandDown_reads d₁ _).mono (fun _ _ h => h) fun _ _ h => h.elim) ?_
  rintro _ _ ⟨rfl, -⟩
  exact .pure h₁

end chunk

end HexeVoice.Voice
