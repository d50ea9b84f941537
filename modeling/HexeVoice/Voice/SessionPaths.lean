import HexeVoice.Voice.SessionMachine

/-!
# The paths of a session

What the actions of the session machine do to the state of the session, apart from all else.

## The model

`SessionAction.path` lists the states that an action asks the session to move to, one after
the other, and `SessionAction.ends` says whether the session is over then.

## What is proved

`act_session` and `act_moves`: with an action the session moves along its path, and these
moves are the ones that are asked for.
-/

namespace HexeVoice.Voice

open HexeVoice.Library

/-! ### Moving along a path -/

namespace VoiceSessionState

/-- Where a session that is asked to move along the path comes to be. -/
def along (state : VoiceSessionState) (path : List VoiceSessionState) : VoiceSessionState :=
  path.foldl (fun s next => if legalMove s next then next else .failed) state

/-- The moves that are asked for on the path. -/
def movesAlong : VoiceSessionState → List VoiceSessionState →
    List (VoiceSessionState × VoiceSessionState)
  | _, [] => []
  | state, next :: path => (state, next) :: (state.along [next]).movesAlong path

variable (state : VoiceSessionState)

theorem along_append (p q : List VoiceSessionState) :
    state.along (p ++ q) = (state.along p).along q := List.foldl_append

/-- The states in which a session listens to audio. -/
def hears : Bool := state = .listening || state = .capturing

end VoiceSessionState

namespace SessionView

variable (v : SessionView) {s : SessionCore} (path : List VoiceSessionState)

@[simp] theorem move_buffer (next : VoiceSessionState) : (v.move next).buffer = v.buffer := rfl

@[simp] theorem move_pending (next : VoiceSessionState) : (v.move next).pending = v.pending := rfl

@[simp] theorem move_task (next : VoiceSessionState) : (v.move next).task = v.task := rfl

@[simp] theorem move_loopTasks (next : VoiceSessionState) :
    (v.move next).loopTasks = v.loopTasks := rfl

@[simp] theorem move_life (next : VoiceSessionState) : (v.move next).life = v.life := rfl

@[simp] theorem note_buffer (e : Effect) : (v.note e).buffer = v.buffer := rfl

@[simp] theorem note_pending (e : Effect) : (v.note e).pending = v.pending := rfl

@[simp] theorem note_task (e : Effect) : (v.note e).task = v.task := rfl

@[simp] theorem note_loopTasks (e : Effect) : (v.note e).loopTasks = v.loopTasks := rfl

@[simp] theorem note_life (e : Effect) : (v.note e).life = v.life ++ [e] := rfl

theorem move_of_none (h : v.session = none) (next : VoiceSessionState) : v.move next = v := by
  cases v
  simp_all [move]

theorem follow_of_none (h : v.session = none) : v.follow path = v := by
  induction path with
  | nil => rfl
  | cons next path ih => rwa [follow, List.foldl_cons, move_of_none v h]

theorem follow_session (h : v.session = some s) :
    (v.follow path).session = some { s with state := s.state.along path } := by
  induction path generalizing v s with
  | nil => exact h
  | cons next path ih =>
    have hmove : (v.move next).session = some { s with state := s.state.along [next] } := by
      simp only [move, h, Option.map_some, SessionCore.moved, VoiceSessionState.along,
        List.foldl_cons, List.foldl_nil]
    exact ih _ hmove

theorem follow_moves (h : v.session = some s) :
    (v.follow path).moves = v.moves ++ s.state.movesAlong path := by
  induction path generalizing v s with
  | nil => simp [follow, VoiceSessionState.movesAlong]
  | cons next path ih =>
    have hmove : (v.move next).session = some { s with state := s.state.along [next] } :=
      v.follow_session [next] h
    have hmoves : (v.move next).moves = v.moves ++ [(s.state, next)] := by simp [move, h]
    rw [show v.follow (next :: path) = (v.move next).follow path from rfl, ih _ hmove, hmoves,
      List.append_assoc]
    rfl

/-- A path changes nothing but the session and the moves. -/
theorem follow_frame :
    v.follow path = { v with session := (v.follow path).session, moves := (v.follow path).moves } := by
  induction path generalizing v with
  | nil => rfl
  | cons next path ih => exact ih (v.move next)

@[simp] theorem follow_history : (v.follow path).history = v.history := by rw [follow_frame]

@[simp] theorem follow_buffer : (v.follow path).buffer = v.buffer := by rw [follow_frame]

@[simp] theorem follow_pending : (v.follow path).pending = v.pending := by rw [follow_frame]

@[simp] theorem follow_task : (v.follow path).task = v.task := by rw [follow_frame]

@[simp] theorem follow_loopTasks : (v.follow path).loopTasks = v.loopTasks := by rw [follow_frame]

@[simp] theorem follow_arrivals : (v.follow path).arrivals = v.arrivals := by rw [follow_frame]

@[simp] theorem follow_life : (v.follow path).life = v.life := by rw [follow_frame]

/-- Where the session is after a path, and which moves were asked for, does not depend on the
rest of the view. -/
theorem follow_congr {v v' : SessionView} (hsession : v'.session = v.session)
    (hmoves : v'.moves = v.moves) :
    (v'.follow path).session = (v.follow path).session ∧
      (v'.follow path).moves = (v.follow path).moves := by
  induction path generalizing v v' with
  | nil => exact ⟨hsession, hmoves⟩
  | cons next path ih =>
    exact ih (by simp [move, hsession]) (by simp [move, hsession, hmoves])

end SessionView

/-! ### The paths of the actions -/

/-- The capture windows that take the session over make it listen. -/
def takeoverPath (placement enrollment : Bool) : List VoiceSessionState :=
  (if placement then [.listening] else []) ++ if enrollment then [.listening] else []

/-- A session that listens or captures captures. -/
def capturePath (state : VoiceSessionState) : List VoiceSessionState :=
  if state.hears then [.capturing] else []

/-- A chunk event: the windows that take the session over, and the capture. -/
def chunkPath (state : VoiceSessionState) (placement enrollment : Bool) : List VoiceSessionState :=
  takeoverPath placement enrollment ++ capturePath (state.along (takeoverPath placement enrollment))

namespace SessionAction

/-- The states that the action asks the session to move to. -/
def path (state : VoiceSessionState) : SessionAction → List VoiceSessionState
  | .start _ manual _ => if manual then [.wakeDetected, .listening] else []
  | .cancel => [.cancelled]
  | .audioEnd _ path _ => path
  | .chunk _ placement enrollment _ => chunkPath state placement enrollment
  | .accept .. => [.wakeDetected, .listening]
  | .capture => capturePath state
  | .openFollowup _ => [.listening]
  | .hear .. | .decide .. | .taskDone _ => []

/-- The session is over after the action. -/
def ends : SessionAction → Bool
  | .cancel => true
  | .audioEnd _ _ followup => !followup
  | _ => false

/-- The action begins a session. -/
def isStart : SessionAction → Bool
  | .start .. => true
  | _ => false

end SessionAction

namespace SessionView

variable (v : SessionView) {s : SessionCore}
variable {a : SessionAction}

/-- In its session and its moves, the view `v'` is `v` after the path. -/
def Goes (path : List VoiceSessionState) (v' : SessionView) : Prop :=
  v'.session = (v.follow path).session ∧ v'.moves = (v.follow path).moves

variable {v}

theorem Goes.trans {v₁ v₂ v₃ : SessionView} {p q : List VoiceSessionState} (h₁ : v₁.Goes p v₂)
    (h₂ : v₂.Goes q v₃) : v₁.Goes (p ++ q) v₃ := by
  obtain ⟨hsession, hmoves⟩ := follow_congr q h₁.1 h₁.2
  have happend : v₁.follow (p ++ q) = (v₁.follow p).follow q := by simp [follow]
  exact ⟨by rw [h₂.1, hsession, happend], by rw [h₂.2, hmoves, happend]⟩

theorem captured_goes (v : SessionView) (placement enrollment : Bool) :
    v.Goes (takeoverPath placement enrollment) (v.captured placement enrollment) := by
  cases placement <;> cases enrollment <;> exact ⟨rfl, rfl⟩

theorem received_goes (v : SessionView) (chunk : Option Chunk)
    (placement enrollment overheard : Bool) :
    v.Goes (takeoverPath placement enrollment) (v.received chunk placement enrollment overheard) := by
  have hcount : v.Goes [] (v.count chunk) := ⟨rfl, rfl⟩
  have h := hcount.trans (captured_goes (v.count chunk) placement enrollment)
  cases overheard
  · exact h
  · exact h

theorem take_goes (h : v.session = some s) (chunk : Option Chunk) :
    v.Goes (capturePath s.state) (v.take chunk) := by
  unfold take capturePath VoiceSessionState.hears
  rw [h, Option.any_some]
  split <;> exact ⟨rfl, rfl⟩

/-- An event of the session's life is no move. -/
theorem note_follow_goes (v : SessionView) (e : Effect) (path : List VoiceSessionState) :
    v.Goes path ((v.note e).follow path) :=
  follow_congr path (show (v.note e).session = v.session from rfl) rfl

theorem take_of_none (h : v.session = none) (chunk : Option Chunk) : v.take chunk = v := by
  simp [take, h]

theorem act_goes (h : v.session = some s) (hstart : a.isStart = false)
    (hends : a.ends = false) : v.Goes (a.path s.state) (v.act a) := by
  cases a with
  | start => cases hstart
  | cancel => cases hends
  | audioEnd audio path followup =>
    cases followup
    · cases hends
    · exact note_follow_goes v .audioEndHandled path
  | chunk chunk placement enrollment overheard =>
    have hreceived := received_goes v chunk placement enrollment overheard
    have hsession := hreceived.1
    rw [follow_session v _ h] at hsession
    exact hreceived.trans (take_goes hsession _)
  | hear chunk overheard => exact received_goes v chunk false false overheard
  | decide | taskDone | accept | openFollowup => exact ⟨rfl, rfl⟩
  | capture => exact take_goes h none

/-- **The session after an action.** -/
theorem act_session (h : v.session = some s) (hstart : a.isStart = false) :
    (v.act a).session =
      if a.ends then none else some { s with state := s.state.along (a.path s.state) } := by
  cases hends : a.ends with
  | false =>
    rw [(act_goes h hstart hends).1, follow_session v _ h]
    rfl
  | true =>
    cases a with
    | cancel => rfl
    | audioEnd audio path followup =>
      cases followup
      · rfl
      · cases hends
    | _ => cases hends

/-- **The moves that an action asks for.** -/
theorem act_moves (h : v.session = some s) (hstart : a.isStart = false) :
    (v.act a).moves = v.moves ++ s.state.movesAlong (a.path s.state) := by
  rw [← v.follow_moves _ h]
  cases hends : a.ends with
  | false => exact (act_goes h hstart hends).2
  | true =>
    cases a with
    | cancel => rfl
    | audioEnd audio path followup =>
      cases followup
      · exact (note_follow_goes v .audioEndHandled path).2
      · cases hends
    | _ => cases hends

/-! ### What a path leaves alone -/

section frame

variable (v : SessionView) (chunk : Option Chunk) (placement enrollment overheard : Bool)

@[simp] theorem captured_pending : (v.captured placement enrollment).pending = v.pending := by
  cases placement <;> cases enrollment <;> rfl

@[simp] theorem captured_task : (v.captured placement enrollment).task = v.task := by
  cases placement <;> cases enrollment <;> rfl

@[simp] theorem captured_loopTasks : (v.captured placement enrollment).loopTasks = v.loopTasks := by
  cases placement <;> cases enrollment <;> rfl

@[simp] theorem captured_arrivals : (v.captured placement enrollment).arrivals = v.arrivals := by
  cases placement <;> cases enrollment <;> rfl

@[simp] theorem captured_buffer : (v.captured placement enrollment).buffer = v.buffer := by
  cases placement <;> cases enrollment <;> rfl

@[simp] theorem captured_life : (v.captured placement enrollment).life =
    v.life ++ if enrollment then [.enrollmentCaptureStarted] else [] := by
  cases placement <;> cases enrollment <;> simp [captured, capturePlacement, captureEnrollment,
    wakeAccepted, SessionView.placementTest]

theorem captured_history : (v.captured placement enrollment).history =
    v.history.map fun h => { h with
      accepted := h.accepted || placement || enrollment
      placementTest := h.placementTest || placement } := by
  cases hv : v.history <;> cases placement <;> cases enrollment <;>
    simp [captured, capturePlacement, captureEnrollment, wakeAccepted, SessionView.placementTest,
      move, note, hv]

theorem received_history : (v.received chunk placement enrollment overheard).history =
    v.history.map fun h => { h with
      accepted := h.accepted || placement || enrollment
      placementTest := h.placementTest || placement } := by
  cases overheard <;> exact captured_history (v.count chunk) placement enrollment

@[simp] theorem take_history : (v.take chunk).history = v.history := by
  unfold take
  split <;> rfl

@[simp] theorem received_arrivals :
    (v.received chunk placement enrollment overheard).arrivals = v.arrivals + 1 := by
  cases overheard <;> exact captured_arrivals _ _ _

@[simp] theorem received_buffer :
    (v.received chunk placement enrollment overheard).buffer =
      v.buffer ++ if overheard then chunk.toList else [] := by
  have h : ((v.count chunk).captured placement enrollment).buffer = v.buffer :=
    captured_buffer _ _ _
  cases overheard
  · simpa [received] using h
  · simpa [received, append] using h

@[simp] theorem received_life :
    (v.received chunk placement enrollment overheard).life =
      v.life ++ (chunk.map Effect.chunkHandled).toList ++
        if enrollment then [.enrollmentCaptureStarted] else [] := by
  cases overheard <;> exact captured_life _ _ _

@[simp] theorem take_arrivals : (v.take chunk).arrivals = v.arrivals := by
  unfold take
  split <;> rfl

@[simp] theorem take_buffer : (v.take chunk).buffer =
    v.buffer ++ if v.session.any (·.state.hears) then chunk.toList else [] := by
  unfold take VoiceSessionState.hears
  split
  · rfl
  · simp

@[simp] theorem take_decisions : (v.take chunk).decisions = v.decisions := by
  unfold take
  split <;> rfl

@[simp] theorem take_life : (v.take chunk).life = v.life := by
  unfold take
  split <;> rfl

@[simp] theorem received_pending :
    (v.received chunk placement enrollment overheard).pending = v.pending := by
  cases overheard <;> exact captured_pending _ _ _

@[simp] theorem received_task :
    (v.received chunk placement enrollment overheard).task = v.task := by
  cases overheard <;> exact captured_task _ _ _

@[simp] theorem received_loopTasks :
    (v.received chunk placement enrollment overheard).loopTasks = v.loopTasks := by
  cases overheard <;> exact captured_loopTasks _ _ _

@[simp] theorem take_pending : (v.take chunk).pending = v.pending := by
  unfold take
  split <;> rfl

@[simp] theorem take_task : (v.take chunk).task = v.task := by
  unfold take
  split <;> rfl

@[simp] theorem take_loopTasks : (v.take chunk).loopTasks = v.loopTasks := by
  unfold take
  split <;> rfl

end frame

/-- Without a session an action but a start moves nothing. -/
theorem act_of_none (h : v.session = none) (hstart : a.isStart = false) :
    (v.act a).session = none ∧ (v.act a).moves = v.moves := by
  have hgoes (path : List VoiceSessionState) {v' : SessionView} (hv' : v.Goes path v') :
      v'.session = none ∧ v'.moves = v.moves := by
    rw [hv'.1, hv'.2, follow_of_none v path h]
    exact ⟨h, rfl⟩
  cases a with
  | start => cases hstart
  | cancel => exact ⟨rfl, (hgoes [.cancelled] ⟨rfl, rfl⟩).2⟩
  | audioEnd audio path followup =>
    have hpath := hgoes path (note_follow_goes v .audioEndHandled path)
    cases followup
    · exact ⟨rfl, hpath.2⟩
    · exact hpath
  | chunk chunk placement enrollment overheard =>
    have hreceived := hgoes _ (received_goes v chunk placement enrollment overheard)
    rw [act, take_of_none hreceived.1]
    exact hreceived
  | hear chunk overheard => exact hgoes _ (received_goes v chunk false false overheard)
  | decide | taskDone => exact ⟨h, rfl⟩
  | accept => exact hgoes [.wakeDetected, .listening] ⟨rfl, rfl⟩
  | openFollowup => exact hgoes [.listening] ⟨rfl, rfl⟩
  | capture =>
    rw [act, take_of_none h]
    exact ⟨h, rfl⟩

/-- **A session that begins.** -/
theorem act_start (v : SessionView) (session : SessionCore) (manual placementTest : Bool) :
    let path := SessionAction.path session.state (.start session manual placementTest)
    (v.act (.start session manual placementTest)).session =
        some { session with state := session.state.along path } ∧
      (v.act (.start session manual placementTest)).moves =
        v.moves ++ session.state.movesAlong path := by
  set v' : SessionView := { v with session := some session }
  have hstart : v'.session = some session := rfl
  cases manual with
  | false => simp [act, note, SessionAction.path, VoiceSessionState.movesAlong, VoiceSessionState.along]
  | true =>
    exact ⟨v'.follow_session [.wakeDetected, .listening] hstart,
      v'.follow_moves [.wakeDetected, .listening] hstart⟩

end SessionView

/-! ### The life of a session -/

/-- The events of the session's life that an action is; `serial` is the session's. -/
def SessionAction.notes (serial : Option ℕ) : SessionAction → List Effect
  | .start session _ _ => [.sessionStarted session.serial]
  | .cancel => (serial.map Effect.sessionCleared).toList
  | .audioEnd audio _ followup =>
    [.audioEndHandled] ++ (audio.map Effect.completeTurn).toList ++
      if followup then [] else (serial.map Effect.sessionCleared).toList
  | .chunk c _ enrollment _ =>
    (c.map Effect.chunkHandled).toList ++ if enrollment then [.enrollmentCaptureStarted] else []
  | .hear c _ => (c.map Effect.chunkHandled).toList
  | .accept serial electionId candidate => [.wakeAccepted serial electionId candidate]
  | .openFollowup task => [.followupOpened task.id]
  | .decide _ _ | .capture | .taskDone _ => []

/-- What of a follow-up is pending after an action. -/
def SessionAction.pendingAfter (pending : Option FollowupState) :
    SessionAction → Option FollowupState
  | .cancel => none
  | .audioEnd _ _ followup => if followup then some .waitingForTtsPlayback else none
  | .openFollowup _ => pending.map fun _ => .listening
  | _ => pending

/-- What of the session's history decides anything, after an action. -/
def SessionAction.historyAfter (history : Option HistoryCore) :
    SessionAction → Option HistoryCore
  | .start _ manual placementTest => some { accepted := manual, placementTest }
  | .cancel => none
  | .audioEnd _ _ followup => if followup then history else none
  | .chunk _ placement enrollment _ =>
    history.map fun h => { h with
      accepted := h.accepted || placement || enrollment
      placementTest := h.placementTest || placement }
  | .accept .. => history.map fun h => { h with accepted := true }
  | _ => history

/-- What an action adds to the decisions of the wake election. -/
def SessionAction.decided : SessionAction → List (ℕ × WakeElectionDecision)
  | .decide serial decision => [(serial, decision)]
  | _ => []

/-- The action is a chunk event. -/
def SessionAction.isChunk : SessionAction → Bool
  | .chunk .. | .hear .. => true
  | _ => false

namespace SessionView

variable (v : SessionView)

/-- The serial number of the session. -/
def serial : Option ℕ := v.session.map (·.serial)

@[simp] theorem move_serial (next : VoiceSessionState) : (v.move next).serial = v.serial := by
  cases h : v.session <;> simp [serial, move, h, SessionCore.moved]

@[simp] theorem follow_serial (path : List VoiceSessionState) : (v.follow path).serial = v.serial := by
  induction path generalizing v with
  | nil => rfl
  | cons next path ih => rw [follow, List.foldl_cons, ← follow, ih, move_serial]

@[simp] theorem clear_life : v.clear.life = v.life ++ (v.serial.map Effect.sessionCleared).toList := by
  cases h : v.session <;> simp [clear, cancelTask, serial, h]

theorem act_life (a : SessionAction) : (v.act a).life = v.life ++ a.notes v.serial := by
  cases a with
  | start session manual placementTest => cases manual <;> rfl
  | cancel => simp [act, SessionAction.notes]
  | audioEnd audio path followup =>
    cases followup with
    | true => simp [act, finish, SessionAction.notes]
    | false =>
      set w := (v.note .audioEndHandled).follow path with hw
      set w' : SessionView :=
        { w with life := w.life ++ (audio.map Effect.completeTurn).toList } with hw'
      have hserial : w'.serial = v.serial := follow_serial (v.note .audioEndHandled) path
      have hlife : w'.life = v.life ++ [.audioEndHandled] ++ (audio.map Effect.completeTurn).toList := by
        simp [hw', hw]
      rw [show v.act (.audioEnd audio path false) = w'.clear from rfl, clear_life, hserial, hlife]
      simp [SessionAction.notes]
  | chunk chunk placement enrollment overheard => simp [act, SessionAction.notes]
  | hear chunk overheard => simp [act, SessionAction.notes]
  | decide | taskDone => simp [act, SessionAction.notes]
  | accept | openFollowup => rfl
  | capture => simp [act, SessionAction.notes]

theorem act_history (a : SessionAction) : (v.act a).history = a.historyAfter v.history := by
  cases a with
  | start session manual placementTest => cases manual <;> rfl
  | audioEnd audio path followup =>
    cases followup with
    | true => exact follow_history (v.note .audioEndHandled) path
    | false => rfl
  | chunk chunk placement enrollment overheard =>
    rw [act, take_history, received_history]
    rfl
  | hear chunk overheard =>
    rw [act, received_history]
    simp [SessionAction.historyAfter]
  | capture => exact take_history v none
  | _ => rfl

theorem act_pending (a : SessionAction) : (v.act a).pending = a.pendingAfter v.pending := by
  cases a with
  | start session manual placementTest => cases manual <;> rfl
  | audioEnd audio path followup => cases followup <;> rfl
  | chunk | hear | capture => simp [act, SessionAction.pendingAfter]
  | _ => rfl

theorem act_arrivals (a : SessionAction) :
    (v.act a).arrivals = v.arrivals + if a.isChunk then 1 else 0 := by
  cases a with
  | start session manual placementTest => cases manual <;> rfl
  | audioEnd audio path followup =>
    have h : ((v.note .audioEndHandled).follow path).arrivals = v.arrivals := by
      rw [follow_arrivals]; rfl
    cases followup <;> exact h
  | chunk | hear | capture => simp [act, SessionAction.isChunk]
  | _ => rfl

/-- Only a decision of the wake election is one. -/
theorem act_decisions (a : SessionAction) :
    (v.act a).decisions = v.decisions ++ a.decided := by
  cases a with
  | decide => rfl
  | start session manual placementTest => cases manual <;> exact (List.append_nil _).symm
  | audioEnd audio path followup =>
    have h : ((v.note .audioEndHandled).follow path).decisions = v.decisions := by
      rw [follow_frame]
      rfl
    cases followup <;> exact h.trans (List.append_nil _).symm
  | chunk chunk placement enrollment overheard =>
    cases placement <;> cases enrollment <;> cases overheard <;>
      simp [act, received, captured, SessionAction.decided] <;> rfl
  | hear chunk overheard => cases overheard <;> exact (List.append_nil _).symm
  | capture => simp [act, SessionAction.decided]
  | _ => exact (List.append_nil _).symm

/-- A session has a history record as long as it goes on. -/
theorem history_isSome_act {v : SessionView} {a : SessionAction}
    (h : v.session.isSome = true → v.history.isSome = true)
    (hsome : (v.act a).session.isSome = true) : (v.act a).history.isSome = true := by
  rw [act_history]
  cases hstart : a.isStart with
  | true =>
    cases a with
    | start => rfl
    | _ => simp [SessionAction.isStart] at hstart
  | false =>
    cases hs : v.session with
    | none => simp [(act_of_none hs hstart).1] at hsome
    | some s =>
      obtain ⟨history, hhistory⟩ := Option.isSome_iff_exists.mp (h (by simp [hs]))
      rw [act_session hs hstart] at hsome
      cases a with
      | start => simp [SessionAction.isStart] at hstart
      | cancel => simp [SessionAction.ends] at hsome
      | audioEnd audio path followup =>
        cases followup with
        | false => simp [SessionAction.ends] at hsome
        | true => simp [SessionAction.historyAfter, hhistory]
      | _ => simp [SessionAction.historyAfter, hhistory]

/-- **What a chunk event adds to the buffer**: what is overheard, and what a session that
hears audio captures. -/
theorem act_chunk_buffer {v : SessionView} {s : SessionCore} (h : v.session = some s)
    (chunk : Option Chunk) (placement enrollment overheard : Bool) :
    (v.act (.chunk chunk placement enrollment overheard)).buffer =
      v.buffer ++ (if overheard then chunk.toList else []) ++
        if (s.state.along (takeoverPath placement enrollment)).hears && !enrollment then
          chunk.toList
        else [] := by
  have hsession : (v.received chunk placement enrollment overheard).session =
      some { s with state := s.state.along (takeoverPath placement enrollment) } := by
    rw [(received_goes v chunk placement enrollment overheard).1, follow_session v _ h]
  rw [act, take_buffer, received_buffer, hsession, Option.any_some]
  cases enrollment <;> simp

end SessionView

end HexeVoice.Voice
