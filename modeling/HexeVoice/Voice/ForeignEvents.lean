import HexeVoice.Voice.Rejections

/-!
# Events of another session

## The model

An event is `Foreign` when it carries the id of a session that is not the active one and no
capture window and no timer alarm merges it into that.

## What is proved

Most handlers require the active session and hold what they held (`*_holds`). Two do not:
`_handle_tts_playback_event` works on whatever session is active, and `_handle_session_start`
completes a capture before it asks whether the session may be replaced.
**`foreign_event_holds`**: so a foreign event leaves the active session as it was, but for a
permitted replacement, exactly when it is neither a playback that touches it nor a
`session.start` that completes its capture.
-/

namespace HexeVoice.Voice

open HexeVoice.Library Std.Do

set_option mvcgen.warning false

/-! ### Captures that a new session completes -/

section settled

variable (d : Desk) (cfg : Config) (ans : Answers) (session : VoiceSessionSnapshot)

/-- A session, if there is one, is past its capture. -/
def Held.Settled (h : Held) : Prop := ∀ s ∈ h.activeSession, s.sessionState ∉ capturableStates

theorem settled_of_none {r : SessionRuntime} (h : r.activeSession = none) : r.held.Settled := by
  simp [Held.Settled, SessionRuntime.held, h]

theorem settled_setSessionState (r : SessionRuntime) {next : VoiceSessionState}
    (h : next ∉ capturableStates) : (r.setSessionState next).held.Settled := by
  unfold Held.Settled SessionRuntime.held SessionRuntime.setSessionState
  cases hs : r.activeSession with
  | none => simp [hs]
  | some s =>
    rintro _ ⟨⟩
    unfold VoiceSessionSnapshot.moved
    split
    · exact h
    · simp [capturableStates]

@[simp] theorem settled_awaitFollowup (r : SessionRuntime) (followup : ConversationFollowup) :
    (r.awaitFollowup followup).held.Settled ↔ r.held.Settled := Iff.rfl

/-- A session that is past its capture stays so. -/
abbrev Settles {α : Type} (c : Local α) : Prop :=
  ⦃fun d => ⌜d.self.held.Settled⌝⦄ c
    ⦃post⟨fun _ d => ⌜d.self.held.Settled⌝, fun _ d => ⌜d.self.held.Settled⌝⟩⦄

attribute [local simp] SessionRuntime.Same settled_of_none settled_setSessionState capturableStates

theorem completeCustomCapture_settles : Settles (completeCustomCapture cfg ans session) := by
  unfold completeCustomCapture
  mvcgen <;> simp_all

theorem completeActivePlacementTest_settles :
    Settles (completeActivePlacementTest cfg ans session) := by
  unfold completeActivePlacementTest
  mvcgen <;> simp_all

theorem completeEnrollmentCapture_settles :
    Settles (completeEnrollmentCapture cfg ans session) := by
  unfold completeEnrollmentCapture
  mvcgen <;> simp_all

theorem completeTurn_settles : Settles (completeTurn cfg ans session) := by
  unfold completeTurn
  mvcgen <;> simp_all

theorem completeAudio_settles : Settles (completeAudio cfg ans session) := by
  unfold completeAudio
  mvcgen [completeCustomCapture_settles, completeActivePlacementTest_settles,
    completeEnrollmentCapture_settles, completeTurn_settles] <;> simp_all

theorem handleAudioEnd_settles (ev : VoiceEventEnvelope)
    (h : ∀ s ∈ d.requiredSession ev, s.sessionState ≠ .idle) (hsome : d.requiredSession ev ≠ none) :
    Ends d (handleAudioEnd cfg ans ev) (fun _ d' => d'.self.held.Settled)
      fun _ d' => d'.self.held.Settled := by
  unfold handleAudioEnd
  mvcgen [completeAudio_settles] <;> simp_all [Except.toOption]

@[simp] theorem chunkCount_record (r : SessionRuntime) (e : Effect) :
    (r.record e).chunkCount = r.chunkCount := rfl

@[simp] theorem chunkCount_setWake (r : SessionRuntime) (wake : WakeRecord) :
    (r.setWake wake).chunkCount = r.chunkCount := rfl

@[simp] theorem chunkCount_setSessionState (r : SessionRuntime) (next : VoiceSessionState) :
    (r.setSessionState next).chunkCount = r.chunkCount := by
  unfold SessionRuntime.setSessionState
  split <;> rfl

@[simp] theorem chunkCount_begun (r : SessionRuntime) (s : VoiceSessionSnapshot)
    (audioFormat : VoiceAudioFormat) (placementTest : Option PlacementWindow) :
    (r.begun s audioFormat placementTest).chunkCount = 0 := rfl

/-- A session that starts has no chunks yet. -/
theorem startSession_counts (ev : VoiceEventEnvelope) :
    Ends d (startSession ev) (fun _ d' => d'.self = d.self ∨ d'.self.chunkCount = 0)
      fun _ _ => False := by
  unfold startSession
  mvcgen <;> simp_all +zetaDelta

/-- The runtime does not hold a capture: its session is past it or has no chunks. -/
def Held.Uncaptured (h : Held) : Prop := h.Settled ∨ h.chunkCount = 0

theorem completeThenStart_uncaptured (ev : VoiceEventEnvelope) (reason : String)
    {s : VoiceSessionSnapshot} (hs : d.self.activeSession = some s) (hstate : s.sessionState ≠ .idle) :
    Ends d (completeThenStart cfg ans ev reason) (fun _ d' => d'.self.held.Uncaptured)
      fun _ d' => d'.self.held.Uncaptured := by
  have hreq : d.requiredSession (supersedingAudioEnd d ev reason) = some s := by
    simp [Desk.requiredSession, supersedingAudioEnd, hs]
  have hend := handleAudioEnd_settles d cfg ans (supersedingAudioEnd d ev reason)
    (by simp [hreq, hstate]) (by simp [hreq])
  unfold completeThenStart
  refine .bind (Q := fun r d' => r = d ∧ d' = d) (.of_run rfl ⟨rfl, rfl⟩) ?_
  rintro _ _ ⟨rfl, rfl⟩
  refine .bind (hend.mono (fun _ _ h => h) fun _ _ => .inl) fun completed d' hd' => ?_
  mvcgen [startSession_counts] <;> simp_all [Held.Uncaptured]
  rename_i hnone hstarted
  refine hstarted.imp (fun h => ?_) id
  rw [h]
  exact settled_of_none hnone

theorem completesCapture_capturing {d : Desk} {ev : VoiceEventEnvelope}
    (h : d.completesCapture ev = true) :
    ev.eventType = .sessionStart ∧ 0 < d.self.chunkCount ∧ ∃ s, d.self.activeSession = some s ∧
      (s.sessionState = .listening ∨ s.sessionState = .capturing) := by
  unfold Desk.completesCapture Desk.shouldCompletePlacementTestOnNewSession
    Desk.shouldCompleteSpeakerEnrollmentOnNewSession at h
  cases hs : d.self.activeSession with
  | none => simp [hs] at h
  | some s =>
    simp only [hs, Option.any_some, Bool.or_eq_true, Bool.and_eq_true, decide_eq_true_eq] at h
    rcases h with ⟨⟨⟨⟨⟨⟨-, -⟩, htype⟩, hstate⟩, -⟩, -⟩, hcount⟩ |
      ⟨⟨⟨⟨⟨⟨-, -⟩, htype⟩, hstate⟩, -⟩, -⟩, hcount⟩
    · exact ⟨htype, hcount, s, rfl, hstate⟩
    · exact ⟨htype, hcount, s, rfl, hstate⟩

/-- A capture that a new session completes is not held afterwards. -/
theorem handleSessionStart_completes {ev : VoiceEventEnvelope} (h : d.completesCapture ev = true) :
    Ends d (handleSessionStart cfg ans ev) (fun _ d' => d'.self.held ≠ d.self.held)
      fun _ d' => d'.self.held ≠ d.self.held := by
  obtain ⟨htype, hcount, s, hs, hstate⟩ := completesCapture_capturing h
  have hcomplete (reason : String) :
      Ends d (completeThenStart cfg ans ev reason) (fun _ d' => d'.self.held ≠ d.self.held)
        fun _ d' => d'.self.held ≠ d.self.held := by
    have hidle : s.sessionState ≠ .idle := by rcases hstate with h | h <;> simp [h]
    have hchanges (d' : Desk) (hd' : d'.self.held.Uncaptured) : d'.self.held ≠ d.self.held := by
      intro heq
      rw [heq] at hd'
      rcases hd' with hsettled | hzero
      · exact hsettled s hs (by rcases hstate with h | h <;> simp [h])
      · exact hcount.ne' hzero
    exact (completeThenStart_uncaptured d cfg ans ev reason hs hidle).mono
      (fun _ d' => hchanges d') fun _ d' => hchanges d'
  unfold handleSessionStart
  refine .bind (Q := fun r d' => r = d ∧ d' = d) (.of_run rfl ⟨rfl, rfl⟩) ?_
  rintro _ _ ⟨rfl, rfl⟩
  simp only [hs]
  unfold Desk.completesCapture at h
  split
  · exact hcomplete _
  · split
    · exact hcomplete _
    · simp_all

end settled

/-! ### Events of another session -/

section foreign

variable (d : Desk) (cfg : Config) (ans : Answers) (ev : VoiceEventEnvelope)

/-- Whatever comes of the computation, the runtime holds what it held. -/
abbrev Holds (c : Local (List BackendEvent)) : Prop :=
  Ends d c (fun _ d' => d'.self.held = d.self.held) fun _ d' => d'.self.held = d.self.held

/-- The event carries the id of a session that is not the active one, and no capture window and no
timer alarm merges it into that. -/
structure Foreign (session : VoiceSessionSnapshot) : Prop where
  active : d.self.activeSession = some session
  carries : ∃ x, ev.sessionId = some x ∧ x ≠ session.sessionId
  unmerged : (d.canMergePlacementTestEvent ev || d.canMergeSpeakerEnrollmentEvent ev ||
    d.canMergePlaybackInterruptEvent ev) = false

variable {d cfg ans ev} {session : VoiceSessionSnapshot}

theorem Foreign.mergeEvent (h : Foreign d ev session) : d.mergeEvent ev = ev := by
  have := h.unmerged
  simp_all [Desk.mergeEvent]

theorem Foreign.requiredSession (h : Foreign d ev session) : d.requiredSession ev = none := by
  obtain ⟨x, hx, hne⟩ := h.carries
  have := h.unmerged
  simp_all [Desk.requiredSession, h.active]

attribute [local simp] Except.toOption

theorem handleAudioEnd_holds (h : Foreign d ev session) : Holds d (handleAudioEnd cfg ans ev) := by
  have := h.requiredSession
  unfold handleAudioEnd
  mvcgen <;> simp_all

theorem handleSessionCancel_holds (h : Foreign d ev session) :
    Holds d (handleSessionCancel cfg ev) := by
  have := h.requiredSession
  unfold handleSessionCancel
  mvcgen <;> simp_all

theorem handleSessionPing_holds : Holds d (handleSessionPing ev) := by
  unfold handleSessionPing
  mvcgen <;> simp_all

theorem handleVadSpeechStarted_holds (h : Foreign d ev session) :
    Holds d (handleVadSpeechStarted ev) := by
  have := h.requiredSession
  unfold handleVadSpeechStarted
  mvcgen <;> simp_all

theorem handleVadSpeechEnded_holds : Holds d (handleVadSpeechEnded ev) := by
  unfold handleVadSpeechEnded
  mvcgen <;> simp_all

theorem handleCommandAck_holds : Holds d (handleCommandAck ev) := by
  unfold handleCommandAck
  mvcgen <;> simp_all

theorem handleCommandError_holds : Holds d (handleCommandError ev) := by
  unfold handleCommandError
  mvcgen <;> simp_all

theorem handleUiButtonPressed_holds : Holds d (handleUiButtonPressed ev) := by
  unfold handleUiButtonPressed
  mvcgen <;> simp_all

theorem handleUiScreenChanged_holds : Holds d (handleUiScreenChanged ev) := by
  unfold handleUiScreenChanged
  mvcgen <;> simp_all

variable (cfg ans) in
theorem audioChunkUntilElection_holds (h : Foreign d ev session) :
    Ends d (audioChunkUntilElection cfg ans ev) (fun r d' => d' = d ∧ ∃ es, r = .error es)
      fun _ _ => False := by
  have := h.requiredSession
  unfold audioChunkUntilElection
  mvcgen <;> simp_all

theorem wakeCandidateUntilElection_holds (h : Foreign d ev session) :
    Ends d (wakeCandidateUntilElection ev) (fun r d' => d' = d ∧ ∃ es, r = .error es)
      fun _ _ => False := by
  have := h.requiredSession
  unfold wakeCandidateUntilElection
  mvcgen <;> simp_all

/-- A new session that neither completes a capture nor may replace the active session is
rejected. -/
theorem handleSessionStart_holds (h : Foreign d ev session) (hcapture : d.completesCapture ev = false)
    (hreplace : d.canReplace ev = false) : Holds d (handleSessionStart cfg ans ev) := by
  have := h.active
  have := h.unmerged
  unfold handleSessionStart
  unfold Desk.completesCapture at hcapture
  mvcgen <;> simp_all

/-! ### Playbacks -/

/-- The event is one of a playback. -/
def VoiceEventType.isPlayback : VoiceEventType → Bool
  | .ttsPlaybackDownloadStarted | .ttsPlaybackFirstAudioFrame | .ttsPlaybackCompleted
  | .ttsPlaybackFailed | .playbackStop => true
  | _ => false

/-- The session as a failed playback leaves it until its record is stored. -/
def VoiceSessionSnapshot.cancelledFor (s : VoiceSessionSnapshot) (reason : String) :
    VoiceSessionSnapshot := { s.moved .cancelled with cancelReason := some reason }

/-- The history with a playback's record in it. -/
def SessionHistory.played (h : SessionHistory) (record : PlaybackRecord) : SessionHistory :=
  { h with ttsPlayback := some record }

variable (d ev) in
/-- The desk after a playback was written down. -/
def Desk.played (record : PlaybackRecord) : Desk :=
  { d with self := (trackPlaybackLifecycle ev.eventType record d.self).updateHistory (·.played record) }

variable (d ev) in
/-- A playback of another session fails while the active one awaits a follow-up. -/
def Desk.failsFollowup : Bool :=
  ev.eventType = .ttsPlaybackFailed && d.self.pendingSessionFollowup.isSome

section played

variable (record : PlaybackRecord)

theorem held_played : (d.played ev record).self.held =
    { d.self.held with
      activeSessionHistory := d.self.activeSessionHistory.map (·.played record) } := by
  unfold Desk.played trackPlaybackLifecycle
  dsimp only
  split_ifs <;> rfl

theorem activeSession_played : (d.played ev record).self.activeSession = d.self.activeSession := by
  rw [← SessionRuntime.held_activeSession, held_played, SessionRuntime.held_activeSession]

theorem pending_played :
    (d.played ev record).self.pendingSessionFollowup = d.self.pendingSessionFollowup := by
  rw [← SessionRuntime.held_pendingSessionFollowup, held_played,
    SessionRuntime.held_pendingSessionFollowup]

theorem persists_played : (d.played ev record).persists cfg = d.persists cfg := by
  have hhistory : (d.played ev record).self.activeSessionHistory.isNone =
      d.self.activeSessionHistory.isNone := by
    rw [← SessionRuntime.held_activeSessionHistory, held_played, Option.isNone_map]
  rw [Desk.persists, Desk.persists, activeSession_played, hhistory]

/-- Writing the playback down shows in the history, unless it holds that very record. -/
theorem held_played_eq_iff : (d.played ev record).self.held = d.self.held ↔
    ∀ h ∈ d.self.activeSessionHistory, h.ttsPlayback = some record := by
  rw [held_played]
  constructor
  · intro heq h hh
    have := congrArg Held.activeSessionHistory heq
    simp only [SessionRuntime.held, Option.mem_def.mp hh, Option.map_some, Option.some.injEq] at this
    exact congrArg SessionHistory.ttsPlayback this.symm
  · intro h
    cases hh : d.self.activeSessionHistory with
    | none => simp [SessionRuntime.held, hh]
    | some history =>
      have := h history hh
      simp [SessionRuntime.held, hh, SessionHistory.played, ← this]

end played

/-- What a playback of another session comes to. -/
theorem handleTtsPlaybackEvent_foreign (h : Foreign d ev session) {payload : VoiceTtsPlaybackPayload}
    (hp : ev.payload.ttsPlayback = .ok payload) :
    let t := d.played ev (playbackRecord ev payload d.shared.now)
    Ends d (handleTtsPlaybackEvent cfg ev)
      (fun _ d' => if d.failsFollowup ev then d'.self.activeSession = none ∧ d.persists cfg = true
        else d' = t)
      fun _ d' => d.failsFollowup ev = true ∧ d.persists cfg = false ∧
        ((t.self.setSessionState .cancelled).setCancelReason "tts_playback_failed").held =
          d'.self.held := by
  intro t
  have hopen : shouldOpenFollowupWindow t.self ev = false := by
    obtain ⟨x, hx, hne⟩ := h.carries
    simp [shouldOpenFollowupWindow, t, activeSession_played, h.active, hx, hne]
  have hactive : t.self.activeSession.isSome = true := by
    simp [t, activeSession_played, h.active]
  unfold handleTtsPlaybackEvent
  simp only [hp]
  refine .bind (Q := fun r d' => r = d ∧ d' = d) (.of_run rfl ⟨rfl, rfl⟩) ?_
  rintro _ _ ⟨rfl, rfl⟩
  rename_i d
  set record := playbackRecord ev payload d.shared.now
  refine .bind (Q := fun _ d' => d' = { d with self := trackPlaybackLifecycle ev.eventType record d.self })
    (.of_run rfl rfl) ?_
  rintro _ _ rfl
  refine .bind (Q := fun _ d' => d' = t) (.of_run rfl rfl) ?_
  rintro _ _ rfl
  refine .bind (Q := fun r d' => r = t ∧ d' = t) (.of_run rfl ⟨rfl, rfl⟩) ?_
  rintro _ _ ⟨rfl, rfl⟩
  have hfails : (decide (ev.eventType = .ttsPlaybackFailed) && t.self.pendingSessionFollowup.isSome &&
      t.self.activeSession.isSome) = d.failsFollowup ev := by
    rw [hactive, Bool.and_true, Desk.failsFollowup, pending_played]
  have hpersists : t.persists cfg = d.persists cfg := persists_played record
  rw [hopen, hfails, Bool.and_false, if_neg Bool.false_ne_true]
  cases hfail : d.failsFollowup ev with
  | true =>
    rw [if_pos rfl, ← hpersists]
    refine .bind ((cancelActiveSession_spec t cfg _).mono (fun _ _ h => h)
      fun _ d' hpost => ⟨rfl, hpost.2, hpost.1.1.symm⟩) fun _ d' hd' => ?_
    exact .pure (by simpa using ⟨hd'.1, hd'.2.2⟩)
  | false =>
    rw [if_neg Bool.false_ne_true]
    refine .bind ((activeStateEvents_spec t).mono (fun _ _ h => h) fun _ _ h => h.elim) ?_
    rintro es _ ⟨rfl, -⟩
    exact .pure (by simp)

variable (d cfg ev) in
/-- A playback of another session touches the active one: its record goes into the active
session's history, which does not hold it yet, or it failed and the active session, which
awaits a follow-up, is cancelled for that. -/
def Desk.touchedByPlayback : Bool :=
  ev.eventType.isPlayback && match ev.payload.ttsPlayback with
    | .error _ => false
    | .ok payload =>
      (d.self.activeSessionHistory.any fun h =>
        h.ttsPlayback ≠ some (playbackRecord ev payload d.shared.now)) ||
      d.failsFollowup ev && (d.persists cfg ||
        d.self.activeSession.any fun s => s.cancelledFor "tts_playback_failed" ≠ s)

theorem held_cancelled (r : SessionRuntime) (reason : String) :
    ((r.setSessionState .cancelled).setCancelReason reason).held =
      { r.held with activeSession := r.activeSession.map (·.cancelledFor reason) } := by
  cases hs : r.activeSession with
  | none => simp [SessionRuntime.held, SessionRuntime.setSessionState,
      SessionRuntime.setCancelReason, hs]
  | some s => simp [SessionRuntime.held, SessionRuntime.setSessionState,
      SessionRuntime.setCancelReason, hs, VoiceSessionSnapshot.cancelledFor]

/-- A session that is cancelled shows, unless it was cancelled for that before. -/
theorem held_cancelled_played_eq_iff (hs : d.self.activeSession = some session)
    (record : PlaybackRecord) (reason : String) :
    ((((d.played ev record).self.setSessionState .cancelled).setCancelReason reason).held =
      d.self.held) ↔
      (d.played ev record).self.held = d.self.held ∧ session.cancelledFor reason = session := by
  rw [held_cancelled, held_played, activeSession_played, hs]
  constructor
  · intro heq
    have hactive := congrArg Held.activeSession heq
    have hhistory := congrArg Held.activeSessionHistory heq
    simp only [SessionRuntime.held, hs, Option.map_some, Option.some.injEq] at hactive hhistory ⊢
    exact ⟨by rw [hhistory], hactive⟩
  · rintro ⟨heq, hsession⟩
    rw [heq, Option.map_some, hsession, ← hs]
    rfl

variable (cfg) in
theorem touchedByPlayback_eq_false_iff (hs : d.self.activeSession = some session)
    (htype : ev.eventType.isPlayback = true) {payload : VoiceTtsPlaybackPayload}
    (hp : ev.payload.ttsPlayback = .ok payload) :
    d.touchedByPlayback cfg ev = false ↔
      (d.played ev (playbackRecord ev payload d.shared.now)).self.held = d.self.held ∧
        (d.failsFollowup ev = true → d.persists cfg = false ∧
          session.cancelledFor "tts_playback_failed" = session) := by
  rw [held_played_eq_iff]
  cases hh : d.self.activeSessionHistory <;> simp [Desk.touchedByPlayback, htype, hp, hs, hh]

theorem handleTtsPlaybackEvent_holds (h : Foreign d ev session)
    (htype : ev.eventType.isPlayback = true) (htouched : d.touchedByPlayback cfg ev = false) :
    Holds d (handleTtsPlaybackEvent cfg ev) := by
  cases hp : ev.payload.ttsPlayback with
  | error message =>
    unfold handleTtsPlaybackEvent
    mvcgen <;> simp_all
  | ok payload =>
    obtain ⟨hplayed, hfails⟩ := (touchedByPlayback_eq_false_iff cfg h.active htype hp).mp htouched
    refine (handleTtsPlaybackEvent_foreign h hp).mono ?_ ?_
    · intro _ d' hd'
      split at hd'
      · next hfail => simp [(hfails hfail).1] at hd'
      · rw [hd', hplayed]
    · rintro _ d' ⟨hfail, -, hheld⟩
      rw [← hheld, held_cancelled_played_eq_iff h.active]
      exact ⟨hplayed, (hfails hfail).2⟩

theorem handleTtsPlaybackEvent_touches (h : Foreign d ev session)
    (htouched : d.touchedByPlayback cfg ev = true) :
    Ends d (handleTtsPlaybackEvent cfg ev) (fun _ d' => d'.self.held ≠ d.self.held)
      fun _ d' => d'.self.held ≠ d.self.held := by
  have htype : ev.eventType.isPlayback = true := by
    simp only [Desk.touchedByPlayback, Bool.and_eq_true] at htouched
    exact htouched.1
  obtain ⟨payload, hp⟩ : ∃ payload, ev.payload.ttsPlayback = .ok payload := by
    cases hp : ev.payload.ttsPlayback with
    | error message => simp [Desk.touchedByPlayback, hp] at htouched
    | ok payload => exact ⟨payload, rfl⟩
  have hiff := touchedByPlayback_eq_false_iff cfg h.active htype hp
  rw [htouched] at hiff
  refine (handleTtsPlaybackEvent_foreign h hp).mono ?_ ?_
  · intro _ d' hd' heq
    split at hd'
    · have := congrArg Held.activeSession heq
      simp [hd'.1, h.active] at this
    · next hfail =>
      rw [hd'] at heq
      exact absurd (hiff.mpr ⟨heq, fun hf => absurd hf hfail⟩) (by simp)
  · rintro _ d' ⟨-, hraise, hheld⟩ heq
    rw [← hheld, held_cancelled_played_eq_iff h.active] at heq
    exact absurd (hiff.mpr ⟨heq.1, fun _ => ⟨hraise, heq.2⟩⟩) (by simp)

end foreign

/-! ### The manager -/

section manager

variable {cfg : Config} {ans : Answers} {transport : Transport} {i : RuntimeId}
  {ev : VoiceEventEnvelope} {v : VoiceSessionManager} {session : VoiceSessionSnapshot}

theorem onDesk_held {P : Held → Prop} {c : Local (List BackendEvent)}
    (h : Ends (v.desk i) c (fun _ d => P d.self.held) fun _ d => P d.self.held) :
    Ends v (onDesk i c) (fun _ v' => P (v'.sessions i).held) fun _ v' => P (v'.sessions i).held := by
  refine (onDesk_ends h).mono ?_ ?_
  · rintro _ _ ⟨d, rfl, hd⟩
    simpa using hd
  · rintro _ _ ⟨d, rfl, hd⟩
    simpa using hd

/-- Whatever comes of the computation, runtime `i` holds what it held. -/
abbrev ManagerHolds (v : VoiceSessionManager) (i : RuntimeId) (c : ManagerM (List BackendEvent)) :
    Prop :=
  Ends v c (fun _ v' => (v'.sessions i).held = (v.sessions i).held)
    fun _ v' => (v'.sessions i).held = (v.sessions i).held

theorem onDesk_holds {c : Local (List BackendEvent)} (h : Holds (v.desk i) c) :
    ManagerHolds v i (onDesk i c) :=
  onDesk_held (P := (· = (v.sessions i).held)) h

theorem handleAudioChunk_holds (h : Foreign (v.desk i) ev session) :
    ManagerHolds v i (handleAudioChunk cfg ans i ev) := by
  unfold handleAudioChunk
  refine .bind ((onDesk_ends (audioChunkUntilElection_holds cfg ans h)).mono
    (fun _ _ h => h) fun _ _ ⟨_, _, h⟩ => h.elim) ?_
  rintro _ _ ⟨d, rfl, rfl, es, rfl⟩
  exact .pure (by simp)

theorem handleWakeCandidate_holds (h : Foreign (v.desk i) ev session) :
    ManagerHolds v i (handleWakeCandidate cfg i ev) := by
  unfold handleWakeCandidate
  refine .bind ((onDesk_ends (wakeCandidateUntilElection_holds h)).mono
    (fun _ _ h => h) fun _ _ ⟨_, _, h⟩ => h.elim) ?_
  rintro _ _ ⟨d, rfl, rfl, es, rfl⟩
  exact .pure (by simp)

/-- The handler that a foreign event is dispatched to holds what the runtime held, but for the
events that touch it. -/
theorem dispatch_holds (h : Foreign (v.desk i) ev session)
    (hstart : ev.eventType = .sessionStart →
      (v.desk i).completesCapture ev = false ∧ (v.desk i).canReplace ev = false)
    (htouched : (v.desk i).touchedByPlayback cfg ev = false) :
    ManagerHolds v i (dispatch cfg ans i ev) := by
  unfold dispatch
  split
  case h_1 htype =>
    exact onDesk_holds (handleSessionStart_holds h (hstart htype).1 (hstart htype).2)
  case h_2 => exact handleAudioChunk_holds h
  case h_3 => exact onDesk_holds (handleAudioEnd_holds h)
  case h_4 => exact onDesk_holds (handleVadSpeechStarted_holds h)
  case h_5 => exact onDesk_holds handleVadSpeechEnded_holds
  case h_6 => exact handleWakeCandidate_holds h
  case h_7 => exact onDesk_holds (handleSessionCancel_holds h)
  case h_8 => exact onDesk_holds handleSessionPing_holds
  case h_9 => exact onDesk_holds handleCommandAck_holds
  case h_10 => exact onDesk_holds handleCommandError_holds
  case h_16 => exact onDesk_holds handleUiButtonPressed_holds
  case h_17 => exact onDesk_holds handleUiScreenChanged_holds
  case h_18 => rintro _ rfl; rfl
  all_goals
    next htype =>
      exact onDesk_holds (handleTtsPlaybackEvent_holds h (by rw [htype]; rfl) htouched)

/-- A capture that is completed has chunks, and a session that is replaced while it listens has
none. -/
theorem canReplace_of_completesCapture {d : Desk} (h : d.completesCapture ev = true) :
    d.canReplace ev = false := by
  obtain ⟨-, hcount, s, hs, hstate⟩ := completesCapture_capturing h
  rcases hstate with hstate | hstate
  · simp [Desk.canReplace, hs, hstate, hcount.ne']
  · simp [Desk.canReplace, hs, hstate]

/-- The playback events are all dispatched to one handler. -/
theorem dispatch_playback (htype : ev.eventType.isPlayback = true) :
    dispatch cfg ans i ev = onDesk i (handleTtsPlaybackEvent cfg ev) := by
  unfold dispatch
  split <;> first | rfl | simp_all [VoiceEventType.isPlayback]

theorem dispatch_sessionStart (htype : ev.eventType = .sessionStart) :
    dispatch cfg ans i ev = onDesk i (handleSessionStart cfg ans ev) := by
  unfold dispatch
  rw [htype]

/-- The active session is spared: the runtime holds what it held, or a `session.start` replaced
the session that it may replace. -/
def SparesActiveSession (cfg : Config) (ans : Answers) (transport : Transport) (i : RuntimeId)
    (ev : VoiceEventEnvelope) (v : VoiceSessionManager) : Prop :=
  ev.eventType = .sessionStart ∧ (v.desk i).canReplace ev = true ∨
    ((stateAfter (handleEndpointEvent cfg ans transport i ev) v).sessions i).held =
      (v.sessions i).held

/-- What becomes of a foreign event that the manager accepts. -/
theorem stateAfter_of_accepted (h : Foreign (v.desk i) ev session)
    (hr : v.registry.rejection i transport ev = none) :
    stateAfter (handleEndpointEvent cfg ans transport i ev) v =
      stateAfter (dispatch cfg ans i ev) (v.bound i ev.endpointId) := by
  unfold stateAfter
  rw [handleEndpointEvent_of_accepted hr, h.mergeEvent]

/-- A playback that touches the active session does not spare it. -/
theorem not_spares_of_touchedByPlayback (h : Foreign (v.desk i) ev session)
    (hr : v.registry.rejection i transport ev = none)
    (htouched : (v.desk i).touchedByPlayback cfg ev = true) :
    ¬ SparesActiveSession cfg ans transport i ev v := by
  have htype : ev.eventType.isPlayback = true := by
    simp only [Desk.touchedByPlayback, Bool.and_eq_true] at htouched
    exact htouched.1
  rintro (⟨hstart, -⟩ | hheld)
  · rw [hstart] at htype
    cases htype
  · rw [stateAfter_of_accepted h hr] at hheld
    refine (onDesk_held (v := v.bound i ev.endpointId) (P := (· ≠ (v.sessions i).held))
      (handleTtsPlaybackEvent_touches h htouched)).stateAfter ?_
    unfold stateAfter at hheld ⊢
    rwa [dispatch_playback htype] at hheld

/-- A `session.start` that completes the capture of the active session does not spare it. -/
theorem not_spares_of_completesCapture (h : Foreign (v.desk i) ev session)
    (hr : v.registry.rejection i transport ev = none)
    (hcapture : (v.desk i).completesCapture ev = true) :
    ¬ SparesActiveSession cfg ans transport i ev v := by
  rintro (⟨-, hreplace⟩ | hheld)
  · rw [canReplace_of_completesCapture hcapture] at hreplace
    cases hreplace
  · rw [stateAfter_of_accepted h hr] at hheld
    refine (onDesk_held (v := v.bound i ev.endpointId) (P := (· ≠ (v.sessions i).held))
      (handleSessionStart_completes _ cfg ans hcapture)).stateAfter ?_
    unfold stateAfter at hheld ⊢
    rwa [dispatch_sessionStart (completesCapture_capturing hcapture).1] at hheld

/-- **An event of another session spares the active one.** -/
theorem foreign_event_holds (h : Foreign (v.desk i) ev session) :
    SparesActiveSession cfg ans transport i ev v ↔
      ¬ (v.registry.rejection i transport ev = none ∧
        ((v.desk i).touchedByPlayback cfg ev = true ∨
          (v.desk i).completesCapture ev = true)) := by
  constructor
  · rintro hspares ⟨hr, htouched | hcapture⟩
    · exact not_spares_of_touchedByPlayback h hr htouched hspares
    · exact not_spares_of_completesCapture h hr hcapture hspares
  · intro hnot
    cases hr : v.registry.rejection i transport ev with
    | some error =>
      right
      unfold stateAfter
      rw [handleEndpointEvent_of_rejected hr]
    | none =>
      rw [hr] at hnot
      simp only [true_and, not_or, Bool.not_eq_true] at hnot
      by_cases hreplace : ev.eventType = .sessionStart ∧ (v.desk i).canReplace ev = true
      · exact .inl hreplace
      · right
        rw [stateAfter_of_accepted h hr]
        refine (dispatch_holds (v := v.bound i ev.endpointId) h (fun htype => ⟨hnot.2, ?_⟩)
          hnot.1).stateAfter
        rw [show (v.bound i ev.endpointId).desk i = v.desk i from rfl]
        simpa [htype] using hreplace

end manager

/-- The session of `kitchen`, while the answer that asks a follow-up is spoken. -/
def respondingSession : VoiceSessionSnapshot where
  serial := 0
  sessionId := "s"
  endpointId := "kitchen"
  sessionState := .responding
  startedAt := { micros := 0 }

/-- An event of a session of `kitchen` that is over. -/
def lateEvent (eventType : VoiceEventType) : VoiceEventEnvelope where
  eventType := eventType
  endpointId := "kitchen"
  sessionId := some "earlier"
  timestamp := { micros := 0 }

theorem foreign_event_holds_wakeCandidate :
    SparesActiveSession {} {} .webSocket (.connection 0) (lateEvent .wakeCandidate)
      (run (step {}) (.init {}) (utterance asksAgain)) := by
  have hforeign : Foreign ((run (step {}) (.init {}) (utterance asksAgain)).desk (.connection 0))
      (lateEvent .wakeCandidate) respondingSession :=
    ⟨by decide +kernel, ⟨"earlier", rfl, by decide⟩, by decide +kernel⟩
  exact (foreign_event_holds hforeign).mpr (by decide +kernel)

/-- The playback of an earlier session fails late: the active session, whose follow-up is yet to
be asked, is cancelled. -/
theorem late_failure_cancels :
    ¬ ∀ ev session, Foreign ((run (step {}) (.init {}) (utterance asksAgain)).desk (.connection 0))
        ev session →
      SparesActiveSession {} {} .webSocket (.connection 0) ev
        (run (step {}) (.init {}) (utterance asksAgain)) := by
  intro h
  have hforeign : Foreign ((run (step {}) (.init {}) (utterance asksAgain)).desk (.connection 0))
      (lateEvent .ttsPlaybackFailed) respondingSession :=
    ⟨by decide +kernel, ⟨"earlier", rfl, by decide⟩, by decide +kernel⟩
  exact not_spares_of_touchedByPlayback hforeign (by decide +kernel) (by decide +kernel)
    (h _ _ hforeign)

end HexeVoice.Voice
