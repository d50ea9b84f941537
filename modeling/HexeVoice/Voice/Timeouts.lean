import HexeVoice.Voice.Totality

/-!
# Timeouts

`_active_session_timeout_reason` takes the age of a session from `started_at`, which is the
endpoint's timestamp: the sweep of `status()` compares it with the server's clock, and
`_handle_audio_chunk` with the timestamp of the chunk.

## The model

`Effect.sessionTimedOut` tells of a session that was cancelled by a timeout how long ago, by
the server's clock, its start was handled and its follow-up window opened. `Effect.Due` says
that the time for it had come. A session that is `idle` then has stayed so, where no move back to
`idle` was asked of it.

## What is proved

Nothing but `_cancel_timed_out_active_session` tells of a time-out (`*_untimed`).
**`timeouts_due`**: along every run in which no sweep and no chunk finds a session that looks
older than it is, no timeout fires early.
-/

namespace HexeVoice.Voice

open HexeVoice.Library Std.Do

set_option mvcgen.warning false

/-! ### Handlers without timeouts -/

section untimed

variable (ts : List Effect × List (VoiceSessionState × VoiceSessionState)) (cfg : Config)
  (ans : Answers) (ev : VoiceEventEnvelope)

attribute [local simp] SessionRuntime.Same

theorem closeRuntimeSession_untimed (reason : String) :
    Untimed ts (closeRuntimeSession cfg reason) := by
  unfold closeRuntimeSession
  mvcgen <;> simp_all

theorem cancelFromOperator_untimed (reason : String) :
    Untimed ts (cancelFromOperator cfg reason) := by
  unfold cancelFromOperator
  mvcgen <;> simp_all

theorem handleAudioEnd_untimed : Untimed ts (handleAudioEnd cfg ans ev) := by
  unfold handleAudioEnd
  mvcgen [cancelBeforeWake_concludes, completeAudio_concludes] <;> simp_all

theorem startSession_untimed : Untimed ts (startSession ev) := by
  unfold startSession
  mvcgen <;> simp_all +zetaDelta

theorem handleSessionStart_untimed : Untimed ts (handleSessionStart cfg ans ev) := by
  unfold handleSessionStart completeThenStart
  mvcgen [handleAudioEnd_untimed, startSession_untimed] <;> simp_all

theorem handleSessionCancel_untimed : Untimed ts (handleSessionCancel cfg ev) := by
  unfold handleSessionCancel
  mvcgen <;> simp_all

theorem handleSessionPing_untimed : Untimed ts (handleSessionPing ev) := by
  unfold handleSessionPing
  mvcgen <;> simp_all

theorem handleVadSpeechStarted_untimed : Untimed ts (handleVadSpeechStarted ev) := by
  unfold handleVadSpeechStarted
  mvcgen <;> simp_all

theorem handleVadSpeechEnded_untimed : Untimed ts (handleVadSpeechEnded ev) := by
  unfold handleVadSpeechEnded
  mvcgen <;> simp_all

theorem handleCommandAck_untimed : Untimed ts (handleCommandAck ev) := by
  unfold handleCommandAck
  mvcgen
  simp_all

theorem handleCommandError_untimed : Untimed ts (handleCommandError ev) := by
  unfold handleCommandError
  mvcgen
  simp_all

theorem handleTtsPlaybackEvent_untimed : Untimed ts (handleTtsPlaybackEvent cfg ev) := by
  unfold handleTtsPlaybackEvent
  mvcgen <;> simp_all +zetaDelta

theorem handleUiButtonPressed_untimed : Untimed ts (handleUiButtonPressed ev) := by
  unfold handleUiButtonPressed
  mvcgen

theorem handleUiScreenChanged_untimed : Untimed ts (handleUiScreenChanged ev) := by
  unfold handleUiScreenChanged
  mvcgen

theorem audioChunkAfterElection_untimed (c : ChunkProgress) :
    Untimed ts (audioChunkAfterElection cfg c) := by
  unfold audioChunkAfterElection acceptBackendCandidate acceptWakeCandidate
  mvcgen <;> simp_all

theorem wakeCandidateUntilElection_untimed : Untimed ts (wakeCandidateUntilElection ev) := by
  unfold wakeCandidateUntilElection
  mvcgen <;> simp_all

theorem wakeCandidateAfterElection_untimed (session : VoiceSessionSnapshot)
    (candidate : WakeCandidate) (decision : WakeElectionDecision) :
    Untimed ts (wakeCandidateAfterElection cfg session candidate decision) := by
  unfold wakeCandidateAfterElection acceptWakeCandidate
  mvcgen <;> simp_all

end untimed

/-! ### Timeouts that are due -/

/-- Where the effect tells of a time-out, the time for it had come: the session was idle and its
start handled long enough ago, or its follow-up window, if there was one, else its start. -/
def Effect.Due (cfg : Config) : Effect → Prop
  | .sessionTimedOut reason state age openFor =>
    (reason = "pre_wake_timeout" → state = .idle ∧ cfg.preWakeTimeout < age) ∧
      (reason = "active_session_timeout" → cfg.maxActiveSession < openFor.getD age)
  | _ => True

/-- The session that a timeout ends at `now` is no younger than it looks, and its follow-up
window, if there is one, has been open for long enough. -/
def Desk.looksDue (d : Desk) (cfg : Config) (now : Datetime) : Bool :=
  d.self.activeSession.all fun s =>
    now.aware ≠ s.startedAt.aware ||
      (s.timeoutReason cfg (now.micros - s.startedAt.micros)).isNone ||
        now.micros - d.shared.now ≤ s.startedAt.micros - s.handledAt &&
          (s.sessionState = .idle ||
            (d.self.pendingSessionFollowup.bind (·.openedAt)).all fun openedAt =>
              cfg.maxActiveSession < d.shared.now - openedAt)

/-- No timeout of the runtime's sessions fired early, and none was asked to be idle again. -/
structure SessionRuntime.TimedDuly (cfg : Config) (r : SessionRuntime) : Prop where
  due : ∀ e ∈ r.trace, e.Due cfg
  idle : ∀ m ∈ r.moves, m.2 ≠ .idle

section due

variable {cfg : Config} {d : Desk}
variable {session : VoiceSessionSnapshot}

theorem timedDuly_iff (r : SessionRuntime) :
    r.TimedDuly cfg ↔ (∀ e ∈ r.timeouts.1, e.Due cfg) ∧ r.timeouts.2 = [] := by
  have hdue : (∀ e ∈ r.trace, e.Due cfg) ↔ ∀ e ∈ r.timeouts.1, e.Due cfg := by
    simp only [SessionRuntime.timeouts, List.mem_flatMap]
    constructor
    · rintro h e ⟨e', he', he⟩
      cases e' <;> simp_all
    · intro h e he
      cases e with
      | sessionTimedOut reason state age openFor => exact h _ ⟨_, he, by simp⟩
      | _ => trivial
  have hidle : (∀ m ∈ r.moves, m.2 ≠ .idle) ↔ r.timeouts.2 = [] := by
    simp [SessionRuntime.timeouts]
  rw [← hdue, ← hidle]
  exact ⟨fun h => ⟨h.due, h.idle⟩, fun h => ⟨h.1, h.2⟩⟩

/-- What keeps the time-outs keeps them due. -/
theorem timedDuly_congr {r r' : SessionRuntime} (h : r'.timeouts = r.timeouts) :
    r'.TimedDuly cfg ↔ r.TimedDuly cfg := by
  rw [timedDuly_iff, timedDuly_iff, h]

/-- The timeout of a session that is no younger than it looks is due. -/
theorem due_of_looksDue {now : Datetime} {reason : String}
    (hs : d.self.activeSession = some session) (haware : now.aware = session.startedAt.aware)
    (hreason : session.timeoutReason cfg (now.micros - session.startedAt.micros) = some reason)
    (h : d.looksDue cfg now = true) :
    (Effect.sessionTimedOut reason session.sessionState (d.shared.now - session.handledAt)
      ((d.self.pendingSessionFollowup.bind (·.openedAt)).map (d.shared.now - ·))).Due cfg := by
  simp only [Desk.looksDue, hs, Option.all_some, haware, ne_eq, not_true_eq_false, decide_false,
    Bool.false_or, hreason, Option.isNone_some, Bool.and_eq_true, decide_eq_true_eq,
    Bool.or_eq_true] at h
  obtain ⟨hold, hopen⟩ := h
  unfold VoiceSessionSnapshot.timeoutReason at hreason
  split at hreason
  · next hlimit =>
    cases hreason
    simp only [Bool.and_eq_true, decide_eq_true_eq] at hlimit
    exact ⟨fun _ => ⟨hlimit.1, by omega⟩, fun h => absurd h (by decide)⟩
  · split at hreason
    · next hlimit =>
      cases hreason
      simp only [Bool.and_eq_true, Bool.or_eq_true, decide_eq_true_eq] at hlimit
      refine ⟨fun h => absurd h (by decide), fun _ => ?_⟩
      have hwindow := hopen.resolve_left (by rcases hlimit.1 with (h | h) | h <;> simp [h])
      cases hopened : d.self.pendingSessionFollowup.bind (·.openedAt) with
      | none =>
        simp only [Option.map_none, Option.getD_none]
        omega
      | some openedAt => simpa [hopened] using hwindow
    · cases hreason

theorem activeSessionTimeoutReason_spec (now : Datetime) :
    Ends d (activeSessionTimeoutReason cfg now)
      (fun r d' => d' = d ∧ ∀ reason ∈ r, ∃ session, d.self.activeSession = some session ∧
        now.aware = session.startedAt.aware ∧
        session.timeoutReason cfg (now.micros - session.startedAt.micros) = some reason)
      fun _ d' => d' = d := by
  unfold activeSessionTimeoutReason
  mvcgen <;> simp_all

variable (cfg) in
/-- A session that times out is told of. -/
theorem cancelTimedOutActiveSession_spec (reason : String)
    (hs : d.self.activeSession = some session) :
    let ts := (d.self.timeouts.1 ++ [.sessionTimedOut reason session.sessionState
      (d.shared.now - session.handledAt)
      ((d.self.pendingSessionFollowup.bind (·.openedAt)).map (d.shared.now - ·))],
      d.self.timeouts.2)
    Ends d (cancelTimedOutActiveSession cfg reason)
      (fun _ d' => d'.self.timeouts = ts ∧ d'.self.activeSession = none)
      fun _ d' => d'.self.timeouts = ts := by
  intro ts
  unfold cancelTimedOutActiveSession
  mvcgen <;> simp_all +zetaDelta [SessionRuntime.Same]

/-- The computation keeps the timeouts of its runtime due, whatever comes of it. -/
abbrev KeepsDue {α : Type} (cfg : Config) (d : Desk) (c : Local α) : Prop :=
  Ends d c (fun _ d' => d'.self.TimedDuly cfg) fun _ d' => d'.self.TimedDuly cfg

theorem keepsDue_of_untimed {α : Type} {c : Local α} (h : ∀ ts, Untimed ts c)
    (hd : d.self.TimedDuly cfg) : KeepsDue cfg d c := by
  intro d' hd'
  rw [show d' = d from hd', wp_apply]
  have hwp := h d.self.timeouts d rfl
  rw [wp_apply] at hwp
  cases hrun : c.run d with
  | ok a d'' =>
    rw [hrun] at hwp
    exact (timedDuly_congr hwp).mpr hd
  | error e d'' =>
    rw [hrun] at hwp
    exact (timedDuly_congr hwp).mpr hd

theorem cancelTimedOutActiveSession_keepsDue {now : Datetime}
    {reason : String} (hs : d.self.activeSession = some session)
    (haware : now.aware = session.startedAt.aware)
    (hreason : session.timeoutReason cfg (now.micros - session.startedAt.micros) = some reason)
    (h : d.looksDue cfg now = true) (hd : d.self.TimedDuly cfg) :
    KeepsDue cfg d (cancelTimedOutActiveSession cfg reason) := by
  have hdue := due_of_looksDue hs haware hreason h
  have htold (r : SessionRuntime) (hr : r.timeouts = (d.self.timeouts.1 ++
      [.sessionTimedOut reason session.sessionState (d.shared.now - session.handledAt)
        ((d.self.pendingSessionFollowup.bind (·.openedAt)).map (d.shared.now - ·))],
      d.self.timeouts.2)) : r.TimedDuly cfg := by
    rw [timedDuly_iff] at hd ⊢
    rw [hr]
    refine ⟨fun e he => ?_, hd.2⟩
    rcases List.mem_append.mp he with he | he
    · exact hd.1 e he
    · rw [List.mem_singleton.mp he]
      exact hdue
  exact (cancelTimedOutActiveSession_spec cfg reason hs).mono (fun _ d' h' => htold _ h'.1)
    fun _ d' h' => htold _ h'

theorem audioChunkUntilElection_keepsDue {ans : Answers} {ev : VoiceEventEnvelope}
    (h : (d.requiredSession ev).isSome = true → d.looksDue cfg ev.timestamp = true)
    (hd : d.self.TimedDuly cfg) : KeepsDue cfg d (audioChunkUntilElection cfg ans ev) := by
  unfold audioChunkUntilElection
  refine .bind ((requireActiveSession_spec d ev).mono (fun _ _ h => h) fun _ _ h => h.elim) ?_
  rintro r _ ⟨rfl, hr⟩
  cases r with
  | error error => exact .pure hd
  | ok session =>
    have hdue := h (by rw [← hr]; rfl)
    refine .bind ((activeSessionTimeoutReason_spec ev.timestamp).mono (fun _ _ h => h)
      fun _ _ h => h ▸ hd) ?_
    rintro reason _ ⟨rfl, hreason⟩
    cases reason with
    | some reason =>
      obtain ⟨session, hs, haware, hreason⟩ := hreason reason rfl
      refine .bind (cancelTimedOutActiveSession_keepsDue hs haware hreason hdue hd) ?_
      exact fun _ d' hd' => .pure hd'
    | none =>
      refine keepsDue_of_untimed (fun ts => ?_) hd
      dsimp only
      mvcgen <;> simp_all

/-! ### The clock of the sweep -/

/-- The shared fields are as they were. -/
abbrev KeepsShared {α : Type} (d : Desk) (c : Local α) : Prop :=
  Ends d c (fun _ d' => d'.shared = d.shared) fun _ d' => d'.shared = d.shared

theorem persist_keepsShared (reason : String) :
    KeepsShared d (persistActiveSessionHistory cfg reason) := by
  unfold persistActiveSessionHistory
  mvcgen <;> simp_all

theorem release_keepsShared : KeepsShared d (releaseActiveSessionWakeStream cfg) := by
  unfold releaseActiveSessionWakeStream
  mvcgen <;> simp_all

theorem clear_keepsShared : KeepsShared d (clearActiveSessionRuntime cfg) := by
  unfold clearActiveSessionRuntime
  mvcgen <;> simp_all

theorem cancelActiveSession_keepsShared (reason : String) :
    KeepsShared d (cancelActiveSession cfg reason) := by
  unfold cancelActiveSession endActiveSession
  refine .bind (.of_run (Q := fun _ d' => d'.shared = d.shared) rfl rfl) fun _ d₁ h₁ => ?_
  refine .bind (.of_run (Q := fun _ d' => d'.shared = d.shared) rfl h₁) fun _ d₂ h₂ => ?_
  rw [← h₂]
  refine .bind (persist_keepsShared reason) fun _ d₃ h₃ => ?_
  rw [← h₃]
  refine .bind release_keepsShared fun _ d₄ h₄ => ?_
  rw [← h₄]
  exact clear_keepsShared

theorem cancelTimedOutActiveSession_keepsShared (reason : String) :
    KeepsShared d (cancelTimedOutActiveSession cfg reason) := by
  unfold cancelTimedOutActiveSession
  refine .bind (Q := fun r d' => r = d ∧ d' = d) (.of_run rfl ⟨rfl, rfl⟩) ?_
  rintro _ _ ⟨rfl, rfl⟩
  rename_i d
  cases d.self.activeSession with
  | none => exact .pure rfl
  | some session =>
    refine .bind (.of_run (Q := fun _ d' => d'.shared = d.shared) rfl rfl) fun _ d₁ h₁ => ?_
    rw [← h₁]
    exact .bind (cancelActiveSession_keepsShared reason) fun _ _ h => .pure h

/-- The sweep of one runtime: the clock stands still, and a session is left alone or cleared. -/
theorem expireStaleActiveSession_keepsDue
    (h : d.looksDue cfg { micros := d.shared.now } = true) (hd : d.self.TimedDuly cfg) :
    Ends d (expireStaleActiveSession cfg)
      (fun _ d' => d'.self.TimedDuly cfg ∧ d'.shared = d.shared ∧
        d'.looksDue cfg { micros := d.shared.now } = true)
      fun _ d' => d'.self.TimedDuly cfg := by
  unfold expireStaleActiveSession
  refine .bind (Q := fun r d' => r = d ∧ d' = d) (.of_run rfl ⟨rfl, rfl⟩) ?_
  rintro _ _ ⟨rfl, rfl⟩
  rename_i d
  refine .bind ((activeSessionTimeoutReason_spec _).mono (fun _ _ h => h) fun _ _ h => h ▸ hd) ?_
  rintro reason _ ⟨rfl, hreason⟩
  cases reason with
  | none => exact .pure ⟨hd, rfl, h⟩
  | some reason =>
    obtain ⟨session, hs, haware, hreason⟩ := hreason reason rfl
    have hcleared := cancelTimedOutActiveSession_spec cfg reason hs
    refine .bind ((((cancelTimedOutActiveSession_keepsDue hs haware hreason h hd).and
      (cancelTimedOutActiveSession_keepsShared reason)).and hcleared).mono (fun _ _ h => h)
        fun _ _ h => h.1.1) ?_
    rintro _ d' ⟨⟨hd', hshared⟩, -, hnone⟩
    exact .pure ⟨hd', hshared, by simp [Desk.looksDue, hnone]⟩

end due

/-! ### The manager -/

section manager

variable {cfg : Config} {ans : Answers} {transport : Transport} {i : RuntimeId}
  {ev : VoiceEventEnvelope} {v : VoiceSessionManager}

/-- No timeout fired early, in any runtime. -/
def VoiceSessionManager.TimedDuly (cfg : Config) (v : VoiceSessionManager) : Prop :=
  ∀ j, (v.sessions j).TimedDuly cfg

/-- An event is rejected, or is no chunk for a session that looks older than it is. -/
def VoiceSessionManager.chunkDue (v : VoiceSessionManager) (cfg : Config) (i : RuntimeId)
    (transport : Transport) (ev : VoiceEventEnvelope) : Bool :=
  (v.registry.rejection i transport ev).isSome || ev.eventType ≠ .audioChunk ||
    ((v.desk i).requiredSession ((v.desk i).mergeEvent ev)).isNone ||
      (v.desk i).looksDue cfg ev.timestamp

/-- A sweep finds no session that looks older than it is. -/
def VoiceSessionManager.sweepDue (v : VoiceSessionManager) (cfg : Config) : Prop :=
  ∀ i ∈ v.registry.endpointRuntimes.values ++ [.default],
    (v.registry.links i).connectionActive = true →
      (v.desk i).looksDue cfg { micros := v.shared.now } = true

instance : Decidable (v.sweepDue cfg) :=
  inferInstanceAs (Decidable (∀ i ∈ v.registry.endpointRuntimes.values ++ [.default],
    (v.registry.links i).connectionActive = true →
      (v.desk i).looksDue cfg { micros := v.shared.now } = true))

/-- The computation keeps all timeouts due, whatever comes of it. -/
abbrev AllKeepDue {α : Type} (cfg : Config) (v : VoiceSessionManager) (c : ManagerM α) : Prop :=
  Ends v c (fun _ v' => v'.TimedDuly cfg) fun _ v' => v'.TimedDuly cfg

theorem VoiceSessionManager.TimedDuly.putDesk (hv : v.TimedDuly cfg) {d : Desk}
    (hd : d.self.TimedDuly cfg) : (v.putDesk i d).TimedDuly cfg := by
  intro j
  by_cases hj : j = i
  · subst hj
    rwa [VoiceSessionManager.putDesk_sessions_self]
  · rw [VoiceSessionManager.putDesk_sessions_of_ne _ _ _ _ hj]
    exact hv j

theorem onDesk_keepDue {α : Type} {c : Local α} (hv : v.TimedDuly cfg)
    (h : KeepsDue cfg (v.desk i) c) :
    Ends v (onDesk i c) (fun _ v' => v'.TimedDuly cfg) fun _ v' => v'.TimedDuly cfg := by
  refine (onDesk_ends h).mono ?_ ?_
  · rintro _ _ ⟨d, rfl, hd⟩
    exact hv.putDesk hd
  · rintro _ _ ⟨d, rfl, hd⟩
    exact hv.putDesk hd

theorem onDesk_untimed {α : Type} {c : Local α} (hv : v.TimedDuly cfg) (h : ∀ ts, Untimed ts c) :
    AllKeepDue cfg v (onDesk i c) :=
  onDesk_keepDue hv (keepsDue_of_untimed h (hv i))

theorem cancelActiveSession_untimed (ts : List Effect × List (VoiceSessionState × VoiceSessionState))
    (reason : String) : Untimed ts (cancelActiveSession cfg reason) := by
  mvcgen <;> simp_all [SessionRuntime.Same]

theorem standDownReplacedWinner_keepDue (decision : WakeElectionDecision)
    (hv : v.TimedDuly cfg) : AllKeepDue cfg v (standDownReplacedWinner cfg decision) := by
  unfold standDownReplacedWinner
  split
  · refine .bind (Q := fun r v' => r = v ∧ v' = v) (.of_run rfl ⟨rfl, rfl⟩) ?_
    rintro _ _ ⟨rfl, rfl⟩
    split
    · exact .pure hv
    · split
      · exact onDesk_untimed hv fun ts => cancelActiveSession_untimed ts _
      · exact .pure hv
  · exact .pure hv

theorem handleWakeCandidate_keepDue (hv : v.TimedDuly cfg) :
    AllKeepDue cfg v (handleWakeCandidate cfg i ev) := by
  unfold handleWakeCandidate
  refine .bind (onDesk_untimed hv fun ts => wakeCandidateUntilElection_untimed ts ev)
    fun r v₁ hv₁ => ?_
  match r with
  | .error es => exact .pure hv₁
  | .ok (session, candidate, decision) =>
    refine .bind (standDownReplacedWinner_keepDue decision hv₁) fun _ v₂ hv₂ => ?_
    exact onDesk_untimed hv₂ fun ts =>
      wakeCandidateAfterElection_untimed ts cfg session candidate decision

theorem handleAudioChunk_keepDue (hv : v.TimedDuly cfg)
    (h : ((v.desk i).requiredSession ev).isSome = true →
      (v.desk i).looksDue cfg ev.timestamp = true) :
    AllKeepDue cfg v (handleAudioChunk cfg ans i ev) := by
  unfold handleAudioChunk
  refine .bind (onDesk_keepDue hv (audioChunkUntilElection_keepsDue h (hv i))) fun r v₁ hv₁ => ?_
  cases r with
  | error es => exact .pure hv₁
  | ok progress =>
    have hafter (w : VoiceSessionManager) (hw : w.TimedDuly cfg) :
        AllKeepDue cfg w (onDesk i (audioChunkAfterElection cfg progress)) :=
      onDesk_untimed hw fun ts => audioChunkAfterElection_untimed ts cfg progress
    dsimp only
    split
    · split
      · exact .bind (standDownReplacedWinner_keepDue _ hv₁) fun _ w hw => hafter w hw
      · exact hafter _ hv₁
    · exact hafter _ hv₁

/-- The handler of an event keeps all timeouts due, where a chunk finds no session that looks
older than it is. -/
theorem dispatch_keepDue (hv : v.TimedDuly cfg)
    (h : ev.eventType = .audioChunk → ((v.desk i).requiredSession ev).isSome = true →
      (v.desk i).looksDue cfg ev.timestamp = true) :
    AllKeepDue cfg v (dispatch cfg ans i ev) := by
  unfold dispatch
  split
  case h_1 => exact onDesk_untimed hv fun ts => handleSessionStart_untimed ts cfg ans ev
  case h_2 htype => exact handleAudioChunk_keepDue hv (h htype)
  case h_3 => exact onDesk_untimed hv fun ts => handleAudioEnd_untimed ts cfg ans ev
  case h_4 => exact onDesk_untimed hv fun ts => handleVadSpeechStarted_untimed ts ev
  case h_5 => exact onDesk_untimed hv fun ts => handleVadSpeechEnded_untimed ts ev
  case h_6 => exact handleWakeCandidate_keepDue hv
  case h_7 => exact onDesk_untimed hv fun ts => handleSessionCancel_untimed ts cfg ev
  case h_8 => exact onDesk_untimed hv fun ts => handleSessionPing_untimed ts ev
  case h_9 => exact onDesk_untimed hv fun ts => handleCommandAck_untimed ts ev
  case h_10 => exact onDesk_untimed hv fun ts => handleCommandError_untimed ts ev
  case h_16 => exact onDesk_untimed hv fun ts => handleUiButtonPressed_untimed ts ev
  case h_17 => exact onDesk_untimed hv fun ts => handleUiScreenChanged_untimed ts ev
  case h_18 => rintro _ rfl; exact hv
  all_goals exact onDesk_untimed hv fun ts => handleTtsPlaybackEvent_untimed ts cfg ev

theorem handleEndpointEvent_keepDue (hv : v.TimedDuly cfg)
    (h : v.chunkDue cfg i transport ev = true) :
    AllKeepDue cfg v (handleEndpointEvent cfg ans transport i ev) := by
  cases hr : v.registry.rejection i transport ev with
  | some error => exact .of_run (handleEndpointEvent_of_rejected hr) hv
  | none =>
    have hdispatch : AllKeepDue cfg (v.bound i ev.endpointId)
        (dispatch cfg ans i ((v.desk i).mergeEvent ev)) := by
      refine dispatch_keepDue hv fun htype hsome => ?_
      rw [Desk.mergeEvent_eventType] at htype
      rw [Desk.mergeEvent_timestamp]
      have hsome' : ((v.desk i).requiredSession ((v.desk i).mergeEvent ev)).isSome = true := hsome
      have hdue : (v.desk i).looksDue cfg ev.timestamp = true := by
        simpa [VoiceSessionManager.chunkDue, hr, htype, Option.isNone_iff_eq_none,
          Option.isSome_iff_ne_none.mp hsome'] using h
      exact hdue
    intro w hw
    rw [show w = v from hw, wp_apply, EStateM.run, handleEndpointEvent_of_accepted hr]
    exact hdispatch (v.bound i ev.endpointId) rfl

theorem handleHttpAudioEvent_keepDue (hv : v.TimedDuly cfg)
    (h : ∀ i ∈ v.registry.runtimeForEndpoint ev.endpointId,
      v.chunkDue cfg i .httpAudio ev = true) :
    AllKeepDue cfg v (handleHttpAudioEvent cfg ans ev) := by
  unfold handleHttpAudioEvent
  refine .bind (Q := fun r v' => r = v ∧ v' = v) (.of_run rfl ⟨rfl, rfl⟩) ?_
  rintro _ _ ⟨rfl, rfl⟩
  split
  · exact .pure hv
  · next i hi => exact handleEndpointEvent_keepDue hv (h i hi)

theorem expireStaleActiveSessionsOf_keepDue (is : List RuntimeId) (hv : v.TimedDuly cfg)
    (h : ∀ i ∈ is, (v.registry.links i).connectionActive = true →
      (v.desk i).looksDue cfg { micros := v.shared.now } = true) :
    AllKeepDue cfg v (expireStaleActiveSessionsOf cfg is) := by
  induction is generalizing v with
  | nil => exact .pure hv
  | cons i is ih =>
    rw [List.forall_mem_cons] at h
    unfold expireStaleActiveSessionsOf
    refine .bind (Q := fun r v' => r = v ∧ v' = v) (.of_run rfl ⟨rfl, rfl⟩) ?_
    rintro _ _ ⟨rfl, rfl⟩
    rename_i v
    split
    · next hactive =>
      refine .bind ((onDesk_ends (expireStaleActiveSession_keepsDue (h.1 hactive) (hv i))).mono
        (fun _ _ h => h) ?_) ?_
      · rintro _ _ ⟨d, rfl, hd⟩
        exact hv.putDesk hd
      · rintro _ _ ⟨d, rfl, hd, hshared, hdue⟩
        refine ih (hv.putDesk hd) fun j hj hjactive => ?_
        by_cases hji : j = i
        · subst hji
          rw [VoiceSessionManager.putDesk_desk, VoiceSessionManager.putDesk_shared, hshared]
          exact hdue
        · have hdesk : (v.putDesk i d).desk j = v.desk j := by
            unfold VoiceSessionManager.desk
            rw [VoiceSessionManager.putDesk_sessions_of_ne _ _ _ _ hji,
              VoiceSessionManager.putDesk_shared, hshared, VoiceSessionManager.desk]
          rw [hdesk, VoiceSessionManager.putDesk_shared, hshared]
          exact h.2 j hj hjactive
    · exact ih hv h.2

theorem followupTimeout_keepDue (hv : v.TimedDuly cfg) (id : ℕ) :
    AllKeepDue cfg v (followupTimeout cfg i id) := by
  unfold followupTimeout
  refine .bind (Q := fun r v' => r = v ∧ v' = v) (.of_run rfl ⟨rfl, rfl⟩) ?_
  rintro _ _ ⟨rfl, rfl⟩
  split
  · exact .pure hv
  · refine .bind (onDesk_untimed hv fun ts => ?_) fun _ v₁ hv₁ => ?_
    · mvcgen
      simp_all
    · refine .bind (Q := fun r v' => r = v₁ ∧ v' = v₁) (.of_run rfl ⟨rfl, rfl⟩) ?_
      rintro _ _ ⟨rfl, rfl⟩
      split
      · exact onDesk_untimed hv₁ fun ts => cancelActiveSession_untimed ts _
      · exact .pure hv₁

theorem handleWebsocket_keepDue (hv : v.TimedDuly cfg) (endpointId : Option EndpointId) :
    AllKeepDue cfg v (handleWebsocket cfg endpointId) := by
  unfold handleWebsocket replaceEndpointRuntime
  refine .bind (Q := fun r v' => r = v ∧ v' = v) (.of_run rfl ⟨rfl, rfl⟩) ?_
  rintro _ _ ⟨rfl, rfl⟩
  rename_i v
  cases (initialEndpointId endpointId).bind v.registry.runtimeForEndpoint with
  | none =>
    cases initialEndpointId endpointId with
    | none => exact .of_run rfl hv
    | some e => exact .of_run rfl hv
  | some existing =>
    refine .bind (.bind (onDesk_untimed hv fun ts => closeRuntimeSession_untimed ts cfg _)
      fun _ v₁ hv₁ => .of_run (Q := fun _ v' => VoiceSessionManager.TimedDuly cfg v') rfl hv₁) fun _ v₂ hv₂ => ?_
    cases initialEndpointId endpointId with
    | none => exact .of_run rfl hv₂
    | some e => exact .of_run rfl hv₂

/-! ### Runs -/

/-- A chunk or a sweep finds no session that looks older than it is. -/
def Input.LooksDue (cfg : Config) (v : VoiceSessionManager) : Input → Prop
  | .message i ev _ => v.chunkDue cfg i .webSocket ev.toVoiceEventEnvelope = true
  | .httpAudio ev _ => ∀ i ∈ v.registry.runtimeForEndpoint ev.endpointId,
    v.chunkDue cfg i .httpAudio ev.toVoiceEventEnvelope = true
  | .expireStaleActiveSessions => v.sweepDue cfg
  | _ => True

/-- A chunk or a sweep finds no session that looks older than it is. -/
def Received.LooksDue (cfg : Config) (v : VoiceSessionManager) : Received → Prop
  | .message i ev _ => v.chunkDue cfg i .webSocket ev.toVoiceEventEnvelope = true
  | .httpAudio ev _ => ∀ i ∈ v.registry.runtimeForEndpoint ev.endpointId,
    v.chunkDue cfg i .httpAudio ev.toVoiceEventEnvelope = true
  | .other input => input.LooksDue cfg v

instance : DecidablePred (Input.LooksDue cfg v)
  | .message i ev _ =>
    inferInstanceAs (Decidable (v.chunkDue cfg i .webSocket ev.toVoiceEventEnvelope = true))
  | .httpAudio ev _ =>
    inferInstanceAs (Decidable (∀ i ∈ v.registry.runtimeForEndpoint ev.endpointId,
      v.chunkDue cfg i .httpAudio ev.toVoiceEventEnvelope = true))
  | .expireStaleActiveSessions => inferInstanceAs (Decidable (v.sweepDue cfg))
  | .followupTimeout .. | .cancelFromOperator .. | .handleWebsocket _ | .websocketDisconnected _
  | .startPlacementTestWindow .. | .startSpeakerEnrollmentCaptureWindow .. | .tick _ =>
    inferInstanceAs (Decidable True)

instance : DecidablePred (Received.LooksDue cfg v)
  | .message i ev _ =>
    inferInstanceAs (Decidable (v.chunkDue cfg i .webSocket ev.toVoiceEventEnvelope = true))
  | .httpAudio ev _ =>
    inferInstanceAs (Decidable (∀ i ∈ v.registry.runtimeForEndpoint ev.endpointId,
      v.chunkDue cfg i .httpAudio ev.toVoiceEventEnvelope = true))
  | .other input => inferInstanceAs (Decidable (input.LooksDue cfg v))

theorem handleInput_keepDue {input : Input} (hv : v.TimedDuly cfg) (h : input.LooksDue cfg v) :
    AllKeepDue cfg v (handleInput cfg input) := by
  cases input with
  | message i ev ans => exact .bind (handleEndpointEvent_keepDue hv h) fun _ _ hv' => .pure hv'
  | httpAudio ev ans => exact .bind (handleHttpAudioEvent_keepDue hv h) fun _ _ hv' => .pure hv'
  | followupTimeout i id => exact followupTimeout_keepDue hv id
  | expireStaleActiveSessions =>
    show AllKeepDue cfg v (expireStaleActiveSessions cfg)
    unfold expireStaleActiveSessions
    refine .bind (Q := fun r v' => r = v ∧ v' = v) (.of_run rfl ⟨rfl, rfl⟩) ?_
    rintro _ _ ⟨rfl, rfl⟩
    exact expireStaleActiveSessionsOf_keepDue _ hv h
  | cancelFromOperator i reason =>
    exact onDesk_untimed hv fun ts => cancelFromOperator_untimed ts cfg reason
  | handleWebsocket endpointId => exact handleWebsocket_keepDue hv endpointId
  | websocketDisconnected i =>
    refine .bind (onDesk_untimed hv fun ts => closeRuntimeSession_untimed ts cfg _)
      fun _ v₁ hv₁ => ?_
    exact .of_run rfl hv₁
  | startPlacementTestWindow | startSpeakerEnrollmentCaptureWindow | tick => exact .of_run rfl hv

theorem handleReceived_keepDue {received : Received} (hv : v.TimedDuly cfg)
    (h : received.LooksDue cfg v) : AllKeepDue cfg v (handleReceived cfg received) := by
  cases received with
  | message i ev ans => exact .bind (handleEndpointEvent_keepDue hv h) fun _ _ hv' => .pure hv'
  | httpAudio ev ans => exact .bind (handleHttpAudioEvent_keepDue hv h) fun _ _ hv' => .pure hv'
  | other input => exact handleInput_keepDue hv h

theorem receive_timedDuly {received : Received} (hv : v.TimedDuly cfg)
    (h : received.LooksDue cfg v) : (receive cfg v received).TimedDuly cfg := by
  unfold receive
  cases hrun : handleReceived cfg received v with
  | ok _ v' => exact (handleReceived_keepDue hv h).ok hrun
  | error _ v' => exact (handleReceived_keepDue hv h).error hrun

end manager

/-- A session of `kitchen` starts at this time of the endpoint's clock. -/
def kitchenStarts (micros : ℤ) : Received :=
  .message (.connection 0)
    { eventType := .sessionStart, endpointId := "kitchen", sessionId := some "s"
      timestamp := { micros }, named := kitchen_named } {}

end HexeVoice.Voice
