import HexeVoice.Library.Returns
import HexeVoice.Voice.Occasion
import HexeVoice.Voice.SessionMachine

/-!
# The handlers refine the session machine

## The model

`Permitted` says of each action of the session machine what is known where a handler takes
it: the condition on the event, on the desk it was handled at and on the session then.

## What is proved

Each handler of `Handlers` returns, and what it did to its runtime is a run of permitted
actions: `handleSessionStart_does`, `handleAudioEnd_does` and so on, one lemma a handler.
-/

namespace HexeVoice.Voice

open HexeVoice.Library

variable {d : Desk} {ev : VoiceEventEnvelope} {session : VoiceSessionSnapshot}

/-! ### Running the primitive computations -/

section primitives

variable (d : Desk) (Q : PUnit → Desk → Prop)

@[simp] theorem returns_modifySelf (f : SessionRuntime → SessionRuntime) :
    Returns (modifySelf f) d Q ↔ Q ⟨⟩ { d with self := f d.self } := by
  simp [modifySelf]

@[simp] theorem returns_modifyShared (f : Shared → Shared) :
    Returns (modifyShared f) d Q ↔ Q ⟨⟩ { d with shared := f d.shared } := by
  simp [modifyShared]

@[simp] theorem returns_emit (e : Effect) :
    Returns (emit e) d Q ↔ Q ⟨⟩ { d with self := d.self.record e } := by
  simp [emit]

@[simp] theorem returns_setSessionState (next : VoiceSessionState) :
    Returns (setSessionState next) d Q ↔ Q ⟨⟩ { d with self := d.self.setSessionState next } := by
  simp [setSessionState]

@[simp] theorem returns_drawUuid (Q : ℕ → Desk → Prop) :
    Returns drawUuid d Q ↔
      Q d.shared.uuid { d with shared := { d.shared with uuid := d.shared.uuid + 1 } } := by
  simp [drawUuid]

@[simp] theorem returns_currentSession (session : VoiceSessionSnapshot)
    (Q : VoiceSessionSnapshot → Desk → Prop) :
    Returns (currentSession session) d Q ↔ Q (d.self.activeSession.getD session) d := by
  simp [currentSession]

end primitives

/-! ### What a session's start says of its clock -/

/-- The session was started with a timezone-aware timestamp, so that it can be timed. -/
def SessionView.Steady (v : SessionView) : Prop := ∀ s ∈ v.session, s.startedAt.aware = true

/-- Two desks that differ in the runtime's quiet effects alone. -/
def Desk.Quiet (d d' : Desk) : Prop :=
  ∃ es : List Effect, (∀ e ∈ es, e.isLife = false ∧ e.decision? = none) ∧
    d' = { d with self := { d.self with trace := d.self.trace ++ es } }

namespace Desk.Quiet

theorem refl (d : Desk) : d.Quiet d := ⟨[], by simp, by simp⟩

theorem emit (d : Desk) {e : Effect} (h : e.isLife = false) (h' : e.decision? = none) :
    d.Quiet { d with self := d.self.record e } :=
  ⟨[e], by simp [h, h'], rfl⟩

theorem trans {a b c : Desk} (h₁ : a.Quiet b) (h₂ : b.Quiet c) : a.Quiet c := by
  obtain ⟨es, hes, rfl⟩ := h₁
  obtain ⟨es', hes', rfl⟩ := h₂
  refine ⟨es ++ es', fun e he => ?_, by simp⟩
  exact (List.mem_append.mp he).elim (hes e) (hes' e)

variable {d d' : Desk} (h : d.Quiet d')
include h

theorem shared : d'.shared = d.shared := by obtain ⟨es, -, rfl⟩ := h; rfl

theorem isPlacementTest : d'.self.isPlacementTest = d.self.isPlacementTest := by
  obtain ⟨es, -, rfl⟩ := h; rfl

theorem isSpeakerEnrollmentCapture :
    d'.self.isSpeakerEnrollmentCapture = d.self.isSpeakerEnrollmentCapture := by
  obtain ⟨es, -, rfl⟩ := h; rfl

theorem audioSummary (s : VoiceSessionSnapshot) :
    d'.self.audioSummary s = d.self.audioSummary s := by obtain ⟨es, -, rfl⟩ := h; rfl

theorem view : d'.self.view = d.self.view := by
  obtain ⟨es, hes, rfl⟩ := h
  have hlife : es.filter (·.isLife) = [] := by
    simp only [List.filter_eq_nil_iff]
    exact fun e he => by simp [(hes e he).1]
  have hdecision : es.filterMap (·.decision?) = [] := by
    simp only [List.filterMap_eq_nil_iff]
    exact fun e he => (hes e he).2
  simp [SessionRuntime.view, hlife, hdecision]

end Desk.Quiet

/-! ### Ending a session -/

section ending

variable (cfg : Config) (d : Desk)

theorem persist_quiet (reason : String) (h : d.self.view.Steady) :
    Returns (persistActiveSessionHistory cfg reason) d fun _ d' => d.Quiet d' := by
  unfold persistActiveSessionHistory
  rw [returns_bind, returns_get]
  cases hs : d.self.activeSession with
  | none => simpa using Desk.Quiet.refl d
  | some session =>
    have haware : session.startedAt.aware = true := h session.core (by simp [SessionRuntime.view, hs])
    cases hh : d.self.activeSessionHistory with
    | none => simpa using Desk.Quiet.refl d
    | some history =>
      by_cases hc : cfg.sessionHistoryStore
      · simp only [hc, if_true, Datetime.sub, haware, returns_bind, returns_pure, returns_emit]
        exact Desk.Quiet.emit d rfl rfl
      · simpa [hc] using Desk.Quiet.refl d

theorem release_quiet :
    Returns (releaseActiveSessionWakeStream cfg) d fun _ d' => d.Quiet d' := by
  unfold releaseActiveSessionWakeStream
  rw [returns_bind, returns_get]
  cases hs : d.self.activeSession with
  | none => simpa using Desk.Quiet.refl d
  | some session =>
    have hclosed := Desk.Quiet.emit d (e := .wakeStreamClosed session.sessionId) rfl rfl
    by_cases hc : cfg.wakeRecorder
    · simpa [hc] using hclosed.trans (Desk.Quiet.emit _ rfl rfl)
    · simpa [hc] using hclosed

theorem clear_returns :
    Returns (clearActiveSessionRuntime cfg) d fun _ d' =>
      d'.shared = d.shared ∧ d'.self.view = d.self.view.clear ∧ d'.self.activeSession = none := by
  unfold clearActiveSessionRuntime
  simp only [returns_bind, returns_modifySelf, returns_get]
  cases hs : d.self.activeSession with
  | none =>
    simp [SessionRuntime.view, SessionRuntime.cleared, SessionView.clear,
      SessionView.cancelTask, SessionRuntime.cancelFollowupTimeoutTask, hs]
  | some session =>
    have hs' : d.self.cancelFollowupTimeoutTask.activeSession = some session := hs
    simp only [hs']
    by_cases hc : cfg.microVadChunkRecorder <;>
      simp [hc, hs, SessionRuntime.view, SessionRuntime.cleared, SessionView.clear,
        SessionView.cancelTask, SessionRuntime.cancelFollowupTimeoutTask, SessionRuntime.record,
        Effect.isLife, Effect.decision?]

/-- A session that ends is cleared. -/
theorem endActiveSession_returns (reason : String) (h : d.self.view.Steady) :
    Returns (endActiveSession cfg reason) d fun _ d' =>
      d'.shared = d.shared ∧ d'.self.view = d.self.view.clear ∧ d'.self.activeSession = none := by
  unfold endActiveSession
  refine (persist_quiet cfg d reason h).bind fun _ d₁ h₁ => ?_
  refine (release_quiet cfg d₁).bind fun _ d₂ h₂ => ?_
  refine (clear_returns cfg d₂).mono fun _ d' ⟨hshared, hview, hnone⟩ => ?_
  exact ⟨by rw [hshared, h₂.shared, h₁.shared], by rw [hview, h₂.view, h₁.view], hnone⟩

end ending

/-! ### Moves keep the session's identity -/

namespace SessionView

variable {v : SessionView}

theorem Steady.move (h : v.Steady) (next : VoiceSessionState) : (v.move next).Steady := by
  intro s hs
  obtain ⟨s₀, hs₀, rfl⟩ := Option.mem_map.mp hs
  exact h s₀ hs₀

theorem Steady.follow (h : v.Steady) (path : List VoiceSessionState) : (v.follow path).Steady := by
  induction path generalizing v with
  | nil => exact h
  | cons next path ih => exact ih (h.move next)

theorem Steady.note (h : v.Steady) (e : Effect) : (v.note e).Steady := h

theorem Steady.congr {v' : SessionView} (h : v.Steady) (hs : v'.session = v.session) :
    v'.Steady := fun s hs' => h s (hs ▸ hs')

end SessionView

/-- A session is cancelled. -/
theorem cancelActiveSession_returns (cfg : Config) (d : Desk) (reason : String)
    (h : d.self.view.Steady) :
    Returns (cancelActiveSession cfg reason) d fun _ d' =>
      d'.shared = d.shared ∧ d'.self.view = d.self.view.act .cancel ∧
        d'.self.activeSession = none := by
  unfold cancelActiveSession
  simp only [returns_bind, returns_setSessionState, returns_modifySelf]
  refine (endActiveSession_returns cfg _ reason ?_).mono fun _ d' h' => ?_
  · simpa using h.move .cancelled
  · simpa [SessionView.act] using h'

/-- A session that timed out is cancelled. -/
theorem cancelTimedOutActiveSession_returns (cfg : Config) (d : Desk) (reason : String)
    (hs : d.self.activeSession = some session) (h : d.self.view.Steady) :
    Returns (cancelTimedOutActiveSession cfg reason) d fun _ d' =>
      d'.shared = d.shared ∧ d'.self.view = d.self.view.act .cancel ∧
        d'.self.activeSession = none := by
  unfold cancelTimedOutActiveSession
  simp only [returns_bind, returns_get, hs, returns_emit, returns_pure]
  have hview (state : VoiceSessionState) (age : ℤ) (openFor : Option ℤ) :
      (d.self.record (.sessionTimedOut reason state age openFor)).view = d.self.view :=
    d.self.view_record_quiet rfl rfl
  refine (cancelActiveSession_returns cfg _ reason ?_).mono fun _ d' hpost => ?_
  · rw [hview]
    exact h
  · obtain ⟨hshared, hview', hnone⟩ := hpost
    exact ⟨hshared, by rw [hview', hview], hnone⟩

/-! ### What is permitted -/

/-- The moves that take a session from where its audio is complete to `transcribing`. -/
def toTranscribing (state : VoiceSessionState) : List VoiceSessionState :=
  if state = .wakeDetected then [.listening, .transcribing] else [.transcribing]

/-- How a session may end after `transcribing`. -/
def endTails : List (List VoiceSessionState) :=
  [[.failed], [.localCommand, .completed], [.localCommand, .responding, .completed],
    [.localCommand, .responding, .failed], [.routing, .responding, .completed],
    [.routing, .responding, .failed]]

/-- The paths of a session whose audio is complete: from a state, with or without a turn of
the pipeline, and to a follow-up or the end. -/
inductive EndPath : VoiceSessionState → Bool → Bool → List VoiceSessionState → Prop
  | beforeWake : EndPath .idle false false [.cancelled]
  | ended {state : VoiceSessionState} {turn : Bool} {tail : List VoiceSessionState}
      (hstate : state ≠ .idle) (htail : tail ∈ endTails) :
      EndPath state turn false (toTranscribing state ++ tail)
  | followup {state answer : VoiceSessionState} (hstate : state ≠ .idle)
      (hanswer : answer = .localCommand ∨ answer = .routing) :
      EndPath state true true (toTranscribing state ++ [answer, .responding])

theorem EndPath.followup_eq {state : VoiceSessionState} {turn : Bool} {path : List VoiceSessionState}
    (h : EndPath state turn true path) :
    turn = true ∧ ∃ answer, (answer = .localCommand ∨ answer = .routing) ∧
      path = toTranscribing state ++ [answer, .responding] := by
  cases h with
  | followup hstate hanswer => exact ⟨rfl, _, hanswer, rfl⟩

theorem EndPath.ended_eq {state : VoiceSessionState} {turn : Bool} {path : List VoiceSessionState}
    (h : EndPath state turn false path) :
    state = .idle ∧ path = [.cancelled] ∨
      state ≠ .idle ∧ ∃ tail ∈ endTails, path = toTranscribing state ++ tail := by
  cases h with
  | beforeWake => exact .inl ⟨rfl, rfl⟩
  | ended hstate htail => exact .inr ⟨hstate, _, htail, rfl⟩

/-- What is known where a handler that runs for `o` takes an action in the view `v`. -/
def Permitted (cfg : Config) (o : Occasion) (v : SessionView) : SessionAction → Prop
  | .start session _ _ =>
    v.session = none ∧ session.state = .idle ∧ session.startedAt = o.ev.timestamp ∧
      session.endpointId = o.ev.endpointId ∧ session.handledAt = o.desk.shared.now ∧
      o.ev.eventType = .sessionStart
  | .cancel | .capture | .taskDone _ => True
  | .decide serial decision =>
    ∃ session candidate, o.submittedCandidate cfg = some (session, candidate) ∧
      serial = session.serial ∧ decision = (o.election candidate).1
  | .audioEnd audio path followup =>
    v = o.desk.self.view ∧ ∃ session, o.audioEndSession = some session ∧
      o.desk.self.activeSession = some session ∧
      EndPath session.sessionState audio.isSome followup path ∧
      (∀ a ∈ audio, o.runsTurn cfg session = true ∧ a = o.desk.self.audioSummary session) ∧
      (followup = true →
        (o.ans.completeTurn (o.desk.self.audioSummary session)).asksFollowup = true)
  | .chunk chunk placement enrollment overheard =>
    v = o.desk.self.view ∧ ∃ session payload, o.chunkOn cfg = some (session, payload) ∧
      o.desk.self.activeSession = some session ∧ chunk = o.numbered payload ∧
      placement = o.placementTakesOver cfg ∧ enrollment = o.enrollmentTakesOver cfg ∧
      (overheard = true → session.sessionState = .idle ∧ placement = false ∧ enrollment = false)
  | .hear chunk overheard =>
    v = o.desk.self.view ∧ ∃ session payload, o.chunkOn cfg = some (session, payload) ∧
      o.desk.self.activeSession = some session ∧ chunk = o.numbered payload ∧
      session.sessionState = .idle ∧ overheard = o.interruptible
  | .accept serial electionId candidate =>
    ∃ session decision, o.acceptedCandidate cfg = some (session, candidate, decision) ∧
      serial = session.serial ∧ electionId = decision.electionId ∧
      o.desk.self.activeSession = some session ∧ session.sessionState = .idle ∧
      (v.session = none ∧ .sessionCleared session.serial ∈ v.life ∨
        v.session = some session.core ∧ v.buffer = o.desk.self.audioChunks ++ o.overheard cfg)
  | .openFollowup _ =>
    v.pending.isSome = true ∧ ∃ session, v.session = some session ∧ session.state = .responding

/-- A session begins with a serial number that was not drawn before, and so does a timer. -/
def SessionAction.Fresh (lo hi : ℕ) : SessionAction → Prop
  | .start session .. => lo ≤ session.serial ∧ session.serial < hi
  | .openFollowup task => lo ≤ task.id ∧ task.id < hi
  | _ => True

/-- While the actions happen, the draws go on from `lo` to `hi`, and each action that needs
one has its own. -/
def Draws : ℕ → ℕ → List SessionAction → Prop
  | lo, hi, [] => lo ≤ hi
  | lo, hi, a :: as => ∃ mid, lo ≤ mid ∧ a.Fresh lo mid ∧ Draws mid hi as

namespace Draws

theorem append {lo mid hi : ℕ} {as bs : List SessionAction} (h₁ : Draws lo mid as)
    (h₂ : Draws mid hi bs) : Draws lo hi (as ++ bs) := by
  induction as generalizing lo with
  | nil =>
    cases bs with
    | nil => exact le_trans h₁ h₂
    | cons b bs =>
      obtain ⟨m, hm, hb, hbs⟩ := h₂
      refine ⟨m, le_trans h₁ hm, ?_, hbs⟩
      cases b with
      | start | openFollowup => exact ⟨le_trans h₁ hb.1, hb.2⟩
      | _ => trivial
  | cons a as ih =>
    obtain ⟨m, hm, ha, has⟩ := h₁
    exact ⟨m, hm, ha, ih has⟩

/-- Actions that draw nothing. -/
theorem of_le {lo hi : ℕ} {as : List SessionAction} (hle : lo ≤ hi)
    (h : ∀ a ∈ as, ∀ n m, a.Fresh n m) : Draws lo hi as := by
  induction as with
  | nil => exact hle
  | cons a as ih =>
    exact ⟨lo, le_rfl, h a List.mem_cons_self lo lo, ih fun b hb => h b (List.mem_cons_of_mem _ hb)⟩

end Draws

/-- The fields that runtimes share, after a handler that submitted no candidate. -/
structure Shared.Kept (sh sh' : Shared) : Prop where
  uuid_le : sh.uuid ≤ sh'.uuid
  now_eq : sh'.now = sh.now
  election_eq : sh'.wakeElection = sh.wakeElection

namespace Shared.Kept

theorem refl (sh : Shared) : sh.Kept sh := ⟨le_rfl, rfl, rfl⟩

theorem of_eq {sh sh' : Shared} (h : sh' = sh) : sh.Kept sh' := by rw [h]; exact refl sh

theorem trans {a b c : Shared} (h₁ : a.Kept b) (h₂ : b.Kept c) : a.Kept c :=
  ⟨h₁.uuid_le.trans h₂.uuid_le, h₂.now_eq.trans h₁.now_eq, h₂.election_eq.trans h₁.election_eq⟩

end Shared.Kept

/-- What a handler that runs for `o` did, from the desk `d` to the desk `d'`: permitted
actions to its runtime, and nothing to the wake election. -/
structure Does (cfg : Config) (o : Occasion) (d d' : Desk) : Prop where
  actions : ∃ as, d'.self.view = run SessionView.act d.self.view as ∧
    AllSteps SessionView.act (Permitted cfg o) d.self.view as ∧
    Draws d.shared.uuid d'.shared.uuid as
  kept : d.shared.Kept d'.shared

namespace Does

variable {cfg : Config} {o : Occasion} {d d' d'' : Desk}

theorem trans (h₁ : Does cfg o d d') (h₂ : Does cfg o d' d'') : Does cfg o d d'' where
  actions := by
    obtain ⟨as, hview, hok, hdraws⟩ := h₁.actions
    obtain ⟨bs, hview', hok', hdraws'⟩ := h₂.actions
    refine ⟨as ++ bs, ?_, ?_, hdraws.append hdraws'⟩
    · rw [hview', hview, run_append]
    · rw [allSteps_append, ← hview]
      exact ⟨hok, hok'⟩
  kept := h₁.kept.trans h₂.kept

/-- Nothing that the session machine sees. -/
theorem nothing (hview : d'.self.view = d.self.view) (hkept : d.shared.Kept d'.shared) :
    Does cfg o d d' :=
  ⟨⟨[], hview, trivial, hkept.uuid_le⟩, hkept⟩

theorem refl (d : Desk) : Does cfg o d d := nothing rfl (.refl _)

/-- One action. -/
theorem one {a : SessionAction} (hview : d'.self.view = d.self.view.act a)
    (ha : Permitted cfg o d.self.view a) (hfresh : a.Fresh d.shared.uuid d'.shared.uuid)
    (hkept : d.shared.Kept d'.shared) : Does cfg o d d' :=
  ⟨⟨[a], hview, ⟨ha, trivial⟩, _, hkept.uuid_le, hfresh, le_rfl⟩, hkept⟩

/-- The session is cancelled. -/
theorem cancel (hshared : d'.shared = d.shared) (hview : d'.self.view = d.self.view.act .cancel) :
    Does cfg o d d' :=
  one hview trivial trivial (.of_eq hshared)

end Does

/-! ### The end of audio -/

theorem Desk.activeSession_of_requiredSession
    (h : d.requiredSession ev = some session) :
    d.self.activeSession = some session := by
  obtain ⟨hsession, -⟩ := Option.filter_eq_some_iff.mp h
  exact hsession

theorem returns_requireActiveSession
    (h : d.requiredSession ev = some session)
    (Q : Except BackendEvent VoiceSessionSnapshot → Desk → Prop) :
    Returns (requireActiveSession ev) d Q ↔ Q (.ok session) d := by
  simp [requireActiveSession, h]

theorem requireActiveSession_error
    (h : d.requiredSession ev = none) :
    Returns (requireActiveSession ev) d fun r d' => d' = d ∧ ∃ error, r = .error error := by
  simp only [requireActiveSession, returns_bind, returns_get, h]
  split <;> simp

theorem SessionView.follow_note (v : SessionView) (e : Effect) (path : List VoiceSessionState) :
    (v.note e).follow path = (v.follow path).note e := by
  induction path generalizing v with
  | nil => rfl
  | cons next path ih => exact ih (v.move next)

/-- The session moved along one of the paths that end it, and ended. -/
def Desk.Ends (d d' : Desk) : Prop :=
  d.shared.Kept d'.shared ∧
    ∃ tail ∈ endTails, d'.self.view = (d.self.view.follow tail).finish none false

theorem endActiveSession_ends {d d₁ : Desk} (cfg : Config) (reason : String)
    (tail : List VoiceSessionState) (h : d.self.view.Steady) (hkept : d.shared.Kept d₁.shared)
    (hview : d₁.self.view = d.self.view.follow tail) (htail : tail ∈ endTails) :
    Returns (endActiveSession cfg reason) d₁ fun _ d' => d.Ends d' := by
  have hsteady : d₁.self.view.Steady := hview ▸ h.follow tail
  refine (endActiveSession_returns cfg d₁ reason hsteady).mono fun _ d' ⟨hshared, hview', _⟩ => ?_
  refine ⟨hkept.trans (.of_eq hshared), tail, htail, ?_⟩
  rw [hview', hview]
  simp [SessionView.finish]

section tails

variable (cfg : Config) (ans : Answers) (d : Desk) (session : VoiceSessionSnapshot)

@[simp] theorem view_record_transcribeAudio (r : SessionRuntime) (a : VoiceTurnAudioSummary) :
    (r.record (.transcribeAudio a)).view = r.view := SessionRuntime.view_record_quiet _ rfl rfl

@[simp] theorem view_record_customCaptureScheduled (r : SessionRuntime) (text : String) :
    (r.record (.customCaptureScheduled text)).view = r.view :=
  SessionRuntime.view_record_quiet _ rfl rfl

theorem completeEnrollmentCapture_ends (hans : ans.transcribeAudio.isSome = true)
    (h : d.self.view.Steady) :
    Returns (completeEnrollmentCapture cfg ans session) d fun _ d' => d.Ends d' := by
  obtain ⟨transcribe, htranscribe⟩ := Option.isSome_iff_exists.mp hans
  simp only [completeEnrollmentCapture, htranscribe, returns_bind, returns_get, returns_emit,
    returns_setSessionState, returns_currentSession, returns_ite, returns_pure]
  split
  · exact endActiveSession_ends cfg _ [.failed] h (.refl _) (by simp [SessionView.follow])
      (by decide)
  · exact endActiveSession_ends cfg _ [.localCommand, .completed] h (.refl _)
      (by simp [SessionView.follow]) (by decide)

theorem completeActivePlacementTest_ends (hans : ans.transcribeAudio.isSome = true)
    (h : d.self.view.Steady) :
    Returns (completeActivePlacementTest cfg ans session) d fun _ d' => d.Ends d' := by
  obtain ⟨transcribe, htranscribe⟩ := Option.isSome_iff_exists.mp hans
  simp only [completeActivePlacementTest, htranscribe, returns_bind, returns_get, returns_emit,
    returns_setSessionState, returns_currentSession, returns_modifyShared, returns_pure]
  exact endActiveSession_ends cfg _ [.localCommand, .completed] h ⟨le_rfl, rfl, rfl⟩
    (by simp [SessionView.follow]) (by decide)

theorem completeCustomCapture_ends (hans : ans.transcribeAudio.isSome = true)
    (h : d.self.view.Steady) :
    Returns (completeCustomCapture cfg ans session) d fun _ d' => d.Ends d' := by
  obtain ⟨transcribe, htranscribe⟩ := Option.isSome_iff_exists.mp hans
  have hfinal : ∀ (reason text : String) (d₁ : Desk) (tail : List VoiceSessionState)
      (events : List BackendEvent), tail ∈ endTails → d₁.shared = d.shared →
      d₁.self.view = d.self.view.follow tail →
      Returns (do
        persistActiveSessionHistory cfg reason
        emit (.customCaptureScheduled text)
        releaseActiveSessionWakeStream cfg
        clearActiveSessionRuntime cfg
        return events) d₁ fun _ d' => d.Ends d' := by
    intro reason text d₁ tail events htail hshared hview
    refine (persist_quiet cfg d₁ reason (hview ▸ h.follow tail)).bind fun _ d₂ h₂ => ?_
    rw [returns_bind, returns_emit]
    refine (release_quiet cfg _).bind fun _ d₃ h₃ => ?_
    rw [returns_bind]
    refine (clear_returns cfg d₃).mono fun _ d' ⟨hshared', hview', _⟩ => ?_
    rw [returns_pure]
    refine ⟨.of_eq (by rw [hshared', h₃.shared, h₂.shared, hshared]), tail, htail, ?_⟩
    rw [hview', h₃.view, view_record_customCaptureScheduled, h₂.view, hview]
    simp [SessionView.finish]
  simp only [completeCustomCapture, htranscribe]
  rw [returns_bind, returns_get, returns_bind, returns_emit, returns_bind, returns_currentSession,
    returns_ite]
  split
  · rw [returns_bind, returns_setSessionState]
    exact hfinal _ _ _ [.failed] _ (by decide) rfl (by simp [SessionView.follow])
  · rw [returns_bind, returns_setSessionState, returns_bind, returns_setSessionState, returns_bind,
      returns_setSessionState, returns_bind, returns_currentSession]
    exact hfinal _ _ _ [.localCommand, .responding, .completed] _ (by decide) rfl
      (by simp [SessionView.follow])

/-- The pipeline ran a turn on `audio`: the session moved along a path that ends it, and
ended, or the turn asks a follow-up, and the session awaits it. -/
def Desk.EndsTurn (d : Desk) (audio : VoiceTurnAudioSummary) (asksFollowup : Bool) (d' : Desk) :
    Prop :=
  d.shared.Kept d'.shared ∧
    ((∃ tail ∈ endTails, d'.self.view = (d.self.view.follow tail).finish (some audio) false) ∨
      asksFollowup = true ∧ ∃ answer, (answer = .localCommand ∨ answer = .routing) ∧
        d'.self.view = (d.self.view.follow [answer, .responding]).finish (some audio) true)

theorem endActiveSession_endsTurn {d d₁ : Desk} (reason : String) {audio : VoiceTurnAudioSummary}
    {asksFollowup : Bool} (tail : List VoiceSessionState) (h : d.self.view.Steady)
    (hshared : d₁.shared = d.shared)
    (hview : d₁.self.view = (d.self.view.note (.completeTurn audio)).follow tail)
    (htail : tail ∈ endTails) :
    Returns (endActiveSession cfg reason) d₁ fun _ d' => d.EndsTurn audio asksFollowup d' := by
  have hsteady : d₁.self.view.Steady := hview ▸ (h.note _).follow tail
  refine (endActiveSession_returns cfg d₁ reason hsteady).mono fun _ d' ⟨hshared', hview', _⟩ => ?_
  refine ⟨.of_eq (hshared'.trans hshared), .inl ⟨tail, htail, ?_⟩⟩
  rw [hview', hview, SessionView.follow_note]
  simp [SessionView.finish, SessionView.note]

theorem turnCompleted_endsTurn {d d₁ : Desk} (session : VoiceSessionSnapshot) (reason : String)
    {audio : VoiceTurnAudioSummary} {asksFollowup : Bool} {answer : VoiceSessionState}
    (h : d.self.view.Steady) (hshared : d₁.shared = d.shared)
    (hview : d₁.self.view = (d.self.view.note (.completeTurn audio)).follow [answer, .responding])
    (hanswer : answer = .localCommand ∨ answer = .routing) :
    Returns (turnCompleted cfg session reason) d₁ fun _ d' => d.EndsTurn audio asksFollowup d' := by
  simp only [turnCompleted, returns_bind, returns_setSessionState, returns_currentSession,
    returns_pure]
  refine endActiveSession_endsTurn cfg reason [answer, .responding, .completed] h hshared ?_ ?_
  · simp [hview, SessionView.follow]
  · rcases hanswer with rfl | rfl <;> decide

theorem completeTurn_endsTurn (h : d.self.view.Steady) :
    Returns (completeTurn cfg ans session) d fun _ d' =>
      d.EndsTurn (d.self.audioSummary session)
        (ans.completeTurn (d.self.audioSummary session)).asksFollowup d' := by
  unfold completeTurn
  rw [returns_bind, returns_get, returns_bind, returns_emit]
  set audio := d.self.audioSummary session
  set turn := ans.completeTurn audio with hturn
  have hnote : (d.self.record (.completeTurn audio)).view = d.self.view.note (.completeTurn audio) :=
    d.self.view_record_life rfl
  rw [returns_ite]
  split
  case isTrue =>
    -- speech recognition failed
    rw [returns_bind, returns_setSessionState, returns_bind]
    simp only [returns_pure]
    exact endActiveSession_endsTurn cfg _ [.failed] h rfl
      (by simp [hnote, SessionView.follow]) (by decide)
  case isFalse hstt =>
  set answer := if turn.assistantResponse.handledLocally then VoiceSessionState.localCommand
    else .routing with hanswerDef
  have hanswer : answer = .localCommand ∨ answer = .routing := by
    rw [hanswerDef]; split <;> simp
  rw [returns_bind, returns_currentSession, returns_bind, returns_setSessionState, returns_bind,
    returns_currentSession, returns_bind, returns_setSessionState, returns_ite]
  have hview : (((d.self.record (.completeTurn audio)).setSessionState answer).setSessionState
      .responding).view = (d.self.view.note (.completeTurn audio)).follow [answer, .responding] := by
    simp [hnote, SessionView.follow]
  split
  case isTrue =>
    -- nothing was synthesised
    rw [returns_bind]
    simp only [returns_pure]
    exact turnCompleted_endsTurn cfg session _ h rfl hview hanswer
  case isFalse hmedia =>
  rw [returns_ite]
  split
  case isTrue =>
    -- the synthesis failed
    rw [returns_bind, returns_setSessionState, returns_bind]
    simp only [returns_pure]
    refine endActiveSession_endsTurn cfg _ [answer, .responding, .failed] h rfl ?_ ?_
    · simp [hnote, SessionView.follow]
    · rcases hanswer with h | h <;> rw [h] <;> decide
  case isFalse htts =>
  rw [returns_bind, returns_currentSession]
  cases hfollowup : turn.assistantResponse.conversationFollowup with
  | none =>
    simp only
    rw [returns_bind]
    simp only [returns_pure]
    exact turnCompleted_endsTurn cfg session _ h rfl hview hanswer
  | some followup =>
    simp only
    rw [returns_bind, returns_modifySelf, returns_pure]
    refine ⟨.refl _, .inr ⟨?_, answer, hanswer, ?_⟩⟩
    · simp only [VoiceTurnResult.asksFollowup]
      simp_all
    · rw [SessionRuntime.view_awaitFollowup, hview, SessionView.follow_note]
      simp [SessionView.finish, SessionView.note]

end tails

/-! ### What a handler reads is left alone -/

namespace SessionRuntime

variable (r : SessionRuntime) (next : VoiceSessionState)

theorem setSessionState_eq : r.setSessionState next =
    { r with
      activeSession := r.activeSession.map (·.moved next)
      moves := r.moves ++ (r.activeSession.map fun s => (s.sessionState, next)).toList } := by
  cases r with | mk activeSession => cases activeSession <;> simp [setSessionState]

@[simp] theorem isPlacementTest_setSessionState :
    (r.setSessionState next).isPlacementTest = r.isPlacementTest := by
  simp [isPlacementTest, setSessionState_eq]

@[simp] theorem audioSummary_setSessionState (s : VoiceSessionSnapshot) :
    (r.setSessionState next).audioSummary s = r.audioSummary s := by
  simp [audioSummary, setSessionState_eq]

@[simp] theorem isPlacementTest_record (e : Effect) :
    (r.record e).isPlacementTest = r.isPlacementTest := rfl

@[simp] theorem audioSummary_record (e : Effect) (s : VoiceSessionSnapshot) :
    (r.record e).audioSummary s = r.audioSummary s := rfl

end SessionRuntime

/-- Two desks that agree in what the handlers read apart from sessions and windows. -/
structure Desk.Alike (d d' : Desk) : Prop where
  kept : d.shared.Kept d'.shared
  uuid_eq : d'.shared.uuid = d.shared.uuid
  chunkCount_eq : d'.self.chunkCount = d.self.chunkCount
  activePlaybacks_eq : d'.self.activePlaybacks = d.self.activePlaybacks

theorem Desk.Quiet.alike {d d' : Desk} (h : d.Quiet d') : d.Alike d' := by
  obtain ⟨es, -, rfl⟩ := h
  exact ⟨.refl _, rfl, rfl, rfl⟩

theorem Desk.Alike.trans {a b c : Desk} (h₁ : a.Alike b) (h₂ : b.Alike c) : a.Alike c :=
  ⟨h₁.kept.trans h₂.kept, h₂.uuid_eq.trans h₁.uuid_eq, h₂.chunkCount_eq.trans h₁.chunkCount_eq,
    h₂.activePlaybacks_eq.trans h₁.activePlaybacks_eq⟩

section windows

variable (d : Desk) (endpointId : EndpointId)

theorem returns_activePlacementTestWindow :
    Returns (activePlacementTestWindow endpointId) d fun w d' =>
      d'.self = d.self ∧ d.Alike d' ∧
        d'.shared.speakerEnrollmentCaptureWindows = d.shared.speakerEnrollmentCaptureWindows ∧
        w.isSome = d.placementWindowOpen endpointId := by
  simp only [activePlacementTestWindow, returns_bind, returns_modifyShared, returns_get,
    returns_pure]
  exact ⟨trivial, ⟨⟨le_rfl, rfl, rfl⟩, rfl, rfl, rfl⟩, trivial, rfl⟩

theorem returns_activeSpeakerEnrollmentCaptureWindow :
    Returns (activeSpeakerEnrollmentCaptureWindow endpointId) d fun w d' =>
      d'.self = d.self ∧ d.Alike d' ∧ w.isSome = d.enrollmentWindowOpen endpointId := by
  simp only [activeSpeakerEnrollmentCaptureWindow, returns_bind, returns_modifyShared, returns_get,
    returns_pure]
  exact ⟨trivial, ⟨⟨le_rfl, rfl, rfl⟩, rfl, rfl, rfl⟩, rfl⟩

end windows

theorem Desk.enrollmentWindowOpen_congr {d d' : Desk} (endpointId : EndpointId)
    (hnow : d'.shared.now = d.shared.now)
    (h : d'.shared.speakerEnrollmentCaptureWindows = d.shared.speakerEnrollmentCaptureWindows) :
    d'.enrollmentWindowOpen endpointId = d.enrollmentWindowOpen endpointId := by
  simp [enrollmentWindowOpen, h, hnow]

/-! ### `_handle_audio_end` -/

section audioEnd

variable {cfg : Config} {o : Occasion} {session : VoiceSessionSnapshot}

theorem playbackInterruptStopEvent_still (cfg : Config) (ans : Answers) (d : Desk)
    (session : VoiceSessionSnapshot) :
    Returns (playbackInterruptStopEvent cfg ans session) d fun _ d' =>
      d.shared.Kept d'.shared ∧ d'.self.view = d.self.view := by
  simp only [playbackInterruptStopEvent, returns_bind, returns_get]
  split
  · simp only [returns_ite, returns_pure, returns_bind, returns_emit, returns_drawUuid,
      returns_modifyShared]
    split
    · exact ⟨.refl _, trivial⟩
    · split
      · exact ⟨.refl _, by simp⟩
      · exact ⟨⟨Nat.le_succ _, rfl, rfl⟩, by simp⟩
  · simpa using Shared.Kept.refl _

theorem recordAcceptedWakeSession_quiet (cfg : Config) (d : Desk)
    (session : VoiceSessionSnapshot) :
    Returns (recordAcceptedWakeSession cfg session) d fun _ d' => d.Quiet d' := by
  unfold recordAcceptedWakeSession
  by_cases hc : cfg.wakeRecorder
  · simpa [hc] using Desk.Quiet.emit d rfl rfl
  · simpa [hc] using Desk.Quiet.refl d

/-- No wake was heard: the session is cancelled. -/
theorem cancelBeforeWake_returns (cfg : Config) (session : VoiceSessionSnapshot) (ans : Answers)
    (h : d.self.view.Steady) :
    Returns (cancelBeforeWake cfg ans session) d fun _ d' =>
      d.shared.Kept d'.shared ∧ d'.self.view = (d.self.view.move .cancelled).clear := by
  unfold cancelBeforeWake
  refine (playbackInterruptStopEvent_still cfg ans d session).bind fun stop d₁ hpost => ?_
  obtain ⟨hkept, hview⟩ := hpost
  simp only [returns_bind, returns_setSessionState, returns_modifySelf, returns_currentSession,
    returns_pure]
  refine (endActiveSession_returns cfg _ _ ?_).mono fun _ d' hpost => ?_
  · rw [SessionRuntime.view_setWake, SessionRuntime.view_setCancelReason,
      SessionRuntime.view_setSessionState, hview]
    exact (h.move .cancelled).congr rfl
  · obtain ⟨hshared, hview', _⟩ := hpost
    refine ⟨hkept.trans (.of_eq hshared), ?_⟩
    rw [hview', SessionRuntime.view_setWake]
    simp [hview, SessionView.clear, SessionView.cancelTask]

/-- What is known of a session whose captured audio is complete. -/
structure AudioComplete (cfg : Config) (o : Occasion) (session : VoiceSessionSnapshot) : Prop where
  isAudioEnd : o.audioEndSession = some session
  isActive : o.desk.self.activeSession = some session

theorem AudioComplete.does {d' : Desk} (h : AudioComplete cfg o session)
    (audio : Option VoiceTurnAudioSummary) (path : List VoiceSessionState) (followup : Bool)
    (hkept : o.desk.shared.Kept d'.shared)
    (hview : d'.self.view = o.desk.self.view.act (.audioEnd audio path followup))
    (hpath : EndPath session.sessionState audio.isSome followup path)
    (haudio : ∀ a ∈ audio, o.runsTurn cfg session = true ∧ a = o.desk.self.audioSummary session)
    (hfollowup : followup = true →
      (o.ans.completeTurn (o.desk.self.audioSummary session)).asksFollowup = true) :
    Does cfg o o.desk d' :=
  .one hview ⟨rfl, session, h.isAudioEnd, h.isActive, hpath, haudio, hfollowup⟩ trivial hkept

/-- A branch of the handler that ends the session without a turn. -/
theorem AudioComplete.does_of_ends {d d' : Desk} (h : AudioComplete cfg o session)
    (hstate : session.sessionState ≠ .idle) (hkept : o.desk.shared.Kept d.shared)
    (hview : d.self.view =
      (o.desk.self.view.note .audioEndHandled).follow (toTranscribing session.sessionState))
    (hends : d.Ends d') : Does cfg o o.desk d' := by
  obtain ⟨hkept', tail, htail, hview'⟩ := hends
  refine h.does none _ false (hkept.trans hkept') ?_ (.ended hstate htail)
    (by simp) (by simp)
  rw [hview', hview]
  simp [SessionView.act, SessionView.follow]

/-- The branch of the handler that runs a turn. -/
theorem AudioComplete.does_of_endsTurn {d d' : Desk} (h : AudioComplete cfg o session)
    (hstate : session.sessionState ≠ .idle) (hkept : o.desk.shared.Kept d.shared)
    (hview : d.self.view =
      (o.desk.self.view.note .audioEndHandled).follow (toTranscribing session.sessionState))
    (hruns : o.runsTurn cfg session = true)
    (hends : d.EndsTurn (o.desk.self.audioSummary session)
      (o.ans.completeTurn (o.desk.self.audioSummary session)).asksFollowup d') :
    Does cfg o o.desk d' := by
  obtain ⟨hkept', ⟨tail, htail, hview'⟩ | ⟨hasks, answer, hanswer, hview'⟩⟩ := hends
  · refine h.does (some (o.desk.self.audioSummary session)) _ false
      (hkept.trans hkept') ?_ (.ended hstate htail) (by simp [hruns]) (by simp)
    rw [hview', hview]
    simp [SessionView.act, SessionView.follow]
  · refine h.does (some (o.desk.self.audioSummary session)) _ true
      (hkept.trans hkept') ?_ (.followup hstate hanswer) (by simp [hruns]) (fun _ => hasks)
    rw [hview', hview]
    simp [SessionView.act, SessionView.follow]

theorem completeAudio_does (h : AudioComplete cfg o session)
    (hsteady : o.desk.self.view.Steady) (hstate : session.sessionState ≠ .idle)
    (hview : d.self.view =
      (o.desk.self.view.note .audioEndHandled).follow (toTranscribing session.sessionState))
    (hplacement : d.self.isPlacementTest = o.desk.self.isPlacementTest)
    (haudio : d.self.audioSummary session = o.desk.self.audioSummary session)
    (hshared : d.shared = o.desk.shared) :
    Returns (completeAudio cfg o.ans.toAnswers session) d fun _ d' => Does cfg o o.desk d' := by
  have hd : d.self.view.Steady := hview ▸ (hsteady.note _).follow _
  have hans := o.ans.transcribes
  unfold completeAudio
  rw [returns_ite]
  split
  case isTrue hcustom =>
    refine (completeCustomCapture_ends cfg _ d session hans hd).mono fun _ d' hends => ?_
    exact h.does_of_ends hstate (.of_eq hshared) hview hends
  case isFalse hcustom =>
  refine (returns_activePlacementTestWindow d _).bind fun _ d₁ ⟨hself, ⟨hkept, _, _, _⟩, hwindows, _⟩ => ?_
  rw [returns_bind, returns_get, returns_ite]
  have hkept₁ : o.desk.shared.Kept d₁.shared := hshared ▸ hkept
  have hview₁ := hself ▸ hview
  split
  case isTrue hp =>
    refine (completeActivePlacementTest_ends cfg _ d₁ session hans (hself ▸ hd)).mono
      fun _ d' hends => ?_
    exact h.does_of_ends hstate hkept₁ hview₁ hends
  case isFalse hp =>
  refine (recordAcceptedWakeSession_quiet cfg d₁ session).bind fun _ d₂ h₂ => ?_
  refine (returns_activeSpeakerEnrollmentCaptureWindow d₂ _).bind
    fun enrollment d₃ ⟨hself₃, ⟨hkept₃, _, _, _⟩, henrollment⟩ => ?_
  have hview₃ : d₃.self.view = (o.desk.self.view.note .audioEndHandled).follow
      (toTranscribing session.sessionState) := by rw [hself₃, h₂.view, hview₁]
  have hd₃ : d₃.self.view.Steady := hview₃ ▸ (hsteady.note _).follow _
  have hkept₃ : o.desk.shared.Kept d₃.shared := hkept₁.trans ((Shared.Kept.of_eq h₂.shared).trans hkept₃)
  have haudio₃ : d₃.self.audioSummary session = o.desk.self.audioSummary session := by
    rw [hself₃, h₂.audioSummary, hself, haudio]
  rw [henrollment, Desk.enrollmentWindowOpen_congr (d := o.desk) _
    (by rw [h₂.shared, hkept₁.now_eq]) (by rw [h₂.shared, hwindows, hshared]), returns_ite]
  split
  case isTrue he =>
    refine (completeEnrollmentCapture_ends cfg _ d₃ session hans hd₃).mono fun _ d' hends => ?_
    exact h.does_of_ends hstate hkept₃ hview₃ hends
  case isFalse he =>
  rw [returns_ite]
  split
  case isTrue hpipeline =>
    have hruns : o.runsTurn cfg session = true := by
      rw [hself, hplacement] at hp
      simp_all [Occasion.runsTurn]
    refine (completeTurn_endsTurn cfg _ d₃ session hd₃).mono fun _ d' hends => ?_
    rw [haudio₃] at hends
    exact h.does_of_endsTurn hstate hkept₃ hview₃ hruns hends
  case isFalse hpipeline =>
    simp only [turnCompleted, returns_bind, returns_setSessionState, returns_currentSession,
      returns_pure]
    refine Returns.mono (endActiveSession_ends (d := d₃) cfg _
      [.localCommand, .responding, .completed] hd₃ ?_ ?_ (by decide)) fun _ d' hends => ?_
    · exact .refl _
    · simp [SessionView.follow]
    · exact h.does_of_ends hstate hkept₃ hview₃ hends

/-- `_handle_audio_end`, for an event that ends the audio of the active session. -/
theorem handleAudioEnd_does (hreq : o.desk.requiredSession ev = some session)
    (hend : o.audioEndSession = some session) (hsteady : o.desk.self.view.Steady) :
    Returns (handleAudioEnd cfg o.ans.toAnswers ev) o.desk fun _ d' => Does cfg o o.desk d' := by
  have h : AudioComplete cfg o session := ⟨hend, Desk.activeSession_of_requiredSession hreq⟩
  have hnote : (o.desk.self.record .audioEndHandled).view =
      o.desk.self.view.note .audioEndHandled := o.desk.self.view_record_life rfl
  unfold handleAudioEnd
  rw [returns_bind, returns_requireActiveSession hreq]
  simp only
  rw [returns_bind, returns_emit, returns_ite]
  split
  case isTrue hidle =>
    refine (cancelBeforeWake_returns cfg session _ ?_).mono
      fun _ d' ⟨hkept, hview⟩ => ?_
    · rw [hnote]; exact hsteady.note _
    · refine h.does none [.cancelled] false hkept ?_ ?_ (by simp) (by simp)
      · rw [hview, hnote]
        simp [SessionView.act, SessionView.follow, SessionView.finish]
      · rw [hidle]
        exact .beforeWake
  case isFalse hstate =>
    by_cases hwake : session.sessionState = .wakeDetected
    · simp only [hwake, if_true, returns_bind, returns_setSessionState]
      refine completeAudio_does h hsteady hstate ?_ ?_ ?_ rfl
      · simp [hnote, toTranscribing, hwake, SessionView.follow]
      · simp
      · simp
    · simp only [hwake, if_false, returns_bind, returns_setSessionState]
      refine completeAudio_does h hsteady hstate ?_ ?_ ?_ rfl
      · simp [hnote, toTranscribing, hwake, SessionView.follow]
      · simp
      · simp

end audioEnd

/-! ### `_handle_session_start` -/

section sessionStart

variable {cfg : Config} {o : Occasion}

theorem view_begun (r : SessionRuntime) (session : VoiceSessionSnapshot) (f : VoiceAudioFormat)
    (placement : Option PlacementWindow) :
    (r.begun session f placement).view = { r.view with
      session := some session.core
      history := some { accepted := false, placementTest := placement.isSome }
      buffer := [] } := by
  cases placement with
  | none => rfl
  | some p => simp [SessionRuntime.begun, SessionRuntime.view, SessionHistory.core, p.testId_ne]

/-- A session starts where there is none. -/
theorem startSession_does (cfg : Config) (o : Occasion)
    (htype : o.ev.eventType = .sessionStart) (hnow : d.shared.now = o.desk.shared.now)
    (hnone : d.self.activeSession = none) :
    Returns (startSession o.ev) d fun _ d' => Does cfg o d d' := by
  have hsession : d.self.view.session = none := by simp [SessionRuntime.view, hnone]
  unfold startSession
  cases hp : o.ev.payload.sessionStart with
  | error message => simpa [hp] using Does.refl d
  | ok payload =>
    simp only
    rw [returns_bind, returns_drawUuid, returns_bind, returns_get]
    refine (returns_activePlacementTestWindow _ _).bind fun placement d₁ hpost => ?_
    obtain ⟨hself, ⟨hkept, _, _, _⟩, _⟩ := hpost
    have hkept₁ : d.shared.Kept d₁.shared :=
      ⟨(Nat.le_succ _).trans hkept.uuid_le, hkept.now_eq, hkept.election_eq⟩
    have hlt : d.shared.uuid < d₁.shared.uuid := hkept.uuid_le
    set session := newSession o.ev payload.wakeSource d.shared.uuid d.shared.now
    have hstarted : ((d₁.self.begun session payload.audioFormat placement).record
        (.sessionStarted session.serial)).view =
        d.self.view.act (.start session.core false placement.isSome) := by
      rw [SessionRuntime.view_record_life _ rfl, view_begun, hself]
      rfl
    have hpermitted : ∀ manual p, Permitted cfg o d.self.view (.start session.core manual p) :=
      fun _ _ => ⟨hsession, rfl, rfl, rfl, hnow, htype⟩
    rw [returns_bind, returns_modifySelf, returns_bind, returns_emit, returns_ite]
    split
    case isTrue hmanual =>
      simp only [returns_bind, returns_setSessionState, returns_modifySelf, returns_currentSession,
        returns_pure]
      refine Does.one (a := .start session.core true placement.isSome) ?_ (hpermitted _ _)
        ⟨le_rfl, hlt⟩ hkept₁
      simp [SessionRuntime.view_setWake, hstarted, SessionView.act, SessionView.wakeAccepted]
    case isFalse hmanual =>
      rw [returns_pure]
      exact Does.one (a := .start session.core false placement.isSome) hstarted (hpermitted _ _)
        ⟨le_rfl, hlt⟩ hkept₁

/-- A session of the endpoint may be replaced, or raises no exception while it is asked. -/
theorem canReplaceActiveSession_returns (htype : o.ev.eventType = .sessionStart)
    (hsteady : d.self.view.Steady) :
    Returns (canReplaceActiveSession o.ev) d fun _ d' => d' = d := by
  unfold canReplaceActiveSession
  rw [returns_bind, returns_get]
  cases hs : d.self.activeSession with
  | none => simp [hs]
  | some session =>
    have haware : session.startedAt.aware = true :=
      hsteady session.core (by simp [SessionRuntime.view, hs])
    have haware' : o.ev.timestamp.aware = true :=
      o.event.aware (by rw [show o.event.eventType = _ from htype]; rfl)
    simp only [hs, Datetime.sub, haware, haware', if_true]
    rw [returns_ite]
    split
    · simp
    · simp only [returns_bind, returns_pure, returns_ite, ite_self]

/-- A capture is completed by a new session. -/
theorem completeThenStart_does (reason : String)
    (htype : o.ev.eventType = .sessionStart) (hactive : o.desk.self.activeSession = some session)
    (hend : o.audioEndSession = some session) (hsteady : o.desk.self.view.Steady) :
    Returns (completeThenStart cfg o.ans.toAnswers o.ev reason) o.desk fun _ d' =>
      Does cfg o o.desk d' := by
  have hreq : o.desk.requiredSession (supersedingAudioEnd o.desk o.ev reason) = some session := by
    simp [Desk.requiredSession, supersedingAudioEnd, hactive]
  unfold completeThenStart
  rw [returns_bind, returns_get]
  refine (handleAudioEnd_does hreq hend hsteady).bind fun _ d' hd' => ?_
  rw [returns_bind, returns_get, returns_ite]
  split
  case isTrue hnone =>
    rw [returns_bind]
    refine (startSession_does cfg o htype hd'.kept.now_eq (by simpa using hnone)).mono fun _ d'' hd'' => ?_
    simpa using hd'.trans hd''
  case isFalse hsome => simpa using hd'

theorem handleSessionStart_does (htype : o.ev.eventType = .sessionStart)
    (hsteady : o.desk.self.view.Steady) :
    Returns (handleSessionStart cfg o.ans.toAnswers o.ev) o.desk fun _ d' =>
      Does cfg o o.desk d' := by
  unfold handleSessionStart
  rw [returns_bind, returns_get]
  cases hs : o.desk.self.activeSession with
  | none => exact startSession_does cfg o htype rfl hs
  | some session =>
    simp only
    rw [returns_ite]
    split
    case isTrue hp =>
      refine completeThenStart_does _ htype hs ?_ hsteady
      simp [Occasion.audioEndSession, htype, hp, hs]
    case isFalse hp =>
    rw [returns_ite]
    split
    case isTrue he =>
      refine completeThenStart_does _ htype hs ?_ hsteady
      simp [Occasion.audioEndSession, htype, he, hs]
    case isFalse he =>
    rw [returns_ite]
    split
    case isTrue hmerge => simpa using Does.refl o.desk
    case isFalse hmerge =>
    refine (canReplaceActiveSession_returns htype hsteady).bind fun replace d hd => ?_
    subst hd
    rw [returns_ite]
    split
    case isTrue hreplace =>
      refine (cancelActiveSession_returns cfg o.desk _ hsteady).bind
        fun _ d' ⟨hshared, hview, hnone⟩ => ?_
      refine (startSession_does cfg o htype (by rw [hshared]) hnone).mono fun _ d'' hd'' => ?_
      exact (Does.cancel hshared hview).trans hd''
    case isFalse hreplace => simpa using Does.refl o.desk

end sessionStart

/-! ### The other events -/

section others

variable {cfg : Config} {o : Occasion}

/-- A handler that first requires the active session answers with the error where there is
none. -/
theorem does_of_requireActiveSession
    {f : Except BackendEvent VoiceSessionSnapshot → Local (List BackendEvent)}
    (herror : ∀ error, f (.error error) = pure [error])
    (hsome : ∀ session, o.desk.requiredSession o.ev = some session →
      Returns (f (.ok session)) o.desk fun _ d' => Does cfg o o.desk d') :
    Returns (requireActiveSession o.ev >>= f) o.desk fun _ d' => Does cfg o o.desk d' := by
  cases hreq : o.desk.requiredSession o.ev with
  | none =>
    refine (requireActiveSession_error hreq).bind fun r d ⟨hd, error, hr⟩ => ?_
    rw [hd, hr, herror, returns_pure]
    exact Does.refl _
  | some session =>
    rw [returns_bind, returns_requireActiveSession hreq]
    exact hsome session hreq

theorem handleSessionCancel_does (hsteady : o.desk.self.view.Steady) :
    Returns (handleSessionCancel cfg o.ev) o.desk fun _ d' => Does cfg o o.desk d' := by
  refine does_of_requireActiveSession (fun _ => rfl) fun session hreq => ?_
  simp only
  refine (cancelActiveSession_returns cfg o.desk _ hsteady).bind fun _ d' ⟨hshared, hview, _⟩ => ?_
  rw [returns_pure]
  exact .cancel hshared hview

theorem handleSessionPing_does :
    Returns (handleSessionPing o.ev) o.desk fun _ d' => Does cfg o o.desk d' := by
  unfold handleSessionPing
  rw [returns_bind, returns_get, returns_ite]
  split
  · simpa using Does.refl _
  · refine does_of_requireActiveSession (fun _ => rfl) fun session hreq => ?_
    simpa using Does.refl _

theorem handleVadSpeechStarted_does :
    Returns (handleVadSpeechStarted o.ev) o.desk fun _ d' => Does cfg o o.desk d' := by
  refine does_of_requireActiveSession (fun _ => rfl) fun session hreq => ?_
  simp only
  split
  · simpa using Does.refl _
  · simp only [returns_bind, returns_modifySelf, returns_pure]
    refine .nothing ?_ (.refl _)
    cases hh : o.desk.self.activeSessionHistory <;>
      simp [SessionRuntime.view, SessionRuntime.updateHistory, hh, SessionHistory.core]

theorem handleVadSpeechEnded_does :
    Returns (handleVadSpeechEnded o.ev) o.desk fun _ d' => Does cfg o o.desk d' := by
  refine does_of_requireActiveSession (fun _ => rfl) fun session hreq => ?_
  simp only
  split
  · simpa using Does.refl _
  · simp only [returns_bind, returns_drawUuid, returns_pure]
    exact .nothing rfl ⟨Nat.le_succ _, rfl, rfl⟩

theorem activeStateEvents_returns (d : Desk) :
    Returns activeStateEvents d fun _ d' => d' = d := by
  simp [activeStateEvents]

theorem handleCommandAck_does :
    Returns (handleCommandAck o.ev) o.desk fun _ d' => Does cfg o o.desk d' := by
  unfold handleCommandAck
  split
  · simpa using Does.refl _
  · rw [returns_bind, returns_modifyShared]
    refine (activeStateEvents_returns _).mono fun _ d' hd => ?_
    exact .nothing (by rw [hd]) ⟨by rw [hd], by rw [hd], by rw [hd]⟩

theorem handleCommandError_does :
    Returns (handleCommandError o.ev) o.desk fun _ d' => Does cfg o o.desk d' := by
  unfold handleCommandError
  split
  · simpa using Does.refl _
  · rw [returns_bind, returns_modifyShared]
    refine (activeStateEvents_returns _).mono fun _ d' hd => ?_
    exact .nothing (by rw [hd]) ⟨by rw [hd], by rw [hd], by rw [hd]⟩

theorem handleUiButtonPressed_does :
    Returns (handleUiButtonPressed o.ev) o.desk fun _ d' => Does cfg o o.desk d' := by
  unfold handleUiButtonPressed
  split <;> simpa using Does.refl _

theorem handleUiScreenChanged_does :
    Returns (handleUiScreenChanged o.ev) o.desk fun _ d' => Does cfg o o.desk d' := by
  unfold handleUiScreenChanged
  split <;> simpa using Does.refl _

/-- Playbacks are tracked apart from the session. -/
theorem trackPlaybackLifecycle_eq (eventType : VoiceEventType) (record : PlaybackRecord)
    (r : SessionRuntime) :
    ∃ playbacks, trackPlaybackLifecycle eventType record r =
      { r with activePlaybacks := playbacks } := by
  unfold trackPlaybackLifecycle
  dsimp only
  split_ifs
  · exact ⟨_, rfl⟩
  · exact ⟨_, rfl⟩
  · exact ⟨_, rfl⟩
  · exact ⟨_, rfl⟩

/-- The follow-up window opens for a session that responds and awaits it. -/
theorem openFollowupWindow_does (cfg : Config) (o : Occasion)
    (hpending : d.self.view.pending.isSome = true) (hs : d.self.activeSession = some session)
    (hstate : session.sessionState = .responding) :
    Returns openFollowupWindow d fun _ d' => Does cfg o d d' := by
  have hlisten : (d.self.listenForFollowup d.shared.now).view = { d.self.view with
      buffer := [], pending := d.self.view.pending.map fun _ => .listening } := by
    simp [SessionRuntime.listenForFollowup, SessionRuntime.view, Function.comp_def]
  obtain ⟨followup, hfollowup⟩ := Option.isSome_iff_exists.mp (by
    simpa [SessionRuntime.view] using hpending : d.self.pendingSessionFollowup.isSome = true)
  unfold openFollowupWindow
  simp only [returns_bind, returns_modifySelf, returns_setSessionState, returns_get, hs, hfollowup,
    returns_drawUuid, returns_emit]
  refine .one (a := .openFollowup
      { id := d.shared.uuid, endpointId := session.endpointId, sessionId := session.sessionId })
    ?_ ⟨hpending, session.core, ?_, hstate⟩ ⟨le_rfl, Nat.lt_succ_self _⟩ ⟨Nat.le_succ _, rfl, rfl⟩
  · rw [SessionRuntime.view_record_life _ rfl, SessionView.act, ← hlisten,
      ← SessionRuntime.view_setSessionState]
    rfl
  · simp [SessionRuntime.view, hs]

theorem handleTtsPlaybackEvent_does (hsteady : o.desk.self.view.Steady) :
    Returns (handleTtsPlaybackEvent cfg o.ev) o.desk fun _ d' => Does cfg o o.desk d' := by
  unfold handleTtsPlaybackEvent
  split
  case h_1 => simpa using Does.refl _
  case h_2 payload hp =>
  set record := playbackRecord o.ev payload o.desk.shared.now with hrecord
  obtain ⟨playbacks, htrack⟩ := trackPlaybackLifecycle_eq o.ev.eventType record o.desk.self
  dsimp only
  rw [returns_bind, returns_get, ← hrecord, returns_bind, returns_modifySelf, returns_bind,
    returns_modifySelf, returns_bind, returns_get, htrack]
  set d : Desk := { o.desk with
    self := SessionRuntime.updateHistory { o.desk.self with activePlaybacks := playbacks }
      fun h => { h with ttsPlayback := some record } } with hd
  have hview : d.self.view = o.desk.self.view := by
    refine (SessionRuntime.view_updateHistory _ fun _ => ?_).trans ?_
    · rfl
    · rfl
  have htracked : Does cfg o o.desk d := .nothing hview (.refl _)
  rw [returns_ite]
  split
  case isTrue hopen =>
    simp only [shouldOpenFollowupWindow, Bool.and_eq_true, decide_eq_true_eq] at hopen
    obtain ⟨-, hpending, hsession⟩ := hopen
    obtain ⟨session, hs, hstate⟩ := Option.any_eq_true _ _ |>.mp hsession
    simp only [Bool.and_eq_true, decide_eq_true_eq] at hstate
    refine (openFollowupWindow_does cfg o (d := d) ?_ hs hstate.2).bind
      fun _ d' hd' => ?_
    · simpa [SessionRuntime.view] using hpending
    · refine (activeStateEvents_returns d').bind fun _ d'' hd'' => ?_
      rw [returns_pure, hd'']
      exact htracked.trans hd'
  case isFalse hopen =>
  rw [returns_ite]
  split
  case isTrue hfailed =>
    have hsteady' : d.self.view.Steady := by rwa [hview]
    refine (cancelActiveSession_returns cfg d _ hsteady').bind fun _ d' hpost => ?_
    obtain ⟨hshared, hview, _⟩ := hpost
    rw [returns_pure]
    exact htracked.trans (.cancel hshared hview)
  case isFalse hfailed =>
    refine (activeStateEvents_returns d).bind fun _ d' hd' => ?_
    rw [returns_pure, hd']
    exact htracked

end others

/-! ### `_handle_audio_chunk` -/

section audioChunk

variable {cfg : Config} {o : Occasion} {session : VoiceSessionSnapshot}
  {payload : VoiceAudioChunkPayload}

variable {ev : VoiceEventEnvelope}

theorem captureMicroVadChunk_quiet (d : Desk) (window : Option PlacementWindow)
    (chunk : Option Chunk) :
    Returns (captureMicroVadChunk cfg payload session window chunk) d fun _ d' => d.Quiet d' := by
  unfold captureMicroVadChunk
  split
  · simpa using Desk.Quiet.refl d
  · rw [returns_ite]
    split
    · simpa using Desk.Quiet.emit d rfl rfl
    · simpa using Desk.Quiet.refl d

theorem captureWakeChunk_quiet (d : Desk) (recordable : Bool) (chunk : Option Chunk) :
    Returns (captureWakeChunk cfg payload session recordable chunk) d fun _ d' => d.Quiet d' := by
  unfold captureWakeChunk
  split
  · simpa using Desk.Quiet.refl d
  · rw [returns_ite]
    split
    · simpa using Desk.Quiet.emit d rfl rfl
    · simpa using Desk.Quiet.refl d

theorem acceptPlacementCapture_returns (d : Desk) {window : Option PlacementWindow}
    (hw : window.isSome = true) :
    Returns (acceptPlacementCapture window) d fun _ d' =>
      d.Alike d' ∧ d'.self.view = d.self.view.capturePlacement := by
  obtain ⟨w, rfl⟩ := Option.isSome_iff_exists.mp hw
  simp only [acceptPlacementCapture, returns_bind, returns_modifySelf, returns_emit,
    returns_setSessionState]
  refine ⟨⟨.refl _, rfl, ?_, ?_⟩, ?_⟩
  · rw [SessionRuntime.setSessionState_eq]; rfl
  · rw [SessionRuntime.setSessionState_eq]; rfl
  · rw [SessionRuntime.view_setSessionState, SessionRuntime.view_record_quiet _ rfl rfl]
    cases hh : d.self.activeSessionHistory <;>
      simp [SessionView.capturePlacement, SessionRuntime.view, SessionRuntime.setWake,
        SessionRuntime.updateHistory, SessionView.wakeAccepted, SessionView.placementTest,
        SessionHistory.core, hh, w.testId_ne]

theorem acceptEnrollmentCapture_returns (d : Desk) :
    Returns (acceptEnrollmentCapture cfg session) d fun _ d' =>
      d.Alike d' ∧ d'.self.view = d.self.view.captureEnrollment := by
  have hlast : ∀ d₁ : Desk, d.Quiet d₁ →
      let r := ((d₁.self.setWake
        { outcome := .accepted, source := some "speaker_id_enrollment_capture" }).record
          .enrollmentCaptureStarted).setSessionState .listening
      d.Alike { d₁ with self := r } ∧ r.view = d.self.view.captureEnrollment := by
    intro d₁ h₁
    refine ⟨h₁.alike.trans ⟨.refl _, rfl, ?_, ?_⟩, ?_⟩
    · rw [SessionRuntime.setSessionState_eq]; rfl
    · rw [SessionRuntime.setSessionState_eq]; rfl
    · rw [SessionRuntime.view_setSessionState, SessionRuntime.view_record_life _ rfl,
        SessionRuntime.view_setWake, h₁.view]
      rfl
  unfold acceptEnrollmentCapture
  by_cases hw : cfg.wakeRecorder <;> by_cases hm : cfg.microVadChunkRecorder <;>
    simp only [hw, hm, if_true, Bool.false_eq_true, if_false, returns_bind, returns_emit,
      returns_modifySelf, returns_setSessionState]
  · exact hlast _ ((Desk.Quiet.emit d rfl rfl).trans (Desk.Quiet.emit _ rfl rfl))
  · exact hlast _ (Desk.Quiet.emit d rfl rfl)
  · exact hlast _ (Desk.Quiet.emit d rfl rfl)
  · exact hlast _ (Desk.Quiet.refl d)

/-- What the capture windows do with a chunk. -/
theorem captureWindows_returns {chunk : Option Chunk} {placement enrollment : Bool}
    (hplacement : placement = (chunk.isSome && d.placementWindowOpen ev.endpointId &&
      capturableStates.contains session.sessionState && !d.self.isPlacementTest))
    (henrollment : enrollment = (chunk.isSome && d.enrollmentWindowOpen ev.endpointId &&
      capturableStates.contains session.sessionState && !d.self.isSpeakerEnrollmentCapture)) :
    Returns (captureWindows cfg ev payload session chunk) d fun accepted d' =>
      accepted = enrollment ∧ d.Alike d' ∧
        d'.self.view = d.self.view.captured placement enrollment := by
  unfold captureWindows
  refine (returns_activePlacementTestWindow d _).bind
    fun window d₁ ⟨hself₁, halike₁, hwindows₁, hwindow⟩ => ?_
  refine (captureMicroVadChunk_quiet d₁ window chunk).bind fun _ d₂ h₂ => ?_
  refine (returns_activeSpeakerEnrollmentCaptureWindow d₂ _).bind
    fun enrollmentWindow d₃ ⟨hself₃, halike₃, henrollmentWindow⟩ => ?_
  refine (captureWakeChunk_quiet d₃ _ chunk).bind fun _ d₄ h₄ => ?_
  have halike₄ : d.Alike d₄ :=
    ((halike₁.trans h₂.alike).trans halike₃).trans h₄.alike
  have hview₄ : d₄.self.view = d.self.view := by rw [h₄.view, hself₃, h₂.view, hself₁]
  have hopen : d₂.enrollmentWindowOpen ev.endpointId = d.enrollmentWindowOpen ev.endpointId :=
    Desk.enrollmentWindowOpen_congr _ (by rw [h₂.shared, halike₁.kept.now_eq])
      (by rw [h₂.shared, hwindows₁])
  rw [returns_bind, returns_get]
  have hp : d₄.self.isPlacementTest = d.self.isPlacementTest := by
    rw [h₄.isPlacementTest, hself₃, h₂.isPlacementTest, hself₁]
  have he : d₄.self.isSpeakerEnrollmentCapture = d.self.isSpeakerEnrollmentCapture := by
    rw [h₄.isSpeakerEnrollmentCapture, hself₃, h₂.isSpeakerEnrollmentCapture, hself₁]
  dsimp only
  rw [hwindow, henrollmentWindow, hopen, hp, he, ← hplacement, ← henrollment]
  cases hpl : placement with
  | false =>
    simp only [Bool.false_eq_true, if_false]
    cases hen : enrollment with
    | false => simpa [SessionView.captured] using ⟨halike₄, hview₄⟩
    | true =>
      simp only [if_true]
      refine (acceptEnrollmentCapture_returns d₄).bind fun _ d₅ ⟨halike₅, hview₅⟩ => ?_
      rw [returns_pure]
      exact ⟨rfl, halike₄.trans halike₅, by rw [hview₅, hview₄]; rfl⟩
  | true =>
    simp only [if_true]
    have hw : window.isSome = true := by
      rw [hwindow]
      simp_all
    refine (acceptPlacementCapture_returns d₄ hw).bind fun _ d₅ ⟨halike₅, hview₅⟩ => ?_
    cases hen : enrollment with
    | false =>
      simp only [Bool.false_eq_true, if_false, returns_pure]
      exact ⟨trivial, halike₄.trans halike₅, by rw [hview₅, hview₄]; rfl⟩
    | true =>
      simp only [if_true]
      refine (acceptEnrollmentCapture_returns d₅).bind fun _ d₆ ⟨halike₆, hview₆⟩ => ?_
      rw [returns_pure]
      exact ⟨rfl, (halike₄.trans halike₅).trans halike₆, by rw [hview₆, hview₅, hview₄]; rfl⟩

/-- A candidate is submitted. -/
theorem submitWakeCandidate_returns (d : Desk) (serial : ℕ) (candidate : WakeCandidate) :
    Returns (submitWakeCandidate serial candidate) d fun decision d' =>
      let result := d.shared.wakeElection.submitCandidate candidate d.shared.uuid
      decision = result.1 ∧
        d' = { self := d.self.record (.electionDecided serial result.1)
               shared := { d.shared with
                 uuid := d.shared.uuid + 1, wakeElection := result.2 } } := by
  simp [submitWakeCandidate]

theorem view_record_electionDecided (r : SessionRuntime) (serial : ℕ)
    (decision : WakeElectionDecision) :
    (r.record (.electionDecided serial decision)).view = r.view.act (.decide serial decision) := by
  rw [SessionRuntime.view_record]
  simp [SessionView.act, Effect.isLife, Effect.decision?]

theorem inspectForWake_none {ans : Answers} (d : Desk)
    (h : (session.sessionState = .idle && (ans.inspectChunk payload).detected) = false) :
    Returns (inspectForWake ans ev payload session) d fun r d' => r = none ∧ d' = d := by
  simp only [inspectForWake, h, Bool.false_eq_true, if_false, returns_pure, and_self]

theorem inspectForWake_some {ans : Answers} (d : Desk)
    (h : (session.sessionState = .idle && (ans.inspectChunk payload).detected) = true) :
    let candidate := backendCandidate session ev payload (ans.inspectChunk payload) d.shared.now
      d.self.chunkCount d.shared.uuid
    let result := d.shared.wakeElection.submitCandidate candidate (d.shared.uuid + 1)
    Returns (inspectForWake ans ev payload session) d fun r d' =>
      r = some (candidate, result.1) ∧
        d' = { self := d.self.record (.electionDecided session.serial result.1)
               shared := { d.shared with
                 uuid := d.shared.uuid + 2, wakeElection := result.2 } } := by
  simp [inspectForWake, h, submitWakeCandidate]

/-- What `_handle_audio_chunk` knows and has done when the wake election has spoken. -/
structure ChunkReceived (cfg : Config) (o : Occasion) (progress : ChunkProgress) (d' : Desk)
    (session : VoiceSessionSnapshot) (payload : VoiceAudioChunkPayload) : Prop where
  chunkOn : o.chunkOn cfg = some (session, payload)
  isActive : o.desk.self.activeSession = some session
  chunk : progress.chunk = o.numbered payload
  enrollment : progress.enrollmentCaptureAccepted = o.enrollmentTakesOver cfg
  backend : progress.backend =
    (o.submittedCandidate cfg).map fun c => (c.2, (o.election c.2).1)
  session_eq : d'.self.activeSession = some progress.session
  view :
    let received := o.desk.self.view.received (o.numbered payload) (o.placementTakesOver cfg)
      (o.enrollmentTakesOver cfg) (session.sessionState = .idle && !o.placementTakesOver cfg &&
        !o.enrollmentTakesOver cfg && o.interruptible)
    d'.self.view = match o.submittedCandidate cfg with
      | some c => received.act (.decide c.1.serial (o.election c.2).1)
      | none => received
  uuid_le : o.uuidAfterElection cfg ≤ d'.shared.uuid
  now_eq : d'.shared.now = o.desk.shared.now
  election_eq : d'.shared.wakeElection = o.electionAfter cfg

theorem receiveChunk_returns (d : Desk) (payload : VoiceAudioChunkPayload) :
    Returns (receiveChunk payload) d fun chunk d' =>
      chunk = payload.audioBytes.map (fun bytes => { arrival := d.self.arrivals, bytes }) ∧
        d'.shared = d.shared ∧ d'.self.view = d.self.view.count chunk ∧
        d'.self.chunkCount = d.self.chunkCount + 1 ∧
        d'.self.activePlaybacks = d.self.activePlaybacks ∧
        d'.self.isPlacementTest = d.self.isPlacementTest ∧
        d'.self.isSpeakerEnrollmentCapture = d.self.isSpeakerEnrollmentCapture := by
  cases h : payload.audioBytes with
  | none =>
    simp only [receiveChunk, h, returns_bind, returns_get, returns_modifySelf, Option.map_none,
      returns_pure]
    exact ⟨trivial, trivial, by simp [SessionView.count], rfl, rfl, rfl, rfl⟩
  | some bytes =>
    simp only [receiveChunk, h, returns_bind, returns_get, returns_modifySelf, Option.map_some,
      returns_emit, returns_pure]
    refine ⟨trivial, trivial, ?_, rfl, rfl, rfl, rfl⟩
    rw [SessionRuntime.view_record_life _ rfl]
    rfl

theorem SessionRuntime.exists_activeSession {r : SessionRuntime} {c : SessionCore}
    (h : r.view.session = some c) : ∃ s, r.activeSession = some s ∧ s.core = c := by
  obtain ⟨s, hs, hc⟩ := Option.map_eq_some_iff.mp h
  exact ⟨s, hs, hc⟩

/-- A session that a capture window takes over is not idle. -/
theorem SessionView.captured_session (v : SessionView) {s : SessionCore} (hs : v.session = some s)
    (placement enrollment : Bool) :
    ∃ s', (v.captured placement enrollment).session = some s' ∧
      (s'.state = .idle ↔ s.state = .idle ∧ placement = false ∧ enrollment = false) ∧
      (placement = false → enrollment = false → s' = s) := by
  have hne : ∀ c : SessionCore, (c.moved .listening).state ≠ .idle := by
    intro c
    unfold SessionCore.moved
    dsimp only
    split <;> simp
  cases placement <;> cases enrollment <;>
    simp [captured, capturePlacement, captureEnrollment, move, wakeAccepted, placementTest, note,
      hs, hne]

theorem view_overhear (r : SessionRuntime) (ev : VoiceEventEnvelope)
    (s : VoiceSessionSnapshot) (chunk : Option Chunk) :
    (r.overhear ev s chunk).view =
      if s.sessionState = .idle && (r.activePlaybackInterrupt ev.endpointId).isSome then
        r.view.append chunk
      else r.view := by
  unfold SessionRuntime.overhear
  split <;> rfl

theorem view_keepAmbient (r : SessionRuntime) (c : ChunkProgress) :
    (r.keepAmbient c).view = r.view := by
  unfold SessionRuntime.keepAmbient
  split <;> rfl

theorem activeSession_keepAmbient (r : SessionRuntime) (c : ChunkProgress) :
    (r.keepAmbient c).activeSession = r.activeSession := by
  unfold SessionRuntime.keepAmbient
  split <;> rfl

theorem audioChunkUntilElection_returns (htype : o.ev.eventType = .audioChunk)
    (hsteady : o.desk.self.view.Steady) :
    Returns (audioChunkUntilElection cfg o.ans.toAnswers o.ev) o.desk fun r d' =>
      match r with
      | .error _ => Does cfg o o.desk d' ∧ o.chunkOn cfg = none
      | .ok progress => ∃ session payload, ChunkReceived cfg o progress d' session payload := by
  unfold audioChunkUntilElection
  cases hreq : o.desk.requiredSession o.ev with
  | none =>
    refine (requireActiveSession_error hreq).bind fun r d hpost => ?_
    obtain ⟨hd, error, hr⟩ := hpost
    rw [hd, hr]
    simp only [returns_pure]
    exact ⟨.refl _, by simp [Occasion.chunkOn, htype, hreq]⟩
  | some session =>
  have hs := Desk.activeSession_of_requiredSession hreq
  have haware : session.startedAt.aware = true :=
    hsteady session.core (by simp [SessionRuntime.view, hs])
  rw [returns_bind, returns_requireActiveSession hreq]
  have haware' : o.ev.timestamp.aware = true :=
    o.event.aware (by rw [show o.event.eventType = _ from htype]; rfl)
  simp only [activeSessionTimeoutReason, returns_bind, returns_get, hs, Datetime.sub, haware,
    haware', if_true, returns_pure]
  cases htimeout : session.timeoutReason cfg (o.ev.timestamp.micros - session.startedAt.micros) with
  | some reason =>
    dsimp only
    rw [returns_bind]
    refine (cancelTimedOutActiveSession_returns cfg o.desk reason hs hsteady).mono
      fun _ d' hpost => ?_
    obtain ⟨hshared, hview, _⟩ := hpost
    rw [returns_pure]
    refine ⟨.cancel hshared hview, ?_⟩
    cases hp : o.ev.payload.audioChunk <;> simp [Occasion.chunkOn, htype, hreq, hp, htimeout]
  | none =>
  cases hp : o.ev.payload.audioChunk with
  | error message =>
    simp only [returns_pure]
    exact ⟨.refl _, by simp [Occasion.chunkOn, htype, hreq, hp]⟩
  | ok payload =>
  have hon : o.chunkOn cfg = some (session, payload) := by
    simp [Occasion.chunkOn, htype, hreq, hp, htimeout]
  refine (receiveChunk_returns o.desk payload).bind
    fun chunk d₁ hpost => ?_
  obtain ⟨hchunk, hshared₁, hview₁, hcount₁, hplaybacks₁, hp₁, he₁⟩ := hpost
  have hplacement : o.placementTakesOver cfg = (chunk.isSome &&
      d₁.placementWindowOpen o.ev.endpointId && capturableStates.contains session.sessionState &&
      !d₁.self.isPlacementTest) := by
    simp [Occasion.placementTakesOver, hon, hchunk, hp₁, Desk.placementWindowOpen, hshared₁]
  have henrollment : o.enrollmentTakesOver cfg = (chunk.isSome &&
      d₁.enrollmentWindowOpen o.ev.endpointId && capturableStates.contains session.sessionState &&
      !d₁.self.isSpeakerEnrollmentCapture) := by
    simp [Occasion.enrollmentTakesOver, hon, hchunk, he₁, Desk.enrollmentWindowOpen, hshared₁]
  refine (captureWindows_returns hplacement henrollment).bind
    fun accepted d₂ hpost => ?_
  obtain ⟨haccepted, halike₂, hview₂⟩ := hpost
  -- the session as the windows left it
  obtain ⟨c, hc, hidle, hsame⟩ := (o.desk.self.view.count chunk).captured_session
    (s := session.core) (by simp [SessionView.count, SessionRuntime.view, hs])
    (o.placementTakesOver cfg) (o.enrollmentTakesOver cfg)
  obtain ⟨s', hs', hcore⟩ := SessionRuntime.exists_activeSession
    (r := d₂.self) (by rw [hview₂, hview₁, hc])
  have hidle' : s'.sessionState = .idle ↔ session.sessionState = .idle ∧
      o.placementTakesOver cfg = false ∧ o.enrollmentTakesOver cfg = false := by
    rw [← VoiceSessionSnapshot.core_state, hcore, hidle, VoiceSessionSnapshot.core_state]
  have hidleB : decide (s'.sessionState = .idle) = (decide (session.sessionState = .idle) &&
      !o.placementTakesOver cfg && !o.enrollmentTakesOver cfg) := by
    rw [Bool.eq_iff_iff]
    simp [hidle', and_assoc]
  have hinterrupt : (d₂.self.activePlaybackInterrupt o.ev.endpointId).isSome = o.interruptible := by
    simp [Occasion.interruptible, SessionRuntime.activePlaybackInterrupt,
      halike₂.activePlaybacks_eq, hplaybacks₁]
  rw [returns_bind, returns_currentSession, returns_bind, returns_modifySelf, hs', Option.getD_some]
  set d₃ : Desk := { d₂ with self := d₂.self.overhear o.ev s' chunk } with hd₃
  have hview₃ : d₃.self.view = o.desk.self.view.received (o.numbered payload)
      (o.placementTakesOver cfg) (o.enrollmentTakesOver cfg) (session.sessionState = .idle &&
        !o.placementTakesOver cfg && !o.enrollmentTakesOver cfg && o.interruptible) := by
    rw [hd₃, view_overhear, hinterrupt, hidleB, hview₂, hview₁, hchunk]
    rfl
  have hs₃ : d₃.self.activeSession = some s' := by
    rw [hd₃, ← hs']
    unfold SessionRuntime.overhear
    split <;> rfl
  have hcount₃ : d₃.self.chunkCount = o.desk.self.chunkCount + 1 := by
    rw [← hcount₁, ← halike₂.chunkCount_eq, hd₃]
    unfold SessionRuntime.overhear
    split <;> rfl
  have hkept₃ : o.desk.shared.Kept d₃.shared := hshared₁ ▸ halike₂.kept
  have huuid₃ : d₃.shared.uuid = o.desk.shared.uuid := by
    rw [← hshared₁]; exact halike₂.uuid_eq
  cases hdetect : (s'.sessionState = .idle && (o.ans.inspectChunk payload).detected) with
  | false =>
    refine (inspectForWake_none d₃ hdetect).bind fun backend d₄ hpost => ?_
    obtain ⟨hbackend, hd₄⟩ := hpost
    rw [returns_bind, returns_modifySelf, returns_pure]
    have hsubmitted : o.submittedCandidate cfg = none := by
      rw [hidleB] at hdetect
      simp only [Occasion.submittedCandidate, htype, hon, Option.filter_some, hdetect,
        Bool.false_eq_true, if_false]
    refine ⟨session, payload, hon, hs, hchunk, haccepted, ?_, ?_, ?_, ?_, ?_, ?_⟩
    · simp [hbackend, hsubmitted]
    · rw [activeSession_keepAmbient, hd₄, hs₃]
    · rw [view_keepAmbient, hd₄, hsubmitted, hview₃]
    · rw [hd₄, Occasion.uuidAfterElection, hsubmitted]; exact hkept₃.uuid_le
    · rw [hd₄]; exact hkept₃.now_eq
    · rw [hd₄, Occasion.electionAfter, hsubmitted]; exact hkept₃.election_eq
  | true =>
    refine (inspectForWake_some d₃ hdetect).bind fun backend d₄ hpost => ?_
    obtain ⟨hbackend, hd₄⟩ := hpost
    rw [returns_bind, returns_modifySelf, returns_pure]
    have hstate : s'.sessionState = .idle := by
      simp only [Bool.and_eq_true, decide_eq_true_eq] at hdetect
      exact hdetect.1
    have hcore' : s'.core = session.core := by
      rw [hcore]
      exact hsame (hidle'.mp hstate).2.1 (hidle'.mp hstate).2.2
    have hserial : s'.serial = session.serial := congrArg SessionCore.serial hcore'
    have hsessionId : s'.sessionId = session.sessionId := congrArg SessionCore.sessionId hcore'
    set candidate := backendCandidate session o.ev payload (o.ans.inspectChunk payload)
      o.desk.shared.now (o.desk.self.chunkCount + 1) o.desk.shared.uuid with hcandidate
    have hcandidate' : backendCandidate s' o.ev payload (o.ans.inspectChunk payload) d₃.shared.now
        d₃.self.chunkCount d₃.shared.uuid = candidate := by
      rw [hcandidate, hkept₃.now_eq, hcount₃, huuid₃]
      simp [backendCandidate, hsessionId]
    have hsubmitted : o.submittedCandidate cfg = some (session, candidate) := by
      rw [hidleB] at hdetect
      simp only [Occasion.submittedCandidate, htype, hon, Option.filter_some, hdetect, if_true]
      rfl
    rw [hcandidate', huuid₃, hkept₃.election_eq, hserial] at hd₄
    rw [hcandidate', huuid₃, hkept₃.election_eq] at hbackend
    refine ⟨session, payload, hon, hs, hchunk, haccepted, ?_, ?_, ?_, ?_, ?_, ?_⟩
    · simp [hbackend, hsubmitted, Occasion.election]
    · rw [activeSession_keepAmbient, hd₄]
      exact hs₃
    · rw [view_keepAmbient, hd₄, hsubmitted, view_record_electionDecided, hview₃]
      rfl
    · rw [hd₄, Occasion.uuidAfterElection, hsubmitted]
    · rw [hd₄]
      exact hkept₃.now_eq
    · rw [hd₄, Occasion.electionAfter, hsubmitted]
      rfl

/-- The wake of the session is accepted. -/
theorem acceptWakeCandidate_returns (d : Desk) (candidate : WakeCandidate)
    (decision : WakeElectionDecision) :
    Returns (acceptWakeCandidate cfg session candidate decision) d fun _ d' =>
      d'.shared = d.shared ∧
        d'.self.view = d.self.view.act (.accept session.serial decision.electionId candidate) := by
  have hlast : ∀ r : SessionRuntime, d.Quiet { d with self := r } →
      (((r.setWake
        { outcome := .accepted, source := some candidate.source
          electionId := some decision.electionId }).record
          (.wakeAccepted session.serial decision.electionId candidate)).setSessionState
            .wakeDetected |>.setSessionState .listening).view =
        d.self.view.act (.accept session.serial decision.electionId candidate) := by
    intro r h
    rw [SessionRuntime.view_setSessionState, SessionRuntime.view_setSessionState,
      SessionRuntime.view_record_life _ rfl, SessionRuntime.view_setWake, h.view]
    rfl
  unfold acceptWakeCandidate
  by_cases hw : cfg.wakeRecorder <;> by_cases hm : cfg.microVadChunkRecorder <;>
    simp only [hw, hm, if_true, Bool.false_eq_true, if_false, returns_bind, returns_emit,
      returns_modifySelf, returns_setSessionState, returns_currentSession, returns_pure]
  · exact ⟨trivial, hlast _ ((Desk.Quiet.emit d rfl rfl).trans (Desk.Quiet.emit _ rfl rfl))⟩
  · exact ⟨trivial, hlast _ (Desk.Quiet.emit d rfl rfl)⟩
  · exact ⟨trivial, hlast _ (Desk.Quiet.emit d rfl rfl)⟩
  · exact ⟨trivial, hlast _ (Desk.Quiet.refl d)⟩

theorem returns_sessionAfterStandDown (d : Desk) (session : VoiceSessionSnapshot)
    (Q : VoiceSessionSnapshot → Desk → Prop) :
    Returns (sessionAfterStandDown session) d Q ↔
      Q (d.self.activeSession.getD
        { session.moved .cancelled with cancelReason := some standDownReason }) d := by
  simp [sessionAfterStandDown]

/-- Stood down or not, it is the same session. -/
theorem serial_sessionAfterStandDown {r : SessionRuntime}
    (hactive : r.activeSession = none ∨ r.activeSession = some session) :
    (r.activeSession.getD
      { session.moved .cancelled with cancelReason := some standDownReason }).serial =
      session.serial := by
  have hmoved : (session.moved .cancelled).serial = session.serial := by
    unfold VoiceSessionSnapshot.moved
    split <;> rfl
  rcases hactive with hs | hs <;> rw [hs] <;> simp [hmoved]

/-- A session that was stood down neither listens nor captures. -/
theorem moved_cancelled_captures (s : VoiceSessionSnapshot) :
    (decide ((s.moved .cancelled).sessionState = .listening) ||
      decide ((s.moved .cancelled).sessionState = .capturing)) = false := by
  unfold VoiceSessionSnapshot.moved
  split <;> simp

theorem captureChunk_returns (d : Desk) (c : ChunkProgress) :
    Returns (captureChunk c) d fun _ d' => d'.shared = d.shared ∧ d'.self.view = d.self.view.take
      (if !c.wakeAccepted && !c.enrollmentCaptureAccepted then c.chunk else none) := by
  unfold captureChunk
  rw [returns_bind, returns_sessionAfterStandDown]
  cases hs : d.self.activeSession with
  | none =>
    simp only [Option.getD_none, moved_cancelled_captures, Bool.false_eq_true, if_false, returns_pure]
    exact ⟨trivial, by simp [SessionView.take, SessionRuntime.view, hs]⟩
  | some s =>
    have hcaptures : (d.self.view.session.any fun s =>
        s.state = .listening || s.state = .capturing) =
        (decide (s.sessionState = .listening) || decide (s.sessionState = .capturing)) := by
      simp only [SessionRuntime.view, hs, Option.map_some, Option.any_some]
      rfl
    rw [Option.getD_some, returns_ite]
    unfold SessionView.take
    rw [hcaptures]
    split
    · rw [returns_bind, returns_setSessionState]
      split
      · simp
      · simp [SessionView.append]
    · simp

/-- `_handle_audio_chunk` from where a chunk without an accepted wake goes on. -/
theorem audioChunkAfterElection_of_not_accepted {progress : ChunkProgress}
    (h : progress.wakeAccepted = false) :
    Returns (audioChunkAfterElection cfg progress) d fun _ d' =>
      d'.shared = d.shared ∧ d'.self.view = d.self.view.take
        (if progress.enrollmentCaptureAccepted then none else progress.chunk) := by
  have hnothing : acceptBackendCandidate cfg progress = (do
      let _ ← sessionAfterStandDown progress.session
      return []) := by
    unfold acceptBackendCandidate
    cases hb : progress.backend with
    | none => rfl
    | some b => simp_all [ChunkProgress.wakeAccepted]
  unfold audioChunkAfterElection
  rw [returns_bind, hnothing]
  simp only [returns_bind, returns_sessionAfterStandDown, returns_pure]
  refine (captureChunk_returns d progress).mono fun _ d' hpost => ?_
  obtain ⟨hshared, hview⟩ := hpost
  refine ⟨hshared, ?_⟩
  rw [hview, h]
  cases progress.enrollmentCaptureAccepted <;> simp

/-- `_handle_audio_chunk` from where a chunk with an accepted wake goes on. -/
theorem audioChunkAfterElection_of_accepted {progress : ChunkProgress}
    {candidate : WakeCandidate} {decision : WakeElectionDecision}
    (hbackend : progress.backend = some (candidate, decision)) (h : decision.accepted = true)
    (hactive : d.self.activeSession = none ∨ d.self.activeSession = some progress.session) :
    Returns (audioChunkAfterElection cfg progress) d fun _ d' =>
      d'.shared = d.shared ∧ d'.self.view = (d.self.view.act
        (.accept progress.session.serial decision.electionId candidate)).act .capture := by
  have hwake : progress.wakeAccepted = true := by simp [ChunkProgress.wakeAccepted, hbackend, h]
  have hserial := serial_sessionAfterStandDown hactive
  unfold audioChunkAfterElection acceptBackendCandidate
  rw [returns_bind, returns_bind, returns_sessionAfterStandDown, hbackend]
  simp only [h, if_true]
  refine (acceptWakeCandidate_returns d candidate decision).mono fun _ d₁ ⟨hshared₁, hview₁⟩ => ?_
  refine (captureChunk_returns d₁ progress).bind fun _ d₂ ⟨hshared₂, hview₂⟩ => ?_
  rw [returns_bind, returns_sessionAfterStandDown, returns_pure]
  refine ⟨hshared₂.trans hshared₁, ?_⟩
  rw [hview₂, hview₁, hserial, hwake]
  simp [SessionView.act]

end audioChunk

/-! ### `_handle_wake_candidate` -/

section wakeCandidate

variable {cfg : Config} {o : Occasion}

theorem wakeCandidateUntilElection_returns (cfg : Config) (htype : o.ev.eventType = .wakeCandidate) :
    Returns (wakeCandidateUntilElection o.ev) o.desk fun r d' =>
      o.uuidAfterElection cfg ≤ d'.shared.uuid ∧ d'.shared.now = o.desk.shared.now ∧
        d'.shared.wakeElection = o.electionAfter cfg ∧
        (d'.self.view = match o.submittedCandidate cfg with
          | some c => o.desk.self.view.act (.decide c.1.serial (o.election c.2).1)
          | none => o.desk.self.view) ∧
        match r with
        | .error _ => o.acceptedCandidate cfg = none
        | .ok (session, candidate, decision) =>
          o.acceptedCandidate cfg = some (session, candidate, decision) ∧
            d'.self.activeSession = some session ∧
            o.desk.self.activeSession = some session ∧ session.sessionState = .idle := by
  unfold wakeCandidateUntilElection
  cases hreq : o.desk.requiredSession o.ev with
  | none =>
    have hsubmitted : o.submittedCandidate cfg = none := by
      simp [Occasion.submittedCandidate, htype, hreq]
    refine (requireActiveSession_error hreq).bind fun r d ⟨hd, error, hr⟩ => ?_
    rw [hd, hr]
    simp [Occasion.electionAfter, Occasion.acceptedCandidate, Occasion.uuidAfterElection, hsubmitted]
  | some session =>
  have hs := Desk.activeSession_of_requiredSession hreq
  rw [returns_bind, returns_requireActiveSession hreq]
  simp only
  cases hp : o.ev.payload.wakeCandidate with
  | error message =>
    have hsubmitted : o.submittedCandidate cfg = none := by
      simp only [Occasion.submittedCandidate, htype, hreq, hp]
      split <;> simp_all
    simp [Occasion.electionAfter, Occasion.acceptedCandidate, Occasion.uuidAfterElection, hsubmitted]
  | ok payload =>
    simp only
    rw [returns_bind, returns_drawUuid, returns_ite]
    split
    case isTrue hstate =>
      have hsubmitted : o.submittedCandidate cfg = none := by
        simp [Occasion.submittedCandidate, htype, hreq, hp, hstate]
      simp [Occasion.electionAfter, Occasion.acceptedCandidate, Occasion.uuidAfterElection,
        hsubmitted]
      omega
    case isFalse hstate =>
      have hidle : session.sessionState = .idle := by simpa using hstate
      set candidate := wakeCandidateFromPayload session o.ev.endpointId payload
        o.desk.shared.now o.desk.shared.uuid with hcandidate
      have hsubmitted : o.submittedCandidate cfg = some (session, candidate) := by
        simp only [Occasion.submittedCandidate, htype, hreq, hp, Option.filter_some, hidle,
          decide_true, if_true, hcandidate]
      rw [returns_bind, returns_get]
      refine (submitWakeCandidate_returns _ session.serial candidate).bind
        fun decision d ⟨hdecision, hd⟩ => ?_
      have hdecision' : decision = (o.election candidate).1 := hdecision
      have hview : d.self.view =
          o.desk.self.view.act (.decide session.serial (o.election candidate).1) := by
        rw [hd, view_record_electionDecided]
        rfl
      have helection : d.shared.wakeElection = o.electionAfter cfg := by
        rw [Occasion.electionAfter, hsubmitted, hd]
        rfl
      have huuid : o.uuidAfterElection cfg ≤ d.shared.uuid := by
        rw [hd, Occasion.uuidAfterElection, hsubmitted]
      have hnow : d.shared.now = o.desk.shared.now := by rw [hd]
      have hactive : d.self.activeSession = some session := by rw [hd]; exact hs
      rw [returns_ite, hsubmitted]
      split
      case isTrue haccepted =>
        rw [returns_pure]
        refine ⟨huuid, hnow, helection, hview, ?_, hactive, hs, hidle⟩
        simp only [Occasion.acceptedCandidate, hsubmitted, ← hdecision', haccepted, if_true]
        rfl
      case isFalse haccepted =>
        rw [returns_pure]
        refine ⟨huuid, hnow, helection, hview, ?_⟩
        rw [Occasion.acceptedCandidate, hsubmitted]
        simpa [← hdecision'] using haccepted

/-- `_handle_wake_candidate` from where the replaced winner has been stood down. -/
theorem wakeCandidateAfterElection_returns
    {candidate : WakeCandidate} {decision : WakeElectionDecision}
    (hactive : d.self.activeSession = none ∨ d.self.activeSession = some session) :
    Returns (wakeCandidateAfterElection cfg session candidate decision) d fun _ d' =>
      d'.shared = d.shared ∧
        d'.self.view = d.self.view.act (.accept session.serial decision.electionId candidate) := by
  have hserial := serial_sessionAfterStandDown hactive
  unfold wakeCandidateAfterElection
  rw [returns_bind, returns_sessionAfterStandDown]
  refine (acceptWakeCandidate_returns d candidate decision).bind fun _ d₁ ⟨hshared₁, hview₁⟩ => ?_
  rw [returns_bind, returns_sessionAfterStandDown, returns_pure]
  exact ⟨hshared₁, by rw [hview₁, hserial]⟩

end wakeCandidate

end HexeVoice.Voice
