import HexeVoice.Voice.Sessions

/-!
# The states of a session

`_set_session_state` moves a session that is asked for a transition which is not allowed to
`failed`, a state that nothing but a cancellation leaves: the session would neither time out
nor give way to a new one.

## What is proved

`moves_legal`: a session is asked for allowed transitions only, as long as no `audio.end`
finds it `listening` or `responding` and no capture window takes it over while it captures.
`session_released`: a session does not come to rest where nothing releases it, as long as no
turn asks a follow-up of a session that does not capture, and no capture window takes over
one that does. Each condition has the run that shows what happens without it.
-/

namespace HexeVoice.Voice

open HexeVoice.Library

/-! ### The conditions -/

namespace Occasion

variable (cfg : Config) (o : Occasion)

/-- No capture window takes a session over that captures. -/
def takesOverLegally : Bool :=
  !o.takesOver cfg || o.desk.self.activeSession.all fun s => s.sessionState ≠ .capturing

/-- The audio of a session ends before its wake or while it captures, and no capture window
takes a session over that captures. -/
def movesLegally : Bool :=
  (o.audioEndSession.all fun s => s.sessionState = .idle || s.sessionState = .capturing) &&
    o.takesOverLegally cfg

/-- Only a session that captures is left to respond with a follow-up, and no capture window
takes over one that captures. -/
def leavesReleasable : Bool :=
  (o.audioEndSession.all fun s => !o.asksFollowup cfg s || s.sessionState = .capturing) &&
    o.takesOverLegally cfg

end Occasion

/-! ### Legal paths -/

namespace VoiceSessionState

variable (state : VoiceSessionState) (path : List VoiceSessionState)

/-- Every move on the path is a self-loop or an allowed transition. -/
def legalPath : Bool := (state.movesAlong path).all fun m => legalMove m.1 m.2

/-- A session that moves along a legal path comes where it is asked to. -/
theorem along_of_legalPath (h : state.legalPath path = true) :
    state.along path = path.getLastD state := by
  induction path generalizing state with
  | nil => rfl
  | cons next path ih =>
    simp only [legalPath, movesAlong, List.all_cons, Bool.and_eq_true] at h
    have hnext : state.along [next] = next := by simp [along, h.1]
    have hrest : next.legalPath path = true := by rw [legalPath, ← hnext]; exact h.2
    have hcons : state.along (next :: path) = (state.along [next]).along path :=
      state.along_append [next] path
    rw [hcons, hnext, ih next hrest, List.getLastD_cons]

end VoiceSessionState

/-- The states that a session rests in while it has not failed. -/
def awakeStates : List VoiceSessionState := [.idle, .listening, .capturing, .responding]

section legal

variable {cfg : Config} {Q : Occasion → Prop} {w : SessionView} {s : SessionCore}
  {a : SessionAction} {o : Occasion} {session : VoiceSessionSnapshot}

theorem SessionView.Sound.mem_awakeStates (h : w.Sound) (hs : w.session = some s)
    (hfailed : s.state ≠ .failed) : s.state ∈ awakeStates := by
  have hstate := h.state s hs
  simp only [List.mem_cons, List.not_mem_nil, or_false, awakeStates] at hstate ⊢
  rcases hstate with h | h | h | h | h <;> simp_all

theorem not_capturing_of_takesOver (hactive : o.desk.self.activeSession = some session)
    (hlegal : o.takesOverLegally cfg = true) (htakes : o.takesOver cfg = true) :
    session.sessionState ≠ .capturing := by
  simpa [Occasion.takesOverLegally, htakes, hactive] using hlegal

theorem chunk_legalPath {state : VoiceSessionState} (placement enrollment : Bool)
    (hawake : state ∈ awakeStates)
    (htakeover : placement = true ∨ enrollment = true →
      state ∈ capturableStates ∧ state ≠ .capturing) :
    state.legalPath (chunkPath state placement enrollment) = true := by
  simp only [awakeStates, List.mem_cons, List.not_mem_nil, or_false] at hawake
  by_cases hwindow : placement = true ∨ enrollment = true
  · obtain ⟨hcapturable, hne⟩ := htakeover hwindow
    rcases hawake with rfl | rfl | rfl | rfl
    · cases placement <;> cases enrollment <;> decide
    · cases placement <;> cases enrollment <;> decide
    · exact absurd rfl hne
    · simp [capturableStates] at hcapturable
  · obtain ⟨rfl, rfl⟩ : placement = false ∧ enrollment = false := by simpa using hwindow
    rcases hawake with rfl | rfl | rfl | rfl <;> decide

/-- A session that a turn's follow-up keeps going captured. -/
theorem capturing_of_followup {audio : Option VoiceTurnAudioSummary} {path : List VoiceSessionState}
    (hok : o.leavesReleasable cfg = true) (hend : o.audioEndSession = some session)
    (hpath : EndPath session.sessionState audio.isSome true path)
    (haudio : ∀ a ∈ audio, o.runsTurn cfg session = true ∧ a = o.desk.self.audioSummary session)
    (hasks : (o.ans.completeTurn (o.desk.self.audioSummary session)).asksFollowup = true) :
    session.sessionState = .capturing := by
  obtain ⟨a, ha⟩ := Option.isSome_iff_exists.mp hpath.followup_eq.1
  have hfollowup : o.asksFollowup cfg session = true := by
    simp [Occasion.asksFollowup, (haudio a ha).1, hasks]
  simp only [Occasion.leavesReleasable, hend, Option.all_some, Bool.and_eq_true] at hok
  simpa [hfollowup] using hok.1

/-- An action that leaves the session going asks for allowed transitions only, if a session
that captures is neither taken over nor kept from responding. -/
theorem legalPath_of_not_ends (hsound : w.Sound) (hs : w.session = some s)
    (hfailed : s.state ≠ .failed) (htakes : Takes cfg (fun o => o.leavesReleasable cfg = true) w a)
    (hstart : a.isStart = false) (hends : a.ends = false) :
    s.state.legalPath (a.path s.state) = true := by
  have hawake := hsound.mem_awakeStates hs hfailed
  cases a with
  | start | cancel => simp_all [SessionAction.isStart, SessionAction.ends]
  | hear | decide | taskDone => rfl
  | audioEnd audio path followup =>
    obtain rfl : followup = true := by simpa [SessionAction.ends] using hends
    obtain ⟨o, hok, rfl, session, hend, hactive, hpath, haudio, hasks⟩ :=
      htakes.permitted (by simp) (by simp)
    obtain rfl := Option.some.inj (hs.symm.trans (SessionRuntime.view_session hactive))
    obtain ⟨-, answer, hanswer, rfl⟩ := hpath.followup_eq
    have hcapturing : session.core.state = .capturing :=
      capturing_of_followup hok hend hpath haudio (hasks rfl)
    rw [← VoiceSessionSnapshot.core_state, hcapturing]
    rcases hanswer with rfl | rfl <;> rfl
  | chunk chunk placement enrollment overheard =>
    obtain ⟨o, hok, rfl, session, payload, hon, hactive, -, rfl, rfl, -⟩ :=
      htakes.permitted (by simp) (by simp)
    obtain rfl := Option.some.inj (hs.symm.trans (SessionRuntime.view_session hactive))
    refine chunk_legalPath _ _ hawake fun htakeover => ?_
    have hlegal : o.takesOverLegally cfg = true := by
      simp only [Occasion.leavesReleasable, Bool.and_eq_true] at hok
      exact hok.2
    exact ⟨SessionView.mem_capturableStates_of_takesOver hon htakeover,
      not_capturing_of_takesOver hactive hlegal (by simpa [Occasion.takesOver] using htakeover)⟩
  | accept serial electionId candidate =>
    obtain ⟨o, -, session, decision, -, -, -, -, hidle, hview⟩ :=
      htakes.permitted (by simp) (by simp)
    rcases hview with ⟨hnone, -⟩ | ⟨hview, -⟩
    · rw [hs] at hnone
      cases hnone
    · obtain rfl := Option.some.inj (hs.symm.trans hview)
      have hstate : session.core.state = .idle := hidle
      rw [hstate]
      rfl
  | capture => exact chunk_legalPath false false hawake (by simp)
  | openFollowup task =>
    obtain ⟨o, -, -, s', hs', hresponding⟩ := htakes.permitted (by simp) (by simp)
    obtain rfl := Option.some.inj (hs.symm.trans hs')
    rw [hresponding]
    rfl

/-- An action that leaves the session going does not ask it to fail. -/
theorem failed_not_mem_path (htakes : Takes cfg Q w a) (hends : a.ends = false)
    (state : VoiceSessionState) : .failed ∉ a.path state := by
  cases a with
  | audioEnd audio path followup =>
    obtain rfl : followup = true := by simpa [SessionAction.ends] using hends
    obtain ⟨o, -, -, session, -, -, hpath, -⟩ := htakes.permitted (by simp) (by simp)
    obtain ⟨-, answer, hanswer, rfl⟩ := hpath.followup_eq
    rcases hanswer with rfl | rfl <;>
      simp only [SessionAction.path, toTranscribing] <;> split <;> decide
  | chunk chunk placement enrollment overheard =>
    simp only [SessionAction.path, chunkPath, takeoverPath, capturePath]
    split <;> split <;> split <;> decide
  | capture =>
    simp only [SessionAction.path, capturePath]
    split <;> decide
  | start session manual placementTest =>
    simp only [SessionAction.path]
    split <;> decide
  | _ => simp [SessionAction.path]

/-- An action that ends the session asks for allowed transitions only, if the audio of a
session ends before its wake or while it captures. -/
theorem legalPath_of_ends (hsound : w.Sound) (hs : w.session = some s)
    (hfailed : s.state ≠ .failed) (htakes : Takes cfg (fun o => o.movesLegally cfg = true) w a)
    (hends : a.ends = true) : s.state.legalPath (a.path s.state) = true := by
  have hawake := hsound.mem_awakeStates hs hfailed
  cases a with
  | cancel =>
    simp only [awakeStates, List.mem_cons, List.not_mem_nil, or_false] at hawake
    rcases hawake with h | h | h | h <;> rw [h] <;> rfl
  | audioEnd audio path followup =>
    obtain ⟨o, hok, rfl, session, hend, hactive, hpath, -⟩ := htakes.permitted (by simp) (by simp)
    obtain rfl := Option.some.inj (hs.symm.trans (SessionRuntime.view_session hactive))
    obtain rfl : followup = false := by simpa [SessionAction.ends] using hends
    have hstate : session.sessionState = .idle ∨ session.sessionState = .capturing := by
      simp only [Occasion.movesLegally, hend, Option.all_some, Bool.and_eq_true] at hok
      simpa using hok.1
    rw [VoiceSessionSnapshot.core_state]
    rcases hpath.ended_eq with ⟨hidle, rfl⟩ | ⟨hne, tail, htail, rfl⟩
    · rw [hidle]
      rfl
    · rw [hstate.resolve_left hne]
      have hlegal : ∀ tail ∈ endTails, VoiceSessionState.capturing.legalPath
          (toTranscribing .capturing ++ tail) = true := by decide
      exact hlegal tail htail
  | _ => simp [SessionAction.ends] at hends

/-- An event that asks for allowed transitions only leaves no session that failed. -/
theorem Occasion.leavesReleasable_of_movesLegally (o : Occasion) (h : o.movesLegally cfg = true) :
    o.leavesReleasable cfg = true := by
  simp only [movesLegally, leavesReleasable, Bool.and_eq_true] at h ⊢
  refine ⟨?_, h.2⟩
  cases hend : o.audioEndSession with
  | none => rfl
  | some session =>
    have hstate : session.sessionState = .idle ∨ session.sessionState = .capturing := by
      simpa [hend] using h.1
    rcases hstate with hidle | hcapturing
    · simp [asksFollowup, runsTurn, hidle]
    · simp [hcapturing]

end legal

/-! ### No session is stuck -/

/-- The session has not failed. -/
def SessionView.Awake (w : SessionView) : Prop := ∀ s ∈ w.session, s.state ≠ .failed

theorem awake_invariant (cfg : Config) :
    SessionInvariant cfg (fun o => o.leavesReleasable cfg = true) fun _ w => w.Sound ∧ w.Awake := by
  refine (sound_invariant cfg _).and (by rintro s ⟨⟩) (fun _ h => h) ?_
  intro n m w a hsound hawake _ _ htakes
  cases hstart : a.isStart with
  | true =>
    cases a with
    | start session manual placementTest =>
      obtain ⟨o, -, -, hidle, -, -⟩ := htakes.permitted (by simp) (by simp)
      intro s hs
      rw [(SessionView.act_start w session manual placementTest).1] at hs
      cases hs
      rw [hidle]
      cases manual <;> exact (nomatch ·)
    | _ => simp [SessionAction.isStart] at hstart
  | false =>
    intro s hs
    cases hw : w.session with
    | none =>
      rw [(SessionView.act_of_none hw hstart).1] at hs
      cases hs
    | some s₀ =>
      rw [SessionView.act_session hw hstart] at hs
      split at hs
      case isTrue => cases hs
      case isFalse hends =>
        cases hs
        have hlegal := legalPath_of_not_ends hsound hw (hawake s₀ hw) htakes hstart
          (by simpa using hends)
        simp only
        rw [VoiceSessionState.along_of_legalPath _ _ hlegal]
        intro hfailed
        have hmem : (a.path s₀.state).getLastD s₀.state ∈ s₀.state :: a.path s₀.state :=
          List.getLastD_mem_cons
        rw [hfailed] at hmem
        rcases List.mem_cons.mp hmem with heq | hpath
        · exact hawake s₀ hw heq.symm
        · exact failed_not_mem_path htakes (by simpa using hends) _ hpath

/-- **No session is stuck.** -/
theorem session_released (cfg : Config) (i : RuntimeId) (inputs : List Input)
    (hok : AllSteps (step cfg) (Meets (fun o => o.leavesReleasable cfg = true) i) (.init cfg) inputs) :
    ∀ session ∈ ((run (step cfg) (.init cfg) inputs).sessions i).activeSession,
      session.sessionState ∈ [VoiceSessionState.idle, .listening, .capturing] ∨
        session.sessionState = .responding ∧
          ((run (step cfg) (.init cfg) inputs).sessions i).pendingSessionFollowup.isSome = true := by
  obtain ⟨hsound, hawake⟩ := (awake_invariant cfg).run hok
  intro session hsession
  have hview := SessionRuntime.view_session hsession
  have hstate := hsound.mem_awakeStates hview (hawake _ hview)
  simp only [awakeStates, List.mem_cons, List.not_mem_nil, or_false] at hstate
  rcases hstate with h | h | h | h
  · exact .inl (by simp_all)
  · exact .inl (by simp_all)
  · exact .inl (by simp_all)
  · refine .inr ⟨h, ?_⟩
    have hpending := hsound.responding _ hview h
    obtain ⟨p, hp, -⟩ := Option.map_eq_some_iff.mp hpending
    simp [hp]

theorem session_released_utterance :
    ((run (step {}) (.init {}) (utterance asksAgain)).sessions (.connection 0)).activeSession.all
      (fun session => decide (session.sessionState ∈ [VoiceSessionState.idle, .listening, .capturing] ∨
        session.sessionState = .responding ∧
          ((run (step {}) (.init {}) (utterance asksAgain)).sessions
            (.connection 0)).pendingSessionFollowup.isSome = true)) = true := by
  rw [Option.all_eq_true]
  intro session hsession
  exact decide_eq_true
    (session_released {} (.connection 0) (utterance asksAgain) (by decide +kernel) session hsession)

/-- A session that is started with a button listens. If its audio ends before a chunk was
captured and the answer asks a follow-up, it is left failed. -/
theorem session_stuck :
    ¬ ∀ session ∈ ((run (step {}) (.init {}) [kitchenConnects, kitchen .sessionStart buttonPayload,
        kitchen .audioEnd {} asksAgain]).sessions (.connection 0)).activeSession,
      session.sessionState ∈ [VoiceSessionState.idle, .listening, .capturing] ∨
        session.sessionState = .responding ∧
          ((run (step {}) (.init {}) [kitchenConnects, kitchen .sessionStart buttonPayload,
            kitchen .audioEnd {} asksAgain]).sessions
              (.connection 0)).pendingSessionFollowup.isSome = true := by
  decide

/-! ### Every move is legal -/

/-- Every move that was asked for is a self-loop or an allowed transition. -/
def SessionView.Legal (w : SessionView) : Prop := ∀ m ∈ w.moves, legalMove m.1 m.2 = true

theorem legal_invariant (cfg : Config) :
    SessionInvariant cfg (fun o => o.movesLegally cfg = true) fun _ w =>
      (w.Sound ∧ w.Awake) ∧ w.Legal := by
  refine ((awake_invariant cfg).of_imp fun o => o.leavesReleasable_of_movesLegally).and
    (by rintro m hm; cases hm) (fun _ h => h) ?_
  rintro n m w a ⟨hsound, hawake⟩ hlegal _ _ htakes
  have happend : ∀ {state : VoiceSessionState} {path : List VoiceSessionState},
      state.legalPath path = true → (w.act a).moves = w.moves ++ state.movesAlong path →
      (w.act a).Legal := by
    intro state path hpath hmoves move hmove
    rw [hmoves] at hmove
    rcases List.mem_append.mp hmove with h | h
    · exact hlegal move h
    · exact List.all_eq_true.mp hpath move h
  cases hstart : a.isStart with
  | true =>
    cases a with
    | start session manual placementTest =>
      obtain ⟨o, -, -, hidle, -, -⟩ := htakes.permitted (by simp) (by simp)
      refine happend ?_ (SessionView.act_start w session manual placementTest).2
      rw [hidle]
      cases manual <;> rfl
    | _ => simp [SessionAction.isStart] at hstart
  | false =>
    cases hw : w.session with
    | none =>
      intro move hmove
      rw [(SessionView.act_of_none hw hstart).2] at hmove
      exact hlegal move hmove
    | some s =>
      refine happend ?_ (SessionView.act_moves hw hstart)
      cases hends : a.ends with
      | false =>
        have htakes' := htakes.imp fun o => o.leavesReleasable_of_movesLegally
        exact legalPath_of_not_ends hsound hw (hawake s hw) htakes' hstart hends
      | true => exact legalPath_of_ends hsound hw (hawake s hw) htakes hends

/-- **Legal session transitions.** -/
theorem moves_legal (cfg : Config) (i : RuntimeId) (inputs : List Input)
    (hok : AllSteps (step cfg) (Meets (fun o => o.movesLegally cfg = true) i) (.init cfg) inputs) :
    ∀ m ∈ ((run (step cfg) (.init cfg) inputs).sessions i).moves, legalMove m.1 m.2 = true :=
  ((legal_invariant cfg).run hok).2

theorem moves_legal_utterance :
    ((run (step {}) (.init {}) (utterance asksAgain)).sessions (.connection 0)).moves.all
      (fun m => legalMove m.1 m.2) = true :=
  List.all_eq_true.mpr (moves_legal {} (.connection 0) (utterance asksAgain) (by decide +kernel))

/-- A session that is started with a button listens. If its audio ends before a chunk was
captured, it is asked to transcribe, which a session that listens may not. -/
theorem moves_illegal :
    ¬ ∀ m ∈ ((run (step {}) (.init {}) [kitchenConnects, kitchen .sessionStart buttonPayload,
        kitchen .audioEnd]).sessions (.connection 0)).moves, legalMove m.1 m.2 = true := by
  decide

end HexeVoice.Voice
