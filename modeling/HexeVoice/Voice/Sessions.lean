import HexeVoice.Voice.Steps

/-!
# Invariants of sessions

## The model

`Meets Q i` is the condition on a step that its event, if it is one for runtime `i`, meets
`Q`. A `SessionInvariant` holds of a runtime without a session and is kept by every action
that a session may take where the events meet `Q`.

## What is proved

`SessionInvariant.run`: such an invariant holds in runtime `i` after every run whose events
there meet `Q`, whatever happens in the other runtimes. `sound_invariant`: where a session
rests between two inputs, and what its pending follow-up, its timer and its buffer are then.
-/

namespace HexeVoice.Voice

open HexeVoice.Library

/-! ### Invariants over runs -/

/-- The event of the input, if it is one for runtime `i`, meets `Q`. -/
def Meets (Q : Occasion → Prop) (i : RuntimeId) (v : VoiceSessionManager) (input : Input) : Prop :=
  ∀ e ∈ v.occasion input, e.1 = i → Q e.2

instance (Q : Occasion → Prop) [DecidablePred Q] (i : RuntimeId) (v : VoiceSessionManager)
    (input : Input) : Decidable (Meets Q i v input) :=
  inferInstanceAs (Decidable (∀ e ∈ v.occasion input, e.1 = i → Q e.2))

/-- What is known where a session takes an action and the events meet `Q`. -/
def Takes (cfg : Config) (Q : Occasion → Prop) (w : SessionView) (a : SessionAction) : Prop :=
  a = .cancel ∨ (∃ id, a = .taskDone id) ∨ ∃ o, Q o ∧ Permitted cfg o w a

theorem Takes.imp {cfg : Config} {Q R : Occasion → Prop} {w : SessionView} {a : SessionAction}
    (h : Takes cfg Q w a) (himp : ∀ o, Q o → R o) : Takes cfg R w a := by
  rcases h with hcancel | htask | ⟨o, ho, hp⟩
  · exact .inl hcancel
  · exact .inr (.inl htask)
  · exact .inr (.inr ⟨o, himp o ho, hp⟩)

/-- A new manager has no sessions. -/
theorem VoiceSessionManager.init_steady (cfg : Config) : (VoiceSessionManager.init cfg).Steady := by
  rintro j s ⟨⟩

theorem run_steady (cfg : Config) (inputs : List Input) :
    (run (step cfg) (.init cfg) inputs).Steady := by
  have hstep : ∀ v input, v.Steady → True → (step cfg v input).Steady :=
    fun _ input hv _ => step_steady hv input
  exact run_invariant hstep (VoiceSessionManager.init_steady cfg)
    (allSteps_of_forall (fun _ _ => trivial) _ _)

/-- An invariant of a runtime's session, and of the draws so far. -/
structure SessionInvariant (cfg : Config) (Q : Occasion → Prop) (I : ℕ → SessionView → Prop) :
    Prop where
  init : I 0 {}
  mono : ∀ {n m : ℕ} {w : SessionView}, n ≤ m → I n w → I m w
  act : ∀ {n m : ℕ} {w : SessionView} {a : SessionAction}, I n w → n ≤ m → a.Fresh n m →
    Takes cfg Q w a → I m (w.act a)

namespace SessionInvariant

variable {cfg : Config} {Q R : Occasion → Prop} {I J : ℕ → SessionView → Prop}

/-- An invariant that asks more of the events. -/
theorem of_imp (h : SessionInvariant cfg Q I) (himp : ∀ o, R o → Q o) : SessionInvariant cfg R I where
  init := h.init
  mono := h.mono
  act := fun hw hle hfresh htakes => h.act hw hle hfresh (htakes.imp himp)

/-- An invariant that is proved with the help of another. -/
theorem and (h : SessionInvariant cfg Q I) (init : J 0 {})
    (mono : ∀ {n m : ℕ} {w : SessionView}, n ≤ m → J n w → J m w)
    (act : ∀ {n m : ℕ} {w : SessionView} {a : SessionAction}, I n w → J n w → n ≤ m →
      a.Fresh n m → Takes cfg Q w a → J m (w.act a)) :
    SessionInvariant cfg Q fun n w => I n w ∧ J n w where
  init := ⟨h.init, init⟩
  mono := fun hle hw => ⟨h.mono hle hw.1, mono hle hw.2⟩
  act := fun hw hle hfresh htakes =>
    ⟨h.act hw.1 hle hfresh htakes, act hw.1 hw.2 hle hfresh htakes⟩

/-- It survives a run of actions. -/
theorem acts (h : SessionInvariant cfg Q I) {n m : ℕ} {w : SessionView} {as : List SessionAction}
    (hw : I n w) (hok : AllSteps SessionView.act (Takes cfg Q) w as) (hdraws : Draws n m as) :
    I m (run SessionView.act w as) := by
  induction as generalizing n w with
  | nil => exact h.mono hdraws hw
  | cons a as ih =>
    obtain ⟨mid, hle, hfresh, hrest⟩ := hdraws
    exact ih (h.act hw hle hfresh hok.1) hok.2 hrest

theorem step_inv (h : SessionInvariant cfg Q I) {v : VoiceSessionManager} {i : RuntimeId}
    {input : Input} (hsteady : v.Steady) (hv : I v.shared.uuid (v.sessions i).view)
    (hok : Meets Q i v input) :
    I (step cfg v input).shared.uuid ((step cfg v input).sessions i).view := by
  obtain ⟨as, hview, hactions, hdraws⟩ := (step_does cfg hsteady input).actions i
  rw [hview]
  refine h.acts hv (hactions.mono fun w a ha => ?_) hdraws
  rcases ha with hcancel | htask | ⟨o, ho, hp⟩
  · exact .inl hcancel
  · exact .inr (.inl htask)
  · exact .inr (.inr ⟨o, hok (i, o) ho rfl, hp⟩)

/-- **The run rule.** The invariant holds in a runtime after every run whose events there
meet the condition. -/
theorem run (h : SessionInvariant cfg Q I) {i : RuntimeId} {inputs : List Input}
    (hok : AllSteps (step cfg) (Meets Q i) (.init cfg) inputs) :
    I (Library.run (step cfg) (.init cfg) inputs).shared.uuid
      ((Library.run (step cfg) (.init cfg) inputs).sessions i).view := by
  have hstep : ∀ v input, v.Steady ∧ I v.shared.uuid (v.sessions i).view → Meets Q i v input →
      (step cfg v input).Steady ∧
        I (step cfg v input).shared.uuid ((step cfg v input).sessions i).view :=
    fun v input hv ho => ⟨step_steady hv.1 input, h.step_inv hv.1 hv.2 ho⟩
  exact (run_invariant hstep ⟨VoiceSessionManager.init_steady cfg, h.init⟩ hok).2

end SessionInvariant

/-! ### Where a session rests -/

/-- What holds of a session between two inputs. -/
structure SessionView.Sound (w : SessionView) : Prop where
  /-- Without a session nothing is buffered, and nothing is pending. -/
  free : w.session = none → w.buffer = [] ∧ w.pending = none
  state : ∀ s ∈ w.session, s.state ∈ [VoiceSessionState.idle, .listening, .capturing, .responding,
    .failed]
  /-- A session that responds awaits the playback of its prompt, and so does no other session
  but one that failed. -/
  responding : ∀ s ∈ w.session, s.state = .responding → w.pending = some .waitingForTtsPlayback
  waiting : w.pending = some .waitingForTtsPlayback → ∀ s ∈ w.session,
    s.state = .responding ∨ s.state = .failed
  /-- The event loop holds no timer but the session's own. -/
  tasks : ∀ t ∈ w.loopTasks, w.task = some t.id

theorem Takes.permitted {cfg : Config} {Q : Occasion → Prop} {w : SessionView} {a : SessionAction}
    (h : Takes cfg Q w a) (hcancel : a ≠ .cancel) (htask : ∀ id, a ≠ .taskDone id) :
    ∃ o, Q o ∧ Permitted cfg o w a := by
  rcases h with h | ⟨id, h⟩ | h
  · exact absurd h hcancel
  · exact absurd h (htask id)
  · exact h

namespace SessionView

variable {cfg : Config} {Q : Occasion → Prop} {w w' : SessionView} {s s' : SessionCore}

/-- The session is cleared. -/
theorem sound_clear (h : ∀ t ∈ w.loopTasks, w.task = some t.id) : w.clear.Sound where
  free := fun _ => ⟨rfl, rfl⟩
  state := by rintro s ⟨⟩
  responding := by rintro s ⟨⟩
  waiting := by rintro ⟨⟩
  tasks := by
    intro t ht
    obtain ⟨hmem, hne⟩ := List.mem_filter.mp ht
    exact absurd (h t hmem).symm (by simpa using hne)

/-- The session rests in the state it was in, or one that hears audio has moved. -/
theorem Sound.of_state (h : w.Sound) (hs : w.session = some s) (hs' : w'.session = some s')
    (hstate : s'.state = s.state ∨
      s.state ∈ [VoiceSessionState.idle, .listening, .capturing] ∧
        s'.state ∈ [VoiceSessionState.idle, .listening, .capturing, .failed])
    (hpending : w'.pending = w.pending) (htask : w'.task = w.task)
    (hloop : w'.loopTasks = w.loopTasks) : w'.Sound where
  free := by simp [hs']
  state := by
    intro s₁ hs₁
    obtain rfl : s' = s₁ := by simpa [hs'] using hs₁
    rcases hstate with heq | ⟨-, hmem⟩
    · rw [heq]
      exact h.state s hs
    · simp only [List.mem_cons, List.not_mem_nil, or_false] at hmem
      rcases hmem with hm | hm | hm | hm <;> simp [hm]
  responding := by
    intro s₁ hs₁ hresponding
    obtain rfl : s' = s₁ := by simpa [hs'] using hs₁
    rw [hpending]
    rcases hstate with heq | ⟨-, hmem⟩
    · exact h.responding s hs (heq ▸ hresponding)
    · simp [hresponding] at hmem
  waiting := by
    intro hwaiting s₁ hs₁
    obtain rfl : s' = s₁ := by simpa [hs'] using hs₁
    have hrest := h.waiting (hpending ▸ hwaiting) s hs
    rcases hstate with heq | ⟨hmem, -⟩
    · rwa [heq]
    · rcases hrest with hr | hr <;> simp [hr] at hmem
  tasks := by
    rw [hloop, htask]
    exact h.tasks

/-- A chunk moves a session that hears audio, and no other. -/
theorem chunk_state {state : VoiceSessionState} (placement enrollment : Bool)
    (hrest : state ∈ [VoiceSessionState.idle, .listening, .capturing, .responding, .failed])
    (htakeover : placement = true ∨ enrollment = true → state ∈ capturableStates) :
    state.along (chunkPath state placement enrollment) = state ∨
      state ∈ [VoiceSessionState.idle, .listening, .capturing] ∧
        state.along (chunkPath state placement enrollment) ∈
          [VoiceSessionState.idle, .listening, .capturing, .failed] := by
  by_cases hhears : state ∈ [VoiceSessionState.idle, .listening, .capturing]
  · refine .inr ⟨hhears, ?_⟩
    simp only [List.mem_cons, List.not_mem_nil, or_false] at hhears
    rcases hhears with rfl | rfl | rfl <;> cases placement <;> cases enrollment <;> decide
  · -- what neither hears audio nor failed responds, and no window takes that over
    have hcapturable : state ∉ capturableStates := by
      simp only [List.mem_cons, List.not_mem_nil, or_false] at hrest hhears
      rcases hrest with rfl | rfl | rfl | rfl | rfl <;> simp_all [capturableStates]
    have hplacement : placement = false := by
      simpa using fun h => hcapturable (htakeover (.inl h))
    have henrollment : enrollment = false := by
      simpa using fun h => hcapturable (htakeover (.inr h))
    subst hplacement henrollment
    left
    simp only [List.mem_cons, List.not_mem_nil, or_false] at hrest hhears
    rcases hrest with rfl | rfl | rfl | rfl | rfl <;> first | rfl | simp at hhears

/-- The session of a turn that asks a follow-up responds, or failed on the way. -/
theorem followup_state {state : VoiceSessionState} {turn : Bool} {path : List VoiceSessionState}
    (hpath : EndPath state turn true path) :
    state.along path = .responding ∨ state.along path = .failed := by
  cases hpath with
  | followup hstate hanswer =>
    rcases hanswer with rfl | rfl <;> cases state <;> first | exact .inl rfl | exact .inr rfl

theorem mem_capturableStates_of_takesOver {o : Occasion} {session : VoiceSessionSnapshot}
    {payload : VoiceAudioChunkPayload} (hon : o.chunkOn cfg = some (session, payload))
    (h : o.placementTakesOver cfg = true ∨ o.enrollmentTakesOver cfg = true) :
    session.sessionState ∈ capturableStates := by
  rcases h with h | h
  · simp only [Occasion.placementTakesOver, hon, Option.any_some, Bool.and_eq_true] at h
    simpa using h.1.2
  · simp only [Occasion.enrollmentTakesOver, hon, Option.any_some, Bool.and_eq_true] at h
    simpa using h.1.2

theorem Sound.act (h : w.Sound) {a : SessionAction} (htakes : Takes cfg Q w a) :
    (w.act a).Sound := by
  cases a with
  | cancel => exact sound_clear h.tasks
  | taskDone id =>
    exact ⟨h.free, h.state, h.responding, h.waiting, fun t ht => h.tasks t (List.mem_of_mem_filter ht)⟩
  | decide serial decision => exact ⟨h.free, h.state, h.responding, h.waiting, h.tasks⟩
  | start session manual placementTest =>
    obtain ⟨o, -, hnone, hidle, -, -⟩ := htakes.permitted (by simp) (by simp)
    obtain ⟨-, hpending⟩ := h.free hnone
    have hsession := (act_start w session manual placementTest).1
    have hpending' : (w.act (.start session manual placementTest)).pending = none := by
      cases manual <;> exact hpending
    have hstate : session.state.along (SessionAction.path session.state
        (.start session manual placementTest)) ∈ [VoiceSessionState.idle, .listening] := by
      rw [hidle]
      cases manual
      · exact .head _
      · exact .tail _ (.head _)
    simp only [List.mem_cons, List.not_mem_nil, or_false] at hstate
    refine ⟨by simp [hsession], ?_, ?_, by simp [hpending'], ?_⟩
    · intro s' hs'
      obtain rfl := Option.some.inj (hsession.symm.trans hs')
      rcases hstate with hstate | hstate <;> simp [hstate]
    · intro s' hs' hresponding
      obtain rfl := Option.some.inj (hsession.symm.trans hs')
      rcases hstate with hstate | hstate <;> simp [hstate] at hresponding
    · cases manual <;> exact h.tasks
  | audioEnd audio path followup =>
    obtain ⟨o, -, rfl, session, -, hactive, hpath, -⟩ := htakes.permitted (by simp) (by simp)
    cases followup with
    | false => exact sound_clear (by simpa using h.tasks)
    | true =>
      have hsession := act_session (SessionRuntime.view_session hactive) (a := .audioEnd audio path true) rfl
      have hstate := followup_state hpath
      refine ⟨by simp [hsession, SessionAction.ends], ?_, fun _ _ _ => rfl, ?_, ?_⟩
      · intro s' hs'
        obtain rfl := Option.some.inj (hsession.symm.trans hs')
        rcases hstate with hstate | hstate <;> simp [SessionAction.path, hstate]
      · intro _ s' hs'
        obtain rfl := Option.some.inj (hsession.symm.trans hs')
        exact hstate
      · simpa [SessionView.act, finish] using h.tasks
  | chunk chunk placement enrollment overheard =>
    obtain ⟨o, -, rfl, session, payload, hon, hactive, -, rfl, rfl, -⟩ :=
      htakes.permitted (by simp) (by simp)
    have hview := SessionRuntime.view_session hactive
    refine h.of_state hview (act_session hview rfl) ?_ (by simp [SessionView.act])
      (by simp [SessionView.act]) (by simp [SessionView.act])
    exact chunk_state _ _ (h.state _ hview) (mem_capturableStates_of_takesOver hon)
  | hear chunk overheard =>
    obtain ⟨o, -, rfl, session, payload, -, hactive, -⟩ := htakes.permitted (by simp) (by simp)
    have hview := SessionRuntime.view_session hactive
    exact h.of_state hview (act_session hview rfl) (.inl rfl) (by simp [SessionView.act])
      (by simp [SessionView.act]) (by simp [SessionView.act])
  | accept serial electionId candidate =>
    obtain ⟨o, -, session, decision, -, -, -, hactive, hidle, hview⟩ :=
      htakes.permitted (by simp) (by simp)
    rcases hview with ⟨hnone, -⟩ | ⟨hview, -⟩
    · have hnone' := (act_of_none hnone (a := .accept serial electionId candidate) rfl).1
      exact ⟨fun _ => h.free hnone, by simp [hnone'], by simp [hnone'], by simp [hnone'], h.tasks⟩
    · have hstate : session.core.state = .idle := hidle
      have hnext : session.core.state.along [.wakeDetected, .listening] = .listening := by
        rw [hstate]
        rfl
      refine h.of_state hview (act_session hview rfl) (.inr ⟨?_, ?_⟩) rfl rfl rfl
      · rw [hstate]
        exact .head _
      · simp only [SessionAction.path, hnext]
        decide
  | capture =>
    cases hs : w.session with
    | none =>
      have : w.act .capture = w := take_of_none hs none
      rwa [this]
    | some s =>
      refine h.of_state hs (act_session hs rfl) ?_ (take_pending w none) (take_task w none)
        (take_loopTasks w none)
      exact chunk_state false false (h.state s hs) (by simp)
  | openFollowup task =>
    obtain ⟨o, -, hpending, s, hs, hresponding⟩ := htakes.permitted (by simp) (by simp)
    have hsession := act_session hs (a := .openFollowup task) rfl
    have hstate : s.state.along [.listening] = .listening := by rw [hresponding]; rfl
    refine ⟨by simp [hsession, SessionAction.ends], ?_, ?_, ?_, ?_⟩
    · intro s' hs'
      obtain rfl := Option.some.inj (hsession.symm.trans hs')
      simp [SessionAction.path, hstate]
    · intro s' hs' hr
      obtain rfl := Option.some.inj (hsession.symm.trans hs')
      simp [SessionAction.path, hstate] at hr
    · intro hwaiting
      obtain ⟨p, hp⟩ := Option.isSome_iff_exists.mp hpending
      simp [SessionView.act, cancelTask, hp] at hwaiting
    · intro t ht
      rcases List.mem_append.mp ht with ht | ht
      · obtain ⟨hmem, hne⟩ := List.mem_filter.mp ht
        exact absurd (h.tasks t hmem).symm (of_decide_eq_true hne)
      · rw [List.mem_singleton.mp ht]
        rfl

end SessionView

/-- **Where sessions rest**, after any run. -/
theorem sound_invariant (cfg : Config) (Q : Occasion → Prop) :
    SessionInvariant cfg Q fun _ w => w.Sound where
  init := ⟨fun _ => ⟨rfl, rfl⟩, by rintro s ⟨⟩, by rintro s ⟨⟩, by rintro ⟨⟩, by rintro t ⟨⟩⟩
  mono := fun _ h => h
  act := fun h _ _ htakes => h.act htakes

/-! ### The inputs of one endpoint -/

/-- The endpoint `kitchen` connects. -/
def kitchenConnects : Input := .handleWebsocket (some "kitchen")

theorem kitchen_named : "kitchen" ≠ "" := by decide

theorem aware_zero (eventType : VoiceEventType) :
    eventType.timesSession = true → ({ micros := 0 } : Datetime).aware = true := fun _ => rfl

/-- An event of the session `s` of `kitchen`, on the first control connection. -/
def kitchen (eventType : VoiceEventType) (payload : EventPayload := {})
    (ans : PipelineAnswers := {}) : Input :=
  .message (.connection 0)
    { eventType, endpointId := "kitchen", sessionId := some "s", timestamp := { micros := 0 },
      payload, named := kitchen_named, aware := aware_zero eventType } ans

/-- The payload of a session that a button starts. -/
def buttonPayload : EventPayload := { sessionStart := .ok { wakeSource := .button } }

/-- The payload of a chunk. -/
def chunkPayload (base64 : String) : EventPayload :=
  { audioChunk := .ok { chunkIndex := 0, payloadBase64 := some base64 } }

/-- A turn that asks a follow-up. -/
def followupTurn : VoiceTurnResult where
  transcript := { text := "set a timer" }
  assistantResponse := { spokenText := "for how long", conversationFollowup := some {} }
  tts := { streamId := some "prompt" }

/-- Whatever is asked, the answer asks a follow-up. -/
def asksAgain : PipelineAnswers := { completeTurn := fun _ => followupTurn }

/-- A wake word, an utterance and its end. -/
def utterance (ans : PipelineAnswers) : List Input :=
  [kitchenConnects, kitchen .sessionStart, kitchen .wakeCandidate,
    kitchen .audioChunk (chunkPayload "AAEC"), kitchen .audioEnd {} ans]

end HexeVoice.Voice
