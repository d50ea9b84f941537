import HexeVoice.Voice.Utterances

/-!
# The audio after the wake

What a turn should be run on: the chunks that were handled after the wake was accepted, or
after the follow-up window opened, and no others.

## The model

`heard` reads these chunks off the trace, and says nothing of a session whose wake no
election accepted. `enrolled` says whether the speaker-enrollment window has taken the
session over since.

## What is proved

`turn_hears`: every turn of such a session is run on exactly the chunks heard, in order. It
takes that nothing was overheard while a timer alarm played before the wake, and that no turn
is run while a prompt plays or after the enrollment window took the session over.
-/

namespace HexeVoice.Voice

open HexeVoice.Library

/-! ### What should be heard -/

/-- The chunks to run a turn on, after the effect. -/
def Effect.hear (chunks : Option (List Chunk)) : Effect → Option (List Chunk)
  | .sessionStarted _ | .sessionCleared _ => none
  | .wakeAccepted .. => some []
  | .followupOpened _ => chunks.map fun _ => []
  | .chunkHandled chunk => chunks.map (· ++ [chunk])
  | _ => chunks

/-- The chunks handled since the wake was accepted or the follow-up window opened, for a
session whose wake was accepted by an election. -/
def heard (trace : List Effect) : Option (List Chunk) := trace.foldl Effect.hear none

/-- The enrollment window has taken the session over, after the effect. -/
def Effect.enroll (enrolled : Bool) : Effect → Bool
  | .sessionStarted _ | .wakeAccepted .. | .followupOpened _ => false
  | .enrollmentCaptureStarted => true
  | _ => enrolled

/-- The enrollment window has taken the session over since. -/
def enrolled (trace : List Effect) : Bool := trace.foldl Effect.enroll false

theorem heard_append (t t' : List Effect) : heard (t ++ t') = t'.foldl Effect.hear (heard t) :=
  List.foldl_append

theorem enrolled_append (t t' : List Effect) :
    enrolled (t ++ t') = t'.foldl Effect.enroll (enrolled t) := List.foldl_append

/-- What only the events of the session's life change can be read off these alone. -/
theorem foldl_life {α : Type} {f : α → Effect → α} (hf : ∀ a e, e.isLife = false → f a e = a)
    (trace : List Effect) (a : α) : (trace.filter (·.isLife)).foldl f a = trace.foldl f a := by
  induction trace generalizing a with
  | nil => rfl
  | cons e trace ih =>
    cases he : e.isLife with
    | true => rw [List.filter_cons_of_pos he, List.foldl_cons, List.foldl_cons, ih]
    | false => rw [List.filter_cons_of_neg (by simp [he]), List.foldl_cons, hf a e he, ih]

theorem heard_life (trace : List Effect) : heard (trace.filter (·.isLife)) = heard trace :=
  foldl_life (fun _ e he => by cases e <;> first | rfl | cases he) trace none

theorem enrolled_life (trace : List Effect) : enrolled (trace.filter (·.isLife)) = enrolled trace :=
  foldl_life (fun _ e he => by cases e <;> first | rfl | cases he) trace false

/-- Every turn on the trace is run on the chunks heard before it. -/
def TurnsHear (trace : List Effect) : Prop :=
  ∀ before audio after, trace = before ++ .completeTurn audio :: after →
    ∀ chunks, heard before = some chunks → audio.chunks = chunks

theorem TurnsHear.append {trace es : List Effect} (h : TurnsHear trace)
    (hes : ∀ before audio after, es = before ++ .completeTurn audio :: after →
      ∀ chunks, heard (trace ++ before) = some chunks → audio.chunks = chunks) :
    TurnsHear (trace ++ es) := by
  intro before audio after heq chunks hchunks
  rcases List.append_eq_append_iff.mp heq with ⟨m, rfl, hes'⟩ | ⟨m, rfl, hm⟩
  · exact hes m audio after hes' chunks hchunks
  · cases m with
    | nil => exact hes [] audio after (by simpa using hm.symm) chunks (by simpa using hchunks)
    | cons e m =>
      obtain ⟨rfl, rfl⟩ : e = .completeTurn audio ∧ _ = _ := by simpa [eq_comm] using hm
      exact h before audio m rfl chunks hchunks

/-- Where no turn is run, there is nothing new to hear. -/
theorem TurnsHear.append_quiet {trace es : List Effect} (h : TurnsHear trace)
    (hes : ∀ audio, .completeTurn audio ∉ es) : TurnsHear (trace ++ es) := by
  refine h.append fun before audio after heq => ?_
  exact absurd (heq ▸ List.mem_append_right _ List.mem_cons_self) (hes audio)

/-- A turn that is run on what was heard. -/
theorem TurnsHear.append_turn {trace : List Effect} (h : TurnsHear trace)
    {audio : VoiceTurnAudioSummary}
    (haudio : ∀ chunks, heard trace = some chunks → audio.chunks = chunks) :
    TurnsHear (trace ++ [.completeTurn audio]) := by
  refine h.append fun before audio' after heq chunks hchunks => ?_
  cases before with
  | nil =>
    obtain ⟨rfl, -⟩ : audio = audio' ∧ _ = _ := by simpa using heq
    exact haudio chunks (by simpa using hchunks)
  | cons e before => simp at heq

/-! ### The condition -/

/-- Nothing is overheard before a wake that the event gets accepted, and no turn is run while a
prompt plays or after the enrollment window took the session over. -/
def Occasion.hearsUtterance (cfg : Config) (o : Occasion) : Bool :=
  (!(o.acceptedCandidate cfg).isSome ||
    o.desk.self.audioChunks = [] && (o.overheard cfg).isEmpty) &&
  o.audioEndSession.all fun s =>
    !(o.runsTurn cfg s && (heard o.desk.self.trace).isSome) ||
      !o.desk.self.pendingSessionFollowup.any (·.state = .waitingForTtsPlayback) &&
        !enrolled o.desk.self.trace

/-! ### The invariant -/

namespace SessionView

/-- The session is a placement test. -/
def isPlacement (w : SessionView) : Bool := w.history.any (·.placementTest)

/-- The buffer holds what was heard, unless the session is one that no turn will be run for. -/
structure Hears (w : SessionView) : Prop where
  history : w.session.isSome = true → w.history.isSome = true
  buffer : ∀ s ∈ w.session, ∀ chunks, heard w.life = some chunks → enrolled w.life = false →
    w.isPlacement = false → w.pending ≠ some .waitingForTtsPlayback →
    w.buffer = chunks ∧ s.state.hears = true
  turns : TurnsHear w.life

variable {cfg : Config} {w : SessionView} {a : SessionAction}

/-- Where a turn is run for a session whose wake was accepted, no prompt plays, and no window
took the session over. -/
theorem not_waiting_of_hearsUtterance {o : Occasion} {session : VoiceSessionSnapshot}
    (hok : o.hearsUtterance cfg = true) (hend : o.audioEndSession = some session)
    (hruns : o.runsTurn cfg session = true) {chunks : List Chunk}
    (hheard : heard o.desk.self.view.life = some chunks) :
    o.desk.self.view.pending ≠ some .waitingForTtsPlayback ∧
      enrolled o.desk.self.view.life = false := by
  have hheard' : heard o.desk.self.trace = some chunks := by rwa [← heard_life]
  simp only [Occasion.hearsUtterance, hend, Option.all_some, hruns, hheard', Option.isSome_some,
    Bool.and_self, Bool.not_true, Bool.false_or, Bool.and_eq_true, Bool.not_eq_true'] at hok
  refine ⟨fun hwaiting => ?_, (enrolled_life _).trans hok.2.2⟩
  obtain ⟨p, hp, hstate⟩ := Option.map_eq_some_iff.mp hwaiting
  simp [hp, hstate] at hok

theorem isPlacement_of_runsTurn {o : Occasion} {session : VoiceSessionSnapshot}
    (hruns : o.runsTurn cfg session = true) (hactive : o.desk.self.activeSession = some session) :
    o.desk.self.view.isPlacement = false := by
  simp only [Occasion.runsTurn, Bool.and_eq_true, Bool.not_eq_true'] at hruns
  have hplacement := hruns.1.2
  simp only [SessionRuntime.isPlacementTest, hactive, Option.isSome_some, Bool.true_and] at hplacement
  cases hh : o.desk.self.activeSessionHistory with
  | none => simp [isPlacement, SessionRuntime.view, hh]
  | some history =>
    rw [hh] at hplacement
    simpa [isPlacement, SessionRuntime.view, hh, SessionHistory.core] using hplacement

/-- A turn is run on what was heard. -/
theorem Hears.turns_act (h : w.Hears)
    (htakes : Takes cfg (fun o => o.hearsUtterance cfg = true) w a) : TurnsHear (w.act a).life := by
  rw [act_life]
  cases a with
  | audioEnd audio path followup =>
    obtain ⟨o, hok, rfl, session, hend, hactive, hpath, haudio, -⟩ :=
      htakes.permitted (by simp) (by simp)
    have hended : TurnsHear (o.desk.self.view.life ++ [.audioEndHandled]) :=
      h.turns.append_quiet (by simp)
    simp only [SessionAction.notes, ← List.append_assoc]
    refine TurnsHear.append_quiet ?_ ?_
    · cases audio with
      | none => simpa using hended
      | some a =>
        refine hended.append_turn fun chunks hchunks => ?_
        have hheard : heard o.desk.self.view.life = some chunks := by
          rwa [heard_append] at hchunks
        obtain ⟨hruns, rfl⟩ := haudio a rfl
        obtain ⟨hwaiting, henrolled⟩ := not_waiting_of_hearsUtterance hok hend hruns hheard
        exact (h.buffer _ (SessionRuntime.view_session hactive) chunks hheard henrolled
          (isPlacement_of_runsTurn hruns hactive) hwaiting).1
    · intro a ha
      split at ha
      · simp at ha
      · simp at ha
  | cancel =>
    refine h.turns.append_quiet fun a ha => ?_
    simp [SessionAction.notes] at ha
  | chunk chunk placement enrollment overheard =>
    refine h.turns.append_quiet fun a ha => ?_
    simp [SessionAction.notes] at ha
  | hear chunk overheard =>
    refine h.turns.append_quiet fun a ha => ?_
    simp [SessionAction.notes] at ha
  | _ => exact h.turns.append_quiet (by simp [SessionAction.notes])

theorem hear_chunk (chunks : Option (List Chunk)) (chunk : Option Chunk) :
    (chunk.map Effect.chunkHandled).toList.foldl Effect.hear chunks =
      chunks.map (· ++ chunk.toList) := by
  cases chunk <;> simp [Effect.hear]

theorem enroll_chunk (b : Bool) (chunk : Option Chunk) :
    (chunk.map Effect.chunkHandled).toList.foldl Effect.enroll b = b := by
  cases chunk <;> rfl

theorem hears_of_along_capturePath {state : VoiceSessionState} (h : state.hears = true) :
    (state.along (capturePath state)).hears = true := by
  cases state <;> first | rfl | cases h

/-- The buffer holds what was heard. -/
theorem Hears.buffer_act (h : w.Hears)
    (htakes : Takes cfg (fun o => o.hearsUtterance cfg = true) w a) :
    ∀ s' ∈ (w.act a).session, ∀ chunks, heard (w.act a).life = some chunks →
      enrolled (w.act a).life = false → (w.act a).isPlacement = false →
      (w.act a).pending ≠ some .waitingForTtsPlayback →
      (w.act a).buffer = chunks ∧ s'.state.hears = true := by
  intro s' hs' chunks hheard henrolled hplacement hpending
  rw [act_life, heard_append] at hheard
  rw [act_life, enrolled_append] at henrolled
  rw [isPlacement, act_history] at hplacement
  rw [act_pending] at hpending
  cases a with
  | start session manual placementTest => cases hheard
  | cancel => cases hs'
  | audioEnd audio path followup =>
    cases followup with
    | true => exact absurd rfl hpending
    | false => cases hs'
  | decide | taskDone => exact h.buffer s' hs' chunks hheard henrolled hplacement hpending
  | capture =>
    cases hs : w.session with
    | none => simp [(act_of_none hs (a := .capture) rfl).1] at hs'
    | some s =>
      obtain ⟨hbuffer, hhears⟩ := h.buffer s hs chunks hheard henrolled hplacement hpending
      obtain rfl := Option.some.inj ((act_session hs (a := .capture) rfl).symm.trans hs')
      exact ⟨by simpa [act] using hbuffer, hears_of_along_capturePath hhears⟩
  | hear chunk overheard =>
    obtain ⟨o, -, rfl, session, payload, -, hactive, -, hidle, -⟩ :=
      htakes.permitted (by simp) (by simp)
    rw [SessionAction.notes, hear_chunk] at hheard
    rw [SessionAction.notes, enroll_chunk] at henrolled
    obtain ⟨before, hbefore, -⟩ := Option.map_eq_some_iff.mp hheard
    -- an idle session has heard nothing yet
    have hhears := (h.buffer _ (SessionRuntime.view_session hactive) before hbefore henrolled
      hplacement hpending).2
    rw [VoiceSessionSnapshot.core_state, hidle] at hhears
    cases hhears
  | chunk chunk placement enrollment overheard =>
    obtain ⟨o, hok, rfl, session, payload, hon, hactive, -, -, -, hover⟩ :=
      htakes.permitted (by simp) (by simp)
    have hsession := SessionRuntime.view_session hactive
    obtain ⟨history, hhistory⟩ := Option.isSome_iff_exists.mp (h.history (by simp [hsession]))
    cases placement with
    | true => simp [SessionAction.historyAfter, hhistory] at hplacement
    | false =>
    cases enrollment with
    | true => simp [SessionAction.notes, Effect.enroll] at henrolled
    | false =>
      simp only [SessionAction.notes, Bool.false_eq_true, if_false, List.append_nil, hear_chunk,
        enroll_chunk] at hheard henrolled
      obtain ⟨before, hbefore, rfl⟩ := Option.map_eq_some_iff.mp hheard
      have hplacement' : o.desk.self.view.isPlacement = false := by
        simpa [isPlacement, SessionAction.historyAfter, hhistory] using hplacement
      obtain ⟨hbuffer, hhears⟩ := h.buffer _ hsession before hbefore henrolled hplacement' hpending
      have hnot : overheard = false := by
        by_contra hover'
        rw [VoiceSessionSnapshot.core_state, (hover (by simpa using hover')).1] at hhears
        cases hhears
      subst hnot
      have hs'' := (act_session hsession (a := .chunk chunk false false false) rfl).symm.trans hs'
      obtain rfl := Option.some.inj hs''
      refine ⟨?_, hears_of_along_capturePath hhears⟩
      have hhears' : session.sessionState.hears = true := hhears
      rw [act_chunk_buffer hsession, hbuffer]
      simp [takeoverPath, VoiceSessionState.along, hhears']
  | accept serial electionId candidate =>
    obtain ⟨o, hok, session, decision, haccepted, -, -, -, hidle, hview⟩ :=
      htakes.permitted (by simp) (by simp)
    obtain rfl : [] = chunks := Option.some.inj hheard
    rcases hview with ⟨hnone, -⟩ | ⟨hview, hbuffer⟩
    · simp [(act_of_none hnone (a := .accept serial electionId candidate) rfl).1] at hs'
    · simp only [Occasion.hearsUtterance, haccepted, Option.isSome_some, Bool.not_true,
        Bool.false_or, Bool.and_eq_true, decide_eq_true_eq, List.isEmpty_iff] at hok
      have hsession := (act_session hview (a := .accept serial electionId candidate) rfl).symm.trans hs'
      obtain rfl := Option.some.inj hsession
      have hstate : session.core.state = .idle := hidle
      refine ⟨?_, by rw [hstate]; rfl⟩
      rw [show (w.act (.accept serial electionId candidate)).buffer = w.buffer from rfl, hbuffer,
        hok.1.1, hok.1.2]
      rfl
  | openFollowup task =>
    obtain ⟨o, -, -, s, hs, hresponding⟩ := htakes.permitted (by simp) (by simp)
    obtain rfl := Option.some.inj ((act_session hs (a := .openFollowup task) rfl).symm.trans hs')
    refine ⟨?_, by rw [hresponding]; rfl⟩
    obtain ⟨before, -, rfl⟩ := Option.map_eq_some_iff.mp hheard
    rfl

theorem hears_invariant (cfg : Config) :
    SessionInvariant cfg (fun o => o.hearsUtterance cfg = true) fun _ w => w.Hears where
  init := ⟨by simp, by rintro s ⟨⟩, fun before audio after h => by simp at h⟩
  mono := fun _ h => h
  act := fun h _ _ htakes => ⟨SessionView.history_isSome_act h.history, h.buffer_act htakes, h.turns_act htakes⟩

end SessionView

/-- **The turn hears exactly the audio after the wake.** -/
theorem turn_hears (cfg : Config) (i : RuntimeId) (inputs : List Input)
    (hok : AllSteps (step cfg) (Meets (fun o => o.hearsUtterance cfg = true) i) (.init cfg) inputs)
    (before : List Effect) (audio : VoiceTurnAudioSummary) (after : List Effect)
    (htrace : ((run (step cfg) (.init cfg) inputs).sessions i).trace =
      before ++ .completeTurn audio :: after)
    (chunks : List Chunk) (hheard : heard before = some chunks) :
    audio.chunks = chunks ∧ audio.audioBytes = chunks.flatMap (·.bytes) := by
  have hturns := ((SessionView.hears_invariant cfg).run hok).turns
  have hlife : ((run (step cfg) (.init cfg) inputs).sessions i).view.life =
      before.filter (·.isLife) ++ .completeTurn audio :: after.filter (·.isLife) := by
    simp [SessionRuntime.view, htrace, Effect.isLife]
  have hchunks := hturns _ audio _ hlife chunks (by rwa [heard_life])
  exact ⟨hchunks, by rw [VoiceTurnAudioSummary.audioBytes, hchunks]⟩

/-- The audio of a turn of the session `s` of `kitchen`. -/
def kitchenAudio (chunks : List Chunk) (ambientAudioBytes : Option Bytes) : VoiceTurnAudioSummary where
  endpointId := "kitchen"
  sessionId := "s"
  chunkCount := chunks.length
  sampleRateHz := some 16000
  encoding := some .pcmS16le
  channels := 1
  chunks := chunks
  ambientAudioBytes := ambientAudioBytes

theorem turn_hears_utterance :
    ∃ before audio after,
      ((run (step {}) (.init {}) (utterance asksAgain)).sessions (.connection 0)).trace =
        before ++ .completeTurn audio :: after ∧
      ∃ chunks, heard before = some chunks ∧
        audio.chunks = chunks ∧ audio.audioBytes = chunks.flatMap (·.bytes) :=
  let trace := ((run (step {}) (.init {}) (utterance asksAgain)).sessions (.connection 0)).trace
  have htrace : trace = trace.take 5 ++
      .completeTurn (kitchenAudio [⟨0, [0, 1, 2]⟩] (some [0, 1, 2])) :: [] := by
    decide +kernel
  have hheard : heard (trace.take 5) = some [⟨0, [0, 1, 2]⟩] := by decide +kernel
  ⟨trace.take 5, _, [], htrace, _, hheard,
    turn_hears {} (.connection 0) (utterance asksAgain) (by decide +kernel) _ _ _ htrace _ hheard⟩

/-- A timer alarm plays while a session is idle, and the chunk before the wake word is
overheard. -/
def utteranceInAlarm : List Input :=
  [kitchenConnects, kitchen .sessionStart,
    kitchen .ttsPlaybackDownloadStarted { ttsPlayback := .ok { streamId := some "timer-alarm-1" } },
    kitchen .audioChunk (chunkPayload "AAEC"), kitchen .wakeCandidate,
    kitchen .audioChunk (chunkPayload "AwQF"), kitchen .audioEnd {} asksAgain]

/-- The turn is run on the overheard chunk too. -/
theorem turn_hears_too_much :
    ¬ ∀ before audio after,
      ((run (step {}) (.init {}) utteranceInAlarm).sessions (.connection 0)).trace =
        before ++ .completeTurn audio :: after →
      ∀ chunks, heard before = some chunks → audio.audioBytes = chunks.flatMap (·.bytes) := by
  intro h
  set trace := ((run (step {}) (.init {}) utteranceInAlarm).sessions (.connection 0)).trace
  have hturn : trace = trace.take 6 ++
      .completeTurn (kitchenAudio [⟨0, [0, 1, 2]⟩, ⟨1, [3, 4, 5]⟩] none) :: [] := by
    decide +kernel
  have hheard : heard (trace.take 6) = some [⟨1, [3, 4, 5]⟩] := by decide +kernel
  exact absurd (h _ _ _ hturn _ hheard) (by decide)

end HexeVoice.Voice
