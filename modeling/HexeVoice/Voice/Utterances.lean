import HexeVoice.Voice.Sessions

/-!
# Utterances

The chunks of a session wait in its buffer until `audio.end` has the turn pipeline run a turn
on them. The buffer outlives a turn that asks a follow-up: it is emptied when the prompt has
been played, and not before.

## What is proved

`executed_once`: no chunk is in two turns, as long as no `audio.end` runs a turn on a buffer
that is left from a turn whose prompt still plays.
-/

namespace HexeVoice.Voice

open HexeVoice.Library

/-! ### Chunks in the trace -/

/-- The chunk that is handled. -/
def Effect.handled : Effect → List Chunk
  | .chunkHandled chunk => [chunk]
  | _ => []

/-- The chunks that the pipeline runs a turn on. -/
def Effect.executed : Effect → List Chunk
  | .completeTurn audio => audio.chunks
  | _ => []

/-- The chunks that were handled, in order. -/
def handledChunks (trace : List Effect) : List Chunk := trace.flatMap Effect.handled

/-- The chunks that turns were run on, turn by turn. -/
def executedChunks (trace : List Effect) : List Chunk := trace.flatMap Effect.executed

@[simp] theorem handledChunks_append (t t' : List Effect) :
    handledChunks (t ++ t') = handledChunks t ++ handledChunks t' := List.flatMap_append

@[simp] theorem executedChunks_append (t t' : List Effect) :
    executedChunks (t ++ t') = executedChunks t ++ executedChunks t' := List.flatMap_append

theorem handledChunks_life (trace : List Effect) :
    handledChunks (trace.filter (·.isLife)) = handledChunks trace := by
  induction trace with
  | nil => rfl
  | cons e trace ih =>
    cases e <;> simp_all [handledChunks, Effect.isLife, Effect.handled]

theorem executedChunks_life (trace : List Effect) :
    executedChunks (trace.filter (·.isLife)) = executedChunks trace := by
  induction trace with
  | nil => rfl
  | cons e trace ih =>
    cases e <;> simp_all [executedChunks, Effect.isLife, Effect.executed]

/-! ### The condition -/

/-- The event does not run a turn on the buffer of a turn whose prompt still plays. -/
def Occasion.runsOnFreshAudio (cfg : Config) (o : Occasion) : Bool :=
  o.audioEndSession.all fun s =>
    !o.runsTurn cfg s || o.desk.self.audioChunks = [] ||
      !o.desk.self.pendingSessionFollowup.any (·.state = .waitingForTtsPlayback)

/-! ### The invariant -/

/-- The numbers of the chunks. -/
def arrivalsOf (chunks : List Chunk) : List ℕ := chunks.map (·.arrival)

@[simp] theorem arrivalsOf_append (c c' : List Chunk) :
    arrivalsOf (c ++ c') = arrivalsOf c ++ arrivalsOf c' := List.map_append

/-- No chunk is executed twice, nor will the chunks in the buffer be. -/
structure SessionView.Once (w : SessionView) : Prop where
  handled_lt : ∀ n ∈ arrivalsOf (handledChunks w.life), n < w.arrivals
  handled_nodup : (arrivalsOf (handledChunks w.life)).Nodup
  buffer_sub : w.buffer ⊆ handledChunks w.life
  buffer_nodup : (arrivalsOf w.buffer).Nodup
  executed_sub : executedChunks w.life ⊆ handledChunks w.life
  executed_nodup : (arrivalsOf (executedChunks w.life)).Nodup
  /-- What is in the buffer has been executed only if the prompt of that turn still plays. -/
  fresh : w.pending ≠ some .waitingForTtsPlayback →
    (arrivalsOf w.buffer).Disjoint (arrivalsOf (executedChunks w.life))

namespace SessionView.Once

variable {w w' : SessionView}

/-- Nothing is handled or executed, and the buffer is emptied or left alone. -/
theorem quiet (h : w.Once) (es : List Effect) (hlife : w'.life = w.life ++ es)
    (hes : handledChunks es = [] ∧ executedChunks es = []) (harrivals : w'.arrivals = w.arrivals)
    (hbuffer : w'.buffer = [] ∨ w'.buffer = w.buffer ∧ w'.pending = w.pending) : w'.Once := by
  have hhandled : handledChunks w'.life = handledChunks w.life := by simp [hlife, hes.1]
  have hexecuted : executedChunks w'.life = executedChunks w.life := by simp [hlife, hes.2]
  refine ⟨?_, ?_, ?_, ?_, ?_, ?_, ?_⟩
  · rw [hhandled, harrivals]
    exact h.handled_lt
  · rw [hhandled]
    exact h.handled_nodup
  · rcases hbuffer with hb | ⟨hb, -⟩ <;> rw [hb]
    · simp
    · rw [hhandled]
      exact h.buffer_sub
  · rcases hbuffer with hb | ⟨hb, -⟩ <;> rw [hb]
    · simp [arrivalsOf]
    · exact h.buffer_nodup
  · rw [hhandled, hexecuted]
    exact h.executed_sub
  · rw [hexecuted]
    exact h.executed_nodup
  · rw [hexecuted]
    rcases hbuffer with hb | ⟨hb, hpending⟩ <;> rw [hb]
    · intro _
      exact List.disjoint_nil_left _
    · rw [hpending]
      exact h.fresh

/-- A chunk is handled, and may go into the buffer. -/
theorem receive (h : w.Once) (chunk : Option Chunk) (es : List Effect)
    (hchunk : ∀ c ∈ chunk, c.arrival = w.arrivals)
    (hlife : w'.life = w.life ++ ((chunk.map Effect.chunkHandled).toList ++ es))
    (hes : handledChunks es = [] ∧ executedChunks es = [])
    (harrivals : w'.arrivals = w.arrivals + 1) (hpending : w'.pending = w.pending)
    (hbuffer : w'.buffer = w.buffer ∨ w'.buffer = w.buffer ++ chunk.toList) : w'.Once := by
  have hhandled : handledChunks w'.life = handledChunks w.life ++ chunk.toList := by
    rw [hlife, handledChunks_append, handledChunks_append, hes.1]
    cases chunk <;> simp [handledChunks, Effect.handled]
  have hexecuted : executedChunks w'.life = executedChunks w.life := by
    rw [hlife, executedChunks_append, executedChunks_append, hes.2]
    cases chunk <;> simp [executedChunks, Effect.executed]
  -- the new chunk's number is none of the numbers before
  have hnew : ∀ c ∈ chunk, c.arrival ∉ arrivalsOf (handledChunks w.life) := by
    intro c hc hmem
    have hlt := h.handled_lt _ hmem
    rw [hchunk c hc] at hlt
    exact lt_irrefl _ hlt
  have hold : ∀ {chunks : List Chunk}, chunks ⊆ handledChunks w.life → ∀ c ∈ chunk,
      c.arrival ∉ arrivalsOf chunks := by
    intro chunks hsub c hc hmem
    obtain ⟨c', hc', heq⟩ := List.mem_map.mp hmem
    exact hnew c hc (List.mem_map.mpr ⟨c', hsub hc', heq⟩)
  have hnodup : ∀ {chunks : List Chunk}, chunks ⊆ handledChunks w.life →
      (arrivalsOf chunks).Nodup → (arrivalsOf (chunks ++ chunk.toList)).Nodup := by
    intro chunks hsub hn
    cases chunk with
    | none => simpa using hn
    | some c =>
      rw [arrivalsOf_append, List.nodup_append]
      refine ⟨hn, by simp [arrivalsOf], ?_⟩
      intro n hn' m hm heq
      simp only [arrivalsOf, Option.toList_some, List.map_cons, List.map_nil,
        List.mem_singleton] at hm
      exact hold hsub c rfl (hm ▸ heq ▸ hn')
  refine ⟨?_, ?_, ?_, ?_, ?_, ?_, ?_⟩
  · rw [hhandled, harrivals]
    intro n hn
    rw [arrivalsOf_append, List.mem_append] at hn
    rcases hn with hn | hn
    · exact Nat.lt_succ_of_lt (h.handled_lt n hn)
    · obtain ⟨c, hc, rfl⟩ := List.mem_map.mp hn
      rw [hchunk c (Option.mem_toList.mp hc)]
      exact Nat.lt_succ_self _
  · rw [hhandled]
    exact hnodup (List.Subset.refl _) h.handled_nodup
  · rw [hhandled]
    rcases hbuffer with hb | hb <;> rw [hb]
    · exact fun c hc => List.mem_append_left _ (h.buffer_sub hc)
    · exact List.append_subset.mpr ⟨fun c hc => List.mem_append_left _ (h.buffer_sub hc),
        List.subset_append_right _ _⟩
  · rcases hbuffer with hb | hb <;> rw [hb]
    · exact h.buffer_nodup
    · exact hnodup h.buffer_sub h.buffer_nodup
  · rw [hexecuted, hhandled]
    exact fun c hc => List.mem_append_left _ (h.executed_sub hc)
  · rw [hexecuted]
    exact h.executed_nodup
  · rw [hpending, hexecuted]
    intro hp
    rcases hbuffer with hb | hb <;> rw [hb]
    · exact h.fresh hp
    · rw [arrivalsOf_append, List.disjoint_append_left]
      refine ⟨h.fresh hp, ?_⟩
      intro n hn
      obtain ⟨c, hc, rfl⟩ := List.mem_map.mp hn
      exact hold h.executed_sub c (Option.mem_toList.mp hc)

/-- A turn is run on the buffer. -/
theorem execute (h : w.Once) {audio : VoiceTurnAudioSummary} (haudio : audio.chunks = w.buffer)
    (hfresh : w.buffer = [] ∨ w.pending ≠ some .waitingForTtsPlayback)
    (hlife : w'.life = w.life ++ [.completeTurn audio]) (harrivals : w'.arrivals = w.arrivals)
    (hbuffer : w'.buffer = w.buffer) (hpending : w'.pending = some .waitingForTtsPlayback) :
    w'.Once := by
  have hhandled : handledChunks w'.life = handledChunks w.life := by
    simp [hlife, handledChunks, Effect.handled]
  have hexecuted : executedChunks w'.life = executedChunks w.life ++ w.buffer := by
    simp [hlife, executedChunks, Effect.executed, haudio]
  refine ⟨?_, ?_, ?_, ?_, ?_, ?_, ?_⟩
  · rw [hhandled, harrivals]
    exact h.handled_lt
  · rw [hhandled]
    exact h.handled_nodup
  · rw [hbuffer, hhandled]
    exact h.buffer_sub
  · rw [hbuffer]
    exact h.buffer_nodup
  · rw [hexecuted, hhandled]
    exact List.append_subset.mpr ⟨h.executed_sub, h.buffer_sub⟩
  · rw [hexecuted, arrivalsOf_append]
    rcases hfresh with hempty | hwaiting
    · rw [hempty]
      simpa [arrivalsOf] using h.executed_nodup
    · refine List.nodup_append.mpr ⟨h.executed_nodup, h.buffer_nodup, ?_⟩
      rintro n hexec m hbuf rfl
      exact h.fresh hwaiting hbuf hexec
  · exact fun hp => absurd hpending hp

end SessionView.Once

/-! ### Every action keeps it -/

section act

variable {cfg : Config} {w : SessionView} {a : SessionAction}

/-- The chunk of an event is numbered with the chunk events so far. -/
theorem arrival_of_numbered {o : Occasion} {payload : VoiceAudioChunkPayload} :
    ∀ c ∈ o.numbered payload, c.arrival = o.desk.self.view.arrivals := by
  intro c hc
  obtain ⟨bytes, -, rfl⟩ := Option.map_eq_some_iff.mp hc
  rfl

theorem notes_cleared (serial : Option ℕ) :
    handledChunks (serial.map Effect.sessionCleared).toList = [] ∧
      executedChunks (serial.map Effect.sessionCleared).toList = [] := by
  cases serial <;> exact ⟨rfl, rfl⟩

theorem notes_enrollment (enrollment : Bool) :
    handledChunks (if enrollment then [Effect.enrollmentCaptureStarted] else []) = [] ∧
      executedChunks (if enrollment then [Effect.enrollmentCaptureStarted] else []) = [] := by
  cases enrollment <;> exact ⟨rfl, rfl⟩

/-- An `audio.end` runs a turn, if it does, and is done with the session, if it is. -/
theorem SessionView.Once.audioEnd (h : w.Once) (audio : Option VoiceTurnAudioSummary)
    (path : List VoiceSessionState) (followup : Bool) (hturn : followup = true → audio.isSome = true)
    (haudio : ∀ a ∈ audio, a.chunks = w.buffer)
    (hfresh : audio.isSome = true → w.buffer = [] ∨ w.pending ≠ some .waitingForTtsPlayback) :
    (w.act (.audioEnd audio path followup)).Once := by
  have hlife := w.act_life (.audioEnd audio path followup)
  have harrivals := w.act_arrivals (.audioEnd audio path followup)
  have hended : (w.note .audioEndHandled).Once :=
    h.quiet [.audioEndHandled] rfl ⟨rfl, rfl⟩ rfl (.inr ⟨rfl, rfl⟩)
  cases audio with
  | none =>
    obtain rfl : followup = false := by simpa using hturn
    refine hended.quiet (w.serial.map Effect.sessionCleared).toList ?_ (notes_cleared _) harrivals
      (.inl rfl)
    simpa [SessionAction.notes] using hlife
  | some a =>
    -- the turn has run, and its buffer is left for a moment
    set ran : SessionView :=
      { w.note .audioEndHandled with
        life := w.life ++ [.audioEndHandled] ++ [.completeTurn a]
        pending := some .waitingForTtsPlayback } with hran
    have hranOnce : ran.Once := hended.execute (haudio a rfl) (hfresh rfl) rfl rfl rfl rfl
    cases followup with
    | true =>
      refine hranOnce.quiet [] ?_ ⟨rfl, rfl⟩ harrivals (.inr ⟨?_, rfl⟩)
      · rw [hlife, hran]
        simp [SessionAction.notes]
      · simp [SessionView.act, SessionView.finish, hran]
    | false =>
      refine hranOnce.quiet (w.serial.map Effect.sessionCleared).toList ?_ (notes_cleared _)
        harrivals (.inl rfl)
      rw [hlife, hran]
      simp [SessionAction.notes]

theorem once_act (h : w.Once)
    (htakes : Takes cfg (fun o => o.runsOnFreshAudio cfg = true) w a) : (w.act a).Once := by
  have hlife := w.act_life a
  have harrivals := w.act_arrivals a
  have hpending := w.act_pending a
  cases a with
  | cancel => exact h.quiet _ hlife (notes_cleared _) harrivals (.inl rfl)
  | taskDone | decide | accept => exact h.quiet _ hlife ⟨rfl, rfl⟩ harrivals (.inr ⟨rfl, rfl⟩)
  | capture =>
    refine h.quiet _ hlife ⟨rfl, rfl⟩ harrivals (.inr ⟨?_, hpending⟩)
    simp [SessionView.act]
  | start session manual placementTest =>
    refine h.quiet _ hlife ⟨rfl, rfl⟩ harrivals (.inl ?_)
    cases manual <;> rfl
  | openFollowup task => exact h.quiet _ hlife ⟨rfl, rfl⟩ harrivals (.inl rfl)
  | audioEnd audio path followup =>
    obtain ⟨o, hok, rfl, session, hend, hactive, hpath, haudio, -⟩ :=
      htakes.permitted (by simp) (by simp)
    refine h.audioEnd audio path followup ?_ ?_ ?_
    · rintro rfl
      exact hpath.followup_eq.1
    · intro a ha
      rw [(haudio a ha).2]
      rfl
    · intro hsome
      obtain ⟨a, ha⟩ := Option.isSome_iff_exists.mp hsome
      have hruns := (haudio a ha).1
      have hpending : o.desk.self.view.pending = some .waitingForTtsPlayback →
          o.desk.self.pendingSessionFollowup.any (·.state = .waitingForTtsPlayback) = true := by
        intro hp
        obtain ⟨p, hp, hstate⟩ := Option.map_eq_some_iff.mp hp
        simp [hp, hstate]
      by_contra hboth
      push Not at hboth
      simp [Occasion.runsOnFreshAudio, hend, hruns, hpending hboth.2] at hok
      exact hboth.1 hok
  | chunk chunk placement enrollment overheard =>
    obtain ⟨o, -, rfl, session, payload, hon, hactive, rfl, -, -, hover⟩ :=
      htakes.permitted (by simp) (by simp)
    refine h.receive _ _ arrival_of_numbered hlife (notes_enrollment _) harrivals hpending ?_
    rw [SessionView.act_chunk_buffer (SessionRuntime.view_session hactive)]
    cases overheard with
    | true =>
      obtain ⟨hidle, rfl, rfl⟩ := hover rfl
      right
      simp [takeoverPath, VoiceSessionState.along, hidle, VoiceSessionState.hears]
    | false =>
      simp only [Bool.false_eq_true, if_false, List.append_nil]
      split
      · exact .inr rfl
      · exact .inl (List.append_nil _)
  | hear chunk overheard =>
    obtain ⟨o, -, rfl, session, payload, hon, hactive, rfl, -⟩ :=
      htakes.permitted (by simp) (by simp)
    refine h.receive _ [] arrival_of_numbered (by simpa [SessionAction.notes] using hlife)
      ⟨rfl, rfl⟩ harrivals hpending ?_
    rw [SessionView.act, SessionView.received_buffer]
    cases overheard
    · exact .inl (List.append_nil _)
    · exact .inr rfl

end act

/-- **An utterance is executed at most once.** -/
theorem executed_once (cfg : Config) (i : RuntimeId) (inputs : List Input)
    (hok : AllSteps (step cfg) (Meets (fun o => o.runsOnFreshAudio cfg = true) i) (.init cfg) inputs) :
    let trace := ((run (step cfg) (.init cfg) inputs).sessions i).trace
    (arrivalsOf (handledChunks trace)).Nodup ∧ (arrivalsOf (executedChunks trace)).Nodup ∧
      executedChunks trace ⊆ handledChunks trace := by
  have hinvariant : SessionInvariant cfg (fun o => o.runsOnFreshAudio cfg = true)
      fun _ w => w.Once :=
    { init := ⟨by rintro n ⟨⟩, .nil, by rintro c ⟨⟩, .nil, by rintro c ⟨⟩, .nil,
        fun _ => List.disjoint_nil_left _⟩
      mono := fun _ h => h
      act := fun h _ _ htakes => once_act h htakes }
  have honce := hinvariant.run hok
  intro trace
  rw [← handledChunks_life trace, ← executedChunks_life trace]
  exact ⟨honce.handled_nodup, honce.executed_nodup, honce.executed_sub⟩

theorem executed_once_utterance :
    let trace := ((run (step {}) (.init {}) (utterance asksAgain)).sessions (.connection 0)).trace
    (arrivalsOf (handledChunks trace)).Nodup ∧ (arrivalsOf (executedChunks trace)).Nodup ∧
      executedChunks trace ⊆ handledChunks trace :=
  executed_once {} (.connection 0) (utterance asksAgain) (by decide +kernel)

/-- If the audio ends a second time while the prompt still plays, the chunk is executed
again. -/
theorem executed_twice :
    ¬ (arrivalsOf (executedChunks ((run (step {}) (.init {})
      (utterance asksAgain ++ [kitchen .audioEnd {} asksAgain])).sessions
        (.connection 0)).trace)).Nodup := by
  decide +kernel

end HexeVoice.Voice
