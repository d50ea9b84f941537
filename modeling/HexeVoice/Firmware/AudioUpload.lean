import HexeVoice.Firmware.VoiceSession
import Mathlib

/-!
# What an upload carries

## The model

A turn is what is taken from the queue since a session started or its stream was resumed for a
follow-up. The pre-roll ring holds frames that were taken while no session was on.

## What is proved

**`uploads_carry_their_turns`**: in a run whose steps all meet `KeepsTurn`, each upload is the turn that
it ends, up to the limit, and no sample is uploaded twice.
-/

namespace HexeVoice.Firmware.VoiceSession

open HexeVoice.Library

/-! ### Turns -/

section Turns

variable {S : Type}

/-- The samples taken since a session started or was resumed. -/
def turn : List (Entry S) → List S
  | [] => []
  | .started :: _ | .resumed :: _ => []
  | .taken samples :: log => turn log ++ samples
  | .posted _ :: log => turn log

/-- All samples taken. -/
def takenSamples : List (Entry S) → List S
  | [] => []
  | .taken samples :: log => takenSamples log ++ samples
  | _ :: log => takenSamples log

/-- All samples uploaded. -/
def postedSamples : List (Entry S) → List S
  | [] => []
  | .posted samples :: log => postedSamples log ++ samples
  | _ :: log => postedSamples log

/-- Each upload is its turn, up to the limit. -/
def PostsTurns (limit : ℕ) : List (Entry S) → Prop
  | [] => True
  | .posted samples :: log => PostsTurns limit log ∧ samples = (turn log).take limit
  | _ :: log => PostsTurns limit log

/-- What uploads are to be: each is its turn, and what is uploaded, one upload after the other, is found
in this order among the samples taken, each at a place of its own. -/
def UploadsTurns (limit : ℕ) (log : List (Entry S)) : Prop :=
  PostsTurns limit log ∧ (postedSamples log).Sublist (takenSamples log)

end Turns

/-! ### Steps that keep turns -/

section Conditions

variable {S : Type} (config : Config) (env : Env) (s : Client S)

/-- A send fails in a way that ends the session. -/
def Disconnects (result : SendResult) : Prop :=
  result ≠ .lockTimedOut ∧ (env.otaActive = true ∨ s.wsConnected = false ∨ result = .failed)

/-- Samples can be passed on, or they find room in the transport buffer. -/
def HasRoom (samples : List S) : Prop :=
  s.httpAudioBuffer = true ∨ env.memory = true ∨
    s.transportSamples.length + samples.length ≤ transportFlushSampleLimit

/-- No frame is left from a time without a session where one starts. -/
def StartsFresh (wakeSource : CString) : Prop :=
  voiceControlTransportReady env s = true →
    (postTtsInputCooldownActive env s = true → wakeSourceIsLocalAcceptance wakeSource = true) →
      s.sessionStarted = false → env.message = .sent → s.prerollFrames = []

/-- Where the stream is finished, there is room for the frames in the queue, and `audio.end` is not given
up after an upload. -/
def FinishesOnce : Prop :=
  env.otaActive = false → s.sessionStarted = true → s.audioStreamFinished = false →
    HasRoom env s (s.audioQueue.flatMap AudioFrame.samples) ∧
      (env.uploaded = true → env.message ≠ .lockTimedOut)

/-- A frame for which there is room comes in time, or all that is uploaded is there already. -/
def TakesWhole (frame : AudioFrame S) : Prop :=
  s.sessionStarted = true → s.audioStreamFinished = false →
    if activeAudioStreamTimedOut env s then
      config.kVoiceAudioMaxBufferedSamples ≤ s.httpAudioSamples.length + s.transportSamples.length ∧
        FinishesOnce env s
    else HasRoom env s frame.samples

/-- Nothing of a turn is in the transport buffer where a cooldown clears it, or all that is uploaded is
there already. -/
def CoolsDownBetweenTurns : Prop :=
  env.otaActive = false → s.wsConnected = true → env.message = .sent → s.sessionStarted = true →
    s.audioStreamFinished = false →
      s.transportSamples = [] ∨ config.kVoiceAudioMaxBufferedSamples ≤ s.httpAudioSamples.length

/-- Nothing is left of the turn before where an event resumes the stream, and no frame is left from a
time without a session where it starts one. -/
def EventKeepsTurn (envelope : Envelope) : Prop :=
  (eventRequestsFollowupListen envelope.payload = true →
    (envelope.eventType = .ofAscii "wake.election.result" ∧
        wakeElectionResultRequestsStandDown envelope.payload = true) ∨
      (isBackendCommandEvent envelope.eventType = true ∧
        payloadRequestId envelope.payload ≠ .empty ∧ Disconnects env s env.acknowledgement) ∨
      s.sessionStarted = false ∨ s.httpAudioSamples = []) ∧
    (envelope.eventType = .ofAscii "endpoint.listen" → env.muted = false →
      env.ttsPlaybackActive = false → StartsFresh env s (.ofAscii "manual"))

/-- The steps after which uploads are what they are to be. -/
def KeepsTurn : Env × Action S → Prop
  | (env, .startVoiceSession wakeSource) =>
    env.muted = false → env.ttsPlaybackActive = false → StartsFresh env s wakeSource
  | (env, .submitWakeCandidate) =>
    env.muted = false → env.wakeWordElectionCapable = true → StartsFresh env s (.ofAscii "unknown")
  | (env, .finishAudioStream _) => FinishesOnce env s
  | (env, .sendTtsPlaybackEvent completed) => completed = true → CoolsDownBetweenTurns config env s
  | (env, .backendEvent root) => ∀ envelope ∈ acceptedEnvelope root, EventKeepsTurn env s envelope
  | (env, .websocketTask) =>
    backendReadyForVoice env = true → s.wsRestartRequested = false →
      (s.audioFinalize ≠ none ∨ activeAudioStreamTimedOut env s = true) → FinishesOnce env s
  | (env, .receiveAudioFrame) =>
    voiceControlTransportReady env s = true → ∀ frame ∈ s.audioQueue.head?,
      TakesWhole config env { s with audioQueue := s.audioQueue.tail } frame
  | _ => True

instance (result : SendResult) : Decidable (Disconnects env s result) :=
  inferInstanceAs (Decidable (_ ∧ _))

instance (samples : List S) : Decidable (HasRoom env s samples) :=
  inferInstanceAs (Decidable (_ ∨ _ ∨ _))

instance (wakeSource : CString) : Decidable (StartsFresh env s wakeSource) :=
  inferInstanceAs (Decidable (_ → (_ → _) → _ → _ → _))

instance : Decidable (FinishesOnce env s) :=
  inferInstanceAs (Decidable (_ → _ → _ → _ ∧ (_ → _)))

instance (frame : AudioFrame S) : Decidable (TakesWhole config env s frame) :=
  inferInstanceAs (Decidable (_ → _ → ite _ _ _))

instance : Decidable (CoolsDownBetweenTurns config env s) :=
  inferInstanceAs (Decidable (_ → _ → _ → _ → _ → _ ∨ _))

instance (envelope : Envelope) : Decidable (EventKeepsTurn env s envelope) :=
  inferInstanceAs (Decidable ((_ → _ ∨ _ ∨ _ ∨ _) ∧ (_ → _ → _ → _)))

instance : ∀ i : Env × Action S, Decidable (KeepsTurn config s i)
  | (env, .startVoiceSession wakeSource) =>
    inferInstanceAs (Decidable (_ → _ → StartsFresh env s wakeSource))
  | (env, .submitWakeCandidate) =>
    inferInstanceAs (Decidable (_ → _ → StartsFresh env s (.ofAscii "unknown")))
  | (env, .finishAudioStream _) => inferInstanceAs (Decidable (FinishesOnce env s))
  | (env, .sendTtsPlaybackEvent _) =>
    inferInstanceAs (Decidable (_ → CoolsDownBetweenTurns config env s))
  | (env, .backendEvent root) =>
    inferInstanceAs (Decidable (∀ envelope ∈ acceptedEnvelope root, EventKeepsTurn env s envelope))
  | (env, .websocketTask) => inferInstanceAs (Decidable (_ → _ → _ ∨ _ → FinishesOnce env s))
  | (env, .receiveAudioFrame) =>
    inferInstanceAs (Decidable (_ → ∀ frame ∈ s.audioQueue.head?,
      TakesWhole config env { s with audioQueue := s.audioQueue.tail } frame))
  | (_, .submitAudioFrame _ _ _) | (_, .notifyVadSpeechStarted) | (_, .cancelActiveSession)
  | (_, .websocketConnected) | (_, .websocketDisconnected) | (_, .sendText) => .isTrue trivial

end Conditions

/-! ### Moving samples -/

section Moves

variable {S : Type} {config : Config} {env : Env} {s s' : Client S}
variable {xs ys : List S}

/-- The first elements of lists that are continued alike. -/
theorem take_append_congr {n : ℕ} (h : xs.take n = ys.take n) (zs : List S) :
    (xs ++ zs).take n = (ys ++ zs).take n := by
  have hlength : min n xs.length = min n ys.length := by
    simpa using congrArg List.length h
  have hrest : n - xs.length = n - ys.length := by omega
  rw [List.take_append, List.take_append, h, hrest]

/-- What is beyond the limit may be dropped before. -/
theorem take_append_take_min {n : ℕ} (h : xs.length ≤ n) :
    (xs ++ ys.take (min (n - xs.length) ys.length)).take n = (xs ++ ys).take n := by
  rw [List.take_append, List.take_append, List.take_take, List.append_cancel_left_eq,
    List.take_eq_take_iff]
  omega

/-- Samples were put at the end of what is in the transport buffer and in the one that is uploaded, and
what is beyond the limit was dropped. -/
def Stores (config : Config) (s : Client S) (samples : List S) (s' : Client S) : Prop :=
  ∃ transport http buffer overflow streaming speech,
    s' =
      { s with
        transportSamples := transport
        httpAudioSamples := http
        httpAudioBuffer := buffer
        httpAudioBufferOverflow := overflow
        audioStreaming := streaming
        transportContainsSpeech := speech } ∧
    (s.httpAudioBuffer = true → buffer = true) ∧
    transport.length ≤ transportFlushSampleLimit ∧
    transport.length ≤ s.transportSamples.length + samples.length ∧
    http.length ≤ config.kVoiceAudioMaxBufferedSamples ∧
    (http ++ transport).take config.kVoiceAudioMaxBufferedSamples =
      (s.httpAudioSamples ++ s.transportSamples ++ samples).take config.kVoiceAudioMaxBufferedSamples

/-- The buffers are as full as they may be. -/
def Fits (config : Config) (s : Client S) : Prop :=
  s.transportSamples.length ≤ transportFlushSampleLimit ∧
    s.httpAudioSamples.length ≤ config.kVoiceAudioMaxBufferedSamples

theorem Stores.refl (h : Fits config s) : Stores config s [] s :=
  ⟨s.transportSamples, s.httpAudioSamples, s.httpAudioBuffer, s.httpAudioBufferOverflow,
    s.audioStreaming, s.transportContainsSpeech, rfl, id, h.1, by simp, h.2, by simp⟩

theorem Stores.fits {samples : List S} (h : Stores config s samples s') : Fits config s' := by
  obtain ⟨transport, http, buffer, overflow, streaming, speech, rfl, -, htransport, -, hhttp, -⟩ := h
  exact ⟨htransport, hhttp⟩

theorem Stores.trans {s'' : Client S} (h : Stores config s xs s')
    (h' : Stores config s' ys s'') : Stores config s (xs ++ ys) s'' := by
  obtain ⟨t, a, b, o, u, v, rfl, hbuffer, -, hlength, -, htake⟩ := h
  obtain ⟨t', a', b', o', u', v', rfl, hbuffer', hlimit', hlength', hfits', htake'⟩ := h'
  refine ⟨t', a', b', o', u', v', rfl, hbuffer' ∘ hbuffer, hlimit', ?_, hfits', ?_⟩
  · simp only [List.length_append] at hlength' ⊢
    omega
  · rw [htake', ← List.append_assoc]
    exact take_append_congr htake ys

/-- Where samples have room, what follows them has room after them. -/
theorem Stores.hasRoom (h : Stores config s xs s')
    (hroom : HasRoom env s (xs ++ ys)) : HasRoom env s' ys := by
  obtain ⟨t, a, b, o, u, v, rfl, hbuffer, -, hlength, -, -⟩ := h
  obtain hallocated | hmemory | hfits := hroom
  · exact .inl (hbuffer hallocated)
  · exact .inr (.inl hmemory)
  · refine .inr (.inr ?_)
    simp only [List.length_append] at hfits ⊢
    omega

theorem stores_setAudioStreaming (h : Fits config s) (streaming : Bool) :
    Stores config s [] (setAudioStreaming s streaming) :=
  ⟨_, _, _, _, _, _, rfl, id, h.1, by simp, h.2, by simp⟩

theorem stores_mergeTransportAudioMetrics (h : Fits config s) (frame : AudioFrame S) :
    Stores config s [] (mergeTransportAudioMetrics s frame) :=
  ⟨_, _, _, _, _, _, rfl, id, h.1, by simp, h.2, by simp⟩

variable (config env) in
/-- **What a flush does**: it passes on what is in the transport buffer, or there is no memory. -/
theorem stores_flush (h : Fits config s) (force : Bool) :
    Stores config s [] (flushTransportSamples config env s force).2 ∧
      ((flushTransportSamples config env s force).1 = true →
        force = true ∨ transportFlushSampleLimit ≤ s.transportSamples.length →
          (flushTransportSamples config env s force).2.transportSamples = []) ∧
      ((flushTransportSamples config env s force).1 = false →
        s.httpAudioBuffer = false ∧ env.memory = false) := by
  by_cases hempty : s.transportSamples = []
  · rw [flushTransportSamples, if_pos hempty]
    exact ⟨Stores.refl h, fun _ _ => hempty, nofun⟩
  · by_cases hshort : (!force && s.transportSamples.length < transportFlushSampleLimit) = true
    · simp only [flushTransportSamples, hempty, if_false, hshort, if_true]
      simp only [Bool.and_eq_true, Bool.not_eq_true', decide_eq_true_eq] at hshort
      refine ⟨Stores.refl h, fun _ hor => ?_, nofun⟩
      obtain hforce | hlong := hor
      · exact absurd hforce (by simp [hshort.1])
      · exact absurd hshort.2 (Nat.not_lt.mpr hlong)
    · by_cases hmemory : (!s.httpAudioBuffer && !env.memory) = true
      · simp only [flushTransportSamples, hempty, if_false, hshort, sendTransportChunk,
          bufferVoiceAudioSamples, hmemory, if_true]
        exact ⟨stores_setAudioStreaming h false, nofun, fun _ => by simpa using hmemory⟩
      · simp only [flushTransportSamples, hempty, if_false, hshort, sendTransportChunk,
          bufferVoiceAudioSamples, hmemory]
        have hfits := h.2
        refine ⟨⟨[], s.httpAudioSamples ++ s.transportSamples.take
          (min (config.kVoiceAudioMaxBufferedSamples - s.httpAudioSamples.length)
            s.transportSamples.length), true, _, true, false, rfl, fun _ => rfl, by simp, by simp, ?_, ?_⟩,
          fun _ _ => rfl, nofun⟩
        · rw [List.length_append, List.length_take]
          omega
        · rw [List.append_nil, List.append_nil]
          exact take_append_take_min hfits

variable (config env) in
/-- The loop puts all samples for which there is room where they belong. -/
theorem stores_appendTransportSamples (frame : AudioFrame S) : ∀ (passes : ℕ) (samples : List S)
    (s : Client S), Fits config s → HasRoom env s samples →
    samples.length < passes ∨
      samples.length ≤ passes ∧ s.transportSamples.length < transportFlushSampleLimit →
    Stores config s samples (appendTransportSamples config env frame passes samples s).2
  | 0, samples, s, hfits, _, hpasses => by
    have hempty : samples = [] := by
      apply List.eq_nil_of_length_eq_zero
      omega
    rw [hempty]
    exact Stores.refl hfits
  | passes + 1, samples, s, hfits, hroom, hpasses => by
    by_cases hempty : samples = []
    · rw [hempty, appendTransportSamples, if_pos rfl]
      exact Stores.refl hfits
    have hpos : 0 < samples.length := List.length_pos_iff.mpr hempty
    have htransport := hfits.1
    -- What fits the transport buffer is copied.
    obtain ⟨available, havailable⟩ :
        ∃ n, n = transportFlushSampleLimit - s.transportSamples.length := ⟨_, rfl⟩
    obtain ⟨s₀, hs₀⟩ : ∃ s₀,
      s₀ = { s with transportSamples := s.transportSamples ++ samples.take available } := ⟨_, rfl⟩
    have hcopy : s₀.transportSamples = s.transportSamples ++ samples.take available := by rw [hs₀]
    have hlength : s₀.transportSamples.length =
        s.transportSamples.length + min available samples.length := by
      rw [hcopy, List.length_append, List.length_take]
    have hcopied : Stores config s (samples.take available) s₀ := by
      refine ⟨_, _, _, _, _, _, hs₀, id, ?_, by simp, hfits.2, by simp⟩
      rw [← List.length_take, ← List.length_append] at hlength
      rw [List.length_append, List.length_take]
      omega
    have hsplit : samples.take available ++ samples.drop available = samples :=
      List.take_append_drop available samples
    have hroomRest := hcopied.hasRoom (hsplit.symm ▸ hroom)
    rw [appendTransportSamples, if_neg hempty]
    simp only [← havailable, ← hs₀]
    rw [← hcopy]
    by_cases hfull : s₀.transportSamples.length = transportFlushSampleLimit
    · rw [if_pos hfull]
      obtain ⟨hflush, hclear, hmemory⟩ := stores_flush config env hcopied.fits false
      rcases hresult : flushTransportSamples config env s₀ false with ⟨_ | _, s₁⟩
      · -- Without memory there is room in the transport buffer, so that nothing is left.
        rw [hresult] at hflush hmemory
        obtain ⟨hbuffer, hnone⟩ := hmemory rfl
        have hall : samples.length ≤ available := by
          obtain hallocated | hmemory | hfit := hroom
          · exact absurd (show s₀.httpAudioBuffer = true by rw [hs₀]; exact hallocated) (by simp [hbuffer])
          · exact absurd hmemory (by simp [hnone])
          · omega
        have hstores := hcopied.trans hflush
        rwa [List.append_nil, List.take_of_length_le hall] at hstores
      · rw [hresult] at hflush hclear
        have hcleared : s₁.transportSamples = [] := hclear rfl (.inr hfull.ge)
        have hstores := hcopied.trans hflush
        rw [List.append_nil] at hstores
        have hroomAfter : HasRoom env s₁ (samples.drop available) := hflush.hasRoom hroomRest
        have hrest : (samples.drop available).length ≤ passes := by
          rw [List.length_drop]
          omega
        have hlimit : 0 < transportFlushSampleLimit := by decide
        have hmerged : Stores config s (samples.take available)
            (if s₁.transportSamples = [] ∧ samples.drop available ≠ [] then
              mergeTransportAudioMetrics s₁ frame else s₁) ∧
            HasRoom env (if s₁.transportSamples = [] ∧ samples.drop available ≠ [] then
              mergeTransportAudioMetrics s₁ frame else s₁) (samples.drop available) ∧
            (if s₁.transportSamples = [] ∧ samples.drop available ≠ [] then
              mergeTransportAudioMetrics s₁ frame else s₁).transportSamples = [] := by
          split_ifs
          · have hmerge := hstores.trans (stores_mergeTransportAudioMetrics hstores.fits frame)
            rw [List.append_nil] at hmerge
            exact ⟨hmerge, hroomAfter, hcleared⟩
          · exact ⟨hstores, hroomAfter, hcleared⟩
        obtain ⟨hmerge, hroomMerged, hnil⟩ := hmerged
        have hmore := stores_appendTransportSamples frame passes _ _ hmerge.fits hroomMerged
          (.inr ⟨hrest, by rw [hnil]; exact hlimit⟩)
        have hall := hmerge.trans hmore
        rwa [hsplit] at hall
    · rw [if_neg hfull]
      have hall : samples.length ≤ available := by
        omega
      rw [List.drop_of_length_le hall]
      have hlimit : s₀.transportSamples.length < transportFlushSampleLimit :=
        lt_of_le_of_ne hcopied.fits.1 hfull
      have hmore := stores_appendTransportSamples frame passes [] _ hcopied.fits
        (List.drop_of_length_le hall ▸ hroomRest) (.inr ⟨Nat.zero_le _, hlimit⟩)
      have hstores := hcopied.trans hmore
      rwa [List.append_nil, List.take_of_length_le hall] at hstores

variable (config env) in
/-- A frame for which there is room is stored. -/
theorem stores_appendTransportFrame (hfits : Fits config s) {frame : AudioFrame S}
    (hroom : HasRoom env s frame.samples) :
    Stores config s frame.samples (appendTransportFrame config env s frame).2 := by
  have hmerge := stores_mergeTransportAudioMetrics hfits frame
  have hloop := stores_appendTransportSamples config env frame (frame.samples.length + 1)
    frame.samples _ hmerge.fits hroom (.inl (Nat.lt_succ_self _))
  have hstores := hmerge.trans hloop
  rw [List.nil_append] at hstores
  rw [appendTransportFrame]
  rcases hresult : appendTransportSamples config env frame (frame.samples.length + 1) frame.samples
    (mergeTransportAudioMetrics s frame) with ⟨_ | _, s₁⟩
  · rwa [hresult] at hstores
  · rw [hresult] at hstores
    by_cases hended : frame.microVadEnded = true
    · simp only [hended, if_true]
      have hflush := (stores_flush config env hstores.fits true).1
      have hall := hstores.trans hflush
      rwa [List.append_nil] at hall
    · simp only [hended]
      exact hstores

variable (config env) in
theorem drainPreroll_of_nil (h : s.prerollFrames = []) :
    ∃ drained, drainPrerollFrames config env s = (true, { s with prerollDrained := drained }) := by
  cases hdrained : s.prerollDrained with
  | true => exact ⟨true, by rw [drainPrerollFrames, hdrained, if_pos rfl, ← hdrained]⟩
  | false => exact ⟨true, by simp [drainPrerollFrames, hdrained, h, appendTransportFrames]⟩

end Moves

/-! ### The invariant -/

section Invariant

variable {S : Type} {config : Config} {env : Env} {s s' : Client S}

/-- Frames of a turn are being taken. -/
def Capturing (s : Client S) : Prop := s.sessionStarted = true ∧ s.audioStreamFinished = false

/-- What holds between steps: the buffers hold the turn up to the limit, and uploads are what they are to
be, also if the turn is uploaded next. -/
structure Carries (config : Config) (s : Client S) : Prop where
  fits : Fits config s
  accepted : s.wakeElectionWaiting = true → s.wakeAcceptedForSession = true
  restart : s.wsRestartRequested = true → s.sessionStarted = false
  idle : s.sessionStarted = false → s.httpAudioSamples = []
  fresh : s.sessionStarted = true → s.prerollFrames = []
  content : Capturing s → (turn s.log).take config.kVoiceAudioMaxBufferedSamples =
    (s.httpAudioSamples ++ s.transportSamples).take config.kVoiceAudioMaxBufferedSamples
  posts : PostsTurns config.kVoiceAudioMaxBufferedSamples s.log
  once : (postedSamples s.log).Sublist (takenSamples s.log)
  next : Capturing s → (postedSamples s.log ++ turn s.log).Sublist (takenSamples s.log)

theorem carries_boot : Carries config (.boot S) where
  fits := ⟨Nat.zero_le _, Nat.zero_le _⟩
  accepted := nofun
  restart := nofun
  idle _ := rfl
  fresh := nofun
  content h := absurd h.1 Bool.false_ne_true
  posts := trivial
  once := List.Sublist.refl []
  next h := absurd h.1 Bool.false_ne_true

/-- No session is on, and its samples are gone. -/
theorem Carries.ended (h : Carries config s) (hlog : s'.log = s.log)
    (hstarted : s'.sessionStarted = false) (hhttp : s'.httpAudioSamples = [])
    (htransport : s'.transportSamples = []) (hwaiting : s'.wakeElectionWaiting = false) :
    Carries config s' where
  fits := ⟨by simp [htransport], by simp [hhttp]⟩
  accepted hw := absurd hw (by simp [hwaiting])
  restart _ := hstarted
  idle _ := hhttp
  fresh hs := absurd hs (by simp [hstarted])
  content hc := absurd hc.1 (by simp [hstarted])
  posts := hlog ▸ h.posts
  once := hlog ▸ h.once
  next hc := absurd hc.1 (by simp [hstarted])

theorem carries_reset (h : Carries config s) (clear : Bool) :
    Carries config (resetVoiceSessionState s clear) := by
  cases clear <;> exact h.ended rfl rfl rfl rfl rfl

/-- A send that succeeds or is given up changes nothing; any other ends the session. -/
theorem sendWsText_cases (env : Env) (s : Client S) (result : SendResult) :
    (result = .sent ∧ env.otaActive = false ∧ s.wsConnected = true ∧
        sendWsText env s result = (true, s)) ∨
      (result = .lockTimedOut ∧ sendWsText env s result = (false, s)) ∨
      (Disconnects env s result ∧ ∃ restart,
        sendWsText env s result =
          (false, { markVoiceSocketDisconnected s with wsRestartRequested := restart })) := by
  by_cases hlock : result = .lockTimedOut
  · exact .inr (.inl ⟨hlock, by simp [sendWsText, hlock]⟩)
  by_cases hclosed : (env.otaActive || !s.wsConnected) = true
  · refine .inr (.inr ⟨⟨hlock, ?_⟩, s.wsRestartRequested, by simp [sendWsText, hlock, hclosed]; rfl⟩)
    rw [Bool.or_eq_true, Bool.not_eq_true'] at hclosed
    exact hclosed.imp_right .inl
  · cases result with
    | lockTimedOut => exact absurd rfl hlock
    | sent =>
      rw [Bool.or_eq_true, not_or, Bool.not_eq_true, Bool.not_eq_true', Bool.not_eq_false] at hclosed
      exact .inl ⟨rfl, hclosed.1, hclosed.2, by simp [sendWsText, hclosed]⟩
    | failed => exact .inr (.inr ⟨⟨hlock, .inr (.inr rfl)⟩, true, by simp [sendWsText, hclosed]⟩)

theorem carries_sendWsText (h : Carries config s) (result : SendResult) :
    Carries config (sendWsText env s result).2 := by
  obtain ⟨-, -, -, heq⟩ | ⟨-, heq⟩ | ⟨-, restart, heq⟩ := sendWsText_cases env s result
  · rwa [heq]
  · rwa [heq]
  · rw [heq]
    exact h.ended rfl rfl rfl rfl rfl

theorem carries_sendCommandAnswer (h : Carries config s) (requestId : CString)
    (result : SendResult) : Carries config (sendCommandAnswer env s requestId result) := by
  rw [sendCommandAnswer]
  split_ifs
  · exact h
  · exact carries_sendWsText h result

/-- Samples that are taken in a turn and stored. -/
theorem Carries.taken (h : Carries config s) (hcapturing : Capturing s) {samples : List S}
    (hstores : Stores config (s.note (.taken samples)) samples s') :
    Carries config s' ∧ Capturing s' := by
  have hfits := hstores.fits
  obtain ⟨t, a, b, o, u, v, rfl, -, -, -, -, htake⟩ := hstores
  refine ⟨⟨hfits, h.accepted, h.restart, ?_, h.fresh, fun _ => ?_, h.posts, ?_, fun _ => ?_⟩,
    hcapturing⟩
  · exact fun hs => absurd hcapturing.1 (Bool.eq_false_iff.mp hs)
  · exact (take_append_congr (h.content hcapturing) samples).trans htake.symm
  · exact h.once.trans (List.sublist_append_left _ _)
  · have hnext := (h.next hcapturing).append (List.Sublist.refl samples)
    rwa [List.append_assoc] at hnext

/-- What is in the transport buffer is passed on. -/
theorem Carries.stored (h : Carries config s) (hcapturing : Capturing s)
    (hstores : Stores config s [] s') : Carries config s' ∧ Capturing s' := by
  have hfits := hstores.fits
  obtain ⟨t, a, b, o, u, v, rfl, -, -, -, -, htake⟩ := hstores
  refine ⟨⟨hfits, h.accepted, h.restart, ?_, h.fresh, fun _ => ?_, h.posts, h.once, h.next⟩,
    hcapturing⟩
  · exact fun hs => absurd hcapturing.1 (Bool.eq_false_iff.mp hs)
  · rw [List.append_nil] at htake
    exact (h.content hcapturing).trans htake.symm

/-! ### The end of a stream -/

variable (config env) in
/-- The frames in the queue are taken, up to the first that does not fit. -/
theorem carries_drain : ∀ (queued : List (AudioFrame S)) (s : Client S), Carries config s →
    Capturing s → HasRoom env s (queued.flatMap AudioFrame.samples) →
    Carries config (drainQueuedAudioFrames config env queued s) ∧
      Capturing (drainQueuedAudioFrames config env queued s)
  | [], _, h, hcapturing, _ => ⟨h, hcapturing⟩
  | frame :: queued, s, h, hcapturing, hroom => by
    have hfresh : ({ s with audioQueue := queued }.note (.taken frame.samples)).prerollFrames = [] :=
      h.fresh hcapturing.1
    obtain ⟨drained, hdrain⟩ := drainPreroll_of_nil config env hfresh
    have hfirst : HasRoom env s frame.samples := by
      obtain hallocated | hmemory | hfits := hroom
      · exact .inl hallocated
      · exact .inr (.inl hmemory)
      · refine .inr (.inr ?_)
        rw [List.flatMap_cons, List.length_append] at hfits
        omega
    have hfits : Fits config { { s with audioQueue := queued }.note (.taken frame.samples) with
        prerollDrained := drained } := h.fits
    have hstores := stores_appendTransportFrame config env hfits hfirst
    have hroomAfter : HasRoom env _ (queued.flatMap AudioFrame.samples) := hstores.hasRoom hroom
    have hbefore : Carries config { s with audioQueue := queued, prerollDrained := drained } :=
      ⟨h.fits, h.accepted, h.restart, h.idle, h.fresh, h.content, h.posts, h.once, h.next⟩
    obtain ⟨hcarries, hstill⟩ := hbefore.taken hcapturing hstores
    rw [drainQueuedAudioFrames, hdrain]
    rcases hresult : appendTransportFrame config env
      { { s with audioQueue := queued }.note (.taken frame.samples) with
        prerollDrained := drained } frame with ⟨_ | _, s₁⟩
    · rw [hresult] at hcarries hstill
      simp only [hresult]
      exact ⟨hcarries, hstill⟩
    · rw [hresult] at hcarries hstill hroomAfter
      simp only [hresult]
      exact carries_drain queued s₁ hcarries hstill hroomAfter

/-- The upload and `audio.end`. -/
theorem carries_finishFlushed (h : Carries config s) (hcapturing : Capturing s)
    (htransport : s.transportSamples = [])
    (honce : env.uploaded = true → env.message ≠ .lockTimedOut) (reason : CString) :
    Carries config (finishFlushedAudioStream config env s reason).2 := by
  have hcontent : (turn s.log).take config.kVoiceAudioMaxBufferedSamples = s.httpAudioSamples := by
    rw [h.content hcapturing, htransport, List.append_nil, List.take_of_length_le h.fits.2]
  obtain ⟨s₁, hs₁⟩ :
      ∃ s₁, s₁ = setAudioStreaming { s with audioStreamFinished := true } false := ⟨_, rfl⟩
  have hfinished : Carries config s₁ := by
    rw [hs₁]
    exact ⟨h.fits, h.accepted, h.restart, h.idle, h.fresh, fun hon => (by cases hon.2), h.posts, h.once,
      fun hon => (by cases hon.2)⟩
  have hposted : Carries config (s₁.note (.posted s₁.httpAudioSamples)) := by
    rw [hs₁]
    refine ⟨h.fits, h.accepted, h.restart, h.idle, h.fresh, fun hon => (by cases hon.2),
      ⟨h.posts, hcontent.symm⟩, ?_, fun hon => (by cases hon.2)⟩
    have hturn : s.httpAudioSamples.Sublist (turn s.log) := hcontent ▸ List.take_sublist _ _
    exact ((List.Sublist.refl _).append hturn).trans (h.next hcapturing)
  have hreturned : Carries config { s₁ with audioStreamFinished := false } := by
    rw [hs₁]
    exact ⟨h.fits, h.accepted, h.restart, h.idle, h.fresh, fun _ => h.content hcapturing, h.posts,
      h.once, fun _ => h.next hcapturing⟩
  -- The state after the upload.
  obtain ⟨s₂, hs₂, hcarries, hended⟩ : ∃ s₂,
      s₂ = (if (reason = .ofAscii "capture_timeout" && !s.vadSpeechStartedReported &&
          !s.transportContainsSpeech) && s₁.httpAudioSamples.isEmpty then s₁
        else postBufferedVoiceAudioHttp config env s₁) ∧ Carries config s₂ ∧
      (env.message = .lockTimedOut → Carries config { s₂ with audioStreamFinished := false }) := by
    refine ⟨_, rfl, ?_⟩
    rw [postBufferedVoiceAudioHttp]
    split_ifs with _ _ _ _ huploaded
    · exact ⟨hfinished, fun _ => hreturned⟩
    · exact ⟨hfinished, fun _ => hreturned⟩
    · exact ⟨hfinished, fun _ => hreturned⟩
    · exact ⟨hfinished, fun _ => hreturned⟩
    · exact ⟨hposted, fun hlock => absurd hlock (honce huploaded)⟩
    · exact ⟨hfinished, fun _ => hreturned⟩
  have hfinish : finishFlushedAudioStream config env s reason =
      if (sendWsText env s₂ env.message).1 then
        (true, setAudioStreaming
          { (sendWsText env s₂ env.message).2 with audioStreamFinished := true } false)
      else (false, { (sendWsText env s₂ env.message).2 with audioStreamFinished := false }) := by
    rw [hs₂, hs₁, finishFlushedAudioStream]
    dsimp only
    generalize sendWsText env _ env.message = sent
    obtain ⟨returned, s⟩ := sent
    cases returned <;> rfl
  rw [hfinish]
  obtain ⟨-, -, -, heq⟩ | ⟨hlock, heq⟩ | ⟨-, restart, heq⟩ := sendWsText_cases env s₂ env.message
  · rw [heq]
    exact ⟨hcarries.fits, hcarries.accepted, hcarries.restart, hcarries.idle, hcarries.fresh,
      fun hon => (by cases hon.2), hcarries.posts, hcarries.once, fun hon => (by cases hon.2)⟩
  · rw [heq]
    exact hended hlock
  · rw [heq]
    exact hcarries.ended rfl rfl rfl rfl rfl

/-- **The end of a stream keeps the invariant.** -/
theorem carries_finish (h : Carries config s) (hfinish : FinishesOnce env s) (reason : CString) :
    Carries config (finishAudioStream config env s reason).2 := by
  rw [finishAudioStream]
  split_ifs with hunable hunaccepted
  · exact h
  · exact h
  simp only [Bool.or_eq_true, Bool.not_eq_true', not_or, Bool.not_eq_true, Bool.not_eq_false] at hunable
  obtain ⟨⟨hota, hstarted⟩, hfinished⟩ := hunable
  obtain ⟨hroom, honce⟩ := hfinish hota hstarted hfinished
  obtain ⟨hdrained, hcapturing⟩ := carries_drain config env s.audioQueue s h ⟨hstarted, hfinished⟩ hroom
  obtain ⟨hflush, hclear, -⟩ := stores_flush config env hdrained.fits true
  obtain ⟨hflushed, hstill⟩ := hdrained.stored hcapturing hflush
  rcases hresult : flushTransportSamples config env
    (drainQueuedAudioFrames config env s.audioQueue s) true with ⟨_ | _, s₁⟩
  · rw [hresult] at hflushed
    simp only [drainQueuedAudioFramesToTransportBuffer, hresult]
    exact hflushed
  · rw [hresult] at hflushed hstill hclear
    simp only [drainQueuedAudioFramesToTransportBuffer, hresult]
    exact carries_finishFlushed hflushed hstill (hclear rfl (.inl rfl)) honce reason

/-! ### Frames -/

/-- Where all that is uploaded is there already, a frame may be lost. -/
theorem Carries.lost (h : Carries config s) {samples : List S}
    (hfull : config.kVoiceAudioMaxBufferedSamples ≤
      s.httpAudioSamples.length + s.transportSamples.length) :
    Carries config (s.note (.taken samples)) where
  fits := h.fits
  accepted := h.accepted
  restart := h.restart
  idle := h.idle
  fresh := h.fresh
  content hcapturing := by
    have hcontent := h.content hcapturing
    have hlength := congrArg List.length hcontent
    simp only [List.length_take, List.length_append] at hlength
    have hlong : config.kVoiceAudioMaxBufferedSamples ≤ (turn s.log).length := by omega
    exact (List.take_append_of_le_length hlong).trans hcontent
  posts := h.posts
  once := h.once.trans (List.sublist_append_left _ _)
  next hcapturing := by
    have hnext := (h.next hcapturing).append (List.Sublist.refl samples)
    rwa [List.append_assoc] at hnext

/-- A frame that is taken outside of a turn. -/
theorem Carries.ignored (h : Carries config s) (hidle : ¬Capturing s) (samples : List S) :
    Carries config (s.note (.taken samples)) where
  fits := h.fits
  accepted := h.accepted
  restart := h.restart
  idle := h.idle
  fresh := h.fresh
  content hcapturing := absurd hcapturing hidle
  posts := h.posts
  once := h.once.trans (List.sublist_append_left _ _)
  next hcapturing := absurd hcapturing hidle

/-- A frame is taken from the queue. -/
theorem carries_sendAudioFrame (h : Carries config s) {frame : AudioFrame S}
    (hwhole : TakesWhole config env s frame) :
    Carries config (sendAudioFrame config env (s.note (.taken frame.samples)) frame) := by
  rw [sendAudioFrame]
  by_cases hstarted : (!(s.note (.taken frame.samples)).sessionStarted) = true
  · rw [if_pos hstarted]
    have hidle : ¬Capturing s := fun hc => by simp [Client.note, hc.1] at hstarted
    have hnoted := h.ignored hidle frame.samples
    refine ⟨h.fits, h.accepted, h.restart, h.idle, fun hs => ?_, hnoted.content, h.posts, hnoted.once,
      hnoted.next⟩
    exact absurd (show s.sessionStarted = true from hs) (by simpa [Client.note] using hstarted)
  rw [if_neg hstarted]
  by_cases hfinished : (s.note (.taken frame.samples)).audioStreamFinished = true
  · rw [if_pos hfinished]
    exact h.ignored (fun hc => by simp [Client.note, hc.2] at hfinished) frame.samples
  rw [if_neg hfinished]
  have hcapturing : Capturing s :=
    ⟨by simpa [Client.note] using hstarted, by simpa [Client.note] using hfinished⟩
  have hwhole := hwhole hcapturing.1 hcapturing.2
  by_cases htimeout : activeAudioStreamTimedOut env (s.note (.taken frame.samples)) = true
  · rw [if_pos htimeout]
    rw [if_pos (show activeAudioStreamTimedOut env s = true from htimeout)] at hwhole
    exact carries_finish (h.lost hwhole.1) hwhole.2 _
  · rw [if_neg htimeout]
    rw [if_neg (show ¬activeAudioStreamTimedOut env s = true from htimeout)] at hwhole
    -- An election that waits has accepted the wake.
    have haccepted : (s.wakeElectionWaiting && !s.wakeAcceptedForSession) = false := by
      cases hw : s.wakeElectionWaiting with
      | false => rfl
      | true => simp [h.accepted hw]
    have hfresh : (s.note (.taken frame.samples)).prerollFrames = [] := h.fresh hcapturing.1
    obtain ⟨drained, hdrain⟩ := drainPreroll_of_nil config env hfresh
    have hfits : Fits config { s.note (.taken frame.samples) with prerollDrained := drained } := h.fits
    have hstores := stores_appendTransportFrame config env hfits hwhole
    have hbefore : Carries config { s with prerollDrained := drained } :=
      ⟨h.fits, h.accepted, h.restart, h.idle, h.fresh, h.content, h.posts, h.once, h.next⟩
    have hsame : ((s.note (.taken frame.samples)).wakeElectionWaiting &&
        !(s.note (.taken frame.samples)).wakeAcceptedForSession) = false := haccepted
    simp only [hsame, Bool.false_and, Bool.false_eq_true, if_false, hdrain]
    exact (hbefore.taken hcapturing hstores).1

/-! ### Sessions -/

theorem carries_cooldown (h : Carries config s) (durationUs : ℤ)
    (hbetween : Capturing s →
      s.transportSamples = [] ∨ config.kVoiceAudioMaxBufferedSamples ≤ s.httpAudioSamples.length) :
    Carries config (startInputIgnoreCooldown env s durationUs) where
  fits := ⟨Nat.zero_le _, h.fits.2⟩
  accepted := h.accepted
  restart := h.restart
  idle := h.idle
  fresh _ := rfl
  content hcapturing := by
    refine (h.content hcapturing).trans ?_
    obtain hempty | hfull := hbetween hcapturing
    · rw [hempty]
      rfl
    · rw [List.take_append_of_le_length hfull]
      exact (List.take_append_of_le_length hfull).symm
  posts := h.posts
  once := h.once
  next := h.next

/-- A session starts, or it does not. -/
theorem carries_start (h : Carries config s) {wakeSource : CString}
    (hfresh : StartsFresh env s wakeSource) :
    Carries config (ensureSessionStarted config env s wakeSource).2 := by
  rw [ensureSessionStarted]
  split_ifs with hstarted hready hcooldown
  · exact h
  · exact h
  · exact h
  rw [Bool.not_eq_true] at hstarted
  have hhttp := h.idle hstarted
  obtain ⟨s₁, hs₁⟩ : ∃ s₁, s₁ =
    { resetWakeElectionState (resetTransportMicroVad
        { s with
          postTtsInputIgnoreUntilUs :=
            if wakeSourceIsLocalAcceptance wakeSource then 0 else s.postTtsInputIgnoreUntilUs
          sessionCounter := (s.sessionCounter + 1) % 2 ^ 32
          audioStreamFinished := false
          wakeAcceptedForSession := wakeSourceIsLocalAcceptance wakeSource
          vadSpeechStartedReported := false
          prerollDrained := false
          transportSamples := []
          sessionStartedAtUs := env.nowUs }) with
      ttsPlaybackSessionId := .empty
      sessionId := (concat [config.endpointId, .ofAscii "-",
        digits ((s.sessionCounter + 1) % 2 ^ 32)]).take 95 } := ⟨_, rfl⟩
  simp only [← hs₁]
  obtain ⟨hsent, -, -, heq⟩ | ⟨-, heq⟩ | ⟨-, restart, heq⟩ := sendWsText_cases env s₁ env.message
  · have hready : voiceControlTransportReady env s = true := by simpa using hready
    have hlocal : postTtsInputCooldownActive env s = true →
        wakeSourceIsLocalAcceptance wakeSource = true := by simpa using hcooldown
    have hnone := hfresh hready hlocal hstarted hsent
    have hrestart : s.wsRestartRequested = false := by
      simp only [voiceControlTransportReady, Bool.and_eq_true, Bool.not_eq_true'] at hready
      exact hready.1.2
    simp only [heq]
    rw [hs₁]
    refine ⟨⟨Nat.zero_le _, by simp [hhttp, setAudioStreaming, Client.note, resetWakeElectionState,
      resetTransportMicroVad]⟩, nofun, fun hr => ?_, nofun, fun _ => hnone, fun _ => ?_, h.posts,
      h.once, fun _ => ?_⟩
    · exact absurd hr (Bool.eq_false_iff.mp hrestart)
    · simp [hhttp, setAudioStreaming, Client.note, resetWakeElectionState, resetTransportMicroVad,
        turn]
    · rw [Client.note, turn, List.append_nil]
      exact h.once
  · simp only [heq]
    rw [hs₁]
    exact h.ended rfl rfl hhttp rfl rfl
  · simp only [heq]
    rw [hs₁]
    exact h.ended rfl rfl rfl rfl rfl

theorem carries_startVoiceSession (h : Carries config s) {wakeSource : CString}
    (hfresh : env.muted = false → env.ttsPlaybackActive = false → StartsFresh env s wakeSource) :
    Carries config (startVoiceSession config env s wakeSource).2 := by
  rw [startVoiceSession]
  split_ifs with hmuted _ htts
  · exact h
  · exact h
  · exact h
  · exact h
  · rw [Bool.or_eq_true, not_or, Bool.not_eq_true] at hmuted
    exact carries_start h (hfresh hmuted.1 (by simpa using htts))

theorem carries_submitWakeCandidate (h : Carries config s)
    (hfresh : env.muted = false → env.wakeWordElectionCapable = true →
      StartsFresh env s (.ofAscii "unknown")) :
    Carries config (submitWakeCandidate config env s) := by
  rw [submitWakeCandidate]
  split_ifs with hunable
  · exact h
  · exact h
  · exact h
  simp only [Bool.or_eq_true, Bool.not_eq_true', not_or, Bool.not_eq_true, Bool.not_eq_false] at hunable
  have hstart := carries_start h (hfresh hunable.1.1 hunable.2)
  rcases hresult : ensureSessionStarted config env s (.ofAscii "unknown") with ⟨_ | _, s₁⟩
  · rwa [hresult] at hstart
  rw [hresult] at hstart
  obtain ⟨-, -, -, heq⟩ | ⟨-, heq⟩ | ⟨-, restart, heq⟩ := sendWsText_cases env s₁ env.answer
  · simp only [heq]
    exact ⟨hstart.fits, fun _ => rfl, hstart.restart, hstart.idle, hstart.fresh, hstart.content,
      hstart.posts, hstart.once, hstart.next⟩
  · simp only [heq]
    exact ⟨hstart.fits, nofun, hstart.restart, hstart.idle, hstart.fresh, hstart.content,
      hstart.posts, hstart.once, hstart.next⟩
  · simp only [heq]
    exact hstart.ended rfl rfl rfl rfl rfl

theorem carries_resume (h : Carries config s)
    (hempty : s.sessionStarted = true → s.httpAudioSamples = []) :
    Carries config (resumeAudioStreamForFollowup env s) := by
  rw [resumeAudioStreamForFollowup]
  split_ifs with hstarted
  · exact h
  have hstarted : s.sessionStarted = true := by simpa using hstarted
  have hhttp := hempty hstarted
  refine ⟨⟨Nat.zero_le _, h.fits.2⟩, nofun, h.restart, h.idle, h.fresh, fun _ => ?_, h.posts,
    h.once, fun _ => ?_⟩
  · simp [hhttp, setAudioStreaming, Client.note, resetWakeElectionState, resetTransportMicroVad, turn]
  · rw [Client.note, turn, List.append_nil]
    exact h.once

theorem carries_cancel (h : Carries config s) : Carries config (cancelActiveSession env s) := by
  rw [cancelActiveSession]
  split_ifs
  · exact h
  · exact (carries_sendWsText h env.message).ended rfl rfl rfl rfl rfl

/-! ### Events -/

theorem carries_dispatch (h : Carries config s) {envelope : Envelope}
    (hlisten : envelope.eventType = .ofAscii "endpoint.listen" → env.muted = false →
      env.ttsPlaybackActive = false → StartsFresh env s (.ofAscii "manual")) :
    Carries config (dispatchEvent config env s envelope) := by
  have hsame (tts : CString) (request : Option AudioFinalize) :
      Carries config { s with ttsPlaybackSessionId := tts, audioFinalize := request } :=
    ⟨h.fits, h.accepted, h.restart, h.idle, h.fresh, h.content, h.posts, h.once, h.next⟩
  rw [dispatchEvent]
  split
  · exact h
  split
  · exact hsame _ _
  split
  · split
    · refine carries_sendCommandAnswer ?_ _ _
      split_ifs
      · exact carries_cancel h
      · exact h
    · exact carries_sendCommandAnswer h _ _
  split
  · exact hsame _ _
  split
  · exact carries_sendCommandAnswer (carries_cancel h) _ _
  split
  · next hevent =>
    exact carries_sendCommandAnswer (carries_startVoiceSession h (hlisten hevent)) _ _
  split
  · exact h.ended rfl rfl rfl rfl rfl
  split
  · exact h.ended rfl rfl rfl rfl rfl
  split
  · exact h.ended rfl rfl rfl rfl rfl
  · exact h

/-- An acknowledgement changes nothing, or it ends the session. -/
theorem sendCommandAnswer_cases (env : Env) (s : Client S) (requestId : CString)
    (result : SendResult) :
    (sendCommandAnswer env s requestId result = s ∧
        ¬(requestId ≠ .empty ∧ Disconnects env s result)) ∨
      ((requestId ≠ .empty ∧ Disconnects env s result) ∧ ∃ restart,
        sendCommandAnswer env s requestId result =
          { markVoiceSocketDisconnected s with wsRestartRequested := restart }) := by
  rw [sendCommandAnswer]
  split_ifs with hempty
  · exact .inl ⟨rfl, fun h => h.1 hempty⟩
  obtain ⟨hsent, hota, hconnected, heq⟩ | ⟨hlock, heq⟩ | ⟨hdisconnects, restart, heq⟩ :=
    sendWsText_cases env s result
  · refine .inl ⟨by rw [heq], fun h => ?_⟩
    obtain ⟨-, -, hotaActive | hclosed | hfailed⟩ := h
    · exact absurd hotaActive (by simp [hota])
    · exact absurd hclosed (by simp [hconnected])
    · exact absurd hfailed (by simp [hsent])
  · exact .inl ⟨by rw [heq], fun h => h.2.1 hlock⟩
  · exact .inr ⟨⟨hempty, hdisconnects⟩, restart, by rw [heq]⟩

/-- **An event keeps the invariant.** -/
theorem carries_envelope (h : Carries config s) {envelope : Envelope}
    (hkeeps : EventKeepsTurn env s envelope) :
    Carries config (handleEnvelope config env s envelope) := by
  obtain ⟨hfollowup, hlisten⟩ := hkeeps
  -- After the acknowledgement the state is the same, or no session is on.
  obtain ⟨s₁, hs₁⟩ : ∃ s₁, s₁ =
    if isBackendCommandEvent envelope.eventType then
      sendCommandAnswer env s (payloadRequestId envelope.payload) env.acknowledgement
    else s := ⟨_, rfl⟩
  have hcarries : Carries config s₁ := by
    rw [hs₁]
    split_ifs
    · exact carries_sendCommandAnswer h _ _
    · exact h
  have hcases : (s₁ = s ∧ ¬(isBackendCommandEvent envelope.eventType = true ∧
        payloadRequestId envelope.payload ≠ .empty ∧ Disconnects env s env.acknowledgement)) ∨
      (s₁.sessionStarted = false ∧ s₁.wsConnected = false) := by
    rw [hs₁]
    split_ifs with hcommand
    · obtain ⟨heq, hnot⟩ | ⟨-, restart, heq⟩ := sendCommandAnswer_cases env s
        (payloadRequestId envelope.payload) env.acknowledgement
      · exact .inl ⟨heq, fun hc => hnot hc.2⟩
      · exact .inr (by rw [heq]; exact ⟨rfl, rfl⟩)
    · exact .inl ⟨rfl, fun hc => hcommand hc.1⟩
  -- Nothing is left of the turn before where the stream is resumed.
  have hempty : ¬(envelope.eventType = .ofAscii "wake.election.result" ∧
        wakeElectionResultRequestsStandDown envelope.payload = true) →
      eventRequestsFollowupListen envelope.payload = true →
        s₁.sessionStarted = true → s₁.httpAudioSamples = [] := by
    intro hstand hrequests hstarted
    obtain ⟨rfl, hnot⟩ | ⟨hended, -⟩ := hcases
    · obtain hdown | hlost | hidle | hnone := hfollowup hrequests
      · exact absurd hdown hstand
      · exact absurd hlost hnot
      · exact absurd hstarted (by simp [hidle])
      · exact hnone
    · exact absurd hstarted (by simp [hended])
  have hlistens : envelope.eventType = .ofAscii "endpoint.listen" → env.muted = false →
      env.ttsPlaybackActive = false → StartsFresh env s₁ (.ofAscii "manual") := by
    intro hevent hmuted htts
    obtain ⟨rfl, -⟩ | ⟨-, hclosed⟩ := hcases
    · exact hlisten hevent hmuted htts
    · exact fun hready => absurd hready (by simp [voiceControlTransportReady, hclosed])
  obtain ⟨s₂, hs₂⟩ : ∃ s₂, s₂ =
    if envelope.eventType = .ofAscii "wake.accepted" then acceptWake s₁ else s₁ := ⟨_, rfl⟩
  have haccepted : Carries config s₂ ∧ s₂.sessionStarted = s₁.sessionStarted ∧
      s₂.httpAudioSamples = s₁.httpAudioSamples := by
    rw [hs₂]
    split_ifs
    · exact ⟨⟨hcarries.fits, nofun, hcarries.restart, hcarries.idle, hcarries.fresh,
        hcarries.content, hcarries.posts, hcarries.once, hcarries.next⟩, rfl, rfl⟩
    · exact ⟨hcarries, rfl, rfl⟩
  obtain ⟨haccepted, hstarted, hhttp⟩ := haccepted
  obtain ⟨s₃, hs₃⟩ : ∃ s₃, s₃ =
    if eventRequestsFollowupListen envelope.payload then resumeAudioStreamForFollowup env s₂ else s₂ :=
    ⟨_, rfl⟩
  simp only [handleEnvelope, ← hs₁, ← hs₂, ← hs₃]
  by_cases hstand : (envelope.eventType = .ofAscii "wake.election.result" &&
      wakeElectionResultRequestsStandDown envelope.payload) = true
  · rw [if_pos hstand]
    exact carries_reset hcarries false
  rw [if_neg hstand]
  have hresumed : Carries config s₃ := by
    rw [hs₃]
    split_ifs with hrequests
    · refine carries_resume haccepted fun hon => ?_
      rw [hhttp]
      exact hempty (by simpa using hstand) hrequests (hstarted ▸ hon)
    · exact haccepted
  split_ifs
  · exact hresumed
  refine carries_dispatch hresumed fun hevent hmuted htts => ?_
  have hnotAccepted : s₂ = s₁ := by
    rw [hs₂, if_neg]
    rw [hevent]
    decide
  rw [hs₃, hnotAccepted]
  split_ifs
  · by_cases hon : s₁.sessionStarted = true
    · intro _ _ hidle
      rw [resumeAudioStreamForFollowup, if_neg (by simp [hon])] at hidle
      exact absurd hon (Bool.eq_false_iff.mp hidle)
    · rw [resumeAudioStreamForFollowup, if_pos (by simpa using hon)]
      exact hlistens hevent hmuted htts
  · exact hlistens hevent hmuted htts

/-! ### Steps and runs -/

theorem carries_websocketTask (h : Carries config s)
    (hkeeps : backendReadyForVoice env = true → s.wsRestartRequested = false →
      (s.audioFinalize ≠ none ∨ activeAudioStreamTimedOut env s = true) → FinishesOnce env s) :
    Carries config (websocketTask config env s) := by
  rw [websocketTask]
  by_cases hunable : (env.otaActive || !backendReadyForVoice env) = true
  · rw [if_pos hunable]
    split_ifs
    · exact h.ended rfl rfl rfl rfl rfl
    · exact ⟨h.fits, h.accepted, h.restart, h.idle, h.fresh, h.content, h.posts, h.once, h.next⟩
  rw [if_neg hunable]
  by_cases hrestart : s.wsRestartRequested = true
  · rw [if_pos hrestart]
    have hidle := h.restart hrestart
    have hnone : ¬Capturing s := fun hc => absurd hc.1 (by simp [hidle])
    exact ⟨⟨Nat.zero_le _, h.fits.2⟩, h.accepted, nofun, h.idle, fun _ => rfl,
      fun hc => absurd hc hnone, h.posts, h.once, fun hc => absurd hc hnone⟩
  · rw [if_neg hrestart]
    rw [Bool.or_eq_true, not_or, Bool.not_eq_true'] at hunable
    have hfinish := hkeeps (by simpa using hunable.2) (by simpa using hrestart)
    split
    · next request hrequest =>
      have hbefore : Carries config { s with audioFinalize := none } :=
        ⟨h.fits, h.accepted, h.restart, h.idle, h.fresh, h.content, h.posts, h.once, h.next⟩
      exact carries_sendCommandAnswer
        (carries_finish hbefore (hfinish (.inl (by simp [hrequest]))) _) _ _
    · split_ifs with htimeout
      · rw [Bool.and_eq_true] at htimeout
        exact carries_finish h (hfinish (.inr htimeout.2)) _
      · exact h

theorem carries_receive (h : Carries config s)
    (hkeeps : voiceControlTransportReady env s = true → ∀ frame ∈ s.audioQueue.head?,
      TakesWhole config env { s with audioQueue := s.audioQueue.tail } frame) :
    Carries config (receiveAudioFrame config env s) := by
  rw [receiveAudioFrame]
  split_ifs with hready
  · exact h
  · split
    · exact h
    · next frame queued hqueue =>
      have hwhole := hkeeps (by simpa using hready) frame (by simp [hqueue])
      rw [hqueue, List.tail_cons] at hwhole
      have hbefore : Carries config { s with audioQueue := queued } :=
        ⟨h.fits, h.accepted, h.restart, h.idle, h.fresh, h.content, h.posts, h.once, h.next⟩
      exact carries_sendAudioFrame hbefore hwhole

/-- **The step lemma.** -/
theorem carries_step (h : Carries config s) {i : Env × Action S} (hkeeps : KeepsTurn config s i) :
    Carries config (step config s i) := by
  obtain ⟨env, action⟩ := i
  cases action with
  | startVoiceSession wakeSource => exact carries_startVoiceSession h hkeeps
  | submitWakeCandidate => exact carries_submitWakeCandidate h hkeeps
  | submitAudioFrame samples vadSpeaking microVadEnded =>
    rw [step, submitAudioFrame]
    split_ifs
    · exact h
    · exact h
    · exact ⟨h.fits, h.accepted, h.restart, h.idle, h.fresh, h.content, h.posts, h.once, h.next⟩
    · exact ⟨h.fits, h.accepted, h.restart, h.idle, h.fresh, h.content, h.posts, h.once, h.next⟩
  | notifyVadSpeechStarted =>
    rw [step, sendVadSpeechStartedEvent]
    split_ifs
    · exact h
    · exact h
    · exact h
    · have hsent := @carries_sendWsText S config env s h env.message
      rcases hresult : sendWsText env s env.message with ⟨_ | _, s₁⟩
      · rwa [hresult] at hsent
      · rw [hresult] at hsent
        exact ⟨hsent.fits, hsent.accepted, hsent.restart, hsent.idle, hsent.fresh, hsent.content,
          hsent.posts, hsent.once, hsent.next⟩
  | finishAudioStream reason => exact carries_finish h hkeeps reason
  | cancelActiveSession => exact carries_cancel h
  | sendTtsPlaybackEvent completed =>
    rw [step, sendTtsPlaybackEvent]
    obtain ⟨hsent, hota, hconnected, heq⟩ | ⟨-, heq⟩ | ⟨-, restart, heq⟩ :=
      sendWsText_cases env s env.message
    · simp only [heq]
      have hcooled : Carries config (if completed then startPostTtsInputCooldown env s else s) := by
        split_ifs with hcompleted
        · exact carries_cooldown h _ fun hc => hkeeps hcompleted hota hconnected hsent hc.1 hc.2
        · exact h
      exact ⟨hcooled.fits, hcooled.accepted, hcooled.restart, hcooled.idle, hcooled.fresh,
        hcooled.content, hcooled.posts, hcooled.once, hcooled.next⟩
    · simp only [heq]
      exact h
    · simp only [heq]
      exact h.ended rfl rfl rfl rfl rfl
  | backendEvent root =>
    rw [step, handleBackendEventJson]
    rcases henvelope : acceptedEnvelope root with _ | envelope
    · exact h
    · exact carries_envelope h (hkeeps envelope henvelope)
  | websocketConnected => exact h.ended rfl rfl rfl rfl rfl
  | websocketDisconnected => exact h.ended rfl rfl rfl rfl rfl
  | websocketTask => exact carries_websocketTask h hkeeps
  | receiveAudioFrame => exact carries_receive h hkeeps
  | sendText => exact carries_sendWsText h env.message

variable (config) in
/-- **Uploads carry their turns**, in runs whose steps all meet the condition. -/
theorem uploads_carry_their_turns (is : List (Env × Action S))
    (hkeeps : AllSteps (step config) (KeepsTurn config) (.boot S) is) :
    UploadsTurns config.kVoiceAudioMaxBufferedSamples (run (step config) (.boot S) is).log := by
  have hcarries : Carries config (run (step config) (.boot S) is) := by
    refine run_invariant ?_ carries_boot hkeeps
    intro s i h hok
    exact carries_step h hok
  exact ⟨hcarries.posts, hcarries.once⟩

end Invariant

/-! ### A follow-up -/

/-- An endpoint with the settings of the example configuration. -/
def kitchen : Config where
  endpointId := .ofAscii "esp-box-1"
  kEndpointAudioSampleRateHz := 16000
  kEndpointAudioChannels := 1
  kEndpointAudioChunkSamples := 320

/-- All goes well. -/
def fine (nowUs : ℤ) : Env where
  nowUs
  muted := false
  otaActive := false
  backendConnected := true
  ttsPlaybackActive := false
  wakeWordElectionCapable := true
  wsClient := true
  memory := true
  uploaded := true
  acknowledgement := .sent
  message := .sent
  answer := .sent

/-- An event of the backend. -/
def backendEnvelope (eventType sessionId : CString) (payload : List (CString × CJson)) : CJson :=
  .object
    [(.ofAscii "event_type", .string eventType), (.ofAscii "event_id", .string (.ofAscii "evt-1")),
      (.ofAscii "schema_version", .string kVoiceEventSchemaVersion),
      (.ofAscii "timestamp", .string (.ofAscii "2026-01-01T00:00:00Z")),
      (.ofAscii "session_id", .string sessionId), (.ofAscii "payload", .object payload)]

/-- The backend listens for an answer. -/
def listensAgain : CJson :=
  backendEnvelope (.ofAscii "session.state") (.ofAscii "esp-box-1-1")
    [(.ofAscii "snapshot", .object [(.ofAscii "ux_state", .string (.ofAscii "listening"))]),
      (.ofAscii "followup", .object [(.ofAscii "needed", .bool true)])]

/-- A turn of one frame. -/
def oneTurn (nowUs : ℤ) (sample : ℕ) : List (Env × Action ℕ) :=
  [(fine nowUs, .submitAudioFrame [sample] true false), (fine nowUs, .receiveAudioFrame),
    (fine nowUs, .finishAudioStream (.ofAscii "vad_silence"))]

/-- A session starts. -/
def sessionStart : List (Env × Action ℕ) :=
  [(fine 1, .websocketConnected), (fine 400000, .startVoiceSession (.ofAscii "button"))]

/-- A session with a follow-up. -/
def followupSession : List (Env × Action ℕ) :=
  sessionStart ++ oneTurn 500000 1 ++ (fine 600000, .backendEvent listensAgain) :: oneTurn 700000 2

/-- The upload of a follow-up has the samples of the turn before, too. -/
theorem followup_uploads_both_turns :
    ¬UploadsTurns kitchen.kVoiceAudioMaxBufferedSamples
      (run (step kitchen) (.boot ℕ) followupSession).log := by
  have hlog : (run (step kitchen) (.boot ℕ) followupSession).log =
      [.posted [1, 2], .taken [2], .resumed, .posted [1], .taken [1], .started] := by
    decide +kernel
  rw [hlog]
  rintro ⟨⟨-, hturn⟩, -⟩
  have hlength := congrArg List.length hturn
  simp only [turn, List.length_take, List.length_append, List.length_cons, List.length_nil] at hlength
  omega

/-- Two sessions, one after the other. -/
def twoSessions : List (Env × Action ℕ) :=
  sessionStart ++ oneTurn 500000 1 ++
    (fine 600000, .backendEvent (backendEnvelope (.ofAscii "session.completed")
      (.ofAscii "esp-box-1-1") [])) ::
    (fine 900000, .startVoiceSession (.ofAscii "button")) :: oneTurn 1000000 2

theorem uploads_of_two_sessions :
    UploadsTurns kitchen.kVoiceAudioMaxBufferedSamples
        (run (step kitchen) (.boot ℕ) twoSessions).log ∧
      postedSamples (run (step kitchen) (.boot ℕ) twoSessions).log = [1, 2] :=
  ⟨uploads_carry_their_turns kitchen twoSessions (by decide +kernel), by decide +kernel⟩

end HexeVoice.Firmware.VoiceSession
