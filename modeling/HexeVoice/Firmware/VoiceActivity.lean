import HexeVoice.Library.Machine
import Mathlib

/-!
# Voice activity

`vad_task` and `apply_vad_state` of `board/audio.cpp`, which report the start and the end of speech, and
the pauses of the microphone during playback.

## The model

A step is one pass of the task, or what others do between two passes: they mute and unmute, OTA phases
come and go, playback pauses the microphone and the threshold is set. The level of a frame is any number.
What happens is noted in a log, the last entry first; the code does not look at it. The chunks of the
micro VAD and the wake words, on which nothing here depends, are left out.

## What is proved

**`reports_proper`**: in a run whose steps all meet `SilenceKnown`, speech is reported to start at a
frame that reaches the threshold, and to end after silence that nothing interrupted.
-/

namespace HexeVoice.Firmware.VoiceActivity

open HexeVoice.Library

variable {log : List Entry}

/-! ### The log -/

/-- What is noted. -/
inductive Entry where
  /-- A frame that is read, and the threshold in force. -/
  | frame (level threshold : ℕ)
  /-- The microphone is paused for playback. -/
  | paused
  /-- An OTA phase begins. -/
  | ota
  /-- `notify_vad_speech_started`. -/
  | started
  /-- `finish_audio_stream("vad_silence")`. -/
  | ended
  deriving DecidableEq

/-- A frame without voice. -/
def Entry.isQuiet : Entry → Bool
  | .frame level threshold => level < threshold
  | _ => false

/-- What speech does not go on over. -/
def Entry.interrupts : Entry → Bool
  | .paused | .ota | .ended => true
  | _ => false

/-! ### The task -/

def kFrameDurationMs : ℕ := 20
def kVadStartEnergyThreshold : ℕ := 900
def kVadContinueEnergyThreshold : ℕ := 500
def kVadSilenceHoldMs : ℕ := 2500
def kVadSilenceHoldFrames : ℕ := kVadSilenceHoldMs / kFrameDurationMs

def microVadContinueThreshold (startThreshold : ℕ) : ℕ :=
  max 1 (startThreshold * kVadContinueEnergyThreshold / kVadStartEnergyThreshold)

/-- What the task shares with others, its variable `silent_frames`, and the log. -/
structure State where
  muted : Bool
  otaActive : Bool
  vadSpeaking : Bool
  microVadEnergyThreshold : ℕ
  /-- `g_vad_turn_active`. -/
  vadTurnActive : Bool
  /-- `g_mic_pause_requested`. -/
  micPauseRequested : Bool
  /-- `g_mic_paused_for_playback`. -/
  micPausedForPlayback : Bool
  silentFrames : ℕ
  log : List Entry

/-- The device as it starts, with the settings that it has. -/
def State.boot (muted : Bool) (microVadEnergyThreshold : ℕ) : State where
  muted
  otaActive := false
  vadSpeaking := false
  microVadEnergyThreshold
  vadTurnActive := false
  micPauseRequested := false
  micPausedForPlayback := false
  silentFrames := 0
  log := []

/-- The threshold in force. -/
def State.threshold (s : State) : ℕ :=
  if s.vadSpeaking then microVadContinueThreshold s.microVadEnergyThreshold
  else s.microVadEnergyThreshold

/-- Something happens. -/
def State.note (s : State) (entry : Entry) : State := { s with log := entry :: s.log }

def applyVadState (s : State) (speaking : Bool) : State :=
  if s.muted || s.otaActive then { s with vadSpeaking := false }
  else if s.vadSpeaking = speaking then s
  else if speaking then { s with vadSpeaking := true, vadTurnActive := true }.note .started
  else if s.vadTurnActive then { s with vadSpeaking := false, vadTurnActive := false }.note .ended
  else { s with vadSpeaking := false }

/-- `silent_frames`, one frame later. -/
def countSilence (silentFrames : ℕ) : ℕ :=
  if silentFrames < kVadSilenceHoldFrames then silentFrames + 1 else silentFrames

/-- A frame is read. -/
def onFrame (s : State) (level : ℕ) : State :=
  let threshold := s.threshold
  let s := s.note (.frame level threshold)
  if threshold ≤ level then applyVadState { s with silentFrames := 0 } true
  else
    let silentFrames := countSilence s.silentFrames
    applyVadState { s with silentFrames } (silentFrames < kVadSilenceHoldFrames)

/-- `vad_task`, one pass; `none` where reading a frame fails. The microphone that is paused is held by
the one who paused it, so that a pass waits. -/
def vadTask (s : State) (frame : Option ℕ) : State :=
  if s.otaActive then
    { s with
      vadSpeaking := false
      vadTurnActive := false
      silentFrames := kVadSilenceHoldFrames }
  else if s.micPauseRequested || s.micPausedForPlayback then s
  else
    match frame with
    | none => s
    | some level => onFrame s level

/-- `pause_microphone_for_playback`: whether the mutex is taken in time, and whether the codec can be
closed. -/
def pauseMicrophoneForPlayback (s : State) (taken closed : Bool) : State :=
  if !taken then { s with micPauseRequested := false }
  else if s.micPausedForPlayback then { s with micPauseRequested := true }
  else if !closed then { s with micPauseRequested := false }
  else
    { s with
      micPauseRequested := true
      micPausedForPlayback := true
      vadSpeaking := false }.note .paused

def resumeMicrophoneAfterPlayback (s : State) : State :=
  if s.micPausedForPlayback then
    { s with micPauseRequested := false, micPausedForPlayback := false }
  else s

/-- An OTA phase begins or ends. -/
def setOtaActive (s : State) (active : Bool) : State :=
  if active then { s with otaActive := true }.note .ota else { s with otaActive := false }

inductive Event where
  | pass (frame : Option ℕ)
  | setMuted (muted : Bool)
  | setOtaActive (active : Bool)
  | pause (taken closed : Bool)
  | resume
  | setMicroVadEnergyThreshold (threshold : ℕ)

/-- One step. -/
def step (s : State) : Event → State
  | .pass frame => vadTask s frame
  | .setMuted muted => { s with muted }
  | .setOtaActive active => setOtaActive s active
  | .pause taken closed => pauseMicrophoneForPlayback s taken closed
  | .resume => resumeMicrophoneAfterPlayback s
  | .setMicroVadEnergyThreshold threshold => { s with microVadEnergyThreshold := threshold }

/-! ### What reports mean -/

/-- Speech is reported to go on. -/
def Speaking (log : List Entry) : Prop :=
  ∃ since before, log = since ++ .started :: before ∧ ∀ e ∈ since, e.interrupts = false

/-- Speech goes on, and at least so many frames without voice are the last that happened. -/
def SilentFor (frames : ℕ) (log : List Entry) : Prop :=
  ∃ quiet before, log = quiet ++ before ∧ frames ≤ quiet.length ∧
    (∀ e ∈ quiet, e.isQuiet = true) ∧ Speaking before

/-- Before a start comes a frame that reaches the threshold, and before an end come silence, the frame
at which it is reported included, and a start, with no interruption. -/
def Proper : List Entry → Prop
  | [] => True
  | .started :: before =>
    Proper before ∧ ∃ level threshold rest, before = .frame level threshold :: rest ∧
      threshold ≤ level
  | .ended :: before => Proper before ∧ SilentFor kVadSilenceHoldFrames before
  | _ :: before => Proper before

/-- A frame without voice that is read while no speech is reported comes after silence; and the task has
made a pass in an OTA phase that ends. -/
def SilenceKnown (s : State) : Event → Prop
  | .pass (some level) =>
    s.otaActive = false → s.micPauseRequested = false → s.micPausedForPlayback = false →
      s.muted = false → s.vadSpeaking = false → level < s.threshold →
        kVadSilenceHoldFrames - 1 ≤ s.silentFrames
  | .setOtaActive false => s.otaActive = true → s.vadSpeaking = false
  | _ => True

instance : ∀ (s : State) (event : Event), Decidable (SilenceKnown s event)
  | s, .pass (some level) =>
    inferInstanceAs (Decidable (s.otaActive = false → s.micPauseRequested = false →
      s.micPausedForPlayback = false → s.muted = false → s.vadSpeaking = false →
        level < s.threshold → kVadSilenceHoldFrames - 1 ≤ s.silentFrames))
  | s, .setOtaActive false =>
    inferInstanceAs (Decidable (s.otaActive = true → s.vadSpeaking = false))
  | _, .pass none | _, .setOtaActive true | _, .setMuted _ | _, .pause _ _ | _, .resume
  | _, .setMicroVadEnergyThreshold _ => .isTrue trivial

/-! ### Steps -/

variable {s : State}

/-- Silence in speech is part of the speech. -/
theorem SilentFor.speaking {frames : ℕ} (h : SilentFor frames log) :
    Speaking log := by
  obtain ⟨quiet, _, rfl, -, hquiet, since, before, rfl, hsince⟩ := h
  refine ⟨quiet ++ since, before, by simp, fun e he => ?_⟩
  rw [List.mem_append] at he
  obtain he | he := he
  · have hquiet := hquiet e he
    cases e <;> simp_all [Entry.isQuiet, Entry.interrupts]
  · exact hsince e he

theorem Speaking.silentFor (h : Speaking log) : SilentFor 0 log :=
  ⟨[], log, rfl, Nat.zero_le _, by simp, h⟩

/-- Speech goes on over a frame. -/
theorem Speaking.frame (h : Speaking log) (level threshold : ℕ) :
    Speaking (.frame level threshold :: log) := by
  obtain ⟨since, before, rfl, hsince⟩ := h
  exact ⟨.frame level threshold :: since, before, rfl, by simpa [Entry.interrupts] using hsince⟩

theorem SilentFor.mono {frames frames' : ℕ} (h : SilentFor frames log)
    (hle : frames' ≤ frames) : SilentFor frames' log := by
  obtain ⟨quiet, before, rfl, hframes, hall⟩ := h
  exact ⟨quiet, before, rfl, hle.trans hframes, hall⟩

/-- A frame without voice lengthens the silence. -/
theorem SilentFor.frame {frames : ℕ} (h : SilentFor frames log)
    {level threshold : ℕ} (hquiet : level < threshold) :
    SilentFor (frames + 1) (.frame level threshold :: log) := by
  obtain ⟨quiet, before, rfl, hframes, hall, hspeaking⟩ := h
  refine ⟨.frame level threshold :: quiet, before, rfl, by simpa using hframes, ?_, hspeaking⟩
  simpa [Entry.isQuiet, hquiet] using hall

/-- What the flags know of the log: outside of OTA phases, speech that is flagged was reported, and as
many frames without voice as are counted came since. -/
structure Tracks (s : State) : Prop where
  proper : Proper s.log
  silent : s.vadSpeaking = true → s.otaActive = false → SilentFor s.silentFrames s.log

theorem countSilence_le (silentFrames : ℕ) : countSilence silentFrames ≤ silentFrames + 1 := by
  rw [countSilence]
  split_ifs <;> omega

/-- After all but one frame of silence, it is long enough. -/
theorem le_countSilence {silentFrames : ℕ} (h : kVadSilenceHoldFrames - 1 ≤ silentFrames) :
    kVadSilenceHoldFrames ≤ countSilence silentFrames := by
  rw [countSilence]
  split_ifs <;> omega

/-- Speech goes on, or it starts. -/
theorem tracks_apply_true (hs : Tracks s)
    (hstart : s.muted = false → s.vadSpeaking = false →
      s.silentFrames = 0 ∧ Proper (.started :: s.log)) :
    Tracks (applyVadState s true) := by
  simp only [applyVadState, State.note]
  split_ifs with hmuted hspeaking
  · exact ⟨hs.proper, nofun⟩
  · exact hs
  · rw [Bool.not_eq_true, Bool.or_eq_false_iff] at hmuted
    obtain ⟨hzero, hproper⟩ := hstart hmuted.1 (by simpa using hspeaking)
    refine ⟨hproper, fun _ _ => ?_⟩
    rw [hzero]
    exact Speaking.silentFor ⟨[], s.log, rfl, by simp⟩

/-- There is no speech, or it ends after enough silence. -/
theorem tracks_apply_false (hs : Tracks s) (hlong : kVadSilenceHoldFrames ≤ s.silentFrames) :
    Tracks (applyVadState s false) := by
  simp only [applyVadState, State.note, Bool.false_eq_true, if_false]
  split_ifs with hmuted hspeaking hturn
  · exact ⟨hs.proper, nofun⟩
  · exact hs
  · rw [Bool.not_eq_true, Bool.or_eq_false_iff] at hmuted
    have hsilent := hs.silent (by simpa using hspeaking) hmuted.2
    exact ⟨⟨hs.proper, hsilent.mono hlong⟩, nofun⟩
  · exact ⟨hs.proper, nofun⟩

/-- A frame with voice. -/
theorem tracks_voice (hs : Tracks s) {level : ℕ} (hvoice : s.threshold ≤ level) :
    Tracks (onFrame s level) := by
  simp only [onFrame, hvoice, if_true]
  apply tracks_apply_true
  · refine ⟨hs.proper, fun hspeaking hota => ?_⟩
    exact ((hs.silent hspeaking hota).speaking.frame level s.threshold).silentFor
  · exact fun _ _ => ⟨rfl, hs.proper, level, s.threshold, s.log, rfl, hvoice⟩

/-- A frame without voice. -/
theorem tracks_quiet (hs : Tracks s) {level : ℕ} (hquiet : level < s.threshold)
    (hknown : s.muted = false → s.vadSpeaking = false →
      kVadSilenceHoldFrames - 1 ≤ s.silentFrames) : Tracks (onFrame s level) := by
  have hframe : Tracks { s.note (.frame level s.threshold) with
      silentFrames := countSilence s.silentFrames } := by
    refine ⟨hs.proper, fun hspeaking hota => ?_⟩
    exact ((hs.silent hspeaking hota).frame hquiet).mono (countSilence_le s.silentFrames)
  by_cases hshort : countSilence s.silentFrames < kVadSilenceHoldFrames
  · have heq : onFrame s level = applyVadState { s.note (.frame level s.threshold) with
        silentFrames := countSilence s.silentFrames } true := by
      simp only [onFrame, Nat.not_le.mpr hquiet, if_false, ← decide_eq_true hshort]
      rfl
    rw [heq]
    refine tracks_apply_true hframe fun hmuted hspeaking => ?_
    -- speech would start at a frame without voice, but then the silence is long enough
    exact absurd hshort (Nat.not_lt.mpr (le_countSilence (hknown hmuted hspeaking)))
  · have heq : onFrame s level = applyVadState { s.note (.frame level s.threshold) with
        silentFrames := countSilence s.silentFrames } false := by
      simp only [onFrame, Nat.not_le.mpr hquiet, if_false, ← decide_eq_false hshort]
      rfl
    rw [heq]
    exact tracks_apply_false hframe (Nat.not_lt.mp hshort)

/-- **The step lemma.** -/
theorem tracks_step (hs : Tracks s) {event : Event} (hknown : SilenceKnown s event) :
    Tracks (step s event) := by
  cases event with
  | pass frame =>
    simp only [step, vadTask]
    split_ifs with hota hpaused
    · exact ⟨hs.proper, nofun⟩
    · exact hs
    · rw [Bool.not_eq_true] at hota
      rw [Bool.not_eq_true, Bool.or_eq_false_iff] at hpaused
      cases frame with
      | none => exact hs
      | some level =>
        by_cases hvoice : s.threshold ≤ level
        · exact tracks_voice hs hvoice
        · rw [Nat.not_le] at hvoice
          refine tracks_quiet hs hvoice fun hmuted hspeaking => ?_
          exact hknown hota hpaused.1 hpaused.2 hmuted hspeaking hvoice
  | setMuted muted => exact ⟨hs.proper, hs.silent⟩
  | setOtaActive active =>
    cases active with
    | true => exact ⟨hs.proper, fun _ hota => by simp [step, setOtaActive, State.note] at hota⟩
    | false =>
      refine ⟨hs.proper, fun hspeaking _ => ?_⟩
      by_cases hota : s.otaActive = true
      · have hquiet := hknown hota
        simp [step, setOtaActive, hquiet] at hspeaking
      · exact hs.silent hspeaking (by simpa using hota)
  | pause taken closed =>
    simp only [step, pauseMicrophoneForPlayback]
    split_ifs
    · exact ⟨hs.proper, hs.silent⟩
    · exact ⟨hs.proper, hs.silent⟩
    · exact ⟨hs.proper, hs.silent⟩
    · exact ⟨hs.proper, nofun⟩
  | resume =>
    simp only [step, resumeMicrophoneAfterPlayback]
    split_ifs
    · exact ⟨hs.proper, hs.silent⟩
    · exact hs
  | setMicroVadEnergyThreshold threshold => exact ⟨hs.proper, hs.silent⟩

/-! ### Whole runs -/

/-- **Reports are proper.** -/
theorem reports_proper (muted : Bool) (threshold : ℕ) (events : List Event)
    (h : AllSteps step SilenceKnown (State.boot muted threshold) events) :
    Proper (run step (State.boot muted threshold) events).log := by
  have hboot : Tracks (State.boot muted threshold) := ⟨trivial, nofun⟩
  have hrun : Tracks (run step (State.boot muted threshold) events) := by
    revert h
    exact run_invariant (fun _ _ hs hknown => tracks_step hs hknown) hboot
  exact hrun.proper

/-- A word, and silence after it. -/
def spoken : List Event := .pass (some 1000) :: List.replicate 125 (.pass (some 40))

set_option maxRecDepth 2000 in
theorem reports_proper_spoken :
    Proper (run step (State.boot false 300) spoken).log ∧
      (run step (State.boot false 300) spoken).log.head? = some .ended := by
  constructor
  · apply reports_proper
    decide +kernel
  · decide +kernel

/-- The first frame after boot is reported as speech, though it is silent. -/
theorem silence_reported :
    (run step (State.boot false 300) [.pass (some 0)]).log = [.started, .frame 0 300] ∧
      ¬ Proper (run step (State.boot false 300) [.pass (some 0)]).log := by
  have hlog : (run step (State.boot false 300) [.pass (some 0)]).log = [.started, .frame 0 300] := by
    decide
  refine ⟨hlog, ?_⟩
  rw [hlog]
  rintro ⟨-, level, threshold, rest, heq, hle⟩
  cases heq
  omega

end HexeVoice.Firmware.VoiceActivity
