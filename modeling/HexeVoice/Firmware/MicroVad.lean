import HexeVoice.Firmware.VoiceActivity
import Mathlib

/-!
# Micro VAD chunks

`micro_vad_frame_state` of `board/audio.cpp` and the passes of `vad_task` around it, which number the
runs of frames with voice.

## The model

A step is one pass of the task, with what it finds: the level of a frame, whether speech is reported and
the settings are anything. The frames that are submitted are kept, the last one first; the code does not
look at them again. The index is a `uint32_t`.

## What is proved

**`chunks_named`**: in a run with fewer than 2^32 chunks, none of which an OTA phase cuts, an index names
one run of frames: they follow each other, only the first one says that it starts the chunk, and only the
last one that it ends it. The branch of OTA forgets a chunk and does not count it.
-/

namespace HexeVoice.Firmware.MicroVad

open HexeVoice.Library VoiceActivity

/-! ### The task -/

structure MicroVadFrameState where
  chunkIndex : ℕ
  active : Bool := false
  started : Bool := false
  ended : Bool := false
  pauseMs : ℕ := 0

/-- The variables of the task, and what it submitted. -/
structure Task where
  chunkIndex : ℕ := 0
  chunkActive : Bool := false
  silentFrames : ℕ := 0
  submitted : List MicroVadFrameState := []

/-- What a pass finds. -/
inductive Pass where
  | otaActive
  /-- A pause is requested, or the microphone is not taken or cannot be read. -/
  | noFrame
  | pausedForPlayback
  /-- A frame is read, with speech reported or not, and the settings at this time. -/
  | frame (level : ℕ) (wasSpeaking : Bool) (energyThreshold pauseMs : ℕ)

def microVadPauseFrames (pauseMs : ℕ) : ℕ := max 1 (pauseMs / kFrameDurationMs)

def frameHasVoice (level : ℕ) (wasSpeaking : Bool) (startThreshold : ℕ) : Bool :=
  (if wasSpeaking then microVadContinueThreshold startThreshold else startThreshold) ≤ level

/-- `++chunk_index`. -/
def next (chunkIndex : ℕ) : ℕ := (chunkIndex + 1) % 2 ^ 32

def microVadFrameState (t : Task) (frameHasVoice : Bool) (pauseMs : ℕ) : Task × MicroVadFrameState :=
  if frameHasVoice then
    ({ t with chunkActive := true, silentFrames := 0 },
      { chunkIndex := t.chunkIndex, active := true, started := !t.chunkActive })
  else if !t.chunkActive then (t, { chunkIndex := t.chunkIndex })
  else
    let pauseFrames := microVadPauseFrames pauseMs
    let silentFrames := if t.silentFrames < pauseFrames then t.silentFrames + 1 else t.silentFrames
    let state : MicroVadFrameState :=
      { chunkIndex := t.chunkIndex, active := true, pauseMs := silentFrames * kFrameDurationMs }
    if pauseFrames ≤ silentFrames then
      ({ t with chunkIndex := next t.chunkIndex, chunkActive := false, silentFrames := 0 },
        { state with ended := true })
    else ({ t with silentFrames }, state)

/-- A frame, which is submitted with its state. -/
def Task.submit (t : Task) (hasVoice : Bool) (pauseMs : ℕ) : Task :=
  { (microVadFrameState t hasVoice pauseMs).1 with
    submitted := (microVadFrameState t hasVoice pauseMs).2 :: t.submitted }

/-- `vad_task`, one pass. -/
def vadTask (t : Task) : Pass → Task
  | .otaActive => { t with chunkActive := false, silentFrames := 0 }
  | .noFrame => t
  | .pausedForPlayback =>
    { t with
      chunkIndex := if t.chunkActive then next t.chunkIndex else t.chunkIndex
      chunkActive := false
      silentFrames := 0 }
  | .frame level wasSpeaking energyThreshold pauseMs =>
    t.submit (frameHasVoice level wasSpeaking energyThreshold) pauseMs

/-! ### What an index names -/

/-- The frame belongs to the chunk. -/
def InChunk (chunkIndex : ℕ) (f : MicroVadFrameState) : Prop :=
  f.active = true ∧ f.chunkIndex = chunkIndex

/-- A frame fits those before it. -/
structure Fits (frames : List MicroVadFrameState) (g : MicroVadFrameState) : Prop where
  /-- All frames since an earlier one of the chunk are of the chunk; that one did not end it, and this
  one does not start it. -/
  consecutive : ∀ between f before, frames = between ++ f :: before → InChunk g.chunkIndex f →
    g.active = true →
      (∀ h ∈ between, InChunk g.chunkIndex h) ∧ f.ended = false ∧ g.started = false
  /-- One that does not start the chunk is not the first. -/
  started : g.active = true → g.started = false → ∃ f ∈ frames, InChunk g.chunkIndex f

/-- An index names one run of frames: every frame fits those before it. -/
def NamesRuns : List MicroVadFrameState → Prop
  | [] => True
  | g :: frames => Fits frames g ∧ NamesRuns frames

/-- The number of chunks. -/
def chunks (frames : List MicroVadFrameState) : ℕ := frames.countP (·.started)

/-- An OTA phase does not meet a chunk. -/
def KeepsIndex (t : Task) : Pass → Prop
  | .otaActive => t.chunkActive = false
  | _ => True

instance (t : Task) : ∀ pass, Decidable (KeepsIndex t pass)
  | .otaActive => inferInstanceAs (Decidable (t.chunkActive = false))
  | .noFrame | .pausedForPlayback | .frame .. => .isTrue trivial

/-! ### Passes -/

variable {t : Task} {g : MicroVadFrameState}

/-- What the variables know of the frames. -/
structure Tracks (t : Task) : Prop where
  named : NamesRuns t.submitted
  /-- All chunks have been counted, except for the one that is active. -/
  counted : chunks t.submitted = t.chunkIndex + t.chunkActive.toNat
  below : ∀ f ∈ t.submitted, f.active = true → f.chunkIndex < t.chunkIndex + t.chunkActive.toNat
  /-- The last frame is one of the active chunk. -/
  going : t.chunkActive = true →
    ∃ f before, t.submitted = f :: before ∧ InChunk t.chunkIndex f ∧ f.ended = false

/-- Below 2^32 chunks the index does not come round. -/
theorem Tracks.next_eq (ht : Tracks t) (hfew : chunks t.submitted < 2 ^ 32) (hactive : t.chunkActive = true) :
    next t.chunkIndex = t.chunkIndex + 1 := by
  have hcounted := ht.counted
  rw [hactive, Bool.toNat_true] at hcounted
  exact Nat.mod_eq_of_lt (hcounted ▸ hfew)

/-- The frames of the active chunk are those since its start. -/
theorem Tracks.consecutive (ht : Tracks t) (hactive : t.chunkActive = true)
    {between before : List MicroVadFrameState} {f : MicroVadFrameState}
    (hframes : t.submitted = between ++ f :: before) (hf : InChunk t.chunkIndex f) :
    (∀ h ∈ between, InChunk t.chunkIndex h) ∧ f.ended = false := by
  obtain ⟨last, rest, hlast, hin, hended⟩ := ht.going hactive
  have hnamed := ht.named
  rw [hlast] at hframes hnamed
  cases between with
  | nil =>
    cases hframes
    exact ⟨by simp, hended⟩
  | cons e between =>
    cases hframes
    obtain ⟨hall, hfended, -⟩ := hnamed.1.consecutive between f before rfl (hin.2 ▸ hf) hin.1
    rw [hin.2] at hall
    exact ⟨List.forall_mem_cons.mpr ⟨hin, hall⟩, hfended⟩

/-- A frame of the active chunk fits. -/
theorem Tracks.fits_going (ht : Tracks t) (hactive : t.chunkActive = true) (hg : InChunk t.chunkIndex g)
    (hstarted : g.started = false) : Fits t.submitted g := by
  obtain ⟨last, rest, hlast, hin, -⟩ := ht.going hactive
  refine ⟨fun between f before hframes hf _ => ?_, fun _ _ => ⟨last, by simp [hlast], hg.2 ▸ hin⟩⟩
  rw [hg.2] at hf ⊢
  obtain ⟨hall, hended⟩ := ht.consecutive hactive hframes hf
  exact ⟨hall, hended, hstarted⟩

/-- A frame that starts a chunk, or that is of none, fits where no chunk is active. -/
theorem Tracks.fits_left (ht : Tracks t) (hactive : t.chunkActive = false)
    (hg : g.chunkIndex = t.chunkIndex) (hstarted : g.active = true → g.started = true) :
    Fits t.submitted g := by
  have hbelow : ∀ f ∈ t.submitted, f.active = true → f.chunkIndex < g.chunkIndex := by
    simpa [hactive, hg] using ht.below
  refine ⟨fun between f before hframes hf _ => ?_, fun hgactive hno => ?_⟩
  · exact absurd hf.2 (hbelow f (by simp [hframes]) hf.1).ne
  · simp [hstarted hgactive] at hno

/-- The task after a frame that fits. -/
theorem Tracks.submit (ht : Tracks t) (hfits : Fits t.submitted g) {chunkIndex silentFrames : ℕ}
    {chunkActive : Bool}
    (hcounted : t.chunkIndex + t.chunkActive.toNat + g.started.toNat = chunkIndex + chunkActive.toNat)
    (hbelow : g.active = true → g.chunkIndex < chunkIndex + chunkActive.toNat)
    (hgoing : chunkActive = true → InChunk chunkIndex g ∧ g.ended = false) :
    Tracks ⟨chunkIndex, chunkActive, silentFrames, g :: t.submitted⟩ where
  named := ⟨hfits, ht.named⟩
  counted := by
    rw [← hcounted, ← ht.counted]
    cases hstarted : g.started <;> simp [chunks, hstarted]
  below := by
    refine List.forall_mem_cons.mpr ⟨hbelow, fun f hf hactive => ?_⟩
    have hlt := ht.below f hf hactive
    show f.chunkIndex < chunkIndex + chunkActive.toNat
    omega
  going hactive := ⟨g, t.submitted, rfl, hgoing hactive⟩

/-- The task after a pass that forgets a chunk and counts it. -/
theorem Tracks.forget (ht : Tracks t) {chunkIndex : ℕ}
    (hindex : chunkIndex = t.chunkIndex + t.chunkActive.toNat) :
    Tracks ⟨chunkIndex, false, 0, t.submitted⟩ := by
  subst hindex
  exact ⟨ht.named, ht.counted, ht.below, by simp⟩

/-- A frame with voice starts a chunk, or goes on with it. -/
theorem tracks_voice (ht : Tracks t) (pauseMs : ℕ) : Tracks (t.submit true pauseMs) := by
  have hframe : microVadFrameState t true pauseMs = ({ t with chunkActive := true, silentFrames := 0 },
      { chunkIndex := t.chunkIndex, active := true, started := !t.chunkActive }) := rfl
  rw [Task.submit, hframe]
  refine ht.submit ?_ ?_ (fun _ => Nat.lt_succ_self _) fun _ => ⟨⟨rfl, rfl⟩, rfl⟩
  · cases hactive : t.chunkActive with
    | true => exact ht.fits_going hactive ⟨rfl, rfl⟩ rfl
    | false => exact ht.fits_left hactive rfl fun _ => rfl
  · cases t.chunkActive <;> rfl

/-- A frame without voice is of no chunk, ends one or goes on with it. -/
theorem tracks_quiet (ht : Tracks t) (hfew : chunks t.submitted < 2 ^ 32) (pauseMs : ℕ) :
    Tracks (t.submit false pauseMs) := by
  unfold Task.submit
  cases hactive : t.chunkActive with
  | false =>
    have hframe : microVadFrameState t false pauseMs = (t, { chunkIndex := t.chunkIndex }) := by
      simp [microVadFrameState, hactive]
    rw [hframe]
    exact ht.submit (ht.fits_left hactive rfl (by simp)) rfl (by simp) (by simp [hactive])
  | true =>
    simp only [microVadFrameState, hactive, Bool.false_eq_true, if_false, Bool.not_true]
    generalize (if t.silentFrames < microVadPauseFrames pauseMs then t.silentFrames + 1
      else t.silentFrames) = silentFrames
    by_cases hended : microVadPauseFrames pauseMs ≤ silentFrames
    · rw [if_pos hended, ht.next_eq hfew hactive]
      exact ht.submit (ht.fits_going hactive ⟨rfl, rfl⟩ rfl) (by simp [hactive])
        (fun _ => Nat.lt_succ_self _) (by simp)
    · rw [if_neg hended]
      exact ht.submit (ht.fits_going hactive ⟨rfl, rfl⟩ rfl) (by simp [hactive]) (by simp)
        fun _ => ⟨⟨rfl, rfl⟩, rfl⟩

/-- **The step lemma.** -/
theorem tracks_vadTask (ht : Tracks t) (hfew : chunks t.submitted < 2 ^ 32) {pass : Pass}
    (hkeeps : KeepsIndex t pass) : Tracks (vadTask t pass) := by
  cases pass with
  | otaActive => exact ht.forget (by simp [show t.chunkActive = false from hkeeps])
  | noFrame => exact ht
  | pausedForPlayback =>
    refine ht.forget ?_
    cases hactive : t.chunkActive with
    | false => rfl
    | true => exact ht.next_eq hfew hactive
  | frame level wasSpeaking energyThreshold pauseMs =>
    simp only [vadTask]
    cases frameHasVoice level wasSpeaking energyThreshold with
    | true => exact tracks_voice ht pauseMs
    | false => exact tracks_quiet ht hfew pauseMs

/-- A pass submits a frame, if anything. -/
theorem chunks_le_vadTask (t : Task) (pass : Pass) :
    chunks t.submitted ≤ chunks (vadTask t pass).submitted := by
  cases pass with
  | otaActive | pausedForPlayback | noFrame => exact le_rfl
  | frame level wasSpeaking energyThreshold pauseMs => exact (List.sublist_cons_self _ _).countP_le

/-! ### Whole runs -/

/-- **An index names one run of frames** in every run of the task whose passes all meet `KeepsIndex`,
with fewer than 2^32 chunks. -/
theorem chunks_named (passes : List Pass) (h : AllSteps vadTask KeepsIndex {} passes)
    (hfew : chunks (run vadTask {} passes).submitted < 2 ^ 32) :
    NamesRuns (run vadTask {} passes).submitted := by
  have hstart : chunks ({} : Task).submitted < 2 ^ 32 → Tracks {} :=
    fun _ => ⟨trivial, rfl, by simp, by simp⟩
  have hstep : ∀ t pass, (chunks t.submitted < 2 ^ 32 → Tracks t) → KeepsIndex t pass →
      chunks (vadTask t pass).submitted < 2 ^ 32 → Tracks (vadTask t pass) := by
    intro t pass ht hkeeps hlt
    have hbefore := (chunks_le_vadTask t pass).trans_lt hlt
    exact tracks_vadTask (ht hbefore) hbefore hkeeps
  have hrun := run_invariant hstep hstart h
  exact (hrun hfew).named

/-- An utterance of two pieces, around a playback pause and an OTA phase. -/
def pieces : List Pass :=
  [.frame 40 false 300 60, .frame 1000 false 300 60, .pausedForPlayback, .otaActive,
    .frame 1000 false 300 60, .frame 40 true 300 20]

theorem chunks_named_pieces :
    NamesRuns (run vadTask {} pieces).submitted ∧ chunks (run vadTask {} pieces).submitted = 2 :=
  ⟨chunks_named pieces (by decide +kernel) (by decide +kernel), by decide +kernel⟩

end HexeVoice.Firmware.MicroVad
