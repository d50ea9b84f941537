import Mathlib

/-!
# Trimming the silence of a turn

`trim_stt_silence` of `voice/pipeline.py`: what is cut off the audio of a turn before it is transcribed.

## The model

The audio is bytes. How many frames a duration is worth, `int(round((ms / 1000) * sample_rate))`, is
arithmetic of floats and a parameter (`framesOf`). The durations in the metadata are left out.

## What is proved

**`keeps_speech_iff`**: what is returned is whole frames with all speech, its padding and the minimum
length, and is not trimmed again, exactly if speech near the start leaves room for half of the missing
frames before it, and audio that is returned as it came has no bytes after its last frame.
-/

namespace HexeVoice.Voice.SilenceTrim

/-! ### Audio -/

/-- `VoiceTurnAudioSummary`, as far as it is looked at. -/
structure VoiceTurnAudioSummary where
  audioBytes : Option (List UInt8)
  sampleRateHz : Option ℕ
  channels : ℤ
  encoding : Option String

structure SttSilenceTrimConfig where
  enabled : Bool
  threshold : ℕ
  leadingPaddingMs : ℕ
  trailingPaddingMs : ℕ
  minAudioMs : ℕ

/-- The metadata, without durations. -/
structure Metadata where
  enabled : Bool
  applied : Bool
  reason : String
  threshold : Option ℕ
  startFrame : Option ℕ
  endFrame : Option ℕ

namespace VoiceTurnAudioSummary

variable (audio : VoiceTurnAudioSummary)

/-- `audio.audio_bytes or b""`. -/
def raw : List UInt8 := audio.audioBytes.getD []

/-- `int(audio.sample_rate_hz or 16000)`. -/
def sampleRate : ℕ := if audio.sampleRateHz.getD 0 = 0 then 16000 else audio.sampleRateHz.getD 0

/-- `max(1, int(audio.channels or 1))`. -/
def channelCount : ℕ := (max 1 (if audio.channels = 0 then 1 else audio.channels)).toNat

def frameCount : ℕ := audio.raw.length / 2 / audio.channelCount

end VoiceTurnAudioSummary

/-- The sample at a place, of 16 bits, the lower byte first. -/
def sample (raw : List UInt8) (k : ℕ) : ℤ :=
  let value : ℤ := (raw.getD (2 * k) 0).toNat + 256 * (raw.getD (2 * k + 1) 0).toNat
  if value < 32768 then value else value - 65536

/-- The largest sample of a frame, without its sign. -/
def frameLevel (raw : List UInt8) (channels i : ℕ) : ℕ :=
  ((List.range channels).map fun c => (sample raw (i * channels + c)).natAbs).foldl max 0

/-- The frames at or above the threshold. -/
def speechFrames (audio : VoiceTurnAudioSummary) (threshold : ℕ) : List ℕ :=
  (List.range audio.frameCount).filter fun i =>
    threshold ≤ frameLevel audio.raw audio.channelCount i

/-! ### The frames that are kept -/

/-- The frames from `start` on, before `stop`. -/
structure Window where
  start : ℕ
  stop : ℕ
  deriving DecidableEq

/-- The speech with its padding, as far as the recording goes. -/
def padded (frameCount first last leading trailing : ℕ) : Window :=
  ⟨first - leading, min frameCount (last + trailing + 1)⟩

/-- What is shorter than the minimum grows at both ends. -/
def grown (frameCount minFrames : ℕ) (w : Window) : Window :=
  if 0 < minFrames ∧ w.stop - w.start < minFrames then
    let missing := minFrames - (w.stop - w.start)
    let start := w.start - missing / 2
    let stop := min frameCount (w.stop + (missing - missing / 2))
    if stop - start < minFrames then ⟨stop - minFrames, stop⟩ else ⟨start, stop⟩
  else w

/-- `frames[start_frame:end_frame].tobytes()`. -/
def frames (audio : VoiceTurnAudioSummary) (w : Window) : List UInt8 :=
  (audio.raw.drop (w.start * (2 * audio.channelCount))).take
    ((w.stop - w.start) * (2 * audio.channelCount))

variable (framesOf : ℕ → ℕ → ℕ)

/-- The frames of speech from `first` to `last` that are kept. -/
def keptWindow (audio : VoiceTurnAudioSummary) (config : SttSilenceTrimConfig) (first last : ℕ) :
    Window :=
  grown audio.frameCount (framesOf config.minAudioMs audio.sampleRate)
    (padded audio.frameCount first last (framesOf config.leadingPaddingMs audio.sampleRate)
      (framesOf config.trailingPaddingMs audio.sampleRate))

/-- Nothing is cut off. -/
def untrimmed (config : SttSilenceTrimConfig) (reason : String) : Metadata :=
  ⟨config.enabled, false, reason, none, none, none⟩

def trimSttSilence (audio : VoiceTurnAudioSummary) (config : SttSilenceTrimConfig) :
    VoiceTurnAudioSummary × Metadata :=
  if !config.enabled then (audio, untrimmed config "disabled")
  else if audio.encoding ≠ some "pcm_s16le" ∨ audio.raw = [] then
    (audio, untrimmed config "unsupported_audio")
  else if audio.raw.length < 2 * audio.channelCount then (audio, untrimmed config "too_short")
  else if audio.frameCount = 0 then (audio, untrimmed config "empty_frames")
  else
    match speechFrames audio config.threshold with
    | [] => (audio, untrimmed config "no_speech_above_threshold")
    | first :: more =>
      let w := keptWindow framesOf audio config first (more.getLastD first)
      if w.start = 0 ∧ w.stop = audio.frameCount then (audio, untrimmed config "already_trimmed")
      else
        ({ audio with audioBytes := some (frames audio w) },
          ⟨config.enabled, true, "trimmed", some config.threshold, some w.start, some w.stop⟩)

/-! ### What is asked of it -/

/-- What comes out is the frames of the window, which has all speech with its padding and the minimum
length. -/
structure Keeps (audio : VoiceTurnAudioSummary) (config : SttSilenceTrimConfig) (w : Window)
    (out : VoiceTurnAudioSummary) : Prop where
  inside : w.start ≤ w.stop ∧ w.stop ≤ audio.frameCount
  bytes : out.raw = frames audio w
  speech : ∀ i ∈ speechFrames audio config.threshold, ∀ j < audio.frameCount,
    i ≤ j + framesOf config.leadingPaddingMs audio.sampleRate →
    j ≤ i + framesOf config.trailingPaddingMs audio.sampleRate → w.start ≤ j ∧ j < w.stop
  long : min audio.frameCount (framesOf config.minAudioMs audio.sampleRate) ≤ w.stop - w.start

/-- Whole frames with all that is asked for, which are not trimmed again. -/
def Proper (audio : VoiceTurnAudioSummary) (config : SttSilenceTrimConfig) : Prop :=
  let out := (trimSttSilence framesOf audio config).1
  (∃ w, Keeps framesOf audio config w out) ∧ (trimSttSilence framesOf out config).1 = out

/-- The bytes are whole frames. -/
def WholeFrames (audio : VoiceTurnAudioSummary) : Prop :=
  2 * audio.channelCount ∣ audio.raw.length

/-- Half of the missing frames do not fit before the speech, and the recording does not end with the
other half after it. -/
def Cramped (frameCount minFrames : ℕ) (w : Window) : Prop :=
  let missing := minFrames - (w.stop - w.start)
  w.start < missing / 2 ∧ w.stop + (missing - missing / 2) < frameCount

instance (frameCount minFrames : ℕ) (w : Window) : Decidable (Cramped frameCount minFrames w) :=
  inferInstanceAs (Decidable (w.start < (minFrames - (w.stop - w.start)) / 2 ∧
    w.stop + (minFrames - (w.stop - w.start) - (minFrames - (w.stop - w.start)) / 2) < frameCount))

/-- There is room for the missing frames, and nothing after the last frame of what is not cut. -/
def Roomy (audio : VoiceTurnAudioSummary) (config : SttSilenceTrimConfig) : Prop :=
  match speechFrames audio config.threshold with
  | [] => WholeFrames audio
  | first :: more =>
    let minFrames := framesOf config.minAudioMs audio.sampleRate
    let w := padded audio.frameCount first (more.getLastD first)
      (framesOf config.leadingPaddingMs audio.sampleRate)
      (framesOf config.trailingPaddingMs audio.sampleRate)
    ¬ Cramped audio.frameCount minFrames w ∧
      (audio.frameCount ≤ minFrames ∨ w = ⟨0, audio.frameCount⟩ → WholeFrames audio)

/-- Nothing after the last frame where trimming is off, and room where it is on. -/
def TrimsProperly (audio : VoiceTurnAudioSummary) (config : SttSilenceTrimConfig) : Prop :=
  if config.enabled then Roomy framesOf audio config else WholeFrames audio

/-! ### Windows -/

section Windows

variable {n k : ℕ} {w : Window}

/-- Growing keeps what was there, inside the recording. -/
theorem grown_spec (hw : w.start ≤ w.stop) (hstop : w.stop ≤ n) :
    (grown n k w).start ≤ w.start ∧ w.stop ≤ (grown n k w).stop ∧ (grown n k w).stop ≤ n := by
  simp only [grown]
  split
  · split
    · dsimp only
      omega
    · dsimp only
      omega
  · omega

/-- The minimum is reached exactly if there is room. -/
theorem min_le_grown_iff (hw : w.start ≤ w.stop) (hstop : w.stop ≤ n) :
    min n k ≤ (grown n k w).stop - (grown n k w).start ↔ ¬ Cramped n k w := by
  simp only [grown, Cramped]
  split
  · split
    · dsimp only
      omega
    · dsimp only
      omega
  · omega

/-- With room, all is kept exactly if the minimum asks for all, or all was kept before. -/
theorem grown_eq_whole_iff (hw : w.start ≤ w.stop) (hstop : w.stop ≤ n) (h : ¬ Cramped n k w) :
    ((grown n k w).start = 0 ∧ (grown n k w).stop = n) ↔ n ≤ k ∨ w = ⟨0, n⟩ := by
  have hwhole : w = ⟨0, n⟩ ↔ w.start = 0 ∧ w.stop = n := by
    cases w
    simp
  rw [hwhole]
  simp only [grown, Cramped] at h ⊢
  split
  · split
    · dsimp only
      omega
    · dsimp only
      omega
  · omega

/-- Where there is no room, something is cut off. -/
theorem grown_ne_whole (h : Cramped n k w) :
    ¬ ((grown n k w).start = 0 ∧ (grown n k w).stop = n) := by
  simp only [grown, Cramped] at h ⊢
  split
  · split
    · dsimp only
      omega
    · dsimp only
      omega
  · omega

/-- What was grown is not grown again. -/
theorem grown_grown (hw : w.start ≤ w.stop) (hstop : w.stop ≤ n) :
    grown ((grown n k w).stop - (grown n k w).start) k
        ⟨w.start - (grown n k w).start, w.stop - (grown n k w).start⟩ =
      ⟨0, (grown n k w).stop - (grown n k w).start⟩ := by
  by_cases hgrow : 0 < k ∧ w.stop - w.start < k
  · obtain ⟨start, stop, hgrown⟩ : ∃ start stop, grown n k w = ⟨start, stop⟩ := ⟨_, _, rfl⟩
    rw [hgrown]
    simp only [grown, if_pos hgrow] at hgrown
    have hagain : w.stop - start - (w.start - start) = w.stop - w.start := by
      split at hgrown <;> simp only [Window.mk.injEq] at hgrown <;> omega
    simp only [grown, hagain, if_pos hgrow]
    split at hgrown <;> simp only [Window.mk.injEq] at hgrown <;>
      split <;> simp only [Window.mk.injEq] <;> omega
  · have hsame : grown n k w = w := if_neg hgrow
    have hagain : ¬ (0 < k ∧ w.stop - w.start - (w.start - w.start) < k) := by omega
    rw [hsame, grown, if_neg hagain]
    simp

/-- The padding of what is left after cutting is what it was. -/
theorem padded_sub {first last leading trailing start stop : ℕ}
    (hstop : min n (last + trailing + 1) ≤ stop) (hn : stop ≤ n) (hfirst : start ≤ first)
    (hlast : first ≤ last) :
    padded (stop - start) (first - start) (last - start) leading trailing =
      ⟨(padded n first last leading trailing).start - start,
        (padded n first last leading trailing).stop - start⟩ := by
  simp only [padded, Window.mk.injEq]
  omega

end Windows

/-! ### Speech -/

theorem one_le_channelCount (audio : VoiceTurnAudioSummary) : 1 ≤ audio.channelCount := by
  simp only [VoiceTurnAudioSummary.channelCount]
  omega

theorem frameCount_eq (audio : VoiceTurnAudioSummary) :
    audio.frameCount = audio.raw.length / (2 * audio.channelCount) := by
  rw [VoiceTurnAudioSummary.frameCount, Nat.div_div_eq_div_mul]

/-- The frames are in the bytes. -/
theorem frameCount_mul_le (audio : VoiceTurnAudioSummary) :
    audio.frameCount * (2 * audio.channelCount) ≤ audio.raw.length := by
  rw [frameCount_eq]
  exact Nat.div_mul_le_self _ _

theorem pairwise_speechFrames (audio : VoiceTurnAudioSummary) (threshold : ℕ) :
    (speechFrames audio threshold).Pairwise (· < ·) :=
  List.pairwise_lt_range.filter _

theorem mem_speechFrames {audio : VoiceTurnAudioSummary} {threshold i : ℕ}
    (h : i ∈ speechFrames audio threshold) : i < audio.frameCount :=
  List.mem_range.mp (List.mem_filter.mp h).1

/-- Of increasing numbers the last is the largest. -/
theorem le_getLastD {first : ℕ} {more : List ℕ} (h : (first :: more).Pairwise (· < ·)) :
    ∀ i ∈ first :: more, i ≤ more.getLastD first := by
  induction more generalizing first with
  | nil => simp
  | cons next more ih =>
    have hrest := (List.pairwise_cons.mp h).2
    have hlt : first < next := (List.pairwise_cons.mp h).1 next (by simp)
    have hnext : next ≤ more.getLastD next := ih hrest next (by simp)
    intro i hi
    rw [List.getLastD_cons]
    obtain rfl | hmem := List.mem_cons.mp hi
    · omega
    · exact ih hrest i hmem

/-! ### What is left of the audio -/

section Cut

variable (audio : VoiceTurnAudioSummary) (w : Window)

/-- The audio of the frames of a window. -/
def cut : VoiceTurnAudioSummary := { audio with audioBytes := some (frames audio w) }

variable {audio w}

theorem length_frames (hstop : w.stop ≤ audio.frameCount) :
    (frames audio w).length = (w.stop - w.start) * (2 * audio.channelCount) := by
  have hle := frameCount_mul_le audio
  have hwstop : w.stop * (2 * audio.channelCount) ≤ audio.frameCount * (2 * audio.channelCount) :=
    Nat.mul_le_mul_right _ hstop
  rw [frames, List.length_take, List.length_drop, Nat.sub_mul]
  omega

theorem frameCount_cut (hstop : w.stop ≤ audio.frameCount) :
    (cut audio w).frameCount = w.stop - w.start := by
  have hpos := one_le_channelCount audio
  rw [frameCount_eq]
  have hraw : (cut audio w).raw = frames audio w := rfl
  have hchannels : (cut audio w).channelCount = audio.channelCount := rfl
  rw [hraw, hchannels, length_frames hstop]
  exact Nat.mul_div_cancel _ (by omega)

/-- A sample of the window is one of the recording. -/
theorem sample_frames {k : ℕ} (hk : k < (w.stop - w.start) * audio.channelCount) :
    sample (frames audio w) k = sample audio.raw (w.start * audio.channelCount + k) := by
  have hbyte (i : ℕ) (hi : i < (w.stop - w.start) * (2 * audio.channelCount)) :
      (frames audio w).getD i 0 = audio.raw.getD (w.start * (2 * audio.channelCount) + i) 0 := by
    rw [frames, List.getD_eq_getElem?_getD, List.getD_eq_getElem?_getD, List.getElem?_take_of_lt hi,
      List.getElem?_drop]
  have hdouble : (w.stop - w.start) * (2 * audio.channelCount) =
      2 * ((w.stop - w.start) * audio.channelCount) := by ring
  have hstart : w.start * (2 * audio.channelCount) = 2 * (w.start * audio.channelCount) := by ring
  have hlow := hbyte (2 * k) (by omega)
  have hhigh := hbyte (2 * k + 1) (by omega)
  rw [hstart, ← Nat.mul_add] at hlow
  rw [hstart, ← Nat.add_assoc, ← Nat.mul_add] at hhigh
  unfold sample
  rw [hlow, hhigh]

theorem frameLevel_frames {i : ℕ} (hi : i < w.stop - w.start) :
    frameLevel (frames audio w) audio.channelCount i =
      frameLevel audio.raw audio.channelCount (w.start + i) := by
  refine congrArg (List.foldl max 0) (List.map_congr_left fun c hc => ?_)
  have hlt : c < audio.channelCount := List.mem_range.mp hc
  have hplace : i * audio.channelCount + c < (w.stop - w.start) * audio.channelCount := by
    calc i * audio.channelCount + c < (i + 1) * audio.channelCount := by
          rw [Nat.add_mul]
          omega
      _ ≤ (w.stop - w.start) * audio.channelCount := Nat.mul_le_mul_right _ hi
  have hsum : w.start * audio.channelCount + (i * audio.channelCount + c) =
      (w.start + i) * audio.channelCount + c := by ring
  rw [sample_frames hplace, hsum]

/-- Where the window has all speech, its speech is the same, counted from the window's start. -/
theorem speechFrames_cut {threshold : ℕ} (hw : w.start ≤ w.stop) (hstop : w.stop ≤ audio.frameCount)
    (h : ∀ i ∈ speechFrames audio threshold, w.start ≤ i ∧ i < w.stop) :
    speechFrames audio threshold =
      (speechFrames (cut audio w) threshold).map fun i => w.start + i := by
  obtain ⟨length, hlength⟩ : ∃ length, w.stop = w.start + length := ⟨w.stop - w.start, by omega⟩
  obtain ⟨rest, hrest⟩ : ∃ rest, audio.frameCount = w.start + length + rest :=
    ⟨audio.frameCount - w.stop, by omega⟩
  have hcount : (cut audio w).frameCount = length := by
    rw [frameCount_cut hstop]
    omega
  have hquiet (i : ℕ) (hi : i < audio.frameCount) (hout : i < w.start ∨ w.stop ≤ i) :
      ¬ threshold ≤ frameLevel audio.raw audio.channelCount i := by
    intro hloud
    have := h i (List.mem_filter.mpr ⟨List.mem_range.mpr hi, by simpa using hloud⟩)
    omega
  have hbefore : (List.range w.start).filter (fun i =>
      threshold ≤ frameLevel audio.raw audio.channelCount i) = [] := by
    apply List.filter_eq_nil_iff.mpr
    intro i hi
    have := List.mem_range.mp hi
    simpa using hquiet i (by omega) (by omega)
  have hafter : ((List.range rest).map fun i => w.start + length + i).filter (fun i =>
      threshold ≤ frameLevel audio.raw audio.channelCount i) = [] := by
    apply List.filter_eq_nil_iff.mpr
    intro i hi
    obtain ⟨j, hj, rfl⟩ := List.mem_map.mp hi
    have := List.mem_range.mp hj
    simpa using hquiet (w.start + length + j) (by omega) (by omega)
  rw [speechFrames, speechFrames, hrest, List.range_add, List.range_add, List.filter_append,
    List.filter_append, hbefore, hafter, List.nil_append, List.append_nil, List.filter_map, hcount]
  refine congrArg (List.map fun i => w.start + i) (List.filter_congr fun i hi => ?_)
  have hlt : i < w.stop - w.start := by
    have := List.mem_range.mp hi
    omega
  have hraw : (cut audio w).raw = frames audio w := rfl
  have hchannels : (cut audio w).channelCount = audio.channelCount := rfl
  rw [hraw, hchannels, frameLevel_frames hlt]
  rfl

end Cut

/-! ### The result -/

variable {framesOf} {audio : VoiceTurnAudioSummary} {config : SttSilenceTrimConfig}

theorem trim_of_disabled (h : config.enabled = false) :
    (trimSttSilence framesOf audio config).1 = audio := by
  simp [trimSttSilence, h]

theorem trim_of_quiet (h : speechFrames audio config.threshold = []) :
    (trimSttSilence framesOf audio config).1 = audio := by
  simp only [trimSttSilence, h]
  repeat' split
  all_goals rfl

/-- Audio with speech is cut to the window, unless that is all of it. -/
theorem trim_of_speech (henabled : config.enabled = true) (hpcm : audio.encoding = some "pcm_s16le")
    {first : ℕ} {more : List ℕ} (h : speechFrames audio config.threshold = first :: more)
    {w : Window} (hw : keptWindow framesOf audio config first (more.getLastD first) = w) :
    (trimSttSilence framesOf audio config).1 =
      if w.start = 0 ∧ w.stop = audio.frameCount then audio else cut audio w := by
  have hfirst : first < audio.frameCount := mem_speechFrames (h ▸ List.mem_cons_self)
  have hchannels := one_le_channelCount audio
  have hlength : 1 * (2 * audio.channelCount) ≤ audio.raw.length :=
    (Nat.mul_le_mul_right _ (by omega)).trans (frameCount_mul_le audio)
  have hraw : audio.raw ≠ [] := by
    intro hnil
    simp only [hnil, List.length_nil] at hlength
    omega
  have hlong : ¬ audio.raw.length < 2 * audio.channelCount := by omega
  have hcount : audio.frameCount ≠ 0 := by omega
  have hsupported : ¬ (audio.encoding ≠ some "pcm_s16le" ∨ audio.raw = []) := by simp [hpcm, hraw]
  have hon : ¬ (!config.enabled) = true := by simp [henabled]
  simp only [trimSttSilence, if_neg hon, if_neg hsupported, if_neg hlong, if_neg hcount, h, hw]
  split <;> rfl

/-- Audio that comes back as it was is proper exactly if it is whole frames. -/
theorem proper_iff_of_unchanged (h : (trimSttSilence framesOf audio config).1 = audio) :
    Proper framesOf audio config ↔ WholeFrames audio := by
  simp only [Proper, h]
  constructor
  · rintro ⟨⟨w, hkeeps⟩, -⟩
    rw [WholeFrames, hkeeps.bytes, length_frames hkeeps.inside.2]
    exact Dvd.intro_left _ rfl
  · intro hwhole
    have hall : audio.frameCount * (2 * audio.channelCount) = audio.raw.length := by
      rw [frameCount_eq]
      exact Nat.div_mul_cancel hwhole
    refine ⟨⟨⟨0, audio.frameCount⟩, ?_⟩, trivial⟩
    exact {
      inside := ⟨Nat.zero_le _, le_rfl⟩
      bytes := by simp [frames, hall]
      speech := fun _ _ j hj _ _ => ⟨Nat.zero_le j, hj⟩
      long := Nat.min_le_left _ _ }

section Speech

variable {first : ℕ} {more : List ℕ} {w : Window}

/-- The speech and its padding, before growing. -/
theorem padded_speech (h : speechFrames audio config.threshold = first :: more) (leading trailing : ℕ) :
    (padded audio.frameCount first (more.getLastD first) leading trailing).start ≤
        (padded audio.frameCount first (more.getLastD first) leading trailing).stop ∧
      (padded audio.frameCount first (more.getLastD first) leading trailing).stop ≤
        audio.frameCount := by
  have hfirst : first < audio.frameCount := mem_speechFrames (h ▸ List.mem_cons_self)
  have hlast : first ≤ more.getLastD first :=
    le_getLastD (h ▸ pairwise_speechFrames audio config.threshold) first (by simp)
  simp only [padded]
  omega

/-- The window has all speech with its padding. -/
theorem keptWindow_spec (h : speechFrames audio config.threshold = first :: more)
    (hw : keptWindow framesOf audio config first (more.getLastD first) = w) :
    (w.start ≤ w.stop ∧ w.stop ≤ audio.frameCount) ∧
      ∀ i ∈ speechFrames audio config.threshold, ∀ j < audio.frameCount,
        i ≤ j + framesOf config.leadingPaddingMs audio.sampleRate →
        j ≤ i + framesOf config.trailingPaddingMs audio.sampleRate → w.start ≤ j ∧ j < w.stop := by
  obtain ⟨hpadded, hinside⟩ := padded_speech h (framesOf config.leadingPaddingMs audio.sampleRate)
    (framesOf config.trailingPaddingMs audio.sampleRate)
  obtain ⟨hstart, hstop, hn⟩ :=
    grown_spec (k := framesOf config.minAudioMs audio.sampleRate) hpadded hinside
  rw [← keptWindow, hw] at hstart hstop hn
  refine ⟨⟨by omega, hn⟩, fun i hi j hj hleading htrailing => ?_⟩
  have hsorted := h ▸ pairwise_speechFrames audio config.threshold
  have hlast : i ≤ more.getLastD first := le_getLastD hsorted i (h ▸ hi)
  have hfirst : first ≤ i := by
    obtain rfl | hmem := List.mem_cons.mp (h ▸ hi)
    · exact le_rfl
    · exact (List.pairwise_cons.mp hsorted).1 i hmem |>.le
  simp only [padded] at hstart hstop
  omega

/-- What was cut is not cut again. -/
theorem trim_cut (henabled : config.enabled = true) (hpcm : audio.encoding = some "pcm_s16le")
    (h : speechFrames audio config.threshold = first :: more)
    (hw : keptWindow framesOf audio config first (more.getLastD first) = w) :
    (trimSttSilence framesOf (cut audio w) config).1 = cut audio w := by
  obtain ⟨⟨hle, hn⟩, hspeech⟩ := keptWindow_spec h hw
  have hshift := speechFrames_cut hle hn fun i hi =>
    hspeech i hi i (mem_speechFrames hi) (Nat.le_add_right _ _) (Nat.le_add_right _ _)
  cases hcut : speechFrames (cut audio w) config.threshold with
  | nil => exact trim_of_quiet hcut
  | cons first' more' =>
    rw [hcut, h, List.map_cons, List.cons.injEq] at hshift
    obtain ⟨hfirst, hmore⟩ := hshift
    have hlast : more.getLastD first = w.start + more'.getLastD first' := by
      rw [hmore, hfirst, List.getLastD_map]
    have horder : first ≤ more.getLastD first :=
      le_getLastD (h ▸ pairwise_speechFrames audio config.threshold) first (by simp)
    obtain ⟨hpadded, hinside⟩ := padded_speech h (framesOf config.leadingPaddingMs audio.sampleRate)
      (framesOf config.trailingPaddingMs audio.sampleRate)
    have hagain : keptWindow framesOf (cut audio w) config first' (more'.getLastD first') =
        ⟨0, w.stop - w.start⟩ := by
      have hgrown := grown_grown (k := framesOf config.minAudioMs audio.sampleRate) hpadded hinside
      have hspec := grown_spec (k := framesOf config.minAudioMs audio.sampleRate) hpadded hinside
      rw [← keptWindow, hw] at hgrown hspec
      have hfirst' : first - w.start = first' := by omega
      have hlast' : more.getLastD first - w.start = more'.getLastD first' := by omega
      have hsub := @padded_sub _ first (more.getLastD first)
        (framesOf config.leadingPaddingMs audio.sampleRate) _ w.start _ hspec.2.1 hn (by omega) horder
      have hrate : (cut audio w).sampleRate = audio.sampleRate := rfl
      rw [keptWindow, frameCount_cut hn, hrate, ← hgrown, ← hsub, hfirst', hlast']
    have hsame : (cut audio w).encoding = some "pcm_s16le" := hpcm
    rw [trim_of_speech henabled hsame hcut hagain, frameCount_cut hn]
    simp

/-- Audio with speech is proper exactly if there is room, and nothing after the last frame where all
is kept. -/
theorem proper_iff_of_speech (henabled : config.enabled = true)
    (hpcm : audio.encoding = some "pcm_s16le")
    (h : speechFrames audio config.threshold = first :: more) :
    Proper framesOf audio config ↔ Roomy framesOf audio config := by
  obtain ⟨w, hw⟩ : ∃ w, keptWindow framesOf audio config first (more.getLastD first) = w := ⟨_, rfl⟩
  obtain ⟨⟨hle, hn⟩, hspeech⟩ := keptWindow_spec h hw
  obtain ⟨hpadded, hinside⟩ := padded_speech h (framesOf config.leadingPaddingMs audio.sampleRate)
    (framesOf config.trailingPaddingMs audio.sampleRate)
  have hlong := min_le_grown_iff (k := framesOf config.minAudioMs audio.sampleRate) hpadded hinside
  have hwhole := grown_eq_whole_iff (k := framesOf config.minAudioMs audio.sampleRate) hpadded hinside
  have hcut := grown_ne_whole (n := audio.frameCount) (k := framesOf config.minAudioMs audio.sampleRate)
    (w := padded audio.frameCount first (more.getLastD first)
      (framesOf config.leadingPaddingMs audio.sampleRate)
      (framesOf config.trailingPaddingMs audio.sampleRate))
  rw [← keptWindow, hw] at hlong hwhole hcut
  have htrim := trim_of_speech henabled hpcm h hw
  simp only [Roomy, h]
  by_cases hall : w.start = 0 ∧ w.stop = audio.frameCount
  · rw [if_pos hall] at htrim
    have hroom := not_imp_not.mpr hcut (not_not_intro hall)
    rw [proper_iff_of_unchanged htrim]
    exact ⟨fun hframes => ⟨hroom, fun _ => hframes⟩, fun hr => hr.2 ((hwhole hroom).mp hall)⟩
  · rw [if_neg hall] at htrim
    have hout : Proper framesOf audio config ↔
        (∃ w', Keeps framesOf audio config w' (cut audio w)) := by
      simp only [Proper, htrim, trim_cut henabled hpcm h hw, and_true]
    rw [hout]
    constructor
    · rintro ⟨w', hkeeps⟩
      have hpos : 0 < 2 * audio.channelCount := by
        have := one_le_channelCount audio
        omega
      have hbytes : frames audio w = frames audio w' := hkeeps.bytes
      have hlength := congrArg List.length hbytes
      rw [length_frames hn, length_frames hkeeps.inside.2] at hlength
      have hsame : w.stop - w.start = w'.stop - w'.start :=
        Nat.eq_of_mul_eq_mul_right hpos hlength
      have hroom := hlong.mp (hsame ▸ hkeeps.long)
      exact ⟨hroom, fun hr => absurd ((hwhole hroom).mpr hr) hall⟩
    · rintro ⟨hroom, -⟩
      exact ⟨w, ⟨hle, hn⟩, rfl, hspeech, hlong.mpr hroom⟩

end Speech

variable (framesOf)

/-- **What trimming keeps.** -/
theorem keeps_speech_iff (audioBytes : Option (List UInt8)) (sampleRateHz : Option ℕ) (channels : ℤ)
    (config : SttSilenceTrimConfig) :
    Proper framesOf ⟨audioBytes, sampleRateHz, channels, some "pcm_s16le"⟩ config ↔
      TrimsProperly framesOf ⟨audioBytes, sampleRateHz, channels, some "pcm_s16le"⟩ config := by
  obtain ⟨audio, haudio⟩ : ∃ audio : VoiceTurnAudioSummary,
      audio = ⟨audioBytes, sampleRateHz, channels, some "pcm_s16le"⟩ := ⟨_, rfl⟩
  have hpcm : audio.encoding = some "pcm_s16le" := by rw [haudio]
  rw [← haudio, TrimsProperly]
  split
  next henabled =>
    cases h : speechFrames audio config.threshold with
    | nil =>
      rw [proper_iff_of_unchanged (trim_of_quiet h)]
      simp [Roomy, h]
    | cons first more => exact proper_iff_of_speech henabled hpcm h
  next hdisabled =>
    exact proper_iff_of_unchanged (trim_of_disabled (Bool.eq_false_iff.mpr hdisabled))

/-! ### Speech at the start -/

/-- Ten frames of a millisecond, of which the first is loud. -/
def loudStart : VoiceTurnAudioSummary :=
  ⟨some (0 :: 64 :: List.replicate 18 0), some 1000, 1, some "pcm_s16le"⟩

/-- Four frames at least, and no padding. -/
def fourFrames : SttSilenceTrimConfig := ⟨true, 180, 0, 0, 4⟩

/-- The frames of whole durations. -/
def wholeFramesOf (ms sampleRate : ℕ) : ℕ := ms * sampleRate / 1000

/-- Three frames are kept where four are asked for. -/
theorem too_short_at_start : ¬ Proper wholeFramesOf loudStart fourFrames := by
  have hspeech : speechFrames loudStart fourFrames.threshold = [0] := by decide
  rw [proper_iff_of_speech rfl rfl hspeech]
  simp only [Roomy, hspeech]
  exact fun hroom => hroom.1 (by decide)

end HexeVoice.Voice.SilenceTrim
