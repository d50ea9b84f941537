import HexeVoice.Library.Python
import HexeVoice.Voice.Contracts
import Mathlib

/-!
# The files of recordings

What `voice/micro_vad_chunks.py` and `voice/wake_recordings.py` both do: the names of the files and
the audio that a WAV file holds.
-/

namespace HexeVoice.Recordings

open HexeVoice.Library HexeVoice.Voice

/-- The characters that `_safe_component` replaces. -/
def isUnsafe (c : Char) : Bool := !(c.isAlphanum || c = '_' || c = '.' || c = '-')

def safeComponent (value : String) : String :=
  let safe := (Regex.some isUnsafe).sub (fun _ => false) ['_'] (stripChars value.toList)
  if safe.take 80 = [] then "unknown" else String.ofList (safe.take 80)

/-- The digits of `f"{n:04d}"`. -/
def paddedDigits (n : ℕ) : List Char :=
  let digits := (Nat.digits 10 n).reverse.map Nat.digitChar
  List.replicate (4 - digits.length) '0' ++ digits

/-- The bytes of one frame of 16-bit samples. -/
def frameSize (format : VoiceAudioFormat) : ℕ := format.channels * 2

/-- How many frames `_write_wav` writes. -/
def frameCount (format : VoiceAudioFormat) (audio : Bytes) : ℕ := audio.length / frameSize format

/-- The audio that `_write_wav` writes: whole frames only. -/
def alignedAudio (format : VoiceAudioFormat) (audio : Bytes) : Bytes :=
  audio.take (frameCount format audio * frameSize format)

/-- Audio of whole frames is written as it is. -/
theorem alignedAudio_of_dvd {format : VoiceAudioFormat} {audio : Bytes}
    (h : frameSize format ∣ audio.length) : alignedAudio format audio = audio := by
  unfold alignedAudio frameCount
  rw [Nat.div_mul_cancel h, List.take_length]

/-! ### Names are told apart -/

/-- The number that digits denote. -/
private def readDigits (cs : List Char) : ℕ :=
  cs.foldl (fun n c => 10 * n + (c.toNat - 48)) 0

private theorem toNat_digitChar {d : ℕ} (h : d < 10) : (Nat.digitChar d).toNat - 48 = d := by
  interval_cases d <;> rfl

private theorem readDigits_digits (ds : List ℕ) (h : ∀ d ∈ ds, d < 10) :
    readDigits (ds.reverse.map Nat.digitChar) = Nat.ofDigits 10 ds := by
  induction ds with
  | nil => rfl
  | cons d ds ih =>
    rw [List.forall_mem_cons] at h
    have hlast : readDigits ((d :: ds).reverse.map Nat.digitChar) =
        10 * readDigits (ds.reverse.map Nat.digitChar) + ((Nat.digitChar d).toNat - 48) := by
      simp [readDigits, List.foldl_append]
    rw [hlast, ih h.2, toNat_digitChar h.1, Nat.ofDigits_cons]
    omega

private theorem readDigits_replicate (k : ℕ) (cs : List Char) :
    readDigits (List.replicate k '0' ++ cs) = readDigits cs := by
  induction k with
  | zero => rfl
  | succ k ih =>
    rw [List.replicate_succ, List.cons_append]
    exact ih

theorem readDigits_paddedDigits (n : ℕ) : readDigits (paddedDigits n) = n := by
  unfold paddedDigits
  rw [readDigits_replicate, readDigits_digits _ fun d hd => Nat.digits_lt_base (by decide) hd,
    Nat.ofDigits_digits]

theorem paddedDigits_injective : Function.Injective paddedDigits := fun m n h => by
  rw [← readDigits_paddedDigits m, ← readDigits_paddedDigits n, h]

theorem underscore_notMem_paddedDigits (n : ℕ) : '_' ∉ paddedDigits n := by
  intro h
  rcases List.mem_append.mp h with h | h
  · exact absurd (List.eq_of_mem_replicate h) (by decide)
  · obtain ⟨d, hd, heq⟩ := List.mem_map.mp h
    have hlt : d < 10 := Nat.digits_lt_base (by decide) (List.mem_reverse.mp hd)
    revert heq
    interval_cases d <;> decide

end HexeVoice.Recordings
