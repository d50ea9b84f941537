import HexeVoice.Library.Loop
import Mathlib

/-!
# The WAV parsers

`parse_wav` and `parse_wav_header_prefix` of `voice/tts_player.cpp`, which go through the chunks of a
whole file and of the beginning of one.

## The model

`size_t` has 32 bits, as on the target, so that the sums of offsets and chunk sizes wrap. A read outside
the array is a fault, and the loops may not end.

## What is proved

**`parsers_safe_iff`**: both parsers end, read inside the array and return audio inside it exactly if the
chunks that each of them passes over are proper: none leads back to itself, and what is read there lies in
the array.
-/

namespace HexeVoice.Firmware.Wav

open HexeVoice.Library

/-! ### Bytes -/

/-- `size_t` and `uint32_t`. -/
def size32 (x : ℕ) : ℕ := x % 2 ^ 32

def readLe16 : List UInt8 → ℕ
  | a :: b :: _ => a.toNat + 256 * b.toNat
  | _ => 0

def readLe32 : List UInt8 → ℕ
  | a :: b :: c :: d :: _ => a.toNat + 256 * b.toNat + 65536 * c.toNat + 16777216 * d.toNat
  | _ => 0

/-- `size` bytes from `offset` on, where the array has them. -/
def slice (audio : List UInt8) (offset size : ℕ) : Option (List UInt8) :=
  if offset + size ≤ audio.length then some ((audio.drop offset).take size) else none

def riff : List UInt8 := [82, 73, 70, 70]
def wave : List UInt8 := [87, 65, 86, 69]
def fmt : List UInt8 := [102, 109, 116, 32]
def dataId : List UInt8 := [100, 97, 116, 97]

def kMaxWavHeaderBytes : ℕ := 4096

/-- What a format chunk tells: `channels`, `sample_rate` and `bits_per_sample`. -/
structure WavFormat where
  channels : ℕ
  sampleRate : ℤ
  bitsPerSample : ℕ
  deriving DecidableEq

/-- The defaults of `WavView` and `WavStreamInfo`. -/
def WavFormat.default : WavFormat := ⟨1, 16000, 16⟩

/-- The fields of a format chunk, and its `audio_format`. -/
def readFormat (body : List UInt8) : ℕ × WavFormat :=
  (readLe16 body,
    { channels := readLe16 (body.drop 2)
      sampleRate := Int.bmod (readLe32 (body.drop 4)) (2 ^ 32)
      bitsPerSample := readLe16 (body.drop 14) })

/-! ### The loops -/

/-- The variables of both loops. -/
structure Scan where
  offset : ℕ
  sawFormat : Bool
  format : WavFormat

def Scan.start : Scan := ⟨12, false, .default⟩

/-- The next chunk: `chunk_data + chunk_size + (chunk_size % 2)`. -/
def nextOffset (offset chunkSize : ℕ) : ℕ :=
  size32 (size32 (size32 (offset + 8) + chunkSize) + chunkSize % 2)

/-- `WavView`, with the place of the samples in the array. -/
structure WavView where
  pcm : ℕ
  pcmSize : ℕ
  format : WavFormat
  deriving DecidableEq

/-- A format chunk of `parse_wav`. -/
def wavFormatChunk (audio : List UInt8) (s : Scan) (chunkSize : ℕ) :
    Turn Scan (Option WavView) :=
  match slice audio (size32 (s.offset + 8)) 16 with
  | none => .fault
  | some body =>
    let (audioFormat, format) := readFormat body
    .next
      { offset := nextOffset s.offset chunkSize
        sawFormat := audioFormat = 1 && 0 < format.channels && format.bitsPerSample = 16
        format }

/-- A turn of the loop of `parse_wav`; the result is `none` for false. -/
def wavTurn (audio : List UInt8) (s : Scan) : Turn Scan (Option WavView) :=
  if audio.length < size32 (s.offset + 8) then .done none
  else
    match slice audio s.offset 8 with
    | none => .fault
    | some chunk =>
      let chunkSize := readLe32 (chunk.drop 4)
      let chunkData := size32 (s.offset + 8)
      if audio.length < size32 (chunkData + chunkSize) then .done none
      else if chunk.take 4 = fmt ∧ 16 ≤ chunkSize then wavFormatChunk audio s chunkSize
      else if chunk.take 4 = dataId ∧ s.sawFormat = true then
        .done (if 0 < chunkSize then some ⟨chunkData, chunkSize, s.format⟩ else none)
      else .next { s with offset := nextOffset s.offset chunkSize }

/-- The checks of `parse_wav` before its loop. -/
def isWav (audio : List UInt8) : Bool :=
  44 ≤ audio.length && audio.take 4 = riff && (audio.drop 8).take 4 = wave

/-- `parse_wav`, with at most `fuel` turns. -/
def parseWav (audio : List UInt8) (fuel : ℕ) : Option (Option (Option WavView)) :=
  if isWav audio then loop (wavTurn audio) fuel .start else some (some none)

/-- `WavStreamInfo`, with `data_offset` and `data_size`. -/
structure WavStreamInfo where
  dataOffset : ℕ
  dataSize : ℕ
  format : WavFormat
  deriving DecidableEq

/-- `WavHeaderParseResult`, with what is known where it is ready. -/
inductive WavHeaderParseResult where
  | needMore
  | ready (info : WavStreamInfo)
  | unsupported
  deriving DecidableEq

/-- The end of a turn of the loop of `parse_wav_header_prefix`. -/
def goOn (audio : List UInt8) (s : Scan) (chunkSize : ℕ) : Turn Scan WavHeaderParseResult :=
  if nextOffset s.offset chunkSize < s.offset then .done .unsupported
  else if audio.length < nextOffset s.offset chunkSize then .done .needMore
  else .next { s with offset := nextOffset s.offset chunkSize }

/-- A format that `parse_wav_header_prefix` takes. -/
def Streamable (audioFormat : ℕ) (format : WavFormat) : Prop :=
  audioFormat = 1 ∧ 0 < format.channels ∧ format.channels ≤ 2 ∧ format.bitsPerSample = 16

instance (audioFormat : ℕ) (format : WavFormat) : Decidable (Streamable audioFormat format) :=
  inferInstanceAs (Decidable (_ ∧ _))

/-- A format chunk of `parse_wav_header_prefix`. -/
def headerFormatChunk (audio : List UInt8) (s : Scan) (chunkSize : ℕ) :
    Turn Scan WavHeaderParseResult :=
  if chunkSize < 16 then .done .unsupported
  else if audio.length < size32 (size32 (s.offset + 8) + chunkSize) then .done .needMore
  else
    match slice audio (size32 (s.offset + 8)) 16 with
    | none => .fault
    | some body =>
      let (audioFormat, format) := readFormat body
      if Streamable audioFormat format then
        goOn audio { s with sawFormat := true, format } chunkSize
      else .done .unsupported

/-- A turn of the loop of `parse_wav_header_prefix`. -/
def headerTurn (audio : List UInt8) (s : Scan) : Turn Scan WavHeaderParseResult :=
  if audio.length < size32 (s.offset + 8) then
    .done (if kMaxWavHeaderBytes ≤ audio.length then .unsupported else .needMore)
  else
    match slice audio s.offset 8 with
    | none => .fault
    | some chunk =>
      let chunkSize := readLe32 (chunk.drop 4)
      if chunk.take 4 = fmt then headerFormatChunk audio s chunkSize
      else if chunk.take 4 = dataId then
        if s.sawFormat then .done (.ready ⟨size32 (s.offset + 8), chunkSize, s.format⟩)
        else .done .unsupported
      else goOn audio s chunkSize

/-- `parse_wav_header_prefix`, with at most `fuel` turns. -/
def parseWavHeaderPrefix (audio : List UInt8) (fuel : ℕ) : Option (Option WavHeaderParseResult) :=
  if audio.length < 12 then some (some .needMore)
  else if audio.take 4 ≠ riff ∨ (audio.drop 8).take 4 ≠ wave then some (some .unsupported)
  else loop (headerTurn audio) fuel .start

/-! ### Safety -/

/-- The checks of `parse_wav_header_prefix` before its loop. -/
def isRiff (audio : List UInt8) : Bool :=
  12 ≤ audio.length && audio.take 4 = riff && (audio.drop 8).take 4 = wave

/-- Both parsers end, without a read outside the array, and the samples lie inside it. -/
structure ParsersSafe (audio : List UInt8) : Prop where
  parseWav : ∃ fuel result, parseWav audio fuel = some (some result) ∧
    ∀ view, result = some view → view.pcm + view.pcmSize ≤ audio.length
  parseWavHeaderPrefix : ∃ fuel result, parseWavHeaderPrefix audio fuel = some (some result)

/-- A place: where a loop is, and whether it has seen a format. -/
def Scan.place (s : Scan) : ℕ × Bool := (s.offset, s.sawFormat)

/-- What `parse_wav` reads at a place lies in the array: the header of a chunk, the first 16 bytes of a
format chunk, and the samples of the data chunk that it takes. -/
def WavInside (audio : List UInt8) (p : ℕ × Bool) : Prop :=
  size32 (p.1 + 8) ≤ audio.length → p.1 + 8 ≤ audio.length ∧
    ∀ chunk, slice audio p.1 8 = some chunk →
      size32 (p.1 + 8 + readLe32 (chunk.drop 4)) ≤ audio.length →
        (chunk.take 4 = fmt → 16 ≤ readLe32 (chunk.drop 4) → p.1 + 8 + 16 ≤ audio.length) ∧
        (chunk.take 4 = dataId → p.2 = true →
          p.1 + 8 + readLe32 (chunk.drop 4) ≤ audio.length)

/-- What `parse_wav_header_prefix` reads at a place lies in the array. -/
def HeaderInside (audio : List UInt8) (p : ℕ × Bool) : Prop :=
  size32 (p.1 + 8) ≤ audio.length → p.1 + 8 ≤ audio.length ∧
    ∀ chunk, slice audio p.1 8 = some chunk →
      size32 (p.1 + 8 + readLe32 (chunk.drop 4)) ≤ audio.length →
        chunk.take 4 = fmt → 16 ≤ readLe32 (chunk.drop 4) → p.1 + 8 + 16 ≤ audio.length

/-- A format chunk with 16-bit PCM. -/
def isPcm16 (body : List UInt8) : Bool :=
  (readFormat body).1 = 1 && 0 < (readFormat body).2.channels &&
    (readFormat body).2.bitsPerSample = 16

/-- The chunk after the one at a place, as `parse_wav` takes it. -/
def WavPasses (audio : List UInt8) (p q : ℕ × Bool) : Prop :=
  size32 (p.1 + 8) ≤ audio.length ∧ ∃ chunk, slice audio p.1 8 = some chunk ∧
    size32 (p.1 + 8 + readLe32 (chunk.drop 4)) ≤ audio.length ∧
    q.1 = nextOffset p.1 (readLe32 (chunk.drop 4)) ∧
    ((chunk.take 4 = fmt ∧ 16 ≤ readLe32 (chunk.drop 4) ∧
        ∃ body, slice audio (size32 (p.1 + 8)) 16 = some body ∧ q.2 = isPcm16 body) ∨
      ¬(chunk.take 4 = fmt ∧ 16 ≤ readLe32 (chunk.drop 4)) ∧
        ¬(chunk.take 4 = dataId ∧ p.2 = true) ∧ q.2 = p.2)

/-- The chunk after the one at a place, as `parse_wav_header_prefix` takes it. -/
def HeaderPasses (audio : List UInt8) (p q : ℕ × Bool) : Prop :=
  size32 (p.1 + 8) ≤ audio.length ∧ ∃ chunk, slice audio p.1 8 = some chunk ∧
    p.1 ≤ nextOffset p.1 (readLe32 (chunk.drop 4)) ∧
    nextOffset p.1 (readLe32 (chunk.drop 4)) ≤ audio.length ∧
    q.1 = nextOffset p.1 (readLe32 (chunk.drop 4)) ∧
    ((chunk.take 4 = fmt ∧ 16 ≤ readLe32 (chunk.drop 4) ∧
        size32 (p.1 + 8 + readLe32 (chunk.drop 4)) ≤ audio.length ∧
        ∃ body, slice audio (size32 (p.1 + 8)) 16 = some body ∧
          Streamable (readFormat body).1 (readFormat body).2 ∧ q.2 = true) ∨
      chunk.take 4 ≠ fmt ∧ chunk.take 4 ≠ dataId ∧ q.2 = p.2)

/-- The chunks of an array, as they are passed over: from none that is come to does the way lead back to
it, and what is read there lies in the array. -/
def Proper (passes : ℕ × Bool → ℕ × Bool → Prop) (inside : ℕ × Bool → Prop) : Prop :=
  ∀ p, Relation.ReflTransGen passes (12, false) p → inside p ∧ ¬ Relation.TransGen passes p p

variable {audio : List UInt8} {s t : Scan}

theorem size32_lt (x : ℕ) : size32 x < 2 ^ 32 := Nat.mod_lt _ (by decide)

theorem size32_of_lt {x : ℕ} (h : x < 2 ^ 32) : size32 x = x := Nat.mod_eq_of_lt h

theorem size32_size32_add (x y : ℕ) : size32 (size32 x + y) = size32 (x + y) :=
  Nat.mod_add_mod x (2 ^ 32) y

theorem nextOffset_lt (offset chunkSize : ℕ) : nextOffset offset chunkSize < 2 ^ 32 := size32_lt _

theorem slice_eq_some {offset size : ℕ} (h : offset + size ≤ audio.length) :
    slice audio offset size = some ((audio.drop offset).take size) := if_pos h

theorem slice_eq_none_iff {offset size : ℕ} :
    slice audio offset size = none ↔ audio.length < offset + size := by
  unfold slice
  split_ifs with h
  · simpa using h
  · simpa using h

/-- The turns of `parse_wav`. -/
theorem wavTurn_end (h : audio.length < size32 (s.offset + 8)) : wavTurn audio s = .done none :=
  if_pos h

theorem wavTurn_outside (h : size32 (s.offset + 8) ≤ audio.length)
    (hslice : slice audio s.offset 8 = none) : wavTurn audio s = .fault := by
  rw [wavTurn, if_neg (not_lt.mpr h), hslice]

theorem wavTurn_chunk {chunk : List UInt8} (h : size32 (s.offset + 8) ≤ audio.length)
    (hslice : slice audio s.offset 8 = some chunk) :
    wavTurn audio s =
      if audio.length < size32 (s.offset + 8 + readLe32 (chunk.drop 4)) then .done none
      else if chunk.take 4 = fmt ∧ 16 ≤ readLe32 (chunk.drop 4) then
        wavFormatChunk audio s (readLe32 (chunk.drop 4))
      else if chunk.take 4 = dataId ∧ s.sawFormat = true then
        .done (if 0 < readLe32 (chunk.drop 4) then
          some ⟨size32 (s.offset + 8), readLe32 (chunk.drop 4), s.format⟩ else none)
      else .next { s with offset := nextOffset s.offset (readLe32 (chunk.drop 4)) } := by
  rw [wavTurn, if_neg (not_lt.mpr h), hslice]
  simp only [size32_size32_add]

/-- The turns of `parse_wav_header_prefix`. -/
theorem headerTurn_end (h : audio.length < size32 (s.offset + 8)) : headerTurn audio s =
    .done (if kMaxWavHeaderBytes ≤ audio.length then .unsupported else .needMore) :=
  if_pos h

theorem headerTurn_outside (h : size32 (s.offset + 8) ≤ audio.length)
    (hslice : slice audio s.offset 8 = none) : headerTurn audio s = .fault := by
  rw [headerTurn, if_neg (not_lt.mpr h), hslice]

theorem headerTurn_chunk {chunk : List UInt8} (h : size32 (s.offset + 8) ≤ audio.length)
    (hslice : slice audio s.offset 8 = some chunk) :
    headerTurn audio s =
      if chunk.take 4 = fmt then headerFormatChunk audio s (readLe32 (chunk.drop 4))
      else if chunk.take 4 = dataId then
        if s.sawFormat then
          .done (.ready ⟨size32 (s.offset + 8), readLe32 (chunk.drop 4), s.format⟩)
        else .done .unsupported
      else goOn audio s (readLe32 (chunk.drop 4)) := by
  rw [headerTurn, if_neg (not_lt.mpr h), hslice]

/-- `parse_wav` goes from a chunk to the next one. -/
theorem follows_wavTurn (audio : List UInt8) :
    Follows (wavTurn audio) Scan.place (WavPasses audio) where
  next := by
    intro s t h
    by_cases hend : audio.length < size32 (s.offset + 8)
    · rw [wavTurn_end hend] at h
      cases h
    · cases hchunk : slice audio s.offset 8 with
      | none =>
        rw [wavTurn_outside (not_lt.mp hend) hchunk] at h
        cases h
      | some chunk =>
        rw [wavTurn_chunk (not_lt.mp hend) hchunk] at h
        refine ⟨not_lt.mp hend, chunk, hchunk, ?_⟩
        split_ifs at h with hfits hfmt hdata
        · unfold wavFormatChunk at h
          split at h
          · cases h
          · rename_i body hbody
            cases h
            exact ⟨not_lt.mp hfits, rfl, .inl ⟨hfmt.1, hfmt.2, body, hbody, rfl⟩⟩
        · cases h
          exact ⟨not_lt.mp hfits, rfl, .inr ⟨hfmt, hdata, rfl⟩⟩
  goes := by
    rintro s ⟨offset, saw⟩ ⟨hend, chunk, hchunk, hfits, hoffset, hsaw⟩
    simp only [Scan.place] at hend hchunk hfits hoffset hsaw
    rw [wavTurn_chunk hend hchunk, if_neg (not_lt.mpr hfits)]
    rcases hsaw with ⟨hfmt, hsize, body, hbody, hsaw⟩ | ⟨hfmt, hdata, hsaw⟩
    · rw [if_pos ⟨hfmt, hsize⟩, wavFormatChunk]
      rw [hbody]
      exact ⟨_, rfl, Prod.ext hoffset.symm hsaw.symm⟩
    · rw [if_neg hfmt, if_neg hdata]
      exact ⟨_, rfl, Prod.ext hoffset.symm hsaw.symm⟩

/-- Where the end of a turn of `parse_wav_header_prefix` goes on, it goes to the next chunk. -/
theorem goOn_next {chunkSize : ℕ} (h : goOn audio s chunkSize = .next t) :
    s.offset ≤ nextOffset s.offset chunkSize ∧ nextOffset s.offset chunkSize ≤ audio.length ∧
      t = { s with offset := nextOffset s.offset chunkSize } := by
  unfold goOn at h
  split_ifs at h with hback hend
  cases h
  exact ⟨not_lt.mp hback, not_lt.mp hend, rfl⟩

theorem goOn_eq {chunkSize : ℕ} (hup : s.offset ≤ nextOffset s.offset chunkSize)
    (hend : nextOffset s.offset chunkSize ≤ audio.length) :
    goOn audio s chunkSize = .next { s with offset := nextOffset s.offset chunkSize } := by
  rw [goOn, if_neg (not_lt.mpr hup), if_neg (not_lt.mpr hend)]

/-- `parse_wav_header_prefix` goes from a chunk to the next one. -/
theorem follows_headerTurn (audio : List UInt8) :
    Follows (headerTurn audio) Scan.place (HeaderPasses audio) where
  next := by
    intro s t h
    by_cases hend : audio.length < size32 (s.offset + 8)
    · rw [headerTurn_end hend] at h
      cases h
    · cases hchunk : slice audio s.offset 8 with
      | none =>
        rw [headerTurn_outside (not_lt.mp hend) hchunk] at h
        cases h
      | some chunk =>
        rw [headerTurn_chunk (not_lt.mp hend) hchunk] at h
        refine ⟨not_lt.mp hend, chunk, hchunk, ?_⟩
        split_ifs at h with hfmt hdata
        · unfold headerFormatChunk at h
          split_ifs at h with hsize hfits
          split at h
          · cases h
          · rename_i body hbody
            simp only at h
            split_ifs at h with hformat
            obtain ⟨hup, hin, rfl⟩ := goOn_next h
            rw [size32_size32_add] at hfits
            exact ⟨hup, hin, rfl, .inl ⟨hfmt, not_lt.mp hsize, not_lt.mp hfits, body, hbody,
              hformat, rfl⟩⟩
        · obtain ⟨hup, hin, rfl⟩ := goOn_next h
          exact ⟨hup, hin, rfl, .inr ⟨hfmt, hdata, rfl⟩⟩
  goes := by
    rintro s ⟨offset, saw⟩ ⟨hend, chunk, hchunk, hup, hin, hoffset, hsaw⟩
    simp only [Scan.place] at hend hchunk hup hin hoffset hsaw
    rw [headerTurn_chunk hend hchunk]
    rcases hsaw with ⟨hfmt, hsize, hfits, body, hbody, hformat, hsaw⟩ | ⟨hfmt, hdata, hsaw⟩
    · have hgo := goOn_eq (s := { s with sawFormat := true, format := (readFormat body).2 }) hup hin
      rw [if_pos hfmt, headerFormatChunk, if_neg (not_lt.mpr hsize), size32_size32_add,
        if_neg (not_lt.mpr hfits), hbody]
      exact ⟨_, (if_pos hformat).trans hgo, Prod.ext hoffset.symm hsaw.symm⟩
    · rw [if_neg hfmt, if_neg hdata]
      exact ⟨_, goOn_eq hup hin, Prod.ext hoffset.symm hsaw.symm⟩

/-- The places that either loop comes to are finitely many. -/
theorem finite_places : {place : ℕ × Bool | place.1 < 2 ^ 32}.Finite := by
  have hproduct : {place : ℕ × Bool | place.1 < 2 ^ 32} ⊆ Set.Iio (2 ^ 32) ×ˢ Set.univ :=
    fun place h => ⟨h, trivial⟩
  exact ((Set.finite_Iio _).prod Set.finite_univ).subset hproduct

/-- A place that a loop comes to has an offset of 32 bits. -/
theorem place_mem {ρ : Type} {turn : Scan → Turn Scan ρ} {passes : ℕ × Bool → ℕ × Bool → Prop}
    (hfollows : Follows turn Scan.place passes) (hnext : ∀ p q, passes p q → q.1 < 2 ^ 32)
    (k : ℕ) (s : Scan) (h : reached turn .start k = some s) :
    s.place ∈ {place : ℕ × Bool | place.1 < 2 ^ 32} := by
  cases k with
  | zero =>
    obtain rfl := Option.some.inj h
    show 12 < 2 ^ 32
    decide
  | succ k =>
    obtain ⟨u, -, hturn⟩ := reached_succ_iff.mp h
    exact hnext _ _ (hfollows.next u s hturn)

theorem WavPasses.offset_lt {p q : ℕ × Bool} (h : WavPasses audio p q) : q.1 < 2 ^ 32 := by
  obtain ⟨-, chunk, -, -, hoffset, -⟩ := h
  rw [hoffset]
  exact nextOffset_lt _ _

theorem HeaderPasses.offset_lt {p q : ℕ × Bool} (h : HeaderPasses audio p q) : q.1 < 2 ^ 32 := by
  obtain ⟨-, chunk, -, -, -, hoffset, -⟩ := h
  rw [hoffset]
  exact nextOffset_lt _ _

/-- The samples lie in the array. -/
def ViewInside (audio : List UInt8) (result : Option WavView) : Prop :=
  ∀ view, result = some view → view.pcm + view.pcmSize ≤ audio.length

theorem fmt_ne_dataId : fmt ≠ dataId := by decide

/-- A turn of `parse_wav` is fine exactly if what it reads lies in the array. -/
theorem wavTurn_fine_iff (hlength : audio.length < 2 ^ 32) (s : Scan) :
    (wavTurn audio s ≠ .fault ∧ ∀ r, wavTurn audio s = .done r → ViewInside audio r) ↔
      WavInside audio s.place := by
  by_cases hend : audio.length < size32 (s.offset + 8)
  · rw [wavTurn_end hend]
    have hvacuous : WavInside audio s.place := fun hle => absurd hle (not_le.mpr hend)
    simp [hvacuous, ViewInside]
  have hle := not_lt.mp hend
  by_cases hheader : s.offset + 8 ≤ audio.length
  · have hoffset : size32 (s.offset + 8) = s.offset + 8 := size32_of_lt (by omega)
    have hslice := slice_eq_some hheader
    rw [wavTurn_chunk hle hslice]
    simp only [WavInside, Scan.place, hle, hheader, hslice, true_implies, true_and, Option.some.injEq,
      forall_eq']
    generalize (audio.drop s.offset).take 8 = chunk
    by_cases hfits : audio.length < size32 (s.offset + 8 + readLe32 (chunk.drop 4))
    · rw [if_pos hfits]
      simp [not_le.mpr hfits, ViewInside]
    rw [if_neg hfits]
    simp only [not_lt.mp hfits, true_implies]
    by_cases hfmt : chunk.take 4 = fmt ∧ 16 ≤ readLe32 (chunk.drop 4)
    · -- a format chunk is read
      have hdata : chunk.take 4 ≠ dataId := by
        rw [hfmt.1]
        exact fmt_ne_dataId
      rw [if_pos hfmt, wavFormatChunk, hoffset]
      by_cases hbody : s.offset + 8 + 16 ≤ audio.length
      · rw [slice_eq_some hbody]
        simp [hdata, hbody]
      · rw [slice_eq_none_iff.mpr (not_le.mp hbody)]
        simp [hfmt.1, hfmt.2, hbody]
    rw [if_neg hfmt]
    by_cases hdata : chunk.take 4 = dataId ∧ s.sawFormat = true
    · -- the data chunk is taken
      have hnot : chunk.take 4 ≠ fmt := by
        rw [hdata.1]
        exact fmt_ne_dataId.symm
      rw [if_pos hdata, hoffset]
      by_cases hempty : 0 < readLe32 (chunk.drop 4)
      · rw [if_pos hempty]
        simp [ViewInside, hdata.1, hdata.2, fmt_ne_dataId.symm]
      · rw [if_neg hempty]
        simp [ViewInside, hnot, Nat.eq_zero_of_not_pos hempty, hheader]
    · rw [if_neg hdata]
      rw [not_and] at hfmt hdata
      simp only [ne_eq, reduceCtorEq, not_false_eq_true, false_implies, implies_true, and_self,
        true_iff]
      exact ⟨fun hid hsize => absurd hsize (hfmt hid), fun hid hsaw => absurd hsaw (hdata hid)⟩
  · have hslice := slice_eq_none_iff.mpr (not_le.mp hheader)
    rw [wavTurn_outside hle hslice]
    simp [WavInside, Scan.place, hle, hheader]

/-- A turn of `parse_wav_header_prefix` is fine exactly if what it reads lies in the array. -/
theorem headerTurn_fine_iff (hlength : audio.length < 2 ^ 32) (s : Scan) :
    (headerTurn audio s ≠ .fault ∧ ∀ r, headerTurn audio s = .done r → True) ↔
      HeaderInside audio s.place := by
  simp only [implies_true, and_true]
  by_cases hend : audio.length < size32 (s.offset + 8)
  · rw [headerTurn_end hend]
    have hvacuous : HeaderInside audio s.place := fun hle => absurd hle (not_le.mpr hend)
    simp [hvacuous]
  have hle := not_lt.mp hend
  by_cases hheader : s.offset + 8 ≤ audio.length
  · have hoffset : size32 (s.offset + 8) = s.offset + 8 := size32_of_lt (by omega)
    have hslice := slice_eq_some hheader
    rw [headerTurn_chunk hle hslice]
    simp only [HeaderInside, Scan.place, hle, hheader, hslice, true_implies, true_and, Option.some.injEq,
      forall_eq']
    generalize (audio.drop s.offset).take 8 = chunk
    have hgoOn : ∀ t : Scan, goOn audio t (readLe32 (chunk.drop 4)) ≠ .fault := by
      intro t
      unfold goOn
      split_ifs <;> simp
    by_cases hfmt : chunk.take 4 = fmt
    · rw [if_pos hfmt, headerFormatChunk, hoffset]
      by_cases hsize : readLe32 (chunk.drop 4) < 16
      · rw [if_pos hsize]
        simp [not_le.mpr hsize]
      rw [if_neg hsize]
      by_cases hfits : audio.length < size32 (s.offset + 8 + readLe32 (chunk.drop 4))
      · rw [if_pos hfits]
        simp [not_le.mpr hfits]
      rw [if_neg hfits]
      by_cases hbody : s.offset + 8 + 16 ≤ audio.length
      · rw [slice_eq_some hbody]
        simp only [hbody, implies_true, iff_true]
        split_ifs
        · exact hgoOn _
        · simp
      · rw [slice_eq_none_iff.mpr (not_le.mp hbody)]
        simp [hfmt, not_lt.mp hfits, not_lt.mp hsize, hbody]
    · rw [if_neg hfmt]
      simp only [hfmt, false_implies, implies_true, iff_true]
      split_ifs
      · simp
      · simp
      · exact hgoOn s
  · have hslice := slice_eq_none_iff.mpr (not_le.mp hheader)
    rw [headerTurn_outside hle hslice]
    simp [HeaderInside, Scan.place, hle, hheader]

/-- `parse_wav` ends as it should exactly if its chunks are proper. -/
theorem parseWav_iff (hlength : audio.length < 2 ^ 32) :
    (∃ fuel result, parseWav audio fuel = some (some result) ∧ ViewInside audio result) ↔
      (isWav audio = true → Proper (WavPasses audio) (WavInside audio)) := by
  by_cases hwav : isWav audio = true
  · have hloop := (follows_wavTurn audio).loopReturns_iff finite_places
      (place_mem (follows_wavTurn audio) fun _ _ h => h.offset_lt) (wavTurn_fine_iff hlength)
    simp only [parseWav, hwav, if_true, true_implies]
    rw [Proper]
    apply Iff.trans _ hloop
    constructor
    · rintro ⟨fuel, result, hreturns, hinside⟩
      exact ⟨result, ⟨fuel, hreturns⟩, hinside⟩
    · rintro ⟨result, ⟨fuel, hreturns⟩, hinside⟩
      exact ⟨fuel, result, hreturns, hinside⟩
  · refine iff_of_true ⟨0, none, ?_, ?_⟩ fun h => absurd h hwav
    · rw [parseWav, if_neg hwav]
    · simp [ViewInside]

/-- `parse_wav_header_prefix` ends as it should exactly if its chunks are proper. -/
theorem parseWavHeaderPrefix_iff (hlength : audio.length < 2 ^ 32) :
    (∃ fuel result, parseWavHeaderPrefix audio fuel = some (some result)) ↔
      (isRiff audio = true → Proper (HeaderPasses audio) (HeaderInside audio)) := by
  by_cases hriff : isRiff audio = true
  · have hloop := (follows_headerTurn audio).loopReturns_iff finite_places
      (place_mem (follows_headerTurn audio) fun _ _ h => h.offset_lt) (headerTurn_fine_iff hlength)
    have hparse : ∀ fuel, parseWavHeaderPrefix audio fuel =
        loop (headerTurn audio) fuel .start := by
      intro fuel
      simp only [isRiff, Bool.and_eq_true, decide_eq_true_eq] at hriff
      obtain ⟨⟨hlong, hmagic⟩, hformat⟩ := hriff
      rw [parseWavHeaderPrefix, if_neg (by omega), if_neg (by simp [hmagic, hformat])]
    simp only [hparse, hriff, true_implies]
    rw [Proper]
    apply Iff.trans _ hloop
    constructor
    · rintro ⟨fuel, result, hreturns⟩
      exact ⟨result, ⟨fuel, hreturns⟩, trivial⟩
    · rintro ⟨result, ⟨fuel, hreturns⟩, -⟩
      exact ⟨fuel, result, hreturns⟩
  · refine iff_of_true ?_ fun h => absurd h hriff
    simp only [isRiff, Bool.and_eq_true, decide_eq_true_eq] at hriff
    unfold parseWavHeaderPrefix
    by_cases hshort : audio.length < 12
    · exact ⟨0, .needMore, if_pos hshort⟩
    · refine ⟨0, .unsupported, ?_⟩
      rw [if_neg hshort, if_pos]
      by_cases hmagic : audio.take 4 = riff
      · exact .inr fun hformat => hriff ⟨⟨not_lt.mp hshort, hmagic⟩, hformat⟩
      · exact .inl hmagic

/-- **The parsers are safe** exactly if, for each of them, the chunks that it passes over are proper. -/
theorem parsers_safe_iff (audio : List UInt8) (hlength : audio.length < 2 ^ 32) :
    ParsersSafe audio ↔
      (isWav audio = true → Proper (WavPasses audio) (WavInside audio)) ∧
        (isRiff audio = true → Proper (HeaderPasses audio) (HeaderInside audio)) := by
  rw [← parseWav_iff hlength, ← parseWavHeaderPrefix_iff hlength]
  exact ⟨fun h => ⟨h.parseWav, h.parseWavHeaderPrefix⟩, fun h => ⟨h.1, h.2⟩⟩

/-- A file of one sample. -/
def oneSample : List UInt8 :=
  riff ++ [38, 0, 0, 0] ++ wave ++ fmt ++ [16, 0, 0, 0] ++
    [1, 0, 1, 0, 128, 62, 0, 0, 0, 125, 0, 0, 2, 0, 16, 0] ++ dataId ++ [2, 0, 0, 0] ++ [1, 0]

theorem oneSample_proper :
    (isWav oneSample = true → Proper (WavPasses oneSample) (WavInside oneSample)) ∧
      (isRiff oneSample = true → Proper (HeaderPasses oneSample) (HeaderInside oneSample)) := by
  apply (parsers_safe_iff oneSample (by decide)).mp
  constructor
  · refine ⟨3, some ⟨44, 2, ⟨1, 16000, 16⟩⟩, by decide, ?_⟩
    intro view hview
    obtain rfl := Option.some.inj hview
    decide
  · exact ⟨3, .ready ⟨44, 2, ⟨1, 16000, 16⟩⟩, by decide⟩

/-- A chunk of 2³² - 8 bytes, which leads back to itself. -/
def endlessChunk : List UInt8 :=
  riff ++ [36, 0, 0, 0] ++ wave ++ [106, 117, 110, 107] ++ [248, 255, 255, 255] ++
    List.replicate 24 0

theorem endlessChunk_unsafe : ¬ ParsersSafe endlessChunk := by
  intro hsafe
  obtain ⟨fuel, result, hreturns, -⟩ := hsafe.parseWav
  have hturn : wavTurn endlessChunk .start = .next .start := by rfl
  have hnone : ∀ fuel, loop (wavTurn endlessChunk) fuel .start = none := by
    intro fuel
    induction fuel with
    | zero => rfl
    | succ fuel ih =>
      rw [loop, hturn]
      exact ih
  have hwav : isWav endlessChunk = true := by decide
  rw [parseWav, if_pos hwav, hnone] at hreturns
  cases hreturns

end HexeVoice.Firmware.Wav
