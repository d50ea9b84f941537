import HexeVoice.Firmware.Wav

/-!
# Playing a WAV while it is downloaded

`stream_http_wav` and `play_wav` of `voice/tts_player.cpp`: the one parses the beginning of a download again
and again and plays the rest as it comes, the other plays a file that is read already.

## The model

The download gives its bytes in order, in reads of any sizes; a read may give none. What is observed is how
the speaker is opened and what is written to it. Stops, failing writes and the events are those of the
player's model.

## What is proved

**`stream_plays_as_file`**: where every format chunk before the audio is 16-bit PCM with one or two
channels, and no more than fifty reads in a row give nothing, both play the same audio in the same format.
-/

namespace HexeVoice.Firmware.WavStream

open HexeVoice.Library HexeVoice.Firmware.Wav

/-! ### The speaker -/

/-- The board, which may want silence first, as `HEXE_BOARD_PROFILE_WAVESHARE_P4_WIFI6_TOUCH_LCD_7B`. -/
structure Board where
  primesSpeaker : Bool

/-- What is done with the speaker. -/
inductive Sound where
  | opened (format : WavFormat)
  | wrote (bytes : List UInt8)
  deriving DecidableEq

def kSpeakerPrimeMs : ℕ := 30

/-- Bytes in pieces of at most `size`. -/
def pieces (size : ℕ) (bytes : List UInt8) : List (List UInt8) :=
  if _h : size = 0 ∨ bytes = [] then []
  else bytes.take size :: pieces size (bytes.drop size)
termination_by bytes.length
decreasing_by
  rw [not_or] at _h
  have := List.length_pos_iff.mpr _h.2
  rw [List.length_drop]
  omega

/-- The silence of `open_speaker_stream`. -/
def silence (format : WavFormat) : List UInt8 :=
  List.replicate (size32 ((format.sampleRate % 2 ^ 32).toNat * format.channels * 2 *
    kSpeakerPrimeMs) / 1000) 0

def openSpeakerStream (board : Board) (format : WavFormat) : List Sound :=
  .opened format ::
    if board.primesSpeaker then (pieces 512 (silence format)).map .wrote else []

/-! ### A file -/

def kPlaybackWriteBytes : ℕ := 4096

/-- `play_wav`, with at most `fuel` turns of the parser: whether it has played, and what it has done. -/
def playWav (board : Board) (audio : List UInt8) (fuel : ℕ) : Option (Option (Bool × List Sound)) :=
  match parseWav audio fuel with
  | none => none
  | some none => some none
  | some (some none) => some (some (false, []))
  | some (some (some view)) =>
    let pcm := (audio.drop view.pcm).take view.pcmSize
    some (some (true, openSpeakerStream board view.format ++
      (pieces kPlaybackWriteBytes pcm).map .wrote))

/-! ### A download -/

def kHttpReadBufferBytes : ℕ := 4096
def kHttpReadMaxIdleRetries : ℕ := 50

/-- The HTTP client: the bytes that are still to come, and how many the reads to come give at most; `none`
is an error. -/
structure Client where
  rest : List UInt8
  plan : ℕ → Option ℕ

/-- `esp_http_client_read`. -/
def Client.read (client : Client) (requested : ℕ) : Option (List UInt8 × Client) :=
  (client.plan 0).map fun count =>
    (client.rest.take (min count requested),
      { rest := client.rest.drop (min count requested)
        plan := fun k => client.plan (k + 1) })

/-- `PcmStreamWriter`, with what has been written. -/
structure PcmStreamWriter where
  pending : List UInt8
  written : List (List UInt8)

def PcmStreamWriter.start : PcmStreamWriter := ⟨[], []⟩

/-- The first part of `write_pcm_frames`, which fills a frame that is pending: the writer, and the bytes
that are left. -/
def fillPending (data : List UInt8) (frameBytes : ℕ) (writer : PcmStreamWriter) :
    PcmStreamWriter × List UInt8 :=
  if 0 < writer.pending.length then
    let copied := min (frameBytes - writer.pending.length) data.length
    let pending := writer.pending ++ data.take copied
    if pending.length = frameBytes then
      (⟨[], writer.written ++ [pending]⟩, data.drop copied)
    else (⟨pending, writer.written⟩, data.drop copied)
  else (writer, data)

/-- The second part, which writes whole frames and keeps the rest. -/
def writeAligned (data : List UInt8) (frameBytes : ℕ) (writer : PcmStreamWriter) : PcmStreamWriter :=
  let alignedSize := data.length / frameBytes * frameBytes
  { pending := if alignedSize < data.length then data.drop alignedSize else writer.pending
    written :=
      if 0 < alignedSize then writer.written ++ [data.take alignedSize] else writer.written }

/-- `write_pcm_frames`, where the writes succeed; `none` is false. -/
def writePcmFrames (data : List UInt8) (frameBytes : ℕ) (writer : PcmStreamWriter) :
    Option PcmStreamWriter :=
  if frameBytes = 0 ∨ 4 < frameBytes then none
  else
    let (writer, rest) := fillPending data frameBytes writer
    some (writeAligned rest frameBytes writer)

/-- The variables of the loop that reads the header. -/
structure HeaderLoop where
  client : Client
  idleRetries : ℕ
  header : List UInt8
  result : WavHeaderParseResult

/-- A turn of that loop, with at most `fuel` turns of the parser. Where the parser does not end, neither does
the loop. -/
def headerLoopTurn (fuel : ℕ) (s : HeaderLoop) : Turn HeaderLoop HeaderLoop :=
  if s.result ≠ .needMore ∨ kMaxWavHeaderBytes ≤ s.header.length then .done s
  else
    match s.client.read kHttpReadBufferBytes with
    | none => .done s
    | some (data, client) =>
      if data = [] then
        if kHttpReadMaxIdleRetries < s.idleRetries + 1 then
          .done { s with client, idleRetries := s.idleRetries + 1 }
        else .next { s with client, idleRetries := s.idleRetries + 1 }
      else
        match parseWavHeaderPrefix (s.header ++ data) fuel with
        | none => .next s
        | some none => .fault
        | some (some result) =>
          .next { client, idleRetries := 0, header := s.header ++ data, result }

/-- The variables of the loop that plays. -/
structure BodyLoop where
  client : Client
  idleRetries : ℕ
  remaining : ℕ
  writer : PcmStreamWriter
  played : Bool

/-- A turn of that loop. -/
def bodyLoopTurn (frameBytes : ℕ) (s : BodyLoop) : Turn BodyLoop BodyLoop :=
  if s.played = false ∨ s.remaining = 0 then .done s
  else
    match s.client.read (min s.remaining kHttpReadBufferBytes) with
    | none => .done { s with played := false }
    | some (data, client) =>
      if data = [] then
        if kHttpReadMaxIdleRetries < s.idleRetries + 1 then
          .done { s with client, idleRetries := s.idleRetries + 1, played := false }
        else .next { s with client, idleRetries := s.idleRetries + 1 }
      else
        match writePcmFrames data frameBytes s.writer with
        | none =>
          .next { s with client, idleRetries := 0, remaining := s.remaining - data.length
                         played := false }
        | some writer =>
          .next { s with client, idleRetries := 0, remaining := s.remaining - data.length, writer }

/-- The audio that came with the header is written first. -/
def bodyStart (s : HeaderLoop) (info : WavStreamInfo) : BodyLoop :=
  let frameBytes := info.format.channels * 2
  let start : BodyLoop :=
    { client := s.client
      idleRetries := s.idleRetries
      remaining := info.dataSize
      writer := .start
      played := true }
  if info.dataOffset < s.header.length then
    let available := min info.dataSize (s.header.length - info.dataOffset)
    match writePcmFrames ((s.header.drop info.dataOffset).take available) frameBytes .start with
    | none => { start with remaining := info.dataSize - available, played := false }
    | some writer => { start with remaining := info.dataSize - available, writer }
  else start

/-- What `stream_http_wav` returns after its loop. -/
def BodyLoop.success (s : BodyLoop) : Bool :=
  s.played && s.remaining = 0 && s.writer.pending = [] && 0 < s.writer.written.flatten.length

/-- How the server answers. -/
structure Response where
  opens : Bool
  statusCode : ℤ
  client : Client

/-- `stream_http_wav`, with at most `fuel` turns of each loop: what it returns, and what it has done. -/
def streamHttpWav (board : Board) (response : Response) (fuel : ℕ) :
    Option (Option (Bool × List Sound)) :=
  if response.opens = false ∨ response.statusCode < 200 ∨ 300 ≤ response.statusCode then
    some (some (false, []))
  else
    match loop (headerLoopTurn fuel) fuel ⟨response.client, 0, [], .needMore⟩ with
    | none => none
    | some none => some none
    | some (some s) =>
      match s.result with
      | .ready info =>
        match loop (bodyLoopTurn (info.format.channels * 2)) fuel (bodyStart s info) with
        | none => none
        | some none => some none
        | some (some body) =>
          some (some (body.success,
            openSpeakerStream board info.format ++ body.writer.written.map .wrote))
      | _ => some (some (false, []))

/-! ### The chunks before the audio -/

/-- From where a parser is, chunks lead to a data chunk at `offset`, with the format of the last format
chunk before it. Each of the format chunks can be streamed, and there is one. -/
inductive Leads (audio : List UInt8) (offset : ℕ) (format : WavFormat) : Scan → Prop
  | data {s : Scan} {chunk : List UInt8} (hchunk : slice audio s.offset 8 = some chunk)
      (hid : chunk.take 4 = dataId) (hsaw : s.sawFormat = true) (hoffset : s.offset = offset)
      (hformat : s.format = format) : Leads audio offset format s
  | fmt {s : Scan} {chunk body : List UInt8} (hchunk : slice audio s.offset 8 = some chunk)
      (hid : chunk.take 4 = Wav.fmt) (hsize : 16 ≤ readLe32 (chunk.drop 4))
      (hbody : slice audio (s.offset + 8) 16 = some body)
      (hformat : Streamable (readFormat body).1 (readFormat body).2)
      (hnext : Leads audio offset format
        ⟨s.offset + 8 + readLe32 (chunk.drop 4) + readLe32 (chunk.drop 4) % 2, true,
          (readFormat body).2⟩) : Leads audio offset format s
  | other {s : Scan} {chunk : List UInt8} (hchunk : slice audio s.offset 8 = some chunk)
      (hfmt : chunk.take 4 ≠ Wav.fmt) (hdata : chunk.take 4 ≠ dataId)
      (hnext : Leads audio offset format
        { s with
          offset := s.offset + 8 + readLe32 (chunk.drop 4) + readLe32 (chunk.drop 4) % 2 }) :
      Leads audio offset format s

/-- The size of the chunk at an offset. -/
def sizeAt (audio : List UInt8) (offset : ℕ) : ℕ := readLe32 (audio.drop (offset + 4))

/-- A file with its audio at `offset + 8`. -/
structure StreamableWav (audio : List UInt8) (offset : ℕ) (format : WavFormat) : Prop where
  length_lt : audio.length < 2 ^ 32
  isRiff : isRiff audio = true
  leads : Leads audio offset format .start
  /-- The audio begins within `kMaxWavHeaderBytes`. -/
  early : offset + 8 ≤ kMaxWavHeaderBytes
  size_pos : 0 < sizeAt audio offset
  /-- The audio is whole frames. -/
  frames : format.channels * 2 ∣ sizeAt audio offset
  /-- The audio is all there. -/
  fits : offset + 8 + sizeAt audio offset ≤ audio.length

variable {audio : List UInt8} {offset : ℕ} {format : WavFormat} {s : Scan}

theorem slice_le {start size : ℕ} {bytes : List UInt8} (h : slice audio start size = some bytes) :
    start + size ≤ audio.length := by
  unfold slice at h
  split_ifs at h with hle
  exact hle

theorem slice_eq {start size : ℕ} {bytes : List UInt8} (h : slice audio start size = some bytes) :
    bytes = (audio.drop start).take size := by
  rw [slice_eq_some (slice_le h)] at h
  exact (Option.some.inj h).symm

/-- A slice of a beginning is one of the whole. -/
theorem slice_take {n start size : ℕ} (hle : start + size ≤ n) (hn : n ≤ audio.length) :
    slice (audio.take n) start size = slice audio start size := by
  have hlength : (audio.take n).length = n := List.length_take_of_le hn
  rw [slice_eq_some (by omega), slice_eq_some (by omega), List.drop_take, List.take_take,
    min_eq_left (by omega)]

/-- The chunks lead forwards. -/
theorem Leads.le (h : Leads audio offset format s) : s.offset ≤ offset := by
  induction h with
  | data _ _ _ hoffset _ => exact le_of_eq hoffset
  | fmt _ _ _ _ _ _ ih =>
    simp only at ih
    omega
  | other _ _ _ _ ih =>
    simp only at ih
    omega

/-- Where no format has been seen, there is a format chunk before the audio. -/
theorem Leads.format_le (h : Leads audio offset format s) (hsaw : s.sawFormat = false) :
    s.offset + 24 ≤ offset := by
  induction h with
  | data _ _ hyes _ _ =>
    rw [hsaw] at hyes
    cases hyes
  | fmt _ _ hsize _ _ hnext _ =>
    have hforward := hnext.le
    simp only at hforward
    omega
  | other _ _ _ _ ih =>
    have hforward := ih hsaw
    simp only at hforward
    omega

/-- A chunk that is passed over without a wrap. -/
theorem nextOffset_eq {start size : ℕ} (h : start + 8 + size + size % 2 < 2 ^ 32) :
    nextOffset start size = start + 8 + size + size % 2 := by
  rw [nextOffset, size32_of_lt (by omega : start + 8 < 2 ^ 32),
    size32_of_lt (by omega : start + 8 + size < 2 ^ 32), size32_of_lt h]

theorem readLe32_take (bytes : List UInt8) {n : ℕ} (h : 4 ≤ n) :
    readLe32 (bytes.take n) = readLe32 bytes := by
  obtain ⟨m, rfl⟩ := Nat.exists_eq_add_of_le' h
  rcases bytes with _ | ⟨a, _ | ⟨b, _ | ⟨c, _ | ⟨d, bytes⟩⟩⟩⟩ <;> rfl

/-- The size in the header of a chunk. -/
theorem sizeAt_eq {start : ℕ} {chunk : List UInt8} (h : slice audio start 8 = some chunk) :
    readLe32 (chunk.drop 4) = sizeAt audio start := by
  rw [slice_eq h, List.drop_take, List.drop_drop, readLe32_take _ (by decide), sizeAt]

theorem isPcm16_of_streamable {body : List UInt8}
    (h : Streamable (readFormat body).1 (readFormat body).2) : isPcm16 body = true := by
  obtain ⟨hpcm, hmono, -, hbits⟩ := h
  simp [Wav.isPcm16, hpcm, hmono, hbits]

/-- A turn of `parse_wav` takes the audio, or goes on to the chunks after. -/
theorem wavTurn_of_leads (h : StreamableWav audio offset format) (s : Scan)
    (hs : Leads audio offset format s) :
    (∃ result, wavTurn audio s = .done result ∧
      result = some ⟨offset + 8, sizeAt audio offset, format⟩) ∨
    ∃ t, wavTurn audio s = .next t ∧ Leads audio offset format t ∧
      offset - t.offset < offset - s.offset := by
  have hlength := h.length_lt
  have hfits := h.fits
  have hle := hs.le
  cases hs with
  | data hchunk hid hsaw hoffset hformat =>
    subst hoffset
    have hsize := sizeAt_eq hchunk
    have hpos := h.size_pos
    left
    refine ⟨_, ?_, rfl⟩
    rw [wavTurn_chunk (by rw [size32_of_lt] <;> omega) hchunk, hsize, size32_of_lt (by omega),
      if_neg (by omega), if_neg (by rw [hid]; exact fun hfmt => fmt_ne_dataId hfmt.1.symm),
      if_pos ⟨hid, hsaw⟩, if_pos hpos, size32_of_lt (by omega), hformat]
  | fmt hchunk hid hsize hbody hformat hnext =>
    have hforward := hnext.le
    have hpcm := isPcm16_of_streamable hformat
    simp only at hforward
    right
    refine ⟨_, ?_, hnext, ?_⟩
    · rw [wavTurn_chunk (by rw [size32_of_lt] <;> omega) hchunk, size32_of_lt (by omega),
        if_neg (by omega), if_pos ⟨hid, hsize⟩, wavFormatChunk, size32_of_lt (by omega), hbody,
        ← hpcm, ← nextOffset_eq (by omega)]
      rfl
    · simp only
      omega
  | other hchunk hfmt hdata hnext =>
    have hforward := hnext.le
    simp only at hforward
    right
    refine ⟨_, ?_, hnext, ?_⟩
    · rw [wavTurn_chunk (by rw [size32_of_lt] <;> omega) hchunk, size32_of_lt (by omega),
        if_neg (by omega), if_neg (fun hid => hfmt hid.1), if_neg (fun hid => hdata hid.1),
        nextOffset_eq (by omega)]
    · simp only
      omega

/-- `parse_wav` finds the audio. -/
theorem parseWav_eq (h : StreamableWav audio offset format) {fuel : ℕ}
    (hfuel : kMaxWavHeaderBytes ≤ fuel) :
    parseWav audio fuel = some (some (some ⟨offset + 8, sizeAt audio offset, format⟩)) := by
  have hearly := h.early
  obtain ⟨result, hloop, rfl⟩ := loop_of_measure (fun s : Scan => offset - s.offset) _ _
    (wavTurn_of_leads h) h.leads (show offset - Scan.start.offset < fuel by omega)
  have hriff := h.isRiff
  have hfits := h.fits
  have hformat := h.leads.format_le rfl
  have hstart : Scan.start.offset = 12 := rfl
  simp only [isRiff, Bool.and_eq_true, decide_eq_true_eq] at hriff
  rw [parseWav, if_pos, hloop]
  simp only [isWav, Bool.and_eq_true, decide_eq_true_eq]
  exact ⟨⟨by omega, hriff.1.2⟩, hriff.2⟩

/-- The answer of `parse_wav_header_prefix` on the first `n` bytes. -/
def prefixResult (audio : List UInt8) (offset : ℕ) (format : WavFormat) (n : ℕ) :
    WavHeaderParseResult :=
  if n < offset + 8 then .needMore else .ready ⟨offset + 8, sizeAt audio offset, format⟩

/-- A turn of `parse_wav_header_prefix` on a beginning finds the audio, or that it is not there yet, or
goes on to the chunks after. -/
theorem headerTurn_of_leads (h : StreamableWav audio offset format) {n : ℕ}
    (hn : n ≤ audio.length) (s : Scan) (hs : Leads audio offset format s ∧ s.offset ≤ n) :
    (∃ result, headerTurn (audio.take n) s = .done result ∧
      result = prefixResult audio offset format n) ∨
    ∃ t, headerTurn (audio.take n) s = .next t ∧ (Leads audio offset format t ∧ t.offset ≤ n) ∧
      offset - t.offset < offset - s.offset := by
  have hlength := h.length_lt
  have hearly := h.early
  have htake : (audio.take n).length = n := List.length_take_of_le hn
  obtain ⟨hs, hin⟩ := hs
  have hle := hs.le
  simp only [kMaxWavHeaderBytes] at hearly
  by_cases hend : n < s.offset + 8
  · -- the header of the chunk is not there yet
    left
    refine ⟨_, headerTurn_end (by rw [size32_of_lt] <;> omega), ?_⟩
    rw [htake, if_neg (by simp only [kMaxWavHeaderBytes]; omega), prefixResult, if_pos (by omega)]
  have hsame : slice (audio.take n) s.offset 8 = slice audio s.offset 8 :=
    slice_take (not_lt.mp hend) hn
  have hheader : size32 (s.offset + 8) ≤ (audio.take n).length := by
    rw [size32_of_lt] <;> omega
  cases hs with
  | data hchunk hid hsaw hoffset hformat =>
    subst hoffset
    left
    refine ⟨_, ?_, rfl⟩
    rw [headerTurn_chunk hheader (hsame.trans hchunk), sizeAt_eq hchunk, prefixResult, if_neg hend,
      if_neg (by rw [hid]; exact fmt_ne_dataId.symm), if_pos hid, if_pos hsaw,
      size32_of_lt (by omega), hformat]
  | @fmt _ chunk _ hchunk hid hsize hbody hformat hnext =>
    have hforward := hnext.le
    simp only at hforward
    rw [headerTurn_chunk hheader (hsame.trans hchunk), if_pos hid, headerFormatChunk,
      if_neg (not_lt.mpr hsize), size32_of_lt (show s.offset + 8 < 2 ^ 32 by omega),
      size32_of_lt (by omega), htake]
    by_cases hthere : n < s.offset + 8 + readLe32 (chunk.drop 4)
    · -- nor is all of the format chunk
      left
      rw [if_pos hthere, prefixResult, if_pos (by omega)]
      exact ⟨_, rfl, rfl⟩
    rw [if_neg hthere, slice_take (by omega) hn, hbody]
    simp only [hformat, if_true, goOn, nextOffset_eq (show s.offset + 8 + readLe32 (chunk.drop 4) +
      readLe32 (chunk.drop 4) % 2 < 2 ^ 32 by omega), htake]
    rw [if_neg (by omega)]
    split_ifs with hpad
    · left
      rw [prefixResult, if_pos (by omega)]
      exact ⟨_, rfl, rfl⟩
    · right
      refine ⟨_, rfl, ⟨hnext, not_lt.mp hpad⟩, ?_⟩
      simp only
      omega
  | @other _ chunk hchunk hfmt hdata hnext =>
    have hforward := hnext.le
    simp only at hforward
    rw [headerTurn_chunk hheader (hsame.trans hchunk), if_neg hfmt, if_neg hdata, goOn,
      nextOffset_eq (by omega), if_neg (by omega), htake]
    split_ifs with hpad
    · left
      rw [prefixResult, if_pos (by omega)]
      exact ⟨_, rfl, rfl⟩
    · right
      refine ⟨_, rfl, ⟨hnext, not_lt.mp hpad⟩, ?_⟩
      simp only
      omega

/-- `parse_wav_header_prefix` needs more exactly until the audio begins. -/
theorem parseWavHeaderPrefix_eq (h : StreamableWav audio offset format) {n fuel : ℕ}
    (hn : n ≤ audio.length) (hfuel : kMaxWavHeaderBytes ≤ fuel) :
    parseWavHeaderPrefix (audio.take n) fuel = some (some (prefixResult audio offset format n)) := by
  have hearly := h.early
  have hformat := h.leads.format_le rfl
  have hstart : Scan.start.offset = 12 := rfl
  have htake : (audio.take n).length = n := List.length_take_of_le hn
  by_cases hshort : n < 12
  · rw [parseWavHeaderPrefix, if_pos (by omega), prefixResult, if_pos (by omega)]
  obtain ⟨result, hloop, rfl⟩ := loop_of_measure (fun s : Scan => offset - s.offset) _ _
    (headerTurn_of_leads h hn) ⟨h.leads, not_lt.mp hshort⟩
    (show offset - Scan.start.offset < fuel by omega)
  have hriff := h.isRiff
  simp only [isRiff, Bool.and_eq_true, decide_eq_true_eq] at hriff
  have hmagic : (audio.take n).take 4 = riff := by
    rw [List.take_take, min_eq_left (by omega), hriff.1.2]
  have hwave : ((audio.take n).drop 8).take 4 = wave := by
    rw [List.drop_take, List.take_take, min_eq_left (by omega), hriff.2]
  rw [parseWavHeaderPrefix, if_neg (by omega), if_neg, hloop]
  simp [hmagic, hwave]

/-! ### Writing frames -/

/-- What has come so far: what is written, and what is pending. -/
def PcmStreamWriter.bytes (writer : PcmStreamWriter) : List UInt8 :=
  writer.written.flatten ++ writer.pending

/-- All writes are whole frames, and less than one is pending. -/
structure PcmStreamWriter.Framed (frameBytes : ℕ) (writer : PcmStreamWriter) : Prop where
  pending_lt : writer.pending.length < frameBytes
  written : ∀ bytes ∈ writer.written, frameBytes ∣ bytes.length

variable {frameBytes : ℕ} {writer : PcmStreamWriter}

theorem framed_start (h : 0 < frameBytes) : PcmStreamWriter.start.Framed frameBytes where
  pending_lt := h
  written := fun _ hmem => absurd hmem List.not_mem_nil

/-- Filling the pending frame keeps the bytes in order; either nothing is pending then, or nothing is
left. -/
theorem fillPending_spec (hframed : writer.Framed frameBytes) (data : List UInt8) :
    (fillPending data frameBytes writer).1.bytes ++ (fillPending data frameBytes writer).2 =
        writer.bytes ++ data ∧
      (fillPending data frameBytes writer).1.Framed frameBytes ∧
      ((fillPending data frameBytes writer).1.pending = [] ∨
        (fillPending data frameBytes writer).2 = []) := by
  have hlt := hframed.pending_lt
  unfold fillPending
  by_cases hpending : 0 < writer.pending.length
  · simp only [hpending, if_true]
    have hcopied : (data.take (min (frameBytes - writer.pending.length) data.length)).length =
        min (frameBytes - writer.pending.length) data.length := by
      rw [List.length_take, min_assoc, min_self]
    split_ifs with hfull
    · refine ⟨?_, ⟨by simp; omega, ?_⟩, .inl rfl⟩
      · simp [PcmStreamWriter.bytes]
      · intro bytes hmem
        rcases List.mem_append.mp hmem with hold | hnew
        · exact hframed.written bytes hold
        · obtain rfl := List.mem_singleton.mp hnew
          rw [hfull]
    · rw [List.length_append, hcopied] at hfull
      refine ⟨?_, ⟨?_, hframed.written⟩, .inr ?_⟩
      · simp [PcmStreamWriter.bytes]
      · simp only [List.length_append, hcopied]
        omega
      · apply List.drop_eq_nil_of_le
        omega
  · simp only [hpending, if_false]
    have hnone : writer.pending = [] := List.eq_nil_of_length_eq_zero (by omega)
    exact ⟨trivial, hframed, .inl hnone⟩

/-- Writing whole frames keeps the bytes in order. -/
theorem writeAligned_spec (hframed : writer.Framed frameBytes) {data : List UInt8}
    (hempty : writer.pending = [] ∨ data = []) :
    (writeAligned data frameBytes writer).bytes = writer.bytes ++ data ∧
      (writeAligned data frameBytes writer).Framed frameBytes := by
  have hlt := hframed.pending_lt
  have hdvd : frameBytes ∣ data.length / frameBytes * frameBytes := Dvd.intro_left _ rfl
  have hdivmod := Nat.div_add_mod' data.length frameBytes
  have hmod := Nat.mod_lt data.length (show 0 < frameBytes by omega)
  have hwritten : ∀ bytes ∈ (writeAligned data frameBytes writer).written,
      frameBytes ∣ bytes.length := by
    intro bytes hmem
    simp only [writeAligned] at hmem
    split_ifs at hmem with hsome
    · rcases List.mem_append.mp hmem with hold | hnew
      · exact hframed.written bytes hold
      · obtain rfl := List.mem_singleton.mp hnew
        rwa [List.length_take_of_le (by omega)]
    · exact hframed.written bytes hmem
  have hflatten : (writeAligned data frameBytes writer).written.flatten =
      writer.written.flatten ++ data.take (data.length / frameBytes * frameBytes) := by
    simp only [writeAligned]
    split_ifs with hsome
    · simp
    · rw [Nat.eq_zero_of_not_pos hsome]
      simp
  rcases hempty with hnone | rfl
  · have hpending : (writeAligned data frameBytes writer).pending =
        data.drop (data.length / frameBytes * frameBytes) := by
      simp only [writeAligned]
      split_ifs with hrest
      · rfl
      · rw [hnone, List.drop_eq_nil_of_le (by omega)]
    refine ⟨?_, ?_, hwritten⟩
    · rw [PcmStreamWriter.bytes, hflatten, hpending, PcmStreamWriter.bytes, hnone]
      simp
    · rw [hpending, List.length_drop]
      omega
  · have hpending : (writeAligned [] frameBytes writer).pending = writer.pending := rfl
    refine ⟨?_, ?_, hwritten⟩
    · rw [PcmStreamWriter.bytes, hflatten, hpending, PcmStreamWriter.bytes]
      simp
    · rwa [hpending]

/-- **`write_pcm_frames` keeps the bytes in order**, and writes whole frames. -/
theorem writePcmFrames_spec (hframe : frameBytes ≤ 4) (hframed : writer.Framed frameBytes)
    (data : List UInt8) :
    ∃ after, writePcmFrames data frameBytes writer = some after ∧
      after.bytes = writer.bytes ++ data ∧ after.Framed frameBytes := by
  have hlt := hframed.pending_lt
  obtain ⟨hfilled, hframed', hempty⟩ := fillPending_spec hframed data
  obtain ⟨hbytes, hafter⟩ := writeAligned_spec hframed' hempty
  refine ⟨_, ?_, hbytes.trans hfilled, hafter⟩
  rw [writePcmFrames, if_neg (by omega)]

/-! ### The loops -/

/-- The reads to come: none is an error, and of any `kHttpReadMaxIdleRetries + 1` in a row one gives
something. -/
structure Steady (plan : ℕ → Option ℕ) : Prop where
  noError : ∀ k, plan k ≠ none
  noStall : ∀ k, ∃ j ≤ kHttpReadMaxIdleRetries, plan (k + j) ≠ some 0

/-- After `idleRetries` reads that gave nothing, there will be one in time that does. -/
structure Client.Alive (client : Client) (idleRetries : ℕ) : Prop where
  steady : Steady client.plan
  inTime : ∃ j, idleRetries + j ≤ kHttpReadMaxIdleRetries ∧ client.plan j ≠ some 0

variable {client : Client} {idleRetries : ℕ}

theorem Steady.alive (h : Steady client.plan) : client.Alive 0 := by
  obtain ⟨j, hle, hsome⟩ := h.noStall 0
  rw [Nat.zero_add] at hsome
  exact ⟨h, j, by omega, hsome⟩

theorem Steady.next {plan : ℕ → Option ℕ} (h : Steady plan) : Steady fun k => plan (k + 1) where
  noError := fun k => h.noError (k + 1)
  noStall := by
    intro k
    obtain ⟨j, hle, hsome⟩ := h.noStall (k + 1)
    exact ⟨j, hle, by rwa [Nat.add_right_comm]⟩

/-- A read of a client that is alive, while there is something to come: it gives a beginning of what is to
come, or it gives nothing and there is time for another one. -/
theorem Client.Alive.read (h : client.Alive idleRetries) {requested : ℕ} (hrequested : 0 < requested)
    (hrest : client.rest ≠ []) :
    ∃ data after, client.read requested = some (data, after) ∧ data ++ after.rest = client.rest ∧
      data.length ≤ requested ∧
      (data ≠ [] ∧ after.Alive 0 ∨
        data = [] ∧ idleRetries + 1 ≤ kHttpReadMaxIdleRetries ∧ after.Alive (idleRetries + 1)) := by
  obtain ⟨count, hcount⟩ := Option.ne_none_iff_exists'.mp (h.steady.noError 0)
  refine ⟨client.rest.take (min count requested),
    ⟨client.rest.drop (min count requested), fun k => client.plan (k + 1)⟩, ?_, ?_, ?_, ?_⟩
  · simp only [Client.read, hcount, Option.map_some]
  · exact List.take_append_drop _ _
  · exact (List.length_take_le _ _).trans (min_le_right _ _)
  · have hnext := h.steady.next
    rcases Nat.eq_zero_or_pos count with rfl | hpos
    · right
      obtain ⟨j, hle, hsome⟩ := h.inTime
      cases j with
      | zero => exact absurd hcount hsome
      | succ j => exact ⟨by simp, by omega, hnext, j, by omega, hsome⟩
    · left
      refine ⟨?_, Steady.alive hnext⟩
      rw [ne_eq, List.take_eq_nil_iff]
      rintro (hzero | hnil)
      · omega
      · exact hrest hnil

/-- The loop that reads the header: what is read and what is to come make up the file, and the answer of
the parser is that for what is read. -/
structure HeaderInv (audio : List UInt8) (offset : ℕ) (format : WavFormat) (s : HeaderLoop) : Prop where
  bytes : s.header ++ s.client.rest = audio
  alive : s.client.Alive s.idleRetries
  result : s.result = prefixResult audio offset format s.header.length

/-- How many reads the loop may make: one for each byte, with the idle ones before it. -/
def readsLeft (bytes idleRetries : ℕ) : ℕ :=
  bytes * (kHttpReadMaxIdleRetries + 1) + (kHttpReadMaxIdleRetries - idleRetries)

theorem readsLeft_idle {bytes idleRetries : ℕ} (h : idleRetries + 1 ≤ kHttpReadMaxIdleRetries) :
    readsLeft bytes (idleRetries + 1) < readsLeft bytes idleRetries := by
  unfold readsLeft
  omega

theorem readsLeft_read {bytes before idleRetries : ℕ} (h : bytes < before) :
    readsLeft bytes 0 < readsLeft before idleRetries := by
  have hmul : (bytes + 1) * (kHttpReadMaxIdleRetries + 1) ≤ before * (kHttpReadMaxIdleRetries + 1) :=
    Nat.mul_le_mul_right _ h
  rw [Nat.succ_mul] at hmul
  unfold readsLeft
  omega

/-- A turn of the loop that reads the header. -/
theorem headerLoopTurn_inv (h : StreamableWav audio offset format) {fuel : ℕ}
    (hfuel : kMaxWavHeaderBytes ≤ fuel) (s : HeaderLoop) (hs : HeaderInv audio offset format s) :
    (∃ result, headerLoopTurn fuel s = .done result ∧
      HeaderInv audio offset format result ∧ offset + 8 ≤ result.header.length) ∨
    ∃ t, headerLoopTurn fuel s = .next t ∧ HeaderInv audio offset format t ∧
      readsLeft (offset + 8 - t.header.length) t.idleRetries <
        readsLeft (offset + 8 - s.header.length) s.idleRetries := by
  have hearly := h.early
  have hfits := h.fits
  by_cases hthere : offset + 8 ≤ s.header.length
  · left
    refine ⟨s, if_pos (.inl ?_), hs, hthere⟩
    rw [hs.result, prefixResult, if_neg (not_lt.mpr hthere)]
    exact WavHeaderParseResult.noConfusion
  · right
    have hlength : s.header.length + s.client.rest.length = audio.length := by
      rw [← List.length_append, hs.bytes]
    have hrest : s.client.rest ≠ [] := by
      intro hnil
      rw [hnil, List.length_nil] at hlength
      omega
    have hgoes : ¬ (s.result ≠ .needMore ∨ kMaxWavHeaderBytes ≤ s.header.length) := by
      rw [hs.result, prefixResult, if_pos (not_le.mp hthere)]
      rintro (hother | hfull)
      · exact hother rfl
      · omega
    obtain ⟨data, after, hread, hbytes, -, hcase⟩ :=
      hs.alive.read (show 0 < kHttpReadBufferBytes by decide) hrest
    rcases hcase with ⟨hdata, halive⟩ | ⟨rfl, hidle, halive⟩
    · have hwhole : s.header ++ data ++ after.rest = audio := by
        rw [List.append_assoc, hbytes, hs.bytes]
      have hprefix : s.header ++ data = audio.take (s.header ++ data).length := by
        rw [← hwhole, List.take_left]
      have hle : (s.header ++ data).length ≤ audio.length := by
        have hsum := congrArg List.length hwhole
        rw [List.length_append] at hsum
        omega
      have hparse := parseWavHeaderPrefix_eq h hle hfuel
      rw [← hprefix] at hparse
      refine ⟨⟨after, 0, s.header ++ data, prefixResult audio offset format
        (s.header ++ data).length⟩, ?_, ⟨hwhole, halive, rfl⟩, ?_⟩
      · rw [headerLoopTurn, if_neg hgoes, hread]
        simp only [hdata, if_false, hparse]
      · have hpos := List.length_pos_iff.mpr hdata
        apply readsLeft_read
        simp only [List.length_append]
        omega
    · refine ⟨{ s with client := after, idleRetries := s.idleRetries + 1 }, ?_,
        ⟨?_, halive, hs.result⟩, readsLeft_idle hidle⟩
      · rw [headerLoopTurn, if_neg hgoes, hread]
        simp only [if_true, if_neg (not_lt.mpr hidle)]
      · simp only
        rw [← hs.bytes, ← hbytes, List.nil_append]

/-- The loop that plays: what has come and what is still to come of the audio make it up, in whole
frames. -/
structure BodyInv (pcm : List UInt8) (frameBytes : ℕ) (s : BodyLoop) : Prop where
  played : s.played = true
  bytes : s.writer.bytes ++ s.client.rest.take s.remaining = pcm
  remaining_le : s.remaining ≤ s.client.rest.length
  framed : s.writer.Framed frameBytes
  alive : s.client.Alive s.idleRetries

variable {pcm : List UInt8}

/-- A turn of the loop that plays. -/
theorem bodyLoopTurn_inv (hframe : frameBytes ≤ 4) (s : BodyLoop) (hs : BodyInv pcm frameBytes s) :
    (∃ result, bodyLoopTurn frameBytes s = .done result ∧
      BodyInv pcm frameBytes result ∧ result.remaining = 0) ∨
    ∃ t, bodyLoopTurn frameBytes s = .next t ∧ BodyInv pcm frameBytes t ∧
      readsLeft t.remaining t.idleRetries < readsLeft s.remaining s.idleRetries := by
  have hplayed := hs.played
  have hle := hs.remaining_le
  by_cases hdone : s.remaining = 0
  · left
    exact ⟨s, if_pos (.inr hdone), hs, hdone⟩
  · right
    have hgoes : ¬ (s.played = false ∨ s.remaining = 0) := by simp [hplayed, hdone]
    have hrest : s.client.rest ≠ [] := by
      intro hnil
      rw [hnil, List.length_nil] at hle
      omega
    have hbuffer : kHttpReadBufferBytes = 4096 := rfl
    obtain ⟨data, after, hread, hbytes, hsize, hcase⟩ :=
      hs.alive.read (show 0 < min s.remaining kHttpReadBufferBytes by omega) hrest
    have hlength : data.length + after.rest.length = s.client.rest.length := by
      rw [← List.length_append, hbytes]
    rcases hcase with ⟨hdata, halive⟩ | ⟨rfl, hidle, halive⟩
    · have hpos := List.length_pos_iff.mpr hdata
      obtain ⟨writer, hwrite, hwritten, hframed⟩ := writePcmFrames_spec hframe hs.framed data
      refine ⟨⟨after, 0, s.remaining - data.length, writer, s.played⟩, ?_,
        ⟨hplayed, ?_, ?_, hframed, halive⟩, ?_⟩
      · rw [bodyLoopTurn, if_neg hgoes, hread]
        simp only [hdata, if_false, hwrite]
      · have hcut : s.client.rest.take s.remaining =
            data ++ after.rest.take (s.remaining - data.length) := by
          rw [← hbytes, List.take_append, List.take_of_length_le (by omega)]
        simp only
        rw [hwritten, List.append_assoc, ← hcut, hs.bytes]
      · simp only
        omega
      · apply readsLeft_read
        simp only
        omega
    · have hsame : after.rest = s.client.rest := by rw [← hbytes, List.nil_append]
      refine ⟨{ s with client := after, idleRetries := s.idleRetries + 1 }, ?_,
        ⟨hplayed, ?_, ?_, hs.framed, halive⟩, readsLeft_idle hidle⟩
      · rw [bodyLoopTurn, if_neg hgoes, hread]
        simp only [if_true, if_neg (not_lt.mpr hidle)]
      · simp only
        rw [hsame, hs.bytes]
      · simp only
        rwa [hsame]

/-! ### Both ways of playing -/

theorem flatten_pieces {size : ℕ} (h : 0 < size) (bytes : List UInt8) :
    (pieces size bytes).flatten = bytes := by
  fun_induction pieces size bytes with
  | case1 bytes hend =>
    rcases hend with hzero | rfl
    · omega
    · rfl
  | case2 bytes hgoes ih => rw [List.flatten_cons, ih, List.take_append_drop]

/-- The format of the audio has one or two channels. -/
theorem Leads.channels (h : Leads audio offset format s)
    (hs : s.sawFormat = true → 0 < s.format.channels ∧ s.format.channels ≤ 2) :
    0 < format.channels ∧ format.channels ≤ 2 := by
  induction h with
  | data _ _ hsaw _ hformat =>
    rw [← hformat]
    exact hs hsaw
  | fmt _ _ _ _ hformat _ ih => exact ih fun _ => ⟨hformat.2.1, hformat.2.2.1⟩
  | other _ _ _ _ ih => exact ih hs

/-- The audio. -/
def pcmOf (audio : List UInt8) (offset : ℕ) : List UInt8 :=
  (audio.drop (offset + 8)).take (sizeAt audio offset)

theorem length_pcmOf (h : StreamableWav audio offset format) :
    (pcmOf audio offset).length = sizeAt audio offset := by
  have hfits := h.fits
  rw [pcmOf, List.length_take, List.length_drop]
  omega

/-- `play_wav` plays the audio. -/
theorem playWav_eq (h : StreamableWav audio offset format) (board : Board) {fuel : ℕ}
    (hfuel : kMaxWavHeaderBytes ≤ fuel) :
    playWav board audio fuel = some (some (true, openSpeakerStream board format ++
      (pieces kPlaybackWriteBytes (pcmOf audio offset)).map .wrote)) := by
  rw [playWav, parseWav_eq h hfuel]
  rfl

/-- The audio that came with the header is written, and the rest is still to come. -/
theorem bodyStart_inv (h : StreamableWav audio offset format) {s : HeaderLoop}
    (hs : HeaderInv audio offset format s) (hthere : offset + 8 ≤ s.header.length) :
    BodyInv (pcmOf audio offset) (format.channels * 2)
      (bodyStart s ⟨offset + 8, sizeAt audio offset, format⟩) := by
  have hfits := h.fits
  have hchannels := h.leads.channels fun hsaw => absurd hsaw (by decide)
  have hstart : PcmStreamWriter.start.Framed (format.channels * 2) := framed_start (by omega)
  have hlength : s.header.length + s.client.rest.length = audio.length := by
    rw [← List.length_append, hs.bytes]
  have hpcm : pcmOf audio offset =
      (s.header.drop (offset + 8)).take (sizeAt audio offset) ++
        s.client.rest.take (sizeAt audio offset - (s.header.length - (offset + 8))) := by
    rw [pcmOf, ← hs.bytes, List.drop_append_of_le_length hthere, List.take_append,
      List.length_drop, hs.bytes]
  have hdrop : (s.header.drop (offset + 8)).length = s.header.length - (offset + 8) :=
    List.length_drop
  by_cases hmore : offset + 8 < s.header.length
  · -- the beginning of the audio is in the header
    obtain ⟨writer, hwrite, hwritten, hframed⟩ := writePcmFrames_spec
      (show format.channels * 2 ≤ 4 by omega) hstart
      ((s.header.drop (offset + 8)).take
        (min (sizeAt audio offset) (s.header.length - (offset + 8))))
    have hbody : bodyStart s ⟨offset + 8, sizeAt audio offset, format⟩ =
        { client := s.client
          idleRetries := s.idleRetries
          remaining := sizeAt audio offset -
            min (sizeAt audio offset) (s.header.length - (offset + 8))
          writer
          played := true } := by
      simp only [bodyStart, if_pos hmore, hwrite]
    have hbytes : writer.bytes = (s.header.drop (offset + 8)).take (sizeAt audio offset) := by
      have hcut : (s.header.drop (offset + 8)).take
          (min (sizeAt audio offset) (s.header.length - (offset + 8))) =
            (s.header.drop (offset + 8)).take (sizeAt audio offset) := by
        rw [List.take_eq_take_iff, hdrop, min_assoc, min_self]
      rw [hwritten, hcut]
      rfl
    rw [hbody]
    refine ⟨rfl, ?_, ?_, hframed, hs.alive⟩
    · simp only
      rw [hbytes, hpcm]
      congr 2
      omega
    · simp only
      omega
  · -- the header ends where the audio begins
    have hbody : bodyStart s ⟨offset + 8, sizeAt audio offset, format⟩ =
        { client := s.client
          idleRetries := s.idleRetries
          remaining := sizeAt audio offset
          writer := .start
          played := true } := by
      simp only [bodyStart, if_neg hmore]
    rw [hbody]
    refine ⟨rfl, ?_, ?_, hstart, hs.alive⟩
    · have hnone : s.header.drop (offset + 8) = [] := List.drop_eq_nil_of_le (not_lt.mp hmore)
      simp only
      rw [hpcm, hnone, Nat.sub_eq_zero_of_le (not_lt.mp hmore)]
      simp [PcmStreamWriter.bytes, PcmStreamWriter.start]
    · simp only
      omega

theorem bodyStart_remaining_le (s : HeaderLoop) (info : WavStreamInfo) :
    (bodyStart s info).remaining ≤ info.dataSize := by
  unfold bodyStart
  simp only
  split_ifs
  · split
    · exact Nat.sub_le _ _
    · exact Nat.sub_le _ _
  · exact le_rfl

/-- Whole frames are whole frames together. -/
theorem dvd_length_flatten {n : ℕ} {writes : List (List UInt8)}
    (h : ∀ bytes ∈ writes, n ∣ bytes.length) : n ∣ writes.flatten.length := by
  rw [List.length_flatten]
  apply List.dvd_sum
  intro length hmem
  obtain ⟨bytes, hbytes, rfl⟩ := List.mem_map.mp hmem
  exact h bytes hbytes

/-- When all of the audio has come, it is all written. -/
theorem BodyInv.finish {s : BodyLoop} (hs : BodyInv pcm frameBytes s) (hdone : s.remaining = 0)
    (hframes : frameBytes ∣ pcm.length) (hpos : 0 < pcm.length) :
    s.success = true ∧ s.writer.written.flatten = pcm := by
  have hbytes := hs.bytes
  rw [hdone, List.take_zero, List.append_nil, PcmStreamWriter.bytes] at hbytes
  have hlength : s.writer.written.flatten.length + s.writer.pending.length = pcm.length := by
    rw [← List.length_append, hbytes]
  have hdvd : frameBytes ∣ s.writer.pending.length := by
    rw [← Nat.dvd_add_right (dvd_length_flatten hs.framed.written), hlength]
    exact hframes
  have hnone : s.writer.pending = [] :=
    List.eq_nil_of_length_eq_zero (Nat.eq_zero_of_dvd_of_lt hdvd hs.framed.pending_lt)
  rw [hnone, List.append_nil] at hbytes
  refine ⟨?_, hbytes⟩
  simp [BodyLoop.success, hs.played, hdone, hnone, hbytes, hpos]

/-- **Streaming plays what playing the file does.** -/
theorem stream_plays_as_file (board : Board) (audio : List UInt8) (offset : ℕ) (format : WavFormat)
    (h : StreamableWav audio offset format) (response : Response) (hopens : response.opens = true)
    (hstatus : 200 ≤ response.statusCode ∧ response.statusCode < 300)
    (hrest : response.client.rest = audio) (hsteady : Steady response.client.plan) :
    ∃ (fuel : ℕ) (streamed played : List (List UInt8)),
      streamHttpWav board response fuel =
        some (some (true, openSpeakerStream board format ++ streamed.map .wrote)) ∧
      playWav board audio fuel =
        some (some (true, openSpeakerStream board format ++ played.map .wrote)) ∧
      streamed.flatten = played.flatten ∧
      ∀ bytes ∈ streamed, format.channels * 2 ∣ bytes.length := by
  have hearly := h.early
  have hfits := h.fits
  have hchannels := h.leads.channels fun hsaw => absurd hsaw (by decide)
  have hpcm := length_pcmOf h
  have hsize := h.size_pos
  let fuel := kMaxWavHeaderBytes + readsLeft audio.length 0 + 1
  have hle : ∀ bytes, bytes ≤ audio.length → ∀ idle, readsLeft bytes idle < fuel := by
    intro bytes hbytes idle
    have := Nat.mul_le_mul_right (kHttpReadMaxIdleRetries + 1) hbytes
    simp only [fuel, readsLeft]
    omega
  have hmax : kMaxWavHeaderBytes ≤ fuel := by
    simp only [fuel]
    omega
  -- the header
  have hstart : HeaderInv audio offset format ⟨response.client, 0, [], .needMore⟩ :=
    ⟨hrest, hsteady.alive, (if_pos (Nat.succ_pos _)).symm⟩
  obtain ⟨s, hheader, hs, hthere⟩ := loop_of_measure
    (fun s : HeaderLoop => readsLeft (offset + 8 - s.header.length) s.idleRetries) _ _
    (headerLoopTurn_inv h hmax) hstart (hle _ (by simp only [List.length_nil]; omega) 0)
  have hready : s.result = .ready ⟨offset + 8, sizeAt audio offset, format⟩ := by
    rw [hs.result, prefixResult, if_neg (not_lt.mpr hthere)]
  -- the audio
  have hbodyStart := bodyStart_inv h hs hthere
  have hremaining := bodyStart_remaining_le s ⟨offset + 8, sizeAt audio offset, format⟩
  simp only at hremaining
  obtain ⟨body, hbody, hinv, hdone⟩ := loop_of_measure
    (fun s : BodyLoop => readsLeft s.remaining s.idleRetries) _ _
    (bodyLoopTurn_inv (show format.channels * 2 ≤ 4 by omega)) hbodyStart
    (hle _ (by omega) _)
  obtain ⟨hsuccess, hflatten⟩ := hinv.finish hdone (hpcm ▸ h.frames) (hpcm ▸ hsize)
  refine ⟨fuel, body.writer.written, pieces kPlaybackWriteBytes (pcmOf audio offset), ?_,
    playWav_eq h board hmax, ?_, hinv.framed.written⟩
  · rw [streamHttpWav, if_neg, hheader]
    · simp only [hready, hbody, hsuccess]
    · rw [hopens]
      rintro (hfalse | hlow | hhigh)
      · cases hfalse
      · omega
      · omega
  · rw [hflatten, flatten_pieces (by decide)]

/-- A board that writes no silence. -/
def espBox : Board := ⟨false⟩

/-- A download in single bytes, with an idle read after each. -/
def byByte : Client := ⟨oneSample, fun k => some (1 - k % 2)⟩

/-- The same in one read. -/
def atOnce (bytes : List UInt8) : Client := ⟨bytes, fun _ => some 4096⟩

theorem streamableWav_oneSample : StreamableWav oneSample 36 ⟨1, 16000, 16⟩ where
  length_lt := by decide
  isRiff := by decide
  leads := by
    refine @Leads.fmt _ _ _ _ (fmt ++ [16, 0, 0, 0])
      [1, 0, 1, 0, 128, 62, 0, 0, 0, 125, 0, 0, 2, 0, 16, 0] (by decide) (by decide) (by decide)
      (by decide) (by decide) ?_
    exact @Leads.data _ _ _ _ (dataId ++ [2, 0, 0, 0]) (by decide) (by decide) rfl rfl (by decide)
  early := by decide
  size_pos := by decide
  frames := by decide
  fits := by decide

theorem steady_byByte : Steady byByte.plan where
  noError := by
    intro k
    exact Option.some_ne_none _
  noStall := by
    intro k
    refine ⟨k % 2, ?_, ?_⟩
    · rw [kHttpReadMaxIdleRetries]
      omega
    · simp only [byByte]
      intro hzero
      have := Option.some.inj hzero
      omega

theorem oneSample_streamed_byByte :
    ∃ (fuel : ℕ) (streamed played : List (List UInt8)),
      streamHttpWav espBox ⟨true, 200, byByte⟩ fuel =
        some (some (true, openSpeakerStream espBox ⟨1, 16000, 16⟩ ++ streamed.map .wrote)) ∧
      playWav espBox oneSample fuel =
        some (some (true, openSpeakerStream espBox ⟨1, 16000, 16⟩ ++ played.map .wrote)) ∧
      streamed.flatten = played.flatten ∧ ∀ bytes ∈ streamed, 1 * 2 ∣ bytes.length :=
  stream_plays_as_file espBox oneSample 36 ⟨1, 16000, 16⟩ streamableWav_oneSample
    ⟨true, 200, byByte⟩ rfl (by decide) rfl steady_byByte

/-- A file with a second format chunk, which is empty. -/
def secondFormat : List UInt8 :=
  riff ++ [46, 0, 0, 0] ++ wave ++ fmt ++ [16, 0, 0, 0] ++
    [1, 0, 1, 0, 128, 62, 0, 0, 0, 125, 0, 0, 2, 0, 16, 0] ++ fmt ++ [0, 0, 0, 0] ++
      dataId ++ [2, 0, 0, 0] ++ [1, 0]

/-- The file is played, and the stream is not. -/
theorem secondFormat_not_streamed :
    playWav espBox secondFormat 5 =
        some (some (true, [.opened ⟨1, 16000, 16⟩, .wrote [1, 0]])) ∧
      streamHttpWav espBox ⟨true, 200, atOnce secondFormat⟩ 5 = some (some (false, [])) := by
  have hparse : parseWav secondFormat 5 = some (some (some ⟨52, 2, ⟨1, 16000, 16⟩⟩)) := by decide
  constructor
  · rw [playWav, hparse]
    simp [openSpeakerStream, espBox, secondFormat, riff, wave, fmt, dataId, pieces,
      kPlaybackWriteBytes]
  · decide

end HexeVoice.Firmware.WavStream
