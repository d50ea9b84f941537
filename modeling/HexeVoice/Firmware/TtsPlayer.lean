import HexeVoice.Library.CString
import HexeVoice.Library.Machine
import Mathlib

/-!
# The TTS player

How `handle_tts_ready`, `play_sd_sound`, `stop_playback` and `playback_task` of `voice/tts_player.cpp`
share the playback queue, the stop flag and the speaker.

## The model

Anybody may call the first three, at any time, and the task goes on alone. A step is one operation on
the queue, on the flag or on the speaker, or one answer that the task waits for. What the task meets at
a step (the mute switch, what the network, a file and the parsers of WAV headers give, how writes end)
is the input of the step. Audio is the sizes of its parts. Requests are numbered as they are queued, and
every write is noted under the number of its request; the code looks at neither.

## What is proved

**`stop_takes_effect`**: in a run whose steps all meet `Heeded`, each stop is followed by at most one
write for the requests that were queued before it, and the task is done with them after seven more of
its steps.
-/

namespace HexeVoice.Firmware.TtsPlayer

open HexeVoice.Library

/-! ### Requests -/

def kPlaybackQueueDepth : ℕ := 2

structure PlaybackRequest where
  streamId : CBuffer 64
  contentType : CBuffer 32
  audioUrl : CBuffer 192
  filePath : CBuffer 256
  loop : Bool
  keepMicrophoneOpen : Bool
  deriving DecidableEq

def copyField (size : ℕ) (h : 0 < size) (source : Option CString) : CBuffer size :=
  .copy size h (source.getD .empty)

/-- The request of `handle_tts_ready`, where it makes one. -/
def ttsRequest (muted : Bool) (streamId contentType audioUrl : Option CString)
    (loop keepMicrophoneOpen : Bool) : Option PlaybackRequest :=
  if muted then none
  else if audioUrl.getD .empty = .empty then none
  else some
    { streamId := copyField 64 pos64 streamId
      contentType := copyField 32 pos32 contentType
      audioUrl := copyField 192 pos192 audioUrl
      filePath := copyField 256 pos256 none
      loop, keepMicrophoneOpen }

/-- A character of a file name, and the one after it. -/
def safeCharacters : List UInt8 → Bool
  | [] => true
  | c :: cs => c ≠ 47 && c ≠ 92 && c ≥ 32 && !(c = 46 && cs.head? = some 46) && safeCharacters cs

def isSafeSoundFilename (filename : Option CString) : Bool :=
  match filename with
  | none => false
  | some name =>
    name ≠ .empty && name.bytes.head? ≠ some 46 && name.length < 120 && safeCharacters name.bytes

/-- `"%s/%s"`. -/
def joinPath (directory filename : CString) : CString where
  bytes := directory.bytes ++ 47 :: filename.bytes
  zero_notMem := by simp [directory.zero_notMem, filename.zero_notMem]

/-- The request of `play_sd_sound`, where it makes one. -/
def sdSoundRequest (muted mounted : Bool) (soundsPath : CString) (filename : Option CString) :
    Option PlaybackRequest :=
  if muted then none
  else if !mounted || !isSafeSoundFilename filename then none
  else
    (CBuffer.ofText 256 (joinPath soundsPath (filename.getD .empty))).map fun filePath =>
      { streamId := copyField 64 pos64 filename
        contentType := copyField 32 pos32 (some (.ofAscii "audio/wav"))
        audioUrl := copyField 192 pos192 none
        filePath
        loop := false
        keepMicrophoneOpen := false }

/-! ### Audio -/

/-- The limit of `idle_retries`. -/
def kHttpReadMaxIdleRetries : ℕ := 50

def kHttpReadBufferBytes : ℕ := 4096

def kPlaybackWriteBytes : ℕ := 4096

def kSpeakerPrimeMs : ℕ := 30

/-- What a WAV header says. -/
structure WavStreamInfo where
  dataSize : ℕ
  sampleRate : ℕ
  channels : ℕ
  deriving DecidableEq

/-- The boards differ in whether `open_speaker_stream` writes silence first. -/
structure Board where
  primesSpeaker : Bool

/-- The writes of silence in `open_speaker_stream`, of 512 bytes each. -/
def primeWrites (board : Board) (info : WavStreamInfo) : ℕ :=
  if board.primesSpeaker then
    (info.sampleRate * info.channels * 2 * kSpeakerPrimeMs % 2 ^ 32 / 1000 + 511) / 512
  else 0

/-- The writes of `write_pcm_frames`, and the bytes that are pending after them; `none` where the frame
does not fit. -/
def writePcmFrames (frameBytes pendingSize size : ℕ) : Option (List ℕ × ℕ) :=
  if frameBytes = 0 ∨ 4 < frameBytes then none
  else
    let copied := if pendingSize > 0 then min (frameBytes - pendingSize) size else 0
    let completes := pendingSize > 0 ∧ pendingSize + copied = frameBytes
    let alignedSize := (size - copied) / frameBytes * frameBytes
    let rest := size - copied - alignedSize
    some
      ((if completes then [frameBytes] else []) ++ (if alignedSize > 0 then [alignedSize] else []),
        if rest > 0 then rest else if completes then 0 else pendingSize + copied)

/-! ### Where the task stands -/

/-- What a WAV is played from. -/
inductive Source where
  /-- A download; `available` bytes of the audio came with the header. -/
  | stream (info : WavStreamInfo) (available : ℕ)
  /-- A file that is read already. -/
  | file (info : WavStreamInfo)
  deriving DecidableEq

/-- The format that the speaker is opened with. -/
def Source.info : Source → WavStreamInfo
  | .stream info _ | .file info => info

/-- The variables of the loop of `stream_http_wav`, and its `PcmStreamWriter`. -/
structure Stream where
  frameBytes : ℕ
  remaining : ℕ
  pendingSize : ℕ
  idleRetries : ℕ
  sourceBytesWritten : ℕ
  deriving DecidableEq

/-- Where `playback_task` stands while it has a request in hand. -/
inductive Place where
  /-- Before `g_stop_requested = false`. -/
  | received
  /-- Before the check of `muted`. -/
  | accepted
  /-- `stream_http_wav` up to the status code. -/
  | connecting
  /-- The condition of the loop that reads the header. -/
  | headerCheck (idleRetries : ℕ)
  | headerRead (idleRetries : ℕ)
  /-- `open_speaker_stream`. -/
  | opening (source : Source)
  /-- A write of silence, and how many come after it. -/
  | priming (source : Source) (left : ℕ)
  /-- The condition of the loop of `stream_http_wav`. -/
  | streamCheck (stream : Stream)
  | streamRead (stream : Stream)
  /-- A write of `write_pcm_frames`, and those that come after it. -/
  | streamWrite (stream : Stream) (write : ℕ) (writes : List ℕ)
  /-- The end of `stream_http_wav`. -/
  | streamEnd (stream : Stream) (played : Bool)
  /-- `read_audio_file` and `parse_wav`. -/
  | loading
  /-- The condition of the loop of `play_wav`. -/
  | fileCheck (info : WavStreamInfo) (offset : ℕ)
  | fileWrite (info : WavStreamInfo) (offset : ℕ)
  /-- The end of `play_wav`. -/
  | fileEnd (info : WavStreamInfo) (ok : Bool)
  /-- The condition of the loop over a request; a file is played again from what was read. -/
  | again (file : Option WavStreamInfo) (played : Bool)
  deriving DecidableEq

/-- What reading a header gives. -/
inductive HeaderRead where
  | failed
  | nothing
  /-- The header needs more, and there is room for more. -/
  | part
  | unsupported
  | ready (info : WavStreamInfo) (available : ℕ)

/-- What the task meets at a step. -/
structure Met where
  muted : Bool := false
  /-- The connection, the opening of the speaker or the write succeeds. -/
  ok : Bool := true
  /-- `esp_http_client_read`; `none` is an error. -/
  read : Option ℕ := none
  header : HeaderRead := .failed
  /-- What a file holds, if it can be read, and is a WAV that can be played. -/
  file : Option (Option WavStreamInfo) := none

/-- `write_pcm_frames`, up to its first write. -/
def writing (stream : Stream) (size : ℕ) : Place :=
  match writePcmFrames stream.frameBytes stream.pendingSize size with
  | none => .streamEnd stream false
  | some ([], pendingSize) =>
    .streamCheck { stream with pendingSize, remaining := stream.remaining - size }
  | some (write :: writes, pendingSize) =>
    .streamWrite { stream with pendingSize, remaining := stream.remaining - size } write writes

/-- The speaker is open. -/
def opened : Source → Place
  | .stream info available =>
    let stream : Stream :=
      { frameBytes := info.channels * 2
        remaining := info.dataSize
        pendingSize := 0
        idleRetries := 0
        sourceBytesWritten := 0 }
    if available > 0 then writing stream (min info.dataSize available) else .streamCheck stream
  | .file info => .fileCheck info 0

/-- A file, or a download. -/
def Source.file? : Source → Option WavStreamInfo
  | .stream _ _ => none
  | .file info => some info

/-- The bytes of the buffer that a read fills. -/
def Stream.readSize (stream : Stream) (read : ℕ) : ℕ :=
  min read (min stream.remaining kHttpReadBufferBytes)

/-- `playback_task`, from one place to the next; `none` when it is done with the request. -/
def advance (board : Board) (stopRequested : Bool) (request : PlaybackRequest) (met : Met) :
    Place → Option Place
  | .received => some .accepted
  | .accepted =>
    if met.muted then none
    else if request.filePath.text = .empty then some .connecting
    else some .loading
  | .connecting => if met.ok then some (.headerCheck 0) else some (.again none false)
  | .headerCheck idleRetries =>
    if stopRequested then some (.again none false) else some (.headerRead idleRetries)
  | .headerRead idleRetries =>
    match met.header with
    | .failed | .unsupported => some (.again none false)
    | .nothing =>
      if idleRetries + 1 > kHttpReadMaxIdleRetries then some (.again none false)
      else some (.headerCheck (idleRetries + 1))
    | .part => some (.headerCheck 0)
    | .ready info available => some (.opening (.stream info available))
  | .opening source =>
    if met.ok then
      match primeWrites board source.info with
      | 0 => some (opened source)
      | left + 1 => some (.priming source left)
    else some (.again source.file? false)
  | .priming source left =>
    if met.ok then
      match left with
      | 0 => some (opened source)
      | left + 1 => some (.priming source left)
    else some (.again source.file? false)
  | .streamCheck stream =>
    if stream.remaining > 0 && !stopRequested then some (.streamRead stream)
    else some (.streamEnd stream true)
  | .streamRead stream =>
    match met.read with
    | none => some (.streamEnd stream false)
    | some read =>
      if stream.readSize read = 0 then
        if stream.idleRetries + 1 > kHttpReadMaxIdleRetries then some (.streamEnd stream false)
        else some (.streamCheck { stream with idleRetries := stream.idleRetries + 1 })
      else some (writing { stream with idleRetries := 0 } (stream.readSize read))
  | .streamWrite stream write writes =>
    if met.ok then
      let stream := { stream with sourceBytesWritten := stream.sourceBytesWritten + write }
      match writes with
      | [] => some (.streamCheck stream)
      | write :: writes => some (.streamWrite stream write writes)
    else some (.streamEnd stream false)
  | .streamEnd stream played =>
    if !played || stream.remaining ≠ 0 || stream.pendingSize ≠ 0 || stopRequested then
      some (.again none false)
    else some (.again none (stream.sourceBytesWritten > 0))
  | .loading =>
    match met.file with
    | none => none
    | some none => some (.again none false)
    | some (some info) => some (.opening (.file info))
  | .fileCheck info offset =>
    if offset < info.dataSize && !stopRequested then some (.fileWrite info offset)
    else some (.fileEnd info true)
  | .fileWrite info offset =>
    if met.ok then
      some (.fileCheck info (offset + min (info.dataSize - offset) kPlaybackWriteBytes))
    else some (.fileEnd info false)
  | .fileEnd info ok => some (.again (some info) (ok && !stopRequested))
  | .again file played =>
    if request.loop && played && !stopRequested && !met.muted then
      match file with
      | none => some .connecting
      | some info => some (.opening (.file info))
    else none

/-- The step is a write to the speaker. -/
def Place.isWrite : Place → Bool
  | .priming _ _ | .streamWrite _ _ _ | .fileWrite _ _ => true
  | _ => false

/-! ### The system -/

/-- A request and its number. -/
structure Job where
  id : ℕ
  request : PlaybackRequest

/-- The queue, the flag, the task, and what happened so far. -/
structure State where
  queue : List Job
  stopRequested : Bool
  task : Option (Job × Place)
  /-- How many requests were queued. -/
  sent : ℕ
  /-- The requests of the writes. -/
  written : List ℕ

/-- The device as it starts. -/
def State.start : State where
  queue := []
  stopRequested := false
  task := none
  sent := 0
  written := []

inductive Event where
  | handleTtsReady (muted : Bool) (streamId contentType audioUrl : Option CString)
      (loop keepMicrophoneOpen : Bool)
  | playSdSound (muted mounted : Bool) (soundsPath : CString) (filename : Option CString)
  | stopPlayback
  | task (met : Met)

/-- `xQueueSend`. -/
def enqueue (s : State) : Option PlaybackRequest → State
  | none => s
  | some request =>
    if s.queue.length < kPlaybackQueueDepth then
      { s with queue := s.queue ++ [⟨s.sent, request⟩], sent := s.sent + 1 }
    else s

def stopPlayback (s : State) : State := { s with stopRequested := true }

/-- `playback_task`. -/
def taskStep (board : Board) (s : State) (met : Met) : State :=
  match s.task with
  | none =>
    match s.queue with
    | [] => s
    | job :: queue => { s with queue, task := some (job, .received) }
  | some (job, place) =>
    { s with
      stopRequested := if place matches .received then false else s.stopRequested
      task := (advance board s.stopRequested job.request met place).map (job, ·)
      written := if place.isWrite then s.written ++ [job.id] else s.written }

/-- One step. -/
def step (board : Board) (s : State) : Event → State
  | .handleTtsReady muted streamId contentType audioUrl loop keepMicrophoneOpen =>
    enqueue s (ttsRequest muted streamId contentType audioUrl loop keepMicrophoneOpen)
  | .playSdSound muted mounted soundsPath filename =>
    enqueue s (sdSoundRequest muted mounted soundsPath filename)
  | .stopPlayback => stopPlayback s
  | .task met => taskStep board s met

/-! ### Stops that are heeded -/

/-- The writes that follow before the flag is looked at, once the speaker is open. -/
def Place.pending : Place → ℕ
  | .streamWrite _ _ writes => writes.length + 1
  | .fileWrite _ _ => 1
  | _ => 0

/-- The writes that follow before the flag is looked at. -/
def Place.committed : Place → ℕ
  | .priming source left => left + 1 + (opened source).pending
  | place => place.pending

/-- The writes that a step commits the task to, which it has looked at the flag for already. -/
def Place.commits (board : Board) (met : Met) : Place → ℕ
  | .opening source =>
    if met.ok then primeWrites board source.info + (opened source).pending else 0
  | .streamRead stream =>
    (met.read.map fun read =>
      (writing { stream with idleRetries := 0 } (stream.readSize read)).pending).getD 0
  | _ => 0

/-- A stop finds the queue empty, no request just received, and no more than one write that follows
before the flag is looked at; and where it comes between a look at the flag and the writes, no more
than one of them follows. -/
def Heeded (board : Board) (s : State) : Event → Prop
  | .handleTtsReady .. | .playSdSound .. => True
  | .stopPlayback => s.queue = [] ∧ ∀ t ∈ s.task, t.2 ≠ .received ∧ t.2.committed ≤ 1
  | .task met => s.stopRequested = true → ∀ t ∈ s.task, t.2.commits board met ≤ 1

instance (board : Board) (s : State) : DecidablePred (Heeded board s)
  | .handleTtsReady .. | .playSdSound .. => .isTrue trivial
  | .stopPlayback =>
    inferInstanceAs (Decidable (s.queue = [] ∧ ∀ t ∈ s.task, t.2 ≠ .received ∧ t.2.committed ≤ 1))
  | .task met =>
    inferInstanceAs (Decidable (s.stopRequested = true → ∀ t ∈ s.task, t.2.commits board met ≤ 1))

/-- The writes for the first `n` requests. -/
def oldWrites (n : ℕ) (s : State) : ℕ := s.written.countP (· < n)

/-- How often the task goes on. -/
def taskSteps (events : List Event) : ℕ := events.countP (· matches .task _)

/-! ### A task that is stopped -/

/-- The most writes that follow while the stop is requested. -/
def Place.quota : Place → ℕ
  | .received | .accepted | .headerRead _ | .opening _ | .streamRead _ | .loading => 1
  | place => place.committed

/-- The most steps that follow while the stop is requested. -/
def Place.lasts : Place → ℕ
  | .received => 8
  | .accepted => 7
  | .headerRead _ | .loading => 6
  | .opening _ | .streamRead _ => 5
  | .connecting => 3
  | .headerCheck _ | .streamEnd _ _ | .fileEnd _ _ => 2
  | .again _ _ => 1
  | place => place.committed + 3

/-- Only the writes that are under way are left, and the check of the flag after them. -/
structure Place.Ending (place : Place) : Prop where
  ne_received : place ≠ .received
  quota_eq : place.quota = place.pending
  lasts_le : place.lasts ≤ place.pending + 3

theorem ending_writing (stream : Stream) (size : ℕ) : (writing stream size).Ending := by
  fun_cases writing stream size
  all_goals constructor <;> simp [Place.quota, Place.lasts, Place.committed, Place.pending]

theorem ending_opened (source : Source) : (opened source).Ending := by
  fun_cases opened source
  case case1 => exact ending_writing _ _
  all_goals constructor <;> simp [Place.quota, Place.lasts, Place.committed, Place.pending]

theorem few_left (place : Place) (h : place.committed ≤ 1) (hplace : place ≠ .received) :
    place.quota ≤ 1 ∧ place.lasts ≤ 7 := by
  cases place
  all_goals simp_all [Place.quota, Place.lasts, Place.committed, Place.pending]
  all_goals omega

theorem one_le_lasts (place : Place) : 1 ≤ place.lasts := by
  cases place <;> simp [Place.lasts]

theorem isWrite_le_quota (place : Place) : (if place.isWrite then 1 else 0) ≤ place.quota := by
  cases place with
  | priming source left =>
    simp only [Place.isWrite, if_true, Place.quota, Place.committed]
    omega
  | streamWrite | fileWrite => simp [Place.isWrite, Place.quota, Place.committed, Place.pending]
  | _ => simp [Place.isWrite]

theorem Place.Ending.goes_on {next : Place} (h : next.Ending) {writes quota lasts : ℕ}
    (hquota : writes + next.pending ≤ quota) (hlasts : next.pending + 3 < lasts) :
    next ≠ .received ∧ writes + next.quota ≤ quota ∧ next.lasts < lasts :=
  ⟨h.ne_received, h.quota_eq ▸ hquota, h.lasts_le.trans_lt hlasts⟩

theorem priming_goes_on (source : Source) (left : ℕ) {writes quota lasts : ℕ}
    (hquota : writes + (left + 1 + (opened source).pending) ≤ quota)
    (hlasts : left + 1 + (opened source).pending + 3 < lasts) :
    Place.priming source left ≠ .received ∧ writes + (Place.priming source left).quota ≤ quota ∧
      (Place.priming source left).lasts < lasts :=
  ⟨nofun, hquota, hlasts⟩

/-- **A stopped task goes on to its end**: every step leaves fewer steps, and a write fewer writes. -/
theorem advance_stopped {board : Board} {request : PlaybackRequest} {met : Met} {place next : Place}
    (hplace : place ≠ .received) (hsees : place.commits board met ≤ 1)
    (hnext : advance board true request met place = some next) :
    next ≠ .received ∧ (if place.isWrite then 1 else 0) + next.quota ≤ place.quota ∧
      next.lasts < place.lasts := by
  cases place with
  | received => exact absurd rfl hplace
  | accepted | connecting | headerCheck | headerRead | loading | fileCheck | fileWrite | fileEnd
  | again | streamCheck | streamEnd =>
    simp only [advance] at hnext
    grind [Place.isWrite, Place.quota, Place.lasts, Place.committed, Place.pending]
  | opening source =>
    simp only [advance] at hnext
    by_cases hok : met.ok = true
    · simp only [Place.commits, hok, if_true] at hsees
      rw [if_pos hok] at hnext
      cases hprime : primeWrites board source.info with
      | zero =>
        simp only [hprime, Option.some.injEq] at hnext hsees
        subst hnext
        apply (ending_opened source).goes_on
        · simp only [Place.isWrite, Place.quota, Bool.false_eq_true, if_false]
          exact hsees
        · simp only [Place.lasts]
          omega
      | succ left =>
        simp only [hprime, Option.some.injEq] at hnext hsees
        subst hnext
        apply priming_goes_on
        · simp only [Place.isWrite, Place.quota, Bool.false_eq_true, if_false]
          omega
        · simp only [Place.lasts]
          omega
    · rw [if_neg hok, Option.some.injEq] at hnext
      subst hnext
      simp [Place.isWrite, Place.quota, Place.lasts, Place.committed, Place.pending]
  | priming source left =>
    simp only [advance] at hnext
    by_cases hok : met.ok = true
    · rw [if_pos hok] at hnext
      cases left with
      | zero =>
        rw [Option.some.injEq] at hnext
        subst hnext
        apply (ending_opened source).goes_on
        · simp only [Place.isWrite, if_true, Place.quota, Place.committed]
          omega
        · simp only [Place.lasts, Place.committed]
          omega
      | succ left =>
        rw [Option.some.injEq] at hnext
        subst hnext
        apply priming_goes_on
        · simp only [Place.isWrite, if_true, Place.quota, Place.committed]
          omega
        · simp only [Place.lasts, Place.committed]
          omega
    · rw [if_neg hok, Option.some.injEq] at hnext
      subst hnext
      refine ⟨nofun, ?_, ?_⟩
      · exact (isWrite_le_quota (.priming source left)).trans_eq (by rfl)
      · simp only [Place.lasts]
        omega
  | streamRead stream =>
    simp only [advance] at hnext
    cases hread : met.read with
    | none =>
      simp only [hread, Option.some.injEq] at hnext
      subst hnext
      simp [Place.isWrite, Place.quota, Place.lasts, Place.committed, Place.pending]
    | some read =>
      simp only [Place.commits, hread, Option.map_some, Option.getD_some] at hsees
      simp only [hread] at hnext
      by_cases hnothing : stream.readSize read = 0
      · rw [if_pos hnothing] at hnext
        split_ifs at hnext <;>
          grind [Place.isWrite, Place.quota, Place.lasts, Place.committed, Place.pending]
      · rw [if_neg hnothing, Option.some.injEq] at hnext
        subst hnext
        apply (ending_writing _ _).goes_on
        · simp only [Place.isWrite, Place.quota, Bool.false_eq_true, if_false]
          omega
        · simp only [Place.lasts]
          omega
  | streamWrite stream write writes =>
    simp only [advance] at hnext
    cases writes <;>
      grind [Place.isWrite, Place.quota, Place.lasts, Place.committed, Place.pending]

/-! ### Runs after a stop -/

/-- After a stop with `n` requests and `b` writes for them: no more than one write for them follows,
and none of them is received any more. -/
structure Stopped (n b : ℕ) (s : State) : Prop where
  sent : n ≤ s.sent
  queue : ∀ job ∈ s.queue, n ≤ job.id
  bound : oldWrites n s ≤ b + 1
  hand : ∀ job place, s.task = some (job, place) → job.id < n →
    s.stopRequested = true ∧ place ≠ .received ∧ oldWrites n s + place.quota ≤ b + 1

/-- The task has a request in hand that was queued before the stop. -/
def InHand (n : ℕ) (s : State) : Prop := ∃ job place, s.task = some (job, place) ∧ job.id < n

/-- The most steps that the task still takes for the request in hand, if it is stopped. -/
def left (s : State) : ℕ := (s.task.map fun t => t.2.lasts).getD 0

section stopped

variable {board : Board} {n b : ℕ} {s : State}

@[simp] theorem enqueue_task (s : State) (request : Option PlaybackRequest) :
    (enqueue s request).task = s.task := by
  fun_cases enqueue s request <;> rfl

/-- What is queued after the stop is new. -/
theorem stopped_enqueue (hs : Stopped n b s) (request : Option PlaybackRequest) :
    Stopped n b (enqueue s request) := by
  fun_cases enqueue s request
  case case2 request hroom =>
    refine ⟨Nat.le_succ_of_le hs.sent, ?_, hs.bound, hs.hand⟩
    intro job hjob
    rw [List.mem_append, List.mem_singleton] at hjob
    obtain hjob | rfl := hjob
    · exact hs.queue job hjob
    · exact hs.sent
  all_goals exact hs

/-- A write counts if it is one for a request from before the stop. -/
theorem oldWrites_task {job : Job} {place : Place} (htask : s.task = some (job, place)) (met : Met) :
    oldWrites n (taskStep board s met) =
      oldWrites n s + if place.isWrite ∧ job.id < n then 1 else 0 := by
  simp only [taskStep, htask, oldWrites]
  by_cases hwrite : place.isWrite = true
  · simp [hwrite, List.countP_append, List.countP_singleton]
  · simp [hwrite]

theorem stopped_task (hs : Stopped n b s) {met : Met} (hok : Heeded board s (.task met)) :
    Stopped n b (taskStep board s met) := by
  cases htask : s.task with
  | none =>
    cases hqueue : s.queue with
    | nil => simpa [taskStep, htask, hqueue] using hs
    | cons job queue =>
      have hnew : n ≤ job.id := hs.queue job (by simp [hqueue])
      simp only [taskStep, htask, hqueue]
      refine ⟨hs.sent, fun other hother => hs.queue other (by simp [hqueue, hother]), hs.bound, ?_⟩
      rintro job' place heq hold
      cases heq
      omega
  | some hand =>
    obtain ⟨job, place⟩ := hand
    have hwrites : oldWrites n (taskStep board s met) = _ := oldWrites_task htask met
    by_cases hold : job.id < n
    · obtain ⟨hstop, hplace, hquota⟩ := hs.hand job place htask hold
      have hsees : place.commits board met ≤ 1 := hok hstop _ htask
      have hwrite := isWrite_le_quota place
      simp only [hold, and_true] at hwrites
      refine ⟨?_, ?_, by omega, ?_⟩
      · simpa [taskStep, htask] using hs.sent
      · simpa [taskStep, htask] using hs.queue
      · intro job' next hnext hold'
        simp only [taskStep, htask, Option.map_eq_some_iff, Prod.mk.injEq] at hnext
        obtain ⟨next, hadvance, rfl, rfl⟩ := hnext
        rw [hstop] at hadvance
        obtain ⟨hne, hless, -⟩ := advance_stopped hplace hsees hadvance
        refine ⟨?_, hne, by omega⟩
        simpa [taskStep, htask, hplace] using hstop
    · simp only [hold, and_false, if_false] at hwrites
      refine ⟨?_, ?_, by have := hs.bound; omega, ?_⟩
      · simpa [taskStep, htask] using hs.sent
      · simpa [taskStep, htask] using hs.queue
      · intro job' next hnext hold'
        simp only [taskStep, htask, Option.map_eq_some_iff, Prod.mk.injEq] at hnext
        obtain ⟨next, -, rfl, rfl⟩ := hnext
        exact absurd hold' hold

/-- **The step lemma.** -/
theorem stopped_step (hs : Stopped n b s) {event : Event} (hok : Heeded board s event) :
    Stopped n b (step board s event) := by
  cases event with
  | handleTtsReady => exact stopped_enqueue hs _
  | playSdSound => exact stopped_enqueue hs _
  | stopPlayback =>
    refine ⟨hs.sent, hs.queue, hs.bound, fun job place htask hold => ?_⟩
    obtain ⟨-, hplace, hquota⟩ := hs.hand job place htask hold
    exact ⟨rfl, hplace, hquota⟩
  | task met => exact stopped_task hs hok

/-- A stop that is heeded. -/
theorem stopped_of_stop (hok : Heeded board s .stopPlayback) :
    Stopped s.sent (oldWrites s.sent s) (stopPlayback s) := by
  obtain ⟨hqueue, hplace⟩ := hok
  refine ⟨le_rfl, by simp [stopPlayback, hqueue], Nat.le_succ _, fun job place htask _ => ?_⟩
  obtain ⟨hne, hfew⟩ := hplace _ htask
  refine ⟨rfl, hne, ?_⟩
  exact Nat.add_le_add_left (few_left place hfew hne).1 _

/-- A request from before the stop stays in hand for fewer and fewer steps. -/
theorem left_step (hs : Stopped n b s) {event : Event} (hok : Heeded board s event)
    (hafter : InHand n (step board s event)) :
    InHand n s ∧ left (step board s event) + taskSteps [event] ≤ left s := by
  obtain ⟨job, next, hnext, hold⟩ := hafter
  cases event with
  | handleTtsReady | playSdSound =>
    simp only [step, enqueue_task] at hnext
    exact ⟨⟨job, next, hnext, hold⟩, by simp [left, step, taskSteps]⟩
  | stopPlayback => exact ⟨⟨job, next, hnext, hold⟩, by simp [left, step, stopPlayback, taskSteps]⟩
  | task met =>
    cases htask : s.task with
    | none =>
      cases hqueue : s.queue with
      | nil => simp [step, taskStep, htask, hqueue] at hnext
      | cons first queue =>
        have hnew : n ≤ first.id := hs.queue first (by simp [hqueue])
        simp only [step, taskStep, htask, hqueue, Option.some.injEq, Prod.mk.injEq] at hnext
        obtain ⟨rfl, -⟩ := hnext
        omega
    | some hand =>
      obtain ⟨job', place⟩ := hand
      have hstep : (step board s (.task met)).task =
          (advance board s.stopRequested job'.request met place).map (job', ·) := by
        simp [step, taskStep, htask]
      rw [hstep, Option.map_eq_some_iff] at hnext
      obtain ⟨next, hadvance, heq⟩ := hnext
      cases heq
      obtain ⟨hstop, hplace, -⟩ := hs.hand job place htask hold
      have hsees : place.commits board met ≤ 1 := hok hstop _ htask
      have hadvance' := hadvance
      rw [hstop] at hadvance
      obtain ⟨-, -, hlasts⟩ := advance_stopped hplace hsees hadvance
      refine ⟨⟨job, place, htask, hold⟩, ?_⟩
      simp only [left, hstep, hadvance', htask, taskSteps]
      simpa using hlasts

/-- **The run lemma.** -/
theorem stopped_run {events : List Event} (hs : Stopped n b s)
    (hok : AllSteps (step board) (Heeded board) s events) :
    Stopped n b (run (step board) s events) := by
  revert hok
  exact run_invariant (fun _ _ hs hok => stopped_step hs hok) hs

theorem left_run {events : List Event} (hs : Stopped n b s)
    (hok : AllSteps (step board) (Heeded board) s events)
    (hafter : InHand n (run (step board) s events)) :
    InHand n s ∧ left (run (step board) s events) + taskSteps events ≤ left s := by
  induction events generalizing s with
  | nil => exact ⟨hafter, le_rfl⟩
  | cons event events ih =>
    obtain ⟨hlater, hless⟩ := ih (stopped_step hs hok.1) hok.2 hafter
    obtain ⟨hnow, hmore⟩ := left_step hs hok.1 hlater
    refine ⟨hnow, ?_⟩
    have hsplit : taskSteps (event :: events) = taskSteps [event] + taskSteps events := by
      simp only [taskSteps, List.countP_cons, List.countP_nil]
      omega
    rw [run_cons, hsplit]
    omega

end stopped

/-- **A stop takes effect.** -/
theorem stop_takes_effect (board : Board) (before after : List Event)
    (h : AllSteps (step board) (Heeded board) .start (before ++ .stopPlayback :: after)) :
    let stopped := run (step board) .start before
    let s := run (step board) .start (before ++ .stopPlayback :: after)
    oldWrites stopped.sent s ≤ oldWrites stopped.sent stopped + 1 ∧
      (∀ job ∈ s.queue, stopped.sent ≤ job.id) ∧
      (7 ≤ taskSteps after → ¬ InHand stopped.sent s) := by
  intro stopped s
  rw [allSteps_append, allSteps_cons] at h
  obtain ⟨-, hstop, hafter⟩ := h
  have hs : Stopped stopped.sent (oldWrites stopped.sent stopped) (stopPlayback stopped) :=
    stopped_of_stop hstop
  have hrun : s = run (step board) (stopPlayback stopped) after := by
    simp [s, stopped, run_append, step]
  have hend : Stopped stopped.sent (oldWrites stopped.sent stopped) s := by
    rw [hrun]
    exact stopped_run hs hafter
  refine ⟨hend.bound, hend.queue, fun hseven hold => ?_⟩
  rw [hrun] at hold
  obtain ⟨⟨job, place, htask, -⟩, hleft⟩ := left_run hs hafter hold
  obtain ⟨hne, hfew⟩ := hstop.2 _ htask
  have hlasts : left (stopPlayback stopped) ≤ 7 := by
    rw [left, htask]
    exact (few_left place hfew hne).2
  obtain ⟨_, last, hlast, -⟩ := hold
  have hpos : 1 ≤ left (run (step board) (stopPlayback stopped) after) := by
    rw [left, hlast]
    exact one_le_lasts last
  omega

/-- Boards that write no silence. -/
def espBox : Board := ⟨false⟩

/-- The backend rings an alarm. -/
def ringAlarm : Event :=
  .handleTtsReady false (some (.ofAscii "alarm")) (some (.ofAscii "audio/wav"))
    (some (.ofAscii "/api/tts/alarm.wav")) true false

/-- The task receives the request and connects. -/
def connect : List Event := List.replicate 5 (.task {})

/-- One pass over the audio of the alarm, in two writes. -/
def onePass : List Event :=
  [.task { header := .ready ⟨8192, 16000, 1⟩ 0 }, .task {},
    .task {}, .task { read := some 4096 }, .task {},
    .task {}, .task { read := some 4096 }, .task {},
    .task {}, .task {}, .task {}]

/-- A stop while the alarm still waits in the queue is lost: both writes follow, and the alarm rings
on. -/
theorem alarm_rings_on :
    (run (step espBox) .start [ringAlarm]).sent = 1 ∧
      oldWrites 1 (run (step espBox) .start [ringAlarm]) = 0 ∧
      oldWrites 1 (run (step espBox) .start ([ringAlarm, .stopPlayback] ++ connect ++ onePass)) = 2 ∧
      (run (step espBox) .start ([ringAlarm, .stopPlayback] ++ connect ++ onePass)).task.map (·.2) =
        some .connecting := by
  decide +kernel

/-- A stop while the alarm is read ends it after one write. -/
theorem alarm_stops :
    oldWrites 1 (run (step espBox) .start
        ([ringAlarm] ++ connect ++ onePass.take 4 ++ .stopPlayback :: List.replicate 7 (.task {}))) ≤
      1 ∧
    ¬ InHand 1 (run (step espBox) .start
        ([ringAlarm] ++ connect ++ onePass.take 4 ++
          .stopPlayback :: List.replicate 7 (.task {}))) := by
  obtain ⟨hwrites, -, hdone⟩ := stop_takes_effect espBox ([ringAlarm] ++ connect ++ onePass.take 4)
    (List.replicate 7 (.task {})) (by decide +kernel)
  exact ⟨hwrites.trans (by decide +kernel), hdone (by decide +kernel)⟩

end HexeVoice.Firmware.TtsPlayer
