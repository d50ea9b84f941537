import HexeVoice.Recordings.WakeRecordings
import HexeVoice.Voice.Upkeep

/-!
# The wake recorder over a run

## The model

The calls that a runtime makes are replayed on the wake recorder: `recorderOf`. `AllSavedOnce`
says of the calls that every recording holds each chunk once.

## What is proved

What holds of the recorder between the inputs, `RecorderOk`, is kept by whatever begins, ends,
accepts or records a session: `RecorderOk.begun` and so on, `RecorderOk.audioEnd` for the end of
audio. `RecorderSound` is what holds of it at any time.
-/

namespace HexeVoice.Recordings

open HexeVoice.Library HexeVoice.Voice

/-! ### Replaying the calls -/

/-- What the recorder makes of a call of a runtime of the endpoint. -/
def WakeRecordingService.after (endpointId : EndpointId) (s : WakeRecordingService) :
    Effect → WakeRecordingService
  | .wakeChunkCaptured sessionId format chunk =>
    s.captureWakeChunk (endpointId, sessionId) format chunk.bytes
  | .acceptedWakeMarked sessionId source => s.markAcceptedWake (endpointId, sessionId) source
  | .acceptedSessionRecorded sessionId chunks =>
    (s.recordAcceptedSession (endpointId, sessionId) (chunks.map (·.bytes))).2
  | .wakeRecordingClosed sessionId => s.closeSession (endpointId, sessionId)
  | _ => s

/-- The recorder after the calls. -/
def recorderOf (prerollMs : ℕ) (endpointId : EndpointId) (calls : List Effect) :
    WakeRecordingService :=
  calls.foldl (·.after endpointId) { prerollMs }

/-- What the session has received, after a call. -/
def receive (received : List Chunk) : Effect → List Chunk
  | .sessionStarted _ => []
  | .chunkHandled chunk => received ++ [chunk]
  | _ => received

/-- The chunks that the session which began last has received, in the order of arrival. -/
def receivedOf (calls : List Effect) : List Chunk := calls.foldl receive []

/-- A session begins or receives a chunk. -/
def isReceipt : Effect → Bool
  | .sessionStarted _ | .chunkHandled _ => true
  | _ => false

/-- A session is recorded. -/
def isRecord : Effect → Bool
  | .acceptedSessionRecorded .. => true
  | _ => false

/-- The audio of the chunks. -/
def bytesOf (chunks : List Chunk) : Bytes := chunks.flatMap (·.bytes)

/-- What the call records of the session. -/
def recordedBy (prerollMs : ℕ) (endpointId : EndpointId) (calls : List Effect)
    (sessionId : SessionId) (chunks : List Chunk) : Option WakeRecording :=
  ((recorderOf prerollMs endpointId calls).recordAcceptedSession (endpointId, sessionId)
    (chunks.map (·.bytes))).1

/-- The recording holds the end of what the session received, from a frame boundary on, in
which no chunk occurs twice, and of that at most the configured pre-roll from before the wake. -/
structure SavedOnce (prerollMs : ℕ) (received : List Chunk) (recording : WakeRecording) : Prop where
  suffix : ∃ k, frameSize recording.audioFormat ∣ k ∧ recording.audio = (bytesOf received).drop k
  once : (received.map (·.arrival)).Nodup
  preroll : recording.wakePrerollByteCount * 1000 ≤
    recording.audioFormat.sampleRateHz * frameSize recording.audioFormat * prerollMs

/-- Whatever the calls have recorded holds each chunk once. -/
def AllSavedOnce (prerollMs : ℕ) (endpointId : EndpointId) (calls : List Effect) : Prop :=
  ∀ before sessionId chunks later, calls = before ++ .acceptedSessionRecorded sessionId chunks :: later →
    ∀ recording ∈ recordedBy prerollMs endpointId before sessionId chunks,
      SavedOnce prerollMs (receivedOf before) recording

section replay

variable {prerollMs : ℕ} {endpointId : EndpointId} (calls calls' : List Effect) (call : Effect)

theorem recorderOf_append : recorderOf prerollMs endpointId (calls ++ calls') =
    calls'.foldl (·.after endpointId) (recorderOf prerollMs endpointId calls) :=
  List.foldl_append

@[simp] theorem receivedOf_sessionStarted (serial : ℕ) :
    receivedOf (calls ++ [.sessionStarted serial]) = [] := by
  simp [receivedOf, receive]

@[simp] theorem receivedOf_chunkHandled (chunk : Chunk) :
    receivedOf (calls ++ [.chunkHandled chunk]) = receivedOf calls ++ [chunk] := by
  simp [receivedOf, receive]

@[simp] theorem bytesOf_append (chunks chunks' : List Chunk) :
    bytesOf (chunks ++ chunks') = bytesOf chunks ++ bytesOf chunks' :=
  List.flatMap_append

theorem bytesOf_eq (chunks : List Chunk) : (chunks.map (·.bytes)).flatten = bytesOf chunks :=
  rfl

@[simp] theorem prerollMs_recorderOf : (recorderOf prerollMs endpointId calls).prerollMs = prerollMs := by
  induction calls using List.reverseRecOn with
  | nil => rfl
  | append_singleton calls call ih =>
    rw [recorderOf_append, List.foldl_cons, List.foldl_nil]
    cases call <;> simp [WakeRecordingService.after, WakeRecordingService.closeSession, ih]

/-- Calls by which no session begins and no chunk arrives. -/
theorem receivedOf_append (h : ∀ c ∈ calls', isReceipt c = false) :
    receivedOf (calls ++ calls') = receivedOf calls := by
  induction calls' using List.reverseRecOn with
  | nil => rw [List.append_nil]
  | append_singleton calls' call ih =>
    rw [List.forall_mem_append, List.forall_mem_singleton] at h
    have hcall : ∀ received, receive received call = received := by
      intro received
      have hnot := h.2
      cases call <;> first | rfl | cases hnot
    rw [← ih h.1, ← List.append_assoc, receivedOf, List.foldl_append, List.foldl_cons,
      List.foldl_nil, hcall, receivedOf]

theorem allSavedOnce_nil : AllSavedOnce prerollMs endpointId [] := by
  intro before sessionId chunks later h
  simp at h

variable {calls call}

theorem AllSavedOnce.concat (h : AllSavedOnce prerollMs endpointId calls)
    (hcall : ∀ sessionId chunks, call = .acceptedSessionRecorded sessionId chunks →
      ∀ recording ∈ recordedBy prerollMs endpointId calls sessionId chunks,
        SavedOnce prerollMs (receivedOf calls) recording) :
    AllSavedOnce prerollMs endpointId (calls ++ [call]) := by
  intro before sessionId chunks later heq
  rcases List.eq_nil_or_concat later with rfl | ⟨later', last, rfl⟩
  · obtain ⟨rfl, hlast⟩ := List.append_inj' heq rfl
    exact hcall _ _ (by simpa using hlast)
  · rw [List.concat_eq_append, ← List.cons_append, ← List.append_assoc] at heq
    exact h before sessionId chunks later' (List.append_inj' heq rfl).1

/-- Calls that record nothing. -/
theorem AllSavedOnce.append (h : AllSavedOnce prerollMs endpointId calls) {calls' : List Effect}
    (hquiet : ∀ c ∈ calls', isRecord c = false) :
    AllSavedOnce prerollMs endpointId (calls ++ calls') := by
  induction calls' using List.reverseRecOn with
  | nil => rwa [List.append_nil]
  | append_singleton calls' call ih =>
    rw [List.forall_mem_append, List.forall_mem_singleton] at hquiet
    rw [← List.append_assoc]
    refine (ih hquiet.1).concat fun sessionId chunks heq => ?_
    have hrecord := hquiet.2
    rw [heq] at hrecord
    cases hrecord

end replay

/-! ### The capture of a session -/

/-- A call of the wake recorder. -/
def isWakeCall : Effect → Bool
  | .wakeChunkCaptured .. | .acceptedWakeMarked .. | .acceptedSessionRecorded ..
  | .wakeRecordingClosed _ => true
  | _ => false

section capture

variable (prerollMs : ℕ) (endpointId : EndpointId) (calls : List Effect)

/-- What the recorder holds of the session. -/
def captureIn (sessionId : SessionId) : Option WakeCapture :=
  (recorderOf prerollMs endpointId calls).captures.get (endpointId, sessionId)

variable (sessionId id : SessionId)

theorem captureIn_concat (call : Effect) :
    captureIn prerollMs endpointId (calls ++ [call]) id =
      ((recorderOf prerollMs endpointId calls).after endpointId call).captures.get
        (endpointId, id) := by
  rw [captureIn, recorderOf_append]
  rfl

theorem captureIn_append {calls' : List Effect} (h : ∀ c ∈ calls', isWakeCall c = false) :
    captureIn prerollMs endpointId (calls ++ calls') id = captureIn prerollMs endpointId calls id := by
  induction calls' using List.reverseRecOn with
  | nil => rw [List.append_nil]
  | append_singleton calls' call ih =>
    rw [List.forall_mem_append, List.forall_mem_singleton] at h
    rw [← List.append_assoc, captureIn_concat, ← ih h.1]
    have hnot := h.2
    cases call <;> first | rfl | cases hnot

theorem captureIn_captured (format : VoiceAudioFormat) (chunk : Chunk) :
    captureIn prerollMs endpointId (calls ++ [.wakeChunkCaptured sessionId format chunk]) id =
      if id = sessionId ∧ chunk.bytes ≠ [] ∧ format.encoding = .pcmS16le then
        some (trimCapture prerollMs ((WakeRecordingService.captureFor
          (captureIn prerollMs endpointId calls sessionId) format).extend chunk.bytes))
      else captureIn prerollMs endpointId calls id := by
  rw [captureIn_concat]
  simp only [WakeRecordingService.after, WakeRecordingService.get_captureWakeChunk,
    prerollMs_recorderOf, Prod.mk.injEq, true_and, captureIn]

theorem captureIn_marked (source : String) :
    captureIn prerollMs endpointId (calls ++ [.acceptedWakeMarked sessionId source]) id =
      if id = sessionId then
        (captureIn prerollMs endpointId calls id).map fun c => { c with accepted := some source }
      else captureIn prerollMs endpointId calls id := by
  rw [captureIn_concat]
  simp only [WakeRecordingService.after, WakeRecordingService.get_markAcceptedWake,
    Prod.mk.injEq, true_and, captureIn]

theorem captureIn_recorded (chunks : List Chunk) :
    captureIn prerollMs endpointId (calls ++ [.acceptedSessionRecorded sessionId chunks]) id =
      if id = sessionId ∧ (recordedBy prerollMs endpointId calls sessionId chunks).isSome then none
      else captureIn prerollMs endpointId calls id := by
  rw [captureIn_concat]
  simp only [WakeRecordingService.after, WakeRecordingService.get_recordAcceptedSession,
    Prod.mk.injEq, true_and, captureIn, recordedBy]
  rfl

theorem captureIn_closed :
    captureIn prerollMs endpointId (calls ++ [.wakeRecordingClosed sessionId]) id =
      if id = sessionId then none else captureIn prerollMs endpointId calls id := by
  rw [captureIn_concat]
  simp only [WakeRecordingService.after, WakeRecordingService.get_closeSession,
    Prod.mk.injEq, true_and, captureIn]

end capture

/-! ### What holds of the recorder -/

section invariant

variable (cfg : Config) (prerollMs : ℕ) (endpointId : EndpointId) (format : VoiceAudioFormat)

/-- The session will not be recorded: it is the placement test of a manager that has a turn
pipeline. -/
def isExempt (e : Essence) : Bool := cfg.turnPipeline && e.isPlacementTest

/-- The session has run its course. -/
def isOver (state : VoiceSessionState) : Bool :=
  [VoiceSessionState.completed, .cancelled, .failed].contains state

/-- The capture and the buffer together are the end of what the session has received. -/
structure Joined (capture : WakeCapture) (buffer received : List Chunk) : Prop where
  audioFormat : capture.audioFormat = format
  audio_ne : capture.audio ≠ []
  length_le : capture.audio.length ≤ maxPrerollBytes prerollMs format
  joined : ∃ k, k ≤ (bytesOf received).length ∧ frameSize format ∣ k ∧
    capture.audio ++ bytesOf buffer = (bytesOf received).drop k

/-- A capture in this state of the session is recorded by the next turn or by none. -/
structure Due (capture : WakeCapture) (state : VoiceSessionState) : Prop where
  ne_responding : state ≠ .responding
  unaccepted : cfg.turnPipeline = true → capture.accepted = none →
    state = .idle ∨ isOver state = true

/-- What holds of the calls at any time: the recordings are right, the recorder holds no more
than a capture of the session under way, and the session has received every chunk once. -/
structure RecorderSound (e : Essence) : Prop where
  saved : AllSavedOnce prerollMs endpointId e.tape
  own : ∀ sessionId, (captureIn prerollMs endpointId e.tape sessionId).isSome = true →
    e.session.map (·.sessionId) = some sessionId
  history : e.session.isSome = true → e.placementTest.isSome = true
  fresh : ∀ c ∈ receivedOf e.tape, c.arrival < e.arrivals
  once : ((receivedOf e.tape).map (·.arrival)).Nodup
  frames : ∀ c ∈ receivedOf e.tape, frameSize format ∣ c.bytes.length

/-- What holds besides between the inputs. -/
structure RecorderOk (e : Essence) : Prop extends RecorderSound prerollMs endpointId format e where
  due : ∀ s ∈ e.session, ∀ capture ∈ captureIn prerollMs endpointId e.tape s.sessionId,
    isExempt cfg e = false →
      Joined prerollMs format capture e.audioChunks (receivedOf e.tape) ∧ Due cfg capture s.state

end invariant

section steps

variable {cfg : Config} {prerollMs : ℕ} {endpointId : EndpointId} {format : VoiceAudioFormat}
  {e : Essence}

variable {calls : List Effect}

/-! ### The end of a session -/

theorem RecorderSound.ended (h : RecorderSound prerollMs endpointId format e)
    (hrecorder : cfg.wakeRecorder = true) :
    RecorderOk cfg prerollMs endpointId format (e.ended cfg) := by
  have hquiet : ∀ c ∈ e.closing cfg ++ e.clearing, isRecord c = false ∧ isReceipt c = false := by
    unfold Essence.closing Essence.clearing
    cases e.session <;> simp [hrecorder, isRecord, isReceipt]
  have hreceived : receivedOf (e.ended cfg).tape = receivedOf e.tape :=
    receivedOf_append _ _ fun c hc => (hquiet c hc).2
  refine
    { saved := h.saved.append fun c hc => (hquiet c hc).1
      own := ?_
      history := by rintro ⟨⟩
      fresh := by rw [hreceived]; exact h.fresh
      once := by rw [hreceived]; exact h.once
      frames := by rw [hreceived]; exact h.frames
      due := by rintro s ⟨⟩ }
  intro sessionId hsome
  exfalso
  have htape : (e.ended cfg).tape = e.tape ++ (e.closing cfg ++ e.clearing) := rfl
  rw [htape, ← List.append_assoc, captureIn_append _ _ _ _ (by
    unfold Essence.clearing
    cases e.session <;> simp [isWakeCall])] at hsome
  unfold Essence.closing at hsome
  cases hs : e.session with
  | none =>
    have hown := h.own sessionId (by simpa [hs] using hsome)
    simp [hs] at hown
  | some s =>
    simp only [hrecorder, if_true, hs, Option.map_some, Option.toList_some, captureIn_closed] at hsome
    split at hsome
    · cases hsome
    · next hne =>
      have hown := h.own sessionId hsome
      exact hne (by simpa [hs] using hown.symm)

/-! ### Recordings -/

theorem frameSize_dvd_bytesOf {chunks : List Chunk}
    (h : ∀ c ∈ chunks, frameSize format ∣ c.bytes.length) :
    frameSize format ∣ (bytesOf chunks).length := by
  induction chunks with
  | nil => exact Nat.dvd_zero _
  | cons c chunks ih =>
    rw [List.forall_mem_cons] at h
    rw [bytesOf, List.flatMap_cons, List.length_append]
    exact (Nat.dvd_add_right h.1).mpr (ih h.2)

/-- What is recorded is the capture of an accepted wake, and the chunks. -/
theorem recordedBy_eq {sessionId : SessionId} {chunks : List Chunk} {recording : WakeRecording}
    (h : recordedBy prerollMs endpointId calls sessionId chunks = some recording) :
    ∃ capture source, captureIn prerollMs endpointId calls sessionId = some capture ∧
      recording = WakeRecordingService.recordingOf (endpointId, sessionId) capture source
        (chunks.map (·.bytes)) := by
  unfold recordedBy WakeRecordingService.recordAcceptedSession at h
  split at h
  · cases h
  · next capture hcapture =>
    split at h
    · cases h
    · next source _ =>
      split at h
      · cases h
      · exact ⟨capture, source, hcapture, (Option.some.inj h).symm⟩

/-- An accepted capture with audio is recorded. -/
theorem isSome_recordedBy {sessionId : SessionId} (chunks : List Chunk)
    {capture : WakeCapture} (hcapture : captureIn prerollMs endpointId calls sessionId = some capture)
    (haccepted : capture.accepted ≠ none) (hpcm : capture.audioFormat.encoding = .pcmS16le)
    (haudio : capture.audio ≠ []) :
    (recordedBy prerollMs endpointId calls sessionId chunks).isSome = true := by
  obtain ⟨source, hsource⟩ := Option.ne_none_iff_exists'.mp haccepted
  unfold captureIn at hcapture
  simp [recordedBy, WakeRecordingService.recordAcceptedSession, hcapture, hsource, hpcm, haudio]

theorem Joined.savedOnce {capture : WakeCapture} {chunks received : List Chunk} (key : SessionKey)
    (source : String) (h : Joined prerollMs format capture chunks received)
    (hpreroll : 1 ≤ prerollMs) (honce : (received.map (·.arrival)).Nodup)
    (hframes : ∀ c ∈ received, frameSize format ∣ c.bytes.length) :
    SavedOnce prerollMs received
      (WakeRecordingService.recordingOf key capture source (chunks.map (·.bytes))) := by
  obtain ⟨k, hk, hdvd, hjoined⟩ := h.joined
  have haligned : frameSize format ∣ ((bytesOf received).drop k).length := by
    rw [List.length_drop]
    exact Nat.dvd_sub (frameSize_dvd_bytesOf hframes) hdvd
  refine ⟨⟨k, ?_, ?_⟩, honce, ?_⟩
  · rw [show (WakeRecordingService.recordingOf ..).audioFormat = _ from h.audioFormat]
    exact hdvd
  · unfold WakeRecordingService.recordingOf
    rw [bytesOf_eq, hjoined, h.audioFormat]
    exact alignedAudio_of_dvd haligned
  · have hlength : capture.audio.length * 1000 ≤ maxPrerollBytes prerollMs format * 1000 :=
      Nat.mul_le_mul_right _ h.length_le
    rw [show (WakeRecordingService.recordingOf ..).audioFormat = _ from h.audioFormat]
    exact hlength.trans (maxPrerollBytes_le hpreroll format)

/-! ### States -/

theorem session_move (e : Essence) (next : VoiceSessionState) :
    (e.move next).session = e.session.map (·.moved next) := rfl

/-- A path leads the session where it leads its state. -/
theorem session_follow (e : Essence) (path : List VoiceSessionState) :
    (e.follow path).session = e.session.map fun s => { s with state := s.state.along path } := by
  induction path generalizing e with
  | nil =>
    cases hs : e.session <;> simp [Essence.follow, VoiceSessionState.along, hs]
  | cons next path ih =>
    rw [Essence.follow, List.foldl_cons, ← Essence.follow, ih, session_move, Option.map_map]
    rfl

@[simp] theorem placementTest_follow (e : Essence) (path : List VoiceSessionState) :
    (e.follow path).placementTest = e.placementTest := by
  induction path generalizing e with
  | nil => rfl
  | cons next path ih => exact ih _

@[simp] theorem arrivals_follow (e : Essence) (path : List VoiceSessionState) :
    (e.follow path).arrivals = e.arrivals := by
  induction path generalizing e with
  | nil => rfl
  | cons next path ih => exact ih _

/-- A path reaches what it does not name only by an illegal move, which fails the session. -/
theorem along_ne {state x : VoiceSessionState} (path : List VoiceSessionState) (hx : x ≠ .failed)
    (hpath : x ∉ path) (h : state ≠ x) : state.along path ≠ x := by
  induction path generalizing state with
  | nil => exact h
  | cons next path ih =>
    rw [List.mem_cons, not_or] at hpath
    refine ih hpath.2 ?_
    show (if legalMove state next then next else .failed) ≠ x
    split
    · exact Ne.symm hpath.1
    · exact Ne.symm hx

/-- A session that has run its course stays so on a path that does not make it idle. -/
theorem isOver_along {state : VoiceSessionState} {path : List VoiceSessionState}
    (hpath : .idle ∉ path) (h : isOver state = true) : isOver (state.along path) = true := by
  induction path generalizing state with
  | nil => exact h
  | cons next path ih =>
    rw [List.mem_cons, not_or] at hpath
    refine ih hpath.2 ?_
    have hnext := hpath.1
    revert h hnext
    cases state <;> cases next <;> decide

/-- The tape is as it was, and so is the session but for its state. -/
theorem RecorderSound.congr {e' : Essence} (h : RecorderSound prerollMs endpointId format e)
    (htape : e'.tape = e.tape) (harrivals : e.arrivals ≤ e'.arrivals)
    (hsession : e'.session.map (·.sessionId) = e.session.map (·.sessionId))
    (hhistory : e'.placementTest.isSome = e.placementTest.isSome) :
    RecorderSound prerollMs endpointId format e' where
  history hsome := by
    rw [hhistory]
    refine h.history ?_
    rw [← Option.isSome_map, ← hsession, Option.isSome_map]
    exact hsome
  saved := htape ▸ h.saved
  own sessionId := by
    rw [htape, hsession]
    exact h.own sessionId
  fresh c hc := (h.fresh c (htape ▸ hc)).trans_le harrivals
  once := htape ▸ h.once
  frames := htape ▸ h.frames

theorem RecorderSound.follow (h : RecorderSound prerollMs endpointId format e)
    (path : List VoiceSessionState) : RecorderSound prerollMs endpointId format (e.follow path) :=
  h.congr (Essence.tape_follow path) (by simp) (by simp [session_follow, Function.comp_def])
    (by rw [placementTest_follow])

/-- Calls that record nothing, hand the recorder nothing and bring the session nothing. -/
theorem RecorderSound.tell (h : RecorderSound prerollMs endpointId format e)
    (hquiet : ∀ c ∈ calls, isRecord c = false ∧ isReceipt c = false)
    (hown : ∀ sessionId, (captureIn prerollMs endpointId (e.tape ++ calls) sessionId).isSome = true →
      e.session.map (·.sessionId) = some sessionId) :
    RecorderSound prerollMs endpointId format (e.tell calls) := by
  have hreceived : receivedOf (e.tell calls).tape = receivedOf e.tape :=
    receivedOf_append _ _ fun c hc => (hquiet c hc).2
  exact
    { saved := h.saved.append fun c hc => (hquiet c hc).1
      own := hown
      history := h.history
      fresh := by rw [hreceived]; exact h.fresh
      once := by rw [hreceived]; exact h.once
      frames := by rw [hreceived]; exact h.frames }

theorem isExempt_tell (calls : List Effect) : isExempt cfg (e.tell calls) = isExempt cfg e := rfl

theorem isExempt_follow (path : List VoiceSessionState) :
    isExempt cfg (e.follow path) = isExempt cfg e := by
  simp [isExempt]

theorem isExempt_listening : isExempt cfg e.listening = isExempt cfg e :=
  isExempt_follow [.listening]

/-! ### Steps of a session -/

theorem RecorderOk.begun (h : RecorderOk cfg prerollMs endpointId format e)
    (hnone : e.session = none) (session : SessionCore) (placementTest : Option PlacementWindow)
    (path : List VoiceSessionState) :
    RecorderOk cfg prerollMs endpointId format ((e.begun session placementTest).follow path) := by
  have hcapture : ∀ sessionId, captureIn prerollMs endpointId
      ((e.begun session placementTest).follow path).tape sessionId = none := by
    intro sessionId
    rw [Essence.tape_follow, Essence.tape_begun, captureIn_append _ _ _ _ (by simp [isWakeCall])]
    by_contra hne
    have hown := h.own sessionId (Option.isSome_iff_ne_none.mpr hne)
    simp [hnone] at hown
  have hreceived : receivedOf ((e.begun session placementTest).follow path).tape = [] := by
    rw [Essence.tape_follow, Essence.tape_begun, receivedOf_sessionStarted]
  exact
    { saved := by
        rw [Essence.tape_follow, Essence.tape_begun]
        exact h.saved.append (by simp [isRecord])
      own := fun sessionId hsome => by
        rw [hcapture] at hsome
        cases hsome
      history := fun _ => by
        rw [placementTest_follow]
        rfl
      fresh := by rw [hreceived]; simp
      once := by rw [hreceived]; simp
      frames := by rw [hreceived]; simp
      due := fun s _ capture hc => by
        rw [hcapture] at hc
        cases hc }

theorem RecorderOk.listening (h : RecorderOk cfg prerollMs endpointId format e)
    (hresponding : ∃ s ∈ e.session, s.state = .responding) :
    RecorderOk cfg prerollMs endpointId format e.listening := by
  refine { toRecorderSound := h.toRecorderSound.congr rfl le_rfl ?_ rfl, due := ?_ }
  · simp [Essence.listening, Essence.move, Function.comp_def, SessionCore.moved]
  · -- a session that responds is not captured
    intro s' hs' capture hcapture hexempt
    obtain ⟨s, hs, hstate⟩ := hresponding
    have hs' : s.moved .listening = s' := by
      simpa [Essence.listening, Essence.move, Option.mem_def.mp hs] using hs'
    subst hs'
    rw [isExempt_listening] at hexempt
    exact absurd hstate (h.due s hs capture hcapture hexempt).2.ne_responding

theorem RecorderOk.accepted (h : RecorderOk cfg prerollMs endpointId format e)
    (hrecorder : cfg.wakeRecorder = true) (sessionId : SessionId) (source : String) :
    RecorderOk cfg prerollMs endpointId format
      (e.accepted cfg ((e.session.map (·.sessionId)).getD sessionId) source) := by
  set id := (e.session.map (·.sessionId)).getD sessionId with hid
  have heq : e.accepted cfg id source =
      (e.tell [.acceptedWakeMarked id source]).follow [.wakeDetected, .listening] := by
    simp [Essence.accepted, hrecorder]
  rw [heq]
  have hsound : RecorderSound prerollMs endpointId format
      (e.tell [.acceptedWakeMarked id source]) := by
    refine h.toRecorderSound.tell (by simp [isRecord, isReceipt]) fun sessionId' hsome => ?_
    rw [captureIn_marked] at hsome
    split at hsome
    · exact h.own sessionId' (by simpa using hsome)
    · exact h.own sessionId' hsome
  refine { toRecorderSound := hsound.follow _, due := ?_ }
  intro s' hs' capture' hcapture' hexempt
  obtain ⟨s, hs, rfl⟩ := Option.map_eq_some_iff.mp
    ((session_follow _ _).symm.trans (Option.mem_def.mp hs'))
  rw [isExempt_follow, isExempt_tell] at hexempt
  have hid' : id = s.sessionId := by simp [hid, show e.session = some s from hs]
  rw [Essence.tape_follow, Essence.tape_tell, Option.mem_def, captureIn_marked, if_pos hid'.symm]
    at hcapture'
  obtain ⟨capture, hcapture, rfl⟩ := Option.map_eq_some_iff.mp hcapture'
  obtain ⟨hjoined, hdue⟩ := h.due s hs capture hcapture hexempt
  rw [Essence.audioChunks_follow, Essence.tape_follow, Essence.tape_tell,
    receivedOf_append _ _ (by simp [isReceipt])]
  refine ⟨⟨hjoined.audioFormat, hjoined.audio_ne, hjoined.length_le, hjoined.joined⟩, ?_⟩
  exact ⟨along_ne _ (by decide) (by decide) hdue.ne_responding, fun _ hnone => nomatch hnone⟩

/-- The session under way is recorded. -/
theorem RecorderOk.recorded (h : RecorderOk cfg prerollMs endpointId format e) {s : SessionCore}
    (hs : e.session = some s) (hpreroll : 1 ≤ prerollMs) (hexempt : isExempt cfg e = false) :
    RecorderSound prerollMs endpointId format
      (e.tell [.acceptedSessionRecorded s.sessionId e.audioChunks]) := by
  have hreceived : receivedOf (e.tape ++ [.acceptedSessionRecorded s.sessionId e.audioChunks]) =
      receivedOf e.tape := receivedOf_append _ _ (by simp [isReceipt])
  refine
    { saved := h.saved.concat ?_
      own := ?_
      history := h.history
      fresh := by rw [Essence.tape_tell, hreceived]; exact h.fresh
      once := by rw [Essence.tape_tell, hreceived]; exact h.once
      frames := by rw [Essence.tape_tell, hreceived]; exact h.frames }
  · rintro _ _ ⟨⟩ recording hrecording
    obtain ⟨capture, source, hcapture, rfl⟩ := recordedBy_eq (Option.mem_def.mp hrecording)
    exact (h.due s hs capture hcapture hexempt).1.savedOnce _ source hpreroll h.once h.frames
  · intro sessionId hsome
    rw [Essence.tape_tell, captureIn_recorded] at hsome
    split at hsome
    · cases hsome
    · exact h.own sessionId hsome

theorem RecorderSound.turn (h : RecorderSound prerollMs endpointId format e)
    (turn : Option VoiceTurnAudioSummary) :
    RecorderSound prerollMs endpointId format (e.tell (turn.map Effect.completeTurn).toList) := by
  cases turn with
  | none => simpa using h
  | some audio =>
    refine h.tell (by simp [isRecord, isReceipt]) fun sessionId hsome => h.own sessionId ?_
    rwa [captureIn_append _ _ _ _ (by simp [isWakeCall])] at hsome

theorem RecorderOk.audioEnd (h : RecorderOk cfg prerollMs endpointId format e)
    (hrecorder : cfg.wakeRecorder = true) (hpreroll : 1 ≤ prerollMs)
    (hpcm : format.encoding = .pcmS16le) {session : VoiceSessionSnapshot} {e' : Essence}
    (hs : e.session = some session.core) (hend : e.AudioEnded cfg session e') :
    RecorderOk cfg prerollMs endpointId format e' := by
  have hrecording : e.recording cfg session.sessionId =
      [.acceptedSessionRecorded session.core.sessionId e.audioChunks] := by
    simp [Essence.recording, hrecorder, VoiceSessionSnapshot.core]
  cases hend with
  | discarded => exact h.toRecorderSound.ended hrecorder
  | recorded turn hstate hplacement _ =>
    have hexempt : isExempt cfg e = false := by
      cases hpipeline : cfg.turnPipeline with
      | false => simp [isExempt, hpipeline]
      | true => simp [isExempt, hplacement hpipeline]
    rw [hrecording, ← Essence.tell_tell]
    exact ((h.recorded hs hpreroll hexempt).turn turn).ended hrecorder
  | awaiting audio hanswer hstate hpipeline hplacement =>
    have hexempt : isExempt cfg e = false := by simp [isExempt, hplacement]
    rename_i answer
    rw [hrecording, ← Essence.follow_tell]
    set calls : List Effect := [.acceptedSessionRecorded session.core.sessionId e.audioChunks] ++
      [.completeTurn audio] with hcalls
    set path := toTranscribing session.sessionState ++ [answer, .responding] with hpath
    have hsound : RecorderSound prerollMs endpointId format (e.tell calls) := by
      have hrecorded := (h.recorded hs hpreroll hexempt).turn (some audio)
      rwa [Essence.tell_tell] at hrecorded
    refine { toRecorderSound := (hsound.follow path).congr rfl le_rfl rfl rfl, due := ?_ }
    intro s' hs' capture hcapture _
    obtain ⟨s, hs'', rfl⟩ := Option.map_eq_some_iff.mp
      ((session_follow _ _).symm.trans (Option.mem_def.mp hs'))
    obtain rfl : session.core = s := Option.some.inj (hs.symm.trans hs'')
    -- a capture that is left was not accepted, and so the session is over
    rw [Essence.tape_awaiting, Essence.tape_follow, Essence.tape_tell, hcalls, ← List.append_assoc,
      captureIn_append _ _ _ _ (by simp [isWakeCall]), Option.mem_def, captureIn_recorded] at hcapture
    split at hcapture
    · cases hcapture
    next hnot =>
    obtain ⟨hjoined, hdue⟩ := h.due _ hs capture hcapture hexempt
    have haccepted : capture.accepted = none := by
      by_contra hne
      exact hnot ⟨rfl, isSome_recordedBy _ hcapture hne (hjoined.audioFormat ▸ hpcm) hjoined.audio_ne⟩
    have hidle : .idle ∉ path := by
      rcases hanswer with rfl | rfl <;> rw [hpath, toTranscribing] <;> split <;> decide
    have hover : isOver (session.core.state.along path) = true :=
      isOver_along hidle ((hdue.unaccepted hpipeline haccepted).resolve_left hstate)
    have hreceived : receivedOf (e.tape ++ calls) = receivedOf e.tape :=
      receivedOf_append _ _ (by simp [hcalls, isReceipt])
    refine ⟨?_, ⟨fun hresponding => ?_, fun _ _ => .inr hover⟩⟩
    · rw [Essence.tape_awaiting, Essence.tape_follow, Essence.tape_tell, hreceived]
      rwa [show ((e.tell calls).follow path).awaiting.audioChunks = e.audioChunks from
        Essence.audioChunks_follow _ _]
    · rw [show session.core.state.along path = _ from hresponding] at hover
      cases hover

end steps

end HexeVoice.Recordings
