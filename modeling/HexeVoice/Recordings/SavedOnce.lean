import HexeVoice.Recordings.WakeReplay

/-!
# A wake recording holds each chunk once

## The model

A chunk reaches a recording by one of two ways, the recorder's capture and the runtime's buffer
for speech-to-text; `savesOnce` says when a chunk event sends it one way only, and in time.

## What is proved

The two halves of the handler of a chunk keep what holds of the recorder: `dueBut_of_received`,
`RecorderSound.afterElection`. **`saved_once`**: as long as every chunk goes one way, each
recording of a session is a suffix of what the session has received, from a frame boundary on,
and its pre-roll is as long as configured at most. **`enrollment_saved_twice`**: under an
enrollment window the chunks after the first go both ways.
-/

namespace HexeVoice.Recordings

open HexeVoice.Library HexeVoice.Voice

/-! ### Where a chunk goes -/

section condition

variable (cfg : Config) (o : Occasion) (session : VoiceSessionSnapshot)

/-- The session overhears the chunk while a timer alarm plays. -/
def overhears : Bool :=
  session.sessionState = .idle && !o.placementTakesOver cfg && !o.enrollmentTakesOver cfg &&
    o.interruptible

/-- The session listens or captures once the capture windows have seen the chunk. -/
def hearsChunk : Bool :=
  (session.sessionState.along
    (takeoverPath (o.placementTakesOver cfg) (o.enrollmentTakesOver cfg))).hears

/-- The chunk goes into the buffer. -/
def appends : Bool := overhears cfg o session || !o.enrollmentTakesOver cfg && hearsChunk cfg o session

/-- A chunk with audio of a session that will be recorded goes one way only: to the recorder,
while the buffer is empty and the session idle, or just taken over by the enrollment window; or
into the buffer. It goes neither way only if the recorder holds nothing of the session. -/
def savesOnce (prerollMs : ℕ) (endpointId : EndpointId) : Bool :=
  match o.chunkOn cfg with
  | none => true
  | some (session, payload) =>
    payload.audioBytes.all (· = []) ||
      cfg.turnPipeline && (o.desk.self.isPlacementTest || o.placementTakesOver cfg) ||
      if o.desk.givesWakeRecorder cfg o.ev.endpointId session then
        !appends cfg o session && bytesOf o.desk.self.audioChunks = [] &&
          (session.sessionState = .idle || o.enrollmentTakesOver cfg)
      else
        appends cfg o session ||
          (captureIn prerollMs endpointId o.desk.self.essence.tape session.sessionId).isNone

/-- The chunk is of this format and of whole frames. -/
def hasFormat (format : VoiceAudioFormat) : Bool :=
  (o.chunkOn cfg).all fun c =>
    c.2.audioFormat = format && c.2.audioBytes.all fun bytes => frameSize format ∣ bytes.length

end condition

section chunk

variable {cfg : Config} {prerollMs : ℕ} {endpointId : EndpointId} {format : VoiceAudioFormat}
  {e : Essence} {o : Occasion} {progress : ChunkProgress} {d : Desk} {session : VoiceSessionSnapshot}

variable {capture : WakeCapture} {chunk : Option Chunk}
  {payload : VoiceAudioChunkPayload}

theorem audioChunks_of_received (h : ChunkReceived cfg o progress d session payload) :
    d.self.audioChunks = o.desk.self.audioChunks ++
      if overhears cfg o session then (o.numbered payload).toList else [] := by
  have hbuffer := congrArg SessionView.buffer h.view
  rw [show d.self.view.buffer = d.self.audioChunks from rfl] at hbuffer
  rw [hbuffer, show o.desk.self.audioChunks = o.desk.self.view.buffer from rfl]
  cases o.submittedCandidate cfg with
  | none => exact SessionView.received_buffer ..
  | some c => exact SessionView.received_buffer ..

/-- A wake is accepted of a session that is idle, and that no capture window takes over. -/
theorem idle_of_wakeAccepted (h : ChunkReceived cfg o progress d session payload)
    (haccepted : progress.wakeAccepted = true) :
    session.sessionState = .idle ∧ o.placementTakesOver cfg = false ∧
      o.enrollmentTakesOver cfg = false := by
  have htype : o.ev.eventType = .audioChunk := by
    have hon := h.chunkOn
    unfold Occasion.chunkOn at hon
    split at hon
    · assumption
    · cases hon
  rw [ChunkProgress.wakeAccepted, h.backend] at haccepted
  cases hsubmitted : o.submittedCandidate cfg with
  | none => simp [hsubmitted] at haccepted
  | some c =>
    obtain ⟨session', candidate⟩ := c
    obtain ⟨payload', hon, hidle, hplacement, henrollment⟩ := submittedCandidate_audioChunk htype hsubmitted
    obtain ⟨rfl, -⟩ := Prod.mk.injEq .. ▸ Option.some.inj (h.chunkOn.symm.trans hon)
    exact ⟨hidle, hplacement, henrollment⟩

theorem takeover_of_chunkOn (hon : o.chunkOn cfg = some (session, payload)) :
    o.placementTakesOver cfg = o.desk.places o.ev.endpointId session (o.numbered payload) ∧
      o.enrollmentTakesOver cfg = o.desk.enrolls o.ev.endpointId session (o.numbered payload) := by
  simp [Occasion.placementTakesOver, Occasion.enrollmentTakesOver, hon, Desk.places, Desk.enrolls,
    Desk.capturable, Occasion.numbered]

/-! ### A chunk arrives -/

theorem RecorderSound.received (h : RecorderSound prerollMs endpointId format e)
    (hchunk : ∀ c ∈ chunk, c.arrival = e.arrivals ∧ frameSize format ∣ c.bytes.length) :
    RecorderSound prerollMs endpointId format (e.received chunk) := by
  cases chunk with
  | none =>
    refine h.congr ?_ (Nat.le_succ _) rfl rfl
    exact List.append_nil _
  | some c =>
    obtain ⟨harrival, hframes⟩ := hchunk c rfl
    have htape : (e.received (some c)).tape = e.tape ++ [.chunkHandled c] := rfl
    exact
      { saved := htape ▸ h.saved.append (by simp [isRecord])
        own := fun sessionId hsome => by
          rw [htape, captureIn_append _ _ _ _ (by simp [isWakeCall])] at hsome
          exact h.own sessionId hsome
        history := h.history
        fresh := fun c' hc' => by
          rw [htape, receivedOf_chunkHandled, List.mem_append, List.mem_singleton] at hc'
          rcases hc' with hc' | rfl
          · exact (h.fresh c' hc').trans (Nat.lt_succ_self _)
          · exact harrival ▸ Nat.lt_succ_self _
        once := by
          rw [htape, receivedOf_chunkHandled, List.map_append, List.map_singleton]
          refine List.nodup_append.mpr ⟨h.once, by simp, ?_⟩
          intro a ha b hb heq
          obtain ⟨c', hc', rfl⟩ := List.mem_map.mp ha
          have hlt := h.fresh c' hc'
          rw [heq, List.mem_singleton.mp hb, harrival] at hlt
          exact lt_irrefl _ hlt
        frames := fun c' hc' => by
          rw [htape, receivedOf_chunkHandled, List.mem_append, List.mem_singleton] at hc'
          rcases hc' with hc' | rfl
          · exact h.frames c' hc'
          · exact hframes }

theorem captureIn_given (calls : List Effect) (sessionId id : SessionId)
    (payload : VoiceAudioChunkPayload) (toMicroVad toWake : Bool) (chunk : Option Chunk) :
    captureIn prerollMs endpointId (calls ++ (microVadCalls sessionId payload toMicroVad chunk ++
        wakeCalls sessionId payload toWake chunk)) id =
      if id = sessionId ∧ toWake = true ∧ bytesOf chunk.toList ≠ [] ∧
          payload.audioFormat.encoding = .pcmS16le then
        some (trimCapture prerollMs ((WakeRecordingService.captureFor
          (captureIn prerollMs endpointId calls sessionId) payload.audioFormat).extend
            (bytesOf chunk.toList)))
      else captureIn prerollMs endpointId calls id := by
  have hmicro : ∀ c ∈ microVadCalls sessionId payload toMicroVad chunk, isWakeCall c = false := by
    cases chunk <;> cases toMicroVad <;> simp [microVadCalls, isWakeCall]
  rw [← List.append_assoc]
  cases chunk with
  | none => simp [wakeCalls, microVadCalls, bytesOf]
  | some c =>
    cases toWake with
    | false =>
      rw [show wakeCalls sessionId payload false (some c) = [] from rfl, List.append_nil,
        captureIn_append _ _ _ _ hmicro]
      simp
    | true =>
      rw [show wakeCalls sessionId payload true (some c) = [.wakeChunkCaptured sessionId
        payload.audioFormat c] from rfl, captureIn_captured, captureIn_append _ _ _ _ hmicro,
        captureIn_append _ _ _ _ hmicro]
      simp [bytesOf]

theorem RecorderSound.given (h : RecorderSound prerollMs endpointId format e) {s : SessionCore}
    (hs : e.session = some s) (payload : VoiceAudioChunkPayload) (toMicroVad toWake : Bool)
    (chunk : Option Chunk) :
    RecorderSound prerollMs endpointId format
      (e.tell (microVadCalls s.sessionId payload toMicroVad chunk ++
        wakeCalls s.sessionId payload toWake chunk)) := by
  refine h.tell ?_ fun sessionId hsome => ?_
  · cases chunk <;> cases toMicroVad <;> cases toWake <;>
      simp [microVadCalls, wakeCalls, isRecord, isReceipt]
  · rw [captureIn_given] at hsome
    split at hsome
    · next hgiven => rw [hs, Option.map_some, hgiven.1]
    · exact h.own sessionId hsome

theorem tape_captured (hrecorder : cfg.wakeRecorder = true) (e : Essence) (sessionId : SessionId)
    (window : Option PlacementWindow) (placement enrollment : Bool) :
    (e.captured cfg sessionId window placement enrollment).tape = e.tape ++
      if enrollment then [.acceptedWakeMarked sessionId "speaker_id_enrollment_capture"] else [] := by
  cases placement <;> cases enrollment <;>
    simp [Essence.captured, Essence.enrolled, Essence.placed, Essence.marked, hrecorder]

theorem session_captured (e : Essence) (sessionId : SessionId) (window : Option PlacementWindow)
    (placement enrollment : Bool) :
    (e.captured cfg sessionId window placement enrollment).session =
      e.session.map fun s => { s with state := s.state.along (takeoverPath placement enrollment) } := by
  cases placement <;> cases enrollment
  case false.false =>
    cases hs : e.session <;> simp [Essence.captured, takeoverPath, VoiceSessionState.along, hs]
  case false.true => exact session_follow (e.tell _) [.listening]
  case true.false => exact session_follow (e.marked window) [.listening]
  case true.true => exact session_follow ((e.marked window).tell _) [.listening, .listening]

theorem RecorderSound.captured (h : RecorderSound prerollMs endpointId format e)
    (hrecorder : cfg.wakeRecorder = true) (sessionId : SessionId) (window : Option PlacementWindow)
    (placement enrollment : Bool) : RecorderSound prerollMs endpointId format
      (e.captured cfg sessionId window placement enrollment) := by
  have hmarked : RecorderSound prerollMs endpointId format (e.tell
      (if enrollment then [.acceptedWakeMarked sessionId "speaker_id_enrollment_capture"] else [])) := by
    refine h.tell (by cases enrollment <;> simp [isRecord, isReceipt]) fun id hsome => h.own id ?_
    cases enrollment with
    | false => simpa using hsome
    | true =>
      rw [if_pos rfl, captureIn_marked] at hsome
      split at hsome
      · simpa using hsome
      · exact hsome
  refine hmarked.congr (tape_captured hrecorder ..) ?_ ?_ ?_
  · cases placement <;> cases enrollment <;> exact le_rfl
  · rw [session_captured, Option.map_map]
    rfl
  · cases placement <;> cases enrollment <;>
      simp [Essence.captured, Essence.placed, Essence.enrolled, Essence.marked, Essence.move,
        Essence.tell]

/-! ### The capture and the buffer with a chunk more -/

theorem Joined.congr {capture capture' : WakeCapture} {buffer buffer' received received' : List Chunk}
    (h : Joined prerollMs format capture buffer received)
    (hformat : capture'.audioFormat = capture.audioFormat) (haudio : capture'.audio = capture.audio)
    (hbuffer : bytesOf buffer' = bytesOf buffer) (hreceived : bytesOf received' = bytesOf received) :
    Joined prerollMs format capture' buffer' received' where
  audioFormat := hformat.trans h.audioFormat
  audio_ne := haudio ▸ h.audio_ne
  length_le := haudio ▸ h.length_le
  joined := by
    rw [haudio, hbuffer, hreceived]
    exact h.joined

/-- The chunk goes into the buffer. -/
theorem Joined.append {buffer received : List Chunk}
    (h : Joined prerollMs format capture buffer received) (chunks : List Chunk) :
    Joined prerollMs format capture (buffer ++ chunks) (received ++ chunks) where
  audioFormat := h.audioFormat
  audio_ne := h.audio_ne
  length_le := h.length_le
  joined := by
    obtain ⟨k, hk, hdvd, hjoined⟩ := h.joined
    refine ⟨k, ?_, hdvd, ?_⟩
    · rw [bytesOf_append, List.length_append]
      omega
    · rw [bytesOf_append, ← List.append_assoc, hjoined, bytesOf_append,
        List.drop_append_of_le_length hk]

/-- The chunk goes to the recorder, while the buffer is empty. -/
theorem joined_of_captured {buffer received chunks : List Chunk}
    (hformat : capture.audioFormat = format) (hbuffer : bytesOf buffer = [])
    (hchunks : bytesOf chunks ≠ [])
    (haudio : ∃ k, k ≤ (bytesOf received).length ∧ frameSize format ∣ k ∧
      capture.audio = (bytesOf received).drop k) :
    Joined prerollMs format (trimCapture prerollMs (capture.extend (bytesOf chunks))) buffer
      (received ++ chunks) := by
  obtain ⟨k, hk, hdvd, haudio⟩ := haudio
  obtain ⟨n, hdvd', hn, hlt, hle, htrim⟩ := trimCapture_audio prerollMs (capture.extend (bytesOf chunks))
  rw [show (capture.extend (bytesOf chunks)).audioFormat = format from hformat] at hdvd' hle
  have hextend : (capture.extend (bytesOf chunks)).audio = (bytesOf (received ++ chunks)).drop k := by
    rw [bytesOf_append, List.drop_append_of_le_length hk, ← haudio]
    rfl
  have hlength : (capture.extend (bytesOf chunks)).audio.length + k =
      (bytesOf (received ++ chunks)).length := by
    rw [hextend, List.length_drop, bytesOf_append, List.length_append]
    omega
  have hne : (capture.extend (bytesOf chunks)).audio ≠ [] := fun h => hchunks (List.append_eq_nil_iff.mp h).2
  have hlt := hlt hne
  refine ⟨trimCapture_audioFormat.trans hformat, ?_, ?_, k + n, by omega, Nat.dvd_add hdvd hdvd', ?_⟩
  · rw [htrim, ne_eq, List.drop_eq_nil_iff]
    omega
  · rw [htrim, List.length_drop]
    omega
  · rw [hbuffer, List.append_nil, htrim, hextend, List.drop_drop]

variable (cfg prerollMs endpointId format) in
/-- The chunk is missing from the buffer, where the session listens or captures. -/
def DueBut (chunk : Option Chunk) (e : Essence) : Prop :=
  ∀ s ∈ e.session, ∀ capture ∈ captureIn prerollMs endpointId e.tape s.sessionId,
    isExempt cfg e = false →
      Joined prerollMs format capture (e.audioChunks ++ if s.state.hears then chunk.toList else [])
        (receivedOf e.tape) ∧ Due cfg capture s.state

/-- A session that listens or captures takes the chunk. -/
theorem RecorderSound.taken (h : RecorderSound prerollMs endpointId format e)
    (hdue : DueBut cfg prerollMs endpointId format chunk e) :
    RecorderOk cfg prerollMs endpointId format (e.taken chunk) := by
  unfold Essence.taken
  split
  · next htakes =>
    refine { toRecorderSound := h.congr rfl le_rfl ?_ rfl, due := ?_ }
    · simp [Essence.append, Essence.move, Function.comp_def, SessionCore.moved]
    intro s' hs' capture hcapture hexempt
    obtain ⟨s, hs, rfl⟩ := Option.map_eq_some_iff.mp (Option.mem_def.mp hs')
    have hexempt : isExempt cfg e = false := by
      rw [← hexempt]
      exact (isExempt_follow [.capturing]).symm
    rw [show e.session = some s from hs, Option.any_some] at htakes
    obtain ⟨hjoined, hdue⟩ := hdue s hs capture hcapture hexempt
    rw [show s.state.hears = true from htakes, if_pos rfl] at hjoined
    refine ⟨hjoined, along_ne [.capturing] (by decide) (by decide) hdue.ne_responding, ?_⟩
    intro hpipeline haccepted
    -- a session that listens or captures is neither idle nor over
    exfalso
    rcases hdue.unaccepted hpipeline haccepted with hidle | hover
    · simp [hidle] at htakes
    · revert hover htakes
      cases s.state <;> decide
  · next hnot =>
    refine { toRecorderSound := h, due := fun s hs capture hcapture hexempt => ?_ }
    have hdue := hdue s hs capture hcapture hexempt
    rw [show e.session = some s from hs, Option.any_some] at hnot
    rwa [VoiceSessionState.hears, if_neg hnot, List.append_nil] at hdue

theorem dueBut_none : DueBut cfg prerollMs endpointId format none e ↔
    ∀ s ∈ e.session, ∀ capture ∈ captureIn prerollMs endpointId e.tape s.sessionId,
      isExempt cfg e = false →
        Joined prerollMs format capture e.audioChunks (receivedOf e.tape) ∧ Due cfg capture s.state := by
  simp [DueBut]

/-- The second half of the handler of a chunk. -/
theorem RecorderSound.afterElection (h : RecorderSound prerollMs endpointId format e)
    (hrecorder : cfg.wakeRecorder = true) (c : ChunkProgress)
    (hdue : DueBut cfg prerollMs endpointId format
      (if !c.wakeAccepted && !c.enrollmentCaptureAccepted then c.chunk else none) e) :
    RecorderOk cfg prerollMs endpointId format ((c.heard cfg e).taken
      (if !c.wakeAccepted && !c.enrollmentCaptureAccepted then c.chunk else none)) := by
  cases haccepted : c.wakeAccepted with
  | false =>
    have hheard : c.heard cfg e = e := by
      unfold ChunkProgress.heard
      cases hb : c.backend with
      | none => rfl
      | some b =>
        have hnot : b.2.accepted = false := by simpa [ChunkProgress.wakeAccepted, hb] using haccepted
        simp [hnot]
    rw [haccepted] at hdue
    rw [hheard]
    exact h.taken hdue
  | true =>
    rw [haccepted] at hdue
    have hok : RecorderOk cfg prerollMs endpointId format e :=
      { toRecorderSound := h, due := dueBut_none.mp hdue }
    have hheard : RecorderOk cfg prerollMs endpointId format (c.heard cfg e) := by
      unfold ChunkProgress.heard
      split
      · split
        · exact hok.accepted hrecorder _ _
        · exact hok
      · exact hok
    exact hheard.toRecorderSound.taken (dueBut_none.mpr hheard.due)

/-! ### The first half of the handler of a chunk -/

theorem payload_format (hformat : hasFormat cfg o format = true)
    (hon : o.chunkOn cfg = some (session, payload)) : payload.audioFormat = format := by
  simp only [hasFormat, hon, Option.all_some, Bool.and_eq_true, decide_eq_true_eq] at hformat
  exact hformat.1

theorem tape_received (chunk : Option Chunk) :
    (e.received chunk).tape = e.tape ++ (chunk.map Effect.chunkHandled).toList := rfl

theorem captureIn_received (chunk : Option Chunk) (id : SessionId) :
    captureIn prerollMs endpointId (e.received chunk).tape id =
      captureIn prerollMs endpointId e.tape id := by
  rw [tape_received, captureIn_append]
  cases chunk <;> simp [isWakeCall]

theorem receivedOf_received (chunk : Option Chunk) :
    receivedOf (e.received chunk).tape = receivedOf e.tape ++ chunk.toList := by
  rw [tape_received]
  cases chunk <;> simp

theorem tape_afterWindows (hrecorder : cfg.wakeRecorder = true) (d : Desk) (id : EndpointId)
    (payload : VoiceAudioChunkPayload) (session : VoiceSessionSnapshot) (chunk : Option Chunk) :
    (d.afterWindows cfg id payload session chunk).tape =
      (d.self.essence.received chunk).tape ++
        (microVadCalls session.sessionId payload (d.givesMicroVad cfg id) chunk ++
          wakeCalls session.sessionId payload (d.givesWakeRecorder cfg id session) chunk) ++
        if d.enrolls id session chunk then
          [.acceptedWakeMarked session.sessionId "speaker_id_enrollment_capture"] else [] :=
  tape_captured hrecorder ..

theorem receivedOf_afterWindows (hrecorder : cfg.wakeRecorder = true) (d : Desk) (id : EndpointId)
    (payload : VoiceAudioChunkPayload) (session : VoiceSessionSnapshot) (chunk : Option Chunk) :
    receivedOf (d.afterWindows cfg id payload session chunk).tape =
      receivedOf d.self.essence.tape ++ chunk.toList := by
  rw [tape_afterWindows hrecorder, List.append_assoc, receivedOf_append, receivedOf_received]
  cases chunk <;> cases d.givesMicroVad cfg id <;> cases d.givesWakeRecorder cfg id session <;>
    cases d.enrolls id session _ <;> simp [microVadCalls, wakeCalls, isReceipt]

/-- What the recorder holds of the session once the capture windows have seen a chunk: the
capture with the chunk, or as it was; and if it is not accepted, the enrollment window has not
just taken the session over. -/
theorem captureIn_afterWindows (hrecorder : cfg.wakeRecorder = true)
    (hpcm : format.encoding = .pcmS16le) (hformat : payload.audioFormat = format) (id : EndpointId)
    (h : captureIn prerollMs endpointId (d.afterWindows cfg id payload session chunk).tape
      session.sessionId = some capture) :
    ∃ capture₀, capture.audioFormat = capture₀.audioFormat ∧ capture.audio = capture₀.audio ∧
      (capture.accepted = none → d.enrolls id session chunk = false ∧ capture₀.accepted = none) ∧
      if d.givesWakeRecorder cfg id session ∧ bytesOf chunk.toList ≠ [] then
        capture₀ = trimCapture prerollMs ((WakeRecordingService.captureFor
          (captureIn prerollMs endpointId d.self.essence.tape session.sessionId) format).extend
            (bytesOf chunk.toList))
      else captureIn prerollMs endpointId d.self.essence.tape session.sessionId = some capture₀ := by
  have hgiven : ∀ capture₀, captureIn prerollMs endpointId ((d.self.essence.received chunk).tape ++
      (microVadCalls session.sessionId payload (d.givesMicroVad cfg id) chunk ++
        wakeCalls session.sessionId payload (d.givesWakeRecorder cfg id session) chunk))
      session.sessionId = some capture₀ →
      if d.givesWakeRecorder cfg id session ∧ bytesOf chunk.toList ≠ [] then
        capture₀ = trimCapture prerollMs ((WakeRecordingService.captureFor
          (captureIn prerollMs endpointId d.self.essence.tape session.sessionId) format).extend
            (bytesOf chunk.toList))
      else captureIn prerollMs endpointId d.self.essence.tape session.sessionId = some capture₀ := by
    intro capture₀ h₀
    rw [captureIn_given, captureIn_received, hformat] at h₀
    by_cases hgives : d.givesWakeRecorder cfg id session = true ∧ bytesOf chunk.toList ≠ []
    · rw [if_pos ⟨rfl, hgives.1, hgives.2, hpcm⟩] at h₀
      rw [if_pos hgives]
      exact (Option.some.inj h₀).symm
    · rw [if_neg fun h => hgives ⟨h.2.1, h.2.2.1⟩] at h₀
      rwa [if_neg hgives]
  rw [tape_afterWindows hrecorder] at h
  cases henrolls : d.enrolls id session chunk with
  | false =>
    rw [henrolls, if_neg Bool.false_ne_true, List.append_nil] at h
    exact ⟨capture, rfl, rfl, fun hnone => ⟨rfl, hnone⟩, hgiven capture h⟩
  | true =>
    rw [henrolls, if_pos rfl, captureIn_marked, if_pos rfl] at h
    obtain ⟨capture₀, h₀, rfl⟩ := Option.map_eq_some_iff.mp h
    exact ⟨capture₀, rfl, rfl, (fun hnone => nomatch hnone), hgiven capture₀ h₀⟩

theorem sound_of_received (h : RecorderSound prerollMs endpointId format o.desk.self.essence)
    (hrecorder : cfg.wakeRecorder = true) (hformat : hasFormat cfg o format = true)
    (hreceived : ChunkReceived cfg o progress d session payload)
    (heq : d.self.essence = (o.desk.afterWindows cfg o.ev.endpointId payload session
      progress.chunk).holding d.self.audioChunks) :
    RecorderSound prerollMs endpointId format d.self.essence := by
  have hs : o.desk.self.essence.session = some session.core := by
    rw [SessionRuntime.essence_session, hreceived.isActive, Option.map_some]
  have hchunk : ∀ c ∈ progress.chunk, c.arrival = o.desk.self.essence.arrivals ∧
      frameSize format ∣ c.bytes.length := by
    intro c hc
    rw [hreceived.chunk, Occasion.numbered, Option.mem_def, Option.map_eq_some_iff] at hc
    obtain ⟨bytes, hbytes, rfl⟩ := hc
    simp only [hasFormat, hreceived.chunkOn, Option.all_some, hbytes, Bool.and_eq_true,
      decide_eq_true_eq] at hformat
    exact ⟨rfl, hformat.2⟩
  have hgiven := (h.received hchunk).given (s := session.core) hs payload
    (o.desk.givesMicroVad cfg o.ev.endpointId)
    (o.desk.givesWakeRecorder cfg o.ev.endpointId session) progress.chunk
  rw [heq]
  exact (hgiven.captured hrecorder _ _ _ _).congr rfl le_rfl rfl rfl

theorem placementTest_captured (e : Essence) (id : SessionId) (window : Option PlacementWindow)
    (placement enrollment : Bool) : (e.captured cfg id window placement enrollment).placementTest =
      if placement then e.placementTest.map fun _ => window else e.placementTest := by
  cases placement <;> cases enrollment <;> rfl

/-- A session that is or becomes a placement test will not be recorded. -/
theorem not_placement_of_not_exempt {s : SessionCore} (hs : d.self.essence.session = some s)
    (hhistory : d.self.essence.placementTest.isSome = true) (id : EndpointId) (chunk : Option Chunk)
    (buffer : List Chunk)
    (h : isExempt cfg ((d.afterWindows cfg id payload session chunk).holding buffer) = false)
    (hpipeline : cfg.turnPipeline = true) :
    d.self.isPlacementTest = false ∧ d.places id session chunk = false := by
  have hnot : (d.afterWindows cfg id payload session chunk).isPlacementTest = false := by
    have h : isExempt cfg (d.afterWindows cfg id payload session chunk) = false := h
    simpa [isExempt, hpipeline] using h
  have hsome : (d.afterWindows cfg id payload session chunk).session.isSome = true := by
    rw [Desk.afterWindows, session_captured]
    simp [Essence.received, Essence.tell, hs]
  obtain ⟨test, htest⟩ := Option.isSome_iff_exists.mp hhistory
  rw [Essence.isPlacementTest, hsome, Bool.true_and, Desk.afterWindows, placementTest_captured]
    at hnot
  cases hplaces : d.places id session chunk with
  | true =>
    -- the window that takes the session over is open
    have hopen : (d.livePlacementWindow id).isSome = true := by
      simp only [Desk.places, Bool.and_eq_true] at hplaces
      rw [Desk.isSome_livePlacementWindow]
      exact hplaces.1.1.2
    simp [hplaces, Essence.received, Essence.tell, htest, hopen] at hnot
  | false =>
    refine ⟨?_, rfl⟩
    rw [← SessionRuntime.isPlacementTest_essence, Essence.isPlacementTest, hs, Option.isSome_some,
      Bool.true_and]
    simpa [hplaces, Essence.received, Essence.tell] using hnot

/-- The buffer with what the second half appends: with the chunk, or as it was. -/
theorem buffer_of_received (h : ChunkReceived cfg o progress d session payload) :
    d.self.audioChunks ++
        (if hearsChunk cfg o session then (if !progress.wakeAccepted &&
          !progress.enrollmentCaptureAccepted then progress.chunk else none).toList else []) =
      o.desk.self.audioChunks ++ if appends cfg o session then progress.chunk.toList else [] := by
  rw [audioChunks_of_received h, h.chunk, List.append_assoc]
  congr 1
  rw [h.enrollment]
  cases hover : overhears cfg o session with
  | true =>
    -- a session that overhears is idle, and not taken over
    simp only [overhears, Bool.and_eq_true, decide_eq_true_eq, Bool.not_eq_true'] at hover
    obtain ⟨⟨⟨hidle, hplacement⟩, henrollment⟩, hinterrupt⟩ := hover
    simp [appends, overhears, hearsChunk, hidle, hplacement, henrollment, hinterrupt, takeoverPath,
      VoiceSessionState.along, VoiceSessionState.hears]
  | false =>
    cases hhears : hearsChunk cfg o session with
    | false => simp [appends, hover, hhears]
    | true =>
      have hnot : progress.wakeAccepted = false := by
        by_contra haccepted
        obtain ⟨hidle, hplacement, henrollment⟩ := idle_of_wakeAccepted h (by simpa using haccepted)
        simp [hearsChunk, hidle, hplacement, henrollment, takeoverPath, VoiceSessionState.along,
          VoiceSessionState.hears] at hhears
      cases henrollment : o.enrollmentTakesOver cfg <;> simp [appends, hover, hhears, hnot, henrollment]

/-- The capture that a chunk goes to, while the buffer is empty. -/
theorem captureFor_joined {buffer : List Chunk} {found : Option WakeCapture}
    (h : RecorderSound prerollMs endpointId format e) (hbuffer : bytesOf buffer = [])
    (hfound : ∀ capture ∈ found, Joined prerollMs format capture buffer (receivedOf e.tape)) :
    (WakeRecordingService.captureFor found format).audioFormat = format ∧
      ∃ k, k ≤ (bytesOf (receivedOf e.tape)).length ∧ frameSize format ∣ k ∧
        (WakeRecordingService.captureFor found format).audio =
          (bytesOf (receivedOf e.tape)).drop k := by
  cases found with
  | none =>
    refine ⟨rfl, _, le_rfl, frameSize_dvd_bytesOf h.frames, ?_⟩
    rw [List.drop_length]
    rfl
  | some capture =>
    have hjoined := hfound capture rfl
    have hsame : WakeRecordingService.captureFor (some capture) format = capture := by
      simp [WakeRecordingService.captureFor, hjoined.audioFormat]
    obtain ⟨k, hk, hdvd, haudio⟩ := hjoined.joined
    rw [hbuffer, List.append_nil] at haudio
    rw [hsame]
    exact ⟨hjoined.audioFormat, k, hk, hdvd, haudio⟩

/-- Where a chunk with audio goes. -/
theorem ways_of_savesOnce (h : savesOnce cfg o prerollMs endpointId = true)
    (hon : o.chunkOn cfg = some (session, payload))
    (hplacement : cfg.turnPipeline = true →
      o.desk.self.isPlacementTest = false ∧ o.placementTakesOver cfg = false)
    (hne : bytesOf (o.numbered payload).toList ≠ []) :
    if o.desk.givesWakeRecorder cfg o.ev.endpointId session then
      appends cfg o session = false ∧ bytesOf o.desk.self.audioChunks = [] ∧
        (session.sessionState = .idle ∨ o.enrollmentTakesOver cfg = true)
    else appends cfg o session = true ∨
      captureIn prerollMs endpointId o.desk.self.essence.tape session.sessionId = none := by
  have haudio : payload.audioBytes.all (· = []) = false := by
    cases hbytes : payload.audioBytes with
    | none => simp [Occasion.numbered, hbytes, bytesOf] at hne
    | some bytes => simpa [Occasion.numbered, hbytes, bytesOf] using hne
  have htest : (cfg.turnPipeline && (o.desk.self.isPlacementTest || o.placementTakesOver cfg)) =
      false := by
    cases hpipeline : cfg.turnPipeline with
    | false => rfl
    | true => simp [hplacement hpipeline]
  simp only [savesOnce, hon, haudio, htest, Bool.false_or] at h
  split at h
  · next hgives =>
    rw [if_pos hgives]
    simpa [and_assoc] using h
  · next hgives =>
    rw [if_neg hgives]
    simpa using h

/-- What is missing from the buffer after the first half is what the second half appends. -/
theorem dueBut_of_received (h : RecorderOk cfg prerollMs endpointId format o.desk.self.essence)
    (hrecorder : cfg.wakeRecorder = true) (hpcm : format.encoding = .pcmS16le)
    (hformat : hasFormat cfg o format = true)
    (hsaves : savesOnce cfg o prerollMs endpointId = true)
    (hreceived : ChunkReceived cfg o progress d session payload)
    (heq : d.self.essence = (o.desk.afterWindows cfg o.ev.endpointId payload session
      progress.chunk).holding d.self.audioChunks) :
    DueBut cfg prerollMs endpointId format
      (if !progress.wakeAccepted && !progress.enrollmentCaptureAccepted then progress.chunk
        else none) d.self.essence := by
  have hs : o.desk.self.essence.session = some session.core := by
    rw [SessionRuntime.essence_session, hreceived.isActive, Option.map_some]
  obtain ⟨hplaces, henrolls⟩ := takeover_of_chunkOn hreceived.chunkOn
  have hcore : session.core.state = session.sessionState := rfl
  intro s' hs' capture hcapture hexempt
  -- the session and what the recorder holds of it
  obtain ⟨s, hs₀, rfl⟩ := Option.map_eq_some_iff.mp ((session_captured _ _ _ _ _).symm.trans
    ((congrArg Essence.session heq).symm.trans (Option.mem_def.mp hs')))
  obtain rfl : session.core = s := Option.some.inj (hs.symm.trans hs₀)
  rw [heq, Essence.tape_holding, Option.mem_def] at hcapture
  obtain ⟨capture₀, hformat₀, haudio₀, haccepted₀, hwhich⟩ :=
    captureIn_afterWindows hrecorder hpcm (payload_format hformat hreceived.chunkOn) _ hcapture
  rw [heq] at hexempt
  have hplacement := not_placement_of_not_exempt hs (h.history (by simp [hs])) _ _ _ hexempt
  have hexempt₀ : isExempt cfg o.desk.self.essence = false := by
    cases hpipeline : cfg.turnPipeline with
    | false => simp [isExempt, hpipeline]
    | true => simp [isExempt, SessionRuntime.isPlacementTest_essence, (hplacement hpipeline).1]
  rw [heq, Essence.tape_holding, receivedOf_afterWindows hrecorder]
  have hchunk := hreceived.chunk
  rw [hchunk, ← henrolls] at haccepted₀
  rw [hchunk, ← hplaces] at hplacement
  rw [hchunk] at hwhich
  have hhears : (session.core.state.along (takeoverPath
      (o.desk.places o.ev.endpointId session progress.chunk)
      (o.desk.enrolls o.ev.endpointId session progress.chunk))).hears = hearsChunk cfg o session := by
    rw [hchunk, ← hplaces, ← henrolls]
    rfl
  have hbuffer := buffer_of_received hreceived
  simp only [hhears]
  rw [show ∀ e : Essence, ∀ b, (e.holding b).audioChunks = b from fun _ _ => rfl, hbuffer, hchunk]
  -- unless the chunk is handed to the recorder, the capture was there before
  have hold : captureIn prerollMs endpointId o.desk.self.essence.tape session.sessionId =
      some capture₀ → Joined prerollMs format capture₀ o.desk.self.audioChunks
        (receivedOf o.desk.self.essence.tape) ∧ Due cfg capture₀ session.core.state :=
    fun hcapture₀ => h.due _ hs capture₀ hcapture₀ hexempt₀
  -- where the session is in the end
  have hdue (hnot : session.sessionState ≠ .responding)
      (hunaccepted : cfg.turnPipeline = true → capture₀.accepted = none →
        o.enrollmentTakesOver cfg = false →
          session.sessionState = .idle ∨ isOver session.sessionState = true) :
      Due cfg capture (session.core.state.along (takeoverPath
        (o.desk.places o.ev.endpointId session (o.numbered payload))
        (o.desk.enrolls o.ev.endpointId session (o.numbered payload)))) := by
    refine ⟨along_ne _ (by decide) ?_ hnot, fun hpipeline haccepted => ?_⟩
    · cases o.desk.places o.ev.endpointId session (o.numbered payload) <;>
        cases o.desk.enrolls o.ev.endpointId session (o.numbered payload) <;> decide
    · obtain ⟨hnotEnrolls, haccepted⟩ := haccepted₀ haccepted
      rw [← hplaces, ← henrolls, (hplacement hpipeline).2, hnotEnrolls]
      exact hunaccepted hpipeline haccepted hnotEnrolls
  by_cases hne : bytesOf (o.numbered payload).toList = []
  · -- a chunk without audio changes nothing
    rw [if_neg fun hgives => hgives.2 hne] at hwhich
    obtain ⟨hjoined, hstate⟩ := hold hwhich
    refine ⟨hjoined.congr hformat₀ haudio₀ ?_ ?_, hdue hstate.ne_responding
      fun hpipeline haccepted _ => hstate.unaccepted hpipeline haccepted⟩
    · rw [bytesOf_append]
      split
      · rw [hne, List.append_nil]
      · exact List.append_nil _
    · rw [bytesOf_append, hne, List.append_nil]
  · have hways := ways_of_savesOnce hsaves hreceived.chunkOn hplacement hne
    cases hgives : o.desk.givesWakeRecorder cfg o.ev.endpointId session with
    | true =>
      rw [hgives, if_pos rfl] at hways
      rw [if_pos ⟨hgives, hne⟩] at hwhich
      obtain ⟨happends, hempty, hidle⟩ := hways
      have hnot : session.sessionState ≠ .responding := by
        rintro hresponding
        rcases hidle with hidle | henrolls'
        · rw [hresponding] at hidle
          cases hidle
        · rw [henrolls] at henrolls'
          simp [Desk.enrolls, Desk.capturable, hresponding, capturableStates] at henrolls'
      refine ⟨?_, hdue hnot fun _ _ hno => .inl (hidle.resolve_right (by simp [hno]))⟩
      rw [happends, if_neg Bool.false_ne_true, List.append_nil]
      have hbase := captureFor_joined h.toRecorderSound hempty
        fun capture hcapture => (h.due _ hs capture hcapture hexempt₀).1
      exact (hwhich ▸ joined_of_captured hbase.1 hempty hne hbase.2).congr hformat₀ haudio₀ rfl rfl
    | false =>
      rw [hgives, if_neg Bool.false_ne_true] at hways
      rw [if_neg (by simp [hgives])] at hwhich
      obtain ⟨hjoined, hstate⟩ := hold hwhich
      have happends := hways.resolve_right fun hnone => by cases hnone.symm.trans hwhich
      rw [happends, if_pos rfl]
      refine ⟨(hjoined.append _).congr hformat₀ haudio₀ rfl rfl, hdue hstate.ne_responding
        fun hpipeline haccepted _ => hstate.unaccepted hpipeline haccepted⟩

end chunk

/-! ### Runs -/

theorem recorderOk_upkeep (cfg : Config) (prerollMs : ℕ) (endpointId : EndpointId)
    (format : VoiceAudioFormat) (hrecorder : cfg.wakeRecorder = true)
    (hpcm : format.encoding = .pcmS16le) (hpreroll : 1 ≤ prerollMs) :
    Upkeep cfg (fun o => hasFormat cfg o format = true ∧ savesOnce cfg o prerollMs endpointId = true)
      (RecorderOk cfg prerollMs endpointId format)
      (fun c e => RecorderOk cfg prerollMs endpointId format (e.ended cfg) ∧
        RecorderOk cfg prerollMs endpointId format ((c.heard cfg e).taken
          (if !c.wakeAccepted && !c.enrollmentCaptureAccepted then c.chunk else none))) where
  ended h := h.toRecorderSound.ended hrecorder
  endedBetween := by
    rintro c e ⟨h, -⟩
    refine ⟨h.toRecorderSound.ended hrecorder, h.toRecorderSound.afterElection hrecorder c ?_⟩
    rintro s ⟨⟩
  begun := by
    intro e session placementTest path h hnone _ _
    exact h.begun hnone session placementTest path
  listening h _ hresponding := h.listening hresponding
  audioEnd := by
    intro o session e _ _ hactive h hend
    refine h.audioEnd hrecorder hpreroll hpcm ?_ hend
    rw [SessionRuntime.essence_session, hactive, Option.map_some]
  chunk := by
    rintro o c d session payload ⟨hformat, hsaves⟩ h hreceived heq
    have hsound := sound_of_received h.toRecorderSound hrecorder hformat hreceived heq
    refine ⟨hsound.ended hrecorder, hsound.afterElection hrecorder c ?_⟩
    exact dueBut_of_received h hrecorder hpcm hformat hsaves hreceived heq
  taken h := h.2
  accepted sessionId source h := h.accepted hrecorder sessionId source

theorem recorderOk_init (cfg : Config) (prerollMs : ℕ) (endpointId : EndpointId)
    (format : VoiceAudioFormat) (i : RuntimeId) :
    RecorderOk cfg prerollMs endpointId format ((VoiceSessionManager.init cfg).sessions i).essence where
  saved := allSavedOnce_nil
  own := by rintro sessionId ⟨⟩
  history := by rintro ⟨⟩
  fresh := by rintro c ⟨⟩
  once := List.nodup_nil
  frames := by rintro c ⟨⟩
  due := by rintro s ⟨⟩

/-- **A chunk is saved once.** -/
theorem saved_once (cfg : Config) (i : RuntimeId) (prerollMs : ℕ) (endpointId : EndpointId)
    (format : VoiceAudioFormat) (inputs : List Input) (hrecorder : cfg.wakeRecorder = true)
    (hpcm : format.encoding = .pcmS16le) (hpreroll : 1 ≤ prerollMs)
    (hok : AllSteps (Voice.step cfg) (Meets (fun o => hasFormat cfg o format = true ∧
      savesOnce cfg o prerollMs endpointId = true) i) (.init cfg) inputs) :
    AllSavedOnce prerollMs endpointId
      ((run (Voice.step cfg) (.init cfg) inputs).sessions i).essence.tape :=
  ((recorderOk_upkeep cfg prerollMs endpointId format hrecorder hpcm hpreroll).run_keeps
    (VoiceSessionManager.init_steady cfg) hok (recorderOk_init ..)).saved

/-- The manager has a wake recorder. -/
def wakeRecorderConfig : Config := { wakeRecorder := true }

/-- The wake is accepted between two chunks of two frames each. -/
def recordedUtterance : List Input :=
  [kitchenConnects, kitchen .sessionStart, kitchen .audioChunk (chunkPayload "AAECAw=="),
    kitchen .wakeCandidate, kitchen .audioChunk (chunkPayload "BAUGBw=="), kitchen .audioEnd]

theorem saved_once_utterance :
    AllSavedOnce 2000 "kitchen" ((run (Voice.step wakeRecorderConfig) (.init wakeRecorderConfig)
      recordedUtterance).sessions (.connection 0)).essence.tape :=
  saved_once wakeRecorderConfig (.connection 0) 2000 "kitchen" {} recordedUtterance rfl rfl
    (by decide) (by decide +kernel)

/-- An enrollment window is open while a session is started and speaks. -/
def enrolledUtterance : List Input :=
  [kitchenConnects, .startSpeakerEnrollmentCaptureWindow "kitchen" 30, kitchen .sessionStart,
    kitchen .audioChunk (chunkPayload "AAECAw=="), kitchen .audioChunk (chunkPayload "BAUGBw=="),
    kitchen .audioEnd]

/-- What was called in `enrolledUtterance`. -/
def enrolledTape : List Effect :=
  ((run (Voice.step wakeRecorderConfig) (.init wakeRecorderConfig) enrolledUtterance).sessions
    (.connection 0)).essence.tape

/-- Under the enrollment window the second chunk is recorded twice: of eight bytes twelve are
recorded. -/
theorem enrollment_saved_twice : ¬ AllSavedOnce 2000 "kitchen" enrolledTape := by
  intro h
  have hsplit : enrolledTape = enrolledTape.take 6 ++
      .acceptedSessionRecorded "s" [⟨1, [4, 5, 6, 7]⟩] :: enrolledTape.drop 7 := by decide +kernel
  have hlength : (recordedBy 2000 "kitchen" (enrolledTape.take 6) "s" [⟨1, [4, 5, 6, 7]⟩]).map
      (·.audio.length) = some 12 := by decide +kernel
  have hreceived : (bytesOf (receivedOf (enrolledTape.take 6))).length = 8 := by decide +kernel
  obtain ⟨recording, hrecording, haudio⟩ := Option.map_eq_some_iff.mp hlength
  obtain ⟨k, -, hsuffix⟩ := (h _ _ _ _ hsplit recording hrecording).suffix
  rw [hsuffix, List.length_drop, hreceived] at haudio
  omega

end HexeVoice.Recordings
