import HexeVoice.Voice.Upkeep

/-!
# The audio of a placement test is not kept

## The model

A placement-test window that is opened without `debug_record_audio` keeps no audio: what a
session hears that has been marked as its test is given to no recorder and to no turn. The
mark stands in the session's history; whether a chunk is given away is decided by the window
that the endpoint has open when the chunk arrives.

## What is proved

**`placement_audio_discarded`**: from when a session is marked until it is cleared none of its
audio is handed away, while its chunks arrive under a window that keeps no audio and the manager
has a turn pipeline when its audio ends. **`expired_placement_audio_kept`**: a chunk that arrives
after the window has expired is handed to the micro-VAD recorder.
-/

namespace HexeVoice.Voice

open HexeVoice.Library

/-! ### Calls that hand audio away -/

/-- The call hands audio of a session to a recorder or to a turn. -/
def Effect.handsAudio : Effect → Bool
  | .wakeChunkCaptured .. | .microVadCaptured .. | .completeTurn _ | .acceptedSessionRecorded .. =>
    true
  | _ => false

namespace Essence

variable {e e' : Essence} {cfg : Config}

theorem prefix_captured (sessionId : SessionId) (window : Option PlacementWindow)
    (placement enrollment : Bool) :
    e.tape <+: (e.captured cfg sessionId window placement enrollment).tape := by
  cases placement <;> cases enrollment <;>
    simp [captured, placed, enrolled, marked, tell]

theorem prefix_accepted (sessionId : SessionId) (source : String) :
    e.tape <+: (e.accepted cfg sessionId source).tape := by
  simp [accepted]

theorem prefix_audioEnded {session : VoiceSessionSnapshot} (h : e.AudioEnded cfg session e') :
    e.tape <+: e'.tape := by
  cases h <;> simp [tape_ended]

theorem prefix_afterWindows (d : Desk) (endpointId : EndpointId) (payload : VoiceAudioChunkPayload)
    (session : VoiceSessionSnapshot) (chunk : Option Chunk) :
    d.self.essence.tape <+: (d.afterWindows cfg endpointId payload session chunk).tape := by
  refine List.IsPrefix.trans ?_ (prefix_captured ..)
  simp [received]

theorem prefix_heard (c : ChunkProgress) : e.tape <+: (c.heard cfg e).tape := by
  unfold ChunkProgress.heard
  split
  · split
    · exact prefix_accepted ..
    · exact List.prefix_refl _
  · exact List.prefix_refl _

end Essence

/-! ### A session that is a placement test -/

namespace Essence

variable (serial : ℕ) (w : PlacementWindow)

/-- The session is under way, and its history says that it is the test of the window. -/
def MarkedBy (e : Essence) : Prop :=
  (e.session.any fun s => s.serial = serial) = true ∧ e.placementTest = some (some w)

variable {serial w} {e : Essence} {cfg : Config}

theorem MarkedBy.isPlacementTest (h : e.MarkedBy serial w) : e.isPlacementTest = true := by
  obtain ⟨hserial, htest⟩ := h
  cases hs : e.session with
  | none => simp [hs] at hserial
  | some s => simp [Essence.isPlacementTest, hs, htest]

theorem MarkedBy.clearing (h : e.MarkedBy serial w) : e.clearing = [.sessionCleared serial] := by
  obtain ⟨hserial, -⟩ := h
  cases hs : e.session with
  | none => simp [hs] at hserial
  | some s => simpa [Essence.clearing, hs] using hserial

theorem MarkedBy.tell (h : e.MarkedBy serial w) (calls : List Effect) :
    (e.tell calls).MarkedBy serial w := h

theorem MarkedBy.holding (h : e.MarkedBy serial w) (buffer : List Chunk) :
    (e.holding buffer).MarkedBy serial w := h

theorem MarkedBy.append (h : e.MarkedBy serial w) (chunk : Option Chunk) :
    (e.append chunk).MarkedBy serial w := h

theorem MarkedBy.move (h : e.MarkedBy serial w) (next : VoiceSessionState) :
    (e.move next).MarkedBy serial w := by
  obtain ⟨hserial, htest⟩ := h
  refine ⟨?_, htest⟩
  cases hs : e.session with
  | none => simp [hs] at hserial
  | some s => simpa [Essence.move, hs, SessionCore.moved] using hserial

theorem MarkedBy.follow (h : e.MarkedBy serial w) (path : List VoiceSessionState) :
    (e.follow path).MarkedBy serial w := by
  induction path generalizing e with
  | nil => exact h
  | cons next path ih => exact ih (h.move next)

theorem MarkedBy.taken (h : e.MarkedBy serial w) (chunk : Option Chunk) :
    (e.taken chunk).MarkedBy serial w := by
  unfold Essence.taken
  split
  · exact (h.move _).append chunk
  · exact h

end Essence

/-- Since the tape was `base`, nothing of the audio of the session was handed away: it is still
the test of the window, or it has been cleared. -/
inductive AudioKept (base : List Effect) (serial : ℕ) (w : PlacementWindow) (e : Essence) : Prop
  | going (calls : List Effect) (hkept : ∀ c ∈ calls, c.handsAudio = false)
      (htape : e.tape = base ++ calls) (hmarked : e.MarkedBy serial w)
  | cleared (calls : List Effect) (hkept : ∀ c ∈ calls, c.handsAudio = false)
      (htape : base ++ (calls ++ [.sessionCleared serial]) <+: e.tape)

namespace AudioKept

variable {base : List Effect} {serial : ℕ} {w : PlacementWindow} {e e' : Essence} {cfg : Config}

theorem refl (h : e.MarkedBy serial w) : AudioKept e.tape serial w e :=
  .going [] (by simp) (by simp) h

/-- What happens next need only be looked at while the session goes on. -/
theorem trans (h : AudioKept base serial w e) (hle : e.tape <+: e'.tape)
    (hgoing : e.MarkedBy serial w → AudioKept e.tape serial w e') :
    AudioKept base serial w e' := by
  cases h with
  | cleared calls hkept htape => exact .cleared calls hkept (htape.trans hle)
  | going calls hkept htape hmarked =>
    cases hgoing hmarked with
    | going calls' hkept' htape' hmarked' =>
      refine .going (calls ++ calls') ?_ (by rw [htape', htape, List.append_assoc]) hmarked'
      exact List.forall_mem_append.mpr ⟨hkept, hkept'⟩
    | cleared calls' hkept' htape' =>
      refine .cleared (calls ++ calls') (List.forall_mem_append.mpr ⟨hkept, hkept'⟩) ?_
      rw [htape] at htape'
      simpa [List.append_assoc] using htape'

theorem mem_of_mem_takeWhile_append {α : Type} {p : α → Bool} {x c : α} {xs ys : List α}
    (hx : p x = false) (hc : c ∈ (xs ++ x :: ys).takeWhile p) : c ∈ xs := by
  induction xs with
  | nil => simp [hx] at hc
  | cons y xs ih =>
    rw [List.cons_append, List.takeWhile_cons] at hc
    split at hc
    · rcases List.mem_cons.mp hc with rfl | hc
      · exact List.mem_cons_self
      · exact List.mem_cons_of_mem _ (ih hc)
    · cases hc

theorem not_handsAudio (h : AudioKept base serial w e) :
    ∀ c ∈ (e.tape.drop base.length).takeWhile (· ≠ .sessionCleared serial),
      c.handsAudio = false := by
  cases h with
  | going calls hkept htape hmarked =>
    rw [htape, List.drop_left]
    exact fun c hc => hkept c (List.takeWhile_subset _ hc)
  | cleared calls hkept htape =>
    -- the call that clears the session ends the time in which its audio must be kept
    obtain ⟨rest, htape⟩ := htape
    rw [← htape, List.append_assoc, List.drop_left, List.append_assoc]
    exact fun c hc => hkept c (mem_of_mem_takeWhile_append (by simp) hc)

theorem prefix_tape (h : AudioKept base serial w e) : base <+: e.tape := by
  cases h with
  | going calls _ htape _ => exact ⟨calls, htape.symm⟩
  | cleared calls _ htape => exact (List.prefix_append _ _).trans htape

theorem ended (h : e.MarkedBy serial w) : AudioKept e.tape serial w (e.ended cfg) := by
  refine .cleared (e.closing cfg) ?_ ?_
  · unfold Essence.closing
    cases e.session <;> simp [Effect.handsAudio]
  · rw [Essence.tape_ended, h.clearing]

theorem holding (buffer : List Chunk) (h : AudioKept base serial w e) :
    AudioKept base serial w (e.holding buffer) :=
  h.trans (List.prefix_refl _) fun hmarked => .refl (hmarked.holding buffer)

theorem audioEnd {session : VoiceSessionSnapshot} (h : e.MarkedBy serial w)
    (hkeeps : cfg.turnPipeline = true ∨ session.sessionState = .idle)
    (hend : e.AudioEnded cfg session e') : AudioKept e.tape serial w e' := by
  have hplacement := h.isPlacementTest
  cases hend with
  | discarded => exact ended h
  | recorded turn hstate hpipeline =>
    -- without a turn pipeline only the end of an idle session's audio keeps it
    have hno := hpipeline (hkeeps.resolve_right hstate)
    rw [hplacement] at hno
    cases hno
  | awaiting audio hanswer hstate hpipeline hno =>
    rw [hplacement] at hno
    cases hno

theorem accepted (h : e.MarkedBy serial w) (sessionId : SessionId) (source : String) :
    AudioKept e.tape serial w (e.accepted cfg sessionId source) := by
  refine .going _ ?_ (by rw [Essence.accepted, Essence.tape_follow, Essence.tape_tell])
    ((h.tell _).follow _)
  split <;> simp [Effect.handsAudio]

theorem heard (h : e.MarkedBy serial w) (c : ChunkProgress) :
    AudioKept e.tape serial w (c.heard cfg e) := by
  unfold ChunkProgress.heard
  split
  · split
    · exact accepted h ..
    · exact refl h
  · exact refl h

end AudioKept

/-! ### Chunks -/

section chunks

variable {cfg : Config} {d : Desk} {endpointId : EndpointId} {session : VoiceSessionSnapshot}
  {serial : ℕ} {w : PlacementWindow}

theorem not_givesMicroVad (h : d.discardsAudio endpointId = true) :
    d.givesMicroVad cfg endpointId = false := by
  simp [Desk.givesMicroVad, h]

/-- An idle session could be captured, and so the window keeps its audio too. -/
theorem not_givesWakeRecorder (h : d.discardsAudio endpointId = true) :
    d.givesWakeRecorder cfg endpointId session = false := by
  cases hc : Desk.capturable session with
  | true => simp [Desk.givesWakeRecorder, h, hc]
  | false =>
    have hidle : session.sessionState ≠ .idle := by
      rintro hidle
      simp [Desk.capturable, capturableStates, hidle] at hc
    simp [Desk.givesWakeRecorder, hc, hidle]

theorem AudioKept.chunk (payload : VoiceAudioChunkPayload) {chunk : Option Chunk}
    (h : d.self.essence.MarkedBy serial w)
    (hkeeps : chunk = none ∨ d.discardsAudio endpointId = true) :
    AudioKept d.self.essence.tape serial w
      (d.afterWindows cfg endpointId payload session chunk) := by
  have hplaces : d.places endpointId session chunk = false := by
    have hplacement := h.isPlacementTest
    rw [SessionRuntime.isPlacementTest_essence] at hplacement
    simp [Desk.places, hplacement]
  have hcalls : microVadCalls session.sessionId payload (d.givesMicroVad cfg endpointId) chunk ++
      wakeCalls session.sessionId payload (d.givesWakeRecorder cfg endpointId session) chunk = [] := by
    rcases hkeeps with rfl | hkeeps
    · rfl
    · rw [not_givesMicroVad hkeeps, not_givesWakeRecorder hkeeps]
      simp [microVadCalls, wakeCalls]
  have hreceived : AudioKept d.self.essence.tape serial w (d.self.essence.received chunk) :=
    .going _ (by simp [Effect.handsAudio]) rfl h
  unfold Desk.afterWindows
  rw [hplaces, hcalls, Essence.tell_nil]
  unfold Essence.captured
  cases d.enrolls endpointId session chunk with
  | false => exact hreceived
  | true =>
    refine hreceived.trans (by simp [Essence.enrolled]) fun h => ?_
    refine .going _ ?_ rfl ((h.tell _).move _)
    split <;> simp [Effect.handsAudio]

end chunks

/-! ### Runs -/

/-- The session under way is the test of a window that keeps no audio. -/
def SessionRuntime.isPrivateTest (r : SessionRuntime) : Bool :=
  r.activeSession.isSome && r.activeSessionHistory.any (·.placementTest.any (!·.debugRecordAudio))

/-- The event gives away nothing of the audio of a placement test that is not to be kept: a
chunk arrives while the endpoint's open window keeps no audio, and audio ends where the manager
has a turn pipeline or no wake was accepted. -/
def Occasion.keepsTestPrivate (cfg : Config) (o : Occasion) : Bool :=
  !o.desk.self.isPrivateTest ||
    (o.chunkOn cfg).all (fun c => c.2.audioBytes.isNone || o.desk.discardsAudio o.ev.endpointId) &&
      o.audioEndSession.all fun s => cfg.turnPipeline || s.sessionState = .idle

theorem keepsTestPrivate_of_markedBy {cfg : Config} {o : Occasion} {serial : ℕ}
    {w : PlacementWindow} (hkeeps : o.keepsTestPrivate cfg = true)
    (h : o.desk.self.essence.MarkedBy serial w) (hw : w.debugRecordAudio = false) :
    (∀ c ∈ o.chunkOn cfg, c.2.audioBytes = none ∨ o.desk.discardsAudio o.ev.endpointId = true) ∧
      ∀ s ∈ o.audioEndSession, cfg.turnPipeline = true ∨ s.sessionState = .idle := by
  have hprivate : o.desk.self.isPrivateTest = true := by
    obtain ⟨hserial, htest⟩ := h
    cases hs : o.desk.self.activeSession with
    | none => simp [SessionRuntime.essence, hs] at hserial
    | some s =>
      obtain ⟨history, hhistory, htest⟩ := Option.map_eq_some_iff.mp htest
      simp [SessionRuntime.isPrivateTest, hs, hhistory, htest, hw]
  simp only [Occasion.keepsTestPrivate, hprivate, Bool.not_true, Bool.false_or, Bool.and_eq_true]
    at hkeeps
  refine ⟨fun c hc => ?_, fun s hs => ?_⟩
  · have hchunk := hkeeps.1
    rw [Option.mem_def.mp hc] at hchunk
    simpa using hchunk
  · have hend := hkeeps.2
    rw [Option.mem_def.mp hs] at hend
    simpa using hend

theorem audioKept_upkeep (cfg : Config) (base : List Effect) (serial : ℕ) {w : PlacementWindow}
    (hw : w.debugRecordAudio = false) :
    Upkeep cfg (fun o => o.keepsTestPrivate cfg = true) (AudioKept base serial w)
      fun _ => AudioKept base serial w where
  ended h := h.trans (by simp [Essence.tape_ended]) AudioKept.ended
  endedBetween h := h.trans (by simp [Essence.tape_ended]) AudioKept.ended
  begun := by
    intro e session placementTest path h hnone _ _
    refine h.trans (by simp [Essence.begun]) fun hmarked => ?_
    simp [Essence.MarkedBy, hnone] at hmarked
  listening h _ _ := h.trans (by simp) fun hmarked => .going [] (by simp) (by simp) (hmarked.move _)
  audioEnd hkeeps hend hactive h hended := by
    refine h.trans (Essence.prefix_audioEnded hended) fun hmarked => ?_
    exact .audioEnd hmarked ((keepsTestPrivate_of_markedBy hkeeps hmarked hw).2 _ hend) hended
  chunk hkeeps h hreceived heq := by
    rw [heq]
    refine h.trans (Essence.prefix_afterWindows ..) fun hmarked => .holding _ (.chunk _ hmarked ?_)
    rw [hreceived.chunk, Occasion.numbered, Option.map_eq_none_iff]
    exact (keepsTestPrivate_of_markedBy hkeeps hmarked hw).1 _ hreceived.chunkOn
  taken := by
    intro c e h
    have hheard : AudioKept base serial w (c.heard cfg e) :=
      h.trans (Essence.prefix_heard c) fun hmarked => .heard hmarked c
    refine hheard.trans (by rw [Essence.tape_taken]) fun hmarked => ?_
    exact .going [] (by simp) (by rw [Essence.tape_taken, List.append_nil]) (hmarked.taken _)
  accepted sessionId source h :=
    h.trans (Essence.prefix_accepted ..) fun hmarked => .accepted hmarked ..

/-- What was called since, up to where the session was cleared. -/
def Essence.callsOf (before after : Essence) (serial : ℕ) : List Effect :=
  (after.tape.drop before.tape.length).takeWhile (· ≠ .sessionCleared serial)

instance (e : Essence) (serial : ℕ) (w : PlacementWindow) : Decidable (e.MarkedBy serial w) :=
  inferInstanceAs (Decidable (_ ∧ _))

/-- **Placement audio is discarded.** -/
theorem placement_audio_discarded (cfg : Config) (i : RuntimeId) (opening inputs : List Input)
    (serial : ℕ) (w : PlacementWindow) (hdebug : w.debugRecordAudio = false)
    (hmarked : ((run (step cfg) (.init cfg) opening).sessions i).essence.MarkedBy serial w)
    (hok : AllSteps (step cfg) (Meets (fun o => o.keepsTestPrivate cfg = true) i)
      (run (step cfg) (.init cfg) opening) inputs) :
    let before := ((run (step cfg) (.init cfg) opening).sessions i).essence
    let after := ((run (step cfg) (.init cfg) (opening ++ inputs)).sessions i).essence
    before.tape <+: after.tape ∧ ∀ c ∈ before.callsOf after serial, c.handsAudio = false := by
  intro before after
  have hkept : AudioKept before.tape serial w after := by
    have hrun := (audioKept_upkeep cfg before.tape serial hdebug).run_keeps (run_steady cfg opening)
      hok (.refl hmarked)
    rwa [← run_append] at hrun
  exact ⟨hkept.prefix_tape, hkept.not_handsAudio⟩

/-- A window of half a minute is opened, and after 28 seconds a session starts under it. -/
def lateTest : List Input :=
  [kitchenConnects, .startPlacementTestWindow "kitchen" "kitchen" "what time is it" 30 false,
    .tick 28000000, kitchen .sessionStart]

/-- The window of `lateTest`. -/
def lateTestWindow : PlacementWindow :=
  { testId := "placement-0", debugRecordAudio := false, expiresAt := 30000000 }

/-- A manager that records. -/
def recordingConfig : Config := { wakeRecorder := true, microVadChunkRecorder := true }

theorem placement_audio_discarded_late :
    let before := ((run (step recordingConfig) (.init recordingConfig) lateTest).sessions
      (.connection 0)).essence
    let after := ((run (step recordingConfig) (.init recordingConfig)
      (lateTest ++ [kitchen .audioChunk (chunkPayload "AAEC")])).sessions (.connection 0)).essence
    before.tape <+: after.tape ∧ ∀ c ∈ before.callsOf after 1, c.handsAudio = false :=
  placement_audio_discarded recordingConfig (.connection 0) lateTest _ 1 lateTestWindow rfl
    (by decide +kernel) (by decide +kernel)

/-- When the chunk arrives three seconds later, the window has expired, and it is recorded. -/
theorem expired_placement_audio_kept :
    let before := ((run (step recordingConfig) (.init recordingConfig) lateTest).sessions
      (.connection 0)).essence
    let after := ((run (step recordingConfig) (.init recordingConfig)
      (lateTest ++ [.tick 3000000, kitchen .audioChunk (chunkPayload "AAEC")])).sessions
        (.connection 0)).essence
    before.MarkedBy 1 lateTestWindow ∧ lateTestWindow.debugRecordAudio = false ∧
      ¬ ∀ c ∈ before.callsOf after 1, c.handsAudio = false := by
  decide +kernel

end HexeVoice.Voice
