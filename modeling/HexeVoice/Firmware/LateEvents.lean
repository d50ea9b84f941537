import HexeVoice.Firmware.AudioUpload
import Mathlib

/-!
# Late events of a session

What a backend event or a request to finalize that names an earlier session does to the current one.

## What is proved

**`leaves_session_alone_iff`**: in a run, every such event leaves the session alone exactly if it finds
the client as it would leave it: with nothing to reset, to accept, to resume or to finish.
-/

namespace HexeVoice.Firmware.VoiceSession

open HexeVoice.Library

variable {S : Type}

/-! ### What a session has -/

/-- The globals of the current session: whether it is on and accepted, its election, its stream and its
buffers. -/
structure SessionPart (S : Type) where
  sessionStarted : Bool
  sessionId : CString
  wakeAcceptedForSession : Bool
  wakeElectionWaiting : Bool
  wakeElectionStartedAtUs : ℤ
  wakeCandidateId : CString
  audioStreamFinished : Bool
  audioStreaming : Bool
  audioQueue : List (AudioFrame S)
  prerollDrained : Bool
  prerollFrames : List (AudioFrame S)
  transportSamples : List S
  httpAudioSamples : List S
  httpAudioBufferOverflow : Bool

def Client.sessionPart (s : Client S) : SessionPart S where
  sessionStarted := s.sessionStarted
  sessionId := s.sessionId
  wakeAcceptedForSession := s.wakeAcceptedForSession
  wakeElectionWaiting := s.wakeElectionWaiting
  wakeElectionStartedAtUs := s.wakeElectionStartedAtUs
  wakeCandidateId := s.wakeCandidateId
  audioStreamFinished := s.audioStreamFinished
  audioStreaming := s.audioStreaming
  audioQueue := s.audioQueue
  prerollDrained := s.prerollDrained
  prerollFrames := s.prerollFrames
  transportSamples := s.transportSamples
  httpAudioSamples := s.httpAudioSamples
  httpAudioBufferOverflow := s.httpAudioBufferOverflow

/-- The session that is named is another than the current one. -/
def Stale (s : Client S) (sessionId : Option CString) : Prop :=
  sessionId.any (· ≠ s.sessionId) = true

instance (s : Client S) (sessionId : Option CString) : Decidable (Stale s sessionId) :=
  inferInstanceAs (Decidable (_ = true))

/-- The events that speak to a session. -/
def sessionEvents : List CString :=
  [.ofAscii "session.completed", .ofAscii "session.cancelled", .ofAscii "session.error",
    .ofAscii "wake.accepted", .ofAscii "wake.election.result", .ofAscii "session.state",
    .ofAscii "endpoint.audio.finalize"]

/-- A step that handles an event or a request of another session leaves the current one alone. -/
def LeavesAlone (config : Config) (s : Client S) : Env × Action S → Prop
  | (env, .backendEvent root) => ∀ envelope ∈ acceptedEnvelope root,
    envelope.eventType ∈ sessionEvents → Stale s envelope.sessionId →
      (step config s (env, .backendEvent root)).sessionPart = s.sessionPart
  | (env, .websocketTask) => backendReadyForVoice env = true → s.wsRestartRequested = false →
    ∀ request ∈ s.audioFinalize, Stale s request.sessionId →
      (step config s (env, .websocketTask)).sessionPart = s.sessionPart
  | _ => True

/-! ### What they find -/

/-- No election is on. -/
structure NoElection (s : Client S) : Prop where
  waiting : s.wakeElectionWaiting = false
  startedAt : s.wakeElectionStartedAtUs = 0
  candidate : s.wakeCandidateId = .empty

/-- There is nothing to reset. -/
structure AtRest (s : Client S) : Prop where
  election : NoElection s
  started : s.sessionStarted = false
  accepted : s.wakeAcceptedForSession = false
  finished : s.audioStreamFinished = false
  streaming : s.audioStreaming = false
  drained : s.prerollDrained = false
  preroll : s.prerollFrames = []
  transport : s.transportSamples = []
  http : s.httpAudioSamples = []
  overflow : s.httpAudioBufferOverflow = false

/-- The wake is accepted already, and the stream is on. -/
structure Accepted (s : Client S) : Prop where
  election : NoElection s
  accepted : s.wakeAcceptedForSession = true
  streaming : s.audioStreaming = true

/-- The stream is open, and nothing has come to its transport buffer. -/
structure Resumed (s : Client S) : Prop where
  election : NoElection s
  finished : s.audioStreamFinished = false
  streaming : s.audioStreaming = true
  drained : s.prerollDrained = false
  transport : s.transportSamples = []

/-- A command whose answer fails finds nothing to reset. -/
def AnswerLeaves (env : Env) (s : Client S) (requestId : CString) (result : SendResult) : Prop :=
  requestId ≠ .empty → Disconnects env s result → AtRest s ∧ s.audioQueue = []

/-- The stream is not finished: it is off, or its session is not accepted. -/
def RefusesFinish (env : Env) (s : Client S) : Prop :=
  (env.otaActive || !s.sessionStarted || s.audioStreamFinished ||
    s.wakeElectionWaiting && !s.wakeAcceptedForSession) = true

/-- There is nothing to finish, and the end of the stream is not sent: there is no memory for what is in
the transport buffer, or the message is given up. -/
structure FinishFails (env : Env) (s : Client S) : Prop where
  queue : s.audioQueue = []
  streaming : s.audioStreaming = false
  fails : if s.transportSamples = [] then env.message = .lockTimedOut
    else s.httpAudioBuffer = false ∧ env.memory = false

/-- What the request finds. -/
def FinalizeLeaves (env : Env) (s : Client S) (request : AudioFinalize) : Prop :=
  AnswerLeaves env s request.requestId.text env.answer ∧
    (RefusesFinish env s ∨ FinishFails env s)

/-- What the event finds. -/
def EventLeaves (env : Env) (s : Client S) (envelope : Envelope) : Prop :=
  if envelope.eventType = .ofAscii "wake.election.result" ∧
      wakeElectionResultRequestsStandDown envelope.payload = true then AtRest s
  else if envelope.eventType ∈ [CString.ofAscii "session.completed", .ofAscii "session.cancelled",
        .ofAscii "session.error"] ∧ onlyChangesPhase s envelope = false then AtRest s
  else
    (envelope.eventType = .ofAscii "wake.accepted" → Accepted s) ∧
      (eventRequestsFollowupListen envelope.payload = true → s.sessionStarted = true → Resumed s) ∧
      (envelope.eventType = .ofAscii "endpoint.audio.finalize" →
        AnswerLeaves env s (payloadRequestId envelope.payload) env.acknowledgement)

/-- The steps that leave the session alone. -/
def FindsDone (s : Client S) : Env × Action S → Prop
  | (env, .backendEvent root) => ∀ envelope ∈ acceptedEnvelope root,
    envelope.eventType ∈ sessionEvents → Stale s envelope.sessionId → EventLeaves env s envelope
  | (env, .websocketTask) => backendReadyForVoice env = true → s.wsRestartRequested = false →
    ∀ request ∈ s.audioFinalize, Stale s request.sessionId → FinalizeLeaves env s request
  | _ => True

/-! ### Resets -/

section

variable {config : Config} {env : Env} {s : Client S}

theorem reset_sessionPart (clear : Bool) :
    (resetVoiceSessionState s clear).sessionPart = s.sessionPart ↔ AtRest s := by
  have hpart : (resetVoiceSessionState s clear).sessionPart =
      { s.sessionPart with
        sessionStarted := false, wakeAcceptedForSession := false, wakeElectionWaiting := false
        wakeElectionStartedAtUs := 0, wakeCandidateId := .empty, audioStreamFinished := false
        audioStreaming := false, prerollDrained := false, prerollFrames := [], transportSamples := []
        httpAudioSamples := [], httpAudioBufferOverflow := false } := by
    cases clear <;> rfl
  rw [hpart, Client.sessionPart, SessionPart.mk.injEq]
  constructor
  · rintro ⟨hstarted, -, haccepted, hwaiting, hsince, hcandidate, hfinished, hstreaming, -, hdrained,
      hpreroll, htransport, hhttp, hoverflow⟩
    exact ⟨⟨hwaiting.symm, hsince.symm, hcandidate.symm⟩, hstarted.symm, haccepted.symm, hfinished.symm,
      hstreaming.symm, hdrained.symm, hpreroll.symm, htransport.symm, hhttp.symm, hoverflow.symm⟩
  · rintro ⟨⟨hwaiting, hsince, hcandidate⟩, hstarted, haccepted, hfinished, hstreaming, hdrained,
      hpreroll, htransport, hhttp, hoverflow⟩
    exact ⟨hstarted.symm, rfl, haccepted.symm, hwaiting.symm, hsince.symm, hcandidate.symm,
      hfinished.symm, hstreaming.symm, rfl, hdrained.symm, hpreroll.symm, htransport.symm, hhttp.symm,
      hoverflow.symm⟩

theorem AtRest.congr {s₁ : Client S} (hrest : AtRest s) (h : s₁.sessionPart = s.sessionPart) :
    AtRest s₁ := by
  rw [Client.sessionPart, Client.sessionPart, SessionPart.mk.injEq] at h
  obtain ⟨hstarted, -, haccepted, hwaiting, hsince, hcandidate, hfinished, hstreaming, -, hdrained,
    hpreroll, htransport, hhttp, hoverflow⟩ := h
  obtain ⟨⟨hwaiting', hsince', hcandidate'⟩, hstarted', haccepted', hfinished', hstreaming', hdrained',
    hpreroll', htransport', hhttp', hoverflow'⟩ := hrest
  exact ⟨⟨hwaiting.trans hwaiting', hsince.trans hsince', hcandidate.trans hcandidate'⟩,
    hstarted.trans hstarted', haccepted.trans haccepted', hfinished.trans hfinished',
    hstreaming.trans hstreaming', hdrained.trans hdrained', hpreroll.trans hpreroll',
    htransport.trans htransport', hhttp.trans hhttp', hoverflow.trans hoverflow'⟩

theorem disconnected_sessionPart (restart : Bool) :
    ({ markVoiceSocketDisconnected s with wsRestartRequested := restart } : Client S).sessionPart =
        s.sessionPart ↔
      AtRest s ∧ s.audioQueue = [] := by
  have hpart : ({ markVoiceSocketDisconnected s with wsRestartRequested := restart } :
      Client S).sessionPart =
        { (resetVoiceSessionState s true).sessionPart with audioQueue := [] } := rfl
  constructor
  · intro h
    have hqueue : s.audioQueue = [] := (congrArg SessionPart.audioQueue h).symm
    refine ⟨(reset_sessionPart true).mp ?_, hqueue⟩
    rw [← h, hpart, ← hqueue]
    rfl
  · rintro ⟨hrest, hqueue⟩
    rw [hpart, (reset_sessionPart true).mpr hrest, ← hqueue]
    rfl

/-- What an answer leaves. -/
theorem answer_sessionPart (requestId : CString) (result : SendResult) :
    (sendCommandAnswer env s requestId result).sessionPart = s.sessionPart ↔
      AnswerLeaves env s requestId result := by
  obtain ⟨heq, hnot⟩ | ⟨hdisconnects, restart, heq⟩ := sendCommandAnswer_cases env s requestId result
  · rw [heq]
    exact iff_of_true rfl fun hrequest hfails => absurd ⟨hrequest, hfails⟩ hnot
  · rw [heq, disconnected_sessionPart]
    exact ⟨fun h _ _ => h, fun h => h hdisconnects.1 hdisconnects.2⟩

/-! ### Events -/

theorem accept_sessionPart : (acceptWake s).sessionPart = s.sessionPart ↔ Accepted s := by
  rw [Client.sessionPart, Client.sessionPart, SessionPart.mk.injEq]
  constructor
  · rintro ⟨-, -, haccepted, hwaiting, hsince, hcandidate, -, hstreaming, -⟩
    exact ⟨⟨hwaiting.symm, hsince.symm, hcandidate.symm⟩, haccepted.symm, hstreaming.symm⟩
  · rintro ⟨⟨hwaiting, hsince, hcandidate⟩, haccepted, hstreaming⟩
    exact ⟨rfl, rfl, haccepted.symm, hwaiting.symm, hsince.symm, hcandidate.symm, rfl, hstreaming.symm,
      rfl, rfl, rfl, rfl, rfl, rfl⟩

theorem resume_of_idle (h : s.sessionStarted = false) : resumeAudioStreamForFollowup env s = s := by
  rw [resumeAudioStreamForFollowup, if_pos (by simp [h])]

theorem resume_sessionPart :
    (resumeAudioStreamForFollowup env s).sessionPart = s.sessionPart ↔
      (s.sessionStarted = true → Resumed s) := by
  cases hon : s.sessionStarted with
  | false =>
    rw [resume_of_idle hon]
    exact iff_of_true rfl nofun
  | true =>
    rw [resumeAudioStreamForFollowup, if_neg (by simp [hon]), Client.sessionPart, Client.sessionPart,
      SessionPart.mk.injEq]
    constructor
    · rintro ⟨-, -, -, hwaiting, hsince, hcandidate, hfinished, hstreaming, -, hdrained, -, htransport,
        -⟩ -
      exact ⟨⟨hwaiting.symm, hsince.symm, hcandidate.symm⟩, hfinished.symm, hstreaming.symm,
        hdrained.symm, htransport.symm⟩
    · intro h
      obtain ⟨⟨hwaiting, hsince, hcandidate⟩, hfinished, hstreaming, hdrained, htransport⟩ := h rfl
      exact ⟨rfl, rfl, rfl, hwaiting.symm, hsince.symm, hcandidate.symm, hfinished.symm,
        hstreaming.symm, rfl, hdrained.symm, rfl, htransport.symm, rfl, rfl⟩

/-- An event that accepts a wake, and may resume the stream. -/
theorem accept_resume_sessionPart (followup : Bool) :
    (if followup then resumeAudioStreamForFollowup env (acceptWake s) else acceptWake s).sessionPart =
        s.sessionPart ↔
      Accepted s ∧ (followup = true → s.sessionStarted = true → Resumed s) := by
  have hstarted : (acceptWake s).sessionStarted = s.sessionStarted := rfl
  by_cases hresumes : followup = true ∧ s.sessionStarted = true
  · obtain ⟨rfl, hon⟩ := hresumes
    rw [if_pos rfl, resumeAudioStreamForFollowup, if_neg (by simp [hstarted, hon])]
    rw [Client.sessionPart, Client.sessionPart, SessionPart.mk.injEq]
    constructor
    · rintro ⟨-, -, haccepted, hwaiting, hsince, hcandidate, hfinished, hstreaming, -, hdrained, -,
        htransport, -⟩
      have helection : NoElection s := ⟨hwaiting.symm, hsince.symm, hcandidate.symm⟩
      exact ⟨⟨helection, haccepted.symm, hstreaming.symm⟩, fun _ _ =>
        ⟨helection, hfinished.symm, hstreaming.symm, hdrained.symm, htransport.symm⟩⟩
    · rintro ⟨⟨⟨hwaiting, hsince, hcandidate⟩, haccepted, hstreaming⟩, hresumed⟩
      obtain ⟨-, hfinished, -, hdrained, htransport⟩ := hresumed rfl hon
      exact ⟨rfl, rfl, haccepted.symm, hwaiting.symm, hsince.symm, hcandidate.symm, hfinished.symm,
        hstreaming.symm, rfl, hdrained.symm, rfl, htransport.symm, rfl, rfl⟩
  · have hnone : (if followup then resumeAudioStreamForFollowup env (acceptWake s) else acceptWake s) =
        acceptWake s := by
      split_ifs with hfollowup
      · rw [resumeAudioStreamForFollowup, if_pos]
        simpa [hstarted, hfollowup] using hresumes
      · rfl
    rw [hnone, accept_sessionPart]
    exact ⟨fun h => ⟨h, fun hfollowup hon => absurd ⟨hfollowup, hon⟩ hresumes⟩, fun h => h.1⟩

/-- An event that may resume the stream. -/
theorem resumeIf_sessionPart (followup : Bool) :
    (if followup then resumeAudioStreamForFollowup env s else s).sessionPart = s.sessionPart ↔
      (followup = true → s.sessionStarted = true → Resumed s) := by
  cases followup with
  | false => exact iff_of_true rfl nofun
  | true =>
    rw [if_pos rfl, resume_sessionPart]
    exact ⟨fun h _ => h, fun h => h rfl⟩

/-- An answer to an event that may resume the stream. -/
theorem answer_resume_sessionPart (requestId : CString) (result : SendResult) (followup : Bool) :
    (if followup then resumeAudioStreamForFollowup env (sendCommandAnswer env s requestId result)
        else sendCommandAnswer env s requestId result).sessionPart = s.sessionPart ↔
      (followup = true → s.sessionStarted = true → Resumed s) ∧
        AnswerLeaves env s requestId result := by
  obtain ⟨heq, hnot⟩ | ⟨hdisconnects, restart, heq⟩ := sendCommandAnswer_cases env s requestId result
  · rw [heq, resumeIf_sessionPart]
    exact ⟨fun h => ⟨h, fun hrequest hfails => absurd ⟨hrequest, hfails⟩ hnot⟩, fun h => h.1⟩
  · have hidle : (if followup then resumeAudioStreamForFollowup env
          (sendCommandAnswer env s requestId result)
        else sendCommandAnswer env s requestId result) = sendCommandAnswer env s requestId result := by
      split_ifs
      · rw [heq]
        exact resume_of_idle rfl
      · rfl
    rw [hidle, answer_sessionPart]
    refine ⟨fun h => ⟨fun _ hon => ?_, h⟩, fun h => h.2⟩
    have hrest := (h hdisconnects.1 hdisconnects.2).1
    exact absurd hon (by simp [hrest.started])

/-- A session that is ended is reset, whether its stream was resumed or not. -/
theorem end_sessionPart {envelope : Envelope}
    (hevent : envelope.eventType ∈ [CString.ofAscii "session.completed", .ofAscii "session.cancelled",
      .ofAscii "session.error"]) (followup : Bool) :
    (dispatchEvent config env (if followup then resumeAudioStreamForFollowup env s else s)
        envelope).sessionPart = s.sessionPart ↔ AtRest s := by
  have hreset (s₁ : Client S) : (dispatchEvent config env s₁ envelope).sessionPart =
      (resetVoiceSessionState s₁ false).sessionPart := by
    simp only [List.mem_cons, List.not_mem_nil, or_false] at hevent
    obtain hevent | hevent | hevent := hevent
    all_goals
      simp +decide only [dispatchEvent, hevent, if_true, if_false]
      rfl
  have hresumed : (resetVoiceSessionState (if followup then resumeAudioStreamForFollowup env s else s)
      false).sessionPart = (resetVoiceSessionState s false).sessionPart := by
    split_ifs
    · rw [resumeAudioStreamForFollowup]
      split_ifs <;> rfl
    · rfl
  rw [hreset, hresumed, reset_sessionPart]

theorem onlyChangesPhase_resumeIf (envelope : Envelope) (followup : Bool) :
    onlyChangesPhase (if followup then resumeAudioStreamForFollowup env s else s) envelope =
      onlyChangesPhase s envelope := by
  split_ifs
  · rw [resumeAudioStreamForFollowup]
    split_ifs <;> rfl
  · rfl

/-- **What an event leaves.** -/
theorem event_sessionPart {envelope : Envelope} (hevent : envelope.eventType ∈ sessionEvents) :
    (handleEnvelope config env s envelope).sessionPart = s.sessionPart ↔ EventLeaves env s envelope := by
  simp only [handleEnvelope, EventLeaves]
  generalize hfollowup : eventRequestsFollowupListen envelope.payload = followup
  -- An event that ends the session, unless it only changes the phase.
  have hends (hevent : envelope.eventType ∈ [CString.ofAscii "session.completed",
      .ofAscii "session.cancelled", .ofAscii "session.error"]) :
      (if onlyChangesPhase (if followup then resumeAudioStreamForFollowup env s else s) envelope then
            (if followup then resumeAudioStreamForFollowup env s else s)
          else dispatchEvent config env (if followup then resumeAudioStreamForFollowup env s else s)
            envelope).sessionPart = s.sessionPart ↔
        if onlyChangesPhase s envelope = false then AtRest s
        else followup = true → s.sessionStarted = true → Resumed s := by
    rw [onlyChangesPhase_resumeIf]
    cases onlyChangesPhase s envelope with
    | true => exact resumeIf_sessionPart followup
    | false => exact end_sessionPart hevent followup
  -- An event that does nothing else.
  have hother (hnone : ∀ s₁ : Client S, dispatchEvent config env s₁ envelope = s₁) :
      (if onlyChangesPhase (if followup then resumeAudioStreamForFollowup env s else s) envelope then
            (if followup then resumeAudioStreamForFollowup env s else s)
          else dispatchEvent config env (if followup then resumeAudioStreamForFollowup env s else s)
            envelope).sessionPart = s.sessionPart ↔
        (followup = true → s.sessionStarted = true → Resumed s) := by
    rw [hnone, ite_self, resumeIf_sessionPart]
  simp only [sessionEvents, List.mem_cons, List.not_mem_nil, or_false] at hevent
  obtain hevent | hevent | hevent | hevent | hevent | hevent | hevent := hevent
  · have hends := hends (by rw [hevent]; decide)
    simpa +decide only [hevent, if_false, decide_false, Bool.false_and, Bool.false_eq_true, false_and,
      true_and, and_true, false_implies] using hends
  · have hends := hends (by rw [hevent]; decide)
    simpa +decide only [hevent, if_false, decide_false, Bool.false_and, Bool.false_eq_true, false_and,
      true_and, and_true, false_implies] using hends
  · have hends := hends (by rw [hevent]; decide)
    simpa +decide only [hevent, if_false, decide_false, Bool.false_and, Bool.false_eq_true, false_and,
      true_and, and_true, false_implies] using hends
  · simpa +decide only [onlyChangesPhase, hevent, if_false, if_true, decide_false, decide_true,
      Bool.false_and, Bool.true_or, Bool.false_eq_true, false_and, and_true, false_implies,
      true_implies] using accept_resume_sessionPart followup
  · have hother := hother fun s₁ => by simp +decide only [dispatchEvent, hevent, if_false]
    cases hdown : wakeElectionResultRequestsStandDown envelope.payload with
    | true =>
      simpa +decide only [hevent, hdown, if_false, if_true, decide_true, Bool.true_and, and_true]
        using reset_sessionPart false
    | false =>
      simpa +decide only [hevent, hdown, if_false, if_true, decide_true, Bool.true_and, and_true,
        and_false, false_and, true_and, false_implies, Bool.false_eq_true] using hother
  · have hother := hother fun s₁ => by simp +decide only [dispatchEvent, hevent, if_true]
    simpa +decide only [hevent, if_false, decide_false, Bool.false_and, Bool.false_eq_true, false_and,
      true_and, and_true, false_implies] using hother
  · have hdispatch (s₁ : Client S) : (dispatchEvent config env s₁ envelope).sessionPart =
        s₁.sessionPart := by
      simp +decide only [dispatchEvent, hevent, if_false, if_true]
      rfl
    have hphase (s₁ : Client S) : onlyChangesPhase s₁ envelope = false := by
      have hcommand : isBackendCommandEvent (.ofAscii "endpoint.audio.finalize") = true := by decide
      simp +decide only [onlyChangesPhase, hevent, hcommand, decide_false, Bool.not_true,
        Bool.false_and, Bool.or_false]
    simpa +decide only [hevent, hphase, hdispatch, if_false, if_true, decide_false, Bool.false_and,
      Bool.false_eq_true, false_and, true_and, false_implies, true_implies] using
      answer_resume_sessionPart (payloadRequestId envelope.payload) env.acknowledgement followup

/-! ### Requests to finalize -/

theorem flush_audioQueue (config : Config) (env : Env) (s : Client S) (force : Bool) :
    (flushTransportSamples config env s force).2.audioQueue = s.audioQueue := by
  simp only [flushTransportSamples, sendTransportChunk, bufferVoiceAudioSamples]
  split_ifs <;> rfl

theorem appendTransportSamples_audioQueue (config : Config) (env : Env) (frame : AudioFrame S) :
    ∀ (passes : ℕ) (samples : List S) (s : Client S),
      (appendTransportSamples config env frame passes samples s).2.audioQueue = s.audioQueue
  | 0, _, _ => rfl
  | passes + 1, samples, s => by
    have hflush (s₁ : Client S) := flush_audioQueue config env s₁ false
    rw [appendTransportSamples]
    split_ifs with hempty
    · rfl
    · dsimp only
      split_ifs with hfull
      · have hkeeps := hflush { s with
          transportSamples := s.transportSamples ++
            samples.take (transportFlushSampleLimit - s.transportSamples.length) }
        split
        · next s₁ heq =>
          rw [heq] at hkeeps
          exact hkeeps
        · next s₁ heq =>
          rw [heq] at hkeeps
          rw [appendTransportSamples_audioQueue config env frame passes]
          split_ifs <;> exact hkeeps
      · exact appendTransportSamples_audioQueue config env frame passes _ _

theorem appendTransportFrame_audioQueue (config : Config) (env : Env) (s : Client S)
    (frame : AudioFrame S) :
    (appendTransportFrame config env s frame).2.audioQueue = s.audioQueue := by
  have hkeeps := appendTransportSamples_audioQueue config env frame
    (frame.samples.length + 1) frame.samples (mergeTransportAudioMetrics s frame)
  rw [appendTransportFrame]
  split
  · next s₁ heq =>
    rw [heq] at hkeeps
    exact hkeeps
  · next s₁ heq =>
    rw [heq] at hkeeps
    split_ifs
    · rw [flush_audioQueue]
      exact hkeeps
    · exact hkeeps

theorem appendTransportFrames_audioQueue (config : Config) (env : Env) :
    ∀ (frames : List (AudioFrame S)) (s : Client S),
      (appendTransportFrames config env frames s).2.audioQueue = s.audioQueue
  | [], _ => rfl
  | frame :: frames, s => by
    have hkeeps := appendTransportFrame_audioQueue config env s frame
    rw [appendTransportFrames]
    split
    · next s₁ heq =>
      rw [heq] at hkeeps
      exact hkeeps
    · next s₁ heq =>
      rw [heq] at hkeeps
      rw [appendTransportFrames_audioQueue config env frames]
      exact hkeeps

theorem drainPreroll_audioQueue (config : Config) (env : Env) (s : Client S) :
    (drainPrerollFrames config env s).2.audioQueue = s.audioQueue := by
  have hkeeps := appendTransportFrames_audioQueue config env s.prerollFrames s
  rw [drainPrerollFrames]
  split_ifs
  · rfl
  · split
    · next s₁ heq =>
      rw [heq] at hkeeps
      exact hkeeps
    · next s₁ heq =>
      rw [heq] at hkeeps
      exact hkeeps

/-- What is queued behind the first frame is left at most. -/
theorem drain_audioQueue (config : Config) (env : Env) :
    ∀ (queued : List (AudioFrame S)) (s : Client S), s.audioQueue = queued →
      (drainQueuedAudioFrames config env queued s).audioQueue <:+ queued.tail
  | [], s, h => by simp [drainQueuedAudioFrames, h]
  | frame :: queued, s, _ => by
    rw [drainQueuedAudioFrames]
    have hpreroll := drainPreroll_audioQueue config env
      (Client.note { s with audioQueue := queued } (.taken frame.samples))
    split
    · next s₁ heq =>
      rw [heq] at hpreroll
      rw [hpreroll]
      exact List.suffix_rfl
    · next s₁ heq =>
      rw [heq] at hpreroll
      have hframe := appendTransportFrame_audioQueue config env s₁ frame
      split
      · next s₂ heq₂ =>
        rw [heq₂] at hframe
        rw [hframe, hpreroll]
        exact List.suffix_rfl
      · next s₂ heq₂ =>
        rw [heq₂] at hframe
        have hrest := drain_audioQueue config env queued s₂ (hframe.trans hpreroll)
        exact hrest.trans (List.tail_suffix queued)

/-- What the end of a flushed stream does before its message is sent. -/
theorem finishFlushed_cases (config : Config) (env : Env) (s : Client S) (reason : CString) :
    ∃ s₁ : Client S,
      s₁.sessionPart = { s.sessionPart with audioStreamFinished := true, audioStreaming := false } ∧
        s₁.wsConnected = s.wsConnected ∧
        finishFlushedAudioStream config env s reason =
          match sendWsText env s₁ env.message with
          | (true, s) => (true, setAudioStreaming { s with audioStreamFinished := true } false)
          | (false, s) => (false, { s with audioStreamFinished := false }) := by
  have hpost (s₁ : Client S) : (postBufferedVoiceAudioHttp config env s₁).sessionPart = s₁.sessionPart ∧
      (postBufferedVoiceAudioHttp config env s₁).wsConnected = s₁.wsConnected := by
    rw [postBufferedVoiceAudioHttp]
    split_ifs <;> exact ⟨rfl, rfl⟩
  rw [finishFlushedAudioStream]
  refine ⟨_, ?_, ?_, rfl⟩
  · split_ifs
    · rfl
    · exact (hpost _).1
  · split_ifs
    · rfl
    · exact (hpost _).2

/-- The end of an open stream changes it, unless nothing streams and the message is given up. -/
theorem finishFlushed_sessionPart (reason : CString) (hstarted : s.sessionStarted = true)
    (hopen : s.audioStreamFinished = false) :
    (finishFlushedAudioStream config env s reason).2.sessionPart = s.sessionPart ↔
      s.audioStreaming = false ∧ env.message = .lockTimedOut := by
  obtain ⟨s₁, hpart, -, heq⟩ := finishFlushed_cases config env s reason
  obtain ⟨hsent, -, -, hsend⟩ | ⟨hlock, hsend⟩ | ⟨hdisconnects, restart, hsend⟩ :=
    sendWsText_cases env s₁ env.message
  · rw [heq, hsend, hsent]
    refine iff_of_false (fun h => ?_) fun h => nomatch h.2
    have hfinished : true = s.audioStreamFinished := congrArg SessionPart.audioStreamFinished h
    rw [hopen] at hfinished
    cases hfinished
  · rw [heq, hsend, hlock]
    have hfinal : ({ s₁ with audioStreamFinished := false } : Client S).sessionPart =
        { s.sessionPart with audioStreaming := false } := by
      have hundone : ({ s₁ with audioStreamFinished := false } : Client S).sessionPart =
          { s₁.sessionPart with audioStreamFinished := false } := rfl
      rw [hundone, hpart, ← hopen]
      rfl
    simp only [hfinal, and_true]
    constructor
    · intro h
      exact (congrArg SessionPart.audioStreaming h).symm
    · intro h
      rw [← h]
      rfl
  · rw [heq, hsend]
    refine iff_of_false (fun h => ?_) fun h => hdisconnects.1 h.2
    have hended : false = s.sessionStarted := congrArg SessionPart.sessionStarted h
    rw [hstarted] at hended
    cases hended

/-- What is queued, and an empty transport buffer, stay so or are cleared. -/
theorem finishFlushed_buffers (reason : CString) :
    (finishFlushedAudioStream config env s reason).2.audioQueue <:+ s.audioQueue ∧
      (s.transportSamples = [] →
        (finishFlushedAudioStream config env s reason).2.transportSamples = []) := by
  obtain ⟨s₁, hpart, -, heq⟩ := finishFlushed_cases config env s reason
  have hqueue : s₁.audioQueue = s.audioQueue := congrArg SessionPart.audioQueue hpart
  have htransport : s₁.transportSamples = s.transportSamples :=
    congrArg SessionPart.transportSamples hpart
  obtain ⟨-, -, -, hsend⟩ | ⟨-, hsend⟩ | ⟨-, restart, hsend⟩ := sendWsText_cases env s₁ env.message
  · rw [heq, hsend, ← hqueue, ← htransport]
    exact ⟨List.suffix_rfl, id⟩
  · rw [heq, hsend, ← hqueue, ← htransport]
    exact ⟨List.suffix_rfl, id⟩
  · rw [heq, hsend]
    exact ⟨List.nil_suffix, fun _ => rfl⟩

/-- **What finishing leaves.** -/
theorem finish_cases (config : Config) (env : Env) (s : Client S) (reason : CString) :
    (RefusesFinish env s ∧ (finishAudioStream config env s reason).2 = s) ∨
      (¬ RefusesFinish env s ∧
        ((finishAudioStream config env s reason).2.sessionPart = s.sessionPart ↔ FinishFails env s) ∧
        (FinishFails env s →
          (finishAudioStream config env s reason).2.wsConnected = s.wsConnected)) := by
  by_cases hrefuses : RefusesFinish env s
  · refine .inl ⟨hrefuses, ?_⟩
    rw [finishAudioStream]
    split_ifs with hoff hwaits
    · rfl
    · rfl
    · rw [RefusesFinish, Bool.or_eq_true] at hrefuses
      exact absurd hrefuses (not_or.mpr ⟨hoff, hwaits⟩)
  refine .inr ⟨hrefuses, ?_⟩
  have hruns := hrefuses
  rw [RefusesFinish, Bool.or_eq_true, not_or] at hruns
  obtain ⟨hoff, hwaits⟩ := hruns
  have hstarted : s.sessionStarted = true := by
    by_contra hidle
    exact hoff (by simp [hidle])
  have hopen : s.audioStreamFinished = false := by
    by_contra hfinished
    exact hoff (by simp [hfinished])
  rw [finishAudioStream, if_neg hoff, if_neg hwaits]
  cases hqueue : s.audioQueue with
  | cons frame queued =>
    have hfails : ¬ FinishFails env s := fun h => List.cons_ne_nil _ _ (hqueue.symm.trans h.queue)
    refine ⟨iff_of_false (fun hpart => ?_) hfails, fun h => absurd h hfails⟩
    -- Finishing takes the first frame at least.
    have hdrained := drain_audioQueue config env s.audioQueue s rfl
    rw [← drainQueuedAudioFramesToTransportBuffer, hqueue, List.tail_cons] at hdrained
    have hflushed := flush_audioQueue config env (drainQueuedAudioFramesToTransportBuffer config env s) true
    have hleft := congrArg SessionPart.audioQueue hpart
    have hshorter : s.audioQueue.length ≤ queued.length := by
      rw [show s.audioQueue = s.sessionPart.audioQueue from rfl, ← hleft]
      apply List.IsSuffix.length_le
      split
      · next s₁ heq =>
        rw [heq] at hflushed
        rwa [← hflushed] at hdrained
      · next s₁ heq =>
        rw [heq] at hflushed
        rw [← hflushed] at hdrained
        exact finishFlushed_buffers reason |>.1.trans hdrained
    rw [hqueue, List.length_cons] at hshorter
    omega
  | nil =>
    have hdrained : drainQueuedAudioFramesToTransportBuffer config env s = s := by
      rw [drainQueuedAudioFramesToTransportBuffer, hqueue, drainQueuedAudioFrames]
    rw [hdrained]
    by_cases htransport : s.transportSamples = []
    · have hflush : flushTransportSamples config env s true = (true, s) := by
        rw [flushTransportSamples, if_pos htransport]
      rw [hflush]
      refine ⟨(finishFlushed_sessionPart reason hstarted hopen).trans ⟨fun h => ?_, fun h => ?_⟩, fun h => ?_⟩
      · exact ⟨hqueue, h.1, by rw [if_pos htransport]; exact h.2⟩
      · have hfails := h.fails
        rw [if_pos htransport] at hfails
        exact ⟨h.streaming, hfails⟩
      · have hfails := h.fails
        rw [if_pos htransport] at hfails
        obtain ⟨s₁, -, hconnected, heq⟩ := finishFlushed_cases config env s reason
        dsimp only
        rw [heq, hfails, ← hconnected]
        rfl
    · by_cases hmemory : s.httpAudioBuffer = false ∧ env.memory = false
      · have hflush : flushTransportSamples config env s true = (false, setAudioStreaming s false) := by
          simp [flushTransportSamples, sendTransportChunk, bufferVoiceAudioSamples, htransport, hmemory]
        rw [hflush]
        refine ⟨⟨fun h => ?_, fun h => ?_⟩, fun _ => rfl⟩
        · exact ⟨hqueue, (congrArg SessionPart.audioStreaming h).symm,
            by rw [if_neg htransport]; exact hmemory⟩
        · show { s.sessionPart with audioStreaming := false } = s.sessionPart
          rw [← h.streaming]
          rfl
      · have hfails : ¬ FinishFails env s := by
          intro h
          have hfails := h.fails
          rw [if_neg htransport] at hfails
          exact hmemory hfails
        refine ⟨iff_of_false (fun hpart => ?_) hfails, fun h => absurd h hfails⟩
        have hflush : ∃ s₁, flushTransportSamples config env s true = (true, s₁) ∧
            s₁.transportSamples = [] := by
          have hbuffer : (!s.httpAudioBuffer && !env.memory) = false := by
            by_contra hnone
            exact hmemory (by simpa using hnone)
          simp only [flushTransportSamples, if_neg htransport, sendTransportChunk,
            bufferVoiceAudioSamples, hbuffer, Bool.not_true, Bool.false_and, Bool.false_eq_true,
            if_false]
          exact ⟨_, rfl, rfl⟩
        obtain ⟨s₁, hflush, hempty⟩ := hflush
        rw [hflush] at hpart
        have hleft := congrArg SessionPart.transportSamples hpart
        exact htransport (hleft.symm.trans ((finishFlushed_buffers reason).2 hempty))

theorem disconnects_congr {s₁ : Client S} (h : s₁.wsConnected = s.wsConnected) (result : SendResult) :
    Disconnects env s₁ result ↔ Disconnects env s result := by
  rw [Disconnects, Disconnects, h]

/-- **What a request to finalize leaves.** -/
theorem finalize_sessionPart (request : AudioFinalize) :
    (processAudioFinalize config env s request).sessionPart = s.sessionPart ↔
      FinalizeLeaves env s request := by
  rw [processAudioFinalize]
  generalize (if request.reason.text = .empty then CString.ofAscii "backend_finalize"
    else request.reason.text) = reason
  obtain ⟨s₀, hs₀⟩ : ∃ s₀, s₀ = { s with audioFinalize := none } := ⟨_, rfl⟩
  have hpart₀ : s₀.sessionPart = s.sessionPart := by rw [hs₀]; rfl
  have hrefuses₀ : RefusesFinish env s₀ ↔ RefusesFinish env s := by rw [hs₀]; rfl
  have hfails₀ : FinishFails env s₀ ↔ FinishFails env s := by
    rw [hs₀]
    exact ⟨fun h => ⟨h.queue, h.streaming, h.fails⟩, fun h => ⟨h.queue, h.streaming, h.fails⟩⟩
  have hconnected₀ : s₀.wsConnected = s.wsConnected := by rw [hs₀]
  simp only [← hs₀]
  have hfinish := finish_cases config env s₀ reason
  generalize (finishAudioStream config env s₀ reason).2 = s₁ at hfinish ⊢
  rw [hrefuses₀, hfails₀, hpart₀, hconnected₀] at hfinish
  constructor
  · intro hkept
    obtain ⟨heq, hnot⟩ | ⟨-, restart, heq⟩ :=
      sendCommandAnswer_cases env s₁ request.requestId.text env.answer
    · -- The answer is sent, so the finishing itself left the session alone.
      rw [heq] at hkept
      have hleaves : (RefusesFinish env s ∨ FinishFails env s) ∧ s₁.wsConnected = s.wsConnected := by
        obtain ⟨hrefuses, hs₁⟩ | ⟨-, hiff, hconnected⟩ := hfinish
        · exact ⟨.inl hrefuses, by rw [hs₁, hconnected₀]⟩
        · exact ⟨.inr (hiff.mp hkept), hconnected (hiff.mp hkept)⟩
      refine ⟨fun hrequest hdisconnects => ?_, hleaves.1⟩
      exact absurd ⟨hrequest, (disconnects_congr hleaves.2 _).mpr hdisconnects⟩ hnot
    · -- The answer disconnects, so there was nothing to reset.
      rw [heq] at hkept
      have hreset : ({ markVoiceSocketDisconnected s with wsRestartRequested := restart } :
          Client S).sessionPart = s.sessionPart := by
        have hid : s₁.sessionId = s.sessionId := congrArg SessionPart.sessionId hkept
        rw [← hkept]
        simp only [Client.sessionPart, SessionPart.mk.injEq]
        exact ⟨rfl, hid.symm, rfl, rfl, rfl, rfl, rfl, rfl, rfl, rfl, rfl, rfl, rfl, rfl⟩
      obtain ⟨hrest, hqueue⟩ := (disconnected_sessionPart restart).mp hreset
      exact ⟨fun _ _ => ⟨hrest, hqueue⟩, .inl (by simp [RefusesFinish, hrest.started])⟩
  · rintro ⟨hanswer, hleaves⟩
    have hkept : s₁.sessionPart = s.sessionPart ∧ s₁.wsConnected = s.wsConnected := by
      obtain ⟨-, hs₁⟩ | ⟨hruns, hiff, hconnected⟩ := hfinish
      · exact ⟨by rw [hs₁, hpart₀], by rw [hs₁, hconnected₀]⟩
      · have hfails := hleaves.resolve_left hruns
        exact ⟨hiff.mpr hfails, hconnected hfails⟩
    rw [← hkept.1, answer_sessionPart]
    intro hrequest hdisconnects
    obtain ⟨hrest, hqueue⟩ := hanswer hrequest ((disconnects_congr hkept.2 _).mp hdisconnects)
    exact ⟨hrest.congr hkept.1, (congrArg SessionPart.audioQueue hkept.1).trans hqueue⟩

/-! ### Steps and runs -/

/-- A step leaves the session alone exactly if it finds what it would do done. -/
theorem leavesAlone_iff (config : Config) (s : Client S) (i : Env × Action S) :
    LeavesAlone config s i ↔ FindsDone s i := by
  obtain ⟨env, action⟩ := i
  cases action with
  | backendEvent root =>
    refine forall₂_congr fun envelope henvelope => forall₂_congr fun hevent _ => ?_
    rw [step, handleBackendEventJson, Option.mem_def.mp henvelope]
    exact event_sessionPart hevent
  | websocketTask =>
    refine forall₂_congr fun hready hrestart => forall₂_congr fun request hrequest =>
      imp_congr_right fun _ => ?_
    have hidle : (env.otaActive || !backendReadyForVoice env) = false := by
      rw [backendReadyForVoice, Bool.and_eq_true, Bool.not_eq_true'] at hready
      simp [backendReadyForVoice, hready]
    rw [step, websocketTask, hidle, hrestart, Option.mem_def.mp hrequest]
    exact finalize_sessionPart request
  | startVoiceSession | submitWakeCandidate | submitAudioFrame | notifyVadSpeechStarted
  | finishAudioStream | cancelActiveSession | sendTtsPlaybackEvent | websocketConnected
  | websocketDisconnected | receiveAudioFrame | sendText => exact Iff.rfl

end

/-- **A run leaves its sessions alone exactly if late events find what they would do done.** -/
theorem leaves_session_alone_iff (config : Config) (is : List (Env × Action S)) :
    AllSteps (step config) (LeavesAlone config) (.boot S) is ↔
      AllSteps (step config) FindsDone (.boot S) is := by
  constructor
  · intro h
    exact h.mono fun s i => (leavesAlone_iff config s i).mp
  · intro h
    exact h.mono fun s i => (leavesAlone_iff config s i).mpr

/-! ### A late cancellation -/

/-- A session is cancelled, and the next one starts. -/
def restartedSession : List (Env × Action ℕ) :=
  sessionStart ++ [(fine 500000, .cancelActiveSession), (fine 900000, .startVoiceSession (.ofAscii "button"))]

/-- The answer to the cancellation of the first session. -/
def lateCancellation : CJson :=
  backendEnvelope (.ofAscii "session.cancelled") (.ofAscii "esp-box-1-1") []

/-- The late answer ends the second session. -/
theorem late_cancellation_ends_session :
    ¬ ∀ (config : Config) (is : List (Env × Action ℕ)),
      AllSteps (step config) (LeavesAlone config) (.boot ℕ) is := by
  intro hclaim
  have hrun := hclaim kitchen (restartedSession ++ [(fine 950000, .backendEvent lateCancellation)])
  have hlast := ((allSteps_append _ _ _).mp hrun).2.1
  have henvelope : acceptedEnvelope lateCancellation =
      some ⟨.ofAscii "session.cancelled", some (.ofAscii "esp-box-1-1"), .object []⟩ := rfl
  have hpart := hlast _ henvelope (by decide) (by decide +kernel)
  have hstarted := congrArg SessionPart.sessionStarted hpart
  have hended : (step kitchen (run (step kitchen) (.boot ℕ) restartedSession)
      (fine 950000, .backendEvent lateCancellation)).sessionStarted = false := by decide +kernel
  have hon : (run (step kitchen) (.boot ℕ) restartedSession).sessionStarted = true := by decide +kernel
  exact absurd (hended.symm.trans (hstarted.trans hon)) Bool.false_ne_true

end HexeVoice.Firmware.VoiceSession
