import HexeVoice.Voice.Essence

/-!
# What a runtime keeps up

A property of what becomes of a session's audio that every handler keeps holds after every run
of the manager, whatever happens in the other runtimes.

## The model

An `Upkeep` says of a property of the essence that what a handler can make of the essence keeps
it, where the events meet a condition. Between the halves of `_handle_audio_chunk` the manager
may stand the session down, and there another property, of the chunk in hand, takes its place.

## What is proved

**`Upkeep.run_keeps`**: along every run whose events in the runtime meet the condition of the
upkeep, the property holds.
-/

namespace HexeVoice.Voice

open HexeVoice.Library Std.Do

set_option mvcgen.warning false

/-! ### Keeping a property -/

/-- From this desk, the computation leaves the runtime with the property, if it returns. -/
abbrev KeepsAt {α : Type} (P : Essence → Prop) (d : Desk) (c : Local α) : Prop :=
  Makes d c fun _ e => P e

/-- The property is kept by all that can become of the essence: always (`ended` and so on) or
where the event meets `Q` (`audioEnd`, `chunk`). Between the halves of a chunk's handler the
essence has the property `M`. -/
structure Upkeep (cfg : Config) (Q : Occasion → Prop) (P : Essence → Prop)
    (M : ChunkProgress → Essence → Prop) : Prop where
  ended : ∀ {e : Essence}, P e → P (e.ended cfg)
  endedBetween : ∀ {c : ChunkProgress} {e : Essence}, M c e → M c (e.ended cfg)
  begun : ∀ {e : Essence} {session : SessionCore} (placementTest : Option PlacementWindow)
    {path : List VoiceSessionState}, P e → e.session = none → session.state = .idle →
    path = [] ∨ path = [.wakeDetected, .listening] → P ((e.begun session placementTest).follow path)
  listening : ∀ {e : Essence}, P e → e.awaitsFollowup = true →
    (∃ s ∈ e.session, s.state = .responding) → P e.listening
  audioEnd : ∀ {o : Occasion} {session : VoiceSessionSnapshot} {e : Essence}, Q o →
    o.audioEndSession = some session → o.desk.self.activeSession = some session →
    P o.desk.self.essence → o.desk.self.essence.AudioEnded cfg session e → P e
  chunk : ∀ {o : Occasion} {c : ChunkProgress} {d : Desk} {session : VoiceSessionSnapshot}
    {payload : VoiceAudioChunkPayload}, Q o → P o.desk.self.essence →
    ChunkReceived cfg o c d session payload →
    d.self.essence = (o.desk.afterWindows cfg o.ev.endpointId payload session c.chunk).holding
      d.self.audioChunks → M c d.self.essence
  taken : ∀ {c : ChunkProgress} {e : Essence}, M c e → P ((c.heard cfg e).taken
    (if !c.wakeAccepted && !c.enrollmentCaptureAccepted then c.chunk else none))
  accepted : ∀ {e : Essence} (sessionId : SessionId) (source : String), P e →
    P (e.accepted cfg ((e.session.map (·.sessionId)).getD sessionId) source)

namespace Upkeep

variable {cfg : Config} {Q : Occasion → Prop} {P : Essence → Prop}
  {M : ChunkProgress → Essence → Prop} (u : Upkeep cfg Q P M)

variable {α : Type}

/-- A computation that leaves the runtime as it is. -/
theorem keeps_of_self {c : Local α} {d : Desk} (hd : P d.self.essence)
    (h : Ends d c (fun _ d' => d'.self = d.self) fun _ _ => True) : KeepsAt P d c :=
  h.mono (fun _ _ h => h ▸ hd) fun _ _ h => h

theorem keeps_of_eq {c : Local α} {d : Desk} {e : Essence} (he : P e)
    (h : Makes d c fun _ e' => e' = e) : KeepsAt P d c :=
  h.mono (fun _ _ h => h ▸ he) fun _ _ h => h

section handlers

variable (ev : VoiceEventEnvelope) {d : Desk} (hd : P d.self.essence)
include hd

/-- The reads by which most handlers begin. -/
theorem requireActiveSession_then
    {f : Except BackendEvent VoiceSessionSnapshot → Local α}
    (h : ∀ r, r.toOption = d.requiredSession ev → KeepsAt P d (f r)) :
    KeepsAt P d (requireActiveSession ev >>= f) := by
  refine .bind ((requireActiveSession_spec d ev).mono (fun _ _ h => h) fun _ _ h => h.elim) ?_
  rintro r _ ⟨rfl, hr⟩
  exact h r hr

theorem activeStateEvents_then {f : List BackendEvent → Local α}
    (h : ∀ es, KeepsAt P d (f es)) : KeepsAt P d (activeStateEvents >>= f) := by
  refine .bind ((activeStateEvents_spec d).mono (fun _ _ h => h) fun _ _ h => h.elim) ?_
  rintro es _ ⟨rfl, -⟩
  exact h es

/-- A change of the runtime that leaves its essence alone, and what follows. -/
theorem changeSelf_then {g : SessionRuntime → SessionRuntime} {f : PUnit → Local α}
    (hg : (g d.self).essence = d.self.essence) (h : ∀ d', P d'.self.essence → KeepsAt P d' (f ⟨⟩)) :
    KeepsAt P d (modifySelf g >>= f) :=
  modifySelf_bind (h _ (by rw [hg]; exact hd))

include u in
theorem cancelActiveSession_keeps (reason : String) :
    KeepsAt P d (cancelActiveSession cfg reason) :=
  keeps_of_eq (u.ended hd) (cancelActiveSession_essence d cfg reason)

include u in
theorem closeRuntimeSession_keeps (reason : String) :
    KeepsAt P d (closeRuntimeSession cfg reason) :=
  keeps_of_eq (u.ended hd) (closeRuntimeSession_essence d cfg reason)

include u in
theorem startSession_keeps (hnone : d.self.activeSession = none) :
    KeepsAt P d (startSession ev) := by
  refine (startSession_essence d ev).mono (fun _ d' h => ?_) fun _ _ h => h
  rcases h with h | ⟨session, placementTest, path, hidle, hpath, h⟩
  · exact h ▸ hd
  · rw [h]
    exact u.begun placementTest hd (by simp [SessionRuntime.essence_session, hnone]) hidle hpath

include u in
theorem handleSessionCancel_keeps : KeepsAt P d (handleSessionCancel cfg ev) := by
  unfold handleSessionCancel
  refine requireActiveSession_then ev hd fun r _ => ?_
  cases r with
  | error => exact .pure hd
  | ok session => exact .bind (u.cancelActiveSession_keeps hd _) fun _ _ hd' => .pure hd'

theorem handleSessionPing_keeps : KeepsAt P d (handleSessionPing ev) := by
  refine keeps_of_self hd ?_
  unfold handleSessionPing
  mvcgen <;> simp_all

theorem handleVadSpeechStarted_keeps : KeepsAt P d (handleVadSpeechStarted ev) := by
  unfold handleVadSpeechStarted
  refine requireActiveSession_then ev hd fun r _ => ?_
  cases r with
  | error => exact .pure hd
  | ok session =>
    dsimp only
    split
    · exact .pure hd
    · exact changeSelf_then hd (d.self.essence_updateHistory fun _ => rfl) fun _ hd' => .pure hd'

theorem handleVadSpeechEnded_keeps : KeepsAt P d (handleVadSpeechEnded ev) := by
  refine keeps_of_self hd ?_
  unfold handleVadSpeechEnded
  mvcgen <;> simp_all

theorem handleCommandAck_keeps : KeepsAt P d (handleCommandAck ev) := by
  refine keeps_of_self hd ?_
  unfold handleCommandAck
  mvcgen <;> simp_all

theorem handleCommandError_keeps : KeepsAt P d (handleCommandError ev) := by
  refine keeps_of_self hd ?_
  unfold handleCommandError
  mvcgen <;> simp_all

include u in
/-- The prompt has been played, and the follow-up window opens. -/
theorem openFollowupWindow_keeps (hopen : shouldOpenFollowupWindow d.self ev = true) :
    KeepsAt P d openFollowupWindow := by
  refine keeps_of_eq (u.listening hd ?_ ?_) (openFollowupWindow_essence d)
  · exact (Bool.and_eq_true_iff.mp hopen).1
  · have hresponding := (Bool.and_eq_true_iff.mp hopen).2
    cases hs : d.self.activeSession with
    | none => simp [hs] at hresponding
    | some s =>
      refine ⟨s.core, by simp [SessionRuntime.essence_session, hs], ?_⟩
      rw [hs, Option.any_some, Bool.and_eq_true] at hresponding
      simpa using hresponding.2

include u in
theorem handleTtsPlaybackEvent_keeps : KeepsAt P d (handleTtsPlaybackEvent cfg ev) := by
  unfold handleTtsPlaybackEvent
  split
  · exact .pure hd
  · next payload _ =>
    refine .get_bind ?_
    generalize hrecord : playbackRecord ev payload d.shared.now = record
    refine changeSelf_then hd (d.self.essence_trackPlaybackLifecycle _ record) fun d₁ hd₁ => ?_
    refine changeSelf_then hd₁ (d₁.self.essence_updateHistory fun _ => rfl) fun d₂ hd₂ => ?_
    refine .get_bind ?_
    dsimp only
    split
    · next hopen =>
      rw [Bool.and_eq_true] at hopen
      refine .bind (u.openFollowupWindow_keeps ev hd₂ hopen.2) fun _ d₃ hd₃ => ?_
      exact activeStateEvents_then hd₃ fun _ => .pure hd₃
    · split
      · exact .bind (u.cancelActiveSession_keeps hd₂ _) fun _ _ hd₃ => .pure hd₃
      · exact activeStateEvents_then hd₂ fun _ => .pure hd₂

include u in
theorem cancelTimedOutActiveSession_keeps (reason : String) :
    KeepsAt P d (cancelTimedOutActiveSession cfg reason) := by
  refine (cancelTimedOutActiveSession_essence d cfg reason).mono (fun _ _ h => ?_) fun _ _ h => h
  rcases h with h | h <;> rw [h]
  · exact hd
  · exact u.ended hd

include u in
theorem expireStaleActiveSession_keeps : KeepsAt P d (expireStaleActiveSession cfg) := by
  unfold expireStaleActiveSession
  refine .get_bind ?_
  refine .bind ((activeSessionTimeoutReason_spec _).mono (fun _ _ h => h) fun _ _ _ => trivial) ?_
  rintro reason _ ⟨rfl, -⟩
  cases reason with
  | none => exact .pure hd
  | some reason =>
    exact .bind (u.cancelTimedOutActiveSession_keeps hd reason) fun _ _ hd' => .pure hd'

include u in
theorem cancelFromOperator_keeps (reason : String) :
    KeepsAt P d (cancelFromOperator cfg reason) := by
  unfold cancelFromOperator
  refine .get_bind ?_
  split
  · exact u.cancelActiveSession_keeps hd reason
  · exact .pure hd

theorem wakeCandidateUntilElection_keeps : KeepsAt P d (wakeCandidateUntilElection ev) := by
  refine keeps_of_eq hd ?_
  unfold wakeCandidateUntilElection submitWakeCandidate
  mvcgen [-submitWakeCandidate_untimed] <;> simp_all +contextual

end handlers

/-! ### Starting a session -/

section start

variable {o : Occasion} {session : VoiceSessionSnapshot} (hd : P o.desk.self.essence) (hQ : Q o)
include u hd hQ

theorem handleAudioEnd_of_session {ev : VoiceEventEnvelope}
    (hend : o.audioEndSession = some session) (hreq : o.desk.requiredSession ev = some session) :
    KeepsAt P o.desk (handleAudioEnd cfg o.ans.toAnswers ev) :=
  (handleAudioEnd_essence cfg o.ans hreq).mono
    (fun _ _ h => u.audioEnd hQ hend (Desk.activeSession_of_requiredSession hreq) hd h)
    fun _ _ h => h

/-- A capture is completed by a new session. -/
theorem completeThenStart_keeps (reason : String) (hactive : o.desk.self.activeSession = some session)
    (hend : o.audioEndSession = some session) :
    KeepsAt P o.desk (completeThenStart cfg o.ans.toAnswers o.ev reason) := by
  have hreq : o.desk.requiredSession (supersedingAudioEnd o.desk o.ev reason) = some session := by
    simp [Desk.requiredSession, supersedingAudioEnd, hactive]
  unfold completeThenStart
  refine Ends.get_bind (.bind (u.handleAudioEnd_of_session hd hQ hend hreq) fun _ d₁ hd₁ => .get_bind ?_)
  split
  · next hnone =>
    exact .bind (u.startSession_keeps o.ev hd₁ (by simpa using hnone)) fun _ _ hd₂ => .pure hd₂
  · exact .pure hd₁

theorem handleSessionStart_keeps (htype : o.ev.eventType = .sessionStart) :
    KeepsAt P o.desk (handleSessionStart cfg o.ans.toAnswers o.ev) := by
  unfold handleSessionStart
  refine .get_bind ?_
  cases hs : o.desk.self.activeSession with
  | none => exact u.startSession_keeps o.ev hd hs
  | some session =>
    dsimp only
    split
    case isTrue hp =>
      exact u.completeThenStart_keeps hd hQ _ hs (by simp [Occasion.audioEndSession, htype, hp, hs])
    case isFalse =>
    split
    case isTrue he =>
      exact u.completeThenStart_keeps hd hQ _ hs (by simp [Occasion.audioEndSession, htype, he, hs])
    case isFalse =>
    split
    case isTrue => exact .pure hd
    case isFalse =>
    refine .bind ((canReplaceActiveSession_spec o.desk o.ev).mono (fun _ _ h => h)
      fun _ _ _ => trivial) ?_
    rintro replace _ ⟨rfl, -⟩
    split
    · refine .bind (((u.cancelActiveSession_keeps hd _).and (cancelActiveSession_spec o.desk cfg _)).mono
        (fun _ _ h => h) fun _ _ _ => trivial) fun _ d₁ hpost => ?_
      obtain ⟨hd₁, hnone, _⟩ := hpost
      exact u.startSession_keeps o.ev hd₁ hnone
    · exact .pure hd

theorem handleAudioEnd_keeps (htype : o.ev.eventType = .audioEnd) :
    KeepsAt P o.desk (handleAudioEnd cfg o.ans.toAnswers o.ev) := by
  cases hreq : o.desk.requiredSession o.ev with
  | some session =>
    exact u.handleAudioEnd_of_session hd hQ (by simp [Occasion.audioEndSession, htype, hreq]) hreq
  | none =>
    unfold handleAudioEnd
    refine requireActiveSession_then o.ev hd fun r hr => ?_
    cases r with
    | error => exact .pure hd
    | ok session => rw [hreq] at hr; cases hr

end start

/-! ### The manager -/

/-- The computation leaves runtime `i` with the property, if it returns. -/
abbrev KeepsIn {α : Type} (P : Essence → Prop) (i : RuntimeId) (v : VoiceSessionManager)
    (c : ManagerM α) : Prop :=
  Ends v c (fun _ v' => P (VoiceSessionManager.sessions v' i).essence) fun _ _ => True

section manager

variable {v : VoiceSessionManager} {i j : RuntimeId}

theorem onDesk_keepsIn {R : Essence → Prop} {c : Local α}
    (hv : R (v.sessions i).essence) (h : j = i → KeepsAt R (v.desk i) c) :
    KeepsIn R i v (onDesk j c) := by
  by_cases hj : j = i
  · subst hj
    refine (onDesk_ends (h rfl)).mono ?_ fun _ _ _ => trivial
    rintro _ _ ⟨d, rfl, hd⟩
    rwa [VoiceSessionManager.putDesk_sessions_self]
  · refine (onDesk_ends (Ends.trivial _ c)).mono ?_ fun _ _ _ => trivial
    rintro _ _ ⟨d, rfl, -⟩
    rwa [VoiceSessionManager.putDesk_sessions_of_ne _ _ _ _ (Ne.symm hj)]

theorem standDownReplacedWinner_keepsIn {R : Essence → Prop}
    (hended : ∀ {e : Essence}, R e → R (e.ended cfg)) (hv : R (v.sessions i).essence)
    (decision : WakeElectionDecision) :
    KeepsIn R i v (standDownReplacedWinner cfg decision) := by
  unfold standDownReplacedWinner
  split
  · refine .get_bind ?_
    split
    · exact .pure hv
    · split
      · exact onDesk_keepsIn hv fun hj => keeps_of_eq (hended hv) (hj ▸ cancelActiveSession_essence _ cfg _)
      · exact .pure hv
  · exact .pure hv

/-- The session and the chunk are those that the event gives. -/
theorem chunkOn_unique {o : Occasion} {session session' : VoiceSessionSnapshot}
    {payload payload' : VoiceAudioChunkPayload} (hon : o.chunkOn cfg = some (session, payload))
    (hreq : o.desk.requiredSession o.ev = some session')
    (hpayload : o.ev.payload.audioChunk = .ok payload') : session' = session ∧ payload' = payload := by
  unfold Occasion.chunkOn at hon
  split at hon
  · next hreq' hpayload' =>
    rw [hreq] at hreq'
    rw [hpayload] at hpayload'
    split at hon
    · cases hon
    · simp_all
  · cases hon

variable {o : Occasion} (hv : P (v.sessions i).essence)
include u hv

theorem handleWakeCandidate_keepsIn (ev : VoiceEventEnvelope) :
    KeepsIn P i v (handleWakeCandidate cfg j ev) := by
  unfold handleWakeCandidate
  refine .bind (onDesk_keepsIn hv fun _ => wakeCandidateUntilElection_keeps ev hv)
    fun r v₁ hv₁ => ?_
  match r with
  | .error es => exact .pure hv₁
  | .ok (session, candidate, decision) =>
    refine .bind (standDownReplacedWinner_keepsIn u.ended hv₁ decision) fun _ v₂ hv₂ => ?_
    refine onDesk_keepsIn hv₂ fun _ => keeps_of_eq (u.accepted session.sessionId candidate.source hv₂) ?_
    exact wakeCandidateAfterElection_essence cfg _ session candidate decision

theorem handleAudioChunk_keepsIn (hsteady : v.Steady) (hevent : j = i → o.desk = v.desk j ∧ Q o ∧
    o.ev.eventType = .audioChunk) :
    KeepsIn P i v (handleAudioChunk cfg o.ans.toAnswers j o.ev) := by
  -- between the halves, what is known of runtime `i` depends on whether the chunk is its own
  let R (c : ChunkProgress) (e : Essence) : Prop := if j = i then M c e else P e
  have hended (c : ChunkProgress) {e : Essence} (he : R c e) : R c (e.ended cfg) := by
    by_cases hj : j = i
    · simp only [R, hj, if_true] at he ⊢
      exact u.endedBetween he
    · simp only [R, hj, if_false] at he ⊢
      exact u.ended he
  have hafter (c : ChunkProgress) (w : VoiceSessionManager) (hw : R c (w.sessions i).essence) :
      KeepsIn P i w (onDesk j (audioChunkAfterElection cfg c)) := by
    by_cases hj : j = i
    · simp only [R, hj, if_true] at hw
      subst hj
      refine (onDesk_ends (keeps_of_eq (u.taken hw) (audioChunkAfterElection_essence cfg _ c))).mono
        ?_ fun _ _ _ => trivial
      rintro _ _ ⟨d, rfl, hd⟩
      rwa [VoiceSessionManager.putDesk_sessions_self]
    · simp only [R, hj, if_false] at hw
      exact onDesk_keepsIn hw fun h => absurd h hj
  have huntil : Ends v (onDesk j (audioChunkUntilElection cfg o.ans.toAnswers o.ev))
      (fun r v' => (∀ es, r = .error es → P (v'.sessions i).essence) ∧
        ∀ c, r = .ok c → R c (v'.sessions i).essence) fun _ _ => True := by
    by_cases hj : j = i
    · subst hj
      obtain ⟨ho, hQ, htype⟩ := hevent rfl
      have hd : P o.desk.self.essence := by rw [ho]; exact hv
      have hreceived : Ends o.desk (audioChunkUntilElection cfg o.ans.toAnswers o.ev) _
          fun _ _ => True :=
        .of_returns (audioChunkUntilElection_returns htype (by rw [ho]; exact hsteady j))
      refine (onDesk_ends (ho ▸ hreceived.and (audioChunkUntilElection_essence o.desk _ o.ev))).mono
        ?_ fun _ _ _ => trivial
      rintro r _ ⟨d, rfl, hrec, hess⟩
      rw [VoiceSessionManager.putDesk_sessions_self]
      cases r with
      | error =>
        refine ⟨fun _ _ => ?_, by rintro c ⟨⟩⟩
        rcases hess with hess | hess <;> rw [← ho] at hess
        · exact hess ▸ hd
        · exact hess ▸ u.ended hd
      | ok c =>
        refine ⟨by rintro es ⟨⟩, ?_⟩
        rintro _ ⟨⟩
        obtain ⟨session, payload, hc⟩ := hrec
        obtain ⟨session', payload', buffer, hreq, hpayload, heq⟩ := hess
        rw [← ho] at hreq heq
        obtain ⟨rfl, rfl⟩ := chunkOn_unique hc.chunkOn hreq hpayload
        simp only [R, if_true]
        refine u.chunk hQ hd hc ?_
        rw [← SessionRuntime.essence_audioChunks, heq]
        rfl
    · refine (onDesk_keepsIn hv fun h => absurd h hj).mono (fun r v' hv' => ?_) fun _ _ _ => trivial
      exact ⟨fun _ _ => hv', fun _ _ => by simpa only [R, hj, if_false] using hv'⟩
  unfold handleAudioChunk
  refine .bind huntil fun r v₁ hv₁ => ?_
  cases r with
  | error es => exact .pure (hv₁.1 es rfl)
  | ok c =>
    have hv₁ := hv₁.2 c rfl
    dsimp only
    split
    · split
      · exact .bind (standDownReplacedWinner_keepsIn (hended c) hv₁ _) fun _ w hw => hafter c w hw
      · exact hafter c _ hv₁
    · exact hafter c _ hv₁

/-- The handler of an event keeps the property, where the event is none of runtime `i` or meets
the condition. -/
theorem dispatch_keepsIn (hsteady : v.Steady) (hdesk : o.desk = v.desk j) (hQ : j = i → Q o) :
    KeepsIn P i v (dispatch cfg o.ans.toAnswers j o.ev) := by
  have hlocal {c : Local (List BackendEvent)} (h : Q o → P o.desk.self.essence → KeepsAt P o.desk c) :
      KeepsIn P i v (onDesk j c) := by
    refine onDesk_keepsIn hv fun hj => ?_
    subst hj
    rw [← hdesk]
    exact h (hQ rfl) (by rw [hdesk]; exact hv)
  unfold dispatch
  split
  case h_1 htype => exact hlocal fun hq hd => u.handleSessionStart_keeps hd hq htype
  case h_2 htype => exact u.handleAudioChunk_keepsIn hv hsteady fun hj => ⟨hdesk, hQ hj, htype⟩
  case h_3 htype => exact hlocal fun hq hd => u.handleAudioEnd_keeps hd hq htype
  case h_4 => exact hlocal fun _ hd => handleVadSpeechStarted_keeps _ hd
  case h_5 => exact hlocal fun _ hd => handleVadSpeechEnded_keeps _ hd
  case h_6 => exact u.handleWakeCandidate_keepsIn hv _
  case h_7 => exact hlocal fun _ hd => u.handleSessionCancel_keeps _ hd
  case h_8 => exact hlocal fun _ hd => handleSessionPing_keeps _ hd
  case h_9 => exact hlocal fun _ hd => handleCommandAck_keeps _ hd
  case h_10 => exact hlocal fun _ hd => handleCommandError_keeps _ hd
  case h_16 =>
    refine hlocal fun _ hd => ?_
    unfold handleUiButtonPressed
    split <;> exact .pure hd
  case h_17 =>
    refine hlocal fun _ hd => ?_
    unfold handleUiScreenChanged
    split <;> exact .pure hd
  case h_18 => exact fun _ _ => trivial
  all_goals exact hlocal fun _ hd => u.handleTtsPlaybackEvent_keeps _ hd

theorem handleEndpointEvent_keepsIn {transport : Transport} {ans : PipelineAnswers}
    {ev : EndpointEvent} (hsteady : v.Steady)
    (hQ : v.registry.rejection j transport ev.toVoiceEventEnvelope = none → j = i →
      Q { ans, desk := v.desk j, event := (v.desk j).merged ev }) :
    KeepsIn P i v (handleEndpointEvent cfg ans.toAnswers transport j ev.toVoiceEventEnvelope) := by
  cases hr : v.registry.rejection j transport ev.toVoiceEventEnvelope with
  | some error => exact .of_run (handleEndpointEvent_of_rejected hr) hv
  | none =>
    have hdispatch := u.dispatch_keepsIn (v := v.bound j ev.endpointId) (i := i)
      (o := { ans, desk := v.desk j, event := (v.desk j).merged ev }) hv hsteady rfl (hQ hr)
    intro w hw
    rw [show w = v from hw, wp_apply, EStateM.run, handleEndpointEvent_of_accepted hr]
    exact hdispatch (v.bound j ev.endpointId) rfl

theorem followupTimeout_keepsIn (id : ℕ) : KeepsIn P i v (followupTimeout cfg j id) := by
  unfold followupTimeout
  refine .get_bind ?_
  split
  · exact .pure hv
  · refine .bind (onDesk_keepsIn hv fun _ => .of_run rfl hv) fun _ v₁ hv₁ => ?_
    refine .get_bind ?_
    split
    · exact onDesk_keepsIn hv₁ fun _ => u.cancelActiveSession_keeps hv₁ _
    · exact .pure hv₁

theorem expireStaleActiveSessionsOf_keepsIn (is : List RuntimeId) :
    KeepsIn P i v (expireStaleActiveSessionsOf cfg is) := by
  induction is generalizing v with
  | nil => exact .pure hv
  | cons j is ih =>
    unfold expireStaleActiveSessionsOf
    refine .get_bind ?_
    split
    · refine .bind (onDesk_keepsIn hv fun _ => u.expireStaleActiveSession_keeps hv)
        fun _ v₁ hv₁ => ?_
      exact ih hv₁
    · exact ih hv

theorem handleWebsocket_keepsIn (endpointId : Option EndpointId) :
    KeepsIn P i v (handleWebsocket cfg endpointId) := by
  unfold handleWebsocket replaceEndpointRuntime
  refine .get_bind ?_
  cases (initialEndpointId endpointId).bind v.registry.runtimeForEndpoint with
  | none =>
    cases initialEndpointId endpointId with
    | none => exact .of_run rfl hv
    | some e => exact .of_run rfl hv
  | some existing =>
    refine .bind (.bind (onDesk_keepsIn hv fun _ => u.closeRuntimeSession_keeps hv _) fun _ v₁ hv₁ =>
      .of_run (Q := fun _ w => P (VoiceSessionManager.sessions w i).essence) rfl hv₁) fun _ v₂ hv₂ => ?_
    cases initialEndpointId endpointId with
    | none => exact .of_run rfl hv₂
    | some e => exact .of_run rfl hv₂

theorem handleInput_keepsIn {input : Input} (hsteady : v.Steady) (hok : Meets Q i v input) :
    KeepsIn P i v (handleInput cfg input) := by
  cases input with
  | message j ev ans =>
    refine .bind (u.handleEndpointEvent_keepsIn hv hsteady fun hr hj => ?_) fun _ _ hv' => .pure hv'
    exact hok (j, _) (by simp [VoiceSessionManager.occasion, hr]) hj
  | httpAudio ev ans =>
    refine .bind ?_ fun _ _ hv' => .pure hv'
    unfold handleHttpAudioEvent
    refine .get_bind ?_
    split
    · exact .pure hv
    · next j hj =>
      refine u.handleEndpointEvent_keepsIn hv hsteady fun hr hji => ?_
      exact hok (j, _) (by simp [VoiceSessionManager.occasion, hj, hr]) hji
  | followupTimeout j id => exact u.followupTimeout_keepsIn hv id
  | expireStaleActiveSessions =>
    show KeepsIn P i v (expireStaleActiveSessions cfg)
    unfold expireStaleActiveSessions
    exact Ends.get_bind (u.expireStaleActiveSessionsOf_keepsIn hv _)
  | cancelFromOperator j reason =>
    exact onDesk_keepsIn hv fun _ => u.cancelFromOperator_keeps hv reason
  | handleWebsocket endpointId => exact u.handleWebsocket_keepsIn hv endpointId
  | websocketDisconnected j =>
    exact .bind (onDesk_keepsIn hv fun _ => u.closeRuntimeSession_keeps hv _) fun _ _ hv₁ => .of_run rfl hv₁
  | startPlacementTestWindow | startSpeakerEnrollmentCaptureWindow | tick => exact .of_run rfl hv

end manager

include u

/-- Whatever the input: its handler returns, and the property is kept. -/
theorem step_keeps {v : VoiceSessionManager} {i : RuntimeId} {input : Input} (hsteady : v.Steady)
    (hok : Meets Q i v input) (hv : P (v.sessions i).essence) : P ((step cfg v input).sessions i).essence := by
  obtain ⟨_, v', hrun, -⟩ := handleInput_does cfg hsteady input
  have hstep : step cfg v input = v' := by
    unfold step
    rw [show handleInput cfg input v = .ok _ v' from hrun]
  rw [hstep]
  exact (u.handleInput_keepsIn hv hsteady hok).ok hrun

/-- **The run rule**: a property that is kept up holds after every run whose events in the
runtime meet the condition. -/
theorem run_keeps {v : VoiceSessionManager} {i : RuntimeId} {inputs : List Input}
    (hsteady : v.Steady) (hok : AllSteps (step cfg) (Meets Q i) v inputs) (hv : P (v.sessions i).essence) :
    P ((run (step cfg) v inputs).sessions i).essence := by
  have hstep : ∀ w input, w.Steady ∧ P (w.sessions i).essence → Meets Q i w input →
      (step cfg w input).Steady ∧ P ((step cfg w input).sessions i).essence :=
    fun w input hw ho => ⟨step_steady hw.1 input, u.step_keeps hw.1 ho hw.2⟩
  exact (run_invariant hstep ⟨hsteady, hv⟩ hok).2

end Upkeep

end HexeVoice.Voice
