import HexeVoice.Voice.Acceptance
import HexeVoice.Voice.SessionPaths

/-!
# One step of the manager

## What is proved

**`handleInput_does`**: whatever the input, it is handled without an exception, and in every
runtime the session machine takes a run of actions that are known to happen.
`handleInput_handles` says more of an input that is an event, and `handleInput_onlyEnds` of one
that is none. `step_does`, `step_handles` and `step_onlyEnds` say it of the step.
-/

namespace HexeVoice.Voice

open HexeVoice.Library

variable {transport : Transport}

/-! ### Dispatch -/

section dispatch

variable {cfg : Config} {v : VoiceSessionManager} {i : RuntimeId} {o : Occasion}

theorem submittedCandidate_eq_none
    (htype : o.ev.eventType ≠ .wakeCandidate ∧ o.ev.eventType ≠ .audioChunk) :
    o.submittedCandidate cfg = none := by
  unfold Occasion.submittedCandidate
  split <;> simp_all

/-- A handler without a submission, in its runtime. -/
theorem onDesk_handles {c : Local (List BackendEvent)} (ho : o.desk = v.desk i)
    (htype : o.ev.eventType ≠ .wakeCandidate ∧ o.ev.eventType ≠ .audioChunk)
    (h : Returns c o.desk fun _ d => Does cfg o o.desk d) :
    Returns (onDesk i c) v fun _ v' => Handles cfg v i o v' := by
  refine returns_onDesk ?_
  rw [← ho]
  exact h.mono fun _ d hd => .of_does ho (submittedCandidate_eq_none htype) hd

/-- An event that passes the checks has a handler. -/
theorem Registry.mem_of_rejection {r : Registry} {ev : VoiceEventEnvelope}
    (h : r.rejection i transport ev = none) : ev.eventType ∈ endpointToBackendEvents := by
  unfold Registry.rejection at h
  dsimp only at h
  split at h
  · cases h
  · split at h
    · cases h
    · next hmem => simpa using hmem

theorem handleAudioEnd_does_of_audioEnd (htype : o.ev.eventType = .audioEnd)
    (hsteady : o.desk.self.view.Steady) :
    Returns (handleAudioEnd cfg o.ans.toAnswers o.ev) o.desk fun _ d => Does cfg o o.desk d := by
  cases hreq : o.desk.requiredSession o.ev with
  | some session => exact handleAudioEnd_does hreq (by simp [Occasion.audioEndSession, htype, hreq]) hsteady
  | none =>
    unfold handleAudioEnd
    refine (requireActiveSession_error hreq).bind fun r d hpost => ?_
    obtain ⟨hd, error, hr⟩ := hpost
    rw [hd, hr]
    simpa using Does.refl _

theorem dispatch_handles (ho : o.desk = v.desk i) (hmem : o.ev.eventType ∈ endpointToBackendEvents)
    (hsteady : v.Steady) :
    Returns (dispatch cfg o.ans.toAnswers i o.ev) v fun _ v' => Handles cfg v i o v' := by
  have hd : o.desk.self.view.Steady := by rw [ho]; exact hsteady i
  unfold dispatch
  cases htype : o.ev.eventType
  case audioChunk => exact handleAudioChunk_handles ho htype hsteady
  case wakeCandidate => exact handleWakeCandidate_handles ho htype hsteady
  case sessionStart => exact onDesk_handles ho (by simp [htype]) (handleSessionStart_does htype hd)
  case audioEnd => exact onDesk_handles ho (by simp [htype]) (handleAudioEnd_does_of_audioEnd htype hd)
  case sessionCancel => exact onDesk_handles ho (by simp [htype]) (handleSessionCancel_does hd)
  case sessionPing => exact onDesk_handles ho (by simp [htype]) handleSessionPing_does
  case vadSpeechStarted => exact onDesk_handles ho (by simp [htype]) handleVadSpeechStarted_does
  case vadSpeechEnded => exact onDesk_handles ho (by simp [htype]) handleVadSpeechEnded_does
  case commandAck => exact onDesk_handles ho (by simp [htype]) handleCommandAck_does
  case commandError => exact onDesk_handles ho (by simp [htype]) handleCommandError_does
  case endpointUiButtonPressed =>
    exact onDesk_handles ho (by simp [htype]) handleUiButtonPressed_does
  case endpointUiScreenChanged =>
    exact onDesk_handles ho (by simp [htype]) handleUiScreenChanged_does
  case ttsPlaybackDownloadStarted | ttsPlaybackFirstAudioFrame | ttsPlaybackCompleted |
      ttsPlaybackFailed | playbackStop =>
    exact onDesk_handles ho (by simp [htype]) (handleTtsPlaybackEvent_does hd)
  all_goals exact absurd hmem (by rw [htype]; decide)

end dispatch

/-! ### Sessions keep their timestamps -/

/-- A session that begins has the timestamp of its event. -/
theorem SessionView.Steady.act {cfg : Config} {occasion : Option (RuntimeId × Occasion)}
    {j : RuntimeId} {v : SessionView} (h : v.Steady) {a : SessionAction}
    (ha : Happens cfg occasion j v a) : (v.act a).Steady := by
  cases hstart : a.isStart with
  | true =>
    cases a with
    | start session manual placementTest =>
      rcases ha with hcancel | ⟨id, hid⟩ | ⟨o, -, -, -, hstarted, -, -, htype⟩
      · cases hcancel
      · cases hid
      · intro s hs
        rw [(act_start v session manual placementTest).1] at hs
        cases hs
        rw [hstarted]
        exact o.event.aware (by rw [show o.event.eventType = _ from htype]; rfl)
    | _ => cases hstart
  | false =>
    intro s hs
    cases hv : v.session with
    | none =>
      rw [(act_of_none hv hstart).1] at hs
      cases hs
    | some s₀ =>
      rw [act_session hv hstart] at hs
      split at hs
      · cases hs
      · cases hs
        exact h s₀ hv

theorem ManagerDoes.steady {cfg : Config} {occasion : Option (RuntimeId × Occasion)}
    {v v' : VoiceSessionManager} (h : ManagerDoes cfg occasion v v') (hsteady : v.Steady) :
    v'.Steady := by
  intro j
  obtain ⟨as, hview, hok, -⟩ := h.actions j
  rw [hview]
  exact run_invariant (fun w a hw ha => hw.act ha) (hsteady j) hok

/-! ### Inputs that are no events -/

/-- No handler of an event ran: sessions were cancelled and timers were dropped, at most. -/
structure OnlyEnds (v v' : VoiceSessionManager) : Prop where
  actions : ∀ j, ∃ as, (v'.sessions j).view = run SessionView.act (v.sessions j).view as ∧
    ∀ a ∈ as, a = .cancel ∨ ∃ id, a = .taskDone id
  uuid_le : v.shared.uuid ≤ v'.shared.uuid
  now_le : v.shared.now ≤ v'.shared.now
  election_eq : v'.shared.wakeElection = v.shared.wakeElection

namespace OnlyEnds

variable {v v' v'' : VoiceSessionManager}

/-- The sessions are as they were. -/
theorem nothing (hsessions : v'.sessions = v.sessions) (huuid : v.shared.uuid ≤ v'.shared.uuid)
    (hnow : v.shared.now ≤ v'.shared.now)
    (helection : v'.shared.wakeElection = v.shared.wakeElection) : OnlyEnds v v' :=
  ⟨fun _ => ⟨[], by rw [hsessions]; rfl, by simp⟩, huuid, hnow, helection⟩

theorem refl (v : VoiceSessionManager) : OnlyEnds v v := nothing rfl le_rfl le_rfl rfl

theorem trans (h₁ : OnlyEnds v v') (h₂ : OnlyEnds v' v'') : OnlyEnds v v'' where
  actions := by
    intro j
    obtain ⟨as, hview, has⟩ := h₁.actions j
    obtain ⟨bs, hview', hbs⟩ := h₂.actions j
    refine ⟨as ++ bs, by rw [hview', hview, run_append], fun a ha => ?_⟩
    exact (List.mem_append.mp ha).elim (has a) (hbs a)
  uuid_le := h₁.uuid_le.trans h₂.uuid_le
  now_le := h₁.now_le.trans h₂.now_le
  election_eq := h₂.election_eq.trans h₁.election_eq

/-- One action in one runtime. -/
theorem putDesk {i : RuntimeId} {d : Desk} {a : SessionAction}
    (ha : a = .cancel ∨ ∃ id, a = .taskDone id)
    (hview : d.self.view = (v.sessions i).view.act a) (hshared : d.shared = v.shared) :
    OnlyEnds v (v.putDesk i d) where
  actions := by
    intro j
    by_cases hj : j = i
    · subst hj
      exact ⟨[a], by rw [VoiceSessionManager.putDesk_sessions_self, hview]; rfl, by simpa using ha⟩
    · exact ⟨[], by rw [VoiceSessionManager.putDesk_sessions_of_ne _ _ _ _ hj]; rfl, by simp⟩
  uuid_le := by rw [VoiceSessionManager.putDesk_shared, hshared]
  now_le := by rw [VoiceSessionManager.putDesk_shared, hshared]
  election_eq := by rw [VoiceSessionManager.putDesk_shared, hshared]

/-- The registry is no session's. -/
theorem registry (h : OnlyEnds v v') (r : Registry) : OnlyEnds v { v' with registry := r } :=
  ⟨h.actions, h.uuid_le, h.now_le, h.election_eq⟩

theorem managerDoes {cfg : Config} {occasion : Option (RuntimeId × Occasion)} (h : OnlyEnds v v') :
    ManagerDoes cfg occasion v v' where
  actions := by
    intro j
    obtain ⟨as, hview, has⟩ := h.actions j
    refine ⟨as, hview, ?_, ?_⟩
    · clear hview
      generalize (v.sessions j).view = w
      induction as generalizing w with
      | nil => trivial
      | cons a as ih =>
        simp only [List.forall_mem_cons] at has
        exact ⟨has.1.imp id .inl, ih has.2 _⟩
    · refine .of_le h.uuid_le fun a ha => ?_
      rcases has a ha with rfl | ⟨id, rfl⟩ <;> simp [SessionAction.Fresh]
  uuid_le := h.uuid_le

end OnlyEnds

/-- The registry after a new control connection, with the endpoint of its query. -/
def Registry.admit (r : Registry) (endpointId : Option EndpointId) : Registry :=
  let r₁ := match endpointId.bind r.runtimeForEndpoint with
    | some i => (r.replaced i).unbindRuntimeEndpoint i
    | none => r
  match endpointId with
  | some e => r₁.connect.setConnectedEndpointId (.connection r₁.nextConnection) e
  | none => r₁.connect

section others

variable {cfg : Config} {v : VoiceSessionManager}

/-- Nothing but the sessions changed, and those only ended. -/
def EndsSessions (v v' : VoiceSessionManager) : Prop := OnlyEnds v v' ∧ v'.registry = v.registry

theorem EndsSessions.refl (v : VoiceSessionManager) : EndsSessions v v := ⟨.refl v, rfl⟩

theorem EndsSessions.trans {v₁ v₂ v₃ : VoiceSessionManager} (h₁ : EndsSessions v₁ v₂)
    (h₂ : EndsSessions v₂ v₃) : EndsSessions v₁ v₃ := ⟨h₁.1.trans h₂.1, h₂.2.trans h₁.2⟩

/-- A computation of one runtime that changes nothing but may cancel its session. -/
theorem onDesk_endsSessions {c : Local Unit} {i : RuntimeId}
    (h : Returns c (v.desk i) fun _ d => d = v.desk i ∨
      (d.shared = v.shared ∧ d.self.view = (v.sessions i).view.act .cancel)) :
    Returns (onDesk i c) v fun _ v' => EndsSessions v v' := by
  refine returns_onDesk (h.mono fun _ d hd => ?_)
  rcases hd with rfl | ⟨hshared, hview⟩
  · rw [VoiceSessionManager.putDesk_self]
    exact .refl v
  · exact ⟨.putDesk (.inl rfl) hview hshared, rfl⟩

theorem cancelActiveSession_endsSessions (hsteady : v.Steady) (i : RuntimeId) (reason : String) :
    Returns (onDesk i (cancelActiveSession cfg reason)) v fun _ v' => EndsSessions v v' :=
  onDesk_endsSessions ((cancelActiveSession_returns cfg _ reason (hsteady i)).mono
    fun _ _ ⟨hshared, hview, _⟩ => .inr ⟨hshared, hview⟩)

theorem followupTimeout_endsSessions (hsteady : v.Steady) (i : RuntimeId) (id : ℕ) :
    Returns (followupTimeout cfg i id) v fun _ v' => EndsSessions v v' := by
  unfold followupTimeout
  rw [returns_bind, returns_get]
  split
  · simpa using EndsSessions.refl v
  · rw [returns_bind]
    refine returns_onDesk ?_
    rw [returns_modifySelf]
    set d : Desk := { v.desk i with self := (v.desk i).self.taskDone id }
    have hdone : EndsSessions v (v.putDesk i d) :=
      ⟨.putDesk (a := .taskDone id) (.inr ⟨id, rfl⟩) rfl rfl, rfl⟩
    have hsteady₁ : (v.putDesk i d).Steady := Steady.putDesk hsteady (hsteady i)
    rw [returns_bind, returns_get, returns_ite]
    split
    · exact (cancelActiveSession_endsSessions hsteady₁ i _).mono fun _ _ h => hdone.trans h
    · simpa using hdone

theorem expireStaleActiveSession_endsSessions (hsteady : v.Steady) (i : RuntimeId) :
    Returns (onDesk i (expireStaleActiveSession cfg)) v fun _ v' => EndsSessions v v' := by
  refine onDesk_endsSessions ?_
  unfold expireStaleActiveSession activeSessionTimeoutReason
  simp only [returns_bind, returns_get]
  cases hs : (v.sessions i).activeSession with
  | none => simp [hs]
  | some session =>
    have haware : session.startedAt.aware = true :=
      hsteady i session.core (by simp [SessionRuntime.view, hs])
    simp only [VoiceSessionManager.desk_self, hs, Datetime.sub, haware]
    rw [returns_bind]
    simp only [if_true, returns_pure]
    split
    · simp
    · rw [returns_bind]
      refine (cancelTimedOutActiveSession_returns cfg _ _ hs (hsteady i)).mono
        fun _ _ hpost => ?_
      obtain ⟨hshared, hview, _⟩ := hpost
      rw [returns_pure]
      exact .inr ⟨hshared, hview⟩

theorem expireStaleActiveSessionsOf_endsSessions (is : List RuntimeId) (hsteady : v.Steady) :
    Returns (expireStaleActiveSessionsOf cfg is) v fun _ v' => EndsSessions v v' := by
  induction is generalizing v with
  | nil => simpa [expireStaleActiveSessionsOf] using EndsSessions.refl v
  | cons i is ih =>
    unfold expireStaleActiveSessionsOf
    rw [returns_bind, returns_get]
    split
    · refine (expireStaleActiveSession_endsSessions hsteady i).bind fun _ v₁ h₁ => ?_
      have hdoes : ManagerDoes cfg none v v₁ := h₁.1.managerDoes
      have hsteady₁ := hdoes.steady hsteady
      exact (ih hsteady₁).mono fun _ _ h₂ => h₁.trans h₂
    · simpa using ih hsteady

theorem cancelFromOperator_endsSessions (hsteady : v.Steady) (i : RuntimeId) (reason : String) :
    Returns (onDesk i (cancelFromOperator cfg reason)) v fun _ v' => EndsSessions v v' := by
  refine onDesk_endsSessions ?_
  unfold cancelFromOperator
  rw [returns_bind, returns_get]
  split
  · exact (cancelActiveSession_returns cfg _ reason (hsteady i)).mono
      fun _ _ ⟨hshared, hview, _⟩ => .inr ⟨hshared, hview⟩
  · simp

/-- How a session ends with its connection is how it ends when it is cancelled. -/
theorem closeRuntimeSession_returns (d : Desk) (reason : String) (h : d.self.view.Steady) :
    Returns (closeRuntimeSession cfg reason) d fun _ d' =>
      d'.shared = d.shared ∧ d'.self.view = d.self.view.act .cancel ∧
        d'.self.activeSession = none := by
  unfold closeRuntimeSession
  rw [returns_bind, returns_get, returns_ite]
  split
  · exact cancelActiveSession_returns cfg d reason h
  case isFalse hnone =>
    have hs : d.self.view.session = none := by simpa [SessionRuntime.view] using hnone
    refine (release_quiet cfg d).bind fun _ d₁ h₁ => ?_
    refine (clear_returns cfg d₁).mono fun _ d' hpost => ?_
    obtain ⟨hshared, hview, hactive⟩ := hpost
    refine ⟨hshared.trans h₁.shared, ?_, hactive⟩
    rw [hview, h₁.view, SessionView.act, SessionView.move_of_none _ hs]

theorem closeRuntimeSession_onlyEnds (hsteady : v.Steady) (i : RuntimeId) (reason : String) :
    Returns (onDesk i (closeRuntimeSession cfg reason)) v fun _ v' =>
      OnlyEnds v v' ∧ v'.registry = v.registry ∧ (v'.sessions i).activeSession = none := by
  refine returns_onDesk ((closeRuntimeSession_returns _ reason (hsteady i)).mono
    fun _ d ⟨hshared, hview, hnone⟩ => ?_)
  exact ⟨.putDesk (.inl rfl) hview hshared, rfl, by simpa using hnone⟩

theorem handleWebsocket_returns (hsteady : v.Steady) (endpointId : Option EndpointId) :
    Returns (handleWebsocket cfg endpointId) v fun _ v' =>
      OnlyEnds v v' ∧ v'.registry = v.registry.admit (initialEndpointId endpointId) ∧
        ∀ i ∈ (initialEndpointId endpointId).bind v.registry.runtimeForEndpoint,
          (v'.sessions i).activeSession = none := by
  unfold handleWebsocket Registry.admit
  rw [returns_bind, returns_get]
  cases initialEndpointId endpointId with
  | none =>
    simp only [Option.bind_none, returns_pure, returns_bind, returns_get, returns_modify]
    exact ⟨(OnlyEnds.refl v).registry _, trivial, by simp⟩
  | some e =>
    rw [Option.bind_some]
    cases hexisting : v.registry.runtimeForEndpoint e with
    | none =>
      simp only [returns_bind, returns_get, returns_modify]
      exact ⟨(OnlyEnds.refl v).registry _, trivial, by simp⟩
    | some existing =>
      simp only [replaceEndpointRuntime]
      rw [returns_bind, returns_bind]
      refine (closeRuntimeSession_onlyEnds hsteady existing _).mono fun _ v₁ hpost => ?_
      obtain ⟨h, hregistry, hnone⟩ := hpost
      simp only [returns_bind, returns_get, returns_modify, hregistry]
      refine ⟨h.registry _, trivial, ?_⟩
      rintro i ⟨⟩
      exact hnone

theorem websocketDisconnected_returns (hsteady : v.Steady) (i : RuntimeId) :
    Returns (websocketDisconnected cfg i) v fun _ v' =>
      OnlyEnds v v' ∧ v'.registry = v.registry.disconnect i ∧
        (v'.sessions i).activeSession = none := by
  unfold websocketDisconnected
  refine (closeRuntimeSession_onlyEnds hsteady i _).bind fun _ v₁ ⟨h, hregistry, hnone⟩ => ?_
  rw [returns_modify]
  exact ⟨h.registry _, by rw [hregistry], hnone⟩

end others

/-! ### Steps -/

/-- A runtime is bound to the endpoint of the first event of its connection. -/
def VoiceSessionManager.bound (v : VoiceSessionManager) (i : RuntimeId) (endpointId : EndpointId) :
    VoiceSessionManager :=
  { v with registry := v.registry.bound i endpointId }

/-- The registry after an input. -/
def VoiceSessionManager.registryAfter (v : VoiceSessionManager) (input : Input) : Registry :=
  match input with
  | .handleWebsocket endpointId => v.registry.admit (initialEndpointId endpointId)
  | .websocketDisconnected i => v.registry.disconnect i
  | _ =>
    match v.occasion input with
    | some (i, o) => v.registry.bound i o.ev.endpointId
    | none => v.registry

section steps

variable {cfg : Config} {v : VoiceSessionManager} {input : Input} {i : RuntimeId} {o : Occasion}

theorem step_of_returns {Q : VoiceSessionManager → Prop}
    (h : Returns (handleInput cfg input) v fun _ v' => Q v') : Q (step cfg v input) := by
  obtain ⟨_, v', hrun, hQ⟩ := h
  have hstep : step cfg v input = v' := by
    unfold step
    rw [show handleInput cfg input v = .ok _ v' from hrun]
  rwa [hstep]

theorem handleEndpointEvent_of_rejection (ans : PipelineAnswers)
    {ev : EndpointEvent} {error : BackendEvent}
    (h : v.registry.rejection i transport ev.toVoiceEventEnvelope = some error) :
    Returns (handleEndpointEvent cfg ans.toAnswers transport i ev.toVoiceEventEnvelope) v
      fun _ v' => v' = v := by
  unfold handleEndpointEvent
  rw [returns_bind, returns_get, h]
  simp

theorem handleEndpointEvent_handles (hsteady : v.Steady) (ans : PipelineAnswers)
    {ev : EndpointEvent} (h : v.registry.rejection i transport ev.toVoiceEventEnvelope = none)
    (ho : o = { ans, desk := v.desk i, event := (v.desk i).merged ev }) :
    Returns (handleEndpointEvent cfg ans.toAnswers transport i ev.toVoiceEventEnvelope) v
      fun _ v' => Handles cfg (v.bound i o.ev.endpointId) i o v' := by
  have hendpoint : o.ev.endpointId = ev.endpointId := by
    rw [ho]
    exact Desk.mergeEvent_endpointId _ _
  have hmem : o.ev.eventType ∈ endpointToBackendEvents := by
    rw [ho, show ({ ans, desk := v.desk i, event := (v.desk i).merged ev } : Occasion).ev.eventType =
      ev.eventType from Desk.mergeEvent_eventType _ _]
    exact Registry.mem_of_rejection h
  unfold handleEndpointEvent
  rw [returns_bind, returns_get, h, returns_bind, returns_modify, returns_bind, returns_get,
    hendpoint]
  have hdispatch : Returns (dispatch cfg o.ans.toAnswers i o.ev) (v.bound i ev.endpointId)
      fun _ v' => Handles cfg (v.bound i ev.endpointId) i o v' :=
    dispatch_handles (by rw [ho]; rfl) hmem hsteady
  rw [ho] at hdispatch ⊢
  exact hdispatch

/-- **An input that is an event**: its handler runs, and returns. -/
theorem handleInput_handles (hsteady : v.Steady) (h : v.occasion input = some (i, o)) :
    Returns (handleInput cfg input) v fun _ v' =>
      Handles cfg (v.bound i o.ev.endpointId) i o v' := by
  cases input with
  | message j ev ans =>
    simp only [VoiceSessionManager.occasion] at h
    split at h
    · simp at h
    · next hr =>
      simp only [Option.some.injEq, Prod.mk.injEq] at h
      obtain ⟨rfl, ho⟩ := h
      unfold handleInput
      rw [returns_bind]
      simpa using handleEndpointEvent_handles hsteady ans hr ho.symm
  | httpAudio ev ans =>
    simp only [VoiceSessionManager.occasion] at h
    split at h
    · simp at h
    · next j hj =>
      split at h
      · simp at h
      · next hr =>
        simp only [Option.some.injEq, Prod.mk.injEq] at h
        obtain ⟨rfl, ho⟩ := h
        unfold handleInput handleHttpAudioEvent
        rw [returns_bind, returns_bind, returns_get, hj]
        simpa using handleEndpointEvent_handles hsteady ans hr ho.symm
  | _ => simp [VoiceSessionManager.occasion] at h

variable (cfg) in
/-- **An input that is no event**: sessions end, at most. -/
theorem handleInput_onlyEnds (hsteady : v.Steady) (h : v.occasion input = none) :
    Returns (handleInput cfg input) v fun _ v' =>
      OnlyEnds v v' ∧ v'.registry = v.registryAfter input := by
  unfold VoiceSessionManager.registryAfter
  rw [h]
  cases input with
  | message j ev ans =>
    simp only [VoiceSessionManager.occasion] at h
    split at h
    · next error hr =>
      unfold handleInput
      rw [returns_bind]
      refine (handleEndpointEvent_of_rejection ans hr).mono fun _ v' hv' => ?_
      rw [returns_pure, hv']
      exact ⟨.refl v, rfl⟩
    · simp at h
  | httpAudio ev ans =>
    simp only [VoiceSessionManager.occasion] at h
    unfold handleInput handleHttpAudioEvent
    rw [returns_bind, returns_bind, returns_get]
    cases hj : v.registry.runtimeForEndpoint ev.endpointId with
    | none =>
      simp only [returns_pure]
      exact ⟨.refl v, trivial⟩
    | some j =>
      simp only [hj] at h
      split at h
      · next error hr =>
        refine (handleEndpointEvent_of_rejection ans hr).mono fun _ v' hv' => ?_
        rw [returns_pure, hv']
        exact ⟨.refl v, rfl⟩
      · simp at h
  | followupTimeout j id => exact followupTimeout_endsSessions hsteady j id
  | expireStaleActiveSessions =>
    unfold handleInput expireStaleActiveSessions
    rw [returns_bind, returns_get]
    exact expireStaleActiveSessionsOf_endsSessions _ hsteady
  | cancelFromOperator j reason => exact cancelFromOperator_endsSessions hsteady j reason
  | handleWebsocket endpointId =>
    exact (handleWebsocket_returns hsteady endpointId).mono fun _ _ h => ⟨h.1, h.2.1⟩
  | websocketDisconnected j =>
    exact (websocketDisconnected_returns hsteady j).mono fun _ _ h => ⟨h.1, h.2.1⟩
  | startPlacementTestWindow endpointId room expectedPhrase ttlSeconds debugRecordAudio =>
    unfold handleInput
    rw [returns_modify]
    unfold startPlacementTestWindow
    refine ⟨.nothing rfl ?_ ?_ ?_, rfl⟩ <;> dsimp only <;> split <;> simp
  | startSpeakerEnrollmentCaptureWindow endpointId ttlSeconds =>
    unfold handleInput
    rw [returns_modify]
    unfold startSpeakerEnrollmentCaptureWindow
    refine ⟨.nothing rfl ?_ ?_ ?_, rfl⟩ <;> dsimp only <;> split <;> simp
  | tick micros =>
    unfold handleInput
    rw [returns_modify]
    exact ⟨.nothing rfl le_rfl (by simp) rfl, rfl⟩

theorem step_handles (hsteady : v.Steady) (h : v.occasion input = some (i, o)) :
    Handles cfg (v.bound i o.ev.endpointId) i o (step cfg v input) :=
  step_of_returns (handleInput_handles hsteady h)

variable (cfg) in
theorem step_onlyEnds (hsteady : v.Steady) (h : v.occasion input = none) :
    OnlyEnds v (step cfg v input) ∧ (step cfg v input).registry = v.registryAfter input :=
  step_of_returns (Q := fun v' => OnlyEnds v v' ∧ v'.registry = _)
    (handleInput_onlyEnds cfg hsteady h)

variable (cfg) in
/-- **What an input does.** Whatever it is, it is handled without an exception, and the sessions
take runs of actions. -/
theorem handleInput_does (hsteady : v.Steady) (input : Input) :
    Returns (handleInput cfg input) v fun _ v' => ManagerDoes cfg (v.occasion input) v v' := by
  cases h : v.occasion input with
  | none =>
    exact (handleInput_onlyEnds cfg hsteady h).mono fun _ _ hends => hends.1.managerDoes
  | some e =>
    obtain ⟨i, o⟩ := e
    refine (handleInput_handles hsteady h).mono fun _ v' hhandles => ?_
    exact ⟨hhandles.does.actions, hhandles.does.uuid_le⟩

variable (cfg) in
theorem step_does (hsteady : v.Steady) (input : Input) :
    ManagerDoes cfg (v.occasion input) v (step cfg v input) :=
  step_of_returns (handleInput_does cfg hsteady input)

theorem step_steady (hsteady : v.Steady) (input : Input) : (step cfg v input).Steady :=
  (step_does cfg hsteady input).steady hsteady

variable (cfg) in
theorem step_registry (hsteady : v.Steady) (input : Input) :
    (step cfg v input).registry = v.registryAfter input := by
  cases h : v.occasion input with
  | none => exact (step_onlyEnds cfg hsteady h).2
  | some e =>
    obtain ⟨i, o⟩ := e
    rw [(step_handles hsteady h).registry]
    cases input with
    | message | httpAudio => simp only [VoiceSessionManager.registryAfter, h]; rfl
    | _ => simp [VoiceSessionManager.occasion] at h

end steps

end HexeVoice.Voice
