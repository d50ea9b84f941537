import HexeVoice.Voice.Steps

/-!
# Connected runtimes

The registry over whole runs, where a reconnect replaces the earlier connection before anything
else happens.

## What is proved

`step_wellConnected`: a runtime that is live is the one registered for its endpoint, and a
session is for the endpoint its runtime is connected to. `step_sessionsLive`: where messages
arrive on open connections only, a session's runtime is live.
-/

namespace HexeVoice.Voice

open HexeVoice.Library

/-! ### The registry -/

namespace Registry

/-- A live runtime is the one that is registered for its endpoint. -/
structure WellFormed (r : Registry) : Prop where
  registered : ∀ i e, (r.links i).live = true → (r.links i).connectedEndpointId = some e →
    r.endpointRuntimes.get e = some i
  connected : ∀ i e, r.endpointRuntimes.get e = some i →
    (r.links i).connectedEndpointId = some e
  /-- Nothing is known of a connection that is not made yet. -/
  unborn : ∀ n, r.nextConnection ≤ n → r.links (.connection n) = {}

variable {r : Registry} {i j : RuntimeId} {e : EndpointId}

@[simp] theorem setLink_links_self (f : EndpointLink → EndpointLink) :
    (r.setLink i f).links i = f (r.links i) := by simp [setLink]

theorem setLink_links_of_ne (f : EndpointLink → EndpointLink) (h : j ≠ i) :
    (r.setLink i f).links j = r.links j := by simp [setLink, h]

@[simp] theorem setLink_endpointRuntimes (f : EndpointLink → EndpointLink) :
    (r.setLink i f).endpointRuntimes = r.endpointRuntimes := rfl

@[simp] theorem setLink_nextConnection (f : EndpointLink → EndpointLink) :
    (r.setLink i f).nextConnection = r.nextConnection := rfl

@[simp] theorem unbindRuntimeEndpoint_links : (r.unbindRuntimeEndpoint i).links = r.links := by
  unfold unbindRuntimeEndpoint
  split <;> first | rfl | (split <;> rfl)

@[simp] theorem unbindRuntimeEndpoint_nextConnection :
    (r.unbindRuntimeEndpoint i).nextConnection = r.nextConnection := by
  unfold unbindRuntimeEndpoint
  split <;> first | rfl | (split <;> rfl)

@[simp] theorem bindRuntimeEndpoint_links : (r.bindRuntimeEndpoint i e).links = r.links := by
  unfold bindRuntimeEndpoint
  split <;> rfl

@[simp] theorem bindRuntimeEndpoint_nextConnection :
    (r.bindRuntimeEndpoint i e).nextConnection = r.nextConnection := by
  unfold bindRuntimeEndpoint
  split <;> rfl

/-- Unbinding drops nobody's entry but the runtime's own. -/
theorem get_unbindRuntimeEndpoint (h : r.endpointRuntimes.get e = some j) (hj : j ≠ i) :
    (r.unbindRuntimeEndpoint i).endpointRuntimes.get e = some j := by
  unfold unbindRuntimeEndpoint
  split
  · exact h
  · next e' _ =>
    split
    case isTrue hown =>
      have hne : e ≠ e' := by
        rintro rfl
        simp [h, hj] at hown
      rw [Dict.get_erase, if_neg hne, h]
    case isFalse => exact h

theorem get_of_get_unbindRuntimeEndpoint
    (h : (r.unbindRuntimeEndpoint i).endpointRuntimes.get e = some j) :
    r.endpointRuntimes.get e = some j := by
  unfold unbindRuntimeEndpoint at h
  split at h
  · exact h
  · split at h
    case isTrue =>
      rw [Dict.get_erase] at h
      split at h
      · cases h
      · exact h
    case isFalse => exact h

theorem takenByAnother_eq_false
    (h : ∀ j, r.endpointRuntimes.get e = some j → j ≠ i → (r.links j).live = false) :
    r.takenByAnother i e = false := by
  unfold takenByAnother
  cases hget : r.endpointRuntimes.get e with
  | none => rfl
  | some j =>
    simp only [Option.any_some, Bool.and_eq_false_imp, decide_eq_true_eq]
    exact h j hget

theorem live_of_takenByAnother (h : r.takenByAnother i e = false)
    (hget : r.endpointRuntimes.get e = some j) (hj : j ≠ i) : (r.links j).live = false := by
  simpa [takenByAnother, hget, hj] using h

theorem runtimeForEndpoint_of_get (hget : r.endpointRuntimes.get e = some i)
    (hlive : (r.links i).live = true) : r.runtimeForEndpoint e = some i := by
  unfold Registry.runtimeForEndpoint
  rw [hget, Option.filter_some, if_pos hlive]

/-- The endpoint of a live runtime finds it. -/
theorem WellFormed.runtimeForEndpoint (h : r.WellFormed) (hlive : (r.links i).live = true)
    (he : (r.links i).connectedEndpointId = some e) : r.runtimeForEndpoint e = some i :=
  runtimeForEndpoint_of_get (h.registered i e hlive he) hlive

theorem live_of_runtimeForEndpoint (h : r.runtimeForEndpoint e = some i) :
    (r.links i).live = true := by
  unfold Registry.runtimeForEndpoint at h
  split at h
  · next j hj =>
    obtain rfl : j = i := Option.some.inj h
    exact (Option.filter_eq_some_iff.mp hj).2
  · split at h
    case isTrue hdefault =>
      obtain rfl : RuntimeId.default = i := Option.some.inj h
      simp only [Bool.and_eq_true] at hdefault
      exact hdefault.1
    case isFalse => cases h

/-- The runtime that an endpoint finds is connected to it. -/
theorem WellFormed.connected_of_runtimeForEndpoint (h : r.WellFormed)
    (he : r.runtimeForEndpoint e = some i) : (r.links i).connectedEndpointId = some e := by
  unfold Registry.runtimeForEndpoint at he
  split at he
  · next j hj =>
    obtain rfl : j = i := Option.some.inj he
    exact h.connected j e (Option.filter_eq_some_iff.mp hj).1
  · split at he
    case isTrue hdefault =>
      obtain rfl : RuntimeId.default = i := Option.some.inj he
      simp only [Bool.and_eq_true, decide_eq_true_eq] at hdefault
      exact hdefault.2
    case isFalse => cases he

/-- A runtime without an endpoint is connected to one that no other live runtime has. -/
theorem WellFormed.setConnectedEndpointId (h : r.WellFormed)
    (hnone : (r.links i).connectedEndpointId = none) (he : e ≠ "")
    (hmade : ∀ n, r.nextConnection ≤ n → RuntimeId.connection n ≠ i) (hfree : r.takenByAnother i e = false) : (r.setConnectedEndpointId i e).WellFormed := by
  have hunbind : r.unbindRuntimeEndpoint i = r := by simp [unbindRuntimeEndpoint, hnone]
  have hset : r.setConnectedEndpointId i e =
      (r.setLink i fun l => { l with connectedEndpointId := some e }).bindRuntimeEndpoint i e := by
    simp only [Registry.setConnectedEndpointId, hunbind, he, if_false]
  have hlive : ∀ j, ((r.setLink i fun l => { l with connectedEndpointId := some e }).links j).live =
      (r.links j).live := by
    intro j
    by_cases hj : j = i
    · subst hj
      simp [EndpointLink.live]
    · rw [setLink_links_of_ne _ hj]
  have hfree' : (r.setLink i fun l => { l with connectedEndpointId := some e }).takenByAnother i e =
      false := by
    refine takenByAnother_eq_false fun j hget hj => ?_
    rw [hlive]
    exact live_of_takenByAnother hfree hget hj
  have hbound : (r.setConnectedEndpointId i e).endpointRuntimes = r.endpointRuntimes.set e i := by
    rw [hset, bindRuntimeEndpoint, hfree']
    rfl
  constructor
  · intro j e' hj he'
    rw [hset, bindRuntimeEndpoint_links] at hj he'
    rw [hlive] at hj
    rw [hbound, Dict.get_set]
    by_cases hij : j = i
    · subst hij
      obtain rfl : e = e' := by simpa using he'
      simp
    · rw [setLink_links_of_ne _ hij] at he'
      have hget := h.registered j e' hj he'
      have hne : e' ≠ e := by
        rintro rfl
        rw [live_of_takenByAnother hfree hget hij] at hj
        cases hj
      rw [if_neg hne, hget]
  · intro j e' hget
    rw [hbound, Dict.get_set] at hget
    rw [hset, bindRuntimeEndpoint_links]
    split at hget
    case isTrue heq =>
      cases hget
      simp [heq]
    case isFalse =>
      have hj := h.connected j e' hget
      have hij : j ≠ i := by
        rintro rfl
        rw [hnone] at hj
        cases hj
      rwa [setLink_links_of_ne _ hij]
  · intro n hn
    rw [hset, bindRuntimeEndpoint_nextConnection] at hn
    rw [hset, bindRuntimeEndpoint_links, setLink_links_of_ne _ (hmade n hn)]
    exact h.unborn n hn

@[simp] theorem setConnectedEndpointId_links_self :
    (r.setConnectedEndpointId i e).links i =
      { r.links i with connectedEndpointId := some e } := by
  unfold Registry.setConnectedEndpointId
  split <;> simp

theorem setConnectedEndpointId_links_of_ne (h : j ≠ i) :
    (r.setConnectedEndpointId i e).links j = r.links j := by
  unfold Registry.setConnectedEndpointId
  split <;> simp [setLink_links_of_ne _ h]

@[simp] theorem setConnectedEndpointId_live (j : RuntimeId) :
    ((r.setConnectedEndpointId i e).links j).live = (r.links j).live := by
  by_cases h : j = i
  · subst h
    simp [EndpointLink.live]
  · rw [setConnectedEndpointId_links_of_ne h]

/-! ### The registry after an input -/

/-- A registry in which nobody is live who was not, and nobody loses an entry who is. -/
theorem WellFormed.of_fewer (h : r.WellFormed) {r' : Registry}
    (hnext : r'.nextConnection = r.nextConnection)
    (hconnected : ∀ j, (r'.links j).connectedEndpointId = (r.links j).connectedEndpointId)
    (hlive : ∀ j, (r'.links j).live = true → (r.links j).live = true)
    (hunborn : ∀ j, r.links j = {} → r'.links j = {})
    (hkeeps : ∀ j e, (r'.links j).live = true → r.endpointRuntimes.get e = some j →
      r'.endpointRuntimes.get e = some j)
    (hdrops : ∀ j e, r'.endpointRuntimes.get e = some j → r.endpointRuntimes.get e = some j) :
    r'.WellFormed where
  registered := fun j e hj he =>
    hkeeps j e hj (h.registered j e (hlive j hj) ((hconnected j).symm.trans he))
  connected := fun j e hget => (hconnected j).trans (h.connected j e (hdrops j e hget))
  unborn := fun n hn => hunborn _ (h.unborn n (hnext ▸ hn))

theorem WellFormed.disconnect (h : r.WellFormed) (i : RuntimeId) : (r.disconnect i).WellFormed := by
  refine h.of_fewer rfl ?_ ?_ ?_ (fun _ _ _ hget => hget) (fun _ _ hget => hget)
  all_goals
    intro j
    by_cases hj : j = i
    · subst hj
      simp +contextual [Registry.disconnect, EndpointLink.live]
    · simp [Registry.disconnect, setLink_links_of_ne _ hj]

theorem WellFormed.replaced (h : r.WellFormed) (i : RuntimeId) :
    ((r.replaced i).unbindRuntimeEndpoint i).WellFormed := by
  have hlinks : ((r.replaced i).unbindRuntimeEndpoint i).links = (r.replaced i).links :=
    unbindRuntimeEndpoint_links
  have hdead : ((r.replaced i).links i).live = false := by
    simp [Registry.replaced, EndpointLink.live]
  refine h.of_fewer (by simp [Registry.replaced]) ?_ ?_ ?_ (fun j e hlive hget => ?_)
    (fun j e hget => get_of_get_unbindRuntimeEndpoint (r := r.replaced i) hget)
  case refine_4 =>
    refine get_unbindRuntimeEndpoint hget ?_
    rintro rfl
    rw [hlinks, hdead] at hlive
    cases hlive
  all_goals
    intro j
    rw [hlinks]
    by_cases hj : j = i
    · subst hj
      simp +contextual [Registry.replaced, EndpointLink.live]
    · simp [Registry.replaced, setLink_links_of_ne _ hj]

theorem connection_ne_of_lt {n m : ℕ} (h : n < m) :
    RuntimeId.connection m ≠ .connection n := by
  rintro ⟨⟩
  exact Nat.lt_irrefl _ h

theorem connect_links_of_ne (h : j ≠ .connection r.nextConnection) :
    r.connect.links j = r.links j := by
  simp [Registry.connect, setLink, h]

theorem WellFormed.connect (h : r.WellFormed) : r.connect.WellFormed where
  registered := by
    intro j e hlive he
    by_cases hj : j = .connection r.nextConnection
    · subst hj
      simp [Registry.connect] at he
    · rw [connect_links_of_ne hj] at hlive he
      exact h.registered j e hlive he
  connected := by
    intro j e hget
    have hj : j ≠ .connection r.nextConnection := by
      rintro rfl
      have hconnected := h.connected _ e hget
      rw [h.unborn _ le_rfl] at hconnected
      cases hconnected
    rw [connect_links_of_ne hj]
    exact h.connected j e hget
  unborn := by
    intro n hn
    rw [connect_links_of_ne (connection_ne_of_lt hn)]
    exact h.unborn n (Nat.le_of_succ_le hn)

/-- A new connection of an endpoint that has no live runtime is registered for it. -/
theorem WellFormed.opened (h : r.WellFormed) (he : e ≠ "")
    (hdead : ∀ j, r.endpointRuntimes.get e = some j → (r.links j).live = false) :
    (r.connect.setConnectedEndpointId (.connection r.nextConnection) e).WellFormed := by
  refine h.connect.setConnectedEndpointId ?_ he (fun n hn => connection_ne_of_lt hn) ?_
  · simp [Registry.connect]
  · refine takenByAnother_eq_false fun j hget hj => ?_
    rw [connect_links_of_ne hj]
    exact hdead j hget

/-- A runtime that was replaced is live no more. -/
theorem replaced_dead : (((r.replaced i).unbindRuntimeEndpoint i).links i).live = false := by
  rw [unbindRuntimeEndpoint_links]
  simp [Registry.replaced, EndpointLink.live]

/-- A new connection replaces the one its endpoint had. -/
theorem WellFormed.admit (h : r.WellFormed) {endpointId : Option EndpointId}
    (hnamed : endpointId ≠ some "") : ( r.admit endpointId).WellFormed := by
  cases endpointId with
  | none => exact h.connect
  | some e =>
    have he : e ≠ "" := by simpa using hnamed
    have hregistered : ∀ j, r.endpointRuntimes.get e = some j → (r.links j).live = true →
        r.runtimeForEndpoint e = some j := fun j => runtimeForEndpoint_of_get
    unfold Registry.admit
    simp only [Option.bind_some]
    cases hexisting : r.runtimeForEndpoint e with
    | none =>
      refine h.opened he fun j hget => ?_
      by_contra hlive
      simp [hregistered j hget (by simpa using hlive)] at hexisting
    | some i =>
      refine (h.replaced i).opened he fun j hget => ?_
      have hget' : r.endpointRuntimes.get e = some j :=
        get_of_get_unbindRuntimeEndpoint (r := r.replaced i) hget
      by_cases hj : j = i
      · rw [hj, replaced_dead]
      · rw [unbindRuntimeEndpoint_links, Registry.replaced, setLink_links_of_ne _ hj]
        by_contra hlive
        rw [hregistered j hget' (by simpa using hlive)] at hexisting
        exact hj (Option.some.inj hexisting)

/-- The connections that a new one leaves alone. -/
theorem admit_links {endpointId : Option EndpointId} (hj : j ≠ .connection r.nextConnection)
    (hreplaced : endpointId.bind r.runtimeForEndpoint ≠ some j) :
    ( r.admit endpointId).links j = r.links j := by
  cases endpointId with
  | none => exact connect_links_of_ne hj
  | some e =>
    unfold Registry.admit
    simp only [Option.bind_some] at hreplaced ⊢
    cases hexisting : r.runtimeForEndpoint e with
    | none =>
      simp only
      rw [setConnectedEndpointId_links_of_ne hj, connect_links_of_ne hj]
    | some i =>
      have hji : j ≠ i := by
        rintro rfl
        exact hreplaced hexisting
      have hnext : ((r.replaced i).unbindRuntimeEndpoint i).nextConnection = r.nextConnection := by
        simp [Registry.replaced]
      simp only
      rw [setConnectedEndpointId_links_of_ne (by rwa [hnext]), connect_links_of_ne (by rwa [hnext]),
        unbindRuntimeEndpoint_links, Registry.replaced, setLink_links_of_ne _ hji]

theorem WellFormed.bound (h : r.WellFormed) (he : e ≠ "")
    (hmade : ∀ n, r.nextConnection ≤ n → RuntimeId.connection n ≠ i)
    (hfree : r.takenByAnother i e = false) : (r.bound i e).WellFormed := by
  unfold Registry.bound
  split
  case isTrue hnone =>
    exact h.setConnectedEndpointId (Option.isNone_iff_eq_none.mp hnone) he hmade hfree
  case isFalse => exact h

@[simp] theorem bound_live (j : RuntimeId) : ((r.bound i e).links j).live = (r.links j).live := by
  unfold Registry.bound
  split <;> simp

theorem bound_links_of_ne (h : j ≠ i) : (r.bound i e).links j = r.links j := by
  unfold Registry.bound
  split
  · exact setConnectedEndpointId_links_of_ne h
  · rfl

/-- Where the event names no other endpoint, its runtime is connected to the event's. -/
theorem bound_connectedEndpointId (h : ∀ e' ∈ (r.links i).connectedEndpointId, e' = e) :
    ((r.bound i e).links i).connectedEndpointId = some e := by
  unfold Registry.bound
  cases he : (r.links i).connectedEndpointId with
  | none => simp
  | some e' => simpa [he] using h e' he

/-- What the checks of `_handle_endpoint_event` leave to a handler. -/
theorem of_rejection {transport : Transport} {ev : VoiceEventEnvelope}
    (h : r.rejection i transport ev = none) :
    r.takenByAnother i ev.endpointId = false ∧
      ∀ e' ∈ (r.links i).connectedEndpointId, e' = ev.endpointId := by
  unfold Registry.rejection at h
  simp only at h
  split_ifs at h with hdirection htype htransport htaken hconflict
  refine ⟨by simpa using htaken, fun e' he' => ?_⟩
  by_contra hne
  exact hconflict (by simp [Option.mem_def.mp he', hne])

end Registry

/-! ### Sessions and their connections -/

/-- A message arrives on a connection that was made. -/
def Input.onMade (v : VoiceSessionManager) : Input → Prop
  | .message i _ _ => ∀ n, i = .connection n → n < v.registry.nextConnection
  | _ => True

/-- A message arrives on a connection that is open. -/
def Input.onLive (v : VoiceSessionManager) : Input → Prop
  | .message i _ _ => (v.registry.links i).live = true
  | _ => True

instance (v : VoiceSessionManager) : (input : Input) → Decidable (input.onLive v)
  | .message i _ _ => inferInstanceAs (Decidable ((v.registry.links i).live = true))
  | .httpAudio .. | .followupTimeout .. | .expireStaleActiveSessions | .cancelFromOperator ..
  | .handleWebsocket _ | .websocketDisconnected _ | .startPlacementTestWindow ..
  | .startSpeakerEnrollmentCaptureWindow .. | .tick _ => isTrue trivial

/-- The runtime is connected to the session's endpoint. -/
def Registry.Attached (r : Registry) (i : RuntimeId) (w : SessionView) : Prop :=
  ∀ s ∈ w.session, (r.links i).connectedEndpointId = some s.endpointId

/-- Live runtimes are registered, and sessions are for the endpoints of their runtimes. -/
structure VoiceSessionManager.WellConnected (v : VoiceSessionManager) : Prop where
  registry : v.registry.WellFormed
  attached : ∀ i, v.registry.Attached i (v.sessions i).view

/-- Only live runtimes have sessions. -/
def VoiceSessionManager.SessionsLive (v : VoiceSessionManager) : Prop :=
  ∀ i, (v.sessions i).view.session.isSome = true → (v.registry.links i).live = true

theorem Input.onMade_of_onLive {v : VoiceSessionManager} (h : v.registry.WellFormed) {input : Input}
    (hlive : input.onLive v) : input.onMade v := by
  cases input with
  | message i ev ans =>
    rintro n rfl
    by_contra hn
    have hdead : (v.registry.links (.connection n)).live = true := hlive
    rw [h.unborn n (Nat.le_of_not_lt hn)] at hdead
    cases hdead
  | _ => trivial

/-- A session that goes on is the one that was there, in another state at most. -/
theorem SessionView.session_of_act {v : SessionView} {a : SessionAction} {s' : SessionCore}
    (hstart : a.isStart = false) (hs : (v.act a).session = some s') :
    ∃ s, v.session = some s ∧ a.ends = false ∧
      s' = { s with state := s.state.along (a.path s.state) } := by
  cases hv : v.session with
  | none =>
    rw [(act_of_none hv hstart).1] at hs
    cases hs
  | some s =>
    rw [act_session hv hstart] at hs
    split at hs
    case isTrue => cases hs
    case isFalse hends =>
      cases hs
      exact ⟨s, rfl, by simpa using hends, rfl⟩

/-- Sessions that only end are there, or were there before. -/
theorem OnlyEnds.session_eq {v v' : VoiceSessionManager} (h : OnlyEnds v v') (j : RuntimeId) :
    (v'.sessions j).view.session = none ∨
      (v'.sessions j).view.session = (v.sessions j).view.session := by
  have hdoes : ManagerDoes {} none v v' := h.managerDoes
  obtain ⟨as, hview, hok, -⟩ := hdoes.actions j
  rw [hview]
  have hstep : ∀ w a, w.session = none ∨ w.session = (v.sessions j).view.session →
      Happens {} none j w a →
      (w.act a).session = none ∨ (w.act a).session = (v.sessions j).view.session := by
    rintro w a hw (rfl | ⟨id, rfl⟩ | ⟨o, ho, -⟩)
    · exact .inl rfl
    · exact hw
    · cases ho
  exact run_invariant hstep (.inr rfl) hok

section steps

variable {cfg : Config} {v : VoiceSessionManager} {input : Input} {i : RuntimeId} {o : Occasion}

/-- An event that a handler runs for came in on a runtime that was made, for an endpoint that
no other live runtime has. -/
theorem occasion_connected (h : v.registry.WellFormed) (hmade : input.onMade v)
    (hocc : v.occasion input = some (i, o)) :
    (∀ n, v.registry.nextConnection ≤ n → RuntimeId.connection n ≠ i) ∧
      v.registry.takenByAnother i o.ev.endpointId = false ∧
      ∀ e ∈ (v.registry.links i).connectedEndpointId, e = o.ev.endpointId := by
  have hendpoint : ∀ ev : EndpointEvent,
      ((v.desk i).merged ev).endpointId = ev.endpointId :=
    fun ev => Desk.mergeEvent_endpointId (v.desk i) ev.toVoiceEventEnvelope
  cases input with
  | message j ev ans =>
    simp only [VoiceSessionManager.occasion] at hocc
    split at hocc
    · cases hocc
    · next hr =>
      cases hocc
      simp only [Occasion.ev, hendpoint]
      refine ⟨?_, Registry.of_rejection hr⟩
      rintro n hn rfl
      exact absurd (hmade n rfl) (Nat.not_lt.mpr hn)
  | httpAudio ev ans =>
    simp only [VoiceSessionManager.occasion] at hocc
    split at hocc
    · cases hocc
    · next j hj =>
      split at hocc
      · cases hocc
      · next hr =>
        cases hocc
        simp only [Occasion.ev, hendpoint]
        refine ⟨?_, Registry.of_rejection hr⟩
        rintro n hn rfl
        have hconnected := h.connected_of_runtimeForEndpoint hj
        rw [h.unborn n hn] at hconnected
        cases hconnected
  | _ => simp [VoiceSessionManager.occasion] at hocc

theorem live_of_occasion (hlive : input.onLive v) (hocc : v.occasion input = some (i, o)) :
    (v.registry.links i).live = true := by
  cases input with
  | message j ev ans =>
    simp only [VoiceSessionManager.occasion] at hocc
    split at hocc
    · cases hocc
    · cases hocc
      exact hlive
  | httpAudio ev ans =>
    simp only [VoiceSessionManager.occasion] at hocc
    split at hocc
    · cases hocc
    · next j hj =>
      split at hocc
      · cases hocc
      · cases hocc
        exact Registry.live_of_runtimeForEndpoint hj
  | _ => simp [VoiceSessionManager.occasion] at hocc

theorem Registry.Attached.bound {r : Registry} {w : SessionView} {e : EndpointId} {j : RuntimeId}
    (h : r.Attached j w) (he : ∀ e' ∈ (r.links i).connectedEndpointId, e' = e) :
    (r.bound i e).Attached j w := by
  intro s hs
  have hendpoint := h s hs
  by_cases hj : j = i
  · subst hj
    rw [Registry.bound_connectedEndpointId he, he _ hendpoint]
  · rwa [Registry.bound_links_of_ne hj]

/-- An action leaves the session attached: one that begins is for the event's endpoint. -/
theorem Registry.Attached.act {r : Registry} {w : SessionView} {j : RuntimeId} {a : SessionAction}
    (h : r.Attached j w) (he : (r.links i).connectedEndpointId = some o.ev.endpointId)
    (ha : Happens cfg (some (i, o)) j w a) : r.Attached j (w.act a) := by
  intro s' hs'
  cases hstart : a.isStart with
  | true =>
    cases a with
    | start session manual placementTest =>
      rcases ha with hcancel | ⟨id, hid⟩ | ⟨o', ho, -, -, -, hendpoint, -⟩
      · cases hcancel
      · cases hid
      · cases ho
        rw [(SessionView.act_start w session manual placementTest).1] at hs'
        cases hs'
        rw [he, ← hendpoint]
    | _ => cases hstart
  | false =>
    obtain ⟨s, hs, -, rfl⟩ := SessionView.session_of_act hstart hs'
    exact h s hs

variable (cfg) in
/-- Where an input that is no event leaves a session, its connection is as it was. -/
theorem links_of_session (hsteady : v.Steady) (h : v.WellConnected)
    (hocc : v.occasion input = none) (j : RuntimeId)
    (hsome : ((step cfg v input).sessions j).view.session.isSome = true) :
    ((step cfg v input).sessions j).view.session = (v.sessions j).view.session ∧
      (step cfg v input).registry.links j = v.registry.links j := by
  obtain ⟨hends, hregistry⟩ := step_onlyEnds cfg hsteady hocc
  have hsession : ((step cfg v input).sessions j).view.session = (v.sessions j).view.session := by
    rcases hends.session_eq j with hnone | hsame
    · rw [hnone] at hsome
      cases hsome
    · exact hsame
  refine ⟨hsession, ?_⟩
  rw [hregistry]
  cases input with
  | handleWebsocket endpointId =>
    have hreturns : Returns (handleInput cfg (.handleWebsocket endpointId)) v fun _ v' =>
        ∀ i ∈ (initialEndpointId endpointId).bind v.registry.runtimeForEndpoint,
          (v'.sessions i).activeSession = none :=
      (handleWebsocket_returns hsteady endpointId).mono fun _ _ h => h.2.2
    have hended := step_of_returns hreturns
    refine Registry.admit_links ?_ ?_
    · -- the new connection had no session
      rintro rfl
      obtain ⟨s, hs⟩ := Option.isSome_iff_exists.mp hsome
      have hconnected := h.attached _ s (hsession ▸ hs)
      rw [h.registry.unborn _ le_rfl] at hconnected
      cases hconnected
    · intro hexisting
      simp [SessionRuntime.view, hended j hexisting] at hsome
  | websocketDisconnected i =>
    have hreturns : Returns (handleInput cfg (.websocketDisconnected i)) v fun _ v' =>
        (v'.sessions i).activeSession = none :=
      (websocketDisconnected_returns hsteady i).mono fun _ _ h => h.2.2
    have hended := step_of_returns hreturns
    have hj : j ≠ i := by
      rintro rfl
      simp [SessionRuntime.view, hended] at hsome
    show (v.registry.disconnect i).links j = _
    rw [Registry.disconnect, Registry.setLink_links_of_ne _ hj]
  | _ => simp only [VoiceSessionManager.registryAfter, hocc]

theorem registryAfter_wellFormed (h : v.registry.WellFormed) (hmade : input.onMade v) :
    (v.registryAfter input).WellFormed := by
  cases input with
  | handleWebsocket endpointId =>
    have hnamed : initialEndpointId endpointId ≠ some "" := by
      intro heq
      have hfilter := (Option.filter_eq_some_iff.mp heq).2
      simp at hfilter
    exact h.admit hnamed
  | websocketDisconnected i => exact h.disconnect i
  | message | httpAudio =>
    simp only [VoiceSessionManager.registryAfter]
    split
    · next i o hocc =>
      obtain ⟨hi, hfree, -⟩ := occasion_connected h hmade hocc
      exact h.bound o.event.named hi hfree
    · exact h
  | _ => exact h

/-- **The step lemma**: runtimes stay well connected. -/
theorem step_wellConnected (hsteady : v.Steady) (h : v.WellConnected) (hmade : input.onMade v) :
    (step cfg v input).WellConnected := by
  refine ⟨step_registry cfg hsteady input ▸ registryAfter_wellFormed h.registry hmade, ?_⟩
  intro j
  cases hocc : v.occasion input with
  | some e =>
    obtain ⟨i, o⟩ := e
    obtain ⟨-, -, he⟩ := occasion_connected h.registry hmade hocc
    have hhandles : Handles cfg (v.bound i o.ev.endpointId) i o (step cfg v input) :=
      step_handles hsteady hocc
    have hregistry : (step cfg v input).registry = v.registry.bound i o.ev.endpointId :=
      hhandles.registry
    obtain ⟨as, hview, hok, -⟩ := hhandles.does.actions j
    rw [hregistry, hview]
    refine run_invariant (fun w a hw ha => hw.act ?_ ha) ((h.attached j).bound he) hok
    exact Registry.bound_connectedEndpointId he
  | none =>
    intro s hs
    obtain ⟨hsession, hlinks⟩ := links_of_session cfg hsteady h hocc j
      (by simp [Option.mem_def.mp hs])
    rw [hlinks]
    exact h.attached j s (hsession ▸ hs)

/-- **The step lemma** for runs whose messages arrive on open connections. -/
theorem step_sessionsLive (hsteady : v.Steady) (h : v.WellConnected) (hsessions : v.SessionsLive)
    (hlive : input.onLive v) : (step cfg v input).SessionsLive := by
  intro j hsome
  cases hocc : v.occasion input with
  | some e =>
    obtain ⟨i, o⟩ := e
    have hhandles : Handles cfg (v.bound i o.ev.endpointId) i o (step cfg v input) :=
      step_handles hsteady hocc
    have hregistry : (step cfg v input).registry = v.registry.bound i o.ev.endpointId :=
      hhandles.registry
    rw [hregistry, Registry.bound_live]
    by_cases hj : j = i
    · subst hj
      exact live_of_occasion hlive hocc
    · -- in the other runtimes, sessions only end
      refine hsessions j ?_
      obtain ⟨as, hview, hok, -⟩ := hhandles.does.actions j
      rw [hview] at hsome
      by_contra hnone
      have hnone' : (v.sessions j).view.session = none := by simpa using hnone
      have hstep : ∀ w a, w.session = none → Happens cfg (some (i, o)) j w a →
          (w.act a).session = none := by
        rintro w a hw (rfl | ⟨id, rfl⟩ | ⟨o', ho, -⟩)
        · rfl
        · exact hw
        · exact absurd (congrArg Prod.fst (Option.some.inj ho)) (Ne.symm hj)
      have hstays : (run SessionView.act (v.sessions j).view as).session = none :=
        run_invariant hstep hnone' hok
      have hsome' : (run SessionView.act (v.sessions j).view as).session.isSome = true := hsome
      simp [hstays] at hsome'
  | none =>
    obtain ⟨hsession, hlinks⟩ := links_of_session cfg hsteady h hocc j hsome
    rw [hlinks]
    exact hsessions j (hsession ▸ hsome)

end steps

end HexeVoice.Voice
