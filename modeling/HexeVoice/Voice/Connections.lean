import HexeVoice.Voice.Connected

/-!
# Overlapping connections

`handle_websocket` with every `await` of it: a call is suspended while `_replace_endpoint_runtime`
closes the sockets of the runtime it replaces, while the startup runtime config is sent and while
a message is received, and other calls run meanwhile.

## The model

A call has a `Phase`: where it is suspended. `ConnectionStep.handleWebsocket` is a call up to its
first `await`, `ConnectionStep.resume` goes on to the next one. The registry is the one of
`Registry`; sessions are left out, since they decide nothing here.

## What is proved

`one_live_runtime`: as long as no call comes out of a replacement while another runtime is live for
its endpoint, an endpoint has at most one live runtime, and `_runtime_for_endpoint` finds it.
`uninterrupted_admit`: a call that nothing interrupts does what the manager's step does.
-/

namespace HexeVoice.Voice

open HexeVoice.Library

variable {r : Registry}

/-- Where a call of `handle_websocket` is suspended. -/
inductive Phase where
  /-- Closing the audio connection of the runtime that is replaced. -/
  | closingAudio (endpointId : EndpointId) (existing : RuntimeId)
  /-- Closing its control connection. -/
  | closingControl (endpointId : EndpointId) (existing : RuntimeId)
  /-- Sending the startup runtime config. -/
  | sendingConfig (i : RuntimeId)
  /-- Receiving a message. -/
  | receiving (i : RuntimeId)
  | returned
  deriving DecidableEq

/-- The registry, and the calls of `handle_websocket` that were made. -/
structure Connections where
  registry : Registry := {}
  calls : ℕ → Option Phase := fun _ => none

/-- What can happen next. -/
inductive ConnectionStep where
  /-- A call begins. -/
  | handleWebsocket (call : ℕ) (endpointId : Option EndpointId)
  /-- What a call awaits is done. -/
  | resume (call : ℕ)
  /-- Sending the startup runtime config raises: the call is over, without its `finally`. -/
  | configFails (call : ℕ)
  | message (call : ℕ) (ev : EndpointEvent)
  | disconnect (call : ℕ)
  /-- `handle_audio_websocket` up to its first frame. -/
  | audioConnects (endpointId : EndpointId)
  /-- The `finally` of `handle_audio_websocket`. -/
  | audioDisconnects (i : RuntimeId)

namespace Connections

variable (c : Connections)

/-- A call is suspended. -/
def suspend (call : ℕ) (phase : Phase) : Connections :=
  { c with calls := fun n => if n = call then some phase else c.calls n }

/-- A call makes its runtime. -/
def openRuntime (call : ℕ) : Option EndpointId → Connections
  | none =>
    { c with registry := c.registry.connect }.suspend call
      (.receiving (.connection c.registry.nextConnection))
  | some e =>
    { c with
      registry := c.registry.connect.setConnectedEndpointId
        (.connection c.registry.nextConnection) e }.suspend call
      (.sendingConfig (.connection c.registry.nextConnection))

/-- `_replace_endpoint_runtime` after its `await`s, and what follows it. -/
def finishReplacement (call : ℕ) (e : EndpointId) (existing : RuntimeId) : Connections :=
  { c with registry := (c.registry.replaced existing).unbindRuntimeEndpoint existing }.openRuntime
    call (some e)

/-- `_replace_endpoint_runtime` from where the audio connection is closed. -/
def closeControl (call : ℕ) (e : EndpointId) (existing : RuntimeId) : Connections :=
  if (c.registry.links existing).websocket then c.suspend call (.closingControl e existing)
  else c.finishReplacement call e existing

def replaceEndpointRuntime (call : ℕ) (e : EndpointId) (existing : RuntimeId) : Connections :=
  if (c.registry.links existing).audioWebsocket then c.suspend call (.closingAudio e existing)
  else c.closeControl call e existing

/-- `handle_websocket` up to its first `await`. -/
def handleWebsocket (call : ℕ) (endpointId : Option EndpointId) : Connections :=
  match initialEndpointId endpointId with
  | none => c.openRuntime call none
  | some e =>
    match c.registry.runtimeForEndpoint e with
    | some existing => c.replaceEndpointRuntime call e existing
    | none => c.openRuntime call (some e)

/-- A runtime gets an audio connection, or loses it. -/
def setAudio (i : RuntimeId) (audio : Bool) : Connections :=
  { c with registry := c.registry.setLink i fun l =>
      { l with audioConnectionActive := audio, audioWebsocket := audio } }

/-- What happens to the connections in a step. -/
def step : ConnectionStep → Connections
  | .handleWebsocket call endpointId =>
    match c.calls call with
    | none => c.handleWebsocket call endpointId
    | some _ => c
  | .resume call =>
    match c.calls call with
    | some (.closingAudio e existing) => c.closeControl call e existing
    | some (.closingControl e existing) => c.finishReplacement call e existing
    | some (.sendingConfig i) => c.suspend call (.receiving i)
    | _ => c
  | .configFails call =>
    match c.calls call with
    | some (.sendingConfig _) => c.suspend call .returned
    | _ => c
  | .message call ev =>
    match c.calls call with
    | some (.receiving i) =>
      match c.registry.rejection i .webSocket ev.toVoiceEventEnvelope with
      | some _ => c
      | none => { c with registry := c.registry.bound i ev.endpointId }
    | _ => c
  | .disconnect call =>
    match c.calls call with
    | some (.receiving i) => { c with registry := c.registry.disconnect i }.suspend call .returned
    | _ => c
  | .audioConnects endpointId =>
    match c.registry.runtimeForEndpoint endpointId with
    | none => c
    | some i =>
      if (c.registry.links i).audioConnectionActive && (c.registry.links i).audioWebsocket then c
      else c.setAudio i true
  | .audioDisconnects i => c.setAudio i false

/-- The endpoint and the runtime of a replacement that the step finishes. -/
def finishes : ConnectionStep → Option (EndpointId × RuntimeId)
  | .resume call =>
    match c.calls call with
    | some (.closingAudio e existing) =>
      if (c.registry.links existing).websocket then none else some (e, existing)
    | some (.closingControl e existing) => some (e, existing)
    | _ => none
  | _ => none

end Connections

/-- A call comes out of a replacement only where no other runtime is live for its endpoint. -/
def ReplacesAlone (c : Connections) (step : ConnectionStep) : Prop :=
  ∀ r ∈ c.finishes step, c.registry.takenByAnother r.2 r.1 = false

instance (c : Connections) (step : ConnectionStep) : Decidable (ReplacesAlone c step) :=
  inferInstanceAs (Decidable (∀ r ∈ c.finishes step, c.registry.takenByAnother r.2 r.1 = false))

/-- An endpoint has at most one live runtime, and `_runtime_for_endpoint` finds it. -/
def OneLiveRuntime (r : Registry) : Prop :=
  ∀ e i, (r.links i).live = true → (r.links i).connectedEndpointId = some e →
    r.runtimeForEndpoint e = some i ∧
      ∀ j, (r.links j).live = true → (r.links j).connectedEndpointId = some e → j = i

/-! ### The invariant -/

/-- The runtime a call has made. -/
def Phase.runtime : Phase → Option RuntimeId
  | .sendingConfig i | .receiving i => some i
  | _ => none

/-- The endpoint a call will make its runtime for. -/
def Phase.endpoint : Phase → Option EndpointId
  | .closingAudio e _ | .closingControl e _ => some e
  | _ => none

/-- Live runtimes are registered, and calls are for runtimes that were made. -/
structure Connections.WellFormed (c : Connections) : Prop where
  registry : c.registry.WellFormed
  made : ∀ call phase, c.calls call = some phase → ∀ i ∈ phase.runtime,
    ∀ n, c.registry.nextConnection ≤ n → RuntimeId.connection n ≠ i
  named : ∀ call phase, c.calls call = some phase → ∀ e ∈ phase.endpoint, e ≠ ""

theorem Registry.WellFormed.oneLiveRuntime (h : r.WellFormed) : OneLiveRuntime r := by
  intro e i hlive he
  refine ⟨h.runtimeForEndpoint hlive he, fun j hlive' he' => ?_⟩
  have hget := h.registered j e hlive' he'
  exact Option.some.inj (hget.symm.trans (h.registered i e hlive he))

@[simp] theorem Registry.setConnectedEndpointId_nextConnection {i : RuntimeId}
    {e : EndpointId} : (r.setConnectedEndpointId i e).nextConnection = r.nextConnection := by
  unfold Registry.setConnectedEndpointId
  split <;> simp

@[simp] theorem Registry.bound_nextConnection {i : RuntimeId} {e : EndpointId} :
    (r.bound i e).nextConnection = r.nextConnection := by
  unfold Registry.bound
  split <;> simp

namespace Connections

variable {c : Connections} {call : ℕ} {e : EndpointId} {existing i : RuntimeId}

theorem initialEndpointId_ne {endpointId : Option EndpointId} (h : initialEndpointId endpointId = some e) :
    e ≠ "" := by
  simpa using (Option.filter_eq_some_iff.mp h).2

/-- A suspended call. -/
theorem WellFormed.suspend (h : c.WellFormed) {phase : Phase}
    (hmade : ∀ i ∈ phase.runtime, ∀ n, c.registry.nextConnection ≤ n → RuntimeId.connection n ≠ i)
    (hnamed : ∀ e ∈ phase.endpoint, e ≠ "") : (c.suspend call phase).WellFormed where
  registry := h.registry
  made := by
    intro n p hp
    by_cases hn : n = call
    · subst hn
      obtain rfl : phase = p := by simpa [Connections.suspend] using hp
      exact hmade
    · exact h.made n p (by simpa [Connections.suspend, hn] using hp)
  named := by
    intro n p hp
    by_cases hn : n = call
    · subst hn
      obtain rfl : phase = p := by simpa [Connections.suspend] using hp
      exact hnamed
    · exact h.named n p (by simpa [Connections.suspend, hn] using hp)

/-- The registry changes. -/
theorem WellFormed.withRegistry (h : c.WellFormed) (hr : r.WellFormed)
    (hnext : c.registry.nextConnection ≤ r.nextConnection) :
    { c with registry := r }.WellFormed where
  registry := hr
  made := fun n p hp i hi m hm => h.made n p hp i hi m (hnext.trans hm)
  named := h.named

/-- A new runtime. -/
theorem WellFormed.openRuntime (h : c.WellFormed) {endpointId : Option EndpointId}
    (hnamed : ∀ e ∈ endpointId, e ≠ "")
    (hdead : ∀ e ∈ endpointId, ∀ j, c.registry.endpointRuntimes.get e = some j →
      (c.registry.links j).live = false) :
    (c.openRuntime call endpointId).WellFormed := by
  have hmade : ∀ n, c.registry.nextConnection + 1 ≤ n →
      RuntimeId.connection n ≠ .connection c.registry.nextConnection :=
    fun n hn => Registry.connection_ne_of_lt hn
  cases endpointId with
  | none =>
    refine (h.withRegistry h.registry.connect (Nat.le_succ _)).suspend ?_ (by rintro e ⟨⟩)
    rintro i ⟨⟩
    exact hmade
  | some e =>
    have hr := h.registry.opened (hnamed e rfl) (hdead e rfl)
    refine (h.withRegistry hr ?_).suspend ?_ (by rintro e ⟨⟩)
    · rw [Registry.setConnectedEndpointId_nextConnection]
      exact Nat.le_succ _
    · rintro i ⟨⟩ n hn
      rw [Registry.setConnectedEndpointId_nextConnection] at hn
      exact hmade n hn

/-- A replacement that finishes where no other runtime is live for the endpoint. -/
theorem WellFormed.finishReplacement (h : c.WellFormed) (he : e ≠ "")
    (hfree : c.registry.takenByAnother existing e = false) :
    (c.finishReplacement call e existing).WellFormed := by
  have hreplaced := h.withRegistry (h.registry.replaced existing)
    (by simp [Registry.replaced] : c.registry.nextConnection ≤
      ((c.registry.replaced existing).unbindRuntimeEndpoint existing).nextConnection)
  refine hreplaced.openRuntime (by rintro e' ⟨⟩; exact he) ?_
  rintro e' ⟨⟩ j hget
  by_cases hj : j = existing
  · rw [hj]
    exact Registry.replaced_dead
  · simp only [Registry.unbindRuntimeEndpoint_links, Registry.replaced,
      Registry.setLink_links_of_ne _ hj]
    exact Registry.live_of_takenByAnother hfree
      (Registry.get_of_get_unbindRuntimeEndpoint (r := c.registry.replaced existing) hget) hj

theorem WellFormed.closeControl (h : c.WellFormed) (he : e ≠ "")
    (hfree : (c.registry.links existing).websocket = false →
      c.registry.takenByAnother existing e = false) :
    (c.closeControl call e existing).WellFormed := by
  unfold Connections.closeControl
  split
  · refine h.suspend (by rintro i ⟨⟩) ?_
    rintro e' ⟨⟩
    exact he
  · next hclosed => exact h.finishReplacement he (hfree (by simpa using hclosed))

/-- A call of an endpoint. -/
theorem WellFormed.handleWebsocket (h : c.WellFormed) (endpointId : Option EndpointId) :
    (c.handleWebsocket call endpointId).WellFormed := by
  unfold Connections.handleWebsocket
  split
  · exact h.openRuntime (by rintro e ⟨⟩) (by rintro e ⟨⟩)
  · next e he =>
    have hne := initialEndpointId_ne he
    split
    · next existing hexisting =>
      have hwebsocket : (c.registry.links existing).websocket = true := by
        have hlive := Registry.live_of_runtimeForEndpoint hexisting
        simp only [EndpointLink.live, Bool.and_eq_true] at hlive
        exact hlive.2
      unfold Connections.replaceEndpointRuntime
      split
      · refine h.suspend (by rintro i ⟨⟩) ?_
        rintro e' ⟨⟩
        exact hne
      · refine h.closeControl hne fun hclosed => ?_
        rw [hwebsocket] at hclosed
        cases hclosed
    · next hnone =>
      refine h.openRuntime (by rintro e' ⟨⟩; exact hne) ?_
      rintro e' ⟨⟩ j hget
      by_contra hlive
      have hfound := Registry.runtimeForEndpoint_of_get hget (by simpa using hlive)
      simp [hnone] at hfound

/-- Audio connections make no runtime live. -/
theorem WellFormed.setAudio (h : c.WellFormed) {audio : Bool}
    (hborn : audio = true → (c.registry.links i).live = true) : (c.setAudio i audio).WellFormed := by
  refine h.withRegistry (h.registry.of_fewer rfl ?_ ?_ ?_ (fun _ _ _ hget => hget)
    fun _ _ hget => hget) le_rfl
  · intro j
    by_cases hj : j = i
    · subst hj
      simp
    · rw [Registry.setLink_links_of_ne _ hj]
  · intro j hlive
    by_cases hj : j = i
    · subst hj
      simpa [EndpointLink.live] using hlive
    · rwa [Registry.setLink_links_of_ne _ hj] at hlive
  · intro j hj'
    by_cases hj : j = i
    · subst hj
      cases audio with
      | false => simp [hj']
      | true =>
        have hlive := hborn rfl
        rw [hj'] at hlive
        cases hlive
    · rwa [Registry.setLink_links_of_ne _ hj]

/-- **The step lemma.** -/
theorem WellFormed.step (h : c.WellFormed) {next : ConnectionStep} (halone : ReplacesAlone c next) :
    (c.step next).WellFormed := by
  cases next with
  | handleWebsocket call endpointId =>
    simp only [Connections.step]
    split
    · exact h.handleWebsocket endpointId
    · exact h
  | resume call =>
    simp only [Connections.step]
    split
    · next e existing hcall =>
      refine h.closeControl (h.named call _ hcall e rfl) fun hclosed => ?_
      exact halone (e, existing) (by simp [finishes, hcall, hclosed])
    · next e existing hcall =>
      exact h.finishReplacement (h.named call _ hcall e rfl)
        (halone (e, existing) (by simp [finishes, hcall]))
    · next i hcall =>
      refine h.suspend ?_ (by rintro e ⟨⟩)
      rintro j ⟨⟩
      exact h.made call _ hcall i rfl
    · exact h
  | configFails call =>
    simp only [Connections.step]
    split
    · exact h.suspend (by rintro i ⟨⟩) (by rintro e ⟨⟩)
    · exact h
  | message call ev =>
    simp only [Connections.step]
    split
    · next i hcall =>
      split
      · exact h
      · next hnone =>
        obtain ⟨hfree, -⟩ := Registry.of_rejection hnone
        exact h.withRegistry (h.registry.bound ev.named (h.made call _ hcall i rfl) hfree)
          (by simp)
    · exact h
  | disconnect call =>
    simp only [Connections.step]
    split
    · next i hcall =>
      exact (h.withRegistry (h.registry.disconnect i) le_rfl).suspend (by rintro i ⟨⟩)
        (by rintro e ⟨⟩)
    · exact h
  | audioConnects endpointId =>
    simp only [Connections.step]
    split
    · exact h
    · next i hfound =>
      split
      · exact h
      · exact h.setAudio fun _ => Registry.live_of_runtimeForEndpoint hfound
  | audioDisconnects i => exact h.setAudio (by rintro ⟨⟩)

end Connections

/-- **One live runtime for each endpoint.** -/
theorem one_live_runtime (steps : List ConnectionStep)
    (halone : AllSteps Connections.step ReplacesAlone {} steps) :
    OneLiveRuntime (run Connections.step {} steps).registry := by
  have hinit : ({} : Connections).WellFormed :=
    ⟨⟨by rintro i e ⟨⟩, by rintro i e ⟨⟩, fun _ _ => rfl⟩, by rintro n p ⟨⟩, by rintro n p ⟨⟩⟩
  have hwellFormed : (run Connections.step {} steps).WellFormed :=
    run_invariant (fun _ _ hc hok => hc.step hok) hinit halone
  exact hwellFormed.registry.oneLiveRuntime

/-- The kitchen connects, and connects again when it lost its connection. -/
def reconnects : List ConnectionStep :=
  [.handleWebsocket 0 (some "kitchen"), .resume 0, .handleWebsocket 1 (some "kitchen"), .resume 1]

theorem one_live_runtime_reconnects :
    OneLiveRuntime (run Connections.step {} reconnects).registry :=
  one_live_runtime reconnects (by decide)

/-- The kitchen connects a third time while the second connection still replaces the first: both
are live. -/
theorem two_live_runtimes :
    ¬ OneLiveRuntime (run Connections.step {}
      [.handleWebsocket 0 (some "kitchen"), .resume 0, .handleWebsocket 1 (some "kitchen"),
        .handleWebsocket 2 (some "kitchen"), .resume 1, .resume 2]).registry := by
  intro h
  obtain ⟨-, honly⟩ := h "kitchen" (.connection 1) (by decide) (by decide)
  have heq := honly (.connection 2) (by decide) (by decide)
  cases heq

/-- A call that nothing interrupts does to the registry what the manager's step does. -/
theorem uninterrupted_admit {cfg : Config} {v : VoiceSessionManager} (hsteady : v.Steady)
    (c : Connections) (hc : c.registry = v.registry) {call : ℕ} (hcall : c.calls call = none)
    (endpointId : Option EndpointId) :
    (run Connections.step c [.handleWebsocket call endpointId, .resume call, .resume call]).registry =
      (step cfg v (.handleWebsocket endpointId)).registry := by
  rw [step_registry cfg hsteady, VoiceSessionManager.registryAfter, ← hc]
  simp only [run_cons, run_nil, Connections.step, hcall, Connections.handleWebsocket,
    Registry.admit]
  cases he : initialEndpointId endpointId with
  | none => simp [Connections.openRuntime, Connections.suspend]
  | some e =>
    simp only [Option.bind_some]
    cases hexisting : c.registry.runtimeForEndpoint e with
    | none => simp [Connections.openRuntime, Connections.suspend]
    | some existing =>
      have hwebsocket : (c.registry.links existing).websocket = true := by
        have hlive := Registry.live_of_runtimeForEndpoint hexisting
        simp only [EndpointLink.live, Bool.and_eq_true] at hlive
        exact hlive.2
      cases haudio : (c.registry.links existing).audioWebsocket <;>
        simp [Connections.replaceEndpointRuntime, Connections.closeControl, haudio, hwebsocket,
          Connections.suspend, Connections.finishReplacement, Connections.openRuntime]

theorem uninterrupted_admit_kitchen :
    (run Connections.step {} [.handleWebsocket 0 (some "kitchen"), .resume 0, .resume 0]).registry =
      (step {} (.init {}) (.handleWebsocket (some "kitchen"))).registry :=
  uninterrupted_admit (by rintro j s ⟨⟩) {} rfl rfl _

end HexeVoice.Voice
