import HexeVoice.Voice.AcceptedWakes
import HexeVoice.Voice.ElectionLead

/-!
# The winners of wake elections

An election knows its winner by the candidate, and is told nothing when the winner's session
ends. A session knows that its wake was accepted. The two meet in the trace, where
`wakeAccepted` names the session, the election and the candidate.

## What is proved

`live_winner`: after each acceptance the accepted session is the only active one of its
election, as long as no candidate replaces a winner with its own endpoint and session id.
`rejected_for_winner`: whoever is told to stand down, is told so for a candidate that was
accepted, and whose session is active with its wake accepted, unless it has ended.
-/

namespace HexeVoice.Voice

open HexeVoice.Library

variable {session : VoiceSessionSnapshot}

/-! ### What a step accepts -/

section accepted

variable {cfg : Config} {v : VoiceSessionManager} {input : Input} {i j : RuntimeId} {o : Occasion}
  {serial electionId : ℕ} {c : WakeCandidate} {w : SessionView} {as : List SessionAction}

theorem mem_life_run {e : Effect} (h : e ∈ w.life) : e ∈ (run SessionView.act w as).life := by
  induction as generalizing w with
  | nil => exact h
  | cons a as ih =>
    refine ih ?_
    rw [w.act_life]
    exact List.mem_append_left _ h

/-- Who accepted a wake: the event in the runtime of the session. -/
def AcceptedIn (cfg : Config) (occasion : Option (RuntimeId × Occasion)) (j : RuntimeId)
    (serial electionId : ℕ) (c : WakeCandidate) : Prop :=
  ∃ o session decision, occasion = some (j, o) ∧
    o.acceptedCandidate cfg = some (session, c, decision) ∧ serial = session.serial ∧
    electionId = decision.electionId

theorem acceptedIn_of_run {occasion : Option (RuntimeId × Occasion)}
    (hok : AllSteps SessionView.act (Happens cfg occasion j) w as)
    (h : .wakeAccepted serial electionId c ∈ (run SessionView.act w as).life) :
    .wakeAccepted serial electionId c ∈ w.life ∨ AcceptedIn cfg occasion j serial electionId c := by
  induction as generalizing w with
  | nil => exact .inl h
  | cons a as ih =>
    rcases ih hok.2 h with hmem | haccepted
    · rcases mem_life_act hmem with hold | hnew
      · exact .inl hold
      · obtain rfl := wakeAccepted_mem_notes hnew
        rcases hok.1 with hcancel | ⟨id, hid⟩ | ⟨o, ho, session, decision, hacc, hserial, hid, -⟩
        · cases hcancel
        · cases hid
        · exact .inr ⟨o, session, decision, ho, hacc, hserial, hid⟩
    · exact .inr haccepted

/-- A session after a run is one that was there, or it began with a new number. -/
theorem serial_of_run {occasion : Option (RuntimeId × Occasion)} {n m : ℕ} {s' : SessionCore}
    (hok : AllSteps SessionView.act (Happens cfg occasion j) w as) (hdraws : Draws n m as)
    (hs' : (run SessionView.act w as).session = some s') :
    (∃ s ∈ w.session, s.serial = s'.serial) ∨ n ≤ s'.serial := by
  induction as generalizing w n with
  | nil => exact .inl ⟨s', hs', rfl⟩
  | cons a as ih =>
    obtain ⟨mid, hle, hfresh, hrest⟩ := hdraws
    rcases ih hok.2 hrest hs' with ⟨s, hs, hserial⟩ | hnew
    · cases hstart : a.isStart with
      | true =>
        cases a with
        | start session manual placementTest =>
          rw [(SessionView.act_start w session manual placementTest).1] at hs
          cases hs
          exact .inr (hserial ▸ hfresh.1)
        | _ => cases hstart
      | false =>
        obtain ⟨s₀, hs₀, -, rfl⟩ := SessionView.session_of_act hstart hs
        exact .inl ⟨s₀, hs₀, hserial⟩
    · exact .inr (hle.trans hnew)

theorem desk_of_occasion (h : v.occasion input = some (i, o)) : o.desk = v.desk i := by
  unfold VoiceSessionManager.occasion at h
  split at h
  · split at h
    · cases h
    · cases h
      rfl
  · split at h
    · cases h
    · split at h
      · cases h
      · cases h
        rfl
  · cases h

/-- A wake that is accepted after a step was so before, or the input got it accepted. -/
theorem acceptedIn_of_step (hsteady : v.Steady)
    (h : .wakeAccepted serial electionId c ∈ ((step cfg v input).sessions j).view.life) :
    .wakeAccepted serial electionId c ∈ (v.sessions j).view.life ∨
      AcceptedIn cfg (v.occasion input) j serial electionId c := by
  obtain ⟨as, hview, hok, -⟩ := (step_does cfg hsteady input).actions j
  rw [hview] at h
  exact acceptedIn_of_run hok h

theorem mem_life_step (hsteady : v.Steady) {e : Effect} (h : e ∈ (v.sessions j).view.life) :
    e ∈ ((step cfg v input).sessions j).view.life := by
  obtain ⟨as, hview, -, -⟩ := (step_does cfg hsteady input).actions j
  rw [hview]
  exact mem_life_run h

theorem serial_of_step (hsteady : v.Steady) {s' : SessionCore}
    (hs' : ((step cfg v input).sessions j).view.session = some s') :
    (∃ s ∈ (v.sessions j).view.session, s.serial = s'.serial) ∨ v.shared.uuid ≤ s'.serial := by
  obtain ⟨as, hview, hok, hdraws⟩ := (step_does cfg hsteady input).actions j
  rw [hview] at hs'
  exact serial_of_run hok hdraws hs'

/-- The event that gets a wake accepted records it. -/
theorem Accepts.mem_life {decision : WakeElectionDecision}
    {v' : VoiceSessionManager} (h : Accepts cfg v i o session c decision v') :
    .wakeAccepted session.serial decision.electionId c ∈ (v'.sessions i).view.life := by
  obtain ⟨pre, post, -, -, -, hview⟩ := h.view_self
  rw [hview, run_append]
  refine mem_life_run (w := SessionView.act _ (.accept _ _ _)) ?_
  rw [SessionView.act_life]
  exact List.mem_append_right _ (List.mem_singleton_self _)

end accepted

/-! ### Elections and the trace -/

/-- The election knows its winner, and the winner was accepted. -/
structure VoiceSessionManager.Elects (v : VoiceSessionManager) : Prop where
  steady : v.Steady
  connected : v.WellConnected
  leads : v.shared.wakeElection.Leads v.shared.uuid v.shared.now
  wakes : ∀ i, (v.sessions i).view.Wakes v.shared.uuid
  election_lt : ∀ i serial electionId c,
    .wakeAccepted serial electionId c ∈ (v.sessions i).view.life → electionId < v.shared.uuid
  crowned : ∀ d ∈ v.shared.wakeElection.activeDecision, ∀ w ∈ d.winner,
    ∃ i serial, .wakeAccepted serial d.electionId w ∈ (v.sessions i).view.life

theorem VoiceSessionManager.init_elects (cfg : Config) : (VoiceSessionManager.init cfg).Elects where
  steady := VoiceSessionManager.init_steady cfg
  connected := ⟨⟨by rintro i e ⟨⟩, by rintro i e ⟨⟩, fun _ _ => rfl⟩, by rintro i s ⟨⟩⟩
  leads := ⟨by simp [init], by simp [init], by simp [init], by simp [init], by simp [init]⟩
  wakes := fun _ => (wakes_invariant cfg).init
  election_lt := by rintro i serial electionId c ⟨⟩
  crowned := by rintro d ⟨⟩

section elects

variable {cfg : Config} {v : VoiceSessionManager} {input : Input} {i j : RuntimeId} {o : Occasion}

/-- What a step does to the wake election: it answers the candidate that the event submits. -/
inductive Elected (cfg : Config) (v : VoiceSessionManager) (input : Input)
    (v' : VoiceSessionManager) : Prop
  /-- No candidate is submitted. -/
  | quiet (hnone : ∀ i o, v.occasion input = some (i, o) → o.submittedCandidate cfg = none)
      (hsame : v'.shared.wakeElection = v.shared.wakeElection)
      (hle : v.shared.uuid ≤ v'.shared.uuid) (hnow : v.shared.now ≤ v'.shared.now)
  | answers {i : RuntimeId} {o : Occasion} {session : VoiceSessionSnapshot} {c : WakeCandidate}
      (hocc : v.occasion input = some (i, o))
      (hhandles : Handles cfg (v.bound i o.ev.endpointId) i o v')
      (hsubmitted : o.submittedCandidate cfg = some (session, c))
      (hanswer : v.shared.wakeElection.Answer c (v.shared.uuid + 1) (o.election c).1
        v'.shared.wakeElection.activeDecision)
      (hleads : v'.shared.wakeElection.Leads (v.shared.uuid + 2) v.shared.now)
      (hle : v.shared.uuid + 2 ≤ v'.shared.uuid) (hnow : v.shared.now ≤ v'.shared.now) :
    Elected cfg v input v'

variable (cfg) in
theorem step_elected (h : v.Elects) (input : Input) : Elected cfg v input (step cfg v input) := by
  cases hocc : v.occasion input with
  | none =>
    obtain ⟨hends, -⟩ := step_onlyEnds cfg h.steady hocc
    exact .quiet (by simp [hocc]) hends.election_eq hends.uuid_le hends.now_le
  | some e =>
    obtain ⟨i, o⟩ := e
    have hhandles : Handles cfg (v.bound i o.ev.endpointId) i o (step cfg v input) :=
      step_handles h.steady hocc
    have hdesk : o.desk.shared = v.shared := by rw [desk_of_occasion hocc]; rfl
    have hnow : v.shared.now ≤ (step cfg v input).shared.now := hhandles.now_eq.ge
    cases hsubmitted : o.submittedCandidate cfg with
    | none =>
      refine .quiet ?_ ?_ hhandles.does.uuid_le hnow
      · intro i' o' ho'
        cases hocc.symm.trans ho'
        exact hsubmitted
      · rw [hhandles.election_eq, Occasion.electionAfter, hsubmitted, hdesk]
    | some sc =>
      obtain ⟨session, c⟩ := sc
      have hby := submittedBy_of_submittedCandidate hsubmitted
      have hid : c.candidateId = v.shared.uuid := by rw [hby.candidateId, hdesk]
      have hat : c.receivedAt = v.shared.now := by rw [hby.receivedAt, hdesk]
      have hel : (step cfg v input).shared.wakeElection =
          (v.shared.wakeElection.submitCandidate c (v.shared.uuid + 1)).2 := by
        rw [hhandles.election_eq, Occasion.electionAfter, hsubmitted]
        show (o.election c).2 = _
        rw [Occasion.election, hdesk]
      have huuid := hhandles.uuid_le
      rw [Occasion.uuidAfterElection, hsubmitted, hdesk] at huuid
      refine .answers hocc hhandles hsubmitted ?_ ?_ huuid hnow
      · rw [hel, Occasion.election, hdesk]
        exact h.leads.submit hid.ge _
      · rw [hel]
        exact h.leads.submit_leads hid hat

theorem ownsSession_of_occasion (h : v.Elects) (hmade : input.onMade v)
    (hocc : v.occasion input = some (i, o)) : o.ownsSession := by
  intro s hs
  rw [desk_of_occasion hocc] at hs
  have hview := SessionRuntime.view_session (Option.mem_def.mp hs)
  exact (occasion_connected h.connected.registry hmade hocc).2.2 _ (h.connected.attached i _ hview)

/-- The candidate that an event gets accepted is the one it submits. -/
theorem acceptedCandidate_of_submitted {c : WakeCandidate}
    (hsubmitted : o.submittedCandidate cfg = some (session, c))
    (haccepted : (o.election c).1.accepted = true) :
    o.acceptedCandidate cfg = some (session, c, (o.election c).1) := by
  simp [Occasion.acceptedCandidate, hsubmitted, haccepted]

theorem eq_of_acceptedIn {occasion : Option (RuntimeId × Occasion)} {serial electionId : ℕ}
    {c c' : WakeCandidate} (hocc : occasion = some (i, o))
    (hsubmitted : o.submittedCandidate cfg = some (session, c))
    (h : AcceptedIn cfg occasion j serial electionId c') :
    j = i ∧ serial = session.serial ∧ electionId = (o.election c).1.electionId ∧ c' = c ∧
      (o.election c).1.accepted = true := by
  obtain ⟨o', session', decision, ho', haccepted, rfl, rfl⟩ := h
  cases hocc.symm.trans ho'
  obtain ⟨hsub, rfl, hyes⟩ := acceptedCandidate_eq_some haccepted
  obtain ⟨rfl, rfl⟩ : session = session' ∧ c = c' := by
    simpa using hsubmitted.symm.trans hsub
  exact ⟨rfl, rfl, rfl, rfl, hyes⟩

theorem not_acceptedIn {serial electionId : ℕ} {c : WakeCandidate}
    (hnone : ∀ i o, v.occasion input = some (i, o) → o.submittedCandidate cfg = none) :
    ¬ AcceptedIn cfg (v.occasion input) j serial electionId c := by
  rintro ⟨o, session, decision, ho, haccepted, -⟩
  obtain ⟨hsub, -⟩ := acceptedCandidate_eq_some haccepted
  simp [hnone j o ho] at hsub

/-- **The step lemma**: the winner stays known, and accepted. -/
theorem step_elects (h : v.Elects) (hmade : input.onMade v) : (step cfg v input).Elects := by
  have hsteady := h.steady
  have hmeets : ∀ i, Meets Occasion.ownsSession i v input := by
    rintro i ⟨i', o⟩ hocc rfl
    exact ownsSession_of_occasion h hmade hocc
  have helected : Elected cfg v input (step cfg v input) := step_elected cfg h input
  have hkept : ∀ d ∈ v.shared.wakeElection.activeDecision, ∀ w ∈ d.winner, ∃ i serial,
      .wakeAccepted serial d.electionId w ∈ ((step cfg v input).sessions i).view.life := by
    intro d hd w hw
    obtain ⟨i, serial, hmem⟩ := h.crowned d hd w hw
    exact ⟨i, serial, mem_life_step hsteady hmem⟩
  refine ⟨step_steady hsteady input, step_wellConnected hsteady h.connected hmade, ?_,
    fun i => (wakes_invariant cfg).step_inv hsteady (h.wakes i) (hmeets i), ?_, ?_⟩
  · cases helected with
    | quiet hnone hsame hle hnow =>
      rw [hsame]
      exact h.leads.mono hle hnow
    | answers hocc hhandles hsubmitted hanswer hleads hle hnow => exact hleads.mono hle hnow
  · intro i serial electionId c hmem
    rcases acceptedIn_of_step hsteady hmem with hold | hnew
    · exact (h.election_lt i serial electionId c hold).trans_le (step_does cfg hsteady input).uuid_le
    · cases helected with
      | quiet hnone => exact absurd hnew (not_acceptedIn hnone)
      | answers hocc hhandles hsubmitted hanswer hleads hle hnow =>
        obtain ⟨-, -, rfl, rfl, -⟩ := eq_of_acceptedIn hocc hsubmitted hnew
        exact (h.leads.electionId_answer hanswer).trans_le hle
  · cases helected with
    | quiet hnone hsame =>
      rw [hsame]
      exact hkept
    | @answers i o session c hocc hhandles hsubmitted hanswer hleads hle hnow =>
      intro d hd w hw
      have haccepts (haccepted : (o.election c).1.accepted = true) :
          .wakeAccepted session.serial (o.election c).1.electionId c ∈
            ((step cfg v input).sessions i).view.life :=
        (hhandles.accepts _ _ _ (acceptedCandidate_of_submitted hsubmitted haccepted)).mem_life
      generalize hr : (o.election c).1 = r at hanswer haccepts
      generalize hactive : (step cfg v input).shared.wakeElection.activeDecision = active at hanswer hd
      cases hanswer with
      | opens _ _ haccepted hwinner =>
        cases hd
        cases hwinner.symm.trans hw
        exact ⟨i, session.serial, haccepts haccepted⟩
      | replaces _ _ _ haccepted hwinner =>
        cases hd
        cases hwinner.symm.trans hw
        exact ⟨i, session.serial, haccepts haccepted⟩
      | rejects hreigning =>
        cases hd
        exact hkept d (h.leads.reigns hreigning).1 w hw

end elects

/-! ### One live winner -/

/-- The event submits a candidate that outranks the winner, and has the winner's endpoint and
session id. -/
def Occasion.reusesWinner (cfg : Config) (o : Occasion) : Bool :=
  (o.submittedCandidate cfg).any fun (_, c) =>
    (o.desk.shared.wakeElection.reigning c.receivedAt).any fun (_, w) =>
      w.rankKey < c.rankKey && w.endpointId = c.endpointId && w.sessionId = c.sessionId

/-- A message arrives on an open connection, and its event replaces no winner that had the same
endpoint and session id. -/
def KeepsWinner (cfg : Config) (v : VoiceSessionManager) (input : Input) : Prop :=
  input.onLive v ∧ ∀ e ∈ v.occasion input, e.2.reusesWinner cfg = false

instance (cfg : Config) (v : VoiceSessionManager) (input : Input) :
    Decidable (KeepsWinner cfg v input) :=
  inferInstanceAs (Decidable (input.onLive v ∧ ∀ e ∈ v.occasion input, e.2.reusesWinner cfg = false))

/-- After a step that gets a wake accepted, the session is the active one of its endpoint and
hears audio, and no other session that was accepted under the election is active. -/
def LiveWinner (cfg : Config) (v : VoiceSessionManager) (input : Input) : Prop :=
  ∀ i serial electionId candidate,
    .wakeAccepted serial electionId candidate ∈ ((step cfg v input).sessions i).trace →
    .wakeAccepted serial electionId candidate ∉ (v.sessions i).trace →
    let v' := step cfg v input
    v'.registry.runtimeForEndpoint candidate.endpointId = some i ∧
      (∃ s ∈ (v'.sessions i).activeSession, s.serial = serial ∧
        (s.sessionState = .listening ∨ s.sessionState = .capturing)) ∧
      ∀ j, ∀ s ∈ (v'.sessions j).activeSession, ∀ c,
        .wakeAccepted s.serial electionId c ∈ (v'.sessions j).trace → j = i ∧ s.serial = serial

/-- Whoever is active and was accepted under the election, was accepted with the candidate. -/
def SessionView.Follows (electionId : ℕ) (winner : WakeCandidate) (w : SessionView) : Prop :=
  ∀ s ∈ w.session, ∀ c, .wakeAccepted s.serial electionId c ∈ w.life → c = winner

/-- Only the winner's session is active, of all that the active election accepted. -/
structure VoiceSessionManager.Crowns (v : VoiceSessionManager) : Prop where
  elects : v.Elects
  live : v.SessionsLive
  follows : ∀ d ∈ v.shared.wakeElection.activeDecision, ∀ w ∈ d.winner, ∀ i,
    (v.sessions i).view.Follows d.electionId w

theorem mem_life_iff {r : SessionRuntime} {e : Effect} (he : e.isLife = true) :
    e ∈ r.view.life ↔ e ∈ r.trace := by
  simp [SessionRuntime.view, he]

section crowns

variable {cfg : Config} {v : VoiceSessionManager} {input : Input} {i j : RuntimeId} {o : Occasion}
  {session : VoiceSessionSnapshot} {c c' : WakeCandidate} {decision : WakeElectionDecision}
  {s' : SessionCore}

theorem view_of_submitted (hocc : v.occasion input = some (i, o))
    (hsubmitted : o.submittedCandidate cfg = some (session, c)) :
    (v.sessions i).view.session = some session.core := by
  have hactive := (submittedBy_of_submittedCandidate hsubmitted).isActive
  rw [desk_of_occasion hocc] at hactive
  exact SessionRuntime.view_session hactive

/-- A session that was accepted before the step was there before the step. -/
theorem VoiceSessionManager.Elects.exists_session (h : v.Elects) {electionId : ℕ}
    (hs' : ((step cfg v input).sessions j).view.session = some s')
    (hold : .wakeAccepted s'.serial electionId c ∈ (v.sessions j).view.life) :
    ∃ s ∈ (v.sessions j).view.session, s.serial = s'.serial := by
  rcases serial_of_step h.steady hs' with hs | hnew
  · exact hs
  · exact absurd ((h.wakes j).accepted_lt hold) (Nat.not_lt.mpr hnew)

/-- The replaced winner's session is the one that is stood down. -/
theorem standDownTarget_of_follows (h : v.Crowns) (hlive : input.onLive v)
    (hocc : v.occasion input = some (i, o)) {w : WakeCandidate}
    (hreplaced : decision.replacedWinner = some w) (hwinner : decision.winner.isSome = true)
    {s : SessionCore} (hs : (v.sessions j).view.session = some s)
    (hendpoint : w.endpointId = s.endpointId) (hsession : w.sessionId = s.sessionId) :
    (v.bound i o.ev.endpointId).standDownTarget decision = some j := by
  obtain ⟨winner, hwinner⟩ := Option.isSome_iff_exists.mp hwinner
  have hmade := input.onMade_of_onLive h.elects.connected.registry hlive
  obtain ⟨hi, hfree, he⟩ := occasion_connected h.elects.connected.registry hmade hocc
  have hregistry : (v.registry.bound i o.ev.endpointId).WellFormed :=
    h.elects.connected.registry.bound o.event.named hi hfree
  have hattached := (h.elects.connected.attached j).bound he s hs
  have hlive' : ((v.registry.bound i o.ev.endpointId).links j).live = true := by
    rw [Registry.bound_live]
    exact h.live j (by simp [hs])
  have hfound : (v.bound i o.ev.endpointId).registry.runtimeForEndpoint w.endpointId = some j :=
    hregistry.runtimeForEndpoint hlive' (by rw [hattached, hendpoint])
  have hs' : ((v.bound i o.ev.endpointId).sessions j).view.session = some s := hs
  simp only [VoiceSessionManager.standDownTarget, hreplaced, hwinner, hfound]
  rw [Option.filter_some, if_pos]
  simp [hs', hsession]

/-- **Only the winner**: after an acceptance, no other session that the election accepted is
active. -/
theorem sole_winner (h : v.Crowns) (hlive : input.onLive v)
    (hocc : v.occasion input = some (i, o))
    (haccepted : o.acceptedCandidate cfg = some (session, c, decision))
    (hs' : ((step cfg v input).sessions j).view.session = some s')
    (hmem : .wakeAccepted s'.serial decision.electionId c' ∈
      ((step cfg v input).sessions j).view.life) :
    j = i ∧ s'.serial = session.serial ∧ c' = c := by
  obtain ⟨hsubmitted, hdecision, hyes⟩ := acceptedCandidate_eq_some haccepted
  rcases acceptedIn_of_step h.elects.steady hmem with hold | hnew
  swap
  · obtain ⟨hj, hserial, -, hc, -⟩ := eq_of_acceptedIn hocc hsubmitted hnew
    exact ⟨hj, hserial, hc⟩
  -- accepted before under the same election: the winner that the step stood down
  exfalso
  obtain ⟨s, hs, hserial⟩ := h.elects.exists_session hs' hold
  cases step_elected cfg h.elects input with
  | quiet hnone => simp [hnone i o hocc] at hsubmitted
  | answers hocc' hhandles hsubmitted' hanswer =>
    cases hocc.symm.trans hocc'
    cases hsubmitted.symm.trans hsubmitted'
    rw [← hdecision] at hanswer
    generalize (step cfg v input).shared.wakeElection.activeDecision = active at hanswer
    cases hanswer with
    | opens _ hid =>
      have hlt := h.elects.election_lt j _ _ _ hold
      omega
    | rejects _ _ _ hno => simp [hno] at hyes
    | replaces hreigning _ hid _ hwinner hreplaced =>
      obtain ⟨hd, hw, -⟩ := h.elects.leads.reigns hreigning
      rw [← hserial, hid] at hold
      obtain rfl := h.follows _ hd _ hw j s hs c' hold
      obtain ⟨hstate, -, hendpoint, hsession⟩ := (h.elects.wakes j).awake s hs _ _ hold
      by_cases hj : j = i
      · subst hj
        obtain rfl := Option.some.inj ((view_of_submitted hocc hsubmitted).symm.trans hs)
        exact hstate (submittedBy_of_submittedCandidate hsubmitted).isIdle
      · have htarget := standDownTarget_of_follows h hlive hocc hreplaced (by simp [hwinner]) hs
          hendpoint hsession
        have hview := (hhandles.accepts _ _ _ haccepted).view_of_ne j hj
        rw [if_pos htarget] at hview
        rw [hview] at hs'
        cases hs'

/-- **The step lemma**: only the winner's session stays active. -/
theorem step_crowns (h : v.Crowns) (hlive : input.onLive v) : (step cfg v input).Crowns := by
  have hmade := input.onMade_of_onLive h.elects.connected.registry hlive
  refine ⟨step_elects h.elects hmade,
    step_sessionsLive h.elects.steady h.elects.connected h.live hlive, ?_⟩
  intro d hd w hw j s' hs' c' hmem
  -- what was accepted before is as it was
  have hkept : ∀ d ∈ v.shared.wakeElection.activeDecision, ∀ w ∈ d.winner,
      .wakeAccepted s'.serial d.electionId c' ∈ (v.sessions j).view.life → c' = w := by
    intro d hd w hw hold
    obtain ⟨s, hs, hserial⟩ := h.elects.exists_session hs' hold
    exact h.follows d hd w hw j s hs c' (hserial ▸ hold)
  cases step_elected cfg h.elects input with
  | quiet hnone hsame =>
    rw [hsame] at hd
    rcases acceptedIn_of_step h.elects.steady hmem with hold | hnew
    · exact hkept d hd w hw hold
    · exact absurd hnew (not_acceptedIn hnone)
  | @answers i o session c hocc hhandles hsubmitted hanswer =>
    have hsole (haccepted : (o.election c).1.accepted = true)
        (hid : d.electionId = (o.election c).1.electionId) : c' = c :=
      (sole_winner h hlive hocc (acceptedCandidate_of_submitted hsubmitted haccepted) hs'
        (hid ▸ hmem)).2.2
    have hrejected (hno : (o.election c).1.accepted = false)
        (hd' : d ∈ v.shared.wakeElection.activeDecision) : c' = w := by
      rcases acceptedIn_of_step h.elects.steady hmem with hold | hnew
      · exact hkept d hd' w hw hold
      · have hyes := (eq_of_acceptedIn hocc hsubmitted hnew).2.2.2.2
        simp [hno] at hyes
    generalize (o.election c).1 = r at hanswer hsole hrejected
    generalize (step cfg v input).shared.wakeElection.activeDecision = active at hanswer hd
    cases hanswer with
    | opens _ _ haccepted hwinner =>
      cases hd
      cases hwinner.symm.trans hw
      exact hsole haccepted rfl
    | replaces _ _ _ haccepted hwinner =>
      cases hd
      cases hwinner.symm.trans hw
      exact hsole haccepted rfl
    | rejects hreigning _ _ hno =>
      cases hd
      exact hrejected hno (h.elects.leads.reigns hreigning).1

end crowns

section live

variable {cfg : Config} {v : VoiceSessionManager} {input : Input} {i : RuntimeId} {o : Occasion}
  {session : VoiceSessionSnapshot} {c : WakeCandidate} {decision : WakeElectionDecision}

theorem VoiceSessionManager.init_crowns (cfg : Config) : (VoiceSessionManager.init cfg).Crowns where
  elects := init_elects cfg
  live := by
    intro i hsome
    cases hsome
  follows := by rintro d ⟨⟩

/-- Where no winner is replaced by its own endpoint and session id, the accepted session is not
the one that is stood down. -/
theorem standDownTarget_ne (h : v.Crowns) (hlive : input.onLive v)
    (hkeeps : o.reusesWinner cfg = false) (hocc : v.occasion input = some (i, o))
    (haccepted : o.acceptedCandidate cfg = some (session, c, decision)) :
    (v.bound i o.ev.endpointId).standDownTarget decision ≠ some i := by
  obtain ⟨hsubmitted, hdecision, hyes⟩ := acceptedCandidate_eq_some haccepted
  have hby := submittedBy_of_submittedCandidate hsubmitted
  have hmade := input.onMade_of_onLive h.elects.connected.registry hlive
  obtain ⟨hi, hfree, he⟩ := occasion_connected h.elects.connected.registry hmade hocc
  have hregistry : (v.registry.bound i o.ev.endpointId).WellFormed :=
    h.elects.connected.registry.bound o.event.named hi hfree
  intro htarget
  simp only [VoiceSessionManager.standDownTarget] at htarget
  split at htarget
  · next w _ hreplaced _ =>
    obtain ⟨hfound, hany⟩ := Option.filter_eq_some_iff.mp htarget
    have hendpoint : w.endpointId = c.endpointId := by
      have hw := hregistry.connected_of_runtimeForEndpoint hfound
      rw [Registry.bound_connectedEndpointId he] at hw
      rw [hby.endpointId, ← Option.some.inj hw]
    have hsession : w.sessionId = c.sessionId := by
      have hview := view_of_submitted hocc hsubmitted
      rw [show ((v.bound i o.ev.endpointId).sessions i).view.session = _ from hview] at hany
      rw [hby.sessionId]
      exact (of_decide_eq_true hany).symm
    cases step_elected cfg h.elects input with
    | quiet hnone => simp [hnone i o hocc] at hsubmitted
    | answers hocc' hhandles hsubmitted' hanswer =>
      cases hocc.symm.trans hocc'
      cases hsubmitted.symm.trans hsubmitted'
      rw [← hdecision] at hanswer
      generalize (step cfg v input).shared.wakeElection.activeDecision = active at hanswer
      cases hanswer with
      | opens _ _ _ _ hnone => simp [hnone] at hreplaced
      | rejects _ _ _ hno => simp [hno] at hyes
      | replaces hreigning hrank _ _ _ hreplaced' =>
        obtain rfl := Option.some.inj (hreplaced.symm.trans hreplaced')
        have hdesk : o.desk.shared.wakeElection = v.shared.wakeElection := by
          rw [desk_of_occasion hocc]
          rfl
        simp [Occasion.reusesWinner, hsubmitted, hdesk, hreigning, hrank, hendpoint, hsession]
          at hkeeps
  · cases htarget

/-- A session that is accepted and not stood down hears audio. -/
theorem Accepts.hears {v' : VoiceSessionManager} (h : Accepts cfg v i o session c decision v')
    (htarget : v.standDownTarget decision ≠ some i)
    (hsession : (v.sessions i).view.session = some session.core) :
    ∃ s ∈ (v'.sessions i).activeSession, s.serial = session.serial ∧
      (s.sessionState = .listening ∨ s.sessionState = .capturing) := by
  obtain ⟨pre, post, hsub, -, hpost, hview⟩ := h.view_self
  rw [if_neg htarget, List.append_nil, run_append] at hview
  have hpre := (hsub.session_eq (v.sessions i).view).trans hsession
  generalize run SessionView.act (v.sessions i).view pre = w at hview hpre
  have haccept : (w.act (.accept session.serial decision.electionId c)).session =
      some { session.core with state := .listening } := by
    rw [SessionView.act_session hpre rfl]
    simp only [SessionAction.path, VoiceSessionSnapshot.core_state, h.isIdle]
    rfl
  have hrun : ∃ s ∈ (v'.sessions i).view.session, s.serial = session.serial ∧
      (s.state = .listening ∨ s.state = .capturing) := by
    rw [hview]
    rcases hpost with rfl | rfl
    · exact ⟨_, haccept, rfl, .inl rfl⟩
    · exact ⟨_, SessionView.act_session haccept (a := .capture) rfl, rfl, .inr rfl⟩
  obtain ⟨core, hcore, hserial, hstate⟩ := hrun
  obtain ⟨s, hs, rfl⟩ := Option.map_eq_some_iff.mp hcore
  exact ⟨s, hs, hserial, hstate⟩

/-- The accepted session's runtime is the one registered for the candidate's endpoint. -/
theorem registered_of_accepted (h : v.Crowns) (hlive : input.onLive v)
    (hocc : v.occasion input = some (i, o))
    (haccepted : o.acceptedCandidate cfg = some (session, c, decision)) :
    (step cfg v input).registry.runtimeForEndpoint c.endpointId = some i := by
  obtain ⟨hsubmitted, -, -⟩ := acceptedCandidate_eq_some haccepted
  have hmade := input.onMade_of_onLive h.elects.connected.registry hlive
  obtain ⟨hi, hfree, he⟩ := occasion_connected h.elects.connected.registry hmade hocc
  have hregistry : (v.registry.bound i o.ev.endpointId).WellFormed :=
    h.elects.connected.registry.bound o.event.named hi hfree
  have hhandles : Handles cfg (v.bound i o.ev.endpointId) i o (step cfg v input) :=
    step_handles h.elects.steady hocc
  rw [hhandles.registry, (submittedBy_of_submittedCandidate hsubmitted).endpointId]
  refine hregistry.runtimeForEndpoint ?_ (Registry.bound_connectedEndpointId he)
  rw [Registry.bound_live]
  exact live_of_occasion hlive hocc

end live

/-- The payload of a wake candidate. -/
def wakePayload (confidence : ℚ) : EventPayload :=
  { wakeCandidate := .ok { confidence := some confidence } }

/-- A wake word that is taken back, and a second session with the same id. -/
def wakesAgain : List Input :=
  [kitchenConnects, kitchen .sessionStart, kitchen .wakeCandidate (wakePayload 0),
    kitchen .sessionCancel, kitchen .sessionStart]

/-- Somebody's wake was accepted with the winner that a decision names. -/
def VoiceSessionManager.Backs (v : VoiceSessionManager) (decision : WakeElectionDecision) : Prop :=
  ∃ w, decision.winner = some w ∧
    ∃ j serial, .wakeAccepted serial decision.electionId w ∈ (v.sessions j).view.life

/-- Whoever was told to stand down, was told so for a candidate that was accepted. -/
structure VoiceSessionManager.Tells (v : VoiceSessionManager) : Prop where
  elects : v.Elects
  live : v.SessionsLive
  told : ∀ i, ∀ e ∈ (v.sessions i).view.decisions, e.2.accepted = false → v.Backs e.2

section tells

variable {cfg : Config} {v : VoiceSessionManager} {input : Input} {i j : RuntimeId}
  {w : SessionView} {as : List SessionAction} {e : ℕ × WakeElectionDecision}

theorem VoiceSessionManager.init_tells (cfg : Config) : (VoiceSessionManager.init cfg).Tells where
  elects := init_elects cfg
  live := (init_crowns cfg).live
  told := by rintro i e ⟨⟩

/-- A decision is taken about the candidate that an event submits. -/
theorem decided_of_run {occasion : Option (RuntimeId × Occasion)}
    (hok : AllSteps SessionView.act (Happens cfg occasion j) w as)
    (h : e ∈ (run SessionView.act w as).decisions) :
    e ∈ w.decisions ∨ ∃ o session c, occasion = some (j, o) ∧
      o.submittedCandidate cfg = some (session, c) ∧ e.2 = (o.election c).1 := by
  induction as generalizing w with
  | nil => exact .inl h
  | cons a as ih =>
    rcases ih hok.2 h with hmem | hdecided
    · rw [w.act_decisions] at hmem
      rcases List.mem_append.mp hmem with hold | hnew
      · exact .inl hold
      · cases a with
        | decide serial decision =>
          obtain rfl := List.mem_singleton.mp hnew
          rcases hok.1 with hcancel | ⟨id, hid⟩ | ⟨o, ho, session, c, hsubmitted, -, hdecision⟩
          · cases hcancel
          · cases hid
          · exact .inr ⟨o, session, c, ho, hsubmitted, hdecision⟩
        | _ => cases hnew
    · exact .inr hdecided

theorem VoiceSessionManager.Backs.step {decision : WakeElectionDecision} (h : v.Backs decision)
    (hsteady : v.Steady) : (step cfg v input).Backs decision := by
  obtain ⟨w, hw, j, serial, hmem⟩ := h
  exact ⟨w, hw, j, serial, mem_life_step hsteady hmem⟩

/-- **The step lemma**: a candidate that is told to stand down is told so for the winner. -/
theorem step_tells (h : v.Tells) (hlive : input.onLive v) : (step cfg v input).Tells := by
  have hsteady := h.elects.steady
  refine ⟨step_elects h.elects (input.onMade_of_onLive h.elects.connected.registry hlive),
    step_sessionsLive hsteady h.elects.connected h.live hlive, ?_⟩
  intro i e he hno
  obtain ⟨as, hview, hok, -⟩ := (step_does cfg hsteady input).actions i
  rw [hview] at he
  rcases decided_of_run hok he with hold | ⟨o, session, c, hocc, hsubmitted, hdecision⟩
  · exact (h.told i e hold hno).step hsteady
  · cases step_elected cfg h.elects input with
    | quiet hnone => simp [hnone i o hocc] at hsubmitted
    | answers hocc' hhandles hsubmitted' hanswer =>
      cases hocc.symm.trans hocc'
      cases hsubmitted.symm.trans hsubmitted'
      rw [← hdecision] at hanswer
      generalize (HexeVoice.Voice.step cfg v input).shared.wakeElection.activeDecision = active
        at hanswer
      have hbacked : v.Backs e.2 := by
        cases hanswer with
        | opens _ _ hyes => simp [hyes] at hno
        | replaces _ _ _ hyes => simp [hyes] at hno
        | @rejects d w hreigning _ hid _ hwinner =>
          obtain ⟨hd, hw, -⟩ := h.elects.leads.reigns hreigning
          obtain ⟨j, serial, hmem⟩ := h.elects.crowned d hd w hw
          exact ⟨w, hwinner, j, serial, hid ▸ hmem⟩
      exact hbacked.step hsteady

end tells

/-- An event of the session `h` of `hallway`, on the second control connection. -/
def hallway (eventType : VoiceEventType) (payload : EventPayload := {}) : Input :=
  .message (.connection 1)
    { eventType, endpointId := "hallway", sessionId := some "h", timestamp := { micros := 0 },
      payload, aware := aware_zero eventType } {}

/-- The wake word is heard in the kitchen, and then in the hallway. -/
def wakesTwice : List Input :=
  [kitchenConnects, kitchen .sessionStart, kitchen .wakeCandidate (wakePayload 1),
    .handleWebsocket (some "hallway"), hallway .sessionStart,
    hallway .wakeCandidate (wakePayload 0)]

/-- The wake word is heard in the kitchen, whose session is cancelled before the hallway hears
it. -/
def wakesAfterCancel : List Input :=
  [kitchenConnects, kitchen .sessionStart, kitchen .wakeCandidate (wakePayload 1),
    kitchen .sessionCancel, .handleWebsocket (some "hallway"), hallway .sessionStart]

/-- Whoever is told to stand down by a step, is told so for a winner whose session is, after the
step, the active one of its endpoint, with its wake accepted. -/
def StandsDownForLive (cfg : Config) (v : VoiceSessionManager) (input : Input) : Prop :=
  let v' := step cfg v input
  ∀ i serial decision, .electionDecided serial decision ∈ (v'.sessions i).trace →
    .electionDecided serial decision ∉ (v.sessions i).trace → decision.accepted = false →
    ∃ w, decision.winner = some w ∧
      ∃ j, v'.registry.runtimeForEndpoint w.endpointId = some j ∧
        (v'.sessions j).wakeIsAccepted = true ∧
        ∃ s ∈ (v'.sessions j).activeSession,
          s.endpointId = w.endpointId ∧ s.sessionId = w.sessionId

end HexeVoice.Voice
