import HexeVoice.Voice.Refinement

/-!
# The acceptance of a wake

The two handlers that enter the wake election, and with them the step into another runtime,
where the replaced winner is stood down.

## The model

`ManagerDoes` says of the manager as a whole what `Does` says of a handler: in every runtime
the session machine took a run of actions that are known to happen. `Handles` adds the wake
election, and where a wake is accepted, `Accepts`.

## What is proved

`handleWakeCandidate_handles` and `handleAudioChunk_handles`.
-/

namespace HexeVoice.Voice

open HexeVoice.Library

variable {d : Desk}

/-! ### Running a handler in a runtime -/

namespace VoiceSessionManager

variable (v : VoiceSessionManager) (i j : RuntimeId) (d : Desk)

@[simp] theorem putDesk_sessions_self : (v.putDesk i d).sessions i = d.self := by simp [putDesk]

theorem putDesk_sessions_of_ne (h : j ≠ i) : (v.putDesk i d).sessions j = v.sessions j := by
  simp [putDesk, h]

@[simp] theorem putDesk_shared : (v.putDesk i d).shared = d.shared := rfl

@[simp] theorem putDesk_registry : (v.putDesk i d).registry = v.registry := rfl

@[simp] theorem desk_self : (v.desk i).self = v.sessions i := rfl

@[simp] theorem desk_shared : (v.desk i).shared = v.shared := rfl

@[simp] theorem putDesk_desk : (v.putDesk i d).desk i = d := by simp [desk, putDesk]

@[simp] theorem putDesk_self : v.putDesk i (v.desk i) = v := by
  simp only [putDesk, desk]
  congr
  funext j
  split <;> simp_all

@[simp] theorem putDesk_putDesk (d' : Desk) : (v.putDesk i d).putDesk i d' = v.putDesk i d' := by
  simp only [putDesk, mk.injEq, and_true, true_and]
  funext j
  split <;> rfl

/-- Every session was started with a timezone-aware timestamp. -/
def Steady : Prop := ∀ i, (v.sessions i).view.Steady

end VoiceSessionManager

theorem returns_onDesk {α : Type} {i : RuntimeId} {c : Local α} {v : VoiceSessionManager} {Q : α → VoiceSessionManager → Prop}
    (h : Returns c (v.desk i) fun a d => Q a (v.putDesk i d)) : Returns (onDesk i c) v Q := by
  obtain ⟨a, d, hrun, hQ⟩ := h
  refine ⟨a, v.putDesk i d, ?_, hQ⟩
  show onDesk i c v = _
  unfold onDesk
  rw [show c (v.desk i) = .ok a d from hrun]

/-! ### What a step does -/

/-- What is known where an action happens to the session of runtime `j`: a cancellation or
the end of a timer can come from elsewhere, all else from the event handled there. -/
def Happens (cfg : Config) (occasion : Option (RuntimeId × Occasion)) (j : RuntimeId)
    (v : SessionView) (a : SessionAction) : Prop :=
  a = .cancel ∨ (∃ id, a = .taskDone id) ∨ ∃ o, occasion = some (j, o) ∧ Permitted cfg o v a

/-- From `v` to `v'`, the sessions take runs of actions. -/
structure ManagerDoes (cfg : Config) (occasion : Option (RuntimeId × Occasion)) (v v' : VoiceSessionManager) :
    Prop where
  actions : ∀ j, ∃ as, (v'.sessions j).view = run SessionView.act (v.sessions j).view as ∧
    AllSteps SessionView.act (Happens cfg occasion j) (v.sessions j).view as ∧
    Draws v.shared.uuid v'.shared.uuid as
  uuid_le : v.shared.uuid ≤ v'.shared.uuid

namespace ManagerDoes

variable {cfg : Config} {occasion : Option (RuntimeId × Occasion)} {v v' v'' : VoiceSessionManager}

/-- A run of actions in one runtime. -/
theorem putDesk {i : RuntimeId} (as : List SessionAction)
    (hview : d.self.view = run SessionView.act (v.sessions i).view as)
    (hok : AllSteps SessionView.act (Happens cfg occasion i) (v.sessions i).view as)
    (hdraws : Draws v.shared.uuid d.shared.uuid as)
    (huuid : v.shared.uuid ≤ d.shared.uuid) : ManagerDoes cfg occasion v (v.putDesk i d) where
  actions := by
    intro j
    by_cases h : j = i
    · subst h
      exact ⟨as, by rw [VoiceSessionManager.putDesk_sessions_self, hview], hok, hdraws⟩
    · exact ⟨[], by rw [VoiceSessionManager.putDesk_sessions_of_ne _ _ _ _ h]; rfl, trivial, huuid⟩
  uuid_le := huuid

theorem of_does {i : RuntimeId} {o : Occasion} (ho : o.desk = v.desk i)
    (h : Does cfg o o.desk d) : ManagerDoes cfg (some (i, o)) v (v.putDesk i d) := by
  obtain ⟨as, hview, hok, hdraws⟩ := h.actions
  have huuid := h.kept.uuid_le
  rw [ho] at hview hok hdraws huuid
  exact putDesk as hview (hok.mono fun _ _ hp => .inr (.inr ⟨o, rfl, hp⟩)) hdraws huuid

end ManagerDoes

/-! ### Standing the replaced winner down -/

/-- The runtime in which the decision's replaced winner is stood down: the one registered for
its endpoint, if its active session has the replaced candidate's session id. -/
def VoiceSessionManager.standDownTarget (v : VoiceSessionManager)
    (decision : WakeElectionDecision) : Option RuntimeId :=
  match decision.replacedWinner, decision.winner with
  | some replaced, some _ =>
    (v.registry.runtimeForEndpoint replaced.endpointId).filter fun i =>
      (v.sessions i).view.session.any fun s => s.sessionId = replaced.sessionId
  | _, _ => none

/-- The session of the target was cancelled, and all else is as it was. -/
structure StoodDown (v : VoiceSessionManager) (target : Option RuntimeId)
    (v' : VoiceSessionManager) : Prop where
  registry : v'.registry = v.registry
  shared : v'.shared = v.shared
  view : ∀ j, (v'.sessions j).view =
    if target = some j then (v.sessions j).view.act .cancel else (v.sessions j).view
  activeSession : ∀ j, (v'.sessions j).activeSession =
    if target = some j then none else (v.sessions j).activeSession

theorem standDownReplacedWinner_returns {cfg : Config} {v : VoiceSessionManager}
    (hsteady : v.Steady) (decision : WakeElectionDecision) :
    Returns (standDownReplacedWinner cfg decision) v fun _ v' =>
      StoodDown v (v.standDownTarget decision) v' := by
  have hnothing : ∀ {target : Option RuntimeId}, target = none → StoodDown v target v := by
    rintro target rfl
    exact ⟨rfl, rfl, fun _ => rfl, fun _ => rfl⟩
  unfold standDownReplacedWinner VoiceSessionManager.standDownTarget
  cases hr : decision.replacedWinner with
  | none => simpa using hnothing rfl
  | some replaced =>
    cases hw : decision.winner with
    | none => simpa using hnothing rfl
    | some winner =>
      simp only
      rw [returns_bind, returns_get]
      cases hi : v.registry.runtimeForEndpoint replaced.endpointId with
      | none => simpa using hnothing rfl
      | some i =>
        have hany : ((v.sessions i).activeSession.any fun s => s.sessionId = replaced.sessionId) =
            (v.sessions i).view.session.any fun s => s.sessionId = replaced.sessionId := by
          cases hs : (v.sessions i).activeSession with
          | none => simp [SessionRuntime.view, hs]
          | some s =>
            simp only [SessionRuntime.view, hs, Option.map_some, Option.any_some]
            rfl
        simp only
        rw [returns_ite, hany]
        split
        case isTrue hsession =>
          rw [Option.filter_some, if_pos hsession]
          refine returns_onDesk ((cancelActiveSession_returns cfg _ _ (hsteady i)).mono
            fun _ d hpost => ⟨rfl, hpost.1, fun j => ?_, fun j => ?_⟩)
          · by_cases hj : j = i
            · subst hj
              simpa using hpost.2.1
            · rw [VoiceSessionManager.putDesk_sessions_of_ne _ _ _ _ hj,
                if_neg (by simpa using Ne.symm hj)]
          · by_cases hj : j = i
            · subst hj
              simpa using hpost.2.2
            · rw [VoiceSessionManager.putDesk_sessions_of_ne _ _ _ _ hj,
                if_neg (by simpa using Ne.symm hj)]
        case isFalse hsession =>
          rw [Option.filter_some, if_neg hsession, returns_pure]
          exact hnothing rfl

/-! ### The wake election's handlers -/

/-- The part of a handler before the stand-down: the actions with which the session of a
candidate comes before the election. -/
inductive Submission (o : Occasion) (serial : ℕ) (decision : WakeElectionDecision) :
    List SessionAction → Prop
  | candidate : Submission o serial decision [.decide serial decision]
  | chunk (payload : VoiceAudioChunkPayload) :
    Submission o serial decision
      [.hear (o.numbered payload) o.interruptible, .decide serial decision]

/-- In runtime `i`, the session's candidate is accepted. -/
structure Accepts (cfg : Config) (v : VoiceSessionManager) (i : RuntimeId) (o : Occasion)
    (session : VoiceSessionSnapshot) (candidate : WakeCandidate) (decision : WakeElectionDecision)
    (v' : VoiceSessionManager) : Prop where
  registry : v'.registry = v.registry
  isActive : o.desk.self.activeSession = some session
  isIdle : session.sessionState = .idle
  view_of_ne : ∀ j, j ≠ i → (v'.sessions j).view =
    if v.standDownTarget decision = some j then (v.sessions j).view.act .cancel
    else (v.sessions j).view
  view_self : ∃ pre post, Submission o session.serial decision pre ∧
    AllSteps SessionView.act (Permitted cfg o) (v.sessions i).view pre ∧
    (post = [] ∨ post = [SessionAction.capture]) ∧
    (v'.sessions i).view = run SessionView.act (v.sessions i).view
      (pre ++ (if v.standDownTarget decision = some i then [SessionAction.cancel] else []) ++
        .accept session.serial decision.electionId candidate :: post)

/-- What a handler that may submit a candidate did. -/
structure Handles (cfg : Config) (v : VoiceSessionManager) (i : RuntimeId) (o : Occasion)
    (v' : VoiceSessionManager) : Prop where
  does : ManagerDoes cfg (some (i, o)) v v'
  uuid_le : o.uuidAfterElection cfg ≤ v'.shared.uuid
  registry : v'.registry = v.registry
  now_eq : v'.shared.now = v.shared.now
  election_eq : v'.shared.wakeElection = o.electionAfter cfg
  /-- Only a session that is stood down ends in another runtime. -/
  others : o.acceptedCandidate cfg = none → ∀ j, j ≠ i → v'.sessions j = v.sessions j
  accepts : ∀ session candidate decision,
    o.acceptedCandidate cfg = some (session, candidate, decision) →
      Accepts cfg v i o session candidate decision v'

section wake

variable {cfg : Config} {v v₁ v₂ : VoiceSessionManager} {i : RuntimeId} {o : Occasion}
  {session : VoiceSessionSnapshot} {candidate : WakeCandidate} {decision : WakeElectionDecision}

theorem standDownTarget_congr (hregistry : v₁.registry = v.registry)
    (hsessions : ∀ j, (v₁.sessions j).view.session = (v.sessions j).view.session) :
    v₁.standDownTarget decision = v.standDownTarget decision := by
  simp only [VoiceSessionManager.standDownTarget, hregistry, hsessions]

theorem act_decide_session (v : SessionView) (serial : ℕ) (decision : WakeElectionDecision) :
    (v.act (.decide serial decision)).session = v.session := rfl

theorem act_decide_take (v : SessionView) (serial : ℕ) (decision : WakeElectionDecision)
    (chunk : Option Chunk) :
    (v.act (.decide serial decision)).take chunk = (v.take chunk).act (.decide serial decision) := by
  unfold SessionView.take
  rw [act_decide_session]
  split <;> rfl

theorem act_hear_session (v : SessionView) (chunk : Option Chunk) (overheard : Bool) :
    (v.act (.hear chunk overheard)).session = v.session := by
  cases overheard <;> rfl

theorem Submission.session_eq {serial : ℕ} {pre : List SessionAction}
    (h : Submission o serial decision pre) (v : SessionView) :
    (run SessionView.act v pre).session = v.session := by
  cases h with
  | candidate => rfl
  | chunk payload => exact act_hear_session v _ _

/-- A session that is cancelled is cleared. -/
theorem mem_life_cancel {w : SessionView} {s : SessionCore} (h : w.session = some s) :
    .sessionCleared s.serial ∈ (w.act .cancel).life := by
  simp [SessionView.act, SessionView.clear, SessionView.move, SessionView.cancelTask,
    SessionCore.moved, h]

theorem Submission.fresh {serial : ℕ} {pre : List SessionAction}
    (h : Submission o serial decision pre) : ∀ a ∈ pre, ∀ lo hi, a.Fresh lo hi := by
  cases h <;> simp [SessionAction.Fresh]

theorem uuid_le_of_election (ho : o.desk = v.desk i) {n : ℕ} (h : o.uuidAfterElection cfg ≤ n) :
    v.shared.uuid ≤ n := by
  have hdesk : o.desk.shared.uuid = v.shared.uuid := by rw [ho]; rfl
  unfold Occasion.uuidAfterElection at h
  split at h <;> omega

/-- A handler without a submission. -/
theorem Handles.of_does (ho : o.desk = v.desk i)
    (hsubmitted : o.submittedCandidate cfg = none) (h : Does cfg o o.desk d) :
    Handles cfg v i o (v.putDesk i d) where
  does := .of_does ho h
  uuid_le := by
    rw [Occasion.uuidAfterElection, hsubmitted]
    exact h.kept.uuid_le
  registry := rfl
  now_eq := by
    have := h.kept.now_eq
    rwa [ho] at this
  election_eq := by
    rw [Occasion.electionAfter, hsubmitted]
    exact h.kept.election_eq
  others := fun _ j hj => v.putDesk_sessions_of_ne i j d hj
  accepts := by simp [Occasion.acceptedCandidate, hsubmitted]

/-- The session's candidate was submitted, and turned away. -/
theorem Handles.of_rejected (as : List SessionAction) (haccepted : o.acceptedCandidate cfg = none)
    (hview : d.self.view = run SessionView.act (v.sessions i).view as)
    (hok : AllSteps SessionView.act (Permitted cfg o) (v.sessions i).view as)
    (hfresh : ∀ a ∈ as, ∀ n m, a.Fresh n m) (ho : o.desk = v.desk i)
    (huuid : o.uuidAfterElection cfg ≤ d.shared.uuid) (hnow : d.shared.now = v.shared.now)
    (helection : d.shared.wakeElection = o.electionAfter cfg) :
    Handles cfg v i o (v.putDesk i d) where
  does := .putDesk as hview (hok.mono fun _ _ hp => .inr (.inr ⟨o, rfl, hp⟩))
    (.of_le (uuid_le_of_election ho huuid) hfresh) (uuid_le_of_election ho huuid)
  uuid_le := huuid
  registry := rfl
  now_eq := hnow
  election_eq := helection
  others := fun _ j hj => v.putDesk_sessions_of_ne i j d hj
  accepts := by simp [haccepted]

/-- The session's candidate was submitted and accepted, the replaced winner stood down, and
the handler went on. -/
theorem Handles.of_accepted {d₁ d₃ : Desk} {pre post : List SessionAction}
    (ho : o.desk = v.desk i) (hactive : o.desk.self.activeSession = some session)
    (hidle : session.sessionState = .idle)
    (haccepted : o.acceptedCandidate cfg = some (session, candidate, decision))
    (hsub : Submission o session.serial decision pre)
    (hpre : AllSteps SessionView.act (Permitted cfg o) (v.sessions i).view pre)
    (hpost : post = [] ∨ post = [.capture])
    (hview₁ : d₁.self.view = run SessionView.act (v.sessions i).view pre)
    (hbuffer : d₁.self.view.buffer = o.desk.self.audioChunks ++ o.overheard cfg)
    (huuid : o.uuidAfterElection cfg ≤ d₁.shared.uuid) (hnow : d₁.shared.now = v.shared.now)
    (helection : d₁.shared.wakeElection = o.electionAfter cfg)
    (hstood : StoodDown (v.putDesk i d₁) ((v.putDesk i d₁).standDownTarget decision) v₂)
    (hshared₃ : d₃.shared = v₂.shared)
    (hview₃ : d₃.self.view = run SessionView.act (v₂.sessions i).view
      (.accept session.serial decision.electionId candidate :: post)) :
    Handles cfg v i o (v₂.putDesk i d₃) := by
  have hsession : ∀ j, ((v.putDesk i d₁).sessions j).view.session = (v.sessions j).view.session := by
    intro j
    by_cases hj : j = i
    · subst hj
      rw [VoiceSessionManager.putDesk_sessions_self, hview₁, hsub.session_eq]
    · rw [VoiceSessionManager.putDesk_sessions_of_ne _ _ _ _ hj]
  have htarget : (v.putDesk i d₁).standDownTarget decision = v.standDownTarget decision :=
    standDownTarget_congr rfl hsession
  rw [htarget] at hstood
  set target := v.standDownTarget decision
  set middle := if target = some i then [SessionAction.cancel] else [] with hmiddle
  have hself : (v.sessions i).view.session = some session.core := by
    have : (v.sessions i).activeSession = some session := by rw [← hactive, ho]; rfl
    simp [SessionRuntime.view, this]
  have hview_self : ((v₂.putDesk i d₃).sessions i).view =
      run SessionView.act (v.sessions i).view (pre ++ middle ++
        .accept session.serial decision.electionId candidate :: post) := by
    rw [VoiceSessionManager.putDesk_sessions_self, hview₃, run_append, run_append]
    congr 1
    rw [hstood.view, VoiceSessionManager.putDesk_sessions_self, hview₁, hmiddle]
    split <;> rfl
  have hview_of_ne : ∀ j, j ≠ i → ((v₂.putDesk i d₃).sessions j).view =
      if target = some j then (v.sessions j).view.act .cancel else (v.sessions j).view := by
    intro j hj
    rw [VoiceSessionManager.putDesk_sessions_of_ne _ _ _ _ hj, hstood.view,
      VoiceSessionManager.putDesk_sessions_of_ne _ _ _ _ hj]
  have huuid' : v.shared.uuid ≤ (v₂.putDesk i d₃).shared.uuid := by
    rw [VoiceSessionManager.putDesk_shared, hshared₃, hstood.shared]
    exact uuid_le_of_election ho huuid
  refine ⟨⟨fun j => ?_, huuid'⟩, ?_, ?_, ?_, ?_, ?_, ?_⟩
  · by_cases hj : j = i
    · subst hj
      refine ⟨_, hview_self, ?_, ?_⟩
      · rw [allSteps_append, allSteps_append]
        refine ⟨⟨hpre.mono fun _ _ hp => .inr (.inr ⟨o, rfl, hp⟩), ?_⟩, ?_, ?_⟩
        · rw [hmiddle]
          split
          · exact ⟨.inl rfl, trivial⟩
          · trivial
        · refine .inr (.inr ⟨o, rfl, session, decision, haccepted, rfl, rfl, hactive, hidle, ?_⟩)
          rw [run_append, hmiddle]
          split
          · refine .inl ⟨rfl, ?_⟩
            exact mem_life_cancel ((hsub.session_eq _).trans hself)
          · refine .inr ⟨by simpa [hsub.session_eq] using hself, ?_⟩
            rw [← hview₁]
            exact hbuffer
        · rcases hpost with rfl | rfl
          · trivial
          · exact ⟨.inr (.inr ⟨o, rfl, trivial⟩), trivial⟩
      · refine .of_le huuid' fun a ha => ?_
        simp only [List.mem_append, List.mem_cons] at ha
        rcases ha with (ha | ha) | rfl | ha
        · exact hsub.fresh a ha
        · rw [hmiddle] at ha
          split at ha
          · rw [List.mem_singleton.mp ha]; simp [SessionAction.Fresh]
          · simp at ha
        · simp [SessionAction.Fresh]
        · rcases hpost with rfl | rfl
          · simp at ha
          · rw [List.mem_singleton.mp ha]; simp [SessionAction.Fresh]
    · rw [hview_of_ne j hj]
      split
      · exact ⟨[.cancel], rfl, ⟨.inl rfl, trivial⟩, .of_le huuid' (by simp [SessionAction.Fresh])⟩
      · exact ⟨[], rfl, trivial, huuid'⟩
  · rw [VoiceSessionManager.putDesk_shared, hshared₃, hstood.shared]
    exact huuid
  · exact hstood.registry
  · rw [VoiceSessionManager.putDesk_shared, hshared₃, hstood.shared]
    exact hnow
  · rw [VoiceSessionManager.putDesk_shared, hshared₃, hstood.shared]
    exact helection
  · simp [haccepted]
  · intro session' candidate' decision' haccepted'
    rw [haccepted] at haccepted'
    obtain ⟨rfl, rfl, rfl⟩ : session = session' ∧ candidate = candidate' ∧ decision = decision' := by
      simpa using haccepted'
    exact ⟨hstood.registry, hactive, hidle, hview_of_ne, pre, post, hsub, hpre, hpost, hview_self⟩

theorem Steady.putDesk (h : v.Steady) (hd : d.self.view.Steady) :
    (v.putDesk i d).Steady := by
  intro j
  by_cases hj : j = i
  · subst hj
    rwa [VoiceSessionManager.putDesk_sessions_self]
  · rw [VoiceSessionManager.putDesk_sessions_of_ne _ _ _ _ hj]
    exact h j

theorem permitted_decide (hsubmitted : o.submittedCandidate cfg = some (session, candidate))
    (w : SessionView) :
    Permitted cfg o w (.decide session.serial (o.election candidate).1) :=
  ⟨session, candidate, hsubmitted, rfl, rfl⟩

theorem acceptedCandidate_eq_some
    (h : o.acceptedCandidate cfg = some (session, candidate, decision)) :
    o.submittedCandidate cfg = some (session, candidate) ∧ decision = (o.election candidate).1 ∧
      decision.accepted = true := by
  unfold Occasion.acceptedCandidate at h
  split at h
  · next s c hsubmitted =>
    split at h
    · next haccepted =>
      simp only [Option.some.injEq, Prod.mk.injEq] at h
      obtain ⟨rfl, rfl, rfl⟩ := h
      exact ⟨hsubmitted, rfl, haccepted⟩
    · simp at h
  · simp at h

theorem handleWakeCandidate_handles (ho : o.desk = v.desk i)
    (htype : o.ev.eventType = .wakeCandidate) (hsteady : v.Steady) :
    Returns (handleWakeCandidate cfg i o.ev) v fun _ v' => Handles cfg v i o v' := by
  have hview : (v.sessions i).view = o.desk.self.view := by rw [ho]; rfl
  unfold handleWakeCandidate
  rw [returns_bind]
  refine returns_onDesk ?_
  rw [← ho]
  refine (wakeCandidateUntilElection_returns cfg htype).mono
    fun r d hpost => ?_
  obtain ⟨huuid, hnow, helection, hview₁, hr⟩ := hpost
  have hnow' : d.shared.now = v.shared.now := by rw [ho] at hnow; exact hnow
  cases r with
  | error events =>
    rw [returns_pure]
    cases hsubmitted : o.submittedCandidate cfg with
    | none =>
      exact .of_rejected [] hr (by simpa [hsubmitted, hview] using hview₁) trivial (by simp)
        ho huuid hnow' helection
    | some c =>
      rw [hsubmitted, ← hview] at hview₁
      exact .of_rejected [.decide c.1.serial (o.election c.2).1] hr hview₁
        ⟨permitted_decide hsubmitted _, trivial⟩ (by simp [SessionAction.Fresh]) ho huuid hnow'
        helection
  | ok accepted =>
    obtain ⟨session, candidate, decision⟩ := accepted
    obtain ⟨haccepted, hactive₁, hactive, hidle⟩ := hr
    obtain ⟨hsubmitted, hdecision, -⟩ := acceptedCandidate_eq_some haccepted
    have hview₁ : d.self.view =
        run SessionView.act (v.sessions i).view [.decide session.serial decision] := by
      rw [hsubmitted, ← hview] at hview₁
      rw [hdecision]
      exact hview₁
    have hbuffer : d.self.view.buffer = o.desk.self.audioChunks ++ o.overheard cfg := by
      have hoverheard : o.overheard cfg = [] := by
        simp [Occasion.overheard, Occasion.chunkOn, htype]
      rw [hview₁, hview, hoverheard, List.append_nil]
      rfl
    have hsteady₁ : (v.putDesk i d).Steady :=
      Steady.putDesk hsteady ((hsteady i).congr (by rw [hview₁]; rfl))
    refine (standDownReplacedWinner_returns hsteady₁ decision).bind fun _ v₂ hstood => ?_
    have hactive₂ : (v₂.sessions i).activeSession = none ∨
        (v₂.sessions i).activeSession = some session := by
      rw [hstood.activeSession, VoiceSessionManager.putDesk_sessions_self, hactive₁]
      split
      · exact .inl rfl
      · exact .inr rfl
    refine returns_onDesk ((wakeCandidateAfterElection_returns (d := v₂.desk i) hactive₂).mono
      fun _ d₃ hpost => ?_)
    obtain ⟨hshared₃, hview₃⟩ := hpost
    exact .of_accepted ho hactive hidle haccepted .candidate
      ⟨hdecision ▸ permitted_decide hsubmitted _, trivial⟩ (.inl rfl) hview₁ hbuffer huuid hnow' helection
      hstood hshared₃ hview₃

/-- A chunk is submitted for the idle session that it is handled on, and no capture window
takes that over. -/
theorem submittedCandidate_audioChunk (htype : o.ev.eventType = .audioChunk)
    (h : o.submittedCandidate cfg = some (session, candidate)) :
    ∃ payload, o.chunkOn cfg = some (session, payload) ∧ session.sessionState = .idle ∧
      o.placementTakesOver cfg = false ∧ o.enrollmentTakesOver cfg = false := by
  simp only [Occasion.submittedCandidate, htype] at h
  split at h
  · next s payload hfilter =>
    obtain ⟨hon, hcond⟩ := Option.filter_eq_some_iff.mp hfilter
    simp only [Bool.and_eq_true, decide_eq_true_eq, Bool.not_eq_true'] at hcond
    simp only [Option.some.injEq, Prod.mk.injEq] at h
    obtain ⟨rfl, -⟩ := h
    exact ⟨payload, hon, hcond.1.1.1, hcond.1.1.2, hcond.1.2⟩
  · simp at h

section received

variable {d : Desk} {progress : ChunkProgress} {payload : VoiceAudioChunkPayload}

/-- A chunk that no wake is accepted with: the session takes it if it listens or captures. -/
theorem audioChunkAfterElection_handles_of_not_accepted (ho : o.desk = v.desk i)
    (h : ChunkReceived cfg o progress d session payload)
    (haccepted : o.acceptedCandidate cfg = none) (hnot : progress.wakeAccepted = false) :
    Returns (audioChunkAfterElection cfg progress) d fun _ d' => Handles cfg v i o (v.putDesk i d') := by
  have hself : o.desk.self = v.sessions i := by rw [ho]; rfl
  have hshared : o.desk.shared = v.shared := by rw [ho]; rfl
  have hview₁ := h.view
  rw [hself] at hview₁
  set overheard := decide (session.sessionState = .idle) && !o.placementTakesOver cfg &&
    !o.enrollmentTakesOver cfg && o.interruptible with hoverheard
  have hchunk : Permitted cfg o (v.sessions i).view
      (.chunk (o.numbered payload) (o.placementTakesOver cfg) (o.enrollmentTakesOver cfg)
        overheard) := by
    refine ⟨by rw [hself], session, payload, h.chunkOn, h.isActive, rfl, rfl, rfl, fun hover => ?_⟩
    simp only [hoverheard, Bool.and_eq_true, decide_eq_true_eq, Bool.not_eq_true'] at hover
    exact ⟨hover.1.1.1, hover.1.1.2, hover.1.2⟩
  refine (audioChunkAfterElection_of_not_accepted hnot).mono fun _ d₃ ⟨hshared₃, hview₃⟩ => ?_
  refine .of_rejected
    (.chunk (o.numbered payload) (o.placementTakesOver cfg) (o.enrollmentTakesOver cfg)
      overheard :: (o.submittedCandidate cfg).toList.map fun c =>
        .decide c.1.serial (o.election c.2).1)
    haccepted ?_ ⟨hchunk, ?_⟩ ?_ ho (hshared₃ ▸ h.uuid_le) (hshared₃ ▸ hshared ▸ h.now_eq)
    (hshared₃ ▸ h.election_eq)
  · rw [hview₃, hview₁, h.enrollment, h.chunk]
    cases o.submittedCandidate cfg with
    | none => rfl
    | some c => simp only [act_decide_take]; rfl
  · cases hsubmitted : o.submittedCandidate cfg with
    | none => trivial
    | some c => exact ⟨permitted_decide hsubmitted _, trivial⟩
  · cases o.submittedCandidate cfg <;> simp [SessionAction.Fresh]

/-- A chunk that a wake is accepted with: the replaced winner is stood down, and the session
listens. -/
theorem audioChunkAfterElection_handles_of_accepted (ho : o.desk = v.desk i) (hsteady : v.Steady)
    (htype : o.ev.eventType = .audioChunk)
    (h : ChunkReceived cfg o progress d session payload)
    (haccepted : o.acceptedCandidate cfg = some (session, candidate, decision)) :
    Returns (do
      standDownReplacedWinner cfg decision
      onDesk i (audioChunkAfterElection cfg progress)) (v.putDesk i d) fun _ v' =>
        Handles cfg v i o v' := by
  have hself : o.desk.self = v.sessions i := by rw [ho]; rfl
  have hshared : o.desk.shared = v.shared := by rw [ho]; rfl
  obtain ⟨hsubmitted, hdecision, hyes⟩ := acceptedCandidate_eq_some haccepted
  obtain ⟨_, -, hidle, hplacement, henrollment⟩ := submittedCandidate_audioChunk htype hsubmitted
  have hbackend : progress.backend = some (candidate, decision) := by
    rw [h.backend, hsubmitted, hdecision]
    rfl
  have hview₁ : d.self.view = run SessionView.act (v.sessions i).view
      [.hear (o.numbered payload) o.interruptible, .decide session.serial decision] := by
    have := h.view
    simp only [hsubmitted, hself, ← hdecision] at this
    rw [this]
    simp [hidle, hplacement, henrollment, SessionView.act]
  have hbuffer : d.self.view.buffer = o.desk.self.audioChunks ++ o.overheard cfg := by
    rw [hview₁, ← hself, Occasion.overheard, h.chunkOn]
    cases hi : o.interruptible <;>
      simp [SessionView.act, SessionView.received, SessionView.count, SessionView.captured,
        SessionView.append, SessionRuntime.view]
  have hcore : (v.sessions i).view.session = some session.core := by
    rw [← hself]
    simp [SessionRuntime.view, h.isActive]
  have hserial : progress.session.serial = session.serial := by
    have hcore' : d.self.view.session = some progress.session.core := by
      simp [SessionRuntime.view, h.session_eq]
    rw [hview₁, (Submission.chunk payload).session_eq, hcore] at hcore'
    exact (congrArg SessionCore.serial (Option.some.inj hcore')).symm
  have hsteady₁ : (v.putDesk i d).Steady := Steady.putDesk hsteady
    ((hsteady i).congr (by rw [hview₁, (Submission.chunk payload).session_eq]))
  refine (standDownReplacedWinner_returns hsteady₁ decision).bind fun _ v₂ hstood => ?_
  have hactive₂ : (v₂.sessions i).activeSession = none ∨
      (v₂.sessions i).activeSession = some progress.session := by
    rw [hstood.activeSession, VoiceSessionManager.putDesk_sessions_self, h.session_eq]
    split
    · exact .inl rfl
    · exact .inr rfl
  refine returns_onDesk ((audioChunkAfterElection_of_accepted (d := v₂.desk i) hbackend hyes
    hactive₂).mono fun _ d₃ hpost => ?_)
  obtain ⟨hshared₃, hview₃⟩ := hpost
  rw [hserial] at hview₃
  exact .of_accepted ho h.isActive hidle haccepted (.chunk payload)
    ⟨⟨by rw [hself], session, payload, h.chunkOn, h.isActive, rfl, hidle, rfl⟩,
      hdecision ▸ permitted_decide hsubmitted _, trivial⟩
    (.inr rfl) hview₁ hbuffer h.uuid_le (hshared ▸ h.now_eq) h.election_eq hstood hshared₃ hview₃

end received

theorem handleAudioChunk_handles (ho : o.desk = v.desk i)
    (htype : o.ev.eventType = .audioChunk) (hsteady : v.Steady) :
    Returns (handleAudioChunk cfg o.ans.toAnswers i o.ev) v fun _ v' => Handles cfg v i o v' := by
  have hsteady' : o.desk.self.view.Steady := by rw [ho]; exact hsteady i
  unfold handleAudioChunk
  rw [returns_bind]
  refine returns_onDesk ?_
  rw [← ho]
  refine (audioChunkUntilElection_returns htype hsteady').mono fun r d hr => ?_
  cases r with
  | error events =>
    rw [returns_pure]
    refine .of_does ho ?_ hr.1
    simp [Occasion.submittedCandidate, htype, hr.2]
  | ok progress =>
    obtain ⟨session, payload, h⟩ := hr
    have hnot_accepted (haccepted : o.acceptedCandidate cfg = none)
        (hnot : progress.wakeAccepted = false) :
        Returns (onDesk i (audioChunkAfterElection cfg progress)) (v.putDesk i d) fun _ v' =>
          Handles cfg v i o v' := by
      refine returns_onDesk ?_
      simp only [VoiceSessionManager.putDesk_desk, VoiceSessionManager.putDesk_putDesk]
      exact audioChunkAfterElection_handles_of_not_accepted ho h haccepted hnot
    rcases hsubmitted : o.submittedCandidate cfg with _ | ⟨session', candidate⟩
    · -- no wake was detected
      have hbackend : progress.backend = none := by rw [h.backend, hsubmitted]; rfl
      simp only [hbackend]
      exact hnot_accepted (by simp [Occasion.acceptedCandidate, hsubmitted])
        (by simp [ChunkProgress.wakeAccepted, hbackend])
    · obtain ⟨payload', hon', -⟩ := submittedCandidate_audioChunk htype hsubmitted
      obtain rfl : session' = session := by
        rw [h.chunkOn] at hon'
        simpa [eq_comm] using congrArg (Option.map Prod.fst) hon'
      have hbackend : progress.backend = some (candidate, (o.election candidate).1) := by
        rw [h.backend, hsubmitted]; rfl
      simp only [hbackend]
      by_cases hyes : (o.election candidate).1.accepted = true
      · have haccepted : o.acceptedCandidate cfg =
            some (session', candidate, (o.election candidate).1) := by
          simp [Occasion.acceptedCandidate, hsubmitted, hyes]
        simp only [hyes, if_true]
        exact audioChunkAfterElection_handles_of_accepted ho hsteady htype h haccepted
      · simp only [hyes]
        exact hnot_accepted (by simp [Occasion.acceptedCandidate, hsubmitted, hyes])
          (by simp [ChunkProgress.wakeAccepted, hbackend, hyes])

end wake

end HexeVoice.Voice
