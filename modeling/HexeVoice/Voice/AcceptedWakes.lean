import HexeVoice.Voice.Connected
import HexeVoice.Voice.Sessions

/-!
# Accepted wakes

A session whose wake an election accepted, from then until it ends.

## What is proved

`wakes_invariant`: such a session has been cleared, or it is the active one and its wake is
accepted; it is not idle again, and the candidate that was accepted is one of its own.
-/

namespace HexeVoice.Voice

open HexeVoice.Library

/-! ### Candidates -/

/-- What a candidate says of its session, its event and its arrival. -/
structure SubmittedBy (o : Occasion) (session : VoiceSessionSnapshot) (candidate : WakeCandidate) :
    Prop where
  isActive : o.desk.self.activeSession = some session
  isIdle : session.sessionState = .idle
  endpointId : candidate.endpointId = o.ev.endpointId
  sessionId : candidate.sessionId = session.sessionId
  receivedAt : candidate.receivedAt = o.desk.shared.now
  candidateId : candidate.candidateId = o.desk.shared.uuid

section candidates

variable {cfg : Config} {o : Occasion} {session : VoiceSessionSnapshot} {candidate : WakeCandidate}
  {decision : WakeElectionDecision}

theorem submittedBy_of_submittedCandidate
    (h : o.submittedCandidate cfg = some (session, candidate)) : SubmittedBy o session candidate := by
  unfold Occasion.submittedCandidate at h
  split at h
  · split at h
    · next s payload hfilter hpayload =>
      obtain ⟨hreq, hidle⟩ := Option.filter_eq_some_iff.mp hfilter
      obtain ⟨rfl, rfl⟩ : s = session ∧ _ = candidate := by simpa using h
      exact ⟨Desk.activeSession_of_requiredSession hreq, by simpa using hidle, rfl, rfl, rfl, rfl⟩
    · cases h
  · split at h
    · next s payload hfilter =>
      obtain ⟨hon, hcond⟩ := Option.filter_eq_some_iff.mp hfilter
      simp only [Bool.and_eq_true, decide_eq_true_eq] at hcond
      obtain ⟨rfl, rfl⟩ : s = session ∧ _ = candidate := by simpa using h
      refine ⟨?_, hcond.1.1.1, rfl, rfl, rfl, rfl⟩
      unfold Occasion.chunkOn at hon
      split at hon
      · next hreq _ =>
        split at hon
        · cases hon
        · obtain ⟨rfl, -⟩ : _ = s ∧ _ = payload := by simpa using hon
          exact Desk.activeSession_of_requiredSession hreq
      · cases hon
    · cases h
  · cases h

end candidates

/-! ### The invariant -/

/-- The event is for the endpoint of the session it finds. -/
def Occasion.ownsSession (o : Occasion) : Prop :=
  ∀ s ∈ o.desk.self.activeSession, s.endpointId = o.ev.endpointId

/-- What is known of the sessions whose wake an election accepted; `n` is the next draw. -/
structure SessionView.Wakes (n : ℕ) (w : SessionView) : Prop where
  serial_lt : ∀ s ∈ w.session, s.serial < n
  cleared_lt : ∀ serial, .sessionCleared serial ∈ w.life → serial < n
  history : w.session.isSome = true → w.history.isSome = true
  /-- The session was cleared since, or it is the active one. -/
  ended : ∀ serial electionId candidate, .wakeAccepted serial electionId candidate ∈ w.life →
    .sessionCleared serial ∈ w.life ∨ ∃ s ∈ w.session, s.serial = serial
  /-- The active one is awake, and the candidate was its own. -/
  awake : ∀ s ∈ w.session, ∀ electionId candidate,
    .wakeAccepted s.serial electionId candidate ∈ w.life →
      s.state ≠ .idle ∧ w.history.any (·.accepted) = true ∧
        candidate.endpointId = s.endpointId ∧ candidate.sessionId = s.sessionId

namespace VoiceSessionState

/-- A session does not become idle again, unless it is asked to. -/
theorem along_ne_idle {state : VoiceSessionState} (path : List VoiceSessionState)
    (hpath : .idle ∉ path) (h : state ≠ .idle) : state.along path ≠ .idle := by
  induction path generalizing state with
  | nil => exact h
  | cons next path ih =>
    obtain ⟨hnext, hrest⟩ : VoiceSessionState.idle ≠ next ∧ .idle ∉ path := by
      simpa using hpath
    have hcons : state.along (next :: path) = (state.along [next]).along path :=
      state.along_append [next] path
    rw [hcons]
    refine ih hrest ?_
    simp only [along, List.foldl_cons, List.foldl_nil]
    split
    · exact Ne.symm hnext
    · simp

end VoiceSessionState

section act

variable {cfg : Config} {Q : Occasion → Prop} {n m : ℕ} {w : SessionView} {a : SessionAction}

/-- No action asks a session to become idle. -/
theorem idle_not_mem_path (htakes : Takes cfg Q w a) (state : VoiceSessionState) :
    .idle ∉ a.path state := by
  cases a with
  | audioEnd audio path followup =>
    obtain ⟨o, -, -, session, -, -, hpath, -⟩ := htakes.permitted (by simp) (by simp)
    have htranscribing : ∀ state, VoiceSessionState.idle ∉ toTranscribing state := by
      intro state
      unfold toTranscribing
      split <;> decide
    cases followup with
    | false =>
      rcases hpath.ended_eq with ⟨-, rfl⟩ | ⟨-, tail, htail, rfl⟩
      · simp [SessionAction.path]
      · have htails : ∀ tail ∈ endTails, VoiceSessionState.idle ∉ tail := by decide
        simp [SessionAction.path, htranscribing, htails tail htail]
    | true =>
      obtain ⟨-, answer, hanswer, rfl⟩ := hpath.followup_eq
      rcases hanswer with rfl | rfl <;> simp [SessionAction.path, htranscribing]
  | chunk chunk placement enrollment overheard =>
    simp only [SessionAction.path, chunkPath, takeoverPath, capturePath]
    split <;> split <;> split <;> decide
  | capture =>
    simp only [SessionAction.path, capturePath]
    split <;> decide
  | start session manual placementTest =>
    simp only [SessionAction.path]
    split <;> decide
  | _ => simp [SessionAction.path]

theorem mem_life_act {e : Effect} (h : e ∈ (w.act a).life) :
    e ∈ w.life ∨ e ∈ a.notes w.serial := by
  rw [w.act_life a] at h
  exact List.mem_append.mp h

/-- A wake is accepted with the action that accepts it, and with no other. -/
theorem wakeAccepted_mem_notes {serial electionId : ℕ} {candidate : WakeCandidate}
    (h : .wakeAccepted serial electionId candidate ∈ a.notes w.serial) :
    a = .accept serial electionId candidate := by
  cases a with
  | accept => simpa [SessionAction.notes, eq_comm] using h
  | audioEnd audio path followup => cases followup <;> simp [SessionAction.notes] at h
  | chunk chunk placement enrollment overheard =>
    cases enrollment <;> simp [SessionAction.notes] at h
  | _ => simp [SessionAction.notes] at h

/-- Only a session that was there is cleared. -/
theorem sessionCleared_mem_notes {serial : ℕ} (h : .sessionCleared serial ∈ a.notes w.serial) :
    ∃ s ∈ w.session, s.serial = serial := by
  have hmap : ∀ cleared : List Effect, cleared = (w.serial.map Effect.sessionCleared).toList →
      .sessionCleared serial ∈ cleared → ∃ s ∈ w.session, s.serial = serial := by
    rintro _ rfl hmem
    cases hs : w.session with
    | none => simp [SessionView.serial, hs] at hmem
    | some s =>
      refine ⟨s, rfl, ?_⟩
      simpa [SessionView.serial, hs, eq_comm] using hmem
  cases a with
  | cancel => exact hmap _ rfl h
  | audioEnd audio path followup =>
    cases followup with
    | true => simp [SessionAction.notes] at h
    | false => exact hmap _ rfl (by simpa [SessionAction.notes] using h)
  | chunk chunk placement enrollment overheard =>
    cases enrollment <;> simp [SessionAction.notes] at h
  | _ => simp [SessionAction.notes] at h

/-- A session that an action ends is cleared. -/
theorem mem_notes_of_ends {s : SessionCore} (hs : w.session = some s) (hends : a.ends = true) :
    .sessionCleared s.serial ∈ a.notes w.serial := by
  have hserial : w.serial = some s.serial := by simp [SessionView.serial, hs]
  cases a with
  | cancel => simp [SessionAction.notes, hserial]
  | audioEnd audio path followup =>
    cases followup with
    | true => cases hends
    | false => simp [SessionAction.notes, hserial]
  | _ => cases hends

namespace SessionView.Wakes

theorem mono (h : w.Wakes n) (hle : n ≤ m) : w.Wakes m :=
  ⟨fun s hs => (h.serial_lt s hs).trans_le hle,
    fun serial hs => (h.cleared_lt serial hs).trans_le hle, h.history, h.ended, h.awake⟩

/-- Whatever wake was accepted, its session began before. -/
theorem accepted_lt (h : w.Wakes n) {serial electionId : ℕ} {candidate : WakeCandidate}
    (hmem : .wakeAccepted serial electionId candidate ∈ w.life) : serial < n := by
  rcases h.ended _ _ _ hmem with hcleared | ⟨s, hs, rfl⟩
  · exact h.cleared_lt _ hcleared
  · exact h.serial_lt s hs

/-- A session that begins. -/
theorem start (h : w.Wakes n) (hle : n ≤ m) {session : SessionCore} {manual placementTest : Bool}
    (hnone : w.session = none)
    (hfresh : (SessionAction.start session manual placementTest).Fresh n m) :
    (w.act (.start session manual placementTest)).Wakes m := by
  have hsession := (SessionView.act_start w session manual placementTest).1
  have hlife : (w.act (.start session manual placementTest)).life =
      w.life ++ [.sessionStarted session.serial] := w.act_life _
  constructor
  · intro s hs
    rw [hsession] at hs
    cases hs
    exact hfresh.2
  · intro serial hserial
    exact (h.cleared_lt serial (by simpa [hlife] using hserial)).trans_le hle
  · exact fun _ => by rw [w.act_history]; rfl
  · -- no session was there, so all that were accepted have been cleared
    intro serial electionId candidate hmem
    rcases h.ended serial electionId candidate (by simpa [hlife] using hmem) with hc | ⟨s, hs, -⟩
    · exact .inl (by simp [hlife, hc])
    · rw [hnone] at hs
      cases hs
  · intro s hs electionId candidate hmem
    rw [hsession] at hs
    cases hs
    have hlt := h.accepted_lt (by simpa [hlife] using hmem)
    exact absurd hfresh.1 (Nat.not_le.mpr hlt)

/-- A wake that is accepted stays so. -/
theorem accepted_act (hstart : a.isStart = false) (hends : a.ends = false)
    (haccepted : w.history.any (·.accepted) = true) :
    (w.act a).history.any (·.accepted) = true := by
  obtain ⟨history, hhistory, hyes⟩ := (Option.any_eq_true _ _).mp haccepted
  rw [w.act_history, hhistory]
  cases a with
  | start => cases hstart
  | cancel => cases hends
  | audioEnd audio path followup =>
    cases followup with
    | true => exact hyes
    | false => cases hends
  | chunk => simp [SessionAction.historyAfter, hyes]
  | accept => rfl
  | _ => exact hyes

/-- A session that goes on is awake, if its wake was accepted. -/
theorem awake_act (h : w.Wakes n)
    (htakes : Takes cfg Occasion.ownsSession w a) (hstart : a.isStart = false) :
    ∀ s' ∈ (w.act a).session, ∀ electionId candidate,
      .wakeAccepted s'.serial electionId candidate ∈ (w.act a).life →
        s'.state ≠ .idle ∧ (w.act a).history.any (·.accepted) = true ∧
          candidate.endpointId = s'.endpointId ∧ candidate.sessionId = s'.sessionId := by
  intro s' hs' electionId candidate hmem
  obtain ⟨s, hs, hends, heq⟩ := SessionView.session_of_act hstart hs'
  have hserial : s'.serial = s.serial := by rw [heq]
  have hstate' : s'.state = s.state.along (a.path s.state) := by rw [heq]
  have hendpointId : s'.endpointId = s.endpointId := by rw [heq]
  have hsessionId : s'.sessionId = s.sessionId := by rw [heq]
  rw [hserial] at hmem
  rw [hstate', hendpointId, hsessionId]
  rcases mem_life_act hmem with hold | hnew
  · -- accepted before: the session is as awake as it was
    obtain ⟨hstate, haccepted, hendpoint, hsession⟩ := h.awake s hs electionId candidate hold
    exact ⟨VoiceSessionState.along_ne_idle _ (idle_not_mem_path htakes _) hstate,
      accepted_act hstart hends haccepted, hendpoint, hsession⟩
  · obtain rfl := wakeAccepted_mem_notes hnew
    obtain ⟨o, howns, session, decision, haccepted, -, -, hactive, hidle, hview⟩ :=
      htakes.permitted (by simp) (by simp)
    obtain ⟨hsubmitted, -, -⟩ := acceptedCandidate_eq_some haccepted
    have hby := submittedBy_of_submittedCandidate hsubmitted
    rcases hview with ⟨hnone, -⟩ | ⟨hview, -⟩
    · rw [hs] at hnone
      cases hnone
    · obtain rfl := Option.some.inj (hs.symm.trans hview)
      obtain ⟨history, hhistory⟩ := Option.isSome_iff_exists.mp (h.history (by simp [hs]))
      refine ⟨?_, ?_, hby.endpointId.trans (howns session hactive).symm, hby.sessionId⟩
      · rw [VoiceSessionSnapshot.core_state, hidle]
        simp only [SessionAction.path]
        decide
      · rw [w.act_history, hhistory]
        rfl

/-- **The step lemma.** -/
theorem act (h : w.Wakes n) (hle : n ≤ m) (hfresh : a.Fresh n m)
    (htakes : Takes cfg Occasion.ownsSession w a) : (w.act a).Wakes m := by
  cases hstart : a.isStart with
  | true =>
    cases a with
    | start session manual placementTest =>
      obtain ⟨o, -, hnone, -⟩ := htakes.permitted (by simp) (by simp)
      exact h.start hle hnone hfresh
    | _ => cases hstart
  | false =>
    constructor
    · intro s' hs'
      obtain ⟨s, hs, -, rfl⟩ := SessionView.session_of_act hstart hs'
      exact (h.serial_lt s hs).trans_le hle
    · intro serial hserial
      rcases mem_life_act hserial with hold | hnew
      · exact (h.cleared_lt serial hold).trans_le hle
      · obtain ⟨s, hs, rfl⟩ := sessionCleared_mem_notes hnew
        exact (h.serial_lt s hs).trans_le hle
    · exact SessionView.history_isSome_act h.history
    · intro serial electionId candidate hmem
      -- the session that was active before, if it is this one
      have hactive : ∀ s ∈ w.session, s.serial = serial →
          .sessionCleared serial ∈ (w.act a).life ∨ ∃ s ∈ (w.act a).session, s.serial = serial := by
        rintro s hs rfl
        cases hends : a.ends with
        | true =>
          rw [w.act_life]
          exact .inl (List.mem_append_right _ (mem_notes_of_ends hs hends))
        | false =>
          refine .inr ⟨{ s with state := s.state.along (a.path s.state) }, ?_, rfl⟩
          rw [SessionView.act_session hs hstart]
          simp [hends]
      have hcleared : .sessionCleared serial ∈ w.life → .sessionCleared serial ∈ (w.act a).life := by
        intro hmem
        rw [w.act_life]
        exact List.mem_append_left _ hmem
      rcases mem_life_act hmem with hold | hnew
      · rcases h.ended serial electionId candidate hold with hmem | ⟨s, hs, heq⟩
        · exact .inl (hcleared hmem)
        · exact hactive s hs heq
      · obtain rfl := wakeAccepted_mem_notes hnew
        obtain ⟨o, -, session, decision, -, rfl, -, -, -, hview⟩ :=
          htakes.permitted (by simp) (by simp)
        rcases hview with ⟨-, hmem⟩ | ⟨hview, -⟩
        · exact .inl (hcleared hmem)
        · exact hactive session.core hview rfl
    · exact h.awake_act htakes hstart

end SessionView.Wakes

theorem wakes_invariant (cfg : Config) :
    SessionInvariant cfg Occasion.ownsSession fun n w => w.Wakes n where
  init := ⟨by rintro s ⟨⟩, by rintro serial ⟨⟩, by simp, by rintro serial electionId candidate ⟨⟩,
    by rintro s ⟨⟩⟩
  mono := fun hle h => h.mono hle
  act := fun h hle hfresh htakes => h.act hle hfresh htakes

end act

end HexeVoice.Voice
