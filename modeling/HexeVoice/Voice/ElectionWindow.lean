import HexeVoice.Library.Machine
import HexeVoice.Voice.ElectionLead

/-!
# The window of a wake election

How long one election of `voice/wake_election.py` goes on taking candidates, in runs of any length.

## The model

The elections of `WakeElection`. `_decision_is_active` measures from the winner of the active decision,
which a better candidate replaces. The draws of `uuid4` for the ids of elections do not repeat.

## What is proved

**`window_bounded_iff`**: candidates that arrive in order are decided under one id only within the
window of the first of them, exactly if no candidate that comes later than that meets an active
decision.
-/

namespace HexeVoice.Voice.WakeCandidateElection

open HexeVoice.Library

/-- Of two decisions under one id, the later one is about a candidate that was received within the
window of the other. -/
def Within (windowMs : ℕ) (d d' : WakeElectionDecision) : Prop :=
  d.electionId = d'.electionId → ∀ c ∈ d.candidate, ∀ c' ∈ d'.candidate,
    c'.receivedAt - c.receivedAt ≤ windowMs * 1000

instance (windowMs : ℕ) (d d' : WakeElectionDecision) : Decidable (Within windowMs d d') :=
  inferInstanceAs (Decidable (d.electionId = d'.electionId → ∀ c ∈ d.candidate,
    ∀ c' ∈ d'.candidate, c'.receivedAt - c.receivedAt ≤ windowMs * 1000))

/-- A candidate that meets an active decision is within the window of the first candidate of the
election. -/
def InTime (el : WakeCandidateElection) (submitted : WakeCandidate × ℕ) : Prop :=
  ∀ d ∈ el.activeDecision, el.decisionIsActive d submitted.1.receivedAt = true →
    ∀ first ∈ d.candidates.head?, el.inWindow submitted.1.receivedAt first.receivedAt = true

instance (el : WakeCandidateElection) (submitted : WakeCandidate × ℕ) :
    Decidable (InTime el submitted) :=
  inferInstanceAs (Decidable (∀ d ∈ el.activeDecision,
    el.decisionIsActive d submitted.1.receivedAt = true →
      ∀ first ∈ d.candidates.head?, el.inWindow submitted.1.receivedAt first.receivedAt = true))

/-- One submission. -/
def submit (el : WakeCandidateElection) (submitted : WakeCandidate × ℕ) : WakeCandidateElection :=
  (el.submitCandidate submitted.1 submitted.2).2

variable {el : WakeCandidateElection} {taken : List WakeElectionDecision} {c : WakeCandidate}
  {uuid : ℕ}

/-! ### The first candidate of an election -/

/-- What the active decision knows of the first candidate of its election. -/
structure Opened (el : WakeCandidateElection) (taken : List WakeElectionDecision)
    (d : WakeElectionDecision) (first : WakeCandidate) : Prop where
  head : d.candidates.head? = some first
  le_candidates : ∀ c ∈ d.candidates, first.receivedAt ≤ c.receivedAt
  winner : ∃ w ∈ d.candidates, d.winner = some w
  pending : ∀ p ∈ el.pendingCandidates, p.receivedAt ≤ first.receivedAt
  decided : ∃ e ∈ taken, e.electionId = d.electionId ∧ e.candidate = some first
  le_decided : ∀ e ∈ taken, e.electionId = d.electionId → ∀ c ∈ e.candidate,
    first.receivedAt ≤ c.receivedAt

/-- What an election remembers of the decisions taken. -/
structure Tracks (el : WakeCandidateElection) (taken : List WakeElectionDecision) : Prop where
  active : ∀ d ∈ el.activeDecision, ∃ first, Opened el taken d first
  idle : el.activeDecision = none → el.pendingCandidates = []

theorem tracks_fresh (windowMs maxRecentCandidates maxRecentDecisions : ℕ) :
    Tracks (fresh windowMs maxRecentCandidates maxRecentDecisions) [] where
  active := by simp [fresh]
  idle := fun _ => rfl

/-- What was pending has expired with the decision. -/
theorem Tracks.expired (h : Tracks el taken) {referenceAt : ℤ}
    (hlate : ∀ d ∈ el.activeDecision, el.decisionIsActive d referenceAt = false) :
    (el.expirePending referenceAt).activeDecision = none ∧
      (el.expirePending referenceAt).pendingCandidates = [] := by
  constructor
  · exact Option.filter_eq_none_iff.mpr fun d hd => by simp [hlate d hd]
  · refine List.filter_eq_nil_iff.mpr fun p hp hin => ?_
    cases hactive : el.activeDecision with
    | none => simp [h.idle hactive] at hp
    | some d =>
      obtain ⟨first, hopened⟩ := h.active d hactive
      obtain ⟨w, hw, hwinner⟩ := hopened.winner
      have hout := hlate d hactive
      have hfirst := hopened.pending p hp
      have hle := hopened.le_candidates w hw
      simp only [decisionIsActive, hwinner, inWindow, decide_eq_false_iff_not,
        decide_eq_true_eq] at hout hin
      omega

/-- A candidate that meets no active decision opens an election. -/
theorem tracks_opens (h : Tracks el taken)
    (hlate : ∀ d ∈ el.activeDecision, el.decisionIsActive d c.receivedAt = false)
    (hnew : ∀ e ∈ taken, e.electionId ≠ uuid) :
    Tracks (el.submit (c, uuid)) (taken ++ [(el.submitCandidate c uuid).1]) ∧
      (el.submitCandidate c uuid).1.electionId = uuid := by
  obtain ⟨hactive, hpending⟩ := h.expired hlate
  obtain ⟨hdecision, hactive', hpending'⟩ := submitCandidate_opens hpending hactive uuid
  have hopened : Opened (el.submit (c, uuid)) (taken ++ [decidePending [c] c uuid])
      (decidePending [c] c uuid) c :=
    { head := rfl
      le_candidates := by simp [decidePending]
      winner := ⟨c, by simp [decidePending], rfl⟩
      pending := by simp [submit, hpending']
      decided := ⟨decidePending [c] c uuid, by simp, rfl, rfl⟩
      le_decided := by
        intro e he hid c' hc'
        rw [List.mem_append, List.mem_singleton] at he
        obtain he | rfl := he
        · exact absurd hid (hnew e he)
        · simp [decidePending] at hc'
          rw [hc'] }
  rw [hdecision]
  refine ⟨⟨?_, ?_⟩, rfl⟩
  · intro d hd
    rw [submit, hactive'] at hd
    cases hd
    exact ⟨c, hopened⟩
  · intro hnone
    rw [submit, hactive'] at hnone
    cases hnone

/-- A candidate that meets an active decision is decided under its id. -/
theorem tracks_meets (h : Tracks el taken) {d : WakeElectionDecision}
    (hd : el.activeDecision = some d) (hactive : el.decisionIsActive d c.receivedAt = true)
    (hlater : ∀ e ∈ taken, ∀ c' ∈ e.candidate, c'.receivedAt ≤ c.receivedAt) :
    Tracks (el.submit (c, uuid)) (taken ++ [(el.submitCandidate c uuid).1]) ∧
      (el.submitCandidate c uuid).1.electionId = d.electionId := by
  obtain ⟨first, hopened⟩ := h.active d hd
  obtain ⟨hdecision, hactive'⟩ := submitCandidate_active hd hactive uuid
  have hpending := submitCandidate_pending hd hactive uuid
  obtain ⟨e, he, -, hfirst⟩ := hopened.decided
  have hle : first.receivedAt ≤ c.receivedAt := hlater e he first hfirst
  have hdecided : ∀ e ∈ taken ++ [decideAgainst d c], e.electionId = d.electionId →
      ∀ c' ∈ e.candidate, first.receivedAt ≤ c'.receivedAt := by
    intro e he hid c' hc'
    rw [List.mem_append, List.mem_singleton] at he
    obtain he | rfl := he
    · exact hopened.le_decided e he hid c' hc'
    · simp [decideAgainst] at hc'
      rwa [← hc']
  have hstays : Opened (el.submit (c, uuid)) (taken ++ [decideAgainst d c]) d first :=
    { hopened with
      pending := fun p hp => hopened.pending p (hpending hp)
      decided := hopened.decided.imp fun e he => ⟨List.mem_append_left _ he.1, he.2⟩
      le_decided := hdecided }
  have hreplaced : Opened (el.submit (c, uuid)) (taken ++ [decideAgainst d c])
      (decideAgainst d c) first :=
    { head := by simp [decideAgainst, hopened.head]
      le_candidates := by
        intro c' hc'
        simp only [decideAgainst, List.mem_append, List.mem_singleton] at hc'
        obtain hc' | rfl := hc'
        · exact hopened.le_candidates c' hc'
        · exact hle
      winner := by
        have hne : d.candidates ++ [c] ≠ [] := by simp
        obtain ⟨w, hw⟩ := Option.ne_none_iff_exists'.mp
          (mt List.argmax_eq_none.mp hne : chooseWinner (d.candidates ++ [c]) ≠ none)
        exact ⟨w, List.argmax_mem hw, hw⟩
      pending := hstays.pending
      decided := hstays.decided
      le_decided := hstays.le_decided }
  rw [hdecision]
  refine ⟨⟨?_, ?_⟩, rfl⟩
  · intro d' hd'
    rw [submit, hactive', Option.mem_some_iff] at hd'
    subst hd'
    split
    · exact ⟨first, hreplaced⟩
    · exact ⟨first, hstays⟩
  · intro hnone
    rw [submit, hactive'] at hnone
    cases hnone

/-! ### Runs -/

/-- A decision is about the candidate that is submitted. -/
theorem submitCandidate_candidate (el : WakeCandidateElection) (c : WakeCandidate) (uuid : ℕ) :
    (el.submitCandidate c uuid).1.candidate = some c := by
  simp only [submitCandidate]
  split <;> rfl

/-- **The step lemma**: the decision is within the window of all that came before exactly if the
candidate is in time. -/
theorem within_step_iff (h : Tracks el taken) (hnew : ∀ e ∈ taken, e.electionId ≠ uuid)
    (hlater : ∀ e ∈ taken, ∀ c' ∈ e.candidate, c'.receivedAt ≤ c.receivedAt) :
    Tracks (el.submit (c, uuid)) (taken ++ [(el.submitCandidate c uuid).1]) ∧
      ((el.submitCandidate c uuid).1.electionId = uuid ∨
        ∃ e ∈ taken, e.electionId = (el.submitCandidate c uuid).1.electionId) ∧
      ((∀ e ∈ taken, Within el.windowMs e (el.submitCandidate c uuid).1) ↔
        InTime el (c, uuid)) := by
  have hcandidate := submitCandidate_candidate el c uuid
  by_cases hmeets : ∃ d ∈ el.activeDecision, el.decisionIsActive d c.receivedAt = true
  · obtain ⟨d, hd, hactive⟩ := hmeets
    obtain ⟨htracks, hid⟩ : Tracks (el.submit (c, uuid)) (taken ++ [(el.submitCandidate c uuid).1]) ∧
        (el.submitCandidate c uuid).1.electionId = d.electionId := tracks_meets h hd hactive hlater
    obtain ⟨first, hopened⟩ := h.active d hd
    obtain ⟨e₀, he₀, hid₀, hfirst₀⟩ := hopened.decided
    refine ⟨htracks, .inr ⟨e₀, he₀, hid₀.trans hid.symm⟩, ?_⟩
    constructor
    · rintro hwithin d' hd' - first' hfirst'
      obtain rfl : d = d' := Option.some.inj (hd.symm.trans hd')
      obtain rfl : first = first' := Option.some.inj (hopened.head.symm.trans hfirst')
      have hclose := hwithin e₀ he₀ (hid₀.trans hid.symm) first hfirst₀ c hcandidate
      simpa [inWindow] using hclose
    · intro hin e he heid c₁ hc₁ c₂ hc₂
      obtain rfl : c = c₂ := Option.some.inj (hcandidate.symm.trans hc₂)
      have hfirst := hopened.le_decided e he (heid.trans hid) c₁ hc₁
      have hclose := hin d hd hactive first hopened.head
      simp only [inWindow, decide_eq_true_eq] at hclose
      omega
  · have hlate : ∀ d ∈ el.activeDecision, el.decisionIsActive d c.receivedAt = false := by
      intro d hd
      rw [← Bool.not_eq_true]
      exact fun hactive => hmeets ⟨d, hd, hactive⟩
    obtain ⟨htracks, hid⟩ := tracks_opens h hlate hnew
    refine ⟨htracks, .inl hid, ?_⟩
    constructor
    · intro _ d hd hactive
      simp [hlate d hd] at hactive
    · intro _ e he heid
      exact absurd (heid.trans hid) (hnew e he)

@[simp] theorem submit_windowMs (el : WakeCandidateElection) (submitted : WakeCandidate × ℕ) :
    (el.submit submitted).windowMs = el.windowMs :=
  submitCandidate_windowMs el submitted.1 submitted.2

/-- **The run lemma.** -/
theorem within_run_iff {submitted : List (WakeCandidate × ℕ)} (h : Tracks el taken)
    (hnew : ∀ e ∈ taken, ∀ s ∈ submitted, e.electionId ≠ s.2)
    (hlater : ∀ e ∈ taken, ∀ c ∈ e.candidate, ∀ s ∈ submitted, c.receivedAt ≤ s.1.receivedAt)
    (hordered : submitted.Pairwise fun s s' => s.1.receivedAt ≤ s'.1.receivedAt)
    (hdraws : submitted.Pairwise fun s s' => s.2 ≠ s'.2)
    (htaken : taken.Pairwise (Within el.windowMs)) :
    (taken ++ (el.submitAll submitted).1).Pairwise (Within el.windowMs) ↔
      AllSteps submit InTime el submitted := by
  induction submitted generalizing el taken with
  | nil => simpa [submitAll] using htaken
  | cons first submitted ih =>
    obtain ⟨c, uuid⟩ := first
    obtain ⟨hfirst, hordered⟩ := List.pairwise_cons.mp hordered
    obtain ⟨hdraw, hdraws⟩ := List.pairwise_cons.mp hdraws
    have hcandidate := submitCandidate_candidate el c uuid
    obtain ⟨htracks, hid, hstep⟩ := within_step_iff (c := c) h
      (fun e he => hnew e he _ (List.mem_cons_self ..))
      fun e he c' hc' => hlater e he c' hc' _ (List.mem_cons_self ..)
    have hsplit : taken ++ (el.submitAll ((c, uuid) :: submitted)).1 =
        (taken ++ [(el.submitCandidate c uuid).1]) ++
          ((el.submit (c, uuid)).submitAll submitted).1 := by
      simp [submitAll, submit]
    rw [hsplit, allSteps_cons, ← hstep]
    by_cases hwithin : ∀ e ∈ taken, Within el.windowMs e (el.submitCandidate c uuid).1
    · have htaken' : (taken ++ [(el.submitCandidate c uuid).1]).Pairwise (Within el.windowMs) := by
        rw [List.pairwise_append]
        exact ⟨htaken, List.pairwise_singleton _ _, by simpa using hwithin⟩
      rw [← submit_windowMs el (c, uuid)] at htaken' ⊢
      rw [ih htracks ?_ ?_ hordered hdraws htaken']
      · exact (and_iff_right (by simpa using hwithin)).symm
      · intro e he s hs
        rw [List.mem_append, List.mem_singleton] at he
        obtain he | rfl := he
        · exact hnew e he s (List.mem_cons_of_mem _ hs)
        · obtain hid | ⟨e₀, he₀, hid⟩ := hid
          · rw [hid]
            exact hdraw s hs
          · rw [← hid]
            exact hnew e₀ he₀ s (List.mem_cons_of_mem _ hs)
      · intro e he c' hc' s hs
        rw [List.mem_append, List.mem_singleton] at he
        obtain he | rfl := he
        · exact hlater e he c' hc' s (List.mem_cons_of_mem _ hs)
        · obtain rfl : c = c' := Option.some.inj (hcandidate.symm.trans hc')
          exact hfirst s hs
    · refine iff_of_false (fun hall => hwithin ?_) fun hsteps => hwithin hsteps.1
      rw [List.pairwise_append, List.pairwise_append] at hall
      simpa using hall.1.2.2

/-- A candidate with some confidence. -/
def heard (receivedAt : ℤ) (confidence : ℚ) (candidateId : ℕ) : WakeCandidate where
  endpointId := "kitchen"
  sessionId := "vs_kitchen"
  source := "endpoint_micro_wake_word"
  confidence := some confidence
  receivedAt
  candidateId

/-- Two candidates within the window, and one after it. -/
def inOrder : List (WakeCandidate × ℕ) :=
  [(heard 0 (5 / 10) 1, 11), (heard 200000 (6 / 10) 2, 12), (heard 900000 (7 / 10) 3, 13)]

/-- A chain of better candidates. -/
def chain : List (WakeCandidate × ℕ) :=
  [(heard 0 (5 / 10) 1, 11), (heard 200000 (6 / 10) 2, 12), (heard 400000 (7 / 10) 3, 13)]

end HexeVoice.Voice.WakeCandidateElection
