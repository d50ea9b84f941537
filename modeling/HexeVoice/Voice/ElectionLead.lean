import HexeVoice.Voice.WakeElection

/-!
# The lead of a wake election

What the wake election remembers from one candidate to the next, over any run of submissions
and whatever time passes between them.

## What is proved

`Leads.submit`: a candidate opens an election and is accepted, or it is judged against the
winner of the one that is active: it is accepted exactly when it outranks that winner, which
it then replaces. `Leads.submit_leads`: the election goes on to remember its winner.
-/

namespace HexeVoice.Voice

open HexeVoice.Library

namespace WakeCandidateElection

/-- The decision that is active at an instant, and its winner. -/
def reigning (el : WakeCandidateElection) (referenceAt : ℤ) :
    Option (WakeElectionDecision × WakeCandidate) :=
  (el.activeDecision.filter fun d => el.decisionIsActive d referenceAt).bind fun d =>
    d.winner.map fun w => (d, w)

/-- What the active decision and the pending candidates remember: `uuid` is the next draw and
`now` the clock. -/
structure Leads (el : WakeCandidateElection) (uuid : ℕ) (now : ℤ) : Prop where
  winner : ∀ d ∈ el.activeDecision, ∃ w, d.winner = some w ∧ chooseWinner d.candidates = some w
  electionId_lt : ∀ d ∈ el.activeDecision, d.electionId < uuid
  candidateId_lt : ∀ d ∈ el.activeDecision, ∀ c ∈ d.candidates, c.candidateId < uuid
  receivedAt_le : ∀ d ∈ el.activeDecision, ∀ w ∈ d.winner, w.receivedAt ≤ now
  /-- No pending candidate arrived after the winner, so all expire with the decision. -/
  pending : ∀ p ∈ el.pendingCandidates, ∃ d ∈ el.activeDecision, ∃ w ∈ d.winner,
    p.receivedAt ≤ w.receivedAt

variable {el : WakeCandidateElection} {n m : ℕ} {now now' : ℤ} {c w : WakeCandidate}
  {d : WakeElectionDecision} {referenceAt : ℤ}

theorem reigning_eq_some :
    el.reigning referenceAt = some (d, w) ↔
      el.activeDecision = some d ∧ d.winner = some w ∧ el.inWindow referenceAt w.receivedAt = true := by
  constructor
  · intro h
    obtain ⟨d', hd', hw⟩ := Option.bind_eq_some_iff.mp h
    obtain ⟨hactive, hin⟩ := Option.filter_eq_some_iff.mp hd'
    obtain ⟨w', hw', heq⟩ := Option.map_eq_some_iff.mp hw
    obtain ⟨rfl, rfl⟩ : d' = d ∧ w' = w := by simpa using heq
    exact ⟨hactive, hw', by simpa [decisionIsActive, hw'] using hin⟩
  · rintro ⟨hactive, hw, hin⟩
    have hkeep : el.decisionIsActive d referenceAt = true := by simpa [decisionIsActive, hw] using hin
    rw [reigning, hactive, Option.filter_some, if_pos hkeep, Option.bind_some, hw]
    rfl

namespace Leads

/-- Time passes and numbers are drawn. -/
theorem mono (h : el.Leads n now) (hle : n ≤ m) (hnow : now ≤ now') : el.Leads m now' where
  winner := h.winner
  electionId_lt := fun d hd => (h.electionId_lt d hd).trans_le hle
  candidateId_lt := fun d hd c hc => (h.candidateId_lt d hd c hc).trans_le hle
  receivedAt_le := fun d hd w hw => (h.receivedAt_le d hd w hw).trans hnow
  pending := h.pending

/-- What is known of the decision that is active, and its winner. -/
theorem reigns (h : el.Leads n now) (hreigning : el.reigning referenceAt = some (d, w)) :
    el.activeDecision = some d ∧ d.winner = some w ∧ chooseWinner d.candidates = some w ∧
      el.decisionIsActive d referenceAt = true := by
  obtain ⟨hd, hw, hin⟩ := reigning_eq_some.mp hreigning
  obtain ⟨w', hw', hlead⟩ := h.winner d hd
  obtain rfl : w = w' := Option.some.inj (hw.symm.trans hw')
  exact ⟨hd, hw, hlead, by simpa [decisionIsActive, hw] using hin⟩

/-- What there is to know of an election with an active decision. -/
theorem of_active (hd : el.activeDecision = some d) (hw : d.winner = some w)
    (hlead : chooseWinner d.candidates = some w) (hid : d.electionId < n)
    (hids : ∀ c ∈ d.candidates, c.candidateId < n) (hle : w.receivedAt ≤ now)
    (hpending : ∀ p ∈ el.pendingCandidates, p.receivedAt ≤ w.receivedAt) : el.Leads n now where
  winner := by
    rw [hd]
    rintro d' ⟨⟩
    exact ⟨w, hw, hlead⟩
  electionId_lt := by
    rw [hd]
    rintro d' ⟨⟩
    exact hid
  candidateId_lt := by
    rw [hd]
    rintro d' ⟨⟩
    exact hids
  receivedAt_le := by
    rw [hd]
    rintro d' ⟨⟩ w' hw'
    obtain rfl : w = w' := Option.some.inj (hw.symm.trans hw')
    exact hle
  pending := fun p hp => ⟨d, hd, w, hw, hpending p hp⟩

/-- Where no decision is active, no candidate is pending. -/
theorem expired (h : el.Leads n now) (hnone : el.reigning referenceAt = none) :
    (el.expirePending referenceAt).pendingCandidates = [] ∧
      (el.expirePending referenceAt).activeDecision = none := by
  have hlate : ∀ d ∈ el.activeDecision, ∀ w ∈ d.winner, el.inWindow referenceAt w.receivedAt = false := by
    intro d hd w hw
    by_contra hin
    have hreigning := reigning_eq_some.mpr ⟨hd, hw, by simpa using hin⟩
    simp [hnone] at hreigning
  constructor
  · refine List.filter_eq_nil_iff.mpr fun p hp hin => ?_
    obtain ⟨d, hd, w, hw, hle⟩ := h.pending p hp
    have hout := hlate d hd w hw
    simp only [inWindow, decide_eq_true_eq, decide_eq_false_iff_not] at hin hout
    omega
  · refine Option.filter_eq_none_iff.mpr fun d hd hactive => ?_
    obtain ⟨w, hw, -⟩ := h.winner d hd
    have hout := hlate d hd w hw
    simp [decisionIsActive, hw, hout] at hactive

end Leads

/-- A candidate that finds nothing active and nothing pending opens an election. -/
theorem submitCandidate_opens (hpending : (el.expirePending c.receivedAt).pendingCandidates = [])
    (hactive : (el.expirePending c.receivedAt).activeDecision = none) (uuid : ℕ) :
    (el.submitCandidate c uuid).1 = decidePending [c] c uuid ∧
      (el.submitCandidate c uuid).2.activeDecision = some (decidePending [c] c uuid) ∧
      (el.submitCandidate c uuid).2.pendingCandidates = [c] := by
  have hactive' : ((el.expirePending c.receivedAt).recordCandidate c).activeDecision = none := hactive
  have hpending' : ((el.expirePending c.receivedAt).recordCandidate c).pendingCandidates = [] :=
    hpending
  have haccepted : (decidePending [c] c uuid).accepted = true := by
    simp [decidePending, chooseWinner, sameCandidate]
  simp only [submitCandidate, hactive', hpending', Option.filter_none, List.nil_append, haccepted,
    if_true]
  exact ⟨trivial, rfl, rfl⟩

/-- A candidate that is judged against an active decision leaves the pending ones alone. -/
theorem submitCandidate_pending (hd : el.activeDecision = some d)
    (hactive : el.decisionIsActive d c.receivedAt = true) (uuid : ℕ) :
    (el.submitCandidate c uuid).2.pendingCandidates ⊆ el.pendingCandidates := by
  have hkeep : ((el.expirePending c.receivedAt).recordCandidate c).activeDecision = some d := by
    simp [expirePending, recordCandidate, hd, Option.filter, hactive]
  have hactive' : ((el.expirePending c.receivedAt).recordCandidate c).decisionIsActive d
      c.receivedAt = true := hactive
  simp only [submitCandidate, hkeep, Option.filter, hactive', if_true]
  split_ifs <;> exact List.filter_subset_self _

/-- How the wake election answers a candidate. -/
inductive Answer (el : WakeCandidateElection) (c : WakeCandidate) (uuid : ℕ) :
    WakeElectionDecision → Option WakeElectionDecision → Prop
  /-- No decision is active: the candidate opens an election. -/
  | opens {r : WakeElectionDecision} (hnone : el.reigning c.receivedAt = none)
      (hid : r.electionId = uuid) (haccepted : r.accepted = true) (hwinner : r.winner = some c)
      (hreplaced : r.replacedWinner = none) : Answer el c uuid r (some r)
  /-- The candidate outranks the winner, and replaces it. -/
  | replaces {r d : WakeElectionDecision} {w : WakeCandidate}
      (hreigning : el.reigning c.receivedAt = some (d, w)) (hrank : w.rankKey < c.rankKey)
      (hid : r.electionId = d.electionId) (haccepted : r.accepted = true)
      (hwinner : r.winner = some c) (hreplaced : r.replacedWinner = some w) :
      Answer el c uuid r (some r)
  /-- The candidate is told to stand down. -/
  | rejects {r d : WakeElectionDecision} {w : WakeCandidate}
      (hreigning : el.reigning c.receivedAt = some (d, w)) (hrank : ¬ w.rankKey < c.rankKey)
      (hid : r.electionId = d.electionId) (haccepted : r.accepted = false)
      (hwinner : r.winner = some w) : Answer el c uuid r (some d)

namespace Leads

/-- **How a candidate fares** that has a number of its own. -/
theorem submit (h : el.Leads n now) (hc : n ≤ c.candidateId) (uuid : ℕ) :
    Answer el c uuid (el.submitCandidate c uuid).1 (el.submitCandidate c uuid).2.activeDecision := by
  cases hreigning : el.reigning c.receivedAt with
  | none =>
    obtain ⟨hpending, hactive⟩ := h.expired hreigning
    obtain ⟨hr, hel, -⟩ := submitCandidate_opens hpending hactive uuid
    rw [hr, hel]
    exact .opens hreigning rfl (by simp [decidePending, chooseWinner, sameCandidate])
      (by simp [decidePending, chooseWinner]) rfl
  | some dw =>
    obtain ⟨d, w⟩ := dw
    obtain ⟨hd, hw, hlead, hactive⟩ := h.reigns hreigning
    have hid : w.candidateId ≠ c.candidateId := by
      have hlt := h.candidateId_lt d hd w (List.argmax_mem hlead)
      omega
    obtain ⟨hr, hel⟩ := submitCandidate_active hd hactive uuid
    have haccepted := decideAgainst_accepted (d := d) (c := c) hlead hid
    rw [hr, hel]
    by_cases hrank : w.rankKey < c.rankKey
    · have hyes := haccepted.mpr hrank
      have hwinner : chooseWinner (d.candidates ++ [c]) = some c := argmax_concat_of_lt hlead hrank
      rw [if_pos hyes]
      refine .replaces hreigning hrank rfl hyes hwinner ?_
      simp [decideAgainst, hwinner, hw, sameCandidate, Ne.symm hid]
    · have hno : (decideAgainst d c).accepted = false := by
        simpa using fun hyes => hrank (haccepted.mp hyes)
      have hwinner : chooseWinner (d.candidates ++ [c]) = some w :=
        argmax_concat_of_not_lt hlead hrank
      rw [if_neg (by simp [hno])]
      exact .rejects hreigning hrank rfl hno hwinner

theorem electionId_answer (h : el.Leads n now) {r : WakeElectionDecision}
    {active : Option WakeElectionDecision} (hanswer : Answer el c (n + 1) r active) :
    r.electionId < n + 2 := by
  cases hanswer with
  | opens _ hid => omega
  | replaces hreigning _ hid =>
    have hlt := h.electionId_lt _ (h.reigns hreigning).1
    omega
  | rejects hreigning _ hid =>
    have hlt := h.electionId_lt _ (h.reigns hreigning).1
    omega

/-- **The step lemma**: the election goes on to remember its winner. -/
theorem submit_leads (h : el.Leads n now) (hc : c.candidateId = n) (hat : c.receivedAt = now) :
    (el.submitCandidate c (n + 1)).2.Leads (n + 2) now := by
  cases hreigning : el.reigning c.receivedAt with
  | none =>
    obtain ⟨hpending, hactive⟩ := h.expired hreigning
    obtain ⟨-, hel, hpending'⟩ := submitCandidate_opens hpending hactive (n + 1)
    have hwinner : chooseWinner [c] = some c := rfl
    refine of_active hel hwinner hwinner (Nat.lt_succ_self _) ?_ hat.le ?_
    · intro c' hc'
      obtain rfl := List.mem_singleton.mp hc'
      omega
    · rw [hpending']
      intro p hp
      obtain rfl := List.mem_singleton.mp hp
      exact le_rfl
  | some dw =>
    obtain ⟨d, w⟩ := dw
    obtain ⟨hd, hw, hlead, hactive⟩ := h.reigns hreigning
    obtain ⟨-, hel⟩ := submitCandidate_active hd hactive (n + 1)
    have hid : w.candidateId ≠ c.candidateId := by
      have hlt := h.candidateId_lt d hd w (List.argmax_mem hlead)
      omega
    have hids : ∀ c ∈ d.candidates, c.candidateId < n + 2 := fun c' hc' =>
      (h.candidateId_lt d hd c' hc').trans_le (Nat.le_add_right _ _)
    have hlt : d.electionId < n + 2 := (h.electionId_lt d hd).trans_le (Nat.le_add_right _ _)
    have hwnow := h.receivedAt_le d hd w hw
    have hpending : ∀ p ∈ (el.submitCandidate c (n + 1)).2.pendingCandidates,
        p.receivedAt ≤ w.receivedAt := by
      intro p hp
      obtain ⟨d', hd', w', hw', hle⟩ := h.pending p (submitCandidate_pending hd hactive (n + 1) hp)
      obtain rfl : d = d' := Option.some.inj (hd.symm.trans hd')
      rwa [show w = w' from Option.some.inj (hw.symm.trans hw')]
    by_cases hrank : w.rankKey < c.rankKey
    · have hwinner : chooseWinner (d.candidates ++ [c]) = some c := argmax_concat_of_lt hlead hrank
      rw [if_pos ((decideAgainst_accepted (d := d) (c := c) hlead hid).mpr hrank)] at hel
      refine of_active hel hwinner hwinner hlt ?_ hat.le ?_
      · intro c' hc'
        rcases List.mem_append.mp hc' with hc' | hc'
        · exact hids c' hc'
        · obtain rfl := List.mem_singleton.mp hc'
          omega
      · exact fun p hp => (hpending p hp).trans (hwnow.trans hat.ge)
    · rw [if_neg fun hyes => hrank ((decideAgainst_accepted (d := d) (c := c) hlead hid).mp hyes)]
        at hel
      exact of_active hel hw hlead hlt hids hwnow hpending

end Leads

end WakeCandidateElection

end HexeVoice.Voice
