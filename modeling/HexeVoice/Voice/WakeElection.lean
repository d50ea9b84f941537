import HexeVoice.Library.RunningMax
import HexeVoice.Voice.Contracts
import Mathlib

/-!
# The wake election

`voice/wake_election.py`: candidates that heard the same wake word are ranked by score,
source, time and endpoint, and the first to arrive is accepted at once; a better one that
arrives inside the window replaces it.

## The model

Instants are microseconds of UTC, as `_with_utc` leaves them. Scores are exact rationals,
rounded to six decimals as `round` does. The hexadecimal draws of `uuid4` are numbers: a
candidate carries the one drawn for it, and `submitCandidate` is given the one it would
draw for a new election. `_recent_candidates` and `_recent_decisions` keep the candidates
and decisions themselves.

## What is proved

`submitAll_election`: submitted one by one, candidates that all arrive within the window
of the first are judged by one election, each is accepted exactly when it outranks every
candidate before it, and the last winner is the one `decideCandidates` picks from the whole
list. The online path forgets the candidates it turned away; what carries the proof is that
the candidates it keeps have the leader of all of them (`Online`).
-/

namespace HexeVoice.Voice

open HexeVoice.Library

/-! ### Candidates -/

/-- `SOURCE_PRIORITIES.get(source, 10)`. -/
def sourcePriority (source : String) : ℤ :=
  match [("button", 100), ("touch", 98), ("manual", 95), ("endpoint_micro_wake_word", 80),
      ("endpoint_wake_word", 75), ("backend_openwakeword", 60), ("openwakeword", 55),
      ("unknown", 0)].lookup source with
  | some p => p
  | none => 10

/-- `round(q)`: to the nearest integer, a half to the even one. -/
def roundHalfEven (q : ℚ) : ℤ :=
  let n := ⌊q⌋
  let r := q - n
  if r < 1 / 2 then n else if 1 / 2 < r then n + 1 else if n % 2 = 0 then n else n + 1

/-- `round(q, 6)`. -/
def round6 (q : ℚ) : ℚ := roundHalfEven (q * 1000000) / 1000000

/-- `WakeCandidate`, as `__post_init__` leaves it. -/
structure WakeCandidate where
  endpointId : EndpointId
  sessionId : SessionId
  source : String
  model : Option String := none
  confidence : Option ℚ := none
  receivedAt : ℤ
  detectedAt : Option ℤ := none
  chunkIndex : Option ℕ := none
  chunkCount : Option ℕ := none
  frameLevel : Option ℕ := none
  speechPeakLevel : Option ℕ := none
  noiseFloorLevel : Option ℕ := none
  ambientLevel : Option ℕ := none
  snrDb : Option ℚ := none
  candidateId : ℕ
  deriving DecidableEq

namespace WakeCandidate

/-- `__post_init__`: the confidence is clamped to `0..1`, an empty source is `unknown`. -/
def postInit (c : WakeCandidate) : WakeCandidate :=
  { c with
    source := if c.source = "" then "unknown" else c.source
    confidence := c.confidence.map fun q => max 0 (min 1 q) }

/-- `score_breakdown()["score"]`. -/
def score (c : WakeCandidate) : ℚ :=
  let confidence := c.confidence.getD 0
  let snrBonus : ℚ := match c.snrDb with
    | some snr => min (8 / 100) (max 0 snr / 40 * (8 / 100))
    | none => 0
  let speech := if c.speechPeakLevel.isSome then c.speechPeakLevel else c.frameLevel
  let noise := if c.noiseFloorLevel.isSome then c.noiseFloorLevel else c.ambientLevel
  let separationBonus : ℚ := match speech, noise with
    | some s, some n => if n < s then min (5 / 100) ((s - n : ℚ) / 32768 * (5 / 100)) else 0
    | _, _ => 0
  let levelBonus : ℚ := match speech with
    | some s => min (2 / 100) (max 0 (s : ℚ) / 32768 * (2 / 100))
    | none => 0
  round6 (min 1 (confidence + snrBonus + separationBonus + levelBonus))

/-- Rank keys are compared by the order of their parts, which is computable. -/
instance : Preorder (ℚ ×ₗ ℤ ×ₗ ℤ ×ₗ String) :=
  (inferInstance : LinearOrder (ℚ ×ₗ ℤ ×ₗ ℤ ×ₗ String)).toPreorder

/-- `rank_key`: tuples are compared left to right. -/
def rankKey (c : WakeCandidate) : ℚ ×ₗ ℤ ×ₗ ℤ ×ₗ String :=
  toLex (c.score, toLex (sourcePriority c.source,
    toLex (-(c.detectedAt.getD c.receivedAt), c.endpointId)))

end WakeCandidate

/-- `choose_wake_election_winner`: `max` by `rank_key`, of equals the first. -/
def chooseWinner (candidates : List WakeCandidate) : Option WakeCandidate :=
  candidates.argmax WakeCandidate.rankKey

def sameCandidate (left right : Option WakeCandidate) : Bool :=
  match left, right with
  | some l, some r => l.candidateId = r.candidateId
  | _, _ => false

/-! ### The election -/

/-- The reasons a decision gives. -/
inductive DecisionReason where
  | winnerSelected | winnerReplaced | winnerConfirmed | standDownExistingWinner
  | standDownLowerRank | standDownReplacedByBetterCandidate | wakeAlreadyDetected | noCandidates
  deriving DecidableEq

structure WakeElectionDecision where
  electionId : ℕ
  accepted : Bool
  reason : DecisionReason
  candidate : Option WakeCandidate
  winner : Option WakeCandidate
  candidates : List WakeCandidate
  decidedAt : ℤ
  replacedWinner : Option WakeCandidate := none
  deriving DecidableEq

structure WakeCandidateElection where
  windowMs : ℕ := 250
  maxRecentCandidates : ℕ := 50
  maxRecentDecisions : ℕ := 20
  pendingCandidates : List WakeCandidate := []
  recentCandidates : List WakeCandidate := []
  recentDecisions : List WakeElectionDecision := []
  activeDecision : Option WakeElectionDecision := none
  deriving DecidableEq

namespace WakeCandidateElection

variable (el : WakeCandidateElection)

/-- `reference_at - received_at <= timedelta(milliseconds=window_ms)`. -/
def inWindow (referenceAt receivedAt : ℤ) : Bool :=
  referenceAt - receivedAt ≤ el.windowMs * 1000

def decisionIsActive (decision : WakeElectionDecision) (referenceAt : ℤ) : Bool :=
  match decision.winner with
  | none => false
  | some winner => el.inWindow referenceAt winner.receivedAt

def expirePending (referenceAt : ℤ) : WakeCandidateElection :=
  { el with
    pendingCandidates := el.pendingCandidates.filter fun c => el.inWindow referenceAt c.receivedAt
    activeDecision := el.activeDecision.filter fun d => el.decisionIsActive d referenceAt }

def recordCandidate (c : WakeCandidate) : WakeCandidateElection :=
  { el with recentCandidates := (c :: el.recentCandidates).take el.maxRecentCandidates }

def recordDecision (d : WakeElectionDecision) : WakeCandidateElection :=
  { el with recentDecisions := (d :: el.recentDecisions).take el.maxRecentDecisions }

/-- The decision against the active one: the candidate is added to those the active
decision was taken over. -/
def decideAgainst (active : WakeElectionDecision) (candidate : WakeCandidate) :
    WakeElectionDecision :=
  let candidates := active.candidates ++ [candidate]
  let winner := chooseWinner candidates
  let accepted := sameCandidate (some candidate) winner
  let replaced := if accepted && !sameCandidate winner active.winner then active.winner else none
  { electionId := active.electionId
    accepted
    reason :=
      if replaced.isSome then .winnerReplaced
      else if accepted then .winnerConfirmed else .standDownExistingWinner
    candidate := some candidate
    winner
    candidates
    decidedAt := candidate.receivedAt
    replacedWinner := replaced }

/-- The decision that opens an election, over the pending candidates. -/
def decidePending (pending : List WakeCandidate) (candidate : WakeCandidate) (uuid : ℕ) :
    WakeElectionDecision :=
  let winner := chooseWinner pending
  let accepted := sameCandidate (some candidate) winner
  { electionId := uuid
    accepted
    reason := if accepted then .winnerSelected else .standDownLowerRank
    candidate := some candidate
    winner
    candidates := pending
    decidedAt := candidate.receivedAt }

/-- `_submit_candidate`: `uuid` is the draw for the id of an election it opens. -/
def submitCandidate (candidate : WakeCandidate) (uuid : ℕ) :
    WakeElectionDecision × WakeCandidateElection :=
  let el := (el.expirePending candidate.receivedAt).recordCandidate candidate
  match el.activeDecision.filter fun d => el.decisionIsActive d candidate.receivedAt with
  | some active =>
    let decision := decideAgainst active candidate
    let el := if decision.accepted then { el with activeDecision := some decision } else el
    (decision, el.recordDecision decision)
  | none =>
    let el := { el with pendingCandidates := el.pendingCandidates ++ [candidate] }
    let decision := decidePending el.pendingCandidates candidate uuid
    let el := if decision.accepted then { el with activeDecision := some decision } else el
    (decision, el.recordDecision decision)

/-- `decide_candidates`: `now` is the reading of the clock for an empty list. -/
def decideCandidates (candidates : List WakeCandidate) (uuid : ℕ) (now : ℤ) :
    WakeElectionDecision × WakeCandidateElection :=
  let ordered := candidates.mergeSort fun a b => decide (a.receivedAt ≤ b.receivedAt)
  let winner := chooseWinner ordered
  let decision : WakeElectionDecision :=
    { electionId := uuid
      accepted := winner.isSome
      reason := if winner.isSome then .winnerSelected else .noCandidates
      candidate := winner
      winner
      candidates := ordered
      decidedAt := (ordered.getLast?.map (·.receivedAt)).getD now }
  (decision, el.recordDecision decision)

/-- Candidates submitted one by one, each with its draw: the decisions, and the election
after them. -/
def submitAll : WakeCandidateElection → List (WakeCandidate × ℕ) →
    List WakeElectionDecision × WakeCandidateElection
  | el, [] => ([], el)
  | el, (c, uuid) :: rest =>
    let (decision, el) := el.submitCandidate c uuid
    let (decisions, el) := submitAll el rest
    (decision :: decisions, el)

end WakeCandidateElection

/-! ### Online and offline -/

namespace WakeCandidateElection

/-- An election as its constructor leaves it. -/
def fresh (windowMs maxRecentCandidates maxRecentDecisions : ℕ) : WakeCandidateElection :=
  { windowMs, maxRecentCandidates, maxRecentDecisions }

/-- What the active decision of election `id` remembers of the candidates `seen`: some of
them, with the leader of all of them. -/
structure Online (el : WakeCandidateElection) (id : ℕ) (seen : List WakeCandidate) : Prop where
  /-- The kept candidates are among those seen, and lead to the same winner. -/
  active : ∃ d, el.activeDecision = some d ∧ d.electionId = id ∧ d.winner = chooseWinner seen ∧
    chooseWinner d.candidates = chooseWinner seen ∧ d.candidates ⊆ seen

@[simp] theorem submitCandidate_windowMs (el : WakeCandidateElection) (c : WakeCandidate)
    (uuid : ℕ) : (el.submitCandidate c uuid).2.windowMs = el.windowMs := by
  simp only [submitCandidate]
  split <;> split_ifs <;> rfl

/-- A candidate that meets an active decision whose winner's window it is in is judged
against that decision. -/
theorem submitCandidate_active {el : WakeCandidateElection} {d : WakeElectionDecision}
    (hd : el.activeDecision = some d) {c : WakeCandidate}
    (hact : el.decisionIsActive d c.receivedAt = true) (uuid : ℕ) :
    (el.submitCandidate c uuid).1 = decideAgainst d c ∧
      (el.submitCandidate c uuid).2.activeDecision =
        some (if (decideAgainst d c).accepted then decideAgainst d c else d) := by
  have hkeep : (el.expirePending c.receivedAt).activeDecision = some d := by
    simp [expirePending, hd, Option.filter, hact]
  have hkeep' : ((el.expirePending c.receivedAt).recordCandidate c).activeDecision = some d := hkeep
  have hact' : ((el.expirePending c.receivedAt).recordCandidate c).decisionIsActive d
      c.receivedAt = true := hact
  simp only [submitCandidate, hkeep', Option.filter, hact', if_true]
  refine ⟨trivial, ?_⟩
  split_ifs
  · rfl
  · exact hkeep'

/-- A decision is accepted exactly when its candidate beats the leader. -/
theorem decideAgainst_accepted {d : WakeElectionDecision} {c w : WakeCandidate}
    (hw : chooseWinner d.candidates = some w) (hid : w.candidateId ≠ c.candidateId) :
    (decideAgainst d c).accepted = true ↔ w.rankKey < c.rankKey := by
  simp only [decideAgainst, chooseWinner, sameCandidate]
  by_cases h : w.rankKey < c.rankKey
  · simp [argmax_concat_of_lt hw h, h]
  · simp [argmax_concat_of_not_lt hw h, h, Ne.symm hid]

/-- **The step lemma**: a candidate inside the window, with an id of its own, is accepted
exactly when it outranks everything seen, and the election goes on remembering the leader. -/
theorem Online.submit {el : WakeCandidateElection} {id : ℕ} {seen : List WakeCandidate}
    (h : el.Online id seen) (hne : seen ≠ []) {c : WakeCandidate}
    (hid : ∀ x ∈ seen, x.candidateId ≠ c.candidateId)
    (hwin : ∀ x ∈ seen, el.inWindow c.receivedAt x.receivedAt = true) (uuid : ℕ) :
    let r := el.submitCandidate c uuid
    r.1.electionId = id ∧ r.1.candidate = some c ∧ r.1.winner = chooseWinner (seen ++ [c]) ∧
      (r.1.accepted = true ↔ ∀ x ∈ seen, x.rankKey < c.rankKey) ∧ r.2.Online id (seen ++ [c]) := by
  obtain ⟨d, hd, hdid, hdw, hlead, hsub⟩ := h.active
  obtain ⟨w, hw⟩ : ∃ w, chooseWinner seen = some w := by
    cases hs : chooseWinner seen with
    | none => exact absurd (List.argmax_eq_none.mp hs) hne
    | some w => exact ⟨w, rfl⟩
  have hmem : w ∈ seen := List.argmax_mem hw
  have hact : el.decisionIsActive d c.receivedAt = true := by
    simp only [decisionIsActive, hdw, hw]
    exact hwin w hmem
  obtain ⟨hdec, hel⟩ := submitCandidate_active hd hact uuid
  have hacc := decideAgainst_accepted (d := d) (c := c) (hlead.trans hw) (hid w hmem)
  have hbeats := lt_argmax_iff (c := c) hw
  have hall : chooseWinner (d.candidates ++ [c]) = chooseWinner (seen ++ [c]) :=
    argmax_concat_congr hlead c
  refine ⟨by rw [hdec]; exact hdid, by rw [hdec]; rfl, by rw [hdec]; exact hall,
    by rw [hdec, hacc, hbeats], ⟨?_⟩⟩
  by_cases hlt : w.rankKey < c.rankKey
  · -- the candidate takes the lead: the new decision is kept
    refine ⟨decideAgainst d c, by rw [hel, if_pos (hacc.mpr hlt)], hdid, hall, hall, ?_⟩
    exact List.append_subset.mpr ⟨fun x hx => List.mem_append_left _ (hsub hx), by simp⟩
  · -- turned away, and forgotten: the leader stays
    have hstay : chooseWinner (seen ++ [c]) = some w := argmax_concat_of_not_lt hw hlt
    refine ⟨d, by rw [hel, if_neg (fun h => hlt (hacc.mp h))], hdid, ?_, ?_, ?_⟩
    · rw [hdw, hw, hstay]
    · rw [hlead, hw, hstay]
    · exact fun x hx => List.mem_append_left _ (hsub hx)

/-- The first candidate opens an election and is accepted. -/
theorem fresh_submit (windowMs maxC maxD : ℕ) (c : WakeCandidate) (uuid : ℕ) :
    let r := (fresh windowMs maxC maxD).submitCandidate c uuid
    r.1.electionId = uuid ∧ r.1.candidate = some c ∧ r.1.winner = some c ∧
      r.1.accepted = true ∧ r.2.Online uuid [c] := by
  have hacc : (decidePending [c] c uuid).accepted = true := by
    simp [decidePending, chooseWinner, sameCandidate]
  simp only [submitCandidate, fresh, expirePending, recordCandidate, Option.filter, List.filter,
    List.nil_append, hacc, if_true]
  refine ⟨rfl, rfl, rfl, trivial, ⟨decidePending [c] c uuid, rfl, rfl, rfl, rfl, ?_⟩⟩
  exact fun x hx => hx

/-- **The run lemma**: what `Online.submit` says of one candidate, of all of them in turn. -/
theorem Online.submitAll {id : ℕ} (rest : List (WakeCandidate × ℕ)) :
    ∀ {el : WakeCandidateElection} {seen : List WakeCandidate}, el.Online id seen → seen ≠ [] →
      ((seen ++ rest.map Prod.fst).map (·.candidateId)).Nodup →
      (∀ x ∈ seen ++ rest.map Prod.fst, ∀ c ∈ rest.map Prod.fst,
        c.receivedAt - x.receivedAt ≤ el.windowMs * 1000) →
      let r := el.submitAll rest
      r.1.length = rest.length ∧ (∀ d ∈ r.1, d.electionId = id) ∧
        (∀ (i : ℕ) (d : WakeElectionDecision) (c : WakeCandidate), r.1[i]? = some d →
          (rest.map Prod.fst)[i]? = some c → d.candidate = some c ∧
            (d.accepted = true ↔ ∀ x ∈ seen ++ (rest.map Prod.fst).take i, x.rankKey < c.rankKey)) ∧
        r.2.Online id (seen ++ rest.map Prod.fst) ∧
        (∀ d ∈ r.1.getLast?, d.winner = chooseWinner (seen ++ rest.map Prod.fst)) := by
  induction rest with
  | nil =>
    intro el seen h hne _ _
    refine ⟨rfl, by simp [WakeCandidateElection.submitAll], by simp, ?_, by
      simp [WakeCandidateElection.submitAll]⟩
    simpa [WakeCandidateElection.submitAll] using h
  | cons cu rest ih =>
    obtain ⟨c, uuid⟩ := cu
    intro el seen h hne hnodup hwin
    have hid : ∀ x ∈ seen, x.candidateId ≠ c.candidateId := by
      intro x hx heq
      rw [List.map_append, List.nodup_append] at hnodup
      exact hnodup.2.2 _ (List.mem_map_of_mem hx) _ (by simp) heq
    have hin : ∀ x ∈ seen, el.inWindow c.receivedAt x.receivedAt = true := by
      intro x hx
      simpa [inWindow] using hwin x (List.mem_append_left _ hx) c (by simp)
    obtain ⟨h1, h2, h3, h4, h5⟩ := h.submit hne hid hin uuid
    have happ : seen ++ List.map Prod.fst ((c, uuid) :: rest) =
        (seen ++ [c]) ++ rest.map Prod.fst := by simp
    rw [happ] at hnodup hwin ⊢
    obtain ⟨k1, k2, k3, k4, k5⟩ := ih h5 (by simp) hnodup (by
      intro x hx y hy
      simpa using hwin x hx y (by simp; right; simpa using hy))
    refine ⟨by simpa [WakeCandidateElection.submitAll] using k1, ?_, ?_, k4, ?_⟩
    · intro d hd
      rcases List.mem_cons.mp hd with rfl | hd
      · exact h1
      · exact k2 d hd
    · intro i d c' hd hc'
      cases i with
      | zero =>
        obtain rfl : _ = d := by simpa [WakeCandidateElection.submitAll] using hd
        obtain rfl : c = c' := by simpa using hc'
        exact ⟨h2, by simpa using h4⟩
      | succ i =>
        have := k3 i d c' (by simpa [WakeCandidateElection.submitAll] using hd) (by simpa using hc')
        simpa using this
    · intro d hd
      simp only [WakeCandidateElection.submitAll, List.getLast?_cons, Option.mem_def,
        Option.some.injEq] at hd
      cases hlast : ((el.submitCandidate c uuid).2.submitAll rest).1.getLast? with
      | some d' =>
        rw [hlast] at hd
        obtain rfl : d' = d := by simpa using hd
        exact k5 d' hlast
      | none =>
        -- the last candidate is `c` itself
        have hnil : rest = [] := by
          have := List.getLast?_eq_none_iff.mp hlast
          rw [this] at k1
          exact List.length_eq_zero_iff.mp k1.symm
        rw [hlast] at hd
        obtain rfl : (el.submitCandidate c uuid).1 = d := by simpa using hd
        subst hnil
        simpa using h3

/-- **Online election equals offline election.** -/
theorem submitAll_election (windowMs maxC maxD : ℕ) (first : WakeCandidate) (uuid₀ : ℕ)
    (rest : List (WakeCandidate × ℕ)) (uuid : ℕ) (now : ℤ)
    (hid : ((first :: rest.map Prod.fst).map (·.candidateId)).Nodup)
    (horder : (first :: rest.map Prod.fst).Pairwise fun a b => a.receivedAt ≤ b.receivedAt)
    (hwin : ∀ c ∈ rest.map Prod.fst, c.receivedAt - first.receivedAt ≤ windowMs * 1000) :
    let cs := first :: rest.map Prod.fst
    let r := (fresh windowMs maxC maxD).submitAll ((first, uuid₀) :: rest)
    r.1.length = cs.length ∧ (∀ d ∈ r.1, d.electionId = uuid₀) ∧
      (∀ d ∈ r.1.head?, d.accepted = true) ∧
      (∀ (i : ℕ) (d : WakeElectionDecision) (c : WakeCandidate), r.1[i]? = some d →
        cs[i]? = some c → d.candidate = some c ∧
          (d.accepted = true ↔ ∀ x ∈ cs.take i, x.rankKey < c.rankKey)) ∧
      (∀ d ∈ r.1.getLast?, d.winner = (r.2.decideCandidates cs uuid now).1.winner) ∧
      (∃ d, r.2.activeDecision = some d ∧
        d.winner = (r.2.decideCandidates cs uuid now).1.winner) := by
  intro cs
  obtain ⟨h1, h2, h3, h4, h5⟩ := fresh_submit windowMs maxC maxD first uuid₀
  have hspread : ∀ x ∈ [first] ++ rest.map Prod.fst, ∀ c ∈ rest.map Prod.fst,
      c.receivedAt - x.receivedAt ≤ windowMs * 1000 := by
    intro x hx c hc
    have hfirst : first.receivedAt ≤ x.receivedAt := by
      rcases List.mem_cons.mp hx with rfl | hx
      · exact le_rfl
      · exact (List.pairwise_cons.mp horder).1 x hx
    have := hwin c hc
    omega
  obtain ⟨k1, k2, k3, k4, k5⟩ := h5.submitAll rest (by simp) hid (by
    simpa [fresh] using hspread)
  have hoffline : ∀ el : WakeCandidateElection,
      (el.decideCandidates cs uuid now).1.winner = chooseWinner cs := by
    intro el
    have : cs.mergeSort (fun a b => decide (a.receivedAt ≤ b.receivedAt)) = cs :=
      List.mergeSort_of_pairwise (horder.imp fun h => by simpa using h)
    simp only [decideCandidates, this]
  refine ⟨?_, ?_, ?_, ?_, ?_, ?_⟩
  · simpa [WakeCandidateElection.submitAll, cs] using k1
  · intro d hd
    rcases List.mem_cons.mp hd with rfl | hd
    · exact h1
    · exact k2 d hd
  · intro d hd
    obtain rfl : _ = d := by simpa [WakeCandidateElection.submitAll] using hd
    exact h4
  · intro i d c hd hc
    cases i with
    | zero =>
      obtain rfl : _ = d := by simpa [WakeCandidateElection.submitAll] using hd
      obtain rfl : first = c := by simpa [cs] using hc
      exact ⟨h2, by simpa using h4⟩
    | succ i =>
      have := k3 i d c (by simpa [WakeCandidateElection.submitAll] using hd)
        (by simpa [cs] using hc)
      simpa [cs] using this
  · intro d hd
    rw [hoffline]
    simp only [WakeCandidateElection.submitAll, List.getLast?_cons, Option.mem_def,
      Option.some.injEq] at hd
    cases hlast : (((fresh windowMs maxC maxD).submitCandidate first uuid₀).2.submitAll
        rest).1.getLast? with
    | some d' =>
      rw [hlast] at hd
      obtain rfl : d' = d := by simpa using hd
      exact k5 d' hlast
    | none =>
      have hnil : rest = [] := by
        rw [List.getLast?_eq_none_iff.mp hlast] at k1
        exact List.length_eq_zero_iff.mp k1.symm
      subst hnil
      rw [hlast] at hd
      obtain rfl : _ = d := by simpa using hd
      exact h3
  · obtain ⟨d, hd, -, hdw, -⟩ := k4.active
    exact ⟨d, hd, by rw [hoffline, hdw]; rfl⟩

/-- Two endpoints that heard one wake word 20 ms apart, the second with the better score. -/
theorem submitAll_election_pair :
    let a : WakeCandidate :=
      { endpointId := "esp-box-1", sessionId := "s1", source := "endpoint_micro_wake_word",
        confidence := some (1 / 2), receivedAt := 0, candidateId := 1 }
    let b : WakeCandidate :=
      { endpointId := "esp-pe-1", sessionId := "s2", source := "endpoint_micro_wake_word",
        confidence := some (3 / 4), receivedAt := 20000, candidateId := 2 }
    ∃ d, (((fresh 250 50 20).submitAll [(a, 10), (b, 11)]).2).activeDecision = some d ∧
      d.winner = (((fresh 250 50 20).submitAll [(a, 10), (b, 11)]).2.decideCandidates
        [a, b] 12 0).1.winner := by
  intro a b
  exact (submitAll_election 250 50 20 a 10 [(b, 11)] 12 0 (by decide)
    (by decide) (by decide)).2.2.2.2.2

end WakeCandidateElection

end HexeVoice.Voice
