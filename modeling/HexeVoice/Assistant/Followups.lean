import HexeVoice.Library.Json
import HexeVoice.Library.Machine
import HexeVoice.Voice.Contracts
import Mathlib

/-!
# Open questions

The pending follow-ups of `AssistantTurnService` in `assistant/service.py`.

## The model

A follow-up is kept under its endpoint and under its session. A turn looks one up and then, if an
intent is matched, answers it, drops it or stores another. What the turn matches is a parameter.

## What is proved

**`only_latest_question`**: in a run whose turns neither fall back to a question of another endpoint
nor leave a question behind under another key, the two maps agree, and what is looked up is the
question that the endpoint asked last and that nothing has answered, replaced or dropped since.
-/

namespace HexeVoice.Assistant

open HexeVoice.Library HexeVoice.Voice

variable {e : EndpointId} {k : SessionId} {p : PendingConversationFollowup} {s : Followups}

/-- `PendingConversationFollowup`; instants are in microseconds. -/
structure PendingConversationFollowup where
  endpointId : EndpointId
  sessionId : SessionId
  intentId : String
  command : String
  prompt : String
  yesReplyText : String
  noReplyText : String
  context : JsonObject
  createdAt : ℤ
  expiresAt : ℤ

/-- `is_expired`. -/
def PendingConversationFollowup.isExpired (p : PendingConversationFollowup) (now : ℤ) : Bool :=
  p.expiresAt ≤ now

/-- The follow-up that a matched intent asks with. -/
structure ConversationFollowup where
  required : Bool
  prompt : Option String
  yesReplyText : String
  noReplyText : String
  ttlSeconds : ℤ
  context : JsonObject

/-- What the transition reads of a matched intent. -/
structure MatchedIntent where
  intent : String
  command : String
  conversationFollowup : Option ConversationFollowup

/-- `command in {"voice.confirm.yes", "voice.confirm.no"}`. -/
def isConfirmation (command : String) : Bool :=
  command = "voice.confirm.yes" || command = "voice.confirm.no"

/-- The two maps of the service. -/
structure Followups where
  byEndpoint : Dict EndpointId PendingConversationFollowup := Dict.empty
  bySession : Dict SessionId PendingConversationFollowup := Dict.empty

namespace Followups

/-- `_clear_pending_followup`. -/
def clear (s : Followups) (p : PendingConversationFollowup) : Followups where
  byEndpoint := s.byEndpoint.erase p.endpointId
  bySession := s.bySession.erase p.sessionId

/-- The entry that `_pending_followup` finds. -/
def find (s : Followups) (endpointId : EndpointId) (sessionId : SessionId) :
    Option PendingConversationFollowup :=
  match s.byEndpoint.get endpointId with
  | some p => some p
  | none => if sessionId ≠ "" then s.bySession.get sessionId else none

/-- `_pending_followup`. -/
def pending (s : Followups) (endpointId : EndpointId) (sessionId : SessionId) (now : ℤ) :
    Option PendingConversationFollowup × Followups :=
  match s.find endpointId sessionId with
  | none => (none, s)
  | some p => if p.isExpired now then (none, s.clear p) else (some p, s)

end Followups

/-- The record that `_store_pending_followup` makes. -/
def newFollowup (endpointId : EndpointId) (sessionId : SessionId) (intent : MatchedIntent)
    (followup : ConversationFollowup) (now : ℤ) : PendingConversationFollowup where
  endpointId
  sessionId
  intentId := intent.intent
  command := intent.command
  prompt := strip (followup.prompt.getD "")
  yesReplyText := strip (if followup.yesReplyText = "" then "Okay." else followup.yesReplyText)
  noReplyText :=
    strip (if followup.noReplyText = "" then "Okay, cancelled." else followup.noReplyText)
  context := followup.context
  createdAt := now
  expiresAt :=
    now + max 5 (min (if followup.ttlSeconds = 0 then 30 else followup.ttlSeconds) 300) * 1000000

namespace Followups

/-- `_store_pending_followup`. -/
def store (s : Followups) (p : PendingConversationFollowup) : Followups where
  byEndpoint := s.byEndpoint.set p.endpointId p
  bySession := s.bySession.set p.sessionId p

/-- `_apply_followup_transition`. -/
def applyTransition (s : Followups) (endpointId : EndpointId) (sessionId : SessionId)
    (intent : MatchedIntent) (now : ℤ) : Option PendingConversationFollowup × Followups :=
  if isConfirmation intent.command then
    match s.pending endpointId sessionId now with
    | (some p, s) => (none, s.clear p)
    | (none, s) => (none, s)
  else
    match intent.conversationFollowup with
    | some followup =>
      let p := newFollowup endpointId sessionId intent followup now
      (some p, s.store p)
    | none =>
      match s.pending endpointId sessionId now with
      | (some p, s) => (none, s.clear p)
      | (none, s) => (none, s)

end Followups

/-! ### Turns -/

/-- A turn of an endpoint, or an intent that is invoked: the session it resolves to, which has a
name, its instant, and the intent it matches, if any. -/
structure Turn where
  endpointId : EndpointId
  sessionId : SessionId
  sessionId_ne : sessionId ≠ ""
  now : ℤ
  matched : Option MatchedIntent

variable {turn : Turn}

/-- The follow-up that the turn stores. -/
def Turn.asks (turn : Turn) : Option PendingConversationFollowup :=
  turn.matched.bind fun intent =>
    if isConfirmation intent.command then none
    else intent.conversationFollowup.map fun followup =>
      newFollowup turn.endpointId turn.sessionId intent followup turn.now

theorem Turn.keys_of_asks
    (h : turn.asks = some p) : p.endpointId = turn.endpointId ∧ p.sessionId = turn.sessionId := by
  unfold Turn.asks at h
  obtain ⟨intent, -, h⟩ := Option.bind_eq_some_iff.mp h
  split at h
  · cases h
  · obtain ⟨followup, -, rfl⟩ := Option.map_eq_some_iff.mp h
    exact ⟨rfl, rfl⟩

/-- What a turn does to the maps. -/
def Followups.step (s : Followups) (turn : Turn) : Followups :=
  let s := (s.pending turn.endpointId turn.sessionId turn.now).2
  match turn.matched with
  | none => s
  | some intent => (s.applyTransition turn.endpointId turn.sessionId intent turn.now).2

/-- The question that the endpoint asked last, unless a later intent of its has answered, replaced
or dropped it. -/
def openQuestion (endpointId : EndpointId) (turns : List Turn) :
    Option PendingConversationFollowup :=
  turns.foldl (fun q turn =>
    if turn.endpointId = endpointId ∧ turn.matched.isSome then turn.asks else q) none

theorem openQuestion_append (endpointId : EndpointId) (turns : List Turn) (turn : Turn) :
    openQuestion endpointId (turns ++ [turn]) =
      if turn.endpointId = endpointId ∧ turn.matched.isSome then turn.asks
      else openQuestion endpointId turns := by
  simp [openQuestion, List.foldl_append]

/-! ### The maps agree -/

/-- The two maps hold the same follow-ups, each the open question of its endpoint. -/
structure Agrees (turns : List Turn) (s : Followups) : Prop where
  endpoint : ∀ e p, s.byEndpoint.get e = some p →
    p.endpointId = e ∧ s.bySession.get p.sessionId = some p ∧ openQuestion e turns = some p
  session : ∀ k p, s.bySession.get k = some p →
    p.sessionId = k ∧ s.byEndpoint.get p.endpointId = some p

namespace Agrees

variable {turns : List Turn} {s : Followups} {p : PendingConversationFollowup}

theorem clear (h : Agrees turns s) (hp : s.byEndpoint.get p.endpointId = some p) :
    Agrees turns (s.clear p) := by
  obtain ⟨-, hsession, -⟩ := h.endpoint _ _ hp
  refine ⟨fun e q hq => ?_, fun k q hq => ?_⟩
  · rw [Followups.clear, Dict.get_erase] at hq
    split at hq
    · cases hq
    · next hne =>
      obtain ⟨hendpoint, hkept, hopen⟩ := h.endpoint e q hq
      refine ⟨hendpoint, ?_, hopen⟩
      rw [Followups.clear, Dict.get_erase, if_neg, hkept]
      intro hsame
      rw [hsame, hsession, Option.some.injEq] at hkept
      exact hne (hendpoint ▸ hkept ▸ rfl)
  · rw [Followups.clear, Dict.get_erase] at hq
    split at hq
    · cases hq
    · next hne =>
      obtain ⟨hk, hkept⟩ := h.session k q hq
      refine ⟨hk, ?_⟩
      rw [Followups.clear, Dict.get_erase, if_neg, hkept]
      intro hsame
      rw [hsame, hp, Option.some.injEq] at hkept
      exact hne (hk ▸ hkept ▸ rfl)

/-- A follow-up that is found stands in both maps. -/
theorem of_find (h : Agrees turns s) (hp : s.find e k = some p) :
    s.byEndpoint.get p.endpointId = some p ∧ s.bySession.get p.sessionId = some p := by
  have hboth (hp : s.byEndpoint.get p.endpointId = some p) :
      s.byEndpoint.get p.endpointId = some p ∧ s.bySession.get p.sessionId = some p :=
    ⟨hp, (h.endpoint _ _ hp).2.1⟩
  unfold Followups.find at hp
  split at hp
  · next q hq =>
    obtain rfl : q = p := by simpa using hp
    exact hboth ((h.endpoint _ _ hq).1 ▸ hq)
  · split at hp
    · exact hboth (h.session _ _ hp).2
    · cases hp

theorem pending (h : Agrees turns s) (e : EndpointId) (k : SessionId) (now : ℤ) :
    Agrees turns (s.pending e k now).2 := by
  unfold Followups.pending
  split
  · exact h
  · next p hp =>
    split
    · exact h.clear (h.of_find hp).1
    · exact h

/-- Nothing is open at the endpoint of the turn. -/
theorem closed (h : Agrees turns s) (hnone : s.byEndpoint.get turn.endpointId = none) :
    Agrees (turns ++ [turn]) s := by
  refine ⟨fun e q hq => ?_, h.session⟩
  obtain ⟨hendpoint, hkept, hopen⟩ := h.endpoint e q hq
  refine ⟨hendpoint, hkept, ?_⟩
  rw [openQuestion_append, if_neg, hopen]
  rintro ⟨rfl, -⟩
  rw [hnone] at hq
  cases hq

theorem unmatched (h : Agrees turns s) (hnone : turn.matched = none) :
    Agrees (turns ++ [turn]) s := by
  refine ⟨fun e q hq => ?_, h.session⟩
  obtain ⟨hendpoint, hkept, hopen⟩ := h.endpoint e q hq
  refine ⟨hendpoint, hkept, ?_⟩
  rw [openQuestion_append, if_neg, hopen]
  simp [hnone]

theorem store (h : Agrees turns s) (hasks : turn.asks = some p)
    (hendpoint : p.endpointId = turn.endpointId)
    (hown : ∀ q, s.byEndpoint.get p.endpointId = some q → q.sessionId = p.sessionId)
    (hsession : ∀ q, s.bySession.get p.sessionId = some q → q.endpointId = p.endpointId) :
    Agrees (turns ++ [turn]) (s.store p) := by
  have hmatched : turn.matched.isSome = true := by
    unfold Turn.asks at hasks
    cases hmatched : turn.matched with
    | none => simp [hmatched] at hasks
    | some intent => rfl
  refine ⟨fun e q hq => ?_, fun k q hq => ?_⟩
  · rw [Followups.store, Dict.get_set] at hq
    split at hq
    · next he =>
      obtain rfl : p = q := by simpa using hq
      refine ⟨he.symm, Dict.get_set_self _ _ _, ?_⟩
      rw [openQuestion_append, if_pos ⟨hendpoint.symm.trans he.symm, hmatched⟩, hasks]
    · next he =>
      obtain ⟨hqe, hkept, hopen⟩ := h.endpoint e q hq
      refine ⟨hqe, ?_, ?_⟩
      · rw [Followups.store, Dict.get_set_of_ne, hkept]
        intro hsame
        rw [hsame] at hkept
        exact he (hqe.symm.trans (hsession q hkept))
      · rw [openQuestion_append, if_neg, hopen]
        rintro ⟨hturn, -⟩
        exact he (hturn.symm.trans hendpoint.symm)
  · rw [Followups.store, Dict.get_set] at hq
    split at hq
    · next hk =>
      obtain rfl : p = q := by simpa using hq
      exact ⟨hk.symm, Dict.get_set_self _ _ _⟩
    · next hk =>
      obtain ⟨hqk, hkept⟩ := h.session k q hq
      refine ⟨hqk, ?_⟩
      rw [Followups.store, Dict.get_set_of_ne, hkept]
      intro hsame
      rw [hsame] at hkept
      exact hk (hqk.symm.trans (hown q hkept))

end Agrees

/-! ### Answers -/

namespace Followups

variable {turns : List Turn} {s : Followups}

/-- What a matched intent that asks nothing leaves. -/
def drop (s : Followups) (e : EndpointId) (k : SessionId) (now : ℤ) : Followups :=
  match s.pending e k now with
  | (some p, s) => s.clear p
  | (none, s) => s

theorem applyTransition_eq (s : Followups) (turn : Turn) (intent : MatchedIntent)
    (h : turn.matched = some intent) :
    (s.applyTransition turn.endpointId turn.sessionId intent turn.now).2 =
      match turn.asks with
      | some p => s.store p
      | none => s.drop turn.endpointId turn.sessionId turn.now := by
  unfold applyTransition drop
  cases hconfirm : isConfirmation intent.command with
  | true =>
    simp only [Turn.asks, h, Option.bind_some, hconfirm, if_true]
    split <;> rfl
  | false =>
    cases hfollowup : intent.conversationFollowup with
    | some followup => simp [Turn.asks, h, hconfirm, hfollowup]
    | none =>
      simp only [Turn.asks, h, Option.bind_some, hconfirm, hfollowup, Option.map_none,
        Bool.false_eq_true, if_false]
      split <;> rfl

end Followups

/-- The cases of a lookup: nothing is found, what is found has expired, or it is open. -/
theorem Followups.pending_cases (s : Followups) (e : EndpointId) (k : SessionId) (now : ℤ) :
    (s.find e k = none ∧ s.pending e k now = (none, s)) ∨
    (∃ p, s.find e k = some p ∧ p.isExpired now = true ∧ s.pending e k now = (none, s.clear p)) ∨
    ∃ p, s.find e k = some p ∧ p.isExpired now = false ∧ s.pending e k now = (some p, s) := by
  unfold pending
  cases hfind : s.find e k with
  | none => exact .inl ⟨rfl, rfl⟩
  | some p =>
    cases hexpired : p.isExpired now with
    | true => exact .inr (.inl ⟨p, rfl, hexpired, by simp [hexpired]⟩)
    | false => exact .inr (.inr ⟨p, rfl, hexpired, by simp [hexpired]⟩)

theorem Followups.find_of_get
    (h : s.byEndpoint.get e = some p) : s.find e k = some p := by
  unfold find
  rw [h]

theorem Followups.get_of_find
    (h : s.find e k = some p) (hnone : s.byEndpoint.get e = none) : s.bySession.get k = some p := by
  unfold find at h
  rw [hnone] at h
  dsimp only at h
  split at h
  · exact h
  · cases h

theorem Followups.of_get_clear
    {p q : PendingConversationFollowup} (h : (s.clear p).bySession.get k = some q) :
    k ≠ p.sessionId ∧ s.bySession.get k = some q := by
  rw [clear, Dict.get_erase] at h
  split at h
  · cases h
  · next hne => exact ⟨hne, h⟩

theorem Followups.find_of_none (hk : k ≠ "")
    (hnone : s.byEndpoint.get e = none) : s.find e k = s.bySession.get k := by
  unfold find
  rw [hnone]
  exact if_pos hk

namespace Agrees

variable {turns : List Turn} {s : Followups} {p : PendingConversationFollowup}

/-- What is found and cleared is gone from the endpoint. -/
theorem get_clear (h : Agrees turns s)
    (hp : s.find e k = some p) : (s.clear p).byEndpoint.get e = none := by
  rw [Followups.clear, Dict.get_erase]
  split
  · rfl
  · next hne =>
    cases hget : s.byEndpoint.get e with
    | none => rfl
    | some q =>
      rw [Followups.find_of_get hget, Option.some.injEq] at hp
      exact absurd ((h.endpoint e q hget).1.symm.trans (congrArg _ hp)) hne

theorem drop (h : Agrees turns s) (e : EndpointId) (k : SessionId) (now : ℤ) :
    Agrees turns (s.drop e k now) ∧ (s.drop e k now).byEndpoint.get e = none := by
  unfold Followups.drop
  obtain ⟨hfind, hpending⟩ | ⟨p, hfind, -, hpending⟩ | ⟨p, hfind, -, hpending⟩ :=
    s.pending_cases e k now
  · rw [hpending]
    refine ⟨h, ?_⟩
    by_contra hget
    obtain ⟨p, hp⟩ := Option.ne_none_iff_exists'.mp hget
    rw [Followups.find_of_get hp] at hfind
    cases hfind
  · rw [hpending]
    exact ⟨h.clear (h.of_find hfind).1, h.get_clear hfind⟩
  · rw [hpending]
    exact ⟨h.clear (h.of_find hfind).1, h.get_clear hfind⟩

end Agrees

/-- The turn falls back to no question of another endpoint, and leaves no question behind under
another key. -/
structure Meets (s : Followups) (turn : Turn) : Prop where
  /-- Without an open question of its own, the endpoint finds none of another under its session. -/
  answers : (∀ p, s.byEndpoint.get turn.endpointId = some p → p.isExpired turn.now = true) →
    ∀ q, s.bySession.get turn.sessionId = some q → q.endpointId = turn.endpointId ∨
      q.isExpired turn.now = true ∨
      ((s.byEndpoint.get turn.endpointId).isSome = true ∧ turn.matched = none)
  /-- A question that is asked replaces only one of the same endpoint in the same session. -/
  replaces : turn.asks.isSome = true →
    (∀ p, s.byEndpoint.get turn.endpointId = some p → p.isExpired turn.now = false →
      p.sessionId = turn.sessionId) ∧
    ((s.byEndpoint.get turn.endpointId).isSome = true →
      ∀ q, s.bySession.get turn.sessionId = some q → q.endpointId = turn.endpointId)

/-- What is looked up is the open question of the endpoint, has not expired, and stands in both
maps. -/
def Latest (turns : List Turn) (s : Followups) (e : EndpointId) (k : SessionId) (now : ℤ) : Prop :=
  ∀ p, (s.pending e k now).1 = some p →
    openQuestion e turns = some p ∧ p.isExpired now = false ∧
      s.byEndpoint.get p.endpointId = some p ∧ s.bySession.get p.sessionId = some p

section turn

variable {turns : List Turn} {s : Followups} {turn : Turn}

theorem Agrees.latest {now : ℤ} (h : Agrees turns s)
    (hanswers : s.byEndpoint.get e = none → ∀ q, s.bySession.get k = some q →
      q.isExpired now = true) : Latest turns s e k now := by
  intro p hp
  obtain ⟨-, hpending⟩ | ⟨q, -, -, hpending⟩ | ⟨q, hfind, hopen, hpending⟩ :=
    s.pending_cases e k now
  · simp [hpending] at hp
  · simp [hpending] at hp
  · obtain rfl : q = p := by simpa [hpending] using hp
    obtain ⟨hbyEndpoint, hbySession⟩ := h.of_find hfind
    refine ⟨?_, hopen, hbyEndpoint, hbySession⟩
    cases hget : s.byEndpoint.get e with
    | some r =>
      rw [Followups.find_of_get hget, Option.some.injEq] at hfind
      exact hfind ▸ (h.endpoint e r hget).2.2
    | none =>
      have hexpired := hanswers hget q (Followups.get_of_find hfind hget)
      rw [hopen] at hexpired
      cases hexpired

/-- Without an entry of its own, the endpoint finds only what has expired. -/
theorem Meets.expired_of_none {q : PendingConversationFollowup} (h : Agrees turns s)
    (hmeets : Meets s turn) (hnone : s.byEndpoint.get turn.endpointId = none)
    (hq : s.bySession.get turn.sessionId = some q) : q.isExpired turn.now = true := by
  obtain hown | hexpired | ⟨hsome, -⟩ := hmeets.answers (by simp [hnone]) q hq
  · have := (h.session _ q hq).2
    rw [hown, hnone] at this
    cases this
  · exact hexpired
  · simp [hnone] at hsome

theorem Meets.latest_first (h : Agrees turns s) (hmeets : Meets s turn) :
    Latest turns s turn.endpointId turn.sessionId turn.now := by
  exact h.latest fun hnone q hq => hmeets.expired_of_none h hnone hq

/-- After the first lookup of a turn that asks a question, nothing is left in its way. -/
theorem Meets.room (h : Agrees turns s) (hmeets : Meets s turn) (hasks : turn.asks.isSome = true) :
    (∀ q, (s.pending turn.endpointId turn.sessionId turn.now).2.byEndpoint.get turn.endpointId =
      some q → q.sessionId = turn.sessionId) ∧
    ∀ q, (s.pending turn.endpointId turn.sessionId turn.now).2.bySession.get turn.sessionId =
      some q → q.endpointId = turn.endpointId := by
  obtain ⟨hown, hsession⟩ := hmeets.replaces hasks
  obtain ⟨hfind, hpending⟩ | ⟨p, hfind, -, hpending⟩ | ⟨p, hfind, hopen, hpending⟩ :=
    s.pending_cases turn.endpointId turn.sessionId turn.now <;> rw [hpending]
  · have hnone : s.byEndpoint.get turn.endpointId = none := by
      by_contra hget
      obtain ⟨p, hp⟩ := Option.ne_none_iff_exists'.mp hget
      rw [Followups.find_of_get hp] at hfind
      cases hfind
    rw [Followups.find_of_none turn.sessionId_ne hnone] at hfind
    simp [hnone, hfind]
  · refine ⟨by simp [h.get_clear hfind], fun q hq => ?_⟩
    obtain ⟨hother, hq⟩ := Followups.of_get_clear hq
    cases hget : s.byEndpoint.get turn.endpointId with
    | some r => exact hsession (by simp [hget]) q hq
    | none =>
      have hp := Followups.get_of_find hfind hget
      exact absurd (h.session _ p hp).1.symm hother
  · cases hget : s.byEndpoint.get turn.endpointId with
    | some r =>
      rw [Followups.find_of_get hget, Option.some.injEq] at hfind
      refine ⟨fun q hq => ?_, hsession (by simp [hget])⟩
      obtain rfl : r = q := by simpa [hget] using hq
      exact hown r hget (hfind ▸ hopen)
    | none =>
      have := hmeets.expired_of_none h hget (Followups.get_of_find hfind hget)
      rw [hopen] at this
      cases this

theorem Meets.latest_second (h : Agrees turns s) (hmeets : Meets s turn)
    (hmatched : turn.matched.isSome = true) :
    Latest turns (s.pending turn.endpointId turn.sessionId turn.now).2 turn.endpointId
      turn.sessionId turn.now := by
  refine (h.pending _ _ _).latest ?_
  obtain ⟨-, hpending⟩ | ⟨p, hfind, hexpired, hpending⟩ | ⟨p, -, -, hpending⟩ :=
    s.pending_cases turn.endpointId turn.sessionId turn.now <;> rw [hpending]
  · exact fun hnone q hq => hmeets.expired_of_none h hnone hq
  · intro _ q hq
    obtain ⟨hother, hq⟩ := Followups.of_get_clear hq
    cases hget : s.byEndpoint.get turn.endpointId with
    | some r =>
      rw [Followups.find_of_get hget, Option.some.injEq] at hfind
      have hown : ∀ p, s.byEndpoint.get turn.endpointId = some p →
          p.isExpired turn.now = true := by
        intro p' hp'
        rw [hget, Option.some.injEq] at hp'
        rw [← hp', hfind, hexpired]
      obtain hsame | hq' | ⟨-, hnone⟩ := hmeets.answers hown q hq
      · have hget' := (h.session _ q hq).2
        rw [hsame, hget, hfind, Option.some.injEq] at hget'
        exact absurd (hget' ▸ (h.session _ q hq).1.symm) hother
      · exact hq'
      · simp [hnone] at hmatched
    | none =>
      have hp := Followups.get_of_find hfind hget
      exact absurd (h.session _ p hp).1.symm hother
  · exact fun hnone q hq => hmeets.expired_of_none h hnone hq

theorem Agrees.step (h : Agrees turns s) (hmeets : Meets s turn) :
    Agrees (turns ++ [turn]) (s.step turn) := by
  unfold Followups.step
  have hfirst := h.pending turn.endpointId turn.sessionId turn.now
  dsimp only
  cases hmatched : turn.matched with
  | none => exact hfirst.unmatched hmatched
  | some intent =>
    dsimp only
    rw [Followups.applyTransition_eq _ turn intent hmatched]
    cases hasks : turn.asks with
    | none =>
      obtain ⟨hdropped, hnone⟩ := hfirst.drop turn.endpointId turn.sessionId turn.now
      exact hdropped.closed hnone
    | some p =>
      obtain ⟨hown, hsession⟩ := hmeets.room h (by simp [hasks])
      have hkeys := Turn.keys_of_asks hasks
      exact hfirst.store hasks hkeys.1 (by rw [hkeys.1, hkeys.2]; exact hown)
        (by rw [hkeys.1, hkeys.2]; exact hsession)

end turn

/-- The maps before any turn. -/
def Followups.init : Followups := {}

theorem agrees_run {turns : List Turn} (h : AllSteps Followups.step Meets .init turns) :
    Agrees turns (run Followups.step .init turns) := by
  induction turns using List.reverseRecOn with
  | nil => exact ⟨by simp [Followups.init], by simp [Followups.init]⟩
  | append_singleton turns turn ih =>
    obtain ⟨hturns, hturn, -⟩ := (allSteps_append _ _ _).mp h
    rw [run_append]
    exact (ih hturns).step hturn

/-- **Only the latest open question is answered, once.** -/
theorem only_latest_question (turns : List Turn) (turn : Turn)
    (h : AllSteps Followups.step Meets .init (turns ++ [turn])) :
    let s := run Followups.step .init turns
    Agrees turns s ∧ Latest turns s turn.endpointId turn.sessionId turn.now ∧
      (turn.matched.isSome = true →
        Latest turns (s.pending turn.endpointId turn.sessionId turn.now).2 turn.endpointId
          turn.sessionId turn.now) := by
  obtain ⟨hturns, hturn, -⟩ := (allSteps_append _ _ _).mp h
  have hagrees := agrees_run hturns
  exact ⟨hagrees, hturn.latest_first hagrees, hturn.latest_second hagrees⟩

/-! ### Two sessions -/

/-- A turn of the kitchen in a session. -/
def kitchenTurn (sessionId : SessionId) (hne : sessionId ≠ "") (now : ℤ)
    (matched : Option MatchedIntent) : Turn :=
  ⟨"kitchen", sessionId, hne, now, matched⟩

/-- An intent that asks a question. -/
def asking : MatchedIntent :=
  ⟨"voice.debug.followup", "voice.debug.followup",
    some ⟨true, some "Should I?", "Done.", "Canceled.", 30, Dict.empty⟩⟩

/-- The answer yes. -/
def yes : MatchedIntent := ⟨"voice.confirm.yes", "voice.confirm.yes", none⟩

/-- The question that it asks in the kitchen. -/
def kitchenQuestion (sessionId : SessionId) (now : ℤ) : PendingConversationFollowup :=
  newFollowup "kitchen" sessionId asking
    ⟨true, some "Should I?", "Done.", "Canceled.", 30, Dict.empty⟩ now

theorem only_latest_question_yes :
    Latest [kitchenTurn "s1" (by decide) 0 (some asking)]
      (run Followups.step .init [kitchenTurn "s1" (by decide) 0 (some asking)]) "kitchen" "s1" 1 := by
  have hfirst : Meets .init (kitchenTurn "s1" (by decide) 0 (some asking)) :=
    ⟨by simp [Followups.init], by simp [Followups.init]⟩
  have hsecond : Meets (Followups.init.step (kitchenTurn "s1" (by decide) 0 (some asking)))
      (kitchenTurn "s1" (by decide) 1 (some yes)) := by
    refine ⟨fun hexpired => ?_, fun hasks => Bool.noConfusion hasks⟩
    exact absurd (hexpired (kitchenQuestion "s1" 0) rfl) (by decide)
  exact (only_latest_question [kitchenTurn "s1" (by decide) 0 (some asking)]
    (kitchenTurn "s1" (by decide) 1 (some yes)) ⟨hfirst, hsecond, trivial⟩).2.1

/-- A question is asked in one session and another in a second, where it is answered: the first
question is open again in the first session. -/
theorem replaced_question_returns :
    ¬ ∀ (turns : List Turn) (turn : Turn),
      ((turns ++ [turn]).map (·.now)).Pairwise (· ≤ ·) →
        Latest turns (run Followups.step .init turns) turn.endpointId turn.sessionId turn.now := by
  intro h
  have hlatest := h [kitchenTurn "s1" (by decide) 0 (some asking),
    kitchenTurn "s2" (by decide) 1 (some asking), kitchenTurn "s2" (by decide) 2 (some yes)]
    (kitchenTurn "s1" (by decide) 3 (some yes)) (by decide)
  obtain ⟨hopen, -⟩ := hlatest (kitchenQuestion "s1" 0) rfl
  exact Option.some_ne_none _ hopen.symm

end HexeVoice.Assistant
