import HexeVoice.Library.Frame
import HexeVoice.Timers.Ownership

/-!
# Reconciled timers

A node confirms a timer under an id of its own: the record of `timer.create_succeeded` that is due
at about the same time gives way to the confirmed one.

## What is proved

**`live_timers_kept`**: in a run without a confirmation of a known timer next to another that is not
confirmed, and without a second creation of a confirmed one, no other record changes with a
known timer, at most one unconfirmed record gives way to a new one, and a timer stays selectable
until it stops, moves, expires or gives way.

`confirmation_drops_neighbour`: the code looks for a record to replace also when the timer is known.
-/

namespace HexeVoice.Timers

open HexeVoice.Library

section steps

variable (py : Python) (maxRecords : ℤ)

/-- The timer that an item is applied to. -/
def Item.timer (item : Item) : Option String :=
  if item.timerId py = "" ∨ item.endpointId py = "" then none else some (item.timerId py)

/-- The records after an item. -/
def step (records : Records) (item : Item) : Records :=
  stateAfter (updateOne py maxRecords item) records

/-- The records after an event. -/
def update (records : Records) (event : TimerEvent) : Records :=
  stateAfter (updateFromEvent py maxRecords event) records

/-- The items before the first that raises, which changes nothing. -/
def reached : Records → List Item → List Item
  | _, [] => []
  | records, item :: items =>
    match updateOne py maxRecords item records with
    | .ok _ records => item :: reached records items
    | .error _ _ => []

/-- The items that the events apply. -/
def applied : Records → List TimerEvent → List Item
  | _, [] => []
  | records, event :: events =>
    reached py maxRecords records (event.items py) ++
      applied (update py maxRecords records event) events

/-- The item does not raise. -/
def Goes (records : Records) (item : Item) : Prop :=
  ∃ updated s, updateOne py maxRecords item records = .ok updated s

variable {py maxRecords} {records : Records} {item : Item}

/-- The record names what the item names. -/
theorem Item.record_eq {existing : Option TimerOwnerRecord} {record : TimerOwnerRecord}
    (h : item.record py existing = .ok record) :
    record.timerId = item.timerId py ∧ record.endpointId = item.endpointId py ∧
      record.state = timerStateFromEvent py item.eventType item.data ∧
      record.lastEventType = item.eventType ∧
      (item.eventType ≠ createSucceeded → record.dueAt = item.dueAt py existing) := by
  simp only [Item.record, bind, Except.bind, pure, Except.pure] at h
  split at h
  · cases h
  · split at h
    · next huntimed =>
      split at h
      · cases h
      · cases h
        refine ⟨rfl, rfl, rfl, rfl, ?_⟩
        intro hne
        exact absurd huntimed.1 hne
    · cases h
      refine ⟨rfl, rfl, rfl, rfl, ?_⟩
      intro _
      dsimp only

theorem updateOne_eq (records : Records) (item : Item) :
    updateOne py maxRecords item records =
      if item.timerId py = "" ∨ item.endpointId py = "" then .ok [] records
      else
        match item.record py (records.get (item.timerId py)) with
        | .error error => .error error records
        | .ok record => .ok [record] (trim maxRecords
            ((if item.eventType = createSucceeded then records
              else removeMatchingProvisional py records record).set (item.timerId py) record)) := by
  unfold updateOne
  by_cases hnamed : item.timerId py = "" ∨ item.endpointId py = ""
  · simp only [if_pos hnamed]
    rfl
  · simp only [if_neg hnamed, bind, EStateM.bind, get, getThe, MonadStateOf.get, EStateM.get]
    cases hrecord : item.record py (records.get (item.timerId py)) with
    | error error => rfl
    | ok record =>
      by_cases hcreate : item.eventType = createSucceeded
      · simp only [if_pos hcreate, if_neg (not_not.mpr hcreate)]
        rfl
      · simp only [if_neg hcreate, if_pos hcreate]
        rfl

theorem updateOne_error {error : PyException} {s : Records}
    (h : updateOne py maxRecords item records = .error error s) : s = records := by
  rw [updateOne_eq] at h
  split at h
  · cases h
  · split at h
    · cases h
      rfl
    · cases h

theorem run_reached (records : Records) (items : List Item) :
    stateAfter (updateAll py maxRecords items) records =
      run (step py maxRecords) records (reached py maxRecords records items) := by
  induction items generalizing records with
  | nil => rfl
  | cons item items ih =>
    cases h : updateOne py maxRecords item records with
    | error error s =>
      have hs := updateOne_error h
      simp [reached, h, updateAll, stateAfter, bind, EStateM.bind, hs]
    | ok updated s =>
      have := ih s
      simp only [reached, h, run_cons, step, stateAfter, updateAll, bind, EStateM.bind] at this ⊢
      rw [← this]
      cases updateAll py maxRecords items s <;> rfl

/-- The records after the events are those after their items. -/
theorem run_applied (records : Records) (events : List TimerEvent) :
    run (update py maxRecords) records events =
      run (step py maxRecords) records (applied py maxRecords records events) := by
  induction events generalizing records with
  | nil => rfl
  | cons event events ih =>
    rw [run_cons, ih, applied, run_append, ← run_reached]
    rfl

theorem goes_reached (records : Records) (items : List Item) :
    AllSteps (step py maxRecords) (Goes py maxRecords) records
      (reached py maxRecords records items) := by
  induction items generalizing records with
  | nil => trivial
  | cons item items ih =>
    cases h : updateOne py maxRecords item records with
    | error error s => simp [reached, h]
    | ok updated s =>
      have := ih s
      simp only [reached, h, allSteps_cons, step, stateAfter]
      exact ⟨⟨updated, s, h⟩, this⟩

/-- No item that is applied raises. -/
theorem goes_applied (records : Records) (events : List TimerEvent) :
    AllSteps (step py maxRecords) (Goes py maxRecords) records
      (applied py maxRecords records events) := by
  induction events generalizing records with
  | nil => trivial
  | cons event events ih =>
    rw [applied, allSteps_append]
    refine ⟨goes_reached records _, ?_⟩
    rw [← run_reached]
    exact ih _

/-- What an item does: it names no timer, or sets its record. -/
theorem step_cases (records : Records) (item : Item) (hgoes : Goes py maxRecords records item) :
    item.timer py = none ∧ step py maxRecords records item = records ∨
      ∃ record, item.timer py = some (item.timerId py) ∧
        item.record py (records.get (item.timerId py)) = .ok record ∧
        step py maxRecords records item =
          trim maxRecords ((if item.eventType = createSucceeded then records
            else removeMatchingProvisional py records record).set (item.timerId py) record) := by
  unfold step stateAfter
  obtain ⟨updated, s, hgoes⟩ := hgoes
  rw [updateOne_eq] at hgoes ⊢
  by_cases hnamed : item.timerId py = "" ∨ item.endpointId py = ""
  · exact .inl ⟨if_pos hnamed, by rw [if_pos hnamed]⟩
  · rw [if_neg hnamed] at hgoes ⊢
    cases hrecord : item.record py (records.get (item.timerId py)) with
    | error error =>
      rw [hrecord] at hgoes
      cases hgoes
    | ok record => exact .inr ⟨record, if_neg hnamed, rfl, rfl⟩

/-- A record that gives way is another one of the endpoint, last reported by
`timer.create_succeeded`, and due within half a minute. -/
theorem removeMatchingProvisional_cases (records : Records) (record : TimerOwnerRecord) :
    removeMatchingProvisional py records record = records ∨
      ∃ timerId candidate dueAt candidateDue, (timerId, candidate) ∈ records.entries ∧
        timerId ≠ record.timerId ∧ candidate.endpointId = record.endpointId ∧
        candidate.lastEventType = createSucceeded ∧
        parseEventDatetime py record.dueAt = some dueAt ∧
        parseEventDatetime py candidate.dueAt = some candidateDue ∧
        (candidateDue.utc - dueAt.utc).natAbs ≤ 30000000 ∧
        removeMatchingProvisional py records record = records.erase timerId := by
  unfold removeMatchingProvisional
  split
  · exact .inl rfl
  · next dueAt hdue =>
    split
    · exact .inl rfl
    · next difference timerId hnearest =>
      split
      · next hle =>
        have hmem := List.mem_of_head? hnearest
        rw [List.mem_insertionSort] at hmem
        obtain ⟨⟨k, candidate⟩, hentry, hcandidate⟩ := List.mem_filterMap.mp hmem
        dsimp only at hcandidate
        split at hcandidate
        · cases hcandidate
        · next hthis =>
          obtain ⟨candidateDue, hcandidateDue, hpair⟩ := Option.map_eq_some_iff.mp hcandidate
          obtain ⟨rfl, rfl⟩ := Prod.mk.inj hpair
          simp only [not_or, not_not] at hthis
          exact .inr ⟨_, candidate, dueAt, candidateDue, hentry, hthis.1, hthis.2.1, hthis.2.2, hdue,
            hcandidateDue, hle, rfl⟩
      · exact .inl rfl

end steps

/-! ### What is asked and what is kept -/

section claims

variable (py : Python) (maxRecords : ℤ)

/-- The timers that the items name. -/
def timers (items : List Item) : Finset String := (items.filterMap (·.timer py)).toFinset

/-- The records after the items. -/
def recordsAfter (items : List Item) : Records := run (step py maxRecords) Dict.empty items

/-- The timer was entered by `timer.create_succeeded`, and nothing else has reported it since. -/
def Unmatched (items : List Item) (timer : String) : Prop :=
  ∃ earlier birth later, items = earlier ++ birth :: later ∧ birth.timer py = some timer ∧
    birth.eventType = createSucceeded ∧ (recordsAfter py maxRecords earlier).get timer = none ∧
    ∀ item ∈ later, item.timer py = some timer → item.eventType = createSucceeded

/-- The item changes the record of a timer that it does not name. -/
def Drops (records : Records) (item : Item) (other : String) : Prop :=
  item.timer py ≠ some other ∧ (step py maxRecords records item).get other ≠ records.get other

/-- A known timer is confirmed only when no other record of its endpoint that waits for a
confirmation is due within half a minute, and a timer is created only when it is not confirmed. -/
structure Reconciles (records : Records) (item : Item) : Prop where
  confirms : item.eventType ≠ createSucceeded → (records.get (item.timerId py)).isSome →
    ∀ dueAt ∈ parseEventDatetime py (item.dueAt py (records.get (item.timerId py))),
      ∀ entry ∈ records.entries, entry.1 ≠ item.timerId py →
        entry.2.endpointId = item.endpointId py → entry.2.lastEventType = createSucceeded →
        ∀ entryDue ∈ parseEventDatetime py entry.2.dueAt,
          30000000 < (entryDue.utc - dueAt.utc).natAbs
  creates : item.eventType = createSucceeded →
    ∀ record ∈ records.get (item.timerId py), record.lastEventType = createSucceeded

instance (records : Records) (item : Item) : Decidable (Reconciles py records item) :=
  decidable_of_iff (_ ∧ _) ⟨fun h => ⟨h.1, h.2⟩, fun h => ⟨h.confirms, h.creates⟩⟩

/-- What an item after others keeps. -/
structure KeepsLive (items : List Item) (item : Item) : Prop where
  /-- An item for a known timer changes no other record. -/
  known : ∀ timer, item.timer py = some timer →
    ((recordsAfter py maxRecords items).get timer).isSome →
    ∀ other, ¬Drops py maxRecords (recordsAfter py maxRecords items) item other
  /-- A record that is dropped has never been confirmed. -/
  unmatched : ∀ other, Drops py maxRecords (recordsAfter py maxRecords items) item other →
    (recordsAfter py maxRecords (items ++ [item])).get other = none ∧
      Unmatched py maxRecords items other
  /-- At most one record is dropped. -/
  one : ∀ other other', Drops py maxRecords (recordsAfter py maxRecords items) item other →
    Drops py maxRecords (recordsAfter py maxRecords items) item other' → other = other'

/-- The timer is one that `select_timer` chooses from. -/
def Selectable (records : Records) (endpointId : String) (now : ℤ) (timer : String) : Prop :=
  ∃ record ∈ (selectTimer py records endpointId now).candidates, record.timerId = timer

/-- The record of the timer is not one that waits for a confirmation. -/
def Confirmed (records : Records) (timer : String) : Prop :=
  ∃ record, records.get timer = some record ∧ record.lastEventType ≠ createSucceeded

/-- Of the items that follow others, those for the timer leave it running at the endpoint, and one
for a new timer comes only when the timer is confirmed. -/
structure Runs (items more : List Item) (endpointId timer : String) : Prop where
  own : ∀ item ∈ more, item.timer py = some timer → item.endpointId py = strip endpointId ∧
    isActiveTimerState py (timerStateFromEvent py item.eventType item.data) = true
  others : ∀ earlier item later, more = earlier ++ item :: later → ∀ other,
    item.timer py = some other → (recordsAfter py maxRecords (items ++ earlier)).get other = none →
    Confirmed (recordsAfter py maxRecords (items ++ earlier)) timer

end claims

/-! ### The records of a run -/

section run

variable {py : Python} {maxRecords : ℤ} {items : List Item} {item : Item} {records : Records}

theorem recordsAfter_concat :
    recordsAfter py maxRecords (items ++ [item]) =
      step py maxRecords (recordsAfter py maxRecords items) item := by
  simp [recordsAfter, run_append]

theorem timers_subset_append {more : List Item} : timers py items ⊆ timers py (items ++ more) := by
  intro timer h
  simp only [timers, List.mem_toFinset, List.filterMap_append, List.mem_append] at h ⊢
  exact .inl h

theorem few_of_append {more : List Item}
    (hfew : ((timers py (items ++ more)).card : ℤ) < maxRecords) :
    ((timers py items).card : ℤ) < maxRecords := by
  refine lt_of_le_of_lt ?_ hfew
  exact_mod_cast Finset.card_le_card timers_subset_append

theorem mem_timers_concat {timer : String} (h : item.timer py = some timer) :
    timer ∈ timers py (items ++ [item]) := by
  simp [timers, h]

/-- What holds of the records after the items. -/
structure Sound (py : Python) (maxRecords : ℤ) (items : List Item) (records : Records) : Prop where
  nodup : records.keys.Nodup
  named : ∀ timer ∈ records.keys, timer ∈ timers py items
  keyed : ∀ timer record, records.get timer = some record → record.timerId = timer
  unmatched : ∀ timer record, records.get timer = some record →
    record.lastEventType = createSucceeded → Unmatched py maxRecords items timer

theorem trim_eq_self (hnodup : records.keys.Nodup)
    (hnamed : ∀ timer ∈ records.keys, timer ∈ timers py items)
    (hfew : ((timers py items).card : ℤ) < maxRecords) : trim maxRecords records = records := by
  have hcard : records.entries.length ≤ (timers py items).card := by
    have hlength : records.keys.toFinset.card = records.entries.length := by
      rw [List.toFinset_card_of_nodup hnodup, Dict.keys, List.length_map]
    rw [← hlength]
    exact Finset.card_le_card fun timer h => hnamed timer (List.mem_toFinset.mp h)
  unfold trim
  rw [if_pos (by omega)]

/-- The records beside which an item sets its own. -/
def beside (py : Python) (records : Records) (item : Item) (record : TimerOwnerRecord) : Records :=
  if item.eventType = createSucceeded then records else removeMatchingProvisional py records record

theorem keys_beside_sublist (record : TimerOwnerRecord) :
    (beside py records item record).keys.Sublist records.keys := by
  unfold beside
  split
  · exact List.Sublist.refl _
  · rcases removeMatchingProvisional_cases records record with h | ⟨timer, _, _, _, _, _, _, _, _, _, _, h⟩
    · rw [h]
    · rw [h]
      exact Dict.keys_erase_sublist records timer

/-- The record that an item makes a timer give up is no longer than half a minute off. -/
structure GivesWay (py : Python) (records : Records) (item : Item) (other : String)
    (candidate : TimerOwnerRecord) : Prop where
  found : records.get other = some candidate
  ne : other ≠ item.timerId py
  endpoint : candidate.endpointId = item.endpointId py
  created : candidate.lastEventType = createSucceeded
  confirms : item.eventType ≠ createSucceeded
  due : ∃ dueAt candidateDue,
    parseEventDatetime py (item.dueAt py (records.get (item.timerId py))) = some dueAt ∧
      parseEventDatetime py candidate.dueAt = some candidateDue ∧
      (candidateDue.utc - dueAt.utc).natAbs ≤ 30000000

/-- Beside the record of an item stand all others, or all but one that gives way. -/
theorem beside_cases (hnodup : records.keys.Nodup) {record : TimerOwnerRecord}
    (hrecord : item.record py (records.get (item.timerId py)) = .ok record) :
    beside py records item record = records ∨
      ∃ other candidate, GivesWay py records item other candidate ∧
        beside py records item record = records.erase other := by
  obtain ⟨htimer, hendpoint, -, -, hdue⟩ := Item.record_eq hrecord
  unfold beside
  split
  · exact .inl rfl
  · next hconfirms =>
    rcases removeMatchingProvisional_cases records record with
      h | ⟨other, candidate, dueAt, candidateDue, hmem, hne, hat, hcreated, hparse, hparse', hle, h⟩
    · exact .inl h
    · exact .inr ⟨other, candidate, ⟨Dict.get_of_mem hnodup hmem, htimer ▸ hne, hat.trans hendpoint,
        hcreated, hconfirms, dueAt, candidateDue, hdue hconfirms ▸ hparse, hparse', hle⟩, h⟩

theorem Sound.cases (h : Sound py maxRecords items records)
    (hfew : ((timers py (items ++ [item])).card : ℤ) < maxRecords)
    (hgoes : Goes py maxRecords records item) :
    item.timer py = none ∧ step py maxRecords records item = records ∨
      ∃ record, item.timer py = some (item.timerId py) ∧
        item.record py (records.get (item.timerId py)) = .ok record ∧
        step py maxRecords records item =
          (beside py records item record).set (item.timerId py) record := by
  rcases step_cases records item hgoes with hstep | ⟨record, htimer, hrecord, hstep⟩
  · exact .inl hstep
  · refine .inr ⟨record, htimer, hrecord, hstep.trans ?_⟩
    have hsublist : (beside py records item record).keys.Sublist _ := keys_beside_sublist record
    refine @trim_eq_self py maxRecords (items ++ [item]) _
      (Dict.nodup_keys_set (h.nodup.sublist hsublist) _ _) (fun timer hmem => ?_) hfew
    rcases Dict.mem_keys_set.mp hmem with rfl | hmem
    · exact mem_timers_concat htimer
    · exact timers_subset_append (h.named timer (hsublist.subset hmem))

/-- What an item does to the timers that it does not name. -/
theorem Sound.get_step (h : Sound py maxRecords items records)
    (hfew : ((timers py (items ++ [item])).card : ℤ) < maxRecords)
    (hgoes : Goes py maxRecords records item) {other : String}
    (hother : item.timer py ≠ some other) :
    (step py maxRecords records item).get other = records.get other ∨
      ∃ candidate, GivesWay py records item other candidate ∧
        (step py maxRecords records item).get other = none ∧
        item.timer py = some (item.timerId py) ∧
        ∀ other', other' ≠ other → item.timer py ≠ some other' →
          (step py maxRecords records item).get other' = records.get other' := by
  rcases h.cases hfew hgoes with ⟨-, hstep⟩ | ⟨record, htimer, hrecord, hstep⟩
  · exact .inl (by rw [hstep])
  · have hne {k : String} (hk : item.timer py ≠ some k) : k ≠ item.timerId py :=
      fun heq => hk (heq ▸ htimer)
    have hget {k : String} (hk : item.timer py ≠ some k) :
        (step py maxRecords records item).get k = (beside py records item record).get k := by
      rw [hstep, Dict.get_set_of_ne _ _ (hne hk)]
    rcases beside_cases h.nodup hrecord with hbeside | ⟨dropped, candidate, hgives, hbeside⟩
    · exact .inl (by rw [hget hother, hbeside])
    · by_cases heq : other = dropped
      · subst heq
        refine .inr ⟨candidate, hgives, ?_, htimer, fun other' hne' hother' => ?_⟩
        · rw [hget hother, hbeside, Dict.get_erase, if_pos rfl]
        · rw [hget hother', hbeside, Dict.get_erase, if_neg hne']
      · exact .inl (by rw [hget hother, hbeside, Dict.get_erase, if_neg heq])

theorem Unmatched.concat {timer : String} (h : Unmatched py maxRecords items timer)
    (hitem : item.timer py = some timer → item.eventType = createSucceeded) :
    Unmatched py maxRecords (items ++ [item]) timer := by
  obtain ⟨earlier, birth, later, rfl, htimer, hcreated, hnew, hlater⟩ := h
  refine ⟨earlier, birth, later ++ [item], by simp, htimer, hcreated, hnew, fun x hx => ?_⟩
  rcases List.mem_append.mp hx with hx | hx
  · exact hlater x hx
  · rw [List.mem_singleton.mp hx]
    exact hitem

theorem Sound.concat (h : Sound py maxRecords items (recordsAfter py maxRecords items))
    (hfew : ((timers py (items ++ [item])).card : ℤ) < maxRecords)
    (hgoes : Goes py maxRecords (recordsAfter py maxRecords items) item)
    (hmeets : Reconciles py (recordsAfter py maxRecords items) item) :
    Sound py maxRecords (items ++ [item]) (recordsAfter py maxRecords (items ++ [item])) := by
  rw [recordsAfter_concat]
  rcases h.cases hfew hgoes with ⟨htimer, hstep⟩ | ⟨record, htimer, hrecord, hstep⟩
  · rw [hstep]
    exact ⟨h.nodup, fun timer hmem => timers_subset_append (h.named timer hmem), h.keyed,
      fun timer record hget hcreated => (h.unmatched timer record hget hcreated).concat
        fun hnamed => by simp [htimer] at hnamed⟩
  · obtain ⟨hid, -, -, htype, -⟩ := Item.record_eq hrecord
    have hsublist : (beside py (recordsAfter py maxRecords items) item record).keys.Sublist _ :=
      keys_beside_sublist record
    have hkept {timer : String} {kept : TimerOwnerRecord} (hne : timer ≠ item.timerId py)
        (hget : (step py maxRecords (recordsAfter py maxRecords items) item).get timer =
          some kept) : (recordsAfter py maxRecords items).get timer = some kept := by
      have hother : item.timer py ≠ some timer := fun heq => hne (by simpa [htimer] using heq.symm)
      rcases h.get_step hfew hgoes hother with hsame | ⟨_, _, hnone, _, _⟩
      · rw [← hsame, hget]
      · rw [hnone] at hget
        cases hget
    have hself {kept : TimerOwnerRecord}
        (hget : (step py maxRecords (recordsAfter py maxRecords items) item).get
          (item.timerId py) = some kept) : kept = record := by
      rw [hstep, Dict.get_set_self] at hget
      exact (Option.some.inj hget).symm
    refine ⟨?_, fun timer hmem => ?_, fun timer kept hget => ?_, fun timer kept hget hcreated => ?_⟩
    · rw [hstep]
      exact Dict.nodup_keys_set (h.nodup.sublist hsublist) _ _
    · rw [hstep] at hmem
      rcases Dict.mem_keys_set.mp hmem with rfl | hmem
      · exact mem_timers_concat htimer
      · exact timers_subset_append (h.named timer (hsublist.subset hmem))
    · by_cases heq : timer = item.timerId py
      · subst heq
        rw [hself hget, hid]
      · exact h.keyed timer kept (hkept heq hget)
    · by_cases heq : timer = item.timerId py
      · subst heq
        rw [hself hget, htype] at hcreated
        cases hbefore : (recordsAfter py maxRecords items).get (item.timerId py) with
        | none => exact ⟨items, item, [], rfl, htimer, hcreated, hbefore, by simp⟩
        | some existing =>
          exact (h.unmatched _ existing hbefore (hmeets.creates hcreated existing hbefore)).concat
            fun _ => hcreated
      · refine (h.unmatched timer kept (hkept heq hget) hcreated).concat fun hnamed => ?_
        exact absurd (by simpa [htimer] using hnamed.symm) heq

theorem sound_recordsAfter
    (hfew : ((timers py items).card : ℤ) < maxRecords)
    (hgoes : AllSteps (step py maxRecords) (Goes py maxRecords) Dict.empty items)
    (hmeets : AllSteps (step py maxRecords) (Reconciles py) Dict.empty items) :
    Sound py maxRecords items (recordsAfter py maxRecords items) := by
  induction items using List.reverseRecOn with
  | nil =>
    exact ⟨List.nodup_nil, by simp [recordsAfter, Dict.keys, Dict.empty], by simp [recordsAfter],
      by simp [recordsAfter]⟩
  | append_singleton items item ih =>
    rw [allSteps_append] at hgoes hmeets
    exact (ih (few_of_append hfew) hgoes.1 hmeets.1).concat hfew hgoes.2.1 hmeets.2.1

/-- A timer that an item drops gives way to a new one. -/
theorem Sound.of_drops (h : Sound py maxRecords items records)
    (hfew : ((timers py (items ++ [item])).card : ℤ) < maxRecords)
    (hgoes : Goes py maxRecords records item) (hmeets : Reconciles py records item) {other : String}
    (hdrops : Drops py maxRecords records item other) :
    ∃ candidate, GivesWay py records item other candidate ∧
      (step py maxRecords records item).get other = none ∧
      item.timer py = some (item.timerId py) ∧ records.get (item.timerId py) = none ∧
      ∀ other', Drops py maxRecords records item other' → other' = other := by
  rcases h.get_step hfew hgoes hdrops.1 with hsame | ⟨candidate, hgives, hnone, htimer, hrest⟩
  · exact absurd hsame hdrops.2
  · refine ⟨candidate, hgives, hnone, htimer, ?_, fun other' hdrops' => ?_⟩
    · by_contra hknown
      obtain ⟨dueAt, candidateDue, hdue, hcandidate, hle⟩ := hgives.due
      have := hmeets.confirms hgives.confirms (Option.isSome_iff_ne_none.mpr hknown) dueAt hdue
        (other, candidate) (Dict.mem_of_get hgives.found) hgives.ne hgives.endpoint hgives.created
        candidateDue hcandidate
      omega
    · by_contra hne
      exact hdrops'.2 (hrest other' hne hdrops'.1)

theorem Sound.keepsLive (h : Sound py maxRecords items (recordsAfter py maxRecords items))
    (hfew : ((timers py (items ++ [item])).card : ℤ) < maxRecords)
    (hgoes : Goes py maxRecords (recordsAfter py maxRecords items) item)
    (hmeets : Reconciles py (recordsAfter py maxRecords items) item) :
    KeepsLive py maxRecords items item where
  known timer htimer hknown other hdrops := by
    obtain ⟨_, _, _, htimer', hnew, _⟩ := h.of_drops hfew hgoes hmeets hdrops
    rw [htimer', Option.some.injEq] at htimer
    rw [← htimer, hnew] at hknown
    cases hknown
  unmatched other hdrops := by
    obtain ⟨candidate, hgives, hnone, _, _, _⟩ := h.of_drops hfew hgoes hmeets hdrops
    exact ⟨recordsAfter_concat ▸ hnone, h.unmatched other candidate hgives.found hgives.created⟩
  one other other' hdrops hdrops' := by
    obtain ⟨_, _, _, _, _, hone⟩ := h.of_drops hfew hgoes hmeets hdrops'
    exact hone other hdrops

/-- A timer is selectable when its record is active there and has not expired. -/
theorem Sound.selectable_iff (h : Sound py maxRecords items records) {endpointId timer : String}
    {now : ℤ} : Selectable py records endpointId now timer ↔
      ∃ record, records.get timer = some record ∧ record.endpointId = strip endpointId ∧
        isActiveTimerState py record.state = true ∧
        activeTimerRecordExpired py record now = false := by
  have hvalue {record : TimerOwnerRecord} :
      record ∈ records.values ↔ records.get record.timerId = some record := by
    constructor
    · intro hmem
      obtain ⟨⟨k, _⟩, hentry, rfl⟩ := List.mem_map.mp hmem
      have hget := Dict.get_of_mem h.nodup hentry
      rwa [h.keyed k _ hget]
    · exact fun hget => List.mem_map.mpr ⟨_, Dict.mem_of_get hget, rfl⟩
  simp only [Selectable, selectTimer_candidates, activeForEndpoint, List.mem_insertionSort,
    List.mem_filter, hvalue, Bool.and_eq_true, decide_eq_true_eq, Bool.not_eq_true']
  constructor
  · rintro ⟨record, ⟨hget, ⟨hendpoint, hactive⟩, hfresh⟩, rfl⟩
    exact ⟨record, hget, hendpoint, hactive, hfresh⟩
  · rintro ⟨record, hget, hendpoint, hactive, hfresh⟩
    have hid := h.keyed timer record hget
    exact ⟨record, ⟨hid ▸ hget, ⟨hendpoint, hactive⟩, hfresh⟩, hid⟩

/-- A timer that runs stays active at the endpoint. -/
theorem active_of_runs {more : List Item} {endpointId timer : String}
    (hfew : ((timers py (items ++ more)).card : ℤ) < maxRecords)
    (hgoes : AllSteps (step py maxRecords) (Goes py maxRecords) Dict.empty (items ++ more))
    (hmeets : AllSteps (step py maxRecords) (Reconciles py) Dict.empty (items ++ more))
    (hruns : Runs py maxRecords items more endpointId timer)
    (hactive : ∃ record, (recordsAfter py maxRecords items).get timer = some record ∧
      record.endpointId = strip endpointId ∧ isActiveTimerState py record.state = true) :
    ∃ record, (recordsAfter py maxRecords (items ++ more)).get timer = some record ∧
      record.endpointId = strip endpointId ∧ isActiveTimerState py record.state = true := by
  induction more using List.reverseRecOn with
  | nil => simpa using hactive
  | append_singleton more item ih =>
    rw [← List.append_assoc] at hfew hgoes hmeets ⊢
    rw [allSteps_append] at hgoes hmeets
    have hruns' : Runs py maxRecords items more endpointId timer :=
      ⟨fun x hx => hruns.own x (List.mem_append_left _ hx), fun earlier x later heq =>
        hruns.others earlier x (later ++ [item]) (by simp [heq])⟩
    obtain ⟨record, hget, hendpoint, hstate⟩ := ih (few_of_append hfew) hgoes.1 hmeets.1 hruns'
    have hsound := sound_recordsAfter (few_of_append hfew) hgoes.1 hmeets.1
    have hgo : Goes py maxRecords (recordsAfter py maxRecords (items ++ more)) item := hgoes.2.1
    rw [recordsAfter_concat]
    by_cases hown : item.timer py = some timer
    · rcases hsound.cases hfew hgo with ⟨hnone, -⟩ | ⟨record', htimer, hrecord, hstep⟩
      · rw [hown] at hnone
        cases hnone
      · obtain ⟨hat, hrunning⟩ := hruns.own item (by simp) hown
        obtain ⟨-, hendpoint', hstate', -, -⟩ := Item.record_eq hrecord
        rw [htimer, Option.some.injEq] at hown
        refine ⟨record', ?_, hendpoint'.trans hat, hstate' ▸ hrunning⟩
        rw [hstep, hown, Dict.get_set_self]
    · refine ⟨record, ?_, hendpoint, hstate⟩
      by_contra hne
      rw [← hget] at hne
      obtain ⟨candidate, hgives, _, htimer, hnew, _⟩ :=
        hsound.of_drops hfew hgo hmeets.2.1 ⟨hown, hne⟩
      obtain ⟨record', hget', hconfirmed⟩ := hruns.others more item [] rfl _ htimer hnew
      rw [hgives.found, Option.some.injEq] at hget'
      exact hconfirmed (hget' ▸ hgives.created)

end run

/-! ### Every run -/

/-- **Every item of the run keeps the live timers**, and a timer that runs stays selectable until it
expires. -/
theorem live_timers_kept (py : Python) (maxRecords : ℤ) (events : List TimerEvent)
    (hfew : ((timers py (applied py maxRecords Dict.empty events)).card : ℤ) < maxRecords)
    (hmeets : AllSteps (step py maxRecords) (Reconciles py) Dict.empty
      (applied py maxRecords Dict.empty events)) :
    run (update py maxRecords) Dict.empty events =
      recordsAfter py maxRecords (applied py maxRecords Dict.empty events) ∧
    (∀ before item after, applied py maxRecords Dict.empty events = before ++ item :: after →
      KeepsLive py maxRecords before item) ∧
    ∀ before more after, applied py maxRecords Dict.empty events = before ++ more ++ after →
      ∀ endpointId timer now now',
        Selectable py (recordsAfter py maxRecords before) endpointId now timer →
        Runs py maxRecords before more endpointId timer →
        (∀ record, (recordsAfter py maxRecords (before ++ more)).get timer = some record →
          activeTimerRecordExpired py record now' = false) →
        Selectable py (recordsAfter py maxRecords (before ++ more)) endpointId now' timer := by
  have hgoes := @goes_applied py maxRecords Dict.empty events
  have hprefix (before after : List Item)
      (heq : applied py maxRecords Dict.empty events = before ++ after) :
      ((timers py before).card : ℤ) < maxRecords ∧
        AllSteps (step py maxRecords) (Goes py maxRecords) Dict.empty before ∧
        AllSteps (step py maxRecords) (Reconciles py) Dict.empty before := by
    rw [heq] at hfew hgoes hmeets
    rw [allSteps_append] at hgoes hmeets
    exact ⟨few_of_append hfew, hgoes.1, hmeets.1⟩
  refine ⟨run_applied Dict.empty events, fun before item after heq => ?_,
    fun before more after heq endpointId timer now now' hselectable hruns hfresh => ?_⟩
  · obtain ⟨hfew', hgoes', hmeets'⟩ := hprefix (before ++ [item]) after (by simp [heq])
    obtain ⟨hfewBefore, hgoesBefore, hmeetsBefore⟩ := hprefix before (item :: after) heq
    rw [allSteps_append] at hgoes' hmeets'
    exact (sound_recordsAfter hfewBefore hgoesBefore hmeetsBefore).keepsLive hfew' hgoes'.2.1
      hmeets'.2.1
  · obtain ⟨hfew', hgoes', hmeets'⟩ := hprefix (before ++ more) after heq
    obtain ⟨hfewBefore, hgoesBefore, hmeetsBefore⟩ := hprefix before (more ++ after) (by simp [heq])
    obtain ⟨record, hget, hendpoint, hactive, -⟩ :=
      (sound_recordsAfter hfewBefore hgoesBefore hmeetsBefore).selectable_iff.mp hselectable
    obtain ⟨record', hget', hendpoint', hactive'⟩ :=
      active_of_runs hfew' hgoes' hmeets' hruns ⟨record, hget, hendpoint, hactive⟩
    exact (sound_recordsAfter hfew' hgoes' hmeets').selectable_iff.mpr
      ⟨record', hget', hendpoint', hactive', hfresh record' hget'⟩

section kitchen

/-- Instants of a run, as texts and in microseconds. -/
private def instants : List (String × ℤ) :=
  [("2026-08-23T22:55:00+00:00", 63923122500000000),
    ("2026-08-23T23:00:00+00:00", 63923122800000000),
    ("2026-08-23T23:00:10+00:00", 63923122810000000),
    ("2026-08-23T23:05:00+00:00", 63923123100000000)]

/-- The built-in functions on the texts of the run. -/
private def kitchenPython : Python where
  chars := .ascii
  repr _ := ""
  lower s := String.ofList (s.toList.flatMap lowerChars)
  int _ := none
  fromisoformat s := (instants.lookup s).map fun wall => ⟨wall, some 0⟩
  isoformat d := ((instants.find? fun instant => utcNow instant.2 = d).map (·.1)).getD ""

/-- An event about a timer of the kitchen. -/
private def kitchenEvent (eventType timerId dueAt : String) : TimerEvent where
  payload := ⟨[("event_type", .str eventType),
    ("data", .obj ⟨[("endpoint_id", .str "kitchen"), ("timer_id", .str timerId),
      ("title", .str "tea"), ("due_at", .str dueAt), ("remaining_seconds", .int 300)]⟩)]⟩
  clock _ := (63923122500000000, 63923122500000000)

private def kitchenRun (dueB : String) : List TimerEvent :=
  [kitchenEvent "timer.create_succeeded" "timer-a" "2026-08-23T23:00:00+00:00",
    kitchenEvent "timer.create_succeeded" "timer-b" dueB,
    kitchenEvent "timer.status_succeeded" "timer-a" "2026-08-23T23:00:00+00:00"]

/-- Two timers that are due five minutes apart. -/
theorem live_timers_kept_kitchen :
    run (update kitchenPython 100) Dict.empty (kitchenRun "2026-08-23T23:05:00+00:00") =
      recordsAfter kitchenPython 100
        (applied kitchenPython 100 Dict.empty (kitchenRun "2026-08-23T23:05:00+00:00")) :=
  (live_timers_kept kitchenPython 100 (kitchenRun "2026-08-23T23:05:00+00:00")
    (by decide +kernel) (by decide +kernel)).1

/-- Two timers are due ten seconds apart; the confirmation of one drops the other. -/
theorem confirmation_drops_neighbour :
    let created :=
      run (update kitchenPython 100) Dict.empty ((kitchenRun "2026-08-23T23:00:10+00:00").take 2)
    let confirmed :=
      run (update kitchenPython 100) Dict.empty (kitchenRun "2026-08-23T23:00:10+00:00")
    ((timers kitchenPython (applied kitchenPython 100 Dict.empty
      (kitchenRun "2026-08-23T23:00:10+00:00"))).card : ℤ) < 100 ∧
    (activeForEndpoint kitchenPython created "kitchen" 63923122500000000).map (·.timerId) =
      ["timer-a", "timer-b"] ∧
    (activeForEndpoint kitchenPython confirmed "kitchen" 63923122500000000).map (·.timerId) =
      ["timer-a"] ∧
    (created.get "timer-b").isSome ∧ confirmed.get "timer-b" = none := by
  decide +kernel

end kitchen

end HexeVoice.Timers
