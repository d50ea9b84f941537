import HexeVoice.Library.Machine
import HexeVoice.Library.Python
import Mathlib

/-!
# Timer ownership

`TimerOwnershipCache` of `timer_announcements.py`: the timers that other nodes report, and which of
them an endpoint means.

## The model

The records are the cache. An event is applied item by item: it is about each timer of its list, or
about one timer. An exception leaves the records as they are then. `datetime.now(UTC)` is a parameter
of what reads it. Differences of instants are exact, where `total_seconds` rounds those of more
than 270 years.
-/

namespace HexeVoice.Timers

open HexeVoice.Library

structure TimerOwnerRecord where
  timerId : String
  endpointId : String
  ownerNodeId : Option String
  title : Option String
  state : String
  dueAt : Option String
  remainingSeconds : Option ℤ
  remainingText : Option String
  alarmStatus : Option String
  lastEventType : String
  lastEventId : Option String
  lastSeenAt : String
  deriving DecidableEq

abbrev Records := Dict String TimerOwnerRecord

/-- `"timer.create_succeeded"`. -/
abbrev createSucceeded : String := "timer.create_succeeded"

/-- `datetime.now(UTC)`. -/
def utcNow (now : ℤ) : WallTime := ⟨now, some 0⟩

def datetimeMax : ℤ := 3652059 * 86400000000 - 1

/-- `d + timedelta(seconds=seconds)`. -/
def plusSeconds (d : WallTime) (seconds : ℤ) : Except PyException WallTime :=
  let wall := d.wall + seconds * 1000000
  if 0 ≤ wall ∧ wall ≤ datetimeMax then .ok { d with wall } else .error .overflowError

/-! ### Reading an event -/

section reading

variable (py : Python)

def timerStateFromEvent (eventType : String) (data : JsonObject) : String :=
  let explicit := py.lower (strip (py.firstText [data.get "state"]))
  if explicit ≠ "" then explicit
  else if eventType = "timer.completed" then "completed"
  else if startsWith eventType "timer.cancel" then "cancelled"
  else if startsWith eventType "timer.stop" then "stopped"
  else if ["timer.create", "timer.status", "timer.adjust_time"].any (startsWith eventType) then
    "active"
  else "unknown"

def alarmStatusFromEvent (eventType : String) (data : JsonObject) : Option String :=
  let explicit :=
    py.lower (strip (py.firstText [data.get "alarm_status", data.get "playback_state"]))
  if explicit ≠ "" then some explicit
  else if eventType = "timer.completed" then some "pending"
  else none

def isActiveTimerState (state : String) : Bool :=
  py.lower (strip state) ∉ ["", "inactive", "cancelled", "canceled", "cleared", "completed", "done",
    "expired", "none", "not_found", "stopped", "unknown"]

def optionalInt (value : Option Json) : Except PyException (Option ℤ) :=
  match value with
  | none | some .null | some (.str "") => .ok none
  | some value =>
    match py.toInt value with
    | .ok n => .ok (some n)
    | .error .typeError | .error .valueError => .ok none
    | .error error => .error error

def parseEventDatetime (value : Option String) : Option WallTime :=
  (value.bind nonempty).bind fun value =>
    let value := String.ofList (value.toList.flatMap fun c =>
      if c = 'Z' then "+00:00".toList else [c])
    (py.fromisoformat value).map fun parsed =>
      if parsed.offset.isNone then { parsed with offset := some 0 } else parsed

/-- The groups of `(\d+):(\d{2}):(\d{2})`, if the whole text matches. -/
def hhmmssGroups (hhmmss : String) : Option (String × String × String) :=
  match hhmmss.toList.splitOn ':' with
  | [hours, minutes, seconds] =>
    if (hours ++ minutes ++ seconds).all py.chars.isDecimal ∧ hours ≠ [] ∧ minutes.length = 2 ∧
        seconds.length = 2 then
      some (String.ofList hours, String.ofList minutes, String.ofList seconds)
    else none
  | _ => none

/-- `(\d+)\s*(hours?|hrs?|minutes?|mins?|seconds?|secs?)`. -/
def durationPart : Regex :=
  let letters (word : String) : Regex := .word (· = ·) word.toList
  let unit (word : String) : Regex := .seq (letters word) (.alt (letters "s") .empty)
  .seq (.some py.chars.isDecimal) (.seq (.many isPySpace)
    (.oneOf (["hour", "hr", "minute", "min", "second", "sec"].map unit)))

/-- The groups of the matches of `durationPart`. -/
def durationParts (text : String) : List (String × String) :=
  ((durationPart py).findAll py.chars.isWord text.toList).map fun part =>
    (String.ofList (part.takeWhile py.chars.isDecimal),
      String.ofList ((part.dropWhile py.chars.isDecimal).dropWhile isPySpace))

/-- `int(group)`. -/
def intGroup (group : String) : Except PyException ℤ := py.toInt (.str group)

/-- The seconds of a unit. -/
def unitSeconds (unit : String) : ℤ :=
  if startsWith unit "hour" || startsWith unit "hr" then 3600
  else if startsWith unit "minute" || startsWith unit "min" then 60
  else 1

def timerDurationSeconds (data : JsonObject) : Except PyException (Option ℤ) := do
  let durationSeconds ← optionalInt py (data.get "duration_seconds")
  if durationSeconds.any (0 < ·) then return durationSeconds
  match hhmmssGroups py (strip (py.firstText [data.get "duration_hhmmss"])) with
  | some (hours, minutes, seconds) =>
    return some ((← intGroup py hours) * 3600 + (← intGroup py minutes) * 60 +
      (← intGroup py seconds))
  | none =>
    let durationText := py.lower (py.firstText [data.get "duration_text", data.get "title"])
    let parts ← (durationParts py durationText).mapM fun (value, unit) =>
      (· * unitSeconds unit) <$> intGroup py value
    return if parts ≠ [] ∧ 0 < parts.sum then some parts.sum else none

end reading

/-! ### Applying an event -/

/-- What an event says of one timer, and what the clock shows then: for the instant of an event
without one, and for the record. -/
structure Item where
  payload : JsonObject
  data : JsonObject
  eventType : String
  clock : ℤ × ℤ

section applying

variable (py : Python) (maxRecords : ℤ)

/-- `timer_id` in `_update_one`. -/
def Item.timerId (item : Item) : String :=
  strip (py.firstText [item.data.get "timer_id",
    (Json.object (item.payload.get "subject")).get "record_id"])

/-- `endpoint_id` in `_update_one`. -/
def Item.endpointId (item : Item) : String :=
  strip (py.firstText [item.data.get "endpoint_id", item.data.get "device_id"])

/-- The due time that the item gives or leaves. -/
def Item.dueAt (item : Item) (existing : Option TimerOwnerRecord) : Option String :=
  (nonempty (strip (py.firstText [item.data.get "due_at"]))).or (existing.bind (·.dueAt))

/-- The seconds and the due time of a created timer that has no seconds yet. -/
def Item.createdTiming (item : Item) (dueAt : Option String) :
    Except PyException (Option ℤ × Option String) := do
  let remainingSeconds ← timerDurationSeconds py item.data
  match remainingSeconds, dueAt with
  | some seconds, none =>
    let occurredAt :=
      (parseEventDatetime py (some (py.firstText [item.payload.get "occurred_at"]))).getD
        (utcNow item.clock.1)
    return (some seconds, some (py.isoformat (← plusSeconds occurredAt seconds)))
  | _, _ => return (remainingSeconds, dueAt)

/-- The record that `_update_one` makes. -/
def Item.record (item : Item) (existing : Option TimerOwnerRecord) :
    Except PyException TimerOwnerRecord := do
  let source := Json.object (item.payload.get "source")
  let text (values : List (Option Json)) := nonempty (strip (py.firstText values))
  let title := (text [item.data.get "title", item.data.get "label"]).or (existing.bind (·.title))
  let remainingText :=
    (text [item.data.get "remaining_text", item.data.get "remaining_hhmmss"]).or
      (existing.bind (·.remainingText))
  let reportedSeconds ← optionalInt py (item.data.get "remaining_seconds")
  let remainingSeconds := reportedSeconds.or (existing.bind (·.remainingSeconds))
  let untimed := item.eventType = createSucceeded ∧ remainingSeconds.isNone
  let timing ←
    if untimed then item.createdTiming py (item.dueAt py existing)
    else pure (remainingSeconds, item.dueAt py existing)
  return {
    timerId := item.timerId py
    endpointId := item.endpointId py
    ownerNodeId :=
      (text [source.get "node_id", item.data.get "requester_node_id"]).or
        (existing.bind (·.ownerNodeId))
    title :=
      if untimed then
        title.or (text [item.data.get "duration_text", item.data.get "duration_hhmmss"])
      else title
    state := timerStateFromEvent py item.eventType item.data
    dueAt := timing.2
    remainingSeconds := timing.1
    remainingText
    alarmStatus :=
      (alarmStatusFromEvent py item.eventType item.data).or (existing.bind (·.alarmStatus))
    lastEventType := item.eventType
    lastEventId := text [item.payload.get "event_id"]
    lastSeenAt := py.isoformat (utcNow item.clock.2) }

/-- The records last reported by `timer.create_succeeded` for the endpoint of `record`, each with
how many microseconds it is due from `dueAt`. -/
def provisionals (records : Records) (record : TimerOwnerRecord) (dueAt : WallTime) :
    List (ℕ × String) :=
  records.entries.filterMap fun (timerId, candidate) =>
    if timerId = record.timerId ∨ candidate.endpointId ≠ record.endpointId ∨
        candidate.lastEventType ≠ createSucceeded then none
    else (parseEventDatetime py candidate.dueAt).map fun candidateDue =>
      ((candidateDue.utc - dueAt.utc).natAbs, timerId)

/-- `min(candidates)`. -/
def nearest (candidates : List (ℕ × String)) : Option (ℕ × String) :=
  (candidates.insertionSort fun a b => a.1 < b.1 ∨ a.1 = b.1 ∧ a.2 ≤ b.2).head?

def removeMatchingProvisional (records : Records) (record : TimerOwnerRecord) : Records :=
  match parseEventDatetime py record.dueAt with
  | none => records
  | some dueAt =>
    match nearest (provisionals py records record dueAt) with
    | none => records
    | some (difference, timerId) =>
      if difference ≤ 30000000 then records.erase timerId else records

def trim (records : Records) : Records :=
  if (records.entries.length : ℤ) ≤ max 10 maxRecords then records
  else
    let sorted := records.values.insertionSort fun a b => b.lastSeenAt ≤ a.lastSeenAt
    (sorted.take (max 10 maxRecords).toNat).foldl (fun records record =>
      records.set record.timerId record) Dict.empty

def updateOne (item : Item) : EStateM PyException Records (List TimerOwnerRecord) := do
  let timerId := item.timerId py
  if timerId = "" ∨ item.endpointId py = "" then return []
  let record ←
    match item.record py ((← get).get timerId) with
    | .ok record => pure record
    | .error error => throw error
  if item.eventType ≠ createSucceeded then
    modify fun records => removeMatchingProvisional py records record
  modify fun records => trim maxRecords (records.set timerId record)
  return [record]

/-- `_update_one` of the items in turn. -/
def updateAll : List Item → EStateM PyException Records (List TimerOwnerRecord)
  | [] => return []
  | item :: items => do
    let updated ← updateOne py maxRecords item
    return updated ++ (← updateAll items)

/-- A timer event, and what the clock shows at each of its items. -/
structure TimerEvent where
  payload : JsonObject
  clock : ℕ → ℤ × ℤ

/-- The items that `update_from_event` applies. -/
@[irreducible] def TimerEvent.items (event : TimerEvent) : List Item :=
  let payload := event.payload
  let eventType := strip (py.firstText [payload.get "event_type"])
  if !startsWith eventType "timer." || endsWith eventType "_requested" then []
  else
    let data := Json.object (payload.get "data")
    match data.get "timers" with
    | some (.arr (timer :: timers)) =>
      let merged := (timer :: timers).filterMap fun
        | .obj timer => some (timer.entries.foldl (fun data (k, v) => data.set k v) data)
        | _ => none
      merged.mapIdx fun i data => ⟨payload, data, eventType, event.clock i⟩
    | _ => [⟨payload, data, eventType, event.clock 0⟩]

def updateFromEvent (event : TimerEvent) : EStateM PyException Records (List TimerOwnerRecord) :=
  updateAll py maxRecords (event.items py)

end applying

/-! ### Selecting a timer -/

section selecting

variable (py : Python)

def activeTimerRecordExpired (record : TimerOwnerRecord) (now : ℤ) : Bool :=
  match parseEventDatetime py record.dueAt, parseEventDatetime py (some record.lastSeenAt) with
  | some dueAt, some lastSeenAt =>
    dueAt.utc ≤ now && max 1 (record.remainingSeconds.getD 0) * 1000000 ≤ now - lastSeenAt.utc
  | _, _ => false

/-- `_parse_event_datetime(record.due_at) or datetime.max`. -/
def dueOrMax (record : TimerOwnerRecord) : ℤ :=
  ((parseEventDatetime py record.dueAt).map (·.utc)).getD datetimeMax

def activeForEndpoint (records : Records) (endpointId : String) (now : ℤ) :
    List TimerOwnerRecord :=
  let active := records.values.filter fun record =>
    record.endpointId = strip endpointId && isActiveTimerState py record.state &&
      !activeTimerRecordExpired py record now
  active.insertionSort fun a b =>
    dueOrMax py a < dueOrMax py b ∨ dueOrMax py a = dueOrMax py b ∧ a.timerId ≤ b.timerId

/-- The answer of `select_timer`. -/
structure Selection where
  status : String
  strategy : Option String := none
  endpointId : String
  timer : Option TimerOwnerRecord := none
  candidateCount : Option ℕ := none
  candidates : List TimerOwnerRecord

def selectTimer (records : Records) (endpointId : String) (now : ℤ) : Selection :=
  let candidates := activeForEndpoint py records endpointId now
  let ambiguous : Selection :=
    { status := "ambiguous", endpointId, candidateCount := candidates.length, candidates }
  let nearestDue (record : TimerOwnerRecord) : Selection :=
    { status := "selected", strategy := "nearest_due", endpointId, timer := record, candidates }
  match candidates with
  | [] => { status := "unknown", endpointId, candidates }
  | [record] =>
    { status := "selected", strategy := "single_active", endpointId, timer := record, candidates }
  | _ =>
    let due := candidates.filterMap fun record =>
      (parseEventDatetime py record.dueAt).map fun dueAt => (record, dueAt.utc)
    match due.insertionSort fun a b => a.2 ≤ b.2 with
    | [] => ambiguous
    | [first] => nearestDue first.1
    | first :: second :: _ => if first.2 < second.2 then nearestDue first.1 else ambiguous

/-- Every answer lists the timers that are active. -/
@[simp] theorem selectTimer_candidates (records : Records) (endpointId : String) (now : ℤ) :
    (selectTimer py records endpointId now).candidates =
      activeForEndpoint py records endpointId now := by
  unfold selectTimer
  dsimp only
  split
  · rfl
  · rfl
  · split
    · rfl
    · rfl
    · split <;> rfl

end selecting

end HexeVoice.Timers
