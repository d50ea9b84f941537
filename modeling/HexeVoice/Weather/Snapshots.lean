import HexeVoice.Library.Machine
import HexeVoice.Library.Outcomes
import HexeVoice.Library.Python
import Mathlib

/-!
# Weather snapshots

`weather_snapshots.py`: the service that takes weather snapshots from MQTT, keeps the last one that it
accepted, and tells its listeners.

## The model

An event is any JSON object. Instants are microseconds of UTC, from the first of the year 1. What
`urllib.parse` makes of a URL is a parameter (`Urls`). The record that is saved is loaded as it was: its
text changes no more than the order of keys, which nothing looks at. The events that the listeners were
called with are noted beside the service.

## What is proved

**`never_backwards_iff`**: in a run from an empty store the accepted snapshots of each location never
go back in time and no event is announced twice, exactly if every event that the last accepted snapshot
does not refuse is new, and not older than those of its location where the last one is of another.
-/

namespace HexeVoice.Weather.Snapshots

open HexeVoice.Library

/-! ### Checks -/

/-- Why an event is not taken. -/
inductive Refusal where
  /-- `WeatherSnapshotError`. -/
  | weather (reason : String)
  | python (exception : PyException)
  deriving DecidableEq

/-- `urlsplit`, as far as it is looked at. -/
structure SplitResult where
  scheme : String
  netloc : String
  username : Option String
  password : Option String
  query : String

/-- `urllib.parse`, and `str.casefold`. -/
structure Urls where
  /-- `urlsplit(url)`, unless it raises `ValueError`. -/
  urlsplit : String → Option SplitResult
  /-- `parse_qsl(query, keep_blank_values=True)`. -/
  parseQsl : String → List (String × String)
  casefold : String → String

def WEATHER_EVENT_TYPE : String := "weather.snapshot.updated"
def WEATHER_SCHEMA_VERSION : String := "weather.snapshot.v1"
def WEATHER_TOPIC : String := "hexe/events/weather/snapshot/updated"

def COMPONENT_STATES : List String :=
  ["pending", "ready", "stale", "expired", "absent", "failed", "queued"]

def FRESH_WEATHER_STATES : List String := ["fresh", "stale"]

/-- Unless a condition holds, a `WeatherSnapshotError`. -/
def require (condition : Bool) (reason : String) : Except Refusal Unit :=
  if !condition then .error (.weather reason) else .ok ()

/-- `value == text`. -/
def isText (value : Option Json) (text : String) : Bool :=
  match value with
  | some (.str s) => s = text
  | _ => false

/-- `value == 1`. -/
def isOne : Option Json → Bool
  | some (.int n) => n = 1
  | some (.bool b) => b
  | some (.float x) => x = .finite 1
  | _ => false

/-- `value in texts`, a set. -/
def memberOf (value : Option Json) (texts : List String) : Except Refusal Bool :=
  match value with
  | some (.str s) => .ok (s ∈ texts)
  | some (.arr _) | some (.obj _) => .error (.python .typeError)
  | _ => .ok false

/-- A value that is a `dict`. -/
def dictOf (value : Option Json) (reason : String) : Except Refusal JsonObject :=
  match value with
  | some (.obj entries) => .ok entries
  | _ => .error (.weather reason)

/-- `required_string`; the value that it returns is the one that is there, stripped. -/
def requiredString (payload : JsonObject) (key : String) (maxLength : ℕ) :
    Except Refusal String :=
  match payload.get key with
  | some (.str s) =>
    if strip s = "" ∨ maxLength < s.length then .error (.weather s!"invalid_{key}")
    else .ok (strip s)
  | _ => .error (.weather s!"invalid_{key}")

/-- `value.replace("Z", "+00:00")`. -/
def replaceZ (value : String) : String :=
  String.ofList (value.toList.flatMap fun c => if c = 'Z' then "+00:00".toList else [c])

/-- The end of the year 9999. -/
def endOfTime : ℤ := 315537897600000000

def parseTimestamp (py : Python) (value : Option Json) (name : String) : Except Refusal ℤ :=
  match value with
  | some (.str s) =>
    if s = "" then .error (.weather s!"invalid_{name}")
    else
      match py.fromisoformat (replaceZ s) with
      | none => .error (.weather s!"invalid_{name}")
      | some parsed =>
        if 0 ≤ parsed.utc ∧ parsed.utc < endOfTime then .ok parsed.utc
        else .error (.python .overflowError)
  | _ => .error (.weather s!"invalid_{name}")

/-- `SHA256_RE.fullmatch`. -/
def isSha256 (text : String) : Bool :=
  text.toList.length = 64 && text.toList.all fun c => ('0' ≤ c && c ≤ '9') || ('a' ≤ c && c ≤ 'f')

/-- The query keys that carry credentials. -/
def sensitive : List String := ["token", "access_token", "key", "api_key", "secret", "signature"]

def validatePublicUrl (py : Python) (urls : Urls) (value : Option Json) (component : String) :
    Except Refusal Unit :=
  match urls.urlsplit (py.firstText [value]) with
  | none => .error (.weather s!"invalid_{component}_url")
  | some parsed => do
    require ((parsed.scheme = "http" || parsed.scheme = "https") && parsed.netloc ≠ "" &&
      (parsed.username.getD "" = "") && (parsed.password.getD "" = "")) s!"invalid_{component}_url"
    require (!(urls.parseQsl parsed.query).any fun e => urls.casefold e.1 ∈ sensitive)
      s!"credential_bearing_{component}_url"

def validateComponent (value : Option Json) (name : String) : Except Refusal JsonObject := do
  let component ← dictOf value s!"invalid_{name}_component"
  require (← memberOf (component.get "status") COMPONENT_STATES) s!"invalid_{name}_component"
  match component.get "sha256" with
  | none | some .null => pure component
  | some (.str sha256) => do
    require (isSha256 sha256) s!"invalid_{name}_sha256"
    pure component
  | some _ => .error (.weather s!"invalid_{name}_sha256")

/-- A variant of the speech. -/
def validateVariant (py : Python) (urls : Urls) (variant : Json) : Except Refusal Unit :=
  match variant with
  | .obj entries => do
    require (isSha256 (py.firstText [entries.get "sha256"])) "invalid_tts_variant"
    validatePublicUrl py urls (entries.get "audio_url") "tts"
  | _ => .error (.weather "invalid_tts_variant")

/-- `text.split("/")`. -/
def splitSlashes (text : String) : List String :=
  (text.toList.splitOn '/').map String.ofList

def validateTts (py : Python) (urls : Urls) (tts : JsonObject) (transcript : Option String) :
    Except Refusal Unit :=
  if !isText (tts.get "status") "ready" then .ok ()
  else do
    let assetKey ← requiredString tts "asset_key" 180
    require (startsWith assetKey "interaction/" && !(splitSlashes assetKey).contains "..")
      "invalid_tts_asset_key"
    let _ ← requiredString tts "revision" 160
    require (transcript.all fun text => isText (tts.get "transcript") text) "tts_transcript_mismatch"
    validatePublicUrl py urls (tts.get "audio_url") "tts"
    let variants ← dictOf (tts.get "variants") "missing_tts_variants"
    require (!variants.entries.isEmpty) "missing_tts_variants"
    variants.values.forM (validateVariant py urls)

/-- `background["status"] in {"ready", "stale"}`. -/
def isShown (component : JsonObject) : Bool :=
  isText (component.get "status") "ready" || isText (component.get "status") "stale"

def validateRadar (py : Python) (urls : Urls) (radar : JsonObject) : Except Refusal Unit :=
  if !isShown radar then .ok ()
  else do
    validatePublicUrl py urls (radar.get "image_url") "radar"
    require (isSha256 (py.firstText [radar.get "sha256"])) "invalid_radar_sha256"
    ["observation_time", "fetched_at", "expires_at"].forM fun key => do
      let _ ← parseTimestamp py (radar.get key) s!"radar_{key}"
      pure ()
    require ((radar.get "attribution").any Json.truthy) "missing_radar_attribution"

/-- `isinstance(value, int) and 0 < value <= 8192`. -/
def isSize : Option Json → Bool
  | some (.int n) => 0 < n && n ≤ 8192
  | some (.bool b) => b
  | _ => false

def validateBackground (py : Python) (urls : Urls) (background : JsonObject) (name : String) :
    Except Refusal Unit :=
  if !isShown background then .ok ()
  else do
    validatePublicUrl py urls (background.get "image_url") name
    let _ ← requiredString background "revision" 160
    require (isSha256 (py.firstText [background.get "sha256"])) s!"invalid_{name}_sha256"
    require (← memberOf (background.get "content_type") ["image/png", "image/jpeg", "image/webp"])
      s!"invalid_{name}_content_type"
    ["width", "height"].forM fun key => require (isSize (background.get key)) s!"invalid_{name}_{key}"

/-- The transcript of a snapshot, if there is one. -/
def transcriptOf (data : JsonObject) : Except Refusal (Option String) :=
  match data.get "transcript" with
  | none | some .null => .ok none
  | some (.str transcript) =>
    if 4000 < transcript.length then .error (.weather "invalid_transcript") else .ok (some transcript)
  | some _ => .error (.weather "invalid_transcript")

/-- `freshness.get(name) == component["status"]`, of a component that is valid. -/
def isFresh (freshness : Option Json) (component : JsonObject) : Bool :=
  match component.get "status" with
  | some (.str status) => isText freshness status
  | _ => false

/-- What comes after the instants: the parts of the snapshot. -/
def validateParts (py : Python) (urls : Urls) (data : JsonObject) : Except Refusal Unit := do
  let _ ← dictOf (data.get "current_conditions") "invalid_weather_metadata"
  let _ ← dictOf (data.get "forecast_summary") "invalid_weather_metadata"
  let transcript ← transcriptOf data
  let freshness ← dictOf (data.get "freshness") "invalid_freshness"
  require (← memberOf (freshness.get "weather") FRESH_WEATHER_STATES) "invalid_freshness"
  let tts ← validateComponent (data.get "tts") "tts"
  let radar ← validateComponent (data.get "radar") "radar"
  let backgroundName := if (data.get "weather_image").isSome then "weather_image" else "bg"
  let background ←
    if (data.get backgroundName).isSome then
      some <$> validateComponent (data.get backgroundName) backgroundName
    else pure none
  require (isFresh (freshness.get "tts") tts && isFresh (freshness.get "radar") radar)
    "component_freshness_mismatch"
  require (background.all fun component =>
      (freshness.get backgroundName).isNone || isFresh (freshness.get backgroundName) component)
    "component_freshness_mismatch"
  validateTts py urls tts transcript
  validateRadar py urls radar
  match background with
  | some component => validateBackground py urls component backgroundName
  | none => pure ()
  let _ ← dictOf (data.get "attribution") "invalid_attribution"
  pure ()

def validateWeatherSnapshot (py : Python) (urls : Urls) (topic : String) (event : JsonObject)
    (now : ℤ) : Except Refusal JsonObject := do
  require (strip topic = WEATHER_TOPIC) "unauthorized_topic"
  let source ← dictOf (event.get "source") "invalid_event_source"
  let _ ← requiredString source "node_id" 128
  require (py.firstText [event.get "event_type"] = WEATHER_EVENT_TYPE &&
    isOne (event.get "schema_version")) "unsupported_weather_schema"
  let _ ← requiredString event "event_id" 160
  let _ ← parseTimestamp py (event.get "occurred_at") "occurred_at"
  let data ← dictOf (event.get "data") "invalid_weather_data"
  require (isText (data.get "schema_version") WEATHER_SCHEMA_VERSION) "invalid_weather_data"
  let _ ← requiredString data "snapshot_id" 160
  let _ ← requiredString data "location_id" 160
  let _ ← requiredString data "cache_revision" 160
  let _ ← dictOf (data.get "location") "invalid_location"
  let fetchedAt ← parseTimestamp py (data.get "fetched_at") "fetched_at"
  let expiresAt ← parseTimestamp py (data.get "expires_at") "expires_at"
  require (fetchedAt < expiresAt) "invalid_expiry"
  require (!(now - now % 1000000 < fetchedAt && 300000000 < fetchedAt - now)) "future_snapshot"
  validateParts py urls data
  pure event

/-! ### The service -/

/-- `WeatherSnapshotService`, its store and what its listeners heard. -/
structure Service where
  accepted : Option JsonObject
  reason : Option String
  /-- The file of `WeatherSnapshotStore`. -/
  stored : Option JsonObject
  /-- The events that the listeners were called with. -/
  heard : List JsonObject

/-- A service that finds no file. -/
def Service.start : Service where
  accepted := none
  reason := none
  stored := none
  heard := []

/-- `a == b`, of which one is a text. -/
def sameText (a b : Option Json) : Bool :=
  match a, b with
  | some (.str s), some (.str t) => s = t
  | _, _ => false

/-- The data of an event. -/
def dataOf (event : JsonObject) : JsonObject := Json.object (event.get "data")

/-- What the last accepted record has against an event: nothing, that it is the same, or an error. -/
def compareWith (py : Python) (current normalized : JsonObject) : Except Refusal Bool :=
  let currentEvent := Json.object (current.get "event")
  let currentData := dataOf currentEvent
  let newData := dataOf normalized
  if sameText (currentData.get "location_id") (newData.get "location_id") then do
    let currentFetched ← parseTimestamp py (currentData.get "fetched_at") "fetched_at"
    let newFetched ← parseTimestamp py (newData.get "fetched_at") "fetched_at"
    require (!(newFetched < currentFetched)) "stale_snapshot"
    pure (newFetched = currentFetched &&
      sameText (currentEvent.get "event_id") (normalized.get "event_id"))
  else pure false

/-- The record of an accepted event. -/
def recordOf (acceptedAt topic : String) (normalized : JsonObject) : JsonObject :=
  ⟨[("accepted_at", .str acceptedAt), ("topic", .str topic), ("event", .obj normalized)]⟩

/-- What `accept` makes of an event: the normalized event, or `none` for the last one again. -/
def judge (py : Python) (urls : Urls) (s : Service) (topic : String) (event : JsonObject) (now : ℤ) :
    Except Refusal (Option JsonObject) := do
  let normalized ← validateWeatherSnapshot py urls topic event now
  match s.accepted with
  | none => pure (some normalized)
  | some current =>
    if ← compareWith py current normalized then pure none else pure (some normalized)

/-- `accept`. An exception that is no `WeatherSnapshotError` goes to the caller, and nothing changes. -/
def accept (py : Python) (urls : Urls) (s : Service) (topic : String) (event : JsonObject) (now : ℤ) :
    Service :=
  match judge py urls s topic event now with
  | .ok (some normalized) =>
    let record := recordOf (py.isoformat ⟨now, some 0⟩) topic normalized
    { accepted := some record
      reason := none
      stored := some record
      heard := s.heard ++ [normalized] }
  | .ok none => { s with reason := some "duplicate_snapshot_ignored" }
  | .error (.weather reason) => { s with reason := some reason }
  | .error (.python _) => s

/-- A new service on the same file. -/
def restart (s : Service) : Service := { s with accepted := s.stored, reason := none }

/-- What happens to the service. -/
inductive Call where
  | accept (topic : String) (event : JsonObject) (now : ℤ)
  | restart

/-- One call. -/
def step (py : Python) (urls : Urls) (s : Service) : Call → Service
  | .accept topic event now => accept py urls s topic event now
  | .restart => restart s

/-! ### What the listeners heard -/

/-- The text of a value. -/
def textOf (value : Option Json) : Option String := value.bind Json.str?

def eventId (event : JsonObject) : Option String := textOf (event.get "event_id")

def locationId (event : JsonObject) : Option String := textOf ((dataOf event).get "location_id")

/-- `fetched_at`; there is one in every event that is valid. -/
def fetchedAt (py : Python) (event : JsonObject) : ℤ :=
  match parseTimestamp py ((dataOf event).get "fetched_at") "fetched_at" with
  | .ok fetchedAt => fetchedAt
  | .error _ => 0

/-- Of two events, the later one is another event, and not older where it is of the same location. -/
def Follows (py : Python) (event event' : JsonObject) : Prop :=
  eventId event ≠ eventId event' ∧
    (locationId event = locationId event' → fetchedAt py event ≤ fetchedAt py event')

instance (py : Python) (event event' : JsonObject) : Decidable (Follows py event event') :=
  inferInstanceAs (Decidable (eventId event ≠ eventId event' ∧
    (locationId event = locationId event' → fetchedAt py event ≤ fetchedAt py event')))

/-- The weather of no location goes backwards, and no event is heard twice. -/
def Steady (py : Python) (s : Service) : Prop := s.heard.Pairwise (Follows py)

instance (py : Python) (s : Service) : Decidable (Steady py s) :=
  inferInstanceAs (Decidable (s.heard.Pairwise (Follows py)))

/-- The last accepted snapshot refuses an event: it is of the same location, and later or of the same
event. -/
def RefusedBy (py : Python) (last event : JsonObject) : Prop :=
  locationId last = locationId event ∧
    (fetchedAt py event < fetchedAt py last ∨
      fetchedAt py event = fetchedAt py last ∧ eventId last = eventId event)

/-- A valid event that the last accepted one does not refuse is new; where the last one is of another
location, no snapshot of its location is later. -/
def New (py : Python) (urls : Urls) (s : Service) : Call → Prop
  | .restart => True
  | .accept topic event now =>
    validateWeatherSnapshot py urls topic event now = .ok event →
      (∀ last ∈ s.heard.getLast?, ¬ RefusedBy py last event) →
      (∀ e ∈ s.heard, eventId e ≠ eventId event) ∧
        ((∀ last ∈ s.heard.getLast?, locationId last ≠ locationId event) →
          ∀ e ∈ s.heard, locationId e = locationId event → fetchedAt py e ≤ fetchedAt py event)

/-! ### Valid events -/

section proofs

variable {py : Python} {urls : Urls} {s : Service}

theorem dictOf_ok {value : Option Json} {reason : String} {entries : JsonObject}
    (h : dictOf value reason = .ok entries) : value = some (.obj entries) := by
  unfold dictOf at h
  split at h
  case h_1 =>
    cases h
    rfl
  case h_2 => cases h

theorem requiredString_ok {payload : JsonObject} {key text : String} {maxLength : ℕ}
    (h : requiredString payload key maxLength = .ok text) : ∃ s, payload.get key = some (.str s) := by
  unfold requiredString at h
  split at h
  case h_1 s hget => exact ⟨s, hget⟩
  case h_2 => cases h

/-- What is looked at in an event that is accepted. -/
structure Readable (py : Python) (event : JsonObject) : Prop where
  id : ∃ id, event.get "event_id" = some (.str id)
  location : ∃ location, (dataOf event).get "location_id" = some (.str location)
  fetched : parseTimestamp py ((dataOf event).get "fetched_at") "fetched_at" =
    .ok (fetchedAt py event)

/-- **What a valid event is**: itself, with an id, a location and an instant. -/
theorem readable_of_valid {topic : String} {event normalized : JsonObject} {now : ℤ}
    (h : validateWeatherSnapshot py urls topic event now = .ok normalized) :
    normalized = event ∧ Readable py event := by
  unfold validateWeatherSnapshot at h
  simp only [bind_eq_ok] at h
  obtain ⟨-, -, source, -, -, -, -, -, id, hid, -, -, data, hdata, -, -, -, -, location, hlocation,
    -, -, -, -, fetched, hfetched, -, -, -, -, -, -, -, -, hevent⟩ := h
  have hof : dataOf event = data := by
    rw [dataOf, dictOf_ok hdata]
    rfl
  cases hevent
  refine ⟨rfl, requiredString_ok hid, ?_, ?_⟩
  · rw [hof]
    exact requiredString_ok hlocation
  · rw [fetchedAt, hof, hfetched]

/-! ### The last accepted event -/

theorem sameText_iff {a b : Option Json} {t : String} (hb : b = some (.str t)) :
    sameText a b = true ↔ textOf a = textOf b := by
  subst hb
  cases a with
  | none => simp [sameText, textOf, Json.str?]
  | some value => cases value <;> simp [sameText, textOf, Json.str?]

/-- The last accepted event says whether it is of the location, and whether it refuses. -/
theorem compareWith_recordOf {last event : JsonObject} (hlast : Readable py last)
    (hevent : Readable py event) (acceptedAt topic : String) :
    compareWith py (recordOf acceptedAt topic last) event =
      if locationId last = locationId event then
        if fetchedAt py event < fetchedAt py last then .error (.weather "stale_snapshot")
        else .ok (fetchedAt py event = fetchedAt py last && eventId last = eventId event)
      else .ok false := by
  have hcurrent : Json.object ((recordOf acceptedAt topic last).get "event") = last := rfl
  obtain ⟨id, hid⟩ := hevent.id
  obtain ⟨location, hlocation⟩ := hevent.location
  have hsame : sameText ((dataOf last).get "location_id") ((dataOf event).get "location_id") = true ↔
      locationId last = locationId event := sameText_iff hlocation
  have hsameId : sameText (last.get "event_id") (event.get "event_id") =
      decide (eventId last = eventId event) := by
    rw [Bool.eq_iff_iff, sameText_iff hid, decide_eq_true_eq, eventId, eventId]
  simp only [compareWith, hcurrent, hsame, hlast.fetched, hevent.fetched, hsameId]
  split_ifs with hloc hstale
  · simp [require, hstale, bind, Except.bind]
  · simp [require, hstale, bind, Except.bind, pure, Except.pure]
  · rfl

/-- What the service remembers of what its listeners heard: the last event. -/
structure Remembers (py : Python) (s : Service) : Prop where
  stored : s.stored = s.accepted
  readable : ∀ e ∈ s.heard, Readable py e
  nothing : s.heard.getLast? = none → s.accepted = none
  last : ∀ last ∈ s.heard.getLast?, ∃ acceptedAt topic,
    s.accepted = some (recordOf acceptedAt topic last)

/-- An event is taken exactly if it is valid and the last accepted one does not refuse it. -/
theorem judge_eq_some_iff (hs : Remembers py s) {topic : String} {event normalized : JsonObject}
    {now : ℤ} :
    judge py urls s topic event now = .ok (some normalized) ↔
      normalized = event ∧ validateWeatherSnapshot py urls topic event now = .ok event ∧
        ∀ last ∈ s.heard.getLast?, ¬ RefusedBy py last event := by
  cases hvalid : validateWeatherSnapshot py urls topic event now with
  | error refusal => simp [judge, hvalid, bind, Except.bind]
  | ok valid =>
    obtain ⟨rfl, hevent⟩ := readable_of_valid hvalid
    cases hlast : s.heard.getLast? with
    | none =>
      have haccepted := hs.nothing hlast
      simp [judge, hvalid, haccepted, bind, Except.bind, pure, Except.pure, eq_comm]
    | some last =>
      obtain ⟨acceptedAt, heardTopic, haccepted⟩ := hs.last last hlast
      have hmem : last ∈ s.heard := List.mem_of_getLast? hlast
      have hcompare := compareWith_recordOf (hs.readable last hmem) hevent acceptedAt heardTopic
      have htaken : judge py urls s topic valid now = .ok (some normalized) ↔
          normalized = valid ∧ compareWith py (recordOf acceptedAt heardTopic last) valid =
            .ok false := by
        simp only [judge, hvalid, haccepted, bind, Except.bind]
        cases hagain : compareWith py (recordOf acceptedAt heardTopic last) valid with
        | error refusal => simp
        | ok again => cases again <;> simp [pure, Except.pure, eq_comm]
      have hrefused : compareWith py (recordOf acceptedAt heardTopic last) valid = .ok false ↔
          ¬ RefusedBy py last valid := by
        rw [hcompare, RefusedBy]
        split_ifs with hloc hstale
        · simp [hloc, hstale]
        · simp [hloc, hstale]
        · simp [hloc]
      simp only [htaken, hrefused, Option.mem_some_iff, forall_eq', true_and]

/-- What a call of `accept` does: it takes the event, or it leaves all but the reason. -/
theorem accept_cases (hs : Remembers py s) (topic : String) (event : JsonObject) (now : ℤ) :
    (judge py urls s topic event now = .ok (some event) ∧
      (accept py urls s topic event now).heard = s.heard ++ [event] ∧
      (accept py urls s topic event now).stored = (accept py urls s topic event now).accepted ∧
      ∃ acceptedAt, (accept py urls s topic event now).accepted =
        some (recordOf acceptedAt topic event)) ∨
    (judge py urls s topic event now ≠ .ok (some event) ∧
      (accept py urls s topic event now).heard = s.heard ∧
      (accept py urls s topic event now).stored = s.stored ∧
      (accept py urls s topic event now).accepted = s.accepted) := by
  cases hjudge : judge py urls s topic event now with
  | error refusal =>
    right
    cases refusal <;> simp [accept, hjudge]
  | ok outcome =>
    cases outcome with
    | none =>
      right
      simp [accept, hjudge]
    | some normalized =>
      left
      obtain ⟨rfl, -⟩ := (judge_eq_some_iff hs).mp hjudge
      simp only [accept, hjudge, true_and]
      exact ⟨_, rfl⟩

/-! ### Steps -/

/-- **The service remembers the last event**, whatever happens to it. -/
theorem remembers_step (hs : Remembers py s) (call : Call) :
    Remembers py (step py urls s call) := by
  cases call with
  | restart => exact ⟨rfl, hs.readable, fun h => hs.stored.trans (hs.nothing h), fun last hlast => by
      simpa [step, restart, hs.stored] using hs.last last hlast⟩
  | accept topic event now =>
    obtain ⟨hjudge, hheard, hstored, acceptedAt, haccepted⟩ | ⟨-, hheard, hstored, haccepted⟩ :=
      accept_cases hs topic event now
    · obtain ⟨-, hvalid, -⟩ := (judge_eq_some_iff hs).mp hjudge
      refine ⟨hstored, ?_, ?_, ?_⟩
      · intro e he
        rw [step, hheard, List.mem_append, List.mem_singleton] at he
        obtain he | rfl := he
        · exact hs.readable e he
        · exact (readable_of_valid hvalid).2
      · simp [step, hheard]
      · intro last hlast
        rw [step, hheard, List.getLast?_concat, Option.mem_some_iff] at hlast
        subst hlast
        exact ⟨acceptedAt, topic, haccepted⟩
    · refine ⟨?_, ?_, ?_, ?_⟩
      · rw [step, hstored, haccepted, hs.stored]
      · simpa [step, hheard] using hs.readable
      · simpa [step, hheard, haccepted] using hs.nothing
      · simpa [step, hheard, haccepted] using hs.last

/-- No heard event is later than the last one of its location. -/
theorem fetchedAt_le_last (hsteady : Steady py s) {e last : JsonObject} (he : e ∈ s.heard)
    (hlast : s.heard.getLast? = some last) (hloc : locationId e = locationId last) :
    fetchedAt py e ≤ fetchedAt py last := by
  obtain ⟨before, hsplit⟩ := List.getLast?_eq_some_iff.mp hlast
  rw [Steady, hsplit, List.pairwise_append] at hsteady
  rw [hsplit, List.mem_append, List.mem_singleton] at he
  obtain he | rfl := he
  · exact (hsteady.2.2 e he last (List.mem_singleton_self _)).2 hloc
  · exact le_rfl

/-- **The step lemma**: a steady service stays steady exactly if the event is new. -/
theorem steady_step_iff (hs : Remembers py s) (hsteady : Steady py s) (call : Call) :
    Steady py (step py urls s call) ↔ New py urls s call := by
  cases call with
  | restart => exact iff_of_true hsteady trivial
  | accept topic event now =>
    obtain ⟨hjudge, hheard, -⟩ | ⟨hjudge, hheard, -⟩ :=
      accept_cases hs topic event now
    · obtain ⟨-, hvalid, hrefused⟩ := (judge_eq_some_iff hs).mp hjudge
      have hfollows : Steady py (step py urls s (.accept topic event now)) ↔
          ∀ e ∈ s.heard, Follows py e event := by
        rw [Steady, step, hheard, List.pairwise_append]
        constructor
        · intro h e he
          exact h.2.2 e he event (List.mem_singleton_self _)
        · intro h
          exact ⟨hsteady, List.pairwise_singleton _ _, by simpa using h⟩
      rw [hfollows]
      constructor
      · intro h _ _
        exact ⟨fun e he => (h e he).1, fun _ e he => (h e he).2⟩
      · intro hnew e he
        obtain ⟨hids, hlater⟩ := hnew hvalid hrefused
        refine ⟨hids e he, fun hloc => ?_⟩
        by_cases hother : ∀ last ∈ s.heard.getLast?, locationId last ≠ locationId event
        · exact hlater hother e he hloc
        · -- the last one is of the location, so it is not later, and no other one is later than it
          simp only [not_forall, not_not] at hother
          obtain ⟨last, hlast, hsame⟩ := hother
          have hle := fetchedAt_le_last hsteady he hlast (hloc.trans hsame.symm)
          have hnot : ¬ fetchedAt py event < fetchedAt py last :=
            fun hless => hrefused last hlast ⟨hsame, .inl hless⟩
          omega
    · refine iff_of_true ?_ fun hvalid hrefused => ?_
      · rwa [Steady, step, hheard]
      · exact absurd ((judge_eq_some_iff hs).mpr ⟨rfl, hvalid, hrefused⟩) hjudge

end proofs

/-! ### Whole runs -/

/-- **Accepted weather never goes backwards.** -/
theorem never_backwards_iff (py : Python) (urls : Urls) (calls : List Call) :
    (∀ taken, taken <+: calls → Steady py (run (step py urls) .start taken)) ↔
      AllSteps (step py urls) (New py urls) .start calls := by
  have hstart : Remembers py .start := ⟨rfl, by simp [Service.start], fun _ => rfl, by
    simp [Service.start]⟩
  have hremembers : ∀ taken, Remembers py (run (step py urls) .start taken) := by
    intro taken
    have hsteps : AllSteps (step py urls) (fun _ _ => True) .start taken :=
      allSteps_of_forall (fun _ _ => trivial) _ _
    exact run_invariant (fun s call (hs : Remembers py s) _ => remembers_step hs call) hstart hsteps
  rw [← throughout_iff (P := fun s => Remembers py s ∧ Steady py s)
    (fun s call hs => ?_) ⟨hstart, .nil⟩]
  · simp only [hremembers, true_and]
  · simp only [remembers_step hs.1 call, true_and]
    exact steady_step_iff hs.1 hs.2 call

/-! ### Restarts -/

/-- **What is kept is what was told**: the file holds the accepted record, which is that of the last event
that the listeners heard. -/
theorem remembers_run (py : Python) (urls : Urls) (calls : List Call) :
    Remembers py (run (step py urls) .start calls) := by
  have hstart : Remembers py .start :=
    ⟨rfl, by simp [Service.start], fun _ => rfl, by simp [Service.start]⟩
  exact run_invariant (fun s call (h : Remembers py s) _ => remembers_step h call) hstart
    (allSteps_of_forall (fun _ _ => trivial) _ calls)

def Call.isAccept : Call → Bool
  | .accept .. => true
  | .restart => false

/-- The services differ in no more than the reason of the last refusal. -/
structure Alike (s s' : Service) : Prop where
  accepted : s.accepted = s'.accepted
  stored : s.stored = s'.stored
  heard : s.heard = s'.heard

/-- Services that are alike take the same events. -/
theorem Alike.accept {py : Python} {urls : Urls} {s s' : Service} (h : Alike s s') (topic : String)
    (event : JsonObject) (now : ℤ) :
    Alike (accept py urls s topic event now) (accept py urls s' topic event now) := by
  have hjudge : judge py urls s topic event now = judge py urls s' topic event now := by
    rw [judge, judge, h.accepted]
  rw [Snapshots.accept, Snapshots.accept, hjudge]
  split
  · exact ⟨rfl, rfl, by rw [h.heard]⟩
  all_goals exact ⟨h.accepted, h.stored, h.heard⟩

/-- **Restarts are invisible**: the accepted record, the file and what the listeners heard are those of
the same run without its restarts. -/
theorem restarts_invisible (py : Python) (urls : Urls) (calls : List Call) :
    Alike (run (step py urls) .start (calls.filter Call.isAccept)) (run (step py urls) .start calls) := by
  induction calls using List.reverseRecOn with
  | nil => exact ⟨rfl, rfl, rfl⟩
  | append_singleton calls call ih =>
    rw [List.filter_append, run_append, run_append]
    cases call with
    | accept topic event now => exact ih.accept topic event now
    | restart =>
      have hstored := (remembers_run py urls calls).stored
      exact ⟨ih.accepted.trans hstored.symm, ih.stored, ih.heard⟩

/-! ### Concrete runs -/

/-- The clock at three instants. -/
def instants : List (String × ℤ) :=
  [("2026-08-23T22:00:00+00:00", 63923119200000000),
    ("2026-08-23T23:00:00+00:00", 63923122800000000),
    ("2026-08-24T23:00:00+00:00", 64009522800000000)]

/-- Python's functions at them. -/
def plainPython : Python :=
  { Python.ascii with
    fromisoformat := fun s => (instants.lookup s).map fun instant => ⟨instant, some 0⟩ }

/-- No URL is looked at. -/
def noUrls : Urls where
  urlsplit := fun _ => none
  parseQsl := fun _ => []
  casefold := id

/-- A snapshot without speech and radar. -/
def snapshot (id location fetched : String) : JsonObject :=
  ⟨[("event_id", .str id), ("event_type", .str WEATHER_EVENT_TYPE), ("schema_version", .int 1),
    ("occurred_at", .str fetched), ("source", .obj ⟨[("node_id", .str "weather-1")]⟩),
    ("data", .obj ⟨[("schema_version", .str WEATHER_SCHEMA_VERSION), ("snapshot_id", .str id),
      ("location_id", .str location), ("cache_revision", .str "1"), ("location", .obj ⟨[]⟩),
      ("fetched_at", .str fetched), ("expires_at", .str "2026-08-24T23:00:00+00:00"),
      ("current_conditions", .obj ⟨[]⟩), ("forecast_summary", .obj ⟨[]⟩),
      ("freshness", .obj ⟨[("weather", .str "fresh"), ("tts", .str "absent"),
        ("radar", .str "absent")]⟩),
      ("tts", .obj ⟨[("status", .str "absent")]⟩), ("radar", .obj ⟨[("status", .str "absent")]⟩),
      ("attribution", .obj ⟨[]⟩)]⟩)]⟩

/-- A snapshot comes in. -/
def arrives (id location fetched : String) : Call :=
  .accept WEATHER_TOPIC (snapshot id location fetched) 63923122800000000

/-- After a snapshot of the cabin, an older one of home is taken, and the cabin's own one is taken
again. -/
theorem goes_backwards :
    (run (step plainPython noUrls) .start
        [arrives "e1" "home" "2026-08-23T23:00:00+00:00",
          arrives "e2" "cabin" "2026-08-23T23:00:00+00:00",
          arrives "e0" "home" "2026-08-23T22:00:00+00:00",
          arrives "e2" "cabin" "2026-08-23T23:00:00+00:00"]).heard.map
        (fun e => (eventId e, locationId e, fetchedAt plainPython e)) =
      [(some "e1", some "home", 63923122800000000), (some "e2", some "cabin", 63923122800000000),
        (some "e0", some "home", 63923119200000000),
        (some "e2", some "cabin", 63923122800000000)] ∧
    ¬ Steady plainPython (run (step plainPython noUrls) .start
        [arrives "e1" "home" "2026-08-23T23:00:00+00:00",
          arrives "e2" "cabin" "2026-08-23T23:00:00+00:00",
          arrives "e0" "home" "2026-08-23T22:00:00+00:00",
          arrives "e2" "cabin" "2026-08-23T23:00:00+00:00"]) := by
  decide +kernel

end HexeVoice.Weather.Snapshots
