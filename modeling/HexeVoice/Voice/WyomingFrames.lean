import HexeVoice.Library.Framing
import HexeVoice.Library.Python
import HexeVoice.Library.Returns
import Mathlib

/-!
# Events of the wake service

`voice/wake.py`, `_send_event` and `_pop_event` of the detector that talks to a Wyoming service: an event
is a line of JSON, and after it the bytes of its data and of its payload, if the line says how many.

## The model

The buffer is a list of bytes. `json` and `int` of a text are parameters, as they may raise. The keys of
a dictionary that is made of pairs are kept if they are texts; no other key is looked up.

## What is proved

**`framing_lossless`**: events that are written in either way, and whose JSON is read back, come out of
the buffer once and in order with their data and payload, however the bytes are cut into chunks, and
each with the chunk that makes it whole.
-/

namespace HexeVoice.Voice.Wyoming

open HexeVoice.Library

/-! ### Python -/

/-- What is raised: only `OSError` and `ValueError` are caught. -/
inductive Exn where
  | osError
  | python (exception : PyException)
  | attributeError
  | recursionError
  deriving DecidableEq

/-- `json`. -/
structure JsonText where
  /-- `json.dumps(value, separators=(",", ":")).encode("utf-8")`. -/
  dumps : Json → List UInt8
  /-- `json.loads(line.decode("utf-8"))`. -/
  loads : List UInt8 → Except Exn Json

/-- What an argument of `dict` yields as a pair. -/
def pairOf : Json → Except Exn (Json × Json)
  | .arr [key, value] =>
    match key with
    | .arr _ | .obj _ => .error (.python .typeError)
    | _ => .ok (key, value)
  | .arr _ => .error (.python .valueError)
  | .str s =>
    match s.toList with
    | [key, value] => .ok (.str (String.ofList [key]), .str (String.ofList [value]))
    | _ => .error (.python .valueError)
  | .obj entries =>
    match entries.keys with
    | [key, value] => .ok (.str key, .str value)
    | _ => .error (.python .valueError)
  | _ => .error (.python .typeError)

/-- The pairs that `dict` makes its entries of. -/
def pairsOf : Json → Except Exn (List (Json × Json))
  | .obj entries => .ok (entries.entries.map fun entry => (.str entry.1, entry.2))
  | .arr items => items.mapM pairOf
  | .str s => if s = "" then .ok [] else .error (.python .valueError)
  | _ => .error (.python .typeError)

/-- The pairs whose keys are texts. -/
def textKeys (pairs : List (Json × Json)) : List (String × Json) :=
  pairs.filterMap fun pair => pair.1.str?.map fun key => (key, pair.2)

/-- `data.update(value)`. -/
def update (data : JsonObject) (value : Json) : Except Exn JsonObject :=
  (pairsOf value).map fun pairs => data.update (textKeys pairs)

/-- `dict(value or {})`. -/
def dictOf (value : Option Json) : Except Exn JsonObject :=
  match value with
  | some (.obj entries) => .ok entries
  | some other => if other.truthy then update Dict.empty other else .ok Dict.empty
  | none => .ok Dict.empty

/-- How many elements `l[:n]` has. -/
def upTo (n : ℤ) (l : List UInt8) : ℕ := if 0 ≤ n then n.toNat else l.length - n.natAbs

/-! ### Reading -/

/-- What `_pop_event` returns. -/
structure Event where
  type : Json
  data : JsonObject
  payload : List UInt8

section Reading

variable (json : JsonText) (py : Python)

/-- `int(header.get(key) or 0)`. -/
def lengthOf (header : JsonObject) (key : String) : Except Exn ℤ :=
  match header.get key with
  | some value => if value.truthy then (py.toInt value).mapError .python else .ok 0
  | none => .ok 0

/-- The header, and the lengths of what follows it. -/
def headerOf (line : List UInt8) : Except Exn (JsonObject × ℤ × ℤ) := do
  match ← json.loads line with
  | .obj header =>
    let data_length ← lengthOf py header "data_length"
    let payload_length ← lengthOf py header "payload_length"
    pure (header, data_length, payload_length)
  | _ => throw .attributeError

/-- The event of a header and the bytes after it. -/
def eventOf (header : JsonObject) (extraData payload : List UInt8) : Except Exn Event := do
  let event_data ← dictOf (header.get "data")
  let event_data ←
    if extraData = [] then pure event_data
    else
      let more ← json.loads extraData
      update event_data more
  pure ⟨(header.get "type").getD .null, event_data, payload⟩

/-- `_pop_event`: the event, if one is whole, and what is left in the buffer. -/
def popEvent (buffer : List UInt8) : Except Exn (Option Event) × List UInt8 :=
  match buffer.findIdx? (· = 10) with
  | none => (.ok none, buffer)
  | some newline =>
    match headerOf json py (buffer.take newline) with
    | .error e => (.error e, buffer)
    | .ok (header, data_length, payload_length) =>
      if (buffer.length : ℤ) < newline + 1 + data_length + payload_length then (.ok none, buffer)
      else
        let body := buffer.drop (newline + 1)
        let extraData := body.take (upTo data_length body)
        let tail := body.drop (upTo data_length body)
        let payload := tail.take (upTo payload_length tail)
        ((eventOf json header extraData payload).map some, tail.drop (upTo payload_length tail))

variable {json py}

/-- Taking an event makes the buffer shorter. -/
theorem popEvent_shrinks {buffer rest : List UInt8} {event : Event}
    (h : popEvent json py buffer = (.ok (some event), rest)) : rest.length < buffer.length := by
  simp only [popEvent] at h
  split at h
  · simp at h
  next newline hfind =>
    have hnewline : newline < buffer.length := (List.findIdx?_eq_some_iff_findIdx_eq.mp hfind).1
    split at h
    · simp at h
    · split at h
      · simp at h
      · have hrest := congrArg (fun result => result.2.length) h
        simp only [List.length_drop] at hrest
        omega

end Reading

/-- The decoder of events. -/
def decoder (json : JsonText) (py : Python) : Decoder Event UInt8 Exn :=
  ⟨popEvent json py, popEvent_shrinks⟩

/-! ### Writing -/

/-- An event, whose data is a dictionary. -/
structure WyomingEvent where
  type : String
  data : JsonObject
  payload : List UInt8
  distinct : data.keys.Nodup

/-- The data in the header, or in a block after it. -/
inductive Layout where
  | inline
  | separate

section Writing

variable (json : JsonText)

/-- `header["payload_length"] = len(payload)`, if there is one. -/
def withPayload (header : JsonObject) (payload : List UInt8) : JsonObject :=
  if payload = [] then header else header.set "payload_length" (.int payload.length)

/-- The header that `_send_event` writes. -/
def sentHeader (event : WyomingEvent) : JsonObject :=
  let header : JsonObject := ⟨[("type", .str event.type)]⟩
  withPayload (if event.data.entries.isEmpty then header else header.set "data" (.obj event.data))
    event.payload

/-- `_send_event`: the bytes that are sent. -/
def sendEvent (event : WyomingEvent) : List UInt8 :=
  json.dumps (.obj (sentHeader event)) ++ 10 :: event.payload

/-- The header where the data has a block of its own. -/
def separateHeader (event : WyomingEvent) : JsonObject :=
  withPayload ⟨[("type", .str event.type), ("data_length", .int (json.dumps (.obj event.data)).length)]⟩
    event.payload

/-- How an event is written. -/
def header : WyomingEvent × Layout → JsonObject
  | (event, .inline) => sentHeader event
  | (event, .separate) => separateHeader json event

/-- The bytes of the data, where they are not in the header. -/
def block : WyomingEvent × Layout → List UInt8
  | (_, .inline) => []
  | (event, .separate) => json.dumps (.obj event.data)

/-- The bytes of an event, and what is read of it. -/
def format : Decoder.Format (WyomingEvent × Layout) Event UInt8 where
  wire written := json.dumps (.obj (header json written)) ++
    10 :: (block json written ++ written.1.payload)
  value written := ⟨.str written.1.type, written.1.data, written.1.payload⟩

/-- The JSON of a value is not empty, has no newline in it, and is read as the value. -/
structure RoundTrips (value : Json) : Prop where
  loads : json.loads (json.dumps value) = .ok value
  newline : 10 ∉ json.dumps value
  nonempty : json.dumps value ≠ []

/-- The JSON of an event is read back. -/
structure Readable (written : WyomingEvent × Layout) : Prop where
  header : RoundTrips json (.obj (header json written))
  block : written.2 = .separate → RoundTrips json (.obj written.1.data)

end Writing

/-! ### Dictionaries -/

/-- A key that is not there comes last. -/
theorem set_of_notMem {d : JsonObject} {key : String} (value : Json) (h : key ∉ d.keys) :
    d.set key value = ⟨d.entries ++ [(key, value)]⟩ := by
  obtain ⟨entries⟩ := d
  induction entries with
  | nil => rfl
  | cons entry entries ih =>
    obtain ⟨hne, hnew⟩ : key ≠ entry.1 ∧ key ∉ (⟨entries⟩ : JsonObject).keys := by
      simpa [Dict.keys] using h
    have hset : (⟨entry :: entries⟩ : JsonObject).set key value =
        ⟨if key = entry.1 then (key, value) :: entries
          else entry :: ((⟨entries⟩ : JsonObject).set key value).entries⟩ := rfl
    rw [hset, if_neg hne, ih hnew]
    rfl

/-- A dictionary with different keys is made of its entries. -/
theorem update_append {d : JsonObject} {entries : List (String × Json)}
    (h : (d.entries ++ entries).map Prod.fst |>.Nodup) :
    d.update entries = ⟨d.entries ++ entries⟩ := by
  induction entries generalizing d with
  | nil => simp [Dict.update]
  | cons entry entries ih =>
    obtain ⟨key, value⟩ := entry
    have hnew : key ∉ d.keys := by
      rw [List.map_append, List.nodup_append] at h
      intro hmem
      exact h.2.2 key hmem key (by simp) rfl
    have hset : d.set key value = ⟨d.entries ++ [(key, value)]⟩ := set_of_notMem value hnew
    have hstep : d.update ((key, value) :: entries) = (d.set key value).update entries := rfl
    rw [hstep, hset, ih (by simpa using h)]
    simp

theorem textKeys_entries (entries : List (String × Json)) :
    textKeys (entries.map fun entry => (.str entry.1, entry.2)) = entries := by
  induction entries with
  | nil => rfl
  | cons entry entries ih =>
    simp only [textKeys] at ih
    simp [textKeys, Json.str?]

/-- The data of a block is what was written. -/
theorem update_empty (event : WyomingEvent) :
    update Dict.empty (.obj event.data) = .ok event.data := by
  have hentries : (Dict.empty : JsonObject).update event.data.entries = event.data :=
    update_append (d := Dict.empty) event.distinct
  simp [update, pairsOf, textKeys_entries, hentries, Except.map]

/-! ### Headers -/

section Headers

variable {json : JsonText} {py : Python}

@[simp] theorem get_withPayload_of_ne {header : JsonObject} {payload : List UInt8} {key : String}
    (h : key ≠ "payload_length") : (withPayload header payload).get key = header.get key := by
  simp only [withPayload]
  split
  · rfl
  · exact Dict.get_set_of_ne _ _ h

/-- Both length fields say how many bytes follow. -/
theorem lengthOf_withPayload {header : JsonObject} (payload : List UInt8)
    (h : header.get "payload_length" = none) :
    lengthOf py (withPayload header payload) "payload_length" = .ok payload.length := by
  by_cases hpayload : payload = []
  · simp [withPayload, hpayload, lengthOf, h]
  · simp [withPayload, hpayload, lengthOf, Json.truthy, Python.toInt, Except.mapError]

theorem lengthOf_payload (written : WyomingEvent × Layout) :
    lengthOf py (header json written) "payload_length" = .ok written.1.payload.length := by
  obtain ⟨event, layout⟩ := written
  cases layout with
  | inline =>
    apply lengthOf_withPayload
    split
    · rfl
    · rw [Dict.get_set_of_ne _ _ (by decide)]
      rfl
  | separate => exact lengthOf_withPayload _ rfl

theorem lengthOf_data {written : WyomingEvent × Layout} (h : Readable json written) :
    lengthOf py (header json written) "data_length" = .ok (block json written).length := by
  obtain ⟨event, layout⟩ := written
  cases layout with
  | inline =>
    have hget : (sentHeader event).get "data_length" = none := by
      rw [sentHeader, get_withPayload_of_ne (by decide)]
      split
      · rfl
      · rw [Dict.get_set_of_ne _ _ (by decide)]
        rfl
    simp [header, lengthOf, hget, block]
  | separate =>
    have hget : (separateHeader json event).get "data_length" =
        some (.int (json.dumps (.obj event.data)).length) := by
      rw [separateHeader, get_withPayload_of_ne (by decide)]
      rfl
    simp [header, lengthOf, hget, Json.truthy, Python.toInt, Except.mapError, block,
      (h.block rfl).nonempty]

theorem headerOf_written {written : WyomingEvent × Layout} (h : Readable json written) :
    headerOf json py (json.dumps (.obj (header json written))) =
      .ok (header json written, (block json written).length, written.1.payload.length) := by
  simp only [headerOf, h.header.loads, except_ok_bind, lengthOf_data h, lengthOf_payload]
  rfl

theorem get_type (written : WyomingEvent × Layout) :
    (header json written).get "type" = some (.str written.1.type) := by
  obtain ⟨event, layout⟩ := written
  cases layout with
  | inline =>
    rw [header, sentHeader, get_withPayload_of_ne (by decide)]
    split
    · rfl
    · rw [Dict.get_set_of_ne _ _ (by decide)]
      rfl
  | separate =>
    rw [header, separateHeader, get_withPayload_of_ne (by decide)]
    rfl

/-- The event that is made of what was written. -/
theorem eventOf_written {written : WyomingEvent × Layout} (h : Readable json written) :
    eventOf json (header json written) (block json written) written.1.payload =
      .ok ((format json).value written) := by
  obtain ⟨event, layout⟩ := written
  have htype : (header json (event, layout)).get "type" = some (.str event.type) := get_type _
  cases layout with
  | inline =>
    have hdata : dictOf ((sentHeader event).get "data") = .ok event.data := by
      rw [sentHeader, get_withPayload_of_ne (by decide)]
      split
      next hempty =>
        have hnil : event.data = Dict.empty := by
          obtain ⟨_, ⟨entries⟩, _, _⟩ := event
          simpa [Dict.empty] using hempty
        rw [hnil]
        rfl
      next => rw [Dict.get_set_self]; rfl
    simp only [header] at htype
    simp only [eventOf, header, block, hdata, htype, except_ok_bind]
    rfl
  | separate =>
    have hget : (separateHeader json event).get "data" = none := by
      rw [separateHeader, get_withPayload_of_ne (by decide)]
      rfl
    have hblock := h.block rfl
    simp only [header] at htype
    simp only [eventOf, header, block, hget, htype, dictOf, if_neg hblock.nonempty, hblock.loads,
      except_ok_bind, update_empty]
    rfl

/-! ### Reading what was written -/

/-- What is read of a line and the bytes after it. -/
theorem popEvent_line {line body : List UInt8} {header : JsonObject} {data payload : ℕ}
    (hline : 10 ∉ line) (hheader : headerOf json py line = .ok (header, (data : ℤ), (payload : ℤ))) :
    popEvent json py (line ++ 10 :: body) =
      if body.length < data + payload then (.ok none, line ++ 10 :: body)
      else
        ((eventOf json header (body.take data) ((body.drop data).take payload)).map some,
          body.drop (data + payload)) := by
  have hfind : (line ++ 10 :: body).findIdx? (· = 10) = some line.length := by
    have hnone : line.findIdx? (· = 10) = none := by
      rw [List.findIdx?_eq_none_iff]
      intro b hb
      simpa using fun heq : b = 10 => hline (heq ▸ hb)
    rw [List.findIdx?_append, hnone, List.findIdx?_cons]
    simp
  have htake : (line ++ 10 :: body).take line.length = line := by simp
  have hdrop : (line ++ 10 :: body).drop (line.length + 1) = body := by
    rw [List.drop_append]
    simp
  have hlength : ((line ++ 10 :: body).length : ℤ) < line.length + 1 + data + payload ↔
      body.length < data + payload := by
    rw [List.length_append, List.length_cons]
    omega
  simp only [popEvent, hfind, htake, hheader, hdrop, hlength]
  simp [upTo]

/-- Without a newline there is nothing to read. -/
theorem popEvent_of_no_newline {buffer : List UInt8} (h : 10 ∉ buffer) :
    popEvent json py buffer = (.ok none, buffer) := by
  have hnone : buffer.findIdx? (· = 10) = none := by
    rw [List.findIdx?_eq_none_iff]
    intro b hb
    simpa using fun heq : b = 10 => h (heq ▸ hb)
  simp only [popEvent, hnone]

/-- An event is read when it is whole, and nothing before. -/
theorem reads_written {written : WyomingEvent × Layout} (h : Readable json written) :
    Decoder.Reads (decoder json py) (format json) written where
  whole rest := by
    obtain ⟨line, hline⟩ : ∃ line, line = json.dumps (.obj (header json written)) := ⟨_, rfl⟩
    have hwire : (format json).wire written ++ rest =
        line ++ 10 :: (block json written ++ written.1.payload ++ rest) := by
      simp [format, hline]
    have hheader : headerOf json py line =
        .ok (header json written, (block json written).length, written.1.payload.length) :=
      hline ▸ headerOf_written h
    have hpop := @popEvent_line json py line (block json written ++ written.1.payload ++ rest) _ _ _
      (hline ▸ h.header.newline) hheader
    have htake : (block json written ++ written.1.payload ++ rest).take (block json written).length =
        block json written := by simp
    have hdrop : (block json written ++ written.1.payload ++ rest).drop (block json written).length =
        written.1.payload ++ rest := by simp
    have hrest : (block json written ++ written.1.payload ++ rest).drop
        ((block json written).length + written.1.payload.length) = rest := by
      rw [← List.length_append]
      simp
    rw [if_neg (by simp only [List.length_append]; omega), htake, hdrop, hrest, List.take_left,
      eventOf_written h] at hpop
    rw [hwire]
    exact hpop
  part bytes hprefix hne := by
    obtain ⟨missing, hmissing⟩ := hprefix
    by_cases hnewline : 10 ∈ bytes
    · -- The line is whole, and the bytes after it are not.
      obtain ⟨line, hline⟩ : ∃ line, line = json.dumps (.obj (header json written)) := ⟨_, rfl⟩
      have hsplit : bytes ++ missing = line ++ 10 :: (block json written ++ written.1.payload) := by
        rw [hmissing, hline]
        rfl
      have hlinePrefix : line ++ [10] <+: bytes := by
        have hboth : line ++ [10] <+: bytes ++ missing :=
          ⟨block json written ++ written.1.payload, by rw [hsplit]; simp⟩
        obtain hle | hgt := List.prefix_or_prefix_of_prefix hboth (List.prefix_append bytes missing)
        · exact hle
        · obtain heq | hshort := List.prefix_concat_iff.mp hgt
          · rw [heq]
          · exact absurd (hshort.subset hnewline) (hline ▸ h.header.newline)
      obtain ⟨body, hbody⟩ := hlinePrefix
      have hshape : bytes = line ++ 10 :: body := by simpa using hbody.symm
      have hlong : body ++ missing = block json written ++ written.1.payload := by
        rw [hshape, List.append_assoc, List.append_cancel_left_eq] at hsplit
        simpa using hsplit
      have hmissingLength : 0 < missing.length := by
        rw [List.length_pos_iff]
        rintro rfl
        exact hne (by rw [← hmissing]; simp)
      have hshort : body.length < (block json written).length + written.1.payload.length := by
        have := congrArg List.length hlong
        simp only [List.length_append] at this
        omega
      have hheader : headerOf json py line =
          .ok (header json written, (block json written).length, written.1.payload.length) :=
        hline ▸ headerOf_written h
      have hpop := @popEvent_line json py line body _ _ _ (hline ▸ h.header.newline) hheader
      rw [if_pos hshort] at hpop
      rw [hshape]
      exact hpop
    · exact popEvent_of_no_newline hnewline

/-- A whole event is taken from the front of the buffer. -/
theorem popEvent_wire {written : WyomingEvent × Layout} (h : Readable json written)
    (rest : List UInt8) :
    popEvent json py ((format json).wire written ++ rest) =
      (.ok (some ((format json).value written)), rest) :=
  (reads_written h).whole rest

end Headers

/-- **Framing is lossless.** -/
theorem framing_lossless (json : JsonText) (py : Python) (events : List (WyomingEvent × Layout))
    (hreadable : ∀ written ∈ events, Readable json written) (chunks : List (List UInt8))
    (h : chunks.flatten = events.flatMap (format json).wire) :
    (decoder json py).receive chunks = ⟨events.map (format json).value, [], none⟩ ∧
      ∀ taken, taken <+: chunks → ∃ done left, events = done ++ left ∧
        (decoder json py).receive taken =
          ⟨done.map (format json).value, ((decoder json py).receive taken).rest, none⟩ ∧
        taken.flatten =
          done.flatMap (format json).wire ++ ((decoder json py).receive taken).rest ∧
        Decoder.Waiting (format json) left ((decoder json py).receive taken).rest := by
  have hempty : (decoder json py).pop [] = (.ok none, []) :=
    @popEvent_of_no_newline json py [] (by simp)
  have hreads (written : WyomingEvent × Layout) (hmem : written ∈ events) :
      Decoder.Reads (decoder json py) (format json) written := reads_written (hreadable written hmem)
  refine ⟨Decoder.receive_all hempty hreads h, ?_⟩
  rintro taken ⟨more, rfl⟩
  rw [List.flatten_append] at h
  exact Decoder.receive_wire hempty hreads h

/-! ### Two events in three chunks -/

/-- A detection, in one line. -/
def detection : WyomingEvent × Layout :=
  (⟨"detection", ⟨[("name", .str "hexe")]⟩, [], by decide⟩, .inline)

/-- Audio whose bytes look like a line. -/
def audio : WyomingEvent × Layout :=
  (⟨"audio", ⟨[("rate", .int 16000)]⟩, [123, 10, 125], by decide⟩, .separate)

/-- A number or a text without anything to escape. -/
def atomText : Json → List Char
  | .str s => '"' :: s.toList ++ ['"']
  | .int n => n.repr.toList
  | _ => []

/-- An object. -/
def objectText (text : Json → List Char) (entries : JsonObject) : List Char :=
  '{' :: List.intercalate [','] (entries.entries.map fun entry =>
    '"' :: entry.1.toList ++ '"' :: ':' :: text entry.2) ++ ['}']

/-- What is written of an object of numbers, texts and objects of them. -/
def shallowDumps (value : Json) : List UInt8 :=
  let text : Json → List Char
    | .obj entries => objectText atomText entries
    | value => atomText value
  let all := match value with
    | .obj entries => objectText text entries
    | value => atomText value
  all.map fun c => c.toNat.toUInt8

/-- `json`, as far as the two events need it. -/
def shallowJson : JsonText where
  dumps := shallowDumps
  loads line :=
    let values := [.obj (sentHeader detection.1), .obj audio.1.data,
      .obj (withPayload ⟨[("type", .str "audio"), ("data_length", .int 14)]⟩ audio.1.payload)]
    match values.find? fun value => shallowDumps value = line with
    | some value => .ok value
    | none => .error (.python .valueError)

/-- The JSON of both events is read back. -/
theorem readable_events : Readable shallowJson detection ∧ Readable shallowJson audio :=
  ⟨⟨⟨rfl, by decide, by decide⟩, fun h => nomatch h⟩,
    ⟨⟨rfl, by decide, by decide⟩, fun _ => ⟨rfl, by decide, by decide⟩⟩⟩

/-- The bytes of both events. -/
def stream : List UInt8 := [detection, audio].flatMap (format shallowJson).wire

/-- The cuts are in the first line, and after the newline in the payload. -/
theorem two_events_received :
    (decoder shallowJson .ascii).receive
        [stream.take 20, (stream.drop 20).take 93, (stream.drop 20).drop 93] =
      ⟨[detection, audio].map (format shallowJson).value, [], none⟩ :=
  (framing_lossless shallowJson .ascii [detection, audio]
    (by simpa using readable_events) _ (by simp [stream, -List.drop_drop])).1

end HexeVoice.Voice.Wyoming
