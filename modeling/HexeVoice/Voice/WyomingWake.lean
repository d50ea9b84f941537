import HexeVoice.Library.Machine
import HexeVoice.Voice.WyomingFrames
import Mathlib

/-!
# Wake words from a Wyoming service

`voice/wake.py`, `WyomingOpenWakeWordWakeDetector`: for each chunk of audio the detector sends it to the
service, and reads at most once from the connection.

## The model

The state is the connections, the buffers and the streams that are started, by endpoint and session. What
the network does in a call comes with it (`Network`). `status()` and the fields that it alone reads are
left out.

## What is proved

**`no_event_waits_iff`**: in a run every call that reads leaves no whole event in its buffer and reports
every detection that it has received, and no call raises, exactly if what comes in front of the buffers is
a header that is an object with lengths, and data that is a dictionary (or any of it is refused with
`ValueError`), and no second event is whole when the first one is read.
-/

namespace HexeVoice.Voice.Wyoming

open HexeVoice.Library

/-! ### The detector -/

/-- An endpoint and a session. -/
abbrev Key := String × String

/-- The state of a detector. -/
structure Detector where
  connections : List Key
  buffers : Dict Key (List UInt8)
  streamStarted : List Key

/-- `VoiceAudioChunkPayload`, as far as it is looked at. -/
structure Chunk where
  payloadBase64 : Option String
  chunkIndex : ℤ
  sampleRateHz : ℤ
  channels : ℤ

/-- What the network does in a call. -/
structure Network where
  /-- `socket.create_connection` returns. -/
  connects : Bool
  /-- `connection.sendall` of these bytes returns. -/
  sends : List UInt8 → Bool
  /-- Whether `select.select` finds the connection ready, unless it raises `OSError`. -/
  ready : Option Bool
  /-- What `connection.recv` returns, unless it raises `OSError`. -/
  recv : Option (List UInt8)

/-- `float()` of a whole number and of a text, unless it raises. -/
structure Floats where
  ofInt : ℤ → Option PyFloat
  ofText : String → Option PyFloat

/-- Why nothing was detected. -/
inductive Reason where
  | text (s : String)
  /-- `str(exc)`. -/
  | exception (e : Exn)

structure WakeDetectionResult where
  detected : Bool
  confidence : Option PyFloat
  model : String
  reason : Option Reason

/-- The detector's settings, and the functions that are not its own. -/
structure Config where
  threshold : PyFloat
  wakeNames : List String
  json : JsonText
  py : Python
  floats : Floats
  /-- `base64.b64decode(text, validate=True)`, unless it raises `ValueError`. -/
  b64decode : String → Option (List UInt8)

/-- `float(value)`. -/
def Floats.toFloat (floats : Floats) : Json → Except PyException PyFloat
  | .bool b => .ok (.finite (if b then 1 else 0))
  | .int n =>
    match floats.ofInt n with
    | some x => .ok x
    | none => .error .overflowError
  | .float x => .ok x
  | .str s =>
    match floats.ofText s with
    | some x => .ok x
    | none => .error .valueError
  | .null | .arr _ | .obj _ => .error .typeError

/-- `x >= y`. -/
def floatGe : PyFloat → PyFloat → Bool
  | .finite x, .finite y => y ≤ x
  | .finite _, .infinite negative => negative
  | .infinite negative, .finite _ => !negative
  | .infinite negative, .infinite negative' => !negative || negative'
  | .nan, _ => false
  | _, .nan => false

/-- What `except (OSError, ValueError)` catches. -/
def Exn.caught : Exn → Bool
  | .osError | .python .valueError => true
  | _ => false

section Detection

variable (config : Config)

/-- The events that open a stream. -/
def opening (chunk : Chunk) : List WyomingEvent :=
  [if config.wakeNames = [] then ⟨"detect", Dict.empty, [], by simp [Dict.keys, Dict.empty]⟩
    else ⟨"detect", ⟨[("names", .arr (config.wakeNames.map .str))]⟩, [], by simp [Dict.keys]⟩,
  ⟨"audio-start",
    ⟨[("rate", .int chunk.sampleRateHz), ("width", .int 2), ("channels", .int chunk.channels)]⟩, [],
    by simp [Dict.keys]⟩]

/-- The event of a chunk. -/
def audioChunk (chunk : Chunk) (audio : List UInt8) : WyomingEvent :=
  ⟨"audio-chunk",
    ⟨[("rate", .int chunk.sampleRateHz), ("width", .int 2), ("channels", .int chunk.channels),
      ("timestamp", .int chunk.chunkIndex)]⟩, audio, by simp [Dict.keys]⟩

/-- `_connection`, unless `create_connection` raises. -/
def connect (network : Network) (key : Key) (detector : Detector) : Option Detector :=
  if key ∈ detector.connections then some detector
  else if network.connects then
    some { detector with
      connections := key :: detector.connections, buffers := detector.buffers.set key [] }
  else none

def dropConnection (key : Key) (detector : Detector) : Detector :=
  { connections := detector.connections.filter (· ≠ key)
    buffers := detector.buffers.erase key
    streamStarted := detector.streamStarted.filter (· ≠ key) }

/-- The events are sent one by one. -/
def sent (network : Network) (events : List WyomingEvent) : Bool :=
  events.all fun event => network.sends (sendEvent config.json event)

/-- The stream is opened, unless sending raises. -/
def start (network : Network) (key : Key) (chunk : Chunk) (detector : Detector) : Option Detector :=
  if key ∈ detector.streamStarted then some detector
  else if sent config network (opening config chunk) then
    some { detector with streamStarted := key :: detector.streamStarted }
  else none

/-- The buffer of a stream. -/
def Detector.buffer (detector : Detector) (key : Key) : List UInt8 := (detector.buffers.get key).getD []

/-- What is appended to the buffer: `select` and `recv` of `_read_event`. -/
def received (network : Network) : Except Exn (Option (List UInt8)) :=
  match network.ready with
  | none => .error .osError
  | some false => .ok none
  | some true =>
    match network.recv with
    | none | some [] => .error .osError
    | some data => .ok (some data)

def readEvent (network : Network) (key : Key) (detector : Detector) :
    Except Exn (Option Event) × Detector :=
  match received network with
  | .error e => (.error e, detector)
  | .ok none => (.ok none, detector)
  | .ok (some data) =>
    let popped := popEvent config.json config.py (detector.buffer key ++ data)
    (popped.1, { detector with buffers := detector.buffers.set key popped.2 })

/-- The detector when it comes to read, if it does. -/
def prepared (network : Network) (key : Key) (chunk : Chunk) (audio : List UInt8)
    (detector : Detector) : Option Detector :=
  ((connect network key detector).bind (start config network key chunk)).bind fun detector =>
    if sent config network [audioChunk chunk audio] then some detector else none

/-- `isinstance(event, dict)` and `event.get("type") == "detection"`. -/
def isDetection (event : Event) : Bool := event.type.str? = some "detection"

/-- The confidence of a detection. -/
def confidenceOf (event : Event) : Except Exn PyFloat :=
  match (event.data.get "confidence").getD .null with
  | .null => .ok (.finite 1)
  | value =>
    match config.floats.toFloat value with
    | .ok x => .ok x
    | .error .overflowError => .error (.python .overflowError)
    | .error _ => .ok (.finite 1)

def noDetection (reason : Reason) : WakeDetectionResult :=
  ⟨false, none, "supervised_openwakeword", some reason⟩

/-- What is returned for a detection. -/
def reported (event : Event) (confidence : PyFloat) : WakeDetectionResult :=
  ⟨floatGe confidence config.threshold, some confidence,
    config.py.firstText [event.data.get "name", event.data.get "model",
      some (.str "supervised_openwakeword")],
    if floatGe confidence config.threshold then none else some (.text "below_threshold")⟩

/-- What is returned for the event that was read, if any. -/
def resultOf (event : Option Event) : Except Exn WakeDetectionResult :=
  match event with
  | some event =>
    if isDetection event then (confidenceOf config event).map (reported config event)
    else .ok (noDetection (.text "no_detection"))
  | none => .ok (noDetection (.text "no_detection"))

/-- A call of `inspect_chunk`, and what the network does in it. -/
structure Inspection where
  key : Key
  chunk : Chunk
  network : Network

def inspectChunk (call : Inspection) (detector : Detector) :
    Except Exn WakeDetectionResult × Detector :=
  match call.chunk.payloadBase64 with
  | none | some "" => (.ok (noDetection (.text "empty_audio_payload")), detector)
  | some text =>
    match config.b64decode text with
    | none => (.ok (noDetection (.text "invalid_audio_payload")), detector)
    | some audio =>
      match prepared config call.network call.key call.chunk audio detector with
      | none => (.ok (noDetection (.exception .osError)), dropConnection call.key detector)
      | some detector =>
        match readEvent config call.network call.key detector with
        | (.ok event, detector) => (resultOf config event, detector)
        | (.error e, detector) =>
          if e.caught then (.ok (noDetection (.exception e)), dropConnection call.key detector)
          else (.error e, detector)

/-- What is done with a detector. -/
inductive Action where
  | inspect (call : Inspection)
  /-- `close_session`. -/
  | close (key : Key)

/-- The detector after an action. -/
def step (detector : Detector) : Action → Detector
  | .inspect call => (inspectChunk config call detector).2
  | .close key => dropConnection key detector

/-! ### What is asked of a call -/

/-- The bytes that a call reads, and the buffer they are appended to. -/
def reading (call : Inspection) (detector : Detector) : Option (List UInt8 × List UInt8) :=
  match call.chunk.payloadBase64 with
  | none | some "" => none
  | some text =>
    match config.b64decode text with
    | none => none
    | some audio =>
      match prepared config call.network call.key call.chunk audio detector with
      | none => none
      | some detector =>
        match received call.network with
        | .ok (some data) => some (detector.buffer call.key, data)
        | _ => none

/-- The bytes begin with a whole event. -/
def Whole (bytes : List UInt8) : Prop :=
  ∃ event rest, popEvent config.json config.py bytes = (.ok (some event), rest)

/-- The call does not raise, and if it reads, no whole event is left in the buffer, and every detection
that is whole with what it reads is reported. -/
def Delivers (detector : Detector) : Action → Prop
  | .close _ => True
  | .inspect call =>
    (∃ result, (inspectChunk config call detector).1 = .ok result) ∧
      ∀ old data, reading config call detector = some (old, data) →
        (∀ left, (inspectChunk config call detector).2.buffers.get call.key = some left →
          ¬ Whole config left) ∧
        ∀ event ∈ ((decoder config.json config.py).drain (old ++ data)).popped, isDetection event →
          ∃ confidence, (inspectChunk config call detector).1 = .ok (reported config event confidence)

/-- What is raised, if anything, is caught. -/
def Accepted {α : Type} (outcome : Except Exn α) (P : α → Prop) : Prop :=
  match outcome with
  | .ok a => P a
  | .error e => e.caught

/-- The lengths of a header are numbers, or refused with `ValueError`. -/
def LengthsAccepted (header : JsonObject) (P : ℤ × ℤ → Prop) : Prop :=
  Accepted (lengthOf config.py header "data_length") fun data_length =>
    Accepted (lengthOf config.py header "payload_length") fun payload_length =>
      P (data_length, payload_length)

/-- The data is a dictionary, or refused with `ValueError`. -/
def DataAccepted (header : JsonObject) (extraData : List UInt8) (P : JsonObject → Prop) : Prop :=
  Accepted (dictOf (header.get "data")) fun data =>
    if extraData = [] then P data
    else Accepted (config.json.loads extraData) fun more => Accepted (update data more) P

/-- The confidence of a detection is no whole number that is too large for a float. -/
def ConfidenceAccepted (header data : JsonObject) : Prop :=
  ((header.get "type").getD .null).str? = some "detection" → ∀ n,
    data.get "confidence" = some (.int n) → (config.floats.ofInt n).isSome

/-- The line is an object with lengths; and if what they say is there, its data is a dictionary, and no
second event is whole after it. -/
def Tame (bytes : List UInt8) : Prop :=
  ∀ newline, bytes.findIdx? (· = 10) = some newline →
    Accepted (config.json.loads (bytes.take newline)) fun value => ∃ header, value = .obj header ∧
      LengthsAccepted config header fun (data_length, payload_length) =>
        newline + 1 + data_length + payload_length ≤ bytes.length →
          let body := bytes.drop (newline + 1)
          let tail := body.drop (upTo data_length body)
          DataAccepted config header (body.take (upTo data_length body)) fun data =>
            ConfidenceAccepted config header data ∧
              ¬ Whole config (tail.drop (upTo payload_length tail))

/-- What a call reads is tame. -/
def ReadsTame (detector : Detector) : Action → Prop
  | .close _ => True
  | .inspect call => ∀ old data, reading config call detector = some (old, data) →
    Tame config (old ++ data)

/-! ### One event -/

variable {config}

/-- A confidence is read unless it is too large. -/
theorem confidenceOf_ok_iff {event : Event} :
    (∃ confidence, confidenceOf config event = .ok confidence) ↔
      ∀ n, event.data.get "confidence" = some (.int n) → (config.floats.ofInt n).isSome := by
  rw [confidenceOf]
  cases hvalue : event.data.get "confidence" with
  | none => simp
  | some value =>
    cases value with
    | int n => cases hfloat : config.floats.ofInt n <;> simp [Floats.toFloat, hfloat]
    | str s => cases hfloat : config.floats.ofText s <;> simp [Floats.toFloat, hfloat]
    | _ => simp [Floats.toFloat]

/-- What is asked of the outcome of reading an event. -/
def OutcomeTame (config : Config) (outcome : Except Exn (Option Event) × List UInt8) : Prop :=
  Accepted outcome.1 fun event => ∀ e, event = some e →
    (isDetection e → ∃ confidence, confidenceOf config e = .ok confidence) ∧ ¬ Whole config outcome.2

theorem accepted_bind {α β : Type} {x : Except Exn α} {f : α → Except Exn β} {P : β → Prop} :
    Accepted (x >>= f) P ↔ Accepted x fun a => Accepted (f a) P := by
  cases x <;> rfl

theorem accepted_map {α β : Type} {x : Except Exn α} {f : α → β} {P : β → Prop} :
    Accepted (x.map f) P ↔ Accepted x fun a => P (f a) := by
  cases x <;> rfl

/-- The event that is made of what follows a header. -/
theorem accepted_eventOf (header : JsonObject) (extraData payload rest : List UInt8) :
    OutcomeTame config ((eventOf config.json header extraData payload).map some, rest) ↔
      DataAccepted config header extraData fun data =>
        ConfidenceAccepted config header data ∧ ¬ Whole config rest := by
  simp only [OutcomeTame, accepted_map, eventOf, accepted_bind, DataAccepted]
  cases dictOf (header.get "data") with
  | error e => rfl
  | ok data =>
    have hmade (data : JsonObject) :
        (Accepted (pure (⟨(header.get "type").getD .null, data, payload⟩ : Event) : Except Exn Event)
          fun event => ∀ e, some event = some e →
            (isDetection e → ∃ confidence, confidenceOf config e = .ok confidence) ∧
              ¬ Whole config rest) ↔
          ConfidenceAccepted config header data ∧ ¬ Whole config rest := by
      simp [Accepted, pure, Except.pure, isDetection, confidenceOf_ok_iff, ConfidenceAccepted]
    simp only [Accepted] at hmade ⊢
    by_cases hempty : extraData = []
    · simp only [hempty, if_true]
      exact hmade data
    · simp only [hempty, if_false, bind, Except.bind]
      cases config.json.loads extraData with
      | error e => rfl
      | ok more =>
        cases hupdate : update data more with
        | error e => simp [hupdate]
        | ok data' => simpa [hupdate] using hmade data'

/-- **Bytes are tame exactly if reading an event of them is**: it raises nothing that is not caught,
and what it reads is the only whole event. -/
theorem tame_iff (bytes : List UInt8) :
    Tame config bytes ↔ OutcomeTame config (popEvent config.json config.py bytes) := by
  simp only [Tame, popEvent]
  cases hfind : bytes.findIdx? (· = 10) with
  | none => simp [OutcomeTame, Accepted]
  | some newline =>
    simp only [Option.some.injEq, forall_eq', headerOf]
    cases config.json.loads (bytes.take newline) with
    | error e => simp [OutcomeTame, Accepted, bind, Except.bind]
    | ok value =>
      cases value with
      | obj header =>
        simp only [except_ok_bind, Accepted, Json.obj.injEq, exists_eq_left', LengthsAccepted]
        cases lengthOf config.py header "data_length" with
        | error e => simp [OutcomeTame, Accepted, bind, Except.bind]
        | ok data_length =>
          cases lengthOf config.py header "payload_length" with
          | error e => simp [OutcomeTame, Accepted, bind, Except.bind]
          | ok payload_length =>
            simp only [except_ok_bind, pure, Except.pure]
            by_cases hshort : (bytes.length : ℤ) < newline + 1 + data_length + payload_length
            · rw [if_pos hshort]
              simp [OutcomeTame, Accepted, hshort]
            · rw [if_neg hshort, accepted_eventOf]
              exact ⟨fun h => h (not_lt.mp hshort), fun h _ => h⟩
      | _ => simp [OutcomeTame, Accepted, Exn.caught, throw, throwThe, MonadExceptOf.throw]

/-! ### One call -/

/-- A call that reads nothing does not raise. -/
theorem inspectChunk_of_no_reading {call : Inspection} {detector : Detector}
    (h : reading config call detector = none) :
    ∃ result, (inspectChunk config call detector).1 = .ok result := by
  simp only [reading, inspectChunk] at h ⊢
  split at h
  · exact ⟨_, rfl⟩
  · exact ⟨_, rfl⟩
  · split at h
    · exact ⟨_, rfl⟩
    · split at h
      · exact ⟨_, rfl⟩
      next detector' hprepared =>
        simp only [readEvent]
        cases hreceived : received call.network with
        | error e =>
          have hos : e = .osError := by
            simp only [received] at hreceived
            split at hreceived <;> try split at hreceived
            all_goals simp_all
          simp [hos, Exn.caught]
        | ok data =>
          cases data with
          | none => exact ⟨_, rfl⟩
          | some data => simp [hreceived] at h

/-- A call that reads takes an event of what is in the buffer then. -/
theorem inspectChunk_of_reading {call : Inspection} {detector : Detector} {old data : List UInt8}
    (h : reading config call detector = some (old, data)) :
    ∃ connected : Detector, inspectChunk config call detector =
      match popEvent config.json config.py (old ++ data) with
      | (.ok event, rest) =>
        (resultOf config event, { connected with buffers := connected.buffers.set call.key rest })
      | (.error e, rest) =>
        if e.caught then
          (.ok (noDetection (.exception e)),
            dropConnection call.key { connected with buffers := connected.buffers.set call.key rest })
        else (.error e, { connected with buffers := connected.buffers.set call.key rest }) := by
  simp only [reading] at h
  split at h
  · cases h
  · cases h
  next text hne htext =>
    split at h
    · cases h
    next audio haudio =>
      split at h
      · cases h
      next connected hprepared =>
        split at h
        next data' hreceived =>
          obtain ⟨rfl, rfl⟩ : connected.buffer call.key = old ∧ data' = data := by simpa using h
          refine ⟨connected, ?_⟩
          simp only [inspectChunk, htext, haudio, hprepared, readEvent, hreceived]
          cases popEvent config.json config.py (connected.buffer call.key ++ data') with
          | mk outcome rest => cases outcome <;> rfl
        · cases h

theorem map_some_ne (x : Except Exn Event) : x.map some ≠ .ok none := by
  cases x <;> simp [Except.map]

/-- Without an event the buffer is as it was. -/
theorem popEvent_none_rest {json : JsonText} {py : Python} {buffer rest : List UInt8}
    (h : popEvent json py buffer = (.ok none, rest)) : rest = buffer := by
  simp only [popEvent] at h
  split at h
  · simpa using h.symm
  · split at h
    · simp at h
    · split at h
      · simpa using h.symm
      · exact absurd (congrArg Prod.fst h) (map_some_ne _)

/-- What is reported is the detection, and something is reported exactly if its confidence is read. -/
theorem resultOf_some (event : Event) :
    (∃ result, resultOf config (some event) = .ok result) ↔
      (isDetection event → ∃ confidence, confidenceOf config event = .ok confidence) := by
  by_cases hdetection : isDetection event
  · cases hconfidence : confidenceOf config event <;> simp [resultOf, hdetection, hconfidence, Except.map]
  · simp [resultOf, hdetection]

/-- **A call delivers what it reads exactly if that is tame.** -/
theorem delivers_iff (detector : Detector) (action : Action) :
    Delivers config detector action ↔ ReadsTame config detector action := by
  cases action with
  | close key => rfl
  | inspect call =>
    simp only [Delivers, ReadsTame]
    cases hreading : reading config call detector with
    | none => simpa using inspectChunk_of_no_reading hreading
    | some bytes =>
      obtain ⟨old, data⟩ := bytes
      obtain ⟨connected, hcall⟩ := inspectChunk_of_reading hreading
      simp only [Option.some.injEq, Prod.mk.injEq, and_imp, forall_apply_eq_imp_iff, forall_eq', hcall,
        tame_iff]
      cases hpop : popEvent config.json config.py (old ++ data) with
      | mk outcome rest =>
        have hdecoder : (decoder config.json config.py).pop (old ++ data) = (outcome, rest) := hpop
        cases outcome with
        | error e =>
          rw [Decoder.drain_of_error hdecoder]
          cases hcaught : e.caught <;>
            simp [OutcomeTame, Accepted, hcaught, dropConnection, Dict.get_erase]
        | ok event =>
          cases event with
          | none =>
            have hrest : ¬ Whole config rest := by
              rw [popEvent_none_rest hpop]
              rintro ⟨event, left, hwhole⟩
              simp [hpop] at hwhole
            rw [Decoder.drain_of_none hdecoder]
            simp [OutcomeTame, Accepted, resultOf, hrest]
          | some event =>
            rw [Decoder.drain_of_some hdecoder]
            have houtcome : OutcomeTame config (.ok (some event), rest) ↔
                (∃ result, resultOf config (some event) = .ok result) ∧ ¬ Whole config rest := by
              simp [OutcomeTame, Accepted, resultOf_some]
            rw [houtcome]
            constructor
            · rintro ⟨hresult, hleft⟩
              exact ⟨hresult, hleft.1 rest (by simp)⟩
            · rintro ⟨hresult, hrest⟩
              refine ⟨hresult, ?_, ?_⟩
              · simpa using hrest
              · -- The event that is read is the only whole one.
                have hnone : ((decoder config.json config.py).drain rest).popped = [] :=
                  Decoder.popped_drain_eq_nil fun event left hwhole => hrest ⟨event, left, hwhole⟩
                intro e he hdetection
                rw [hnone, List.mem_singleton] at he
                subst he
                obtain ⟨confidence, hconfidence⟩ := (resultOf_some e).mp hresult hdetection
                exact ⟨confidence, by simp [resultOf, hdetection, hconfidence, Except.map]⟩

end Detection

/-- A detector without connections. -/
def Detector.initial : Detector := ⟨[], Dict.empty, []⟩

/-- **No event is left waiting exactly if what is read is tame**: in every run, all calls deliver what
they read exactly if all of them read what is tame. -/
theorem no_event_waits_iff (config : Config) (actions : List Action) :
    AllSteps (step config) (Delivers config) .initial actions ↔
      AllSteps (step config) (ReadsTame config) .initial actions :=
  ⟨AllSteps.mono fun detector action => (delivers_iff detector action).mp,
    AllSteps.mono fun detector action => (delivers_iff detector action).mpr⟩

/-! ### Two events in one read -/

/-- A service whose audio is not looked at. -/
def wakeConfig : Config where
  threshold := .finite 0
  wakeNames := []
  json := shallowJson
  py := .ascii
  floats := ⟨fun n => some (.finite n), fun _ => none⟩
  b64decode := fun _ => some [0]

/-- The service sends audio and a detection at once. -/
def bothAtOnce : Inspection where
  key := ("kitchen", "s1")
  chunk := ⟨some "AA==", 0, 16000, 1⟩
  network := ⟨true, fun _ => true, some true, some ([audio, detection].flatMap (format shallowJson).wire)⟩

/-- The detection is left in the buffer. -/
theorem detection_waits :
    ¬ AllSteps (step wakeConfig) (Delivers wakeConfig) .initial [.inspect bothAtOnce] := by
  rintro ⟨hdelivers, -⟩
  have htame := (delivers_iff _ _).mp hdelivers [] _ rfl
  rw [tame_iff, List.nil_append, List.flatMap_cons] at htame
  change OutcomeTame wakeConfig (popEvent shallowJson .ascii _) at htame
  rw [popEvent_wire readable_events.2] at htame
  have hsecond := @popEvent_wire shallowJson .ascii _ readable_events.1 []
  exact (htame _ rfl).2 ⟨(format shallowJson).value detection, [], hsecond⟩

end HexeVoice.Voice.Wyoming
