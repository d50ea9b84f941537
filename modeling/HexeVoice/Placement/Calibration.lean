import HexeVoice.Library.Machine
import HexeVoice.Library.Text

/-!
# Placement calibration

`VoicePlacementCalibrationStore` of `persistence/voice_placement_calibration.py`: windows in
which an endpoint reports samples of the ambient sound of its room.

## The model

Times are microseconds; a window's length, a float number of hours in the source, is given in
microseconds too. The metrics of a sample are of any type, and `sanitizeMetrics` says what is
kept of them. The file is read and written as it is, without failing; `schema_version`,
`updated_at` and the constant `mode`, `raw_audio_policy` and `privacy` entries are left out. What
`uuid4` draws comes with the call, and the store remembers what was drawn.
-/

namespace HexeVoice.Placement

open HexeVoice.Library

/-- The status of a window. -/
inductive CalibrationStatus where
  | active | completed | cancelled
  deriving DecidableEq

/-- A calibration window. -/
structure CalibrationWindow where
  calibrationId : String
  endpointId : String
  room : String
  zone : Option String
  status : CalibrationStatus := .active
  startedAt : ℤ
  endsAt : ℤ
  sampleIntervalSeconds : ℤ
  nextSampleDueAt : Option ℤ
  retentionDays : ℤ
  sampleCount : ℕ := 0
  lastSampleAt : Option ℤ := none
  debugRecordAudio : Bool
  cancelledAt : Option ℤ := none
  completedAt : Option ℤ := none
  deriving DecidableEq

/-- A sample, with the metrics `μ` that are kept of it. -/
structure CalibrationSample (μ : Type) where
  sampleId : String
  calibrationId : String
  endpointId : String
  room : String
  zone : Option String
  observedAt : ℤ
  receivedAt : ℤ
  metrics : μ
  deriving DecidableEq

/-- `VoicePlacementCalibrationStore`, with its file, and the time of the last call. -/
structure VoicePlacementCalibrationStore (μ : Type) where
  maxWindows : ℕ
  maxSamples : ℕ
  windows : List CalibrationWindow := []
  samples : List (CalibrationSample μ) := []
  clock : ℤ
  drawn : List String := []
  deriving DecidableEq

/-- A new store: `max(1, int(max_windows))` and so on. -/
def VoicePlacementCalibrationStore.init (μ : Type) (maxWindows maxSamples : ℕ) (clock : ℤ) :
    VoicePlacementCalibrationStore μ :=
  { maxWindows := max 1 maxWindows, maxSamples := max 1 maxSamples, clock }

/-- `timedelta(hours=1)`. -/
def hour : ℤ := 3600000000

/-- `timedelta(days=1)`. -/
def day : ℤ := 24 * hour

/-- `x or d`, of a number. -/
def orDefault (x d : ℤ) : ℤ := if x = 0 then d else x

/-- The arguments of `start_window`. -/
structure WindowRequest where
  endpointId : String
  room : String
  zone : Option String := none
  duration : ℤ := 24 * hour
  sampleIntervalSeconds : ℤ := 600
  retentionDays : ℤ := 3
  debugRecordAudio : Bool := false
  deriving DecidableEq

/-- The window that `start_window` opens. -/
def newWindow (request : WindowRequest) (hex : String) (now : ℤ) : CalibrationWindow where
  calibrationId := "placement-cal-" ++ hex
  endpointId := strip request.endpointId
  room := strip request.room
  zone := (request.zone.map strip).filter (· ≠ "")
  startedAt := now
  endsAt := now + max hour (min (orDefault request.duration (24 * hour)) (48 * hour))
  sampleIntervalSeconds := max 60 (min (orDefault request.sampleIntervalSeconds 600) 3600)
  nextSampleDueAt := some now
  retentionDays := max 1 (min (orDefault request.retentionDays 3) 14)
  debugRecordAudio := request.debugRecordAudio

/-- A window of which the end has passed. -/
def CalibrationWindow.complete (w : CalibrationWindow) (now : ℤ) : CalibrationWindow :=
  if w.status = .active ∧ w.endsAt ≤ now then
    { w with status := .completed, completedAt := some w.endsAt, nextSampleDueAt := none }
  else w

/-- A cancelled window. -/
def CalibrationWindow.cancel (w : CalibrationWindow) (now : ℤ) : CalibrationWindow :=
  { w with status := .cancelled, cancelledAt := some now, nextSampleDueAt := none }

/-- A window with a sample more. -/
def CalibrationWindow.sampled (w : CalibrationWindow) (observedAt : ℤ) : CalibrationWindow :=
  let nextDue := observedAt + w.sampleIntervalSeconds * 1000000
  { w with
    sampleCount := w.sampleCount + 1
    lastSampleAt := some observedAt
    nextSampleDueAt := if nextDue < w.endsAt then some nextDue else none }

/-- The sample that `record_sample` records. -/
def newSample {μ : Type} (window : CalibrationWindow) (calibrationId : String) (metrics : μ)
    (observedAt : ℤ) (hex : String) (now : ℤ) : CalibrationSample μ where
  sampleId := "placement-sample-" ++ hex
  calibrationId
  endpointId := window.endpointId
  room := window.room
  zone := window.zone
  observedAt
  receivedAt := now
  metrics

namespace VoicePlacementCalibrationStore

variable {μ : Type} (s : VoicePlacementCalibrationStore μ)

/-- The stored window of this id. -/
def find (calibrationId : String) : Option CalibrationWindow :=
  s.windows.find? fun w => w.calibrationId = calibrationId

def completeExpiredWindows (now : ℤ) : VoicePlacementCalibrationStore μ :=
  { s with windows := s.windows.map (·.complete now) }

/-- How many days the samples of a window are kept: `int(window.get("retention_days") or 3)`, and
3 if there is no such window. Of windows with one id the last counts. -/
def retentionDays (calibrationId : String) : ℤ :=
  match s.windows.reverse.find? fun w => w.calibrationId = calibrationId with
  | some w => orDefault w.retentionDays 3
  | none => 3

/-- The sample is not past its retention. -/
def retains (now : ℤ) (sample : CalibrationSample μ) : Bool :=
  now - max 1 (s.retentionDays sample.calibrationId) * day ≤ sample.observedAt

def cleanup (now : ℤ) : VoicePlacementCalibrationStore μ :=
  let completed := s.completeExpiredWindows now
  { completed with samples := completed.samples.filter (completed.retains now) }

/-- A new window comes before the others, of which the last may fall out. -/
def addWindow (window : CalibrationWindow) : VoicePlacementCalibrationStore μ :=
  { s with
    windows := (window :: s.windows.filter fun stored =>
      stored.calibrationId ≠ window.calibrationId).take s.maxWindows }

def startWindow (request : WindowRequest) (hex : String) (now : ℤ) :
    Except String (CalibrationWindow × VoicePlacementCalibrationStore μ) :=
  let window := newWindow request hex now
  if window.endpointId = "" then .error "endpoint_id_required"
  else if window.room = "" then .error "room_required"
  else
    let s := s.completeExpiredWindows now
    .ok (window, s.addWindow window)

def cancelWindow (calibrationId : String) (now : ℤ) :
    Option CalibrationWindow × VoicePlacementCalibrationStore μ :=
  let target := strip calibrationId
  if target = "" then (none, s)
  else
    ((s.windows.filter fun w => w.calibrationId = target).getLast?.map (·.cancel now),
      { s with
        windows := s.windows.map fun w => if w.calibrationId = target then w.cancel now else w })

/-- The sample of a window comes before the others, and the window counts it. -/
def addSample (window : CalibrationWindow) (sample : CalibrationSample μ) :
    VoicePlacementCalibrationStore μ :=
  { s with
    windows := s.windows.map fun stored =>
      if stored.calibrationId = sample.calibrationId then window.sampled sample.observedAt else stored
    samples := (sample :: s.samples).take s.maxSamples }

variable {ν : Type} (sanitizeMetrics : ν → Except String μ)

/-- `record_sample`; `observed_at` is parsed already. -/
def recordSample (calibrationId : String) (metrics : ν) (observedAt : Option ℤ) (hex : String)
    (now : ℤ) : Except String (CalibrationSample μ × VoicePlacementCalibrationStore μ) :=
  let target := strip calibrationId
  if target = "" then .error "calibration_id_required"
  else
    let observedAt := observedAt.getD now
    let s := s.completeExpiredWindows now
    match s.find target with
    | none => .error "calibration_not_found"
    | some window =>
      if window.status ≠ .active then .error "calibration_not_active"
      else
        match sanitizeMetrics metrics with
        | .error error => .error error
        | .ok metrics =>
          let sample := newSample window target metrics observedAt hex now
          .ok (sample, (s.addSample window sample).cleanup now)

def getWindow (calibrationId : String) (now : ℤ) :
    Option CalibrationWindow × VoicePlacementCalibrationStore μ :=
  let target := strip calibrationId
  if target = "" then (none, s)
  else
    let s := s.cleanup now
    (s.find target, s)

/-- The samples of a window, of which `list_samples` gives the first. -/
def listed (calibrationId : String) (now : ℤ) : List (CalibrationSample μ) :=
  (s.cleanup now).samples.filter fun sample => sample.calibrationId = calibrationId

def listSamples (calibrationId : String) (limit : ℤ) (now : ℤ) :
    List (CalibrationSample μ) × VoicePlacementCalibrationStore μ :=
  let target := strip calibrationId
  if target = "" then ([], s)
  else ((s.listed target now).take (max 1 (min limit 5000)).toNat, s.cleanup now)

end VoicePlacementCalibrationStore

/-! ### Runs -/

/-- A call of the store; the metrics of a sample are of type `ν`. -/
inductive Call (ν : Type) where
  | startWindow (request : WindowRequest)
  | cancelWindow (calibrationId : String)
  | recordSample (calibrationId : String) (metrics : ν) (observedAt : Option ℤ)
  | getWindow (calibrationId : String)
  | listSamples (calibrationId : String) (limit : ℤ)
  | status
  | cleanup

/-- A call at a time, with what `uuid4` draws for it. -/
structure Input (ν : Type) where
  now : ℤ
  hex : String
  call : Call ν

section step

variable {μ ν : Type} (sanitizeMetrics : ν → Except String μ)

/-- What the call makes of the file: a call that raises leaves it. -/
def perform (s : VoicePlacementCalibrationStore μ) (input : Input ν) :
    VoicePlacementCalibrationStore μ :=
  match input.call with
  | .startWindow request =>
    match s.startWindow request input.hex input.now with
    | .ok (_, s') => s'
    | .error _ => s
  | .cancelWindow calibrationId => (s.cancelWindow calibrationId input.now).2
  | .recordSample calibrationId metrics observedAt =>
    match s.recordSample sanitizeMetrics calibrationId metrics observedAt input.hex input.now with
    | .ok (_, s') => s'
    | .error _ => s
  | .getWindow calibrationId => (s.getWindow calibrationId input.now).2
  | .listSamples calibrationId limit => (s.listSamples calibrationId limit input.now).2
  | .status | .cleanup => s.cleanup input.now

/-- The store after a call. -/
def step (s : VoicePlacementCalibrationStore μ) (input : Input ν) :
    VoicePlacementCalibrationStore μ :=
  { perform sanitizeMetrics s input with clock := input.now, drawn := input.hex :: s.drawn }

end step

end HexeVoice.Placement
