import HexeVoice.Firmware.OtaManifest
import HexeVoice.Library.Machine
import Mathlib

/-!
# The OTA task

How `start_ota_update` and `ota_task` of `system/ota.cpp` share the request queue and `ota_active`.

## The model

The device has run `init_ota`. Any number of callers make calls of `start_ota_update`, each of them one
after the other. A step is one statement of a caller or of the task that touches the queue or
`ota_active`, with what precedes it that touches neither. What a download ends with is the input of the
step that ends it. An installed update restarts the device.

## What is proved

**`never_blocks_iff`**: in a run the free task always finds the flag clear, so that a valid manifest is
queued, exactly if no caller sets the flag when the task has already given up its request. The queue
never holds more than one request.
-/

namespace HexeVoice.Firmware.OtaTask

open HexeVoice.Library OtaManifest

/-! ### The parties -/

def kOtaQueueDepth : ℕ := 1

/-- Where a caller of `start_ota_update` stands. -/
inductive Caller where
  /-- It has not called yet. -/
  | idle
  /-- It has found `ota_active` clear. -/
  | checked (manifest : OtaUpdateManifest)
  /-- Its request is in the queue, and `ota_active` is still to be set. -/
  | sent
  /-- The call has returned, with the error code where it returned `false`. -/
  | returned (result : Except String Unit)

/-- No call is under way. -/
def Caller.Rests : Caller → Prop
  | .idle | .returned _ => True
  | .checked _ | .sent => False

/-- Where `ota_task` stands. -/
inductive Task where
  /-- In `xQueueReceive`. -/
  | waiting
  /-- It has received a request, and is still to set `ota_active`. -/
  | received (request : OtaRequest)
  /-- It downloads the image. -/
  | working (request : OtaRequest)

/-- The queue, the flag and all parties. -/
structure State where
  queue : List OtaRequest
  otaActive : Bool
  task : Task
  callers : ℕ → Caller

/-- The device as it starts. -/
def State.start : State where
  queue := []
  otaActive := false
  task := .waiting
  callers := fun _ => .idle

/-- The task waits, and nothing is queued for it. -/
def State.Free (s : State) : Prop := s.queue = [] ∧ s.task matches .waiting

instance (s : State) : Decidable s.Free :=
  inferInstanceAs (Decidable (s.queue = [] ∧ s.task matches .waiting))

/-- A caller moves on. -/
def State.moved (s : State) (caller : ℕ) (standing : Caller) : State :=
  { s with callers := Function.update s.callers caller standing }

/-! ### Downloads -/

/-- What `esp_https_ota` makes of a request. -/
inductive Download where
  /-- The download fails, or is not complete. -/
  | failed
  /-- The image is complete; `finished` if `esp_https_ota_finish` then succeeds. -/
  | complete (image : List UInt8) (finished : Bool)

/-- `result == ESP_OK`, at the end of a download. -/
def installed (h : Sha256) (request : OtaRequest) : Download → Bool
  | .failed => false
  | .complete image finished =>
    if request.sizeBytes > 0 ∧ (image.length : ℤ) ≠ request.sizeBytes then false
    else if h.hexdigest image ≠ request.sha256.text.bytes then false
    else finished

/-! ### Steps -/

/-- The statements that touch the queue or `ota_active`. -/
inductive Event where
  /-- `start_ota_update` reads `ota_active`. -/
  | check (caller : ℕ) (manifest : OtaUpdateManifest)
  /-- `start_ota_update` copies and validates the manifest, and `xQueueSend`. -/
  | send (caller : ℕ)
  /-- `start_ota_update` sets `ota_active`. -/
  | setActive (caller : ℕ)
  /-- `xQueueReceive`. -/
  | receive
  /-- `ota_task` sets `ota_active`. -/
  | begin
  /-- `ota_task` restarts the device, or clears `ota_active`. -/
  | finish (download : Download)

/-- `start_ota_update`, up to `ota_active`. -/
def check (s : State) (caller : ℕ) (manifest : OtaUpdateManifest) : State :=
  match s.callers caller with
  | .idle | .returned _ =>
    if s.otaActive then s.moved caller (.returned (.error "ota_update_active"))
    else s.moved caller (.checked manifest)
  | .checked _ | .sent => s

/-- `start_ota_update`, up to `xQueueSend`. -/
def send (h : Sha256) (board : Board) (s : State) (caller : ℕ) : State :=
  match s.callers caller with
  | .checked manifest =>
    match validateOtaManifest h board (requestOf manifest) with
    | .error code => s.moved caller (.returned (.error code))
    | .ok _ =>
      if s.queue.length < kOtaQueueDepth then
        { s.moved caller .sent with queue := s.queue ++ [requestOf manifest] }
      else s.moved caller (.returned (.error "ota_update_busy"))
  | .idle | .sent | .returned _ => s

/-- `start_ota_update`, to its end. -/
def setActive (s : State) (caller : ℕ) : State :=
  match s.callers caller with
  | .sent => { s.moved caller (.returned (.ok ())) with otaActive := true }
  | .idle | .checked _ | .returned _ => s

/-- `ota_task`, up to `xQueueReceive`. -/
def receive (s : State) : State :=
  match s.task, s.queue with
  | .waiting, request :: queue => { s with queue, task := .received request }
  | _, _ => s

/-- `ota_task`, up to `ota_active = true`. -/
def begin (s : State) : State :=
  match s.task with
  | .received request => { s with otaActive := true, task := .working request }
  | .waiting | .working _ => s

/-- `ota_task`, to its end. -/
def finish (h : Sha256) (s : State) (download : Download) : State :=
  match s.task with
  | .working request =>
    -- esp_restart: nothing of the state is left
    if installed h request download then .start
    else { s with otaActive := false, task := .waiting }
  | .waiting | .received _ => s

/-- One statement. -/
def step (h : Sha256) (board : Board) (s : State) : Event → State
  | .check caller manifest => check s caller manifest
  | .send caller => send h board s caller
  | .setActive caller => setActive s caller
  | .receive => receive s
  | .begin => begin s
  | .finish download => finish h s download

/-- A free task leaves the flag clear, and a caller with a valid manifest gets it queued. -/
def Unblocked (h : Sha256) (board : Board) (s : State) : Prop :=
  s.Free → s.otaActive = false ∧
    ∀ caller manifest, (s.callers caller).Rests →
      validateOtaManifest h board (requestOf manifest) = .ok () →
      (run (step h board) s [.check caller manifest, .send caller]).queue = [requestOf manifest]

/-- A caller that has sent its request sets the flag before the task is free again. -/
def SetInTime (s : State) : Event → Prop
  | .setActive caller => s.callers caller matches .sent → ¬ s.Free
  | _ => True

/-! ### What a step does -/

section steps

variable {h : Sha256} {board : Board} {s : State}

@[simp] theorem moved_queue (s : State) (caller : ℕ) (standing : Caller) :
    (s.moved caller standing).queue = s.queue := rfl

@[simp] theorem moved_task (s : State) (caller : ℕ) (standing : Caller) :
    (s.moved caller standing).task = s.task := rfl

@[simp] theorem moved_otaActive (s : State) (caller : ℕ) (standing : Caller) :
    (s.moved caller standing).otaActive = s.otaActive := rfl

@[simp] theorem moved_callers_self (s : State) (caller : ℕ) (standing : Caller) :
    (s.moved caller standing).callers caller = standing := by
  simp [State.moved]

@[simp] theorem moved_free (s : State) (caller : ℕ) (standing : Caller) :
    (s.moved caller standing).Free ↔ s.Free := Iff.rfl

/-- A caller that stays where it is. -/
theorem moved_eq_self {caller : ℕ} {standing : Caller} (hcaller : s.callers caller = standing) :
    s.moved caller standing = s := by
  subst hcaller
  simp [State.moved]

/-- A check touches no more than its caller. -/
theorem check_eq (s : State) (caller : ℕ) (manifest : OtaUpdateManifest) :
    ∃ standing, check s caller manifest = s.moved caller standing := by
  cases hcaller : s.callers caller with
  | idle | returned =>
    by_cases hactive : s.otaActive = true
    · exact ⟨.returned (.error "ota_update_active"), by simp [check, hcaller, hactive]⟩
    · exact ⟨.checked manifest, by simp [check, hcaller, hactive]⟩
  | checked manifest => exact ⟨.checked manifest, by simp [check, hcaller, moved_eq_self hcaller]⟩
  | sent => exact ⟨.sent, by simp [check, hcaller, moved_eq_self hcaller]⟩

/-- A caller that rests and finds the flag clear goes on. -/
theorem check_of_clear {caller : ℕ} (hrests : (s.callers caller).Rests)
    (hclear : s.otaActive = false) (manifest : OtaUpdateManifest) :
    check s caller manifest = s.moved caller (.checked manifest) := by
  cases hcaller : s.callers caller with
  | idle | returned => simp [check, hcaller, hclear]
  | checked | sent => simp [hcaller, Caller.Rests] at hrests

/-- A caller sends no more than what fits the queue. -/
theorem send_cases (h : Sha256) (board : Board) (s : State) (caller : ℕ) :
    (∃ standing, send h board s caller = s.moved caller standing) ∨
    ∃ request, s.queue.length < kOtaQueueDepth ∧
      send h board s caller = { s.moved caller .sent with queue := s.queue ++ [request] } := by
  cases hcaller : s.callers caller with
  | idle => exact .inl ⟨.idle, by simp [send, hcaller, moved_eq_self hcaller]⟩
  | sent => exact .inl ⟨.sent, by simp [send, hcaller, moved_eq_self hcaller]⟩
  | returned result =>
    exact .inl ⟨.returned result, by simp [send, hcaller, moved_eq_self hcaller]⟩
  | checked manifest =>
    cases hvalid : validateOtaManifest h board (requestOf manifest) with
    | error code => exact .inl ⟨.returned (.error code), by simp [send, hcaller, hvalid]⟩
    | ok _ =>
      by_cases hfits : s.queue.length < kOtaQueueDepth
      · exact .inr ⟨requestOf manifest, hfits, by simp [send, hcaller, hvalid, hfits]⟩
      · exact .inl ⟨.returned (.error "ota_update_busy"), by simp [send, hcaller, hvalid, hfits]⟩

/-- The task receives what is queued, and is then busy with it. -/
theorem receive_cases (s : State) :
    receive s = s ∨
    ∃ request, s.queue = request :: (receive s).queue ∧
      (receive s).task = .received request := by
  cases htask : s.task with
  | received | working => exact .inl (by simp [receive, htask])
  | waiting =>
    cases hqueue : s.queue with
    | nil => exact .inl (by simp [receive, htask, hqueue])
    | cons request queue => exact .inr ⟨request, by simp [receive, htask, hqueue]⟩

/-- The task sets the flag for the request that it has received. -/
theorem begin_cases (s : State) :
    begin s = s ∨
    ∃ request, s.task = .received request ∧
      begin s = { s with otaActive := true, task := .working request } := by
  cases htask : s.task with
  | received request => exact .inr ⟨request, rfl, by simp [begin, htask]⟩
  | waiting | working => exact .inl (by simp [begin, htask])

/-- Whatever a download ends with, the flag is clear after it. -/
theorem finish_cases (h : Sha256) (s : State) (download : Download) :
    finish h s download = s ∨ finish h s download = .start ∨
      finish h s download = { s with otaActive := false, task := .waiting } := by
  cases htask : s.task with
  | waiting | received => exact .inl (by simp [finish, htask])
  | working request =>
    by_cases hinstalled : installed h request download = true
    · exact .inr (.inl (by simp [finish, htask, hinstalled]))
    · exact .inr (.inr (by simp [finish, htask, hinstalled]))

/-! ### The invariants -/

/-- The queue holds no more than its depth. -/
def Bounded (s : State) : Prop := s.queue.length ≤ kOtaQueueDepth

theorem bounded_step (h : Sha256) (board : Board) (hs : Bounded s) (event : Event) :
    Bounded (step h board s event) := by
  cases event with
  | check caller manifest =>
    obtain ⟨standing, heq⟩ := check_eq s caller manifest
    simpa [step, heq, Bounded] using hs
  | send caller =>
    obtain ⟨standing, heq⟩ | ⟨request, hfits, heq⟩ := send_cases h board s caller
    · simpa [step, heq, Bounded] using hs
    · simpa [step, heq, Bounded] using hfits
  | setActive caller =>
    cases hcaller : s.callers caller <;> simpa [step, setActive, hcaller, Bounded] using hs
  | receive =>
    obtain heq | ⟨request, hqueue, -⟩ := receive_cases s
    · simpa [step, heq] using hs
    · rw [Bounded, hqueue, List.length_cons] at hs
      exact (Nat.le_succ _).trans hs
  | begin =>
    obtain heq | ⟨request, -, heq⟩ := begin_cases s <;> simpa [step, heq, Bounded] using hs
  | finish download =>
    obtain heq | heq | heq := finish_cases h s download
    · simpa [step, heq] using hs
    · simp [step, heq, Bounded, State.start]
    · simpa [step, heq, Bounded] using hs

/-- A free task leaves the flag clear. -/
def Clear (s : State) : Prop := s.Free → s.otaActive = false

/-- Where the flag is clear, a valid manifest is queued. -/
theorem unblocked_iff (h : Sha256) (board : Board) (s : State) :
    Unblocked h board s ↔ Clear s := by
  constructor
  · exact fun hs hfree => (hs hfree).1
  · intro hs hfree
    have hclear : s.otaActive = false := hs hfree
    refine ⟨hclear, fun caller manifest hrests hvalid => ?_⟩
    have hcheck := check_of_clear hrests hclear manifest
    simp [step, hcheck, send, hvalid, hfree.1, kOtaQueueDepth]

/-- **The step lemma**: a step keeps the flag clear for a free task exactly if it is no late setting
of the flag. -/
theorem clear_step_iff (h : Sha256) (board : Board) (hs : Clear s) (event : Event) :
    Clear (step h board s event) ↔ SetInTime s event := by
  cases event with
  | check caller manifest =>
    obtain ⟨standing, heq⟩ := check_eq s caller manifest
    simpa [step, heq, SetInTime, Clear] using hs
  | send caller =>
    obtain ⟨standing, heq⟩ | ⟨request, -, heq⟩ := send_cases h board s caller
    · simpa [step, heq, SetInTime, Clear] using hs
    · simp [step, heq, SetInTime, Clear, State.Free]
  | setActive caller =>
    cases hcaller : s.callers caller with
    | sent => simp [step, setActive, hcaller, SetInTime, Clear, State.Free, State.moved]
    | idle | checked | returned => simpa [step, setActive, hcaller, SetInTime] using hs
  | receive =>
    obtain heq | ⟨request, -, htask⟩ := receive_cases s
    · simpa [step, heq, SetInTime] using hs
    · simp [step, htask, SetInTime, Clear, State.Free]
  | begin =>
    obtain heq | ⟨request, -, heq⟩ := begin_cases s
    · simpa [step, heq, SetInTime] using hs
    · simp [step, heq, SetInTime, Clear, State.Free]
  | finish download =>
    obtain heq | heq | heq := finish_cases h s download
    · simpa [step, heq, SetInTime] using hs
    · simp [step, heq, SetInTime, Clear, State.start]
    · simp [step, heq, SetInTime, Clear]

end steps

/-! ### Whole runs -/

/-- **A finished attempt blocks nothing.** -/
theorem never_blocks_iff (h : Sha256) (board : Board) (events : List Event) :
    ((∀ taken, taken <+: events → Unblocked h board (run (step h board) .start taken)) ↔
      AllSteps (step h board) SetInTime .start events) ∧
    (run (step h board) .start events).queue.length ≤ kOtaQueueDepth := by
  constructor
  · simp only [unblocked_iff]
    apply throughout_iff (P := Clear)
    · exact fun s event hs => clear_step_iff h board hs event
    · exact fun _ => rfl
  · have hstart : Bounded .start := Nat.zero_le _
    have hsteps : AllSteps (step h board) (fun _ _ => True) .start events :=
      allSteps_of_forall (fun _ _ => trivial) _ _
    exact run_invariant (fun s event (hs : Bounded s) _ => bounded_step h board hs event) hstart
      hsteps

/-- The manifest of a valid request. -/
def newer : OtaUpdateManifest where
  requestId := none
  url := some (.ofAscii "http://10.0.0.5/a.bin")
  version := some (.ofAscii "2.0.0")
  profile := some voicePe.kBoardProfile
  sha256 := some (.ofText (asciiText (constantDigest.hexdigest [])))
  sizeBytes := 1000000
  applicationType := some kFirmwareApplicationType
  boardProfile := some voicePe.kBoardProfile
  soc := some voicePe.kSoc
  idfTarget := some voicePe.kIdfTarget
  flashSize := some voicePe.kFlashSize
  psramSize := some voicePe.kPsramSize
  partitionSchema := some voicePe.kPartitionSchema
  appSlotSize := some voicePe.kAppSlotSize
  firmwareApiVersion := some kFirmwareApiVersion
  modelApiVersion := some kModelApiVersion
  assetApiVersion := some kAssetApiVersion
  calibrationSchemaVersion := some kCalibrationSchemaVersion
  releaseChannel := some (.ofAscii "dev")
  securityPolicy := some kRequiredSecurityPolicy
  signatureAlgorithm := some kOtaSignatureAlgorithm
  signatureKeyId := some voicePe.kEndpointOtaManifestKeyId
  manifestSignature := some (.ofText (asciiText (constantDigest.hmac [] [])))

/-- The download fails before the caller goes on. -/
def failsEarly : List Event :=
  [.check 0 newer, .send 0, .receive, .begin, .finish .failed, .setActive 0]

/-- The task is free and the flag is set, so that the next call is refused. -/
theorem blocked_after_failure :
    validateOtaManifest constantDigest voicePe (requestOf newer) = .ok () ∧
      (run (step constantDigest voicePe) .start failsEarly).Free ∧
      (run (step constantDigest voicePe) .start failsEarly).otaActive = true ∧
      ((run (step constantDigest voicePe) .start (failsEarly ++ [.check 1 newer])).callers 1 matches
        .returned (.error "ota_update_active")) := by
  decide +kernel

end HexeVoice.Firmware.OtaTask
