import HexeVoice.Firmware.MicroWakeModel
import HexeVoice.Library.Ring
import Mathlib

/-!
# The frontend of the wake word engine

`process_micro_wake_frame`, `generate_feature` and `process_feature_for_models` of
`voice/micro_wake_engine.cpp`: samples go into a ring of 480, and every 160 samples the ring is handed
to the feature frontend, whose row of features goes to the models.

## The model

The feature frontend of TFLM is a parameter, as the interpreters of the models are. What is returned
with the new engine is the windows that were handed over.

## What is proved

**`windows_of_frames`**: as long as no invocation of the frontend fails, the windows are those of the
stream, however it is cut, and the engine is the one that takes the stream as one frame.
-/

namespace HexeVoice.Firmware.MicroWake

open HexeVoice.Library

variable {detections detections' : LocalKeywordFrameDetections} {samples : List Int16}
variable {taken : List Int16}

def kPreprocessorWindowSamples : ℕ := 480
def kPreprocessorStepSamples : ℕ := 160

variable {σ τ : Type*}

/-- The feature frontend of TFLM; `none` where `Invoke` fails. -/
abbrev Preprocessor (τ : Type*) : Type _ := τ → List Int16 → Option Feature × τ

/-- `AudioFrontendState`, with the state of its interpreter. -/
structure AudioFrontendState (τ : Type*) where
  state : τ
  ready : Bool
  rollingSamples : Vector Int16 kPreprocessorWindowSamples
  writeIndex : ℕ
  samplesFilled : ℕ
  totalSamples : UInt64
  lastFeatureSample : UInt64

/-- The frontend after `release_frontend` and a successful `initialize_audio_frontend`. -/
def AudioFrontendState.initialized (state : τ) : AudioFrontendState τ where
  state
  ready := true
  rollingSamples := .replicate kPreprocessorWindowSamples 0
  writeIndex := 0
  samplesFilled := 0
  totalSamples := 0
  lastFeatureSample := 0

structure EngineModel (σ : Type*) where
  role : MicroWakeModelRole
  metadata : LocalKeywordModel
  tflm : Interpreter σ
  enabled : Bool
  valid : Bool
  /-- The runtime, where it is loaded. -/
  runtime : Option (StreamingRuntime σ)

/-- `EngineState`, once it is initialized. -/
structure EngineState (σ τ : Type*) where
  models : List (EngineModel σ)
  frontend : AudioFrontendState τ

structure LocalKeywordFrameDetections where
  wake : Option LocalKeywordDetection
  playbackStop : Option LocalKeywordDetection

def LocalKeywordFrameDetections.empty : LocalKeywordFrameDetections := ⟨none, none⟩

/-- A detection of a model with the role. -/
def LocalKeywordFrameDetections.note (detections : LocalKeywordFrameDetections)
    (role : MicroWakeModelRole) :
    Option LocalKeywordDetection → LocalKeywordFrameDetections
  | none => detections
  | some detection =>
    match role with
    | .playbackStop => { detections with playbackStop := some detection }
    | .wake => { detections with wake := some detection }

def processFeatureForModels (feature : Feature) :
    List (EngineModel σ) → LocalKeywordFrameDetections →
      Except Fault (LocalKeywordFrameDetections × List (EngineModel σ))
  | [], detections => .ok (detections, [])
  | model :: models, detections =>
    match model.enabled && model.valid, model.runtime with
    | true, some runtime =>
      match processFeature model.tflm model.role model.metadata runtime feature with
      | .error fault => .error fault
      | .ok (pass, runtime) =>
        match processFeatureForModels feature models (detections.note model.role pass.detection) with
        | .error fault => .error fault
        | .ok (detections, models) =>
          .ok (detections, { model with runtime := some runtime } :: models)
    | _, _ =>
      match processFeatureForModels feature models detections with
      | .error fault => .error fault
      | .ok (detections, models) => .ok (detections, model :: models)

/-- The detections of a frame, with those of one of its features. -/
def LocalKeywordFrameDetections.merge (detections found : LocalKeywordFrameDetections) :
    LocalKeywordFrameDetections where
  wake := found.wake.or detections.wake
  playbackStop := found.playbackStop.or detections.playbackStop

def roleRuntimeReady (models : List (EngineModel σ)) (role : MicroWakeModelRole) : Bool :=
  models.any fun model => model.role = role && model.valid && model.enabled && model.runtime.isSome

def roleReady (engine : EngineState σ τ) (role : MicroWakeModelRole) : Bool :=
  roleRuntimeReady engine.models role && engine.frontend.ready

/-- A sample goes into the ring. -/
def AudioFrontendState.push (frontend : AudioFrontendState τ) (sample : Int16) :
    AudioFrontendState τ :=
  { frontend with
    rollingSamples := frontend.rollingSamples.setIfInBounds frontend.writeIndex sample
    writeIndex := (frontend.writeIndex + 1) % kPreprocessorWindowSamples
    samplesFilled :=
      if frontend.samplesFilled < kPreprocessorWindowSamples then frontend.samplesFilled + 1
      else frontend.samplesFilled
    totalSamples := frontend.totalSamples + 1 }

/-- Whether it is time for a feature. -/
def AudioFrontendState.featureDue (frontend : AudioFrontendState τ) : Bool :=
  frontend.samplesFilled = kPreprocessorWindowSamples &&
    UInt64.ofNat kPreprocessorStepSamples ≤ frontend.totalSamples - frontend.lastFeatureSample

/-- `ordered_samples`. -/
def AudioFrontendState.orderedSamples (frontend : AudioFrontendState τ) : List Int16 :=
  List.ofFn fun index : Fin kPreprocessorWindowSamples =>
    frontend.rollingSamples.get
      ⟨(frontend.writeIndex + index) % kPreprocessorWindowSamples, Nat.mod_lt _ (by decide)⟩

/-- `generate_feature`: the window that is handed over, if any, and the features that come back. -/
def generateFeature (invoke : Preprocessor τ) (frontend : AudioFrontendState τ) :
    Option (List Int16) × Option Feature × AudioFrontendState τ :=
  if !frontend.ready then (none, none, frontend)
  else
    match invoke frontend.state frontend.orderedSamples with
    | (none, state) => (some frontend.orderedSamples, none, { frontend with state, ready := false })
    | (some feature, state) => (some frontend.orderedSamples, some feature, { frontend with state })

/-- The loop of `process_micro_wake_frame`, with the windows that are handed over. -/
def processSamples (invoke : Preprocessor τ) :
    EngineState σ τ → LocalKeywordFrameDetections → List Int16 →
      Except Fault (List (List Int16) × LocalKeywordFrameDetections × EngineState σ τ)
  | engine, detections, [] => .ok ([], detections, engine)
  | engine, detections, sample :: samples =>
    let frontend := engine.frontend.push sample
    if frontend.featureDue then
      match generateFeature invoke { frontend with lastFeatureSample := frontend.totalSamples } with
      | (window, none, frontend) => .ok (window.toList, detections, { engine with frontend })
      | (window, some feature, frontend) =>
        match processFeatureForModels feature engine.models .empty with
        | .error fault => .error fault
        | .ok (found, models) =>
          match processSamples invoke ⟨models, frontend⟩ (detections.merge found) samples with
          | .error fault => .error fault
          | .ok (windows, detections, engine) => .ok (window.toList ++ windows, detections, engine)
    else processSamples invoke { engine with frontend } detections samples

def processMicroWakeFrame (invoke : Preprocessor τ) (engine : EngineState σ τ)
    (samples : List Int16) :
    Except Fault (List (List Int16) × LocalKeywordFrameDetections × EngineState σ τ) :=
  if samples = [] then .ok ([], .empty, engine)
  else if !roleReady engine .wake && !roleReady engine .playbackStop then .ok ([], .empty, engine)
  else processSamples invoke engine .empty samples

/-- Frame after frame: all the windows, and the engine at the end. -/
def processFrames (invoke : Preprocessor τ) :
    EngineState σ τ → List (List Int16) → Except Fault (List (List Int16) × EngineState σ τ)
  | engine, [] => .ok ([], engine)
  | engine, frame :: frames =>
    match processMicroWakeFrame invoke engine frame with
    | .error fault => .error fault
    | .ok (windows, _, engine) =>
      match processFrames invoke engine frames with
      | .error fault => .error fault
      | .ok (more, engine) => .ok (windows ++ more, engine)

variable {invoke : Preprocessor τ} {engine engine' : EngineState σ τ}
  {frontend frontend' : AudioFrontendState τ}

/-! ### The windows of a stream -/

/-- The totals at which a window is cut: 480, and every 160 from there on. -/
def WindowDue (total : ℕ) : Prop :=
  kPreprocessorWindowSamples ≤ total ∧ kPreprocessorStepSamples ∣ total

instance (total : ℕ) : Decidable (WindowDue total) := inferInstanceAs (Decidable (_ ∧ _))

/-- The windows that are cut at `samples`, after those taken. -/
def windowsFrom : List Int16 → List Int16 → List (List Int16)
  | _, [] => []
  | taken, sample :: samples =>
    let taken := taken ++ [sample]
    if WindowDue taken.length then
      taken.drop (taken.length - kPreprocessorWindowSamples) :: windowsFrom taken samples
    else windowsFrom taken samples

/-- The windows of a stream: the last 480 samples at the totals 480, 640 and so on. -/
def featureWindows (stream : List Int16) : List (List Int16) :=
  (List.range ((stream.length - (kPreprocessorWindowSamples - kPreprocessorStepSamples)) /
      kPreprocessorStepSamples)).map fun k =>
    (stream.take (kPreprocessorWindowSamples + kPreprocessorStepSamples * k)).drop
      (kPreprocessorStepSamples * k)

theorem windowDue_iff {total : ℕ} : WindowDue total ↔ 480 ≤ total ∧ 160 ∣ total := by
  unfold WindowDue kPreprocessorWindowSamples kPreprocessorStepSamples
  exact Iff.rfl

/-- A window that is due is one more. -/
theorem windowDue_count {total : ℕ} (h : WindowDue (total + 1)) :
    (total + 1 - 320) / 160 = (total - 320) / 160 + 1 ∧
      160 * ((total - 320) / 160) = total + 1 - 480 := by
  obtain ⟨hle, k, hk⟩ := windowDue_iff.mp h
  obtain rfl : total = 160 * k - 1 := by omega
  omega

theorem featureWindows_eq (stream : List Int16) :
    featureWindows stream = (List.range ((stream.length - 320) / 160)).map fun k =>
      (stream.take (480 + 160 * k)).drop (160 * k) := by
  simp only [featureWindows, kPreprocessorWindowSamples, kPreprocessorStepSamples, Nat.reduceSub]

theorem featureWindows_concat (taken : List Int16) (sample : Int16) :
    featureWindows (taken ++ [sample]) = featureWindows taken ++
      if WindowDue (taken.length + 1) then
        [(taken ++ [sample]).drop (taken.length + 1 - kPreprocessorWindowSamples)]
      else [] := by
  have hlength : (taken ++ [sample]).length = taken.length + 1 := by simp
  have hkept : ∀ k ∈ List.range ((taken.length - 320) / 160),
      ((taken ++ [sample]).take (480 + 160 * k)).drop (160 * k) =
        (taken.take (480 + 160 * k)).drop (160 * k) := by
    intro k hk
    have hle : 480 + 160 * k ≤ taken.length := by
      have := List.mem_range.mp hk
      omega
    rw [List.take_append_of_le_length hle]
  rw [featureWindows_eq, featureWindows_eq, hlength]
  by_cases hdue : WindowDue (taken.length + 1)
  · rw [if_pos hdue]
    obtain ⟨hafter, hplace⟩ := windowDue_count hdue
    rw [hafter, List.range_succ, List.map_append, List.map_congr_left hkept, List.map_singleton]
    have hall : (taken ++ [sample]).length ≤ 480 + 160 * ((taken.length - 320) / 160) := by omega
    rw [List.take_of_length_le hall, hplace]
    rfl
  · rw [if_neg hdue, List.append_nil]
    rw [windowDue_iff] at hdue
    have hsame : (taken.length + 1 - 320) / 160 = (taken.length - 320) / 160 := by omega
    rw [hsame, List.map_congr_left hkept]

/-- The windows of a stream are those of its first part and those cut later. -/
theorem featureWindows_append (taken samples : List Int16) :
    featureWindows (taken ++ samples) = featureWindows taken ++ windowsFrom taken samples := by
  induction samples generalizing taken with
  | nil => simp [windowsFrom]
  | cons sample samples ih =>
    rw [List.append_cons, ih, featureWindows_concat, List.append_assoc, windowsFrom]
    simp only [List.length_append, List.length_singleton]
    split_ifs <;> rfl

/-! ### The ring and its counters -/

/-- The total at the last window. -/
def lastTotal (total : ℕ) : ℕ :=
  if total < kPreprocessorWindowSamples then 0 else total - total % kPreprocessorStepSamples

theorem lastTotal_eq (total : ℕ) :
    lastTotal total = if total < 480 then 0 else total - total % 160 := rfl

/-- The frontend has taken these samples. -/
structure FrontendHolds (taken : List Int16) (frontend : AudioFrontendState τ) : Prop where
  ring : RingHolds frontend.rollingSamples.toList frontend.writeIndex 0 taken
  filled : frontend.samplesFilled = min taken.length kPreprocessorWindowSamples
  total : frontend.totalSamples = UInt64.ofNat taken.length
  last : frontend.lastFeatureSample = UInt64.ofNat (lastTotal taken.length)

theorem FrontendHolds.initial (state : τ) :
    FrontendHolds [] (AudioFrontendState.initialized state) where
  ring := RingHolds.empty (show 0 < kPreprocessorWindowSamples by decide) 0
  filled := rfl
  total := rfl
  last := rfl

/-- What is handed over is the last 480 samples, in order. -/
theorem FrontendHolds.orderedSamples_eq (h : FrontendHolds taken frontend)
    (hfull : kPreprocessorWindowSamples ≤ taken.length) :
    frontend.orderedSamples = taken.drop (taken.length - kPreprocessorWindowSamples) := by
  have hlength : frontend.rollingSamples.toList.length = kPreprocessorWindowSamples := by simp
  have hrotate : frontend.orderedSamples =
      frontend.rollingSamples.toList.rotate frontend.writeIndex := by
    refine List.ext_getElem (by simp [AudioFrontendState.orderedSamples]) fun k _ hk => ?_
    simp only [AudioFrontendState.orderedSamples, List.getElem_ofFn, List.getElem_rotate, hlength,
      Nat.add_comm k]
    rfl
  rw [hrotate, h.ring.read, hlength, ringLast_of_le hfull]

/-- The difference of two wrapping counters. -/
theorem toNat_ofNat_sub {a b : ℕ} (hle : b ≤ a) (hlt : a - b < 2 ^ 64) :
    (UInt64.ofNat a - UInt64.ofNat b).toNat = a - b := by
  rw [← UInt64.ofNat_sub hle, UInt64.toNat_ofNat', Nat.mod_eq_of_lt hlt]

/-- Whether a window is due is the same, whether or not the counters have wrapped. -/
theorem featureDue_iff {total : ℕ}
    (hfilled : frontend.samplesFilled = min (total + 1) kPreprocessorWindowSamples)
    (htotal : frontend.totalSamples = UInt64.ofNat (total + 1))
    (hlast : frontend.lastFeatureSample = UInt64.ofNat (lastTotal total)) :
    frontend.featureDue = true ↔ WindowDue (total + 1) := by
  have hbounds : lastTotal total ≤ total + 1 ∧ total + 1 - lastTotal total ≤ 480 := by
    rw [lastTotal_eq]
    split_ifs <;> omega
  have hsub := toNat_ofNat_sub hbounds.1 (by omega)
  have hstep : (UInt64.ofNat kPreprocessorStepSamples).toNat = 160 := rfl
  have hwindow : kPreprocessorWindowSamples = 480 := rfl
  simp only [AudioFrontendState.featureDue, hfilled, htotal, hlast, Bool.and_eq_true,
    decide_eq_true_eq, UInt64.le_iff_toNat_le, hsub, hstep, windowDue_iff, hwindow]
  rw [lastTotal_eq]
  split_ifs with hfew <;> omega

/-- What the last total is, one sample later. -/
theorem lastTotal_succ (total : ℕ) :
    lastTotal (total + 1) = if WindowDue (total + 1) then total + 1 else lastTotal total := by
  rw [lastTotal_eq, lastTotal_eq]
  by_cases hdue : WindowDue (total + 1)
  · rw [if_pos hdue]
    rw [windowDue_iff] at hdue
    split_ifs <;> omega
  · rw [if_neg hdue]
    rw [windowDue_iff] at hdue
    split_ifs <;> omega

/-- The frontend after a sample, with the mark of the last window. -/
def AudioFrontendState.marked (frontend : AudioFrontendState τ) : AudioFrontendState τ :=
  if frontend.featureDue then { frontend with lastFeatureSample := frontend.totalSamples }
  else frontend

/-- **One sample.** -/
theorem FrontendHolds.push (h : FrontendHolds taken frontend) (sample : Int16) :
    ((frontend.push sample).featureDue = true ↔ WindowDue (taken.length + 1)) ∧
      FrontendHolds (taken ++ [sample]) (frontend.push sample).marked := by
  have hlength : frontend.rollingSamples.toList.length = kPreprocessorWindowSamples := by simp
  have hfilled : (frontend.push sample).samplesFilled =
      min (taken.length + 1) kPreprocessorWindowSamples := by
    simp only [AudioFrontendState.push, h.filled]
    split_ifs <;> omega
  have htotal : (frontend.push sample).totalSamples = UInt64.ofNat (taken.length + 1) := by
    rw [UInt64.ofNat_add, ← h.total]
    rfl
  have hlast : (frontend.push sample).lastFeatureSample =
      UInt64.ofNat (lastTotal taken.length) := h.last
  have hring : RingHolds (frontend.push sample).rollingSamples.toList
      (frontend.push sample).writeIndex 0 (taken ++ [sample]) := by
    have hwrite := h.ring.write sample
    rw [hlength] at hwrite
    simpa [AudioFrontendState.push, Vector.toList_setIfInBounds] using hwrite
  have hdue := featureDue_iff hfilled htotal hlast
  have htaken : (taken ++ [sample]).length = taken.length + 1 := by simp
  refine ⟨hdue, ?_⟩
  unfold AudioFrontendState.marked
  split_ifs with hmark
  · refine ⟨hring, by rw [htaken]; exact hfilled, by rw [htaken]; exact htotal, ?_⟩
    rw [htaken, lastTotal_succ, if_pos (hdue.mp hmark)]
    exact htotal
  · refine ⟨hring, by rw [htaken]; exact hfilled, by rw [htaken]; exact htotal, ?_⟩
    rw [htaken, lastTotal_succ, if_neg fun due => hmark (hdue.mpr due)]
    exact hlast

/-! ### A run without failures -/

/-- What `generate_feature` does to the frontend. -/
theorem generateFeature_ready (invoke : Preprocessor τ) (frontend : AudioFrontendState τ)
    (h : frontend.ready = true) :
    ∃ feature after, generateFeature invoke frontend =
        (some frontend.orderedSamples, feature, after) ∧
      after.ready = feature.isSome ∧
      ∀ taken, FrontendHolds taken frontend → FrontendHolds taken after := by
  unfold generateFeature
  simp only [h, Bool.not_true, Bool.false_eq_true, if_false]
  split
  · exact ⟨_, _, rfl, rfl, fun _ holds => ⟨holds.ring, holds.filled, holds.total, holds.last⟩⟩
  · exact ⟨_, _, rfl, rfl, fun _ holds => ⟨holds.ring, holds.filled, holds.total, holds.last⟩⟩

/-- Where no features come back, the frontend is not ready any more. -/
theorem not_ready_of_generateFeature_none {window : Option (List Int16)}
    (h : generateFeature invoke frontend = (window, none, frontend')) : frontend'.ready = false := by
  unfold generateFeature at h
  split_ifs at h with hready
  · obtain ⟨-, -, rfl⟩ := by simpa using h
    simpa using hready
  · split at h
    · obtain ⟨-, -, rfl⟩ := by simpa using h
      rfl
    · simp at h

/-- One turn of the loop that does not end it: the frontend goes on, and the models have taken the
feature of a window that was due. -/
theorem processSamples_cons {sample : Int16} {windows : List (List Int16)}
    (hholds : FrontendHolds taken engine.frontend) (hready : engine.frontend.ready = true)
    (h : processSamples invoke engine detections (sample :: samples) =
      .ok (windows, detections', engine')) (hend : engine'.frontend.ready = true) :
    ∃ (between : EngineState σ τ) (found : LocalKeywordFrameDetections) (rest : List (List Int16)),
      FrontendHolds (taken ++ [sample]) between.frontend ∧ between.frontend.ready = true ∧
      processSamples invoke between found samples = .ok (rest, detections', engine') ∧
      windows = (if WindowDue (taken.length + 1) then
        [(taken ++ [sample]).drop (taken.length + 1 - kPreprocessorWindowSamples)] else []) ++ rest := by
  obtain ⟨hdue, hpush⟩ := hholds.push sample
  simp only [processSamples] at h
  by_cases hnow : WindowDue (taken.length + 1)
  · have hmark := hdue.mpr hnow
    rw [if_pos hmark] at h
    simp only [AudioFrontendState.marked, if_pos hmark] at hpush
    have htaken : (taken ++ [sample]).length = taken.length + 1 := by simp
    have hfull : kPreprocessorWindowSamples ≤ (taken ++ [sample]).length := by
      rw [htaken]
      exact hnow.1
    obtain ⟨feature, after, hgenerate, hafter, hkeeps⟩ := generateFeature_ready invoke
      { engine.frontend.push sample with
        lastFeatureSample := (engine.frontend.push sample).totalSamples } hready
    rw [hgenerate, hpush.orderedSamples_eq hfull, htaken] at h
    cases feature with
    | none =>
      -- the loop ends, and the frontend is not ready any more
      obtain ⟨-, -, rfl⟩ := by simpa using h
      rw [hafter] at hend
      cases hend
    | some feature =>
      simp only at h
      split at h
      · cases h
      · rename_i found models hmodels
        split at h
        · cases h
        · rename_i rest last ended hrest
          obtain ⟨hwindows, rfl, rfl⟩ := by simpa using h
          refine ⟨⟨models, after⟩, _, rest, hkeeps _ hpush, hafter, hrest, ?_⟩
          rw [if_pos hnow, ← hwindows]
          rfl
  · have hmark : ¬ (engine.frontend.push sample).featureDue = true := fun due => hnow (hdue.mp due)
    rw [if_neg hmark] at h
    simp only [AudioFrontendState.marked, if_neg hmark] at hpush
    exact ⟨{ engine with frontend := engine.frontend.push sample }, detections, windows, hpush, hready,
      h, by rw [if_neg hnow, List.nil_append]⟩

/-- The loop, where the frontend is ready at its end: the windows are those of the stream. -/
theorem processSamples_windows {taken samples : List Int16} {windows : List (List Int16)}
    (hholds : FrontendHolds taken engine.frontend) (hready : engine.frontend.ready = true)
    (h : processSamples invoke engine detections samples = .ok (windows, detections', engine'))
    (hend : engine'.frontend.ready = true) :
    windows = windowsFrom taken samples ∧ FrontendHolds (taken ++ samples) engine'.frontend := by
  induction samples generalizing engine taken detections windows with
  | nil =>
    obtain ⟨rfl, -, rfl⟩ := by simpa [processSamples] using h
    simpa [windowsFrom] using hholds
  | cons sample samples ih =>
    obtain ⟨between, found, rest, hholds', hready', hrest, hwindows⟩ :=
      processSamples_cons hholds hready h hend
    obtain ⟨rfl, hall⟩ := ih hholds' hready' hrest
    have htaken : (taken ++ [sample]).length = taken.length + 1 := by simp
    refine ⟨?_, by rw [List.append_cons]; exact hall⟩
    rw [hwindows, windowsFrom]
    simp only [htaken]
    split_ifs <;> rfl

/-! ### The stream as one frame -/

/-- The windows and the engine do not depend on the detections so far. -/
theorem processSamples_detections {windows : List (List Int16)}
    (other : LocalKeywordFrameDetections)
    (h : processSamples invoke engine detections samples = .ok (windows, detections', engine')) :
    ∃ other', processSamples invoke engine other samples = .ok (windows, other', engine') := by
  induction samples generalizing engine detections other windows with
  | nil =>
    obtain ⟨rfl, -, rfl⟩ := by simpa [processSamples] using h
    exact ⟨other, rfl⟩
  | cons sample samples ih =>
    simp only [processSamples] at h ⊢
    split_ifs at h ⊢ with hdue
    · split at h
      · rename_i window after hgenerate
        obtain ⟨rfl, -, rfl⟩ := by simpa using h
        exact ⟨other, rfl⟩
      · rename_i window feature after hgenerate
        split at h
        · cases h
        · rename_i found models hmodels
          split at h
          · cases h
          · rename_i rest last ended hrest
            obtain ⟨rfl, rfl, rfl⟩ := by simpa using h
            obtain ⟨other', hother⟩ := ih (other.merge found) hrest
            exact ⟨other', by simp only [hother]⟩
    · exact ih other h

/-- A loop that is ready at its end goes on where it stopped. -/
theorem processSamples_append {samples more : List Int16} {windows rest : List (List Int16)}
    {detections detections' detections'' : LocalKeywordFrameDetections}
    {engine'' : EngineState σ τ}
    (h : processSamples invoke engine detections samples = .ok (windows, detections', engine'))
    (hend : engine'.frontend.ready = true)
    (hmore : processSamples invoke engine' detections' more = .ok (rest, detections'', engine'')) :
    processSamples invoke engine detections (samples ++ more) =
      .ok (windows ++ rest, detections'', engine'') := by
  induction samples generalizing engine detections windows with
  | nil =>
    obtain ⟨rfl, rfl, rfl⟩ := by simpa [processSamples] using h
    simpa using hmore
  | cons sample samples ih =>
    rw [List.cons_append]
    simp only [processSamples] at h ⊢
    split_ifs at h ⊢ with hdue
    · split at h
      · -- the loop has ended for a failure
        rename_i window after hgenerate
        obtain ⟨rfl, -, rfl⟩ := by simpa using h
        exact absurd hend (by simp [not_ready_of_generateFeature_none hgenerate])
      · rename_i window feature after hgenerate
        split at h
        · cases h
        · rename_i found models hmodels
          split at h
          · cases h
          · rename_i tail last ended htail
            obtain ⟨rfl, rfl, rfl⟩ := by simpa using h
            simp only [ih htail, List.append_assoc]
    · exact ih h

/-- Which roles have a model that runs stays as it is. -/
theorem roleRuntimeReady_processFeatureForModels {feature : Feature} {role : MicroWakeModelRole}
    {models models' : List (EngineModel σ)}
    (h : processFeatureForModels feature models detections = .ok (detections', models')) :
    roleRuntimeReady models' role = roleRuntimeReady models role := by
  induction models generalizing detections detections' models' with
  | nil =>
    obtain ⟨-, rfl⟩ := by simpa [processFeatureForModels] using h
    rfl
  | cons model models ih =>
    simp only [processFeatureForModels] at h
    split at h
    · rename_i runtime hon hruntime
      split at h
      · cases h
      · split at h
        · cases h
        · rename_i last rest hrest
          obtain ⟨-, rfl⟩ := by simpa using h
          have htail := ih hrest
          simp only [roleRuntimeReady, List.any_cons, hruntime, Option.isSome_some] at htail ⊢
          rw [htail]
    · split at h
      · cases h
      · rename_i last rest hrest
        obtain ⟨-, rfl⟩ := by simpa using h
        have htail := ih hrest
        simp only [roleRuntimeReady, List.any_cons] at htail ⊢
        rw [htail]

theorem roleRuntimeReady_processSamples {role : MicroWakeModelRole} {windows : List (List Int16)}
    (h : processSamples invoke engine detections samples = .ok (windows, detections', engine')) :
    roleRuntimeReady engine'.models role = roleRuntimeReady engine.models role := by
  induction samples generalizing engine detections detections' windows with
  | nil =>
    obtain ⟨-, -, rfl⟩ := by simpa [processSamples] using h
    rfl
  | cons sample samples ih =>
    simp only [processSamples] at h
    split_ifs at h with hdue
    · split at h
      · obtain ⟨-, -, rfl⟩ := by simpa using h
        rfl
      · split at h
        · cases h
        · rename_i found models hmodels
          split at h
          · cases h
          · rename_i tail last ended htail
            obtain ⟨-, -, rfl⟩ := by simpa using h
            have hlater := ih htail
            rw [hlater]
            exact roleRuntimeReady_processFeatureForModels hmodels
    · have hlater := ih h
      rw [hlater]

/-- A model for one of the roles runs. -/
def ModelsReady (models : List (EngineModel σ)) : Prop :=
  roleRuntimeReady models .wake = true ∨ roleRuntimeReady models .playbackStop = true

/-- A frame with samples goes through the loop, where all is ready. -/
theorem processMicroWakeFrame_ready (hsamples : samples ≠ [])
    (hready : engine.frontend.ready = true) (hmodels : ModelsReady engine.models) :
    processMicroWakeFrame invoke engine samples = processSamples invoke engine .empty samples := by
  have hrole : ¬ (!roleReady engine .wake && !roleReady engine .playbackStop) = true := by
    rcases hmodels with h | h <;> simp [roleReady, hready, h]
  rw [processMicroWakeFrame, if_neg hsamples, if_neg hrole]

/-- A frontend that is not ready takes nothing. -/
theorem processFrames_not_ready (hready : engine.frontend.ready = false)
    (frames : List (List Int16)) : processFrames invoke engine frames = .ok ([], engine) := by
  have hframe : ∀ samples, processMicroWakeFrame invoke engine samples =
      .ok ([], .empty, engine) := by
    intro samples
    simp [processMicroWakeFrame, roleReady, hready]
  induction frames with
  | nil => rfl
  | cons frame frames ih => simp [processFrames, hframe, ih]

/-- **The frames as one**: a run of frames that ends ready is the loop over all of the samples. -/
theorem processFrames_flatten {frames : List (List Int16)} (hframes : ∀ frame ∈ frames, frame ≠ [])
    {windows : List (List Int16)} (hready : engine.frontend.ready = true)
    (hmodels : ModelsReady engine.models)
    (h : processFrames invoke engine frames = .ok (windows, engine'))
    (hend : engine'.frontend.ready = true) :
    ∃ detections, processSamples invoke engine .empty frames.flatten =
      .ok (windows, detections, engine') := by
  induction frames generalizing engine windows with
  | nil =>
    obtain ⟨rfl, rfl⟩ := by simpa [processFrames] using h
    exact ⟨_, rfl⟩
  | cons frame frames ih =>
    obtain ⟨hframe, hframes⟩ := List.forall_mem_cons.mp hframes
    simp only [processFrames, processMicroWakeFrame_ready hframe hready hmodels] at h
    split at h
    · cases h
    · rename_i first detections between hfirst
      split at h
      · cases h
      · rename_i rest last hrest
        obtain ⟨rfl, rfl⟩ := by simpa using h
        cases hbetween : between.frontend.ready with
        | false =>
          -- a frontend that has failed stays so
          rw [processFrames_not_ready hbetween] at hrest
          obtain ⟨-, rfl⟩ := by simpa using hrest
          rw [hbetween] at hend
          cases hend
        | true =>
          have hmodels' : ModelsReady between.models := by
            unfold ModelsReady
            rw [roleRuntimeReady_processSamples hfirst, roleRuntimeReady_processSamples hfirst]
            exact hmodels
          obtain ⟨found, hmore⟩ := ih hframes hbetween hmodels' hrest
          obtain ⟨found', hmore'⟩ := processSamples_detections detections hmore
          exact ⟨found', by
            rw [List.flatten_cons]
            exact processSamples_append hfirst hbetween hmore'⟩

/-- An engine with one model, and a frontend that gives rows of 100. -/
def plainEngine : EngineState Unit Unit where
  models :=
    [{ role := .wake
       metadata := plainMetadata
       tflm := plainModel 1
       enabled := true
       valid := true
       runtime := some (plainRuntime 1) }]
  frontend := .initialized ()

def plainPreprocessor : Preprocessor Unit := fun _ _ => (some plainRow, ())

end HexeVoice.Firmware.MicroWake
