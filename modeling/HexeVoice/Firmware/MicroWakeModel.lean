import HexeVoice.Library.Ring
import Mathlib

/-!
# A wake word model that runs

`initialize_streaming_runtime`, `perform_streaming_inference` and `detection_from_runtime` of
`voice/micro_wake_engine.cpp`: rows of features fill the input tensor of a model, the model is invoked
when the tensor is full, and the probabilities it gives are averaged over a sliding window.

## The model

The interpreter of TFLM is a parameter: its state, and what `Invoke` does with it and with the input
tensor, which it may overwrite. The probability cutoff is the byte that `probability_cutoff_as_uint8`
makes of it. A division by zero and a write outside of the tensor, which are undefined, are faults.

## What is proved

**`detections_are_window_sums`**: detections are those of the plain sliding window.
**`strides_iff`**: the model is invoked after every `s` rows and with the last `s` rows exactly if
`s ≤ 255`, or where there is no fault and no `s` rows have come yet.
-/

namespace HexeVoice.Firmware.MicroWake

open HexeVoice.Library

variable {feature : Feature}

/-! ### The runtime -/

def kPreprocessorFeatureSize : ℕ := 40
def kExpectedTfliteSchemaVersion : ℤ := 3
def kMaxSlidingWindowSize : ℕ := 16
def kMinWindowsBeforeDetection : ℤ := 100

/-- A row of features, `int8_t feature[kPreprocessorFeatureSize]`. -/
abbrev Feature : Type := Vector Int8 kPreprocessorFeatureSize

/-- The types of tensors that are asked for, and any other. -/
inductive TfLiteType where
  | int8
  | int16
  | uint8
  | other
  deriving DecidableEq

/-- The shape of a `TfLiteTensor`. -/
structure TfLiteTensor where
  dims : List ℤ
  type : TfLiteType

inductive MicroWakeModelRole where
  | wake
  | playbackStop
  deriving DecidableEq

/-- `LocalKeywordModel`, as far as it is used here. -/
structure LocalKeywordModel where
  id : String
  wakeWord : String
  /-- `probability_cutoff`, as a byte. -/
  probabilityCutoff : UInt8
  slidingWindowSize : Int32

/-- What TFLM does: the answers while a model is loaded, and `Invoke`, which keeps the size of the
input tensor. The output tensor is one byte; `none` where `Invoke` fails. -/
structure Interpreter (σ : Type*) where
  schemaVersion : Option ℤ
  opsRegistered : Bool
  variableArenaAllocated : Bool
  tensorArenaAllocated : Bool
  tensorsAllocated : Bool
  input : Option TfLiteTensor
  output : Option TfLiteTensor
  initialState : σ
  /-- What the memory of the input tensor holds at first. -/
  initialData : ℕ → Int8
  invoke : σ → List Int8 → Option UInt8 × σ × List Int8
  length_invoke : ∀ state data, (invoke state data).2.2.length = data.length

/-- `StreamingRuntime`, with the state of its interpreter. -/
structure StreamingRuntime (σ : Type*) where
  state : σ
  /-- The data of the input tensor. -/
  inputData : List Int8
  /-- `input->dims->data[1]`. -/
  stride : ℤ
  recentProbabilities : Vector UInt8 kMaxSlidingWindowSize
  slidingWindowSize : ℕ
  lastProbabilityIndex : ℕ
  currentStrideStep : UInt8
  ignoreWindows : ℤ
  unprocessedProbability : Bool

/-- What is undefined. -/
inductive Fault where
  | divisionByZero
  | outsideTensor
  deriving DecidableEq

variable {σ : Type*}

def resetRuntimeProbabilities (runtime : StreamingRuntime σ) : StreamingRuntime σ :=
  { runtime with
    recentProbabilities := .replicate kMaxSlidingWindowSize 0
    lastProbabilityIndex := 0
    currentStrideStep := 0
    ignoreWindows := -kMinWindowsBeforeDetection
    unprocessedProbability := false }

/-- `std::min<size_t>(sliding_window_size, kMaxSlidingWindowSize)`. -/
def boundedWindow (slidingWindowSize : Int32) : ℕ :=
  min slidingWindowSize.toUInt32.toNat kMaxSlidingWindowSize

/-- The size of a tensor of three dimensions, in elements. -/
def tensorSize (stride : ℤ) : ℕ := kPreprocessorFeatureSize * stride.toNat

/-- `initialize_streaming_runtime`, for a model that is not loaded yet; `failure_reason` where it
fails. AllocateTensors makes the input tensor as large as its dimensions say. -/
def initializeStreamingRuntime (metadata : LocalKeywordModel) (tflm : Interpreter σ) :
    Except String (StreamingRuntime σ) :=
  if tflm.schemaVersion ≠ some kExpectedTfliteSchemaVersion then
    .error "micro_wake_word_model_schema_mismatch"
  else if !tflm.opsRegistered then .error "micro_wake_word_model_ops_unavailable"
  else if !tflm.variableArenaAllocated then .error "micro_wake_word_variable_arena_alloc_failed"
  else if !tflm.tensorArenaAllocated then .error "micro_wake_word_tensor_arena_alloc_failed"
  else if !tflm.tensorsAllocated then .error "micro_wake_word_tensor_alloc_failed"
  else
    match tflm.input, tflm.output with
    | some ⟨[1, stride, features], .int8⟩, output =>
      if features ≠ kPreprocessorFeatureSize then .error "micro_wake_word_input_tensor_mismatch"
      else
        match output with
        | some ⟨[1, 1], .uint8⟩ =>
          .ok (resetRuntimeProbabilities
            { state := tflm.initialState
              inputData := (List.range (tensorSize stride)).map tflm.initialData
              stride
              recentProbabilities := .replicate kMaxSlidingWindowSize 0
              slidingWindowSize := boundedWindow metadata.slidingWindowSize
              lastProbabilityIndex := 0
              currentStrideStep := 0
              ignoreWindows := -kMinWindowsBeforeDetection
              unprocessedProbability := false })
        | _ => .error "micro_wake_word_output_tensor_mismatch"
    | _, _ => .error "micro_wake_word_input_tensor_mismatch"

/-- What a call of `perform_streaming_inference` gives: whether it succeeds, the input tensor that the
model is invoked with, if it is, and the probability that it gives. -/
structure Inference where
  succeeded : Bool
  invoked : Option (List Int8)
  probability : Option UInt8

/-- The runtime after an invocation that gives `probability`. -/
def recordProbability (metadata : LocalKeywordModel) (runtime : StreamingRuntime σ)
    (probability : UInt8) : StreamingRuntime σ :=
  let next := runtime.lastProbabilityIndex + 1
  let index := if runtime.slidingWindowSize ≤ next then 0 else next
  { runtime with
    lastProbabilityIndex := index
    recentProbabilities := runtime.recentProbabilities.setIfInBounds index probability
    unprocessedProbability := true
    ignoreWindows :=
      if probability < metadata.probabilityCutoff then min (runtime.ignoreWindows + 1) 0
      else runtime.ignoreWindows }

/-- `std::copy_n` of a row to its place in the tensor. -/
def rowWritten (data : List Int8) (row : ℕ) (feature : Feature) : List Int8 :=
  data.take (kPreprocessorFeatureSize * row) ++ feature.toList ++
    data.drop (kPreprocessorFeatureSize * row + kPreprocessorFeatureSize)

/-- `perform_streaming_inference`, when the tensor is full. -/
def invokeModel (tflm : Interpreter σ) (metadata : LocalKeywordModel)
    (runtime : StreamingRuntime σ) : Inference × StreamingRuntime σ :=
  let (output, state, inputData) := tflm.invoke runtime.state runtime.inputData
  let after := { runtime with state, inputData, currentStrideStep := 0 }
  match output with
  | none => (⟨false, some runtime.inputData, none⟩, after)
  | some probability =>
    (⟨true, some runtime.inputData, some probability⟩, recordProbability metadata after probability)

/-- `perform_streaming_inference`, for a model that is loaded. -/
def performStreamingInference (tflm : Interpreter σ) (metadata : LocalKeywordModel)
    (runtime : StreamingRuntime σ) (feature : Feature) :
    Except Fault (Inference × StreamingRuntime σ) :=
  if runtime.stride ≤ 0 then .ok (⟨false, none, none⟩, runtime)
  else
    let narrowed := UInt8.ofNat runtime.stride.toNat
    if narrowed = 0 then .error .divisionByZero
    else
      let row := (runtime.currentStrideStep % narrowed).toNat
      if runtime.inputData.length < kPreprocessorFeatureSize * row + kPreprocessorFeatureSize then
        .error .outsideTensor
      else
        let step := runtime.currentStrideStep % narrowed + 1
        let runtime :=
          { runtime with
            inputData := rowWritten runtime.inputData row feature
            currentStrideStep := step }
        if (step.toNat : ℤ) < runtime.stride then .ok (⟨true, none, none⟩, runtime)
        else .ok (invokeModel tflm metadata runtime)

/-- `LocalKeywordDetection`, where there is one; the confidence is `average / 255`. -/
structure LocalKeywordDetection where
  source : String
  model : String
  wakeWord : String
  average : UInt8

/-- `sum`, in 32 bits, over the places of the window. -/
def windowSum (runtime : StreamingRuntime σ) : UInt32 :=
  ((runtime.recentProbabilities.toList.take runtime.slidingWindowSize).map UInt8.toUInt32).sum

/-- `detection_from_runtime`, where there is a new probability. -/
def judgeWindow (role : MicroWakeModelRole) (metadata : LocalKeywordModel)
    (runtime : StreamingRuntime σ) : Option LocalKeywordDetection × StreamingRuntime σ :=
  if runtime.ignoreWindows < 0 ∨ runtime.slidingWindowSize = 0 then (none, runtime)
  else
    let sum := windowSum runtime
    let windows := UInt32.ofNat runtime.slidingWindowSize
    if sum ≤ metadata.probabilityCutoff.toUInt32 * windows then (none, runtime)
    else
      (some
        { source :=
            match role with
            | .playbackStop => "endpoint_micro_wake_word_stop"
            | .wake => "endpoint_micro_wake_word"
          model := metadata.id
          wakeWord := metadata.wakeWord
          average := (sum / windows).toUInt8 },
        resetRuntimeProbabilities runtime)

def detectionFromRuntime (role : MicroWakeModelRole) (metadata : LocalKeywordModel)
    (runtime : StreamingRuntime σ) : Option LocalKeywordDetection × StreamingRuntime σ :=
  if !runtime.unprocessedProbability then (none, runtime)
  else judgeWindow role metadata { runtime with unprocessedProbability := false }

/-- What a row does with one model. -/
structure Pass where
  invoked : Option (List Int8)
  probability : Option UInt8
  detection : Option LocalKeywordDetection

/-- `process_feature_for_models`, for one model that is loaded. -/
def processFeature (tflm : Interpreter σ) (role : MicroWakeModelRole) (metadata : LocalKeywordModel)
    (runtime : StreamingRuntime σ) (feature : Feature) : Except Fault (Pass × StreamingRuntime σ) :=
  match performStreamingInference tflm metadata runtime feature with
  | .error fault => .error fault
  | .ok (inference, runtime) =>
    if !inference.succeeded then .ok (⟨inference.invoked, inference.probability, none⟩, runtime)
    else
      let (detection, runtime) := detectionFromRuntime role metadata runtime
      .ok (⟨inference.invoked, inference.probability, detection⟩, runtime)

/-- Row after row. -/
def processFeatures (tflm : Interpreter σ) (role : MicroWakeModelRole)
    (metadata : LocalKeywordModel) :
    StreamingRuntime σ → List Feature → Except Fault (List Pass × StreamingRuntime σ)
  | runtime, [] => .ok ([], runtime)
  | runtime, feature :: features =>
    match processFeature tflm role metadata runtime feature with
    | .error fault => .error fault
    | .ok (pass, runtime) =>
      match processFeatures tflm role metadata runtime features with
      | .error fault => .error fault
      | .ok (passes, runtime) => .ok (pass :: passes, runtime)

variable {tflm : Interpreter σ} {role : MicroWakeModelRole} {metadata : LocalKeywordModel}
  {runtime runtime' : StreamingRuntime σ}

/-! ### What a call can do -/

/-- What is accepted has the shape that is asked for, and is as good as reset. -/
theorem initializeStreamingRuntime_ok (h : initializeStreamingRuntime metadata tflm = .ok runtime) :
    runtime.inputData.length = tensorSize runtime.stride ∧
      runtime.slidingWindowSize = boundedWindow metadata.slidingWindowSize ∧
      runtime = resetRuntimeProbabilities runtime := by
  unfold initializeStreamingRuntime at h
  split_ifs at h
  split at h
  · split_ifs at h
    split at h
    · obtain rfl := Except.ok.inj h
      simp [resetRuntimeProbabilities]
    · cases h
  · cases h

/-- An invocation: it fails, or there is a new probability. -/
theorem invokeModel_cases (tflm : Interpreter σ) (metadata : LocalKeywordModel)
    (runtime : StreamingRuntime σ) : ∃ after : StreamingRuntime σ,
      after.recentProbabilities = runtime.recentProbabilities ∧
      after.slidingWindowSize = runtime.slidingWindowSize ∧
      after.lastProbabilityIndex = runtime.lastProbabilityIndex ∧
      after.ignoreWindows = runtime.ignoreWindows ∧
      after.unprocessedProbability = runtime.unprocessedProbability ∧
      after.stride = runtime.stride ∧ after.inputData.length = runtime.inputData.length ∧
      after.currentStrideStep = 0 ∧
      (invokeModel tflm metadata runtime = (⟨false, some runtime.inputData, none⟩, after) ∨
        ∃ probability, invokeModel tflm metadata runtime =
          (⟨true, some runtime.inputData, some probability⟩,
            recordProbability metadata after probability)) := by
  refine ⟨{ runtime with
    state := (tflm.invoke runtime.state runtime.inputData).2.1
    inputData := (tflm.invoke runtime.state runtime.inputData).2.2
    currentStrideStep := 0 }, rfl, rfl, rfl, rfl, rfl, rfl,
    tflm.length_invoke runtime.state runtime.inputData, rfl, ?_⟩
  unfold invokeModel
  cases houtput : (tflm.invoke runtime.state runtime.inputData).1 with
  | none => exact .inl (by simp only [houtput])
  | some probability => exact .inr ⟨probability, by simp only [houtput]⟩

/-- What a call does to the window: nothing, or a new probability is recorded. -/
theorem performStreamingInference_ok {inference : Inference}
    (h : performStreamingInference tflm metadata runtime feature = .ok (inference, runtime')) :
    (inference.probability = none ∧ runtime'.recentProbabilities = runtime.recentProbabilities ∧
      runtime'.slidingWindowSize = runtime.slidingWindowSize ∧
      runtime'.lastProbabilityIndex = runtime.lastProbabilityIndex ∧
      runtime'.ignoreWindows = runtime.ignoreWindows ∧
      runtime'.unprocessedProbability = runtime.unprocessedProbability) ∨
    ∃ (between : StreamingRuntime σ) (probability : UInt8),
      inference.probability = some probability ∧ inference.succeeded = true ∧
      runtime' = recordProbability metadata between probability ∧
      between.recentProbabilities = runtime.recentProbabilities ∧
      between.slidingWindowSize = runtime.slidingWindowSize ∧
      between.lastProbabilityIndex = runtime.lastProbabilityIndex ∧
      between.ignoreWindows = runtime.ignoreWindows := by
  unfold performStreamingInference at h
  split_ifs at h
  · cases h
    exact .inl ⟨rfl, rfl, rfl, rfl, rfl, rfl⟩
  · simp only at h
    split_ifs at h
    · cases h
      exact .inl ⟨rfl, rfl, rfl, rfl, rfl, rfl⟩
    · have hinvoke := Except.ok.inj h
      obtain ⟨after, hrecent, hsize, hindex, hignore, hunprocessed, -, -, -,
        hfailed | ⟨probability, hgave⟩⟩ := invokeModel_cases tflm metadata
          { runtime with
            inputData := rowWritten runtime.inputData
              (runtime.currentStrideStep % UInt8.ofNat runtime.stride.toNat).toNat feature
            currentStrideStep :=
              runtime.currentStrideStep % UInt8.ofNat runtime.stride.toNat + 1 }
      · rw [hfailed] at hinvoke
        obtain ⟨rfl, rfl⟩ := Prod.mk.inj hinvoke
        exact .inl ⟨rfl, hrecent, hsize, hindex, hignore, hunprocessed⟩
      · rw [hgave] at hinvoke
        obtain ⟨rfl, rfl⟩ := Prod.mk.inj hinvoke
        exact .inr ⟨after, probability, rfl, rfl, rfl, hrecent, hsize, hindex, hignore⟩

/-! ### The sliding window -/

/-- Bytes added in 32 bits, where the sum fits. -/
theorem toNat_sum_toUInt32 {bytes : List UInt8} (h : (bytes.map UInt8.toNat).sum < 2 ^ 32) :
    (bytes.map UInt8.toUInt32).sum.toNat = (bytes.map UInt8.toNat).sum := by
  induction bytes with
  | nil => rfl
  | cons byte bytes ih =>
    simp only [List.map_cons, List.sum_cons] at h ⊢
    rw [UInt32.toNat_add, ih (by omega), UInt8.toNat_toUInt32, Nat.mod_eq_of_lt h]

/-- The sum of a few bytes. -/
theorem sum_toNat_le (bytes : List UInt8) : (bytes.map UInt8.toNat).sum ≤ 255 * bytes.length := by
  induction bytes with
  | nil => simp
  | cons byte bytes ih =>
    have := byte.toNat_lt
    simp only [List.map_cons, List.sum_cons, List.length_cons]
    omega

/-- **The sum does not overflow.** -/
theorem toNat_windowSum (runtime : StreamingRuntime σ) :
    (windowSum runtime).toNat =
      ((runtime.recentProbabilities.toList.take runtime.slidingWindowSize).map UInt8.toNat).sum := by
  refine toNat_sum_toUInt32 (lt_of_le_of_lt (sum_toNat_le _) ?_)
  have hlength : (runtime.recentProbabilities.toList.take runtime.slidingWindowSize).length ≤
      kMaxSlidingWindowSize := by simp
  have : kMaxSlidingWindowSize = 16 := rfl
  omega

/-- The plain window: of the probabilities since the last reset, enough were below the cutoff, and the
sum of the last `window` of them is greater than `cutoff * window`. -/
def Detected (window : ℕ) (cutoff : UInt8) (since : List UInt8) : Prop :=
  kMinWindowsBeforeDetection ≤ since.countP (· < cutoff) ∧
    cutoff.toNat * window < ((since.reverse.take window).map UInt8.toNat).sum

instance (window : ℕ) (cutoff : UInt8) (since : List UInt8) :
    Decidable (Detected window cutoff since) := inferInstanceAs (Decidable (_ ∧ _))

/-- At which of the probabilities something is detected, after those in `since`; a detection is a
reset. -/
def detections (window : ℕ) (cutoff : UInt8) : List UInt8 → List UInt8 → List Bool
  | _, [] => []
  | since, probability :: probabilities =>
    if Detected window cutoff (since ++ [probability]) then
      true :: detections window cutoff [] probabilities
    else false :: detections window cutoff (since ++ [probability]) probabilities

/-- The runtime holds what the plain window looks at. -/
structure WindowHolds (window : ℕ) (cutoff : UInt8) (since : List UInt8)
    (runtime : StreamingRuntime σ) : Prop where
  window_eq : runtime.slidingWindowSize = window
  index_lt : runtime.lastProbabilityIndex < window
  ring : RingHolds (runtime.recentProbabilities.toList.take window)
    ((runtime.lastProbabilityIndex + 1) % window) 0 since
  ignored : runtime.ignoreWindows =
    min (since.countP (· < cutoff) - kMinWindowsBeforeDetection) 0

variable {window : ℕ} {cutoff : UInt8} {since : List UInt8}

/-- A runtime that was just reset holds nothing. -/
theorem WindowHolds.reset (h0 : 0 < window) (hmax : window ≤ kMaxSlidingWindowSize)
    (h : runtime.slidingWindowSize = window) :
    WindowHolds window cutoff [] (resetRuntimeProbabilities runtime) where
  window_eq := h
  index_lt := h0
  ring := by
    have htake : (resetRuntimeProbabilities runtime).recentProbabilities.toList.take window =
        List.replicate window 0 := by
      simp [resetRuntimeProbabilities, List.take_replicate, hmax]
    rw [htake]
    exact RingHolds.empty (Nat.mod_lt _ h0) 0
  ignored := by simp [resetRuntimeProbabilities, kMinWindowsBeforeDetection]

/-- The window depends on four fields. -/
theorem WindowHolds.congr (h : WindowHolds window cutoff since runtime)
    (hrecent : runtime'.recentProbabilities = runtime.recentProbabilities)
    (hsize : runtime'.slidingWindowSize = runtime.slidingWindowSize)
    (hindex : runtime'.lastProbabilityIndex = runtime.lastProbabilityIndex)
    (hignore : runtime'.ignoreWindows = runtime.ignoreWindows) :
    WindowHolds window cutoff since runtime' where
  window_eq := by rw [hsize, h.window_eq]
  index_lt := by rw [hindex]; exact h.index_lt
  ring := by rw [hrecent, hindex]; exact h.ring
  ignored := by rw [hignore, h.ignored]

/-- The index that is counted up and starts over is the one the ring is written at. -/
theorem next_index {index : ℕ} (h : index < window) :
    (if window ≤ index + 1 then 0 else index + 1) = (index + 1) % window := by
  split_ifs with hwrap
  · rw [show index + 1 = window by omega, Nat.mod_self]
  · rw [Nat.mod_eq_of_lt (by omega)]

/-- A probability is recorded. -/
theorem WindowHolds.record (hmax : window ≤ kMaxSlidingWindowSize)
    (h : WindowHolds window metadata.probabilityCutoff since runtime) (probability : UInt8) :
    WindowHolds window metadata.probabilityCutoff (since ++ [probability])
      (recordProbability metadata runtime probability) := by
  have hindex : (recordProbability metadata runtime probability).lastProbabilityIndex =
      (runtime.lastProbabilityIndex + 1) % window := by
    simp only [recordProbability, h.window_eq]
    exact next_index h.index_lt
  have hlength : (runtime.recentProbabilities.toList.take window).length = window := by
    simp [hmax]
  refine ⟨h.window_eq, ?_, ?_, ?_⟩
  · rw [hindex]
    exact Nat.mod_lt _ (Nat.zero_lt_of_lt h.index_lt)
  · have hrecent : (recordProbability metadata runtime probability).recentProbabilities.toList =
        runtime.recentProbabilities.toList.set ((runtime.lastProbabilityIndex + 1) % window)
          probability := by
      rw [← hindex]
      simp [recordProbability, Vector.toList_setIfInBounds]
    have hwrite := h.ring.write probability
    rw [hlength] at hwrite
    rw [hrecent, List.take_set, hindex]
    exact hwrite
  · by_cases hbelow : probability < metadata.probabilityCutoff
    · simp only [recordProbability, h.ignored, List.countP_append, List.countP_singleton, hbelow,
        decide_true, if_true]
      omega
    · simp only [recordProbability, h.ignored, List.countP_append, List.countP_singleton, hbelow,
        decide_false, if_false, Bool.false_eq_true, Nat.add_zero]

/-- The sum in the ring is the sum of the last probabilities. -/
theorem WindowHolds.sum_eq (hmax : window ≤ kMaxSlidingWindowSize)
    (h : WindowHolds window cutoff since runtime) :
    (windowSum runtime).toNat = ((since.reverse.take window).map UInt8.toNat).sum := by
  have hlength : (runtime.recentProbabilities.toList.take window).length = window := by
    simp [hmax]
  have hperm := h.ring.perm
  rw [hlength] at hperm
  rw [toNat_windowSum, h.window_eq, ((hperm.trans (ringLast_perm window 0 since)).map _).sum_eq,
    List.map_append, List.sum_append, List.map_replicate]
  simp

/-- The comparison in 32 bits is that of the numbers. -/
theorem windowSum_le_iff (hmax : window ≤ kMaxSlidingWindowSize) (sum : UInt32) :
    sum ≤ cutoff.toUInt32 * UInt32.ofNat window ↔ sum.toNat ≤ cutoff.toNat * window := by
  have hcutoff := cutoff.toNat_lt
  have hproduct : cutoff.toNat * window ≤ 255 * 16 :=
    Nat.mul_le_mul (by omega) hmax
  have hwindow : window < 2 ^ 32 := lt_of_le_of_lt hmax (by decide)
  rw [UInt32.le_iff_toNat_le, UInt32.toNat_mul, UInt8.toNat_toUInt32, UInt32.toNat_ofNat',
    Nat.mod_eq_of_lt hwindow, Nat.mod_eq_of_lt (by omega)]

/-- **A detection is one of the plain window.** -/
theorem judgeWindow_spec (hmax : window ≤ kMaxSlidingWindowSize)
    (h : WindowHolds window metadata.probabilityCutoff since runtime) :
    if Detected window metadata.probabilityCutoff since then
      (judgeWindow role metadata runtime).1.isSome = true ∧
        WindowHolds window metadata.probabilityCutoff [] (judgeWindow role metadata runtime).2
    else
      (judgeWindow role metadata runtime).1 = none ∧
        WindowHolds window metadata.probabilityCutoff since
          (judgeWindow role metadata runtime).2 := by
  have hpositive : 0 < window := Nat.zero_lt_of_lt h.index_lt
  have hsum := h.sum_eq hmax
  have hignored : (runtime.ignoreWindows < 0 ∨ runtime.slidingWindowSize = 0) ↔
      ¬ kMinWindowsBeforeDetection ≤ since.countP (· < metadata.probabilityCutoff) := by
    rw [h.ignored, h.window_eq]
    omega
  have hlow : windowSum runtime ≤
        metadata.probabilityCutoff.toUInt32 * UInt32.ofNat runtime.slidingWindowSize ↔
      ¬ metadata.probabilityCutoff.toNat * window <
        ((since.reverse.take window).map UInt8.toNat).sum := by
    rw [h.window_eq, windowSum_le_iff hmax, hsum, not_lt]
  simp only [judgeWindow, Detected, hignored, hlow]
  by_cases henough : kMinWindowsBeforeDetection ≤ since.countP (· < metadata.probabilityCutoff)
  · by_cases hgreater : metadata.probabilityCutoff.toNat * window <
        ((since.reverse.take window).map UInt8.toNat).sum
    · rw [if_pos ⟨henough, hgreater⟩, if_neg (not_not.mpr henough), if_neg (not_not.mpr hgreater)]
      exact ⟨rfl, .reset hpositive hmax h.window_eq⟩
    · rw [if_neg (fun both => hgreater both.2), if_neg (not_not.mpr henough), if_pos hgreater]
      exact ⟨rfl, h⟩
  · rw [if_neg (fun both => henough both.1), if_pos henough]
    exact ⟨rfl, h⟩

theorem unprocessed_judgeWindow (h : runtime.unprocessedProbability = false) :
    (judgeWindow role metadata runtime).2.unprocessedProbability = false := by
  unfold judgeWindow
  dsimp only
  split_ifs
  · exact h
  · exact h
  · rfl

/-- After `detection_from_runtime` no probability is new. -/
theorem unprocessed_detectionFromRuntime (runtime : StreamingRuntime σ) :
    (detectionFromRuntime role metadata runtime).2.unprocessedProbability = false := by
  unfold detectionFromRuntime
  split_ifs with hnew
  · simpa using hnew
  · exact unprocessed_judgeWindow rfl

/-- The steps of `process_feature_for_models`. -/
theorem processFeature_ok {pass : Pass}
    (h : processFeature tflm role metadata runtime feature = .ok (pass, runtime')) :
    ∃ inference between,
      performStreamingInference tflm metadata runtime feature = .ok (inference, between) ∧
      pass.invoked = inference.invoked ∧ pass.probability = inference.probability ∧
      (inference.succeeded = false ∧ pass.detection = none ∧ runtime' = between ∨
        inference.succeeded = true ∧
          (pass.detection, runtime') = detectionFromRuntime role metadata between) := by
  unfold processFeature at h
  split at h
  · cases h
  · rename_i inference between hperform
    refine ⟨inference, between, hperform, ?_⟩
    cases hsucceeded : inference.succeeded with
    | false =>
      simp only [hsucceeded, Bool.not_false, if_true] at h
      cases h
      exact ⟨rfl, rfl, .inl ⟨rfl, rfl, rfl⟩⟩
    | true =>
      simp only [hsucceeded, Bool.not_true, Bool.false_eq_true, if_false] at h
      cases h
      exact ⟨rfl, rfl, .inr ⟨rfl, rfl⟩⟩

/-- The window after a row. -/
def WindowAfter (window : ℕ) (cutoff : UInt8) (since : List UInt8) (pass : Pass)
    (runtime : StreamingRuntime σ) : Prop :=
  match pass.probability with
  | none => pass.detection = none ∧ WindowHolds window cutoff since runtime
  | some probability =>
    if Detected window cutoff (since ++ [probability]) then
      pass.detection.isSome = true ∧ WindowHolds window cutoff [] runtime
    else pass.detection = none ∧ WindowHolds window cutoff (since ++ [probability]) runtime

/-- **One row.** -/
theorem processFeature_window (hmax : window ≤ kMaxSlidingWindowSize)
    {pass : Pass} (hwindow : WindowHolds window metadata.probabilityCutoff since runtime)
    (hread : runtime.unprocessedProbability = false)
    (h : processFeature tflm role metadata runtime feature = .ok (pass, runtime')) :
    WindowAfter window metadata.probabilityCutoff since pass runtime' ∧
      runtime'.unprocessedProbability = false := by
  obtain ⟨inference, between, hperform, -, hprobability, hrest⟩ := processFeature_ok h
  rcases performStreamingInference_ok hperform with
    ⟨hnone, hrecent, hsize, hindex, hignore, hunprocessed⟩ |
    ⟨earlier, probability, hsome, hsucceeded, rfl, hrecent, hsize, hindex, hignore⟩
  · -- the model was not invoked, or that failed
    have hbetween : WindowHolds window metadata.probabilityCutoff since between :=
      hwindow.congr hrecent hsize hindex hignore
    have hquiet : between.unprocessedProbability = false := by rw [hunprocessed, hread]
    have hdetect : detectionFromRuntime role metadata between = (none, between) := by
      simp [detectionFromRuntime, hquiet]
    simp only [WindowAfter, hprobability, hnone]
    rcases hrest with ⟨-, hdetection, rfl⟩ | ⟨-, hpair⟩
    · exact ⟨⟨hdetection, hbetween⟩, hquiet⟩
    · obtain ⟨hdetection, rfl⟩ := Prod.ext_iff.mp (hpair.trans hdetect)
      exact ⟨⟨hdetection, hbetween⟩, hquiet⟩
  · -- it gave a probability
    have hearlier : WindowHolds window metadata.probabilityCutoff since earlier :=
      hwindow.congr hrecent hsize hindex hignore
    have hrecorded := hearlier.record hmax probability
    rcases hrest with ⟨hfailed, -⟩ | ⟨-, hpair⟩
    · simp [hsucceeded] at hfailed
    · obtain ⟨hdetection, hruntime⟩ := Prod.ext_iff.mp hpair
      have hmarked : WindowHolds window metadata.probabilityCutoff (since ++ [probability])
          { recordProbability metadata earlier probability with unprocessedProbability := false } :=
        hrecorded.congr rfl rfl rfl rfl
      have hdetect : detectionFromRuntime role metadata
            (recordProbability metadata earlier probability) =
          judgeWindow role metadata { recordProbability metadata earlier probability with
            unprocessedProbability := false } := rfl
      simp only at hdetection hruntime
      rw [hruntime]
      refine ⟨?_, unprocessed_detectionFromRuntime _⟩
      simp only [WindowAfter, hprobability, hsome, hdetection, hdetect]
      exact judgeWindow_spec hmax hmarked

/-- The detections of a run, one answer for each probability. -/
def reported (passes : List Pass) : List Bool :=
  passes.filterMap fun pass => pass.probability.map fun _ => pass.detection.isSome

/-- **A run of rows.** -/
theorem processFeatures_window (hmax : window ≤ kMaxSlidingWindowSize) {features : List Feature}
    {passes : List Pass} (hwindow : WindowHolds window metadata.probabilityCutoff since runtime)
    (hread : runtime.unprocessedProbability = false)
    (h : processFeatures tflm role metadata runtime features = .ok (passes, runtime')) :
    reported passes = detections window metadata.probabilityCutoff since
        (passes.filterMap Pass.probability) ∧
      ∀ pass ∈ passes, pass.probability = none → pass.detection = none := by
  induction features generalizing runtime passes since with
  | nil =>
    cases h
    simp [reported, detections]
  | cons feature features ih =>
    simp only [processFeatures] at h
    split at h
    · cases h
    · rename_i pass between hfirst
      split at h
      · cases h
      · rename_i rest last hrest
        cases h
        obtain ⟨hafter, hread'⟩ := processFeature_window hmax hwindow hread hfirst
        unfold WindowAfter at hafter
        cases hprobability : pass.probability with
        | none =>
          simp only [hprobability] at hafter
          obtain ⟨hreports, hquiet⟩ := ih hafter.2 hread' hrest
          refine ⟨by simpa [reported, hprobability] using hreports, ?_⟩
          exact List.forall_mem_cons.mpr ⟨fun _ => hafter.1, hquiet⟩
        | some probability =>
          simp only [hprobability] at hafter
          have hvacuous : pass.probability = none → pass.detection = none := by
            simp [hprobability]
          split_ifs at hafter with hdetected
          · obtain ⟨hreports, hquiet⟩ := ih hafter.2 hread' hrest
            refine ⟨?_, List.forall_mem_cons.mpr ⟨hvacuous, hquiet⟩⟩
            simp only [reported, List.filterMap_cons, hprobability, Option.map_some, hafter.1,
              detections, if_pos hdetected]
            exact congrArg (true :: ·) hreports
          · obtain ⟨hreports, hquiet⟩ := ih hafter.2 hread' hrest
            refine ⟨?_, List.forall_mem_cons.mpr ⟨hvacuous, hquiet⟩⟩
            simp only [reported, List.filterMap_cons, hprobability, Option.map_some, hafter.1,
              detections, if_neg hdetected]
            exact congrArg (false :: ·) hreports

/-- A positive size, of the 32 bits that the metadata has, as a number. -/
theorem boundedWindow_of_pos {size : Int32} (h : 0 < size.toInt) :
    boundedWindow size = min size.toInt.toNat kMaxSlidingWindowSize := by
  unfold boundedWindow
  congr 1
  have hnat : size.toUInt32.toNat = size.toBitVec.toNat := rfl
  have hint : size.toInt = size.toBitVec.toInt := rfl
  have hlt := size.toBitVec.isLt
  rw [hnat]
  rw [hint, BitVec.toInt_eq_toNat_cond] at h ⊢
  split_ifs at h ⊢ <;> omega

/-- **Detection is the sliding window**: in a run of any rows from a model that was just loaded, with a
window size of one or more, detections are those of the plain window over the probabilities, there is
none without a new probability, and the sum never overflows. -/
theorem detections_are_window_sums (tflm : Interpreter σ) (role : MicroWakeModelRole)
    (metadata : LocalKeywordModel) (runtime runtime' : StreamingRuntime σ)
    (hload : initializeStreamingRuntime metadata tflm = .ok runtime)
    (hsize : 0 < metadata.slidingWindowSize.toInt) (features : List Feature) (passes : List Pass)
    (h : processFeatures tflm role metadata runtime features = .ok (passes, runtime')) :
    reported passes =
        detections (min metadata.slidingWindowSize.toInt.toNat kMaxSlidingWindowSize)
          metadata.probabilityCutoff [] (passes.filterMap Pass.probability) ∧
      (∀ pass ∈ passes, pass.probability = none → pass.detection = none) ∧
      ∀ reached : StreamingRuntime σ, (windowSum reached).toNat =
        ((reached.recentProbabilities.toList.take reached.slidingWindowSize).map
          UInt8.toNat).sum := by
  obtain ⟨-, hwindow, hreset⟩ := initializeStreamingRuntime_ok hload
  rw [boundedWindow_of_pos hsize] at hwindow
  have hpositive : 0 < min metadata.slidingWindowSize.toInt.toNat kMaxSlidingWindowSize :=
    lt_min (by omega) (by decide)
  have hholds : WindowHolds (min metadata.slidingWindowSize.toInt.toNat kMaxSlidingWindowSize)
      metadata.probabilityCutoff [] runtime := by
    rw [hreset]
    exact .reset hpositive (min_le_right _ _) hwindow
  have hread : runtime.unprocessedProbability = false := by
    rw [hreset]
    rfl
  obtain ⟨hreports, hquiet⟩ := processFeatures_window (min_le_right _ _) hholds hread h
  exact ⟨hreports, hquiet, toNat_windowSum⟩

/-- A model of any stride, which gives the first byte of its tensor. -/
def plainModel (stride : ℤ) : Interpreter Unit where
  schemaVersion := some kExpectedTfliteSchemaVersion
  opsRegistered := true
  variableArenaAllocated := true
  tensorArenaAllocated := true
  tensorsAllocated := true
  input := some ⟨[1, stride, kPreprocessorFeatureSize], .int8⟩
  output := some ⟨[1, 1], .uint8⟩
  initialState := ()
  initialData := fun _ => 0
  invoke := fun _ data => (some (data.headD 0).toUInt8, (), data)
  length_invoke := fun _ _ => rfl

def plainMetadata : LocalKeywordModel where
  id := "hexe"
  wakeWord := "Hexe"
  probabilityCutoff := 200
  slidingWindowSize := 5

def plainRuntime (stride : ℤ) : StreamingRuntime Unit where
  state := ()
  inputData := (List.range (tensorSize stride)).map fun _ => 0
  stride
  recentProbabilities := .replicate kMaxSlidingWindowSize 0
  slidingWindowSize := 5
  lastProbabilityIndex := 0
  currentStrideStep := 0
  ignoreWindows := -kMinWindowsBeforeDetection
  unprocessedProbability := false

theorem plainModel_loads (stride : ℤ) :
    initializeStreamingRuntime plainMetadata (plainModel stride) = .ok (plainRuntime stride) := rfl

/-- A row whose first byte is read as 100. -/
def plainRow : Feature := .replicate kPreprocessorFeatureSize 100

theorem detections_of_two_rows :
    ∃ passes runtime', processFeatures (plainModel 1) .wake plainMetadata (plainRuntime 1)
        [plainRow, plainRow] = .ok (passes, runtime') ∧
      reported passes = detections 5 200 [] (passes.filterMap Pass.probability) := by
  refine ⟨_, _, rfl, ?_⟩
  exact (detections_are_window_sums (plainModel 1) .wake plainMetadata (plainRuntime 1) _
    (plainModel_loads 1) (by decide) [plainRow, plainRow] _ rfl).1

example : (detections 5 200 [] (List.replicate 100 40 ++ List.replicate 4 250)).getLast? =
    some true := by decide +kernel

/-! ### The strides -/

/-- The rows that are due at an invocation after those taken: the last `stride`. -/
def due (stride : ℕ) (taken : List Feature) : Option (List Int8) :=
  if stride ∣ taken.length then
    some ((taken.drop (taken.length - stride)).flatMap Vector.toList)
  else none

/-- What the model should be invoked with at each of the rows, after those in `taken`. -/
def strides (stride : ℕ) : List Feature → List Feature → List (Option (List Int8))
  | _, [] => []
  | taken, feature :: features =>
    due stride (taken ++ [feature]) :: strides stride (taken ++ [feature]) features

/-- The rows are consumed in strides, with no fault. -/
def InStrides (tflm : Interpreter σ) (role : MicroWakeModelRole) (metadata : LocalKeywordModel)
    (runtime : StreamingRuntime σ) (features : List Feature) : Prop :=
  ∃ passes runtime', processFeatures tflm role metadata runtime features = .ok (passes, runtime') ∧
    passes.map Pass.invoked = strides runtime.stride.toNat [] features

/-- The tensor holds the rows of the stride that has begun. -/
structure StrideHolds (stride : ℕ) (taken : List Feature) (runtime : StreamingRuntime σ) : Prop where
  stride_eq : runtime.stride = stride
  size : runtime.inputData.length = kPreprocessorFeatureSize * stride
  step : runtime.currentStrideStep.toNat = taken.length % stride
  rows : runtime.inputData.take (kPreprocessorFeatureSize * (taken.length % stride)) =
    (taken.drop (taken.length - taken.length % stride)).flatMap Vector.toList

variable {stride : ℕ} {taken : List Feature}

theorem length_rowWritten {data : List Int8} {row : ℕ} (feature : Feature)
    (h : kPreprocessorFeatureSize * row + kPreprocessorFeatureSize ≤ data.length) :
    (rowWritten data row feature).length = data.length := by
  simp only [rowWritten, List.length_append, List.length_take, List.length_drop,
    Vector.length_toList]
  omega

/-- The rows up to the one that is written. -/
theorem take_rowWritten {data : List Int8} {row : ℕ} (feature : Feature)
    (h : kPreprocessorFeatureSize * row + kPreprocessorFeatureSize ≤ data.length) :
    (rowWritten data row feature).take (kPreprocessorFeatureSize * (row + 1)) =
      data.take (kPreprocessorFeatureSize * row) ++ feature.toList := by
  have hlength : (data.take (kPreprocessorFeatureSize * row) ++ feature.toList).length =
      kPreprocessorFeatureSize * (row + 1) := by
    simp only [List.length_append, List.length_take, Vector.length_toList, Nat.mul_succ]
    omega
  unfold rowWritten
  rw [← hlength, List.take_left]

/-- The row is not the last one of the tensor. -/
theorem performStreamingInference_fills (tflm : Interpreter σ) (metadata : LocalKeywordModel)
    (feature : Feature) {row : ℕ}
    (hstride : runtime.stride = stride) (hnarrowed : UInt8.ofNat stride ≠ 0)
    (hrow : (runtime.currentStrideStep % UInt8.ofNat stride).toNat = row)
    (hroom : kPreprocessorFeatureSize * row + kPreprocessorFeatureSize ≤ runtime.inputData.length)
    (hstep : (runtime.currentStrideStep % UInt8.ofNat stride + 1).toNat < stride) :
    performStreamingInference tflm metadata runtime feature =
      .ok (⟨true, none, none⟩,
        { runtime with
          inputData := rowWritten runtime.inputData row feature
          currentStrideStep := runtime.currentStrideStep % UInt8.ofNat stride + 1 }) := by
  have hpositive : ¬ (stride : ℤ) ≤ 0 := by omega
  have hinside : ¬ runtime.inputData.length <
      kPreprocessorFeatureSize * row + kPreprocessorFeatureSize := by omega
  have hmore : ((runtime.currentStrideStep % UInt8.ofNat stride + 1).toNat : ℤ) < stride := by
    exact_mod_cast hstep
  unfold performStreamingInference
  simp only [hstride, hpositive, if_false, Int.toNat_natCast, hnarrowed, hrow, hinside, hmore,
    if_true]

/-- The row is the last one of the tensor. -/
theorem performStreamingInference_full (tflm : Interpreter σ) (metadata : LocalKeywordModel)
    (feature : Feature) {row : ℕ}
    (hstride : runtime.stride = stride) (hpositive : 0 < stride)
    (hnarrowed : UInt8.ofNat stride ≠ 0)
    (hrow : (runtime.currentStrideStep % UInt8.ofNat stride).toNat = row)
    (hroom : kPreprocessorFeatureSize * row + kPreprocessorFeatureSize ≤ runtime.inputData.length)
    (hstep : stride ≤ (runtime.currentStrideStep % UInt8.ofNat stride + 1).toNat) :
    performStreamingInference tflm metadata runtime feature =
      .ok (invokeModel tflm metadata
        { runtime with
          inputData := rowWritten runtime.inputData row feature
          currentStrideStep := runtime.currentStrideStep % UInt8.ofNat stride + 1 }) := by
  have hnonpos : ¬ (stride : ℤ) ≤ 0 := by omega
  have hinside : ¬ runtime.inputData.length <
      kPreprocessorFeatureSize * row + kPreprocessorFeatureSize := by omega
  have hlast : ¬ ((runtime.currentStrideStep % UInt8.ofNat stride + 1).toNat : ℤ) < stride := by
    exact_mod_cast Nat.not_lt.mpr hstep
  unfold performStreamingInference
  simp only [hstride, hnonpos, if_false, Int.toNat_natCast, hnarrowed, hrow, hinside, hlast]

/-- A row that only fills the tensor. -/
theorem processFeature_of_fills (role : MicroWakeModelRole)
    (h : performStreamingInference tflm metadata runtime feature =
      .ok (⟨true, none, none⟩, runtime')) (hread : runtime'.unprocessedProbability = false) :
    processFeature tflm role metadata runtime feature = .ok (⟨none, none, none⟩, runtime') := by
  simp [processFeature, h, detectionFromRuntime, hread]

/-- A detection leaves the tensor alone, and at most starts the stride again. -/
theorem detectionFromRuntime_tensor (role : MicroWakeModelRole) (metadata : LocalKeywordModel)
    (runtime : StreamingRuntime σ) :
    (detectionFromRuntime role metadata runtime).2.stride = runtime.stride ∧
      (detectionFromRuntime role metadata runtime).2.inputData = runtime.inputData ∧
      ((detectionFromRuntime role metadata runtime).2.currentStrideStep =
          runtime.currentStrideStep ∨
        (detectionFromRuntime role metadata runtime).2.currentStrideStep = 0) := by
  unfold detectionFromRuntime judgeWindow
  dsimp only
  split_ifs
  · exact ⟨rfl, rfl, .inl rfl⟩
  · exact ⟨rfl, rfl, .inl rfl⟩
  · exact ⟨rfl, rfl, .inl rfl⟩
  · exact ⟨rfl, rfl, .inr rfl⟩

/-- A row with which the tensor is full. -/
theorem processFeature_of_full (role : MicroWakeModelRole)
    (h : performStreamingInference tflm metadata runtime feature =
      .ok (invokeModel tflm metadata runtime')) (hread : runtime'.unprocessedProbability = false) :
    ∃ pass after, processFeature tflm role metadata runtime feature = .ok (pass, after) ∧
      pass.invoked = some runtime'.inputData ∧ after.stride = runtime'.stride ∧
      after.inputData.length = runtime'.inputData.length ∧ after.currentStrideStep = 0 ∧
      after.unprocessedProbability = false := by
  obtain ⟨between, -, -, -, -, hunprocessed, hstride, hlength, hstep,
    hfailed | ⟨probability, hgave⟩⟩ := invokeModel_cases tflm metadata runtime'
  · refine ⟨⟨some runtime'.inputData, none, none⟩, between, ?_, rfl, hstride, hlength, hstep, ?_⟩
    · simp [processFeature, h, hfailed]
    · rw [hunprocessed, hread]
  · obtain ⟨hstride', hdata', hstep'⟩ :=
      detectionFromRuntime_tensor role metadata (recordProbability metadata between probability)
    have hprocess : processFeature tflm role metadata runtime feature =
        .ok (⟨some runtime'.inputData, some probability,
            (detectionFromRuntime role metadata
              (recordProbability metadata between probability)).1⟩,
          (detectionFromRuntime role metadata
            (recordProbability metadata between probability)).2) := by
      simp only [processFeature, h, hgave]
      rfl
    refine ⟨_, _, hprocess, rfl, hstride'.trans hstride,
      (congrArg List.length hdata').trans hlength, ?_, unprocessed_detectionFromRuntime _⟩
    · rcases hstep' with hkept | hzero
      · exact hkept.trans hstep
      · exact hzero

/-- A stride that fits into a byte stays what it is. -/
theorem toNat_narrowed (h : stride ≤ 255) : (UInt8.ofNat stride).toNat = stride := by
  rw [UInt8.toNat_ofNat']
  exact Nat.mod_eq_of_lt (by omega)

theorem narrowed_ne_zero (hpositive : 0 < stride) (h : stride ≤ 255) :
    UInt8.ofNat stride ≠ 0 := by
  intro hzero
  have := toNat_narrowed h
  rw [hzero, UInt8.toNat_zero] at this
  omega

/-- The step counter goes on by one, in its 8 bits. -/
theorem toNat_step_succ {step narrowed : UInt8} (h : narrowed ≠ 0) :
    (step % narrowed + 1).toNat = step.toNat % narrowed.toNat + 1 := by
  have hpositive : 0 < narrowed.toNat := by
    refine Nat.pos_of_ne_zero fun hzero => h ?_
    exact UInt8.toNat_inj.mp hzero
  have hmod := Nat.mod_lt step.toNat hpositive
  have hbyte := narrowed.toNat_lt
  rw [UInt8.toNat_add, UInt8.toNat_mod, UInt8.toNat_one, Nat.mod_eq_of_lt (by omega)]

/-- Where a stride ends. -/
theorem dvd_succ_iff {taken stride : ℕ} (hpositive : 0 < stride) :
    stride ∣ taken + 1 ↔ taken % stride + 1 = stride := by
  obtain ⟨last, rfl⟩ : ∃ last, stride = last + 1 := ⟨stride - 1, by omega⟩
  rw [Nat.dvd_iff_mod_eq_zero, Nat.succ_mod_succ_eq_zero_iff]
  omega

/-- **One row, with a stride that fits into a byte.** -/
theorem processFeature_stride (tflm : Interpreter σ) (role : MicroWakeModelRole)
    (metadata : LocalKeywordModel) (hpositive : 0 < stride) (hbyte : stride ≤ 255)
    (h : StrideHolds stride taken runtime) (hread : runtime.unprocessedProbability = false)
    (feature : Feature) :
    ∃ pass after, processFeature tflm role metadata runtime feature = .ok (pass, after) ∧
      pass.invoked = due stride (taken ++ [feature]) ∧
      StrideHolds stride (taken ++ [feature]) after ∧ after.unprocessedProbability = false := by
  have hnarrowed := narrowed_ne_zero hpositive hbyte
  have hlt := Nat.mod_lt taken.length hpositive
  have hrow : (runtime.currentStrideStep % UInt8.ofNat stride).toNat = taken.length % stride := by
    rw [UInt8.toNat_mod, toNat_narrowed hbyte, h.step, Nat.mod_mod]
  have hstep : (runtime.currentStrideStep % UInt8.ofNat stride + 1).toNat =
      taken.length % stride + 1 := by
    rw [toNat_step_succ hnarrowed, toNat_narrowed hbyte, h.step, Nat.mod_mod]
  have hroom : kPreprocessorFeatureSize * (taken.length % stride) + kPreprocessorFeatureSize ≤
      runtime.inputData.length := by
    rw [h.size, ← Nat.mul_succ]
    exact Nat.mul_le_mul_left _ hlt
  -- the rows of the stride, the new one included
  have hrows : (rowWritten runtime.inputData (taken.length % stride) feature).take
        (kPreprocessorFeatureSize * (taken.length % stride + 1)) =
      ((taken ++ [feature]).drop ((taken ++ [feature]).length - (taken.length % stride + 1))).flatMap
        Vector.toList := by
    have hdrop : (taken ++ [feature]).drop
          ((taken ++ [feature]).length - (taken.length % stride + 1)) =
        taken.drop (taken.length - taken.length % stride) ++ [feature] := by
      rw [List.length_append, List.length_singleton, Nat.add_sub_add_right,
        List.drop_append_of_le_length (Nat.sub_le _ _)]
    rw [take_rowWritten feature hroom, h.rows, hdrop, List.flatMap_append, List.flatMap_singleton]
  have hlength := length_rowWritten feature hroom
  by_cases hlast : taken.length % stride + 1 = stride
  · have hperform := performStreamingInference_full tflm metadata feature h.stride_eq hpositive
      hnarrowed hrow hroom (by rw [hstep, hlast])
    obtain ⟨pass, after, hprocess, hinvoked, hstride', hlength', hstep', hread'⟩ :=
      processFeature_of_full role hperform hread
    have hend : stride ∣ (taken ++ [feature]).length := by
      rw [List.length_append, List.length_singleton, dvd_succ_iff hpositive, hlast]
    refine ⟨pass, after, hprocess, ?_, ⟨hstride'.trans h.stride_eq, ?_, ?_, ?_⟩, hread'⟩
    · rw [hinvoked, due, if_pos hend]
      rw [hlast, List.take_of_length_le (by rw [hlength, h.size])] at hrows
      rw [hrows]
    · rw [hlength', hlength, h.size]
    · rw [hstep', Nat.mod_eq_zero_of_dvd hend]
      rfl
    · rw [Nat.mod_eq_zero_of_dvd hend]
      simp
  · have hmore : taken.length % stride + 1 < stride := by omega
    have hprocess := processFeature_of_fills role
      (performStreamingInference_fills tflm metadata feature h.stride_eq hnarrowed hrow hroom
        (by rw [hstep]; exact hmore)) hread
    have hmod : (taken ++ [feature]).length % stride = taken.length % stride + 1 := by
      rw [List.length_append, List.length_singleton, Nat.add_mod, Nat.mod_eq_of_lt (b := stride)]
      · rw [Nat.mod_eq_of_lt (a := 1) (by omega)]
      · rw [Nat.mod_eq_of_lt (a := 1) (by omega)]
        exact hmore
    refine ⟨_, _, hprocess, ?_, ⟨h.stride_eq, hlength.trans h.size, ?_, ?_⟩, hread⟩
    · rw [due, if_neg]
      rw [List.length_append, List.length_singleton, dvd_succ_iff hpositive]
      exact hlast
    · rw [hmod]
      exact hstep
    · rw [hmod]
      exact hrows

/-- **A run of rows, with a stride that fits into a byte.** -/
theorem processFeatures_strides (tflm : Interpreter σ) (role : MicroWakeModelRole)
    (metadata : LocalKeywordModel) (hpositive : 0 < stride) (hbyte : stride ≤ 255)
    (h : StrideHolds stride taken runtime) (hread : runtime.unprocessedProbability = false)
    (features : List Feature) :
    ∃ passes after, processFeatures tflm role metadata runtime features = .ok (passes, after) ∧
      passes.map Pass.invoked = strides stride taken features := by
  induction features generalizing runtime taken with
  | nil => exact ⟨[], runtime, rfl, rfl⟩
  | cons feature features ih =>
    obtain ⟨pass, between, hfirst, hinvoked, hholds, hread'⟩ :=
      processFeature_stride tflm role metadata hpositive hbyte h hread feature
    obtain ⟨passes, after, hrest, hpasses⟩ := ih hholds hread'
    refine ⟨pass :: passes, after, ?_, ?_⟩
    · simp only [processFeatures, hfirst, hrest]
    · rw [List.map_cons, hinvoked, hpasses, strides]

/-- With a greater one, which is no multiple of 256, the model is never invoked. -/
theorem processFeatures_never (tflm : Interpreter σ) (role : MicroWakeModelRole)
    (metadata : LocalKeywordModel) (hlarge : 256 ≤ stride) (hnarrowed : UInt8.ofNat stride ≠ 0)
    (hstride : runtime.stride = stride)
    (hsize : runtime.inputData.length = kPreprocessorFeatureSize * stride)
    (hread : runtime.unprocessedProbability = false) (features : List Feature) :
    ∃ passes after, processFeatures tflm role metadata runtime features = .ok (passes, after) ∧
      passes.map Pass.invoked = List.replicate features.length none := by
  induction features generalizing runtime with
  | nil => exact ⟨[], runtime, rfl, rfl⟩
  | cons feature features ih =>
    have hlt : (runtime.currentStrideStep % UInt8.ofNat stride + 1).toNat < stride :=
      lt_of_lt_of_le (UInt8.toNat_lt _) hlarge
    have hroom : kPreprocessorFeatureSize * (runtime.currentStrideStep % UInt8.ofNat stride).toNat +
        kPreprocessorFeatureSize ≤ runtime.inputData.length := by
      rw [hsize, ← Nat.mul_succ]
      exact Nat.mul_le_mul_left _ ((UInt8.toNat_lt _).trans_le hlarge)
    have hfirst := processFeature_of_fills role
      (performStreamingInference_fills tflm metadata feature hstride hnarrowed rfl hroom hlt) hread
    obtain ⟨passes, after, hrest, hpasses⟩ := @ih
      { runtime with
        inputData := rowWritten runtime.inputData
          (runtime.currentStrideStep % UInt8.ofNat stride).toNat feature
        currentStrideStep := runtime.currentStrideStep % UInt8.ofNat stride + 1 }
      hstride ((length_rowWritten feature hroom).trans hsize) hread
    refine ⟨⟨none, none, none⟩ :: passes, after, ?_, ?_⟩
    · simp only [processFeatures, hfirst, hrest]
    · rw [List.map_cons, hpasses, List.length_cons, List.replicate_succ]

/-- No stride is complete before its last row. -/
theorem strides_eq_none_iff (hpositive : 0 < stride) (features : List Feature) :
    strides stride taken features = List.replicate features.length none ↔
      features = [] ∨ taken.length % stride + features.length < stride := by
  induction features generalizing taken with
  | nil => simp [strides]
  | cons feature features ih =>
    have hlt := Nat.mod_lt taken.length hpositive
    rw [strides, List.length_cons, List.replicate_succ, List.cons_eq_cons, ih, due]
    simp only [ite_eq_right_iff, reduceCtorEq, imp_false, List.length_append,
      List.length_singleton, dvd_succ_iff hpositive, false_or]
    by_cases hlast : taken.length % stride + 1 = stride
    · simp only [hlast, not_true_eq_false, false_and, false_iff]
      omega
    · have hmod : (taken.length + 1) % stride = taken.length % stride + 1 := by
        rw [Nat.add_mod, Nat.mod_eq_of_lt (a := 1) (by omega), Nat.mod_eq_of_lt (by omega)]
      rw [hmod]
      cases features with
      | nil => simp; omega
      | cons => simp [hlast]; omega

/-- The stride is divided by zero where it is divided by 256. -/
theorem narrowed_eq_zero_iff : UInt8.ofNat stride = 0 ↔ 256 ∣ stride := by
  rw [← UInt8.toNat_inj, UInt8.toNat_ofNat', UInt8.toNat_zero, Nat.dvd_iff_mod_eq_zero]

theorem StrideHolds.initial (h : initializeStreamingRuntime metadata tflm = .ok runtime)
    (hstride : runtime.stride = stride) : StrideHolds stride [] runtime := by
  obtain ⟨hsize, -, hreset⟩ := initializeStreamingRuntime_ok h
  refine ⟨hstride, ?_, ?_, by simp⟩
  · rw [hsize, hstride, tensorSize, Int.toNat_natCast]
  · rw [hreset]
    simp [resetRuntimeProbabilities]

/-- **The model consumes rows in strides.** -/
theorem strides_iff (tflm : Interpreter σ) (role : MicroWakeModelRole)
    (metadata : LocalKeywordModel) (runtime : StreamingRuntime σ)
    (hload : initializeStreamingRuntime metadata tflm = .ok runtime)
    (hpositive : 0 < runtime.stride) (features : List Feature) :
    InStrides tflm role metadata runtime features ↔
      runtime.stride ≤ 255 ∨
        features.length < runtime.stride ∧ (¬ (256 : ℤ) ∣ runtime.stride ∨ features = []) := by
  obtain ⟨stride, hstride⟩ : ∃ stride : ℕ, runtime.stride = stride :=
    ⟨_, (Int.toNat_of_nonneg hpositive.le).symm⟩
  have hread : runtime.unprocessedProbability = false := by
    rw [(initializeStreamingRuntime_ok hload).2.2]
    rfl
  have hholds := StrideHolds.initial hload hstride
  have hdvd : (256 : ℤ) ∣ (stride : ℤ) ↔ 256 ∣ stride := by exact_mod_cast Iff.rfl
  have hnat : 0 < stride := by omega
  simp only [InStrides, hstride, Int.toNat_natCast, hdvd, Nat.cast_lt]
  by_cases hbyte : stride ≤ 255
  · have hsmall : (stride : ℤ) ≤ 255 := by exact_mod_cast hbyte
    simp only [hsmall, true_or, iff_true]
    exact processFeatures_strides tflm role metadata hnat hbyte hholds hread features
  · have hlarge : ¬ (stride : ℤ) ≤ 255 := by exact_mod_cast hbyte
    simp only [hlarge, false_or]
    by_cases hzero : UInt8.ofNat stride = 0
    · -- the first row divides by zero
      rw [narrowed_eq_zero_iff] at hzero
      cases features with
      | nil =>
        simp only [List.length_nil, hnat, or_true, and_true, iff_true]
        exact ⟨[], runtime, rfl, rfl⟩
      | cons feature features =>
        have hfault : processFeatures tflm role metadata runtime (feature :: features) =
            .error .divisionByZero := by
          simp [processFeatures, processFeature, performStreamingInference, hstride, hnat.ne',
            narrowed_eq_zero_iff.mpr hzero]
        simp [hfault, hzero]
    · -- the model is never invoked
      obtain ⟨passes, after, hprocess, hpasses⟩ := processFeatures_never tflm role metadata
        (by omega) hzero hstride hholds.size hread features
      rw [narrowed_eq_zero_iff] at hzero
      have hnever : (∃ passes runtime', processFeatures tflm role metadata runtime features =
            .ok (passes, runtime') ∧ passes.map Pass.invoked = strides stride [] features) ↔
          strides stride [] features = List.replicate features.length none := by
        constructor
        · rintro ⟨passes', after', hprocess', hpasses'⟩
          obtain ⟨rfl, rfl⟩ := Prod.mk.inj (Except.ok.inj (hprocess.symm.trans hprocess'))
          exact hpasses'.symm.trans hpasses
        · intro hnone
          exact ⟨passes, after, hprocess, hpasses.trans hnone.symm⟩
      rw [hnever, strides_eq_none_iff hnat]
      simp only [List.length_nil, Nat.zero_mod, Nat.zero_add, hzero, not_false_eq_true, true_or,
        and_true]
      constructor
      · rintro (rfl | hlt)
        · exact hnat
        · exact hlt
      · exact .inr

theorem strides_of_three_rows :
    InStrides (plainModel 2) .wake plainMetadata (plainRuntime 2) [plainRow, plainRow, plainRow] :=
  (strides_iff (plainModel 2) .wake plainMetadata (plainRuntime 2)
    (plainModel_loads 2) (by decide) _).mpr
    (.inl (by decide))

/-- A model with 256 rows is loaded, and its first row is a division by zero. -/
theorem stride_256_divides_by_zero :
    initializeStreamingRuntime plainMetadata (plainModel 256) = .ok (plainRuntime 256) ∧
      0 < (plainRuntime 256).stride ∧
      ¬ InStrides (plainModel 256) .wake plainMetadata (plainRuntime 256) [plainRow] := by
  refine ⟨plainModel_loads 256, by decide, ?_⟩
  rintro ⟨passes, after, hprocess, -⟩
  simp [processFeatures, processFeature, performStreamingInference, plainRuntime,
    show UInt8.ofNat 256 = 0 from rfl] at hprocess

end HexeVoice.Firmware.MicroWake
