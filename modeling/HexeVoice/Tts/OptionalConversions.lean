import HexeVoice.Library.Dict
import HexeVoice.Library.Machine
import Mathlib

/-!
# Optional conversions of a synthesis

`PiperTextToSpeechAdapter.synthesize` of `voice/pipeline.py` after its audio came, with
`complete_optional_tts_conversions` in its own thread, and `_merge_existing_generated_metadata` of
`tts/service.py`: which variants of a stream the sidecar lists, and which of them have files.

## The model

Of the sidecar the parts about variants are kept, in the order in which they were put in. A file of a
variant counts as written once its content is complete. The steps of the background thread and of the
service, which read the sidecar and write it later, come in any order; a read can fail (it may meet a
file that is just being written), and so can a write. A synthesis that fails before its sidecar is
written falls back to another adapter, and starts no conversions.

## What is proved

**`ready_throughout_iff`**: after every part of a run all variants that the sidecar lists as ready, with
a path or with a URL have files, exactly if the background thread writes the sidecar only when all
optional variants are written.
-/

namespace HexeVoice.Tts.OptionalConversions

open HexeVoice.Library

/-! ### The variants -/

/-- The variants of a stream. -/
inductive Variant where
  | raw
  | k16
  | k22050
  | k48
  deriving DecidableEq

/-- The name of a variant. -/
def Variant.name : Variant → String
  | .raw => "raw"
  | .k16 => "16k"
  | .k22050 => "22050"
  | .k48 => "48k"

/-- `allowed` in `normalize_tts_conversion_sample_rates`. -/
def allowed (rate : ℤ) : Option Variant :=
  if rate = 16000 then some .k16 else if rate = 22050 then some .k22050
  else if rate = 48000 then some .k48 else none

/-- `DEFAULT_PIPER_TTS_AUDIO_VARIANT_SAMPLE_RATES`. -/
def defaultSampleRates : Dict Variant ℤ := ⟨[(.k16, 16000), (.k48, 48000)]⟩

/-- `normalize_tts_conversion_sample_rates`, of the values as `int` reads them. -/
def normalizeTtsConversionSampleRates (sample_rates : List (Option ℤ)) : Dict Variant ℤ :=
  let normalized := Dict.empty.update
    (sample_rates.filterMap fun rate => rate.bind fun rate => (allowed rate).map (·, rate))
  if normalized.entries.isEmpty then defaultSampleRates else normalized

/-- `normalize_tts_conversion_policy`. -/
inductive ConversionPolicy where
  | blockingAll
  | endpointRequiredSync
  deriving DecidableEq

/-- What a synthesis is configured with. -/
structure Adapter where
  sampleRates : List (Option ℤ)
  conversionPolicy : ConversionPolicy
  /-- `_sample_rate_for_endpoint`. -/
  targetSampleRate : Option ℤ
  /-- The paths of the files and the URLs, and the URLs of the service. -/
  path : Variant → String
  url : Variant → String
  publicUrl : Variant → String

namespace Adapter

variable (adapter : Adapter)

def conversionSampleRates : Dict Variant ℤ := normalizeTtsConversionSampleRates adapter.sampleRates

/-- `_variant_for_sample_rate`. -/
def audioVariant : Variant :=
  match adapter.targetSampleRate with
  | none => .raw
  | some rate =>
    if rate ≤ 0 then .raw
    else ((adapter.conversionSampleRates.entries.find? fun entry => rate = entry.2).map Prod.fst).getD .raw

/-- `_blocking_conversion_sample_rates`. -/
def blocking : List Variant :=
  match adapter.conversionPolicy with
  | .endpointRequiredSync => adapter.conversionSampleRates.keys.filter (· = adapter.audioVariant)
  | .blockingAll => adapter.conversionSampleRates.keys

/-- `optional_sample_rates`. -/
def optional : List Variant := adapter.conversionSampleRates.keys.filter (· ∉ adapter.blocking)

end Adapter

/-! ### The sidecar -/

/-- The parts of the sidecar about variants. -/
structure Sidecar where
  audioVariants : Dict Variant String
  audioUrls : Dict Variant String
  pendingAudioVariants : Dict Variant String
  readyAudioVariants : Option (List Variant)
  optionalConversionStatus : Option String
  optionalConversionError : Option String

/-- The variants, each with what belongs to it. -/
def entriesOf (variants : List Variant) (value : Variant → String) : Dict Variant String :=
  Dict.empty.update (variants.map fun variant => (variant, value variant))

variable (adapter : Adapter)

/-- The sidecar of `synthesize`. -/
def firstSidecar : Sidecar where
  audioVariants := entriesOf (.raw :: adapter.blocking) adapter.path
  audioUrls := entriesOf (.raw :: adapter.blocking) adapter.url
  pendingAudioVariants := entriesOf adapter.optional adapter.path
  readyAudioVariants := some (entriesOf (.raw :: adapter.blocking) adapter.path).keys
  optionalConversionStatus := some (if adapter.optional.isEmpty then "not_needed" else "pending")
  optionalConversionError := none

/-- `update_tts_sidecar_optional_conversion`, on what it read. -/
def updateOptionalConversion (error : Option String) (metadata : Sidecar) : Sidecar :=
  let audio_variants := metadata.audioVariants.update
    (adapter.optional.map fun variant => (variant, adapter.path variant))
  { audioVariants := audio_variants
    audioUrls := entriesOf audio_variants.keys adapter.url
    pendingAudioVariants := Dict.empty
    readyAudioVariants := some audio_variants.keys
    optionalConversionStatus := some (if error.isNone then "completed" else "failed")
    optionalConversionError := error }

/-- The metadata of the service, before it is merged. -/
def serviceMetadata : Sidecar where
  audioVariants := entriesOf (.raw :: adapter.blocking) adapter.path
  audioUrls := entriesOf (.raw :: adapter.blocking) adapter.publicUrl
  pendingAudioVariants := entriesOf adapter.optional adapter.path
  readyAudioVariants := none
  optionalConversionStatus := none
  optionalConversionError := none

/-- `_merge_existing_generated_metadata`. -/
def mergeExisting (existing : Option Sidecar) (metadata : Sidecar) : Sidecar :=
  match existing with
  | none => metadata
  | some existing =>
    { audioVariants := metadata.audioVariants.update existing.audioVariants.entries
      audioUrls := metadata.audioUrls.update existing.audioUrls.entries
      pendingAudioVariants := metadata.pendingAudioVariants.update existing.pendingAudioVariants.entries
      readyAudioVariants := existing.readyAudioVariants.or metadata.readyAudioVariants
      optionalConversionStatus := existing.optionalConversionStatus.or metadata.optionalConversionStatus
      optionalConversionError := existing.optionalConversionError.or metadata.optionalConversionError }

/-! ### The threads -/

/-- Where the background thread is. -/
inductive Background where
  /-- Before the conversions that are left. -/
  | converting (rest : List Variant)
  /-- Before the sidecar is read, with what was raised. -/
  | updating (error : Option String)
  /-- Before what is made of the sidecar is written. -/
  | writing (metadata : Sidecar)
  | done

/-- The stream: which variants have files, what can be read of the sidecar, and the two threads. -/
structure Stream where
  written : Variant → Bool
  sidecar : Option Sidecar
  background : Background
  /-- What the service has read, before it writes. -/
  service : Option (Option Sidecar)

/-- The conversions that are left, or the end of the loop. -/
def Background.ofRest (rest : List Variant) : Background :=
  if rest.isEmpty then .updating none else .converting rest

/-- The stream after `_start_optional_conversions`, or without it where nothing is optional. -/
def Stream.started : Stream where
  written := fun variant => variant = .raw || variant ∈ adapter.blocking
  sidecar := some (firstSidecar adapter)
  background := if adapter.optional.isEmpty then .done else .converting adapter.optional
  service := none

/-- What becomes of a write of the sidecar. -/
inductive WriteOutcome where
  | written
  /-- The file is left as it was. -/
  | refused
  /-- The file is left so that it cannot be read. -/
  | truncated
  deriving DecidableEq

/-- The file after a write. -/
def WriteOutcome.apply (outcome : WriteOutcome) (before : Option Sidecar) (metadata : Sidecar) :
    Option Sidecar :=
  match outcome with
  | .written => some metadata
  | .refused => before
  | .truncated => none

/-- The steps of the threads. -/
inductive Step where
  /-- The next variant is converted and written. -/
  | converts
  /-- Converting or writing the next variant raises, before its file is complete or after. -/
  | raises (error : String) (complete : Bool)
  | reads (readable : Bool)
  | writes (outcome : WriteOutcome)
  | serviceReads (readable : Bool)
  | serviceWrites (outcome : WriteOutcome)

/-- One step of one of the threads; where the thread is elsewhere nothing happens. -/
def step (stream : Stream) : Step → Stream
  | .converts =>
    match stream.background with
    | .converting (variant :: rest) =>
      { stream with
        written := Function.update stream.written variant true
        background := .ofRest rest }
    | _ => stream
  | .raises error complete =>
    match stream.background with
    | .converting (variant :: _) =>
      { stream with
        written := Function.update stream.written variant (stream.written variant || complete)
        background := .updating (some error) }
    | _ => stream
  | .reads readable =>
    match stream.background with
    | .updating error =>
      match if readable then stream.sidecar else none with
      | some metadata =>
        { stream with background := .writing (updateOptionalConversion adapter error metadata) }
      | none => { stream with background := .done }
    | _ => stream
  | .writes outcome =>
    match stream.background with
    | .writing metadata =>
      { stream with sidecar := outcome.apply stream.sidecar metadata, background := .done }
    | _ => stream
  | .serviceReads readable => { stream with service := some (if readable then stream.sidecar else none) }
  | .serviceWrites outcome =>
    match stream.service with
    | some existing =>
      { stream with
        sidecar := outcome.apply stream.sidecar (mergeExisting existing (serviceMetadata adapter))
        service := none }
    | none => stream

/-! ### What is asked of a stream -/

/-- The sidecar lists the variant. -/
def Lists (metadata : Sidecar) (variant : Variant) : Prop :=
  variant ∈ metadata.readyAudioVariants.getD [] ∨ variant ∈ metadata.audioVariants.keys ∨
    variant ∈ metadata.audioUrls.keys

/-- All variants that are listed have files. -/
def Ready (stream : Stream) : Prop :=
  ∀ metadata, stream.sidecar = some metadata → ∀ variant, Lists metadata variant →
    stream.written variant = true

/-- Where the background thread writes the sidecar all optional variants are written. -/
def AllConverted (stream : Stream) (taken : Step) : Prop :=
  taken = .writes .written → ∀ metadata, stream.background = .writing metadata →
    ∀ variant ∈ adapter.optional, stream.written variant = true

/-! ### What is listed -/

section

variable {adapter : Adapter}
variable {metadata : Sidecar} {variant : Variant}

@[simp] theorem mem_keys_entriesOf {variants : List Variant} {value : Variant → String}
    : variant ∈ (entriesOf variants value).keys ↔ variant ∈ variants := by
  rw [entriesOf, Dict.mem_keys_update_iff]
  simp [Dict.keys, Dict.empty]

theorem lists_firstSidecar :
    Lists (firstSidecar adapter) variant ↔ variant = .raw ∨ variant ∈ adapter.blocking := by
  simp [Lists, firstSidecar]

/-- The update lists what was there with a path, and all optional variants. -/
theorem lists_update {error : Option String} :
    Lists (updateOptionalConversion adapter error metadata) variant ↔
      variant ∈ metadata.audioVariants.keys ∨ variant ∈ adapter.optional := by
  simp [Lists, updateOptionalConversion, Dict.mem_keys_update_iff]

/-- What the service writes lists what it read, and its own. -/
theorem lists_merged {existing : Option Sidecar}
    (h : Lists (mergeExisting existing (serviceMetadata adapter)) variant) :
    (variant = .raw ∨ variant ∈ adapter.blocking) ∨
      ∃ metadata, existing = some metadata ∧ Lists metadata variant := by
  cases existing with
  | none => exact .inl (by simpa [Lists, mergeExisting, serviceMetadata] using h)
  | some metadata =>
    have hkeys (d : Dict Variant String) : d.entries.map Prod.fst = d.keys := rfl
    simp only [Lists, mergeExisting, serviceMetadata, Option.or_none, Dict.mem_keys_update_iff,
      mem_keys_entriesOf, List.mem_cons, hkeys] at h
    obtain hready | (hbase | hold) | (hbase | hold) := h
    · exact .inr ⟨metadata, rfl, .inl hready⟩
    · exact .inl hbase
    · exact .inr ⟨metadata, rfl, .inr (.inl hold)⟩
    · exact .inl hbase
    · exact .inr ⟨metadata, rfl, .inr (.inr hold)⟩

/-! ### One step -/

variable (adapter) in
/-- The foreground's variants have files, and so have those that the service has read; what the
background thread is about to write lists more only of the optional variants, and all of these. -/
structure Inv (stream : Stream) : Prop where
  base : ∀ variant, variant = .raw ∨ variant ∈ adapter.blocking → stream.written variant = true
  service : ∀ metadata, stream.service = some (some metadata) → ∀ variant, Lists metadata variant →
    stream.written variant = true
  listed : ∀ metadata, stream.background = .writing metadata → ∀ variant, Lists metadata variant →
    stream.written variant = true ∨ variant ∈ adapter.optional
  optional : ∀ metadata, stream.background = .writing metadata → ∀ variant ∈ adapter.optional,
    Lists metadata variant

theorem update_of_written {written : Variant → Bool} (next : Variant) {value : Bool}
    (hvalue : written next = true → value = true) (h : written variant = true) :
    Function.update written next value variant = true := by
  by_cases heq : variant = next
  · subst heq
    rw [Function.update_self]
    exact hvalue h
  · rwa [Function.update_of_ne heq]

theorem ofRest_ne_writing {rest : List Variant} :
    Background.ofRest rest ≠ .writing metadata := by
  rw [Background.ofRest]
  split <;> simp

theorem inv_step {stream : Stream} (taken : Step) (hi : Inv adapter stream) (hr : Ready stream) :
    Inv adapter (step adapter stream taken) := by
  cases taken with
  | converts =>
    simp only [step]
    split
    next variant rest _ =>
      refine ⟨fun v hv => update_of_written variant (fun _ => rfl) (hi.base v hv), ?_, ?_, ?_⟩
      · exact fun metadata hm v hv => update_of_written variant (fun _ => rfl) (hi.service metadata hm v hv)
      · exact fun metadata hm => absurd hm ofRest_ne_writing
      · exact fun metadata hm => absurd hm ofRest_ne_writing
    next => exact hi
  | raises error complete =>
    simp only [step]
    split
    next variant rest _ =>
      have hkept : stream.written variant = true → (stream.written variant || complete) = true :=
        fun h => by rw [h, Bool.true_or]
      refine ⟨fun v hv => update_of_written variant hkept (hi.base v hv), ?_, ?_, ?_⟩
      · exact fun metadata hm v hv => update_of_written variant hkept (hi.service metadata hm v hv)
      · exact fun metadata hm => (nomatch hm)
      · exact fun metadata hm => (nomatch hm)
    next => exact hi
  | reads readable =>
    simp only [step]
    split
    next error _ =>
      split
      next metadata hread =>
        have hsidecar : stream.sidecar = some metadata := by
          cases readable with
          | true => exact hread
          | false => cases hread
        refine ⟨hi.base, hi.service, ?_, ?_⟩
        · intro metadata' hm v hv
          obtain rfl := Background.writing.inj hm
          obtain hold | hoptional := lists_update.mp hv
          · exact .inl (hr metadata hsidecar v (.inr (.inl hold)))
          · exact .inr hoptional
        · intro metadata' hm v hv
          obtain rfl := Background.writing.inj hm
          exact lists_update.mpr (.inr hv)
      next => exact ⟨hi.base, hi.service, fun _ hm => (nomatch hm), fun _ hm => (nomatch hm)⟩
    next => exact hi
  | writes outcome =>
    simp only [step]
    split
    next => exact ⟨hi.base, hi.service, fun _ hm => (nomatch hm), fun _ hm => (nomatch hm)⟩
    next => exact hi
  | serviceReads readable =>
    refine ⟨hi.base, ?_, hi.listed, hi.optional⟩
    intro metadata hm v hv
    have hread : (if readable then stream.sidecar else none) = some metadata := Option.some.inj hm
    cases readable with
    | true => exact hr metadata hread v hv
    | false => cases hread
  | serviceWrites outcome =>
    simp only [step]
    split
    next => exact ⟨hi.base, fun _ hm => (nomatch hm), hi.listed, hi.optional⟩
    next => exact hi

/-- After a write the file is as before, or what was written, or cannot be read. -/
theorem ready_of_write {stream stream' : Stream} {outcome : WriteOutcome}
    (hr : Ready stream) (hsidecar : stream'.sidecar = outcome.apply stream.sidecar metadata)
    (hwritten : stream'.written = stream.written)
    (hlisted : outcome = .written → ∀ variant, Lists metadata variant → stream.written variant = true) :
    Ready stream' := by
  intro metadata' hm v hv
  rw [hsidecar] at hm
  rw [hwritten]
  cases outcome with
  | written =>
    obtain rfl := Option.some.inj hm
    exact hlisted rfl v hv
  | refused => exact hr metadata' hm v hv
  | truncated => cases hm

theorem ready_step_iff {stream : Stream} (taken : Step) (hi : Inv adapter stream) (hr : Ready stream) :
    Ready (step adapter stream taken) ↔ AllConverted adapter stream taken := by
  cases taken with
  | converts =>
    refine iff_of_true ?_ fun h => nomatch h
    simp only [step]
    split
    next variant rest _ =>
      exact fun metadata hm v hv => update_of_written variant (fun _ => rfl) (hr metadata hm v hv)
    next => exact hr
  | raises error complete =>
    refine iff_of_true ?_ fun h => nomatch h
    simp only [step]
    split
    next variant rest _ =>
      exact fun metadata hm v hv => update_of_written variant (fun h => by rw [h, Bool.true_or])
        (hr metadata hm v hv)
    next => exact hr
  | reads readable =>
    refine iff_of_true ?_ fun h => nomatch h
    simp only [step]
    split
    next => split <;> exact hr
    next => exact hr
  | writes outcome =>
    simp only [step]
    split
    next metadata hbackground =>
      constructor
      · rintro hready houtcome metadata' hm v hv
        cases houtcome
        exact hready metadata rfl v (hi.optional metadata hbackground v hv)
      · intro hall
        refine ready_of_write hr rfl rfl fun houtcome v hv => ?_
        subst houtcome
        exact (hi.listed metadata hbackground v hv).elim id (hall rfl metadata hbackground v)
    next hnot =>
      exact iff_of_true hr fun _ metadata hm => absurd hm (hnot metadata)
  | serviceReads readable => exact iff_of_true hr fun h => nomatch h
  | serviceWrites outcome =>
    refine iff_of_true ?_ fun h => nomatch h
    simp only [step]
    split
    next existing hexisting =>
      refine ready_of_write hr rfl rfl fun _ v hv => ?_
      obtain hbase | ⟨metadata, rfl, hold⟩ := lists_merged hv
      · exact hi.base v hbase
      · exact hi.service metadata hexisting v hold
    next => exact hr

end

/-! ### Any run -/

theorem inv_started : Inv adapter (.started adapter) where
  base := fun variant h => by simpa [Stream.started] using h
  service := fun metadata h => nomatch h
  listed := fun metadata h => by
    simp only [Stream.started] at h
    split at h <;> cases h
  optional := fun metadata h => by
    simp only [Stream.started] at h
    split at h <;> cases h

theorem ready_started : Ready (.started adapter) := by
  intro metadata hm variant hv
  obtain rfl := Option.some.inj hm
  simpa [Stream.started] using lists_firstSidecar.mp hv

/-- **Ready variants exist exactly if the sidecar is updated only after all conversions.** -/
theorem ready_throughout_iff (adapter : Adapter) (steps : List Step) :
    (∀ taken, taken <+: steps → Ready (run (step adapter) (.started adapter) taken)) ↔
      AllSteps (step adapter) (AllConverted adapter) (.started adapter) steps :=
  throughout_iff_of_inv (fun _ taken hi hr => inv_step taken hi hr)
    (fun _ taken hi hr => ready_step_iff taken hi hr) (inv_started adapter) (ready_started adapter) steps

/-- A synthesis at 16 kHz, with 48 kHz as the optional rate. -/
private def kitchenAdapter : Adapter where
  sampleRates := []
  conversionPolicy := .endpointRequiredSync
  targetSampleRate := some 16000
  path := fun variant => "/var/tts/stream-1." ++ variant.name ++ ".wav"
  url := fun variant => "/api/voice/tts/stream-1/" ++ variant.name
  publicUrl := fun variant => "http://hexe.local/api/voice/tts/stream-1/" ++ variant.name

/-- The conversion to 48 kHz raises before its file is there. -/
theorem failed_variant_ready :
    ¬ ∀ (adapter : Adapter) (steps taken : List Step), taken <+: steps →
      Ready (run (step adapter) (.started adapter) taken) := by
  intro hclaim
  have hready := hclaim kitchenAdapter [.raises "no space left" false, .reads true, .writes .written] _
    List.prefix_rfl
  have hlisted : Lists (updateOptionalConversion kitchenAdapter (some "no space left")
      (firstSidecar kitchenAdapter)) .k48 := lists_update.mpr (.inr (by decide))
  exact absurd (hready _ rfl .k48 hlisted) (by decide)

end HexeVoice.Tts.OptionalConversions
