import HexeVoice.Library.Pydantic
import HexeVoice.Library.Python

/-!
# Speech models and the settings of a node

`stt_profiles.py`, with what `config/settings.py` has for it and for `migration.py`.

## The model

The fields of `Settings` are those that migration reads. Paths are texts. What the settings and the
TTS runtime configuration file resolve to together is given for every content of the file.
-/

namespace HexeVoice.Migration

open HexeVoice.Library Json

/-- `NodeMigrationError`, `pydantic.ValidationError` and what Python's own functions raise. -/
inductive MigrationError where
  | nodeMigrationError (detail : String)
  | validationError
  | python (exception : PyException)
  deriving DecidableEq

/-- What migration reads of `Settings`. -/
structure Settings where
  nodeName : String
  nodeType : String
  publicApiBaseUrl : Option String := none
  publicUiBaseUrl : Option String := none
  voiceSttProvider : String := "deterministic"
  voiceSttPreload : Bool := true
  voiceSttProfile : String := ""
  voiceSttFallbackProfile : String := ""
  voiceSttServiceTransport : String := "unix"
  voiceSttServiceBaseUrl : Option String := none
  voiceSttServiceHost : String := "127.0.0.1"
  voiceSttServicePort : ℤ := 10300
  voiceSttServiceSocketPath : Option String := none
  voiceSttServiceId : String := "faster_whisper_stt"
  voiceSttContainerName : String
  voiceSttControlScript : String
  voiceSttFasterWhisperModel : String := "base.en"
  voiceSttFasterWhisperDevice : String := "cpu"
  voiceSttFasterWhisperComputeType : String
  voiceSttFasterWhisperLanguage : Option String := some "en"
  voiceSttFasterWhisperBeamSize : Option ℤ
  voiceSttFasterWhisperBestOf : Option ℤ
  voiceSttFasterWhisperWithoutTimestamps : Bool
  voiceSttFasterWhisperWordTimestamps : Bool
  voiceSttFasterWhisperMaxInitialTimestamp : Option PyFloat
  voiceSttFasterWhisperTempDir : Option String := none
  voiceTtsProvider : String := "deterministic"
  voiceTtsModel : String := "gpt-4o-mini-tts"
  voiceTtsVoice : String := "alloy"
  voiceTtsOutputSampleRateHz : ℤ := 16000
  voiceTtsPiperTransport : String := "unix"
  voiceTtsPiperBaseUrl : Option String := none
  voiceTtsPiperServiceHost : String := "127.0.0.1"
  voiceTtsPiperServicePort : ℤ := 10200
  voiceTtsPiperSocketPath : Option String := none
  voiceTtsPiperSynthesizePath : String := "/api/tts"
  voiceTtsPiperVoice : Option String := none
  voiceTtsRuntimeConfigName : String := "voice_tts_settings.json"
  piperTtsServiceId : String := "piper_tts"
  piperTtsContainerName : String := "hexevoice-piper-tts"
  piperTtsEnvPath : String := "scripts/piper-tts.env"
  piperTtsControlScript : String := "scripts/piper-tts-control.sh"
  voiceWakeProvider : String := "openwakeword"
  voiceWakeThreshold : PyFloat
  voiceWakeModels : Option String := none
  voiceWakeAutoDownloadModels : Bool := false
  voiceWakePreload : Bool := false
  voiceWakeEnableSpeexNoiseSuppression : Bool := false
  voiceWakeVadThreshold : Option PyFloat := none
  voiceWakeBufferMs : ℤ := 1280
  voiceWakePredictionFrameMs : ℤ := 80
  voiceWakeServiceHost : String := "127.0.0.1"
  voiceWakeServicePort : ℤ := 10400
  voiceWakeServiceTimeoutS : PyFloat
  openwakewordServiceId : String := "openwakeword"
  openwakewordContainerName : String := "hexevoice-openwakeword"
  openwakewordControlScript : String := "scripts/openwakeword-control.sh"
  voiceWakeRecordingsEnabled : Bool := false
  voiceWakeRecordingDir : Option String := none
  voiceWakeRecordingRetentionDays : ℤ := 1
  voiceWakeRecordingPrerollMs : ℤ := 2000
  resolvedPiperTtsModelDir : String
  piperTtsWarmVoices : String := ""
  resolvedVoiceTtsEndpointVoices : JsonObject → JsonObject
  resolvedVoiceTtsEndpointSampleRates : JsonObject
  parsedVoiceTtsConversionSampleRates : JsonObject
  resolvedVoiceTtsConversionPolicy : JsonObject → String

/-- A profile of the speech model. -/
structure SttModelProfile where
  name : String
  model : String
  device : String
  computeType : String
  preload : Bool := true
  autoDownload : Bool := true
  language : Option String := some "en"
  beamSize : Option ℤ := some 5
  bestOf : Option ℤ := some 5
  withoutTimestamps : Bool := true
  wordTimestamps : Bool := false
  maxInitialTimestamp : Option PyFloat := some (.finite 1)
  fallbackProfile : Option String := none
  deriving DecidableEq

def sttModelProfiles : List SttModelProfile :=
  [{ name := "cpu_default", model := "base.en", device := "cpu", computeType := "int8" },
    { name := "cuda_fast_intent", model := "small.en", device := "cuda", computeType := "float16",
      beamSize := some 1, bestOf := some 1, fallbackProfile := some "cuda_accurate_fallback" },
    { name := "cuda_accurate_fallback", model := "medium.en", device := "cuda",
      computeType := "float16" }]

def getSttModelProfile (name : String) : Except MigrationError SttModelProfile :=
  match sttModelProfiles.find? fun profile => profile.name = strip name with
  | some profile => .ok profile
  | none => .error (.python .valueError)

section resolve

variable (py : Python)

/-- `str(value or "").strip()`. -/
def cleaned (value : Json) : String := strip (py.str (value.or (.str "")))

/-- A text of the configuration in the place of one of the profile. -/
def overridden (config : JsonObject) (key : String) (default : String) : String :=
  let value := cleaned py (item config key)
  if value = "" then default else value

/-- `int(config[key])` in the place of a number of the profile, if there is one. -/
def overriddenInt (config : JsonObject) (key : String) (default : Option ℤ) :
    Except MigrationError (Option ℤ) :=
  match item config key with
  | .null => .ok default
  | value => ((py.toInt value).mapError .python).map some

/-- The profile that the settings have without a name. -/
def customLegacy (settings : Settings) (fallbackProfile : String) : SttModelProfile where
  name := "custom_legacy"
  model := settings.voiceSttFasterWhisperModel
  device := settings.voiceSttFasterWhisperDevice
  computeType := settings.voiceSttFasterWhisperComputeType
  preload := settings.voiceSttPreload
  language := settings.voiceSttFasterWhisperLanguage
  beamSize := settings.voiceSttFasterWhisperBeamSize
  bestOf := settings.voiceSttFasterWhisperBestOf
  withoutTimestamps := settings.voiceSttFasterWhisperWithoutTimestamps
  wordTimestamps := settings.voiceSttFasterWhisperWordTimestamps
  maxInitialTimestamp := settings.voiceSttFasterWhisperMaxInitialTimestamp
  fallbackProfile := nonempty fallbackProfile

/-- The profile of this name, or the settings' own. -/
def namedProfile (settings : Settings) (profileName fallbackProfile : String) :
    Except MigrationError SttModelProfile :=
  if profileName = "" then .ok (customLegacy settings fallbackProfile)
  else getSttModelProfile profileName

def resolveSttModelProfile (settings : Settings) (config : JsonObject) :
    Except MigrationError SttModelProfile := do
  let profileName := cleaned py ((item config "profile").or (.str settings.voiceSttProfile))
  let fallbackProfile :=
    cleaned py ((item config "fallback_profile").or (.str settings.voiceSttFallbackProfile))
  let profile ← namedProfile settings profileName fallbackProfile
  let beamSize ← overriddenInt py config "beam_size" profile.beamSize
  let bestOf ← overriddenInt py config "best_of" profile.bestOf
  let language := cleaned py (item config "language")
  if fallbackProfile ≠ "" then
    let _ ← getSttModelProfile fallbackProfile
  return { profile with
    model := overridden py config "model" profile.model
    device := overridden py config "device" profile.device
    computeType := overridden py config "compute_type" profile.computeType
    language := if language = "" then profile.language else some language
    beamSize
    bestOf
    preload := match item config "warm_model" with
      | .null => profile.preload
      | value => value.truthy
    fallbackProfile :=
      if fallbackProfile = "" then profile.fallbackProfile else some fallbackProfile }

end resolve

end HexeVoice.Migration
