import HexeVoice.Migration.SttProfiles
import HexeVoice.Onboarding.State

/-!
# The provider sections of a migration bundle

What `migration.py` exports of the settings for speech recognition, speech output and the wake word,
how it checks them, and how it merges them into the provider setup of another node.

## The model

A checked section is a structure, in which an entry that is left out is `none`; its `toJson` is the
`dict`. The order of entries in a `dict` that is merged from a set of keys is fixed.
-/

namespace HexeVoice.Migration

open HexeVoice.Library HexeVoice.Onboarding Json

/-- An entry that is there if there is a value. -/
def entryOf {α : Type} (key : String) (toJson : α → Json) (value : Option α) : List (String × Json) :=
  (value.map fun value => (key, toJson value)).toList

/-- The checked `voice_stt_settings`. -/
structure SttSettings where
  provider : String
  enabled : Option Bool
  default : Option Bool
  warmModel : Option Bool
  preload : Option Bool
  autoDownload : Option Bool
  model : Option String
  device : Option String
  computeType : Option String
  profile : Option String
  fallbackProfile : Option String
  warmModels : List String
  service : JsonObject
  fasterWhisper : JsonObject

/-- The checked `voice_tts_provider_settings`. -/
structure TtsProviderSettings where
  provider : String
  enabled : Option Bool
  default : Option Bool
  model : Option String
  defaultVoice : Option String
  conversionPolicy : Option String
  outputSampleRateHz : Option ℤ
  warmModels : List String
  endpointVoices : JsonObject
  endpointSampleRates : JsonObject
  conversionSampleRates : JsonObject
  piper : JsonObject

/-- The checked `voice_wake_settings`. -/
structure WakeSettings where
  provider : String
  enabled : Option Bool
  warmModel : Option Bool
  autoDownloadModels : Option Bool
  preload : Option Bool
  enableSpeexNoiseSuppression : Option Bool
  defaultWakeword : Option String
  threshold : Option PyFloat
  vadThreshold : Option PyFloat
  bufferMs : Option ℤ
  predictionFrameMs : Option ℤ
  models : List String
  warmModels : List String
  service : JsonObject
  recordings : JsonObject

def SttSettings.toJson (s : SttSettings) : JsonObject :=
  ⟨("provider", .str s.provider) :: (entryOf "enabled" .bool s.enabled ++
    entryOf "default" .bool s.default ++ entryOf "warm_model" .bool s.warmModel ++
    entryOf "preload" .bool s.preload ++ entryOf "auto_download" .bool s.autoDownload ++
    entryOf "model" .str s.model ++ entryOf "device" .str s.device ++
    entryOf "compute_type" .str s.computeType ++ entryOf "profile" .str s.profile ++
    entryOf "fallback_profile" .str s.fallbackProfile ++
    [("warm_models", ofTexts s.warmModels), ("service", .obj s.service),
      ("faster_whisper", .obj s.fasterWhisper)])⟩

def TtsProviderSettings.toJson (s : TtsProviderSettings) : JsonObject :=
  ⟨("provider", .str s.provider) :: (entryOf "enabled" .bool s.enabled ++
    entryOf "default" .bool s.default ++ entryOf "model" .str s.model ++
    entryOf "default_voice" .str s.defaultVoice ++
    entryOf "conversion_policy" .str s.conversionPolicy ++
    entryOf "output_sample_rate_hz" .int s.outputSampleRateHz ++
    [("warm_models", ofTexts s.warmModels), ("endpoint_voices", .obj s.endpointVoices),
      ("endpoint_sample_rates", .obj s.endpointSampleRates),
      ("conversion_sample_rates", .obj s.conversionSampleRates), ("piper", .obj s.piper)])⟩

def WakeSettings.toJson (s : WakeSettings) : JsonObject :=
  ⟨("provider", .str s.provider) :: (entryOf "enabled" .bool s.enabled ++
    entryOf "warm_model" .bool s.warmModel ++
    entryOf "auto_download_models" .bool s.autoDownloadModels ++
    entryOf "preload" .bool s.preload ++
    entryOf "enable_speex_noise_suppression" .bool s.enableSpeexNoiseSuppression ++
    entryOf "default_wakeword" .str s.defaultWakeword ++ entryOf "threshold" .float s.threshold ++
    entryOf "vad_threshold" .float s.vadThreshold ++ entryOf "buffer_ms" .int s.bufferMs ++
    entryOf "prediction_frame_ms" .int s.predictionFrameMs ++
    [("models", ofTexts s.models), ("warm_models", ofTexts s.warmModels),
      ("service", .obj s.service), ("recordings", .obj s.recordings)])⟩

/-! ### Checks -/

section validate

variable (py : Python) (floatOf : String → Option PyFloat)

/-- `raise NodeMigrationError(detail)`. -/
def refuse {α : Type} (detail : String) : Except MigrationError α := .error (.nodeMigrationError detail)

/-- `bool(payload[key])`, if there is one. -/
def flag (payload : JsonObject) (key : String) : Option Bool := (payload.get key).map truthy

/-- The text of an entry, if there is any in it. -/
def textOf (payload : JsonObject) (key : String) : Option String :=
  nonempty (cleaned py (item payload key))

/-- The texts of the items that have any. -/
def texts (items : List Json) : List String :=
  (items.map fun item => strip (py.str item)).filter (· ≠ "")

/-- The list under the key, none of which is an empty one. -/
def listOf (payload : JsonObject) (key detail : String) : Except MigrationError (List Json) :=
  match (payload.get key).getD (.arr []) with
  | .arr items => .ok items
  | _ => refuse detail

/-- The object under the key, none of which is an empty one. -/
def objectOf (payload : JsonObject) (key detail : String) : Except MigrationError JsonObject :=
  match item payload key with
  | .null => .ok .empty
  | .obj entries => .ok entries
  | _ => refuse detail

/-- The provider, if it is one of these. -/
def providerOf (payload : JsonObject) (providers : List String) (detail : String) :
    Except MigrationError String :=
  let provider := cleaned py (item payload "provider")
  if provider ∈ providers then .ok provider else refuse detail

/-- The profile under the key, if it names one. -/
def profileOf (payload : JsonObject) (key : String) : Except MigrationError (Option String) :=
  let value := cleaned py (item payload key)
  if value = "" ∨ key = "profile" ∧ value = "custom_legacy" then .ok none
  else
    match getSttModelProfile value with
    | .ok _ => .ok (some value)
    | .error _ => refuse s!"voice_stt_settings_{key}_invalid"

def sttProviders : List String := ["deterministic", "openai", "faster_whisper", "external_faster_whisper"]

def ttsProviders : List String := ["deterministic", "openai", "piper"]

def wakeProviders : List String := ["deterministic", "openwakeword", "supervised_openwakeword"]

def validateSttSettings (payload : Json) : Except MigrationError SttSettings := do
  let .obj payload := payload | refuse "voice_stt_settings_must_be_object"
  let provider ← providerOf py payload sttProviders "voice_stt_settings_provider_invalid"
  let profile ← profileOf py payload "profile"
  let fallbackProfile ← profileOf py payload "fallback_profile"
  let warmModels ← listOf payload "warm_models" "voice_stt_settings_warm_models_must_be_list"
  let service ← objectOf payload "service" "voice_stt_settings_service_must_be_object"
  let fasterWhisper ←
    objectOf payload "faster_whisper" "voice_stt_settings_faster_whisper_must_be_object"
  return {
    provider, profile, fallbackProfile, service, fasterWhisper
    enabled := flag payload "enabled"
    default := flag payload "default"
    warmModel := flag payload "warm_model"
    preload := flag payload "preload"
    autoDownload := flag payload "auto_download"
    model := textOf py payload "model"
    device := textOf py payload "device"
    computeType := textOf py payload "compute_type"
    warmModels := texts py warmModels }

/-- A whole number that is not negative. -/
def naturalOf (value : Json) (detail : String) : Except MigrationError ℤ :=
  match py.toInt value with
  | .ok n => if n < 0 then refuse detail else .ok n
  | .error .overflowError => .error (.python .overflowError)
  | .error _ => refuse detail

def validateTtsProviderSettings (payload : Json) : Except MigrationError TtsProviderSettings := do
  let .obj payload := payload | refuse "voice_tts_provider_settings_must_be_object"
  let provider ← providerOf py payload ttsProviders "voice_tts_provider_settings_provider_invalid"
  let outputSampleRateHz ← (payload.get "output_sample_rate_hz").mapM fun value =>
    naturalOf py value "voice_tts_provider_settings_output_sample_rate_invalid"
  let warmModels ←
    listOf payload "warm_models" "voice_tts_provider_settings_warm_models_must_be_list"
  let endpointVoices ← objectOf payload "endpoint_voices"
    "voice_tts_provider_settings_endpoint_voices_must_be_object"
  let endpointSampleRates ← objectOf payload "endpoint_sample_rates"
    "voice_tts_provider_settings_endpoint_sample_rates_must_be_object"
  let conversionSampleRates ← objectOf payload "conversion_sample_rates"
    "voice_tts_provider_settings_conversion_sample_rates_must_be_object"
  let piper ← objectOf payload "piper" "voice_tts_provider_settings_piper_must_be_object"
  return {
    provider, outputSampleRateHz, endpointVoices, endpointSampleRates, conversionSampleRates, piper
    enabled := flag payload "enabled"
    default := flag payload "default"
    model := textOf py payload "model"
    defaultVoice := textOf py payload "default_voice"
    conversionPolicy := textOf py payload "conversion_policy"
    warmModels := texts py warmModels }

def normalizeWakeName (value : String) : String :=
  if py.lower (strip value) = "hexa" then "Hexe" else value

/-- `float(value)`. -/
def toFloat : Json → Except PyException PyFloat
  | .bool b => .ok (.finite (if b then 1 else 0))
  | .int n => if 2 ^ 1024 - 2 ^ 970 ≤ n.natAbs then .error .overflowError else .ok (.finite n)
  | .float x => .ok x
  | .str s => ((floatOf s).map .ok).getD (.error .valueError)
  | .null | .arr _ | .obj _ => .error .typeError

/-- `value < 0 or value > 1`. -/
def outsideUnit : PyFloat → Bool
  | .finite q => q < 0 || 1 < q
  | .infinite _ => true
  | .nan => false

/-- The number from 0 to 1 under the key, if there is one. -/
def unitOf (payload : JsonObject) (key : String) : Except MigrationError (Option PyFloat) :=
  match item payload key with
  | .null => .ok none
  | value =>
    match toFloat floatOf value with
    | .ok x => if outsideUnit x then refuse s!"voice_wake_settings_{key}_invalid" else .ok (some x)
    | .error .overflowError => .error (.python .overflowError)
    | .error _ => refuse s!"voice_wake_settings_{key}_invalid"

/-- The number of milliseconds under the key, if there is one. -/
def millisOf (payload : JsonObject) (key : String) : Except MigrationError (Option ℤ) :=
  match item payload key with
  | .null => .ok none
  | value => (naturalOf py value s!"voice_wake_settings_{key}_invalid").map some

/-- The wake words under the key. -/
def wakeNamesOf (payload : JsonObject) (key : String) : Except MigrationError (List String) :=
  (listOf payload key s!"voice_wake_settings_{key}_must_be_list").map fun items =>
    (texts py items).map (normalizeWakeName py)

def validateWakeSettings (payload : Json) : Except MigrationError WakeSettings := do
  let .obj payload := payload | refuse "voice_wake_settings_must_be_object"
  let provider ← providerOf py payload wakeProviders "voice_wake_settings_provider_invalid"
  let threshold ← unitOf floatOf payload "threshold"
  let vadThreshold ← unitOf floatOf payload "vad_threshold"
  let bufferMs ← millisOf py payload "buffer_ms"
  let predictionFrameMs ← millisOf py payload "prediction_frame_ms"
  let models ← wakeNamesOf py payload "models"
  let warmModels ← wakeNamesOf py payload "warm_models"
  let service ← objectOf payload "service" "voice_wake_settings_service_must_be_object"
  let recordings ← objectOf payload "recordings" "voice_wake_settings_recordings_must_be_object"
  return {
    provider, threshold, vadThreshold, bufferMs, predictionFrameMs, models, warmModels, service
    recordings
    enabled := flag payload "enabled"
    warmModel := flag payload "warm_model"
    autoDownloadModels := flag payload "auto_download_models"
    preload := flag payload "preload"
    enableSpeexNoiseSuppression := flag payload "enable_speex_noise_suppression"
    defaultWakeword := nonempty (normalizeWakeName py (cleaned py (item payload "default_wakeword"))) }

end validate

/-! ### Export -/

section payload

variable (py : Python) (floatOf : String → Option PyFloat) (settings : Settings)
  (setup : ProviderSetupState)

/-- The items of `config.get(key)`, if it is a list. -/
def items (config : JsonObject) (key : String) : List Json :=
  match item config key with
  | .arr items => items
  | _ => []

/-- The configuration of a provider. -/
def configOf (provider : String) : JsonObject := (setup.providerConfigs.get provider).getD .empty

/-- The `service` entry of `voice_stt_settings`. -/
def sttService : JsonObject :=
  ⟨[("transport", .str settings.voiceSttServiceTransport),
    ("base_url", ofText settings.voiceSttServiceBaseUrl),
    ("host", .str settings.voiceSttServiceHost), ("port", .int settings.voiceSttServicePort),
    ("socket_path", ofText settings.voiceSttServiceSocketPath),
    ("service_id", .str settings.voiceSttServiceId),
    ("container_name", .str settings.voiceSttContainerName),
    ("control_script", .str settings.voiceSttControlScript)]⟩

/-- The `faster_whisper` entry of `voice_stt_settings`. -/
def fasterWhisper (profile : SttModelProfile) : JsonObject :=
  ⟨[("language", ofText profile.language), ("beam_size", ofInt profile.beamSize),
    ("best_of", ofInt profile.bestOf), ("without_timestamps", .bool profile.withoutTimestamps),
    ("word_timestamps", .bool profile.wordTimestamps),
    ("max_initial_timestamp", (profile.maxInitialTimestamp.map .float).getD .null),
    ("temp_dir", ofText settings.voiceSttFasterWhisperTempDir)]⟩

/-- The `payload` of `_stt_settings_payload`. -/
def sttPayload (provider : String) (config : JsonObject) (profile : SttModelProfile) :
    JsonObject :=
  ⟨[("provider", .str provider),
    ("enabled", .bool (provider ∈ setup.enabledProviders)),
    ("default", .bool (setup.defaultProvider = some provider)),
    ("profile", .str profile.name),
    ("fallback_profile", ofText profile.fallbackProfile),
    ("model", .str profile.model),
    ("device", .str profile.device),
    ("compute_type", .str profile.computeType),
    ("warm_model", .bool ((config.get "warm_model").getD (.bool profile.preload)).truthy),
    ("warm_models", ofTexts (texts py (items config "warm_models"))),
    ("preload", .bool profile.preload),
    ("auto_download", .bool profile.autoDownload),
    ("service", .obj (sttService settings)),
    ("faster_whisper", .obj (fasterWhisper settings profile))]⟩

def sttSettingsPayload : Except MigrationError (Option SttSettings) := do
  let provider := strip settings.voiceSttProvider
  let config := configOf setup provider
  if provider = "" ∨ provider = "deterministic" ∧ config.entries = [] then return none
  let profile ← resolveSttModelProfile py settings config
  return some (← validateSttSettings py (.obj (sttPayload py settings setup provider config profile)))

/-- The texts, and of others those that are not among them. -/
def addTexts (texts : List String) (others : List String) : List String :=
  others.foldl (fun texts text => if text ∈ texts then texts else texts ++ [text]) texts

/-- `s.split(",")`. -/
def splitCommas (s : String) : List String :=
  (s.toList.splitOnP (· = ',')).map String.ofList

def parseTtsVoiceList (raw : Json) : List String :=
  let values := match raw with
    | .str s => (splitCommas s).map Json.str
    | .arr items => items
    | _ => []
  addTexts [] ((values.map (cleaned py)).filter (· ≠ ""))

def resolvedPiperTtsWarmVoices (runtime : JsonObject) : List String :=
  addTexts (((splitCommas settings.piperTtsWarmVoices).map strip).filter (· ≠ ""))
    (parseTtsVoiceList py (item runtime "warm_voices"))

/-- The `piper` entry of `voice_tts_provider_settings`. -/
def piper : JsonObject :=
  ⟨[("transport", .str settings.voiceTtsPiperTransport),
    ("base_url", ofText settings.voiceTtsPiperBaseUrl),
    ("host", .str settings.voiceTtsPiperServiceHost),
    ("port", .int settings.voiceTtsPiperServicePort),
    ("socket_path", ofText settings.voiceTtsPiperSocketPath),
    ("synthesize_path", .str settings.voiceTtsPiperSynthesizePath),
    ("model_dir", .str settings.resolvedPiperTtsModelDir),
    ("service_id", .str settings.piperTtsServiceId),
    ("container_name", .str settings.piperTtsContainerName),
    ("env_path", .str settings.piperTtsEnvPath),
    ("control_script", .str settings.piperTtsControlScript)]⟩

/-- The `payload` of `_tts_provider_settings_payload`; `runtime` is the TTS runtime
configuration. -/
def ttsPayload (provider : String) (config runtime : JsonObject) : JsonObject :=
  ⟨[("provider", .str provider),
    ("enabled", .bool (provider ∈ setup.enabledProviders)),
    ("default", .bool (setup.defaultProvider = some provider)),
    ("model", .str (strip (py.str ((item config "model").or (.str settings.voiceTtsModel))))),
    ("default_voice", .str (cleaned py (((item config "default_voice").or
      (ofText settings.voiceTtsPiperVoice)).or (.str settings.voiceTtsVoice)))),
    ("warm_models", ofTexts (addTexts (resolvedPiperTtsWarmVoices py settings runtime)
      (texts py (items config "warm_models")))),
    ("output_sample_rate_hz", .int settings.voiceTtsOutputSampleRateHz),
    ("endpoint_voices", .obj (settings.resolvedVoiceTtsEndpointVoices runtime)),
    ("endpoint_sample_rates", .obj settings.resolvedVoiceTtsEndpointSampleRates),
    ("conversion_sample_rates", .obj settings.parsedVoiceTtsConversionSampleRates),
    ("conversion_policy", .str (settings.resolvedVoiceTtsConversionPolicy runtime)),
    ("piper", .obj (piper settings))]⟩

def ttsProviderSettingsPayload (runtime : JsonObject) :
    Except MigrationError (Option TtsProviderSettings) := do
  let provider := strip settings.voiceTtsProvider
  let config := configOf setup provider
  if provider = "" ∨ provider = "deterministic" ∧ config.entries = [] then return none
  return some (← validateTtsProviderSettings py
    (.obj (ttsPayload py settings setup provider config runtime)))

def normalizedWakeModels (raw : Option String) : List String :=
  (splitCommas (raw.getD "")).foldl (fun models item =>
    let cleaned := normalizeWakeName py (strip item)
    if cleaned = "" ∨ cleaned ∈ models then models else models ++ [cleaned]) []

/-- The `service` entry of `voice_wake_settings`. -/
def wakeService : JsonObject :=
  ⟨[("host", .str settings.voiceWakeServiceHost), ("port", .int settings.voiceWakeServicePort),
    ("timeout_s", .float settings.voiceWakeServiceTimeoutS),
    ("service_id", .str settings.openwakewordServiceId),
    ("container_name", .str settings.openwakewordContainerName),
    ("control_script", .str settings.openwakewordControlScript)]⟩

/-- The `recordings` entry of `voice_wake_settings`. -/
def wakeRecordings : JsonObject :=
  ⟨[("enabled", .bool settings.voiceWakeRecordingsEnabled),
    ("recording_dir", ofText settings.voiceWakeRecordingDir),
    ("retention_days", .int settings.voiceWakeRecordingRetentionDays),
    ("preroll_ms", .int settings.voiceWakeRecordingPrerollMs)]⟩

/-- The default wake word of the configuration, or of the settings. -/
def defaultWakeword (config : JsonObject) (models : List String) : String :=
  normalizeWakeName py (strip (py.str ((item config "default_wakeword").or
    (.str (models.head?.getD "Hexe")))))

/-- The `payload` of `_wake_settings_payload`. -/
def wakePayload (provider : String) (config : JsonObject) (models : List String) : JsonObject :=
  let wakeword := defaultWakeword py config models
  ⟨[("provider", .str provider),
    ("enabled", .bool ("wake" ∈ setup.enabledProviders)),
    ("default_wakeword", .str wakeword),
    ("models", ofTexts (if models = [] then [wakeword] else models)),
    ("warm_model",
      .bool ((config.get "warm_model").getD (.bool settings.voiceWakePreload)).truthy),
    ("warm_models",
      ofTexts ((texts py (items config "warm_models")).map (normalizeWakeName py))),
    ("threshold", .float settings.voiceWakeThreshold),
    ("auto_download_models", .bool settings.voiceWakeAutoDownloadModels),
    ("preload", .bool settings.voiceWakePreload),
    ("enable_speex_noise_suppression", .bool settings.voiceWakeEnableSpeexNoiseSuppression),
    ("vad_threshold", (settings.voiceWakeVadThreshold.map .float).getD .null),
    ("buffer_ms", .int settings.voiceWakeBufferMs),
    ("prediction_frame_ms", .int settings.voiceWakePredictionFrameMs),
    ("service", .obj (wakeService settings)),
    ("recordings", .obj (wakeRecordings settings))]⟩

def wakeSettingsPayload : Except MigrationError (Option WakeSettings) := do
  let provider := strip settings.voiceWakeProvider
  let config := configOf setup "wake"
  let models := normalizedWakeModels py settings.voiceWakeModels
  if provider = "" ∨
      provider ∈ ["deterministic", "openwakeword"] ∧ config.entries = [] ∧ models = [] then
    return none
  return some (← validateWakeSettings py floatOf
    (.obj (wakePayload py settings setup provider config models)))

end payload

/-! ### Import -/

section merge

variable (setup : ProviderSetupState)

/-- `{**config, **entries}`. -/
def mergeConfig (config : JsonObject) (entries : List (String × Json)) : JsonObject :=
  entries.foldl (fun config entry => config.set entry.1 entry.2) config

/-- The provider setup with the provider's configuration merged, and the provider in its lists. -/
def mergeProvider (provider : String) (entries : List (String × Json)) (enable disable : Bool)
    (defaultProvider : Option String) : ProviderSetupState :=
  let enabled := setup.enabledProviders
  let enabled := if enable ∧ provider ∉ enabled then enabled ++ [provider] else enabled
  let enabled := if disable then enabled.filter (· ≠ provider) else enabled
  { setup with
    providerConfigs :=
      setup.providerConfigs.set provider (mergeConfig (configOf setup provider) entries)
    supportedProviders :=
      if provider ∈ setup.supportedProviders then setup.supportedProviders
      else setup.supportedProviders ++ [provider]
    enabledProviders := enabled
    defaultProvider }

/-- The texts under the key, if there are any. -/
def texts? (key : String) (texts : List String) : List (String × Json) :=
  if texts = [] then [] else [(key, ofTexts texts)]

/-- What a section for speech output has for the provider's configuration. -/
def TtsProviderSettings.config (tts : TtsProviderSettings) : List (String × Json) :=
  entryOf "enabled" .bool tts.enabled ++ entryOf "default" .bool tts.default ++
    entryOf "model" .str tts.model ++ texts? "warm_models" tts.warmModels ++
    entryOf "default_voice" .str tts.defaultVoice

def mergeTtsProviderSettings (tts : TtsProviderSettings) : ProviderSetupState :=
  mergeProvider setup tts.provider tts.config (tts.enabled = some true) (tts.enabled = some false)
    (if tts.default = some true then some tts.provider else setup.defaultProvider)

/-- What a section for speech recognition has for the provider's configuration. -/
def SttSettings.config (stt : SttSettings) : List (String × Json) :=
  entryOf "enabled" .bool stt.enabled ++ entryOf "default" .bool stt.default ++
    entryOf "profile" .str stt.profile ++ entryOf "fallback_profile" .str stt.fallbackProfile ++
    entryOf "model" .str stt.model ++ entryOf "device" .str stt.device ++
    entryOf "compute_type" .str stt.computeType ++ entryOf "warm_model" .bool stt.warmModel ++
    texts? "warm_models" stt.warmModels

def mergeSttSettings (stt : SttSettings) : ProviderSetupState :=
  mergeProvider setup stt.provider stt.config (stt.enabled = some true) (stt.enabled = some false)
    (if stt.default = some true then some stt.provider else setup.defaultProvider)

/-- What a section for the wake word has for the configuration of `wake`. -/
def WakeSettings.config (wake : WakeSettings) : List (String × Json) :=
  let defaultWakeword := wake.defaultWakeword.bind fun word => nonempty (strip word)
  let warmModels := if wake.warmModels = [] then wake.models else wake.warmModels
  [("enabled", .bool (wake.enabled.getD true)), ("provider", .str wake.provider)] ++
    entryOf "default_wakeword" .str defaultWakeword ++ entryOf "model" .str defaultWakeword ++
    [("warm_model", .bool (wake.warmModel.getD (wake.preload.getD false)))] ++
    texts? "warm_models" warmModels

def mergeWakeSettings (wake : WakeSettings) : ProviderSetupState :=
  mergeProvider setup "wake" wake.config (wake.enabled.getD true) (wake.enabled = some false) setup.defaultProvider

end merge

end HexeVoice.Migration
