import HexeVoice.Library.JsonDepth
import HexeVoice.Library.Returns
import HexeVoice.Migration.Sections

/-!
# Migration bundles

`NodeMigrationService` of `migration.py`: the export of a node's state into a bundle, and the import
of a bundle into another node.

## The model

A file is missing, holds a value or holds what cannot be read. Saving stamps a file with the time,
so that a saved file is never as it was: `written` records what was saved. What the endpoint registry
and the voice intents are is given by how they are validated and dumped (`PydanticModel`).
-/

namespace HexeVoice.Migration

open HexeVoice.Library HexeVoice.Onboarding Json

/-- A file with values of type `α`. -/
inductive StoreFile (α : Type) where
  | missing
  | valid (value : α)
  | invalid

/-- What a store loads: a missing file is as a default. -/
def StoreFile.load {α : Type} (default : α) : StoreFile α → Except MigrationError α
  | .missing => .ok default
  | .valid value => .ok value
  | .invalid => .error .validationError

/-- A model of `pydantic`. -/
structure PydanticModel (α : Type) where
  default : α
  modelValidate : Json → Option α
  modelDump : α → Json

/-- The files of a node: `ρ` is what the endpoint registry holds, `ι` what the voice intents are. -/
structure Stores (ρ ι : Type) where
  onboardingState : StoreFile PersistedOnboardingState := .missing
  endpointRegistry : StoreFile ρ := .missing
  voiceIntents : StoreFile ι := .missing
  ttsSettings : StoreFile Json := .missing
  written : List String := []

/-- The secrets of trust: `TRUST_SECRET_FIELDS`. -/
def trustSecretFields : List String := ["node_trust_token", "operational_mqtt_token"]

/-- A value that is kept under the name of a secret. -/
def isSecret (key : String) (value : Json) : Bool :=
  key ∈ trustSecretFields &&
    match value with
    | .null | .str "" => false
    | _ => true

def containsSecretValue : Json → Bool := anyEntry isSecret

/-- `value != 1`, of what Python compares. -/
def isOne : Json → Bool
  | .int 1 | .bool true | .float (.finite 1) => true
  | _ => false

structure NodeMigrationImportRequest where
  bundle : JsonObject
  destinationCoreBaseUrl : Option String := none
  destinationApiBaseUrl : Option String := none
  destinationUiEndpoint : Option String := none
  destinationHostname : Option String := none
  dryRun : Bool := false

structure NodeMigrationImportResponse where
  imported : Bool
  filesImported : List String := []
  nodeId : Option String := none
  coreBaseUrl : Option String := none
  apiBaseUrl : Option String := none
  uiEndpoint : Option String := none
  warnings : List String := []
  deriving DecidableEq

def applyDestinationOverrides (s : PersistedOnboardingState) (request : NodeMigrationImportRequest) :
    PersistedOnboardingState :=
  { s with
    preTrust := { s.preTrust with
      coreBaseUrl := request.destinationCoreBaseUrl.or s.preTrust.coreBaseUrl
      apiBaseUrl := request.destinationApiBaseUrl.or s.preTrust.apiBaseUrl
      uiEndpoint := request.destinationUiEndpoint.or s.preTrust.uiEndpoint
      hostname := (request.destinationHostname.bind nonempty).or s.preTrust.hostname } }

def reauthorizeWarning : String :=
  "Imported node must re-authorize with Core before it can become trusted."

def ttsWarning : String :=
  "Imported TTS provider settings may require Piper voice downloads, warmup, and service restart."

def sttWarning : String :=
  "Imported STT settings may require model downloads and an STT service restart on this host."

def cudaWarning : String :=
  "Imported STT settings request CUDA; verify GPU support before starting the STT service."

def wakeWarning : String :=
  "Imported wake settings may require wake model download/copy and wake service restart."

def copyWarning : String :=
  "Copy model, firmware, endpoint media, and service env files separately if this node uses them."

def dryRunWarning : String := "Dry-run only; no runtime state was written."

/-- The warnings about imported speech settings. -/
def sttWarnings (stt : SttSettings) : List String :=
  sttWarning :: if stt.device = some "cuda" then [cudaWarning] else []

/-- The response with a file more, and with warnings. -/
def NodeMigrationImportResponse.add (r : NodeMigrationImportResponse) (file : String)
    (warnings : List String) : NodeMigrationImportResponse :=
  { r with filesImported := r.filesImported ++ [file], warnings := r.warnings ++ warnings }

/-- The response with what the state says of the node. -/
def NodeMigrationImportResponse.about (r : NodeMigrationImportResponse)
    (s : PersistedOnboardingState) : NodeMigrationImportResponse :=
  { r with
    nodeId := s.trustActivation.nodeId
    coreBaseUrl := s.preTrust.coreBaseUrl
    apiBaseUrl := s.preTrust.apiBaseUrl
    uiEndpoint := s.preTrust.uiEndpoint }

/-- `a or b`, of texts that may be missing. -/
def orText (a b : Option String) : Option String := (a.bind nonempty).or b

/-- The response with what the state says of the node, where it says nothing yet. -/
def NodeMigrationImportResponse.aboutMissing (r : NodeMigrationImportResponse)
    (s : PersistedOnboardingState) : NodeMigrationImportResponse :=
  { r with
    nodeId := orText r.nodeId s.trustActivation.nodeId
    coreBaseUrl := orText r.coreBaseUrl s.preTrust.coreBaseUrl
    apiBaseUrl := orText r.apiBaseUrl s.preTrust.apiBaseUrl
    uiEndpoint := orText r.uiEndpoint s.preTrust.uiEndpoint }

/-- The warnings about an imported state. -/
def stateWarnings (s : PersistedOnboardingState) : List String :=
  if s.trustActivation.trustStatus = "trusted" then [] else [reauthorizeWarning]

section service

variable (py : Python) (floatOf : String → Option PyFloat) (pydantic : Pydantic)
  {ρ ι : Type} (registryModel : PydanticModel ρ) (intentModel : PydanticModel ι)

/-- A value that `model_validate` accepts. -/
def validated {α : Type} (value : Option α) : Except MigrationError α :=
  (value.map .ok).getD (.error .validationError)

def rejectTrustSecrets (bundle : JsonObject) : Except MigrationError Unit :=
  if (item bundle "contains_trust_secrets").truthy then
    refuse "migration_bundle_contains_trust_secrets"
  else
    match item bundle "state_files" with
    | .obj stateFiles =>
      if containsSecretValue (.obj stateFiles) then refuse "migration_bundle_contains_trust_secrets"
      else .ok ()
    | _ => .ok ()

/-- The state files of a bundle that is checked. -/
def stateFilesOf (bundle : JsonObject) : Except MigrationError JsonObject := do
  if !isOne (item bundle "schema_version") then refuse "unsupported_migration_schema_version"
  let .obj stateFiles := item bundle "state_files" | refuse "migration_state_files_missing"
  rejectTrustSecrets bundle
  return stateFiles

/-- The check of the `onboarding_state` section. -/
def checkOnboardingState (request : NodeMigrationImportRequest) (payload : Json) :
    Except MigrationError PersistedOnboardingState :=
  (validated (PersistedOnboardingState.modelValidate pydantic payload)).map fun s =>
    applyDestinationOverrides s request

/-- The check of the `voice_tts_settings` section. -/
def checkTtsSettings : Json → Except MigrationError JsonObject
  | .obj entries => .ok entries
  | _ => refuse "voice_tts_settings_must_be_object"

/-- The plan with the section under the key, if there is one. -/
def planSection {α : Type} (stateFiles : JsonObject) (key : String)
    (check : Json → Except MigrationError α)
    (add : α → NodeMigrationImportResponse → NodeMigrationImportResponse)
    (r : NodeMigrationImportResponse) : Except MigrationError NodeMigrationImportResponse :=
  match item stateFiles key with
  | .null => .ok r
  | payload => (check payload).map fun value => add value r

/-- The response at the end, if there was a section. -/
def concluded (r : NodeMigrationImportResponse) :
    Except MigrationError NodeMigrationImportResponse :=
  if r.filesImported = [] then refuse "migration_bundle_contains_no_supported_state_files"
  else .ok { r with warnings := r.warnings ++ [copyWarning] }

def dryRunImportPlan (request : NodeMigrationImportRequest) :
    Except MigrationError NodeMigrationImportResponse := do
  let stateFiles ← stateFilesOf request.bundle
  let r ← planSection stateFiles "onboarding_state" (checkOnboardingState pydantic request)
    (fun s r => (r.about s).add "onboarding_state" (stateWarnings s)) { imported := false }
  let r ← planSection stateFiles "endpoint_registry" (validated ∘ registryModel.modelValidate)
    (fun _ r => r.add "endpoint_registry" []) r
  let r ← planSection stateFiles "voice_intents" (validated ∘ intentModel.modelValidate)
    (fun _ r => r.add "voice_intents" []) r
  let r ← planSection stateFiles "voice_tts_settings" checkTtsSettings
    (fun _ r => r.add "voice_tts_settings" []) r
  let r ← planSection stateFiles "voice_tts_provider_settings" (validateTtsProviderSettings py)
    (fun _ r => r.add "voice_tts_provider_settings" [ttsWarning]) r
  let r ← planSection stateFiles "voice_stt_settings" (validateSttSettings py)
    (fun stt r => r.add "voice_stt_settings" (sttWarnings stt)) r
  let r ← planSection stateFiles "voice_wake_settings" (validateWakeSettings py floatOf)
    (fun _ r => r.add "voice_wake_settings" [wakeWarning]) r
  concluded r

/-! ### Import -/

/-- What is done with the files of a node: what was saved before an error stays saved. -/
abbrev StoresM (ρ ι : Type) := EStateM MigrationError (Stores ρ ι)

/-- What a check gives. -/
def liftExcept {α : Type} : Except MigrationError α → StoresM ρ ι α
  | .ok value => pure value
  | .error error => throw error

/-- `self._onboarding_store.save`. -/
def saveOnboardingState (s : PersistedOnboardingState) : StoresM ρ ι Unit :=
  modify fun stores => { stores with
    onboardingState := .valid s
    written := stores.written ++ ["onboarding_state"] }

/-- `self._endpoint_registry_store.save`. -/
def saveEndpointRegistry (registry : ρ) : StoresM ρ ι Unit :=
  modify fun stores => { stores with
    endpointRegistry := .valid registry
    written := stores.written ++ ["endpoint_registry"] }

/-- `self._voice_intent_store.save`. -/
def saveVoiceIntents (intents : ι) : StoresM ρ ι Unit :=
  modify fun stores => { stores with
    voiceIntents := .valid intents
    written := stores.written ++ ["voice_intents"] }

/-- `self._write_json_file`, of the TTS settings. -/
def saveTtsSettings (entries : JsonObject) : StoresM ρ ι Unit :=
  modify fun stores => { stores with
    ttsSettings := .valid (.obj entries)
    written := stores.written ++ ["voice_tts_settings"] }

/-- The provider setup of the stored state is merged with a section. -/
def mergeSetup (merge : ProviderSetupState → ProviderSetupState) :
    StoresM ρ ι PersistedOnboardingState := do
  let current ← liftExcept ((← get).onboardingState.load {})
  let merged := { current with providerSetup := merge current.providerSetup }
  saveOnboardingState merged
  return merged

/-- The import of the section under the key, if there is one. -/
def importSection {α : Type} (stateFiles : JsonObject) (key : String)
    (check : Json → Except MigrationError α)
    (save : α → NodeMigrationImportResponse → StoresM ρ ι NodeMigrationImportResponse)
    (r : NodeMigrationImportResponse) : StoresM ρ ι NodeMigrationImportResponse :=
  match item stateFiles key with
  | .null => pure r
  | payload =>
    match check payload with
    | .ok value => save value r
    | .error error => throw error

/-- `import_bundle`, of a request that is no dry run. -/
def importStateFiles (request : NodeMigrationImportRequest) :
    StoresM ρ ι NodeMigrationImportResponse := do
  let stateFiles ← liftExcept (stateFilesOf request.bundle)
  let r ← importSection stateFiles "onboarding_state" (checkOnboardingState pydantic request)
    (fun s r => do
      saveOnboardingState s
      return (r.about s).add "onboarding_state" (stateWarnings s)) { imported := true }
  let r ← importSection stateFiles "endpoint_registry" (validated ∘ registryModel.modelValidate)
    (fun registry r => do
      saveEndpointRegistry registry
      return r.add "endpoint_registry" []) r
  let r ← importSection stateFiles "voice_intents" (validated ∘ intentModel.modelValidate)
    (fun intents r => do
      saveVoiceIntents intents
      return r.add "voice_intents" []) r
  let r ← importSection stateFiles "voice_tts_settings" checkTtsSettings
    (fun entries r => do
      saveTtsSettings entries
      return r.add "voice_tts_settings" []) r
  let r ← importSection stateFiles "voice_tts_provider_settings" (validateTtsProviderSettings py)
    (fun tts r => do
      let saved ← mergeSetup (mergeTtsProviderSettings · tts)
      return (r.aboutMissing saved).add "voice_tts_provider_settings" [ttsWarning]) r
  let r ← importSection stateFiles "voice_stt_settings" (validateSttSettings py)
    (fun stt r => do
      let saved ← mergeSetup (mergeSttSettings · stt)
      return (r.aboutMissing saved).add "voice_stt_settings" (sttWarnings stt)) r
  let r ← importSection stateFiles "voice_wake_settings" (validateWakeSettings py floatOf)
    (fun wake r => do
      let saved ← mergeSetup (mergeWakeSettings · wake)
      return (r.aboutMissing saved).add "voice_wake_settings" [wakeWarning]) r
  liftExcept (concluded r)

def importBundle (request : NodeMigrationImportRequest) :
    StoresM ρ ι NodeMigrationImportResponse :=
  if request.dryRun then
    (liftExcept (dryRunImportPlan py floatOf pydantic registryModel intentModel request)).map
      fun plan => { plan with warnings := plan.warnings ++ [dryRunWarning] }
  else importStateFiles py floatOf pydantic registryModel intentModel request

/-- `restore_backup`, of the bundle of a backup: the import is tried as a dry run before. -/
def restoreBackup (request : NodeMigrationImportRequest) (backupId : String) :
    StoresM ρ ι NodeMigrationImportResponse := do
  if !request.dryRun then
    let _ ← importBundle py floatOf pydantic registryModel intentModel { request with dryRun := true }
  let r ← importBundle py floatOf pydantic registryModel intentModel request
  return { r with warnings := r.warnings ++ [s!"Restored from migration backup {backupId}."] }

/-! ### Export -/

/-- The entries of these names without their values. -/
def redact (entries : JsonObject) : JsonObject :=
  ⟨entries.entries.map fun entry =>
    if entry.1 ∈ trustSecretFields then (entry.1, .null) else entry⟩

/-- The object under the key with `f` applied, if there is one. -/
def updateObject (entries : JsonObject) (key : String) (f : JsonObject → JsonObject) : JsonObject :=
  match entries.get key with
  | some (.obj inner) => entries.set key (.obj (f inner))
  | _ => entries

/-- The state names a node. -/
def hasNodeId (state : JsonObject) : Bool :=
  match item state "trust_activation" with
  | .obj trust => (item trust "node_id").truthy
  | _ => false

def redactTrustSecrets (state : JsonObject) : JsonObject :=
  let hasNode := hasNodeId state
  let state := updateObject state "trust_activation" fun trust =>
    let trust := redact trust
    if hasNode then
      ((trust.set "trust_status" (.str "reauth_required")).set "trusted_at" .null).set
        "activation_applied_at" .null
    else trust
  let state := updateObject state "onboarding_session" fun session =>
    updateObject session "pending_activation" redact
  updateObject state "operational_status" fun status =>
    if hasNode then
      (status.set "trust_status" (.str "reauth_required")).set "operational_ready" (.bool false)
    else status

/-- `_voice_tts_runtime_config`. -/
def runtimeConfig : StoreFile Json → JsonObject
  | .valid (.obj entries) => entries
  | _ => .empty

/-- The TTS settings file, if there is one: `_read_object_file`. -/
def readTtsSettings (settings : Settings) : StoreFile Json → Except MigrationError (Option JsonObject)
  | .missing => .ok none
  | .valid (.obj entries) => .ok (some entries)
  | .valid _ => refuse s!"{settings.voiceTtsRuntimeConfigName}_must_be_object"
  | .invalid => .error (.python .valueError)

def redactedWarning : String :=
  "Trust secrets were redacted; migrated nodes must re-authorize with Core before becoming trusted."

def notIncludedWarning : String :=
  "Large model, media, firmware, log, and audio-history folders are not included."

/-- The intents, if there is a file of them. -/
def readVoiceIntents : StoreFile ι → Except MigrationError (Option ι)
  | .missing => .ok none
  | .valid intents => .ok (some intents)
  | .invalid => .error .validationError

/-- The `state_files` of a bundle. -/
def exportedStateFiles (state : PersistedOnboardingState) (registry : ρ) (intents : Option ι)
    (ttsSettings : Option JsonObject) (tts : Option TtsProviderSettings) (stt : Option SttSettings)
    (wake : Option WakeSettings) : JsonObject :=
  ⟨[("onboarding_state", .obj (redactTrustSecrets state.modelDump)),
    ("endpoint_registry", registryModel.modelDump registry)] ++
    entryOf "voice_intents" intentModel.modelDump intents ++
    entryOf "voice_tts_settings" .obj ttsSettings ++
    entryOf "voice_tts_provider_settings" (fun tts => .obj tts.toJson) tts ++
    entryOf "voice_stt_settings" (fun stt => .obj stt.toJson) stt ++
    entryOf "voice_wake_settings" (fun wake => .obj wake.toJson) wake⟩

/-- A bundle with these `state_files`. -/
def exportedBundle (settings : Settings) (exportedAt : String) (nodeId : Option String)
    (stateFiles : JsonObject) : JsonObject :=
  ⟨[("schema_version", .int 1),
    ("exported_at", .str exportedAt),
    ("source", .obj ⟨[("node_name", .str settings.nodeName), ("node_type", .str settings.nodeType),
      ("node_id", ofText nodeId),
      ("api_base_url", ofText settings.publicApiBaseUrl),
      ("ui_endpoint", ofText settings.publicUiBaseUrl)]⟩),
    ("contains_trust_secrets", .bool false),
    ("state_files", .obj stateFiles),
    ("warnings", ofTexts [redactedWarning, notIncludedWarning])]⟩

def exportBundle (settings : Settings) (includeTrustSecrets : Bool) (exportedAt : String)
    (stores : Stores ρ ι) : Except MigrationError JsonObject := do
  if includeTrustSecrets then refuse "migration_trust_secret_export_not_supported"
  let state ← stores.onboardingState.load {}
  let registry ← stores.endpointRegistry.load registryModel.default
  let intents ← readVoiceIntents stores.voiceIntents
  let ttsSettings ← readTtsSettings settings stores.ttsSettings
  let tts ← ttsProviderSettingsPayload py settings state.providerSetup
    (runtimeConfig stores.ttsSettings)
  let stt ← sttSettingsPayload py settings state.providerSetup
  let wake ← wakeSettingsPayload py floatOf settings state.providerSetup
  return exportedBundle settings exportedAt state.trustActivation.nodeId
    (exportedStateFiles registryModel intentModel state registry intents ttsSettings tts stt wake)

end service

end HexeVoice.Migration
