import HexeVoice.Library.Pydantic
import HexeVoice.Library.Text

/-!
# The onboarding state

`PersistedOnboardingState` of `persistence/onboarding_state.py`: what the node knows of its
identity, of Core and of the trust between them, and how far its setup has come.

## The model

Texts that are missing are `none`. `schema_version` and `updated_at`, which nothing reads, are
validated but not kept.

## What is proved

**`modelValidate_modelDump`**: the state that is written to the file is the state that is read.
-/

namespace HexeVoice.Onboarding

open HexeVoice.Library

/-- The id of `initial_onboarding_step()`. -/
def initialOnboardingStep : String := "node_identity"

/-! ### The sections -/

/-- What the node is and which Core it belongs to, before there is trust. -/
structure PreTrustSetupState where
  nodeName : Option String := none
  requestedNodeId : Option String := none
  hostname : Option String := none
  uiEndpoint : Option String := none
  apiBaseUrl : Option String := none
  coreBaseUrl : Option String := none
  protocolVersion : Option String := none
  nodeNonce : Option String := none

/-- How Core was found. -/
structure BootstrapDiscoveryState where
  bootstrapTopic : String := "hexe/bootstrap/core"
  bootstrapHost : Option String := none
  bootstrapPort : ℤ := 1884
  connectionStatus : String := "pending"
  lastCheckedAt : Option String := none
  lastError : Option String := none
  advertisementValid : Bool := false
  onboardingMode : Option String := none
  onboardingContract : Option String := none
  apiBase : Option String := none
  mqttHost : Option String := none
  mqttPort : Option ℤ := none
  registerSessionEndpoint : Option String := none
  registrationsEndpoint : Option String := none
  compatibilityRegisterEndpoint : Option String := none
  compatibilityAiNodeRegisterEndpoint : Option String := none

/-- The session in which Core is asked for trust. -/
structure OnboardingSessionState where
  sessionId : Option String := none
  approvalUrl : Option String := none
  expiresAt : Option String := none
  finalizeUrl : Option String := none
  sessionState : Option String := none
  lastPolledAt : Option String := none
  lastTerminalOutcome : Option String := none
  pendingActivation : Option JsonObject := none
  lastError : Option String := none

/-- The trust that Core gave. -/
structure TrustActivationState where
  nodeId : Option String := none
  nodeType : Option String := none
  pairedCoreId : Option String := none
  nodeTrustToken : Option String := none
  initialBaselinePolicy : Option JsonObject := none
  trustStatus : String := "untrusted"
  baselinePolicyVersion : Option String := none
  activationProfile : Option JsonObject := none
  operationalMqttIdentity : Option String := none
  operationalMqttToken : Option String := none
  operationalMqttHost : Option String := none
  operationalMqttPort : Option ℤ := none
  issuedAt : Option String := none
  sourceSessionId : Option String := none
  trustedAt : Option String := none
  activationAppliedAt : Option String := none
  supported : Option Bool := none
  supportState : Option String := none
  registryPresent : Option Bool := none
  registryState : Option String := none
  revokedAt : Option String := none
  revocationReason : Option String := none
  revocationAction : Option String := none
  supportMessage : Option String := none
  trustLastCheckedAt : Option String := none

/-- The providers of the node. -/
structure ProviderSetupState where
  supportedProviders : List String := []
  enabledProviders : List String := []
  defaultProvider : Option String := none
  providerConfigs : Dict String JsonObject := .empty
  declarationAllowed : Bool := false
  blockingReasons : List String := []
  lastUpdatedAt : Option String := none

/-- What the node declared that it can do. -/
structure CapabilityDeclarationState where
  manifestVersion : Option String := none
  capabilityStatus : String := "missing"
  acceptedAt : Option String := none
  declaredTaskFamilies : List String := []
  declaredCapabilities : List String := []
  providedTaskFamilies : List String := []
  requestedTaskFamilies : List String := []
  capabilityProfileId : Option String := none
  governanceVersion : Option String := none
  governanceIssuedAt : Option String := none
  lastError : Option String := none

/-- The governance that Core issued. -/
structure GovernanceSyncState where
  governanceSyncStatus : String := "pending_capability"
  governanceVersion : Option String := none
  issuedTimestamp : Option String := none
  refreshIntervalS : Option ℤ := none
  governanceBundle : Option JsonObject := none
  lastRefreshRequestAt : Option String := none
  governanceFreshnessState : String := "pending"
  governanceFreshnessChangedAt : Option String := none
  governanceStaleForS : Option ℤ := none
  governanceOutdated : Bool := false
  lastError : Option String := none

/-- What Core says about the node's operation. -/
structure OperationalStatusState where
  lifecycleState : Option String := none
  trustStatus : Option String := none
  capabilityStatus : String := "missing"
  governanceStatus : String := "pending_capability"
  operationalReady : Bool := false
  activeGovernanceVersion : Option String := none
  lastGovernanceIssuedAt : Option String := none
  lastGovernanceRefreshRequestAt : Option String := none
  governanceFreshnessState : String := "pending"
  governanceFreshnessChangedAt : Option String := none
  governanceStaleForS : Option ℤ := none
  governanceOutdated : Bool := false
  lastTelemetryTimestamp : Option String := none
  updatedAt : Option String := none

/-- The step at which setup goes on. -/
structure ResumeState where
  currentStepId : String := initialOnboardingStep
  lastCompletedStepId : Option String := none
  lastTransitionAt : Option String := none

/-- The onboarding state. -/
structure PersistedOnboardingState where
  preTrust : PreTrustSetupState := {}
  bootstrapDiscovery : BootstrapDiscoveryState := {}
  onboardingSession : OnboardingSessionState := {}
  trustActivation : TrustActivationState := {}
  providerSetup : ProviderSetupState := {}
  capabilityDeclaration : CapabilityDeclarationState := {}
  governanceSync : GovernanceSyncState := {}
  operationalStatus : OperationalStatusState := {}
  resume : ResumeState := {}

/-! ### The file -/

open Json

section validate

variable (pydantic : Pydantic)

def PreTrustSetupState.modelDump (s : PreTrustSetupState) : JsonObject :=
  ⟨[("node_name", ofText s.nodeName),
    ("requested_node_id", ofText s.requestedNodeId),
    ("hostname", ofText s.hostname),
    ("ui_endpoint", ofText s.uiEndpoint),
    ("api_base_url", ofText s.apiBaseUrl),
    ("core_base_url", ofText s.coreBaseUrl),
    ("protocol_version", ofText s.protocolVersion),
    ("node_nonce", ofText s.nodeNonce)]⟩

def PreTrustSetupState.modelValidate (value : JsonObject) : Option PreTrustSetupState := do
  let nodeName ← field value "node_name" (optional text) none
  let requestedNodeId ← field value "requested_node_id" (optional text) none
  let hostname ← field value "hostname" (optional text) none
  let uiEndpoint ← field value "ui_endpoint" (optional text) none
  let apiBaseUrl ← field value "api_base_url" (optional text) none
  let coreBaseUrl ← field value "core_base_url" (optional text) none
  let protocolVersion ← field value "protocol_version" (optional text) none
  let nodeNonce ← field value "node_nonce" (optional text) none
  return { nodeName, requestedNodeId, hostname, uiEndpoint, apiBaseUrl, coreBaseUrl,
           protocolVersion, nodeNonce }

def BootstrapDiscoveryState.modelDump (s : BootstrapDiscoveryState) : JsonObject :=
  ⟨[("bootstrap_topic", .str s.bootstrapTopic),
    ("bootstrap_host", ofText s.bootstrapHost),
    ("bootstrap_port", .int s.bootstrapPort),
    ("connection_status", .str s.connectionStatus),
    ("last_checked_at", ofText s.lastCheckedAt),
    ("last_error", ofText s.lastError),
    ("advertisement_valid", .bool s.advertisementValid),
    ("onboarding_mode", ofText s.onboardingMode),
    ("onboarding_contract", ofText s.onboardingContract),
    ("api_base", ofText s.apiBase),
    ("mqtt_host", ofText s.mqttHost),
    ("mqtt_port", ofInt s.mqttPort),
    ("register_session_endpoint", ofText s.registerSessionEndpoint),
    ("registrations_endpoint", ofText s.registrationsEndpoint),
    ("compatibility_register_endpoint", ofText s.compatibilityRegisterEndpoint),
    ("compatibility_ai_node_register_endpoint", ofText s.compatibilityAiNodeRegisterEndpoint)]⟩

def BootstrapDiscoveryState.modelValidate (value : JsonObject) :
    Option BootstrapDiscoveryState := do
  let bootstrapTopic ← field value "bootstrap_topic" text "hexe/bootstrap/core"
  let bootstrapHost ← field value "bootstrap_host" (optional text) none
  let bootstrapPort ← field value "bootstrap_port" pydantic.integer 1884
  let connectionStatus ← field value "connection_status" text "pending"
  let lastCheckedAt ← field value "last_checked_at" (optional text) none
  let lastError ← field value "last_error" (optional text) none
  let advertisementValid ← field value "advertisement_valid" pydantic.boolean false
  let onboardingMode ← field value "onboarding_mode" (optional text) none
  let onboardingContract ← field value "onboarding_contract" (optional text) none
  let apiBase ← field value "api_base" (optional text) none
  let mqttHost ← field value "mqtt_host" (optional text) none
  let mqttPort ← field value "mqtt_port" (optional pydantic.integer) none
  let registerSessionEndpoint ← field value "register_session_endpoint" (optional text) none
  let registrationsEndpoint ← field value "registrations_endpoint" (optional text) none
  let compatibilityRegisterEndpoint ←
    field value "compatibility_register_endpoint" (optional text) none
  let compatibilityAiNodeRegisterEndpoint ←
    field value "compatibility_ai_node_register_endpoint" (optional text) none
  return { bootstrapTopic, bootstrapHost, bootstrapPort, connectionStatus, lastCheckedAt,
           lastError, advertisementValid, onboardingMode, onboardingContract, apiBase, mqttHost,
           mqttPort, registerSessionEndpoint, registrationsEndpoint,
           compatibilityRegisterEndpoint, compatibilityAiNodeRegisterEndpoint }

def OnboardingSessionState.modelDump (s : OnboardingSessionState) : JsonObject :=
  ⟨[("session_id", ofText s.sessionId),
    ("approval_url", ofText s.approvalUrl),
    ("expires_at", ofText s.expiresAt),
    ("finalize_url", ofText s.finalizeUrl),
    ("session_state", ofText s.sessionState),
    ("last_polled_at", ofText s.lastPolledAt),
    ("last_terminal_outcome", ofText s.lastTerminalOutcome),
    ("pending_activation", ofMapping s.pendingActivation),
    ("last_error", ofText s.lastError)]⟩

def OnboardingSessionState.modelValidate (value : JsonObject) : Option OnboardingSessionState := do
  let sessionId ← field value "session_id" (optional text) none
  let approvalUrl ← field value "approval_url" (optional text) none
  let expiresAt ← field value "expires_at" (optional text) none
  let finalizeUrl ← field value "finalize_url" (optional text) none
  let sessionState ← field value "session_state" (optional text) none
  let lastPolledAt ← field value "last_polled_at" (optional text) none
  let lastTerminalOutcome ← field value "last_terminal_outcome" (optional text) none
  let pendingActivation ← field value "pending_activation" (optional mapping) none
  let lastError ← field value "last_error" (optional text) none
  return { sessionId, approvalUrl, expiresAt, finalizeUrl, sessionState, lastPolledAt,
           lastTerminalOutcome, pendingActivation, lastError }

def TrustActivationState.modelDump (s : TrustActivationState) : JsonObject :=
  ⟨[("node_id", ofText s.nodeId),
    ("node_type", ofText s.nodeType),
    ("paired_core_id", ofText s.pairedCoreId),
    ("node_trust_token", ofText s.nodeTrustToken),
    ("initial_baseline_policy", ofMapping s.initialBaselinePolicy),
    ("trust_status", .str s.trustStatus),
    ("baseline_policy_version", ofText s.baselinePolicyVersion),
    ("activation_profile", ofMapping s.activationProfile),
    ("operational_mqtt_identity", ofText s.operationalMqttIdentity),
    ("operational_mqtt_token", ofText s.operationalMqttToken),
    ("operational_mqtt_host", ofText s.operationalMqttHost),
    ("operational_mqtt_port", ofInt s.operationalMqttPort),
    ("issued_at", ofText s.issuedAt),
    ("source_session_id", ofText s.sourceSessionId),
    ("trusted_at", ofText s.trustedAt),
    ("activation_applied_at", ofText s.activationAppliedAt),
    ("supported", ofBool s.supported),
    ("support_state", ofText s.supportState),
    ("registry_present", ofBool s.registryPresent),
    ("registry_state", ofText s.registryState),
    ("revoked_at", ofText s.revokedAt),
    ("revocation_reason", ofText s.revocationReason),
    ("revocation_action", ofText s.revocationAction),
    ("support_message", ofText s.supportMessage),
    ("trust_last_checked_at", ofText s.trustLastCheckedAt)]⟩

def TrustActivationState.modelValidate (value : JsonObject) : Option TrustActivationState := do
  let nodeId ← field value "node_id" (optional text) none
  let nodeType ← field value "node_type" (optional text) none
  let pairedCoreId ← field value "paired_core_id" (optional text) none
  let nodeTrustToken ← field value "node_trust_token" (optional text) none
  let initialBaselinePolicy ← field value "initial_baseline_policy" (optional mapping) none
  let trustStatus ← field value "trust_status" text "untrusted"
  let baselinePolicyVersion ← field value "baseline_policy_version" (optional text) none
  let activationProfile ← field value "activation_profile" (optional mapping) none
  let operationalMqttIdentity ← field value "operational_mqtt_identity" (optional text) none
  let operationalMqttToken ← field value "operational_mqtt_token" (optional text) none
  let operationalMqttHost ← field value "operational_mqtt_host" (optional text) none
  let operationalMqttPort ← field value "operational_mqtt_port" (optional pydantic.integer) none
  let issuedAt ← field value "issued_at" (optional text) none
  let sourceSessionId ← field value "source_session_id" (optional text) none
  let trustedAt ← field value "trusted_at" (optional text) none
  let activationAppliedAt ← field value "activation_applied_at" (optional text) none
  let supported ← field value "supported" (optional pydantic.boolean) none
  let supportState ← field value "support_state" (optional text) none
  let registryPresent ← field value "registry_present" (optional pydantic.boolean) none
  let registryState ← field value "registry_state" (optional text) none
  let revokedAt ← field value "revoked_at" (optional text) none
  let revocationReason ← field value "revocation_reason" (optional text) none
  let revocationAction ← field value "revocation_action" (optional text) none
  let supportMessage ← field value "support_message" (optional text) none
  let trustLastCheckedAt ← field value "trust_last_checked_at" (optional text) none
  return { nodeId, nodeType, pairedCoreId, nodeTrustToken, initialBaselinePolicy, trustStatus,
           baselinePolicyVersion, activationProfile, operationalMqttIdentity,
           operationalMqttToken, operationalMqttHost, operationalMqttPort, issuedAt,
           sourceSessionId, trustedAt, activationAppliedAt, supported, supportState,
           registryPresent, registryState, revokedAt, revocationReason, revocationAction,
           supportMessage, trustLastCheckedAt }

def ProviderSetupState.modelDump (s : ProviderSetupState) : JsonObject :=
  ⟨[("supported_providers", ofTexts s.supportedProviders),
    ("enabled_providers", ofTexts s.enabledProviders),
    ("default_provider", ofText s.defaultProvider),
    ("provider_configs", ofMappings s.providerConfigs),
    ("declaration_allowed", .bool s.declarationAllowed),
    ("blocking_reasons", ofTexts s.blockingReasons),
    ("last_updated_at", ofText s.lastUpdatedAt)]⟩

def ProviderSetupState.modelValidate (value : JsonObject) : Option ProviderSetupState := do
  let supportedProviders ← field value "supported_providers" (list text) []
  let enabledProviders ← field value "enabled_providers" (list text) []
  let defaultProvider ← field value "default_provider" (optional text) none
  let providerConfigs ← field value "provider_configs" (dict mapping) .empty
  let declarationAllowed ← field value "declaration_allowed" pydantic.boolean false
  let blockingReasons ← field value "blocking_reasons" (list text) []
  let lastUpdatedAt ← field value "last_updated_at" (optional text) none
  return { supportedProviders, enabledProviders, defaultProvider, providerConfigs,
           declarationAllowed, blockingReasons, lastUpdatedAt }

def CapabilityDeclarationState.modelDump (s : CapabilityDeclarationState) : JsonObject :=
  ⟨[("manifest_version", ofText s.manifestVersion),
    ("capability_status", .str s.capabilityStatus),
    ("accepted_at", ofText s.acceptedAt),
    ("declared_task_families", ofTexts s.declaredTaskFamilies),
    ("declared_capabilities", ofTexts s.declaredCapabilities),
    ("provided_task_families", ofTexts s.providedTaskFamilies),
    ("requested_task_families", ofTexts s.requestedTaskFamilies),
    ("capability_profile_id", ofText s.capabilityProfileId),
    ("governance_version", ofText s.governanceVersion),
    ("governance_issued_at", ofText s.governanceIssuedAt),
    ("last_error", ofText s.lastError)]⟩

def CapabilityDeclarationState.modelValidate (value : JsonObject) :
    Option CapabilityDeclarationState := do
  let manifestVersion ← field value "manifest_version" (optional text) none
  let capabilityStatus ← field value "capability_status" text "missing"
  let acceptedAt ← field value "accepted_at" (optional text) none
  let declaredTaskFamilies ← field value "declared_task_families" (list text) []
  let declaredCapabilities ← field value "declared_capabilities" (list text) []
  let providedTaskFamilies ← field value "provided_task_families" (list text) []
  let requestedTaskFamilies ← field value "requested_task_families" (list text) []
  let capabilityProfileId ← field value "capability_profile_id" (optional text) none
  let governanceVersion ← field value "governance_version" (optional text) none
  let governanceIssuedAt ← field value "governance_issued_at" (optional text) none
  let lastError ← field value "last_error" (optional text) none
  return { manifestVersion, capabilityStatus, acceptedAt, declaredTaskFamilies,
           declaredCapabilities, providedTaskFamilies, requestedTaskFamilies,
           capabilityProfileId, governanceVersion, governanceIssuedAt, lastError }

def GovernanceSyncState.modelDump (s : GovernanceSyncState) : JsonObject :=
  ⟨[("governance_sync_status", .str s.governanceSyncStatus),
    ("governance_version", ofText s.governanceVersion),
    ("issued_timestamp", ofText s.issuedTimestamp),
    ("refresh_interval_s", ofInt s.refreshIntervalS),
    ("governance_bundle", ofMapping s.governanceBundle),
    ("last_refresh_request_at", ofText s.lastRefreshRequestAt),
    ("governance_freshness_state", .str s.governanceFreshnessState),
    ("governance_freshness_changed_at", ofText s.governanceFreshnessChangedAt),
    ("governance_stale_for_s", ofInt s.governanceStaleForS),
    ("governance_outdated", .bool s.governanceOutdated),
    ("last_error", ofText s.lastError)]⟩

def GovernanceSyncState.modelValidate (value : JsonObject) : Option GovernanceSyncState := do
  let governanceSyncStatus ← field value "governance_sync_status" text "pending_capability"
  let governanceVersion ← field value "governance_version" (optional text) none
  let issuedTimestamp ← field value "issued_timestamp" (optional text) none
  let refreshIntervalS ← field value "refresh_interval_s" (optional pydantic.integer) none
  let governanceBundle ← field value "governance_bundle" (optional mapping) none
  let lastRefreshRequestAt ← field value "last_refresh_request_at" (optional text) none
  let governanceFreshnessState ← field value "governance_freshness_state" text "pending"
  let governanceFreshnessChangedAt ←
    field value "governance_freshness_changed_at" (optional text) none
  let governanceStaleForS ← field value "governance_stale_for_s" (optional pydantic.integer) none
  let governanceOutdated ← field value "governance_outdated" pydantic.boolean false
  let lastError ← field value "last_error" (optional text) none
  return { governanceSyncStatus, governanceVersion, issuedTimestamp, refreshIntervalS,
           governanceBundle, lastRefreshRequestAt, governanceFreshnessState,
           governanceFreshnessChangedAt, governanceStaleForS, governanceOutdated, lastError }

def OperationalStatusState.modelDump (s : OperationalStatusState) : JsonObject :=
  ⟨[("lifecycle_state", ofText s.lifecycleState),
    ("trust_status", ofText s.trustStatus),
    ("capability_status", .str s.capabilityStatus),
    ("governance_status", .str s.governanceStatus),
    ("operational_ready", .bool s.operationalReady),
    ("active_governance_version", ofText s.activeGovernanceVersion),
    ("last_governance_issued_at", ofText s.lastGovernanceIssuedAt),
    ("last_governance_refresh_request_at", ofText s.lastGovernanceRefreshRequestAt),
    ("governance_freshness_state", .str s.governanceFreshnessState),
    ("governance_freshness_changed_at", ofText s.governanceFreshnessChangedAt),
    ("governance_stale_for_s", ofInt s.governanceStaleForS),
    ("governance_outdated", .bool s.governanceOutdated),
    ("last_telemetry_timestamp", ofText s.lastTelemetryTimestamp),
    ("updated_at", ofText s.updatedAt)]⟩

def OperationalStatusState.modelValidate (value : JsonObject) : Option OperationalStatusState := do
  let lifecycleState ← field value "lifecycle_state" (optional text) none
  let trustStatus ← field value "trust_status" (optional text) none
  let capabilityStatus ← field value "capability_status" text "missing"
  let governanceStatus ← field value "governance_status" text "pending_capability"
  let operationalReady ← field value "operational_ready" pydantic.boolean false
  let activeGovernanceVersion ← field value "active_governance_version" (optional text) none
  let lastGovernanceIssuedAt ← field value "last_governance_issued_at" (optional text) none
  let lastGovernanceRefreshRequestAt ←
    field value "last_governance_refresh_request_at" (optional text) none
  let governanceFreshnessState ← field value "governance_freshness_state" text "pending"
  let governanceFreshnessChangedAt ←
    field value "governance_freshness_changed_at" (optional text) none
  let governanceStaleForS ← field value "governance_stale_for_s" (optional pydantic.integer) none
  let governanceOutdated ← field value "governance_outdated" pydantic.boolean false
  let lastTelemetryTimestamp ← field value "last_telemetry_timestamp" (optional text) none
  let updatedAt ← field value "updated_at" (optional text) none
  return { lifecycleState, trustStatus, capabilityStatus, governanceStatus, operationalReady,
           activeGovernanceVersion, lastGovernanceIssuedAt, lastGovernanceRefreshRequestAt,
           governanceFreshnessState, governanceFreshnessChangedAt, governanceStaleForS,
           governanceOutdated, lastTelemetryTimestamp, updatedAt }

def ResumeState.modelDump (s : ResumeState) : JsonObject :=
  ⟨[("current_step_id", .str s.currentStepId),
    ("last_completed_step_id", ofText s.lastCompletedStepId),
    ("last_transition_at", ofText s.lastTransitionAt)]⟩

def ResumeState.modelValidate (value : JsonObject) : Option ResumeState := do
  let currentStepId ← field value "current_step_id" text initialOnboardingStep
  let lastCompletedStepId ← field value "last_completed_step_id" (optional text) none
  let lastTransitionAt ← field value "last_transition_at" (optional text) none
  return { currentStepId, lastCompletedStepId, lastTransitionAt }

/-- `model_dump`, of the state. -/
def PersistedOnboardingState.modelDump (s : PersistedOnboardingState) : JsonObject :=
  ⟨[("pre_trust", .obj s.preTrust.modelDump),
    ("bootstrap_discovery", .obj s.bootstrapDiscovery.modelDump),
    ("onboarding_session", .obj s.onboardingSession.modelDump),
    ("trust_activation", .obj s.trustActivation.modelDump),
    ("provider_setup", .obj s.providerSetup.modelDump),
    ("capability_declaration", .obj s.capabilityDeclaration.modelDump),
    ("governance_sync", .obj s.governanceSync.modelDump),
    ("operational_status", .obj s.operationalStatus.modelDump),
    ("resume", .obj s.resume.modelDump)]⟩

/-- `model_validate`, of a state. -/
def PersistedOnboardingState.modelValidate (value : Json) : Option PersistedOnboardingState := do
  let value ← mapping value
  let _ ← field value "schema_version" pydantic.integer 1
  let _ ← field value "updated_at" text ""
  let preTrust ← field value "pre_trust" (mapping · >>= PreTrustSetupState.modelValidate) {}
  let bootstrapDiscovery ← field value "bootstrap_discovery"
    (mapping · >>= BootstrapDiscoveryState.modelValidate pydantic) {}
  let onboardingSession ← field value "onboarding_session"
    (mapping · >>= OnboardingSessionState.modelValidate) {}
  let trustActivation ← field value "trust_activation"
    (mapping · >>= TrustActivationState.modelValidate pydantic) {}
  let providerSetup ← field value "provider_setup"
    (mapping · >>= ProviderSetupState.modelValidate pydantic) {}
  let capabilityDeclaration ← field value "capability_declaration"
    (mapping · >>= CapabilityDeclarationState.modelValidate) {}
  let governanceSync ← field value "governance_sync"
    (mapping · >>= GovernanceSyncState.modelValidate pydantic) {}
  let operationalStatus ← field value "operational_status"
    (mapping · >>= OperationalStatusState.modelValidate pydantic) {}
  let resume ← field value "resume" (mapping · >>= ResumeState.modelValidate) {}
  return { preTrust, bootstrapDiscovery, onboardingSession, trustActivation, providerSetup,
           capabilityDeclaration, governanceSync, operationalStatus, resume }

/-! ### What is written is read -/

theorem PreTrustSetupState.modelValidate_modelDump (s : PreTrustSetupState) :
    PreTrustSetupState.modelValidate s.modelDump = some s := by
  simp [PreTrustSetupState.modelValidate, PreTrustSetupState.modelDump, field_cons]

theorem BootstrapDiscoveryState.modelValidate_modelDump (s : BootstrapDiscoveryState) :
    BootstrapDiscoveryState.modelValidate pydantic s.modelDump = some s := by
  simp [BootstrapDiscoveryState.modelValidate, BootstrapDiscoveryState.modelDump, field_cons]

theorem OnboardingSessionState.modelValidate_modelDump (s : OnboardingSessionState) :
    OnboardingSessionState.modelValidate s.modelDump = some s := by
  simp [OnboardingSessionState.modelValidate, OnboardingSessionState.modelDump, field_cons]

theorem TrustActivationState.modelValidate_modelDump (s : TrustActivationState) :
    TrustActivationState.modelValidate pydantic s.modelDump = some s := by
  simp [TrustActivationState.modelValidate, TrustActivationState.modelDump, field_cons]

theorem ProviderSetupState.modelValidate_modelDump (s : ProviderSetupState) :
    ProviderSetupState.modelValidate pydantic s.modelDump = some s := by
  simp [ProviderSetupState.modelValidate, ProviderSetupState.modelDump, field_cons]

theorem CapabilityDeclarationState.modelValidate_modelDump (s : CapabilityDeclarationState) :
    CapabilityDeclarationState.modelValidate s.modelDump = some s := by
  simp [CapabilityDeclarationState.modelValidate, CapabilityDeclarationState.modelDump, field_cons]

theorem GovernanceSyncState.modelValidate_modelDump (s : GovernanceSyncState) :
    GovernanceSyncState.modelValidate pydantic s.modelDump = some s := by
  simp [GovernanceSyncState.modelValidate, GovernanceSyncState.modelDump, field_cons]

theorem OperationalStatusState.modelValidate_modelDump (s : OperationalStatusState) :
    OperationalStatusState.modelValidate pydantic s.modelDump = some s := by
  simp [OperationalStatusState.modelValidate, OperationalStatusState.modelDump, field_cons]

theorem ResumeState.modelValidate_modelDump (s : ResumeState) :
    ResumeState.modelValidate s.modelDump = some s := by
  simp [ResumeState.modelValidate, ResumeState.modelDump, field_cons]
/-- **The state that is written is the state that is read.** -/
theorem PersistedOnboardingState.modelValidate_modelDump (s : PersistedOnboardingState) :
    PersistedOnboardingState.modelValidate pydantic (.obj s.modelDump) = some s := by
  simp [PersistedOnboardingState.modelValidate, PersistedOnboardingState.modelDump, field_cons,
    PreTrustSetupState.modelValidate_modelDump, BootstrapDiscoveryState.modelValidate_modelDump,
    OnboardingSessionState.modelValidate_modelDump, TrustActivationState.modelValidate_modelDump,
    ProviderSetupState.modelValidate_modelDump, CapabilityDeclarationState.modelValidate_modelDump,
    GovernanceSyncState.modelValidate_modelDump, OperationalStatusState.modelValidate_modelDump,
    ResumeState.modelValidate_modelDump]

end validate

end HexeVoice.Onboarding
