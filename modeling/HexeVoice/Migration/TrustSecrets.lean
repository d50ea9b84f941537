import HexeVoice.Migration.AllOrNothing
import HexeVoice.Migration.SectionChecks

/-!
# Trust across a migration

## What is proved

**`migrated_node_is_not_trusted`**: the state that an import saves says that the node has to be
trusted again exactly if the state says so that the bundle has, or that the node has where the
bundle has none: only an export rewrites the trust status. An export gives a bundle without tokens,
which imports accept, exactly if nothing that the redaction does not look into holds a token.
-/

namespace HexeVoice.Migration

open HexeVoice.Library HexeVoice.Onboarding Json

variable {key : String} {r : NodeMigrationImportResponse} {α : Type}

/-! ### Tokens in a state -/

/-- A token that is kept. -/
def kept (token : Option String) : Bool := (token.bind nonempty).isSome

/-- What a state holds in no fixed form. -/
def freeForms (s : PersistedOnboardingState) : List Json :=
  [ofMapping s.onboardingSession.pendingActivation, ofMapping s.trustActivation.initialBaselinePolicy,
    ofMapping s.trustActivation.activationProfile, ofMappings s.providerSetup.providerConfigs,
    ofMapping s.governanceSync.governanceBundle]

/-- A state holds one of the tokens, at any depth. -/
def holdsToken (s : PersistedOnboardingState) : Bool :=
  kept s.trustActivation.nodeTrustToken || kept s.trustActivation.operationalMqttToken ||
    (freeForms s).any containsSecretValue

theorem isSecret_of_not_mem (h : key ∉ trustSecretFields) (value : Json) :
    isSecret key value = false := by
  simp [isSecret, h]

theorem isSecret_ofText (h : key ∈ trustSecretFields) (token : Option String) :
    isSecret key (ofText token) = kept token := by
  unfold isSecret
  rw [decide_eq_true h, Bool.true_and]
  cases token with
  | none => rfl
  | some token =>
    by_cases hempty : token = ""
    · subst hempty
      rfl
    · simp only [ofText, Option.map_some, Option.getD_some, kept, Option.bind_some, nonempty,
        if_neg hempty]
      split
      · next h => cases h
      · next h =>
        cases h
        exact absurd rfl hempty
      · rfl

section sections

theorem containsSecretValue_preTrust (s : PreTrustSetupState) :
    containsSecretValue (.obj s.modelDump) = false := by
  simp [containsSecretValue, anyEntry_obj, PreTrustSetupState.modelDump, isSecret_of_not_mem,
    trustSecretFields]

theorem containsSecretValue_bootstrap (s : BootstrapDiscoveryState) :
    containsSecretValue (.obj s.modelDump) = false := by
  simp [containsSecretValue, anyEntry_obj, BootstrapDiscoveryState.modelDump, isSecret_of_not_mem,
    trustSecretFields]

theorem containsSecretValue_session (s : OnboardingSessionState) :
    containsSecretValue (.obj s.modelDump) =
      containsSecretValue (ofMapping s.pendingActivation) := by
  simp [containsSecretValue, anyEntry_obj, OnboardingSessionState.modelDump, isSecret_of_not_mem,
    trustSecretFields]

theorem containsSecretValue_trust (s : TrustActivationState) :
    containsSecretValue (.obj s.modelDump) =
      (kept s.nodeTrustToken || kept s.operationalMqttToken ||
        containsSecretValue (ofMapping s.initialBaselinePolicy) ||
        containsSecretValue (ofMapping s.activationProfile)) := by
  have hnode := isSecret_ofText (show "node_trust_token" ∈ trustSecretFields by decide)
    s.nodeTrustToken
  have hmqtt := isSecret_ofText (show "operational_mqtt_token" ∈ trustSecretFields by decide)
    s.operationalMqttToken
  simp [containsSecretValue, anyEntry_obj, TrustActivationState.modelDump, hnode, hmqtt,
    isSecret_of_not_mem, trustSecretFields]
  grind

theorem containsSecretValue_setup (s : ProviderSetupState) :
    containsSecretValue (.obj s.modelDump) = containsSecretValue (ofMappings s.providerConfigs) := by
  simp [containsSecretValue, anyEntry_obj, ProviderSetupState.modelDump, isSecret_of_not_mem,
    trustSecretFields]

theorem containsSecretValue_capability (s : CapabilityDeclarationState) :
    containsSecretValue (.obj s.modelDump) = false := by
  simp [containsSecretValue, anyEntry_obj, CapabilityDeclarationState.modelDump,
    isSecret_of_not_mem, trustSecretFields]

theorem containsSecretValue_governance (s : GovernanceSyncState) :
    containsSecretValue (.obj s.modelDump) =
      containsSecretValue (ofMapping s.governanceBundle) := by
  simp [containsSecretValue, anyEntry_obj, GovernanceSyncState.modelDump, isSecret_of_not_mem,
    trustSecretFields]

theorem containsSecretValue_operational (s : OperationalStatusState) :
    containsSecretValue (.obj s.modelDump) = false := by
  simp [containsSecretValue, anyEntry_obj, OperationalStatusState.modelDump, isSecret_of_not_mem,
    trustSecretFields]

theorem containsSecretValue_resume (s : ResumeState) :
    containsSecretValue (.obj s.modelDump) = false := by
  simp [containsSecretValue, anyEntry_obj, ResumeState.modelDump, isSecret_of_not_mem,
    trustSecretFields]

/-- The entries of an object, none of which is a secret itself. -/
theorem containsSecretValue_obj {entries : List (String × Json)}
    (h : ∀ entry ∈ entries, entry.1 ∉ trustSecretFields) :
    containsSecretValue (.obj ⟨entries⟩) = (entries.map Prod.snd).any containsSecretValue := by
  rw [containsSecretValue, anyEntry_obj, List.any_map]
  induction entries with
  | nil => rfl
  | cons entry entries ih =>
    rw [List.forall_mem_cons] at h
    rw [List.any_cons, List.any_cons, ih h.2, isSecret_of_not_mem h.1, Bool.false_or]
    rfl

/-- **What of the tokens is in the file.** -/
theorem containsSecretValue_modelDump (s : PersistedOnboardingState) :
    containsSecretValue (.obj s.modelDump) = holdsToken s := by
  rw [PersistedOnboardingState.modelDump, containsSecretValue_obj (by simp [trustSecretFields])]
  simp only [List.map_cons, List.map_nil, List.any_cons, List.any_nil,
    containsSecretValue_preTrust, containsSecretValue_bootstrap, containsSecretValue_session,
    containsSecretValue_trust, containsSecretValue_setup, containsSecretValue_capability,
    containsSecretValue_governance, containsSecretValue_operational, containsSecretValue_resume,
    holdsToken, freeForms]
  grind

end sections

/-! ### The redaction of a state -/

section redaction

variable (s : PersistedOnboardingState)

def hasNode : Bool := (s.trustActivation.nodeId.bind nonempty).isSome

/-- The trust without its tokens. -/
def withoutTokens (trust : TrustActivationState) : TrustActivationState :=
  { trust with nodeTrustToken := none, operationalMqttToken := none }

/-- The trust that has to be given again. -/
def reauthRequired (trust : TrustActivationState) : TrustActivationState :=
  { withoutTokens trust with
    trustStatus := "reauth_required", trustedAt := none, activationAppliedAt := none }

/-- The session without the tokens of a pending activation. -/
def withoutPendingTokens (session : OnboardingSessionState) : OnboardingSessionState :=
  { session with pendingActivation := session.pendingActivation.map redact }

/-- The operation that trust has to come before. -/
def notReady (status : OperationalStatusState) : OperationalStatusState :=
  { status with trustStatus := some "reauth_required", operationalReady := false }

/-- `_redact_trust_secrets`, of the state that is dumped. -/
def redacted : PersistedOnboardingState :=
  { s with
    onboardingSession := withoutPendingTokens s.onboardingSession
    trustActivation :=
      if hasNode s then reauthRequired s.trustActivation else withoutTokens s.trustActivation
    operationalStatus := if hasNode s then notReady s.operationalStatus else s.operationalStatus }

variable {f : JsonObject → JsonObject}

theorem redact_modelDump (trust : TrustActivationState) :
    redact trust.modelDump = (withoutTokens trust).modelDump := by
  simp [redact, TrustActivationState.modelDump, trustSecretFields, ofText, withoutTokens]

theorem updateObject_trustActivation {trust : TrustActivationState}
    (h : f s.trustActivation.modelDump = trust.modelDump) :
    updateObject s.modelDump "trust_activation" f =
      { s with trustActivation := trust }.modelDump := by
  show Dict.set _ "trust_activation" (Json.obj (f _)) = _
  rw [h]
  rfl

theorem updateObject_onboardingSession {session : OnboardingSessionState}
    (h : f s.onboardingSession.modelDump = session.modelDump) :
    updateObject s.modelDump "onboarding_session" f =
      { s with onboardingSession := session }.modelDump := by
  show Dict.set _ "onboarding_session" (Json.obj (f _)) = _
  rw [h]
  rfl

theorem updateObject_operationalStatus {status : OperationalStatusState}
    (h : f s.operationalStatus.modelDump = status.modelDump) :
    updateObject s.modelDump "operational_status" f =
      { s with operationalStatus := status }.modelDump := by
  show Dict.set _ "operational_status" (Json.obj (f _)) = _
  rw [h]
  rfl

theorem updateObject_pendingActivation (session : OnboardingSessionState) :
    updateObject session.modelDump "pending_activation" redact =
      (withoutPendingTokens session).modelDump := by
  obtain ⟨_, _, _, _, _, _, _, pending, _⟩ := session
  cases pending <;> rfl

theorem hasNodeId_modelDump : hasNodeId s.modelDump = hasNode s := by
  show (ofText s.trustActivation.nodeId).truthy = _
  unfold hasNode
  cases s.trustActivation.nodeId with
  | none => rfl
  | some node =>
    by_cases h : node = ""
    · subst h
      rfl
    · simp [ofText, truthy, nonempty, h]

/-- **The redaction of the file is the file of the redacted state.** -/
theorem redactTrustSecrets_modelDump : redactTrustSecrets s.modelDump = (redacted s).modelDump := by
  unfold redactTrustSecrets redacted
  rw [hasNodeId_modelDump]
  cases hasNode s with
  | false =>
    simp only [Bool.false_eq_true, if_false]
    rw [updateObject_trustActivation s (redact_modelDump _),
      updateObject_onboardingSession _ (updateObject_pendingActivation _),
      updateObject_operationalStatus _ rfl]
  | true =>
    have htrust : ((((redact s.trustActivation.modelDump).set "trust_status"
        (.str "reauth_required")).set "trusted_at" .null).set "activation_applied_at" .null) =
          (reauthRequired s.trustActivation).modelDump := by
      rw [redact_modelDump]
      rfl
    have hstatus : ((s.operationalStatus.modelDump.set "trust_status"
        (.str "reauth_required")).set "operational_ready" (.bool false)) =
          (notReady s.operationalStatus).modelDump := rfl
    simp only [if_true]
    rw [updateObject_trustActivation s htrust,
      updateObject_onboardingSession _ (updateObject_pendingActivation _),
      updateObject_operationalStatus _ hstatus]

end redaction

/-! ### What is validated holds no token that was not there -/

section validated

variable (pydantic : Pydantic) {value : JsonObject} {name : String}

theorem containsSecretValue_get (h : containsSecretValue (.obj value) = false) {entry : Json}
    (hget : value.get name = some entry) :
    isSecret name entry = false ∧ containsSecretValue entry = false := by
  rw [containsSecretValue, anyEntry_obj, List.any_eq_false] at h
  have hentry := h _ (Dict.mem_of_get hget)
  rwa [Bool.not_eq_true, Bool.or_eq_false_iff] at hentry

theorem containsSecretValue_field_mapping (h : containsSecretValue (.obj value) = false)
    {entries : Option JsonObject}
    (hfield : field value name (optional mapping) none = some entries) :
    containsSecretValue (ofMapping entries) = false := by
  unfold field at hfield
  cases hget : value.get name with
  | none =>
    rw [hget] at hfield
    cases hfield
    rfl
  | some entry =>
    rw [hget] at hfield
    have hentry := (containsSecretValue_get h hget).2
    cases entry with
    | obj entries =>
      cases hfield
      exact hentry
    | null =>
      cases hfield
      rfl
    | _ => cases hfield

theorem kept_field (h : containsSecretValue (.obj value) = false) (hname : name ∈ trustSecretFields)
    {token : Option String} (hfield : field value name (optional text) none = some token) :
    kept token = false := by
  unfold field at hfield
  cases hget : value.get name with
  | none =>
    rw [hget] at hfield
    cases hfield
    rfl
  | some entry =>
    rw [hget] at hfield
    have hentry := (containsSecretValue_get h hget).1
    cases entry with
    | str token =>
      cases hfield
      exact (isSecret_ofText hname (some token)).symm.trans hentry
    | null =>
      cases hfield
      rfl
    | _ => cases hfield

theorem eq_ofMappings {value : Json} {entries : Dict String JsonObject}
    (h : dict mapping value = some entries) : value = ofMappings entries := by
  cases value with
  | obj value =>
    obtain ⟨value⟩ := value
    unfold dict at h
    dsimp only at h
    cases hread : value.mapM fun entry =>
        (mapping entry.2).map fun value => (entry.1, value) with
    | none =>
      rw [hread] at h
      cases h
    | some read =>
      rw [hread] at h
      cases h
      unfold ofMappings
      congr 2
      induction value generalizing read with
      | nil =>
        cases hread
        rfl
      | cons entry value ih =>
        obtain ⟨key, entry⟩ := entry
        rw [List.mapM_cons] at hread
        simp only [Option.bind_eq_bind, Option.bind_eq_some_iff, Option.map_eq_some_iff] at hread
        obtain ⟨_, ⟨inner, hinner, rfl⟩, rest, hrest, hread⟩ := hread
        cases hread
        have hentry : entry = .obj inner := by
          cases entry with
          | obj entries =>
            cases hinner
            rfl
          | _ => cases hinner
        rw [hentry, ih rest hrest]
        rfl
  | _ => cases h

theorem containsSecretValue_field_mappings (h : containsSecretValue (.obj value) = false)
    {entries : Dict String JsonObject}
    (hfield : field value name (dict mapping) .empty = some entries) :
    containsSecretValue (ofMappings entries) = false := by
  unfold field at hfield
  cases hget : value.get name with
  | none =>
    rw [hget] at hfield
    cases hfield
    rfl
  | some entry =>
    rw [hget] at hfield
    exact eq_ofMappings hfield ▸ (containsSecretValue_get h hget).2

theorem section_of_field {validate : JsonObject → Option α} {default a : α}
    (h : containsSecretValue (.obj value) = false)
    (hfield : field value name (mapping · >>= validate) default = some a) :
    a = default ∨ ∃ entries, containsSecretValue (.obj entries) = false ∧
      validate entries = some a := by
  unfold field at hfield
  cases hget : value.get name with
  | none =>
    rw [hget] at hfield
    cases hfield
    exact .inl rfl
  | some entry =>
    rw [hget] at hfield
    have hentry := (containsSecretValue_get h hget).2
    cases entry with
    | obj entries => exact .inr ⟨entries, hentry, hfield⟩
    | _ => cases hfield

theorem session_of_modelValidate (h : containsSecretValue (.obj value) = false)
    {s : OnboardingSessionState} (hvalidate : OnboardingSessionState.modelValidate value = some s) :
    containsSecretValue (ofMapping s.pendingActivation) = false := by
  simp only [OnboardingSessionState.modelValidate, Option.bind_eq_bind,
    Option.bind_eq_some_iff] at hvalidate
  obtain ⟨_, -, _, -, _, -, _, -, _, -, _, -, _, -, pending, hpending, _, -, hvalidate⟩ := hvalidate
  cases hvalidate
  exact containsSecretValue_field_mapping h hpending

theorem trust_of_modelValidate (h : containsSecretValue (.obj value) = false)
    {s : TrustActivationState}
    (hvalidate : TrustActivationState.modelValidate pydantic value = some s) :
    kept s.nodeTrustToken = false ∧ kept s.operationalMqttToken = false ∧
      containsSecretValue (ofMapping s.initialBaselinePolicy) = false ∧
      containsSecretValue (ofMapping s.activationProfile) = false := by
  unfold TrustActivationState.modelValidate at hvalidate
  iterate 3 obtain ⟨_, -, hvalidate⟩ := Option.bind_eq_some_iff.mp hvalidate
  obtain ⟨token, htoken, hvalidate⟩ := Option.bind_eq_some_iff.mp hvalidate
  obtain ⟨policy, hpolicy, hvalidate⟩ := Option.bind_eq_some_iff.mp hvalidate
  iterate 2 obtain ⟨_, -, hvalidate⟩ := Option.bind_eq_some_iff.mp hvalidate
  obtain ⟨profile, hprofile, hvalidate⟩ := Option.bind_eq_some_iff.mp hvalidate
  obtain ⟨_, -, hvalidate⟩ := Option.bind_eq_some_iff.mp hvalidate
  obtain ⟨mqttToken, hmqtt, hvalidate⟩ := Option.bind_eq_some_iff.mp hvalidate
  iterate 15 obtain ⟨_, -, hvalidate⟩ := Option.bind_eq_some_iff.mp hvalidate
  cases hvalidate
  exact ⟨kept_field h (by decide) htoken, kept_field h (by decide) hmqtt,
    containsSecretValue_field_mapping h hpolicy, containsSecretValue_field_mapping h hprofile⟩

theorem setup_of_modelValidate (h : containsSecretValue (.obj value) = false)
    {s : ProviderSetupState} (hvalidate : ProviderSetupState.modelValidate pydantic value = some s) :
    containsSecretValue (ofMappings s.providerConfigs) = false := by
  simp only [ProviderSetupState.modelValidate, Option.bind_eq_bind,
    Option.bind_eq_some_iff] at hvalidate
  obtain ⟨_, -, _, -, _, -, configs, hconfigs, _, -, _, -, _, -, hvalidate⟩ := hvalidate
  cases hvalidate
  exact containsSecretValue_field_mappings h hconfigs

theorem governance_of_modelValidate (h : containsSecretValue (.obj value) = false)
    {s : GovernanceSyncState}
    (hvalidate : GovernanceSyncState.modelValidate pydantic value = some s) :
    containsSecretValue (ofMapping s.governanceBundle) = false := by
  simp only [GovernanceSyncState.modelValidate, Option.bind_eq_bind,
    Option.bind_eq_some_iff] at hvalidate
  obtain ⟨_, -, _, -, _, -, _, -, bundle, hbundle, _, -, _, -, _, -, _, -, _, -, _, -,
    hvalidate⟩ := hvalidate
  cases hvalidate
  exact containsSecretValue_field_mapping h hbundle

/-- **A state without tokens is validated to one without tokens.** -/
theorem holdsToken_of_modelValidate {payload : Json} (h : containsSecretValue payload = false)
    {s : PersistedOnboardingState}
    (hvalidate : PersistedOnboardingState.modelValidate pydantic payload = some s) :
    holdsToken s = false := by
  simp only [PersistedOnboardingState.modelValidate, Option.bind_eq_bind,
    Option.bind_eq_some_iff] at hvalidate
  obtain ⟨value, hvalue, _, -, _, -, _, -, _, -, session, hsession, trust, htrust, setup, hsetup,
    _, -, governance, hgovernance, _, -, _, -, hvalidate⟩ := hvalidate
  cases hvalidate
  cases payload with
  | obj payload =>
    cases hvalue
    have hsession : containsSecretValue (ofMapping session.pendingActivation) = false := by
      rcases section_of_field h hsession with rfl | ⟨entries, hentries, hsession⟩
      · rfl
      · exact session_of_modelValidate hentries hsession
    have htrust : kept trust.nodeTrustToken = false ∧ kept trust.operationalMqttToken = false ∧
        containsSecretValue (ofMapping trust.initialBaselinePolicy) = false ∧
        containsSecretValue (ofMapping trust.activationProfile) = false := by
      rcases section_of_field h htrust with rfl | ⟨entries, hentries, htrust⟩
      · decide
      · exact trust_of_modelValidate pydantic hentries htrust
    have hsetup : containsSecretValue (ofMappings setup.providerConfigs) = false := by
      rcases section_of_field h hsetup with rfl | ⟨entries, hentries, hsetup⟩
      · rfl
      · exact setup_of_modelValidate pydantic hentries hsetup
    have hgovernance : containsSecretValue (ofMapping governance.governanceBundle) = false := by
      rcases section_of_field h hgovernance with rfl | ⟨entries, hentries, hgovernance⟩
      · rfl
      · exact governance_of_modelValidate pydantic hentries hgovernance
    simp [holdsToken, freeForms, hsession, htrust, hsetup, hgovernance]
  | _ => cases hvalue

end validated

/-! ### What the sections merge -/

section merged

variable (py : Python) (floatOf : String → Option PyFloat) (stateFiles : JsonObject)

/-- The setup with the section merged that is under the key, if it is checked. -/
def mergeSection {α : Type} (key : String) (check : Json → Except MigrationError α)
    (merge : ProviderSetupState → α → ProviderSetupState) (setup : ProviderSetupState) :
    ProviderSetupState :=
  match check (item stateFiles key) with
  | .ok value => merge setup value
  | .error _ => setup

/-- The setup with the provider sections merged, one after the other. -/
def mergedSetup (setup : ProviderSetupState) : ProviderSetupState :=
  mergeSection stateFiles "voice_wake_settings" (validateWakeSettings py floatOf) mergeWakeSettings <|
    mergeSection stateFiles "voice_stt_settings" (validateSttSettings py) mergeSttSettings <|
      mergeSection stateFiles "voice_tts_provider_settings" (validateTtsProviderSettings py)
        mergeTtsProviderSettings setup

/-- The configurations of the providers with `null` for what a section overwrites. -/
def overwriteSection {α : Type} (key : String) (check : Json → Except MigrationError α)
    (provider : α → String) (config : α → List (String × Json))
    (configs : Dict String JsonObject) : Dict String JsonObject :=
  match check (item stateFiles key) with
  | .ok value =>
    configs.set (provider value) (mergeConfig ((configs.get (provider value)).getD .empty)
      ((config value).map fun entry => (entry.1, .null)))
  | .error _ => configs

/-- The configurations of the providers with `null` for what the sections overwrite. -/
def overwritten (configs : Dict String JsonObject) : Dict String JsonObject :=
  overwriteSection stateFiles "voice_wake_settings" (validateWakeSettings py floatOf) (fun _ => "wake")
    WakeSettings.config <|
    overwriteSection stateFiles "voice_stt_settings" (validateSttSettings py) SttSettings.provider
      SttSettings.config <|
      overwriteSection stateFiles "voice_tts_provider_settings" (validateTtsProviderSettings py)
        TtsProviderSettings.provider TtsProviderSettings.config configs

/-- Which entries of the configurations are or hold a token. -/
def configMarks (configs : Dict String JsonObject) : Dict String (Dict String Bool) :=
  configs.mapEntries fun _ config => marks isSecret config

theorem marks_mergeConfig {entries entries' : List (String × Json)} {config config' : JsonObject}
    (hconfig : marks isSecret config = marks isSecret config')
    (hentries : entries.map (fun entry => (entry.1, isSecret entry.1 entry.2 ||
      containsSecretValue entry.2)) = entries'.map fun entry => (entry.1, isSecret entry.1 entry.2 ||
      containsSecretValue entry.2)) :
    marks isSecret (mergeConfig config entries) = marks isSecret (mergeConfig config' entries') := by
  unfold mergeConfig
  induction entries generalizing entries' config config' with
  | nil =>
    cases entries' with
    | nil => exact hconfig
    | cons => cases hentries
  | cons entry entries ih =>
    cases entries' with
    | nil => cases hentries
    | cons entry' entries' =>
      rw [List.map_cons, List.map_cons, List.cons.injEq] at hentries
      rw [List.foldl_cons, List.foldl_cons]
      refine ih ?_ hentries.2
      obtain ⟨hkey, hmark⟩ := Prod.mk.inj hentries.1
      rw [hkey] at hmark
      rw [marks_set, marks_set, hconfig, hkey]
      exact congrArg _ hmark

theorem configMarks_set (configs : Dict String JsonObject) (provider : String) (config : JsonObject) :
    configMarks (configs.set provider config) =
      (configMarks configs).set provider (marks isSecret config) :=
  Dict.mapEntries_set _ configs provider config

theorem marks_configOf {configs configs' : Dict String JsonObject}
    (h : configMarks configs = configMarks configs') (provider : String) :
    marks isSecret ((configs.get provider).getD .empty) =
      marks isSecret ((configs'.get provider).getD .empty) := by
  have hget := congrArg (Dict.get · provider) h
  simp only [configMarks, Dict.get_mapEntries] at hget
  cases hc : configs.get provider with
  | none =>
    cases hc' : configs'.get provider with
    | none => rfl
    | some config' => simp [hc, hc'] at hget
  | some config =>
    cases hc' : configs'.get provider with
    | none => simp [hc, hc'] at hget
    | some config' => simpa [hc, hc'] using hget

theorem containsSecretValue_ofMappings (configs : Dict String JsonObject) :
    containsSecretValue (ofMappings configs) = (configMarks configs).entries.any fun entry =>
      decide (entry.1 ∈ trustSecretFields) || entry.2.values.any id := by
  rw [ofMappings, containsSecretValue, anyEntry_obj]
  simp only [configMarks, Dict.mapEntries, List.any_map]
  refine congrArg (configs.entries.any ·) (funext fun entry => ?_)
  show (isSecret entry.1 (.obj entry.2) || anyEntry isSecret (.obj entry.2)) = _
  rw [anyEntry_obj_marks]
  show (decide (entry.1 ∈ trustSecretFields) && true || _) = _
  rw [Bool.and_true]
  rfl

/-- The entries that a section sets hold no token. -/
def Tokenless (entries : List (String × Json)) : Prop :=
  ∀ entry ∈ entries, (isSecret entry.1 entry.2 || containsSecretValue entry.2) = false

theorem marks_overwrite {entries : List (String × Json)} (h : Tokenless entries)
    {config config' : JsonObject} (hconfig : marks isSecret config = marks isSecret config') :
    marks isSecret (mergeConfig config entries) =
      marks isSecret (mergeConfig config' (entries.map fun entry => (entry.1, .null))) := by
  refine marks_mergeConfig hconfig ?_
  rw [List.map_map]
  refine List.map_congr_left fun entry hentry => ?_
  rw [h entry hentry]
  show _ = (entry.1, isSecret entry.1 .null || false)
  rw [isSecret, Bool.and_false]
  rfl

theorem tokenless_append {entries entries' : List (String × Json)} (h : Tokenless entries)
    (h' : Tokenless entries') : Tokenless (entries ++ entries') :=
  fun entry hentry => (List.mem_append.mp hentry).elim (h entry) (h' entry)

theorem tokenless_entryOf (hkey : key ∉ trustSecretFields)
    {toJson : α → Json} (htoJson : ∀ value, containsSecretValue (toJson value) = false)
    (value : Option α) : Tokenless (entryOf key toJson value) := by
  cases value with
  | none => exact fun _ h => nomatch h
  | some value =>
    intro entry hentry
    rw [List.mem_singleton.mp hentry, isSecret_of_not_mem hkey, htoJson]
    rfl

theorem tokenless_texts? (hkey : key ∉ trustSecretFields) (texts : List String) :
    Tokenless (texts? key texts) := by
  unfold texts?
  split
  · exact fun _ h => nomatch h
  · intro entry hentry
    rw [List.mem_singleton.mp hentry, isSecret_of_not_mem hkey]
    exact anyEntry_ofTexts texts

theorem tokenless_ttsConfig (tts : TtsProviderSettings) : Tokenless tts.config :=
  tokenless_append (tokenless_append (tokenless_append (tokenless_append
    (tokenless_entryOf (by decide) (fun _ => rfl) _) (tokenless_entryOf (by decide) (fun _ => rfl) _))
    (tokenless_entryOf (by decide) (fun _ => rfl) _)) (tokenless_texts? (by decide) _))
    (tokenless_entryOf (by decide) (fun _ => rfl) _)

theorem tokenless_sttConfig (stt : SttSettings) : Tokenless stt.config := by
  unfold SttSettings.config
  repeat refine tokenless_append ?_ ?_
  all_goals first
    | exact tokenless_texts? (by decide) _
    | exact tokenless_entryOf (by decide) (fun _ => rfl) _

theorem tokenless_wakeConfig (wake : WakeSettings) : Tokenless wake.config := by
  unfold WakeSettings.config
  refine tokenless_append (tokenless_append (tokenless_append (tokenless_append ?_ ?_) ?_) ?_) ?_
  · intro entry hentry
    rcases List.mem_cons.mp hentry with rfl | hentry
    · rfl
    · rw [List.mem_singleton.mp hentry]
      rfl
  · exact tokenless_entryOf (by decide) (fun _ => rfl) _
  · exact tokenless_entryOf (by decide) (fun _ => rfl) _
  · intro entry hentry
    rw [List.mem_singleton.mp hentry]
    rfl
  · exact tokenless_texts? (by decide) _

/-- **What the sections merge counts as if it were overwritten with `null`.** -/
theorem configMarks_mergedSetup (setup : ProviderSetupState) :
    configMarks (mergedSetup py floatOf stateFiles setup).providerConfigs =
      configMarks (overwritten py floatOf stateFiles setup.providerConfigs) := by
  have hsection {α : Type} (key : String) (check : Json → Except MigrationError α)
      (merge : ProviderSetupState → α → ProviderSetupState) (provider : α → String)
      (config : α → List (String × Json))
      (hmerge : ∀ setup value, (merge setup value).providerConfigs =
        setup.providerConfigs.set (provider value)
          (mergeConfig (configOf setup (provider value)) (config value)))
      (htokenless : ∀ value, Tokenless (config value)) (setup : ProviderSetupState)
      (configs : Dict String JsonObject)
      (h : configMarks setup.providerConfigs = configMarks configs) :
      configMarks (mergeSection stateFiles key check merge setup).providerConfigs =
        configMarks (overwriteSection stateFiles key check provider config configs) := by
    unfold mergeSection overwriteSection
    cases check (item stateFiles key) with
    | error e => exact h
    | ok value =>
      dsimp only
      rw [hmerge, configMarks_set, configMarks_set, h]
      exact congrArg _ (marks_overwrite (htokenless value) (marks_configOf h (provider value)))
  exact hsection _ _ _ _ _ (fun _ _ => rfl) tokenless_wakeConfig _ _ <|
    hsection _ _ _ _ _ (fun _ _ => rfl) tokenless_sttConfig _ _ <|
      hsection _ _ _ _ _ (fun _ _ => rfl) tokenless_ttsConfig _ _ rfl

theorem containsSecretValue_mergeConfig {config : JsonObject} {entries : List (String × Json)}
    (hconfig : containsSecretValue (.obj config) = false) (hentries : Tokenless entries) :
    containsSecretValue (.obj (mergeConfig config entries)) = false := by
  induction entries generalizing config with
  | nil => exact hconfig
  | cons entry entries ih =>
    obtain ⟨hentry, hrest⟩ := List.forall_mem_cons.mp hentries
    refine ih ?_ hrest
    rw [containsSecretValue, anyEntry_obj, List.any_eq_false] at hconfig ⊢
    intro other hother
    rcases Dict.mem_entries_set hother with rfl | hother
    · exact Bool.eq_false_iff.mp hentry
    · exact hconfig other hother

theorem containsSecretValue_configOf {configs : Dict String JsonObject}
    (h : containsSecretValue (ofMappings configs) = false) (provider : String) :
    containsSecretValue (.obj ((configs.get provider).getD .empty)) = false := by
  cases hget : configs.get provider with
  | none => rfl
  | some config =>
    have hentry : (provider, Json.obj config) ∈
        configs.entries.map fun entry => (entry.1, Json.obj entry.2) :=
      List.mem_map_of_mem (Dict.mem_of_get hget)
    rw [ofMappings, containsSecretValue, anyEntry_obj, List.any_eq_false] at h
    have hconfig := h _ hentry
    rw [Bool.not_eq_true, Bool.or_eq_false_iff] at hconfig
    exact hconfig.2

/-- Configurations without tokens have none when entries are overwritten. -/
theorem overwritten_of_tokenless {configs : Dict String JsonObject}
    (h : containsSecretValue (ofMappings configs) = false) :
    containsSecretValue (ofMappings (overwritten py floatOf stateFiles configs)) = false := by
  have hprovider : ∀ provider ∈ "wake" :: sttProviders ++ ttsProviders,
      provider ∉ trustSecretFields := by
    decide
  have hsection {α : Type} (key : String) (check : Json → Except MigrationError α)
      (provider : α → String) (config : α → List (String × Json))
      (hchecked : ∀ value, check (item stateFiles key) = .ok value →
        provider value ∈ "wake" :: sttProviders ++ ttsProviders)
      (htokenless : ∀ value, Tokenless (config value)) {configs : Dict String JsonObject}
      (h : containsSecretValue (ofMappings configs) = false) :
      containsSecretValue
        (ofMappings (overwriteSection stateFiles key check provider config configs)) = false := by
    unfold overwriteSection
    cases hcheck : check (item stateFiles key) with
    | error e => exact h
    | ok value =>
      have hconfig := containsSecretValue_mergeConfig
        (containsSecretValue_configOf h (provider value)) (htokenless value)
      rw [containsSecretValue_ofMappings, List.any_eq_false] at h
      rw [containsSecretValue_ofMappings, configMarks_set,
        ← marks_overwrite (htokenless value) rfl, List.any_eq_false]
      intro entry hentry
      rcases Dict.mem_entries_set hentry with rfl | hentry
      · rw [← anyEntry_obj_marks, decide_eq_false (hprovider _ (hchecked value hcheck)),
          Bool.false_or]
        exact Bool.eq_false_iff.mp hconfig
      · exact h entry hentry
  exact hsection _ _ _ _ (fun _ _ => List.mem_cons_self) tokenless_wakeConfig <|
    hsection _ _ _ _ (fun _ hvalue => List.mem_cons_of_mem _ (List.mem_append_left _
      (checked_of_validateSttSettings py hvalue).provider)) tokenless_sttConfig <|
      hsection _ _ _ _ (fun _ hvalue => List.mem_cons_of_mem _ (List.mem_append_right _
        (checked_of_validateTtsProviderSettings py hvalue).provider)) tokenless_ttsConfig h

end merged

/-! ### What an import saves -/

section saved

variable (py : Python) (floatOf : String → Option PyFloat) (pydantic : Pydantic)
  {ρ ι : Type} (registryModel : PydanticModel ρ) (intentModel : PydanticModel ι)

variable {r r' : NodeMigrationImportResponse} {request : NodeMigrationImportRequest}
variable {state : PersistedOnboardingState} {stateFiles : JsonObject}

/-- How often the onboarding state was saved. -/
def saves (stores : Stores ρ ι) : ℕ := stores.written.count "onboarding_state"

/-- There is a section under the key. -/
def present (stateFiles : JsonObject) (key : String) : Bool :=
  match item stateFiles key with
  | .null => false
  | _ => true

/-- The state into which the sections are merged. -/
def baseState (request : NodeMigrationImportRequest)
    (onboarding : StoreFile PersistedOnboardingState) (stateFiles : JsonObject) :
    Except MigrationError PersistedOnboardingState :=
  if present stateFiles "onboarding_state" then
    checkOnboardingState pydantic request (item stateFiles "onboarding_state")
  else onboarding.load {}

/-- The bundle has a section that is saved in the onboarding state. -/
def savesState (stateFiles : JsonObject) : Bool :=
  present stateFiles "onboarding_state" || present stateFiles "voice_tts_provider_settings" ||
    present stateFiles "voice_stt_settings" || present stateFiles "voice_wake_settings"

/-- The state is saved with its setup as `f` makes it of the one it is merged into, or nothing is
saved yet. -/
def Reached (onboarding : StoreFile PersistedOnboardingState) (n : ℕ)
    (base : Except MigrationError PersistedOnboardingState)
    (f : ProviderSetupState → ProviderSetupState) (saved : Bool) (stores : Stores ρ ι) : Prop :=
  if saved then
    ∃ s, base = .ok s ∧
      stores.onboardingState = .valid { s with providerSetup := f s.providerSetup } ∧
      n < saves stores
  else
    stores.onboardingState = onboarding ∧ saves stores = n ∧ base = onboarding.load {} ∧
      ∀ setup, f setup = setup

theorem bind_run_eq_ok {α β : Type} {c : StoresM ρ ι α} {f : α → StoresM ρ ι β}
    {s s'' : Stores ρ ι} {b : β} (h : (c >>= f) s = .ok b s'') :
    ∃ a s', c s = .ok a s' ∧ f a s' = .ok b s'' := by
  cases hc : c s with
  | ok a s' =>
    rw [bind_run_ok hc] at h
    exact ⟨a, s', rfl, h⟩
  | error e s' =>
    rw [bind_run_error hc] at h
    cases h

theorem mergeSetup_eq_ok {merge : ProviderSetupState → ProviderSetupState} {s s' : Stores ρ ι}
    (h : mergeSetup merge s = .ok state s') : ∃ current, s.onboardingState.load {} = .ok current ∧
      s'.onboardingState = .valid { current with providerSetup := merge current.providerSetup } ∧
      saves s' = saves s + 1 := by
  obtain ⟨onboarding, registry, intents, tts, written⟩ := s
  cases onboarding with
  | missing =>
    cases h
    exact ⟨_, rfl, rfl, List.count_append.trans (by rfl)⟩
  | valid current =>
    cases h
    exact ⟨_, rfl, rfl, List.count_append.trans (by rfl)⟩
  | invalid => cases h

theorem importSection_eq_ok
    {check : Json → Except MigrationError α}
    {save : α → NodeMigrationImportResponse → StoresM ρ ι NodeMigrationImportResponse}
    {s s' : Stores ρ ι} (h : importSection stateFiles key check save r s = .ok r' s') :
    present stateFiles key = false ∧ item stateFiles key = .null ∧ s' = s ∨
      present stateFiles key = true ∧ ∃ value, check (item stateFiles key) = .ok value ∧
        save value r s = .ok r' s' := by
  by_cases hnull : item stateFiles key = .null
  · simp only [importSection, hnull] at h
    cases h
    exact .inl ⟨by rw [present, hnull], hnull, rfl⟩
  · have hpresent : present stateFiles key = true := by
      unfold present
      cases hitem : item stateFiles key <;> first | rfl | exact absurd hitem hnull
    rw [importSection_of_ne_null hnull] at h
    refine .inr ⟨hpresent, ?_⟩
    cases hcheck : check (item stateFiles key) with
    | error e =>
      rw [hcheck] at h
      cases h
    | ok value =>
      rw [hcheck] at h
      exact ⟨value, rfl, h⟩

variable {onboarding : StoreFile PersistedOnboardingState} {n : ℕ}
  {base : Except MigrationError PersistedOnboardingState}
  {f : ProviderSetupState → ProviderSetupState} {saved : Bool}

/-- A file that is not the onboarding state's is saved. -/
theorem Reached.keep {s s' : Stores ρ ι} (h : Reached onboarding n base f saved s)
    (hstate : s'.onboardingState = s.onboardingState) (hsaves : saves s' = saves s) :
    Reached onboarding n base f saved s' := by
  unfold Reached at h ⊢
  rwa [hstate, hsaves]

theorem Reached.merge
    {check : Json → Except MigrationError α} (hcheck : ∀ value, check .null ≠ .ok value)
    {merge : ProviderSetupState → α → ProviderSetupState}
    {add : α → PersistedOnboardingState → NodeMigrationImportResponse →
      NodeMigrationImportResponse} {s s' : Stores ρ ι} (h : Reached onboarding n base f saved s)
    (hrun : importSection stateFiles key check (fun value r => do
      let state ← mergeSetup (merge · value)
      return add value state r) r s = .ok r' s') :
    Reached onboarding n base (mergeSection stateFiles key check merge ∘ f)
      (saved || present stateFiles key) s' := by
  rcases importSection_eq_ok hrun with ⟨habsent, hnull, rfl⟩ | ⟨hpresent, value, hvalue, hrun⟩
  · have hid (setup : ProviderSetupState) : mergeSection stateFiles key check merge setup = setup := by
      unfold mergeSection
      rw [hnull]
      cases hnone : check .null with
      | error e => rfl
      | ok value => exact absurd hnone (hcheck value)
    rw [habsent, Bool.or_false, show mergeSection stateFiles key check merge ∘ f = f from
      funext fun setup => hid (f setup)]
    exact h
  · have hmerge (setup : ProviderSetupState) :
        mergeSection stateFiles key check merge setup = merge setup value := by
      rw [mergeSection, hvalue]
    obtain ⟨state, s'', hmergeSetup, hreturn⟩ := bind_run_eq_ok hrun
    cases hreturn
    obtain ⟨current, hload, hstate, hsaves⟩ := mergeSetup_eq_ok hmergeSetup
    rw [hpresent, Bool.or_true]
    unfold Reached at h ⊢
    rw [if_pos rfl]
    cases saved with
    | true =>
      obtain ⟨b, hb, hs, hn⟩ := h
      rw [hs] at hload
      cases hload
      exact ⟨b, hb, by rw [hstate, Function.comp_apply, hmerge], by omega⟩
    | false =>
      obtain ⟨hs, hn, hbase, hid⟩ := h
      rw [hs] at hload
      exact ⟨current, hbase.trans hload, by rw [hstate, Function.comp_apply, hid, hmerge], by omega⟩

theorem mergeSetup_others {merge : ProviderSetupState → ProviderSetupState} {s s' : Stores ρ ι}
    (h : mergeSetup merge s = .ok state s') : s'.endpointRegistry = s.endpointRegistry ∧
      s'.voiceIntents = s.voiceIntents ∧ s'.ttsSettings = s.ttsSettings := by
  obtain ⟨onboarding, registry, intents, tts, written⟩ := s
  cases onboarding <;> cases h <;> exact ⟨rfl, rfl, rfl⟩

theorem importSection_others
    {check : Json → Except MigrationError α} {merge : ProviderSetupState → α → ProviderSetupState}
    {add : α → PersistedOnboardingState → NodeMigrationImportResponse →
      NodeMigrationImportResponse} {s s' : Stores ρ ι}
    (h : importSection stateFiles key check (fun value r => do
      let state ← mergeSetup (merge · value)
      return add value state r) r s = .ok r' s') : s'.endpointRegistry = s.endpointRegistry ∧
      s'.voiceIntents = s.voiceIntents ∧ s'.ttsSettings = s.ttsSettings := by
  rcases importSection_eq_ok h with ⟨-, -, rfl⟩ | ⟨-, value, -, hrun⟩
  · exact ⟨rfl, rfl, rfl⟩
  · obtain ⟨state, s₁, hmerge, hreturn⟩ := bind_run_eq_ok hrun
    cases hreturn
    exact mergeSetup_others hmerge

/-- What an accepted bundle leaves of the other files. -/
def OtherFiles (stateFiles : JsonObject) (s s' : Stores ρ ι) : Prop :=
  (s'.endpointRegistry = s.endpointRegistry ∨ ∃ registry, s'.endpointRegistry = .valid registry) ∧
    (s'.voiceIntents = s.voiceIntents ∨ ∃ intents, s'.voiceIntents = .valid intents) ∧
    (item stateFiles "voice_tts_settings" = .null ∧ s'.ttsSettings = s.ttsSettings ∨
      ∃ entries, item stateFiles "voice_tts_settings" = .obj entries ∧
        s'.ttsSettings = .valid (.obj entries))

/-- **What an accepted bundle leaves of the files.** -/
theorem reached_of_importStateFiles {s s' : Stores ρ ι}
    (h : importStateFiles py floatOf pydantic registryModel intentModel request s = .ok r s') :
    ∃ stateFiles, stateFilesOf request.bundle = .ok stateFiles ∧
      Reached s.onboardingState (saves s) (baseState pydantic request s.onboardingState stateFiles)
        (mergedSetup py floatOf stateFiles) (savesState stateFiles) s' ∧
      OtherFiles stateFiles s s' := by
  unfold importStateFiles at h
  obtain ⟨stateFiles, s₀, hfiles, hrun⟩ := bind_run_eq_ok h
  clear h
  have hstateFiles : stateFilesOf request.bundle = .ok stateFiles ∧ s₀ = s := by
    cases hresult : stateFilesOf request.bundle with
    | error e =>
      rw [hresult] at hfiles
      cases hfiles
    | ok files =>
      rw [hresult] at hfiles
      cases hfiles
      exact ⟨rfl, rfl⟩
  obtain ⟨hstateFiles, rfl⟩ := hstateFiles
  refine ⟨stateFiles, hstateFiles, ?_⟩
  obtain ⟨r₁, s₁, h₁, h⟩ := bind_run_eq_ok hrun
  clear hrun
  obtain ⟨r₂, s₂, h₂, h⟩ := bind_run_eq_ok h
  obtain ⟨r₃, s₃, h₃, h⟩ := bind_run_eq_ok h
  obtain ⟨r₄, s₄, h₄, h⟩ := bind_run_eq_ok h
  obtain ⟨r₅, s₅, h₅, h⟩ := bind_run_eq_ok h
  obtain ⟨r₆, s₆, h₆, h⟩ := bind_run_eq_ok h
  obtain ⟨r₇, s₇, h₇, h⟩ := bind_run_eq_ok h
  have hlast : s' = s₇ := by
    cases hconcluded : concluded r₇ with
    | error e =>
      rw [hconcluded] at h
      cases h
    | ok r =>
      rw [hconcluded] at h
      cases h
      rfl
  have hreached₁ : Reached s₀.onboardingState (saves s₀)
      (baseState pydantic request s₀.onboardingState stateFiles) id
      (present stateFiles "onboarding_state") s₁ := by
    unfold Reached baseState
    rcases importSection_eq_ok h₁ with ⟨habsent, -, rfl⟩ | ⟨hpresent, state, hstate, hsave⟩
    · simp [habsent]
    · rw [hpresent, if_pos rfl, if_pos rfl]
      cases hsave
      refine ⟨state, hstate, rfl, ?_⟩
      show List.count _ _ < List.count _ (_ ++ ["onboarding_state"])
      rw [List.count_append]
      exact Nat.lt_succ_self _
  have hreached₂ : Reached s₀.onboardingState (saves s₀)
      (baseState pydantic request s₀.onboardingState stateFiles) id
      (present stateFiles "onboarding_state") s₂ := by
    rcases importSection_eq_ok h₂ with ⟨-, -, rfl⟩ | ⟨-, registry, -, hsave⟩
    · exact hreached₁
    · cases hsave
      exact hreached₁.keep rfl List.count_append
  have hreached₃ : Reached s₀.onboardingState (saves s₀)
      (baseState pydantic request s₀.onboardingState stateFiles) id
      (present stateFiles "onboarding_state") s₃ := by
    rcases importSection_eq_ok h₃ with ⟨-, -, rfl⟩ | ⟨-, intents, -, hsave⟩
    · exact hreached₂
    · cases hsave
      exact hreached₂.keep rfl List.count_append
  have hreached₄ : Reached s₀.onboardingState (saves s₀)
      (baseState pydantic request s₀.onboardingState stateFiles) id
      (present stateFiles "onboarding_state") s₄ := by
    rcases importSection_eq_ok h₄ with ⟨-, -, rfl⟩ | ⟨-, entries, -, hsave⟩
    · exact hreached₃
    · cases hsave
      exact hreached₃.keep rfl List.count_append
  have hothers₁ : s₁.endpointRegistry = s₀.endpointRegistry ∧
      s₁.voiceIntents = s₀.voiceIntents ∧ s₁.ttsSettings = s₀.ttsSettings := by
    rcases importSection_eq_ok h₁ with ⟨-, -, rfl⟩ | ⟨-, state, -, hsave⟩
    · exact ⟨rfl, rfl, rfl⟩
    · cases hsave
      exact ⟨rfl, rfl, rfl⟩
  have hothers₂ : (s₂.endpointRegistry = s₀.endpointRegistry ∨
      ∃ registry, s₂.endpointRegistry = .valid registry) ∧
      s₂.voiceIntents = s₀.voiceIntents ∧ s₂.ttsSettings = s₀.ttsSettings := by
    rcases importSection_eq_ok h₂ with ⟨-, -, rfl⟩ | ⟨-, registry, -, hsave⟩
    · exact ⟨.inl hothers₁.1, hothers₁.2⟩
    · cases hsave
      exact ⟨.inr ⟨registry, rfl⟩, hothers₁.2⟩
  have hothers₃ : (s₃.endpointRegistry = s₀.endpointRegistry ∨
      ∃ registry, s₃.endpointRegistry = .valid registry) ∧
      (s₃.voiceIntents = s₀.voiceIntents ∨ ∃ intents, s₃.voiceIntents = .valid intents) ∧
      s₃.ttsSettings = s₀.ttsSettings := by
    rcases importSection_eq_ok h₃ with ⟨-, -, rfl⟩ | ⟨-, intents, -, hsave⟩
    · exact ⟨hothers₂.1, .inl hothers₂.2.1, hothers₂.2.2⟩
    · cases hsave
      exact ⟨hothers₂.1, .inr ⟨intents, rfl⟩, hothers₂.2.2⟩
  have hothers₄ : OtherFiles stateFiles s₀ s₄ := by
    rcases importSection_eq_ok h₄ with ⟨-, hnull, rfl⟩ | ⟨-, entries, hentries, hsave⟩
    · exact ⟨hothers₃.1, hothers₃.2.1, .inl ⟨hnull, hothers₃.2.2⟩⟩
    · cases hsave
      refine ⟨hothers₃.1, hothers₃.2.1, .inr ⟨entries, ?_, rfl⟩⟩
      cases hitem : item stateFiles "voice_tts_settings" with
      | obj payload =>
        rw [hitem] at hentries
        exact congrArg Json.obj (Except.ok.inj hentries)
      | _ =>
        rw [hitem] at hentries
        cases hentries
  obtain ⟨hregistry₅, hintents₅, htts₅⟩ := importSection_others h₅
  obtain ⟨hregistry₆, hintents₆, htts₆⟩ := importSection_others h₆
  obtain ⟨hregistry₇, hintents₇, htts₇⟩ := importSection_others h₇
  rw [hlast]
  refine ⟨((hreached₄.merge (by rintro _ ⟨⟩) h₅).merge (by rintro _ ⟨⟩) h₆).merge
    (by rintro _ ⟨⟩) h₇, ?_⟩
  unfold OtherFiles
  rw [hregistry₇, hregistry₆, hregistry₅, hintents₇, hintents₆, hintents₅, htts₇, htts₆, htts₅]
  exact hothers₄

/-- The state says that the node is not trusted. -/
def saysUntrusted (s : PersistedOnboardingState) : Bool :=
  s.trustActivation.trustStatus ≠ "trusted" && !s.operationalStatus.operationalReady

/-- The state says that the node is not trusted, and holds no token. -/
def mustReauthorize (s : PersistedOnboardingState) : Bool :=
  saysUntrusted s && !containsSecretValue (.obj s.modelDump)

/-- The state with these provider configurations. -/
def withConfigs (s : PersistedOnboardingState) (configs : Dict String JsonObject) :
    PersistedOnboardingState :=
  { s with providerSetup := { s.providerSetup with providerConfigs := configs } }

/-- What of the bundle, or of the node where the bundle has no state, has to be untrusted is. -/
def comesUntrusted (request : NodeMigrationImportRequest)
    (onboarding : StoreFile PersistedOnboardingState) : Bool :=
  match stateFilesOf request.bundle with
  | .error _ => true
  | .ok stateFiles =>
    if present stateFiles "onboarding_state" then
      match PersistedOnboardingState.modelValidate pydantic (item stateFiles "onboarding_state") with
      | some s => saysUntrusted s
      | none => true
    else if savesState stateFiles then
      match onboarding.load {} with
      | .ok s =>
        mustReauthorize (withConfigs s (overwritten py floatOf stateFiles
          s.providerSetup.providerConfigs))
      | .error _ => true
    else true

theorem stateFilesOf_eq_ok {bundle stateFiles : JsonObject} :
    stateFilesOf bundle = .ok stateFiles ↔ isOne (item bundle "schema_version") = true ∧
      item bundle "state_files" = .obj stateFiles ∧
      (item bundle "contains_trust_secrets").truthy = false ∧
      containsSecretValue (.obj stateFiles) = false := by
  unfold stateFilesOf rejectTrustSecrets
  cases hversion : isOne (item bundle "schema_version") with
  | false => simp [refuse, bind, Except.bind]
  | true =>
    cases hfiles : item bundle "state_files" with
    | obj files =>
      cases hflag : (item bundle "contains_trust_secrets").truthy with
      | true => simp [refuse, bind, Except.bind]
      | false =>
        cases hsecret : containsSecretValue (.obj files) with
        | true =>
          simp only [Bool.not_true, Bool.false_eq_true, if_false, hsecret, if_true]
          constructor
          · intro h
            cases h
          · rintro ⟨-, hobj, -, hnone⟩
            cases hobj
            rw [hsecret] at hnone
            cases hnone
        | false =>
          simp only [Bool.not_true, Bool.false_eq_true, if_false, hsecret]
          constructor
          · rintro ⟨⟩
            exact ⟨trivial, rfl, trivial, hsecret⟩
          · rintro ⟨-, hobj, -, -⟩
            cases hobj
            rfl
    | _ => simp [refuse]

theorem mustReauthorize_merged (state : PersistedOnboardingState) (stateFiles : JsonObject) :
    mustReauthorize { state with
      providerSetup := mergedSetup py floatOf stateFiles state.providerSetup } =
      mustReauthorize (withConfigs state
        (overwritten py floatOf stateFiles state.providerSetup.providerConfigs)) := by
  unfold mustReauthorize
  rw [containsSecretValue_modelDump, containsSecretValue_modelDump]
  simp only [holdsToken, freeForms, List.any_cons, containsSecretValue_ofMappings,
    configMarks_mergedSetup, withConfigs]
  rfl

theorem checkOnboardingState_eq_ok {payload : Json}
    (h : checkOnboardingState pydantic request payload = .ok state) :
    ∃ read, PersistedOnboardingState.modelValidate pydantic payload = some read ∧
      applyDestinationOverrides read request = state := by
  unfold checkOnboardingState at h
  cases hread : PersistedOnboardingState.modelValidate pydantic payload with
  | none =>
    rw [hread] at h
    cases h
  | some read =>
    rw [hread] at h
    cases h
    exact ⟨read, rfl, rfl⟩

theorem containsSecretValue_item
    (h : containsSecretValue (.obj stateFiles) = false) (key : String) :
    containsSecretValue (item stateFiles key) = false := by
  unfold item
  cases hget : stateFiles.get key with
  | none => rfl
  | some payload => exact (containsSecretValue_get h hget).2

theorem holdsToken_overwritten {read : PersistedOnboardingState} (h : holdsToken read = false)
    (request : NodeMigrationImportRequest) (stateFiles : JsonObject) :
    holdsToken (withConfigs (applyDestinationOverrides read request)
      (overwritten py floatOf stateFiles
        (applyDestinationOverrides read request).providerSetup.providerConfigs)) = false := by
  simp only [holdsToken, freeForms, List.any_cons, List.any_nil, Bool.or_eq_false_iff] at h ⊢
  obtain ⟨htokens, hsession, hpolicy, hprofile, hconfigs, hbundle⟩ := h
  exact ⟨htokens, hsession, hpolicy, hprofile,
    overwritten_of_tokenless py floatOf stateFiles hconfigs, hbundle⟩

/-- **What an import saves is untrusted exactly if what it takes the state from is.** -/
theorem mustReauthorize_iff {s s' : Stores ρ ι}
    (h : importStateFiles py floatOf pydantic registryModel intentModel request s = .ok r s') :
    (∀ state, saves s < saves s' → s'.onboardingState = .valid state →
      mustReauthorize state = true) ↔
      comesUntrusted py floatOf pydantic request s.onboardingState = true := by
  obtain ⟨stateFiles, hfiles, hreached, -⟩ :=
    reached_of_importStateFiles py floatOf pydantic registryModel intentModel h
  unfold comesUntrusted
  simp only [hfiles]
  unfold Reached at hreached
  cases hsaves : savesState stateFiles with
  | false =>
    rw [hsaves] at hreached
    obtain ⟨-, hn, -⟩ := hreached
    have habsent : present stateFiles "onboarding_state" = false := by
      simp only [savesState, Bool.or_eq_false_iff] at hsaves
      exact hsaves.1.1.1
    refine iff_of_true (fun state hlt => absurd hlt (by omega)) ?_
    simp [habsent]
  | true =>
    rw [hsaves, if_pos rfl] at hreached
    obtain ⟨state, hbase, hstate, hlt⟩ := hreached
    have hsaved : (∀ state, saves s < saves s' → s'.onboardingState = .valid state →
        mustReauthorize state = true) ↔ mustReauthorize (withConfigs state
          (overwritten py floatOf stateFiles state.providerSetup.providerConfigs)) = true := by
      rw [hstate, ← mustReauthorize_merged]
      exact ⟨fun h => h _ hlt rfl, fun h state _ hstate => StoreFile.valid.inj hstate ▸ h⟩
    rw [hsaved]
    unfold baseState at hbase
    cases hpresent : present stateFiles "onboarding_state" with
    | true =>
      rw [hpresent] at hbase
      simp only [if_true] at hbase ⊢
      obtain ⟨read, hread, rfl⟩ := checkOnboardingState_eq_ok pydantic hbase
      have hnone := holdsToken_of_modelValidate pydantic (containsSecretValue_item
        (stateFilesOf_eq_ok.mp hfiles).2.2.2 "onboarding_state") hread
      have hmerged := holdsToken_overwritten py floatOf hnone request stateFiles
      rw [hread, mustReauthorize, containsSecretValue_modelDump, hmerged, Bool.not_false,
        Bool.and_true]
      rfl
    | false =>
      rw [hpresent] at hbase
      simp only [Bool.false_eq_true, if_false] at hbase
      simp only [Bool.false_eq_true, if_false, if_true, hbase]

end saved

/-! ### What is exported -/

section exported

variable (py : Python) (floatOf : String → Option PyFloat) (pydantic : Pydantic)
  {ρ ι : Type} (registryModel : PydanticModel ρ) (intentModel : PydanticModel ι)

variable {setup : ProviderSetupState}
  (settings : Settings)

/-- There is a section for speech recognition. -/
def sttExported (setup : ProviderSetupState) : Bool :=
  let provider := strip settings.voiceSttProvider
  ¬(provider = "" ∨ provider = "deterministic" ∧ (configOf setup provider).entries = [])

/-- There is a section for speech output. -/
def ttsExported (setup : ProviderSetupState) : Bool :=
  let provider := strip settings.voiceTtsProvider
  ¬(provider = "" ∨ provider = "deterministic" ∧ (configOf setup provider).entries = [])

/-- There is a section for the wake word. -/
def wakeExported (setup : ProviderSetupState) : Bool :=
  let provider := strip settings.voiceWakeProvider
  ¬(provider = "" ∨ provider ∈ ["deterministic", "openwakeword"] ∧
    (configOf setup "wake").entries = [] ∧ normalizedWakeModels py settings.voiceWakeModels = [])

/-- The section for speech recognition can be made, if there is one. -/
def sttExports (setup : ProviderSetupState) : Bool :=
  let provider := strip settings.voiceSttProvider
  !sttExported settings setup || provider ∈ sttProviders &&
    (resolveSttModelProfile py settings (configOf setup provider)).toOption.isSome

/-- The section for speech output can be made, if there is one. -/
def ttsExports (setup : ProviderSetupState) : Bool :=
  !ttsExported settings setup || strip settings.voiceTtsProvider ∈ ttsProviders &&
    0 ≤ settings.voiceTtsOutputSampleRateHz

/-- The section for the wake word can be made, if there is one. -/
def wakeExports (setup : ProviderSetupState) : Bool :=
  !wakeExported py settings setup || strip settings.voiceWakeProvider ∈ wakeProviders &&
    !outsideUnit settings.voiceWakeThreshold && !settings.voiceWakeVadThreshold.any outsideUnit &&
    0 ≤ settings.voiceWakeBufferMs && 0 ≤ settings.voiceWakePredictionFrameMs

theorem sttSettingsPayload_cases (setup : ProviderSetupState) :
    sttExported settings setup = false ∧ sttExports py settings setup = true ∧
        sttSettingsPayload py settings setup = .ok none ∨
      sttExported settings setup = true ∧ sttExports py settings setup = true ∧
        (∃ profile, resolveSttModelProfile py settings
            (configOf setup (strip settings.voiceSttProvider)) = .ok profile ∧
          sttSettingsPayload py settings setup = .ok (some
            (sttSettingsOf py settings setup (strip settings.voiceSttProvider)
              (configOf setup (strip settings.voiceSttProvider)) profile))) ∨
      sttExports py settings setup = false ∧
        ∃ e, sttSettingsPayload py settings setup = .error e := by
  rw [sttSettingsPayload_eq py settings setup rfl rfl]
  unfold sttExports sttExported
  dsimp only
  generalize strip settings.voiceSttProvider = provider
  generalize configOf setup provider = config
  by_cases hnone : provider = "" ∨ provider = "deterministic" ∧ config.entries = []
  · rw [if_pos hnone, decide_eq_false (not_not.mpr hnone)]
    exact .inl ⟨rfl, rfl, rfl⟩
  · rw [if_neg hnone, decide_eq_true hnone]
    cases resolveSttModelProfile py settings config with
    | error e => exact .inr (.inr ⟨by simp [Except.toOption], _, rfl⟩)
    | ok profile =>
      by_cases hmem : provider ∈ sttProviders
      · simp only [except_ok_bind, if_pos hmem]
        exact .inr (.inl ⟨trivial, by simp [hmem, Except.toOption], profile, rfl, rfl⟩)
      · simp only [except_ok_bind, if_neg hmem]
        exact .inr (.inr ⟨by simp [hmem], _, rfl⟩)

theorem ttsProviderSettingsPayload_cases (setup : ProviderSetupState) (runtime : JsonObject) :
    ttsExported settings setup = false ∧ ttsExports settings setup = true ∧
        ttsProviderSettingsPayload py settings setup runtime = .ok none ∨
      ttsExported settings setup = true ∧ ttsExports settings setup = true ∧
        ttsProviderSettingsPayload py settings setup runtime = .ok (some
          (ttsProviderSettingsOf py settings setup (strip settings.voiceTtsProvider)
            (configOf setup (strip settings.voiceTtsProvider)) runtime)) ∨
      ttsExports settings setup = false ∧
        ∃ e, ttsProviderSettingsPayload py settings setup runtime = .error e := by
  rw [ttsProviderSettingsPayload_eq py settings setup runtime rfl rfl]
  unfold ttsExports ttsExported
  dsimp only
  generalize strip settings.voiceTtsProvider = provider
  generalize configOf setup provider = config
  by_cases hnone : provider = "" ∨ provider = "deterministic" ∧ config.entries = []
  · rw [if_pos hnone, decide_eq_false (not_not.mpr hnone)]
    exact .inl ⟨rfl, rfl, rfl⟩
  · rw [if_neg hnone, decide_eq_true hnone]
    by_cases hmem : provider ∈ ttsProviders
    · rw [if_neg (not_not.mpr hmem), decide_eq_true hmem]
      by_cases hrate : settings.voiceTtsOutputSampleRateHz < 0
      · rw [if_pos hrate]
        exact .inr (.inr ⟨by simp [hrate], _, rfl⟩)
      · rw [if_neg hrate]
        exact .inr (.inl ⟨rfl, by simp [Int.not_lt.mp hrate], rfl⟩)
    · rw [if_pos hmem, decide_eq_false hmem]
      exact .inr (.inr ⟨rfl, _, rfl⟩)

theorem wakeSettingsPayload_cases (setup : ProviderSetupState) :
    wakeExported py settings setup = false ∧ wakeExports py settings setup = true ∧
        wakeSettingsPayload py floatOf settings setup = .ok none ∨
      wakeExported py settings setup = true ∧ wakeExports py settings setup = true ∧
        wakeSettingsPayload py floatOf settings setup = .ok (some
          (wakeSettingsOf py settings setup (strip settings.voiceWakeProvider)
            (configOf setup "wake") (normalizedWakeModels py settings.voiceWakeModels))) ∨
      wakeExports py settings setup = false ∧
        ∃ e, wakeSettingsPayload py floatOf settings setup = .error e := by
  rw [wakeSettingsPayload_eq py floatOf settings setup rfl rfl rfl]
  unfold wakeExports wakeExported
  dsimp only
  generalize strip settings.voiceWakeProvider = provider
  generalize configOf setup "wake" = config
  generalize normalizedWakeModels py settings.voiceWakeModels = models
  by_cases hnone : provider = "" ∨
      provider ∈ ["deterministic", "openwakeword"] ∧ config.entries = [] ∧ models = []
  · rw [if_pos hnone, decide_eq_false (not_not.mpr hnone)]
    exact .inl ⟨rfl, rfl, rfl⟩
  · rw [if_neg hnone, decide_eq_true hnone]
    by_cases hmem : provider ∈ wakeProviders
    · rw [if_neg (not_not.mpr hmem), decide_eq_true hmem]
      cases outsideUnit settings.voiceWakeThreshold with
      | true => exact .inr (.inr ⟨by simp, _, rfl⟩)
      | false =>
        cases settings.voiceWakeVadThreshold.any outsideUnit with
        | true => exact .inr (.inr ⟨by simp, _, rfl⟩)
        | false =>
          by_cases hbuffer : settings.voiceWakeBufferMs < 0
          · rw [if_pos hbuffer]
            exact .inr (.inr ⟨by simp [Int.not_le.mpr hbuffer], _, rfl⟩)
          · rw [if_neg hbuffer]
            by_cases hframe : settings.voiceWakePredictionFrameMs < 0
            · rw [if_pos hframe]
              exact .inr (.inr ⟨by simp [hframe], _, rfl⟩)
            · rw [if_neg hframe]
              exact .inr (.inl ⟨rfl, by simp [Int.not_lt.mp hbuffer, Int.not_lt.mp hframe],
                rfl⟩)
    · rw [if_pos hmem, decide_eq_false hmem]
      exact .inr (.inr ⟨rfl, _, rfl⟩)

/-! #### Tokens in what is exported -/

theorem containsSecretValue_append (entries entries' : List (String × Json)) :
    containsSecretValue (.obj ⟨entries ++ entries'⟩) =
      (containsSecretValue (.obj ⟨entries⟩) || containsSecretValue (.obj ⟨entries'⟩)) := by
  simp only [containsSecretValue, anyEntry_obj, List.any_append]

theorem containsSecretValue_of_tokenless {entries : List (String × Json)} (h : Tokenless entries) :
    containsSecretValue (.obj ⟨entries⟩) = false := by
  rw [containsSecretValue, anyEntry_obj, List.any_eq_false]
  exact fun entry hentry => Bool.eq_false_iff.mp (h entry hentry)

theorem containsSecretValue_entryOf (hkey : key ∉ trustSecretFields)
    (toJson : α → Json) (value : Option α) :
    containsSecretValue (.obj ⟨entryOf key toJson value⟩) =
      value.any fun value => containsSecretValue (toJson value) := by
  cases value with
  | none => rfl
  | some value =>
    show containsSecretValue (.obj ⟨[(key, toJson value)]⟩) = _
    rw [containsSecretValue_obj fun entry hentry => List.mem_singleton.mp hentry ▸ hkey]
    exact Bool.or_false _

theorem tokenless_cons {value : Json} {entries : List (String × Json)}
    (hkey : key ∉ trustSecretFields) (hvalue : containsSecretValue value = false)
    (h : Tokenless entries) : Tokenless ((key, value) :: entries) := by
  refine List.forall_mem_cons.mpr ⟨?_, h⟩
  rw [isSecret_of_not_mem hkey, hvalue]
  rfl

theorem containsSecretValue_sttToJson (s : SttSettings) : containsSecretValue (.obj s.toJson) =
    (containsSecretValue (.obj s.service) || containsSecretValue (.obj s.fasterWhisper)) := by
  rw [SttSettings.toJson, ← List.cons_append, containsSecretValue_append,
    containsSecretValue_of_tokenless, containsSecretValue_obj (by simp [trustSecretFields])]
  · simp [containsSecretValue]
  · refine tokenless_cons (by decide) rfl ?_
    repeat refine tokenless_append ?_ ?_
    all_goals exact tokenless_entryOf (by decide) (fun _ => rfl) _

theorem containsSecretValue_ttsToJson (s : TtsProviderSettings) :
    containsSecretValue (.obj s.toJson) =
      (containsSecretValue (.obj s.endpointVoices) ||
        containsSecretValue (.obj s.endpointSampleRates) ||
        containsSecretValue (.obj s.conversionSampleRates) || containsSecretValue (.obj s.piper)) := by
  rw [TtsProviderSettings.toJson, ← List.cons_append, containsSecretValue_append,
    containsSecretValue_of_tokenless, containsSecretValue_obj (by simp [trustSecretFields])]
  · simp [containsSecretValue, Bool.or_assoc]
  · refine tokenless_cons (by decide) rfl ?_
    repeat refine tokenless_append ?_ ?_
    all_goals exact tokenless_entryOf (by decide) (fun _ => rfl) _

theorem containsSecretValue_wakeToJson (s : WakeSettings) : containsSecretValue (.obj s.toJson) =
    (containsSecretValue (.obj s.service) || containsSecretValue (.obj s.recordings)) := by
  rw [WakeSettings.toJson, ← List.cons_append, containsSecretValue_append,
    containsSecretValue_of_tokenless, containsSecretValue_obj (by simp [trustSecretFields])]
  · simp [containsSecretValue]
  · refine tokenless_cons (by decide) rfl ?_
    repeat refine tokenless_append ?_ ?_
    all_goals exact tokenless_entryOf (by decide) (fun _ => rfl) _

theorem containsSecretValue_sttService : containsSecretValue (.obj (sttService settings)) = false := by
  simp [sttService, containsSecretValue, anyEntry_obj, isSecret_of_not_mem, trustSecretFields]

theorem containsSecretValue_fasterWhisper (profile : SttModelProfile) :
    containsSecretValue (.obj (fasterWhisper settings profile)) = false := by
  have hinitial : anyEntry isSecret ((profile.maxInitialTimestamp.map Json.float).getD .null) =
      false := by
    cases profile.maxInitialTimestamp <;> rfl
  simp [fasterWhisper, containsSecretValue, anyEntry_obj, isSecret_of_not_mem, trustSecretFields,
    hinitial]

theorem containsSecretValue_piper : containsSecretValue (.obj (piper settings)) = false := by
  simp [piper, containsSecretValue, anyEntry_obj, isSecret_of_not_mem, trustSecretFields]

theorem containsSecretValue_wakeService : containsSecretValue (.obj (wakeService settings)) = false := by
  simp [wakeService, containsSecretValue, anyEntry_obj, isSecret_of_not_mem, trustSecretFields]

theorem containsSecretValue_wakeRecordings :
    containsSecretValue (.obj (wakeRecordings settings)) = false := by
  simp [wakeRecordings, containsSecretValue, anyEntry_obj, isSecret_of_not_mem, trustSecretFields]

theorem holdsToken_redacted (s : PersistedOnboardingState) :
    holdsToken (redacted s) = (freeForms (redacted s)).any containsSecretValue := by
  unfold holdsToken
  cases hnode : hasNode s <;> simp [redacted, hnode, reauthRequired, withoutTokens, kept]

/-- What the `state_files` of a bundle hold of the tokens. -/
theorem containsSecretValue_exportedStateFiles (state : PersistedOnboardingState) (registry : ρ)
    (intents : Option ι) (ttsSettings : Option JsonObject) (tts : Option TtsProviderSettings)
    (stt : Option SttSettings) (wake : Option WakeSettings) :
    containsSecretValue (.obj (exportedStateFiles registryModel intentModel state registry intents
      ttsSettings tts stt wake)) =
      ((freeForms (redacted state)).any containsSecretValue ||
        containsSecretValue (registryModel.modelDump registry) ||
        intents.any (fun intents => containsSecretValue (intentModel.modelDump intents)) ||
        ttsSettings.any (fun entries => containsSecretValue (.obj entries)) ||
        tts.any (fun tts => containsSecretValue (.obj tts.toJson)) ||
        stt.any (fun stt => containsSecretValue (.obj stt.toJson)) ||
        wake.any (fun wake => containsSecretValue (.obj wake.toJson))) := by
  unfold exportedStateFiles
  simp only [containsSecretValue_append,
    containsSecretValue_entryOf (show "voice_intents" ∉ trustSecretFields by decide),
    containsSecretValue_entryOf (show "voice_tts_settings" ∉ trustSecretFields by decide),
    containsSecretValue_entryOf (show "voice_tts_provider_settings" ∉ trustSecretFields by decide),
    containsSecretValue_entryOf (show "voice_stt_settings" ∉ trustSecretFields by decide),
    containsSecretValue_entryOf (show "voice_wake_settings" ∉ trustSecretFields by decide)]
  rw [containsSecretValue_obj (by simp [trustSecretFields]), redactTrustSecrets_modelDump,
    List.map_cons, List.any_cons, containsSecretValue_modelDump, holdsToken_redacted]
  simp [Bool.or_assoc]

theorem containsSecretValue_exportedBundle (exportedAt : String) (nodeId : Option String)
    (stateFiles : JsonObject) :
    containsSecretValue (.obj (exportedBundle settings exportedAt nodeId stateFiles)) =
      containsSecretValue (.obj stateFiles) := by
  rw [exportedBundle, containsSecretValue_obj (by simp [trustSecretFields])]
  simp [containsSecretValue, anyEntry_obj, isSecret_of_not_mem, trustSecretFields]

theorem sttSettingsPayload_ok (setup : ProviderSetupState) : sttExports py settings setup = true ↔
    ∃ stt, sttSettingsPayload py settings setup = .ok stt := by
  rcases sttSettingsPayload_cases py settings setup with ⟨-, hexports, hnone⟩ |
    ⟨-, hexports, profile, -, hsome⟩ | ⟨hexports, e, herror⟩
  · exact iff_of_true hexports ⟨_, hnone⟩
  · exact iff_of_true hexports ⟨_, hsome⟩
  · exact iff_of_false (by simp [hexports]) (by simp [herror])

theorem sttSettingsPayload_tokenless {stt : Option SttSettings}
    (h : sttSettingsPayload py settings setup = .ok stt) :
    stt.any (fun stt => containsSecretValue (.obj stt.toJson)) = false := by
  rcases sttSettingsPayload_cases py settings setup with ⟨-, -, hnone⟩ |
    ⟨-, -, profile, -, hsome⟩ | ⟨-, e, herror⟩
  · rw [hnone] at h
    cases h
    rfl
  · rw [hsome] at h
    cases h
    rw [Option.any_some, containsSecretValue_sttToJson]
    show (containsSecretValue (.obj (sttService settings)) ||
      containsSecretValue (.obj (fasterWhisper settings profile))) = false
    rw [containsSecretValue_sttService, containsSecretValue_fasterWhisper]
    rfl
  · rw [herror] at h
    cases h

theorem ttsProviderSettingsPayload_ok (setup : ProviderSetupState) (runtime : JsonObject) :
    ttsExports settings setup = true ↔
      ∃ tts, ttsProviderSettingsPayload py settings setup runtime = .ok tts := by
  rcases ttsProviderSettingsPayload_cases py settings setup runtime with ⟨-, hexports, hnone⟩ |
    ⟨-, hexports, hsome⟩ | ⟨hexports, e, herror⟩
  · exact iff_of_true hexports ⟨_, hnone⟩
  · exact iff_of_true hexports ⟨_, hsome⟩
  · exact iff_of_false (by simp [hexports]) (by simp [herror])

theorem ttsProviderSettingsPayload_tokens {runtime : JsonObject} {tts : Option TtsProviderSettings}
    (h : ttsProviderSettingsPayload py settings setup runtime = .ok tts) :
    tts.any (fun tts => containsSecretValue (.obj tts.toJson)) = (ttsExported settings setup &&
      (containsSecretValue (.obj (settings.resolvedVoiceTtsEndpointVoices runtime)) ||
        containsSecretValue (.obj settings.resolvedVoiceTtsEndpointSampleRates) ||
        containsSecretValue (.obj settings.parsedVoiceTtsConversionSampleRates))) := by
  rcases ttsProviderSettingsPayload_cases py settings setup runtime with ⟨hexported, -, hnone⟩ |
    ⟨hexported, -, hsome⟩ | ⟨-, e, herror⟩
  · rw [hnone] at h
    cases h
    rw [hexported]
    rfl
  · rw [hsome] at h
    cases h
    rw [Option.any_some, containsSecretValue_ttsToJson, hexported, Bool.true_and]
    show (_ || _ || _ || containsSecretValue (.obj (piper settings))) = _
    rw [containsSecretValue_piper, Bool.or_false]
    rfl
  · rw [herror] at h
    cases h

theorem wakeSettingsPayload_ok (setup : ProviderSetupState) :
    wakeExports py settings setup = true ↔
      ∃ wake, wakeSettingsPayload py floatOf settings setup = .ok wake := by
  rcases wakeSettingsPayload_cases py floatOf settings setup with ⟨-, hexports, hnone⟩ |
    ⟨-, hexports, hsome⟩ | ⟨hexports, e, herror⟩
  · exact iff_of_true hexports ⟨_, hnone⟩
  · exact iff_of_true hexports ⟨_, hsome⟩
  · exact iff_of_false (by simp [hexports]) (by simp [herror])

theorem wakeSettingsPayload_tokenless {wake : Option WakeSettings}
    (h : wakeSettingsPayload py floatOf settings setup = .ok wake) :
    wake.any (fun wake => containsSecretValue (.obj wake.toJson)) = false := by
  rcases wakeSettingsPayload_cases py floatOf settings setup with ⟨-, -, hnone⟩ |
    ⟨-, -, hsome⟩ | ⟨-, e, herror⟩
  · rw [hnone] at h
    cases h
    rfl
  · rw [hsome] at h
    cases h
    rw [Option.any_some, containsSecretValue_wakeToJson]
    show (containsSecretValue (.obj (wakeService settings)) ||
      containsSecretValue (.obj (wakeRecordings settings))) = false
    rw [containsSecretValue_wakeService, containsSecretValue_wakeRecordings]
    rfl
  · rw [herror] at h
    cases h

/-- What the source has for a bundle without tokens. -/
def exportsClean (stores : Stores ρ ι) : Bool :=
  match stores.onboardingState.load {}, stores.endpointRegistry.load registryModel.default,
    readVoiceIntents stores.voiceIntents, readTtsSettings settings stores.ttsSettings with
  | .ok state, .ok registry, .ok intents, .ok ttsSettings =>
    let runtime := runtimeConfig stores.ttsSettings
    ttsExports settings state.providerSetup && sttExports py settings state.providerSetup &&
      wakeExports py settings state.providerSetup &&
      !(freeForms (redacted state)).any containsSecretValue &&
      !containsSecretValue (registryModel.modelDump registry) &&
      !intents.any (fun intents => containsSecretValue (intentModel.modelDump intents)) &&
      !ttsSettings.any (fun entries => containsSecretValue (.obj entries)) &&
      !(ttsExported settings state.providerSetup &&
        (containsSecretValue (.obj (settings.resolvedVoiceTtsEndpointVoices runtime)) ||
          containsSecretValue (.obj settings.resolvedVoiceTtsEndpointSampleRates) ||
          containsSecretValue (.obj settings.parsedVoiceTtsConversionSampleRates)))
  | _, _, _, _ => false

theorem exportBundle_eq_ok {stores : Stores ρ ι} {exportedAt : String} {bundle : JsonObject} :
    exportBundle py floatOf registryModel intentModel settings false exportedAt stores =
      .ok bundle ↔ ∃ state registry intents ttsSettings tts stt wake,
        stores.onboardingState.load {} = .ok state ∧
        stores.endpointRegistry.load registryModel.default = .ok registry ∧
        readVoiceIntents stores.voiceIntents = .ok intents ∧
        readTtsSettings settings stores.ttsSettings = .ok ttsSettings ∧
        ttsProviderSettingsPayload py settings state.providerSetup
          (runtimeConfig stores.ttsSettings) = .ok tts ∧
        sttSettingsPayload py settings state.providerSetup = .ok stt ∧
        wakeSettingsPayload py floatOf settings state.providerSetup = .ok wake ∧
        bundle = exportedBundle settings exportedAt state.trustActivation.nodeId
          (exportedStateFiles registryModel intentModel state registry intents ttsSettings tts stt
            wake) := by
  unfold exportBundle
  simp only [Bool.false_eq_true, if_false, except_bind_eq_ok]
  constructor
  · rintro ⟨state, hstate, registry, hregistry, intents, hintents, ttsSettings, hsettings, tts,
      htts, stt, hstt, wake, hwake, hbundle⟩
    cases hbundle
    exact ⟨state, registry, intents, ttsSettings, tts, stt, wake, hstate, hregistry, hintents,
      hsettings, htts, hstt, hwake, rfl⟩
  · rintro ⟨state, registry, intents, ttsSettings, tts, stt, wake, hstate, hregistry, hintents,
      hsettings, htts, hstt, hwake, rfl⟩
    exact ⟨state, hstate, registry, hregistry, intents, hintents, ttsSettings, hsettings, tts,
      htts, stt, hstt, wake, hwake, rfl⟩

/-- **A bundle without tokens is exported exactly if the source has what it takes.** -/
theorem exports_iff (stores : Stores ρ ι) (exportedAt : String) :
    (∃ bundle, exportBundle py floatOf registryModel intentModel settings false exportedAt stores =
      .ok bundle ∧ containsSecretValue (.obj bundle) = false) ↔
      exportsClean py registryModel intentModel settings stores = true := by
  have hiff {state : PersistedOnboardingState}
      (registry : ρ) (intents : Option ι) (ttsSettings : Option JsonObject) :
      (∃ tts stt wake, ttsProviderSettingsPayload py settings state.providerSetup
          (runtimeConfig stores.ttsSettings) = .ok tts ∧
        sttSettingsPayload py settings state.providerSetup = .ok stt ∧
        wakeSettingsPayload py floatOf settings state.providerSetup = .ok wake ∧
        containsSecretValue (.obj (exportedStateFiles registryModel intentModel state registry
          intents ttsSettings tts stt wake)) = false) ↔
      (ttsExports settings state.providerSetup && sttExports py settings state.providerSetup &&
        wakeExports py settings state.providerSetup &&
        !(freeForms (redacted state)).any containsSecretValue &&
        !containsSecretValue (registryModel.modelDump registry) &&
        !intents.any (fun intents => containsSecretValue (intentModel.modelDump intents)) &&
        !ttsSettings.any (fun entries => containsSecretValue (.obj entries)) &&
        !(ttsExported settings state.providerSetup &&
          (containsSecretValue (.obj (settings.resolvedVoiceTtsEndpointVoices
            (runtimeConfig stores.ttsSettings))) ||
            containsSecretValue (.obj settings.resolvedVoiceTtsEndpointSampleRates) ||
            containsSecretValue (.obj settings.parsedVoiceTtsConversionSampleRates)))) = true := by
    simp only [containsSecretValue_exportedStateFiles, Bool.and_eq_true, Bool.not_eq_true',
      Bool.or_eq_false_iff]
    rw [ttsProviderSettingsPayload_ok py settings state.providerSetup
      (runtimeConfig stores.ttsSettings), sttSettingsPayload_ok, wakeSettingsPayload_ok py floatOf]
    constructor
    · rintro ⟨tts, stt, wake, htts, hstt, hwake, ⟨⟨⟨⟨⟨hstate, hregistry⟩, hintents⟩, hsettings⟩,
        hvoices⟩, -⟩, -⟩
      rw [ttsProviderSettingsPayload_tokens py settings htts] at hvoices
      exact ⟨⟨⟨⟨⟨⟨⟨⟨tts, htts⟩, stt, hstt⟩, wake, hwake⟩, hstate⟩, hregistry⟩, hintents⟩, hsettings⟩,
        hvoices⟩
    · rintro ⟨⟨⟨⟨⟨⟨⟨⟨tts, htts⟩, stt, hstt⟩, wake, hwake⟩, hstate⟩, hregistry⟩, hintents⟩, hsettings⟩,
        hvoices⟩
      rw [← ttsProviderSettingsPayload_tokens py settings htts] at hvoices
      exact ⟨tts, stt, wake, htts, hstt, hwake, ⟨⟨⟨⟨⟨hstate, hregistry⟩, hintents⟩, hsettings⟩,
        hvoices⟩, sttSettingsPayload_tokenless py settings hstt⟩,
        wakeSettingsPayload_tokenless py floatOf settings hwake⟩
  unfold exportsClean
  simp only [exportBundle_eq_ok]
  cases hstate : stores.onboardingState.load {} with
  | error e => simp
  | ok state =>
    cases hregistry : stores.endpointRegistry.load registryModel.default with
    | error e => simp
    | ok registry =>
      cases hintents : readVoiceIntents stores.voiceIntents with
      | error e => simp
      | ok intents =>
        cases hsettings : readTtsSettings settings stores.ttsSettings with
        | error e => simp
        | ok ttsSettings =>
          dsimp only
          rw [← hiff]
          constructor
          · rintro ⟨bundle, ⟨_, _, _, _, tts, stt, wake, hstate', hregistry', hintents', hsettings',
              htts, hstt, hwake, rfl⟩, hclean⟩
            cases hstate'
            cases hregistry'
            cases hintents'
            cases hsettings'
            rw [containsSecretValue_exportedBundle] at hclean
            exact ⟨tts, stt, wake, htts, hstt, hwake, hclean⟩
          · rintro ⟨tts, stt, wake, htts, hstt, hwake, hclean⟩
            exact ⟨_, ⟨_, _, _, _, tts, stt, wake, rfl, rfl, rfl, rfl, htts, hstt, hwake, rfl⟩,
              (containsSecretValue_exportedBundle settings exportedAt _ _).trans hclean⟩

theorem get_exportedStateFiles (state : PersistedOnboardingState) (registry : ρ)
    (intents : Option ι) (ttsSettings : Option JsonObject) (tts : Option TtsProviderSettings)
    (stt : Option SttSettings) (wake : Option WakeSettings) (key : String) :
    (exportedStateFiles registryModel intentModel state registry intents ttsSettings tts stt
      wake).get key =
      if key = "onboarding_state" then some (.obj (redacted state).modelDump)
      else if key = "endpoint_registry" then some (registryModel.modelDump registry)
      else if key = "voice_intents" then intents.map intentModel.modelDump
      else if key = "voice_tts_settings" then ttsSettings.map .obj
      else if key = "voice_tts_provider_settings" then tts.map fun tts => .obj tts.toJson
      else if key = "voice_stt_settings" then stt.map fun stt => .obj stt.toJson
      else if key = "voice_wake_settings" then wake.map fun wake => .obj wake.toJson
      else none := by
  have hlast : ∀ wake : Option WakeSettings,
      (⟨entryOf "voice_wake_settings" (fun wake => .obj wake.toJson) wake⟩ : JsonObject).get key =
        if key = "voice_wake_settings" then wake.map fun wake => .obj wake.toJson else none := by
    intro wake
    rw [← List.append_nil (entryOf _ _ _), get_entryOf_append, get_nil, Option.or_none]
  rw [exportedStateFiles, redactTrustSecrets_modelDump]
  simp only [List.append_assoc, List.cons_append, List.nil_append, get_cons, get_entryOf_append,
    hlast]
  repeat refine ite_congr rfl (fun hkey => by subst hkey; simp) fun _ => ?_
  rfl

/-- **A bundle without tokens is imported into every node.** -/
theorem exported_is_accepted
    (hregistry : ∀ registry, (registryModel.modelValidate (registryModel.modelDump registry)).isSome)
    (hintents : ∀ intents, (intentModel.modelValidate (intentModel.modelDump intents)).isSome)
    {stores : Stores ρ ι} {exportedAt : String} {bundle : JsonObject}
    (h : exportBundle py floatOf registryModel intentModel settings false exportedAt stores =
      .ok bundle) (hclean : containsSecretValue (.obj bundle) = false) (destination : Stores ρ ι) :
    ∃ r after, importBundle py floatOf pydantic registryModel intentModel { bundle } destination =
      .ok r after := by
  obtain ⟨state, registry, intents, ttsSettings, tts, stt, wake, -, -, -, -, htts, hstt, hwake,
    rfl⟩ := (exportBundle_eq_ok py floatOf registryModel intentModel settings).mp h
  rw [containsSecretValue_exportedBundle] at hclean
  have hget := get_exportedStateFiles registryModel intentModel state registry intents ttsSettings
    tts stt wake
  generalize exportedStateFiles registryModel intentModel state registry intents ttsSettings tts
    stt wake = stateFiles at hclean hget
  have hitem (key : String) : item stateFiles key = (stateFiles.get key).getD .null := rfl
  have hfiles : stateFilesOf (exportedBundle settings exportedAt state.trustActivation.nodeId
      stateFiles) = .ok stateFiles := stateFilesOf_eq_ok.mpr ⟨rfl, rfl, rfl, hclean⟩
  have hstate : sectionOutcome stateFiles "onboarding_state" (checkOnboardingState pydantic
      { bundle := exportedBundle settings exportedAt state.trustActivation.nodeId stateFiles })
      true = .saved := by
    have hpayload : item stateFiles "onboarding_state" = .obj (redacted state).modelDump := by
      rw [hitem, hget]
      rfl
    have hcheck (request : NodeMigrationImportRequest) : ∃ value,
        checkOnboardingState pydantic request (item stateFiles "onboarding_state") = .ok value := by
      refine ⟨applyDestinationOverrides (redacted state) request, ?_⟩
      rw [hpayload, checkOnboardingState, PersistedOnboardingState.modelValidate_modelDump]
      rfl
    exact sectionOutcome_saved (by rw [hpayload]; rintro ⟨⟩) (hcheck _)
  refine importStateFiles_accepts py floatOf pydantic registryModel intentModel hfiles destination
    hstate ?_
  have hoptional {α β : Type} (key : String) (check : Json → Except MigrationError α)
      (toJson : β → Json) (value : Option β) (hkey : stateFiles.get key = value.map toJson)
      (hcheck : ∀ b ∈ value, ∃ a, check (toJson b) = .ok a) :
      item stateFiles key = .null ∨ ∃ a, check (item stateFiles key) = .ok a := by
    rw [hitem, hkey]
    cases value with
    | none => exact .inl rfl
    | some b => exact .inr (hcheck b rfl)
  have hvalidated {α : Type} {value : Option α} (h : value.isSome) :
      ∃ a, validated value = .ok a := by
    obtain ⟨a, rfl⟩ := Option.isSome_iff_exists.mp h
    exact ⟨a, rfl⟩
  unfold sectionOutcomes
  dsimp only
  rw [hstate]
  simp only [List.mem_cons, List.not_mem_nil, or_false, not_or]
  refine ⟨(by rintro ⟨⟩),
    (sectionOutcome_ne_refused rfl (hoptional "endpoint_registry" _ registryModel.modelDump
      (some registry) (hget _) ?_)).symm,
    (sectionOutcome_ne_refused rfl (hoptional "voice_intents" _ intentModel.modelDump intents
      (hget _) ?_)).symm,
    (sectionOutcome_ne_refused rfl (hoptional "voice_tts_settings" _ .obj ttsSettings
      (hget _) ?_)).symm,
    (sectionOutcome_ne_refused rfl (hoptional "voice_tts_provider_settings" _
      (fun tts => .obj tts.toJson) tts (hget _) ?_)).symm,
    (sectionOutcome_ne_refused rfl (hoptional "voice_stt_settings" _
      (fun stt => .obj stt.toJson) stt (hget _) ?_)).symm,
    (sectionOutcome_ne_refused rfl (hoptional "voice_wake_settings" _
      (fun wake => .obj wake.toJson) wake (hget _) ?_)).symm⟩
  · exact fun registry _ => hvalidated (hregistry registry)
  · exact fun intents _ => hvalidated (hintents intents)
  · exact fun entries _ => ⟨entries, rfl⟩
  · rintro tts rfl
    exact ⟨tts, validateTtsProviderSettings_toJson py
      (checked_of_ttsProviderSettingsPayload py htts)⟩
  · rintro stt rfl
    exact ⟨stt, validateSttSettings_toJson py (checked_of_sttSettingsPayload py hstt)⟩
  · rintro wake rfl
    exact ⟨wake, validateWakeSettings_toJson py floatOf
      (checked_of_wakeSettingsPayload py floatOf hwake)⟩

end exported

/-! ### Migration and trust -/

section trust

variable (py : Python) (floatOf : String → Option PyFloat) (pydantic : Pydantic)
  {ρ ι : Type} (registryModel : PydanticModel ρ) (intentModel : PydanticModel ι)

/-- What `restore_backup` restores `import_bundle` imports. -/
theorem importStateFiles_of_restoreBackup {request : NodeMigrationImportRequest}
    (hrequest : request.dryRun = false) {backupId : String} {s s' : Stores ρ ι}
    (h : restoreBackup py floatOf pydantic registryModel intentModel request backupId s = .ok r s') :
    ∃ r', importStateFiles py floatOf pydantic registryModel intentModel request s = .ok r' s' := by
  unfold restoreBackup at h
  simp only [hrequest, Bool.not_false, if_true] at h
  obtain ⟨plan, s₁, hplan, hrun⟩ := bind_run_eq_ok h
  clear h
  obtain ⟨r', s₂, himport, hreturn⟩ := bind_run_eq_ok hrun
  have hsame : s₁ = s := by
    unfold importBundle at hplan
    simp only [if_true] at hplan
    generalize dryRunImportPlan py floatOf pydantic registryModel intentModel
      { request with dryRun := true } = result at hplan
    cases result with
    | error e => cases hplan
    | ok plan =>
      cases hplan
      rfl
  cases hreturn
  rw [importBundle, if_neg (by simp [hrequest]), hsame] at himport
  exact ⟨r', himport⟩

end trust

/-! ### A trusted kitchen -/

section kitchen

def plainPydantic : Pydantic := ⟨fun _ => none, fun _ => none⟩

/-- A model whose values are objects. -/
def anyObject : PydanticModel JsonObject := ⟨.empty, mapping, .obj⟩

/-- Settings without speech services. -/
def kitchenSettings : Settings where
  nodeName := "kitchen"
  nodeType := "voice"
  voiceSttContainerName := "stt"
  voiceSttControlScript := "stt.sh"
  voiceSttFasterWhisperComputeType := "int8"
  voiceSttFasterWhisperBeamSize := none
  voiceSttFasterWhisperBestOf := none
  voiceSttFasterWhisperWithoutTimestamps := true
  voiceSttFasterWhisperWordTimestamps := false
  voiceSttFasterWhisperMaxInitialTimestamp := none
  voiceWakeThreshold := .finite (1 / 2)
  voiceWakeServiceTimeoutS := .finite 3
  resolvedPiperTtsModelDir := "models"
  resolvedVoiceTtsEndpointVoices := fun _ => .empty
  resolvedVoiceTtsEndpointSampleRates := .empty
  parsedVoiceTtsConversionSampleRates := .empty
  resolvedVoiceTtsConversionPolicy := fun _ => ""

/-- A bundle that says that the node is trusted. -/
def trustedBundle : NodeMigrationImportRequest where
  bundle := ⟨[("schema_version", .int 1), ("state_files",
    .obj ⟨[("onboarding_state", .obj ⟨[("trust_activation",
      .obj ⟨[("trust_status", .str "trusted")]⟩)]⟩)]⟩)]⟩

/-- A bundle with an onboarding state that says nothing. -/
def emptyStateBundle : NodeMigrationImportRequest where
  bundle := ⟨[("schema_version", .int 1), ("state_files",
    .obj ⟨[("onboarding_state", .obj .empty)]⟩)]⟩

/-- A node whose governance bundle names a token. -/
def governedNode : Stores JsonObject JsonObject where
  onboardingState := .valid
    { governanceSync := { governanceBundle := some ⟨[("node_trust_token", .str "secret")]⟩ } }

end kitchen

end HexeVoice.Migration
