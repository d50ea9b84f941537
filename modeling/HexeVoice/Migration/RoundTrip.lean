import HexeVoice.Migration.TrustSecrets

/-!
# Migrating twice

## What is proved

**`migrating_twice`**: a node that is imported into an empty one with the same settings and exported
again gives the same provider sections exactly if the import has no fallback of its own to take: no
empty list of warm wake models stands beside models, no `null` for `warm_model` beside a preload,
and a provider for both speech recognition and speech output has one model for both. The enabled
providers and the default one are always kept.
-/

namespace HexeVoice.Migration

open HexeVoice.Library HexeVoice.Onboarding Json

variable {config : JsonObject} {key : String} {profile : SttModelProfile}

/-! ### Merged configurations -/

section configs

variable (config : JsonObject) (key : String)

theorem mergeConfig_append (entries entries' : List (String × Json)) :
    mergeConfig config (entries ++ entries') = mergeConfig (mergeConfig config entries) entries' :=
  List.foldl_append

theorem get_mergeConfig_entryOf {α : Type} (k : String) (toJson : α → Json) (value : Option α) :
    (mergeConfig config (entryOf k toJson value)).get key =
      if key = k then (value.map toJson).or (config.get key) else config.get key := by
  cases value with
  | none => exact (ite_self _).symm
  | some value => exact Dict.get_set config k key (toJson value)

theorem get_mergeConfig_texts? (k : String) (texts : List String) :
    (mergeConfig config (texts? k texts)).get key =
      if key = k then if texts = [] then config.get key else some (ofTexts texts)
      else config.get key := by
  unfold texts?
  by_cases h : texts = []
  · rw [if_pos h, if_pos h]
    exact (ite_self _).symm
  · rw [if_neg h, if_neg h]
    exact Dict.get_set config k key (ofTexts texts)

theorem mergeConfig_cons (k : String) (value : Json) (entries : List (String × Json)) :
    mergeConfig config ((k, value) :: entries) = mergeConfig (config.set k value) entries := rfl

theorem mergeConfig_nil : mergeConfig config [] = config := rfl

theorem get_ttsConfig (tts : TtsProviderSettings) : (mergeConfig config tts.config).get key =
    if key = "default_voice" then (tts.defaultVoice.map .str).or (config.get key)
    else if key = "warm_models" then
      if tts.warmModels = [] then config.get key else some (ofTexts tts.warmModels)
    else if key = "model" then (tts.model.map .str).or (config.get key)
    else if key = "default" then (tts.default.map .bool).or (config.get key)
    else if key = "enabled" then (tts.enabled.map .bool).or (config.get key)
    else config.get key := by
  simp only [TtsProviderSettings.config, mergeConfig_append, get_mergeConfig_entryOf,
    get_mergeConfig_texts?]
  repeat refine ite_congr rfl (fun hkey => by subst hkey; simp) fun _ => ?_
  rfl

theorem get_sttConfig (stt : SttSettings) : (mergeConfig config stt.config).get key =
    if key = "warm_models" then
      if stt.warmModels = [] then config.get key else some (ofTexts stt.warmModels)
    else if key = "warm_model" then (stt.warmModel.map .bool).or (config.get key)
    else if key = "compute_type" then (stt.computeType.map .str).or (config.get key)
    else if key = "device" then (stt.device.map .str).or (config.get key)
    else if key = "model" then (stt.model.map .str).or (config.get key)
    else if key = "fallback_profile" then (stt.fallbackProfile.map .str).or (config.get key)
    else if key = "profile" then (stt.profile.map .str).or (config.get key)
    else if key = "default" then (stt.default.map .bool).or (config.get key)
    else if key = "enabled" then (stt.enabled.map .bool).or (config.get key)
    else config.get key := by
  simp only [SttSettings.config, mergeConfig_append, get_mergeConfig_entryOf,
    get_mergeConfig_texts?]
  repeat refine ite_congr rfl (fun hkey => by subst hkey; simp) fun _ => ?_
  rfl

theorem get_wakeConfig (wake : WakeSettings) : (mergeConfig config wake.config).get key =
    if key = "warm_models" then
      if (if wake.warmModels = [] then wake.models else wake.warmModels) = [] then config.get key
      else some (ofTexts (if wake.warmModels = [] then wake.models else wake.warmModels))
    else if key = "warm_model" then
      some (.bool (wake.warmModel.getD (wake.preload.getD false)))
    else if key = "model" then
      ((wake.defaultWakeword.bind fun word => nonempty (strip word)).map .str).or (config.get key)
    else if key = "default_wakeword" then
      ((wake.defaultWakeword.bind fun word => nonempty (strip word)).map .str).or (config.get key)
    else if key = "provider" then some (.str wake.provider)
    else if key = "enabled" then some (.bool (wake.enabled.getD true))
    else config.get key := by
  simp only [WakeSettings.config, mergeConfig_append, get_mergeConfig_entryOf,
    get_mergeConfig_texts?, mergeConfig_cons, mergeConfig_nil, Dict.get_set]
  repeat refine ite_congr rfl (fun hkey => by subst hkey; simp) fun _ => ?_
  rfl

end configs

/-! ### The speech model of a merged configuration -/

section resolve

variable (py : Python) (settings : Settings)
variable {config : JsonObject} {profile : SttModelProfile}

/-- The name of the profile that a configuration asks for. -/
def profileNameOf (config : JsonObject) : String :=
  cleaned py ((item config "profile").or (.str settings.voiceSttProfile))

/-- The name of the fallback profile that a configuration asks for. -/
def fallbackNameOf (config : JsonObject) : String :=
  cleaned py ((item config "fallback_profile").or (.str settings.voiceSttFallbackProfile))

/-- The preload of a profile with what a configuration has for `warm_model`. -/
def preloadOf (preload : Bool) : Json → Bool
  | .null => preload
  | value => value.truthy

theorem warm_eq_preload {value : Option Json} {preload default : Bool}
    (h : preload = preloadOf default (value.getD .null)) :
    some (value.getD (.bool preload)).truthy = some preload ↔
      ¬(value = some .null ∧ preload = true) := by
  cases value with
  | none => simp [truthy]
  | some value =>
    cases value with
    | null => cases preload <;> simp [truthy]
    | bool | int | float | str | arr | obj => simpa [preloadOf] using h.symm

/-- A profile as a configuration overrides it. -/
def resolvedProfile (config : JsonObject) (named : SttModelProfile) (beamSize bestOf : Option ℤ)
    (fallbackProfile : String) : SttModelProfile :=
  { named with
    model := overridden py config "model" named.model
    device := overridden py config "device" named.device
    computeType := overridden py config "compute_type" named.computeType
    language := if cleaned py (item config "language") = "" then named.language
      else some (cleaned py (item config "language"))
    beamSize
    bestOf
    preload := preloadOf named.preload (item config "warm_model")
    fallbackProfile := if fallbackProfile = "" then named.fallbackProfile else some fallbackProfile }

theorem resolveSttModelProfile_eq_ok :
    resolveSttModelProfile py settings config = .ok profile ↔
      ∃ named beamSize bestOf,
        namedProfile settings (profileNameOf py settings config)
          (fallbackNameOf py settings config) = .ok named ∧
        overriddenInt py config "beam_size" named.beamSize = .ok beamSize ∧
        overriddenInt py config "best_of" named.bestOf = .ok bestOf ∧
        (fallbackNameOf py settings config ≠ "" →
          ∃ fallback, getSttModelProfile (fallbackNameOf py settings config) = .ok fallback) ∧
        profile = resolvedProfile py config named beamSize bestOf
          (fallbackNameOf py settings config) := by
  unfold resolveSttModelProfile
  simp only [except_bind_eq_ok]
  by_cases hempty : fallbackNameOf py settings config = ""
  · rw [fallbackNameOf] at hempty
    simp only [fallbackNameOf, profileNameOf, hempty, ne_eq, not_true_eq_false, if_false]
    constructor
    · rintro ⟨named, hnamed, beamSize, hbeam, bestOf, hbest, h⟩
      cases h
      exact ⟨named, beamSize, bestOf, hnamed, hbeam, hbest, (fun h => h.elim), rfl⟩
    · rintro ⟨named, beamSize, bestOf, hnamed, hbeam, hbest, -, rfl⟩
      exact ⟨named, hnamed, beamSize, hbeam, bestOf, hbest, rfl⟩
  · rw [fallbackNameOf] at hempty
    simp only [fallbackNameOf, profileNameOf, hempty, ne_eq, not_false_eq_true, if_true,
      except_bind_eq_ok]
    constructor
    · rintro ⟨named, hnamed, beamSize, hbeam, bestOf, hbest, fallback, hfallback, h⟩
      cases h
      refine ⟨named, beamSize, bestOf, hnamed, hbeam, hbest, fun _ => ⟨fallback, hfallback⟩, ?_⟩
      simp only [resolvedProfile, hempty, if_false]
      rfl
    · rintro ⟨named, beamSize, bestOf, hnamed, hbeam, hbest, hfallback, rfl⟩
      obtain ⟨fallback, hfallback⟩ := hfallback trivial
      refine ⟨named, hnamed, beamSize, hbeam, bestOf, hbest, fallback, hfallback, ?_⟩
      simp only [resolvedProfile, hempty, if_false]
      rfl

/-- What is warm is preloaded, if there is no `null` that says otherwise. -/
theorem warm_eq_preload_of_resolved
    (h : resolveSttModelProfile py settings config = .ok profile) :
    some ((config.get "warm_model").getD (.bool profile.preload)).truthy = some profile.preload ↔
      ¬(config.get "warm_model" = some .null ∧ profile.preload = true) := by
  obtain ⟨named, _, _, -, -, -, -, hresolved⟩ := (resolveSttModelProfile_eq_ok py settings).mp h
  have hpreload : profile.preload = preloadOf named.preload (item config "warm_model") := by
    rw [hresolved, resolvedProfile]
  exact warm_eq_preload hpreload

theorem or_str {t : String} (h : t ≠ "") (other : Json) : (Json.str t).or other = .str t :=
  if_pos (by simpa [truthy] using h)

theorem cleaned_or {t : String} (h : Clean t) (other : Json) :
    cleaned py ((Json.str t).or other) = t := by
  rw [or_str h.2, cleaned_str, h.1]

/-- A profile with what a configuration overrides of these defaults. -/
def overriddenBy (config : JsonObject) (model device computeType : String) (preload : Bool)
    (profile : SttModelProfile) : SttModelProfile :=
  { profile with
    model := overridden py config "model" model
    device := overridden py config "device" device
    computeType := overridden py config "compute_type" computeType
    preload := preloadOf preload (item config "warm_model") }

theorem overriddenBy_eq {model device computeType : String} {preload : Bool}
    {profile profile' : SttModelProfile}
    (h : overriddenBy py config model device computeType preload profile = profile') :
    profile'.model = overridden py config "model" model ∧
      profile'.device = overridden py config "device" device ∧
      profile'.computeType = overridden py config "compute_type" computeType := by
  rw [← h]
  simp only [overriddenBy, and_self]

/-- **The profile of a configuration with the profile merged that it had.** -/
theorem resolveSttModelProfile_again {config config' : JsonObject}
    (h : resolveSttModelProfile py settings config = .ok profile)
    (hprofile : item config' "profile" = ((if profile.name = "custom_legacy" then none
      else some profile.name).map Json.str).getD (item config "profile"))
    (hfallback : item config' "fallback_profile" =
      (profile.fallbackProfile.map Json.str).getD (item config "fallback_profile"))
    (hbeam : item config' "beam_size" = item config "beam_size")
    (hbest : item config' "best_of" = item config "best_of")
    (hlanguage : item config' "language" = item config "language") :
    ∃ model device computeType preload,
      profile = overriddenBy py config model device computeType preload profile ∧
      resolveSttModelProfile py settings config' =
        .ok (overriddenBy py config' model device computeType preload profile) := by
  obtain ⟨named, beamSize, bestOf, hnamed, hbeamSize, hbestOf, hvalid, hresolved⟩ :=
    (resolveSttModelProfile_eq_ok py settings).mp h
  have hname : profile.name = named.name := by rw [hresolved, resolvedProfile]
  have hfallbackProfile : profile.fallbackProfile =
      if fallbackNameOf py settings config = "" then named.fallbackProfile
      else some (fallbackNameOf py settings config) := by rw [hresolved, resolvedProfile]
  have hsameName : profileNameOf py settings config' = profileNameOf py settings config := by
    rw [profileNameOf, hprofile, hname]
    by_cases hempty : profileNameOf py settings config = ""
    · rw [namedProfile, if_pos hempty] at hnamed
      cases hnamed
      rfl
    · rw [namedProfile, if_neg hempty] at hnamed
      obtain ⟨hmem, hsame⟩ := mem_sttProfileNames hnamed
      rw [profileNameOf, strip_cleaned, ← profileNameOf] at hsame
      obtain ⟨hclean, hlegacy⟩ := clean_of_mem_sttProfileNames (List.mem_map_of_mem hmem)
      rw [if_neg hlegacy]
      exact (cleaned_or py hclean _).trans hsame
  have hsameFallback : fallbackNameOf py settings config' = fallbackNameOf py settings config ∨
      fallbackNameOf py settings config = "" ∧ profileNameOf py settings config ≠ "" ∧
        named.fallbackProfile = some (fallbackNameOf py settings config') ∧
        fallbackNameOf py settings config' ∈ sttProfileNames := by
    have hnames := (resolveSttModelProfile_names py h).2
    have hsome {t : String} (ht : profile.fallbackProfile = some t) :
        fallbackNameOf py settings config' = t := by
      rw [fallbackNameOf, hfallback, ht]
      exact cleaned_or py (clean_of_mem_sttProfileNames (hnames t ht)).1 _
    by_cases hempty : fallbackNameOf py settings config = ""
    · rw [if_pos hempty] at hfallbackProfile
      cases hnone : named.fallbackProfile with
      | none =>
        rw [hfallbackProfile, hnone] at hfallback
        exact .inl (by rw [fallbackNameOf, hfallback]; rfl)
      | some t =>
        rw [hnone] at hfallbackProfile
        rw [hsome hfallbackProfile]
        refine .inr ⟨hempty, fun hlegacy => ?_, rfl, hnames t hfallbackProfile⟩
        rw [namedProfile, if_pos hlegacy] at hnamed
        cases hnamed
        rw [hempty] at hnone
        cases hnone
    · rw [if_neg hempty] at hfallbackProfile
      exact .inl (hsome hfallbackProfile)
  refine ⟨named.model, named.device, named.computeType, named.preload, ?_, ?_⟩
  · rw [hresolved]
    simp only [resolvedProfile, overriddenBy]
  · refine (resolveSttModelProfile_eq_ok py settings).mpr
      ⟨named, beamSize, bestOf, ?_, ?_, ?_, ?_, ?_⟩
    · rw [hsameName]
      rcases hsameFallback with hsame | ⟨-, hne, -⟩
      · rw [hsame]
        exact hnamed
      · rw [namedProfile, if_neg hne] at hnamed ⊢
        exact hnamed
    · rw [overriddenInt, hbeam]
      exact hbeamSize
    · rw [overriddenInt, hbest]
      exact hbestOf
    · intro hne
      rcases hsameFallback with hsame | ⟨-, -, -, hmem⟩
      · rw [hsame] at hne ⊢
        exact hvalid hne
      · exact getSttModelProfile_of_mem hmem
    · have hfallbacks : (if fallbackNameOf py settings config = "" then named.fallbackProfile
          else some (fallbackNameOf py settings config)) =
            if fallbackNameOf py settings config' = "" then named.fallbackProfile
            else some (fallbackNameOf py settings config') := by
        rcases hsameFallback with hsame | ⟨hempty, -, hsome, hmem⟩
        · rw [hsame]
        · rw [if_pos hempty, if_neg (clean_of_mem_sttProfileNames hmem).1.2, hsome]
      rw [hresolved]
      simp only [resolvedProfile, overriddenBy, hlanguage, hfallbacks]

end resolve

/-! ### Texts and lists that are merged -/

section again

variable (py : Python) (settings : Settings)
variable {value : Json}

/-- What is read of an entry is read again where it was merged. -/
theorem read_again {read : Json → Option String} (hread : ∀ t, Clean t → read (.str t) = some t)
    (hclean : ∀ t ∈ read value, Clean t) :
    read (((read value).map Json.str).getD value) = read value := by
  cases h : read value with
  | none => exact h
  | some t => exact hread t (hclean t h)

/-- The model for speech output, of the configuration's entry. -/
def ttsModelOf (value : Json) : Option String :=
  nonempty (strip (py.str (value.or (.str settings.voiceTtsModel))))

/-- The default voice, of the configuration's entry. -/
def ttsVoiceOf (value : Json) : Option String :=
  nonempty (cleaned py ((value.or (ofText settings.voiceTtsPiperVoice)).or
    (.str settings.voiceTtsVoice)))

/-- A text of the speech model, of the configuration's entry and the profile's. -/
def sttTextOf (default : String) (value : Json) : Option String :=
  nonempty (strip (if cleaned py value = "" then default else cleaned py value))

theorem ttsModelOf_str (t : String) (h : Clean t) : ttsModelOf py settings (.str t) = some t := by
  rw [ttsModelOf, or_str h.2]
  show nonempty (strip t) = some t
  rw [h.1, nonempty_of_clean h]

theorem clean_ttsModelOf : ∀ t ∈ ttsModelOf py settings value, Clean t :=
  fun _ h => clean_of_nonempty (strip_strip _) h

theorem ttsVoiceOf_str (t : String) (h : Clean t) : ttsVoiceOf py settings (.str t) = some t := by
  rw [ttsVoiceOf, or_str h.2, or_str h.2, cleaned_str, h.1, nonempty_of_clean h]

theorem clean_ttsVoiceOf : ∀ t ∈ ttsVoiceOf py settings value, Clean t :=
  fun _ h => clean_of_nonempty (strip_cleaned py _) h

theorem nonempty_overridden (config : JsonObject) (key default : String) :
    nonempty (strip (overridden py config key default)) =
      sttTextOf py default (item config key) := by
  simp only [overridden, sttTextOf]

theorem sttTextOf_str (default : String) (t : String) (h : Clean t) :
    sttTextOf py default (.str t) = some t := by
  rw [sttTextOf, cleaned_str, h.1, if_neg h.2, h.1, nonempty_of_clean h]

theorem clean_sttTextOf {default : String} :
    ∀ t ∈ sttTextOf py default value, Clean t :=
  fun _ h => clean_of_nonempty (strip_strip _) h

theorem addTexts_of_subset {ts others : List String} (h : ∀ t ∈ others, t ∈ ts) :
    addTexts ts others = ts := by
  induction others with
  | nil => rfl
  | cons other others ih =>
    rw [List.forall_mem_cons] at h
    show addTexts (if other ∈ ts then ts else ts ++ [other]) others = ts
    rw [if_pos h.1]
    exact ih h.2

theorem addTexts_of_disjoint {ts others : List String} (hnodup : others.Nodup)
    (h : ∀ t ∈ others, t ∉ ts) : addTexts ts others = ts ++ others := by
  induction others generalizing ts with
  | nil => exact (List.append_nil ts).symm
  | cons other others ih =>
    rw [List.nodup_cons] at hnodup
    rw [List.forall_mem_cons] at h
    show addTexts (if other ∈ ts then ts else ts ++ [other]) others = _
    rw [if_neg h.1, ih hnodup.2, List.append_assoc]
    · rfl
    · intro t ht hmem
      rcases List.mem_append.mp hmem with hmem | hmem
      · exact h.2 t ht hmem
      · exact hnodup.1 (List.mem_singleton.mp hmem ▸ ht)

theorem exists_addTexts (ts others : List String) : ∃ added, addTexts ts others = ts ++ added ∧
    added.Nodup ∧ ∀ t ∈ added, t ∉ ts := by
  induction others generalizing ts with
  | nil => exact ⟨[], (List.append_nil ts).symm, List.nodup_nil, fun _ h => nomatch h⟩
  | cons other others ih =>
    by_cases hmem : other ∈ ts
    · obtain ⟨added, hadded⟩ := ih ts
      refine ⟨added, ?_, hadded.2⟩
      show addTexts (if other ∈ ts then ts else ts ++ [other]) others = _
      rw [if_pos hmem]
      exact hadded.1
    · obtain ⟨added, hadded, hnodup, hnew⟩ := ih (ts ++ [other])
      refine ⟨other :: added, ?_, List.nodup_cons.mpr ⟨fun h => ?_, hnodup⟩, ?_⟩
      · show addTexts (if other ∈ ts then ts else ts ++ [other]) others = _
        rw [if_neg hmem, hadded, List.append_assoc]
        rfl
      · exact hnew other h (List.mem_append_right _ List.mem_cons_self)
      · refine List.forall_mem_cons.mpr ⟨hmem, fun t ht hold => ?_⟩
        exact hnew t ht (List.mem_append_left _ hold)

/-- Adding texts leaves nothing to add of them. -/
theorem addTexts_again (ts others : List String) :
    addTexts ts (addTexts ts others) = addTexts ts others := by
  obtain ⟨added, hadded, hnodup, hnew⟩ := exists_addTexts ts others
  have happend (others others' : List String) :
      addTexts ts (others ++ others') = addTexts (addTexts ts others) others' := List.foldl_append
  rw [hadded, happend, addTexts_of_subset fun _ h => h, addTexts_of_disjoint hnodup hnew]

end again

/-! ### Merged setups -/

section setups

variable (setup : ProviderSetupState)

/-- The setup with a section merged, if there is one. -/
def mergeOption {α : Type} (merge : ProviderSetupState → α → ProviderSetupState)
    (value : Option α) : ProviderSetupState :=
  value.elim setup (merge setup)

theorem configOf_mergeProvider (provider other : String) (entries : List (String × Json))
    (enable disable : Bool) (defaultProvider : Option String) :
    configOf (mergeProvider setup provider entries enable disable defaultProvider) other =
      if other = provider then mergeConfig (configOf setup provider) entries
      else configOf setup other := by
  unfold configOf mergeProvider
  dsimp only
  rw [Dict.get_set]
  split <;> rfl

/-- A provider whose own state is merged is enabled as it was. -/
theorem enabledProviders_mergeProvider {provider : String} {enabled : Bool}
    (h : enabled = decide (provider ∈ setup.enabledProviders)) (entries : List (String × Json))
    (defaultProvider : Option String) :
    (mergeProvider setup provider entries (some enabled = some true) (some enabled = some false)
      defaultProvider).enabledProviders = setup.enabledProviders := by
  unfold mergeProvider
  cases enabled with
  | true =>
    have hmem : provider ∈ setup.enabledProviders := of_decide_eq_true h.symm
    simp [hmem]
  | false =>
    have hmem : provider ∉ setup.enabledProviders := of_decide_eq_false h.symm
    simp only [Option.some.injEq, Bool.false_eq_true, decide_false, false_and, if_false,
      decide_true, if_true]
    refine List.filter_eq_self.mpr fun other hother => ?_
    simpa using fun heq : other = provider => hmem (heq ▸ hother)

theorem defaultProvider_kept {provider : String} {isDefault : Bool}
    (h : isDefault = decide (setup.defaultProvider = some provider)) :
    (if some isDefault = some true then some provider else setup.defaultProvider) =
      setup.defaultProvider := by
  cases isDefault with
  | true =>
    rw [if_pos rfl]
    exact (of_decide_eq_true h.symm).symm
  | false => rfl

/-- A merged setup has the providers and the default that it had. -/
structure Kept (setup' : ProviderSetupState) : Prop where
  enabledProviders : setup'.enabledProviders = setup.enabledProviders
  defaultProvider : setup'.defaultProvider = setup.defaultProvider

theorem Kept.refl : Kept setup setup := ⟨rfl, rfl⟩

variable {setup} {setup' : ProviderSetupState} (h : Kept setup setup')

include h

theorem Kept.mergeTts {tts : TtsProviderSettings}
    (henabled : tts.enabled = some (decide (tts.provider ∈ setup.enabledProviders)))
    (hdefault : tts.default = some (decide (setup.defaultProvider = some tts.provider))) :
    Kept setup (mergeTtsProviderSettings setup' tts) := by
  unfold mergeTtsProviderSettings
  rw [henabled, hdefault]
  refine ⟨(enabledProviders_mergeProvider setup' (by rw [h.enabledProviders]) _ _).trans
    h.enabledProviders, ?_⟩
  exact (defaultProvider_kept setup' (by rw [h.defaultProvider])).trans h.defaultProvider

theorem Kept.mergeStt {stt : SttSettings}
    (henabled : stt.enabled = some (decide (stt.provider ∈ setup.enabledProviders)))
    (hdefault : stt.default = some (decide (setup.defaultProvider = some stt.provider))) :
    Kept setup (mergeSttSettings setup' stt) := by
  unfold mergeSttSettings
  rw [henabled, hdefault]
  refine ⟨(enabledProviders_mergeProvider setup' (by rw [h.enabledProviders]) _ _).trans
    h.enabledProviders, ?_⟩
  exact (defaultProvider_kept setup' (by rw [h.defaultProvider])).trans h.defaultProvider

theorem Kept.mergeWake {wake : WakeSettings}
    (henabled : wake.enabled = some (decide ("wake" ∈ setup.enabledProviders))) :
    Kept setup (mergeWakeSettings setup' wake) := by
  unfold mergeWakeSettings
  rw [henabled]
  refine ⟨?_, h.defaultProvider⟩
  have henable : (some (decide ("wake" ∈ setup.enabledProviders))).getD true =
      decide (some (decide ("wake" ∈ setup.enabledProviders)) = some true) := by
    simp
  rw [henable]
  exact (enabledProviders_mergeProvider setup' (by rw [h.enabledProviders]) _ _).trans
    h.enabledProviders

omit h

end setups

/-! ### The sections of a merged setup -/

section sections

variable (py : Python) (settings : Settings) (setup : ProviderSetupState)
variable {config config' : JsonObject} {setup' : ProviderSetupState}

/-- What a section has for the configuration of a provider. -/
def configFor {α : Type} (provider : String) (providerOf : α → String)
    (config : α → List (String × Json)) (value : Option α) : List (String × Json) :=
  value.elim [] fun value => if provider = providerOf value then config value else []

/-- The setup with these sections merged, one after the other. -/
def mergedSections (tts : Option TtsProviderSettings) (stt : Option SttSettings)
    (wake : Option WakeSettings) : ProviderSetupState :=
  mergeOption (mergeOption (mergeOption setup mergeTtsProviderSettings tts) mergeSttSettings stt)
    mergeWakeSettings wake

theorem configOf_mergeOption {α : Type} {merge : ProviderSetupState → α → ProviderSetupState}
    {providerOf : α → String} {config : α → List (String × Json)}
    (hmerge : ∀ setup value other, configOf (merge setup value) other =
      if other = providerOf value then mergeConfig (configOf setup (providerOf value)) (config value)
      else configOf setup other) (value : Option α) (provider : String) :
    configOf (mergeOption setup merge value) provider =
      mergeConfig (configOf setup provider) (configFor provider providerOf config value) := by
  cases value with
  | none => rfl
  | some value =>
    refine (hmerge setup value provider).trans ?_
    unfold configFor
    rw [Option.elim_some]
    by_cases h : provider = providerOf value
    · rw [if_pos h, if_pos h, h]
    · rw [if_neg h, if_neg h]
      rfl

theorem configOf_mergedSections (tts : Option TtsProviderSettings) (stt : Option SttSettings)
    (wake : Option WakeSettings) (provider : String) :
    configOf (mergedSections setup tts stt wake) provider =
      mergeConfig (mergeConfig (mergeConfig (configOf setup provider)
        (configFor provider TtsProviderSettings.provider TtsProviderSettings.config tts))
        (configFor provider SttSettings.provider SttSettings.config stt))
        (configFor provider (fun _ => "wake") WakeSettings.config wake) := by
  have htts (setup : ProviderSetupState) (tts : TtsProviderSettings) (other : String) :
      configOf (mergeTtsProviderSettings setup tts) other =
        if other = tts.provider then mergeConfig (configOf setup tts.provider) tts.config
        else configOf setup other := configOf_mergeProvider ..
  have hstt (setup : ProviderSetupState) (stt : SttSettings) (other : String) :
      configOf (mergeSttSettings setup stt) other =
        if other = stt.provider then mergeConfig (configOf setup stt.provider) stt.config
        else configOf setup other := configOf_mergeProvider ..
  have hwake (setup : ProviderSetupState) (wake : WakeSettings) (other : String) :
      configOf (mergeWakeSettings setup wake) other =
        if other = "wake" then mergeConfig (configOf setup "wake") wake.config
        else configOf setup other := configOf_mergeProvider ..
  unfold mergedSections
  rw [configOf_mergeOption _ hwake, configOf_mergeOption _ hstt, configOf_mergeOption _ htts]

theorem ttsProviderSettingsOf_eq (provider : String) (config runtime : JsonObject) :
    ttsProviderSettingsOf py settings setup provider config runtime = {
      provider
      enabled := some (provider ∈ setup.enabledProviders)
      default := some (setup.defaultProvider = some provider)
      model := ttsModelOf py settings (item config "model")
      defaultVoice := ttsVoiceOf py settings (item config "default_voice")
      conversionPolicy := nonempty (strip (settings.resolvedVoiceTtsConversionPolicy runtime))
      outputSampleRateHz := some settings.voiceTtsOutputSampleRateHz
      warmModels := addTexts (resolvedPiperTtsWarmVoices py settings runtime)
        (texts py (items config "warm_models"))
      endpointVoices := settings.resolvedVoiceTtsEndpointVoices runtime
      endpointSampleRates := settings.resolvedVoiceTtsEndpointSampleRates
      conversionSampleRates := settings.parsedVoiceTtsConversionSampleRates
      piper := piper settings } := by
  simp only [ttsProviderSettingsOf, ttsModelOf, ttsVoiceOf]

theorem ttsProviderSettingsOf_model (provider : String) (config runtime : JsonObject) :
    (ttsProviderSettingsOf py settings setup provider config runtime).model =
      ttsModelOf py settings (item config "model") := by
  simp only [ttsProviderSettingsOf, ttsModelOf]

theorem ttsProviderSettingsOf_defaultVoice (provider : String) (config runtime : JsonObject) :
    (ttsProviderSettingsOf py settings setup provider config runtime).defaultVoice =
      ttsVoiceOf py settings (item config "default_voice") := by
  simp only [ttsProviderSettingsOf, ttsVoiceOf]

theorem ttsProviderSettingsOf_warmModels (provider : String) (config runtime : JsonObject) :
    (ttsProviderSettingsOf py settings setup provider config runtime).warmModels =
      addTexts (resolvedPiperTtsWarmVoices py settings runtime)
        (texts py (items config "warm_models")) := by
  simp only [ttsProviderSettingsOf]

/-- The section for speech output again, of a configuration with the section merged. -/
theorem ttsProviderSettingsOf_again (hkept : Kept setup setup')
    (provider : String) {config config' runtime : JsonObject}
    (hvoice : item config' "default_voice" =
      ((ttsProviderSettingsOf py settings setup provider config runtime).defaultVoice.map
        Json.str).getD (item config "default_voice"))
    (hwarm : addTexts (resolvedPiperTtsWarmVoices py settings runtime)
        (texts py (items config' "warm_models")) =
      addTexts (resolvedPiperTtsWarmVoices py settings runtime)
        (texts py (items config "warm_models"))) :
    ttsProviderSettingsOf py settings setup' provider config' runtime =
      { ttsProviderSettingsOf py settings setup provider config runtime with
        model := ttsModelOf py settings (item config' "model") } := by
  have hread : ttsVoiceOf py settings (item config' "default_voice") =
      ttsVoiceOf py settings (item config "default_voice") := by
    rw [hvoice, ttsProviderSettingsOf_defaultVoice]
    exact read_again (ttsVoiceOf_str py settings) (clean_ttsVoiceOf py settings)
  rw [ttsProviderSettingsOf_eq, ttsProviderSettingsOf_eq, hread, hwarm, hkept.enabledProviders,
    hkept.defaultProvider]

theorem items_of_get {ts : List String}
    (h : config'.get key = if ts = [] then config.get key else some (ofTexts ts)) :
    items config' key = if ts = [] then items config key else ts.map .str := by
  unfold items item
  rw [h]
  by_cases hempty : ts = []
  · rw [if_pos hempty, if_pos hempty]
  · rw [if_neg hempty, if_neg hempty]
    rfl

theorem item_of_get {text : Option String}
    (h : config'.get key = (text.map Json.str).or (config.get key)) :
    item config' key = (text.map Json.str).getD (item config key) := by
  rw [item, h]
  cases text <;> rfl

/-- A list that is read again where it was merged. -/
theorem texts_again {ts : List String} (hclean : ∀ t ∈ ts, Clean t)
    (h : config'.get key = if ts = [] then config.get key else some (ofTexts ts)) :
    texts py (items config' key) = if ts = [] then texts py (items config key) else ts := by
  rw [items_of_get h]
  by_cases hempty : ts = []
  · rw [if_pos hempty, if_pos hempty]
  · rw [if_neg hempty, if_neg hempty, texts_ofTexts py hclean]

/-- **The section for speech output again**, of a configuration with the section merged, and with
the one for speech recognition if it has the same provider. -/
theorem ttsProviderSettingsOf_merged (hkept : Kept setup setup')
    (provider : String) {config config' runtime : JsonObject} {tts : TtsProviderSettings}
    (htts : ttsProviderSettingsOf py settings setup provider config runtime = tts)
    (hchecked : tts.Checked) {shared : Option SttSettings}
    (hshared : ∀ stt ∈ shared, (∀ t ∈ stt.model, Clean t) ∧
      stt.warmModels = texts py (items config "warm_models")) (hmerged : config' =
      mergeConfig (mergeConfig config tts.config) (shared.elim [] (·.config))) :
    ttsProviderSettingsOf py settings setup' provider config' runtime =
      { tts with model := (shared.bind (·.model)).or tts.model } := by
  have hmodelOf : tts.model = ttsModelOf py settings (item config "model") := by
    rw [← htts, ttsProviderSettingsOf_model]
  have hvoiceOf : tts.defaultVoice = ttsVoiceOf py settings (item config "default_voice") := by
    rw [← htts, ttsProviderSettingsOf_defaultVoice]
  have hwarmOf : tts.warmModels = addTexts (resolvedPiperTtsWarmVoices py settings runtime)
      (texts py (items config "warm_models")) := by
    rw [← htts, ttsProviderSettingsOf_warmModels]
  have hget (key : String) := get_ttsConfig config key tts
  have hvoice : item (mergeConfig config tts.config) "default_voice" =
      (tts.defaultVoice.map Json.str).getD (item config "default_voice") :=
    item_of_get ((hget _).trans (if_pos rfl))
  have hitems : texts py (items (mergeConfig config tts.config) "warm_models") =
      if tts.warmModels = [] then texts py (items config "warm_models") else tts.warmModels :=
    texts_again py hchecked.warmModels (hget _)
  have hwarm : addTexts (resolvedPiperTtsWarmVoices py settings runtime)
      (texts py (items (mergeConfig config tts.config) "warm_models")) = tts.warmModels := by
    rw [hitems]
    split
    · exact hwarmOf.symm
    · rw [hwarmOf, addTexts_again]
  have hmodel : ttsModelOf py settings (item (mergeConfig config tts.config) "model") =
      tts.model := by
    rw [item_of_get (hget "model"), hmodelOf]
    exact read_again (ttsModelOf_str py settings) (clean_ttsModelOf py settings)
  obtain ⟨hvoice', hwarm', hmodel'⟩ :
      item config' "default_voice" = (tts.defaultVoice.map Json.str).getD
          (item config "default_voice") ∧
        addTexts (resolvedPiperTtsWarmVoices py settings runtime)
          (texts py (items config' "warm_models")) = tts.warmModels ∧
        ttsModelOf py settings (item config' "model") =
          (shared.bind (·.model)).or tts.model := by
    cases shared with
    | none =>
      rw [hmerged]
      exact ⟨hvoice, hwarm, hmodel⟩
    | some stt =>
      obtain ⟨hclean, hsame⟩ := hshared stt rfl
      have hgetStt (key : String) := get_sttConfig (mergeConfig config tts.config) key stt
      rw [Option.elim_some] at hmerged
      rw [← hmerged] at hgetStt
      refine ⟨?_, ?_, ?_⟩
      · exact (congrArg (·.getD .null) (hgetStt "default_voice")).trans hvoice
      · rw [texts_again py (hsame ▸ clean_texts py) (hgetStt "warm_models")]
        split
        · exact hwarm
        · rw [hsame]
          exact hwarmOf.symm
      · rw [item_of_get (hgetStt "model"), Option.bind_some]
        cases hstt : stt.model with
        | none => exact hmodel
        | some t => exact ttsModelOf_str py settings t (hclean t hstt)
  rw [← htts] at hvoice'
  rw [hwarmOf] at hwarm'
  rw [ttsProviderSettingsOf_again py settings setup hkept provider hvoice' hwarm', hmodel', htts]

/-- The section for speech recognition again, of a configuration with the section merged. -/
theorem sttSettingsOf_again (hkept : Kept setup setup') (provider : String)
    (hprofile : resolveSttModelProfile py settings config = .ok profile) {stt : SttSettings}
    (hstt : sttSettingsOf py settings setup provider config profile = stt)
    (hget : ∀ key ∈ ["profile", "fallback_profile", "beam_size", "best_of", "language", "device",
      "compute_type", "warm_model"], config'.get key = (mergeConfig config stt.config).get key) :
    ∃ default profile', stt.model = sttTextOf py default (item config "model") ∧
      resolveSttModelProfile py settings config' = .ok profile' ∧
      sttSettingsOf py settings setup' provider config' profile' =
        { stt with
          preload := stt.warmModel
          model := sttTextOf py default (item config' "model")
          warmModels := texts py (items config' "warm_models") } := by
  have hkeep (key : String) (hkey : config'.get key = config.get key) :
      item config' key = item config key := congrArg (·.getD .null) hkey
  simp only [List.forall_mem_cons, List.not_mem_nil, false_imp_iff, implies_true, and_true,
    get_sttConfig, if_false, if_true, String.reduceEq] at hget
  obtain ⟨hname, hfallback, hbeam, hbest, hlanguage, hdevice, hcompute, hwarm⟩ := hget
  have hstt' := hstt
  rw [sttSettingsOf] at hstt'
  subst hstt'
  dsimp only at hname hfallback hdevice hcompute hwarm
  obtain ⟨model, device, computeType, preload, hself, hagain⟩ :=
    resolveSttModelProfile_again py settings hprofile (item_of_get hname) (item_of_get hfallback)
      (hkeep _ hbeam) (hkeep _ hbest) (hkeep _ hlanguage)
  obtain ⟨hmodel, hdeviceSelf, hcomputeSelf⟩ := overriddenBy_eq py hself.symm
  have htext {key text default : String} (htext : text = overridden py config key default)
      (hkey : config'.get key =
        ((nonempty (strip text)).map Json.str).or (config.get key)) :
      nonempty (strip (overridden py config' key default)) = nonempty (strip text) := by
    have hread : nonempty (strip text) = sttTextOf py default (item config key) := by
      rw [htext, nonempty_overridden]
    rw [nonempty_overridden, item_of_get hkey, hread]
    exact read_again (sttTextOf_str py default) (clean_sttTextOf py)
  have hdevices := htext hdeviceSelf hdevice
  have hcomputes := htext hcomputeSelf hcompute
  refine ⟨model, _, ?_, hagain, ?_⟩
  · dsimp only
    rw [hmodel, nonempty_overridden]
  · have hwarmItem : item config' "warm_model" = .bool
        ((config.get "warm_model").getD (.bool profile.preload)).truthy := by
      rw [item, hwarm]
      rfl
    unfold sttSettingsOf overriddenBy
    dsimp only
    rw [hdevices, hcomputes, hkept.enabledProviders, hkept.defaultProvider, nonempty_overridden,
      hwarm, hwarmItem]
    rfl

/-- **The section for speech recognition again**, of a configuration with the section merged, and
with the one for speech output if it has the same provider. -/
theorem sttSettingsOf_merged (hkept : Kept setup setup') (provider : String)
    (hprofile : resolveSttModelProfile py settings config = .ok profile) {stt : SttSettings}
    (hstt : sttSettingsOf py settings setup provider config profile = stt)
    (hchecked : stt.Checked) {shared : Option TtsProviderSettings}
    (hshared : ∀ tts ∈ shared, tts.Checked) (hmerged : config' =
      mergeConfig (mergeConfig config (shared.elim [] (·.config))) stt.config) :
    ∃ profile', resolveSttModelProfile py settings config' = .ok profile' ∧
      sttSettingsOf py settings setup' provider config' profile' =
        { stt with
          preload := stt.warmModel
          model := stt.model.or (shared.bind (·.model))
          warmModels := if stt.warmModels = [] then shared.elim [] (·.warmModels)
            else stt.warmModels } := by
  have hwarmOf : stt.warmModels = texts py (items config "warm_models") := by
    rw [← hstt, sttSettingsOf]
  have hclean : ∀ t ∈ stt.warmModels, Clean t := by
    rw [hwarmOf]
    exact clean_texts py
  generalize hshare : mergeConfig config (shared.elim [] (·.config)) = config'' at hmerged
  have hsame : ∀ key, key ∉ ["default_voice", "warm_models", "model", "default", "enabled"] →
      config''.get key = config.get key := by
    intro key hkey
    simp only [List.mem_cons, List.not_mem_nil, or_false, not_or] at hkey
    obtain ⟨hvoice, hwarm, hmodel, hdefault, henabled⟩ := hkey
    rw [← hshare]
    cases shared with
    | none => rfl
    | some tts =>
      rw [Option.elim_some, get_ttsConfig, if_neg hvoice, if_neg hwarm, if_neg hmodel,
        if_neg hdefault, if_neg henabled]
  have hitem : item config'' "model" =
      ((shared.bind (·.model)).map Json.str).getD (item config "model") := by
    rw [← hshare]
    cases shared with
    | none => rfl
    | some tts => exact item_of_get (get_ttsConfig config "model" tts)
  have hwarm : stt.warmModels = [] → texts py (items config'' "warm_models") =
      shared.elim [] (·.warmModels) := by
    intro hempty
    rw [hwarmOf] at hempty
    rw [← hshare]
    cases shared with
    | none => exact hempty
    | some tts =>
      rw [Option.elim_some, texts_again py (hshared tts rfl).warmModels
        (get_ttsConfig config "warm_models" tts), hempty]
      split
      · next h => exact h.symm
      · rfl
  have hget (key : String) := get_sttConfig config'' key stt
  rw [← hmerged] at hget
  have hkeys : ∀ key ∈ ["profile", "fallback_profile", "beam_size", "best_of", "language", "device",
      "compute_type", "warm_model"],
      config'.get key = (mergeConfig config stt.config).get key := by
    intro key hkey
    have hkey' : key ∉ ["default_voice", "warm_models", "model", "default", "enabled"] := by
      revert key
      decide
    rw [hget, get_sttConfig, hsame key hkey']
  obtain ⟨default, profile', hmodelOf, hagain, hsection⟩ :=
    sttSettingsOf_again py settings setup hkept provider hprofile hstt hkeys
  refine ⟨profile', hagain, ?_⟩
  rw [hsection, texts_again py hclean (hget "warm_models"), item_of_get (hget "model"), hitem]
  have hmodel : sttTextOf py default ((stt.model.map Json.str).getD
      (((shared.bind (·.model)).map Json.str).getD (item config "model"))) =
        stt.model.or (shared.bind (·.model)) := by
    cases hstt : stt.model with
    | some t => exact sttTextOf_str py default t (hchecked.model t hstt)
    | none =>
      cases hmodel : shared.bind (·.model) with
      | none => exact (hmodelOf.symm.trans hstt)
      | some t =>
        obtain ⟨tts, htts, ht⟩ := Option.bind_eq_some_iff.mp hmodel
        exact sttTextOf_str py default t ((hshared tts htts).model t ht)
  rw [hmodel]
  by_cases hempty : stt.warmModels = []
  · rw [if_pos hempty, if_pos hempty, hwarm hempty]
  · rw [if_neg hempty, if_neg hempty]

/-- The default wake word, of the configuration's entry. -/
def wakewordOf (models : List String) (value : Json) : Option String :=
  nonempty (normalizeWakeName py (strip (py.str (value.or (.str (models.head?.getD "Hexe"))))))

theorem wakewordOf_str (models : List String) {t : String} (h : Named py t) :
    wakewordOf py models (.str t) = some t := by
  have hstr : strip (py.str (.str t)) = t := h.1.1
  rw [wakewordOf, or_str h.1.2, hstr, h.2, nonempty_of_clean h.1]

theorem nonempty_defaultWakeword (config : JsonObject) (models : List String) :
    nonempty (defaultWakeword py config models) =
      wakewordOf py models (item config "default_wakeword") := by
  simp only [defaultWakeword, wakewordOf]

/-- The section for the wake word again, of a configuration with the section merged. -/
theorem wakeSettingsOf_again (hkept : Kept setup setup')
    (provider : String) {models : List String} {wake : WakeSettings}
    (hwake : wakeSettingsOf py settings setup provider config models = wake)
    (hchecked : wake.Checked py) :
    wakeSettingsOf py settings setup' provider (mergeConfig config wake.config) models =
      { wake with
        warmModels := if wake.warmModels = [] then wake.models else wake.warmModels } := by
  have hget (key : String) := get_wakeConfig config key wake
  have hword : wake.defaultWakeword = wakewordOf py models (item config "default_wakeword") := by
    rw [← hwake, wakeSettingsOf, ← nonempty_defaultWakeword]
  have hwarm : wake.warmModels =
      (texts py (items config "warm_models")).map (normalizeWakeName py) := by
    rw [← hwake, wakeSettingsOf]
  have hwarmModel : wake.warmModel.getD (wake.preload.getD false) =
      ((config.get "warm_model").getD (.bool settings.voiceWakePreload)).truthy := by
    rw [← hwake, wakeSettingsOf]
    rfl
  have hagain : wakewordOf py models (item (mergeConfig config wake.config) "default_wakeword") =
      wakewordOf py models (item config "default_wakeword") := by
    rw [item, hget, ← hword]
    simp only [String.reduceEq, if_false, if_true]
    cases h : wake.defaultWakeword with
    | none =>
      rw [hword] at h
      exact h
    | some t =>
      have hnamed := hchecked.defaultWakeword t h
      rw [Option.bind_some, hnamed.1.1, nonempty_of_clean hnamed.1]
      exact wakewordOf_str py models hnamed
  have hagainWarm : (texts py (items (mergeConfig config wake.config) "warm_models")).map
      (normalizeWakeName py) = if wake.warmModels = [] then wake.models else wake.warmModels := by
    have hnamed : ∀ t ∈ if wake.warmModels = [] then wake.models else wake.warmModels,
        Named py t := by
      split
      · exact hchecked.models
      · exact hchecked.warmModels
    rw [items_of_get ((hget "warm_models").trans (if_pos rfl))]
    generalize hnext : (if wake.warmModels = [] then wake.models else wake.warmModels) = next
      at hnamed
    by_cases hempty : next = []
    · rw [if_pos hempty, ← hwarm]
      by_contra hne
      rw [if_neg fun h => hne (h.trans hempty.symm)] at hnext
      exact hne hnext
    · rw [if_neg hempty, texts_ofTexts py fun t ht => (hnamed t ht).1]
      exact (List.map_congr_left fun t ht => (hnamed t ht).2).trans (List.map_id _)
  have hagainWarmModel : ((mergeConfig config wake.config).get "warm_model").getD
      (.bool settings.voiceWakePreload) =
        .bool ((config.get "warm_model").getD (.bool settings.voiceWakePreload)).truthy := by
    rw [hget, ← hwarmModel]
    rfl
  clear hget
  generalize (if wake.warmModels = [] then wake.models else wake.warmModels) = next
    at hagainWarm ⊢
  generalize mergeConfig config wake.config = config' at hagain hagainWarm hagainWarmModel ⊢
  rw [← hwake]
  unfold wakeSettingsOf
  dsimp only
  rw [nonempty_defaultWakeword, nonempty_defaultWakeword, hagain, hagainWarm, hagainWarmModel,
    hkept.enabledProviders]
  rfl

end sections

/-! ### Exporting a merged setup -/

section exports

variable (py : Python) (floatOf : String → Option PyFloat) (settings : Settings)
  (setup : ProviderSetupState) (runtime : JsonObject) {tts : Option TtsProviderSettings}
  {stt : Option SttSettings} {wake : Option WakeSettings}

/-- The configuration of the provider for speech output. -/
def ttsConfig : JsonObject := configOf setup (strip settings.voiceTtsProvider)

/-- The configuration of the provider for speech recognition. -/
def sttConfig : JsonObject := configOf setup (strip settings.voiceSttProvider)

/-- The section, if one provider is for speech recognition and speech output. -/
def ifShared {α : Type} (value : Option α) : Option α :=
  if strip settings.voiceSttProvider = strip settings.voiceTtsProvider then value else none

theorem ttsExported_eq : ttsExported settings setup = decide ¬(strip settings.voiceTtsProvider = "" ∨
    strip settings.voiceTtsProvider = "deterministic" ∧
      (ttsConfig settings setup).entries = []) := rfl

theorem sttExported_eq : sttExported settings setup = decide ¬(strip settings.voiceSttProvider = "" ∨
    strip settings.voiceSttProvider = "deterministic" ∧
      (sttConfig settings setup).entries = []) := rfl

theorem ttsPayload_eq_ok
    (h : ttsProviderSettingsPayload py settings setup runtime = .ok tts) :
    tts = none ∧ ttsExported settings setup = false ∨
      ttsExported settings setup = true ∧ strip settings.voiceTtsProvider ∈ ttsProviders ∧
        0 ≤ settings.voiceTtsOutputSampleRateHz ∧
        tts = some (ttsProviderSettingsOf py settings setup (strip settings.voiceTtsProvider)
          (ttsConfig settings setup) runtime) := by
  rcases ttsProviderSettingsPayload_cases py settings setup runtime with
    ⟨hnot, -, heq⟩ | ⟨hexported, hexports, heq⟩ | ⟨-, e, heq⟩
  · cases heq.symm.trans h
    exact .inl ⟨rfl, hnot⟩
  · rw [ttsExports, hexported] at hexports
    obtain ⟨hmem, hrate⟩ := Bool.and_eq_true_iff.mp hexports
    exact .inr ⟨hexported, of_decide_eq_true hmem, of_decide_eq_true hrate,
      (Except.ok.inj (heq.symm.trans h)).symm⟩
  · cases heq.symm.trans h

theorem sttPayload_of_not_exported (h : sttExported settings setup = false) :
    sttSettingsPayload py settings setup = .ok none := by
  rcases sttSettingsPayload_cases py settings setup with
    ⟨-, -, heq⟩ | ⟨hexported, -, -⟩ | ⟨hexports, -⟩
  · exact heq
  · rw [h] at hexported
    cases hexported
  · rw [sttExports, h] at hexports
    cases hexports

theorem sttPayload_of_exported (hmem : strip settings.voiceSttProvider ∈ sttProviders)
    (hprofile : resolveSttModelProfile py settings (sttConfig settings setup) = .ok profile)
    (h : sttExported settings setup = true) :
    sttSettingsPayload py settings setup =
      .ok (some (sttSettingsOf py settings setup (strip settings.voiceSttProvider)
        (sttConfig settings setup) profile)) := by
  unfold sttConfig at hprofile ⊢
  rcases sttSettingsPayload_cases py settings setup with
    ⟨hnot, -, -⟩ | ⟨-, -, profile', hprofile', heq⟩ | ⟨hexports, -⟩
  · rw [h] at hnot
    cases hnot
  · cases hprofile.symm.trans hprofile'
    exact heq
  · simp [sttExports, hmem, hprofile, Except.toOption] at hexports

theorem sttPayload_eq_ok (h : sttSettingsPayload py settings setup = .ok stt) :
    stt = none ∧ sttExported settings setup = false ∨
      ∃ profile, sttExported settings setup = true ∧
        strip settings.voiceSttProvider ∈ sttProviders ∧
        resolveSttModelProfile py settings (sttConfig settings setup) = .ok profile ∧
        stt = some (sttSettingsOf py settings setup (strip settings.voiceSttProvider)
          (sttConfig settings setup) profile) := by
  rcases sttSettingsPayload_cases py settings setup with
    ⟨hnot, -, heq⟩ | ⟨hexported, hexports, profile, hprofile, heq⟩ | ⟨-, e, heq⟩
  · cases heq.symm.trans h
    exact .inl ⟨rfl, hnot⟩
  · rw [sttExports, hexported] at hexports
    obtain ⟨hmem, -⟩ := Bool.and_eq_true_iff.mp hexports
    exact .inr ⟨profile, hexported, of_decide_eq_true hmem, hprofile,
      (Except.ok.inj (heq.symm.trans h)).symm⟩
  · cases heq.symm.trans h

theorem wakePayload_of_not_exported (h : wakeExported py settings setup = false) :
    wakeSettingsPayload py floatOf settings setup = .ok none := by
  rcases wakeSettingsPayload_cases py floatOf settings setup with
    ⟨-, -, heq⟩ | ⟨hexported, -, -⟩ | ⟨hexports, -⟩
  · exact heq
  · rw [h] at hexported
    cases hexported
  · rw [wakeExports, h] at hexports
    cases hexports

theorem wakePayload_of_exported (hexports : wakeExports py settings setup = true)
    (h : wakeExported py settings setup = true) :
    wakeSettingsPayload py floatOf settings setup =
      .ok (some (wakeSettingsOf py settings setup (strip settings.voiceWakeProvider)
        (configOf setup "wake") (normalizedWakeModels py settings.voiceWakeModels))) := by
  rcases wakeSettingsPayload_cases py floatOf settings setup with
    ⟨hnot, -, -⟩ | ⟨-, -, heq⟩ | ⟨hnot, -⟩
  · rw [h] at hnot
    cases hnot
  · exact heq
  · rw [hexports] at hnot
    cases hnot

theorem wakePayload_eq_ok (h : wakeSettingsPayload py floatOf settings setup = .ok wake) :
    wake = none ∧ wakeExported py settings setup = false ∨
      wakeExported py settings setup = true ∧ wakeExports py settings setup = true ∧
        wake = some (wakeSettingsOf py settings setup (strip settings.voiceWakeProvider)
          (configOf setup "wake") (normalizedWakeModels py settings.voiceWakeModels)) := by
  rcases wakeSettingsPayload_cases py floatOf settings setup with
    ⟨hnot, -, heq⟩ | ⟨hexported, hexports, heq⟩ | ⟨-, e, heq⟩
  · cases heq.symm.trans h
    exact .inl ⟨rfl, hnot⟩
  · exact .inr ⟨hexported, hexports, (Except.ok.inj (heq.symm.trans h)).symm⟩
  · cases heq.symm.trans h

theorem isSome_get_mergeConfig
    (h : (config.get key).isSome = true) (entries : List (String × Json)) :
    ((mergeConfig config entries).get key).isSome = true := by
  induction entries generalizing config with
  | nil => exact h
  | cons entry entries ih =>
    refine ih ?_
    rw [Dict.get_set]
    split
    · rfl
    · exact h

theorem entries_ne_nil
    (h : (config.get key).isSome = true) : config.entries ≠ [] := by
  rintro hempty
  rw [Dict.get, hempty] at h
  cases h

theorem ttsPayload_of_not_exported (h : ttsExported settings setup = false) :
    ttsProviderSettingsPayload py settings setup runtime = .ok none := by
  rcases ttsProviderSettingsPayload_cases py settings setup runtime with
    ⟨-, -, heq⟩ | ⟨hexported, -, -⟩ | ⟨hexports, -⟩
  · exact heq
  · rw [h] at hexported
    cases hexported
  · rw [ttsExports, h] at hexports
    cases hexports

theorem ttsPayload_of_exported (hmem : strip settings.voiceTtsProvider ∈ ttsProviders)
    (hrate : 0 ≤ settings.voiceTtsOutputSampleRateHz)
    (h : ttsExported settings setup = true) :
    ttsProviderSettingsPayload py settings setup runtime =
      .ok (some (ttsProviderSettingsOf py settings setup (strip settings.voiceTtsProvider)
        (ttsConfig settings setup) runtime)) := by
  rcases ttsProviderSettingsPayload_cases py settings setup runtime with
    ⟨hnot, -, -⟩ | ⟨-, -, heq⟩ | ⟨hexports, -⟩
  · rw [h] at hnot
    cases hnot
  · exact heq
  · simp [ttsExports, hmem, hrate] at hexports

/-- The sections that a setup exports. -/
structure Exported (tts : Option TtsProviderSettings) (stt : Option SttSettings)
    (wake : Option WakeSettings) : Prop where
  tts : ttsProviderSettingsPayload py settings setup runtime = .ok tts
  stt : sttSettingsPayload py settings setup = .ok stt
  wake : wakeSettingsPayload py floatOf settings setup = .ok wake

variable {py floatOf settings setup runtime}
  (h : Exported py floatOf settings setup runtime tts stt wake)

include h

theorem Exported.ttsProvider_ne_wake : strip settings.voiceTtsProvider ≠ "wake" := by
  rcases ttsPayload_eq_ok py settings setup runtime h.tts with ⟨-, hnot⟩ | ⟨-, hmem, -⟩
  · rintro heq
    simp [ttsExported, heq] at hnot
  · rintro heq
    rw [heq] at hmem
    exact absurd hmem (by decide)

theorem Exported.sttProvider_ne_wake : strip settings.voiceSttProvider ≠ "wake" := by
  rcases sttPayload_eq_ok py settings setup h.stt with ⟨-, hnot⟩ | ⟨profile, -, hmem, -⟩
  · rintro heq
    simp [sttExported, heq] at hnot
  · rintro heq
    rw [heq] at hmem
    exact absurd hmem (by decide)

theorem Exported.provider_tts : ∀ t ∈ tts, t.provider = strip settings.voiceTtsProvider := by
  rcases ttsPayload_eq_ok py settings setup runtime h.tts with ⟨rfl, -⟩ | ⟨-, -, -, rfl⟩
  · exact fun _ ht => nomatch ht
  · rintro _ ⟨⟩
    rw [ttsProviderSettingsOf]

theorem Exported.provider_stt : ∀ s ∈ stt, s.provider = strip settings.voiceSttProvider := by
  rcases sttPayload_eq_ok py settings setup h.stt with ⟨rfl, -⟩ | ⟨profile, -, -, -, rfl⟩
  · exact fun _ hs => nomatch hs
  · rintro _ ⟨⟩
    rw [sttSettingsOf]

/-- One provider for both is exported for both, or for none. -/
theorem Exported.shared :
    (ifShared settings stt).isSome = (ifShared settings tts).isSome := by
  unfold ifShared
  by_cases hshared : strip settings.voiceSttProvider = strip settings.voiceTtsProvider
  · rw [if_pos hshared, if_pos hshared]
    have hsame : sttExported settings setup = ttsExported settings setup := by
      rw [sttExported, ttsExported, hshared]
    rcases ttsPayload_eq_ok py settings setup runtime h.tts with
      ⟨rfl, htts⟩ | ⟨htts, -, -, rfl⟩ <;>
      rcases sttPayload_eq_ok py settings setup h.stt with ⟨rfl, hstt⟩ | ⟨_, hstt, -, -, rfl⟩
    · rfl
    · simp [hsame, htts] at hstt
    · simp [hsame, htts] at hstt
    · rfl
  · rw [if_neg hshared, if_neg hshared]
    rfl

theorem Exported.ttsConfig_merged : ttsConfig settings (mergedSections setup tts stt wake) =
    mergeConfig (mergeConfig (ttsConfig settings setup) (tts.elim [] (·.config)))
      ((ifShared settings stt).elim [] (·.config)) := by
  have hwake : configFor (strip settings.voiceTtsProvider) (fun _ => "wake") WakeSettings.config
      wake = [] := by
    cases wake with
    | none => rfl
    | some wake => exact if_neg h.ttsProvider_ne_wake
  have htts : configFor (strip settings.voiceTtsProvider) TtsProviderSettings.provider
      TtsProviderSettings.config tts = tts.elim [] (·.config) := by
    cases htts : tts with
    | none => rfl
    | some t => exact if_pos (h.provider_tts t htts).symm
  have hstt : configFor (strip settings.voiceTtsProvider) SttSettings.provider
      SttSettings.config stt = (ifShared settings stt).elim [] (·.config) := by
    unfold configFor ifShared
    cases hstt : stt with
    | none => rw [ite_self, Option.elim_none, Option.elim_none]
    | some s =>
      rw [Option.elim_some, h.provider_stt s hstt]
      by_cases hshared : strip settings.voiceSttProvider = strip settings.voiceTtsProvider
      · rw [if_pos hshared.symm, if_pos hshared, Option.elim_some]
      · rw [if_neg fun heq => hshared heq.symm, if_neg hshared, Option.elim_none]
  rw [ttsConfig, configOf_mergedSections, hwake, htts, hstt]
  rfl

theorem Exported.sttConfig_merged : sttConfig settings (mergedSections setup tts stt wake) =
    mergeConfig (mergeConfig (sttConfig settings setup)
      ((ifShared settings tts).elim [] (·.config))) (stt.elim [] (·.config)) := by
  have hwake : configFor (strip settings.voiceSttProvider) (fun _ => "wake") WakeSettings.config
      wake = [] := by
    cases wake with
    | none => rfl
    | some wake => exact if_neg h.sttProvider_ne_wake
  have htts : configFor (strip settings.voiceSttProvider) TtsProviderSettings.provider
      TtsProviderSettings.config tts = (ifShared settings tts).elim [] (·.config) := by
    unfold configFor ifShared
    cases htts : tts with
    | none => rw [ite_self, Option.elim_none, Option.elim_none]
    | some t =>
      rw [Option.elim_some, h.provider_tts t htts]
      by_cases hshared : strip settings.voiceSttProvider = strip settings.voiceTtsProvider
      · rw [if_pos hshared, if_pos hshared, Option.elim_some]
      · rw [if_neg hshared, if_neg hshared, Option.elim_none]
  have hstt : configFor (strip settings.voiceSttProvider) SttSettings.provider
      SttSettings.config stt = stt.elim [] (·.config) := by
    cases hstt : stt with
    | none => rfl
    | some s => exact if_pos (h.provider_stt s hstt).symm
  rw [sttConfig, configOf_mergedSections, hwake, htts, hstt]
  rfl

theorem Exported.wakeConfig_merged : configOf (mergedSections setup tts stt wake) "wake" =
    mergeConfig (configOf setup "wake") (wake.elim [] (·.config)) := by
  have htts : configFor "wake" TtsProviderSettings.provider TtsProviderSettings.config tts = [] := by
    cases htts : tts with
    | none => rfl
    | some t => exact if_neg fun heq => h.ttsProvider_ne_wake (heq.trans (h.provider_tts t htts)).symm
  have hstt : configFor "wake" SttSettings.provider SttSettings.config stt = [] := by
    cases hstt : stt with
    | none => rfl
    | some s => exact if_neg fun heq => h.sttProvider_ne_wake (heq.trans (h.provider_stt s hstt)).symm
  rw [configOf_mergedSections, htts, hstt]
  cases wake <;> rfl

/-- **Merging what was exported keeps the enabled providers and the default one.** -/
theorem Exported.kept : Kept setup (mergedSections setup tts stt wake) := by
  have hkeptTts : Kept setup (mergeOption setup mergeTtsProviderSettings tts) := by
    rcases ttsPayload_eq_ok py settings setup runtime h.tts with ⟨rfl, -⟩ | ⟨-, -, -, rfl⟩
    · exact .refl setup
    · exact (Kept.refl setup).mergeTts (by rw [ttsProviderSettingsOf])
        (by rw [ttsProviderSettingsOf])
  have hkeptStt : Kept setup
      (mergeOption (mergeOption setup mergeTtsProviderSettings tts) mergeSttSettings stt) := by
    rcases sttPayload_eq_ok py settings setup h.stt with ⟨rfl, -⟩ | ⟨profile, -, -, -, rfl⟩
    · exact hkeptTts
    · exact hkeptTts.mergeStt (by rw [sttSettingsOf]) (by rw [sttSettingsOf])
  rcases wakePayload_eq_ok py floatOf settings setup h.wake with ⟨rfl, -⟩ | ⟨-, -, rfl⟩
  · exact hkeptStt
  · exact hkeptStt.mergeWake (by rw [wakeSettingsOf])

/-- **The section for speech output, exported again**, is the same if the provider has no other
model for speech recognition. -/
theorem Exported.tts_again : ∃ tts', ttsProviderSettingsPayload py settings
    (mergedSections setup tts stt wake) runtime = .ok tts' ∧
      (tts' = tts ↔
        ∀ t ∈ tts, ((ifShared settings stt).bind (·.model)).or t.model = t.model) := by
  have hmerged := h.ttsConfig_merged
  have hkept := h.kept
  have hshared := h.shared
  generalize mergedSections setup tts stt wake = setup' at hmerged hkept ⊢
  rcases ttsPayload_eq_ok py settings setup runtime h.tts with
    ⟨rfl, hnot⟩ | ⟨hexported, hmem, hrate, hsome⟩
  · have hnone : ifShared settings stt = none := by
      refine Option.not_isSome_iff_eq_none.mp ?_
      rw [hshared, ifShared, ite_self]
      exact fun h => nomatch h
    rw [hnone] at hmerged
    refine ⟨none, ttsPayload_of_not_exported py settings _ runtime ?_,
      iff_of_true rfl fun _ ht => nomatch ht⟩
    rw [ttsExported_eq] at hnot ⊢
    rw [hmerged]
    exact hnot
  · subst hsome
    have hchecked := checked_of_ttsProviderSettingsPayload py h.tts
    rw [Option.elim_some] at hmerged
    have hstt : ∀ stt' ∈ ifShared settings stt, (∀ t ∈ stt'.model, Clean t) ∧
        stt'.warmModels = texts py (items (ttsConfig settings setup) "warm_models") := by
      rintro stt' hstt'
      unfold ifShared at hstt'
      split at hstt'
      · next hproviders =>
        rcases sttPayload_eq_ok py settings setup h.stt with ⟨rfl, -⟩ | ⟨profile, -, -, -, rfl⟩
        · cases hstt'
        · cases hstt'
          refine ⟨(checked_of_sttSettingsPayload py h.stt).model, ?_⟩
          rw [sttSettingsOf, sttConfig, ttsConfig, hproviders]
      · cases hstt'
    refine ⟨_, ttsPayload_of_exported py settings setup' runtime hmem hrate ?_, ?_⟩
    · have hentries : (ttsConfig settings setup').entries ≠ [] := by
        rw [hmerged]
        refine entries_ne_nil (isSome_get_mergeConfig (?_ : Option.isSome (Dict.get _ "enabled") = _) _)
        rw [get_ttsConfig, ttsProviderSettingsOf]
        rfl
      rw [ttsExported_eq]
      refine decide_eq_true fun hnone => ?_
      rcases hnone with hnone | ⟨-, hnone⟩
      · rw [hnone] at hmem
        exact absurd hmem (by decide)
      · exact hentries hnone
    · rw [ttsProviderSettingsOf_merged py settings setup hkept _ rfl hchecked hstt hmerged]
      generalize ttsProviderSettingsOf py settings setup (strip settings.voiceTtsProvider)
        (ttsConfig settings setup) runtime = t
      rw [Option.some_inj]
      constructor
      · rintro heq _ ⟨⟩
        exact congrArg TtsProviderSettings.model heq
      · rintro heq
        rw [heq t rfl]

/-- **The section for speech recognition, exported again**, is the same if what is warm is
preloaded and the provider has no other model or warm models for speech output. -/
theorem Exported.stt_again : ∃ stt', sttSettingsPayload py settings
    (mergedSections setup tts stt wake) = .ok stt' ∧
      (stt' = stt ↔ ∀ s ∈ stt, s.warmModel = s.preload ∧
        s.model.or ((ifShared settings tts).bind (·.model)) = s.model ∧
        (s.warmModels = [] → (ifShared settings tts).elim [] (·.warmModels) = [])) := by
  have hmerged := h.sttConfig_merged
  have hkept := h.kept
  have hshared := h.shared
  generalize mergedSections setup tts stt wake = setup' at hmerged hkept ⊢
  rcases sttPayload_eq_ok py settings setup h.stt with
    ⟨rfl, hnot⟩ | ⟨profile, hexported, hmem, hprofile, hsome⟩
  · have hnone : ifShared settings tts = none := by
      refine Option.not_isSome_iff_eq_none.mp ?_
      rw [← hshared, ifShared, ite_self]
      exact fun h => nomatch h
    rw [hnone] at hmerged
    refine ⟨none, sttPayload_of_not_exported py settings _ ?_,
      iff_of_true rfl fun _ hs => nomatch hs⟩
    rw [sttExported_eq] at hnot ⊢
    rw [hmerged]
    exact hnot
  · subst hsome
    have hchecked := checked_of_sttSettingsPayload py h.stt
    rw [Option.elim_some] at hmerged
    have htts : ∀ tts' ∈ ifShared settings tts, tts'.Checked := by
      rintro tts' htts'
      unfold ifShared at htts'
      split at htts'
      · exact checked_of_ttsProviderSettingsPayload py (h.tts.trans (by rw [htts']))
      · cases htts'
    obtain ⟨profile', hagain, hsection⟩ := sttSettingsOf_merged py settings setup hkept
      (strip settings.voiceSttProvider) hprofile rfl hchecked htts hmerged
    refine ⟨_, sttPayload_of_exported py settings setup' hmem hagain ?_, ?_⟩
    · have hentries : (sttConfig settings setup').entries ≠ [] := by
        rw [hmerged]
        refine entries_ne_nil (?_ : Option.isSome (Dict.get _ "enabled") = _)
        rw [get_sttConfig, sttSettingsOf]
        rfl
      rw [sttExported_eq]
      refine decide_eq_true fun hnone => ?_
      rcases hnone with hnone | ⟨-, hnone⟩
      · rw [hnone] at hmem
        exact absurd hmem (by decide)
      · exact hentries hnone
    · rw [hsection]
      generalize sttSettingsOf py settings setup (strip settings.voiceSttProvider)
        (sttConfig settings setup) profile = s
      rw [Option.some_inj]
      constructor
      · rintro heq _ ⟨⟩
        refine ⟨congrArg SttSettings.preload heq, congrArg SttSettings.model heq, fun hempty => ?_⟩
        have hwarm := congrArg SttSettings.warmModels heq
        dsimp only at hwarm
        rwa [if_pos hempty, hempty] at hwarm
      · rintro heq
        obtain ⟨hpreload, hmodel, hwarm⟩ := heq s rfl
        have hwarmModels : (if s.warmModels = [] then
            (ifShared settings tts).elim [] (·.warmModels) else s.warmModels) = s.warmModels := by
          split
          · next hempty => rw [hwarm hempty, hempty]
          · rfl
        rw [hmodel, hwarmModels]
        exact congrArg (fun preload => { s with preload }) hpreload

/-- **The section for the wake word, exported again**, is the same if no models stand in for warm
ones. -/
theorem Exported.wake_again : ∃ wake', wakeSettingsPayload py floatOf settings
    (mergedSections setup tts stt wake) = .ok wake' ∧
      (wake' = wake ↔ ∀ w ∈ wake, w.warmModels = [] → w.models = []) := by
  have hmerged := h.wakeConfig_merged
  have hkept := h.kept
  generalize mergedSections setup tts stt wake = setup' at hmerged hkept ⊢
  rcases wakePayload_eq_ok py floatOf settings setup h.wake with
    ⟨rfl, hnot⟩ | ⟨hexported, hexports, hsome⟩
  · refine ⟨none, wakePayload_of_not_exported py floatOf settings _ ?_,
      iff_of_true rfl fun _ hw => nomatch hw⟩
    unfold wakeExported at hnot ⊢
    rw [hmerged]
    exact hnot
  · subst hsome
    have hchecked := checked_of_wakeSettingsPayload py floatOf h.wake
    rw [Option.elim_some] at hmerged
    have hentries : (configOf setup' "wake").entries ≠ [] := by
      rw [hmerged]
      refine entries_ne_nil (?_ : Option.isSome (Dict.get _ "enabled") = _)
      rw [get_wakeConfig]
      rfl
    have hexported' : wakeExported py settings setup' = true := by
      unfold wakeExported at hexported ⊢
      refine decide_eq_true fun hnone => of_decide_eq_true hexported ?_
      rcases hnone with hnone | ⟨-, hnone, -⟩
      · exact .inl hnone
      · exact absurd hnone hentries
    have hexports' : wakeExports py settings setup' = true := by
      unfold wakeExports at hexports ⊢
      rw [hexported] at hexports
      rw [hexported']
      exact hexports
    refine ⟨_, wakePayload_of_exported py floatOf settings setup' hexports' hexported', ?_⟩
    rw [hmerged, wakeSettingsOf_again py settings setup hkept _ rfl hchecked]
    generalize wakeSettingsOf py settings setup (strip settings.voiceWakeProvider)
      (configOf setup "wake") (normalizedWakeModels py settings.voiceWakeModels) = w
    rw [Option.some_inj]
    constructor
    · rintro heq _ ⟨⟩ hempty
      have hwarm := congrArg WakeSettings.warmModels heq
      dsimp only at hwarm
      rwa [if_pos hempty, hempty] at hwarm
    · rintro heq
      have hwarm : (if w.warmModels = [] then w.models else w.warmModels) = w.warmModels := by
        split
        · next hempty => rw [heq w rfl hempty, hempty]
        · rfl
      rw [hwarm]

omit h

variable (py settings setup runtime)

/-- No models stand in for warm models of the wake word. -/
def keepsWake : Bool :=
  !wakeExported py settings setup || texts py (items (configOf setup "wake") "warm_models") ≠ [] ||
    normalizedWakeModels py settings.voiceWakeModels = [] &&
      defaultWakeword py (configOf setup "wake") [] = ""

/-- The entry is `null`. -/
def isNull : Option Json → Bool
  | some .null => true
  | _ => false

theorem isNull_iff {value : Option Json} : isNull value = true ↔ value = some .null := by
  constructor
  · intro h
    unfold isNull at h
    split at h
    · rfl
    · cases h
  · rintro rfl
    rfl

/-- No `null` for `warm_model` stands beside a preload, and a provider for both speech recognition
and speech output has one model for both, and warm models if there are warm voices. -/
def keepsStt : Bool :=
  !sttExported settings setup ||
    match resolveSttModelProfile py settings (sttConfig settings setup) with
    | .error _ => true
    | .ok profile =>
      !(isNull ((sttConfig settings setup).get "warm_model") && profile.preload) &&
        (strip settings.voiceSttProvider ≠ strip settings.voiceTtsProvider ||
          nonempty (strip profile.model) =
              ttsModelOf py settings (item (ttsConfig settings setup) "model") &&
            (texts py (items (sttConfig settings setup) "warm_models") ≠ [] ||
              resolvedPiperTtsWarmVoices py settings runtime = []))

/-- The import has no fallback of its own to take for what is exported of the setup. -/
def keepsSections : Bool := keepsWake py settings setup && keepsStt py settings setup runtime

variable {py settings setup runtime}

include h

theorem Exported.wake_kept :
    (∀ w ∈ wake, w.warmModels = [] → w.models = []) ↔ keepsWake py settings setup = true := by
  unfold keepsWake
  rcases wakePayload_eq_ok py floatOf settings setup h.wake with
    ⟨rfl, hnot⟩ | ⟨hexported, hexports, hsome⟩
  · rw [hnot]
    exact iff_of_true (fun _ hw => nomatch hw) rfl
  · have hwarm : ∀ w ∈ wake,
        w.warmModels = [] ↔ texts py (items (configOf setup "wake") "warm_models") = [] := by
      rintro w hw
      cases hsome.symm.trans hw
      rw [wakeSettingsOf, List.map_eq_nil_iff]
    have hmodels : ∀ w ∈ wake, w.models = [] ↔
        normalizedWakeModels py settings.voiceWakeModels = [] ∧
          defaultWakeword py (configOf setup "wake") [] = "" := by
      rintro w hw
      cases hsome.symm.trans hw
      rw [wakeSettingsOf]
      dsimp only
      by_cases hempty : normalizedWakeModels py settings.voiceWakeModels = []
      · rw [if_pos hempty, hempty, Option.toList_eq_nil_iff, nonempty]
        simp
      · rw [if_neg hempty]
        simp [hempty]
    rw [hsome] at hwarm hmodels ⊢
    generalize wakeSettingsOf py settings setup (strip settings.voiceWakeProvider)
      (configOf setup "wake") (normalizedWakeModels py settings.voiceWakeModels) = w
      at hwarm hmodels
    rw [hexported]
    simp only [Option.mem_some_iff, forall_eq', hwarm w rfl, hmodels w rfl, Bool.not_true,
      Bool.false_or, Bool.or_eq_true, Bool.and_eq_true, decide_eq_true_iff, ne_eq,
      or_iff_not_imp_left, not_not]

/-- The warm voices of an exported section, if no warm models are configured. -/
theorem Exported.warmVoices (hempty : texts py (items (ttsConfig settings setup) "warm_models") = []) :
    ∀ t ∈ tts, t.warmModels = resolvedPiperTtsWarmVoices py settings runtime := by
  rcases ttsPayload_eq_ok py settings setup runtime h.tts with ⟨rfl, -⟩ | ⟨-, -, -, rfl⟩
  · exact fun _ ht => nomatch ht
  · rintro _ ⟨⟩
    rw [ttsProviderSettingsOf_warmModels, hempty]
    rfl

theorem Exported.stt_kept :
    ((∀ t ∈ tts, ((ifShared settings stt).bind (·.model)).or t.model = t.model) ∧
      ∀ s ∈ stt, s.warmModel = s.preload ∧
        s.model.or ((ifShared settings tts).bind (·.model)) = s.model ∧
        (s.warmModels = [] → (ifShared settings tts).elim [] (·.warmModels) = [])) ↔
      keepsStt py settings setup runtime = true := by
  unfold keepsStt
  rcases sttPayload_eq_ok py settings setup h.stt with
    ⟨rfl, hnot⟩ | ⟨profile, hexported, hmem, hprofile, hsome⟩
  · rw [hnot, ifShared, ite_self]
    exact iff_of_true ⟨fun _ _ => rfl, fun _ hs => nomatch hs⟩ rfl
  · have hwarm := warm_eq_preload_of_resolved py settings hprofile
    have hpreload : ∀ s ∈ stt, s.warmModel = s.preload ↔
        ¬((sttConfig settings setup).get "warm_model" = some .null ∧ profile.preload = true) := by
      rintro s hs
      cases hsome.symm.trans hs
      rw [sttSettingsOf]
      exact hwarm
    have hmodel : ∀ s ∈ stt, s.model = nonempty (strip profile.model) := by
      rintro s hs
      cases hsome.symm.trans hs
      rw [sttSettingsOf]
    have hwarmModels : ∀ s ∈ stt,
        s.warmModels = texts py (items (sttConfig settings setup) "warm_models") := by
      rintro s hs
      cases hsome.symm.trans hs
      rw [sttSettingsOf]
    have hshared := h.shared
    rw [hsome] at hpreload hmodel hwarmModels hshared ⊢
    generalize sttSettingsOf py settings setup (strip settings.voiceSttProvider)
      (sttConfig settings setup) profile = s at hpreload hmodel hwarmModels hshared
    have hpreload := hpreload s rfl
    have hmodel := hmodel s rfl
    have hwarmModels := hwarmModels s rfl
    rw [hexported, hprofile]
    dsimp only
    rw [← hmodel, ← hwarmModels]
    simp only [Bool.not_true, Bool.false_or, Bool.and_eq_true, Bool.not_eq_true',
      ← Bool.not_eq_true, isNull_iff, ← hpreload, Option.mem_some_iff, forall_eq']
    by_cases hproviders : strip settings.voiceSttProvider = strip settings.voiceTtsProvider
    · unfold ifShared at hshared ⊢
      rw [if_pos hproviders, if_pos hproviders] at hshared
      rw [if_pos hproviders, if_pos hproviders]
      obtain ⟨t, rfl⟩ := Option.isSome_iff_exists.mp hshared.symm
      have hconfig : ttsConfig settings setup = sttConfig settings setup := by
        rw [ttsConfig, sttConfig, hproviders]
      have htts : ttsModelOf py settings (item (ttsConfig settings setup) "model") = t.model := by
        rcases ttsPayload_eq_ok py settings setup runtime h.tts with ⟨hnone, -⟩ | ⟨-, -, -, ht⟩
        · cases hnone
        · rw [Option.some.inj ht, ttsProviderSettingsOf_model]
      have hvoices : s.warmModels = [] →
          (t.warmModels = [] ↔ resolvedPiperTtsWarmVoices py settings runtime = []) := by
        intro hempty
        rw [h.warmVoices (by rw [hconfig, ← hwarmModels, hempty]) t rfl]
      rw [htts]
      simp only [Option.bind_some, Option.elim_some, Option.mem_some_iff, forall_eq', hproviders,
        ne_eq, not_true_eq_false, decide_false, Bool.false_or, Bool.and_eq_true, Bool.or_eq_true,
        decide_eq_true_iff]
      constructor
      · rintro ⟨hleft, hwarmModel, hright, hempty⟩
        refine ⟨hwarmModel, hright.symm.trans hleft, ?_⟩
        by_cases hnone : s.warmModels = []
        · exact .inr ((hvoices hnone).mp (hempty hnone))
        · exact .inl hnone
      · rintro ⟨hwarmModel, hsame, hnonempty⟩
        rw [hsame, Option.or_self]
        refine ⟨rfl, hwarmModel, rfl, fun hempty => (hvoices hempty).mpr ?_⟩
        exact hnonempty.resolve_left (not_not.mpr hempty)
    · unfold ifShared
      rw [if_neg hproviders, if_neg hproviders]
      simp [hproviders]

/-- **The sections of a merged setup are those that were merged exactly if nothing falls back.** -/
theorem Exported.again : ∃ tts' stt' wake',
    Exported py floatOf settings (mergedSections setup tts stt wake) runtime tts' stt' wake' ∧
      (tts' = tts ∧ stt' = stt ∧ wake' = wake ↔
        keepsSections py settings setup runtime = true) := by
  obtain ⟨tts', htts, httsSame⟩ := h.tts_again
  obtain ⟨stt', hstt, hsttSame⟩ := h.stt_again
  obtain ⟨wake', hwake, hwakeSame⟩ := h.wake_again
  refine ⟨tts', stt', wake', ⟨htts, hstt, hwake⟩, ?_⟩
  rw [keepsSections, Bool.and_eq_true, ← h.wake_kept, ← h.stt_kept, httsSame, hsttSame, hwakeSame,
    ← and_assoc, and_comm]

omit h

end exports

/-! ### Migrating twice -/

section migration

variable (py : Python) (floatOf : String → Option PyFloat) (pydantic : Pydantic)
  {ρ ι : Type} (registryModel : PydanticModel ρ) (intentModel : PydanticModel ι)

variable {runtime : JsonObject}
  (settings : Settings)

/-- A section of a bundle. -/
def sectionOf (bundle : JsonObject) (key : String) : Json :=
  match item bundle "state_files" with
  | .obj stateFiles => item stateFiles key
  | _ => .null

/-- The sections with the settings of the providers. -/
def providerSections : List String :=
  ["voice_stt_settings", "voice_tts_provider_settings", "voice_wake_settings"]

/-- A section that is checked to itself is the same exactly if its JSON is. -/
theorem toJson_eq_iff {α : Type} (toJson : α → Json) (check : Json → Except MigrationError α)
    (value value' : Option α) (hnull : ∀ a, toJson a ≠ .null)
    (h : ∀ a ∈ value, check (toJson a) = .ok a) (h' : ∀ a ∈ value', check (toJson a) = .ok a) :
    (value'.map toJson).getD .null = (value.map toJson).getD .null ↔ value' = value := by
  constructor
  · intro heq
    cases value with
    | none =>
      cases value' with
      | none => rfl
      | some a => exact absurd heq (hnull a)
    | some a =>
      cases value' with
      | none => exact absurd heq.symm (hnull a)
      | some a' =>
        have hcheck := (h' a' rfl).symm.trans ((congrArg check heq).trans (h a rfl))
        rw [Except.ok.inj hcheck]
  · rintro rfl
    rfl

/-- **The provider sections of a bundle are the same exactly if the exported ones are.** -/
theorem sectionOf_eq_iff {setup setup' : ProviderSetupState}
    {tts tts' : Option TtsProviderSettings} {stt stt' : Option SttSettings}
    {wake wake' : Option WakeSettings} (h : Exported py floatOf settings setup runtime tts stt wake)
    (h' : Exported py floatOf settings setup' runtime tts' stt' wake')
    (state state' : PersistedOnboardingState) (registry registry' : ρ) (intents intents' : Option ι)
    (ttsSettings ttsSettings' : Option JsonObject) (exportedAt exportedAt' : String)
    (nodeId nodeId' : Option String) :
    (∀ key ∈ providerSections,
      sectionOf (exportedBundle settings exportedAt' nodeId' (exportedStateFiles registryModel
        intentModel state' registry' intents' ttsSettings' tts' stt' wake')) key =
      sectionOf (exportedBundle settings exportedAt nodeId (exportedStateFiles registryModel
        intentModel state registry intents ttsSettings tts stt wake)) key) ↔
      tts' = tts ∧ stt' = stt ∧ wake' = wake := by
  have hsection (exportedAt : String) (nodeId : Option String) (stateFiles : JsonObject)
      (key : String) : sectionOf (exportedBundle settings exportedAt nodeId stateFiles) key =
        (stateFiles.get key).getD .null := rfl
  have htts := toJson_eq_iff (fun tts : TtsProviderSettings => .obj tts.toJson)
    (validateTtsProviderSettings py) tts tts'
    (fun _ => nofun)
    (by
      rintro a rfl
      exact validateTtsProviderSettings_toJson py (checked_of_ttsProviderSettingsPayload py h.tts))
    (by
      rintro a rfl
      exact validateTtsProviderSettings_toJson py (checked_of_ttsProviderSettingsPayload py h'.tts))
  have hstt := toJson_eq_iff (fun stt : SttSettings => .obj stt.toJson)
    (validateSttSettings py) stt stt'
    (fun _ => nofun)
    (by
      rintro a rfl
      exact validateSttSettings_toJson py (checked_of_sttSettingsPayload py h.stt))
    (by
      rintro a rfl
      exact validateSttSettings_toJson py (checked_of_sttSettingsPayload py h'.stt))
  have hwake := toJson_eq_iff (fun wake : WakeSettings => .obj wake.toJson)
    (validateWakeSettings py floatOf) wake wake'
    (fun _ => nofun)
    (by
      rintro a rfl
      exact validateWakeSettings_toJson py floatOf (checked_of_wakeSettingsPayload py floatOf h.wake))
    (by
      rintro a rfl
      exact validateWakeSettings_toJson py floatOf
        (checked_of_wakeSettingsPayload py floatOf h'.wake))
  simp only [providerSections, List.forall_mem_cons, List.not_mem_nil, false_imp_iff, implies_true,
    and_true, hsection, get_exportedStateFiles, String.reduceEq, if_false, if_true]
  rw [htts, hstt, hwake]
  exact ⟨fun ⟨hstt, htts, hwake⟩ => ⟨htts, hstt, hwake⟩, fun ⟨htts, hstt, hwake⟩ => ⟨hstt, htts, hwake⟩⟩

/-- What is exported is what an import merges. -/
theorem mergedSetup_exported {setup : ProviderSetupState}
    {tts : Option TtsProviderSettings} {stt : Option SttSettings} {wake : Option WakeSettings}
    (h : Exported py floatOf settings setup runtime tts stt wake)
    (state : PersistedOnboardingState) (registry : ρ) (intents : Option ι)
    (ttsSettings : Option JsonObject) :
    mergedSetup py floatOf (exportedStateFiles registryModel intentModel state registry intents
      ttsSettings tts stt wake) setup = mergedSections setup tts stt wake := by
  have hget := get_exportedStateFiles registryModel intentModel state registry intents ttsSettings
    tts stt wake
  generalize exportedStateFiles registryModel intentModel state registry intents ttsSettings tts stt
    wake = stateFiles at hget
  have hmerge {α : Type} (key : String) (check : Json → Except MigrationError α)
      (merge : ProviderSetupState → α → ProviderSetupState) (toJson : α → Json) (value : Option α)
      (setup : ProviderSetupState) (hkey : stateFiles.get key = value.map toJson)
      (hnull : ∃ e, check .null = .error e) (hcheck : ∀ a ∈ value, check (toJson a) = .ok a) :
      mergeSection stateFiles key check merge setup = mergeOption setup merge value := by
    unfold mergeSection item
    rw [hkey]
    cases value with
    | none =>
      obtain ⟨e, he⟩ := hnull
      rw [Option.map_none, Option.getD_none, he]
      rfl
    | some a =>
      rw [Option.map_some, Option.getD_some, hcheck a rfl]
      rfl
  unfold mergedSetup mergedSections
  rw [hmerge "voice_tts_provider_settings" _ _ (fun tts => .obj tts.toJson) tts _ (hget _)
      ⟨_, rfl⟩, hmerge "voice_stt_settings" _ _ (fun stt => .obj stt.toJson) stt _ (hget _)
      ⟨_, rfl⟩, hmerge "voice_wake_settings" _ _ (fun wake => .obj wake.toJson) wake _ (hget _)
      ⟨_, rfl⟩]
  · rintro a rfl
    exact validateWakeSettings_toJson py floatOf (checked_of_wakeSettingsPayload py floatOf h.wake)
  · rintro a rfl
    exact validateSttSettings_toJson py (checked_of_sttSettingsPayload py h.stt)
  · rintro a rfl
    exact validateTtsProviderSettings_toJson py (checked_of_ttsProviderSettingsPayload py h.tts)

theorem runtimeConfig_imported {file file' : StoreFile Json} {ttsSettings : Option JsonObject}
    {stateFiles : JsonObject} (hread : readTtsSettings settings file = .ok ttsSettings)
    (hget : stateFiles.get "voice_tts_settings" = ttsSettings.map .obj)
    (himport : item stateFiles "voice_tts_settings" = .null ∧ file' = .missing ∨
      ∃ entries, item stateFiles "voice_tts_settings" = .obj entries ∧
        file' = .valid (.obj entries)) :
    runtimeConfig file' = runtimeConfig file ∧
      ∃ ttsSettings', readTtsSettings settings file' = .ok ttsSettings' := by
  rw [item, hget] at himport
  unfold readTtsSettings at hread
  split at hread
  · cases hread
    rcases himport with ⟨-, rfl⟩ | ⟨entries, hentries, -⟩
    · exact ⟨rfl, none, rfl⟩
    · cases hentries
  · cases hread
    rcases himport with ⟨hnull, -⟩ | ⟨entries, hentries, rfl⟩
    · cases hnull
    · cases hentries
      exact ⟨rfl, _, rfl⟩
  · cases hread
  · cases hread

/-- **What the import of an exported bundle leaves of an empty node.** -/
theorem imported_of_exported {setup : ProviderSetupState}
    {tts : Option TtsProviderSettings} {stt : Option SttSettings} {wake : Option WakeSettings}
    (h : Exported py floatOf settings setup runtime tts stt wake) {state : PersistedOnboardingState}
    (hsetup : state.providerSetup = setup) {registry : ρ} {intents : Option ι}
    {ttsSettings : Option JsonObject} {stateFiles : JsonObject}
    (hexported : exportedStateFiles registryModel intentModel state registry intents ttsSettings tts
      stt wake = stateFiles) {bundle : JsonObject} (hfiles : item bundle "state_files" = .obj stateFiles)
    {r : NodeMigrationImportResponse} {after : Stores ρ ι}
    (himport : importBundle py floatOf pydantic registryModel intentModel { bundle } {} =
      .ok r after) :
    ∃ state', after.onboardingState = .valid state' ∧
      state'.providerSetup = mergedSections setup tts stt wake ∧
      OtherFiles stateFiles {} after := by
  rw [importBundle, if_neg (by simp)] at himport
  obtain ⟨stateFiles', hfiles', hreached, hother⟩ :=
    reached_of_importStateFiles py floatOf pydantic registryModel intentModel himport
  obtain ⟨-, hitem, -⟩ := stateFilesOf_eq_ok.mp hfiles'
  cases hfiles.symm.trans hitem
  have hget := get_exportedStateFiles registryModel intentModel state registry intents ttsSettings
    tts stt wake "onboarding_state"
  have hmergedSetup := mergedSetup_exported py floatOf registryModel intentModel settings h
    state registry intents ttsSettings
  rw [hexported] at hget hmergedSetup
  have hpayload : item stateFiles "onboarding_state" = .obj (redacted state).modelDump :=
    congrArg (·.getD .null) hget
  have hpresent : present stateFiles "onboarding_state" = true := by
    rw [present, hpayload]
  rw [Reached, savesState, hpresent, baseState, if_pos hpresent, hpayload, checkOnboardingState,
    PersistedOnboardingState.modelValidate_modelDump] at hreached
  obtain ⟨_, ⟨⟩, hafter, -⟩ := hreached
  refine ⟨_, hafter, ?_, hother⟩
  have hkeep (request : NodeMigrationImportRequest) :
      (applyDestinationOverrides (redacted state) request).providerSetup = setup := hsetup
  rw [hkeep, hmergedSetup]

/-- **A node that is migrated and exported again has the same provider sections exactly if nothing
falls back**, and always the same enabled providers and default one. -/
theorem migrating_twice {stores after : Stores ρ ι} {exportedAt : String} {bundle : JsonObject}
    {r : NodeMigrationImportResponse}
    (hexport : exportBundle py floatOf registryModel intentModel settings false exportedAt stores =
      .ok bundle)
    (himport : importBundle py floatOf pydantic registryModel intentModel { bundle } {} =
      .ok r after) (exportedAgainAt : String) :
    ∃ state state' bundle', stores.onboardingState.load {} = .ok state ∧
      after.onboardingState.load {} = .ok state' ∧
      exportBundle py floatOf registryModel intentModel settings false exportedAgainAt after =
        .ok bundle' ∧
      state'.providerSetup.enabledProviders = state.providerSetup.enabledProviders ∧
      state'.providerSetup.defaultProvider = state.providerSetup.defaultProvider ∧
      ((∀ key ∈ providerSections, sectionOf bundle' key = sectionOf bundle key) ↔
        keepsSections py settings state.providerSetup (runtimeConfig stores.ttsSettings) = true) := by
  obtain ⟨state, registry, intents, ttsSettings, tts, stt, wake, hstate, -, -, hsettings, htts, hstt,
    hwake, rfl⟩ := (exportBundle_eq_ok py floatOf registryModel intentModel settings).mp hexport
  have hexported : Exported py floatOf settings state.providerSetup
      (runtimeConfig stores.ttsSettings) tts stt wake := ⟨htts, hstt, hwake⟩
  have hget := get_exportedStateFiles registryModel intentModel state registry intents ttsSettings
    tts stt wake "voice_tts_settings"
  obtain ⟨state', hafter, hsetup, hother⟩ := imported_of_exported py floatOf pydantic registryModel
    intentModel settings hexported rfl rfl rfl himport
  obtain ⟨tts', stt', wake', hexported', hiff⟩ := hexported.again
  obtain ⟨hregistry, hintents, hruntime⟩ := hother
  obtain ⟨registry', hregistry⟩ : ∃ registry',
      after.endpointRegistry.load registryModel.default = .ok registry' := by
    rcases hregistry with hregistry | ⟨registry', hregistry⟩ <;> rw [hregistry] <;> exact ⟨_, rfl⟩
  obtain ⟨intents', hintents⟩ : ∃ intents', readVoiceIntents after.voiceIntents = .ok intents' := by
    rcases hintents with hintents | ⟨intents', hintents⟩ <;> rw [hintents] <;> exact ⟨_, rfl⟩
  obtain ⟨hruntime, ttsSettings', hsettings'⟩ :
      runtimeConfig after.ttsSettings = runtimeConfig stores.ttsSettings ∧
        ∃ ttsSettings', readTtsSettings settings after.ttsSettings = .ok ttsSettings' :=
    runtimeConfig_imported settings hsettings hget hruntime
  rw [← hruntime, ← hsetup] at hexported'
  refine ⟨state, state', _, hstate, congrArg (·.load {}) hafter,
    (exportBundle_eq_ok py floatOf registryModel intentModel settings).mpr
      ⟨state', registry', intents', ttsSettings', tts', stt', wake', congrArg (·.load {}) hafter,
        hregistry, hintents, hsettings', hexported'.tts, hexported'.stt, hexported'.wake, rfl⟩,
    hsetup ▸ hexported.kept.enabledProviders, hsetup ▸ hexported.kept.defaultProvider, ?_⟩
  rw [← hiff]
  rw [hruntime] at hexported'
  exact sectionOf_eq_iff py floatOf registryModel intentModel settings hexported hexported' ..

end migration

/-! ### A kitchen with one provider for speech -/

section kitchen

/-- The kitchen with one provider for speech recognition and speech output. -/
def openaiSettings : Settings :=
  { kitchenSettings with voiceSttProvider := "openai", voiceTtsProvider := "openai" }

/-- The kitchen with a wake word. -/
def wakeWordSettings : Settings :=
  { kitchenSettings with voiceSttProvider := "openai", voiceWakeModels := some "Hexe" }

/-- A node that keeps its wake word warm. -/
def warmNode : Stores JsonObject JsonObject where
  onboardingState := .valid
    { providerSetup := { providerConfigs :=
        ⟨[("wake", ⟨[("warm_models", .arr [.str "Hexe"])]⟩)]⟩ } }

/-- The bundles of a node that is migrated and exported again. -/
def bundlesOf (settings : Settings) (stores : Stores JsonObject JsonObject) :
    Option (JsonObject × Stores JsonObject JsonObject × JsonObject) :=
  match exportBundle .ascii (fun _ => none) anyObject anyObject settings false "" stores with
  | .error _ => none
  | .ok bundle =>
    match importBundle .ascii (fun _ => none) plainPydantic anyObject anyObject { bundle } {}
      with
    | .error _ _ => none
    | .ok _ after =>
      match exportBundle .ascii (fun _ => none) anyObject anyObject settings false "" after with
      | .error _ => none
      | .ok bundle' => some (bundle, after, bundle')

theorem bundlesOf_eq_some {settings : Settings} {stores after : Stores JsonObject JsonObject}
    {bundle bundle' : JsonObject} (h : bundlesOf settings stores = some (bundle, after, bundle')) :
    exportBundle .ascii (fun _ => none) anyObject anyObject settings false "" stores =
        .ok bundle ∧
      (∃ r, importBundle .ascii (fun _ => none) plainPydantic anyObject anyObject { bundle } {} =
        .ok r after) ∧
      exportBundle .ascii (fun _ => none) anyObject anyObject settings false "" after =
        .ok bundle' := by
  unfold bundlesOf at h
  split at h
  · cases h
  · next hexport =>
    split at h
    · cases h
    · next r _ himport =>
      split at h
      · cases h
      · next hexport' =>
        cases h
        exact ⟨hexport, ⟨r, himport⟩, hexport'⟩

/-- The texts of a section. -/
def textIn (bundle : JsonObject) (section' key : String) : Option String :=
  match (Json.object (some (sectionOf bundle section'))).get key with
  | some (.str text) => some text
  | _ => none

theorem migrating_twice_warm : ∃ bundle after r,
    exportBundle .ascii (fun _ => none) anyObject anyObject wakeWordSettings false "" warmNode =
        .ok bundle ∧
      importBundle .ascii (fun _ => none) plainPydantic anyObject anyObject { bundle } {} =
        .ok r after ∧
      ∃ bundle', exportBundle .ascii (fun _ => none) anyObject anyObject wakeWordSettings false
          "later" after = .ok bundle' ∧
        ∀ key ∈ providerSections, sectionOf bundle' key = sectionOf bundle key := by
  have hrun : (bundlesOf wakeWordSettings warmNode).isSome = true := by decide +kernel
  obtain ⟨⟨bundle, after, bundle'⟩, hbundles⟩ := Option.isSome_iff_exists.mp hrun
  obtain ⟨hexport, ⟨r, himport⟩, -⟩ := bundlesOf_eq_some hbundles
  refine ⟨bundle, after, r, hexport, himport, ?_⟩
  obtain ⟨state, -, bundle', hstate, -, hexport', -, -, hiff⟩ := migrating_twice .ascii
    (fun _ => none) plainPydantic anyObject anyObject wakeWordSettings hexport himport "later"
  cases hstate
  exact ⟨bundle', hexport', hiff.mpr (by decide +kernel)⟩

/-- **A provider for both loses its model for speech output.** -/
theorem twice_is_not_once : ∃ bundle after r bundle',
    exportBundle .ascii (fun _ => none) anyObject anyObject openaiSettings false "" {} =
        .ok bundle ∧
      importBundle .ascii (fun _ => none) plainPydantic anyObject anyObject { bundle } {} =
        .ok r after ∧
      exportBundle .ascii (fun _ => none) anyObject anyObject openaiSettings false "" after =
        .ok bundle' ∧
      sectionOf bundle' "voice_tts_provider_settings" ≠
        sectionOf bundle "voice_tts_provider_settings" := by
  have hrun : (bundlesOf openaiSettings {}).map (fun bundles =>
      (textIn bundles.1 "voice_tts_provider_settings" "model",
        textIn bundles.2.2 "voice_tts_provider_settings" "model")) =
      some (some "gpt-4o-mini-tts", some "base.en") := by decide +kernel
  obtain ⟨⟨bundle, after, bundle'⟩, hbundles, hmodels⟩ := Option.map_eq_some_iff.mp hrun
  obtain ⟨hexport, ⟨r, himport⟩, hexport'⟩ := bundlesOf_eq_some hbundles
  refine ⟨bundle, after, r, bundle', hexport, himport, hexport', fun heq => ?_⟩
  obtain ⟨hmodel, hmodel'⟩ := Prod.mk.inj hmodels
  unfold textIn at hmodel hmodel'
  rw [heq] at hmodel'
  exact absurd (hmodel.symm.trans hmodel') (by decide)

end kitchen

end HexeVoice.Migration
