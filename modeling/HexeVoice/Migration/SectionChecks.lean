import HexeVoice.Library.Returns
import HexeVoice.Migration.Sections

/-!
# Checked sections

## What is proved

What a check of `Sections.lean` leaves of a section is `Checked`, and what is `Checked` is written
and checked again without a change: `validateSttSettings_toJson` and its siblings. For each section
that is exported, `sttSettingsPayload_eq` and its siblings say when there is none, when the export
fails and what the section is.
-/

namespace HexeVoice.Migration

open HexeVoice.Library HexeVoice.Onboarding Json

variable {config : JsonObject} {detail : String} {name : String} {settings : Settings}
variable {setup : ProviderSetupState} {ts : List String}

/-! ### Entries -/

/-- A text that a check leaves as it is. -/
def Clean (s : String) : Prop := strip s = s ∧ s ≠ ""

instance (s : String) : Decidable (Clean s) := inferInstanceAs (Decidable (_ ∧ _))

section entries

variable (py : Python) {payload : JsonObject} {key : String}

theorem get_cons (k : String) (value : Json) (entries : List (String × Json)) :
    (⟨(k, value) :: entries⟩ : JsonObject).get key =
      if key = k then some value else (⟨entries⟩ : JsonObject).get key := by
  unfold Dict.get
  rw [List.lookup_cons]
  by_cases h : key = k
  · simp [h]
  · rw [if_neg h, beq_eq_false_iff_ne.mpr h]

theorem get_entryOf_append {α : Type} (k : String) (toJson : α → Json) (value : Option α)
    (entries : List (String × Json)) : (⟨entryOf k toJson value ++ entries⟩ : JsonObject).get key =
      if key = k then (value.map toJson).or ((⟨entries⟩ : JsonObject).get key)
      else (⟨entries⟩ : JsonObject).get key := by
  cases value with
  | none =>
    rw [Option.map_none, Option.none_or, ite_self]
    rfl
  | some value =>
    show (⟨(k, toJson value) :: entries⟩ : JsonObject).get key = _
    rw [get_cons]
    rfl

theorem get_nil : (⟨[]⟩ : JsonObject).get key = none := rfl

@[simp] theorem cleaned_str (s : String) : cleaned py (.str s) = strip s := by
  unfold cleaned Json.or
  by_cases h : s = ""
  · subst h
    rfl
  · rw [if_pos (by simp [truthy, h])]
    rfl

@[simp] theorem cleaned_null : cleaned py .null = "" := by
  show strip "" = ""
  decide

theorem strip_cleaned (value : Json) : strip (cleaned py value) = cleaned py value := strip_strip _

theorem nonempty_of_clean {s : String} (h : Clean s) : nonempty s = some s := if_neg h.2

theorem clean_of_nonempty {s t : String} (hs : strip s = s) (h : nonempty s = some t) :
    Clean t := by
  unfold nonempty at h
  split at h
  · cases h
  · next hne =>
    cases h
    exact ⟨hs, hne⟩

theorem clean_textOf (payload : JsonObject) (key : String) :
    ∀ s ∈ textOf py payload key, Clean s :=
  fun _ h => clean_of_nonempty (strip_cleaned py _) h

theorem textOf_eq {s : Option String} (hget : payload.get key = s.map .str)
    (h : ∀ t ∈ s, Clean t) : textOf py payload key = s := by
  unfold textOf item
  rw [hget]
  cases s with
  | none =>
    show nonempty (cleaned py .null) = none
    rw [cleaned_null]
    rfl
  | some s =>
    obtain ⟨hstrip, hne⟩ := h s rfl
    show nonempty (cleaned py (.str s)) = some s
    rw [cleaned_str, hstrip, nonempty, if_neg hne]

theorem textOf_str {s : String} (hget : payload.get key = some (.str s)) :
    textOf py payload key = nonempty (strip s) := by
  rw [textOf, item, hget]
  exact congrArg nonempty (cleaned_str py s)

theorem flag_bool {b : Bool} (hget : payload.get key = some (.bool b)) :
    flag payload key = some b := by
  rw [flag, hget]
  rfl

theorem flag_eq {b : Option Bool} (hget : payload.get key = b.map .bool) :
    flag payload key = b := by
  rw [flag, hget, Option.map_map]
  cases b <;> rfl

theorem clean_texts {items : List Json} : ∀ s ∈ texts py items, Clean s := by
  intro s h
  obtain ⟨hmem, hne⟩ := List.mem_filter.mp h
  obtain ⟨item, -, rfl⟩ := List.mem_map.mp hmem
  exact ⟨strip_strip _, by simpa using hne⟩

theorem texts_ofTexts (h : ∀ s ∈ ts, Clean s) : texts py (ts.map .str) = ts := by
  have hmap : (ts.map Json.str).map (fun item => strip (py.str item)) = ts := by
    rw [List.map_map]
    exact (List.map_congr_left fun s hs => (h s hs).1).trans (List.map_id _)
  rw [texts, hmap, List.filter_eq_self]
  intro s hs
  simpa using (h s hs).2

theorem listOf_eq (hget : payload.get key = some (ofTexts ts)) :
    listOf payload key detail = .ok (ts.map .str) := by
  rw [listOf, hget]
  rfl

theorem objectOf_eq {entries : JsonObject} (hget : payload.get key = some (.obj entries)) :
    objectOf payload key detail = .ok entries := by
  rw [objectOf, item, hget]
  rfl

theorem providerOf_eq {provider detail : String} {providers : List String}
    (hget : payload.get "provider" = some (.str provider)) :
    providerOf py payload providers detail =
      if strip provider ∈ providers then .ok (strip provider) else refuse detail := by
  have hprovider : cleaned py (item payload "provider") = strip provider := by
    rw [item, hget]
    exact cleaned_str py provider
  simp only [providerOf, hprovider]

end entries

/-! ### Speech recognition -/

section stt

variable (py : Python)
variable {payload : JsonObject} {s : SttSettings}

/-- The names of `STT_MODEL_PROFILES`. -/
def sttProfileNames : List String := sttModelProfiles.map SttModelProfile.name

theorem getSttModelProfile_of_mem (h : name ∈ sttProfileNames) :
    ∃ profile, getSttModelProfile name = .ok profile := by
  simp only [sttProfileNames, sttModelProfiles, List.map_cons, List.map_nil, List.mem_cons,
    List.not_mem_nil, or_false] at h
  rcases h with rfl | rfl | rfl <;> exact ⟨_, rfl⟩

theorem mem_sttProfileNames {profile : SttModelProfile}
    (h : getSttModelProfile name = .ok profile) : profile ∈ sttModelProfiles ∧
      profile.name = strip name := by
  unfold getSttModelProfile at h
  cases hfind : sttModelProfiles.find? fun profile => profile.name = strip name with
  | none =>
    rw [hfind] at h
    cases h
  | some found =>
    rw [hfind] at h
    cases h
    exact ⟨List.mem_of_find?_eq_some hfind, by simpa using List.find?_some hfind⟩

/-- A section for speech recognition that a check leaves as it is. -/
structure SttSettings.Checked (s : SttSettings) : Prop where
  provider : s.provider ∈ sttProviders
  model : ∀ t ∈ s.model, Clean t
  device : ∀ t ∈ s.device, Clean t
  computeType : ∀ t ∈ s.computeType, Clean t
  profile : ∀ t ∈ s.profile, t ∈ sttProfileNames
  fallbackProfile : ∀ t ∈ s.fallbackProfile, t ∈ sttProfileNames
  warmModels : ∀ t ∈ s.warmModels, Clean t

theorem clean_of_mem_sttProfileNames (h : name ∈ sttProfileNames) :
    Clean name ∧ name ≠ "custom_legacy" := by
  have hall : ∀ name ∈ sttProfileNames, Clean name ∧ name ≠ "custom_legacy" := by decide
  exact hall name h

theorem profileOf_eq {key : String} {name : Option String} (hitem : item payload key = ofText name)
    (h : ∀ t ∈ name, t = "custom_legacy" ∧ key = "profile" ∨ t ∈ sttProfileNames) :
    profileOf py payload key =
      .ok (if name = some "custom_legacy" ∧ key = "profile" then none else name) := by
  unfold profileOf
  have hvalue : cleaned py (item payload key) = strip (name.getD "") := by
    rw [hitem]
    cases name with
    | none => exact cleaned_null py
    | some t => exact cleaned_str py t
  simp only [hvalue]
  cases name with
  | none =>
    rw [if_pos (.inl (by decide))]
    simp
  | some t =>
    rcases h t rfl with ⟨rfl, rfl⟩ | hname
    · rfl
    · obtain ⟨⟨hstrip, hne⟩, hlegacy⟩ := clean_of_mem_sttProfileNames hname
      obtain ⟨profile, hprofile⟩ := getSttModelProfile_of_mem hname
      simp only [Option.getD_some, hstrip, hprofile, hne, hlegacy, and_false, or_self, if_false,
        Option.some.injEq, false_and]

theorem mem_of_profileOf {key : String} {name : Option String}
    (h : profileOf py payload key = .ok name) : ∀ t ∈ name, t ∈ sttProfileNames := by
  unfold profileOf at h
  dsimp only at h
  split at h
  · cases h
    exact fun t ht => nomatch ht
  · split at h
    · next profile hprofile =>
      cases h
      rintro t ⟨⟩
      obtain ⟨hmem, hname⟩ := mem_sttProfileNames hprofile
      rw [strip_cleaned] at hname
      exact hname ▸ List.mem_map_of_mem hmem
    · cases h

theorem mem_of_providerOf {provider detail : String}
    {providers : List String} (h : providerOf py payload providers detail = .ok provider) :
    provider ∈ providers := by
  unfold providerOf at h
  dsimp only at h
  split at h
  · next hmem =>
    cases h
    exact hmem
  · cases h

theorem checked_of_validateSttSettings {payload : Json}
    (h : validateSttSettings py payload = .ok s) : s.Checked := by
  unfold validateSttSettings at h
  split at h
  · next payload =>
    simp only [except_bind_eq_ok] at h
    obtain ⟨provider, hprovider, profile, hprofile, fallback, hfallback, items, -, service, -,
      fasterWhisper, -, h⟩ := h
    have hmodel := clean_textOf py payload "model"
    have hdevice := clean_textOf py payload "device"
    have hcompute := clean_textOf py payload "compute_type"
    have hwarm : ∀ t ∈ texts py items, Clean t := clean_texts py
    generalize textOf py payload "model" = model at h hmodel
    generalize textOf py payload "device" = device at h hdevice
    generalize textOf py payload "compute_type" = computeType at h hcompute
    generalize texts py items = warmModels at h hwarm
    cases h
    exact ⟨mem_of_providerOf py hprovider, hmodel, hdevice, hcompute,
      mem_of_profileOf py hprofile, mem_of_profileOf py hfallback, hwarm⟩
  · cases h

theorem SttSettings.Checked.strip_provider (h : s.Checked) :
    strip s.provider = s.provider := by
  have hall : ∀ provider ∈ sttProviders, strip provider = provider := by decide
  exact hall _ h.provider

/-- **A checked section for speech recognition is checked to itself.** -/
theorem validateSttSettings_toJson (h : s.Checked) :
    validateSttSettings py (.obj s.toJson) = .ok s := by
  have hlegacy (key : String) {name : Option String} (h : ∀ t ∈ name, t ∈ sttProfileNames) :
      (if name = some "custom_legacy" ∧ key = "profile" then none else name) = name :=
    if_neg fun hname => (clean_of_mem_sttProfileNames (h _ hname.1)).2 rfl
  have hget (key : String) : s.toJson.get key =
      if key = "provider" then some (.str s.provider)
      else if key = "enabled" then s.enabled.map .bool
      else if key = "default" then s.default.map .bool
      else if key = "warm_model" then s.warmModel.map .bool
      else if key = "preload" then s.preload.map .bool
      else if key = "auto_download" then s.autoDownload.map .bool
      else if key = "model" then s.model.map .str
      else if key = "device" then s.device.map .str
      else if key = "compute_type" then s.computeType.map .str
      else if key = "profile" then s.profile.map .str
      else if key = "fallback_profile" then s.fallbackProfile.map .str
      else if key = "warm_models" then some (ofTexts s.warmModels)
      else if key = "service" then some (.obj s.service)
      else if key = "faster_whisper" then some (.obj s.fasterWhisper)
      else none := by
    simp only [SttSettings.toJson, List.append_assoc, get_cons, get_entryOf_append, get_nil]
    repeat refine ite_congr rfl (fun hkey => by subst hkey; simp) fun _ => ?_
    rfl
  unfold validateSttSettings
  dsimp only
  have hitem (key : String) : item s.toJson key = (s.toJson.get key).getD .null := rfl
  rw [providerOf_eq py (hget _),
    profileOf_eq py ((hitem "profile").trans (congrArg (·.getD .null) (hget _))) fun t ht =>
      .inr (h.profile t ht),
    profileOf_eq py ((hitem "fallback_profile").trans (congrArg (·.getD .null) (hget _)))
      fun t ht => .inr (h.fallbackProfile t ht),
    listOf_eq (hget _), objectOf_eq (hget "service"), objectOf_eq (hget "faster_whisper"),
    flag_eq (hget "enabled"), flag_eq (hget "default"), flag_eq (hget "warm_model"),
    flag_eq (hget "preload"), flag_eq (hget "auto_download"), textOf_eq py (hget "model") h.model,
    textOf_eq py (hget "device") h.device, textOf_eq py (hget "compute_type") h.computeType,
    if_pos (h.strip_provider.symm ▸ h.provider), hlegacy _ h.profile, hlegacy _ h.fallbackProfile]
  show Except.ok _ = Except.ok _
  rw [Except.ok.injEq, texts_ofTexts py h.warmModels, h.strip_provider]

theorem resolveSttModelProfile_names
    {profile : SttModelProfile} (h : resolveSttModelProfile py settings config = .ok profile) :
    (profile.name = "custom_legacy" ∨ profile.name ∈ sttProfileNames) ∧
      ∀ t ∈ profile.fallbackProfile, t ∈ sttProfileNames := by
  unfold resolveSttModelProfile at h
  dsimp only at h
  have hstrip := strip_cleaned py ((item config "fallback_profile").or
    (.str settings.voiceSttFallbackProfile))
  generalize cleaned py ((item config "fallback_profile").or
    (.str settings.voiceSttFallbackProfile)) = fallbackProfile at h hstrip
  generalize cleaned py ((item config "profile").or (.str settings.voiceSttProfile)) =
    profileName at h
  simp only [except_bind_eq_ok] at h
  obtain ⟨named, hnamed, beamSize, -, bestOf, -, h⟩ := h
  have hall : ∀ profile ∈ sttModelProfiles, ∀ t ∈ profile.fallbackProfile,
      t ∈ sttProfileNames := by
    decide
  have hnames : (named.name = "custom_legacy" ∨ named.name ∈ sttProfileNames) ∧
      (fallbackProfile = "" → ∀ t ∈ named.fallbackProfile, t ∈ sttProfileNames) := by
    unfold namedProfile at hnamed
    split at hnamed
    · cases hnamed
      refine ⟨.inl rfl, ?_⟩
      rintro rfl t ⟨⟩
    · obtain ⟨hmem, -⟩ := mem_sttProfileNames hnamed
      exact ⟨.inr (List.mem_map_of_mem hmem), fun _ => hall named hmem⟩
  split at h
  · next hne =>
    simp only [except_bind_eq_ok] at h
    obtain ⟨fallback, hfallback, h⟩ := h
    cases h
    refine ⟨hnames.1, fun t ht => ?_⟩
    cases ht
    obtain ⟨hmem, hname⟩ := mem_sttProfileNames hfallback
    exact hstrip ▸ hname ▸ List.mem_map_of_mem hmem
  · next hempty =>
    have hempty := not_not.mp hempty
    cases h
    refine ⟨hnames.1, fun t ht => ?_⟩
    simp only [if_pos hempty] at ht
    exact hnames.2 hempty t ht

/-- The exported section for speech recognition. -/
def sttSettingsOf (settings : Settings) (setup : ProviderSetupState) (provider : String)
    (config : JsonObject) (profile : SttModelProfile) : SttSettings where
  provider
  enabled := some (provider ∈ setup.enabledProviders)
  default := some (setup.defaultProvider = some provider)
  warmModel := some ((config.get "warm_model").getD (.bool profile.preload)).truthy
  preload := some profile.preload
  autoDownload := some profile.autoDownload
  model := nonempty (strip profile.model)
  device := nonempty (strip profile.device)
  computeType := nonempty (strip profile.computeType)
  profile := if profile.name = "custom_legacy" then none else some profile.name
  fallbackProfile := profile.fallbackProfile
  warmModels := texts py (items config "warm_models")
  service := sttService settings
  fasterWhisper := fasterWhisper settings profile

theorem sttSettingsPayload_eq (settings : Settings) (setup : ProviderSetupState)
    {provider : String} (hprovider : strip settings.voiceSttProvider = provider)
    (hconfig : configOf setup provider = config) :
    sttSettingsPayload py settings setup =
      if provider = "" ∨ provider = "deterministic" ∧ config.entries = [] then .ok none
      else resolveSttModelProfile py settings config >>= fun profile =>
        if provider ∈ sttProviders then
          .ok (some (sttSettingsOf py settings setup provider config profile))
        else refuse "voice_stt_settings_provider_invalid" := by
  have hstrip : strip provider = provider := by rw [← hprovider, strip_strip]
  unfold sttSettingsPayload
  simp only [hprovider, hconfig]
  refine ite_congr rfl (fun _ => rfl) fun _ => ?_
  cases hresolve : resolveSttModelProfile py settings config with
  | error e => rfl
  | ok profile =>
    obtain ⟨hname, hfallback⟩ := resolveSttModelProfile_names py hresolve
    simp only [except_ok_bind]
    generalize hpayload : sttPayload py settings setup provider config profile = payload
    have hget (key : String) := congrArg (Dict.get · key) hpayload
    simp only [sttPayload, get_cons, get_nil] at hget
    unfold validateSttSettings
    dsimp only
    rw [providerOf_eq py (hget _).symm,
      profileOf_eq py (show item payload "profile" = ofText (some profile.name) by
        rw [item, ← hget]
        rfl) (by
        rintro t ⟨⟩
        exact hname.imp_left fun h => ⟨h, rfl⟩),
      profileOf_eq py (show item payload "fallback_profile" = ofText profile.fallbackProfile by
        rw [item, ← hget]
        rfl)
        fun t ht => .inr (hfallback t ht),
      listOf_eq (hget "warm_models").symm, objectOf_eq (hget "service").symm,
      objectOf_eq (hget "faster_whisper").symm, hstrip]
    by_cases hmem : provider ∈ sttProviders
    · simp only [if_pos hmem, except_ok_bind]
      rw [flag_bool (hget "enabled").symm, flag_bool (hget "default").symm,
        flag_bool (hget "warm_model").symm, flag_bool (hget "preload").symm,
        flag_bool (hget "auto_download").symm, textOf_str py (hget "model").symm,
        textOf_str py (hget "device").symm, textOf_str py (hget "compute_type").symm,
        texts_ofTexts py (clean_texts py)]
      show Except.ok (some _) = Except.ok (some _)
      simp only [sttSettingsOf, Option.some.injEq, and_true, String.reduceEq, and_false, if_false]
    · simp only [if_neg hmem]
      rfl

theorem checked_of_sttSettingsPayload
    (h : sttSettingsPayload py settings setup = .ok (some s)) : s.Checked := by
  unfold sttSettingsPayload at h
  dsimp only at h
  split at h
  · cases h
  · simp only [except_bind_eq_ok] at h
    obtain ⟨profile, -, checked, hchecked, h⟩ := h
    cases h
    exact checked_of_validateSttSettings py hchecked

end stt

/-! ### Speech output -/

section tts

variable (py : Python)
variable {s : TtsProviderSettings}

/-- A section for speech output that a check leaves as it is. -/
structure TtsProviderSettings.Checked (s : TtsProviderSettings) : Prop where
  provider : s.provider ∈ ttsProviders
  model : ∀ t ∈ s.model, Clean t
  defaultVoice : ∀ t ∈ s.defaultVoice, Clean t
  conversionPolicy : ∀ t ∈ s.conversionPolicy, Clean t
  outputSampleRateHz : ∀ n ∈ s.outputSampleRateHz, 0 ≤ n
  warmModels : ∀ t ∈ s.warmModels, Clean t

theorem naturalOf_int {n : ℤ} (h : 0 ≤ n) :
    naturalOf py (.int n) detail = .ok n :=
  if_neg (by simpa using h)

theorem nonneg_of_naturalOf {value : Json} {n : ℤ}
    (h : naturalOf py value detail = .ok n) : 0 ≤ n := by
  unfold naturalOf at h
  split at h
  · split at h
    · cases h
    · next hn =>
      cases h
      exact Int.not_lt.mp hn
  all_goals cases h

theorem checked_of_validateTtsProviderSettings {payload : Json}
    (h : validateTtsProviderSettings py payload = .ok s) : s.Checked := by
  unfold validateTtsProviderSettings at h
  split at h
  · next payload =>
    simp only [except_bind_eq_ok] at h
    obtain ⟨provider, hprovider, rate, hrate, items, -, endpointVoices, -, endpointRates, -,
      conversionRates, -, piper, -, h⟩ := h
    have hmodel := clean_textOf py payload "model"
    have hvoice := clean_textOf py payload "default_voice"
    have hpolicy := clean_textOf py payload "conversion_policy"
    have hwarm : ∀ t ∈ texts py items, Clean t := clean_texts py
    generalize textOf py payload "model" = model at h hmodel
    generalize textOf py payload "default_voice" = voice at h hvoice
    generalize textOf py payload "conversion_policy" = policy at h hpolicy
    generalize texts py items = warmModels at h hwarm
    cases h
    refine ⟨mem_of_providerOf py hprovider, hmodel, hvoice, hpolicy, ?_, hwarm⟩
    rintro n ⟨⟩
    cases hvalue : payload.get "output_sample_rate_hz" with
    | none =>
      rw [hvalue] at hrate
      cases hrate
    | some value =>
      rw [hvalue, Option.mapM_some] at hrate
      cases hn : naturalOf py value "voice_tts_provider_settings_output_sample_rate_invalid" with
      | error e =>
        rw [hn] at hrate
        cases hrate
      | ok m =>
        rw [hn] at hrate
        cases hrate
        exact nonneg_of_naturalOf py hn
  · cases h

theorem TtsProviderSettings.Checked.strip_provider (h : s.Checked) :
    strip s.provider = s.provider := by
  have hall : ∀ provider ∈ ttsProviders, strip provider = provider := by decide
  exact hall _ h.provider

/-- **A checked section for speech output is checked to itself.** -/
theorem validateTtsProviderSettings_toJson (h : s.Checked) :
    validateTtsProviderSettings py (.obj s.toJson) = .ok s := by
  have hget (key : String) : s.toJson.get key =
      if key = "provider" then some (.str s.provider)
      else if key = "enabled" then s.enabled.map .bool
      else if key = "default" then s.default.map .bool
      else if key = "model" then s.model.map .str
      else if key = "default_voice" then s.defaultVoice.map .str
      else if key = "conversion_policy" then s.conversionPolicy.map .str
      else if key = "output_sample_rate_hz" then s.outputSampleRateHz.map .int
      else if key = "warm_models" then some (ofTexts s.warmModels)
      else if key = "endpoint_voices" then some (.obj s.endpointVoices)
      else if key = "endpoint_sample_rates" then some (.obj s.endpointSampleRates)
      else if key = "conversion_sample_rates" then some (.obj s.conversionSampleRates)
      else if key = "piper" then some (.obj s.piper)
      else none := by
    simp only [TtsProviderSettings.toJson, List.append_assoc, get_cons, get_entryOf_append, get_nil]
    repeat refine ite_congr rfl (fun hkey => by subst hkey; simp) fun _ => ?_
    rfl
  have hrate : ((s.toJson.get "output_sample_rate_hz").mapM fun value =>
      naturalOf py value "voice_tts_provider_settings_output_sample_rate_invalid") =
        .ok s.outputSampleRateHz := by
    rw [show s.toJson.get "output_sample_rate_hz" = s.outputSampleRateHz.map .int from hget _]
    cases hn : s.outputSampleRateHz with
    | none => rfl
    | some n =>
      rw [Option.map_some, Option.mapM_some, naturalOf_int py (h.outputSampleRateHz n hn)]
      rfl
  unfold validateTtsProviderSettings
  dsimp only
  rw [providerOf_eq py (hget _), hrate,
    listOf_eq (hget _), objectOf_eq (hget "endpoint_voices"),
    objectOf_eq (hget "endpoint_sample_rates"), objectOf_eq (hget "conversion_sample_rates"),
    objectOf_eq (hget "piper"),
    flag_eq (hget "enabled"), flag_eq (hget "default"), textOf_eq py (hget "model") h.model,
    textOf_eq py (hget "default_voice") h.defaultVoice,
    textOf_eq py (hget "conversion_policy") h.conversionPolicy,
    if_pos (h.strip_provider.symm ▸ h.provider)]
  show Except.ok _ = Except.ok _
  rw [Except.ok.injEq, texts_ofTexts py h.warmModels, h.strip_provider]

/-- The exported section for speech output. -/
def ttsProviderSettingsOf (settings : Settings) (setup : ProviderSetupState) (provider : String)
    (config runtime : JsonObject) : TtsProviderSettings where
  provider
  enabled := some (provider ∈ setup.enabledProviders)
  default := some (setup.defaultProvider = some provider)
  model := nonempty (strip (py.str ((item config "model").or (.str settings.voiceTtsModel))))
  defaultVoice := nonempty (cleaned py (((item config "default_voice").or
    (ofText settings.voiceTtsPiperVoice)).or (.str settings.voiceTtsVoice)))
  conversionPolicy := nonempty (strip (settings.resolvedVoiceTtsConversionPolicy runtime))
  outputSampleRateHz := some settings.voiceTtsOutputSampleRateHz
  warmModels := addTexts (resolvedPiperTtsWarmVoices py settings runtime)
    (texts py (items config "warm_models"))
  endpointVoices := settings.resolvedVoiceTtsEndpointVoices runtime
  endpointSampleRates := settings.resolvedVoiceTtsEndpointSampleRates
  conversionSampleRates := settings.parsedVoiceTtsConversionSampleRates
  piper := piper settings

theorem clean_addTexts {ts others : List String} (hts : ∀ t ∈ ts, Clean t)
    (hothers : ∀ t ∈ others, Clean t) : ∀ t ∈ addTexts ts others, Clean t := by
  induction others generalizing ts with
  | nil => exact hts
  | cons other others ih =>
    rw [List.forall_mem_cons] at hothers
    refine ih ?_ hothers.2
    dsimp only
    split
    · exact hts
    · intro t ht
      rcases List.mem_append.mp ht with ht | ht
      · exact hts t ht
      · exact List.mem_singleton.mp ht ▸ hothers.1

theorem clean_resolvedPiperTtsWarmVoices (settings : Settings) (runtime : JsonObject) :
    ∀ t ∈ resolvedPiperTtsWarmVoices py settings runtime, Clean t := by
  have hclean {ts : List String} (h : ∀ t ∈ ts, strip t = t) :
      ∀ t ∈ ts.filter (· ≠ ""), Clean t := by
    intro t ht
    obtain ⟨hmem, hne⟩ := List.mem_filter.mp ht
    exact ⟨h t hmem, by simpa using hne⟩
  refine clean_addTexts (hclean fun t ht => ?_)
    (clean_addTexts (fun _ ht => nomatch ht) (hclean fun t ht => ?_))
  · obtain ⟨part, -, rfl⟩ := List.mem_map.mp ht
    exact strip_strip part
  · obtain ⟨value, -, rfl⟩ := List.mem_map.mp ht
    exact strip_cleaned py value

theorem ttsProviderSettingsPayload_eq (settings : Settings) (setup : ProviderSetupState)
    (runtime : JsonObject) {provider : String} (hprovider : strip settings.voiceTtsProvider = provider)
    (hconfig : configOf setup provider = config) :
    ttsProviderSettingsPayload py settings setup runtime =
      if provider = "" ∨ provider = "deterministic" ∧ config.entries = [] then .ok none
      else if provider ∉ ttsProviders then
        refuse "voice_tts_provider_settings_provider_invalid"
      else if settings.voiceTtsOutputSampleRateHz < 0 then
        refuse "voice_tts_provider_settings_output_sample_rate_invalid"
      else .ok (some (ttsProviderSettingsOf py settings setup provider config runtime)) := by
  have hstrip : strip provider = provider := by rw [← hprovider, strip_strip]
  unfold ttsProviderSettingsPayload
  simp only [hprovider, hconfig]
  refine ite_congr rfl (fun _ => rfl) fun _ => ?_
  generalize hpayload : ttsPayload py settings setup provider config runtime = payload
  have hget (key : String) := congrArg (Dict.get · key) hpayload
  simp only [ttsPayload, get_cons, get_nil] at hget
  unfold validateTtsProviderSettings
  dsimp only
  rw [providerOf_eq py (hget _).symm, hstrip]
  by_cases hmem : provider ∈ ttsProviders
  · rw [if_pos hmem, if_neg (not_not.mpr hmem)]
    have hrate : payload.get "output_sample_rate_hz" =
      some (.int settings.voiceTtsOutputSampleRateHz) := (hget _).symm
    rw [hrate, Option.mapM_some]
    by_cases hnegative : settings.voiceTtsOutputSampleRateHz < 0
    · have hrefused (detail : String) :
          naturalOf py (.int settings.voiceTtsOutputSampleRateHz) detail = refuse detail :=
        if_pos hnegative
      rw [if_pos hnegative, hrefused]
      rfl
    · rw [if_neg hnegative, naturalOf_int py (Int.not_lt.mp hnegative),
        listOf_eq (hget "warm_models").symm, objectOf_eq (hget "endpoint_voices").symm,
        objectOf_eq (hget "endpoint_sample_rates").symm,
        objectOf_eq (hget "conversion_sample_rates").symm, objectOf_eq (hget "piper").symm,
        flag_bool (hget "enabled").symm, flag_bool (hget "default").symm,
        textOf_str py (hget "model").symm, textOf_str py (hget "default_voice").symm,
        textOf_str py (hget "conversion_policy").symm]
      simp only [Functor.map, Except.map, except_ok_bind]
      rw [texts_ofTexts py (clean_addTexts (clean_resolvedPiperTtsWarmVoices py settings runtime)
          (clean_texts py)), strip_strip, strip_cleaned]
      rfl
  · rw [if_neg hmem, if_pos hmem]
    rfl

theorem checked_of_ttsProviderSettingsPayload
    {runtime : JsonObject}
    (h : ttsProviderSettingsPayload py settings setup runtime = .ok (some s)) : s.Checked := by
  unfold ttsProviderSettingsPayload at h
  dsimp only at h
  split at h
  · cases h
  · simp only [except_bind_eq_ok] at h
    obtain ⟨checked, hchecked, h⟩ := h
    cases h
    exact checked_of_validateTtsProviderSettings py hchecked

end tts

/-! ### The wake word -/

section wake

variable (py : Python) (floatOf : String → Option PyFloat)
variable {s : WakeSettings}

/-- A wake word that a check leaves as it is. -/
def Named (name : String) : Prop := Clean name ∧ normalizeWakeName py name = name

theorem strip_normalizeWakeName (h : strip name = name) :
    strip (normalizeWakeName py name) = normalizeWakeName py name := by
  unfold normalizeWakeName
  split
  · decide
  · exact h

theorem normalizeWakeName_idempotent (name : String) :
    normalizeWakeName py (normalizeWakeName py name) = normalizeWakeName py name := by
  by_cases h : py.lower (strip name) = "hexa"
  · rw [show normalizeWakeName py name = "Hexe" from if_pos h]
    exact ite_self _
  · have hname : normalizeWakeName py name = name := if_neg h
    rw [hname, hname]

theorem named_of_nonempty {name t : String} (hname : strip name = name)
    (h : nonempty (normalizeWakeName py name) = some t) : Named py t := by
  have hclean := clean_of_nonempty (strip_normalizeWakeName py hname) h
  unfold nonempty at h
  split at h
  · cases h
  · cases h
    exact ⟨hclean, normalizeWakeName_idempotent py name⟩

theorem unnamed_of_nonempty (name : String) (h : nonempty (normalizeWakeName py name) = none) :
    normalizeWakeName py "" = "" := by
  have hname : normalizeWakeName py name = "" := by
    by_contra hne
    rw [nonempty, if_neg hne] at h
    cases h
  exact hname ▸ normalizeWakeName_idempotent py name

theorem named_normalizeWakeName (h : Clean name) :
    Named py (normalizeWakeName py name) := by
  refine ⟨⟨strip_normalizeWakeName py h.1, ?_⟩, normalizeWakeName_idempotent py name⟩
  unfold normalizeWakeName
  split
  · decide
  · exact h.2

theorem named_names (h : ∀ t ∈ ts, Clean t) :
    ∀ t ∈ ts.map (normalizeWakeName py), Named py t := by
  intro t ht
  obtain ⟨name, hname, rfl⟩ := List.mem_map.mp ht
  exact named_normalizeWakeName py (h name hname)

/-- A section for the wake word that a check leaves as it is. -/
structure WakeSettings.Checked (s : WakeSettings) : Prop where
  provider : s.provider ∈ wakeProviders
  defaultWakeword : ∀ t ∈ s.defaultWakeword, Named py t
  unnamed : s.defaultWakeword = none → normalizeWakeName py "" = ""
  threshold : ∀ x ∈ s.threshold, outsideUnit x = false
  vadThreshold : ∀ x ∈ s.vadThreshold, outsideUnit x = false
  bufferMs : ∀ n ∈ s.bufferMs, 0 ≤ n
  predictionFrameMs : ∀ n ∈ s.predictionFrameMs, 0 ≤ n
  models : ∀ t ∈ s.models, Named py t
  warmModels : ∀ t ∈ s.warmModels, Named py t

variable {payload : JsonObject} {key : String}

theorem outsideUnit_of_unitOf {x : Option PyFloat} (h : unitOf floatOf payload key = .ok x) :
    ∀ y ∈ x, outsideUnit y = false := by
  unfold unitOf at h
  split at h
  · cases h
    rintro y ⟨⟩
  · split at h
    · split at h
      · cases h
      · next hinside =>
        cases h
        rintro y ⟨⟩
        exact Bool.eq_false_iff.mpr hinside
    all_goals cases h

theorem unitOf_eq {x : Option PyFloat} (hitem : item payload key = (x.map .float).getD .null) :
    unitOf floatOf payload key =
      if x.any outsideUnit then refuse s!"voice_wake_settings_{key}_invalid" else .ok x := by
  unfold unitOf
  rw [hitem]
  cases x <;> rfl

theorem nonneg_of_millisOf {n : Option ℤ} (h : millisOf py payload key = .ok n) :
    ∀ m ∈ n, 0 ≤ m := by
  unfold millisOf at h
  split at h
  · cases h
    rintro m ⟨⟩
  · generalize hn : naturalOf py (item payload key) s!"voice_wake_settings_{key}_invalid" =
      result at h
    cases result with
    | error e => cases h
    | ok m =>
      cases h
      rintro m ⟨⟩
      exact nonneg_of_naturalOf py hn

theorem millisOf_eq {n : Option ℤ} (hitem : item payload key = ofInt n) :
    millisOf py payload key =
      if n.any (· < 0) then refuse s!"voice_wake_settings_{key}_invalid" else .ok n := by
  unfold millisOf
  rw [hitem]
  cases n with
  | none => rfl
  | some n =>
    show (naturalOf py (.int n) _).map some = _
    by_cases hn : n < 0
    · rw [show naturalOf py (.int n) _ = refuse _ from if_pos hn, if_pos (by simpa using hn)]
      rfl
    · rw [naturalOf_int py (Int.not_lt.mp hn), if_neg (by simpa using hn)]
      rfl

theorem named_of_wakeNamesOf {names : List String} (h : wakeNamesOf py payload key = .ok names) :
    ∀ t ∈ names, Named py t := by
  unfold wakeNamesOf at h
  cases hlist : listOf payload key s!"voice_wake_settings_{key}_must_be_list" with
  | error e =>
    rw [hlist] at h
    cases h
  | ok items =>
    rw [hlist] at h
    rw [← Except.ok.inj h]
    exact named_names py (clean_texts py)

theorem wakeNamesOf_eq (hget : payload.get key = some (ofTexts ts)) :
    wakeNamesOf py payload key =
      .ok ((texts py (ts.map .str)).map (normalizeWakeName py)) := by
  rw [wakeNamesOf, listOf_eq hget]
  rfl

theorem names_ofTexts (h : ∀ t ∈ ts, Named py t) :
    (texts py (ts.map .str)).map (normalizeWakeName py) = ts := by
  rw [texts_ofTexts py fun t ht => (h t ht).1]
  exact (List.map_congr_left fun t ht => (h t ht).2).trans (List.map_id _)

theorem checked_of_validateWakeSettings {payload : Json}
    (h : validateWakeSettings py floatOf payload = .ok s) : s.Checked py := by
  unfold validateWakeSettings at h
  split at h
  · next payload =>
    simp only [except_bind_eq_ok] at h
    obtain ⟨provider, hprovider, threshold, hthreshold, vadThreshold, hvad, bufferMs, hbuffer,
      frameMs, hframe, models, hmodels, warmModels, hwarm, service, -, recordings, -, h⟩ := h
    have hword : ∀ t ∈ nonempty (normalizeWakeName py (cleaned py (item payload
        "default_wakeword"))), Named py t :=
      fun t ht => named_of_nonempty py (strip_cleaned py _) ht
    have hnone := unnamed_of_nonempty py (cleaned py (item payload "default_wakeword"))
    generalize nonempty (normalizeWakeName py (cleaned py (item payload "default_wakeword"))) =
      word at h hword hnone
    cases h
    exact ⟨mem_of_providerOf py hprovider, hword, hnone, outsideUnit_of_unitOf floatOf hthreshold,
      outsideUnit_of_unitOf floatOf hvad, nonneg_of_millisOf py hbuffer,
      nonneg_of_millisOf py hframe, named_of_wakeNamesOf py hmodels,
      named_of_wakeNamesOf py hwarm⟩
  · cases h

theorem WakeSettings.Checked.strip_provider (h : s.Checked py) :
    strip s.provider = s.provider := by
  have hall : ∀ provider ∈ wakeProviders, strip provider = provider := by decide
  exact hall _ h.provider

/-- **A checked section for the wake word is checked to itself.** -/
theorem validateWakeSettings_toJson (h : s.Checked py) :
    validateWakeSettings py floatOf (.obj s.toJson) = .ok s := by
  have hget (key : String) : s.toJson.get key =
      if key = "provider" then some (.str s.provider)
      else if key = "enabled" then s.enabled.map .bool
      else if key = "warm_model" then s.warmModel.map .bool
      else if key = "auto_download_models" then s.autoDownloadModels.map .bool
      else if key = "preload" then s.preload.map .bool
      else if key = "enable_speex_noise_suppression" then
        s.enableSpeexNoiseSuppression.map .bool
      else if key = "default_wakeword" then s.defaultWakeword.map .str
      else if key = "threshold" then s.threshold.map .float
      else if key = "vad_threshold" then s.vadThreshold.map .float
      else if key = "buffer_ms" then s.bufferMs.map .int
      else if key = "prediction_frame_ms" then s.predictionFrameMs.map .int
      else if key = "models" then some (ofTexts s.models)
      else if key = "warm_models" then some (ofTexts s.warmModels)
      else if key = "service" then some (.obj s.service)
      else if key = "recordings" then some (.obj s.recordings)
      else none := by
    simp only [WakeSettings.toJson, List.append_assoc, get_cons, get_entryOf_append, get_nil]
    repeat refine ite_congr rfl (fun hkey => by subst hkey; simp) fun _ => ?_
    rfl
  have hitem (key : String) : item s.toJson key = (s.toJson.get key).getD .null := rfl
  have hinside {x : Option PyFloat} (h : ∀ y ∈ x, outsideUnit y = false) :
      ¬x.any outsideUnit = true := by
    cases x with
    | none => exact Bool.false_ne_true
    | some y => exact Bool.eq_false_iff.mp (h y rfl)
  have hnatural {n : Option ℤ} (h : ∀ m ∈ n, 0 ≤ m) : ¬n.any (· < 0) = true := by
    cases n with
    | none => exact Bool.false_ne_true
    | some m => simpa using h m rfl
  have hword : nonempty (normalizeWakeName py (cleaned py (item s.toJson "default_wakeword"))) =
      s.defaultWakeword := by
    rw [hitem, hget]
    cases hword : s.defaultWakeword with
    | none =>
      show nonempty (normalizeWakeName py (cleaned py .null)) = none
      rw [cleaned_null, h.unnamed hword]
      rfl
    | some word =>
      obtain ⟨⟨hstrip, hne⟩, hname⟩ := h.defaultWakeword word hword
      show nonempty (normalizeWakeName py (cleaned py (.str word))) = some word
      rw [cleaned_str, hstrip, hname]
      exact if_neg hne
  unfold validateWakeSettings
  dsimp only
  rw [providerOf_eq py (hget _),
    unitOf_eq floatOf ((hitem "threshold").trans (congrArg (·.getD .null) (hget _))),
    unitOf_eq floatOf ((hitem "vad_threshold").trans (congrArg (·.getD .null) (hget _))),
    millisOf_eq py ((hitem "buffer_ms").trans (congrArg (·.getD .null) (hget _))),
    millisOf_eq py ((hitem "prediction_frame_ms").trans (congrArg (·.getD .null) (hget _))),
    wakeNamesOf_eq py (hget "models"), wakeNamesOf_eq py (hget "warm_models"),
    objectOf_eq (hget "service"), objectOf_eq (hget "recordings"), flag_eq (hget "enabled"),
    flag_eq (hget "warm_model"), flag_eq (hget "auto_download_models"), flag_eq (hget "preload"),
    flag_eq (hget "enable_speex_noise_suppression"), hword,
    if_pos (h.strip_provider.symm ▸ h.provider), if_neg (hinside h.threshold),
    if_neg (hinside h.vadThreshold), if_neg (hnatural h.bufferMs),
    if_neg (hnatural h.predictionFrameMs), names_ofTexts py h.models, names_ofTexts py h.warmModels,
    h.strip_provider]
  rfl

/-- The exported section for the wake word. -/
def wakeSettingsOf (settings : Settings) (setup : ProviderSetupState) (provider : String)
    (config : JsonObject) (models : List String) : WakeSettings where
  provider
  enabled := some ("wake" ∈ setup.enabledProviders)
  warmModel := some ((config.get "warm_model").getD (.bool settings.voiceWakePreload)).truthy
  autoDownloadModels := some settings.voiceWakeAutoDownloadModels
  preload := some settings.voiceWakePreload
  enableSpeexNoiseSuppression := some settings.voiceWakeEnableSpeexNoiseSuppression
  defaultWakeword := nonempty (defaultWakeword py config models)
  threshold := some settings.voiceWakeThreshold
  vadThreshold := settings.voiceWakeVadThreshold
  bufferMs := some settings.voiceWakeBufferMs
  predictionFrameMs := some settings.voiceWakePredictionFrameMs
  models := if models = [] then (nonempty (defaultWakeword py config models)).toList else models
  warmModels := (texts py (items config "warm_models")).map (normalizeWakeName py)
  service := wakeService settings
  recordings := wakeRecordings settings

theorem named_normalizedWakeModels (raw : Option String) :
    ∀ t ∈ normalizedWakeModels py raw, Named py t := by
  unfold normalizedWakeModels
  have hfold (parts : List String) {models : List String} (h : ∀ t ∈ models, Named py t) :
      ∀ t ∈ parts.foldl (fun models item =>
        let cleaned := normalizeWakeName py (strip item)
        if cleaned = "" ∨ cleaned ∈ models then models else models ++ [cleaned]) models,
        Named py t := by
    induction parts generalizing models with
    | nil => exact h
    | cons part parts ih =>
      refine ih ?_
      dsimp only
      split
      · exact h
      · next hnew =>
        intro t ht
        rcases List.mem_append.mp ht with ht | ht
        · exact h t ht
        · refine named_of_nonempty py (strip_strip part) ?_
          rw [List.mem_singleton.mp ht]
          exact if_neg fun hempty => hnew (.inl hempty)
  exact hfold _ fun _ ht => nomatch ht

theorem strip_defaultWakeword (config : JsonObject) (models : List String) :
    strip (defaultWakeword py config models) = defaultWakeword py config models :=
  strip_normalizeWakeName py (strip_strip _)

theorem normalizeWakeName_defaultWakeword (config : JsonObject) (models : List String) :
    normalizeWakeName py (defaultWakeword py config models) = defaultWakeword py config models :=
  normalizeWakeName_idempotent py _

theorem names_wakeword {word : String} (hstrip : strip word = word)
    (hname : normalizeWakeName py word = word) :
    (texts py ([word].map .str)).map (normalizeWakeName py) = (nonempty word).toList := by
  by_cases hempty : word = ""
  · subst hempty
    have htexts : texts py ([""].map .str) = [] := by
      show [strip ""].filter (· ≠ "") = []
      decide
    rw [htexts]
    rfl
  · rw [names_ofTexts py fun t ht => List.mem_singleton.mp ht ▸ ⟨⟨hstrip, hempty⟩, hname⟩, nonempty,
      if_neg hempty]
    rfl

theorem wakeSettingsPayload_eq (settings : Settings) (setup : ProviderSetupState)
    {provider : String} (hprovider : strip settings.voiceWakeProvider = provider)
    (hconfig : configOf setup "wake" = config)
    {models : List String} (hmodels : normalizedWakeModels py settings.voiceWakeModels = models) :
    wakeSettingsPayload py floatOf settings setup =
      if provider = "" ∨
          provider ∈ ["deterministic", "openwakeword"] ∧ config.entries = [] ∧ models = [] then
        .ok none
      else if provider ∉ wakeProviders then refuse "voice_wake_settings_provider_invalid"
      else if outsideUnit settings.voiceWakeThreshold then
        refuse "voice_wake_settings_threshold_invalid"
      else if settings.voiceWakeVadThreshold.any outsideUnit then
        refuse "voice_wake_settings_vad_threshold_invalid"
      else if settings.voiceWakeBufferMs < 0 then refuse "voice_wake_settings_buffer_ms_invalid"
      else if settings.voiceWakePredictionFrameMs < 0 then
        refuse "voice_wake_settings_prediction_frame_ms_invalid"
      else .ok (some (wakeSettingsOf py settings setup provider config models)) := by
  have hstrip : strip provider = provider := by rw [← hprovider, strip_strip]
  unfold wakeSettingsPayload
  simp only [hprovider, hconfig, hmodels]
  refine ite_congr rfl (fun _ => rfl) fun _ => ?_
  generalize hpayload : wakePayload py settings setup provider config models = payload
  have hget (key : String) := congrArg (Dict.get · key) hpayload
  simp only [wakePayload, get_cons, get_nil] at hget
  have hitem (key : String) : item payload key = (payload.get key).getD .null := rfl
  unfold validateWakeSettings
  dsimp only
  rw [providerOf_eq py (hget _).symm, hstrip,
    unitOf_eq floatOf (show item payload "threshold" =
      ((some settings.voiceWakeThreshold).map .float).getD .null by rw [hitem, ← hget]; rfl),
    unitOf_eq floatOf (show item payload "vad_threshold" =
      (settings.voiceWakeVadThreshold.map .float).getD .null by rw [hitem, ← hget]; rfl),
    millisOf_eq py (show item payload "buffer_ms" = ofInt (some settings.voiceWakeBufferMs) by
      rw [hitem, ← hget]; rfl),
    millisOf_eq py (show item payload "prediction_frame_ms" =
      ofInt (some settings.voiceWakePredictionFrameMs) by rw [hitem, ← hget]; rfl)]
  by_cases hmem : provider ∈ wakeProviders
  · have hword : nonempty (normalizeWakeName py (cleaned py (item payload "default_wakeword"))) =
        nonempty (defaultWakeword py config models) := by
      rw [hitem, ← hget]
      show nonempty (normalizeWakeName py (cleaned py (.str (defaultWakeword ..)))) = _
      rw [cleaned_str, strip_defaultWakeword, normalizeWakeName_defaultWakeword]
    have hnames : (texts py ((if models = [] then [defaultWakeword py config models]
        else models).map .str)).map (normalizeWakeName py) =
          if models = [] then (nonempty (defaultWakeword py config models)).toList
          else models := by
      split
      · exact names_wakeword py (strip_defaultWakeword py _ _)
          (normalizeWakeName_defaultWakeword py _ _)
      · exact names_ofTexts py (hmodels ▸ named_normalizedWakeModels py _)
    rw [if_pos hmem, if_neg (not_not.mpr hmem), wakeNamesOf_eq py (hget "models").symm,
      wakeNamesOf_eq py (hget "warm_models").symm, objectOf_eq (hget "service").symm,
      objectOf_eq (hget "recordings").symm, hword, hnames,
      names_ofTexts py (named_names py (clean_texts py)), flag_bool (hget "enabled").symm,
      flag_bool (hget "warm_model").symm, flag_bool (hget "auto_download_models").symm,
      flag_bool (hget "preload").symm, flag_bool (hget "enable_speex_noise_suppression").symm]
    simp only [Option.any_some, decide_eq_true_eq, except_ok_bind]
    split
    · rfl
    · split
      · rfl
      · split
        · rfl
        · split <;> rfl
  · rw [if_neg hmem, if_pos hmem]
    rfl

theorem checked_of_wakeSettingsPayload
    (h : wakeSettingsPayload py floatOf settings setup = .ok (some s)) :
    s.Checked py := by
  unfold wakeSettingsPayload at h
  dsimp only at h
  split at h
  · cases h
  · simp only [except_bind_eq_ok] at h
    obtain ⟨checked, hchecked, h⟩ := h
    cases h
    exact checked_of_validateWakeSettings py floatOf hchecked

end wake

end HexeVoice.Migration
