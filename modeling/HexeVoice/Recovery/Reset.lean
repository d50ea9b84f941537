import HexeVoice.Firmware.Settings
import HexeVoice.Library.CJson

/-!
# Recovery reset

`reset_post_handler` of `recovery_control.cpp`, which erases settings that the main image reads.

## The model

A request is the body that `read_json_body` gives, which cJSON parses. NVS takes keys of up to 15
characters and fails no other way, so the namespace is opened and the commit succeeds.

## What is proved

**`reset_erases_iff`**: after a reset the main image starts with the defaults of the requested groups
and the stored values of all others, exactly if no VAD tuning was stored or none was to be erased.
-/

namespace HexeVoice.Recovery.Reset

open HexeVoice.Library HexeVoice.Firmware.Settings

/-! ### Keys -/

def kVolumeKey : String := "volume_percent"
def kMutedKey : String := "muted"
def kMicroVadPauseMsKey : String := "micro_vad_pause_ms"
def kMicroVadEnergyThresholdKey : String := "micro_vad_energy_threshold"
def kEndpointIdKey : String := "endpoint_id"
def kDisplayNameKey : String := "display_name"
def kBackendHostKey : String := "backend_host"
def kHttpPortKey : String := "http_port"
def kWsPortKey : String := "ws_port"
def kUseTlsKey : String := "use_tls"
def kWifiSsidKey : String := "wifi_ssid"
def kWifiPasswordKey : String := "wifi_password"
def kProvisionedKey : String := "provisioned"

/-! ### The network mode -/

/-- `g_network_mode`. -/
inductive NetworkMode where
  | apsta | ap | sta | notStarted
  deriving DecidableEq

/-- The network state of the recovery image. -/
structure Network where
  temporaryApActive : Bool := false
  stationConfigured : Bool := false
  networkMode : NetworkMode := .notStarted
  deriving DecidableEq

def updateNetworkMode (network : Network) : Network :=
  { network with
    networkMode :=
      if network.temporaryApActive ∧ network.stationConfigured then .apsta
      else if network.temporaryApActive then .ap
      else if network.stationConfigured then .sta
      else .notStarted }

/-! ### The handler -/

/-- The flags of a request. -/
structure Flags where
  provisioning : Bool
  wifi : Bool
  settings : Bool
  calibration : Bool
  deriving DecidableEq

/-- What the handler sends. -/
inductive Response where
  | ok (reset : Flags)
  | badRequest (errorCode message : String)
  deriving DecidableEq

def eraseKeyIfRequested (store : Nvs) (key : String) : Nvs :=
  match store.erase key with
  | .ok store => store
  | .error _ => store

/-- The keys that are erased, in this order. -/
def erasedKeys (reset : Flags) : List String :=
  (if reset.provisioning then
      [kEndpointIdKey, kDisplayNameKey, kBackendHostKey, kHttpPortKey, kWsPortKey, kUseTlsKey,
        kProvisionedKey]
    else []) ++
  (if reset.wifi then [kWifiSsidKey, kWifiPasswordKey] else []) ++
  (if reset.settings then
      [kVolumeKey, kMutedKey, kMicroVadPauseMsKey, kMicroVadEnergyThresholdKey]
    else []) ++
  (if reset.calibration then [kMicroVadPauseMsKey, kMicroVadEnergyThresholdKey] else [])

/-- The flags of a body. -/
def readFlags (root : CJson) : Flags where
  provisioning := CJson.isTruthy (root.getObjectItem "provisioning")
  wifi := CJson.isTruthy (root.getObjectItem "wifi")
  settings := CJson.isTruthy (root.getObjectItem "settings")
  calibration := CJson.isTruthy (root.getObjectItem "calibration")

/-- `reset_post_handler`, of the body that was received and what it parses to. -/
def resetPostHandler (parse : List UInt8 → Option CJson) (body : Option (List UInt8))
    (network : Network) (flash : Flash) : Network × Flash × Response :=
  match body with
  | none => (network, flash, .badRequest "invalid_json_body" "Expected a small JSON reset body")
  | some body =>
    match parse body with
    | some (.object entries) =>
      let reset := readFlags (.object entries)
      (if reset.wifi then updateNetworkMode { network with stationConfigured := false } else network,
        { flash with settings := (erasedKeys reset).foldl eraseKeyIfRequested flash.settings },
        .ok reset)
    | _ => (network, flash, .badRequest "invalid_json_body" "Reset body must be a JSON object")

/-! ### What a reset is for -/

/-- The settings with the defaults in the requested groups. -/
def resetMemory (config : Config) (reset : Flags) (m : Memory) : Memory :=
  let defaults := loadEndpointDefaults config
  { outputVolumePercent :=
      if reset.settings then kDefaultVolumePercent else m.outputVolumePercent
    muted := if reset.settings then false else m.muted
    microVadPauseMs :=
      if reset.settings || reset.calibration then kDefaultMicroVadPauseMs else m.microVadPauseMs
    microVadEnergyThreshold :=
      if reset.settings || reset.calibration then kDefaultMicroVadEnergyThreshold
      else m.microVadEnergyThreshold
    endpoint :=
      { endpointId := if reset.provisioning then defaults.endpointId else m.endpoint.endpointId
        displayName := if reset.provisioning then defaults.displayName else m.endpoint.displayName
        backendHost := if reset.provisioning then defaults.backendHost else m.endpoint.backendHost
        httpPort := if reset.provisioning then defaults.httpPort else m.endpoint.httpPort
        wsPort := if reset.provisioning then defaults.wsPort else m.endpoint.wsPort
        useTls := if reset.provisioning then defaults.useTls else m.endpoint.useTls
        wifiSsid := if reset.wifi then defaults.wifiSsid else m.endpoint.wifiSsid
        wifiPassword := if reset.wifi then defaults.wifiPassword else m.endpoint.wifiPassword
        configured := if reset.provisioning then defaults.configured else m.endpoint.configured }
    displayFlushRows := m.displayFlushRows
    displayPixelClockHz := m.displayPixelClockHz }

/-- The stored VAD tuning, if there is any, is the default. -/
def VadTuningDefault (store : Nvs) : Prop :=
  (∀ n, store Firmware.Settings.kMicroVadPauseMsKey = some (.i32 n) → n = kDefaultMicroVadPauseMs) ∧
    ∀ n, store Firmware.Settings.kMicroVadEnergyThresholdKey = some (.i32 n) →
      n = kDefaultMicroVadEnergyThreshold

/-! ### Erasing -/

theorem eraseKeyIfRequested_apply (store : Nvs) (key other : String) :
    eraseKeyIfRequested store key other =
      if other = key ∧ key.length ≤ Nvs.maxKeyLength then none else store other := by
  simp only [eraseKeyIfRequested]
  by_cases hlength : key.length ≤ Nvs.maxKeyLength
  · rcases Nvs.erase_of_length_le store hlength with herase | ⟨herase, hsame⟩
    · simp [herase, hlength, Function.update_apply]
    · simp only [herase, hlength, and_true]
      rw [hsame, Function.update_apply]
      split <;> rfl
  · have herase : store.erase key = .error .keyTooLong := by
      rw [Nvs.erase, if_pos (by omega)]
    simp [herase, hlength]

/-- What is left of a key. -/
theorem foldl_erase_apply (keys : List String) (store : Nvs) (key : String) :
    keys.foldl eraseKeyIfRequested store key =
      if key ∈ keys ∧ key.length ≤ Nvs.maxKeyLength then none else store key := by
  induction keys generalizing store with
  | nil => simp
  | cons first keys ih =>
    rw [List.foldl_cons, ih, eraseKeyIfRequested_apply]
    by_cases hkey : key = first
    · subst hkey
      by_cases hlength : key.length ≤ Nvs.maxKeyLength <;> simp [hlength]
    · simp [hkey]

/-- A key that a group has is erased with it, and no other is. -/
theorem erased_apply (reset : Flags) (store : Nvs) {key : String} {requested : Bool}
    (h : decide (key ∈ erasedKeys reset) = requested) (hlength : key.length ≤ Nvs.maxKeyLength) :
    (erasedKeys reset).foldl eraseKeyIfRequested store key =
      if requested then none else store key := by
  rw [foldl_erase_apply, ← h]
  simp [hlength]

section reading

variable {store store' : Nvs} {key : String} {requested : Bool}

theorem loadI32_erased (h : store' key = if requested then none else store key)
    (normalize : ℤ → ℤ) (target : ℤ) :
    loadI32 store' key normalize target =
      if requested then target else loadI32 store key normalize target := by
  cases requested <;> simp_all [loadI32, Nvs.getI32]

theorem loadMuted_erased (h : store' Firmware.Settings.kMutedKey =
      if requested then none else store Firmware.Settings.kMutedKey) (outputVolumePercent : ℤ) :
    loadMuted store' outputVolumePercent =
      if requested then false else loadMuted store outputVolumePercent := by
  cases requested <;> simp_all [loadMuted, Nvs.getU8]

theorem loadString_erased (h : store' key = if requested then none else store key) {size : ℕ}
    (target : CBuffer size) :
    loadString store' key target = if requested then target else loadString store key target := by
  cases requested <;> simp_all [loadString, Nvs.getStr]

theorem loadPort_erased (h : store' key = if requested then none else store key) (target : ℤ) :
    loadPort store' key target = if requested then target else loadPort store key target := by
  cases requested <;> simp_all [loadPort, Nvs.getI32]

theorem loadFlag_erased (h : store' key = if requested then none else store key) (target : Bool) :
    loadFlag store' key target = if requested then target else loadFlag store key target := by
  cases requested <;> simp_all [loadFlag, Nvs.getU8]

end reading

/-! ### One reset -/

/-- The flag with which a key that the main image reads is erased. -/
def requestedWith (reset : Flags) (key : String) : Bool :=
  if key ∈ [Firmware.Settings.kVolumeKey, Firmware.Settings.kMutedKey] then reset.settings
  else if key ∈ [Firmware.Settings.kWifiSsidKey, Firmware.Settings.kWifiPasswordKey] then reset.wifi
  else if key ∈ provisioningKeys then reset.provisioning
  else false

/-- The keys that the main image reads. -/
def readKeys : List String :=
  [Firmware.Settings.kVolumeKey, Firmware.Settings.kMutedKey,
    Firmware.Settings.kMicroVadPauseMsKey, Firmware.Settings.kMicroVadEnergyThresholdKey] ++
  provisioningKeys

/-- The two lists of keys agree, but for those of the VAD tuning. -/
theorem mem_erasedKeys : ∀ key ∈ readKeys, ∀ provisioning wifi settings calibration : Bool,
    decide (key ∈ erasedKeys ⟨provisioning, wifi, settings, calibration⟩) =
      requestedWith ⟨provisioning, wifi, settings, calibration⟩ key := by
  decide +kernel

theorem length_readKeys : ∀ key ∈ readKeys, key.length ≤ Nvs.maxKeyLength := by
  decide

/-- What the main image reads after a reset: the requested groups are erased, but for the VAD
tuning. -/
theorem initSettings_reset (config : Config) (reset : Flags) (flash : Flash) :
    initSettings config
        { flash with settings := (erasedKeys reset).foldl eraseKeyIfRequested flash.settings } =
      { resetMemory config reset (initSettings config flash) with
        microVadPauseMs := (initSettings config flash).microVadPauseMs
        microVadEnergyThreshold := (initSettings config flash).microVadEnergyThreshold } := by
  obtain ⟨provisioning, wifi, settings, calibration⟩ := reset
  generalize hstore : (erasedKeys ⟨provisioning, wifi, settings, calibration⟩).foldl
    eraseKeyIfRequested flash.settings = store'
  have herased (key : String) (hkey : key ∈ readKeys) :
      store' key = if requestedWith ⟨provisioning, wifi, settings, calibration⟩ key then none
        else flash.settings key := by
    rw [← hstore]
    exact erased_apply _ _ (mem_erasedKeys key hkey provisioning wifi settings calibration)
      (length_readKeys key hkey)
  have hvolume := herased Firmware.Settings.kVolumeKey (by decide)
  have hmuted := herased Firmware.Settings.kMutedKey (by decide)
  have hpause := herased Firmware.Settings.kMicroVadPauseMsKey (by decide)
  have henergy := herased Firmware.Settings.kMicroVadEnergyThresholdKey (by decide)
  have hid := herased Firmware.Settings.kEndpointIdKey (by decide)
  have hname := herased Firmware.Settings.kDisplayNameKey (by decide)
  have hhost := herased Firmware.Settings.kBackendHostKey (by decide)
  have hhttp := herased Firmware.Settings.kHttpPortKey (by decide)
  have hws := herased Firmware.Settings.kWsPortKey (by decide)
  have htls := herased Firmware.Settings.kUseTlsKey (by decide)
  have hssid := herased Firmware.Settings.kWifiSsidKey (by decide)
  have hpassword := herased Firmware.Settings.kWifiPasswordKey (by decide)
  have hprovisioned := herased Firmware.Settings.kProvisionedKey (by decide)
  simp only [initSettings, loadEndpointProvisioning, resetMemory, loadI32_erased hvolume,
    loadMuted_erased hmuted, loadI32_erased hpause, loadI32_erased henergy, loadString_erased hid,
    loadString_erased hname, loadString_erased hhost, loadPort_erased hhttp, loadPort_erased hws,
    loadFlag_erased htls, loadString_erased hssid, loadString_erased hpassword,
    loadFlag_erased hprovisioned]
  cases settings <;> rfl

/-- What a stored number within the bounds is read as. -/
theorem loadI32_eq_default_iff (store : Nvs) (key : String) {low high default : ℤ}
    (hlow : low < default) (hhigh : default < high) :
    loadI32 store key (fun n => clamp n low high) default = default ↔
      ∀ n, store key = some (.i32 n) → n = default := by
  simp only [loadI32, Nvs.getI32]
  cases hkey : store key with
  | none => simp
  | some value =>
    cases value with
    | i32 n =>
      simp only [Option.some.injEq, NvsValue.i32.injEq, forall_eq', clamp]
      split_ifs <;> omega
    | u8 n => simp
    | str s => simp

/-- The main image reads the default VAD tuning exactly if no other is stored. -/
theorem vadTuningDefault_iff (config : Config) (flash : Flash) :
    (initSettings config flash).microVadPauseMs = kDefaultMicroVadPauseMs ∧
        (initSettings config flash).microVadEnergyThreshold = kDefaultMicroVadEnergyThreshold ↔
      VadTuningDefault flash.settings := by
  apply and_congr
  · exact loadI32_eq_default_iff flash.settings _ (by decide) (by decide)
  · exact loadI32_eq_default_iff flash.settings _ (by decide) (by decide)

/-- **A recovery reset.** -/
theorem reset_erases_iff (config : Config) (parse : List UInt8 → Option CJson)
    (body : Option (List UInt8)) (network : Network) (flash : Flash) (reset : Flags)
    (h : (resetPostHandler parse body network flash).2.2 = .ok reset) :
    initSettings config (resetPostHandler parse body network flash).2.1 =
        resetMemory config reset (initSettings config flash) ↔
      ((reset.settings || reset.calibration) = true → VadTuningDefault flash.settings) := by
  have herased : (resetPostHandler parse body network flash).2.1 =
      { flash with settings := (erasedKeys reset).foldl eraseKeyIfRequested flash.settings } := by
    simp only [resetPostHandler] at h ⊢
    split at h
    · cases h
    · split at h
      · simp only [Response.ok.injEq] at h
        simp only [h]
      · cases h
  rw [herased, initSettings_reset, ← vadTuningDefault_iff config flash]
  cases hreset : reset.settings || reset.calibration with
  | false => simp [resetMemory, hreset]
  | true =>
    simp only [resetMemory, hreset, if_true, Memory.mk.injEq, true_and, and_true, true_implies]

/-- The body of a request to reset the settings. -/
def settingsBody : List UInt8 :=
  "\x7b\"settings\":true\x7d".toList.map fun c => c.toNat.toUInt8

/-- What cJSON makes of it. -/
def parseSettings (body : List UInt8) : Option CJson :=
  if body = settingsBody then some (.object [(.ofAscii "settings", .bool true)]) else none

/-- The VAD pause that was set is there after a reset of the settings. -/
theorem vad_pause_kept :
    let flash := (setMicroVadPauseMs (boot kitchen {}) 500).flash
    let handled := resetPostHandler parseSettings (some settingsBody) {} flash
    handled.2.2 = .ok ⟨false, false, true, false⟩ ∧
      (initSettings kitchen handled.2.1).microVadPauseMs = 500 ∧
      (resetMemory kitchen ⟨false, false, true, false⟩
        (initSettings kitchen flash)).microVadPauseMs = 190 := by
  decide +kernel

/-- A device that was turned down. -/
def turnedDown : Flash := (setOutputVolumePercent (boot kitchen {}) 20).flash

/-- A reset of the settings where no VAD tuning is stored. -/
theorem reset_erases_volume :
    initSettings kitchen (resetPostHandler parseSettings (some settingsBody) {} turnedDown).2.1 =
      resetMemory kitchen ⟨false, false, true, false⟩ (initSettings kitchen turnedDown) := by
  have hpause : turnedDown.settings Firmware.Settings.kMicroVadPauseMsKey = none := by
    decide +kernel
  have henergy : turnedDown.settings Firmware.Settings.kMicroVadEnergyThresholdKey = none := by
    decide +kernel
  have hok : (resetPostHandler parseSettings (some settingsBody) {} turnedDown).2.2 =
      .ok ⟨false, false, true, false⟩ := by
    decide +kernel
  apply (reset_erases_iff kitchen parseSettings (some settingsBody) {} turnedDown
    ⟨false, false, true, false⟩ hok).mpr
  intro _
  constructor
  · intro n h
    rw [hpause] at h
    cases h
  · intro n h
    rw [henergy] at h
    cases h

end HexeVoice.Recovery.Reset
