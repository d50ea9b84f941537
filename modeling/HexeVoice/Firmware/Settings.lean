import HexeVoice.Library.Machine
import HexeVoice.Library.Nvs

/-!
# Device settings

The settings of `system/settings.cpp`: what is in memory, what is in flash, and how the one is read
from the other at start.

## The model

`int` values are integers, and strings are C strings in buffers of the sizes that the source gives
them. The compiled-in defaults are a parameter. The phase that is shown is left out.

## What is proved

**`settings_survive_reboot_iff`**: after every step of a run the settings in memory are those that
`init_settings` reads from flash, exactly if the device is never unmuted at volume zero.
-/

namespace HexeVoice.Firmware.Settings

open HexeVoice.Library

variable {key : String}

/-! ### Memory and flash -/

/-- The defaults of `endpoint_config.h` and `wifi_secrets.h`. -/
structure Config where
  kEndpointId : CString
  kEndpointBackendHost : CString
  kEndpointHttpPort : ℤ
  kEndpointWsPort : ℤ
  kEndpointUseTls : Bool
  kWifiSsid : CString
  kWifiPassword : CString

structure EndpointProvisioningSettings where
  endpointId : CBuffer 64
  displayName : CBuffer 64
  backendHost : CBuffer 96
  httpPort : ℤ
  wsPort : ℤ
  useTls : Bool
  wifiSsid : CBuffer 33
  wifiPassword : CBuffer 65
  configured : Bool
  deriving DecidableEq

/-- The settings in memory. -/
structure Memory where
  outputVolumePercent : ℤ
  muted : Bool
  microVadPauseMs : ℤ
  microVadEnergyThreshold : ℤ
  endpoint : EndpointProvisioningSettings
  displayFlushRows : ℤ
  displayPixelClockHz : ℤ
  deriving DecidableEq

/-- The namespaces `hexe_settings`, and `hexe_display` of the partition `config`. -/
structure Flash where
  settings : Nvs := Nvs.empty
  display : Nvs := Nvs.empty

/-- The device. -/
structure Device where
  memory : Memory
  flash : Flash

/-! ### Keys and bounds -/

def kVolumeKey : String := "volume_percent"
def kMutedKey : String := "muted"
def kMicroVadPauseMsKey : String := "vad_pause_ms"
def kMicroVadEnergyThresholdKey : String := "vad_energy"
def kDisplayFlushRowsKey : String := "flush_rows"
def kDisplayPixelClockHzKey : String := "pixel_clock_hz"
def kEndpointIdKey : String := "endpoint_id"
def kDisplayNameKey : String := "display_name"
def kBackendHostKey : String := "backend_host"
def kHttpPortKey : String := "http_port"
def kWsPortKey : String := "ws_port"
def kUseTlsKey : String := "use_tls"
def kWifiSsidKey : String := "wifi_ssid"
def kWifiPasswordKey : String := "wifi_password"
def kProvisionedKey : String := "provisioned"

def kDefaultVolumePercent : ℤ := 70
def kDefaultMicroVadPauseMs : ℤ := 190
def kDefaultMicroVadEnergyThreshold : ℤ := 300
def kDefaultDisplayFlushRows : ℤ := 4
def kDefaultDisplayPixelClockHz : ℤ := 10 * 1000 * 1000

/-- `std::clamp`. -/
def clamp (value low high : ℤ) : ℤ := if value < low then low else if high < value then high else value

def normalizeVolume (volumePercent : ℤ) : ℤ := clamp volumePercent 0 100

def normalizeMicroVadPauseMs (pauseMs : ℤ) : ℤ := clamp pauseMs 80 3000

def normalizeMicroVadEnergyThreshold (threshold : ℤ) : ℤ := clamp threshold 50 20000

def normalizeDisplayFlushRows (rows : ℤ) : ℤ := clamp rows 1 32

def normalizeDisplayPixelClockHz (clockHz : ℤ) : ℤ :=
  clamp clockHz (3 * 1000 * 1000) (40 * 1000 * 1000)

def validPort (port : ℤ) : Bool := 0 < port ∧ port ≤ 65535

/-! ### Reading -/

def loadEndpointDefaults (config : Config) : EndpointProvisioningSettings where
  endpointId := .copy 64 pos64 config.kEndpointId
  displayName := .copy 64 pos64 config.kEndpointId
  backendHost := .copy 96 pos96 config.kEndpointBackendHost
  httpPort := config.kEndpointHttpPort
  wsPort := config.kEndpointWsPort
  useTls := config.kEndpointUseTls
  wifiSsid := .copy 33 pos33 config.kWifiSsid
  wifiPassword := .copy 65 pos65 config.kWifiPassword
  configured := false

/-- `load_string`, to `target`. -/
def loadString (store : Nvs) (key : String) {size : ℕ} (target : CBuffer size) : CBuffer size :=
  match store.getStr key size with
  | .ok loaded => loaded
  | .error _ => target

/-- A number from flash as `normalize` makes it, or the one in memory. -/
def loadI32 (store : Nvs) (key : String) (normalize : ℤ → ℤ) (target : ℤ) : ℤ :=
  match store.getI32 key with
  | .ok persisted => normalize persisted
  | .error _ => target

/-- A port from flash if it is valid, or the one in memory. -/
def loadPort (store : Nvs) (key : String) (target : ℤ) : ℤ :=
  match store.getI32 key with
  | .ok persistedPort => if validPort persistedPort then persistedPort else target
  | .error _ => target

/-- A flag from flash, or the one in memory. -/
def loadFlag (store : Nvs) (key : String) (target : Bool) : Bool :=
  match store.getU8 key with
  | .ok persisted => persisted ≠ 0
  | .error _ => target

/-- `load_endpoint_provisioning`, over `target`. -/
def loadEndpointProvisioning (store : Nvs) (target : EndpointProvisioningSettings) :
    EndpointProvisioningSettings where
  endpointId := loadString store kEndpointIdKey target.endpointId
  displayName := loadString store kDisplayNameKey target.displayName
  backendHost := loadString store kBackendHostKey target.backendHost
  wifiSsid := loadString store kWifiSsidKey target.wifiSsid
  wifiPassword := loadString store kWifiPasswordKey target.wifiPassword
  httpPort := loadPort store kHttpPortKey target.httpPort
  wsPort := loadPort store kWsPortKey target.wsPort
  useTls := loadFlag store kUseTlsKey target.useTls
  configured := loadFlag store kProvisionedKey target.configured

/-- The mute flag from flash, which volume zero implies, or the one in memory. -/
def loadMuted (store : Nvs) (outputVolumePercent : ℤ) : Bool :=
  match store.getU8 kMutedKey with
  | .ok persistedMuted => persistedMuted ≠ 0 || outputVolumePercent = 0
  | .error _ => false

/-- `init_settings`, `load_display_tuning` included. -/
def initSettings (config : Config) (flash : Flash) : Memory :=
  let outputVolumePercent :=
    loadI32 flash.settings kVolumeKey normalizeVolume kDefaultVolumePercent
  { outputVolumePercent
    muted := loadMuted flash.settings outputVolumePercent
    microVadPauseMs :=
      loadI32 flash.settings kMicroVadPauseMsKey normalizeMicroVadPauseMs kDefaultMicroVadPauseMs
    microVadEnergyThreshold :=
      loadI32 flash.settings kMicroVadEnergyThresholdKey normalizeMicroVadEnergyThreshold
        kDefaultMicroVadEnergyThreshold
    endpoint := loadEndpointProvisioning flash.settings (loadEndpointDefaults config)
    displayFlushRows :=
      loadI32 flash.display kDisplayFlushRowsKey normalizeDisplayFlushRows kDefaultDisplayFlushRows
    displayPixelClockHz :=
      loadI32 flash.display kDisplayPixelClockHzKey normalizeDisplayPixelClockHz
        kDefaultDisplayPixelClockHz }

/-- The device after a start. -/
def boot (config : Config) (flash : Flash) : Device := ⟨initSettings config flash, flash⟩

/-! ### Writing -/

/-- `save_i32`, and `save_display_i32` for the other namespace. -/
def saveI32 (store : Nvs) (key : String) (value : ℤ) : Nvs :=
  match store.setI32 key value with
  | .ok store => store
  | .error _ => store

def saveU8 (store : Nvs) (key : String) (value : ℕ) : Nvs :=
  match store.setU8 key value with
  | .ok store => store
  | .error _ => store

def setMuted (d : Device) (muted : Bool) : Device where
  memory := { d.memory with muted }
  flash := { d.flash with settings := saveU8 d.flash.settings kMutedKey muted.toNat }

def setOutputVolumePercent (d : Device) (volumePercent : ℤ) : Device :=
  let clamped := normalizeVolume volumePercent
  let muted := decide (clamped = 0)
  { memory := { d.memory with outputVolumePercent := clamped, muted }
    flash :=
      { d.flash with
        settings :=
          saveU8 (saveI32 d.flash.settings kVolumeKey clamped) kMutedKey muted.toNat } }

def setMicroVadPauseMs (d : Device) (pauseMs : ℤ) : Device :=
  let clamped := normalizeMicroVadPauseMs pauseMs
  { memory := { d.memory with microVadPauseMs := clamped }
    flash := { d.flash with settings := saveI32 d.flash.settings kMicroVadPauseMsKey clamped } }

def setMicroVadEnergyThreshold (d : Device) (threshold : ℤ) : Device :=
  let clamped := normalizeMicroVadEnergyThreshold threshold
  { memory := { d.memory with microVadEnergyThreshold := clamped }
    flash :=
      { d.flash with settings := saveI32 d.flash.settings kMicroVadEnergyThresholdKey clamped } }

def setDisplayFlushRows (d : Device) (rows : ℤ) : Device :=
  let clamped := normalizeDisplayFlushRows rows
  { memory := { d.memory with displayFlushRows := clamped }
    flash := { d.flash with display := saveI32 d.flash.display kDisplayFlushRowsKey clamped } }

def setDisplayPixelClockHz (d : Device) (clockHz : ℤ) : Device :=
  let clamped := normalizeDisplayPixelClockHz clockHz
  { memory := { d.memory with displayPixelClockHz := clamped }
    flash := { d.flash with display := saveI32 d.flash.display kDisplayPixelClockHzKey clamped } }

/-- What `save_endpoint_provisioning` writes. -/
def provisioningWrites (settings : EndpointProvisioningSettings) :
    List (Nvs → Option Nvs) :=
  [fun store => (store.setStr kEndpointIdKey settings.endpointId.text).toOption,
    fun store => (store.setStr kDisplayNameKey settings.displayName.text).toOption,
    fun store => (store.setStr kBackendHostKey settings.backendHost.text).toOption,
    fun store => (store.setI32 kHttpPortKey settings.httpPort).toOption,
    fun store => (store.setI32 kWsPortKey settings.wsPort).toOption,
    fun store => (store.setU8 kUseTlsKey settings.useTls.toNat).toOption,
    fun store => (store.setStr kWifiSsidKey settings.wifiSsid.text).toOption,
    fun store => (store.setStr kWifiPasswordKey settings.wifiPassword.text).toOption,
    fun store => (store.setU8 kProvisionedKey 1).toOption]

/-- `save_endpoint_provisioning`, and what it returns. -/
def saveEndpointProvisioning (d : Device) (settings : EndpointProvisioningSettings) :
    Device × Bool :=
  if settings.endpointId.text = .empty ∨ settings.backendHost.text = .empty ∨
      !validPort settings.httpPort ∨ !validPort settings.wsPort then (d, false)
  else
    match d.flash.settings.writes (provisioningWrites settings) with
    | (store, false) => ({ d with flash := { d.flash with settings := store } }, false)
    | (store, true) =>
      ({ memory := { d.memory with endpoint := { settings with configured := true } }
         flash := { d.flash with settings := store } }, true)

/-- Erase a key, whatever comes of it. -/
def eraseKey (store : Nvs) (key : String) : Nvs :=
  match store.erase key with
  | .ok store => store
  | .error _ => store

/-- The keys of the endpoint provisioning. -/
def provisioningKeys : List String :=
  [kEndpointIdKey, kDisplayNameKey, kBackendHostKey, kHttpPortKey, kWsPortKey, kUseTlsKey,
    kWifiSsidKey, kWifiPasswordKey, kProvisionedKey]

def resetEndpointProvisioning (config : Config) (d : Device) : Device where
  memory := { d.memory with endpoint := loadEndpointDefaults config }
  flash := { d.flash with settings := provisioningKeys.foldl eraseKey d.flash.settings }

/-! ### Runs -/

/-- A call of a setter, or a reboot. -/
inductive Call where
  | setMuted (muted : Bool)
  | setOutputVolumePercent (volumePercent : ℤ)
  | setMicroVadPauseMs (pauseMs : ℤ)
  | setMicroVadEnergyThreshold (threshold : ℤ)
  | setDisplayFlushRows (rows : ℤ)
  | setDisplayPixelClockHz (clockHz : ℤ)
  | saveEndpointProvisioning (settings : EndpointProvisioningSettings)
  | resetEndpointProvisioning
  | reboot

/-- The device after a call. -/
def step (config : Config) (d : Device) : Call → Device
  | .setMuted muted => setMuted d muted
  | .setOutputVolumePercent volumePercent => setOutputVolumePercent d volumePercent
  | .setMicroVadPauseMs pauseMs => setMicroVadPauseMs d pauseMs
  | .setMicroVadEnergyThreshold threshold => setMicroVadEnergyThreshold d threshold
  | .setDisplayFlushRows rows => setDisplayFlushRows d rows
  | .setDisplayPixelClockHz clockHz => setDisplayPixelClockHz d clockHz
  | .saveEndpointProvisioning settings => (saveEndpointProvisioning d settings).1
  | .resetEndpointProvisioning => resetEndpointProvisioning config d
  | .reboot => boot config d.flash

/-- The settings in memory are those that a reboot restores. -/
def Persistent (config : Config) (d : Device) : Prop := initSettings config d.flash = d.memory

/-- The device is not unmuted at volume zero. -/
def NotUnmutedAtZero (d : Device) : Call → Prop
  | .setMuted muted => muted = false → d.memory.outputVolumePercent ≠ 0
  | _ => True

/-! ### Writing and reading back -/

theorem clamp_clamp {value low high : ℤ} (h : low ≤ high) :
    clamp (clamp value low high) low high = clamp value low high := by
  simp only [clamp]
  split_ifs <;> omega

theorem saveI32_eq (h : key.length ≤ Nvs.maxKeyLength) (store : Nvs) (value : ℤ) :
    saveI32 store key value = Function.update store key (some (.i32 value)) := by
  rw [saveI32, Nvs.setI32, Nvs.set_of_length_le h]

theorem saveU8_eq (h : key.length ≤ Nvs.maxKeyLength) (store : Nvs) (value : ℕ) :
    saveU8 store key value = Function.update store key (some (.u8 value)) := by
  rw [saveU8, Nvs.setU8, Nvs.set_of_length_le h]

theorem eraseKey_eq (h : key.length ≤ Nvs.maxKeyLength) (store : Nvs) :
    eraseKey store key = Function.update store key none := by
  rw [eraseKey]
  rcases Nvs.erase_of_length_le store h with herase | ⟨herase, hsame⟩
  · rw [herase]
  · rw [herase]
    exact hsame

section reading

variable {store : Nvs} {key other : String} {value : Option NvsValue}

theorem loadString_update_of_ne (h : other ≠ key) {size : ℕ} (target : CBuffer size) :
    loadString (Function.update store key value) other target = loadString store other target := by
  simp only [loadString, Nvs.getStr, Function.update_of_ne h]

theorem loadI32_update_of_ne (h : other ≠ key) (normalize : ℤ → ℤ) (target : ℤ) :
    loadI32 (Function.update store key value) other normalize target =
      loadI32 store other normalize target := by
  simp only [loadI32, Nvs.getI32, Function.update_of_ne h]

theorem loadPort_update_of_ne (h : other ≠ key) (target : ℤ) :
    loadPort (Function.update store key value) other target = loadPort store other target := by
  simp only [loadPort, Nvs.getI32, Function.update_of_ne h]

theorem loadFlag_update_of_ne (h : other ≠ key) (target : Bool) :
    loadFlag (Function.update store key value) other target = loadFlag store other target := by
  simp only [loadFlag, Nvs.getU8, Function.update_of_ne h]

theorem loadMuted_update_of_ne (h : kMutedKey ≠ key) (outputVolumePercent : ℤ) :
    loadMuted (Function.update store key value) outputVolumePercent =
      loadMuted store outputVolumePercent := by
  simp only [loadMuted, Nvs.getU8, Function.update_of_ne h]

theorem loadString_update_self {size : ℕ} (buffer target : CBuffer size) :
    loadString (Function.update store key (some (.str buffer.text))) key target = buffer := by
  simp only [loadString, Nvs.getStr, Function.update_self, CBuffer.ofText_text]

theorem loadI32_update_self (n : ℤ) (normalize : ℤ → ℤ) (target : ℤ) :
    loadI32 (Function.update store key (some (.i32 n))) key normalize target = normalize n := by
  simp only [loadI32, Nvs.getI32, Function.update_self]

theorem loadPort_update_self {n : ℤ} (h : validPort n = true) (target : ℤ) :
    loadPort (Function.update store key (some (.i32 n))) key target = n := by
  simp only [loadPort, Nvs.getI32, Function.update_self, h, if_true]

theorem loadFlag_update_self (b target : Bool) :
    loadFlag (Function.update store key (some (.u8 b.toNat))) key target = b := by
  cases b <;> simp [loadFlag, Nvs.getU8]

theorem loadMuted_update_self (b : Bool) (outputVolumePercent : ℤ) :
    loadMuted (Function.update store kMutedKey (some (.u8 b.toNat))) outputVolumePercent =
      (b || decide (outputVolumePercent = 0)) := by
  cases b <;> simp [loadMuted, Nvs.getU8]

/-- What is erased is read as what is in memory. -/
theorem loadString_erased {size : ℕ} (target : CBuffer size) :
    loadString (Function.update store key none) key target = target := by
  simp only [loadString, Nvs.getStr, Function.update_self]

theorem loadPort_erased (target : ℤ) :
    loadPort (Function.update store key none) key target = target := by
  simp only [loadPort, Nvs.getI32, Function.update_self]

theorem loadFlag_erased (target : Bool) :
    loadFlag (Function.update store key none) key target = target := by
  simp only [loadFlag, Nvs.getU8, Function.update_self]

/-- The endpoint provisioning is read from its own keys. -/
theorem loadEndpointProvisioning_update (h : key ∉ provisioningKeys)
    (target : EndpointProvisioningSettings) :
    loadEndpointProvisioning (Function.update store key value) target =
      loadEndpointProvisioning store target := by
  simp only [provisioningKeys, List.mem_cons, List.not_mem_nil, or_false, not_or] at h
  obtain ⟨hid, hname, hhost, hhttp, hws, htls, hssid, hpassword, hprovisioned⟩ := h
  simp only [loadEndpointProvisioning, loadString_update_of_ne (Ne.symm hid),
    loadString_update_of_ne (Ne.symm hname), loadString_update_of_ne (Ne.symm hhost),
    loadPort_update_of_ne (Ne.symm hhttp), loadPort_update_of_ne (Ne.symm hws),
    loadFlag_update_of_ne (Ne.symm htls), loadString_update_of_ne (Ne.symm hssid),
    loadString_update_of_ne (Ne.symm hpassword), loadFlag_update_of_ne (Ne.symm hprovisioned)]

end reading

/-! ### One step -/

section steps

variable (config : Config) {d : Device}

theorem persistent_setMuted (h : Persistent config d) (muted : Bool) :
    Persistent config (setMuted d muted) ↔ NotUnmutedAtZero d (.setMuted muted) := by
  have hvolume : loadI32 d.flash.settings kVolumeKey normalizeVolume kDefaultVolumePercent =
      d.memory.outputVolumePercent := by
    rw [← h]
    rfl
  have hinit : initSettings config (setMuted d muted).flash =
      { initSettings config d.flash with
        muted := muted || decide (d.memory.outputVolumePercent = 0) } := by
    simp (disch := decide) only [setMuted, initSettings, saveU8_eq, loadI32_update_of_ne,
      loadMuted_update_self, loadEndpointProvisioning_update, hvolume]
  rw [Persistent, hinit, h]
  simp only [setMuted, NotUnmutedAtZero, Memory.mk.injEq, true_and, and_true]
  cases muted <;> simp

theorem persistent_setOutputVolumePercent (h : Persistent config d) (volumePercent : ℤ) :
    Persistent config (setOutputVolumePercent d volumePercent) := by
  have hclamp : normalizeVolume (normalizeVolume volumePercent) = normalizeVolume volumePercent :=
    clamp_clamp (by decide)
  rw [Persistent] at h ⊢
  simp (disch := decide) only [setOutputVolumePercent, ← h, initSettings, saveI32_eq, saveU8_eq,
    loadI32_update_of_ne, loadI32_update_self, loadMuted_update_self,
    loadEndpointProvisioning_update, hclamp, Bool.or_self]

theorem persistent_setMicroVadPauseMs (h : Persistent config d) (pauseMs : ℤ) :
    Persistent config (setMicroVadPauseMs d pauseMs) := by
  have hclamp : normalizeMicroVadPauseMs (normalizeMicroVadPauseMs pauseMs) =
      normalizeMicroVadPauseMs pauseMs := clamp_clamp (by decide)
  rw [Persistent] at h ⊢
  simp (disch := decide) only [setMicroVadPauseMs, ← h, initSettings, saveI32_eq,
    loadI32_update_of_ne, loadI32_update_self, loadMuted_update_of_ne,
    loadEndpointProvisioning_update, hclamp]

theorem persistent_setMicroVadEnergyThreshold (h : Persistent config d) (threshold : ℤ) :
    Persistent config (setMicroVadEnergyThreshold d threshold) := by
  have hclamp : normalizeMicroVadEnergyThreshold (normalizeMicroVadEnergyThreshold threshold) =
      normalizeMicroVadEnergyThreshold threshold := clamp_clamp (by decide)
  rw [Persistent] at h ⊢
  simp (disch := decide) only [setMicroVadEnergyThreshold, ← h, initSettings, saveI32_eq,
    loadI32_update_of_ne, loadI32_update_self, loadMuted_update_of_ne,
    loadEndpointProvisioning_update, hclamp]

theorem persistent_setDisplayFlushRows (h : Persistent config d) (rows : ℤ) :
    Persistent config (setDisplayFlushRows d rows) := by
  have hclamp : normalizeDisplayFlushRows (normalizeDisplayFlushRows rows) =
      normalizeDisplayFlushRows rows := clamp_clamp (by decide)
  rw [Persistent] at h ⊢
  simp (disch := decide) only [setDisplayFlushRows, ← h, initSettings, saveI32_eq,
    loadI32_update_of_ne, loadI32_update_self, hclamp]

theorem persistent_setDisplayPixelClockHz (h : Persistent config d) (clockHz : ℤ) :
    Persistent config (setDisplayPixelClockHz d clockHz) := by
  have hclamp : normalizeDisplayPixelClockHz (normalizeDisplayPixelClockHz clockHz) =
      normalizeDisplayPixelClockHz clockHz := clamp_clamp (by decide)
  rw [Persistent] at h ⊢
  simp (disch := decide) only [setDisplayPixelClockHz, ← h, initSettings, saveI32_eq,
    loadI32_update_of_ne, loadI32_update_self, hclamp]

/-- A buffer that is no larger than flash takes is written. -/
theorem setStr_buffer {size : ℕ} (hsize : size ≤ Nvs.maxStringBytes)
    (hkey : key.length ≤ Nvs.maxKeyLength) (store : Nvs) (buffer : CBuffer size) :
    (store.setStr key buffer.text).toOption =
      some (Function.update store key (some (.str buffer.text))) :=
  (Nvs.setStr_eq_some hkey).mpr ⟨Nat.lt_of_lt_of_le buffer.fits hsize, rfl⟩

/-- All writes of a provisioning succeed, and it is read back. -/
theorem provisioningWrites_read (settings : EndpointProvisioningSettings)
    (hhttp : validPort settings.httpPort = true) (hws : validPort settings.wsPort = true)
    (flash : Flash) :
    ∃ store, flash.settings.writes (provisioningWrites settings) = (store, true) ∧
      initSettings config { flash with settings := store } =
        { initSettings config flash with endpoint := { settings with configured := true } } := by
  simp (disch := decide) only [provisioningWrites, Nvs.writes, setStr_buffer, Nvs.setI32_eq,
    Nvs.setU8_eq]
  refine ⟨_, rfl, ?_⟩
  have hone : 1 = true.toNat := rfl
  rw [hone]
  simp (disch := first | decide | assumption) only [initSettings, loadI32_update_of_ne,
    loadMuted_update_of_ne, loadEndpointProvisioning, loadString_update_of_ne,
    loadString_update_self, loadPort_update_of_ne, loadPort_update_self, loadFlag_update_of_ne,
    loadFlag_update_self]

theorem persistent_saveEndpointProvisioning (h : Persistent config d)
    (settings : EndpointProvisioningSettings) :
    Persistent config (saveEndpointProvisioning d settings).1 := by
  rw [saveEndpointProvisioning]
  split
  · exact h
  · next hvalid =>
    simp only [not_or, Bool.not_eq_true, Bool.not_eq_false'] at hvalid
    obtain ⟨-, -, hhttp, hws⟩ := hvalid
    obtain ⟨store, hwrites, hread⟩ := provisioningWrites_read config settings hhttp hws d.flash
    rw [hwrites, Persistent]
    rw [Persistent] at h
    simp only [hread, h]

theorem persistent_resetEndpointProvisioning (h : Persistent config d) :
    Persistent config (resetEndpointProvisioning config d) := by
  rw [Persistent] at h ⊢
  simp (disch := decide) only [resetEndpointProvisioning, provisioningKeys, List.foldl_cons,
    List.foldl_nil, eraseKey_eq, ← h, initSettings, loadI32_update_of_ne, loadMuted_update_of_ne,
    loadEndpointProvisioning, loadString_update_of_ne, loadString_erased, loadPort_update_of_ne,
    loadPort_erased, loadFlag_update_of_ne, loadFlag_erased]

/-- **The step lemma**: a call keeps memory and flash together exactly if it does not unmute the
device at volume zero. -/
theorem persistent_step_iff (h : Persistent config d) (call : Call) :
    Persistent config (step config d call) ↔ NotUnmutedAtZero d call := by
  cases call with
  | setMuted muted => exact persistent_setMuted config h muted
  | setOutputVolumePercent volumePercent =>
    simp [step, NotUnmutedAtZero, persistent_setOutputVolumePercent config h]
  | setMicroVadPauseMs pauseMs =>
    simp [step, NotUnmutedAtZero, persistent_setMicroVadPauseMs config h]
  | setMicroVadEnergyThreshold threshold =>
    simp [step, NotUnmutedAtZero, persistent_setMicroVadEnergyThreshold config h]
  | setDisplayFlushRows rows =>
    simp [step, NotUnmutedAtZero, persistent_setDisplayFlushRows config h]
  | setDisplayPixelClockHz clockHz =>
    simp [step, NotUnmutedAtZero, persistent_setDisplayPixelClockHz config h]
  | saveEndpointProvisioning settings =>
    simp [step, NotUnmutedAtZero, persistent_saveEndpointProvisioning config h]
  | resetEndpointProvisioning =>
    simp [step, NotUnmutedAtZero, persistent_resetEndpointProvisioning config h]
  | reboot => simp [step, NotUnmutedAtZero, Persistent, boot]

end steps

/-! ### Whole runs -/

theorem persistent_from (config : Config) {d : Device} (h : Persistent config d)
    (calls : List Call) :
    (∀ made, made <+: calls → Persistent config (run (step config) d made)) ↔
      AllSteps (step config) NotUnmutedAtZero d calls :=
  throughout_iff (P := Persistent config) (fun _ call hd => persistent_step_iff config hd call) h
    calls

/-- **Settings survive a reboot.** -/
theorem settings_survive_reboot_iff (config : Config) (flash : Flash) (calls : List Call) :
    (∀ made, made <+: calls →
        initSettings config (run (step config) (boot config flash) made).flash =
          (run (step config) (boot config flash) made).memory) ↔
      AllSteps (step config) NotUnmutedAtZero (boot config flash) calls :=
  persistent_from config (d := boot config flash) rfl calls

/-- Defaults. -/
def kitchen : Config where
  kEndpointId := .ofAscii "kitchen"
  kEndpointBackendHost := .ofAscii "hexevoice.local"
  kEndpointHttpPort := 8080
  kEndpointWsPort := 8080
  kEndpointUseTls := false
  kWifiSsid := .empty
  kWifiPassword := .empty

/-- A device that is turned down to zero and then unmuted is muted after a reboot. -/
theorem unmuted_at_zero_lost :
    (run (step kitchen) (boot kitchen {}) [.setOutputVolumePercent 0, .setMuted false]).memory.muted
        = false ∧
      (run (step kitchen) (boot kitchen {})
        [.setOutputVolumePercent 0, .setMuted false, .reboot]).memory.muted = true := by
  decide +kernel

/-! ### Ranges -/

/-- The settings are in their ranges, and the ports are valid. -/
structure InRange (m : Memory) : Prop where
  outputVolumePercent : m.outputVolumePercent ∈ Set.Icc 0 100
  microVadPauseMs : m.microVadPauseMs ∈ Set.Icc 80 3000
  microVadEnergyThreshold : m.microVadEnergyThreshold ∈ Set.Icc 50 20000
  displayFlushRows : m.displayFlushRows ∈ Set.Icc 1 32
  displayPixelClockHz : m.displayPixelClockHz ∈ Set.Icc 3000000 40000000
  httpPort : validPort m.endpoint.httpPort = true
  wsPort : validPort m.endpoint.wsPort = true

theorem clamp_mem {value low high : ℤ} (h : low ≤ high) : clamp value low high ∈ Set.Icc low high := by
  rw [Set.mem_Icc, clamp]
  split_ifs <;> omega

theorem loadI32_mem {store : Nvs} {key : String} {low high target : ℤ} (h : low ≤ high)
    (htarget : target ∈ Set.Icc low high) :
    loadI32 store key (clamp · low high) target ∈ Set.Icc low high := by
  unfold loadI32
  split
  · exact clamp_mem h
  · exact htarget

theorem validPort_loadPort {store : Nvs} {key : String} {target : ℤ}
    (htarget : validPort target = true) :
    validPort (loadPort store key target) = true := by
  unfold loadPort
  split
  · split
    · assumption
    · exact htarget
  · exact htarget

variable {config : Config}

/-- Whatever is in flash, a start reads what is in range. -/
theorem inRange_initSettings (hhttp : validPort config.kEndpointHttpPort = true)
    (hws : validPort config.kEndpointWsPort = true) (flash : Flash) :
    InRange (initSettings config flash) where
  outputVolumePercent := loadI32_mem (by decide) (by decide)
  microVadPauseMs := loadI32_mem (by decide) (by decide)
  microVadEnergyThreshold := loadI32_mem (by decide) (by decide)
  displayFlushRows := loadI32_mem (by decide) (by decide)
  displayPixelClockHz := loadI32_mem (by decide) (by decide)
  httpPort := validPort_loadPort hhttp
  wsPort := validPort_loadPort hws

/-- **The step lemma.** -/
theorem inRange_step (hhttp : validPort config.kEndpointHttpPort = true)
    (hws : validPort config.kEndpointWsPort = true) {d : Device} (h : InRange d.memory) (call : Call) :
    InRange (step config d call).memory := by
  cases call with
  | setMuted muted => exact { h with }
  | setOutputVolumePercent v => exact { h with outputVolumePercent := clamp_mem (by decide) }
  | setMicroVadPauseMs pauseMs => exact { h with microVadPauseMs := clamp_mem (by decide) }
  | setMicroVadEnergyThreshold threshold =>
    exact { h with microVadEnergyThreshold := clamp_mem (by decide) }
  | setDisplayFlushRows rows => exact { h with displayFlushRows := clamp_mem (by decide) }
  | setDisplayPixelClockHz clockHz => exact { h with displayPixelClockHz := clamp_mem (by decide) }
  | saveEndpointProvisioning settings =>
    simp only [step, saveEndpointProvisioning]
    split
    · exact h
    · next hvalid =>
      simp only [not_or, Bool.not_eq_true', Bool.not_eq_false] at hvalid
      split
      · exact h
      · exact { h with httpPort := hvalid.2.2.1, wsPort := hvalid.2.2.2 }
  | resetEndpointProvisioning => exact { h with httpPort := hhttp, wsPort := hws }
  | reboot => exact inRange_initSettings hhttp hws d.flash

/-- **Settings are always in their ranges**, whatever the flash holds at start and whatever is called, with
ports built in that are valid. -/
theorem settings_in_range (hhttp : validPort config.kEndpointHttpPort = true)
    (hws : validPort config.kEndpointWsPort = true) (flash : Flash) (calls : List Call) :
    InRange (run (step config) (boot config flash) calls).memory := by
  have hstep : ∀ d call, InRange d.memory → True → InRange (step config d call).memory :=
    fun _ call h _ => inRange_step hhttp hws h call
  have hboot : InRange (boot config flash).memory := inRange_initSettings hhttp hws flash
  exact run_invariant hstep hboot (allSteps_of_forall (fun _ _ => trivial) _ calls)

theorem settings_in_range_kitchen :
    InRange (run (step kitchen) (boot kitchen {}) [.setOutputVolumePercent 200, .reboot]).memory :=
  settings_in_range (by decide) (by decide) {} _

end HexeVoice.Firmware.Settings
