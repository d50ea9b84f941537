import HexeVoice.Recovery.Reset

/-!
# Recovery provisioning

The three writers of provisioning in the recovery image, `wifi_post_handler` and
`endpoint_post_handler` of `recovery_control.cpp` and `save_local_recovery_payload` of
`recovery_ble_provisioning.cpp`, and the two readers of what they store.

## The model

A request over HTTP is the body that was received, which cJSON parses; one over BLE is the credential
payload of a write that passed its checks. NVS fails where a string is too long for it.

## What is proved

**`provisioned_used_iff`**: in a run of accepted requests both images use what was posted last, after
every step, exactly if every request fits the buffers of the readers and posts no empty password that
is not stored.
-/

namespace HexeVoice.Recovery.Provisioning

open HexeVoice.Library HexeVoice.Firmware.Settings
open HexeVoice.Recovery.Reset (Network updateNetworkMode)

variable {payload : CJson}

/-! ### Writing over HTTP -/

/-- `set_nvs_string` of `recovery_control.cpp`. -/
def setNvsString (root : CJson) (jsonKey nvsKey : String) (required : Bool) (store : Nvs) :
    Option Nvs :=
  match CJson.string? (root.getObjectItem jsonKey) with
  | none => if required then none else some store
  | some s => (store.setStr nvsKey s).toOption

def setNvsI32 (root : CJson) (jsonKey nvsKey : String) (required : Bool) (store : Nvs) :
    Option Nvs :=
  match CJson.number? (root.getObjectItem jsonKey) with
  | none => if required then none else some store
  | some n => if validPort n then (store.setI32 nvsKey n).toOption else none

def setNvsBool (root : CJson) (jsonKey nvsKey : String) (required : Bool) (store : Nvs) :
    Option Nvs :=
  match CJson.bool? (root.getObjectItem jsonKey) with
  | none => if required then none else some store
  | some b => (store.setU8 nvsKey b.toNat).toOption

/-- What a handler sends. -/
inductive Response where
  | ok
  | badRequest (errorCode message : String)
  deriving DecidableEq

/-- The object of a body, or the message of the error that is sent. -/
def jsonBody (parse : List UInt8 → Option CJson) (body : Option (List UInt8)) (noObject : String) :
    Except String CJson :=
  match body with
  | none => .error "Expected a small JSON provisioning body"
  | some body =>
    match parse body with
    | some (.object entries) => .ok (.object entries)
    | _ => .error noObject

/-- What `wifi_post_handler` writes. -/
def wifiWrites (root : CJson) : List (Nvs → Option Nvs) :=
  [setNvsString root "wifi_ssid" Reset.kWifiSsidKey true,
    setNvsString root "wifi_password" Reset.kWifiPasswordKey false]

def wifiPostHandler (parse : List UInt8 → Option CJson) (body : Option (List UInt8))
    (network : Network) (store : Nvs) : Network × Nvs × Response :=
  match jsonBody parse body "Wi-Fi provisioning body must be a JSON object" with
  | .error message => (network, store, .badRequest "invalid_json_body" message)
  | .ok root =>
    match store.writes (wifiWrites root) with
    | (store, false) =>
      (network, store,
        .badRequest "invalid_wifi_provisioning" "wifi_ssid is required and must fit NVS")
    | (store, true) => (updateNetworkMode { network with stationConfigured := true }, store, .ok)

/-- What `endpoint_post_handler` writes. -/
def endpointWrites (root : CJson) : List (Nvs → Option Nvs) :=
  [setNvsString root "endpoint_id" Reset.kEndpointIdKey true,
    setNvsString root "display_name" Reset.kDisplayNameKey false,
    setNvsString root "backend_host" Reset.kBackendHostKey true,
    setNvsI32 root "http_port" Reset.kHttpPortKey true,
    setNvsI32 root "ws_port" Reset.kWsPortKey true,
    setNvsBool root "use_tls" Reset.kUseTlsKey false,
    fun store => (store.setU8 Reset.kProvisionedKey 1).toOption]

def portsOk (root : CJson) : Bool :=
  (CJson.number? (root.getObjectItem "http_port")).any validPort &&
    (CJson.number? (root.getObjectItem "ws_port")).any validPort

def endpointPostHandler (parse : List UInt8 → Option CJson) (body : Option (List UInt8))
    (store : Nvs) : Nvs × Response :=
  match jsonBody parse body "Endpoint provisioning body must be a JSON object" with
  | .error message => (store, .badRequest "invalid_json_body" message)
  | .ok root =>
    if portsOk root then
      match store.writes (endpointWrites root) with
      | (store, false) =>
        (store,
          .badRequest "invalid_endpoint_provisioning" "endpoint_id and backend_host are required")
      | (store, true) => (store, .ok)
    else
      (store,
        .badRequest "invalid_endpoint_provisioning" "http_port and ws_port must be 1-65535")

/-! ### Writing over BLE -/

def stringField (obj : CJson) (key : String) : Option CString :=
  (CJson.string? (obj.getObjectItem key)).filter (· ≠ .empty)

def optionalStringField (obj : CJson) (key : String) : Option CString :=
  match obj.getObjectItem key with
  | none => some .empty
  | some .null => some .empty
  | some (.string s) => some s
  | _ => none

def intField (obj : CJson) (key : String) : Option ℤ := CJson.number? (obj.getObjectItem key)

def boolField (obj : CJson) (key : String) : Option Bool := CJson.bool? (obj.getObjectItem key)

/-- A credential payload that passes the checks. -/
structure Credentials where
  wifiSsid : CString
  wifiPassword : CString
  backendHost : CString
  httpPort : ℤ
  wsPort : ℤ
  useTls : Bool
  endpointName : CString
  displayName : CString

/-- The fields of a credential payload. -/
def readCredentials (payload : CJson) : Option Credentials := do
  let wifiSsid ← stringField payload "wifi_ssid"
  let wifiPassword ← optionalStringField payload "wifi_password"
  let backendHost ← stringField payload "backend_host"
  let httpPort ← intField payload "http_port"
  let wsPort ← intField payload "ws_port"
  let useTls ← boolField payload "use_tls"
  let endpointName ← optionalStringField payload "endpoint_name"
  let displayName ← optionalStringField payload "display_name"
  if validPort httpPort && validPort wsPort then
    some { wifiSsid, wifiPassword, backendHost, httpPort, wsPort, useTls, endpointName, displayName }
  else none

/-- `set_nvs_string` of `recovery_ble_provisioning.cpp`. -/
def setNvsText (key : String) (value : CString) (required : Bool) (store : Nvs) : Option Nvs :=
  if value = .empty then if required then none else some store
  else (store.setStr key value).toOption

def kBleOnboardingSessionIdKey : String := "ble_session"
def kBleDeviceIdKey : String := "ble_device_id"

/-- The endpoint id of a credential payload. -/
def Credentials.endpointId (credentials : Credentials) (hardwareId : CString) : CString :=
  if credentials.endpointName = .empty then hardwareId else credentials.endpointName

/-- What `save_local_recovery_payload` writes. -/
def credentialWrites (config : Config) (hardwareId onboardingSessionId : CString)
    (credentials : Credentials) : List (Nvs → Option Nvs) :=
  [setNvsText kEndpointIdKey (credentials.endpointId hardwareId) true,
    setNvsText kDisplayNameKey credentials.displayName false,
    setNvsText kBackendHostKey credentials.backendHost true,
    setNvsText kWifiSsidKey credentials.wifiSsid true,
    setNvsText kWifiPasswordKey credentials.wifiPassword false,
    setNvsText kBleOnboardingSessionIdKey onboardingSessionId false,
    setNvsText kBleDeviceIdKey config.kEndpointId false,
    fun store => (store.setI32 kHttpPortKey credentials.httpPort).toOption,
    fun store => (store.setI32 kWsPortKey credentials.wsPort).toOption,
    fun store => (store.setU8 kUseTlsKey credentials.useTls.toNat).toOption,
    fun store => (store.setU8 kProvisionedKey 1).toOption]

/-- `save_local_recovery_payload`, and the error that it sets. -/
def saveLocalRecoveryPayload (config : Config) (hardwareId onboardingSessionId : CString)
    (payload : CJson) (store : Nvs) : Nvs × Option String :=
  match readCredentials payload with
  | none => (store, some "invalid_payload")
  | some credentials =>
    match store.writes (credentialWrites config hardwareId onboardingSessionId credentials) with
    | (store, false) => (store, some "wifi_apply_failed")
    | (store, true) => (store, none)

/-- A payload that is refused is stored in part only where the flash fails. -/
theorem saveLocalRecoveryPayload_refused {config : Config} {hardwareId onboardingSessionId : CString}
    {store stored : Nvs} {error : String}
    (h : saveLocalRecoveryPayload config hardwareId onboardingSessionId payload store =
      (stored, some error)) : stored = store ∨ error = "wifi_apply_failed" := by
  simp only [saveLocalRecoveryPayload] at h
  split at h
  · cases h
    exact .inl rfl
  · split at h
    · cases h
      exact .inr rfl
    · cases h

/-! ### Reading in the recovery image -/

/-- `load_wifi_credentials`, to buffers that are zeroed. -/
def loadWifiCredentials (store : Nvs) : Option (CBuffer 33 × CBuffer 65) :=
  match store.getStr Reset.kWifiSsidKey 33 with
  | .error _ => none
  | .ok ssid =>
    let password :=
      match store.getStr Reset.kWifiPasswordKey 65 with
      | .ok password => password
      | .error _ => .copy 65 pos65 .empty
    if ssid.text = .empty then none else some (ssid, password)

/-- The SSID and the password that `start_recovery_wifi` hands to the Wi-Fi driver, by way of
`copy_wifi_field`. -/
def staConfig (store : Nvs) : Option (CBuffer 32 × CBuffer 64) :=
  (loadWifiCredentials store).map fun (ssid, password) =>
    (.copy 32 pos32 ssid.text, .copy 64 pos64 password.text)

/-! ### Runs -/

/-- A provisioning request. -/
inductive Request where
  | wifi (body : Option (List UInt8))
  | endpoint (body : Option (List UInt8))
  | ble (onboardingSessionId : CString) (payload : CJson)

section requests

variable (parse : List UInt8 → Option CJson) (config : Config) (hardwareId : CString)

/-- The namespace after a request. -/
def step (store : Nvs) : Request → Nvs
  | .wifi body => (wifiPostHandler parse body {} store).2.1
  | .endpoint body => (endpointPostHandler parse body store).1
  | .ble onboardingSessionId payload =>
    (saveLocalRecoveryPayload config hardwareId onboardingSessionId payload store).1

/-- The request is accepted. -/
def Accepted (store : Nvs) : Request → Prop
  | .wifi body => (wifiPostHandler parse body {} store).2.2 = .ok
  | .endpoint body => (endpointPostHandler parse body store).2 = .ok
  | .ble onboardingSessionId payload =>
    (saveLocalRecoveryPayload config hardwareId onboardingSessionId payload store).2 = none

instance (store : Nvs) : (request : Request) →
    Decidable (Accepted parse config hardwareId store request)
  | .wifi body => inferInstanceAs (Decidable ((wifiPostHandler parse body {} store).2.2 = .ok))
  | .endpoint body => inferInstanceAs (Decidable ((endpointPostHandler parse body store).2 = .ok))
  | .ble onboardingSessionId payload =>
    inferInstanceAs (Decidable ((saveLocalRecoveryPayload config hardwareId onboardingSessionId
      payload store).2 = none))

/-! ### What is posted -/

/-- An SSID and the password that is posted with it, which is empty if none is. -/
structure PostedWifi where
  ssid : CString
  password : CString
  deriving DecidableEq

/-- The endpoint settings that were posted last, of which two need not be. -/
structure PostedEndpoint where
  endpointId : CString
  displayName : Option CString
  backendHost : CString
  httpPort : ℤ
  wsPort : ℤ
  useTls : Option Bool
  deriving DecidableEq

/-- What was posted last in each group, if anything was. -/
structure Posted where
  wifi : Option PostedWifi := none
  endpoint : Option PostedEndpoint := none
  deriving DecidableEq

/-- What is not posted stays as it was posted before. -/
def PostedEndpoint.over (new : PostedEndpoint) (old : Option PostedEndpoint) : PostedEndpoint :=
  { new with
    displayName := new.displayName.or (old.bind (·.displayName))
    useTls := new.useTls.or (old.bind (·.useTls)) }

/-- The Wi-Fi settings of a body. -/
def postedWifi (root : CJson) : Option PostedWifi := do
  let ssid ← CJson.string? (root.getObjectItem "wifi_ssid")
  some ⟨ssid, (CJson.string? (root.getObjectItem "wifi_password")).getD .empty⟩

/-- The endpoint settings of a body. -/
def postedEndpoint (root : CJson) : Option PostedEndpoint := do
  let endpointId ← CJson.string? (root.getObjectItem "endpoint_id")
  let backendHost ← CJson.string? (root.getObjectItem "backend_host")
  let httpPort ← CJson.number? (root.getObjectItem "http_port")
  let wsPort ← CJson.number? (root.getObjectItem "ws_port")
  some
    { endpointId
      displayName := CJson.string? (root.getObjectItem "display_name")
      backendHost, httpPort, wsPort
      useTls := CJson.bool? (root.getObjectItem "use_tls") }

/-- The endpoint settings of a credential payload, of which the display name need not be given. -/
def Credentials.posted (credentials : Credentials) (payload : CJson) : PostedEndpoint where
  endpointId := credentials.endpointId hardwareId
  displayName := CJson.string? (payload.getObjectItem "display_name")
  backendHost := credentials.backendHost
  httpPort := credentials.httpPort
  wsPort := credentials.wsPort
  useTls := some credentials.useTls

/-- What was posted last, after a request. -/
def post (posted : Posted) : Request → Posted
  | .wifi body =>
    match jsonBody parse body "" with
    | .ok root => { posted with wifi := postedWifi root }
    | .error _ => posted
  | .endpoint body =>
    match jsonBody parse body "" with
    | .ok root => { posted with endpoint := (postedEndpoint root).map (·.over posted.endpoint) }
    | .error _ => posted
  | .ble _ payload =>
    match readCredentials payload with
    | some credentials =>
      { wifi := some ⟨credentials.wifiSsid, credentials.wifiPassword⟩
        endpoint := some ((credentials.posted hardwareId payload).over posted.endpoint) }
    | none => posted

end requests

/-- Both images use the posted Wi-Fi settings. -/
def WifiAgrees (config : Config) (store : Nvs) (wifi : PostedWifi) : Prop :=
  let endpoint := (initSettings config { settings := store }).endpoint
  (staConfig store).map (fun c => (c.1.text, c.2.text)) = some (wifi.ssid, wifi.password) ∧
    endpoint.wifiSsid.text = wifi.ssid ∧ endpoint.wifiPassword.text = wifi.password

/-- The main image uses the posted endpoint settings. -/
def EndpointAgrees (config : Config) (store : Nvs) (posted : PostedEndpoint) : Prop :=
  let endpoint := (initSettings config { settings := store }).endpoint
  endpoint.endpointId.text = posted.endpointId ∧
    (∀ displayName, posted.displayName = some displayName →
      endpoint.displayName.text = displayName) ∧
    endpoint.backendHost.text = posted.backendHost ∧ endpoint.httpPort = posted.httpPort ∧
    endpoint.wsPort = posted.wsPort ∧
    ∀ useTls, posted.useTls = some useTls → endpoint.useTls = useTls

/-- The device uses what was posted last. -/
def Agrees (config : Config) (store : Nvs) (posted : Posted) : Prop :=
  (∀ wifi, posted.wifi = some wifi → WifiAgrees config store wifi) ∧
    ∀ endpoint, posted.endpoint = some endpoint → EndpointAgrees config store endpoint

/-! ### When it fits -/

/-- The main image reads an empty string from a buffer of `size` bytes. -/
def ReadsEmpty (store : Nvs) (key : String) (size : ℕ) (default : CString) : Prop :=
  match store key with
  | some (.str s) => s = .empty ∨ size ≤ s.length ∧ default = .empty
  | _ => default = .empty

/-- What is not empty. -/
def nonempty (s : CString) : Option CString := if s = .empty then none else some s

/-- The SSID is one that the driver takes, and the password fits or, if none is written, is empty
already. -/
def WifiFits (config : Config) (store : Nvs) (ssid : CString) (written : Option CString) : Prop :=
  1 ≤ ssid.length ∧ ssid.length ≤ 31 ∧
    match written with
    | some password => password.length ≤ 63
    | none => ReadsEmpty store kWifiPasswordKey 65 config.kWifiPassword

/-- The display name fits or, if none is written, is empty already. -/
def NameFits (config : Config) (store : Nvs) : Option CString → Prop
  | some displayName => displayName.length ≤ 63
  | none => ReadsEmpty store kDisplayNameKey 64 config.kEndpointId

/-- A request fits the buffers of the readers, and an empty string that is not written is read
already. -/
def Fits (parse : List UInt8 → Option CJson) (config : Config) (hardwareId : CString)
    (store : Nvs) : Request → Prop
  | .wifi body =>
    ∀ root, jsonBody parse body "" = .ok root →
    ∀ ssid, CJson.string? (root.getObjectItem "wifi_ssid") = some ssid →
      WifiFits config store ssid (CJson.string? (root.getObjectItem "wifi_password"))
  | .endpoint body =>
    ∀ root, jsonBody parse body "" = .ok root →
    ∀ posted, postedEndpoint root = some posted →
      posted.endpointId.length ≤ 63 ∧
        (∀ displayName, posted.displayName = some displayName → displayName.length ≤ 63) ∧
        posted.backendHost.length ≤ 95
  | .ble _ payload =>
    ∀ credentials, readCredentials payload = some credentials →
      WifiFits config store credentials.wifiSsid (nonempty credentials.wifiPassword) ∧
        (credentials.endpointId hardwareId).length ≤ 63 ∧
        (∀ displayName, CJson.string? (payload.getObjectItem "display_name") = some displayName →
          NameFits config store (nonempty displayName)) ∧
        credentials.backendHost.length ≤ 95

/-! ### What is stored -/

/-- A value is stored, or the key is left as it is. -/
def put (store : Nvs) (key : String) (value : Option NvsValue) : Nvs :=
  Function.update store key (value <|> store key)

theorem put_self (store : Nvs) (key : String) (value : Option NvsValue) :
    put store key value key = (value <|> store key) :=
  Function.update_self ..

theorem put_of_ne {key other : String} (h : other ≠ key) (store : Nvs)
    (value : Option NvsValue) : put store key value other = store other :=
  Function.update_of_ne h ..

theorem put_none (store : Nvs) (key : String) : put store key none = store :=
  Function.update_eq_self key store

section writes

variable {root : CJson} {jsonKey key : String} {required : Bool} {store stored : Nvs}

theorem put_of_setNvsString (hkey : key.length ≤ Nvs.maxKeyLength)
    (h : setNvsString root jsonKey key required store = some stored) :
    stored = put store key ((CJson.string? (root.getObjectItem jsonKey)).map .str) ∧
      (required = true → (CJson.string? (root.getObjectItem jsonKey)).isSome) := by
  simp only [setNvsString] at h
  cases hitem : CJson.string? (root.getObjectItem jsonKey) with
  | none =>
    simp only [hitem] at h
    cases required with
    | true => cases h
    | false =>
      simp only [Bool.false_eq_true, if_false, Option.some.injEq] at h
      simp [put_none, h]
  | some s =>
    simp only [hitem] at h
    obtain ⟨-, hstored⟩ := (Nvs.setStr_eq_some hkey).mp h
    simp [put, hstored]

theorem put_of_setNvsI32 (hkey : key.length ≤ Nvs.maxKeyLength)
    (h : setNvsI32 root jsonKey key true store = some stored) :
    ∃ n, CJson.number? (root.getObjectItem jsonKey) = some n ∧ validPort n = true ∧
      stored = put store key (some (.i32 n)) := by
  simp only [setNvsI32] at h
  cases hitem : CJson.number? (root.getObjectItem jsonKey) with
  | none =>
    simp only [hitem, if_true] at h
    cases h
  | some n =>
    simp only [hitem] at h
    cases hvalid : validPort n with
    | false => simp [hvalid] at h
    | true =>
      simp only [hvalid, if_true, Nvs.setI32_eq hkey, Option.some.injEq] at h
      exact ⟨n, rfl, hvalid, h.symm⟩

theorem put_of_setNvsBool (hkey : key.length ≤ Nvs.maxKeyLength)
    (h : setNvsBool root jsonKey key false store = some stored) :
    stored = put store key
      ((CJson.bool? (root.getObjectItem jsonKey)).map fun b => .u8 b.toNat) := by
  simp only [setNvsBool] at h
  cases hitem : CJson.bool? (root.getObjectItem jsonKey) with
  | none =>
    simp only [hitem, Bool.false_eq_true, if_false, Option.some.injEq] at h
    simp [put_none, h]
  | some b =>
    simp only [hitem, Nvs.setU8_eq hkey, Option.some.injEq] at h
    simp [put, ← h]

theorem put_of_setNvsText (hkey : key.length ≤ Nvs.maxKeyLength) {value : CString}
    (h : setNvsText key value required store = some stored) :
    stored = put store key ((nonempty value).map .str) ∧
      (required = true → nonempty value = some value) := by
  simp only [setNvsText] at h
  by_cases hempty : value = .empty
  · cases required <;> simp_all [nonempty, put_none]
  · simp only [hempty, if_false] at h
    obtain ⟨-, hstored⟩ := (Nvs.setStr_eq_some hkey).mp h
    simp [put, nonempty, hempty, hstored]

end writes

/-- Which message an error has does not matter. -/
theorem jsonBody_ok {parse : List UInt8 → Option CJson} {body : Option (List UInt8)}
    {noObject : String} {root : CJson} (h : jsonBody parse body noObject = .ok root)
    (other : String) : jsonBody parse body other = .ok root := by
  simp only [jsonBody] at h ⊢
  cases body with
  | none => cases h
  | some body =>
    simp only at h ⊢
    split at h
    · exact h
    · cases h

/-! ### What an accepted request stores -/

section accepted

variable {parse : List UInt8 → Option CJson} {config : Config} {hardwareId : CString}
  {store : Nvs}

theorem wifi_stored {body : Option (List UInt8)}
    (h : Accepted parse config hardwareId store (.wifi body)) :
    ∃ root ssid, jsonBody parse body "" = .ok root ∧
      CJson.string? (root.getObjectItem "wifi_ssid") = some ssid ∧
      step parse config hardwareId store (.wifi body) =
        put (put store kWifiSsidKey (some (.str ssid))) kWifiPasswordKey
          ((CJson.string? (root.getObjectItem "wifi_password")).map .str) := by
  simp only [Accepted, wifiPostHandler] at h
  simp only [step, wifiPostHandler]
  cases hbody : jsonBody parse body "Wi-Fi provisioning body must be a JSON object" with
  | error message =>
    simp only [hbody] at h
    cases h
  | ok root =>
    simp only [hbody] at h ⊢
    rcases hwrites : store.writes (wifiWrites root) with ⟨stored, saved⟩
    simp only [hwrites] at h ⊢
    cases saved with
    | false => cases h
    | true =>
      simp only [wifiWrites, Nvs.writes_cons_eq, Nvs.writes_nil_eq] at hwrites
      obtain ⟨first, hfirst, second, hsecond, rfl⟩ := hwrites
      obtain ⟨hfirst, hssid⟩ := put_of_setNvsString (by decide) hfirst
      obtain ⟨ssid, hssid⟩ := Option.isSome_iff_exists.mp (hssid rfl)
      obtain ⟨hsecond, -⟩ := put_of_setNvsString (by decide) hsecond
      rw [hssid] at hfirst
      refine ⟨root, ssid, jsonBody_ok hbody "", hssid, ?_⟩
      rw [hsecond, hfirst]
      rfl

/-- The writes of an endpoint post and of a credential payload, but for the two Wi-Fi keys. -/
structure EndpointStored (store stored : Nvs) (posted : PostedEndpoint)
    (displayName : Option CString) : Prop where
  endpointId : stored kEndpointIdKey = some (.str posted.endpointId)
  displayName : stored kDisplayNameKey = (displayName.map .str <|> store kDisplayNameKey)
  backendHost : stored kBackendHostKey = some (.str posted.backendHost)
  httpPort : stored kHttpPortKey = some (.i32 posted.httpPort)
  wsPort : stored kWsPortKey = some (.i32 posted.wsPort)
  useTls : stored kUseTlsKey = ((posted.useTls.map fun b => .u8 b.toNat) <|> store kUseTlsKey)
  validHttpPort : validPort posted.httpPort = true
  validWsPort : validPort posted.wsPort = true

theorem endpoint_stored {body : Option (List UInt8)}
    (h : Accepted parse config hardwareId store (.endpoint body)) :
    ∃ root posted, jsonBody parse body "" = .ok root ∧ postedEndpoint root = some posted ∧
      EndpointStored store (step parse config hardwareId store (.endpoint body)) posted
        posted.displayName ∧
      (∀ key ∈ [kWifiSsidKey, kWifiPasswordKey],
        step parse config hardwareId store (.endpoint body) key = store key) := by
  simp only [Accepted, endpointPostHandler] at h
  simp only [step, endpointPostHandler]
  cases hbody : jsonBody parse body "Endpoint provisioning body must be a JSON object" with
  | error message =>
    simp only [hbody] at h
    cases h
  | ok root =>
    simp only [hbody] at h ⊢
    cases hports : portsOk root with
    | false =>
      simp only [hports, Bool.false_eq_true, if_false] at h
      cases h
    | true =>
      simp only [hports, if_true] at h ⊢
      rcases hwrites : store.writes (endpointWrites root) with ⟨stored, saved⟩
      simp only [hwrites] at h ⊢
      cases saved with
      | false => cases h
      | true =>
        simp only [endpointWrites, Nvs.writes_cons_eq, Nvs.writes_nil_eq] at hwrites
        obtain ⟨s₁, h₁, s₂, h₂, s₃, h₃, s₄, h₄, s₅, h₅, s₆, h₆, s₇, h₇, rfl⟩ := hwrites
        obtain ⟨h₁, hid⟩ := put_of_setNvsString (by decide) h₁
        obtain ⟨endpointId, hid⟩ := Option.isSome_iff_exists.mp (hid rfl)
        obtain ⟨h₂, -⟩ := put_of_setNvsString (by decide) h₂
        obtain ⟨h₃, hhost⟩ := put_of_setNvsString (by decide) h₃
        obtain ⟨backendHost, hhost⟩ := Option.isSome_iff_exists.mp (hhost rfl)
        obtain ⟨httpPort, hhttp, hhttpValid, h₄⟩ := put_of_setNvsI32 (by decide) h₄
        obtain ⟨wsPort, hws, hwsValid, h₅⟩ := put_of_setNvsI32 (by decide) h₅
        have h₆ := put_of_setNvsBool (by decide) h₆
        rw [Nvs.setU8_eq (by decide), Option.some.injEq] at h₇
        rw [hid] at h₁
        rw [hhost] at h₃
        have hall : stored = Function.update (put (put (put (put (put (put store
            kEndpointIdKey (some (.str endpointId))) kDisplayNameKey
            ((CJson.string? (root.getObjectItem "display_name")).map .str)) kBackendHostKey
            (some (.str backendHost))) kHttpPortKey (some (.i32 httpPort))) kWsPortKey
            (some (.i32 wsPort))) kUseTlsKey
            ((CJson.bool? (root.getObjectItem "use_tls")).map fun b => .u8 b.toNat))
            kProvisionedKey (some (.u8 1)) := by
          rw [← h₇, h₆, h₅, h₄, h₃, h₂, h₁]
          rfl
        have hposted : postedEndpoint root = some
            { endpointId, backendHost, httpPort, wsPort
              displayName := CJson.string? (root.getObjectItem "display_name")
              useTls := CJson.bool? (root.getObjectItem "use_tls") } := by
          simp only [postedEndpoint, hid, hhost, hhttp, hws, Option.bind_eq_bind, Option.bind_some]
        refine ⟨root, _, jsonBody_ok hbody "", hposted, ?_, ?_⟩
        · rw [hall]
          constructor
          case validHttpPort => exact hhttpValid
          case validWsPort => exact hwsValid
          all_goals
            simp (disch := decide) only [Function.update_of_ne, put_of_ne, put_self]
            try rfl
        · intro key hkey
          rw [hall]
          fin_cases hkey <;>
            simp (disch := decide) only [Function.update_of_ne, put_of_ne]

/-- The display name of a credential payload is the posted one, or empty. -/
theorem displayName_of_readCredentials {credentials : Credentials}
    (h : readCredentials payload = some credentials) :
    credentials.displayName =
      (CJson.string? (payload.getObjectItem "display_name")).getD .empty ∧
    validPort credentials.httpPort = true ∧ validPort credentials.wsPort = true := by
  simp only [readCredentials, Option.bind_eq_bind, Option.bind_eq_some_iff] at h
  obtain ⟨_, -, _, -, _, -, httpPort, -, wsPort, -, _, -, _, -, displayName, hdisplay, h⟩ := h
  cases hports : validPort httpPort && validPort wsPort with
  | false => simp [hports] at h
  | true =>
    simp only [hports, if_true, Option.some.injEq] at h
    subst h
    rw [Bool.and_eq_true] at hports
    refine ⟨?_, hports⟩
    simp only [optionalStringField] at hdisplay
    split at hdisplay
    · next hitem => simp_all [CJson.string?]
    · next hitem => simp_all [CJson.string?]
    · next s hitem => simp_all [CJson.string?]
    · cases hdisplay

theorem ble_stored {onboardingSessionId : CString}
    (h : Accepted parse config hardwareId store (.ble onboardingSessionId payload)) :
    ∃ credentials, readCredentials payload = some credentials ∧
      EndpointStored store (step parse config hardwareId store (.ble onboardingSessionId payload))
        (credentials.posted hardwareId payload) (nonempty credentials.displayName) ∧
      step parse config hardwareId store (.ble onboardingSessionId payload) kWifiSsidKey =
        some (.str credentials.wifiSsid) ∧
      step parse config hardwareId store (.ble onboardingSessionId payload) kWifiPasswordKey =
        ((nonempty credentials.wifiPassword).map .str <|> store kWifiPasswordKey) := by
  simp only [Accepted, saveLocalRecoveryPayload] at h
  simp only [step, saveLocalRecoveryPayload]
  cases hread : readCredentials payload with
  | none =>
    simp only [hread] at h
    cases h
  | some credentials =>
    simp only [hread] at h ⊢
    rcases hwrites : store.writes (credentialWrites config hardwareId onboardingSessionId
      credentials) with ⟨stored, saved⟩
    simp only [hwrites] at h ⊢
    cases saved with
    | false => cases h
    | true =>
      obtain ⟨-, hhttpValid, hwsValid⟩ := displayName_of_readCredentials hread
      simp only [credentialWrites, Nvs.writes_cons_eq, Nvs.writes_nil_eq] at hwrites
      obtain ⟨s₁, h₁, s₂, h₂, s₃, h₃, s₄, h₄, s₅, h₅, s₆, h₆, s₇, h₇, s₈, h₈, s₉, h₉, s₁₀, h₁₀,
        s₁₁, h₁₁, rfl⟩ := hwrites
      obtain ⟨h₁, hid⟩ := put_of_setNvsText (by decide) h₁
      obtain ⟨h₂, -⟩ := put_of_setNvsText (by decide) h₂
      obtain ⟨h₃, hhost⟩ := put_of_setNvsText (by decide) h₃
      obtain ⟨h₄, hssid⟩ := put_of_setNvsText (by decide) h₄
      obtain ⟨h₅, -⟩ := put_of_setNvsText (by decide) h₅
      obtain ⟨h₆, -⟩ := put_of_setNvsText (by decide) h₆
      obtain ⟨h₇, -⟩ := put_of_setNvsText (by decide) h₇
      rw [Nvs.setI32_eq (by decide), Option.some.injEq] at h₈ h₉
      rw [Nvs.setU8_eq (by decide), Option.some.injEq] at h₁₀ h₁₁
      rw [hid rfl] at h₁
      rw [hhost rfl] at h₃
      rw [hssid rfl] at h₄
      have hall : stored = Function.update (Function.update (Function.update (Function.update
          s₇ kHttpPortKey (some (.i32 credentials.httpPort)))
          kWsPortKey (some (.i32 credentials.wsPort)))
          kUseTlsKey (some (.u8 credentials.useTls.toNat))) kProvisionedKey (some (.u8 1)) := by
        rw [← h₁₁, ← h₁₀, ← h₉, ← h₈]
      rw [h₇, h₆, h₅, h₄, h₃, h₂, h₁] at hall
      refine ⟨credentials, rfl, ?_, ?_, ?_⟩
      · rw [hall]
        constructor
        case validHttpPort => exact hhttpValid
        case validWsPort => exact hwsValid
        all_goals
          simp (disch := decide) only [Function.update_of_ne, Function.update_self, put_of_ne,
            put_self, Credentials.posted]
          try rfl
      · rw [hall]
        simp (disch := decide) only [Function.update_of_ne, put_of_ne, put_self]
        rfl
      · rw [hall]
        simp (disch := decide) only [Function.update_of_ne, put_of_ne, put_self]

end accepted

/-! ### What is read -/

section reading

variable {config : Config} {store stored : Nvs} {key : String} {size : ℕ}

/-- A stored string is read exactly if it fits. -/
theorem loadString_text_iff {s : CString} (h : store key = some (.str s))
    (target : CBuffer size) : (loadString store key target).text = s ↔ s.length < size := by
  simp only [loadString, Nvs.getStr, h]
  cases hfits : CBuffer.ofText size s with
  | some buffer =>
    rw [CBuffer.ofText_eq_some] at hfits
    simp only [hfits, true_iff]
    rw [← hfits]
    exact buffer.fits
  | none =>
    have hlong : ¬s.length < size := by
      intro hlt
      simp [CBuffer.ofText, hlt] at hfits
    simp only [hlong, iff_false]
    intro heq
    exact hlong (heq ▸ target.fits)

theorem loadString_text_eq_empty_iff (hsize : 1 < size) (default : CString) :
    (loadString store key (.copy size (by omega) default)).text = .empty ↔
      ReadsEmpty store key size default := by
  have hdefault : (CBuffer.copy size (by omega) default).text = .empty ↔ default = .empty :=
    CString.take_eq_empty_iff (by omega)
  simp only [loadString, Nvs.getStr, ReadsEmpty]
  rcases hstored : store key with _ | n | n | s
  · exact hdefault
  · exact hdefault
  · exact hdefault
  · simp only [CBuffer.ofText]
    by_cases hs : s.length < size
    · simp only [hs, dif_pos]
      exact (or_iff_left (by omega)).symm
    · simp only [hs, dif_neg, not_false_eq_true, hdefault]
      have hlength : s ≠ .empty := fun h => hs (by rw [CString.length_eq_zero_iff.mpr h]; omega)
      simp only [hlength, false_or]
      exact (and_iff_right (by omega)).symm

/-- The password that the recovery image reads. -/
def recoveryPassword (store : Nvs) : CString :=
  (loadString store kWifiPasswordKey (.copy 65 pos65 .empty)).text

/-- What the driver of the recovery image is given, where an SSID is stored. -/
theorem staConfig_iff {ssid password : CString} (h : store kWifiSsidKey = some (.str ssid)) :
    (staConfig store).map (fun c => (c.1.text, c.2.text)) = some (ssid, password) ↔
      1 ≤ ssid.length ∧ ssid.length ≤ 31 ∧ (recoveryPassword store).take 63 = password := by
  have hread : store.getStr Reset.kWifiSsidKey 33 =
      if hs : ssid.length < 33 then .ok ⟨ssid, hs⟩ else .error .invalidLength := by
    have hkey : store Reset.kWifiSsidKey = some (.str ssid) := h
    simp only [Nvs.getStr, hkey, CBuffer.ofText]
    by_cases hs : ssid.length < 33 <;> simp only [hs, dif_pos, dif_neg, not_false_eq_true]
  simp only [staConfig, loadWifiCredentials, hread]
  by_cases hs : ssid.length < 33
  · simp only [hs, dif_pos]
    by_cases hempty : ssid = .empty
    · have := CString.length_eq_zero_iff.mpr hempty
      simp only [hempty, if_true, Option.map_none, reduceCtorEq, false_iff]
      rw [hempty] at this
      omega
    · have hone : 1 ≤ ssid.length := by
        have := mt CString.length_eq_zero_iff.mp hempty
        omega
      simp only [hempty, if_false, Option.map_some, Option.some.injEq, Prod.mk.injEq, hone,
        true_and]
      apply and_congr CString.take_eq_self_iff
      have hkeys : Reset.kWifiPasswordKey = kWifiPasswordKey := rfl
      rw [recoveryPassword, loadString, hkeys]
      cases store.getStr kWifiPasswordKey 65 <;> exact Iff.rfl
  · simp only [hs, dif_neg, not_false_eq_true, Option.map_none, reduceCtorEq, false_iff]
    omega

/-- **The Wi-Fi settings are used exactly if they fit.** -/
theorem wifiAgrees_iff (config : Config) {ssid : CString} {written : Option CString}
    (hssid : stored kWifiSsidKey = some (.str ssid))
    (hpassword : stored kWifiPasswordKey = (written.map .str <|> store kWifiPasswordKey)) :
    WifiAgrees config stored ⟨ssid, written.getD .empty⟩ ↔ WifiFits config store ssid written := by
  simp only [WifiAgrees, WifiFits]
  rw [staConfig_iff hssid]
  have hmain : ∀ password : CString,
      ((initSettings config { settings := stored }).endpoint.wifiSsid.text = ssid ∧
        (initSettings config { settings := stored }).endpoint.wifiPassword.text = password) ↔
      ssid.length < 33 ∧ (loadString stored kWifiPasswordKey
        (.copy 65 pos65 config.kWifiPassword)).text = password := by
    intro password
    exact and_congr_left' (loadString_text_iff hssid _)
  rw [hmain]
  cases written with
  | some password =>
    have hkey : stored kWifiPasswordKey = some (.str password) := by
      rw [hpassword]
      rfl
    rw [Option.getD_some, loadString_text_iff hkey]
    constructor
    · rintro ⟨⟨hone, hlong, htake⟩, -, hfits⟩
      have hread : recoveryPassword stored = password := (loadString_text_iff hkey _).mpr hfits
      rw [hread, CString.take_eq_self_iff] at htake
      exact ⟨hone, hlong, htake⟩
    · rintro ⟨hone, hlong, hfits⟩
      have hread : recoveryPassword stored = password :=
        (loadString_text_iff hkey _).mpr (by omega)
      rw [hread, CString.take_eq_self_iff]
      exact ⟨⟨hone, hlong, hfits⟩, by omega, by omega⟩
  | none =>
    have hkey : stored kWifiPasswordKey = store kWifiPasswordKey := by
      rw [hpassword]
      rfl
    have hempty : ReadsEmpty stored kWifiPasswordKey 65 config.kWifiPassword ↔
        ReadsEmpty store kWifiPasswordKey 65 config.kWifiPassword := by
      simp only [ReadsEmpty, hkey]
    rw [Option.getD_none, loadString_text_eq_empty_iff (by decide), hempty,
      CString.take_eq_empty_iff (by decide), recoveryPassword,
      loadString_text_eq_empty_iff (by decide)]
    constructor
    · rintro ⟨⟨hone, hlong, -⟩, -, hreads⟩
      exact ⟨hone, hlong, hreads⟩
    · rintro ⟨hone, hlong, hreads⟩
      refine ⟨⟨hone, hlong, ?_⟩, by omega, hreads⟩
      -- What the main image reads as empty, the recovery image does.
      simp only [ReadsEmpty, hkey] at hreads ⊢
      split at hreads
      · rcases hreads with hreads | ⟨hreads, -⟩
        · exact .inl hreads
        · exact .inr ⟨hreads, trivial⟩
      · trivial

/-- The Wi-Fi settings are read from their own keys. -/
theorem wifiAgrees_congr {wifi : PostedWifi} (hssid : stored kWifiSsidKey = store kWifiSsidKey)
    (hpassword : stored kWifiPasswordKey = store kWifiPasswordKey) :
    WifiAgrees config stored wifi ↔ WifiAgrees config store wifi := by
  have hssid' : stored Reset.kWifiSsidKey = store Reset.kWifiSsidKey := hssid
  have hpassword' : stored Reset.kWifiPasswordKey = store Reset.kWifiPasswordKey := hpassword
  simp only [WifiAgrees, staConfig, loadWifiCredentials, initSettings, loadEndpointProvisioning,
    loadString, Nvs.getStr, hssid, hpassword, hssid', hpassword']

/-- **The endpoint settings are used exactly if they fit.** -/
theorem endpointAgrees_iff (config : Config) {posted : PostedEndpoint} {old : Option PostedEndpoint}
    {displayName : Option CString} (h : EndpointStored store stored posted displayName)
    (hold : ∀ endpoint, old = some endpoint → EndpointAgrees config store endpoint)
    (hname : ∀ name, posted.displayName = some name → name = displayName.getD .empty)
    (hnone : posted.displayName = none → displayName = none) :
    EndpointAgrees config stored (posted.over old) ↔
      posted.endpointId.length ≤ 63 ∧
        (∀ name, posted.displayName = some name → NameFits config store displayName) ∧
        posted.backendHost.length ≤ 95 := by
  have hid := loadString_text_iff h.endpointId (loadEndpointDefaults config).endpointId
  have hhost := loadString_text_iff h.backendHost (loadEndpointDefaults config).backendHost
  have hhttp : loadPort stored kHttpPortKey config.kEndpointHttpPort = posted.httpPort := by
    simp only [loadPort, Nvs.getI32, h.httpPort, h.validHttpPort, if_true]
  have hws : loadPort stored kWsPortKey config.kEndpointWsPort = posted.wsPort := by
    simp only [loadPort, Nvs.getI32, h.wsPort, h.validWsPort, if_true]
  have htls : ∀ useTls, (posted.over old).useTls = some useTls →
      loadFlag stored kUseTlsKey config.kEndpointUseTls = useTls := by
    intro useTls huse
    cases hposted : posted.useTls with
    | some b =>
      simp only [PostedEndpoint.over, hposted, Option.some_or, Option.some.injEq] at huse
      have hkey : stored kUseTlsKey = some (.u8 b.toNat) := by
        rw [h.useTls, hposted]
        rfl
      rw [← huse]
      cases b <;> simp [loadFlag, Nvs.getU8, hkey]
    | none =>
      simp only [PostedEndpoint.over, hposted, Option.none_or] at huse
      obtain ⟨endpoint, hendpoint, huse⟩ := Option.bind_eq_some_iff.mp huse
      obtain ⟨-, -, -, -, -, hbefore⟩ := hold endpoint hendpoint
      have hkey : stored kUseTlsKey = store kUseTlsKey := by
        rw [h.useTls, hposted]
        rfl
      rw [← hbefore useTls huse]
      simp only [initSettings, loadEndpointProvisioning, loadFlag, Nvs.getU8, hkey]
      rfl
  have hdisplay : (∀ name, (posted.over old).displayName = some name →
      (loadString stored kDisplayNameKey (loadEndpointDefaults config).displayName).text = name) ↔
      ∀ name, posted.displayName = some name → NameFits config store displayName := by
    cases hposted : posted.displayName with
    | none =>
      -- Nothing is posted, so what is read stays as it was.
      have hkey : stored kDisplayNameKey = store kDisplayNameKey := by
        rw [h.displayName, hnone hposted]
        rfl
      simp only [PostedEndpoint.over, hposted, Option.none_or, reduceCtorEq, false_implies,
        implies_true, iff_true]
      intro name hbind
      obtain ⟨endpoint, hendpoint, hbefore⟩ := Option.bind_eq_some_iff.mp hbind
      obtain ⟨-, hread, -⟩ := hold endpoint hendpoint
      rw [← hread name hbefore]
      simp only [initSettings, loadEndpointProvisioning, loadString, Nvs.getStr, hkey]
    | some name =>
      simp only [PostedEndpoint.over, hposted, Option.some_or, Option.some.injEq, forall_eq']
      have hwritten := hname name hposted
      cases displayName with
      | some written =>
        have hkey : stored kDisplayNameKey = some (.str name) := by
          rw [h.displayName, hwritten]
          rfl
        rw [loadString_text_iff hkey]
        simp only [Option.getD_some] at hwritten
        rw [hwritten]
        exact Nat.lt_succ_iff
      | none =>
        have hkey : stored kDisplayNameKey = store kDisplayNameKey := by
          rw [h.displayName]
          rfl
        have hsame : loadString stored kDisplayNameKey (loadEndpointDefaults config).displayName =
            loadString store kDisplayNameKey (loadEndpointDefaults config).displayName := by
          simp only [loadString, Nvs.getStr, hkey]
        rw [hsame, hwritten]
        exact loadString_text_eq_empty_iff (by decide) config.kEndpointId
  simp only [EndpointAgrees]
  constructor
  · rintro ⟨hreadId, hreadName, hreadHost, -, -, -⟩
    exact ⟨by have := hid.mp hreadId; omega, hdisplay.mp hreadName,
      by have := hhost.mp hreadHost; omega⟩
  · rintro ⟨hfitsId, hfitsName, hfitsHost⟩
    exact ⟨hid.mpr (by omega), hdisplay.mpr hfitsName, hhost.mpr (by omega), hhttp, hws, htls⟩

end reading

/-! ### Runs of accepted requests -/

section runs

variable {parse : List UInt8 → Option CJson} {config : Config} {hardwareId : CString}
  {store : Nvs}

variable {posted : Posted}

/-- The endpoint keys are left as they are by a Wi-Fi post. -/
theorem endpointAgrees_congr {stored : Nvs} {posted : PostedEndpoint}
    (h : ∀ key ∈ [kEndpointIdKey, kDisplayNameKey, kBackendHostKey, kHttpPortKey, kWsPortKey,
      kUseTlsKey], stored key = store key) :
    EndpointAgrees config stored posted ↔ EndpointAgrees config store posted := by
  simp only [List.forall_mem_cons] at h
  obtain ⟨hid, hname, hhost, hhttp, hws, htls, -⟩ := h
  simp only [EndpointAgrees, initSettings, loadEndpointProvisioning, loadString, loadPort,
    loadFlag, Nvs.getStr, Nvs.getI32, Nvs.getU8, hid, hname, hhost, hhttp, hws, htls]

theorem agrees_wifi (h : Agrees config store posted)
    {body : Option (List UInt8)} (haccepted : Accepted parse config hardwareId store (.wifi body)) :
    Agrees config (step parse config hardwareId store (.wifi body))
        (post parse hardwareId posted (.wifi body)) ↔
      Fits parse config hardwareId store (.wifi body) := by
  obtain ⟨root, ssid, hbody, hssid, hstep⟩ := wifi_stored haccepted
  have hkey : step parse config hardwareId store (.wifi body) kWifiSsidKey =
      some (.str ssid) := by
    rw [hstep, put_of_ne (by decide), put_self]
    rfl
  have hpassword : step parse config hardwareId store (.wifi body) kWifiPasswordKey =
      ((CJson.string? (root.getObjectItem "wifi_password")).map .str <|>
        store kWifiPasswordKey) := by
    rw [hstep, put_self, put_of_ne (by decide)]
  have hendpoint : ∀ endpoint,
      EndpointAgrees config (step parse config hardwareId store (.wifi body)) endpoint ↔
        EndpointAgrees config store endpoint := by
    intro endpoint
    apply endpointAgrees_congr
    intro key hkey
    rw [hstep]
    fin_cases hkey <;> simp (disch := decide) only [put_of_ne]
  have hwifi := wifiAgrees_iff config hkey hpassword
  simp only [Agrees, post, hbody, postedWifi, hssid, Option.bind_eq_bind, Option.bind_some,
    Option.some.injEq, forall_eq', Fits, Except.ok.injEq, hendpoint, hwifi]
  exact and_iff_left h.2

theorem agrees_endpoint (h : Agrees config store posted) {body : Option (List UInt8)}
    (haccepted : Accepted parse config hardwareId store (.endpoint body)) :
    Agrees config (step parse config hardwareId store (.endpoint body))
        (post parse hardwareId posted (.endpoint body)) ↔
      Fits parse config hardwareId store (.endpoint body) := by
  obtain ⟨root, new, hbody, hnew, hstored, hsame⟩ := endpoint_stored haccepted
  have hwifi : ∀ wifi,
      WifiAgrees config (step parse config hardwareId store (.endpoint body)) wifi ↔
        WifiAgrees config store wifi := fun wifi =>
    wifiAgrees_congr (hsame _ (by simp)) (hsame _ (by simp))
  have hendpoint := endpointAgrees_iff config hstored h.2
    (fun name hname => by rw [hname]; rfl) id
  have hname : (∀ name, new.displayName = some name → NameFits config store new.displayName) ↔
      ∀ name, new.displayName = some name → name.length ≤ 63 := by
    apply forall_congr'
    intro name
    apply imp_congr_right
    intro hposted
    rw [hposted]
    exact Iff.rfl
  simp only [Agrees, post, hbody, hnew, Option.map_some, Option.some.injEq, forall_eq', Fits,
    Except.ok.injEq, hwifi, hendpoint, hname]
  exact and_iff_right h.1

theorem agrees_ble (h : Agrees config store posted) {onboardingSessionId : CString}
    (haccepted : Accepted parse config hardwareId store (.ble onboardingSessionId payload)) :
    Agrees config (step parse config hardwareId store (.ble onboardingSessionId payload))
        (post parse hardwareId posted (.ble onboardingSessionId payload)) ↔
      Fits parse config hardwareId store (.ble onboardingSessionId payload) := by
  obtain ⟨credentials, hread, hstored, hssid, hpassword⟩ := ble_stored haccepted
  obtain ⟨hdisplay, -, -⟩ := displayName_of_readCredentials hread
  have hempty (s : CString) : (nonempty s).getD .empty = s := by
    by_cases hs : s = .empty <;> simp [nonempty, hs]
  have hwifi := wifiAgrees_iff config hssid hpassword
  rw [hempty] at hwifi
  have hendpoint := endpointAgrees_iff config hstored h.2
    (fun name hname => by
      have hname' : CJson.string? (payload.getObjectItem "display_name") = some name := hname
      rw [hempty, hdisplay, hname']
      rfl)
    (fun hnone => by
      have hnone' : CJson.string? (payload.getObjectItem "display_name") = none := hnone
      rw [hdisplay, hnone']
      rfl)
  have hname : (∀ name, (credentials.posted hardwareId payload).displayName = some name →
        NameFits config store (nonempty credentials.displayName)) ↔
      ∀ name, CJson.string? (payload.getObjectItem "display_name") = some name →
        NameFits config store (nonempty name) := by
    apply forall_congr'
    intro name
    apply imp_congr_right
    intro hposted
    have hposted' : CJson.string? (payload.getObjectItem "display_name") = some name := hposted
    rw [hdisplay, hposted']
    exact Iff.rfl
  simp only [Agrees, post, hread, Option.some.injEq, forall_eq', Fits, hwifi, hendpoint, hname]
  exact Iff.rfl

/-- **The step lemma**: what an accepted request posts is used exactly if the request fits. -/
theorem agrees_step_iff (h : Agrees config store posted) {request : Request}
    (haccepted : Accepted parse config hardwareId store request) :
    Agrees config (step parse config hardwareId store request)
        (post parse hardwareId posted request) ↔
      Fits parse config hardwareId store request := by
  cases request with
  | wifi body => exact agrees_wifi h haccepted
  | endpoint body => exact agrees_endpoint h haccepted
  | ble onboardingSessionId payload => exact agrees_ble h haccepted

theorem agrees_from (h : Agrees config store posted) {requests : List Request}
    (haccepted : AllSteps (step parse config hardwareId) (Accepted parse config hardwareId) store
      requests) :
    (∀ taken, taken <+: requests →
        Agrees config (run (step parse config hardwareId) store taken)
          (run (post parse hardwareId) posted taken)) ↔
      AllSteps (step parse config hardwareId) (Fits parse config hardwareId) store requests := by
  refine related_throughout_iff (R := Agrees config) (f := post parse hardwareId) ?_ h haccepted
  exact fun store posted request hagrees hfirst => agrees_step_iff hagrees hfirst

end runs

/-- **Accepted provisioning is what the device uses.** -/
theorem provisioned_used_iff (parse : List UInt8 → Option CJson) (config : Config)
    (hardwareId : CString) (store : Nvs) (requests : List Request)
    (h : AllSteps (step parse config hardwareId) (Accepted parse config hardwareId) store
      requests) :
    (∀ taken, taken <+: requests →
        Agrees config (run (step parse config hardwareId) store taken)
          (run (post parse hardwareId) {} taken)) ↔
      AllSteps (step parse config hardwareId) (Fits parse config hardwareId) store requests := by
  apply agrees_from _ h
  constructor <;> simp

/-! ### Concrete runs -/

/-- The body of a Wi-Fi post with a password. -/
def homeBody : List UInt8 :=
  "\x7b\"wifi_ssid\":\"home\",\"wifi_password\":\"secret12\"\x7d".toList.map
    fun c => c.toNat.toUInt8

/-- The body of a Wi-Fi post for an open network. -/
def cafeBody : List UInt8 :=
  "\x7b\"wifi_ssid\":\"cafe\"\x7d".toList.map fun c => c.toNat.toUInt8

/-- What cJSON makes of the two. -/
def parseBodies (body : List UInt8) : Option CJson :=
  if body = homeBody then
    some (.object [(.ofAscii "wifi_ssid", .string (.ofAscii "home")),
      (.ofAscii "wifi_password", .string (.ofAscii "secret12"))])
  else if body = cafeBody then
    some (.object [(.ofAscii "wifi_ssid", .string (.ofAscii "cafe"))])
  else none

/-- After an accepted post for an open network the driver gets the password of the network before. -/
theorem old_password_used :
    AllSteps (step parseBodies kitchen (.ofAscii "esp32-1"))
        (Accepted parseBodies kitchen (.ofAscii "esp32-1")) Nvs.empty
        [.wifi (some homeBody), .wifi (some cafeBody)] ∧
      (run (post parseBodies (.ofAscii "esp32-1")) {}
        [.wifi (some homeBody), .wifi (some cafeBody)]).wifi =
        some ⟨.ofAscii "cafe", .empty⟩ ∧
      (staConfig (run (step parseBodies kitchen (.ofAscii "esp32-1")) Nvs.empty
        [.wifi (some homeBody), .wifi (some cafeBody)])).map (fun c => (c.1.text, c.2.text)) =
        some (.ofAscii "cafe", .ofAscii "secret12") := by
  decide +kernel

/-- A post with a password is used. -/
theorem home_used :
    Agrees kitchen
      (run (step parseBodies kitchen (.ofAscii "esp32-1")) Nvs.empty [.wifi (some homeBody)])
      (run (post parseBodies (.ofAscii "esp32-1")) {} [.wifi (some homeBody)]) := by
  refine (provisioned_used_iff parseBodies kitchen (.ofAscii "esp32-1") Nvs.empty
    [.wifi (some homeBody)] (by decide +kernel)).mpr ?_ _ List.prefix_rfl
  refine ⟨?_, trivial⟩
  intro root hroot ssid hssid
  have hparse : jsonBody parseBodies (some homeBody) "" =
      .ok (.object [(.ofAscii "wifi_ssid", .string (.ofAscii "home")),
        (.ofAscii "wifi_password", .string (.ofAscii "secret12"))]) := rfl
  rw [hparse, Except.ok.injEq] at hroot
  subst hroot
  have hhome : ssid = .ofAscii "home" := by
    have : some (.ofAscii "home") = some ssid := hssid
    simpa using this.symm
  subst hhome
  have hwritten : CJson.string? (CJson.getObjectItem (.object
      [(.ofAscii "wifi_ssid", .string (.ofAscii "home")),
        (.ofAscii "wifi_password", .string (.ofAscii "secret12"))]) "wifi_password") =
      some (.ofAscii "secret12") := rfl
  rw [hwritten, WifiFits]
  decide

end HexeVoice.Recovery.Provisioning
