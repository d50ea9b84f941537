import HexeVoice.Firmware.Ota
import HexeVoice.Library.CJson
import HexeVoice.Library.Digest
import HexeVoice.Library.Outcomes
import HexeVoice.Library.Python
import HexeVoice.Library.Utf8

/-!
# Signed OTA manifests

How the backend signs the metadata of a firmware image, from `main.py`, how `push_ota_update` sends
them, and what `ota.cpp` makes of them: the request that it copies them to, the text that it takes the
HMAC of, and the checks of a manifest.

## The model

The manifest of an artifact is any JSON object. Only the length of a SHA-256 digest is known, and the
texts of values that are no strings are those of `Python`. The constants of the board and of the build
are a `Board`. A key is the same on both sides.

## What is proved

**`signatures_agree_and_bind`**: the text of the device is the one that was signed exactly if the size
fits an `int`, and two accepted requests with one signature have the same digest and size, and the same
URL and version exactly if their URLs have the same number of newlines.
-/

namespace HexeVoice.Firmware.OtaManifest

open HexeVoice.Library HexeVoice.Library.Lines

variable {base metadata : JsonObject} {board : Board} {h : Sha256} {key : String}
variable {payload : JsonObject}

/-! ### Signing -/

def OTA_MANIFEST_SIGNATURE_ALGORITHM : String := "hmac-sha256"

/-- `value or ""`, as a line of a text. -/
def lineOf (value : Option Json) : Except PyException String :=
  match Json.orElse value (some (.str "")) with
  | some (.str s) => .ok s
  | _ => .error .typeError

/-- The keys of the static metadata. -/
def staticKeys : List String :=
  ["application_type", "board_profile", "soc", "idf_target", "flash_size", "psram_size",
    "partition_schema", "app_slot_size", "firmware_api_version", "model_api_version",
    "asset_api_version", "calibration_schema_version", "release_channel", "security_policy"]

/-- `ota_manifest_signature_payload`, of the static metadata. -/
def otaManifestSignaturePayload (profile url : String) (version : Option String) (sha256 : String)
    (sizeBytes : ℕ) (signatureAlgorithm signatureKeyId : String) (metadata : JsonObject) :
    Except PyException String := do
  let lines ← staticKeys.mapM fun key => lineOf (metadata.get key)
  pure ("\n".intercalate
    ([profile, url, version.getD "", sha256, Int.repr sizeBytes] ++ lines ++
      [signatureAlgorithm, signatureKeyId]))

def otaManifestStaticMetadata (manifest : JsonObject) (profile : String) : JsonObject :=
  let get (key : String) : Json := (manifest.get key).getD .null
  let first (key other : String) : Json :=
    (Json.orElse (manifest.get key) (manifest.get other)).getD .null
  let orText (key default : String) : Json :=
    (Json.orElse (manifest.get key) (some (.str default))).getD .null
  ⟨[("application_type", orText "application_type" "endpoint"),
    ("board_profile", .str profile),
    ("soc", first "soc" "idf_target"),
    ("idf_target", first "idf_target" "soc"),
    ("flash_size", get "flash_size"),
    ("psram_size", get "psram_size"),
    ("partition_schema", get "partition_schema"),
    ("app_slot_size", get "app_slot_size"),
    ("firmware_api_version", get "firmware_api_version"),
    ("model_api_version", get "model_api_version"),
    ("asset_api_version", get "asset_api_version"),
    ("calibration_schema_version", get "calibration_schema_version"),
    ("release_channel", orText "release_channel" "dev"),
    ("security_policy", orText "security_policy" "signed_manifest_sha256_required")]⟩

/-- What the backend is configured with. -/
structure Settings where
  publicApiBaseUrl : Option String
  apiPort : ℕ
  otaManifestKeyId : String
  otaManifestSigningKey : List UInt8

/-- The signed metadata, and the text that was signed. -/
structure SignedMetadata where
  payload : String
  signatureAlgorithm : String
  signatureKeyId : String
  manifestSignature : String

def signOtaManifestMetadata (h : Sha256) (settings : Settings) (profile url : String)
    (version : Option String) (sha256 : String) (sizeBytes : ℕ) (metadata : JsonObject) :
    Except PyException SignedMetadata := do
  let payload ← otaManifestSignaturePayload profile url version sha256 sizeBytes
    OTA_MANIFEST_SIGNATURE_ALGORITHM settings.otaManifestKeyId metadata
  pure
    { payload
      signatureAlgorithm := OTA_MANIFEST_SIGNATURE_ALGORITHM
      signatureKeyId := settings.otaManifestKeyId
      manifestSignature := asciiText (h.hmac settings.otaManifestSigningKey (utf8 payload)) }

/-- `base_url.rstrip('/')`. -/
def rstripSlashes (url : String) : String :=
  String.ofList (url.toList.rdropWhile (· = '/'))

def firmwarePublicUrlForSettings (settings : Settings) (filename : String) : String :=
  let baseUrl := (settings.publicApiBaseUrl.bind nonempty).getD
    s!"http://127.0.0.1:{settings.apiPort}"
  s!"{rstripSlashes baseUrl}/api/firmware/artifacts/{filename}"

/-- What `firmware_update_payload` gives of an artifact that is there. -/
structure FirmwareUpdate where
  boardProfile : String
  latestVersion : Option String
  url : String
  sha256 : String
  sizeBytes : ℕ
  staticMetadata : JsonObject
  signedMetadata : SignedMetadata

/-- `firmware_update_payload`, for a board and the manifest of its artifact; `none` where there is no
artifact. -/
def firmwareUpdatePayload (py : Python) (h : Sha256) (settings : Settings)
    (artifacts : String → Option (List UInt8)) (profile : String) (manifest : JsonObject) :
    Except PyException (Option FirmwareUpdate) :=
  let preferredFilename := s!"hexe_firmware_{profile}.bin"
  let manifestFilename :=
    py.str ((Json.orElse (manifest.get "filename") (some (.str preferredFilename))).getD .null)
  let filename :=
    if (artifacts manifestFilename).isNone ∧ (artifacts "hexe_firmware.bin").isSome then
      "hexe_firmware.bin"
    else manifestFilename
  let latestVersion := nonempty (strip (py.firstText [manifest.get "version"]))
  match artifacts filename with
  | none => .ok none
  | some image => do
    let sha256 := asciiText (h.hexdigest image)
    let staticMetadata := otaManifestStaticMetadata manifest profile
    let url := firmwarePublicUrlForSettings settings filename
    let signedMetadata ← signOtaManifestMetadata h settings profile url latestVersion sha256
      image.length staticMetadata
    pure (some
      { boardProfile := profile
        latestVersion, url, sha256
        sizeBytes := image.length
        staticMetadata, signedMetadata })

/-! ### Sending -/

/-- A text, or `null`. -/
def orNull : Option String → Json
  | some s => .str s
  | none => .null

/-- `value is not None`. -/
def notNull : Json → Bool
  | .null => false
  | _ => true

/-- `event_payload`, as `push_ota_update` starts it. -/
def eventPayload (requestId firmwareUrl : String) (version profile sha256 : Option String)
    (sizeBytes : Option ℤ) (signatureAlgorithm signatureKeyId manifestSignature : Option String) :
    JsonObject :=
  ⟨[("request_id", .str requestId),
    ("url", .str firmwareUrl),
    ("version", orNull version),
    ("profile", orNull profile),
    ("sha256", orNull sha256),
    ("size_bytes", (sizeBytes.map .int).getD .null),
    ("signature_algorithm", orNull signatureAlgorithm),
    ("signature_key_id", orNull signatureKeyId),
    ("manifest_signature", orNull manifestSignature)]⟩

/-- The payload with the manifest metadata, as `push_ota_update` sends it. -/
def withMetadata (eventPayload manifestMetadata : JsonObject) : JsonObject :=
  eventPayload.update (manifestMetadata.entries.filter fun e => notNull e.2)

/-- `push_ota_update`, of an update. -/
def FirmwareUpdate.push (update : FirmwareUpdate) (requestId : String) : JsonObject :=
  withMetadata
    (eventPayload requestId update.url update.latestVersion (some update.boardProfile)
      (some update.sha256) (some update.sizeBytes) (some update.signedMetadata.signatureAlgorithm)
      (some update.signedMetadata.signatureKeyId) (some update.signedMetadata.manifestSignature))
    update.staticMetadata

/-! ### Receiving -/

/-- `cJSON_GetObjectItem`, of what cJSON parses the text of an object to: the first entry with the
name, in upper or lower case. -/
def getObjectItem (payload : JsonObject) (name : String) : Option Json :=
  (payload.entries.find? fun e =>
    (utf8 e.1).map CJson.lowerByte = (utf8 name).map CJson.lowerByte).map (·.2)

/-- `cJSON_IsString(item) ? item->valuestring : nullptr`. -/
def valuestring : Option Json → Option CString
  | some (.str s) => some (.ofText s)
  | _ => none

/-- The greatest `int`. -/
def INT_MAX : ℤ := 2147483647

/-- `cJSON_IsNumber(item) ? item->valueint : 0`, of a whole number. -/
def valueint : Option Json → ℤ
  | some (.int n) => max (-INT_MAX - 1) (min INT_MAX n)
  | _ => 0

structure OtaUpdateManifest where
  requestId : Option CString
  url : Option CString
  version : Option CString
  profile : Option CString
  sha256 : Option CString
  sizeBytes : ℤ
  applicationType : Option CString
  boardProfile : Option CString
  soc : Option CString
  idfTarget : Option CString
  flashSize : Option CString
  psramSize : Option CString
  partitionSchema : Option CString
  appSlotSize : Option CString
  firmwareApiVersion : Option CString
  modelApiVersion : Option CString
  assetApiVersion : Option CString
  calibrationSchemaVersion : Option CString
  releaseChannel : Option CString
  securityPolicy : Option CString
  signatureAlgorithm : Option CString
  signatureKeyId : Option CString
  manifestSignature : Option CString

/-- The manifest of an `ota.update` event. -/
def otaUpdate (payload : JsonObject) : OtaUpdateManifest :=
  let get (name : String) : Option CString := valuestring (getObjectItem payload name)
  { requestId := get "request_id"
    url := get "url"
    version := get "version"
    profile := get "profile"
    sha256 := get "sha256"
    sizeBytes := valueint (getObjectItem payload "size_bytes")
    applicationType := get "application_type"
    boardProfile := get "board_profile"
    soc := get "soc"
    idfTarget := get "idf_target"
    flashSize := get "flash_size"
    psramSize := get "psram_size"
    partitionSchema := get "partition_schema"
    appSlotSize := get "app_slot_size"
    firmwareApiVersion := get "firmware_api_version"
    modelApiVersion := get "model_api_version"
    assetApiVersion := get "asset_api_version"
    calibrationSchemaVersion := get "calibration_schema_version"
    releaseChannel := get "release_channel"
    securityPolicy := get "security_policy"
    signatureAlgorithm := get "signature_algorithm"
    signatureKeyId := get "signature_key_id"
    manifestSignature := get "manifest_signature" }

structure OtaRequest where
  requestId : CBuffer 96
  url : CBuffer 256
  version : CBuffer 32
  profile : CBuffer 64
  sha256 : CBuffer 65
  sizeBytes : ℤ
  applicationType : CBuffer 24
  boardProfile : CBuffer 64
  soc : CBuffer 24
  idfTarget : CBuffer 24
  flashSize : CBuffer 24
  psramSize : CBuffer 24
  partitionSchema : CBuffer 48
  appSlotSize : CBuffer 24
  firmwareApiVersion : CBuffer 48
  modelApiVersion : CBuffer 48
  assetApiVersion : CBuffer 48
  calibrationSchemaVersion : CBuffer 48
  releaseChannel : CBuffer 24
  securityPolicy : CBuffer 48
  signatureAlgorithm : CBuffer 24
  signatureKeyId : CBuffer 48
  manifestSignature : CBuffer 65
  deriving DecidableEq

/-- `snprintf` to a buffer, of a string that need not be there. -/
def copied (size : ℕ) (h : 0 < size) (text : Option CString) : CBuffer size :=
  .copy size h (text.getD .empty)

/-- The request that `start_ota_update` copies a manifest to. -/
def requestOf (manifest : OtaUpdateManifest) : OtaRequest where
  requestId := copied 96 pos96 manifest.requestId
  url := copied 256 pos256 manifest.url
  version := copied 32 pos32 manifest.version
  profile := copied 64 pos64 manifest.profile
  sha256 := copied 65 pos65 manifest.sha256
  sizeBytes := manifest.sizeBytes
  applicationType := copied 24 pos24 manifest.applicationType
  boardProfile := copied 64 pos64 manifest.boardProfile
  soc := copied 24 pos24 manifest.soc
  idfTarget := copied 24 pos24 manifest.idfTarget
  flashSize := copied 24 pos24 manifest.flashSize
  psramSize := copied 24 pos24 manifest.psramSize
  partitionSchema := copied 48 pos48 manifest.partitionSchema
  appSlotSize := copied 24 pos24 manifest.appSlotSize
  firmwareApiVersion := copied 48 pos48 manifest.firmwareApiVersion
  modelApiVersion := copied 48 pos48 manifest.modelApiVersion
  assetApiVersion := copied 48 pos48 manifest.assetApiVersion
  calibrationSchemaVersion := copied 48 pos48 manifest.calibrationSchemaVersion
  releaseChannel := copied 24 pos24 manifest.releaseChannel
  securityPolicy := copied 48 pos48 manifest.securityPolicy
  signatureAlgorithm := copied 24 pos24 manifest.signatureAlgorithm
  signatureKeyId := copied 48 pos48 manifest.signatureKeyId
  manifestSignature := copied 65 pos65 manifest.manifestSignature

/-! ### Checking -/

/-- The constants of the build and of the board, and the version that runs. -/
structure Board where
  kEndpointBoardProfile : CString
  kBoardProfile : CString
  kSoc : CString
  kIdfTarget : CString
  kFlashSize : CString
  kPsramSize : CString
  kPartitionSchema : CString
  kAppSlotSize : CString
  kEndpointOtaManifestKeyId : CString
  kEndpointOtaManifestSigningKey : CString
  currentFirmwareVersion : CString

def kOtaSignatureAlgorithm : CString := .ofAscii "hmac-sha256"
def kFirmwareApplicationType : CString := .ofAscii "endpoint"
def kFirmwareApiVersion : CString := .ofAscii "hexe-firmware-main-api-v1"
def kModelApiVersion : CString := .ofAscii "hexe-model-bundle-api-v1"
def kAssetApiVersion : CString := .ofAscii "hexe-asset-bundle-api-v1"
def kCalibrationSchemaVersion : CString := .ofAscii "hexe-calibration-schema-v1"
def kRequiredSecurityPolicy : CString := .ofAscii "signed_manifest_sha256_required"

def isHexDigest (value : CString) : Bool := value.length = 64 && value.bytes.all isxdigit

def parseSizeLabelBytes (label : CString) : Option Int32 :=
  if label = .empty then none
  else
    let (value, cursor) := parseDigits 0 label.bytes
    if value ≤ 0 then none
    else if cursor = (CString.ofAscii "MiB").bytes then some (value * 1024 * 1024)
    else if cursor = (CString.ofAscii "KiB").bytes then some (value * 1024)
    else if cursor = (CString.ofAscii "B").bytes then some value
    else none

def canonicalManifestPayload (request : OtaRequest) : List UInt8 :=
  joinLines
    [request.profile.text.bytes,
      request.url.text.bytes,
      request.version.text.bytes,
      request.sha256.text.bytes,
      utf8 (Int.repr request.sizeBytes),
      request.applicationType.text.bytes,
      request.boardProfile.text.bytes,
      request.soc.text.bytes,
      request.idfTarget.text.bytes,
      request.flashSize.text.bytes,
      request.psramSize.text.bytes,
      request.partitionSchema.text.bytes,
      request.appSlotSize.text.bytes,
      request.firmwareApiVersion.text.bytes,
      request.modelApiVersion.text.bytes,
      request.assetApiVersion.text.bytes,
      request.calibrationSchemaVersion.text.bytes,
      request.releaseChannel.text.bytes,
      request.securityPolicy.text.bytes,
      request.signatureAlgorithm.text.bytes,
      request.signatureKeyId.text.bytes]

def verifyOtaManifestSignature (h : Sha256) (board : Board) (request : OtaRequest) : Bool :=
  h.calculateHmac board.kEndpointOtaManifestSigningKey.bytes (canonicalManifestPayload request) =
    request.manifestSignature.text.bytes

/-- `validate_ota_manifest`, and the error that it sets. -/
def validateOtaManifest (h : Sha256) (board : Board) (request : OtaRequest) : Except String Unit :=
  if request.url.text = .empty then .error "missing_url"
  else if request.version.text = .empty ∨
      !versionIsNewer request.version.text board.currentFirmwareVersion then
    .error "downgrade_or_replay"
  else if request.profile.text ≠ board.kEndpointBoardProfile then .error "unsupported_profile"
  else if request.applicationType.text ≠ kFirmwareApplicationType then
    .error "wrong_application_type"
  else if request.boardProfile.text ≠ board.kBoardProfile ∨
      request.boardProfile.text ≠ request.profile.text then .error "board_profile_mismatch"
  else if request.soc.text ≠ board.kSoc then .error "soc_mismatch"
  else if request.idfTarget.text ≠ board.kIdfTarget then .error "idf_target_mismatch"
  else if request.flashSize.text ≠ board.kFlashSize then .error "flash_geometry_mismatch"
  else if request.psramSize.text ≠ board.kPsramSize then .error "psram_geometry_mismatch"
  else if request.partitionSchema.text ≠ board.kPartitionSchema then
    .error "partition_schema_mismatch"
  else if request.appSlotSize.text ≠ board.kAppSlotSize then .error "app_slot_size_mismatch"
  else if request.sizeBytes ≤ 0 then .error "invalid_size"
  else if (parseSizeLabelBytes board.kAppSlotSize).all (·.toInt < request.sizeBytes) then
    .error "image_too_large"
  else if request.firmwareApiVersion.text ≠ kFirmwareApiVersion then
    .error "incompatible_firmware_api"
  else if request.modelApiVersion.text ≠ kModelApiVersion then .error "incompatible_model_api"
  else if request.assetApiVersion.text ≠ kAssetApiVersion then .error "incompatible_asset_api"
  else if request.calibrationSchemaVersion.text ≠ kCalibrationSchemaVersion then
    .error "incompatible_calibration_schema"
  else if request.releaseChannel.text ≠ .ofAscii "dev" ∧
      request.releaseChannel.text ≠ .ofAscii "stable" then .error "unsupported_release_channel"
  else if request.securityPolicy.text ≠ kRequiredSecurityPolicy then
    .error "unsupported_security_policy"
  else if !isHexDigest request.sha256.text then
    .error (if request.sha256.text = .empty then "missing_checksum" else "invalid_checksum")
  else if request.signatureAlgorithm.text ≠ kOtaSignatureAlgorithm then
    .error "unsupported_signature_algorithm"
  else if request.signatureKeyId.text ≠ board.kEndpointOtaManifestKeyId then
    .error "unknown_signature_key"
  else if !isHexDigest request.manifestSignature.text then
    .error
      (if request.manifestSignature.text = .empty then "missing_signature" else "invalid_signature")
  else if !verifyOtaManifestSignature h board request then .error "invalid_signature"
  else .ok ()

/-! ### The payload of an event -/

/-- The texts of an event, and the buffers that they are copied to. -/
def buffers : List (String × ℕ) :=
  [("request_id", 96), ("url", 256), ("version", 32), ("profile", 64), ("sha256", 65),
    ("application_type", 24), ("board_profile", 64), ("soc", 24), ("idf_target", 24),
    ("flash_size", 24), ("psram_size", 24), ("partition_schema", 48), ("app_slot_size", 24),
    ("firmware_api_version", 48), ("model_api_version", 48), ("asset_api_version", 48),
    ("calibration_schema_version", 48), ("release_channel", 24), ("security_policy", 48),
    ("signature_algorithm", 24), ("signature_key_id", 48), ("manifest_signature", 65)]

/-- The keys of an event. -/
def keys : List String := "size_bytes" :: buffers.map (·.1)

/-- All texts of an event fit the request. -/
def StringsFit (payload : JsonObject) : Prop :=
  ∀ b ∈ buffers, ∀ s, payload.get b.1 = some (.str s) → CString.Fits b.2 s

/-- The text of a value fits, if it is one. -/
def valueFits (size : ℕ) : Option Json → Bool
  | some (.str s) => 0 ∉ utf8 s ∧ (utf8 s).length < size
  | _ => true

theorem stringsFit_iff :
    StringsFit payload ↔ buffers.all (fun b => valueFits b.2 (payload.get b.1)) = true := by
  rw [List.all_eq_true]
  refine forall₂_congr fun b hb => ?_
  cases payload.get b.1 with
  | none => simp [valueFits]
  | some value => cases value <;> simp [valueFits, CString.Fits]

instance (payload : JsonObject) : Decidable (StringsFit payload) :=
  decidable_of_iff _ stringsFit_iff.symm

/-- The text for a key, empty if there is none. -/
def textAt (payload : JsonObject) (key : String) : String := ((payload.get key).bind Json.str?).getD ""

/-- Where keys are told apart without their case, the first entry is the one. -/
theorem getObjectItem_eq_get {name : String} (h : ∀ key ∈ payload.keys,
      (utf8 key).map CJson.lowerByte = (utf8 name).map CJson.lowerByte → key = name) :
    getObjectItem payload name = payload.get name := by
  obtain ⟨entries⟩ := payload
  simp only [getObjectItem, Dict.get]
  simp only [Dict.keys] at h
  induction entries with
  | nil => rfl
  | cons e entries ih =>
    obtain ⟨key, value⟩ := e
    by_cases hkey : key = name
    · subst hkey
      simp
    · have hne : ¬(utf8 key).map CJson.lowerByte = (utf8 name).map CJson.lowerByte :=
        fun heq => hkey (h key List.mem_cons_self heq)
      rw [List.find?_cons_of_neg (by simpa using hne), List.lookup_cons,
        beq_eq_false_iff_ne.mpr (Ne.symm hkey)]
      exact ih fun k hk => h k (List.mem_cons_of_mem _ hk)

theorem keys_apart : ∀ key ∈ keys, ∀ name ∈ keys,
    (utf8 key).map CJson.lowerByte = (utf8 name).map CJson.lowerByte → key = name := by
  decide +kernel

theorem getObjectItem_of_keys (hkeys : ∀ key ∈ payload.keys, key ∈ keys)
    {name : String} (hname : name ∈ keys) : getObjectItem payload name = payload.get name :=
  getObjectItem_eq_get fun key hkey => keys_apart key (hkeys key hkey) name hname

section request

variable {payload : JsonObject}

/-- **A text that fits** arrives in its buffer as it was sent. -/
theorem copied_textAt (hkeys : ∀ key ∈ payload.keys, key ∈ keys) (hfit : StringsFit payload)
    {name : String} {size : ℕ} {hsize : 0 < size} (hb : (name, size) ∈ buffers) :
    (copied size hsize (valuestring (getObjectItem payload name))).text.bytes =
      utf8 (textAt payload name) := by
  have hname : name ∈ keys := List.mem_cons_of_mem _ (List.mem_map_of_mem (f := Prod.fst) hb)
  have hempty : (CBuffer.copy size hsize .empty).text.bytes = utf8 "" := by
    rw [CBuffer.copy_of_fits hsize]
    rfl
  rw [getObjectItem_of_keys hkeys hname]
  simp only [copied, textAt]
  cases hget : payload.get name with
  | none => exact hempty
  | some value =>
    cases value with
    | str s => exact CString.bytes_copy (hfit (name, size) hb s hget)
    | _ => exact hempty

/-- **The text of the device**, if all texts fit. -/
theorem canonicalManifestPayload_of_fits (hkeys : ∀ key ∈ payload.keys, key ∈ keys)
    (hfit : StringsFit payload) :
    canonicalManifestPayload (requestOf (otaUpdate payload)) =
      joinLines
        ((["profile", "url", "version", "sha256"].map fun key => utf8 (textAt payload key)) ++
          [utf8 (Int.repr (valueint (payload.get "size_bytes")))] ++
          ((staticKeys ++ ["signature_algorithm", "signature_key_id"]).map fun key =>
            utf8 (textAt payload key))) := by
  have hsize : getObjectItem payload "size_bytes" = payload.get "size_bytes" :=
    getObjectItem_of_keys hkeys (by decide)
  simp (disch := decide) only [canonicalManifestPayload, requestOf, otaUpdate, hsize,
    copied_textAt hkeys hfit]
  rfl

end request

/-! ### What was signed -/

/-- A line is the text of its value, if it is one. -/
theorem lineOf_eq {value : Option Json} {line : String} (h : lineOf value = .ok line) :
    line = (value.bind Json.str?).getD "" := by
  simp only [lineOf, Json.orElse] at h
  cases value with
  | none =>
    cases h
    rfl
  | some value =>
    cases htruthy : value.truthy with
    | false =>
      simp only [Option.any_some, htruthy] at h
      cases h
      cases value with
      | str s => simpa [Json.truthy, Json.str?] using htruthy.symm
      | _ => rfl
    | true =>
      simp only [Option.any_some, htruthy, if_true] at h
      cases value with
      | str s =>
        cases h
        rfl
      | _ => cases h

/-! ### A pushed event -/

/-- The keys of the static metadata come after the others. -/
theorem keys_withMetadata
    (h : key ∈ (withMetadata base metadata).keys) : key ∈ base.keys ∨ key ∈ metadata.keys := by
  rcases Dict.mem_keys_update h with hbase | hmetadata
  · exact .inl hbase
  · obtain ⟨e, he, rfl⟩ := List.mem_map.mp hmetadata
    exact .inr (List.mem_map_of_mem (List.mem_of_mem_filter he))

theorem get_withMetadata (hnodup : metadata.keys.Nodup) (key : String) :
    (withMetadata base metadata).get key = ((metadata.get key).filter notNull).or (base.get key) := by
  have hfilter : ((metadata.entries.filter fun e => notNull e.2).map Prod.fst).Nodup :=
    hnodup.sublist (List.filter_sublist.map _)
  rw [withMetadata, Dict.get_update hfilter, Dict.lookup_filter hnodup]
  rfl

/-- A text among the metadata is that of the payload, where only they have its key. -/
theorem textAt_withMetadata (hnodup : metadata.keys.Nodup) (hbase : key ∉ base.keys) :
    textAt (withMetadata base metadata) key = ((metadata.get key).bind Json.str?).getD "" := by
  have hnone : base.get key = none := by
    rw [← Option.not_isSome_iff_eq_none, Dict.isSome_get_iff]
    exact hbase
  rw [textAt, get_withMetadata hnodup, hnone, Option.or_none]
  cases metadata.get key with
  | none => rfl
  | some value => cases value <;> rfl

/-- A text that only the payload has. -/
theorem get_withMetadata_base (hnodup : metadata.keys.Nodup) (hmetadata : key ∉ metadata.keys) :
    (withMetadata base metadata).get key = base.get key := by
  have hnone : metadata.get key = none := by
    rw [← Option.not_isSome_iff_eq_none, Dict.isSome_get_iff]
    exact hmetadata
  rw [get_withMetadata hnodup, hnone]
  rfl

/-- The keys of `event_payload`. -/
def payloadKeys : List String :=
  ["request_id", "url", "version", "profile", "sha256", "size_bytes", "signature_algorithm",
    "signature_key_id", "manifest_signature"]

theorem payloadKeys_apart : ∀ key ∈ payloadKeys, key ∉ staticKeys := by
  decide

theorem staticKeys_nodup : staticKeys.Nodup := by
  decide

theorem signature_of_sign {settings : Settings} {profile url sha256 : String}
    {version : Option String} {sizeBytes : ℕ} {metadata : JsonObject} {signed : SignedMetadata}
    (hsigned : signOtaManifestMetadata h settings profile url version sha256 sizeBytes metadata =
      .ok signed) :
    signed.manifestSignature =
      asciiText (h.hmac settings.otaManifestSigningKey (utf8 signed.payload)) := by
  simp only [signOtaManifestMetadata, bind, Except.bind] at hsigned
  split at hsigned
  · cases hsigned
  · cases hsigned
    rfl

section pushed

variable {update : FirmwareUpdate} {manifest : JsonObject}
variable {settings : Settings}

theorem keys_push (requestId : String)
    (hstatic : update.staticMetadata = otaManifestStaticMetadata manifest update.boardProfile) :
    ∀ key ∈ (update.push requestId).keys, key ∈ keys := by
  have hbaseKeys : ∀ key ∈ payloadKeys, key ∈ keys := by
    decide
  have hstaticKeys : ∀ key ∈ staticKeys, key ∈ keys := by
    decide
  intro key hkey
  rcases keys_withMetadata hkey with hbase | hmetadata
  · exact hbaseKeys key hbase
  · rw [hstatic] at hmetadata
    exact hstaticKeys key hmetadata

/-- A text that the event payload is started with. -/
theorem textAt_push (requestId : String)
    (hstatic : update.staticMetadata = otaManifestStaticMetadata manifest update.boardProfile)
    (hkey : key ∈ payloadKeys) :
    (update.push requestId).get key =
      (eventPayload requestId update.url update.latestVersion (some update.boardProfile)
        (some update.sha256) (some update.sizeBytes) (some update.signedMetadata.signatureAlgorithm)
        (some update.signedMetadata.signatureKeyId)
        (some update.signedMetadata.manifestSignature)).get key := by
  have hmetadata : update.staticMetadata.keys = staticKeys := by
    rw [hstatic]
    rfl
  rw [FirmwareUpdate.push, get_withMetadata_base]
  · rw [hmetadata]
    exact staticKeys_nodup
  · rw [hmetadata]
    exact payloadKeys_apart key hkey

/-- **The signed text** is made of what the device reads. -/
theorem payload_push (requestId : String)
    (hstatic : update.staticMetadata = otaManifestStaticMetadata manifest update.boardProfile)
    (hsigned : signOtaManifestMetadata h settings update.boardProfile update.url
      update.latestVersion update.sha256 update.sizeBytes update.staticMetadata =
        .ok update.signedMetadata) :
    update.signedMetadata.payload =
      "\n".intercalate
        ((["profile", "url", "version", "sha256"].map (textAt (update.push requestId))) ++
          [Int.repr update.sizeBytes] ++
          ((staticKeys ++ ["signature_algorithm", "signature_key_id"]).map
            (textAt (update.push requestId)))) := by
  have hmetadata : update.staticMetadata.keys = staticKeys := by
    rw [hstatic]
    rfl
  have hbase (key : String) (hkey : key ∈ payloadKeys) := textAt_push requestId hstatic hkey
  cases hlines : staticKeys.mapM fun key => lineOf (update.staticMetadata.get key) with
  | error error =>
    simp only [signOtaManifestMetadata, otaManifestSignaturePayload, hlines, bind, Except.bind]
      at hsigned
    cases hsigned
  | ok lines =>
    have hstaticLines : lines = staticKeys.map (textAt (update.push requestId)) := by
      refine eq_map_of_mapM hlines fun key hkey line hline => ?_
      rw [FirmwareUpdate.push, textAt_withMetadata, lineOf_eq hline]
      · rw [hmetadata]
        exact staticKeys_nodup
      · exact fun hmem => payloadKeys_apart key hmem hkey
    have hversion : textAt (update.push requestId) "version" = update.latestVersion.getD "" := by
      rw [textAt, hbase "version" (by decide)]
      cases update.latestVersion <;> rfl
    have hprofile : textAt (update.push requestId) "profile" = update.boardProfile := by
      rw [textAt, hbase "profile" (by decide)]
      rfl
    have hurl : textAt (update.push requestId) "url" = update.url := by
      rw [textAt, hbase "url" (by decide)]
      rfl
    have hsha256 : textAt (update.push requestId) "sha256" = update.sha256 := by
      rw [textAt, hbase "sha256" (by decide)]
      rfl
    have halgorithm : textAt (update.push requestId) "signature_algorithm" =
        update.signedMetadata.signatureAlgorithm := by
      rw [textAt, hbase "signature_algorithm" (by decide)]
      rfl
    have hkeyId : textAt (update.push requestId) "signature_key_id" =
        update.signedMetadata.signatureKeyId := by
      rw [textAt, hbase "signature_key_id" (by decide)]
      rfl
    simp only [signOtaManifestMetadata, otaManifestSignaturePayload, hlines, bind, Except.bind,
      pure, Except.pure, Except.ok.injEq] at hsigned
    rw [List.map_append]
    simp only [List.map_cons, List.map_nil, hprofile, hurl, hversion, hsha256, halgorithm, hkeyId,
      ← hstaticLines]
    rw [← hsigned]
    simp

/-- **The text of the device** is the one that was signed exactly if the size fits an `int`. -/
theorem otaPayloads_agree_iff (requestId : String)
    (hstatic : update.staticMetadata = otaManifestStaticMetadata manifest update.boardProfile)
    (hsigned : signOtaManifestMetadata h settings update.boardProfile update.url
      update.latestVersion update.sha256 update.sizeBytes update.staticMetadata =
        .ok update.signedMetadata) (hfit : StringsFit (update.push requestId)) :
    canonicalManifestPayload (requestOf (otaUpdate (update.push requestId))) =
        utf8 update.signedMetadata.payload ↔
      update.sizeBytes ≤ INT_MAX := by
  have hsize : valueint ((update.push requestId).get "size_bytes") =
      min INT_MAX update.sizeBytes := by
    rw [textAt_push requestId hstatic (by decide)]
    change max (-INT_MAX - 1) (min INT_MAX (update.sizeBytes : ℤ)) = _
    simp only [INT_MAX]
    omega
  have hpayload : utf8 update.signedMetadata.payload =
      joinLines
        ((["profile", "url", "version", "sha256"].map fun key =>
            utf8 (textAt (update.push requestId) key)) ++
          [utf8 (Int.repr update.sizeBytes)] ++
          ((staticKeys ++ ["signature_algorithm", "signature_key_id"]).map fun key =>
            utf8 (textAt (update.push requestId) key))) := by
    rw [payload_push requestId hstatic hsigned, utf8_join]
    simp only [List.map_append, List.map_map, List.map_singleton]
    rfl
  rw [canonicalManifestPayload_of_fits (keys_push requestId hstatic) hfit, hpayload]
  refine (joinLines_middle_inj (by simp) (by simp)).trans ?_
  rw [hsize]
  constructor
  · intro heq
    have hmin := Int.repr_injective (utf8_inj heq)
    omega
  · intro hle
    rw [min_eq_right hle]

/-- The digest of the device is then the signature. -/
theorem verify_push (requestId : String)
    (hkey : settings.otaManifestSigningKey = board.kEndpointOtaManifestSigningKey.bytes)
    (hstatic : update.staticMetadata = otaManifestStaticMetadata manifest update.boardProfile)
    (hsigned : signOtaManifestMetadata h settings update.boardProfile update.url
      update.latestVersion update.sha256 update.sizeBytes update.staticMetadata =
        .ok update.signedMetadata)
    (hfit : StringsFit (update.push requestId)) (hsize : update.sizeBytes ≤ INT_MAX) :
    verifyOtaManifestSignature h board (requestOf (otaUpdate (update.push requestId))) = true := by
  have hagree := (otaPayloads_agree_iff requestId hstatic hsigned hfit).mpr hsize
  have hsignature : (requestOf (otaUpdate (update.push requestId))).manifestSignature.text.bytes =
      utf8 update.signedMetadata.manifestSignature := by
    simp (disch := decide) only [requestOf, otaUpdate,
      copied_textAt (keys_push requestId hstatic) hfit]
    rw [textAt, textAt_push requestId hstatic (by decide)]
    rfl
  have hmac : update.signedMetadata.manifestSignature =
      asciiText (h.hmac settings.otaManifestSigningKey (utf8 update.signedMetadata.payload)) :=
    signature_of_sign hsigned
  rw [verifyOtaManifestSignature, hagree, hsignature, hmac, h.calculateHmac_eq, hkey,
    utf8_asciiText]
  · exact decide_eq_true rfl
  · exact fun b hb => h.lt_of_mem_hmac hb

end pushed

/-! ### Accepted requests -/

/-- What an accepted request has in common with all others, and what it is checked for. -/
structure Accepted (h : Sha256) (board : Board) (request : OtaRequest) : Prop where
  profile : request.profile.text = board.kEndpointBoardProfile
  fixed : [request.applicationType.text.bytes, request.boardProfile.text.bytes,
      request.soc.text.bytes, request.idfTarget.text.bytes, request.flashSize.text.bytes,
      request.psramSize.text.bytes, request.partitionSchema.text.bytes,
      request.appSlotSize.text.bytes, request.firmwareApiVersion.text.bytes,
      request.modelApiVersion.text.bytes, request.assetApiVersion.text.bytes,
      request.calibrationSchemaVersion.text.bytes] =
    [kFirmwareApplicationType.bytes, board.kBoardProfile.bytes, board.kSoc.bytes,
      board.kIdfTarget.bytes, board.kFlashSize.bytes, board.kPsramSize.bytes,
      board.kPartitionSchema.bytes, board.kAppSlotSize.bytes, kFirmwareApiVersion.bytes,
      kModelApiVersion.bytes, kAssetApiVersion.bytes, kCalibrationSchemaVersion.bytes]
  channel : request.releaseChannel.text = .ofAscii "dev" ∨
    request.releaseChannel.text = .ofAscii "stable"
  last : [request.securityPolicy.text.bytes, request.signatureAlgorithm.text.bytes,
      request.signatureKeyId.text.bytes] =
    [kRequiredSecurityPolicy.bytes, kOtaSignatureAlgorithm.bytes,
      board.kEndpointOtaManifestKeyId.bytes]
  digest : isHexDigest request.sha256.text = true
  signature : h.calculateHmac board.kEndpointOtaManifestSigningKey.bytes
    (canonicalManifestPayload request) = request.manifestSignature.text.bytes

theorem accepted_of_validate {request : OtaRequest}
    (hok : validateOtaManifest h board request = .ok ()) : Accepted h board request := by
  simp only [validateOtaManifest] at hok
  obtain ⟨-, hok⟩ := ite_ok hok
  obtain ⟨-, hok⟩ := ite_ok hok
  obtain ⟨hprofile, hok⟩ := ite_ok hok
  obtain ⟨happlication, hok⟩ := ite_ok hok
  obtain ⟨hboard, hok⟩ := ite_ok hok
  obtain ⟨hsoc, hok⟩ := ite_ok hok
  obtain ⟨hidf, hok⟩ := ite_ok hok
  obtain ⟨hflash, hok⟩ := ite_ok hok
  obtain ⟨hpsram, hok⟩ := ite_ok hok
  obtain ⟨hpartition, hok⟩ := ite_ok hok
  obtain ⟨hslot, hok⟩ := ite_ok hok
  obtain ⟨-, hok⟩ := ite_ok hok
  obtain ⟨-, hok⟩ := ite_ok hok
  obtain ⟨hfirmware, hok⟩ := ite_ok hok
  obtain ⟨hmodel, hok⟩ := ite_ok hok
  obtain ⟨hasset, hok⟩ := ite_ok hok
  obtain ⟨hcalibration, hok⟩ := ite_ok hok
  obtain ⟨hchannel, hok⟩ := ite_ok hok
  obtain ⟨hpolicy, hok⟩ := ite_ok hok
  obtain ⟨hdigest, hok⟩ := ite_ok hok
  obtain ⟨halgorithm, hok⟩ := ite_ok hok
  obtain ⟨hkeyId, hok⟩ := ite_ok hok
  obtain ⟨-, hok⟩ := ite_ok hok
  obtain ⟨hverify, -⟩ := ite_ok hok
  simp only [not_not, not_or] at hprofile happlication hboard hsoc hidf hflash hpsram hpartition
  simp only [not_not] at hslot hfirmware hmodel hasset hcalibration hpolicy halgorithm hkeyId
  refine ⟨hprofile, ?_, ?_, ?_, ?_, ?_⟩
  · rw [happlication, hboard.1, hsoc, hidf, hflash, hpsram, hpartition, hslot, hfirmware, hmodel,
      hasset, hcalibration]
  · rwa [not_and_or, not_not, not_not] at hchannel
  · rw [hpolicy, halgorithm, hkeyId]
  · simpa using hdigest
  · simpa [verifyOtaManifestSignature] using hverify

/-- **The text of an accepted request**, split into what differs between them and what does not. -/
theorem canonicalManifestPayload_of_accepted {request : OtaRequest}
    (haccepted : Accepted h board request) :
    canonicalManifestPayload request =
      (((((board.kEndpointBoardProfile.bytes ++
        10 :: (request.url.text.bytes ++ 10 :: request.version.text.bytes)) ++
        10 :: request.sha256.text.bytes) ++
        10 :: utf8 (Int.repr request.sizeBytes)) ++
        10 :: joinLines
          [kFirmwareApplicationType.bytes, board.kBoardProfile.bytes, board.kSoc.bytes,
            board.kIdfTarget.bytes, board.kFlashSize.bytes, board.kPsramSize.bytes,
            board.kPartitionSchema.bytes, board.kAppSlotSize.bytes, kFirmwareApiVersion.bytes,
            kModelApiVersion.bytes, kAssetApiVersion.bytes, kCalibrationSchemaVersion.bytes]) ++
        10 :: request.releaseChannel.text.bytes) ++
        10 :: joinLines
          [kRequiredSecurityPolicy.bytes, kOtaSignatureAlgorithm.bytes,
            board.kEndpointOtaManifestKeyId.bytes] := by
  have hsplit : canonicalManifestPayload request =
      joinLines
        ([request.profile.text.bytes, request.url.text.bytes, request.version.text.bytes,
            request.sha256.text.bytes, utf8 (Int.repr request.sizeBytes)] ++
          ([request.applicationType.text.bytes, request.boardProfile.text.bytes,
            request.soc.text.bytes, request.idfTarget.text.bytes, request.flashSize.text.bytes,
            request.psramSize.text.bytes, request.partitionSchema.text.bytes,
            request.appSlotSize.text.bytes, request.firmwareApiVersion.text.bytes,
            request.modelApiVersion.text.bytes, request.assetApiVersion.text.bytes,
            request.calibrationSchemaVersion.text.bytes] ++
          ([request.releaseChannel.text.bytes] ++
          [request.securityPolicy.text.bytes, request.signatureAlgorithm.text.bytes,
            request.signatureKeyId.text.bytes]))) := rfl
  rw [hsplit, joinLines_append (by simp) (by simp), joinLines_append (by simp) (by simp),
    joinLines_append (by simp) (by simp), haccepted.fixed, haccepted.last, haccepted.profile]
  have hfirst : joinLines
      [board.kEndpointBoardProfile.bytes, request.url.text.bytes, request.version.text.bytes,
        request.sha256.text.bytes, utf8 (Int.repr request.sizeBytes)] =
      ((board.kEndpointBoardProfile.bytes ++
        10 :: (request.url.text.bytes ++ 10 :: request.version.text.bytes)) ++
        10 :: request.sha256.text.bytes) ++ 10 :: utf8 (Int.repr request.sizeBytes) := by
    simp [joinLines]
  have hchannel : joinLines [request.releaseChannel.text.bytes] =
      request.releaseChannel.text.bytes := by
    simp [joinLines]
  rw [hfirst, hchannel]
  simp only [List.append_assoc, List.cons_append]

theorem newline_notMem_digest {text : CString} (h : isHexDigest text = true) :
    10 ∉ text.bytes := by
  simp only [isHexDigest, Bool.and_eq_true, List.all_eq_true] at h
  intro hmem
  exact absurd (h.2 10 hmem) (by decide)

/-- **Two accepted requests with one text** have one digest and one size, and one URL and version
exactly if their URLs have the same number of newlines. -/
theorem binds_of_payload {r₁ r₂ : OtaRequest} (h₁ : Accepted h board r₁) (h₂ : Accepted h board r₂)
    (hsame : canonicalManifestPayload r₁ = canonicalManifestPayload r₂) :
    r₁.sha256 = r₂.sha256 ∧ r₁.sizeBytes = r₂.sizeBytes ∧
      (r₁.url = r₂.url ∧ r₁.version = r₂.version ↔
        r₁.url.text.bytes.count 10 = r₂.url.text.bytes.count 10) := by
  have hchannel {r : OtaRequest} (hr : Accepted h board r) : 10 ∉ r.releaseChannel.text.bytes := by
    rcases hr.channel with hr | hr <;> rw [hr] <;> decide
  rw [canonicalManifestPayload_of_accepted h₁, canonicalManifestPayload_of_accepted h₂,
    List.append_cancel_right_eq] at hsame
  obtain ⟨hsame, -⟩ := separated_cancel_right (hchannel h₁) (hchannel h₂) hsame
  rw [List.append_cancel_right_eq] at hsame
  obtain ⟨hsame, hsize⟩ := separated_cancel_right (newline_notMem_repr _) (newline_notMem_repr _)
    hsame
  obtain ⟨hsame, hdigest⟩ := separated_cancel_right (newline_notMem_digest h₁.digest)
    (newline_notMem_digest h₂.digest) hsame
  rw [List.append_cancel_left_eq, List.cons.injEq] at hsame
  refine ⟨?_, Int.repr_injective (utf8_inj hsize), ?_⟩
  · exact CBuffer.ext (CString.ext hdigest)
  · rw [← separated_iff hsame.2, CBuffer.ext_iff, CString.ext_iff, CBuffer.ext_iff, CString.ext_iff]

/-! ### Both sides -/

theorem firmwareUpdatePayload_some {py : Python} {settings : Settings}
    {artifacts : String → Option (List UInt8)} {profile : String} {manifest : JsonObject}
    {update : FirmwareUpdate}
    (hupdate : firmwareUpdatePayload py h settings artifacts profile manifest =
      .ok (some update)) :
    update.staticMetadata = otaManifestStaticMetadata manifest update.boardProfile ∧
      signOtaManifestMetadata h settings update.boardProfile update.url update.latestVersion
        update.sha256 update.sizeBytes update.staticMetadata = .ok update.signedMetadata := by
  simp only [firmwareUpdatePayload, bind, Except.bind, pure, Except.pure] at hupdate
  split at hupdate
  · cases hupdate
  · split at hupdate
    · cases hupdate
    · next signed hsigned =>
      cases hupdate
      exact ⟨rfl, hsigned⟩

/-- **Signatures agree, and bind.** -/
theorem signatures_agree_and_bind (py : Python) (h : Sha256) (board : Board) :
    (∀ (settings : Settings) (artifacts : String → Option (List UInt8)) (profile : String)
      (manifest : JsonObject) (update : FirmwareUpdate) (requestId : String),
      settings.otaManifestSigningKey = board.kEndpointOtaManifestSigningKey.bytes →
      firmwareUpdatePayload py h settings artifacts profile manifest = .ok (some update) →
      StringsFit (update.push requestId) →
      let request := requestOf (otaUpdate (update.push requestId))
      (canonicalManifestPayload request = utf8 update.signedMetadata.payload ↔
        update.sizeBytes ≤ INT_MAX) ∧
      (update.sizeBytes ≤ INT_MAX → verifyOtaManifestSignature h board request = true)) ∧
    ∀ r₁ r₂ : OtaRequest, validateOtaManifest h board r₁ = .ok () →
      validateOtaManifest h board r₂ = .ok () → r₁.manifestSignature = r₂.manifestSignature →
      (h.hmac board.kEndpointOtaManifestSigningKey.bytes (canonicalManifestPayload r₁) =
          h.hmac board.kEndpointOtaManifestSigningKey.bytes (canonicalManifestPayload r₂) →
        canonicalManifestPayload r₁ = canonicalManifestPayload r₂) →
      r₁.sha256 = r₂.sha256 ∧ r₁.sizeBytes = r₂.sizeBytes ∧
        (r₁.url = r₂.url ∧ r₁.version = r₂.version ↔
          r₁.url.text.bytes.count 10 = r₂.url.text.bytes.count 10) := by
  constructor
  · intro settings artifacts profile manifest update requestId hkey hupdate hfit
    obtain ⟨hstatic, hsigned⟩ := firmwareUpdatePayload_some hupdate
    exact ⟨otaPayloads_agree_iff requestId hstatic hsigned hfit,
      verify_push requestId hkey hstatic hsigned hfit⟩
  · intro r₁ r₂ hok₁ hok₂ hsignature hinjective
    have h₁ := accepted_of_validate hok₁
    have h₂ := accepted_of_validate hok₂
    apply binds_of_payload h₁ h₂
    apply hinjective
    rw [← h.calculateHmac_eq, ← h.calculateHmac_eq, h₁.signature, h₂.signature, hsignature]

/-! ### Concrete requests -/

/-- A digest that takes all messages for one. -/
def constantDigest : Sha256 := ⟨fun _ => List.replicate 32 0, fun _ => List.length_replicate⟩

/-- A device. -/
def voicePe : Board where
  kEndpointBoardProfile := .ofAscii "ha_voice_pe"
  kBoardProfile := .ofAscii "ha_voice_pe"
  kSoc := .ofAscii "esp32s3"
  kIdfTarget := .ofAscii "esp32s3"
  kFlashSize := .ofAscii "16MiB"
  kPsramSize := .ofAscii "8MiB"
  kPartitionSchema := .ofAscii "s3-16m-recovery-single-model-v1"
  kAppSlotSize := .ofAscii "4MiB"
  kEndpointOtaManifestKeyId := .ofAscii "hexevoice-dev-v1"
  kEndpointOtaManifestSigningKey := .ofAscii "hexevoice-local-dev-ota-signing-key"
  currentFirmwareVersion := .ofAscii "0.9.0"

/-- A request for it. -/
def requestFor (url version : String) : OtaRequest where
  requestId := copied 96 pos96 (some (.ofAscii "cmd_1"))
  url := copied 256 pos256 (some (.ofText url))
  version := copied 32 pos32 (some (.ofText version))
  profile := copied 64 pos64 (some voicePe.kBoardProfile)
  sha256 := copied 65 pos65 (some (.ofText (asciiText (constantDigest.hexdigest []))))
  sizeBytes := 1000000
  applicationType := copied 24 pos24 (some kFirmwareApplicationType)
  boardProfile := copied 64 pos64 (some voicePe.kBoardProfile)
  soc := copied 24 pos24 (some voicePe.kSoc)
  idfTarget := copied 24 pos24 (some voicePe.kIdfTarget)
  flashSize := copied 24 pos24 (some voicePe.kFlashSize)
  psramSize := copied 24 pos24 (some voicePe.kPsramSize)
  partitionSchema := copied 48 pos48 (some voicePe.kPartitionSchema)
  appSlotSize := copied 24 pos24 (some voicePe.kAppSlotSize)
  firmwareApiVersion := copied 48 pos48 (some kFirmwareApiVersion)
  modelApiVersion := copied 48 pos48 (some kModelApiVersion)
  assetApiVersion := copied 48 pos48 (some kAssetApiVersion)
  calibrationSchemaVersion := copied 48 pos48 (some kCalibrationSchemaVersion)
  releaseChannel := copied 24 pos24 (some (.ofAscii "dev"))
  securityPolicy := copied 48 pos48 (some kRequiredSecurityPolicy)
  signatureAlgorithm := copied 24 pos24 (some kOtaSignatureAlgorithm)
  signatureKeyId := copied 48 pos48 (some voicePe.kEndpointOtaManifestKeyId)
  manifestSignature := copied 65 pos65 (some (.ofText (asciiText (constantDigest.hmac [] []))))

/-- What was signed for one URL and a version with a newline is accepted for another URL and another
version, whatever the digest. -/
theorem signature_reused :
    let signed := requestFor "http://10.0.0.5/a.bin" "1\n2.0.0"
    let reused := requestFor "http://10.0.0.5/a.bin\n1" "2.0.0"
    validateOtaManifest constantDigest voicePe signed = .ok () ∧
      validateOtaManifest constantDigest voicePe reused = .ok () ∧
      signed.manifestSignature = reused.manifestSignature ∧
      canonicalManifestPayload signed = canonicalManifestPayload reused ∧
      signed.url ≠ reused.url ∧ signed.version ≠ reused.version := by
  decide +kernel

/-- A backend. -/
def someSettings : Settings where
  publicApiBaseUrl := some "http://10.0.0.5:9004/"
  apiPort := 9004
  otaManifestKeyId := "hexevoice-dev-v1"
  otaManifestSigningKey := voicePe.kEndpointOtaManifestSigningKey.bytes

/-- The manifest of an artifact that does not say all. -/
def someManifest : JsonObject :=
  ⟨[("version", .str "0.9.1"), ("soc", .str "esp32s3"), ("flash_size", .str "16MiB"),
    ("psram_size", .null), ("app_slot_size", .int 0)]⟩

/-- The artifact. -/
def someArtifacts (filename : String) : Option (List UInt8) :=
  if filename = "hexe_firmware_ha_voice_pe.bin" then some [1, 2, 3] else none

/-- The device accepts the signature of the update that it is offered, and what it accepts twice is the
same. -/
theorem signatures_agree_voicePe :
    (∃ update, firmwareUpdatePayload .ascii constantDigest someSettings someArtifacts
        "ha_voice_pe" someManifest = .ok (some update) ∧
      verifyOtaManifestSignature constantDigest voicePe
        (requestOf (otaUpdate (update.push "cmd_1"))) = true) ∧
    (requestFor "http://10.0.0.5/a.bin" "2.0.0").sizeBytes =
      ({ requestFor "http://10.0.0.5/a.bin" "2.0.0" with
        requestId := copied 96 pos96 (some (.ofAscii "cmd_2")) }).sizeBytes := by
  obtain ⟨hagree, hbind⟩ := signatures_agree_and_bind .ascii constantDigest voicePe
  constructor
  · refine ⟨_, rfl, ?_⟩
    refine (hagree someSettings someArtifacts "ha_voice_pe" someManifest _ "cmd_1" rfl rfl ?_).2 ?_
    · decide +kernel
    · decide +kernel
  · exact (hbind _ _ (by decide +kernel) (by decide +kernel) rfl fun _ => rfl).2.1

end HexeVoice.Firmware.OtaManifest
