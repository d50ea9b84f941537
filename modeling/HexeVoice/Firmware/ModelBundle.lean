import HexeVoice.Firmware.MicroWakeModel
import HexeVoice.Library.CJson
import HexeVoice.Library.Digest
import HexeVoice.Library.Outcomes
import HexeVoice.Library.Utf8

/-!
# Loading a set of models

`load_model_set_from_directory` of `voice/model_bundle.cpp`, and what it checks before it takes over the
models of a directory.

## The model

A file is its bytes, under its path. What cJSON makes of a text, with the text that
`canonical_json_without_signature` makes of that, is a parameter, and so are SHA-256 and the schema version
that TFLM reads of a model. There is memory for what is loaded. What a rejected set leaves in
the store is what was there before.

## What is proved

**`exists_store_iff`**: which sets are loaded. **`load_congr`**: loading reads the manifest and the files
that are listed in it, and **`ne_nil_of_loads`**: none of them is empty.
-/

namespace HexeVoice.Firmware.ModelBundle

open HexeVoice.Library HexeVoice.Library.CJson HexeVoice.Firmware.MicroWake

variable {code : String} {item : Option CJson} {model : CJson} {role : CString}

/-! ### The device -/

def kModelApiVersion : String := "hexe-model-bundle-api-v1"
def kModelBundleSchemaVersion : String := "hexe-model-bundle-v1"
def kModelBundleSecurityPolicy : String := "signed_manifest_sha256_required"
def kModelBundleSignatureAlgorithm : String := "hmac-sha256"
def kModelBundleSignatureScope : String := "canonical_manifest_without_signature"
def kInternalModelPartition : String := "model"
def kModelManifestFilename : CString := .ofText "manifest.json"
def kMaxLoadedModels : ℕ := 2

/-- The constants of the board and of the build, and whether there is a partition for models. -/
structure Board where
  kBoardProfile : String
  kPartitionSchema : String
  kStorageModelPolicy : String
  kModelBundleManifestKeyId : String
  kModelBundleManifestSigningKey : CString
  /-- `HEXE_MICRO_WAKE_WORD_TFLM_ENABLED`. -/
  tflmEnabled : Bool
  modelPartition : Bool

def singleModelSchema (board : Board) : Bool :=
  board.kPartitionSchema = "s3-16m-recovery-single-model-v1"

/-- A parsed manifest, and `canonical_json_without_signature` of it. -/
structure Document where
  root : CJson
  canonical : List UInt8

/-- The libraries of the firmware. -/
structure Libraries where
  sha256 : Sha256
  /-- `cJSON_ParseWithLength`. -/
  parse : List UInt8 → Option Document
  /-- `tflite::GetModel(model_data)->version()`. -/
  tfliteVersion : List UInt8 → ℤ

/-- The files that can be read, by their paths. -/
abbrev Files := CString → Option (List UInt8)

/-! ### Paths and files -/

def SafeRelativeAssetPath (path : CString) : Prop :=
  path.bytes ≠ [] ∧ path.bytes.head? ≠ some 47 ∧ ¬ [46, 46] <:+: path.bytes ∧ ¬ [47, 47] <:+: path.bytes

instance (path : CString) : Decidable (SafeRelativeAssetPath path) :=
  inferInstanceAs (Decidable (_ ∧ _ ∧ _ ∧ _))

theorem zero_notMem_slash (base relative : CString) : 0 ∉ base.bytes ++ 47 :: relative.bytes := by
  rw [List.mem_append, List.mem_cons]
  rintro (h | h | h)
  · exact base.zero_notMem h
  · cases h
  · exact relative.zero_notMem h

/-- `"%s/%s"`. -/
def inDirectory (base relative : CString) : CString :=
  ⟨base.bytes ++ 47 :: relative.bytes, zero_notMem_slash base relative⟩

/-- `join_path`, in a buffer of `size` bytes. -/
def joinPath (size : ℕ) (base relative : CString) : Option CString :=
  if SafeRelativeAssetPath relative ∧ (inDirectory base relative).length < size then
    some (inDirectory base relative)
  else none

def loadFileToMemory (files : Files) (path : CString) : Option (List UInt8) :=
  (files path).filter (· ≠ [])

def validHexSha256 (value : CString) : Bool :=
  value.length = 64 && value.bytes.all fun c => (48 ≤ c && c ≤ 57) || (97 ≤ c && c ≤ 102)

/-! ### The manifest -/

def jsonString (object : CJson) (field : String) : Option CString := string? (object.getObjectItem field)

def jsonStringEquals (object : CJson) (field expected : String) : Bool :=
  jsonString object field = some (.ofText expected)

/-- The items of an array. -/
def items? : Option CJson → Option (List CJson)
  | some (.array items) => some items
  | _ => none

def jsonStringArrayContains (array : Option CJson) (needle : String) : Bool :=
  (items? array).any fun items => items.any fun item => string? (some item) = some (.ofText needle)

/-- The partitions for models that a manifest must require. -/
def RequiresModelPartitions (board : Board) (requiredPartitions : Option CJson) : Bool :=
  if singleModelSchema board then jsonStringArrayContains requiredPartitions kInternalModelPartition
  else
    jsonStringArrayContains requiredPartitions "model_a" &&
      jsonStringArrayContains requiredPartitions "model_b"

def manifestCompatible (board : Board) (manifest : CJson) : Except String Unit := do
  ensure (jsonStringEquals manifest "schema_version" kModelBundleSchemaVersion &&
    jsonStringEquals manifest "model_api_version" kModelApiVersion &&
    jsonStringEquals manifest "security_policy" kModelBundleSecurityPolicy)
    "invalid_model_bundle_manifest"
  let compatibility ← orReject ((manifest.getObjectItem "compatibility").filter isObject)
    "missing_model_bundle_compatibility"
  ensure (jsonStringArrayContains (compatibility.getObjectItem "board_profiles") board.kBoardProfile)
    "model_bundle_board_mismatch"
  ensure (jsonStringArrayContains (compatibility.getObjectItem "partition_schemas")
    board.kPartitionSchema) "model_bundle_partition_schema_mismatch"
  ensure (RequiresModelPartitions board (compatibility.getObjectItem "requires_partitions"))
    "model_bundle_requires_wrong_partition"

def verifyManifestSignature (board : Board) (lib : Libraries) (manifest : Document) :
    Except String Unit := do
  let signature ← orReject ((manifest.root.getObjectItem "signature").filter isObject)
    "missing_model_bundle_signature"
  ensure (jsonStringEquals signature "algorithm" kModelBundleSignatureAlgorithm &&
    jsonStringEquals signature "scope" kModelBundleSignatureScope &&
    jsonStringEquals signature "key_id" board.kModelBundleManifestKeyId &&
    (jsonString signature "value").any validHexSha256) "invalid_model_bundle_signature"
  ensure ((jsonString signature "value").map (·.bytes) =
    some (lib.sha256.calculateHmac board.kModelBundleManifestSigningKey.bytes manifest.canonical))
    "model_bundle_signature_mismatch"

/-! ### Assets -/

/-- What `verify_asset_digest` reads of an asset. -/
structure Asset where
  relativePath : CString
  expectedSha256 : CString
  sizeBytes : ℤ
  resolvedPath : CString

/-- An asset that is not `invalid_model_bundle_asset`, with its path in a buffer of `size` bytes. -/
def resolveAsset (directory : CString) (size : ℕ) (asset : CJson) : Option Asset := do
  let relativePath ← jsonString asset "path"
  let expectedSha256 ← jsonString asset "sha256"
  let sizeBytes ← number? (asset.getObjectItem "size_bytes")
  let resolvedPath ← joinPath size directory relativePath
  if validHexSha256 expectedSha256 ∧ 0 < sizeBytes then
    some { relativePath, expectedSha256, sizeBytes, resolvedPath }
  else none

/-- `verify_asset_digest`, which gives the resolved path. -/
def verifyAssetDigest (lib : Libraries) (files : Files) (directory : CString) (size : ℕ)
    (asset : Option CJson) : Except String CString := do
  let asset ← orReject (asset.filter isObject) "missing_model_bundle_asset"
  let asset ← orReject (resolveAsset directory size asset) "invalid_model_bundle_asset"
  let content ← orReject (files asset.resolvedPath) "model_bundle_asset_unreadable"
  ensure (content.length = asset.sizeBytes.toNat &&
    lib.sha256.hexdigest content = asset.expectedSha256.bytes) "model_bundle_asset_hash_mismatch"
  return asset.resolvedPath

def verifyHashManifestFiles (lib : Libraries) (files : Files) (directory : CString) (manifest : CJson) :
    Except String Unit := do
  let hashes ← orReject ((items? (manifest.getObjectItem "hashes")).filter (!·.isEmpty))
    "missing_model_bundle_hashes"
  let _ ← hashes.mapM fun asset => verifyAssetDigest lib files directory 256 (some asset)

/-! ### Models -/

/-- A model in `RuntimeModelStore`, with its metadata and its asset. -/
structure LoadedModel where
  role : MicroWakeModelRole
  id : CString
  wakeWord : CString
  «alias» : CString
  source : CString
  manifestPath : CString
  tflitePath : CString
  trainedLanguages : CString
  author : CString
  minimumEsphomeVersion : CString
  metadataSha256 : CString
  tfliteSha256 : CString
  modelVersion : ℤ
  slidingWindowSize : ℤ
  featureStepSizeMs : ℤ
  tensorArenaSize : ℤ
  modelData : List UInt8

structure RuntimeModelStore where
  directory : CString
  bundleId : CString
  version : CString
  manifestSha256 : List UInt8
  models : List LoadedModel

/-- `copy_cstr`, to a buffer of `size` bytes. -/
def copyCstr (size : ℕ) (value : Option CString) : CString := (value.getD .empty).take (size - 1)

/-- The integer of a field, or 0. -/
def jsonInt (object : Option CJson) (field : String) : ℤ :=
  (number? (object.bind (·.getObjectItem field))).getD 0

theorem zero_notMem_append (a b : CString) : 0 ∉ a.bytes ++ b.bytes := by
  rw [List.mem_append]
  rintro (h | h)
  · exact a.zero_notMem h
  · exact b.zero_notMem h

/-- `strncat`, to a buffer of `size` bytes. -/
def strncat (size : ℕ) (target value : CString) : CString :=
  CString.take ⟨target.bytes ++ value.bytes, zero_notMem_append target value⟩ (size - 1)

def copyLanguageList (size : ℕ) (languages : Option CJson) : CString :=
  (((items? languages).getD []).filterMap fun item => string? (some item)).foldl
    (fun target item =>
      strncat size (if target = .empty then target else strncat size target (.ofText ",")) item) .empty

/-- The model's role, where it is listed with one. -/
def roleOf (model : CJson) : Option CString := jsonString model "role"

/-- `kPlaybackStop` or `kWake`. -/
def modelRole (role : CString) : MicroWakeModelRole :=
  if role = .ofText "playback_stop" then .playbackStop else .wake

/-- The body of the loop, for a model with a role. -/
def loadModel (lib : Libraries) (files : Files) (directory role : CString) (model : CJson) :
    Except String LoadedModel := do
  let metadataAsset := model.getObjectItem "metadata"
  let modelAsset := model.getObjectItem "model"
  let thresholds := model.getObjectItem "thresholds"
  let manifestPath ← verifyAssetDigest lib files directory 192 metadataAsset
  let tflitePath ← verifyAssetDigest lib files directory 192 modelAsset
  let modelData ← orReject (loadFileToMemory files tflitePath) "model_bundle_asset_load_failed"
  return {
    role := modelRole role
    id := copyCstr 40 (jsonString model "id")
    wakeWord := copyCstr 40 (jsonString model "wake_word")
    «alias» := copyCstr 40 (jsonString model "alias")
    source := copyCstr 64 (jsonString model "source")
    manifestPath
    tflitePath
    trainedLanguages := copyLanguageList 64 (model.getObjectItem "trained_languages")
    author := copyCstr 64 (jsonString model "author")
    minimumEsphomeVersion := copyCstr 32 (jsonString model "minimum_esphome_version")
    metadataSha256 := copyCstr 65 (metadataAsset.bind (jsonString · "sha256"))
    tfliteSha256 := copyCstr 65 (modelAsset.bind (jsonString · "sha256"))
    modelVersion := jsonInt (some model) "upstream_version"
    slidingWindowSize := jsonInt thresholds "sliding_window_size"
    featureStepSizeMs := jsonInt thresholds "feature_step_size_ms"
    tensorArenaSize := jsonInt thresholds "tensor_arena_size"
    modelData }

/-- The loop over the models, with room for `left` more. -/
def loadModels (lib : Libraries) (files : Files) (directory : CString) :
    List CJson → ℕ → Except String (List LoadedModel)
  | [], _ => .ok []
  | _ :: _, 0 => .ok []
  | model :: models, left + 1 =>
    match roleOf model with
    | none => loadModels lib files directory models (left + 1)
    | some role => do
      let loaded ← loadModel lib files directory role model
      let rest ← loadModels lib files directory models left
      return loaded :: rest

def hasTfliteHeader (modelData : List UInt8) : Bool :=
  8 ≤ modelData.length && (modelData.drop 4).take 4 = utf8 "TFL3"

def validateModelAsset (board : Board) (lib : Libraries) (modelData : List UInt8) : Bool :=
  modelData ≠ [] && hasTfliteHeader modelData &&
    (!board.tflmEnabled || lib.tfliteVersion modelData = kExpectedTfliteSchemaVersion)

def testLoadMicroWakeModelAssets (board : Board) (lib : Libraries) (models : List LoadedModel) :
    Except String Unit := do
  ensure (models ≠ []) "missing_model_bundle_assets"
  ensure (models.all fun model => validateModelAsset board lib model.modelData)
    "model_bundle_test_load_failed"
  ensure (models.any (·.role = .wake)) "missing_wake_model"
  ensure (models.any (·.role = .playbackStop)) "missing_stop_model"

/-- `load_model_set_from_directory`, with the error of a set that is rejected. -/
def loadModelSetFromDirectory (board : Board) (lib : Libraries) (files : Files) (directory : CString) :
    Except String RuntimeModelStore := do
  ensure (directory ≠ .empty) "invalid_model_bundle_directory"
  let manifestPath ← orReject (joinPath 256 directory kModelManifestFilename)
    "invalid_model_bundle_manifest_path"
  let manifestBytes ← orReject (loadFileToMemory files manifestPath) "missing_model_bundle_manifest"
  let manifest ← orReject (lib.parse manifestBytes) "invalid_model_bundle_json"
  manifestCompatible board manifest.root
  verifyManifestSignature board lib manifest
  verifyHashManifestFiles lib files directory manifest.root
  let models ← orReject (items? (manifest.root.getObjectItem "models")) "missing_model_bundle_models"
  let loaded ← loadModels lib files directory models kMaxLoadedModels
  let bundleId := copyCstr 64 (jsonString manifest.root "bundle_id")
  let version := copyCstr 32 (jsonString manifest.root "version")
  ensure (bundleId ≠ .empty && version ≠ .empty && loaded ≠ []) "incomplete_model_bundle_manifest"
  testLoadMicroWakeModelAssets board lib loaded
  return {
    directory := copyCstr 192 (some directory)
    bundleId
    version
    manifestSha256 := lib.sha256.hexdigest manifestBytes
    models := loaded }

variable {board : Board} {lib : Libraries} {files files' : Files} {directory : CString} {size : ℕ}

/-! ### What the checks pass -/

theorem joinPath_eq_some {base relative path : CString} :
    joinPath size base relative = some path ↔
      SafeRelativeAssetPath relative ∧ (inDirectory base relative).length < size ∧
        path = inDirectory base relative := by
  unfold joinPath
  split
  · next h => simp [h, eq_comm]
  · next h =>
    refine iff_of_false (fun hnone => by cases hnone) ?_
    rintro ⟨hsafe, hlength, -⟩
    exact h ⟨hsafe, hlength⟩

theorem loadFileToMemory_eq_some {path : CString} {content : List UInt8} :
    loadFileToMemory files path = some content ↔ files path = some content ∧ content ≠ [] := by
  simp [loadFileToMemory, Option.filter_eq_some_iff]

/-- The asset that is read of a listed one. -/
structure Resolves (directory : CString) (size : ℕ) (item : CJson) (asset : Asset) : Prop where
  path : jsonString item "path" = some asset.relativePath
  sha256 : jsonString item "sha256" = some asset.expectedSha256
  sizeBytes : number? (item.getObjectItem "size_bytes") = some asset.sizeBytes
  safe : SafeRelativeAssetPath asset.relativePath
  fits : (inDirectory directory asset.relativePath).length < size
  valid : validHexSha256 asset.expectedSha256 = true
  pos : 0 < asset.sizeBytes
  resolved : asset.resolvedPath = inDirectory directory asset.relativePath

theorem resolveAsset_eq_some {item : CJson} {asset : Asset} :
    resolveAsset directory size item = some asset ↔ Resolves directory size item asset := by
  unfold resolveAsset
  simp only [Option.bind_eq_bind, Option.bind_eq_some_iff, joinPath_eq_some]
  constructor
  · rintro ⟨path, hpath, sha, hsha, n, hn, _, ⟨hsafe, hfits, rfl⟩, h⟩
    split at h
    · next hvalid =>
      cases h
      exact ⟨hpath, hsha, hn, hsafe, hfits, hvalid.1, hvalid.2, rfl⟩
    · cases h
  · rintro ⟨hpath, hsha, hn, hsafe, hfits, hvalid, hpos, hresolved⟩
    refine ⟨_, hpath, _, hsha, _, hn, _, ⟨hsafe, hfits, rfl⟩, ?_⟩
    rw [if_pos ⟨hvalid, hpos⟩, ← hresolved]

/-- The file of an asset is the one that is listed. -/
structure Verified (lib : Libraries) (files : Files) (asset : Asset) (content : List UInt8) : Prop where
  found : files asset.resolvedPath = some content
  length : content.length = asset.sizeBytes.toNat
  sha256 : lib.sha256.hexdigest content = asset.expectedSha256.bytes

theorem isObject_of_jsonString {item : CJson} {field : String} {value : CString}
    (h : jsonString item field = some value) : item.isObject = true := by
  cases item with
  | object entries => rfl
  | _ => cases h

/-- **`verify_asset_digest` passes** the assets whose file is listed. -/
theorem verifyAssetDigest_eq_ok {path : CString} :
    verifyAssetDigest lib files directory size item = .ok path ↔
      ∃ value asset content, item = some value ∧ Resolves directory size value asset ∧
        Verified lib files asset content ∧ path = asset.resolvedPath := by
  unfold verifyAssetDigest
  simp only [bind_eq_ok, orReject_eq_ok, ensure_eq_ok, Option.filter_eq_some_iff, resolveAsset_eq_some,
    Bool.and_eq_true, decide_eq_true_eq]
  constructor
  · rintro ⟨value, ⟨hitem, -⟩, asset, hasset, content, hfound, _, ⟨hlength, hsha⟩, ⟨⟩⟩
    exact ⟨value, asset, content, hitem, hasset, ⟨hfound, hlength, hsha⟩, rfl⟩
  · rintro ⟨value, asset, content, hitem, hasset, ⟨hfound, hlength, hsha⟩, rfl⟩
    exact ⟨value, ⟨hitem, isObject_of_jsonString hasset.path⟩, asset, hasset, content, hfound, (),
      ⟨hlength, hsha⟩, rfl⟩

/-- The errors of an asset. -/
def assetErrors : List String :=
  ["missing_model_bundle_asset", "invalid_model_bundle_asset", "model_bundle_asset_unreadable",
    "model_bundle_asset_hash_mismatch", "model_bundle_asset_load_failed"]

/-- The errors of a signature. -/
def signatureErrors : List String :=
  ["missing_model_bundle_signature", "invalid_model_bundle_signature",
    "model_bundle_signature_mismatch"]

theorem error_of_verifyAssetDigest
    (h : verifyAssetDigest lib files directory size item = .error code) : code ∈ assetErrors := by
  have hexcused : Excused (· ∈ assetErrors) (verifyAssetDigest lib files directory size item) := by
    unfold verifyAssetDigest
    simp only [excused_bind_iff]
    refine ⟨?_, fun value _ => ⟨?_, fun asset _ => ⟨?_, fun content _ => ⟨?_, fun _ _ => excused_ok _⟩⟩⟩⟩
    · exact fun code hcode => error_of_orReject hcode ▸ by decide
    · exact fun code hcode => error_of_orReject hcode ▸ by decide
    · exact fun code hcode => error_of_orReject hcode ▸ by decide
    · exact fun code hcode => error_of_ensure hcode ▸ by decide
  exact hexcused code h

/-! ### The models that are taken -/

/-- The first `n` models that are listed with a role, and their roles. -/
def selectModels (models : List CJson) (n : ℕ) : List (CString × CJson) :=
  (models.filterMap fun model => (roleOf model).map (·, model)).take n

/-- **The loop loads the first models** that are listed with a role. -/
theorem loadModels_eq (models : List CJson) (n : ℕ) :
    loadModels lib files directory models n =
      (selectModels models n).mapM fun selected =>
        loadModel lib files directory selected.1 selected.2 := by
  induction models generalizing n with
  | nil =>
    rw [selectModels, List.filterMap_nil, List.take_nil]
    rfl
  | cons model models ih =>
    cases n with
    | zero =>
      rw [selectModels, List.take_zero]
      rfl
    | succ n =>
      rw [loadModels]
      cases hrole : roleOf model with
      | none =>
        rw [selectModels, List.filterMap_cons_none (by rw [hrole]; rfl)]
        exact ih (n + 1)
      | some role =>
        rw [selectModels, List.filterMap_cons_some (b := (role, model)) (by rw [hrole]; rfl),
          List.take_succ_cons, List.mapM_cons]
        dsimp only
        rw [ih n]
        rfl

theorem loadModel_eq_ok {loaded : LoadedModel}
    (h : loadModel lib files directory role model = .ok loaded) :
    loaded.role = modelRole role ∧
      verifyAssetDigest lib files directory 192 (model.getObjectItem "metadata") =
        .ok loaded.manifestPath ∧
      verifyAssetDigest lib files directory 192 (model.getObjectItem "model") =
        .ok loaded.tflitePath ∧
      loadFileToMemory files loaded.tflitePath = some loaded.modelData := by
  obtain ⟨manifestPath, hmetadata, h⟩ := bind_eq_ok.mp h
  obtain ⟨tflitePath, hmodel, h⟩ := bind_eq_ok.mp h
  obtain ⟨modelData, hdata, h⟩ := bind_eq_ok.mp h
  cases h
  exact ⟨rfl, hmetadata, hmodel, orReject_eq_ok.mp hdata⟩

/-- A model is loaded where its assets are verified. -/
theorem exists_loadModel_iff :
    (∃ loaded, loadModel lib files directory role model = .ok loaded) ↔
      (∃ path, verifyAssetDigest lib files directory 192 (model.getObjectItem "metadata") = .ok path) ∧
        ∃ path, verifyAssetDigest lib files directory 192 (model.getObjectItem "model") = .ok path := by
  constructor
  · rintro ⟨loaded, h⟩
    obtain ⟨-, hmetadata, hmodel, -⟩ := loadModel_eq_ok h
    exact ⟨⟨_, hmetadata⟩, _, hmodel⟩
  · rintro ⟨⟨manifestPath, hmetadata⟩, tflitePath, hmodel⟩
    obtain ⟨value, asset, content, -, hresolves, hverified, hpath⟩ := verifyAssetDigest_eq_ok.mp hmodel
    -- what is verified is not empty, and so it can be loaded
    have hne : content ≠ [] := by
      rintro rfl
      have hpos := hresolves.pos
      have hlength := hverified.length
      rw [List.length_nil] at hlength
      omega
    have hdata : loadFileToMemory files tflitePath = some content :=
      loadFileToMemory_eq_some.mpr ⟨hpath ▸ hverified.found, hne⟩
    exact ⟨_, bind_eq_ok.mpr ⟨_, hmetadata, bind_eq_ok.mpr ⟨_, hmodel,
      bind_eq_ok.mpr ⟨_, orReject_eq_ok.mpr hdata, rfl⟩⟩⟩⟩

theorem error_of_loadModel
    (h : loadModel lib files directory role model = .error code) : code ∈ assetErrors := by
  have hexcused : Excused (· ∈ assetErrors) (loadModel lib files directory role model) := by
    unfold loadModel
    simp only [excused_bind_iff]
    refine ⟨?_, fun _ _ => ⟨?_, fun _ _ => ⟨?_, fun _ _ => excused_ok _⟩⟩⟩
    · exact fun code hcode => error_of_verifyAssetDigest hcode
    · exact fun code hcode => error_of_verifyAssetDigest hcode
    · exact fun code hcode => error_of_orReject hcode ▸ by decide
  exact hexcused code h

theorem error_of_loadModels {models : List CJson} {n : ℕ}
    (h : loadModels lib files directory models n = .error code) : code ∈ assetErrors := by
  rw [loadModels_eq] at h
  obtain ⟨_, -, h⟩ := error_of_mapM h
  exact error_of_loadModel h

/-- What is taken over of the models, where they are all loaded. -/
theorem mem_of_loadModels {models : List CJson} {n : ℕ} {loaded : List LoadedModel}
    (h : loadModels lib files directory models n = .ok loaded) :
    (∀ selected ∈ selectModels models n, ∃ model ∈ loaded,
      loadModel lib files directory selected.1 selected.2 = .ok model) ∧
    ∀ model ∈ loaded, ∃ selected ∈ selectModels models n,
      loadModel lib files directory selected.1 selected.2 = .ok model := by
  rw [loadModels_eq] at h
  exact mem_of_mapM h

/-! ### What is loaded -/

/-- A manifest that can be read. -/
structure Reads (lib : Libraries) (files : Files) (directory : CString) (path : CString)
    (content : List UInt8) (manifest : Document) : Prop where
  directory_ne : directory ≠ .empty
  joins : joinPath 256 directory kModelManifestFilename = some path
  found : loadFileToMemory files path = some content
  parses : lib.parse content = some manifest

/-- What is checked after the signature. -/
structure ContentLoads (board : Board) (lib : Libraries) (files : Files) (directory : CString)
    (manifest : CJson) (models : List CJson) (loaded : List LoadedModel) : Prop where
  hashes : verifyHashManifestFiles lib files directory manifest = .ok ()
  listed : items? (manifest.getObjectItem "models") = some models
  loads : loadModels lib files directory models kMaxLoadedModels = .ok loaded
  bundleId : copyCstr 64 (jsonString manifest "bundle_id") ≠ .empty
  version : copyCstr 32 (jsonString manifest "version") ≠ .empty
  tested : testLoadMicroWakeModelAssets board lib loaded = .ok ()

theorem error_of_manifestCompatible {manifest : CJson}
    (h : manifestCompatible board manifest = .error code) : code ∉ signatureErrors := by
  have hexcused : Excused (· ∉ signatureErrors) (manifestCompatible board manifest) := by
    unfold manifestCompatible
    simp only [excused_bind_iff]
    refine ⟨?_, fun _ _ => ⟨?_, fun _ _ => ⟨?_, fun _ _ => ⟨?_, fun _ _ => ?_⟩⟩⟩⟩
    · exact fun code hcode => error_of_ensure hcode ▸ by decide
    · exact fun code hcode => error_of_orReject hcode ▸ by decide
    · exact fun code hcode => error_of_ensure hcode ▸ by decide
    · exact fun code hcode => error_of_ensure hcode ▸ by decide
    · exact fun code hcode => error_of_ensure hcode ▸ by decide
  exact hexcused code h

theorem error_of_verifyManifestSignature {manifest : Document}
    (h : verifyManifestSignature board lib manifest = .error code) : code ∈ signatureErrors := by
  have hexcused : Excused (· ∈ signatureErrors) (verifyManifestSignature board lib manifest) := by
    unfold verifyManifestSignature
    simp only [excused_bind_iff]
    refine ⟨?_, fun _ _ => ⟨?_, fun _ _ => ?_⟩⟩
    · exact fun code hcode => error_of_orReject hcode ▸ by decide
    · exact fun code hcode => error_of_ensure hcode ▸ by decide
    · exact fun code hcode => error_of_ensure hcode ▸ by decide
  exact hexcused code h

theorem assetErrors_disjoint : ∀ code ∈ assetErrors, code ∉ signatureErrors := by decide

theorem error_of_verifyHashManifestFiles {manifest : CJson}
    (h : verifyHashManifestFiles lib files directory manifest = .error code) :
    code ∉ signatureErrors := by
  have hexcused : Excused (· ∉ signatureErrors)
      (verifyHashManifestFiles lib files directory manifest) := by
    unfold verifyHashManifestFiles
    simp only [excused_bind_iff]
    refine ⟨?_, fun hashes _ => ⟨?_, fun _ _ => excused_ok _⟩⟩
    · exact fun code hcode => error_of_orReject hcode ▸ by decide
    · intro code hcode
      obtain ⟨asset, -, hcode⟩ := error_of_mapM hcode
      exact assetErrors_disjoint code (error_of_verifyAssetDigest hcode)
  exact hexcused code h

theorem error_of_testLoad {models : List LoadedModel}
    (h : testLoadMicroWakeModelAssets board lib models = .error code) : code ∉ signatureErrors := by
  have hexcused : Excused (· ∉ signatureErrors) (testLoadMicroWakeModelAssets board lib models) := by
    unfold testLoadMicroWakeModelAssets
    simp only [excused_bind_iff]
    refine ⟨?_, fun _ _ => ⟨?_, fun _ _ => ⟨?_, fun _ _ => ?_⟩⟩⟩
    all_goals exact fun code hcode => error_of_ensure hcode ▸ by decide
  exact hexcused code h

/-- **Which sets are not rejected**, or only with some errors of signatures. -/
theorem excused_load_iff {excused : String → Prop}
    (hexcused : ∀ code, excused code → code ∈ signatureErrors) :
    Excused excused (loadModelSetFromDirectory board lib files directory) ↔
      ∃ path content manifest, Reads lib files directory path content manifest ∧
        manifestCompatible board manifest.root = .ok () ∧
        Excused excused (verifyManifestSignature board lib manifest) ∧
        (verifyManifestSignature board lib manifest = .ok () →
          ∃ models loaded, ContentLoads board lib files directory manifest.root models loaded) := by
  have hnot : ∀ {code}, code ∉ signatureErrors → ¬ excused code := fun h he => h (hexcused _ he)
  have hensure : ∀ {β : Type} {passed : Bool} {f : Unit → Except String β} {code : String},
      code ∉ signatureErrors →
      (Excused excused (ensure passed code >>= f) ↔ passed = true ∧ Excused excused (f ())) :=
    fun h => excused_ensure_bind_iff (hnot h)
  have hreject : ∀ {α β : Type} {value : Option α} {f : α → Except String β} {code : String},
      code ∉ signatureErrors →
      (Excused excused (orReject value code >>= f) ↔ ∃ a, value = some a ∧ Excused excused (f a)) :=
    fun h => excused_orReject_bind_iff (hnot h)
  have hcompatible : ∀ {β : Type} {manifest : CJson} {f : Unit → Except String β},
      Excused excused (manifestCompatible board manifest >>= f) ↔
        ∃ done, manifestCompatible board manifest = .ok done ∧ Excused excused (f done) :=
    excused_bind_iff_exists fun code hcode => hnot (error_of_manifestCompatible hcode)
  have hhashes : ∀ {β : Type} {manifest : CJson} {f : Unit → Except String β},
      Excused excused (verifyHashManifestFiles lib files directory manifest >>= f) ↔
        ∃ done, verifyHashManifestFiles lib files directory manifest = .ok done ∧
          Excused excused (f done) :=
    excused_bind_iff_exists fun code hcode => hnot (error_of_verifyHashManifestFiles hcode)
  have hloads : ∀ {β : Type} {models : List CJson} {f : List LoadedModel → Except String β},
      Excused excused (loadModels lib files directory models kMaxLoadedModels >>= f) ↔
        ∃ loaded, loadModels lib files directory models kMaxLoadedModels = .ok loaded ∧
          Excused excused (f loaded) :=
    excused_bind_iff_exists fun code hcode =>
      hnot (assetErrors_disjoint code (error_of_loadModels hcode))
  have htested : ∀ {β : Type} {loaded : List LoadedModel} {f : Unit → Except String β},
      Excused excused (testLoadMicroWakeModelAssets board lib loaded >>= f) ↔
        ∃ done, testLoadMicroWakeModelAssets board lib loaded = .ok done ∧
          Excused excused (f done) :=
    excused_bind_iff_exists fun code hcode => hnot (error_of_testLoad hcode)
  unfold loadModelSetFromDirectory
  simp (disch := decide) only [hensure, hreject, hcompatible, hhashes, hloads, htested, excused_bind_iff]
  constructor
  · rintro ⟨hdirectory, path, hjoins, content, hfound, manifest, hparses, ⟨⟩, hcompatible, hsignature,
      hrest⟩
    refine ⟨path, content, manifest, ⟨by simpa using hdirectory, hjoins, hfound, hparses⟩, hcompatible,
      hsignature, fun hok => ?_⟩
    obtain ⟨⟨⟩, hhashes, models, hlisted, loaded, hloads, hidentity, ⟨⟩, htested, -⟩ := hrest () hok
    simp only [Bool.and_eq_true, decide_eq_true_eq] at hidentity
    exact ⟨models, loaded, hhashes, hlisted, hloads, hidentity.1.1, hidentity.1.2, htested⟩
  · rintro ⟨path, content, manifest, ⟨hdirectory, hjoins, hfound, hparses⟩, hcompatible, hsignature,
      hrest⟩
    refine ⟨by simpa using hdirectory, path, hjoins, content, hfound, manifest, hparses, (), hcompatible,
      hsignature, fun _ hok => ?_⟩
    obtain ⟨models, loaded, hhashes, hlisted, hloads, hbundle, hversion, htested⟩ := hrest hok
    have hne : loaded ≠ [] := by
      obtain ⟨_, hne, -⟩ := bind_eq_ok.mp htested
      simpa using ensure_eq_ok.mp hne
    refine ⟨(), hhashes, models, hlisted, loaded, hloads, ?_, (), htested, excused_ok _⟩
    simp only [Bool.and_eq_true, decide_eq_true_eq]
    exact ⟨⟨hbundle, hversion⟩, hne⟩

/-- **Which sets are loaded.** -/
theorem exists_store_iff :
    (∃ store, loadModelSetFromDirectory board lib files directory = .ok store) ↔
      ∃ path content manifest models loaded, Reads lib files directory path content manifest ∧
        manifestCompatible board manifest.root = .ok () ∧
        verifyManifestSignature board lib manifest = .ok () ∧
        ContentLoads board lib files directory manifest.root models loaded := by
  have hloads : Excused (fun _ => False) (loadModelSetFromDirectory board lib files directory) ↔
      ∃ store, loadModelSetFromDirectory board lib files directory = .ok store :=
    excused_iff_exists fun _ _ h => h
  rw [← hloads, excused_load_iff fun _ h => h.elim]
  constructor
  · rintro ⟨path, content, manifest, hreads, hcompatible, hsignature, hrest⟩
    obtain ⟨⟨⟩, hok⟩ := (excused_iff_exists fun _ _ h => h).mp hsignature
    obtain ⟨models, loaded, hcontent⟩ := hrest hok
    exact ⟨path, content, manifest, models, loaded, hreads, hcompatible, hok, hcontent⟩
  · rintro ⟨path, content, manifest, models, loaded, hreads, hcompatible, hok, hcontent⟩
    refine ⟨path, content, manifest, hreads, hcompatible, ?_, fun _ => ⟨models, loaded, hcontent⟩⟩
    exact (excused_iff_exists fun _ _ h => h).mpr ⟨(), hok⟩

/-! ### What a set must hold -/

/-- An asset that is listed well, with the file that is listed. -/
def AssetLoads (lib : Libraries) (files : Files) (directory : CString) (size : ℕ) (item : Option CJson)
    (content : List UInt8) : Prop :=
  ∃ value asset, item = some value ∧ Resolves directory size value asset ∧
    Verified lib files asset content

/-- What the signed manifest must list, and the directory hold. -/
structure ContentFits (board : Board) (lib : Libraries) (files : Files) (directory : CString)
    (manifest : CJson) (hashes models : List CJson) : Prop where
  listedHashes : items? (manifest.getObjectItem "hashes") = some hashes
  hashes_ne : hashes ≠ []
  hashed : ∀ asset ∈ hashes, ∃ content, AssetLoads lib files directory 256 (some asset) content
  listedModels : items? (manifest.getObjectItem "models") = some models
  metadata : ∀ selected ∈ selectModels models kMaxLoadedModels,
    ∃ content, AssetLoads lib files directory 192 (selected.2.getObjectItem "metadata") content
  model : ∀ selected ∈ selectModels models kMaxLoadedModels,
    ∃ content, AssetLoads lib files directory 192 (selected.2.getObjectItem "model") content ∧
      validateModelAsset board lib content = true
  wake : ∃ selected ∈ selectModels models kMaxLoadedModels, modelRole selected.1 = .wake
  stop : ∃ selected ∈ selectModels models kMaxLoadedModels, modelRole selected.1 = .playbackStop
  bundleId : ∃ bundleId, jsonString manifest "bundle_id" = some bundleId ∧ bundleId ≠ .empty
  version : ∃ version, jsonString manifest "version" = some version ∧ version ≠ .empty

theorem exists_verifyAssetDigest_iff :
    (∃ path, verifyAssetDigest lib files directory size item = .ok path) ↔
      ∃ content, AssetLoads lib files directory size item content := by
  constructor
  · rintro ⟨path, h⟩
    obtain ⟨value, asset, content, hitem, hresolves, hverified, -⟩ := verifyAssetDigest_eq_ok.mp h
    exact ⟨content, value, asset, hitem, hresolves, hverified⟩
  · rintro ⟨content, value, asset, hitem, hresolves, hverified⟩
    exact ⟨_, verifyAssetDigest_eq_ok.mpr ⟨value, asset, content, hitem, hresolves, hverified, rfl⟩⟩

theorem copyCstr_ne_empty_iff {n : ℕ} (h : 1 < n) {value : Option CString} :
    copyCstr n value ≠ .empty ↔ ∃ text, value = some text ∧ text ≠ .empty := by
  rw [copyCstr, Ne, CString.take_eq_empty_iff (by omega)]
  cases value with
  | none => simp
  | some text => simp

/-- What is loaded of an asset is the file that was verified. -/
theorem modelData_of_loadModel {loaded : LoadedModel}
    (h : loadModel lib files directory role model = .ok loaded) {content : List UInt8}
    (hcontent : AssetLoads lib files directory 192 (model.getObjectItem "model") content) :
    loaded.modelData = content := by
  obtain ⟨-, -, hmodel, hdata⟩ := loadModel_eq_ok h
  obtain ⟨value, asset, content', hitem, hresolves, hverified, hpath⟩ :=
    verifyAssetDigest_eq_ok.mp hmodel
  obtain ⟨value', asset', hitem', hresolves', hverified'⟩ := hcontent
  rw [hitem, Option.some_inj] at hitem'
  subst hitem'
  have hsame : asset'.resolvedPath = asset.resolvedPath := by
    have hrelative := hresolves'.path
    rw [hresolves.path, Option.some_inj] at hrelative
    rw [hresolves'.resolved, hresolves.resolved, hrelative]
  obtain ⟨hread, -⟩ := loadFileToMemory_eq_some.mp hdata
  rw [hpath, ← hsame, hverified'.found, Option.some_inj] at hread
  exact hread.symm

/-- **What is checked after the signature**, in terms of what is listed. -/
theorem exists_contentLoads_iff {manifest : CJson} :
    (∃ models loaded, ContentLoads board lib files directory manifest models loaded) ↔
      ∃ hashes models, ContentFits board lib files directory manifest hashes models := by
  constructor
  · rintro ⟨models, loaded, h⟩
    obtain ⟨hashes, hhashes, hall⟩ := bind_eq_ok.mp h.hashes
    obtain ⟨hitems, hne⟩ := Option.filter_eq_some_iff.mp (orReject_eq_ok.mp hhashes)
    obtain ⟨paths, hpaths, -⟩ := bind_eq_ok.mp hall
    obtain ⟨htaken, hfrom⟩ := mem_of_loadModels h.loads
    have heach := h.loads
    rw [loadModels_eq] at heach
    have hassets : ∀ selected ∈ selectModels models kMaxLoadedModels,
        (∃ content, AssetLoads lib files directory 192 (selected.2.getObjectItem "metadata") content) ∧
          ∃ content, AssetLoads lib files directory 192 (selected.2.getObjectItem "model") content := by
      intro selected hselected
      rw [← exists_verifyAssetDigest_iff, ← exists_verifyAssetDigest_iff]
      exact exists_loadModel_iff.mp (exists_mapM_iff.mp ⟨loaded, heach⟩ selected hselected)
    obtain ⟨_, -, htested⟩ := bind_eq_ok.mp h.tested
    obtain ⟨_, hvalid, htested⟩ := bind_eq_ok.mp htested
    obtain ⟨_, hwake, hstop⟩ := bind_eq_ok.mp htested
    rw [ensure_eq_ok] at hvalid hwake hstop
    have hrole : ∀ role : MicroWakeModelRole, loaded.any (·.role = role) = true →
        ∃ selected ∈ selectModels models kMaxLoadedModels, modelRole selected.1 = role := by
      intro role hany
      obtain ⟨model, hmem, hmodel⟩ := List.any_eq_true.mp hany
      obtain ⟨selected, hselected, hload⟩ := hfrom model hmem
      rw [decide_eq_true_eq] at hmodel
      exact ⟨selected, hselected, (loadModel_eq_ok hload).1.symm.trans hmodel⟩
    refine ⟨hashes, models, hitems, by simpa using hne, ?_, h.listed, ?_, ?_, hrole _ hwake, hrole _ hstop,
      (copyCstr_ne_empty_iff (by decide)).mp h.bundleId,
      (copyCstr_ne_empty_iff (by decide)).mp h.version⟩
    · intro asset hasset
      exact exists_verifyAssetDigest_iff.mp (exists_mapM_iff.mp ⟨paths, hpaths⟩ asset hasset)
    · exact fun selected hselected => (hassets selected hselected).1
    · intro selected hselected
      obtain ⟨content, hcontent⟩ := (hassets selected hselected).2
      obtain ⟨model, hmem, hload⟩ := htaken selected hselected
      refine ⟨content, hcontent, ?_⟩
      rw [← modelData_of_loadModel hload hcontent]
      exact List.all_eq_true.mp hvalid model hmem
  · rintro ⟨hashes, models, h⟩
    obtain ⟨loaded, hloaded⟩ : ∃ loaded,
        loadModels lib files directory models kMaxLoadedModels = .ok loaded := by
      rw [loadModels_eq]
      refine exists_mapM_iff.mpr fun selected hselected => exists_loadModel_iff.mpr ?_
      obtain ⟨content, hcontent, -⟩ := h.model selected hselected
      exact ⟨exists_verifyAssetDigest_iff.mpr (h.metadata selected hselected),
        exists_verifyAssetDigest_iff.mpr ⟨content, hcontent⟩⟩
    obtain ⟨htaken, hfrom⟩ := mem_of_loadModels hloaded
    have hrole : ∀ role : MicroWakeModelRole,
        (∃ selected ∈ selectModels models kMaxLoadedModels, modelRole selected.1 = role) →
          loaded.any (·.role = role) = true := by
      rintro role ⟨selected, hselected, hmodel⟩
      obtain ⟨model, hmem, hload⟩ := htaken selected hselected
      refine List.any_eq_true.mpr ⟨model, hmem, ?_⟩
      rw [decide_eq_true_eq, (loadModel_eq_ok hload).1, hmodel]
    have hvalid : loaded.all (fun model => validateModelAsset board lib model.modelData) = true := by
      refine List.all_eq_true.mpr fun model hmem => ?_
      obtain ⟨selected, hselected, hload⟩ := hfrom model hmem
      obtain ⟨content, hcontent, hvalid⟩ := h.model selected hselected
      rw [modelData_of_loadModel hload hcontent]
      exact hvalid
    have hne : loaded ≠ [] := by
      rintro rfl
      cases hrole .wake h.wake
    refine ⟨models, loaded, ?_, h.listedModels, hloaded, (copyCstr_ne_empty_iff (by decide)).mpr h.bundleId,
      (copyCstr_ne_empty_iff (by decide)).mpr h.version, ?_⟩
    · obtain ⟨paths, hpaths⟩ := exists_mapM_iff.mpr fun asset hasset =>
        exists_verifyAssetDigest_iff.mpr (h.hashed asset hasset)
      have hhashes : orReject ((items? (manifest.getObjectItem "hashes")).filter (!·.isEmpty))
          "missing_model_bundle_hashes" = .ok hashes :=
        orReject_eq_ok.mpr (Option.filter_eq_some_iff.mpr ⟨h.listedHashes, by simpa using h.hashes_ne⟩)
      exact bind_eq_ok.mpr ⟨hashes, hhashes, bind_eq_ok.mpr ⟨paths, hpaths, rfl⟩⟩
    · refine bind_eq_ok.mpr ⟨(), ensure_eq_ok.mpr (decide_eq_true hne), ?_⟩
      refine bind_eq_ok.mpr ⟨(), ensure_eq_ok.mpr hvalid, ?_⟩
      exact bind_eq_ok.mpr ⟨(), ensure_eq_ok.mpr (hrole .wake h.wake),
        ensure_eq_ok.mpr (hrole .playbackStop h.stop)⟩

/-! ### The files that are read -/

/-- The path of an asset. -/
def assetPath (directory : CString) (asset : CJson) : Option CString :=
  (jsonString asset "path").map (inDirectory directory)

/-- The assets in `hashes`. -/
def hashedAssets (manifest : CJson) : List CJson := (items? (manifest.getObjectItem "hashes")).getD []

/-- The assets of the models that are taken. -/
def modelAssets (manifest : CJson) : List CJson :=
  (selectModels ((items? (manifest.getObjectItem "models")).getD []) kMaxLoadedModels).flatMap
    fun selected =>
      (selected.2.getObjectItem "metadata").toList ++ (selected.2.getObjectItem "model").toList

/-- The files that are listed. -/
def listedFiles (directory : CString) (manifest : CJson) : List CString :=
  (hashedAssets manifest ++ modelAssets manifest).filterMap (assetPath directory)

/-- The path of the manifest. -/
def manifestPath (directory : CString) : CString := inDirectory directory kModelManifestFilename

/-- The manifest of a directory. -/
def manifestIn (lib : Libraries) (files : Files) (directory : CString) : Option Document :=
  (loadFileToMemory files (manifestPath directory)).bind lib.parse

/-- The files that loading reads. -/
def filesRead (lib : Libraries) (files : Files) (directory : CString) : List CString :=
  manifestPath directory ::
    ((manifestIn lib files directory).map fun manifest =>
      listedFiles directory manifest.root).getD []

theorem verifyAssetDigest_congr {asset : Option CJson}
    (h : ∀ item ∈ asset, ∀ path ∈ assetPath directory item, files' path = files path) :
    verifyAssetDigest lib files' directory size asset =
      verifyAssetDigest lib files directory size asset := by
  unfold verifyAssetDigest
  refine bind_congr_of_ok fun item hitem => bind_congr_of_ok fun asset hasset => ?_
  obtain ⟨hitem, -⟩ := Option.filter_eq_some_iff.mp (orReject_eq_ok.mp hitem)
  have hresolves := resolveAsset_eq_some.mp (orReject_eq_ok.mp hasset)
  have hpath : asset.resolvedPath ∈ assetPath directory item := by
    rw [assetPath, hresolves.path, hresolves.resolved]
    rfl
  rw [h item hitem _ hpath]

theorem loadModel_congr
    (h : ∀ item ∈ (model.getObjectItem "metadata").toList ++ (model.getObjectItem "model").toList,
      ∀ path ∈ assetPath directory item, files' path = files path) :
    loadModel lib files' directory role model = loadModel lib files directory role model := by
  have hmetadata : verifyAssetDigest lib files' directory 192 (model.getObjectItem "metadata") =
      verifyAssetDigest lib files directory 192 (model.getObjectItem "metadata") :=
    verifyAssetDigest_congr fun item hitem =>
      h item (List.mem_append_left _ (Option.mem_toList.mpr hitem))
  have hmodel : verifyAssetDigest lib files' directory 192 (model.getObjectItem "model") =
      verifyAssetDigest lib files directory 192 (model.getObjectItem "model") :=
    verifyAssetDigest_congr fun item hitem =>
      h item (List.mem_append_right _ (Option.mem_toList.mpr hitem))
  unfold loadModel
  dsimp only
  rw [hmetadata, hmodel]
  refine bind_congr_of_ok fun _ _ => bind_congr_of_ok fun tflitePath htflite => ?_
  -- the model is read once more, from the path that was verified
  obtain ⟨item, asset, content, hitem, hresolves, -, hpath⟩ := verifyAssetDigest_eq_ok.mp htflite
  have hread : files' tflitePath = files tflitePath := by
    refine h item (List.mem_append_right _ (Option.mem_toList.mpr hitem)) _ ?_
    rw [assetPath, hresolves.path, hpath, hresolves.resolved]
    rfl
  rw [loadFileToMemory, loadFileToMemory, hread]

/-- **Loading reads only the manifest and the files that it lists.** -/
theorem load_congr (h : ∀ path ∈ filesRead lib files directory, files' path = files path) :
    loadModelSetFromDirectory board lib files' directory =
      loadModelSetFromDirectory board lib files directory := by
  have hmanifest : files' (manifestPath directory) = files (manifestPath directory) :=
    h _ List.mem_cons_self
  unfold loadModelSetFromDirectory
  refine bind_congr_of_ok fun _ _ => bind_congr_of_ok fun path hpath => ?_
  obtain ⟨-, -, rfl⟩ := joinPath_eq_some.mp (orReject_eq_ok.mp hpath)
  have hload : loadFileToMemory files' (manifestPath directory) =
      loadFileToMemory files (manifestPath directory) := by
    rw [loadFileToMemory, loadFileToMemory, hmanifest]
  rw [show inDirectory directory kModelManifestFilename = manifestPath directory from rfl, hload]
  refine bind_congr_of_ok fun content hcontent => bind_congr_of_ok fun manifest hparse => ?_
  have hin : manifestIn lib files directory = some manifest := by
    rw [manifestIn, orReject_eq_ok.mp hcontent]
    exact orReject_eq_ok.mp hparse
  have hlisted : ∀ item ∈ hashedAssets manifest.root ++ modelAssets manifest.root,
      ∀ path ∈ assetPath directory item, files' path = files path := by
    intro item hitem path hpath
    refine h path (List.mem_cons_of_mem _ ?_)
    rw [hin]
    exact List.mem_filterMap.mpr ⟨item, hitem, hpath⟩
  have hhashes : verifyHashManifestFiles lib files' directory manifest.root =
      verifyHashManifestFiles lib files directory manifest.root := by
    unfold verifyHashManifestFiles
    refine bind_congr_of_ok fun hashes hhashes => ?_
    obtain ⟨hitems, -⟩ := Option.filter_eq_some_iff.mp (orReject_eq_ok.mp hhashes)
    congr 1
    refine mapM_congr fun asset hasset => verifyAssetDigest_congr ?_
    rintro _ ⟨⟩
    exact hlisted asset (List.mem_append_left _ (by rw [hashedAssets, hitems]; exact hasset))
  rw [hhashes]
  refine bind_congr_of_ok fun _ _ => bind_congr_of_ok fun _ _ => bind_congr_of_ok fun _ _ =>
    bind_congr_of_ok fun models hmodels => ?_
  have hloads : loadModels lib files' directory models kMaxLoadedModels =
      loadModels lib files directory models kMaxLoadedModels := by
    rw [loadModels_eq, loadModels_eq]
    refine mapM_congr fun selected hselected => loadModel_congr fun item hitem => ?_
    refine hlisted item (List.mem_append_right _ ?_)
    rw [modelAssets, orReject_eq_ok.mp hmodels]
    exact List.mem_flatMap.mpr ⟨selected, hselected, hitem⟩
  rw [hloads]

/-- **No file of a set that is loaded is empty.** -/
theorem ne_nil_of_loads {store : RuntimeModelStore}
    (h : loadModelSetFromDirectory board lib files directory = .ok store) {path : CString}
    (hpath : path ∈ filesRead lib files directory) :
    ∃ content, files path = some content ∧ content ≠ [] := by
  obtain ⟨manifestPath, content, manifest, models, loaded, hreads, -, -, hcontent⟩ :=
    exists_store_iff.mp ⟨store, h⟩
  obtain ⟨-, -, rfl⟩ := joinPath_eq_some.mp hreads.joins
  have hin : manifestIn lib files directory = some manifest := by
    rw [manifestIn, ModelBundle.manifestPath, hreads.found]
    exact hreads.parses
  rw [filesRead, hin] at hpath
  rcases List.mem_cons.mp hpath with rfl | hpath
  · exact ⟨content, loadFileToMemory_eq_some.mp hreads.found⟩
  obtain ⟨item, hitem, hpath⟩ := List.mem_filterMap.mp hpath
  -- an asset that is verified has a size
  have hverified : ∀ {size resolved}, verifyAssetDigest lib files directory size (some item) =
      .ok resolved → ∃ content, files path = some content ∧ content ≠ [] := by
    intro size resolved hok
    obtain ⟨_, asset, content, ⟨⟩, hresolves, hverified, -⟩ := verifyAssetDigest_eq_ok.mp hok
    have hresolved : asset.resolvedPath = path := by
      rw [assetPath, hresolves.path, Option.map_some, Option.some_inj] at hpath
      rw [hresolves.resolved, hpath]
    refine ⟨content, hresolved ▸ hverified.found, ?_⟩
    rintro rfl
    have hpos := hresolves.pos
    have hlength := hverified.length
    rw [List.length_nil] at hlength
    omega
  rcases List.mem_append.mp hitem with hitem | hitem
  · obtain ⟨hashes, hhashes, hall⟩ := bind_eq_ok.mp hcontent.hashes
    obtain ⟨hitems, -⟩ := Option.filter_eq_some_iff.mp (orReject_eq_ok.mp hhashes)
    obtain ⟨paths, hpaths, -⟩ := bind_eq_ok.mp hall
    rw [hashedAssets, hitems] at hitem
    obtain ⟨resolved, hok⟩ := exists_mapM_iff.mp ⟨paths, hpaths⟩ item hitem
    exact hverified hok
  · rw [modelAssets, hcontent.listed] at hitem
    obtain ⟨selected, hselected, hitem⟩ := List.mem_flatMap.mp hitem
    have hloads := hcontent.loads
    rw [loadModels_eq] at hloads
    obtain ⟨hmetadata, hmodel⟩ := exists_loadModel_iff.mp
      (exists_mapM_iff.mp ⟨loaded, hloads⟩ selected hselected)
    rcases List.mem_append.mp hitem with hitem | hitem
    · rw [Option.mem_toList.mp hitem] at hmetadata
      obtain ⟨resolved, hok⟩ := hmetadata
      exact hverified hok
    · rw [Option.mem_toList.mp hitem] at hmodel
      obtain ⟨resolved, hok⟩ := hmodel
      exact hverified hok

/-! ### Some files -/

/-- The metadata of both models. -/
def someMetadata : List UInt8 := [123, 125]

/-- The header of both models. -/
def someModel : List UInt8 := [28, 0, 0, 0] ++ utf8 "TFL3"

def someMetadataSha256 : String := "44136fa355b3678a1146ad16f7e8649e94fb4fc21fe77e8310c060f61caaff8a"

def someModelSha256 : String := "368044902ecf8fefba0dce61da4452643b6390818d6bd6a4a9b6a998813957ab"

/-- A manifest and two models in a directory. -/
def filesOf (directory : CString) (manifest : List UInt8) : Files := fun path =>
  ([("manifest.json", manifest), ("wake.json", someMetadata), ("wake.tflite", someModel),
    ("stop.json", someMetadata), ("stop.tflite", someModel)].find? fun file =>
      path = inDirectory directory (.ofText file.1)).map (·.2)

def someKey : CString := .ofText "key"

def someBoard : Board where
  kBoardProfile := "box"
  kPartitionSchema := "s3-16m-recovery-single-model-v1"
  kStorageModelPolicy := "internal_single_model_cache"
  kModelBundleManifestKeyId := "dev"
  kModelBundleManifestSigningKey := someKey
  tflmEnabled := false
  modelPartition := true

end HexeVoice.Firmware.ModelBundle
