import HexeVoice.Firmware.ModelBundle
import HexeVoice.Firmware.ModelBundleManifest
import HexeVoice.Library.Python

/-!
# Validated bundles on the device

`validate_model_bundle_manifest` of `firmware_bundles.py`, which a manifest passes before it is shipped, against
`load_model_set_from_directory`, which loads it on the device.

## The model

The manifest is a JSON tree, which Python holds as it is. cJSON holds its texts as C strings and its numbers
as integers that saturate, and looks keys up without regard to case. The device reads the text of the manifest
as this tree, or not at all.

## What is proved

**`validated_bundle_loads_iff`**: which validated manifests, with files that match, are rejected at most for
their signature.
-/

namespace HexeVoice.Firmware.ModelValidation

open HexeVoice.Library HexeVoice.Library.CJson
open HexeVoice.Firmware.MicroWake HexeVoice.Firmware.ModelBundle

variable {D : Doubles}

/-! ### What Python finds -/

/-- `value.get(key)`, of what may be no mapping. -/
def get (key : String) (value : Option (Value D)) : Option (Value D) := value.bind (field key)

/-- The text, if it is one. -/
def text? : Option (Value D) → Option String
  | some (.str s) => some s
  | _ => none

/-- `isinstance(value, Mapping)`. -/
def isMapping : Option (Value D) → Bool
  | some (.obj _) => true
  | _ => false

/-- The items of a list. -/
def list? : Option (Value D) → Option (List (Value D))
  | some (.arr items) => some items
  | _ => none

/-- The integer, if it is an `int`; `True` and `False` are. -/
def int? : Option (Value D) → Option ℤ
  | some (.atom (.int n)) => some n
  | some (.atom (.bool b)) => some b.toInt
  | _ => none

/-- `value == n`. -/
def equalsInt (n : ℤ) : Option (Value D) → Bool
  | some (.atom (.int m)) => m = n
  | some (.atom (.bool b)) => b.toInt = n
  | some (.atom (.float x)) => D.value x = n
  | _ => false

/-- A value can be put into a set. -/
def hashable : Option (Value D) → Bool
  | some (.arr _) => false
  | some (.obj _) => false
  | _ => true

/-! ### The validator -/

/-- An error, if something is not as it must be. -/
def check (passed : Bool) (error : String) : List String := if passed then [] else [error]

def requireEqual (payload : Option (Value D)) (key expected : String) : List String :=
  check (text? (get key payload) = some expected) s!"invalid_{key}"

def nonEmptyStringList (value : Option (Value D)) : Bool :=
  (list? value).any fun items =>
    !items.isEmpty && items.all fun item => (text? (some item)).any (· ≠ "")

/-- `_HEX_SHA256_RE.fullmatch`. -/
def isHexSha256 (s : String) : Bool :=
  s.toList.length = 64 && s.toList.all fun c => ('0' ≤ c && c ≤ '9') || ('a' ≤ c && c ≤ 'f')

/-- `isinstance(value, str) and value.strip()`. -/
def isFilled (value : Option (Value D)) : Bool := (text? value).any fun s => strip s ≠ ""

def validateAsset (asset : Option (Value D)) (label : String) : List String :=
  if isMapping asset then
    check ((text? (get "path" asset)).any (· ≠ "")) s!"missing_{label}.path" ++
      check ((int? (get "size_bytes" asset)).any (0 < ·)) s!"invalid_{label}.size_bytes" ++
      check ((text? (get "sha256" asset)).any isHexSha256) s!"invalid_{label}.sha256"
  else [s!"missing_{label}"]

/-- `name in value`, of a list. -/
def listContains (value : Option (Value D)) (name : String) : Bool :=
  (list? value).any fun items => items.any fun item => text? (some item) = some name

/-- The checks of `compatibility`. -/
def validateCompatibility (compatibility : Option (Value D)) : List String :=
  if isMapping compatibility then
    let partitions := get "requires_partitions" compatibility
    check (nonEmptyStringList (get "board_profiles" compatibility))
        "missing_compatible_board_profiles" ++
      check (nonEmptyStringList (get "partition_schemas" compatibility))
        "missing_compatible_partition_schemas" ++
      if nonEmptyStringList partitions then
        check (listContains partitions "model" ||
          listContains partitions "model_a" && listContains partitions "model_b")
          "missing_model_ab_or_single_partition_requirement"
      else ["missing_model_partition_requirement"]
  else ["missing_compatibility"]

/-- The checks of `preprocessing`. -/
def validatePreprocessing (preprocessing : Option (Value D)) : List String :=
  if isMapping preprocessing then
    validateAsset (get "asset" preprocessing) "preprocessing.asset" ++
      check (equalsInt 16000 (get "sample_rate_hz" preprocessing))
        "unsupported_preprocessing_sample_rate" ++
      check (equalsInt 10 (get "feature_step_size_ms" preprocessing))
        "unsupported_preprocessing_feature_step"
  else ["missing_preprocessing"]

/-- The checks of a model, by its index. -/
def validateModel (index : ℕ) (model : Value D) : List String :=
  if isMapping (some model) then
    let label := s!"models.{index}"
    let thresholds := get "thresholds" (some model)
    (["id", "role", "wake_word", "source"].flatMap fun key =>
        check (isFilled (get key (some model))) s!"missing_{label}.{key}") ++
      check (text? (get "role" (some model)) ≠ some "wake" ||
        text? (get "alias" (some model)) = some "Hexe") "wake_model_alias_must_be_hexe" ++
      validateAsset (get "metadata" (some model)) s!"{label}.metadata" ++
      validateAsset (get "model" (some model)) s!"{label}.model" ++
      if isMapping thresholds then
        ["probability_cutoff", "sliding_window_size", "feature_step_size_ms",
            "tensor_arena_size"].flatMap fun key =>
          check (get key thresholds).isSome s!"missing_{label}.thresholds.{key}"
      else [s!"missing_{label}.thresholds"]
  else [s!"invalid_model_{index}"]

/-- The models, or none. -/
def modelsOf (manifest : Option (Value D)) : List (Value D) := (list? (get "models" manifest)).getD []

/-- `role in roles`. -/
def roleListed (models : List (Value D)) (role : String) : Bool :=
  models.any fun model => text? (get "role" (some model)) = some role

/-- The checks of `models`. -/
def validateModels (manifest : Option (Value D)) : List String :=
  let models := modelsOf manifest
  check (!models.isEmpty) "missing_models" ++
    check (roleListed models "wake") "missing_wake_model" ++
    check (roleListed models "playback_stop") "missing_playback_stop_model" ++
    (models.mapIdx validateModel).flatten

/-- The checks of `hashes`. -/
def validateHashes (manifest : Option (Value D)) : List String :=
  let hashes := (list? (get "hashes" manifest)).getD []
  check (!hashes.isEmpty) "missing_hashes" ++
    (hashes.mapIdx fun index asset => validateAsset (some asset) s!"hashes.{index}").flatten

/-- The checks of `signature`. -/
def validateSignature (signature : Option (Value D)) : List String :=
  if isMapping signature then
    requireEqual signature "algorithm" "hmac-sha256" ++
      requireEqual signature "scope" "canonical_manifest_without_signature" ++
      check ((text? (get "key_id" signature)).any (· ≠ "")) "missing_signature_key_id" ++
      check ((text? (get "value" signature)).any isHexSha256) "invalid_signature_value"
  else ["missing_signature"]

/-- The manifest, as a value. -/
def root (manifest : Dict String (Value D)) : Option (Value D) := some (.obj manifest.entries)

/-- `validate_model_bundle_manifest`, which raises if a role cannot be put into a set. -/
def validateModelBundleManifest (manifest : Dict String (Value D)) :
    Except PyException (List String) :=
  let value := root manifest
  if (modelsOf value).all fun model => hashable (get "role" (some model)) then
    .ok (requireEqual value "schema_version" "hexe-model-bundle-v1" ++
      requireEqual value "model_api_version" "hexe-model-bundle-api-v1" ++
      requireEqual value "security_policy" "signed_manifest_sha256_required" ++
      (["bundle_id", "version", "created_at_utc", "release_channel"].flatMap fun key =>
        check (isFilled (get key value)) s!"missing_{key}") ++
      validateCompatibility (get "compatibility" value) ++
      validatePreprocessing (get "preprocessing" value) ++
      validateModels value ++ validateHashes value ++ validateSignature (get "signature" value))
  else .error .typeError

/-! ### What the device finds -/

/-- An integer as an `int` that saturates. -/
def saturate (n : ℤ) : ℤ := max (-2147483648) (min n 2147483647)

/-- A number as an integer, without its fraction. -/
def truncate (q : ℚ) : ℤ := if q < 0 then ⌈q⌉ else ⌊q⌋

/-- A scalar, as cJSON reads it. -/
def scalarOf : Scalar D → CJson
  | .null => .null
  | .bool b => .bool b
  | .int n => .number (saturate n)
  | .float x => .number (saturate (truncate (D.value x)))

mutual

/-- A value, as cJSON reads it. -/
def onDevice : Value D → CJson
  | .atom a => scalarOf a
  | .str s => .string (.ofText s)
  | .arr items => .array (itemsOnDevice items)
  | .obj entries => .object (entriesOnDevice entries)

def itemsOnDevice : List (Value D) → List CJson
  | [] => []
  | item :: items => onDevice item :: itemsOnDevice items

def entriesOnDevice : List (String × Value D) → List (CString × CJson)
  | [] => []
  | entry :: entries => entryOnDevice entry :: entriesOnDevice entries

def entryOnDevice : String × Value D → CString × CJson
  | (key, value) => (.ofText key, onDevice value)

end

/-- The manifest on the device, and the text that it makes of it to check the signature. -/
def document (manifest : Dict String (Value D)) : Document where
  root := onDevice (.obj manifest.entries)
  canonical := (canonicalJsonWithoutSignature (cJsonParse (.obj manifest.entries))).data.toList

/-! ### The condition -/

/-- The assets in `hashes`. -/
def hashesOf (manifest : Option (Value D)) : List (Value D) := (list? (get "hashes" manifest)).getD []

/-- The device finds a name's own entry: no other key that it takes for the name comes before. -/
def Finds (name : String) (value : Option (Value D)) : Prop :=
  ∀ entries entry, value = some (.obj entries) →
    entries.find? (fun entry => (CString.ofText entry.1).bytes.map lowerByte =
      (name.toList.map fun c => c.toNat.toUInt8).map lowerByte) = some entry → entry.1 = name

/-- The names of an asset are found. -/
def AssetFound (asset : Option (Value D)) : Prop :=
  ∀ name ∈ ["path", "sha256", "size_bytes"], Finds name asset

/-- What the device looks up, it finds under its own name. -/
structure KeysFound (manifest : Dict String (Value D)) : Prop where
  root : ∀ name ∈ ["schema_version", "model_api_version", "security_policy", "compatibility", "hashes",
    "bundle_id", "version", "models"], Finds name (root manifest)
  compatibility : ∀ name ∈ ["board_profiles", "partition_schemas", "requires_partitions"],
    Finds name (get "compatibility" (ModelValidation.root manifest))
  hashes : ∀ asset ∈ hashesOf (ModelValidation.root manifest), AssetFound (some asset)
  models : ∀ model ∈ modelsOf (ModelValidation.root manifest),
    (∀ name ∈ ["role", "metadata", "model"], Finds name (some model)) ∧
      AssetFound (get "metadata" (some model)) ∧ AssetFound (get "model" (some model))

/-- The file of an asset is there, with the size and the digest that are listed. -/
structure FileMatches (lib : Libraries) (files : Files) (directory : CString)
    (asset : Option (Value D)) (content : List UInt8) : Prop where
  found : ∃ path, text? (get "path" asset) = some path ∧ 0 ∉ utf8 path ∧
    files (inDirectory directory (.ofText path)) = some content
  size : int? (get "size_bytes" asset) = some (content.length : ℤ)
  sha256 : ∃ s, text? (get "sha256" asset) = some s ∧ utf8 s = lib.sha256.hexdigest content

/-- The files of a manifest match, and those of its models are valid. -/
structure FilesMatch (board : Board) (lib : Libraries) (files : Files) (directory : CString)
    (manifest : Dict String (Value D)) : Prop where
  hashes : ∀ asset ∈ hashesOf (root manifest),
    ∃ content, FileMatches lib files directory (some asset) content
  metadata : ∀ model ∈ modelsOf (root manifest),
    ∃ content, FileMatches lib files directory (get "metadata" (some model)) content
  model : ∀ model ∈ modelsOf (root manifest),
    ∃ content, FileMatches lib files directory (get "model" (some model)) content ∧
      validateModelAsset board lib content = true

/-- The device takes an asset: its path is safe and fits a buffer of `size` bytes, and its size is a number
that an `int` holds. -/
structure AssetFits (directory : CString) (size : ℕ) (asset : Option (Value D)) : Prop where
  path : ∃ path, text? (get "path" asset) = some path ∧ SafeRelativeAssetPath (.ofText path) ∧
    (inDirectory directory (.ofText path)).length < size
  sizeBytes : ∃ n : ℤ, get "size_bytes" asset = some (.atom (.int n)) ∧ n ≤ 2147483647

/-- A model's role, as the device reads it. -/
def deviceRole (model : Value D) : CString :=
  ((text? (get "role" (some model))).map CString.ofText).getD .empty

/-- The texts of a list, as the device reads them. -/
def deviceTexts (value : Option (Value D)) : List CString :=
  ((list? value).getD []).filterMap fun item => (text? (some item)).map CString.ofText

/-- The partitions that a manifest requires, as the device reads them. -/
def devicePartitions (manifest : Option (Value D)) : List CString :=
  deviceTexts (get "requires_partitions" (get "compatibility" manifest))

/-- The partitions of the schema are required. -/
def PartitionsFit (board : Board) (manifest : Option (Value D)) : Prop :=
  if singleModelSchema board then .ofText "model" ∈ devicePartitions manifest
  else
    .ofText "model_a" ∈ devicePartitions manifest ∧ .ofText "model_b" ∈ devicePartitions manifest

/-- Among the first two models there is one that stops playback, and one that does not. -/
structure RolesFit (manifest : Option (Value D)) : Prop where
  wake : ∃ model ∈ (modelsOf manifest).take kMaxLoadedModels, deviceRole model ≠ .ofText "playback_stop"
  stop : ∃ model ∈ (modelsOf manifest).take kMaxLoadedModels, deviceRole model = .ofText "playback_stop"

/-- The device takes the content: a bundle id and a version that do not begin with NUL, assets that fit, and
models of both roles. -/
structure Fits (directory : CString) (manifest : Option (Value D)) : Prop where
  bundleId : ∃ s, text? (get "bundle_id" manifest) = some s ∧ CString.ofText s ≠ .empty
  version : ∃ s, text? (get "version" manifest) = some s ∧ CString.ofText s ≠ .empty
  hashed : ∀ asset ∈ hashesOf manifest, AssetFits directory 256 (some asset)
  metadata : ∀ model ∈ (modelsOf manifest).take kMaxLoadedModels,
    AssetFits directory 192 (get "metadata" (some model))
  model : ∀ model ∈ (modelsOf manifest).take kMaxLoadedModels,
    AssetFits directory 192 (get "model" (some model))
  roles : RolesFit manifest

/-- The device can read the manifest. -/
structure Readable (lib : Libraries) (directory : CString) (text : List UInt8)
    (manifest : Dict String (Value D)) : Prop where
  directory_ne : directory ≠ .empty
  fits : (manifestPath directory).length < 256
  parses : lib.parse text = some (document manifest)

/-- The set is loaded, or rejected for its signature. -/
def NotRejected (board : Board) (lib : Libraries) (files : Files) (directory : CString) : Prop :=
  Excused (· ∈ signatureErrors) (loadModelSetFromDirectory board lib files directory)

/-- The models that the device selects have both roles. -/
def SelectsBothRoles (manifest : CJson) : Prop :=
  ∃ models, items? (manifest.getObjectItem "models") = some models ∧
    (∃ selected ∈ selectModels models kMaxLoadedModels, modelRole selected.1 = .wake) ∧
    ∃ selected ∈ selectModels models kMaxLoadedModels, modelRole selected.1 = .playbackStop

/-- The device takes a manifest that it can read: it requires the partitions of the schema, has models of
both roles and, if its signature is accepted, content that fits. Where a key is taken for another one,
what is found under it must pass the checks of the device. -/
def DeviceTakes (board : Board) (lib : Libraries) (files : Files) (directory : CString)
    (manifest : Dict String (Value D)) : Prop :=
  (KeysFound manifest → PartitionsFit board (root manifest) ∧ RolesFit (root manifest) ∧
    (verifyManifestSignature board lib (document manifest) = .ok () →
      Fits directory (root manifest))) ∧
  (¬ KeysFound manifest → manifestCompatible board (document manifest).root = .ok () ∧
    SelectsBothRoles (document manifest).root ∧
    (verifyManifestSignature board lib (document manifest) = .ok () →
      ∃ hashes models, ContentFits board lib files directory (document manifest).root hashes models))

/-! ### Lookups -/

section lookups

variable {name : String} {entries : List (String × Value D)}

theorem entriesOnDevice_eq (entries : List (String × Value D)) :
    entriesOnDevice entries = entries.map fun entry => (.ofText entry.1, onDevice entry.2) := by
  induction entries with
  | nil => rfl
  | cons entry entries ih =>
    rcases entry with ⟨key, value⟩
    rw [entriesOnDevice, entryOnDevice, ih, List.map_cons]

theorem itemsOnDevice_eq (items : List (Value D)) : itemsOnDevice items = items.map onDevice := by
  induction items with
  | nil => rfl
  | cons item items ih => rw [itemsOnDevice, ih, List.map_cons]

/-- A name as the device compares it. -/
def folded (name : String) : List UInt8 := (name.toList.map fun c => c.toNat.toUInt8).map lowerByte

theorem lookup_eq_find? (hname : (CString.ofText name).bytes.map lowerByte = folded name)
    (h : Finds name (some (.obj entries))) :
    entries.lookup name = (entries.find? fun entry =>
      (CString.ofText entry.1).bytes.map lowerByte = folded name).map (·.2) := by
  have hfirst : ∀ entry, entries.find? (fun entry =>
      (CString.ofText entry.1).bytes.map lowerByte = folded name) = some entry → entry.1 = name :=
    fun entry => h entries entry rfl
  clear h
  induction entries with
  | nil => rfl
  | cons entry entries ih =>
    by_cases halike : (CString.ofText entry.1).bytes.map lowerByte = folded name
    · have hfind := List.find?_cons_of_pos (l := entries)
        (p := fun entry : String × Value D =>
          (CString.ofText entry.1).bytes.map lowerByte = folded name) (decide_eq_true halike)
      rw [hfind]
      rw [List.lookup_cons, ← hfirst entry hfind]
      simp
    · have hfind := List.find?_cons_of_neg (l := entries)
        (p := fun entry : String × Value D =>
          (CString.ofText entry.1).bytes.map lowerByte = folded name)
        (by rwa [decide_eq_true_eq])
      rw [hfind] at hfirst ⊢
      have hne : (name == entry.1) = false := by
        rw [beq_eq_false_iff_ne]
        rintro rfl
        exact halike hname
      rw [List.lookup_cons, hne]
      exact ih hfirst

/-- The names that are looked up. -/
def names : List String :=
  ["schema_version", "model_api_version", "security_policy", "compatibility", "hashes", "bundle_id",
    "version", "models", "board_profiles", "partition_schemas", "requires_partitions", "path",
    "sha256", "size_bytes", "role", "metadata", "model"]

theorem folded_names : ∀ name ∈ names,
    (CString.ofText name).bytes.map lowerByte = folded name := by
  decide +kernel

/-- **The device finds what Python finds.** -/
theorem getObjectItem_onDevice (value : Value D) (hname : name ∈ names) (h : Finds name (some value)) :
    (onDevice value).getObjectItem name = (get name (some value)).map onDevice := by
  cases value with
  | obj entries =>
    rw [onDevice, entriesOnDevice_eq, getObjectItem, List.find?_map, Option.map_map]
    show _ = (entries.lookup name).map onDevice
    rw [lookup_eq_find? (folded_names name hname) h, Option.map_map]
    rfl
  | atom a => cases a <;> rfl
  | str s => rfl
  | arr items => rfl

theorem string?_onDevice (value : Option (Value D)) :
    string? (value.map onDevice) = (text? value).map .ofText := by
  rcases value with _ | (a | s | items | entries)
  · rfl
  · cases a <;> rfl
  · rfl
  · rfl
  · rfl

theorem items?_onDevice (value : Option (Value D)) :
    items? (value.map onDevice) = (list? value).map itemsOnDevice := by
  rcases value with _ | (a | s | items | entries)
  · rfl
  · cases a <;> rfl
  · rfl
  · rfl
  · rfl

theorem jsonString_onDevice (value : Value D) (hname : name ∈ names) (h : Finds name (some value)) :
    jsonString (onDevice value) name = (text? (get name (some value))).map .ofText := by
  rw [jsonString, getObjectItem_onDevice value hname h, string?_onDevice]

end lookups

/-! ### Assets -/

section assets

variable {board : Board} {lib : Libraries} {files : Files} {directory : CString} {size : ℕ}
variable {asset : Value D} {content : List UInt8}

theorem lowerHex_hexDigit : ∀ n : UInt8, n < 16 →
    ((48 ≤ JsonBytes.hexDigit n && JsonBytes.hexDigit n ≤ 57) ||
      (97 ≤ JsonBytes.hexDigit n && JsonBytes.hexDigit n ≤ 102)) = true := by
  decide +kernel

theorem lowerHex_hexDigits {b c : UInt8}
    (hc : c ∈ [JsonBytes.hexDigit (b / 16), JsonBytes.hexDigit (b % 16)]) :
    ((48 ≤ c && c ≤ 57) || (97 ≤ c && c ≤ 102)) = true := by
  have hb := b.toNat_lt
  simp only [List.mem_cons, List.not_mem_nil, or_false] at hc
  rcases hc with rfl | rfl
  · apply lowerHex_hexDigit
    rw [UInt8.lt_iff_toNat_lt, UInt8.toNat_div]
    show b.toNat / 16 < 16
    omega
  · apply lowerHex_hexDigit
    rw [UInt8.lt_iff_toNat_lt, UInt8.toNat_mod]
    show b.toNat % 16 < 16
    omega

/-- A printed digest is one that the device takes. -/
theorem validHexSha256_of_hexdigest {s : CString} (h : s.bytes = lib.sha256.hexdigest content) :
    validHexSha256 s = true := by
  rw [validHexSha256, CString.length, h, Bool.and_eq_true, decide_eq_true_eq]
  constructor
  · rw [Sha256.hexdigest, length_bytesToHex, lib.sha256.length_digest]
  · refine List.all_eq_true.mpr fun c hc => ?_
    obtain ⟨b, -, hc⟩ := List.mem_flatMap.mp hc
    exact lowerHex_hexDigits hc

theorem zero_notMem_hexdigest : 0 ∉ lib.sha256.hexdigest content := by
  intro h
  obtain ⟨b, -, hzero⟩ := List.mem_flatMap.mp h
  exact absurd (lowerHex_hexDigits hzero) (by decide)

/-- The size as the device reads it, of an integer in Python. -/
theorem number?_onDevice_iff {value : Option (Value D)} {n m : ℤ} (h : int? value = some n) :
    number? (value.map onDevice) = some m ↔ value = some (.atom (.int n)) ∧ m = saturate n := by
  unfold int? at h
  split at h
  · next k =>
    cases h
    constructor
    · rintro ⟨⟩
      exact ⟨rfl, rfl⟩
    · rintro ⟨-, rfl⟩
      rfl
  · refine iff_of_false (fun hnumber => by cases hnumber) ?_
    rintro ⟨⟨⟩, -⟩
  · cases h

theorem toNat_saturate_iff {n : ℕ} (h : 0 < n) :
    (n = (saturate n).toNat ∧ 0 < saturate n) ↔ (n : ℤ) ≤ 2147483647 := by
  unfold saturate
  omega

/-- **The device takes an asset** whose file matches exactly if the asset fits. -/
theorem assetLoads_iff (hfound : AssetFound (some asset)) (hpos : content ≠ [])
    (hmatches : FileMatches lib files directory (some asset) content) :
    AssetLoads lib files directory size (some (onDevice asset)) content ↔
      AssetFits directory size (some asset) := by
  have hpath := jsonString_onDevice asset (show "path" ∈ names by decide) (hfound _ (by decide))
  have hsha := jsonString_onDevice asset (show "sha256" ∈ names by decide) (hfound _ (by decide))
  have hsize := getObjectItem_onDevice asset (show "size_bytes" ∈ names by decide)
    (hfound _ (by decide))
  obtain ⟨path, htext, -, hfile⟩ := hmatches.found
  obtain ⟨s, hs, hdigest⟩ := hmatches.sha256
  rw [htext] at hpath
  rw [hs] at hsha
  have hlength : 0 < content.length := List.length_pos_iff.mpr hpos
  constructor
  · rintro ⟨_, item, ⟨⟩, hresolves, hverified⟩
    have hrelative : CString.ofText path = item.relativePath :=
      Option.some_inj.mp (hpath.symm.trans hresolves.path)
    have hnumber := hresolves.sizeBytes
    rw [hsize, number?_onDevice_iff hmatches.size] at hnumber
    obtain ⟨hint, hsaturated⟩ := hnumber
    refine ⟨⟨path, htext, hrelative ▸ hresolves.safe, hrelative ▸ hresolves.fits⟩, _, hint, ?_⟩
    have hlen := hverified.length
    have hposs := hresolves.pos
    rw [hsaturated] at hlen hposs
    exact (toNat_saturate_iff hlength).mp ⟨hlen, hposs⟩
  · rintro ⟨⟨path', htext', hsafe, hfits⟩, n, hint, hle⟩
    rw [htext, Option.some_inj] at htext'
    subst htext'
    have hn : n = content.length := by
      have hsame := hmatches.size
      rw [hint] at hsame
      exact Option.some_inj.mp hsame
    subst hn
    obtain ⟨hlen, hposs⟩ := (toNat_saturate_iff hlength).mpr hle
    have hbytes : (CString.ofText s).bytes = lib.sha256.hexdigest content := by
      rw [CString.bytes_ofText (by rw [hdigest]; exact zero_notMem_hexdigest), hdigest]
    refine ⟨_, ⟨.ofText path, .ofText s, saturate content.length, _⟩, rfl,
      ⟨hpath, hsha, ?_, hsafe, hfits, validHexSha256_of_hexdigest hbytes, hposs, rfl⟩,
      ⟨hfile, hlen, hbytes.symm⟩⟩
    rw [hsize]
    exact (number?_onDevice_iff hmatches.size).mpr ⟨hint, rfl⟩

end assets

/-! ### What is accepted -/

theorem check_eq_nil_iff {passed : Bool} {error : String} : check passed error = [] ↔ passed = true := by
  cases passed
  · exact iff_of_false (by simp [check]) (by decide)
  · exact iff_of_true rfl rfl

/-- What is known of an asset that is accepted. -/
structure AssetAccepted (asset : Option (Value D)) : Prop where
  mapping : isMapping asset = true
  size : ∃ n, int? (get "size_bytes" asset) = some n ∧ 0 < n

theorem assetAccepted_of_validateAsset {asset : Option (Value D)} {label : String}
    (h : validateAsset asset label = []) : AssetAccepted asset := by
  unfold validateAsset at h
  split at h
  · next hmapping =>
    simp only [List.append_eq_nil_iff, check_eq_nil_iff] at h
    obtain ⟨n, hn, hpos⟩ := (Option.any_eq_true _ _).mp h.1.2
    exact ⟨hmapping, n, hn, by simpa using hpos⟩
  · cases h

/-- What is known of a model that is accepted. -/
structure ModelAccepted (model : Value D) : Prop where
  role : ∃ role, text? (get "role" (some model)) = some role
  metadata : AssetAccepted (get "metadata" (some model))
  model : AssetAccepted (get "model" (some model))

theorem modelAccepted_of_validateModel {index : ℕ} {model : Value D}
    (h : validateModel index model = []) : ModelAccepted model := by
  unfold validateModel at h
  split at h
  · simp only [List.append_eq_nil_iff, check_eq_nil_iff, List.flatMap_eq_nil_iff] at h
    obtain ⟨⟨⟨⟨hfilled, -⟩, hmetadata⟩, hmodel⟩, -⟩ := h
    obtain ⟨role, hrole, -⟩ := (Option.any_eq_true _ _).mp (hfilled "role" (by decide))
    exact ⟨⟨role, hrole⟩, assetAccepted_of_validateAsset hmetadata,
      assetAccepted_of_validateAsset hmodel⟩
  · cases h

/-- What is known of a manifest that is accepted. -/
structure Accepted (manifest : Option (Value D)) : Prop where
  schemaVersion : text? (get "schema_version" manifest) = some "hexe-model-bundle-v1"
  modelApiVersion : text? (get "model_api_version" manifest) = some "hexe-model-bundle-api-v1"
  securityPolicy : text? (get "security_policy" manifest) = some "signed_manifest_sha256_required"
  bundleId : ∃ s, text? (get "bundle_id" manifest) = some s
  version : ∃ s, text? (get "version" manifest) = some s
  compatibility : isMapping (get "compatibility" manifest) = true
  hashes : ∃ hashes, list? (get "hashes" manifest) = some hashes ∧ hashes ≠ [] ∧
    ∀ asset ∈ hashes, AssetAccepted (some asset)
  models : ∃ models, list? (get "models" manifest) = some models ∧
    ∀ model ∈ models, ModelAccepted model

theorem of_mapIdx_flatten_eq_nil {α β : Type} {f : ℕ → α → List β} {l : List α}
    (h : (l.mapIdx f).flatten = []) {a : α} (ha : a ∈ l) : ∃ index, f index a = [] := by
  obtain ⟨index, hindex, rfl⟩ := List.mem_iff_getElem.mp ha
  refine ⟨index, List.flatten_eq_nil_iff.mp h _ (List.mem_iff_getElem.mpr ⟨index, ?_, ?_⟩)⟩
  · rwa [List.length_mapIdx]
  · exact List.getElem_mapIdx

theorem accepted_of_validate {manifest : Dict String (Value D)}
    (h : validateModelBundleManifest manifest = .ok []) : Accepted (root manifest) := by
  unfold validateModelBundleManifest at h
  dsimp only at h
  split at h
  · rw [Except.ok.injEq] at h
    simp only [List.append_eq_nil_iff, List.flatMap_eq_nil_iff] at h
    obtain ⟨⟨⟨⟨⟨⟨⟨⟨hschema, hapi⟩, hpolicy⟩, hfilled⟩, hcompatibility⟩, -⟩, hmodels⟩, hhashes⟩, -⟩ := h
    have htext : ∀ key ∈ ["bundle_id", "version", "created_at_utc", "release_channel"],
        ∃ s, text? (get key (root manifest)) = some s := by
      intro key hkey
      obtain ⟨s, hs, -⟩ := (Option.any_eq_true _ _).mp (check_eq_nil_iff.mp (hfilled key hkey))
      exact ⟨s, hs⟩
    unfold requireEqual at hschema hapi hpolicy
    simp only [check_eq_nil_iff, decide_eq_true_eq] at hschema hapi hpolicy
    have hmapping : isMapping (get "compatibility" (root manifest)) = true := by
      by_contra hnot
      rw [validateCompatibility, if_neg hnot] at hcompatibility
      cases hcompatibility
    refine ⟨hschema, hapi, hpolicy, htext _ (by decide), htext _ (by decide), hmapping, ?_, ?_⟩
    · unfold validateHashes at hhashes
      simp only [List.append_eq_nil_iff, check_eq_nil_iff] at hhashes
      obtain ⟨hne, heach⟩ := hhashes
      cases hlist : list? (get "hashes" (root manifest)) with
      | none =>
        rw [hlist] at hne
        cases hne
      | some hashes =>
        rw [hlist, Option.getD_some] at hne heach
        refine ⟨hashes, rfl, by simpa using hne, fun asset hasset => ?_⟩
        obtain ⟨index, hasset⟩ := of_mapIdx_flatten_eq_nil heach hasset
        exact assetAccepted_of_validateAsset hasset
    · unfold validateModels at hmodels
      simp only [List.append_eq_nil_iff, check_eq_nil_iff] at hmodels
      obtain ⟨⟨⟨hne, -⟩, -⟩, heach⟩ := hmodels
      unfold modelsOf at hne heach
      cases hlist : list? (get "models" (root manifest)) with
      | none =>
        rw [hlist] at hne
        cases hne
      | some models =>
        rw [hlist, Option.getD_some] at heach
        refine ⟨models, rfl, fun model hmodel => ?_⟩
        obtain ⟨index, hmodel⟩ := of_mapIdx_flatten_eq_nil heach hmodel
        exact modelAccepted_of_validateModel hmodel
  · cases h

/-! ### The manifest on the device -/

section device

variable {board : Board} {lib : Libraries} {files : Files} {directory : CString}
variable {manifest : Dict String (Value D)}

theorem jsonStringArrayContains_onDevice (value : Option (Value D)) (needle : String) :
    jsonStringArrayContains (value.map onDevice) needle = true ↔ .ofText needle ∈ deviceTexts value := by
  rw [jsonStringArrayContains, items?_onDevice, deviceTexts]
  cases list? value with
  | none => simp
  | some items =>
    rw [Option.map_some, Option.any_some, itemsOnDevice_eq, List.any_map, List.any_eq_true,
      Option.getD_some, List.mem_filterMap]
    constructor
    · rintro ⟨item, hmem, hitem⟩
      refine ⟨item, hmem, ?_⟩
      rw [← string?_onDevice]
      exact of_decide_eq_true hitem
    · rintro ⟨item, hmem, hitem⟩
      refine ⟨item, hmem, ?_⟩
      rw [← string?_onDevice] at hitem
      exact decide_eq_true hitem

theorem mem_deviceTexts_of_listContains {value : Option (Value D)} {name : String}
    (h : listContains value name = true) : CString.ofText name ∈ deviceTexts value := by
  obtain ⟨items, hitems, hany⟩ := (Option.any_eq_true _ _).mp h
  obtain ⟨item, hmem, hitem⟩ := List.any_eq_true.mp hany
  rw [deviceTexts, hitems]
  refine List.mem_filterMap.mpr ⟨item, hmem, ?_⟩
  rw [of_decide_eq_true hitem]
  rfl

theorem jsonString_document (hfound : KeysFound manifest) {name : String}
    (hname : name ∈ ["schema_version", "model_api_version", "security_policy", "compatibility", "hashes",
      "bundle_id", "version", "models"]) :
    jsonString (document manifest).root name = (text? (get name (root manifest))).map .ofText :=
  jsonString_onDevice _ (List.mem_append_left ["board_profiles", "partition_schemas",
    "requires_partitions", "path", "sha256", "size_bytes", "role", "metadata", "model"] hname)
    (hfound.root name hname)

theorem getObjectItem_document (hfound : KeysFound manifest) {name : String}
    (hname : name ∈ ["schema_version", "model_api_version", "security_policy", "compatibility", "hashes",
      "bundle_id", "version", "models"]) :
    (document manifest).root.getObjectItem name = (get name (root manifest)).map onDevice :=
  getObjectItem_onDevice _ (List.mem_append_left ["board_profiles", "partition_schemas",
    "requires_partitions", "path", "sha256", "size_bytes", "role", "metadata", "model"] hname)
    (hfound.root name hname)

/-- **An accepted manifest is compatible** exactly if it requires the partitions of the schema. -/
theorem manifestCompatible_iff (haccepted : Accepted (root manifest)) (hfound : KeysFound manifest)
    (hboard : listContains (get "board_profiles" (get "compatibility" (root manifest)))
      board.kBoardProfile = true)
    (hschema : listContains (get "partition_schemas" (get "compatibility" (root manifest)))
      board.kPartitionSchema = true) :
    manifestCompatible board (document manifest).root = .ok () ↔ PartitionsFit board (root manifest) := by
  cases hvalue : get "compatibility" (root manifest) with
  | none =>
    have hmapping := haccepted.compatibility
    rw [hvalue] at hmapping
    cases hmapping
  | some value =>
    have hobject : (onDevice value).isObject = true := by
      have hmapping := haccepted.compatibility
      rw [hvalue] at hmapping
      cases value with
      | obj entries => rfl
      | _ => cases hmapping
    have hitem : (((document manifest).root.getObjectItem "compatibility").filter isObject) =
        some (onDevice value) := by
      rw [getObjectItem_document hfound (by decide), hvalue]
      exact Option.filter_eq_some_iff.mpr ⟨rfl, hobject⟩
    have hcontains : ∀ name ∈ ["board_profiles", "partition_schemas", "requires_partitions"],
        ∀ needle, jsonStringArrayContains ((onDevice value).getObjectItem name) needle = true ↔
          .ofText needle ∈ deviceTexts (get name (some value)) := by
      intro name hname needle
      have hfinds := hfound.compatibility name hname
      rw [hvalue] at hfinds
      have hnames : name ∈ names := by
        simp only [List.mem_cons, List.not_mem_nil, or_false] at hname
        rcases hname with rfl | rfl | rfl <;> decide
      rw [getObjectItem_onDevice value hnames hfinds, jsonStringArrayContains_onDevice]
    have hstrings : (jsonStringEquals (document manifest).root "schema_version"
          kModelBundleSchemaVersion &&
        jsonStringEquals (document manifest).root "model_api_version" kModelApiVersion &&
        jsonStringEquals (document manifest).root "security_policy" kModelBundleSecurityPolicy) =
          true := by
      unfold jsonStringEquals
      rw [jsonString_document hfound (by decide), haccepted.schemaVersion,
        jsonString_document hfound (by decide), haccepted.modelApiVersion,
        jsonString_document hfound (by decide), haccepted.securityPolicy]
      decide +kernel
    rw [hvalue] at hboard hschema
    have hboards : jsonStringArrayContains ((onDevice value).getObjectItem "board_profiles")
        board.kBoardProfile = true :=
      (hcontains _ (by decide) _).mpr (mem_deviceTexts_of_listContains hboard)
    have hschemas : jsonStringArrayContains ((onDevice value).getObjectItem "partition_schemas")
        board.kPartitionSchema = true :=
      (hcontains _ (by decide) _).mpr (mem_deviceTexts_of_listContains hschema)
    have hpartitions : RequiresModelPartitions board
        ((onDevice value).getObjectItem "requires_partitions") = true ↔
          PartitionsFit board (root manifest) := by
      unfold RequiresModelPartitions PartitionsFit devicePartitions
      rw [hvalue]
      split
      · exact hcontains _ (by decide) _
      · rw [Bool.and_eq_true, hcontains _ (by decide), hcontains _ (by decide)]
    rw [← hpartitions, manifestCompatible]
    constructor
    · intro h
      obtain ⟨_, -, h⟩ := bind_eq_ok.mp h
      obtain ⟨item, hsome, h⟩ := bind_eq_ok.mp h
      rw [orReject_eq_ok, hitem, Option.some_inj] at hsome
      subst hsome
      obtain ⟨_, -, h⟩ := bind_eq_ok.mp h
      obtain ⟨_, -, h⟩ := bind_eq_ok.mp h
      exact ensure_eq_ok.mp h
    · intro h
      refine bind_eq_ok.mpr ⟨(), ensure_eq_ok.mpr hstrings, ?_⟩
      refine bind_eq_ok.mpr ⟨_, orReject_eq_ok.mpr hitem, ?_⟩
      exact bind_eq_ok.mpr ⟨(), ensure_eq_ok.mpr hboards,
        bind_eq_ok.mpr ⟨(), ensure_eq_ok.mpr hschemas, ensure_eq_ok.mpr h⟩⟩

/-- A role is found under its own name. -/
theorem roleOf_onDevice {model : Value D} (haccepted : ModelAccepted model)
    (hfound : Finds "role" (some model)) : roleOf (onDevice model) = some (deviceRole model) := by
  obtain ⟨role, hrole⟩ := haccepted.role
  rw [roleOf, jsonString_onDevice model (by decide) hfound, deviceRole, hrole]
  rfl

/-- **The device selects the first models** of an accepted manifest. -/
theorem selectModels_onDevice {models : List (Value D)} (haccepted : ∀ model ∈ models, ModelAccepted model)
    (hfound : ∀ model ∈ models, Finds "role" (some model)) (n : ℕ) :
    selectModels (models.map onDevice) n =
      (models.take n).map fun model => (deviceRole model, onDevice model) := by
  have hall : (models.map onDevice).filterMap (fun model => (roleOf model).map (·, model)) =
      models.map fun model => (deviceRole model, onDevice model) := by
    rw [List.filterMap_map, ← List.filterMap_eq_map]
    refine List.filterMap_congr fun model hmodel => ?_
    rw [Function.comp_apply, roleOf_onDevice (haccepted model hmodel) (hfound model hmodel)]
    rfl
  rw [selectModels, hall, List.map_take]

/-- An accepted asset whose file matches has a file that is not empty. -/
theorem ne_nil_of_matches {asset : Option (Value D)} {content : List UInt8} (haccepted : AssetAccepted asset)
    (hmatches : FileMatches lib files directory asset content) : content ≠ [] := by
  obtain ⟨n, hn, hpos⟩ := haccepted.size
  rintro rfl
  rw [hmatches.size, Option.some_inj] at hn
  rw [← hn] at hpos
  exact absurd hpos (by decide)

/-- The file of an asset is the only one that matches. -/
theorem eq_of_assetLoads {size : ℕ} {asset : Value D} {content content' : List UInt8}
    (hfound : AssetFound (some asset)) (hmatches : FileMatches lib files directory (some asset) content)
    (h : AssetLoads lib files directory size (some (onDevice asset)) content') : content' = content := by
  obtain ⟨_, item, ⟨⟩, hresolves, hverified⟩ := h
  obtain ⟨path, htext, -, hfile⟩ := hmatches.found
  have hpath := jsonString_onDevice asset (show "path" ∈ names by decide) (hfound _ (by decide))
  rw [htext] at hpath
  have hrelative : CString.ofText path = item.relativePath :=
    Option.some_inj.mp (hpath.symm.trans hresolves.path)
  rw [hrelative, ← hresolves.resolved, hverified.found, Option.some_inj] at hfile
  exact hfile

/-- **The device takes an accepted asset**, with a file of some kind that matches, exactly if the asset
fits. -/
theorem exists_assetLoads_iff {size : ℕ} {item : Option (Value D)} {p : List UInt8 → Prop}
    (hfound : AssetFound item) (haccepted : AssetAccepted item)
    (h : ∃ content, FileMatches lib files directory item content ∧ p content) :
    (∃ content, AssetLoads lib files directory size (item.map onDevice) content ∧ p content) ↔
      AssetFits directory size item := by
  obtain ⟨content, hmatches, hp⟩ := h
  cases item with
  | none => cases haccepted.mapping
  | some asset =>
    have hiff : AssetLoads lib files directory size (some (onDevice asset)) content ↔
        AssetFits directory size (some asset) :=
      assetLoads_iff hfound (ne_nil_of_matches haccepted hmatches) hmatches
    rw [← hiff]
    constructor
    · rintro ⟨content', hloads, -⟩
      rw [← eq_of_assetLoads hfound hmatches hloads]
      exact hloads
    · exact fun hloads => ⟨content, hloads, hp⟩

theorem modelRole_eq_wake_iff {role : CString} :
    modelRole role = .wake ↔ role ≠ .ofText "playback_stop" := by
  unfold modelRole
  split
  · next h => exact iff_of_false (by decide) (not_not_intro h)
  · next h => exact iff_of_true rfl h

theorem modelRole_eq_playbackStop_iff {role : CString} :
    modelRole role = .playbackStop ↔ role = .ofText "playback_stop" := by
  unfold modelRole
  split
  · next h => exact iff_of_true rfl h
  · next h => exact iff_of_false (by decide) h

/-- **The selection has both roles** exactly if the first two models have. -/
theorem selectsBothRoles_iff (haccepted : Accepted (root manifest)) (hfound : KeysFound manifest) :
    SelectsBothRoles (document manifest).root ↔ RolesFit (root manifest) := by
  obtain ⟨models, hmodels, hmodel⟩ := haccepted.models
  have hmodelsOf : modelsOf (root manifest) = models := by rw [modelsOf, hmodels, Option.getD_some]
  have hlisted : items? ((document manifest).root.getObjectItem "models") =
      some (models.map onDevice) := by
    rw [getObjectItem_document hfound (by decide), items?_onDevice, hmodels, Option.map_some,
      itemsOnDevice_eq]
  have hfoundModels := hfound.models
  rw [hmodelsOf] at hfoundModels
  have hrole : ∀ role, (∃ selected ∈ selectModels (models.map onDevice) kMaxLoadedModels,
      modelRole selected.1 = role) ↔
        ∃ model ∈ models.take kMaxLoadedModels, modelRole (deviceRole model) = role := by
    intro role
    rw [selectModels_onDevice hmodel fun model hmem => (hfoundModels model hmem).1 _ (by decide)]
    simp only [List.mem_map, exists_exists_and_eq_and]
  constructor
  · rintro ⟨_, hitems, hwake, hstop⟩
    rw [hlisted, Option.some_inj] at hitems
    subst hitems
    rw [hrole] at hwake hstop
    refine ⟨?_, ?_⟩
    · rw [hmodelsOf]
      simpa only [modelRole_eq_wake_iff] using hwake
    · rw [hmodelsOf]
      simpa only [modelRole_eq_playbackStop_iff] using hstop
  · rintro ⟨hwake, hstop⟩
    rw [hmodelsOf] at hwake hstop
    refine ⟨_, hlisted, (hrole _).mpr ?_, (hrole _).mpr ?_⟩
    · simpa only [modelRole_eq_wake_iff] using hwake
    · simpa only [modelRole_eq_playbackStop_iff] using hstop

theorem ContentFits.selectsBothRoles {manifest : CJson} {hashes models : List CJson}
    (h : ContentFits board lib files directory manifest hashes models) : SelectsBothRoles manifest :=
  ⟨models, h.listedModels, h.wake, h.stop⟩

/-- **The device takes the content** of an accepted manifest whose files match exactly if it fits. -/
theorem contentFits_iff (haccepted : Accepted (root manifest)) (hfound : KeysFound manifest)
    (hfiles : FilesMatch board lib files directory manifest) :
    (∃ hashes models, ContentFits board lib files directory (document manifest).root hashes models) ↔
      Fits directory (root manifest) := by
  obtain ⟨hashes, hhashes, hne, heach⟩ := haccepted.hashes
  obtain ⟨models, hmodels, hmodel⟩ := haccepted.models
  have hhashesOf : hashesOf (root manifest) = hashes := by rw [hashesOf, hhashes, Option.getD_some]
  have hmodelsOf : modelsOf (root manifest) = models := by rw [modelsOf, hmodels, Option.getD_some]
  have hitems : items? ((document manifest).root.getObjectItem "hashes") =
      some (hashes.map onDevice) := by
    rw [getObjectItem_document hfound (by decide), items?_onDevice, hhashes, Option.map_some,
      itemsOnDevice_eq]
  have hlisted : items? ((document manifest).root.getObjectItem "models") =
      some (models.map onDevice) := by
    rw [getObjectItem_document hfound (by decide), items?_onDevice, hmodels, Option.map_some,
      itemsOnDevice_eq]
  have hfoundModels := hfound.models
  have hmatchHashes := hfiles.hashes
  have hmatchMetadata := hfiles.metadata
  have hmatchModel := hfiles.model
  have hfoundHashes := hfound.hashes
  rw [hmodelsOf] at hfoundModels hmatchMetadata hmatchModel
  rw [hhashesOf] at hmatchHashes hfoundHashes
  have hselect : selectModels (models.map onDevice) kMaxLoadedModels =
      (models.take kMaxLoadedModels).map fun model => (deviceRole model, onDevice model) :=
    selectModels_onDevice hmodel (fun model hmem => (hfoundModels model hmem).1 _ (by decide)) _
  have hmem : ∀ model ∈ models.take kMaxLoadedModels, model ∈ models :=
    fun model hmem => List.mem_of_mem_take hmem
  have htext : ∀ name ∈ ["schema_version", "model_api_version", "security_policy", "compatibility",
      "hashes", "bundle_id", "version", "models"],
      (∃ s, jsonString (document manifest).root name = some s ∧ s ≠ .empty) ↔
        ∃ s, text? (get name (root manifest)) = some s ∧ CString.ofText s ≠ .empty := by
    intro name hname
    rw [jsonString_document hfound hname]
    simp only [Option.map_eq_some_iff, exists_exists_and_eq_and]
  have hhashed : ∀ asset ∈ hashes,
      (∃ content, AssetLoads lib files directory 256 (some (onDevice asset)) content) ↔
        AssetFits directory 256 (some asset) := by
    intro asset hasset
    obtain ⟨content, hmatches⟩ := hmatchHashes asset hasset
    rw [← exists_assetLoads_iff (p := fun _ => True) (hfoundHashes asset hasset) (heach asset hasset)
      ⟨content, hmatches, trivial⟩]
    simp only [and_true, Option.map_some]
  have hmetadata : ∀ model ∈ models,
      (∃ content, AssetLoads lib files directory 192 ((onDevice model).getObjectItem "metadata")
        content) ↔ AssetFits directory 192 (get "metadata" (some model)) := by
    intro model hmem
    obtain ⟨hfinds, hmetadata, -⟩ := hfoundModels model hmem
    obtain ⟨content, hmatches⟩ := hmatchMetadata model hmem
    rw [getObjectItem_onDevice model (by decide) (hfinds "metadata" (by decide)),
      ← exists_assetLoads_iff (p := fun _ => True) hmetadata (hmodel model hmem).metadata
        ⟨content, hmatches, trivial⟩]
    simp only [and_true]
  have htflite : ∀ model ∈ models,
      (∃ content, AssetLoads lib files directory 192 ((onDevice model).getObjectItem "model") content ∧
        validateModelAsset board lib content = true) ↔
          AssetFits directory 192 (get "model" (some model)) := by
    intro model hmem
    obtain ⟨hfinds, -, hasset⟩ := hfoundModels model hmem
    rw [getObjectItem_onDevice model (by decide) (hfinds "model" (by decide))]
    exact exists_assetLoads_iff hasset (hmodel model hmem).model (hmatchModel model hmem)
  constructor
  · rintro ⟨hashes', models', h⟩
    have hsameHashes := h.listedHashes
    have hsameModels := h.listedModels
    rw [hitems, Option.some_inj] at hsameHashes
    rw [hlisted, Option.some_inj] at hsameModels
    subst hsameHashes hsameModels
    have hselected : ∀ model ∈ models.take kMaxLoadedModels, (deviceRole model, onDevice model) ∈
        selectModels (models.map onDevice) kMaxLoadedModels := by
      intro model hmodel
      rw [hselect]
      exact List.mem_map_of_mem hmodel
    refine ⟨(htext _ (by decide)).mp h.bundleId, (htext _ (by decide)).mp h.version, ?_, ?_, ?_,
      (selectsBothRoles_iff haccepted hfound).mp (ContentFits.selectsBothRoles h)⟩
    · rw [hhashesOf]
      intro asset hasset
      exact (hhashed asset hasset).mp (h.hashed _ (List.mem_map_of_mem hasset))
    · rw [hmodelsOf]
      intro model hmodel
      exact (hmetadata model (hmem model hmodel)).mp (h.metadata _ (hselected model hmodel))
    · rw [hmodelsOf]
      intro model hmodel
      exact (htflite model (hmem model hmodel)).mp (h.model _ (hselected model hmodel))
  · intro h
    have hfits := h.hashed
    have hfitsMetadata := h.metadata
    have hfitsModel := h.model
    rw [hhashesOf] at hfits
    rw [hmodelsOf] at hfitsMetadata hfitsModel
    obtain ⟨_, hselected, hwake, hstop⟩ := (selectsBothRoles_iff haccepted hfound).mpr h.roles
    rw [hlisted, Option.some_inj] at hselected
    subst hselected
    refine ⟨hashes.map onDevice, models.map onDevice, hitems, ?_, ?_, hlisted, ?_, ?_, hwake, hstop,
      (htext _ (by decide)).mpr h.bundleId, (htext _ (by decide)).mpr h.version⟩
    · rwa [Ne, List.map_eq_nil_iff]
    · rw [List.forall_mem_map]
      exact fun asset hasset => (hhashed asset hasset).mpr (hfits asset hasset)
    · rw [hselect, List.forall_mem_map]
      exact fun model hmodel => (hmetadata model (hmem model hmodel)).mpr (hfitsMetadata model hmodel)
    · rw [hselect, List.forall_mem_map]
      exact fun model hmodel => (htflite model (hmem model hmodel)).mpr (hfitsModel model hmodel)

/-- The manifest is read where the device can. -/
theorem exists_reads_iff {text : List UInt8} (hmanifest : files (manifestPath directory) = some text)
    (hne : text ≠ []) (hparse : lib.parse text = none ∨ lib.parse text = some (document manifest))
    {p : Document → Prop} :
    (∃ path content found, Reads lib files directory path content found ∧ p found) ↔
      Readable lib directory text manifest ∧ p (document manifest) := by
  have hsafe : SafeRelativeAssetPath kModelManifestFilename := by decide +kernel
  constructor
  · rintro ⟨path, content, found, hreads, hp⟩
    obtain ⟨-, hfits, rfl⟩ := joinPath_eq_some.mp hreads.joins
    obtain ⟨hcontent, -⟩ := loadFileToMemory_eq_some.mp hreads.found
    have hsame : content = text := Option.some_inj.mp (hcontent.symm.trans hmanifest)
    subst hsame
    have hparses := hreads.parses
    rcases hparse with hnone | hsome
    · rw [hnone] at hparses
      cases hparses
    · rw [hsome, Option.some_inj] at hparses
      subst hparses
      exact ⟨⟨hreads.directory_ne, hfits, hsome⟩, hp⟩
  · rintro ⟨⟨hdirectory, hfits, hparses⟩, hp⟩
    exact ⟨_, text, _, ⟨hdirectory, joinPath_eq_some.mpr ⟨hsafe, hfits, rfl⟩,
      loadFileToMemory_eq_some.mpr ⟨hmanifest, hne⟩, hparses⟩, hp⟩

/-- **A validated bundle whose files match is not rejected**, but for its signature, and both roles are
selected, exactly if the device can read and takes the manifest. -/
theorem validated_bundle_loads_iff (board : Board) (lib : Libraries) (files : Files)
    (directory : CString) (manifest : Dict String (Value D)) (text : List UInt8)
    (haccepted : validateModelBundleManifest manifest = .ok [])
    (hboard : listContains (get "board_profiles" (get "compatibility" (root manifest)))
      board.kBoardProfile = true)
    (hschema : listContains (get "partition_schemas" (get "compatibility" (root manifest)))
      board.kPartitionSchema = true)
    (hmanifest : files (manifestPath directory) = some text) (hne : text ≠ [])
    (hparse : lib.parse text = none ∨ lib.parse text = some (document manifest))
    (hfiles : FilesMatch board lib files directory manifest) :
    NotRejected board lib files directory ∧ SelectsBothRoles (document manifest).root ↔
      Readable lib directory text manifest ∧ DeviceTakes board lib files directory manifest := by
  have haccepted := accepted_of_validate haccepted
  have hsignature : Excused (· ∈ signatureErrors)
      (verifyManifestSignature board lib (document manifest)) :=
    fun code hcode => error_of_verifyManifestSignature hcode
  have hdevice : NotRejected board lib files directory ↔ Readable lib directory text manifest ∧
      manifestCompatible board (document manifest).root = .ok () ∧
      (verifyManifestSignature board lib (document manifest) = .ok () → ∃ hashes models,
        ContentFits board lib files directory (document manifest).root hashes models) := by
    rw [NotRejected, excused_load_iff fun _ h => h, exists_reads_iff hmanifest hne hparse,
      exists_contentLoads_iff]
    simp only [hsignature, true_and]
  rw [hdevice, DeviceTakes]
  by_cases hfound : KeysFound manifest
  · rw [manifestCompatible_iff haccepted hfound hboard hschema, contentFits_iff haccepted hfound hfiles,
      selectsBothRoles_iff haccepted hfound]
    constructor
    · rintro ⟨⟨hreadable, hpartitions, hfits⟩, hroles⟩
      exact ⟨hreadable, fun _ => ⟨hpartitions, hroles, hfits⟩, fun hnot => absurd hfound hnot⟩
    · rintro ⟨hreadable, htakes, -⟩
      obtain ⟨hpartitions, hroles, hfits⟩ := htakes hfound
      exact ⟨⟨hreadable, hpartitions, hfits⟩, hroles⟩
  · constructor
    · rintro ⟨⟨hreadable, hcompatible, hfits⟩, hroles⟩
      exact ⟨hreadable, fun hall => absurd hall hfound, fun _ => ⟨hcompatible, hroles, hfits⟩⟩
    · rintro ⟨hreadable, -, htakes⟩
      obtain ⟨hcompatible, hroles, hfits⟩ := htakes hfound
      exact ⟨⟨hreadable, hcompatible, hfits⟩, hroles⟩

end device

/-! ### Some manifests -/

def metadataAsset (path : String) : Value tenths :=
  .obj [("path", .str path), ("size_bytes", .atom (.int 2)), ("sha256", .str someMetadataSha256)]

def modelAsset (path : String) : Value tenths :=
  .obj [("path", .str path), ("size_bytes", .atom (.int 8)), ("sha256", .str someModelSha256)]

/-- A model with its files. -/
def modelEntry (id role wakeWord metadata model : String) : Value tenths :=
  .obj
    [("id", .str id), ("role", .str role), ("wake_word", .str wakeWord), ("source", .str "kitchen"),
      ("alias", .str "Hexe"), ("metadata", metadataAsset metadata), ("model", modelAsset model),
      ("thresholds", .obj (someThresholds 9 22348))]

def wakeEntry (id : String) : Value tenths := modelEntry id "wake" "Alexa" "wake.json" "wake.tflite"

def stopEntry : Value tenths := modelEntry "stop" "playback_stop" "Stop" "stop.json" "stop.tflite"

/-- A manifest of some models. -/
def manifestWith (models : List (Value tenths)) : Dict String (Value tenths) :=
  ⟨[("schema_version", .str "hexe-model-bundle-v1"),
    ("model_api_version", .str "hexe-model-bundle-api-v1"),
    ("security_policy", .str "signed_manifest_sha256_required"), ("bundle_id", .str "kitchen"),
    ("version", .str "1.0"), ("created_at_utc", .str "2026-09-06T00:00:00Z"),
    ("release_channel", .str "dev"),
    ("compatibility", .obj
      [("board_profiles", .arr [.str "box"]),
        ("partition_schemas", .arr [.str "s3-16m-recovery-single-model-v1"]),
        ("requires_partitions", .arr [.str "model"])]),
    ("preprocessing", .obj
      [("sample_rate_hz", .atom (.int 16000)), ("feature_step_size_ms", .atom (.int 10)),
        ("asset", modelAsset "wake.tflite")]),
    ("models", .arr models),
    ("hashes", .arr
      [metadataAsset "wake.json", modelAsset "wake.tflite", metadataAsset "stop.json",
        modelAsset "stop.tflite"]),
    ("signature", .obj
      [("algorithm", .str "hmac-sha256"), ("key_id", .str "dev"),
        ("scope", .str "canonical_manifest_without_signature"), ("value", .str someModelSha256)])]⟩

/-- The text that Python makes of the manifest. -/
def textWith (models : List (Value tenths)) : List UInt8 :=
  (encode (dumps (.obj (manifestWith models).entries))).data.toList

def librariesWith (models : List (Value tenths)) : Libraries where
  sha256 := .known [(someMetadata, someMetadataSha256), (someModel, someModelSha256)]
  parse text := if text = textWith models then some (document (manifestWith models)) else none
  tfliteVersion _ := 3

/-- Where the bundle is. -/
def someDirectory : CString := .ofText "/sdcard/hexe/model_sets/kitchen"

/-- What is in the directory besides the manifest does not depend on it. -/
theorem filesOf_of_ne {directory path : CString} {manifest : List UInt8}
    (h : path ≠ inDirectory directory (.ofText "manifest.json")) :
    filesOf directory manifest path = filesOf directory [] path := by
  simp [filesOf, List.find?_cons, h]

theorem filesOf_manifestPath {directory : CString} {manifest : List UInt8} :
    filesOf directory manifest (manifestPath directory) = some manifest := by
  simp [filesOf, manifestPath, kModelManifestFilename]

theorem metadata_matches (models : List (Value tenths)) {path : String}
    (h : path ∈ ["wake.json", "stop.json"]) :
    FileMatches (librariesWith models) (filesOf someDirectory (textWith models)) someDirectory
      (some (metadataAsset path)) someMetadata := by
  have hdigest : utf8 someMetadataSha256 = (librariesWith []).sha256.hexdigest someMetadata := by
    decide +kernel
  have hfile : ∀ path ∈ ["wake.json", "stop.json"], 0 ∉ utf8 path ∧
      inDirectory someDirectory (.ofText path) ≠ inDirectory someDirectory (.ofText "manifest.json") ∧
      filesOf someDirectory [] (inDirectory someDirectory (.ofText path)) = some someMetadata := by
    decide +kernel
  obtain ⟨hzero, hne, hcontent⟩ := hfile path h
  exact ⟨⟨path, rfl, hzero, (filesOf_of_ne hne).trans hcontent⟩, rfl, _, rfl, hdigest⟩

theorem model_matches (models : List (Value tenths)) {path : String}
    (h : path ∈ ["wake.tflite", "stop.tflite"]) :
    FileMatches (librariesWith models) (filesOf someDirectory (textWith models)) someDirectory
      (some (modelAsset path)) someModel := by
  have hdigest : utf8 someModelSha256 = (librariesWith []).sha256.hexdigest someModel := by
    decide +kernel
  have hfile : ∀ path ∈ ["wake.tflite", "stop.tflite"], 0 ∉ utf8 path ∧
      inDirectory someDirectory (.ofText path) ≠ inDirectory someDirectory (.ofText "manifest.json") ∧
      filesOf someDirectory [] (inDirectory someDirectory (.ofText path)) = some someModel := by
    decide +kernel
  obtain ⟨hzero, hne, hcontent⟩ := hfile path h
  exact ⟨⟨path, rfl, hzero, (filesOf_of_ne hne).trans hcontent⟩, rfl, _, rfl, hdigest⟩

theorem filesMatch_manifestWith {models : List (Value tenths)}
    (h : ∀ model ∈ models, model = stopEntry ∨ ∃ id, model = wakeEntry id) :
    FilesMatch someBoard (librariesWith models) (filesOf someDirectory (textWith models)) someDirectory
      (manifestWith models) where
  hashes asset hasset := by
    have hassets : hashesOf (root (manifestWith models)) =
        [metadataAsset "wake.json", modelAsset "wake.tflite", metadataAsset "stop.json",
          modelAsset "stop.tflite"] := rfl
    rw [hassets] at hasset
    simp only [List.mem_cons, List.not_mem_nil, or_false] at hasset
    rcases hasset with rfl | rfl | rfl | rfl
    · exact ⟨_, metadata_matches models (by decide)⟩
    · exact ⟨_, model_matches models (by decide)⟩
    · exact ⟨_, metadata_matches models (by decide)⟩
    · exact ⟨_, model_matches models (by decide)⟩
  metadata model hmodel := by
    rcases h model hmodel with rfl | ⟨id, rfl⟩
    · exact ⟨_, metadata_matches models (by decide : "stop.json" ∈ _)⟩
    · exact ⟨_, metadata_matches models (by decide : "wake.json" ∈ _)⟩
  model model hmodel := by
    have hvalid : validateModelAsset someBoard (librariesWith models) someModel = true := rfl
    rcases h model hmodel with rfl | ⟨id, rfl⟩
    · exact ⟨_, model_matches models (by decide : "stop.tflite" ∈ _), hvalid⟩
    · exact ⟨_, model_matches models (by decide : "wake.tflite" ∈ _), hvalid⟩

/-- One model for each role. -/
def someModels : List (Value tenths) := [wakeEntry "alexa", stopEntry]

/-- Two models that wake, and one that stops playback. -/
def threeModels : List (Value tenths) := [wakeEntry "alexa", wakeEntry "hexe", stopEntry]

theorem parse_textWith (models : List (Value tenths)) :
    (librariesWith models).parse (textWith models) = some (document (manifestWith models)) := by
  simp only [librariesWith, if_true]

theorem encode_ne_nil {text : List Char} (h : text ≠ []) : (encode text).data.toList ≠ [] := by
  intro hnil
  have hempty : String.ofList text = "" := by
    apply String.toByteArray_inj.mp
    apply ByteArray.ext
    exact Array.toList_inj.mp hnil
  exact h (String.ofList_eq_empty_iff.mp hempty)

theorem textWith_ne_nil (models : List (Value tenths)) : textWith models ≠ [] := by
  apply encode_ne_nil
  rw [dumps, JsonTree.print]
  exact List.cons_ne_nil _ _

theorem someModels_loads_iff :
    NotRejected someBoard (librariesWith someModels) (filesOf someDirectory (textWith someModels))
        someDirectory ∧ SelectsBothRoles (document (manifestWith someModels)).root ↔
      Readable (librariesWith someModels) someDirectory (textWith someModels) (manifestWith someModels) ∧
        DeviceTakes someBoard (librariesWith someModels)
          (filesOf someDirectory (textWith someModels)) someDirectory (manifestWith someModels) :=
  validated_bundle_loads_iff someBoard (librariesWith someModels)
    (filesOf someDirectory (textWith someModels)) someDirectory (manifestWith someModels)
    (textWith someModels) (by decide +kernel) (by decide +kernel) (by decide +kernel)
    filesOf_manifestPath (textWith_ne_nil someModels) (Or.inr (parse_textWith someModels))
    (filesMatch_manifestWith (by simp [someModels]))

/-- A validated bundle of three models, whose files match: the device only takes the first two, both of
which wake. -/
theorem third_model_not_selected :
    validateModelBundleManifest (manifestWith threeModels) = .ok [] ∧
    listContains (get "board_profiles" (get "compatibility" (root (manifestWith threeModels))))
      someBoard.kBoardProfile = true ∧
    listContains (get "partition_schemas" (get "compatibility" (root (manifestWith threeModels))))
      someBoard.kPartitionSchema = true ∧
    FilesMatch someBoard (librariesWith threeModels) (filesOf someDirectory (textWith threeModels))
      someDirectory (manifestWith threeModels) ∧
    ¬ (NotRejected someBoard (librariesWith threeModels)
        (filesOf someDirectory (textWith threeModels)) someDirectory ∧
      SelectsBothRoles (document (manifestWith threeModels)).root) := by
  have hselected : (items? ((document (manifestWith threeModels)).root.getObjectItem "models")).map
      (fun models => (selectModels models kMaxLoadedModels).map fun selected => modelRole selected.1) =
      some [.wake, .wake] := by
    decide +kernel
  refine ⟨by decide +kernel, by decide +kernel, by decide +kernel,
    filesMatch_manifestWith (by simp [threeModels]), fun hloads => ?_⟩
  obtain ⟨models, hmodels, -, selected, hmem, hrole⟩ := hloads.2
  rw [hmodels, Option.map_some, Option.some_inj] at hselected
  have hmem : .playbackStop ∈ [MicroWakeModelRole.wake, .wake] :=
    hselected ▸ List.mem_map.mpr ⟨selected, hmem, hrole⟩
  simp at hmem

end HexeVoice.Firmware.ModelValidation
