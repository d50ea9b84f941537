import HexeVoice.Firmware.ModelBundle
import HexeVoice.Library.Interrupted

/-!
# Refreshing the cache of models

`copy_manifest_assets_to_internal_cache` of `voice/model_bundle.cpp`, where every operation on files may
fail or be where power is lost, and `load_internal_single_model_cache`, which runs at the next start.

## The model

The state is what is on the internal partition; the SD card does not change. What an operation that works
has written stays there. An operation that fails moves nothing, a name that is too long for SPIFFS cannot
be created, and a partition that must be formatted holds no files. The next start can mount the partition,
and can save which bundle is active.

## What is proved

**`refresh_is_atomic_iff`**: of a verified bundle, the next start loads the old or the new bundle, however
the refresh is interrupted, exactly if the old bundle could be loaded and copying fails before it comes to
one of the files of that bundle: at an asset whose name is too long.
-/

namespace HexeVoice.Firmware.ModelCache

open HexeVoice.Library HexeVoice.Library.CJson HexeVoice.Library.Interrupted HexeVoice.Library.JsonBytes
open HexeVoice.Firmware.MicroWake HexeVoice.Firmware.ModelBundle

variable {content : List UInt8} {target : CString}

/-! ### Copying -/

def kInternalModelMount : CString := .ofText "/model"

/-- `CONFIG_SPIFFS_OBJ_NAME_LEN`, with the zero. -/
def CONFIG_SPIFFS_OBJ_NAME_LEN : ℕ := 32

/-- SPIFFS can create a file: the name after the mount point is short enough. -/
def Creatable (path : CString) : Prop :=
  path.length < kInternalModelMount.length + CONFIG_SPIFFS_OBJ_NAME_LEN

instance (path : CString) : Decidable (Creatable path) := inferInstanceAs (Decidable (_ < _))

/-- `fopen(path, "rb")`, on the card. -/
def openToRead (card : Files) (path : CString) : Interrupted Files (Option (List UInt8)) :=
  attempt fun works partition => (if works then card path else none, partition)

/-- `fopen(path, "wb")`, which empties the file. -/
def openToWrite (path : CString) : Interrupted Files Bool :=
  attempt fun works partition =>
    if works ∧ Creatable path then (true, Function.update partition path (some []))
    else (false, partition)

/-- `fread` and `fclose`, of which only matters whether they work. -/
def operation : Interrupted Files Bool := attempt fun works partition => (works, partition)

/-- `fwrite`, at the end of the file. -/
def append (path : CString) (bytes : List UInt8) : Interrupted Files Bool :=
  change fun partition => Function.update partition path (some ((partition path).getD [] ++ bytes))

/-- `sizeof(buffer)`. -/
def bufferSize : ℕ := 1024

/-- What `fread` gives, one call after the other: full buffers, and at last one that is not. -/
def buffers : ℕ → List UInt8 → List (List UInt8)
  | 0, content => [content]
  | n + 1, content => content.take bufferSize :: buffers n (content.drop bufferSize)

/-- The loop of `copy_file`. -/
def copyBuffers (target : CString) : List (List UInt8) → Interrupted Files Bool
  | [] => pure true
  | [] :: _ => operation
  | (b :: bytes) :: rest => do
    if ← operation then
      if ← append target (b :: bytes) then copyBuffers target rest else pure false
    else pure false

def copyFile (card : Files) (source target : CString) : Interrupted Files Bool := do
  match ← openToRead card source with
  | none => pure false
  | some content =>
    if ← openToWrite target then
      let copied ← copyBuffers target (buffers (content.length / bufferSize) content)
      let closed ← operation
      pure (copied && closed)
    else pure false

/-! ### The refresh -/

def mountInternalModelPartition (board : Board) : Interrupted Files Bool :=
  if !singleModelSchema board && !board.modelPartition then pure false else operation

/-- What `cJSON_ArrayForEach` goes through. -/
def children : Option CJson → List CJson
  | some (.array items) => items
  | some (.object entries) => entries.map (·.2)
  | _ => []

/-- Copy an asset, if its paths fit. -/
def copyAsset (card : Files) (sourceDirectory relativePath : CString) : Interrupted Files Bool :=
  match joinPath 256 sourceDirectory relativePath, joinPath 256 kInternalModelMount relativePath with
  | some sourcePath, some targetPath => copyFile card sourcePath targetPath
  | _, _ => pure false

/-- The loop over `hashes`. -/
def copyAssets (card : Files) (sourceDirectory : CString) :
    List CJson → Interrupted Files (Except String Unit)
  | [] => pure (.ok ())
  | asset :: assets =>
    match (jsonString asset "path").filter SafeRelativeAssetPath with
    | none => pure (.error "invalid_model_bundle_asset")
    | some relativePath => do
      if ← copyAsset card sourceDirectory relativePath then copyAssets card sourceDirectory assets
      else pure (.error "internal_model_cache_copy_failed")

/-- The manifest is copied last. -/
def copyManifest (card : Files) (sourcePath : CString) : Interrupted Files (Except String Unit) := do
  match joinPath 256 kInternalModelMount kModelManifestFilename with
  | none => pure (.error "internal_model_cache_manifest_copy_failed")
  | some internalManifest =>
    if ← copyFile card sourcePath internalManifest then pure (.ok ())
    else pure (.error "internal_model_cache_manifest_copy_failed")

/-- The copies of a parsed manifest. -/
def copyListed (card : Files) (sourceDirectory sourcePath : CString) (manifest : CJson) :
    Interrupted Files (Except String Unit) := do
  match ← copyAssets card sourceDirectory (children (manifest.getObjectItem "hashes")) with
  | .error code => pure (.error code)
  | .ok _ => copyManifest card sourcePath

/-- The manifest, of what was read. -/
def parseManifest (lib : Libraries) (content : Option (List UInt8)) : Except String Document := do
  let manifestBytes ← orReject (content.filter (· ≠ [])) "missing_model_bundle_manifest"
  orReject (lib.parse manifestBytes) "invalid_model_bundle_json"

def copyManifestAssetsToInternalCache (board : Board) (lib : Libraries) (card : Files)
    (sourceDirectory : CString) : Interrupted Files (Except String Unit) := do
  if ← mountInternalModelPartition board then
    match joinPath 256 sourceDirectory kModelManifestFilename with
    | none => pure (.error "invalid_model_bundle_manifest_path")
    | some sourcePath => do
      match parseManifest lib (← openToRead card sourcePath) with
      | .error code => pure (.error code)
      | .ok manifest => copyListed card sourceDirectory sourcePath manifest.root
  else pure (.error "internal_model_partition_unavailable")

def kModelSetsPath : CString := .ofText "/sdcard/hexe/model_sets"

/-! ### The next start -/

def stringContains (value needle : String) : Bool := needle.toList <:+: value.toList

def modelPolicyUsesInternalSingleCache (board : Board) : Bool :=
  singleModelSchema board || stringContains board.kStorageModelPolicy "internal_single" ||
    stringContains board.kStorageModelPolicy "single_model_cache"

/-- `activate_loaded_store`, for the cache: `candidate_compatible` and the test of
`activate_model_bundle_candidate`. -/
def activateLoadedStore (board : Board) (lib : Libraries) (store : RuntimeModelStore) :
    Except String Unit := do
  ensure (store.bundleId ≠ .empty && store.version ≠ .empty) "missing_model_bundle_identity"
  -- without the single-model schema the bank is the directory, which is no name of one
  ensure (singleModelSchema board) "invalid_model_bundle_bank"
  ensure board.modelPartition "model_bank_partition_missing"
  ensure (store.models ≠ []) "model_bundle_assets_not_staged"
  testLoadMicroWakeModelAssets board lib store.models

def loadInternalSingleModelCache (board : Board) (lib : Libraries) (partition : Files) :
    Except String RuntimeModelStore := do
  ensure (modelPolicyUsesInternalSingleCache board && board.modelPartition)
    "single_model_cache_not_loaded"
  let store ← loadModelSetFromDirectory board lib partition kInternalModelMount
  activateLoadedStore board lib store
  return store

/-! ### Atomicity -/

/-- A model, wherever its files are. -/
def LoadedModel.unplaced (model : LoadedModel) : LoadedModel :=
  { model with manifestPath := .empty, tflitePath := .empty }

/-- A bundle, wherever its files are. -/
def RuntimeModelStore.unplaced (store : RuntimeModelStore) : RuntimeModelStore :=
  { store with directory := .empty, models := store.models.map LoadedModel.unplaced }

/-- The next start loads all of the cached bundle or all of the new one, however the refresh is
interrupted. -/
def RefreshIsAtomic (board : Board) (lib : Libraries) (card : Files) (sourceDirectory : CString)
    (partition : Files) : Prop :=
  ∀ fates, ∃ store,
    loadInternalSingleModelCache board lib
      (copyManifestAssetsToInternalCache board lib card sourceDirectory partition fates).storage =
        .ok store ∧
    (loadInternalSingleModelCache board lib partition = .ok store ∨
      ∃ new, loadModelSetFromDirectory board lib card sourceDirectory = .ok new ∧
        RuntimeModelStore.unplaced store = RuntimeModelStore.unplaced new)

/-- The files up to the first that cannot be created. -/
def creatablePrefix (paths : List CString) : List CString := paths.takeWhile fun path => Creatable path

/-- The files that a refresh writes: the listed ones and the manifest, up to the first that cannot be
created. -/
def filesWritten (manifest : CJson) : List CString :=
  creatablePrefix ((hashedAssets manifest).filterMap (assetPath kInternalModelMount) ++
    [manifestPath kInternalModelMount])

variable {board : Board} {lib : Libraries} {card partition : Files} {sourceDirectory : CString}

theorem creatablePrefix_cons {path : CString} (h : Creatable path) (paths : List CString) :
    creatablePrefix (path :: paths) = path :: creatablePrefix paths :=
  List.takeWhile_cons_of_pos (decide_eq_true h)

theorem creatablePrefix_cons_of_not {path : CString} (h : ¬ Creatable path) (paths : List CString) :
    creatablePrefix (path :: paths) = [] :=
  List.takeWhile_cons_of_neg (by rwa [decide_eq_true_eq])

/-! ### What a refresh leaves -/

/-- Only some files are not as they were. -/
def Outside (written : List CString) (start partition : Files) : Prop :=
  ∀ path ∉ written, partition path = start path

theorem Outside.update {written : List CString} {start partition : Files}
    (h : Outside written start partition) (htarget : target ∈ written)
    (content : Option (List UInt8)) : Outside written start (Function.update partition target content) := by
  intro path hpath
  have hne : path ≠ target := by
    rintro rfl
    exact hpath htarget
  rw [Function.update_of_ne hne]
  exact h path hpath

section meets

variable {written : List CString} {start : Files}

theorem meets_operation :
    Meets operation (Outside written start) (Outside written start) fun _ => Outside written start :=
  .attempt (fun _ h => h) fun _ _ h => h

theorem meets_openToRead (source : CString) :
    Meets (openToRead card source) (Outside written start) (Outside written start)
      fun _ => Outside written start :=
  .attempt (fun _ h => h) fun _ _ h => h

theorem meets_openToWrite (h : Creatable target → target ∈ written) :
    Meets (openToWrite target) (Outside written start) (Outside written start)
      fun opened partition => Outside written start partition ∧
        (opened = true → Creatable target) := by
  refine .attempt (fun _ h => h) fun works partition hpartition => ?_
  split
  · next hopened => exact ⟨hpartition.update (h hopened.2) _, fun _ => hopened.2⟩
  · exact ⟨hpartition, fun hfalse => by cases hfalse⟩

theorem meets_append (htarget : target ∈ written) (bytes : List UInt8) :
    Meets (append target bytes) (Outside written start) (Outside written start)
      fun _ => Outside written start :=
  .change (fun _ h => h) (fun _ h => h.update htarget _) fun _ h => h

theorem meets_copyBuffers (htarget : target ∈ written) (reads : List (List UInt8)) :
    Meets (copyBuffers target reads) (Outside written start) (Outside written start)
      fun _ => Outside written start := by
  induction reads with
  | nil => exact .pure fun _ h => h
  | cons read rest ih =>
    cases read with
    | nil => exact meets_operation
    | cons b bytes =>
      refine .bind meets_operation ?_
      rintro (_ | _)
      · exact .pure fun _ h => h
      · refine .bind (meets_append htarget _) ?_
        rintro (_ | _)
        · exact .pure fun _ h => h
        · exact ih

theorem meets_copyFile {source target : CString} (h : Creatable target → target ∈ written) :
    Meets (copyFile card source target) (Outside written start) (Outside written start)
      fun copied partition => Outside written start partition ∧
        (copied = true → Creatable target) := by
  refine .bind (meets_openToRead source) ?_
  rintro (_ | content)
  · exact .pure fun _ h => ⟨h, fun hfalse => by cases hfalse⟩
  · refine .bind (meets_openToWrite h) ?_
    rintro (_ | _)
    · exact .pure fun _ h => ⟨h.1, fun hfalse => by cases hfalse⟩
    · intro partition fates hopened
      have hcreatable := hopened.2 rfl
      refine Meets.bind (meets_copyBuffers (h hcreatable) _) ?_ partition fates hopened.1
      intro copied
      refine .bind meets_operation fun closed => ?_
      exact .pure fun _ h => ⟨h, fun _ => hcreatable⟩

/-- What the loop leaves, and that it comes to the last file only through the others. -/
theorem meets_copyAssets (last : CString) (assets : List CJson)
    (h : ∀ path ∈ creatablePrefix (assets.filterMap (assetPath kInternalModelMount) ++ [last]),
      path ∈ written) :
    Meets (copyAssets card sourceDirectory assets) (Outside written start) (Outside written start)
      fun result partition => Outside written start partition ∧
        (result = .ok () → Creatable last → last ∈ written) := by
  induction assets with
  | nil =>
    refine .pure fun _ hpartition => ⟨hpartition, fun _ hcreatable => h last ?_⟩
    rw [List.filterMap_nil, List.nil_append, creatablePrefix_cons hcreatable]
    exact List.mem_cons_self
  | cons asset assets ih =>
    rw [copyAssets]
    cases hpath : (jsonString asset "path").filter SafeRelativeAssetPath with
    | none => exact .pure fun _ hpartition => ⟨hpartition, fun hok => by cases hok⟩
    | some relativePath =>
      obtain ⟨hstring, -⟩ := Option.filter_eq_some_iff.mp hpath
      have hasset : assetPath kInternalModelMount asset =
          some (inDirectory kInternalModelMount relativePath) := by
        rw [assetPath, hstring]
        rfl
      rw [List.filterMap_cons_some hasset, List.cons_append] at h
      have hhead : Creatable (inDirectory kInternalModelMount relativePath) →
          inDirectory kInternalModelMount relativePath ∈ written := by
        intro hcreatable
        rw [creatablePrefix_cons hcreatable] at h
        exact h _ List.mem_cons_self
      have hcopy : Meets (copyAsset card sourceDirectory relativePath) (Outside written start)
          (Outside written start) fun copied partition => Outside written start partition ∧
            (copied = true → Creatable (inDirectory kInternalModelMount relativePath)) := by
        unfold copyAsset
        cases hsource : joinPath 256 sourceDirectory relativePath with
        | none => exact .pure fun _ hpartition => ⟨hpartition, fun hfalse => by cases hfalse⟩
        | some sourcePath =>
          cases htarget : joinPath 256 kInternalModelMount relativePath with
          | none => exact .pure fun _ hpartition => ⟨hpartition, fun hfalse => by cases hfalse⟩
          | some targetPath =>
            obtain ⟨-, -, rfl⟩ := joinPath_eq_some.mp htarget
            exact meets_copyFile hhead
      refine .bind hcopy ?_
      rintro (_ | _)
      · exact .pure fun _ hpartition => ⟨hpartition.1, fun hok => by cases hok⟩
      · intro partition fates hcopied
        have hcreatable := hcopied.2 rfl
        rw [creatablePrefix_cons hcreatable] at h
        exact ih (fun path hmem => h path (List.mem_cons_of_mem _ hmem)) partition fates hcopied.1

theorem meets_copyManifest {sourcePath : CString}
    (h : Creatable (manifestPath kInternalModelMount) → manifestPath kInternalModelMount ∈ written) :
    Meets (copyManifest card sourcePath) (Outside written start) (Outside written start)
      fun _ => Outside written start := by
  unfold copyManifest
  cases htarget : joinPath 256 kInternalModelMount kModelManifestFilename with
  | none => exact .pure fun _ hpartition => hpartition
  | some targetPath =>
    obtain ⟨-, -, rfl⟩ := joinPath_eq_some.mp htarget
    refine .bind (meets_copyFile h) ?_
    rintro (_ | _)
    · exact .pure fun _ hpartition => hpartition.1
    · exact .pure fun _ hpartition => hpartition.1

end meets

/-! ### Where copying can get -/

theorem buffers_nonempty (n : ℕ) (h : (n + 1) * bufferSize ≤ content.length) :
    ∃ b bytes, content.take bufferSize = b :: bytes := by
  cases content with
  | nil => simp [bufferSize] at h
  | cons b bytes => exact ⟨b, bytes.take 1023, rfl⟩

/-- All of a content can be copied to the end of a file. -/
theorem canReturn_copyBuffers (n : ℕ) {content old : List UInt8} {partition : Files}
    (hlength : n * bufferSize ≤ content.length) (hold : partition target = some old) :
    CanReturn (copyBuffers target (buffers n content)) partition true
      (Function.update partition target (some (old ++ content))) := by
  induction n generalizing content old partition with
  | zero =>
    cases content with
    | nil =>
      have hsame : Function.update partition target (some (old ++ [])) = partition := by
        rw [List.append_nil, ← hold, Function.update_eq_self]
      rw [hsame]
      exact .attempt_works _ partition
    | cons b bytes =>
      refine .bind (.attempt_works _ partition) (.bind (.change_works _ partition) ?_)
      rw [hold]
      exact .pure
  | succ n ih =>
    obtain ⟨b, bytes, htake⟩ := buffers_nonempty n hlength
    have hdrop : n * bufferSize ≤ (content.drop bufferSize).length := by
      rw [List.length_drop]
      apply Nat.le_sub_of_add_le
      rwa [← Nat.succ_mul]
    have hrest := ih hdrop
      (show Function.update partition target (some (old ++ b :: bytes)) target = _ from
        Function.update_self _ _ _)
    rw [Function.update_idem, List.append_assoc, ← htake, List.take_append_drop] at hrest
    rw [buffers, htake]
    refine .bind (.attempt_works _ partition) (.bind (.change_works _ partition) ?_)
    rw [hold, Option.getD_some, ← htake]
    exact hrest

theorem canReturn_openToRead {source : CString}
    (hsource : card source = some content) (partition : Files) :
    CanReturn (openToRead card source) partition (some content) partition := by
  rw [← hsource]
  exact .attempt_works _ partition

theorem canReturn_openToWrite (htarget : Creatable target) (partition : Files) :
    CanReturn (openToWrite target) partition true
      (Function.update partition target (some [])) := by
  have hworks := CanReturn.attempt_works (fun works (partition : Files) =>
    if works ∧ Creatable target then (true, Function.update partition target (some []))
    else (false, partition)) partition
  rwa [if_pos ⟨rfl, htarget⟩] at hworks

/-- A file is emptied before it is copied. -/
theorem canLose_copyFile {source target : CString}
    (hsource : card source = some content) (htarget : Creatable target) (partition : Files) :
    CanLose (copyFile card source target) partition
      (Function.update partition target (some [])) := by
  refine .bind_right (canReturn_openToRead hsource partition)
    (.bind_right (canReturn_openToWrite htarget partition) (.bind_left ?_))
  -- the loop begins with reading, and there power is lost
  cases content.length / bufferSize with
  | zero =>
    cases content with
    | nil => exact .attempt _ _
    | cons b bytes => exact .bind_left (.attempt _ _)
  | succ n =>
    rw [buffers]
    cases content.take bufferSize with
    | nil => exact .attempt _ _
    | cons b bytes => exact .bind_left (.attempt _ _)

/-- A file can be copied. -/
theorem canReturn_copyFile {source target : CString}
    (hsource : card source = some content) (htarget : Creatable target) (partition : Files) :
    CanReturn (copyFile card source target) partition true
      (Function.update partition target (some content)) := by
  have hcopy := canReturn_copyBuffers (content.length / bufferSize) (Nat.div_mul_le_self _ _)
    (show Function.update partition target (some []) target = some [] from Function.update_self _ _ _)
  rw [Function.update_idem, List.nil_append] at hcopy
  exact .bind (canReturn_openToRead hsource partition)
    (.bind (canReturn_openToWrite htarget partition) (.bind hcopy (.bind (.attempt_works _ _) .pure)))


/-- An asset that is on the card, and whose paths fit. -/
structure Copyable (card : Files) (sourceDirectory : CString) (asset : CJson) (relativePath : CString)
    (content : List UInt8) : Prop where
  path : jsonString asset "path" = some relativePath
  safe : SafeRelativeAssetPath relativePath
  sourceFits : (inDirectory sourceDirectory relativePath).length < 256
  targetFits : (inDirectory kInternalModelMount relativePath).length < 256
  found : card (inDirectory sourceDirectory relativePath) = some content

section copyable

variable {asset : CJson} {relativePath : CString} {content : List UInt8}

theorem Copyable.assetPath (h : Copyable card sourceDirectory asset relativePath content) :
    assetPath kInternalModelMount asset = some (inDirectory kInternalModelMount relativePath) := by
  rw [ModelBundle.assetPath, h.path]
  rfl

theorem Copyable.copyAsset_eq (h : Copyable card sourceDirectory asset relativePath content) :
    copyAsset card sourceDirectory relativePath =
      copyFile card (inDirectory sourceDirectory relativePath)
        (inDirectory kInternalModelMount relativePath) := by
  rw [copyAsset, joinPath, if_pos ⟨h.safe, h.sourceFits⟩, joinPath, if_pos ⟨h.safe, h.targetFits⟩]

theorem Copyable.copyAssets_eq (h : Copyable card sourceDirectory asset relativePath content)
    (assets : List CJson) :
    copyAssets card sourceDirectory (asset :: assets) =
      copyFile card (inDirectory sourceDirectory relativePath)
          (inDirectory kInternalModelMount relativePath) >>= fun copied =>
        if copied then copyAssets card sourceDirectory assets
        else pure (.error "internal_model_cache_copy_failed") := by
  have hpath : (jsonString asset "path").filter SafeRelativeAssetPath = some relativePath :=
    Option.filter_eq_some_iff.mpr ⟨h.path, decide_eq_true h.safe⟩
  rw [copyAssets, hpath]
  dsimp only
  rw [h.copyAsset_eq]

end copyable

/-- **Copying can get to every file that is written**: it can be lost where the file was emptied, or it
comes to the last one. -/
theorem canLose_of_written {last : CString} {assets : List CJson}
    (hassets : ∀ asset ∈ assets, ∃ relativePath content,
      Copyable card sourceDirectory asset relativePath content) {before after : List CString}
    (h : creatablePrefix (assets.filterMap (assetPath kInternalModelMount) ++ [last]) =
      before ++ target :: after) (partition : Files) :
    (∃ lost, CanLose (copyAssets card sourceDirectory assets) partition lost ∧
      lost target = some [] ∧ ∀ path ∉ before, path ≠ target → lost path = partition path) ∨
    target = last ∧ Creatable last ∧
      ∃ copied, CanReturn (copyAssets card sourceDirectory assets) partition (.ok ()) copied ∧
        ∀ path ∉ before, copied path = partition path := by
  induction assets generalizing before partition with
  | nil =>
    rw [List.filterMap_nil, List.nil_append] at h
    by_cases hlast : Creatable last
    · rw [creatablePrefix_cons hlast] at h
      cases before with
      | nil => exact .inr ⟨(List.cons.inj h).1.symm, hlast, partition, .pure, fun _ _ => rfl⟩
      | cons path before =>
        have hlength := congrArg List.length h
        simp [creatablePrefix] at hlength
    · rw [creatablePrefix_cons_of_not hlast] at h
      simp at h
  | cons asset assets ih =>
    obtain ⟨relativePath, content, hcopyable⟩ := hassets asset List.mem_cons_self
    rw [List.filterMap_cons_some hcopyable.assetPath, List.cons_append] at h
    by_cases hcreatable : Creatable (inDirectory kInternalModelMount relativePath)
    · rw [creatablePrefix_cons hcreatable] at h
      rw [hcopyable.copyAssets_eq]
      cases before with
      | nil =>
        obtain ⟨rfl, -⟩ := List.cons.inj h
        refine .inl ⟨_, .bind_left (canLose_copyFile hcopyable.found hcreatable partition),
          Function.update_self _ _ _, fun path _ hne => Function.update_of_ne hne _ _⟩
      | cons path before =>
        obtain ⟨rfl, hrest⟩ := List.cons.inj h
        have hcopy := canReturn_copyFile hcopyable.found hcreatable partition
        rcases ih (fun asset hmem => hassets asset (List.mem_cons_of_mem _ hmem)) hrest
          (Function.update partition _ (some content)) with
          ⟨lost, hlose, hempty, hsame⟩ | ⟨hlast, hlastCreatable, copied, hreturn, hsame⟩
        · refine .inl ⟨lost, .bind_right hcopy hlose, hempty, fun path hpath hne => ?_⟩
          rw [List.mem_cons, not_or] at hpath
          rw [hsame path hpath.2 hne, Function.update_of_ne hpath.1]
        · refine .inr ⟨hlast, hlastCreatable, copied, .bind hcopy hreturn, fun path hpath => ?_⟩
          rw [List.mem_cons, not_or] at hpath
          rw [hsame path hpath.2, Function.update_of_ne hpath.1]
    · rw [creatablePrefix_cons_of_not hcreatable] at h
      simp at h

/-! ### When it is atomic -/

section atomic

variable {store : RuntimeModelStore} {manifest : Document}

theorem loads_of_loadInternal (h : loadInternalSingleModelCache board lib partition = .ok store) :
    loadModelSetFromDirectory board lib partition kInternalModelMount = .ok store ∧
      board.modelPartition = true := by
  obtain ⟨_, hpolicy, h⟩ := bind_eq_ok.mp h
  obtain ⟨loaded, hloads, h⟩ := bind_eq_ok.mp h
  obtain ⟨_, -, h⟩ := bind_eq_ok.mp h
  cases h
  rw [ensure_eq_ok, Bool.and_eq_true] at hpolicy
  exact ⟨hloads, hpolicy.2⟩

theorem loadInternal_congr {partition' : Files}
    (h : ∀ path ∈ filesRead lib partition kInternalModelMount, partition' path = partition path) :
    loadInternalSingleModelCache board lib partition' =
      loadInternalSingleModelCache board lib partition := by
  unfold loadInternalSingleModelCache
  rw [load_congr h]

/-- What is known of a verified bundle: its manifest is read, and its assets can be copied. -/
theorem copyable_of_loads (hlength : kInternalModelMount.length ≤ sourceDirectory.length)
    (h : loadModelSetFromDirectory board lib card sourceDirectory = .ok store) :
    ∃ content manifest, joinPath 256 sourceDirectory kModelManifestFilename =
        some (manifestPath sourceDirectory) ∧
      card (manifestPath sourceDirectory) = some content ∧
      parseManifest lib (some content) = .ok manifest ∧
      manifestIn lib card sourceDirectory = some manifest ∧
      children (manifest.root.getObjectItem "hashes") = hashedAssets manifest.root ∧
      ∀ asset ∈ hashedAssets manifest.root, ∃ relativePath content,
        Copyable card sourceDirectory asset relativePath content := by
  obtain ⟨path, content, manifest, models, loaded, hreads, -, -, hcontent⟩ :=
    exists_store_iff.mp ⟨store, h⟩
  obtain ⟨hsafe, hfits, rfl⟩ := joinPath_eq_some.mp hreads.joins
  obtain ⟨hfound, hne⟩ := loadFileToMemory_eq_some.mp hreads.found
  have hin : manifestIn lib card sourceDirectory = some manifest := by
    rw [manifestIn, manifestPath, hreads.found]
    exact hreads.parses
  have hparse : parseManifest lib (some content) = .ok manifest :=
    bind_eq_ok.mpr ⟨content, orReject_eq_ok.mpr (Option.filter_eq_some_iff.mpr ⟨rfl, by simpa using hne⟩),
      orReject_eq_ok.mpr hreads.parses⟩
  obtain ⟨hashes, hhashes, hall⟩ := bind_eq_ok.mp hcontent.hashes
  obtain ⟨hitems, -⟩ := Option.filter_eq_some_iff.mp (orReject_eq_ok.mp hhashes)
  obtain ⟨paths, hpaths, -⟩ := bind_eq_ok.mp hall
  have hchildren : children (manifest.root.getObjectItem "hashes") = hashedAssets manifest.root := by
    rw [hashedAssets, hitems]
    unfold items? at hitems
    split at hitems
    · next heq =>
      cases hitems
      rw [heq]
      rfl
    · cases hitems
  refine ⟨content, manifest, hreads.joins, hfound, hparse, hin, hchildren, fun asset hasset => ?_⟩
  rw [hashedAssets, hitems] at hasset
  obtain ⟨resolved, hok⟩ := exists_mapM_iff.mp ⟨paths, hpaths⟩ asset hasset
  obtain ⟨_, value, content, ⟨⟩, hresolves, hverified, -⟩ := verifyAssetDigest_eq_ok.mp hok
  refine ⟨value.relativePath, content, hresolves.path, hresolves.safe, hresolves.fits, ?_,
    hresolves.resolved ▸ hverified.found⟩
  have hfits := hresolves.fits
  simp only [inDirectory, CString.length, List.length_append] at hfits hlength ⊢
  omega

theorem joinPath_internalManifest : joinPath 256 kInternalModelMount kModelManifestFilename =
    some (manifestPath kInternalModelMount) := by
  rw [joinPath, if_pos (by decide +kernel)]
  rfl

/-- The refresh of a verified bundle can come to its copies. -/
theorem canBecome_copyListed (partition : Files) (hpartition : board.modelPartition = true)
    (hjoins : joinPath 256 sourceDirectory kModelManifestFilename =
      some (manifestPath sourceDirectory))
    (hfound : card (manifestPath sourceDirectory) = some content)
    (hparse : parseManifest lib (some content) = .ok manifest) :
    CanBecome (copyManifestAssetsToInternalCache board lib card sourceDirectory) partition
      (copyListed card sourceDirectory (manifestPath sourceDirectory) manifest.root) partition := by
  have hmount : CanReturn (mountInternalModelPartition board) partition true partition := by
    rw [mountInternalModelPartition, hpartition, Bool.not_true, Bool.and_false]
    exact .attempt_works _ partition
  refine .bind hmount ?_
  rw [hjoins]
  refine .bind (canReturn_openToRead hfound partition) ?_
  rw [hparse]
  exact .refl _ partition

/-- Whatever is written can be lost. -/
theorem canLose_refresh (partition : Files)
    (hlength : kInternalModelMount.length ≤ sourceDirectory.length)
    (hpartition : board.modelPartition = true)
    (h : loadModelSetFromDirectory board lib card sourceDirectory = .ok store)
    (hmanifest : manifestIn lib card sourceDirectory = some manifest) {before after : List CString}
    (hwritten : filesWritten manifest.root = before ++ target :: after) :
    ∃ lost, CanLose (copyManifestAssetsToInternalCache board lib card sourceDirectory) partition lost ∧
      lost target = some [] ∧ ∀ path ∉ before, path ≠ target → lost path = partition path := by
  obtain ⟨content, _, hjoins, hfound, hparse, hin, hchildren, hassets⟩ := copyable_of_loads hlength h
  rw [hmanifest] at hin
  cases hin
  have hbecomes := canBecome_copyListed partition hpartition hjoins hfound hparse
  rcases canLose_of_written hassets hwritten partition with
    ⟨lost, hlose, hempty, hsame⟩ | ⟨rfl, hcreatable, copied, hreturn, hsame⟩
  · refine ⟨lost, hbecomes.canLose ?_, hempty, hsame⟩
    rw [copyListed, hchildren]
    exact .bind_left hlose
  · refine ⟨Function.update copied _ (some []), hbecomes.canLose ?_, Function.update_self _ _ _, ?_⟩
    · rw [copyListed, hchildren]
      refine .bind_right hreturn ?_
      rw [copyManifest, joinPath_internalManifest]
      exact .bind_left (canLose_copyFile hfound hcreatable copied)
    · intro path hpath hne
      rw [Function.update_of_ne hne, hsame path hpath]

/-- Nothing but what is written changes. -/
theorem outside_of_refresh (partition : Files)
    (hlength : kInternalModelMount.length ≤ sourceDirectory.length)
    (h : loadModelSetFromDirectory board lib card sourceDirectory = .ok store)
    (hmanifest : manifestIn lib card sourceDirectory = some manifest) (fates : ℕ → Fate) :
    Outside (filesWritten manifest.root) partition
      (copyManifestAssetsToInternalCache board lib card sourceDirectory partition fates).storage := by
  obtain ⟨content, _, hjoins, hfound, hparse, hin, hchildren, -⟩ := copyable_of_loads hlength h
  rw [hmanifest] at hin
  cases hin
  have hlisted : Meets (copyListed card sourceDirectory (manifestPath sourceDirectory) manifest.root)
      (Outside (filesWritten manifest.root) partition) (Outside (filesWritten manifest.root) partition)
      fun _ => Outside (filesWritten manifest.root) partition := by
    rw [copyListed, hchildren]
    refine .bind (meets_copyAssets (manifestPath kInternalModelMount) _ fun _ hmem => hmem) ?_
    rintro (code | _)
    · exact .pure fun _ hpartition => hpartition.1
    · intro partition fates hpartition
      exact meets_copyManifest (hpartition.2 rfl) partition fates hpartition.1
  have hmeets : Meets (copyManifestAssetsToInternalCache board lib card sourceDirectory)
      (Outside (filesWritten manifest.root) partition) (Outside (filesWritten manifest.root) partition)
      fun _ => Outside (filesWritten manifest.root) partition := by
    have hmount : Meets (mountInternalModelPartition board)
        (Outside (filesWritten manifest.root) partition)
        (Outside (filesWritten manifest.root) partition)
        fun _ => Outside (filesWritten manifest.root) partition := by
      unfold mountInternalModelPartition
      split
      · exact .pure fun _ hpartition => hpartition
      · exact meets_operation
    refine .bind hmount ?_
    rintro (_ | _)
    · exact .pure fun _ hpartition => hpartition
    · rw [hjoins]
      have hread : Meets (openToRead card (manifestPath sourceDirectory))
          (Outside (filesWritten manifest.root) partition)
          (Outside (filesWritten manifest.root) partition)
          fun read partition' => Outside (filesWritten manifest.root) partition partition' ∧
            (read = none ∨ read = some content) := by
        refine .attempt (fun _ hpartition => hpartition) ?_
        rintro (_ | _) partition' hpartition
        · exact ⟨hpartition, .inl rfl⟩
        · exact ⟨hpartition, .inr hfound⟩
      refine .bind hread fun read partition' fates hread => ?_
      rcases hread with ⟨hpartition, rfl | rfl⟩
      · exact hpartition
      · rw [hparse]
        exact hlisted partition' fates hpartition
  exact hmeets.storage (fun _ _ => rfl) fates

/-- What is read is known from the manifest. -/
theorem filesRead_congr {files files' : Files} {directory : CString}
    (h : files' (manifestPath directory) = files (manifestPath directory)) :
    filesRead lib files' directory = filesRead lib files directory := by
  rw [filesRead, filesRead, manifestIn, manifestIn, loadFileToMemory, loadFileToMemory, h]

/-- **The refresh of a verified bundle is atomic** exactly if the cached bundle could be loaded and none of
its files is written. -/
theorem refresh_is_atomic_iff (board : Board) (lib : Libraries) (card partition : Files)
    (name : CString) (hverified : ∃ new,
      loadModelSetFromDirectory board lib card (inDirectory kModelSetsPath name) = .ok new) :
    RefreshIsAtomic board lib card (inDirectory kModelSetsPath name) partition ↔
      (∃ cached, loadInternalSingleModelCache board lib partition = .ok cached) ∧
        ∀ manifest, manifestIn lib card (inDirectory kModelSetsPath name) = some manifest →
          ∀ path ∈ filesWritten manifest.root,
            path ∉ filesRead lib partition kInternalModelMount := by
  obtain ⟨new, hnew⟩ := hverified
  have hlength : kInternalModelMount.length ≤ (inDirectory kModelSetsPath name).length := by
    have hpath : kInternalModelMount.length ≤ kModelSetsPath.length := by decide +kernel
    simp only [inDirectory, CString.length, List.length_append] at hpath ⊢
    omega
  constructor
  · intro hatomic
    -- nothing happens where power is lost at once
    have hcached : ∃ cached, loadInternalSingleModelCache board lib partition = .ok cached := by
      obtain ⟨store, hloads, -⟩ := hatomic fun _ => .powerLost
      have hsame : (copyManifestAssetsToInternalCache board lib card
          (inDirectory kModelSetsPath name) partition fun _ => .powerLost).storage = partition := by
        rw [copyManifestAssetsToInternalCache, mountInternalModelPartition]
        split <;> rfl
      rw [hsame] at hloads
      exact ⟨store, hloads⟩
    refine ⟨hcached, fun manifest hmanifest => ?_⟩
    by_contra! hboth
    obtain ⟨path, hwritten, hread⟩ := hboth
    -- the first file that is written and read
    have hfind : ((filesWritten manifest.root).find?
        fun path => path ∈ filesRead lib partition kInternalModelMount).isSome = true :=
      List.find?_isSome.mpr ⟨path, hwritten, decide_eq_true hread⟩
    obtain ⟨target, htarget⟩ := Option.isSome_iff_exists.mp hfind
    obtain ⟨hread, before, after, hsplit, hbefore⟩ := List.find?_eq_some_iff_append.mp htarget
    rw [decide_eq_true_eq] at hread
    obtain ⟨cached, hcached⟩ := hcached
    obtain ⟨lost, ⟨fates, hlose⟩, hempty, hsame⟩ := canLose_refresh partition hlength
      (loads_of_loadInternal hcached).2 hnew hmanifest hsplit
    obtain ⟨store, hloads, -⟩ := hatomic fates
    rw [hlose] at hloads
    -- the file is still one that is read, and it is empty
    have hstill : target ∈ filesRead lib lost kInternalModelMount := by
      by_cases hmanifest : target = manifestPath kInternalModelMount
      · rw [hmanifest]
        exact List.mem_cons_self
      · have hkept : lost (manifestPath kInternalModelMount) =
            partition (manifestPath kInternalModelMount) := by
          refine hsame _ (fun hmem => ?_) (Ne.symm hmanifest)
          have hnot := hbefore _ hmem
          simp [filesRead] at hnot
        rwa [filesRead_congr hkept]
    obtain ⟨content, hcontent, hne⟩ := ne_nil_of_loads (loads_of_loadInternal hloads).1 hstill
    have hnil : content = [] := Option.some_inj.mp (hcontent.symm.trans hempty)
    exact hne hnil
  · rintro ⟨⟨cached, hcached⟩, hdisjoint⟩ fates
    obtain ⟨content, manifest, -, -, -, hmanifest, -⟩ := copyable_of_loads hlength hnew
    have houtside := outside_of_refresh partition hlength hnew hmanifest fates
    refine ⟨cached, ?_, .inl hcached⟩
    rw [loadInternal_congr fun path hpath => houtside path fun hwritten =>
      hdisjoint manifest hmanifest path hwritten hpath]
    exact hcached

end atomic

/-! ### A bundle -/

/-- A value, and its text; its strings need no escapes. -/
structure Printed where
  json : CJson
  text : List UInt8

namespace Printed

def str (s : String) : Printed := ⟨.string (.ofText s), 34 :: utf8 s ++ [34]⟩

def num (n : ℕ) : Printed := ⟨.number n, utf8 n.repr⟩

def arr (items : List Printed) : Printed :=
  ⟨.array (items.map (·.json)), 91 :: List.intercalate [44] (items.map (·.text)) ++ [93]⟩

def obj (entries : List (String × Printed)) : Printed :=
  ⟨.object (entries.map fun entry => (.ofText entry.1, entry.2.json)),
    object (entries.map fun entry => 34 :: utf8 entry.1 ++ [34, 58] ++ entry.2.text)⟩

end Printed

open Printed

def metadataAsset (path : String) : Printed :=
  obj [("path", str path), ("sha256", str someMetadataSha256), ("size_bytes", num 2)]

def modelAsset (path : String) : Printed :=
  obj [("path", str path), ("sha256", str someModelSha256), ("size_bytes", num 8)]

/-- A manifest, with its signature or without. -/
def someManifest (signature : List (String × Printed)) : Printed :=
  obj ([("bundle_id", str "kitchen"),
    ("compatibility", obj
      [("board_profiles", arr [str "box"]),
        ("partition_schemas", arr [str "s3-16m-recovery-single-model-v1"]),
        ("requires_partitions", arr [str "model"])]),
    ("hashes", arr
      [metadataAsset "wake.json", modelAsset "wake.tflite", metadataAsset "stop.json",
        modelAsset "stop.tflite"]),
    ("model_api_version", str "hexe-model-bundle-api-v1"),
    ("models", arr
      [obj [("metadata", metadataAsset "wake.json"), ("model", modelAsset "wake.tflite"),
          ("role", str "wake")],
        obj [("metadata", metadataAsset "stop.json"), ("model", modelAsset "stop.tflite"),
          ("role", str "playback_stop")]]),
    ("schema_version", str "hexe-model-bundle-v1"),
    ("security_policy", str "signed_manifest_sha256_required")] ++ signature ++
    [("version", str "1.0")])

def someSignature : String := "da80750abe4442bd0a4a115a5cb04ed49d35824e887da9ad293f4f51713079e5"

def signedManifest : Printed :=
  someManifest [("signature", obj
    [("algorithm", str "hmac-sha256"), ("key_id", str "dev"),
      ("scope", str "canonical_manifest_without_signature"), ("value", str someSignature)])]

/-- The digest of the manifest, after the inner pad. -/
def innerDigest : String := "8de4310e4922daaf320fa4b8a3558365bcb7a6fd74bc145f0503492eff4d1a63"

/-- The block of the key, with a pad. -/
def padded (pad : UInt8) : List UInt8 := (someKey.bytes ++ List.replicate 61 0).map (· ^^^ pad)

def someLibraries : Libraries where
  sha256 := .known
    [(someMetadata, someMetadataSha256), (someModel, someModelSha256),
      (padded 0x36 ++ (someManifest []).text, innerDigest),
      (padded 0x5c ++ Sha256.digestOfHex (utf8 innerDigest), someSignature),
      (signedManifest.text, "c1c5c409e350afe374f1682ec71a76eaa4e8cac71ead9be4b4c362ec5d58c2de")]
  parse text :=
    if text = signedManifest.text then some ⟨signedManifest.json, (someManifest []).text⟩ else none
  tfliteVersion _ := 3

/-- The files of the bundle. -/
def someFiles (directory : CString) : Files := filesOf directory signedManifest.text

/-- Where the card has the bundle. -/
def someDirectory : CString := inDirectory kModelSetsPath (.ofText "kitchen")

theorem exists_store_someFiles : ∃ new, loadModelSetFromDirectory someBoard someLibraries
    (someFiles someDirectory) someDirectory = .ok new := by
  apply exists_of_isSome_toOption
  decide +kernel

/-! ### What is served -/

/-- The bytes of the model are those of a file that the manifest lists for one of its models, below the
directory and with the length and the digest that are listed. -/
def Listed (lib : Libraries) (files : Files) (directory : CString) (models : List CJson)
    (loaded : LoadedModel) : Prop :=
  ∃ model ∈ models, ∃ item asset, model.getObjectItem "model" = some item ∧
    Resolves directory 192 item asset ∧ loaded.tflitePath = asset.resolvedPath ∧
    Verified lib files asset loaded.modelData

/-- The manifest is signed for the board with its key, there is a model for each of the roles, and every
model is a TFLite file that the manifest lists. -/
def ServesVerified (board : Board) (lib : Libraries) (files : Files) (directory : CString)
    (store : RuntimeModelStore) : Prop :=
  ∃ path content manifest models, Reads lib files directory path content manifest ∧
    manifestCompatible board manifest.root = .ok () ∧
    verifyManifestSignature board lib manifest = .ok () ∧
    store.manifestSha256 = lib.sha256.hexdigest content ∧
    items? (manifest.root.getObjectItem "models") = some models ∧
    (∃ model ∈ store.models, model.role = .wake) ∧
    (∃ model ∈ store.models, model.role = .playbackStop) ∧
    ∀ model ∈ store.models, hasTfliteHeader model.modelData = true ∧
      Listed lib files directory models model

/-- **What is loaded is verified**, whatever is on the card or in the cache. -/
theorem loaded_models_verified {files : Files} {directory : CString} {store : RuntimeModelStore}
    (h : loadModelSetFromDirectory board lib files directory = .ok store) :
    ServesVerified board lib files directory store := by
  obtain ⟨_, hdirectory, h⟩ := bind_eq_ok.mp h
  obtain ⟨path, hpath, h⟩ := bind_eq_ok.mp h
  obtain ⟨content, hcontent, h⟩ := bind_eq_ok.mp h
  obtain ⟨manifest, hmanifest, h⟩ := bind_eq_ok.mp h
  obtain ⟨_, hcompatible, h⟩ := bind_eq_ok.mp h
  obtain ⟨_, hsigned, h⟩ := bind_eq_ok.mp h
  obtain ⟨_, -, h⟩ := bind_eq_ok.mp h
  obtain ⟨models, hmodels, h⟩ := bind_eq_ok.mp h
  obtain ⟨loaded, hloaded, h⟩ := bind_eq_ok.mp h
  obtain ⟨_, -, h⟩ := bind_eq_ok.mp h
  obtain ⟨_, htested, h⟩ := bind_eq_ok.mp h
  cases h
  simp only [ensure_eq_ok, orReject_eq_ok, decide_eq_true_eq] at hdirectory hpath hcontent hmanifest hmodels
  simp only [testLoadMicroWakeModelAssets, bind_eq_ok, ensure_eq_ok, List.all_eq_true, List.any_eq_true,
    decide_eq_true_eq] at htested
  obtain ⟨_, -, _, hvalid, _, hwake, hstop⟩ := htested
  refine ⟨path, content, manifest, models, ⟨hdirectory, hpath, hcontent, hmanifest⟩, hcompatible, hsigned,
    rfl, hmodels, hwake, hstop, fun model hmodel => ⟨?_, ?_⟩⟩
  · have := hvalid model hmodel
    simp only [validateModelAsset, Bool.and_eq_true] at this
    exact this.1.2
  · obtain ⟨⟨role, item⟩, hselected, hload⟩ := (mem_of_loadModels hloaded).2 model hmodel
    obtain ⟨-, -, hverify, hdata⟩ := loadModel_eq_ok hload
    obtain ⟨value, asset, bytes, hvalue, hresolves, hverified, hresolved⟩ :=
      verifyAssetDigest_eq_ok.mp hverify
    rw [hresolved, loadFileToMemory_eq_some, hverified.found] at hdata
    obtain ⟨entry, hentry, hrole⟩ := List.mem_filterMap.mp (List.mem_of_mem_take hselected)
    obtain ⟨_, -, heq⟩ := Option.map_eq_some_iff.mp hrole
    cases heq
    exact ⟨item, hentry, value, asset, hvalue, hresolves, hresolved, Option.some.inj hdata.1 ▸ hverified⟩

theorem some_models_verified : ∃ store,
    ServesVerified someBoard someLibraries (someFiles someDirectory) someDirectory store :=
  exists_store_someFiles.imp fun _ h => loaded_models_verified h

/-- The bundle is cached already. -/
theorem someRefresh_is_atomic_iff :
    RefreshIsAtomic someBoard someLibraries (someFiles someDirectory) someDirectory
        (someFiles kInternalModelMount) ↔
      (∃ cached, loadInternalSingleModelCache someBoard someLibraries
        (someFiles kInternalModelMount) = .ok cached) ∧
        ∀ manifest, manifestIn someLibraries (someFiles someDirectory) someDirectory = some manifest →
          ∀ path ∈ filesWritten manifest.root,
            path ∉ filesRead someLibraries (someFiles kInternalModelMount) kInternalModelMount :=
  refresh_is_atomic_iff someBoard someLibraries (someFiles someDirectory)
    (someFiles kInternalModelMount) (.ofText "kitchen") exists_store_someFiles

/-- Power is lost after the first asset was opened for writing: the bundle that was cached, which is the
same, is not loaded any more. -/
theorem cached_bundle_lost :
    (∃ new, loadModelSetFromDirectory someBoard someLibraries (someFiles someDirectory)
      someDirectory = .ok new) ∧
    (∃ cached, loadInternalSingleModelCache someBoard someLibraries
      (someFiles kInternalModelMount) = .ok cached) ∧
    ¬ RefreshIsAtomic someBoard someLibraries (someFiles someDirectory) someDirectory
      (someFiles kInternalModelMount) := by
  refine ⟨exists_store_someFiles, ?_, fun hatomic => ?_⟩
  · apply exists_of_isSome_toOption
    decide +kernel
  · obtain ⟨store, hloads, -⟩ := hatomic fun k => if k < 4 then .works else .powerLost
    have hlost : (loadInternalSingleModelCache someBoard someLibraries
        (copyManifestAssetsToInternalCache someBoard someLibraries (someFiles someDirectory)
          someDirectory (someFiles kInternalModelMount)
          fun k => if k < 4 then .works else .powerLost).storage).toOption.isSome = false := by
      decide +kernel
    rw [hloads] at hlost
    cases hlost

end HexeVoice.Firmware.ModelCache
