import HexeVoice.Library.Dict
import HexeVoice.Library.Machine
import Mathlib

/-!
# Asset synchronisation

`sync_assets_once` of `system/asset_sync.cpp`, which downloads the files that a served manifest lists
to the SD card and then stores the manifest there.

## The model

The card is the files under their paths and the stored manifest. Which paths name one file is a
parameter, since the file system of the card takes upper and lower case for the same, and so is the
digest. What a run meets (the served manifest, the reads of each download, whether files open, close
and are renamed) is its input. Strings are the bytes of C strings, and JSON objects are the values
that are looked up in them.

## What is proved

**`synced_files_present`**: in every sequence of runs that each meet `Good`, whenever a run ends with
the status `current` or `updated`, all files of its manifest are there with their sizes and digests.
-/

namespace HexeVoice.Firmware.AssetSync

open HexeVoice.Library

variable {asset : AssetObject} {files : Files} {l : Listing} {stored : Option Manifest}
variable {transfer : Transfer}

/-- The bytes of a string or a file. -/
abbrev Bytes := List UInt8

/-- An ASCII text. -/
def ascii (text : String) : Bytes := text.toList.map fun c => c.toNat.toUInt8

/-! ### Manifests -/

/-- What is looked up in the object of an asset. -/
structure AssetObject where
  mediaType : Option Bytes := none
  filename : Option Bytes := none
  sourceFilename : Option Bytes := none
  sha256 : Option Bytes := none
  sizeBytes : Option ℚ := none
  metadataSha256 : Option Bytes := none
  metadataSizeBytes : Option ℚ := none
  deriving DecidableEq

/-- The array `assets` of a manifest. -/
abbrev Manifest := List AssetObject

/-- A string that is there and not empty. -/
def nonempty (item : Option Bytes) : Option Bytes := item.filter (· ≠ [])

/-- `copy_json_string`, to a buffer of some size. -/
def copyJsonString (item : Option Bytes) (targetSize : ℕ) : Option Bytes :=
  (nonempty item).map (·.take (targetSize - 1))

/-- `valueint` of a cJSON number. -/
def valueint (number : ℚ) : ℤ :=
  if 2147483647 ≤ number then 2147483647
  else if number ≤ -2147483648 then -2147483648
  else if 0 ≤ number then ⌊number⌋ else ⌈number⌉

/-- `asset_json_number(asset, "size_bytes")`. -/
def AssetObject.size (asset : AssetObject) : Option ℚ := asset.sizeBytes <|> asset.metadataSizeBytes

/-- What is copied of an asset, with `valueint` of its size. -/
structure Entry where
  mediaType : Bytes
  filename : Bytes
  sha256 : Bytes
  size : Option ℤ
  deriving DecidableEq

/-- The strings of an asset, of which none may be missing. -/
def entry (asset : AssetObject) : Option Entry := do
  let mediaType ← copyJsonString asset.mediaType 16
  let sha256 ← copyJsonString asset.sha256 65 <|> copyJsonString asset.metadataSha256 65
  let filename ← copyJsonString asset.filename 128 <|> copyJsonString asset.sourceFilename 128
  return ⟨mediaType, filename, sha256, asset.size.map valueint⟩

def destinationDir (mediaType : Bytes) : Option Bytes :=
  if mediaType = ascii "picture" then some (ascii "/sdcard/hexe/pictures")
  else if mediaType = ascii "sprite" then some (ascii "/sdcard/hexe/sprites")
  else if mediaType = ascii "sound" then some (ascii "/sdcard/hexe/sounds")
  else if mediaType = ascii "font" then some (ascii "/sdcard/hexe/fonts")
  else none

/-- The loop of `is_safe_asset_filename`. -/
def safeChars (nestedAllowed : Bool) : Bytes → Bool
  | [] => true
  | c :: rest =>
    !(c = 92 || c < 32 || (!nestedAllowed && c = 47)) &&
      !(c = 47 && (rest = [] || rest.head? = some 47 || rest.head? = some 46)) &&
      !(c = 46 && rest.head? = some 46) && safeChars nestedAllowed rest

def isSafeAssetFilename (mediaType filename : Bytes) : Bool :=
  filename ≠ [] && filename.head? ≠ some 46 && filename.length < 200 &&
    safeChars (mediaType = ascii "font") filename

/-- An asset that passed all checks. -/
structure Listing where
  directory : Bytes
  mediaType : Bytes
  filename : Bytes
  sha256 : Bytes
  size : ℕ
  deriving DecidableEq

/-- The checks of `sync_assets_once`. -/
def listing (asset : AssetObject) : Option Listing := do
  let e ← entry asset
  let size ← e.size
  let directory ← destinationDir e.mediaType
  if 0 < size ∧ isSafeAssetFilename e.mediaType e.filename ∧ e.sha256.length = 64 then
    return ⟨directory, e.mediaType, e.filename, e.sha256, size.toNat⟩
  else none

/-! ### The card -/

/-- Which file a path names, and the digest of a file as a hexadecimal text. -/
structure Platform where
  file : Bytes → Bytes
  sha256 : Bytes → Bytes

/-- The files of the card. -/
abbrev Files := Dict Bytes Bytes

/-- `"%s/%s"`. -/
def finalPath (directory filename : Bytes) : Bytes := directory ++ 47 :: filename

/-- The file of an asset. -/
def Platform.finalFile (platform : Platform) (l : Listing) : Bytes :=
  platform.file (finalPath l.directory l.filename)

/-- The file it is downloaded to. -/
def Platform.tempFile (platform : Platform) (l : Listing) : Bytes :=
  platform.file (finalPath l.directory l.filename ++ ascii ".tmp")

/-- One call of `esp_http_client_read`, and whether what it read could be written. -/
inductive Read where
  | again
  | failed
  | chunk (bytes : Bytes) (written : Bool)
  deriving DecidableEq

/-- What the sync of an asset meets. -/
structure Transfer where
  /-- The paths and the URL fit, and the directories are there. -/
  ready : Bool := true
  /-- `file_current` can read the file. -/
  readable : Bool := true
  /-- The client is there and the temporary file opens. -/
  opened : Bool := true
  reads : List Read
  /-- What `fclose` fails to write is missing at the end of the file. -/
  missing : ℕ := 0
  renamed : Bool := true
  deriving DecidableEq

variable (platform : Platform)

def fileCurrent (files : Files) (l : Listing) (readable : Bool) : Bool :=
  match files.get (platform.finalFile l) with
  | none => false
  | some content =>
    content.length = l.size && readable && platform.sha256 content = l.sha256

/-- An entry of the stored manifest is that of the asset. -/
def entryMatches (l : Listing) (asset : AssetObject) : Bool :=
  entry asset = some ⟨l.mediaType, l.filename, l.sha256, some l.size⟩

def localManifestMatches (files : Files) (stored : Option Manifest) (l : Listing) : Bool :=
  match stored with
  | none => false
  | some manifest =>
    manifest.any (entryMatches l) &&
      match files.get (platform.finalFile l) with
      | none => false
      | some content => content.length = l.size

/-- The loop that reads the body: what was written, if there was no error. -/
def readBody (expectedSize : ℕ) (idleRetries : ℕ) (data : Bytes) : List Read → Option Bytes
  | [] => some data
  | .again :: reads =>
    if idleRetries < 3 then readBody expectedSize (idleRetries + 1) data reads else none
  | .failed :: _ => none
  | .chunk bytes written :: reads =>
    if bytes = [] then some data
    else if !written then none
    else if expectedSize ≤ (data ++ bytes).length then some (data ++ bytes)
    else readBody expectedSize 0 (data ++ bytes) reads

/-- The body, if it is what the manifest lists. -/
def received (l : Listing) (transfer : Transfer) : Option Bytes :=
  match readBody l.size 0 [] transfer.reads with
  | none => none
  | some data => if data.length = l.size ∧ platform.sha256 data = l.sha256 then some data else none

/-- `download_asset_file`, and whether it did. -/
def downloadAssetFile (files : Files) (l : Listing) (transfer : Transfer) : Files × Bool :=
  if !transfer.opened then (files, false)
  else
    match received platform l transfer with
    | none => (files.erase (platform.tempFile l), false)
    | some data =>
      let files := (files.erase (platform.tempFile l)).erase (platform.finalFile l)
      if transfer.renamed then
        (files.set (platform.finalFile l) (data.take (data.length - transfer.missing)), true)
      else (files, false)

/-- What became of an asset. -/
inductive Outcome where
  | failed
  | current
  | downloaded
  deriving DecidableEq

/-- The loop body of `sync_assets_once`. -/
def syncAsset (stored : Option Manifest) (files : Files) (asset : AssetObject)
    (transfer : Transfer) : Files × Outcome :=
  match listing asset with
  | none => (files, .failed)
  | some l =>
    if !transfer.ready then (files, .failed)
    else if localManifestMatches platform files stored l ||
        fileCurrent platform files l transfer.readable then (files, .current)
    else
      match downloadAssetFile platform files l transfer with
      | (files, true) => (files, .downloaded)
      | (files, false) => (files, .failed)

/-- The loop, and what became of the assets. -/
def syncAssets (stored : Option Manifest) (files : Files) :
    List (AssetObject × Transfer) → Files × List Outcome
  | [] => (files, [])
  | (asset, transfer) :: assets =>
    let (files, outcome) := syncAsset platform stored files asset transfer
    let (files, outcomes) := syncAssets stored files assets
    (files, outcome :: outcomes)

/-! ### Runs -/

/-- What `write_manifest` does: it leaves the old manifest, or removes it at least, unless it stores
the new one. -/
inductive Storing where
  | kept
  | removed
  | stored
  deriving DecidableEq

/-- What a run meets. -/
structure Sync where
  /-- The manifest and what the sync of each of its assets meets, if it is fetched and parsed. -/
  served : Option (List (AssetObject × Transfer))
  /-- The stored manifest is loaded. -/
  loaded : Bool := true
  storing : Storing := .stored
  deriving DecidableEq

/-- `g_status` at the end. -/
inductive Status where
  /-- One of those that end a run before it looks at any asset. -/
  | unserved
  | partialSync
  | manifestStoreFailed
  | current
  | updated
  deriving DecidableEq

/-- The card between two runs. -/
structure Card where
  files : Files
  manifest : Option Manifest

/-- `write_manifest`. -/
def Card.store (card : Card) (manifest : Manifest) : Storing → Card
  | .kept => card
  | .removed => { card with manifest := none }
  | .stored => { card with manifest := some manifest }

/-- The status of a run that had a manifest. -/
def statusOf (outcomes : List Outcome) (storing : Storing) : Status :=
  if .failed ∈ outcomes then .partialSync
  else if storing ≠ .stored then .manifestStoreFailed
  else if .downloaded ∈ outcomes then .updated
  else .current

def syncAssetsOnce (card : Card) (sync : Sync) : Card × Status :=
  match sync.served with
  | none => (card, .unserved)
  | some assets =>
    let stored := if sync.loaded then card.manifest else none
    let (files, outcomes) := syncAssets platform stored card.files assets
    let synced := { card with files }
    let manifest := assets.map Prod.fst
    (if .failed ∈ outcomes then synced else synced.store manifest sync.storing,
      statusOf outcomes sync.storing)

/-! ### What is claimed and when -/

/-- The file name of an asset. -/
def AssetObject.name (asset : AssetObject) : Option Bytes :=
  nonempty asset.filename <|> nonempty asset.sourceFilename

/-- The digest of an asset. -/
def AssetObject.digest (asset : AssetObject) : Option Bytes :=
  nonempty asset.sha256 <|> nonempty asset.metadataSha256

/-- The file of the asset is there with the size and the digest that are listed. -/
def Present (files : Files) (asset : AssetObject) : Prop :=
  ∃ mediaType name digest size directory content, asset.mediaType = some mediaType ∧
    asset.name = some name ∧ asset.digest = some digest ∧ asset.size = some size ∧
    destinationDir mediaType = some directory ∧
    files.get (platform.file (finalPath directory name)) = some content ∧
    (content.length : ℚ) = size ∧ platform.sha256 content = digest

/-- What is listed is not cut off where it is copied. -/
def Fits (asset : AssetObject) : Prop :=
  (∀ name ∈ asset.name, name.length ≤ 127) ∧ (∀ digest ∈ asset.digest, digest.length ≤ 64) ∧
    ∀ size ∈ asset.size, (valueint size : ℚ) = size

/-- No two assets have one file, and none has the temporary file of another. -/
def Separate (manifest : Manifest) : Prop :=
  manifest.Pairwise fun a b => ∀ l ∈ listing a, ∀ l' ∈ listing b,
    platform.finalFile l ≠ platform.finalFile l' ∧
      platform.tempFile l ≠ platform.finalFile l' ∧ platform.tempFile l' ≠ platform.finalFile l

/-- The download of an asset succeeds if it is tried. -/
def Succeeds (l : Listing) (transfer : Transfer) : Prop :=
  transfer.opened = true ∧ (received platform l transfer).isSome = true ∧ transfer.renamed = true

/-- Nothing fails in a run. -/
def Complete (assets : List (AssetObject × Transfer)) (storing : Storing) : Prop :=
  (∀ asset ∈ assets, ∃ l, listing asset.1 = some l ∧ asset.2.ready = true ∧
    Succeeds platform l asset.2) ∧ storing = .stored

/-- A stored entry has the file of an asset and its size, but not its digest. -/
def Disguised (old : AssetObject) (l : Listing) : Prop :=
  ∃ e directory, entry old = some e ∧ destinationDir e.mediaType = some directory ∧
    platform.file (finalPath directory e.filename) = platform.finalFile l ∧
    e.size = some (l.size : ℤ) ∧ e.sha256 ≠ l.sha256

/-- What a run has to meet: what it is served fits and is separate, files are closed without loss, and
if it puts a file in place of one that the stored manifest lists with the same size and another
digest, then nothing of the run fails. -/
def Good (card : Card) (sync : Sync) : Prop :=
  ∀ assets ∈ sync.served, (∀ asset ∈ assets, Fits asset.1 ∧ asset.2.missing = 0) ∧
    Separate platform (assets.map Prod.fst) ∧
    ((∃ stored ∈ card.manifest, ∃ old ∈ stored, ∃ asset ∈ assets, ∃ l ∈ listing asset.1,
      Disguised platform old l ∧ Succeeds platform l asset.2) →
        Complete platform assets sync.storing)

/-- The stored manifest tells the truth about the files that have the sizes it lists. -/
def Truthful (card : Card) : Prop :=
  ∀ stored ∈ card.manifest, ∀ old ∈ stored, ∀ e ∈ entry old,
    ∀ directory ∈ destinationDir e.mediaType, ∀ content,
      card.files.get (platform.file (finalPath directory e.filename)) = some content →
        e.size = some (content.length : ℤ) → platform.sha256 content = e.sha256

/-! ### One asset -/

/-- What an asset is that passed the checks. -/
theorem listing_some (h : listing asset = some l) :
    entry asset = some ⟨l.mediaType, l.filename, l.sha256, some (l.size : ℤ)⟩ ∧
      destinationDir l.mediaType = some l.directory := by
  simp only [listing, bind, Option.bind_eq_some_iff] at h
  obtain ⟨e, hentry, size, hsize, directory, hdirectory, h⟩ := h
  split_ifs at h with hchecks
  cases h
  refine ⟨?_, hdirectory⟩
  have hnat : ((size.toNat : ℕ) : ℤ) = size := Int.toNat_of_nonneg hchecks.1.le
  rw [hentry, hnat, ← hsize]

/-- A file that is right. -/
def Right (files : Files) (l : Listing) : Prop :=
  ∃ content, files.get (platform.finalFile l) = some content ∧ content.length = l.size ∧
    platform.sha256 content = l.sha256

variable {platform} in
theorem received_some {data : Bytes} (h : received platform l transfer = some data) :
    data.length = l.size ∧ platform.sha256 data = l.sha256 := by
  unfold received at h
  split at h
  · cases h
  · split_ifs at h with hright
    cases h
    exact hright

/-- **What a download does**: nothing, it removes files, or it puts there what it received. -/
theorem download_cases (files : Files) (l : Listing) (transfer : Transfer) :
    downloadAssetFile platform files l transfer = (files, false) ∨
    downloadAssetFile platform files l transfer = (files.erase (platform.tempFile l), false) ∨
    downloadAssetFile platform files l transfer =
      ((files.erase (platform.tempFile l)).erase (platform.finalFile l), false) ∨
    Succeeds platform l transfer ∧ ∃ data, received platform l transfer = some data ∧
      downloadAssetFile platform files l transfer =
        (((files.erase (platform.tempFile l)).erase (platform.finalFile l)).set
          (platform.finalFile l) (data.take (data.length - transfer.missing)), true) := by
  cases hopened : transfer.opened with
  | false => exact .inl (by simp [downloadAssetFile, hopened])
  | true =>
    rcases hdata : received platform l transfer with _ | data
    · exact .inr (.inl (by simp [downloadAssetFile, hopened, hdata]))
    · cases hrenamed : transfer.renamed with
      | false => exact .inr (.inr (.inl (by simp [downloadAssetFile, hopened, hdata, hrenamed])))
      | true =>
        refine .inr (.inr (.inr ⟨⟨hopened, by rw [hdata]; rfl, hrenamed⟩, data, rfl, ?_⟩))
        simp [downloadAssetFile, hopened, hdata, hrenamed]

/-- What a download puts in the place of a file. -/
def Put (l : Listing) (transfer : Transfer) (files' : Files) (k : Bytes) : Prop :=
  k = platform.finalFile l ∧ Succeeds platform l transfer ∧
    ∃ data, received platform l transfer = some data ∧
      files'.get k = some (data.take (data.length - transfer.missing))

/-- A download leaves a file, removes it, or puts there what it received. -/
theorem download_get (files : Files) (l : Listing) (transfer : Transfer) (k : Bytes) :
    let files' := (downloadAssetFile platform files l transfer).1
    files'.get k = files.get k ∨ files'.get k = none ∨
      Put platform l transfer files' k := by
  intro files'
  rcases download_cases platform files l transfer with h | h | h | ⟨hsucceeds, data, hdata, h⟩ <;>
    simp only [files', h]
  · exact .inl trivial
  · rw [Dict.get_erase]
    split_ifs
    · exact .inr (.inl rfl)
    · exact .inl rfl
  · rw [Dict.get_erase, Dict.get_erase]
    split_ifs
    · exact .inr (.inl rfl)
    · exact .inr (.inl rfl)
    · exact .inl rfl
  · by_cases hfinal : k = platform.finalFile l
    · subst hfinal
      exact .inr (.inr ⟨rfl, hsucceeds, data, hdata, Dict.get_set_self _ _ _⟩)
    · rw [Dict.get_set_of_ne _ _ hfinal, Dict.get_erase, if_neg hfinal, Dict.get_erase]
      split_ifs
      · exact .inr (.inl rfl)
      · exact .inl rfl

/-- A download leaves all files but those of its asset. -/
theorem download_frame (files : Files) (l : Listing) (transfer : Transfer) {k : Bytes}
    (hfinal : k ≠ platform.finalFile l) (htemp : k ≠ platform.tempFile l) :
    (downloadAssetFile platform files l transfer).1.get k = files.get k := by
  rcases download_cases platform files l transfer with h | h | h | ⟨-, data, -, h⟩ <;> rw [h]
  · rw [Dict.get_erase, if_neg htemp]
  · rw [Dict.get_erase, if_neg hfinal, Dict.get_erase, if_neg htemp]
  · rw [Dict.get_set_of_ne _ _ hfinal, Dict.get_erase, if_neg hfinal, Dict.get_erase,
      if_neg htemp]

variable {platform} in
/-- A download that succeeds puts the right file there. -/
theorem download_right
    (hmissing : transfer.missing = 0) (h : (downloadAssetFile platform files l transfer).2 = true) :
    Right platform (downloadAssetFile platform files l transfer).1 l := by
  rcases download_cases platform files l transfer with heq | heq | heq | ⟨-, data, hdata, heq⟩ <;>
    rw [heq] at h ⊢
  · cases h
  · cases h
  · cases h
  · obtain ⟨hlength, hdigest⟩ := received_some hdata
    refine ⟨data, ?_, hlength, hdigest⟩
    rw [Dict.get_set_self, hmissing, Nat.sub_zero, List.take_length]

variable {platform} in
/-- A download that is tried and can succeed does. -/
theorem download_of_succeeds (files : Files) (h : Succeeds platform l transfer) :
    (downloadAssetFile platform files l transfer).2 = true := by
  obtain ⟨hopened, hreceived, hrenamed⟩ := h
  obtain ⟨data, hdata⟩ := Option.isSome_iff_exists.mp hreceived
  simp [downloadAssetFile, hopened, hdata, hrenamed]

/-- **What the sync of an asset does**: it fails at once, trusts the file that is there, or downloads
it. -/
theorem syncAsset_cases (stored : Option Manifest) (files : Files) (asset : AssetObject)
    (transfer : Transfer) :
    (¬(∃ l, listing asset = some l ∧ transfer.ready = true) ∧
      syncAsset platform stored files asset transfer = (files, .failed)) ∨
    ∃ l, listing asset = some l ∧ transfer.ready = true ∧
      ((localManifestMatches platform files stored l = true ∨
          fileCurrent platform files l transfer.readable = true) ∧
        syncAsset platform stored files asset transfer = (files, .current) ∨
      syncAsset platform stored files asset transfer =
        ((downloadAssetFile platform files l transfer).1,
          if (downloadAssetFile platform files l transfer).2 then .downloaded else .failed)) := by
  rcases hlisting : listing asset with _ | l
  · exact .inl ⟨by simp, by simp [syncAsset, hlisting]⟩
  · cases hready : transfer.ready with
    | false => exact .inl ⟨by simp, by simp [syncAsset, hlisting, hready]⟩
    | true =>
      refine .inr ⟨l, rfl, rfl, ?_⟩
      by_cases htrusted : localManifestMatches platform files stored l = true ∨
          fileCurrent platform files l transfer.readable = true
      · exact .inl ⟨htrusted, by simp [syncAsset, hlisting, hready, htrusted]⟩
      · refine .inr ?_
        simp only [syncAsset, hlisting, hready, Bool.not_true, Bool.false_eq_true, if_false,
          Bool.or_eq_true, if_neg htrusted]
        rcases downloadAssetFile platform files l transfer with ⟨files', ok⟩
        cases ok <;> rfl

/-- The sync of an asset leaves a file, removes it, or puts there what it received. -/
theorem syncAsset_get (stored : Option Manifest) (files : Files) (asset : AssetObject)
    (transfer : Transfer) (k : Bytes) :
    let files' := (syncAsset platform stored files asset transfer).1
    files'.get k = files.get k ∨ files'.get k = none ∨
      ∃ l, listing asset = some l ∧ Put platform l transfer files' k := by
  intro files'
  rcases syncAsset_cases platform stored files asset transfer with
    ⟨-, h⟩ | ⟨l, hlisting, -, ⟨-, h⟩ | h⟩ <;> simp only [files', h]
  · exact .inl trivial
  · exact .inl trivial
  · rcases download_get platform files l transfer k with hsame | hnone | hput
    · exact .inl hsame
    · exact .inr (.inl hnone)
    · exact .inr (.inr ⟨l, hlisting, hput⟩)

/-- The sync of an asset leaves all files but those of the asset. -/
theorem syncAsset_frame (stored : Option Manifest) (files : Files) (asset : AssetObject)
    (transfer : Transfer) {k : Bytes} (hk : ∀ l ∈ listing asset,
      k ≠ platform.finalFile l ∧ k ≠ platform.tempFile l) :
    (syncAsset platform stored files asset transfer).1.get k = files.get k := by
  rcases syncAsset_cases platform stored files asset transfer with
    ⟨-, h⟩ | ⟨l, hlisting, -, ⟨-, h⟩ | h⟩ <;> rw [h]
  obtain ⟨hfinal, htemp⟩ := hk l hlisting
  exact download_frame platform files l transfer hfinal htemp

/-- The stored manifest is right about the file of an asset. -/
def Trusted (stored : Option Manifest) (files : Files) (l : Listing) : Prop :=
  localManifestMatches platform files stored l = true → Right platform files l

variable {platform} in
/-- Trust is in one file only. -/
theorem Trusted.congr {files files' : Files} (h : Trusted platform stored files l)
    (hget : files'.get (platform.finalFile l) = files.get (platform.finalFile l)) :
    Trusted platform stored files' l := by
  intro hmatches
  have hsame : localManifestMatches platform files' stored l =
      localManifestMatches platform files stored l := by
    simp only [localManifestMatches, hget]
  obtain ⟨content, hcontent, hright⟩ := h (hsame ▸ hmatches)
  exact ⟨content, hget.trans hcontent, hright⟩

variable {platform} in
/-- A current file is right. -/
theorem fileCurrent_right {readable : Bool}
    (h : fileCurrent platform files l readable = true) : Right platform files l := by
  unfold fileCurrent at h
  split at h
  · cases h
  · rename_i content hcontent
    simp only [Bool.and_eq_true, decide_eq_true_eq] at h
    exact ⟨content, hcontent, h.1.1, h.2⟩

variable {platform} in
/-- **An asset that does not fail is right afterwards**, if the stored manifest can be trusted. -/
theorem syncAsset_right
    (hmissing : transfer.missing = 0)
    (htrust : ∀ l, listing asset = some l → Trusted platform stored files l)
    (h : (syncAsset platform stored files asset transfer).2 ≠ .failed) :
    ∃ l, listing asset = some l ∧
      Right platform (syncAsset platform stored files asset transfer).1 l := by
  rcases syncAsset_cases platform stored files asset transfer with
    ⟨-, heq⟩ | ⟨l, hlisting, -, ⟨hcurrent, heq⟩ | heq⟩ <;> rw [heq] at h ⊢
  · exact absurd rfl h
  · refine ⟨l, hlisting, ?_⟩
    rcases hcurrent with hmatches | hcurrent
    · exact htrust l hlisting hmatches
    · exact fileCurrent_right hcurrent
  · refine ⟨l, hlisting, download_right hmissing ?_⟩
    by_contra hfalse
    exact h (if_neg hfalse)

/-! ### All assets -/

/-- The loop leaves all files but those of its assets. -/
theorem syncAssets_frame (stored : Option Manifest) (files : Files)
    (assets : List (AssetObject × Transfer)) {k : Bytes}
    (hk : ∀ asset ∈ assets, ∀ l ∈ listing asset.1,
      k ≠ platform.finalFile l ∧ k ≠ platform.tempFile l) :
    (syncAssets platform stored files assets).1.get k = files.get k := by
  induction assets generalizing files with
  | nil => rfl
  | cons asset assets ih =>
    obtain ⟨hasset, hassets⟩ := List.forall_mem_cons.mp hk
    exact (ih _ hassets).trans (syncAsset_frame platform stored files asset.1 asset.2 hasset)

/-- What the loop does to a file. -/
theorem syncAssets_get (stored : Option Manifest) (files : Files)
    (assets : List (AssetObject × Transfer)) (k : Bytes) :
    let files' := (syncAssets platform stored files assets).1
    files'.get k = files.get k ∨ files'.get k = none ∨
      ∃ asset ∈ assets, ∃ l, listing asset.1 = some l ∧ Put platform l asset.2 files' k := by
  induction assets generalizing files with
  | nil => exact .inl rfl
  | cons asset assets ih =>
    intro files'
    rcases ih (syncAsset platform stored files asset.1 asset.2).1 with hsame | hnone | hput
    · -- the other assets leave the file as the first one did
      have hsame : files'.get k = _ := hsame
      rcases syncAsset_get platform stored files asset.1 asset.2 k with hfirst | hfirst | hfirst
      · exact .inl (hsame.trans hfirst)
      · exact .inr (.inl (hsame.trans hfirst))
      · obtain ⟨l, hlisting, hk, hsucceeds, data, hdata, hget⟩ := hfirst
        exact .inr (.inr ⟨asset, List.mem_cons_self, l, hlisting, hk, hsucceeds, data, hdata,
          hsame.trans hget⟩)
    · exact .inr (.inl hnone)
    · obtain ⟨other, hmem, hrest⟩ := hput
      exact .inr (.inr ⟨other, List.mem_cons_of_mem _ hmem, hrest⟩)

variable {platform} in
/-- **If no asset fails, all are right afterwards.** -/
theorem syncAssets_right
    {assets : List (AssetObject × Transfer)} (hseparate : Separate platform (assets.map Prod.fst))
    (hmissing : ∀ asset ∈ assets, asset.2.missing = 0)
    (htrust : ∀ asset ∈ assets, ∀ l, listing asset.1 = some l → Trusted platform stored files l)
    (h : .failed ∉ (syncAssets platform stored files assets).2) :
    ∀ asset ∈ assets, ∃ l, listing asset.1 = some l ∧
      Right platform (syncAssets platform stored files assets).1 l := by
  induction assets generalizing files with
  | nil =>
    intro asset hmem
    cases hmem
  | cons asset assets ih =>
    obtain ⟨hfirst, hrest⟩ := List.pairwise_cons.mp hseparate
    obtain ⟨hmissing₁, hmissing₂⟩ := List.forall_mem_cons.mp hmissing
    obtain ⟨htrust₁, htrust₂⟩ := List.forall_mem_cons.mp htrust
    have hnotFailed := not_or.mp (List.mem_cons.not.mp h)
    -- the first asset touches no file of the others
    have hothers : ∀ other ∈ assets, ∀ l', listing other.1 = some l' →
        (syncAsset platform stored files asset.1 asset.2).1.get (platform.finalFile l') =
          files.get (platform.finalFile l') := by
      intro other hmem l' hl'
      apply syncAsset_frame
      intro l hl
      obtain ⟨hfinal, htemp, -⟩ := hfirst other.1 (List.mem_map_of_mem hmem) l hl l' hl'
      exact ⟨hfinal.symm, htemp.symm⟩
    have htail := ih hrest hmissing₂
      (fun other hmem l' hl' => (htrust₂ other hmem l' hl').congr (hothers other hmem l' hl'))
      hnotFailed.2
    obtain ⟨l, hl, content, hcontent, hright⟩ :=
      syncAsset_right hmissing₁ htrust₁ (Ne.symm hnotFailed.1)
    -- and the others touch no file of the first
    have hkept := syncAssets_frame platform stored
      (syncAsset platform stored files asset.1 asset.2).1 assets (k := platform.finalFile l)
      (by
        intro other hmem l' hl'
        obtain ⟨hfinal, -, htemp⟩ := hfirst other.1 (List.mem_map_of_mem hmem) l hl l' hl'
        exact ⟨hfinal, htemp.symm⟩)
    intro other hmem
    rcases List.mem_cons.mp hmem with rfl | hmem
    · exact ⟨l, hl, content, hkept.trans hcontent, hright⟩
    · exact htail other hmem

variable {platform} in
/-- A complete run has no asset that fails. -/
theorem syncAssets_complete (stored : Option Manifest) (files : Files)
    {assets : List (AssetObject × Transfer)}
    (h : ∀ asset ∈ assets, ∃ l, listing asset.1 = some l ∧ asset.2.ready = true ∧
      Succeeds platform l asset.2) :
    .failed ∉ (syncAssets platform stored files assets).2 := by
  induction assets generalizing files with
  | nil => exact List.not_mem_nil
  | cons asset assets ih =>
    obtain ⟨hfirst, hrest⟩ := List.forall_mem_cons.mp h
    have hne : Outcome.failed ≠ (syncAsset platform stored files asset.1 asset.2).2 := by
      obtain ⟨l, hl, hready, hsucceeds⟩ := hfirst
      rcases syncAsset_cases platform stored files asset.1 asset.2 with
        ⟨hnone, -⟩ | ⟨l', hl', -, ⟨-, heq⟩ | heq⟩
      · exact absurd ⟨l, hl, hready⟩ hnone
      · rw [heq]
        exact nofun
      · obtain rfl : l' = l := Option.some.inj (hl'.symm.trans hl)
        rw [heq, download_of_succeeds files hsucceeds]
        exact nofun
    exact List.not_mem_cons_of_ne_of_not_mem hne (ih _ hrest)

/-! ### Runs keep the stored manifest truthful -/

variable {platform}

/-- A truthful manifest can be trusted. -/
theorem trusted_of_truthful {card : Card} (h : Truthful platform card) (loaded : Bool)
    (hl : listing asset = some l) :
    Trusted platform (if loaded then card.manifest else none) card.files l := by
  cases loaded with
  | false => exact fun hmatches => nomatch hmatches
  | true =>
    intro hmatches
    simp only [if_true, localManifestMatches] at hmatches
    split at hmatches
    · cases hmatches
    · rename_i stored hstored
      rw [Bool.and_eq_true] at hmatches
      obtain ⟨hany, hsize⟩ := hmatches
      obtain ⟨old, hold, hentry⟩ := List.any_eq_true.mp hany
      split at hsize
      · cases hsize
      · rename_i content hcontent
        have hlength : content.length = l.size := of_decide_eq_true hsize
        have hentry : entry old = some ⟨l.mediaType, l.filename, l.sha256, some l.size⟩ :=
          of_decide_eq_true hentry
        refine ⟨content, hcontent, hlength, ?_⟩
        exact h stored hstored old hold _ hentry l.directory (listing_some hl).2 content hcontent
          (by rw [hlength])

/-- **A run that keeps the stored manifest keeps it truthful.** -/
theorem truthful_files {card : Card} {assets : List (AssetObject × Transfer)} {storing : Storing}
    {loaded : Bool} (h : Truthful platform card)
    (hgood : Good platform card ⟨some assets, loaded, storing⟩)
    (hincomplete : ¬Complete platform assets storing) (stored : Option Manifest) :
    Truthful platform { card with
      files := (syncAssets platform stored card.files assets).1 } := by
  obtain ⟨hfits, -, hdisguised⟩ := hgood assets rfl
  intro manifest hmanifest old hold e hentry directory hdirectory content hcontent hsize
  rcases syncAssets_get platform stored card.files assets
    (platform.file (finalPath directory e.filename)) with hsame | hnone | hput
  · exact h manifest hmanifest old hold e hentry directory hdirectory content
      (hsame.symm.trans hcontent) hsize
  · rw [hnone] at hcontent
    cases hcontent
  · obtain ⟨asset, hmem, l, hl, hfile, hsucceeds, data, hdata, hget⟩ := hput
    obtain ⟨hlength, hdigest⟩ := received_some hdata
    rw [hget, (hfits asset hmem).2, Nat.sub_zero, List.take_length] at hcontent
    cases hcontent
    by_contra hne
    refine hincomplete (hdisguised ⟨manifest, hmanifest, old, hold, asset, hmem, l, hl, ?_,
      hsucceeds⟩)
    refine ⟨e, directory, hentry, hdirectory, hfile, ?_, ?_⟩
    · rw [hsize, hlength]
    · rw [← hdigest]
      exact Ne.symm hne

/-- A manifest whose files are all right is truthful. -/
theorem truthful_of_right {assets : List (AssetObject × Transfer)}
    (h : ∀ asset ∈ assets, ∃ l, listing asset.1 = some l ∧ Right platform files l) :
    Truthful platform ⟨files, some (assets.map Prod.fst)⟩ := by
  intro manifest hmanifest old hold e hentry directory hdirectory content hcontent hsize
  cases hmanifest
  obtain ⟨asset, hmem, rfl⟩ := List.mem_map.mp hold
  obtain ⟨l, hl, content', hcontent', hlength, hdigest⟩ := h asset hmem
  obtain ⟨hlisted, hdestination⟩ := listing_some hl
  cases hlisted.symm.trans hentry
  cases hdestination.symm.trans hdirectory
  cases hcontent'.symm.trans hcontent
  exact hdigest

/-- All files of a run without failures are right. -/
theorem right_of_good {card : Card} {assets : List (AssetObject × Transfer)} {storing : Storing}
    {loaded : Bool} (h : Truthful platform card)
    (hgood : Good platform card ⟨some assets, loaded, storing⟩)
    (hnotFailed : .failed ∉ (syncAssets platform (if loaded then card.manifest else none)
      card.files assets).2) :
    ∀ asset ∈ assets, ∃ l, listing asset.1 = some l ∧
      Right platform (syncAssets platform (if loaded then card.manifest else none)
        card.files assets).1 l := by
  obtain ⟨hfits, hseparate, -⟩ := hgood assets rfl
  exact syncAssets_right hseparate (fun asset hmem => (hfits asset hmem).2)
    (fun _ _ _ hl => trusted_of_truthful h loaded hl) hnotFailed

/-- **The step lemma**: a good run leaves a truthful manifest. -/
theorem truthful_step (card : Card) (sync : Sync) (h : Truthful platform card)
    (hgood : Good platform card sync) : Truthful platform (syncAssetsOnce platform card sync).1 := by
  obtain ⟨served, loaded, storing⟩ := sync
  cases served with
  | none => exact h
  | some assets =>
    by_cases hfailed : .failed ∈ (syncAssets platform (if loaded then card.manifest else none)
      card.files assets).2
    · simp only [syncAssetsOnce, if_pos hfailed]
      exact truthful_files h hgood
        (fun hcomplete => syncAssets_complete _ _ hcomplete.1 hfailed) _
    · simp only [syncAssetsOnce, if_neg hfailed]
      cases storing with
      | kept => exact truthful_files h hgood (fun hcomplete => nomatch hcomplete.2) _
      | removed => exact fun _ hmanifest => nomatch hmanifest
      | stored => exact truthful_of_right (right_of_good h hgood hfailed)

/-! ### What is listed is there -/

theorem copyJsonString_eq (item item' : Option Bytes) (targetSize : ℕ) :
    (copyJsonString item targetSize <|> copyJsonString item' targetSize) =
      (nonempty item <|> nonempty item').map (·.take (targetSize - 1)) := by
  unfold copyJsonString
  cases nonempty item <;> rfl

/-- A text that is not cut off. -/
theorem map_take_eq_some {item : Option Bytes} {n : ℕ} {text : Bytes}
    (h : item.map (·.take n) = some text) (hfits : ∀ s ∈ item, s.length ≤ n) :
    item = some text := by
  obtain ⟨s, hs, rfl⟩ := Option.map_eq_some_iff.mp h
  rw [hs, List.take_of_length_le (hfits s hs)]

/-- The media types with a directory are short. -/
theorem length_of_destinationDir {mediaType directory : Bytes}
    (h : destinationDir mediaType = some directory) : mediaType.length < 15 := by
  unfold destinationDir at h
  split_ifs at h with h₁ h₂ h₃ h₄
  · rw [h₁]
    decide
  · rw [h₂]
    decide
  · rw [h₃]
    decide
  · rw [h₄]
    decide

/-- **A right file is present as it is listed.** -/
theorem present_of_right (hfits : Fits asset)
    (hl : listing asset = some l) (h : Right platform files l) : Present platform files asset := by
  obtain ⟨content, hcontent, hlength, hdigest⟩ := h
  obtain ⟨hentry, hdirectory⟩ := listing_some hl
  obtain ⟨hname, hsha, hnumber⟩ := hfits
  simp only [entry, bind, pure, Option.bind_eq_some_iff, Option.some.injEq, Entry.mk.injEq]
    at hentry
  obtain ⟨mediaType, hmedia, sha256, hcopied, filename, hfile, rfl, rfl, rfl, hsize⟩ := hentry
  rw [copyJsonString_eq] at hcopied hfile
  obtain ⟨number, hlisted, hvalue⟩ := Option.map_eq_some_iff.mp hsize
  have htype : asset.mediaType = some l.mediaType := by
    obtain ⟨text, htext, htake⟩ := Option.map_eq_some_iff.mp hmedia
    have hshort := length_of_destinationDir hdirectory
    rw [← htake, List.length_take] at hshort
    have hwhole : text.take (16 - 1) = text := List.take_of_length_le (by omega)
    rw [← htake, hwhole]
    exact (Option.filter_eq_some_iff.mp htext).1
  refine ⟨l.mediaType, l.filename, l.sha256, number, l.directory, content, htype,
    map_take_eq_some hfile hname, map_take_eq_some hcopied hsha, hlisted, hdirectory, hcontent, ?_,
    hdigest⟩
  rw [← hnumber number hlisted, hvalue, hlength]
  rfl

/-! ### All runs -/

/-- The card after some runs, of which the first finds no stored manifest. -/
def cardAfter (platform : Platform) (files : Files) (syncs : List Sync) : Card :=
  run (fun card sync => (syncAssetsOnce platform card sync).1) ⟨files, none⟩ syncs

/-- **Synced files are present.** -/
theorem synced_files_present (platform : Platform) (files : Files) (syncs : List Sync) (last : Sync)
    (hgood : AllSteps (fun card sync => (syncAssetsOnce platform card sync).1) (Good platform)
      ⟨files, none⟩ (syncs ++ [last]))
    {assets : List (AssetObject × Transfer)} (hserved : last.served = some assets)
    (hstatus : (syncAssetsOnce platform (cardAfter platform files syncs) last).2 = .current ∨
      (syncAssetsOnce platform (cardAfter platform files syncs) last).2 = .updated) :
    ∀ asset ∈ assets, Present platform
      (cardAfter platform files (syncs ++ [last])).files asset.1 := by
  obtain ⟨hsyncs, hlast, -⟩ := (allSteps_append _ _ _).mp hgood
  have htruthful : Truthful platform (cardAfter platform files syncs) :=
    run_invariant truthful_step (fun _ hmanifest => nomatch hmanifest) hsyncs
  have hafter : cardAfter platform files (syncs ++ [last]) =
      (syncAssetsOnce platform (cardAfter platform files syncs) last).1 := by
    rw [cardAfter, run_append]
    rfl
  rw [hafter]
  change Good platform (cardAfter platform files syncs) last at hlast
  generalize cardAfter platform files syncs = card at hlast htruthful hstatus ⊢
  obtain ⟨served, loaded, storing⟩ := last
  cases hserved
  by_cases hfailed : .failed ∈ (syncAssets platform (if loaded then card.manifest else none)
    card.files assets).2
  · simp [syncAssetsOnce, statusOf, hfailed] at hstatus
  · have hfiles : (syncAssetsOnce platform card ⟨some assets, loaded, storing⟩).1.files =
        (syncAssets platform (if loaded then card.manifest else none) card.files assets).1 := by
      simp only [syncAssetsOnce, if_neg hfailed]
      cases storing <;> rfl
    intro asset hmem
    obtain ⟨l, hl, hright⟩ := right_of_good htruthful hlast hfailed asset hmem
    rw [hfiles]
    exact present_of_right ((hlast assets rfl).1 asset hmem).1 hl hright

/-! ### Two sequences of runs -/

/-- The digests of two files. -/
def digestA : Bytes := ascii "ca978112ca1bbdcafac231b39a23dc4da786eff8147c4e72b9807785afee48bb"

def digestB : Bytes := ascii "3e23e8160039594a33894f6564e1b1348bbd7a0088d42c4acb73eeaed59c009d"

/-- A card with the files `a` and `b`, and no two names for one file. -/
def letters : Platform where
  file := id
  sha256 content :=
    if content = ascii "a" then digestA else if content = ascii "b" then digestB else []

/-- A sound of one byte. -/
def sound (digest : Bytes) : AssetObject :=
  { mediaType := some (ascii "sound"), filename := some (ascii "x.wav"), sha256 := some digest,
    sizeBytes := some 1 }

/-- A sync whose downloads succeed. -/
def soundSync (digest body : Bytes) : Sync :=
  ⟨some [(sound digest, { reads := [.chunk body true] })], true, .stored⟩

/-- A sync that replaces the sound, and fails at another asset. -/
def failedSync : Sync :=
  ⟨some [(sound digestB, { reads := [.chunk (ascii "b") true] }), ({}, { reads := [] })], true,
    .stored⟩

theorem sound_listing : listing (sound digestA) =
    some ⟨ascii "/sdcard/hexe/sounds", ascii "sound", ascii "x.wav", digestA, 1⟩ := by
  decide +kernel

/-- A run without failures is good. -/
theorem good_soundSync (card : Card) : Good letters card (soundSync digestA (ascii "a")) := by
  intro assets hserved
  cases hserved
  refine ⟨?_, List.pairwise_singleton _ _, fun _ => ⟨?_, rfl⟩⟩
  · intro asset hmem
    obtain rfl := List.mem_singleton.mp hmem
    refine ⟨⟨?_, ?_, ?_⟩, rfl⟩ <;> decide +kernel
  · intro asset hmem
    obtain rfl := List.mem_singleton.mp hmem
    exact ⟨_, sound_listing, rfl, rfl, by decide +kernel, rfl⟩

/-- The sound is there after it was downloaded, and found current. -/
theorem synced_files_present_sound :
    (syncAssetsOnce letters (cardAfter letters .empty [soundSync digestA (ascii "a")])
      (soundSync digestA (ascii "a"))).2 = .current ∧
    Present letters (cardAfter letters .empty
      ([soundSync digestA (ascii "a")] ++ [soundSync digestA (ascii "a")])).files
        (sound digestA) := by
  have hstatus : (syncAssetsOnce letters
      (cardAfter letters .empty [soundSync digestA (ascii "a")])
      (soundSync digestA (ascii "a"))).2 = .current := by decide +kernel
  refine ⟨hstatus, ?_⟩
  exact synced_files_present letters .empty [soundSync digestA (ascii "a")]
    (soundSync digestA (ascii "a")) ⟨good_soundSync _, good_soundSync _, trivial⟩ rfl (.inl hstatus)
    (sound digestA, _) List.mem_cons_self

/-- **A run trusts a file that a failed run replaced.** -/
theorem synced_file_wrong :
    (syncAssetsOnce letters
      (cardAfter letters .empty [soundSync digestA (ascii "a"), failedSync])
      (soundSync digestA (ascii "a"))).2 = .current ∧
    ¬Present letters (cardAfter letters .empty [soundSync digestA (ascii "a"), failedSync,
      soundSync digestA (ascii "a")]).files (sound digestA) := by
  refine ⟨by decide +kernel, ?_⟩
  rintro ⟨mediaType, name, digest, size, directory, content, hmedia, hname, hdigest, -, hdirectory,
    hcontent, -, hsha⟩
  have htype : (sound digestA).mediaType = some (ascii "sound") := rfl
  have hlisted : (sound digestA).name = some (ascii "x.wav") := by decide +kernel
  have hwanted : (sound digestA).digest = some digestA := by decide +kernel
  have hfolder : destinationDir (ascii "sound") = some (ascii "/sdcard/hexe/sounds") := by
    decide +kernel
  have hfound : (cardAfter letters .empty [soundSync digestA (ascii "a"), failedSync,
      soundSync digestA (ascii "a")]).files.get
        (letters.file (finalPath (ascii "/sdcard/hexe/sounds") (ascii "x.wav"))) =
      some (ascii "b") := by decide +kernel
  cases htype.symm.trans hmedia
  cases hlisted.symm.trans hname
  cases hwanted.symm.trans hdigest
  cases hfolder.symm.trans hdirectory
  cases hfound.symm.trans hcontent
  exact absurd hsha (by decide +kernel)

end HexeVoice.Firmware.AssetSync
