import HexeVoice.Endpoint.Media
import HexeVoice.Library.Machine
import Mathlib

/-!
# The store of media

`EndpointMediaService` of `endpoint/media.py`: the manifest, the directories of the assets, and
`store_upload`, `ensure_beep_sound` and `delete_asset` over them.

## The model

Of a call each file operation can raise: the first that does ends it, with what was written so far. The
directory of an asset and the manifest are entries of one directory, so an asset can have the name of
the manifest. Symbolic links and the manifest's own `updated_at` are left out.

## What is proved

**`media_agrees_iff`**: at every moment of a run each asset of the manifest has its one file, with the
size and the digest that are recorded and within the limit of its type, and no other file is in a
directory, exactly if every call `Keeps` that.
-/

namespace HexeVoice.Endpoint.Media

open HexeVoice.Library

variable {assetId : String}

/-! ### Files -/

/-- `EndpointMediaAsset`. -/
structure Asset where
  assetId : String
  mediaType : EndpointMediaType
  destination : String
  endpointPath : String
  filename : String
  sourceFilename : String
  contentType : String
  sizeBytes : ℕ
  sha256 : String
  metadata : JsonObject
  createdAt : String
  updatedAt : String

/-- `EndpointMediaLibrary.assets`. -/
abbrev Library := Dict String Asset

/-- What the media directory holds under a name. -/
inductive Entry where
  | directory (files : Dict String Bytes)
  | manifest (library : Library)
  /-- A manifest that was not written to its end. -/
  | torn

/-- The media directory. -/
structure Store where
  entries : Dict String Entry := .empty

/-- The file operations of a call that raise. -/
structure Faults where
  /-- `_load`. -/
  load : Bool := false
  /-- `path.exists()`. -/
  exist : Bool := false
  /-- `asset_dir.mkdir`. -/
  mkdir : Bool := false
  /-- `temp_path.write_bytes`, with what it has written if it has opened the file. -/
  writePayload : Option (Option Bytes) := none
  /-- `temp_path.replace(asset_dir / asset.filename)`. -/
  replacePayload : Bool := false
  /-- `path.unlink()`. -/
  unlink : Bool := false
  /-- `asset_dir.rmdir()`. -/
  rmdir : Bool := false
  /-- `media_dir.mkdir`. -/
  mkdirMedia : Bool := false
  /-- `temp_path.write_text`, which may have opened the file. -/
  writeManifest : Option Bool := none
  /-- `temp_path.replace(manifest_path)`. -/
  replaceManifest : Bool := false

def manifestName : String := "manifest.json"

/-- `_manifest_path.with_suffix(".json.tmp")`. -/
def manifestTemp : String := "manifest.json.tmp"

/-- `f".{asset.filename}.tmp"`. -/
def payloadTemp (filename : String) : String := "." ++ filename ++ ".tmp"

namespace Store

/-- The files in the directory of an asset. -/
def files (s : Store) (assetId : String) : Dict String Bytes :=
  match s.entries.get assetId with
  | some (.directory files) => files
  | _ => .empty

def setFiles (s : Store) (assetId : String) (files : Dict String Bytes) : Store where
  entries := s.entries.set assetId (.directory files)

/-- The name is that of a directory. -/
def isDirectory (s : Store) (name : String) : Bool :=
  match s.entries.get name with
  | some (.directory _) => true
  | _ => false

/-- The assets of the manifest. -/
def library (s : Store) : Library :=
  match s.entries.get manifestName with
  | some (.manifest library) => library
  | _ => .empty

def load (f : Faults) (s : Store) : Except MediaError Library :=
  if f.load then .error .os
  else
    match s.entries.get manifestName with
    | none => .ok .empty
    | some (.manifest library) => .ok library
    | some _ => .error .os

def save (f : Faults) (library : Library) (s : Store) : Store × Except MediaError Unit :=
  if f.mkdirMedia || s.isDirectory manifestTemp then (s, .error .os)
  else
    match f.writeManifest with
    | some false => (s, .error .os)
    | some true => (⟨s.entries.set manifestTemp .torn⟩, .error .os)
    | none =>
      let entries := s.entries.set manifestTemp (.manifest library)
      if f.replaceManifest || s.isDirectory manifestName then (⟨entries⟩, .error .os)
      else (⟨(entries.erase manifestTemp).set manifestName (.manifest library)⟩, .ok ())

/-- `asset_dir.mkdir(parents=True, exist_ok=True)`. -/
def mkdirAsset (f : Faults) (assetId : String) (s : Store) : Except MediaError Store :=
  if f.mkdir then .error .os
  else
    match s.entries.get assetId with
    | none => .ok (s.setFiles assetId .empty)
    | some (.directory _) => .ok s
    | some _ => .error .os

/-- The payload is written under another name, which then replaces the file. -/
def writePayload (f : Faults) (assetId filename : String) (payload : Bytes) (s : Store) :
    Store × Except MediaError Unit :=
  let temp := payloadTemp filename
  match f.writePayload with
  | some none => (s, .error .os)
  | some (some written) => (s.setFiles assetId ((s.files assetId).set temp written), .error .os)
  | none =>
    let files := (s.files assetId).set temp payload
    if f.replacePayload then (s.setFiles assetId files, .error .os)
    else (s.setFiles assetId ((files.erase temp).set filename payload), .ok ())

end Store

/-! ### Calls -/

/-- A call of `store_upload`, with the time and the digits of a new id. -/
structure Upload where
  mediaType : EndpointMediaType
  filename : String
  contentBase64 : String
  assetId : Option String := none
  contentType : Option String := none
  metadata : JsonObject := .empty
  overwrite : Bool := false
  uuid : Fin 32 → Fin 16
  now : String

variable (env : Env)

/-- `unsupported_media_extension`. -/
def unsupportedExtension {α : Type} (ext : String) (mediaType : EndpointMediaType) :
    Except MediaError α :=
  let label := if ext = "" then "<none>" else ext
  invalid "unsupported_media_extension" s!"{label} is not allowed for {mediaType.destination}."

/-- `store_upload` up to its first write: the manifest, the asset and its payload. -/
def acceptUpload (f : Faults) (u : Upload) (s : Store) :
    Except MediaError (Library × Asset × Bytes) := do
  let assetId ← safeAssetId u.uuid u.assetId
  let sourceFilename ← safeFilename u.filename
  let sourceExt := suffix sourceFilename
  if sourceExt ∉ u.mediaType.allowedExtensions then unsupportedExtension sourceExt u.mediaType
  else
    let library ← s.load f
    if (library.get assetId).isSome && !u.overwrite then
      .error (.validation
        { code := "duplicate_media_asset", message := "Media asset already exists.", statusCode := 409 })
    else
      match env.b64decode u.contentBase64 with
      | none => invalid "invalid_content_base64" "Content must be valid base64."
      | some sourceBytes =>
        let p ← prepareEndpointPayload env u.mediaType sourceFilename sourceBytes u.contentType u.metadata
        return (library,
          { assetId
            mediaType := u.mediaType
            destination := u.mediaType.destination
            endpointPath := s!"{u.mediaType.destinationPath}/{p.endpointFilename}"
            filename := p.endpointFilename
            sourceFilename
            contentType := p.contentType
            sizeBytes := p.endpointBytes.length
            sha256 := env.sha256 p.endpointBytes
            metadata := p.metadata
            createdAt := ((library.get assetId).map (·.createdAt)).getD u.now
            updatedAt := u.now },
          p.endpointBytes)

/-- The writes of `store_upload`. -/
def commitUpload (f : Faults) (library : Library) (asset : Asset) (payload : Bytes) (s : Store) :
    Store × Except MediaError Asset :=
  match s.mkdirAsset f asset.assetId with
  | .error e => (s, .error e)
  | .ok s =>
    match s.writePayload f asset.assetId asset.filename payload with
    | (s, .error e) => (s, .error e)
    | (s, .ok ()) =>
      match s.save f (library.set asset.assetId asset) with
      | (s, .error e) => (s, .error e)
      | (s, .ok ()) => (s, .ok asset)

def storeUpload (f : Faults) (u : Upload) (s : Store) : Store × Except MediaError Asset :=
  match acceptUpload env f u s with
  | .error e => (s, .error e)
  | .ok (library, asset, payload) => commitUpload f library asset payload s

/-- `media_asset_not_found`. -/
def notFound {α : Type} : Except MediaError α :=
  .error (.validation
    { code := "media_asset_not_found", message := "Media asset was not found.", statusCode := 404 })

/-- `payload_path`: the directory and the name. -/
def payloadPath (asset : Asset) : Except MediaError (String × String) := do
  let directory ← safeAssetId (fun _ => 0) (some asset.assetId)
  if asset.filename ∈ ["", ".", ".."] ∨ '/' ∈ asset.filename.toList then
    invalid "invalid_media_path" "Stored media path is invalid."
  else .ok (directory, asset.filename)

/-- A call of `ensure_beep_sound`. -/
structure Beep where
  assetId : String
  durationMs : ℤ
  frequencyHz : ℤ := 880
  amplitude : PyFloat
  uuid : Fin 32 → Fin 16
  now : String

/-- The upload of a beep. -/
def Beep.upload (b : Beep) : Upload where
  mediaType := .sound
  filename := s!"{b.assetId}.wav"
  contentBase64 := env.b64encode (env.buildBeepWav b.durationMs b.frequencyHz b.amplitude)
  assetId := some b.assetId
  contentType := some "audio/wav"
  metadata := Dict.empty.update [("builtin", .bool true), ("purpose", .str "remote_beep")]
  overwrite := true
  uuid := b.uuid
  now := b.now

/-- `ensure_beep_sound`: it looks the asset up, with operations of its own that may raise, and stores it
if it is not there. -/
def ensureBeepSound (lookup f : Faults) (b : Beep) (s : Store) : Store × Except MediaError Asset :=
  match s.load lookup with
  | .error e => (s, .error e)
  | .ok library =>
    match library.get b.assetId with
    | none => storeUpload env f (b.upload env) s
    | some asset =>
      match payloadPath asset with
      | .error e => (s, .error e)
      | .ok (directory, filename) =>
        if lookup.exist then (s, .error .os)
        else if ((s.files directory).get filename).isSome then (s, .ok asset)
        else storeUpload env f (b.upload env) s

/-- The writes of `delete_asset`. -/
def commitDelete (f : Faults) (library : Library) (asset : Asset) (directory filename : String)
    (s : Store) : Store × Except MediaError Asset :=
  if f.exist then (s, .error .os)
  else
    let there := ((s.files directory).get filename).isSome
    if there && f.unlink then (s, .error .os)
    else
      let s := if there then s.setFiles directory ((s.files directory).erase filename) else s
      let s : Store :=
        if s.isDirectory directory && (s.files directory).keys.isEmpty && !f.rmdir then
          ⟨s.entries.erase directory⟩
        else s
      match s.save f library with
      | (s, .error e) => (s, .error e)
      | (s, .ok ()) => (s, .ok asset)

def deleteAsset (f : Faults) (assetId : String) (s : Store) : Store × Except MediaError Asset :=
  match s.load f with
  | .error e => (s, .error e)
  | .ok library =>
    match library.get assetId with
    | none => (s, notFound)
    | some asset =>
      match payloadPath asset with
      | .error e => (s, .error e)
      | .ok (directory, filename) =>
        commitDelete f (library.erase assetId) asset directory filename s

/-- What the service is asked to do, and which operations of it raise. -/
inductive Call where
  | storeUpload (f : Faults) (u : Upload)
  | ensureBeepSound (lookup f : Faults) (b : Beep)
  | deleteAsset (f : Faults) (assetId : String)

/-- One call. -/
def step (s : Store) : Call → Store
  | .storeUpload f u => (storeUpload env f u s).1
  | .ensureBeepSound lookup f b => (ensureBeepSound env lookup f b s).1
  | .deleteAsset f assetId => (deleteAsset f assetId s).1

/-! ### What agrees -/

/-- A record, if there is one, is that of the only file. -/
def AgreesAt (asset : Option Asset) (files : Dict String Bytes) : Prop :=
  match asset with
  | none => ∀ name, files.get name = none
  | some asset =>
    asset.sizeBytes ≤ asset.mediaType.maxBytes ∧
      ∃ payload, payload.length = asset.sizeBytes ∧ env.sha256 payload = asset.sha256 ∧
        ∀ name, files.get name = if name = asset.filename then some payload else none

/-- The manifest and the files agree. -/
def Agrees (s : Store) : Prop := ∀ assetId, AgreesAt env (s.library.get assetId) (s.files assetId)

/-! ### The condition -/

/-- `_save` comes to its end. -/
def canSave (f : Faults) (s : Store) : Bool :=
  !f.mkdirMedia && !s.isDirectory manifestTemp && f.writeManifest.isNone && !f.replaceManifest &&
    !s.isDirectory manifestName

/-- The writes of an upload leave what agrees: nothing is written; or all is, over no file of another
name, and within the limit; or the manifest cannot be saved, and says the same of the payload already. -/
def UploadKeeps (f : Faults) (u : Upload) (library : Library) (asset : Asset) (payload : Bytes)
    (s : Store) : Prop :=
  (s.mkdirAsset f asset.assetId).toOption.isSome → f.writePayload ≠ some none →
    f.writePayload = none ∧ f.replacePayload = false ∧
      if canSave f s = true ∧ asset.assetId ≠ manifestName ∧ asset.assetId ≠ manifestTemp then
        (∀ old, library.get asset.assetId = some old → old.filename = asset.filename) ∧
          (u.mediaType = .picture → suffix asset.sourceFilename = ".rgb888" →
            payload.length ≤ pictureMaxBytes)
      else
        ∃ old, library.get asset.assetId = some old ∧ old.filename = asset.filename ∧
          payload.length = old.sizeBytes ∧ env.sha256 payload = old.sha256

/-- A call that writes comes to its end. -/
def Keeps (s : Store) : Call → Prop
  | .storeUpload f u => ∀ library asset payload,
      acceptUpload env f u s = .ok (library, asset, payload) →
        UploadKeeps env f u library asset payload s
  | .ensureBeepSound lookup f b => s.load lookup = .ok s.library → s.library.get b.assetId = none →
      ∀ library asset payload, acceptUpload env f (b.upload env) s = .ok (library, asset, payload) →
        UploadKeeps env f (b.upload env) library asset payload s
  | .deleteAsset f assetId => s.load f = .ok s.library → (s.library.get assetId).isSome →
      f.exist = false → f.unlink = false → canSave f s = true

variable {env}

/-! ### File operations -/

namespace Store

variable {f : Faults} {s t : Store} {assetId : String}

theorem load_ok {library : Library} (h : s.load f = .ok library) : library = s.library := by
  unfold load at h
  unfold Store.library
  split_ifs at h
  split at h <;> cases h
  · simp only [*]
  · simp only [*]

theorem files_setFiles (files : Dict String Bytes) (other : String) :
    (s.setFiles assetId files).files other = if other = assetId then files else s.files other := by
  unfold Store.files setFiles
  rw [Dict.get_set]
  split_ifs <;> rfl

theorem isDirectory_setFiles (files : Dict String Bytes) (name : String) :
    (s.setFiles assetId files).isDirectory name = (s.isDirectory name || decide (name = assetId)) := by
  unfold isDirectory setFiles
  rw [Dict.get_set]
  split_ifs with hname
  · simp [hname]
  · simp [hname]

/-- The manifest is not in the directory of an asset. -/
theorem library_setFiles (h : ∀ library, s.entries.get assetId ≠ some (.manifest library))
    (files : Dict String Bytes) : (s.setFiles assetId files).library = s.library := by
  unfold Store.library setFiles
  rw [Dict.get_set]
  split_ifs with hname
  · rw [hname]
    cases hentry : s.entries.get assetId with
    | none => rfl
    | some entry =>
      cases entry with
      | manifest library => exact absurd hentry (h library)
      | directory files => rfl
      | torn => rfl
  · rfl

theorem not_manifest (h : s.isDirectory assetId = true) (library : Library) :
    s.entries.get assetId ≠ some (.manifest library) := by
  intro hentry
  simp [isDirectory, hentry] at h

/-- The directory is there, and nothing else has changed. -/
structure Prepared (s t : Store) (assetId : String) : Prop where
  files : ∀ other, t.files other = s.files other
  library : t.library = s.library
  isDirectory : ∀ name, t.isDirectory name = (s.isDirectory name || decide (name = assetId))

theorem mkdirAsset_prepared (h : s.mkdirAsset f assetId = .ok t) : Prepared s t assetId := by
  unfold mkdirAsset at h
  split_ifs at h
  split at h
  next hentry =>
    cases h
    have hempty : s.files assetId = .empty := by simp only [Store.files, hentry]
    refine ⟨fun other => ?_, library_setFiles (by simp [hentry]) _, isDirectory_setFiles _⟩
    rw [files_setFiles]
    split_ifs with hother
    · rw [hother, hempty]
    · rfl
  next files hentry =>
    cases h
    refine ⟨fun _ => rfl, rfl, fun name => ?_⟩
    have hdirectory : s.isDirectory assetId = true := by simp only [isDirectory, hentry]
    by_cases hname : name = assetId
    · rw [hname, hdirectory, Bool.true_or]
    · simp [hname]
  next => cases h

theorem files_of_not_directory (h : s.isDirectory assetId = false) : s.files assetId = .empty := by
  unfold Store.files
  unfold isDirectory at h
  split
  next hentry => simp [hentry] at h
  next => rfl

/-- Files outside the directories of the assets do not change what is in these. -/
theorem files_congr (h : ∀ other, t.entries.get other = s.entries.get other ∨
    (s.isDirectory other = false ∧ t.isDirectory other = false)) (other : String) :
    t.files other = s.files other := by
  obtain hsame | ⟨hs, ht⟩ := h other
  · simp only [Store.files, hsame]
  · rw [files_of_not_directory hs, files_of_not_directory ht]

theorem manifestName_ne_temp : manifestName ≠ manifestTemp := by decide

/-- What is set in place of what is no directory, and is none. -/
theorem get_set_file (entry : Entry) {name : String} (hname : s.isDirectory name = false)
    (hentry : ∀ files, entry ≠ .directory files) (other : String) :
    (s.entries.set name entry).get other = s.entries.get other ∨
      (s.isDirectory other = false ∧ isDirectory ⟨s.entries.set name entry⟩ other = false) := by
  by_cases hother : other = name
  · refine .inr ⟨hother ▸ hname, ?_⟩
    unfold isDirectory
    rw [hother, Dict.get_set_self]
    cases entry with
    | directory files => exact absurd rfl (hentry files)
    | manifest library => rfl
    | torn => rfl
  · exact .inl (Dict.get_set_of_ne _ _ hother)

/-- What is set or erased under another name is not the manifest. -/
theorem library_congr (h : t.entries.get manifestName = s.entries.get manifestName) :
    t.library = s.library := by
  simp only [Store.library, h]

/-- A manifest that is saved is the one that is loaded, and nothing else is. -/
theorem save_spec (f : Faults) (s : Store) (library : Library) :
    (∀ other, (s.save f library).1.files other = s.files other) ∧
      (s.save f library).1.library = if canSave f s then library else s.library := by
  have htorn (library : Library) : ∀ files, Entry.manifest library ≠ .directory files := nofun
  unfold save canSave
  cases hmkdir : f.mkdirMedia with
  | true => simp
  | false =>
  cases htemp : s.isDirectory manifestTemp with
  | true => simp
  | false =>
  simp only [Bool.or_self, Bool.false_eq_true, if_false]
  match hwrite : f.writeManifest with
  | some false => simp
  | some true =>
    refine ⟨files_congr (get_set_file .torn htemp nofun), ?_⟩
    exact library_congr (Dict.get_set_of_ne _ _ manifestName_ne_temp)
  | none =>
    have hwritten := get_set_file (.manifest library) htemp (htorn library)
    cases hreplace : f.replaceManifest || s.isDirectory manifestName with
    | true =>
      simp only [if_true]
      refine ⟨files_congr hwritten, ?_⟩
      have hfails : (!f.replaceManifest && !s.isDirectory manifestName) = false := by
        rw [← Bool.not_or, hreplace, Bool.not_true]
      rw [Bool.and_assoc, hfails, Bool.and_false]
      exact library_congr (Dict.get_set_of_ne _ _ manifestName_ne_temp)
    | false =>
      obtain ⟨hreplaced, hname⟩ := Bool.or_eq_false_iff.mp hreplace
      simp only [Bool.false_eq_true, if_false]
      refine ⟨files_congr fun other => ?_, ?_⟩
      · by_cases hmanifest : other = manifestName
        · refine .inr ⟨hmanifest ▸ hname, ?_⟩
          simp only [isDirectory, hmanifest, Dict.get_set_self]
        · rw [Dict.get_set_of_ne _ _ hmanifest, Dict.get_erase]
          by_cases hother : other = manifestTemp
          · refine .inr ⟨hother ▸ htemp, ?_⟩
            simp only [isDirectory, Dict.get_set_of_ne _ _ hmanifest, Dict.get_erase, if_pos hother]
          · rw [if_neg hother]
            exact .inl (Dict.get_set_of_ne _ _ hother)
      · simp only [Store.library, Dict.get_set_self, hreplaced, hname, Option.isNone_none, Bool.not_false,
          Bool.and_self, if_true]

end Store

/-! ### Records -/

/-- A record is stored under its own id, which is no name of the manifest. -/
structure Sound (asset : Asset) (assetId : String) : Prop where
  key : asset.assetId = assetId
  id : SafeId assetId
  filename : SafeName asset.filename
  not_manifest : assetId ≠ manifestName ∧ assetId ≠ manifestTemp

/-- The records of the manifest are sound. -/
def AllSound (s : Store) : Prop :=
  ∀ assetId asset, s.library.get assetId = some asset → Sound asset assetId

theorem payloadPath_sound {asset : Asset} (h : Sound asset assetId) :
    payloadPath asset = .ok (assetId, asset.filename) := by
  have hname : ¬ (asset.filename ∈ ["", ".", ".."] ∨ '/' ∈ asset.filename.toList) := by
    rintro (hmem | hslash)
    · obtain ⟨hnonempty, hdot, -⟩ := h.filename
      simp only [List.mem_cons, List.not_mem_nil, or_false] at hmem
      obtain hmem | hmem | hmem := hmem
      · exact hnonempty (by rw [hmem]; rfl)
      · exact hdot (by rw [hmem]; rfl)
      · exact hdot (by rw [hmem]; rfl)
    · exact h.filename.no_slash hslash
  rw [payloadPath, h.key, h.id.safeAssetId, except_ok_bind, if_neg hname]

section calls

variable {f : Faults} {u : Upload} {s : Store} {library : Library} {asset : Asset} {payload : Bytes}
variable {files : Dict String Bytes} {record : Option Asset}

/-- What is accepted, and why. -/
structure Accepted (env : Env) (u : Upload) (s : Store) (library : Library) (asset : Asset)
    (payload : Bytes) : Prop where
  library : library = s.library
  id : SafeId asset.assetId
  filename : SafeName asset.filename
  size : asset.sizeBytes = payload.length
  digest : asset.sha256 = env.sha256 payload
  fits_iff : asset.sizeBytes ≤ asset.mediaType.maxBytes ↔
    (u.mediaType = .picture → suffix asset.sourceFilename = ".rgb888" →
      payload.length ≤ pictureMaxBytes)

theorem acceptUpload_accepted (h : acceptUpload env f u s = .ok (library, asset, payload)) :
    Accepted env u s library asset payload := by
  unfold acceptUpload at h
  obtain ⟨assetId, hid, h⟩ := except_bind_eq_ok.mp h
  obtain ⟨sourceFilename, hsource, h⟩ := except_bind_eq_ok.mp h
  simp only at h
  split_ifs at h with hext
  case neg => exact absurd h not_invalid
  obtain ⟨loaded, hload, h⟩ := except_bind_eq_ok.mp h
  split_ifs at h with hduplicate
  split at h
  · exact absurd h not_invalid
  next sourceBytes _ =>
    obtain ⟨p, hprepared, h⟩ := except_bind_eq_ok.mp h
    cases h
    refine ⟨Store.load_ok hload, safeAssetId_safe hid, prepareEndpointPayload_name hsource hprepared, rfl,
      rfl, ?_⟩
    constructor
    · intro hfits hpicture _
      rw [hpicture] at hfits
      exact hfits
    · intro hlimit
      by_cases hraw : u.mediaType = .picture ∧ suffix sourceFilename = ".rgb888"
      · have hfits : p.endpointBytes.length ≤ pictureMaxBytes := hlimit hraw.1 hraw.2
        rw [hraw.1]
        exact hfits
      · exact (prepareEndpointPayload_fits_iff hprepared).mpr fun hpicture h888 =>
          absurd ⟨hpicture, h888⟩ hraw

/-- Where all but one of the assets is as before, that one decides. -/
theorem agrees_iff_at {s t : Store} (assetId : String) (h : Agrees env s)
    (hother : ∀ other, other ≠ assetId →
      t.library.get other = s.library.get other ∧ t.files other = s.files other) :
    Agrees env t ↔ AgreesAt env (t.library.get assetId) (t.files assetId) := by
  refine ⟨fun hagrees => hagrees assetId, fun hat other => ?_⟩
  by_cases hsame : other = assetId
  · rw [hsame]
    exact hat
  · rw [(hother other hsame).1, (hother other hsame).2]
    exact h other

theorem agrees_congr {s t : Store} (hlibrary : t.library = s.library)
    (hfiles : ∀ other, t.files other = s.files other) : Agrees env t ↔ Agrees env s := by
  unfold Agrees
  rw [hlibrary]
  simp only [hfiles]

/-! ### Writing a payload -/

/-- A file with a temporary name is no recorded one. -/
theorem temp_absent
    (filename : String) (h : AgreesAt env record files) (hsound : ∀ asset ∈ record, Sound asset assetId) :
    files.get (payloadTemp filename) = none := by
  cases record with
  | none => exact h _
  | some asset =>
    obtain ⟨-, payload, -, -, hfiles⟩ := h
    rw [hfiles, if_neg]
    intro hname
    have hdot := (hsound asset rfl).filename.no_dot
    rw [← hname, payloadTemp, String.toList_append, String.toList_append] at hdot
    exact hdot rfl

/-- Before the payload replaces the file of its name. -/
theorem not_agreesAt_temp
    {assetId filename : String} (hsound : ∀ asset ∈ record, Sound asset assetId) (content : Bytes) :
    ¬ AgreesAt env record (files.set (payloadTemp filename) content) := by
  intro h
  have habsent := temp_absent filename h hsound
  rw [Dict.get_set_self] at habsent
  cases habsent

/-- The files once the payload has replaced the file of its name. -/
def replaced (files : Dict String Bytes) (filename : String) (payload : Bytes) : Dict String Bytes :=
  ((files.set (payloadTemp filename) payload).erase (payloadTemp filename)).set filename payload

theorem get_replaced {filename : String}
    (habsent : files.get (payloadTemp filename) = none) (payload : Bytes) (name : String) :
    (replaced files filename payload).get name = if name = filename then some payload else files.get name := by
  rw [replaced, Dict.get_set]
  split_ifs with hname
  · rfl
  · rw [Dict.erase_set, Dict.get_erase]
    split_ifs with htemp
    · rw [htemp, habsent]
    · rfl

/-- The new record agrees if it fits, and no file of another name was recorded. -/
theorem agreesAt_saved_iff
    (h : AgreesAt env record files) (hsound : ∀ asset ∈ record, Sound asset assetId)
    (hsize : asset.sizeBytes = payload.length) (hdigest : asset.sha256 = env.sha256 payload) :
    AgreesAt env (some asset) (replaced files asset.filename payload) ↔
      asset.sizeBytes ≤ asset.mediaType.maxBytes ∧ ∀ old ∈ record, old.filename = asset.filename := by
  have hget := get_replaced (temp_absent asset.filename h hsound) payload
  constructor
  · rintro ⟨hfits, payload', -, -, hfiles⟩
    refine ⟨hfits, ?_⟩
    rintro old rfl
    obtain ⟨-, oldPayload, -, -, hold⟩ := h
    by_contra hother
    have hstale := hget old.filename
    rw [hfiles, if_neg hother, if_neg hother, hold, if_pos rfl] at hstale
    cases hstale
  · rintro ⟨hfits, hold⟩
    refine ⟨hfits, payload, hsize.symm, hdigest.symm, fun name => ?_⟩
    rw [hget]
    split_ifs with hname
    · rfl
    · cases record with
      | none => exact h name
      | some old =>
        obtain ⟨-, oldPayload, -, -, hfiles⟩ := h
        rw [hfiles, if_neg]
        rwa [hold old rfl]

/-- The old record agrees if it is the same of the payload. -/
theorem agreesAt_unsaved_iff
    {assetId filename : String} (h : AgreesAt env record files)
    (hsound : ∀ asset ∈ record, Sound asset assetId) :
    AgreesAt env record (replaced files filename payload) ↔
      ∃ old, record = some old ∧ old.filename = filename ∧ payload.length = old.sizeBytes ∧
        env.sha256 payload = old.sha256 := by
  have hget := get_replaced (temp_absent filename h hsound) payload
  constructor
  · intro hagrees
    have hthere := hget filename
    rw [if_pos rfl] at hthere
    cases record with
    | none => cases (hagrees filename).symm.trans hthere
    | some old =>
      obtain ⟨-, payload', hlength, hsha, hfiles⟩ := hagrees
      rw [hfiles] at hthere
      split_ifs at hthere with hname
      cases hthere
      exact ⟨old, rfl, hname.symm, hlength, hsha⟩
  · rintro ⟨old, rfl, rfl, hlength, hsha⟩
    obtain ⟨hfits, oldPayload, -, -, hold⟩ := h
    refine ⟨hfits, payload, hlength, hsha, fun name => ?_⟩
    rw [hget]
    split_ifs with hname
    · rfl
    · rw [hold, if_neg hname]

/-- What is in the store once the files of a directory that is there were changed. -/
theorem setFiles_prepared {t : Store} (h : Store.Prepared s t assetId) (files : Dict String Bytes) :
    (∀ other, (t.setFiles assetId files).files other =
        if other = assetId then files else s.files other) ∧
      (t.setFiles assetId files).library = s.library ∧
      ∀ f, canSave f (t.setFiles assetId files) = true ↔
        canSave f s = true ∧ assetId ≠ manifestName ∧ assetId ≠ manifestTemp := by
  have hdirectory : t.isDirectory assetId = true := by simp [h.isDirectory]
  refine ⟨fun other => ?_, ?_, fun f => ?_⟩
  · rw [Store.files_setFiles, h.files]
  · rw [Store.library_setFiles (Store.not_manifest hdirectory), h.library]
  · simp only [canSave, Store.isDirectory_setFiles, h.isDirectory, Bool.or_assoc, Bool.or_self,
      Bool.not_or, Bool.and_eq_true, Bool.not_eq_true', decide_eq_false_iff_not]
    constructor
    · rintro ⟨⟨⟨⟨hmkdir, htemp, hidtemp⟩, hwrite⟩, hreplace⟩, hname, hidname⟩
      exact ⟨⟨⟨⟨⟨hmkdir, htemp⟩, hwrite⟩, hreplace⟩, hname⟩, Ne.symm hidname, Ne.symm hidtemp⟩
    · rintro ⟨⟨⟨⟨⟨hmkdir, htemp⟩, hwrite⟩, hreplace⟩, hname⟩, hidname, hidtemp⟩
      exact ⟨⟨⟨⟨hmkdir, htemp, hidtemp.symm⟩, hwrite⟩, hreplace⟩, hname, hidname.symm⟩

/-- What is left by an upload whose payload is written. -/
theorem commitUpload_written {t : Store} (hmkdir : s.mkdirAsset f asset.assetId = .ok t)
    (hwrite : f.writePayload = none) (hreplace : f.replacePayload = false) :
    (commitUpload f library asset payload s).1 =
      ((t.setFiles asset.assetId (replaced (t.files asset.assetId) asset.filename payload)).save f
        (library.set asset.assetId asset)).1 := by
  have hwritten : t.writePayload f asset.assetId asset.filename payload =
      (t.setFiles asset.assetId (replaced (t.files asset.assetId) asset.filename payload), .ok ()) := by
    simp only [Store.writePayload, hwrite, hreplace, Bool.false_eq_true, if_false, replaced]
  rw [commitUpload, hmkdir]
  simp only [hwritten]
  split
  next hsave => rw [hsave]
  next hsave => rw [hsave]

/-- **An upload leaves what agrees exactly if its writes do.** -/
theorem commitUpload_agrees_iff (h : Agrees env s) (hsound : AllSound s)
    (haccepted : Accepted env u s library asset payload) :
    Agrees env (commitUpload f library asset payload s).1 ↔
      UploadKeeps env f u library asset payload s := by
  obtain ⟨rfl, -, -, hsize, hdigest, hfits⟩ := haccepted
  have hrecord : ∀ old ∈ s.library.get asset.assetId, Sound old asset.assetId :=
    fun old hold => hsound asset.assetId old hold
  unfold UploadKeeps
  cases hmkdir : s.mkdirAsset f asset.assetId with
  | error e =>
    rw [commitUpload, hmkdir]
    exact iff_of_true h nofun
  | ok t =>
    have hprepared := Store.mkdirAsset_prepared hmkdir
    have hfiles : t.files asset.assetId = s.files asset.assetId := hprepared.files asset.assetId
    have hwhole : (Except.ok t : Except MediaError Store).toOption.isSome = true := rfl
    rw [imp_iff_right hwhole]
    match hwrite : f.writePayload with
    | some none =>
      simp only [commitUpload, hmkdir, Store.writePayload, hwrite]
      exact iff_of_true ((agrees_congr hprepared.library hprepared.files).mpr h) fun hne => absurd rfl hne
    | some (some written) =>
      simp only [commitUpload, hmkdir, Store.writePayload, hwrite]
      refine iff_of_false ?_ fun hkeeps => ?_
      · obtain ⟨hset, hlibrary, -⟩ := setFiles_prepared hprepared
          ((t.files asset.assetId).set (payloadTemp asset.filename) written)
        intro hagrees
        have hat := hagrees asset.assetId
        rw [hset, hlibrary, if_pos rfl] at hat
        exact not_agreesAt_temp hrecord written hat
      · have hnone := (hkeeps (by simp)).1
        cases hnone
    | none =>
      have hopened : (none : Option (Option Bytes)) ≠ some none := nofun
      rw [imp_iff_right hopened, and_iff_right rfl]
      cases hreplace : f.replacePayload with
      | true =>
        simp only [commitUpload, hmkdir, Store.writePayload, hwrite, hreplace]
        refine iff_of_false ?_ fun hkeeps => ?_
        · obtain ⟨hset, hlibrary, -⟩ := setFiles_prepared hprepared
            ((t.files asset.assetId).set (payloadTemp asset.filename) payload)
          intro hagrees
          have hat := hagrees asset.assetId
          simp only [if_true] at hat
          rw [hset, hlibrary, if_pos rfl] at hat
          exact not_agreesAt_temp hrecord payload hat
        · cases hkeeps.1
      | false =>
        rw [and_iff_right rfl, commitUpload_written hmkdir hwrite hreplace, hfiles]
        obtain ⟨hset, hlibrary, hcan⟩ := setFiles_prepared hprepared
          (replaced (s.files asset.assetId) asset.filename payload)
        obtain ⟨hsaved, hmanifest⟩ := Store.save_spec f (t.setFiles asset.assetId
          (replaced (s.files asset.assetId) asset.filename payload)) (s.library.set asset.assetId asset)
        have hat : AgreesAt env (s.library.get asset.assetId) (s.files asset.assetId) := h asset.assetId
        rw [hlibrary] at hmanifest
        by_cases hcansave : canSave f (t.setFiles asset.assetId
            (replaced (s.files asset.assetId) asset.filename payload)) = true
        · rw [if_pos ((hcan f).mp hcansave)]
          rw [if_pos hcansave] at hmanifest
          rw [agrees_iff_at asset.assetId h, hmanifest, hsaved, hset, if_pos rfl, Dict.get_set_self,
            agreesAt_saved_iff hat hrecord hsize hdigest, hfits, and_comm]
          · rfl
          · intro other hother
            rw [hmanifest, hsaved, hset, if_neg hother, Dict.get_set_of_ne _ _ hother]
            exact ⟨rfl, rfl⟩
        · rw [if_neg fun hboth => hcansave ((hcan f).mpr hboth)]
          rw [if_neg hcansave] at hmanifest
          rw [agrees_iff_at asset.assetId h, hmanifest, hsaved, hset, if_pos rfl,
            agreesAt_unsaved_iff hat hrecord]
          intro other hother
          rw [hmanifest, hsaved, hset, if_neg hother]
          exact ⟨rfl, rfl⟩

/-- The manifest after an upload. -/
theorem commitUpload_library (f : Faults) (asset : Asset) (payload : Bytes)
    (hlibrary : library = s.library) :
    (commitUpload f library asset payload s).1.library = s.library ∨
      ((commitUpload f library asset payload s).1.library = s.library.set asset.assetId asset ∧
        asset.assetId ≠ manifestName ∧ asset.assetId ≠ manifestTemp) := by
  subst hlibrary
  cases hmkdir : s.mkdirAsset f asset.assetId with
  | error e =>
    rw [commitUpload, hmkdir]
    exact .inl rfl
  | ok t =>
    have hprepared := Store.mkdirAsset_prepared hmkdir
    match hwrite : f.writePayload with
    | some none =>
      simp only [commitUpload, hmkdir, Store.writePayload, hwrite]
      exact .inl hprepared.library
    | some (some written) =>
      simp only [commitUpload, hmkdir, Store.writePayload, hwrite]
      exact .inl (setFiles_prepared hprepared _).2.1
    | none =>
      cases hreplace : f.replacePayload with
      | true =>
        simp only [commitUpload, hmkdir, Store.writePayload, hwrite, hreplace, if_true]
        exact .inl (setFiles_prepared hprepared _).2.1
      | false =>
        rw [commitUpload_written hmkdir hwrite hreplace, (Store.save_spec _ _ _).2]
        obtain ⟨-, hlibrary, hcan⟩ := setFiles_prepared hprepared
          (replaced (t.files asset.assetId) asset.filename payload)
        split_ifs with hcansave
        · exact .inr ⟨rfl, ((hcan f).mp hcansave).2⟩
        · exact .inl hlibrary

theorem commitUpload_allSound (hsound : AllSound s)
    (haccepted : Accepted env u s library asset payload) :
    AllSound (commitUpload f library asset payload s).1 := by
  intro assetId record hget
  obtain hsame | ⟨hset, hid⟩ := commitUpload_library f asset payload haccepted.library
  · rw [hsame] at hget
    exact hsound assetId record hget
  · rw [hset, Dict.get_set] at hget
    split_ifs at hget with hsame
    · obtain rfl := Option.some.inj hget
      rw [hsame]
      exact ⟨rfl, haccepted.id, haccepted.filename, hid⟩
    · exact hsound assetId record hget

/-! ### Deleting -/

variable {assetId : String}

/-- The store once the payload is unlinked, and its directory removed if that can be. -/
def unlinked (f : Faults) (assetId filename : String) (s : Store) : Store :=
  let s := s.setFiles assetId ((s.files assetId).erase filename)
  if s.isDirectory assetId && (s.files assetId).keys.isEmpty && !f.rmdir then
    ⟨s.entries.erase assetId⟩
  else s

/-- A directory that is removed is no directory any more. -/
theorem files_erase (s : Store) (assetId other : String) :
    Store.files ⟨s.entries.erase assetId⟩ other = if other = assetId then .empty else s.files other := by
  unfold Store.files
  rw [Dict.get_erase]
  split_ifs <;> rfl

/-- What is erased is not of the manifest. -/
theorem canSave_erase (f : Faults) (hname : assetId ≠ manifestName) (htemp : assetId ≠ manifestTemp) :
    Store.library ⟨s.entries.erase assetId⟩ = s.library ∧
      canSave f ⟨s.entries.erase assetId⟩ = canSave f s := by
  have hget {name : String} (hne : assetId ≠ name) :
      (s.entries.erase assetId).get name = s.entries.get name := by
    rw [Dict.get_erase, if_neg hne.symm]
  constructor
  · simp only [Store.library, hget hname]
  · simp only [canSave, Store.isDirectory, hget hname, hget htemp]

/-- The record's file goes, and nothing else. -/
theorem unlinked_spec (hrecord : AgreesAt env (some asset) (s.files assetId))
    (hsound : Sound asset assetId) :
    (∀ other, other ≠ assetId → (unlinked f assetId asset.filename s).files other = s.files other) ∧
      (∀ name, ((unlinked f assetId asset.filename s).files assetId).get name = none) ∧
      (unlinked f assetId asset.filename s).library = s.library ∧
      canSave f (unlinked f assetId asset.filename s) = canSave f s := by
  obtain ⟨-, payload, -, -, hfiles⟩ := hrecord
  obtain ⟨hname, htemp⟩ := hsound.not_manifest
  have hdirectory : s.isDirectory assetId = true := by
    by_contra hnot
    have hempty := Store.files_of_not_directory (Bool.eq_false_of_not_eq_true hnot)
    have hthere := hfiles asset.filename
    rw [hempty, if_pos rfl] at hthere
    cases hthere
  have hprepared : Store.Prepared s s assetId := by
    refine ⟨fun _ => rfl, rfl, fun name => ?_⟩
    by_cases hsame : name = assetId
    · rw [hsame, hdirectory, Bool.true_or]
    · simp [hsame]
  obtain ⟨hset, hlibrary, hcan⟩ := setFiles_prepared hprepared ((s.files assetId).erase asset.filename)
  have hcansame : canSave f (s.setFiles assetId ((s.files assetId).erase asset.filename)) = canSave f s := by
    rw [Bool.eq_iff_iff, hcan]
    exact and_iff_left ⟨hname, htemp⟩
  have hnone (name : String) : ((s.files assetId).erase asset.filename).get name = none := by
    rw [Dict.get_erase]
    split_ifs with hsame
    · rfl
    · rw [hfiles, if_neg hsame]
  unfold unlinked
  simp only
  split_ifs with hremoved
  · obtain ⟨hlibrary', hcan'⟩ := canSave_erase
      (s := s.setFiles assetId ((s.files assetId).erase asset.filename)) f hname htemp
    refine ⟨fun other hother => ?_, fun name => ?_, hlibrary'.trans hlibrary, hcan'.trans hcansame⟩
    · rw [files_erase, if_neg hother, hset, if_neg hother]
    · rw [files_erase, if_pos rfl, Dict.get_empty]
  · refine ⟨fun other hother => ?_, fun name => ?_, hlibrary, hcansame⟩
    · rw [hset, if_neg hother]
    · rw [hset, if_pos rfl, hnone]

/-- What a deletion leaves. -/
theorem commitDelete_state (hthere : ((s.files assetId).get asset.filename).isSome = true)
    (hexist : f.exist = false) (hunlink : f.unlink = false) :
    (commitDelete f library asset assetId asset.filename s).1 =
      ((unlinked f assetId asset.filename s).save f library).1 := by
  simp only [commitDelete, hexist, hunlink, hthere, Bool.false_eq_true, Bool.and_false, if_false, if_true]
  change (match (unlinked f assetId asset.filename s).save f library with
    | (s, .error e) => (s, .error e)
    | (s, .ok ()) => (s, .ok asset) : Store × Except MediaError Asset).1 = _
  split
  next hsave => rw [hsave]
  next hsave => rw [hsave]

/-- **A deletion leaves what agrees exactly if the manifest is saved once the file is gone.** -/
theorem commitDelete_agrees_iff (h : Agrees env s) (hsound : AllSound s)
    (hget : s.library.get assetId = some asset) :
    Agrees env (commitDelete f (s.library.erase assetId) asset assetId asset.filename s).1 ↔
      (f.exist = false → f.unlink = false → canSave f s = true) := by
  have hat := h assetId
  rw [hget] at hat
  have hthere : ((s.files assetId).get asset.filename).isSome = true := by
    obtain ⟨-, payload, -, -, hfiles⟩ := hat
    rw [hfiles, if_pos rfl]
    rfl
  cases hexist : f.exist with
  | true =>
    simp only [commitDelete, hexist, if_true]
    exact iff_of_true h nofun
  | false =>
  cases hunlink : f.unlink with
  | true =>
    simp only [commitDelete, hexist, hunlink, hthere, Bool.false_eq_true, Bool.and_true, if_false, if_true]
    exact iff_of_true h nofun
  | false =>
    obtain ⟨hother, hgone, hlibrary, hcan⟩ := unlinked_spec (f := f) hat (hsound assetId asset hget)
    obtain ⟨hfiles, hmanifest⟩ := Store.save_spec f (unlinked f assetId asset.filename s)
      (s.library.erase assetId)
    rw [commitDelete_state hthere hexist hunlink, imp_iff_right rfl, imp_iff_right rfl]
    rw [hcan, hlibrary] at hmanifest
    rw [agrees_iff_at assetId h, hmanifest, hfiles]
    · split_ifs with hsaved
      · rw [Dict.get_erase, if_pos rfl]
        exact iff_of_true hgone hsaved
      · refine iff_of_false (fun hagrees => ?_) hsaved
        rw [hget] at hagrees
        obtain ⟨-, payload, -, -, hagain⟩ := hagrees
        have hlost := hagain asset.filename
        rw [hgone, if_pos rfl] at hlost
        cases hlost
    · intro other hne
      rw [hmanifest, hfiles, hother other hne]
      refine ⟨?_, rfl⟩
      split_ifs
      · rw [Dict.get_erase, if_neg hne]
      · rfl

theorem commitDelete_allSound (h : Agrees env s) (hsound : AllSound s)
    (hget : s.library.get assetId = some asset) :
    AllSound (commitDelete f (s.library.erase assetId) asset assetId asset.filename s).1 := by
  have hat := h assetId
  rw [hget] at hat
  have hthere : ((s.files assetId).get asset.filename).isSome = true := by
    obtain ⟨-, payload, -, -, hfiles⟩ := hat
    rw [hfiles, if_pos rfl]
    rfl
  cases hexist : f.exist with
  | true =>
    simp only [commitDelete, hexist, if_true]
    exact hsound
  | false =>
  cases hunlink : f.unlink with
  | true =>
    simp only [commitDelete, hexist, hunlink, hthere, Bool.false_eq_true, Bool.and_true, if_false, if_true]
    exact hsound
  | false =>
    obtain ⟨-, -, hlibrary, -⟩ := unlinked_spec (f := f) hat (hsound assetId asset hget)
    intro other record hrecord
    rw [commitDelete_state hthere hexist hunlink, (Store.save_spec _ _ _).2, hlibrary] at hrecord
    split_ifs at hrecord
    · rw [Dict.get_erase] at hrecord
      split_ifs at hrecord
      exact hsound other record hrecord
    · exact hsound other record hrecord

/-! ### Steps -/

theorem storeUpload_step (h : Agrees env s) (hsound : AllSound s) :
    AllSound (storeUpload env f u s).1 ∧
      (Agrees env (storeUpload env f u s).1 ↔ ∀ library asset payload,
        acceptUpload env f u s = .ok (library, asset, payload) →
          UploadKeeps env f u library asset payload s) := by
  cases haccept : acceptUpload env f u s with
  | error e =>
    simp only [storeUpload, haccept]
    exact ⟨hsound, iff_of_true h nofun⟩
  | ok accepted =>
    obtain ⟨library, asset, payload⟩ := accepted
    have haccepted := acceptUpload_accepted haccept
    simp only [storeUpload, haccept]
    refine ⟨commitUpload_allSound hsound haccepted, (commitUpload_agrees_iff h hsound haccepted).trans ?_⟩
    constructor
    · intro hkeeps library' asset' payload' hsame
      cases hsame
      exact hkeeps
    · exact fun hall => hall library asset payload rfl

theorem ensureBeepSound_step {lookup : Faults} {b : Beep} (h : Agrees env s) (hsound : AllSound s) :
    AllSound (ensureBeepSound env lookup f b s).1 ∧
      (Agrees env (ensureBeepSound env lookup f b s).1 ↔ Keeps env s (.ensureBeepSound lookup f b)) := by
  simp only [Keeps]
  cases hload : s.load lookup with
  | error e =>
    simp only [ensureBeepSound, hload]
    exact ⟨hsound, iff_of_true h nofun⟩
  | ok library =>
    obtain rfl := Store.load_ok hload
    rw [imp_iff_right rfl]
    cases hget : s.library.get b.assetId with
    | none =>
      simp only [ensureBeepSound, hload, hget]
      rw [imp_iff_right trivial]
      exact storeUpload_step h hsound
    | some asset =>
      have hpath := payloadPath_sound (hsound b.assetId asset hget)
      have hat := h b.assetId
      rw [hget] at hat
      have hthere : ((s.files b.assetId).get asset.filename).isSome = true := by
        obtain ⟨-, payload, -, -, hfiles⟩ := hat
        rw [hfiles, if_pos rfl]
        rfl
      have hsame : (ensureBeepSound env lookup f b s).1 = s := by
        simp only [ensureBeepSound, hload, hget, hpath, hthere, if_true]
        split_ifs <;> rfl
      rw [hsame]
      exact ⟨hsound, iff_of_true h nofun⟩

theorem deleteAsset_step (h : Agrees env s) (hsound : AllSound s) :
    AllSound (deleteAsset f assetId s).1 ∧
      (Agrees env (deleteAsset f assetId s).1 ↔ Keeps env s (.deleteAsset f assetId)) := by
  simp only [Keeps]
  cases hload : s.load f with
  | error e =>
    simp only [deleteAsset, hload]
    exact ⟨hsound, iff_of_true h nofun⟩
  | ok library =>
    obtain rfl := Store.load_ok hload
    rw [imp_iff_right rfl]
    cases hget : s.library.get assetId with
    | none =>
      simp only [deleteAsset, hload, hget]
      exact ⟨hsound, iff_of_true h nofun⟩
    | some asset =>
      simp only [deleteAsset, hload, hget, payloadPath_sound (hsound assetId asset hget)]
      have hrecorded : (some asset).isSome = true := rfl
      rw [imp_iff_right hrecorded]
      exact ⟨commitDelete_allSound h hsound hget, commitDelete_agrees_iff h hsound hget⟩

end calls

/-- **One call leaves what agrees exactly if it `Keeps` it.** -/
theorem step_agrees_iff {s : Store} (call : Call) (h : Agrees env s) (hsound : AllSound s) :
    AllSound (step env s call) ∧ (Agrees env (step env s call) ↔ Keeps env s call) := by
  cases call with
  | storeUpload f u => exact storeUpload_step h hsound
  | ensureBeepSound lookup f b => exact ensureBeepSound_step h hsound
  | deleteAsset f assetId => exact deleteAsset_step h hsound

/-- **At every moment of a run manifest and files agree, exactly if every call keeps them so.** -/
theorem media_agrees_iff (env : Env) (calls : List Call) :
    (∀ taken, taken <+: calls → Agrees env (run (step env) {} taken)) ↔
      AllSteps (step env) (Keeps env) {} calls := by
  have hinv : ∀ (s : Store) (call : Call), AllSound s → Agrees env s → AllSound (step env s call) :=
    fun s call hsound h => (step_agrees_iff call h hsound).1
  have hstep : ∀ (s : Store) (call : Call), AllSound s → Agrees env s →
      (Agrees env (step env s call) ↔ Keeps env s call) :=
    fun s call hsound h => (step_agrees_iff call h hsound).2
  have hempty : Agrees env {} := fun _ _ => rfl
  have hsound : AllSound {} := nofun
  exact throughout_iff_of_inv hinv hstep hsound hempty calls

/-! ### A run -/

/-- One byte for every text, and one digest for every payload. -/
def plainEnv : Env where
  py := .ascii
  b64decode _ := some [1]
  b64encode _ := ""
  sha256 _ := "digest"
  resized := none
  wave _ := none
  durationMs _ _ := 0
  buildBeepWav _ _ _ := []

/-- The description of an icon. -/
def icon (filename : String) : Call :=
  .storeUpload {}
    { mediaType := .sprite, filename, contentBase64 := "AQ==", assetId := some "icon", overwrite := true,
      uuid := fun _ => 0, now := "" }

/-- An icon that is stored again under another name leaves its first file. -/
theorem overwritten_file_stays :
    ¬∀ (env : Env) (calls : List Call), ∀ taken, taken <+: calls → Agrees env (run (step env) {} taken) := by
  intro h
  have hagrees := h plainEnv [icon "first.json", icon "second.json"] _ (List.prefix_refl _) "icon"
  have hrecord : ((run (step plainEnv) {} [icon "first.json", icon "second.json"]).library.get
      "icon").map (·.filename) = some "second.json" := by
    decide +kernel
  have hstale : ((run (step plainEnv) {} [icon "first.json", icon "second.json"]).files
      "icon").get "first.json" = some [1] := by
    decide +kernel
  obtain ⟨asset, hasset, hname⟩ := Option.map_eq_some_iff.mp hrecord
  rw [hasset] at hagrees
  obtain ⟨-, payload, -, -, hfiles⟩ := hagrees
  rw [hfiles, hname, if_neg (by decide)] at hstale
  cases hstale

end HexeVoice.Endpoint.Media
