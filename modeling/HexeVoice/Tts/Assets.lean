import HexeVoice.Library.Dict
import HexeVoice.Library.Machine
import HexeVoice.Library.Regex

/-!
# Managed speech assets

The asset store of `TtsAudioService` (`tts/service.py`).

## The model

File operations succeed, and one clock reading serves a whole call. Hashes, resampling, the reading
of WAV headers and `str.casefold` are functions of an `Env`. What the speech engine writes and returns
is an input (`Synthesis`). Audio files are named by their stream and by what follows its dot: the
streams of managed assets have no dot, and their sidecars are short-lived.

## What is proved

What one call does to the aliases (`synthesizeManaged_aliases`, `deleteNamedAsset_aliases`).
-/

namespace HexeVoice.Tts

open HexeVoice.Library

abbrev Bytes := List UInt8

/-! ### Requests -/

/-- The modes of `TtsDeliveryOptions` that are managed. -/
inductive DeliveryMode where
  | cached
  | namedAsset
  | persistent
  deriving DecidableEq

inductive UpdatePolicy where
  | ifChanged
  | always
  | ifMissing
  deriving DecidableEq

inductive Retention where
  | ttl
  | untilReplaced
  | persistent
  deriving DecidableEq

inductive Quality where
  | compact
  | standard
  | high
  | source
  deriving DecidableEq

/-- The place of a quality in the order of the names. -/
def Quality.rank : Quality → ℕ
  | .compact => 0
  | .high => 1
  | .source => 2
  | .standard => 3

structure TtsDeliveryOptions where
  mode : DeliveryMode
  assetKey : Option String := none
  updatePolicy : UpdatePolicy := .ifChanged
  retention : Option Retention := none
  qualityProfiles : List Quality := [.standard]
  sourceVersion : Option String := none
  deriving DecidableEq

structure TtsSynthesizeRequest where
  text : String
  voice : Option String := none
  format : String := "wav"
  ttlSeconds : ℕ := 3600
  delivery : TtsDeliveryOptions
  deriving DecidableEq

/-- What the fingerprint of a request is taken of. -/
structure Identity where
  text : String
  voice : Option String
  format : String
  qualities : List Quality
  sourceVersion : Option String
  deriving DecidableEq

/-- What is not of this module. -/
structure Env where
  chars : CharTable
  /-- `str.casefold`. -/
  casefold : String → String
  /-- The SHA-256 of the JSON of an identity. -/
  identityDigest : Identity → String
  /-- The SHA-256 of the JSON of the digests and sizes of variants. -/
  contentDigest : List (Quality × String × ℕ) → String
  /-- The SHA-256 of a file. -/
  sha256 : Bytes → String
  /-- `normalize_wav_sample_rate`. -/
  normalizeWavSampleRate : Bytes → ℕ → Except String Bytes
  /-- `wav_properties`. -/
  wavProperties : Bytes → Option ℕ × Option ℕ
  /-- A quarter of a second of silence. -/
  deterministicWav : Bytes
  /-- `strftime('%H%M%S%f')`. -/
  timeOfDay : ℕ → String
  publicApiBaseUrl : String

/-- ASCII, and hashes that tell nothing apart. -/
def asciiEnv : Env where
  chars := .ascii
  casefold text := String.ofList (text.toList.map Char.toLower)
  identityDigest identity := identity.text
  contentDigest _ := "content"
  sha256 _ := "sha256"
  normalizeWavSampleRate audio _ := .ok audio
  wavProperties _ := (some 16000, some 1)
  deterministicWav := [0]
  timeOfDay _ := "000000000000"
  publicApiBaseUrl := "http://voice"

/-- What the speech engine did: the files and the sidecar that it wrote for the stream, and the
`TtsSynthesis` that it returned. -/
structure Synthesis where
  files : List (String × Bytes) := []
  /-- The `audio_variant` of the sidecar, if it wrote one. -/
  sidecar : Option (Option String) := none
  providerId : String := "deterministic"
  modelId : Option String := none
  voiceId : Option String := none
  error : Option String := none
  deriving DecidableEq

/-! ### The store -/

/-- The name of a file: `<stream>.<suffix>`. -/
structure AudioName where
  stream : String
  suffix : String
  deriving DecidableEq

structure AudioFile where
  content : Bytes
  modifiedAt : ℕ
  deriving DecidableEq

/-- `<stream>.json`. -/
structure Sidecar where
  audioVariant : Option String
  expiresAt : ℕ
  deriving DecidableEq

structure Variant where
  audioUrl : String
  path : AudioName
  codec : String := "wav_pcm"
  sampleRateHz : Option ℕ
  channels : Option ℕ
  sizeBytes : ℕ
  sha256 : String
  deriving DecidableEq

abbrev Variants := List (Quality × Variant)

structure Revision where
  variants : Variants
  voiceId : Option String
  modelId : String
  providerId : String
  createdAt : ℕ
  deriving DecidableEq

structure Alias where
  revision : String
  variants : Variants
  voiceId : Option String
  modelId : String
  providerId : String
  createdAt : ℕ
  fingerprint : String
  assetKey : String
  deliveryMode : DeliveryMode
  transcript : String
  retention : Retention
  sourceVersion : Option String
  ownerNodeId : Option String
  expiresAt : Option ℕ
  updatedAt : ℕ
  deriving DecidableEq

/-- The directories `voice_tts` and `voice_tts_assets`. -/
structure Store where
  files : Dict AudioName AudioFile := .empty
  sidecars : Dict String Sidecar := .empty
  revisions : Dict String Revision := .empty
  aliases : Dict String Alias := .empty
  deriving DecidableEq

structure TtsSynthesizeResponse where
  failed : Bool := false
  deliveryMode : DeliveryMode
  assetKey : Option String := none
  variants : Variants := []
  expiresAt : Option ℕ := none
  revision : Option String := none
  providerId : Option String := none
  cacheHit : Bool := false
  changed : Bool := true
  transcript : Option String := none
  voiceId : Option String := none
  modelId : Option String := none
  error : Option String := none
  deriving DecidableEq

/-! ### Keys and owners -/

section env

variable (env : Env)

/-- A letter or digit, or `-`, `_` or `.`. -/
def safeChar (c : Char) : Bool := env.chars.isAlnum c || c = '-' || c = '_' || c = '.'

/-- `text.strip("/")`. -/
def stripSlashes (cs : List Char) : List Char :=
  ((cs.dropWhile (· = '/')).reverse.dropWhile (· = '/')).reverse

/-- A segment of a key. -/
def safePart (part : List Char) : Bool :=
  !(part = [] || part = ['.'] || part = ['.', '.'] || part.head? = some '.' || 64 < part.length ||
    !part.all (safeChar env))

def safeTtsAssetKey (assetKey : Option String) : Option String :=
  let cleaned := stripSlashes (strip (assetKey.getD "")).toList
  let parts := cleaned.splitOn '/'
  if cleaned = [] || 180 < cleaned.length || parts.any (!safePart env ·) then none
  else some (String.ofList (['/'].intercalate parts))

def normalizedOwnerNodeId (nodeId : Option String) : Option String :=
  let folded := env.casefold (strip (nodeId.getD ""))
  let cleaned :=
    if startsWith folded "node-service:" then
      String.ofList (folded.toList.drop "node-service:".length)
    else folded
  if cleaned = "" || 64 < cleaned.toList.length || !cleaned.toList.all (safeChar env) then none
  else some cleaned

/-- The first segment of a key, without its case. -/
def keyNamespace (key : String) : String :=
  env.casefold (String.ofList (key.toList.takeWhile (· ≠ '/')))

def assetKeyOwnedBy (assetKey requesterNodeId : Option String) : Bool :=
  match safeTtsAssetKey env assetKey, normalizedOwnerNodeId env requesterNodeId with
  | some safeKey, some owner => keyNamespace env safeKey = owner
  | _, _ => false

def ownerMatches (asset : Alias) (requesterNodeId : Option String) : Bool :=
  match normalizedOwnerNodeId env requesterNodeId with
  | some owner => asset.ownerNodeId = some owner
  | none => false

/-! ### The cleaners -/

/-- The suffix of a path is one of `GENERATED_AUDIO_SUFFIXES`. -/
def generatedAudio (suffix : String) : Bool :=
  [".wav", ".mp3", ".ogg"].any fun ext => endsWith ("." ++ suffix) ext

/-- `_metadata_path_for_audio_candidate`: the stream of the sidecar. A name with another dot would
need a sidecar with a dot. -/
def sidecarStream (name : AudioName) : Option String :=
  if name.suffix ∈ ["48k.wav", "22050.wav", "16k.wav", "raw.wav", "raw.mp3", "raw.ogg", "wav", "mp3",
      "ogg"] then
    some name.stream
  else none

/-- `cleanup_expired`: the streams whose sidecars have expired lose all their files. -/
def cleanupExpired (now : ℕ) (s : Store) : Store :=
  let expired (stream : String) : Bool := (s.sidecars.get stream).any fun m => m.expiresAt ≤ now
  { s with
    files := s.files.filter fun name _ => !expired name.stream
    sidecars := s.sidecars.filter fun stream _ => !expired stream }

/-- A file that `cleanup_orphaned_audio` deletes. -/
def orphaned (now minAgeSeconds : ℕ) (s : Store) (name : AudioName) (file : AudioFile) : Bool :=
  generatedAudio name.suffix &&
    !(sidecarStream name).any (fun stream => (s.sidecars.get stream).isSome) &&
    file.modifiedAt + minAgeSeconds * 1000000 ≤ now

def cleanupOrphanedAudio (now minAgeSeconds : ℕ) (s : Store) : Store :=
  { s with files := s.files.filter fun name file => !orphaned now minAgeSeconds s name file }

/-- The revisions that an alias points to. -/
def referenced (s : Store) : List String :=
  (s.aliases.values.map (·.revision)).filter (· ≠ "")

/-- A revision goes, with the files that it lists. -/
def dropRevision (s : Store) (revision : String) : Store :=
  let variants := ((s.revisions.get revision).map (·.variants)).getD []
  { s with
    files := s.files.filter fun name _ => !variants.any fun v => v.2.path = name
    revisions := s.revisions.erase revision }

/-- The revisions that `cleanup_unreferenced_revisions` deletes: those of ten minutes ago or before
that no alias points to, up to the limit. -/
def unreferencedRevisions (now limit : ℕ) (s : Store) : List String :=
  ((s.revisions.keys.insertionSort (· ≤ ·)).filter fun revision =>
    revision ∉ referenced s &&
      (s.revisions.get revision).any fun r => r.createdAt + 600000000 ≤ now).take limit

def cleanupUnreferencedRevisions (now limit : ℕ) (s : Store) : Store :=
  (unreferencedRevisions now limit s).foldl dropRevision s

/-! ### Generating -/

/-- A text, unless it is empty. -/
def truthyText (text : Option String) : Option String := text.filter (· ≠ "")

/-- `QUALITY_VARIANTS`. -/
def qualityVariant : Quality → String × Option ℕ
  | .compact => ("16k", some 16000)
  | .standard => ("22050", some 22050)
  | .high => ("48k", some 48000)
  | .source => ("raw", none)

/-- `audio_path`, without its own call of `cleanup_expired`, which finds nothing after that of
`synthesize`. -/
def audioPath (stream : String) (s : Store) : Option AudioName :=
  let there (suffix : String) : Bool := (s.files.get ⟨stream, suffix⟩).isSome
  let stated := ((s.sidecars.get stream).bind (·.audioVariant)).toList.filter
    (· ∈ ["48k", "22050", "16k", "raw"])
  let suffixes := (stated ++ ["48k", "22050", "16k", "raw"]).map (· ++ ".wav") ++
    ["wav", "mp3", "ogg"]
  let others := ((s.files.keys.filter (·.stream = stream)).map (·.suffix)).insertionSort
    (· ≤ ·)
  ((suffixes.find? there).or (others.find? fun suffix => !contains ("." ++ suffix) ".raw.")).map
    (⟨stream, ·⟩)

/-- The path with the source audio: `audio_path` of the raw variant, or else of any. -/
def sourcePath (stream : String) (s : Store) : Option AudioName :=
  if (s.files.get ⟨stream, "raw.wav"⟩).isSome then some ⟨stream, "raw.wav"⟩ else audioPath stream s

/-- What the engine leaves in the directory. -/
def applySynthesis (now : ℕ) (stream : String) (synthesis : Synthesis) (s : Store) : Store :=
  { s with
    files := synthesis.files.foldl
      (fun files f => files.set ⟨stream, f.1⟩ ⟨f.2, now⟩) s.files
    sidecars :=
      match synthesis.sidecar with
      | some audioVariant => s.sidecars.set stream ⟨audioVariant, now + 3600000000⟩
      | none => s.sidecars }

/-- One turn of the loop of `_prepare_managed_variants`. -/
def prepareVariant (now : ℕ) (stream assetKey : String) (source : AudioName) (audio : Bytes)
    (quality : Quality) (files : Dict AudioName AudioFile) :
    Except String (Dict AudioName AudioFile × Variant) := do
  let (path, files) ←
    match qualityVariant quality with
    | (_, none) => pure (source, files)
    | (variant, some rate) => do
      let path : AudioName := ⟨stream, variant ++ ".wav"⟩
      let payload ← env.normalizeWavSampleRate audio rate
      pure (path, files.set path ⟨payload, now⟩)
  let payload := ((files.get path).map (·.content)).getD []
  let (rate, channels) := env.wavProperties payload
  return (files,
    { audioUrl := s!"{env.publicApiBaseUrl}/api/tts/assets/{assetKey}/audio/" ++
        match quality with
        | .compact => "compact"
        | .standard => "standard"
        | .high => "high"
        | .source => "source"
      path
      sampleRateHz := rate
      channels
      sizeBytes := payload.length
      sha256 := env.sha256 payload })

/-- `_prepare_managed_variants`: the files are written until a step fails. -/
def prepareManagedVariants (now : ℕ) (stream assetKey : String) (source : AudioName)
    (audio : Bytes) :
    List Quality → Dict AudioName AudioFile → Dict AudioName AudioFile × Except String Variants
  | [], files => (files, .ok [])
  | quality :: qualities, files =>
    match prepareVariant env now stream assetKey source audio quality files with
    | .error e => (files, .error e)
    | .ok (files, variant) =>
      let (files, rest) :=
        prepareManagedVariants now stream assetKey source audio qualities files
      (files, rest.map ((quality, variant) :: ·))

/-- The path with the source audio. Where there is none, silence is written. -/
def stageSource (now : ℕ) (stream : String) (s : Store) : Store × AudioName :=
  match sourcePath stream s with
  | some source => (s, source)
  | none =>
    ({ s with files := s.files.set ⟨stream, "wav"⟩ ⟨env.deterministicWav, now⟩ }, ⟨stream, "wav"⟩)

/-- The variants of a stage, once the engine is done. -/
def stageVariants (now : ℕ) (stream assetKey : String) (qualities : List Quality) (s : Store) :
    Store × Except String Variants :=
  let (s, source) := stageSource env now stream s
  let audio := ((s.files.get source).map (·.content)).getD []
  let (files, variants) :=
    prepareManagedVariants env now stream assetKey source audio qualities s.files
  ({ s with files }, variants.mapError ("variant_generation_failed:" ++ ·))

/-- The audio of a stage: what the engine writes, and the variants of it. -/
def stage (now : ℕ) (stream assetKey : String) (qualities : List Quality) (synthesis : Synthesis)
    (s : Store) : Store × Except String Variants :=
  let s := applySynthesis now stream synthesis s
  match truthyText synthesis.error with
  | some e => (s, .error e)
  | none => stageVariants env now stream assetKey qualities s

def managedTtsRevision (variants : Variants) : String :=
  "ttsrev-" ++ String.ofList
    ((env.contentDigest
      ((variants.map fun v => (v.1, v.2.sha256, v.2.sizeBytes)).insertionSort
        fun a b => a.1.rank ≤ b.1.rank)).toList.take 32)

/-! ### Synthesizing -/

/-- The qualities, without repetitions. -/
def qualitiesOf (delivery : TtsDeliveryOptions) : List Quality :=
  (if delivery.qualityProfiles = [] then [.standard] else delivery.qualityProfiles).eraseDups

def managedTtsFingerprint (request : TtsSynthesizeRequest) : String :=
  env.identityDigest
    { text := request.text
      voice := request.voice
      format := request.format
      qualities := (qualitiesOf request.delivery).insertionSort fun a b => a.rank ≤ b.rank
      sourceVersion := request.delivery.sourceVersion }

/-- The key that a request is stored under: its own, or one of the cache. -/
def effectiveKey (request : TtsSynthesizeRequest) : String :=
  (safeTtsAssetKey env request.delivery.assetKey).getD
    ("cache/" ++ String.ofList ((managedTtsFingerprint env request).toList.take 32))

/-- The mode asks for an owner. -/
def owned (mode : DeliveryMode) : Bool := mode = .namedAsset || mode = .persistent

/-- The alias answers the request as it is. -/
def answers (request : TtsSynthesizeRequest) (asset : Alias) : Bool :=
  request.delivery.updatePolicy = .ifMissing ||
    (asset.fingerprint = managedTtsFingerprint env request && request.delivery.updatePolicy ≠ .always)

/-- The stream that audio is generated for. -/
def stagingId (now : ℕ) (request : TtsSynthesizeRequest) : String :=
  let stream := "ttsstage-" ++ String.ofList ((managedTtsFingerprint env request).toList.take 24)
  if request.delivery.updatePolicy = .always then stream ++ "-" ++ env.timeOfDay now else stream

def managedResponse (asset : Alias) (cacheHit changed : Bool) : TtsSynthesizeResponse where
  deliveryMode := asset.deliveryMode
  assetKey := some asset.assetKey
  variants := asset.variants
  expiresAt := asset.expiresAt
  revision := some asset.revision
  providerId := some asset.providerId
  cacheHit := cacheHit
  changed := changed
  transcript := some asset.transcript
  voiceId := asset.voiceId
  modelId := some asset.modelId

/-- A request that is refused. -/
def refused (request : TtsSynthesizeRequest) (assetKey : Option String) (error : String) :
    TtsSynthesizeResponse where
  failed := true
  deliveryMode := request.delivery.mode
  assetKey := assetKey
  error := some error

/-- The alias that a request stores. -/
def aliasMetadata (now : ℕ) (request : TtsSynthesizeRequest) (requesterNodeId : Option String)
    (revision : String) (metadata : Revision) : Alias where
  revision := revision
  variants := metadata.variants
  voiceId := (truthyText request.voice).or metadata.voiceId
  modelId := metadata.modelId
  providerId := metadata.providerId
  createdAt := metadata.createdAt
  fingerprint := managedTtsFingerprint env request
  assetKey := effectiveKey env request
  deliveryMode := request.delivery.mode
  transcript := request.text
  retention :=
    request.delivery.retention.getD
      (if request.delivery.mode = .persistent then .persistent else .ttl)
  sourceVersion := request.delivery.sourceVersion
  ownerNodeId :=
    if owned request.delivery.mode then normalizedOwnerNodeId env requesterNodeId else none
  expiresAt :=
    if request.delivery.mode = .persistent || request.delivery.retention = some .persistent ||
        request.delivery.retention = some .untilReplaced then
      none
    else some (now + request.ttlSeconds * 1000000)
  updatedAt := now

/-- The revision of newly generated variants: the one of that content that is stored, or else a new
one, which is then stored. -/
def storeRevision (now : ℕ) (request : TtsSynthesizeRequest) (synthesis : Synthesis)
    (variants : Variants) (s : Store) : Store × String × Revision :=
  let revision := managedTtsRevision env variants
  match s.revisions.get revision with
  | some metadata => (s, revision, metadata)
  | none =>
    let metadata : Revision :=
      { variants
        voiceId := (truthyText synthesis.voiceId).or request.voice
        modelId := (truthyText synthesis.modelId).getD "deterministic"
        providerId := synthesis.providerId
        createdAt := now }
    ({ s with revisions := s.revisions.set revision metadata }, revision, metadata)

/-- The alias is stored, and the revisions that no alias points to any more are dropped. -/
def storeAlias (now : ℕ) (asset : Alias) (s : Store) : Store :=
  cleanupUnreferencedRevisions now 10
    { s with aliases := s.aliases.set asset.assetKey asset }

/-- Audio is generated and stored under the key of the request. -/
def generate (now : ℕ) (request : TtsSynthesizeRequest) (requesterNodeId : Option String)
    (synthesis : Synthesis) (s : Store) : Store × TtsSynthesizeResponse :=
  let key := effectiveKey env request
  let (s, variants) :=
    stage env now (stagingId env now request) key (qualitiesOf request.delivery) synthesis s
  match variants with
  | .error e => (s, { refused request (some key) e with providerId := some synthesis.providerId })
  | .ok variants =>
    let (s, revision, metadata) := storeRevision env now request synthesis variants s
    let asset := aliasMetadata env now request requesterNodeId revision metadata
    (storeAlias now asset s, managedResponse asset false true)

/-- The request is not answered by an alias: audio is generated, unless the revision of the alias has
it already. -/
def replaceAlias (now : ℕ) (request : TtsSynthesizeRequest) (requesterNodeId : Option String)
    (synthesis : Synthesis) (asset : Option Alias) (s : Store) : Store × TtsSynthesizeResponse :=
  let stored := do
    let asset ← asset
    if asset.fingerprint = managedTtsFingerprint env request then
      (s.revisions.get asset.revision).map fun metadata => (asset.revision, metadata)
    else none
  match stored, decide (request.delivery.updatePolicy = .always) with
  | some (revision, metadata), false =>
    let asset := aliasMetadata env now request requesterNodeId revision metadata
    (storeAlias now asset s, managedResponse asset true true)
  | _, _ => generate env now request requesterNodeId synthesis s

/-- `_synthesize_managed`, with the `cleanup_expired` that `synthesize` makes before it. The owner of
the alias is checked once: when it is checked again before the alias is stored, it is the same. -/
def synthesizeManaged (now : ℕ) (request : TtsSynthesizeRequest)
    (requesterNodeId : Option String) (synthesis : Synthesis) (s : Store) :
    Store × TtsSynthesizeResponse :=
  let s := cleanupExpired now s
  let mode := request.delivery.mode
  let assetKey := safeTtsAssetKey env request.delivery.assetKey
  if owned mode ∧ assetKey = none then (s, refused request none "asset_key_required")
  else if owned mode ∧ assetKeyOwnedBy env assetKey requesterNodeId = false then
    (s, refused request assetKey "asset_namespace_forbidden")
  else
    match s.aliases.get (effectiveKey env request) with
    | none => replaceAlias env now request requesterNodeId synthesis none s
    | some asset =>
      if owned mode ∧ ownerMatches env asset requesterNodeId = false then
        (s, refused request (some (effectiveKey env request)) "asset_owner_forbidden")
      else if answers env request asset then (s, managedResponse asset true false)
      else replaceAlias env now request requesterNodeId synthesis (some asset) s

/-! ### Deleting -/

inductive DeleteOutcome where
  | deleted (assetKey revision : String)
  | invalidAssetKey
  | assetNotFound
  | assetOwnerForbidden
  deriving DecidableEq

def deleteNamedAsset (now : ℕ) (assetKey : String) (requesterNodeId : Option String) (s : Store) :
    Store × DeleteOutcome :=
  match safeTtsAssetKey env (some assetKey) with
  | none => (s, .invalidAssetKey)
  | some safeKey =>
    match s.aliases.get safeKey with
    | none => (s, .assetNotFound)
    | some asset =>
      if ownerMatches env asset requesterNodeId = false then (s, .assetOwnerForbidden)
      else
        (cleanupUnreferencedRevisions now 10 { s with aliases := s.aliases.erase safeKey },
          .deleted safeKey asset.revision)

/-! ### Serving -/

def namedAssetAudioPath (assetKey : String) (quality : Quality) (s : Store) :
    Option (AudioName × Variant) := do
  let safeKey ← safeTtsAssetKey env (some assetKey)
  let asset ← s.aliases.get safeKey
  let variant ← asset.variants.lookup quality
  if (s.files.get variant.path).isSome then some (variant.path, variant) else none

/-! ### Runs -/

/-- What the service is asked to do, and when. -/
inductive Input where
  | synthesize (now : ℕ) (request : TtsSynthesizeRequest) (requesterNodeId : Option String)
      (synthesis : Synthesis)
  | deleteNamedAsset (now : ℕ) (assetKey : String) (requesterNodeId : Option String)
  | cleanupExpired (now : ℕ)
  | cleanupOrphanedAudio (now minAgeSeconds : ℕ)
  | cleanupUnreferencedRevisions (now limit : ℕ)
  deriving DecidableEq

def Input.now : Input → ℕ
  | .synthesize now _ _ _ | .deleteNamedAsset now _ _ | .cleanupExpired now
  | .cleanupOrphanedAudio now _ | .cleanupUnreferencedRevisions now _ => now

/-- One call. -/
def step (s : Store) : Input → Store
  | .synthesize now request requester synthesis =>
    (synthesizeManaged env now request requester synthesis s).1
  | .deleteNamedAsset now assetKey requester => (deleteNamedAsset env now assetKey requester s).1
  | .cleanupExpired now => cleanupExpired now s
  | .cleanupOrphanedAudio now minAge => cleanupOrphanedAudio now minAge s
  | .cleanupUnreferencedRevisions now limit => cleanupUnreferencedRevisions now limit s

/-! ### Safe keys -/

variable {env}

theorem isPySpace_of_safePart {part : List Char} (h : safePart env part = true) {c : Char}
    (hc : c ∈ part) : isPySpace c = false := by
  have hall : part.all (safeChar env) = true := by
    simp only [safePart, Bool.not_eq_true', Bool.or_eq_false_iff, Bool.not_eq_false'] at h
    exact h.2
  have hsafe := List.all_eq_true.mp hall c hc
  by_contra hspace
  have hspace : isPySpace c = true := by simpa using hspace
  simp only [safeChar, env.chars.isAlnum_space c hspace, Bool.false_or, Bool.or_eq_true,
    decide_eq_true_eq] at hsafe
  rcases hsafe with (rfl | rfl) | rfl <;> exact absurd hspace (by decide)

/-- **A safe key is its own safe key.** -/
theorem safeTtsAssetKey_idempotent {assetKey : Option String} {key : String}
    (h : safeTtsAssetKey env assetKey = some key) : safeTtsAssetKey env (some key) = some key := by
  unfold safeTtsAssetKey at h
  simp only at h
  generalize hcleaned : stripSlashes (strip (assetKey.getD "")).toList = cleaned at h
  rw [List.intercalate_splitOn] at h
  split at h
  · cases h
  next hsafe =>
  obtain rfl := (Option.some.inj h).symm
  simp only [Bool.or_eq_true, decide_eq_true_eq, not_or, List.any_eq_true, not_exists, not_and] at hsafe
  have hchar {c : Char} (hc : c ∈ cleaned) (hslash : c ≠ '/') : isPySpace c = false := by
    have hparts : ['/'].intercalate (cleaned.splitOn '/') = cleaned := List.intercalate_splitOn '/'
    rw [← hparts] at hc
    obtain ⟨part, hpart, hc⟩ := (mem_intercalate hc).resolve_left hslash
    exact isPySpace_of_safePart (by simpa using hsafe.2 part hpart) hc
  have hslashes : stripSlashes cleaned = cleaned :=
    strip_of_ends (fun h => (ends_of_strip _ hcleaned h).1) fun h => (ends_of_strip _ hcleaned h).2
  have hblanks : stripChars cleaned = cleaned := by
    apply strip_of_ends
    · intro h
      exact hchar (List.head_mem h) (by simpa using (ends_of_strip _ hcleaned h).1)
    · intro h
      exact hchar (List.getLast_mem h) (by simpa using (ends_of_strip _ hcleaned h).2)
  unfold safeTtsAssetKey
  simp only [Option.getD_some, strip, String.toList_ofList, hblanks, hslashes,
    List.intercalate_splitOn]
  rw [if_neg]
  simpa using hsafe

/-! ### What one call does -/

@[simp] theorem cleanupExpired_aliases (now : ℕ) (s : Store) :
    (cleanupExpired now s).aliases = s.aliases := rfl

@[simp] theorem cleanupUnreferencedRevisions_aliases (now limit : ℕ) (s : Store) :
    (cleanupUnreferencedRevisions now limit s).aliases = s.aliases := by
  unfold cleanupUnreferencedRevisions
  generalize unreferencedRevisions now limit s = revisions
  induction revisions generalizing s with
  | nil => rfl
  | cons revision revisions ih => exact ih (dropRevision s revision)

@[simp] theorem storeAlias_aliases (now : ℕ) (asset : Alias) (s : Store) :
    (storeAlias now asset s).aliases = s.aliases.set asset.assetKey asset := by
  simp [storeAlias]

/-- A stage leaves the asset store as it is. -/
theorem stage_store (now : ℕ) (stream key : String) (qualities : List Quality)
    (synthesis : Synthesis) (s : Store) :
    (stage env now stream key qualities synthesis s).1.aliases = s.aliases ∧
      (stage env now stream key qualities synthesis s).1.revisions = s.revisions := by
  have hsource (t : Store) : (stageSource env now stream t).1.aliases = t.aliases ∧
      (stageSource env now stream t).1.revisions = t.revisions := by
    unfold stageSource
    cases sourcePath stream t <;> exact ⟨rfl, rfl⟩
  unfold stage
  cases truthyText synthesis.error with
  | some e => exact ⟨rfl, rfl⟩
  | none => exact hsource (applySynthesis now stream synthesis s)

/-- An engine that reports an error gives no variants. -/
theorem stage_error {now : ℕ} {stream key : String} {qualities : List Quality}
    {synthesis : Synthesis} {s : Store} {variants : Variants}
    (h : (stage env now stream key qualities synthesis s).2 = .ok variants) :
    truthyText synthesis.error = none := by
  unfold stage at h
  cases he : truthyText synthesis.error with
  | none => rfl
  | some e => rw [he] at h; cases h

theorem storeRevision_aliases (now : ℕ) (request : TtsSynthesizeRequest) (synthesis : Synthesis)
    (variants : Variants) (s : Store) :
    (storeRevision env now request synthesis variants s).1.aliases = s.aliases := by
  cases h : s.revisions.get (managedTtsRevision env variants) <;>
    simp only [storeRevision, h]

section synthesize

variable {now : ℕ} {request : TtsSynthesizeRequest} {requester : Option String}
  {synthesis : Synthesis} {s : Store}

/-- What `generate` does: nothing to the asset store, or it stores a revision and an alias. -/
theorem generate_cases :
    (∃ e, (stage env now (stagingId env now request) (effectiveKey env request)
          (qualitiesOf request.delivery) synthesis s).2 = .error e ∧
        (generate env now request requester synthesis s).1 =
          (stage env now (stagingId env now request) (effectiveKey env request)
            (qualitiesOf request.delivery) synthesis s).1 ∧
        (generate env now request requester synthesis s).2.failed = true) ∨
      ∃ variants, (stage env now (stagingId env now request) (effectiveKey env request)
          (qualitiesOf request.delivery) synthesis s).2 = .ok variants ∧
        ∃ s' revision metadata,
          storeRevision env now request synthesis variants
              (stage env now (stagingId env now request) (effectiveKey env request)
                (qualitiesOf request.delivery) synthesis s).1 = (s', revision, metadata) ∧
          (generate env now request requester synthesis s).1 =
            storeAlias now (aliasMetadata env now request requester revision metadata) s' ∧
          (generate env now request requester synthesis s).2.cacheHit = false := by
  cases hstage : stage env now (stagingId env now request) (effectiveKey env request)
    (qualitiesOf request.delivery) synthesis s with
  | mk s₁ outcome =>
    cases outcome with
    | error e =>
      refine .inl ⟨e, rfl, ?_, ?_⟩
      · simp only [generate, hstage]
      · simp only [generate, hstage, refused]
    | ok variants =>
      rcases hstored : storeRevision env now request synthesis variants s₁ with
        ⟨s₂, revision, metadata⟩
      refine .inr ⟨variants, rfl, s₂, revision, metadata, hstored, ?_, ?_⟩
      · simp only [generate, hstage, hstored]
      · simp only [generate, hstage, hstored, managedResponse]

/-- A request that the alias does not answer generates audio. -/
theorem replaceAlias_eq {asset : Option Alias} (h : ∀ a ∈ asset, answers env request a = false) :
    replaceAlias env now request requester synthesis asset s =
      generate env now request requester synthesis s := by
  unfold replaceAlias
  cases asset with
  | none => rfl
  | some asset =>
    have hnot := h asset rfl
    simp only [answers, Bool.or_eq_false_iff, Bool.and_eq_false_iff, decide_eq_false_iff_not,
      not_not] at hnot
    by_cases hsame : asset.fingerprint = managedTtsFingerprint env request
    · have halways : request.delivery.updatePolicy = .always :=
        hnot.2.resolve_left (not_not.mpr hsame)
      simp only [Option.bind_eq_bind, Option.bind_some, if_pos hsame, halways, decide_true]
      cases s.revisions.get asset.revision <;> rfl
    · simp only [Option.bind_eq_bind, Option.bind_some, if_neg hsame]

/-- The request may use its key. -/
def Admitted (env : Env) (request : TtsSynthesizeRequest) (requester : Option String) (s : Store) :
    Prop :=
  owned request.delivery.mode = true →
    assetKeyOwnedBy env (safeTtsAssetKey env request.delivery.assetKey) requester = true ∧
      (s.aliases.get (effectiveKey env request)).all (ownerMatches env · requester) = true

instance (env : Env) (request : TtsSynthesizeRequest) (requester : Option String) (s : Store) :
    Decidable (Admitted env request requester s) :=
  inferInstanceAs (Decidable (_ → _ ∧ _))

/-- A request that may use an owned key comes from the node of the key. -/
theorem Admitted.comesFrom (h : Admitted env request requester s)
    (howned : owned request.delivery.mode = true) :
    normalizedOwnerNodeId env requester = some (keyNamespace env (effectiveKey env request)) := by
  have hby := (h howned).1
  cases hsafe : safeTtsAssetKey env request.delivery.assetKey with
  | none =>
    have hnone : safeTtsAssetKey env none = none := by
      simp [safeTtsAssetKey, strip, stripChars, stripSlashes]
    rw [hsafe, assetKeyOwnedBy, hnone] at hby
    simp at hby
  | some key =>
    rw [hsafe, assetKeyOwnedBy, safeTtsAssetKey_idempotent hsafe] at hby
    unfold effectiveKey
    rw [hsafe, Option.getD_some]
    cases howner : normalizedOwnerNodeId env requester with
    | none => simp [howner] at hby
    | some owner =>
      simp only [howner, decide_eq_true_eq] at hby
      rw [hby]

/-- **What a managed request does**: it is refused, or an alias answers it, or it generates
audio. -/
theorem synthesizeManaged_cases :
    ((synthesizeManaged env now request requester synthesis s).1 = cleanupExpired now s ∧
      ((synthesizeManaged env now request requester synthesis s).2.failed = true ∨
        ∃ asset, s.aliases.get (effectiveKey env request) = some asset ∧
          Admitted env request requester s ∧ answers env request asset = true ∧
          (synthesizeManaged env now request requester synthesis s).2 =
            managedResponse asset true false)) ∨
      Admitted env request requester s ∧
        (∀ a ∈ s.aliases.get (effectiveKey env request), answers env request a = false) ∧
        synthesizeManaged env now request requester synthesis s =
          generate env now request requester synthesis (cleanupExpired now s) := by
  unfold synthesizeManaged
  by_cases hkey : owned request.delivery.mode ∧
      safeTtsAssetKey env request.delivery.assetKey = none
  · simp only [if_pos hkey]
    exact .inl ⟨trivial, .inl rfl⟩
  simp only [if_neg hkey]
  by_cases hspace : owned request.delivery.mode ∧
      assetKeyOwnedBy env (safeTtsAssetKey env request.delivery.assetKey) requester = false
  · simp only [if_pos hspace]
    exact .inl ⟨trivial, .inl rfl⟩
  simp only [if_neg hspace]
  have hby (howned : owned request.delivery.mode = true) :
      assetKeyOwnedBy env (safeTtsAssetKey env request.delivery.assetKey) requester = true := by
    simpa [howned] using hspace
  simp only [cleanupExpired_aliases]
  cases hget : s.aliases.get (effectiveKey env request) with
  | none =>
    refine .inr ⟨fun howned => ⟨hby howned, by simp [hget]⟩, by simp, ?_⟩
    exact replaceAlias_eq (by simp)
  | some asset =>
    by_cases hmatches : owned request.delivery.mode ∧ ownerMatches env asset requester = false
    · simp only [if_pos hmatches]
      exact .inl ⟨trivial, .inl rfl⟩
    simp only [if_neg hmatches]
    have hadmitted : Admitted env request requester s := fun howned =>
      ⟨hby howned, by simpa [hget, howned] using hmatches⟩
    cases hanswers : answers env request asset with
    | true => exact .inl ⟨rfl, .inr ⟨asset, rfl, hadmitted, hanswers, rfl⟩⟩
    | false =>
      refine .inr ⟨hadmitted, by simp [hanswers], ?_⟩
      exact replaceAlias_eq (by simp [hanswers])

/-- **The alias that a managed request stores**: that of its key, if the engine reports no error and
no alias answers it. -/
theorem synthesizeManaged_aliases :
    (synthesizeManaged env now request requester synthesis s).1.aliases = s.aliases ∨
      truthyText synthesis.error = none ∧
      (∀ a ∈ s.aliases.get (effectiveKey env request), answers env request a = false) ∧
      (owned request.delivery.mode = true →
        normalizedOwnerNodeId env requester =
          some (keyNamespace env (effectiveKey env request))) ∧
      ∃ revision metadata, (synthesizeManaged env now request requester synthesis s).1.aliases =
        s.aliases.set (effectiveKey env request)
          (aliasMetadata env now request requester revision metadata) := by
  obtain ⟨hsame, -⟩ | ⟨hadmitted, hanswers, heq⟩ :=
    @synthesizeManaged_cases env now request requester synthesis s
  · rw [hsame]
    exact .inl rfl
  · have hstage := (@stage_store env now (stagingId env now request) (effectiveKey env request)
      (qualitiesOf request.delivery) synthesis (cleanupExpired now s)).1
    rw [heq]
    obtain ⟨e, -, hsame, -⟩ | ⟨variants, hok, s', revision, metadata, hstored, hsame, -⟩ :=
      @generate_cases env now request requester synthesis (cleanupExpired now s)
    · rw [hsame]
      exact .inl hstage
    · have haliases : s'.aliases = s.aliases := by
        have hstored := congrArg (fun stored => stored.1.aliases) hstored
        simp only [storeRevision_aliases] at hstored
        rw [← hstored, hstage, cleanupExpired_aliases]
      refine .inr ⟨stage_error hok, hanswers, hadmitted.comesFrom, revision, metadata, ?_⟩
      rw [hsame, storeAlias_aliases, haliases, aliasMetadata]

end synthesize

/-- **The alias that a call of `delete_named_asset` deletes**: that of its key, if the node that asks
owns it. -/
theorem deleteNamedAsset_aliases (now : ℕ) (assetKey : String) (requester : Option String)
    (s : Store) :
    (deleteNamedAsset env now assetKey requester s).1.aliases = s.aliases ∨
      ∃ key asset, s.aliases.get key = some asset ∧ ownerMatches env asset requester = true ∧
        (deleteNamedAsset env now assetKey requester s).1.aliases = s.aliases.erase key := by
  unfold deleteNamedAsset
  cases safeTtsAssetKey env (some assetKey) with
  | none => exact .inl rfl
  | some key =>
    simp only
    cases hget : s.aliases.get key with
    | none => exact .inl rfl
    | some asset =>
      simp only
      by_cases howner : ownerMatches env asset requester = false
      · rw [if_pos howner]
        exact .inl rfl
      · rw [if_neg howner]
        refine .inr ⟨key, asset, hget, by simpa using howner, ?_⟩
        rw [cleanupUnreferencedRevisions_aliases]

/-! ### Steps -/

theorem step_synthesize (now : ℕ) (request : TtsSynthesizeRequest) (requester : Option String)
    (synthesis : Synthesis) (s : Store) :
    step env s (.synthesize now request requester synthesis) =
      (synthesizeManaged env now request requester synthesis s).1 := by
  simp only [step]

theorem step_deleteNamedAsset (now : ℕ) (assetKey : String) (requester : Option String)
    (s : Store) :
    step env s (.deleteNamedAsset now assetKey requester) =
      (deleteNamedAsset env now assetKey requester s).1 := by
  simp only [step]

end env

end HexeVoice.Tts
