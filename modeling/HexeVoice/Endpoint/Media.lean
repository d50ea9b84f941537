import HexeVoice.Library.Python
import HexeVoice.Library.Returns
import Mathlib

/-!
# Media for endpoints

What `endpoint/media.py` accepts as an upload, and what it makes of it: `_prepare_endpoint_payload` with
the names and the sizes that it checks.

## The model

Base64, SHA-256, Pillow's images, the reader of WAV headers and the beep's samples are parameters; the
packing of an image's pixels is the code's. Errors have the codes, texts and statuses of the source.

## What is proved

**`prepareEndpointPayload_fits_iff`**: what is accepted obeys the limit of its type exactly if it is not
an RGB888 picture of more than the limit, and **`prepareEndpointPayload_name`**: the name of an accepted
payload is one that is safe.
-/

namespace HexeVoice.Endpoint.Media

open HexeVoice.Library

variable {mediaType : EndpointMediaType}

abbrev Bytes := List UInt8

/-! ### Types -/

inductive EndpointMediaType where
  | picture
  | sprite
  | sound
  | font
  deriving DecidableEq

def pictureDefaultWidth : ℤ := 320
def pictureDefaultHeight : ℤ := 240
def pictureMaxBytes : ℕ := 2 * 1024 * 1024
def spriteMaxBytes : ℕ := 512 * 1024
def soundMaxBytes : ℕ := 5 * 1024 * 1024
def fontMaxBytes : ℕ := 2 * 1024 * 1024

namespace EndpointMediaType

/-- The limit of a type. -/
def maxBytes : EndpointMediaType → ℕ
  | picture => pictureMaxBytes
  | sprite => spriteMaxBytes
  | sound => soundMaxBytes
  | font => fontMaxBytes

/-- `DESTINATIONS`. -/
def destination : EndpointMediaType → String
  | picture => "picture"
  | sprite => "sprite"
  | sound => "sound"
  | font => "font"

/-- `DESTINATION_PATHS`. -/
def destinationPath : EndpointMediaType → String
  | picture => "/sdcard/hexe/pictures"
  | sprite => "/sdcard/hexe/sprites"
  | sound => "/sdcard/hexe/sounds"
  | font => "/sdcard/hexe/fonts"

def allowedExtensions : EndpointMediaType → List String
  | picture => [".rgb565", ".rgb888", ".png", ".jpg", ".jpeg"]
  | sprite => [".rgb565", ".rgb888", ".alpha8", ".alpha1", ".png", ".jpg", ".jpeg", ".json"]
  | sound => [".wav"]
  | font => [".ttf", ".otf", ".hxf", ".txt", ".md"]

end EndpointMediaType

/-! ### Errors -/

structure EndpointMediaValidationError where
  code : String
  message : String
  statusCode : ℕ := 400
  deriving DecidableEq

/-- What a call raises. -/
inductive MediaError where
  | validation (error : EndpointMediaValidationError)
  | python (exception : PyException)
  /-- Pillow refuses the image. -/
  | image
  /-- A file operation fails. -/
  | os
  deriving DecidableEq

/-- `raise EndpointMediaValidationError(code, message)`. -/
def invalid {α : Type} (code message : String) : Except MediaError α :=
  .error (.validation { code, message })

/-! ### Names -/

def safeFilename (filename : String) : Except MediaError String :=
  let name := strip filename
  if name = "" then invalid "invalid_filename" "Filename is required."
  else if name.toList.head? = some '.' ∨ '/' ∈ name.toList ∨ '\\' ∈ name.toList ∨
      contains name ".." = true then
    invalid "invalid_filename" "Filename must be a simple file name."
  else if name.toList.any (·.toNat < 32) then
    invalid "invalid_filename" "Filename contains control characters."
  else if 120 < name.length then invalid "invalid_filename" "Filename is too long."
  else .ok name

/-- A character of an asset id. -/
def assetIdChar (c : Char) : Bool :=
  ('A' ≤ c && c ≤ 'Z') || ('a' ≤ c && c ≤ 'z') || ('0' ≤ c && c ≤ '9') || c = '_' || c = '.' || c = '-'

/-- `safe_asset_id`, with the digits of the `uuid4` that names an asset without an id. -/
def safeAssetId (uuid : Fin 32 → Fin 16) (assetId : Option String) : Except MediaError String :=
  match assetId.bind nonempty with
  | none => .ok ("media_" ++ String.ofList (List.ofFn fun i => Nat.digitChar (uuid i)))
  | some assetId =>
    let normalized := strip assetId
    if normalized = "" ∨ 80 < normalized.length ∨ normalized.toList.all assetIdChar = false then
      invalid "invalid_asset_id" "Asset id may contain letters, numbers, dots, dashes, and underscores."
    else if startsWith normalized "." || contains normalized ".." then
      invalid "invalid_asset_id" "Asset id is not safe."
    else .ok normalized

/-- Where the suffix of a name begins: at its last dot, unless that is the first or the last
character. -/
def suffixStart (name : List Char) : Option ℕ :=
  ((name.reverse.findIdx? (· = '.')).map fun i => name.length - 1 - i).filter fun i =>
    0 < i && i < name.length - 1

/-- `Path(name).suffix.lower()`. -/
def suffix (name : String) : String :=
  String.ofList (((suffixStart name.toList).elim [] name.toList.drop).flatMap lowerChars)

/-- `Path(name).stem`. -/
def stem (name : String) : String :=
  String.ofList ((suffixStart name.toList).elim name.toList name.toList.take)

def contentTypeForFilename (filename : String) (mediaType : EndpointMediaType) : String :=
  let ext := suffix filename
  if mediaType = .sound then "audio/wav"
  else if ext = ".ttf" then "font/ttf"
  else if ext = ".otf" then "font/otf"
  else if ext = ".hxf" then "application/vnd.hexe.bitmap-font"
  else if ext = ".txt" then "text/plain"
  else if ext = ".md" then "text/markdown"
  else if ext = ".json" then "application/json"
  else if ext = ".png" then "image/png"
  else if ext = ".jpg" ∨ ext = ".jpeg" then "image/jpeg"
  else "application/octet-stream"

/-! ### Payloads -/

/-- What the header of a WAV file says. -/
structure WavParameters where
  channels : ℕ
  sampleRateHz : ℕ
  sampleWidthBytes : ℕ
  frameCount : ℕ

/-- A pixel of an RGB image. -/
structure Pixel where
  r : UInt8
  g : UInt8
  b : UInt8

/-- What is not of this module. -/
structure Env where
  py : Python
  /-- `b64decode(…, validate=True)`, unless it raises `ValueError`. -/
  b64decode : String → Option Bytes
  b64encode : Bytes → String
  /-- `hashlib.sha256(…).hexdigest()`. -/
  sha256 : Bytes → String
  /-- An image that Pillow has opened, converted to RGB and resized; nothing without Pillow. -/
  resized : Option (Bytes → ℕ → ℕ → Option (ℕ → ℕ → Pixel))
  /-- `wave.open`, unless it raises. -/
  wave : Bytes → Option WavParameters
  /-- `int((frame_count / sample_rate_hz) * 1000)`. -/
  durationMs : ℕ → ℕ → ℤ
  /-- `_build_beep_wav`, of its duration, frequency and amplitude. -/
  buildBeepWav : ℤ → ℤ → PyFloat → Bytes

variable (env : Env)

/-- `int(metadata.get(key) or default)`. -/
def intOr (metadata : JsonObject) (key : String) (default : ℤ) : Except PyException ℤ :=
  env.py.toInt (((metadata.get key).filter Json.truthy).getD (.int default))

def pictureDimensions (metadata : JsonObject) : Except MediaError (ℤ × ℤ) := do
  let dimensions : Except PyException (ℤ × ℤ) := do
    let width ← intOr env metadata "width" pictureDefaultWidth
    let height ← intOr env metadata "height" pictureDefaultHeight
    return (width, height)
  match dimensions with
  | .error .overflowError => .error (.python .overflowError)
  | .error _ => invalid "invalid_picture_dimensions" "Picture width and height must be integers."
  | .ok (width, height) =>
    if width ≤ 0 ∨ height ≤ 0 then
      invalid "invalid_picture_dimensions" "Picture width and height must be positive."
    else if (pictureMaxBytes : ℤ) < width * height * 2 then
      invalid "picture_too_large" "Picture payload is too large."
    else .ok (width, height)

/-- The `width` and `height` of a sprite, which have to be there. -/
def spriteDimensions (metadata : JsonObject) (message : String) : Except MediaError (ℤ × ℤ) := do
  let width ← (intOr env metadata "width" 0).mapError .python
  let height ← (intOr env metadata "height" 0).mapError .python
  if width ≤ 0 ∨ height ≤ 0 then invalid "missing_sprite_dimensions" message
  else .ok (width, height)

/-- A pixel in two bytes, the low one first. -/
def Pixel.rgb565 (p : Pixel) : Bytes :=
  let value := ((p.r.toNat &&& 0xF8) <<< 8) ||| ((p.g.toNat &&& 0xFC) <<< 3) ||| (p.b.toNat >>> 3)
  [UInt8.ofNat value, UInt8.ofNat (value >>> 8)]

def convertImageToRgb565 (sourceBytes : Bytes) (width height : ℤ) : Except MediaError Bytes :=
  match env.resized with
  | none =>
    .error (.validation
      { code := "image_conversion_unavailable"
        message := "Pillow is required to convert PNG/JPEG uploads; upload pre-converted .rgb565 instead."
        statusCode := 503 })
  | some resized =>
    match resized sourceBytes width.toNat height.toNat with
    | none => .error .image
    | some getpixel =>
      .ok ((List.range height.toNat).flatMap fun y =>
        (List.range width.toNat).flatMap fun x => (getpixel x y).rgb565)

def validateWav (payload : Bytes) : Except MediaError (List (String × Json)) :=
  match env.wave payload with
  | none => invalid "invalid_wav" "Sound uploads must be valid WAV PCM files."
  | some wav =>
    let bitsPerSample := wav.sampleWidthBytes * 8
    if wav.channels ∉ [1, 2] ∨ bitsPerSample ∉ [16, 24, 32] ∨ wav.sampleRateHz = 0 then
      invalid "unsupported_wav" "WAV file uses unsupported audio parameters."
    else
      .ok [("audio_format", .str "wav_pcm"), ("channels", .int wav.channels),
        ("sample_rate_hz", .int wav.sampleRateHz), ("bits_per_sample", .int bitsPerSample),
        ("duration_ms", .int (env.durationMs wav.frameCount wav.sampleRateHz))]

/-- What `_prepare_endpoint_payload` returns. -/
structure Prepared where
  endpointBytes : Bytes
  endpointFilename : String
  contentType : String
  metadata : JsonObject

/-- The dimensions in the metadata. -/
def dimensionEntries (width height : ℤ) : List (String × Json) :=
  [("width", .int width), ("height", .int height)]

/-- A picture or sprite of raw pixels. -/
def rawPixels (format : String) (order : List (String × Json)) (width height : ℤ) :
    List (String × Json) :=
  ("pixel_format", .str format) :: order ++ dimensionEntries width height

/-- `suffix.lstrip(".")`. -/
def withoutDots (ext : String) : String := String.ofList (ext.toList.dropWhile (· = '.'))

/-- A picture or sprite that was converted. -/
def convertedPixels (ext : String) (width height : ℤ) : List (String × Json) :=
  rawPixels "rgb565" [] width height ++ [("converted_from", .str (withoutDots ext))]

/-- What is stored as it is. -/
def asIs (sourceFilename : String) (sourceBytes : Bytes) (contentType : Option String)
    (default : String) (metadata : JsonObject) : Prepared where
  endpointBytes := sourceBytes
  endpointFilename := sourceFilename
  contentType := (contentType.bind nonempty).getD default
  metadata := metadata

/-- What is stored as pixels of two bytes. -/
def converted (sourceFilename : String) (payload : Bytes) (metadata : JsonObject) : Prepared where
  endpointBytes := payload
  endpointFilename := stem sourceFilename ++ ".rgb565"
  contentType := "application/octet-stream"
  metadata := metadata

/-- The channels of RGB888. -/
def rgbOrder : List (String × Json) := [("channel_order", .str "rgb")]

/-- A picture of raw pixels. -/
def rawPicture (sourceFilename : String) (sourceBytes : Bytes) (contentType : Option String)
    (metadata : JsonObject) (width height : ℤ) (format : String) (bytes : ℤ)
    (order : List (String × Json)) : Except MediaError Prepared :=
  if (sourceBytes.length : ℤ) ≠ width * height * bytes then
    invalid "invalid_picture_size"
      s!"Picture {format} payload must be exactly {width * height * bytes} bytes for {width}x{height}."
  else
    .ok (asIs sourceFilename sourceBytes contentType "application/octet-stream"
      (metadata.update (rawPixels (String.ofList (format.toList.map Char.toLower)) order width height)))

/-- `_prepare_endpoint_payload`, of a picture. -/
def preparePicture (sourceFilename : String) (sourceBytes : Bytes) (contentType : Option String)
    (metadata : JsonObject) : Except MediaError Prepared := do
  let ext := suffix sourceFilename
  let (width, height) ← pictureDimensions env metadata
  if ext = ".rgb565" then
    rawPicture sourceFilename sourceBytes contentType metadata width height "RGB565" 2 []
  else if ext = ".rgb888" then
    rawPicture sourceFilename sourceBytes contentType metadata width height "RGB888" 3 rgbOrder
  else
    let payload ← convertImageToRgb565 env sourceBytes width height
    return converted sourceFilename payload (metadata.update (convertedPixels ext width height))

/-- A sprite of raw pixels. -/
def rawSprite (sourceFilename : String) (sourceBytes : Bytes) (contentType : Option String)
    (metadata : JsonObject) (format : String) (bytes : ℤ) (order : List (String × Json)) :
    Except MediaError Prepared := do
  let (width, height) ← spriteDimensions env metadata
    s!"Sprite {format} uploads require width and height metadata."
  if (sourceBytes.length : ℤ) ≠ width * height * bytes then
    invalid "invalid_sprite_size" s!"Sprite {format} size does not match width and height."
  else if spriteMaxBytes < sourceBytes.length then
    invalid "sprite_too_large" "Sprite payload is too large."
  else
    .ok (asIs sourceFilename sourceBytes contentType "application/octet-stream"
      (metadata.update (rawPixels (String.ofList (format.toList.map Char.toLower)) order width height)))

/-- A sprite that is converted. -/
def convertedSprite (sourceFilename : String) (sourceBytes : Bytes) (metadata : JsonObject) :
    Except MediaError Prepared := do
  let (width, height) ← spriteDimensions env metadata
    "Sprite image conversion requires width and height metadata."
  let payload ← convertImageToRgb565 env sourceBytes width height
  if spriteMaxBytes < payload.length then
    invalid "sprite_too_large" "Converted sprite payload is too large."
  else
    .ok (converted sourceFilename payload
      (metadata.update (convertedPixels (suffix sourceFilename) width height)))

/-- `_prepare_endpoint_payload`, of a sprite. -/
def prepareSprite (sourceFilename : String) (sourceBytes : Bytes) (contentType : Option String)
    (metadata : JsonObject) : Except MediaError Prepared :=
  let ext := suffix sourceFilename
  if ext = ".json" then
    if spriteMaxBytes < sourceBytes.length then
      invalid "sprite_too_large" "Sprite metadata is too large."
    else .ok (asIs sourceFilename sourceBytes contentType "application/json" metadata)
  else if ext = ".alpha8" ∨ ext = ".alpha1" then
    if spriteMaxBytes < sourceBytes.length then
      invalid "sprite_too_large" "Alpha mask payload is too large."
    else
      .ok (asIs sourceFilename sourceBytes contentType "application/octet-stream"
        (metadata.update [("alpha_format", .str (withoutDots ext))]))
  else if ext = ".rgb565" then
    rawSprite env sourceFilename sourceBytes contentType metadata "RGB565" 2 []
  else if ext = ".rgb888" then
    rawSprite env sourceFilename sourceBytes contentType metadata "RGB888" 3 rgbOrder
  else convertedSprite env sourceFilename sourceBytes metadata

/-- The first bytes of TTF and OTF files. -/
def fontSignatures : List Bytes :=
  [[0, 1, 0, 0], [0x4F, 0x54, 0x54, 0x4F], [0x74, 0x72, 0x75, 0x65], [0x74, 0x79, 0x70, 0x31]]

/-- `HXF1`. -/
def hxfSignature : Bytes := [0x48, 0x58, 0x46, 0x31]

/-- `_prepare_endpoint_payload`, of a font. -/
def prepareFont (sourceFilename : String) (sourceBytes : Bytes) (contentType : Option String)
    (metadata : JsonObject) : Except MediaError Prepared :=
  let ext := suffix sourceFilename
  let prepared := Except.ok
    (asIs sourceFilename sourceBytes contentType (contentTypeForFilename sourceFilename .font) metadata)
  if fontMaxBytes < sourceBytes.length then invalid "font_too_large" "Font asset is too large."
  else if ext = ".ttf" ∨ ext = ".otf" then
    if sourceBytes.take 4 ∉ fontSignatures then
      invalid "invalid_font" "Font uploads must be valid TTF or OTF files."
    else prepared
  else if ext = ".hxf" then
    if ¬ hxfSignature <+: sourceBytes then
      invalid "invalid_font" "Bitmap font uploads must use the HXF1 format."
    else prepared
  else if ¬ (ByteArray.mk sourceBytes.toArray).IsValidUTF8 then
    invalid "invalid_font_metadata" "Font metadata must be UTF-8 text."
  else prepared

/-- `_prepare_endpoint_payload`, of a sound. -/
def prepareSound (sourceFilename : String) (sourceBytes : Bytes) (contentType : Option String)
    (metadata : JsonObject) : Except MediaError Prepared :=
  if soundMaxBytes < sourceBytes.length then invalid "sound_too_large" "Sound payload is too large."
  else do
    let soundMetadata ← validateWav env sourceBytes
    return asIs sourceFilename sourceBytes contentType "audio/wav" (metadata.update soundMetadata)

def prepareEndpointPayload (mediaType : EndpointMediaType) (sourceFilename : String)
    (sourceBytes : Bytes) (contentType : Option String) (metadata : JsonObject) :
    Except MediaError Prepared :=
  match mediaType with
  | .picture => preparePicture env sourceFilename sourceBytes contentType metadata
  | .sprite => prepareSprite env sourceFilename sourceBytes contentType metadata
  | .font => prepareFont sourceFilename sourceBytes contentType metadata
  | .sound => prepareSound env sourceFilename sourceBytes contentType metadata

variable {env}

/-! ### Sizes -/

section sizes

variable {sourceFilename : String} {sourceBytes : Bytes} {contentType : Option String}
  {metadata : JsonObject} {p : Prepared}

theorem not_invalid {α : Type} {code message : String} {a : α} :
    (invalid code message : Except MediaError α) ≠ .ok a := by
  intro h
  cases h

theorem pictureDimensions_spec {width height : ℤ}
    (h : pictureDimensions env metadata = .ok (width, height)) :
    0 < width ∧ 0 < height ∧ width * height * 2 ≤ pictureMaxBytes := by
  simp only [pictureDimensions] at h
  split at h
  · cases h
  · exact absurd h not_invalid
  · split_ifs at h with hpositive hlarge
    · exact absurd h not_invalid
    · exact absurd h not_invalid
    · cases h
      push Not at hpositive hlarge
      exact ⟨hpositive.1, hpositive.2, hlarge⟩

/-- Two bytes for each pixel. -/
theorem convertImageToRgb565_length {width height : ℤ} {payload : Bytes}
    (h : convertImageToRgb565 env sourceBytes width height = .ok payload) :
    payload.length = width.toNat * height.toNat * 2 := by
  unfold convertImageToRgb565 at h
  split at h
  · cases h
  · split at h
    · cases h
    · cases h
      simp only [List.length_flatMap, Pixel.rgb565, List.length_cons, List.length_nil, List.map_const',
        List.length_range, List.sum_replicate, smul_eq_mul]
      ring

theorem rawPicture_spec {width height bytes : ℤ} {format : String} {order : List (String × Json)}
    (h : rawPicture sourceFilename sourceBytes contentType metadata width height format bytes order =
      .ok p) :
    (sourceBytes.length : ℤ) = width * height * bytes ∧ p.endpointBytes = sourceBytes ∧
      p.endpointFilename = sourceFilename := by
  unfold rawPicture at h
  split_ifs at h with hsize
  · exact absurd h not_invalid
  · cases h
    exact ⟨not_not.mp hsize, rfl, rfl⟩

/-- What a picture becomes. -/
theorem preparePicture_cases
    (h : preparePicture env sourceFilename sourceBytes contentType metadata = .ok p) :
    ∃ width height, pictureDimensions env metadata = .ok (width, height) ∧
      ((suffix sourceFilename ≠ ".rgb888" ∧ (sourceBytes.length : ℤ) = width * height * 2 ∧
          p.endpointBytes = sourceBytes ∧ p.endpointFilename = sourceFilename) ∨
        (suffix sourceFilename = ".rgb888" ∧ p.endpointBytes = sourceBytes ∧
          p.endpointFilename = sourceFilename) ∨
        (suffix sourceFilename ≠ ".rgb888" ∧
          convertImageToRgb565 env sourceBytes width height = .ok p.endpointBytes ∧
          p.endpointFilename = stem sourceFilename ++ ".rgb565")) := by
  unfold preparePicture at h
  obtain ⟨⟨width, height⟩, hdimensions, h⟩ := except_bind_eq_ok.mp h
  refine ⟨width, height, hdimensions, ?_⟩
  simp only at h
  split_ifs at h with h565 h888
  · obtain ⟨hsize, hbytes, hname⟩ := rawPicture_spec h
    have hother : suffix sourceFilename ≠ ".rgb888" := by
      rw [h565]
      decide
    exact .inl ⟨hother, hsize, hbytes, hname⟩
  · obtain ⟨-, hbytes, hname⟩ := rawPicture_spec h
    exact .inr (.inl ⟨h888, hbytes, hname⟩)
  · obtain ⟨payload, hpayload, h⟩ := except_bind_eq_ok.mp h
    cases h
    exact .inr (.inr ⟨h888, hpayload, rfl⟩)

theorem rawSprite_spec {format : String} {bytes : ℤ} {order : List (String × Json)}
    (h : rawSprite env sourceFilename sourceBytes contentType metadata format bytes order = .ok p) :
    p.endpointBytes.length ≤ spriteMaxBytes ∧ p.endpointFilename = sourceFilename := by
  unfold rawSprite at h
  obtain ⟨⟨width, height⟩, -, h⟩ := except_bind_eq_ok.mp h
  simp only at h
  split_ifs at h with hsize hlimit
  · exact absurd h not_invalid
  · exact absurd h not_invalid
  · cases h
    exact ⟨not_lt.mp hlimit, rfl⟩

theorem convertedSprite_spec
    (h : convertedSprite env sourceFilename sourceBytes metadata = .ok p) :
    p.endpointBytes.length ≤ spriteMaxBytes ∧
      p.endpointFilename = stem sourceFilename ++ ".rgb565" := by
  unfold convertedSprite at h
  obtain ⟨⟨width, height⟩, -, h⟩ := except_bind_eq_ok.mp h
  obtain ⟨payload, -, h⟩ := except_bind_eq_ok.mp h
  split_ifs at h with hlimit
  · exact absurd h not_invalid
  · cases h
    exact ⟨not_lt.mp hlimit, rfl⟩

/-- All sprites are checked. -/
theorem prepareSprite_spec
    (h : prepareSprite env sourceFilename sourceBytes contentType metadata = .ok p) :
    p.endpointBytes.length ≤ spriteMaxBytes ∧
      (p.endpointFilename = sourceFilename ∨ p.endpointFilename = stem sourceFilename ++ ".rgb565") := by
  simp only [prepareSprite] at h
  split_ifs at h with hjson hlarge halpha hlarge' h565 h888
  · exact absurd h not_invalid
  · cases h
    exact ⟨not_lt.mp hlarge, .inl rfl⟩
  · exact absurd h not_invalid
  · cases h
    exact ⟨not_lt.mp hlarge', .inl rfl⟩
  · obtain ⟨hfits, hname⟩ := rawSprite_spec h
    exact ⟨hfits, .inl hname⟩
  · obtain ⟨hfits, hname⟩ := rawSprite_spec h
    exact ⟨hfits, .inl hname⟩
  · obtain ⟨hfits, hname⟩ := convertedSprite_spec h
    exact ⟨hfits, .inr hname⟩

theorem prepareFont_spec (h : prepareFont sourceFilename sourceBytes contentType metadata = .ok p) :
    p.endpointBytes.length ≤ fontMaxBytes ∧ p.endpointFilename = sourceFilename := by
  simp only [prepareFont] at h
  split_ifs at h with hlarge hfont hsignature hhxf hbitmap htext
  · exact absurd h not_invalid
  · cases h
    exact ⟨not_lt.mp hlarge, rfl⟩
  · exact absurd h not_invalid
  · cases h
    exact ⟨not_lt.mp hlarge, rfl⟩
  · exact absurd h not_invalid
  · cases h
    exact ⟨not_lt.mp hlarge, rfl⟩
  · exact absurd h not_invalid

theorem prepareSound_spec (h : prepareSound env sourceFilename sourceBytes contentType metadata = .ok p) :
    p.endpointBytes.length ≤ soundMaxBytes ∧ p.endpointFilename = sourceFilename := by
  unfold prepareSound at h
  split_ifs at h with hlarge
  · exact absurd h not_invalid
  · obtain ⟨soundMetadata, -, h⟩ := except_bind_eq_ok.mp h
    cases h
    exact ⟨not_lt.mp hlarge, rfl⟩

/-- A picture has at most the bytes that were checked, unless it has three for each pixel. -/
theorem preparePicture_fits_iff
    (h : preparePicture env sourceFilename sourceBytes contentType metadata = .ok p) :
    p.endpointBytes.length ≤ pictureMaxBytes ↔
      (suffix sourceFilename = ".rgb888" → sourceBytes.length ≤ pictureMaxBytes) := by
  obtain ⟨width, height, hdimensions, hcases⟩ := preparePicture_cases h
  obtain ⟨hwidth, hheight, hlimit⟩ := pictureDimensions_spec hdimensions
  obtain ⟨hother, hlength, hbytes, -⟩ | ⟨h888, hbytes, -⟩ | ⟨hother, hpayload, -⟩ := hcases
  · have hfits : sourceBytes.length ≤ pictureMaxBytes := by omega
    rw [hbytes]
    exact iff_of_true hfits fun _ => hfits
  · rw [hbytes, imp_iff_right h888]
  · refine iff_of_true ?_ fun h888 => absurd h888 hother
    rw [convertImageToRgb565_length hpayload]
    have hproduct : ((width.toNat * height.toNat * 2 : ℕ) : ℤ) = width * height * 2 := by
      rw [Nat.cast_mul, Nat.cast_mul, Int.toNat_of_nonneg hwidth.le, Int.toNat_of_nonneg hheight.le]
      rfl
    omega

/-- **What is accepted obeys the limit of its type, but for RGB888 pictures of more than the
limit.** -/
theorem prepareEndpointPayload_fits_iff
    (h : prepareEndpointPayload env mediaType sourceFilename sourceBytes contentType metadata = .ok p) :
    p.endpointBytes.length ≤ mediaType.maxBytes ↔
      (mediaType = .picture → suffix sourceFilename = ".rgb888" →
        sourceBytes.length ≤ pictureMaxBytes) := by
  cases mediaType with
  | picture =>
    have hpicture : EndpointMediaType.picture = .picture := rfl
    rw [imp_iff_right hpicture]
    exact preparePicture_fits_iff h
  | sprite => exact iff_of_true (prepareSprite_spec h).1 nofun
  | sound => exact iff_of_true (prepareSound_spec h).1 nofun
  | font => exact iff_of_true (prepareFont_spec h).1 nofun

/-- The name is that of the upload, or its stem with another suffix. -/
theorem prepareEndpointPayload_name_cases
    (h : prepareEndpointPayload env mediaType sourceFilename sourceBytes contentType metadata = .ok p) :
    p.endpointFilename = sourceFilename ∨ p.endpointFilename = stem sourceFilename ++ ".rgb565" := by
  cases mediaType with
  | picture =>
    obtain ⟨_, _, -, ⟨-, -, -, hname⟩ | ⟨-, -, hname⟩ | ⟨-, -, hname⟩⟩ := preparePicture_cases h
    · exact .inl hname
    · exact .inl hname
    · exact .inr hname
  | sprite => exact (prepareSprite_spec h).2
  | sound => exact .inl (prepareSound_spec h).2
  | font => exact .inl (prepareFont_spec h).2

end sizes

/-! ### Safe names -/

/-- A name that stays in its directory and does not begin with a dot. -/
structure SafeName (name : String) : Prop where
  nonempty : name.toList ≠ []
  no_dot : name.toList.head? ≠ some '.'
  no_slash : '/' ∉ name.toList

theorem safeFilename_safe {filename name : String} (h : safeFilename filename = .ok name) :
    SafeName name := by
  unfold safeFilename at h
  simp only at h
  split_ifs at h with hempty hsimple hcontrol hlong
  · exact absurd h not_invalid
  · exact absurd h not_invalid
  · exact absurd h not_invalid
  · exact absurd h not_invalid
  · cases h
    push Not at hsimple
    exact ⟨fun hnil => hempty (String.toList_eq_nil_iff.mp hnil), hsimple.1, hsimple.2.1⟩

theorem suffixStart_pos {name : List Char} {i : ℕ} (h : suffixStart name = some i) : 0 < i := by
  obtain ⟨-, hbounds⟩ := Option.filter_eq_some_iff.mp h
  exact of_decide_eq_true (Bool.and_eq_true_iff.mp hbounds).1

/-- The stem of a safe name, with a suffix, is one. -/
theorem SafeName.converted {name : String} (h : SafeName name) : SafeName (stem name ++ ".rgb565") := by
  have hstem : (stem name).toList = (suffixStart name.toList).elim name.toList name.toList.take :=
    String.toList_ofList
  obtain ⟨c, cs, hname⟩ := List.exists_cons_of_ne_nil h.nonempty
  have hhead : ∃ rest, (stem name).toList = c :: rest ∧ rest ⊆ cs := by
    rw [hstem]
    cases hstart : suffixStart name.toList with
    | none => exact ⟨cs, hname, List.Subset.refl cs⟩
    | some i =>
      obtain ⟨j, rfl⟩ := Nat.exists_eq_succ_of_ne_zero (suffixStart_pos hstart).ne'
      refine ⟨cs.take j, ?_, List.take_subset j cs⟩
      simp only [Option.elim_some, hname, List.take_succ_cons]
  obtain ⟨rest, hrest, hsubset⟩ := hhead
  have hlist : (stem name ++ ".rgb565").toList = c :: (rest ++ ".rgb565".toList) := by
    rw [String.toList_append, hrest, List.cons_append]
  have hdot := h.no_dot
  have hslash := h.no_slash
  rw [hname] at hdot hslash
  rw [List.mem_cons, not_or] at hslash
  refine ⟨?_, ?_, ?_⟩
  · rw [hlist]
    exact List.cons_ne_nil _ _
  · rw [hlist]
    exact hdot
  · rw [hlist, List.mem_cons, List.mem_append, not_or, not_or]
    exact ⟨hslash.1, fun hmem => hslash.2 (hsubset hmem), by decide⟩

/-- **The name of an accepted payload is safe.** -/
theorem prepareEndpointPayload_name {filename sourceFilename : String}
    {sourceBytes : Bytes} {contentType : Option String} {metadata : JsonObject} {p : Prepared}
    (hsource : safeFilename filename = .ok sourceFilename)
    (h : prepareEndpointPayload env mediaType sourceFilename sourceBytes contentType metadata = .ok p) :
    SafeName p.endpointFilename := by
  have hsafe := safeFilename_safe hsource
  obtain hname | hname := prepareEndpointPayload_name_cases h
  · rw [hname]
    exact hsafe
  · rw [hname]
    exact hsafe.converted

/-! ### Safe ids -/

theorem assetIdChar_range {c : Char} (h : assetIdChar c = true) : 45 ≤ c.toNat ∧ c.toNat ≤ 122 := by
  have hbounds : ('A' ≤ c ∧ c ≤ 'Z') ∨ ('a' ≤ c ∧ c ≤ 'z') ∨ ('0' ≤ c ∧ c ≤ '9') ∨ c = '_' ∨ c = '.' ∨
      c = '-' := by
    simpa [assetIdChar, or_assoc] using h
  obtain ⟨hlow, hhigh⟩ | ⟨hlow, hhigh⟩ | ⟨hlow, hhigh⟩ | rfl | rfl | rfl := hbounds
  · have hlow : 65 ≤ c.toNat := hlow
    have hhigh : c.toNat ≤ 90 := hhigh
    omega
  · have hlow : 97 ≤ c.toNat := hlow
    have hhigh : c.toNat ≤ 122 := hhigh
    omega
  · have hlow : 48 ≤ c.toNat := hlow
    have hhigh : c.toNat ≤ 57 := hhigh
    omega
  · decide
  · decide
  · decide

theorem assetIdChar_not_space {c : Char} (h : assetIdChar c = true) : isPySpace c = false := by
  have hrange := assetIdChar_range h
  simp only [isPySpace, Bool.or_eq_false_iff, Bool.and_eq_false_iff, decide_eq_false_iff_not]
  omega

/-- The digits of a new id. -/
theorem digitChar_assetIdChar (d : Fin 16) :
    assetIdChar (Nat.digitChar d) = true ∧ Nat.digitChar d ≠ '.' := by
  revert d
  decide

theorem contains_dots_eq_false {text : String} (h : '.' ∉ text.toList) : contains text ".." = false := by
  unfold contains
  rw [List.any_eq_false]
  intro t ht hprefix
  have hsuffix : t <:+ text.toList := (List.mem_tails _ _).mp ht
  have hdot : '.' ∈ t := (List.isPrefixOf_iff_prefix.mp hprefix).subset (by decide)
  exact h (hsuffix.subset hdot)

/-- An id that is left as it is. -/
structure SafeId (assetId : String) : Prop where
  nonempty : assetId ≠ ""
  short : assetId.length ≤ 80
  chars : ∀ c ∈ assetId.toList, assetIdChar c = true
  dots : (startsWith assetId "." || contains assetId "..") = false

theorem SafeId.strip {assetId : String} (h : SafeId assetId) : strip assetId = assetId := by
  have hends (hne : assetId.toList ≠ []) : isPySpace (assetId.toList.head hne) = false ∧
      isPySpace (assetId.toList.getLast hne) = false :=
    ⟨assetIdChar_not_space (h.chars _ (List.head_mem hne)),
      assetIdChar_not_space (h.chars _ (List.getLast_mem hne))⟩
  have hsame : stripChars assetId.toList = assetId.toList :=
    strip_of_ends (fun hne => (hends hne).1) fun hne => (hends hne).2
  rw [Library.strip, hsame, String.ofList_toList]

theorem SafeId.safeAssetId {assetId : String} (h : SafeId assetId) (uuid : Fin 32 → Fin 16) :
    safeAssetId uuid (some assetId) = .ok assetId := by
  have hchars : assetId.toList.all assetIdChar = true := List.all_eq_true.mpr h.chars
  have hshort := h.short
  simp only [Media.safeAssetId, Option.bind_some, Library.nonempty, if_neg h.nonempty, h.strip, hchars,
    h.dots]
  rw [if_neg, if_neg]
  · exact Bool.false_ne_true
  · rintro (hempty | hlong | hother)
    · exact h.nonempty hempty
    · omega
    · cases hother

/-- A new id is safe. -/
theorem safeId_media (uuid : Fin 32 → Fin 16) :
    SafeId ("media_" ++ String.ofList (List.ofFn fun i => Nat.digitChar (uuid i))) := by
  have hlist : ("media_" ++ String.ofList (List.ofFn fun i => Nat.digitChar (uuid i))).toList =
      ['m', 'e', 'd', 'i', 'a', '_'] ++ List.ofFn fun i => Nat.digitChar (uuid i) := by
    rw [String.toList_append, String.toList_ofList, String.toList_ofList]
  have hchars : ∀ c ∈ ['m', 'e', 'd', 'i', 'a', '_'] ++ List.ofFn (fun i => Nat.digitChar (uuid i)),
      assetIdChar c = true ∧ c ≠ '.' := by
    rw [List.forall_mem_append]
    refine ⟨by simp [assetIdChar], ?_⟩
    rw [List.forall_mem_ofFn_iff]
    exact fun i => digitChar_assetIdChar (uuid i)
  refine ⟨?_, ?_, ?_, ?_⟩
  · intro hempty
    rw [hempty] at hlist
    cases hlist
  · rw [← String.length_toList, hlist, List.length_append, List.length_ofFn]
    decide
  · rw [hlist]
    exact fun c hc => (hchars c hc).1
  · have hnodot : '.' ∉ ("media_" ++ String.ofList (List.ofFn fun i => Nat.digitChar (uuid i))).toList := by
      rw [hlist]
      exact fun hmem => (hchars '.' hmem).2 rfl
    rw [contains_dots_eq_false hnodot, startsWith, hlist]
    rfl

/-- **What is accepted as an id is safe.** -/
theorem safeAssetId_safe {uuid : Fin 32 → Fin 16} {assetId : Option String} {safe : String}
    (h : safeAssetId uuid assetId = .ok safe) : SafeId safe := by
  unfold safeAssetId at h
  split at h
  · cases h
    exact safeId_media uuid
  · simp only at h
    split_ifs at h with hformat hdots
    · exact absurd h not_invalid
    · exact absurd h not_invalid
    · cases h
      push Not at hformat
      exact ⟨hformat.1, hformat.2.1, List.all_eq_true.mp (Bool.eq_true_of_not_eq_false hformat.2.2),
        Bool.eq_false_of_not_eq_true hdots⟩

end HexeVoice.Endpoint.Media
