import HexeVoice.Firmware.OtaManifest
import HexeVoice.Library.Decimal

/-!
# Signed recovery installs

How the backend signs the installation of a firmware image by the recovery image, from `main.py`, and
how `recovery_control.cpp` reads the headers of the request.

## The model

The values of headers arrive as they are sent. Only the length of a SHA-256 digest is known. The boards
are those that `board.yaml` files define.

## What is proved

**`install_accepted_iff`**: an install that is signed for a board is accepted exactly if the partition
schema of the board and the key id fit their buffers, the version is not empty, and the size is positive
and fits an `int`; what the device takes the HMAC of is then what was signed.
-/

namespace HexeVoice.Recovery.Install

open HexeVoice.Library HexeVoice.Library.Lines
open HexeVoice.Firmware.OtaManifest (Settings OTA_MANIFEST_SIGNATURE_ALGORITHM INT_MAX isHexDigest
  kOtaSignatureAlgorithm)

/-! ### Signing -/

/-- What an install is signed for. -/
structure InstallMetadata where
  applicationType : String
  boardProfile : String
  partitionSchema : String
  version : Option String
  sha256 : String
  sizeBytes : ℕ
  signatureAlgorithm : String
  signatureKeyId : String

def recoveryInstallSignaturePayload (m : InstallMetadata) : String :=
  "\n".intercalate
    [m.applicationType, m.boardProfile, m.partitionSchema, m.version.getD "", m.sha256,
      Int.repr m.sizeBytes, m.signatureAlgorithm, m.signatureKeyId]

def signRecoveryInstallMetadata (h : Sha256) (settings : Settings) (m : InstallMetadata) : String :=
  asciiText (h.hmac settings.otaManifestSigningKey (utf8 (recoveryInstallSignaturePayload m)))

/-- The headers of an install request. -/
def installHeaders (m : InstallMetadata) (signature : String) (autoReboot : Bool) :
    List (String × String) :=
  [("Content-Type", "application/octet-stream"),
    ("X-Hexe-Application-Type", m.applicationType),
    ("X-Hexe-Board-Profile", m.boardProfile),
    ("X-Hexe-Partition-Schema", m.partitionSchema),
    ("X-Hexe-Version", m.version.getD ""),
    ("X-Hexe-Image-Sha256", m.sha256),
    ("X-Hexe-Image-Size", Int.repr m.sizeBytes),
    ("X-Hexe-Signature-Algorithm", m.signatureAlgorithm),
    ("X-Hexe-Signature-Key-Id", m.signatureKeyId),
    ("X-Hexe-Manifest-Signature", signature),
    ("X-Hexe-Reboot-After-Install", if autoReboot then "true" else "false")]

/-! ### Reading headers -/

/-- The part of a request that is read before its body. -/
structure Request where
  headers : List (String × CString)
  contentLen : ℤ

def getHeader (req : Request) (name : String) (size : ℕ) : Option (CBuffer size) :=
  match req.headers.lookup name with
  | none => none
  | some value => if value.length = 0 then none else CBuffer.ofText size value

/-- `parse_header_int`; what leaves the range of `strtol` is no `int` either. -/
def parseHeaderInt (req : Request) (name : String) : Option ℤ :=
  match getHeader req name 24 with
  | none => none
  | some value =>
    match Decimal.wholeNumber value.text.bytes with
    | none => none
    | some parsed => if parsed ≤ 0 ∨ INT_MAX < parsed then none else some parsed

def parseHeaderBool (req : Request) (name : String) : Bool :=
  match getHeader req name 12 with
  | none => false
  | some value =>
    [JsonBytes.ascii "1", JsonBytes.ascii "true", JsonBytes.ascii "yes"].contains
      (value.text.bytes.map CJson.lowerByte)

structure InstallHeaders where
  applicationType : CBuffer 16
  boardProfile : CBuffer 40
  partitionSchema : CBuffer 24
  version : CBuffer 40
  sha256 : CBuffer 65
  signatureAlgorithm : CBuffer 24
  signatureKeyId : CBuffer 48
  manifestSignature : CBuffer 65
  sizeBytes : ℤ
  rebootAfterInstall : Bool

def canonicalInstallPayload (headers : InstallHeaders) : List UInt8 :=
  joinLines
    [headers.applicationType.text.bytes,
      headers.boardProfile.text.bytes,
      headers.partitionSchema.text.bytes,
      headers.version.text.bytes,
      headers.sha256.text.bytes,
      utf8 (Int.repr headers.sizeBytes),
      headers.signatureAlgorithm.text.bytes,
      headers.signatureKeyId.text.bytes]

/-- The constants of a recovery image. -/
structure Image where
  kBoardProfile : CString
  kPartitionSchema : CString
  kEndpointOtaManifestKeyId : CString
  kEndpointOtaManifestSigningKey : CString

def verifyInstallSignature (h : Sha256) (image : Image) (headers : InstallHeaders) : Bool :=
  h.calculateHmac image.kEndpointOtaManifestSigningKey.bytes (canonicalInstallPayload headers) =
    headers.manifestSignature.text.bytes

/-- A header that is there, and passes a check. -/
def checked {size : ℕ} (value : Option (CBuffer size)) (check : CString → Bool) (error : String) :
    Except String (CBuffer size) :=
  match value with
  | some value => if check value.text then .ok value else .error error
  | none => .error error

/-- A size that is there, and is that of the body. -/
def checkedSize (size : Option ℤ) (contentLen : ℤ) : Except String ℤ :=
  match size with
  | some size => if size = contentLen then .ok size else .error "invalid_size"
  | none => .error "invalid_size"

/-- `read_install_headers`, and the error that it sets. -/
def readInstallHeaders (h : Sha256) (image : Image) (req : Request) :
    Except String InstallHeaders := do
  let applicationType ← checked (getHeader req "X-Hexe-Application-Type" 16)
    (· = .ofAscii "endpoint") "wrong_application_type"
  let boardProfile ← checked (getHeader req "X-Hexe-Board-Profile" 40)
    (· = image.kBoardProfile) "unsupported_profile"
  let partitionSchema ← checked (getHeader req "X-Hexe-Partition-Schema" 24)
    (· = image.kPartitionSchema) "partition_schema_mismatch"
  let version ← checked (getHeader req "X-Hexe-Version" 40) (fun _ => true) "missing_version"
  let sha256 ← checked (getHeader req "X-Hexe-Image-Sha256" 65) isHexDigest "invalid_checksum"
  let sizeBytes ← checkedSize (parseHeaderInt req "X-Hexe-Image-Size") req.contentLen
  let signatureAlgorithm ← checked (getHeader req "X-Hexe-Signature-Algorithm" 24)
    (· = kOtaSignatureAlgorithm) "unsupported_signature_algorithm"
  let signatureKeyId ← checked (getHeader req "X-Hexe-Signature-Key-Id" 48)
    (· = image.kEndpointOtaManifestKeyId) "unknown_signature_key"
  let manifestSignature ← checked (getHeader req "X-Hexe-Manifest-Signature" 65) isHexDigest
    "invalid_signature"
  let headers : InstallHeaders :=
    { applicationType, boardProfile, partitionSchema, version, sha256, signatureAlgorithm,
      signatureKeyId, manifestSignature, sizeBytes
      rebootAfterInstall := parseHeaderBool req "X-Hexe-Reboot-After-Install" }
  if verifyInstallSignature h image headers then .ok headers else .error "invalid_signature"

/-! ### Boards -/

/-- The boards that are shipped. -/
inductive ShippedBoard where
  | espBox3
  | haVoicePe
  | waveshareP4Wifi6TouchLcd7b
  | waveshareS3TouchLcd185cBoxV2
  deriving DecidableEq

/-- `board_profile` of `board.yaml`. -/
def ShippedBoard.boardProfile : ShippedBoard → String
  | espBox3 => "esp_box_3"
  | haVoicePe => "ha_voice_pe"
  | waveshareP4Wifi6TouchLcd7b => "waveshare_p4_wifi6_touch_lcd_7b"
  | waveshareS3TouchLcd185cBoxV2 => "waveshare_s3_touch_lcd_1_85c_box_v2"

/-- `partition_schema` of `board.yaml`. -/
def ShippedBoard.partitionSchema : ShippedBoard → String
  | espBox3 => "s3-16m-recovery-v1"
  | haVoicePe => "s3-16m-recovery-single-model-v1"
  | waveshareP4Wifi6TouchLcd7b => "p4-32m-v1"
  | waveshareS3TouchLcd185cBoxV2 => "s3-16m-recovery-single-model-v1"

/-- The recovery image of a board, built with the key of the backend. -/
def ShippedBoard.image (board : ShippedBoard) (keyId : String) (signingKey : CString) : Image where
  kBoardProfile := .ofText board.boardProfile
  kPartitionSchema := .ofText board.partitionSchema
  kEndpointOtaManifestKeyId := .ofText keyId
  kEndpointOtaManifestSigningKey := signingKey

/-- What is signed of an image for a board. -/
def ShippedBoard.metadata (board : ShippedBoard) (keyId version sha256 : String) (sizeBytes : ℕ) :
    InstallMetadata where
  applicationType := "endpoint"
  boardProfile := board.boardProfile
  partitionSchema := board.partitionSchema
  version := some version
  sha256
  sizeBytes
  signatureAlgorithm := OTA_MANIFEST_SIGNATURE_ALGORITHM
  signatureKeyId := keyId

/-- The request that carries it. -/
def requestOf (m : InstallMetadata) (signature : String) (autoReboot : Bool) : Request where
  headers := (installHeaders m signature autoReboot).map fun (name, value) => (name, .ofText value)
  contentLen := m.sizeBytes

/-! ### What is read -/

/-- A header is read where it has a value that fits. -/
theorem getHeader_eq_some {req : Request} {name : String} {size : ℕ} {value : CBuffer size} :
    getHeader req name size = some value ↔
      req.headers.lookup name = some value.text ∧ value.text.length ≠ 0 := by
  simp only [getHeader]
  cases req.headers.lookup name with
  | none => simp
  | some text =>
    by_cases hempty : text.length = 0
    · simp only [hempty, if_true, reduceCtorEq, Option.some.injEq, false_iff, not_and, not_not]
      rintro rfl
      exact hempty
    · simp only [hempty, if_false, CBuffer.ofText_eq_some, Option.some.injEq]
      constructor
      · rintro rfl
        exact ⟨rfl, hempty⟩
      · rintro ⟨rfl, -⟩
        rfl

theorem checked_eq_ok {size : ℕ} {value : Option (CBuffer size)} {check : CString → Bool}
    {error : String} {buffer : CBuffer size} :
    checked value check error = .ok buffer ↔ value = some buffer ∧ check buffer.text = true := by
  cases value with
  | none => simp [checked]
  | some value =>
    simp only [checked, Option.some.injEq]
    constructor
    · intro h
      split at h
      · next hcheck =>
        cases h
        exact ⟨rfl, hcheck⟩
      · cases h
    · rintro ⟨rfl, hcheck⟩
      rw [if_pos hcheck]

theorem checkedSize_eq_ok {read : Option ℤ} {contentLen size : ℤ} :
    checkedSize read contentLen = .ok size ↔ read = some size ∧ size = contentLen := by
  cases read with
  | none => simp [checkedSize]
  | some read =>
    simp only [checkedSize, Option.some.injEq]
    constructor
    · intro h
      split at h
      · next hsize =>
        cases h
        exact ⟨rfl, hsize⟩
      · cases h
    · rintro ⟨rfl, hsize⟩
      rw [if_pos hsize]

/-- What is read of a request, if all its headers pass their checks. -/
structure Reads (image : Image) (req : Request) (headers : InstallHeaders) : Prop where
  applicationType : getHeader req "X-Hexe-Application-Type" 16 = some headers.applicationType ∧
    headers.applicationType.text = .ofAscii "endpoint"
  boardProfile : getHeader req "X-Hexe-Board-Profile" 40 = some headers.boardProfile ∧
    headers.boardProfile.text = image.kBoardProfile
  partitionSchema : getHeader req "X-Hexe-Partition-Schema" 24 = some headers.partitionSchema ∧
    headers.partitionSchema.text = image.kPartitionSchema
  version : getHeader req "X-Hexe-Version" 40 = some headers.version
  sha256 : getHeader req "X-Hexe-Image-Sha256" 65 = some headers.sha256 ∧
    isHexDigest headers.sha256.text = true
  sizeBytes : parseHeaderInt req "X-Hexe-Image-Size" = some headers.sizeBytes ∧
    headers.sizeBytes = req.contentLen
  signatureAlgorithm :
    getHeader req "X-Hexe-Signature-Algorithm" 24 = some headers.signatureAlgorithm ∧
    headers.signatureAlgorithm.text = kOtaSignatureAlgorithm
  signatureKeyId : getHeader req "X-Hexe-Signature-Key-Id" 48 = some headers.signatureKeyId ∧
    headers.signatureKeyId.text = image.kEndpointOtaManifestKeyId
  manifestSignature :
    getHeader req "X-Hexe-Manifest-Signature" 65 = some headers.manifestSignature ∧
    isHexDigest headers.manifestSignature.text = true
  rebootAfterInstall :
    headers.rebootAfterInstall = parseHeaderBool req "X-Hexe-Reboot-After-Install"

/-- **Headers are accepted** exactly if they are all read, and verified. -/
theorem readInstallHeaders_eq_ok {h : Sha256} {image : Image} {req : Request}
    {headers : InstallHeaders} :
    readInstallHeaders h image req = .ok headers ↔
      Reads image req headers ∧ verifyInstallSignature h image headers = true := by
  simp only [readInstallHeaders, bind_eq_ok, checked_eq_ok, checkedSize_eq_ok, decide_eq_true_eq]
  constructor
  · rintro ⟨applicationType, happlication, boardProfile, hboard, partitionSchema, hpartition,
      version, hversion, sha256, hsha256, sizeBytes, hsizeBytes, algorithm, halgorithm, keyId, hkeyId,
      signature, hsignature, hverify⟩
    split at hverify
    · next hverified =>
      cases hverify
      exact ⟨⟨happlication, hboard, hpartition, hversion.1, hsha256, hsizeBytes, halgorithm, hkeyId,
        hsignature, rfl⟩, hverified⟩
    · cases hverify
  · rintro ⟨hreads, hverified⟩
    refine ⟨_, hreads.applicationType, _, hreads.boardProfile, _, hreads.partitionSchema, _,
      ⟨hreads.version, trivial⟩, _, hreads.sha256, _, hreads.sizeBytes, _, hreads.signatureAlgorithm, _,
      hreads.signatureKeyId, _, hreads.manifestSignature, ?_⟩
    rw [← hreads.rebootAfterInstall, if_pos hverified]

/-! ### What is sent -/

/-- **A text that is sent** is read exactly if it is not empty and fits. -/
theorem getHeader_sent (req : Request) (name : String) {text : String} {size : ℕ}
    (hlookup : req.headers.lookup name = some (.ofText text)) (htext : 0 ∉ utf8 text)
    (value : CBuffer size) :
    getHeader req name size = some value ↔
      (text ≠ "" ∧ (utf8 text).length < size) ∧ value.text = .ofText text := by
  have hempty : (utf8 text).length ≠ 0 ↔ text ≠ "" := by
    rw [ne_eq, List.length_eq_zero_iff]
    refine not_congr ⟨fun h => utf8_inj (h.trans rfl), ?_⟩
    rintro rfl
    rfl
  rw [getHeader_eq_some, hlookup, Option.some.injEq]
  constructor
  · rintro ⟨htexts, hlength⟩
    rw [← htexts, CString.length_ofText htext] at hlength
    have hfits := value.fits
    rw [← htexts, CString.length_ofText htext] at hfits
    exact ⟨⟨hempty.mp hlength, hfits⟩, htexts.symm⟩
  · rintro ⟨⟨hne, -⟩, hvalue⟩
    rw [hvalue, CString.length_ofText htext]
    exact ⟨rfl, hempty.mpr hne⟩

/-- The buffer that a text is read to. -/
def bufferOf (size : ℕ) (h : 0 < size) (text : String) : CBuffer size :=
  .copy size h (.ofText text)

/-- A text is a header that can be read to a buffer. -/
def HeaderFits (size : ℕ) (text : String) : Prop := text ≠ "" ∧ CString.Fits size text

theorem HeaderFits.text_bufferOf {size : ℕ} {text : String} (hfits : HeaderFits size text)
    (h : 0 < size) : (bufferOf size h text).text = .ofText text := by
  apply CBuffer.copy_of_fits
  rw [CString.length_ofText hfits.2.1]
  exact hfits.2.2

theorem HeaderFits.getHeader {req : Request} {name text : String} {size : ℕ} (h : 0 < size)
    (hfits : HeaderFits size text) (hlookup : req.headers.lookup name = some (.ofText text)) :
    getHeader req name size = some (bufferOf size h text) :=
  (getHeader_sent req name hlookup hfits.2.1 _).mpr ⟨⟨hfits.1, hfits.2.2⟩, hfits.text_bufferOf h⟩

section sent

variable {m : InstallMetadata} {signature : String} {autoReboot : Bool}

/-- A size that is sent is read exactly if it is positive and an `int`. -/
theorem parseHeaderInt_sent {size : ℤ} :
    parseHeaderInt (requestOf m signature autoReboot) "X-Hexe-Image-Size" = some size ↔
      (0 < m.sizeBytes ∧ m.sizeBytes ≤ INT_MAX) ∧ size = m.sizeBytes := by
  have hzero := Decimal.zero_notMem_repr m.sizeBytes
  have hget (value : CBuffer 24) := getHeader_sent (requestOf m signature autoReboot)
    "X-Hexe-Image-Size" rfl hzero value
  simp only [parseHeaderInt]
  cases hread : getHeader (requestOf m signature autoReboot) "X-Hexe-Image-Size" 24 with
  | none =>
    simp only [reduceCtorEq, false_iff, not_and, and_imp]
    intro hpositive hmax
    -- The text of an `int` fits, so it would be read.
    have hsmall : m.sizeBytes < 10 ^ 10 := by
      simp only [INT_MAX] at hmax
      omega
    have hlength := Decimal.length_repr_le (by decide : 0 < 10) hsmall
    have hne : Int.repr m.sizeBytes ≠ "" := by
      intro hempty
      have hwhole := Decimal.wholeNumber_repr m.sizeBytes
      rw [hempty] at hwhole
      cases hwhole
    have hfits : HeaderFits 24 (Int.repr m.sizeBytes) := ⟨hne, hzero, by omega⟩
    rw [hfits.getHeader (by decide) rfl] at hread
    cases hread
  | some value =>
    obtain ⟨-, htext⟩ := (hget value).mp hread
    simp only [htext, CString.bytes_ofText hzero, Decimal.wholeNumber_repr]
    constructor
    · intro h
      split at h
      · cases h
      · next hrange =>
        simp only [Option.some.injEq] at h
        omega
    · rintro ⟨⟨hpositive, hmax⟩, rfl⟩
      rw [if_neg (by omega)]

/-- The texts of what is signed. -/
def InstallMetadata.texts (m : InstallMetadata) : List String :=
  [m.applicationType, m.boardProfile, m.partitionSchema, m.version.getD "", m.sha256,
    m.signatureAlgorithm, m.signatureKeyId]

/-- **What the device takes the HMAC of** is what was signed. -/
theorem canonicalInstallPayload_of_reads {image : Image} {headers : InstallHeaders}
    (hzeros : ∀ text ∈ m.texts, 0 ∉ utf8 text)
    (hreads : Reads image (requestOf m signature autoReboot) headers) :
    canonicalInstallPayload headers = utf8 (recoveryInstallSignaturePayload m) := by
  simp only [InstallMetadata.texts, List.forall_mem_cons, List.not_mem_nil, false_implies,
    implies_true, and_true] at hzeros
  obtain ⟨happlication, hboard, hpartition, hversion, hsha256, halgorithm, hkeyId⟩ := hzeros
  have hbytes {name text : String} {size : ℕ} {value : CBuffer size}
      (hget : getHeader (requestOf m signature autoReboot) name size = some value)
      (hlookup : (requestOf m signature autoReboot).headers.lookup name = some (.ofText text))
      (htext : 0 ∉ utf8 text) : value.text.bytes = utf8 text := by
    rw [((getHeader_sent _ _ hlookup htext value).mp hget).2, CString.bytes_ofText htext]
  obtain ⟨-, hsize⟩ := parseHeaderInt_sent.mp hreads.sizeBytes.1
  rw [recoveryInstallSignaturePayload, utf8_join, canonicalInstallPayload,
    hbytes hreads.applicationType.1 rfl happlication, hbytes hreads.boardProfile.1 rfl hboard,
    hbytes hreads.partitionSchema.1 rfl hpartition, hbytes hreads.version rfl hversion,
    hbytes hreads.sha256.1 rfl hsha256, hbytes hreads.signatureAlgorithm.1 rfl halgorithm,
    hbytes hreads.signatureKeyId.1 rfl hkeyId, hsize]
  rfl

/-- All that is sent can be read. -/
structure SentFits (m : InstallMetadata) (signature : String) : Prop where
  applicationType : HeaderFits 16 m.applicationType
  boardProfile : HeaderFits 40 m.boardProfile
  partitionSchema : HeaderFits 24 m.partitionSchema
  version : HeaderFits 40 (m.version.getD "")
  sha256 : HeaderFits 65 m.sha256
  signatureAlgorithm : HeaderFits 24 m.signatureAlgorithm
  signatureKeyId : HeaderFits 48 m.signatureKeyId
  signature : HeaderFits 65 signature

/-- What is read of what is sent. -/
def headersOf (m : InstallMetadata) (signature : String) (autoReboot : Bool) : InstallHeaders where
  applicationType := bufferOf 16 pos16 m.applicationType
  boardProfile := bufferOf 40 pos40 m.boardProfile
  partitionSchema := bufferOf 24 pos24 m.partitionSchema
  version := bufferOf 40 pos40 (m.version.getD "")
  sha256 := bufferOf 65 pos65 m.sha256
  signatureAlgorithm := bufferOf 24 pos24 m.signatureAlgorithm
  signatureKeyId := bufferOf 48 pos48 m.signatureKeyId
  manifestSignature := bufferOf 65 pos65 signature
  sizeBytes := m.sizeBytes
  rebootAfterInstall :=
    parseHeaderBool (requestOf m signature autoReboot) "X-Hexe-Reboot-After-Install"

/-- **What is sent for an image** is read by it, if it fits. -/
theorem reads_headersOf {image : Image} (hfits : SentFits m signature)
    (hsize : 0 < m.sizeBytes ∧ m.sizeBytes ≤ INT_MAX)
    (happlication : CString.ofText m.applicationType = .ofAscii "endpoint")
    (hprofile : CString.ofText m.boardProfile = image.kBoardProfile)
    (hschema : CString.ofText m.partitionSchema = image.kPartitionSchema)
    (hsha256 : isHexDigest (.ofText m.sha256) = true)
    (halgorithm : CString.ofText m.signatureAlgorithm = kOtaSignatureAlgorithm)
    (hkeyId : CString.ofText m.signatureKeyId = image.kEndpointOtaManifestKeyId)
    (hsignature : isHexDigest (.ofText signature) = true) :
    Reads image (requestOf m signature autoReboot) (headersOf m signature autoReboot) where
  applicationType :=
    ⟨hfits.applicationType.getHeader (by decide) rfl,
      (hfits.applicationType.text_bufferOf (by decide)).trans happlication⟩
  boardProfile :=
    ⟨hfits.boardProfile.getHeader (by decide) rfl,
      (hfits.boardProfile.text_bufferOf (by decide)).trans hprofile⟩
  partitionSchema :=
    ⟨hfits.partitionSchema.getHeader (by decide) rfl,
      (hfits.partitionSchema.text_bufferOf (by decide)).trans hschema⟩
  version := hfits.version.getHeader (by decide) rfl
  sha256 := by
    refine ⟨hfits.sha256.getHeader (by decide) rfl, ?_⟩
    rw [headersOf, hfits.sha256.text_bufferOf]
    exact hsha256
  sizeBytes := ⟨parseHeaderInt_sent.mpr ⟨hsize, rfl⟩, rfl⟩
  signatureAlgorithm :=
    ⟨hfits.signatureAlgorithm.getHeader (by decide) rfl,
      (hfits.signatureAlgorithm.text_bufferOf (by decide)).trans halgorithm⟩
  signatureKeyId :=
    ⟨hfits.signatureKeyId.getHeader (by decide) rfl,
      (hfits.signatureKeyId.text_bufferOf (by decide)).trans hkeyId⟩
  manifestSignature := by
    refine ⟨hfits.signature.getHeader (by decide) rfl, ?_⟩
    rw [headersOf, hfits.signature.text_bufferOf]
    exact hsignature
  rebootAfterInstall := rfl

end sent

/-! ### Installs that are signed for a board -/

theorem digest_text {digits : List UInt8} (hdigits : ∀ c ∈ digits, isxdigit c = true)
    (hlength : digits.length = 64) :
    0 ∉ utf8 (asciiText digits) ∧ (utf8 (asciiText digits)).length = 64 ∧
      isHexDigest (.ofText (asciiText digits)) = true := by
  have hutf8 : utf8 (asciiText digits) = digits :=
    utf8_asciiText fun c hc => lt_of_isxdigit c (hdigits c hc)
  have hzero : 0 ∉ utf8 (asciiText digits) := by
    rw [hutf8]
    exact fun hmem => absurd (hdigits 0 hmem) (by decide)
  refine ⟨hzero, by rw [hutf8, hlength], ?_⟩
  rw [isHexDigest, CString.length_ofText hzero, CString.bytes_ofText hzero, hutf8, hlength]
  simpa using hdigits

/-- The texts of a board need no more than the buffers of its profile. -/
theorem board_texts (board : ShippedBoard) :
    (0 ∉ utf8 board.boardProfile ∧ board.boardProfile ≠ "" ∧
      (utf8 board.boardProfile).length < 40) ∧
    0 ∉ utf8 board.partitionSchema ∧ board.partitionSchema ≠ "" := by
  cases board <;> decide +kernel

theorem fixed_texts :
    HeaderFits 16 "endpoint" ∧ CString.ofText "endpoint" = .ofAscii "endpoint" ∧
      HeaderFits 24 OTA_MANIFEST_SIGNATURE_ALGORITHM ∧
      CString.ofText OTA_MANIFEST_SIGNATURE_ALGORITHM = kOtaSignatureAlgorithm := by
  refine ⟨⟨?_, ?_, ?_⟩, ?_, ⟨?_, ?_, ?_⟩, ?_⟩ <;> decide +kernel

theorem texts_of_board {board : ShippedBoard} {keyId version : String} {digest : List UInt8}
    {sizeBytes : ℕ} (hid : 0 ∉ utf8 keyId) (hversion : CString.Fits 32 version)
    (hdigest : digest.length = 32) :
    ∀ text ∈ (board.metadata keyId version (asciiText (bytesToHex digest)) sizeBytes).texts,
      0 ∉ utf8 text := by
  obtain ⟨⟨hprofile, -⟩, hschema, -⟩ := board_texts board
  have hsha256 := (digest_text (fun c hc => isxdigit_of_mem_bytesToHex hc)
    (by rw [length_bytesToHex, hdigest])).1
  simp only [InstallMetadata.texts, ShippedBoard.metadata, List.forall_mem_cons, List.not_mem_nil,
    false_implies, implies_true, and_true]
  exact ⟨by decide +kernel, hprofile, hschema, hversion.1, hsha256, by decide +kernel, hid⟩

/-- **An install that is signed for a board.** -/
theorem install_accepted_iff (h : Sha256) (settings : Settings) (signingKey : CString)
    (hkey : settings.otaManifestSigningKey = signingKey.bytes) (board : ShippedBoard)
    (keyId version : String) (hid : 0 ∉ utf8 keyId) (hversion : CString.Fits 32 version)
    (digest : List UInt8) (hdigest : digest.length = 32) (sizeBytes : ℕ) (autoReboot : Bool) :
    let m := board.metadata keyId version (asciiText (bytesToHex digest)) sizeBytes
    let read := readInstallHeaders h (board.image keyId signingKey)
      (requestOf m (signRecoveryInstallMetadata h settings m) autoReboot)
    ((∃ headers, read = .ok headers) ↔
      (utf8 board.partitionSchema).length < 24 ∧ version ≠ "" ∧
        (0 < sizeBytes ∧ sizeBytes ≤ INT_MAX) ∧ keyId ≠ "" ∧ (utf8 keyId).length < 48) ∧
    ∀ headers, read = .ok headers →
      canonicalInstallPayload headers = utf8 (recoveryInstallSignaturePayload m) := by
  intro m read
  have htexts : ∀ text ∈ m.texts, 0 ∉ utf8 text := texts_of_board hid hversion hdigest
  obtain ⟨⟨hprofile, hprofileNe, hprofileFits⟩, hschema, hschemaNe⟩ := board_texts board
  have hcanonical : ∀ headers, read = .ok headers →
      canonicalInstallPayload headers = utf8 (recoveryInstallSignaturePayload m) :=
    fun headers hread =>
      canonicalInstallPayload_of_reads htexts (readInstallHeaders_eq_ok.mp hread).1
  refine ⟨⟨?_, ?_⟩, hcanonical⟩
  · rintro ⟨headers, hread⟩
    obtain ⟨hreads, -⟩ := readInstallHeaders_eq_ok.mp hread
    have hschemaFits := ((getHeader_sent _ _ rfl hschema _).mp hreads.partitionSchema.1).1
    have hversionNe := ((getHeader_sent _ _ rfl hversion.1 _).mp hreads.version).1
    have hsize := (parseHeaderInt_sent.mp hreads.sizeBytes.1).1
    have hkeyFits := ((getHeader_sent _ _ rfl hid _).mp hreads.signatureKeyId.1).1
    exact ⟨hschemaFits.2, hversionNe.1, hsize, hkeyFits⟩
  · rintro ⟨hschemaFits, hversionNe, hsize, hkeyNe, hkeyFits⟩
    obtain ⟨hsha256, hsha256Length, hsha256Digest⟩ :=
      digest_text (fun c hc => isxdigit_of_mem_bytesToHex hc)
        (by rw [length_bytesToHex, hdigest])
    obtain ⟨hsignature, hsignatureLength, hsignatureDigest⟩ :=
      digest_text
        (fun c hc => h.isxdigit_of_mem_hmac hc) (h.length_hmac _ _)
    have hdigestNe {text : String} (hlength : (utf8 text).length = 64) : text ≠ "" := by
      rintro rfl
      cases hlength
    obtain ⟨happlicationFits, happlication, halgorithmFits, halgorithm⟩ := fixed_texts
    have hfits : SentFits m (signRecoveryInstallMetadata h settings m) :=
      { applicationType := happlicationFits
        boardProfile := ⟨hprofileNe, hprofile, hprofileFits⟩
        partitionSchema := ⟨hschemaNe, hschema, hschemaFits⟩
        version := ⟨hversionNe, hversion.1, lt_trans hversion.2 (by decide)⟩
        sha256 := ⟨hdigestNe hsha256Length, hsha256, lt_of_eq_of_lt hsha256Length (by decide)⟩
        signatureAlgorithm := halgorithmFits
        signatureKeyId := ⟨hkeyNe, hid, hkeyFits⟩
        signature :=
          ⟨hdigestNe hsignatureLength, hsignature, lt_of_eq_of_lt hsignatureLength (by decide)⟩ }
    have hreads : Reads (board.image keyId signingKey)
        (requestOf m (signRecoveryInstallMetadata h settings m) autoReboot)
        (headersOf m (signRecoveryInstallMetadata h settings m) autoReboot) :=
      reads_headersOf hfits hsize happlication rfl rfl hsha256Digest halgorithm rfl hsignatureDigest
    have hverified : verifyInstallSignature h (board.image keyId signingKey)
        (headersOf m (signRecoveryInstallMetadata h settings m) autoReboot) = true := by
      have hpayload := canonicalInstallPayload_of_reads htexts hreads
      have hbytes : (headersOf m (signRecoveryInstallMetadata h settings m)
          autoReboot).manifestSignature.text.bytes =
          h.hmac settings.otaManifestSigningKey (utf8 (recoveryInstallSignaturePayload m)) := by
        rw [headersOf, hfits.signature.text_bufferOf, signRecoveryInstallMetadata,
          CString.bytes_ofText hsignature]
        exact utf8_asciiText fun c hc => h.lt_of_mem_hmac hc
      rw [verifyInstallSignature, hpayload, hbytes, h.calculateHmac_eq, hkey]
      exact decide_eq_true rfl
    exact ⟨_, readInstallHeaders_eq_ok.mpr ⟨hreads, hverified⟩⟩

/-! ### Concrete installs -/

open HexeVoice.Firmware.OtaManifest (constantDigest someSettings voicePe)

/-- An install of a Voice PE, for which all is fine but for the length of its schema, is refused. -/
theorem install_refused :
    let m := ShippedBoard.haVoicePe.metadata "hexevoice-dev-v1" "0.9.1"
      (asciiText (bytesToHex (List.replicate 32 0))) 1000000
    let image := ShippedBoard.haVoicePe.image "hexevoice-dev-v1"
      voicePe.kEndpointOtaManifestSigningKey
    (readInstallHeaders constantDigest image
      (requestOf m (signRecoveryInstallMetadata constantDigest someSettings m) true)).map
        (fun headers => headers.sizeBytes) = .error "partition_schema_mismatch" := by
  decide +kernel

/-- The same install of an ESP-BOX-3 is accepted. -/
theorem install_accepted_box :
    let m := ShippedBoard.espBox3.metadata "hexevoice-dev-v1" "0.9.1"
      (asciiText (bytesToHex (List.replicate 32 0))) 1000000
    let image := ShippedBoard.espBox3.image "hexevoice-dev-v1"
      voicePe.kEndpointOtaManifestSigningKey
    ∃ headers, readInstallHeaders constantDigest image
      (requestOf m (signRecoveryInstallMetadata constantDigest someSettings m) true) =
        .ok headers :=
  (install_accepted_iff constantDigest someSettings voicePe.kEndpointOtaManifestSigningKey rfl
    .espBox3 "hexevoice-dev-v1" "0.9.1" (by decide +kernel) (by decide +kernel)
    (List.replicate 32 0) List.length_replicate 1000000 true).1.mpr (by decide +kernel)

end HexeVoice.Recovery.Install
