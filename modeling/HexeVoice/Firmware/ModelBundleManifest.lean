import HexeVoice.Library.JsonText
import HexeVoice.Library.Dict

/-!
# Signed manifests of model bundles

`firmware_bundles.py`, which builds and signs the manifest of a model bundle, and
`canonical_json_without_signature` of `voice/model_bundle.cpp`, which makes the text of which the
device checks the signature.

## The model

The manifest is a JSON tree. Numbers are the integers and floats of Python. How floats are printed
and read is a parameter, with what is documented of it as hypotheses. cJSON holds all numbers as
doubles and all strings as C strings, so that a string ends before its first zero.

## What is proved

**`payloads_agree_iff`**: the device and the signer make one text of a manifest exactly if all its
strings consist of ASCII characters other than NUL and DEL, its integers are doubles, and its floats
have a fraction and are the shortest of their decimals with 15 or, if these read otherwise, 17 digits.
-/

namespace HexeVoice.Firmware

open HexeVoice.Library
open HexeVoice.Library.JsonTree

variable {c letter : Char}

/-! ### Strings -/

/-- A digit of a hexadecimal number in lower case. -/
def hexDigit (n : ℕ) : Char := Nat.digitChar (n % 16)

/-- `\uXXXX`. -/
def unicodeEscape (n : ℕ) : List Char :=
  ['\\', 'u', hexDigit (n / 4096), hexDigit (n / 256), hexDigit (n / 16), hexDigit n]

/-- The escapes with a letter that Python and cJSON know, for all but the slash. -/
def shortEscape (c : Char) : Option Char :=
  if c = '"' then some '"'
  else if c = '\\' then some '\\'
  else if c.toNat = 8 then some 'b'
  else if c.toNat = 9 then some 't'
  else if c.toNat = 10 then some 'n'
  else if c.toNat = 12 then some 'f'
  else if c.toNat = 13 then some 'r'
  else none

/-- `py_encode_basestring_ascii`: a character of a text under `ensure_ascii`. -/
def escapeAscii (c : Char) : List Char :=
  match shortEscape c with
  | some letter => ['\\', letter]
  | none =>
    if 32 ≤ c.toNat ∧ c.toNat ≤ 126 then [c]
    else if c.toNat < 65536 then unicodeEscape c.toNat
    else
      unicodeEscape (0xd800 + (c.toNat - 0x10000) / 1024) ++
        unicodeEscape (0xdc00 + (c.toNat - 0x10000) % 1024)

/-- `print_string_ptr` of cJSON: a character of a C string, which is never zero. -/
def escapeRaw (c : Char) : List Char :=
  match shortEscape c with
  | some letter => ['\\', letter]
  | none => if 0 < c.toNat ∧ c.toNat < 32 then unicodeEscape c.toNat else [c]

/-- The characters that both print alike. -/
def plainChar (c : Char) : Bool := 0 < c.toNat && c.toNat < 127

/-- The C string that starts where the text does. -/
def cText (text : String) : String :=
  String.ofList (text.toList.takeWhile fun c => c.toNat ≠ 0)

/-! ### Numbers -/

/-- The finite doubles: their values, how Python prints them, how `sprintf` prints them with some
number of digits (`%1.15g`), which of them `strtod` reads, if the number is not out of range, and
which of them cJSON takes for equal. -/
structure Doubles where
  Double : Type
  value : Double → ℚ
  repr : Double → List Char
  general : ℕ → Double → List Char
  strtod : List Char → Option Double
  compareDouble : Double → Double → Bool

/-- A value that is neither a string nor a collection. -/
inductive Scalar (D : Doubles) where
  | null
  | bool (b : Bool)
  | int (n : ℤ)
  | float (x : D.Double)

/-- The characters of numbers. -/
def numeric (c : Char) : Bool := c.isDigit || c == '+' || c == '-' || c == '.' || c == 'e'

/-- What is documented of Python and C. -/
structure Doubles.Documented (D : Doubles) : Prop where
  /-- A float is printed so that it reads back. -/
  strtod_repr : ∀ x, D.strtod (D.repr x) = some x
  /-- A float is printed with a point or an exponent. -/
  repr_float : ∀ x, '.' ∈ D.repr x ∨ 'e' ∈ D.repr x
  repr_numeric : ∀ x, D.repr x ≠ [] ∧ (D.repr x).all numeric = true
  general_numeric : ∀ n x, D.general n x ≠ [] ∧ (D.general n x).all numeric = true
  /-- The doubles next to integers are integers. -/
  strtod_int : ∀ (n : ℤ) x, D.strtod n.repr.toList = some x → (D.value x).isInt = true

variable {D : Doubles}

/-- A scalar as `json.dumps` prints it. -/
def dumpsScalar : Scalar D → List Char
  | .null => "null".toList
  | .bool true => "true".toList
  | .bool false => "false".toList
  | .int n => n.repr.toList
  | .float x => D.repr x

/-- A double that is not an integer, with 15 digits if that reads as the double, else with 17. -/
def printFraction (x : D.Double) : List Char :=
  match D.strtod (D.general 15 x) with
  | some y => if D.compareDouble y x then D.general 15 x else D.general 17 x
  | none => D.general 17 x

/-- `print_number` of cJSON, by which numbers out of range are `null`. -/
def printNumber : Option D.Double → List Char
  | none => "null".toList
  | some x => if (D.value x).isInt then (D.value x).num.repr.toList else printFraction x

/-- A scalar as cJSON prints it, after it read what `json.dumps` printed. -/
def printScalar : Scalar D → List Char
  | .int n => printNumber (D.strtod (dumpsScalar (.int n : Scalar D)))
  | .float x => printNumber (D.strtod (dumpsScalar (.float x)))
  | literal => dumpsScalar literal

/-- The scalars that both print alike. -/
def PlainScalar : Scalar D → Prop
  | .int n => ∃ x, D.strtod n.repr.toList = some x ∧ D.value x = n
  | .float x => (D.value x).isInt = false ∧ D.repr x = printFraction x
  | _ => True

/-! ### The two texts -/

/-- A JSON value. -/
abbrev Value (D : Doubles) := JsonTree (Scalar D)

/-- `json.dumps(..., separators=(",", ":"), ensure_ascii=True)`. -/
def dumps : Value D → List Char := print ⟨escapeAscii, dumpsScalar⟩

/-- `cJSON_PrintUnformatted`. -/
def printUnformatted : Value D → List Char := print ⟨escapeRaw, printScalar⟩

/-- The UTF-8 of a text. -/
def encode (text : List Char) : ByteArray := (String.ofList text).toByteArray

def canonicalModelBundleSignaturePayload (manifest : Dict String (Value D)) : ByteArray :=
  encode (dumps (sorted (.obj (manifest.erase "signature").entries)))

/-- `cJSON_Parse`, of the text of a value. -/
def cJsonParse : Value D → Value D := mapStrings cText

/-- `canonical_json_without_signature`, which sorts the children of each object by `strcmp` and puts
their texts together. The order of UTF-8 is that of the characters. -/
def canonicalJsonWithoutSignature : Value D → ByteArray
  | .obj children =>
    encode (printUnformatted (sorted (.obj (children.filter fun child => child.1 ≠ "signature"))))
  | item => encode (printUnformatted (sorted item))

def signModelBundleManifest (hmac : String → ByteArray → String) (manifest : Dict String (Value D))
    (signingKey keyId : String) : Option (Dict String (Value D)) :=
  if signingKey = "" then none
  else
    some <| manifest.set "signature" <| .obj
      [("algorithm", .str "hmac-sha256"), ("key_id", .str keyId),
        ("scope", .str "canonical_manifest_without_signature"),
        ("value", .str (hmac signingKey (canonicalModelBundleSignaturePayload manifest)))]

/-! ### The manifest -/

/-- The size and the digest of a file. -/
structure ModelFile where
  sizeBytes : ℕ
  sha256 : String

/-- A directory of models: its files, and those of them that hold JSON. -/
structure ModelDir (D : Doubles) where
  file : String → Option ModelFile
  metadata : String → Option (Value D)

/-- `value[key]` and `value.get(key)` of a decoded object. -/
def field (key : String) : Value D → Option (Value D)
  | .obj entries => entries.lookup key
  | _ => none

/-- `value.get(key, default)`. -/
def fieldOr (key : String) (default value : Value D) : Value D := (field key value).getD default

/-- `_asset_digest`, which raises if there is no file. -/
def assetDigest (dir : ModelDir D) (path : String) : Option (Value D) :=
  (dir.file path).map fun file => .obj
    [("path", .str path), ("size_bytes", .atom (.int file.sizeBytes)), ("sha256", .str file.sha256)]

/-- `str(value)`, for which `strOf` stands where the value is not a string. -/
def pyStr (strOf : Value D → String) : Value D → String
  | .str s => s
  | value => strOf value

/-- The model entry, of what its files hold. -/
def modelEntryOf (role modelId source : String) (alias? : Option String) (wakeWord : Value D)
    (metadata micro asset model : Value D) (thresholds : List (String × Value D)) : Value D :=
  .obj <|
    [("id", .str modelId), ("role", .str role), ("wake_word", wakeWord), ("source", .str source),
      ("author", fieldOr "author" (.str "") metadata),
      ("trained_languages", fieldOr "trained_languages" (.arr []) metadata),
      ("upstream_version", fieldOr "version" (.atom .null) metadata),
      ("minimum_esphome_version", fieldOr "minimum_esphome_version" (.str "") micro),
      ("metadata", asset), ("model", model), ("thresholds", .obj thresholds)] ++
    (alias?.map fun name => ("alias", .str name)).toList

/-- A model as the manifest lists it, with the digests of its files. -/
structure ModelEntry (D : Doubles) where
  entry : Value D
  metadata : Value D
  model : Value D

/-- `_model_entry`. Nothing stands for a call that raises. -/
def modelEntry (strOf : Value D → String) (dir : ModelDir D)
    (metadataFilename role modelId source : String) (alias? : Option String) :
    Option (ModelEntry D) := do
  let metadata ← dir.metadata metadataFilename
  let modelFilename := pyStr strOf (← field "model" metadata)
  let micro ← field "micro" metadata
  let wakeWord ← field "wake_word" metadata
  let asset ← assetDigest dir metadataFilename
  let model ← assetDigest dir modelFilename
  let probabilityCutoff ← field "probability_cutoff" micro
  let slidingWindowSize ← field "sliding_window_size" micro
  let featureStepSize ← field "feature_step_size" micro
  let tensorArenaSize ← field "tensor_arena_size" micro
  let thresholds := [("probability_cutoff", probabilityCutoff),
    ("sliding_window_size", slidingWindowSize), ("feature_step_size_ms", featureStepSize),
    ("tensor_arena_size", tensorArenaSize)]
  return ⟨modelEntryOf role modelId source alias? wakeWord metadata micro asset model thresholds,
    asset, model⟩

/-- What `build_default_model_bundle_manifest` is called with, with `created_at_utc` filled in. -/
structure BundleOptions where
  bundleId : String := "hexe-microwake-defaults"
  version : String := "2026.08.30"
  releaseChannel : String := "dev"
  boardProfiles : List String := []
  partitionSchemas : List String := []
  requiredPartitions : List String := []
  createdAtUtc : String

/-- `names or defaults`. -/
def namesOr (names defaults : List String) : Value D :=
  .arr ((if names = [] then defaults else names).map .str)

def compatibility (options : BundleOptions) : Value D :=
  .obj
    [("firmware_api_version", .obj
        [("min", .str "hexe-firmware-main-api-v1"), ("max", .str "hexe-firmware-main-api-v1")]),
      ("board_profiles", namesOr options.boardProfiles
        ["ha_voice_pe", "waveshare_s3_touch_lcd_1_85c_box_v2"]),
      ("partition_schemas", namesOr options.partitionSchemas
        ["s3-16m-recovery-v1", "s3-16m-recovery-single-model-v1", "s3-8m-recovery-v1",
          "p4-32m-v1"]),
      ("requires_partitions", namesOr options.requiredPartitions ["model_a", "model_b"]),
      ("minimum_model_bank_bytes", .atom (.int (256 * 1024)))]

/-- The manifest, of its models and files. -/
def manifestOf (options : BundleOptions) (preprocessor : Value D) (wake stop : ModelEntry D) :
    Dict String (Value D) :=
  ⟨[("schema_version", .str "hexe-model-bundle-v1"),
    ("model_api_version", .str "hexe-model-bundle-api-v1"),
    ("bundle_id", .str options.bundleId), ("version", .str options.version),
    ("created_at_utc", .str options.createdAtUtc),
    ("release_channel", .str options.releaseChannel),
    ("security_policy", .str "signed_manifest_sha256_required"),
    ("compatibility", compatibility options),
    ("preprocessing", .obj
      [("id", .str "micro_wake_word_audio_preprocessor"), ("sample_rate_hz", .atom (.int 16000)),
        ("feature_step_size_ms", .atom (.int 10)), ("asset", preprocessor)]),
    ("models", .arr [wake.entry, stop.entry]),
    ("hashes", .arr [preprocessor, wake.metadata, wake.model, stop.metadata, stop.model])]⟩

/-- `build_default_model_bundle_manifest`, of a directory that is there. -/
def buildDefaultModelBundleManifest (strOf : Value D → String) (dir : ModelDir D)
    (options : BundleOptions) : Option (Dict String (Value D)) := do
  let wake ← modelEntry strOf dir "alexa.json" "wake" "alexa"
    "esphome_micro_wake_word_models_v2" (some "Hexe")
  let stop ← modelEntry strOf dir "stop.json" "playback_stop" "stop"
    "kahrendt_microWakeWord_stop_beta_20241017_5" none
  let preprocessor ← assetDigest dir "audio_preprocessor_int8.tflite"
  return manifestOf options preprocessor wake stop

/-! ### Escapes -/

theorem hexDigit_inj {m n : ℕ} (h : hexDigit m = hexDigit n) : m % 16 = n % 16 := by
  have hall : ∀ i j : Fin 16, Nat.digitChar i = Nat.digitChar j → i = j := by decide +kernel
  have hm : m % 16 < 16 := Nat.mod_lt _ (by omega)
  have hn : n % 16 < 16 := Nat.mod_lt _ (by omega)
  exact congrArg Fin.val (hall ⟨m % 16, hm⟩ ⟨n % 16, hn⟩ h)

/-- Four digits are a number below `65536`. -/
theorem unicodeEscape_cancel {m n : ℕ} {r r' : List Char} (hm : m < 65536) (hn : n < 65536)
    (h : unicodeEscape m ++ r = unicodeEscape n ++ r') : m = n ∧ r = r' := by
  simp only [unicodeEscape, List.cons_append, List.nil_append, List.cons.injEq, true_and] at h
  obtain ⟨h₀, h₁, h₂, h₃, hr⟩ := h
  have h₀ := hexDigit_inj h₀
  have h₁ := hexDigit_inj h₁
  have h₂ := hexDigit_inj h₂
  have h₃ := hexDigit_inj h₃
  exact ⟨by omega, hr⟩

theorem char_toNat_lt (c : Char) : c.toNat < 0x110000 := by
  rcases c.valid with h | ⟨-, h⟩
  · exact lt_trans h (by decide)
  · exact h

theorem char_eq_of_toNat {c d : Char} (h : c.toNat = d.toNat) : c = d :=
  Char.toNat_inj.mp h

/-- The letters of the short escapes, and what they stand for. -/
def letters : List (Char × ℕ) :=
  [('"', 34), ('\\', 92), ('b', 8), ('t', 9), ('n', 10), ('f', 12), ('r', 13)]

theorem shortEscape_mem (h : shortEscape c = some letter) :
    (letter, c.toNat) ∈ letters := by
  unfold shortEscape at h
  split_ifs at h <;> cases h <;> simp_all [letters]

/-- A letter stands for one character, which is plain. -/
theorem shortEscape_inj {c d letter : Char} (hc : shortEscape c = some letter)
    (hd : shortEscape d = some letter) : c = d ∧ plainChar c = true := by
  have hone : ∀ e ∈ letters, ∀ e' ∈ letters, e.1 = e'.1 → e.2 = e'.2 := by decide
  have hplain : ∀ e ∈ letters, 0 < e.2 ∧ e.2 < 127 := by decide
  obtain ⟨hpos, hlt⟩ := hplain _ (shortEscape_mem hc)
  constructor
  · exact char_eq_of_toNat (hone _ (shortEscape_mem hc) _ (shortEscape_mem hd) rfl)
  · simp [plainChar, hpos, hlt]

theorem shortEscape_ne (h : shortEscape c = some letter) : letter ≠ 'u' := by
  have hall : ∀ e ∈ letters, e.1 ≠ 'u' := by decide
  exact hall _ (shortEscape_mem h)

/-- Quotes and backslashes have a short escape. -/
theorem shortEscape_none {c : Char} (h : shortEscape c = none) : c ≠ '"' ∧ c ≠ '\\' := by
  constructor
  · rintro rfl
    exact absurd h (by decide)
  · rintro rfl
    exact absurd h (by decide)

/-- What Python prints for a character without a short escape. -/
theorem escapeAscii_cases {c : Char} (h : shortEscape c = none) :
    (32 ≤ c.toNat ∧ c.toNat ≤ 126 ∧ escapeAscii c = [c]) ∨
    ∃ n rest, escapeAscii c = unicodeEscape n ++ rest ∧ n < 65536 ∧
      (n = c.toNat ∧ rest = [] ∨ 0xd800 ≤ n) := by
  unfold escapeAscii
  rw [h]
  dsimp only
  split_ifs with hprintable hbasic
  · exact .inl ⟨hprintable.1, hprintable.2, rfl⟩
  · exact .inr ⟨c.toNat, [], (List.append_nil _).symm, hbasic, .inl ⟨rfl, rfl⟩⟩
  · have hlt := char_toNat_lt c
    exact .inr ⟨_, _, rfl, by omega, .inr (by omega)⟩

/-- What cJSON prints for a character without a short escape. -/
theorem escapeRaw_cases {c : Char} (h : shortEscape c = none) :
    (¬(0 < c.toNat ∧ c.toNat < 32) ∧ escapeRaw c = [c]) ∨
    (0 < c.toNat ∧ c.toNat < 32 ∧ escapeRaw c = unicodeEscape c.toNat) := by
  unfold escapeRaw
  rw [h]
  dsimp only
  split_ifs with hcontrol
  · exact .inr ⟨hcontrol.1, hcontrol.2, rfl⟩
  · exact .inl ⟨hcontrol, rfl⟩

theorem escapeAscii_short (h : shortEscape c = some letter) :
    escapeAscii c = ['\\', letter] := by
  rw [escapeAscii, h]

theorem escapeRaw_short (h : shortEscape c = some letter) :
    escapeRaw c = ['\\', letter] := by
  rw [escapeRaw, h]

theorem unicodeEscape_eq (n : ℕ) : ∃ rest, unicodeEscape n = '\\' :: 'u' :: rest := ⟨_, rfl⟩

/-- A character that is not a backslash is not the start of an escape. -/
theorem unicodeEscape_ne {c : Char} (hc : c ≠ '\\') (n : ℕ) (r r' : List Char) :
    unicodeEscape n ++ r ≠ c :: r' := by
  obtain ⟨rest, hrest⟩ := unicodeEscape_eq n
  rw [hrest]
  intro h
  exact hc (List.cons.inj h).1.symm

/-- **Escapes that agree are of one plain character.** -/
theorem escape_cancel {a b : Char} {r r' : List Char}
    (h : escapeAscii a ++ r = escapeRaw b ++ r') : a = b ∧ plainChar a = true ∧ r = r' := by
  rcases ha : shortEscape a with _ | la <;> rcases hb : shortEscape b with _ | lb
  · obtain ⟨haq, has⟩ := shortEscape_none ha
    obtain ⟨hbq, hbs⟩ := shortEscape_none hb
    rcases escapeAscii_cases ha with ⟨hlow, hhigh, hasc⟩ | ⟨n, rest, hasc, hn, hrest⟩ <;>
      rcases escapeRaw_cases hb with ⟨hctl, hraw⟩ | ⟨hpos, hlt, hraw⟩ <;>
      rw [hasc, hraw] at h
    · obtain ⟨rfl, hr⟩ := List.cons.inj h
      refine ⟨rfl, ?_, hr⟩
      simp only [plainChar, Bool.and_eq_true, decide_eq_true_eq]
      omega
    · exact absurd h.symm (unicodeEscape_ne has _ _ _)
    · rw [List.append_assoc] at h
      exact absurd h (unicodeEscape_ne hbs _ _ _)
    · rw [List.append_assoc] at h
      obtain ⟨rfl, hr⟩ := unicodeEscape_cancel hn (by omega) h
      rcases hrest with ⟨heq, rfl⟩ | hge
      · refine ⟨char_eq_of_toNat heq.symm, ?_, hr⟩
        simp only [plainChar, Bool.and_eq_true, decide_eq_true_eq]
        omega
      · omega
  · obtain ⟨haq, has⟩ := shortEscape_none ha
    rw [escapeRaw_short hb] at h
    rcases escapeAscii_cases ha with ⟨-, -, hasc⟩ | ⟨n, rest, hasc, -, -⟩ <;> rw [hasc] at h
    · exact absurd (List.cons.inj h).1 has
    · obtain ⟨digits, hdigits⟩ := unicodeEscape_eq n
      rw [hdigits] at h
      exact absurd (List.cons.inj (List.cons.inj h).2).1.symm (shortEscape_ne hb)
  · obtain ⟨hbq, hbs⟩ := shortEscape_none hb
    rw [escapeAscii_short ha] at h
    rcases escapeRaw_cases hb with ⟨-, hraw⟩ | ⟨-, -, hraw⟩ <;> rw [hraw] at h
    · exact absurd (List.cons.inj h).1.symm hbs
    · exact absurd (List.cons.inj (List.cons.inj h).2).1 (shortEscape_ne ha)
  · rw [escapeAscii_short ha, escapeRaw_short hb] at h
    obtain ⟨rfl, hr⟩ := List.cons.inj (List.cons.inj h).2
    obtain ⟨hab, hplain⟩ := shortEscape_inj ha hb
    exact ⟨hab, hplain, hr⟩

theorem escape_same {a : Char} (h : plainChar a = true) : escapeAscii a = escapeRaw a := by
  simp only [plainChar, Bool.and_eq_true, decide_eq_true_eq] at h
  rcases ha : shortEscape a with _ | letter
  · unfold escapeAscii escapeRaw
    rw [ha]
    dsimp only
    by_cases hctl : a.toNat < 32
    · rw [if_neg (by omega), if_pos (by omega), if_pos (by omega)]
    · rw [if_pos (by omega), if_neg (by omega)]
  · rw [escapeAscii_short ha, escapeRaw_short ha]

/-- No character is printed as a quote. -/
theorem escape_ne_quote (a : Char) (r r' : List Char) :
    escapeAscii a ++ r ≠ '"' :: r' ∧ escapeRaw a ++ r ≠ '"' :: r' := by
  rcases ha : shortEscape a with _ | letter
  · obtain ⟨haq, -⟩ := shortEscape_none ha
    constructor
    · rcases escapeAscii_cases ha with ⟨-, -, hasc⟩ | ⟨n, rest, hasc, -, -⟩ <;> rw [hasc]
      · exact fun h => haq (List.cons.inj h).1
      · rw [List.append_assoc]
        exact unicodeEscape_ne (by decide) _ _ _
    · rcases escapeRaw_cases ha with ⟨-, hraw⟩ | ⟨-, -, hraw⟩ <;> rw [hraw]
      · exact fun h => haq (List.cons.inj h).1
      · exact unicodeEscape_ne (by decide) _ _ _
  · rw [escapeAscii_short ha, escapeRaw_short ha]
    simp

/-! ### Tokens -/

/-- A text that holds none of the characters JSON is structured by. -/
def Token (text : List Char) : Prop :=
  text ≠ [] ∧ ∀ x ∈ text, x ∉ ['"', ',', ':', '[', ']', '{', '}']

theorem token_of_numeric {text : List Char} (h : text ≠ [] ∧ text.all numeric = true) :
    Token text := by
  have hno : ∀ x ∈ ['"', ',', ':', '[', ']', '{', '}'], numeric x = false := by simp [numeric]
  refine ⟨h.1, fun x hx hmem => ?_⟩
  have htrue := List.all_eq_true.mp h.2 x hx
  rw [hno x hmem] at htrue
  exact Bool.false_ne_true htrue

theorem numeric_nat (n : ℕ) : n.repr.toList ≠ [] ∧ n.repr.toList.all Char.isDigit = true := by
  rw [Nat.toList_repr]
  refine ⟨Nat.toDigits_ne_nil, List.all_eq_true.mpr fun c hc => ?_⟩
  exact Nat.isDigit_of_mem_toDigits (by omega) (by omega) hc

/-- The digits of an integer, behind a minus for the negative ones. -/
theorem int_digits (n : ℤ) : ∃ digits : List Char, digits ≠ [] ∧
    digits.all Char.isDigit = true ∧ (n.repr.toList = digits ∨ n.repr.toList = '-' :: digits) := by
  cases n with
  | ofNat n => exact ⟨n.repr.toList, (numeric_nat n).1, (numeric_nat n).2, .inl rfl⟩
  | negSucc n =>
    refine ⟨(n + 1).repr.toList, (numeric_nat _).1, (numeric_nat _).2, .inr ?_⟩
    simp [Int.repr]

theorem numeric_int (n : ℤ) : n.repr.toList ≠ [] ∧ n.repr.toList.all numeric = true := by
  obtain ⟨digits, hne, hall, heq⟩ := int_digits n
  have hnumeric : digits.all numeric = true := by
    refine List.all_eq_true.mpr fun c hc => ?_
    simp [numeric, List.all_eq_true.mp hall c hc]
  rcases heq with heq | heq <;> rw [heq]
  · exact ⟨hne, hnumeric⟩
  · refine ⟨List.cons_ne_nil _ _, ?_⟩
    rw [List.all_cons, hnumeric]
    rfl

/-- An integer is printed without a point or an exponent. -/
theorem int_point (n : ℤ) : '.' ∉ n.repr.toList ∧ 'e' ∉ n.repr.toList := by
  obtain ⟨digits, -, hall, heq⟩ := int_digits n
  have hno : ∀ c, c.isDigit = false → c ∉ digits := by
    intro c hc hmem
    rw [List.all_eq_true.mp hall c hmem] at hc
    exact Bool.false_ne_true hc.symm
  rcases heq with heq | heq <;> rw [heq]
  · exact ⟨hno _ (by decide), hno _ (by decide)⟩
  · simp [hno '.' (by decide), hno 'e' (by decide)]

theorem int_ne_null (n : ℤ) : "null".toList ≠ n.repr.toList := by
  intro h
  obtain ⟨digits, -, hall, heq⟩ := int_digits n
  rw [← h] at heq
  rcases heq with heq | heq
  · rw [← heq] at hall
    exact absurd hall (by decide +kernel)
  · exact absurd heq (by simp)

theorem token_literals : Token "null".toList ∧ Token "true".toList ∧ Token "false".toList := by
  simp [Token]

theorem token_printNumber (h : D.Documented) (x? : Option D.Double) : Token (printNumber x?) := by
  cases x? with
  | none => exact token_literals.1
  | some x =>
    simp only [printNumber]
    split_ifs with hint
    · exact token_of_numeric (numeric_int _)
    · unfold printFraction
      split
      · split_ifs
        · exact token_of_numeric (h.general_numeric 15 x)
        · exact token_of_numeric (h.general_numeric 17 x)
      · exact token_of_numeric (h.general_numeric 17 x)

theorem token_dumpsScalar (h : D.Documented) (a : Scalar D) : Token (dumpsScalar a) := by
  cases a with
  | null => exact token_literals.1
  | bool b =>
    cases b with
    | true => exact token_literals.2.1
    | false => exact token_literals.2.2
  | int n => exact token_of_numeric (numeric_int n)
  | float x => exact token_of_numeric (h.repr_numeric x)

theorem token_printScalar (h : D.Documented) (a : Scalar D) : Token (printScalar a) := by
  cases a with
  | null => exact token_literals.1
  | bool b => exact token_dumpsScalar h (.bool b)
  | int n => exact token_printNumber h _
  | float x => exact token_printNumber h _

/-- **Python and cJSON print plain characters alike, and all others apart.** -/
theorem printers_apart (h : D.Documented) :
    Apart ⟨escapeAscii, dumpsScalar (D := D)⟩ ⟨escapeRaw, printScalar⟩ plainChar where
  same _ := escape_same
  cancel := escape_cancel
  escape_ne := escape_ne_quote
  atom_ne a := ⟨(token_dumpsScalar h a).1, (token_printScalar h a).1⟩
  atom_mem a x hx := by
    rcases hx with hx | hx
    · exact (token_dumpsScalar h a).2 x hx
    · exact (token_printScalar h a).2 x hx

/-- A float is not printed as an integer is. -/
theorem repr_ne_int (h : D.Documented) (x : D.Double) (n : ℤ) : D.repr x ≠ n.repr.toList := by
  intro heq
  rcases h.repr_float x with hpoint | hexp
  · exact (int_point n).1 (heq ▸ hpoint)
  · exact (int_point n).2 (heq ▸ hexp)

/-- **The scalars that are printed alike.** -/
theorem scalar_iff (h : D.Documented) (a : Scalar D) :
    dumpsScalar a = printScalar a ↔ PlainScalar a := by
  cases a with
  | null => simp [PlainScalar, printScalar]
  | bool b => simp [PlainScalar, printScalar]
  | int n =>
    simp only [PlainScalar, printScalar, dumpsScalar]
    rcases hread : D.strtod n.repr.toList with _ | x
    · simpa [printNumber] using (int_ne_null n).symm
    · have hint := h.strtod_int n x hread
      have hvalue : D.value x = ((D.value x).num : ℚ) := Rat.eq_num_of_isInt hint
      simp only [printNumber, hint, if_true, Option.some.injEq, exists_eq_left']
      rw [String.toList_inj, Int.repr_inj, hvalue, Rat.num_intCast, Int.cast_inj, eq_comm]
  | float x =>
    simp only [PlainScalar, printScalar, dumpsScalar, h.strtod_repr x, printNumber]
    cases hint : (D.value x).isInt with
    | true => simpa using repr_ne_int h x _
    | false => simp

/-! ### The device and the signer -/

theorem cText_of_plain {s : String} (h : Plain plainChar s) : cText s = s := by
  have htake : s.toList.takeWhile (fun c => c.toNat ≠ 0) = s.toList := by
    rw [List.takeWhile_eq_self_iff]
    intro c hc
    have hplain := List.all_eq_true.mp h c hc
    simp only [plainChar, Bool.and_eq_true, decide_eq_true_eq] at hplain
    simpa using Nat.pos_iff_ne_zero.mp hplain.1
  rw [cText, htake, String.ofList_toList]

theorem encode_inj {s t : List Char} : encode s = encode t ↔ s = t := by
  constructor
  · intro h
    exact String.ofList_injective (String.toByteArray_inj.mp h)
  · rintro rfl
    rfl

/-- What cJSON reads of plain children, but for the signature. -/
theorem filter_children {q : Scalar D → Prop} (entries : List (String × Value D))
    (h : AllEntries (Plain plainChar) q (entries.filter fun child => child.1 ≠ "signature")) :
    (mapEntries cText entries).filter (fun child => child.1 ≠ "signature") =
      entries.filter fun child => child.1 ≠ "signature" := by
  induction entries with
  | nil => rfl
  | cons entry entries ih =>
    obtain ⟨key, value⟩ := entry
    rw [mapEntries, mapEntry]
    by_cases hkey : key = "signature"
    · subst hkey
      have hsig : cText "signature" = "signature" := by decide +kernel
      rw [List.filter_cons_of_neg (by simp)] at h
      rw [List.filter_cons_of_neg (by simp [hsig]), List.filter_cons_of_neg (by simp)]
      exact ih h
    · rw [List.filter_cons_of_pos (by simpa using hkey), AllEntries, AllEntry] at h
      obtain ⟨⟨hplain, hvalue⟩, hrest⟩ := h
      rw [cText_of_plain hplain, mapStrings_eq (fun _ => cText_of_plain) hvalue,
        List.filter_cons_of_pos (by simpa using hkey),
        List.filter_cons_of_pos (by simpa using hkey), ih hrest]

/-- The manifest without its signature, as a value. -/
def unsignedManifest (manifest : Dict String (Value D)) : Value D :=
  .obj (manifest.erase "signature").entries

/-- **Device and signer agree on a manifest exactly if both print all of it alike.** -/
theorem payload_eq_iff (h : D.Documented) (manifest : Dict String (Value D)) :
    canonicalJsonWithoutSignature (cJsonParse (.obj manifest.entries)) =
        canonicalModelBundleSignaturePayload manifest ↔
      All (Plain plainChar) PlainScalar (unsignedManifest manifest) := by
  have hscalar : (PlainScalar : Scalar D → Prop) = fun a => dumpsScalar a = printScalar a :=
    funext fun a => propext (scalar_iff h a).symm
  have hread : ∀ q, All (Plain plainChar) q (unsignedManifest manifest) →
      .obj ((mapEntries cText manifest.entries).filter fun child => child.1 ≠ "signature") =
        unsignedManifest manifest := by
    intro q hall
    rw [unsignedManifest, All] at hall
    rw [unsignedManifest, filter_children manifest.entries hall]
    rfl
  rw [cJsonParse, mapStrings, canonicalJsonWithoutSignature, canonicalModelBundleSignaturePayload,
    encode_inj, eq_comm, hscalar]
  exact print_sorted_eq_iff (printers_apart h) hread

/-- Signing changes nothing but the signature. -/
theorem unsignedManifest_set (manifest : Dict String (Value D)) (signature : Value D) :
    unsignedManifest (manifest.set "signature" signature) = unsignedManifest manifest := by
  rw [unsignedManifest, unsignedManifest, Dict.erase_set]

/-- A manifest is built without a signature. -/
theorem get_signature_of_build {strOf : Value D → String} {dir : ModelDir D}
    {options : BundleOptions} {manifest : Dict String (Value D)}
    (h : buildDefaultModelBundleManifest strOf dir options = some manifest) :
    manifest.get "signature" = none := by
  simp only [buildDefaultModelBundleManifest, bind, pure, Option.bind_eq_some_iff] at h
  obtain ⟨wake, -, stop, -, preprocessor, -, hmanifest⟩ := h
  cases hmanifest
  simp [manifestOf, Dict.get, List.lookup]

/-- **The payloads agree.** -/
theorem payloads_agree_iff (h : D.Documented) (strOf : Value D → String) (dir : ModelDir D)
    (options : BundleOptions) (hmac : String → ByteArray → String) (signingKey keyId : String)
    {manifest signed : Dict String (Value D)}
    (hbuild : buildDefaultModelBundleManifest strOf dir options = some manifest)
    (hsign : signModelBundleManifest hmac manifest signingKey keyId = some signed) :
    canonicalJsonWithoutSignature (cJsonParse (.obj signed.entries)) =
        canonicalModelBundleSignaturePayload signed ↔
      All (Plain plainChar) PlainScalar (.obj manifest.entries) := by
  have hunsigned : unsignedManifest manifest = .obj manifest.entries := by
    rw [unsignedManifest, Dict.erase_of_get_eq_none (get_signature_of_build hbuild)]
  unfold signModelBundleManifest at hsign
  split_ifs at hsign
  cases hsign
  rw [payload_eq_iff h, unsignedManifest_set, hunsigned]

/-! ### Two manifests -/

/-- Doubles with one digit behind the point. -/
def tenths : Doubles where
  Double := ℕ
  value n := n / 10
  repr n := (n / 10).repr.toList ++ '.' :: (n % 10).repr.toList
  general _ n := (n / 10).repr.toList ++ '.' :: (n % 10).repr.toList
  strtod text :=
    if text.all (fun c => c.isDigit || c == '.') then
      let whole := Nat.ofDigitChars 10 (text.takeWhile (· ≠ '.')) 0
      some (10 * whole + Nat.ofDigitChars 10 ((text.dropWhile (· ≠ '.')).drop 1) 0)
    else none
  compareDouble m n := m = n

theorem nat_point (n : ℕ) : ∀ c ∈ n.repr.toList, c ≠ '.' := by
  intro c hc
  have hdigit := List.all_eq_true.mp (numeric_nat n).2 c hc
  rintro rfl
  exact absurd hdigit (by decide)

theorem tenths_repr (n : ℕ) : tenths.strtod (tenths.repr n) = some n := by
  have hall : (tenths.repr n).all (fun c => c.isDigit || c == '.') = true := by
    refine List.all_eq_true.mpr fun c hc => ?_
    simp only [tenths, List.mem_append, List.mem_cons] at hc
    rcases hc with hc | rfl | hc
    · simp [List.all_eq_true.mp (numeric_nat _).2 c hc]
    · rfl
    · simp [List.all_eq_true.mp (numeric_nat _).2 c hc]
  have htake : (tenths.repr n).takeWhile (· ≠ '.') = (n / 10).repr.toList := by
    simp only [tenths]
    rw [List.takeWhile_append_of_pos (by simpa using nat_point (n / 10))]
    simp
  have hdrop : (tenths.repr n).dropWhile (· ≠ '.') = '.' :: (n % 10).repr.toList := by
    simp only [tenths]
    rw [List.dropWhile_append_of_pos (by simpa using nat_point (n / 10))]
    simp
  have hread : tenths.strtod (tenths.repr n) = some
      (10 * Nat.ofDigitChars 10 ((tenths.repr n).takeWhile (· ≠ '.')) 0 +
        Nat.ofDigitChars 10 (((tenths.repr n).dropWhile (· ≠ '.')).drop 1) 0) := by
    simp only [tenths] at hall ⊢
    rw [if_pos hall]
  rw [hread, htake, hdrop, List.drop_one, List.tail_cons, Nat.toList_repr, Nat.toList_repr,
    Nat.ofDigitChars_ten_toDigits, Nat.ofDigitChars_ten_toDigits]
  exact congrArg some (Nat.div_add_mod n 10)

theorem tenths_int (n : ℤ) (x : tenths.Double) (h : tenths.strtod n.repr.toList = some x) :
    (tenths.value x).isInt = true := by
  obtain ⟨digits, -, hall, heq⟩ := int_digits n
  simp only [tenths] at h
  split_ifs at h with hdigits
  have htext : n.repr.toList = digits := by
    rcases heq with heq | heq
    · exact heq
    · rw [heq, List.all_cons] at hdigits
      exact absurd hdigits (by simp)
  have hpoint : ∀ c ∈ digits, c ≠ '.' := by
    intro c hc
    have hdigit := List.all_eq_true.mp hall c hc
    rintro rfl
    exact absurd hdigit (by decide)
  have hdrop : digits.dropWhile (· ≠ '.') = [] := by
    rw [List.dropWhile_eq_nil_iff]
    simpa using hpoint
  rw [htext, hdrop] at h
  have hx := (Option.some.inj h).symm
  rw [hx]
  simp only [tenths, List.drop_nil, Nat.ofDigitChars_nil, Nat.add_zero, Nat.cast_mul,
    Nat.cast_ofNat]
  rw [mul_div_cancel_left₀ _ (by norm_num : (10 : ℚ) ≠ 0)]
  rfl

theorem tenths_numeric (n : ℕ) : tenths.repr n ≠ [] ∧ (tenths.repr n).all numeric = true := by
  constructor
  · simp [tenths]
  · refine List.all_eq_true.mpr fun c hc => ?_
    simp only [tenths, List.mem_append, List.mem_cons] at hc
    rcases hc with hc | rfl | hc
    · simp [numeric, List.all_eq_true.mp (numeric_nat _).2 c hc]
    · rfl
    · simp [numeric, List.all_eq_true.mp (numeric_nat _).2 c hc]

theorem tenths_documented : tenths.Documented where
  strtod_repr := tenths_repr
  repr_float x := .inl (by simp [tenths])
  repr_numeric := tenths_numeric
  general_numeric _ := tenths_numeric
  strtod_int := tenths_int

/-- The metadata of a wake word. -/
def wakeMetadata (wakeWord author model : String) (cutoff : ℕ) (arena : ℤ) : Value tenths :=
  .obj
    [("type", .str "micro"), ("wake_word", .str wakeWord), ("author", .str author),
      ("model", .str model), ("trained_languages", .arr [.str "en"]),
      ("version", .atom (.int 2)),
      ("micro", .obj
        [("probability_cutoff", .atom (.float cutoff)), ("sliding_window_size", .atom (.int 5)),
          ("feature_step_size", .atom (.int 10)), ("tensor_arena_size", .atom (.int arena)),
          ("minimum_esphome_version", .str "2024.7.0")])]

/-- A directory of empty model files. -/
def modelsDir (author : String) : ModelDir tenths where
  file path :=
    if path ∈ ["audio_preprocessor_int8.tflite", "alexa.json", "alexa.tflite", "stop.json",
      "stop.tflite"] then
      some ⟨0, "e3b0c44298fc1c149afbf4c8996fb92427ae41e4649b934ca495991b7852b855"⟩
    else none
  metadata path :=
    if path = "alexa.json" then some (wakeMetadata "Alexa" author "alexa.tflite" 9 22348)
    else if path = "stop.json" then some (wakeMetadata "Stop" author "stop.tflite" 5 21000)
    else none

/-- The options of a bundle of some day. -/
def someOptions : BundleOptions := { createdAtUtc := "2026-08-30T00:00:00Z" }

/-- The file of a model. -/
def emptyFile (path : String) : Value tenths :=
  .obj [("path", .str path), ("size_bytes", .atom (.int 0)),
    ("sha256", .str "e3b0c44298fc1c149afbf4c8996fb92427ae41e4649b934ca495991b7852b855")]

/-- The thresholds of a model. -/
def someThresholds (cutoff : ℕ) (arena : ℤ) : List (String × Value tenths) :=
  [("probability_cutoff", .atom (.float cutoff)), ("sliding_window_size", .atom (.int 5)),
    ("feature_step_size_ms", .atom (.int 10)), ("tensor_arena_size", .atom (.int arena))]

/-- The entry of a model. -/
def someEntry (role modelId source wakeWord author metadata model : String)
    (alias? : Option String) (cutoff : ℕ) (arena : ℤ) : ModelEntry tenths where
  entry := .obj <|
    [("id", .str modelId), ("role", .str role), ("wake_word", .str wakeWord),
      ("source", .str source), ("author", .str author), ("trained_languages", .arr [.str "en"]),
      ("upstream_version", .atom (.int 2)), ("minimum_esphome_version", .str "2024.7.0"),
      ("metadata", emptyFile metadata), ("model", emptyFile model),
      ("thresholds", .obj (someThresholds cutoff arena))] ++
    (alias?.map fun name => ("alias", .str name)).toList
  metadata := emptyFile metadata
  model := emptyFile model

/-- The manifest of the directory. -/
def someManifest (author : String) : Dict String (Value tenths) :=
  manifestOf someOptions (emptyFile "audio_preprocessor_int8.tflite")
    (someEntry "wake" "alexa" "esphome_micro_wake_word_models_v2" "Alexa" author "alexa.json"
      "alexa.tflite" (some "Hexe") 9 22348)
    (someEntry "playback_stop" "stop" "kahrendt_microWakeWord_stop_beta_20241017_5" "Stop" author
      "stop.json" "stop.tflite" none 5 21000)

theorem build_someManifest (author : String) :
    buildDefaultModelBundleManifest (fun _ => "") (modelsDir author) someOptions =
      some (someManifest author) := by
  rfl

/-- The strings of an entry. -/
theorem entry_author {q : Scalar tenths → Prop} {role modelId source wakeWord author metadata
    model : String} {alias? : Option String} {cutoff : ℕ} {arena : ℤ}
    (h : All (Plain plainChar) q (someEntry role modelId source wakeWord author metadata model
      alias? cutoff arena).entry) : Plain plainChar author := by
  simp only [someEntry, List.cons_append, All, AllEntries, AllEntry] at h
  exact h.2.2.2.2.1.2

theorem plain_int_tenths (n : ℕ) : PlainScalar (.int n : Scalar tenths) := by
  have hpoint : ∀ c ∈ n.repr.toList, c ≠ '.' := nat_point n
  have hall : n.repr.toList.all (fun c => c.isDigit || c == '.') = true := by
    refine List.all_eq_true.mpr fun c hc => ?_
    simp [List.all_eq_true.mp (numeric_nat n).2 c hc]
  have htake : n.repr.toList.takeWhile (· ≠ '.') = n.repr.toList := by
    rw [List.takeWhile_eq_self_iff]
    simpa using hpoint
  have hdrop : n.repr.toList.dropWhile (· ≠ '.') = [] := by
    rw [List.dropWhile_eq_nil_iff]
    simpa using hpoint
  refine ⟨10 * n, ?_, ?_⟩
  · simp only [tenths, Int.repr]
    rw [if_pos hall, htake, hdrop, List.drop_nil, Nat.ofDigitChars_nil, Nat.toList_repr,
      Nat.ofDigitChars_ten_toDigits, Nat.add_zero]
  · simp only [tenths, Nat.cast_mul, Nat.cast_ofNat]
    rw [mul_div_cancel_left₀ _ (by norm_num : (10 : ℚ) ≠ 0)]
    rfl

/-- The device makes the bytes that were signed where the author's name is ASCII. -/
theorem payloads_agree_kevin : ∃ manifest signed,
    buildDefaultModelBundleManifest (fun _ => "") (modelsDir "Kevin") someOptions = some manifest ∧
    signModelBundleManifest (fun _ _ => "") manifest "key" "hexevoice-model-dev-v1" = some signed ∧
    canonicalJsonWithoutSignature (cJsonParse (.obj signed.entries)) =
      canonicalModelBundleSignaturePayload signed := by
  refine ⟨someManifest "Kevin", _, build_someManifest _, rfl, ?_⟩
  refine (payloads_agree_iff tenths_documented (fun _ => "") (modelsDir "Kevin") someOptions
    (fun _ _ => "") "key" "hexevoice-model-dev-v1" (build_someManifest "Kevin") rfl).mpr ?_
  simp only [someManifest, manifestOf, compatibility, someEntry, emptyFile, someThresholds,
    someOptions, namesOr, List.map, if_true, List.cons_append, List.nil_append, Option.map,
    Option.toList, All, AllEntries, AllEntry, AllItems, and_true]
  repeat' apply And.intro
  all_goals first | decide +kernel | exact plain_int_tenths _

/-- **Not all manifests are agreed upon**: Python escapes the author's name, and cJSON does not. -/
theorem payloads_differ : ∃ manifest signed,
    buildDefaultModelBundleManifest (fun _ => "") (modelsDir "Kévin") someOptions = some manifest ∧
    signModelBundleManifest (fun _ _ => "") manifest "key" "hexevoice-model-dev-v1" = some signed ∧
    canonicalJsonWithoutSignature (cJsonParse (.obj signed.entries)) ≠
      canonicalModelBundleSignaturePayload signed := by
  refine ⟨someManifest "Kévin", _, build_someManifest _, rfl, fun heq => ?_⟩
  rw [payload_eq_iff tenths_documented, unsignedManifest_set, unsignedManifest,
    Dict.erase_of_get_eq_none (get_signature_of_build (build_someManifest "Kévin"))] at heq
  simp only [someManifest, manifestOf, All, AllEntries, AllEntry, AllItems] at heq
  have hauthor := entry_author heq.2.2.2.2.2.2.2.2.2.1.2.1
  exact absurd hauthor (by decide +kernel)

end HexeVoice.Firmware
