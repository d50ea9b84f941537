import HexeVoice.Library.JsonBytes
import HexeVoice.Library.Utf8
import Mathlib

/-!
# Digests

Keyed digests with SHA-256, of which only the length is known.
-/

namespace HexeVoice.Library

open HexeVoice.Library.JsonBytes (hexDigit hexValue)

/-- SHA-256. -/
structure Sha256 where
  digest : List UInt8 → List UInt8
  length_digest : ∀ message, (digest message).length = 32

def kSha256BlockBytes : ℕ := 64

/-- The two hexadecimal digits of each byte. -/
def bytesToHex (bytes : List UInt8) : List UInt8 :=
  bytes.flatMap fun b => [hexDigit (b / 16), hexDigit (b % 16)]

def isxdigit (c : UInt8) : Bool :=
  (48 ≤ c && c ≤ 57) || (65 ≤ c && c ≤ 70) || (97 ≤ c && c ≤ 102)

theorem isxdigit_hexDigits : ∀ b : UInt8,
    isxdigit (hexDigit (b / 16)) = true ∧ isxdigit (hexDigit (b % 16)) = true := by
  decide +kernel

theorem lt_of_isxdigit : ∀ c : UInt8, isxdigit c = true → c < 128 := by
  decide +kernel

theorem length_bytesToHex (bytes : List UInt8) : (bytesToHex bytes).length = 2 * bytes.length := by
  induction bytes with
  | nil => rfl
  | cons b bytes ih =>
    rw [bytesToHex, List.flatMap_cons, List.length_append, ← bytesToHex, ih, List.length_cons]
    simp only [List.length_cons, List.length_nil]
    omega

theorem isxdigit_of_mem_bytesToHex {bytes : List UInt8} {c : UInt8} (h : c ∈ bytesToHex bytes) :
    isxdigit c = true := by
  obtain ⟨b, -, hc⟩ := List.mem_flatMap.mp h
  have hdigits := isxdigit_hexDigits b
  simp only [List.mem_cons, List.not_mem_nil, or_false] at hc
  rcases hc with rfl | rfl
  · exact hdigits.1
  · exact hdigits.2

namespace Sha256

variable (sha256 : Sha256)

/-- `hashlib.sha256(message).hexdigest()`. -/
def hexdigest (message : List UInt8) : List UInt8 := bytesToHex (sha256.digest message)

/-- `hmac.new(key, message, hashlib.sha256).hexdigest()`. -/
def hmac (key message : List UInt8) : List UInt8 :=
  let key := if kSha256BlockBytes < key.length then sha256.digest key else key
  let padded := key ++ List.replicate (kSha256BlockBytes - key.length) 0
  let inner := sha256.digest (padded.map (· ^^^ 0x36) ++ message)
  bytesToHex (sha256.digest (padded.map (· ^^^ 0x5c) ++ inner))

/-- The block of a key: its bytes, or those of its digest, over zeros. -/
def keyBlock (key : List UInt8) : List UInt8 :=
  let zeros := List.replicate kSha256BlockBytes 0
  if kSha256BlockBytes < key.length then sha256.digest key ++ zeros.drop 32
  else key ++ zeros.drop key.length

/-- `calculate_manifest_hmac` and `calculate_install_hmac`, of the canonical payload. -/
def calculateHmac (key payload : List UInt8) : List UInt8 :=
  let innerPad := (sha256.keyBlock key).map (· ^^^ 0x36)
  let outerPad := (sha256.keyBlock key).map (· ^^^ 0x5c)
  bytesToHex (sha256.digest (outerPad ++ sha256.digest (innerPad ++ payload)))

/-- **The firmware's digest** is that of Python. -/
theorem calculateHmac_eq (key payload : List UInt8) :
    sha256.calculateHmac key payload = sha256.hmac key payload := by
  have hblock : sha256.keyBlock key =
      (if kSha256BlockBytes < key.length then sha256.digest key else key) ++
        List.replicate (kSha256BlockBytes -
          (if kSha256BlockBytes < key.length then sha256.digest key else key).length) 0 := by
    simp only [keyBlock, List.drop_replicate]
    split
    · rw [sha256.length_digest]
    · rfl
  simp only [calculateHmac, hmac, hblock]

/-- A digest of 32 bytes, in hexadecimal digits, or zeros. -/
def digestOfHex (digits : List UInt8) : List UInt8 :=
  (List.range 32).map fun i =>
    16 * hexValue (digits.getD (2 * i) 48) + hexValue (digits.getD (2 * i + 1) 48)

theorem length_digestOfHex (digits : List UInt8) : (digestOfHex digits).length = 32 := by
  rw [digestOfHex, List.length_map, List.length_range]

/-- SHA-256, as far as it is known: the messages and their digests in hexadecimal digits. -/
def known (digests : List (List UInt8 × String)) : Sha256 where
  digest message := digestOfHex (utf8 ((digests.lookup message).getD ""))
  length_digest _ := length_digestOfHex _

theorem isxdigit_of_mem_hmac {key message : List UInt8} {c : UInt8}
    (h : c ∈ sha256.hmac key message) : isxdigit c = true := isxdigit_of_mem_bytesToHex h

theorem lt_of_mem_hmac {key message : List UInt8} {c : UInt8} (h : c ∈ sha256.hmac key message) :
    c < 128 := by
  exact lt_of_isxdigit c (sha256.isxdigit_of_mem_hmac h)

theorem length_hmac (key message : List UInt8) : (sha256.hmac key message).length = 64 := by
  rw [hmac, length_bytesToHex, sha256.length_digest]

end Sha256

end HexeVoice.Library
