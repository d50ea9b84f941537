import HexeVoice.Library.Base64
import HexeVoice.Library.Utf8

/-!
# Base64 in 32 bits

`base64url_encode` and `base64url_decode` of `recovery_ble_provisioning.cpp`, whose accumulators are words
of 32 bits that are never masked.

**`base64url_round_trip`**: decoding what was encoded gives the bytes back, and the bits that are shifted
out of the accumulators do not matter.
-/

namespace HexeVoice.Recovery.Base64Url

open HexeVoice.Library

/-! ### The code -/

def kAlphabet : List UInt8 := utf8 "ABCDEFGHIJKLMNOPQRSTUVWXYZabcdefghijklmnopqrstuvwxyz0123456789-_"

def base64urlValue (value : UInt8) : ℤ :=
  if 65 ≤ value ∧ value ≤ 90 then value.toNat - 65
  else if 97 ≤ value ∧ value ≤ 122 then value.toNat - 97 + 26
  else if 48 ≤ value ∧ value ≤ 57 then value.toNat - 48 + 52
  else if value = 45 ∨ value = 43 then 62
  else if value = 95 ∨ value = 47 then 63
  else -1

/-- The loop of `base64url_decode` from a cursor on. -/
def decodeLoop (accumulator : UInt32) (bits : ℕ) : List UInt8 → Option (List UInt8)
  | [] => some []
  | cursor :: text =>
    if cursor = 0 then some []
    else if cursor = 61 then some []
    else
      let value := base64urlValue cursor
      if value < 0 then none
      else
        let accumulator := accumulator <<< 6 ||| UInt32.ofNat value.toNat
        let bits := bits + 6
        if 8 ≤ bits then
          let bits := bits - 8
          (decodeLoop accumulator bits text).map
            ((accumulator >>> UInt32.ofNat bits &&& 0xff).toUInt8 :: ·)
        else decodeLoop accumulator bits text

def base64urlDecode (text : List UInt8) : Option (List UInt8) := decodeLoop 0 0 text

/-- `kAlphabet[value & 0x3f]`. -/
def digit (value : UInt32) : UInt8 := kAlphabet.getD (value &&& 0x3f).toNat 0

/-- The digits that the inner loop of `base64url_encode` pushes, and the bits that are left. -/
def pushDigits (accumulator : UInt32) (bits : ℕ) : List UInt8 × ℕ :=
  if 6 ≤ bits then
    let bits := bits - 6
    let pushed := pushDigits accumulator bits
    (digit (accumulator >>> UInt32.ofNat bits) :: pushed.1, pushed.2)
  else ([], bits)

theorem pushDigits_of_le {bits : ℕ} (h : 6 ≤ bits) (accumulator : UInt32) :
    pushDigits accumulator bits =
      (digit (accumulator >>> UInt32.ofNat (bits - 6)) :: (pushDigits accumulator (bits - 6)).1,
        (pushDigits accumulator (bits - 6)).2) := by
  rw [pushDigits, if_pos h]

theorem pushDigits_of_lt {bits : ℕ} (h : bits < 6) (accumulator : UInt32) :
    pushDigits accumulator bits = ([], bits) := by
  rw [pushDigits, if_neg (Nat.not_le.mpr h)]

/-- The loop of `base64url_encode` from an index on. -/
def encodeLoop (accumulator : UInt32) (bits : ℕ) : List UInt8 → List UInt8
  | [] => if 0 < bits then [digit (accumulator <<< UInt32.ofNat (6 - bits))] else []
  | byte :: data =>
    let accumulator := accumulator <<< 8 ||| byte.toUInt32
    let pushed := pushDigits accumulator (bits + 8)
    pushed.1 ++ encodeLoop accumulator pushed.2 data

def base64urlEncode (data : List UInt8) : List UInt8 := encodeLoop 0 0 data

/-! ### Words -/

/-- Shifting a word to the left makes room for a digit. -/
theorem shiftLeft_six_or {v : ℕ} (hv : v < 64) (n : ℕ) :
    UInt32.ofNat n <<< 6 ||| UInt32.ofNat v = UInt32.ofNat (n * 64 + v) := by
  apply UInt32.toNat_inj.mp
  have hword : n % 2 ^ 32 * 2 ^ 6 % 2 ^ 32 = 2 ^ 6 * (n % 2 ^ 26) := by omega
  have hor := Nat.two_pow_add_eq_or_of_lt (show v < 2 ^ 6 from hv) (n % 2 ^ 26)
  simp only [UInt32.toNat_or, UInt32.toNat_shiftLeft, UInt32.toNat_ofNat', UInt32.reduceToNat,
    Nat.reduceMod, Nat.shiftLeft_eq, hword, Nat.mod_eq_of_lt (show v < 2 ^ 32 by omega), ← hor]
  omega

/-- Shifting a word to the left makes room for a byte. -/
theorem shiftLeft_eight_or (byte : UInt8) (n : ℕ) :
    UInt32.ofNat n <<< 8 ||| byte.toUInt32 = UInt32.ofNat (n * 256 + byte.toNat) := by
  apply UInt32.toNat_inj.mp
  have hbyte := byte.toNat_lt
  have hword : n % 2 ^ 32 * 2 ^ 8 % 2 ^ 32 = 2 ^ 8 * (n % 2 ^ 24) := by omega
  have hor := Nat.two_pow_add_eq_or_of_lt hbyte (n % 2 ^ 24)
  simp only [UInt32.toNat_or, UInt32.toNat_shiftLeft, UInt32.toNat_ofNat', UInt32.reduceToNat,
    Nat.reduceMod, Nat.shiftLeft_eq, hword, UInt8.toNat_toUInt32, ← hor]
  omega

/-- The low bits of a word that is shifted to the right do not depend on what was shifted out of it. -/
theorem toNat_shiftRight_mod {k w : ℕ} (h : k + w ≤ 32) (hw : 0 < w) (n : ℕ) :
    (UInt32.ofNat n >>> UInt32.ofNat k).toNat % 2 ^ w = (n >>> k) % 2 ^ w := by
  have hk : k % 2 ^ 32 % 32 = k := by omega
  have hword : 2 ^ 32 = 2 ^ k * 2 ^ (32 - k) := by
    rw [← Nat.pow_add, Nat.add_sub_cancel' (by omega)]
  rw [UInt32.toNat_shiftRight, UInt32.toNat_ofNat', UInt32.toNat_ofNat', hk, Nat.shiftRight_eq_div_pow,
    Nat.shiftRight_eq_div_pow, hword, Nat.mod_mul_right_div_self]
  exact Nat.mod_mod_of_dvd _ (Nat.pow_dvd_pow 2 (by omega))

/-- Nor do those of a word that is shifted to the left. -/
theorem toNat_shiftLeft_mod {k w : ℕ} (hk : k < 32) (hw : w ≤ 32) (n : ℕ) :
    (UInt32.ofNat n <<< UInt32.ofNat k).toNat % 2 ^ w = (n <<< k) % 2 ^ w := by
  have hdvd : 2 ^ w ∣ 2 ^ 32 := Nat.pow_dvd_pow 2 hw
  have hk : k % 2 ^ 32 % 32 = k := by omega
  rw [UInt32.toNat_shiftLeft, UInt32.toNat_ofNat', UInt32.toNat_ofNat', hk, Nat.shiftLeft_eq,
    Nat.shiftLeft_eq, Nat.mod_mod_of_dvd _ hdvd, Nat.mul_mod, Nat.mod_mod_of_dvd _ hdvd, ← Nat.mul_mod]

theorem digit_eq {n : ℕ} {value : UInt32} (h : value.toNat % 64 = n % 64) :
    digit value = Base64.char (n % 64) := by
  have halphabet : ∀ v < 64, kAlphabet.getD v 0 = Base64.char v := by decide +kernel
  have hand : (value &&& 0x3f).toNat = n % 64 := by
    rw [UInt32.toNat_and]
    exact (Nat.and_two_pow_sub_one_eq_mod _ 6).trans h
  rw [digit, hand]
  exact halphabet _ (Nat.mod_lt _ (by decide))

theorem byte_eq {n : ℕ} {value : UInt32} (h : value.toNat % 256 = n % 256) :
    (value &&& 0xff).toUInt8 = UInt8.ofNat (n % 256) := by
  apply UInt8.toNat_inj.mp
  have hand : value.toNat &&& 255 = value.toNat % 256 := Nat.and_two_pow_sub_one_eq_mod _ 8
  rw [UInt32.toNat_toUInt8, UInt32.toNat_and, show (0xff : UInt32).toNat = 255 from rfl, hand, UInt8.toNat_ofNat', h]

/-- The value of a digit, below 64, or -1. -/
theorem base64urlValue_eq (c : UInt8) :
    base64urlValue c = (Base64.value c).elim (-1) Int.ofNat ∧
      ∀ v ∈ Base64.value c, v < 64 := by
  have hall : ∀ c : UInt8, base64urlValue c = (Base64.value c).elim (-1) Int.ofNat ∧
      ∀ v ∈ Base64.value c, v < 64 := by
    decide +kernel
  exact hall c

/-! ### Both loops -/

/-- **The encoder's text** is that of an unbounded accumulator. -/
theorem encodeLoop_eq {bits : ℕ} (hbits : bits < 6) (accumulator : ℕ) (data : List UInt8) :
    encodeLoop (UInt32.ofNat accumulator) bits data =
      (Base64.values accumulator bits data).map Base64.char := by
  induction data generalizing accumulator bits with
  | nil =>
    rw [encodeLoop, Base64.values]
    split
    · rw [digit_eq (toNat_shiftLeft_mod (by omega) (by decide) accumulator : _ % 2 ^ 6 = _)]
      rfl
    · rfl
  | cons byte data ih =>
    have hfirst := digit_eq
      (toNat_shiftRight_mod (show bits + 2 + 6 ≤ 32 by omega) (by decide)
        (accumulator * 256 + byte.toNat))
    simp only [encodeLoop, Base64.values, shiftLeft_eight_or]
    rw [pushDigits_of_le (by omega), show bits + 8 - 6 = bits + 2 by omega]
    by_cases hmore : bits + 8 < 12
    · rw [pushDigits_of_lt (by omega), if_pos hmore, hfirst, ih (by omega)]
      rfl
    · have hsecond := digit_eq
        (toNat_shiftRight_mod (show bits - 4 + 6 ≤ 32 by omega) (by decide)
          (accumulator * 256 + byte.toNat))
      rw [pushDigits_of_le (by omega), show bits + 2 - 6 = bits - 4 by omega,
        pushDigits_of_lt (by omega), if_neg hmore, hfirst, hsecond, ih (by omega)]
      rfl

/-- **The decoder's bytes** are those of an unbounded accumulator. -/
theorem decodeLoop_eq {bits : ℕ} (hbits : bits < 8) (accumulator : ℕ) {text : List UInt8}
    (h : 0 ∉ text) :
    decodeLoop (UInt32.ofNat accumulator) bits text = Base64.decodeFrom accumulator bits text := by
  induction text generalizing accumulator bits with
  | nil => rfl
  | cons c text ih =>
    obtain ⟨hc, htext⟩ := not_or.mp (List.mem_cons.not.mp h)
    obtain ⟨hvalue, hlt⟩ := base64urlValue_eq c
    rw [decodeLoop, Base64.decodeFrom, if_neg (Ne.symm hc)]
    by_cases hpad : c = 61
    · rw [if_pos hpad, if_pos hpad]
    rw [if_neg hpad, if_neg hpad]
    cases hdigit : Base64.value c with
    | none =>
      rw [hdigit] at hvalue
      simp only [hvalue, Option.elim_none, Option.bind_none]
      rfl
    | some v =>
      rw [hdigit] at hvalue hlt
      have hv := hlt v rfl
      simp only [hvalue, Option.elim_some, Option.bind_some, Int.ofNat_eq_natCast, Int.toNat_natCast,
        shiftLeft_six_or hv]
      rw [if_neg (Int.not_lt.mpr (Int.natCast_nonneg v))]
      by_cases hfull : 8 ≤ bits + 6
      · rw [if_pos hfull, if_pos hfull, show bits + 6 - 8 = bits - 2 by omega, ih (by omega) _ htext,
          byte_eq (toNat_shiftRight_mod (show bits - 2 + 8 ≤ 32 by omega) (by decide) _)]
      · rw [if_neg hfull, if_neg hfull, ih (by omega) _ htext]

theorem base64urlEncode_eq (data : List UInt8) :
    base64urlEncode data = (Base64.encode data).bytes :=
  encodeLoop_eq (by decide) 0 data

theorem base64urlDecode_eq (text : CString) : base64urlDecode text.bytes = Base64.decode text :=
  decodeLoop_eq (by decide) 0 text.zero_notMem

/-- A text that respells digits has no zero. -/
theorem zero_notMem_of_respells {text digits : List UInt8}
    (h : List.Forall₂ Base64.Respells text digits) (hdigits : 0 ∉ digits) : 0 ∉ text := by
  induction h with
  | nil => exact hdigits
  | cons hc _ ih =>
    obtain ⟨hd, hrest⟩ := not_or.mp (List.mem_cons.not.mp hdigits)
    refine List.mem_cons.not.mpr (not_or.mpr ⟨?_, ih hrest⟩)
    rintro rfl
    rcases hc with rfl | ⟨hplus, -⟩ | ⟨hslash, -⟩
    · exact hd rfl
    · exact absurd hplus (by decide)
    · exact absurd hslash (by decide)

/-- **The round trip.** -/
theorem base64url_round_trip (data text : List UInt8) (padding : ℕ)
    (h : List.Forall₂ Base64.Respells text (base64urlEncode data)) :
    base64urlDecode (text ++ List.replicate padding 61) = some data ∧
      base64urlEncode data = (Base64.encode data).bytes ∧
      ∀ text : CString, base64urlDecode text.bytes = Base64.decode text := by
  have hzero : 0 ∉ text ++ List.replicate padding 61 := by
    rw [List.mem_append]
    rintro (hmem | hmem)
    · rw [base64urlEncode_eq] at h
      exact zero_notMem_of_respells h (Base64.encode data).zero_notMem hmem
    · exact absurd (List.eq_of_mem_replicate hmem) (by decide)
  refine ⟨?_, base64urlEncode_eq data, base64urlDecode_eq⟩
  rw [base64urlEncode_eq] at h
  exact (decodeLoop_eq (by decide) 0 hzero).trans (Base64.decodeFrom_encode padding h)

/-- Four bytes, with `+` for `-` and padding. -/
theorem four_bytes_round_trip :
    base64urlDecode (utf8 "+/8BAg" ++ List.replicate 2 61) = some [251, 255, 1, 2] ∧
      base64urlEncode [251, 255, 1, 2] = (Base64.encode [251, 255, 1, 2]).bytes ∧
      ∀ text : CString, base64urlDecode text.bytes = Base64.decode text :=
  base64url_round_trip [251, 255, 1, 2] (utf8 "+/8BAg") 2 (by
    rw [base64urlEncode_eq]
    decide +kernel)

end HexeVoice.Recovery.Base64Url
