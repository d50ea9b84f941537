import HexeVoice.Library.CString
import Mathlib

/-!
# Base64 in C

Encoding to the URL alphabet without padding, and decoding from either alphabet up to the first
padding character.
-/

namespace HexeVoice.Library.Base64

/-- The character of a value below 64. -/
def char (value : ℕ) : UInt8 :=
  if value < 26 then UInt8.ofNat (65 + value)
  else if value < 52 then UInt8.ofNat (97 + (value - 26))
  else if value < 62 then UInt8.ofNat (48 + (value - 52))
  else if value = 62 then 45
  else 95

/-- The value of a character. -/
def value (c : UInt8) : Option ℕ :=
  if 65 ≤ c ∧ c ≤ 90 then some (c.toNat - 65)
  else if 97 ≤ c ∧ c ≤ 122 then some (c.toNat - 97 + 26)
  else if 48 ≤ c ∧ c ≤ 57 then some (c.toNat - 48 + 52)
  else if c = 45 ∨ c = 43 then some 62
  else if c = 95 ∨ c = 47 then some 63
  else none

/-- The values of the data from here on, where `bits` bits of the accumulator are left. -/
def values (accumulator bits : ℕ) : List UInt8 → List ℕ
  | [] => if 0 < bits then [(accumulator <<< (6 - bits)) % 64] else []
  | byte :: data =>
    let accumulator := accumulator * 256 + byte.toNat
    if bits + 8 < 12 then
      (accumulator >>> (bits + 2)) % 64 :: values accumulator (bits + 2) data
    else
      (accumulator >>> (bits + 2)) % 64 :: (accumulator >>> (bits - 4)) % 64 ::
        values accumulator (bits - 4) data

theorem char_ne_zero : ∀ v, char v ≠ 0 := by
  intro v
  simp only [char]
  split_ifs with h₁ h₂ h₃ h₄
  all_goals
    intro h
    have := congrArg UInt8.toNat h
    simp only [UInt8.toNat_ofNat', UInt8.reduceToNat, UInt8.toNat_zero] at this
    try omega

/-- Six bits make a character. -/
theorem length_values (accumulator : ℕ) {bits : ℕ} (h : bits < 6) (data : List UInt8) :
    (values accumulator bits data).length = (8 * data.length + bits + 5) / 6 := by
  induction data generalizing accumulator bits with
  | nil =>
    simp only [values]
    split_ifs <;> simp only [List.length_cons, List.length_nil] <;> omega
  | cons byte data ih =>
    simp only [values]
    split_ifs with hbits
    · simp only [List.length_cons, ih _ (show bits + 2 < 6 by omega)]
      omega
    · simp only [List.length_cons, ih _ (show bits - 4 < 6 by omega)]
      omega

/-- `base64url_encode`. -/
def encode (data : List UInt8) : CString where
  bytes := (values 0 0 data).map char
  zero_notMem := by
    simp only [List.mem_map, not_exists, not_and]
    exact fun v _ => char_ne_zero v

/-- How the values of a text are spelt: `+` and `/` are read as `-` and `_` are. -/
def Respells (c d : UInt8) : Prop := c = d ∨ (c = 43 ∧ d = 45) ∨ (c = 47 ∧ d = 95)

instance (c d : UInt8) : Decidable (Respells c d) := inferInstanceAs (Decidable (_ ∨ _))

theorem value_char {v : ℕ} (h : v < 64) : value (char v) = some v := by
  have hall : ∀ v < 64, value (char v) = some v := by decide
  exact hall v h

theorem char_ne_pad {v : ℕ} (h : v < 64) : char v ≠ 61 := by
  have hall : ∀ v < 64, char v ≠ 61 := by decide
  exact hall v h

theorem Respells.value_eq {c d : UInt8} (h : Respells c d) : value c = value d := by
  rcases h with rfl | ⟨rfl, rfl⟩ | ⟨rfl, rfl⟩ <;> rfl

theorem length_encode (data : List UInt8) : (encode data).length = (8 * data.length + 5) / 6 := by
  simp only [encode, CString.length, List.length_map]
  exact length_values 0 (by decide) data

/-- The bytes of the characters from here on, up to the first padding character. -/
def decodeFrom (accumulator bits : ℕ) : List UInt8 → Option (List UInt8)
  | [] => some []
  | c :: cs =>
    if c = 61 then some []
    else
      (value c).bind fun v =>
        let accumulator := accumulator * 64 + v
        if 8 ≤ bits + 6 then
          (decodeFrom accumulator (bits - 2) cs).map
            (UInt8.ofNat ((accumulator >>> (bits - 2)) % 256) :: ·)
        else decodeFrom accumulator (bits + 6) cs

/-- `base64url_decode`. -/
def decode (text : CString) : Option (List UInt8) := decodeFrom 0 0 text.bytes

section roundTrip

variable {accumulator bits : ℕ} {text : List UInt8}

/-- The next digit of a text, whichever way it is spelt. -/
theorem decodeFrom_cons {c : UInt8} {v : ℕ} (hv : v < 64) (hc : Respells c (char v)) :
    decodeFrom accumulator bits (c :: text) =
      if 8 ≤ bits + 6 then
        (decodeFrom (accumulator * 64 + v) (bits - 2) text).map
          (UInt8.ofNat (((accumulator * 64 + v) >>> (bits - 2)) % 256) :: ·)
      else decodeFrom (accumulator * 64 + v) (bits + 6) text := by
  have hpad : c ≠ 61 := by
    rcases hc with rfl | ⟨rfl, -⟩ | ⟨rfl, -⟩
    · exact char_ne_pad hv
    · decide
    · decide
  rw [decodeFrom, if_neg hpad, hc.value_eq, value_char hv, Option.bind_some]

/-- The text ends at padding. -/
theorem decodeFrom_padding (padding : ℕ) :
    decodeFrom accumulator bits (List.replicate padding 61) = some [] := by
  cases padding with
  | zero => rfl
  | succ n => rw [List.replicate_succ, decodeFrom, if_pos rfl]

theorem ofNat_congr {m n : ℕ} (h : m % 256 = n % 256) : UInt8.ofNat m = UInt8.ofNat n := by
  apply UInt8.toNat_inj.mp
  simpa only [UInt8.toNat_ofNat'] using h

theorem ofNat_eq_byte {n : ℕ} {byte : UInt8} (h : n % 256 = byte.toNat) : UInt8.ofNat n = byte := by
  apply UInt8.toNat_inj.mp
  simpa only [UInt8.toNat_ofNat'] using h

/-- **The decoder follows the encoder**: where bits of a byte are left in the accumulator `a` of the
encoder, the decoder has its other bits in `accumulator`, and both make up the byte. -/
theorem decodeFrom_values {a b : ℕ} (hb : b = 0 ∧ bits = 0 ∨ b = 2 ∧ bits = 6 ∨ b = 4 ∧ bits = 4)
    (data : List UInt8) (padding : ℕ) (h : List.Forall₂ Respells text ((values a b data).map char)) :
    decodeFrom accumulator bits (text ++ List.replicate padding 61) =
      some (if b = 0 then data
        else UInt8.ofNat (accumulator * 2 ^ b + a % 2 ^ b) :: data) := by
  induction data generalizing accumulator bits a b text with
  | nil =>
    rcases hb with ⟨rfl, rfl⟩ | ⟨rfl, rfl⟩ | ⟨rfl, rfl⟩
    · obtain rfl := List.forall₂_nil_right_iff.mp h
      exact decodeFrom_padding padding
    all_goals
      obtain ⟨c, rest, hc, hrest, rfl⟩ := List.forall₂_cons_right_iff.mp h
      obtain rfl := List.forall₂_nil_right_iff.mp hrest
      rw [List.cons_append, decodeFrom_cons (Nat.mod_lt _ (by decide)) hc, if_pos (by decide),
        List.nil_append, decodeFrom_padding, if_neg (by decide), Option.map_some]
      rw [ofNat_congr]
      simp only [Nat.shiftLeft_eq, Nat.shiftRight_eq_div_pow]
      omega
  | cons byte data ih =>
    have hbyte := byte.toNat_lt
    rcases hb with ⟨rfl, rfl⟩ | ⟨rfl, rfl⟩ | ⟨rfl, rfl⟩
    · obtain ⟨c, rest, hc, hrest, rfl⟩ := List.forall₂_cons_right_iff.mp h
      rw [List.cons_append, decodeFrom_cons (Nat.mod_lt _ (by decide)) hc, if_neg (by decide),
        ih (by decide) hrest, if_neg (by decide), if_pos rfl, ofNat_eq_byte]
      simp only [Nat.shiftRight_eq_div_pow]
      omega
    · obtain ⟨c, rest, hc, hrest, rfl⟩ := List.forall₂_cons_right_iff.mp h
      rw [List.cons_append, decodeFrom_cons (Nat.mod_lt _ (by decide)) hc, if_pos (by decide),
        ih (by decide) hrest, if_neg (by decide), if_neg (by decide), Option.map_some]
      congr 2
      · apply ofNat_congr
        simp only [Nat.shiftRight_eq_div_pow]
        omega
      · rw [ofNat_eq_byte]
        simp only [Nat.shiftRight_eq_div_pow]
        omega
    · obtain ⟨c, rest, hc, hrest, rfl⟩ := List.forall₂_cons_right_iff.mp h
      obtain ⟨c', rest', hc', hrest', rfl⟩ := List.forall₂_cons_right_iff.mp hrest
      rw [List.cons_append, decodeFrom_cons (Nat.mod_lt _ (by decide)) hc, if_pos (by decide),
        List.cons_append, decodeFrom_cons (Nat.mod_lt _ (by decide)) hc', if_pos (by decide),
        ih (by decide) hrest', if_pos rfl, if_neg (by decide), Option.map_some, Option.map_some]
      congr 2
      · apply ofNat_congr
        simp only [Nat.shiftRight_eq_div_pow]
        omega
      · rw [ofNat_eq_byte]
        simp only [Nat.shiftRight_eq_div_pow]
        omega

/-- Decoding a text, however its digits are spelt and however much it is padded. -/
theorem decodeFrom_encode {data : List UInt8} (padding : ℕ)
    (h : List.Forall₂ Respells text (encode data).bytes) :
    decodeFrom 0 0 (text ++ List.replicate padding 61) = some data :=
  decodeFrom_values (Or.inl ⟨rfl, rfl⟩) data padding h

end roundTrip

example : decode (encode [1, 2, 253, 254, 255]) = some [1, 2, 253, 254, 255] := by decide +kernel

end HexeVoice.Library.Base64
