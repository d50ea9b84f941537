import HexeVoice.Library.Utf8
import Mathlib

/-!
# Decimal texts

Whole numbers as `strtol` reads them.

## What is proved

**`wholeNumber_repr`**: a number that is printed is read back.
-/

namespace HexeVoice.Library.Decimal

def isDigit (c : UInt8) : Bool := 48 ≤ c && c ≤ 57

def isSpace (c : UInt8) : Bool := c = 32 || (9 ≤ c && c ≤ 13)

/-- The number of some digits. -/
def ofDigits (digits : List UInt8) : ℕ := digits.foldl (fun value c => 10 * value + (c.toNat - 48)) 0

/-- A text of digits. -/
def digitsOnly (digits : List UInt8) : Option ℤ :=
  if digits = [] ∨ !digits.all isDigit then none else some (ofDigits digits)

/-- The number that a whole text is: `strtol` of base 10, where all of it is read. -/
def wholeNumber (text : List UInt8) : Option ℤ :=
  match text.dropWhile isSpace with
  | [] => none
  | c :: cs =>
    if c = 43 then digitsOnly cs
    else if c = 45 then (digitsOnly cs).map (-·)
    else digitsOnly (c :: cs)

/-! ### Printed numbers -/

theorem toNat_byte {c : Char} (h : c.isDigit = true) : c.toNat.toUInt8.toNat = c.toNat := by
  have := JsonBytes.toNat_of_isDigit h
  simp only [Nat.toUInt8, UInt8.toNat_ofNat']
  omega

/-- The bytes of a printed number. -/
theorem utf8_repr (n : ℕ) :
    utf8 n.repr = (Nat.toDigits 10 n).map fun c => c.toNat.toUInt8 := by
  have hbyte : ∀ c ∈ Nat.toDigits 10 n, String.utf8EncodeChar c = [c.toNat.toUInt8] := by
    intro c hc
    have hdigit := Nat.isDigit_of_mem_toDigits (by decide) (by decide) hc
    obtain ⟨-, hsmall⟩ := JsonBytes.toNat_of_isDigit hdigit
    have hascii : c.val.toNat ≤ 0x7f := by
      change c.toNat ≤ 127
      omega
    simp only [String.utf8EncodeChar, if_pos hascii]
    rfl
  rw [Nat.repr_eq_ofList_toDigits, utf8_ofList]
  generalize Nat.toDigits 10 n = digits at hbyte ⊢
  induction digits with
  | nil => rfl
  | cons c cs ih =>
    rw [List.flatMap_cons, hbyte c List.mem_cons_self,
      ih fun d hd => hbyte d (List.mem_cons_of_mem _ hd)]
    rfl

/-- A number with few digits has a short text. -/
theorem length_repr_le {n k : ℕ} (hk : 0 < k) (h : n < 10 ^ k) :
    (utf8 (Int.repr n)).length ≤ k := by
  change (utf8 n.repr).length ≤ k
  rw [utf8_repr, List.length_map]
  exact (Nat.length_toDigits_le_iff (by decide) hk).mpr h

theorem zero_notMem_repr (n : ℤ) : 0 ∉ utf8 n.repr := by
  intro h
  obtain ⟨c, hc, hzero⟩ := exists_of_mem_utf8 (by decide) h
  obtain ⟨hlow, -⟩ := JsonBytes.toNat_of_mem_repr hc
  rw [hzero] at hlow
  exact absurd hlow (by decide)

theorem isDigit_byte {c : Char} (h : c.isDigit = true) : isDigit c.toNat.toUInt8 = true := by
  have hrange := JsonBytes.toNat_of_isDigit h
  have hbyte := toNat_byte h
  have hlow : (48 : UInt8).toNat = 48 := rfl
  have hhigh : (57 : UInt8).toNat = 57 := rfl
  simp only [isDigit, Bool.and_eq_true, decide_eq_true_eq, UInt8.le_iff_toNat_le, hbyte, hlow, hhigh]
  exact hrange

/-- The number of the bytes of digits. -/
theorem ofDigits_bytes {cs : List Char} (h : ∀ c ∈ cs, c.isDigit = true) (value : ℕ) :
    (cs.map fun c => c.toNat.toUInt8).foldl (fun value c => 10 * value + (c.toNat - 48)) value =
      Nat.ofDigitChars 10 cs value := by
  induction cs generalizing value with
  | nil => rfl
  | cons c cs ih =>
    rw [List.map_cons, List.foldl_cons, toNat_byte (h c List.mem_cons_self), Nat.ofDigitChars_cons]
    exact ih (fun d hd => h d (List.mem_cons_of_mem _ hd)) _

theorem digitsOnly_repr (n : ℕ) : digitsOnly (utf8 n.repr) = some (n : ℤ) := by
  have hdigits : ∀ c ∈ Nat.toDigits 10 n, c.isDigit = true := fun c hc =>
    Nat.isDigit_of_mem_toDigits (by decide) (by decide) hc
  have hne : utf8 n.repr ≠ [] := by
    rw [utf8_repr]
    intro hnil
    have hlength := Nat.length_toDigits_pos (b := 10) (n := n)
    rw [List.map_eq_nil_iff.mp hnil] at hlength
    exact absurd hlength (by decide)
  have hall : (utf8 n.repr).all isDigit = true := by
    rw [utf8_repr, List.all_map, List.all_eq_true]
    exact fun c hc => isDigit_byte (hdigits c hc)
  have hvalue : ofDigits (utf8 n.repr) = n := by
    rw [ofDigits, utf8_repr, ofDigits_bytes hdigits, Nat.ofDigitChars_ten_toDigits]
  simp only [digitsOnly, hne, hall, hvalue, Bool.not_true, Bool.false_eq_true, or_self, if_false]

/-- **A number that is printed** is read back. -/
theorem wholeNumber_repr (n : ℕ) : wholeNumber (utf8 (Int.repr n)) = some (n : ℤ) := by
  have hread := digitsOnly_repr n
  change wholeNumber (utf8 n.repr) = some (n : ℤ)
  cases htext : utf8 n.repr with
  | nil =>
    rw [htext] at hread
    cases hread
  | cons c cs =>
    -- The first byte is a digit, so no blank and no sign.
    rw [htext] at hread
    have hfirst : isDigit c = true := by
      simp only [digitsOnly] at hread
      split at hread
      · cases hread
      · next hdigits =>
        simp only [not_or, Bool.not_eq_true, Bool.not_eq_false', List.all_cons,
          Bool.and_eq_true] at hdigits
        exact hdigits.2.1
    have hplain : ∀ c : UInt8, isDigit c = true → isSpace c = false ∧ c ≠ 43 ∧ c ≠ 45 := by
      decide +kernel
    obtain ⟨hspace, hplus, hminus⟩ := hplain c hfirst
    rw [wholeNumber, List.dropWhile_cons_of_neg (by simp [hspace])]
    simp only [if_neg hplus, if_neg hminus]
    exact hread

end HexeVoice.Library.Decimal
