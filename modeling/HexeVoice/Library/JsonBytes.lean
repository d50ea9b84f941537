import HexeVoice.Library.CString
import HexeVoice.Library.Lines
import Mathlib

/-!
# JSON texts in C

The bytes of a JSON object whose members are strings and integers, as a program writes them without
a library.

## What is proved

**`quote_cancel`**: a quoted string ends where it ends, so what follows it can be told apart.
-/

namespace HexeVoice.Library.JsonBytes

/-! ### Writing -/

/-- The bytes of an ASCII text. -/
def ascii (text : String) : List UInt8 := text.toList.map fun c => c.toNat.toUInt8

/-- A hexadecimal digit. -/
def hexDigit (n : UInt8) : UInt8 := if n < 10 then 48 + n else 87 + n

/-- A byte of a string. -/
def escape (b : UInt8) : List UInt8 :=
  if b = 34 then [92, 34]
  else if b = 92 then [92, 92]
  else if b = 8 then [92, 98]
  else if b = 12 then [92, 102]
  else if b = 10 then [92, 110]
  else if b = 13 then [92, 114]
  else if b = 9 then [92, 116]
  else if b < 32 then [92, 117, 48, 48, hexDigit (b / 16), hexDigit (b % 16)]
  else [b]

/-- A string in quotes. -/
def quote (s : List UInt8) : List UInt8 := 34 :: s.flatMap escape ++ [34]

/-- A member that is a string. -/
def stringMember (key : String) (value : CString) : List UInt8 :=
  quote (ascii key) ++ 58 :: quote value.bytes

/-- A member that is an integer. -/
def intMember (key : String) (value : ℤ) : List UInt8 := quote (ascii key) ++ 58 :: ascii value.repr

/-- An object. -/
def object (members : List (List UInt8)) : List UInt8 :=
  123 :: List.intercalate [44] members ++ [125]

/-! ### Telling strings apart -/

/-- The value of a hexadecimal digit. -/
def hexValue (c : UInt8) : UInt8 := if c < 58 then c - 48 else c - 87

/-- The byte that an escaped string starts with, and the rest; none at its end. -/
def unescape : List UInt8 → Option (UInt8 × List UInt8)
  | [] => none
  | 34 :: _ => none
  | 92 :: 117 :: _ :: _ :: high :: low :: r => some (hexValue high * 16 + hexValue low, r)
  | 92 :: 98 :: r => some (8, r)
  | 92 :: 102 :: r => some (12, r)
  | 92 :: 110 :: r => some (10, r)
  | 92 :: 114 :: r => some (13, r)
  | 92 :: 116 :: r => some (9, r)
  | 92 :: c :: r => some (c, r)
  | c :: r => some (c, r)

theorem hexValue_hexDigits : ∀ b : UInt8, b < 32 →
    hexValue (hexDigit (b / 16)) * 16 + hexValue (hexDigit (b % 16)) = b := by
  decide +kernel

theorem unescape_escape (b : UInt8) (r : List UInt8) : unescape (escape b ++ r) = some (b, r) := by
  simp only [escape]
  split_ifs with h₁ h₂ h₃ h₄ h₅ h₆ h₇ h₈
  case pos => rw [h₁]; rfl
  case pos => rw [h₂]; rfl
  case pos => rw [h₃]; rfl
  case pos => rw [h₄]; rfl
  case pos => rw [h₅]; rfl
  case pos => rw [h₆]; rfl
  case pos => rw [h₇]; rfl
  case pos =>
    simp only [List.cons_append, List.nil_append, unescape, hexValue_hexDigits b h₈]
  case neg =>
    simp only [List.cons_append, List.nil_append]
    unfold unescape
    split <;> simp_all

theorem flatMap_escape_cancel {s t r r' : List UInt8}
    (h : s.flatMap escape ++ 34 :: r = t.flatMap escape ++ 34 :: r') : s = t ∧ r = r' := by
  induction s generalizing t with
  | nil =>
    cases t with
    | nil => simpa using h
    | cons b t =>
      have := congrArg unescape h
      rw [List.flatMap_cons, List.append_assoc, unescape_escape] at this
      cases this
  | cons a s ih =>
    cases t with
    | nil =>
      have := congrArg unescape h
      rw [List.flatMap_cons, List.append_assoc, unescape_escape] at this
      cases this
    | cons b t =>
      have := congrArg unescape h
      rw [List.flatMap_cons, List.append_assoc, unescape_escape, List.flatMap_cons,
        List.append_assoc, unescape_escape, Option.some.injEq, Prod.mk.injEq] at this
      obtain ⟨rfl, hrest⟩ := this
      obtain ⟨rfl, hr⟩ := ih hrest
      exact ⟨rfl, hr⟩

/-- **Two texts that start with quoted strings** start with the same, if they are the same. -/
theorem quote_cancel {s t r r' : List UInt8} (h : quote s ++ r = quote t ++ r') :
    s = t ∧ r = r' := by
  simp only [quote, List.cons_append, List.append_assoc, List.nil_append, List.cons.injEq,
    true_and] at h
  exact flatMap_escape_cancel h

theorem stringMember_cancel {key : String} {s t : CString} {r r' : List UInt8}
    (h : stringMember key s ++ r = stringMember key t ++ r') : s = t ∧ r = r' := by
  simp only [stringMember, List.append_assoc, List.append_cancel_left_eq, List.cons_append,
    List.cons.injEq, true_and] at h
  obtain ⟨hbytes, hr⟩ := quote_cancel h
  exact ⟨CString.ext hbytes, hr⟩

/-! ### Telling integers apart -/

/-- The characters of a printed integer. -/
theorem mem_repr {n : ℤ} {c : Char} (h : c ∈ n.repr.toList) : c.isDigit ∨ c = '-' := by
  cases n with
  | ofNat n =>
    left
    simp only [Int.repr, Nat.toList_repr] at h
    exact Nat.isDigit_of_mem_toDigits (by decide) (by decide) h
  | negSucc n =>
    simp only [Int.repr, String.toList_append, List.mem_append, Nat.toList_repr] at h
    rcases h with h | h
    · right
      simpa using h
    · left
      exact Nat.isDigit_of_mem_toDigits (by decide) (by decide) h

theorem toNat_of_isDigit {c : Char} (h : c.isDigit = true) : 48 ≤ c.toNat ∧ c.toNat ≤ 57 := by
  simp only [Char.isDigit, Bool.and_eq_true, decide_eq_true_eq] at h
  obtain ⟨hlow, hhigh⟩ := h
  rw [ge_iff_le, UInt32.le_iff_toNat_le] at hlow
  rw [UInt32.le_iff_toNat_le] at hhigh
  have hfirst : '0'.val.toNat = 48 := rfl
  have hlast : '9'.val.toNat = 57 := rfl
  simp only [Char.toNat]
  omega

theorem toNat_of_mem_repr {n : ℤ} {c : Char} (h : c ∈ n.repr.toList) :
    45 ≤ c.toNat ∧ c.toNat ≤ 57 := by
  rcases mem_repr h with h | rfl
  · have := toNat_of_isDigit h
    omega
  · decide

/-- The characters of a text of small characters can be read back. -/
theorem map_ofNat_ascii {s : String} (h : ∀ c ∈ s.toList, c.toNat < 256) :
    (ascii s).map (fun b => Char.ofNat b.toNat) = s.toList := by
  rw [ascii, List.map_map]
  nth_rewrite 2 [← List.map_id s.toList]
  apply List.map_congr_left
  intro c hc
  simp only [Function.comp_apply, Nat.toUInt8, UInt8.toNat_ofNat', id_eq]
  rw [Nat.mod_eq_of_lt (h c hc), Char.ofNat_toNat]

/-- **An integer that a comma follows** can be told apart. -/
theorem intMember_cancel {key : String} {m n : ℤ} {r r' : List UInt8}
    (h : intMember key m ++ 44 :: r = intMember key n ++ 44 :: r') : m = n ∧ r = r' := by
  simp only [intMember, List.append_assoc, List.append_cancel_left_eq, List.cons_append,
    List.cons.injEq, true_and] at h
  have hcomma (n : ℤ) : (44 : UInt8) ∉ ascii n.repr := by
    intro hmem
    obtain ⟨c, hc, hbyte⟩ := List.mem_map.mp hmem
    obtain ⟨hlow, hhigh⟩ := toNat_of_mem_repr hc
    have hnat := congrArg UInt8.toNat hbyte
    have hcomma : (44 : UInt8).toNat = 44 := rfl
    simp only [Nat.toUInt8, UInt8.toNat_ofNat', hcomma] at hnat
    omega
  obtain ⟨htext, hr⟩ := Lines.separated_cancel (hcomma m) (hcomma n) h
  have hchars := congrArg (List.map fun b => Char.ofNat b.toNat) htext
  have hsmall (n : ℤ) : ∀ c ∈ n.repr.toList, c.toNat < 256 := by
    intro c hc
    have := toNat_of_mem_repr hc
    omega
  rw [map_ofNat_ascii (hsmall m), map_ofNat_ascii (hsmall n)] at hchars
  exact ⟨Int.repr_injective (String.toList_inj.mp hchars), hr⟩

end HexeVoice.Library.JsonBytes
