import Mathlib

/-!
# C strings

## The model

A C string is the bytes before the zero that ends it. `strcmp` gives the difference of the first
bytes that differ, of which C only promises the sign.
-/

namespace HexeVoice.Library

/-- A string that ends with its first zero byte. -/
structure CString where
  bytes : List UInt8
  zero_notMem : 0 ∉ bytes
  deriving DecidableEq

namespace CString

variable {s : CString}

/-- The empty string. -/
def empty : CString := ⟨[], List.not_mem_nil⟩

/-- An ASCII text of the source, up to its first zero. -/
def ofAscii (text : String) : CString where
  bytes := (text.toList.map fun c => c.toNat.toUInt8).takeWhile (· != 0)
  zero_notMem h := by simpa using List.mem_takeWhile_imp h

/-- `strcmp`, of the bytes of two strings. -/
def compareBytes : List UInt8 → List UInt8 → ℤ
  | [], [] => 0
  | [], b :: _ => -b.toNat
  | a :: _, [] => a.toNat
  | a :: as, b :: bs => if a = b then compareBytes as bs else a.toNat - b.toNat

def strcmp (s t : CString) : ℤ := compareBytes s.bytes t.bytes

/-- Strings are ordered by their bytes, from left to right. -/
instance : LT CString := ⟨fun s t => s.bytes < t.bytes⟩

theorem compareBytes_pos_iff {as bs : List UInt8} (h : 0 ∉ as) :
    0 < compareBytes as bs ↔ bs < as := by
  induction as generalizing bs with
  | nil =>
    cases bs with
    | nil => simp [compareBytes]
    | cons b bs => simp [compareBytes]
  | cons a as ih =>
    rw [List.mem_cons, not_or] at h
    cases bs with
    | nil =>
      have ha : 0 < a.toNat := UInt8.pos_iff_ne_zero.mpr (Ne.symm h.1)
      simp [compareBytes, ha]
    | cons b bs =>
      unfold compareBytes
      rw [List.cons_lt_cons_iff]
      by_cases hab : a = b
      · subst hab
        rw [if_pos rfl, ih h.2]
        simp [UInt8.lt_irrefl]
      · rw [if_neg hab]
        have hlt : b < a ↔ b.toNat < a.toNat := UInt8.lt_iff_toNat_lt
        rw [hlt]
        constructor
        · intro hpos
          exact .inl (by omega)
        · rintro (hless | ⟨heq, -⟩)
          · omega
          · exact absurd heq.symm hab

/-- **`strcmp` is positive exactly if the first string is the greater one.** -/
theorem strcmp_pos_iff (s t : CString) : 0 < s.strcmp t ↔ t < s :=
  compareBytes_pos_iff s.zero_notMem

theorem lt_irrefl (s : CString) : ¬s < s := List.lt_irrefl s.bytes

theorem lt_trans {s t u : CString} (h : s < t) (h' : t < u) : s < u := List.lt_trans h h'

/-- The first `n` bytes. -/
def take (s : CString) (n : ℕ) : CString :=
  ⟨s.bytes.take n, fun h => s.zero_notMem (List.mem_of_mem_take h)⟩

/-- `strlen`. -/
def length (s : CString) : ℕ := s.bytes.length

@[ext] theorem ext {s t : CString} (h : s.bytes = t.bytes) : s = t := by
  cases s
  cases t
  congr

theorem length_eq_zero_iff : s.length = 0 ↔ s = empty := by
  rw [CString.ext_iff]
  exact List.length_eq_zero_iff

/-- A string is cut off exactly if it is longer. -/
theorem take_eq_self_iff {n : ℕ} : s.take n = s ↔ s.length ≤ n := by
  rw [CString.ext_iff]
  exact List.take_eq_self_iff s.bytes

theorem take_eq_empty_iff {n : ℕ} (h : 0 < n) : s.take n = empty ↔ s = empty := by
  rw [CString.ext_iff, CString.ext_iff]
  simp only [take, empty, List.take_eq_nil_iff]
  exact or_iff_right (by omega)

theorem take_of_length_le {n : ℕ} (h : s.length ≤ n) : s.take n = s :=
  ext (List.take_of_length_le h)

end CString

/-! ### Buffers -/

/-! The sizes of buffers. -/

theorem pos16 : 0 < 16 := by decide
theorem pos24 : 0 < 24 := by decide
theorem pos32 : 0 < 32 := by decide
theorem pos33 : 0 < 33 := by decide
theorem pos40 : 0 < 40 := by decide
theorem pos48 : 0 < 48 := by decide
theorem pos64 : 0 < 64 := by decide
theorem pos65 : 0 < 65 := by decide
theorem pos96 : 0 < 96 := by decide
theorem pos192 : 0 < 192 := by decide
theorem pos256 : 0 < 256 := by decide

/-- A string in a buffer of `size` bytes, the zero that ends it included. -/
structure CBuffer (size : ℕ) where
  text : CString
  fits : text.length < size
  deriving DecidableEq

namespace CBuffer

variable {size : ℕ}

@[ext] theorem ext {a b : CBuffer size} (h : a.text = b.text) : a = b := by
  cases a
  cases b
  congr

/-- A string, cut off where the buffer is full. -/
def copy (size : ℕ) (h : 0 < size) (s : CString) : CBuffer size where
  text := s.take (size - 1)
  fits := by
    have := List.length_take_le (size - 1) s.bytes
    simp only [CString.length, CString.take]
    omega

/-- The string in the buffer, if it fits. -/
def ofText (size : ℕ) (s : CString) : Option (CBuffer size) :=
  if h : s.length < size then some ⟨s, h⟩ else none

@[simp] theorem ofText_text (b : CBuffer size) : ofText size b.text = some b := by
  simp [ofText, b.fits]

theorem ofText_eq_some {s : CString} {b : CBuffer size} : ofText size s = some b ↔ b.text = s := by
  simp only [ofText]
  split
  · simp only [Option.some.injEq, CBuffer.ext_iff]
    exact eq_comm
  · next h =>
    simp only [reduceCtorEq, false_iff]
    rintro rfl
    exact h b.fits

/-- A string that fits is copied as it is. -/
theorem copy_of_fits {h : 0 < size} {s : CString} (hs : s.length < size) :
    (copy size h s).text = s :=
  CString.take_of_length_le (by omega)

end CBuffer

end HexeVoice.Library
