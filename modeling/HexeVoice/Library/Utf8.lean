import HexeVoice.Library.CString
import HexeVoice.Library.JsonBytes
import HexeVoice.Library.Lines
import Mathlib

/-!
# Texts as bytes

What programs in Python and C make of each other's texts.

## The model

A Python text is a text of Unicode characters; surrogates that stand alone, which cannot be encoded, are
left out.
-/

namespace HexeVoice.Library

/-- `text.encode("utf-8")`. -/
def utf8 (text : String) : List UInt8 := text.toByteArray.data.toList

@[simp] theorem utf8_append (s t : String) : utf8 (s ++ t) = utf8 s ++ utf8 t := by
  simp [utf8, String.toByteArray_append]

theorem utf8_inj {s t : String} (h : utf8 s = utf8 t) : s = t := by
  apply String.toByteArray_inj.mp
  apply ByteArray.ext
  exact Array.toList_inj.mp h

theorem utf8_ofList (l : List Char) : utf8 (String.ofList l) = l.flatMap String.utf8EncodeChar := by
  simp [utf8, String.toByteArray_ofList, List.utf8Encode]

/-- A byte of ASCII is that of a character. -/
theorem exists_of_mem_utf8 {s : String} {b : UInt8} (hb : b.toNat < 128) (h : b ∈ utf8 s) :
    ∃ c ∈ s.toList, c.toNat = b.toNat := by
  rw [← String.ofList_toList (s := s), utf8_ofList] at h
  obtain ⟨c, hc, hmem⟩ := List.mem_flatMap.mp h
  refine ⟨c, hc, ?_⟩
  simp only [String.utf8EncodeChar] at hmem
  -- All bytes of longer characters have their first bit set.
  split_ifs at hmem with h₁ h₂ h₃ <;>
    simp only [List.mem_cons, List.not_mem_nil, or_false] at hmem
  · subst hmem
    simp only [Char.toNat, UInt8.toNat_ofNat']
    omega
  · exfalso
    rcases hmem with rfl | rfl <;> simp only [UInt8.toNat_ofNat'] at hb <;> omega
  · exfalso
    rcases hmem with rfl | rfl | rfl <;> simp only [UInt8.toNat_ofNat'] at hb <;> omega
  · exfalso
    rcases hmem with rfl | rfl | rfl | rfl <;> simp only [UInt8.toNat_ofNat'] at hb <;> omega

/-- A text of ASCII bytes. -/
def asciiText (bytes : List UInt8) : String := String.ofList (bytes.map fun b => Char.ofNat b.toNat)

theorem utf8_asciiText {bytes : List UInt8} (h : ∀ b ∈ bytes, b < 128) :
    utf8 (asciiText bytes) = bytes := by
  have hchar : ∀ b : UInt8, b < 128 → String.utf8EncodeChar (Char.ofNat b.toNat) = [b] := by
    decide +kernel
  rw [asciiText, utf8_ofList]
  induction bytes with
  | nil => rfl
  | cons b bytes ih =>
    rw [List.map_cons, List.flatMap_cons, hchar b (h b List.mem_cons_self),
      ih fun c hc => h c (List.mem_cons_of_mem _ hc)]
    rfl

/-- A printed integer is one line. -/
theorem newline_notMem_repr (n : ℤ) : 10 ∉ utf8 n.repr := by
  intro h
  obtain ⟨c, hc, hten⟩ := exists_of_mem_utf8 (by decide) h
  obtain ⟨hlow, -⟩ := JsonBytes.toNat_of_mem_repr hc
  rw [hten] at hlow
  exact absurd hlow (by decide)

/-- **Lines that are joined in Python** are the lines of their bytes. -/
theorem utf8_join (lines : List String) :
    utf8 ("\n".intercalate lines) = Lines.joinLines (lines.map utf8) := by
  induction lines with
  | nil => rfl
  | cons line lines ih =>
    cases lines with
    | nil => simp [Lines.joinLines]
    | cons next lines =>
      rw [String.intercalate_cons_cons, utf8_append, utf8_append, ih, List.append_assoc,
        List.map_cons (a := line), List.map_cons, Lines.joinLines_cons_cons]
      rfl

namespace CString

/-- The C string that starts where a text does. -/
def ofText (text : String) : CString where
  bytes := (utf8 text).takeWhile (· ≠ 0)
  zero_notMem := by
    intro h
    simpa using List.mem_takeWhile_imp h

/-- A text can be kept in a buffer: it has no zero, and its bytes fit. -/
def Fits (size : ℕ) (text : String) : Prop := 0 ∉ utf8 text ∧ (utf8 text).length < size

instance (size : ℕ) (text : String) : Decidable (Fits size text) :=
  inferInstanceAs (Decidable (_ ∧ _))

theorem bytes_ofText {text : String} (h : 0 ∉ utf8 text) : (ofText text).bytes = utf8 text := by
  simp only [ofText, List.takeWhile_eq_self_iff]
  intro b hb
  rw [decide_eq_true_eq]
  rintro rfl
  exact h hb

theorem length_ofText {text : String} (h : 0 ∉ utf8 text) :
    (ofText text).length = (utf8 text).length := by
  rw [length, bytes_ofText h]

theorem bytes_copy {size : ℕ} {hsize : 0 < size} {text : String} (h : Fits size text) :
    (CBuffer.copy size hsize (ofText text)).text.bytes = utf8 text := by
  have hbytes := bytes_ofText h.1
  rw [CBuffer.copy_of_fits, hbytes]
  rw [length, hbytes]
  exact h.2

end CString

end HexeVoice.Library
