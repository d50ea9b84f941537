import HexeVoice.Library.Pattern
import HexeVoice.Library.Python

/-!
# Number words

The numerals of utterances: `_NUMBER_WORDS` of `assistant/intents.py`, digits, and the words of a text.

## The model

A text is a list of characters. What Python asks of Unicode is a parameter (`Numerals`).
-/

namespace HexeVoice.Assistant

open HexeVoice.Library

variable {blanks : List Char} {c : Char} {text : List Char}

/-- What Python asks of Unicode to read numerals. -/
structure Numerals extends CharTable where
  /-- `str.isdigit`, of one character. -/
  isDigit : Char → Bool
  /-- The value of a decimal digit. -/
  digit : Char → ℕ
  /-- `str.lower`. -/
  lower : List Char → List Char
  isDigit_ascii : ∀ c, c.toNat < 128 → isDigit c = c.isDigit
  isDigit_isAlnum : ∀ c, isDigit c = true → isAlnum c = true
  isDecimal_isDigit : ∀ c, isDecimal c = true → isDigit c = true
  digit_ascii : ∀ c, c.isDigit = true → digit c = c.toNat - 48
  lower_ascii : ∀ cs, (∀ c ∈ cs, c.toNat < 128) → lower cs = cs.map Char.toLower
  /-- A blank stays, and parts what is lowered. -/
  lower_blank : ∀ c, isPySpace c = true → ∀ xs ys, lower (xs ++ c :: ys) = lower xs ++ c :: lower ys
  lower_word : ∀ cs, cs ≠ [] → (∀ c ∈ cs, isPySpace c = false) →
    lower cs ≠ [] ∧ ∀ c ∈ lower cs, isPySpace c = false

def numberWords : List (String × ℚ) :=
  [("zero", 0), ("a", 1), ("an", 1), ("one", 1), ("two", 2), ("three", 3), ("four", 4), ("five", 5),
   ("six", 6), ("seven", 7), ("eight", 8), ("nine", 9), ("ten", 10), ("eleven", 11), ("twelve", 12),
   ("thirteen", 13), ("fourteen", 14), ("fifteen", 15), ("sixteen", 16), ("seventeen", 17),
   ("eighteen", 18), ("nineteen", 19), ("twenty", 20), ("thirty", 30), ("forty", 40), ("fifty", 50),
   ("sixty", 60), ("half", 1 / 2)]

/-- `_NUMBER_WORDS.get(word)`. -/
def numberWord (word : List Char) : Option ℚ := numberWords.lookup (String.ofList word)

theorem numberWord_nonneg {word : List Char} {value : ℚ} (h : numberWord word = some value) :
    0 ≤ value := by
  obtain ⟨before, after, hsplit, -⟩ := List.lookup_eq_some_iff.mp h
  have hall : ∀ pair ∈ numberWords, 0 ≤ pair.2 := by norm_num [numberWords]
  exact hall (String.ofList word, value) (by rw [hsplit]; simp)

/-- The value of decimal digits. -/
def Numerals.decimal (u : Numerals) (digits : List Char) : ℕ :=
  digits.foldl (fun n c => 10 * n + u.digit c) 0

/-- `int(text)`, of digits: those that are no decimal digits are refused. -/
def Numerals.int (u : Numerals) (digits : List Char) : Except PyException ℕ :=
  if digits.all u.isDecimal then .ok (u.decimal digits) else .error .valueError

/-! ### Words of a text -/

theorem splitBlanks_blanks (h : ∀ c ∈ blanks, isPySpace c = true)
    (text : List Char) : splitBlanks (blanks ++ text) = splitBlanks text :=
  parts_append_left rfl (fun c hc => splitBlanks_partsAt (h c hc)) text

theorem splitBlanks_of_blanks (h : ∀ c ∈ blanks, isPySpace c = true) :
    splitBlanks blanks = [] := by
  have := splitBlanks_blanks h []
  rwa [List.append_nil] at this

theorem splitBlanks_append_blanks (h : ∀ c ∈ blanks, isPySpace c = true)
    (text : List Char) : splitBlanks (text ++ blanks) = splitBlanks text :=
  parts_append_right rfl (fun c hc => splitBlanks_partsAt (h c hc)) text

/-- What is read in parts at blanks is read word by word. -/
theorem parts_splitBlanks {β : Type*} {f : List Char → List β} (hnil : f [] = [])
    (h : ∀ c, isPySpace c = true → PartsAt f c) (text : List Char) :
    f text = (splitBlanks text).flatMap f := by
  induction hn : text.length using Nat.strong_induction_on generalizing text with
  | _ n ih =>
    subst hn
    by_cases hblank : ∃ c ∈ text, isPySpace c = true
    · obtain ⟨c, hc, hspace⟩ := hblank
      obtain ⟨xs, ys, rfl⟩ := List.append_of_mem hc
      rw [h c hspace, splitBlanks_partsAt hspace, List.flatMap_append,
        ← ih _ (by simp) xs rfl, ← ih _ (by simp; omega) ys rfl]
    · simp only [not_exists, not_and, Bool.not_eq_true] at hblank
      rw [splitBlanks_of_no_blank hblank]
      by_cases hne : text = []
      · simp [hne, hnil]
      · simp [hne]

theorem not_of_mem_splitOnP {p : Char → Bool} :
    ∀ part ∈ text.splitOnP p, ∀ c ∈ part, p c = false := by
  induction text with
  | nil => simp
  | cons c cs ih =>
    rw [List.splitOnP_cons_eq_if_modifyHead]
    split
    · simpa using ih
    · next hc =>
      obtain ⟨part, parts, hparts⟩ := List.exists_cons_of_ne_nil (List.splitOnP_ne_nil p cs)
      rw [hparts, List.forall_mem_cons] at ih
      rw [hparts, List.modifyHead_cons, List.forall_mem_cons, List.forall_mem_cons]
      exact ⟨⟨by simpa using hc, ih.1⟩, ih.2⟩

theorem mem_splitBlanks {text word : List Char} (h : word ∈ splitBlanks text) :
    word ≠ [] ∧ ∀ c ∈ word, isPySpace c = false := by
  unfold splitBlanks at h
  rw [List.mem_filter, decide_eq_true_eq] at h
  exact ⟨h.2, not_of_mem_splitOnP word h.1⟩

theorem exists_word (h : ∃ c ∈ text, isPySpace c = false) :
    splitBlanks text ≠ [] := by
  obtain ⟨c, hc, hspace⟩ := h
  intro hnil
  induction hn : text.length using Nat.strong_induction_on generalizing text with
  | _ n ih =>
    subst hn
    by_cases hblank : ∃ d ∈ text, isPySpace d = true
    · obtain ⟨d, hd, hdspace⟩ := hblank
      obtain ⟨xs, ys, rfl⟩ := List.append_of_mem hd
      rw [splitBlanks_partsAt hdspace, List.append_eq_nil_iff] at hnil
      rcases List.mem_append.mp hc with hc | hc
      · exact ih _ (by simp) hc hnil.1 rfl
      · rcases List.mem_cons.mp hc with rfl | hc
        · rw [hspace] at hdspace
          exact absurd hdspace (by decide)
        · exact ih _ (by simp; omega) hc hnil.2 rfl
    · simp only [not_exists, not_and, Bool.not_eq_true] at hblank
      rw [splitBlanks_of_no_blank hblank] at hnil
      simp [List.ne_nil_of_mem hc] at hnil

/-- A stripped text of one word is that word. -/
theorem eq_of_splitBlanks_singleton {text word : List Char} (hstrip : stripChars text = text)
    (h : splitBlanks text = [word]) : text = word := by
  by_cases hblank : ∃ c ∈ text, isPySpace c = true
  · obtain ⟨c, hc, hspace⟩ := hblank
    have hne : text ≠ [] := List.ne_nil_of_mem hc
    have hends := ends_of_strip text hstrip hne
    obtain ⟨xs, ys, rfl⟩ := List.append_of_mem hc
    rw [splitBlanks_partsAt hspace] at h
    have hxs : splitBlanks xs ≠ [] := by
      cases xs with
      | nil => simp [hspace] at hends
      | cons x xs => exact exists_word ⟨x, by simp, by simpa using hends.1⟩
    have hys : splitBlanks ys ≠ [] := by
      rcases List.eq_nil_or_concat ys with rfl | ⟨ys, y, rfl⟩
      · simp [hspace] at hends
      · exact exists_word ⟨y, by simp, by simpa using hends.2⟩
    have hlength := congrArg List.length h
    rw [List.length_append, List.length_singleton] at hlength
    have := List.length_pos_of_ne_nil hxs
    have := List.length_pos_of_ne_nil hys
    omega
  · simp only [not_exists, not_and, Bool.not_eq_true] at hblank
    rw [splitBlanks_of_no_blank hblank] at h
    by_cases hne : text = []
    · simp [hne] at h
    · simpa [hne] using h

/-- Taken apart at runs of a class, a text that neither starts nor ends with one has no empty
stretch. -/
theorem nil_notMem_split_some {isWord p : Char → Bool} (skip : ℕ) (behind : Bool)
    (hne : text ≠ []) (hskip : skip = (text.takeWhile p).length)
    (hlast : p (text.getLast hne) = false) :
    [] ∉ (Regex.some p).splitFrom isWord skip behind text := by
  induction hn : text.length using Nat.strong_induction_on generalizing text skip behind with
  | _ n ih =>
    subst hn
    obtain ⟨c, cs, rfl⟩ := List.exists_cons_of_ne_nil hne
    by_cases hc : p c = true
    · have hcs : cs ≠ [] := by
        rintro rfl
        simp [hc] at hlast
      rw [List.takeWhile_cons_of_pos hc, List.length_cons] at hskip
      subst hskip
      exact ih _ (Nat.lt_succ_self _) _ (isWord c) hcs rfl
        (by simpa [List.getLast_cons hcs] using hlast) rfl
    · rw [List.takeWhile_cons_of_neg hc, List.length_nil] at hskip
      subst hskip
      unfold Regex.splitFrom
      rw [Regex.rest_some, if_neg hc]
      dsimp only
      cases cs with
      | nil => simp [Regex.splitFrom]
      | cons d ds =>
        have hlast' : p ((d :: ds).getLast (by simp)) = false := by simpa using hlast
        by_cases hd : p d = true
        · have hds : ds ≠ [] := by
            rintro rfl
            simp [hd] at hlast'
          unfold Regex.splitFrom
          rw [Regex.rest_some, if_pos hd]
          dsimp only
          have hrun : ds.length - (ds.dropWhile p).length = (ds.takeWhile p).length := by
            have := congrArg List.length (List.takeWhile_append_dropWhile (p := p) (l := ds))
            rw [List.length_append] at this
            omega
          have hrest := ih _ (by simp) (ds.length - (ds.dropWhile p).length) (isWord d) hds hrun
            (by simpa [List.getLast_cons hds] using hlast') rfl
          simpa using hrest
        · have hrest := ih _ (by simp) 0 (isWord c) (List.cons_ne_nil d ds)
            (by rw [List.takeWhile_cons_of_neg hd]; rfl) hlast' rfl
          obtain ⟨part, parts, hparts⟩ := List.exists_cons_of_ne_nil
            (Regex.splitFrom_ne_nil isWord (Regex.some p) 0 (isWord c) (d :: ds))
          rw [hparts] at hrest ⊢
          simp only [List.modifyHead_cons, List.mem_cons, List.nil_eq, reduceCtorEq, false_or]
          exact fun hmem => hrest (List.mem_cons_of_mem _ hmem)

/-- `re.split(r"\s+", text)` of a stripped text. -/
theorem split_blanks {isWord : Char → Bool} (hne : text ≠ []) (hstrip : stripChars text = text) :
    (Regex.some isPySpace).split isWord text = splitBlanks text := by
  have hends := ends_of_strip text hstrip hne
  have hskip : 0 = (text.takeWhile isPySpace).length := by
    obtain ⟨c, cs, rfl⟩ := List.exists_cons_of_ne_nil hne
    rw [List.takeWhile_cons_of_neg (by simpa using hends.1), List.length_nil]
  have hnil : [] ∉ (Regex.some isPySpace).split isWord text :=
    nil_notMem_split_some 0 false hne hskip hends.2
  have hfilter := Regex.split_some_filter (p := isPySpace) isWord text
  rw [List.filter_eq_self.mpr] at hfilter
  · exact hfilter
  · intro part hpart
    have : part ≠ [] := fun h => hnil (h ▸ hpart)
    simpa using this

/-- What a word may be followed by: the end, or a blank. -/
def WordEnds (text : List Char) : Prop := ∀ c ∈ text.head?, isPySpace c = true

theorem wordEnds_blanks (hne : blanks ≠ [])
    (h : ∀ c ∈ blanks, isPySpace c = true) : WordEnds (blanks ++ text) := by
  obtain ⟨c, cs, rfl⟩ := List.exists_cons_of_ne_nil hne
  intro d hd
  rw [List.cons_append, List.head?_cons, Option.mem_some_iff] at hd
  exact hd ▸ h c (List.mem_cons_self ..)

theorem splitBlanks_append (xs : List Char) {ys : List Char} (h : WordEnds ys) :
    splitBlanks (xs ++ ys) = splitBlanks xs ++ splitBlanks ys := by
  cases ys with
  | nil => rw [List.append_nil]; exact (List.append_nil _).symm
  | cons c ys =>
    have hc : isPySpace c = true := h c rfl
    have hblank : splitBlanks ([c] ++ ys) = splitBlanks ys := splitBlanks_blanks (by simpa using hc) ys
    rw [List.singleton_append] at hblank
    rw [splitBlanks_partsAt hc, hblank]

theorem splitBlanks_word {word : List Char} (hne : word ≠ [])
    (hword : ∀ c ∈ word, isPySpace c = false) (h : WordEnds text) :
    splitBlanks (word ++ text) = word :: splitBlanks text := by
  have hone : splitBlanks word = [word] := by
    rw [splitBlanks_of_no_blank hword]
    simp [hne]
  rw [splitBlanks_append word h, hone]
  rfl

/-- The first word of a text stands after blanks, and before a blank or the end. -/
theorem exists_of_splitBlanks_cons {text word : List Char} {words : List (List Char)}
    (h : splitBlanks text = word :: words) :
    ∃ blanks rest, text = blanks ++ word ++ rest ∧ (∀ c ∈ blanks, isPySpace c = true) ∧
      WordEnds rest ∧ splitBlanks rest = words := by
  induction text with
  | nil => cases h
  | cons c cs ih =>
    by_cases hc : isPySpace c = true
    · have hblank : splitBlanks ([c] ++ cs) = splitBlanks cs :=
        splitBlanks_blanks (by simpa using hc) cs
      rw [List.singleton_append] at hblank
      rw [hblank] at h
      obtain ⟨blanks, rest, rfl, hblanks, hends, hrest⟩ := ih h
      exact ⟨c :: blanks, rest, rfl, by simpa [hc] using hblanks, hends, hrest⟩
    · -- the word begins here
      have hsplit := (List.takeWhile_append_dropWhile (p := fun c => !isPySpace c) (l := c :: cs)).symm
      have hne : (c :: cs).takeWhile (fun c => !isPySpace c) ≠ [] := by
        rw [List.takeWhile_cons_of_pos (by simpa using hc)]
        exact List.cons_ne_nil _ _
      have hends : WordEnds ((c :: cs).dropWhile fun c => !isPySpace c) := by
        intro d hd
        have hnot := List.head?_dropWhile_not (fun c => !isPySpace c) (c :: cs)
        rw [Option.mem_def.mp hd] at hnot
        simpa using hnot
      have hword := splitBlanks_word hne (fun d hd => by simpa using List.mem_takeWhile_imp hd) hends
      rw [← hsplit, h, List.cons.injEq] at hword
      refine ⟨[], (c :: cs).dropWhile fun c => !isPySpace c, ?_, by simp, hends, hword.2.symm⟩
      rw [List.nil_append, hword.1]
      exact hsplit

namespace Numerals

variable (u : Numerals)

theorem isPySpace_of_isWord (h : u.isWord c = true) : isPySpace c = false := by
  cases hc : isPySpace c with
  | false => rfl
  | true =>
    have hunderscore : c ≠ '_' := by
      rintro rfl
      exact absurd hc (by decide)
    simp [CharTable.isWord, u.isAlnum_space c hc, hunderscore] at h

theorem isWord_of_isDigit (h : u.isDigit c = true) : u.isWord c = true := by
  simp [CharTable.isWord, u.isDigit_isAlnum c h]

theorem isWord_space (h : isPySpace c = true) : u.isWord c = false := by
  cases hc : u.isWord c with
  | false => rfl
  | true => exact absurd h (by simp [u.isPySpace_of_isWord hc])

/-- The characters of the words that the code knows. -/
theorem isWord_lowercase (h : c.isLower = true) : u.isWord c = true := by
  have hlow : c.toNat < 128 := by
    have := UInt32.le_iff_toNat_le.mp (of_decide_eq_true (Bool.and_eq_true _ _ ▸ h).2)
    have hz : 'z'.val.toNat = 122 := rfl
    have : c.toNat = c.val.toNat := rfl
    omega
  simp [CharTable.isWord, u.isAlnum_ascii c hlow, Char.isAlphanum, Char.isAlpha, h]

/-- The words of a lowered text are the lowered words. -/
theorem splitBlanks_lower (text : List Char) :
    splitBlanks (u.lower text) = (splitBlanks text).map u.lower := by
  have hnil : u.lower [] = [] := by simpa using u.lower_ascii [] (by simp)
  induction hn : text.length using Nat.strong_induction_on generalizing text with
  | _ n ih =>
    subst hn
    by_cases hblank : ∃ c ∈ text, isPySpace c = true
    · obtain ⟨c, hc, hspace⟩ := hblank
      obtain ⟨xs, ys, rfl⟩ := List.append_of_mem hc
      rw [u.lower_blank c hspace, splitBlanks_partsAt hspace, splitBlanks_partsAt hspace,
        List.map_append, ih _ (by simp) xs rfl,
        ih _ (by simp; omega) ys rfl]
    · simp only [not_exists, not_and, Bool.not_eq_true] at hblank
      by_cases hne : text = []
      · subst hne
        rw [hnil]
        rfl
      · have hlower := u.lower_word text hne hblank
        rw [splitBlanks_of_no_blank hlower.2, splitBlanks_of_no_blank hblank]
        simp [hne, hlower.1]

end Numerals

theorem toLower_cases (c : Char) : c.toLower = c ∨
    65 ≤ c.toNat ∧ c.toNat ≤ 90 ∧ c.toLower.toNat = c.toNat + 32 := by
  unfold Char.toLower
  split
  · next h =>
    have hlow : 65 ≤ c.toNat := UInt32.le_iff_toNat_le.mp h.1
    have hhigh : c.toNat ≤ 90 := UInt32.le_iff_toNat_le.mp h.2
    refine .inr ⟨hlow, hhigh, ?_⟩
    simp only [Char.toNat] at hlow hhigh ⊢
    rw [UInt32.toNat_add]
    have hshift : ('a'.val - 'A'.val).toNat = 32 := rfl
    rw [hshift]
    omega
  · exact .inl rfl

theorem isPySpace_toLower (c : Char) : isPySpace c.toLower = isPySpace c := by
  rcases toLower_cases c with h | ⟨hlow, hhigh, h⟩
  · rw [h]
  · simp only [isPySpace, h]
    grind

theorem toLower_blank (h : isPySpace c = true) : c.toLower = c := by
  rcases toLower_cases c with heq | ⟨hlow, hhigh, -⟩
  · exact heq
  · simp only [isPySpace] at h
    grind

/-- A table of ASCII. -/
def Numerals.ascii : Numerals where
  toCharTable := .ascii
  isDigit := Char.isDigit
  digit c := c.toNat - 48
  lower := List.map Char.toLower
  isDigit_ascii := CharTable.ascii.isDecimal_ascii
  isDigit_isAlnum := fun c h => by simp [CharTable.ascii, Char.isAlphanum, h]
  isDecimal_isDigit := fun _ h => h
  digit_ascii := fun _ _ => rfl
  lower_ascii := fun _ _ => rfl
  lower_blank := fun c hc xs ys => by
    rw [List.map_append, List.map_cons, toLower_blank hc]
  lower_word := fun cs hne h => by
    refine ⟨by simpa using hne, fun c hc => ?_⟩
    obtain ⟨d, hd, rfl⟩ := List.mem_map.mp hc
    rw [isPySpace_toLower]
    exact h d hd

end HexeVoice.Assistant
