import HexeVoice.Library.Text
import Mathlib

/-!
# Regular expressions

Patterns of Python's `re` over character classes, matched by backtracking.

## The model

A match starts somewhere in a text: a `Spot` is the rest of the text there, and whether the
character before it is one of a word, which is all that `\b` asks of what lies behind.
`Regex.ends` lists where a match may end, in the order in which backtracking finds the ends;
the first is the one taken. `sub`, `findAll` and `split` take matches from left to right. They
are for patterns that match no empty text.

## What is proved

A character that a pattern cannot match, and that is not of a word, is a bar: what lies beyond it
does not matter before it (`ends_bar`, `sub_bar`, `findAll_bar`). **`sub_eq_intercalate`**: to
substitute is to join the stretches between the matches.
-/

namespace HexeVoice.Library

/-- What `re` asks of Unicode: which characters are letters or numerals, and which of those are
decimal digits. -/
structure CharTable where
  /-- `str.isalnum`. -/
  isAlnum : Char → Bool
  /-- `\d`. -/
  isDecimal : Char → Bool
  isAlnum_ascii : ∀ c, c.toNat < 128 → isAlnum c = c.isAlphanum
  isDecimal_ascii : ∀ c, c.toNat < 128 → isDecimal c = c.isDigit
  isAlnum_space : ∀ c, isPySpace c = true → isAlnum c = false
  isDecimal_space : ∀ c, isPySpace c = true → isDecimal c = false

/-- `\w`. -/
def CharTable.isWord (t : CharTable) (c : Char) : Bool := t.isAlnum c || c = '_'

/-- The table of ASCII. -/
def CharTable.ascii : CharTable where
  isAlnum := Char.isAlphanum
  isDecimal := Char.isDigit
  isAlnum_ascii := fun _ _ => rfl
  isDecimal_ascii := fun _ _ => rfl
  isAlnum_space := fun c hc => by
    simp only [isPySpace, Char.toNat] at hc
    simp only [Char.isAlphanum, Char.isAlpha, Char.isUpper, Char.isLower, Char.isDigit]
    simp [UInt32.le_iff_toNat_le] at *
    omega
  isDecimal_space := fun c hc => by
    simp only [isPySpace, Char.toNat] at hc
    simp only [Char.isDigit]
    simp [UInt32.le_iff_toNat_le] at *
    omega

/-- A pattern. -/
inductive Regex where
  /-- A character of a class. -/
  | one (p : Char → Bool)
  /-- `p*`: as many characters of a class as there are, or fewer. -/
  | many (p : Char → Bool)
  /-- `\b`. -/
  | bound
  /-- The empty pattern. -/
  | empty
  | seq (r s : Regex)
  | alt (r s : Regex)

/-- A place in a text: whether the character before it is of a word, and the text from there. -/
abbrev Spot := Bool × List Char

namespace Regex

/-- `p+`. -/
def some (p : Char → Bool) : Regex := seq (one p) (many p)

/-- `(?:r){n}`. -/
def rep (r : Regex) : ℕ → Regex
  | 0 => empty
  | n + 1 => seq r (rep r n)

/-- The characters of a word, each of a class. -/
def word (p : Char → Char → Bool) : List Char → Regex
  | [] => empty
  | c :: cs => seq (one (p c)) (word p cs)

/-- `(?:r|…)`. -/
def oneOf : List Regex → Regex
  | [] => one fun _ => false
  | r :: rs => alt r (oneOf rs)

/-- Where `p*` may end, the farthest place first. -/
def manyEnds (isWord p : Char → Bool) : Bool → List Char → List Spot
  | behind, [] => [(behind, [])]
  | behind, c :: cs =>
    if p c then manyEnds isWord p (isWord c) cs ++ [(behind, c :: cs)] else [(behind, c :: cs)]

/-- Where a match that starts at a spot may end, in the order of backtracking. -/
def ends (isWord : Char → Bool) : Regex → Spot → List Spot
  | one p, (_, c :: cs) => if p c then [(isWord c, cs)] else []
  | one _, (_, []) => []
  | many p, (behind, cs) => manyEnds isWord p behind cs
  | empty, spot => [spot]
  | bound, (behind, cs) => if behind != cs.head?.any isWord then [(behind, cs)] else []
  | seq r s, spot => (r.ends isWord spot).flatMap (s.ends isWord)
  | alt r s, spot => r.ends isWord spot ++ s.ends isWord spot

variable (isWord : Char → Bool) (r : Regex)

/-- What follows the match at a spot, if there is one. -/
def rest (spot : Spot) : Option (List Char) := (r.ends isWord spot).head?.map (·.2)

/-- `re.sub`, from a spot on, where the next `skip` characters are matched already. -/
def subFrom (repl : List Char) : ℕ → Bool → List Char → List Char
  | _, _, [] => []
  | skip + 1, _, c :: cs => subFrom repl skip (isWord c) cs
  | 0, behind, c :: cs =>
    match r.rest isWord (behind, c :: cs) with
    | .some rest => repl ++ subFrom repl (cs.length - rest.length) (isWord c) cs
    | none => c :: subFrom repl 0 (isWord c) cs

/-- The stretches between the matches, from a spot on. -/
def splitFrom : ℕ → Bool → List Char → List (List Char)
  | _, _, [] => [[]]
  | skip + 1, _, c :: cs => splitFrom skip (isWord c) cs
  | 0, behind, c :: cs =>
    match r.rest isWord (behind, c :: cs) with
    | .some rest => [] :: splitFrom (cs.length - rest.length) (isWord c) cs
    | none => (splitFrom 0 (isWord c) cs).modifyHead (c :: ·)

/-- `re.findall`, from a spot on. -/
def findAllFrom : ℕ → Bool → List Char → List (List Char)
  | _, _, [] => []
  | skip + 1, _, c :: cs => findAllFrom skip (isWord c) cs
  | 0, behind, c :: cs =>
    match r.rest isWord (behind, c :: cs) with
    | .some rest =>
      (c :: cs.take (cs.length - rest.length)) ::
        findAllFrom (cs.length - rest.length) (isWord c) cs
    | none => findAllFrom 0 (isWord c) cs

theorem subFrom_cons (repl : List Char) (behind : Bool) (c : Char) (cs : List Char) :
    r.subFrom isWord repl 0 behind (c :: cs) =
      match r.rest isWord (behind, c :: cs) with
      | .some rest => repl ++ r.subFrom isWord repl (cs.length - rest.length) (isWord c) cs
      | none => c :: r.subFrom isWord repl 0 (isWord c) cs := rfl

theorem findAllFrom_cons (behind : Bool) (c : Char) (cs : List Char) :
    r.findAllFrom isWord 0 behind (c :: cs) =
      match r.rest isWord (behind, c :: cs) with
      | .some rest =>
        (c :: cs.take (cs.length - rest.length)) ::
          r.findAllFrom isWord (cs.length - rest.length) (isWord c) cs
      | none => r.findAllFrom isWord 0 (isWord c) cs := rfl

/-- `re.sub(r, repl, text)`, with a replacement that names no group. -/
def sub (repl text : List Char) : List Char := r.subFrom isWord repl 0 false text

/-- The stretches of a text between the matches. -/
def split (text : List Char) : List (List Char) := r.splitFrom isWord 0 false text

/-- `re.findall(r, text)`, of a pattern without groups. -/
def findAll (text : List Char) : List (List Char) := r.findAllFrom isWord 0 false text

/-! ### Stretches -/

section stretches

theorem splitFrom_ne_nil (skip : ℕ) (behind : Bool) (text : List Char) :
    r.splitFrom isWord skip behind text ≠ [] := by
  induction text generalizing skip behind with
  | nil => simp [splitFrom]
  | cons c cs ih =>
    cases skip with
    | succ skip => exact ih skip _
    | zero =>
      unfold splitFrom
      split
      · simp
      · simpa [List.modifyHead_eq_nil_iff] using ih 0 _

variable {isWord r} {repl : List Char}

/-- To substitute is to join the stretches between the matches. -/
theorem subFrom_eq_intercalate (skip : ℕ) (behind : Bool) (text : List Char) :
    r.subFrom isWord repl skip behind text =
      repl.intercalate (r.splitFrom isWord skip behind text) := by
  induction text generalizing skip behind with
  | nil => simp [subFrom, splitFrom]
  | cons c cs ih =>
    cases skip with
    | succ skip => exact ih skip _
    | zero =>
      unfold subFrom splitFrom
      split
      · rw [ih, List.intercalate_cons_of_ne_nil (splitFrom_ne_nil _ _ _ _ _), List.nil_append]
      · rw [ih]
        obtain ⟨p, ps, hps⟩ :=
          List.exists_cons_of_ne_nil (splitFrom_ne_nil isWord r 0 (isWord c) cs)
        rw [hps, List.modifyHead_cons]
        cases ps with
        | nil => simp
        | cons q qs => simp [List.intercalate_cons_cons]

theorem sub_eq_intercalate (text : List Char) :
    r.sub isWord repl text = repl.intercalate (r.split isWord text) :=
  subFrom_eq_intercalate 0 false text

end stretches

/-! ### Bars -/

section bars

variable {isWord} {c : Char}

/-- No character class of the pattern has the character, and it is not of a word. -/
def Bars (isWord : Char → Bool) (c : Char) : Regex → Prop
  | one p | many p => p c = false
  | bound => isWord c = false
  | empty => True
  | seq r s | alt r s => Bars isWord c r ∧ Bars isWord c s

theorem manyEnds_bar {p : Char → Bool} (h : p c = false) (behind : Bool) (xs ys : List Char) :
    manyEnds isWord p behind (xs ++ c :: ys) =
      (manyEnds isWord p behind xs).map fun e => (e.1, e.2 ++ c :: ys) := by
  induction xs generalizing behind with
  | nil => simp [manyEnds, h]
  | cons x xs ih =>
    rw [List.cons_append]
    unfold manyEnds
    split
    · simp [ih]
    · simp

/-- What lies beyond a bar does not matter before it. -/
theorem ends_bar {r : Regex} (h : r.Bars isWord c) (behind : Bool) (xs ys : List Char) :
    r.ends isWord (behind, xs ++ c :: ys) =
      (r.ends isWord (behind, xs)).map fun e => (e.1, e.2 ++ c :: ys) := by
  induction r generalizing behind xs with
  | one p =>
    cases xs with
    | nil => simp [ends, show p c = false from h]
    | cons x xs =>
      rw [List.cons_append]
      unfold ends
      split <;> simp
  | many p => exact manyEnds_bar h behind xs ys
  | bound =>
    have hc : isWord c = false := h
    cases xs <;> cases behind <;> simp [ends, hc] <;> split <;> simp
  | empty => simp [ends]
  | seq r s ihr ihs =>
    unfold ends
    rw [ihr h.1, List.flatMap_map, List.map_flatMap]
    congr 1
    funext e
    exact ihs h.2 e.1 e.2
  | alt r s ihr ihs =>
    unfold ends
    rw [ihr h.1, ihs h.2, List.map_append]

variable {r : Regex}

theorem rest_bar (h : r.Bars isWord c) (behind : Bool) (xs ys : List Char) :
    r.rest isWord (behind, xs ++ c :: ys) =
      (r.rest isWord (behind, xs)).map (· ++ c :: ys) := by
  unfold rest
  rw [ends_bar h, List.head?_map, Option.map_map, Option.map_map]
  rfl

/-- The pattern needs a character. -/
def Consumes (isWord : Char → Bool) (r : Regex) : Prop :=
  ∀ behind, r.ends isWord (behind, []) = []

/-- No match starts at a bar. -/
theorem rest_of_bar (h : r.Bars isWord c) (hr : r.Consumes isWord) (behind : Bool)
    (ys : List Char) : r.rest isWord (behind, c :: ys) = none := by
  have := rest_bar h behind [] ys
  rw [List.nil_append] at this
  rw [this]
  unfold rest
  rw [hr]
  rfl

theorem subFrom_bar {repl : List Char} (h : r.Bars isWord c) (hr : r.Consumes isWord) {skip : ℕ}
    (behind : Bool) {xs : List Char} (ys : List Char) (hskip : skip ≤ xs.length) :
    r.subFrom isWord repl skip behind (xs ++ c :: ys) =
      r.subFrom isWord repl skip behind xs ++ c :: r.subFrom isWord repl 0 (isWord c) ys := by
  induction xs generalizing skip behind with
  | nil =>
    obtain rfl : skip = 0 := by simpa using hskip
    simp [subFrom, rest_of_bar h hr]
  | cons x xs ih =>
    cases skip with
    | succ skip => exact ih _ (by simpa using hskip)
    | zero =>
      have hrest := rest_bar h behind (x :: xs) ys
      rw [List.cons_append] at hrest ⊢
      rw [subFrom_cons isWord r repl behind x (xs ++ c :: ys), subFrom_cons isWord r repl behind x xs,
        hrest]
      cases r.rest isWord (behind, x :: xs) with
      | none =>
        dsimp only [Option.map_none]
        rw [ih _ (Nat.zero_le _), List.cons_append]
      | some rest =>
        dsimp only [Option.map_some]
        have hlength : (xs ++ c :: ys).length - (rest ++ c :: ys).length =
            xs.length - rest.length := by
          simp only [List.length_append]
          omega
        rw [hlength, ih _ (Nat.sub_le _ _), List.append_assoc]

theorem findAllFrom_bar (h : r.Bars isWord c) (hr : r.Consumes isWord) {skip : ℕ}
    (behind : Bool) {xs : List Char} (ys : List Char) (hskip : skip ≤ xs.length) :
    r.findAllFrom isWord skip behind (xs ++ c :: ys) =
      r.findAllFrom isWord skip behind xs ++ r.findAllFrom isWord 0 (isWord c) ys := by
  induction xs generalizing skip behind with
  | nil =>
    obtain rfl : skip = 0 := by simpa using hskip
    simp [findAllFrom, rest_of_bar h hr]
  | cons x xs ih =>
    cases skip with
    | succ skip => exact ih _ (by simpa using hskip)
    | zero =>
      have hrest := rest_bar h behind (x :: xs) ys
      rw [List.cons_append] at hrest ⊢
      rw [findAllFrom_cons isWord r behind x (xs ++ c :: ys), findAllFrom_cons isWord r behind x xs,
        hrest]
      cases r.rest isWord (behind, x :: xs) with
      | none => exact ih _ (Nat.zero_le _)
      | some rest =>
        dsimp only [Option.map_some]
        have hlength : (xs ++ c :: ys).length - (rest ++ c :: ys).length =
            xs.length - rest.length := by
          simp only [List.length_append]
          omega
        rw [hlength, ih _ (Nat.sub_le _ _), List.take_append_of_le_length (Nat.sub_le _ _),
          List.cons_append]

/-- A bar that is not of a word parts a text for `re.sub`. -/
theorem sub_bar {repl : List Char} (h : r.Bars isWord c) (hr : r.Consumes isWord)
    (hc : isWord c = false) (xs ys : List Char) :
    r.sub isWord repl (xs ++ c :: ys) = r.sub isWord repl xs ++ c :: r.sub isWord repl ys := by
  unfold sub
  rw [subFrom_bar h hr false ys (Nat.zero_le _), hc]

/-- A bar that is not of a word parts a text for `re.findall`. -/
theorem findAll_bar (h : r.Bars isWord c) (hr : r.Consumes isWord) (hc : isWord c = false)
    (xs ys : List Char) :
    r.findAll isWord (xs ++ c :: ys) = r.findAll isWord xs ++ r.findAll isWord ys := by
  have := findAllFrom_bar h hr false ys (Nat.zero_le xs.length)
  rwa [hc] at this

theorem findAll_partsAt (h : r.Bars isWord c) (hr : r.Consumes isWord) (hc : isWord c = false) :
    PartsAt (r.findAll isWord) c := findAll_bar h hr hc

theorem bars_rep (h : r.Bars isWord c) (n : ℕ) : (r.rep n).Bars isWord c := by
  induction n with
  | zero => trivial
  | succ n ih => exact ⟨h, ih⟩

theorem bars_word {p : Char → Char → Bool} {cs : List Char} (h : ∀ x ∈ cs, p x c = false) :
    (word p cs).Bars isWord c := by
  induction cs with
  | nil => trivial
  | cons x cs ih =>
    rw [List.forall_mem_cons] at h
    exact ⟨h.1, ih h.2⟩

theorem bars_oneOf {rs : List Regex} (h : ∀ r ∈ rs, r.Bars isWord c) :
    (oneOf rs).Bars isWord c := by
  induction rs with
  | nil => rfl
  | cons r rs ih =>
    rw [List.forall_mem_cons] at h
    exact ⟨h.1, ih h.2⟩

/-- A pattern that needs a character still does behind a `\b`. -/
theorem consumes_bound_seq {s : Regex} (h : s.Consumes isWord) :
    (seq bound s).Consumes isWord := by
  intro behind
  unfold ends
  simp only [ends]
  split
  · rw [List.flatMap_singleton]
    exact h behind
  · rfl

theorem consumes_seq {s : Regex} (h : r.Consumes isWord) : (seq r s).Consumes isWord := by
  intro behind
  unfold ends
  rw [h behind]
  rfl

theorem consumes_word {p : Char → Char → Bool} {cs : List Char} (h : cs ≠ []) :
    (word p cs).Consumes isWord := by
  obtain ⟨c, cs, rfl⟩ := List.exists_cons_of_ne_nil h
  exact consumes_seq fun _ => rfl

theorem consumes_oneOf {rs : List Regex} (h : ∀ r ∈ rs, r.Consumes isWord) :
    (oneOf rs).Consumes isWord := by
  intro behind
  induction rs with
  | nil => rfl
  | cons r rs ih =>
    rw [List.forall_mem_cons] at h
    unfold oneOf ends
    rw [h.1 behind, ih h.2, List.append_nil]

end bars

/-! ### Texts without matches -/

section suffixes

variable {isWord} {r}

theorem manyEnds_suffix {p : Char → Bool} (behind : Bool) (cs : List Char) :
    ∀ e ∈ manyEnds isWord p behind cs, e.2 <:+ cs := by
  induction cs generalizing behind with
  | nil => simp [manyEnds]
  | cons c cs ih =>
    unfold manyEnds
    split
    · intro e he
      rcases List.mem_append.mp he with he | he
      · exact (ih _ e he).trans (List.suffix_cons c cs)
      · rw [List.mem_singleton.mp he]
    · intro e he
      rw [List.mem_singleton.mp he]

/-- A match ends at a later place of the text. -/
theorem ends_suffix (spot : Spot) : ∀ e ∈ r.ends isWord spot, e.2 <:+ spot.2 := by
  induction r generalizing spot with
  | one p =>
    obtain ⟨behind, _ | ⟨c, cs⟩⟩ := spot
    · simp [ends]
    · unfold ends
      split <;> simp
  | many p => exact manyEnds_suffix _ _
  | bound =>
    unfold ends
    split <;> simp
  | empty => simp [ends]
  | seq r s ihr ihs =>
    intro e he
    obtain ⟨e', he', he⟩ := List.mem_flatMap.mp he
    exact (ihs e' e he).trans (ihr spot e' he')
  | alt r s ihr ihs =>
    intro e he
    rcases List.mem_append.mp he with he | he
    · exact ihr spot e he
    · exact ihs spot e he

theorem ends_seq_of_right {s : Regex} {spot : Spot}
    (h : ∀ behind, ∀ cs, cs <:+ spot.2 → s.ends isWord (behind, cs) = []) :
    (seq r s).ends isWord spot = [] := by
  unfold ends
  rw [List.flatMap_eq_nil_iff]
  exact fun e he => h e.1 e.2 (ends_suffix spot e he)

theorem ends_seq_of_left {s : Regex} {spot : Spot} (h : r.ends isWord spot = []) :
    (seq r s).ends isWord spot = [] := by
  unfold ends
  rw [h]
  rfl

/-- A text in which no match starts is left as it is. -/
theorem sub_eq_self {repl text : List Char}
    (h : ∀ behind, ∀ cs, cs <:+ text → r.ends isWord (behind, cs) = []) :
    r.sub isWord repl text = text := by
  unfold sub
  generalize false = behind
  induction text generalizing behind with
  | nil => rfl
  | cons c cs ih =>
    rw [subFrom_cons, rest, h behind _ (List.suffix_refl _)]
    dsimp only [List.head?_nil, Option.map_none]
    rw [ih fun behind' cs' hcs' => h behind' cs' (hcs'.trans (List.suffix_cons c cs))]

theorem findAllFrom_length (behind : Bool) (text : List Char) :
    r.findAllFrom isWord text.length behind text = [] := by
  induction text generalizing behind with
  | nil => rfl
  | cons c text ih => exact ih _

end suffixes

/-! ### Runs of a class -/

section runs

variable {isWord} {p : Char → Bool}

theorem manyEnds_ne_nil (behind : Bool) (cs : List Char) :
    manyEnds isWord p behind cs ≠ [] := by
  cases cs with
  | nil => simp [manyEnds]
  | cons c cs => unfold manyEnds; split <;> simp

theorem head?_manyEnds (behind : Bool) (cs : List Char) :
    (manyEnds isWord p behind cs).head?.map (·.2) = .some (cs.dropWhile p) := by
  induction cs generalizing behind with
  | nil => simp [manyEnds]
  | cons c cs ih =>
    unfold manyEnds
    split
    · next hc =>
      rw [List.head?_append_of_ne_nil _ (manyEnds_ne_nil _ _), ih, List.dropWhile_cons_of_pos hc]
    · next hc => simp [hc]

/-- `p{n}`, in a text of word characters. -/
theorem ends_rep_one (n : ℕ) (behind : Bool) {cs : List Char} (h : ∀ c ∈ cs, isWord c = true) :
    ((one p).rep n).ends isWord (behind, cs) =
      if n ≤ cs.length ∧ ∀ c ∈ cs.take n, p c = true then [(behind || n ≠ 0, cs.drop n)]
      else [] := by
  induction n generalizing behind cs with
  | zero => simp [rep, ends]
  | succ n ih =>
    cases cs with
    | nil => simp [rep, ends]
    | cons c cs =>
      rw [List.forall_mem_cons] at h
      unfold rep ends
      by_cases hc : p c = true
      · simp [ends, hc, ih _ h.2, h.1]
      · simp [ends, hc]

/-- A match of `p+` takes the whole run. -/
theorem rest_some (behind : Bool) (c : Char) (cs : List Char) :
    (some p).rest isWord (behind, c :: cs) = if p c then .some (cs.dropWhile p) else none := by
  unfold rest some ends
  simp only [ends]
  split
  · rw [List.flatMap_singleton]
    exact head?_manyEnds _ _
  · rfl

/-- The stretches between the runs of a class have no character of it. -/
theorem not_mem_splitFrom_some (skip : ℕ) (behind : Bool) (text : List Char) :
    ∀ part ∈ (some p).splitFrom isWord skip behind text, ∀ c ∈ part, p c = false := by
  induction text generalizing skip behind with
  | nil => simp [splitFrom]
  | cons c cs ih =>
    cases skip with
    | succ skip => exact ih skip _
    | zero =>
      unfold splitFrom
      rw [rest_some]
      by_cases hc : p c = true
      · rw [if_pos hc]
        dsimp only
        rw [List.forall_mem_cons]
        exact ⟨by simp, ih _ _⟩
      · rw [if_neg hc]
        dsimp only
        obtain ⟨part, parts, hparts⟩ := List.exists_cons_of_ne_nil
          (splitFrom_ne_nil isWord (some p) 0 (isWord c) cs)
        have := ih 0 (isWord c)
        rw [hparts, List.forall_mem_cons] at this
        rw [hparts, List.modifyHead_cons, List.forall_mem_cons, List.forall_mem_cons]
        exact ⟨⟨by simpa using hc, this.1⟩, this.2⟩

/-- Taken apart at runs of a class or at each of its characters, a text has the same stretches
that are not empty. -/
theorem splitFrom_some_filter (text : List Char) :
    (∀ behind, ((some p).splitFrom isWord 0 behind text).head? = (text.splitOnP p).head? ∧
      ((some p).splitFrom isWord 0 behind text).tail.filter (· ≠ []) =
        (text.splitOnP p).tail.filter (· ≠ [])) ∧
      ∀ skip behind, skip ≤ text.length → (∀ c ∈ text.take skip, p c = true) →
        ((some p).splitFrom isWord skip behind text).filter (· ≠ []) =
          (text.splitOnP p).filter (· ≠ []) := by
  induction text with
  | nil => exact ⟨fun _ => ⟨rfl, rfl⟩, fun _ _ _ _ => by simp [splitFrom]⟩
  | cons c cs ih =>
    have hzero (behind : Bool) :
        ((some p).splitFrom isWord 0 behind (c :: cs)).head? = ((c :: cs).splitOnP p).head? ∧
          ((some p).splitFrom isWord 0 behind (c :: cs)).tail.filter (· ≠ []) =
            ((c :: cs).splitOnP p).tail.filter (· ≠ []) := by
      unfold splitFrom
      rw [rest_some, List.splitOnP_cons_eq_if_modifyHead]
      by_cases hc : p c = true
      · simp only [if_pos hc, List.head?_cons, List.tail_cons, true_and]
        have hskip : cs.length - (cs.dropWhile p).length = (cs.takeWhile p).length := by
          have := congrArg List.length (List.takeWhile_append_dropWhile (p := p) (l := cs))
          rw [List.length_append] at this
          omega
        rw [hskip]
        refine ih.2 _ _ (List.takeWhile_prefix p).length_le fun d hd => ?_
        rw [← List.prefix_iff_eq_take.mp (List.takeWhile_prefix p)] at hd
        exact List.mem_takeWhile_imp hd
      · simp only [if_neg hc]
        obtain ⟨hhead, htail⟩ := ih.1 (isWord c)
        obtain ⟨q, qs, hqs⟩ := List.exists_cons_of_ne_nil
          (splitFrom_ne_nil isWord (some p) 0 (isWord c) cs)
        obtain ⟨q', qs', hqs'⟩ := List.exists_cons_of_ne_nil (List.splitOnP_ne_nil p cs)
        rw [hqs, hqs'] at hhead htail ⊢
        simp only [List.head?_cons, Option.some.injEq, List.tail_cons] at hhead htail
        simp only [List.modifyHead_cons, List.head?_cons, List.tail_cons, hhead, htail, and_self]
    refine ⟨hzero, fun skip behind hskip htake => ?_⟩
    cases skip with
    | zero =>
      obtain ⟨hhead, htail⟩ := hzero behind
      obtain ⟨q, qs, hqs⟩ := List.exists_cons_of_ne_nil
        (splitFrom_ne_nil isWord (some p) 0 behind (c :: cs))
      obtain ⟨q', qs', hqs'⟩ := List.exists_cons_of_ne_nil (List.splitOnP_ne_nil p (c :: cs))
      rw [hqs, hqs'] at hhead htail ⊢
      simp only [List.head?_cons, Option.some.injEq, List.tail_cons] at hhead htail
      rw [hhead, List.filter_cons, List.filter_cons, htail]
    | succ skip =>
      rw [List.take_succ_cons, List.forall_mem_cons] at htake
      rw [List.splitOnP_cons_eq_if_modifyHead, if_pos htake.1,
        List.filter_cons_of_neg (by simp)]
      exact ih.2 skip _ (by simpa using hskip) htake.2

variable (isWord) in
theorem split_some_filter (text : List Char) :
    ((some p).split isWord text).filter (· ≠ []) = (text.splitOnP p).filter (· ≠ []) :=
  (splitFrom_some_filter text).2 0 false (Nat.zero_le _) (by simp)

end runs

end Regex

end HexeVoice.Library
