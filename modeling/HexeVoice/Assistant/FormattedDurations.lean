import HexeVoice.Assistant.DroppedNumerals
import HexeVoice.Library.JsonBytes

/-!
# Formatted durations

`_format_duration` and `_format_unit` of `assistant/intents.py`.

## What is proved

**`parseDurationSeconds_formatDuration`**: a duration that is formatted is read back. Its text is a
row of pieces (`spell_pieces`), each number of which a unit follows.
-/

namespace HexeVoice.Assistant.Durations

open HexeVoice.Library HexeVoice.Assistant

/-! ### Formatting -/

/-- `str(n)`. -/
def decimalText (n : ℤ) : List Char := (toString n).toList

def formatUnit (value : ℤ) (unit : String) : List Char :=
  let suffix := if value = 1 then "" else "s"
  decimalText value ++ ' ' :: (unit.toList ++ suffix.toList)

/-- `parts[0]`, or `f"{', '.join(parts[:-1])} and {parts[-1]}"`. -/
def joinParts : List (List Char) → List Char
  | [part] => part
  | parts => ", ".toList.intercalate parts.dropLast ++ (" and ".toList ++ parts.getLast?.getD [])

def formatDuration (totalSeconds : ℤ) : List Char :=
  let hours := totalSeconds / 3600
  let remaining := totalSeconds % 3600
  let minutes := remaining / 60
  let seconds := remaining % 60
  let parts := if hours ≠ 0 then [formatUnit hours "hour"] else []
  let parts := if minutes ≠ 0 then parts ++ [formatUnit minutes "minute"] else parts
  let parts := if seconds ≠ 0 ∨ parts = [] then parts ++ [formatUnit seconds "second"] else parts
  joinParts parts

/-! ### The pieces of the text -/

/-- An amount and its unit. -/
abbrev Part := ℕ × String

/-- The units of a text. -/
def partUnits : List String := ["hour", "minute", "second"]

def unitOf (p : Part) : String := if p.1 = 1 then p.2 else p.2 ++ "s"

def partPieces (p : Part) (after : List Char) : List Piece :=
  [(.digits (Nat.toDigits 10 p.1), [' ']), (.unit (unitOf p), after)]

/-- The text of the parts as pieces. -/
def pieces : List Part → List Piece
  | [] => []
  | [p] => partPieces p []
  | [p, q] => partPieces p [' '] ++ (.and, [' ']) :: partPieces q []
  | p :: q :: r :: ps => partPieces p [] ++ (.comma, [' ']) :: pieces (q :: r :: ps)

/-- The parts of a duration that are not zero. -/
def partsOf (n : ℕ) : List Part :=
  [(n / 3600, "hour"), (n % 3600 / 60, "minute"), (n % 3600 % 60, "second")].filter (·.1 ≠ 0)

def Part.format (p : Part) : List Char := formatUnit p.1 p.2

/-- The seconds of the parts. -/
def total (ps : List Part) : ℚ := (ps.map fun p => p.1 * secondsOf p.2).sum

variable {u : Numerals}

theorem toDigits_digit (n : ℕ) : ∀ c ∈ Nat.toDigits 10 n, c.isDigit = true := fun _ hc =>
  Nat.isDigit_of_mem_toDigits (by decide) (by decide) hc

theorem toDigits_ne_nil (n : ℕ) : Nat.toDigits 10 n ≠ [] := by
  have h := Nat.length_toDigits_pos (b := 10) (n := n)
  exact List.length_pos_iff.mp h

theorem decimalText_natCast (n : ℕ) : decimalText n = Nat.toDigits 10 n := by
  have h : toString (n : ℤ) = n.repr := rfl
  rw [decimalText, h, Nat.repr_eq_ofList_toDigits, String.toList_ofList]

theorem ascii_of_isDigit {c : Char} (h : c.isDigit = true) : c.toNat < 128 := by
  have := JsonBytes.toNat_of_isDigit h
  omega

theorem isDigits_toDigits (n : ℕ) : IsDigits u (Nat.toDigits 10 n) :=
  .whole (toDigits_ne_nil n) fun c hc => by
    rw [u.isDecimal_ascii c (ascii_of_isDigit (toDigits_digit n c hc))]
    exact toDigits_digit n c hc

theorem foldl_digit {cs : List Char} (h : ∀ c ∈ cs, c.isDigit = true) (value : ℕ) :
    cs.foldl (fun n c => 10 * n + u.digit c) value = Nat.ofDigitChars 10 cs value := by
  induction cs generalizing value with
  | nil => rfl
  | cons c cs ih =>
    rw [List.forall_mem_cons] at h
    rw [List.foldl_cons, u.digit_ascii c h.1, Nat.ofDigitChars_cons]
    exact ih h.2 _

theorem float_toDigits (n : ℕ) : float u (Nat.toDigits 10 n) = n := by
  have hdot : ∀ c ∈ Nat.toDigits 10 n, decide (c ≠ '.') = true := by
    intro c hc
    have h := toDigits_digit n c hc
    rw [decide_eq_true_eq]
    rintro rfl
    exact absurd h (by decide)
  have htake : (Nat.toDigits 10 n).takeWhile (fun c => decide (c ≠ '.')) = Nat.toDigits 10 n :=
    List.takeWhile_eq_self_iff.mpr hdot
  have hdrop : (Nat.toDigits 10 n).dropWhile (fun c => decide (c ≠ '.')) = [] :=
    List.dropWhile_eq_nil_iff.mpr hdot
  have hvalue : u.decimal (Nat.toDigits 10 n) = n := by
    rw [Numerals.decimal, foldl_digit (toDigits_digit n), Nat.ofDigitChars_ten_toDigits]
  rw [float, htake, hdrop, hvalue]
  simp [Numerals.decimal]

theorem unitOf_mem {p : Part} (hp : p.2 ∈ partUnits) : unitOf p ∈ unitWords := by
  have hall : ∀ unit ∈ partUnits, unit ∈ unitWords ∧ unit ++ "s" ∈ unitWords := by decide
  unfold unitOf
  split
  · exact (hall _ hp).1
  · exact (hall _ hp).2

theorem secondsOf_unitOf {p : Part} (hp : p.2 ∈ partUnits) : secondsOf (unitOf p) = secondsOf p.2 := by
  have hall : ∀ unit ∈ partUnits, secondsOf (unit ++ "s") = secondsOf unit := by decide +kernel
  unfold unitOf
  split
  · rfl
  · exact hall _ hp

/-! ### The text is that of the pieces -/

theorem spell_append (ps qs : List Piece) : spell (ps ++ qs) = spell ps ++ spell qs :=
  List.flatMap_append

theorem Part.format_eq (p : Part) :
    p.format = Nat.toDigits 10 p.1 ++ ' ' :: (unitOf p).toList := by
  have hunit : (unitOf p).toList = p.2.toList ++ (if (p.1 : ℤ) = 1 then "" else "s").toList := by
    unfold unitOf
    by_cases h : p.1 = 1
    · simp [h]
    · simp [h]
  rw [Part.format, formatUnit, decimalText_natCast, hunit]

theorem spell_partPieces (p : Part) (after : List Char) :
    spell (partPieces p after) = p.format ++ after := by
  simp [partPieces, spell, Token.spelling, Part.format_eq]

theorem joinParts_cons (part next last : List Char) (rest : List (List Char)) :
    joinParts (part :: next :: last :: rest) =
      part ++ (", ".toList ++ joinParts (next :: last :: rest)) := by
  simp [joinParts, List.intercalate_cons_cons]

/-- The formatted parts are the text of the pieces. -/
theorem spell_pieces {ps : List Part} (hne : ps ≠ []) :
    spell (pieces ps) = joinParts (ps.map Part.format) := by
  induction ps using pieces.induct with
  | case1 => exact absurd rfl hne
  | case2 p => simp [pieces, joinParts, spell_partPieces]
  | case3 p q =>
    simp [pieces, joinParts, spell_append, spell_cons, spell_partPieces, Token.spelling]
  | case4 p q r ps ih =>
    have hrest := ih (List.cons_ne_nil q _)
    simp only [List.map_cons] at hrest ⊢
    rw [joinParts_cons, ← hrest, pieces, spell_append, spell_partPieces, spell_cons]
    simp [Token.spelling]

theorem isPySpace_blank : isPySpace ' ' = true := by decide

/-- Pieces after the pieces of a part. -/
theorem spaced_partPieces {p : Part} (hp : p.2 ∈ partUnits) {after : List Char}
    (hafter : after = [] ∨ after = [' ']) {q : Piece} {rest : List Piece}
    (hparts : Parts (.unit (unitOf p), after) q) (hrest : Spaced u (q :: rest)) :
    Spaced u (partPieces p after ++ q :: rest) := by
  have hblank : ∀ c ∈ [' '], isPySpace c = true := by simp [isPySpace_blank]
  have hafter' : ∀ c ∈ after, isPySpace c = true := by
    rcases hafter with rfl | rfl
    · simp
    · exact hblank
  exact ⟨isDigits_toDigits p.1, hblank, nofun, unitOf_mem hp, hafter', hparts, hrest⟩

theorem spaced_last {p : Part} (hp : p.2 ∈ partUnits) : Spaced u (partPieces p []) :=
  ⟨isDigits_toDigits p.1, by simp [isPySpace_blank], nofun, unitOf_mem hp, by simp⟩

theorem spaced_cons {p : Piece} {q : Piece} {rest : List Piece} (h : Spaced u (q :: rest))
    (hp : p.1.Proper u) (hblank : p.2 = [' ']) : Spaced u (p :: q :: rest) := by
  refine ⟨hp, by simp [hblank, isPySpace_blank], fun hnil => ?_, h⟩
  rw [hblank] at hnil
  cases hnil

theorem pieces_eq_cons (p : Part) (ps : List Part) :
    ∃ rest, pieces (p :: ps) = (.digits (Nat.toDigits 10 p.1), [' ']) :: rest := by
  match ps with
  | [] => exact ⟨_, rfl⟩
  | [q] => exact ⟨_, rfl⟩
  | q :: r :: ps => exact ⟨_, rfl⟩

theorem spaced_pieces {ps : List Part} (hps : ∀ p ∈ ps, p.2 ∈ partUnits) : Spaced u (pieces ps) := by
  induction ps using pieces.induct with
  | case1 => trivial
  | case2 p => exact spaced_last (hps p (by simp))
  | case3 p q =>
    refine spaced_partPieces (hps p (by simp)) (.inr rfl) (fun h => nomatch h) ?_
    exact spaced_cons (spaced_last (hps q (by simp))) trivial rfl
  | case4 p q r ps ih =>
    have hrest := ih fun p' hp' => hps p' (List.mem_cons_of_mem _ hp')
    obtain ⟨rest, heq⟩ := pieces_eq_cons q (r :: ps)
    refine spaced_partPieces (hps p (by simp)) (.inl rfl) (fun _ => .inr (.inl rfl)) ?_
    rw [heq] at hrest ⊢
    exact spaced_cons hrest trivial rfl

/-! ### Reading it -/

/-- Each number of the text counts for the unit that follows it. -/
theorem reading_pieces {ps : List Part} (hps : ∀ p ∈ ps, p.2 ∈ partUnits) :
    Reading u ((pieces ps).map (·.1)) (total ps) := by
  have hpart {p : Part} (after : List Char) (rest : List Piece) {seconds : ℚ} (hp : p.2 ∈ partUnits)
      (hrest : Reading u (rest.map (·.1)) seconds) :
      Reading u ((partPieces p after ++ rest).map (·.1)) (p.1 * secondsOf p.2 + seconds) := by
    have hpair := Reading.pair (t := .digits (Nat.toDigits 10 p.1)) (x := unitOf p) trivial hrest
    rw [secondsOf_unitOf hp, Token.amount, float_toDigits] at hpair
    exact hpair
  induction ps using pieces.induct with
  | case1 => exact .nil
  | case2 p =>
    have h := hpart [] [] (hps p (by simp)) (.nil (u := u))
    simpa [total, pieces] using h
  | case3 p q =>
    have hlast := hpart [] [] (hps q (by simp)) (.nil (u := u))
    rw [List.append_nil] at hlast
    have h := hpart [' '] ((.and, [' ']) :: partPieces q []) (hps p (by simp))
      (.other (fun h => h) hlast)
    simpa [total, pieces] using h
  | case4 p q r ps ih =>
    have hrest := ih fun p' hp' => hps p' (List.mem_cons_of_mem _ hp')
    have h := hpart [] ((.comma, [' ']) :: pieces (q :: r :: ps)) (hps p (by simp))
      (.other (fun h => h) hrest)
    simpa [total, pieces] using h

/-! ### The round trip -/

theorem partsOf_units (n : ℕ) : ∀ p ∈ partsOf n, p.2 ∈ partUnits := by
  intro p hp
  have h := (List.mem_filter.mp hp).1
  simp only [List.mem_cons, List.not_mem_nil, or_false] at h
  rcases h with rfl | rfl | rfl
  · exact List.mem_cons_self ..
  · exact List.mem_cons_of_mem _ (List.mem_cons_self ..)
  · exact List.mem_cons_of_mem _ (List.mem_cons_of_mem _ (List.mem_cons_self ..))

theorem partsOf_ne_nil {n : ℕ} (hn : 1 ≤ n) : partsOf n ≠ [] := by
  simp only [partsOf, ne_eq, List.filter_eq_nil_iff, List.mem_cons, List.not_mem_nil, or_false,
    forall_eq_or_imp, forall_eq, decide_eq_true_eq, not_not]
  omega

theorem total_partsOf (n : ℕ) : total (partsOf n) = n := by
  have hfilter (ps : List Part) : total (ps.filter (·.1 ≠ 0)) = total ps := by
    induction ps with
    | nil => rfl
    | cons p ps ih =>
      have hcons : total (p :: ps) = p.1 * secondsOf p.2 + total ps := rfl
      by_cases hp : p.1 = 0
      · rw [List.filter_cons_of_neg (by simpa using hp), ih, hcons, hp]
        simp
      · have hcons' : total (p :: ps.filter (·.1 ≠ 0)) =
            p.1 * secondsOf p.2 + total (ps.filter (·.1 ≠ 0)) := rfl
        rw [List.filter_cons_of_pos (by simpa using hp), hcons', ih, hcons]
  have hhour : secondsOf "hour" = 3600 := by decide +kernel
  have hminute : secondsOf "minute" = 60 := by decide +kernel
  have hsecond : secondsOf "second" = 1 := by decide +kernel
  rw [partsOf, hfilter]
  simp only [total, List.map_cons, List.map_nil, List.sum_cons, List.sum_nil, hhour, hminute, hsecond]
  have hsum : n / 3600 * 3600 + (n % 3600 / 60 * 60 + (n % 3600 % 60)) = n := by omega
  have hcast := congrArg (Nat.cast (R := ℚ)) hsum
  push_cast at hcast
  linarith

/-- A duration of some seconds is formatted part by part. -/
theorem formatDuration_eq {n : ℕ} (hn : 1 ≤ n) :
    formatDuration n = joinParts ((partsOf n).map Part.format) := by
  have hhours : (n : ℤ) / 3600 = (n / 3600 : ℕ) := by omega
  have hminutes : (n : ℤ) % 3600 / 60 = (n % 3600 / 60 : ℕ) := by omega
  have hseconds : (n : ℤ) % 3600 % 60 = (n % 3600 % 60 : ℕ) := by omega
  have hsome : ¬ (n / 3600 = 0 ∧ n % 3600 / 60 = 0 ∧ n % 3600 % 60 = 0) := by omega
  unfold formatDuration partsOf
  dsimp only
  rw [hhours, hminutes, hseconds]
  generalize n / 3600 = hours at *
  generalize n % 3600 / 60 = minutes at *
  generalize n % 3600 % 60 = seconds at *
  by_cases h : hours = 0
  · by_cases h' : minutes = 0
    · have h'' : seconds ≠ 0 := fun h'' => hsome ⟨h, h', h''⟩
      simp [h, h', h'', Part.format]
    · by_cases h'' : seconds = 0 <;> simp [h, h', h'', Part.format]
  · by_cases h' : minutes = 0 <;> by_cases h'' : seconds = 0 <;> simp [h, h', h'', Part.format]

theorem spell_partsOf {n : ℕ} (hn : 1 ≤ n) : spell (pieces (partsOf n)) = formatDuration n := by
  rw [spell_pieces (partsOf_ne_nil hn), formatDuration_eq hn]

/-- **A duration that is formatted** is read back. -/
theorem parseDurationSeconds_formatDuration {n : ℕ} (hn : 1 ≤ n) :
    parseDurationSeconds u (formatDuration n) = some (some (n : ℤ)) := by
  have hunits := partsOf_units n
  have hspaced : Spaced u (pieces (partsOf n)) := spaced_pieces hunits
  have hreading := reading_pieces (u := u) hunits
  have hnone : ∀ c ∈ ([] : List Char), isPySpace c = true := by simp
  obtain ⟨amounts, hcounted, hparse⟩ := parseDurationSeconds_spell hnone hspaced
  rw [total_partsOf] at hreading
  have hsum : amounts.sum = n := (hcounted.reading hreading.allPaired).unique hreading
  have hround : Voice.roundHalfEven (n : ℚ) = n := by
    have h := (roundHalfEven_eq_iff n).mpr ⟨n, rfl⟩
    exact_mod_cast h
  have hpos : (n : ℚ) ≠ 0 := by
    have : n ≠ 0 := by omega
    exact_mod_cast this
  rw [← spell_partsOf hn]
  rw [List.nil_append, hsum, if_neg hpos, hround] at hparse
  exact hparse

end HexeVoice.Assistant.Durations
