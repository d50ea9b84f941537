import HexeVoice.Assistant.NumberWords
import HexeVoice.Voice.WakeElection

/-!
# Durations

`_NUMBER_PATTERN`, `_DURATION_PART_RE`, `_parse_duration_seconds` and `_parse_number` of
`assistant/intents.py`.

## The model

The patterns are those of the source, matched by backtracking. Amounts are exact numbers.

## What is proved

`mem_durationPattern`: what a match is: a number, blanks, and a unit that ends there.
-/

namespace HexeVoice.Assistant.Durations

open HexeVoice.Library HexeVoice.Library.Pattern HexeVoice.Assistant

/-! ### The patterns -/

inductive Group where
  | number
  | unit
  deriving DecidableEq

def onesWords : List String :=
  ["one", "two", "three", "four", "five", "six", "seven", "eight", "nine"]

/-- The numerals of one word before the tens. -/
def plainWords : List String :=
  ["a", "an", "half"] ++ onesWords ++ ["ten", "eleven", "twelve", "thirteen", "fourteen", "fifteen",
    "sixteen", "seventeen", "eighteen", "nineteen"]

/-- The tens that a numeral for ones may follow. -/
def tensWords : List String := ["twenty", "thirty", "forty", "fifty"]

variable (u : Numerals)

/-- `\d+(?:\.\d+)?`. -/
def digitsPattern : Regex :=
  .seq (.some u.isDecimal) (.opt (.seq (.lit ['.']) (.some u.isDecimal)))

/-- `ten(?:\s+(?:one|…|nine))?`. -/
def tensPattern (tens : String) : Regex :=
  .seq (.lit tens.toList)
    (.opt (.seq (.some isPySpace) (.oneOf (onesWords.map fun w => .lit w.toList))))

def numberPattern : Regex :=
  .oneOf (digitsPattern u :: ((plainWords.map fun w => .lit w.toList) ++ tensWords.map tensPattern ++
    [.lit "sixty".toList]))

/-- `words?`, of a word and its plural. -/
def plural (w : String) : Regex := .seq (.lit w.toList) (.opt (.lit ['s']))

def unitPattern : Regex :=
  .oneOf [plural "hour", plural "hr", .lit "hr".toList, .lit "h".toList, plural "minute", plural "min",
    .lit "min".toList, .lit "man's".toList, .lit "mans".toList, .lit "m".toList, plural "second",
    plural "sec", .lit "sec".toList, .lit "s".toList]

/-- `_DURATION_PART_RE`. -/
def durationPattern : Pattern Group :=
  seq (plain .bound) (seq (group .number (plain (numberPattern u)))
    (seq (plain (.many isPySpace)) (seq (group .unit (plain unitPattern)) (plain .bound))))

/-! ### The functions -/

def unitSeconds : List (String × ℚ) :=
  [("h", 3600), ("hr", 3600), ("hrs", 3600), ("hour", 3600), ("hours", 3600), ("m", 60), ("min", 60),
   ("mins", 60), ("minute", 60), ("minutes", 60), ("man's", 60), ("mans", 60), ("s", 1), ("sec", 1),
   ("secs", 1), ("second", 1), ("seconds", 1)]

/-- `float(text)`, of a text that `digitsPattern` matches. -/
def float (text : List Char) : ℚ :=
  let whole := text.takeWhile (· ≠ '.')
  let fraction := (text.dropWhile (· ≠ '.')).tail
  u.decimal whole + u.decimal fraction / 10 ^ fraction.length

/-- `_parse_number`, unless it raises `KeyError`. -/
def parseNumber (text : List Char) : Option ℚ :=
  if ((digitsPattern u).ends u.isWord (false, text)).any (·.2 = []) then some (float u text)
  else ((splitBlanks text).mapM numberWord).map List.sum

/-- What a match counts for. -/
def amount (groups : Captures Group) : Option ℚ := do
  let number ← parseNumber u ((groups.lookup .number).getD [])
  let seconds ← unitSeconds.lookup (String.ofList ((groups.lookup .unit).getD []))
  return number * seconds

/-- `_parse_duration_seconds`, unless it raises `KeyError`. -/
def parseDurationSeconds (text : List Char) : Option (Option ℤ) := do
  let amounts ← ((durationPattern u).finditer u.isWord text).mapM (amount u)
  if amounts.sum ≤ 0 then return none
  return some (Voice.roundHalfEven amounts.sum)

/-! ### Numbers and units -/

/-- The words that the pattern knows. -/
def knownWords : List String := plainWords ++ tensWords ++ ["sixty"]

def unitWords : List String := unitSeconds.map (·.1)

/-- Digits, with a fraction or without. -/
inductive IsDigits : List Char → Prop
  | whole {whole : List Char} (hne : whole ≠ []) (h : ∀ c ∈ whole, u.isDecimal c = true) :
    IsDigits whole
  | fraction {whole fraction : List Char} (hne : whole ≠ []) (h : ∀ c ∈ whole, u.isDecimal c = true)
    (hne' : fraction ≠ []) (h' : ∀ c ∈ fraction, u.isDecimal c = true) :
    IsDigits (whole ++ '.' :: fraction)

/-- What the pattern takes for a number. -/
inductive IsNumber : List Char → Prop
  | digits {text : List Char} (h : IsDigits u text) : IsNumber text
  | word {w : String} (h : w ∈ knownWords) : IsNumber w.toList
  | compound {tens ones : String} {blanks : List Char} (htens : tens ∈ tensWords)
    (hones : ones ∈ onesWords) (hne : blanks ≠ []) (h : ∀ c ∈ blanks, isPySpace c = true) :
    IsNumber (tens.toList ++ (blanks ++ ones.toList))

section members

variable {u} {isWord : Char → Bool} {behind : Bool} {cs : List Char} {e : Spot}

theorem mem_digitsPattern : e ∈ (digitsPattern u).ends isWord (behind, cs) ↔
    ∃ text, cs = text ++ e.2 ∧ IsDigits u text ∧ e.1 = behindAfter isWord behind text := by
  unfold digitsPattern
  simp only [Regex.mem_ends_seq, Prod.exists, Regex.mem_ends_opt]
  constructor
  · rintro ⟨b, rest, hwhole, hfraction⟩
    obtain ⟨whole, rfl, hne, hall, rfl⟩ := Regex.mem_ends_some.mp hwhole
    rcases hfraction with ⟨b', rest', hdot, hfraction⟩ | rfl
    · obtain ⟨rfl, rfl⟩ := Regex.mem_ends_lit.mp hdot
      obtain ⟨fraction, hrest, hne', hall', hbehind⟩ := Regex.mem_ends_some.mp hfraction
      dsimp only at hrest ⊢
      refine ⟨whole ++ '.' :: fraction, by simp [hrest], .fraction hne hall hne' hall', ?_⟩
      rw [hbehind]
      simp
    · exact ⟨whole, rfl, .whole hne hall, rfl⟩
  · obtain ⟨b, rest⟩ := e
    rintro ⟨text, rfl, hdigits, rfl⟩
    cases hdigits with
    | whole hne hall =>
      exact ⟨_, _, Regex.mem_ends_some.mpr ⟨text, rfl, hne, hall, rfl⟩, .inr rfl⟩
    | @fraction whole fraction hne hall hne' hall' =>
      refine ⟨_, '.' :: (fraction ++ rest), Regex.mem_ends_some.mpr ⟨whole, by simp, hne, hall, rfl⟩,
        .inl ⟨_, fraction ++ rest, Regex.mem_ends_lit.mpr ⟨rfl, rfl⟩,
          Regex.mem_ends_some.mpr ⟨fraction, rfl, hne', hall', ?_⟩⟩⟩
      simp

theorem mem_tensPattern {tens : String} : e ∈ (tensPattern tens).ends isWord (behind, cs) ↔
    ∃ text, cs = text ++ e.2 ∧ e.1 = behindAfter isWord behind text ∧
      (text = tens.toList ∨ ∃ blanks, ∃ ones ∈ onesWords, blanks ≠ [] ∧
        (∀ c ∈ blanks, isPySpace c = true) ∧ text = tens.toList ++ (blanks ++ ones.toList)) := by
  unfold tensPattern
  simp only [Regex.mem_ends_seq, Prod.exists, Regex.mem_ends_opt, Regex.mem_ends_oneOf,
    List.mem_map]
  constructor
  · rintro ⟨b, rest, htens, hones⟩
    obtain ⟨rfl, rfl⟩ := Regex.mem_ends_lit.mp htens
    rcases hones with ⟨b', rest', hblanks, r, ⟨ones, hmem, rfl⟩, hones⟩ | rfl
    · obtain ⟨blanks, hrest, hne, hall, rfl⟩ := Regex.mem_ends_some.mp hblanks
      obtain ⟨hrest', hbehind⟩ := Regex.mem_ends_lit.mp hones
      dsimp only at hrest hrest' ⊢
      refine ⟨tens.toList ++ (blanks ++ ones.toList), by simp [hrest, hrest'], ?_,
        .inr ⟨blanks, ones, hmem, hne, hall, rfl⟩⟩
      rw [hbehind]
      simp
    · exact ⟨tens.toList, rfl, rfl, .inl rfl⟩
  · obtain ⟨b, rest⟩ := e
    rintro ⟨text, rfl, rfl, rfl | ⟨blanks, ones, hmem, hne, hall, rfl⟩⟩
    · exact ⟨_, _, Regex.mem_ends_lit.mpr ⟨rfl, rfl⟩, .inr rfl⟩
    · refine ⟨_, blanks ++ (ones.toList ++ rest), Regex.mem_ends_lit.mpr ⟨by simp, rfl⟩,
        .inl ⟨_, ones.toList ++ rest, Regex.mem_ends_some.mpr ⟨blanks, rfl, hne, hall, rfl⟩, _,
          ⟨ones, hmem, rfl⟩, Regex.mem_ends_lit.mpr ⟨rfl, ?_⟩⟩⟩
      rw [behindAfter_append, behindAfter_append]
      rfl

/-- What the pattern of numbers takes. -/
theorem mem_numberPattern : e ∈ (numberPattern u).ends isWord (behind, cs) ↔
    ∃ text, cs = text ++ e.2 ∧ IsNumber u text ∧ e.1 = behindAfter isWord behind text := by
  unfold numberPattern
  simp only [Regex.mem_ends_oneOf, List.mem_cons, List.mem_append, List.mem_map, List.not_mem_nil,
    or_false]
  constructor
  · rintro ⟨r, rfl | (⟨w, hw, rfl⟩ | ⟨tens, htens, rfl⟩) | rfl, he⟩
    · obtain ⟨text, hcs, hdigits, hbehind⟩ := mem_digitsPattern.mp he
      exact ⟨text, hcs, .digits hdigits, hbehind⟩
    · obtain ⟨hcs, hbehind⟩ := Regex.mem_ends_lit.mp he
      exact ⟨_, hcs, .word (by simp [knownWords, hw]), hbehind⟩
    · obtain ⟨text, hcs, hbehind, rfl | ⟨blanks, ones, hones, hne, hall, rfl⟩⟩ :=
        mem_tensPattern.mp he
      · exact ⟨_, hcs, .word (by simp [knownWords, htens]), hbehind⟩
      · exact ⟨_, hcs, .compound htens hones hne hall, hbehind⟩
    · obtain ⟨hcs, hbehind⟩ := Regex.mem_ends_lit.mp he
      exact ⟨_, hcs, .word (by simp [knownWords]), hbehind⟩
  · rintro ⟨text, hcs, hnumber, hbehind⟩
    cases hnumber with
    | digits hdigits => exact ⟨_, .inl rfl, mem_digitsPattern.mpr ⟨text, hcs, hdigits, hbehind⟩⟩
    | @word w hw =>
      rcases List.mem_append.mp hw with hw | hw
      · rcases List.mem_append.mp hw with hw | hw
        · exact ⟨_, .inr (.inl (.inl ⟨w, hw, rfl⟩)), Regex.mem_ends_lit.mpr ⟨hcs, hbehind⟩⟩
        · exact ⟨_, .inr (.inl (.inr ⟨w, hw, rfl⟩)),
            mem_tensPattern.mpr ⟨_, hcs, hbehind, .inl rfl⟩⟩
      · obtain rfl := List.mem_singleton.mp hw
        exact ⟨_, .inr (.inr rfl), Regex.mem_ends_lit.mpr ⟨hcs, hbehind⟩⟩
    | @compound tens ones blanks htens hones hne hall =>
      exact ⟨_, .inr (.inl (.inr ⟨tens, htens, rfl⟩)),
        mem_tensPattern.mpr ⟨_, hcs, hbehind, .inr ⟨blanks, ones, hones, hne, hall, rfl⟩⟩⟩

theorem mem_plural {w : String} : e ∈ (plural w).ends isWord (behind, cs) ↔
    ∃ text, cs = text ++ e.2 ∧ e.1 = behindAfter isWord behind text ∧
      (text = w.toList ++ ['s'] ∨ text = w.toList) := by
  unfold plural
  simp only [Regex.mem_ends_seq, Prod.exists, Regex.mem_ends_opt]
  constructor
  · rintro ⟨b, rest, hw, hs⟩
    obtain ⟨rfl, rfl⟩ := Regex.mem_ends_lit.mp hw
    rcases hs with hs | rfl
    · obtain ⟨hrest, hbehind⟩ := Regex.mem_ends_lit.mp hs
      dsimp only at hrest ⊢
      refine ⟨w.toList ++ ['s'], by rw [hrest, List.append_assoc], ?_, .inl rfl⟩
      rw [hbehind, behindAfter_append]
    · exact ⟨w.toList, rfl, rfl, .inr rfl⟩
  · obtain ⟨b, rest⟩ := e
    rintro ⟨text, rfl, rfl, rfl | rfl⟩
    · exact ⟨_, 's' :: rest, Regex.mem_ends_lit.mpr ⟨by simp, rfl⟩,
        .inl (Regex.mem_ends_lit.mpr ⟨rfl, behindAfter_append isWord behind w.toList ['s']⟩)⟩
    · exact ⟨_, _, Regex.mem_ends_lit.mpr ⟨rfl, rfl⟩, .inr rfl⟩

/-- What the pattern of units takes. -/
theorem mem_unitPattern : e ∈ unitPattern.ends isWord (behind, cs) ↔
    ∃ x ∈ unitWords, cs = x.toList ++ e.2 ∧ e.1 = behindAfter isWord behind x.toList := by
  have hplural (w : String) (b : Bool) (cs : List Char) (e : Spot) :
      e ∈ (plural w).ends isWord (b, cs) ↔ ∃ x, (x = w ++ "s" ∨ x = w) ∧ cs = x.toList ++ e.2 ∧
        e.1 = behindAfter isWord b x.toList := by
    rw [mem_plural]
    constructor
    · rintro ⟨text, hcs, hbehind, rfl | rfl⟩
      · exact ⟨w ++ "s", .inl rfl, by simpa using hcs, by simpa using hbehind⟩
      · exact ⟨w, .inr rfl, hcs, hbehind⟩
    · rintro ⟨x, rfl | rfl, hcs, hbehind⟩
      · exact ⟨w.toList ++ ['s'], by simpa using hcs, by simpa using hbehind, .inl rfl⟩
      · exact ⟨_, hcs, hbehind, .inr rfl⟩
  unfold unitPattern
  rw [Regex.mem_ends_oneOf]
  simp only [List.mem_cons, List.not_mem_nil, or_false, exists_eq_or_imp, exists_eq_left, hplural,
    Regex.mem_ends_lit]
  have hmem (x : String) : x ∈ unitWords ↔
      (x = "hours" ∨ x = "hour") ∨ (x = "hrs" ∨ x = "hr") ∨ x = "hr" ∨ x = "h" ∨
      (x = "minutes" ∨ x = "minute") ∨ (x = "mins" ∨ x = "min") ∨ x = "min" ∨ x = "man's" ∨
      x = "mans" ∨ x = "m" ∨ (x = "seconds" ∨ x = "second") ∨ (x = "secs" ∨ x = "sec") ∨ x = "sec" ∨
      x = "s" := by
    simp only [unitWords, unitSeconds, List.map_cons, List.map_nil, List.mem_cons, List.not_mem_nil,
      or_false]
    tauto
  simp only [hmem, or_and_right, exists_or, exists_eq_left]
  rfl

/-! ### Matches -/

theorem isLower_of_mem_knownWords {w : String} (h : w ∈ knownWords) :
    w.toList ≠ [] ∧ ∀ c ∈ w.toList, c.isLower = true := by
  have hall : ∀ w ∈ knownWords, w.toList ≠ [] ∧ ∀ c ∈ w.toList, c.isLower = true := by
    simp [knownWords, plainWords, onesWords, tensWords]
  exact hall w h

theorem isWord_of_isDecimal {c : Char} (h : u.isDecimal c = true) : u.isWord c = true :=
  u.isWord_of_isDigit (u.isDecimal_isDigit c h)

/-- A number starts with a character of a word. -/
theorem IsNumber.head {n : List Char} (h : IsNumber u n) :
    ∃ c cs, n = c :: cs ∧ u.isWord c = true := by
  have hword {w : String} (hw : w ∈ knownWords) (rest : List Char) :
      ∃ c cs, w.toList ++ rest = c :: cs ∧ u.isWord c = true := by
    obtain ⟨hne, hlower⟩ := isLower_of_mem_knownWords hw
    obtain ⟨c, cs, hcs⟩ := List.exists_cons_of_ne_nil hne
    exact ⟨c, cs ++ rest, by rw [hcs]; rfl, u.isWord_lowercase (hlower c (by simp [hcs]))⟩
  cases h with
  | digits h =>
    cases h with
    | whole hne hall =>
      obtain ⟨c, cs, rfl⟩ := List.exists_cons_of_ne_nil hne
      exact ⟨c, cs, rfl, isWord_of_isDecimal (hall c (by simp))⟩
    | fraction hne hall =>
      obtain ⟨c, cs, rfl⟩ := List.exists_cons_of_ne_nil hne
      exact ⟨c, _, rfl, isWord_of_isDecimal (hall c (by simp))⟩
  | word hw =>
    obtain ⟨c, cs, hcs, hc⟩ := hword hw []
    exact ⟨c, cs, by rw [← hcs, List.append_nil], hc⟩
  | compound htens =>
    exact hword (by simp [knownWords, htens]) _

theorem isWord_of_mem_unitWords {x : String} (h : x ∈ unitWords) (behind : Bool) :
    behindAfter u.isWord behind x.toList = true := by
  have hall : ∀ x ∈ unitWords, x.toList.getLast?.any Char.isLower = true := by
    simp [unitWords, unitSeconds]
  obtain ⟨c, hc, hlower⟩ := (Option.any_eq_true ..).mp (hall x h)
  rw [behindAfter, hc, Option.map_some, Option.getD_some, u.isWord_lowercase hlower]

/-- What a match is: a number, blanks, and a unit that ends there. -/
theorem mem_durationPattern {text : List Char} {e : Captures Group × Spot} :
    e ∈ (durationPattern u).ends u.isWord (behind, text) ↔
      behind = false ∧ ∃ n blanks, ∃ x ∈ unitWords, text = n ++ (blanks ++ (x.toList ++ e.2.2)) ∧
        IsNumber u n ∧ (∀ c ∈ blanks, isPySpace c = true) ∧
        (∀ c ∈ e.2.2.head?, u.isWord c = false) ∧
        e = ([(.number, n), (.unit, x.toList)], true, e.2.2) := by
  unfold durationPattern
  constructor
  · intro h
    obtain ⟨e₁, he₁, e₂, he₂, rfl⟩ := mem_ends_seq.mp h
    obtain ⟨hnone, hbound⟩ := mem_ends_plain.mp he₁
    obtain ⟨hstart, hspot⟩ := Regex.mem_ends_bound.mp hbound
    obtain ⟨e₃, he₃, e₄, he₄, rfl⟩ := mem_ends_seq.mp he₂
    obtain ⟨groups, n, hgroups, htext, hnumber⟩ := mem_ends_group.mp he₃
    obtain ⟨e₅, he₅, e₆, he₆, rfl⟩ := mem_ends_seq.mp he₄
    obtain ⟨hnone', hblanks⟩ := mem_ends_plain.mp he₅
    obtain ⟨e₇, he₇, e₈, he₈, rfl⟩ := mem_ends_seq.mp he₆
    obtain ⟨groups', x, hgroups', hrest, hunit⟩ := mem_ends_group.mp he₇
    obtain ⟨hnone'', hend⟩ := mem_ends_plain.mp he₈
    obtain ⟨hnone₄, hnumber⟩ := mem_ends_plain.mp hnumber
    obtain ⟨hnone₅, hunit⟩ := mem_ends_plain.mp hunit
    obtain ⟨n', htext', hnumber', -⟩ := mem_numberPattern.mp hnumber
    obtain ⟨blanks, hblanks', hspaces, -⟩ := Regex.mem_ends_many.mp hblanks
    obtain ⟨x', hx', hrest', hbehind⟩ := mem_unitPattern.mp hunit
    obtain ⟨hstop, hspot'⟩ := Regex.mem_ends_bound.mp hend
    have hsame : e₁.2.2 = text := congrArg Prod.snd hspot
    rw [hsame] at htext htext'
    dsimp only at htext htext' hrest hrest' hblanks' hstop hspot' hnone₄ hnone₅
    obtain rfl : n = n' := List.append_cancel_right (htext.symm.trans htext')
    obtain rfl : x = x'.toList := List.append_cancel_right (hrest.symm.trans hrest')
    have htrue : e₇.2.1 = true := hbehind.trans (isWord_of_mem_unitWords hx' _)
    obtain ⟨c, cs, rfl, hc⟩ := hnumber'.head
    have hfalse : behind = false := by
      rw [htext] at hstart
      cases behind with
      | false => rfl
      | true => simp [hc] at hstart
    rw [hspot']
    refine ⟨hfalse, c :: cs, blanks, x', hx', by rw [htext, hblanks', hrest'], hnumber', hspaces,
      ?_, ?_⟩
    · intro d hd
      rw [htrue, Option.mem_def.mp hd] at hstop
      simpa using hstop
    · rw [hnone, hgroups, hnone₄, hnone', hgroups', hnone₅, hnone'']
      refine Prod.ext rfl (Prod.ext htrue rfl)
  · rintro ⟨rfl, n, blanks, x, hx, rfl, hnumber, hspaces, hstop, he⟩
    obtain ⟨c, cs, hcs, hc⟩ := hnumber.head
    rw [he]
    generalize e.2.2 = rest at hstop
    have hbound : ([], false, n ++ (blanks ++ (x.toList ++ rest))) ∈
        (plain .bound : Pattern Group).ends u.isWord (false, n ++ (blanks ++ (x.toList ++ rest))) :=
      mem_ends_plain.mpr ⟨rfl, Regex.mem_ends_bound.mpr ⟨by simp [hcs, hc], rfl⟩⟩
    have hend : ([], true, rest) ∈ (plain .bound : Pattern Group).ends u.isWord (true, rest) := by
      refine mem_ends_plain.mpr ⟨rfl, Regex.mem_ends_bound.mpr ⟨?_, rfl⟩⟩
      cases rest with
      | nil => rfl
      | cons d rest => simp [hstop d rfl]
    have hunit (b : Bool) : ([(.unit, x.toList)], true, rest) ∈
        (group .unit (plain unitPattern) : Pattern Group).ends u.isWord (b, x.toList ++ rest) :=
      mem_ends_group.mpr ⟨[], _, rfl, rfl, mem_ends_plain.mpr ⟨rfl, mem_unitPattern.mpr
        ⟨x, hx, rfl, (isWord_of_mem_unitWords hx b).symm⟩⟩⟩
    have hblanks (b : Bool) : ∃ b', ([], b', x.toList ++ rest) ∈
        (plain (.many isPySpace) : Pattern Group).ends u.isWord (b, blanks ++ (x.toList ++ rest)) :=
      ⟨_, mem_ends_plain.mpr ⟨rfl, Regex.mem_ends_many.mpr ⟨blanks, rfl, hspaces, rfl⟩⟩⟩
    have htail (b : Bool) : ([(.unit, x.toList)], true, rest) ∈
        (seq (plain (.many isPySpace)) (seq (group .unit (plain unitPattern)) (plain .bound)) :
          Pattern Group).ends u.isWord (b, blanks ++ (x.toList ++ rest)) := by
      obtain ⟨b', hb'⟩ := hblanks b
      exact mem_ends_seq.mpr ⟨_, hb', _, mem_ends_seq.mpr ⟨_, hunit b', _, hend, rfl⟩, rfl⟩
    have hnumber : ∃ b, ([(.number, n)], b, blanks ++ (x.toList ++ rest)) ∈
        (group .number (plain (numberPattern u)) : Pattern Group).ends u.isWord
          (false, n ++ (blanks ++ (x.toList ++ rest))) :=
      ⟨_, mem_ends_group.mpr ⟨[], n, rfl, rfl, mem_ends_plain.mpr ⟨rfl, mem_numberPattern.mpr
        ⟨n, rfl, hnumber, rfl⟩⟩⟩⟩
    obtain ⟨b, hb⟩ := hnumber
    exact mem_ends_seq.mpr ⟨_, hbound, _, mem_ends_seq.mpr ⟨_, hb, _, htail b, rfl⟩, rfl⟩

end members

end HexeVoice.Assistant.Durations
