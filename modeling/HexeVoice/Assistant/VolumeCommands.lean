import HexeVoice.Assistant.NumberWords

/-!
# Volume commands

`_extract_volume_percent`, `_extract_volume_delta`, `_parse_volume_number` and `_parse_number_words` of
`assistant/intents.py`.

## The model

The patterns are those of the source, matched by backtracking. What is meant by an utterance
is read off its words: the words of the command, and what is said after them.

## What is proved

**`acts_on_what_was_said_iff`**: what is extracted is what was said, exactly if the words after a
percentage command do not stand for a fraction below a hundred, and those after a step command are
none, or stand for a whole number other than zero.
-/

namespace HexeVoice.Assistant.VolumeCommands

open HexeVoice.Library HexeVoice.Library.Pattern HexeVoice.Assistant

/-! ### The patterns -/

inductive Group where
  | volumeText
  | direction
  | deltaText
  deriving DecidableEq

/-- `\s+`. -/
def blanks : Pattern Group := plain (.some isPySpace)

def word (w : String) : Pattern Group := plain (.lit w.toList)

/-- `(?:w\s+)?`. -/
def optWord (w : String) : Pattern Group := opt (seq (word w) blanks)

/-- `(?:\s+w)?`. -/
def optNext (w : String) : Pattern Group := opt (seq blanks (word w))

/-- `.`. -/
def notNewline (c : Char) : Bool := c != '\n'

/-- `.+?`. -/
def someText : Pattern Group := seq (plain (.one notNewline)) (.lazy notNewline)

def volumePercentPattern : Pattern Group :=
  seq (optWord "please") (seq (optWord "set") (seq (optWord "your") (seq (word "volume") (seq blanks
    (seq (optWord "to") (seq (group .volumeText someText) (seq (optNext "percent") eos)))))))

/-- `^(?:please\s+)?(?:…)$`, for the three commands without a number. -/
def turnPattern (direction : String) : Pattern Group :=
  seq (optWord "please")
    (seq (alt (seqs [word "turn", blanks, word "it", blanks, word direction])
        (alt (seqs [word "turn", blanks, word "volume", blanks, word direction])
          (seqs [word "volume", blanks, word direction])))
      eos)

def volumeStepPattern : Pattern Group :=
  seq (optWord "please")
    (seq (group .direction (plain (.oneOf
        [.lit "raise".toList, .lit "lower".toList, .lit "increase".toList, .lit "decrease".toList])))
      (seq (optNext "volume") (seq (optNext "by")
        (seq (opt (seq blanks (group .deltaText someText))) eos))))

/-! ### The functions -/

variable (u : Numerals)

/-- What joins number words: `token in {"and", "a"}`. -/
def IsFiller (token : List Char) : Prop := token = "and".toList ∨ token = "a".toList

instance (token : List Char) : Decidable (IsFiller token) := inferInstanceAs (Decidable (_ ∨ _))

/-- The loop of `_parse_number_words`. -/
def sumNumberWords (tokens : List (List Char)) : Option ℕ := do
  let counted := tokens.filter fun token => ¬ IsFiller token
  let values ← counted.mapM numberWord
  if counted = [] then none else some ⌊values.sum⌋₊

def parseNumberWords (text : List Char) : Option ℕ :=
  sumNumberWords ((Regex.some isPySpace).split u.isWord (stripChars text))

/-- `\bpercent\b`. -/
def percentWord : Regex := .seq .bound (.seq (.lit "percent".toList) .bound)

def parseVolumeNumber (text : List Char) : Except PyException (Option ℕ) :=
  let cleaned := stripChars (percentWord.sub u.isWord [] (u.lower (stripChars text)))
  if cleaned = [] then .ok none
  else if cleaned.all u.isDigit then (u.int cleaned).map some
  else .ok (parseNumberWords u cleaned)

def extractVolumePercent (text : List Char) : Except PyException (Option ℤ) :=
  match volumePercentPattern.pyMatch u.isWord text with
  | none => .ok none
  | some groups => do
    match ← parseVolumeNumber u ((groups.lookup .volumeText).getD []) with
    | none => return none
    | some value => return some (max 0 (min 100 value))

inductive Direction where
  | up
  | down
  deriving DecidableEq

/-- `delta if direction == "up" else -delta`. -/
def Direction.signed (direction : Direction) (delta : ℕ) : ℤ :=
  match direction with
  | .up => delta
  | .down => -delta

/-- `"down" if direction_text in {"lower", "decrease"} else "up"`. -/
def directionOf (text : List Char) : Direction :=
  if text = "lower".toList ∨ text = "decrease".toList then .down else .up

/-- `number or 10`. -/
def orDefaultStep : Option ℕ → ℕ
  | none | some 0 => 10
  | some delta => delta

def extractVolumeDelta (text : List Char) : Except PyException (Option (Direction × ℤ)) :=
  if ((turnPattern "up").pyMatch u.isWord text).isSome then .ok (some (.up, 10))
  else if ((turnPattern "down").pyMatch u.isWord text).isSome then .ok (some (.down, -10))
  else
    match volumeStepPattern.pyMatch u.isWord text with
    | none => .ok none
    | some groups => do
      let direction := directionOf ((groups.lookup .direction).getD [])
      let number ← parseVolumeNumber u ((groups.lookup .deltaText).getD "10".toList)
      return some (direction, direction.signed (orDefaultStep number))

/-! ### What was said -/

/-- A word that may stand in front. -/
def dropWord (w : String) (words : List (List Char)) : List (List Char) :=
  if words.head? = some w.toList then words.tail else words

/-- The words after those of a percentage command. -/
def afterPercentCommand (words : List (List Char)) : Option (List (List Char)) :=
  match dropWord "your" (dropWord "set" (dropWord "please" words)) with
  | w :: rest => if w = "volume".toList then some (dropWord "to" rest) else none
  | [] => none

def stepWords : List (List Char × Direction) :=
  [("raise".toList, .up), ("lower".toList, .down), ("increase".toList, .up),
   ("decrease".toList, .down)]

def turnCommands : List (List (List Char) × Direction) :=
  [(["turn".toList, "it".toList, "up".toList], .up),
   (["turn".toList, "volume".toList, "up".toList], .up),
   (["volume".toList, "up".toList], .up),
   (["turn".toList, "it".toList, "down".toList], .down),
   (["turn".toList, "volume".toList, "down".toList], .down),
   (["volume".toList, "down".toList], .down)]

/-- Which way a step command goes, and the words after those of the command. -/
def afterStepCommand (words : List (List Char)) : Option (Direction × List (List Char)) :=
  match dropWord "please" words with
  | [] => none
  | w :: rest =>
    match stepWords.lookup w with
    | some direction => some (direction, dropWord "by" (dropWord "volume" rest))
    | none => (turnCommands.lookup (w :: rest)).map fun direction => (direction, [])

/-- The words of a numeral in small letters, without `percent`. -/
def said (words : List (List Char)) : List (List Char) :=
  (words.map u.lower).filter (· ≠ "percent".toList)

/-- Words that are a numeral: decimal digits, or number words, which count together. -/
inductive Numeral : List (List Char) → ℚ → Prop
  | digits {w : List Char} (h : ∀ c ∈ w, u.isDecimal c = true) : Numeral [w] (u.decimal w)
  | words {ws : List (List Char)} {values : List ℚ} (hne : values ≠ [])
    (h : (ws.filter fun w => ¬ IsFiller w).map numberWord = values.map some) :
    Numeral ws values.sum

/-- A percentage that is extracted was said. -/
def PercentSaid (text : List Char) : Prop :=
  ∀ percent, extractVolumePercent u text = .ok (some percent) →
    ∃ rest value, afterPercentCommand (splitBlanks text) = some rest ∧ Numeral u (said u rest) value ∧
      (percent : ℚ) = max 0 (min 100 value)

/-- A step that is extracted was said, or nothing was and it is the default. -/
def StepSaid (text : List Char) : Prop :=
  ∀ direction delta, extractVolumeDelta u text = .ok (some (direction, delta)) →
    ∃ rest magnitude, afterStepCommand (splitBlanks text) = some (direction, rest) ∧
      delta = direction.signed magnitude ∧
      (rest = [] ∧ magnitude = 10 ∨ Numeral u (said u rest) magnitude)

/-- The pattern matches no text whose numeral is a fraction below a hundred. -/
def WholePercent (text : List Char) : Prop :=
  (volumePercentPattern.pyMatch u.isWord text).isSome →
    ∀ rest value, afterPercentCommand (splitBlanks text) = some rest → Numeral u (said u rest) value →
      value < 100 → ∃ n : ℕ, value = n

/-- A digit that is no decimal digit: `int` refuses it. -/
def RefusedDigits (ws : List (List Char)) : Prop :=
  ∃ w, ws = [w] ∧ w.all u.isDigit = true ∧ w.all u.isDecimal = false

/-- The pattern matches no text with words after the command that are not a numeral for a
whole number other than zero. -/
def WholeStep (text : List Char) : Prop :=
  (volumeStepPattern.pyMatch u.isWord text).isSome →
    ∀ direction rest, afterStepCommand (splitBlanks text) = some (direction, rest) →
      rest = [] ∨ RefusedDigits u (said u rest) ∨ ∃ n : ℕ, n ≠ 0 ∧ Numeral u (said u rest) n

/-! ### Reading a number -/

section reading

variable {u}
variable {w : List Char}

theorem isWord_percent : ∀ c ∈ "percent".toList, u.isWord c = true := by
  have h : ∀ c ∈ "percent".toList, c.isLower = true := by simp
  exact fun c hc => u.isWord_lowercase (h c hc)

theorem percentWord_bars {c : Char} (h : u.isWord c = false) : percentWord.Bars u.isWord c := by
  refine ⟨h, Regex.bars_word fun x hx => ?_, h⟩
  rw [beq_eq_false_iff_ne]
  rintro rfl
  rw [isWord_percent c hx] at h
  exact absurd h (by decide)

theorem percentWord_consumes : percentWord.Consumes u.isWord :=
  Regex.consumes_bound_seq (Regex.consumes_seq (Regex.consumes_word (by decide)))

/-- Inside of a word no match starts. -/
theorem percentWord_ends_inside (hw : ∀ c ∈ w, u.isWord c = true) (hne : w ≠ []) :
    percentWord.ends u.isWord (true, w) = [] := by
  obtain ⟨c, cs, rfl⟩ := List.exists_cons_of_ne_nil hne
  simp [percentWord, Regex.ends, hw c (List.mem_cons_self ..)]

theorem percentWord_subFrom_inside (hw : ∀ c ∈ w, u.isWord c = true) :
    percentWord.subFrom u.isWord [] 0 true w = w := by
  induction w with
  | nil => rfl
  | cons c cs ih =>
    rw [Regex.subFrom_cons, Regex.rest, percentWord_ends_inside hw (List.cons_ne_nil c cs)]
    rw [List.forall_mem_cons] at hw
    rw [hw.1]
    simpa using ih hw.2

/-- In a text that is one word only `percent` matches. -/
theorem percentWord_rest_word (hw : ∀ c ∈ w, u.isWord c = true) (hne : w ≠ []) :
    percentWord.rest u.isWord (false, w) = if w = "percent".toList then some [] else none := by
  have ht : u.isWord 't' = true := isWord_percent 't' (by decide)
  have hstart : percentWord.ends u.isWord (false, w) =
      (Regex.seq (.lit "percent".toList) .bound).ends u.isWord (false, w) := by
    obtain ⟨c, cs, rfl⟩ := List.exists_cons_of_ne_nil hne
    simp [percentWord, Regex.ends, hw c (List.mem_cons_self ..)]
  have hbound : (Regex.seq (.lit "percent".toList) .bound).ends u.isWord (false, w) =
      if w = "percent".toList then [(true, [])] else [] := by
    have hseq : (Regex.seq (.lit "percent".toList) .bound).ends u.isWord (false, w) =
        ((Regex.lit "percent".toList).ends u.isWord (false, w)).flatMap
          (Regex.bound.ends u.isWord) := rfl
    rw [hseq, Regex.ends_lit]
    by_cases hprefix : "percent".toList <+: w
    · obtain ⟨rest, rfl⟩ := hprefix
      rw [if_pos (List.prefix_append ..), List.flatMap_singleton, List.drop_left]
      cases rest with
      | nil => simp [Regex.ends, behindAfter, ht]
      | cons d rest =>
        have hd : u.isWord d = true := hw d (by simp)
        simp [Regex.ends, behindAfter, ht, hd]
    · rw [if_neg hprefix, if_neg]
      · rfl
      · rintro rfl
        exact hprefix (List.prefix_refl _)
  rw [Regex.rest, hstart, hbound]
  split <;> rfl

/-- Of a text that is one word nothing is removed, unless it is `percent`. -/
theorem percentWord_sub_word (hw : ∀ c ∈ w, u.isWord c = true) (hne : w ≠ []) :
    percentWord.sub u.isWord [] w = if w = "percent".toList then [] else w := by
  have hrest := percentWord_rest_word hw hne
  obtain ⟨c, cs, rfl⟩ := List.exists_cons_of_ne_nil hne
  rw [List.forall_mem_cons] at hw
  unfold Regex.sub
  rw [Regex.subFrom_cons, hrest, hw.1]
  by_cases hpercent : c :: cs = "percent".toList
  · rw [if_pos hpercent, if_pos hpercent]
    have hskip (text : List Char) (behind : Bool) :
        percentWord.subFrom u.isWord [] text.length behind text = [] := by
      induction text generalizing behind with
      | nil => rfl
      | cons d text ih => exact ih _
    exact hskip cs true
  · rw [if_neg hpercent, if_neg hpercent]
    dsimp only
    rw [percentWord_subFrom_inside hw.2]

/-- Of another text without blanks something is left that no numeral has. -/
theorem percentWord_sub_other {c : Char} (hc : c ∈ w) (hword : u.isWord c = false)
    (hw : ∀ c ∈ w, isPySpace c = false) :
    c ∈ percentWord.sub u.isWord [] w ∧
      splitBlanks (percentWord.sub u.isWord [] w) = [percentWord.sub u.isWord [] w] := by
  have hmem : c ∈ percentWord.sub u.isWord [] w := by
    obtain ⟨xs, ys, rfl⟩ := List.append_of_mem hc
    rw [Regex.sub_bar (percentWord_bars hword) percentWord_consumes hword]
    simp
  refine ⟨hmem, ?_⟩
  rw [splitBlanks_of_no_blank, List.filter_cons_of_pos (by simpa using List.ne_nil_of_mem hmem)]
  · rfl
  · intro d hd
    exact hw d ((Regex.mem_subFrom 0 false w hd).resolve_left (by simp))

/-- What `_parse_volume_number` makes of the words of a number. -/
def readWords (u : Numerals) : List (List Char) → Except PyException (Option ℕ)
  | [] => .ok none
  | [w] => if w.all u.isDigit then (u.int w).map some else .ok (sumNumberWords [w])
  | ws => .ok (sumNumberWords ws)

theorem mapM_eq_some {α β : Type*} {f : α → Option β} {l : List α} {values : List β} :
    l.mapM f = some values ↔ l.map f = values.map some := by
  induction l generalizing values with
  | nil => cases values <;> simp
  | cons a l ih =>
    cases values with
    | nil => simp [List.mapM_cons, Option.bind_eq_some_iff]
    | cons b values =>
      rw [List.mapM_cons, List.map_cons, List.map_cons, List.cons.injEq, ← ih]
      cases f a <;> cases l.mapM f <;> simp

theorem isWord_of_numberWord (h : (numberWord w).isSome) :
    w ≠ [] ∧ ∀ c ∈ w, c.isLower = true := by
  obtain ⟨value, hvalue⟩ := Option.isSome_iff_exists.mp h
  have hmem : (String.ofList w, value) ∈ numberWords := by
    obtain ⟨before, after, hsplit, -⟩ := List.lookup_eq_some_iff.mp hvalue
    rw [hsplit]
    simp
  have hall : ∀ pair ∈ numberWords, pair.1.toList ≠ [] ∧ ∀ c ∈ pair.1.toList, c.isLower = true := by
    simp [numberWords]
  simpa using hall _ hmem

/-- A token with a character that is not of a word is no numeral. -/
theorem sumNumberWords_other {ws : List (List Char)} {c : Char} (hw : w ∈ ws)
    (hc : c ∈ w) (hword : u.isWord c = false) : sumNumberWords ws = none := by
  have hlower {v : List Char} (hv : ∀ c ∈ v, c.isLower = true) : w ≠ v := by
    rintro rfl
    rw [u.isWord_lowercase (hv c hc)] at hword
    exact absurd hword (by decide)
  have hfiller : ¬ IsFiller w := by
    rintro (h | h)
    · exact hlower (by simp) h
    · exact hlower (by simp) h
  cases hsum : sumNumberWords ws with
  | none => rfl
  | some n =>
    obtain ⟨values, hvalues, -⟩ := Option.bind_eq_some_iff.mp hsum
    rw [mapM_eq_some] at hvalues
    have hmem : numberWord w ∈ values.map some := by
      rw [← hvalues]
      exact List.mem_map_of_mem (List.mem_filter.mpr ⟨hw, by simpa using hfiller⟩)
    obtain ⟨value, -, hvalue⟩ := List.mem_map.mp hmem
    exact absurd rfl (hlower (isWord_of_numberWord (by rw [← hvalue]; rfl)).2)

theorem readWords_other {ws : List (List Char)} {c : Char} (hw : w ∈ ws)
    (hc : c ∈ w) (hword : u.isWord c = false) : readWords u ws = .ok none := by
  have hsum := sumNumberWords_other hw hc hword
  match ws, hw with
  | [v], hw =>
    obtain rfl := List.mem_singleton.mp hw
    have hdigit : w.all u.isDigit = false := by
      rw [List.all_eq_false]
      refine ⟨c, hc, fun h => ?_⟩
      rw [u.isWord_of_isDigit h] at hword
      exact absurd hword (by decide)
    simp [readWords, hdigit, hsum]
  | _ :: _ :: _, _ => simp [readWords, hsum]

/-- What is parsed, of the words after `percent` is removed. -/
theorem parse_cleaned {cleaned : List Char} (hstrip : stripChars cleaned = cleaned) :
    (if cleaned = [] then .ok none
      else if cleaned.all u.isDigit then (u.int cleaned).map some
      else .ok (parseNumberWords u cleaned)) = readWords u (splitBlanks cleaned) := by
  by_cases hnil : cleaned = []
  · subst hnil
    rfl
  rw [if_neg hnil]
  by_cases hdigit : cleaned.all u.isDigit = true
  · have hone : splitBlanks cleaned = [cleaned] := by
      rw [splitBlanks_of_no_blank]
      · simp [hnil]
      · intro c hc
        exact u.isPySpace_of_isWord (u.isWord_of_isDigit (List.all_eq_true.mp hdigit c hc))
    rw [if_pos hdigit, hone, readWords, if_pos hdigit]
  · rw [if_neg hdigit, parseNumberWords, hstrip, split_blanks hnil hstrip]
    match h : splitBlanks cleaned with
    | [] =>
      have hne := (ends_of_strip cleaned hstrip hnil).1
      exact absurd h (exists_word ⟨_, List.head_mem hnil, hne⟩)
    | [w] =>
      obtain rfl := eq_of_splitBlanks_singleton hstrip h
      rw [readWords, if_neg hdigit]
    | _ :: _ :: _ => rfl

/-- **What is parsed** is what the words stand for, in small letters and without `percent`. -/
theorem parseVolumeNumber_eq (text : List Char) :
    parseVolumeNumber u text = readWords u (said u (splitBlanks text)) := by
  have hsubnil : percentWord.sub u.isWord [] [] = [] := rfl
  have hparts : ∀ c, isPySpace c = true →
      PartsAt (fun text => splitBlanks (percentWord.sub u.isWord [] text)) c := by
    intro c hc xs ys
    have hword := u.isWord_space hc
    dsimp only
    rw [Regex.sub_bar (percentWord_bars hword) percentWord_consumes hword, splitBlanks_partsAt hc]
  have hwords : splitBlanks (stripChars (percentWord.sub u.isWord [] (u.lower (stripChars text)))) =
      ((splitBlanks text).map u.lower).flatMap fun w =>
        splitBlanks (percentWord.sub u.isWord [] w) := by
    rw [parts_stripChars rfl fun c hc => splitBlanks_partsAt hc,
      parts_splitBlanks (f := fun text => splitBlanks (percentWord.sub u.isWord [] text)) rfl hparts,
      u.splitBlanks_lower, parts_stripChars rfl fun c hc => splitBlanks_partsAt hc]
  have hlowered : ∀ w ∈ (splitBlanks text).map u.lower, w ≠ [] ∧ ∀ c ∈ w, isPySpace c = false := by
    intro w hw
    obtain ⟨v, hv, rfl⟩ := List.mem_map.mp hw
    exact u.lower_word v (mem_splitBlanks hv).1 (mem_splitBlanks hv).2
  unfold parseVolumeNumber
  rw [parse_cleaned (stripChars_idempotent _), hwords]
  unfold said
  generalize (splitBlanks text).map u.lower = words at hlowered
  by_cases hother : ∃ w ∈ words, ∃ c ∈ w, u.isWord c = false
  · -- a word that is no numeral stays one
    obtain ⟨w, hw, c, hc, hword⟩ := hother
    have hsub := percentWord_sub_other hc hword (hlowered w hw).2
    have hpercent : w ≠ "percent".toList := by
      rintro rfl
      rw [isWord_percent c hc] at hword
      exact absurd hword (by decide)
    rw [readWords_other (List.mem_flatMap.mpr ⟨w, hw, hsub.2 ▸ List.mem_singleton_self _⟩) hsub.1 hword,
      readWords_other (List.mem_filter.mpr ⟨hw, decide_eq_true hpercent⟩) hc hword]
  · simp only [not_exists, not_and, Bool.not_eq_false] at hother
    congr 1
    induction words with
    | nil => rfl
    | cons w words ih =>
      rw [List.forall_mem_cons] at hlowered hother
      have hone : splitBlanks w = [w] := by
        rw [splitBlanks_of_no_blank hlowered.1.2]
        simp [hlowered.1.1]
      rw [List.flatMap_cons, ih hlowered.2 hother.2, percentWord_sub_word hother.1 hlowered.1.1]
      by_cases hpercent : w = "percent".toList
      · rw [if_pos hpercent, List.filter_cons_of_neg (by rwa [decide_eq_true_eq, not_not])]
        rfl
      · rw [if_neg hpercent, List.filter_cons_of_pos (by rwa [decide_eq_true_eq]), hone]
        rfl

theorem not_isDigit_of_lower (hne : w ≠ []) (hlower : ∀ c ∈ w, c.isLower = true) :
    w.all u.isDigit = false := by
  obtain ⟨c, cs, rfl⟩ := List.exists_cons_of_ne_nil hne
  have hc := hlower c (List.mem_cons_self ..)
  have hdigit : u.isDigit c = false := by
    have hcode : 97 ≤ c.toNat ∧ c.toNat ≤ 122 := by
      simpa [Char.isLower, UInt32.le_iff_toNat_le, ← Char.toNat_val] using hc
    rw [u.isDigit_ascii c (by omega)]
    simp only [Char.isDigit, UInt32.le_iff_toNat_le, Bool.and_eq_false_iff, decide_eq_false_iff_not,
      ge_iff_le]
    right
    have hnine : '9'.val.toNat = 57 := rfl
    have : c.toNat = c.val.toNat := rfl
    omega
  rw [List.all_cons, hdigit, Bool.false_and]

theorem not_isDigit_of_numberWord (h : (numberWord w).isSome) :
    w.all u.isDigit = false :=
  not_isDigit_of_lower (isWord_of_numberWord h).1 (isWord_of_numberWord h).2

theorem int_of_isDecimal (h : ∀ c ∈ w, u.isDecimal c = true) :
    w.all u.isDigit = true ∧ u.int w = .ok (u.decimal w) := by
  refine ⟨List.all_eq_true.mpr fun c hc => u.isDecimal_isDigit c (h c hc), ?_⟩
  rw [Numerals.int, if_pos (List.all_eq_true.mpr h)]

theorem sumNumberWords_eq_some {ws : List (List Char)} {n : ℕ} :
    sumNumberWords ws = some n ↔ ∃ values : List ℚ, values ≠ [] ∧
      (ws.filter fun w => ¬ IsFiller w).map numberWord = values.map some ∧ n = ⌊values.sum⌋₊ := by
  unfold sumNumberWords
  dsimp only
  rw [Option.bind_eq_bind, Option.bind_eq_some_iff]
  have hnil {values : List ℚ}
      (h : (ws.filter fun w => ¬ IsFiller w).map numberWord = values.map some) :
      (ws.filter fun w => ¬ IsFiller w) = [] ↔ values = [] := by
    have := congrArg List.length h
    rw [List.length_map, List.length_map] at this
    rw [← List.length_eq_zero_iff, this, List.length_eq_zero_iff]
  constructor
  · rintro ⟨values, hvalues, hn⟩
    rw [mapM_eq_some] at hvalues
    by_cases hvalues' : values = []
    · rw [if_pos ((hnil hvalues).mpr hvalues')] at hn
      exact absurd hn (by simp)
    · rw [if_neg (mt (hnil hvalues).mp hvalues'), Option.some.injEq] at hn
      exact ⟨values, hvalues', hvalues, hn.symm⟩
  · rintro ⟨values, hne, hvalues, rfl⟩
    refine ⟨values, mapM_eq_some.mpr hvalues, ?_⟩
    rw [if_neg (mt (hnil hvalues).mp hne)]

/-- A number that is counted in words is none of digits. -/
theorem not_isDigit_of_sum {n : ℕ} (h : sumNumberWords [w] = some n) :
    w.all u.isDigit = false := by
  obtain ⟨values, hne, hvalues, -⟩ := sumNumberWords_eq_some.mp h
  by_cases hfiller : IsFiller w
  · rw [List.filter_cons_of_neg (by simpa using hfiller)] at hvalues
    cases values with
    | nil => exact absurd rfl hne
    | cons value values => simp at hvalues
  · rw [List.filter_cons_of_pos (by simpa using hfiller)] at hvalues
    cases values with
    | nil => exact absurd rfl hne
    | cons value values =>
      apply not_isDigit_of_numberWord
      simp only [List.map_cons, List.cons.injEq] at hvalues
      rw [hvalues.1]
      rfl

theorem readWords_of_sum {ws : List (List Char)} {n : ℕ} (h : sumNumberWords ws = some n) :
    readWords u ws = .ok (some n) := by
  match ws with
  | [] => simp [sumNumberWords] at h
  | [w] =>
    rw [readWords, not_isDigit_of_sum h, h]
    rfl
  | _ :: _ :: _ => exact congrArg Except.ok h

/-- A numeral is read as it stands, without a fraction. -/
theorem readWords_of_numeral {ws : List (List Char)} {value : ℚ} (h : Numeral u ws value) :
    readWords u ws = .ok (some ⌊value⌋₊) := by
  cases h with
  | @digits w h =>
    obtain ⟨hall, hint⟩ := int_of_isDecimal h
    rw [readWords, if_pos hall, hint, Nat.floor_natCast]
    rfl
  | words hne h => exact readWords_of_sum (sumNumberWords_eq_some.mpr ⟨_, hne, h, rfl⟩)

/-- What is read is a numeral. -/
theorem numeral_of_readWords {ws : List (List Char)} {n : ℕ}
    (h : readWords u ws = .ok (some n)) : ∃ value, Numeral u ws value ∧ n = ⌊value⌋₊ := by
  have hsum (h : sumNumberWords ws = some n) : ∃ value, Numeral u ws value ∧ n = ⌊value⌋₊ := by
    obtain ⟨values, hne, hvalues, hn⟩ := sumNumberWords_eq_some.mp h
    exact ⟨values.sum, .words hne hvalues, hn⟩
  match ws, hsum with
  | [], _ => simp [readWords] at h
  | [w], hsum =>
    rw [readWords] at h
    split at h
    · next hall =>
      unfold Numerals.int at h
      split at h
      · next hdecimal =>
        refine ⟨u.decimal w, .digits (List.all_eq_true.mp hdecimal), ?_⟩
        rw [Nat.floor_natCast]
        cases h
        rfl
      · cases h
    · exact hsum (by simpa using h)
  | _ :: _ :: _, hsum => exact hsum (by simpa [readWords] using h)

/-- Digits that `int` refuses. -/
theorem readWords_error_iff {ws : List (List Char)} :
    (∃ e, readWords u ws = .error e) ↔ RefusedDigits u ws := by
  unfold RefusedDigits
  constructor
  · rintro ⟨e, h⟩
    match ws with
    | [] => simp [readWords] at h
    | [w] =>
      rw [readWords] at h
      split at h
      · next hall =>
        refine ⟨w, rfl, hall, ?_⟩
        unfold Numerals.int at h
        split at h
        · cases h
        · next hdecimal => simpa using hdecimal
      · cases h
    | _ :: _ :: _ => simp [readWords] at h
  · rintro ⟨w, rfl, hall, hdecimal⟩
    refine ⟨.valueError, ?_⟩
    rw [readWords, if_pos hall, Numerals.int, if_neg (by simp [hdecimal])]
    rfl

/-- Words are a numeral for one value. -/
theorem Numeral.unique {ws : List (List Char)} {value value' : ℚ} (h : Numeral u ws value)
    (h' : Numeral u ws value') : value = value' := by
  have hmixed {w : List Char} {values : List ℚ} (hw : ∀ c ∈ w, u.isDecimal c = true)
      (hne : values ≠ [])
      (hvalues : ([w].filter fun w => ¬ IsFiller w).map numberWord = values.map some) : False := by
    have hdigit := not_isDigit_of_sum (u := u) (sumNumberWords_eq_some.mpr ⟨values, hne, hvalues, rfl⟩)
    rw [(int_of_isDecimal hw).1] at hdigit
    exact absurd hdigit (by decide)
  cases h with
  | digits hw =>
    cases h' with
    | digits hw' => rfl
    | words hne hvalues => exact (hmixed hw hne hvalues).elim
  | words hne hvalues =>
    cases h' with
    | digits hw => exact (hmixed hw hne hvalues).elim
    | words hne' hvalues' =>
      rw [hvalues] at hvalues'
      rw [List.map_injective_iff.mpr (Option.some_injective ℚ) hvalues']

end reading

/-! ### The parts of the patterns -/

section parts

variable {isWord : Char → Bool} {spot : Spot} {e : Captures Group × Spot}
variable {behind : Bool} {text : List Char} {w : String}

/-- A word as it stands in the patterns. -/
structure Plain (w : String) : Prop where
  ne_nil : w.toList ≠ []
  no_blank : ∀ c ∈ w.toList, isPySpace c = false

theorem Plain.of_lower (hne : w.toList ≠ []) (h : ∀ c ∈ w.toList, c.isLower = true) :
    Plain w :=
  ⟨hne, fun c hc => Numerals.ascii.isPySpace_of_isWord (Numerals.ascii.isWord_lowercase (h c hc))⟩

/-- What `$` stands before. -/
def Ended (text : List Char) : Prop := text = [] ∨ text = ['\n']

theorem Ended.blank (h : Ended text) : ∀ c ∈ text, isPySpace c = true := by
  rcases h with rfl | rfl
  · simp
  · simp only [List.mem_singleton, forall_eq]
    decide

theorem mem_word (h : e ∈ (word w).ends isWord spot) :
    e.1 = [] ∧ spot.2 = w.toList ++ e.2.2 := by
  obtain ⟨hgroups, he⟩ := mem_ends_plain.mp h
  exact ⟨hgroups, (Regex.mem_ends_lit.mp he).1⟩

theorem mem_blanks (h : e ∈ blanks.ends isWord spot) :
    e.1 = [] ∧ ∃ read, read ≠ [] ∧ (∀ c ∈ read, isPySpace c = true) ∧ spot.2 = read ++ e.2.2 := by
  obtain ⟨hgroups, he⟩ := mem_ends_plain.mp h
  obtain ⟨read, heq, hne, hread, -⟩ := Regex.mem_ends_some.mp he
  exact ⟨hgroups, read, hne, hread, heq⟩

variable (isWord) in
theorem exists_word_ends (w : String) (behind : Bool) (rest : List Char) :
    ∃ b, ([], b, rest) ∈ (word w).ends isWord (behind, w.toList ++ rest) :=
  ⟨_, mem_ends_plain.mpr ⟨rfl, Regex.mem_ends_lit.mpr ⟨rfl, rfl⟩⟩⟩

variable (isWord) in
theorem exists_blanks_ends {read : List Char} (hne : read ≠ [])
    (hread : ∀ c ∈ read, isPySpace c = true) (behind : Bool) (rest : List Char) :
    ∃ b, ([], b, rest) ∈ blanks.ends isWord (behind, read ++ rest) :=
  ⟨_, mem_ends_plain.mpr ⟨rfl, Regex.mem_ends_some.mpr ⟨read, rfl, hne, hread, rfl⟩⟩⟩

/-- A word and blanks after it, which are both there or both left out. -/
theorem mem_word_blanks (h : e ∈ (seq (word w) blanks).ends isWord spot) :
    e.1 = [] ∧ ∃ read, read ≠ [] ∧ (∀ c ∈ read, isPySpace c = true) ∧
      spot.2 = w.toList ++ (read ++ e.2.2) := by
  obtain ⟨e', he', e'', he'', rfl⟩ := mem_ends_seq.mp h
  obtain ⟨hgroups, hword⟩ := mem_word he'
  obtain ⟨hgroups', read, hne, hread, hrest⟩ := mem_blanks he''
  exact ⟨by rw [hgroups, hgroups']; rfl, read, hne, hread, by rw [hword, hrest]⟩

theorem mem_blanks_word (h : e ∈ (seq blanks (word w)).ends isWord spot) :
    e.1 = [] ∧ ∃ read, read ≠ [] ∧ (∀ c ∈ read, isPySpace c = true) ∧
      spot.2 = read ++ (w.toList ++ e.2.2) := by
  obtain ⟨e', he', e'', he'', rfl⟩ := mem_ends_seq.mp h
  obtain ⟨hgroups, read, hne, hread, hrest⟩ := mem_blanks he'
  obtain ⟨hgroups', hword⟩ := mem_word he''
  exact ⟨by rw [hgroups, hgroups']; rfl, read, hne, hread, by rw [hrest, hword]⟩

theorem mem_someText (h : e ∈ someText.ends isWord spot) :
    e.1 = [] ∧ ∃ read, read ≠ [] ∧ '\n' ∉ read ∧ spot.2 = read ++ e.2.2 := by
  obtain ⟨e', he', e'', he'', rfl⟩ := mem_ends_seq.mp h
  obtain ⟨hgroups, hone⟩ := mem_ends_plain.mp he'
  obtain ⟨behind, cs⟩ := spot
  obtain ⟨hgroups', read, hread, hlines, -⟩ := mem_ends_lazy.mp he''
  cases cs with
  | nil => simp [Regex.ends] at hone
  | cons c cs =>
    simp only [Regex.ends] at hone
    split at hone
    · next hc =>
      rw [List.mem_singleton] at hone
      refine ⟨by rw [hgroups, hgroups']; rfl, c :: read, by simp, ?_, ?_⟩
      · simp only [List.mem_cons, not_or]
        refine ⟨fun h => ?_, fun hmem => ?_⟩
        · subst h
          exact absurd hc (by decide)
        · exact absurd (hlines _ hmem) (by decide)
      · have hcs : e'.2.2 = cs := congrArg Prod.snd hone
        rw [← hcs, hread]
        rfl
    · simp at hone

variable (isWord) in
theorem exists_someText_ends {read : List Char} (hne : read ≠ []) (hread : '\n' ∉ read)
    (behind : Bool) (rest : List Char) :
    ∃ b, ([], b, rest) ∈ someText.ends isWord (behind, read ++ rest) := by
  obtain ⟨c, cs, rfl⟩ := List.exists_cons_of_ne_nil hne
  have hline {d : Char} (hd : d ∈ c :: cs) : notNewline d = true := by
    unfold notNewline
    rw [bne_iff_ne]
    rintro rfl
    exact hread hd
  refine ⟨_, mem_ends_seq.mpr ⟨([], isWord c, cs ++ rest), mem_ends_plain.mpr ⟨rfl, ?_⟩, ([], _, rest),
    mem_ends_lazy.mpr ⟨rfl, cs, rfl, fun d hd => hline (List.mem_cons_of_mem c hd), rfl⟩, rfl⟩⟩
  simp [Regex.ends, hline (List.mem_cons_self ..)]

theorem mem_eos_ends (h : Ended text) :
    ([], behind, text) ∈ (eos : Pattern Group).ends isWord (behind, text) :=
  mem_ends_eos.mpr ⟨h, rfl⟩

/-- Nothing may follow but the end, or a blank and more, with the end of the line at the end. -/
def Continues (rest : List Char) : Prop :=
  Ended rest ∨ ∃ blank read ended, isPySpace blank = true ∧ read ≠ [] ∧ '\n' ∉ read ∧ Ended ended ∧
    rest = blank :: (read ++ ended)

/-- What a pattern needs to go on at a word's end: what is there continues. -/
def GoesOn (isWord : Char → Bool) (r : Pattern Group) : Prop :=
  ∀ behind rest, Continues rest → r.ends isWord (behind, rest) ≠ []

theorem GoesOn.opt_seq {r s : Pattern Group} (hs : GoesOn isWord s) :
    GoesOn isWord (seq (opt r) s) := by
  intro behind rest h hnil
  obtain ⟨e, he⟩ := List.exists_mem_of_ne_nil _ (hs behind rest h)
  have : ([] ++ e.1, e.2) ∈ (seq (opt r) s).ends isWord (behind, rest) :=
    mem_ends_seq.mpr ⟨([], behind, rest), mem_ends_opt.mpr (.inr rfl), e, he, rfl⟩
  rw [hnil] at this
  exact absurd this (by simp)

/-- Blanks, and text up to the end of the line. -/
def Line (text : List Char) : Prop :=
  ∃ read line ended, (∀ c ∈ read, isPySpace c = true) ∧ '\n' ∉ line ∧ Ended ended ∧
    text = read ++ (line ++ ended)

/-- If a word that could be read is left out, nothing follows it. -/
theorem nil_of_skipped {r : Pattern Group}
    {words : List (List Char)} (hr : GoesOn isWord r) (htext : Line text)
    (hwords : splitBlanks text = w.toList :: words) (hends : WordEnds text)
    (hskipped : ∀ e' ∈ (seq blanks (word w)).ends isWord (behind, text), r.ends isWord e'.2 = []) :
    words = [] := by
  obtain ⟨read, line, ended, hblank, hline, hended, rfl⟩ := htext
  rw [splitBlanks_blanks hblank, splitBlanks_append_blanks hended.blank] at hwords
  obtain ⟨before, after, rfl, hbefore, hafter, rfl⟩ := exists_of_splitBlanks_cons hwords
  by_contra hne
  have hcontinues : Continues (after ++ ended) := by
    cases after with
    | nil => exact absurd rfl hne
    | cons blank after =>
      have hspace := hafter blank rfl
      refine .inr ⟨blank, after, ended, hspace, ?_, ?_, hended, rfl⟩
      · rintro rfl
        exact hne (splitBlanks_of_blanks (by simpa using hspace))
      · intro hmem
        exact hline (by simp [hmem])
  have hstart : read ++ before ≠ [] := by
    intro hnil
    obtain ⟨rfl, rfl⟩ := List.append_eq_nil_iff.mp hnil
    have hmem : w.toList ∈ splitBlanks ([] ++ w.toList ++ after) := by
      rw [hwords]
      exact List.mem_cons_self ..
    have hword := mem_splitBlanks hmem
    obtain ⟨d, ds, hd⟩ := List.exists_cons_of_ne_nil hword.1
    have hdspace := hword.2 d (by rw [hd]; exact List.mem_cons_self ..)
    have hspace := hends d (by simp [hd])
    rw [hdspace] at hspace
    exact absurd hspace (by decide)
  have hspaces : ∀ c ∈ read ++ before, isPySpace c = true := by
    intro c hc
    exact (List.mem_append.mp hc).elim (hblank c) (hbefore c)
  obtain ⟨b, hb⟩ := exists_blanks_ends isWord hstart hspaces behind
    (w.toList ++ (after ++ ended))
  obtain ⟨b', hb'⟩ := exists_word_ends isWord w b (after ++ ended)
  have hmem : ([], b', after ++ ended) ∈ (seq blanks (word w)).ends isWord
      (behind, read ++ (before ++ w.toList ++ after ++ ended)) := by
    have htext : read ++ (before ++ w.toList ++ after ++ ended) =
        read ++ before ++ (w.toList ++ (after ++ ended)) := by simp only [List.append_assoc]
    rw [htext]
    exact mem_ends_seq.mpr ⟨_, hb, _, hb', rfl⟩
  exact hr b' _ hcontinues (hskipped _ hmem)

/-! ### The end of a step command -/

def deltaPart : Pattern Group := seq (opt (seq blanks (group .deltaText someText))) eos

def byPart : Pattern Group := seq (optNext "by") deltaPart

def volumePart : Pattern Group := seq (optNext "volume") byPart

/-- The words of the number. -/
def deltaWords (groups : Captures Group) : List (List Char) :=
  ((groups.lookup .deltaText).map splitBlanks).getD []

theorem deltaPart_goesOn : GoesOn isWord deltaPart := by
  rintro behind rest (h | ⟨blank, read, ended, hspace, hne, hline, hended, rfl⟩) hnil
  · have : ([], behind, rest) ∈ deltaPart.ends isWord (behind, rest) :=
      mem_ends_seq.mpr ⟨_, mem_ends_opt.mpr (.inr rfl), _, mem_eos_ends h, rfl⟩
    rw [hnil] at this
    exact absurd this (by simp)
  · obtain ⟨b, hb⟩ := exists_blanks_ends isWord (List.cons_ne_nil blank []) (by simpa using hspace)
      behind (read ++ ended)
    obtain ⟨b', hb'⟩ := exists_someText_ends isWord hne hline b ended
    have hgroup : ([(.deltaText, read)], b', ended) ∈
        (group .deltaText someText).ends isWord (b, read ++ ended) :=
      mem_ends_group.mpr ⟨[], read, rfl, rfl, hb'⟩
    have : ([(.deltaText, read)], b', ended) ∈
        deltaPart.ends isWord (behind, blank :: (read ++ ended)) :=
      mem_ends_seq.mpr ⟨_, mem_ends_opt.mpr (.inl (mem_ends_seq.mpr ⟨_, hb, _, hgroup, rfl⟩)), _,
        mem_eos_ends hended, rfl⟩
    rw [hnil] at this
    exact absurd this (by simp)

theorem byPart_goesOn : GoesOn isWord byPart := deltaPart_goesOn.opt_seq

/-- The number is all that follows. -/
theorem deltaPart_reads
    (h : e ∈ deltaPart.ends isWord (behind, text)) :
    WordEnds text ∧ Line text ∧ deltaWords e.1 = splitBlanks text ∧
      e.1.lookup .direction = none := by
  obtain ⟨e', he', e'', he'', rfl⟩ := mem_ends_seq.mp h
  obtain ⟨(hended : Ended e'.2.2), rfl⟩ := mem_ends_eos.mp he''
  rcases mem_ends_opt.mp he' with htaken | rfl
  · obtain ⟨e₁, he₁, e₂, he₂, rfl⟩ := mem_ends_seq.mp htaken
    obtain ⟨hgroups, read, hne, hread, htext⟩ := mem_blanks he₁
    obtain ⟨groups, line, hcaptured, hline, hsome⟩ := mem_ends_group.mp he₂
    obtain ⟨hnone, line', hne', hlines, hline'⟩ := mem_someText hsome
    dsimp only at hnone hline' htext hended hcaptured
    have hsame : line = line' := by
      rw [hline] at hline'
      exact List.append_cancel_right hline'
    subst hsame
    rw [hgroups, hcaptured, hnone, htext, hline]
    refine ⟨wordEnds_blanks hne hread, ⟨read, line, _, hread, hlines, hended, rfl⟩, ?_, rfl⟩
    · rw [splitBlanks_blanks hread, splitBlanks_append_blanks hended.blank]
      rfl
  · refine ⟨?_, ⟨[], [], text, by simp, by simp, hended, rfl⟩, ?_, rfl⟩
    · intro c hc
      exact hended.blank c (List.mem_of_mem_head? hc)
    · exact (splitBlanks_of_blanks hended.blank).symm

theorem dropWord_cons (w : String) (words : List (List Char)) :
    dropWord w (w.toList :: words) = words := by
  simp [dropWord]

theorem dropWord_of_ne {words : List (List Char)} (h : words.head? ≠ some w.toList) :
    dropWord w words = words := if_neg h

/-- A word that is read is the first. -/
theorem words_of_taken (hw : Plain w) (h : e ∈ (seq blanks (word w)).ends isWord spot)
    (hends : WordEnds e.2.2) :
    e.1 = [] ∧ WordEnds spot.2 ∧ splitBlanks spot.2 = w.toList :: splitBlanks e.2.2 := by
  obtain ⟨hgroups, read, hne, hread, htext⟩ := mem_blanks_word h
  refine ⟨hgroups, ?_, ?_⟩
  · rw [htext]
    exact wordEnds_blanks hne hread
  · rw [htext, splitBlanks_blanks hread, splitBlanks_word hw.ne_nil hw.no_blank hends]

/-- The number is what follows `by`, unless nothing does. -/
theorem byPart_first
    (h : byPart.first isWord (behind, text) = some e) :
    WordEnds text ∧ e.1.lookup .direction = none ∧
      (deltaWords e.1 = dropWord "by" (splitBlanks text) ∨
        dropWord "by" (splitBlanks text) = [] ∧ deltaWords e.1 = ["by".toList]) ∧
      ((splitBlanks text).head? ≠ some "by".toList →
        Line text ∧ deltaWords e.1 = splitBlanks text) := by
  rcases first_opt_seq h with ⟨e', he', e'', he'', rfl⟩ | ⟨hskipped, hfirst⟩
  · obtain ⟨hends, -, hdelta, hdirection⟩ := deltaPart_reads (mem_ends_of_first he'')
    obtain ⟨hgroups, hends', hwords⟩ := words_of_taken (.of_lower (by simp) (by simp)) he' hends
    dsimp only at hends' hwords
    rw [hgroups, List.nil_append, hwords, dropWord_cons]
    exact ⟨hends', hdirection, .inl hdelta, fun hhead => absurd rfl hhead⟩
  · obtain ⟨hends, hline, hdelta, hdirection⟩ := deltaPart_reads (mem_ends_of_first hfirst)
    refine ⟨hends, hdirection, ?_, fun _ => ⟨hline, hdelta⟩⟩
    by_cases hhead : (splitBlanks text).head? = some "by".toList
    · obtain ⟨words, hwords⟩ : ∃ words, splitBlanks text = "by".toList :: words := by
        cases hsplit : splitBlanks text with
        | nil => simp [hsplit] at hhead
        | cons w words => exact ⟨words, by simpa [hsplit] using hhead⟩
      obtain rfl := nil_of_skipped deltaPart_goesOn hline hwords hends hskipped
      right
      rw [hdelta, hwords, dropWord_cons]
      exact ⟨rfl, rfl⟩
    · rw [dropWord_of_ne hhead]
      exact .inl hdelta

/-- The number is what follows the words of the command, unless nothing does. -/
theorem volumePart_first
    (h : volumePart.first isWord (behind, text) = some e) :
    WordEnds text ∧ e.1.lookup .direction = none ∧
      (deltaWords e.1 = dropWord "by" (dropWord "volume" (splitBlanks text)) ∨
        dropWord "by" (dropWord "volume" (splitBlanks text)) = [] ∧
          (deltaWords e.1 = ["by".toList] ∨ deltaWords e.1 = ["volume".toList])) := by
  rcases first_opt_seq h with ⟨e', he', e'', he'', rfl⟩ | ⟨hskipped, hfirst⟩
  · obtain ⟨hends, hdirection, hdelta, -⟩ := byPart_first he''
    obtain ⟨hgroups, hends', hwords⟩ := words_of_taken (.of_lower (by simp) (by simp)) he' hends
    dsimp only at hends' hwords
    rw [hgroups, List.nil_append, hwords, dropWord_cons]
    exact ⟨hends', hdirection, hdelta.imp_right fun h => ⟨h.1, .inl h.2⟩⟩
  · obtain ⟨hends, hdirection, hdelta, hother⟩ := byPart_first hfirst
    refine ⟨hends, hdirection, ?_⟩
    by_cases hhead : (splitBlanks text).head? = some "volume".toList
    · obtain ⟨words, hwords⟩ : ∃ words, splitBlanks text = "volume".toList :: words := by
        cases hsplit : splitBlanks text with
        | nil => simp [hsplit] at hhead
        | cons w words => exact ⟨words, by simpa [hsplit] using hhead⟩
      obtain ⟨hline, hsame⟩ := hother (by rw [hhead]; decide)
      obtain rfl := nil_of_skipped byPart_goesOn hline hwords hends hskipped
      right
      rw [hsame, hwords, dropWord_cons]
      exact ⟨rfl, .inr rfl⟩
    · rw [dropWord_of_ne hhead]
      exact hdelta.imp_right fun h => ⟨h.1, .inl h.2⟩

/-! ### The end of a percentage command -/

def percentPart : Pattern Group := seq (group .volumeText someText) (seq (optNext "percent") eos)

def toPart : Pattern Group := seq (optWord "to") percentPart

/-- What may follow a percentage. -/
def PercentEnds (text : List Char) : Prop :=
  Ended text ∨ ∃ read ended, read ≠ [] ∧ (∀ c ∈ read, isPySpace c = true) ∧ Ended ended ∧
    text = read ++ ("percent".toList ++ ended)

theorem PercentEnds.wordEnds (h : PercentEnds text) : WordEnds text := by
  rcases h with h | ⟨read, ended, hne, hread, -, rfl⟩
  · exact fun c hc => h.blank c (List.mem_of_mem_head? hc)
  · exact wordEnds_blanks hne hread

theorem plain_percent : Plain "percent" := .of_lower (by simp) (by simp)

theorem PercentEnds.words (h : PercentEnds text) :
    splitBlanks text = [] ∨ splitBlanks text = ["percent".toList] := by
  rcases h with h | ⟨read, ended, -, hread, hended, rfl⟩
  · exact .inl (splitBlanks_of_blanks h.blank)
  · right
    rw [splitBlanks_blanks hread, splitBlanks_append_blanks hended.blank,
      splitBlanks_of_no_blank plain_percent.no_blank, List.filter_eq_self]
    intro w hw
    rw [List.mem_singleton.mp hw]
    exact decide_eq_true plain_percent.ne_nil

/-- The texts that the pattern takes for a percentage. -/
def Percentage (text : List Char) : Prop :=
  ∃ read rest, read ≠ [] ∧ '\n' ∉ read ∧ PercentEnds rest ∧ text = read ++ rest

theorem percentPart_ends_ne_nil (h : Percentage text) (behind : Bool) :
    percentPart.ends isWord (behind, text) ≠ [] := by
  obtain ⟨read, rest, hne, hline, hrest, rfl⟩ := h
  obtain ⟨b, hb⟩ := exists_someText_ends isWord hne hline behind rest
  have hgroup : ([(.volumeText, read)], b, rest) ∈
      (group .volumeText someText).ends isWord (behind, read ++ rest) :=
    mem_ends_group.mpr ⟨[], read, rfl, rfl, hb⟩
  have hends : ∃ e, e ∈ (seq (optNext "percent") eos).ends isWord (b, rest) := by
    rcases hrest with hended | ⟨read', ended, hne', hread', hended, rfl⟩
    · exact ⟨_, mem_ends_seq.mpr ⟨_, mem_ends_opt.mpr (.inr rfl), _, mem_eos_ends hended, rfl⟩⟩
    · obtain ⟨b', hb'⟩ := exists_blanks_ends isWord hne' hread' b
        ("percent".toList ++ ended)
      obtain ⟨b'', hb''⟩ := exists_word_ends isWord "percent" b' ended
      exact ⟨_, mem_ends_seq.mpr ⟨_, mem_ends_opt.mpr (.inl (mem_ends_seq.mpr ⟨_, hb', _, hb'', rfl⟩)),
        _, mem_eos_ends hended, rfl⟩⟩
  obtain ⟨e, he⟩ := hends
  intro hnil
  have : ([(.volumeText, read)] ++ e.1, e.2) ∈ percentPart.ends isWord (behind, read ++ rest) :=
    mem_ends_seq.mpr ⟨_, hgroup, _, he, rfl⟩
  rw [hnil] at this
  exact absurd this (by simp)

theorem percentPart_reads
    (h : e ∈ percentPart.ends isWord (behind, text)) :
    ∃ read rest, e.1.lookup .volumeText = some read ∧ read ≠ [] ∧ '\n' ∉ read ∧ PercentEnds rest ∧
      text = read ++ rest := by
  obtain ⟨e₁, he₁, e₂, he₂, rfl⟩ := mem_ends_seq.mp h
  obtain ⟨groups, read, hcaptured, htext, hsome⟩ := mem_ends_group.mp he₁
  obtain ⟨hnone, read', hne, hline, htext'⟩ := mem_someText hsome
  dsimp only at hnone htext htext'
  obtain rfl : read = read' := by
    rw [htext] at htext'
    exact List.append_cancel_right htext'
  subst hnone
  refine ⟨read, e₁.2.2, by rw [hcaptured]; rfl, hne, hline, ?_, htext⟩
  obtain ⟨e₃, he₃, e₄, he₄, rfl⟩ := mem_ends_seq.mp he₂
  obtain ⟨(hended : Ended e₃.2.2), -⟩ := mem_ends_eos.mp he₄
  rcases mem_ends_opt.mp he₃ with htaken | rfl
  · obtain ⟨-, blank, hblank, hspaces, hrest⟩ := mem_blanks_word htaken
    exact .inr ⟨blank, e₃.2.2, hblank, hspaces, hended, hrest⟩
  · exact .inl hended

/-- From any of its words on a percentage is one. -/
theorem Percentage.suffix {before text : List Char} (h : Percentage (before ++ text))
    (hstart : ∃ c ∈ text.head?, isPySpace c = false) : Percentage text := by
  obtain ⟨c, hc, hspace⟩ := hstart
  have hnot (h : ∀ d ∈ text, isPySpace d = true) : False := by
    have := h c (List.mem_of_mem_head? hc)
    rw [hspace] at this
    exact absurd this (by decide)
  obtain ⟨read, rest, hne, hline, hrest, heq⟩ := h
  rcases List.append_eq_append_iff.mp heq with ⟨after, rfl, rfl⟩ | ⟨after, rfl, rfl⟩
  · -- the text begins within what is read
    cases after with
    | nil =>
      have hends := hrest.wordEnds c hc
      rw [hspace] at hends
      exact absurd hends (by decide)
    | cons d after => exact ⟨d :: after, rest, by simp, by grind, hrest, rfl⟩
  · rcases hrest with hended | ⟨blank, ended, -, hblank, hended, hrest⟩
    · exact (hnot fun d hd => hended.blank d (by simp [hd])).elim
    · have hlines : '\n' ∉ "percent".toList := by decide
      rcases List.append_eq_append_iff.mp hrest with ⟨tail, rfl, rfl⟩ | ⟨tail, rfl, hpercent⟩
      · -- within the blanks
        cases tail with
        | nil => exact ⟨_, ended, plain_percent.ne_nil, hlines, .inl hended, rfl⟩
        | cons d tail =>
          rw [List.cons_append, List.head?_cons, Option.mem_some_iff] at hc
          have := hblank d (by simp)
          rw [hc, hspace] at this
          exact absurd this (by decide)
      · rcases List.append_eq_append_iff.mp hpercent with ⟨tail', -, rfl⟩ | ⟨tail', hword, rfl⟩
        · exact (hnot fun d hd => hended.blank d (by simp [hd])).elim
        · cases tail' with
          | nil => exact (hnot hended.blank).elim
          | cons d tail' =>
            refine ⟨d :: tail', ended, by simp, ?_, .inl hended, rfl⟩
            rw [hword] at hlines
            exact fun hmem => hlines (List.mem_append_right _ hmem)

/-- The percentage is what follows the words of the command, unless nothing does. -/
theorem blanksToPart_first
    (h : (seq blanks toPart).first isWord (behind, text) = some e) :
    WordEnds text ∧ ∃ value, e.1.lookup .volumeText = some value ∧
      ((∃ percent, (percent = [] ∨ percent = ["percent".toList]) ∧
          dropWord "to" (splitBlanks text) = splitBlanks value ++ percent) ∨
        dropWord "to" (splitBlanks text) = [] ∧ splitBlanks value = ["to".toList]) := by
  have hto : Plain "to" := .of_lower (by simp) (by simp)
  obtain ⟨read, ⟨b, rest⟩, rfl, hne, hread, hfirst, hlongest⟩ := first_some_seq h
  dsimp only at hlongest hne hread ⊢
  refine ⟨wordEnds_blanks hne hread, ?_⟩
  rw [splitBlanks_blanks hread]
  rcases first_opt_seq hfirst with ⟨e', he', e'', he'', rfl⟩ | ⟨hskipped, hpercent⟩
  · obtain ⟨hgroups, read', hne', hread', hrest⟩ := mem_word_blanks he'
    obtain ⟨value, after, hvalue, -, -, hafter, htail⟩ := percentPart_reads (mem_ends_of_first he'')
    refine ⟨value, by rw [hgroups]; exact hvalue, .inl ⟨splitBlanks after, hafter.words, ?_⟩⟩
    dsimp only at hrest
    rw [hrest, splitBlanks_word hto.ne_nil hto.no_blank (wordEnds_blanks hne' hread'), dropWord_cons,
      splitBlanks_blanks hread', htail, splitBlanks_append _ hafter.wordEnds]
  · obtain ⟨value, after, hvalue, hvalue_ne, hline, hafter, htext⟩ :=
      percentPart_reads (mem_ends_of_first hpercent)
    refine ⟨value, hvalue, ?_⟩
    have hwords : splitBlanks rest = splitBlanks value ++ splitBlanks after := by
      rw [htext, splitBlanks_append _ hafter.wordEnds]
    by_cases hhead : (splitBlanks rest).head? = some "to".toList
    · obtain ⟨words, hcons⟩ : ∃ words, splitBlanks rest = "to".toList :: words := by
        cases hsplit : splitBlanks rest with
        | nil => simp [hsplit] at hhead
        | cons w words => exact ⟨words, by simpa [hsplit] using hhead⟩
      by_cases hnil : words = []
      · subst hnil
        right
        rw [hcons, dropWord_cons]
        refine ⟨rfl, ?_⟩
        rw [hcons] at hwords
        rcases hafter.words with hafter | hafter
        · rw [hwords, hafter, List.append_nil]
        · rw [hafter] at hwords
          cases hvalue : splitBlanks value with
          | nil =>
            rw [hvalue, List.nil_append, List.singleton_inj] at hwords
            exact absurd hwords (by decide)
          | cons w ws => simp [hvalue] at hwords
      · -- the text after `to` would have matched
        exfalso
        obtain ⟨spaces, tail, hrest, hspaces, htail, rfl⟩ := exists_of_splitBlanks_cons hcons
        have hpercentage : Percentage rest := ⟨value, after, hvalue_ne, hline, hafter, htext⟩
        have htoText : ∃ c ∈ ("to".toList ++ tail).head?, isPySpace c = false :=
          ⟨'t', rfl, by decide⟩
        have hdrop : (read ++ rest).dropWhile isPySpace = "to".toList ++ tail := by
          rw [hrest, List.append_assoc, List.dropWhile_append_of_pos hread,
            List.dropWhile_append_of_pos hspaces]
          rfl
        rcases hlongest with hlongest | ⟨b', hlongest⟩
        · rw [hdrop] at hlongest
          subst hlongest
          have hsplit := (List.takeWhile_append_dropWhile (p := isPySpace) (l := tail)).symm
          have hblank : ∀ c ∈ tail.takeWhile isPySpace, isPySpace c = true :=
            fun c hc => List.mem_takeWhile_imp hc
          have hafter_ne : tail.dropWhile isPySpace ≠ [] := by
            intro h
            rw [h, List.append_nil] at hsplit
            exact hnil (splitBlanks_of_blanks (hsplit ▸ hblank))
          have hnumber : Percentage (tail.dropWhile isPySpace) := by
            rw [hsplit, ← List.append_assoc] at hpercentage
            obtain ⟨c, cs, hc⟩ := List.exists_cons_of_ne_nil hafter_ne
            refine hpercentage.suffix ⟨c, by rw [hc]; rfl, ?_⟩
            have hnot := List.head?_dropWhile_not isPySpace tail
            rw [hc, List.head?_cons] at hnot
            simpa using hnot
          have hblank_ne : tail.takeWhile isPySpace ≠ [] := by
            intro h
            cases tail with
            | nil => exact hafter_ne rfl
            | cons c tail =>
              rw [List.takeWhile_cons_of_pos (htail c rfl)] at h
              exact absurd h (List.cons_ne_nil _ _)
          obtain ⟨b₁, hb₁⟩ := exists_word_ends isWord "to" b tail
          obtain ⟨b₂, hb₂⟩ := exists_blanks_ends isWord hblank_ne hblank b₁
            (tail.dropWhile isPySpace)
          rw [List.takeWhile_append_dropWhile] at hb₂
          have := hskipped _ (mem_ends_seq.mpr ⟨_, hb₁, _, hb₂, rfl⟩)
          exact percentPart_ends_ne_nil hnumber b₂ this
        · rw [hdrop] at hlongest
          rw [hrest, List.append_assoc] at hpercentage
          obtain ⟨e', he'⟩ := List.exists_mem_of_ne_nil _
            (@percentPart_ends_ne_nil isWord _ (hpercentage.suffix htoText) b')
          have : ([] ++ e'.1, e'.2) ∈ toPart.ends isWord (b', "to".toList ++ tail) :=
            mem_ends_seq.mpr ⟨_, mem_ends_opt.mpr (.inr rfl), e', he', rfl⟩
          rw [hlongest] at this
          exact absurd this (by simp)
    · rw [dropWord_of_ne hhead, hwords]
      exact .inl ⟨_, hafter.words, rfl⟩

/-! ### The words of a command -/

theorem dropWord_cons_of_ne {v : List Char} {words : List (List Char)}
    (h : v ≠ w.toList) : dropWord w (v :: words) = v :: words :=
  dropWord_of_ne (by simpa using h)

/-- A word in front that is read or left out. -/
theorem optWord_first (hw : Plain w) {r : Pattern Group}
    (h : (seq (optWord w) r).first isWord (behind, text) = some e) :
    ∃ front b rest, (front = [] ∨ front = [w.toList]) ∧ r.first isWord (b, rest) = some e ∧
      splitBlanks text = front ++ splitBlanks rest := by
  rcases first_opt_seq h with ⟨e', he', e'', he'', rfl⟩ | ⟨-, hfirst⟩
  · obtain ⟨hgroups, read, hne, hread, htext⟩ := mem_word_blanks he'
    refine ⟨[w.toList], e'.2.1, e'.2.2, .inr rfl, ?_, ?_⟩
    · rw [hgroups]
      exact he''
    · dsimp only at htext
      rw [htext, splitBlanks_word hw.ne_nil hw.no_blank (wordEnds_blanks hne hread),
        splitBlanks_blanks hread]
      rfl
  · exact ⟨[], behind, text, .inl rfl, hfirst, rfl⟩

theorem volumePercent_first
    (h : volumePercentPattern.first isWord (false, text) = some e) :
    ∃ rest value, afterPercentCommand (splitBlanks text) = some rest ∧
      e.1.lookup .volumeText = some value ∧
      ((∃ percent, (percent = [] ∨ percent = ["percent".toList]) ∧
          rest = splitBlanks value ++ percent) ∨ rest = [] ∧ splitBlanks value = ["to".toList]) := by
  obtain ⟨please, _, _, hplease, hfirst, hwords⟩ := optWord_first (.of_lower (by simp) (by simp)) h
  obtain ⟨set, _, _, hset, hfirst, hwords'⟩ :=
    optWord_first (.of_lower (by simp) (by simp)) hfirst
  obtain ⟨your, _, rest, hyour, hfirst, hwords''⟩ :=
    optWord_first (.of_lower (by simp) (by simp)) hfirst
  obtain ⟨e', he', e'', he'', rfl⟩ := first_seq hfirst
  obtain ⟨hgroups, htext⟩ := mem_word he'
  obtain ⟨hends, value, hvalue, hread⟩ := blanksToPart_first he''
  have hplain : Plain "volume" := .of_lower (by simp) (by simp)
  dsimp only at htext
  refine ⟨dropWord "to" (splitBlanks e'.2.2), value, ?_, by rw [hgroups]; exact hvalue, hread⟩
  rw [hwords, hwords', hwords'', htext, splitBlanks_word hplain.ne_nil hplain.no_blank hends]
  rcases hplease with rfl | rfl <;> rcases hset with rfl | rfl <;> rcases hyour with rfl | rfl <;>
    simp [afterPercentCommand, dropWord]

theorem volumeStep_first
    (h : volumeStepPattern.first isWord (false, text) = some e) :
    ∃ direction rest, e.1.lookup .direction = some direction ∧
      afterStepCommand (splitBlanks text) = some (directionOf direction, rest) ∧
      (deltaWords e.1 = rest ∨
        rest = [] ∧ (deltaWords e.1 = ["by".toList] ∨ deltaWords e.1 = ["volume".toList])) := by
  obtain ⟨please, _, rest, hplease, hfirst, hwords⟩ := optWord_first (.of_lower (by simp) (by simp)) h
  obtain ⟨e', he', e'', he'', rfl⟩ := first_seq hfirst
  obtain ⟨groups, direction, hgroups, htext, hone⟩ := mem_ends_group.mp he'
  obtain ⟨hnone, hone⟩ := mem_ends_plain.mp hone
  obtain ⟨r, hr, hdirection⟩ := Regex.mem_ends_oneOf.mp hone
  obtain ⟨hends, hlookup, hdelta⟩ := volumePart_first he''
  dsimp only at hnone htext hdirection
  have hread (w : String) (hw : r = .lit w.toList) : direction = w.toList := by
    subst hw
    have := (Regex.mem_ends_lit.mp hdirection).1
    rw [htext] at this
    exact List.append_cancel_right this
  have hdirections : direction = "raise".toList ∨ direction = "lower".toList ∨
      direction = "increase".toList ∨ direction = "decrease".toList := by
    simp only [List.mem_cons, List.not_mem_nil, or_false] at hr
    rcases hr with hr | hr | hr | hr
    · exact .inl (hread _ hr)
    · exact .inr (.inl (hread _ hr))
    · exact .inr (.inr (.inl (hread _ hr)))
    · exact .inr (.inr (.inr (hread _ hr)))
  have hsplit : splitBlanks rest = direction :: splitBlanks e'.2.2 := by
    rw [htext]
    have hplain (w : String) (hw : Plain w) :
        splitBlanks (w.toList ++ e'.2.2) = w.toList :: splitBlanks e'.2.2 :=
      splitBlanks_word hw.ne_nil hw.no_blank hends
    rcases hdirections with rfl | rfl | rfl | rfl <;>
      exact hplain _ (.of_lower (by simp) (by simp))
  refine ⟨direction, dropWord "by" (dropWord "volume" (splitBlanks e'.2.2)), ?_, ?_, ?_⟩
  · rw [hgroups, hnone]
    rfl
  · have hlookup : stepWords.lookup direction = some (directionOf direction) := by
      rcases hdirections with rfl | rfl | rfl | rfl <;> rfl
    have hne : direction ≠ "please".toList := by
      rcases hdirections with rfl | rfl | rfl | rfl <;> decide
    have hdrop : dropWord "please" (please ++ direction :: splitBlanks e'.2.2) =
        direction :: splitBlanks e'.2.2 := by
      rcases hplease with rfl | rfl
      · exact dropWord_cons_of_ne hne
      · exact dropWord_cons ..
    rw [hwords, hsplit, afterStepCommand, hdrop]
    simp only [hlookup]
  · rw [hgroups, hnone]
    exact hdelta

theorem words_of_phrase (hw : Plain w) {r : Pattern Group}
    (h : e ∈ (seq (word w) (seq blanks r)).ends isWord spot) :
    ∃ b rest, ∃ e' ∈ r.ends isWord (b, rest), e.2 = e'.2 ∧
      splitBlanks spot.2 = w.toList :: splitBlanks rest := by
  obtain ⟨e₁, he₁, e', he', rfl⟩ := mem_ends_seq.mp h
  obtain ⟨e₂, he₂, e₃, he₃, rfl⟩ := mem_ends_seq.mp he'
  obtain ⟨-, htext⟩ := mem_word he₁
  obtain ⟨-, read, hne, hread, hrest⟩ := mem_blanks he₂
  refine ⟨e₂.2.1, e₂.2.2, e₃, he₃, rfl, ?_⟩
  rw [htext, hrest, splitBlanks_word hw.ne_nil hw.no_blank (wordEnds_blanks hne hread),
    splitBlanks_blanks hread]

theorem words_of_last (hw : Plain w) (h : e ∈ (word w).ends isWord spot)
    (hended : Ended e.2.2) : splitBlanks spot.2 = [w.toList] := by
  obtain ⟨-, htext⟩ := mem_word h
  rw [htext, splitBlanks_append_blanks hended.blank, splitBlanks_of_no_blank hw.no_blank,
    List.filter_eq_self]
  intro v hv
  rw [List.mem_singleton.mp hv]
  exact decide_eq_true hw.ne_nil

/-- A command without a number has no word after it. -/
theorem turn_first {direction : Direction}
    (hw : w = "up" ∧ direction = .up ∨ w = "down" ∧ direction = .down)
    (h : (turnPattern w).first isWord (false, text) = some e) :
    afterStepCommand (splitBlanks text) = some (direction, []) := by
  have hplain : Plain w := by
    rcases hw with ⟨rfl, -⟩ | ⟨rfl, -⟩ <;> exact .of_lower (by simp) (by simp)
  obtain ⟨please, b, rest, hplease, hfirst, hwords⟩ := optWord_first (.of_lower (by simp) (by simp)) h
  obtain ⟨e', he', e'', he'', -⟩ := mem_ends_seq.mp (mem_ends_of_first hfirst)
  obtain ⟨(hended : Ended e'.2.2), -⟩ := mem_ends_eos.mp he''
  have hvolume (b : Bool) (rest : List Char) (e' : Captures Group × Spot) (hended : Ended e'.2.2)
      (v : String) (hv : Plain v) (h : e' ∈ (seqs [word v, blanks, word w]).ends isWord (b, rest)) :
      splitBlanks rest = [v.toList, w.toList] := by
    obtain ⟨b', rest', e'', he'', heq, hrest⟩ := words_of_phrase hv h
    rw [hrest, words_of_last hplain he'' (heq ▸ hended)]
  have hturn (v : String) (hv : Plain v)
      (h : e' ∈ (seqs [word "turn", blanks, word v, blanks, word w]).ends isWord (b, rest)) :
      splitBlanks rest = ["turn".toList, v.toList, w.toList] := by
    obtain ⟨b', rest', e'', he'', heq, hrest⟩ := words_of_phrase (.of_lower (by simp) (by simp)) h
    rw [hrest, hvolume b' rest' e'' (heq ▸ hended) v hv he'']
  have hcommand : splitBlanks rest = ["turn".toList, "it".toList, w.toList] ∨
      splitBlanks rest = ["turn".toList, "volume".toList, w.toList] ∨
      splitBlanks rest = ["volume".toList, w.toList] := by
    rcases mem_ends_alt.mp he' with he' | he'
    · exact .inl (hturn "it" (.of_lower (by simp) (by simp)) he')
    · rcases mem_ends_alt.mp he' with he' | he'
      · exact .inr (.inl (hturn "volume" (.of_lower (by simp) (by simp)) he'))
      · exact .inr (.inr (hvolume b rest e' hended "volume" (.of_lower (by simp) (by simp)) he'))
  rw [hwords]
  rcases hw with ⟨rfl, rfl⟩ | ⟨rfl, rfl⟩ <;> rcases hplease with rfl | rfl <;>
    rcases hcommand with h | h | h <;> rw [h] <;> decide +kernel

end parts

/-! ### What was said -/

section said

variable {u}

theorem lower_of_lower {w : List Char} (h : ∀ c ∈ w, c.isLower = true) : u.lower w = w := by
  have hascii : ∀ c ∈ w, c.toNat < 128 ∧ c.toLower = c := by
    intro c hc
    have hcode : 97 ≤ c.toNat ∧ c.toNat ≤ 122 := by
      simpa [Char.isLower, UInt32.le_iff_toNat_le, ← Char.toNat_val] using h c hc
    refine ⟨by omega, (toLower_cases c).resolve_right ?_⟩
    omega
  rw [u.lower_ascii w fun c hc => (hascii c hc).1, List.map_congr_left fun c hc => (hascii c hc).2,
    List.map_id']

theorem said_append_percent (words : List (List Char)) :
    said u (words ++ ["percent".toList]) = said u words := by
  have hlower : u.lower "percent".toList = "percent".toList := lower_of_lower (by simp)
  unfold said
  rw [List.map_append, List.filter_append, List.map_singleton, hlower,
    List.filter_cons_of_neg (by simp), List.filter_nil, List.append_nil]

/-- These words are no number words. -/
theorem sumNumberWords_connectives :
    ∀ w ∈ ["to", "by", "volume"], sumNumberWords [w.toList] = none := by
  decide +kernel

/-- A word that is no numeral. -/
theorem readWords_said_word {w : String} (hne : w.toList ≠ [])
    (h : ∀ c ∈ w.toList, c.isLower = true) (hpercent : w.toList ≠ "percent".toList)
    (hsum : sumNumberWords [w.toList] = none) : readWords u (said u [w.toList]) = .ok none := by
  have hsaid : said u [w.toList] = [w.toList] := by
    unfold said
    rw [List.map_singleton, lower_of_lower h,
      List.filter_cons_of_pos (by rwa [decide_eq_true_eq]), List.filter_nil]
  rw [hsaid, readWords, not_isDigit_of_lower hne h, hsum]
  rfl

theorem parseVolumeNumber_ten : parseVolumeNumber u "10".toList = .ok (some 10) := by
  have hlower : u.lower "10".toList = "10".toList := u.lower_ascii _ (by simp)
  have hsaid : said u (splitBlanks "10".toList) = ["10".toList] := by
    have hsplit : splitBlanks "10".toList = ["10".toList] := by decide
    unfold said
    rw [hsplit, List.map_singleton, hlower, List.filter_cons_of_pos (by decide), List.filter_nil]
  have hone : u.isDecimal '1' = true := u.isDecimal_ascii '1' (by decide)
  have hzero : u.isDecimal '0' = true := u.isDecimal_ascii '0' (by decide)
  obtain ⟨hall, hint⟩ := int_of_isDecimal (u := u) (w := "10".toList) (by simp [hone, hzero])
  have hvalue : u.decimal "10".toList = 10 := by
    simp [Numerals.decimal, u.digit_ascii '1' (by decide), u.digit_ascii '0' (by decide)]
  rw [parseVolumeNumber_eq, hsaid, readWords, if_pos hall, hint, hvalue]
  rfl

/-- What `extractVolumePercent` reads. -/
theorem extractVolumePercent_cases (text : List Char) :
    volumePercentPattern.pyMatch u.isWord text = none ∧ extractVolumePercent u text = .ok none ∨
      (volumePercentPattern.pyMatch u.isWord text).isSome ∧
        ∃ rest, afterPercentCommand (splitBlanks text) = some rest ∧
          extractVolumePercent u text =
            (readWords u (said u rest)).map (Option.map fun value : ℕ => max 0 (min 100 (value : ℤ))) := by
  unfold extractVolumePercent
  cases hmatch : volumePercentPattern.pyMatch u.isWord text with
  | none => exact .inl ⟨rfl, rfl⟩
  | some groups =>
    obtain ⟨spot, hfirst⟩ := pyMatch_eq_some.mp hmatch
    obtain ⟨rest, value, hrest, hvalue, hread⟩ := volumePercent_first hfirst
    refine .inr ⟨rfl, rest, hrest, ?_⟩
    have hparse : parseVolumeNumber u value = readWords u (said u rest) := by
      rw [parseVolumeNumber_eq]
      rcases hread with ⟨percent, rfl | rfl, rfl⟩ | ⟨rfl, hto⟩
      · rw [List.append_nil]
      · rw [said_append_percent]
      · rw [hto, readWords_said_word (by simp) (by simp) (by simp)
            (sumNumberWords_connectives "to" (by simp))]
        rfl
    dsimp only at hvalue ⊢
    rw [hvalue, Option.getD_some, hparse]
    rcases readWords u (said u rest) with e | ⟨_ | n⟩ <;> rfl

theorem Numeral.nonneg {ws : List (List Char)} {value : ℚ} (h : Numeral u ws value) : 0 ≤ value := by
  cases h with
  | digits h => positivity
  | @words ws values hne hvalues =>
    apply List.sum_nonneg
    intro value hvalue
    have hmem : some value ∈ (ws.filter fun w => ¬ IsFiller w).map numberWord := by
      rw [hvalues]
      exact List.mem_map_of_mem hvalue
    obtain ⟨w, -, hw⟩ := List.mem_map.mp hmem
    exact numberWord_nonneg hw

/-- A percentage is what was said if that is whole, or a hundred or more. -/
theorem percentSaid_iff (text : List Char) : PercentSaid u text ↔ WholePercent u text := by
  unfold PercentSaid WholePercent
  rcases extractVolumePercent_cases (u := u) text with ⟨hmatch, hextract⟩ | ⟨hmatch, rest, hrest, hextract⟩
  · simp [hmatch, hextract]
  have hclamp {value : ℚ} (hvalue : 0 ≤ value) :
      ((max 0 (min 100 (⌊value⌋₊ : ℤ)) : ℤ) : ℚ) = max 0 (min 100 value) ↔
        value < 100 → ∃ n : ℕ, value = n := by
    push_cast
    rcases lt_or_ge value 100 with hlt | hge
    · have hfloor : ((⌊value⌋₊ : ℕ) : ℚ) ≤ value := Nat.floor_le hvalue
      rw [min_eq_right hlt.le, max_eq_right hvalue, min_eq_right (hfloor.trans hlt.le),
        max_eq_right (by positivity)]
      constructor
      · exact fun heq _ => ⟨_, heq.symm⟩
      · intro hwhole
        obtain ⟨n, rfl⟩ := hwhole hlt
        rw [Nat.floor_natCast]
    · have hfloor : (100 : ℚ) ≤ (⌊value⌋₊ : ℕ) := by exact_mod_cast Nat.le_floor (by exact_mod_cast hge)
      rw [min_eq_left hge, min_eq_left hfloor]
      simp [not_lt.mpr hge]
  simp only [hmatch, forall_const, hextract, hrest, Option.some.injEq]
  constructor
  · rintro h rest' value rfl hvalue
    have hread := readWords_of_numeral hvalue
    obtain ⟨rest', value', rfl, hvalue', heq⟩ := h (max 0 (min 100 (⌊value⌋₊ : ℤ))) (by rw [hread]; rfl)
    rw [hvalue'.unique hvalue] at heq
    exact (hclamp hvalue.nonneg).mp heq
  · intro h percent hpercent
    cases hread : readWords u (said u rest) with
    | error e => rw [hread] at hpercent; cases hpercent
    | ok number =>
      cases number with
      | none => rw [hread] at hpercent; cases hpercent
      | some n =>
        obtain ⟨value, hvalue, rfl⟩ := numeral_of_readWords hread
        rw [hread] at hpercent
        obtain rfl : max 0 (min 100 (⌊value⌋₊ : ℤ)) = percent := by simpa [Except.map] using hpercent
        exact ⟨rest, value, rfl, hvalue, (hclamp hvalue.nonneg).mpr (h rest value rfl hvalue)⟩

/-- What `extractVolumeDelta` reads. -/
theorem extractVolumeDelta_cases (text : List Char) :
    (∃ direction, afterStepCommand (splitBlanks text) = some (direction, []) ∧
        extractVolumeDelta u text = .ok (some (direction, direction.signed 10))) ∨
      volumeStepPattern.pyMatch u.isWord text = none ∧ extractVolumeDelta u text = .ok none ∨
      (volumeStepPattern.pyMatch u.isWord text).isSome ∧
        ∃ direction rest, afterStepCommand (splitBlanks text) = some (direction, rest) ∧
          extractVolumeDelta u text = (readWords u (said u rest)).map
            (fun number => some (direction, direction.signed (orDefaultStep number))) := by
  unfold extractVolumeDelta
  split
  · next hup =>
    obtain ⟨groups, hgroups⟩ := Option.isSome_iff_exists.mp hup
    obtain ⟨spot, hfirst⟩ := pyMatch_eq_some.mp hgroups
    exact .inl ⟨.up, turn_first (.inl ⟨rfl, rfl⟩) hfirst, rfl⟩
  split
  · next hdown =>
    obtain ⟨groups, hgroups⟩ := Option.isSome_iff_exists.mp hdown
    obtain ⟨spot, hfirst⟩ := pyMatch_eq_some.mp hgroups
    exact .inl ⟨.down, turn_first (.inr ⟨rfl, rfl⟩) hfirst, rfl⟩
  cases hmatch : volumeStepPattern.pyMatch u.isWord text with
  | none => exact .inr (.inl ⟨rfl, rfl⟩)
  | some groups =>
    obtain ⟨spot, hfirst⟩ := pyMatch_eq_some.mp hmatch
    obtain ⟨direction, rest, hdirection, hrest, hread⟩ := volumeStep_first hfirst
    refine .inr (.inr ⟨rfl, directionOf direction, rest, hrest, ?_⟩)
    dsimp only at hdirection hread ⊢
    rw [hdirection, Option.getD_some]
    cases hdelta : groups.lookup .deltaText with
    | none =>
      -- nothing is said after the command
      obtain rfl : rest = [] := by
        have hnil : deltaWords groups = [] := by simp [deltaWords, hdelta]
        rcases hread with hread | ⟨hread, -⟩
        · rw [← hread, hnil]
        · exact hread
      rw [Option.getD_none, parseVolumeNumber_ten]
      rfl
    | some delta =>
      have hparse : parseVolumeNumber u delta = readWords u (said u rest) := by
        have hwords : deltaWords groups = splitBlanks delta := by simp [deltaWords, hdelta]
        rw [hwords] at hread
        rw [parseVolumeNumber_eq]
        rcases hread with hread | ⟨rfl, hby | hvolume⟩
        · rw [hread]
        · rw [hby, readWords_said_word (by simp) (by simp) (by simp)
            (sumNumberWords_connectives "by" (by simp))]
          rfl
        · rw [hvolume, readWords_said_word (by simp) (by simp) (by simp)
            (sumNumberWords_connectives "volume" (by simp))]
          rfl
      rw [Option.getD_some, hparse]
      cases readWords u (said u rest) <;> rfl

theorem orDefaultStep_ne_zero (number : Option ℕ) : orDefaultStep number ≠ 0 := by
  rcases number with _ | _ | n <;> simp [orDefaultStep]

theorem Direction.signed_inj {direction : Direction} {n m : ℕ} :
    direction.signed n = direction.signed m ↔ n = m := by
  cases direction <;> simp [signed]

/-- A step is what was said if that is nothing, or a whole number other than zero. -/
theorem stepSaid_iff (text : List Char) : StepSaid u text ↔ WholeStep u text := by
  unfold StepSaid WholeStep
  rcases extractVolumeDelta_cases (u := u) text with
    ⟨direction, hcommand, hextract⟩ | ⟨hmatch, hextract⟩ | ⟨hmatch, direction, rest, hcommand, hextract⟩
  · constructor
    · rintro - - direction' rest' hrest
      rw [hcommand] at hrest
      cases hrest
      exact .inl rfl
    · rintro - direction' delta hdelta
      rw [hextract] at hdelta
      cases hdelta
      exact ⟨[], 10, hcommand, rfl, .inl ⟨rfl, rfl⟩⟩
  · simp [hmatch, hextract]
  simp only [hmatch, forall_const, hextract, hcommand]
  constructor
  · rintro h direction' rest' heq
    cases heq
    cases hread : readWords u (said u rest) with
    | error e => exact .inr (.inl (readWords_error_iff.mp ⟨e, hread⟩))
    | ok number =>
      obtain ⟨rest', magnitude, heq, hsigned, hsaid⟩ :=
        h direction (direction.signed (orDefaultStep number)) (by rw [hread]; rfl)
      cases heq
      rw [Direction.signed_inj] at hsigned
      rcases hsaid with ⟨rfl, -⟩ | hnumeral
      · exact .inl rfl
      · exact .inr (.inr ⟨magnitude, hsigned ▸ orDefaultStep_ne_zero number, hnumeral⟩)
  · intro h direction' delta hdelta
    rcases h direction rest rfl with rfl | hrefused | ⟨n, hn, hnumeral⟩
    · have hread : readWords u (said u []) = .ok none := rfl
      rw [hread] at hdelta
      cases hdelta
      exact ⟨[], 10, rfl, rfl, .inl ⟨rfl, rfl⟩⟩
    · obtain ⟨e, hread⟩ := readWords_error_iff.mpr hrefused
      rw [hread] at hdelta
      cases hdelta
    · have hread := readWords_of_numeral hnumeral
      rw [Nat.floor_natCast] at hread
      rw [hread] at hdelta
      cases hdelta
      refine ⟨rest, n, rfl, ?_, .inr hnumeral⟩
      cases n with
      | zero => exact absurd rfl hn
      | succ n => rfl

/-- **Volume commands act on what was said.** -/
theorem acts_on_what_was_said_iff (text : List Char) :
    PercentSaid u text ∧ StepSaid u text ↔ WholePercent u text ∧ WholeStep u text :=
  and_congr (percentSaid_iff text) (stepSaid_iff text)

/-- `raise the lights` is taken for a step of ten, and so is `raise by zero`. -/
theorem lights_raise_volume :
    extractVolumeDelta .ascii "raise the lights".toList = .ok (some (.up, 10)) ∧
      ¬ StepSaid .ascii "raise the lights".toList ∧
      extractVolumeDelta .ascii "raise by zero".toList = .ok (some (.up, 10)) ∧
      ¬ StepSaid .ascii "raise by zero".toList := by
  have hlights : extractVolumeDelta .ascii "raise the lights".toList = .ok (some (.up, 10)) := by
    decide +kernel
  have hzero : extractVolumeDelta .ascii "raise by zero".toList = .ok (some (.up, 10)) := by
    decide +kernel
  refine ⟨hlights, fun h => ?_, hzero, fun h => ?_⟩
  · obtain ⟨rest, magnitude, hrest, -, hsaid⟩ := h .up 10 hlights
    have hthe : afterStepCommand (splitBlanks "raise the lights".toList) =
        some (.up, ["the".toList, "lights".toList]) := by decide +kernel
    rw [hthe] at hrest
    cases hrest
    rcases hsaid with ⟨hnil, -⟩ | hnumeral
    · cases hnil
    · have hread := readWords_of_numeral hnumeral
      have hnone : readWords .ascii (said .ascii ["the".toList, "lights".toList]) = .ok none := by
        decide +kernel
      rw [hnone] at hread
      cases hread
  · obtain ⟨rest, magnitude, hrest, hten, hsaid⟩ := h .up 10 hzero
    have hby : afterStepCommand (splitBlanks "raise by zero".toList) =
        some (.up, ["zero".toList]) := by decide +kernel
    rw [hby] at hrest
    cases hrest
    obtain rfl : 10 = magnitude := by
      have hsame : (10 : ℤ) = magnitude := hten
      omega
    rcases hsaid with ⟨hnil, -⟩ | hnumeral
    · cases hnil
    · have hread := readWords_of_numeral hnumeral
      have hnone : readWords .ascii (said .ascii ["zero".toList]) = .ok (some 0) := by
        decide +kernel
      rw [hnone] at hread
      simp at hread

end said

end HexeVoice.Assistant.VolumeCommands
