import HexeVoice.Library.Regex
import Mathlib

/-!
# Spoken passcodes

`extract_spoken_passcode` and `redact_spoken_passcodes` of
`persistence/voice_admin_maintenance.py`.

## The model

Both are translated pattern by pattern. They take the tables of Unicode as a parameter: of
characters outside ASCII, only the blanks, those that `str.lower` gives an ASCII letter and those
that `re.IGNORECASE` takes for one are fixed.

## What is proved

`extractSpokenPasscode_eq_none_iff`: a text is read a passcode from when it has a token of four
digits, or four numerals in a row. **`redaction_hides`**: so the redacted text is read none from,
exactly when none of the stretches that redaction leaves has either.
-/

namespace HexeVoice.Admin

open HexeVoice.Library

variable {c : Char}

/-! ### The patterns -/

def passcodeWords : List (String × String) :=
  [("zero", "0"), ("oh", "0"), ("one", "1"), ("two", "2"), ("three", "3"), ("four", "4"),
    ("for", "4"), ("five", "5"), ("six", "6"), ("seven", "7"), ("eight", "8"), ("ate", "8"),
    ("nine", "9")]

/-- `sorted(PASSCODE_WORDS, key=len, reverse=True)`. -/
def passcodeAlternatives : List String :=
  (passcodeWords.map (·.1)).insertionSort fun a b => b.length ≤ a.length

/-- A letter under `re.IGNORECASE`: outside ASCII the `i` has a dotted capital and a dotless
small letter, the `s` a long one, and the `k` the Kelvin sign. -/
def ignoreCase (letter c : Char) : Bool :=
  c.toLower = letter || letter = 'i' && (c.toNat = 0x130 || c.toNat = 0x131) ||
    letter = 's' && c.toNat = 0x17F || letter = 'k' && c.toNat = 0x212A

/-- `[\s-]`. -/
def isGap (c : Char) : Bool := isPySpace c || c = '-'

/-- `[^a-z0-9]`. -/
def isSeparator (c : Char) : Bool := !(('a' ≤ c && c ≤ 'z') || c.isDigit)

section patterns

variable (t : CharTable)

/-- `\b\d(?:[\s-]*\d){3}\b`. -/
def digitPasscode : Regex :=
  .seq .bound (.seq (.one t.isDecimal)
    (.seq (.rep (.seq (.many isGap) (.one t.isDecimal)) 3) .bound))

/-- `(?:three|seven|…)`. -/
def passcodeWord : Regex :=
  .oneOf (passcodeAlternatives.map fun word => .word ignoreCase word.toList)

/-- `\b(?:three|…)(?:\s+(?:three|…)){3}\b`. -/
def wordPasscode : Regex :=
  .seq .bound (.seq passcodeWord
    (.seq (.rep (.seq (.some isPySpace) passcodeWord) 3) .bound))

/-- `\b\d{4}\b`. -/
def fourDigits : Regex :=
  .seq .bound (.seq (.rep (.one t.isDecimal) 4) .bound)

end patterns

/-! ### Extraction -/

/-- `PASSCODE_WORDS.get(token, token if token.isdigit() and len(token) == 1 else "")`. -/
def numeral (token : List Char) : String :=
  (passcodeWords.lookup (String.ofList token)).getD
    (if token.length = 1 && token.all (·.isDigit) then String.ofList token else "")

/-- The code that four tokens read. -/
def tokensCode (tokens : List (List Char)) : Option String :=
  let code := String.join (tokens.map numeral)
  if code.length = 4 && code.toList.all (·.isDigit) then some code else none

/-- The code that the first four tokens in a row read that read any. -/
def firstCode : List (List Char) → Option String
  | a :: b :: c :: d :: tokens => tokensCode [a, b, c, d] <|> firstCode (b :: c :: d :: tokens)
  | _ => none

/-- `re.sub(r"[^a-z0-9]+", " ", text.lower()).strip()`. -/
def normalized (t : CharTable) (text : String) : List Char :=
  stripChars ((Regex.some isSeparator).sub t.isWord [' '] (text.toList.flatMap lowerChars))

def extractSpokenPasscode (t : CharTable) (text : String) : Option String :=
  let normalized := normalized t text
  if normalized = [] then none
  else
    match ((fourDigits t).findAll t.isWord normalized).getLast? with
    | some digits => some (String.ofList digits)
    | none => firstCode (splitBlanks normalized)

/-! ### Redaction -/

/-- What a passcode is replaced with. -/
def passcodeMark : List Char := "[passcode]".toList

def redactSpokenPasscodes (t : CharTable) (text : String) : String :=
  let value := (digitPasscode t).sub t.isWord passcodeMark text.toList
  String.ofList (wordPasscode.sub t.isWord passcodeMark value)

/-! ### Reading -/

/-- The tokens of the normalized text. -/
def tokens (text : List Char) : List (List Char) :=
  ((text.flatMap lowerChars).splitOnP isSeparator).filter (· ≠ [])

/-- A token of four digits. -/
def isFourDigits (token : List Char) : Bool := token.length = 4 && token.all (·.isDigit)

/-- Four numerals in a row. -/
def IsFourNumerals (row : List (List Char)) : Prop :=
  row.length = 4 ∧ ∀ token ∈ row, numeral token ≠ ""

/-- A passcode can be read: a token has four digits, or four numerals stand in a row. -/
def Readable (tokens : List (List Char)) : Prop :=
  (∃ token ∈ tokens, isFourDigits token = true) ∨ ∃ row, row <:+: tokens ∧ IsFourNumerals row

theorem isSeparator_of_isPySpace (h : isPySpace c = true) : isSeparator c = true := by
  simp only [isPySpace, Char.toNat] at h
  simp only [isSeparator, Char.isDigit, Char.le_def]
  simp [UInt32.le_iff_toNat_le] at *
  omega

/-- What is not a separator is an ASCII letter or digit. -/
theorem alphanum_of_not_isSeparator (h : isSeparator c = false) :
    c.toNat < 128 ∧ c.isAlphanum = true := by
  simp only [isSeparator, Char.isDigit, Char.le_def] at h
  simp only [Char.isAlphanum, Char.isAlpha, Char.isUpper, Char.isLower, Char.isDigit, Char.toNat]
  simp [UInt32.le_iff_toNat_le] at *
  omega

theorem isWord_of_not_isSeparator (t : CharTable) (h : isSeparator c = false) :
    t.isWord c = true := by
  obtain ⟨hascii, halnum⟩ := alphanum_of_not_isSeparator h
  simp [CharTable.isWord, t.isAlnum_ascii c hascii, halnum]

theorem isDecimal_of_not_isSeparator (t : CharTable) (h : isSeparator c = false) :
    t.isDecimal c = c.isDigit := t.isDecimal_ascii c (alphanum_of_not_isSeparator h).1

variable (t : CharTable)

/-- A token is not empty and has no separator. -/
theorem not_mem_tokens (text : List Char) :
    ∀ token ∈ tokens text, (∀ c ∈ token, isSeparator c = false) ∧ token ≠ [] := by
  intro token htoken
  unfold tokens at htoken
  rw [← Regex.split_some_filter isSeparator, List.mem_filter] at htoken
  exact ⟨Regex.not_mem_splitFrom_some 0 false _ token htoken.1, by simpa using htoken.2⟩

/-- What blanks part is read of the normalized text token by token. -/
theorem read_normalized {β : Type*} {f : List Char → List β} (hnil : f [] = [])
    (h : ∀ c, isPySpace c = true → PartsAt f c) (text : String) :
    f (normalized t text) = (tokens text.toList).flatMap f := by
  unfold normalized tokens
  rw [parts_stripChars hnil h, Regex.sub_eq_intercalate, (h ' ' rfl).intercalate hnil,
    ← Regex.split_some_filter t.isWord]
  induction (Regex.some isSeparator).split t.isWord (text.toList.flatMap lowerChars) with
  | nil => rfl
  | cons part parts ih =>
    rw [List.flatMap_cons, ih, List.filter_cons]
    split
    · rfl
    · next hpart => rw [show part = [] by simpa using hpart, hnil, List.nil_append]

theorem splitBlanks_normalized (text : String) :
    splitBlanks (normalized t text) = tokens text.toList := by
  rw [read_normalized t rfl fun c hc => splitBlanks_partsAt hc]
  have htokens := not_mem_tokens text.toList
  generalize tokens text.toList = tokens at *
  induction tokens with
  | nil => rfl
  | cons token tokens ih =>
    rw [List.forall_mem_cons] at htokens
    have hblank : ∀ c ∈ token, isPySpace c = false := by
      intro c hc
      by_contra hspace
      have := isSeparator_of_isPySpace (by simpa using hspace)
      rw [htokens.1.1 c hc] at this
      exact Bool.false_ne_true this
    rw [List.flatMap_cons, ih htokens.2, splitBlanks_of_no_blank hblank]
    simp [htokens.1.2]

/-! ### Four digits -/

theorem findAllFrom_fourDigits_behind {cs : List Char} (h : ∀ c ∈ cs, isSeparator c = false) :
    (fourDigits t).findAllFrom t.isWord 0 true cs = [] := by
  induction cs with
  | nil => rfl
  | cons c cs ih =>
    rw [List.forall_mem_cons] at h
    have hc := isWord_of_not_isSeparator t h.1
    have hrest : (fourDigits t).rest t.isWord (true, c :: cs) = none := by
      simp [Regex.rest, fourDigits, Regex.ends, hc]
    rw [Regex.findAllFrom_cons, hrest, hc]
    exact ih h.2

/-- Of letters and digits only, a match takes the whole text. -/
theorem rest_fourDigits {cs : List Char} (h : ∀ c ∈ cs, isSeparator c = false) :
    (fourDigits t).rest t.isWord (false, cs) = if isFourDigits cs then some [] else none := by
  have hword : ∀ c ∈ cs, t.isWord c = true := fun c hc => isWord_of_not_isSeparator t (h c hc)
  have hdecimal : ∀ c ∈ cs, t.isDecimal c = c.isDigit :=
    fun c hc => isDecimal_of_not_isSeparator t (h c hc)
  have hbound : (false != cs.head?.any t.isWord) = decide (cs ≠ []) := by
    cases cs with
    | nil => rfl
    | cons c cs => simp [hword c]
  have hend : (true != (cs.drop 4).head?.any t.isWord) = decide (cs.length ≤ 4) := by
    cases hdrop : cs.drop 4 with
    | nil => simp [List.drop_eq_nil_iff.mp hdrop]
    | cons c cs' =>
      have hc : c ∈ cs := List.mem_of_mem_drop (hdrop ▸ List.mem_cons_self)
      have hlength : ¬ cs.length ≤ 4 := fun hle => by simp [List.drop_eq_nil_of_le hle] at hdrop
      simp [hword c hc, hlength]
  have hfour : isFourDigits cs = true ↔
      cs.length ≤ 4 ∧ 4 ≤ cs.length ∧ ∀ c ∈ cs.take 4, t.isDecimal c = true := by
    unfold isFourDigits
    rw [Bool.and_eq_true, decide_eq_true_iff, List.all_eq_true, Nat.le_antisymm_iff, and_assoc]
    refine and_congr_right fun hle => and_congr_right fun _ => ?_
    rw [List.take_of_length_le hle]
    exact forall₂_congr fun c hc => by rw [hdecimal c hc]
  unfold Regex.rest fourDigits
  simp only [Regex.ends, hbound]
  by_cases hcs : cs = []
  · rw [hcs]
    rfl
  rw [if_pos (by simpa using hcs), List.flatMap_singleton, Regex.ends_rep_one 4 false hword]
  by_cases hdigits : 4 ≤ cs.length ∧ ∀ c ∈ cs.take 4, t.isDecimal c = true
  · rw [if_pos hdigits, List.flatMap_singleton]
    have hflag : (false || decide (4 ≠ 0)) = true := rfl
    dsimp only
    rw [hflag, hend]
    by_cases hle : cs.length ≤ 4
    · simp [hfour.mpr ⟨hle, hdigits⟩, hle]
    · simp [mt hfour.mp fun h => hle h.1, hle]
  · rw [if_neg hdigits, if_neg fun h => hdigits (hfour.mp h).2]
    rfl

/-- Of letters and digits only, four digits are the whole text. -/
theorem findAll_fourDigits {cs : List Char} (h : ∀ c ∈ cs, isSeparator c = false) :
    (fourDigits t).findAll t.isWord cs = if isFourDigits cs then [cs] else [] := by
  unfold Regex.findAll
  cases cs with
  | nil => rfl
  | cons c cs =>
    rw [Regex.findAllFrom_cons, rest_fourDigits t h]
    rw [List.forall_mem_cons] at h
    by_cases hfour : isFourDigits (c :: cs) = true
    · simp [hfour, Regex.findAllFrom_length]
    · rw [if_neg hfour, if_neg hfour, isWord_of_not_isSeparator t h.1]
      exact findAllFrom_fourDigits_behind t h.2
/-! ### Four numerals -/

/-- A numeral is no text or one digit. -/
theorem numeral_digit (token : List Char) :
    numeral token = "" ∨ ∃ digit : Char, digit.isDigit = true ∧ (numeral token).toList = [digit] := by
  unfold numeral
  cases hlookup : passcodeWords.lookup (String.ofList token) with
  | some n =>
    obtain ⟨before, after, hwords, -⟩ := List.lookup_eq_some_iff.mp hlookup
    have hall : (passcodeWords.all fun pair => pair.2.toList.all Char.isDigit &&
        pair.2.toList.length == 1) = true := by decide
    have hpair := List.all_eq_true.mp hall (String.ofList token, n) (by simp [hwords])
    obtain ⟨hdigit, hlength⟩ := Bool.and_eq_true_iff.mp hpair
    obtain ⟨digit, hone⟩ := List.length_eq_one_iff.mp (beq_iff_eq.mp hlength)
    exact .inr ⟨digit, List.all_eq_true.mp hdigit digit (by rw [hone]; simp), hone⟩
  | none =>
    rw [Option.getD_none]
    split
    · next h => 
      rw [Bool.and_eq_true, decide_eq_true_iff, List.length_eq_one_iff] at h
      obtain ⟨⟨digit, rfl⟩, hdigit⟩ := h
      exact .inr ⟨digit, by simpa using hdigit, by simp⟩
    · exact .inl rfl

theorem length_flatMap_numeral (row : List (List Char)) :
    (row.flatMap fun token => (numeral token).toList).length ≤ row.length ∧
    ((row.flatMap fun token => (numeral token).toList).length = row.length ↔
      ∀ token ∈ row, numeral token ≠ "") := by
  induction row with
  | nil => simp
  | cons token row ih =>
    rw [List.flatMap_cons, List.length_append, List.length_cons, List.forall_mem_cons]
    obtain hempty | ⟨digit, -, hdigit⟩ := numeral_digit token
    · simp only [hempty, String.toList_empty, List.length_nil, Nat.zero_add, ne_eq, not_true,
        false_and, iff_false]
      omega
    · have hne : numeral token ≠ "" := fun h => by simp [h] at hdigit
      simp only [hdigit, hne, List.length_singleton, ne_eq, not_false_eq_true, true_and, ← ih.2]
      omega

theorem all_flatMap_numeral (row : List (List Char)) :
    ∀ c ∈ row.flatMap fun token => (numeral token).toList, c.isDigit = true := by
  intro c hc
  obtain ⟨token, -, hc⟩ := List.mem_flatMap.mp hc
  obtain hempty | ⟨digit, hdigit, htoken⟩ := numeral_digit token
  · simp [hempty] at hc
  · rw [htoken, List.mem_singleton] at hc
    rwa [hc]

/-- Four tokens read a code when each is a numeral. -/
theorem tokensCode_eq_none_iff {row : List (List Char)} (h : row.length = 4) :
    tokensCode row = none ↔ ¬ ∀ token ∈ row, numeral token ≠ "" := by
  have hcode : (String.join (row.map numeral)).toList = row.flatMap fun token => (numeral token).toList := by
    simp [String.toList_join, List.flatMap_map]
  unfold tokensCode
  simp only [← String.length_toList, hcode]
  rw [← (length_flatMap_numeral row).2, h]
  have hall : (row.flatMap fun token => (numeral token).toList).all (·.isDigit) = true :=
    List.all_eq_true.mpr (all_flatMap_numeral row)
  rw [hall, Bool.and_true]
  split <;> simp_all [-List.length_flatMap]

theorem firstCode_eq_none_iff (tokens : List (List Char)) :
    firstCode tokens = none ↔ ∀ row, row <:+: tokens → ¬ IsFourNumerals row := by
  induction tokens using firstCode.induct with
  | case1 a b c d tokens ih =>
    have hhead : firstCode (a :: b :: c :: d :: tokens) = none ↔
        tokensCode [a, b, c, d] = none ∧ firstCode (b :: c :: d :: tokens) = none := by
      rw [firstCode]
      cases tokensCode [a, b, c, d] <;> simp
    rw [hhead, ih, tokensCode_eq_none_iff rfl]
    constructor
    · rintro ⟨hfirst, hlater⟩ row hrow ⟨hlength, hnumerals⟩
      rcases List.infix_cons_iff.mp hrow with hprefix | hinfix
      · have : row = [a, b, c, d] := by
          rw [List.prefix_iff_eq_take.mp hprefix, hlength]
          rfl
        exact hfirst (this ▸ hnumerals)
      · exact hlater row hinfix ⟨hlength, hnumerals⟩
    · intro h
      refine ⟨fun hnumerals => h [a, b, c, d] ?_ ⟨rfl, hnumerals⟩,
        fun row hrow => h row (hrow.trans (List.suffix_cons a _).isInfix)⟩
      exact (List.prefix_append [a, b, c, d] tokens).isInfix
  | case2 tokens h =>
    have hshort : tokens.length < 4 := by
      match tokens, h with
      | [], _ | [_], _ | [_, _], _ | [_, _, _], _ => simp
      | a :: b :: c :: d :: tokens, h => exact absurd rfl (h a b c d tokens)
    have hnone : firstCode tokens = none := by
      unfold firstCode
      split
      · exact absurd rfl (h _ _ _ _ _)
      · rfl
    refine iff_of_true hnone fun row hrow hfour => ?_
    have := hrow.length_le
    have := hfour.1
    omega

theorem isWord_of_isPySpace (h : isPySpace c = true) : t.isWord c = false := by
  have hne : c ≠ '_' := by
    rintro rfl
    exact absurd h (by decide)
  simp [CharTable.isWord, t.isAlnum_space c h, hne]

theorem findAll_fourDigits_partsAt (h : isPySpace c = true) :
    PartsAt ((fourDigits t).findAll t.isWord) c := by
  have hword := isWord_of_isPySpace t h
  have hdigit : (Regex.one t.isDecimal).Bars t.isWord c := t.isDecimal_space c h
  refine Regex.findAll_partsAt (r := fourDigits t) ?_ ?_ hword
  · exact ⟨hword, Regex.bars_rep hdigit 4, hword⟩
  · exact Regex.consumes_bound_seq fun behind => rfl

/-- The four digits that are found are tokens. -/
theorem findAll_normalized (text : String) :
    (fourDigits t).findAll t.isWord (normalized t text) =
      (tokens text.toList).filter isFourDigits := by
  rw [read_normalized t rfl fun c hc => findAll_fourDigits_partsAt t hc]
  have htokens := not_mem_tokens text.toList
  generalize tokens text.toList = tokens at *
  induction tokens with
  | nil => rfl
  | cons token tokens ih =>
    rw [List.forall_mem_cons] at htokens
    rw [List.flatMap_cons, ih htokens.2, findAll_fourDigits t htokens.1.1, List.filter_cons]
    split <;> rfl

/-- A text is read a code from when its tokens are readable. -/
theorem extractSpokenPasscode_eq_none_iff (text : String) :
    extractSpokenPasscode t text = none ↔ ¬ Readable (tokens text.toList) := by
  have hreadable : ¬ Readable (tokens text.toList) ↔
      (tokens text.toList).filter isFourDigits = [] ∧ firstCode (tokens text.toList) = none := by
    rw [firstCode_eq_none_iff, List.filter_eq_nil_iff, Readable, not_or]
    simp
  unfold extractSpokenPasscode
  rw [hreadable, ← findAll_normalized t, ← splitBlanks_normalized t]
  dsimp only
  split
  · next h => simp [h, Regex.findAll, Regex.findAllFrom, splitBlanks, firstCode]
  · split
    · next h => 
      have hne : (fourDigits t).findAll t.isWord (normalized t text) ≠ [] := fun hnil => by
        simp [hnil] at h
      simp [hne]
    · next h => simp [List.getLast?_eq_none_iff.mp h]

example : extractSpokenPasscode .ascii "admin debug start code one two three four" = some "1234" := by
  decide +kernel

/-! ### What redaction leaves -/

/-- The stretches of a text that are not redacted: those between the matches of the second
pattern, of those between the matches of the first. -/
def unredacted (text : List Char) : List (List Char) :=
  ((digitPasscode t).split t.isWord text).flatMap (wordPasscode.split t.isWord)

/-- A character that no passcode word has, and that is not of a word, parts the second
substitution. -/
theorem sub_wordPasscode_bar (hwords : ∀ word ∈ passcodeAlternatives,
    ∀ letter ∈ word.toList, ignoreCase letter c = false) (hc : t.isWord c = false)
    (hspace : isPySpace c = false) (xs ys : List Char) :
    wordPasscode.sub t.isWord passcodeMark (xs ++ c :: ys) =
      wordPasscode.sub t.isWord passcodeMark xs ++ c ::
        wordPasscode.sub t.isWord passcodeMark ys := by
  have hword : passcodeWord.Bars t.isWord c := by
    refine Regex.bars_oneOf fun r hr => ?_
    obtain ⟨word, hword, rfl⟩ := List.mem_map.mp hr
    exact Regex.bars_word (hwords word hword)
  have hnext : (Regex.seq (.some isPySpace) passcodeWord).Bars t.isWord c :=
    ⟨⟨hspace, hspace⟩, hword⟩
  refine Regex.sub_bar (r := wordPasscode) ⟨hc, hword, Regex.bars_rep hnext 3, hc⟩ ?_ hc xs ys
  refine Regex.consumes_bound_seq (Regex.consumes_seq ?_)
  refine Regex.consumes_oneOf fun r hr => ?_
  obtain ⟨word, hword, rfl⟩ := List.mem_map.mp hr
  have hne : ∀ word ∈ passcodeAlternatives, word.toList ≠ [] := by decide +kernel
  exact Regex.consumes_word (hne word hword)

/-- What holds of no letter is decided letter by letter. -/
theorem no_letter_of_all (h : (passcodeAlternatives.all fun word =>
    word.toList.all fun letter => !ignoreCase letter c) = true) :
    ∀ word ∈ passcodeAlternatives, ∀ letter ∈ word.toList, ignoreCase letter c = false := by
  intro word hword letter hletter
  have hall := List.all_eq_true.mp h word hword
  exact (Bool.not_eq_true' _).mp (List.all_eq_true.mp hall letter hletter)

/-- Without a blank there are no four words. -/
theorem sub_wordPasscode_of_no_blank (text : List Char) (h : ∀ c ∈ text, isPySpace c = false) :
    wordPasscode.sub t.isWord passcodeMark text = text := by
  refine Regex.sub_eq_self fun behind cs hcs => ?_
  refine Regex.ends_seq_of_right fun behind cs' hcs' => ?_
  refine Regex.ends_seq_of_right fun behind cs'' hcs'' => ?_
  -- the next word needs a blank before it
  have hspace : (Regex.some isPySpace).ends t.isWord (behind, cs'') = [] := by
    cases cs'' with
    | nil => rfl
    | cons c cs'' =>
      have hc : c ∈ text := (hcs''.trans (hcs'.trans hcs)).mem List.mem_cons_self
      simp [Regex.some, Regex.ends, h c hc]
  exact Regex.ends_seq_of_left (Regex.ends_seq_of_left (Regex.ends_seq_of_left hspace))

theorem mark_between (xs ys : List Char) :
    xs ++ passcodeMark ++ ys = xs ++ '[' :: ("passcode".toList ++ ']' :: ys) := by
  have hmark : passcodeMark = '[' :: ("passcode".toList ++ [']']) := by decide +kernel
  rw [hmark, List.append_assoc, List.cons_append, List.append_assoc, List.singleton_append]

theorem sub_wordPasscode_mark (xs ys : List Char) :
    wordPasscode.sub t.isWord passcodeMark (xs ++ passcodeMark ++ ys) =
      wordPasscode.sub t.isWord passcodeMark xs ++ passcodeMark ++
        wordPasscode.sub t.isWord passcodeMark ys := by
  have hopen := sub_wordPasscode_bar t (c := '[') (no_letter_of_all (by decide +kernel))
    (by simp [CharTable.isWord, t.isAlnum_ascii]) rfl
  have hclose := sub_wordPasscode_bar t (c := ']') (no_letter_of_all (by decide +kernel))
    (by simp [CharTable.isWord, t.isAlnum_ascii]) rfl
  have hletters : ("passcode".toList.all fun c => !isPySpace c) = true := by decide +kernel
  have hpasscode := sub_wordPasscode_of_no_blank t "passcode".toList fun c hc =>
    (Bool.not_eq_true' _).mp (List.all_eq_true.mp hletters c hc)
  rw [mark_between xs ys, hopen xs, hclose _ ys, hpasscode, mark_between]

theorem redactSpokenPasscodes_toList (text : String) :
    (redactSpokenPasscodes t text).toList = passcodeMark.intercalate (unredacted t text.toList) := by
  unfold redactSpokenPasscodes unredacted
  rw [String.toList_ofList, Regex.sub_eq_intercalate (r := digitPasscode t), List.flatMap_def,
    ← intercalate_flatten]
  · induction (digitPasscode t).split t.isWord text.toList with
    | nil => rfl
    | cons part parts ih =>
      cases parts with
      | nil => simp [Regex.sub_eq_intercalate]
      | cons part' parts =>
        rw [List.intercalate_cons_cons, sub_wordPasscode_mark, ih, Regex.sub_eq_intercalate]
        simp only [List.map_cons, List.intercalate_cons_cons]
  · intro parts hparts
    obtain ⟨part, -, rfl⟩ := List.mem_map.mp hparts
    exact Regex.splitFrom_ne_nil _ _ _ _ _

theorem tokens_bar (h : lowerChars c = [c]) (hc : isSeparator c = true)
    (xs ys : List Char) : tokens (xs ++ c :: ys) = tokens xs ++ tokens ys := by
  unfold tokens
  rw [List.flatMap_append, List.flatMap_cons, h, List.singleton_append,
    List.splitOnP_append_cons _ _ hc, List.filter_append]

theorem tokens_mark (xs ys : List Char) :
    tokens (xs ++ passcodeMark ++ ys) = tokens xs ++ "passcode".toList :: tokens ys := by
  have hpasscode : tokens "passcode".toList = ["passcode".toList] := by decide +kernel
  rw [mark_between, tokens_bar (c := '[') rfl rfl, tokens_bar (c := ']') rfl rfl, hpasscode, List.singleton_append]

/-- No code is read across the mark. -/
theorem readable_mark (xs ys : List (List Char)) :
    Readable (xs ++ "passcode".toList :: ys) ↔ Readable xs ∨ Readable ys := by
  have hrow (row : List (List Char)) (hfour : IsFourNumerals row) :
      row <:+: xs ++ "passcode".toList :: ys ↔ row <:+: xs ∨ row <:+: ys := by
    have hmark : "passcode".toList ∉ row := fun hmem => hfour.2 _ hmem (by decide)
    constructor
    · intro h
      rcases List.infix_append_iff.mp h with h | h | ⟨l, r, rfl, hl, hr⟩
      · exact .inl h
      · rcases List.infix_cons_iff.mp h with h | h
        · rcases List.prefix_cons_iff.mp h with rfl | ⟨r, rfl, -⟩
          · exact .inr List.nil_infix
          · simp at hmark
        · exact .inr h
      · rcases List.prefix_cons_iff.mp hr with rfl | ⟨r, rfl, -⟩
        · exact .inl (by simpa using hl.isInfix)
        · simp at hmark
    · rintro (h | h)
      · exact h.trans (List.infix_append' [] xs _)
      · exact h.trans ((List.suffix_cons _ ys).trans (List.suffix_append xs _)).isInfix
  have hrows : (∃ row, row <:+: xs ++ "passcode".toList :: ys ∧ IsFourNumerals row) ↔
      (∃ row, row <:+: xs ∧ IsFourNumerals row) ∨ ∃ row, row <:+: ys ∧ IsFourNumerals row := by
    rw [← exists_or]
    exact exists_congr fun row => by
      rw [← or_and_right]
      exact and_congr_left (hrow row)
  have hdigits : (∃ token ∈ xs ++ "passcode".toList :: ys, isFourDigits token = true) ↔
      (∃ token ∈ xs, isFourDigits token = true) ∨ ∃ token ∈ ys, isFourDigits token = true := by
    have hpasscode : isFourDigits "passcode".toList = false := rfl
    simp only [List.mem_append, List.mem_cons, or_and_right, exists_or, exists_eq_left, hpasscode,
      Bool.false_eq_true, false_or]
  unfold Readable
  rw [hrows, hdigits, or_or_or_comm]

theorem readable_intercalate (parts : List (List Char)) :
    Readable (tokens (passcodeMark.intercalate parts)) ↔ ∃ part ∈ parts, Readable (tokens part) := by
  induction parts with
  | nil => simp [Readable, tokens, IsFourNumerals]
  | cons part parts ih =>
    cases parts with
    | nil => simp
    | cons part' parts =>
      rw [List.intercalate_cons_cons, tokens_mark, readable_mark, ih]
      simp

/-- **The redacted text is read no code from exactly when none of what redaction leaves is.** -/
theorem redaction_hides (t : CharTable) (text : String) :
    extractSpokenPasscode t (redactSpokenPasscodes t text) = none ↔
      ∀ stretch ∈ unredacted t text.toList, ¬ Readable (tokens stretch) := by
  rw [extractSpokenPasscode_eq_none_iff, redactSpokenPasscodes_toList, readable_intercalate]
  simp

/-- Neither pattern matches where digits and words take turns, and extraction reads both. -/
theorem mixed_numerals_remain :
    ¬ ∀ (t : CharTable) (text : String),
      extractSpokenPasscode t (redactSpokenPasscodes t text) = none := by
  intro h
  have hread : extractSpokenPasscode .ascii (redactSpokenPasscodes .ascii "1 two 3 four") =
      some "1234" := by decide +kernel
  rw [h] at hread
  exact Option.some_ne_none _ hread.symm

end HexeVoice.Admin
