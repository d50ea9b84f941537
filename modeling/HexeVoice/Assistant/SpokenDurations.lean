import HexeVoice.Assistant.Durations

/-!
# Spoken durations

Texts made of numerals, `and`, commas and units of time, and where `_DURATION_PART_RE` matches in
them.

## The model

A text is a row of pieces, each a token and the blanks after it. A numeral is of digits, a word
that the pattern knows, or one that it does not know.

## What is proved

**`mem_ends_spell`**: a match begins at the numerals that a unit follows, and at tens that a numeral
for ones and a unit follow; it is the pair of them.
-/

namespace HexeVoice.Assistant.Durations

open HexeVoice.Library HexeVoice.Library.Pattern HexeVoice.Assistant

/-! ### Tokens -/

/-- Number words that the pattern does not know. -/
def unreadWords : List String :=
  ["zero", "seventy", "eighty", "ninety", "hundred", "thousand", "million", "billion"]

inductive Token where
  | digits (text : List Char)
  /-- A number word that the pattern knows. -/
  | number (w : String)
  /-- Another number word. -/
  | unread (w : String)
  | and
  | comma
  | unit (w : String)
  deriving DecidableEq

namespace Token

def spelling : Token → List Char
  | digits text => text
  | number w | unread w | unit w => w.toList
  | and => "and".toList
  | comma => [',']

def IsNumeral : Token → Prop
  | digits _ | number _ | unread _ => True
  | and | comma | unit _ => False

/-- The numeral is one that the pattern knows. -/
def Readable : Token → Prop
  | digits _ | number _ => True
  | unread _ | and | comma | unit _ => False

instance : ∀ t : Token, Decidable t.Readable
  | digits _ | number _ => .isTrue trivial
  | unread _ | and | comma | unit _ => .isFalse not_false

/-- The token is one of its kind. -/
def Proper (u : Numerals) : Token → Prop
  | digits text => IsDigits u text
  | number w => w ∈ knownWords
  | unread w => w ∈ unreadWords
  | and | comma => True
  | unit w => w ∈ unitWords

/-- What a numeral stands for. -/
def amount (u : Numerals) : Token → ℚ
  | digits text => float u text
  | number w => (numberWord w.toList).getD 0
  | unread _ | and | comma | unit _ => 0

end Token

/-- A token and the blanks after it. -/
abbrev Piece := Token × List Char

/-- The text of the pieces. -/
def spell (pieces : List Piece) : List Char := pieces.flatMap fun p => p.1.spelling ++ p.2

/-- Blanks part two tokens, unless one of them is a comma, or a unit follows digits. -/
def Parts (p q : Piece) : Prop :=
  p.2 = [] → p.1 = .comma ∨ q.1 = .comma ∨ (∃ text w, p.1 = .digits text ∧ q.1 = .unit w)

/-- The pieces are those of a text. -/
def Spaced (u : Numerals) : List Piece → Prop
  | [] => True
  | [p] => p.1.Proper u ∧ ∀ c ∈ p.2, isPySpace c = true
  | p :: q :: ps =>
    p.1.Proper u ∧ (∀ c ∈ p.2, isPySpace c = true) ∧ Parts p q ∧ Spaced u (q :: ps)

/-! ### Counted pairs -/

/-- A number and a unit that are counted, the blanks after them, and the pieces that follow. -/
structure Found where
  number : List Char
  unit : String
  amount : ℚ
  blanks : List Char
  rest : List Piece

/-- The seconds of a unit. -/
def secondsOf (w : String) : ℚ := (unitSeconds.lookup w).getD 0

/-- The pair that the pieces begin with. -/
def pairAt (u : Numerals) : List Piece → Option Found
  | (.number a, g) :: (.number b, _) :: (.unit x, g') :: ps =>
    if a ∈ tensWords ∧ b ∈ onesWords then
      some ⟨a.toList ++ (g ++ b.toList), x,
        ((Token.number a).amount u + (Token.number b).amount u) * secondsOf x, g', ps⟩
    else none
  | (t, _) :: (.unit x, g') :: ps =>
    if t.Readable then some ⟨t.spelling, x, t.amount u * secondsOf x, g', ps⟩ else none
  | _ => none

variable (u : Numerals)

/-! ### The words -/

section vocabulary

variable {u}

/-- The letters that a unit begins with; all but `man's` have no other character. -/
def unitLetters (x : String) : List Char := x.toList.takeWhile Char.isLower

/-- The words of the tokens, but for `man's`. -/
def vocabulary : List String :=
  knownWords ++ unreadWords ++ ["and"] ++ unitWords.filter (· ≠ "man's")

theorem isLower_of_mem_vocabulary {w : String} (h : w ∈ vocabulary) :
    w.toList ≠ [] ∧ ∀ c ∈ w.toList, c.isLower = true := by
  have hall : ∀ w ∈ vocabulary, w.toList ≠ [] ∧ ∀ c ∈ w.toList, c.isLower = true := by
    simp [vocabulary, knownWords, plainWords, onesWords, tensWords, unreadWords, unitWords, unitSeconds]
  exact hall w h

/-- How the words are told apart: no word of the vocabulary is a number and a unit without a blank
between, nor the start of `man's`; no number is another word or starts as `man's` does; and after its
letters a unit ends, or is `man's`. -/
theorem words_apart :
    (∀ v ∈ vocabulary, v.toList ≠ unitLetters "man's" ∧ ∀ w ∈ knownWords, w.toList <+: v.toList →
      v.toList.drop w.toList.length ∉ unitWords.map unitLetters) ∧
    (∀ w ∈ knownWords, w.toList.head? ≠ some 'm' ∧ w ∉ unreadWords ∧ w ≠ "and" ∧ w ∉ unitWords) ∧
    ∀ x ∈ unitWords, unitLetters x ≠ [] ∧ (x ∉ unreadWords ∧ x ≠ "and") ∧
      (x.toList = unitLetters x ∧ x ∈ vocabulary ∨
        x = "man's" ∧ x.toList = unitLetters x ++ "'s".toList) := by
  decide +kernel

theorem ne_glued {v w x : String} (hv : v ∈ vocabulary) (hw : w ∈ knownWords) (hx : x ∈ unitWords) :
    v.toList ≠ w.toList ++ unitLetters x := by
  intro heq
  have hprefix : w.toList <+: v.toList := heq ▸ List.prefix_append ..
  refine (words_apart.1 v hv).2 w hw hprefix (List.mem_map.mpr ⟨x, hx, ?_⟩)
  rw [heq, List.drop_left]

theorem unitLetters_ne_nil {x : String} (hx : x ∈ unitWords) :
    unitLetters x ≠ [] ∧ ∀ c ∈ unitLetters x, c.isLower = true :=
  ⟨(words_apart.2.2 x hx).1, fun _ hc => List.mem_takeWhile_imp hc⟩

theorem unit_eq {x : String} (hx : x ∈ unitWords) :
    x.toList = unitLetters x ∧ x ∈ vocabulary ∨
      x = "man's" ∧ x.toList = unitLetters x ++ "'s".toList :=
  (words_apart.2.2 x hx).2.2

theorem man_notMem : ∀ v ∈ vocabulary, v.toList ≠ unitLetters "man's" := fun v hv =>
  (words_apart.1 v hv).1

theorem isWord_apostrophe : u.isWord '\'' = false := by
  simp [CharTable.isWord, u.isAlnum_ascii '\'' (by decide)]

theorem isWord_comma : u.isWord ',' = false := by
  simp [CharTable.isWord, u.isAlnum_ascii ',' (by decide)]

theorem isWord_dot : u.isWord '.' = false := by
  simp [CharTable.isWord, u.isAlnum_ascii '.' (by decide)]

theorem isDecimal_of_isLower {c : Char} (h : c.isLower = true) : u.isDecimal c = false := by
  have hcode : 97 ≤ c.toNat ∧ c.toNat ≤ 122 := by
    simpa [Char.isLower, UInt32.le_iff_toNat_le, ← Char.toNat_val] using h
  rw [u.isDecimal_ascii c (by omega)]
  simp only [Char.isDigit, UInt32.le_iff_toNat_le, Bool.and_eq_false_iff, decide_eq_false_iff_not,
    ge_iff_le]
  right
  have hnine : '9'.val.toNat = 57 := rfl
  have : c.toNat = c.val.toNat := rfl
  omega

end vocabulary

/-! ### Texts that begin alike -/

section spans

/-- A text does not begin with a character of the class. -/
def NotFrom (p : Char → Bool) (text : List Char) : Prop := ∀ c ∈ text.head?, p c = false

theorem notFrom_cons {p : Char → Bool} {c : Char} {cs : List Char} (h : p c = false) :
    NotFrom p (c :: cs) := by
  intro d hd
  obtain rfl : c = d := by simpa using hd
  exact h

variable {p : Char → Bool} {w w' text text' : List Char}

/-- What a text begins with of a class is a part of all that it begins with. -/
theorem exists_of_span (hw : ∀ c ∈ w, p c = true) (htext : NotFrom p text')
    (h : w ++ text = w' ++ text') : ∃ rest, w' = w ++ rest ∧ text = rest ++ text' := by
  rcases List.append_eq_append_iff.mp h with ⟨rest, rfl, rfl⟩ | ⟨rest, rfl, rfl⟩
  · exact ⟨rest, rfl, rfl⟩
  · cases rest with
    | nil => exact ⟨[], by simp, rfl⟩
    | cons c rest =>
      have hc := hw c (by simp)
      rw [htext c rfl] at hc
      exact absurd hc (by decide)

/-- What a text begins with of a class, and the rest, are determined. -/
theorem span_unique (hw : ∀ c ∈ w, p c = true) (hw' : ∀ c ∈ w', p c = true)
    (htext : NotFrom p text) (htext' : NotFrom p text') (h : w ++ text = w' ++ text') :
    w = w' ∧ text = text' := by
  obtain ⟨rest, rfl, rfl⟩ := exists_of_span hw htext' h
  cases rest with
  | nil => exact ⟨by simp, rfl⟩
  | cons c rest =>
    have hc := hw' c (by simp)
    rw [htext c rfl] at hc
    exact absurd hc (by decide)

end spans

/-! ### What stands in a text -/

section texts

variable {u} {t : Token} {g : List Char} {pieces ps : List Piece} {text : List Char}
variable {x : String}

/-- Nothing follows but a blank or a comma. -/
def Stops (text : List Char) : Prop := ∀ c ∈ text.head?, isPySpace c = true ∨ c = ','

theorem Stops.notFrom (h : Stops text) {p : Char → Bool} (hp : ∀ c, isPySpace c = true → p c = false)
    (hcomma : p ',' = false) : NotFrom p text := by
  intro c hc
  rcases h c hc with hspace | rfl
  · exact hp c hspace
  · exact hcomma

theorem Stops.notFrom_word (h : Stops text) : NotFrom u.isWord text :=
  h.notFrom (fun _ => u.isWord_space) isWord_comma

theorem spell_cons (t : Token) (g : List Char) (ps : List Piece) :
    spell ((t, g) :: ps) = t.spelling ++ (g ++ spell ps) := by
  simp [spell]

theorem Spaced.head (h : Spaced u ((t, g) :: ps)) :
    t.Proper u ∧ (∀ c ∈ g, isPySpace c = true) ∧ Spaced u ps := by
  cases ps with
  | nil => exact ⟨h.1, h.2, trivial⟩
  | cons q ps => exact ⟨h.1, h.2.1, h.2.2.2⟩

/-- A word of the tokens is letters, but for `man's`. -/
theorem spelling_cases (h : t.Proper u) :
    (∃ text, t = .digits text ∧ IsDigits u text) ∨ t = .comma ∨ t = .unit "man's" ∨
      ∃ w ∈ vocabulary, t.spelling = w.toList ∧ (t = .number w ∧ w ∈ knownWords ∨
        t = .unread w ∧ w ∈ unreadWords ∨ t = .and ∧ w = "and" ∨ t = .unit w ∧ w ∈ unitWords) := by
  cases t with
  | digits text => exact .inl ⟨text, rfl, h⟩
  | comma => exact .inr (.inl rfl)
  | number w =>
    exact .inr (.inr (.inr ⟨w, by simp [vocabulary, show w ∈ knownWords from h], rfl,
      .inl ⟨rfl, h⟩⟩))
  | unread w =>
    exact .inr (.inr (.inr ⟨w, by simp [vocabulary, show w ∈ unreadWords from h], rfl,
      .inr (.inl ⟨rfl, h⟩)⟩))
  | and =>
    exact .inr (.inr (.inr ⟨"and", by simp [vocabulary], rfl, .inr (.inr (.inl ⟨rfl, rfl⟩))⟩))
  | unit w =>
    rcases unit_eq h with ⟨-, hw⟩ | ⟨rfl, -⟩
    · exact .inr (.inr (.inr ⟨w, hw, rfl, .inr (.inr (.inr ⟨rfl, h⟩))⟩))
    · exact .inr (.inr (.inl rfl))

theorem IsDigits.head {text : List Char} (h : IsDigits u text) :
    ∃ c cs, text = c :: cs ∧ u.isDecimal c = true := by
  cases h with
  | whole hne hall =>
    obtain ⟨c, cs, rfl⟩ := List.exists_cons_of_ne_nil hne
    exact ⟨c, cs, rfl, hall c (by simp)⟩
  | fraction hne hall =>
    obtain ⟨c, cs, rfl⟩ := List.exists_cons_of_ne_nil hne
    exact ⟨c, _, rfl, hall c (by simp)⟩

/-- A token begins with no blank. -/
theorem spelling_head (h : t.Proper u) : ∃ c cs, t.spelling = c :: cs ∧ isPySpace c = false ∧
    (t = .comma ∨ u.isWord c = true) := by
  rcases spelling_cases h with ⟨text, rfl, hdigits⟩ | rfl | rfl | ⟨w, hw, hspell, -⟩
  · obtain ⟨c, cs, hcs, hc⟩ := hdigits.head
    have hword := isWord_of_isDecimal hc
    exact ⟨c, cs, hcs, u.isPySpace_of_isWord hword, .inr hword⟩
  · exact ⟨',', [], rfl, by decide, .inl rfl⟩
  · exact ⟨'m', "an's".toList, by decide, by decide, .inr (u.isWord_lowercase (by decide))⟩
  · obtain ⟨hne, hlower⟩ := isLower_of_mem_vocabulary hw
    obtain ⟨c, cs, hcs⟩ := List.exists_cons_of_ne_nil hne
    have hword := u.isWord_lowercase (hlower c (by simp [hcs]))
    exact ⟨c, cs, hspell.trans hcs, u.isPySpace_of_isWord hword, .inr hword⟩

theorem spell_notFrom_space (h : Spaced u pieces) : NotFrom isPySpace (spell pieces) := by
  match pieces, h with
  | [], _ => simp [NotFrom, spell]
  | (t, g) :: ps, h =>
    obtain ⟨c, cs, hcs, hc, -⟩ := spelling_head h.head.1
    rw [spell_cons, hcs]
    exact notFrom_cons hc

/-- What follows a token: blanks, a comma or nothing; or a unit follows digits. -/
theorem Spaced.follow (h : Spaced u ((t, g) :: ps)) (hcomma : t ≠ .comma) :
    Stops (g ++ spell ps) ∨
      g = [] ∧ (∃ text, t = .digits text) ∧ ∃ x g' ps', ps = (.unit x, g') :: ps' := by
  cases g with
  | cons c g =>
    refine .inl fun d hd => .inl ?_
    obtain rfl : c = d := by simpa using hd
    exact h.head.2.1 c (by simp)
  | nil =>
    match ps, h with
    | [], _ => exact .inl (by simp [Stops, spell])
    | (t', g') :: ps, h =>
      rcases h.2.2.1 rfl with hcomma' | hcomma' | ⟨text, w, htext, hunit⟩
      · exact absurd hcomma' hcomma
      · left
        dsimp only at hcomma'
        rw [List.nil_append, spell_cons, hcomma']
        intro c hc
        exact .inr (by simpa [Token.spelling, eq_comm] using hc)
      · dsimp only at htext hunit
        exact .inr ⟨rfl, ⟨text, htext⟩, w, g', ps, by rw [hunit]⟩

theorem toList_unit_head (hx : x ∈ unitWords) :
    ∃ c cs, x.toList = c :: cs ∧ c.isLower = true := by
  obtain ⟨hne, hlower⟩ := unitLetters_ne_nil hx
  obtain ⟨c, cs, hcs⟩ := List.exists_cons_of_ne_nil hne
  have hc := hlower c (by simp [hcs])
  rcases unit_eq hx with ⟨heq, -⟩ | ⟨-, heq⟩
  · exact ⟨c, cs, heq.trans hcs, hc⟩
  · exact ⟨c, cs ++ "'s".toList, by rw [heq, hcs]; rfl, hc⟩

theorem isWord_letters {w : List Char} (h : ∀ c ∈ w, c.isLower = true) :
    ∀ c ∈ w, u.isWord c = true := fun c hc => u.isWord_lowercase (h c hc)

/-- Where a text begins with a unit that ends there, a piece does. -/
theorem unit_of_spell (h : Spaced u pieces) {rest : List Char} (hx : x ∈ unitWords)
    (hrest : NotFrom u.isWord rest) (htext : spell pieces = x.toList ++ rest) :
    ∃ g ps, pieces = (.unit x, g) :: ps ∧ rest = g ++ spell ps := by
  obtain ⟨c, cs, hcs, hlower⟩ := toList_unit_head hx
  have hquote : NotFrom u.isWord ("'s".toList ++ rest) := notFrom_cons isWord_apostrophe
  match pieces, h with
  | [], _ => simp [spell, hcs] at htext
  | (t, g) :: ps, h =>
    rw [spell_cons] at htext
    rcases spelling_cases h.head.1 with ⟨text, rfl, hdigits⟩ | rfl | rfl | ⟨w, hw, hspell, hkind⟩
    · obtain ⟨d, ds, rfl, hd⟩ := hdigits.head
      rw [hcs] at htext
      obtain rfl : d = c := (List.cons_eq_cons.mp htext).1
      rw [isDecimal_of_isLower hlower] at hd
      exact absurd hd (by decide)
    · rw [hcs] at htext
      obtain rfl : ',' = c := (List.cons_eq_cons.mp htext).1
      exact absurd hlower (by decide)
    · -- the token is `man's`
      rcases unit_eq hx with ⟨heq, hmem⟩ | ⟨rfl, -⟩
      · have hman : (Token.unit "man's").spelling = unitLetters "man's" ++ "'s".toList := by decide
        rw [hman, List.append_assoc, heq] at htext
        have hletters := span_unique (isWord_letters (unitLetters_ne_nil (by decide)).2)
          (isWord_letters (unitLetters_ne_nil hx).2) (notFrom_cons (isWord_apostrophe (u := u))) hrest
          htext
        exact absurd (heq.trans hletters.1.symm) (man_notMem x hmem)
      · exact ⟨g, ps, rfl, (List.append_cancel_left htext).symm⟩
    · have hstops : Stops (g ++ spell ps) := by
        have hcomma : t ≠ .comma := by
          rintro rfl
          simp at hkind
        rcases h.follow hcomma with hstops | ⟨-, ⟨text, rfl⟩, -⟩
        · exact hstops
        · simp at hkind
      have hletters := isWord_letters (u := u) (isLower_of_mem_vocabulary hw).2
      rw [hspell] at htext
      rcases unit_eq hx with ⟨heq, hmem⟩ | ⟨rfl, heq⟩
      · obtain ⟨hsame, rfl⟩ := span_unique hletters
          (isWord_letters (isLower_of_mem_vocabulary hmem).2) hstops.notFrom_word hrest htext
        obtain rfl : w = x := String.toList_injective hsame
        have hunit : t = .unit w := by
          have hother := (words_apart.2.2 w hx).2.1
          rcases hkind with ⟨-, hk⟩ | ⟨-, hk⟩ | ⟨-, hk⟩ | ⟨hk, -⟩
          · exact absurd hx (words_apart.2.1 w hk).2.2.2
          · exact absurd hk hother.1
          · exact absurd hk hother.2
          · exact hk
        exact ⟨g, ps, by rw [hunit], rfl⟩
      · rw [heq, List.append_assoc] at htext
        have := span_unique hletters (isWord_letters (unitLetters_ne_nil hx).2)
          hstops.notFrom_word hquote htext
        exact absurd this.1 (man_notMem w hw)

/-- Blanks, and a unit that ends there. -/
def UnitFollows (u : Numerals) (text : List Char) : Prop :=
  ∃ blanks rest, ∃ x ∈ unitWords, text = blanks ++ (x.toList ++ rest) ∧
    (∀ c ∈ blanks, isPySpace c = true) ∧ NotFrom u.isWord rest

/-- Where a text begins with a number word that the pattern knows, a piece does. -/
theorem word_of_spell (h : Spaced u pieces) {w : String} {rest : List Char} (hw : w ∈ knownWords)
    (hrest : NotFrom u.isWord rest ∨ UnitFollows u rest) (htext : spell pieces = w.toList ++ rest) :
    ∃ g ps, pieces = (.number w, g) :: ps ∧ rest = g ++ spell ps := by
  obtain ⟨hne, hlower⟩ := isLower_of_mem_knownWords hw
  obtain ⟨c, cs, hcs⟩ := List.exists_cons_of_ne_nil hne
  have hc := hlower c (by simp [hcs])
  match pieces, h with
  | [], _ => simp [spell, hcs] at htext
  | (t, g) :: ps, h =>
    rw [spell_cons] at htext
    rcases spelling_cases h.head.1 with ⟨text, rfl, hdigits⟩ | rfl | rfl | ⟨v, hv, hspell, hkind⟩
    · obtain ⟨d, ds, rfl, hd⟩ := hdigits.head
      rw [hcs] at htext
      obtain rfl : d = c := (List.cons_eq_cons.mp htext).1
      rw [isDecimal_of_isLower hc] at hd
      exact absurd hd (by decide)
    · rw [hcs] at htext
      obtain rfl : ',' = c := (List.cons_eq_cons.mp htext).1
      exact absurd hc (by decide)
    · have hhead := congrArg List.head? htext
      rw [hcs] at hhead
      refine absurd ?_ (words_apart.2.1 w hw).1
      rw [hcs]
      exact hhead.symm
    · have hstops : Stops (g ++ spell ps) := by
        have hcomma : t ≠ .comma := by
          rintro rfl
          simp at hkind
        rcases h.follow hcomma with hstops | ⟨-, ⟨text, rfl⟩, -⟩
        · exact hstops
        · simp at hkind
      have hletters := isWord_letters (u := u) (isLower_of_mem_vocabulary hv).2
      rw [hspell] at htext
      have hplain (hrest : NotFrom u.isWord rest) :
          ∃ g' ps', (t, g) :: ps = (.number w, g') :: ps' ∧ rest = g' ++ spell ps' := by
        obtain ⟨hsame, rfl⟩ := span_unique hletters (isWord_letters hlower) hstops.notFrom_word hrest
          htext
        obtain rfl : v = w := String.toList_injective hsame
        have hother := (words_apart.2.1 v hw).2
        rcases hkind with ⟨rfl, -⟩ | ⟨-, hk⟩ | ⟨-, hk⟩ | ⟨-, hk⟩
        · exact ⟨g, ps, rfl, rfl⟩
        · exact absurd hk hother.1
        · exact absurd hk hother.2.1
        · exact absurd hk hother.2.2
      rcases hrest with hrest | ⟨blanks, rest', x, hx, rfl, hblanks, hrest'⟩
      · exact hplain hrest
      · cases blanks with
        | cons b blanks => exact hplain (notFrom_cons (u.isWord_space (hblanks b (by simp))))
        | nil =>
          -- the unit would stand in the word
          exfalso
          obtain ⟨glued, hglued, heq⟩ :=
            exists_of_span (isWord_letters (u := u) hlower) hstops.notFrom_word htext.symm
          rw [List.nil_append] at heq
          have hgluedword : ∀ c ∈ glued, u.isWord c = true :=
            fun c hc => hletters c (by rw [hglued]; simp [hc])
          have hunit : glued = unitLetters x := by
            rcases unit_eq hx with ⟨hxletters, -⟩ | ⟨-, hxletters⟩
            · rw [hxletters] at heq
              exact (span_unique (isWord_letters (unitLetters_ne_nil hx).2) hgluedword hrest'
                hstops.notFrom_word heq).1.symm
            · rw [hxletters, List.append_assoc] at heq
              exact (span_unique (isWord_letters (unitLetters_ne_nil hx).2) hgluedword
                (notFrom_cons isWord_apostrophe) hstops.notFrom_word heq).1.symm
          exact ne_glued hv hw hx (by rw [hglued, hunit])

/-- Digits and what follows them are determined. -/
theorem digits_unique {n n' rest rest' : List Char} (hn : IsDigits u n) (hn' : IsDigits u n')
    (hrest : NotFrom u.isDecimal rest ∧ NotFrom (· == '.') rest)
    (hrest' : NotFrom u.isDecimal rest' ∧ NotFrom (· == '.') rest')
    (h : n ++ rest = n' ++ rest') : n = n' ∧ rest = rest' := by
  have hdot : u.isDecimal '.' = false := by
    rw [u.isDecimal_ascii '.' (by decide)]
    decide
  cases hn with
  | whole _ hall =>
    cases hn' with
    | whole _ hall' => exact span_unique hall hall' hrest.1 hrest'.1 h
    | fraction _ hall' =>
      rw [List.append_assoc] at h
      have := (span_unique hall hall' hrest.1 (notFrom_cons hdot) h).2
      have := hrest.2 '.' (by rw [this]; rfl)
      simp at this
  | fraction _ hall _ hfraction =>
    rw [List.append_assoc] at h
    cases hn' with
    | whole _ hall' =>
      have := (span_unique hall hall' (notFrom_cons hdot) hrest'.1 h).2
      have := hrest'.2 '.' (by rw [← this]; rfl)
      simp at this
    | fraction _ hall' _ hfraction' =>
      rw [List.append_assoc] at h
      obtain ⟨rfl, htail⟩ := span_unique hall hall' (notFrom_cons hdot) (notFrom_cons hdot) h
      rw [List.cons.injEq] at htail
      obtain ⟨rfl, rfl⟩ := span_unique hfraction hfraction' hrest.1 hrest'.1 htail.2
      exact ⟨rfl, rfl⟩

theorem UnitFollows.notFrom_digits (h : UnitFollows u text) :
    NotFrom u.isDecimal text ∧ NotFrom (· == '.') text := by
  obtain ⟨blanks, rest, x, hx, rfl, hblanks, -⟩ := h
  obtain ⟨c, cs, hcs, hc⟩ := toList_unit_head hx
  cases blanks with
  | cons b blanks =>
    have hb := hblanks b (by simp)
    refine ⟨notFrom_cons (u.isDecimal_space b hb), notFrom_cons ?_⟩
    rw [beq_eq_false_iff_ne]
    rintro rfl
    exact absurd hb (by decide)
  | nil =>
    rw [List.nil_append, hcs]
    refine ⟨notFrom_cons (isDecimal_of_isLower hc), notFrom_cons ?_⟩
    rw [beq_eq_false_iff_ne]
    rintro rfl
    exact absurd hc (by decide)

/-- What follows digits in a row of pieces does not go on with them. -/
theorem follow_notFrom_digits (h : Spaced u ((.digits text, g) :: ps)) :
    NotFrom u.isDecimal (g ++ spell ps) ∧ NotFrom (· == '.') (g ++ spell ps) := by
  rcases h.follow (by simp) with hstops | ⟨rfl, -, x, g', ps', rfl⟩
  · constructor
    · exact hstops.notFrom u.isDecimal_space (by rw [u.isDecimal_ascii ',' (by decide)]; decide)
    · refine hstops.notFrom (fun c hc => ?_) (by decide)
      rw [beq_eq_false_iff_ne]
      rintro rfl
      exact absurd hc (by decide)
  · have hx : x ∈ unitWords := h.head.2.2.head.1
    obtain ⟨c, cs, hcs, hc⟩ := toList_unit_head hx
    rw [List.nil_append, spell_cons]
    have hspell : (Token.unit x).spelling = c :: cs := hcs
    rw [hspell]
    refine ⟨notFrom_cons (isDecimal_of_isLower hc), notFrom_cons ?_⟩
    rw [beq_eq_false_iff_ne]
    rintro rfl
    exact absurd hc (by decide)

/-- Blanks before a unit are those after the piece. -/
theorem unit_of_follow (hps : Spaced u ps) (hg : ∀ c ∈ g, isPySpace c = true) {blanks rest : List Char}
    (hx : x ∈ unitWords) (hblanks : ∀ c ∈ blanks, isPySpace c = true)
    (hrest : NotFrom u.isWord rest) (h : g ++ spell ps = blanks ++ (x.toList ++ rest)) :
    blanks = g ∧ ∃ g' ps', ps = (.unit x, g') :: ps' ∧ rest = g' ++ spell ps' := by
  obtain ⟨c, cs, hcs, hc⟩ := toList_unit_head hx
  have hspace : NotFrom isPySpace (x.toList ++ rest) := by
    rw [hcs]
    exact notFrom_cons (u.isPySpace_of_isWord (u.isWord_lowercase hc))
  obtain ⟨rfl, htext⟩ := span_unique hg hblanks (spell_notFrom_space hps) hspace h
  exact ⟨rfl, unit_of_spell hps hx hrest htext⟩

/-! ### What is matched -/

theorem pairAt_eq_some {found : Found} : pairAt u pieces = some found ↔
    (∃ a b x g g' g'' ps, a ∈ tensWords ∧ b ∈ onesWords ∧
      pieces = (.number a, g) :: (.number b, g') :: (.unit x, g'') :: ps ∧
      found = ⟨a.toList ++ (g ++ b.toList), x,
        ((Token.number a).amount u + (Token.number b).amount u) * secondsOf x, g'', ps⟩) ∨
    ∃ t x g g' ps, t.Readable ∧ pieces = (t, g) :: (.unit x, g') :: ps ∧
      found = ⟨t.spelling, x, t.amount u * secondsOf x, g', ps⟩ := by
  constructor
  · intro h
    unfold pairAt at h
    split at h
    · split at h
      · next hwords =>
        cases h
        exact .inl ⟨_, _, _, _, _, _, _, hwords.1, hwords.2, rfl, rfl⟩
      · cases h
    · split at h
      · next hreadable =>
        cases h
        exact .inr ⟨_, _, _, _, _, hreadable, rfl, rfl⟩
      · cases h
    · cases h
  · rintro (⟨a, b, x, g, g', g'', ps, ha, hb, rfl, rfl⟩ | ⟨t, x, g, g', ps, ht, rfl, rfl⟩)
    · rw [pairAt, if_pos ⟨ha, hb⟩]
    · cases t <;> simp_all [pairAt, Token.Readable]

/-- A number in a row of pieces is followed by its unit. -/
theorem pairAt_of_text (h : Spaced u pieces) {n blanks rest : List Char}
    (hx : x ∈ unitWords) (htext : spell pieces = n ++ (blanks ++ (x.toList ++ rest)))
    (hn : IsNumber u n) (hblanks : ∀ c ∈ blanks, isPySpace c = true) (hrest : NotFrom u.isWord rest) :
    ∃ found, pairAt u pieces = some found ∧ n = found.number ∧ x = found.unit ∧
      rest = found.blanks ++ spell found.rest := by
  have hfollows : UnitFollows u (blanks ++ (x.toList ++ rest)) :=
    ⟨blanks, rest, x, hx, rfl, hblanks, hrest⟩
  cases hn with
  | @word w hw =>
    obtain ⟨g, ps, rfl, hps⟩ := word_of_spell h hw (.inr hfollows) htext
    obtain ⟨-, g', ps', rfl, hrest'⟩ := unit_of_follow h.head.2.2 h.head.2.1 hx hblanks hrest hps.symm
    exact ⟨_, pairAt_eq_some.mpr (.inr ⟨.number w, _, _, _, _, trivial, rfl, rfl⟩), rfl, rfl, hrest'⟩
  | @compound a b spaces ha hb hne hspaces =>
    rw [List.append_assoc, List.append_assoc] at htext
    have hspace : NotFrom u.isWord (spaces ++ (b.toList ++ (blanks ++ (x.toList ++ rest)))) := by
      obtain ⟨c, cs, rfl⟩ := List.exists_cons_of_ne_nil hne
      exact notFrom_cons (u.isWord_space (hspaces c (by simp)))
    have hb' : b ∈ knownWords := by simp [knownWords, plainWords, hb]
    obtain ⟨g, ps, rfl, hps⟩ := word_of_spell h (by simp [knownWords, ha]) (.inl hspace) htext
    have hbspace : NotFrom isPySpace (b.toList ++ (blanks ++ (x.toList ++ rest))) := by
      obtain ⟨hbne, hlower⟩ := isLower_of_mem_knownWords hb'
      obtain ⟨c, cs, hcs⟩ := List.exists_cons_of_ne_nil hbne
      rw [hcs]
      exact notFrom_cons (u.isPySpace_of_isWord (u.isWord_lowercase (hlower c (by simp [hcs]))))
    obtain ⟨rfl, htail⟩ :=
      span_unique hspaces h.head.2.1 hbspace (spell_notFrom_space h.head.2.2) hps
    obtain ⟨g', ps', rfl, hps'⟩ := word_of_spell h.head.2.2 hb' (.inr hfollows) htail.symm
    obtain ⟨-, g'', ps'', rfl, hrest'⟩ :=
      unit_of_follow h.head.2.2.head.2.2 h.head.2.2.head.2.1 hx hblanks hrest hps'.symm
    exact ⟨_, pairAt_eq_some.mpr (.inl ⟨_, _, _, _, _, _, _, ha, hb, rfl, rfl⟩), rfl, rfl, hrest'⟩
  | digits hdigits =>
    obtain ⟨d, ds, rfl, hd⟩ := hdigits.head
    cases pieces with
    | nil => simp [spell] at htext
    | cons piece ps =>
      obtain ⟨t, g⟩ := piece
      rw [spell_cons] at htext
      have hletter {c : Char} {cs : List Char} (hspell : t.spelling = c :: cs)
          (hc : c.isLower = true) : False := by
        rw [hspell] at htext
        obtain rfl : c = d := (List.cons_eq_cons.mp htext).1
        rw [isDecimal_of_isLower hc] at hd
        exact absurd hd (by decide)
      rcases spelling_cases h.head.1 with ⟨text, rfl, hdigits'⟩ | rfl | rfl | ⟨w, hw, hspell, -⟩
      · obtain ⟨hsame, hps⟩ := digits_unique hdigits' hdigits (follow_notFrom_digits h)
          hfollows.notFrom_digits htext
        obtain ⟨-, g', ps', rfl, hrest'⟩ := unit_of_follow h.head.2.2 h.head.2.1 hx hblanks hrest hps
        exact ⟨_, pairAt_eq_some.mpr (.inr ⟨.digits text, _, _, _, _, trivial, rfl, rfl⟩), hsame.symm,
          rfl, hrest'⟩
      · obtain rfl : ',' = d := (List.cons_eq_cons.mp htext).1
        rw [u.isDecimal_ascii ',' (by decide)] at hd
        exact absurd hd (by decide)
      · have hman : (Token.unit "man's").spelling = 'm' :: "an's".toList := by decide
        exact (hletter hman (by decide)).elim
      · obtain ⟨hne, hlower⟩ := isLower_of_mem_vocabulary hw
        obtain ⟨c, cs, hcs⟩ := List.exists_cons_of_ne_nil hne
        exact (hletter (hspell.trans hcs) (hlower c (by simp [hcs]))).elim

/-- After a unit no word goes on. -/
theorem follow_unit (h : Spaced u ((.unit x, g) :: ps)) :
    NotFrom u.isWord (g ++ spell ps) := by
  rcases h.follow (by simp) with hstops | ⟨-, ⟨text, heq⟩, -⟩
  · exact hstops.notFrom_word
  · cases heq

/-- **Where a match begins** in a row of pieces: at a pair of a number and a unit. -/
theorem mem_ends_spell (h : Spaced u pieces) {e : Captures Group × Spot} :
    e ∈ (durationPattern u).ends u.isWord (false, spell pieces) ↔
      ∃ found, pairAt u pieces = some found ∧
        e = ([(.number, found.number), (.unit, found.unit.toList)], true,
          found.blanks ++ spell found.rest) := by
  rw [mem_durationPattern]
  constructor
  · rintro ⟨-, n, blanks, x, hx, htext, hn, hblanks, hrest, he⟩
    obtain ⟨found, hfound, rfl, rfl, hrest'⟩ := pairAt_of_text h hx htext hn hblanks hrest
    rw [hrest'] at he
    exact ⟨found, hfound, he⟩
  · rintro ⟨found, hfound, rfl⟩
    refine ⟨rfl, found.number, ?_⟩
    dsimp only
    rcases pairAt_eq_some.mp hfound with
      ⟨a, b, x, g, g', g'', ps, ha, hb, rfl, rfl⟩ | ⟨t, x, g, g', ps, ht, rfl, rfl⟩
    · have hg : g ≠ [] := by
        intro hnil
        rcases h.2.2.1 hnil with hcomma | hcomma | ⟨text, w, hdigits, -⟩
        · cases hcomma
        · cases hcomma
        · cases hdigits
      have hunit := h.head.2.2.head.2.2
      refine ⟨g', x, hunit.head.1, ?_, .compound ha hb hg h.head.2.1, h.head.2.2.head.2.1,
        follow_unit hunit, rfl⟩
      simp only [spell_cons, Token.spelling, List.append_assoc]
    · have hnumber : IsNumber u t.spelling := by
        cases t with
        | digits text => exact .digits h.head.1
        | number w => exact .word h.head.1
        | unread w => exact ht.elim
        | and => exact ht.elim
        | comma => exact ht.elim
        | unit w => exact ht.elim
      have hunit := h.head.2.2
      refine ⟨g, x, hunit.head.1, ?_, hnumber, h.head.2.1, follow_unit hunit, rfl⟩
      simp only [spell_cons]
      rfl

end texts

end HexeVoice.Assistant.Durations
