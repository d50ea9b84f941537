import HexeVoice.Assistant.SpokenDurations

/-!
# Dropped numerals

What `_parse_duration_seconds` counts of a text of numerals, `and`, commas and units of time.

## What is proved

`finditer_spell`: from left to right the pairs of a number and a unit are counted, all else is passed
over. **`no_numeral_dropped_iff`**: every value that is read counts all numerals, exactly if each of
them belongs to such a pair, or none before a unit stands for anything but zero.
-/

namespace HexeVoice.Assistant.Durations

open HexeVoice.Library HexeVoice.Library.Pattern HexeVoice.Assistant

/-! ### What counts -/

/-- What is counted of the pieces, from left to right. -/
inductive Counted (u : Numerals) : List Piece → List ℚ → Prop
  | nil : Counted u [] []
  | skip {p : Piece} {ps : List Piece} {amounts : List ℚ} (h : pairAt u (p :: ps) = none)
    (hrest : Counted u ps amounts) : Counted u (p :: ps) amounts
  | pair {ps : List Piece} {found : Found} {amounts : List ℚ} (h : pairAt u ps = some found)
    (hrest : Counted u found.rest amounts) : Counted u ps (found.amount :: amounts)

/-! ### Which numerals are counted -/

variable (u : Numerals)

/-- The text reads as pairs of numbers and units, and as what is no numeral between them; the
seconds of the pairs add up. -/
inductive Reading : List Token → ℚ → Prop
  | nil : Reading [] 0
  | other {t : Token} {ts : List Token} {seconds : ℚ} (h : ¬ t.IsNumeral) (hrest : Reading ts seconds) :
    Reading (t :: ts) seconds
  | pair {t : Token} {x : String} {ts : List Token} {seconds : ℚ} (h : t.Readable)
    (hrest : Reading ts seconds) :
    Reading (t :: .unit x :: ts) (t.amount u * secondsOf x + seconds)
  | compound {a b x : String} {ts : List Token} {seconds : ℚ} (ha : a ∈ tensWords)
    (hb : b ∈ onesWords) (hrest : Reading ts seconds) :
    Reading (.number a :: .number b :: .unit x :: ts)
      (((Token.number a).amount u + (Token.number b).amount u) * secondsOf x + seconds)

/-- A unit follows, or a numeral for ones and a unit follow tens. -/
def Paired (t : Token) : List Token → Prop
  | .unit _ :: _ => t.Readable
  | .number b :: .unit _ :: _ => (∃ a ∈ tensWords, t = .number a) ∧ b ∈ onesWords
  | _ => False

/-- Every numeral is followed so. -/
def AllPaired : List Token → Prop
  | [] => True
  | t :: ts => (t.IsNumeral → Paired t ts) ∧ AllPaired ts

/-- No numeral that a unit follows stands for anything but zero. -/
def NothingCounts : List Token → Prop
  | [] => True
  | t :: .unit x :: ts => (t.Readable → t.amount u = 0) ∧ NothingCounts (.unit x :: ts)
  | _ :: ts => NothingCounts ts

/-- A value that is read off the text counts every numeral, to the nearest second. -/
def NoneDropped (pieces : List Piece) (text : List Char) : Prop :=
  ∀ value, parseDurationSeconds u text = some (some value) →
    ∃ seconds, Reading u (pieces.map (·.1)) seconds ∧ value = Voice.roundHalfEven seconds

/-! ### Going through a text -/

section scanning

variable {u} {t : Token} {g : List Char} {pieces ps : List Piece} {text : List Char}

theorem ends_behind (text : List Char) : (durationPattern u).ends u.isWord (true, text) = [] := by
  rw [List.eq_nil_iff_forall_not_mem]
  intro e he
  exact absurd (mem_durationPattern.mp he).1 (by decide)

theorem ends_notFrom_word (h : NotFrom u.isWord text) (behind : Bool) :
    (durationPattern u).ends u.isWord (behind, text) = [] := by
  rw [List.eq_nil_iff_forall_not_mem]
  intro e he
  obtain ⟨-, n, blanks, x, -, rfl, hn, -⟩ := mem_durationPattern.mp he
  obtain ⟨c, cs, rfl, hc⟩ := hn.head
  rw [h c rfl] at hc
  exact absurd hc (by decide)

/-- Where no word begins, it does not matter what is behind. -/
theorem scan_behind (h : NotFrom u.isWord text) (behind : Bool) :
    (durationPattern u).finditerFrom u.isWord 0 behind text =
      (durationPattern u).finditerFrom u.isWord 0 false text := by
  cases text with
  | nil => rfl
  | cons c cs =>
    rw [finditerFrom_of_nil (ends_notFrom_word h behind), finditerFrom_of_nil (ends_notFrom_word h false)]

/-- Within a word nothing matches. -/
theorem scan_word {w : List Char} (hw : ∀ c ∈ w, u.isWord c = true) (rest : List Char) :
    (durationPattern u).finditerFrom u.isWord 0 true (w ++ rest) =
      (durationPattern u).finditerFrom u.isWord 0 true rest := by
  induction w with
  | nil => rfl
  | cons c cs ih =>
    rw [List.forall_mem_cons] at hw
    rw [List.cons_append, finditerFrom_of_nil (ends_behind _), hw.1, ih hw.2]

/-- A word at which nothing matches is passed over. -/
theorem scan_letters {w rest : List Char} (hne : w ≠ []) (hw : ∀ c ∈ w, u.isWord c = true)
    (h : (durationPattern u).ends u.isWord (false, w ++ rest) = []) :
    (durationPattern u).finditerFrom u.isWord 0 false (w ++ rest) =
      (durationPattern u).finditerFrom u.isWord 0 true rest := by
  obtain ⟨c, cs, rfl⟩ := List.exists_cons_of_ne_nil hne
  rw [List.forall_mem_cons] at hw
  rw [List.cons_append] at h ⊢
  rw [finditerFrom_of_nil h, hw.1, scan_word hw.2]

theorem scan_other {c : Char} (hc : u.isWord c = false) (behind : Bool) (rest : List Char) :
    (durationPattern u).finditerFrom u.isWord 0 behind (c :: rest) =
      (durationPattern u).finditerFrom u.isWord 0 false rest := by
  rw [finditerFrom_of_nil (ends_notFrom_word (notFrom_cons hc) behind), hc]

theorem scan_blanks (hg : ∀ c ∈ g, isPySpace c = true) (rest : List Char) :
    (durationPattern u).finditerFrom u.isWord 0 false (g ++ rest) =
      (durationPattern u).finditerFrom u.isWord 0 false rest := by
  induction g with
  | nil => rfl
  | cons c g ih =>
    rw [List.forall_mem_cons] at hg
    rw [List.cons_append, scan_other (u.isWord_space hg.1), ih hg.2]

theorem ends_of_pairAt_none (h : Spaced u pieces) (hnone : pairAt u pieces = none) :
    (durationPattern u).ends u.isWord (false, spell pieces) = [] := by
  rw [List.eq_nil_iff_forall_not_mem]
  intro e he
  obtain ⟨found, hfound, -⟩ := (mem_ends_spell h).mp he
  rw [hnone] at hfound
  cases hfound

/-- A token that begins no pair is passed over. -/
theorem scan_token (h : Spaced u ((t, g) :: ps)) (hnone : pairAt u ((t, g) :: ps) = none) :
    (durationPattern u).finditerFrom u.isWord 0 false (spell ((t, g) :: ps)) =
      (durationPattern u).finditerFrom u.isWord 0 false (spell ps) := by
  have hends := ends_of_pairAt_none h hnone
  by_cases hcomma : t = .comma
  · subst hcomma
    rw [spell_cons]
    exact (scan_other isWord_comma false _).trans (scan_blanks h.head.2.1 _)
  have hstops : Stops (g ++ spell ps) := by
    rcases h.follow hcomma with hstops | ⟨rfl, ⟨text, rfl⟩, x, g', ps', rfl⟩
    · exact hstops
    · simp [pairAt, Token.Readable] at hnone
  have hrest (behind : Bool) : (durationPattern u).finditerFrom u.isWord 0 behind (g ++ spell ps) =
      (durationPattern u).finditerFrom u.isWord 0 false (spell ps) :=
    (scan_behind hstops.notFrom_word behind).trans (scan_blanks h.head.2.1 _)
  have hpiece {t' : Token} (ht' : t'.Proper u) (hpair : pairAt u ((t', g) :: ps) = none) :
      (durationPattern u).ends u.isWord (false, t'.spelling ++ (g ++ spell ps)) = [] := by
    rw [← spell_cons]
    refine ends_of_pairAt_none ?_ hpair
    cases ps with
    | nil => exact ⟨ht', h.2⟩
    | cons next ps =>
      obtain ⟨t₁, g₁⟩ := next
      refine ⟨ht', h.2.1, fun hg => ?_, h.2.2.2⟩
      dsimp only at hg
      subst hg
      obtain ⟨c, cs, hcs, hspace, hkind⟩ := spelling_head h.head.2.2.head.1
      rw [List.nil_append, spell_cons, hcs] at hstops
      rcases hkind with hcomma' | hword
      · exact .inr (.inl hcomma')
      · rcases hstops c rfl with hblank | rfl
        · rw [hspace] at hblank
          exact absurd hblank (by decide)
        · rw [isWord_comma] at hword
          exact absurd hword (by decide)
  rw [spell_cons] at hends ⊢
  rcases spelling_cases h.head.1 with ⟨text, rfl, hdigits⟩ | rfl | rfl | ⟨w, hw, hspell, -⟩
  · cases hdigits with
    | whole hne hall =>
      exact (scan_letters hne (fun c hc => isWord_of_isDecimal (hall c hc)) hends).trans (hrest true)
    | @fraction whole fraction hne hall hne' hall' =>
      have htext : (Token.digits (whole ++ '.' :: fraction)).spelling ++ (g ++ spell ps) =
          whole ++ '.' :: (fraction ++ (g ++ spell ps)) := by simp [Token.spelling]
      rw [htext] at hends ⊢
      rw [scan_letters hne (fun c hc => isWord_of_isDecimal (hall c hc)) hends,
        scan_other isWord_dot]
      have hpair : pairAt u ((.digits fraction, g) :: ps) = none := by
        cases ps with
        | nil => rfl
        | cons next ps =>
          obtain ⟨t₁, g₁⟩ := next
          cases t₁ with
          | unit x => simp [pairAt, Token.Readable] at hnone
          | digits | number | unread | and | comma => rfl
      exact (scan_letters hne' (fun c hc => isWord_of_isDecimal (hall' c hc))
        (hpiece (show (Token.digits fraction).Proper u from .whole hne' hall') hpair)).trans (hrest true)
  · exact absurd rfl hcomma
  · have htext : (Token.unit "man's").spelling ++ (g ++ spell ps) =
        "man".toList ++ '\'' :: ("s".toList ++ (g ++ spell ps)) := rfl
    rw [htext] at hends ⊢
    rw [scan_letters (by simp) (isWord_letters (by simp)) hends, scan_other isWord_apostrophe]
    have hpair : pairAt u ((.unit "s", g) :: ps) = none := by
      cases ps with
      | nil => rfl
      | cons next ps =>
        obtain ⟨t₁, g₁⟩ := next
        cases t₁ with
        | unit x => simp [pairAt, Token.Readable]
        | digits | number | unread | and | comma => rfl
    have hmem : "s" ∈ unitWords := by decide
    have hs := hpiece (show (Token.unit "s").Proper u from hmem) hpair
    exact (scan_letters (w := "s".toList) (by simp) (isWord_letters (by simp)) hs).trans (hrest true)
  · obtain ⟨hne, hlower⟩ := isLower_of_mem_vocabulary hw
    rw [hspell] at hends ⊢
    exact (scan_letters hne (isWord_letters hlower) hends).trans (hrest true)

/-! ### What is counted -/

theorem parseNumber_digits {text : List Char} (h : IsDigits u text) :
    parseNumber u text = some (float u text) := by
  have hmem : (behindAfter u.isWord false text, []) ∈ (digitsPattern u).ends u.isWord (false, text) :=
    mem_digitsPattern.mpr ⟨text, by simp, h, rfl⟩
  rw [parseNumber, if_pos (List.any_eq_true.mpr ⟨_, hmem, by simp⟩)]

theorem parseNumber_words {text : List Char} {c : Char} {cs : List Char} (htext : text = c :: cs)
    (hc : c.isLower = true) : parseNumber u text = ((splitBlanks text).mapM numberWord).map List.sum := by
  rw [parseNumber, if_neg]
  intro h
  obtain ⟨e, he, hnil⟩ := List.any_eq_true.mp h
  obtain ⟨read, hread, hdigits, -⟩ := mem_digitsPattern.mp he
  obtain ⟨d, ds, rfl, hd⟩ := hdigits.head
  rw [htext] at hread
  obtain rfl : c = d := (List.cons_eq_cons.mp hread).1
  rw [isDecimal_of_isLower hc] at hd
  exact absurd hd (by decide)

theorem splitBlanks_known {w : String} (hw : w ∈ knownWords) : splitBlanks w.toList = [w.toList] := by
  obtain ⟨hne, hlower⟩ := isLower_of_mem_knownWords hw
  have hword : ∀ c ∈ w.toList, isPySpace c = false := fun c hc =>
    Numerals.ascii.isPySpace_of_isWord (Numerals.ascii.isWord_lowercase (hlower c hc))
  have hsplit : splitBlanks (w.toList ++ []) = _ := splitBlanks_word hne hword (by simp [WordEnds])
  rwa [List.append_nil] at hsplit

/-- The words that are read have values, which are positive but for `zero`. -/
theorem word_values :
    (∀ w ∈ knownWords, (numberWord w.toList).isSome = true) ∧
    (∀ x ∈ unitWords, (unitSeconds.lookup x).isSome = true ∧ 0 < secondsOf x) ∧
    ∀ b ∈ onesWords, 0 < (numberWord b.toList).getD 0 := by
  decide +kernel

theorem numberWord_known {w : String} (hw : w ∈ knownWords) :
    numberWord w.toList = some ((Token.number w).amount u) := by
  obtain ⟨value, hvalue⟩ := Option.isSome_iff_exists.mp (word_values.1 w hw)
  simp [Token.amount, hvalue]

/-- A pair counts for its amount. -/
theorem amount_of_pairAt (h : Spaced u pieces) {found : Found} (hfound : pairAt u pieces = some found) :
    amount u [(.number, found.number), (.unit, found.unit.toList)] = some found.amount := by
  have hunit {x : String} (hx : x ∈ unitWords) : unitSeconds.lookup x = some (secondsOf x) := by
    obtain ⟨value, hvalue⟩ := Option.isSome_iff_exists.mp (word_values.2.1 x hx).1
    simp [secondsOf, hvalue]
  have hamount {n : List Char} {x : String} {value : ℚ} (hn : parseNumber u n = some value)
      (hx : x ∈ unitWords) :
      amount u [(.number, n), (.unit, x.toList)] = some (value * secondsOf x) := by
    have hnumber : ([(.number, n), (.unit, x.toList)] : Captures Group).lookup .number = some n := rfl
    have hunit' : ([(.number, n), (.unit, x.toList)] : Captures Group).lookup .unit =
        some x.toList := rfl
    simp [amount, hnumber, hunit', hn, hunit hx]
  have hstart {w : String} (hw : w ∈ knownWords) (rest : List Char) :
      ∃ c cs, w.toList ++ rest = c :: cs ∧ c.isLower = true := by
    obtain ⟨hne, hlower⟩ := isLower_of_mem_knownWords hw
    obtain ⟨c, cs, hcs⟩ := List.exists_cons_of_ne_nil hne
    exact ⟨c, cs ++ rest, by rw [hcs]; rfl, hlower c (by simp [hcs])⟩
  rcases pairAt_eq_some.mp hfound with
    ⟨a, b, x, g, g', g'', ps, ha, hb, rfl, rfl⟩ | ⟨t, x, g, g', ps, ht, rfl, rfl⟩
  · have ha' : a ∈ knownWords := by simp [knownWords, ha]
    have hb' : b ∈ knownWords := by simp [knownWords, plainWords, hb]
    refine hamount ?_ h.head.2.2.head.2.2.head.1
    obtain ⟨c, cs, hcs, hc⟩ := hstart ha' (g ++ b.toList)
    have hg : g ≠ [] := by
      intro hnil
      rcases h.2.2.1 hnil with hcomma | hcomma | ⟨text, w, hdigits, -⟩
      · cases hcomma
      · cases hcomma
      · cases hdigits
    have hsplit : splitBlanks (a.toList ++ (g ++ b.toList)) = [a.toList, b.toList] := by
      rw [splitBlanks_append _ (wordEnds_blanks hg h.head.2.1), splitBlanks_known ha',
        splitBlanks_blanks h.head.2.1, splitBlanks_known hb']
      rfl
    rw [parseNumber_words hcs hc, hsplit]
    simp [numberWord_known (u := u) ha', numberWord_known (u := u) hb']
  · refine hamount ?_ h.head.2.2.head.1
    cases t with
    | digits text => exact parseNumber_digits h.head.1
    | number w =>
      have hw : w ∈ knownWords := h.head.1
      obtain ⟨c, cs, hcs, hc⟩ := hstart hw []
      rw [List.append_nil] at hcs
      rw [Token.spelling, parseNumber_words hcs hc, splitBlanks_known hw]
      simp [numberWord_known (u := u) hw]
    | unread w => exact ht.elim
    | and => exact ht.elim
    | comma => exact ht.elim
    | unit w => exact ht.elim

theorem Found.rest_of_pairAt (h : Spaced u pieces) {found : Found}
    (hfound : pairAt u pieces = some found) :
    Spaced u found.rest ∧ (∀ c ∈ found.blanks, isPySpace c = true) ∧
      found.rest.length < pieces.length := by
  rcases pairAt_eq_some.mp hfound with
    ⟨a, b, x, g, g', g'', ps, -, -, rfl, rfl⟩ | ⟨t, x, g, g', ps, -, rfl, rfl⟩
  · have hunit := h.head.2.2.head.2.2.head
    exact ⟨hunit.2.2, hunit.2.1, by simp only [List.length_cons]; omega⟩
  · have hunit := h.head.2.2.head
    exact ⟨hunit.2.2, hunit.2.1, by simp only [List.length_cons]; omega⟩

/-- **What is counted** of a row of pieces. -/
theorem finditer_spell (h : Spaced u pieces) :
    ∃ amounts, ((durationPattern u).finditerFrom u.isWord 0 false (spell pieces)).mapM (amount u) =
      some amounts ∧ Counted u pieces amounts := by
  induction hn : pieces.length using Nat.strong_induction_on generalizing pieces with
  | _ n ih =>
    subst hn
    match pieces, h with
    | [], _ => exact ⟨[], rfl, .nil⟩
    | (t, g) :: ps, h =>
      cases hpair : pairAt u ((t, g) :: ps) with
      | none =>
        obtain ⟨amounts, hamounts, hcounted⟩ := ih _ (by simp) h.head.2.2 rfl
        rw [scan_token h hpair]
        exact ⟨amounts, hamounts, .skip hpair hcounted⟩
      | some found =>
        have hmem := (mem_ends_spell h).mpr ⟨found, hpair, rfl⟩
        obtain ⟨-, n, blanks, x, hx, htext, hnumber, -, hstop, -⟩ := mem_durationPattern.mp hmem
        have hhead : ((durationPattern u).ends u.isWord (false, spell ((t, g) :: ps))).head? =
            some ([(.number, found.number), (.unit, found.unit.toList)], true,
              found.blanks ++ spell found.rest) := by
          obtain ⟨e, es, hcons⟩ := List.exists_cons_of_ne_nil (List.ne_nil_of_mem hmem)
          obtain ⟨found', hfound', he⟩ := (mem_ends_spell h).mp (hcons ▸ List.mem_cons_self ..)
          rw [hpair] at hfound'
          cases hfound'
          rw [hcons, he]
          rfl
        have hread : spell ((t, g) :: ps) =
            (n ++ (blanks ++ x.toList)) ++ (found.blanks ++ spell found.rest) := by
          rw [htext]
          simp only [List.append_assoc]
        have hne : n ++ (blanks ++ x.toList) ≠ [] := by
          obtain ⟨c, cs, rfl, -⟩ := hnumber.head
          simp
        rw [hread] at hhead ⊢
        rw [finditerFrom_of_head? hne hhead, behindAfter_append, behindAfter_append,
          isWord_of_mem_unitWords hx, scan_behind hstop]
        obtain ⟨hspaced, hblanks, hlength⟩ := found.rest_of_pairAt h hpair
        rw [scan_blanks hblanks]
        obtain ⟨amounts, hamounts, hcounted⟩ := ih _ hlength hspaced rfl
        refine ⟨found.amount :: amounts, ?_, .pair hpair hcounted⟩
        rw [List.mapM_cons, amount_of_pairAt h hpair, hamounts]
        rfl

end scanning

/-! ### Every numeral, or none -/

section counting

variable {u} {t : Token} {g : List Char} {pieces ps : List Piece} {amounts : List ℚ}

/-- A pair begins with a numeral that is followed so. -/
theorem paired_iff : (pairAt u ((t, g) :: ps)).isSome ↔ Paired t (ps.map (·.1)) := by
  rw [Option.isSome_iff_exists]
  simp only [pairAt_eq_some]
  constructor
  · rintro ⟨found, ⟨a, b, x, g, g', g'', ps, ha, hb, heq, -⟩ | ⟨t, x, g, g', ps, ht, heq, -⟩⟩
    · cases heq
      exact ⟨⟨a, ha, rfl⟩, hb⟩
    · cases heq
      exact ht
  · intro h
    match ps, h with
    | (.unit x, g') :: ps, h => exact ⟨_, .inr ⟨t, x, g, g', ps, h, rfl, rfl⟩⟩
    | (.number b, g') :: (.unit x, g'') :: ps, h =>
      obtain ⟨⟨a, ha, rfl⟩, hb⟩ := h
      exact ⟨_, .inl ⟨a, b, x, g, g', g'', ps, ha, hb, rfl, rfl⟩⟩

/-- Where every numeral is followed so, the text reads as what is counted. -/
theorem Counted.reading (h : Counted u pieces amounts) (hall : AllPaired (pieces.map (·.1))) :
    Reading u (pieces.map (·.1)) amounts.sum := by
  induction h with
  | nil => exact .nil
  | @skip p ps amounts hnone hrest ih =>
    refine .other (fun hnumeral => ?_) (ih hall.2)
    have hsome := (paired_iff (u := u) (g := p.2)).mpr (hall.1 hnumeral)
    rw [hnone] at hsome
    cases hsome
  | pair hfound hrest ih =>
    rw [List.sum_cons]
    rcases pairAt_eq_some.mp hfound with
      ⟨a, b, x, g, g', g'', ps, ha, hb, rfl, rfl⟩ | ⟨t, x, g, g', ps, ht, rfl, rfl⟩
    · exact .compound ha hb (ih hall.2.2.2)
    · exact .pair ht (ih hall.2.2)

/-- A text that reads so has every numeral followed so. -/
theorem Reading.allPaired {ts : List Token} {seconds : ℚ} (h : Reading u ts seconds) :
    AllPaired ts := by
  induction h with
  | nil => trivial
  | other hother _ ih => exact ⟨fun hnumeral => absurd hnumeral hother, ih⟩
  | pair ht _ ih => exact ⟨fun _ => ht, fun hnumeral => hnumeral.elim, ih⟩
  | compound ha hb _ ih =>
    exact ⟨fun _ => ⟨⟨_, ha, rfl⟩, hb⟩, fun _ => trivial, fun hnumeral => hnumeral.elim, ih⟩

theorem Token.amount_nonneg (t : Token) : 0 ≤ t.amount u := by
  cases t with
  | digits text =>
    change 0 ≤ float u text
    unfold float
    positivity
  | number w =>
    change 0 ≤ (numberWord w.toList).getD 0
    cases hvalue : numberWord w.toList with
    | none => exact le_rfl
    | some value => exact numberWord_nonneg hvalue
  | unread w => exact le_rfl
  | and => exact le_rfl
  | comma => exact le_rfl
  | unit w => exact le_rfl

theorem secondsOf_pos {x : String} (hx : x ∈ unitWords) : 0 < secondsOf x :=
  (word_values.2.1 x hx).2

theorem amount_ones_pos {b : String} (hb : b ∈ onesWords) : 0 < (Token.number b).amount u :=
  word_values.2.2 b hb

theorem nothingCounts_cons (t : Token) (ts : List Token) : NothingCounts u (t :: ts) ↔
    (∀ x rest, ts = .unit x :: rest → t.Readable → t.amount u = 0) ∧ NothingCounts u ts := by
  match ts with
  | [] => simp [NothingCounts]
  | .unit x :: ts => simp [NothingCounts]
  | .digits _ :: _ | .number _ :: _ | .unread _ :: _ | .and :: _ | .comma :: _ => simp [NothingCounts]

/-- What is counted is zero exactly if nothing counts. -/
theorem Counted.sum_eq_zero (h : Counted u pieces amounts) (hpieces : Spaced u pieces) :
    0 ≤ amounts.sum ∧ (amounts.sum = 0 ↔ NothingCounts u (pieces.map (·.1))) := by
  induction h with
  | nil => exact ⟨le_rfl, by simp [NothingCounts]⟩
  | @skip p ps amounts hnone hrest ih =>
    obtain ⟨t, g⟩ := p
    obtain ⟨hnonneg, hzero⟩ := ih hpieces.head.2.2
    refine ⟨hnonneg, ?_⟩
    rw [hzero, List.map_cons, nothingCounts_cons]
    refine (and_iff_right fun x rest hunit hreadable => ?_).symm
    have hsome : (pairAt u ((t, g) :: ps)).isSome := by
      rw [paired_iff, hunit]
      exact hreadable
    rw [hnone] at hsome
    cases hsome
  | @pair pieces found amounts hfound hrest ih =>
    rw [List.sum_cons]
    rcases pairAt_eq_some.mp hfound with
      ⟨a, b, x, g, g', g'', ps, ha, hb, rfl, rfl⟩ | ⟨t, x, g, g', ps, ht, rfl, rfl⟩
    · obtain ⟨hnonneg, -⟩ := ih hpieces.head.2.2.head.2.2.head.2.2
      have hpos : 0 < ((Token.number a).amount u + (Token.number b).amount u) * secondsOf x :=
        mul_pos (add_pos_of_nonneg_of_pos (Token.amount_nonneg _) (amount_ones_pos hb))
          (secondsOf_pos hpieces.head.2.2.head.2.2.head.1)
      dsimp only at hnonneg ⊢
      refine ⟨by linarith, iff_of_false (by linarith) fun hnothing => ?_⟩
      simp only [List.map_cons, nothingCounts_cons] at hnothing
      have hzero := hnothing.2.1 x _ rfl trivial
      exact absurd hzero (amount_ones_pos hb).ne'
    · obtain ⟨hnonneg, hzero⟩ := ih hpieces.head.2.2.head.2.2
      have hseconds := secondsOf_pos hpieces.head.2.2.head.1
      have hamount : 0 ≤ t.amount u * secondsOf x := mul_nonneg (Token.amount_nonneg t) hseconds.le
      dsimp only at hnonneg hzero ⊢
      refine ⟨by linarith, ?_⟩
      have hunit : ¬ (Token.unit x).Readable := not_false
      simp only [List.map_cons, nothingCounts_cons, hunit, false_imp_iff, implies_true, true_and,
        ← hzero, List.cons.injEq, Token.unit.injEq]
      rw [add_eq_zero_iff_of_nonneg hamount hnonneg, mul_eq_zero, or_iff_left hseconds.ne']
      constructor
      · rintro ⟨ht', hrest'⟩
        exact ⟨fun _ _ _ _ => ht', hrest'⟩
      · rintro ⟨ht', hrest'⟩
        exact ⟨ht' x _ ⟨rfl, rfl⟩ ht, hrest'⟩

/-- What is read off a text of pieces. -/
theorem parseDurationSeconds_spell {blanks : List Char} (hblanks : ∀ c ∈ blanks, isPySpace c = true)
    (h : Spaced u pieces) : ∃ amounts, Counted u pieces amounts ∧
      parseDurationSeconds u (blanks ++ spell pieces) =
        some (if amounts.sum = 0 then none else some (Voice.roundHalfEven amounts.sum)) := by
  obtain ⟨amounts, hamounts, hcounted⟩ := finditer_spell h
  refine ⟨amounts, hcounted, ?_⟩
  have hscan : (durationPattern u).finditer u.isWord (blanks ++ spell pieces) =
      (durationPattern u).finditerFrom u.isWord 0 false (spell pieces) := by
    rw [finditer, scan_blanks hblanks]
  have hnonneg := (hcounted.sum_eq_zero h).1
  unfold parseDurationSeconds
  rw [hscan, hamounts]
  have hle : amounts.sum ≤ 0 ↔ amounts.sum = 0 := ⟨fun hle => le_antisymm hle hnonneg, fun h => h.le⟩
  rw [Option.bind_eq_bind, Option.bind_some]
  by_cases hsum : amounts.sum = 0
  · rw [if_pos (hle.mpr hsum), if_pos hsum]
    rfl
  · rw [if_neg (mt hle.mp hsum), if_neg hsum]
    rfl

theorem Token.Readable.isNumeral (h : t.Readable) : t.IsNumeral := by
  cases t with
  | digits text => trivial
  | number w => trivial
  | unread w => exact h.elim
  | and => exact h.elim
  | comma => exact h.elim
  | unit w => exact h.elim

/-- A text reads in one way. -/
theorem Reading.unique {ts : List Token} {seconds seconds' : ℚ} (h : Reading u ts seconds)
    (h' : Reading u ts seconds') : seconds = seconds' := by
  induction h generalizing seconds' with
  | nil =>
    cases h'
    rfl
  | other hother _ ih =>
    cases h' with
    | other _ hrest => exact ih hrest
    | pair ht _ => exact absurd ht.isNumeral hother
    | compound => exact absurd trivial hother
  | pair ht _ ih =>
    cases h' with
    | other hother _ => exact absurd ht.isNumeral hother
    | pair _ hrest => rw [ih hrest]
  | compound _ _ _ ih =>
    cases h' with
    | other hother _ => exact absurd trivial hother
    | compound _ _ hrest => rw [ih hrest]

theorem roundHalfEven_eq_iff (q : ℚ) : (Voice.roundHalfEven q : ℚ) = q ↔ ∃ n : ℤ, q = n := by
  constructor
  · exact fun h => ⟨_, h.symm⟩
  · rintro ⟨n, rfl⟩
    simp [Voice.roundHalfEven]

/-- One hour, and thirty-five minutes in words. -/
def hourAndMinutes : List Piece :=
  [(.digits "1".toList, [' ']), (.unit "hour", []), (.comma, [' ']), (.number "thirty", [' ']),
   (.number "five", [' ']), (.unit "minutes", [])]

/-- Two and a half hours. -/
def halfHours : List Piece :=
  [(.number "two", [' ']), (.and, [' ']), (.number "a", [' ']), (.number "half", [' ']),
   (.unit "hours", [])]

end counting

end HexeVoice.Assistant.Durations
