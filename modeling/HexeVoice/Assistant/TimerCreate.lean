import HexeVoice.Assistant.FormattedDurations
import HexeVoice.Timers.Ownership

/-!
# Creating timers

`LocalIntentFinder._find_timer_create` of `assistant/intents.py`, and the functions that read the
duration off the utterance.

## The model

The patterns are those of the source, matched by backtracking. Where `split` takes one part at most, its
first part is the first of all.

## What is proved

**`duration_round_trip`**: a duration that is formatted is read back, by itself and in a command; and
`_timer_duration_seconds` reads it off the text `hh:mm:ss` of the slots.
-/

namespace HexeVoice.Assistant.TimerCreate

open HexeVoice.Library HexeVoice.Library.Pattern HexeVoice.Assistant HexeVoice.Assistant.Durations

/-! ### The patterns -/

inductive Group where
  | duration
  deriving DecidableEq

/-- `\s+`. -/
def blanks : Pattern Group := plain (.some isPySpace)

/-- `(?:v|w|…)`. -/
def words (ws : List String) : Pattern Group := plain (.oneOf (ws.map fun w => .lit w.toList))

def word (w : String) : Pattern Group := plain (.lit w.toList)

/-- `(?:w\s+)?`. -/
def optWord (w : String) : Pattern Group := opt (seq (word w) blanks)

/-- `.`. -/
def notNewline (c : Char) : Bool := c != '\n'

/-- `(?P<duration>.+)`. -/
def longDuration : Pattern Group := group .duration (plain (.some notNewline))

/-- `(?P<duration>.+?)`. -/
def shortDuration : Pattern Group := group .duration (seq (plain (.one notNewline)) (.lazy notNewline))

/-- `(?:set|start|create|make)\s+(?:a\s+|an\s+)?`. -/
def createPart : List (Pattern Group) :=
  [words ["set", "start", "create", "make"], blanks,
    opt (alt (seq (word "a") blanks) (seq (word "an") blanks))]

/-- The patterns of `_extract_timer_duration_text`. -/
def durationTextPatterns : List (Pattern Group) :=
  [seqs ([optWord "please"] ++ createPart ++
      [word "timer", blanks, words ["for", "of"], blanks, longDuration, eos]),
    seqs [optWord "please", word "timer", blanks, words ["for", "of"], blanks, longDuration, eos],
    seqs ([optWord "please"] ++ createPart ++ [shortDuration, blanks, word "timer", eos]),
    seqs [optWord "please", shortDuration, blanks, word "timer", eos]]

/-- `(?:\s+(?:v|w)\s+(?:the\s+)?timer)?`. -/
def optTimer (ws : List String) : Pattern Group :=
  opt (seqs [blanks, words ws, blanks, optWord "the", word "timer"])

/-- The patterns of `_extract_timer_adjustment`. -/
def adjustmentPatterns : List (String × Pattern Group) :=
  [("add", seqs [optWord "please", word "extend", blanks, optWord "the", word "timer", blanks,
      word "by", blanks, longDuration, eos]),
    ("add", seqs [optWord "please", word "add", blanks, shortDuration, optTimer ["to", "onto"], eos]),
    ("remove", seqs [optWord "please", words ["remove", "subtract"], blanks, shortDuration,
      optTimer ["from"], eos]),
    ("remove", seqs [optWord "please", word "take", blanks, shortDuration, blanks, word "off", blanks,
      optWord "the", word "timer", eos])]

/-- `\s+(?:called|named|labelled|labeled)\s+`. -/
def tailPattern : Regex :=
  .seq (.some isPySpace) (.seq (.oneOf (["called", "named", "labelled", "labeled"].map
    fun w => .lit w.toList)) (.some isPySpace))

/-! ### The functions -/

variable (u : Numerals)

/-- `text.strip(" .!?")`. -/
def stripMarks (text : List Char) : List Char :=
  let marks (c : Char) : Bool := c ∈ [' ', '.', '!', '?']
  ((text.dropWhile marks).reverse.dropWhile marks).reverse

def trimDurationTail (text : List Char) : List Char :=
  stripMarks ((tailPattern.split u.isWord text).head?.getD [])

/-- `match.group("duration")`. -/
def durationOf (groups : Captures Group) : List Char := (groups.lookup .duration).getD []

def extractTimerDurationText (text : List Char) : Option (List Char) :=
  (durationTextPatterns.findSome? fun pattern => pattern.pyMatch u.isWord text).map fun groups =>
    trimDurationTail u (durationOf groups)

def extractTimerAdjustment (text : List Char) : Option (String × List Char) :=
  adjustmentPatterns.findSome? fun (direction, pattern) =>
    (pattern.pyMatch u.isWord text).map fun groups => (direction, trimDurationTail u (durationOf groups))

/-- `f"{n:02d}"`, of a number that is not negative. -/
def twoDigits (n : ℤ) : List Char := (decimalText n).leftpad 2 '0'

def formatDurationHhmmss (durationSeconds : ℤ) : List Char :=
  let seconds := max 0 durationSeconds
  let hours := seconds / 3600
  let remainder := seconds % 3600
  twoDigits hours ++ ':' :: (twoDigits (remainder / 60) ++ ':' :: twoDigits (remainder % 60))

structure TimerSlots where
  durationSeconds : ℤ
  durationHhmmss : List Char
  durationText : List Char
  requestedAt : String

/-- The fields of a `LocalIntentMatch` that are not left at their defaults. -/
structure LocalIntentMatch where
  intent : String
  command : String
  slots : TimerSlots
  replyText : List Char

/-- `_find_timer_create`, unless it raises `KeyError`; `now` is what the clock shows. -/
def findTimerCreate (isoformat : WallTime → String) (text : List Char)
    (requestedAt : Option WallTime) (now : WallTime) : Option (Option LocalIntentMatch) :=
  if (extractTimerAdjustment u text).isSome then some none
  else
    match extractTimerDurationText u text with
    | none => some none
    | some durationText => do
      match ← parseDurationSeconds u durationText with
      | none => return none
      | some durationSeconds =>
        let formattedDuration := formatDuration durationSeconds
        let extractionTime := requestedAt.getD now
        return some {
          intent := "timer.create"
          command := "timer.create"
          slots := {
            durationSeconds
            durationHhmmss := formatDurationHhmmss durationSeconds
            durationText := formattedDuration
            requestedAt := isoformat extractionTime }
          replyText := "Setting timer for ".toList ++ (formattedDuration ++ ".".toList) }

/-! ### What the patterns read -/

section reading

variable {u} {isWord : Char → Bool} {text : List Char}

/-- A part that ends in one place and holds nothing. -/
theorem seq_ends_of_single {G : Type*} {r s : Pattern G} {spot spot' : Spot}
    (h : r.ends isWord spot = [([], spot')]) : (seq r s).ends isWord spot = s.ends isWord spot' := by
  rw [ends, h, List.flatMap_singleton]
  simp

theorem seq_ends_of_nil {G : Type*} {r s : Pattern G} {spot : Spot}
    (h : r.ends isWord spot = []) : (seq r s).ends isWord spot = [] := by
  rw [ends, h, List.flatMap_nil]

theorem opt_ends_of_nil {G : Type*} {r : Pattern G} {spot : Spot} (h : r.ends isWord spot = []) :
    (opt r).ends isWord spot = [([], spot)] := by
  have hopt : (opt r).ends isWord spot = r.ends isWord spot ++ [([], spot)] := rfl
  rw [hopt, h, List.nil_append]

theorem word_ends (w : String) (behind : Bool) (rest : List Char) :
    (word w).ends isWord (behind, w.toList ++ rest) = [([], behindAfter isWord behind w.toList, rest)] := by
  rw [word, ends, Regex.ends_lit, if_pos (List.prefix_append ..), List.drop_left]
  rfl

theorem word_ends_of_not {w : String} (h : ¬ w.toList <+: text) (behind : Bool) :
    (word w).ends isWord (behind, text) = [] := by
  rw [word, ends, Regex.ends_lit, if_neg h]
  rfl

/-- One blank is all that is read, where no other follows. -/
theorem blanks_ends (h : NotFrom isPySpace text) (behind : Bool) :
    blanks.ends isWord (behind, ' ' :: text) = [([], isWord ' ', text)] := by
  have hblank : isPySpace ' ' = true := by decide
  cases text with
  | nil => simp [blanks, ends, Regex.some, Regex.ends, Regex.manyEnds, hblank]
  | cons c cs =>
    have hc : isPySpace c = false := h c rfl
    simp [blanks, ends, Regex.some, Regex.ends, Regex.manyEnds, hblank, hc]

theorem optWord_ends_of_not {w : String} (h : ¬ w.toList <+: text) (behind : Bool) :
    (optWord w).ends isWord (behind, text) = [([], behind, text)] :=
  opt_ends_of_nil (seq_ends_of_nil (word_ends_of_not h behind))

theorem words_ends_of_not {ws : List String} (h : ∀ w ∈ ws, ¬ w.toList <+: text) (behind : Bool) :
    (words ws).ends isWord (behind, text) = [] := by
  rw [List.eq_nil_iff_forall_not_mem]
  intro e he
  obtain ⟨-, hone⟩ := mem_ends_plain.mp he
  obtain ⟨r, hr, hlit⟩ := Regex.mem_ends_oneOf.mp hone
  obtain ⟨w, hw, rfl⟩ := List.mem_map.mp hr
  obtain ⟨heq, -⟩ := Regex.mem_ends_lit.mp hlit
  exact h w hw ⟨_, heq.symm⟩

/-- The rest of a line is the duration. -/
theorem longDuration_ends (hne : text ≠ []) (hline : '\n' ∉ text) (behind : Bool) :
    ((seq longDuration eos).ends isWord (behind, text)).head?.map (·.1) = some [(.duration, text)] := by
  have hall : ∀ c ∈ text, notNewline c = true := by
    intro c hc
    rw [notNewline, bne_iff_ne]
    rintro rfl
    exact hline hc
  have hmem : ∃ e, e ∈ (seq longDuration eos).ends isWord (behind, text) := by
    have hgroup : ([(.duration, text)], behindAfter isWord behind text, []) ∈
        longDuration.ends isWord (behind, text) :=
      mem_ends_group.mpr ⟨[], text, rfl, (List.append_nil text).symm, mem_ends_plain.mpr ⟨rfl,
        Regex.mem_ends_some.mpr ⟨text, (List.append_nil text).symm, hne, hall, rfl⟩⟩⟩
    exact ⟨_, mem_ends_seq.mpr ⟨_, hgroup, _, mem_ends_eos.mpr ⟨.inl rfl, rfl⟩, rfl⟩⟩
  have hgroups : ∀ e ∈ (seq longDuration eos).ends isWord (behind, text), e.1 = [(.duration, text)] := by
    intro e he
    obtain ⟨e', he', e'', he'', rfl⟩ := mem_ends_seq.mp he
    obtain ⟨hend, rfl⟩ := mem_ends_eos.mp he''
    obtain ⟨groups, read, hgroups, hread, hplain⟩ := mem_ends_group.mp he'
    obtain ⟨rfl, -⟩ := mem_ends_plain.mp hplain
    dsimp only at hread hend
    -- No newline is left, so nothing is.
    have hrest : e'.2.2 = [] := by
      rcases hend with hnil | hnewline
      · exact hnil
      · rw [hread, hnewline] at hline
        simp at hline
    rw [hrest, List.append_nil] at hread
    simp [hgroups, hread]
  obtain ⟨e, he⟩ := hmem
  obtain ⟨first, rest, hcons⟩ := List.exists_cons_of_ne_nil (List.ne_nil_of_mem he)
  rw [hcons]
  exact congrArg some (hgroups first (hcons ▸ List.mem_cons_self ..))

/-- The command from the word `timer` on. -/
def timerOn (text : List Char) : List Char :=
  "timer".toList ++ (' ' :: ("for".toList ++ (' ' :: text)))

/-- The command from the article on. -/
def articleOn (text : List Char) : List Char := "a".toList ++ (' ' :: timerOn text)

/-- The command with its duration. -/
def command (text : List Char) : List Char := "set".toList ++ (' ' :: articleOn text)

theorem command_eq (text : List Char) : command text = "set a timer for ".toList ++ text := rfl

/-- The command starts with none of the words of other commands. -/
theorem not_prefix_command {w : String} (hw : w.toList.take 2 ≠ ['s', 'e']) (hlength : 2 ≤ w.toList.length)
    (text : List Char) : ¬ w.toList <+: command text := by
  rintro ⟨rest, heq⟩
  have htake := congrArg (List.take 2) heq
  rw [List.take_append_of_le_length hlength] at htake
  exact hw htake

variable (isWord) in
/-- The command ends the first pattern in the duration alone. -/
theorem createPattern_ends (h : NotFrom isPySpace text) (s : Pattern Group) :
    ∃ b, (seqs ([optWord "please"] ++ createPart ++ [word "timer", blanks, words ["for", "of"], blanks,
      s])).ends isWord (false, command text) = s.ends isWord (b, text) := by
  have hspace {w : String} (hw : ∀ c ∈ w.toList.head?, isPySpace c = false) (hne : w.toList ≠ [])
      (rest : List Char) : NotFrom isPySpace (w.toList ++ rest) := by
    intro c hc
    rw [List.head?_append_of_ne_nil _ hne] at hc
    exact hw c hc
  have hset (b : Bool) (rest : List Char) :
      (words ["set", "start", "create", "make"]).ends isWord (b, "set".toList ++ (' ' :: rest)) =
        [([], behindAfter isWord b "set".toList, ' ' :: rest)] := by
    simp [words, ends, Regex.oneOf, Regex.ends, Regex.ends_lit]
  have hfor (b : Bool) (rest : List Char) :
      (words ["for", "of"]).ends isWord (b, "for".toList ++ (' ' :: rest)) =
        [([], behindAfter isWord b "for".toList, ' ' :: rest)] := by
    simp [words, ends, Regex.oneOf, Regex.ends, Regex.ends_lit]
  -- From `timer` on each part ends in one place.
  have htimer (b : Bool) : ∃ b', (seqs [word "timer", blanks, words ["for", "of"], blanks, s]).ends
      isWord (b, timerOn text) = s.ends isWord (b', text) :=
    ⟨_, (seq_ends_of_single (word_ends "timer" b _)).trans
      ((seq_ends_of_single (blanks_ends (hspace (w := "for") (by simp [isPySpace]) (by simp) _) _)).trans
        ((seq_ends_of_single (hfor _ _)).trans (seq_ends_of_single (blanks_ends h _))))⟩
  -- The article may be left out, but then no `timer` follows.
  have harticle (b : Bool) (r : Pattern Group) (hr : ∀ b, r.ends isWord (b, articleOn text) = []) :
      ∃ b', (seq (opt (alt (seq (word "a") blanks) (seq (word "an") blanks))) r).ends isWord
        (b, articleOn text) = r.ends isWord (b', timerOn text) := by
    have ha : (seq (word "a") blanks).ends isWord (b, articleOn text) =
        [([], isWord ' ', timerOn text)] :=
      (seq_ends_of_single (word_ends "a" b _)).trans
        (blanks_ends (hspace (w := "timer") (by simp [isPySpace]) (by simp) _) _)
    have han : (seq (word "an") blanks).ends isWord (b, articleOn text) = [] :=
      seq_ends_of_nil (word_ends_of_not (by simp [articleOn]) b)
    have hopt : (opt (alt (seq (word "a") blanks) (seq (word "an") blanks))).ends isWord
        (b, articleOn text) = [([], isWord ' ', timerOn text), ([], b, articleOn text)] := by
      have heq : (opt (alt (seq (word "a") blanks) (seq (word "an") blanks))).ends isWord
          (b, articleOn text) = (seq (word "a") blanks).ends isWord (b, articleOn text) ++
            (seq (word "an") blanks).ends isWord (b, articleOn text) ++ [([], b, articleOn text)] := rfl
      rw [heq, ha, han]
      rfl
    refine ⟨isWord ' ', ?_⟩
    rw [ends, hopt, List.flatMap_cons, List.flatMap_singleton, hr, List.map_nil, List.append_nil]
    simp
  have hnoTimer (b : Bool) : (seqs [word "timer", blanks, words ["for", "of"], blanks, s]).ends isWord
      (b, articleOn text) = [] := seq_ends_of_nil (word_ends_of_not (by simp [articleOn]) b)
  have hplease : ¬ "please".toList <+: command text := not_prefix_command (by decide) (by decide) text
  obtain ⟨b, hb⟩ := harticle (isWord ' ') _ hnoTimer
  obtain ⟨b', hb'⟩ := htimer b
  exact ⟨b', (seq_ends_of_single (optWord_ends_of_not hplease false)).trans
    ((seq_ends_of_single (hset _ _)).trans ((seq_ends_of_single (blanks_ends
      (hspace (w := "a") (by simp [isPySpace]) (by simp) _) _)).trans (hb.trans hb')))⟩

/-- The first pattern reads the rest of the command as the duration. -/
theorem durationText_command (h : NotFrom isPySpace text) (hne : text ≠ []) (hline : '\n' ∉ text) :
    (durationTextPatterns.findSome? fun pattern => pattern.pyMatch isWord (command text)) =
      some [(.duration, text)] := by
  obtain ⟨b, hb⟩ := createPattern_ends isWord h (seq longDuration eos)
  have hcons : ∃ rest, durationTextPatterns = seqs ([optWord "please"] ++ createPart ++ [word "timer",
      blanks, words ["for", "of"], blanks, seq longDuration eos]) :: rest := ⟨_, rfl⟩
  obtain ⟨rest, hcons⟩ := hcons
  rw [hcons, List.findSome?_cons, pyMatch, hb, longDuration_ends hne hline b]

/-- No pattern of an adjustment matches the command. -/
theorem adjustment_command (text : List Char) : extractTimerAdjustment u (command text) = none := by
  have hplease : ¬ "please".toList <+: command text := not_prefix_command (by decide) (by decide) text
  have hnone {r s : Pattern Group} (hr : ∀ b, r.ends u.isWord (b, command text) = []) :
      (seq (optWord "please") (seq r s)).pyMatch u.isWord (command text) = none := by
    rw [pyMatch, seq_ends_of_single (optWord_ends_of_not hplease false), seq_ends_of_nil (hr _)]
    rfl
  have hword {w : String} (hw : w.toList.take 2 ≠ ['s', 'e']) (hlength : 2 ≤ w.toList.length) (b : Bool) :
      (word w).ends u.isWord (b, command text) = [] :=
    word_ends_of_not (not_prefix_command hw hlength text) b
  have hwords (b : Bool) : (words ["remove", "subtract"]).ends u.isWord (b, command text) = [] := by
    refine words_ends_of_not (fun w hw => ?_) b
    simp only [List.mem_cons, List.not_mem_nil, or_false] at hw
    rcases hw with rfl | rfl
    · exact not_prefix_command (by decide) (by decide) text
    · exact not_prefix_command (by decide) (by decide) text
  rw [extractTimerAdjustment, List.findSome?_eq_none_iff]
  intro pair hpair
  simp only [adjustmentPatterns, List.mem_cons, List.not_mem_nil, or_false] at hpair
  rw [Option.map_eq_none_iff]
  rcases hpair with rfl | rfl | rfl | rfl
  · exact hnone (hword (by decide) (by decide))
  · exact hnone (hword (by decide) (by decide))
  · exact hnone hwords
  · exact hnone (hword (by decide) (by decide))

/-! ### Trimming -/

/-- Every `a` is one of `and`. -/
def OnlyAnd (c d : Char) : Prop := c = 'a' → d = 'n'

instance (c d : Char) : Decidable (OnlyAnd c d) := inferInstanceAs (Decidable (_ → _))

theorem split_of_no_match {r : Regex} (h : ∀ behind rest, rest <:+ text → r.ends isWord (behind, rest) = []) :
    r.split isWord text = [text] := by
  have hfrom (behind : Bool) : r.splitFrom isWord 0 behind text = [text] := by
    induction text generalizing behind with
    | nil => rfl
    | cons c cs ih =>
      have hrest := ih (fun b rest hsuffix => h b rest (hsuffix.trans (List.suffix_cons c cs)))
      rw [Regex.splitFrom, Regex.rest, h behind _ (List.suffix_refl _), hrest]
      rfl
  exact hfrom false

/-- A text without the words of a name is left as it is. -/
theorem trimDurationTail_eq (h : text.IsChain OnlyAnd)
    (hends : ∀ c ∈ text.head?.toList ++ text.getLast?.toList, c ∉ [' ', '.', '!', '?']) :
    trimDurationTail u text = text := by
  have hsplit : tailPattern.split u.isWord text = [text] := by
    refine split_of_no_match fun behind rest hsuffix => ?_
    rw [List.eq_nil_iff_forall_not_mem]
    intro e he
    obtain ⟨e₁, he₁, he⟩ := Regex.mem_ends_seq.mp he
    obtain ⟨e₂, he₂, -⟩ := Regex.mem_ends_seq.mp he
    obtain ⟨read, hread, -⟩ := Regex.mem_ends_some.mp he₁
    obtain ⟨r, hr, hlit⟩ := Regex.mem_ends_oneOf.mp he₂
    obtain ⟨w, hw, rfl⟩ := List.mem_map.mp hr
    obtain ⟨hword, -⟩ := Regex.mem_ends_lit.mp hlit
    -- Each of these words has an `a` that is not one of `and`.
    have hinfix : w.toList <:+: text := by
      refine List.IsInfix.trans ⟨read, e₂.2, ?_⟩ hsuffix.isInfix
      rw [hread, hword, List.append_assoc]
    have hall : ∀ w ∈ ["called", "named", "labelled", "labeled"], ¬ w.toList.IsChain OnlyAnd := by
      decide
    have hchain : w.toList.IsChain OnlyAnd := List.IsChain.infix h hinfix
    exact hall w hw hchain
  have hmark {c : Char} (hc : c ∉ [' ', '.', '!', '?']) : decide (c ∈ [' ', '.', '!', '?']) = false :=
    decide_eq_false hc
  rw [trimDurationTail, hsplit, List.head?_cons, Option.getD_some]
  refine strip_of_ends (fun hne => hmark (hends _ ?_)) fun hne => hmark (hends _ ?_)
  · simp [List.head?_eq_some_head hne]
  · simp [List.getLast?_eq_some_getLast hne]

/-! ### The text of a duration -/

theorem chain_of_notMem {xs ys : List Char} (h : 'a' ∉ xs) (hys : ys.IsChain OnlyAnd) :
    (xs ++ ys).IsChain OnlyAnd := by
  induction xs with
  | nil => exact hys
  | cons c cs ih =>
    rw [List.mem_cons, not_or] at h
    have hrest := ih h.2
    cases hcs : cs ++ ys with
    | nil => simp [hcs]
    | cons d ds =>
      rw [hcs] at hrest
      rw [List.cons_append, hcs, List.isChain_cons_cons]
      exact ⟨fun hc => absurd hc.symm h.1, hrest⟩

theorem chain_joinParts : ∀ {parts : List (List Char)}, parts ≠ [] → (∀ part ∈ parts, 'a' ∉ part) →
    (joinParts parts).IsChain OnlyAnd
  | [x], _, h => by
    have hx := chain_of_notMem (h x (by simp)) List.IsChain.nil
    rwa [List.append_nil] at hx
  | [x, y], _, h => by
    have hand : (" and ".toList ++ y).IsChain OnlyAnd := by
      have hletter : 'a' ∉ 'n' :: 'd' :: ' ' :: y := by simpa using h y (by simp)
      have hy := chain_of_notMem hletter List.IsChain.nil
      rw [List.append_nil] at hy
      exact .cons_cons (by decide) (.cons_cons (by decide) hy)
    have htext : joinParts [x, y] = x ++ (" and ".toList ++ y) := by simp [joinParts]
    rw [htext]
    exact chain_of_notMem (h x (by simp)) hand
  | x :: y :: z :: rest, _, h => by
    have hrest : (joinParts (y :: z :: rest)).IsChain OnlyAnd :=
      chain_joinParts (by simp) fun part hpart => h part (List.mem_cons_of_mem _ hpart)
    rw [joinParts_cons]
    exact chain_of_notMem (h x (by simp)) (chain_of_notMem (by decide) hrest)

/-- A joined text starts as its first part and ends as its last. -/
theorem joinParts_ends : ∀ {parts : List (List Char)}, parts ≠ [] → (∀ part ∈ parts, part ≠ []) →
    (∃ part ∈ parts, (joinParts parts).head? = part.head?) ∧
      ∃ part ∈ parts, (joinParts parts).getLast? = part.getLast?
  | [x], _, h => ⟨⟨x, by simp, rfl⟩, x, by simp, rfl⟩
  | [x, y], _, h => by
    have htext : joinParts [x, y] = x ++ (" and ".toList ++ y) := by simp [joinParts]
    have hx := h x (by simp)
    have hy := h y (by simp)
    refine ⟨⟨x, by simp, ?_⟩, y, by simp, ?_⟩
    · rw [htext, List.head?_append_of_ne_nil _ hx]
    · rw [htext, List.getLast?_append_of_ne_nil _ (by simp), List.getLast?_append_of_ne_nil _ hy]
  | x :: y :: z :: rest, _, h => by
    obtain ⟨-, part, hpart, hlast⟩ :=
      @joinParts_ends (y :: z :: rest) (by simp) fun part hpart =>
        h part (List.mem_cons_of_mem _ hpart)
    have hne : joinParts (y :: z :: rest) ≠ [] := by
      intro hnil
      rw [hnil] at hlast
      exact h part (List.mem_cons_of_mem _ hpart) (List.getLast?_eq_none_iff.mp hlast.symm)
    have hx := h x (by simp)
    refine ⟨⟨x, by simp, ?_⟩, part, List.mem_cons_of_mem _ hpart, ?_⟩
    · rw [joinParts_cons, List.head?_append_of_ne_nil _ hx]
    · rw [joinParts_cons, List.getLast?_append_of_ne_nil _ (by simp),
        List.getLast?_append_of_ne_nil _ hne, hlast]

theorem mem_joinParts {c : Char} : ∀ {parts : List (List Char)}, parts ≠ [] → c ∈ joinParts parts →
    (∃ part ∈ parts, c ∈ part) ∨ c ∈ ", and".toList
  | [x], _, h => .inl ⟨x, by simp, h⟩
  | [x, y], _, h => by
    have htext : joinParts [x, y] = x ++ (" and ".toList ++ y) := by simp [joinParts]
    rw [htext, List.mem_append, List.mem_append] at h
    rcases h with h | h | h
    · exact .inl ⟨x, by simp, h⟩
    · right
      revert h
      simp
      tauto
    · exact .inl ⟨y, by simp, h⟩
  | x :: y :: z :: rest, _, h => by
    rw [joinParts_cons, List.mem_append, List.mem_append] at h
    rcases h with h | h | h
    · exact .inl ⟨x, by simp, h⟩
    · right
      revert h
      simp
      tauto
    · rcases mem_joinParts (by simp) h with ⟨part, hpart, hc⟩ | hc
      · exact .inl ⟨part, List.mem_cons_of_mem _ hpart, hc⟩
      · exact .inr hc

/-- The formatted duration of a part. -/
theorem part_format {p : Part} (hp : p.2 ∈ partUnits) : 'a' ∉ p.format ∧ '\n' ∉ p.format ∧
    (∃ c, p.format.head? = some c ∧ c.isDigit = true) ∧
      ∃ c, p.format.getLast? = some c ∧ c.isLower = true := by
  have hdigits := toDigits_digit p.1
  have hunits : ∀ unit ∈ partUnits, ∀ w ∈ [unit, unit ++ "s"], 'a' ∉ w.toList ∧ '\n' ∉ w.toList ∧
      w.toList.getLast?.any Char.isLower = true := by decide +kernel
  have hunit : unitOf p ∈ [p.2, p.2 ++ "s"] := by
    unfold unitOf
    split <;> simp
  obtain ⟨ha, hline, hlast⟩ := hunits _ hp _ hunit
  obtain ⟨c, hc, hlower⟩ := (Option.any_eq_true ..).mp hlast
  obtain ⟨d, ds, hds⟩ := List.exists_cons_of_ne_nil (toDigits_ne_nil p.1)
  have hnot {c : Char} (hc : c.isDigit = false) (hblank : c ≠ ' ') (hw : c ∉ (unitOf p).toList) :
      c ∉ p.format := by
    rw [Part.format_eq, List.mem_append, List.mem_cons, not_or, not_or]
    refine ⟨fun hmem => ?_, hblank, hw⟩
    rw [hdigits c hmem] at hc
    cases hc
  refine ⟨hnot (by decide) (by decide) ha, hnot (by decide) (by decide) hline, ⟨d, ?_, ?_⟩, c, ?_, hlower⟩
  · rw [Part.format_eq, hds]
    rfl
  · exact hdigits d (by simp [hds])
  · have hne : (unitOf p).toList ≠ [] := by
      intro hnil
      rw [hnil] at hc
      cases hc
    rw [Part.format_eq, List.getLast?_append_of_ne_nil _ (by simp), List.getLast?_cons, hc]
    rfl

/-- What is read off a command with a formatted duration. -/
theorem durationText_formatDuration {n : ℕ} (hn : 1 ≤ n) :
    extractTimerDurationText u (command (formatDuration n)) = some (formatDuration n) := by
  have hparts : ∀ part ∈ (partsOf n).map Part.format, 'a' ∉ part ∧ '\n' ∉ part ∧
      (∃ c, part.head? = some c ∧ c.isDigit = true) ∧
        ∃ c, part.getLast? = some c ∧ c.isLower = true := by
    intro part hpart
    obtain ⟨p, hp, rfl⟩ := List.mem_map.mp hpart
    exact part_format (partsOf_units n p hp)
  have hnonempty : (partsOf n).map Part.format ≠ [] := by simpa using partsOf_ne_nil hn
  have hne : ∀ part ∈ (partsOf n).map Part.format, part ≠ [] := by
    intro part hpart hnil
    obtain ⟨-, -, ⟨c, hc, -⟩, -⟩ := hparts part hpart
    rw [hnil] at hc
    cases hc
  obtain ⟨⟨first, hfirst, hhead⟩, last, hlast, hend⟩ := joinParts_ends hnonempty hne
  rw [← formatDuration_eq hn] at hhead hend
  obtain ⟨-, -, ⟨c, hc, hdigit⟩, -⟩ := hparts first hfirst
  obtain ⟨-, -, -, d, hd, hlower⟩ := hparts last hlast
  rw [hc] at hhead
  rw [hd] at hend
  have hcmark : isPySpace c = false ∧ c ∉ [' ', '.', '!', '?'] := by
    refine ⟨u.isPySpace_of_isWord (isWord_of_isDecimal ?_), ?_⟩
    · rw [u.isDecimal_ascii c (ascii_of_isDigit hdigit), hdigit]
    · simp only [List.mem_cons, List.not_mem_nil, or_false]
      rintro (rfl | rfl | rfl | rfl) <;> exact absurd hdigit (by decide)
  have hdmark : d ∉ [' ', '.', '!', '?'] := by
    simp only [List.mem_cons, List.not_mem_nil, or_false]
    rintro (rfl | rfl | rfl | rfl) <;> exact absurd hlower (by decide)
  have hline : '\n' ∉ formatDuration n := by
    rw [formatDuration_eq hn]
    intro hmem
    rcases mem_joinParts hnonempty hmem with ⟨part, hpart, hc⟩ | hc
    · exact (hparts part hpart).2.1 hc
    · exact absurd hc (by decide)
  have hnotFrom : NotFrom isPySpace (formatDuration n) := by
    intro x hx
    rw [hhead] at hx
    rw [← Option.some.inj hx]
    exact hcmark.1
  have htrim : trimDurationTail u (formatDuration n) = formatDuration n := by
    refine trimDurationTail_eq ?_ ?_
    · rw [formatDuration_eq hn]
      exact chain_joinParts hnonempty fun part hpart => (hparts part hpart).1
    · rw [hhead, hend]
      intro x hx
      rcases List.mem_append.mp hx with hx | hx
      · rw [List.mem_singleton.mp hx]
        exact hcmark.2
      · rw [List.mem_singleton.mp hx]
        exact hdmark
  have hne' : formatDuration n ≠ [] := by
    intro hnil
    rw [hnil] at hhead
    cases hhead
  rw [extractTimerDurationText, durationText_command hnotFrom hne' hline, Option.map_some, durationOf]
  exact congrArg some htrim

end reading

/-! ### Hours, minutes and seconds -/

section clock

variable {py : Python}

/-- `int` reads the digits of ASCII. -/
def ReadsDigits (py : Python) : Prop :=
  ∀ digits : List Char, digits ≠ [] → (∀ c ∈ digits, c.isDigit = true) →
    py.int (String.ofList digits) = some (Nat.ofDigitChars 10 digits 0 : ℤ)

theorem twoDigits_natCast (n : ℕ) :
    twoDigits n = List.replicate (2 - (Nat.toDigits 10 n).length) '0' ++ Nat.toDigits 10 n := by
  rw [twoDigits, decimalText_natCast, List.leftpad]

theorem twoDigits_digit (n : ℕ) : ∀ c ∈ twoDigits n, c.isDigit = true := by
  intro c hc
  rw [twoDigits_natCast, List.mem_append] at hc
  rcases hc with hc | hc
  · rw [List.eq_of_mem_replicate hc]
    decide
  · exact toDigits_digit n c hc

theorem twoDigits_ne_nil (n : ℕ) : twoDigits n ≠ [] := by
  rw [twoDigits_natCast]
  simp

theorem ofDigitChars_twoDigits (n : ℕ) : Nat.ofDigitChars 10 (twoDigits n) 0 = n := by
  rw [twoDigits_natCast, Nat.ofDigitChars_append, Nat.ofDigitChars_replicate_zero, Nat.mul_zero,
    Nat.ofDigitChars_ten_toDigits]

theorem length_twoDigits {n : ℕ} (hn : n < 100) : (twoDigits n).length = 2 := by
  have hlength := (Nat.length_toDigits_le_iff (b := 10) (n := n) (k := 2) (by decide) (by decide)).mpr hn
  rw [twoDigits_natCast, List.length_append, List.length_replicate]
  omega

theorem intGroup_twoDigits (hint : ReadsDigits py) (n : ℕ) :
    Timers.intGroup py (String.ofList (twoDigits n)) = .ok (n : ℤ) := by
  have hread := hint (twoDigits n) (twoDigits_ne_nil n) (twoDigits_digit n)
  rw [ofDigitChars_twoDigits] at hread
  rw [Timers.intGroup, Python.toInt, hread]
  rfl

/-- The text of a number of seconds is split at its colons. -/
theorem hhmmssGroups_eq (hours : ℕ) {minutes seconds : ℕ} (hminutes : minutes < 100)
    (hseconds : seconds < 100) : Timers.hhmmssGroups py (String.ofList
      (twoDigits hours ++ ':' :: (twoDigits minutes ++ ':' :: twoDigits seconds))) =
      some (String.ofList (twoDigits hours), String.ofList (twoDigits minutes),
        String.ofList (twoDigits seconds)) := by
  have hcolon (n : ℕ) : ':' ∉ twoDigits n := by
    intro hmem
    exact absurd (twoDigits_digit n _ hmem) (by decide)
  have hdecimal : (twoDigits hours ++ twoDigits minutes ++ twoDigits seconds).all
      py.chars.isDecimal = true := by
    rw [List.all_eq_true]
    intro c hc
    have hdigit : c.isDigit = true := by
      rcases List.mem_append.mp hc with hc | hc
      · rcases List.mem_append.mp hc with hc | hc
        · exact twoDigits_digit _ c hc
        · exact twoDigits_digit _ c hc
      · exact twoDigits_digit _ c hc
    rw [py.chars.isDecimal_ascii c (ascii_of_isDigit hdigit), hdigit]
  rw [Timers.hhmmssGroups, String.toList_ofList, List.splitOn_append_cons_self_of_not_mem (hcolon _),
    List.splitOn_append_cons_self_of_not_mem (hcolon _), List.splitOn_eq_singleton (hcolon _)]
  simp only [hdecimal, length_twoDigits hminutes, length_twoDigits hseconds, twoDigits_ne_nil, ne_eq,
    not_false_eq_true, and_self, if_true]

/-- `_timer_duration_seconds` reads a duration off its hours, minutes and seconds. -/
theorem timerDurationSeconds_hhmmss (hint : ReadsDigits py) (n : ℕ) {data : JsonObject}
    (hseconds : data.get "duration_seconds" = none)
    (hhhmmss : data.get "duration_hhmmss" = some (.str (String.ofList (formatDurationHhmmss n)))) :
    Timers.timerDurationSeconds py data = .ok (some (n : ℤ)) := by
  have hparts : formatDurationHhmmss n = twoDigits ((n / 3600 : ℕ) : ℤ) ++
      ':' :: (twoDigits ((n % 3600 / 60 : ℕ) : ℤ) ++ ':' :: twoDigits ((n % 3600 % 60 : ℕ) : ℤ)) := by
    have hmax : max 0 (n : ℤ) = n := by omega
    rw [formatDurationHhmmss, hmax]
    norm_cast
  have hblank : ∀ c ∈ formatDurationHhmmss n, isPySpace c = false := by
    have hdigit {c : Char} (hc : c.isDigit = true) : isPySpace c = false := by
      have hword := py.chars.isAlnum_ascii c (ascii_of_isDigit hc)
      by_contra hspace
      rw [py.chars.isAlnum_space c (by simpa using hspace), Char.isAlphanum, hc] at hword
      simp at hword
    intro c hc
    rw [hparts, List.mem_append, List.mem_cons, List.mem_append, List.mem_cons] at hc
    rcases hc with hc | rfl | hc | rfl | hc
    · exact hdigit (twoDigits_digit _ c hc)
    · decide
    · exact hdigit (twoDigits_digit _ c hc)
    · decide
    · exact hdigit (twoDigits_digit _ c hc)
  have hne : String.ofList (formatDurationHhmmss n) ≠ "" := by
    intro hempty
    have hnil := congrArg String.toList hempty
    rw [String.toList_ofList, hparts] at hnil
    simp at hnil
  have hstrip : strip (py.firstText [data.get "duration_hhmmss"]) =
      String.ofList (formatDurationHhmmss n) := by
    have htext : py.firstText [data.get "duration_hhmmss"] =
        String.ofList (formatDurationHhmmss n) := by
      simp [hhhmmss, Python.firstText, Json.truthy, hne, Python.str]
    rw [htext, strip, String.toList_ofList, stripChars,
      strip_of_ends (fun h => hblank _ (List.head_mem h)) fun h => hblank _ (List.getLast_mem h)]
  have hsum : ((n / 3600 : ℕ) : ℤ) * 3600 + ((n % 3600 / 60 : ℕ) : ℤ) * 60 +
      ((n % 3600 % 60 : ℕ) : ℤ) = n := by omega
  rw [Timers.timerDurationSeconds, hseconds]
  rw [hstrip, hparts, hhmmssGroups_eq _ (by omega) (by omega)]
  simp only [Timers.optionalInt, intGroup_twoDigits hint, bind, Except.bind, pure, Except.pure,
    Option.any_none, Bool.false_eq_true, if_false, hsum]

end clock

/-! ### The round trip -/

/-- **Formatted durations are read back.** -/
theorem duration_round_trip (u : Numerals) (py : Python) (hint : ReadsDigits py) (n : ℤ) (hn : 1 ≤ n)
    (requestedAt : Option WallTime) (now : WallTime) :
    parseDurationSeconds u (formatDuration n) = some (some n) ∧
      ∃ found, findTimerCreate u py.isoformat ("set a timer for ".toList ++ formatDuration n)
          requestedAt now = some (some found) ∧
        found.slots.durationSeconds = n ∧ found.slots.durationText = formatDuration n ∧
        ∀ data : JsonObject, data.get "duration_seconds" = none →
          data.get "duration_hhmmss" = some (.str (String.ofList found.slots.durationHhmmss)) →
          Timers.timerDurationSeconds py data = .ok (some n) := by
  obtain ⟨n, rfl⟩ := Int.eq_ofNat_of_zero_le (by omega : 0 ≤ n)
  have hn' : 1 ≤ n := by omega
  have hparse := parseDurationSeconds_formatDuration (u := u) hn'
  have hfound : findTimerCreate u py.isoformat (command (formatDuration n)) requestedAt now =
      some (some {
        intent := "timer.create"
        command := "timer.create"
        slots := {
          durationSeconds := n
          durationHhmmss := formatDurationHhmmss n
          durationText := formatDuration n
          requestedAt := py.isoformat (requestedAt.getD now) }
        replyText := "Setting timer for ".toList ++ (formatDuration n ++ ".".toList) }) := by
    simp only [findTimerCreate, adjustment_command, durationText_formatDuration hn', hparse,
      Option.isSome_none, Bool.false_eq_true, if_false, Option.bind_eq_bind, Option.bind_some, pure]
  rw [← command_eq]
  exact ⟨hparse, _, hfound, rfl, rfl, fun _ hseconds hhhmmss =>
    timerDurationSeconds_hhmmss hint n hseconds hhhmmss⟩

/-- `int` that reads the digits of ASCII alone. -/
def digitsPython : Python :=
  { Python.ascii with
    int := fun s =>
      if s.toList ≠ [] ∧ ∀ c ∈ s.toList, c.isDigit = true then some (Nat.ofDigitChars 10 s.toList 0)
      else none }

theorem digitsPython_readsDigits : ReadsDigits digitsPython := by
  intro digits hne hall
  simp only [digitsPython, String.toList_ofList]
  exact if_pos ⟨hne, hall⟩

theorem duration_round_trip_hour : formatDuration 3725 = "1 hour, 2 minutes and 5 seconds".toList ∧
    parseDurationSeconds .ascii (formatDuration 3725) = some (some 3725) ∧
      ∃ found, findTimerCreate .ascii digitsPython.isoformat
          ("set a timer for ".toList ++ formatDuration 3725) none ⟨0, some 0⟩ = some (some found) ∧
        found.slots.durationSeconds = 3725 ∧ found.slots.durationText = formatDuration 3725 ∧
        ∀ data : JsonObject, data.get "duration_seconds" = none →
          data.get "duration_hhmmss" = some (.str (String.ofList found.slots.durationHhmmss)) →
          Timers.timerDurationSeconds digitsPython data = .ok (some 3725) :=
  ⟨by decide +kernel, duration_round_trip .ascii digitsPython digitsPython_readsDigits 3725
    (by decide) none ⟨0, some 0⟩⟩

end HexeVoice.Assistant.TimerCreate
