import HexeVoice.Library.Regex
import Mathlib

/-!
# Patterns with groups

Patterns of Python's `re` that name groups, around the parts without groups of `Regex`.

## The model

`Pattern.ends` lists, in the order of backtracking, where a match may end and what the groups
hold then; the first is the one taken. `pyMatch` matches at the start of a text, `finditer` takes
matches from left to right (of patterns that match no empty text).

## What is proved

What the ends of each part are: a member of `ends` is a reading of the text (`mem_ends_many`,
`mem_ends_word`, …).
-/

namespace HexeVoice.Library

/-- A pattern with groups. -/
inductive Pattern (G : Type*) where
  /-- A part without groups. -/
  | plain (r : Regex)
  /-- `p*?`: as few characters of a class as do. -/
  | lazy (p : Char → Bool)
  /-- `$`. -/
  | eos
  /-- `(?P<g>r)`. -/
  | group (g : G) (r : Pattern G)
  | seq (r s : Pattern G)
  | alt (r s : Pattern G)

/-- What the groups hold. -/
abbrev Captures (G : Type*) := List (G × List Char)

/-! ### Spots -/

/-- Whether the character before the place after `read` is of a word. -/
def behindAfter (isWord : Char → Bool) (behind : Bool) (read : List Char) : Bool :=
  (read.getLast?.map isWord).getD behind

@[simp] theorem behindAfter_nil (isWord : Char → Bool) (behind : Bool) :
    behindAfter isWord behind [] = behind := rfl

@[simp] theorem behindAfter_cons (isWord : Char → Bool) (behind : Bool) (c : Char)
    (cs : List Char) :
    behindAfter isWord behind (c :: cs) = behindAfter isWord (isWord c) cs := by
  cases cs <;> simp [behindAfter, List.getLast?_cons]

@[simp] theorem behindAfter_append (isWord : Char → Bool) (behind : Bool) (cs ds : List Char) :
    behindAfter isWord behind (cs ++ ds) =
      behindAfter isWord (behindAfter isWord behind cs) ds := by
  induction cs generalizing behind with
  | nil => rfl
  | cons c cs ih => rw [List.cons_append, behindAfter_cons, behindAfter_cons, ih]

namespace Regex

variable {isWord : Char → Bool}

theorem mem_ends_many {p : Char → Bool} {behind : Bool} {cs : List Char} {e : Spot} :
    e ∈ manyEnds isWord p behind cs ↔
      ∃ read, cs = read ++ e.2 ∧ (∀ c ∈ read, p c = true) ∧ e.1 = behindAfter isWord behind read := by
  induction cs generalizing behind with
  | nil =>
    obtain ⟨b, cs⟩ := e
    simp only [manyEnds, List.mem_singleton, Prod.mk.injEq, List.nil_eq, List.append_eq_nil_iff]
    constructor
    · rintro ⟨rfl, rfl⟩
      exact ⟨[], by simp⟩
    · rintro ⟨read, ⟨rfl, rfl⟩, -, rfl⟩
      exact ⟨rfl, rfl⟩
  | cons c cs ih =>
    obtain ⟨b, ds⟩ := e
    have hstop : (b, ds) = (behind, c :: cs) ↔
        ∃ read, c :: cs = read ++ ds ∧ read = [] ∧ b = behindAfter isWord behind read := by
      constructor
      · rintro ⟨rfl, rfl⟩
        exact ⟨[], rfl, rfl, rfl⟩
      · rintro ⟨read, heq, rfl, rfl⟩
        exact Prod.ext rfl heq.symm
    unfold manyEnds
    by_cases hc : p c = true
    · rw [if_pos hc, List.mem_append, ih, List.mem_singleton]
      constructor
      · rintro (⟨read, rfl, hread, hb⟩ | h)
        · exact ⟨c :: read, rfl, by simpa [hc] using hread, by rw [hb, behindAfter_cons]⟩
        · obtain ⟨read, heq, rfl, hb⟩ := hstop.mp h
          exact ⟨[], heq, by simp, hb⟩
      · rintro ⟨read, heq, hread, hb⟩
        cases read with
        | nil => exact .inr (hstop.mpr ⟨[], heq, rfl, hb⟩)
        | cons d read =>
          obtain ⟨rfl, rfl⟩ := List.cons_eq_cons.mp heq
          rw [List.forall_mem_cons] at hread
          exact .inl ⟨read, rfl, hread.2, by rw [hb, behindAfter_cons]⟩
    · rw [if_neg hc, List.mem_singleton]
      constructor
      · intro h
        obtain ⟨read, heq, rfl, hb⟩ := hstop.mp h
        exact ⟨[], heq, by simp, hb⟩
      · rintro ⟨read, heq, hread, hb⟩
        cases read with
        | nil => exact hstop.mpr ⟨[], heq, rfl, hb⟩
        | cons d read =>
          obtain ⟨rfl, rfl⟩ := List.cons_eq_cons.mp heq
          exact absurd (hread _ (List.mem_cons_self ..)) hc

/-- The characters of a word, as they are. -/
abbrev lit (w : List Char) : Regex := word (fun c d => d == c) w

theorem ends_lit (w : List Char) (behind : Bool) (cs : List Char) :
    (lit w).ends isWord (behind, cs) =
      if w <+: cs then [(behindAfter isWord behind w, cs.drop w.length)] else [] := by
  induction w generalizing behind cs with
  | nil => simp [lit, word, ends]
  | cons c w ih =>
    cases cs with
    | nil => simp [lit, word, ends]
    | cons d cs =>
      unfold lit word ends
      by_cases hd : d = c
      · subst hd
        simp [ends, ih, List.cons_prefix_cons]
      · simp [ends, List.cons_prefix_cons, hd, Ne.symm hd]

theorem mem_ends_lit {w : List Char} {behind : Bool} {cs : List Char} {e : Spot} :
    e ∈ (lit w).ends isWord (behind, cs) ↔
      cs = w ++ e.2 ∧ e.1 = behindAfter isWord behind w := by
  obtain ⟨b, ds⟩ := e
  rw [ends_lit]
  split
  · next h =>
    obtain ⟨rest, rfl⟩ := h
    simp only [List.mem_singleton, Prod.mk.injEq, List.drop_left, List.append_cancel_left_eq]
    constructor
    · rintro ⟨rfl, rfl⟩
      exact ⟨rfl, rfl⟩
    · rintro ⟨rfl, rfl⟩
      exact ⟨rfl, rfl⟩
  · next h =>
    simp only [List.not_mem_nil, false_iff, not_and]
    rintro rfl
    exact absurd (List.prefix_append ..) h

theorem mem_ends_some {p : Char → Bool} {behind : Bool} {cs : List Char} {e : Spot} :
    e ∈ (some p).ends isWord (behind, cs) ↔
      ∃ read, cs = read ++ e.2 ∧ read ≠ [] ∧ (∀ c ∈ read, p c = true) ∧
        e.1 = behindAfter isWord behind read := by
  cases cs with
  | nil => simp [some, ends]
  | cons c cs =>
    have hone : (one p).ends isWord (behind, c :: cs) =
        if p c = true then [(isWord c, cs)] else [] := rfl
    unfold some ends
    rw [hone]
    constructor
    · intro h
      obtain ⟨spot, hspot, he⟩ := List.mem_flatMap.mp h
      split at hspot
      · next hc =>
        rw [List.mem_singleton] at hspot
        subst hspot
        obtain ⟨read, rfl, hread, hb⟩ := mem_ends_many.mp he
        exact ⟨c :: read, rfl, by simp, by simpa [hc] using hread, by rw [hb, behindAfter_cons]⟩
      · simp at hspot
    · rintro ⟨read, heq, hne, hread, hb⟩
      obtain ⟨d, read, rfl⟩ := List.exists_cons_of_ne_nil hne
      obtain ⟨rfl, rfl⟩ := List.cons_eq_cons.mp heq
      rw [List.forall_mem_cons] at hread
      rw [if_pos hread.1, List.flatMap_singleton]
      exact mem_ends_many.mpr ⟨read, rfl, hread.2, by rw [hb, behindAfter_cons]⟩

theorem mem_ends_oneOf {rs : List Regex} {spot e : Spot} :
    e ∈ (oneOf rs).ends isWord spot ↔ ∃ r ∈ rs, e ∈ r.ends isWord spot := by
  induction rs with
  | nil =>
    obtain ⟨behind, cs⟩ := spot
    cases cs <;> simp [oneOf, ends]
  | cons r rs ih =>
    have halt : (oneOf (r :: rs)).ends isWord spot =
        r.ends isWord spot ++ (oneOf rs).ends isWord spot := rfl
    rw [halt, List.mem_append, ih, List.exists_mem_cons_iff]

theorem mem_ends_seq {r s : Regex} {spot e : Spot} :
    e ∈ (seq r s).ends isWord spot ↔ ∃ e' ∈ r.ends isWord spot, e ∈ s.ends isWord e' :=
  List.mem_flatMap

theorem mem_ends_alt {r s : Regex} {spot e : Spot} :
    e ∈ (alt r s).ends isWord spot ↔ e ∈ r.ends isWord spot ∨ e ∈ s.ends isWord spot :=
  List.mem_append

/-- `(?:r)?`. -/
def opt (r : Regex) : Regex := alt r empty

theorem mem_ends_opt {r : Regex} {spot e : Spot} :
    e ∈ (opt r).ends isWord spot ↔ e ∈ r.ends isWord spot ∨ e = spot := by
  rw [opt, mem_ends_alt]
  simp [ends]

theorem mem_ends_bound {behind : Bool} {cs : List Char} {e : Spot} :
    e ∈ bound.ends isWord (behind, cs) ↔
      (behind != cs.head?.any isWord) = true ∧ e = (behind, cs) := by
  unfold ends
  split <;> simp_all

/-- What is left of a text when matches are replaced. -/
theorem mem_subFrom {r : Regex} {repl : List Char} {c : Char} (skip : ℕ) (behind : Bool)
    (text : List Char) (h : c ∈ r.subFrom isWord repl skip behind text) : c ∈ repl ∨ c ∈ text := by
  induction text generalizing skip behind with
  | nil => simp [subFrom] at h
  | cons d cs ih =>
    have htail {skip : ℕ} (h : c ∈ r.subFrom isWord repl skip (isWord d) cs) :
        c ∈ repl ∨ c ∈ d :: cs := (ih skip _ h).imp_right (List.mem_cons_of_mem d)
    cases skip with
    | succ skip => exact htail h
    | zero =>
      rw [subFrom_cons] at h
      split at h
      · exact (List.mem_append.mp h).elim .inl htail
      · rcases List.mem_cons.mp h with rfl | h
        · exact .inr (List.mem_cons_self ..)
        · exact htail h

end Regex

namespace Pattern

variable {G : Type*} (isWord : Char → Bool)

/-- `(?:r)?`. -/
def opt (r : Pattern G) : Pattern G := alt r (plain .empty)

/-- One pattern after the other. -/
def seqs : List (Pattern G) → Pattern G
  | [] => plain .empty
  | [r] => r
  | r :: rs => seq r (seqs rs)

/-- Where `p*?` may end, the nearest place first. -/
def lazyEnds (p : Char → Bool) : Bool → List Char → List Spot
  | behind, [] => [(behind, [])]
  | behind, c :: cs =>
    (behind, c :: cs) :: if p c then lazyEnds p (isWord c) cs else []

/-- Where a match that starts at a spot may end and what its groups hold then, in the order of
backtracking. -/
def ends : Pattern G → Spot → List (Captures G × Spot)
  | plain r, spot => (r.ends isWord spot).map fun e => ([], e)
  | lazy p, (behind, cs) => (lazyEnds isWord p behind cs).map fun e => ([], e)
  | eos, (behind, cs) => if cs = [] ∨ cs = ['\n'] then [([], behind, cs)] else []
  | group g r, spot =>
    (r.ends spot).map fun e =>
      (e.1 ++ [(g, spot.2.take (spot.2.length - e.2.2.length))], e.2)
  | seq r s, spot =>
    (r.ends spot).flatMap fun e => (s.ends e.2).map fun e' => (e.1 ++ e'.1, e'.2)
  | alt r s, spot => r.ends spot ++ s.ends spot

variable (r : Pattern G)

/-- `re.match(r, text)`: what the groups hold. -/
def pyMatch (text : List Char) : Option (Captures G) :=
  (r.ends isWord (false, text)).head?.map (·.1)

/-- `re.finditer`, from a spot on, where the next `skip` characters are matched already. -/
def finditerFrom : ℕ → Bool → List Char → List (Captures G)
  | _, _, [] => []
  | skip + 1, _, c :: cs => finditerFrom skip (isWord c) cs
  | 0, behind, c :: cs =>
    match (r.ends isWord (behind, c :: cs)).head? with
    | some (groups, _, rest) =>
      groups :: finditerFrom (cs.length - rest.length) (isWord c) cs
    | none => finditerFrom 0 (isWord c) cs

/-- `re.finditer(r, text)`: what the groups of each match hold. -/
def finditer (text : List Char) : List (Captures G) := r.finditerFrom isWord 0 false text

variable {isWord} {r}

theorem mem_lazyEnds {p : Char → Bool} {behind : Bool} {cs : List Char} {e : Spot} :
    e ∈ lazyEnds isWord p behind cs ↔
      ∃ read, cs = read ++ e.2 ∧ (∀ c ∈ read, p c = true) ∧ e.1 = behindAfter isWord behind read := by
  induction cs generalizing behind with
  | nil =>
    have hmany : e ∈ Regex.manyEnds isWord p behind [] ↔ _ := Regex.mem_ends_many
    simpa [lazyEnds, Regex.manyEnds] using hmany
  | cons c cs ih =>
    rw [← Regex.mem_ends_many]
    unfold lazyEnds Regex.manyEnds
    split
    · rw [List.mem_cons, List.mem_append, List.mem_singleton, ih, Regex.mem_ends_many, or_comm]
    · rfl

theorem mem_ends_plain {s : Regex} {spot : Spot} {e : Captures G × Spot} :
    e ∈ (plain s : Pattern G).ends isWord spot ↔ e.1 = [] ∧ e.2 ∈ s.ends isWord spot := by
  obtain ⟨groups, e⟩ := e
  unfold ends
  simp only [List.mem_map, Prod.mk.injEq]
  constructor
  · rintro ⟨e', he', rfl, rfl⟩
    exact ⟨rfl, he'⟩
  · rintro ⟨rfl, he⟩
    exact ⟨e, he, rfl, rfl⟩

theorem mem_ends_lazy {p : Char → Bool} {behind : Bool} {cs : List Char} {e : Captures G × Spot} :
    e ∈ (lazy p : Pattern G).ends isWord (behind, cs) ↔
      e.1 = [] ∧ ∃ read, cs = read ++ e.2.2 ∧ (∀ c ∈ read, p c = true) ∧
        e.2.1 = behindAfter isWord behind read := by
  obtain ⟨groups, e⟩ := e
  rw [← mem_lazyEnds]
  unfold ends
  simp only [List.mem_map, Prod.mk.injEq]
  constructor
  · rintro ⟨e', he', rfl, rfl⟩
    exact ⟨rfl, he'⟩
  · rintro ⟨rfl, he⟩
    exact ⟨e, he, rfl, rfl⟩

theorem mem_ends_eos {spot : Spot} {e : Captures G × Spot} :
    e ∈ (eos : Pattern G).ends isWord spot ↔
      (spot.2 = [] ∨ spot.2 = ['\n']) ∧ e = ([], spot) := by
  obtain ⟨behind, cs⟩ := spot
  unfold ends
  split
  · next h => simp [h]
  · next h => simpa using fun h' => absurd h' h

theorem mem_ends_seq {s : Pattern G} {spot : Spot} {e : Captures G × Spot} :
    e ∈ (seq r s).ends isWord spot ↔
      ∃ e' ∈ r.ends isWord spot, ∃ e'' ∈ s.ends isWord e'.2, e = (e'.1 ++ e''.1, e''.2) := by
  simp only [ends, List.mem_flatMap, List.mem_map, eq_comm]

theorem mem_ends_alt {s : Pattern G} {spot : Spot} {e : Captures G × Spot} :
    e ∈ (alt r s).ends isWord spot ↔ e ∈ r.ends isWord spot ∨ e ∈ s.ends isWord spot := by
  simp only [ends, List.mem_append]

theorem mem_ends_opt {spot : Spot} {e : Captures G × Spot} :
    e ∈ (opt r).ends isWord spot ↔ e ∈ r.ends isWord spot ∨ e = ([], spot) := by
  unfold opt
  rw [mem_ends_alt, mem_ends_plain]
  obtain ⟨groups, e⟩ := e
  simp [Regex.ends]

/-- A match ends at a later place of the text. -/
theorem ends_suffix (spot : Spot) : ∀ e ∈ r.ends isWord spot, e.2.2 <:+ spot.2 := by
  induction r generalizing spot with
  | plain s =>
    intro e he
    exact Regex.ends_suffix spot _ (mem_ends_plain.mp he).2
  | lazy p =>
    intro e he
    obtain ⟨-, read, heq, -⟩ := mem_ends_lazy.mp he
    exact ⟨read, heq.symm⟩
  | eos =>
    intro e he
    rw [(mem_ends_eos.mp he).2]
  | group g r ih =>
    intro e he
    obtain ⟨e', he', rfl⟩ := List.mem_map.mp he
    exact ih spot e' he'
  | seq r s ihr ihs =>
    intro e he
    obtain ⟨e', he', e'', he'', rfl⟩ := mem_ends_seq.mp he
    exact (ihs e'.2 e'' he'').trans (ihr spot e' he')
  | alt r s ihr ihs =>
    intro e he
    exact (mem_ends_alt.mp he).elim (ihr spot e) (ihs spot e)

/-- A group holds what is between the start of its match and the end. -/
theorem mem_ends_group {g : G} {spot : Spot} {e : Captures G × Spot} :
    e ∈ (group g r).ends isWord spot ↔
      ∃ groups read, e.1 = groups ++ [(g, read)] ∧ spot.2 = read ++ e.2.2 ∧
        (groups, e.2) ∈ r.ends isWord spot := by
  have hgroup : (group g r).ends isWord spot = (r.ends isWord spot).map fun e =>
      (e.1 ++ [(g, spot.2.take (spot.2.length - e.2.2.length))], e.2) := rfl
  rw [hgroup]
  constructor
  · intro he
    obtain ⟨⟨groups, spot'⟩, he', rfl⟩ := List.mem_map.mp he
    obtain ⟨read, hread⟩ := ends_suffix spot _ he'
    refine ⟨groups, read, ?_, hread.symm, he'⟩
    dsimp only at hread ⊢
    rw [← hread]
    simp
  · obtain ⟨groups', spot'⟩ := e
    rintro ⟨groups, read, rfl, hread, he'⟩
    refine List.mem_map.mpr ⟨(groups, spot'), he', ?_⟩
    dsimp only at hread ⊢
    rw [hread]
    simp

/-! ### Going on -/

theorem finditerFrom_skip (xs ys : List Char) (behind : Bool) :
    r.finditerFrom isWord xs.length behind (xs ++ ys) =
      r.finditerFrom isWord 0 (behindAfter isWord behind xs) ys := by
  induction xs generalizing behind with
  | nil => rfl
  | cons x xs ih =>
    rw [behindAfter_cons, ← ih]
    rfl

/-- Where nothing matches, the next place is tried. -/
theorem finditerFrom_of_nil {behind : Bool} {c : Char} {cs : List Char}
    (h : r.ends isWord (behind, c :: cs) = []) :
    r.finditerFrom isWord 0 behind (c :: cs) = r.finditerFrom isWord 0 (isWord c) cs := by
  rw [finditerFrom, h]
  rfl

/-- After a match, the rest of the text is gone through. -/
theorem finditerFrom_of_head? {behind b : Bool} {groups : Captures G} {read rest : List Char}
    (hne : read ≠ [])
    (h : (r.ends isWord (behind, read ++ rest)).head? = some (groups, b, rest)) :
    r.finditerFrom isWord 0 behind (read ++ rest) =
      groups :: r.finditerFrom isWord 0 (behindAfter isWord behind read) rest := by
  obtain ⟨c, cs, rfl⟩ := List.exists_cons_of_ne_nil hne
  rw [List.cons_append] at h ⊢
  rw [finditerFrom, h]
  have hlength : (cs ++ rest).length - rest.length = cs.length := by simp
  dsimp only
  rw [hlength, finditerFrom_skip, behindAfter_cons]

/-! ### The end that is taken -/

variable (isWord) (r) in
/-- The first end in the order of backtracking. -/
def first (spot : Spot) : Option (Captures G × Spot) := (r.ends isWord spot).head?

theorem pyMatch_eq_some {text : List Char} {groups : Captures G} :
    r.pyMatch isWord text = some groups ↔ ∃ spot, r.first isWord (false, text) = some (groups, spot) := by
  unfold pyMatch first
  rw [Option.map_eq_some_iff]
  constructor
  · rintro ⟨⟨groups, spot⟩, h, rfl⟩
    exact ⟨spot, h⟩
  · rintro ⟨spot, h⟩
    exact ⟨_, h, rfl⟩

theorem first_eq_none {spot : Spot} : r.first isWord spot = none ↔ r.ends isWord spot = [] := by
  unfold first
  rw [List.head?_eq_none_iff]

theorem mem_ends_of_first {spot : Spot} {e : Captures G × Spot} (h : r.first isWord spot = some e) :
    e ∈ r.ends isWord spot := List.mem_of_head? h

theorem exists_of_flatMap_head? {α β : Type*} {f : α → List β} {l : List α} {b : β}
    (h : (l.flatMap f).head? = some b) : ∃ a ∈ l, (f a).head? = some b := by
  rw [List.head?_flatMap] at h
  exact List.exists_of_findSome?_eq_some h

/-- The first end of `rs` is the first of `s`, from an end of `r` on. -/
theorem first_seq {s : Pattern G} {spot : Spot} {e : Captures G × Spot}
    (h : (seq r s).first isWord spot = some e) :
    ∃ e' ∈ r.ends isWord spot, ∃ e'', s.first isWord e'.2 = some e'' ∧
      e = (e'.1 ++ e''.1, e''.2) := by
  obtain ⟨e', he', hfirst⟩ := exists_of_flatMap_head? h
  rw [List.head?_map, Option.map_eq_some_iff] at hfirst
  obtain ⟨e'', he'', rfl⟩ := hfirst
  exact ⟨e', he', e'', he'', rfl⟩

/-- Of a greedy run the longest is taken, unless nothing matches after it. -/
theorem first_some_seq {p : Char → Bool} {s : Pattern G} {behind : Bool} {cs : List Char}
    {e : Captures G × Spot} (h : (seq (plain (.some p)) s).first isWord (behind, cs) = some e) :
    ∃ read spot, cs = read ++ spot.2 ∧ read ≠ [] ∧ (∀ c ∈ read, p c = true) ∧
      s.first isWord spot = some e ∧
      (spot.2 = cs.dropWhile p ∨ ∃ b, s.ends isWord (b, cs.dropWhile p) = []) := by
  cases cs with
  | nil => simp [first, ends, Regex.some, Regex.ends] at h
  | cons c cs =>
    by_cases hc : p c = true
    · have hseq : (seq (plain (.some p)) s).first isWord (behind, c :: cs) =
          ((Regex.manyEnds isWord p (isWord c) cs).flatMap (s.ends isWord)).head? := by
        simp [first, ends, Regex.some, Regex.ends, hc, List.flatMap_map]
      rw [hseq] at h
      have hhead : (Regex.manyEnds isWord p (isWord c) cs).head?.map (·.2) = _ :=
        Regex.head?_manyEnds (isWord c) cs
      have hmem : ∀ spot ∈ Regex.manyEnds isWord p (isWord c) cs, _ := fun _ hspot =>
        Regex.mem_ends_many.mp hspot
      generalize Regex.manyEnds isWord p (isWord c) cs = spots at *
      cases spots with
      | nil => simp at h
      | cons longest spots =>
        have htaken {spot : Spot} (hspot : spot ∈ longest :: spots)
            (hfirst : s.first isWord spot = some e)
            (hlongest : spot.2 = (c :: cs).dropWhile p ∨
              ∃ b, s.ends isWord (b, (c :: cs).dropWhile p) = []) :
            ∃ read spot, c :: cs = read ++ spot.2 ∧ read ≠ [] ∧ (∀ c ∈ read, p c = true) ∧
              s.first isWord spot = some e ∧
              (spot.2 = (c :: cs).dropWhile p ∨
                ∃ b, s.ends isWord (b, (c :: cs).dropWhile p) = []) := by
          obtain ⟨read, hcs, hread, -⟩ := hmem spot hspot
          exact ⟨c :: read, spot, by rw [hcs]; rfl, by simp, by simpa [hc] using hread, hfirst,
            hlongest⟩
        have hrest : longest.2 = (c :: cs).dropWhile p := by
          rw [List.dropWhile_cons_of_pos hc]
          simpa using hhead
        by_cases hends : s.ends isWord longest = []
        · obtain ⟨spot, hspot, hfirst⟩ := exists_of_flatMap_head? h
          refine htaken hspot hfirst (.inr ⟨longest.1, ?_⟩)
          rw [← hrest]
          exact hends
        · rw [List.flatMap_cons, List.head?_append_of_ne_nil _ hends] at h
          exact htaken (List.mem_cons_self ..) h (.inl hrest)
    · simp [first, ends, Regex.some, Regex.ends, hc] at h

/-- A part that may be left out is left out only if nothing matches after it. -/
theorem first_opt_seq {s : Pattern G} {spot : Spot} {e : Captures G × Spot}
    (h : (seq (opt r) s).first isWord spot = some e) :
    (∃ e' ∈ r.ends isWord spot, ∃ e'', s.first isWord e'.2 = some e'' ∧
        e = (e'.1 ++ e''.1, e''.2)) ∨
      (∀ e' ∈ r.ends isWord spot, s.ends isWord e'.2 = []) ∧ s.first isWord spot = some e := by
  have hopt : (opt r).ends isWord spot = r.ends isWord spot ++ [([], spot)] := rfl
  have hseq : (seq (opt r) s).first isWord spot =
      ((seq r s).ends isWord spot ++ s.ends isWord spot).head? := by
    simp [first, ends, hopt]
  rw [hseq, List.head?_append] at h
  cases htaken : (seq r s).first isWord spot with
  | some e' =>
    rw [first] at htaken
    rw [htaken, Option.some_or, Option.some.injEq] at h
    subst h
    exact .inl (first_seq htaken)
  | none =>
    have hnone := first_eq_none.mp htaken
    rw [hnone, List.head?_nil, Option.none_or] at h
    refine .inr ⟨fun e' he' => ?_, h⟩
    have := List.flatMap_eq_nil_iff.mp hnone e' he'
    rwa [List.map_eq_nil_iff] at this

end Pattern

end HexeVoice.Library
