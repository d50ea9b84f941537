import Mathlib

/-!
# Python's strings

The methods of `str` that the models use, on the characters of a `String`.
-/

namespace HexeVoice.Library

/-- The characters of `str.isspace`, which `str.strip` removes and `str.split` splits at. -/
def isPySpace (c : Char) : Bool :=
  let n := c.toNat
  (9 ≤ n && n ≤ 13) || (28 ≤ n && n ≤ 32) || n = 0x85 || n = 0xA0 || n = 0x1680 ||
    (0x2000 ≤ n && n ≤ 0x200A) || n = 0x2028 || n = 0x2029 || n = 0x202F || n = 0x205F ||
    n = 0x3000

/-- The characters without the blanks at the ends. -/
def stripChars (cs : List Char) : List Char :=
  ((cs.dropWhile isPySpace).reverse.dropWhile isPySpace).reverse

/-- `s.strip()`. -/
def strip (s : String) : String := String.ofList (stripChars s.toList)

/-- `s.startswith(p)`. -/
def startsWith (s p : String) : Bool := p.toList.isPrefixOf s.toList

/-- `s.endswith(p)`. -/
def endsWith (s p : String) : Bool := p.toList.isSuffixOf s.toList

/-- `p in s`. -/
def contains (s p : String) : Bool := s.toList.tails.any fun t => p.toList.isPrefixOf t

/-- `str.lower` of a character, as far as it can give an ASCII letter: outside ASCII only
the dotted capital I and the Kelvin sign do. -/
def lowerChars (c : Char) : List Char :=
  if c.toNat = 0x130 then ['i', Char.ofNat 0x307]
  else if c.toNat = 0x212A then ['k']
  else [c.toLower]

/-- `s.split()`. -/
def splitBlanks (cs : List Char) : List (List Char) :=
  (cs.splitOnP isPySpace).filter (· ≠ [])

/-! ### Reading a text in parts -/

section parts

variable {β : Type*} {f : List Char → List β}

/-- What is read of a text, part by part: the character parts it. -/
def PartsAt (f : List Char → List β) (c : Char) : Prop :=
  ∀ xs ys, f (xs ++ c :: ys) = f xs ++ f ys

theorem PartsAt.intercalate {c : Char} (h : PartsAt f c) (hnil : f [] = [])
    (parts : List (List Char)) : f ([c].intercalate parts) = parts.flatMap f := by
  induction parts with
  | nil => simp [hnil]
  | cons p parts ih =>
    cases parts with
    | nil => simp
    | cons q parts =>
      rw [List.intercalate_cons_cons, List.append_assoc, List.singleton_append, h, ih]
      rfl

theorem parts_append_left (hnil : f [] = []) {l : List Char} (h : ∀ c ∈ l, PartsAt f c)
    (xs : List Char) : f (l ++ xs) = f xs := by
  induction l with
  | nil => rfl
  | cons c l ih =>
    rw [List.forall_mem_cons] at h
    have := h.1 [] (l ++ xs)
    rw [List.nil_append, hnil, List.nil_append] at this
    rw [List.cons_append, this, ih h.2]

theorem parts_append_right (hnil : f [] = []) {r : List Char} (h : ∀ c ∈ r, PartsAt f c)
    (xs : List Char) : f (xs ++ r) = f xs := by
  cases r with
  | nil => rw [List.append_nil]
  | cons c r =>
    rw [List.forall_mem_cons] at h
    have hr := parts_append_left hnil h.2 []
    rw [List.append_nil, hnil] at hr
    rw [h.1, hr, List.append_nil]

end parts

/-- A text that is joined from joined texts is joined from all their parts. -/
theorem intercalate_flatten {α : Type*} (sep : List α) {partss : List (List (List α))}
    (h : ∀ parts ∈ partss, parts ≠ []) :
    sep.intercalate (partss.map sep.intercalate) = sep.intercalate partss.flatten := by
  have happend (ps qs : List (List α)) (hps : ps ≠ []) (hqs : qs ≠ []) :
      sep.intercalate (ps ++ qs) = sep.intercalate ps ++ sep ++ sep.intercalate qs := by
    induction ps with
    | nil => exact absurd rfl hps
    | cons p ps ih =>
      cases ps with
      | nil => simp [List.intercalate_cons_of_ne_nil hqs]
      | cons p' ps =>
        rw [List.cons_append, List.intercalate_cons_of_ne_nil (by simp), ih (by simp),
          List.intercalate_cons_cons]
        simp only [List.append_assoc]
  induction partss with
  | nil => rfl
  | cons parts partss ih =>
    rw [List.forall_mem_cons] at h
    cases partss with
    | nil => simp
    | cons parts' partss =>
      have hflatten : (parts' :: partss).flatten ≠ [] := by
        have := (List.forall_mem_cons.mp h.2).1
        simp [this]
      have hcons : (parts :: parts' :: partss).flatten = parts ++ (parts' :: partss).flatten := rfl
      rw [List.map_cons, List.intercalate_cons_of_ne_nil (by simp), ih h.2, hcons,
        happend _ _ h.1 hflatten]

theorem splitBlanks_partsAt {c : Char} (h : isPySpace c = true) : PartsAt splitBlanks c := by
  intro xs ys
  unfold splitBlanks
  rw [List.splitOnP_append_cons xs ys h, List.filter_append]

theorem splitBlanks_of_no_blank {cs : List Char} (h : ∀ c ∈ cs, isPySpace c = false) :
    splitBlanks cs = [cs].filter (· ≠ []) := by
  unfold splitBlanks
  rw [List.splitOnP_eq_singleton h]

/-- Between blanks that are stripped stands what is left. -/
theorem exists_stripChars (cs : List Char) :
    ∃ l r, cs = l ++ stripChars cs ++ r ∧ (∀ c ∈ l, isPySpace c = true) ∧
      ∀ c ∈ r, isPySpace c = true := by
  refine ⟨cs.takeWhile isPySpace,
    ((cs.dropWhile isPySpace).reverse.takeWhile isPySpace).reverse, ?_, ?_, ?_⟩
  · have hright : stripChars cs ++
        ((cs.dropWhile isPySpace).reverse.takeWhile isPySpace).reverse =
          cs.dropWhile isPySpace := by
      rw [stripChars, ← List.reverse_append, List.takeWhile_append_dropWhile, List.reverse_reverse]
    rw [List.append_assoc, hright, List.takeWhile_append_dropWhile]
  · exact fun c hc => List.mem_takeWhile_imp hc
  · intro c hc
    rw [List.mem_reverse] at hc
    exact List.mem_takeWhile_imp hc

/-- What is read in parts between blanks does not miss those that are stripped. -/
theorem parts_stripChars {β : Type*} {f : List Char → List β} (hnil : f [] = [])
    (h : ∀ c, isPySpace c = true → PartsAt f c) (cs : List Char) : f (stripChars cs) = f cs := by
  obtain ⟨l, r, hcs, hl, hr⟩ := exists_stripChars cs
  have := parts_append_right hnil (fun c hc => h c (hr c hc)) (l ++ stripChars cs)
  rw [← hcs, parts_append_left hnil fun c hc => h c (hl c hc)] at this
  exact this.symm

/-! ### Stripping twice -/

section stripping

variable {p : Char → Bool}

/-- A text that neither starts nor ends with what is stripped is left as it is. -/
theorem strip_of_ends {cs : List Char} (hhead : ∀ h : cs ≠ [], p (cs.head h) = false)
    (hlast : ∀ h : cs ≠ [], p (cs.getLast h) = false) :
    ((cs.dropWhile p).reverse.dropWhile p).reverse = cs := by
  have hleft : cs.dropWhile p = cs := by
    cases cs with
    | nil => rfl
    | cons c cs =>
      have hc := hhead (List.cons_ne_nil c cs)
      rw [List.head_cons] at hc
      rw [List.dropWhile_cons_of_neg (by simp [hc])]
  rw [hleft]
  exact List.rdropWhile_eq_self_iff.mpr fun h => by simp [hlast h]

/-- What is left starts and ends with neither. -/
theorem ends_of_strip (cs : List Char) {stripped : List Char}
    (hstripped : ((cs.dropWhile p).reverse.dropWhile p).reverse = stripped) (h : stripped ≠ []) :
    p (stripped.head h) = false ∧ p (stripped.getLast h) = false := by
  change (cs.dropWhile p).rdropWhile p = stripped at hstripped
  subst hstripped
  constructor
  · have hstart : (cs.dropWhile p).rdropWhile p <+: cs.dropWhile p := List.rdropWhile_prefix p _
    have hne : cs.dropWhile p ≠ [] := fun h0 => h (by simp [h0])
    have hsame : ((cs.dropWhile p).rdropWhile p).head h = (cs.dropWhile p).head hne :=
      hstart.head h
    rw [hsame]
    exact List.head_dropWhile_not p hne
  · simpa using List.rdropWhile_last_not p (cs.dropWhile p) h

end stripping

theorem stripChars_idempotent (cs : List Char) : stripChars (stripChars cs) = stripChars cs :=
  strip_of_ends (fun h => (ends_of_strip cs rfl h).1) fun h => (ends_of_strip cs rfl h).2

@[simp] theorem strip_strip (s : String) : strip (strip s) = strip s := by
  rw [strip, strip, String.toList_ofList, stripChars_idempotent]

theorem mem_intercalate {c separator : Char} {parts : List (List Char)}
    (h : c ∈ [separator].intercalate parts) : c = separator ∨ ∃ part ∈ parts, c ∈ part := by
  induction parts with
  | nil => simp at h
  | cons part parts ih =>
    cases parts with
    | nil => exact .inr ⟨part, by simp, by simpa using h⟩
    | cons next parts =>
      rw [List.intercalate_cons_cons, List.append_assoc, List.singleton_append, List.mem_append,
        List.mem_cons] at h
      rcases h with h | h | h
      · exact .inr ⟨part, by simp, h⟩
      · exact .inl h
      · rcases ih h with h | ⟨p, hp, hc⟩
        · exact .inl h
        · exact .inr ⟨p, List.mem_cons_of_mem _ hp, hc⟩

end HexeVoice.Library
