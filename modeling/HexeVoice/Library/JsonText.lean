import HexeVoice.Library.Text

/-!
# Canonical JSON texts

What two printers make of JSON trees. Numbers and literals are atoms, each of which is printed as one
token.

## What is proved

**`print_sorted_eq_iff`**: two printers that escape the plain characters alike, and that disagree on
all others, print the sorted form of a tree alike exactly if all its strings are plain and its atoms
are printed alike.
-/

namespace HexeVoice.Library

/-- A JSON value. -/
inductive JsonTree (α : Type) where
  | atom (a : α)
  | str (s : String)
  | arr (items : List (JsonTree α))
  | obj (entries : List (String × JsonTree α))

/-- How the characters of strings and the atoms are printed. -/
structure JsonPrinter (α : Type) where
  escape : Char → List Char
  atom : α → List Char

namespace JsonTree

variable {α : Type}

/-! ### Printing -/

/-- A string in quotes. -/
def quote (p : JsonPrinter α) (s : String) : List Char := '"' :: s.toList.flatMap p.escape ++ ['"']

/-- The comma before all entries but the first. -/
def separator (first : Bool) : List Char := if first then [] else [',']

mutual

/-- The text without blanks. -/
def print (p : JsonPrinter α) : JsonTree α → List Char
  | .atom a => p.atom a
  | .str s => quote p s
  | .arr items => '[' :: printItems p true items
  | .obj entries => '{' :: printEntries p true entries

/-- The items from here on, and the bracket after them. -/
def printItems (p : JsonPrinter α) (first : Bool) : List (JsonTree α) → List Char
  | [] => [']']
  | item :: items => separator first ++ (print p item ++ printItems p false items)

/-- The entries from here on, and the bracket after them. -/
def printEntries (p : JsonPrinter α) (first : Bool) : List (String × JsonTree α) → List Char
  | [] => ['}']
  | entry :: entries => separator first ++ (printEntry p entry ++ printEntries p false entries)

def printEntry (p : JsonPrinter α) : String × JsonTree α → List Char
  | (key, value) => quote p key ++ ':' :: print p value

end

/-! ### Sorting -/

/-- The entries in the order of their keys. -/
def sortEntries (entries : List (String × JsonTree α)) : List (String × JsonTree α) :=
  entries.insertionSort fun a b => a.1 ≤ b.1

mutual

/-- The value with the keys of its objects in order. -/
def sorted : JsonTree α → JsonTree α
  | .atom a => .atom a
  | .str s => .str s
  | .arr items => .arr (sortedItems items)
  | .obj entries => .obj (sortEntries (sortedEntries entries))

def sortedItems : List (JsonTree α) → List (JsonTree α)
  | [] => []
  | item :: items => sorted item :: sortedItems items

def sortedEntries : List (String × JsonTree α) → List (String × JsonTree α)
  | [] => []
  | entry :: entries => sortedEntry entry :: sortedEntries entries

def sortedEntry : String × JsonTree α → String × JsonTree α
  | (key, value) => (key, sorted value)

end

/-! ### Strings and atoms -/

mutual

/-- All strings, keys included, and all atoms are as they should be. -/
def All (p : String → Prop) (q : α → Prop) : JsonTree α → Prop
  | .atom a => q a
  | .str s => p s
  | .arr items => AllItems p q items
  | .obj entries => AllEntries p q entries

def AllItems (p : String → Prop) (q : α → Prop) : List (JsonTree α) → Prop
  | [] => True
  | item :: items => All p q item ∧ AllItems p q items

def AllEntries (p : String → Prop) (q : α → Prop) : List (String × JsonTree α) → Prop
  | [] => True
  | entry :: entries => AllEntry p q entry ∧ AllEntries p q entries

def AllEntry (p : String → Prop) (q : α → Prop) : String × JsonTree α → Prop
  | (key, value) => p key ∧ All p q value

end

mutual

/-- The value with other strings. -/
def mapStrings (f : String → String) : JsonTree α → JsonTree α
  | .atom a => .atom a
  | .str s => .str (f s)
  | .arr items => .arr (mapItems f items)
  | .obj entries => .obj (mapEntries f entries)

def mapItems (f : String → String) : List (JsonTree α) → List (JsonTree α)
  | [] => []
  | item :: items => mapStrings f item :: mapItems f items

def mapEntries (f : String → String) : List (String × JsonTree α) → List (String × JsonTree α)
  | [] => []
  | entry :: entries => mapEntry f entry :: mapEntries f entries

def mapEntry (f : String → String) : String × JsonTree α → String × JsonTree α
  | (key, value) => (f key, mapStrings f value)

end

/-! ### Two printers -/

/-- Two printers that escape the characters of `plain` alike, and no others. Tokens of atoms are not
empty and hold none of the characters that JSON is structured by. -/
structure Apart (p c : JsonPrinter α) (plain : Char → Bool) : Prop where
  same : ∀ a, plain a = true → p.escape a = c.escape a
  cancel : ∀ {a b : Char} {r r' : List Char}, p.escape a ++ r = c.escape b ++ r' →
    a = b ∧ plain a = true ∧ r = r'
  escape_ne : ∀ a r r', p.escape a ++ r ≠ '"' :: r' ∧ c.escape a ++ r ≠ '"' :: r'
  atom_ne : ∀ a, p.atom a ≠ [] ∧ c.atom a ≠ []
  atom_mem : ∀ a x, x ∈ p.atom a ∨ x ∈ c.atom a → x ∉ ['"', ',', ':', '[', ']', '{', '}']

/-- All characters of the string are plain. -/
def Plain (plain : Char → Bool) (s : String) : Prop := s.toList.all plain = true

instance (plain : Char → Bool) (s : String) : Decidable (Plain plain s) :=
  inferInstanceAs (Decidable (_ = true))

/-- What may follow a value. -/
def Follows (r : List Char) : Prop := ∀ x ∈ r.head?, x ∈ [',', ']', '}']

mutual

/-- Two values that two printers print alike. -/
def Alike (p c : JsonPrinter α) (plain : Char → Bool) : JsonTree α → JsonTree α → Prop
  | .atom a, .atom b => p.atom a = c.atom b
  | .str s, .str t => s = t ∧ Plain plain s
  | .arr items, .arr items' => AlikeItems p c plain items items'
  | .obj entries, .obj entries' => AlikeEntries p c plain entries entries'
  | _, _ => False

def AlikeItems (p c : JsonPrinter α) (plain : Char → Bool) :
    List (JsonTree α) → List (JsonTree α) → Prop
  | [], [] => True
  | item :: items, item' :: items' =>
    Alike p c plain item item' ∧ AlikeItems p c plain items items'
  | _, _ => False

def AlikeEntries (p c : JsonPrinter α) (plain : Char → Bool) :
    List (String × JsonTree α) → List (String × JsonTree α) → Prop
  | [], [] => True
  | entry :: entries, entry' :: entries' =>
    AlikeEntry p c plain entry entry' ∧ AlikeEntries p c plain entries entries'
  | _, _ => False

def AlikeEntry (p c : JsonPrinter α) (plain : Char → Bool) :
    String × JsonTree α → String × JsonTree α → Prop
  | (key, value), (key', value') =>
    (key = key' ∧ Plain plain key) ∧ Alike p c plain value value'

end

section cancel

variable {p c : JsonPrinter α} {plain : Char → Bool}

theorem escapes_cancel (h : Apart p c plain) {s t r r' : List Char}
    (heq : s.flatMap p.escape ++ '"' :: r = t.flatMap c.escape ++ '"' :: r') :
    s = t ∧ s.all plain = true ∧ r = r' := by
  induction s generalizing t with
  | nil =>
    cases t with
    | nil => exact ⟨rfl, rfl, by simpa using heq⟩
    | cons b t =>
      rw [List.flatMap_cons, List.append_assoc] at heq
      exact absurd heq.symm (h.escape_ne b _ _).2
  | cons a s ih =>
    rw [List.flatMap_cons, List.append_assoc] at heq
    cases t with
    | nil => exact absurd heq (h.escape_ne a _ _).1
    | cons b t =>
      rw [List.flatMap_cons, List.append_assoc] at heq
      obtain ⟨rfl, hplain, hrest⟩ := h.cancel heq
      obtain ⟨rfl, hall, hr⟩ := ih hrest
      exact ⟨rfl, by simp [hplain, hall], hr⟩

/-- **Strings cancel.** -/
theorem quote_cancel (h : Apart p c plain) {s t : String} {r r' : List Char}
    (heq : quote p s ++ r = quote c t ++ r') : (s = t ∧ Plain plain s) ∧ r = r' := by
  unfold quote at heq
  simp only [List.cons_append, List.append_assoc, List.nil_append, List.cons.injEq, true_and] at heq
  obtain ⟨hst, hplain, hr⟩ := escapes_cancel h heq
  exact ⟨⟨String.toList_injective hst, hplain⟩, hr⟩

/-- Plain strings have one text. -/
theorem quote_eq_of_plain (h : Apart p c plain) {s : String} (hs : Plain plain s) :
    quote p s = quote c s := by
  have hmap : s.toList.flatMap p.escape = s.toList.flatMap c.escape := by
    apply List.flatMap_congr
    intro a ha
    exact h.same a (List.all_eq_true.mp hs a ha)
  rw [quote, quote, hmap]

/-- Tokens cancel. -/
theorem token_cancel {xs ys r r' : List Char} (hxs : ∀ x ∈ xs, x ∉ [',', ']', '}'])
    (hys : ∀ x ∈ ys, x ∉ [',', ']', '}']) (hr : Follows r) (hr' : Follows r')
    (heq : xs ++ r = ys ++ r') : xs = ys ∧ r = r' := by
  induction xs generalizing ys with
  | nil =>
    cases ys with
    | nil => exact ⟨rfl, heq⟩
    | cons y ys =>
      rw [List.nil_append] at heq
      exact absurd (hr y (by simp [heq])) (hys y List.mem_cons_self)
  | cons x xs ih =>
    cases ys with
    | nil =>
      rw [List.nil_append] at heq
      exact absurd (hr' x (by simp [← heq])) (hxs x List.mem_cons_self)
    | cons y ys =>
      rw [List.cons_append, List.cons_append, List.cons.injEq] at heq
      obtain ⟨rfl, hr⟩ := ih (fun z hz => hxs z (List.mem_cons_of_mem _ hz))
        (fun z hz => hys z (List.mem_cons_of_mem _ hz)) heq.2
      exact ⟨by rw [heq.1], hr⟩

/-- The first character of a token is not one that JSON is structured by. -/
theorem atom_ne_cons (h : Apart p c plain) {a : α} {x : Char} {r r' : List Char}
    (hx : x ∈ ['"', ',', ':', '[', ']', '{', '}']) :
    p.atom a ++ r ≠ x :: r' ∧ c.atom a ++ r ≠ x :: r' := by
  constructor
  · intro heq
    obtain ⟨y, ys, hy⟩ := List.exists_cons_of_ne_nil (h.atom_ne a).1
    rw [hy, List.cons_append, List.cons.injEq] at heq
    exact h.atom_mem a x (.inl (by simp [hy, heq.1])) hx
  · intro heq
    obtain ⟨y, ys, hy⟩ := List.exists_cons_of_ne_nil (h.atom_ne a).2
    rw [hy, List.cons_append, List.cons.injEq] at heq
    exact h.atom_mem a x (.inr (by simp [hy, heq.1])) hx

theorem follows_items (p : JsonPrinter α) (items : List (JsonTree α)) (r : List Char) :
    Follows (printItems p false items ++ r) := by
  intro x hx
  cases items with
  | nil => simp_all [printItems, eq_comm]
  | cons item items => simp_all [printItems, separator, eq_comm]

theorem follows_entries (p : JsonPrinter α) (entries : List (String × JsonTree α)) (r : List Char) :
    Follows (printEntries p false entries ++ r) := by
  intro x hx
  cases entries with
  | nil => simp_all [printEntries, eq_comm]
  | cons entry entries => simp_all [printEntries, separator, eq_comm]

/-- No value starts with the bracket that ends a list. -/
theorem print_ne_bracket (h : Apart p c plain) (value : JsonTree α) (r r' : List Char) :
    print p value ++ r ≠ ']' :: r' ∧ print c value ++ r ≠ ']' :: r' := by
  cases value with
  | atom a => exact atom_ne_cons h (by simp)
  | str s => simp [print, quote]
  | arr items => simp [print]
  | obj entries => simp [print]

mutual

/-- **Values cancel**: texts that agree are of values that are printed alike. -/
theorem print_cancel (h : Apart p c plain) : ∀ (v w : JsonTree α) {r r' : List Char}, Follows r →
    Follows r' → print p v ++ r = print c w ++ r' → Alike p c plain v w ∧ r = r'
  | .atom a, .atom b, r, r', hr, hr', heq => by
    rw [Alike]
    refine token_cancel ?_ ?_ hr hr' heq
    · intro x hx hmem
      exact h.atom_mem a x (.inl hx) (by simp only [List.mem_cons] at hmem ⊢; tauto)
    · intro x hx hmem
      exact h.atom_mem b x (.inr hx) (by simp only [List.mem_cons] at hmem ⊢; tauto)
  | .str s, .str t, r, r', hr, hr', heq => by
    rw [Alike]
    exact quote_cancel h heq
  | .arr items, .arr items', r, r', hr, hr', heq => by
    simp only [print, List.cons_append, List.cons.injEq, true_and] at heq
    rw [Alike]
    exact items_cancel h items items' true heq
  | .obj entries, .obj entries', r, r', hr, hr', heq => by
    simp only [print, List.cons_append, List.cons.injEq, true_and] at heq
    rw [Alike]
    exact entries_cancel h entries entries' true heq
  | .atom a, .str t, r, r', hr, hr', heq => absurd heq (atom_ne_cons h (by simp)).1
  | .atom a, .arr items, r, r', hr, hr', heq => absurd heq (atom_ne_cons h (by simp)).1
  | .atom a, .obj entries, r, r', hr, hr', heq => absurd heq (atom_ne_cons h (by simp)).1
  | .str s, .atom b, r, r', hr, hr', heq => absurd heq.symm (atom_ne_cons h (by simp)).2
  | .arr items, .atom b, r, r', hr, hr', heq => absurd heq.symm (atom_ne_cons h (by simp)).2
  | .obj entries, .atom b, r, r', hr, hr', heq => absurd heq.symm (atom_ne_cons h (by simp)).2
  | .str s, .arr items, r, r', hr, hr', heq => by simp [print, quote] at heq
  | .str s, .obj entries, r, r', hr, hr', heq => by simp [print, quote] at heq
  | .arr items, .str s, r, r', hr, hr', heq => by simp [print, quote] at heq
  | .arr items, .obj entries, r, r', hr, hr', heq => by simp [print] at heq
  | .obj entries, .str s, r, r', hr, hr', heq => by simp [print, quote] at heq
  | .obj entries, .arr items, r, r', hr, hr', heq => by simp [print] at heq

theorem items_cancel (h : Apart p c plain) : ∀ (vs ws : List (JsonTree α)) (first : Bool)
    {r r' : List Char}, printItems p first vs ++ r = printItems c first ws ++ r' →
      AlikeItems p c plain vs ws ∧ r = r'
  | [], [], first, r, r', heq => by
    simpa [printItems, AlikeItems] using heq
  | [], w :: ws, true, r, r', heq => by
    simp only [printItems, separator, List.append_assoc, List.nil_append, if_true] at heq
    exact absurd heq.symm (print_ne_bracket h w _ _).2
  | [], w :: ws, false, r, r', heq => by
    simp [printItems, separator] at heq
  | v :: vs, [], true, r, r', heq => by
    simp only [printItems, separator, List.append_assoc, List.nil_append, if_true] at heq
    exact absurd heq (print_ne_bracket h v _ _).1
  | v :: vs, [], false, r, r', heq => by
    simp [printItems, separator] at heq
  | v :: vs, w :: ws, first, r, r', heq => by
    simp only [printItems, List.append_assoc, List.append_cancel_left_eq] at heq
    obtain ⟨hvalue, hrest⟩ := print_cancel h v w (follows_items p vs r) (follows_items c ws r') heq
    obtain ⟨hitems, hr⟩ := items_cancel h vs ws false hrest
    rw [AlikeItems]
    exact ⟨⟨hvalue, hitems⟩, hr⟩

theorem entries_cancel (h : Apart p c plain) : ∀ (vs ws : List (String × JsonTree α))
    (first : Bool) {r r' : List Char}, printEntries p first vs ++ r = printEntries c first ws ++ r' →
      AlikeEntries p c plain vs ws ∧ r = r'
  | [], [], first, r, r', heq => by
    simpa [printEntries, AlikeEntries] using heq
  | [], (key, w) :: ws, first, r, r', heq => by
    cases first <;> simp [printEntries, separator, printEntry, quote] at heq
  | (key, v) :: vs, [], first, r, r', heq => by
    cases first <;> simp [printEntries, separator, printEntry, quote] at heq
  | v :: vs, w :: ws, first, r, r', heq => by
    simp only [printEntries, List.append_assoc, List.append_cancel_left_eq] at heq
    obtain ⟨hvalue, hrest⟩ :=
      entry_cancel h v w (follows_entries p vs r) (follows_entries c ws r') heq
    obtain ⟨hitems, hr⟩ := entries_cancel h vs ws false hrest
    rw [AlikeEntries]
    exact ⟨⟨hvalue, hitems⟩, hr⟩

theorem entry_cancel (h : Apart p c plain) : ∀ (v w : String × JsonTree α) {r r' : List Char},
    Follows r → Follows r' → printEntry p v ++ r = printEntry c w ++ r' →
      AlikeEntry p c plain v w ∧ r = r'
  | (key, value), (key', value'), r, r', hr, hr', heq => by
    simp only [printEntry, List.append_assoc, List.cons_append] at heq
    obtain ⟨hkey, hrest⟩ := quote_cancel h heq
    obtain ⟨hvalue, hr⟩ := print_cancel h value value' hr hr' (List.cons.inj hrest).2
    rw [AlikeEntry]
    exact ⟨⟨hkey, hvalue⟩, hr⟩

end

end cancel

/-! ### Plain trees -/

section plain

variable {p c : JsonPrinter α} {plain : Char → Bool}

mutual

/-- What is printed like something else has plain strings. -/
theorem plain_of_alike : ∀ {v w : JsonTree α}, Alike p c plain v w →
    All (Plain plain) (fun _ => True) v
  | .atom _, _, _ => by simp [All]
  | .str _, w, h => by
    cases w with
    | str t =>
      rw [Alike] at h
      simpa [All] using h.2
    | _ => simp [Alike] at h
  | .arr _, w, h => by
    cases w with
    | arr items =>
      rw [Alike] at h
      simpa [All] using plain_of_alikeItems h
    | _ => simp [Alike] at h
  | .obj _, w, h => by
    cases w with
    | obj entries =>
      rw [Alike] at h
      simpa [All] using plain_of_alikeEntries h
    | _ => simp [Alike] at h

theorem plain_of_alikeItems : ∀ {vs ws : List (JsonTree α)}, AlikeItems p c plain vs ws →
    AllItems (Plain plain) (fun _ => True) vs
  | [], _, _ => by simp [AllItems]
  | _ :: _, [], h => by simp [AlikeItems] at h
  | _ :: _, _ :: _, h => by
    rw [AlikeItems] at h
    rw [AllItems]
    exact ⟨plain_of_alike h.1, plain_of_alikeItems h.2⟩

theorem plain_of_alikeEntries : ∀ {vs ws : List (String × JsonTree α)},
    AlikeEntries p c plain vs ws → AllEntries (Plain plain) (fun _ => True) vs
  | [], _, _ => by simp [AllEntries]
  | _ :: _, [], h => by simp [AlikeEntries] at h
  | _ :: _, _ :: _, h => by
    rw [AlikeEntries] at h
    rw [AllEntries]
    exact ⟨plain_of_alikeEntry h.1, plain_of_alikeEntries h.2⟩

theorem plain_of_alikeEntry : ∀ {v w : String × JsonTree α}, AlikeEntry p c plain v w →
    AllEntry (Plain plain) (fun _ => True) v
  | (_, _), (_, _), h => by
    rw [AlikeEntry] at h
    rw [AllEntry]
    exact ⟨h.1.2, plain_of_alike h.2⟩

end

mutual

/-- A value is printed alike exactly if its strings are plain and its atoms are printed alike. -/
theorem alike_self_iff : ∀ v : JsonTree α, Alike p c plain v v ↔
    All (Plain plain) (fun a => p.atom a = c.atom a) v
  | .atom a => by rw [Alike, All]
  | .str s => by simp [Alike, All]
  | .arr items => by rw [Alike, All, alikeItems_self_iff items]
  | .obj entries => by rw [Alike, All, alikeEntries_self_iff entries]

theorem alikeItems_self_iff : ∀ vs : List (JsonTree α), AlikeItems p c plain vs vs ↔
    AllItems (Plain plain) (fun a => p.atom a = c.atom a) vs
  | [] => by simp [AlikeItems, AllItems]
  | v :: vs => by rw [AlikeItems, AllItems, alike_self_iff v, alikeItems_self_iff vs]

theorem alikeEntries_self_iff : ∀ vs : List (String × JsonTree α),
    AlikeEntries p c plain vs vs ↔ AllEntries (Plain plain) (fun a => p.atom a = c.atom a) vs
  | [] => by simp [AlikeEntries, AllEntries]
  | v :: vs => by rw [AlikeEntries, AllEntries, alikeEntry_self_iff v, alikeEntries_self_iff vs]

theorem alikeEntry_self_iff : ∀ v : String × JsonTree α, AlikeEntry p c plain v v ↔
    AllEntry (Plain plain) (fun a => p.atom a = c.atom a) v
  | (key, value) => by rw [AlikeEntry, AllEntry, alike_self_iff value, eq_self, true_and]

end

mutual

/-- Values that are printed alike have one text. -/
theorem print_eq_of_all (h : Apart p c plain) : ∀ {v : JsonTree α},
    All (Plain plain) (fun a => p.atom a = c.atom a) v → print p v = print c v
  | .atom a, hv => by simpa [All, print] using hv
  | .str s, hv => by
    rw [All] at hv
    exact quote_eq_of_plain h hv
  | .arr items, hv => by
    rw [All] at hv
    rw [print, print, printItems_eq_of_all h hv]
  | .obj entries, hv => by
    rw [All] at hv
    rw [print, print, printEntries_eq_of_all h hv]

theorem printItems_eq_of_all (h : Apart p c plain) : ∀ {vs : List (JsonTree α)} {first : Bool},
    AllItems (Plain plain) (fun a => p.atom a = c.atom a) vs →
      printItems p first vs = printItems c first vs
  | [], first, _ => by rw [printItems, printItems]
  | v :: vs, first, hv => by
    rw [AllItems] at hv
    rw [printItems, printItems, print_eq_of_all h hv.1, printItems_eq_of_all h hv.2]

theorem printEntries_eq_of_all (h : Apart p c plain) : ∀ {vs : List (String × JsonTree α)}
    {first : Bool}, AllEntries (Plain plain) (fun a => p.atom a = c.atom a) vs →
      printEntries p first vs = printEntries c first vs
  | [], first, _ => by rw [printEntries, printEntries]
  | v :: vs, first, hv => by
    rw [AllEntries] at hv
    rw [printEntries, printEntries, printEntry_eq_of_all h hv.1, printEntries_eq_of_all h hv.2]

theorem printEntry_eq_of_all (h : Apart p c plain) : ∀ {v : String × JsonTree α},
    AllEntry (Plain plain) (fun a => p.atom a = c.atom a) v → printEntry p v = printEntry c v
  | (key, value), hv => by
    rw [AllEntry] at hv
    rw [printEntry, printEntry, quote_eq_of_plain h hv.1, print_eq_of_all h hv.2]

end

end plain

/-! ### Sorted trees -/

section sorted

variable {p : String → Prop} {q : α → Prop}

theorem allEntries_iff (entries : List (String × JsonTree α)) :
    AllEntries p q entries ↔ ∀ entry ∈ entries, AllEntry p q entry := by
  induction entries with
  | nil => simp [AllEntries]
  | cons entry entries ih => rw [AllEntries, ih, List.forall_mem_cons]

theorem allEntries_sort (entries : List (String × JsonTree α)) :
    AllEntries p q (sortEntries entries) ↔ AllEntries p q entries := by
  rw [allEntries_iff, allEntries_iff]
  have hperm := List.perm_insertionSort (fun a b : String × JsonTree α => a.1 ≤ b.1) entries
  constructor
  · intro h entry hmem
    exact h entry (hperm.mem_iff.mpr hmem)
  · intro h entry hmem
    exact h entry (hperm.mem_iff.mp hmem)

mutual

/-- Sorting keeps the strings and the atoms. -/
theorem all_sorted : ∀ v : JsonTree α, All p q (sorted v) ↔ All p q v
  | .atom a => by rw [sorted]
  | .str s => by rw [sorted]
  | .arr items => by rw [sorted, All, All, all_sortedItems items]
  | .obj entries => by rw [sorted, All, All, allEntries_sort, all_sortedEntries entries]

theorem all_sortedItems : ∀ vs : List (JsonTree α), AllItems p q (sortedItems vs) ↔ AllItems p q vs
  | [] => by rw [sortedItems]
  | v :: vs => by rw [sortedItems, AllItems, AllItems, all_sorted v, all_sortedItems vs]

theorem all_sortedEntries : ∀ vs : List (String × JsonTree α),
    AllEntries p q (sortedEntries vs) ↔ AllEntries p q vs
  | [] => by rw [sortedEntries]
  | v :: vs => by
    rw [sortedEntries, AllEntries, AllEntries, all_sortedEntry v, all_sortedEntries vs]

theorem all_sortedEntry : ∀ v : String × JsonTree α,
    AllEntry p q (sortedEntry v) ↔ AllEntry p q v
  | (key, value) => by rw [sortedEntry, AllEntry, AllEntry, all_sorted value]

end

mutual

/-- A function that keeps all strings of a value keeps the value. -/
theorem mapStrings_eq {f : String → String} (hf : ∀ s, p s → f s = s) : ∀ {v : JsonTree α},
    All p q v → mapStrings f v = v
  | .atom a, _ => by rw [mapStrings]
  | .str s, h => by
    rw [All] at h
    rw [mapStrings, hf s h]
  | .arr items, h => by
    rw [All] at h
    rw [mapStrings, mapItems_eq hf h]
  | .obj entries, h => by
    rw [All] at h
    rw [mapStrings, mapEntries_eq hf h]

theorem mapItems_eq {f : String → String} (hf : ∀ s, p s → f s = s) :
    ∀ {vs : List (JsonTree α)}, AllItems p q vs → mapItems f vs = vs
  | [], _ => by rw [mapItems]
  | v :: vs, h => by
    rw [AllItems] at h
    rw [mapItems, mapStrings_eq hf h.1, mapItems_eq hf h.2]

theorem mapEntries_eq {f : String → String} (hf : ∀ s, p s → f s = s) :
    ∀ {vs : List (String × JsonTree α)}, AllEntries p q vs → mapEntries f vs = vs
  | [], _ => by rw [mapEntries]
  | v :: vs, h => by
    rw [AllEntries] at h
    rw [mapEntries, mapEntry_eq hf h.1, mapEntries_eq hf h.2]

theorem mapEntry_eq {f : String → String} (hf : ∀ s, p s → f s = s) :
    ∀ {v : String × JsonTree α}, AllEntry p q v → mapEntry f v = v
  | (key, value), h => by
    rw [AllEntry] at h
    rw [mapEntry, hf key h.1, mapStrings_eq hf h.2]

end

end sorted

/-! ### The comparison -/

/-- **Two printers agree on a value and on what the second reads of it, which is the value if its
strings are plain, exactly if its strings are plain and its atoms are printed alike.** -/
theorem print_sorted_eq_iff {p c : JsonPrinter α} {plain : Char → Bool} (h : Apart p c plain)
    {v w : JsonTree α} (hw : ∀ q, All (Plain plain) q v → w = v) :
    print p (sorted v) = print c (sorted w) ↔
      All (Plain plain) (fun a => p.atom a = c.atom a) v := by
  have hnil : Follows [] := fun x hx => by simp at hx
  constructor
  · intro heq
    obtain ⟨halike, -⟩ := print_cancel h _ _ hnil hnil (congrArg (· ++ []) heq)
    have hplain := (all_sorted v).mp (plain_of_alike halike)
    rw [hw _ hplain] at halike
    exact (all_sorted v).mp ((alike_self_iff _).mp halike)
  · intro hall
    rw [hw _ hall]
    exact print_eq_of_all h ((all_sorted v).mpr hall)

end JsonTree

end HexeVoice.Library
