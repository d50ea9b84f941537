import Mathlib

/-!
# Insertion-ordered maps

A map kept as a list of entries in the order the keys were first set: setting a key
that is there keeps its place, a new key goes to the end, and iteration is in that
order.
-/

namespace HexeVoice.Library

universe u v

variable {κ : Type u} {α : Type v}

/-- An insertion-ordered map. -/
structure Dict (κ : Type u) (α : Type v) where
  /-- The entries, in the order their keys were first set. -/
  entries : List (κ × α)
  deriving DecidableEq

namespace Dict

/-- The map without entries. -/
def empty : Dict κ α := ⟨[]⟩

/-- The keys, in order. -/
def keys (d : Dict κ α) : List κ := d.entries.map Prod.fst

/-- The values, in order. -/
def values (d : Dict κ α) : List α := d.entries.map Prod.snd

variable [DecidableEq κ]

/-- The value set for `k`. -/
def get (d : Dict κ α) (k : κ) : Option α := d.entries.lookup k

private def setList (k : κ) (a : α) : List (κ × α) → List (κ × α)
  | [] => [(k, a)]
  | (k', a') :: es => if k = k' then (k, a) :: es else (k', a') :: setList k a es

/-- Set the value for `k`, in its place if it has one, else at the end. -/
def set (d : Dict κ α) (k : κ) (a : α) : Dict κ α := ⟨setList k a d.entries⟩

/-- Drop every entry of which `p` holds not. -/
def filter (d : Dict κ α) (p : κ → α → Bool) : Dict κ α :=
  ⟨d.entries.filter fun e => p e.1 e.2⟩

/-- Drop the entry for `k`. -/
def erase (d : Dict κ α) (k : κ) : Dict κ α := d.filter fun k' _ => k' ≠ k

/-- `d.update(es)`. -/
def update (d : Dict κ α) (es : List (κ × α)) : Dict κ α := es.foldl (fun d e => d.set e.1 e.2) d

/-- Replace every value. -/
def map (d : Dict κ α) (f : α → α) : Dict κ α := ⟨d.entries.map fun e => (e.1, f e.2)⟩

@[simp] theorem get_empty (k : κ) : (empty : Dict κ α).get k = none := rfl

theorem get_set (d : Dict κ α) (k k' : κ) (a : α) :
    (d.set k a).get k' = if k' = k then some a else d.get k' := by
  obtain ⟨es⟩ := d
  simp only [get, set]
  induction es with
  | nil => by_cases h : k' = k <;> simp [setList, List.lookup, h, beq_eq_false_iff_ne.mpr]
  | cons e es ih =>
    obtain ⟨k₀, a₀⟩ := e
    by_cases h₀ : k = k₀
    · subst h₀
      by_cases h : k' = k <;> simp [setList, List.lookup, h, beq_eq_false_iff_ne.mpr]
    · by_cases h : k' = k₀
      · subst h
        simp [setList, h₀, List.lookup, Ne.symm h₀]
      · simp only [setList, h₀, if_false, List.lookup, beq_eq_false_iff_ne.mpr h, ih]

@[simp] theorem get_set_self (d : Dict κ α) (k : κ) (a : α) : (d.set k a).get k = some a := by
  simp [get_set]

theorem get_set_of_ne (d : Dict κ α) {k k' : κ} (a : α) (h : k' ≠ k) :
    (d.set k a).get k' = d.get k' := by
  simp [get_set, h]

theorem get_erase (d : Dict κ α) (k k' : κ) :
    (d.erase k).get k' = if k' = k then none else d.get k' := by
  obtain ⟨es⟩ := d
  simp only [get, erase, filter]
  induction es with
  | nil => by_cases h : k' = k <;> simp [h]
  | cons e es ih =>
    obtain ⟨k₀, a₀⟩ := e
    by_cases h₀ : k₀ = k
    · subst h₀
      rw [List.filter_cons_of_neg (by simp), ih]
      by_cases h : k' = k₀
      · simp [h]
      · simp [h, List.lookup, beq_eq_false_iff_ne.mpr h]
    · rw [List.filter_cons_of_pos (by simpa using h₀)]
      by_cases h : k' = k₀
      · subst h
        simp [List.lookup, h₀]
      · simp only [List.lookup, beq_eq_false_iff_ne.mpr h, ih]

theorem get_map (d : Dict κ α) (f : α → α) (k : κ) : (d.map f).get k = (d.get k).map f := by
  obtain ⟨es⟩ := d
  simp only [get, map]
  induction es with
  | nil => rfl
  | cons e es ih =>
    obtain ⟨k₀, a₀⟩ := e
    by_cases h : k = k₀
    · subst h
      simp [List.lookup]
    · simp only [List.map_cons, List.lookup, beq_eq_false_iff_ne.mpr h, ih]

/-! ### Keys -/

private theorem keys_setList (k : κ) (a : α) (es : List (κ × α)) :
    (setList k a es).map Prod.fst =
      if k ∈ es.map Prod.fst then es.map Prod.fst else es.map Prod.fst ++ [k] := by
  induction es with
  | nil => simp [setList]
  | cons e es ih =>
    obtain ⟨k', a'⟩ := e
    by_cases h : k = k'
    · simp [setList, h]
    · simp only [setList, h, if_false, List.map_cons]
      by_cases hm : k ∈ es.map Prod.fst
      · rw [ih, if_pos hm, if_pos (List.mem_cons_of_mem _ hm)]
      · rw [ih, if_neg hm, if_neg (by simpa [h] using hm), List.cons_append]

theorem keys_set (d : Dict κ α) (k : κ) (a : α) :
    (d.set k a).keys = if k ∈ d.keys then d.keys else d.keys ++ [k] :=
  keys_setList k a d.entries

theorem mem_keys_set {d : Dict κ α} {k k' : κ} {a : α} :
    k' ∈ (d.set k a).keys ↔ k' = k ∨ k' ∈ d.keys := by
  rw [keys_set]
  split
  · next h => exact ⟨.inr, fun h' => h'.elim (· ▸ h) id⟩
  · rw [List.mem_append, List.mem_singleton, or_comm]

/-- An update has the keys of both. -/
theorem mem_keys_update_iff {es : List (κ × α)} {d : Dict κ α} {k : κ} :
    k ∈ (d.update es).keys ↔ k ∈ d.keys ∨ k ∈ es.map Prod.fst := by
  induction es generalizing d with
  | nil => simp [update]
  | cons e es ih =>
    have hcons : d.update (e :: es) = (d.set e.1 e.2).update es := rfl
    rw [hcons, ih, mem_keys_set, List.map_cons, List.mem_cons, or_comm (a := k = e.1), or_assoc]

theorem mem_keys_update {es : List (κ × α)} {d : Dict κ α} {k : κ} (h : k ∈ (d.update es).keys) :
    k ∈ d.keys ∨ k ∈ es.map Prod.fst :=
  mem_keys_update_iff.mp h

theorem lookup_eq_none {es : List (κ × α)} {k : κ} (h : k ∉ es.map Prod.fst) :
    es.lookup k = none := by
  rw [List.lookup_eq_none_iff]
  intro p hp
  rw [bne_iff_ne]
  intro heq
  exact h (heq ▸ List.mem_map_of_mem hp)

/-- The value of a key is found among the values with a property if it has it. -/
theorem lookup_filter {es : List (κ × α)} (hnodup : (es.map Prod.fst).Nodup) (p : α → Bool)
    (k : κ) : (es.filter fun e => p e.2).lookup k = (es.lookup k).filter p := by
  induction es with
  | nil => rfl
  | cons e es ih =>
    obtain ⟨hnew, hnodup⟩ := List.nodup_cons.mp hnodup
    by_cases hk : k = e.1
    · subst hk
      rw [List.lookup_cons, beq_self_eq_true, List.filter_cons]
      split
      · next hp =>
        obtain ⟨k, a⟩ := e
        simp [Option.filter, hp]
      · next hp => rw [ih hnodup, lookup_eq_none hnew]; simp [Option.filter, hp]
    · rw [List.lookup_cons, beq_eq_false_iff_ne.mpr hk, ← ih hnodup, List.filter_cons]
      split
      · rw [List.lookup_cons, beq_eq_false_iff_ne.mpr hk]
      · rfl

theorem get_update {es : List (κ × α)} (hnodup : (es.map Prod.fst).Nodup) (d : Dict κ α) (k : κ) :
    (d.update es).get k = (es.lookup k).or (d.get k) := by
  induction es generalizing d with
  | nil => rfl
  | cons e es ih =>
    obtain ⟨hnew, hnodup⟩ := List.nodup_cons.mp hnodup
    have hstep : d.update (e :: es) = (d.set e.1 e.2).update es := rfl
    rw [hstep, ih hnodup, get_set]
    by_cases hk : k = e.1
    · -- The key is set once.
      have hnone : es.lookup k = none := lookup_eq_none (hk ▸ hnew)
      rw [if_pos hk, hnone, List.lookup_cons, hk, beq_self_eq_true]
      rfl
    · rw [if_neg hk, List.lookup_cons, beq_eq_false_iff_ne.mpr hk]

theorem mem_entries_set {d : Dict κ α} {k : κ} {a : α} {e : κ × α}
    (h : e ∈ (d.set k a).entries) : e = (k, a) ∨ e ∈ d.entries := by
  obtain ⟨es⟩ := d
  simp only [set] at h
  induction es with
  | nil => exact .inl (List.mem_singleton.mp h)
  | cons e' es ih =>
    obtain ⟨k', a'⟩ := e'
    by_cases hk : k = k'
    · simp only [setList, if_pos hk, List.mem_cons] at h
      exact h.imp_right fun h => List.mem_cons_of_mem _ h
    · simp only [setList, if_neg hk, List.mem_cons] at h
      rcases h with rfl | h
      · exact .inr List.mem_cons_self
      · exact (ih h).imp_right fun h => List.mem_cons_of_mem _ h

theorem nodup_keys_set {d : Dict κ α} (h : d.keys.Nodup) (k : κ) (a : α) :
    (d.set k a).keys.Nodup := by
  rw [keys_set]
  split
  · exact h
  · next hk =>
    refine List.nodup_append.mpr ⟨h, by simp, fun k' hk' k'' hk'' => ?_⟩
    rw [List.mem_singleton.mp hk'']
    exact fun heq => hk (heq ▸ hk')

theorem keys_erase_sublist (d : Dict κ α) (k : κ) : (d.erase k).keys.Sublist d.keys :=
  List.filter_sublist.map _

theorem mem_of_get {d : Dict κ α} {k : κ} {a : α} (h : d.get k = some a) :
    (k, a) ∈ d.entries := by
  obtain ⟨es⟩ := d
  simp only [get] at h ⊢
  induction es with
  | nil => simp at h
  | cons e es ih =>
    obtain ⟨k', a'⟩ := e
    by_cases hk : k = k'
    · subst hk
      simp only [List.lookup, beq_self_eq_true, Option.some.injEq] at h
      simp [h]
    · simp only [List.lookup, beq_eq_false_iff_ne.mpr hk] at h
      exact List.mem_cons_of_mem _ (ih h)

theorem isSome_get_iff {d : Dict κ α} {k : κ} : (d.get k).isSome ↔ k ∈ d.keys := by
  obtain ⟨es⟩ := d
  simp only [get, keys]
  induction es with
  | nil => simp
  | cons e es ih =>
    obtain ⟨k', a'⟩ := e
    by_cases hk : k = k'
    · simp [List.lookup, hk]
    · simp only [List.lookup, beq_eq_false_iff_ne.mpr hk, ih, List.map_cons, List.mem_cons, hk,
        false_or]

theorem get_filter (d : Dict κ α) (p : κ → Bool) (k : κ) :
    (d.filter fun k _ => p k).get k = if p k then d.get k else none := by
  obtain ⟨es⟩ := d
  simp only [get, filter]
  induction es with
  | nil => simp
  | cons e es ih =>
    obtain ⟨k', a'⟩ := e
    by_cases hk : k = k'
    · subst hk
      cases hp : p k with
      | true => simp [hp, List.lookup]
      | false => simpa [hp, List.lookup] using ih
    · cases hp : p k' with
      | true => simpa [hp, List.lookup, beq_eq_false_iff_ne.mpr hk] using ih
      | false => simpa [hp, List.lookup, beq_eq_false_iff_ne.mpr hk] using ih

theorem get_filter_of_get {d : Dict κ α} {p : κ → α → Bool} {k : κ} {a : α}
    (h : d.get k = some a) (hp : p k a = true) : (d.filter p).get k = some a := by
  obtain ⟨es⟩ := d
  simp only [get, filter] at h ⊢
  induction es with
  | nil => cases h
  | cons e es ih =>
    obtain ⟨k', a'⟩ := e
    by_cases hk : k = k'
    · subst hk
      simp only [List.lookup, beq_self_eq_true, Option.some.injEq] at h
      subst h
      simp [hp]
    · simp only [List.lookup, beq_eq_false_iff_ne.mpr hk] at h
      cases hp' : p k' a' with
      | true => simpa [hp', List.lookup, beq_eq_false_iff_ne.mpr hk] using ih h
      | false => simpa [hp', List.lookup, beq_eq_false_iff_ne.mpr hk] using ih h

omit [DecidableEq κ] in
theorem keys_filter_sublist (d : Dict κ α) (p : κ → α → Bool) :
    (d.filter p).keys.Sublist d.keys :=
  List.filter_sublist.map _

theorem erase_of_get_eq_none {d : Dict κ α} {k : κ} (h : d.get k = none) : d.erase k = d := by
  have hk : k ∉ d.keys := by
    rw [← isSome_get_iff, h]
    simp
  obtain ⟨es⟩ := d
  simp only [erase, filter]
  rw [List.filter_eq_self.mpr]
  intro e he
  have hne : e.1 ≠ k := fun heq => hk (heq ▸ List.mem_map_of_mem he)
  simpa using hne

theorem get_of_mem {d : Dict κ α} (hnodup : d.keys.Nodup) {k : κ} {a : α}
    (h : (k, a) ∈ d.entries) : d.get k = some a := by
  obtain ⟨es⟩ := d
  simp only [get, keys] at h hnodup ⊢
  induction es with
  | nil => cases h
  | cons e es ih =>
    obtain ⟨k', a'⟩ := e
    rw [List.map_cons, List.nodup_cons] at hnodup
    rcases List.mem_cons.mp h with h | h
    · obtain ⟨rfl, rfl⟩ := Prod.mk.injEq .. ▸ h
      simp [List.lookup]
    · have hk : k ≠ k' := fun hk => hnodup.1 (hk ▸ List.mem_map.mpr ⟨(k, a), h, rfl⟩)
      simp only [List.lookup, beq_eq_false_iff_ne.mpr hk]
      exact ih hnodup.2 h

theorem perm_erase {d : Dict κ α} (hnodup : d.keys.Nodup) {k : κ} {a : α}
    (h : d.get k = some a) : d.entries.Perm ((k, a) :: (d.erase k).entries) := by
  obtain ⟨es⟩ := d
  simp only [get, erase, filter, keys] at h hnodup ⊢
  induction es with
  | nil => cases h
  | cons e es ih =>
    obtain ⟨k', a'⟩ := e
    rw [List.map_cons, List.nodup_cons] at hnodup
    by_cases hk : k = k'
    · subst hk
      simp only [List.lookup, beq_self_eq_true, Option.some.injEq] at h
      subst h
      rw [List.filter_cons_of_neg (by simp), List.filter_eq_self.mpr]
      intro e he
      have hne : e.1 ≠ k := fun heq => hnodup.1 (List.mem_map.mpr ⟨e, he, heq⟩)
      simpa using hne
    · simp only [List.lookup, beq_eq_false_iff_ne.mpr hk] at h
      rw [List.filter_cons_of_pos (by simpa using Ne.symm hk)]
      exact ((ih hnodup.2 h).cons _).trans (List.Perm.swap _ _ _)

theorem erase_set (d : Dict κ α) (k : κ) (a : α) : (d.set k a).erase k = d.erase k := by
  obtain ⟨es⟩ := d
  simp only [set, erase, filter]
  congr 1
  induction es with
  | nil => simp [setList]
  | cons e es ih =>
    obtain ⟨k', a'⟩ := e
    by_cases hk : k = k'
    · simp [setList, hk]
    · simp only [setList, hk, if_false, List.filter_cons, ih]

/-! ### Other values under the same keys -/

section mapEntries

universe w

variable {β : Type w} (f : κ → α → β)

/-- The map with what `f` makes of every key and value. -/
def mapEntries (d : Dict κ α) : Dict κ β := ⟨d.entries.map fun e => (e.1, f e.1 e.2)⟩

theorem mapEntries_set (d : Dict κ α) (k : κ) (a : α) :
    (d.set k a).mapEntries f = (d.mapEntries f).set k (f k a) := by
  obtain ⟨es⟩ := d
  simp only [set, mapEntries]
  congr 1
  induction es with
  | nil => rfl
  | cons e es ih =>
    obtain ⟨k', a'⟩ := e
    by_cases h : k = k'
    · subst h
      simp [setList]
    · simp only [setList, if_neg h, List.map_cons, ih]

theorem get_mapEntries (d : Dict κ α) (k : κ) : (d.mapEntries f).get k = (d.get k).map (f k) := by
  obtain ⟨es⟩ := d
  simp only [get, mapEntries]
  induction es with
  | nil => rfl
  | cons e es ih =>
    obtain ⟨k', a'⟩ := e
    by_cases h : k = k'
    · subst h
      simp [List.lookup]
    · simp only [List.map_cons, List.lookup, beq_eq_false_iff_ne.mpr h, ih]

end mapEntries

end Dict

end HexeVoice.Library
