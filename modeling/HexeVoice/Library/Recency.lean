import Mathlib

/-!
# The most recent records

A list that holds the last records of at most `n` keys: a record that comes is put in front, the older
one of its key is removed, and the list is cut to its length.

## What is proved

**`recent_run`**: after any records the list has the keys used last, the latest first, and of each the
record that came last.
-/

namespace HexeVoice.Library

variable {α κ : Type*} [DecidableEq κ] (key : α → κ)

/-- The record comes first, and the older one of its key goes. -/
def touch (n : ℕ) (records : List α) (a : α) : List α :=
  (a :: records.filter fun b => key b ≠ key a).take n

/-- The keys of the records that came, the one that came last first. -/
def lastKeys (history : List α) : List κ := (history.map key).dedup.reverse

/-- The record of the key that came last. -/
def lastOf (history : List α) (k : κ) : Option α := history.reverse.find? fun b => key b = k

/-- The list holds the last keys, each with its last record. -/
structure Recent (n : ℕ) (history records : List α) : Prop where
  keys : records.map key = (lastKeys key history).take n
  last : ∀ a ∈ records, lastOf key history (key a) = some a

/-! ### One record more -/

theorem dedup_concat (ks : List κ) (k : κ) :
    (ks ++ [k]).dedup = (ks.dedup.filter fun k' => k' ≠ k) ++ [k] := by
  induction ks with
  | nil => simp
  | cons first ks ih =>
    by_cases hmem : first ∈ ks
    · rw [List.cons_append, List.dedup_cons_of_mem (by simp [hmem]), List.dedup_cons_of_mem hmem, ih]
    · rw [List.dedup_cons_of_notMem hmem]
      by_cases heq : first = k
      · subst heq
        rw [List.cons_append, List.dedup_cons_of_mem (by simp), ih]
        simp
      · rw [List.cons_append, List.dedup_cons_of_notMem (by simp [hmem, heq]), ih]
        simp [heq]

/-- The key that is used comes first, and is taken out where it was. -/
theorem lastKeys_concat (history : List α) (a : α) :
    lastKeys key (history ++ [a]) =
      key a :: (lastKeys key history).filter fun k => k ≠ key a := by
  rw [lastKeys, List.map_append, List.map_cons, List.map_nil, dedup_concat]
  simp [lastKeys]

theorem nodup_lastKeys (history : List α) : (lastKeys key history).Nodup :=
  List.nodup_reverse.mpr (List.nodup_dedup _)

theorem lastOf_concat_self (history : List α) (a : α) :
    lastOf key (history ++ [a]) (key a) = some a := by
  simp [lastOf]

theorem lastOf_concat_of_ne (history : List α) {a : α} {k : κ} (h : k ≠ key a) :
    lastOf key (history ++ [a]) k = lastOf key history k := by
  have hne : ¬ key a = k := fun heq => h heq.symm
  simp [lastOf, hne]

/-- Without one key, the first `n` of `n + 1` different keys are the first `n` of all. -/
theorem take_filter_take {ks : List κ} (h : ks.Nodup) (n : ℕ) (k : κ) :
    ((ks.take (n + 1)).filter fun k' => k' ≠ k).take n = (ks.filter fun k' => k' ≠ k).take n := by
  conv_rhs => rw [← List.take_append_drop (n + 1) ks, List.filter_append]
  by_cases hlong : n + 1 ≤ ks.length
  · have hnodup : (ks.take (n + 1)).Nodup := h.sublist (List.take_sublist _ _)
    have herase : ((ks.take (n + 1)).filter fun k' => k' ≠ k) = (ks.take (n + 1)).erase k := by
      rw [hnodup.erase_eq_filter]
      exact List.filter_congr fun k' _ => by by_cases hk : k' = k <;> simp [hk]
    have hlength : n ≤ ((ks.take (n + 1)).filter fun k' => k' ≠ k).length := by
      have hsub : (ks.take (n + 1)).length - 1 ≤ ((ks.take (n + 1)).erase k).length :=
        List.le_length_erase ..
      rw [herase]
      rw [List.length_take, Nat.min_eq_left hlong] at hsub
      omega
    rw [List.take_append_of_le_length hlength]
  · have hdrop : ks.drop (n + 1) = [] := List.drop_eq_nil_of_le (by omega)
    simp [hdrop]

/-! ### Any records -/

variable {key}

theorem Recent.touch {n : ℕ} {history records : List α} (h : Recent key (n + 1) history records)
    (a : α) : Recent key (n + 1) (history ++ [a]) (touch key (n + 1) records a) where
  keys := by
    have hfilter : (records.filter fun b => key b ≠ key a).map key =
        (records.map key).filter fun k => k ≠ key a := by
      rw [List.filter_map]
      rfl
    rw [lastKeys_concat, HexeVoice.Library.touch, List.map_take, List.map_cons, hfilter, h.keys,
      List.take_succ_cons, List.take_succ_cons, take_filter_take (nodup_lastKeys key history)]
  last := by
    intro b hb
    have hmem : b = a ∨ b ∈ records ∧ key b ≠ key a := by
      simpa [List.mem_filter] using List.mem_of_mem_take hb
    obtain rfl | ⟨hold, hne⟩ := hmem
    · exact lastOf_concat_self key history b
    · rw [lastOf_concat_of_ne key history hne]
      exact h.last b hold

/-- **The most recent records**: what the list holds after any records came. -/
theorem recent_run (n : ℕ) (history : List α) :
    Recent key (n + 1) history (history.foldl (touch key (n + 1)) []) := by
  induction history using List.reverseRecOn with
  | nil => exact ⟨rfl, by simp⟩
  | append_singleton history a ih =>
    rw [List.foldl_append]
    exact ih.touch a

theorem Recent.nodup {n : ℕ} {history records : List α} (h : Recent key n history records) :
    (records.map key).Nodup := by
  rw [h.keys]
  exact (nodup_lastKeys key history).sublist (List.take_sublist _ _)

end HexeVoice.Library
