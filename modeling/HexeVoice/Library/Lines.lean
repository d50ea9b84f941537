import Mathlib

/-!
# Texts with separators

Texts of parts with a separator between them.

## What is proved

**`separated_cancel`**: where the first part does not have the separator, a text has one first part and
one rest. **`separated_iff`**: else it has one for each number of separators in the first part.
-/

namespace HexeVoice.Library.Lines

variable {α : Type*}

/-- **Two texts with a first part** that does not have the separator have the same first part, if they
are the same. -/
theorem separated_cancel {a : α} {xs ys r r' : List α} (hxs : a ∉ xs) (hys : a ∉ ys)
    (h : xs ++ a :: r = ys ++ a :: r') : xs = ys ∧ r = r' := by
  induction xs generalizing ys with
  | nil =>
    cases ys with
    | nil => simpa using h
    | cons y ys =>
      simp only [List.nil_append, List.cons_append, List.cons.injEq] at h
      exact absurd h.1 (List.ne_of_not_mem_cons hys)
  | cons x xs ih =>
    cases ys with
    | nil =>
      simp only [List.nil_append, List.cons_append, List.cons.injEq] at h
      exact absurd h.1.symm (List.ne_of_not_mem_cons hxs)
    | cons y ys =>
      simp only [List.cons_append, List.cons.injEq] at h
      obtain ⟨rfl, hrest⟩ := h
      obtain ⟨rfl, hr⟩ := ih (List.not_mem_of_not_mem_cons hxs)
        (List.not_mem_of_not_mem_cons hys) hrest
      exact ⟨rfl, hr⟩

/-- The same from the right. -/
theorem separated_cancel_right {a : α} {xs ys r r' : List α} (hxs : a ∉ xs) (hys : a ∉ ys)
    (h : r ++ a :: xs = r' ++ a :: ys) : r = r' ∧ xs = ys := by
  have hreverse : xs.reverse ++ a :: r.reverse = ys.reverse ++ a :: r'.reverse := by
    simpa using congrArg List.reverse h
  obtain ⟨hparts, hrest⟩ := separated_cancel (List.mem_reverse.not.mpr hxs)
    (List.mem_reverse.not.mpr hys) hreverse
  exact ⟨List.reverse_injective hrest, List.reverse_injective hparts⟩

variable [DecidableEq α]

/-- **The same text** is split in the same way exactly if the first parts have the same number of
separators. -/
theorem separated_iff {a : α} {xs ys r r' : List α} (h : xs ++ a :: r = ys ++ a :: r') :
    xs = ys ∧ r = r' ↔ xs.count a = ys.count a := by
  constructor
  · rintro ⟨rfl, -⟩
    rfl
  · intro hcount
    have longer {us vs s s' : List α} (h : us ++ a :: s = vs ++ a :: s')
        (hcount : us.count a = vs.count a) (hlength : us.length ≤ vs.length) : us = vs := by
      obtain ⟨part, rfl⟩ : us <+: vs := by
        have hus : us <+: us ++ a :: s := List.prefix_append us _
        exact List.prefix_of_prefix_length_le hus ⟨a :: s', h.symm⟩ hlength
      rw [List.append_assoc, List.append_cancel_left_eq] at h
      cases part with
      | nil => simp
      | cons b part =>
        -- What is longer has one more separator.
        simp only [List.cons_append, List.cons.injEq] at h
        rw [← h.1, List.count_append, List.count_cons_self] at hcount
        omega
    have hparts : xs = ys := by
      rcases le_total xs.length ys.length with hlength | hlength
      · exact longer h hcount hlength
      · exact (longer h.symm hcount.symm hlength).symm
    subst hparts
    rw [List.append_cancel_left_eq, List.cons.injEq] at h
    exact ⟨rfl, h.2⟩

/-! ### Lines -/

/-- Lines, with a newline between them. -/
def joinLines (lines : List (List UInt8)) : List UInt8 := List.intercalate [10] lines

theorem joinLines_cons_cons (line next : List UInt8) (lines : List (List UInt8)) :
    joinLines (line :: next :: lines) = line ++ 10 :: joinLines (next :: lines) := by
  simp [joinLines]

theorem joinLines_append {lines more : List (List UInt8)} (h : lines ≠ []) (h' : more ≠ []) :
    joinLines (lines ++ more) = joinLines lines ++ 10 :: joinLines more := by
  induction lines with
  | nil => exact absurd rfl h
  | cons line lines ih =>
    cases lines with
    | nil =>
      cases more with
      | nil => exact absurd rfl h'
      | cons next more => simp [joinLines]
    | cons next lines =>
      rw [List.cons_append, List.cons_append, joinLines_cons_cons, joinLines_cons_cons,
        ← List.cons_append, ih (List.cons_ne_nil _ _), List.append_assoc, List.cons_append]

/-- **One line in the middle** can be told from another. -/
theorem joinLines_middle_inj {before after : List (List UInt8)} (hbefore : before ≠ [])
    (hafter : after ≠ []) {line other : List UInt8} :
    joinLines (before ++ [line] ++ after) = joinLines (before ++ [other] ++ after) ↔
      line = other := by
  have hsplit (line : List UInt8) : joinLines (before ++ [line] ++ after) =
      joinLines before ++ 10 :: (line ++ 10 :: joinLines after) := by
    have hone : joinLines [line] = line := by simp [joinLines]
    rw [joinLines_append (by simp) hafter, joinLines_append hbefore (by simp), hone,
      List.append_assoc, List.cons_append]
  rw [hsplit, hsplit, List.append_cancel_left_eq, List.cons.injEq, List.append_cancel_right_eq]
  simp

end HexeVoice.Library.Lines
