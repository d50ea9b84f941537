import Mathlib

/-!
# A ring that holds the last elements of a sequence

A cyclic array of `n` places is written at a place that moves on by one. Read from that place on, all
the way around, it is `List.rotate` of the array, and it gives the last `n` elements of the sequence
written so far, in order: `ringLast n fill xs`, where places never written still hold `fill`.
-/

namespace HexeVoice.Library

variable {α : Type*}

/-- The last `n` elements of `xs`, with `fill` for those that are missing. -/
def ringLast (n : ℕ) (fill : α) (xs : List α) : List α :=
  (List.replicate n fill ++ xs).drop xs.length

@[simp] theorem ringLast_nil (n : ℕ) (fill : α) : ringLast n fill [] = List.replicate n fill := by
  simp [ringLast]

/-- One more element pushes the oldest out. -/
theorem ringLast_concat {n : ℕ} (hn : 0 < n) (fill : α) (xs : List α) (x : α) :
    ringLast n fill (xs ++ [x]) = (ringLast n fill xs).tail ++ [x] := by
  have hlength : xs.length + 1 ≤ (List.replicate n fill ++ xs).length := by
    simp only [List.length_append, List.length_replicate]
    omega
  unfold ringLast
  rw [List.length_append, List.length_singleton, ← List.append_assoc,
    List.drop_append_of_le_length hlength, List.tail_drop]

/-- Where there are enough elements, none is filled in. -/
theorem ringLast_of_le {n : ℕ} {xs : List α} (h : n ≤ xs.length) (fill : α) :
    ringLast n fill xs = xs.drop (xs.length - n) := by
  unfold ringLast
  rw [List.drop_append, List.length_replicate, List.drop_eq_nil_of_le (by simpa using h),
    List.nil_append]

/-- The last elements are the first of the sequence turned round, and the rest of the places. -/
theorem ringLast_perm (n : ℕ) (fill : α) (xs : List α) :
    (ringLast n fill xs).Perm (xs.reverse.take n ++ List.replicate (n - xs.length) fill) := by
  unfold ringLast
  rw [List.drop_append, List.length_replicate, List.drop_replicate, List.take_reverse]
  exact List.perm_append_comm.trans ((List.reverse_perm _).symm.append_right _)

/-- Writing at the place a ring is read from, and going on to the next one, pushes the oldest element
out and the new one in. -/
theorem rotate_set_succ {l : List α} {i : ℕ} (h : i < l.length) (x : α) :
    (l.set i x).rotate (i + 1) = (l.rotate i).tail ++ [x] := by
  have htake : (l.set i x).take (i + 1) = l.take i ++ [x] := by
    rw [List.take_set, List.take_add_one, List.getElem?_eq_getElem h, Option.toList_some,
      List.set_append_right _ _ (by simp), List.length_take, min_eq_left h.le, Nat.sub_self]
    rfl
  rw [List.rotate_eq_drop_append_take (by simpa using h), htake,
    List.rotate_eq_drop_append_take h.le, List.drop_set_of_lt (Nat.lt_succ_self i),
    List.tail_append_of_ne_nil (by simpa using h), List.tail_drop, List.append_assoc]

/-- The ring `l`, written next at `i`, holds the last elements of `xs`. -/
structure RingHolds (l : List α) (i : ℕ) (fill : α) (xs : List α) : Prop where
  lt : i < l.length
  read : l.rotate i = ringLast l.length fill xs

/-- A ring never written. -/
theorem RingHolds.empty {n i : ℕ} (h : i < n) (fill : α) :
    RingHolds (List.replicate n fill) i fill [] where
  lt := by simpa using h
  read := by simp

/-- A write. -/
theorem RingHolds.write {l : List α} {i : ℕ} {fill : α} {xs : List α} (h : RingHolds l i fill xs)
    (x : α) : RingHolds (l.set i x) ((i + 1) % l.length) fill (xs ++ [x]) where
  lt := by simpa using Nat.mod_lt _ (Nat.zero_lt_of_lt h.lt)
  read := by
    have hmod : (l.set i x).rotate ((i + 1) % l.length) = (l.set i x).rotate (i + 1) := by
      simpa using List.rotate_mod (l.set i x) (i + 1)
    rw [hmod, rotate_set_succ h.lt, h.read, List.length_set,
      ringLast_concat (Nat.zero_lt_of_lt h.lt)]

/-- A ring has the elements that it holds. -/
theorem RingHolds.perm {l : List α} {i : ℕ} {fill : α} {xs : List α} (h : RingHolds l i fill xs) :
    l.Perm (ringLast l.length fill xs) := by
  rw [← h.read]
  exact (List.rotate_perm l i).symm

end HexeVoice.Library
