import HexeVoice.Library.Machine
import Mathlib

/-!
# Lockouts

A guard that counts failures and locks for a while after too many.

## The model

The guard holds a count and, while it is locked, the instant the lock lasts until. Each act carries
the instant it happens at. A `sweep` opens a guard whose lock has run out and starts the count
again, a `succeed` starts the count again, and the `fail` that reaches the limit locks the guard
for a period. Nobody fails or succeeds at a locked guard (`Admits`).

## What is proved

**`fails_le_limit`**: within any half-open period without a success there are at most as many
failures as the limit, wherever the period starts. **`locked_stays`**: nobody fails or succeeds
until the lock has run out.
-/

namespace HexeVoice.Library

/-- A guard. -/
structure Guard where
  failures : ℤ
  lockedUntil : Option ℤ
  deriving DecidableEq

namespace Guard

/-- What happens at a guard, and when. -/
inductive Act where
  | sweep (t : ℤ)
  | fail (t : ℤ)
  | succeed (t : ℤ)
  deriving DecidableEq

/-- The instant of an act. -/
@[simp] def Act.time : Act → ℤ
  | sweep t | fail t | succeed t => t

/-- The act is a failure. -/
@[simp] def Act.isFail : Act → Bool
  | fail _ => true
  | _ => false

/-- The act is a success. -/
@[simp] def Act.isSucceed : Act → Bool
  | succeed _ => true
  | _ => false

/-- Within the half-open period that starts at `a`. -/
def Within (period a t : ℤ) : Prop := a ≤ t ∧ t < a + period

instance (period a t : ℤ) : Decidable (Within period a t) := inferInstanceAs (Decidable (_ ∧ _))

variable (limit period : ℤ)

/-- What an act does to the guard. -/
def act (g : Guard) : Act → Guard
  | .sweep t =>
    match g.lockedUntil with
    | some u => if u ≤ t then ⟨0, none⟩ else g
    | none => g
  | .fail t => ⟨g.failures + 1, if limit ≤ g.failures + 1 then some (t + period) else none⟩
  | .succeed _ => ⟨0, none⟩

/-- A locked guard admits neither failure nor success. -/
def Admits (g : Guard) (a : Act) : Prop :=
  a.isFail = true ∨ a.isSucceed = true → g.lockedUntil = none

variable {limit period}

@[simp] theorem admits_sweep (g : Guard) (t : ℤ) : g.Admits (.sweep t) := by
  simp [Admits]

@[simp] theorem admits_fail (g : Guard) (t : ℤ) : g.Admits (.fail t) ↔ g.lockedUntil = none := by
  simp [Admits]

@[simp] theorem admits_succeed (g : Guard) (t : ℤ) :
    g.Admits (.succeed t) ↔ g.lockedUntil = none := by
  simp [Admits]

/-! ### The bound -/

/-- What holds at `now` when `n` acts have failed within the period that starts at `a`. -/
structure Bounded (limit period a now : ℤ) (g : Guard) (n : ℕ) : Prop where
  le_limit : (n : ℤ) ≤ limit
  before : now < a → n = 0
  /-- A lock that is set within the period lasts to its end. -/
  locked : now < a + period → ∀ u, g.lockedUntil = some u → n ≠ 0 → a + period ≤ u
  /-- An open guard has counted every failure. -/
  counted : now < a + period → g.lockedUntil = none → (n : ℤ) ≤ g.failures ∧ (n : ℤ) < limit

section bounded

variable {a now t : ℤ} {g : Guard} {n : ℕ}

theorem Bounded.sweep (hlimit : 0 < limit) (h : Bounded limit period a now g n) (hnow : now ≤ t) :
    Bounded limit period a t (g.act limit period (.sweep t)) n := by
  have hbefore (ht : t < a) : n = 0 := h.before (lt_of_le_of_lt hnow ht)
  simp only [act]
  split
  · next u hu =>
    split
    · next hle =>
      have hzero (ht : t < a + period) : n = 0 := by
        by_contra hn
        have := h.locked (lt_of_le_of_lt hnow ht) u hu hn
        omega
      exact ⟨h.le_limit, hbefore, by simp, fun ht _ => by simp [hzero ht, hlimit]⟩
    · exact ⟨h.le_limit, hbefore, fun ht => h.locked (lt_of_le_of_lt hnow ht),
        fun _ hopen => by simp [hu] at hopen⟩
  · next hopen =>
    exact ⟨h.le_limit, hbefore, fun ht => h.locked (lt_of_le_of_lt hnow ht),
      fun ht => h.counted (lt_of_le_of_lt hnow ht)⟩

theorem Bounded.fail (h : Bounded limit period a now g n) (hnow : now ≤ t)
    (hopen : g.lockedUntil = none) :
    Bounded limit period a t (g.act limit period (.fail t))
      (n + if Within period a t then 1 else 0) := by
  have hbefore (ht : t < a) : n = 0 := h.before (lt_of_le_of_lt hnow ht)
  have hcounted (ht : t < a + period) := h.counted (lt_of_le_of_lt hnow ht) hopen
  simp only [act]
  by_cases hwithin : Within period a t
  · obtain ⟨hfailures, hlt⟩ := hcounted hwithin.2
    rw [if_pos hwithin]
    refine ⟨by push_cast; omega, fun ht => absurd hwithin.1 (by omega), fun _ u hu _ => ?_,
      fun _ hnone => ?_⟩
    · dsimp only at hu
      split at hu
      · have := hwithin.1
        obtain rfl : t + period = u := by simpa using hu
        omega
      · simp at hu
    · dsimp only at hnone ⊢
      split at hnone
      · simp at hnone
      · push_cast
        omega
  · rw [if_neg hwithin, Nat.add_zero]
    have hlate (ht : t < a + period) : t < a := by
      unfold Within at hwithin
      omega
    refine ⟨h.le_limit, hbefore, fun ht u _ hn => absurd (hbefore (hlate ht)) hn, fun ht _ => ?_⟩
    have := hcounted ht
    dsimp only
    omega

theorem Bounded.succeed (hlimit : 0 < limit) (h : Bounded limit period a now g n) (hnow : now ≤ t)
    (hout : ¬ Within period a t) :
    Bounded limit period a t (g.act limit period (.succeed t)) n := by
  have hbefore (ht : t < a) : n = 0 := h.before (lt_of_le_of_lt hnow ht)
  have hzero (ht : t < a + period) : n = 0 := by
    unfold Within at hout
    exact hbefore (by omega)
  exact ⟨h.le_limit, hbefore, by simp [act], fun ht _ => by simp [act, hzero ht, hlimit]⟩

end bounded

/-- The acts that fail within the period that starts at `a`. -/
def failsWithin (period a : ℤ) (acts : List Act) : ℕ :=
  acts.countP fun x => x.isFail ∧ Within period a x.time

theorem bounded_run (hlimit : 0 < limit) {a now : ℤ} {g : Guard} {n : ℕ} {acts : List Act}
    (h : Bounded limit period a now g n) (hsorted : (now :: acts.map Act.time).Pairwise (· ≤ ·))
    (hadmits : AllSteps (act limit period) Admits g acts)
    (hsucceed : ∀ x ∈ acts, x.isSucceed = true → ¬ Within period a x.time) :
    ((n + failsWithin period a acts : ℕ) : ℤ) ≤ limit := by
  induction acts generalizing g n now with
  | nil => simpa [failsWithin] using h.le_limit
  | cons x acts ih =>
    rw [List.map_cons, List.pairwise_cons] at hsorted
    have hnow : now ≤ x.time := hsorted.1 _ List.mem_cons_self
    rw [List.forall_mem_cons] at hsucceed
    have hfails : n + failsWithin period a (x :: acts) =
        n + (if x.isFail = true ∧ Within period a x.time then 1 else 0) +
          failsWithin period a acts := by
      unfold failsWithin
      rw [List.countP_cons]
      simp only [decide_eq_true_eq]
      omega
    rw [hfails]
    refine ih ?_ hsorted.2 hadmits.2 hsucceed.2
    cases x with
    | sweep t => simpa using h.sweep (t := t) hlimit hnow
    | fail t => simpa using h.fail (t := t) hnow ((admits_fail g t).mp hadmits.1)
    | succeed t => simpa using h.succeed (t := t) hlimit hnow (hsucceed.1 rfl)

/-- **Within a period without a success no more acts fail than the limit.** -/
theorem fails_le_limit (hlimit : 0 < limit) {g : Guard} {acts : List Act}
    (hopen : g.lockedUntil = none) (hcount : 0 ≤ g.failures)
    (hsorted : (acts.map Act.time).Pairwise (· ≤ ·))
    (hadmits : AllSteps (act limit period) Admits g acts) (a : ℤ)
    (hsucceed : ∀ x ∈ acts, x.isSucceed = true → ¬ Within period a x.time) :
    (failsWithin period a acts : ℤ) ≤ limit := by
  cases acts with
  | nil => simpa [failsWithin] using hlimit.le
  | cons x acts =>
    have hstart : Bounded limit period a x.time g 0 :=
      ⟨hlimit.le, fun _ => rfl, by simp [hopen], fun _ _ => ⟨hcount, hlimit⟩⟩
    have hsorted' : (x.time :: (x :: acts).map Act.time).Pairwise (· ≤ ·) := by
      refine List.pairwise_cons.mpr ⟨fun t ht => ?_, hsorted⟩
      rw [List.map_cons, List.mem_cons] at ht
      rcases ht with rfl | ht
      · exact le_rfl
      · exact (List.pairwise_cons.mp hsorted).1 t ht
    simpa using bounded_run hlimit hstart hsorted' hadmits hsucceed

/-- **Until its lock has run out a guard is as it was, and nobody fails or succeeds.** -/
theorem locked_stays {g : Guard} {u : ℤ} {acts : List Act} (hlocked : g.lockedUntil = some u)
    (hadmits : AllSteps (act limit period) Admits g acts) (htimes : ∀ x ∈ acts, x.time < u) :
    run (act limit period) g acts = g ∧ ∀ x ∈ acts, x.isFail = false ∧ x.isSucceed = false := by
  induction acts with
  | nil => simp
  | cons x acts ih =>
    rw [List.forall_mem_cons] at htimes
    have hclosed : ¬ g.lockedUntil = none := by simp [hlocked]
    cases x with
    | sweep t =>
      have hstep : g.act limit period (.sweep t) = g := by
        have : ¬ u ≤ t := not_le.mpr htimes.1
        simp [act, hlocked, this]
      rw [allSteps_cons, hstep] at hadmits
      rw [run_cons, hstep, List.forall_mem_cons]
      obtain ⟨hrun, hall⟩ := ih hadmits.2 htimes.2
      exact ⟨hrun, ⟨rfl, rfl⟩, hall⟩
    | fail t => exact absurd ((admits_fail g t).mp hadmits.1) hclosed
    | succeed t => exact absurd ((admits_succeed g t).mp hadmits.1) hclosed

end Guard

end HexeVoice.Library
