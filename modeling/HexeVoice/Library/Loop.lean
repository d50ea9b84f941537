import Mathlib

/-!
# Loops that may not end

A loop takes turns on a state: a turn goes on in a new state, ends with a result, or does something that
is undefined. A loop whose control depends on a place with finitely many values ends exactly if it comes
to no place twice; what it then returns is read off the states that it reaches.
-/

namespace HexeVoice.Library

variable {σ ρ π : Type*}

/-- What a turn does. -/
inductive Turn (σ ρ : Type*) where
  /-- Something undefined. -/
  | fault
  | done (result : ρ)
  | next (state : σ)

/-- At most `fuel` turns: `none` where the loop has not ended, `some none` where it faults. -/
def loop (turn : σ → Turn σ ρ) : ℕ → σ → Option (Option ρ)
  | 0, _ => none
  | fuel + 1, state =>
    match turn state with
    | .fault => some none
    | .done result => some (some result)
    | .next state => loop turn fuel state

/-- The loop ends with a result. -/
def LoopReturns (turn : σ → Turn σ ρ) (state : σ) (result : ρ) : Prop :=
  ∃ fuel, loop turn fuel state = some (some result)

/-- The state after `k` turns, if the loop goes on so long. -/
def reached (turn : σ → Turn σ ρ) (state : σ) : ℕ → Option σ
  | 0 => some state
  | k + 1 =>
    match reached turn state k with
    | none => none
    | some state =>
      match turn state with
      | .next state => some state
      | _ => none

variable {turn : σ → Turn σ ρ} {place : σ → π} {state : σ}

theorem reached_succ {k : ℕ} {s t : σ} (h : reached turn state k = some s) (ht : turn s = .next t) :
    reached turn state (k + 1) = some t := by
  simp only [reached, h, ht]

theorem reached_succ_iff {k : ℕ} {t : σ} :
    reached turn state (k + 1) = some t ↔
      ∃ s, reached turn state k = some s ∧ turn s = .next t := by
  constructor
  · intro h
    simp only [reached] at h
    split at h
    · cases h
    · rename_i s hs
      split at h
      · rename_i u hu
        obtain rfl := Option.some.inj h
        exact ⟨s, hs, hu⟩
      · cases h
  · rintro ⟨s, hs, ht⟩
    exact reached_succ hs ht

/-- The first turn, and the ones after it. -/
theorem reached_next {k : ℕ} {s t u : σ} (ht : turn s = .next t) (h : reached turn t k = some u) :
    reached turn s (k + 1) = some u := by
  induction k generalizing u with
  | zero =>
    obtain rfl := Option.some.inj h
    exact reached_succ rfl ht
  | succ k ih =>
    obtain ⟨v, hv, hturn⟩ := reached_succ_iff.mp h
    exact reached_succ (ih hv) hturn

/-- A loop that has stopped does not go on. -/
theorem reached_none {k m : ℕ} (h : reached turn state k = none) (hle : k ≤ m) :
    reached turn state m = none := by
  induction m, hle using Nat.le_induction with
  | base => exact h
  | succ m hle ih => simp only [reached, ih]

theorem exists_reached_of_le {k m : ℕ} {s : σ} (h : reached turn state k = some s) (hle : m ≤ k) :
    ∃ t, reached turn state m = some t := by
  rw [← Option.ne_none_iff_exists']
  intro hnone
  rw [reached_none hnone hle] at h
  cases h

/-- The loop goes on from what it has reached. -/
theorem loop_reached {k : ℕ} {s : σ} (h : reached turn state k = some s) (fuel : ℕ) :
    loop turn (fuel + k) state = loop turn fuel s := by
  induction k generalizing fuel s with
  | zero =>
    obtain rfl := Option.some.inj h
    rfl
  | succ k ih =>
    obtain ⟨t, ht, hturn⟩ := reached_succ_iff.mp h
    rw [← Nat.add_assoc, Nat.add_right_comm, ih ht, loop, hturn]

/-- A loop returns what the last of its turns gives. -/
theorem loopReturns_iff_reached {result : ρ} :
    LoopReturns turn state result ↔
      ∃ k s, reached turn state k = some s ∧ turn s = .done result := by
  constructor
  · rintro ⟨fuel, h⟩
    induction fuel generalizing state with
    | zero => cases h
    | succ fuel ih =>
      simp only [loop] at h
      cases hturn : turn state with
      | fault =>
        rw [hturn] at h
        cases h
      | done last =>
        rw [hturn] at h
        obtain rfl := Option.some.inj (Option.some.inj h)
        exact ⟨0, state, rfl, hturn⟩
      | next after =>
        rw [hturn] at h
        obtain ⟨k, s, hs, hdone⟩ := ih h
        refine ⟨k + 1, s, ?_, hdone⟩
        exact reached_next hturn hs
  · rintro ⟨k, s, hs, hdone⟩
    refine ⟨1 + k, ?_⟩
    rw [loop_reached hs, loop, hdone]

/-- **The rule for loops that end**: where every turn from a state with the invariant ends with what is
wanted, or keeps the invariant and makes a measure smaller, the loop ends with what is wanted. -/
theorem loop_of_measure (measure : σ → ℕ) (inv : σ → Prop) (P : ρ → Prop)
    (hturn : ∀ s, inv s → (∃ result, turn s = .done result ∧ P result) ∨
      ∃ t, turn s = .next t ∧ inv t ∧ measure t < measure s)
    {fuel : ℕ} {s : σ} (hs : inv s) (hfuel : measure s < fuel) :
    ∃ result, loop turn fuel s = some (some result) ∧ P result := by
  induction fuel generalizing s with
  | zero => exact absurd hfuel (Nat.not_lt_zero _)
  | succ fuel ih =>
    rw [loop]
    rcases hturn s hs with ⟨result, hdone, hresult⟩ | ⟨t, hnext, ht, hless⟩
    · rw [hdone]
      exact ⟨result, rfl, hresult⟩
    · rw [hnext]
      exact ih ht (Nat.lt_of_lt_of_le hless (Nat.le_of_lt_succ hfuel))

/-- The control of the loop depends on the place alone. -/
def Placed (turn : σ → Turn σ ρ) (place : σ → π) : Prop :=
  ∀ s t s', place s = place t → turn s = .next s' → ∃ t', turn t = .next t' ∧ place s' = place t'

/-- From one place the loop takes one way. -/
theorem Placed.reached_add (hplaced : Placed turn place) {i j : ℕ} {s t : σ}
    (hi : reached turn state i = some s) (hj : reached turn state j = some t)
    (hplace : place s = place t) (m : ℕ) {s' : σ} (hs' : reached turn state (i + m) = some s') :
    ∃ t', reached turn state (j + m) = some t' ∧ place s' = place t' := by
  induction m generalizing s' with
  | zero =>
    obtain rfl := Option.some.inj (hi.symm.trans hs')
    exact ⟨t, hj, hplace⟩
  | succ m ih =>
    obtain ⟨u, hu, hturn⟩ := reached_succ_iff.mp hs'
    obtain ⟨v, hv, hsame⟩ := ih hu
    obtain ⟨v', hturn', hsame'⟩ := hplaced u v s' hsame hturn
    exact ⟨v', reached_succ hv hturn', hsame'⟩

/-- No place is come to twice. -/
def NoReturn (turn : σ → Turn σ ρ) (place : σ → π) (state : σ) : Prop :=
  ∀ i j s t, i < j → reached turn state i = some s → reached turn state j = some t →
    place s ≠ place t

/-- A loop that ends comes to no place twice. -/
theorem NoReturn.of_stops (hplaced : Placed turn place) {k : ℕ}
    (hstop : reached turn state k = none) : NoReturn turn place state := by
  intro i j s t hlt hi hj hplace
  have hon : ∀ m, ∃ u, reached turn state (i + m) = some u := by
    intro m
    induction m using Nat.strong_induction_on with
    | _ m ih =>
      rcases Nat.lt_or_ge m (j - i) with hless | hge
      · exact exists_reached_of_le hj (by omega)
      · obtain ⟨u, hu⟩ := ih (m - (j - i)) (by omega)
        obtain ⟨v, hv, -⟩ := hplaced.reached_add hi hj hplace _ hu
        rw [show j + (m - (j - i)) = i + m by omega] at hv
        exact ⟨v, hv⟩
  obtain ⟨u, hu⟩ := hon k
  rw [reached_none hstop (Nat.le_add_left k i)] at hu
  cases hu

/-- A loop that comes to no place twice stops, where the places are finitely many. -/
theorem NoReturn.stops (h : NoReturn turn place state) {places : Set π} (hfinite : places.Finite)
    (hplaces : ∀ k s, reached turn state k = some s → place s ∈ places) :
    ∃ k, reached turn state k = none := by
  by_contra hgoes
  push Not at hgoes
  have hsome : ∀ k, ∃ s, reached turn state k = some s := fun k =>
    Option.ne_none_iff_exists'.mp (hgoes k)
  choose visited hvisited using hsome
  refine Set.infinite_of_injective_forall_mem (f := fun k => place (visited k)) ?_
    (fun k => hplaces k _ (hvisited k)) hfinite
  intro i j hij
  rcases Nat.lt_trichotomy i j with hlt | heq | hgt
  · exact absurd hij (h i j _ _ hlt (hvisited i) (hvisited j))
  · exact heq
  · exact absurd hij.symm (h j i _ _ hgt (hvisited j) (hvisited i))

/-- The places that the loop goes through are those of a relation between them. -/
structure Follows (turn : σ → Turn σ ρ) (place : σ → π) (r : π → π → Prop) : Prop where
  next : ∀ s t, turn s = .next t → r (place s) (place t)
  goes : ∀ s q, r (place s) q → ∃ t, turn s = .next t ∧ place t = q

variable {r : π → π → Prop}

theorem Follows.placed (h : Follows turn place r) : Placed turn place := by
  intro s t s' hplace hturn
  have hr := h.next s s' hturn
  rw [hplace] at hr
  obtain ⟨t', ht', hsame⟩ := h.goes t _ hr
  exact ⟨t', ht', hsame.symm⟩

/-- The loop comes to the places that the relation leads to. -/
theorem Follows.reaches (h : Follows turn place r) {q : π} :
    Relation.ReflTransGen r (place state) q ↔
      ∃ k s, reached turn state k = some s ∧ place s = q := by
  constructor
  · intro hpath
    induction hpath with
    | refl => exact ⟨0, state, rfl, rfl⟩
    | tail _ hstep ih =>
      obtain ⟨k, s, hs, rfl⟩ := ih
      obtain ⟨t, hturn, hplace⟩ := h.goes s _ hstep
      exact ⟨k + 1, t, reached_succ hs hturn, hplace⟩
  · rintro ⟨k, s, hs, rfl⟩
    induction k generalizing s with
    | zero =>
      obtain rfl := Option.some.inj hs
      exact .refl
    | succ k ih =>
      obtain ⟨u, hu, hturn⟩ := reached_succ_iff.mp hs
      exact (ih u hu).tail (h.next u s hturn)

/-- What is reached later is led to from what is reached first. -/
theorem Follows.leads (h : Follows turn place r) {i : ℕ} (m : ℕ) {s t : σ}
    (hs : reached turn state i = some s) (ht : reached turn state (i + m + 1) = some t) :
    Relation.TransGen r (place s) (place t) := by
  induction m generalizing t with
  | zero =>
    obtain ⟨u, hu, hturn⟩ := reached_succ_iff.mp ht
    obtain rfl := Option.some.inj (hs.symm.trans hu)
    exact .single (h.next s t hturn)
  | succ m ih =>
    obtain ⟨u, hu, hturn⟩ := reached_succ_iff.mp ht
    exact (ih hu).tail (h.next u t hturn)

/-- What is led to is reached later. -/
theorem Follows.reached_of_leads (h : Follows turn place r) {i : ℕ} {s : σ} {q : π}
    (hs : reached turn state i = some s) (hpath : Relation.TransGen r (place s) q) :
    ∃ j t, i < j ∧ reached turn state j = some t ∧ place t = q := by
  induction hpath with
  | single hstep =>
    obtain ⟨t, hturn, hplace⟩ := h.goes s _ hstep
    exact ⟨i + 1, t, Nat.lt_succ_self i, reached_succ hs hturn, hplace⟩
  | tail _ hstep ih =>
    obtain ⟨j, u, hlt, hu, rfl⟩ := ih
    obtain ⟨t, hturn, hplace⟩ := h.goes u _ hstep
    exact ⟨j + 1, t, Nat.lt_succ_of_lt hlt, reached_succ hu hturn, hplace⟩

/-- No place is come to twice exactly if none that is come to leads back to itself. -/
theorem Follows.noReturn_iff (h : Follows turn place r) :
    NoReturn turn place state ↔
      ∀ q, Relation.ReflTransGen r (place state) q → ¬ Relation.TransGen r q q := by
  constructor
  · intro hnone q hpath hcycle
    obtain ⟨i, s, hs, rfl⟩ := h.reaches.mp hpath
    obtain ⟨j, t, hlt, ht, hsame⟩ := h.reached_of_leads hs hcycle
    exact hnone i j s t hlt hs ht hsame.symm
  · intro hacyclic i j s t hlt hi hj hplace
    refine hacyclic (place s) (h.reaches.mpr ⟨i, s, hi, rfl⟩) ?_
    have hcycle := h.leads (j - i - 1) hi (by rwa [show i + (j - i - 1) + 1 = j by omega])
    rwa [← hplace] at hcycle

/-- Nothing that is reached faults, and what is returned there is fine. -/
def FineTurns (turn : σ → Turn σ ρ) (P : ρ → Prop) (state : σ) : Prop :=
  ∀ k s, reached turn state k = some s → turn s ≠ .fault ∧ ∀ r, turn s = .done r → P r

/-- A loop returns exactly if it comes to no place twice and all of its turns are fine. -/
theorem loopReturns_iff_fineTurns (hplaced : Placed turn place) {places : Set π}
    (hfinite : places.Finite)
    (hplaces : ∀ k s, reached turn state k = some s → place s ∈ places) (P : ρ → Prop) :
    (∃ r, LoopReturns turn state r ∧ P r) ↔
      NoReturn turn place state ∧ FineTurns turn P state := by
  constructor
  · rintro ⟨r, hreturns, hr⟩
    obtain ⟨k, s, hs, hdone⟩ := loopReturns_iff_reached.mp hreturns
    have hstop : reached turn state (k + 1) = none := by
      simp only [reached, hs, hdone]
    refine ⟨.of_stops hplaced hstop, fun m t ht => ?_⟩
    rcases Nat.lt_or_ge m k with hless | hge
    · -- a turn before the last one goes on
      obtain ⟨u, hu⟩ := exists_reached_of_le hs (Nat.succ_le_of_lt hless)
      obtain ⟨t', ht', hturn⟩ := reached_succ_iff.mp hu
      obtain rfl := Option.some.inj (ht.symm.trans ht')
      rw [hturn]
      simp
    · rcases Nat.eq_or_lt_of_le hge with rfl | hmore
      · obtain rfl := Option.some.inj (hs.symm.trans ht)
        rw [hdone]
        simpa using hr
      · rw [reached_none hstop hmore] at ht
        cases ht
  · rintro ⟨hnone, hfine⟩
    have hstops := hnone.stops hfinite hplaces
    obtain ⟨k, hk, hfirst⟩ : ∃ k, reached turn state k = none ∧
        ∀ m < k, reached turn state m ≠ none := by
      classical
      exact ⟨Nat.find hstops, Nat.find_spec hstops, fun m hm => Nat.find_min hstops hm⟩
    cases k with
    | zero => cases hk
    | succ k =>
      obtain ⟨s, hs⟩ := Option.ne_none_iff_exists'.mp (hfirst k (Nat.lt_succ_self k))
      obtain ⟨hnofault, hresult⟩ := hfine k s hs
      cases hturn : turn s with
      | fault => exact absurd hturn hnofault
      | done r => exact ⟨r, loopReturns_iff_reached.mpr ⟨k, s, hs, hturn⟩, hresult r hturn⟩
      | next t =>
        rw [reached_succ hs hturn] at hk
        cases hk

/-- **When a loop returns** something fine: exactly if none of the places that the relation leads to leads
back to itself, and all of them are fine. -/
theorem Follows.loopReturns_iff (h : Follows turn place r) {places : Set π}
    (hfinite : places.Finite)
    (hplaces : ∀ k s, reached turn state k = some s → place s ∈ places) {P : ρ → Prop}
    {fine : π → Prop}
    (hfine : ∀ s, (turn s ≠ .fault ∧ ∀ result, turn s = .done result → P result) ↔
      fine (place s)) :
    (∃ result, LoopReturns turn state result ∧ P result) ↔
      ∀ q, Relation.ReflTransGen r (place state) q → fine q ∧ ¬ Relation.TransGen r q q := by
  rw [loopReturns_iff_fineTurns h.placed hfinite hplaces, h.noReturn_iff]
  constructor
  · rintro ⟨hacyclic, hturns⟩ q hpath
    obtain ⟨k, s, hs, rfl⟩ := h.reaches.mp hpath
    exact ⟨(hfine s).mp (hturns k s hs), hacyclic _ hpath⟩
  · intro hall
    refine ⟨fun q hpath => (hall q hpath).2, fun k s hs => (hfine s).mpr ?_⟩
    exact (hall (place s) (h.reaches.mpr ⟨k, s, hs, rfl⟩)).1

end HexeVoice.Library
