import Mathlib

/-!
# Outcomes that may be errors

What a good outcome says of the checks and the computations before it, and an outcome whose error is not
one of some.
-/

namespace HexeVoice.Library

variable {ε α β : Type}

/-- A check that refuses is passed, where the outcome is good. -/
theorem ite_ok {ε α : Type*} {c : Prop} [Decidable c] {error : ε} {rest : Except ε α} {a : α}
    (h : (if c then .error error else rest) = .ok a) : ¬c ∧ rest = .ok a := by
  by_cases hc : c
  · rw [if_pos hc] at h
    cases h
  · rw [if_neg hc] at h
    exact ⟨hc, h⟩

/-- A computation in steps is good if all steps are. -/
theorem bind_eq_ok {x : Except ε α} {f : α → Except ε β} {b : β} :
    x >>= f = .ok b ↔ ∃ a, x = .ok a ∧ f a = .ok b := by
  cases x with
  | error error =>
    constructor
    · intro h
      cases h
    · rintro ⟨a, h, -⟩
      cases h
  | ok a =>
    constructor
    · intro h
      exact ⟨a, rfl, h⟩
    · rintro ⟨_, heq, h⟩
      cases heq
      exact h

theorem exists_of_isSome_toOption {ε α : Type} {x : Except ε α} (h : x.toOption.isSome = true) :
    ∃ a, x = .ok a := by
  cases x with
  | error error => cases h
  | ok a => exact ⟨a, rfl⟩

/-- What all results of a computation have in common, the list of them has. -/
theorem eq_map_of_mapM {f : α → Except ε β} {g : α → β} {l : List α} {bs : List β}
    (h : l.mapM f = .ok bs) (hf : ∀ a ∈ l, ∀ b, f a = .ok b → b = g a) : bs = l.map g := by
  induction l generalizing bs with
  | nil =>
    cases h
    rfl
  | cons a l ih =>
    rw [List.mapM_cons] at h
    cases ha : f a with
    | error error =>
      rw [ha] at h
      cases h
    | ok b =>
      rw [ha] at h
      cases hl : l.mapM f with
      | error error =>
        simp only [hl] at h
        cases h
      | ok rest =>
        simp only [hl] at h
        cases h
        rw [List.map_cons, hf a List.mem_cons_self b ha,
          ih hl fun c hc => hf c (List.mem_cons_of_mem _ hc)]

/-- Where each step can be made, all of them can. -/
theorem exists_mapM_iff {f : α → Except ε β} {l : List α} :
    (∃ bs, l.mapM f = .ok bs) ↔ ∀ a ∈ l, ∃ b, f a = .ok b := by
  induction l with
  | nil => exact iff_of_true ⟨[], rfl⟩ fun a ha => absurd ha List.not_mem_nil
  | cons a l ih =>
    rw [List.mapM_cons, List.forall_mem_cons, ← ih]
    constructor
    · rintro ⟨bs, h⟩
      obtain ⟨b, hb, h⟩ := bind_eq_ok.mp h
      obtain ⟨rest, hrest, -⟩ := bind_eq_ok.mp h
      exact ⟨⟨b, hb⟩, rest, hrest⟩
    · rintro ⟨⟨b, hb⟩, rest, hrest⟩
      exact ⟨b :: rest, by rw [hb, hrest]; rfl⟩

/-- The error of steps is that of one of them. -/
theorem error_of_mapM {f : α → Except ε β} {l : List α} {error : ε}
    (h : l.mapM f = .error error) : ∃ a ∈ l, f a = .error error := by
  induction l with
  | nil => cases h
  | cons a l ih =>
    rw [List.mapM_cons] at h
    cases ha : f a with
    | error error' =>
      rw [ha] at h
      cases h
      exact ⟨a, List.mem_cons_self, ha⟩
    | ok b =>
      rw [ha] at h
      cases hl : l.mapM f with
      | error error' =>
        simp only [hl] at h
        cases h
        obtain ⟨a, hmem, ha⟩ := ih hl
        exact ⟨a, List.mem_cons_of_mem _ hmem, ha⟩
      | ok rest =>
        simp only [hl] at h
        cases h

/-- Steps that can all be made give what each of them does. -/
theorem mem_of_mapM {f : α → Except ε β} {l : List α} {bs : List β} (h : l.mapM f = .ok bs) :
    (∀ a ∈ l, ∃ b ∈ bs, f a = .ok b) ∧ ∀ b ∈ bs, ∃ a ∈ l, f a = .ok b := by
  induction l generalizing bs with
  | nil =>
    cases h
    exact ⟨fun a ha => absurd ha List.not_mem_nil, fun b hb => absurd hb List.not_mem_nil⟩
  | cons a l ih =>
    rw [List.mapM_cons] at h
    obtain ⟨b, hb, h⟩ := bind_eq_ok.mp h
    obtain ⟨rest, hrest, h⟩ := bind_eq_ok.mp h
    cases h
    obtain ⟨hleft, hright⟩ := ih hrest
    constructor
    · rw [List.forall_mem_cons]
      refine ⟨⟨b, List.mem_cons_self, hb⟩, fun c hc => ?_⟩
      obtain ⟨d, hd, hcd⟩ := hleft c hc
      exact ⟨d, List.mem_cons_of_mem _ hd, hcd⟩
    · rw [List.forall_mem_cons]
      refine ⟨⟨a, List.mem_cons_self, hb⟩, fun c hc => ?_⟩
      obtain ⟨d, hd, hcd⟩ := hright c hc
      exact ⟨d, List.mem_cons_of_mem _ hd, hcd⟩

theorem mapM_congr {f g : α → Except ε β} {l : List α} (h : ∀ a ∈ l, f a = g a) :
    l.mapM f = l.mapM g := by
  induction l with
  | nil => rfl
  | cons a l ih =>
    rw [List.mapM_cons, List.mapM_cons, h a List.mem_cons_self,
      ih fun c hc => h c (List.mem_cons_of_mem _ hc)]

/-! ### Checks that reject -/

section checks

variable {ε α β : Type} {error error' : ε} {excused : ε → Prop}

/-- Go on if a check is passed. -/
def ensure (passed : Bool) (error : ε) : Except ε Unit := if passed then .ok () else .error error

/-- Go on with a value if there is one. -/
def orReject (value : Option α) (error : ε) : Except ε α := value.elim (.error error) .ok

theorem ensure_eq_ok {passed : Bool} {done : Unit} :
    ensure passed error = .ok done ↔ passed = true := by
  cases passed
  · exact iff_of_false (fun h => by cases h) (by decide)
  · exact iff_of_true rfl rfl

theorem orReject_eq_ok {value : Option α} {a : α} : orReject value error = .ok a ↔ value = some a := by
  cases value with
  | none => exact iff_of_false (fun h => by cases h) (fun h => by cases h)
  | some _ =>
    constructor
    · rintro ⟨⟩
      rfl
    · rintro ⟨⟩
      rfl

theorem error_of_ensure {passed : Bool} (h : ensure passed error = .error error') :
    error' = error := by
  cases passed <;> cases h
  rfl

theorem error_of_orReject {value : Option α} (h : orReject value error = .error error') :
    error' = error := by
  cases value <;> cases h
  rfl

/-- The outcome is good, or one of the errors that are excused. -/
def Excused (excused : ε → Prop) (x : Except ε α) : Prop := ∀ error, x = .error error → excused error

theorem excused_ok (a : α) : Excused excused (.ok a : Except ε α) := by
  intro error h
  cases h

theorem excused_bind_iff {x : Except ε α} {f : α → Except ε β} :
    Excused excused (x >>= f) ↔ Excused excused x ∧ ∀ a, x = .ok a → Excused excused (f a) := by
  cases x with
  | error error =>
    constructor
    · intro h
      exact ⟨fun error' herror => h error' (by cases herror; rfl), fun a ha => by cases ha⟩
    · rintro ⟨h, -⟩ error' ⟨⟩
      exact h error rfl
  | ok a =>
    constructor
    · intro h
      exact ⟨excused_ok a, fun a' ha => by cases ha; exact h⟩
    · rintro ⟨-, h⟩
      exact h a rfl

/-- A step whose errors are not excused must be good. -/
theorem excused_iff_exists {x : Except ε α} (h : ∀ error, x = .error error → ¬ excused error) :
    Excused excused x ↔ ∃ a, x = .ok a := by
  cases x with
  | error error =>
    refine iff_of_false (fun hexcused => h error rfl (hexcused error rfl)) ?_
    rintro ⟨a, ha⟩
    cases ha
  | ok a => exact iff_of_true (excused_ok a) ⟨a, rfl⟩

theorem excused_bind_iff_exists {x : Except ε α} {f : α → Except ε β}
    (h : ∀ error, x = .error error → ¬ excused error) :
    Excused excused (x >>= f) ↔ ∃ a, x = .ok a ∧ Excused excused (f a) := by
  rw [excused_bind_iff, excused_iff_exists h]
  constructor
  · rintro ⟨⟨a, ha⟩, hrest⟩
    exact ⟨a, ha, hrest a ha⟩
  · rintro ⟨a, ha, hrest⟩
    refine ⟨⟨a, ha⟩, fun a' ha' => ?_⟩
    rw [ha] at ha'
    cases ha'
    exact hrest

theorem excused_ensure_bind_iff {passed : Bool} {f : Unit → Except ε β} (h : ¬ excused error) :
    Excused excused (ensure passed error >>= f) ↔ passed = true ∧ Excused excused (f ()) := by
  rw [excused_bind_iff_exists fun error' herror => error_of_ensure herror ▸ h]
  constructor
  · rintro ⟨_, hok, hrest⟩
    exact ⟨ensure_eq_ok.mp hok, hrest⟩
  · rintro ⟨hpassed, hrest⟩
    exact ⟨(), ensure_eq_ok.mpr hpassed, hrest⟩

theorem excused_orReject_bind_iff {value : Option α} {f : α → Except ε β} (h : ¬ excused error) :
    Excused excused (orReject value error >>= f) ↔
      ∃ a, value = some a ∧ Excused excused (f a) := by
  rw [excused_bind_iff_exists fun error' herror => error_of_orReject herror ▸ h]
  simp only [orReject_eq_ok]

/-- What comes after a step matters only where the step is good. -/
theorem bind_congr_of_ok {x : Except ε α} {f g : α → Except ε β} (h : ∀ a, x = .ok a → f a = g a) :
    x >>= f = x >>= g := by
  cases x with
  | error error => rfl
  | ok a => exact h a rfl

end checks

end HexeVoice.Library
