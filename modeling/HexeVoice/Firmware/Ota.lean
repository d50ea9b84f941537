import HexeVoice.Library.CString

/-!
# Firmware updates over the air

`version_is_newer` of `system/ota.cpp`, by which the firmware refuses a manifest as
`downgrade_or_replay`.

## The model

An `int` is an `Int32`, whose arithmetic wraps. Of a version that does not parse, the components
that were written before are read nowhere.

## What is proved

**`no_update_in_a_circle`**: two versions are each newer than the other exactly if one of them is
`unknown` and the other does not come before it. A chain of accepted updates that does not both
leave and enter the versions that parse, and does not both leave and enter `unknown`, never comes
back to the version that it started with.
-/

namespace HexeVoice.Firmware

open HexeVoice.Library

/-! ### Versions -/

/-- `std::isdigit`. -/
def isdigit (c : UInt8) : Bool := 48 ≤ c && c ≤ 57

/-- The digits from here on: the value with them, and what follows. -/
def parseDigits (value : Int32) : List UInt8 → Int32 × List UInt8
  | [] => (value, [])
  | c :: cursor =>
    if isdigit c then parseDigits (value * 10 + (c.toNat.toInt32 - 48)) cursor
    else (value, c :: cursor)

/-- The components from here on, of which there is room for `n`. -/
def parseComponents : ℕ → List UInt8 → Option (List Int32)
  | 0, _ => some []
  | _ + 1, [] => some []
  | n + 1, c :: cursor =>
    if isdigit c then
      let (value, rest) := parseDigits 0 (c :: cursor)
      match rest with
      | [] => some [value]
      | next :: rest =>
        if next = 46 then (parseComponents n rest).map (value :: ·)
        else if next = 45 ∨ next = 43 then some [value]
        else none
    else none

/-- `parse_semver_components`: the components, with zeros where there are none. -/
def parseSemverComponents (version : CString) (partCount : ℕ) : Option (List Int32) :=
  if version.bytes = [] then none
  else
    match parseComponents partCount version.bytes with
    | none | some [] => none
    | some parts => some (parts ++ List.replicate (partCount - parts.length) 0)

/-- The first components that differ are greater. -/
def greaterParts : List Int32 → List Int32 → Bool
  | target :: targets, current :: currents =>
    if current < target then true
    else if target < current then false
    else greaterParts targets currents
  | _, _ => false

/-- The version of firmware without a description. -/
def unknown : CString := .ofAscii "unknown"

def versionIsNewer (target current : CString) : Bool :=
  if target = .empty then false
  else if current = .empty ∨ current = unknown then true
  else
    match parseSemverComponents target 4, parseSemverComponents current 4 with
    | some targetParts, some currentParts => greaterParts targetParts currentParts
    | _, _ => 0 < target.strcmp current

/-! ### The two orders -/

theorem greaterParts_irrefl (parts : List Int32) : greaterParts parts parts = false := by
  induction parts with
  | nil => rfl
  | cons part parts ih =>
    unfold greaterParts
    rw [if_neg (Int32.lt_irrefl (a := part)), if_neg (Int32.lt_irrefl (a := part))]
    exact ih

theorem greaterParts_cons {a b : Int32} {as bs : List Int32} :
    greaterParts (a :: as) (b :: bs) = true ↔ b < a ∨ a = b ∧ greaterParts as bs = true := by
  rw [greaterParts.eq_1]
  by_cases hlt : b < a
  · rw [if_pos hlt]
    simp [hlt]
  · rw [if_neg hlt]
    by_cases hgt : a < b
    · rw [if_pos hgt]
      have hne : a ≠ b := fun heq => Int32.lt_irrefl (heq ▸ hgt)
      simp [hlt, hne]
    · rw [if_neg hgt]
      have heq : a = b := Int32.le_antisymm (Int32.not_lt.mp hlt) (Int32.not_lt.mp hgt)
      have hirrefl : ¬b < b := Int32.lt_irrefl
      simp only [heq, hirrefl, false_or, true_and]

theorem greaterParts_trans {as bs cs : List Int32} (h : greaterParts as bs = true)
    (h' : greaterParts bs cs = true) : greaterParts as cs = true := by
  induction as generalizing bs cs with
  | nil => cases h
  | cons a as ih =>
    cases bs with
    | nil => cases h
    | cons b bs =>
      cases cs with
      | nil => cases h'
      | cons c cs =>
        rw [greaterParts_cons] at h h' ⊢
        rcases h with h | ⟨rfl, h⟩
        · rcases h' with h' | ⟨rfl, -⟩
          · exact .inl (Int32.lt_trans h' h)
          · exact .inl h
        · rcases h' with h' | ⟨rfl, h'⟩
          · exact .inl h'
          · exact .inr ⟨rfl, ih h h'⟩

/-- The version parses. -/
def parses (version : CString) : Bool := (parseSemverComponents version 4).isSome

/-- One version comes before another: of two that parse by their components, of two that do not
by their bytes. -/
def Before (current target : CString) : Prop :=
  match parseSemverComponents target 4, parseSemverComponents current 4 with
  | some targetParts, some currentParts => greaterParts targetParts currentParts = true
  | none, none => current < target
  | _, _ => False

theorem before_irrefl (version : CString) : ¬Before version version := by
  unfold Before
  cases parseSemverComponents version 4 with
  | none => exact CString.lt_irrefl version
  | some parts => simp [greaterParts_irrefl]

theorem before_trans {a b c : CString} (h : Before a b) (h' : Before b c) : Before a c := by
  unfold Before at *
  cases ha : parseSemverComponents a 4 <;> cases hb : parseSemverComponents b 4 <;>
    cases hc : parseSemverComponents c 4 <;> simp only [ha, hb, hc] at h h' ⊢
  · exact CString.lt_trans h h'
  · exact greaterParts_trans h' h

/-- **What a newer version is**, of one that is there and is not `unknown`. -/
theorem versionIsNewer_iff {target current : CString} (htarget : target ≠ .empty)
    (hcurrent : current ≠ .empty) (hknown : current ≠ unknown) :
    versionIsNewer target current = true ↔
      if parses target = parses current then Before current target else current < target := by
  unfold versionIsNewer parses Before
  rw [if_neg htarget, if_neg (not_or.mpr ⟨hcurrent, hknown⟩)]
  cases parseSemverComponents target 4 <;> cases parseSemverComponents current 4 <;>
    simp [CString.strcmp_pos_iff]

/-- **Two versions are each newer than the other** exactly if one of them is `unknown`, and the
other is too or comes before it. -/
theorem newer_both_ways_iff {a b : CString} (ha : a ≠ .empty) (hb : b ≠ .empty) :
    versionIsNewer a b = true ∧ versionIsNewer b a = true ↔
      a = unknown ∧ (b = unknown ∨ b < a) ∨ b = unknown ∧ (a = unknown ∨ a < b) := by
  have hunknown {c : CString} (hc : c ≠ .empty) : versionIsNewer c unknown = true := by
    unfold versionIsNewer
    rw [if_neg hc, if_pos (.inr rfl)]
  have hover {c : CString} (hc : c ≠ .empty) (hknown : c ≠ unknown) :
      versionIsNewer unknown c = true ↔ c < unknown := by
    have hparses : parses unknown = false := by decide
    rw [versionIsNewer_iff (by decide) hc hknown, hparses]
    split
    · next hsame =>
      unfold Before
      rw [Option.isSome_eq_false_iff.mp hparses |> Option.isNone_iff_eq_none.mp,
        Option.isSome_eq_false_iff.mp hsame.symm |> Option.isNone_iff_eq_none.mp]
    · rfl
  by_cases hau : a = unknown
  · subst hau
    by_cases hbu : b = unknown
    · simp [hbu, hunknown (c := unknown) (by decide)]
    · simp [hbu, hunknown hb, hover hb hbu]
  · by_cases hbu : b = unknown
    · subst hbu
      simp [hau, hunknown ha, hover ha hau]
    · simp only [hau, hbu, false_and, or_self, iff_false]
      rw [versionIsNewer_iff ha hb hbu, versionIsNewer_iff hb ha hau]
      rintro ⟨hab, hba⟩
      by_cases hsame : parses a = parses b
      · rw [if_pos hsame] at hab
        rw [if_pos hsame.symm] at hba
        exact before_irrefl a (before_trans hba hab)
      · rw [if_neg hsame] at hab
        rw [if_neg fun h => hsame h.symm] at hba
        exact CString.lt_irrefl a (CString.lt_trans hba hab)

/-! ### Chains of updates -/

section chains

variable {α : Type} {v : ℕ → α} {n : ℕ}

/-- Along the chain the property is never lost, or never gained. -/
def OneWay (p : α → Bool) (v : ℕ → α) (n : ℕ) : Prop :=
  (∀ i < n, p (v i) = true → p (v (i + 1)) = true) ∨
    ∀ i < n, p (v (i + 1)) = true → p (v i) = true

/-- What is kept from step to step is kept over more of them. -/
theorem kept_along {p : α → Prop} (h : ∀ i < n, p (v i) → p (v (i + 1))) {i j : ℕ} (hij : i ≤ j)
    (hj : j ≤ n) (hi : p (v i)) : p (v j) := by
  induction j with
  | zero =>
    obtain rfl : i = 0 := by omega
    exact hi
  | succ j ih =>
    rcases Nat.lt_or_eq_of_le hij with hlt | rfl
    · exact h j (by omega) (ih (by omega) (by omega))
    · exact hi

/-- A property that goes one way along a circle holds everywhere or nowhere. -/
theorem constant_of_circle {p : α → Bool} (h : OneWay p v n) (hcircle : v n = v 0) :
    ∀ i ≤ n, p (v i) = p (v 0) := by
  intro i hi
  rw [Bool.eq_iff_iff]
  rcases h with h | h
  · constructor
    · intro hp
      rw [← hcircle]
      exact kept_along (p := fun a => p a = true) h hi le_rfl hp
    · exact kept_along (p := fun a => p a = true) h (Nat.zero_le i) hi
  · have hlost : ∀ i < n, ¬p (v i) = true → ¬p (v (i + 1)) = true :=
      fun i hi hnot hp => hnot (h i hi hp)
    constructor
    · intro hp
      by_contra hnot
      exact kept_along (p := fun a => ¬p a = true) hlost (Nat.zero_le i) hi hnot hp
    · intro hp
      by_contra hnot
      rw [← hcircle] at hp
      exact kept_along (p := fun a => ¬p a = true) hlost hi le_rfl hnot hp

/-- A chain of a transitive relation relates its ends. -/
theorem related_along {r : α → α → Prop} (htrans : ∀ {a b c}, r a b → r b c → r a c)
    (h : ∀ i < n, r (v i) (v (i + 1))) (hn : 0 < n) : r (v 0) (v n) := by
  induction n with
  | zero => omega
  | succ n ih =>
    rcases Nat.eq_zero_or_pos n with rfl | hpos
    · exact h 0 (by omega)
    · exact htrans (ih (fun i hi => h i (by omega)) hpos) (h n (by omega))

end chains

/-- **No chain of updates comes back**, if it goes one way between the versions that parse and
those that do not, and `unknown` is not both run and installed. -/
theorem no_circle {v : ℕ → CString} {n : ℕ} (hn : 0 < n) (hthere : ∀ i ≤ n, v i ≠ .empty)
    (h : ∀ i < n, versionIsNewer (v (i + 1)) (v i) = true) (hparses : OneWay parses v n)
    (hknown : (∀ i < n, v i ≠ unknown) ∨ ∀ i < n, v (i + 1) ≠ unknown) : v n ≠ v 0 := by
  intro hcircle
  have hsame := constant_of_circle hparses hcircle
  have hnever : ∀ i < n, v i ≠ unknown := by
    rcases hknown with hknown | hknown
    · exact hknown
    · intro i hi
      rcases Nat.eq_zero_or_pos i with rfl | hpos
      · rw [← hcircle]
        simpa [Nat.sub_add_cancel hn] using hknown (n - 1) (by omega)
      · simpa [Nat.sub_add_cancel hpos] using hknown (i - 1) (by omega)
  have hbefore : ∀ i < n, Before (v i) (v (i + 1)) := by
    intro i hi
    have hnewer := h i hi
    rwa [versionIsNewer_iff (hthere (i + 1) (by omega)) (hthere i (by omega)) (hnever i hi),
      if_pos ((hsame (i + 1) (by omega)).trans (hsame i (by omega)).symm)] at hnewer
  have hends := related_along (r := Before) before_trans hbefore hn
  rw [hcircle] at hends
  exact before_irrefl (v 0) hends

/-- **Updates go in a circle only between versions that parse and versions that do not, or over
`unknown`.** -/
theorem no_update_in_a_circle (a b : CString) (v : ℕ → CString) (n : ℕ) :
    (a ≠ .empty → b ≠ .empty →
      (versionIsNewer a b = true ∧ versionIsNewer b a = true ↔
        a = unknown ∧ (b = unknown ∨ b < a) ∨ b = unknown ∧ (a = unknown ∨ a < b))) ∧
    (0 < n → (∀ i ≤ n, v i ≠ .empty) →
      (∀ i < n, versionIsNewer (v (i + 1)) (v i) = true) → OneWay parses v n →
      ((∀ i < n, v i ≠ unknown) ∨ ∀ i < n, v (i + 1) ≠ unknown) → v n ≠ v 0) := by
  constructor
  · intro ha hb
    exact newer_both_ways_iff ha hb
  · intro hn hthere h hparses hknown
    exact no_circle hn hthere h hparses hknown

/-- Versions 2 and 10, in turn. -/
def releases (i : ℕ) : CString := if i = 0 then .ofAscii "2.0.0" else .ofAscii "10.0.0"

theorem no_update_in_a_circle_releases : releases 1 ≠ releases 0 :=
  (no_update_in_a_circle unknown unknown releases 1).2 (by decide) (by decide) (by decide)
    (.inl (by decide)) (.inl (by decide))

/-- 2, 10 and a version that does not parse, again and again. -/
def circle (i : ℕ) : CString :=
  if i % 3 = 0 then .ofAscii "2.0.0" else if i % 3 = 1 then .ofAscii "10.0.0" else .ofAscii "10.x"

/-- A version that does not parse leads from 10 back to 2, and `unknown` is newer than a version
that is newer than it. -/
theorem update_in_a_circle :
    (∃ (v : ℕ → CString) (n : ℕ), 0 < n ∧ (∀ i ≤ n, v i ≠ .empty) ∧
      (∀ i < n, versionIsNewer (v (i + 1)) (v i) = true) ∧ v n = v 0) ∧
    ∃ a b : CString, a ≠ .empty ∧ b ≠ .empty ∧
      versionIsNewer a b = true ∧ versionIsNewer b a = true :=
  ⟨⟨circle, 3, by decide⟩, unknown, .ofAscii "1.0.0", by decide⟩

end HexeVoice.Firmware
