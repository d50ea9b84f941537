import Mathlib

/-!
# The Gregorian calendar

Dates and times of the proleptic Gregorian calendar, in UTC, and the seconds since 1970. Days are counted
by adding up the lengths of years and of months.
-/

namespace HexeVoice.Library.Gregorian

/-- A leap year. -/
def IsLeap (year : ℕ) : Prop := 4 ∣ year ∧ (¬ 100 ∣ year ∨ 400 ∣ year)

instance (year : ℕ) : Decidable (IsLeap year) := inferInstanceAs (Decidable (_ ∧ _))

/-- The days of a year. -/
def yearLength (year : ℕ) : ℕ := if IsLeap year then 366 else 365

/-- The days of a month. -/
def monthLength (year month : ℕ) : ℕ :=
  match month with
  | 2 => if IsLeap year then 29 else 28
  | 4 | 6 | 9 | 11 => 30
  | _ => 31

/-- The days of the years from 1 on that end before `year`. -/
def daysBeforeYear (year : ℕ) : ℕ := ∑ k ∈ Finset.range (year - 1), yearLength (k + 1)

/-- The days of the months that end before `month`. -/
def daysBeforeMonth (year month : ℕ) : ℕ := ∑ k ∈ Finset.range (month - 1), monthLength year (k + 1)

/-- A date, with the proof that there is one. -/
structure Date where
  year : ℕ
  month : ℕ
  day : ℕ
  one_le_year : 1 ≤ year
  one_le_month : 1 ≤ month
  month_le : month ≤ 12
  one_le_day : 1 ≤ day
  day_le : day ≤ monthLength year month

/-- A date and a time of the day. -/
structure DateTime extends Date where
  hour : ℕ
  minute : ℕ
  second : ℕ
  hour_lt : hour < 24
  minute_lt : minute < 60
  second_lt : second < 60

/-- The days since the first of January of the year 1. -/
def Date.ordinal (date : Date) : ℕ :=
  daysBeforeYear date.year + daysBeforeMonth date.year date.month + (date.day - 1)

/-- The first of January 1970. -/
def Date.epoch : Date := ⟨1970, 1, 1, by decide, by decide, by decide, by decide, by decide⟩

/-- The seconds of the day. -/
def DateTime.secondOfDay (time : DateTime) : ℕ :=
  time.hour * 3600 + time.minute * 60 + time.second

/-- The seconds since 1970, without leap seconds. -/
def DateTime.unixSeconds (time : DateTime) : ℤ :=
  (time.toDate.ordinal - Date.epoch.ordinal : ℤ) * 86400 + time.secondOfDay

/-- A date is earlier. -/
def Date.Before (a b : Date) : Prop :=
  a.year < b.year ∨ a.year = b.year ∧ (a.month < b.month ∨ a.month = b.month ∧ a.day < b.day)

/-- An instant is earlier. -/
def DateTime.Before (a b : DateTime) : Prop :=
  a.toDate.Before b.toDate ∨
    (a.year = b.year ∧ a.month = b.month ∧ a.day = b.day) ∧
      (a.hour < b.hour ∨ a.hour = b.hour ∧
        (a.minute < b.minute ∨ a.minute = b.minute ∧ a.second < b.second))

/-! ### Counting days -/

theorem daysBeforeYear_succ {year : ℕ} (h : 1 ≤ year) :
    daysBeforeYear (year + 1) = daysBeforeYear year + yearLength year := by
  obtain ⟨k, rfl⟩ := Nat.exists_eq_add_of_le' h
  exact Finset.sum_range_succ (fun k => yearLength (k + 1)) k

theorem daysBeforeMonth_succ (year : ℕ) {month : ℕ} (h : 1 ≤ month) :
    daysBeforeMonth year (month + 1) = daysBeforeMonth year month + monthLength year month := by
  obtain ⟨k, rfl⟩ := Nat.exists_eq_add_of_le' h
  exact Finset.sum_range_succ (fun k => monthLength year (k + 1)) k

/-- **The days before a year**, by the leap rule. -/
theorem daysBeforeYear_eq (k : ℕ) :
    daysBeforeYear (k + 1) + k / 100 = 365 * k + k / 4 + k / 400 := by
  induction k with
  | zero => rfl
  | succ k ih =>
    rw [daysBeforeYear_succ (Nat.le_add_left 1 k), yearLength]
    split_ifs with hleap
    · unfold IsLeap at hleap
      omega
    · unfold IsLeap at hleap
      omega

/-- The days before each of the months. -/
theorem daysBeforeMonth_eq (year : ℕ) {month : ℕ} (h1 : 1 ≤ month) (h12 : month ≤ 12) :
    daysBeforeMonth year month =
      if month ≤ 2 then 31 * (month - 1)
      else (153 * (month - 3) + 2) / 5 + 59 + if IsLeap year then 1 else 0 := by
  interval_cases month <;> simp [daysBeforeMonth, Finset.sum_range_succ, monthLength] <;>
    split_ifs <;> rfl

/-- A year is its months. -/
theorem daysBeforeMonth_thirteen (year : ℕ) : daysBeforeMonth year 13 = yearLength year := by
  simp only [daysBeforeMonth, Nat.add_one_sub_one, Finset.sum_range_succ, Finset.sum_range_zero,
    monthLength, yearLength]
  split_ifs <;> rfl

theorem daysBeforeYear_mono : Monotone daysBeforeYear := fun _ _ h =>
  Finset.sum_le_sum_of_subset (Finset.range_subset_range.mpr (Nat.sub_le_sub_right h 1))

theorem daysBeforeMonth_mono (year : ℕ) : Monotone (daysBeforeMonth year) := fun _ _ h =>
  Finset.sum_le_sum_of_subset (Finset.range_subset_range.mpr (Nat.sub_le_sub_right h 1))

/-! ### The order of instants -/

/-- A date lies in its month. -/
theorem Date.ordinal_lt_month (date : Date) :
    date.ordinal < daysBeforeYear date.year + daysBeforeMonth date.year (date.month + 1) := by
  have := daysBeforeMonth_succ date.year date.one_le_month
  have := date.day_le
  have := date.one_le_day
  unfold Date.ordinal
  omega

/-- A date lies in its year. -/
theorem Date.ordinal_lt_year (date : Date) : date.ordinal < daysBeforeYear (date.year + 1) := by
  have hmonth : daysBeforeMonth date.year (date.month + 1) ≤ daysBeforeMonth date.year 13 :=
    daysBeforeMonth_mono date.year (Nat.succ_le_succ date.month_le)
  have := date.ordinal_lt_month
  rw [daysBeforeYear_succ date.one_le_year, ← daysBeforeMonth_thirteen]
  omega

/-- The days grow with the date. -/
theorem Date.ordinal_lt_of_before {a b : Date} (h : a.Before b) : a.ordinal < b.ordinal := by
  rcases h with hyear | ⟨hyear, hmonth | ⟨hmonth, hday⟩⟩
  · have hnext : daysBeforeYear (a.year + 1) ≤ daysBeforeYear b.year := daysBeforeYear_mono hyear
    have := a.ordinal_lt_year
    unfold Date.ordinal at *
    omega
  · have hnext : daysBeforeMonth a.year (a.month + 1) ≤ daysBeforeMonth a.year b.month :=
      daysBeforeMonth_mono a.year hmonth
    have := a.ordinal_lt_month
    unfold Date.ordinal at *
    rw [← hyear]
    omega
  · have := a.one_le_day
    unfold Date.ordinal
    rw [hyear, hmonth]
    omega

theorem DateTime.secondOfDay_lt (time : DateTime) : time.secondOfDay < 86400 := by
  have := time.hour_lt
  have := time.minute_lt
  have := time.second_lt
  unfold DateTime.secondOfDay
  omega

/-- **The seconds grow with the instant.** -/
theorem DateTime.unixSeconds_lt_of_before {a b : DateTime} (h : a.Before b) :
    a.unixSeconds < b.unixSeconds := by
  rcases h with hdate | ⟨⟨hyear, hmonth, hday⟩, htime⟩
  · have hordinal := Date.ordinal_lt_of_before hdate
    have := a.secondOfDay_lt
    unfold DateTime.unixSeconds
    omega
  · have hordinal : a.toDate.ordinal = b.toDate.ordinal := by
      simp only [Date.ordinal, hyear, hmonth, hday]
    have hsecond : a.secondOfDay < b.secondOfDay := by
      have := a.minute_lt
      have := a.second_lt
      unfold DateTime.secondOfDay
      omega
    unfold DateTime.unixSeconds
    omega

end HexeVoice.Library.Gregorian
