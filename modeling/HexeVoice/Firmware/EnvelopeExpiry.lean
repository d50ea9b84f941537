import HexeVoice.Library.Gregorian
import HexeVoice.Recovery.Envelopes

/-!
# When an envelope expires

`parse_iso_utc_seconds` and `expired_envelope` of `system/ble_provisioning.cpp`: a timestamp is scanned,
turned into seconds since 1970 and compared with the clock.

## The model

The scanner is that of the recovery firmware, which has the same call of `sscanf`. Each operation on an
`int`, an `unsigned` and an `int64_t` is rounded to its 32 or 64 bits.

## What is proved

**`gregorian_expiry`**: with the suffix Z the seconds are those of the Gregorian calendar, they grow with
the instant, and the expiry is that instant; with another offset from UTC the timestamp is rejected or
converted exactly if the offset is zero.
-/

namespace HexeVoice.Firmware.EnvelopeExpiry

open HexeVoice.Library HexeVoice.Library.Gregorian
open HexeVoice.Recovery.Envelopes (isDigit isSpace scanDigits scanNumber scanInt scanChar)

/-! ### The arithmetic of the target -/

/-- `int`. -/
def int32 (x : ℤ) : ℤ := Int.bmod x (2 ^ 32)

/-- `unsigned`. -/
def uint32 (x : ℤ) : ℤ := x % 2 ^ 32

/-- `int64_t`. -/
def int64 (x : ℤ) : ℤ := Int.bmod x (2 ^ 64)

theorem int32_eq {x : ℤ} (hlow : -2 ^ 31 ≤ x) (hhigh : x < 2 ^ 31) : int32 x = x :=
  Int.bmod_eq_of_le (by omega) (by omega)

theorem uint32_eq {x : ℤ} (hlow : 0 ≤ x) (hhigh : x < 2 ^ 32) : uint32 x = x :=
  Int.emod_eq_of_lt hlow hhigh

theorem int64_eq {x : ℤ} (hlow : -2 ^ 63 ≤ x) (hhigh : x < 2 ^ 63) : int64 x = x :=
  Int.bmod_eq_of_le (by omega) (by omega)

/-! ### The timestamp -/

/-- What `sscanf` reads. -/
structure Fields where
  year : ℤ
  month : ℤ
  day : ℤ
  hour : ℤ
  minute : ℤ
  second : ℤ

/-- `std::sscanf(expires_at, "%4d-%2d-%2dT%2d:%2d:%2d", ...)`, where all six are read. -/
def scanFields (cs : List UInt8) : Option Fields := do
  let (year, cs) ← scanInt 4 cs
  let cs ← scanChar 45 cs
  let (month, cs) ← scanInt 2 cs
  let cs ← scanChar 45 cs
  let (day, cs) ← scanInt 2 cs
  let cs ← scanChar 84 cs
  let (hour, cs) ← scanInt 2 cs
  let cs ← scanChar 58 cs
  let (minute, cs) ← scanInt 2 cs
  let cs ← scanChar 58 cs
  let (second, _) ← scanInt 2 cs
  some { year, month, day, hour, minute, second }

/-- The ranges that are checked. -/
def Fields.inRange (fields : Fields) : Bool :=
  1 ≤ fields.month && fields.month ≤ 12 && 1 ≤ fields.day && fields.day ≤ 31 && 0 ≤ fields.hour &&
    fields.hour ≤ 23 && 0 ≤ fields.minute && fields.minute ≤ 59 && 0 ≤ fields.second &&
    fields.second ≤ 60

/-- `year -= month <= 2`. -/
def Fields.shiftedYear (fields : Fields) : ℤ :=
  int32 (fields.year - if fields.month ≤ 2 then 1 else 0)

/-- `era`. -/
def Fields.era (fields : Fields) : ℤ :=
  (if 0 ≤ fields.shiftedYear then fields.shiftedYear else int32 (fields.shiftedYear - 399)).tdiv 400

/-- `yoe`. -/
def Fields.yearOfEra (fields : Fields) : ℤ :=
  uint32 (int32 (fields.shiftedYear - int32 (fields.era * 400)))

/-- `doy`. -/
def Fields.dayOfYear (fields : Fields) : ℤ :=
  let shiftedMonth := uint32 (int32 (fields.month + if 2 < fields.month then -3 else 9))
  uint32 (uint32 (uint32 (uint32 (153 * shiftedMonth) + 2) / 5 + uint32 fields.day) - 1)

/-- `doe`. -/
def Fields.dayOfEra (fields : Fields) : ℤ :=
  let yoe := fields.yearOfEra
  uint32 (uint32 (uint32 (uint32 (yoe * 365) + yoe / 4) - yoe / 100) + fields.dayOfYear)

/-- `days`. -/
def Fields.days (fields : Fields) : ℤ :=
  int64 (int64 (int64 (fields.era * 146097) + fields.dayOfEra) - 719468)

/-- `unix_seconds`. -/
def Fields.unixSeconds (fields : Fields) : ℤ :=
  int64 (int64 (int64 (int64 (fields.days * 86400) + int32 (fields.hour * 3600)) +
    int32 (fields.minute * 60)) + fields.second)

/-- `parse_iso_utc_seconds`; `none` for a null pointer, and where it gives false. -/
def parseIsoUtcSeconds (expiresAt : Option CString) : Option ℤ := do
  let expiresAt ← expiresAt
  let fields ← scanFields expiresAt.bytes
  if fields.inRange then some fields.unixSeconds else none

/-- `expired_envelope`, with the time of the clock in milliseconds, where it is known: the error that is
set, if the envelope is expired. -/
def expiredEnvelope (expiresAt : Option CString) (nowMs : Option ℤ) : Option String :=
  match parseIsoUtcSeconds expiresAt with
  | none => some "invalid_payload"
  | some expiresS =>
    match nowMs with
    | none => none
    | some nowMs => if int64 (expiresS * 1000) ≤ nowMs then some "invalid_payload" else none

/-! ### The formula -/

/-- The fields of a time. -/
def fieldsOf (time : DateTime) : Fields where
  year := time.year
  month := time.month
  day := time.day
  hour := time.hour
  minute := time.minute
  second := time.second

variable {time : DateTime}

theorem monthLength_le (year month : ℕ) : monthLength year month ≤ 31 := by
  unfold monthLength
  split
  · split_ifs <;> omega
  all_goals omega

theorem day_le_31 (time : DateTime) : time.day ≤ 31 :=
  time.day_le.trans (monthLength_le time.year time.month)

theorem inRange_fieldsOf (time : DateTime) : (fieldsOf time).inRange = true := by
  have := time.one_le_month
  have := time.month_le
  have := time.one_le_day
  have := day_le_31 time
  have := time.hour_lt
  have := time.minute_lt
  have := time.second_lt
  simp [Fields.inRange, fieldsOf]
  omega

/-- The year that begins in March. -/
def marchYear (time : DateTime) : ℕ := time.year - if time.month ≤ 2 then 1 else 0

theorem shiftedYear_eq (h : time.year ≤ 9999) : (fieldsOf time).shiftedYear = marchYear time := by
  have := time.one_le_year
  have hshift : (fieldsOf time).shiftedYear =
      int32 (time.year - if (time.month : ℤ) ≤ 2 then 1 else 0) := rfl
  rw [hshift, marchYear]
  split_ifs with hlong hshort hshort
  · rw [int32_eq (by omega) (by omega)]
    omega
  · omega
  · omega
  · rw [int32_eq (by omega) (by omega)]
    omega

theorem era_eq (h : time.year ≤ 9999) : (fieldsOf time).era = (marchYear time / 400 : ℕ) := by
  rw [Fields.era, shiftedYear_eq h, if_pos (Int.natCast_nonneg _),
    Int.tdiv_eq_ediv_of_nonneg (Int.natCast_nonneg _)]
  rfl

theorem marchYear_le (h : time.year ≤ 9999) : marchYear time ≤ 9999 :=
  (Nat.sub_le _ _).trans h

theorem yearOfEra_eq (h : time.year ≤ 9999) :
    (fieldsOf time).yearOfEra = (marchYear time % 400 : ℕ) := by
  have := marchYear_le h
  rw [Fields.yearOfEra, shiftedYear_eq h, era_eq h, int32_eq (x := _ * 400) (by omega) (by omega),
    int32_eq (by omega) (by omega), uint32_eq (by omega) (by omega)]
  omega

theorem dayOfYear_eq (time : DateTime) : (fieldsOf time).dayOfYear =
    ((153 * (if 2 < time.month then time.month - 3 else time.month + 9) + 2) / 5 + time.day - 1 :
      ℕ) := by
  have := time.one_le_month
  have := time.month_le
  have := time.one_le_day
  have := day_le_31 time
  have hday : (fieldsOf time).day = time.day := rfl
  have hmonth : (fieldsOf time).month = time.month := rfl
  simp only [Fields.dayOfYear, hday, hmonth]
  by_cases hlate : 2 < time.month
  · have hlate' : (2 : ℤ) < time.month := by omega
    rw [if_pos hlate, if_pos hlate']
    simp (disch := omega) only [int32_eq, uint32_eq]
    omega
  · have hlate' : ¬ (2 : ℤ) < time.month := by omega
    rw [if_neg hlate, if_neg hlate']
    simp (disch := omega) only [int32_eq, uint32_eq]
    omega

theorem dayOfYear_le (time : DateTime) : (fieldsOf time).dayOfYear ≤ 400 := by
  have := time.month_le
  have := day_le_31 time
  rw [dayOfYear_eq]
  split_ifs <;> omega

/-- The years of an era add up. -/
theorem era_sum (year : ℕ) : (year / 400) * 146097 + (year % 400) * 365 + year % 400 / 4 +
    year / 100 = 365 * year + year / 4 + year / 400 + year % 400 / 100 := by
  omega

theorem epoch_ordinal : Date.epoch.ordinal = 719162 := by
  have hyear : daysBeforeYear 1970 + 1969 / 100 = 365 * 1969 + 1969 / 4 + 1969 / 400 :=
    daysBeforeYear_eq 1969
  have hmonth : daysBeforeMonth 1970 1 = 0 := rfl
  simp only [Date.ordinal, Date.epoch, hmonth]
  omega

/-- **The formula counts the days since 1970.** -/
theorem days_eq (h : time.year ≤ 9999) :
    (fieldsOf time).days = time.toDate.ordinal - Date.epoch.ordinal := by
  have hmarch := marchYear_le h
  have hle := dayOfYear_le time
  have hnonneg : 0 ≤ (fieldsOf time).dayOfYear := by
    rw [dayOfYear_eq]
    exact Int.natCast_nonneg _
  have hdoe : (fieldsOf time).dayOfEra = (marchYear time % 400 : ℕ) * 365 +
      (marchYear time % 400 : ℕ) / 4 - (marchYear time % 400 : ℕ) / 100 +
        (fieldsOf time).dayOfYear := by
    simp only [Fields.dayOfEra, yearOfEra_eq h]
    simp (disch := omega) only [uint32_eq]
  have hdays : (fieldsOf time).days = (marchYear time / 400 : ℕ) * 146097 +
      (fieldsOf time).dayOfEra - 719468 := by
    simp only [Fields.days, era_eq h]
    simp (disch := omega) only [int64_eq]
  have hera := era_sum (marchYear time)
  obtain ⟨before, hyear⟩ := Nat.exists_eq_add_of_le' time.one_le_year
  have hcount := daysBeforeYear_eq before
  have hmonths := daysBeforeMonth_eq time.year time.one_le_month time.month_le
  have := time.one_le_month
  have := time.one_le_day
  have hordinal : time.toDate.ordinal =
      daysBeforeYear (before + 1) + daysBeforeMonth time.year time.month + (time.day - 1) := by
    rw [Date.ordinal, hyear]
  rw [hdays, hdoe, dayOfYear_eq, hordinal, epoch_ordinal]
  by_cases hlate : 2 < time.month
  · -- from March on, the year is the calendar's
    have hmarchYear : marchYear time = before + 1 := by
      rw [marchYear, if_neg (by omega), hyear]
      rfl
    rw [if_neg (by omega)] at hmonths
    rw [if_pos hlate]
    rw [hmarchYear] at hera ⊢
    have hnext := daysBeforeYear_eq (before + 1)
    have hlength := daysBeforeYear_succ (Nat.le_add_left 1 before)
    rw [yearLength, ← hyear] at hlength
    by_cases hleap : IsLeap time.year
    · rw [if_pos hleap] at hmonths hlength
      rw [hyear] at hlength
      omega
    · rw [if_neg hleap] at hmonths hlength
      rw [hyear] at hlength
      omega
  · -- January and February are in the year before
    have hmarchYear : marchYear time = before := by
      rw [marchYear, if_pos (by omega), hyear]
      rfl
    rw [if_pos (by omega)] at hmonths
    rw [if_neg hlate]
    rw [hmarchYear] at hera ⊢
    omega

/-- **The seconds are those of the calendar.** -/
theorem unixSeconds_eq (h : time.year ≤ 9999) : (fieldsOf time).unixSeconds = time.unixSeconds := by
  have hdays := days_eq h
  have hyear := time.toDate.ordinal_lt_year
  have hbound : daysBeforeYear (time.year + 1) ≤ daysBeforeYear (9999 + 1) :=
    daysBeforeYear_mono (Nat.succ_le_succ h)
  have hlast := daysBeforeYear_eq 9999
  have hepoch := epoch_ordinal
  have := time.hour_lt
  have := time.minute_lt
  have := time.second_lt
  have hhour : (fieldsOf time).hour = time.hour := rfl
  have hminute : (fieldsOf time).minute = time.minute := rfl
  have hsecond : (fieldsOf time).second = time.second := rfl
  simp only [Fields.unixSeconds, hdays, hhour, hminute, hsecond, DateTime.unixSeconds,
    DateTime.secondOfDay]
  simp (disch := omega) only [int64_eq, int32_eq]
  push_cast
  ring

/-! ### The scanner -/

/-- A decimal digit. -/
def digit (n : ℕ) : UInt8 := UInt8.ofNat (48 + n % 10)

/-- Two digits. -/
def twoDigits (n : ℕ) : List UInt8 := [digit (n / 10), digit n]

/-- Four digits. -/
def fourDigits (n : ℕ) : List UInt8 := [digit (n / 1000), digit (n / 100), digit (n / 10), digit n]

theorem toNat_digit (n : ℕ) : (digit n).toNat = 48 + n % 10 := by
  rw [digit, UInt8.toNat_ofNat']
  exact Nat.mod_eq_of_lt (by omega)

theorem isDigit_digit (n : ℕ) : isDigit (digit n) = true := by
  have hlow : (48 : UInt8) ≤ digit n := by
    rw [UInt8.le_iff_toNat_le, toNat_digit]
    exact Nat.le_add_right 48 _
  have hhigh : digit n ≤ 57 := by
    rw [UInt8.le_iff_toNat_le, toNat_digit]
    show 48 + n % 10 ≤ 57
    omega
  simp [isDigit, hlow, hhigh]

/-- A digit is no space and no sign. -/
theorem scanInt_digit (width n : ℕ) (cs : List UInt8) :
    scanInt width (digit n :: cs) = scanNumber width (digit n :: cs) := by
  have hlow : 48 ≤ (digit n).toNat := by rw [toNat_digit]; omega
  have hspace : isSpace (digit n) = false := by
    simp only [isSpace, Bool.or_eq_false_iff, Bool.and_eq_false_iff, decide_eq_false_iff_not,
      UInt8.le_iff_toNat_le]
    refine ⟨fun h => ?_, .inr fun h => ?_⟩
    · rw [h] at hlow
      exact absurd hlow (by decide)
    · have h13 : (13 : UInt8).toNat = 13 := rfl
      omega
  have hplus : digit n ≠ 43 := fun h => absurd (h ▸ hlow) (by decide)
  have hminus : digit n ≠ 45 := fun h => absurd (h ▸ hlow) (by decide)
  unfold scanInt
  rw [List.dropWhile_cons_of_neg (by simp [hspace])]
  split
  · rename_i heq
    exact absurd (List.cons.inj heq).1 hplus
  · rename_i heq
    exact absurd (List.cons.inj heq).1 hminus
  · rfl

theorem scanNumber_digit (width n : ℕ) (cs : List UInt8) :
    scanNumber (width + 1) (digit n :: cs) = some (scanDigits 0 (width + 1) (digit n :: cs)) := by
  simp [scanNumber, isDigit_digit]

theorem scanDigits_digit (value : ℤ) (width n : ℕ) (cs : List UInt8) :
    scanDigits value (width + 1) (digit n :: cs) =
      scanDigits (value * 10 + (n % 10 : ℕ)) width cs := by
  rw [scanDigits, if_pos (isDigit_digit n), toNat_digit]
  push_cast
  ring_nf

/-- Two digits are a number below 100. -/
theorem scanInt_twoDigits {n : ℕ} (h : n < 100) (cs : List UInt8) :
    scanInt 2 (twoDigits n ++ cs) = some ((n : ℤ), cs) := by
  rw [twoDigits, List.cons_append, List.cons_append, List.nil_append, scanInt_digit,
    scanNumber_digit, scanDigits_digit, scanDigits_digit, scanDigits]
  congr 2
  omega

/-- Four digits are a number below 10000. -/
theorem scanInt_fourDigits {n : ℕ} (h : n < 10000) (cs : List UInt8) :
    scanInt 4 (fourDigits n ++ cs) = some ((n : ℤ), cs) := by
  rw [fourDigits, List.cons_append, List.cons_append, List.cons_append, List.cons_append,
    List.nil_append, scanInt_digit, scanNumber_digit, scanDigits_digit, scanDigits_digit,
    scanDigits_digit, scanDigits_digit, scanDigits]
  congr 2
  omega

/-- The text of a time, `YYYY-MM-DDTHH:MM:SS`. -/
def isoText (time : DateTime) : List UInt8 :=
  fourDigits time.year ++ 45 :: (twoDigits time.month ++ 45 :: (twoDigits time.day ++
    84 :: (twoDigits time.hour ++ 58 :: (twoDigits time.minute ++ 58 :: twoDigits time.second))))

/-- **The scanner reads a time**, and ignores what follows it. -/
theorem scanFields_isoText (h : time.year ≤ 9999) (rest : List UInt8) :
    scanFields (isoText time ++ rest) = some (fieldsOf time) := by
  have := time.month_le
  have := day_le_31 time
  have := time.hour_lt
  have := time.minute_lt
  have := time.second_lt
  simp only [isoText, List.append_assoc, List.cons_append, scanFields, scanChar,
    scanInt_fourDigits (Nat.lt_succ_of_le h), scanInt_twoDigits (show time.month < 100 by omega),
    scanInt_twoDigits (show time.day < 100 by omega),
    scanInt_twoDigits (show time.hour < 100 by omega),
    scanInt_twoDigits (show time.minute < 100 by omega),
    scanInt_twoDigits (show time.second < 100 by omega), List.head?_cons, List.tail_cons, if_true,
    Option.bind_eq_bind, Option.bind_some]
  rfl

/-! ### The suffix -/

/-- How an offset from UTC is written: `+hh:mm`, `+hhmm` or `+hh`. -/
inductive OffsetForm where
  | extended
  | basic
  | hours
  deriving DecidableEq

/-- An offset from UTC. -/
structure UtcOffset where
  negative : Bool
  hours : ℕ
  minutes : ℕ
  form : OffsetForm
  hours_lt : hours < 24
  minutes_lt : minutes < 60
  /-- Minutes that are not written are none. -/
  minutes_eq : form = .hours → minutes = 0

/-- The suffix. -/
def UtcOffset.text (offset : UtcOffset) : List UInt8 :=
  (if offset.negative then 45 else 43) :: (twoDigits offset.hours ++
    match offset.form with
    | .extended => 58 :: twoDigits offset.minutes
    | .basic => twoDigits offset.minutes
    | .hours => [])

/-- The offset in seconds. -/
def UtcOffset.seconds (offset : UtcOffset) : ℤ :=
  let seconds : ℤ := offset.hours * 3600 + offset.minutes * 60
  if offset.negative then -seconds else seconds

/-- The text is converted by its offset, or rejected. -/
def ConvertedOrRejected (time : DateTime) (offset : UtcOffset) (text : CString) : Prop :=
  parseIsoUtcSeconds (some text) = none ∨
    parseIsoUtcSeconds (some text) = some (time.unixSeconds - offset.seconds)

/-- What follows the seconds does not matter. -/
theorem parseIsoUtcSeconds_isoText (h : time.year ≤ 9999) {rest : List UInt8} {text : CString}
    (htext : text.bytes = isoText time ++ rest) :
    parseIsoUtcSeconds (some text) = some time.unixSeconds := by
  simp only [parseIsoUtcSeconds, Option.bind_eq_bind, Option.bind_some, htext,
    scanFields_isoText h, inRange_fieldsOf, if_true, unixSeconds_eq h]

/-- With the suffix Z, the seconds are those of the calendar, those of a later time are greater, and the
envelope is expired from that instant on. -/
def GregorianUtc (time : DateTime) (text : CString) : Prop :=
  parseIsoUtcSeconds (some text) = some time.unixSeconds ∧
    (∀ (later : DateTime) (laterText : CString), time.Before later → later.year ≤ 9999 →
      laterText.bytes = isoText later ++ [90] →
        ∃ seconds laterSeconds, parseIsoUtcSeconds (some text) = some seconds ∧
          parseIsoUtcSeconds (some laterText) = some laterSeconds ∧ seconds < laterSeconds) ∧
    ∀ nowMs, expiredEnvelope (some text) (some nowMs) =
      if time.unixSeconds * 1000 ≤ nowMs then some "invalid_payload" else none

theorem gregorianUtc (h : time.year ≤ 9999) {text : CString}
    (htext : text.bytes = isoText time ++ [90]) : GregorianUtc time text := by
  have hparse := parseIsoUtcSeconds_isoText h htext
  refine ⟨hparse, fun later laterText hbefore hlater hlaterText => ?_, fun nowMs => ?_⟩
  · exact ⟨_, _, hparse, parseIsoUtcSeconds_isoText hlater hlaterText,
      DateTime.unixSeconds_lt_of_before hbefore⟩
  · have hbounds : int64 (time.unixSeconds * 1000) = time.unixSeconds * 1000 := by
      have hyear := time.toDate.ordinal_lt_year
      have hbound : daysBeforeYear (time.year + 1) ≤ daysBeforeYear (9999 + 1) :=
        daysBeforeYear_mono (Nat.succ_le_succ h)
      have hlast := daysBeforeYear_eq 9999
      have hepoch := epoch_ordinal
      have := time.secondOfDay_lt
      unfold DateTime.unixSeconds
      exact int64_eq (by omega) (by omega)
    simp only [expiredEnvelope, hparse, hbounds]

/-- **The expiry is Gregorian UTC.** -/
theorem gregorian_expiry (time : DateTime) (h : time.year ≤ 9999) (text : CString) :
    (text.bytes = isoText time ++ [90] → GregorianUtc time text) ∧
      ∀ offset : UtcOffset, text.bytes = isoText time ++ offset.text →
        (ConvertedOrRejected time offset text ↔ offset.hours = 0 ∧ offset.minutes = 0) := by
  refine ⟨gregorianUtc h, fun offset htext => ?_⟩
  have hzero : offset.seconds = 0 ↔ offset.hours = 0 ∧ offset.minutes = 0 := by
    simp only [UtcOffset.seconds]
    split_ifs <;> omega
  rw [← hzero, ConvertedOrRejected, parseIsoUtcSeconds_isoText h htext]
  simp only [reduceCtorEq, Option.some.injEq, false_or]
  constructor
  · intro hsame
    omega
  · intro hnone
    omega

/-- Noon of a leap day. -/
def leapNoon : DateTime :=
  ⟨⟨2024, 2, 29, by decide, by decide, by decide, by decide, by decide⟩, 12, 0, 0, by decide,
    by decide, by decide⟩

/-- Two hours ahead of UTC. -/
def twoHours : UtcOffset := ⟨false, 2, 0, .extended, by decide, by decide, by decide⟩

theorem leapNoon_expiry : GregorianUtc leapNoon (.ofAscii "2024-02-29T12:00:00Z") :=
  (gregorian_expiry leapNoon (by decide) _).1 (by decide)

/-- The offset of two hours is neither converted nor rejected. -/
theorem offset_ignored :
    CString.bytes (.ofAscii "2024-02-29T12:00:00+02:00") = isoText leapNoon ++ twoHours.text ∧
      parseIsoUtcSeconds (some (.ofAscii "2024-02-29T12:00:00+02:00")) =
        some leapNoon.unixSeconds ∧
      ¬ ConvertedOrRejected leapNoon twoHours (.ofAscii "2024-02-29T12:00:00+02:00") := by
  have htext : CString.bytes (.ofAscii "2024-02-29T12:00:00+02:00") =
      isoText leapNoon ++ twoHours.text := by decide
  have hparse := parseIsoUtcSeconds_isoText (show leapNoon.year ≤ 9999 by decide) htext
  refine ⟨htext, hparse, ?_⟩
  have hseconds : twoHours.seconds = 7200 := rfl
  rintro (hnone | hsome)
  · rw [hparse] at hnone
    cases hnone
  · rw [hparse, hseconds] at hsome
    have := Option.some.inj hsome
    omega

end HexeVoice.Firmware.EnvelopeExpiry
