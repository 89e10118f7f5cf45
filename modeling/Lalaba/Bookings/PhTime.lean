import Lalaba.Common
import Mathlib.Tactic.IntervalCases

/-!
# Philippine-local days

Every scheduling decision is made in the shared local day of a customer and a
provider.  A day is counted from the first of January 1970; its key is the text
`YYYY-MM-DD`.  A key is a real date when writing the day it names gives it back,
and every day of the years 0 to 9999 has such a key.
-/

namespace Lalaba.Bookings

abbrev Day : Type := ℤ

def PH_OFFSET_MS : ℕ := 8 * 3600 * 1000

def MS_PER_DAY : ℕ := 86400000

def phDay (now : Instant) : Day := ((now + PH_OFFSET_MS) / MS_PER_DAY : ℕ)

def phMinutesOfDay (now : Instant) : ℕ := (now + PH_OFFSET_MS) % MS_PER_DAY / 60000

def addDays (date : Day) (days : ℕ) : Day := date + (days : ℤ)

inductive DayKey where
  | sunday
  | monday
  | tuesday
  | wednesday
  | thursday
  | friday
  | saturday
deriving DecidableEq

def dayKeyOf (day : Day) : DayKey :=
  match ((day + 4) % 7).toNat with
  | 0 => .sunday
  | 1 => .monday
  | 2 => .tuesday
  | 3 => .wednesday
  | 4 => .thursday
  | 5 => .friday
  | _ => .saturday

/-! ## The civil calendar -/

/-- A date of the proleptic Gregorian calendar. -/
structure CivilDate where
  year : ℤ
  month : ℤ
  day : ℤ

def daysBeforeYear (yearOfEra : ℤ) : ℤ := yearOfEra * 365 + yearOfEra / 4 - yearOfEra / 100

def daysBeforeMonth (monthIndex : ℤ) : ℤ := (153 * monthIndex + 2) / 5

def centuryOf (dayOfEra : ℤ) : ℤ := (4 * dayOfEra + 3) / 146097

def yearOfCentury (dayOfCentury : ℤ) : ℤ := (4 * dayOfCentury + 3) / 1461

def yearOfEra (dayOfEra : ℤ) : ℤ :=
  centuryOf dayOfEra * 100 + yearOfCentury (dayOfEra - 36524 * centuryOf dayOfEra)

def dayOfYear (dayOfEra : ℤ) : ℤ := dayOfEra - daysBeforeYear (yearOfEra dayOfEra)

def monthIndexOf (dayOfYear : ℤ) : ℤ := (5 * dayOfYear + 2) / 153

def civilOf (day : ℤ) : CivilDate :=
  let dayOfEra := (day + 719468) % 146097
  let monthIndex := monthIndexOf (dayOfYear dayOfEra)
  { year := yearOfEra dayOfEra + (day + 719468) / 146097 * 400 +
      if monthIndex < 10 then 0 else 1
    month := if monthIndex < 10 then monthIndex + 3 else monthIndex - 9
    day := dayOfYear dayOfEra - daysBeforeMonth monthIndex + 1 }

def CivilDate.number (date : CivilDate) : ℤ :=
  let year := if date.month ≤ 2 then date.year - 1 else date.year
  let monthIndex :=
    if date.month ≤ 2 then date.month + 9 else date.month - 3
  year / 400 * 146097 + daysBeforeYear (year % 400) +
    daysBeforeMonth monthIndex + date.day - 1 - 719468

section

variable {dayOfEra : ℤ} (least : 0 ≤ dayOfEra) (most : dayOfEra < 146097)

include least most

theorem centuryOf_bounds : 0 ≤ centuryOf dayOfEra ∧ centuryOf dayOfEra ≤ 3 := by
  unfold centuryOf
  omega

theorem yearOfCentury_bounds :
    0 ≤ yearOfCentury (dayOfEra - 36524 * centuryOf dayOfEra) ∧
      yearOfCentury (dayOfEra - 36524 * centuryOf dayOfEra) ≤ 99 := by
  unfold yearOfCentury centuryOf
  omega

theorem yearOfEra_bounds : 0 ≤ yearOfEra dayOfEra ∧ yearOfEra dayOfEra < 400 := by
  have century := centuryOf_bounds least most
  have year := yearOfCentury_bounds least most
  unfold yearOfEra
  omega

theorem dayOfYear_bounds : 0 ≤ dayOfYear dayOfEra ∧ dayOfYear dayOfEra ≤ 365 := by
  have centuries := centuryOf_bounds least most
  have years := yearOfCentury_bounds least most
  unfold dayOfYear daysBeforeYear yearOfEra
  unfold yearOfCentury at *
  generalize centuryOf dayOfEra = century at *
  generalize doubled : (4 * (dayOfEra - 36524 * century) + 3) / 1461 = year at *
  -- Every fourth year is a day longer.
  have quarter : year % 4 = 0 ∨ year % 4 = 1 ∨ year % 4 = 2 ∨ year % 4 = 3 := by
    omega
  have hundreds : (century * 100 + year) / 100 = century := by omega
  have fourths : (century * 100 + year) / 4 = century * 25 + year / 4 := by
    omega
  rw [hundreds, fourths]
  rcases quarter with rest | rest | rest | rest <;> omega

end

theorem monthIndexOf_bounds {dayOfYear : ℤ} (least : 0 ≤ dayOfYear)
    (most : dayOfYear ≤ 365) :
    0 ≤ monthIndexOf dayOfYear ∧ monthIndexOf dayOfYear ≤ 11 := by
  unfold monthIndexOf
  omega

theorem civilOf_bounds (day : ℤ) :
    1 ≤ (civilOf day).month ∧ (civilOf day).month ≤ 12 ∧
      1 ≤ (civilOf day).day ∧ (civilOf day).day ≤ 31 := by
  have least : 0 ≤ (day + 719468) % 146097 := by omega
  have most : (day + 719468) % 146097 < 146097 := by omega
  have days := dayOfYear_bounds least most
  have months := monthIndexOf_bounds days.1 days.2
  unfold civilOf daysBeforeMonth
  dsimp only
  refine ⟨?_, ?_, ?_, ?_⟩
  · split <;> omega
  · split <;> omega
  · unfold monthIndexOf at *
    omega
  · unfold monthIndexOf at *
    omega

theorem number_mk {era year monthIndex day : ℤ} (years : 0 ≤ year)
    (before : year < 400) (months : 0 ≤ monthIndex)
    (within : monthIndex ≤ 11) :
    CivilDate.number
        { year := year + era * 400 + if monthIndex < 10 then 0 else 1
          month :=
            if monthIndex < 10 then monthIndex + 3 else monthIndex - 9
          day } =
      era * 146097 + daysBeforeYear year + daysBeforeMonth monthIndex + day - 1 - 719468 := by
  have inside : (year + era * 400) / 400 = era ∧ (year + era * 400) % 400 = year := by
    omega
  unfold CivilDate.number
  dsimp only
  by_cases early : monthIndex < 10
  · have later : ¬ monthIndex + 3 ≤ 2 := by omega
    simp only [early, later, if_true, if_false, add_zero, inside.1, inside.2, add_sub_cancel_right]
  · have later : monthIndex - 9 ≤ 2 := by omega
    simp only [early, later, if_true, if_false, add_sub_cancel_right,
      inside.1, inside.2, sub_add_cancel]

theorem number_civilOf (day : ℤ) : (civilOf day).number = day := by
  have least : 0 ≤ (day + 719468) % 146097 := by omega
  have most : (day + 719468) % 146097 < 146097 := by omega
  have years := yearOfEra_bounds least most
  have days := dayOfYear_bounds least most
  have months := monthIndexOf_bounds days.1 days.2
  rw [civilOf, number_mk years.1 years.2 months.1 months.2, dayOfYear]
  omega

/-! ## Keys -/

def digit (number : ℤ) : Char := Nat.digitChar (number % 10).toNat

def digitValue (digit : Char) : Option ℤ :=
  if digit.isDigit then some (digit.toNat - 48) else none

def twoDigits (number : ℤ) : List Char := [digit (number / 10), digit number]

def fourDigits (number : ℤ) : List Char := twoDigits (number / 100) ++ twoDigits number

def ofTwoDigits (tens units : Char) : Option ℤ := do
  let tens ← digitValue tens
  let units ← digitValue units
  return tens * 10 + units

/-- The date part of `toISOString`; years past 9999 are written signed. -/
def dateKey (day : ℤ) : String :=
  let date := civilOf day
  if 0 ≤ date.year ∧ date.year ≤ 9999 then
    String.ofList (fourDigits date.year ++ '-' :: twoDigits date.month ++ '-' :: twoDigits date.day)
  else
    let sign := if date.year < 0 then '-' else '+'
    let year := if date.year < 0 then -date.year else date.year
    String.ofList (sign :: twoDigits (year / 10000) ++ fourDigits year ++
      '-' :: twoDigits date.month)

/-- The day `Date.parse` reads from a text of the shape `YYYY-MM-DD`. -/
def dateNumber (key : String) : Option Day :=
  match key.toList with
  | [y, e, a, r, '-', m, o, '-', d, n] => do
      let century ← ofTwoDigits y e
      let year ← ofTwoDigits a r
      let month ← ofTwoDigits m o
      let day ← ofTwoDigits d n
      if 1 ≤ month ∧ month ≤ 12 ∧ 1 ≤ day ∧ day ≤ 31 then
        some ({ year := century * 100 + year, month, day } : CivilDate).number
      else
        none
  | _ => none

/-- Reject impossible dates, which `Date.parse` rolls into the next month. -/
def assertRealDate (date : String) : Except ServiceError Day :=
  match dateNumber date with
  | some day =>
    if dateKey day = date then
      .ok day
    else
      .error (.badRequest (date ++ " is not a real calendar date."))
  | none =>
    .error (.badRequest (date ++ " is not a real calendar date."))

theorem assertRealDate_key {date : String} {day : Day}
    (real : assertRealDate date = .ok day) : dateKey day = date := by
  unfold assertRealDate at real
  split at real
  · split at real
    · rename_i same
      cases real
      exact same
    · cases real
  · cases real

theorem digitValue_digit (number : ℤ) : digitValue (digit number) = some (number % 10) := by
  unfold digit
  have least : 0 ≤ number % 10 := by omega
  have most : number % 10 < 10 := by omega
  generalize number % 10 = last at *
  interval_cases last <;> rfl

theorem ofTwoDigits_digit {number : ℤ} (least : 0 ≤ number)
    (most : number ≤ 99) :
    ofTwoDigits (digit (number / 10)) (digit number) = some number := by
  simp only [ofTwoDigits, digitValue_digit, Option.pure_def,
    Option.bind_eq_bind, Option.bind_some, Option.some.injEq]
  omega

theorem assertRealDate_dateKey {day : ℤ}
    (least : 0 ≤ (civilOf day).year) (most : (civilOf day).year ≤ 9999) :
    assertRealDate (dateKey day) = .ok day := by
  have parts := civilOf_bounds day
  have read : dateNumber (dateKey day) = some day := by
    have century : ofTwoDigits (digit ((civilOf day).year / 100 / 10))
        (digit ((civilOf day).year / 100)) =
        some ((civilOf day).year / 100) :=
      ofTwoDigits_digit (by omega) (by omega)
    have year : ofTwoDigits (digit ((civilOf day).year / 10))
        (digit (civilOf day).year) =
        some ((civilOf day).year % 100) := by
      simp only [ofTwoDigits, digitValue_digit, Option.pure_def,
        Option.bind_eq_bind, Option.bind_some, Option.some.injEq]
      omega
    have month := @ofTwoDigits_digit (civilOf day).month (by omega) (by omega)
    have date := @ofTwoDigits_digit (civilOf day).day (by omega) (by omega)
    have whole : (civilOf day).year / 100 * 100 +
        (civilOf day).year % 100 = (civilOf day).year := by
      omega
    simp only [dateKey, least, most, and_self, if_true, fourDigits,
      twoDigits, List.cons_append, List.nil_append, dateNumber,
      String.toList_ofList, century, year, month, date,
      Option.bind_eq_bind, Option.bind_some, parts, whole]
    exact congrArg some (number_civilOf day)
  simp only [assertRealDate, read, if_true]

theorem digit_ne_dash (number : ℤ) : digit number ≠ '-' := by
  intro same
  have read := digitValue_digit number
  rw [same] at read
  cases read

theorem eq_of_assertRealDate {day read : ℤ}
    (real : assertRealDate (dateKey day) = .ok read) : read = day := by
  by_cases inside : 0 ≤ (civilOf day).year ∧ (civilOf day).year ≤ 9999
  · rw [assertRealDate_dateKey inside.1 inside.2] at real
    cases real
    rfl
  · -- A signed year has a digit where the first dash of a date stands.
    have unread : dateNumber (dateKey day) = none := by
      simp only [dateKey, inside, if_false, dateNumber, twoDigits,
        fourDigits, List.cons_append, List.nil_append, String.toList_ofList]
      split
      · rename_i equal
        simp only [List.cons.injEq] at equal
        exact (digit_ne_dash _ equal.2.2.2.2.1).elim
      · rfl
    rw [assertRealDate, unread] at real
    cases real

/-- `HH:MM` as minutes since midnight; nothing for anything malformed. -/
def parseHHMM (value : String) : Option ℕ := do
  let (h, m) ← match value.toList with
    | [h, ':', m, n] => do
        let hour ← digitValue h
        let minute ← ofTwoDigits m n
        some (hour, minute)
    | [h, i, ':', m, n] => do
        let hour ← ofTwoDigits h i
        let minute ← ofTwoDigits m n
        some (hour, minute)
    | _ => none
  if 23 < h ∨ 59 < m then none else some (h * 60 + m).toNat

/-- Minutes since midnight as `HH:MM`. -/
def formatHHMM (minutes : ℕ) : String :=
  let ofDay : ℤ := (minutes % 1440 : ℕ)
  String.ofList (twoDigits (ofDay / 60) ++ ':' :: twoDigits (ofDay % 60))

/-- Minutes since midnight as `8:00 AM`; without any, as `NaN` is written. -/
def formatHuman : Option ℕ → String
  | none => "NaN:NaN PM"
  | some minutes =>
    let ofDay := minutes % 1440
    let hour := ofDay / 60
    let hour12 := if hour % 12 = 0 then 12 else hour % 12
    toString hour12 ++ ":" ++
      String.ofList (twoDigits (ofDay % 60 : ℕ)) ++
        if hour < 12 then " AM" else " PM"

def HUMAN_DAYS : DayKey → String
  | .sunday => "Sun"
  | .monday => "Mon"
  | .tuesday => "Tue"
  | .wednesday => "Wed"
  | .thursday => "Thu"
  | .friday => "Fri"
  | .saturday => "Sat"

def HUMAN_MONTHS : List String :=
  ["Jan", "Feb", "Mar", "Apr", "May", "Jun", "Jul", "Aug", "Sep", "Oct", "Nov", "Dec"]

/-- `Mon, Aug 18`, the label an order keeps of its day. -/
def dayLabel (day : Day) : String :=
  let date := civilOf day
  HUMAN_DAYS (dayKeyOf day) ++ ", " ++
    HUMAN_MONTHS.getD (date.month - 1).toNat "" ++ " " ++ toString date.day

example : assertRealDate "2026-02-28" = .ok 20512 := by decide +kernel

example : dayLabel 20512 = "Sat, Feb 28" := by decide +kernel

end Lalaba.Bookings
