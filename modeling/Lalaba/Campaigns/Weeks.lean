import Lalaba.Campaigns.Frequency
import Mathlib.Data.String.Basic

/-!
# Week keys

The key of a week is the year its Thursday falls in and its number among the Thursdays
of that year.  A year has 52 or 53 Thursdays, so the number has two digits, and the
year and the number give the Thursday back.  With years of four digits the keys are
ordered as texts in the way the weeks are.
-/

namespace Lalaba.Campaigns

open Bookings (CivilDate phDay civilOf civilOf_bounds number_civilOf
  twoDigits fourDigits digit digitValue_digit daysBeforeYear
  daysBeforeMonth MS_PER_DAY PH_OFFSET_MS)

/-! ## Any instant -/

def manilaDay (instant : ℤ) : ℤ := (instant + PH_OFFSET_MS) / MS_PER_DAY

def weekOf (day : ℤ) : ℤ := (day + 3) / 7

def isoYearOf (day : ℤ) : ℤ := (civilOf (thursdayOf day)).year

def firstThursdayOf (year : ℤ) : ℤ := thursdayOf ({ year, month := 1, day := 4 } : CivilDate).number

def weekNumberOf (day : ℤ) : ℤ := 1 + (thursdayOf day - firstThursdayOf (isoYearOf day)) / 7

/-- `businessWeekKey`, by the Manila day of its date. -/
def weekKeyOf (day : ℤ) : String :=
  toString (isoYearOf day) ++ "-W" ++ String.ofList (twoDigits (weekNumberOf day))

/-- `businessWeekKey`, of any instant. -/
def businessWeekKeyAt (instant : ℤ) : String := weekKeyOf (civilOf (manilaDay instant)).number

theorem manilaDay_natCast (now : Instant) : manilaDay (now : ℕ) = phDay now := by
  unfold manilaDay phDay
  push_cast
  rfl

theorem businessWeekKeyAt_eq (instant : ℤ) :
    businessWeekKeyAt instant = weekKeyOf (manilaDay instant) := by
  rw [businessWeekKeyAt, number_civilOf]

theorem businessWeekKeyAt_natCast (now : Instant) :
    businessWeekKeyAt (now : ℕ) = businessWeekKey now := by
  rw [businessWeekKeyAt, manilaDay_natCast]
  rfl

def newYear (year : ℤ) : ℤ := ({ year, month := 1, day := 1 } : CivilDate).number

theorem newYear_eq (year : ℤ) :
    newYear year = 365 * (year - 1) + (year - 1) / 4 - (year - 1) / 100 +
      (year - 1) / 400 - 719162 := by
  unfold newYear CivilDate.number daysBeforeYear daysBeforeMonth
  norm_num
  omega

theorem newYear_mono {year year' : ℤ} (later : year ≤ year') : newYear year ≤ newYear year' := by
  rw [newYear_eq, newYear_eq]
  omega

theorem newYear_next (year : ℤ) : newYear (year + 1) ≤ newYear year + 366 := by
  rw [newYear_eq, newYear_eq]
  omega

theorem number_bounds {date : CivilDate} (months : 1 ≤ date.month)
    (most : date.month ≤ 12) (days : 1 ≤ date.day) (few : date.day ≤ 31) :
    newYear date.year ≤ date.number ∧ date.number < newYear (date.year + 1) := by
  rw [newYear_eq, newYear_eq]
  unfold CivilDate.number daysBeforeYear daysBeforeMonth
  dsimp only
  by_cases early : date.month ≤ 2
  · simp only [early, if_true]
    omega
  · simp only [early, if_false]
    omega

theorem year_bounds (day : ℤ) :
    newYear (civilOf day).year ≤ day ∧ day < newYear ((civilOf day).year + 1) := by
  have parts := civilOf_bounds day
  have bounds := number_bounds parts.1 parts.2.1 parts.2.2.1 parts.2.2.2
  rwa [number_civilOf] at bounds

theorem lt_of_year_lt {day day' : ℤ}
    (later : (civilOf day).year < (civilOf day').year) : day < day' :=
  ((year_bounds day).2.trans_le (newYear_mono later)).trans_le (year_bounds day').1

theorem firstThursdayOf_eq (year : ℤ) : firstThursdayOf year = (newYear year + 6) / 7 * 7 := by
  have fourth : ({ year, month := 1, day := 4 } : CivilDate).number = newYear year + 3 := by
    unfold newYear CivilDate.number
    dsimp only
    omega
  rw [firstThursdayOf, thursdayOf_eq, fourth]
  omega

section

variable {day day' : ℤ}

theorem thursdayOf_number (day : ℤ) :
    thursdayOf day = firstThursdayOf (isoYearOf day) + 7 * (weekNumberOf day - 1) := by
  have whole := thursdayOf_eq day
  have first := firstThursdayOf_eq (isoYearOf day)
  unfold weekNumberOf
  omega

theorem weekNumberOf_bounds (day : ℤ) : 1 ≤ weekNumberOf day ∧ weekNumberOf day ≤ 53 := by
  have bounds := year_bounds (thursdayOf day)
  have next := newYear_next (isoYearOf day)
  have whole := thursdayOf_eq day
  have first := firstThursdayOf_eq (isoYearOf day)
  rw [← isoYearOf] at bounds
  unfold weekNumberOf
  omega

theorem weekOf_eq_iff :
    weekOf day = weekOf day' ↔
      isoYearOf day = isoYearOf day' ∧ weekNumberOf day = weekNumberOf day' := by
  have thursday := thursdayOf_eq day
  have thursday' := thursdayOf_eq day'
  constructor
  · intro same
    have one : thursdayOf day = thursdayOf day' := by
      unfold weekOf at same
      omega
    have years : isoYearOf day = isoYearOf day' := by
      rw [isoYearOf, isoYearOf, one]
    exact ⟨years, by rw [weekNumberOf, weekNumberOf, one, years]⟩
  · rintro ⟨years, numbers⟩
    have counted := thursdayOf_number day
    have counted' := thursdayOf_number day'
    rw [years, numbers] at counted
    unfold weekOf
    omega

theorem weekOf_lt_iff :
    weekOf day < weekOf day' ↔
      isoYearOf day < isoYearOf day' ∨
        isoYearOf day = isoYearOf day' ∧ weekNumberOf day < weekNumberOf day' := by
  have thursday := thursdayOf_eq day
  have thursday' := thursdayOf_eq day'
  have counted := thursdayOf_number day
  have counted' := thursdayOf_number day'
  unfold weekOf
  rcases lt_trichotomy (isoYearOf day) (isoYearOf day') with
    earlier | same | later
  · have before := lt_of_year_lt earlier
    constructor
    · exact fun _ => .inl earlier
    · intro _
      omega
  · rw [same] at counted
    constructor
    · intro before
      exact .inr ⟨same, by omega⟩
    · rintro (earlier | ⟨-, before⟩)
      · omega
      · omega
  · have after := lt_of_year_lt later
    constructor
    · intro before
      omega
    · rintro (earlier | ⟨same, -⟩)
      · omega
      · omega

theorem isoYearOf_ge (recent : 1000 ≤ (civilOf day).year) : 1000 ≤ isoYearOf day := by
  have first := newYear_mono recent
  have bounds := (year_bounds day).1
  have bounds' := (year_bounds (thursdayOf day)).2
  have whole := thursdayOf_eq day
  -- The first of January 1000 was a Wednesday.
  have january : newYear 1000 = -354285 := by decide +kernel
  by_contra early
  have next := newYear_mono (not_le.mp early : isoYearOf day < 1000)
  rw [← isoYearOf] at bounds'
  omega

theorem isoYearOf_le (near : (civilOf day).year ≤ 9999) : isoYearOf day ≤ 9999 := by
  have last := newYear_mono (by omega : (civilOf day).year + 1 ≤ 10000)
  have bounds := (year_bounds day).2
  have bounds' := (year_bounds (thursdayOf day)).1
  have whole := thursdayOf_eq day
  -- The last of December 9999 is a Friday.
  have january : newYear 10000 = 2932897 := by decide +kernel
  by_contra late
  have next := newYear_mono (not_le.mp late : 9999 < isoYearOf day)
  rw [← isoYearOf] at bounds'
  norm_num at next
  omega

end

/-! ## Keys -/

theorem digit_eq_iff {first second : ℤ} :
    digit first = digit second ↔ first % 10 = second % 10 := by
  constructor
  · intro same
    have read := digitValue_digit first
    rw [same, digitValue_digit] at read
    exact (Option.some.inj read).symm
  · intro same
    rw [digit, digit, same]

theorem digit_lt_iff {first second : ℤ} :
    digit first < digit second ↔ first % 10 < second % 10 := by
  have ordered : ∀ least most : Fin 10,
      (Nat.digitChar least < Nat.digitChar most ↔ least < most) := by
    decide
  have digits := ordered ⟨(first % 10).toNat, by omega⟩ ⟨(second % 10).toNat, by omega⟩
  rw [digit, digit, digits, Fin.mk_lt_mk]
  omega

theorem toList_toString_natCast (number : ℕ) :
    (toString (number : ℤ)).toList = Nat.toDigits 10 number := by
  have text : toString (number : ℤ) = number.repr := rfl
  rw [text, Nat.toList_repr]

theorem toList_toString {year : ℤ} (least : 1000 ≤ year)
    (most : year ≤ 9999) : (toString year).toList = fourDigits year := by
  lift year to ℕ using by omega
  have thousands := Nat.toDigits_of_lt_base (by omega : year / 10 / 10 / 10 < 10)
  have hundreds := Nat.toDigits_of_base_le (by omega : 1 < 10) (by omega : 10 ≤ year / 10 / 10)
  have tens := Nat.toDigits_of_base_le (by omega : 1 < 10) (by omega : 10 ≤ year / 10)
  have units := Nat.toDigits_of_base_le (by omega : 1 < 10) (by omega : 10 ≤ year)
  have split (part : ℕ) {whole : ℤ} (same : whole % 10 = part) : digit whole = part.digitChar := by
    rw [digit, same, Int.toNat_natCast]
  rw [toList_toString_natCast, units, tens, hundreds, thousands]
  simp only [fourDigits, twoDigits, List.cons_append, List.nil_append]
  rw [split (year / 10 / 10 / 10) (by omega),
    split (year / 10 / 10 % 10) (by omega),
    split (year / 10 % 10) (by omega), split (year % 10) (by omega)]

theorem toString_inj {year year' : ℤ} (least : 0 ≤ year)
    (least' : 0 ≤ year') (same : toString year = toString year') :
    year = year' := by
  lift year to ℕ using least
  lift year' to ℕ using least'
  have digits : Nat.toDigits 10 year = Nat.toDigits 10 year' := by
    rw [← toList_toString_natCast, ← toList_toString_natCast, same]
  have value := @Nat.ofDigitChars_ten_toDigits year
  rw [digits, Nat.ofDigitChars_ten_toDigits] at value
  rw [value]

section

variable {day day' : ℤ}

theorem toList_weekKeyOf (day : ℤ) :
    (weekKeyOf day).toList = (toString (isoYearOf day)).toList ++
      '-' :: 'W' :: twoDigits (weekNumberOf day) := by
  have middle : "-W".toList = ['-', 'W'] := by decide
  simp only [weekKeyOf, String.toList_append, String.toList_ofList, middle,
    List.append_assoc, List.cons_append, List.nil_append]

theorem weekKeyOf_eq_iff (least : 0 ≤ isoYearOf day)
    (least' : 0 ≤ isoYearOf day') :
    weekKeyOf day = weekKeyOf day' ↔ weekOf day = weekOf day' := by
  rw [weekOf_eq_iff, ← String.toList_inj, toList_weekKeyOf, toList_weekKeyOf]
  constructor
  · intro same
    -- The part after the year is four characters long in both.
    obtain ⟨years, rest⟩ := List.append_inj' same rfl
    have bounds := weekNumberOf_bounds day
    have bounds' := weekNumberOf_bounds day'
    simp only [twoDigits, List.cons.injEq, true_and, and_true, digit_eq_iff] at rest
    exact ⟨toString_inj least least' (String.toList_inj.mp years), by omega⟩
  · rintro ⟨years, numbers⟩
    rw [years, numbers]

theorem weekKeyOf_lt_iff (least : 1000 ≤ isoYearOf day)
    (most : isoYearOf day ≤ 9999) (least' : 1000 ≤ isoYearOf day')
    (most' : isoYearOf day' ≤ 9999) :
    weekKeyOf day < weekKeyOf day' ↔ weekOf day < weekOf day' := by
  have bounds := weekNumberOf_bounds day
  have bounds' := weekNumberOf_bounds day'
  rw [weekOf_lt_iff, String.lt_iff_toList_lt, toList_weekKeyOf,
    toList_weekKeyOf, toList_toString least most, toList_toString least' most']
  simp only [fourDigits, twoDigits, List.cons_append, List.nil_append,
    List.cons_lt_cons_iff, digit_lt_iff, digit_eq_iff, lt_irrefl,
    false_or, true_and, and_false, or_false]
  omega

end

end Lalaba.Campaigns
