import Lalaba.Bookings.PhTime
import Lalaba.Orders.Callbacks

/-!
# How often a campaign is shown

The frequency of a campaign divides time into windows: the Manila day, the Manila ISO
week, or all time.  An impression is stored under a key that is computed from the
instant of the showing.  Two instants of one window have one key, and a periodic
impression is kept for much longer than its window lasts.
-/

namespace Lalaba.Campaigns

open Bookings (CivilDate phDay civilOf number_civilOf twoDigits MS_PER_DAY PH_OFFSET_MS)
open Orders (trimmed)

/-! ## Business time -/

/-- The calendar date in Manila, as `YYYY-MM-DD`. -/
def businessDayKey (now : Instant) : String :=
  let date := civilOf (phDay now)
  toString date.year ++ "-" ++ String.ofList (twoDigits date.month) ++ "-" ++
    String.ofList (twoDigits date.day)

/-- `getUTCDay() || 7`: the days of a week from Monday on. -/
def isoDayOfWeek (day : ℤ) : ℤ :=
  if (day + 4) % 7 = 0 then 7 else (day + 4) % 7

def thursdayOf (day : ℤ) : ℤ := day + 4 - isoDayOfWeek day

/-- ISO-8601 week key in Manila, as `YYYY-Www`. -/
def businessWeekKey (now : Instant) : String :=
  let d := thursdayOf (civilOf (phDay now)).number
  let isoYear := (civilOf d).year
  let firstThursday := thursdayOf ({ year := isoYear, month := 1, day := 4 } : CivilDate).number
  let week := 1 + (d - firstThursday) / 7
  toString isoYear ++ "-W" ++ String.ofList (twoDigits week)

def isoWeek (now : Instant) : ℤ := (phDay now + 3) / 7

theorem thursdayOf_eq (day : ℤ) : thursdayOf day = (day + 3) / 7 * 7 := by
  unfold thursdayOf isoDayOfWeek
  split <;> omega

theorem businessWeekKey_congr {first second : Instant}
    (same : isoWeek first = isoWeek second) :
    businessWeekKey first = businessWeekKey second := by
  have thursday : thursdayOf (phDay first) = thursdayOf (phDay second) := by
    rw [thursdayOf_eq, thursdayOf_eq]
    exact congrArg (· * 7) same
  simp only [businessWeekKey, number_civilOf, thursday]

theorem businessDayKey_congr {first second : Instant}
    (same : phDay first = phDay second) :
    businessDayKey first = businessDayKey second := by
  rw [businessDayKey, businessDayKey, same]

theorem lt_of_phDay_eq {first second : ℕ}
    (same : phDay first = phDay second) : second < first + MS_PER_DAY := by
  have same : (first + PH_OFFSET_MS) / MS_PER_DAY =
      (second + PH_OFFSET_MS) / MS_PER_DAY := Int.ofNat.inj same
  unfold MS_PER_DAY PH_OFFSET_MS at *
  omega

theorem lt_of_isoWeek_eq {first second : ℕ}
    (same : isoWeek first = isoWeek second) :
    second < first + 7 * MS_PER_DAY := by
  have same : (((first + PH_OFFSET_MS) / MS_PER_DAY : ℕ) + 3 : ℤ) / 7 =
      (((second + PH_OFFSET_MS) / MS_PER_DAY : ℕ) + 3 : ℤ) / 7 := same
  unfold MS_PER_DAY PH_OFFSET_MS at *
  omega

/-! ## Frequencies -/

inductive CampaignFrequency where
  | ONCE_EVER
  | DAILY
  | WEEKLY
  | EVERY_LOGIN
  | EVERY_APP_OPEN
deriving DecidableEq

def APP_OPEN_FLOOR_MINUTES : ℕ := 30

def PERIODIC_IMPRESSION_RETENTION_DAYS : ℕ := 180

def APP_OPEN_FLOOR_MS : ℕ := APP_OPEN_FLOOR_MINUTES * 60000

def RETENTION_MS : ℕ := PERIODIC_IMPRESSION_RETENTION_DAYS * 86400000

/-- The key of a showing; `none` where a login campaign has no session id. -/
def periodKeyFor (frequency : CampaignFrequency) (now : Instant)
    (sessionId : Option String) : Option String :=
  match frequency with
  | .ONCE_EVER => some "lifetime"
  | .DAILY => some ("day:" ++ businessDayKey now)
  | .WEEKLY => some ("week:" ++ businessWeekKey now)
  | .EVERY_LOGIN =>
    ((sessionId.map trimmed).filter (· ≠ "")).map ("login:" ++ ·)
  | .EVERY_APP_OPEN =>
    some ("open:" ++ toString (now / APP_OPEN_FLOOR_MS))

def impressionExpiryFor (frequency : CampaignFrequency) (now : Instant) :
    Option Instant :=
  match frequency with
  | .ONCE_EVER => none
  | _ => some (now + RETENTION_MS)

def CampaignFrequency.Allows :
    CampaignFrequency → Instant → Instant → Prop
  | .ONCE_EVER, _, _ => False
  | .DAILY, first, second => phDay first ≠ phDay second
  | .WEEKLY, first, second => isoWeek first ≠ isoWeek second
  | .EVERY_LOGIN, _, _ => True
  | .EVERY_APP_OPEN, first, second =>
    first + APP_OPEN_FLOOR_MS ≤ second ∨ second + APP_OPEN_FLOOR_MS ≤ first

def CampaignFrequency.span : CampaignFrequency → ℕ
  | .ONCE_EVER => 0
  | .DAILY => MS_PER_DAY
  | .WEEKLY => 7 * MS_PER_DAY
  | .EVERY_LOGIN => 0
  | .EVERY_APP_OPEN => APP_OPEN_FLOOR_MS

def CampaignFrequency.isFresh (clock now : Instant)
    (frequency : CampaignFrequency) : Bool :=
  match frequency with
  | .ONCE_EVER => true
  | .EVERY_LOGIN => true
  | _ => decide (clock + frequency.span ≤ now + RETENTION_MS)

section

variable {frequency : CampaignFrequency} {first second : Instant} {session session' : Option String}

theorem allows_of_span (periodic : frequency ≠ .ONCE_EVER)
    (later : first + frequency.span ≤ second) :
    frequency.Allows first second := by
  cases frequency with
  | ONCE_EVER => exact (periodic rfl).elim
  | DAILY =>
    intro same
    exact (lt_of_phDay_eq same).not_ge later
  | WEEKLY =>
    intro same
    exact (lt_of_isoWeek_eq same).not_ge later
  | EVERY_LOGIN => trivial
  | EVERY_APP_OPEN => exact .inl later

theorem allows_of_periodKeyFor
    (key : periodKeyFor frequency first session ≠ periodKeyFor frequency second session')
    (launches : frequency ≠ .EVERY_APP_OPEN) :
    frequency.Allows first second := by
  cases frequency with
  | ONCE_EVER => exact key rfl
  | DAILY =>
    intro same
    apply key
    rw [periodKeyFor, periodKeyFor, businessDayKey_congr same]
  | WEEKLY =>
    intro same
    apply key
    rw [periodKeyFor, periodKeyFor, businessWeekKey_congr same]
  | EVERY_LOGIN => trivial
  | EVERY_APP_OPEN => exact (launches rfl).elim

theorem allows_of_isFresh {clock expiresAt : ℕ}
    (fresh : frequency.isFresh clock second = true)
    (expires : impressionExpiryFor frequency first = some expiresAt)
    (expired : expiresAt ≤ clock) : frequency.Allows first second := by
  have spans : frequency ≠ .ONCE_EVER →
      clock + frequency.span ≤ second + RETENTION_MS →
        expiresAt = first + RETENTION_MS →
          frequency.Allows first second := by
    intro periodic fresh kept
    apply allows_of_span periodic
    have apart : ∀ first second span retention : ℕ,
        first + retention ≤ clock → clock + span ≤ second + retention → first + span ≤ second := by
      omega
    exact apart first second _ RETENTION_MS (kept ▸ expired) fresh
  have kept : frequency ≠ .ONCE_EVER → expiresAt = first + RETENTION_MS := by
    intro periodic
    cases frequency with
    | ONCE_EVER => exact (periodic rfl).elim
    | _ => exact (Option.some.inj expires).symm
  cases frequency with
  | ONCE_EVER => cases expires
  | EVERY_LOGIN => trivial
  | _ =>
    rw [CampaignFrequency.isFresh, decide_eq_true_eq] at fresh
    · exact spans (fun absent => by cases absent) fresh (kept fun absent => by cases absent)
    · exact fun absent => by cases absent
    · exact fun absent => by cases absent

end

example : businessWeekKey 1798689600000 = "2026-W53" := by decide +kernel

example : businessDayKey 1787587200000 = "2026-08-25" := by decide +kernel

end Lalaba.Campaigns
