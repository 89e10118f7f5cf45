import Lalaba.Bookings.Gate
import Lalaba.Bookings.Windows

/-!
# Notice

The last gate of a day asks whether the provider still has her notice before she
closes.  It looks at the start of the first window and the end of the last one, which
is enough, since the windows are sorted and apart.  Without any window it asks nothing
and lets the day through.
-/

namespace Lalaba.Bookings

/-! ## The reference -/

def minuteOn (date : Day) (minute : ℕ) : ℤ := date * 1440 + minute

def phMinute (now : Instant) : ℤ := ((now + PH_OFFSET_MS) / 60000 : ℕ)

theorem phMinute_eq (now : Instant) : phMinute now = minuteOn (phDay now) (phMinutesOfDay now) := by
  unfold phMinute minuteOn phDay phMinutesOfDay MS_PER_DAY
  have whole (elapsed : ℕ) : elapsed / 60000 =
      elapsed / 86400000 * 1440 + elapsed % 86400000 / 60000 := by
    omega
  exact_mod_cast whole (now + PH_OFFSET_MS)

def InTime (now : ℤ) (leadTimeMinutes : ℕ) (date : Day)
    (windows : List MinuteWindow) : Prop :=
  (∃ window ∈ windows, now < minuteOn date window.end_) ∧
    ∃ window ∈ windows, ∃ instant,
      minuteOn date window.start ≤ instant ∧
        instant ≤ minuteOn date window.end_ ∧ now + leadTimeMinutes ≤ instant

def configuredWindows (config : BookingAvailabilityConfig)
    (dayKey : DayKey) (dateOverride : Option BookingDateOverride) :
    List BookingWindow :=
  let day := config.weekly dayKey
  let weekdayWindows :=
    if day.windows = [] then
      [{ start := DEFAULT_WINDOW_OPEN, end_ := DEFAULT_WINDOW_CLOSE }]
    else
      day.windows
  let overrideWindows := (dateOverride.map BookingDateOverride.windows).getD []
  if overrideWindows = [] then weekdayWindows else overrideWindows

def BookingWindow.Usable (window : BookingWindow) : Prop :=
  ∃ parsed, window.parsed = some parsed ∧ parsed.start < parsed.end_

/-- Every gate of a day before the one for notice is passed. -/
structure Passed (config : BookingAvailabilityConfig)
    (entitlement : EffectiveEntitlement) (date today : Day)
    (nowMinutes : ℕ) (day : EffectiveDay) (blackout : Bool)
    (dayBooked : ℕ) : Prop where
  enabled : entitlement.bookingsEnabled = true
  scheduled : config.acceptScheduledBookings = true
  running : config.bookingsPaused = false
  ahead : ¬ date - today < 0
  within : ¬ (entitlement.advanceBookingDays : ℤ) < date - today
  clear : blackout = false
  accepting : day.isAcceptingBookings = true
  sameDay : ¬ (date - today = 0 ∧ entitlement.sameDayBookingEnabled = false)
  beforeCutoff : ¬ (date - today = 0 ∧ ((parseHHMM entitlement.sameDayCutoffTime).any fun cutoff =>
      decide (cutoff ≤ nowMinutes)) = true)
  room : isFull day.dailyBookingLimit dayBooked = false

theorem Passed.dayUnavailableReason
    {config : BookingAvailabilityConfig}
    {entitlement : EffectiveEntitlement} {date today : Day}
    {nowMinutes : ℕ} {day : EffectiveDay} {blackout : Bool}
    {dayBooked : ℕ}
    (passed : Passed config entitlement date today nowMinutes day blackout dayBooked) :
    dayUnavailableReason config entitlement date today nowMinutes day
        blackout dayBooked =
      noticeReason entitlement.leadTimeMinutes nowMinutes (date - today)
        day.windows := by
  simp only [Bookings.dayUnavailableReason, passed.enabled,
    passed.scheduled, passed.running, passed.ahead, passed.within,
    passed.clear, passed.accepting, passed.sameDay, passed.beforeCutoff,
    passed.room, Bool.true_eq_false, Bool.false_eq_true, if_false]

namespace Separated

variable {windows : List MinuteWindow} {first last : MinuteWindow}

theorem end_le (separated : Separated windows)
    (latest : windows.getLast? = some last) {window : MinuteWindow}
    (member : window ∈ windows) : window.end_ ≤ last.end_ := by
  rcases List.getLast?_eq_some_iff.mp latest with ⟨before, rfl⟩
  have apart := (List.pairwise_append.mp separated.apart).2.2
  rcases List.mem_append.mp member with earlier | here
  · have gap := apart window earlier last (.head _)
    have opens := (separated.daily last (List.mem_append_right _ (.head _))).opens
    omega
  · rcases List.mem_singleton.mp here with rfl
    exact le_rfl

theorem noticeReason_eq (separated : Separated windows)
    (earliest : windows.head? = some first)
    (latest : windows.getLast? = some last) (leadTimeMinutes : ℕ)
    (nowMinutes : ℕ) (offset : ℤ) :
    noticeReason leadTimeMinutes nowMinutes offset
        (windows.map MinuteWindow.formatted) =
      if offset * 1440 + last.end_ - nowMinutes ≤ 0 then
        some .inThePast
      else if offset * 1440 + last.end_ - nowMinutes <
          max (offset * 1440 + first.start - nowMinutes) (leadTimeMinutes : ℤ) then
        some .insufficientNotice
      else
        none := by
  have firsts := separated.daily first (List.mem_of_mem_head? earliest)
  have lasts := separated.daily last (List.mem_of_getLast? latest)
  have start : parseHHMM (formatHHMM first.start) = some first.start :=
    parseHHMM_formatHHMM (firsts.opens.trans firsts.ofDay)
  have end_ : parseHHMM (formatHHMM last.end_) = some last.end_ := parseHHMM_formatHHMM lasts.ofDay
  simp only [noticeReason, List.head?_map, earliest, List.getLast?_map,
    latest, Option.map_some, MinuteWindow.formatted, Option.bind_some, start, end_]

theorem noticeReason_none_iff (separated : Separated windows)
    (some_window : windows ≠ []) (leadTimeMinutes nowMinutes : ℕ)
    (date today : Day) :
    noticeReason leadTimeMinutes nowMinutes (date - today)
        (windows.map MinuteWindow.formatted) = none ↔
      InTime (minuteOn today nowMinutes) leadTimeMinutes date windows := by
  have earliest := List.head?_eq_some_head some_window
  have latest := List.getLast?_eq_some_getLast some_window
  generalize windows.head some_window = first at earliest
  generalize windows.getLast some_window = last at latest
  have firsts := List.mem_of_mem_head? earliest
  have lasts := List.mem_of_getLast? latest
  rw [separated.noticeReason_eq earliest latest, passed_iff, passed_iff]
  unfold InTime minuteOn
  constructor
  · rintro ⟨future, enough, -⟩
    refine ⟨⟨last, lasts, by omega⟩, last, lasts, date * 1440 + last.end_, ?_, le_rfl, by omega⟩
    have opens := (separated.daily last lasts).opens
    omega
  · rintro ⟨⟨open_, among, future⟩, window, member, instant, -, closing, enough⟩
    have ends := separated.end_le latest among
    have ends' := separated.end_le latest member
    have opens := (separated.daily first firsts).opens
    have whole := separated.end_le latest firsts
    exact ⟨by omega, by omega, rfl⟩

end Separated

theorem normalized_ne_nil_iff (windows : List BookingWindow) :
    normalized windows ≠ [] ↔ ∃ window ∈ windows, window.Usable := by
  have spec := normalized_spec windows
  constructor
  · intro some_window
    rcases List.exists_mem_of_ne_nil _ some_window with ⟨window, member⟩
    have inside : window.start ∈ covered windows := by
      rw [← spec.2]
      exact ⟨window, member, le_rfl, (spec.1.daily window member).opens⟩
    rcases inside with ⟨parsed, read, inside⟩
    rcases List.mem_filterMap.mp read with ⟨configured, among, read⟩
    exact ⟨configured, among, parsed, read, inside.1.trans_lt inside.2⟩
  · rintro ⟨configured, among, parsed, read, opens⟩ none
    have inside : parsed.start ∈ minutesOf (normalized windows) := by
      rw [spec.2]
      exact ⟨parsed, List.mem_filterMap.mpr ⟨configured, among, read⟩, le_rfl, opens⟩
    rw [none] at inside
    simp at inside

theorem windows_effectiveDay (config : BookingAvailabilityConfig)
    (dayKey : DayKey) (entitlement : EffectiveEntitlement)
    (dateOverride : Option BookingDateOverride) :
    (effectiveDay config dayKey entitlement dateOverride).windows =
      normalizeWindows (configuredWindows config dayKey dateOverride) :=
  rfl

/--
Past the other gates the gate for notice is the reference exactly when a window that is
configured for the date can be used.
-/
theorem dayUnavailableReason_inTime_iff (now : Instant)
    (config : BookingAvailabilityConfig)
    (entitlement : EffectiveEntitlement) (date : Day)
    (dateOverride : Option BookingDateOverride) (blackout : Bool)
    (dayBooked : ℕ)
    (passed : Passed config entitlement date (phDay now) (phMinutesOfDay now)
      (effectiveDay config (dayKeyOf date) entitlement dateOverride)
      blackout dayBooked) :
    (dayUnavailableReason config entitlement date (phDay now) (phMinutesOfDay now)
          (effectiveDay config (dayKeyOf date) entitlement dateOverride)
          blackout dayBooked = none ↔
        InTime (phMinute now) entitlement.leadTimeMinutes date
          ((effectiveDay config (dayKeyOf date) entitlement
            dateOverride).windows.filterMap BookingWindow.parsed)) ↔
      ∃ window ∈ configuredWindows config (dayKeyOf date) dateOverride,
        window.Usable := by
  rw [passed.dayUnavailableReason, windows_effectiveDay, phMinute_eq,
    filterMap_normalizeWindows, ← normalized_ne_nil_iff, normalizeWindows_eq]
  by_cases none : normalized (configuredWindows config (dayKeyOf date) dateOverride) = []
  · -- Without a window nothing is asked, and no instant is in time.
    have shut (now lead) : ¬ InTime now lead date [] := by
      rintro ⟨⟨window, member, -⟩, -⟩
      cases member
    simp only [none, List.map_nil, ne_eq, not_true_eq_false, iff_false]
    intro same
    exact shut _ _ (same.mp rfl)
  · simp only [ne_eq, none, not_false_eq_true, iff_true]
    exact (normalized_separated _).noticeReason_none_iff none _ _ _ _

namespace Sample

def everyDay : BookingAvailabilityConfig where
  branchId := "branch-1"
  providerType := .washer
  weekly _ := {}

def reversed : BookingDateOverride where
  branchId := "branch-1"
  date := 20512
  windows := [{ start := "20:00", end_ := "08:00" }]

def noon : Instant := 20511 * 86400000 + 4 * 3600 * 1000

end Sample

/-- Hours the wrong way round leave no window, and the date is offered. -/
theorem dayUnavailableReason_reversed :
    let day := effectiveDay Sample.everyDay (dayKeyOf 20512) Sample.entitled (some Sample.reversed)
    day.windows = [] ∧
      Passed Sample.everyDay Sample.entitled 20512 (phDay Sample.noon)
        (phMinutesOfDay Sample.noon) day false 0 ∧
      dayUnavailableReason Sample.everyDay Sample.entitled 20512
        (phDay Sample.noon) (phMinutesOfDay Sample.noon) day false 0 = none ∧
      ¬ InTime (phMinute Sample.noon) Sample.entitled.leadTimeMinutes 20512
        (day.windows.filterMap BookingWindow.parsed) := by
  have none : (effectiveDay Sample.everyDay (dayKeyOf 20512)
      Sample.entitled (some Sample.reversed)).windows = [] := by
    decide +kernel
  refine ⟨none, ?_, by decide +kernel, ?_⟩
  · constructor <;> decide +kernel
  · rw [none]
    rintro ⟨⟨window, member, -⟩, -⟩
    cases member

/-- An ordinary day is decided on as the reference has it. -/
theorem dayUnavailableReason_inTime_iff_everyDay :
    dayUnavailableReason Sample.everyDay Sample.entitled 20512
        (phDay Sample.noon) (phMinutesOfDay Sample.noon)
        (effectiveDay Sample.everyDay (dayKeyOf 20512) Sample.entitled none)
        false 0 = none ↔
      InTime (phMinute Sample.noon) Sample.entitled.leadTimeMinutes 20512
        ((effectiveDay Sample.everyDay (dayKeyOf 20512) Sample.entitled
          none).windows.filterMap BookingWindow.parsed) :=
  (dayUnavailableReason_inTime_iff Sample.noon Sample.everyDay
    Sample.entitled 20512 none false 0
    (by constructor <;> decide +kernel)).mpr
      ⟨_, .head _, { start := 480, end_ := 1200 }, by decide +kernel,
        by decide⟩

end Lalaba.Bookings
