import Lalaba.Bookings.Gate

/-!
# The calendar and the booking gate

A day that the calendar renders is the day the gate decides on, as far as the two
resolve it from the same entitlement.  The calendar takes the entitlement of its
first date for the whole span; the gate takes that of the date itself.
-/

namespace Lalaba.Bookings

open Orders (ProviderType)

theorem find?_eq_some_iff_of_unique {Row : Type} {rows : List Row}
    {fits : Row → Bool} (unique : ∀ first ∈ rows, ∀ second ∈ rows,
      fits first = true → fits second = true → first = second)
    (row : Row) :
    rows.find? fits = some row ↔ row ∈ rows ∧ fits row = true := by
  constructor
  · intro found
    exact ⟨List.mem_of_find?_eq_some found, List.find?_some found⟩
  · rintro ⟨member, fit⟩
    have exists_ : (rows.find? fits).isSome := List.find?_isSome.mpr ⟨row, member, fit⟩
    rcases Option.isSome_iff_exists.mp exists_ with ⟨other, found⟩
    rw [found, unique other (List.mem_of_find?_eq_some found) row member
      (List.find?_some found) fit]

namespace Store

theorem find?_overrides {store : Store} {branchId : ObjectId}
    {dates : List Day} {date : Day} (member : date ∈ dates) :
    ((store.overrides.filter fun row =>
        row.branchId == branchId && decide (row.date ∈ dates)).reverse.find?
          fun row => row.date == date) =
      store.overrides.find? fun row =>
        row.branchId == branchId && row.date == date := by
  have unique : ∀ first ∈ store.overrides, ∀ second ∈ store.overrides,
      first.branchId = branchId → second.branchId = branchId →
        first.date = date → second.date = date → first = second := by
    intro first stored second stored' here here' on on'
    exact List.inj_on_of_nodup_map store.overrides_unique stored stored'
      (by rw [here, here', on, on'])
  ext row
  rw [find?_eq_some_iff_of_unique, find?_eq_some_iff_of_unique]
  · simp only [List.mem_reverse, List.mem_filter, Bool.and_eq_true, beq_iff_eq, decide_eq_true_eq]
    constructor
    · rintro ⟨⟨stored, here, _⟩, on⟩
      exact ⟨stored, here, on⟩
    · rintro ⟨stored, here, on⟩
      exact ⟨⟨stored, here, on ▸ member⟩, on⟩
  · intro first stored second stored' fits fits'
    simp only [Bool.and_eq_true, beq_iff_eq] at fits fits'
    exact unique first stored second stored' fits.1 fits'.1 fits.2 fits'.2
  · intro first stored second stored' on on'
    simp only [List.mem_reverse, List.mem_filter, Bool.and_eq_true,
      beq_iff_eq] at stored stored' on on'
    exact unique first stored.1 second stored'.1 stored.2.1 stored'.2.1 on on'

theorem find?_blackouts {store : Store} {branchId : ObjectId}
    {first date : Day} (later : first ≤ date) :
    ((store.blackouts.filter fun row =>
        row.branchId == branchId && decide (first ≤ row.endDate)).find?
          fun row =>
            decide (row.startDate ≤ date) && decide (date ≤ row.endDate)) =
      (store.blackouts.filter fun row =>
        row.branchId == branchId && decide (date ≤ row.endDate)).find?
          fun row =>
            decide (row.startDate ≤ date) && decide (date ≤ row.endDate) := by
  rw [List.find?_filter, List.find?_filter]
  congr 1
  ext row
  simp only [Bool.and_eq_true, decide_eq_true_eq, beq_iff_eq, decide_eq_decide]
  constructor
  · rintro ⟨⟨here, _⟩, begun, ends⟩
    exact ⟨⟨here, ends⟩, begun, ends⟩
  · rintro ⟨⟨here, ends⟩, begun, _⟩
    exact ⟨⟨here, le_trans later ends⟩, begun, ends⟩

end Store

/-- Two entitlements differ in what is fixed for a date at most. -/
structure EffectiveEntitlement.Undated (first second : EffectiveEntitlement) : Prop where
  leadTimeMinutes : first.leadTimeMinutes = second.leadTimeMinutes
  sameDayBookingEnabled : first.sameDayBookingEnabled = second.sameDayBookingEnabled
  sameDayCutoffTime : first.sameDayCutoffTime = second.sameDayCutoffTime
  bookingsEnabled : first.bookingsEnabled = second.bookingsEnabled

theorem Store.entitlementFor_undated (store : Store) (branchId : ObjectId)
    (providerType : ProviderType) (first second : String) :
    (store.entitlementFor branchId providerType first).Undated
      (store.entitlementFor branchId providerType second) := by
  have same := resolveEntitlement_undated (some store.current)
    (store.milestones.insertionSort fun first second =>
      first.rank ≤ second.rank)
    (store.campaigns.filter fun campaign => isCampaignLive campaign first)
    (store.campaigns.filter fun campaign => isCampaignLive campaign second)
    (store.statsFor branchId providerType) providerType first second
  exact ⟨same.1, same.2.1, same.2.2.1, same.2.2.2⟩

section

variable {now : Instant} {config : BookingAvailabilityConfig}
  {first second : EffectiveEntitlement} {date : Day}
  {dateOverride : Option BookingDateOverride}
  {blackouts : List BookingBlackout} {dayBooked : ℕ}

theorem resolveDay_limit
    (capacity : first.dailyCapacity = second.dailyCapacity) :
    (resolveDay now config first date dateOverride blackouts
        dayBooked).dailyBookingLimit =
      (resolveDay now config second date dateOverride blackouts dayBooked).dailyBookingLimit ∧
    (resolveDay now config first date dateOverride blackouts dayBooked).remaining =
      (resolveDay now config second date dateOverride blackouts dayBooked).remaining := by
  constructor <;>
    simp only [resolveDay, effectiveDay_congr config (dayKeyOf date) capacity dateOverride]

theorem resolveDay_congr (undated : first.Undated second)
    (capacity : first.dailyCapacity = second.dailyCapacity)
    (advance : first.advanceBookingDays = second.advanceBookingDays) :
    resolveDay now config first date dateOverride blackouts dayBooked =
      resolveDay now config second date dateOverride blackouts
        dayBooked := by
  simp only [resolveDay, effectiveDay_congr config (dayKeyOf date)
    capacity dateOverride, dayUnavailableReason, undated.leadTimeMinutes,
    undated.sameDayBookingEnabled, undated.sameDayCutoffTime,
    undated.bookingsEnabled, advance]

end

section

variable {store : Store} {now : Instant} {branchId : ObjectId}
  {providerType : ProviderType} {fromDate : Option String}
  {days : Option ℤ} {rendered : List BookingDayAvailability}
  {after : Store} {day : BookingDayAvailability} {date : Day}

theorem Store.calendar_ok
    (renders : store.calendar now branchId providerType fromDate days = .ok (rendered, after))
    (member : day ∈ rendered) :
    ∃ date, day = resolveDay now
      (store.resolvedConfig (store.configOf branchId providerType))
      (store.entitlementFor branchId providerType (fromDate.getD (dateKey (phDay now)))) date
      (store.overrides.find? fun row =>
        row.branchId == branchId && row.date == date)
      (store.blackouts.filter fun row =>
        row.branchId == branchId && decide (date ≤ row.endDate))
      (bookedCount branchId (dateKey date) store.orders) := by
  rcases real : assertRealDate (fromDate.getD (dateKey (phDay now))) with
    error | first
  · simp only [Store.calendar, real] at renders
    cases renders
  simp only [Store.calendar, real] at renders
  cases renders
  rcases List.mem_map.mp member with ⟨date, listed, rfl⟩
  refine ⟨date, ?_⟩
  have later : first ≤ date := by
    rcases List.mem_map.mp listed with ⟨offset, _, rfl⟩
    exact le_add_of_nonneg_right (Int.natCast_nonneg offset)
  rw [Store.find?_overrides listed, getD_lookup_countByDate (List.mem_map_of_mem listed)]
  simp only [resolveDay, Store.find?_blackouts later]

/--
A rendered day counts what the gate counts for its date.  Where the date has the
capacity of the first one the limit and what is left of it are the gate's, and where
it has its advance window as well the day is bookable exactly when the gate lets in
the modes it offers.
-/
theorem calendarAgreesWithGate
    (renders : store.calendar now branchId providerType fromDate days = .ok (rendered, after))
    (member : day ∈ rendered)
    (real : assertRealDate day.date = .ok date) :
    day.bookedCount =
        (store.requestedDay now branchId providerType date none).bookedCount ∧
      ((store.entitlementFor branchId providerType
            (fromDate.getD (dateKey (phDay now)))).dailyCapacity =
          (store.entitlementFor branchId providerType day.date).dailyCapacity →
        day.dailyBookingLimit =
            (store.requestedDay now branchId providerType date none).dailyBookingLimit ∧
          day.remaining = (store.requestedDay now branchId providerType date none).remaining ∧
        ((store.entitlementFor branchId providerType
              (fromDate.getD (dateKey (phDay now)))).advanceBookingDays =
            (store.entitlementFor branchId providerType day.date).advanceBookingDays →
          ∀ fulfillment, day.offers fulfillment = true → (day.isBookable = true ↔
              ∃ booked, store.assertDayBookable now branchId providerType
                day.date fulfillment none = .ok booked))) := by
  rcases Store.calendar_ok renders member with ⟨shown, rendering⟩
  have key : day.date = dateKey shown := by rw [rendering]; rfl
  have same : date = shown := eq_of_assertRealDate (key ▸ real)
  subst same
  rw [key]
  have requested := @Store.requestedDay_eq store now branchId providerType date none
  refine ⟨?_, fun capacity => ⟨?_, ?_, fun advance fulfillment offered => ?_⟩⟩
  · rw [requested, rendering]
    rfl
  · rw [requested, rendering]
    exact (resolveDay_limit capacity).1
  · rw [requested, rendering]
    exact (resolveDay_limit capacity).2
  · have agrees : day =
        store.requestedDay now branchId providerType date none := by
      rw [requested, rendering]
      exact resolveDay_congr (store.entitlementFor_undated _ _ _ _) capacity advance
    rw [agrees] at offered ⊢
    exact (Store.assertDayBookable_ok_iff (key ▸ real) offered).symm

end

namespace Week

def laundryWeek : BookingCampaign where
  _id := "week"
  name := "Laundry Week"
  startDate := "2026-01-07"
  endDate := "2026-01-14"
  isEnabled := true
  targeting := {}
  dailyCapacity := some { mode := .multiply, value := 2 }
  advanceBookingDays := none

def booking (date : String) : BookedOrder where
  branchId := "branch"
  scheduledDate := some date
  status := .pendingProviderAcceptance

def store : Store where
  configs := ∅
  overrides := []
  blackouts := []
  washers := ∅
  policy := none
  milestones := []
  campaigns := [laundryWeek]
  orders := List.replicate 3 (booking "2026-01-06") ++ List.replicate 3 (booking "2026-01-07")
  counters _ := 0
  overrides_unique := Store.unique_nil

def now : Instant := 1767578400000

def rendered (date : String) : Option BookingDayAvailability :=
  match store.calendar now "branch" .washer none none with
  | .ok (rendered, _) => rendered.find? fun day => day.date == date
  | .error _ => none

theorem calendar_of_rendered {date : String}
    {day : BookingDayAvailability} (found : rendered date = some day) :
    ∃ days after, store.calendar now "branch" .washer none none =
      .ok (days, after) ∧ day ∈ days ∧ day.date = date := by
  unfold rendered at found
  generalize store.calendar now "branch" .washer none none = outcome at found ⊢
  rcases outcome with error | ⟨days, after⟩
  · cases found
  · dsimp only at found
    have dated : (day.date == date) = true :=
      @List.find?_some BookingDayAvailability (fun day => day.date == date) _ _ found
    exact ⟨days, after, rfl, List.mem_of_find?_eq_some found, beq_iff_eq.mp dated⟩

end Week

/-- The day before the week is full in her calendar and at the gate. -/
theorem calendarAgreesWithGate_week :
    ∃ day, Week.rendered "2026-01-06" = some day ∧
      day.isBookable = false ∧
        day.dailyBookingLimit = (Week.store.requestedDay Week.now "branch"
          .washer 20459 none).dailyBookingLimit ∧
        (day.isBookable = true ↔
          ∃ booked, Week.store.assertDayBookable Week.now "branch" .washer
            day.date .dropoff none = .ok booked) := by
  have shown : (Week.rendered "2026-01-06").map (fun day =>
      (day.isBookable, day.offers .dropoff)) = some (false, true) := by
    decide +kernel
  rcases Option.map_eq_some_iff.mp shown with ⟨day, found, facts⟩
  simp only [Prod.mk.injEq] at facts
  rcases Week.calendar_of_rendered found with ⟨days, after, renders, member, dated⟩
  have real : assertRealDate day.date = .ok 20459 := by
    rw [dated]
    decide +kernel
  have agrees := (calendarAgreesWithGate renders member real).2 (by rw [dated]; decide +kernel)
  exact ⟨day, found, facts.1, agrees.1, agrees.2.2 (by rw [dated]; decide +kernel) _ facts.2⟩

/-- The full day of the week is not bookable in her calendar, but at the gate. -/
theorem calendarDisagreesWithGate :
    ¬ ∀ (store : Store) (now : Instant) (branchId : ObjectId)
        (providerType : ProviderType) (fromDate : Option String)
        (days : Option ℤ) (rendered : List BookingDayAvailability)
        (after : Store) (day : BookingDayAvailability)
        (fulfillment : RequestedFulfillment),
        store.calendar now branchId providerType fromDate days = .ok (rendered, after) →
        day ∈ rendered → day.offers fulfillment = true →
        (day.isBookable = true ↔
          ∃ booked, store.assertDayBookable now branchId providerType
            day.date fulfillment none = .ok booked) := by
  intro always
  have shown : (Week.rendered "2026-01-07").map (fun day =>
      (day.isBookable, day.offers .dropoff)) = some (false, true) := by
    decide +kernel
  rcases Option.map_eq_some_iff.mp shown with ⟨day, found, facts⟩
  simp only [Prod.mk.injEq] at facts
  rcases Week.calendar_of_rendered found with ⟨days, after, renders, member, dated⟩
  have letIn : (Week.store.assertDayBookable Week.now "branch" .washer
      "2026-01-07" .dropoff none).toOption.isSome = true := by
    decide +kernel
  have bookable := (always Week.store Week.now "branch" .washer none none
    days after day .dropoff renders member facts.2).mpr (by
      rw [dated]
      rcases booked : Week.store.assertDayBookable Week.now "branch"
        .washer "2026-01-07" .dropoff none with error | result
      · rw [booked] at letIn
        cases letIn
      · exact ⟨result, rfl⟩)
  rw [facts.1] at bookable
  cases bookable

end Lalaba.Bookings
