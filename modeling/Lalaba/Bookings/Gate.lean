import Lalaba.Bookings.Service

/-!
# The booking gate

The gate decides on a day as `resolveDay` renders it, from the number of orders
that hold a place.  What it lets in leaves room under the limit of the day, and
it would let it in as well if fewer places were held.
-/

namespace Lalaba.Bookings

open Orders (ProviderType)

theorem getD_lookup_counted {date : String} (count : String → ℕ)
    (dates : List String) :
    ((((dates.map fun date => (date, count date)).filter
      fun row => 0 < row.2).lookup date).getD 0) =
      if date ∈ dates then count date else 0 := by
  induction dates with
  | nil => rfl
  | cons first dates induction =>
    by_cases here : date = first
    · subst here
      by_cases counted : 0 < count date
      · simp [counted]
      · have none : count date = 0 := Nat.eq_zero_of_not_pos counted
        rw [List.map_cons, List.filter_cons_of_neg (by simpa using none),
          induction, none, ite_self, ite_self]
    · have other : (date == first) = false := by simpa using here
      by_cases counted : 0 < count first
      · simp only [List.map_cons, List.filter_cons, counted,
          decide_true, if_true, List.lookup_cons, other, induction,
          List.mem_cons, here, false_or]
      · simp only [List.map_cons, List.filter_cons, counted,
          decide_false, Bool.false_eq_true, if_false, induction,
          List.mem_cons, here, false_or]

theorem getD_lookup_countByDate {branchId : ObjectId}
    {orders : List BookedOrder} {dates : List String} {date : String}
    (member : date ∈ dates) :
    ((countByDate branchId dates orders).lookup date).getD 0 =
      bookedCount branchId date orders := by
  rw [countByDate, getD_lookup_counted, if_pos (List.mem_dedup.mpr member)]

section

variable {now : Instant} {config : BookingAvailabilityConfig}
  {entitlement : EffectiveEntitlement} {date today : Day}
  {nowMinutes : ℕ} {day : EffectiveDay} {blackout : Bool}
  {dateOverride : Option BookingDateOverride}
  {blackouts : List BookingBlackout} {booked fewer : ℕ}

theorem isFull_mono {limit : Option ℕ} (less : fewer ≤ booked)
    (room : isFull limit booked = false) : isFull limit fewer = false := by
  cases limit with
  | none => rfl
  | some limit =>
    simp only [isFull, Option.any_some, decide_eq_false_iff_not] at *
    omega

theorem passed_iff {refuses : Prop} [Decidable refuses]
    {reason : UnavailableReason} {rest : Option UnavailableReason} :
    (if refuses then some reason else rest) = none ↔ ¬ refuses ∧ rest = none := by
  split <;> simp_all

theorem dayUnavailableReason_mono (less : fewer ≤ booked)
    (free : dayUnavailableReason config entitlement date today nowMinutes
      day blackout booked = none) :
    isFull day.dailyBookingLimit booked = false ∧
      dayUnavailableReason config entitlement date today nowMinutes day blackout fewer = none := by
  simp only [dayUnavailableReason, passed_iff, Bool.not_eq_true] at free ⊢
  rcases free with ⟨_, _, _, _, _, _, _, _, _, room, _⟩
  refine ⟨room, ?_⟩
  refine ⟨?_, ?_, ?_, ?_, ?_, ?_, ?_, ?_, ?_, isFull_mono less room, ?_⟩ <;> assumption

theorem resolveDay_mono (less : fewer ≤ booked)
    (free : (resolveDay now config entitlement date dateOverride blackouts
      booked).unavailableReason = none) :
    isFull (resolveDay now config entitlement date dateOverride blackouts
        booked).dailyBookingLimit booked = false ∧
      (resolveDay now config entitlement date dateOverride blackouts
        fewer).unavailableReason = none :=
  dayUnavailableReason_mono less free

theorem resolveDay_remaining
    (room : isFull (resolveDay now config entitlement date dateOverride
      blackouts booked).dailyBookingLimit booked = false) :
    (resolveDay now config entitlement date dateOverride blackouts booked).remaining ≠ some 0 := by
  intro none_left
  rcases Option.map_eq_some_iff.mp none_left with ⟨limit, limited, zero⟩
  have limited' : (resolveDay now config entitlement date dateOverride
      blackouts booked).dailyBookingLimit = some limit := limited
  rw [limited'] at room
  simp only [isFull, Option.any_some, decide_eq_false_iff_not] at room
  omega

end

namespace Store

variable {store : Store} {now : Instant} {branchId : ObjectId}
  {providerType : ProviderType} {date : Day} {requested : String}
  {fulfillment : RequestedFulfillment}
  {session : Option (List BookedOrder)}

def effectiveLimit (branchId : ObjectId) (providerType : ProviderType)
    (date : Day) (store : Store) : Option ℕ :=
  (effectiveDay (store.resolvedConfig
      (store.configOf branchId providerType)) (dayKeyOf date)
    (store.entitlementFor branchId providerType (dateKey date))
    (store.overrides.find? fun row =>
      row.branchId == branchId && row.date == date)).dailyBookingLimit

theorem requestedDay_eq :
    store.requestedDay now branchId providerType date session =
      resolveDay now
        (store.resolvedConfig (store.configOf branchId providerType))
        (store.entitlementFor branchId providerType (dateKey date)) date
        (store.overrides.find? fun row =>
          row.branchId == branchId && row.date == date)
        (store.blackouts.filter fun row =>
          row.branchId == branchId && decide (date ≤ row.endDate))
        (bookedCount branchId (dateKey date) (session.getD store.orders)) := by
  rw [requestedDay, getD_lookup_countByDate (List.mem_singleton_self _)]

variable {result : DayBookableResult × Store}

/-- What the gate lets in, and what it returns for it. -/
theorem assertDayBookable_ok :
    store.assertDayBookable now branchId providerType requested fulfillment
        session = .ok result ↔
      ∃ date, assertRealDate requested = .ok date ∧
        (store.requestedDay now branchId providerType date session).unavailableReason = none ∧
        (store.requestedDay now branchId providerType date session).offers fulfillment = true ∧
        (store.requestedDay now branchId providerType date session).remaining ≠ some 0 ∧
        result = ({ date := requested, label := dayLabel date },
          { store.serve branchId providerType with
            counters := store.counters.increment branchId requested }) := by
  rw [assertDayBookable]
  rcases real : assertRealDate requested with error | date
  · constructor
    · intro impossible
      cases impossible
    · rintro ⟨_, impossible, _⟩
      cases impossible
  simp only [Except.ok.injEq, exists_eq_left', bind, Except.bind]
  generalize store.requestedDay now branchId providerType date session = day
  constructor
  · intro decided
    cases refused : day.unavailableReason with
    | some reason =>
      rw [refused] at decided
      cases decided
    | none =>
      rw [refused] at decided
      by_cases offered : day.offers fulfillment = false
      · simp only [offered, if_true] at decided
        cases decided
      by_cases full : day.remaining = some 0
      · simp only [offered, full, if_true] at decided
        cases decided
      simp only [offered, full, if_false] at decided
      cases decided
      exact ⟨rfl, Bool.eq_true_of_not_eq_false offered, full, rfl⟩
  · rintro ⟨free, offered, room, rfl⟩
    rw [free]
    simp only [offered, Bool.true_eq_false, room, if_false]
    rfl

theorem assertDayBookable_room
    (booked : store.assertDayBookable now branchId providerType requested
      fulfillment session = .ok result)
    (real : assertRealDate requested = .ok date) :
    isFull (store.effectiveLimit branchId providerType date)
      (bookedCount branchId requested (session.getD store.orders)) = false := by
  rcases assertDayBookable_ok.mp booked with ⟨_, real', free, _⟩
  cases real.symm.trans real'
  have key := assertRealDate_key real
  subst key
  rw [requestedDay_eq] at free
  exact (resolveDay_mono le_rfl free).1

theorem assertDayBookable_mono {orders fewer : List BookedOrder}
    (booked : store.assertDayBookable now branchId providerType requested
      fulfillment (some orders) = .ok result)
    (less : bookedCount branchId requested fewer ≤ bookedCount branchId requested orders) :
    store.assertDayBookable now branchId providerType requested fulfillment
      (some fewer) = .ok result := by
  rcases assertDayBookable_ok.mp booked with ⟨date, real, free, offered, _, rfl⟩
  have key := assertRealDate_key real
  refine assertDayBookable_ok.mpr ⟨date, real, ?_⟩
  rw [requestedDay_eq, key] at free offered ⊢
  have freed := (resolveDay_mono less free).2
  refine ⟨freed, offered, ?_, rfl⟩
  exact resolveDay_remaining (resolveDay_mono le_rfl freed).1

theorem assertDayBookable_ok_iff
    (real : assertRealDate requested = .ok date)
    (offered : (store.requestedDay now branchId providerType date
      session).offers fulfillment = true) :
    (∃ booked, store.assertDayBookable now branchId providerType requested
        fulfillment session = .ok booked) ↔
      (store.requestedDay now branchId providerType date session).isBookable = true := by
  have bookable : (store.requestedDay now branchId providerType date
      session).isBookable =
      ((store.requestedDay now branchId providerType date
          session).unavailableReason.isNone &&
        (store.requestedDay now branchId providerType date
          session).remaining.all fun left => decide (0 < left)) :=
    rfl
  rw [bookable, Bool.and_eq_true, Option.isNone_iff_eq_none]
  constructor
  · rintro ⟨_, booked⟩
    rcases assertDayBookable_ok.mp booked with ⟨_, real', free, _, room, _⟩
    cases real.symm.trans real'
    refine ⟨free, ?_⟩
    rcases left : (store.requestedDay now branchId providerType date
      session).remaining with _ | left
    · rfl
    · simpa [left, Nat.pos_iff_ne_zero] using room
  · rintro ⟨free, room⟩
    refine ⟨_, assertDayBookable_ok.mpr ⟨date, real, free, offered, ?_, rfl⟩⟩
    intro none_left
    rw [none_left] at room
    cases room

end Store

end Lalaba.Bookings
