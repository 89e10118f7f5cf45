import Lalaba.Bookings.Entitlement

/-!
# The rules of one day

What a provider has configured, resolved for one date: an override before the
weekday, the weekday before the provider's own number, and all of it under the
entitlement.  The hours of a washer are projected onto the week she is booked by.
-/

namespace Lalaba.Bookings

open Orders (ProviderType)

/-- Which handover modes a day supports. -/
structure DayFulfillment where
  providerPickup : Bool := true
  providerDelivery : Bool := true
  customerDropoff : Bool := true
  customerPickup : Bool := true
deriving DecidableEq

/-- The same as it is stored; `pickupAndDelivery` is of old documents. -/
structure StoredFulfillment where
  providerPickup : Option Bool := none
  providerDelivery : Option Bool := none
  customerDropoff : Option Bool := none
  customerPickup : Option Bool := none
  pickupAndDelivery : Option Bool := none
deriving DecidableEq

/-- The rules of a weekday; what is missing is inherited. -/
structure DayBookingConfig where
  isAcceptingBookings : Option Bool := none
  windows : List BookingWindow := []
  dailyBookingLimit : Option ℕ := none
  fulfillment : Option StoredFulfillment := none

structure BookingAvailabilityConfig where
  branchId : ObjectId
  providerType : ProviderType
  acceptScheduledBookings : Bool := true
  bookingsPaused : Bool := false
  weekly : DayKey → DayBookingConfig
  dailyBookingLimit : Option ℕ := none

/-- A date that does not follow the weekly rules. -/
structure BookingDateOverride where
  branchId : ObjectId
  date : Day
  label : Option String := none
  isClosed : Bool := false
  windows : List BookingWindow := []
  dailyBookingLimit : Option ℕ := none
  fulfillment : Option StoredFulfillment := none

/-- A closed range of dates, both ends included. -/
structure BookingBlackout where
  branchId : ObjectId
  startDate : Day
  endDate : Day
  reason : Option String := none

structure TimeSlot where
  «open» : String
  close : String
deriving DecidableEq

structure OperatingHoursDay where
  isOpen : Bool
  is24Hours : Bool
  timeSlots : List TimeSlot
deriving DecidableEq

/-! ## Windows -/

def DEFAULT_WINDOW_OPEN : String := "08:00"

def DEFAULT_WINDOW_CLOSE : String := "20:00"

/-- A window in minutes since midnight. -/
structure MinuteWindow where
  start : ℕ
  end_ : ℕ
deriving DecidableEq

def BookingWindow.parsed (window : BookingWindow) : Option MinuteWindow :=
  match parseHHMM window.start, parseHHMM window.end_ with
  | some start, some end_ => some { start, end_ }
  | _, _ => none

def MinuteWindow.formatted (window : MinuteWindow) : BookingWindow where
  start := formatHHMM window.start
  end_ := formatHHMM window.end_

def mergeWindow (merged : List MinuteWindow) (window : MinuteWindow) :
    List MinuteWindow :=
  match merged.getLast? with
  | some last =>
    if window.start ≤ last.end_ then
      merged.dropLast ++ [{ last with end_ := max last.end_ window.end_ }]
    else
      merged ++ [window]
  | none => [window]

def normalizeWindows (windows : List BookingWindow) :
    List BookingWindow :=
  let parsed := ((windows.filterMap BookingWindow.parsed).filter
    fun window => decide (window.start < window.end_)).insertionSort
      fun first second => first.start ≤ second.start
  (parsed.foldl mergeWindow []).map MinuteWindow.formatted

def overlaps : List MinuteWindow → List MinuteWindow → List MinuteWindow
  | left :: lefts, right :: rights =>
    let start := max left.start right.start
    let end_ := min left.end_ right.end_
    -- Whichever window closes first is passed.
    let rest :=
      if left.end_ < right.end_ then overlaps lefts (right :: rights)
      else overlaps (left :: lefts) rights
    if start < end_ then { start, end_ } :: rest else rest
  | _, _ => []
termination_by lefts rights => lefts.length + rights.length

def intersectWindows (first second : List BookingWindow) :
    List BookingWindow :=
  (overlaps ((normalizeWindows first).filterMap BookingWindow.parsed)
    ((normalizeWindows second).filterMap BookingWindow.parsed)).map MinuteWindow.formatted

/-! ## Resolution -/

/--
The lesser of what is requested and what is entitled to; without either number
there is no cap.
-/
def capBy (requested entitled : Option ℕ) : Option ℕ :=
  match requested, entitled with
  | requested, none => requested
  | none, some entitled => some entitled
  | some requested, some entitled => some (min requested entitled)

def dayFulfillmentOf : Option StoredFulfillment → DayFulfillment
  | none => {}
  | some fulfillment =>
    let legacy := fulfillment.pickupAndDelivery
    { providerPickup := (fulfillment.providerPickup <|> legacy).getD true
      providerDelivery := (fulfillment.providerDelivery <|> legacy).getD true
      customerDropoff := fulfillment.customerDropoff.getD true
      customerPickup := fulfillment.customerPickup.getD true }

def DayFulfillment.stored (fulfillment : DayFulfillment) : StoredFulfillment where
  providerPickup := some fulfillment.providerPickup
  providerDelivery := some fulfillment.providerDelivery
  customerDropoff := some fulfillment.customerDropoff
  customerPickup := some fulfillment.customerPickup

@[simp]
theorem dayFulfillmentOf_stored (fulfillment : DayFulfillment) :
    dayFulfillmentOf (some fulfillment.stored) = fulfillment :=
  rfl

/-- The hours of a washer within the platform's week, for one weekday. -/
def boundedHours (day : Option OperatingHoursDay)
    (bound : UniversalDay) : Bool × List BookingWindow :=
  let isOpen := (day.map OperatingHoursDay.isOpen).getD false
  let windows :=
    if (day.map OperatingHoursDay.is24Hours).getD false then
      [{ start := "00:00", end_ := "23:59" }]
    else
      normalizeWindows (((day.map OperatingHoursDay.timeSlots).getD []).map
        fun slot => { start := slot.open, end_ := slot.close })
  if bound.isOpen = false then
    (false, [])
  else if bound.windows = [] then
    (isOpen, windows)
  else
    let within := intersectWindows windows bound.windows
    (isOpen && within != [], within)

def weeklyFromOperatingHours (hours : DayKey → Option OperatingHoursDay)
    (storedWeekly : DayKey → DayBookingConfig)
    (universal : DayKey → UniversalDay) (dayKey : DayKey) :
    DayBookingConfig :=
  let (isOpen, windows) := boundedHours (hours dayKey) (universal dayKey)
  { isAcceptingBookings := some (isOpen && windows != [])
    windows := windows
    dailyBookingLimit := none
    fulfillment := some (dayFulfillmentOf (storedWeekly dayKey).fulfillment).stored }

/-- Every rule in force for a date; without a limit there is no cap. -/
structure EffectiveDay where
  isAcceptingBookings : Bool
  windows : List BookingWindow
  dailyBookingLimit : Option ℕ
  fulfillment : DayFulfillment
  isSpecialDate : Bool
  specialDateLabel : Option String

/-- The override wins over the weekday, the weekday over the provider. -/
def effectiveDay (config : BookingAvailabilityConfig) (dayKey : DayKey)
    (entitlement : EffectiveEntitlement)
    (dateOverride : Option BookingDateOverride) : EffectiveDay :=
  let day := config.weekly dayKey
  let weekdayWindows :=
    if day.windows = [] then
      [{ start := DEFAULT_WINDOW_OPEN, end_ := DEFAULT_WINDOW_CLOSE }]
    else
      day.windows
  let overrideWindows := (dateOverride.map BookingDateOverride.windows).getD []
  { isAcceptingBookings :=
      if (dateOverride.map BookingDateOverride.isClosed).getD false then
        false
      else
        day.isAcceptingBookings.getD true
    windows := normalizeWindows (if overrideWindows = [] then weekdayWindows else overrideWindows)
    dailyBookingLimit := capBy
      (dateOverride.bind BookingDateOverride.dailyBookingLimit <|>
        day.dailyBookingLimit <|> config.dailyBookingLimit)
      entitlement.dailyCapacity
    fulfillment := dayFulfillmentOf
      (dateOverride.bind BookingDateOverride.fulfillment <|> day.fulfillment)
    isSpecialDate := dateOverride.isSome
    specialDateLabel := dateOverride.bind BookingDateOverride.label }

theorem effectiveDay_congr (config : BookingAvailabilityConfig)
    (dayKey : DayKey) {entitlement entitlement' : EffectiveEntitlement}
    (same : entitlement.dailyCapacity = entitlement'.dailyCapacity)
    (dateOverride : Option BookingDateOverride) :
    effectiveDay config dayKey entitlement dateOverride =
      effectiveDay config dayKey entitlement' dateOverride := by
  simp only [effectiveDay, same]

end Lalaba.Bookings
