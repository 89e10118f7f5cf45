import Lalaba.Bookings.Availability
import Mathlib.Data.List.Dedup

/-!
# The booking availability service

`calendar` renders the days a customer may pick from, `assertDayBookable` decides
on the day she has picked.  Both resolve a day with `resolveDay`; the calendar
reads the entitlement, the blackouts and the counts once for its whole span.
-/

namespace Lalaba.Bookings

open Orders (OrderStatus ProviderType)

/-- The fields of a washer's profile that are read. -/
structure WasherProfile where
  operatingHours : Option (DayKey → Option OperatingHoursDay)
  ratingCount : ℕ
  overallAverage : ℚ
  isVerified : Bool
  isActive : Bool

/-- The fields of an order that are counted. -/
structure BookedOrder where
  branchId : ObjectId
  scheduledDate : Option String
  status : OrderStatus
deriving DecidableEq

abbrev SlotCounters : Type := ObjectId × String → ℕ

/-- `$inc` the counter of a day, which is inserted when it is missing. -/
def SlotCounters.increment (counters : SlotCounters)
    (branchId : ObjectId) (date : String) : SlotCounters :=
  Function.update counters (branchId, date) (counters (branchId, date) + 1)

/-- The collections; a branch has one override for a date at most. -/
structure Store where
  configs : Collection BookingAvailabilityConfig
  overrides : List BookingDateOverride
  blackouts : List BookingBlackout
  washers : Collection WasherProfile
  policy : Option BookingPolicy
  milestones : List BookingMilestone
  campaigns : List BookingCampaign
  orders : List BookedOrder
  counters : SlotCounters
  overrides_unique : (overrides.map fun row => (row.branchId, row.date)).Nodup

namespace Store

theorem unique_nil :
    (([] : List BookingDateOverride).map fun row => (row.branchId, row.date)).Nodup :=
  List.nodup_nil

/-! ## Policy -/

/-- `current`: the live policy, published from the seed when there is none. -/
def current (store : Store) : BookingPolicy := store.policy.getD .seed

def COMPLETED_STATUSES : List OrderStatus := [.completed]

def PROVIDER_ABANDONED_STATUSES : List OrderStatus := [.rejectedByProvider, .cancelled]

def countOrders (branchId : ObjectId) (counted : OrderStatus → Bool)
    (store : Store) : ℕ :=
  store.orders.countP fun order =>
    order.branchId == branchId && counted order.status

/-- The statistics of a provider; only washers have any. -/
def statsFor (branchId : ObjectId) (providerType : ProviderType)
    (store : Store) : ProviderStats :=
  match providerType, store.washers.lookup branchId with
  | .washer, some washer =>
    let completed := store.countOrders branchId fun status =>
      decide (status ∈ COMPLETED_STATUSES)
    let abandoned := store.countOrders branchId fun status =>
      decide (status ∈ PROVIDER_ABANDONED_STATUSES)
    let total := store.countOrders branchId fun _ => true
    { completedOrders := completed
      rating :=
        if 0 < washer.ratingCount then some washer.overallAverage
        else none
      cancellationRatePercent :=
        if 5 ≤ total then
          some (⌊(abandoned : ℚ) / total * 1000 + 1 / 2⌋ / 10)
        else
          none
      isVerified := washer.isVerified
      inGoodStanding := washer.isActive }
  | _, _ => NEW_PROVIDER_STATS

def entitlementFor (branchId : ObjectId) (providerType : ProviderType)
    (date : String) (store : Store) : EffectiveEntitlement :=
  resolveEntitlement (some store.current) (store.milestones.insertionSort fun first second =>
      first.rank ≤ second.rank)
    (store.campaigns.filter fun campaign => isCampaignLive campaign date)
    (store.statsFor branchId providerType) providerType date

def defaultWeek : DayBookingConfig where
  isAcceptingBookings := some true
  windows := [{ start := DEFAULT_WINDOW_OPEN, end_ := DEFAULT_WINDOW_CLOSE }]
  fulfillment := some (DayFulfillment.stored {})

/-- `getOrCreateConfig`: the stored configuration, or the default one. -/
def configOf (branchId : ObjectId) (providerType : ProviderType)
    (store : Store) : BookingAvailabilityConfig :=
  (store.configs.lookup branchId).getD { branchId, providerType, weekly := fun _ => defaultWeek }

def resolvedConfig (config : BookingAvailabilityConfig) (store : Store) :
    BookingAvailabilityConfig :=
  match config.providerType,
      (store.washers.lookup config.branchId).bind WasherProfile.operatingHours with
  | .washer, some hours =>
    { config with
      weekly := weeklyFromOperatingHours hours config.weekly store.current.universalDays }
  | _, _ => config

def serve (branchId : ObjectId) (providerType : ProviderType)
    (store : Store) : Store :=
  { store with
    configs := store.configs.insert branchId (store.configOf branchId providerType)
    policy := some store.current }

end Store

inductive UnavailableReason where
  | bookingsDisabled
  | bookingsPaused
  | closedThisDay
  | blackedOut
  | dayFullyBooked
  | pastCutoff
  | insufficientNotice
  | beyondAdvanceWindow
  | inThePast
  | fulfillmentUnavailable
deriving DecidableEq

/-- One date of the calendar; without a limit the day is unlimited. -/
structure BookingDayAvailability where
  date : String
  dayOfWeek : DayKey
  isBookable : Bool
  unavailableReason : Option UnavailableReason
  windows : List BookingWindow
  dailyBookingLimit : Option ℕ
  bookedCount : ℕ
  remaining : Option ℕ
  isSpecialDate : Bool
  specialDateLabel : Option String
  providerPickupAvailable : Bool
  providerDeliveryAvailable : Bool
  customerDropoffAvailable : Bool
  customerPickupAvailable : Bool

/-- The notice a provider needs, and what is left of the day. -/
def noticeReason (leadTimeMinutes nowMinutes : ℕ) (offset : ℤ)
    (windows : List BookingWindow) : Option UnavailableReason :=
  match (windows.head?.map BookingWindow.start).bind parseHHMM,
      (windows.getLast?.map BookingWindow.end_).bind parseHHMM with
  | some dayStart, some dayEnd =>
    let minutesUntilOpen : ℤ := offset * 1440 + dayStart - nowMinutes
    let minutesUntilClose : ℤ := offset * 1440 + dayEnd - nowMinutes
    if minutesUntilClose ≤ 0 then
      some .inThePast
    else if minutesUntilClose < max minutesUntilOpen leadTimeMinutes then
      some .insufficientNotice
    else
      none
  | _, _ => none

def isFull (limit : Option ℕ) (booked : ℕ) : Bool := limit.any fun limit => decide (limit ≤ booked)

/-- The gates of a day, the most decisive first. -/
def dayUnavailableReason (config : BookingAvailabilityConfig)
    (entitlement : EffectiveEntitlement) (date today : Day)
    (nowMinutes : ℕ) (day : EffectiveDay) (blackout : Bool)
    (dayBooked : ℕ) : Option UnavailableReason :=
  let offset := date - today
  let cutoff := parseHHMM entitlement.sameDayCutoffTime
  if entitlement.bookingsEnabled = false then
    some .bookingsDisabled
  else if config.acceptScheduledBookings = false then
    some .bookingsDisabled
  else if config.bookingsPaused then
    some .bookingsPaused
  else if offset < 0 then
    some .inThePast
  else if entitlement.advanceBookingDays < offset then
    some .beyondAdvanceWindow
  else if blackout then
    some .blackedOut
  else if day.isAcceptingBookings = false then
    some .closedThisDay
  else if offset = 0 ∧ entitlement.sameDayBookingEnabled = false then
    some .pastCutoff
  else if offset = 0 ∧ (cutoff.any fun cutoff =>
      decide (cutoff ≤ nowMinutes)) = true then
    some .pastCutoff
  else if isFull day.dailyBookingLimit dayBooked then
    some .dayFullyBooked
  else
    noticeReason entitlement.leadTimeMinutes nowMinutes offset day.windows

/-- Can a day be booked, and what is there to render of it? -/
def resolveDay (now : Instant) (config : BookingAvailabilityConfig)
    (entitlement : EffectiveEntitlement) (date : Day)
    (dateOverride : Option BookingDateOverride)
    (blackouts : List BookingBlackout) (dayBooked : ℕ) :
    BookingDayAvailability :=
  let dayKey := dayKeyOf date
  let day := effectiveDay config dayKey entitlement dateOverride
  let blackout := blackouts.find? fun row =>
    decide (row.startDate ≤ date) && decide (date ≤ row.endDate)
  let dayReason := dayUnavailableReason config entitlement date
    (phDay now) (phMinutesOfDay now) day blackout.isSome dayBooked
  let remaining := day.dailyBookingLimit.map fun limit => limit - dayBooked
  { date := dateKey date
    dayOfWeek := dayKey
    isBookable := dayReason.isNone && remaining.all fun left => decide (0 < left)
    unavailableReason := dayReason
    windows := day.windows
    dailyBookingLimit := day.dailyBookingLimit
    bookedCount := dayBooked
    remaining
    isSpecialDate := day.isSpecialDate || blackout.isSome
    specialDateLabel := day.specialDateLabel <|> blackout.bind BookingBlackout.reason
    providerPickupAvailable := day.fulfillment.providerPickup
    providerDeliveryAvailable := day.fulfillment.providerDelivery
    customerDropoffAvailable := day.fulfillment.customerDropoff
    customerPickupAvailable := day.fulfillment.customerPickup }

def SLOT_RELEASING_STATUSES : List OrderStatus := [.rejectedByProvider, .cancelled, .refunded]

/-- `bookedFilter` for one date: the order holds a place of the branch. -/
def BookedOrder.holds (branchId : ObjectId) (date : String)
    (order : BookedOrder) : Bool :=
  order.branchId == branchId && order.scheduledDate == some date &&
    decide (order.status ∉ SLOT_RELEASING_STATUSES)

/-- `countByDate` for one date. -/
def bookedCount (branchId : ObjectId) (date : String)
    (orders : List BookedOrder) : ℕ :=
  orders.countP (BookedOrder.holds branchId date)

/-- `countByDate`: one row for every date on which something is booked. -/
def countByDate (branchId : ObjectId) (dates : List String)
    (orders : List BookedOrder) : List (String × ℕ) :=
  (dates.dedup.map fun date => (date, bookedCount branchId date orders)).filter
    fun row => 0 < row.2

namespace Store

/-- How many days `calendar` renders. -/
def calendarSpan (days : Option ℤ) (advanceBookingDays : ℕ) : ℕ :=
  (max 1 (min (min (days.getD (advanceBookingDays + 1)) (advanceBookingDays + 1)) 90)).toNat

/-- The days a customer may pick from. -/
def calendar (now : Instant) (branchId : ObjectId)
    (providerType : ProviderType) (fromDate : Option String)
    (days : Option ℤ) (store : Store) :
    Except ServiceError (List BookingDayAvailability × Store) := do
  let config := store.resolvedConfig (store.configOf branchId providerType)
  let start := fromDate.getD (dateKey (phDay now))
  let first ← assertRealDate start
  -- One entitlement for the whole span, resolved for its first date.
  let entitlement := store.entitlementFor branchId providerType start
  let dates := (List.range (calendarSpan days entitlement.advanceBookingDays)).map (addDays first)
  let overrides := store.overrides.filter fun row =>
    row.branchId == branchId && decide (row.date ∈ dates)
  let blackouts := store.blackouts.filter fun row =>
    row.branchId == branchId && decide (first ≤ row.endDate)
  let dayCounts := countByDate branchId (dates.map dateKey) store.orders
  return (dates.map fun date =>
    resolveDay now config entitlement date
      -- The last row of a date is the one a map keeps.
      (overrides.reverse.find? fun row => row.date == date) blackouts
      ((dayCounts.lookup (dateKey date)).getD 0),
    store.serve branchId providerType)

def dayAvailability (now : Instant) (branchId : ObjectId)
    (providerType : ProviderType) (date : String) (store : Store) :
    Except ServiceError (Option BookingDayAvailability × Store) := do
  let (rendered, store) ← store.calendar now branchId providerType (some date) (some 1)
  return (rendered.head?, store)

end Store

/-- Which handover mode a booking needs. -/
inductive RequestedFulfillment where
  | pickup
  | dropoff
  | selfPickup
deriving DecidableEq

def BookingDayAvailability.offers (day : BookingDayAvailability) :
    RequestedFulfillment → Bool
  | .pickup => day.providerPickupAvailable
  | .dropoff => day.customerDropoffAvailable
  | .selfPickup => day.customerPickupAvailable

/-- A notice in words, in minutes, whole days, or tenths of an hour. -/
def describeNotice (minutes : ℕ) : String :=
  if minutes < 60 then
    toString minutes ++ " minutes"
  else if minutes % 1440 = 0 then
    let d := minutes / 1440
    toString d ++ (if d = 1 then " day" else " days")
  else
    let tenths := (minutes + 3) / 6
    let h :=
      if tenths % 10 = 0 then toString (tenths / 10)
      else toString (tenths / 10) ++ "." ++ toString (tenths % 10)
    h ++ (if tenths = 10 then " hour" else " hours")

/-- The wording of a refusal. -/
def explain (reason : UnavailableReason)
    (entitlement : EffectiveEntitlement) : String :=
  match reason with
  | .bookingsDisabled =>
    "This provider is not taking scheduled bookings right now."
  | .bookingsPaused => "This provider has paused new bookings."
  | .closedThisDay =>
    "This provider does not accept bookings on that day."
  | .blackedOut => "This provider is unavailable on that date."
  | .dayFullyBooked =>
    "That date is fully booked. Please pick another day."
  | .pastCutoff =>
    if entitlement.sameDayBookingEnabled then
      "Same-day bookings close at " ++
        formatHuman (parseHHMM entitlement.sameDayCutoffTime) ++ ". Please pick a later date."
    else
      "This provider does not accept same-day bookings."
  | .insufficientNotice =>
    "This provider needs at least " ++
      describeNotice entitlement.leadTimeMinutes ++ " notice. Please pick a later time."
  | .beyondAdvanceWindow =>
    "You can book up to " ++ toString entitlement.advanceBookingDays ++ " days ahead."
  | .inThePast => "That pickup time has already passed."
  | .fulfillmentUnavailable =>
    "That handover option is not available on the date you picked."

/-- What an order keeps of its day. -/
structure DayBookableResult where
  date : String
  label : String

namespace Store

/-- The day `assertDayBookable` decides on; a session counts its snapshot. -/
def requestedDay (now : Instant) (branchId : ObjectId)
    (providerType : ProviderType) (date : Day)
    (session : Option (List BookedOrder)) (store : Store) :
    BookingDayAvailability :=
  resolveDay now
    (store.resolvedConfig (store.configOf branchId providerType))
    (store.entitlementFor branchId providerType (dateKey date)) date
    (store.overrides.find? fun row =>
      row.branchId == branchId && row.date == date)
    (store.blackouts.filter fun row =>
      row.branchId == branchId && decide (date ≤ row.endDate))
    (((countByDate branchId [dateKey date]
      (session.getD store.orders)).lookup (dateKey date)).getD 0)

/-- Refuse a date that cannot be booked; otherwise take a place in it. -/
def assertDayBookable (now : Instant) (branchId : ObjectId)
    (providerType : ProviderType) (requested : String)
    (fulfillment : RequestedFulfillment)
    (session : Option (List BookedOrder)) (store : Store) :
    Except ServiceError (DayBookableResult × Store) := do
  let date ← assertRealDate requested
  let entitlement := store.entitlementFor branchId providerType requested
  let day := store.requestedDay now branchId providerType date session
  if let some reason := day.unavailableReason then
    throw (.badRequest (explain reason entitlement))
  if day.offers fulfillment = false then
    throw (.badRequest ("This provider does not offer that handover " ++
      "option on the date you picked."))
  if day.remaining = some 0 then
    throw (.badRequest (explain .dayFullyBooked entitlement))
  let served := store.serve branchId providerType
  return ({ date := requested, label := dayLabel date }, { served with
      counters := served.counters.increment branchId requested })

end Store

end Lalaba.Bookings
