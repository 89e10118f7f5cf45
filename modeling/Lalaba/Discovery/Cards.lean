import Lalaba.Bookings.Service
import Lalaba.Discovery.Prices
import Lalaba.Discovery.Slots

/-!
# The cards a customer is shown

`discoverProviders` lists the branches and the washers that may be booked, each with
whether it accepts bookings.  It asks the collections in bulk; the booking gate looks at
one provider again.  What it asks implies what the gate checks, except that the distance
is compared after it was rounded, and that no pause of a branch is looked at.
-/

namespace Lalaba.Discovery

open Foundation
open Bookings (DayKey OperatingHoursDay)
open Fees
open Orders
open Wallets

/-! ## What is listed -/

abbrev OperatingHours : Type := DayKey → Option OperatingHoursDay

/-- A branch as it is listed. -/
structure ListedBranch extends Branch where
  branchMapLocation : MapLocation
  operatingHours : Option OperatingHours := none
  overallAverage : Option ℚ := none
  verifiedAt : Option Instant := none

/-- A washer as she is listed. -/
structure ListedWasher extends WasherProfile where
  operatingHours : Option OperatingHours := none
  overallAverage : Option ℚ := none
  verifiedAt : Option Instant := none

def ListedWasher.mapLocation (washer : ListedWasher) : Option MapLocation :=
  match washer.latitude, washer.longitude with
  | some latitude, some longitude => some { latitude, longitude }
  | _, _ => none

/--
The collections discovery reads.  A washer is stored under her branch: registration
makes one for each.  `createdAt` is the time that the ODM stamps on an order.
-/
structure Marketplace extends Catalog where
  branches : Collection ListedBranch
  washers : Collection ListedWasher
  categories : ObjectId → String
  favorites : List (Uid × ObjectId)
  bookings : Bookings.Store
  createdAt : ObjectId → Instant
  database : Database

namespace Marketplace

def paused (marketplace : Marketplace) (branchId : ObjectId) : Bool :=
  (marketplace.bookings.configs.lookup branchId).any fun config =>
    config.bookingsPaused

def booked (marketplace : Marketplace) (now : Instant) (market : Market) :
    Market :=
  { marketplace.toCatalog.market now market with
    branches := fun branchId =>
      (marketplace.branches.lookup branchId).map ListedBranch.toBranch
    washers := fun branchId =>
      (marketplace.washers.lookup branchId).map ListedWasher.toWasherProfile
    bookingsPaused := marketplace.paused }

variable {marketplace : Marketplace} {now : Instant} {market : Market} {branchId : ObjectId}

@[simp]
theorem booked_branches :
    (marketplace.booked now market).branches branchId =
      (marketplace.branches.lookup branchId).map ListedBranch.toBranch :=
  rfl

@[simp]
theorem booked_washers :
    (marketplace.booked now market).washers branchId =
      (marketplace.washers.lookup branchId).map
        ListedWasher.toWasherProfile :=
  rfl

end Marketplace

inductive ProviderTypeFilter where
  | all
  | merchant
  | washer
deriving DecidableEq

inductive ProviderSort where
  | nearest
  | topRated
deriving DecidableEq

structure DiscoverProvidersInput where
  latitude : Option ℚ := none
  longitude : Option ℚ := none
  radiusKm : Option ℚ := some 15
  providerType : ProviderTypeFilter := .all
  category : Option String := none
  search : Option String := none
  minRating : Option ℚ := none
  openNow : Bool := false
  sort : ProviderSort := .nearest
  limit : ℕ := 30

/-! ## Cards -/

structure ProviderCard where
  branchId : ObjectId
  providerType : ProviderType
  name : String
  ratingAverage : ℚ
  statusText : String
  isAcceptingBookings : Bool
  distanceKm : Option ℚ
  serviceRadiusKm : Option ℚ := none
  priceFromCentavos : Option ℚ≥0
  serviceCategories : List String
  slotsRemaining : Option ℕ := none
  isFavorite : Bool
  isVerified : Bool

/-- The leading digits of a text, with their sign, as `parseInt` reads them. -/
def parseInt (text : List Char) : Option ℤ :=
  let (sign, digits) : ℤ × List Char :=
    match text.dropWhile isBlank with
    | '-' :: rest => (-1, rest)
    | '+' :: rest => (1, rest)
    | rest => (1, rest)
  match digits.takeWhile Char.isDigit with
  | [] => none
  | digits =>
    some (sign * digits.foldl (fun number digit => number * 10 + (digit.toNat - 48 : ℕ)) 0)

/-- `fmtClock`: a time of day by the clock. -/
def fmtClock (hhmm : String) : String :=
  let parts := hhmm.toList
  let hours := parseInt (parts.takeWhile (· ≠ ':'))
  let minutes := (parseInt (((parts.dropWhile (· ≠ ':')).drop 1).takeWhile (· ≠ ':'))).getD 0
  let period := if hours.any (12 ≤ ·) then "PM" else "AM"
  let display :=
    match hours with
    | none => "NaN"
    | some hours =>
      toString (if hours.tmod 12 = 0 then 12 else hours.tmod 12)
  display ++ ":" ++
    (if (toString minutes).length < 2 then "0" else "") ++
    toString minutes ++ " " ++ period

/-- `openStatusText` on the server's weekday. -/
def openStatusText (weekday : DayKey) (hours : Option OperatingHours) :
    String :=
  match hours with
  | none => "Open"
  | some hours =>
    match hours weekday with
    | none => "Closed"
    | some day =>
      if day.isOpen = false then
        "Closed"
      else if day.is24Hours then
        "Open 24 hours"
      else
        match day.timeSlots with
        | [] => "Open"
        | slot :: _ =>
          if slot.close = "" then
            "Open"
          else
            "Open until " ++ fmtClock slot.close

def roundTenth (km : ℚ) : ℚ := roundCentavos (km * 10) / 10

/-- `distance`: from the customer's position, where there is one. -/
def distance (distanceKm : ℚ → ℚ → ℚ → ℚ → ℚ)
    (latitude longitude : Option ℚ) (location : Option MapLocation) :
    Option ℚ :=
  match latitude, longitude, location with
  | some latitude, some longitude, some location =>
    some (roundTenth (distanceKm latitude longitude location.latitude location.longitude))
  | _, _, _ => none

def isBookingAccepting (config : Bookings.BookingAvailabilityConfig)
    (entitlement : Bookings.EffectiveEntitlement) : Bool :=
  entitlement.bookingsEnabled && config.acceptScheduledBookings && !config.bookingsPaused

def walletVisible (wallet : Option Wallet) : Bool :=
  wallet.any fun wallet =>
    wallet.activatedAt.isSome && decide (DISCOVERY_ACCEPT_MIN_CENTAVOS ≤ wallet.balanceCentavos)

def DISCOVERY_REFERENCE_WEIGHT_KG : ℚ≥0 := 7

/-- `comparableInDiscovery`: a price by the piece is not. -/
def comparableInDiscovery (pricing : ResolvedWasherPricing) : Bool :=
  pricing.pricingType != .perPiece

namespace Marketplace

variable (marketplace : Marketplace)

def merchantPriceAndCategories (branchId : ObjectId) :
    Option ℚ≥0 × List String :=
  let services := marketplace.services.entries.filter fun entry =>
    entry.2.branchId == branchId && !entry.2.isArchived && entry.2.isOnline
  ((services.map fun entry => entry.2.price).min?,
    (services.map fun entry => marketplace.categories entry.1).eraseDups)

/-- `washerPriceAndCategories`: every offering at the same basket. -/
def washerPriceAndCategories (branchId : ObjectId)
    (washer : ListedWasher) : Option ℚ≥0 × List String :=
  let templates := marketplace.templates.entries.filter fun entry =>
    decide (entry.1 ∈ washer.offeredServiceTemplateIds) && entry.2.isActive
  let comparable := (templates.map fun entry =>
    resolveWasherPricing entry.2 (marketplace.offerings.lookup (branchId, entry.1))).filter
    comparableInDiscovery
  let totals := comparable.map fun pricing =>
    (calculateServiceLineTotal pricing.toServiceLinePricingParams
      (some DISCOVERY_REFERENCE_WEIGHT_KG) none).toNat
  (totals.min?.map fun total => (total : ℚ≥0), templates.map fun entry => entry.2.name)

def washerAcceptingBookings (now : Instant) (branchId : ObjectId)
    (washer : ListedWasher) (slotsRemaining : Option ℕ) : Bool :=
  if washer.isAvailable = false then
    false
  else if slotsRemaining = some 0 then
    false
  else
    match marketplace.bookings.configs.lookup branchId with
    | none => true
    | some config =>
      isBookingAccepting config
        (marketplace.bookings.entitlementFor branchId .washer
          (Bookings.dateKey (Bookings.phDay now)))

def merchantAcceptingBookings (branch : ListedBranch) : Bool := branch.isActive && branch.isOnline

/-- What a card depends on besides the collections. -/
structure Viewing where
  distanceKm : ℚ → ℚ → ℚ → ℚ → ℚ
  weekday : DayKey
  now : Instant
  uid : Uid
  latitude : Option ℚ
  longitude : Option ℚ

def merchantCard (viewing : Viewing) (branchId : ObjectId)
    (branch : ListedBranch) : ProviderCard where
  branchId := branchId
  providerType := .merchant
  name := branch.branchName
  ratingAverage := branch.overallAverage.getD 0
  statusText := openStatusText viewing.weekday branch.operatingHours
  isAcceptingBookings := merchantAcceptingBookings branch
  distanceKm := distance viewing.distanceKm viewing.latitude
    viewing.longitude (some branch.branchMapLocation)
  priceFromCentavos := (marketplace.merchantPriceAndCategories branchId).1
  serviceCategories := (marketplace.merchantPriceAndCategories branchId).2
  isFavorite := decide ((viewing.uid, branchId) ∈ marketplace.favorites)
  isVerified := branch.verifiedAt.isSome

def slotsLeft (viewing : Viewing) (branchId : ObjectId)
    (washer : ListedWasher) : Option ℕ :=
  slotsRemaining viewing.now marketplace.createdAt marketplace.database
    branchId washer.toWasherProfile

def washerCard (viewing : Viewing) (branchId : ObjectId)
    (washer : ListedWasher) : ProviderCard where
  branchId := branchId
  providerType := .washer
  name := washerStoreName washer.toWasherProfile
  ratingAverage := washer.overallAverage.getD 0
  statusText :=
    if washer.operatingHours.isSome then
      openStatusText viewing.weekday washer.operatingHours
    else
      washerStatusText washer.toWasherProfile (marketplace.slotsLeft viewing branchId washer)
  isAcceptingBookings :=
    marketplace.washerAcceptingBookings viewing.now branchId washer
      (marketplace.slotsLeft viewing branchId washer)
  distanceKm := distance viewing.distanceKm viewing.latitude viewing.longitude washer.mapLocation
  serviceRadiusKm := washer.serviceRadiusKm
  priceFromCentavos := (marketplace.washerPriceAndCategories branchId washer).1
  serviceCategories := (marketplace.washerPriceAndCategories branchId washer).2
  slotsRemaining := marketplace.slotsLeft viewing branchId washer
  isFavorite := decide ((viewing.uid, branchId) ∈ marketplace.favorites)
  isVerified := washer.verifiedAt.isSome

end Marketplace

/-! ## Discovery -/

def hasSellableCatalog (card : ProviderCard) : Bool := !card.serviceCategories.isEmpty

def beyond (distanceKm radiusKm : Option ℚ) : Bool :=
  match distanceKm, radiusKm with
  | some distanceKm, some radiusKm => decide (radiusKm < distanceKm)
  | _, _ => false

def passesFilters (card : ProviderCard) (filter : DiscoverProvidersInput) :
    Bool :=
  let located := filter.latitude.isSome && filter.longitude.isSome
  if filter.category.any fun category =>
      category != "" && !card.serviceCategories.contains category then
    false
  else if located && beyond card.distanceKm card.serviceRadiusKm then
    false
  else if located && beyond card.distanceKm filter.radiusKm then
    false
  else if filter.minRating.any fun least =>
      decide (card.ratingAverage < least) then
    false
  else if filter.openNow &&
      card.statusText.toLower.startsWith "closed" then
    false
  else
    true

def comesFirst (sort : ProviderSort) (first second : ProviderCard) : Bool :=
  match sort with
  | .topRated => decide (second.ratingAverage ≤ first.ratingAverage)
  | .nearest =>
    match first.distanceKm, second.distanceKm with
    | _, none => true
    | none, some _ => false
    | some near, some far => decide (near ≤ far)

def sortCards (sort : ProviderSort) (cards : List ProviderCard) :
    List ProviderCard :=
  cards.insertionSort fun first second => comesFirst sort first second

namespace Marketplace

variable (marketplace : Marketplace)

/-- `applyFeeMarkup`, on one card. -/
def applyFeeMarkup (now : Instant) (card : ProviderCard) : ProviderCard :=
  { card with
    priceFromCentavos :=
      markupOpt card.priceFromCentavos (marketplace.feePercent now card.providerType) }

def visible (branchId : ObjectId) : Bool :=
  walletVisible (marketplace.database.wallets.wallets.lookup branchId)

/-- Is a name searched for?  `isMatch` is the regular expression of a text. -/
def named (isMatch : String → String → Bool)
    (filter : DiscoverProvidersInput) (name : String) : Bool :=
  match filter.search with
  | none => true
  | some search => search == "" || isMatch search name

def listedBranches (isMatch : String → String → Bool)
    (filter : DiscoverProvidersInput) :
    List ((_ : ObjectId) × ListedBranch) :=
  if filter.providerType = .washer then
    []
  else
    marketplace.branches.entries.filter fun entry =>
      entry.2.isActive && entry.2.isOnline && named isMatch filter entry.2.branchName

def listedWashers (isMatch : String → String → Bool)
    (filter : DiscoverProvidersInput) :
    List ((_ : ObjectId) × ListedWasher) :=
  if filter.providerType = .merchant then
    []
  else
    marketplace.washers.entries.filter fun entry =>
      entry.2.isActive && entry.2.serviceRadiusKm.isSome &&
        entry.2.latitude.isSome && entry.2.longitude.isSome &&
        named isMatch filter entry.2.storeName

def discoverProviders (isMatch : String → String → Bool)
    (distanceKm : ℚ → ℚ → ℚ → ℚ → ℚ) (weekday : DayKey) (now : Instant)
    (uid : Uid) (filter : DiscoverProvidersInput) : List ProviderCard :=
  let viewing : Viewing :=
    { distanceKm, weekday, now, uid
      latitude := filter.latitude
      longitude := filter.longitude }
  let merchants :=
    ((marketplace.listedBranches isMatch filter).filter fun entry =>
      marketplace.visible entry.1).map fun entry =>
        marketplace.merchantCard viewing entry.1 entry.2
  let washers :=
    ((marketplace.listedWashers isMatch filter).filter fun entry =>
      marketplace.visible entry.1).map fun entry =>
        marketplace.washerCard viewing entry.1 entry.2
  let cards := (merchants ++ washers).filter fun card =>
    hasSellableCatalog card && passesFilters card filter
  ((sortCards filter.sort cards).map (marketplace.applyFeeMarkup now)).take filter.limit

end Marketplace

section

variable {marketplace : Marketplace} {isMatch : String → String → Bool}
  {distanceKm : ℚ → ℚ → ℚ → ℚ → ℚ} {weekday : DayKey} {now : Instant}
  {uid : Uid} {filter : DiscoverProvidersInput} {card : ProviderCard}

/-- The card of a branch that is online, or of a washer with a service area. -/
inductive Listed (marketplace : Marketplace) (viewing : Marketplace.Viewing)
    (card : ProviderCard) : Prop where
  | merchant (branchId : ObjectId) (branch : ListedBranch)
      (found : marketplace.branches.lookup branchId = some branch)
      (active : branch.isActive = true) (online : branch.isOnline = true)
      (visible : marketplace.visible branchId = true)
      (shows : card = marketplace.applyFeeMarkup viewing.now
        (marketplace.merchantCard viewing branchId branch))
  | washer (branchId : ObjectId) (washer : ListedWasher) (radius : ℚ)
      (location : MapLocation)
      (found : marketplace.washers.lookup branchId = some washer)
      (active : washer.isActive = true)
      (reach : washer.serviceRadiusKm = some radius)
      (pin : washer.mapLocation = some location)
      (visible : marketplace.visible branchId = true)
      (shows : card = marketplace.applyFeeMarkup viewing.now
        (marketplace.washerCard viewing branchId washer))

theorem mem_listedBranches {entry : (_ : ObjectId) × ListedBranch}
    (member : entry ∈ marketplace.listedBranches isMatch filter) :
    marketplace.branches.lookup entry.1 = some entry.2 ∧
      entry.2.isActive = true ∧ entry.2.isOnline = true := by
  rw [Marketplace.listedBranches] at member
  split at member
  · exact (List.not_mem_nil member).elim
  · rcases List.mem_filter.mp member with ⟨stored, listed⟩
    simp only [Bool.and_eq_true] at listed
    exact ⟨AList.mem_lookup_iff.mpr stored, listed.1.1, listed.1.2⟩

theorem mem_listedWashers {entry : (_ : ObjectId) × ListedWasher}
    (member : entry ∈ marketplace.listedWashers isMatch filter) :
    marketplace.washers.lookup entry.1 = some entry.2 ∧
      entry.2.isActive = true ∧
      (∃ radius, entry.2.serviceRadiusKm = some radius) ∧
      ∃ location, entry.2.mapLocation = some location := by
  rw [Marketplace.listedWashers] at member
  split at member
  · exact (List.not_mem_nil member).elim
  · rcases List.mem_filter.mp member with ⟨stored, listed⟩
    simp only [Bool.and_eq_true, Option.isSome_iff_exists] at listed
    rcases listed with ⟨⟨⟨⟨active, reach⟩, latitude, north⟩, longitude, east⟩, _⟩
    refine ⟨AList.mem_lookup_iff.mpr stored, active, reach, { latitude, longitude }, ?_⟩
    rw [ListedWasher.mapLocation, north, east]

theorem listed_of_mem
    (member : card ∈ marketplace.discoverProviders isMatch distanceKm weekday now uid filter) :
    Listed marketplace
      { distanceKm, weekday, now, uid
        latitude := filter.latitude
        longitude := filter.longitude } card := by
  have sorted := List.mem_of_mem_take member
  rcases List.mem_map.mp sorted with ⟨plain, kept, rfl⟩
  have kept := (List.mem_insertionSort _).mp kept
  have built := (List.mem_filter.mp kept).1
  rcases List.mem_append.mp built with merchant | washer
  · rcases List.mem_map.mp merchant with ⟨entry, visible, rfl⟩
    rcases List.mem_filter.mp visible with ⟨listed, funded⟩
    rcases mem_listedBranches listed with ⟨found, active, online⟩
    exact .merchant entry.1 entry.2 found active online funded rfl
  · rcases List.mem_map.mp washer with ⟨entry, visible, rfl⟩
    rcases List.mem_filter.mp visible with ⟨listed, funded⟩
    rcases mem_listedWashers listed with ⟨found, active, ⟨radius, reach⟩, location, pin⟩
    exact .washer entry.1 entry.2 radius location found active reach pin funded rfl

end

section

variable {market : Market} {database : Database} {branchId : ObjectId}
  {latitude longitude : Option ℚ}

theorem walletVisible_iff {wallet : Option Wallet} :
    walletVisible wallet = true ↔ ∃ stored, wallet = some stored ∧
      ¬(stored.activatedAt = none ∨ stored.balanceCentavos < DISCOVERY_ACCEPT_MIN_CENTAVOS) := by
  cases wallet with
  | none => simp [walletVisible]
  | some stored =>
    simp [walletVisible, Option.isSome_iff_ne_none, not_or, not_lt]

theorem assertProviderBookable_merchant {branch : Branch}
    (found : market.branches branchId = some branch)
    (active : branch.isActive = true) (online : branch.isOnline = true)
    (funded : walletVisible (database.wallets.wallets.lookup branchId) = true) :
    ∃ provider, assertProviderBookable market database .merchant branchId
      latitude longitude = .ok provider := by
  rcases walletVisible_iff.mp funded with ⟨wallet, stored, good⟩
  simp only [assertProviderBookable, found, active, online, stored, good]
  exact ⟨_, rfl⟩

def Within (distanceKm : ℚ → ℚ → ℚ → ℚ → ℚ)
    (latitude longitude : Option ℚ) (location : MapLocation) (radius : ℚ) :
    Prop :=
  ∀ north east, latitude = some north → longitude = some east →
    distanceKm north east location.latitude location.longitude ≤ radius

theorem assertWasherBookable_ok {washer : ListedWasher} {radius : ℚ}
    {location : MapLocation} (active : washer.isActive = true)
    (available : washer.isAvailable = true)
    (taking : market.bookingsPaused branchId = false)
    (reach : washer.serviceRadiusKm = some radius)
    (pin : washer.mapLocation = some location) :
    assertWasherBookable market branchId latitude longitude
        washer.toWasherProfile = .ok () ↔
      Within market.distanceKm latitude longitude location radius := by
  rw [ListedWasher.mapLocation] at pin
  split at pin
  · rename_i north east placed placed'
    cases pin
    rw [assertWasherBookable, active, available, taking, reach, placed, placed']
    cases latitude with
    | none => simp [Within]
    | some latitude =>
      cases longitude with
      | none | some => simp [Within]
  · cases pin

theorem assertProviderBookable_washer {washer : WasherProfile}
    (found : market.washers branchId = some washer)
    (funded : walletVisible (database.wallets.wallets.lookup branchId) = true) :
    (∃ provider, assertProviderBookable market database .washer branchId
        latitude longitude = .ok provider) ↔
      (market.branches branchId).isSome = true ∧
        assertWasherBookable market branchId latitude longitude washer = .ok () := by
  rcases walletVisible_iff.mp funded with ⟨wallet, stored, good⟩
  cases anchor : market.branches branchId with
  | none =>
    simp only [assertProviderBookable, anchor, Option.isSome_none,
      Bool.false_eq_true, false_and, iff_false, not_exists]
    exact fun _ impossible => by cases impossible
  | some branch =>
    simp only [assertProviderBookable, anchor, found, stored, good, Option.isSome_some, true_and]
    cases gate : assertWasherBookable market branchId latitude longitude washer with
    | error reason =>
      constructor
      · rintro ⟨_, impossible⟩
        cases impossible
      · exact fun impossible => by cases impossible
    | ok value => exact ⟨fun _ => rfl, fun _ => ⟨_, rfl⟩⟩

end

namespace Marketplace

/--
What a booking with a listed provider depends on besides what is listed: the branch
of a washer is there, and the customer is within her radius by the exact distance.
-/
def Serves (marketplace : Marketplace)
    (distanceKm : ℚ → ℚ → ℚ → ℚ → ℚ) (filter : DiscoverProvidersInput)
    (branchId : ObjectId) : ProviderType → Prop
  | .merchant => True
  | .washer =>
    (marketplace.branches.lookup branchId).isSome = true ∧
      ∀ washer radius location,
        marketplace.washers.lookup branchId = some washer →
        washer.serviceRadiusKm = some radius →
        washer.mapLocation = some location →
        Within distanceKm filter.latitude filter.longitude location radius

variable {marketplace : Marketplace} {now : Instant} {branchId : ObjectId}

theorem available_of_accepting {washer : ListedWasher} {left : Option ℕ}
    (accepting : marketplace.washerAcceptingBookings now branchId washer left = true) :
    washer.isAvailable = true ∧ marketplace.paused branchId = false := by
  rw [washerAcceptingBookings] at accepting
  split at accepting
  · cases accepting
  · rename_i available
    refine ⟨Bool.eq_true_of_not_eq_false available, ?_⟩
    split at accepting
    · cases accepting
    · rw [paused]
      cases configured : marketplace.bookings.configs.lookup branchId with
      | none => rfl
      | some config =>
        simp only [configured, isBookingAccepting, Bool.and_eq_true, Bool.not_eq_true'] at accepting
        exact accepting.2

end Marketplace

/--
A card that shows its provider accepts bookings is of one that the booking gate lets
in at the same position exactly when, for a washer, her branch is there and the exact
distance is within her radius.  The card of a provider that has paused shows so
exactly when it is a washer's.
-/
theorem discoveredCardsAreBookable {marketplace : Marketplace}
    {market : Market} {isMatch : String → String → Bool}
    {weekday : DayKey} {now : Instant} {uid : Uid}
    {filter : DiscoverProvidersInput} {card : ProviderCard}
    (member : card ∈ marketplace.discoverProviders isMatch
      market.distanceKm weekday now uid filter) :
    (card.isAcceptingBookings = true →
      ((∃ provider, assertProviderBookable (marketplace.booked now market)
          marketplace.database card.providerType card.branchId
          filter.latitude filter.longitude = .ok provider) ↔
        marketplace.Serves market.distanceKm filter card.branchId card.providerType)) ∧
      (marketplace.paused card.branchId = true →
        (card.isAcceptingBookings = false ↔ card.providerType = .washer)) := by
  cases listed_of_mem member with
  | merchant branchId branch found active online visible shows =>
    subst shows
    constructor
    · intro _
      apply iff_of_true _ trivial
      apply assertProviderBookable_merchant _ active online visible
      rw [Marketplace.booked_branches, found]
      rfl
    · intro _
      have accepts : Marketplace.merchantAcceptingBookings branch =
          true := by
        rw [Marketplace.merchantAcceptingBookings, active, online]
        rfl
      constructor
      · intro refuses
        have shown : Marketplace.merchantAcceptingBookings branch =
            false :=
          refuses
        rw [accepts] at shown
        cases shown
      · exact fun impossible => by cases impossible
  | washer branchId washer radius location found active reach pin visible shows =>
    subst shows
    have stored : (marketplace.booked now market).washers branchId =
        some washer.toWasherProfile := by
      rw [Marketplace.booked_washers, found]
      rfl
    constructor
    · intro accepting
      rcases Marketplace.available_of_accepting accepting with ⟨available, taking⟩
      have gate := @assertWasherBookable_ok
        (marketplace.booked now market) branchId filter.latitude
        filter.longitude washer radius location active available taking
        reach pin
      refine (assertProviderBookable_washer stored visible).trans ?_
      rw [gate]
      apply and_congr
      · rw [Marketplace.booked_branches, Option.isSome_map]
        exact Iff.rfl
      · constructor
        · intro within other radius' location' found' reach' pin'
          cases found.symm.trans found'
          cases reach.symm.trans reach'
          cases pin.symm.trans pin'
          exact within
        · exact fun serves => serves washer radius location found reach pin
    · intro paused
      apply iff_of_true _ rfl
      apply Bool.eq_false_iff.mpr
      intro accepting
      have taking := (Marketplace.available_of_accepting accepting).2
      exact Bool.false_ne_true (taking.symm.trans paused)

/-! ## A washer on the map -/

namespace Sample

def bookings : Bookings.Store where
  configs := ∅
  overrides := []
  blackouts := []
  washers := ∅
  policy := none
  milestones := []
  campaigns := []
  orders := []
  counters _ := 0
  overrides_unique := Bookings.Store.unique_nil

def funded : Database :=
  { State.start.database with
    wallets :=
      { WalletStore.empty with
        wallets := AList.singleton "branch"
          { branchId := "branch"
            balanceCentavos := 100000
            activatedAt := some 0 } } }

/-- The washer of the shop, who serves five kilometres around. -/
def marketplace : Marketplace where
  templates := AList.singleton "wash"
    { name := "Wash"
      isActive := true
      isPlatformFixed := true
      platformPricingModel := some .perKg
      platform := { model := .perKg, priceCentavos := 5000 } }
  services := ∅
  offerings := ∅
  feeRules := { rules := [] }
  feeConfigs := []
  branches := AList.singleton "branch"
    { toBranch := Shop.branch
      branchMapLocation := { latitude := 0, longitude := 0 } }
  washers := AList.singleton "branch" { toWasherProfile := Shop.washer }
  categories _ := ""
  favorites := []
  bookings
  createdAt _ := 0
  database := funded

def market (km : ℚ) : Market := { Shop.market with distanceKm := fun _ _ _ _ => km }

def position : DiscoverProvidersInput := { latitude := some 14, longitude := some 121 }

def cards (km : ℚ) : List ProviderCard :=
  marketplace.discoverProviders (fun _ _ => true) (market km).distanceKm
    .monday now "customer" position

def shown (card : ProviderCard) :
    ObjectId × ProviderType × Bool × Option ℚ :=
  (card.branchId, card.providerType, card.isAcceptingBookings, card.distanceKm)

theorem card_of_shown {cards : List ProviderCard}
    {seen : ObjectId × ProviderType × Bool × Option ℚ}
    (only : cards.map shown = [seen]) :
    ∃ card ∈ cards, shown card = seen := by
  have member : seen ∈ cards.map shown := by
    rw [only]
    exact List.mem_singleton_self seen
  rcases List.mem_map.mp member with ⟨card, listed, same⟩
  exact ⟨card, listed, same⟩

end Sample

/-- She is shown, and bookable, three kilometres away. -/
theorem discoveredCardsAreBookable_near :
    ∃ card ∈ Sample.cards 3,
      Sample.shown card = ("branch", .washer, true, some 3) ∧
        (card.isAcceptingBookings = true → ((∃ provider, assertProviderBookable
              (Sample.marketplace.booked Sample.now (Sample.market 3))
              Sample.marketplace.database card.providerType card.branchId
              Sample.position.latitude Sample.position.longitude = .ok provider) ↔
            Sample.marketplace.Serves (Sample.market 3).distanceKm
              Sample.position card.branchId card.providerType)) ∧
          (Sample.marketplace.paused card.branchId = true →
            (card.isAcceptingBookings = false ↔ card.providerType = .washer)) := by
  have only : (Sample.cards 3).map Sample.shown = [("branch", .washer, true, some 3)] := by
    decide +kernel
  rcases Sample.card_of_shown only with ⟨card, listed, same⟩
  exact ⟨card, listed, same, discoveredCardsAreBookable listed⟩

/-- Forty metres beyond her radius she is still shown, and refused. -/
theorem shownBeyondTheRadius :
    ¬ ∀ (marketplace : Marketplace) (market : Market)
        (isMatch : String → String → Bool) (weekday : DayKey)
        (now : Instant) (uid : Uid) (filter : DiscoverProvidersInput),
        ∀ card ∈ marketplace.discoverProviders isMatch market.distanceKm
            weekday now uid filter,
          (card.isAcceptingBookings = true → ∃ provider, assertProviderBookable
              (marketplace.booked now market) marketplace.database
              card.providerType card.branchId filter.latitude
              filter.longitude = .ok provider) ∧
            (marketplace.paused card.branchId = true → card.isAcceptingBookings = false) := by
  intro always
  have only : (Sample.cards (504 / 100)).map Sample.shown =
      [("branch", .washer, true, some 5)] := by
    decide +kernel
  rcases Sample.card_of_shown only with ⟨card, listed, same⟩
  simp only [Sample.shown, Prod.mk.injEq] at same
  rcases same with ⟨branch, type, accepting, _⟩
  rcases (always Sample.marketplace (Sample.market (504 / 100)) _ _ _ _ _
    card listed).1 accepting with ⟨provider, passed⟩
  rw [branch, type] at passed
  have refused : (assertProviderBookable
      (Sample.marketplace.booked Sample.now (Sample.market (504 / 100)))
      Sample.marketplace.database .washer "branch"
      Sample.position.latitude
      Sample.position.longitude).toOption.isNone = true := by
    decide +kernel
  rw [passed] at refused
  cases refused

end Lalaba.Discovery
