import Lalaba.Bookings.PhTime
import Lalaba.Orders.Status
import Mathlib.Algebra.Order.Floor.Ring
import Mathlib.Data.List.Sort
import Mathlib.Data.NNRat.Defs
import Mathlib.Data.Rat.Floor

/-!
# What a provider is entitled to

The entitlement of a provider on a date is computed and never stored: the defaults
of the platform policy, the milestone she has earned, the campaigns that cover the
date, and the safety limits over all of it.
-/

namespace Lalaba.Bookings

open Orders (OrderStatus ProviderType)

/-! ## Records of the platform -/

/-- The facts milestones are evaluated against. -/
structure ProviderStats where
  completedOrders : ℕ
  rating : Option ℚ
  cancellationRatePercent : Option ℚ
  isVerified : Bool
  inGoodStanding : Bool

def NEW_PROVIDER_STATS : ProviderStats where
  completedOrders := 0
  rating := none
  cancellationRatePercent := none
  isVerified := false
  inGoodStanding := true

/-- The thresholds of a milestone; one that is missing is not tested. -/
structure MilestoneEligibility where
  minCompletedOrders : Option ℕ := none
  minRating : Option ℚ := none
  maxCancellationRatePercent : Option ℚ := none
  requireVerified : Bool := false
  requireGoodStanding : Bool := false
deriving DecidableEq

structure MilestoneEntitlements where
  dailyCapacity : ℕ
  advanceBookingDays : ℕ
deriving DecidableEq

structure BookingMilestone where
  key : String
  name : String
  rank : ℤ
  isDefault : Bool
  isActive : Bool
  eligibility : MilestoneEligibility
  entitlements : MilestoneEntitlements
deriving DecidableEq

inductive CampaignModifierMode where
  | replace
  | multiply
  | increaseBy
deriving DecidableEq

structure CampaignModifier where
  mode : CampaignModifierMode
  value : ℚ≥0
deriving DecidableEq

inductive CampaignScope where
  | everyone
  | providerType
  | milestone
deriving DecidableEq

structure CampaignTargeting where
  scope : CampaignScope := .everyone
  providerType : Option ProviderType := none
  milestoneKeys : List String := []
deriving DecidableEq

/-- A campaign; its dates are texts, and compared as texts. -/
structure BookingCampaign where
  _id : ObjectId
  name : String
  startDate : String
  endDate : String
  isEnabled : Bool
  targeting : CampaignTargeting
  dailyCapacity : Option CampaignModifier
  advanceBookingDays : Option CampaignModifier
deriving DecidableEq

/-- A window of a day, from one `HH:MM` to another. -/
structure BookingWindow where
  start : String
  end_ : String
deriving DecidableEq

/-- A day of the platform's outer week. -/
structure UniversalDay where
  isOpen : Bool
  windows : List BookingWindow

structure PolicyDefaults where
  dailyCapacity : ℕ := 3
  advanceBookingDays : ℕ := 14
  leadTimeMinutes : ℕ := 120
  sameDayBookingEnabled : Bool := true
  sameDayCutoffTime : String := "17:00"

structure PolicySafetyLimits where
  dailyCapacity : ℕ := 100
  advanceBookingDays : ℕ := 60

/-- The platform booking policy that is live. -/
structure BookingPolicy where
  enabled : Bool := true
  defaults : PolicyDefaults := {}
  universalDays : DayKey → UniversalDay
  safetyLimits : PolicySafetyLimits := {}

/-- The policy `current` publishes when there is none. -/
def BookingPolicy.seed : BookingPolicy where
  universalDays _ := { isOpen := true, windows := [{ start := "06:00", end_ := "22:00" }] }

def satisfies (milestone : BookingMilestone) (stats : ProviderStats) :
    Bool :=
  let e := milestone.eligibility
  (e.minCompletedOrders.all fun least =>
    decide (least ≤ stats.completedOrders)) &&
  (e.minRating.all fun least =>
    stats.rating.any fun rating => decide (least ≤ rating)) &&
  (e.maxCancellationRatePercent.all fun most =>
    stats.cancellationRatePercent.all fun rate => decide (rate ≤ most)) &&
  (!e.requireVerified || stats.isVerified) &&
  (!e.requireGoodStanding || stats.inGoodStanding)

/-- The earned milestone of the highest rank, or the default one. -/
def resolveMilestone (milestones : List BookingMilestone)
    (stats : ProviderStats) : Option BookingMilestone :=
  let active := milestones.filter (·.isActive)
  let earned := (active.filter fun milestone =>
    !milestone.isDefault && satisfies milestone stats).insertionSort
      fun first second => second.rank ≤ first.rank
  match earned with
  | milestone :: _ => some milestone
  | [] =>
    match active.find? (·.isDefault) with
    | some milestone => some milestone
    | none => (active.insertionSort fun first second =>
      first.rank ≤ second.rank).head?

def isCampaignLive (campaign : BookingCampaign) (date : String) : Bool :=
  campaign.isEnabled && decide (campaign.startDate ≤ date) && decide (date ≤ campaign.endDate)

def campaignApplies (campaign : BookingCampaign)
    (providerType : ProviderType) (milestoneKey : Option String) : Bool :=
  match campaign.targeting.scope with
  | .everyone => true
  | .providerType =>
    campaign.targeting.providerType == some providerType
  | .milestone => milestoneKey.any fun key =>
    decide (key ∈ campaign.targeting.milestoneKeys)

def applyModifier (base : ℕ) : Option CampaignModifier → ℕ
  | none => base
  | some modifier =>
    match modifier.mode with
    | .replace => ⌊(modifier.value : ℚ)⌋.toNat
    | .multiply => ⌊(base : ℚ) * modifier.value⌋.toNat
    | .increaseBy => base + ⌊(modifier.value : ℚ)⌋.toNat

/-- One step of the calculation, as the simulator shows it. -/
structure EntitlementStep where
  label : String
  dailyCapacity : Option ℕ
  advanceBookingDays : ℕ
deriving DecidableEq

/-- What a provider may take; without a daily capacity there is no cap. -/
structure EffectiveEntitlement where
  dailyCapacity : Option ℕ
  advanceBookingDays : ℕ
  leadTimeMinutes : ℕ
  sameDayBookingEnabled : Bool
  sameDayCutoffTime : String
  bookingsEnabled : Bool
  milestoneKey : Option String
  milestoneName : Option String
  appliedCampaignIds : List ObjectId
  appliedCampaignNames : List String
  cappedBySafetyLimit : Bool
  steps : List EntitlementStep
deriving DecidableEq

def applyCampaign (so : EntitlementStep) (campaign : BookingCampaign) : EntitlementStep where
  label := "Campaign: " ++ campaign.name
  dailyCapacity := so.dailyCapacity.map fun daily =>
    applyModifier daily campaign.dailyCapacity
  advanceBookingDays := applyModifier so.advanceBookingDays campaign.advanceBookingDays

/-- The whole calculation for one date. -/
def resolveEntitlement (policy : Option BookingPolicy)
    (milestones : List BookingMilestone)
    (campaigns : List BookingCampaign) (stats : ProviderStats)
    (providerType : ProviderType) (date : String) : EffectiveEntitlement :=
  let defaults := (policy.map BookingPolicy.defaults).getD {}
  let safety := (policy.map BookingPolicy.safetyLimits).getD {}
  -- Capacity is a concept of home washers; timing applies to both.
  let capacityApplies := providerType == .washer
  let platform : EntitlementStep :=
    { label := "Platform default"
      dailyCapacity :=
        if capacityApplies then some defaults.dailyCapacity else none
      advanceBookingDays := defaults.advanceBookingDays }
  let milestone :=
    if capacityApplies then resolveMilestone milestones stats else none
  let earned : List EntitlementStep :=
    match milestone with
    | none => [platform]
    | some milestone =>
      [ platform,
        { label := "Milestone: " ++ milestone.name
          dailyCapacity := some milestone.entitlements.dailyCapacity
          advanceBookingDays := milestone.entitlements.advanceBookingDays } ]
  let live := (campaigns.filter fun campaign =>
    isCampaignLive campaign date).filter fun campaign =>
      campaignApplies campaign providerType (milestone.map BookingMilestone.key)
  let steps := live.foldl (fun steps campaign =>
    steps ++ [applyCampaign (steps.getLastD platform) campaign]) earned
  let beforeCap := steps.getLastD platform
  let capped : EntitlementStep :=
    { label := "Platform safety limit"
      dailyCapacity := beforeCap.dailyCapacity.map fun daily =>
        min daily safety.dailyCapacity
      advanceBookingDays := min beforeCap.advanceBookingDays safety.advanceBookingDays }
  let cappedBySafetyLimit :=
    beforeCap.dailyCapacity != capped.dailyCapacity ||
      beforeCap.advanceBookingDays != capped.advanceBookingDays
  { dailyCapacity := capped.dailyCapacity
    advanceBookingDays := capped.advanceBookingDays
    leadTimeMinutes := defaults.leadTimeMinutes
    sameDayBookingEnabled := defaults.sameDayBookingEnabled
    sameDayCutoffTime := defaults.sameDayCutoffTime
    bookingsEnabled := (policy.map BookingPolicy.enabled).getD true
    milestoneKey := milestone.map BookingMilestone.key
    milestoneName := milestone.map BookingMilestone.name
    appliedCampaignIds := live.map BookingCampaign._id
    appliedCampaignNames := live.map BookingCampaign.name
    cappedBySafetyLimit
    steps := if cappedBySafetyLimit then steps ++ [capped] else steps }

theorem resolveEntitlement_undated (policy : Option BookingPolicy)
    (milestones : List BookingMilestone)
    (campaigns campaigns' : List BookingCampaign) (stats : ProviderStats)
    (providerType : ProviderType) (date date' : String) :
    (resolveEntitlement policy milestones campaigns stats providerType
        date).leadTimeMinutes =
      (resolveEntitlement policy milestones campaigns' stats providerType date').leadTimeMinutes ∧
    (resolveEntitlement policy milestones campaigns stats providerType
        date).sameDayBookingEnabled =
      (resolveEntitlement policy milestones campaigns' stats providerType
        date').sameDayBookingEnabled ∧
    (resolveEntitlement policy milestones campaigns stats providerType
        date).sameDayCutoffTime =
      (resolveEntitlement policy milestones campaigns' stats providerType date').sameDayCutoffTime ∧
    (resolveEntitlement policy milestones campaigns stats providerType
        date).bookingsEnabled =
      (resolveEntitlement policy milestones campaigns' stats providerType date').bookingsEnabled :=
  ⟨rfl, rfl, rfl, rfl⟩

end Lalaba.Bookings
