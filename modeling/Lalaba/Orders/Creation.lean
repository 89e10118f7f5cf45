import Lalaba.Orders.Service

/-!
# Placing an order

`createOrder` up to its transaction: the bookability gate, the priced service
lines, the fees around them, the promo code, and the document they make up.
-/

namespace Lalaba.Orders

open Promotions
open Wallets

/-! ## What an order is priced from -/

structure Address where
  uid : Uid
  isArchived : Bool
  latitude : Option ℚ
  longitude : Option ℚ

/-- A service of a merchant's branch. -/
structure MerchantService extends ServiceLinePricingParams where
  branchId : ObjectId
  serviceName : String
  isArchived : Bool
  isOnline : Bool

inductive WasherPricingModel where
  | perKg
  | perLoad
  | perItem
  | baseExcess
deriving DecidableEq

/-- The fields a price is resolved from, whichever side set them. -/
structure PricingSource where
  model : WasherPricingModel
  priceCentavos : ℚ≥0
  loadCapacityKg : Option ℚ≥0 := none
  baseWeightKg : Option ℚ≥0 := none
  excessRatePerKgCentavos : Option ℚ≥0 := none
  minBillableKg : Option ℚ≥0 := none
  unit : Option String := none
  minQuantity : Option ℕ := none
  maxQuantity : Option ℕ := none
deriving DecidableEq

/-- A service washers may offer; `platform` are the platform's own numbers. -/
structure WasherServiceTemplate where
  name : String
  isActive : Bool
  isPlatformFixed : Bool
  platformPricingModel : Option WasherPricingModel
  platform : PricingSource

/-- What an order line is priced by, with the limits of its quantity. -/
structure ResolvedWasherPricing extends ServiceLinePricingParams where
  unit : Option String := none
  minQuantity : Option ℕ := none
  maxQuantity : Option ℕ := none

/-- Turn a pricing source into the shape the order engine consumes. -/
def priceFromSource (source : PricingSource) : ResolvedWasherPricing :=
  match source.model with
  | .perKg =>
    { pricingType := .perKilo
      price := source.priceCentavos
      baseKilos := none
      excessRate := none
      minBillableKg := source.minBillableKg }
  | .perLoad =>
    { pricingType := .perLoadWithCapacity
      price := source.priceCentavos
      baseKilos := source.loadCapacityKg
      excessRate := none
      minBillableKg := none }
  | .perItem =>
    { pricingType := .perPiece
      price := source.priceCentavos
      baseKilos := none
      excessRate := none
      minBillableKg := none
      unit := some (source.unit.getD "piece")
      minQuantity := source.minQuantity
      maxQuantity := source.maxQuantity }
  | .baseExcess =>
    { pricingType := .perKiloWithBase
      price := source.priceCentavos
      baseKilos := some (source.baseWeightKg.getD 0)
      excessRate := some (source.excessRatePerKgCentavos.getD 0)
      minBillableKg := source.minBillableKg }

def platformPricingOf (template : WasherServiceTemplate) :
    ResolvedWasherPricing :=
  priceFromSource { template.platform with
      model := template.platformPricingModel.getD .baseExcess
      minQuantity := none
      maxQuantity := none }

def resolveWasherPricing (template : WasherServiceTemplate)
    (offering : Option PricingSource) : ResolvedWasherPricing :=
  if template.isPlatformFixed then
    platformPricingOf template
  else
    match offering with
    | none => platformPricingOf template
    | some offering => priceFromSource offering

/-- A per-piece line needs a count within the washer's limits. -/
def assertQuantityWithinOfferingLimits (pricing : ResolvedWasherPricing)
    (requestedCount : Option ℕ) (serviceName : String) :
    Except ServiceError Unit :=
  if pricing.pricingType ≠ .perPiece then
    .ok ()
  else
    let unit := pricing.unit.getD "piece"
    let count := requestedCount.getD 0
    if count < 1 then
      .error (.badRequest ("Choose how many " ++ unit ++ "s of \"" ++
        serviceName ++ "\" you need."))
    else if pricing.minQuantity.any fun least => decide (count < least) then
      let least := pricing.minQuantity.getD 0
      .error (.badRequest ("This washer takes at least " ++
        toString least ++ " " ++ unit ++ (if 1 < least then "s" else "") ++
        " of \"" ++ serviceName ++ "\" per booking."))
    else if pricing.maxQuantity.any fun most => decide (most < count) then
      let most := pricing.maxQuantity.getD 0
      .error (.badRequest ("This washer can take at most " ++
        toString most ++ " " ++ unit ++ (if 1 < most then "s" else "") ++
        " of \"" ++ serviceName ++ "\" per booking."))
    else
      .ok ()

structure Product where
  price : ℚ≥0
  inventoryId : ObjectId
  isActive : Bool
  isArchived : Bool

/-- `resolveCommissionSnapshot`. -/
structure CommissionSnapshot where
  percent : ℚ≥0
  ruleKey : Option String
  ruleVersion : Option ℕ

/--
The collections and services `createOrder` reads besides the order database.
Case mapping of texts and the booking calendar of a provider are taken as they
are.
-/
structure Market extends Environment where
  addresses : ObjectId → Option Address
  bookingsPaused : ObjectId → Bool
  services : ObjectId → Option MerchantService
  templates : ObjectId → Option WasherServiceTemplate
  offerings : ObjectId → ObjectId → Option PricingSource
  products : ObjectId → Option Product
  inventoryBranch : ObjectId → Option ObjectId
  commission : ProviderType → CommissionSnapshot
  fulfillmentPricing : ObjectId → Option FulfillmentPricingConfig × ℕ
  offersProviderDelivery : ObjectId → ProviderType → Bool
  assertDayBookable : ObjectId → ProviderType → String → Bool →
    Database → Except ServiceError ScheduledPickup
  toUpperCase : String → String

structure OrderServiceLineInput where
  serviceRefId : ObjectId
  estimatedWeightKg : Option ℚ≥0 := none
  estimatedPieceCount : Option ℕ := none
  note : Option String := none
  replacementProductIds : List ObjectId := []
deriving DecidableEq

structure CreateOrderInput where
  providerType : ProviderType
  branchId : ObjectId
  addressId : ObjectId
  serviceLines : List OrderServiceLineInput
  pickupMode : FulfillmentPickupMode
  pickupSubMode : Option DeliverySubMode := none
  returnMode : FulfillmentReturnMode
  deliverySubMode : Option DeliverySubMode := none
  turnaroundTier : Option TurnaroundTierCode := none
  paymentTiming : Option PaymentTiming := none
  scheduledPickupDate : Option String
  promoCode : Option String := none

/-- A provider that may be booked. -/
structure BookableProvider where
  branch : Branch
  washer : Option WasherProfile
  providerName : String
  providerUid : Uid

def washerStoreName (washer : WasherProfile) : String :=
  let name := trimmed washer.storeName
  if name = "" then "Home Laundry" else name

/-- The gates of a washer at creation: switches, then the service area. -/
def assertWasherBookable (market : Market) (branchId : ObjectId)
    (latitude longitude : Option ℚ) (washer : WasherProfile) :
    Except ServiceError Unit :=
  if washer.isActive = false then
    .error (.badRequest "This washer is not currently active on the platform")
  else if washer.isAvailable = false then
    .error (.badRequest "This washer is not accepting bookings right now")
  else if market.bookingsPaused branchId then
    .error (.badRequest "This washer has paused new bookings right now")
  else
    match washer.serviceRadiusKm, washer.latitude, washer.longitude with
    | some radius, some washerLatitude, some washerLongitude =>
      match latitude, longitude with
      | some latitude, some longitude =>
        if radius < market.distanceKm latitude longitude
            washerLatitude washerLongitude then
          .error (.badRequest "This address is outside the washer’s service area")
        else
          .ok ()
      | _, _ => .ok ()
    | _, _, _ => .error (.badRequest
        "This washer has not set up her service area yet")

/-- `assertProviderBookable` at the stages `quote` and `create`. -/
def assertProviderBookable (market : Market) (database : Database)
    (providerType : ProviderType) (branchId : ObjectId)
    (latitude longitude : Option ℚ) :
    Except ServiceError BookableProvider := do
  let some branch := market.branches branchId
    | throw (.badRequest "Provider branch not found")
  let provider ← (match providerType with
    | .washer => do
        let some washer := market.washers branchId
          | throw (.badRequest "Washer not found")
        assertWasherBookable market branchId latitude longitude washer
        pure
          { branch
            washer := some washer
            providerName := washerStoreName washer
            providerUid := washer.uid }
    | .merchant => do
        if branch.isActive = false then
          throw (.badRequest "This branch is not active")
        if branch.isOnline = false then
          throw (.badRequest "This branch is currently closed for online orders")
        pure
          { branch
            washer := none
            providerName := branch.branchName
            providerUid := branch.uid } :
    Except ServiceError BookableProvider)
  match database.wallets.wallets.lookup branchId with
  | none => throw (.badRequest
      "This provider is not currently able to take marketplace orders")
  | some wallet =>
    if wallet.activatedAt = none ∨
        wallet.balanceCentavos < DISCOVERY_ACCEPT_MIN_CENTAVOS then
      throw (.badRequest ("This provider is not currently able to " ++ "take marketplace orders"))
    return provider

def assertWasherUnderDailyCap (clock : Clock) (database : Database)
    (washer : WasherProfile) (branchId : ObjectId)
    (scheduledDay : String) : Except ServiceError Unit :=
  match washer.maxOrdersPerDay with
  | none => .ok ()
  | some cap =>
    assertUnderCap clock cap (database.countScheduled branchId scheduledDay none) scheduledDay

/-- The surcharge of the products a customer swapped in. -/
def productSurcharge (market : Market) (branchId : ObjectId)
    (replacementProductIds : List ObjectId) : Except ServiceError ℚ≥0 :=
  let requestedIds := replacementProductIds.dedup
  let products := (requestedIds.filterMap market.products).filter
    fun product => product.isActive && !product.isArchived
  let allOwned :=
    products.length == requestedIds.length && products.all fun product =>
        market.inventoryBranch product.inventoryId == some branchId
  if allOwned then
    .ok (products.map Product.price).sum
  else
    .error (.badRequest ("One or more replacement products are not " ++
      "available from this provider"))

/-- The name and the price of a line's service. -/
def resolveService (market : Market) (providerType : ProviderType)
    (line : OrderServiceLineInput) (branchId : ObjectId)
    (washer : Option WasherProfile) :
    Except ServiceError (String × ServiceLinePricingParams) :=
  match providerType with
  | .washer =>
    let offered := (washer.map WasherProfile.offeredServiceTemplateIds).getD []
    if line.serviceRefId ∉ offered then
      .error (.badRequest "This washer does not offer the selected service")
    else
      match market.templates line.serviceRefId with
      | none => .error (.badRequest
          "Service template not found or inactive")
      | some template =>
        if template.isActive = false then
          .error (.badRequest "Service template not found or inactive")
        else do
          let resolved := resolveWasherPricing template
            (market.offerings branchId line.serviceRefId)
          assertQuantityWithinOfferingLimits resolved line.estimatedPieceCount template.name
          return (template.name, resolved.toServiceLinePricingParams)
  | .merchant =>
    match market.services line.serviceRefId with
    | none => .error (.badRequest
        "Service not found for this provider or inactive")
    | some service =>
      if service.branchId ≠ branchId ∨ service.isArchived ∨
          service.isOnline = false then
        .error (.badRequest "Service not found for this provider or inactive")
      else
        .ok (service.serviceName, { service.toServiceLinePricingParams with
            minBillableKg := none })

def buildServiceLineSnapshot (market : Market)
    (providerType : ProviderType) (branchId : ObjectId)
    (washer : Option WasherProfile) (line : OrderServiceLineInput) :
    Except ServiceError ServiceLineSnapshot := do
  let (serviceName, params) ← resolveService market providerType line branchId washer
  let surcharge ← productSurcharge market branchId line.replacementProductIds
  return {
    toServiceLinePricingParams := params
    serviceRefId := line.serviceRefId
    serviceName
    productSurchargeCentavos := surcharge
    estimatedLineTotalCentavos :=
      calculateServiceLineTotal params line.estimatedWeightKg line.estimatedPieceCount + surcharge
    estimatedPieceCount := line.estimatedPieceCount
    note := (line.note.map trimmed).filter fun note => note != "" }

/-! ## The order -/

def redeemerOf (environment : Environment) (database : Database)
    (customerUid : Uid) : Option Redeemer :=
  (environment.users customerUid).map fun user =>
    { uid := customerUid
      roleId := user.roleId
      hasOrdered := database.orders.entries.any fun entry =>
        entry.2.customer.uid == customerUid }

/-- `validate`: the discount of a code, or the refusal. -/
def promoDiscount (market : Market) (clock : Clock) (customerUid : Uid)
    (code : String) (orderTotalCentavos : ℚ) (database : Database) :
    Except ServiceError ℚ :=
  match database.promotions.findByCode (market.toUpperCase code) with
  | none => .error (.badRequest "Code not found")
  | some promo =>
    match database.promotions.validateAgainst clock.now promo
        (redeemerOf market.toEnvironment database customerUid)
        orderTotalCentavos with
    | .error reason => .error (.badRequest reason)
    | .ok discountCentavos => .ok discountCentavos

/-- The components an estimate is added up from. -/
structure Estimate where
  serviceSubtotalCentavos : ℚ
  commission : CommissionSnapshot
  pickupFeeCentavos : ℕ
  returnFeeCentavos : ℕ
  turnaround : ResolvedTurnaround

namespace Estimate

def feeCentavos (estimate : Estimate) : ℤ :=
  calculatePlatformFee estimate.serviceSubtotalCentavos estimate.commission.percent

def preDiscountTotalCentavos (estimate : Estimate) : ℚ :=
  estimate.serviceSubtotalCentavos + estimate.feeCentavos +
    estimate.pickupFeeCentavos + estimate.returnFeeCentavos +
    estimate.turnaround.feeCentavos

/-- The pricing snapshot an order is created with. -/
def pricing (estimate : Estimate) (promoCode : Option String)
    (discountCentavos : ℚ) : OrderPricing where
  estimatedTotalCentavos := estimate.preDiscountTotalCentavos - discountCentavos
  platformFeePercent := some estimate.commission.percent
  platformFeeCentavos := some estimate.feeCentavos
  feeRuleKey := estimate.commission.ruleKey
  feeRuleVersion := estimate.commission.ruleVersion
  serviceSubtotalCentavos := some estimate.serviceSubtotalCentavos
  pickupFeeCentavos := some estimate.pickupFeeCentavos
  returnFeeCentavos := some estimate.returnFeeCentavos
  turnaroundFeeCentavos := some estimate.turnaround.feeCentavos
  pricingRuleVersion := some PRICING_RULE_VERSION
  promoCode := promoCode
  discountCentavos :=
    if discountCentavos = 0 then none else some discountCentavos

end Estimate

/-- The order `createOrder` is about to insert. -/
def newOrder (orderId : ObjectId) (customer : User)
    (input : CreateOrderInput) (provider : BookableProvider)
    (serviceLines : List ServiceLineSnapshot) (estimate : Estimate)
    (promoCode : Option String) (discountCentavos : ℚ) : OnlineOrder where
  _id := orderId
  customer := { uid := customer._id }
  provider :=
    { providerType := input.providerType
      providerUid := provider.providerUid
      branchId := input.branchId
      providerName := provider.providerName
      allowsPayAtHandover := provider.branch.allowsPayAtHandover.getD false }
  serviceLines := serviceLines
  fulfillment :=
    { pickupMode := input.pickupMode
      pickupSubMode := input.pickupSubMode
      returnMode := input.returnMode
      deliverySubMode := input.deliverySubMode
      scheduledPickup := none }
  turnaround :=
    { tierCode := estimate.turnaround.tierCode
      feeCentavos := estimate.turnaround.feeCentavos
      slaHours := estimate.turnaround.slaHours
      promisedCompletionAt := none }
  pricing := estimate.pricing promoCode discountCentavos
  paymentSummary := {}
  paymentTiming := input.paymentTiming.getD .onPickup
  pickupAssignment := none
  returnAssignment := none
  pickupAttempts := []
  deliveryAttempts := []
  pickupProof := none
  returnProof := none
  activeQualityHold := none
  status := .draft
  version := 0
  cancellationReason := none
  rejectionReason := none
  completedAt := none
  abandonmentDeadlineAt := none
  __v := 0

def requestedCode (input : CreateOrderInput) : Option String :=
  (input.promoCode.map trimmed).filter fun code => code != ""

def ownAddress (market : Market) (addressId : ObjectId) (customer : User) :
    Except ServiceError Address :=
  match market.addresses addressId with
  | none => .error (.badRequest "Address not found")
  | some address =>
    if address.uid ≠ customer._id ∨ address.isArchived then
      .error (.badRequest "Address not found")
    else
      .ok address

def assertDayOpen (clock : Clock) (database : Database)
    (input : CreateOrderInput) :
    Option WasherProfile → Except ServiceError Unit
  | some washer =>
    assertWasherUnderDailyCap clock database washer input.branchId
      (input.scheduledPickupDate.getD clock.phDayKey)
  | none => .ok ()

def assertTurnaroundOffered (input : CreateOrderInput) :
    Except ServiceError Unit :=
  if input.turnaroundTier = some .express ∧
      input.providerType ≠ .merchant then
    .error (.badRequest "Express turnaround is only available from laundry shops.")
  else
    .ok ()

def requestedDiscount (market : Market) (clock : Clock) (customer : User)
    (input : CreateOrderInput) (orderTotalCentavos : ℚ)
    (database : Database) : Except ServiceError ℚ :=
  match requestedCode input with
  | none => .ok 0
  | some code => promoDiscount market clock customer._id code
      orderTotalCentavos database

def requirePickupDate (input : CreateOrderInput) :
    Except ServiceError String :=
  match input.scheduledPickupDate with
  | none => .error (.badRequest "Please choose a pickup date.")
  | some date => .ok date

def assertReturnOffered (market : Market) (input : CreateOrderInput) :
    Except ServiceError Unit :=
  if input.returnMode = .providerDelivery ∧
      market.offersProviderDelivery input.branchId input.providerType = false then
    .error (.badRequest ("This provider does not deliver — choose to " ++
      "collect your laundry instead."))
  else
    .ok ()

/-- `createOrder` up to its transaction. -/
def createOrder (market : Market) (clock : Clock) (customer : User)
    (input : CreateOrderInput) (orderId : ObjectId)
    (database : Database) :
    Except ServiceError (Callback × OrderDocument) := do
  let address ← ownAddress market input.addressId customer
  let provider ← assertProviderBookable market database
    input.providerType input.branchId address.latitude address.longitude
  assertDayOpen clock database input provider.washer
  let serviceLines ← input.serviceLines.mapM
    (buildServiceLineSnapshot market input.providerType input.branchId provider.washer)
  let (config, ceiling) := market.fulfillmentPricing input.branchId
  let (pickupFee, returnFee) ← resolveFulfillmentFees input.pickupMode
    input.pickupSubMode input.returnMode input.deliverySubMode config
    ceiling
  assertTurnaroundOffered input
  let turnaround ← resolveTurnaround input.turnaroundTier config ceiling
  let estimate : Estimate :=
    { serviceSubtotalCentavos :=
        (serviceLines.map ServiceLineSnapshot.estimatedLineTotalCentavos).sum
      commission := market.commission input.providerType
      pickupFeeCentavos := pickupFee
      returnFeeCentavos := returnFee
      turnaround }
  let discountCentavos ← requestedDiscount market clock customer input
    estimate.preDiscountTotalCentavos database
  let order := newOrder orderId customer input provider serviceLines
    estimate ((requestedCode input).map market.toUpperCase)
    discountCentavos
  let date ← requirePickupDate input
  assertReturnOffered market input
  return (.create customer._id
      (market.assertDayBookable input.branchId input.providerType date
        (input.pickupMode = .customerDropoff))
      ((requestedCode input).map fun code =>
        { code := market.toUpperCase code
          orderTotalCentavos := estimate.preDiscountTotalCentavos }),
    OrderDocument.draft order)

end Lalaba.Orders
