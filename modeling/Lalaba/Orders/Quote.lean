import Lalaba.Orders.Redemption

/-!
# The quote of an order

`quoteOrder` prices a booking without placing it.  It resolves the service lines, the
legs, the turnaround, the commission and the promo code by itself and adds the amounts
up by itself; an order that is placed from the same database is priced alike.
-/

namespace Lalaba.Orders

open Foundation
open Foundation.Program
open Promotions

/-! ## Quoting -/

structure QuoteServiceLineInput where
  serviceRefId : ObjectId
  estimatedWeightKg : Option ℚ≥0 := none
  estimatedPieceCount : Option ℕ := none
  replacementProductIds : List ObjectId := []
deriving DecidableEq

structure QuoteOrderInput where
  providerType : ProviderType
  branchId : ObjectId
  serviceLines : List QuoteServiceLineInput
  pickupMode : Option FulfillmentPickupMode := none
  pickupSubMode : Option DeliverySubMode := none
  returnMode : Option FulfillmentReturnMode := none
  deliverySubMode : Option DeliverySubMode := none
  turnaroundTier : Option TurnaroundTierCode := none
  promoCode : Option String := none

def QuoteServiceLineInput.line (quoted : QuoteServiceLineInput) : OrderServiceLineInput where
  serviceRefId := quoted.serviceRefId
  estimatedWeightKg := quoted.estimatedWeightKg
  estimatedPieceCount := quoted.estimatedPieceCount
  replacementProductIds := quoted.replacementProductIds

/-- The price terms of an order, with the weight they were estimated for. -/
structure Quote extends OrderPricing where
  estimatedWeightKg : Option ℚ≥0

/-- `resolveFulfillmentFees` of a selection that may lack a leg. -/
def resolveSelectedFees (pickupMode : Option FulfillmentPickupMode)
    (pickupSubMode : Option DeliverySubMode)
    (returnMode : Option FulfillmentReturnMode)
    (deliverySubMode : Option DeliverySubMode)
    (config : Option FulfillmentPricingConfig) (ceilingCentavos : ℕ) :
    Except ServiceError (ℕ × ℕ) := do
  let pickupFeeCentavos ←
    match pickupMode with
    | none => .ok 0
    | some mode =>
      pickupFeeCentavosFor mode pickupSubMode config ceilingCentavos
  let returnFeeCentavos ←
    match returnMode with
    | none => .ok 0
    | some mode =>
      returnFeeCentavosFor mode deliverySubMode config ceilingCentavos
  return (pickupFeeCentavos, returnFeeCentavos)

def previewDiscount (market : Market) (clock : Clock) (customerUid : Uid)
    (promoCode : Option String) (orderTotalCentavos : ℚ)
    (database : Database) : ℚ × Option String :=
  match (promoCode.map trimmed).filter fun code => code != "" with
  | none => (0, none)
  | some code =>
    match promoDiscount market clock customerUid code orderTotalCentavos database with
    | .error _ => (0, none)
    | .ok discountCentavos =>
      (discountCentavos, some (market.toUpperCase code))

/-- `quoteOrder`; no address is known, so no service area is checked. -/
def quoteOrder (market : Market) (clock : Clock) (customerUid : Uid)
    (input : QuoteOrderInput) (database : Database) :
    Except ServiceError Quote := do
  let provider ← assertProviderBookable market database input.providerType input.branchId none none
  let serviceLines ← (input.serviceLines.map QuoteServiceLineInput.line).mapM
      (buildServiceLineSnapshot market input.providerType input.branchId provider.washer)
  let serviceSubtotalCentavos :=
    (serviceLines.map ServiceLineSnapshot.estimatedLineTotalCentavos).sum
  let commission := market.commission input.providerType
  let feeCentavos := calculatePlatformFee serviceSubtotalCentavos commission.percent
  let (config, ceiling) := market.fulfillmentPricing input.branchId
  let (pickupFeeCentavos, returnFeeCentavos) ← resolveSelectedFees
    input.pickupMode input.pickupSubMode input.returnMode
    input.deliverySubMode config ceiling
  let turnaround ← resolveTurnaround input.turnaroundTier config ceiling
  let customerTotalCentavos : ℚ :=
    turnaround.feeCentavos + serviceSubtotalCentavos + feeCentavos +
      pickupFeeCentavos + returnFeeCentavos
  let (discountCentavos, appliedPromoCode) := previewDiscount market clock
    customerUid input.promoCode customerTotalCentavos database
  let estimatedWeightKg := (input.serviceLines.map fun line =>
    line.estimatedWeightKg.getD 0).sum
  return {
    estimatedWeightKg :=
      if estimatedWeightKg = 0 then none else some estimatedWeightKg
    estimatedTotalCentavos := customerTotalCentavos - discountCentavos
    platformFeePercent := some commission.percent
    platformFeeCentavos := some feeCentavos
    feeRuleKey := commission.ruleKey
    feeRuleVersion := commission.ruleVersion
    serviceSubtotalCentavos := some serviceSubtotalCentavos
    pickupFeeCentavos := some pickupFeeCentavos
    returnFeeCentavos := some returnFeeCentavos
    turnaroundFeeCentavos := some turnaround.feeCentavos
    customerTotalCentavos := some (customerTotalCentavos - discountCentavos)
    promoCode := appliedPromoCode
    discountCentavos :=
      if discountCentavos = 0 then none else some discountCentavos
    pricingRuleVersion := some PRICING_RULE_VERSION }

/-- The order after the reservation of its code; a failure is only logged. -/
def reserved (market : Market) (clock : Clock) (customer : User)
    (promo : Option PromoClaim) (database : Database)
    (document : OrderDocument) : OrderDocument :=
  match promo with
  | none => document
  | some claim =>
    match database.promotions.reserve clock.now claim.code
        (redeemerOf market.toEnvironment database customer._id)
        customer._id (customerName market.toEnvironment customer._id)
        claim.orderTotalCentavos document.order._id with
    | .error _ => document
    | .ok (promoId, _) => document.stampPromo promoId

/-- `createOrder` to its end, with no other call in between. -/
def placeOrder (market : Market) (clock : Clock) (customer : User)
    (input : CreateOrderInput) (orderId : ObjectId)
    (database : Database) : Option OnlineOrder :=
  match createOrder market clock customer input orderId database with
  | .error _ => none
  | .ok (callback, document) =>
    match (callback.program clock).commit database document with
    | (.ok _, placed, saved) =>
      match callback with
      | .create _ _ promo =>
        some (reserved market clock customer promo placed saved).order
      | _ => some saved.order
    | (.error _, _, _) => none

/-! ## One booking -/

def OrderServiceLineInput.quoted (line : OrderServiceLineInput) : QuoteServiceLineInput where
  serviceRefId := line.serviceRefId
  estimatedWeightKg := line.estimatedWeightKg
  estimatedPieceCount := line.estimatedPieceCount
  replacementProductIds := line.replacementProductIds

def CreateOrderInput.quoted (input : CreateOrderInput) : QuoteOrderInput where
  providerType := input.providerType
  branchId := input.branchId
  serviceLines := input.serviceLines.map OrderServiceLineInput.quoted
  pickupMode := some input.pickupMode
  pickupSubMode := input.pickupSubMode
  returnMode := some input.returnMode
  deliverySubMode := input.deliverySubMode
  turnaroundTier := input.turnaroundTier
  promoCode := input.promoCode

/-- The amounts of a quote are those of an order. -/
structure Quote.Agrees (quote : Quote) (order : OnlineOrder) : Prop where
  serviceSubtotal : quote.serviceSubtotalCentavos = order.pricing.serviceSubtotalCentavos
  platformFee : quote.platformFeeCentavos = order.pricing.platformFeeCentavos
  pickupFee : quote.pickupFeeCentavos = order.pricing.pickupFeeCentavos
  returnFee : quote.returnFeeCentavos = order.pricing.returnFeeCentavos
  turnaroundFee : quote.turnaroundFeeCentavos = order.pricing.turnaroundFeeCentavos
  discount : quote.discountCentavos = order.pricing.discountCentavos
  estimatedTotal : quote.estimatedTotalCentavos = order.pricing.estimatedTotalCentavos
  customerTotal : quote.customerTotalCentavos = some order.pricing.estimatedTotalCentavos

section

variable {market : Market} {clock : Clock} {customer : User}
  {input : CreateOrderInput} {orderId : ObjectId} {database : Database}

variable {branchId : ObjectId} {order : OnlineOrder}

theorem assertWasherBookable_anywhere {latitude longitude : Option ℚ}
    {washer : WasherProfile}
    (passed : assertWasherBookable market branchId latitude longitude washer = .ok ()) :
    assertWasherBookable market branchId none none washer = .ok () := by
  rw [assertWasherBookable] at passed ⊢
  split at passed
  · cases passed
  · rename_i active
    split at passed
    · cases passed
    · rename_i available
      split at passed
      · cases passed
      · rename_i running
        rw [if_neg active, if_neg available, if_neg running]
        split at passed
        · rename_i radius washerLatitude washerLongitude area
          rfl
        · cases passed

theorem assertProviderBookable_anywhere {providerType : ProviderType}
    {latitude longitude : Option ℚ} {provider : BookableProvider}
    (bookable : assertProviderBookable market database providerType branchId
      latitude longitude = .ok provider) :
    assertProviderBookable market database providerType branchId none none =
      .ok provider := by
  rw [assertProviderBookable] at bookable ⊢
  cases branches : market.branches branchId with
  | none =>
    rw [branches] at bookable
    cases bookable
  | some branch =>
    rw [branches] at bookable
    cases providerType with
    | merchant => exact bookable
    | washer =>
      dsimp only at bookable ⊢
      cases washers : market.washers branchId with
      | none =>
        rw [washers] at bookable
        cases bookable
      | some washer =>
        rw [washers] at bookable
        dsimp only at bookable ⊢
        cases checks : assertWasherBookable market branchId latitude longitude washer with
        | error _ =>
          rw [checks] at bookable
          cases bookable
        | ok _ =>
          rw [checks] at bookable
          rw [assertWasherBookable_anywhere checks]
          exact bookable

theorem buildServiceLineSnapshot_quoted {providerType : ProviderType}
    {branchId : ObjectId} {washer : Option WasherProfile}
    (line : OrderServiceLineInput) :
    buildServiceLineSnapshot market providerType branchId washer
        line.quoted.line =
      (buildServiceLineSnapshot market providerType branchId washer
        line).map fun snapshot => { snapshot with note := none } := by
  have service : resolveService market providerType line.quoted.line
      branchId washer =
        resolveService market providerType line branchId washer :=
    rfl
  have products : line.quoted.line.replacementProductIds =
      line.replacementProductIds :=
    rfl
  rw [buildServiceLineSnapshot, buildServiceLineSnapshot, service, products]
  cases resolveService market providerType line branchId washer with
  | error _ => rfl
  | ok resolved =>
    cases productSurcharge market branchId line.replacementProductIds with
    | error | ok => rfl

theorem subtotal_quoted {providerType : ProviderType}
    {washer : Option WasherProfile} {lines : List OrderServiceLineInput}
    {built priced : List ServiceLineSnapshot}
    (builds : lines.mapM (buildServiceLineSnapshot market providerType branchId washer) = .ok built)
    (prices : ((lines.map OrderServiceLineInput.quoted).map
      QuoteServiceLineInput.line).mapM (buildServiceLineSnapshot market
        providerType branchId washer) = .ok priced) :
    priced.map ServiceLineSnapshot.estimatedLineTotalCentavos =
      built.map ServiceLineSnapshot.estimatedLineTotalCentavos := by
  have same := @mapM_map _ _ _ _ _ _ _ _ _
    (@buildServiceLineSnapshot_quoted market providerType branchId washer)
    lines
  rw [builds] at same
  rw [List.map_map] at prices
  cases prices.symm.trans same
  rw [List.map_map]
  rfl

theorem previewDiscount_eq {total discount : ℚ}
    (priced : requestedDiscount market clock customer input total database = .ok discount) :
    (previewDiscount market clock customer._id input.promoCode total database).1 = discount := by
  unfold requestedDiscount requestedCode at priced
  unfold previewDiscount
  generalize (input.promoCode.map trimmed).filter (fun code => code != "") = requested at priced ⊢
  cases requested with
  | none =>
    cases priced
    rfl
  | some code =>
    have taken : promoDiscount market clock customer._id code total
      database = .ok discount := priced
    simp only [taken]

/-- What an order that is being placed was priced from. -/
theorem createOrder_estimates :
    Yields (createOrder market clock customer input orderId database)
      fun drafted => ∃ (latitude longitude : Option ℚ) (provider : _)
          (serviceLines : _) (estimate : Estimate) (discount : ℚ) (book : _),
        assertProviderBookable market database input.providerType
          input.branchId latitude longitude = .ok provider ∧
        input.serviceLines.mapM
          (buildServiceLineSnapshot market input.providerType
            input.branchId provider.washer) = .ok serviceLines ∧
        estimate.serviceSubtotalCentavos =
          (serviceLines.map ServiceLineSnapshot.estimatedLineTotalCentavos).sum ∧
        estimate.commission = market.commission input.providerType ∧
        resolveFulfillmentFees input.pickupMode input.pickupSubMode
          input.returnMode input.deliverySubMode
          (market.fulfillmentPricing input.branchId).1
          (market.fulfillmentPricing input.branchId).2 =
            .ok (estimate.pickupFeeCentavos, estimate.returnFeeCentavos) ∧
        resolveTurnaround input.turnaroundTier
          (market.fulfillmentPricing input.branchId).1
          (market.fulfillmentPricing input.branchId).2 = .ok estimate.turnaround ∧
        requestedDiscount market clock customer input
          estimate.preDiscountTotalCentavos database = .ok discount ∧
        drafted = (.create customer._id book ((requestedCode input).map fun code =>
              { code := market.toUpperCase code
                orderTotalCentavos := estimate.preDiscountTotalCentavos }),
          .draft (newOrder orderId customer input provider serviceLines
            estimate ((requestedCode input).map market.toUpperCase)
            discount)) := by
  apply Yields.bind
  intro address _
  apply Yields.bind
  intro provider bookable
  apply Yields.checked
  apply Yields.bind
  intro serviceLines built
  apply Yields.bind
  rintro ⟨pickupFee, returnFee⟩ fees
  apply Yields.checked
  apply Yields.bind
  intro turnaround promised
  apply Yields.bind
  intro discount priced
  apply Yields.bind
  intro date _
  apply Yields.after
  exact ⟨address.latitude, address.longitude, provider, serviceLines, _,
    discount, _, bookable, built, rfl, rfl, fees, promised, priced, rfl⟩

/-- The price terms a quote adds up from its parts. -/
def quotedPricing (serviceSubtotal : ℚ) (commission : CommissionSnapshot)
    (pickupFee returnFee : ℕ) (turnaround : ResolvedTurnaround)
    (discount : ℚ × Option String) : OrderPricing :=
  let fee := calculatePlatformFee serviceSubtotal commission.percent
  let total : ℚ := turnaround.feeCentavos + serviceSubtotal + fee + pickupFee + returnFee
  { estimatedTotalCentavos := total - discount.1
    platformFeePercent := some commission.percent
    platformFeeCentavos := some fee
    feeRuleKey := commission.ruleKey
    feeRuleVersion := commission.ruleVersion
    serviceSubtotalCentavos := some serviceSubtotal
    pickupFeeCentavos := some pickupFee
    returnFeeCentavos := some returnFee
    turnaroundFeeCentavos := some turnaround.feeCentavos
    customerTotalCentavos := some (total - discount.1)
    promoCode := discount.2
    discountCentavos := if discount.1 = 0 then none else some discount.1
    pricingRuleVersion := some PRICING_RULE_VERSION }

theorem quoteOrder_yields {quoted : QuoteOrderInput} {customerUid : Uid} :
    Yields (quoteOrder market clock customerUid quoted database)
      fun quote => ∃ (provider : _) (serviceLines : _) (pickupFee : _)
          (returnFee : _) (turnaround : ResolvedTurnaround),
        assertProviderBookable market database quoted.providerType
          quoted.branchId none none = .ok provider ∧
        (quoted.serviceLines.map QuoteServiceLineInput.line).mapM
          (buildServiceLineSnapshot market quoted.providerType
            quoted.branchId provider.washer) = .ok serviceLines ∧
        resolveSelectedFees quoted.pickupMode quoted.pickupSubMode
          quoted.returnMode quoted.deliverySubMode
          (market.fulfillmentPricing quoted.branchId).1
          (market.fulfillmentPricing quoted.branchId).2 = .ok (pickupFee, returnFee) ∧
        resolveTurnaround quoted.turnaroundTier
          (market.fulfillmentPricing quoted.branchId).1
          (market.fulfillmentPricing quoted.branchId).2 = .ok turnaround ∧
        let subtotal : ℚ := (serviceLines.map ServiceLineSnapshot.estimatedLineTotalCentavos).sum
        let commission := market.commission quoted.providerType
        quote.toOrderPricing = quotedPricing subtotal commission pickupFee
          returnFee turnaround
          (previewDiscount market clock customerUid quoted.promoCode
            (turnaround.feeCentavos + subtotal +
              calculatePlatformFee subtotal commission.percent + pickupFee + returnFee)
            database) := by
  apply Yields.bind
  intro provider bookable
  apply Yields.bind
  intro serviceLines built
  apply Yields.bind
  rintro ⟨pickupFee, returnFee⟩ fees
  apply Yields.bind
  intro turnaround promised
  apply Yields.pure
  exact ⟨provider, serviceLines, pickupFee, returnFee, turnaround, bookable,
    built, fees, promised, rfl⟩

theorem pricing_of_commit {customerUid : Uid}
    {book : Database → Except ServiceError ScheduledPickup}
    {promo : Option PromoClaim} {placed : Database} {saved : OrderDocument}
    {value : Unit} (outcome : ((Callback.create customerUid book promo).program
      clock).commit database (.draft order) = (.ok value, placed, saved)) :
    saved.order.pricing = order.pricing := by
  have keeps : Keeps (fun session => SameOrder order session.memory)
      ((Callback.create customerUid book promo).program clock) :=
    (SameOrder.rests order).kept.program
  have same := @Keeps.committed _ _ _ _
    (fun _ document => SameOrder order document) _ _ _ _ _ _ keeps
    ⟨rfl, rfl, rfl⟩ outcome
  exact same.pricing

theorem pricing_of_placeOrder {callback : Callback} {document : OrderDocument}
    (drafted : createOrder market clock customer input orderId database = .ok (callback, document))
    (placed : placeOrder market clock customer input orderId database = some order) :
    ∃ promoId, order.pricing = { document.order.pricing with promoId := promoId } := by
  rcases createOrder_estimates _ drafted with ⟨_, _, _, _, _, _, _, _, _, _, _, _, _, _, equal⟩
  cases equal
  rw [placeOrder, drafted] at placed
  dsimp only at placed
  split at placed
  · rename_i stored saved outcome
    cases placed
    have same := pricing_of_commit outcome
    unfold reserved
    split
    · exact ⟨_, same⟩
    · split
      · exact ⟨_, same⟩
      · rename_i promoId _ _
        exact ⟨some promoId, congrArg (fun pricing : OrderPricing =>
          { pricing with promoId := some promoId }) same⟩
  · cases placed

theorem Estimate.total_eq (estimate : Estimate) :
    (estimate.turnaround.feeCentavos : ℚ) +
        estimate.serviceSubtotalCentavos + estimate.feeCentavos +
        estimate.pickupFeeCentavos + estimate.returnFeeCentavos =
      estimate.preDiscountTotalCentavos := by
  rw [Estimate.preDiscountTotalCentavos]
  ring

theorem agrees_of_estimate {estimate : Estimate} {discount : ℚ}
    {code : Option String} {promoId : Option ObjectId} {quote : Quote}
    {preview : ℚ × Option String} (discounted : preview.1 = discount)
    (shown : quote.toOrderPricing = quotedPricing
      estimate.serviceSubtotalCentavos estimate.commission
      estimate.pickupFeeCentavos estimate.returnFeeCentavos
      estimate.turnaround preview) (terms : order.pricing =
      { estimate.pricing code discount with promoId := promoId }) :
    quote.Agrees order := by
  have total := estimate.total_eq
  subst discounted
  constructor
  · rw [shown, terms]
    rfl
  · rw [shown, terms]
    rfl
  · rw [shown, terms]
    rfl
  · rw [shown, terms]
    rfl
  · rw [shown, terms]
    rfl
  · rw [shown, terms]
    rfl
  · rw [shown, terms]
    exact congrArg (· - preview.1) total
  · rw [shown, terms]
    exact congrArg (fun total => some (total - preview.1)) total

end

namespace Shop

/-- The shop carries the laundry for a fee, and washes in a day for another. -/
def hurriedMarket : Market :=
  { market with
    fulfillmentPricing := fun _ =>
      (some
        { providerPickup := some
            { feeCentavos := some 4000
              premiumWindowFeeCentavos := some 6000 }
          providerDelivery := some
            { feeCentavos := some 3000
              premiumWindowFeeCentavos := none }
          express := some
            { enabled := true
              feeCentavos := some 9000
              slaHours := some 24 } },
      10000) }

def hurriedBooking : CreateOrderInput :=
  { booking .providerPickup .providerDelivery with
    pickupSubMode := some .scheduledPaid
    turnaroundTier := some .express
    promoCode := some " TENTH " }

def quotedAndPlaced (database : Database) : Option (Quote × OnlineOrder) :=
  (quoteOrder hurriedMarket (clock 1) customer._id hurriedBooking.quoted
      database).toOption.bind fun quote =>
    (placeOrder hurriedMarket (clock 1) customer hurriedBooking "order"
      database).map fun order => (quote, order)

end Shop

end Lalaba.Orders
