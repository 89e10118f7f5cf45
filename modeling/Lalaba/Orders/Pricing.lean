import Lalaba.Orders.Status
import Mathlib.Algebra.Order.Floor.Ring
import Mathlib.Data.Rat.Floor
import Mathlib.Algebra.Order.Ring.Rat
import Mathlib.Tactic.Linarith
import Mathlib.Tactic.Positivity

/-!
# Prices

The price formulas of an order: service lines, the platform fee and its parts,
the two transport legs and the turnaround promise.  Numbers are exact rationals;
prices, rates and weights are non-negative by type, as their inputs are
validated.
-/

namespace Lalaba.Orders

inductive PricingType where
  | perKilo
  | perPiece
  | perLoad
  | perLoadWithCapacity
  | perKiloWithBase
deriving DecidableEq

/-- What a service line is priced by. -/
structure ServiceLinePricingParams where
  pricingType : PricingType
  price : ℚ≥0
  baseKilos : Option ℚ≥0
  excessRate : Option ℚ≥0
  minBillableKg : Option ℚ≥0
deriving DecidableEq

/-- `Math.round`: the nearest integer, halves up. -/
def roundCentavos (value : ℚ) : ℤ := ⌊value + 1 / 2⌋

def billableKg (actualWeightKg minBillableKg : Option ℚ≥0) : ℚ :=
  let kg : ℚ := (actualWeightKg.getD 0 : ℚ≥0)
  match minBillableKg with
  | none => kg
  | some minimum => if minimum = 0 then kg else max kg (minimum : ℚ)

def loadsFor (actualWeightKg capacityKg : Option ℚ≥0) : ℤ :=
  match capacityKg with
  | none => 1
  | some capacity =>
    if capacity = 0 then 1
    else max 1 ⌈((actualWeightKg.getD 0 : ℚ≥0) : ℚ) / (capacity : ℚ)⌉

/-- The price of one service line for a measured quantity. -/
def calculateServiceLineTotal (params : ServiceLinePricingParams)
    (actualWeightKg : Option ℚ≥0) (actualPieceCount : Option ℕ) : ℤ :=
  match params.pricingType with
  | .perKilo =>
    roundCentavos (billableKg actualWeightKg params.minBillableKg * params.price)
  | .perPiece =>
    roundCentavos ((actualPieceCount.getD 0 : ℕ) * params.price)
  | .perLoad => roundCentavos params.price
  | .perLoadWithCapacity =>
    roundCentavos (loadsFor actualWeightKg params.baseKilos * params.price)
  | .perKiloWithBase =>
    let baseKilos : ℚ := (params.baseKilos.getD 0 : ℚ≥0)
    let excessRate : ℚ := (params.excessRate.getD 0 : ℚ≥0)
    let kg := billableKg actualWeightKg params.minBillableKg
    let excessKg := max 0 (kg - baseKilos)
    roundCentavos (params.price + excessKg * excessRate)

def calculatePlatformFee (eligibleSubtotalCentavos : ℚ)
    (feePercent : ℚ≥0) : ℤ :=
  roundCentavos (eligibleSubtotalCentavos * ((feePercent : ℚ) / 100))

theorem roundCentavos_nonneg {value : ℚ} (nonneg : 0 ≤ value) : 0 ≤ roundCentavos value := by
  rw [roundCentavos]
  apply Int.floor_nonneg.mpr
  linarith

theorem billableKg_nonneg (actualWeightKg minBillableKg : Option ℚ≥0) :
    0 ≤ billableKg actualWeightKg minBillableKg := by
  have kg : (0 : ℚ) ≤ (actualWeightKg.getD 0 : ℚ≥0) := NNRat.coe_nonneg _
  cases minBillableKg with
  | none => exact kg
  | some minimum =>
    simp only [billableKg]
    split
    · exact kg
    · exact le_max_of_le_left kg

theorem loadsFor_pos (actualWeightKg capacityKg : Option ℚ≥0) :
    0 < loadsFor actualWeightKg capacityKg := by
  cases capacityKg with
  | none => exact one_pos
  | some capacity =>
    simp only [loadsFor]
    split
    · exact one_pos
    · exact lt_of_lt_of_le one_pos (le_max_left _ _)

theorem calculateServiceLineTotal_nonneg
    (params : ServiceLinePricingParams) (actualWeightKg : Option ℚ≥0)
    (actualPieceCount : Option ℕ) :
    0 ≤ calculateServiceLineTotal params actualWeightKg
      actualPieceCount := by
  have price : (0 : ℚ) ≤ params.price := NNRat.coe_nonneg _
  have kg := billableKg_nonneg actualWeightKg params.minBillableKg
  rw [calculateServiceLineTotal]
  cases params.pricingType with
  | perKilo => exact roundCentavos_nonneg (mul_nonneg kg price)
  | perPiece =>
    exact roundCentavos_nonneg (mul_nonneg (Nat.cast_nonneg _) price)
  | perLoad => exact roundCentavos_nonneg price
  | perLoadWithCapacity =>
    have loads := (loadsFor_pos actualWeightKg params.baseKilos).le
    exact roundCentavos_nonneg (mul_nonneg (Int.cast_nonneg loads) price)
  | perKiloWithBase =>
    have rate : (0 : ℚ) ≤ (params.excessRate.getD 0 : ℚ≥0) := NNRat.coe_nonneg _
    have excess : (0 : ℚ) ≤
        max 0 (billableKg actualWeightKg params.minBillableKg - (params.baseKilos.getD 0 : ℚ≥0)) :=
      le_max_left _ _
    exact roundCentavos_nonneg (add_nonneg price (mul_nonneg excess rate))

theorem calculatePlatformFee_nonneg {subtotal : ℚ} (feePercent : ℚ≥0)
    (nonneg : 0 ≤ subtotal) :
    0 ≤ calculatePlatformFee subtotal feePercent := by
  have percent : (0 : ℚ) ≤ feePercent := NNRat.coe_nonneg _
  apply roundCentavos_nonneg
  positivity

/-- The money terms of one order. -/
structure OrderPricing where
  estimatedTotalCentavos : ℚ
  actualWeightKg : Option ℚ≥0 := none
  actualPieceCount : Option ℕ := none
  actualServiceTotalCentavos : Option ℚ := none
  platformFeePercent : Option ℚ≥0 := none
  platformFeeCentavos : Option ℤ := none
  feeRuleKey : Option String := none
  feeRuleVersion : Option ℕ := none
  customerTotalCentavos : Option ℚ := none
  serviceSubtotalCentavos : Option ℚ := none
  pickupFeeCentavos : Option ℕ := none
  returnFeeCentavos : Option ℕ := none
  turnaroundFeeCentavos : Option ℕ := none
  pricingRuleVersion : Option String := none
  platformFeeConsumedCentavos : Option ℤ := none
  platformFeeSurchargeCentavos : Option ℤ := none
  platformFeePromoId : Option ObjectId := none
  platformFeePromoCode : Option String := none
  platformFeeDiscountCentavos : Option ℤ := none
  promoCode : Option String := none
  promoId : Option ObjectId := none
  discountCentavos : Option ℚ := none
deriving DecidableEq

namespace OrderPricing

def surchargePlatformFeeCentavos (pricing : OrderPricing) : ℤ :=
  max 0 (pricing.platformFeeSurchargeCentavos.getD 0)

def waivablePlatformFeeCentavos (pricing : OrderPricing) : ℤ :=
  let total := max 0 (pricing.platformFeeCentavos.getD 0)
  max 0 (total - pricing.surchargePlatformFeeCentavos)

def chargeablePlatformFeeCentavos (pricing : OrderPricing) : ℤ :=
  let gross := max 0 (pricing.platformFeeCentavos.getD 0)
  let discount := max 0 (pricing.platformFeeDiscountCentavos.getD 0)
  max 0 (gross - discount)

def consumedCentavos (pricing : OrderPricing) : ℤ := pricing.platformFeeConsumedCentavos.getD 0

def dueCentavos (pricing : OrderPricing) : ℚ := pricing.customerTotalCentavos.getD 0

theorem chargeablePlatformFeeCentavos_nonneg (pricing : OrderPricing) :
    0 ≤ pricing.chargeablePlatformFeeCentavos :=
  le_max_left _ _

end OrderPricing

/-! ## Transport legs and turnaround -/

def PRICING_RULE_VERSION : String := "fulfillment-fees-v2"

def DEFAULT_LEG_FEE_CENTAVOS : ℤ := 0

def DEFAULT_PREMIUM_WINDOW_FEE_CENTAVOS : ℤ := 5000

def RETURN_FEE_EXPRESS_CENTAVOS : ℤ := 12000

/-- What a provider asks for one leg. -/
structure LegPricing where
  feeCentavos : Option ℤ
  premiumWindowFeeCentavos : Option ℤ
deriving DecidableEq

/-- The provider's paid turnaround promise. -/
structure TurnaroundTierPricing where
  enabled : Bool
  feeCentavos : Option ℤ
  slaHours : Option ℕ
deriving DecidableEq

structure FulfillmentPricingConfig where
  providerPickup : Option LegPricing
  providerDelivery : Option LegPricing
  express : Option TurnaroundTierPricing

structure ResolvedTurnaround where
  tierCode : TurnaroundTierCode
  feeCentavos : ℕ
  slaHours : Option ℕ

def clampLegFee (requested : ℤ) (ceilingCentavos : ℕ) : ℕ :=
  if requested ≤ 0 then 0 else min requested.toNat ceilingCentavos

def legAmount (leg : Option LegPricing) (premium : Bool) : ℤ :=
  match leg with
  | none =>
    if premium then DEFAULT_PREMIUM_WINDOW_FEE_CENTAVOS
    else DEFAULT_LEG_FEE_CENTAVOS
  | some leg =>
    let base := leg.feeCentavos.getD DEFAULT_LEG_FEE_CENTAVOS
    if premium then leg.premiumWindowFeeCentavos.getD base else base

/-- The pickup fee of a mode and slot tier. -/
def pickupFeeCentavosFor (pickupMode : FulfillmentPickupMode)
    (pickupSubMode : Option DeliverySubMode)
    (config : Option FulfillmentPricingConfig) (ceilingCentavos : ℕ) :
    Except ServiceError ℕ :=
  match pickupMode with
  | .customerDropoff => .ok 0
  | .providerPickup =>
    let tier := pickupSubMode.getD .freeBatch
    if tier = .express then
      .error (.badRequest ("Express is not a valid pickup option — " ++
        "choose a free batch or scheduled paid pickup window"))
    else
      .ok (clampLegFee (legAmount (config.bind FulfillmentPricingConfig.providerPickup)
          (tier = .scheduledPaid)) ceilingCentavos)

/-- The return fee of a mode and delivery tier. -/
def returnFeeCentavosFor (returnMode : FulfillmentReturnMode)
    (deliverySubMode : Option DeliverySubMode)
    (config : Option FulfillmentPricingConfig) (ceilingCentavos : ℕ) :
    Except ServiceError ℕ :=
  match returnMode with
  | .customerSelfPickup => .ok 0
  | .providerDelivery =>
    let tier := deliverySubMode.getD .freeBatch
    if tier = .express then
      .error (.badRequest ("Express is no longer a delivery option — " ++
        "choose an express turnaround instead."))
    else
      .ok (clampLegFee (legAmount
          (config.bind FulfillmentPricingConfig.providerDelivery)
          (tier = .scheduledPaid)) ceilingCentavos)

def resolveFulfillmentFees (pickupMode : FulfillmentPickupMode)
    (pickupSubMode : Option DeliverySubMode)
    (returnMode : FulfillmentReturnMode)
    (deliverySubMode : Option DeliverySubMode)
    (config : Option FulfillmentPricingConfig) (ceilingCentavos : ℕ) :
    Except ServiceError (ℕ × ℕ) := do
  let pickupFeeCentavos ← pickupFeeCentavosFor pickupMode pickupSubMode config ceilingCentavos
  let returnFeeCentavos ← returnFeeCentavosFor returnMode deliverySubMode config ceilingCentavos
  return (pickupFeeCentavos, returnFeeCentavos)

/-- Price the turnaround promise; `STANDARD` is free and promises nothing. -/
def resolveTurnaround (tier : Option TurnaroundTierCode)
    (config : Option FulfillmentPricingConfig) (ceilingCentavos : ℕ) :
    Except ServiceError ResolvedTurnaround :=
  if tier ≠ some .express then
    .ok { tierCode := .standard, feeCentavos := 0, slaHours := none }
  else
    match config.bind FulfillmentPricingConfig.express with
    | some express =>
      if express.enabled then
        .ok
          { tierCode := .express
            feeCentavos :=
              clampLegFee
                (express.feeCentavos.getD RETURN_FEE_EXPRESS_CENTAVOS)
                ceilingCentavos
            slaHours := express.slaHours }
      else
        .error (.badRequest "This provider does not offer express turnaround.")
    | none =>
      .error (.badRequest "This provider does not offer express turnaround.")

end Lalaba.Orders
