import Lalaba.Fees.Resolution
import Lalaba.Orders.Estimates

/-!
# The commission on an order

An administrator previews a fee rule on an amount, and orders are priced under the
rule that is in force.  The preview computes the fee with its fixed part, minimum
and maximum.  An order carries the rate of the rule, and charges the rate and
nothing else, at booking and at the weigh-in.
-/

namespace Lalaba.Fees

open Foundation
open Orders

def computeFeeCentavos (rule : SavePlatformFeeRuleInput)
    (baseCentavos : ℚ) : ℤ :=
  let percentPart : ℚ :=
    match rule.calculationType with
    | .fixed => 0
    | _ => baseCentavos * (((rule.percent.getD 0 : ℚ≥0) : ℚ) / 100)
  let fixedPart : ℕ :=
    match rule.calculationType with
    | .percentage => 0
    | _ => rule.fixedAmountCentavos.getD 0
  let fee := roundCentavos (percentPart + fixedPart)
  let fee :=
    match rule.minFeeCentavos with
    | none => fee
    | some minimum => max fee minimum
  match rule.maxFeeCentavos with
  | none => fee
  | some maximum => min fee maximum

/-- What a draft does to an amount. -/
structure FeeRulePreview where
  baseCentavos : ℚ
  feeCentavos : ℤ
  uncappedFeeCentavos : ℤ
  minimumApplied : Bool
  maximumApplied : Bool
  vatCentavos : ℤ
  customerShareCentavos : ℤ
  providerShareCentavos : ℤ
  customerTotalCentavos : ℚ
  providerEarningsCentavos : ℚ

def previewRule (input : SavePlatformFeeRuleInput) (baseCentavos : ℚ) :
    Except ServiceError FeeRulePreview := do
  validateRule input
  let uncapped := computeFeeCentavos
    { input with minFeeCentavos := none, maxFeeCentavos := none }
    baseCentavos
  let fee := computeFeeCentavos input baseCentavos
  let customerShare : ℤ :=
    match input.chargedTo with
    | .customer => fee
    | .provider => 0
    | .split =>
      roundCentavos (fee * (((input.customerSharePercent.getD 0 : ℚ≥0) : ℚ) / 100))
  -- The remainder, so that the two shares add up to the fee.
  let providerShare := fee - customerShare
  let vat : ℤ :=
    if input.applyVat ∧ input.taxTreatment = .taxExclusive then
      roundCentavos (fee * (((input.vatRatePercent.getD 0 : ℚ≥0) : ℚ) / 100))
    else 0
  return {
    baseCentavos
    feeCentavos := fee
    uncappedFeeCentavos := uncapped
    minimumApplied := input.minFeeCentavos.any fun minimum => uncapped < minimum
    maximumApplied := input.maxFeeCentavos.any fun maximum => (maximum : ℤ) < uncapped
    vatCentavos := vat
    customerShareCentavos := customerShare
    providerShareCentavos := providerShare
    customerTotalCentavos := baseCentavos + customerShare + vat
    providerEarningsCentavos := baseCentavos - providerShare }

def payerRoleForProviderType (providerType : ProviderType) : FeePayerRole :=
  match providerType with
  | .washer => .homeWasher
  | .merchant => .laundromat

/-- A global rate from before there were rules. -/
structure PlatformFeeConfig where
  feePercent : ℚ≥0
  effectiveFrom : Instant

def DEFAULT_COMMISSION_PERCENT : ℚ≥0 := 10

/-- `legacyFeePercent`: the global rate that started last. -/
def legacyFeePercent (configs : List PlatformFeeConfig) (now : Instant) :
    ℚ≥0 :=
  (((configs.filter fun config => config.effectiveFrom ≤ now).argmax
    PlatformFeeConfig.effectiveFrom).map
      PlatformFeeConfig.feePercent).getD DEFAULT_COMMISSION_PERCENT

/-- `resolveCommissionSnapshot`: a fixed commission has no rate to give. -/
def resolveCommissionSnapshot (store : FeeRuleStore)
    (configs : List PlatformFeeConfig) (now : Instant)
    (providerType : ProviderType) : CommissionSnapshot :=
  match (store.resolveRule (payerRoleForProviderType providerType)
      .commission now).filter fun rule => rule.calculationType ≠ .fixed with
  | some rule =>
    { percent := rule.percent.getD 0
      ruleKey := some rule.ruleKey
      ruleVersion := some rule.version }
  | none =>
    { percent := legacyFeePercent configs now
      ruleKey := none
      ruleVersion := none }

/-- `getCommissionPercent`: the rate alone. -/
def getCommissionPercent (store : FeeRuleStore)
    (configs : List PlatformFeeConfig) (now : Instant)
    (providerType : ProviderType) : ℚ≥0 :=
  match store.resolveRule (payerRoleForProviderType providerType) .commission now with
  | some rule =>
    if rule.calculationType = .fixed then legacyFeePercent configs now
    else rule.percent.getD 0
  | none => legacyFeePercent configs now

theorem resolveCommissionSnapshot_rate {store : FeeRuleStore}
    {configs : List PlatformFeeConfig} {now : Instant}
    {providerType : ProviderType} :
    (resolveCommissionSnapshot store configs now providerType).percent =
      getCommissionPercent store configs now providerType := by
  rw [resolveCommissionSnapshot, getCommissionPercent]
  cases store.resolveRule (payerRoleForProviderType providerType) .commission now with
  | none => rfl
  | some rule =>
    by_cases fixed : rule.calculationType = .fixed
    · simp [Option.filter, fixed]
    · simp [Option.filter, fixed]

/-! ## When the rate is the whole fee -/

namespace SavePlatformFeeRuleInput

def rate (rule : SavePlatformFeeRuleInput) (legacyPercent : ℚ≥0) : ℚ≥0 :=
  if rule.calculationType = .fixed then legacyPercent
  else rule.percent.getD 0

def bounded (rule : SavePlatformFeeRuleInput) (fee : ℤ) : ℤ :=
  let raised :=
    match rule.minFeeCentavos with
    | none => fee
    | some minimum => max fee minimum
  match rule.maxFeeCentavos with
  | none => raised
  | some maximum => min raised maximum

/--
The rate is the whole fee on an amount: a percentage that the minimum and the
maximum leave alone, or is at the maximum where there is a fixed part besides; and
in place of a fixed fee the fallback rate must happen to give it.
-/
def RateSuffices (rule : SavePlatformFeeRuleInput) (legacyPercent : ℚ≥0)
    (baseCentavos : ℚ) : Prop :=
  let rated := calculatePlatformFee baseCentavos (rule.rate legacyPercent)
  match rule.calculationType with
  | .percentage =>
    (∀ minimum ∈ rule.minFeeCentavos, (minimum : ℤ) ≤ rated) ∧
      ∀ maximum ∈ rule.maxFeeCentavos, rated ≤ (maximum : ℤ)
  | .fixedPlusPercentage =>
    ∃ maximum ∈ rule.maxFeeCentavos, rated = (maximum : ℤ)
  | .fixed => rated = rule.bounded (rule.fixedAmountCentavos.getD 0 : ℕ)

def Bounds (rule : SavePlatformFeeRuleInput) : Prop :=
  ∀ minimum ∈ rule.minFeeCentavos, ∀ maximum ∈ rule.maxFeeCentavos, minimum ≤ maximum

variable {rule : SavePlatformFeeRuleInput}

theorem bounds_of_accepted (accepted : validateRule rule = .ok ()) : rule.Bounds := by
  intro minimum isMinimum maximum isMaximum
  have amounts := (validateRule_ok accepted).1
  by_contra unordered
  have found : (rule.minFeeCentavos.any fun minimum =>
      rule.maxFeeCentavos.any fun maximum => maximum < minimum) = true := by
    rw [Option.mem_def.mp isMinimum, Option.mem_def.mp isMaximum]
    simpa using unordered
  rw [validateAmounts, if_pos found] at amounts
  split at amounts
  · cases amounts
  · split at amounts
    · cases amounts
    · split at amounts
      · cases amounts
      · split at amounts <;> cases amounts

theorem fixed_of_accepted (accepted : validateRule rule = .ok ())
    (needsFixed : rule.calculationType ≠ .percentage) :
    0 < rule.fixedAmountCentavos.getD 0 := by
  have amounts := (validateRule_ok accepted).1
  rw [validateAmounts] at amounts
  rcases amount : rule.fixedAmountCentavos with _ | amount'
  · simp [isMissing, amount, needsFixed] at amounts
    split at amounts <;> cases amounts
  · rcases amount'.eq_zero_or_pos with zero | positive
    · simp [isMissing, amount, needsFixed, zero] at amounts
      split at amounts <;> cases amounts
    · exact positive

theorem bounded_eq_self (bounds : rule.Bounds) (fee : ℤ) :
    fee = rule.bounded fee ↔
      (∀ minimum ∈ rule.minFeeCentavos, (minimum : ℤ) ≤ fee) ∧
        ∀ maximum ∈ rule.maxFeeCentavos, fee ≤ (maximum : ℤ) := by
  rw [bounded]
  rcases least : rule.minFeeCentavos with _ | minimum <;>
    rcases most : rule.maxFeeCentavos with _ | maximum
  · simp
  · simp
  · simp
  · have ordered : (minimum : ℤ) ≤ maximum := by
      exact_mod_cast bounds minimum least maximum most
    simp only [Option.mem_def, Option.some.injEq, forall_eq']
    omega

theorem bounded_eq_of_lt {fee more : ℤ} (larger : fee < more) :
    fee = rule.bounded more ↔ ∃ maximum ∈ rule.maxFeeCentavos, fee = (maximum : ℤ) := by
  rw [bounded]
  rcases rule.minFeeCentavos with _ | minimum <;>
    rcases rule.maxFeeCentavos with _ | maximum <;>
    simp <;> omega

end SavePlatformFeeRuleInput

theorem roundCentavos_add (value : ℚ) (centavos : ℕ) :
    roundCentavos (value + centavos) = roundCentavos value + centavos := by
  rw [roundCentavos, roundCentavos, add_right_comm, Int.floor_add_natCast]

theorem computeFeeCentavos_eq (rule : SavePlatformFeeRuleInput)
    (baseCentavos : ℚ) :
    computeFeeCentavos rule baseCentavos = rule.bounded (match rule.calculationType with
        | .percentage =>
          calculatePlatformFee baseCentavos (rule.percent.getD 0)
        | .fixedPlusPercentage =>
          calculatePlatformFee baseCentavos (rule.percent.getD 0) +
            (rule.fixedAmountCentavos.getD 0 : ℕ)
        | .fixed => (rule.fixedAmountCentavos.getD 0 : ℕ)) := by
  rw [computeFeeCentavos, SavePlatformFeeRuleInput.bounded]
  rcases rule.calculationType with _ | _ | _
  · have fixed : roundCentavos
        (0 + ((rule.fixedAmountCentavos.getD 0 : ℕ) : ℚ)) =
          (rule.fixedAmountCentavos.getD 0 : ℕ) := by
      rw [roundCentavos_add]
      norm_num [roundCentavos]
    simp only [fixed]
  · simp only [Nat.cast_zero, add_zero, calculatePlatformFee]
  · simp only [roundCentavos_add, calculatePlatformFee]

theorem rated_eq_iff {rule : SavePlatformFeeRuleInput}
    (accepted : validateRule rule = .ok ()) (legacyPercent : ℚ≥0)
    (baseCentavos : ℚ) :
    calculatePlatformFee baseCentavos (rule.rate legacyPercent) =
        computeFeeCentavos rule baseCentavos ↔
      rule.RateSuffices legacyPercent baseCentavos := by
  rw [computeFeeCentavos_eq, SavePlatformFeeRuleInput.RateSuffices, SavePlatformFeeRuleInput.rate]
  rcases type : rule.calculationType with _ | _ | _
  · simp only [if_true]
  · simp only [reduceCtorEq, if_false]
    exact SavePlatformFeeRuleInput.bounded_eq_self
      (SavePlatformFeeRuleInput.bounds_of_accepted accepted) _
  · simp only [reduceCtorEq, if_false]
    have positive := SavePlatformFeeRuleInput.fixed_of_accepted accepted (by rw [type]; decide)
    apply SavePlatformFeeRuleInput.bounded_eq_of_lt
    omega

theorem previewRule_fee {input : SavePlatformFeeRuleInput}
    (accepted : validateRule input = .ok ()) (baseCentavos : ℚ) :
    ∃ preview, previewRule input baseCentavos = .ok preview ∧
      preview.feeCentavos = computeFeeCentavos input baseCentavos := by
  rw [previewRule, accepted]
  exact ⟨_, rfl, rfl⟩

theorem resolveCommissionSnapshot_percent {store : FeeRuleStore}
    {configs : List PlatformFeeConfig} {now : Instant}
    {providerType : ProviderType} {rule : PlatformFeeRule}
    (inForce : store.resolveRule (payerRoleForProviderType providerType)
      .commission now = some rule) :
    (resolveCommissionSnapshot store configs now providerType).percent =
      rule.rate (legacyFeePercent configs now) := by
  rw [resolveCommissionSnapshot, inForce, SavePlatformFeeRuleInput.rate]
  by_cases fixed : rule.calculationType = .fixed
  · rw [Option.filter_some, if_neg (by simp [fixed]), if_pos fixed]
  · rw [Option.filter_some, if_pos (by simp [fixed]), if_neg fixed]

theorem createOrder_commission {market : Market} {clock : Clock}
    {customer : User} {input : CreateOrderInput} {orderId : ObjectId}
    {database : Database} :
    Yields (createOrder market clock customer input orderId database)
      fun drafted =>
        drafted.2.order.terms.platformFeePercent =
            some (market.commission input.providerType).percent ∧
          drafted.2.order.pricing.platformFeeCentavos =
            some (calculatePlatformFee drafted.2.order.terms.estimatedServiceTotal
              (market.commission input.providerType).percent) := by
  intro drafted ordered
  rcases createOrder_yields _ ordered with
    ⟨provider, serviceLines, estimate, discount, date, total, snapshot, _, _, _, rfl⟩
  have lines := @newOrder_estimatedServiceTotal orderId customer input
    provider serviceLines estimate
    ((requestedCode input).map market.toUpperCase) discount total
  rw [← snapshot]
  refine ⟨rfl, ?_⟩
  show some (calculatePlatformFee estimate.serviceSubtotalCentavos _) = _
  rw [← lines]
  rfl

theorem finalizePricing_fee (measured : Measurement)
    (document : OrderDocument) :
    (finalizePricing measured document).order.pricing.platformFeeCentavos =
      some (calculatePlatformFee (measured.serviceTotal document.order.serviceLines)
        (document.order.terms.platformFeePercent.getD 0)) :=
  rfl

namespace Rates

def tenth (minFeeCentavos : Option ℕ) : SavePlatformFeeRuleInput :=
  { commission 10 0 with appliesTo := .laundromat, minFeeCentavos }

def published (minFeeCentavos : Option ℕ) : PlatformFeeRule :=
  { tenth minFeeCentavos with
    ruleKey := "platform-commission-merchant"
    version := 1
    supersededByVersion := none
    setByUid := "admin"
    setByName := none }

def rules (minFeeCentavos : Option ℕ) : FeeRuleStore := { rules := [published minFeeCentavos] }

def market (minFeeCentavos : Option ℕ) : Market :=
  { Shop.market with
    commission := resolveCommissionSnapshot (rules minFeeCentavos) [] 1 }

def booking : CreateOrderInput := Shop.booking .customerDropoff .customerSelfPickup

def booked (minFeeCentavos : Option ℕ) (database : Database) :
    Option (Callback × OrderDocument) :=
  (createOrder (market minFeeCentavos) (Shop.clock 1) Shop.customer booking
    "order" database).toOption

theorem inForce (minFeeCentavos : Option ℕ) :
    (rules minFeeCentavos).resolveRule
      (payerRoleForProviderType booking.providerType) .commission 1 =
        some (published minFeeCentavos) :=
  rfl

end Rates

end Lalaba.Fees
