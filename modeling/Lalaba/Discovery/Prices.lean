import Lalaba.Fees.Commission
import Lalaba.Orders.Quote

/-!
# The prices a customer is shown

The platform fee is folded into every price of the catalogue: each rate is marked up and
rounded, and what a customer will pay is worked out from the rounded rates.  A booking
prices the line first, rounds it, and takes the fee on it.  The two come to the same as
long as their roundings stay together.
-/

namespace Lalaba.Discovery

open Foundation
open Orders
open Fees

/-! ## The catalogue -/

/-- What the customer app shows of a service. -/
structure ProviderServiceItem where
  serviceRefId : ObjectId
  name : String
  price : ℚ≥0
  pricingType : PricingType
  baseKilos : Option ℚ≥0
  excessRate : Option ℚ≥0
  minKg : Option ℚ≥0
  unit : Option String := none
  minQuantity : Option ℕ := none
  maxQuantity : Option ℕ := none
  approved : Bool

/-- The collections of the catalogue; an offering is one of a branch and template. -/
structure Catalog where
  templates : Collection WasherServiceTemplate
  services : Collection MerchantService
  offerings : AList fun _ : ObjectId × ObjectId => PricingSource
  feeRules : FeeRuleStore
  feeConfigs : List PlatformFeeConfig

def Catalog.market (catalog : Catalog) (now : Instant) (market : Market) :
    Market :=
  { market with
    templates := catalog.templates.lookup
    services := catalog.services.lookup
    offerings := fun branchId serviceTemplateId =>
      catalog.offerings.lookup (branchId, serviceTemplateId)
    commission := resolveCommissionSnapshot catalog.feeRules catalog.feeConfigs now }

def Catalog.feePercent (catalog : Catalog) (now : Instant)
    (providerType : ProviderType) : ℚ≥0 :=
  getCommissionPercent catalog.feeRules catalog.feeConfigs now providerType

def markup (centavos feePercent : ℚ≥0) : ℕ :=
  (roundCentavos ((centavos : ℚ) * (1 + (feePercent : ℚ) / 100))).toNat

def markupOpt (centavos : Option ℚ≥0) (feePercent : ℚ≥0) : Option ℚ≥0 :=
  centavos.map fun centavos => (markup centavos feePercent : ℚ≥0)

/-- A washer's offering of a template. -/
def washerItem (feePercent : ℚ≥0) (serviceRefId : ObjectId)
    (template : WasherServiceTemplate) (pricing : ResolvedWasherPricing) :
    ProviderServiceItem where
  serviceRefId := serviceRefId
  name := template.name
  price := markup pricing.price feePercent
  pricingType := pricing.pricingType
  baseKilos := pricing.baseKilos
  excessRate := markupOpt pricing.excessRate feePercent
  minKg :=
    if pricing.pricingType = .perLoadWithCapacity then none
    else pricing.minBillableKg.or pricing.baseKilos
  unit := pricing.unit
  minQuantity := pricing.minQuantity
  maxQuantity := pricing.maxQuantity
  approved := true

def merchantItem (feePercent : ℚ≥0) (serviceRefId : ObjectId)
    (service : MerchantService) : ProviderServiceItem where
  serviceRefId := serviceRefId
  name := service.serviceName
  price := markup service.price feePercent
  pricingType := service.pricingType
  baseKilos := service.baseKilos
  excessRate := markupOpt service.excessRate feePercent
  minKg := service.baseKilos
  approved := false

def providerServices (catalog : Catalog)
    (washers : ObjectId → Option WasherProfile) (now : Instant)
    (branchId : ObjectId) (providerType : ProviderType) :
    Except ServiceError (List ProviderServiceItem) :=
  let feePercent := catalog.feePercent now providerType
  match providerType with
  | .washer =>
    match washers branchId with
    | none => .error (.notFound "Home washer not found")
    | some washer =>
      let templates := catalog.templates.entries.filter fun entry =>
        decide (entry.1 ∈ washer.offeredServiceTemplateIds) && entry.2.isActive
      .ok (templates.map fun entry =>
        washerItem feePercent entry.1 entry.2
          (resolveWasherPricing entry.2 (catalog.offerings.lookup (branchId, entry.1))))
  | .merchant =>
    let services := catalog.services.entries.filter fun entry =>
      entry.2.branchId == branchId && !entry.2.isArchived && entry.2.isOnline
    .ok (services.map fun entry =>
      merchantItem feePercent entry.1 entry.2)

def ProviderServiceItem.total (item : ProviderServiceItem)
    (minBillableKg : Option ℚ≥0) (weight : Option ℚ≥0)
    (count : Option ℕ) : ℤ :=
  calculateServiceLineTotal
    { pricingType := item.pricingType
      price := item.price
      baseKilos := item.baseKilos
      excessRate := item.excessRate
      minBillableKg }
    weight count

def offeringOf (market : Market) (providerType : ProviderType)
    (branchId serviceRefId : ObjectId) : Option ServiceLinePricingParams :=
  match providerType with
  | .washer =>
    (market.templates serviceRefId).map fun template =>
      (resolveWasherPricing template
        (market.offerings branchId serviceRefId)).toServiceLinePricingParams
  | .merchant =>
    (market.services serviceRefId).map fun service =>
      { service.toServiceLinePricingParams with minBillableKg := none }

def roundingError (value : ℚ) : ℚ := value - roundCentavos value

def IsSmall (value : ℚ) : Prop := -(1 / 2) ≤ value ∧ value < 1 / 2

section

variable {value : ℚ} {rounded : ℤ}

theorem roundCentavos_eq_iff : roundCentavos value = rounded ↔ IsSmall (value - rounded) := by
  rw [roundCentavos, Int.floor_eq_iff, IsSmall]
  constructor
  · rintro ⟨low, high⟩
    constructor <;> linarith
  · rintro ⟨low, high⟩
    constructor <;> linarith

theorem markup_eq (centavos feePercent : ℚ≥0) :
    ((markup centavos feePercent : ℚ≥0) : ℚ) =
      (centavos : ℚ) * (1 + (feePercent : ℚ) / 100) -
        roundingError ((centavos : ℚ) * (1 + (feePercent : ℚ) / 100)) := by
  have positive : (0 : ℚ) ≤ (centavos : ℚ) * (1 + (feePercent : ℚ) / 100) := by
    positivity
  have whole := Int.toNat_of_nonneg (roundCentavos_nonneg positive)
  rw [roundingError, sub_sub_cancel, markup, NNRat.coe_natCast]
  exact_mod_cast whole

end

def chargedUnits (params : ServiceLinePricingParams)
    (weight : Option ℚ≥0) (count : Option ℕ) : ℚ × ℚ :=
  match params.pricingType with
  | .perKilo => (billableKg weight params.minBillableKg, 0)
  | .perPiece => ((count.getD 0 : ℕ), 0)
  | .perLoad => (1, 0)
  | .perLoadWithCapacity => (loadsFor weight params.baseKilos, 0)
  | .perKiloWithBase =>
    (1, max 0 (billableKg weight params.minBillableKg - (params.baseKilos.getD 0 : ℚ≥0)))

/--
The roundings of a line stay together: what rounding takes off the fee and, with the
fee, off the line is no more than half a centavo away from what it takes off the
marked-up price and the marked-up rate, as often as they are charged.
-/
def RoundsAlike (params : ServiceLinePricingParams) (feePercent : ℚ≥0)
    (weight : Option ℚ≥0) (count : Option ℕ) : Prop :=
  let rate : ℚ := (params.excessRate.getD 0 : ℚ≥0)
  let (units, excessKg) := chargedUnits params weight count
  let share : ℚ := (feePercent : ℚ) / 100
  let line := units * params.price + excessKg * rate
  IsSmall
    (roundingError (roundCentavos line * share) + (1 + share) * roundingError line -
      units * roundingError ((params.price : ℚ) * (1 + share)) -
      excessKg * roundingError (rate * (1 + share)))

/-- The prices of an item are those of its service, marked up. -/
structure ProviderServiceItem.Shows (item : ProviderServiceItem)
    (params : ServiceLinePricingParams) (feePercent : ℚ≥0) : Prop where
  price : item.price = (markup params.price feePercent : ℚ≥0)
  pricingType : item.pricingType = params.pricingType
  baseKilos : item.baseKilos = params.baseKilos
  excessRate : item.excessRate = markupOpt params.excessRate feePercent

section

variable {params : ServiceLinePricingParams} {weight : Option ℚ≥0}
  {count : Option ℕ} {feePercent : ℚ≥0} {item : ProviderServiceItem}

theorem calculateServiceLineTotal_eq :
    calculateServiceLineTotal params weight count =
      roundCentavos
        ((chargedUnits params weight count).1 * params.price +
          (chargedUnits params weight count).2 * (params.excessRate.getD 0 : ℚ≥0)) := by
  rw [calculateServiceLineTotal, chargedUnits]
  cases params.pricingType with
  | perKilo | perPiece | perLoadWithCapacity => simp only [zero_mul, add_zero]
  | perLoad => simp only [zero_mul, add_zero, one_mul]
  | perKiloWithBase => simp only [one_mul]

theorem markupOpt_eq (rate : Option ℚ≥0) :
    (((markupOpt rate feePercent).getD 0 : ℚ≥0) : ℚ) =
      ((rate.getD 0 : ℚ≥0) : ℚ) * (1 + (feePercent : ℚ) / 100) -
        roundingError (((rate.getD 0 : ℚ≥0) : ℚ) * (1 + (feePercent : ℚ) / 100)) := by
  cases rate with
  | none => norm_num [markupOpt, roundingError, roundCentavos]
  | some rate => exact markup_eq rate feePercent

theorem ProviderServiceItem.Shows.total_eq
    (shows : item.Shows params feePercent) :
    item.total params.minBillableKg weight count =
      roundCentavos
        ((chargedUnits params weight count).1 *
            ((params.price : ℚ) * (1 + (feePercent : ℚ) / 100) -
              roundingError ((params.price : ℚ) * (1 + (feePercent : ℚ) / 100))) +
          (chargedUnits params weight count).2 *
            (((params.excessRate.getD 0 : ℚ≥0) : ℚ) * (1 + (feePercent : ℚ) / 100) -
              roundingError (((params.excessRate.getD 0 : ℚ≥0) : ℚ) *
                (1 + (feePercent : ℚ) / 100)))) := by
  rw [ProviderServiceItem.total, calculateServiceLineTotal_eq]
  have same : chargedUnits
      { pricingType := item.pricingType
        price := item.price
        baseKilos := item.baseKilos
        excessRate := item.excessRate
        minBillableKg := params.minBillableKg } weight count =
      chargedUnits params weight count := by
    rw [chargedUnits, chargedUnits, shows.pricingType, shows.baseKilos]
  rw [same]
  dsimp only
  rw [shows.price, shows.excessRate, markup_eq, markupOpt_eq]

theorem ProviderServiceItem.Shows.charged_iff
    (shows : item.Shows params feePercent) :
    item.total params.minBillableKg weight count =
        calculateServiceLineTotal params weight count +
          calculatePlatformFee
            (calculateServiceLineTotal params weight count : ℤ)
            feePercent ↔
      RoundsAlike params feePercent weight count := by
  rw [shows.total_eq, roundCentavos_eq_iff, calculatePlatformFee,
    calculateServiceLineTotal_eq, RoundsAlike]
  dsimp only
  generalize chargedUnits params weight count = charged
  rcases charged with ⟨units, excessKg⟩
  generalize (((params.excessRate.getD 0 : ℚ≥0) : ℚ)) = rate
  generalize (params.price : ℚ) = price
  generalize ((feePercent : ℚ) / 100) = share
  dsimp only
  generalize markedPrice : roundingError (price * (1 + share)) = takenPrice
  generalize markedRate : roundingError (rate * (1 + share)) = takenRate
  simp only [roundingError]
  push_cast
  generalize (roundCentavos (units * price + excessKg * rate) : ℚ) = line
  generalize (roundCentavos (line * share) : ℚ) = fee
  -- Both sides bound the same number.
  have same :
      units * (price * (1 + share) - takenPrice) +
          excessKg * (rate * (1 + share) - takenRate) - (line + fee) =
        line * share - fee +
            (1 + share) * (units * price + excessKg * rate - line) -
          units * takenPrice - excessKg * takenRate := by
    ring
  rw [same]

end

def singleLine (providerType : ProviderType)
    (branchId serviceRefId : ObjectId) (weight : Option ℚ≥0)
    (count : Option ℕ) (order : QuoteOrderInput) : QuoteOrderInput :=
  { order with
    providerType
    branchId
    serviceLines :=
      [{ serviceRefId
         estimatedWeightKg := weight
         estimatedPieceCount := count }] }

section

variable {catalog : Catalog} {market : Market} {clock : Clock}
  {branchId : ObjectId} {providerType : ProviderType}
  {items : List ProviderServiceItem} {item : ProviderServiceItem}
  {weight : Option ℚ≥0} {count : Option ℕ}

theorem shows_of_displayed
    (displayed : providerServices catalog market.washers clock.now branchId
      providerType = .ok items)
    (member : item ∈ items) :
    ∃ params,
      offeringOf (catalog.market clock.now market) providerType branchId
          item.serviceRefId = some params ∧
        item.Shows params (catalog.feePercent clock.now providerType) := by
  cases providerType with
  | washer =>
    rw [providerServices] at displayed
    dsimp only at displayed
    split at displayed
    · cases displayed
    · cases displayed
      rcases List.mem_map.mp member with ⟨entry, listed, rfl⟩
      have stored : catalog.templates.lookup entry.1 = some entry.2 :=
        AList.mem_lookup_iff.mpr (List.mem_filter.mp listed).1
      refine ⟨_, Option.map_eq_some_iff.mpr ⟨entry.2, stored, rfl⟩, ?_⟩
      constructor
      · rfl
      · rfl
      · rfl
      · rfl
  | merchant =>
    cases displayed
    rcases List.mem_map.mp member with ⟨entry, listed, rfl⟩
    have stored : catalog.services.lookup entry.1 = some entry.2 :=
      AList.mem_lookup_iff.mpr (List.mem_filter.mp listed).1
    refine ⟨_, Option.map_eq_some_iff.mpr ⟨entry.2, stored, rfl⟩, ?_⟩
    constructor
    · rfl
    · rfl
    · rfl
    · rfl

variable {line : OrderServiceLineInput} {washer : Option WasherProfile}

theorem resolveService_offering :
    Yields (resolveService market providerType line branchId washer)
      fun resolved => offeringOf market providerType branchId
        line.serviceRefId = some resolved.2 := by
  intro resolved found
  cases providerType with
  | washer =>
    rw [resolveService] at found
    dsimp only at found
    split at found
    · cases found
    · split at found
      · cases found
      · rename_i template stored
        split at found
        · cases found
        · revert found resolved
          apply Yields.after
          exact Option.map_eq_some_iff.mpr ⟨template, stored, rfl⟩
  | merchant =>
    rw [resolveService] at found
    dsimp only at found
    split at found
    · cases found
    · rename_i service stored
      split at found
      · cases found
      · cases found
        exact Option.map_eq_some_iff.mpr ⟨service, stored, rfl⟩

theorem buildServiceLineSnapshot_plain (plain : line.replacementProductIds = []) :
    Yields (buildServiceLineSnapshot market providerType branchId washer line)
      fun snapshot => ∃ params,
        offeringOf market providerType branchId line.serviceRefId =
            some params ∧
          snapshot.estimatedLineTotalCentavos =
            (calculateServiceLineTotal params line.estimatedWeightKg
              line.estimatedPieceCount : ℤ) := by
  apply Yields.bind
  rintro ⟨name, params⟩ resolved
  apply Yields.bind
  intro surcharge charged
  have free : surcharge = 0 := by
    rw [productSurcharge, plain] at charged
    exact (Except.ok.inj charged).symm
  apply Yields.pure
  refine ⟨params, resolveService_offering _ resolved, ?_⟩
  rw [free, NNRat.cast_zero, add_zero]

theorem serviceLines_single :
    Yields ([line].mapM (buildServiceLineSnapshot market providerType branchId washer))
      fun serviceLines => ∃ snapshot, serviceLines = [snapshot] ∧
        buildServiceLineSnapshot market providerType branchId washer line =
          .ok snapshot := by
  rw [List.mapM_cons]
  apply Yields.bind
  intro snapshot built
  exact Yields.pure ⟨snapshot, rfl, built⟩

/--
Shown is charged: the rows of a catalogue come to the subtotal and the fee of a quote
of one line, in whatever quantity, exactly when their roundings stay together.
-/
theorem priceShownIsCharged {customerUid : Uid} {order : QuoteOrderInput}
    {database : Database} {quote : Quote}
    (displayed : providerServices catalog market.washers clock.now branchId
      providerType = .ok items)
    (member : item ∈ items)
    (quoted : quoteOrder (catalog.market clock.now market) clock customerUid
      (singleLine providerType branchId item.serviceRefId weight count
        order) database = .ok quote) :
    ∃ params subtotal fee,
      offeringOf (catalog.market clock.now market) providerType branchId
          item.serviceRefId = some params ∧
        quote.serviceSubtotalCentavos = some subtotal ∧
        quote.platformFeeCentavos = some fee ∧
        ((item.total params.minBillableKg weight count : ℚ) = subtotal + fee ↔
          RoundsAlike params (catalog.feePercent clock.now providerType) weight count) := by
  rcases shows_of_displayed displayed member with ⟨params, offered, shows⟩
  rcases quoteOrder_yields _ quoted with ⟨provider, serviceLines, _, _, _, _, built, _, _, priced⟩
  rcases serviceLines_single _ built with ⟨snapshot, rfl, line⟩
  rcases buildServiceLineSnapshot_plain rfl _ line with ⟨params', offered', total⟩
  cases offered.symm.trans offered'
  refine ⟨params, _, _, offered, congrArg OrderPricing.serviceSubtotalCentavos priced,
    congrArg OrderPricing.platformFeeCentavos priced, ?_⟩
  rw [List.map_singleton, List.sum_singleton, total, ← shows.charged_iff]
  have rate : ((catalog.market clock.now market).commission
      providerType).percent = catalog.feePercent clock.now providerType :=
    resolveCommissionSnapshot_rate
  dsimp only [singleLine, QuoteServiceLineInput.line]
  rw [rate]
  exact_mod_cast Iff.rfl

end

namespace Sample

/-- Washing by the kilo, at this price and the default commission. -/
def catalog (price : ℚ≥0) : Catalog where
  templates := ∅
  services := AList.insert "wash"
    { pricingType := .perKilo
      price
      baseKilos := none
      excessRate := none
      minBillableKg := none
      branchId := "branch"
      serviceName := "Wash"
      isArchived := false
      isOnline := true } ∅
  offerings := ∅
  feeRules := { rules := [] }
  feeConfigs := []

def order : QuoteOrderInput where
  providerType := .merchant
  branchId := "branch"
  serviceLines := []

def shownAndQuoted (price weight : ℚ≥0) (database : Database) :
    Option (ProviderServiceItem × Quote) :=
  (providerServices (catalog price) Shop.market.washers 1 "branch"
      .merchant).toOption.bind fun items =>
    items.head?.bind fun item =>
      (quoteOrder ((catalog price).market 1 Shop.market) (Shop.clock 1)
          "customer"
          (singleLine .merchant "branch" item.serviceRefId (some weight)
            none order) database).toOption.map fun quote => (item, quote)

def amounts (weight : ℚ≥0) (both : ProviderServiceItem × Quote) :
    ℤ × Option ℚ × Option ℤ :=
  (both.1.total none (some weight) none, both.2.serviceSubtotalCentavos, both.2.platformFeeCentavos)

end Sample

/-- Four kilos at fifty pesos are shown at what they cost. -/
theorem priceShownIsCharged_whole :
    ∃ database item quote,
      Sample.shownAndQuoted 5000 4 database = some (item, quote) ∧
        quote.serviceSubtotalCentavos = some 20000 ∧
        quote.platformFeeCentavos = some 2000 ∧
        ∃ params subtotal fee,
          offeringOf ((Sample.catalog 5000).market 1 Shop.market) .merchant
              "branch" item.serviceRefId = some params ∧
            quote.serviceSubtotalCentavos = some subtotal ∧
            quote.platformFeeCentavos = some fee ∧
            ((item.total params.minBillableKg (some 4) none : ℚ) = subtotal + fee ↔
              RoundsAlike params ((Sample.catalog 5000).feePercent 1 .merchant) (some 4) none) := by
  have performed : ((orderSystem some).perform Shop.funding .start).bind
      (fun state => (Sample.shownAndQuoted 5000 4 state.database).map (Sample.amounts 4)) =
      some (22000, some 20000, some 2000) := by
    decide +kernel
  rcases Option.bind_eq_some_iff.mp performed with ⟨state, _, priced⟩
  rcases Option.map_eq_some_iff.mp priced with ⟨⟨item, quote⟩, both, seen⟩
  rcases Prod.mk.inj (Prod.mk.inj seen).2 with ⟨subtotal, fee⟩
  refine ⟨state.database, item, quote, both, subtotal, fee, ?_⟩
  rcases Option.bind_eq_some_iff.mp both with ⟨items, displayed, rest⟩
  rcases Option.bind_eq_some_iff.mp rest with ⟨first, head, rest⟩
  rcases Option.map_eq_some_iff.mp rest with ⟨_, quoted, same⟩
  cases same
  exact priceShownIsCharged (toOption_eq_some.mp displayed)
    (List.mem_of_head? head) (toOption_eq_some.mp quoted)

/-- Three kilos at 33.33 pesos are shown at 109.98 and charged 109.99. -/
theorem priceShownIsNotCharged :
    ¬ ∀ (catalog : Catalog) (market : Market) (clock : Clock)
        (customerUid : Uid) (branchId : ObjectId)
        (providerType : ProviderType) (items : List ProviderServiceItem)
        (item : ProviderServiceItem) (weight : Option ℚ≥0)
        (count : Option ℕ) (order : QuoteOrderInput) (database : Database)
        (quote : Quote) (params : ServiceLinePricingParams) (subtotal : ℚ)
        (fee : ℤ),
      providerServices catalog market.washers clock.now branchId providerType = .ok items →
      item ∈ items →
      quoteOrder (catalog.market clock.now market) clock customerUid
          (singleLine providerType branchId item.serviceRefId weight count
            order) database = .ok quote →
      offeringOf (catalog.market clock.now market) providerType branchId
          item.serviceRefId = some params →
      quote.serviceSubtotalCentavos = some subtotal →
      quote.platformFeeCentavos = some fee →
      (item.total params.minBillableKg weight count : ℚ) = subtotal + fee := by
  intro always
  have performed : ((orderSystem some).perform Shop.funding .start).bind
      (fun state => (Sample.shownAndQuoted 3333 3 state.database).map (Sample.amounts 3)) =
      some (10998, some 9999, some 1000) := by
    decide +kernel
  rcases Option.bind_eq_some_iff.mp performed with ⟨state, _, priced⟩
  rcases Option.map_eq_some_iff.mp priced with ⟨⟨item, quote⟩, both, seen⟩
  rcases Prod.mk.inj seen with ⟨shown, charged⟩
  rcases Prod.mk.inj charged with ⟨subtotal, fee⟩
  rcases Option.bind_eq_some_iff.mp both with ⟨items, displayed, rest⟩
  rcases Option.bind_eq_some_iff.mp rest with ⟨first, head, rest⟩
  rcases Option.map_eq_some_iff.mp rest with ⟨_, quoted, same⟩
  cases same
  have displayed := toOption_eq_some.mp displayed
  have member := List.mem_of_head? head
  rcases @shows_of_displayed _ Shop.market (Shop.clock 1) _ _ _ _
    displayed member with ⟨params, offered, _⟩
  have unlimited : params.minBillableKg = none := by
    rcases Option.map_eq_some_iff.mp offered with ⟨service, _, rfl⟩
    rfl
  have equal := always _ _ (Shop.clock 1) _ _ _ items item (some 3) none
    Sample.order state.database quote params 9999 1000 displayed member
    (toOption_eq_some.mp quoted) offered subtotal fee
  have shown : item.total none (some 3) none = 10998 := shown
  rw [unlimited, shown] at equal
  norm_num at equal

end Lalaba.Discovery
