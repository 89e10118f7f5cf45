import Lalaba.WasherServices.Service
import Mathlib.Algebra.Order.Archimedean.Basic

/-!
# Prices of offerings

The price of a line grows with what is measured, is at least the headline amount, and
has no bound where it is charged by weight.  An offering that is accepted has all that
these bounds ask for, and what a washer is charged at is decided by the last call about
her offering alone.
-/

namespace Lalaba.Orders

section

variable {value value' : ℚ} {whole bound : ℤ}

theorem roundCentavos_mono (le : value ≤ value') : roundCentavos value ≤ roundCentavos value' := by
  rw [roundCentavos, roundCentavos]
  exact Int.floor_le_floor (by linarith)

theorem le_roundCentavos (le : (whole : ℚ) ≤ value) : whole ≤ roundCentavos value := by
  rw [roundCentavos]
  exact Int.le_floor.mpr (by linarith)

theorem lt_roundCentavos (le : (bound : ℚ) + 1 ≤ value) : bound < roundCentavos value := by
  have next : ((bound + 1 : ℤ) : ℚ) ≤ value := by
    push_cast
    exact le
  exact Int.lt_iff_add_one_le.mpr (le_roundCentavos next)

end

section

variable {weight weight' : Option ℚ≥0}

theorem le_billableKg (minBillableKg : Option ℚ≥0) :
    ((weight.getD 0 : ℚ≥0) : ℚ) ≤ billableKg weight minBillableKg := by
  cases minBillableKg with
  | none => exact le_rfl
  | some minimum =>
    simp only [billableKg]
    split
    · exact le_rfl
    · exact le_max_left _ _

theorem billableKg_mono (minBillableKg : Option ℚ≥0)
    (le : weight.getD 0 ≤ weight'.getD 0) :
    billableKg weight minBillableKg ≤ billableKg weight' minBillableKg := by
  have le : ((weight.getD 0 : ℚ≥0) : ℚ) ≤ (weight'.getD 0 : ℚ≥0) := by
    exact_mod_cast le
  cases minBillableKg with
  | none => exact le
  | some minimum =>
    simp only [billableKg]
    split
    · exact le
    · exact max_le_max_right _ le

theorem loadsFor_mono (capacityKg : Option ℚ≥0)
    (le : weight.getD 0 ≤ weight'.getD 0) :
    loadsFor weight capacityKg ≤ loadsFor weight' capacityKg := by
  have le : ((weight.getD 0 : ℚ≥0) : ℚ) ≤ (weight'.getD 0 : ℚ≥0) := by
    exact_mod_cast le
  cases capacityKg with
  | none => exact le_rfl
  | some capacity =>
    simp only [loadsFor]
    split
    · exact le_rfl
    · refine max_le_max_left _ (Int.ceil_le_ceil ?_)
      exact div_le_div_of_nonneg_right le (NNRat.coe_nonneg capacity)

theorem le_loadsFor {capacity : ℚ≥0} (positive : 0 < capacity) :
    ((weight.getD 0 : ℚ≥0) : ℚ) / capacity ≤ loadsFor weight (some capacity) := by
  rw [loadsFor, if_neg positive.ne', Int.cast_max]
  exact le_max_of_le_right (Int.le_ceil _)

end

section

variable (params : ServiceLinePricingParams)
  {weight weight' : Option ℚ≥0} {pieces pieces' : Option ℕ}

theorem calculateServiceLineTotal_mono
    (heavier : weight.getD 0 ≤ weight'.getD 0)
    (more : pieces.getD 0 ≤ pieces'.getD 0) :
    calculateServiceLineTotal params weight pieces ≤
      calculateServiceLineTotal params weight' pieces' := by
  have price : (0 : ℚ) ≤ params.price := NNRat.coe_nonneg _
  have billed := billableKg_mono params.minBillableKg heavier
  rw [calculateServiceLineTotal, calculateServiceLineTotal]
  cases params.pricingType with
  | perKilo =>
    exact roundCentavos_mono (mul_le_mul_of_nonneg_right billed price)
  | perPiece =>
    have more : ((pieces.getD 0 : ℕ) : ℚ) ≤ (pieces'.getD 0 : ℕ) := by
      exact_mod_cast more
    exact roundCentavos_mono (mul_le_mul_of_nonneg_right more price)
  | perLoad => exact le_rfl
  | perLoadWithCapacity =>
    have loads : (loadsFor weight params.baseKilos : ℚ) ≤ loadsFor weight' params.baseKilos := by
      exact_mod_cast loadsFor_mono params.baseKilos heavier
    exact roundCentavos_mono (mul_le_mul_of_nonneg_right loads price)
  | perKiloWithBase =>
    have rate : (0 : ℚ) ≤ (params.excessRate.getD 0 : ℚ≥0) := NNRat.coe_nonneg _
    have excess := max_le_max_left (0 : ℚ)
      (sub_le_sub_right billed ((params.baseKilos.getD 0 : ℚ≥0) : ℚ))
    exact roundCentavos_mono (add_le_add_right (mul_le_mul_of_nonneg_right excess rate) _)

theorem headline_le_calculateServiceLineTotal {centavos : ℤ}
    (price : (params.price : ℚ) = centavos)
    (heavy : 1 ≤ weight.getD 0) (some : 1 ≤ pieces.getD 0) :
    centavos ≤ calculateServiceLineTotal params weight pieces := by
  have nonneg : (0 : ℚ) ≤ params.price := NNRat.coe_nonneg _
  have heavy : (1 : ℚ) ≤ (weight.getD 0 : ℚ≥0) := by
    exact_mod_cast heavy
  have headline : (centavos : ℚ) ≤ params.price := price.ge
  rw [calculateServiceLineTotal]
  cases params.pricingType with
  | perKilo =>
    have billed := heavy.trans (le_billableKg params.minBillableKg)
    exact le_roundCentavos (headline.trans (le_mul_of_one_le_left nonneg billed))
  | perPiece =>
    have counted : (1 : ℚ) ≤ (pieces.getD 0 : ℕ) := by
      exact_mod_cast some
    exact le_roundCentavos (headline.trans (le_mul_of_one_le_left nonneg counted))
  | perLoad => exact le_roundCentavos headline
  | perLoadWithCapacity =>
    have loads : (1 : ℚ) ≤ loadsFor weight params.baseKilos := by
      exact_mod_cast loadsFor_pos weight params.baseKilos
    exact le_roundCentavos (headline.trans (le_mul_of_one_le_left nonneg loads))
  | perKiloWithBase =>
    have rate : (0 : ℚ) ≤ (params.excessRate.getD 0 : ℚ≥0) := NNRat.coe_nonneg _
    have excess : (0 : ℚ) ≤
        max 0 (billableKg weight params.minBillableKg - (params.baseKilos.getD 0 : ℚ≥0)) :=
      le_max_left _ _
    exact le_roundCentavos (headline.trans (le_add_of_nonneg_right (mul_nonneg excess rate)))

def ServiceLinePricingParams.Weighs (params : ServiceLinePricingParams) :
    Prop :=
  match params.pricingType with
  | .perKilo => 0 < params.price
  | .perLoadWithCapacity =>
    0 < params.price ∧ ∃ capacity, params.baseKilos = some capacity ∧ 0 < capacity
  | .perKiloWithBase =>
    ∃ rate, params.excessRate = some rate ∧ 0 < rate
  | .perPiece | .perLoad => False

/-- A line that charges by weight has no greatest price. -/
theorem exists_lt_calculateServiceLineTotal (weighs : params.Weighs)
    (pieces : Option ℕ) (bound : ℤ) :
    ∃ weight, bound < calculateServiceLineTotal params (some weight) pieces := by
  rw [ServiceLinePricingParams.Weighs] at weighs
  cases type : params.pricingType with
  | perKilo =>
    rw [type] at weighs
    have positive : (0 : ℚ) < params.price := by exact_mod_cast weighs
    rcases exists_nat_ge (((bound : ℚ) + 1) / params.price) with ⟨kilos, enough⟩
    have billed : (kilos : ℚ) ≤
        billableKg (some (kilos : ℚ≥0)) params.minBillableKg :=
      @le_billableKg (some kilos) params.minBillableKg
    refine ⟨kilos, ?_⟩
    rw [calculateServiceLineTotal, type]
    exact lt_roundCentavos ((div_le_iff₀ positive).mp (enough.trans billed))
  | perPiece | perLoad =>
    rw [type] at weighs
    exact weighs.elim
  | perLoadWithCapacity =>
    rw [type] at weighs
    rcases weighs with ⟨price, capacity, known, roomy⟩
    have positive : (0 : ℚ) < params.price := by exact_mod_cast price
    have roomy' : (capacity : ℚ) ≠ 0 := by exact_mod_cast roomy.ne'
    rcases exists_nat_ge (((bound : ℚ) + 1) / params.price) with ⟨loads, enough⟩
    have billed := @le_loadsFor (some (loads * capacity)) capacity roomy
    rw [Option.getD_some, NNRat.cast_mul, NNRat.cast_natCast,
      mul_div_cancel_right₀ _ roomy'] at billed
    refine ⟨loads * capacity, ?_⟩
    rw [calculateServiceLineTotal, type]
    dsimp only
    rw [known]
    exact lt_roundCentavos ((div_le_iff₀ positive).mp (enough.trans billed))
  | perKiloWithBase =>
    rw [type] at weighs
    rcases weighs with ⟨rate, known, charged⟩
    have positive : (0 : ℚ) < rate := by exact_mod_cast charged
    have price : (0 : ℚ) ≤ params.price := NNRat.coe_nonneg _
    rcases exists_nat_ge (((bound : ℚ) + 1) / rate) with ⟨kilos, enough⟩
    let weight : ℚ≥0 := params.baseKilos.getD 0 + kilos
    have billed : ((params.baseKilos.getD 0 : ℚ≥0) : ℚ) + kilos ≤
        billableKg (some weight) params.minBillableKg := by
      have billed := @le_billableKg (some weight) params.minBillableKg
      rw [Option.getD_some] at billed
      push_cast [weight] at billed
      exact billed
    have excess : (kilos : ℚ) ≤
        max 0 (billableKg (some weight) params.minBillableKg - (params.baseKilos.getD 0 : ℚ≥0)) :=
      le_max_of_le_right (by linarith)
    refine ⟨weight, ?_⟩
    rw [calculateServiceLineTotal, type]
    dsimp only
    rw [known, Option.getD_some]
    have charged := (div_le_iff₀ positive).mp (enough.trans excess)
    exact lt_roundCentavos (by linarith)

end

end Lalaba.Orders

namespace Lalaba.WasherServices

open Foundation
open Foundation.Configuration
open Orders (PricingSource WasherPricingModel
  calculateServiceLineTotal calculateServiceLineTotal_mono
  calculateServiceLineTotal_nonneg exists_lt_calculateServiceLineTotal
  headline_le_calculateServiceLineTotal platformPricingOf priceFromSource
  resolveWasherPricing)

namespace Offer

variable (offer : Offer)

def pricing : Orders.ResolvedWasherPricing :=
  resolveWasherPricing offer.template.priced (some offer.patch)

def price (weight : Option ℚ≥0) (pieces : Option ℕ) : ℤ :=
  calculateServiceLineTotal offer.pricing.toServiceLinePricingParams weight pieces

theorem pricing_eq : offer.pricing = priceFromSource offer.patch := by
  have free : offer.template.priced.isPlatformFixed = false := offer.washerSet
  rw [pricing, resolveWasherPricing, free, if_neg Bool.false_ne_true]

theorem headline_eq : (offer.pricing.price : ℚ) = offer.input.priceCentavos := by
  rw [pricing_eq, priceFromSource]
  cases offer.patch.model with
  | _ => rfl

theorem weighs (byWeight : offer.input.pricingModel ≠ .perItem)
    (rated : offer.input.pricingModel = .baseExcess →
      offer.input.excessRatePerKgCentavos ≠ some 0) :
    offer.pricing.Weighs := by
  have priced : 0 < offer.patch.priceCentavos := offer.price_pos
  have stored : offer.patch.model = offer.input.pricingModel := rfl
  rw [pricing_eq, priceFromSource]
  cases model : offer.input.pricingModel with
  | perKg =>
    rw [stored, model]
    exact priced
  | perLoad =>
    rcases offer.capacity model with ⟨capacity, known, positive⟩
    have kept : offer.patch.loadCapacityKg =
        some ⟨capacity, positive.le⟩ :=
      (dif_pos model).trans (nonnegative_eq _ known)
    rw [stored, model]
    exact ⟨priced, _, kept, positive⟩
  | perItem => exact (byWeight model).elim
  | baseExcess =>
    rcases offer.excessRate model with ⟨rate, known, nonneg⟩
    have positive : 0 < rate := by
      refine lt_of_le_of_ne nonneg ?_
      rintro rfl
      exact rated model known
    have kept : offer.patch.excessRatePerKgCentavos =
        some ⟨rate, nonneg⟩ :=
      (dif_pos model).trans (nonnegative_eq _ known)
    rw [stored, model]
    exact ⟨_, congrArg (fun rate => some (rate.getD 0)) kept, positive⟩

/-- What the price of a line is like. -/
structure Sane (offer : Offer) : Prop where
  nonneg : ∀ weight pieces, 0 ≤ offer.price weight pieces
  monotone : ∀ weight weight' pieces pieces',
    weight.getD 0 ≤ weight'.getD 0 → pieces.getD 0 ≤ pieces'.getD 0 →
    offer.price weight pieces ≤ offer.price weight' pieces'
  headline : ∀ centavos : ℤ, offer.input.priceCentavos = centavos →
    ∀ weight pieces, 1 ≤ weight.getD 0 → 1 ≤ pieces.getD 0 → centavos ≤ offer.price weight pieces
  unbounded : offer.input.pricingModel ≠ .perItem →
    (offer.input.pricingModel = .baseExcess → offer.input.excessRatePerKgCentavos ≠ some 0) →
    ∀ pieces bound, ∃ weight, bound < offer.price (some weight) pieces

theorem sane : offer.Sane where
  nonneg := calculateServiceLineTotal_nonneg _
  monotone _ _ _ _ := calculateServiceLineTotal_mono _
  headline _ whole _ _ := headline_le_calculateServiceLineTotal _ (offer.headline_eq.trans whole)
  unbounded byWeight rated := exists_lt_calculateServiceLineTotal _ (offer.weighs byWeight rated)

end Offer

/-! ## The last accepted call -/

/-- What a washer has last done with her offering of a service. -/
inductive Settled where
  | offered (offer : Offer)
  | removed
deriving DecidableEq

def Settled.row : Settled → Option PricingSource
  | .offered offer => some offer.patch
  | .removed => none

abbrev Record : Type := ObjectId × ObjectId → Option Settled

def see (configuration : Calls) (move : Move Request Tick) (_ : Calls)
    (record : Record) : Record :=
  match move with
  | .enter _ => record
  | .resume index _ =>
    match configuration.calls[index]? with
    | some (some (.upsert branchId offer)) =>
      Function.update record (branchId, offer.input.serviceTemplateId) (some (.offered offer))
    | some (some (.remove branchId serviceTemplateId)) =>
      Function.update record (branchId, serviceTemplateId) (some .removed)
    | _ => record

def Store.resolve (branchId serviceTemplateId : ObjectId)
    (template : WasherServiceTemplate) (store : Store) :
    Orders.ResolvedWasherPricing :=
  resolveWasherPricing template.priced (store.offerings.lookup (branchId, serviceTemplateId))

def Record.row (record : Record) (initial : Store)
    (key : ObjectId × ObjectId) : Option PricingSource :=
  match record key with
  | none => initial.offerings.lookup key
  | some settled => settled.row

section

variable {foldCase : String → String} {initial : Store}
  {both both' : Calls × Record} {move : Move Request Tick}

def Followed (initial : Store) (both : Calls × Record) : Prop :=
  ∀ key, both.1.store.offerings.lookup key = both.2.row initial key

theorem row_update {record : Record} {initial : Store}
    {key written : ObjectId × ObjectId} {settled : Settled} :
    Record.row (Function.update record written (some settled)) initial key =
      if key = written then settled.row else record.row initial key := by
  rw [Record.row, Function.update_apply]
  by_cases same : key = written
  · rw [if_pos same, if_pos same]
  · rw [if_neg same, if_neg same, Record.row]

theorem followed_step (followed : Followed initial both)
    (stepped : ((catalogue foldCase).system.observed see).step move both =
      some both') : Followed initial both' := by
  rcases both' with ⟨after, record⟩
  rcases System.observed_step stepped with ⟨ran, seen⟩
  dsimp only at ran seen
  subst seen
  intro key
  have before := followed key
  cases Service.stepped_of_step ran with
  | entered request call enters => exact before
  | resumed index tick call store next waits resumes =>
    rcases resumed_of_resume resumes with ⟨rfl, resumed⟩
    dsimp only
    rw [see, waits]
    cases resumed with
    | refused call ofTemplate =>
      cases call with
      | insert | write | setActive => exact before
      | upsert | remove => cases ofTemplate
    | inserted | updated | activated => exact before
    | upserted branchId offer =>
      dsimp only [Configuration.resumed]
      rw [row_update]
      split
      · rename_i same
        rw [same, AList.lookup_insert]
        rfl
      · rename_i other
        rw [AList.lookup_insert_ne other]
        exact before
    | removed branchId serviceTemplateId =>
      dsimp only [Configuration.resumed]
      rw [row_update]
      split
      · rename_i same
        rw [same, AList.lookup_erase]
        rfl
      · rename_i other
        rw [AList.lookup_erase_ne other]
        exact before

end

namespace Sample

def washAndFold : CreateWasherServiceTemplateInput where
  name := "Wash & Fold"
  basePriceCentavos := 15000
  baseWeightKg := 7
  excessRatePerKgCentavos := 2000

def byLoad : SetWasherServiceOfferingInput where
  serviceTemplateId := "wash"
  pricingModel := .perLoad
  priceCentavos := 18000
  loadCapacityKg := some 7

def byKilo : SetWasherServiceOfferingInput where
  serviceTemplateId := "wash"
  pricingModel := .perKg
  priceCentavos := 4000
  minBillableKg := some 3

def kiloOffer : Offer where
  template := washAndFold.created
  input := byKilo
  allowed := by decide +kernel

def switching : List (Move Request Tick) :=
  [.enter (.create washAndFold), .resume 0 { drawn := "wash" },
    .enter (.setOffering "branch" byLoad), .resume 1 {},
    .enter (.removeOffering "branch" "wash"), .resume 2 {},
    .enter (.setOffering "branch" byKilo), .resume 3 {}]

end Sample

end Lalaba.WasherServices
