import Lalaba.Orders.Service

/-!
# The terms of an order

What an order was booked under: how each line is priced, the percentage of the
platform fee, the fees of the legs and of the turnaround, and the discount.  The
service writes the terms once, when it inserts the order; weighing, surcharges,
fees and collections leave them alone.
-/

namespace Lalaba.Orders

/-- What a line was booked under. -/
structure LineTerms extends ServiceLinePricingParams where
  serviceRefId : ObjectId
  productSurchargeCentavos : ℚ≥0
  estimatedLineTotalCentavos : ℚ

/-- What an order was booked under. -/
structure Terms where
  lines : List LineTerms
  platformFeePercent : Option ℚ≥0
  serviceSubtotalCentavos : Option ℚ
  pickupFeeCentavos : Option ℕ
  returnFeeCentavos : Option ℕ
  turnaroundFeeCentavos : Option ℕ
  discountCentavos : Option ℚ
  estimatedTotalCentavos : ℚ

def ServiceLineSnapshot.terms (line : ServiceLineSnapshot) : LineTerms where
  toServiceLinePricingParams := line.toServiceLinePricingParams
  serviceRefId := line.serviceRefId
  productSurchargeCentavos := line.productSurchargeCentavos
  estimatedLineTotalCentavos := line.estimatedLineTotalCentavos

def termsOf (serviceLines : List ServiceLineSnapshot) (pricing : OrderPricing) : Terms where
  lines := serviceLines.map ServiceLineSnapshot.terms
  platformFeePercent := pricing.platformFeePercent
  serviceSubtotalCentavos := pricing.serviceSubtotalCentavos
  pickupFeeCentavos := pricing.pickupFeeCentavos
  returnFeeCentavos := pricing.returnFeeCentavos
  turnaroundFeeCentavos := pricing.turnaroundFeeCentavos
  discountCentavos := pricing.discountCentavos
  estimatedTotalCentavos := pricing.estimatedTotalCentavos

def OnlineOrder.terms (order : OnlineOrder) : Terms := termsOf order.serviceLines order.pricing

theorem pricing_not_mem_paths (patch : TransitionPatch) : Path.pricing ∉ patch.paths := by
  simp only [TransitionPatch.paths, Finset.mem_union, not_or]
  refine ⟨⟨by decide, ?_⟩, ?_⟩ <;> split <;> decide

theorem finalizePricing_terms (measured : Measurement)
    (document : OrderDocument) :
    (finalizePricing measured document).order.terms =
      document.order.terms := by
  simp only [finalizePricing, OrderDocument.markModified,
    OrderDocument.mutate, OnlineOrder.terms, termsOf, List.map_map]
  rfl

theorem map_terms_set {lines : List ServiceLineSnapshot} {index : ℕ}
    {line replacement : ServiceLineSnapshot}
    (found : lines[index]? = some line)
    (same : replacement.terms = line.terms) :
    (lines.set index replacement).map ServiceLineSnapshot.terms =
      lines.map ServiceLineSnapshot.terms := by
  rw [List.map_set, same]
  apply List.ext_getElem?
  intro other
  rw [List.getElem?_set]
  split
  · rename_i here
    subst here
    rw [List.getElem?_map, found]
    simp [(List.getElem?_eq_some_iff.mp found).choose]
  · rfl

theorem resolveHold_terms (clock : Clock) (hold : QualityHold)
    (approve : Bool) (order : OnlineOrder) :
    (order.resolveHold clock hold approve).terms = order.terms := by
  rw [OnlineOrder.resolveHold]
  split
  · rename_i charge line _ found
    split
    · simp only [OnlineOrder.applySurcharge, OnlineOrder.terms, termsOf, OrderPricing.surcharge]
      congr 1
      exact map_terms_set found rfl
    · rfl
  · rfl

end Lalaba.Orders
