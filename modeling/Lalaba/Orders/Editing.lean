import Lalaba.Orders.Preparation

/-!
# What the methods change in their documents

A second pass over the methods of the service: which paths of its document a
method marks, and what it makes of the quality hold and of the prices it has read.
-/

namespace Lalaba.Orders

open Foundation

/-- The paths an operation may mark. -/
def Operation.marks : Operation → Finset Path
  | .acceptOrder | .proposeOrderChange _ _ | .respondToProviderChange _
  | .abandonUnsettledOrder => ∅
  | .rejectOrder _ => {.rejectionReason}
  | .cancelOrder _ => {.cancellationReason}
  | .recordPickupWeight _ => {.serviceLines, .pricing, .pickupProof}
  | .recordPickupPayment _ => {.paymentTiming, .pickupAssignment}
  | .receiveAtCounter _ =>
    {.paymentTiming, .serviceLines, .pricing, .pickupProof}
  | .raiseQualityHold _ =>
    {.returnAssignment, .pickupAssignment, .activeQualityHold}
  | .respondToQualityHold _ =>
    {.returnAssignment, .pickupAssignment, .pricing, .serviceLines, .activeQualityHold}
  | .autoResolveExpiredQualityHold => {.activeQualityHold}
  | .recordDelivery _ =>
    {.completedAt, .returnProof, .returnAssignment}
  | .verifySelfPickup _ => {.completedAt, .returnProof}
  | _ => {.returnAssignment, .pickupAssignment}

def QualityHold.answered (clock : Clock) (response : QualityHoldResponse)
    (hold : QualityHold) : QualityHold :=
  { hold with customerResponse := response, resolvedAt := some clock.now }

def QualityHoldResponse.of (approve : Bool) : QualityHoldResponse :=
  if approve then .approved else .declined

/-- What an operation makes of the hold and of the prices of a row. -/
def Operation.Edits (clock : Clock) (row order : OnlineOrder) :
    Operation → Prop
  | .proposeOrderChange _ _ =>
    order.activeQualityHold = row.activeQualityHold ∧
      ∃ estimatedTotalCentavos, order.pricing = { row.pricing with estimatedTotalCentavos }
  | .recordPickupWeight input =>
    order.activeQualityHold = row.activeQualityHold ∧
      order.pricing = row.pricing.finalized input.measured row.serviceLines
  | .receiveAtCounter input =>
    order.activeQualityHold = row.activeQualityHold ∧
      order.pricing = row.pricing.finalized input.measured row.serviceLines
  | .raiseQualityHold input =>
    order.activeQualityHold = some (raisedHold clock input) ∧
      order.pricing = row.pricing ∧ assertHoldable input row = .ok ()
  | .respondToQualityHold approve =>
    ∃ hold, answerableHold clock row = .ok hold ∧
      order.activeQualityHold = some (hold.answered clock (.of approve)) ∧
      order.pricing = (row.resolveHold clock hold approve).pricing
  | .autoResolveExpiredQualityHold =>
    ∃ hold, row.activeQualityHold = some hold ∧
      row.status = .laundryQualityHold ∧ hold.resolvedAt = none ∧
      order.activeQualityHold = some (hold.answered clock .declined) ∧
      order.pricing = row.pricing
  | _ =>
    order.activeQualityHold = row.activeQualityHold ∧ order.pricing = row.pricing

def Path.bills : Path → Bool
  | .serviceLines | .pricing | .activeQualityHold => true
  | _ => false

/-- A document as an operation leaves it. -/
structure Edited (clock : Clock) (row : OnlineOrder)
    (operation : Operation) (document : OrderDocument) : Prop where
  marks : document.modified ⊆ operation.marks
  writes : ∀ path ∈ operation.marks, path.bills → path ∈ document.modified
  edits : operation.Edits clock row document.order
  lines : document.order.serviceLines.length = row.serviceLines.length

def Operation.savesOnly : Operation → Bool
  | .updateCourierLocation _ => true
  | .raiseQualityHold input => !input.blocksOrder
  | _ => false

def Prepared.Edits (clock : Clock) (row : OnlineOrder)
    (operation : Operation) : Prepared → Prop
  | .transaction callback document =>
    Edited clock row operation document ∧ operation.savesOnly = false ∧
      (operation.savesFirst = true → callback.chargeless)
  | .saveOnly document =>
    Edited clock row operation document ∧ operation.savesOnly = true
  | .refuse _ | .unchanged => True

/-! ## Facts about the edits -/

theorem resolveHold_hold (clock : Clock) (hold : QualityHold)
    (approve : Bool) (order : OnlineOrder) :
    (order.resolveHold clock hold approve).activeQualityHold =
      some (hold.answered clock (.of approve)) := by
  rw [OnlineOrder.resolveHold]
  split
  · split <;> rfl
  · rfl

theorem resolveHold_lines (clock : Clock) (hold : QualityHold)
    (approve : Bool) (order : OnlineOrder) :
    (order.resolveHold clock hold approve).serviceLines.length =
      order.serviceLines.length := by
  rw [OnlineOrder.resolveHold]
  split
  · split
    · simp [OnlineOrder.applySurcharge]
    · rfl
  · rfl

theorem finalizePricing_lines (measured : Measurement)
    (document : OrderDocument) :
    (finalizePricing measured document).order.serviceLines.length =
      document.order.serviceLines.length := by
  simp [finalizePricing, OrderDocument.markModified, OrderDocument.mutate]

section

variable {environment : Environment} {clock : Clock} {actor : User}
  {database : Database} {row : OnlineOrder} {operation : Operation}

theorem applyHandoverProof_marks (leg : CourierLeg)
    (objectKeys : List String) (actorUid : Uid)
    (document : OrderDocument) :
    (applyHandoverProof clock leg objectKeys actorUid document).modified ⊆ insert (match leg with
        | .pickup => .pickupProof
        | .return => .returnProof) document.modified := by
  rw [applyHandoverProof]
  split
  · exact Finset.subset_insert _ _
  · cases leg <;> exact Finset.Subset.refl _

theorem weighed_edits {measured : Measurement} {objectKeys : List String}
    {actorUid : Uid} {document : OrderDocument}
    (is : document = applyHandoverProof clock .pickup objectKeys actorUid
      (finalizePricing measured (.ofRow row))) :
    document.modified ⊆ {.serviceLines, .pricing, .pickupProof} ∧
      (.pricing ∈ document.modified ∧ .serviceLines ∈ document.modified) ∧
      (document.order.activeQualityHold = row.activeQualityHold ∧
        document.order.pricing = row.pricing.finalized measured row.serviceLines) ∧
      document.order.serviceLines.length = row.serviceLines.length := by
  subst is
  rcases applyHandoverProof_eq clock .pickup objectKeys actorUid
      (finalizePricing measured (.ofRow row)) with
    ⟨_, _, paths, same, _⟩
  refine ⟨?_, ?_, ?_, ?_⟩
  · have proof := @applyHandoverProof_marks clock .pickup objectKeys
      actorUid (finalizePricing measured (.ofRow row))
    apply proof.trans
    intro path member
    simp only [finalizePricing, OrderDocument.modified_markModified,
      OrderDocument.modified_mutate, OrderDocument.modified_ofRow,
      Finset.mem_insert, Finset.notMem_empty, or_false] at member
    rcases member with rfl | rfl | rfl <;> simp
  · rw [same]
    simp [finalizePricing]
  · rw [same]
    exact ⟨rfl, rfl⟩
  · rw [same]
    exact finalizePricing_lines measured (.ofRow row)

theorem handed_edits {objectKeys : List String} {actorUid : Uid}
    {document handed : OrderDocument}
    (is : handed = (applyHandoverProof clock .return objectKeys actorUid
      document).stampCompleted clock) :
    handed.modified ⊆
        insert .completedAt (insert .returnProof document.modified) ∧
      handed.order.activeQualityHold = document.order.activeQualityHold ∧
      handed.order.pricing = document.order.pricing ∧
      handed.order.serviceLines = document.order.serviceLines := by
  subst is
  constructor
  · have proof := @applyHandoverProof_marks clock .return objectKeys actorUid document
    exact Finset.insert_subset_insert _ proof
  · rcases applyHandoverProof_eq clock .return objectKeys actorUid document
      with ⟨_, _, paths, same, _⟩
    rw [same]
    exact ⟨rfl, rfl, rfl⟩

theorem Edited.plain {document : OrderDocument}
    (marks : document.modified ⊆ operation.marks)
    (unbilled : ∀ path ∈ operation.marks, path.bills = false)
    (edits : operation.Edits clock row document.order)
    (lines : document.order.serviceLines.length = row.serviceLines.length) :
    Edited clock row operation document where
  marks := marks
  writes := by
    intro path member bills
    rw [unbilled path member] at bills
    cases bills
  edits := edits
  lines := lines

theorem Prepared.Edits.moved {document : OrderDocument} {target : OrderStatus}
    {note : Option String} {next : Option OrderStatus}
    (edited : Edited clock row operation document.markAssignments)
    (moves : operation.savesOnly = false) :
    Prepared.Edits clock row operation (saveAndTransition document target actor note next) :=
  ⟨edited, moves, fun _ => trivial⟩

/-- What every method changes. -/
theorem Operation.edited (operation : Operation) :
    Yields (operation.prepare environment clock actor database row)
      (Prepared.Edits clock row operation) := by
  cases operation with
  | acceptOrder =>
    apply Yields.checked
    apply Yields.bind
    intro _ _
    apply Yields.after
    exact ⟨.plain (by simp) (by simp [marks]) ⟨rfl, rfl⟩ rfl, rfl, by rintro ⟨⟩⟩
  | rejectOrder reason =>
    apply Yields.after
    exact ⟨.plain (by simp [marks]) (by simp [marks, Path.bills]) ⟨rfl, rfl⟩
      rfl, rfl, fun _ => trivial⟩
  | proposeOrderChange reason revised =>
    apply Yields.after
    cases revised with
    | none | some =>
      exact ⟨.plain (by simp) (by simp [marks]) ⟨rfl, _, rfl⟩ rfl, rfl,
        fun _ => trivial⟩
  | respondToProviderChange approve =>
    apply Yields.after
    exact ⟨.plain (by simp) (by simp [marks]) ⟨rfl, rfl⟩ rfl, rfl, by rintro ⟨⟩⟩
  | cancelOrder reason =>
    apply Yields.after
    exact ⟨.plain (by simp [marks]) (by simp [marks, Path.bills]) ⟨rfl, rfl⟩
      rfl, rfl, fun _ => trivial⟩
  | assignPickupStaff staffUid =>
    apply Yields.checked
    split
    · exact Yields.pure trivial
    · apply Yields.pure
      exact ⟨.plain (by simp [marks, CourierLeg.path])
        (by simp [marks, Path.bills]) ⟨rfl, rfl⟩ rfl, rfl,
        fun _ => trivial⟩
  | updateCourierLocation input =>
    simp only [prepare, Orders.updateCourierLocation]
    split
    · exact Yields.error
    · rename_i leg _
      split
      · exact Yields.ok trivial
      · apply Yields.ok
        cases leg <;>
          exact ⟨.plain (by simp [marks, CourierLeg.path])
            (by simp [marks, Path.bills]) ⟨rfl, rfl⟩ rfl, rfl⟩
  | recordPickupWeight input =>
    apply Yields.after
    rcases @weighed_edits clock row input.measured input.proofObjectKeys
        actor._id _ rfl with ⟨paths, billed, edits, lines⟩
    refine ⟨⟨paths, ?_, edits, lines⟩, rfl, by rintro ⟨⟩⟩
    intro path member bills
    simp only [marks, Finset.mem_insert, Finset.mem_singleton] at member
    rcases member with rfl | rfl | rfl
    · exact billed.2
    · exact billed.1
    · cases bills
  | recordPickupPayment input =>
    apply Yields.checked
    apply Yields.bind
    intro _ _
    apply Yields.pure
    exact ⟨.plain (by simp [marks, OrderDocument.setPaymentTiming,
      OrderDocument.completeLeg, CourierLeg.path])
      (by simp [marks, Path.bills]) ⟨rfl, rfl⟩ rfl, rfl, by rintro ⟨⟩⟩
  | startPickupRoute | arriveAtPickup | startReturnRoute | arriveAtReturn
  | recordFailedPickupAttempt | recordFailedDeliveryAttempt
  | retryPickupSameDay | escalateToReschedule | cancelAfterFailedPickup
  | markLaundryReady | confirmReturnedToProvider | chooseReturnOption =>
    apply Yields.after
    exact .moved (.plain (by simp [marks]) (by simp [marks, Path.bills]) ⟨rfl, rfl⟩ rfl) rfl
  | reschedulePickup | scheduleRedelivery =>
    apply Yields.after
    exact .moved (.plain (by simp [marks, CourierLeg.path,
      Finset.insert_subset_iff]) (by simp [marks, Path.bills]) ⟨rfl, rfl⟩ rfl) rfl
  | receiveAtCounter input =>
    apply Yields.checked
    apply Yields.bind
    intro _ _
    apply Yields.pure
    rcases @weighed_edits clock row input.measured input.proofObjectKeys
        actor._id _ rfl with ⟨paths, billed, edits, lines⟩
    refine ⟨⟨Finset.insert_subset_insert _ paths, ?_, edits, lines⟩, rfl, by rintro ⟨⟩⟩
    intro path member bills
    simp only [marks, Finset.mem_insert, Finset.mem_singleton] at member
    rcases member with rfl | rfl | rfl | rfl
    · cases bills
    · exact Finset.mem_insert_of_mem billed.2
    · exact Finset.mem_insert_of_mem billed.1
    · cases bills
  | raiseQualityHold input =>
    apply Yields.checked
    apply Yields.bind
    intro _ holdable
    apply Yields.pure
    split
    · rename_i blocks
      exact .moved ⟨by simp [marks], by simp [marks, Path.bills],
        ⟨rfl, rfl, holdable⟩, rfl⟩ (by simp [savesOnly, blocks])
    · rename_i documents
      exact ⟨⟨by simp [marks], by simp [marks, Path.bills],
        ⟨rfl, rfl, holdable⟩, rfl⟩, by simpa [savesOnly] using documents⟩
  | respondToQualityHold approve =>
    apply Yields.checked
    apply Yields.bind
    intro hold answerable
    apply Yields.pure
    exact .moved ⟨by simp [marks], by simp [marks, Path.bills],
      ⟨hold, answerable, resolveHold_hold clock hold approve row, rfl⟩,
      resolveHold_lines clock hold approve row⟩ rfl
  | autoResolveExpiredQualityHold =>
    simp only [prepare, Orders.autoResolveExpiredQualityHold]
    split
    · exact Yields.ok trivial
    · rename_i hold found
      split
      · exact Yields.ok trivial
      · rename_i expired
        simp only [not_or, not_not] at expired
        apply Yields.ok
        refine ⟨⟨by simp [marks], by simp [marks],
          ⟨hold, found, expired.1, ?_, rfl, rfl⟩, rfl⟩, rfl,
          fun _ => trivial⟩
        simpa using expired.2.1
  | assignReturnStaff staffUid =>
    apply Yields.checked
    split
    · exact Yields.pure trivial
    · apply Yields.pure
      exact .moved (.plain (by simp [marks, CourierLeg.path,
        Finset.insert_subset_iff]) (by simp [marks, Path.bills]) ⟨rfl, rfl⟩ rfl) rfl
  | recordDelivery input =>
    apply Yields.checked
    apply Yields.after
    rcases @handed_edits clock input.proofObjectKeys actor._id
        ((OrderDocument.ofRow row).completeLeg .return clock) _ rfl with
      ⟨paths, hold, pricing, lines⟩
    exact ⟨.plain paths (by simp [marks, Path.bills]) ⟨hold, pricing⟩
      (congrArg List.length lines), rfl, by rintro ⟨⟩⟩
  | verifySelfPickup input =>
    apply Yields.checked
    apply Yields.after
    rcases @handed_edits clock input.proofObjectKeys actor._id
        (.ofRow row) _ rfl with ⟨paths, hold, pricing, lines⟩
    exact ⟨.plain paths (by simp [marks, Path.bills]) ⟨hold, pricing⟩
      (congrArg List.length lines), rfl, by rintro ⟨⟩⟩
  | overrideStatus target note =>
    simp only [prepare, Orders.overrideStatus]
    split
    · exact Yields.error
    · split
      · apply Yields.ok
        exact .moved (.plain (by simp [marks]) (by simp [marks, Path.bills]) ⟨rfl, rfl⟩ rfl) rfl
      · split
        · exact Yields.error
        · exact Yields.error
  | abandonUnsettledOrder =>
    simp only [prepare, Orders.abandonUnsettledOrder]
    split
    · exact Yields.ok trivial
    · apply Yields.ok
      exact ⟨.plain (by simp) (by simp [marks]) ⟨rfl, rfl⟩ rfl, rfl, by rintro ⟨⟩⟩
  | reinstateAbandonedOrder note =>
    simp only [prepare, Orders.reinstateAbandonedOrder]
    split
    · exact Yields.error
    · apply Yields.ok
      exact .moved (.plain (by simp [marks]) (by simp [marks, Path.bills]) ⟨rfl, rfl⟩ rfl) rfl

end

end Lalaba.Orders
