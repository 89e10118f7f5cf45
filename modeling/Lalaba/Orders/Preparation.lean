import Lalaba.Orders.Refinement
import Lalaba.Orders.Terms

/-!
# What the methods hand to their transactions

One pass over the methods of the service: which document each of them hands to
which callback.  The rest of the development cites these facts and does not look
at the methods again.
-/

namespace Lalaba.Orders

open Foundation
open Promotions
open Wallets

/-- The status an operation first takes an order to. -/
def Operation.aim (order : OnlineOrder) : Operation → Option OrderStatus
  | .acceptOrder => some .acceptedByProvider
  | .rejectOrder _ => some .rejectedByProvider
  | .proposeOrderChange _ _ => some .providerChangeProposed
  | .respondToProviderChange approve =>
    some (if approve then .acceptedByProvider else .cancelled)
  | .cancelOrder _ => some .cancelled
  | .assignPickupStaff _ => some .pickupAssigned
  | .updateCourierLocation _ => none
  | .startPickupRoute => some .pickupEnRoute
  | .arriveAtPickup => some .pickupArrived
  | .recordPickupWeight _ => some .pickupWeighed
  | .recordPickupPayment _ => some .pickedUpFromCustomer
  | .recordFailedPickupAttempt _ => some .pickupAttemptFailed
  | .retryPickupSameDay => some .pickupAssigned
  | .escalateToReschedule => some .awaitingPickupReschedule
  | .reschedulePickup => some .pickupAssigned
  | .cancelAfterFailedPickup => some .cancelled
  | .receiveAtCounter _ => some .receivedByProvider
  | .markLaundryReady => some .laundryReady
  | .raiseQualityHold _ => some .laundryQualityHold
  | .respondToQualityHold _ => some .laundryInProgress
  | .autoResolveExpiredQualityHold => some .laundryInProgress
  | .chooseReturnOption returnMode => some (returnTarget returnMode)
  | .assignReturnStaff _ => some .returnAssigned
  | .startReturnRoute => some .returnEnRoute
  | .arriveAtReturn => some .returnArrived
  | .recordDelivery _ => some .deliveredToCustomer
  | .recordFailedDeliveryAttempt _ => some .deliveryAttempted
  | .confirmReturnedToProvider => some .returnedToProvider
  | .scheduleRedelivery => some .redeliveryScheduled
  | .verifySelfPickup _ => some .customerPickupVerified
  | .overrideStatus target _ => some target
  | .abandonUnsettledOrder => some .abandonedUnsettled
  | .reinstateAbandonedOrder _ =>
    some (match order.fulfillment.returnMode with
      | .customerSelfPickup => .awaitingCustomerPickup
      | .providerDelivery => .awaitingRedeliverySelection)

def Operation.courier (order : OnlineOrder) (leg : CourierLeg) :
    Operation → Option Uid
  | .assignPickupStaff staffUid =>
    if leg = .pickup then some staffUid else order.courier leg
  | .assignReturnStaff staffUid =>
    if leg = .return then some staffUid else order.courier leg
  | .reschedulePickup =>
    if leg = .pickup then none else order.courier leg
  | .scheduleRedelivery =>
    if leg = .return then none else order.courier leg
  | _ => order.courier leg

def Callback.aim : Callback → OrderStatus
  | .create _ _ _ => .pricingValidated
  | .saveThenTransition target _ _ _ _ => target
  | .accept _ _ _ _ => .acceptedByProvider
  | .respond _ approve =>
    if approve then .acceptedByProvider else .cancelled
  | .recordWeight _ => .pickupWeighed
  | .recordPayment _ _ _ => .pickedUpFromCustomer
  | .receive _ _ _ => .receivedByProvider
  | .handOver _ _ _ handedOver => handedOver
  | .abandon _ _ _ _ => .abandonedUnsettled

def CourierLeg.entry : CourierLeg → OrderStatus
  | .pickup => .pickupAssigned
  | .return => .returnAssigned

def Operation.savesFirst : Operation → Bool
  | .acceptOrder | .respondToProviderChange _ | .recordPickupWeight _
  | .recordPickupPayment _ | .receiveAtCounter _ | .recordDelivery _
  | .verifySelfPickup _ | .abandonUnsettledOrder => false
  | _ => true

/-- The status a second `saveAndTransition` takes an order to. -/
def Callback.next : Callback → Option OrderStatus
  | .saveThenTransition _ _ _ _ next => next
  | _ => none

/-- The transitions that some second `saveAndTransition` makes. -/
def followUps : List (OrderStatus × OrderStatus) :=
  [(.laundryReady, .awaitingCustomerPickup), (.laundryReady, .awaitingReturnAssignment),
    (.returnedToProvider, .awaitingRedeliverySelection),
    (.redeliveryScheduled, .returnAssigned)]

def Terms.SameBut (terms booked : Terms) : Prop :=
  { terms with
    estimatedTotalCentavos := booked.estimatedTotalCentavos } = booked

/-- The callbacks that never mark `pricing`. -/
def Callback.chargeless : Callback → Prop
  | .saveThenTransition _ _ _ _ _ => True
  | _ => False

/-- What an operation hands to a transaction. -/
structure Drafted (actor : User) (row : OnlineOrder)
    (operation : Operation) (callback : Callback)
    (document : OrderDocument) : Prop where
  identified : document.order._id = row._id
  inserted : document.isNew = false
  fits : callback.Fits document row.standing
  aims : operation.aim row = some callback.aim
  courier : ∀ leg, document.order.courier leg = operation.courier row leg
  terms : document.order.terms = row.terms ∨
    callback.chargeless ∧ .pricing ∉ document.modified ∧ document.order.terms.SameBut row.terms
  saves : callback.chargeless → operation.savesFirst
  follows : ∀ target, callback.next = some target → (callback.aim, target) ∈ followUps

/-- What an operation saves outside any transaction. -/
structure Amended (row : OnlineOrder) (document : OrderDocument) : Prop where
  identified : document.order._id = row._id
  inserted : document.isNew = false
  clean : document.modified ⊆ {.pickupAssignment, .returnAssignment, .activeQualityHold}
  courier : ∀ leg, document.order.courier leg = row.courier leg
  manned : ∀ leg : CourierLeg, leg.path ∈ document.modified → row.courier leg ≠ none
  terms : document.order.terms = row.terms

def Prepared.Drafts (actor : User) (row : OnlineOrder)
    (operation : Operation) : Prepared → Prop
  | .transaction callback document =>
    Drafted actor row operation callback document
  | .saveOnly document => Amended row document
  | .refuse _ | .unchanged => True

theorem courier_editAssignment {leg other : CourierLeg}
    {change : LegAssignment → LegAssignment} {document : OrderDocument}
    (same : ∀ assignment, (change assignment).assignedStaffUid = assignment.assignedStaffUid) :
    (document.editAssignment leg change).order.courier other =
      document.order.courier other := by
  have mapped : ∀ assignment : Option LegAssignment,
      (assignment.map change).bind LegAssignment.assignedStaffUid =
        assignment.bind LegAssignment.assignedStaffUid := by
    intro assignment
    cases assignment with
    | none => rfl
    | some assignment => exact same assignment
  cases leg <;> cases other
  · exact mapped _
  · rfl
  · rfl
  · exact mapped _

theorem courier_completeLeg (leg other : CourierLeg) (clock : Clock)
    (document : OrderDocument) :
    (document.completeLeg leg clock).order.courier other =
      document.order.courier other := by
  have same : ∀ assignment : LegAssignment, { assignment with
        completedAt := some clock.now }.assignedStaffUid =
        assignment.assignedStaffUid :=
    fun _ => rfl
  exact courier_editAssignment same

theorem applyHandoverProof_eq (clock : Clock) (leg : CourierLeg)
    (objectKeys : List String) (actorUid : Uid)
    (document : OrderDocument) :
    ∃ pickupProof returnProof paths,
      applyHandoverProof clock leg objectKeys actorUid document = { document with
            order := { document.order with pickupProof, returnProof }
            modified := paths ∪ document.modified } ∧
        ∀ path ∈ paths, path = Path.pickupProof ∨ path = .returnProof := by
  rw [applyHandoverProof]
  split
  · exact ⟨document.order.pickupProof, document.order.returnProof, ∅,
      by simp, by simp⟩
  · cases leg with
    | pickup => exact ⟨_, _, {.pickupProof}, rfl, by simp⟩
    | «return» => exact ⟨_, _, {.returnProof}, rfl, by simp⟩

theorem Measurement.serviceTotal_nonneg (measured : Measurement)
    (lines : List ServiceLineSnapshot) : 0 ≤ measured.serviceTotal lines := by
  apply List.sum_nonneg
  intro total member
  rcases List.mem_map.mp member with ⟨line, _, rfl⟩
  have price : (0 : ℚ) ≤ calculateServiceLineTotal
      line.toServiceLinePricingParams (measured.weightOf line)
      (measured.piecesOf line) :=
    Int.cast_nonneg (calculateServiceLineTotal_nonneg _ _ _)
  exact add_nonneg price (NNRat.coe_nonneg _)

theorem finalizePricing_due_nonneg (measured : Measurement)
    (document : OrderDocument) :
    0 ≤ (finalizePricing measured document).order.standing.due := by
  have lines := measured.serviceTotal_nonneg document.order.serviceLines
  have fee : (0 : ℚ) ≤ calculatePlatformFee
      (measured.serviceTotal document.order.serviceLines)
      (document.order.pricing.platformFeePercent.getD 0) :=
    Int.cast_nonneg (calculatePlatformFee_nonneg _ lines)
  show 0 ≤ measured.serviceTotal document.order.serviceLines +
    calculatePlatformFee
      (measured.serviceTotal document.order.serviceLines)
      (document.order.pricing.platformFeePercent.getD 0) +
    (document.order.pricing.pickupFeeCentavos.getD 0 : ℕ) +
    (document.order.pricing.returnFeeCentavos.getD 0 : ℕ) +
    (document.order.pricing.turnaroundFeeCentavos.getD 0 : ℕ)
  positivity

theorem resolveHold_standing (clock : Clock) (hold : QualityHold)
    (approve : Bool) (order : OnlineOrder) :
    (order.resolveHold clock hold approve).standing = order.standing ∨
      Quoted (order.resolveHold clock hold approve).standing
          order.standing ∧
        order.standing.due < (order.resolveHold clock hold approve).standing.due := by
  rw [OnlineOrder.resolveHold]
  split
  · rename_i charge line _ found
    split
    · rename_i charged
      refine .inr ⟨⟨rfl, rfl, rfl, rfl, rfl⟩, ?_⟩
      have surcharge : 0 < roundCentavos charge := by
        rw [roundCentavos]
        apply Int.floor_pos.mpr
        have positive : (1 : ℚ) ≤ charge := by
          exact_mod_cast Nat.one_le_iff_ne_zero.mpr charged.2
        linarith
      have fee : 0 ≤ calculatePlatformFee (roundCentavos charge)
          (order.pricing.platformFeePercent.getD 0) := by
        apply calculatePlatformFee_nonneg
        exact_mod_cast surcharge.le
      show order.pricing.customerTotalCentavos.getD 0 <
        order.pricing.customerTotalCentavos.getD 0 +
          roundCentavos charge + calculatePlatformFee
            (roundCentavos charge)
            (order.pricing.platformFeePercent.getD 0)
      have surcharge' : (0 : ℚ) < roundCentavos charge := by
        exact_mod_cast surcharge
      have fee' : (0 : ℚ) ≤ calculatePlatformFee (roundCentavos charge)
          (order.pricing.platformFeePercent.getD 0) := by
        exact_mod_cast fee
      linarith
    · exact .inl rfl
  · exact .inl rfl

/-! ## The methods -/

section

variable {environment : Environment} {clock : Clock} {actor : User}
  {database : Database} {row : OnlineOrder} {operation : Operation}
  {document : OrderDocument}

variable {target : OrderStatus} {leg : CourierLeg} {note : Option String}

theorem Drafted.plain {actorUid : Uid} {actorRole : String}
    {followUp : Option OrderStatus} (identified : document.order._id = row._id)
    (inserted : document.isNew = false)
    (standing : document.order.standing = row.standing)
    (aims : operation.aim row = some target)
    (courier : ∀ leg, document.order.courier leg = operation.courier row leg)
    (terms : document.order.terms = row.terms)
    (saves : operation.savesFirst) (next : ∀ other, followUp = some other →
      (target, other) ∈ followUps) :
    Drafted actor row operation
      (.saveThenTransition target actorUid actorRole note followUp)
      document where
  identified := identified
  inserted := inserted
  fits := ⟨.of_eq standing, .of_eq standing, .inl standing⟩
  aims := aims
  courier := courier
  terms := .inl terms
  saves := fun _ => saves
  follows := next

theorem Drafted.escorted_edit {change : LegAssignment → LegAssignment}
    (same : ∀ assignment, (change assignment).assignedStaffUid = assignment.assignedStaffUid)
    (aims : operation.aim row = some target)
    (courier : ∀ other, operation.courier row other = row.courier other)
    (saves : operation.savesFirst) :
    Prepared.Drafts actor row operation
      (saveAndTransition ((OrderDocument.ofRow row).editAssignment leg
        change) target actor note) := by
  apply Drafted.plain
  · cases leg <;> rfl
  · rfl
  · cases leg <;> rfl
  · exact aims
  · intro other
    rw [courier]
    exact courier_editAssignment same
  · cases leg <;> rfl
  · exact saves
  · exact nofun

theorem courier_of_activeLeg {order : OnlineOrder} {courierUid : Uid}
    (active : activeLeg order courierUid = some leg) :
    order.courier leg = some courierUid := by
  have owned : ∀ other : CourierLeg, ((order.assignment other).any fun assignment =>
        decide (assignment.assignedStaffUid = some courierUid) &&
          assignment.completedAt.isNone) = true →
        order.courier other = some courierUid := by
    intro other owns
    rw [OnlineOrder.courier]
    rcases found : order.assignment other with _ | assignment
    · rw [found] at owns
      cases owns
    · rw [found, Option.any_some, Bool.and_eq_true, decide_eq_true_eq] at owns
      exact owns.1
  simp only [activeLeg] at active
  split at active
  · cases active
    exact owned _ (by assumption)
  · split at active
    · cases active
      exact owned _ (by assumption)
    · cases active

theorem updateCourierLocation_drafts
    {input : UpdateCourierLocationInput} :
    Yields (updateCourierLocation environment actor input row)
      (Prepared.Drafts actor row (.updateCourierLocation input)) := by
  rw [updateCourierLocation]
  split
  · exact Yields.error
  · rename_i leg active
    have assigned := courier_of_activeLeg active
    split
    · exact Yields.ok trivial
    · apply Yields.ok
      have courier : ∀ other : CourierLeg,
          (((OrderDocument.ofRow row).editAssignment leg
            (LegAssignment.moveTo input)).markModified
              leg.path).order.courier other = row.courier other :=
        fun other => courier_editAssignment fun _ => rfl
      refine ⟨?_, rfl, ?_, courier, ?_, ?_⟩
      · cases leg <;> rfl
      · cases leg <;> simp [CourierLeg.path]
      · intro other marked
        have same : other = leg := by
          cases leg <;> cases other <;> simp_all [CourierLeg.path]
        rw [same, assigned]
        exact Option.some_ne_none _
      · cases leg <;> rfl

theorem recordPickupWeight_drafts {input : RecordPickupWeightInput} :
    Yields (recordPickupWeight clock actor input row)
      (Prepared.Drafts actor row (.recordPickupWeight input)) := by
  apply Yields.bind
  intro _ _
  apply Yields.pure
  have nonneg := finalizePricing_due_nonneg input.measured (.ofRow row)
  have terms := finalizePricing_terms input.measured (.ofRow row)
  rcases applyHandoverProof_eq clock .pickup input.proofObjectKeys
      actor._id (finalizePricing input.measured (.ofRow row)) with
    ⟨_, _, _, same, _⟩
  rw [same]
  refine ⟨rfl, rfl, ⟨⟨rfl, rfl, rfl, rfl, rfl⟩, ?_, nonneg⟩, rfl,
    fun leg => by cases leg <;> rfl, .inl terms, nofun, nofun⟩
  constructor
  · exact fun _ => rfl
  · exact fun _ => rfl
  · rfl
  · intro clean
    simp [finalizePricing] at clean
  · exact fun _ => rfl

theorem receiveAtCounter_drafts {input : RecordCollectionInput} :
    Yields (receiveAtCounter environment clock actor input row)
      (Prepared.Drafts actor row (.receiveAtCounter input)) := by
  apply Yields.checked
  apply Yields.bind
  intro timing _
  apply Yields.pure
  have nonneg := finalizePricing_due_nonneg input.measured (.ofRow row)
  have terms := finalizePricing_terms input.measured (.ofRow row)
  rcases applyHandoverProof_eq clock .pickup input.proofObjectKeys
      actor._id (finalizePricing input.measured (.ofRow row)) with
    ⟨_, _, _, same, _⟩
  rw [same]
  refine ⟨rfl, rfl, ⟨⟨rfl, rfl, rfl, rfl, rfl⟩, ?_, nonneg⟩, rfl,
    fun leg => by cases leg <;> rfl, .inl terms, nofun, nofun⟩
  constructor
  · exact fun _ => rfl
  · exact fun _ => rfl
  · rfl
  · intro clean
    simp [OrderDocument.setPaymentTiming, finalizePricing] at clean
  · exact fun _ => rfl

theorem recordPickupPayment_drafts {input : PaymentCollectionFields} :
    Yields (recordPickupPayment clock actor input row)
      (Prepared.Drafts actor row (.recordPickupPayment input)) := by
  apply Yields.bind
  intro _ _
  apply Yields.bind
  intro timing _
  apply Yields.pure
  exact ⟨rfl, rfl, rfl, rfl,
    fun leg => courier_completeLeg .pickup leg clock (.ofRow row),
    .inl rfl, nofun, nofun⟩

theorem handOver_drafts {document : OrderDocument} {objectKeys : List String}
    {input : PaymentCollectionFields} {handedOver : OrderStatus}
    (identified : document.order._id = row._id)
    (inserted : document.isNew = false)
    (standing : document.order.standing = row.standing)
    (aims : operation.aim row = some handedOver)
    (courier : ∀ leg, document.order.courier leg = operation.courier row leg)
    (terms : document.order.terms = row.terms) :
    Drafted actor row operation
      (.handOver actor input row.outstandingCentavos handedOver)
      ((applyHandoverProof clock leg objectKeys actor._id document).stampCompleted clock) := by
  rcases applyHandoverProof_eq clock leg objectKeys actor._id document with ⟨_, _, _, same, _⟩
  rw [same]
  refine ⟨identified, inserted, ⟨standing, rfl⟩, aims, ?_, .inl terms, nofun, nofun⟩
  intro other
  rw [← courier]
  cases other <;> rfl

/-- An answer to a quality hold leaves the price alone or raises it. -/
theorem respondToQualityHold_drafts {approve : Bool} :
    Yields (respondToQualityHold clock actor approve row)
      (Prepared.Drafts actor row (.respondToQualityHold approve)) := by
  apply Yields.checked
  apply Yields.bind
  intro hold _
  apply Yields.pure
  have priced := resolveHold_standing clock hold approve row
  have terms := resolveHold_terms clock hold approve row
  have courier : ∀ leg, (row.resolveHold clock hold approve).courier leg =
      row.courier leg := by
    intro leg
    rw [OnlineOrder.resolveHold]
    split
    · split <;> cases leg <;> rfl
    · cases leg <;> rfl
  have identified : (row.resolveHold clock hold approve)._id = row._id := by
    rw [OnlineOrder.resolveHold]
    split
    · split <;> rfl
    · rfl
  have quoted : Quoted (row.resolveHold clock hold approve).standing
      row.standing := by
    rcases priced with same | ⟨quoted, _⟩
    · exact .of_eq same
    · exact quoted
  refine ⟨identified, rfl, ⟨quoted, ?_, ?_⟩, rfl, courier, .inl terms,
    fun _ => rfl, by rintro _ ⟨⟩⟩
  · constructor
    · exact fun _ => quoted.status
    · exact fun _ => quoted.version
    · exact quoted.pickupMode
    · intro clean
      simp at clean
    · exact fun _ => quoted.collected
  · rcases priced with same | ⟨_, dearer⟩
    · exact .inl same
    · exact .inr ⟨rfl, dearer⟩

theorem follows_of_mem {first second : OrderStatus}
    (member : (first, second) ∈ followUps) :
    ∀ other, some second = some other → (first, other) ∈ followUps := by
  rintro _ ⟨⟩
  exact member

/-- What every method hands over. -/
theorem Operation.drafts (operation : Operation) :
    Yields (operation.prepare environment clock actor database row)
      (Prepared.Drafts actor row operation) := by
  cases operation with
  | acceptOrder =>
    apply Yields.checked
    apply Yields.bind
    intro _ _
    apply Yields.after
    exact ⟨rfl, rfl, ⟨rfl, rfl, rfl⟩, rfl, fun _ => rfl, .inl rfl, nofun, nofun⟩
  | rejectOrder | cancelOrder =>
    apply Yields.after
    exact .plain rfl rfl rfl rfl (fun leg => by cases leg <;> rfl) rfl rfl nofun
  | proposeOrderChange reason revised =>
    apply Yields.after
    cases revised with
    | none =>
      exact .plain rfl rfl rfl rfl (fun _ => rfl) rfl rfl nofun
    | some revised =>
      exact ⟨rfl, rfl, ⟨.of_eq rfl, .of_eq rfl, .inl rfl⟩, rfl,
        fun leg => by cases leg <;> rfl, .inr ⟨trivial, by simp, rfl⟩,
        fun _ => rfl, nofun⟩
  | respondToProviderChange approve =>
    apply Yields.after
    exact ⟨rfl, rfl, rfl, rfl, fun _ => rfl, .inl rfl, nofun, nofun⟩
  | assignPickupStaff staffUid =>
    apply Yields.checked
    split
    · exact Yields.pure trivial
    · apply Yields.pure
      exact .plain rfl rfl rfl rfl (fun leg => by cases leg <;> rfl) rfl rfl nofun
  | updateCourierLocation input => exact updateCourierLocation_drafts
  | startPickupRoute | arriveAtPickup | startReturnRoute | arriveAtReturn =>
    apply Yields.bind
    intro _ _
    apply Yields.pure
    exact .escorted_edit (fun _ => rfl) rfl (fun _ => rfl) rfl
  | recordPickupWeight input => exact recordPickupWeight_drafts
  | recordPickupPayment input => exact recordPickupPayment_drafts
  | recordFailedPickupAttempt | recordFailedDeliveryAttempt =>
    apply Yields.bind
    intro _ _
    apply Yields.pure
    exact .plain rfl rfl rfl rfl (fun leg => by cases leg <;> rfl) rfl rfl nofun
  | retryPickupSameDay =>
    apply Yields.after
    exact .plain rfl rfl rfl rfl (fun _ => rfl) rfl rfl nofun
  | escalateToReschedule | cancelAfterFailedPickup =>
    apply Yields.after
    exact .plain rfl rfl rfl rfl (fun _ => rfl) rfl rfl nofun
  | reschedulePickup =>
    apply Yields.after
    exact .plain rfl rfl rfl rfl (fun leg => by cases leg <;> rfl) rfl rfl nofun
  | receiveAtCounter input => exact receiveAtCounter_drafts
  | markLaundryReady =>
    apply Yields.after
    have member : (.laundryReady, returnTarget row.fulfillment.returnMode) ∈ followUps := by
      cases row.fulfillment.returnMode <;> simp [returnTarget, followUps]
    exact .plain rfl rfl rfl rfl (fun _ => rfl) rfl rfl (follows_of_mem member)
  | raiseQualityHold input =>
    apply Yields.checked
    apply Yields.after
    split
    · exact .plain rfl rfl rfl rfl (fun leg => by cases leg <;> rfl) rfl rfl nofun
    · refine ⟨rfl, rfl, by simp, fun leg => by cases leg <;> rfl, ?_, rfl⟩
      intro leg marked
      cases leg <;> simp [CourierLeg.path] at marked
  | respondToQualityHold approve => exact respondToQualityHold_drafts
  | autoResolveExpiredQualityHold =>
    simp only [prepare, Orders.autoResolveExpiredQualityHold]
    split
    · exact Yields.ok trivial
    · split
      · exact Yields.ok trivial
      · apply Yields.ok
        exact .plain rfl rfl rfl rfl (fun leg => by cases leg <;> rfl) rfl rfl nofun
  | chooseReturnOption returnMode =>
    apply Yields.after
    cases returnMode with
    | providerDelivery | customerSelfPickup =>
      exact .plain rfl rfl rfl rfl (fun leg => by cases leg <;> rfl) rfl rfl nofun
  | assignReturnStaff staffUid =>
    apply Yields.checked
    split
    · exact Yields.pure trivial
    · apply Yields.pure
      exact .plain rfl rfl rfl rfl (fun leg => by cases leg <;> rfl) rfl rfl nofun
  | recordDelivery input =>
    apply Yields.bind
    intro _ _
    apply Yields.after
    exact handOver_drafts rfl rfl rfl rfl
      (fun leg => courier_completeLeg .return leg clock (.ofRow row)) rfl
  | confirmReturnedToProvider =>
    apply Yields.after
    exact .plain rfl rfl rfl rfl (fun _ => rfl) rfl rfl (follows_of_mem (by simp [followUps]))
  | scheduleRedelivery =>
    apply Yields.after
    exact .plain rfl rfl rfl rfl (fun leg => by cases leg <;> rfl) rfl rfl
      (follows_of_mem (by simp [followUps]))
  | verifySelfPickup input =>
    apply Yields.checked
    apply Yields.after
    exact handOver_drafts rfl rfl rfl rfl (fun _ => rfl) rfl
  | overrideStatus target note =>
    simp only [prepare, Orders.overrideStatus]
    split
    · exact Yields.error
    · split
      · apply Yields.ok
        exact .plain rfl rfl rfl rfl (fun _ => rfl) rfl rfl nofun
      · split
        · exact Yields.error
        · exact Yields.error
  | abandonUnsettledOrder =>
    simp only [prepare, Orders.abandonUnsettledOrder]
    split
    · exact Yields.ok trivial
    · apply Yields.ok
      exact ⟨rfl, rfl, ⟨rfl, rfl⟩, rfl, fun _ => rfl, .inl rfl, nofun, nofun⟩
  | reinstateAbandonedOrder note =>
    simp only [prepare, Orders.reinstateAbandonedOrder]
    split
    · exact Yields.error
    · apply Yields.ok
      exact .plain rfl rfl rfl rfl (fun _ => rfl) rfl rfl nofun

end

/-- What `createOrder` hands to its transaction. -/
structure Booked (orderId : ObjectId) (callback : Callback) (document : OrderDocument) : Prop where
  creates : ∃ customerUid book promo, callback = .create customerUid book promo
  orders : ∃ customer input provider serviceLines estimate code discount,
    document = .draft (newOrder orderId customer input provider
      serviceLines estimate code discount) ∧
    estimate.serviceSubtotalCentavos =
      (serviceLines.map ServiceLineSnapshot.estimatedLineTotalCentavos).sum

variable {orderId : ObjectId}

/-- What `createOrder` has worked out when it gets to its transaction. -/
theorem createOrder_yields {market : Market} {clock : Clock} {customer : User}
    {input : CreateOrderInput} {database : Database} :
    Yields (createOrder market clock customer input orderId database)
      (fun drafted => ∃ provider serviceLines estimate discount date,
        estimate.serviceSubtotalCentavos =
          (serviceLines.map ServiceLineSnapshot.estimatedLineTotalCentavos).sum ∧
        estimate.commission = market.commission input.providerType ∧
        input.serviceLines.mapM
          (buildServiceLineSnapshot market input.providerType
            input.branchId provider.washer) = .ok serviceLines ∧
        requestedDiscount market clock customer input
          estimate.preDiscountTotalCentavos database = .ok discount ∧
        requirePickupDate input = .ok date ∧
        drafted =
          (.create customer._id
            (market.assertDayBookable input.branchId input.providerType
              date (input.pickupMode = .customerDropoff))
            ((requestedCode input).map fun code =>
              { code := market.toUpperCase code
                orderTotalCentavos := estimate.preDiscountTotalCentavos }),
          .draft (newOrder orderId customer input provider serviceLines
            estimate ((requestedCode input).map market.toUpperCase)
            discount))) := by
  apply Yields.bind
  intro address _
  apply Yields.bind
  intro provider _
  apply Yields.checked
  apply Yields.bind
  intro serviceLines built
  apply Yields.bind
  rintro ⟨pickupFee, returnFee⟩ _
  apply Yields.checked
  apply Yields.bind
  intro turnaround _
  apply Yields.bind
  intro discount priced
  apply Yields.bind
  intro date required
  apply Yields.after
  exact ⟨provider, serviceLines, _, discount, date, rfl, rfl, built, priced, required, rfl⟩

theorem createOrder_books {market : Market} {clock : Clock} {customer : User}
    {input : CreateOrderInput} {database : Database} :
    Yields (createOrder market clock customer input orderId database)
      (fun drafted => Booked orderId drafted.1 drafted.2) := by
  intro drafted ordered
  rcases createOrder_yields _ ordered with ⟨_, _, _, _, _, total, _, _, _, _, rfl⟩
  exact ⟨⟨_, _, _, rfl⟩, _, _, _, _, _, _, _, rfl, total⟩

theorem Booked.identified {callback : Callback} {document : OrderDocument}
    (booked : Booked orderId callback document) :
    document.order._id = orderId := by
  rcases booked.orders with ⟨_, _, _, _, _, _, _, rfl, _⟩
  rfl

end Lalaba.Orders
