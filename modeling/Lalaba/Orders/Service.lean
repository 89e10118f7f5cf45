import Lalaba.Orders.Callbacks

/-!
# The methods of the order service

Every method reads the order, checks its guards, edits the document in memory,
and hands a callback to `withTransaction`.  A method is modelled up to that
point: from the row it has read to the callback and the document it starts with.
-/

namespace Lalaba.Orders

open Wallets

/-! ## What a method comes to -/

/-- What a method does once its checks have passed. -/
inductive Prepared where
  | transaction (callback : Callback) (document : OrderDocument)
  | saveOnly (document : OrderDocument)
  | refuse (note : String)
  | unchanged

/-- A method that is given the row `findOrderOrThrow` has read. -/
abbrev Preparation : Type := Except ServiceError Prepared

def CourierLeg.path : CourierLeg → Path
  | .pickup => .pickupAssignment
  | .return => .returnAssignment

namespace OrderDocument

/-- What every `saveAndTransition` does to the document first. -/
def markAssignments (document : OrderDocument) : OrderDocument :=
  (document.markModified .pickupAssignment).markModified .returnAssignment

def editAssignment (leg : CourierLeg)
    (change : LegAssignment → LegAssignment) (document : OrderDocument) :
    OrderDocument :=
  document.mutate fun order =>
    match leg with
    | .pickup =>
      { order with pickupAssignment := order.pickupAssignment.map change }
    | .return =>
      { order with returnAssignment := order.returnAssignment.map change }

def assignLeg (leg : CourierLeg) (assignment : Option LegAssignment)
    (document : OrderDocument) : OrderDocument :=
  match leg with
  | .pickup =>
    document.assign .pickupAssignment fun order =>
      { order with pickupAssignment := assignment }
  | .return =>
    document.assign .returnAssignment fun order =>
      { order with returnAssignment := assignment }

@[simp]
theorem modified_markAssignments (document : OrderDocument) :
    document.markAssignments.modified =
      insert .returnAssignment (insert .pickupAssignment document.modified) :=
  rfl

@[simp]
theorem modified_editAssignment (leg : CourierLeg)
    (change : LegAssignment → LegAssignment) (document : OrderDocument) :
    (document.editAssignment leg change).modified = document.modified :=
  rfl

@[simp]
theorem modified_assignLeg (leg : CourierLeg)
    (assignment : Option LegAssignment) (document : OrderDocument) :
    (document.assignLeg leg assignment).modified = insert leg.path document.modified := by
  cases leg <;> rfl

end OrderDocument

def saveAndTransition (document : OrderDocument) (target : OrderStatus)
    (actor : User) (note : Option String := none)
    (followUp : Option OrderStatus := none) : Prepared :=
  .transaction
    (.saveThenTransition target actor._id (roleIdOf actor) note followUp)
    document.markAssignments

def acceptOrder (environment : Environment) (actor : User)
    (database : Database) (order : OnlineOrder) : Preparation := do
  assertBranchOwnership environment order.provider.branchId actor
  let washer ← assertProviderAccepting environment database order
  database.wallets.assertCanAcceptOrder order.provider.branchId
    (order.pricing.platformFeeCentavos.getD 0)
  return .transaction (.accept actor order.status order.version washer) (.ofRow order)

def rejectOrder (environment : Environment) (actor : User)
    (reason : String) (order : OnlineOrder) : Preparation := do
  assertBranchOwnership environment order.provider.branchId actor
  return .transaction
    (.saveThenTransition .rejectedByProvider actor._id (roleIdOf actor) (some reason) none)
    ((OrderDocument.ofRow order).assign .rejectionReason fun order =>
      { order with rejectionReason := some reason })

/-- `proposeOrderChange`; the revised total is not marked. -/
def proposeOrderChange (environment : Environment) (actor : User)
    (reason : String) (revisedEstimatedTotalCentavos : Option ℚ≥0)
    (order : OnlineOrder) : Preparation := do
  assertBranchOwnership environment order.provider.branchId actor
  let document := OrderDocument.ofRow order
  return .transaction
    (.saveThenTransition .providerChangeProposed actor._id (roleIdOf actor) (some reason) none)
    (match revisedEstimatedTotalCentavos with
    | none => document
    | some revised =>
      document.mutate fun order =>
        { order with
          pricing := { order.pricing with estimatedTotalCentavos := revised } })

def respondToProviderChange (customer : User) (approve : Bool)
    (order : OnlineOrder) : Preparation := do
  assertOwnOrder order customer
  return .transaction (.respond customer._id approve) (.ofRow order)

def assertParty (environment : Environment) (order : OnlineOrder)
    (actor : User) : Except ServiceError Unit :=
  if order.customer.uid = actor._id then
    .ok ()
  else
    assertBranchOwnership environment order.provider.branchId actor

/-- `cancelOrder`: by the customer, or by whoever manages the branch. -/
def cancelOrder (environment : Environment) (actor : User)
    (reason : String) (order : OnlineOrder) : Preparation := do
  assertParty environment order actor
  return .transaction
    (.saveThenTransition .cancelled actor._id (roleIdOf actor) (some reason) none)
    ((OrderDocument.ofRow order).assign .cancellationReason fun order =>
      { order with cancellationReason := some reason })

/-! ## Couriers -/

def courierAudit (reason : String) (staffUid : Uid) : String :=
  "Courier assignment rejected — " ++ reason ++ " (staffUid=" ++ staffUid ++ ")"

def assignPickupStaff (environment : Environment) (clock : Clock)
    (actor : User) (staffUid : Uid) (order : OnlineOrder) :
    Preparation := do
  assertBranchOwnership environment order.provider.branchId actor
  match courierRejection environment order staffUid with
  | some reason => return .refuse (courierAudit reason staffUid)
  | none =>
    return .transaction
      (.saveThenTransition .pickupAssigned actor._id (roleIdOf actor) none none)
      ((OrderDocument.ofRow order).assignLeg .pickup (some
          { assignedStaffUid := some staffUid
            assignedAt := some clock.now }))

def assignReturnStaff (environment : Environment) (clock : Clock)
    (actor : User) (staffUid : Uid) (order : OnlineOrder) :
    Preparation := do
  assertBranchOwnership environment order.provider.branchId actor
  match courierRejection environment order staffUid with
  | some reason => return .refuse (courierAudit reason staffUid)
  | none =>
    return saveAndTransition
      ((OrderDocument.ofRow order).assignLeg .return (some
          { assignedStaffUid := some staffUid
            assignedAt := some clock.now }))
      .returnAssigned actor

/-- A position fix from a courier's device. -/
structure UpdateCourierLocationInput where
  latitude : ℚ
  longitude : ℚ
  accuracy : Option ℚ
  speed : Option ℚ
  heading : Option ℚ
  recordedAt : Instant
  sequence : ℕ
deriving DecidableEq

def MAX_ACCURACY_M : ℚ := 80

def MAX_SPEED_MPS : ℚ := 45

def activeLeg (order : OnlineOrder) (courierUid : Uid) :
    Option CourierLeg :=
  let owns (leg : CourierLeg) : Bool :=
    (order.assignment leg).any fun assignment =>
      decide (assignment.assignedStaffUid = some courierUid) && assignment.completedAt.isNone
  if owns .pickup then some .pickup
  else if owns .return then some .return
  else none

/-- Is a fix out of order, inaccurate, or too far from the last one? -/
def rejectsFix (environment : Environment)
    (input : UpdateCourierLocationInput) (assignment : LegAssignment) :
    Bool :=
  assignment.locationSequence.any
      (fun last => decide ((input.sequence : ℤ) ≤ last)) ||
    assignment.locationAt.any (fun last => decide (input.recordedAt ≤ last)) ||
    input.accuracy.any (fun accuracy => decide (MAX_ACCURACY_M < accuracy)) ||
    match assignment.locationLat, assignment.locationLng, assignment.locationAt with
    | some latitude, some longitude, some last =>
      let meters := environment.distanceMeters latitude longitude input.latitude input.longitude
      let seconds : ℚ := max (((input.recordedAt : ℚ) - last) / 1000) (1 / 1000)
      decide (MAX_SPEED_MPS < meters / seconds)
    | _, _, _ => false

def LegAssignment.moveTo (input : UpdateCourierLocationInput)
    (assignment : LegAssignment) : LegAssignment :=
  { assignment with
    locationLat := some input.latitude
    locationLng := some input.longitude
    locationAt := some input.recordedAt
    locationAccuracy := input.accuracy
    locationSpeed := input.speed
    locationHeading := input.heading
    locationSequence := some input.sequence }

/-- `updateCourierLocation`; a bad fix is dropped without a word. -/
def updateCourierLocation (environment : Environment) (courier : User)
    (input : UpdateCourierLocationInput) (order : OnlineOrder) :
    Preparation :=
  match activeLeg order courier._id with
  | none => .error (.forbidden "No active leg assigned to you")
  | some leg =>
    if (order.assignment leg).any (rejectsFix environment input) then
      .ok .unchanged
    else
      .ok (.saveOnly (((OrderDocument.ofRow order).editAssignment leg
          (LegAssignment.moveTo input)).markModified leg.path))

/-! ## The pickup leg -/

/-- `startPickupRoute` and `startReturnRoute`. -/
def startRoute (leg : CourierLeg) (target : OrderStatus) (clock : Clock)
    (courier : User) (order : OnlineOrder) : Preparation := do
  assertAssignedCourier order leg courier._id
  return saveAndTransition ((OrderDocument.ofRow order).editAssignment leg fun assignment =>
      { assignment with enRouteAt := some clock.now })
    target courier

def startPickupRoute (clock : Clock) (courier : User)
    (order : OnlineOrder) : Preparation :=
  startRoute .pickup .pickupEnRoute clock courier order

/-- `arriveAtPickup` and `arriveAtReturn`. -/
def arrive (leg : CourierLeg) (target : OrderStatus) (clock : Clock)
    (courier : User) (order : OnlineOrder) : Preparation := do
  assertAssignedCourier order leg courier._id
  return saveAndTransition ((OrderDocument.ofRow order).editAssignment leg fun assignment =>
      { assignment with arrivedAt := some clock.now })
    target courier

def arriveAtPickup (clock : Clock) (courier : User)
    (order : OnlineOrder) : Preparation :=
  arrive .pickup .pickupArrived clock courier order

structure RecordPickupWeightInput where
  measured : Measurement
  proofObjectKeys : List String := []
deriving DecidableEq

def recordPickupWeight (clock : Clock) (courier : User)
    (input : RecordPickupWeightInput) (order : OnlineOrder) :
    Preparation := do
  assertAssignedCourier order .pickup courier._id
  return .transaction (.recordWeight courier)
    (applyHandoverProof clock .pickup input.proofObjectKeys courier._id
      (finalizePricing input.measured (.ofRow order)))

def OrderDocument.completeLeg (leg : CourierLeg) (clock : Clock)
    (document : OrderDocument) : OrderDocument :=
  (document.editAssignment leg fun assignment =>
    { assignment with completedAt := some clock.now }).markModified leg.path

def OrderDocument.setPaymentTiming (timing : PaymentTiming)
    (document : OrderDocument) : OrderDocument :=
  document.assign .paymentTiming fun order =>
    { order with paymentTiming := timing }

def recordPickupPayment (clock : Clock) (courier : User)
    (input : PaymentCollectionFields) (order : OnlineOrder) :
    Preparation := do
  assertAssignedCourier order .pickup courier._id
  let timing ← resolvePickupPaymentTiming order input
  return .transaction
    (.recordPayment courier input (timing = .onPickup))
    (((OrderDocument.ofRow order).completeLeg .pickup clock).setPaymentTiming timing)

/-! ## Failed handovers -/

structure RecordAttemptInput where
  gpsLat : Option ℚ := none
  gpsLng : Option ℚ := none
  photoUrls : Option (List String) := none
  responsibility : AttemptResponsibility
  reason : String
deriving DecidableEq

def attemptEvidence (clock : Clock) (courier : User)
    (input : RecordAttemptInput) (earlier : List AttemptEvidence) :
    AttemptEvidence where
  attemptNumber := earlier.length + 1
  actorUid := courier._id
  timestamp := clock.now
  gpsLat := input.gpsLat
  gpsLng := input.gpsLng
  photoUrls := input.photoUrls
  responsibility := input.responsibility
  reason := some input.reason

def recordFailedPickupAttempt (clock : Clock) (courier : User)
    (input : RecordAttemptInput) (order : OnlineOrder) :
    Preparation := do
  assertAssignedCourier order .pickup courier._id
  return saveAndTransition
    ((OrderDocument.ofRow order).pushPickupAttempt
      (attemptEvidence clock courier input order.pickupAttempts))
    .pickupAttemptFailed courier (some input.reason)

/-- `retryPickupSameDay`; the courier of the failed attempt stays. -/
def retryPickupSameDay (environment : Environment) (actor : User)
    (order : OnlineOrder) : Preparation := do
  assertBranchOwnership environment order.provider.branchId actor
  return saveAndTransition (.ofRow order) .pickupAssigned actor

def escalateToReschedule (environment : Environment) (actor : User)
    (order : OnlineOrder) : Preparation := do
  assertBranchOwnership environment order.provider.branchId actor
  return saveAndTransition (.ofRow order) .awaitingPickupReschedule actor

/-- `reschedulePickup`; the courier is taken off the leg. -/
def reschedulePickup (actor : User) (order : OnlineOrder) :
    Preparation := do
  assertOwnOrder order actor
  return saveAndTransition
    ((OrderDocument.ofRow order).assignLeg .pickup none)
    .pickupAssigned actor

def cancelAfterFailedPickup (actor : User) (order : OnlineOrder) :
    Preparation := do
  assertOwnOrder order actor
  return saveAndTransition (.ofRow order) .cancelled actor (some "No refund — nothing collected")

/-- `RecordCollectionInput`; a call without input passes the empty one. -/
structure RecordCollectionInput extends PaymentCollectionFields where
  measured : Measurement := {}
  proofObjectKeys : List String := []
deriving DecidableEq

def receiveAtCounter (environment : Environment) (clock : Clock)
    (actor : User) (input : RecordCollectionInput)
    (order : OnlineOrder) : Preparation := do
  assertBranchOwnership environment order.provider.branchId actor
  let document :=
    applyHandoverProof clock .pickup input.proofObjectKeys actor._id
      (finalizePricing input.measured (.ofRow order))
  let timing ← resolvePickupPaymentTiming order input.toPaymentCollectionFields
  return .transaction
    (.receive actor input.toPaymentCollectionFields (timing = .onPickup))
    (document.setPaymentTiming timing)

/-! ## Processing and quality holds -/

def returnTarget (returnMode : FulfillmentReturnMode) : OrderStatus :=
  match returnMode with
  | .customerSelfPickup => .awaitingCustomerPickup
  | .providerDelivery => .awaitingReturnAssignment

def markLaundryReady (environment : Environment) (actor : User)
    (order : OnlineOrder) : Preparation := do
  assertBranchOwnership environment order.provider.branchId actor
  return saveAndTransition (.ofRow order) .laundryReady actor none
    (some (returnTarget order.fulfillment.returnMode))

structure RaiseQualityHoldInput where
  serviceLineIndex : ℕ
  category : Option String := none
  reason : String
  photoUrls : Option (List String) := none
  blocksOrder : Bool
  additionalChargeCentavos : Option ℕ := none
deriving DecidableEq

def RESPONSE_WINDOW_MS : ℕ := 24 * 3600 * 1000

/-- A hold as it is raised; a documentary one is resolved at once. -/
def raisedHold (clock : Clock) (input : RaiseQualityHoldInput) : QualityHold where
  serviceLineIndex := input.serviceLineIndex
  category := input.category
  reason := input.reason
  photoUrls := input.photoUrls
  blocksOrder := input.blocksOrder
  additionalChargeCentavos := input.additionalChargeCentavos
  customerResponse := .pending
  raisedAt := clock.now
  respondTimeoutAt :=
    if input.blocksOrder then some (clock.now + RESPONSE_WINDOW_MS)
    else none
  resolvedAt := if input.blocksOrder then none else some clock.now

def assertHoldable (input : RaiseQualityHoldInput) (order : OnlineOrder) :
    Except ServiceError Unit :=
  if order.serviceLines.length ≤ input.serviceLineIndex then
    .error (.badRequest "That service is not on this order")
  else if order.activeQualityHold.any fun hold =>
      hold.resolvedAt.isNone then
    .error (.badRequest "This order already has a quality hold waiting to be resolved")
  else
    .ok ()

/-- `raiseQualityHold`; only a blocking hold moves the order. -/
def raiseQualityHold (environment : Environment) (clock : Clock)
    (actor : User) (input : RaiseQualityHoldInput)
    (order : OnlineOrder) : Preparation := do
  assertBranchOwnership environment order.provider.branchId actor
  assertHoldable input order
  let document :=
    (OrderDocument.ofRow order).assign .activeQualityHold fun order =>
      { order with activeQualityHold := some (raisedHold clock input) }
  return if input.blocksOrder then
    saveAndTransition document .laundryQualityHold actor (some input.reason)
  else
    .saveOnly document

/-- The surcharge of an approved hold, with the fee on it. -/
def OrderPricing.surcharge (chargeCentavos : ℕ)
    (pricing : OrderPricing) : OrderPricing :=
  let surchargeCentavos := roundCentavos chargeCentavos
  let surchargeFeeCentavos :=
    calculatePlatformFee surchargeCentavos (pricing.platformFeePercent.getD 0)
  { pricing with
    actualServiceTotalCentavos :=
      some (pricing.actualServiceTotalCentavos.getD 0 + surchargeCentavos)
    platformFeeCentavos := some (pricing.platformFeeCentavos.getD 0 + surchargeFeeCentavos)
    platformFeeSurchargeCentavos :=
      some (pricing.platformFeeSurchargeCentavos.getD 0 + surchargeFeeCentavos)
    customerTotalCentavos :=
      some (pricing.customerTotalCentavos.getD 0 + surchargeCentavos + surchargeFeeCentavos) }

def OnlineOrder.applySurcharge (lineIndex : ℕ)
    (line : ServiceLineSnapshot) (chargeCentavos : ℕ)
    (order : OnlineOrder) : OnlineOrder :=
  { order with
    serviceLines :=
      order.serviceLines.set lineIndex { line with
          actualLineTotalCentavos :=
            some (line.actualLineTotalCentavos.getD 0 + roundCentavos chargeCentavos) }
    pricing := order.pricing.surcharge chargeCentavos }

/-- What an answered hold does to the order in memory. -/
def OnlineOrder.resolveHold (clock : Clock) (hold : QualityHold)
    (approve : Bool) (order : OnlineOrder) : OnlineOrder :=
  let answered :=
    { order with
      activeQualityHold :=
        some { hold with
            customerResponse := if approve then .approved else .declined
            resolvedAt := some clock.now } }
  match hold.additionalChargeCentavos, order.serviceLines[hold.serviceLineIndex]? with
  | some charge, some line =>
    if approve ∧ charge ≠ 0 then
      answered.applySurcharge hold.serviceLineIndex line charge
    else
      answered
  | _, _ => answered

/-- The hold a customer may still answer. -/
def answerableHold (clock : Clock) (order : OnlineOrder) :
    Except ServiceError QualityHold :=
  match order.activeQualityHold with
  | none => .error (.badRequest "No active quality hold on this order")
  | some hold =>
    if hold.resolvedAt.isSome then
      .error (.badRequest "This quality hold has already been resolved")
    else if hold.respondTimeoutAt.any fun limit =>
        decide (limit < clock.now) then
      .error (.badRequest ("The response window for this quality hold " ++
        "has expired — the order proceeds without the extra treatment"))
    else
      .ok hold

def respondToQualityHold (clock : Clock) (customer : User)
    (approve : Bool) (order : OnlineOrder) : Preparation := do
  assertOwnOrder order customer
  let hold ← answerableHold clock order
  return saveAndTransition
    (((((OrderDocument.ofRow order).mutate
      (OnlineOrder.resolveHold clock hold approve)).markModified
        .activeQualityHold).markModified .serviceLines).markModified .pricing)
    .laundryInProgress customer

/-- `autoResolveExpiredQualityHold`, which the scheduler calls. -/
def autoResolveExpiredQualityHold (clock : Clock) (order : OnlineOrder) :
    Preparation :=
  match order.activeQualityHold with
  | none => .ok .unchanged
  | some hold =>
    if order.status ≠ .laundryQualityHold ∨ hold.resolvedAt.isSome ∨
        hold.respondTimeoutAt.all (fun limit =>
          decide (clock.now < limit)) then
      .ok .unchanged
    else
      .ok (.transaction
        (.saveThenTransition .laundryInProgress "system" "system"
          (some ("Auto-resolved: response window expired, " ++
            "proceeding without extra charge")) none)
        (((OrderDocument.ofRow order).mutate fun order =>
          { order with
            activeQualityHold :=
              some { hold with
                  customerResponse := .declined
                  resolvedAt := some clock.now } }).markModified .activeQualityHold))

/-! ## Returning the laundry -/

/-- `chooseReturnOption`; the chosen mode is not marked. -/
def chooseReturnOption (customer : User)
    (returnMode : FulfillmentReturnMode) (order : OnlineOrder) :
    Preparation := do
  assertOwnOrder order customer
  return saveAndTransition ((OrderDocument.ofRow order).mutate fun order =>
      { order with
        fulfillment := { order.fulfillment with returnMode } })
    (returnTarget returnMode) customer

def startReturnRoute (clock : Clock) (courier : User)
    (order : OnlineOrder) : Preparation :=
  startRoute .return .returnEnRoute clock courier order

def arriveAtReturn (clock : Clock) (courier : User)
    (order : OnlineOrder) : Preparation :=
  arrive .return .returnArrived clock courier order

def assertSettling (order : OnlineOrder) (input : RecordCollectionInput) :
    Except ServiceError Unit :=
  if 0 < order.outstandingCentavos ∧ input.paymentMethod = none then
    .error (.badRequest ("Payment must be collected before handover — " ++ "provide paymentMethod"))
  else
    .ok ()

def OrderDocument.stampCompleted (clock : Clock)
    (document : OrderDocument) : OrderDocument :=
  document.assign .completedAt fun order =>
    { order with completedAt := some clock.now }

def recordDelivery (clock : Clock) (courier : User)
    (input : RecordCollectionInput) (order : OnlineOrder) :
    Preparation := do
  assertAssignedCourier order .return courier._id
  assertSettling order input
  return .transaction
    (.handOver courier input.toPaymentCollectionFields
      order.outstandingCentavos .deliveredToCustomer)
    ((applyHandoverProof clock .return input.proofObjectKeys courier._id
      ((OrderDocument.ofRow order).completeLeg .return clock)).stampCompleted clock)

def recordFailedDeliveryAttempt (clock : Clock) (courier : User)
    (input : RecordAttemptInput) (order : OnlineOrder) :
    Preparation := do
  assertAssignedCourier order .return courier._id
  return saveAndTransition
    ((OrderDocument.ofRow order).pushDeliveryAttempt
      (attemptEvidence clock courier input order.deliveryAttempts))
    .deliveryAttempted courier (some input.reason)

def confirmReturnedToProvider (environment : Environment) (actor : User)
    (order : OnlineOrder) : Preparation := do
  assertBranchOwnership environment order.provider.branchId actor
  return saveAndTransition (.ofRow order) .returnedToProvider actor none
    (some .awaitingRedeliverySelection)

/-- `scheduleRedelivery`; the courier is taken off the leg. -/
def scheduleRedelivery (environment : Environment) (actor : User)
    (order : OnlineOrder) : Preparation := do
  assertParty environment order actor
  return saveAndTransition
    ((OrderDocument.ofRow order).assignLeg .return none)
    .redeliveryScheduled actor none (some .returnAssigned)

def verifySelfPickup (environment : Environment) (clock : Clock)
    (actor : User) (input : RecordCollectionInput)
    (order : OnlineOrder) : Preparation := do
  assertBranchOwnership environment order.provider.branchId actor
  assertSettling order input
  return .transaction
    (.handOver actor input.toPaymentCollectionFields
      order.outstandingCentavos .customerPickupVerified)
    ((applyHandoverProof clock .return input.proofObjectKeys actor._id
      (OrderDocument.ofRow order)).stampCompleted clock)

/-- `overrideStatus`: only along the transition table. -/
def overrideStatus (actor : User) (target : OrderStatus) (note : String)
    (order : OnlineOrder) : Preparation :=
  if order.status = target then
    .error (.badRequest "Order is already in that status")
  else if target ∈ order.status.transitions then
    .ok (saveAndTransition (.ofRow order) target actor (some note))
  else if order.status.transitions = [] then
    .error (.badRequest ("This order is in a terminal state (" ++
      order.status.value ++ ") and cannot be moved."))
  else
    .error (.badRequest ("Cannot move from " ++ order.status.value ++
      " to " ++ target.value ++ ". Allowed: " ++
      ", ".intercalate (order.status.transitions.map OrderStatus.value) ++
      "."))

/-- `abandonUnsettledOrder`, as the sweep calls it. -/
def abandonUnsettledOrder (order : OnlineOrder) : Preparation :=
  if order.status = .abandonedUnsettled then
    .ok .unchanged
  else
    .ok (.transaction
      (.abandon order.pricing.consumedCentavos "system" "system"
        "Unsettled past the abandonment window") (.ofRow order))

def reinstateAbandonedOrder (actor : User) (note : Option String)
    (order : OnlineOrder) : Preparation :=
  if order.status ≠ .abandonedUnsettled then
    .error (.badRequest "Order is not abandoned")
  else
    .ok (saveAndTransition (.ofRow order) (match order.fulfillment.returnMode with
      | .customerSelfPickup => .awaitingCustomerPickup
      | .providerDelivery => .awaitingRedeliverySelection)
      actor (some (note.getD "Reinstated by support")))

/-- A call of the service on one order, with its arguments. -/
inductive Operation where
  | acceptOrder
  | rejectOrder (reason : String)
  | proposeOrderChange (reason : String) (revisedEstimatedTotalCentavos : Option ℚ≥0)
  | respondToProviderChange (approve : Bool)
  | cancelOrder (reason : String)
  | assignPickupStaff (staffUid : Uid)
  | updateCourierLocation (input : UpdateCourierLocationInput)
  | startPickupRoute
  | arriveAtPickup
  | recordPickupWeight (input : RecordPickupWeightInput)
  | recordPickupPayment (input : PaymentCollectionFields)
  | recordFailedPickupAttempt (input : RecordAttemptInput)
  | retryPickupSameDay
  | escalateToReschedule
  | reschedulePickup
  | cancelAfterFailedPickup
  | receiveAtCounter (input : RecordCollectionInput)
  | markLaundryReady
  | raiseQualityHold (input : RaiseQualityHoldInput)
  | respondToQualityHold (approve : Bool)
  | autoResolveExpiredQualityHold
  | chooseReturnOption (returnMode : FulfillmentReturnMode)
  | assignReturnStaff (staffUid : Uid)
  | startReturnRoute
  | arriveAtReturn
  | recordDelivery (input : RecordCollectionInput)
  | recordFailedDeliveryAttempt (input : RecordAttemptInput)
  | confirmReturnedToProvider
  | scheduleRedelivery
  | verifySelfPickup (input : RecordCollectionInput)
  | overrideStatus (target : OrderStatus) (note : String)
  | abandonUnsettledOrder
  | reinstateAbandonedOrder (note : Option String)
deriving DecidableEq

/-- Run an operation up to its transaction. -/
def Operation.prepare (environment : Environment) (clock : Clock)
    (actor : User) (database : Database) (order : OnlineOrder) :
    Operation → Preparation
  | .acceptOrder => Orders.acceptOrder environment actor database order
  | .rejectOrder reason =>
    Orders.rejectOrder environment actor reason order
  | .proposeOrderChange reason revised =>
    Orders.proposeOrderChange environment actor reason revised order
  | .respondToProviderChange approve =>
    Orders.respondToProviderChange actor approve order
  | .cancelOrder reason =>
    Orders.cancelOrder environment actor reason order
  | .assignPickupStaff staffUid =>
    Orders.assignPickupStaff environment clock actor staffUid order
  | .updateCourierLocation input =>
    Orders.updateCourierLocation environment actor input order
  | .startPickupRoute => Orders.startPickupRoute clock actor order
  | .arriveAtPickup => Orders.arriveAtPickup clock actor order
  | .recordPickupWeight input =>
    Orders.recordPickupWeight clock actor input order
  | .recordPickupPayment input =>
    Orders.recordPickupPayment clock actor input order
  | .recordFailedPickupAttempt input =>
    Orders.recordFailedPickupAttempt clock actor input order
  | .retryPickupSameDay =>
    Orders.retryPickupSameDay environment actor order
  | .escalateToReschedule =>
    Orders.escalateToReschedule environment actor order
  | .reschedulePickup => Orders.reschedulePickup actor order
  | .cancelAfterFailedPickup => Orders.cancelAfterFailedPickup actor order
  | .receiveAtCounter input =>
    Orders.receiveAtCounter environment clock actor input order
  | .markLaundryReady => Orders.markLaundryReady environment actor order
  | .raiseQualityHold input =>
    Orders.raiseQualityHold environment clock actor input order
  | .respondToQualityHold approve =>
    Orders.respondToQualityHold clock actor approve order
  | .autoResolveExpiredQualityHold =>
    Orders.autoResolveExpiredQualityHold clock order
  | .chooseReturnOption returnMode =>
    Orders.chooseReturnOption actor returnMode order
  | .assignReturnStaff staffUid =>
    Orders.assignReturnStaff environment clock actor staffUid order
  | .startReturnRoute => Orders.startReturnRoute clock actor order
  | .arriveAtReturn => Orders.arriveAtReturn clock actor order
  | .recordDelivery input =>
    Orders.recordDelivery clock actor input order
  | .recordFailedDeliveryAttempt input =>
    Orders.recordFailedDeliveryAttempt clock actor input order
  | .confirmReturnedToProvider =>
    Orders.confirmReturnedToProvider environment actor order
  | .scheduleRedelivery =>
    Orders.scheduleRedelivery environment actor order
  | .verifySelfPickup input =>
    Orders.verifySelfPickup environment clock actor input order
  | .overrideStatus target note =>
    Orders.overrideStatus actor target note order
  | .abandonUnsettledOrder => Orders.abandonUnsettledOrder order
  | .reinstateAbandonedOrder note =>
    Orders.reinstateAbandonedOrder actor note order

end Lalaba.Orders
