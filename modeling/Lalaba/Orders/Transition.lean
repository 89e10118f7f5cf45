import Lalaba.Orders.Database

/-!
# The shared parts of an order transaction

Saving a document, moving an order to its next status, debiting what is
outstanding of the platform fee, and collecting money: the pieces every
transaction callback of the order service is put together from.
-/

namespace Lalaba.Orders

open Foundation
open Foundation.Program
open Promotions
open Wallets

def truthy (text : Option String) : Bool := text.any fun content => content != ""

/-- `order.save({ session })`. -/
def saveDocument : OrderProgram Unit :=
  call fun database document =>
    match document.save (database.orders.lookup document.order._id) with
    | .error error => .error error
    | .ok (row, saved) =>
      .ok ((), database.putOrder document.order._id row, saved)

theorem ensures_saveDocument {before : Database → OrderDocument → Prop}
    {after : Unit → Database → OrderDocument → Prop}
    (holds : ∀ database document row saved, before database document →
      document.save (database.orders.lookup document.order._id) = .ok (row, saved) →
      after () (database.putOrder document.order._id row) saved) :
    Ensures before saveDocument after := by
  apply Ensures.call
  rintro database document value database' document' start ran
  rcases outcome : document.save (database.orders.lookup document.order._id) with
    error | ⟨row, saved⟩
  · simp [outcome] at ran
  · simp only [outcome, Except.ok.injEq, Prod.mk.injEq] at ran
    rcases ran with ⟨_, rfl, rfl⟩
    exact holds database document row saved start outcome

/-! ## Transitions -/

/-- `ABANDONMENT_WINDOW_HOURS`, in milliseconds. -/
def ABANDONMENT_WINDOW_MS : ℕ := 7 * 24 * 60 * 60 * 1000

/-- What a transition sets on the order. -/
structure TransitionPatch where
  status : OrderStatus
  version : ℕ
  promisedCompletionAt : Option Instant
  abandonmentDeadlineAt : Option (Option Instant)

/-- The patch of a transition from the values in memory. -/
def transitionPatch (clock : Clock) (target : OrderStatus)
    (order : OnlineOrder) : TransitionPatch where
  status := target
  version := order.version + 1
  promisedCompletionAt :=
    match order.turnaround.slaHours with
    | none => none
    | some slaHours =>
      if target = .laundryInProgress ∧
          order.turnaround.tierCode = .express ∧ slaHours ≠ 0 ∧
          order.turnaround.promisedCompletionAt = none then
        some (clock.now + slaHours * 60 * 60 * 1000)
      else
        none
  abandonmentDeadlineAt :=
    if target.abandonmentWaiting then
      some (if 0 < order.outstandingCentavos then
        some (clock.now + ABANDONMENT_WINDOW_MS) else none)
    else if order.abandonmentDeadlineAt ≠ none then
      some none
    else
      none

namespace TransitionPatch

/-- `$set` the patch on an order. -/
def apply (patch : TransitionPatch) (order : OnlineOrder) : OnlineOrder :=
  { order with
    status := patch.status
    version := patch.version
    turnaround :=
      { order.turnaround with
        promisedCompletionAt :=
          match patch.promisedCompletionAt with
          | some promised => some promised
          | none => order.turnaround.promisedCompletionAt }
    abandonmentDeadlineAt := patch.abandonmentDeadlineAt.getD order.abandonmentDeadlineAt }

def paths (patch : TransitionPatch) : Finset Path :=
  {.status, .version} ∪
    (if patch.promisedCompletionAt.isSome then {.promisedCompletionAt}
      else ∅) ∪
    (if patch.abandonmentDeadlineAt.isSome then {.abandonmentDeadlineAt}
      else ∅)

end TransitionPatch

/-- The assignments `applyTransition` makes before its first write. -/
def OrderDocument.applyPatch (patch : TransitionPatch)
    (document : OrderDocument) : OrderDocument :=
  { document with
    order := patch.apply document.order
    modified := document.modified ∪ patch.paths }

def updateOrder (orderId : ObjectId) (expectedVersion : ℕ)
    (patch : TransitionPatch) (database : Database) :
    Except ServiceError (Unit × Database) :=
  match database.orders.lookup orderId with
  | none => .error (.badRequest
      "Order was modified concurrently — please retry")
  | some row =>
    if row.version = expectedVersion then
      .ok ((), database.putOrder orderId (patch.apply row))
    else
      .error (.badRequest "Order was modified concurrently — please retry")

theorem updateOrder_ok {orderId : ObjectId} {expected : ℕ} {patch : TransitionPatch}
    {database after : Database} {value : Unit} :
    updateOrder orderId expected patch database = .ok (value, after) ↔
      ∃ row, database.orders.lookup orderId = some row ∧
        row.version = expected ∧ after = database.putOrder orderId (patch.apply row) := by
  rw [updateOrder]
  rcases database.orders.lookup orderId with _ | row
  · simp
  · simp only [Option.some.injEq, exists_eq_left']
    split
    · rename_i current
      simp [current, eq_comm]
    · rename_i stale
      simp [stale]

/-- Append the timeline row of a transition, one past the last. -/
def recordTransition (orderId : ObjectId) (origin target : OrderStatus)
    (actorUid : Uid) (actorRole : String) (note : Option String)
    (database : Database) : Except ServiceError (Unit × Database) :=
  .ok ((), database.createEvent
    { orderId
      sequence := database.lastSequence orderId + 1
      fromStatus := some origin
      toStatus := target
      actorUid
      actorRole
      note
      isTransition := true })

/-- Move any promo slot the order holds in step with the order. -/
def settlePromoForTransition (clock : Clock) (order : OnlineOrder)
    (target : OrderStatus) : OrderProgram Unit :=
  if truthy order.pricing.promoCode ∨
      truthy order.pricing.platformFeePromoId then
    if target = .rejectedByProvider ∨ target = .cancelled then
      query fun database =>
        .ok ((), database.putPromotions (database.promotions.releaseForOrder clock.now order._id))
    else if target = .completed then
      query fun database =>
        .ok ((), database.putPromotions (database.promotions.settleForOrder order._id))
    else
      pure ()
  else
    pure ()

/--
Move the order to a status: validate, assign in memory, update the row guarded
by its version, record the timeline row, and settle promo slots.
-/
def applyTransition (clock : Clock) (target : OrderStatus)
    (actorUid : Uid) (actorRole : String) (note : Option String) :
    OrderProgram Unit := do
  let document ← remember
  check (assertValidTransition document.order.status target)
  let patch := transitionPatch clock target document.order
  edit (OrderDocument.applyPatch patch)
  query (updateOrder document.order._id document.order.version patch)
  query (recordTransition document.order._id document.order.status target actorUid actorRole note)
  settlePromoForTransition clock document.order target

/-- Set how much of the fee has been debited, marking `pricing`. -/
def OrderDocument.setConsumed (consumed : ℤ) (document : OrderDocument) :
    OrderDocument :=
  document.assign .pricing fun order =>
    { order with
      pricing :=
        { order.pricing with
          platformFeeConsumedCentavos := some consumed } }

def onWallets (operation : WalletStore → Except ServiceError WalletStore) :
    OrderProgram Unit :=
  query fun database =>
    (operation database.wallets).map fun wallets =>
      ((), database.putWallets wallets)

/--
Debit what part of the owed fee has not been debited yet, or credit back what
was debited too much, and record the new amount.
-/
def consumeOutstandingFee : OrderProgram Unit := do
  let document ← remember
  let order := document.order
  let owed := order.pricing.chargeablePlatformFeeCentavos
  let consumed := order.pricing.consumedCentavos
  if owed = consumed then
    pure ()
  else if owed < consumed then
    onWallets (WalletStore.reverseFee order.provider.branchId (consumed - owed) order._id)
    edit (OrderDocument.setConsumed owed)
    saveDocument
  else
    onWallets (WalletStore.consumeFee order.provider.branchId (owed - consumed) order._id)
    edit (OrderDocument.setConsumed owed)
    saveDocument

/-- The payment fields a collection can carry. -/
structure PaymentCollectionFields where
  paymentTiming : Option PaymentTiming := none
  paymentMethod : Option PaymentMethod := none
  referenceId : Option String := none
  tenderedCentavos : Option ℕ := none
deriving DecidableEq

/-- What `recordCollectionTransaction` checks: the tender and the change. -/
def checkCollection (input : PaymentCollectionFields)
    (amountDue : ℚ) :
    Except ServiceError (PaymentMethod × Option ℕ × Option ℚ) :=
  match input.paymentMethod with
  | none => .error (.badRequest
      "paymentMethod is required to collect payment")
  | some paymentMethod =>
    if paymentMethod = .ewalletOutsideApp ∧
        truthy input.referenceId = false then
      .error (.badRequest "referenceId is required when paying via e-wallet")
    else
      match input.tenderedCentavos with
      | none => .ok (paymentMethod, none, none)
      | some tendered =>
        if paymentMethod ≠ .cash then
          .error (.badRequest "tenderedCentavos only applies to cash payments")
        else if (tendered : ℚ) < amountDue then
          .error (.badRequest "Tendered cash is less than the amount due")
        else
          .ok (paymentMethod, some tendered, some ((tendered : ℚ) - amountDue))

/-- Merge a collection into the payment summary. -/
def PaymentSummary.collect (clock : Clock) (actorUid : Uid)
    (input : PaymentCollectionFields) (paymentMethod : PaymentMethod)
    (tenderedCentavos : Option ℕ) (changeCentavos : Option ℚ)
    (amountCentavos : ℚ) (prior : PaymentSummary) : PaymentSummary where
  method := some paymentMethod
  referenceId :=
    match input.referenceId with
    | some reference => some reference
    | none => prior.referenceId
  amountCollectedCentavos := some (prior.collectedCentavos + amountCentavos)
  collectedByUid := some actorUid
  collectedAt :=
    match prior.collectedAt with
    | some first => some first
    | none => some clock.now
  lastCollectedAt := some clock.now
  tenderedCentavos := tenderedCentavos
  changeCentavos := changeCentavos

def OrderDocument.collect (clock : Clock) (actorUid : Uid)
    (input : PaymentCollectionFields) (paymentMethod : PaymentMethod)
    (tenderedCentavos : Option ℕ) (changeCentavos : Option ℚ)
    (amountCentavos : ℚ) (document : OrderDocument) : OrderDocument :=
  document.assign .paymentSummary fun order =>
    { order with
      paymentSummary :=
        order.paymentSummary.collect clock actorUid input paymentMethod
          tenderedCentavos changeCentavos amountCentavos }

/-- Collect an amount: check, merge into the summary, save, record. -/
def recordCollectionTransaction (clock : Clock) (actor : User)
    (input : PaymentCollectionFields) (amountCentavos : ℚ)
    (status : OnlineTransactionStatus) : OrderProgram Unit := do
  let document ← remember
  let (paymentMethod, tenderedCentavos, changeCentavos) ←
    check (checkCollection input amountCentavos)
  edit (OrderDocument.collect clock actor._id input paymentMethod
    tenderedCentavos changeCentavos amountCentavos)
  saveDocument
  query fun database =>
    .ok ((), database.createTransaction
      { orderId := document.order._id
        paymentMethod
        referenceId := input.referenceId
        amountCentavos
        tenderedCentavos
        changeCentavos
        status
        collectedByUid := actor._id
        collectedByRole := roleIdOf actor })

/-! ## Weighing -/

/-- The measured quantity of one service line. -/
structure LineActual where
  serviceRefId : ObjectId
  actualWeightKg : Option ℚ≥0
  actualPieceCount : Option ℕ
deriving DecidableEq

/-- What the scale says. -/
structure Measurement where
  actualWeightKg : Option ℚ≥0 := none
  actualPieceCount : Option ℕ := none
  lineActuals : List LineActual := []
deriving DecidableEq

namespace Measurement

def lineActual (measured : Measurement) (line : ServiceLineSnapshot) :
    Option LineActual :=
  measured.lineActuals.reverse.find? fun actual =>
    actual.serviceRefId == line.serviceRefId

def weightOf (measured : Measurement) (line : ServiceLineSnapshot) :
    Option ℚ≥0 :=
  match (measured.lineActual line).bind LineActual.actualWeightKg with
  | some weight => some weight
  | none => measured.actualWeightKg

def piecesOf (measured : Measurement) (line : ServiceLineSnapshot) :
    Option ℕ :=
  match (measured.lineActual line).bind LineActual.actualPieceCount with
  | some pieces => some pieces
  | none => measured.actualPieceCount

def lineTotal (measured : Measurement) (line : ServiceLineSnapshot) : ℚ :=
  calculateServiceLineTotal line.toServiceLinePricingParams
    (measured.weightOf line) (measured.piecesOf line) +
    line.productSurchargeCentavos

def weights (measured : Measurement)
    (lines : List ServiceLineSnapshot) : List ℚ≥0 :=
  lines.filterMap fun line =>
    if line.pricingType = .perKilo ∨
        line.pricingType = .perKiloWithBase then
      measured.weightOf line
    else
      none

def pieces (measured : Measurement)
    (lines : List ServiceLineSnapshot) : List ℕ :=
  lines.filterMap fun line =>
    if line.pricingType = .perPiece then measured.piecesOf line else none

def serviceTotal (measured : Measurement)
    (lines : List ServiceLineSnapshot) : ℚ :=
  (lines.map measured.lineTotal).sum

end Measurement

/-- The pricing snapshot after the scale has spoken. -/
def OrderPricing.finalized (measured : Measurement)
    (lines : List ServiceLineSnapshot) (pricing : OrderPricing) :
    OrderPricing :=
  let serviceTotal := measured.serviceTotal lines
  let actualFeeCentavos := calculatePlatformFee serviceTotal (pricing.platformFeePercent.getD 0)
  let weights := measured.weights lines
  let pieces := measured.pieces lines
  let priced :=
    { pricing with
      actualWeightKg :=
        if weights = [] then measured.actualWeightKg
        else some weights.sum
      actualPieceCount :=
        if pieces = [] then measured.actualPieceCount
        else some pieces.sum
      actualServiceTotalCentavos := some serviceTotal
      platformFeeCentavos := some actualFeeCentavos }
  { priced with
    -- A waiver follows the fee it waives.
    platformFeeDiscountCentavos :=
      if truthy pricing.platformFeePromoId then
        some priced.waivablePlatformFeeCentavos
      else
        pricing.platformFeeDiscountCentavos
    customerTotalCentavos :=
      some (serviceTotal + actualFeeCentavos +
        (pricing.pickupFeeCentavos.getD 0 : ℕ) +
        (pricing.returnFeeCentavos.getD 0 : ℕ) +
        (pricing.turnaroundFeeCentavos.getD 0 : ℕ)) }

/-- `finalizePricing`: reprice the order from measured quantities. -/
def finalizePricing (measured : Measurement) (document : OrderDocument) :
    OrderDocument :=
  ((document.mutate fun order =>
    { order with
      pricing := order.pricing.finalized measured order.serviceLines
      serviceLines := order.serviceLines.map fun line =>
        { line with
          actualLineTotalCentavos := some (measured.lineTotal line) }
    }).markModified .pricing).markModified .serviceLines

/-- Pay now or pay later, as the booking snapshot allows. -/
def resolvePickupPaymentTiming (order : OnlineOrder)
    (input : PaymentCollectionFields) :
    Except ServiceError PaymentTiming :=
  let requested := input.paymentTiming.getD .onPickup
  if requested ≠ .atFinalHandover then
    .ok requested
  else if order.provider.allowsPayAtHandover = false then
    .error (.badRequest "This provider does not offer pay-at-handover")
  else if input.paymentMethod.isSome ∨ input.tenderedCentavos.isSome then
    .error (.badRequest ("Payment details cannot be supplied when " ++
      "deferring to final handover"))
  else
    .ok requested

/-- Stamp captured proof onto a leg; nothing without object keys. -/
def applyHandoverProof (clock : Clock) (leg : CourierLeg)
    (objectKeys : List String) (actorUid : Uid)
    (document : OrderDocument) : OrderDocument :=
  if objectKeys = [] then
    document
  else
    let proof : HandoverProof := { objectKeys, capturedAt := clock.now, capturedByUid := actorUid }
    match leg with
    | .pickup =>
      document.assign .pickupProof fun order =>
        { order with pickupProof := some proof }
    | .return =>
      document.assign .returnProof fun order =>
        { order with returnProof := some proof }

end Lalaba.Orders
