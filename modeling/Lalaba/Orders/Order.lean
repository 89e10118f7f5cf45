import Lalaba.Orders.Pricing
import Mathlib.Data.Finset.Insert

/-!
# Orders and their in-memory documents

A row of `online_orders`, and the ODM document a service call works on.  A
document remembers which paths were assigned since its last save; a save writes
exactly those, unguarded, and clears the memory.  `pricing`, `serviceLines`,
`fulfillment` and the other object-typed paths are not watched: a change inside
them is only written after `markModified`.
-/

namespace Lalaba.Orders

/-! ## Parts of an order -/

structure CustomerSnapshot where
  uid : Uid
deriving DecidableEq

structure ProviderSnapshot where
  providerType : ProviderType
  providerUid : Uid
  branchId : ObjectId
  providerName : String
  allowsPayAtHandover : Bool
deriving DecidableEq

/-- One priced service of an order. -/
structure ServiceLineSnapshot extends ServiceLinePricingParams where
  serviceRefId : ObjectId
  serviceName : String
  productSurchargeCentavos : ℚ≥0
  estimatedLineTotalCentavos : ℚ
  actualLineTotalCentavos : Option ℚ := none
  estimatedPieceCount : Option ℕ := none
  note : Option String := none
deriving DecidableEq

structure ScheduledPickup where
  date : String
  label : String
deriving DecidableEq

structure OrderFulfillment where
  pickupMode : FulfillmentPickupMode
  pickupSubMode : Option DeliverySubMode
  returnMode : FulfillmentReturnMode
  deliverySubMode : Option DeliverySubMode
  scheduledPickup : Option ScheduledPickup
deriving DecidableEq

/-- The turnaround promise the order was placed under. -/
structure OrderTurnaround where
  tierCode : TurnaroundTierCode
  feeCentavos : ℕ
  slaHours : Option ℕ
  promisedCompletionAt : Option Instant
deriving DecidableEq

/-- What has been collected. -/
structure PaymentSummary where
  method : Option PaymentMethod := none
  referenceId : Option String := none
  amountCollectedCentavos : Option ℚ := none
  collectedByUid : Option Uid := none
  collectedAt : Option Instant := none
  lastCollectedAt : Option Instant := none
  tenderedCentavos : Option ℕ := none
  changeCentavos : Option ℚ := none
deriving DecidableEq

namespace PaymentSummary

def collectedCentavos (summary : PaymentSummary) : ℚ := summary.amountCollectedCentavos.getD 0

end PaymentSummary

/-- A courier's work on one leg, with the last accepted position fix. -/
structure LegAssignment where
  assignedStaffUid : Option Uid
  assignedAt : Option Instant
  enRouteAt : Option Instant := none
  arrivedAt : Option Instant := none
  completedAt : Option Instant := none
  locationLat : Option ℚ := none
  locationLng : Option ℚ := none
  locationAt : Option Instant := none
  locationAccuracy : Option ℚ := none
  locationSpeed : Option ℚ := none
  locationHeading : Option ℚ := none
  locationSequence : Option ℤ := none
deriving DecidableEq

/-- A handover that failed. -/
structure AttemptEvidence where
  attemptNumber : ℕ
  actorUid : Uid
  timestamp : Instant
  gpsLat : Option ℚ
  gpsLng : Option ℚ
  photoUrls : Option (List String)
  responsibility : AttemptResponsibility
  reason : Option String
deriving DecidableEq

/-- Photo evidence of a handover that succeeded. -/
structure HandoverProof where
  objectKeys : List String
  capturedAt : Instant
  capturedByUid : Uid
deriving DecidableEq

inductive QualityHoldResponse where
  | pending
  | approved
  | declined
deriving DecidableEq

structure QualityHold where
  serviceLineIndex : ℕ
  category : Option String
  reason : String
  photoUrls : Option (List String)
  blocksOrder : Bool
  additionalChargeCentavos : Option ℕ
  customerResponse : QualityHoldResponse
  raisedAt : Instant
  respondTimeoutAt : Option Instant
  resolvedAt : Option Instant
deriving DecidableEq

/-- A row of `online_orders`; `__v` is the ODM's own array version. -/
structure OnlineOrder where
  _id : ObjectId
  customer : CustomerSnapshot
  provider : ProviderSnapshot
  serviceLines : List ServiceLineSnapshot
  fulfillment : OrderFulfillment
  turnaround : OrderTurnaround
  pricing : OrderPricing
  paymentSummary : PaymentSummary
  paymentTiming : PaymentTiming
  pickupAssignment : Option LegAssignment
  returnAssignment : Option LegAssignment
  pickupAttempts : List AttemptEvidence
  deliveryAttempts : List AttemptEvidence
  pickupProof : Option HandoverProof
  returnProof : Option HandoverProof
  activeQualityHold : Option QualityHold
  status : OrderStatus
  version : ℕ
  cancellationReason : Option String
  rejectionReason : Option String
  completedAt : Option Instant
  abandonmentDeadlineAt : Option Instant
  __v : ℕ
deriving DecidableEq

namespace OnlineOrder

def outstandingCentavos (order : OnlineOrder) : ℚ :=
  max 0 (order.pricing.dueCentavos - order.paymentSummary.collectedCentavos)

def assignment (order : OnlineOrder) : CourierLeg → Option LegAssignment
  | .pickup => order.pickupAssignment
  | .return => order.returnAssignment

def courier (order : OnlineOrder) (leg : CourierLeg) : Option Uid :=
  (order.assignment leg).bind LegAssignment.assignedStaffUid

end OnlineOrder

/-! ## Documents -/

/-- The paths a service call assigns or marks. -/
inductive Path where
  | serviceLines
  | promisedCompletionAt
  | pricing
  | paymentSummary
  | paymentTiming
  | pickupAssignment
  | returnAssignment
  | pickupProof
  | returnProof
  | activeQualityHold
  | status
  | version
  | cancellationReason
  | rejectionReason
  | completedAt
  | abandonmentDeadlineAt
deriving DecidableEq

/--
An order in memory: its values, the paths modified since the last save, the
attempts pushed since then, and whether it was ever inserted.
-/
structure OrderDocument where
  order : OnlineOrder
  modified : Finset Path
  pushedPickupAttempts : List AttemptEvidence
  pushedDeliveryAttempts : List AttemptEvidence
  isNew : Bool
deriving DecidableEq

namespace OrderDocument

/-- A document as `findById` hydrates it. -/
def ofRow (row : OnlineOrder) : OrderDocument :=
  { order := row
    modified := ∅
    pushedPickupAttempts := []
    pushedDeliveryAttempts := []
    isNew := false }

/-- A document as `new Model(..)` builds it. -/
def draft (order : OnlineOrder) : OrderDocument := { ofRow order with isNew := true }

def mutate (change : OnlineOrder → OnlineOrder)
    (document : OrderDocument) : OrderDocument :=
  { document with order := change document.order }

def markModified (path : Path) (document : OrderDocument) :
    OrderDocument :=
  { document with modified := insert path document.modified }

def assign (path : Path) (change : OnlineOrder → OnlineOrder)
    (document : OrderDocument) : OrderDocument :=
  (document.mutate change).markModified path

/-- `pickupAttempts.push`. -/
def pushPickupAttempt (evidence : AttemptEvidence)
    (document : OrderDocument) : OrderDocument :=
  { document with
    order :=
      { document.order with
        pickupAttempts := document.order.pickupAttempts ++ [evidence] }
    pushedPickupAttempts := document.pushedPickupAttempts ++ [evidence] }

/-- `deliveryAttempts.push`. -/
def pushDeliveryAttempt (evidence : AttemptEvidence)
    (document : OrderDocument) : OrderDocument :=
  { document with
    order :=
      { document.order with
        deliveryAttempts := document.order.deliveryAttempts ++ [evidence] }
    pushedDeliveryAttempts := document.pushedDeliveryAttempts ++ [evidence] }

@[simp]
theorem modified_ofRow (row : OnlineOrder) :
    (ofRow row).modified = ∅ :=
  rfl

@[simp]
theorem modified_mutate (change : OnlineOrder → OnlineOrder)
    (document : OrderDocument) :
    (document.mutate change).modified = document.modified :=
  rfl

@[simp]
theorem modified_markModified (path : Path) (document : OrderDocument) :
    (document.markModified path).modified = insert path document.modified :=
  rfl

@[simp]
theorem modified_assign (path : Path)
    (change : OnlineOrder → OnlineOrder) (document : OrderDocument) :
    (document.assign path change).modified = insert path document.modified :=
  rfl

@[simp]
theorem modified_pushPickupAttempt (evidence : AttemptEvidence)
    (document : OrderDocument) :
    (document.pushPickupAttempt evidence).modified = document.modified :=
  rfl

@[simp]
theorem modified_pushDeliveryAttempt (evidence : AttemptEvidence)
    (document : OrderDocument) :
    (document.pushDeliveryAttempt evidence).modified = document.modified :=
  rfl

/-! ### Saving -/

def pick {Value : Type} (document : OrderDocument) (path : Path)
    (inMemory stored : Value) : Value :=
  if path ∈ document.modified then inMemory else stored

/-- Does the next save change an array, and so count up `__v`? -/
def changesArray (document : OrderDocument) : Bool :=
  decide (.serviceLines ∈ document.modified) ||
    !document.pushedPickupAttempts.isEmpty ||
    !document.pushedDeliveryAttempts.isEmpty

/-- The update a save sends, applied to the stored row. -/
def writeTo (document : OrderDocument) (row : OnlineOrder) :
    OnlineOrder :=
  { row with
    serviceLines := document.pick .serviceLines document.order.serviceLines row.serviceLines
    turnaround :=
      { row.turnaround with
        promisedCompletionAt :=
          document.pick .promisedCompletionAt
            document.order.turnaround.promisedCompletionAt
            row.turnaround.promisedCompletionAt }
    pricing := document.pick .pricing document.order.pricing row.pricing
    paymentSummary := document.pick .paymentSummary document.order.paymentSummary row.paymentSummary
    paymentTiming := document.pick .paymentTiming document.order.paymentTiming row.paymentTiming
    pickupAssignment :=
      document.pick .pickupAssignment document.order.pickupAssignment row.pickupAssignment
    returnAssignment :=
      document.pick .returnAssignment document.order.returnAssignment row.returnAssignment
    pickupAttempts := row.pickupAttempts ++ document.pushedPickupAttempts
    deliveryAttempts := row.deliveryAttempts ++ document.pushedDeliveryAttempts
    pickupProof := document.pick .pickupProof document.order.pickupProof row.pickupProof
    returnProof := document.pick .returnProof document.order.returnProof row.returnProof
    activeQualityHold :=
      document.pick .activeQualityHold document.order.activeQualityHold row.activeQualityHold
    status := document.pick .status document.order.status row.status
    version := document.pick .version document.order.version row.version
    cancellationReason :=
      document.pick .cancellationReason document.order.cancellationReason row.cancellationReason
    rejectionReason :=
      document.pick .rejectionReason document.order.rejectionReason row.rejectionReason
    completedAt := document.pick .completedAt document.order.completedAt row.completedAt
    abandonmentDeadlineAt :=
      document.pick .abandonmentDeadlineAt
        document.order.abandonmentDeadlineAt row.abandonmentDeadlineAt
    __v := if document.changesArray then row.__v + 1 else row.__v }

/-- A document after a save that went through. -/
def saved (document : OrderDocument) : OrderDocument :=
  { order :=
      { document.order with
        __v :=
          if document.changesArray ∧ document.isNew = false then
            document.order.__v + 1
          else
            document.order.__v }
    modified := ∅
    pushedPickupAttempts := []
    pushedDeliveryAttempts := []
    isNew := false }

/--
`save`, given the stored row of the document's id.  A whole array is only
written over the array version it was read at.
-/
def save (document : OrderDocument) (stored : Option OnlineOrder) :
    Except ServiceError (OnlineOrder × OrderDocument) :=
  if document.isNew then
    match stored with
    | some _ => .error (.duplicateKey "_id_")
    | none => .ok (document.order, document.saved)
  else
    match stored with
    | none => .error .documentNotFound
    | some row =>
      if .serviceLines ∈ document.modified ∧
          row.__v ≠ document.order.__v then
        .error .versionError
      else
        .ok (document.writeTo row, document.saved)

variable {document after : OrderDocument} {stored : Option OnlineOrder} {row : OnlineOrder}

theorem save_ok (inserted : document.isNew = false)
    (saved : document.save stored = .ok (row, after)) :
    ∃ old, stored = some old ∧ row = document.writeTo old ∧ after = document.saved := by
  rcases stored with _ | old
  · simp [save, inserted] at saved
  · simp only [save, inserted, Bool.false_eq_true, if_false] at saved
    split at saved
    · cases saved
    · cases saved
      exact ⟨old, rfl, rfl, rfl⟩

theorem save_new (isNew : document.isNew = true) :
    document.save none = .ok (document.order, document.saved) := by
  simp [save, isNew]

theorem save_cases (saved : document.save stored = .ok (row, after)) :
    document.isNew = true ∧ stored = none ∧ row = document.order ∨
      document.isNew = false ∧ ∃ old, stored = some old ∧ row = document.writeTo old := by
  rcases isNew : document.isNew with _ | _
  · rcases save_ok isNew saved with ⟨old, found, written, _⟩
    exact .inr ⟨rfl, old, found, written⟩
  · rcases stored with _ | old
    · rw [save_new isNew] at saved
      cases saved
      exact .inl ⟨rfl, rfl, rfl⟩
    · simp [save, isNew] at saved

theorem save_id
    (keyed : ∀ old, stored = some old → old._id = document.order._id)
    (saved : document.save stored = .ok (row, after)) :
    row._id = document.order._id := by
  rcases save_cases saved with ⟨_, _, rfl⟩ | ⟨_, old, found, rfl⟩
  · rfl
  · exact keyed old found

theorem save_saved (saved : document.save stored = .ok (row, after)) : after = document.saved := by
  rcases inserted : document.isNew with _ | _
  · rcases save_ok inserted saved with ⟨_, _, _, rfl⟩
    rfl
  · rcases stored with _ | old
    · rw [save_new inserted] at saved
      cases saved
      rfl
    · simp [save, inserted] at saved

end OrderDocument

end Lalaba.Orders
