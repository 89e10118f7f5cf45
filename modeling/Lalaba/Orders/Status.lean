import Lalaba.Common

/-!
# Order statuses

The canonical status enumeration, the transition table, and the sets of statuses
the services single out.
-/

namespace Lalaba.Orders

/-- Where an order stands. -/
inductive OrderStatus where
  | draft
  | pricingValidated
  | pendingProviderAcceptance
  | providerChangeProposed
  | acceptedByProvider
  | rejectedByProvider
  | cancelled
  | awaitingPickupAssignment
  | pickupAssigned
  | pickupEnRoute
  | pickupArrived
  | pickupWeighed
  | pickedUpFromCustomer
  | pickupAttemptFailed
  | awaitingPickupReschedule
  | receivedByProvider
  | laundryInProgress
  | laundryQualityHold
  | laundryReady
  | awaitingReturnSelection
  | awaitingReturnAssignment
  | returnAssigned
  | returnEnRoute
  | returnArrived
  | deliveredToCustomer
  | deliveryAttempted
  | returnedToProvider
  | awaitingRedeliverySelection
  | redeliveryScheduled
  | awaitingCustomerPickup
  | customerPickupVerified
  | completed
  | refunded
  | disputed
  | abandonedUnsettled
deriving DecidableEq

namespace OrderStatus

/-- The stored text of a status. -/
def value : OrderStatus → String
  | draft => "draft"
  | pricingValidated => "pricing_validated"
  | pendingProviderAcceptance => "pending_provider_acceptance"
  | providerChangeProposed => "provider_change_proposed"
  | acceptedByProvider => "accepted_by_provider"
  | rejectedByProvider => "rejected_by_provider"
  | cancelled => "cancelled"
  | awaitingPickupAssignment => "awaiting_pickup_assignment"
  | pickupAssigned => "pickup_assigned"
  | pickupEnRoute => "pickup_en_route"
  | pickupArrived => "pickup_arrived"
  | pickupWeighed => "pickup_weighed"
  | pickedUpFromCustomer => "picked_up_from_customer"
  | pickupAttemptFailed => "pickup_attempt_failed"
  | awaitingPickupReschedule => "awaiting_pickup_reschedule"
  | receivedByProvider => "received_by_provider"
  | laundryInProgress => "laundry_in_progress"
  | laundryQualityHold => "laundry_quality_hold"
  | laundryReady => "laundry_ready"
  | awaitingReturnSelection => "awaiting_return_selection"
  | awaitingReturnAssignment => "awaiting_return_assignment"
  | returnAssigned => "return_assigned"
  | returnEnRoute => "return_en_route"
  | returnArrived => "return_arrived"
  | deliveredToCustomer => "delivered_to_customer"
  | deliveryAttempted => "delivery_attempted"
  | returnedToProvider => "returned_to_provider"
  | awaitingRedeliverySelection => "awaiting_redelivery_selection"
  | redeliveryScheduled => "redelivery_scheduled"
  | awaitingCustomerPickup => "awaiting_customer_pickup"
  | customerPickupVerified => "customer_pickup_verified"
  | completed => "completed"
  | refunded => "refunded"
  | disputed => "disputed"
  | abandonedUnsettled => "abandoned_unsettled"

/-- `ORDER_STATUS_TRANSITIONS`: the allowed next statuses. -/
def transitions : OrderStatus → List OrderStatus
  | draft => [pricingValidated, cancelled]
  | pricingValidated => [pendingProviderAcceptance, cancelled]
  | pendingProviderAcceptance =>
    [acceptedByProvider, providerChangeProposed, rejectedByProvider, cancelled]
  | providerChangeProposed => [acceptedByProvider, cancelled]
  | acceptedByProvider =>
    [awaitingPickupAssignment, receivedByProvider, cancelled]
  | rejectedByProvider => []
  | cancelled => []
  | awaitingPickupAssignment => [pickupAssigned]
  | pickupAssigned => [pickupEnRoute]
  | pickupEnRoute => [pickupArrived]
  | pickupArrived => [pickupWeighed, pickupAttemptFailed]
  | pickupWeighed => [pickupWeighed, pickedUpFromCustomer]
  | pickedUpFromCustomer => [laundryInProgress]
  | pickupAttemptFailed => [pickupAssigned, awaitingPickupReschedule]
  | awaitingPickupReschedule => [pickupAssigned, cancelled]
  | receivedByProvider => [laundryInProgress]
  | laundryInProgress => [laundryQualityHold, laundryReady]
  | laundryQualityHold => [laundryInProgress]
  | laundryReady =>
    [awaitingReturnSelection, awaitingReturnAssignment, awaitingCustomerPickup]
  | awaitingReturnSelection =>
    [awaitingReturnAssignment, awaitingCustomerPickup]
  | awaitingReturnAssignment => [returnAssigned]
  | returnAssigned => [returnEnRoute]
  | returnEnRoute => [returnArrived]
  | returnArrived => [deliveredToCustomer, deliveryAttempted]
  | deliveredToCustomer => [completed]
  | deliveryAttempted => [returnedToProvider]
  | returnedToProvider => [awaitingRedeliverySelection]
  | awaitingRedeliverySelection => [redeliveryScheduled, abandonedUnsettled]
  | redeliveryScheduled => [returnAssigned]
  | awaitingCustomerPickup => [customerPickupVerified, abandonedUnsettled]
  | customerPickupVerified => [completed]
  | completed => [disputed]
  | refunded => []
  | disputed => []
  | abandonedUnsettled =>
    [awaitingRedeliverySelection, awaitingCustomerPickup]

end OrderStatus

def assertValidTransition (origin target : OrderStatus) :
    Except ServiceError Unit :=
  if target ∈ origin.transitions then
    .ok ()
  else
    .error (.conflict ("Invalid order status transition: " ++
      origin.value ++ " -> " ++ target.value))

@[simp]
theorem assertValidTransition_ok {origin target : OrderStatus}
    {result : Unit} :
    assertValidTransition origin target = .ok result ↔ target ∈ origin.transitions := by
  rw [assertValidTransition]
  split <;> simp_all

namespace OrderStatus

/--
`ABANDONMENT_WAITING_STATES`: the provider holds finished laundry that the
customer has neither paid for nor taken.
-/
def abandonmentWaiting : OrderStatus → Bool
  | awaitingRedeliverySelection | awaitingCustomerPickup => true
  | _ => false

/-- `CAP_COUNTED_STATUSES`: the order occupies a place in its day. -/
def capCounted : OrderStatus → Bool
  | draft | pricingValidated | pendingProviderAcceptance
  | providerChangeProposed | rejectedByProvider | cancelled
  | refunded => false
  | _ => true

end OrderStatus

/-! ## The other enumerations of an order -/

inductive FulfillmentPickupMode where
  | providerPickup
  | customerDropoff
deriving DecidableEq

inductive FulfillmentReturnMode where
  | providerDelivery
  | customerSelfPickup
deriving DecidableEq

inductive DeliverySubMode where
  | freeBatch
  | express
  | scheduledPaid
deriving DecidableEq

inductive TurnaroundTierCode where
  | standard
  | express
deriving DecidableEq

/-- The two transport legs of an order. -/
inductive CourierLeg where
  | pickup
  | return
deriving DecidableEq

inductive ProviderType where
  | merchant
  | washer
deriving DecidableEq

inductive PaymentMethod where
  | cash
  | ewalletOutsideApp
deriving DecidableEq

inductive PaymentTiming where
  | onPickup
  | atFinalHandover
deriving DecidableEq

inductive AttemptResponsibility where
  | customer
  | provider
  | system
deriving DecidableEq

/-- `ASSIGNED_STATUSES`: a leg sits on its courier's task board. -/
def CourierLeg.assignedStatuses : CourierLeg → List OrderStatus
  | .pickup =>
    [.pickupAssigned, .pickupEnRoute, .pickupArrived, .pickupWeighed]
  | .return => [.returnAssigned, .returnEnRoute, .returnArrived]

end Lalaba.Orders
