import Lalaba.Orders.Database

/-!
# Who sees what of an order

An order tells where its customer lives: in the address and the map location, in
the coordinates of failed attempts, and in the access instructions.  Whoever reads
it gets the order through four functions that leave such data out, depending on
who reads.  Two orders that differ in such data only look the same to a courier
who rides neither of their legs.
-/

namespace Lalaba.Orders

structure BranchAddress where
  unit : Option String
  regionName : String
  provinceName : String
  cityMunicipalityName : String
  barangayName : String
  streetAddress : String
  zipCode : Option String
deriving DecidableEq

structure MapLocation where
  latitude : ℚ
  longitude : ℚ
deriving DecidableEq

/-- What a customer snapshot holds beside the customer's id. -/
structure CustomerDetails where
  displayName : String
  maskedPhone : Option String
  address : Option BranchAddress
  mapLocation : Option MapLocation
  areaLabel : Option String
deriving DecidableEq

structure OrderInstructions where
  pickupInstructions : Option String := none
  accessInstructions : Option String := none
  laundryCareInstructions : Option String := none
  returnInstructions : Option String := none
  customerGeneralNotes : Option String := none
  providerNotes : Option String := none
deriving DecidableEq

/-- An order with the parts that only its readers use. -/
structure ReadableOrder extends OnlineOrder where
  details : CustomerDetails
  instructions : Option OrderInstructions
deriving DecidableEq

/-- A customer snapshot, as it is handed out. -/
structure VisibleCustomer extends CustomerSnapshot where
  displayName : String
  maskedPhone : Option String := none
  address : Option BranchAddress := none
  mapLocation : Option MapLocation := none
  areaLabel : Option String

/-- `areaLabelOf`: barangay and city, as far as they are given. -/
def areaLabelOf (address : Option BranchAddress) : Option String :=
  address.bind fun address =>
    let label := ", ".intercalate
      ([address.barangayName, address.cityMunicipalityName].filter (· ≠ ""))
    if label = "" then none else some label

def CustomerDetails.area (details : CustomerDetails) : Option String :=
  details.areaLabel <|> areaLabelOf details.address

/-- `LIVE_STATUSES`: a courier is out on the leg. -/
def CourierLeg.liveStatuses : CourierLeg → List OrderStatus
  | .pickup => [.pickupEnRoute, .pickupArrived, .pickupWeighed]
  | .return => [.returnEnRoute, .returnArrived]

def activeCourierLeg (order : OnlineOrder) (uid : Uid) :
    Option CourierLeg :=
  if uid = "" then none
  else if order.courier .pickup = some uid ∧
      order.status ∈ CourierLeg.pickup.liveStatuses then
    some .pickup
  else if order.courier .return = some uid ∧
      order.status ∈ CourierLeg.return.liveStatuses then
    some .return
  else none

def assignedCourierLeg (order : OnlineOrder) (uid : Uid) :
    Option CourierLeg :=
  if uid = "" then none
  else if order.courier .pickup = some uid then some .pickup
  else if order.courier .return = some uid then some .return
  else none

def OffRoad (order : OnlineOrder) (uid : Uid) : Prop :=
  ∀ leg, order.courier leg = some uid → order.status ∉ leg.liveStatuses

def Unassigned (order : OnlineOrder) (uid : Uid) : Prop := ∀ leg, order.courier leg ≠ some uid

variable {order : OnlineOrder} {uid : Uid}

theorem Unassigned.offRoad (unassigned : Unassigned order uid) : OffRoad order uid :=
  fun leg assigned => absurd assigned (unassigned leg)

theorem activeCourierLeg_eq_none (offRoad : OffRoad order uid) : activeCourierLeg order uid = none := by
  rw [activeCourierLeg]
  split
  · rfl
  · rw [if_neg fun live => offRoad .pickup live.1 live.2,
      if_neg fun live => offRoad .return live.1 live.2]

theorem assignedCourierLeg_eq_none (unassigned : Unassigned order uid) :
    assignedCourierLeg order uid = none := by
  rw [assignedCourierLeg, if_neg (unassigned .pickup), if_neg (unassigned .return)]
  split <;> rfl

/-! ## What readers get -/

def canSeePreciseLocation (order : OnlineOrder) (requester : User) : Bool :=
  let roleId := roleIdOf requester
  let isOwnerCustomer := order.customer.uid == requester._id
  let isProviderOwner := order.provider.providerUid == requester._id
  let isAdmin := roleId == "admin" || roleId == "support"
  let isNonCourierProviderStaff :=
    roleId != "courier" &&
      (requester.merchantId == some order.provider.providerUid ||
        requester.branchIds.contains order.provider.branchId)
  let isCourierOnLiveLeg := (activeCourierLeg order requester._id).isSome
  isOwnerCustomer || isProviderOwner || isAdmin || isNonCourierProviderStaff || isCourierOnLiveLeg

def canSeeCustomerLocation (order : OnlineOrder) (requester : User) :
    Bool :=
  canSeePreciseLocation order requester ||
    roleIdOf requester == "courier" && (assignedCourierLeg order requester._id).isSome

def AttemptEvidence.redacted (attempt : AttemptEvidence) :
    AttemptEvidence :=
  { attempt with gpsLat := none, gpsLng := none }

def OrderInstructions.redacted (instructions : OrderInstructions) :
    OrderInstructions :=
  { instructions with accessInstructions := none }

def attemptsFor (attempts : List AttemptEvidence) (order : OnlineOrder)
    (requester : User) : List AttemptEvidence :=
  if canSeePreciseLocation order requester then attempts
  else attempts.map AttemptEvidence.redacted

def instructionsFor (order : ReadableOrder) (requester : User) :
    OrderInstructions :=
  let instructions := order.instructions.getD {}
  if canSeePreciseLocation order.toOnlineOrder requester then instructions
  else instructions.redacted

def customerSnapshotFor (order : ReadableOrder) (requester : User) :
    VisibleCustomer :=
  if canSeeCustomerLocation order.toOnlineOrder requester then
    { uid := order.customer.uid
      displayName := order.details.displayName
      maskedPhone := order.details.maskedPhone
      address := order.details.address
      mapLocation := order.details.mapLocation
      areaLabel := order.details.area }
  else
    { uid := order.customer.uid
      displayName := order.details.displayName
      areaLabel := order.details.area }

def contactPhoneFor (phoneNumbers : Collection String)
    (order : OnlineOrder) (requesterUid : Uid) : Option String :=
  if (activeCourierLeg order requesterUid).isSome then
    phoneNumbers.lookup order.customer.uid
  else
    none

/-- A courier with no part in an order but that of a courier. -/
structure Stranger (order : OnlineOrder) (requester : User) : Prop where
  courier : roleIdOf requester = "courier"
  notCustomer : order.customer.uid ≠ requester._id
  notProvider : order.provider.providerUid ≠ requester._id

theorem Stranger.not_precise {requester : User}
    (stranger : Stranger order requester)
    (offRoad : OffRoad order requester._id) :
    canSeePreciseLocation order requester = false := by
  simp [canSeePreciseLocation, stranger.courier, stranger.notCustomer,
    stranger.notProvider, activeCourierLeg_eq_none offRoad]

theorem Stranger.not_location {requester : User}
    (stranger : Stranger order requester)
    (unassigned : Unassigned order requester._id) :
    canSeeCustomerLocation order requester = false := by
  simp [canSeeCustomerLocation, stranger.not_precise unassigned.offRoad,
    assignedCourierLeg_eq_none unassigned]

/-! ## Orders that differ in private data -/

def ReadableOrder.disclosed (order : ReadableOrder) : ReadableOrder :=
  { order with
    pickupAttempts := order.pickupAttempts.map AttemptEvidence.redacted
    deliveryAttempts := order.deliveryAttempts.map AttemptEvidence.redacted
    details :=
      { displayName := order.details.displayName
        maskedPhone := none
        address := none
        mapLocation := none
        areaLabel := order.details.area }
    instructions := some (order.instructions.getD {}).redacted }

theorem courier_of_disclosed {first second : ReadableOrder}
    (alike : first.disclosed = second.disclosed) :
    (∀ leg, first.courier leg = second.courier leg) ∧ first.status = second.status := by
  have pickup : first.pickupAssignment = second.pickupAssignment :=
    congrArg (fun order => order.pickupAssignment) alike
  have return_ : first.returnAssignment = second.returnAssignment :=
    congrArg (fun order => order.returnAssignment) alike
  constructor
  · intro leg
    cases leg with
    | pickup => exact congrArg (·.bind LegAssignment.assignedStaffUid) pickup
    | «return» =>
      exact congrArg (·.bind LegAssignment.assignedStaffUid) return_
  · exact congrArg (fun order => order.status) alike

section

variable {first second : ReadableOrder} {requester : User}

theorem Stranger.transfer (alike : first.disclosed = second.disclosed)
    (stranger : Stranger first.toOnlineOrder requester) :
    Stranger second.toOnlineOrder requester := by
  have customer : first.customer.uid = second.customer.uid :=
    congrArg (fun order => order.customer.uid) alike
  have provider : first.provider.providerUid = second.provider.providerUid :=
    congrArg (fun order => order.provider.providerUid) alike
  constructor
  · exact stranger.courier
  · rw [← customer]
    exact stranger.notCustomer
  · rw [← provider]
    exact stranger.notProvider

theorem OffRoad.transfer (alike : first.disclosed = second.disclosed)
    {uid : Uid} (offRoad : OffRoad first.toOnlineOrder uid) :
    OffRoad second.toOnlineOrder uid := by
  obtain ⟨couriers, status⟩ := courier_of_disclosed alike
  intro leg assigned
  rw [← status]
  exact offRoad leg ((couriers leg).trans assigned)

theorem Unassigned.transfer (alike : first.disclosed = second.disclosed)
    {uid : Uid} (unassigned : Unassigned first.toOnlineOrder uid) :
    Unassigned second.toOnlineOrder uid := by
  intro leg
  rw [← (courier_of_disclosed alike).1 leg]
  exact unassigned leg

def SeesAlike (first second : ReadableOrder)
    (phoneNumbers phoneNumbers' : Collection String) (requester : User) :
    Prop :=
  attemptsFor first.pickupAttempts first.toOnlineOrder requester =
      attemptsFor second.pickupAttempts second.toOnlineOrder requester ∧
    attemptsFor first.deliveryAttempts first.toOnlineOrder requester =
      attemptsFor second.deliveryAttempts second.toOnlineOrder requester ∧
    instructionsFor first requester = instructionsFor second requester ∧
    contactPhoneFor phoneNumbers first.toOnlineOrder requester._id =
      contactPhoneFor phoneNumbers' second.toOnlineOrder requester._id

theorem seesAlike_of_offRoad (alike : first.disclosed = second.disclosed)
    (stranger : Stranger first.toOnlineOrder requester)
    (offRoad : OffRoad first.toOnlineOrder requester._id)
    (phoneNumbers phoneNumbers' : Collection String) :
    SeesAlike first second phoneNumbers phoneNumbers' requester := by
  have blind := stranger.not_precise offRoad
  have blind' := (stranger.transfer alike).not_precise (offRoad.transfer alike)
  have pickups :
      first.pickupAttempts.map AttemptEvidence.redacted =
        second.pickupAttempts.map AttemptEvidence.redacted :=
    congrArg (fun order => order.pickupAttempts) alike
  have deliveries :
      first.deliveryAttempts.map AttemptEvidence.redacted =
        second.deliveryAttempts.map AttemptEvidence.redacted :=
    congrArg (fun order => order.deliveryAttempts) alike
  have instructions :
      some (first.instructions.getD {}).redacted = some (second.instructions.getD {}).redacted :=
    congrArg ReadableOrder.instructions alike
  refine ⟨?_, ?_, ?_, ?_⟩
  · simpa [attemptsFor, blind, blind'] using pickups
  · simpa [attemptsFor, blind, blind'] using deliveries
  · simpa [instructionsFor, blind, blind'] using instructions
  · rw [contactPhoneFor, contactPhoneFor, activeCourierLeg_eq_none offRoad,
      activeCourierLeg_eq_none (offRoad.transfer alike)]
    rfl

theorem customerSnapshotFor_of_unassigned
    (alike : first.disclosed = second.disclosed)
    (stranger : Stranger first.toOnlineOrder requester)
    (unassigned : Unassigned first.toOnlineOrder requester._id) :
    customerSnapshotFor first requester =
      customerSnapshotFor second requester := by
  have blind := stranger.not_location unassigned
  have blind' := (stranger.transfer alike).not_location (unassigned.transfer alike)
  have customer : first.customer = second.customer := congrArg (fun order => order.customer) alike
  have displayName : first.details.displayName =
      second.details.displayName :=
    congrArg (fun order => order.details.displayName) alike
  have area : first.details.area = second.details.area :=
    congrArg (fun order => order.details.areaLabel) alike
  simp [customerSnapshotFor, blind, blind', customer, displayName, area]

/--
A courier who is neither the customer nor the provider cannot tell two orders
apart that differ in private data, when neither leg is assigned to the courier;
and sees the address at most while no leg of the courier's is live.
-/
theorem courier_noninterference
    (stranger : Stranger first.toOnlineOrder requester)
    (alike : first.disclosed = second.disclosed)
    (phoneNumbers phoneNumbers' : Collection String) :
    (Unassigned first.toOnlineOrder requester._id →
      customerSnapshotFor first requester = customerSnapshotFor second requester ∧
        SeesAlike first second phoneNumbers phoneNumbers' requester) ∧
      (OffRoad first.toOnlineOrder requester._id →
        SeesAlike first second phoneNumbers phoneNumbers' requester) := by
  constructor
  · intro unassigned
    exact
      ⟨customerSnapshotFor_of_unassigned alike stranger unassigned,
        seesAlike_of_offRoad alike stranger unassigned.offRoad phoneNumbers phoneNumbers'⟩
  · intro offRoad
    exact seesAlike_of_offRoad alike stranger offRoad phoneNumbers phoneNumbers'

end

namespace Shop

/-- An order whose pickup has failed once, as it is stored for an address. -/
def doorstep (address : BranchAddress) (location : MapLocation)
    (maskedPhone gateCode : String) : ReadableOrder where
  _id := "order"
  customer := { uid := "customer" }
  provider :=
    { providerType := .washer
      providerUid := "washer"
      branchId := "branch"
      providerName := "Washer"
      allowsPayAtHandover := false }
  serviceLines := []
  fulfillment :=
    { pickupMode := .providerPickup
      pickupSubMode := none
      returnMode := .providerDelivery
      deliverySubMode := none
      scheduledPickup := none }
  turnaround :=
    { tierCode := .standard
      feeCentavos := 0
      slaHours := none
      promisedCompletionAt := none }
  pricing := { estimatedTotalCentavos := 20000 }
  paymentSummary := {}
  paymentTiming := .onPickup
  pickupAssignment := some { assignedStaffUid := some "rider", assignedAt := none }
  returnAssignment := none
  pickupAttempts :=
    [{ attemptNumber := 1
       actorUid := "rider"
       timestamp := 1000
       gpsLat := some location.latitude
       gpsLng := some location.longitude
       photoUrls := none
       responsibility := .customer
       reason := none }]
  deliveryAttempts := []
  pickupProof := none
  returnProof := none
  activeQualityHold := none
  status := .pickupEnRoute
  version := 5
  cancellationReason := none
  rejectionReason := none
  completedAt := none
  abandonmentDeadlineAt := none
  __v := 0
  details :=
    { displayName := "Customer"
      maskedPhone := some maskedPhone
      address := some address
      mapLocation := some location
      areaLabel := some "Poblacion, Makati" }
  instructions := some { accessInstructions := some gateCode }

def house (streetAddress : String) : BranchAddress where
  unit := none
  regionName := "NCR"
  provinceName := "Metro Manila"
  cityMunicipalityName := "Makati"
  barangayName := "Poblacion"
  streetAddress
  zipCode := none

def firstHome : ReadableOrder :=
  doorstep (house "1 Rizal") { latitude := 14, longitude := 121 } "0917*****01" "Gate 1"

def secondHome : ReadableOrder :=
  doorstep (house "2 Rizal") { latitude := 15, longitude := 120 } "0918*****02" "Gate 2"

def otherRider : User where
  _id := "other"
  roleId := some "courier"
  merchantId := some "washer"
  branchIds := ["branch"]
  isActive := true
  isArchived := false
  selfieStatus := some "ACTIVE"
  firstName := "Other"
  lastName := "Rider"
  email := "other@example.com"

end Shop

/-- The other courier gets the same from both, with either phone number. -/
theorem courier_noninterference_otherRider :
    customerSnapshotFor Shop.firstHome Shop.otherRider =
        customerSnapshotFor Shop.secondHome Shop.otherRider ∧
      SeesAlike Shop.firstHome Shop.secondHome
        ((∅ : Collection String).insert "customer" "09170000001")
        ((∅ : Collection String).insert "customer" "09180000002")
        Shop.otherRider := by
  have stranger : Stranger Shop.firstHome.toOnlineOrder Shop.otherRider :=
    { courier := rfl
      notCustomer := by decide
      notProvider := by decide }
  have unassigned : Unassigned Shop.firstHome.toOnlineOrder
      Shop.otherRider._id := by
    intro leg
    cases leg <;> decide
  exact (courier_noninterference stranger (by decide +kernel) _ _).1 unassigned

end Lalaba.Orders
