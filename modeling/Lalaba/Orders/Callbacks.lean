import Lalaba.Orders.Transition

/-!
# The transaction callbacks of the order service

What each method hands to `withTransaction`.  A callback has captured the values
its method computed before the transaction; the document it works on is memory,
and survives a run that the database aborts.
-/

namespace Lalaba.Orders

open Foundation
open Foundation.Program
open Promotions
open Wallets

/-- `save`, then one transition. -/
def saveThenTransition (clock : Clock) (target : OrderStatus)
    (actorUid : Uid) (actorRole : String) (note : Option String) :
    OrderProgram Unit := do
  saveDocument
  applyTransition clock target actorUid actorRole note

/-! ## Acceptance -/

def Database.countScheduled (branchId : ObjectId) (day : String)
    (except : Option ObjectId) (database : Database) : ℕ :=
  database.orders.entries.countP fun entry =>
    entry.2.provider.branchId == branchId && some entry.1 != except &&
      entry.2.fulfillment.scheduledPickup.any (fun slot =>
        slot.date == day) &&
      entry.2.status.capCounted

def assertUnderCap (clock : Clock) (cap count : ℕ)
    (scheduledDay : String) : Except ServiceError Unit :=
  if cap ≤ count then
    .error (.badRequest (
      if scheduledDay = clock.phDayKey then
        "This washer has reached her order limit for today"
      else
        "This washer is fully booked on " ++ scheduledDay))
  else
    .ok ()

def scheduledDay (clock : Clock) (order : OnlineOrder) : String :=
  match order.fulfillment.scheduledPickup with
  | some slot => slot.date
  | none => clock.phDayKey

/-- Claim a place in a washer's day; without a cap there is nothing to claim. -/
def reserveDailyCapSlot (clock : Clock) (washer : WasherProfile) :
    OrderProgram Unit := do
  let document ← remember
  let order := document.order
  match washer.maxOrdersPerDay with
  | none => pure ()
  | some cap =>
    -- The counter row only makes concurrent accepts conflict.
    query fun database => .ok ((), database)
    query fun database =>
      (assertUnderCap clock cap (database.countScheduled order.provider.branchId
          (scheduledDay clock order) (some order._id))
        (scheduledDay clock order)).map fun _ => ((), database)

def reserveDayOf (clock : Clock) :
    Option WasherProfile → OrderProgram Unit
  | some washer => reserveDailyCapSlot clock washer
  | none => pure ()

/-- The blanks `String.prototype.trim` takes off. -/
def isBlank (character : Char) : Bool :=
  let code := character.toNat
  (9 ≤ code && code ≤ 13) || code == 0x20 || code == 0xA0 ||
    code == 0x1680 || (0x2000 ≤ code && code ≤ 0x200A) ||
    code == 0x2028 || code == 0x2029 || code == 0x202F ||
    code == 0x205F || code == 0x3000 || code == 0xFEFF

/-- `String.prototype.trim`. -/
def trimmed (text : String) : String :=
  String.ofList (((text.toList.dropWhile isBlank).reverse.dropWhile isBlank).reverse)

def partnerName (actor : User) : String :=
  let name := trimmed (actor.firstName ++ " " ++ actor.lastName)
  if name = "" then actor._id else name

/-- Set the fee promotion of an order, marking `pricing`. -/
def OrderDocument.grantFeePromo (promo : PromoCode)
    (discountCentavos : ℤ) (document : OrderDocument) : OrderDocument :=
  document.assign .pricing fun order =>
    { order with
      pricing :=
        { order.pricing with
          platformFeePromoId := some promo._id
          platformFeePromoCode := some promo.code
          platformFeeDiscountCentavos := some discountCentavos } }

/--
Apply the fee promotion the provider is entitled to.  The slot is reserved
outside the transaction, and whatever fails is logged and forgotten.
-/
def applyPlatformFeePromo (clock : Clock) (actor : User) :
    OrderProgram Unit := do
  let document ← remember
  let order := document.order
  if truthy order.pricing.platformFeePromoId then
    pure ()
  else
    attempt do
      let found ← outside fun database =>
        (database.promotions.findPlatformFeePromoFor clock.now
          (roleIdOf actor) order.provider.branchId, database)
      match found with
      | none => pure ()
      | some promo =>
        let discount := order.pricing.waivablePlatformFeeCentavos
        let reserved ← outside fun database =>
          let (reserved, promotions) :=
            database.promotions.reserveForBranch promo._id
              order.provider.branchId order._id actor._id
              (partnerName actor) discount
          (reserved, database.putPromotions promotions)
        if reserved then
          edit (OrderDocument.grantFeePromo promo discount)
          saveDocument
        else
          pure ()

/-- Undo what an earlier run of `acceptOrder` did to status and version. -/
def OrderDocument.resetTransition (initialStatus : OrderStatus)
    (initialVersion : ℕ) (document : OrderDocument) : OrderDocument :=
  (document.assign .status fun order =>
    { order with status := initialStatus }).assign .version fun order =>
      { order with version := initialVersion }

def routeToPickup (clock : Clock) (actorUid : Uid) (actorRole : String) :
    OrderProgram Unit := do
  let document ← remember
  match document.order.fulfillment.pickupMode with
  | .providerPickup =>
    applyTransition clock .awaitingPickupAssignment actorUid actorRole none
  | .customerDropoff => pure ()

/-- The callback of `acceptOrder`. -/
def acceptInTransaction (clock : Clock) (actor : User)
    (initialStatus : OrderStatus) (initialVersion : ℕ)
    (washer : Option WasherProfile) : OrderProgram Unit := do
  edit (OrderDocument.resetTransition initialStatus initialVersion)
  reserveDayOf clock washer
  applyTransition clock .acceptedByProvider actor._id (roleIdOf actor) none
  applyPlatformFeePromo clock actor
  routeToPickup clock actor._id (roleIdOf actor)

/-- The callback of `respondToProviderChange`. -/
def respondInTransaction (clock : Clock) (customerUid : Uid)
    (approve : Bool) : OrderProgram Unit :=
  if approve then do
    applyTransition clock .acceptedByProvider customerUid "customer" none
    routeToPickup clock customerUid "customer"
  else
    applyTransition clock .cancelled customerUid "customer"
      (some "Customer declined proposed change")

/-- The callback of `recordPickupWeight`. -/
def recordWeightInTransaction (clock : Clock) (courier : User) :
    OrderProgram Unit := do
  saveDocument
  consumeOutstandingFee
  applyTransition clock .pickupWeighed courier._id (roleIdOf courier) none

def collectNowOrLater (clock : Clock) (actor : User)
    (input : PaymentCollectionFields) (collectNow : Bool) :
    OrderProgram Unit := do
  let document ← remember
  if collectNow then
    recordCollectionTransaction clock actor input document.order.outstandingCentavos .completed
  else
    pure ()

/-- The callback of `recordPickupPayment`. -/
def recordPaymentInTransaction (clock : Clock) (courier : User)
    (input : PaymentCollectionFields) (collectNow : Bool) :
    OrderProgram Unit := do
  saveDocument
  collectNowOrLater clock courier input collectNow
  applyTransition clock .pickedUpFromCustomer courier._id (roleIdOf courier) none
  applyTransition clock .laundryInProgress courier._id (roleIdOf courier) none

/-- The callback of `receiveAtCounter`. -/
def receiveInTransaction (clock : Clock) (actor : User)
    (input : PaymentCollectionFields) (collectNow : Bool) :
    OrderProgram Unit := do
  saveDocument
  collectNowOrLater clock actor input collectNow
  consumeOutstandingFee
  applyTransition clock .receivedByProvider actor._id (roleIdOf actor) none
  applyTransition clock .laundryInProgress actor._id (roleIdOf actor) none

/-! ## Handing over and giving up -/

/-- Collect what was outstanding when the call began, and the fee on it. -/
def settleOutstanding (clock : Clock) (actor : User)
    (input : PaymentCollectionFields) (outstanding : ℚ) :
    OrderProgram Unit := do
  let document ← remember
  if 0 < outstanding then
    recordCollectionTransaction clock actor input outstanding
      (if document.order.paymentSummary.collectedAt = none then
        .completed
      else
        .addOn)
    consumeOutstandingFee
  else
    pure ()

/-- The callback of `recordDelivery` and of `verifySelfPickup`. -/
def handOverInTransaction (clock : Clock) (actor : User)
    (input : PaymentCollectionFields) (outstanding : ℚ)
    (handedOver : OrderStatus) : OrderProgram Unit := do
  saveDocument
  settleOutstanding clock actor input outstanding
  applyTransition clock handedOver actor._id (roleIdOf actor) none
  applyTransition clock .completed actor._id (roleIdOf actor) none

def reverseConsumedFee (reversible : ℤ) : OrderProgram Unit := do
  let document ← remember
  if 0 < reversible then
    onWallets (WalletStore.reverseFee document.order.provider.branchId
      reversible document.order._id)
    edit (OrderDocument.setConsumed 0)
  else
    pure ()

/-- The callback of `abandonUnsettledOrder`. -/
def abandonInTransaction (clock : Clock) (reversible : ℤ)
    (actorUid : Uid) (actorRole note : String) : OrderProgram Unit := do
  reverseConsumedFee reversible
  saveDocument
  applyTransition clock .abandonedUnsettled actorUid actorRole (some note)

def creationEvent (orderId : ObjectId) (customerUid : Uid) : OrderEvent where
  orderId := orderId
  sequence := 1
  fromStatus := none
  toStatus := .draft
  actorUid := customerUid
  actorRole := "customer"
  note := none
  isTransition := false

/--
The callback of `createOrder`.  `book` is the check of the day that
`assertDayBookable` makes in the transaction.
-/
def createInTransaction (clock : Clock) (customerUid : Uid)
    (book : Database → Except ServiceError ScheduledPickup) :
    OrderProgram Unit := do
  let booked ← query fun database =>
    (book database).map fun slot => (slot, database)
  edit (OrderDocument.mutate fun order =>
    { order with
      fulfillment := { order.fulfillment with scheduledPickup := some booked } })
  saveDocument
  let saved ← remember
  query fun database =>
    .ok ((), database.createEvent (creationEvent saved.order._id customerUid))
  applyTransition clock .pricingValidated customerUid "customer" none
  applyTransition clock .pendingProviderAcceptance customerUid "customer" none

/-- The code a new order was priced with, and the total it was priced on. -/
structure PromoClaim where
  code : String
  orderTotalCentavos : ℚ

/-- A callback with what it has captured. -/
inductive Callback where
  | create (customerUid : Uid)
      (book : Database → Except ServiceError ScheduledPickup)
      (promo : Option PromoClaim)
  /-- With the transition a second `saveAndTransition` makes afterwards. -/
  | saveThenTransition (target : OrderStatus) (actorUid : Uid)
      (actorRole : String) (note : Option String)
      (followUp : Option OrderStatus)
  | accept (actor : User) (initialStatus : OrderStatus)
      (initialVersion : ℕ) (washer : Option WasherProfile)
  | respond (customerUid : Uid) (approve : Bool)
  | recordWeight (courier : User)
  | recordPayment (courier : User) (input : PaymentCollectionFields) (collectNow : Bool)
  | receive (actor : User) (input : PaymentCollectionFields) (collectNow : Bool)
  | handOver (actor : User) (input : PaymentCollectionFields)
      (outstanding : ℚ) (handedOver : OrderStatus)
  | abandon (reversible : ℤ) (actorUid : Uid) (actorRole note : String)

/-- The program of a callback, at the time of a run. -/
def Callback.program (clock : Clock) : Callback → OrderProgram Unit
  | .create customerUid book _ =>
    createInTransaction clock customerUid book
  | .saveThenTransition target actorUid actorRole note _ =>
    Orders.saveThenTransition clock target actorUid actorRole note
  | .accept actor initialStatus initialVersion washer =>
    acceptInTransaction clock actor initialStatus initialVersion washer
  | .respond customerUid approve =>
    respondInTransaction clock customerUid approve
  | .recordWeight courier => recordWeightInTransaction clock courier
  | .recordPayment courier input collectNow =>
    recordPaymentInTransaction clock courier input collectNow
  | .receive actor input collectNow =>
    receiveInTransaction clock actor input collectNow
  | .handOver actor input outstanding handedOver =>
    handOverInTransaction clock actor input outstanding handedOver
  | .abandon reversible actorUid actorRole note =>
    abandonInTransaction clock reversible actorUid actorRole note

end Lalaba.Orders
