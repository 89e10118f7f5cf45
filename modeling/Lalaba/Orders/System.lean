import Lalaba.Orders.Creation
import Lalaba.Wallets.System

/-!
# Concurrent calls of the order service

A call in flight is a transaction with the document it works on, or one of the
writes the service makes outside a transaction.  Reading the order and the
guards of a method are one step, a committed transaction is one step, and so is
every single write; between any two of them other calls run.  Transactions on
one order conflict, so the run of a callback that commits is atomic; a run that
the database aborts leaves what it did to the document in memory.

The wallet service runs beside the order service on the same wallets.
-/

namespace Lalaba.Orders

open Foundation
open Foundation.Program
open Promotions

/-! ## Calls in flight -/

/-- A call of the service, at the point where it waits. -/
inductive Call where
  /--
  In a transaction.  `prepared` is the document before the first run of the
  callback, `document` the document now; `operation` is `none` for `createOrder`.
  -/
  | transaction (operation : Option Operation) (callback : Callback)
      (prepared document : OrderDocument)
  | save (document : OrderDocument)
  | audit (event : OrderEvent)
  /-- `createOrder`, about to reserve the promo of its order. -/
  | reserve (claim : PromoClaim) (document : OrderDocument)

/--
The collections, the calls in flight, and the orders a sweep has found expired
and not yet taken up.  `vetted` is not stored anywhere: it lists the couriers
that passed `assertAssignableCourier` for an order.  The last two fields are the
state of the wallet service beside its collections.
-/
structure State where
  database : Database
  calls : List Call
  expired : List ObjectId
  vetted : List (ObjectId × Uid)
  topUps : List Wallets.Call
  acknowledged : List ObjectId

namespace State

/-- Before the first call. -/
def start : State where
  database :=
    { orders := ∅
      events := []
      transactions := []
      wallets := .empty
      promotions := { promos := [], redemptions := [] } }
  calls := []
  expired := []
  vetted := []
  topUps := []
  acknowledged := []

def begin (call : Call) (state : State) : State := { state with calls := state.calls ++ [call] }

def advance (index : ℕ) (call : Call) (state : State) : State :=
  { state with calls := state.calls.set index call }

def finish (index : ℕ) (state : State) : State := { state with calls := state.calls.eraseIdx index }

def write (database : Database) (state : State) : State := { state with database }

/--
Take an order off the sweep's list; only the sweep gives up on orders, and only
on those it has found.
-/
def claimExpired (orderId : ObjectId) (operation : Operation)
    (state : State) : Option State :=
  if operation = .abandonUnsettledOrder then
    if orderId ∈ state.expired then
      some { state with expired := state.expired.erase orderId }
    else
      none
  else
    some state

def vet (orderId : ObjectId) (operation : Operation) (state : State) :
    State :=
  match operation with
  | .assignPickupStaff staffUid | .assignReturnStaff staffUid =>
    { state with vetted := state.vetted ++ [(orderId, staffUid)] }
  | _ => state

end State

/-! ## Steps -/

/-- The audit row that `appendAuditEvent` is about to insert. -/
def auditEvent (actor : User) (note : String) (order : OnlineOrder)
    (database : Database) : OrderEvent where
  orderId := order._id
  sequence := database.lastSequence order._id + 1
  fromStatus := some order.status
  toStatus := order.status
  actorUid := actor._id
  actorRole := roleIdOf actor
  note := some note
  isTransition := false

/-- `createOrder` up to its transaction. -/
def stepCreate (market : Market) (clock : Clock) (customer : User)
    (input : CreateOrderInput) (orderId : ObjectId) (state : State) :
    Option State :=
  match createOrder market clock customer input orderId state.database with
  | .error _ => none
  | .ok (callback, document) =>
    some (state.begin (.transaction none callback document document))

/-- A method up to its transaction, or to its one write. -/
def stepRequest (environment : Environment) (clock : Clock)
    (actor : User) (orderId : ObjectId) (operation : Operation)
    (state : State) : Option State :=
  match state.claimExpired orderId operation, state.database.orders.lookup orderId with
  | some state, some order =>
    match operation.prepare environment clock actor state.database order with
    | .error _ => none
    | .ok .unchanged => some state
    | .ok (.refuse note) =>
      some (state.begin (.audit (auditEvent actor note order state.database)))
    | .ok (.saveOnly document) => some (state.begin (.save document))
    | .ok (.transaction callback document) =>
      some ((state.vet orderId operation).begin
        (.transaction (some operation) callback document document))
  | _, _ => none

def Callback.followUp (operation : Option Operation)
    (document : OrderDocument) : Callback → Option Call
  | .saveThenTransition _ actorUid actorRole _ (some target) =>
    some (.transaction operation
      (.saveThenTransition target actorUid actorRole none none)
      document.markAssignments document.markAssignments)
  | .create _ _ (some claim) => some (.reserve claim document)
  | _ => none

def stepCommit (index : ℕ) (clock : Clock) (operation : Option Operation)
    (callback : Callback) (document : OrderDocument) (state : State) :
    State :=
  match (callback.program clock).commit state.database document with
  | (.ok _, database, document) =>
    match callback.followUp operation document with
    | some call => (state.write database).advance index call
    | none => (state.write database).finish index
  | (.error _, database, _) => (state.write database).finish index

def stepAbort (index budget : ℕ) (clock : Clock)
    (operation : Option Operation) (callback : Callback)
    (prepared document : OrderDocument) (state : State) : Option State :=
  match (callback.program clock).runOnce (some budget) state.database document with
  | (.error (.thrown _), _) => none
  | (_, after) =>
    some ((state.write after.durable).advance index
      (.transaction operation callback prepared after.memory))

def stepSave (index : ℕ) (document : OrderDocument) (state : State) :
    State :=
  match document.save (state.database.orders.lookup document.order._id) with
  | .error _ => state.finish index
  | .ok (row, _) =>
    (state.write (state.database.putOrder document.order._id row)).finish index

def stepAudit (index : ℕ) (event : OrderEvent) (state : State) : State :=
  if state.database.events.any fun other =>
      other.orderId == event.orderId && other.sequence == event.sequence then
    state.finish index
  else
    (state.write (state.database.createEvent event)).finish index

/-- Stamp the promo a new order holds, marking `pricing`. -/
def OrderDocument.stampPromo (promoId : ObjectId)
    (document : OrderDocument) : OrderDocument :=
  document.assign .pricing fun order =>
    { order with
      pricing := { order.pricing with promoId := some promoId } }

def customerName (environment : Environment) (customerUid : Uid) :
    String :=
  match environment.users customerUid with
  | none => customerUid
  | some user =>
    let name := trimmed (user.firstName ++ " " ++ user.lastName)
    if name = "" then user.email else name

/-- The reservation of a new order's promo; a failure is only logged. -/
def stepReserve (index : ℕ) (environment : Environment) (clock : Clock)
    (claim : PromoClaim) (document : OrderDocument) (state : State) :
    State :=
  let customerUid := document.order.customer.uid
  match state.database.promotions.reserve clock.now claim.code
      (redeemerOf environment state.database customerUid) customerUid
      (customerName environment customerUid) claim.orderTotalCentavos
      document.order._id with
  | .error _ => state.finish index
  | .ok (promoId, promotions) =>
    (state.write (state.database.putPromotions promotions)).advance index
      (.save (document.stampPromo promoId))

def stepCall (index : ℕ) (environment : Environment) (clock : Clock)
    (state : State) : Call → State
  | .transaction operation callback _ document =>
    stepCommit index clock operation callback document state
  | .save document => stepSave index document state
  | .audit event => stepAudit index event state
  | .reserve claim document =>
    stepReserve index environment clock claim document state

/-- `sweepAbandonedOrders`: the waiting orders whose deadline has passed. -/
def expiredOrders (clock : Clock) (database : Database) :
    List ObjectId :=
  (database.orders.entries.filter fun entry =>
    entry.2.status.abandonmentWaiting && entry.2.abandonmentDeadlineAt.any fun deadline =>
        decide (deadline ≤ clock.now)).map Sigma.fst

/-- A step of the wallet service that no order takes part in. -/
def stepWallet (castToObjectId : String → Option ObjectId)
    (action : Wallets.Action) (state : State) : Option State :=
  if action.movesFee then
    none
  else
    match Wallets.step castToObjectId action
        { store := state.database.wallets
          calls := state.topUps
          acknowledged := state.acknowledged } with
    | none => none
    | some after =>
      some { state with
          database := state.database.putWallets after.store
          topUps := after.calls
          acknowledged := after.acknowledged }

/-- What can happen next. -/
inductive Action where
  | create (market : Market) (clock : Clock) (customer : User)
      (input : CreateOrderInput) (orderId : ObjectId)
  | request (environment : Environment) (clock : Clock) (actor : User)
      (orderId : ObjectId) (operation : Operation)
  | commit (index : ℕ) (environment : Environment) (clock : Clock)
  | abort (index budget : ℕ) (clock : Clock)
  | crash (index : ℕ)
  | sweep (clock : Clock)
  | wallet (action : Wallets.Action)
  | editPromos (promos : List PromoCode)

/-- One step; `none` when it is refused without a write. -/
def step (castToObjectId : String → Option ObjectId) :
    Action → State → Option State
  | .create market clock customer input orderId, state =>
    stepCreate market clock customer input orderId state
  | .request environment clock actor orderId operation, state =>
    stepRequest environment clock actor orderId operation state
  | .commit index environment clock, state =>
    state.calls[index]?.map (stepCall index environment clock state)
  | .abort index budget clock, state =>
    match state.calls[index]? with
    | some (.transaction operation callback prepared document) =>
      stepAbort index budget clock operation callback prepared document state
    | _ => none
  | .crash index, state => some (state.finish index)
  | .sweep clock, state =>
    some { state with
      expired := state.expired ++ expiredOrders clock state.database }
  | .wallet action, state => stepWallet castToObjectId action state
  | .editPromos promos, state =>
    some (state.write (state.database.putPromotions { state.database.promotions with promos }))

def orderSystem (castToObjectId : String → Option ObjectId) :
    System State Action :=
  { step := step castToObjectId }

end Lalaba.Orders
