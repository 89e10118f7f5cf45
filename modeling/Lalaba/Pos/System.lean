import Lalaba.Foundation.Run
import Lalaba.Pos.Service

/-!
# Concurrent calls at the point of sale

Every read and every write of a call is a step, and so is a whole transaction.
Between any two of them other calls run.  Transactions that conflict are repeated
one after the other, with what their calls have read before.
-/

namespace Lalaba.Pos

open Foundation

/-! ## Calls in flight -/

/-- A manual change of stock: `restock`, `adjust` or `damage`. -/
structure StockChange where
  inventoryId : ObjectId
  type : TransactionType
  quantityChange : ℚ
  user : User

def StockChange.row (change : StockChange) : InventoryTransaction where
  inventoryId := change.inventoryId
  type := change.type
  quantityChange := change.quantityChange
  createdBy := change.user._id
  createdByType := change.user.createdByType

/-- A call, at the point where it waits, with the order as it has read it. -/
inductive Call where
  /-- `create`, about to run its transaction. -/
  | create (input : CreateOrderInput) (user : User)
  /-- `markInProgress` or `markReady`, about to write. -/
  | mark (orderId : ObjectId) (uid : Uid) (target : LaundryStatus)
  /-- `processPickup`, about to write. -/
  | pickup (orderId : ObjectId) (uid : Uid) (user : User)
  /-- `processPayment`, past its guard. -/
  | payment (orderId : ObjectId) (uid : Uid) (input : ProcessPaymentInput)
      (user : User) (order : PosOrder)
  /-- `processPayment`, with its payment recorded. -/
  | paid (orderId : ObjectId) (uid : Uid) (order : PosOrder)
  /-- `cancelOrder`, about to run its transaction. -/
  | cancel (request : CallOff) (order : PosOrder)
  /-- `voidOrder`, about to run its transaction. -/
  | void (request : CallOff) (order : PosOrder)
  /-- `addOrderItems`, about to run its transaction. -/
  | addOn (request : AddOn) (order : PosOrder)
  | change (change : StockChange)
  | log (change : StockChange)

/-- What a transaction was for. -/
inductive Cause where
  | created (uid : Uid) (idempotencyKey : Option String)
  | addedOn
  | calledOff
deriving DecidableEq

/-- The stock that a committed transaction of an order has moved. -/
structure Movement where
  orderId : ObjectId
  cause : Cause
  rows : List InventoryTransaction

/--
The collections and the calls in flight.  `movements` is not stored anywhere: it
tells which rows of the stock's history were written for which order.
-/
structure State where
  store : PosStore
  calls : List Call
  movements : List Movement

namespace State

def start (inventory : Collection Inventory) : State where
  store :=
    { orders := ∅
      transactions := []
      inventory
      inventoryTransactions := [] }
  calls := []
  movements := []

def begin (call : Call) (state : State) : State := { state with calls := state.calls ++ [call] }

def advance (index : ℕ) (call : Call) (state : State) : State :=
  { state with calls := state.calls.set index call }

def finish (index : ℕ) (state : State) : State := { state with calls := state.calls.eraseIdx index }

def write (store : PosStore) (state : State) : State := { state with store }

def note (orderId : ObjectId) (cause : Cause) (before : PosStore)
    (state : State) : State :=
  { state with
    movements := state.movements ++
      [{ orderId
         cause
         rows := state.store.inventoryTransactions.drop before.inventoryTransactions.length }] }

def transact (orderId : ObjectId) (cause : Cause)
    (ran : Except ServiceError PosStore) (state : State) : State :=
  match ran with
  | .error _ => state
  | .ok store => (state.write store).note orderId cause state.store

end State

/-! ## Steps -/

/-- What can happen next. -/
inductive Action where
  | create (input : CreateOrderInput) (user : User) (activeBranchId : Option ObjectId)
  | markInProgress (orderId : ObjectId) (uid : Uid)
  | markReady (orderId : ObjectId) (uid : Uid)
  | processPayment (orderId : ObjectId) (uid : Uid) (input : ProcessPaymentInput) (user : User)
  | processPickup (orderId : ObjectId) (uid : Uid) (user : User)
  | cancelOrder (request : CallOff)
  | voidOrder (request : CallOff)
  | addOrderItems (request : AddOn)
  | restock (inventoryId : ObjectId) (uid : Uid) (quantity : ℚ≥0) (user : User)
  | adjust (inventoryId : ObjectId) (uid : Uid) (quantityChange : ℚ) (user : User)
  | damage (inventoryId : ObjectId) (uid : Uid) (quantity : ℚ≥0) (user : User)
  | proceed (index : ℕ) (orderId : ObjectId) (claimCode : String) (now : Instant)

def stepRead (orderId : ObjectId) (uid : Uid)
    (next : PosOrder → Except ServiceError Call) (state : State) :
    Option State :=
  match state.store.findOwn orderId uid with
  | .error _ => none
  | .ok order => (next order).toOption.map fun call => state.begin call

def stepChange (uid : Uid) (change : StockChange)
    (check : Inventory → Except ServiceError Unit) (state : State) :
    Option State :=
  match state.store.findInventory change.inventoryId uid with
  | none => none
  | some inventory =>
    if inventory.isArchived then
      none
    else
      (check inventory).toOption.map fun _ =>
        state.begin (.change change)

/-- The check of `adjust`. -/
def assertAdjustable (quantityChange : ℚ) (inventory : Inventory) :
    Except ServiceError Unit :=
  if inventory.stockQuantity + quantityChange < 0 then
    .error (.badRequest "Adjustment would result in negative stock quantity")
  else
    .ok ()

/-- The check of `damage`. -/
def assertDamageable (quantity : ℚ) (inventory : Inventory) :
    Except ServiceError Unit :=
  if inventory.stockQuantity < quantity then
    .error (.badRequest ("Cannot damage " ++ toString quantity ++
      " — only " ++ toString inventory.stockQuantity ++ " in stock"))
  else
    .ok ()

/-- `processPayment` past its guard: undo it, or record the payment. -/
def stepPayment (index : ℕ) (orderId : ObjectId) (uid : Uid)
    (input : ProcessPaymentInput) (user : User) (order : PosOrder)
    (state : State) : State :=
  match paymentRefusal order input with
  | some _ =>
    (state.write (state.store.updateOrder orderId uid fun row =>
      { row with paymentStatus := .unpaid })).finish index
  | none =>
    (state.write (state.store.createTransaction
      (paymentRow orderId order input user))).advance index (.paid orderId uid order)

/-- A call takes its next step. -/
def stepCall (catalog : Catalog) (index : ℕ) (newId : ObjectId)
    (claimCode : String) (now : Instant) (state : State) : Call → State
  | .create input user =>
    (state.transact newId (.created user.getMerchantId input.idempotencyKey)
      (createInTransaction catalog newId claimCode input user state.store)).finish index
  | .mark orderId uid target =>
    (state.write (state.store.updateOrder orderId uid fun row =>
      { row with laundryStatus := target })).finish index
  | .pickup orderId uid user =>
    (state.write (state.store.updateOrder orderId uid fun row =>
      { row with
        laundryStatus := .claimed
        claimedBy := some user._id
        claimedAt := some now })).finish index
  | .payment orderId uid input user order =>
    stepPayment index orderId uid input user order state
  | .paid orderId uid order =>
    (state.write (state.store.updateOrder orderId uid fun row =>
      if completesSale order then
        { row with laundryStatus := .completed }
      else
        row)).finish index
  | .cancel request order =>
    (state.transact request.orderId .calledOff
      (cancelInTransaction catalog request order state.store)).finish index
  | .void request order =>
    (state.transact request.orderId .calledOff
      (voidInTransaction catalog request order state.store)).finish index
  | .addOn request order =>
    (state.transact request.orderId .addedOn
      (addOnInTransaction catalog request order state.store)).finish index
  | .change change =>
    (state.write (state.store.incrementStock change.inventoryId
      change.quantityChange)).advance index (.log change)
  | .log change =>
    (state.write (state.store.logTransaction change.row)).finish index

/-- One step; `none` when it is refused without a write. -/
def step (catalog : Catalog) : Action → State → Option State
  | .create input user activeBranchId, state =>
    if state.store.findByKey user.getMerchantId input.idempotencyKey then
      none
    else
      (validateBranchForOrder catalog input.branchId user activeBranchId >>= fun _ =>
        assertMayDiscount catalog input user).toOption.map fun _ =>
          state.begin (.create input user)
  | .markInProgress orderId uid, state =>
    stepRead orderId uid (fun order =>
      (markInProgress order).map (Call.mark orderId uid)) state
  | .markReady orderId uid, state =>
    stepRead orderId uid (fun order =>
      (markReady order).map (Call.mark orderId uid)) state
  | .processPayment orderId uid input user, state =>
    (lockForPayment orderId uid state.store).map fun (order, store) =>
      (state.write store).begin (.payment orderId uid input user order)
  | .processPickup orderId uid user, state =>
    stepRead orderId uid (fun order =>
      (assertClaimable order).map fun _ => .pickup orderId uid user)
      state
  | .cancelOrder request, state =>
    stepRead request.orderId request.uid (fun order =>
      (assertCancellable order).map fun _ => .cancel request order) state
  | .voidOrder request, state =>
    stepRead request.orderId request.uid (fun order =>
      (assertVoidable order).map fun _ => .void request order) state
  | .addOrderItems request, state =>
    stepRead request.orderId request.uid (fun order =>
      (assertAddable request order).map fun _ => .addOn request order)
      state
  | .restock inventoryId uid quantity user, state =>
    stepChange uid
      { inventoryId, type := .RESTOCK, quantityChange := quantity, user }
      (fun _ => .ok ()) state
  | .adjust inventoryId uid quantityChange user, state =>
    stepChange uid
      { inventoryId, type := .ADJUSTMENT, quantityChange, user }
      (assertAdjustable quantityChange) state
  | .damage inventoryId uid quantity user, state =>
    stepChange uid
      { inventoryId
        type := .DAMAGE
        quantityChange := -(quantity : ℚ)
        user }
      (assertDamageable quantity) state
  | .proceed index orderId claimCode now, state =>
    state.calls[index]?.map (stepCall catalog index orderId claimCode now state)

def posSystem (catalog : Catalog) : System State Action := { step := step catalog }

end Lalaba.Pos
