import Lalaba.Orders.Callbacks
import Lalaba.Pos.Store

/-!
# The order service of the point of sale

What the methods of `PosOrdersService` check and what their transactions write.  A
transaction callback works on the database alone and remembers nothing, so a run
that is aborted and repeated is the run that commits.
-/

namespace Lalaba.Pos

open Orders (roundCentavos)

def InventoryUnit.text : InventoryUnit → String
  | .g => "g"
  | .kg => "kg"
  | .ml => "ml"
  | .L => "L"
  | .sachet => "sachet"
  | .pieces => "pieces"
  | .pack => "pack"
  | .box => "box"
  | .scoop => "scoop"

/-- `WEIGHT_TO_GRAMS`. -/
def InventoryUnit.weightToGrams : InventoryUnit → Option ℚ
  | .g => some 1
  | .kg => some 1000
  | _ => none

/-- `VOLUME_TO_ML`. -/
def InventoryUnit.volumeToMl : InventoryUnit → Option ℚ
  | .ml => some 1
  | .L => some 1000
  | _ => none

def InventoryUnit.ratio (fromUnit toUnit : InventoryUnit) : ℚ :=
  if fromUnit = toUnit then
    1
  else
    match fromUnit.weightToGrams, toUnit.weightToGrams with
    | some source, some target => source / target
    | _, _ =>
      match fromUnit.volumeToMl, toUnit.volumeToMl with
      | some source, some target => source / target
      | _, _ => 1

/-- `convertQuantity`; units without a fixed ratio are not converted. -/
def convertQuantity (quantity : ℚ) (fromUnit toUnit : Option InventoryUnit) :
    ℚ :=
  match fromUnit, toUnit with
  | some fromUnit, some toUnit => quantity * fromUnit.ratio toUnit
  | _, _ => quantity

/-! ## Stock -/

def insufficientStock (inventory : Inventory) (delta : ℚ) : ServiceError :=
  .badRequest ("Insufficient stock for \"" ++ inventory.productName ++
    "\". Needed " ++ toString |delta| ++ " " ++
    inventory.inventoryUnit.text ++ ", but only " ++
    toString inventory.stockQuantity ++ " " ++
    inventory.inventoryUnit.text ++ " available.")

/-- Who moves stock, and how it is recorded. -/
structure StockMover where
  uid : Uid
  createdBy : Uid
  createdByType : String

/--
Move the stock of an inventory item: a deduction is guarded by the stock in the
update itself, and the history records what was moved.
-/
def adjustStock (mover : StockMover) (type : TransactionType)
    (inventoryId : ObjectId) (delta : Inventory → ℚ) (store : PosStore) :
    Except ServiceError PosStore :=
  match store.findInventory inventoryId mover.uid with
  | none => .ok store
  | some inventory =>
    if delta inventory < 0 ∧
        inventory.stockQuantity < -delta inventory then
      .error (insufficientStock inventory (delta inventory))
    else
      .ok ((store.incrementStock inventoryId (delta inventory)).logTransaction
          { inventoryId
            type
            quantityChange := delta inventory
            createdBy := mover.createdBy
            createdByType := mover.createdByType })

def adjustServiceItemStock (consumable : DefaultProductItem)
    (mover : StockMover) (type : TransactionType) (signedQuantity : ℚ)
    (store : PosStore) : Except ServiceError PosStore :=
  adjustStock mover type consumable.inventoryId
    (fun inventory => convertQuantity signedQuantity consumable.unit (some inventory.inventoryUnit))
    store

def adjustProductItemStock (catalog : Catalog) (productId : ObjectId)
    (quantity : ℚ≥0) (mover : StockMover) (type : TransactionType)
    (store : PosStore) : Except ServiceError PosStore :=
  match catalog.products.lookup productId with
  | none => .ok store
  | some product =>
    adjustStock mover type product.inventoryId (fun inventory =>
        let perUnitQty := convertQuantity product.quantity
          (some product.productUnit) (some inventory.inventoryUnit)
        let magnitude := perUnitQty * quantity
        if type = .CONSUME then -magnitude else magnitude)
      store

def OrderItem.multiplier (item : OrderItem)
    (consumable : DefaultProductItem) : ℚ :=
  match consumable.per with
  | none => 1
  | some per => if per = .order then 1 else item.quantity

/-- What one item takes from the stock, or puts back. -/
def moveItem (catalog : Catalog) (mover : StockMover)
    (type : TransactionType) (item : OrderItem) (store : PosStore) :
    Except ServiceError PosStore :=
  match item.type, item.productId with
  | .service, _ =>
    (item.defaultProducts.filter fun consumable =>
      consumable.included).foldlM (fun store consumable =>
          let quantity := (consumable.quantity : ℚ) * item.multiplier consumable
          adjustServiceItemStock consumable mover type
            (if type = .CONSUME then -quantity else quantity) store)
        store
  | .product, some productId =>
    adjustProductItemStock catalog productId item.quantity mover type store
  | _, _ => .ok store

def deductInventory (catalog : Catalog) (items : List OrderItem)
    (mover : StockMover) (store : PosStore) :
    Except ServiceError PosStore :=
  items.foldlM (fun store item =>
    moveItem catalog mover .CONSUME item store) store

def returnInventory (catalog : Catalog) (items : List OrderItem)
    (mover : StockMover) (store : PosStore) :
    Except ServiceError PosStore :=
  items.foldlM (fun store item =>
    moveItem catalog mover .RETURN item store) store

def User.mover (user : User) (uid : Uid) : StockMover where
  uid
  createdBy := user._id
  createdByType := user.createdByType

structure OrderItemInput where
  type : OrderItemType
  serviceId : Option ObjectId := none
  serviceName : Option String := none
  defaultProducts : Option (List DefaultProductItem) := none
  productId : Option ObjectId := none
  quantity : ℚ≥0
  unitPrice : Option ℚ≥0 := none
deriving DecidableEq

/-- `calculateItemSubtotal` of a service item. -/
def calculateItemSubtotal (quantity : ℚ≥0) (service : Service) : ℚ :=
  match service.pricingType with
  | .perKiloWithBase =>
    if quantity ≤ service.baseKilos.getD 0 then
      service.price
    else
      service.price + ((quantity : ℚ) - service.baseKilos.getD 0) * service.excessRate.getD 0
  | _ => (quantity : ℚ) * service.price

/-- `calculateDiscount`; a percentage is rounded to two places. -/
def calculateDiscount (subtotal : ℚ) (discountType : Option DiscountType)
    (discountValue : Option ℚ≥0) : ℚ :=
  match discountType, discountValue with
  | some .flat, some value => min value subtotal
  | some .percentage, some value =>
    let capped := min (value : ℚ) 100
    let raw : ℚ := roundCentavos (subtotal * (capped / 100) * 100) / 100
    min raw subtotal
  | _, _ => 0

def resolveServiceItem (catalog : Catalog) (uid : Uid)
    (item : OrderItemInput) : Except ServiceError OrderItem :=
  match item.serviceId with
  | none => .error (.badRequest
      "Please select a valid service for each service item.")
  | some serviceId =>
    match (catalog.services.lookup serviceId).filter fun service =>
        service.uid = uid with
    | none => .error (.badRequest
        "One or more selected services could not be found.")
    | some service =>
      if service.isArchived then
        .error (.badRequest ("\"" ++ service.serviceName ++
          "\" has been archived and is no longer available."))
      else
        .ok
          { type := item.type
            serviceId := some serviceId
            serviceName := some service.serviceName
            serviceCode := service.serviceCode
            pricingType := some service.pricingType
            defaultProducts := item.defaultProducts.getD
              (service.defaultProducts.map fun consumable =>
                { consumable with included := true })
            quantity := item.quantity
            unitPrice := service.price
            subtotal := calculateItemSubtotal item.quantity service }

def resolveCustomItem (item : OrderItemInput) :
    Except ServiceError OrderItem :=
  if item.serviceName.all fun name => Orders.trimmed name = "" then
    .error (.badRequest "Custom items require a name (e.g. \"Delivery Fee\").")
  else
    match item.unitPrice with
    | none => .error (.badRequest "Custom items require a unit price.")
    | some unitPrice =>
      .ok
        { type := item.type
          serviceId := item.serviceId
          serviceName := item.serviceName
          quantity := item.quantity
          unitPrice
          subtotal := (item.quantity : ℚ) * unitPrice }

def resolveProductItem (catalog : Catalog) (uid : Uid)
    (item : OrderItemInput) (store : PosStore) :
    Except ServiceError OrderItem :=
  match item.productId with
  | none => .error (.badRequest
      "Please select a valid product for each product item.")
  | some productId =>
    match catalog.products.lookup productId with
    | none => .error (.badRequest
        "One or more selected products could not be found.")
    | some product =>
      if product.isArchived then
        .error (.badRequest ("\"" ++ product.productName ++
          "\" has been archived and is no longer available."))
      else
        match store.findInventory product.inventoryId uid with
        | none => .error (.badRequest
            "One or more selected products are not available.")
        | some inventory =>
          if inventory.isArchived then
            .error (.badRequest ("\"" ++ product.productName ++ "\" is no longer available."))
          else
            .ok
              { type := item.type
                productId := some productId
                productName := some product.productName
                quantity := item.quantity
                unitPrice := product.price
                subtotal := (item.quantity : ℚ) * product.price }

/-- One item of `resolveOrderItems`. -/
def resolveItem (catalog : Catalog) (uid : Uid) (store : PosStore)
    (item : OrderItemInput) : Except ServiceError OrderItem :=
  match item.type with
  | .custom => resolveCustomItem item
  | .service => resolveServiceItem catalog uid item
  | .product => resolveProductItem catalog uid item store

def resolveOrderItems (catalog : Catalog) (uid : Uid)
    (items : List OrderItemInput) (store : PosStore) :
    Except ServiceError (List OrderItem × ℚ) := do
  let resolvedItems ← items.mapM (resolveItem catalog uid store)
  return (resolvedItems, (resolvedItems.map OrderItem.subtotal).sum)

/-! ## Creating an order -/

structure CreateOrderInput where
  branchId : ObjectId
  customerName : Option String := none
  customerPhone : Option String := none
  customerAddress : Option String := none
  notes : Option String := none
  items : List OrderItemInput
  discountType : Option DiscountType := none
  discountValue : Option ℚ≥0 := none
  estimatedReadyAt : Option Instant := none
  fulfillmentType : Option FulfillmentType := none
  idempotencyKey : Option String := none

def grantsForBranch (branchAccess : List BranchAccessEntry)
    (branchId : ObjectId) : List ObjectId :=
  match branchAccess.find? fun entry => entry.branchId = branchId with
  | none => []
  | some entry => entry.permissionIds

/-- `holdsOnBranch`: one of the required permissions is granted there. -/
def holdsOnBranch (permissions : List Permission) (user : User)
    (branchId : ObjectId) (required : List String) : Bool :=
  permissions.any fun permission =>
    decide (permission.permissionName ∈ required) &&
      decide (permission._id ∈ grantsForBranch user.branchAccess branchId)

def validateBranchForOrder (catalog : Catalog) (branchId : ObjectId)
    (user : User) (activeBranchId : Option ObjectId) :
    Except ServiceError Unit :=
  match (catalog.branches.lookup branchId).filter fun branch =>
      branch.uid = user.getMerchantId with
  | none => .error (.badRequest
      "Branch not found or does not belong to you")
  | some branch =>
    if branch.isActive = false then
      .error (.badRequest "Branch is inactive")
    else if user.roleId ≠ some "staff" then
      .ok ()
    else if activeBranchId.any fun active => active != "" then
      if activeBranchId = some branchId then
        .ok ()
      else
        .error (.badRequest ("You can only create orders for the " ++
          "branch this device is assigned to"))
    else if branchId ∈ user.branchIds then
      .ok ()
    else
      .error (.badRequest "You are not assigned to this branch")

def assertMayDiscount (catalog : Catalog) (input : CreateOrderInput)
    (user : User) : Except ServiceError Unit :=
  if input.discountType ≠ none ∧ user.roleId = some "staff" ∧
      holdsOnBranch catalog.permissions user input.branchId ["order_apply_discount"] = false then
    .error (.forbidden "You do not have permission to apply discounts")
  else
    .ok ()

def PosStore.findByKey (uid : Uid) (idempotencyKey : Option String)
    (store : PosStore) : Bool :=
  idempotencyKey.any fun key =>
    key != "" && store.orders.entries.any fun entry =>
      entry.2.uid = uid ∧ entry.2.idempotencyKey = some key

/-- The row of a new order. -/
def newOrder (input : CreateOrderInput) (user : User) (claimCode : String)
    (resolvedItems : List OrderItem) (subtotal : ℚ) : PosOrder :=
  let discount := calculateDiscount subtotal input.discountType input.discountValue
  { uid := user.getMerchantId
    branchId := input.branchId
    createdBy := user._id
    createdByType := user.createdByType
    customerName := input.customerName
    customerPhone := input.customerPhone
    customerAddress := input.customerAddress
    paymentStatus := .unpaid
    laundryStatus := .pending
    subtotal
    discountType := input.discountType
    discountValue := input.discountValue
    discount
    totalAmount := subtotal - discount
    claimCode
    notes := input.notes
    fulfillmentType := input.fulfillmentType.getD .pickup
    idempotencyKey := input.idempotencyKey
    claimedBy := none
    items := resolvedItems
    estimatedReadyAt :=
      if resolvedItems.any fun item => item.type = .service then
        input.estimatedReadyAt
      else
        none
    claimedAt := none }

/--
The transaction of `create`.  `_id` and `claimCode` are drawn at random; a claim
code is drawn again until no order has it, and ids and claim codes are unique.
-/
def createInTransaction (catalog : Catalog) (orderId : ObjectId)
    (claimCode : String) (input : CreateOrderInput) (user : User)
    (store : PosStore) : Except ServiceError PosStore := do
  let uid := user.getMerchantId
  let (resolvedItems, subtotal) ← resolveOrderItems catalog uid input.items store
  if store.orders.lookup orderId ≠ none ∨ (store.orders.entries.any fun entry =>
        entry.2.claimCode = claimCode) then
    .error (.duplicateKey "claimCode_1")
  else
    deductInventory catalog resolvedItems (user.mover uid)
      (store.putOrder orderId (newOrder input user claimCode resolvedItems subtotal))

def PosStore.findOwn (orderId : ObjectId) (uid : Uid) (store : PosStore) :
    Except ServiceError PosOrder :=
  match (store.orders.lookup orderId).filter fun order =>
      order.uid = uid with
  | none => .error (.notFound "Order not found")
  | some order => .ok order

/-- `markInProgress`, up to its write. -/
def markInProgress (order : PosOrder) :
    Except ServiceError LaundryStatus :=
  if order.laundryStatus = .pending then
    .ok .inProgress
  else
    .error (.badRequest "Order must be pending to mark in progress")

/-- `markReady`, up to its write. -/
def markReady (order : PosOrder) : Except ServiceError LaundryStatus :=
  if order.laundryStatus = .inProgress then
    .ok .ready
  else
    .error (.badRequest "Order must be in progress to mark ready")

/-- `processPickup`, up to its write. -/
def assertClaimable (order : PosOrder) : Except ServiceError Unit :=
  if order.laundryStatus ≠ .ready then
    .error (.badRequest "Order must be ready for pickup")
  else if order.paymentStatus ≠ .paid then
    .error (.badRequest "Order must be paid before pickup")
  else
    .ok ()

structure ProcessPaymentInput where
  paymentMethod : PaymentMethod
  referenceId : Option String
  amountPaid : ℚ≥0
deriving DecidableEq

/--
The guard of `processPayment`: one update that finds the order unpaid and sets it
paid, and returns it as it was.
-/
def lockForPayment (orderId : ObjectId) (uid : Uid) (store : PosStore) :
    Option (PosOrder × PosStore) :=
  ((store.orders.lookup orderId).filter fun order =>
    order.uid = uid ∧ order.paymentStatus = .unpaid).map fun order =>
      (order, store.putOrder orderId { order with paymentStatus := .paid })

def paymentRefusal (order : PosOrder) (input : ProcessPaymentInput) :
    Option ServiceError :=
  if order.laundryStatus.calledOff then
    some (.badRequest "Cannot process payment on a cancelled or voided order")
  else if input.paymentMethod ≠ .cash ∧
      input.referenceId.all fun reference => reference = "" then
    some (.badRequest "A reference number is required for non-cash payments.")
  else if (input.amountPaid : ℚ) < order.totalAmount then
    some (.badRequest "Amount paid is less than total amount")
  else
    none

def paymentRow (orderId : ObjectId) (order : PosOrder)
    (input : ProcessPaymentInput) (user : User) : PosTransaction where
  orderId
  paymentMethod := some input.paymentMethod
  referenceId := input.referenceId
  totalAmount := order.totalAmount
  amountPaid := input.amountPaid
  change := (input.amountPaid : ℚ) - order.totalAmount
  status := .completed
  processedBy := user._id
  processedByType := user.createdByType

def completesSale (order : PosOrder) : Bool :=
  (order.items.all fun item => item.type ≠ .service) && decide (order.laundryStatus = .pending)

/-! ## Calling an order off -/

/-- `${notes} | ${label}: ${reason}`. -/
def addNote (label : String) (reason : Option String)
    (snapshot row : PosOrder) : PosOrder :=
  match reason.filter fun reason => reason != "" with
  | none => row
  | some reason =>
    { row with
      notes := some (match snapshot.notes.filter fun notes =>
          notes != "" with
        | some notes => notes ++ " | " ++ label ++ ": " ++ reason
        | none => label ++ ": " ++ reason) }

/-- `cancelOrder`, up to its transaction. -/
def assertCancellable (order : PosOrder) : Except ServiceError Unit :=
  if order.laundryStatus ≠ .pending ∧
      order.laundryStatus ≠ .inProgress then
    .error (.badRequest "Only pending or in-progress orders can be cancelled")
  else if order.paymentStatus = .paid then
    .error (.badRequest "Order is already paid. Use voidOrder instead")
  else
    .ok ()

/-- What the two ways to call an order off have been asked for. -/
structure CallOff where
  orderId : ObjectId
  uid : Uid
  user : User
  reason : Option String
  restoreInventory : Option Bool

def CallOff.cancelRestores (request : CallOff) : Bool := request.restoreInventory.getD true

/-- The transaction of `cancelOrder`, with the order as it was read. -/
def cancelInTransaction (catalog : Catalog) (request : CallOff)
    (order : PosOrder) (store : PosStore) :
    Except ServiceError PosStore := do
  let store ←
    if request.cancelRestores then
      returnInventory catalog order.items (request.user.mover request.uid) store
    else
      pure store
  return store.updateOrder request.orderId request.uid fun row =>
    addNote "Cancelled" request.reason order { row with laundryStatus := .cancelled }

/-- `voidOrder`, up to its transaction. -/
def assertVoidable (order : PosOrder) : Except ServiceError Unit :=
  if order.laundryStatus = .void then
    .error (.badRequest "Order is already voided")
  else if order.laundryStatus = .cancelled then
    .error (.badRequest "Cannot void a cancelled order")
  else
    .ok ()

def CallOff.voidRestores (request : CallOff) (order : PosOrder) : Bool :=
  request.restoreInventory.getD (order.laundryStatus ≠ .completed ∧ order.laundryStatus ≠ .claimed)

def refundRow (request : CallOff) (order : PosOrder) (store : PosStore) : PosTransaction where
  orderId := request.orderId
  paymentMethod :=
    ((store.payments request.orderId .completed).head?).bind PosTransaction.paymentMethod
  referenceId := none
  totalAmount := order.totalAmount
  amountPaid := order.totalAmount
  change := 0
  status := .refunded
  processedBy := request.user._id
  processedByType := request.user.createdByType

/-- The transaction of `voidOrder`, with the order as it was read. -/
def voidInTransaction (catalog : Catalog) (request : CallOff)
    (order : PosOrder) (store : PosStore) :
    Except ServiceError PosStore := do
  let refunded :=
    if order.paymentStatus = .paid then
      store.createTransaction (refundRow request order store)
    else
      store
  let returned ←
    if request.voidRestores order then
      returnInventory catalog order.items (request.user.mover request.uid) refunded
    else
      pure refunded
  return returned.updateOrder request.orderId request.uid fun row =>
    addNote "Voided" request.reason order { row with
        laundryStatus := .void
        paymentStatus :=
          if order.paymentStatus = .paid then .refunded else .unpaid }

/-- What `addOrderItems` has been asked for. -/
structure AddOn where
  orderId : ObjectId
  uid : Uid
  user : User
  items : List OrderItemInput
  payment : ProcessPaymentInput

/-- `addOrderItems`, up to its transaction. -/
def assertAddable (request : AddOn) (order : PosOrder) :
    Except ServiceError Unit :=
  if order.paymentStatus ≠ .paid then
    .error (.badRequest "Add-ons are only allowed on paid orders")
  else if order.laundryStatus = .claimed ∨
      order.laundryStatus.calledOff then
    .error (.badRequest "Cannot add items to a cancelled or voided order")
  else if request.items.any fun item =>
      item.type ≠ .product ∨ item.productId.all fun id => id = "" then
    .error (.badRequest "Add-ons must be product items only")
  else if request.payment.amountPaid = 0 then
    .error (.badRequest "Amount paid must be greater than 0")
  else
    .ok ()

def addOnRow (request : AddOn) (addOnSubtotal : ℚ) : PosTransaction where
  orderId := request.orderId
  paymentMethod := some request.payment.paymentMethod
  referenceId := request.payment.referenceId
  totalAmount := addOnSubtotal
  amountPaid := request.payment.amountPaid
  change := (request.payment.amountPaid : ℚ) - addOnSubtotal
  status := .addOn
  processedBy := request.user._id
  processedByType := request.user.createdByType

/--
The transaction of `addOrderItems`: the items are pushed onto those there are, the
totals are set from the order as it was read.
-/
def addOnInTransaction (catalog : Catalog) (request : AddOn)
    (order : PosOrder) (store : PosStore) :
    Except ServiceError PosStore := do
  let newItems ← request.items.mapM fun item =>
    resolveProductItem catalog request.uid item store
  let addOnSubtotal := (newItems.map OrderItem.subtotal).sum
  if (request.payment.amountPaid : ℚ) < addOnSubtotal then
    .error (.badRequest "Amount paid is less than add-on total")
  else do
    let deducted ← deductInventory catalog newItems
      (request.user.mover request.uid)
      (store.createTransaction (addOnRow request addOnSubtotal))
    let newSubtotal := order.subtotal + addOnSubtotal
    return deducted.updateOrder request.orderId request.uid fun row =>
      { row with
        items := row.items ++ newItems
        subtotal := newSubtotal
        totalAmount := newSubtotal - order.discount }

end Lalaba.Pos
