import Lalaba.Orders.Pricing

/-!
# The collections of the point of sale

Counter orders with their items, the payments taken for them, the inventory of a
merchant, and the history of its stock.  Prices and quantities are exact
rationals; what the validation of an input requires to be positive is so by type.
-/

namespace Lalaba.Pos

open Orders (PricingType)

/-! ## Accounts and the catalogue -/

/-- The permissions a staff member has been granted on one branch. -/
structure BranchAccessEntry where
  branchId : ObjectId
  permissionIds : List ObjectId
deriving DecidableEq

/-- The fields of an account that the point of sale reads. -/
structure User where
  _id : Uid
  roleId : Option String
  merchantId : Option Uid
  branchIds : List ObjectId
  branchAccess : List BranchAccessEntry
deriving DecidableEq

/-- `getMerchantId`: staff act for the merchant they work for. -/
def User.getMerchantId (user : User) : Uid :=
  if user.roleId = some "staff" then user.merchantId.getD ""
  else user._id

def User.createdByType (user : User) : String := user.roleId.getD "unknown"

inductive InventoryUnit where
  | g
  | kg
  | ml
  | L
  | sachet
  | pieces
  | pack
  | box
  | scoop
deriving DecidableEq

inductive DefaultProductPer where
  | order
  | kg
  | load
  | pc
deriving DecidableEq

/-- A consumable that a service uses up. -/
structure DefaultProduct where
  inventoryId : ObjectId
  productName : String
  quantity : ℚ≥0
  unit : Option InventoryUnit
  per : Option DefaultProductPer
deriving DecidableEq

structure Service where
  uid : Uid
  serviceName : String
  serviceCode : Option String
  price : ℚ≥0
  pricingType : PricingType
  baseKilos : Option ℚ≥0
  excessRate : Option ℚ≥0
  defaultProducts : List DefaultProduct
  isArchived : Bool

structure Product where
  inventoryId : ObjectId
  productName : String
  price : ℚ≥0
  quantity : ℚ≥0
  productUnit : InventoryUnit
  isArchived : Bool

/-- A permission by its id. -/
structure Permission where
  _id : ObjectId
  permissionName : String

/-- What the calls read and never write. -/
structure Catalog where
  services : Collection Service
  products : Collection Product
  branches : Collection Branch
  permissions : List Permission

/-! ## Orders -/

inductive PaymentStatus where
  | unpaid
  | paid
  | refunded
deriving DecidableEq

inductive LaundryStatus where
  | pending
  | inProgress
  | ready
  | completed
  | claimed
  | cancelled
  | void
deriving DecidableEq

def LaundryStatus.calledOff (status : LaundryStatus) : Bool := status = .cancelled ∨ status = .void

inductive DiscountType where
  | flat
  | percentage
deriving DecidableEq

inductive OrderItemType where
  | service
  | product
  | custom
deriving DecidableEq

inductive FulfillmentType where
  | pickup
  | delivery
deriving DecidableEq

/-- A consumable of an item, used or left out. -/
structure DefaultProductItem extends DefaultProduct where
  included : Bool
deriving DecidableEq

structure OrderItem where
  type : OrderItemType
  serviceId : Option ObjectId := none
  serviceName : Option String := none
  serviceCode : Option String := none
  pricingType : Option PricingType := none
  defaultProducts : List DefaultProductItem := []
  productId : Option ObjectId := none
  productName : Option String := none
  quantity : ℚ≥0
  unitPrice : ℚ≥0
  subtotal : ℚ
deriving DecidableEq

structure PosOrder where
  uid : Uid
  branchId : ObjectId
  createdBy : Uid
  createdByType : String
  customerName : Option String
  customerPhone : Option String
  customerAddress : Option String
  paymentStatus : PaymentStatus
  laundryStatus : LaundryStatus
  subtotal : ℚ
  discountType : Option DiscountType
  discountValue : Option ℚ≥0
  discount : ℚ
  totalAmount : ℚ
  claimCode : String
  notes : Option String
  fulfillmentType : FulfillmentType
  idempotencyKey : Option String
  claimedBy : Option Uid
  items : List OrderItem
  estimatedReadyAt : Option Instant
  claimedAt : Option Instant
deriving DecidableEq

inductive PaymentMethod where
  | cash
  | gcash
  | maya
  | qph
  | card
  | bankTransfer
deriving DecidableEq

inductive TransactionStatus where
  | completed
  | refunded
  | addOn
deriving DecidableEq

structure PosTransaction where
  orderId : ObjectId
  paymentMethod : Option PaymentMethod
  referenceId : Option String
  totalAmount : ℚ
  amountPaid : ℚ
  change : ℚ
  status : TransactionStatus
  processedBy : Uid
  processedByType : String
deriving DecidableEq

structure Inventory where
  uid : Uid
  productName : String
  inventoryUnit : InventoryUnit
  stockQuantity : ℚ
  isArchived : Bool
deriving DecidableEq

inductive TransactionType where
  | RESTOCK
  | CONSUME
  | RETURN
  | ADJUSTMENT
  | DAMAGE
deriving DecidableEq

structure InventoryTransaction where
  inventoryId : ObjectId
  type : TransactionType
  quantityChange : ℚ
  createdBy : Uid
  createdByType : String
deriving DecidableEq

/-- The collections. -/
structure PosStore where
  orders : Collection PosOrder
  transactions : List PosTransaction
  inventory : Collection Inventory
  inventoryTransactions : List InventoryTransaction

namespace PosStore

def putOrder (orderId : ObjectId) (row : PosOrder) (store : PosStore) :
    PosStore :=
  { store with orders := store.orders.insert orderId row }

/-- `findOneAndUpdate` of an order by its id and its merchant. -/
def updateOrder (orderId : ObjectId) (uid : Uid)
    (change : PosOrder → PosOrder) (store : PosStore) : PosStore :=
  match store.orders.lookup orderId with
  | none => store
  | some row =>
    if row.uid = uid then store.putOrder orderId (change row)
    else store

def createTransaction (transaction : PosTransaction) (store : PosStore) :
    PosStore :=
  { store with transactions := store.transactions ++ [transaction] }

def findInventory (inventoryId : ObjectId) (uid : Uid)
    (store : PosStore) : Option Inventory :=
  (store.inventory.lookup inventoryId).filter fun item =>
    item.uid = uid

/-- `$inc` the stock of an inventory item. -/
def incrementStock (inventoryId : ObjectId) (delta : ℚ)
    (store : PosStore) : PosStore :=
  match store.inventory.lookup inventoryId with
  | none => store
  | some item =>
    { store with
      inventory := store.inventory.insert inventoryId
        { item with stockQuantity := item.stockQuantity + delta } }

def logTransaction (row : InventoryTransaction) (store : PosStore) :
    PosStore :=
  { store with
    inventoryTransactions := store.inventoryTransactions ++ [row] }

def payments (orderId : ObjectId) (status : TransactionStatus)
    (store : PosStore) : List PosTransaction :=
  store.transactions.filter fun row =>
    row.orderId = orderId ∧ row.status = status

end PosStore

end Lalaba.Pos
