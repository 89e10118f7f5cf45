import Lalaba.Orders.Order
import Lalaba.Promotions.Store
import Lalaba.Wallets.Store

/-!
# The database of the order service

The collections an order operation reads and writes, and what it reads of the
accounts, branches and washers around them.
-/

namespace Lalaba.Orders

open Foundation
open Promotions
open Wallets

/-! ## Rows -/

/--
A row of the order's timeline.  `isTransition` is not stored: it tells the rows
of transitions from audit rows, which repeat the status they find.
-/
structure OrderEvent where
  orderId : ObjectId
  sequence : ℕ
  fromStatus : Option OrderStatus
  toStatus : OrderStatus
  actorUid : Uid
  actorRole : String
  note : Option String
  isTransition : Bool
deriving DecidableEq

inductive OnlineTransactionStatus where
  | completed
  | refunded
  | addOn
deriving DecidableEq

/-- One collection of money. -/
structure OnlineTransaction where
  orderId : ObjectId
  paymentMethod : PaymentMethod
  referenceId : Option String
  amountCentavos : ℚ
  tenderedCentavos : Option ℕ
  changeCentavos : Option ℚ
  status : OnlineTransactionStatus
  collectedByUid : Uid
  collectedByRole : String
deriving DecidableEq

/-- The collections. -/
structure Database where
  orders : Collection OnlineOrder
  events : List OrderEvent
  transactions : List OnlineTransaction
  wallets : WalletStore
  promotions : PromotionStore

namespace Database

def lastSequence (orderId : ObjectId) (database : Database) : ℕ :=
  ((database.events.filter fun event => event.orderId = orderId).map
    OrderEvent.sequence).foldr max 0

def createEvent (event : OrderEvent) (database : Database) : Database :=
  { database with events := database.events ++ [event] }

def createTransaction (transaction : OnlineTransaction)
    (database : Database) : Database :=
  { database with transactions := database.transactions ++ [transaction] }

def putOrder (orderId : ObjectId) (row : OnlineOrder)
    (database : Database) : Database :=
  { database with orders := database.orders.insert orderId row }

def putWallets (wallets : WalletStore) (database : Database) : Database := { database with wallets }

def putPromotions (promotions : PromotionStore) (database : Database) :
    Database :=
  { database with promotions }

end Database

/-- The fields of an account that the order service reads. -/
structure User where
  _id : Uid
  roleId : Option String
  merchantId : Option Uid
  branchIds : List ObjectId
  isActive : Bool
  isArchived : Bool
  selfieStatus : Option String
  firstName : String
  lastName : String
  email : String

/-- `roleIdOf`: an account without a role counts as `unknown`. -/
def roleIdOf (user : User) : String := user.roleId.getD "unknown"

/-- The fields of a washer profile that an order operation reads. -/
structure WasherProfile where
  uid : Uid
  storeName : String
  isActive : Bool
  isAvailable : Bool
  maxOrdersPerDay : Option ℕ
  serviceRadiusKm : Option ℚ
  latitude : Option ℚ
  longitude : Option ℚ
  offeredServiceTemplateIds : List ObjectId

/--
What surrounds the order collections while a call runs.  The two distances are
the haversine formula in floating point, which no result depends on.
-/
structure Environment where
  branches : ObjectId → Option Branch
  users : Uid → Option User
  washers : ObjectId → Option WasherProfile
  distanceMeters : ℚ → ℚ → ℚ → ℚ → ℚ
  distanceKm : ℚ → ℚ → ℚ → ℚ → ℚ

/-- The time a run sees: `new Date()` and the day key of the Philippines. -/
structure Clock where
  now : Instant
  phDayKey : String

abbrev OrderProgram (Value : Type) : Type := Program Database OrderDocument ServiceError Value

/-- The branch's owner, or staff of the owner assigned to the branch. -/
def assertBranchOwnership (environment : Environment)
    (branchId : ObjectId) (actor : User) : Except ServiceError Unit :=
  match environment.branches branchId with
  | none => .error (.forbidden "You do not manage this branch")
  | some branch =>
    if branch.uid = actor._id then
      .ok ()
    else if actor.roleId = some "staff" ∧
        actor.merchantId = some branch.uid ∧
        branchId ∈ actor.branchIds then
      .ok ()
    else
      .error (.forbidden "You do not manage this branch")

def assertOwnOrder (order : OnlineOrder) (actor : User) :
    Except ServiceError Unit :=
  if order.customer.uid = actor._id then
    .ok ()
  else
    .error (.forbidden "Not your order")

def assertAssignedCourier (order : OnlineOrder) (leg : CourierLeg)
    (actorUid : Uid) : Except ServiceError Unit :=
  match order.assignment leg with
  | none => .error (.forbidden "You are not assigned to this leg")
  | some assignment =>
    if assignment.assignedStaffUid = some actorUid then
      .ok ()
    else
      .error (.forbidden "You are not assigned to this leg")

/--
`assertAssignableCourier`, without its audit row: why this uid may not be given
a leg of the order, or `none` when it may.
-/
def courierRejection (environment : Environment) (order : OnlineOrder)
    (staffUid : Uid) : Option String :=
  if order.provider.providerType = .washer ∧
      staffUid = order.provider.providerUid then
    none
  else
    match environment.users staffUid with
    | none => some "staff user not found, inactive, or archived"
    | some staff =>
      if staff.isActive = false ∨ staff.isArchived = true then
        some "staff user not found, inactive, or archived"
      else if roleIdOf staff ≠ "courier" then
        some ("user role '" ++ roleIdOf staff ++ "' is not courier")
      else if staff.selfieStatus ≠ some "ACTIVE" then
        some ("courier has no verified selfie (status=" ++ staff.selfieStatus.getD "none" ++ ")")
      else
        let ownerUid := (environment.branches order.provider.branchId).map Branch.uid
        let sameTenant :=
          (ownerUid.isSome ∧ staff.merchantId = ownerUid) ∨
            order.provider.branchId ∈ staff.branchIds
        if sameTenant then
          none
        else
          some "courier belongs to a different merchant/branch"

/-- The booking gate of `ProviderEligibilityService` at acceptance. -/
def assertProviderAccepting (environment : Environment)
    (database : Database) (order : OnlineOrder) :
    Except ServiceError (Option WasherProfile) :=
  let branchId := order.provider.branchId
  match environment.branches branchId with
  | none => .error (.badRequest "Provider branch not found")
  | some branch => do
      let washer ←
        match order.provider.providerType with
        | .washer =>
          match environment.washers branchId with
          | none => .error (.badRequest "Washer not found")
          | some washer =>
            if washer.isActive then
              pure (some washer)
            else
              .error (.badRequest "This washer is not currently active on the platform")
        | .merchant =>
          if branch.isActive = false then
            .error (.badRequest "This branch is not active")
          else if branch.isOnline = false then
            .error (.badRequest "This branch is currently closed for online orders")
          else
            pure none
      match database.wallets.wallets.lookup branchId with
      | none => .error (.badRequest
          "This provider is not currently able to take marketplace orders")
      | some wallet =>
        if wallet.activatedAt = none ∨
            wallet.balanceCentavos < DISCOVERY_ACCEPT_MIN_CENTAVOS then
          .error (.badRequest ("This provider is not currently able " ++
            "to take marketplace orders"))
        else
          pure washer

end Lalaba.Orders
