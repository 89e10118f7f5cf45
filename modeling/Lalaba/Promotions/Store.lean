import Lalaba.Common
import Mathlib.Data.Rat.Floor
import Mathlib.Tactic.SplitIfs

/-!
# Promotions and their redemptions

The part of the promotions service that an order touches: pricing a code,
reserving a slot for an order or for a branch, and moving the held slots when
the order ends.  Codes are kept in the order they were created and redemptions
in the order they were recorded.
-/

namespace Lalaba.Promotions

inductive PromoDiscountType where
  | flat
  | percentage
  | waive
deriving DecidableEq

inductive PromoScope where
  | orderTotal
  | platformFee
deriving DecidableEq

/-- A discount code. -/
structure PromoCode where
  _id : ObjectId
  code : String
  scope : Option PromoScope
  discountType : PromoDiscountType
  discountValue : ℤ
  maxDiscountCentavos : Option ℤ
  minOrderValueCentavos : Option ℤ
  targetRoleIds : List String
  firstOrderOnly : Bool
  usageCapTotal : Option ℤ
  usageCapPerCustomer : ℤ
  usageCapPerSubject : Option ℤ
  redemptionCount : ℤ
  startsAt : Instant
  expiresAt : Option Instant
  isActive : Bool
deriving DecidableEq

inductive PromoRedemptionStatus where
  | reserved
  | redeemed
  | released
deriving DecidableEq

inductive RedemptionSubjectType where
  | customer
  | branch
deriving DecidableEq

/-- One use of a code; rows are numbered as they are recorded. -/
structure PromoRedemption where
  _id : ℕ
  promoId : ObjectId
  code : String
  customerUid : Uid
  customerName : String
  subjectType : Option RedemptionSubjectType
  subjectId : Option String
  orderId : Option ObjectId
  discountAppliedCentavos : ℚ
  status : PromoRedemptionStatus
  releasedAt : Option Instant
deriving DecidableEq

/-- The promotions service's collections. -/
structure PromotionStore where
  promos : List PromoCode
  redemptions : List PromoRedemption
deriving DecidableEq

def PromoCode.capPerSubject (promo : PromoCode) : ℤ :=
  promo.usageCapPerSubject.getD promo.usageCapPerCustomer

def computeDiscount (promo : PromoCode) (orderTotalCentavos : ℚ) : ℚ :=
  match promo.discountType with
  | .flat => min promo.discountValue orderTotalCentavos
  | .percentage | .waive =>
    let raw : ℚ := (⌊orderTotalCentavos * promo.discountValue / 100⌋ : ℤ)
    let capped : ℚ :=
      match promo.maxDiscountCentavos with
      | none => raw
      | some maximum => min raw maximum
    min capped orderTotalCentavos

/-! ## Validation -/

/-- The account a code is checked for, and whether it has ordered before. -/
structure Redeemer where
  uid : Uid
  roleId : Option String
  hasOrdered : Bool

namespace PromotionStore

def usesByCustomer (promoId : ObjectId) (customerUid : Uid)
    (store : PromotionStore) : ℕ :=
  store.redemptions.countP fun row =>
    row.promoId == promoId && row.customerUid == customerUid && row.status != .released

def usesBySubject (promoId : ObjectId) (subjectId : String)
    (store : PromotionStore) : ℕ :=
  store.redemptions.countP fun row =>
    row.promoId == promoId && row.subjectId == some subjectId && row.status != .released

def exhausted (promo : PromoCode) : Bool :=
  match promo.usageCapTotal with
  | none => false
  | some cap => decide (cap ≤ promo.redemptionCount)

/-- The discount of a code for this account and total, or why there is none. -/
def validateAgainst (now : Instant) (promo : PromoCode)
    (redeemer : Option Redeemer) (orderTotalCentavos : ℚ)
    (store : PromotionStore) : Except String ℚ :=
  if promo.isActive = false then
    .error "This code has been turned off"
  else if now < promo.startsAt then
    .error "This code is not active yet"
  else if promo.expiresAt.any (fun expiry => decide (expiry < now)) then
    .error "This code has expired"
  else if exhausted promo then
    .error "This code has been fully redeemed"
  else if promo.minOrderValueCentavos.any
      (fun minimum => decide (orderTotalCentavos < minimum)) then
    .error "Order does not meet the minimum for this code"
  else
    match redeemer with
    | none => .error "Account not found"
    | some redeemer =>
      match redeemer.roleId with
      | none =>
        .error "This code is not available for your account type"
      | some roleId =>
        if roleId ∉ promo.targetRoleIds then
          .error "This code is not available for your account type"
        else if promo.firstOrderOnly ∧ redeemer.hasOrdered then
          .error "This code is only valid on your first order"
        else if promo.capPerSubject ≤
            store.usesByCustomer promo._id redeemer.uid then
          .error ("You have already used this code the maximum " ++ "number of times")
        else
          .ok (computeDiscount promo orderTotalCentavos)

/-- What a code must pass to be worth a discount. -/
structure Redeemable (now : Instant) (promo : PromoCode)
    (redeemer : Option Redeemer) (orderTotalCentavos : ℚ)
    (store : PromotionStore) : Prop where
  active : promo.isActive = true
  started : promo.startsAt ≤ now
  unexpired : ∀ expiry, promo.expiresAt = some expiry → now ≤ expiry
  room : exhausted promo = false
  minimum : ∀ minimum, promo.minOrderValueCentavos = some minimum →
    (minimum : ℚ) ≤ orderTotalCentavos
  account : ∃ account roleId, redeemer = some account ∧
    account.roleId = some roleId ∧ roleId ∈ promo.targetRoleIds ∧
      (promo.firstOrderOnly = true → account.hasOrdered = false) ∧
      (store.usesByCustomer promo._id account.uid : ℤ) < promo.capPerSubject

/-- A validation passes exactly the redeemable codes. -/
theorem validateAgainst_ok {now : Instant} {promo : PromoCode}
    {redeemer : Option Redeemer} {orderTotalCentavos discount : ℚ}
    {store : PromotionStore} :
    store.validateAgainst now promo redeemer orderTotalCentavos =
        .ok discount ↔
      store.Redeemable now promo redeemer orderTotalCentavos ∧
        discount = computeDiscount promo orderTotalCentavos := by
  constructor
  · intro validated
    unfold validateAgainst at validated
    split_ifs at validated with inactive early expired full small
    split at validated
    · cases validated
    · rename_i account
      split at validated
      · cases validated
      · rename_i roleId role
        split_ifs at validated with foreign ordered capped
        cases validated
        refine ⟨⟨by simpa using inactive, not_lt.mp early, ?_,
          by simpa using full, ?_, account, roleId, rfl, role,
          foreign, ?_, not_le.mp capped⟩, rfl⟩
        · rintro expiry limited
          simpa [limited] using expired
        · rintro minimum limited
          simpa [limited] using small
        · intro first
          by_contra again
          exact ordered ⟨first, by simpa using again⟩
  · rintro ⟨⟨active, started, unexpired, room, minimum, account, roleId,
      rfl, role, targeted, first, capped⟩, rfl⟩
    have early : ¬ now < promo.startsAt := not_lt.mpr started
    have expired : promo.expiresAt.any (fun expiry => decide (expiry < now)) = false := by
      cases limited : promo.expiresAt with
      | none => rfl
      | some expiry => simpa using unexpired expiry limited
    have small : (promo.minOrderValueCentavos.bind fun minimum =>
        some (minimum : ℚ)).any
          (fun minimum => decide (orderTotalCentavos < minimum)) =
            false := by
      cases limited : promo.minOrderValueCentavos with
      | none => rfl
      | some least => simpa using minimum least limited
    have again : ¬ (promo.firstOrderOnly = true ∧ account.hasOrdered = true) := by
      rintro ⟨only, ordered⟩
      rw [first only] at ordered
      cases ordered
    simp [validateAgainst, active, early, expired, room, small, role,
      targeted, again, not_le.mpr capped]

def findByCode (code : String) (store : PromotionStore) :
    Option PromoCode :=
  store.promos.find? fun promo => promo.code == code

def findById (promoId : ObjectId) (store : PromotionStore) :
    Option PromoCode :=
  store.promos.find? fun promo => promo._id == promoId

/-- `$inc` a code's counter. -/
def countRedemption (promoId : ObjectId) (change : ℤ)
    (store : PromotionStore) : PromotionStore :=
  { store with
    promos := store.promos.map fun promo =>
      if promo._id = promoId then
        { promo with redemptionCount := promo.redemptionCount + change }
      else
        promo }

def record (promo : PromoCode) (row : PromoRedemption)
    (store : PromotionStore) : PromotionStore :=
  let counted := store.countRedemption promo._id 1
  { counted with
    redemptions := counted.redemptions ++ [{ row with _id := counted.redemptions.length }] }

/-- Hold a code's slot for an order that is being placed. -/
def reserve (now : Instant) (code : String)
    (redeemer : Option Redeemer) (customerUid : Uid)
    (customerName : String) (orderTotalCentavos : ℚ)
    (orderId : ObjectId) (store : PromotionStore) :
    Except ServiceError (ObjectId × PromotionStore) :=
  match store.findByCode code with
  | none => .error (.notFound "Promo code not found")
  | some promo =>
    match store.validateAgainst now promo redeemer orderTotalCentavos with
    | .error reason => .error (.badRequest reason)
    | .ok discountCentavos =>
      .ok (promo._id, store.record promo
          { _id := 0
            promoId := promo._id
            code := promo.code
            customerUid
            customerName
            subjectType := none
            subjectId := none
            orderId := some orderId
            discountAppliedCentavos := discountCentavos
            status := .reserved
            releasedAt := none })

/--
The fee promotion a branch is entitled to: the newest live one with a slot left
for it.
-/
def findPlatformFeePromoFor (now : Instant) (roleId : String)
    (branchId : ObjectId) (store : PromotionStore) : Option PromoCode :=
  store.promos.reverse.find? fun promo =>
    promo.isActive && promo.scope == some .platformFee &&
      promo.targetRoleIds.contains roleId &&
      decide (promo.startsAt ≤ now) &&
      promo.expiresAt.all (fun expiry => decide (now < expiry)) &&
      !exhausted promo &&
      decide ((store.usesBySubject promo._id branchId : ℤ) < promo.capPerSubject)

/-- Hold a slot for a branch; nothing happens when the last one is gone. -/
def reserveForBranch (promoId branchId orderId : ObjectId)
    (actorUid : Uid) (actorName : String) (discountCentavos : ℚ)
    (store : PromotionStore) : Bool × PromotionStore :=
  match store.findById promoId with
  | none => (false, store)
  | some promo =>
    if exhausted promo then
      (false, store)
    else
      (true, store.record promo
          { _id := 0
            promoId := promo._id
            code := promo.code
            customerUid := actorUid
            customerName := actorName
            subjectType := some .branch
            subjectId := some branchId
            orderId := some orderId
            discountAppliedCentavos := discountCentavos
            status := .reserved
            releasedAt := none })

def settleForOrder (orderId : ObjectId) (store : PromotionStore) :
    PromotionStore :=
  { store with
    redemptions := store.redemptions.map fun row =>
      if row.orderId = some orderId ∧ row.status = .reserved then
        { row with status := .redeemed }
      else
        row }

/-- Give one held slot back, unless it has been moved meanwhile. -/
def releaseRow (now : Instant) (row : PromoRedemption)
    (store : PromotionStore) : PromotionStore :=
  if store.redemptions.any
      (fun other => other._id == row._id && other.status == .reserved) then
    { store.countRedemption row.promoId (-1) with
      redemptions := store.redemptions.map fun other =>
        if other._id = row._id ∧ other.status = .reserved then
          { other with status := .released, releasedAt := some now }
        else
          other }
  else
    store

def releaseForOrder (now : Instant) (orderId : ObjectId)
    (store : PromotionStore) : PromotionStore :=
  let held := store.redemptions.filter fun row =>
    row.orderId == some orderId && row.status == .reserved
  held.foldl (fun store row => store.releaseRow now row) store

end PromotionStore

end Lalaba.Promotions
