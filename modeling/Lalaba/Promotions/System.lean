import Lalaba.Foundation.Outcome
import Lalaba.Foundation.Run
import Lalaba.Promotions.Store

/-!
# Concurrent calls of the promotions service

A redemption reads its code and validates it before it opens a transaction, and
a release reads the held rows before it flips them; other calls run in between.
A call in flight is the point it has reached with what it has read.  Transactions
commit or abort as a whole, so a committed one is one step, and one that is
aborted has left nothing behind.
-/

namespace Lalaba.Promotions

open Foundation

/-! ## Administration -/

/-- The fields of `CreatePromoInput` that the service reads. -/
structure CreatePromoInput where
  code : String
  scope : Option PromoScope
  discountType : PromoDiscountType
  discountValue : ℕ
  maxDiscountCentavos : Option ℕ
  minOrderValueCentavos : Option ℕ
  targetRoleIds : List String
  firstOrderOnly : Option Bool
  usageCapTotal : Option ℕ
  usageCapPerCustomer : Option ℕ
  usageCapPerSubject : Option ℕ
  startsAt : Instant
  expiresAt : Option Instant

def BACK_OFFICE_ROLES : List String := ["admin", "support"]

/-- The scope of a code and the way it discounts must fit together. -/
def assertScopeAndMethodAgree (input : CreatePromoInput) :
    Except ServiceError Unit :=
  match input.scope.getD .orderTotal with
  | .orderTotal =>
    if input.discountType = .waive then
      .error (.badRequest ("To give an order away, use a 100% discount " ++
        "with a maximum amount — a waiver has no ceiling."))
    else
      .ok ()
  | .platformFee =>
    if input.discountType ≠ .waive then
      .error (.badRequest ("Platform-fee promotions can only waive the " ++ "fee in full for now."))
    else if input.firstOrderOnly = some true then
      .error (.badRequest ("\"First order only\" applies to a " ++
        "customer's first order and has no meaning for a platform-fee " ++
        "promotion."))
    else
      .ok ()

/-- The checks of `create`. -/
def assertCreatable (input : CreatePromoInput) :
    Except ServiceError Unit :=
  if input.targetRoleIds.any (BACK_OFFICE_ROLES.contains ·) then
    .error (.badRequest "Promo codes cannot target admin or support accounts")
  else if input.discountType = .percentage ∧ 100 < input.discountValue then
    .error (.badRequest "A percentage discount cannot exceed 100")
  else if input.expiresAt.any fun expiry =>
      decide (expiry ≤ input.startsAt) then
    .error (.badRequest "Expiry must be after the start date")
  else
    assertScopeAndMethodAgree input

/-- A new code, which nobody has used. -/
def newPromo (promoId : ObjectId) (input : CreatePromoInput) : PromoCode where
  _id := promoId
  code := input.code
  scope := input.scope
  discountType := input.discountType
  discountValue := input.discountValue
  maxDiscountCentavos := input.maxDiscountCentavos.map Int.ofNat
  minOrderValueCentavos := input.minOrderValueCentavos.map Int.ofNat
  targetRoleIds := input.targetRoleIds
  firstOrderOnly := input.firstOrderOnly.getD false
  usageCapTotal := input.usageCapTotal.map Int.ofNat
  usageCapPerCustomer := (input.usageCapPerCustomer.getD 1 : ℕ)
  usageCapPerSubject := input.usageCapPerSubject.map Int.ofNat
  redemptionCount := 0
  startsAt := input.startsAt
  expiresAt := input.expiresAt
  isActive := true

/--
`UpdatePromoInput`.  A missing field is not set; `null` clears the expiry or the
total cap.
-/
structure UpdatePromoInput where
  startsAt : Option Instant := none
  expiresAt : Option (Option Instant) := none
  usageCapTotal : Option (Option ℕ) := none

/-- `$set` the input on a code. -/
def UpdatePromoInput.apply (input : UpdatePromoInput) (promo : PromoCode) :
    PromoCode :=
  { promo with
    startsAt := input.startsAt.getD promo.startsAt
    expiresAt := input.expiresAt.getD promo.expiresAt
    usageCapTotal := (input.usageCapTotal.map (Option.map Int.ofNat)).getD promo.usageCapTotal }

def UpdatePromoInput.checkedExpiry (input : UpdatePromoInput)
    (promo : PromoCode) : Option Instant :=
  match input.expiresAt with
  | some (some expiry) => some expiry
  | _ => promo.expiresAt

namespace PromotionStore

def setPromo (promoId : ObjectId) (change : PromoCode → PromoCode)
    (store : PromotionStore) : PromotionStore :=
  { store with
    promos := store.promos.map fun promo =>
      if promo._id = promoId then change promo else promo }

/-- `create`; the code and the id of a promo are unique. -/
def create (promoId : ObjectId) (input : CreatePromoInput)
    (store : PromotionStore) : Except ServiceError PromotionStore := do
  assertCreatable input
  if store.promos.any fun promo =>
      promo._id == promoId || promo.code == input.code then
    .error (.badRequest ("A promo code \"" ++ input.code ++ "\" already exists"))
  else
    .ok { store with promos := store.promos ++ [newPromo promoId input] }

def update (promoId : ObjectId) (input : UpdatePromoInput)
    (store : PromotionStore) : Except ServiceError PromotionStore :=
  match store.findById promoId with
  | none => .error (.notFound "Promo code not found")
  | some promo =>
    if (input.checkedExpiry promo).any fun expiry =>
        decide (expiry ≤ input.startsAt.getD promo.startsAt) then
      .error (.badRequest "Expiry must be after the start date")
    else
      .ok (store.setPromo promoId input.apply)

def setActive (promoId : ObjectId) (isActive : Bool)
    (store : PromotionStore) : Except ServiceError PromotionStore :=
  match store.findById promoId with
  | none => .error (.notFound "Promo code not found")
  | some _ =>
    .ok (store.setPromo promoId fun promo => { promo with isActive })

/--
Count a redemption if the stored counter is below a cap, the one its caller has
read.
-/
def claimSlot (promo : PromoCode) (store : PromotionStore) :
    Option PromotionStore :=
  match store.findById promo._id with
  | none => none
  | some stored =>
    if promo.usageCapTotal.all fun cap =>
        decide (stored.redemptionCount < cap) then
      some (store.countRedemption promo._id 1)
    else
      none

def insertRedemption (row : PromoRedemption) (store : PromotionStore) :
    PromotionStore :=
  { store with
    redemptions := store.redemptions ++ [{ row with _id := store.redemptions.length }] }

def heldBy (orderId : ObjectId) (store : PromotionStore) :
    List PromoRedemption :=
  store.redemptions.filter fun row =>
    row.orderId == some orderId && row.status == .reserved

def releaseAll (now : Instant) (held : List PromoRedemption)
    (store : PromotionStore) : PromotionStore :=
  held.foldl (fun store row => store.releaseRow now row) store

end PromotionStore

/-! ## Calls in flight -/

/-- `RedeemPromoInput`; the code is trimmed and in upper case. -/
structure RedeemPromoInput where
  code : String
  customerUid : Uid
  orderTotalCentavos : ℚ
  orderId : Option ObjectId

/-- What a validation reads of an account. -/
structure Account where
  roleId : Option String
  hasOrdered : Bool
  name : String

abbrev Accounts : Type := Uid → Option Account

def Accounts.redeemer (accounts : Accounts) (uid : Uid) :
    Option Redeemer :=
  (accounts uid).map fun account =>
    { uid, roleId := account.roleId, hasOrdered := account.hasOrdered }

/-- The row of a redemption by a customer. -/
def customerRow (promo : PromoCode) (input : RedeemPromoInput)
    (customerName : String) (discountCentavos : ℚ)
    (status : PromoRedemptionStatus) : PromoRedemption where
  _id := 0
  promoId := promo._id
  code := promo.code
  customerUid := input.customerUid
  customerName
  subjectType := none
  subjectId := none
  orderId := input.orderId
  discountAppliedCentavos := discountCentavos
  status
  releasedAt := none

/-- What `reserveForBranch` is called with. -/
structure ReserveForBranchInput where
  promoId : ObjectId
  branchId : ObjectId
  orderId : ObjectId
  actorUid : Uid
  actorName : String
  discountCentavos : ℚ
deriving DecidableEq

/-- A call at the point where it waits. -/
inductive Call where
  /-- `redeem` or `reserve`: the code has been validated. -/
  | redemption (promo : PromoCode) (row : PromoRedemption)
  /-- `reserveForBranch`, before its transaction. -/
  | branch (input : ReserveForBranchInput)
  /--
  `releaseForOrder`: the held rows have been read.  Its callers pass the session
  of an order's transaction, so all of it commits together.
  -/
  | release (orderId : ObjectId) (held : List PromoRedemption)
deriving DecidableEq

/-- The collections and the calls in flight. -/
structure State where
  store : PromotionStore
  calls : List Call
deriving DecidableEq

namespace State

def start : State where
  store := { promos := [], redemptions := [] }
  calls := []

def begin (call : Call) (state : State) : State := { state with calls := state.calls ++ [call] }

def commit (index : ℕ) (store : PromotionStore) (state : State) : State :=
  { store, calls := state.calls.eraseIdx index }

end State

/-- `createRedemption` up to its transaction. -/
def createRedemption (accounts : Accounts) (now : Instant)
    (input : RedeemPromoInput) (status : PromoRedemptionStatus)
    (store : PromotionStore) : Except ServiceError Call :=
  match store.findByCode input.code with
  | none => .error (.notFound "Promo code not found")
  | some promo =>
    match store.validateAgainst now promo
        (accounts.redeemer input.customerUid)
        input.orderTotalCentavos with
    | .error reason => .error (.badRequest reason)
    | .ok discountCentavos =>
      let name := ((accounts input.customerUid).map Account.name).getD input.customerUid
      .ok (.redemption promo (customerRow promo input name discountCentavos status))

def Call.transact (now : Instant) (store : PromotionStore) :
    Call → Except ServiceError PromotionStore
  | .redemption promo row =>
    match store.claimSlot promo with
    | none => .error (.conflict
        "This code was just fully redeemed — please try again")
    | some claimed => .ok (claimed.insertRedemption row)
  | .branch input =>
    .ok (store.reserveForBranch input.promoId input.branchId
      input.orderId input.actorUid input.actorName input.discountCentavos).2
  | .release _ held => .ok (store.releaseAll now held)

/-! ## What is written -/

section

variable {store after : PromotionStore} {promoId : ObjectId} {now : Instant}

theorem PromotionStore.create_ok {input : CreatePromoInput}
    (created : store.create promoId input = .ok after) :
    (∀ promo ∈ store.promos, promo._id ≠ promoId) ∧
      after = { store with promos := store.promos ++ [newPromo promoId input] } := by
  rw [PromotionStore.create] at created
  rcases checked : assertCreatable input with error | _
  · rw [checked] at created
    cases created
  · rw [checked] at created
    simp only [bind, Except.bind] at created
    split at created
    · cases created
    · rename_i fresh
      cases created
      refine ⟨fun promo member same => fresh ?_, rfl⟩
      exact List.any_eq_true.mpr ⟨promo, member, by simp [same]⟩

theorem PromotionStore.update_ok {input : UpdatePromoInput}
    (updated : store.update promoId input = .ok after) :
    after = store.setPromo promoId input.apply := by
  rw [PromotionStore.update] at updated
  split at updated
  · cases updated
  · split at updated
    · cases updated
    · cases updated
      rfl

theorem PromotionStore.setActive_ok {isActive : Bool}
    (updated : store.setActive promoId isActive = .ok after) :
    after = store.setPromo promoId fun promo => { promo with isActive } := by
  rw [PromotionStore.setActive] at updated
  split at updated
  · cases updated
  · cases updated
    rfl

theorem createRedemption_ok {accounts : Accounts}
    {input : RedeemPromoInput} {status : PromoRedemptionStatus} {call : Call}
    (created : createRedemption accounts now input status store = .ok call) :
    ∃ promo ∈ store.promos, ∃ name discount,
      store.Redeemable now promo (accounts.redeemer input.customerUid)
          input.orderTotalCentavos ∧
        call = .redemption promo (customerRow promo input name discount status) := by
  rw [createRedemption] at created
  split at created
  · cases created
  · rename_i promo found
    split at created
    · cases created
    · rename_i discount validated
      cases created
      exact ⟨promo, List.mem_of_find?_eq_some found, _, discount,
        (PromotionStore.validateAgainst_ok.mp validated).1, rfl⟩

theorem Call.transact_redemption {promo : PromoCode} {row : PromoRedemption}
    (committed : (Call.redemption promo row).transact now store = .ok after) :
    ∃ stored, store.findById promo._id = some stored ∧
      (∀ cap, promo.usageCapTotal = some cap → stored.redemptionCount < cap) ∧
      after = (store.countRedemption promo._id 1).insertRedemption row := by
  simp only [Call.transact, PromotionStore.claimSlot] at committed
  rcases lookup : store.findById promo._id with _ | stored
  · simp [lookup] at committed
  · simp only [lookup] at committed
    split at committed
    · cases committed
    · rename_i claimed outcome
      split at outcome
      · rename_i below
        cases outcome
        cases committed
        refine ⟨stored, rfl, ?_, rfl⟩
        rintro cap limited
        simpa [limited] using below
      · cases outcome

theorem Call.transact_branch {input : ReserveForBranchInput}
    (committed : (Call.branch input).transact now store = .ok after) :
    after = store ∨
      ∃ promo row, store.findById input.promoId = some promo ∧
        PromotionStore.exhausted promo = false ∧
        row.promoId = promo._id ∧ row.status = .reserved ∧
        row.subjectType = some .branch ∧
        row.subjectId = some input.branchId ∧
        after = store.record promo row := by
  simp only [Call.transact, PromotionStore.reserveForBranch, Except.ok.injEq] at committed
  split at committed
  · exact .inl committed.symm
  · rename_i promo lookup
    split at committed
    · exact .inl committed.symm
    · rename_i vacant
      exact .inr ⟨promo, _, lookup, by simpa using vacant, rfl, rfl, rfl, rfl, committed.symm⟩

end

/-- What can happen next. -/
inductive Action where
  | create (promoId : ObjectId) (input : CreatePromoInput)
  | update (promoId : ObjectId) (input : UpdatePromoInput)
  | setActive (promoId : ObjectId) (isActive : Bool)
  | redeem (accounts : Accounts) (now : Instant) (input : RedeemPromoInput)
  | reserve (accounts : Accounts) (now : Instant) (input : RedeemPromoInput)
  | reserveForBranch (input : ReserveForBranchInput)
  | applyPlatformFeePromo (now : Instant) (roleId : String) (input : ReserveForBranchInput)
  | releaseForOrder (orderId : ObjectId)
  | settleForOrder (orderId : ObjectId)
  | commit (index : ℕ) (now : Instant)
  | crash (index : ℕ)

/-- One step; `none` when it is refused without a write. -/
def step : Action → State → Option State
  | .create promoId input, state =>
    (state.store.create promoId input).toOption.map fun store =>
      { state with store }
  | .update promoId input, state =>
    (state.store.update promoId input).toOption.map fun store =>
      { state with store }
  | .setActive promoId isActive, state =>
    (state.store.setActive promoId isActive).toOption.map fun store =>
      { state with store }
  | .redeem accounts now input, state =>
    (createRedemption accounts now input .redeemed
      state.store).toOption.map fun call => state.begin call
  | .reserve accounts now input, state =>
    (createRedemption accounts now input .reserved
      state.store).toOption.map fun call => state.begin call
  | .reserveForBranch input, state => some (state.begin (.branch input))
  | .applyPlatformFeePromo now roleId input, state =>
    (state.store.findPlatformFeePromoFor now roleId input.branchId).map fun promo =>
        state.begin (.branch { input with promoId := promo._id })
  | .releaseForOrder orderId, state =>
    some (state.begin (.release orderId (state.store.heldBy orderId)))
  | .settleForOrder orderId, state =>
    some { state with store := state.store.settleForOrder orderId }
  | .commit index now, state =>
    match state.calls[index]? with
    | none => none
    | some call =>
      match call.transact now state.store with
      | .error _ => some (state.commit index state.store)
      | .ok store => some (state.commit index store)
  | .crash index, state => some (state.commit index state.store)

def promotionSystem : System State Action := { step }

end Lalaba.Promotions
