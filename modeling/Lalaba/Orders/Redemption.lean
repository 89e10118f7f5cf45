import Lalaba.Orders.Conservation
import Lalaba.Orders.Provenance
import Lalaba.Promotions.Counter

/-!
# The code of a new order

`createOrder` validates a code before the order is stored and reserves it after
that, which validates it again.  Between the two the customer has placed an
order: this very one.
-/

namespace Lalaba.Orders

open Foundation
open Foundation.Program
open Promotions

/-- What a new order says of the code it was priced with. -/
structure Claims (now : Instant) (redeemer : Option Redeemer)
    (promotions : PromotionStore) (order : OnlineOrder) (claim : PromoClaim)
    (promo : PromoCode) : Prop where
  found : promotions.findByCode claim.code = some promo
  redeemable : promotions.Redeemable now promo redeemer claim.orderTotalCentavos
  discounted : order.pricing.discountCentavos =
    some (computeDiscount promo claim.orderTotalCentavos)

theorem discount_eq_some {discount : ℚ}
    (shown : (if discount = 0 then none else some discount) ≠ none) :
    (if discount = 0 then none else some discount) = some discount := by
  split at shown
  · exact (shown rfl).elim
  · rename_i positive
    exact if_neg positive

theorem createOrder_claims {market : Market} {clock : Clock}
    {customer : User} {input : CreateOrderInput} {orderId : ObjectId}
    {database : Database} :
    Yields (createOrder market clock customer input orderId database)
      (fun drafted => ∃ book promo order,
        drafted = (.create customer._id book promo, .draft order) ∧
        order._id = orderId ∧ order.customer.uid = customer._id ∧
        (order.pricing.discountCentavos ≠ none → ∃ claim code,
          promo = some claim ∧ Claims clock.now
            (redeemerOf market.toEnvironment database customer._id)
            database.promotions order claim code)) := by
  intro drafted ordered
  rcases createOrder_yields _ ordered with ⟨_, _, _, _, _, _, _, _, priced, _, rfl⟩
  refine ⟨_, _, _, rfl, rfl, rfl, ?_⟩
  intro discounted
  rw [requestedDiscount] at priced
  split at priced
  · cases priced
    exact (discounted rfl).elim
  · rename_i code requested
    rw [promoDiscount] at priced
    split at priced
    · cases priced
    · rename_i promo found
      split at priced
      · cases priced
      · rename_i validated
        cases priced
        rcases PromotionStore.validateAgainst_ok.mp validated with ⟨redeemable, rfl⟩
        refine ⟨_, promo, by rw [requested]; rfl, found, redeemable, ?_⟩
        exact discount_eq_some discounted

/-! ## The committed order -/

/-- A document that still says who ordered, and at what price. -/
structure SameOrder (order : OnlineOrder) (document : OrderDocument) : Prop where
  identified : document.order._id = order._id
  customer : document.order.customer = order.customer
  pricing : document.order.pricing = order.pricing

theorem SameOrder.rests (order : OnlineOrder) {customerUid : Uid}
    {book : Database → Except ServiceError ScheduledPickup}
    {promo : Option PromoClaim} :
    Rests order._id (Callback.create customerUid book promo).touches
      (fun session => SameOrder order session.memory) where
  identified := fun _ same => same.identified
  beside := fun _ _ _ _ _ same => same
  save := by
    intro session row saved same ran
    rw [OrderDocument.save_saved ran]
    exact ⟨same.identified, same.customer, same.pricing⟩
  update := fun _ _ _ _ same _ => same
  touch := by
    intro session touch allowed same
    cases touch with
    | patch | schedule =>
      exact ⟨same.identified, same.customer, same.pricing⟩
    | consume | collect | grant | reset => exact allowed.elim

/-- The order is stored under its customer, and no code has been touched. -/
structure Placed (promotions : PromotionStore) (order : OnlineOrder)
    (database : Database) (document : OrderDocument) : Prop where
  same : SameOrder order document
  promotions : database.promotions = promotions
  row : ∃ row, database.orders.lookup order._id = some row ∧
    row.customer = order.customer

theorem Placed.transition {promotions : PromotionStore}
    {order : OnlineOrder} {clock : Clock} {target : OrderStatus}
    {actorUid : Uid} {actorRole : String} {note : Option String}
    (plain : target ≠ .rejectedByProvider ∧ target ≠ .cancelled ∧ target ≠ .completed) :
    Ensures (Placed promotions order)
      (applyTransition clock target actorUid actorRole note)
      (fun _ => Placed promotions order) := by
  apply @ensures_transition _ _ _ _ _ _ (Placed promotions order)
  · intro database document row placed _ found _
    rcases placed.row with ⟨stored, found', customer⟩
    rw [placed.same.identified, found'] at found
    cases found
    refine ⟨⟨placed.same.identified, placed.same.customer,
      placed.same.pricing⟩, placed.promotions,
      (transitionPatch clock target document.order).apply row, ?_,
      customer⟩
    rw [← placed.same.identified]
    exact AList.lookup_insert _
  · intro start
    rw [settlePromo_eq plain]
    exact Ensures.pure fun _ _ => id

/-- A creation stores the order, and touches no code. -/
theorem ensures_placed {promotions : PromotionStore} {order : OnlineOrder}
    {clock : Clock} {customerUid : Uid}
    {book : Database → Except ServiceError ScheduledPickup} :
    Ensures
      (fun database document => SameOrder order document ∧
        database.promotions = promotions ∧
        database.orders.lookup order._id = none)
      (createInTransaction clock customerUid book)
      (fun _ => Placed promotions order) := by
  apply @ensures_createInTransaction clock customerUid book _ (Placed promotions order)
  · rintro database document slot ⟨same, rest⟩
    exact ⟨⟨same.identified, same.customer, same.pricing⟩, rest⟩
  · apply ensures_saveDocument
    rintro database document row saved ⟨same, promotions, absent⟩ ran
    have clean := OrderDocument.save_saved ran
    subst clean
    rw [same.identified, absent] at ran
    rcases OrderDocument.save_cases ran with ⟨_, _, rfl⟩ | ⟨_, _, found, _⟩
    · refine ⟨⟨same.identified, same.customer, same.pricing⟩, promotions,
        _, ?_, same.customer⟩
      rw [← same.identified]
      exact AList.lookup_insert _
    · cases found
  · exact fun _ _ _ => trivial
  · intro saved _
    have recorded : Ensures (Placed promotions order) (query fun database =>
          .ok ((), database.createEvent (creationEvent saved.order._id customerUid)) :
          OrderProgram Unit)
        (fun _ => Placed promotions order) := by
      apply Ensures.query
      rintro database document value after placed ran
      cases ran
      exact ⟨placed.same, placed.promotions, placed.row⟩
    apply recorded.bind
    intro _
    have validated := @Placed.transition promotions order clock
      .pricingValidated customerUid "customer" none (by decide)
    apply validated.bind
    intro _
    exact Placed.transition (by decide)

def Database.hasOrdered (customerUid : Uid) (database : Database) : Bool :=
  database.orders.entries.any fun entry =>
    entry.2.customer.uid == customerUid

theorem hasOrdered_of_lookup {orderId : ObjectId} {row : OnlineOrder}
    {database : Database}
    (found : database.orders.lookup orderId = some row) :
    database.hasOrdered row.customer.uid = true := by
  apply List.any_eq_true.mpr
  exact ⟨⟨orderId, row⟩, AList.mem_lookup_iff.mp found, beq_self_eq_true _⟩

/-- Nobody else has touched a code, its customer, or the customer's orders. -/
structure Undisturbed (code : String) (customerUid : Uid)
    (database after : Database) : Prop where
  code : after.promotions.findByCode code = database.promotions.findByCode code
  uses : ∀ promoId,
    after.promotions.usesByCustomer promoId customerUid =
      database.promotions.usesByCustomer promoId customerUid
  ordered : after.hasOrdered customerUid = database.hasOrdered customerUid

variable {promo : PromoCode}

/--
A code that was redeemable is so for an account that has ordered since, unless
it is for first orders or the time for it has run out.
-/
theorem redeemable_again {now later : Instant} {account : Redeemer} {total : ℚ}
    {store after : PromotionStore}
    (redeemable : store.Redeemable now promo (some account) total)
    (uses : after.usesByCustomer promo._id account.uid =
      store.usesByCustomer promo._id account.uid) :
    after.Redeemable later promo
        (some { account with hasOrdered := true }) total ↔
      promo.firstOrderOnly = false ∧ promo.startsAt ≤ later ∧
        ∀ expiry, promo.expiresAt = some expiry → later ≤ expiry := by
  constructor
  · intro again
    rcases again.account with ⟨_, _, same, _, _, first, _⟩
    cases same
    refine ⟨?_, again.started, again.unexpired⟩
    by_contra only
    exact Bool.noConfusion (first (by simpa using only))
  · rintro ⟨anytime, started, unexpired⟩
    rcases redeemable.account with ⟨_, roleId, same, role, targeted, _, capped⟩
    cases same
    refine ⟨redeemable.active, started, unexpired, redeemable.room,
      redeemable.minimum, _, roleId, rfl, role, targeted, ?_, ?_⟩
    · intro only
      rw [anytime] at only
      cases only
    · rw [uses]
      exact capped

/-! ## The reservation -/

/-- An order holds one slot of its code, for the discount it was given. -/
structure Consumes (orderId : ObjectId) (discountCentavos : ℚ)
    (code : String) (promo : PromoCode) (after : PromotionStore) :
    Prop where
  row : ∃ row,
    after.redemptions.filter
        (fun row => row.orderId == some orderId) = [row] ∧
      row.promoId = promo._id ∧ row.status = .reserved ∧
      row.discountAppliedCentavos = discountCentavos
  counted : after.findByCode code =
    some { promo with redemptionCount := promo.redemptionCount + 1 }

theorem findByCode_countRedemption {code : String} {store : PromotionStore}
    (found : store.findByCode code = some promo) :
    (store.countRedemption promo._id 1).findByCode code =
      some { promo with redemptionCount := promo.redemptionCount + 1 } := by
  rw [PromotionStore.findByCode, PromotionStore.countRedemption, List.find?_map]
  have texts : ((fun promo : PromoCode => promo.code == code) ∘
      fun other : PromoCode =>
        if other._id = promo._id then
          { other with redemptionCount := other.redemptionCount + 1 }
        else other) = fun other => other.code == code := by
    funext other
    simp only [Function.comp_apply]
    split <;> rfl
  rw [texts]
  rw [PromotionStore.findByCode] at found
  rw [found, Option.map_some, if_pos rfl]

theorem Consumes.recorded {orderId : ObjectId} {code : String}
    {promo : PromoCode} {row : PromoRedemption} {store : PromotionStore}
    (found : store.findByCode code = some promo)
    (unclaimed : ∀ other ∈ store.redemptions, other.orderId ≠ some orderId)
    (ordered : row.orderId = some orderId)
    (coded : row.promoId = promo._id) (held : row.status = .reserved) :
    Consumes orderId row.discountAppliedCentavos code promo
      (store.record promo row) where
  row := by
    refine ⟨{ row with
      _id := (store.countRedemption promo._id 1).redemptions.length }, ?_,
      coded, held, rfl⟩
    have none : store.redemptions.filter
        (fun other => other.orderId == some orderId) = [] := by
      apply List.filter_eq_nil_iff.mpr
      intro other member same
      exact unclaimed other member (beq_iff_eq.mp same)
    simp [PromotionStore.record, PromotionStore.countRedemption, none, ordered]
  counted := findByCode_countRedemption found

/--
Nobody comes between: the slot is reserved for the discount exactly when the
code passes its second validation.
-/
theorem stepReserve_consumes {index : ℕ} {environment : Environment}
    {clock : Clock} {claim : PromoClaim} {document : OrderDocument}
    {state : State}
    (found : state.database.promotions.findByCode claim.code = some promo)
    (unclaimed : ∀ row ∈ state.database.promotions.redemptions,
      row.orderId ≠ some document.order._id) :
    Consumes document.order._id
        (computeDiscount promo claim.orderTotalCentavos) claim.code promo
        (stepReserve index environment clock claim document state).database.promotions ↔
      state.database.promotions.Redeemable clock.now promo
        (redeemerOf environment state.database document.order.customer.uid)
        claim.orderTotalCentavos := by
  rcases validated : state.database.promotions.validateAgainst clock.now
      promo (redeemerOf environment state.database
        document.order.customer.uid) claim.orderTotalCentavos with
    reason | discount
  · constructor
    · intro consumes
      rcases consumes.row with ⟨row, only, _⟩
      have stayed : (stepReserve index environment clock claim document
          state).database.promotions = state.database.promotions := by
        simp [stepReserve, PromotionStore.reserve, found, validated, State.finish]
      have member : row ∈ (stepReserve index environment clock claim
          document state).database.promotions.redemptions.filter
            (fun row => row.orderId == some document.order._id) := by
        rw [only]
        exact List.mem_singleton_self row
      rw [stayed] at member
      rcases List.mem_filter.mp member with ⟨stored, named⟩
      exact (unclaimed row stored (beq_iff_eq.mp named)).elim
    · intro redeemable
      have passed := PromotionStore.validateAgainst_ok.mpr ⟨redeemable, rfl⟩
      rw [validated] at passed
      cases passed
  · rcases PromotionStore.validateAgainst_ok.mp validated with ⟨redeemable, rfl⟩
    apply iff_of_true _ redeemable
    simp only [stepReserve, PromotionStore.reserve, found, validated]
    apply @Consumes.recorded _ _ promo
      { _id := 0
        promoId := promo._id
        code := promo.code
        customerUid := document.order.customer.uid
        customerName := customerName environment document.order.customer.uid
        subjectType := none
        subjectId := none
        orderId := some document.order._id
        discountAppliedCentavos := computeDiscount promo claim.orderTotalCentavos
        status := .reserved
        releasedAt := none }
      _ found unclaimed rfl rfl rfl

/--
A discounted order, which nobody else disturbs, holds one reserved slot of its
code for its discount exactly when the code is not for first orders only and is
still in its time when the slot is reserved.
-/
theorem discountedOrderConsumesItsCode {market : Market} {clock : Clock}
    {customer : User} {input : CreateOrderInput} {orderId : ObjectId}
    {database start placed : Database} {callback : Callback}
    {prepared document committed : OrderDocument} {discount : ℚ}
    {clock' : Clock}
    (drafted : createOrder market clock customer input orderId database =
      .ok (callback, prepared))
    (discounted : prepared.order.pricing.discountCentavos = some discount)
    (retried : callback.Retried prepared document)
    (absent : start.orders.lookup orderId = none)
    (outcome : (callback.program clock').commit start document =
      (.ok (), placed, committed)) :
    ∃ claim promo,
      callback.followUp none committed =
          some (.reserve claim committed) ∧
        database.promotions.findByCode claim.code = some promo ∧
        ∀ (index : ℕ) (environment : Environment) (later : Clock)
          (state : State),
          environment.users customer._id = market.users customer._id →
          Undisturbed claim.code customer._id database start →
          Undisturbed claim.code customer._id placed state.database →
          (∀ row ∈ state.database.promotions.redemptions, row.orderId ≠ some orderId) →
          (Consumes orderId discount claim.code promo
              (stepReserve index environment later claim committed
                state).database.promotions ↔
            promo.firstOrderOnly = false ∧ promo.startsAt ≤ later.now ∧
              ∀ expiry, promo.expiresAt = some expiry → later.now ≤ expiry) := by
  rcases createOrder_claims _ drafted with
    ⟨book, requested, order, equal, identified, ordered, claimed⟩
  cases equal
  have shown : order.pricing.discountCentavos = some discount := discounted
  rcases claimed (by rw [shown]; exact Option.some_ne_none _) with
    ⟨claim, promo, rfl, claims⟩
  cases claims.discounted.symm.trans shown
  have same : SameOrder order document :=
    retried.keeps (SameOrder.rests order).kept ⟨rfl, rfl, rfl⟩
  rw [← identified] at absent
  have placed' := (@ensures_placed start.promotions order clock'
    customer._id book).committed ⟨same, rfl, absent⟩ outcome
  refine ⟨claim, promo, rfl, claims.found, ?_⟩
  intro index environment later state users before after unclaimed
  have uid : committed.order.customer.uid = customer._id := by
    rw [placed'.same.customer, ordered]
  have found : state.database.promotions.findByCode claim.code =
      some promo := by
    rw [after.code, placed'.promotions, before.code, claims.found]
  have uses : ∀ promoId,
      state.database.promotions.usesByCustomer promoId customer._id =
        database.promotions.usesByCustomer promoId customer._id := by
    intro promoId
    rw [after.uses, placed'.promotions, before.uses]
  have returning : state.database.hasOrdered customer._id = true := by
    rcases placed'.row with ⟨row, stored, customer'⟩
    have has := hasOrdered_of_lookup stored
    rw [customer', ordered] at has
    rw [after.ordered, has]
  rw [← identified, ← placed'.same.identified] at unclaimed ⊢
  rw [stepReserve_consumes found unclaimed, uid]
  rcases claims.redeemable.account with ⟨account, _, asked, _⟩
  have known := claims.redeemable
  rw [redeemerOf] at asked
  rcases Option.map_eq_some_iff.mp asked with ⟨user, found', rfl⟩
  have again : redeemerOf environment state.database customer._id =
      some
        { uid := customer._id
          roleId := user.roleId
          hasOrdered := true } := by
    rw [redeemerOf, users, found']
    exact congrArg (fun ordered => some (Redeemer.mk customer._id
      user.roleId ordered)) returning
  rw [again]
  rw [redeemerOf, asked] at known
  exact redeemable_again known (uses promo._id)

/-! ## A code of the shop -/

namespace Shop

/-- A tenth off, for everybody or for first orders only. -/
def tenth (firstOrderOnly : Bool) : PromoCode where
  _id := "promo"
  code := "TENTH"
  scope := some .orderTotal
  discountType := .percentage
  discountValue := 10
  maxDiscountCentavos := none
  minOrderValueCentavos := none
  targetRoleIds := ["customer"]
  firstOrderOnly
  usageCapTotal := none
  usageCapPerCustomer := 1
  usageCapPerSubject := none
  redemptionCount := 0
  startsAt := 0
  expiresAt := none
  isActive := true

/-- An order that is being placed with a code. -/
structure Discounted where
  database : Database
  callback : Callback
  prepared : OrderDocument
  placed : Database
  committed : OrderDocument
  claim : PromoClaim

/-- The customer places an order with the code of the shop. -/
def discounted (firstOrderOnly : Bool) : Option Discounted :=
  ((orderSystem some).perform
    (funding ++ [.editPromos [tenth firstOrderOnly]]) .start).bind
  fun state =>
    match createOrder market (clock 1) customer
        { booking .customerDropoff .customerSelfPickup with
          promoCode := some "TENTH" } "order" state.database with
    | .error _ => none
    | .ok (callback, prepared) =>
      match (callback.program (clock 1)).commit state.database prepared with
      | (.ok _, placed, committed) =>
        match callback.followUp none committed with
        | some (.reserve claim _) =>
          some
            { database := state.database
              callback, prepared, placed, committed, claim }
        | _ => none
      | _ => none

def Discounted.reserved (order : Discounted) : PromotionStore :=
  (stepReserve 0 environment (clock 2) order.claim order.committed
    { State.start with database := order.placed }).database.promotions

theorem discounted_eq_some {firstOrderOnly : Bool} {order : Discounted}
    (placed : discounted firstOrderOnly = some order) :
    createOrder market (clock 1) customer
        { booking .customerDropoff .customerSelfPickup with
          promoCode := some "TENTH" } "order" order.database =
      .ok (order.callback, order.prepared) ∧
    (order.callback.program (clock 1)).commit order.database
        order.prepared = (.ok (), order.placed, order.committed) ∧
    ∃ committed, order.callback.followUp none order.committed =
      some (.reserve order.claim committed) := by
  rcases Option.bind_eq_some_iff.mp placed with ⟨state, _, ordered⟩
  split at ordered
  · cases ordered
  · rename_i drafted
    split at ordered
    · rename_i outcome
      split at ordered
      · rename_i claimed
        cases ordered
        exact ⟨drafted, outcome, _, claimed⟩
      · cases ordered
    · cases ordered

end Shop

set_option synthInstance.maxSize 1000 in
/-- A code for everybody is consumed by the first order that uses it. -/
theorem discountedOrderConsumesItsCode_tenth :
    ∃ order, Shop.discounted false = some order ∧
      Consumes "order" 2200 "TENTH" (Shop.tenth false) order.reserved := by
  have performed : (Shop.discounted false).map (fun order =>
      (order.prepared.order.pricing.discountCentavos,
        (order.database.orders.lookup "order").isNone, order.claim.code,
        order.database.promotions.findByCode "TENTH",
        order.placed.promotions.redemptions)) =
      some (some (2200 : ℚ), true, "TENTH", some (Shop.tenth false), []) := by
    decide +kernel
  rcases Option.map_eq_some_iff.mp performed with ⟨order, placed, seen⟩
  simp only [Prod.mk.injEq] at seen
  rcases seen with ⟨discounted, absent, text, coded, unclaimed⟩
  rcases Shop.discounted_eq_some placed with ⟨drafted, outcome, _, claimed⟩
  rcases discountedOrderConsumesItsCode drafted discounted .first (Option.isNone_iff_eq_none.mp absent)
    outcome with ⟨claim, promo, claimed', found, consumes⟩
  cases claimed.symm.trans claimed'
  rw [text] at found consumes
  cases found.symm.trans coded
  refine ⟨order, placed, (consumes 0 Shop.environment (Shop.clock 2)
    { State.start with database := order.placed } rfl
    ⟨rfl, fun _ => rfl, rfl⟩ ⟨rfl, fun _ => rfl, rfl⟩ ?_).mpr
    ⟨rfl, by decide, nofun⟩⟩
  show ∀ row ∈ order.placed.promotions.redemptions, _
  rw [unclaimed]
  exact nofun

set_option synthInstance.maxSize 1000 in
/--
An order with a code for first orders gets its discount, and the reservation
fails because the customer has placed an order: this one.
-/
theorem firstOrderCodeNotConsumed :
    ¬ ∀ (market : Market) (clock : Clock) (customer : User)
        (input : CreateOrderInput) (orderId : ObjectId)
        (database placed : Database) (callback : Callback)
        (prepared committed : OrderDocument) (discount : ℚ),
        createOrder market clock customer input orderId database =
          .ok (callback, prepared) →
        prepared.order.pricing.discountCentavos = some discount →
        0 < discount → database.orders.lookup orderId = none →
        (callback.program clock).commit database prepared =
          (.ok (), placed, committed) →
        ∀ claim promo,
          callback.followUp none committed =
              some (.reserve claim committed) →
            placed.promotions.findByCode claim.code = some promo →
            (∀ row ∈ placed.promotions.redemptions, row.orderId ≠ some orderId) →
            Consumes orderId discount claim.code promo
              (stepReserve 0 market.toEnvironment clock claim committed
                { State.start with
                  database := placed }).database.promotions := by
  intro always
  have performed : (Shop.discounted true).map (fun order =>
      (order.prepared.order.pricing.discountCentavos,
        (order.database.orders.lookup "order").isNone, order.claim.code,
        order.placed.promotions.findByCode "TENTH",
        order.placed.promotions.redemptions,
        (stepReserve 0 Shop.environment (Shop.clock 1) order.claim
          order.committed
          { State.start with
            database := order.placed }).database.promotions.redemptions)) =
      some (some (2200 : ℚ), true, "TENTH", some (Shop.tenth true), [], []) := by
    decide +kernel
  rcases Option.map_eq_some_iff.mp performed with ⟨order, placed, seen⟩
  simp only [Prod.mk.injEq] at seen
  rcases seen with ⟨discounted, absent, text, coded, unclaimed, unreserved⟩
  rcases Shop.discounted_eq_some placed with ⟨drafted, outcome, committed, claimed⟩
  have same : committed = order.committed := by
    rcases createOrder_claims _ drafted with ⟨_, promo, _, equal, _⟩
    rw [(Prod.mk.inj equal).1] at claimed
    cases promo with
    | none => cases claimed
    | some claim =>
      cases claimed
      rfl
  rw [same] at claimed
  rw [← text] at coded
  have consumes := always _ _ _ _ _ _ _ _ _ _ _ drafted discounted
    (by decide) (Option.isNone_iff_eq_none.mp absent) outcome _ _ claimed coded
    (by rw [unclaimed]; exact nofun)
  rcases consumes.row with ⟨row, only, _⟩
  rw [show Shop.market.toEnvironment = Shop.environment from rfl, unreserved] at only
  cases only

end Lalaba.Orders
