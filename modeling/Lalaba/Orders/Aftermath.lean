import Lalaba.Orders.Account
import Lalaba.Orders.Steady

/-!
# What a run leaves behind

A run may be aborted at any of its calls and may throw at any of its checks.  A
property of a session that each single write of a callback keeps holds wherever
the run ends.
-/

namespace Lalaba.Orders

open Foundation
open Foundation.Program
open Promotions
open Wallets

/-- A change that a callback makes to its document. -/
inductive Touch where
  | patch (patch : TransitionPatch)
  | consume (consumed : ℤ)
  | collect (paymentSummary : PaymentSummary)
  | grant (promo : PromoCode) (discountCentavos : ℤ)
  | reset (status : OrderStatus) (version : ℕ)
  | schedule (slot : ScheduledPickup)

/-- Make the change. -/
def Touch.apply (document : OrderDocument) : Touch → OrderDocument
  | .patch applied => document.applyPatch applied
  | .consume consumed => document.setConsumed consumed
  | .collect paymentSummary =>
    document.assign .paymentSummary fun order =>
      { order with paymentSummary }
  | .grant promo discountCentavos =>
    document.grantFeePromo promo discountCentavos
  | .reset status version => document.resetTransition status version
  | .schedule slot =>
    document.mutate fun order =>
      { order with
        fulfillment := { order.fulfillment with scheduledPickup := some slot } }

def Path.untouched : Path → Bool
  | .serviceLines | .pickupAssignment | .returnAssignment
  | .activeQualityHold => true
  | _ => false

theorem CourierLeg.untouched_path (leg : CourierLeg) : leg.path.untouched = true := by
  cases leg <;> rfl

/-- What a change leaves of a document. -/
structure OrderDocument.Spares (document document' : OrderDocument) : Prop where
  identified : document'.order._id = document.order._id
  inserted : document'.isNew = document.isNew
  lines : document'.order.serviceLines = document.order.serviceLines
  hold : document'.order.activeQualityHold = document.order.activeQualityHold
  assignment : ∀ leg, document'.order.assignment leg = document.order.assignment leg
  marked : ∀ path : Path, path.untouched = true →
    path ∈ document'.modified → path ∈ document.modified

theorem TransitionPatch.touched_of_mem {patch : TransitionPatch}
    {path : Path} (member : path ∈ patch.paths) :
    path.untouched = false := by
  simp only [paths, Finset.mem_union, Finset.mem_insert, Finset.mem_singleton] at member
  rcases member with ((rfl | rfl) | member) | member
  · rfl
  · rfl
  · split_ifs at member
    · cases Finset.mem_singleton.mp member
      rfl
    · cases member
  · split_ifs at member
    · cases Finset.mem_singleton.mp member
      rfl
    · cases member

theorem Touch.spares (touch : Touch) (document : OrderDocument) :
    document.Spares (touch.apply document) where
  identified := by cases touch <;> rfl
  inserted := by cases touch <;> rfl
  lines := by cases touch <;> rfl
  hold := by cases touch <;> rfl
  assignment := by
    intro leg
    cases touch <;> cases leg <;> rfl
  marked := by
    intro path untouched member
    cases touch with
    | patch applied =>
      rcases Finset.mem_union.mp member with old | new
      · exact old
      · rw [TransitionPatch.touched_of_mem new] at untouched
        cases untouched
    | consume _ | collect _ | grant _ _ =>
      rcases Finset.mem_insert.mp member with rfl | old
      · cases untouched
      · exact old
    | reset status version =>
      simp only [apply, OrderDocument.resetTransition,
        OrderDocument.modified_assign, Finset.mem_insert] at member
      rcases member with rfl | rfl | old
      · cases untouched
      · cases untouched
      · exact old
    | schedule slot => exact member

/-- The changes a callback can make. -/
def Callback.touches : Callback → Touch → Prop
  | _, .patch _ => True
  | .create _ _ _, .schedule _ => True
  | .accept _ _ _ _, .reset _ _ => True
  | .accept _ _ _ _, .grant _ _ => True
  | .recordWeight _, .consume _ => True
  | .recordPayment _ _ _, .collect _ => True
  | .receive _ _ _, .consume _ => True
  | .receive _ _ _, .collect _ => True
  | .handOver _ _ _ _, .consume _ => True
  | .handOver _ _ _ _, .collect _ => True
  | .abandon _ _ _ _, .consume _ => True
  | _, _ => False

/-! ## Properties that every write keeps -/

/--
A property that the changes allowed and the calls of a run keep.  The calls are
about the order of the document only.
-/
structure Kept (orderId : ObjectId) (allowed : Touch → Prop)
    (property : Session Database OrderDocument → Prop) : Prop where
  identified : ∀ session, property session → session.memory.order._id = orderId
  spent : ∀ session, property session →
    property { session with budget := session.budget.map Nat.pred }
  save : ∀ session row saved, property session →
    session.memory.save (session.store.orders.lookup orderId) = .ok (row, saved) →
    property { session with
        store := session.store.putOrder orderId row
        memory := saved }
  update : ∀ session expected patch store, property session →
    updateOrder orderId expected patch session.store = .ok ((), store) →
    property { session with store }
  record : ∀ session event, property session →
    event.orderId = orderId →
    property { session with store := session.store.createEvent event }
  move : ∀ session branchId type amountCentavos wallets,
    property session →
    session.store.wallets.moveBalance branchId type amountCentavos (some orderId) = .ok wallets →
    property { session with store := session.store.putWallets wallets }
  receive : ∀ session transaction, property session →
    transaction.orderId = orderId →
    property { session with store := session.store.createTransaction transaction }
  promote : ∀ session promotions, property session →
    property { session with store := session.store.putPromotions promotions }
  outside : ∀ session promotions promotions', property session → property { session with
        store := session.store.putPromotions promotions
        durable := session.durable.putPromotions promotions' }
  touch : ∀ session touch, allowed touch → property session →
    property { session with memory := touch.apply session.memory }

/--
A property that rests on the rows of the orders and on the document alone: whatever
else a call of a run writes keeps it.
-/
structure Rests (orderId : ObjectId) (allowed : Touch → Prop)
    (property : Session Database OrderDocument → Prop) : Prop where
  identified : ∀ session, property session → session.memory.order._id = orderId
  beside : ∀ session store durable budget, store.orders = session.store.orders →
    property session → property { session with store, durable, budget }
  save : ∀ session row saved, property session →
    session.memory.save (session.store.orders.lookup orderId) = .ok (row, saved) →
    property { session with
        store := session.store.putOrder orderId row
        memory := saved }
  update : ∀ session expected patch store, property session →
    updateOrder orderId expected patch session.store = .ok ((), store) →
    property { session with store }
  touch : ∀ session touch, allowed touch → property session →
    property { session with memory := touch.apply session.memory }

theorem Rests.kept {orderId : ObjectId} {allowed : Touch → Prop}
    {property : Session Database OrderDocument → Prop}
    (rests : Rests orderId allowed property) :
    Kept orderId allowed property where
  identified := rests.identified
  spent := fun session => rests.beside session _ _ _ rfl
  save := rests.save
  update := rests.update
  record := fun session _ holds _ => rests.beside session _ _ _ rfl holds
  move := fun session _ _ _ _ holds _ => rests.beside session _ _ _ rfl holds
  receive := fun session _ holds _ => rests.beside session _ _ _ rfl holds
  promote := fun session _ => rests.beside session _ _ _ rfl
  outside := fun session _ _ => rests.beside session _ _ _ rfl
  touch := rests.touch

def MovesFor (orderId : ObjectId)
    (operation : WalletStore → Except ServiceError WalletStore) : Prop :=
  ∀ wallets after, operation wallets = .ok after →
    after = wallets ∨ ∃ branchId type amountCentavos,
      wallets.moveBalance branchId type amountCentavos (some orderId) = .ok after

theorem movesFor_consumeFee {branchId orderId : ObjectId} {amount : ℤ} :
    MovesFor orderId (WalletStore.consumeFee branchId amount orderId) :=
  fun _ _ moved => .inr ⟨_, _, _, moved⟩

theorem movesFor_reverseFee {branchId orderId : ObjectId} {amount : ℤ} :
    MovesFor orderId (WalletStore.reverseFee branchId amount orderId) := by
  intro wallets after moved
  rw [WalletStore.reverseFee] at moved
  split at moved
  · cases moved
    exact .inl rfl
  · exact .inr ⟨_, _, _, moved⟩

/--
A property that the changes allowed and the calls of a run keep which move neither
fees nor payments.
-/
structure Quiet (orderId : ObjectId) (allowed : Touch → Prop)
    (property : Session Database OrderDocument → Prop) : Prop where
  identified : ∀ session, property session → session.memory.order._id = orderId
  spent : ∀ session, property session →
    property { session with budget := session.budget.map Nat.pred }
  save : ∀ session row saved, property session →
    session.memory.save (session.store.orders.lookup orderId) = .ok (row, saved) →
    property { session with
        store := session.store.putOrder orderId row
        memory := saved }
  update : ∀ session expected patch store, property session →
    updateOrder orderId expected patch session.store = .ok ((), store) →
    property { session with store }
  record : ∀ session event, property session →
    event.orderId = orderId →
    property { session with store := session.store.createEvent event }
  promote : ∀ session promotions, property session →
    property { session with store := session.store.putPromotions promotions }
  outside : ∀ session promotions promotions', property session → property { session with
        store := session.store.putPromotions promotions
        durable := session.durable.putPromotions promotions' }
  touch : ∀ session touch, allowed touch → property session →
    property { session with memory := touch.apply session.memory }

theorem Kept.quiet {orderId : ObjectId} {allowed : Touch → Prop}
    {property : Session Database OrderDocument → Prop}
    (kept : Kept orderId allowed property) :
    Quiet orderId allowed property where
  identified := kept.identified
  spent := kept.spent
  save := kept.save
  update := kept.update
  record := kept.record
  promote := kept.promote
  outside := kept.outside
  touch := kept.touch

theorem Quiet.kept {orderId : ObjectId} {allowed : Touch → Prop}
    {property : Session Database OrderDocument → Prop}
    (quiet : Quiet orderId allowed property)
    (move : ∀ session branchId type amountCentavos wallets, property session →
      session.store.wallets.moveBalance branchId type amountCentavos (some orderId) = .ok wallets →
      property { session with store := session.store.putWallets wallets })
    (receive : ∀ session transaction, property session → transaction.orderId = orderId →
      property { session with
          store := session.store.createTransaction transaction }) :
    Kept orderId allowed property where
  identified := quiet.identified
  spent := quiet.spent
  save := quiet.save
  update := quiet.update
  record := quiet.record
  move := move
  receive := receive
  promote := quiet.promote
  outside := quiet.outside
  touch := quiet.touch

def Callback.goes (callback : Callback) (target : OrderStatus) : Prop :=
  ∃ pickupMode, target ∈ callback.targets pickupMode

def Callback.free : Callback → Bool
  | .create _ _ _ | .saveThenTransition _ _ _ _ _ | .accept _ _ _ _
  | .respond _ _ => true
  | _ => false

/--
The changes a callback makes of its documents are allowed: its patches where they
are computed from a document that has the property, and the others anywhere.
-/
structure Callback.Allows (callback : Callback) (clock : Clock)
    (allowed : Touch → Prop)
    (property : Session Database OrderDocument → Prop) : Prop where
  patches : ∀ session target, property session → callback.goes target →
    allowed (.patch (transitionPatch clock target session.memory.order))
  others : ∀ touch, callback.touches touch → (∀ patch, touch ≠ .patch patch) → allowed touch

theorem Callback.allows {callback : Callback} {clock : Clock}
    {property : Session Database OrderDocument → Prop} :
    callback.Allows clock callback.touches property where
  patches := by
    intro session target _ _
    cases callback <;> trivial
  others := fun _ touches _ => touches

section

variable {orderId : ObjectId} {allowed : Touch → Prop}
  {property : Session Database OrderDocument → Prop} {clock : Clock}

theorem Quiet.reading (quiet : Quiet orderId allowed property)
    {Value : Type} {next : OrderDocument → OrderProgram Value}
    (rest : ∀ document, document.order._id = orderId → Keeps property (next document)) :
    Keeps property (remember >>= next) :=
  @Keeps.reading _ _ _ _ property
    (fun document => document.order._id = orderId) next quiet.identified
    rest

theorem Quiet.saveDocument (quiet : Quiet orderId allowed property) :
    Keeps property saveDocument := by
  apply Keeps.call quiet.spent
  intro session value store memory holds ran
  rw [quiet.identified session holds] at ran
  rcases outcome : session.memory.save
      (session.store.orders.lookup orderId) with error | ⟨row, saved⟩
  · simp [outcome] at ran
  · simp only [outcome, Except.ok.injEq, Prod.mk.injEq] at ran
    rcases ran with ⟨_, rfl, rfl⟩
    exact quiet.save session row saved holds outcome

theorem Quiet.promotions (quiet : Quiet orderId allowed property)
    {change : PromotionStore → PromotionStore} :
    Keeps property (Program.query fun database =>
        .ok ((), database.putPromotions (change database.promotions)) :
        OrderProgram Unit) := by
  apply Keeps.query quiet.spent
  intro session value store holds ran
  cases ran
  exact quiet.promote session _ holds

theorem Quiet.lookup (quiet : Quiet orderId allowed property) {Value : Type}
    {action : Database → Except ServiceError Value} :
    Keeps property (Program.query fun database =>
        (action database).map fun value => (value, database) :
        OrderProgram Value) := by
  apply Keeps.query quiet.spent
  intro session value store holds ran
  rcases map_eq_ok.mp ran with ⟨found, outcome, ran⟩
  cases ran
  exact holds

theorem Quiet.settlePromo (quiet : Quiet orderId allowed property)
    {order : OnlineOrder} {target : OrderStatus} :
    Keeps property (settlePromoForTransition clock order target) := by
  rw [settlePromoForTransition]
  split
  · split
    · exact quiet.promotions
    · split
      · exact quiet.promotions
      · exact Keeps.pure ()
  · exact Keeps.pure ()

/-- A transition patches the document it has read. -/
theorem Quiet.applyTransition (quiet : Quiet orderId allowed property)
    {target : OrderStatus}
    (may : ∀ session, property session →
      allowed (.patch (transitionPatch clock target session.memory.order)))
    {actorUid : Uid} {actorRole : String} {note : Option String} :
    Keeps property (applyTransition clock target actorUid actorRole note) := by
  apply @Keeps.reading _ _ _ _ property
    (fun document => document.order._id = orderId ∧
      allowed (.patch (transitionPatch clock target document.order)))
    _ fun session holds => ⟨quiet.identified session holds, may session holds⟩
  rintro start ⟨identified, allows⟩
  rw [identified]
  apply Keeps.checking
  intro _
  have patched : Keeps property
      (Program.edit (OrderDocument.applyPatch
        (transitionPatch clock target start.order)) :
        OrderProgram Unit) := by
    apply Keeps.edit
    intro session holds
    exact quiet.touch session (.patch _) allows holds
  apply patched.bind
  intro _
  have updated : Keeps property
      (Program.query (updateOrder orderId start.order.version
        (transitionPatch clock target start.order)) :
        OrderProgram Unit) := by
    apply Keeps.query quiet.spent
    intro session value store holds ran
    exact quiet.update session _ _ store holds ran
  apply updated.bind
  intro _
  have recorded : Keeps property
      (Program.query (recordTransition orderId start.order.status target
        actorUid actorRole note) : OrderProgram Unit) := by
    apply Keeps.query quiet.spent
    intro session value store holds ran
    cases ran
    exact quiet.record session _ holds rfl
  apply recorded.bind
  intro _
  exact quiet.settlePromo

theorem Quiet.applyPlatformFeePromo (quiet : Quiet orderId allowed property)
    (grants : ∀ session promo, property session →
      allowed (.grant promo session.memory.order.pricing.waivablePlatformFeeCentavos))
    {actor : User} : Keeps property (applyPlatformFeePromo clock actor) := by
  apply @Keeps.reading _ _ _ _ property
    (fun document => ∀ promo, allowed (.grant promo
      document.order.pricing.waivablePlatformFeeCentavos))
    _ fun session holds promo => grants session promo holds
  intro start waivable
  dsimp only
  split
  · exact Keeps.pure ()
  apply Keeps.attempt
  apply Keeps.bind
  · apply Keeps.outside
    exact fun _ holds => holds
  intro found
  cases found with
  | none => exact Keeps.pure ()
  | some promo =>
    apply Keeps.bind
    · apply Keeps.outside
      exact fun session holds => quiet.outside session _ _ holds
    intro reserved
    cases reserved with
    | false => exact Keeps.pure ()
    | true =>
      apply Keeps.bind
      · apply Keeps.edit
        intro session holds
        exact quiet.touch session (.grant promo _) (waivable _) holds
      intro _
      exact quiet.saveDocument

theorem Quiet.reserveDayOf (quiet : Quiet orderId allowed property)
    {washer : Option WasherProfile} :
    Keeps property (reserveDayOf clock washer) := by
  cases washer with
  | none => exact Keeps.pure ()
  | some washer =>
    apply quiet.reading
    intro start _
    split
    · exact Keeps.pure ()
    · have counted : Keeps property
          (Program.query fun database => .ok ((), database) : OrderProgram Unit) :=
        @Quiet.lookup _ _ _ quiet Unit fun _ => .ok ()
      apply counted.bind
      intro _
      exact quiet.lookup

theorem Quiet.route (quiet : Quiet orderId allowed property)
    (may : ∀ session, property session →
      allowed (.patch (transitionPatch clock .awaitingPickupAssignment session.memory.order)))
    {actorUid : Uid} {actorRole : String} :
    Keeps property (routeToPickup clock actorUid actorRole) := by
  apply quiet.reading
  intro start _
  split
  · exact quiet.applyTransition may
  · exact Keeps.pure ()

theorem Quiet.opening {customerUid : Uid}
    (quiet : Quiet orderId allowed property)
    (moves : ∀ target,
      target = .pricingValidated ∨ target = .pendingProviderAcceptance →
      ∀ session, property session →
        allowed (.patch (transitionPatch clock target session.memory.order))) :
    Keeps property (do
      let saved ← remember
      Program.query fun database =>
        .ok ((), database.createEvent (creationEvent saved.order._id customerUid))
      Orders.applyTransition clock .pricingValidated customerUid "customer" none
      Orders.applyTransition clock .pendingProviderAcceptance customerUid "customer" none) := by
  apply quiet.reading
  intro saved identified
  have recorded : Keeps property (Program.query fun database =>
        .ok ((), database.createEvent (creationEvent saved.order._id customerUid)) :
        OrderProgram Unit) := by
    apply Keeps.query quiet.spent
    intro session value store holds ran
    cases ran
    exact quiet.record session _ holds identified
  apply recorded.bind
  intro _
  apply (quiet.applyTransition (moves _ (.inl rfl))).bind
  intro _
  exact quiet.applyTransition (moves _ (.inr rfl))

theorem Quiet.create {customerUid : Uid}
    {book : Database → Except ServiceError ScheduledPickup}
    {promo : Option PromoClaim} (quiet : Quiet orderId allowed property)
    (allows : (Callback.create customerUid book promo).Allows clock allowed property) :
    Keeps property (createInTransaction clock customerUid book) := by
  have booked : Keeps property (Program.query fun database =>
        (book database).map fun slot => (slot, database) :
        OrderProgram ScheduledPickup) :=
    quiet.lookup
  apply booked.bind
  intro slot
  have scheduled : Keeps property (Program.edit (OrderDocument.mutate fun order =>
        { order with
          fulfillment := { order.fulfillment with scheduledPickup := some slot } }) :
        OrderProgram Unit) := by
    apply Keeps.edit
    intro session holds
    exact quiet.touch session (.schedule slot) (allows.others _ trivial nofun) holds
  apply scheduled.bind
  intro _
  apply quiet.saveDocument.bind
  intro _
  apply quiet.opening
  rintro target goes session holds
  apply allows.patches session target holds
  exact ⟨.customerDropoff, by
    rcases goes with rfl | rfl <;> simp [Callback.targets]⟩

theorem Callback.goes_accepting {callback : Callback}
    (accepts : ∀ pickupMode, callback.targets pickupMode =
      .acceptedByProvider :: routeTargets pickupMode) :
    callback.goes .acceptedByProvider ∧ callback.goes .awaitingPickupAssignment := by
  constructor
  · exact ⟨.providerPickup, by simp [accepts]⟩
  · exact ⟨.providerPickup, by simp [accepts, routeTargets]⟩

theorem Quiet.accept {actor : User} {initialStatus : OrderStatus}
    {initialVersion : ℕ} {washer : Option WasherProfile}
    (quiet : Quiet orderId allowed property)
    (resets : allowed (.reset initialStatus initialVersion))
    (grants : ∀ session promo, property session →
      allowed (.grant promo session.memory.order.pricing.waivablePlatformFeeCentavos))
    (patches : ∀ session target, property session →
      (Callback.accept actor initialStatus initialVersion washer).goes target →
      allowed (.patch (transitionPatch clock target session.memory.order))) :
    Keeps property (acceptInTransaction clock actor initialStatus initialVersion washer) := by
  rcases @Callback.goes_accepting
    (.accept actor initialStatus initialVersion washer) fun _ => rfl with
    ⟨accepts, routes⟩
  have reset : Keeps property
      (Program.edit (OrderDocument.resetTransition initialStatus
        initialVersion) : OrderProgram Unit) := by
    apply Keeps.edit
    intro session holds
    exact quiet.touch session (.reset initialStatus initialVersion) resets holds
  apply reset.bind
  intro _
  apply quiet.reserveDayOf.bind
  intro _
  apply (quiet.applyTransition fun session holds =>
    patches session _ holds accepts).bind
  intro _
  apply (quiet.applyPlatformFeePromo grants).bind
  intro _
  exact quiet.route fun session holds => patches session _ holds routes

theorem Quiet.respond {customerUid : Uid} {approve : Bool}
    (quiet : Quiet orderId allowed property)
    (allows : (Callback.respond customerUid approve).Allows clock allowed property) :
    Keeps property (respondInTransaction clock customerUid approve) := by
  rw [respondInTransaction]
  cases approve with
  | true =>
    rcases @Callback.goes_accepting (.respond customerUid true)
      fun _ => rfl with ⟨accepts, routes⟩
    apply (quiet.applyTransition fun session holds =>
      allows.patches session _ holds accepts).bind
    intro _
    exact quiet.route fun session holds =>
      allows.patches session _ holds routes
  | false =>
    exact quiet.applyTransition fun session holds =>
      allows.patches session _ holds ⟨.customerDropoff, by simp [Callback.targets]⟩

theorem Quiet.program {callback : Callback}
    (quiet : Quiet orderId allowed property) (free : callback.free = true)
    (allows : callback.Allows clock allowed property) :
    Keeps property (callback.program clock) := by
  cases callback with
  | create => exact quiet.create allows
  | saveThenTransition =>
    apply quiet.saveDocument.bind
    intro _
    exact quiet.applyTransition fun session holds =>
      allows.patches session _ holds ⟨.customerDropoff, by simp [Callback.targets]⟩
  | accept =>
    exact quiet.accept (allows.others _ trivial (by simp))
      (fun _ _ _ => allows.others _ trivial (by simp)) allows.patches
  | respond => exact quiet.respond allows
  | _ => cases free

end

section

variable {orderId : ObjectId} {allowed : Touch → Prop}
  {property : Session Database OrderDocument → Prop} {clock : Clock}

theorem Kept.onWallets (kept : Kept orderId allowed property)
    {operation : WalletStore → Except ServiceError WalletStore}
    (moves : MovesFor orderId operation) :
    Keeps property (onWallets operation) := by
  apply Keeps.query kept.spent
  intro session value store holds ran
  rcases map_eq_ok.mp ran with ⟨wallets, outcome, ran⟩
  cases ran
  rcases moves _ _ outcome with rfl | ⟨branchId, type, amount, moved⟩
  · exact holds
  · exact kept.move session branchId type amount wallets holds moved

section

variable (consumes : ∀ consumed, allowed (.consume consumed))

include consumes

theorem Kept.setConsumed (kept : Kept orderId allowed property)
    {consumed : ℤ} :
    Keeps property (Program.edit (OrderDocument.setConsumed consumed) : OrderProgram Unit) := by
  apply Keeps.edit
  intro session holds
  exact kept.touch session (.consume consumed) (consumes _) holds

theorem Kept.consumeOutstandingFee (kept : Kept orderId allowed property) :
    Keeps property consumeOutstandingFee := by
  apply kept.quiet.reading
  intro start identified
  dsimp only
  rw [identified]
  split
  · exact Keeps.pure ()
  · split
    · apply (kept.onWallets movesFor_reverseFee).bind
      intro _
      apply (kept.setConsumed consumes).bind
      intro _
      exact kept.quiet.saveDocument
    · apply (kept.onWallets movesFor_consumeFee).bind
      intro _
      apply (kept.setConsumed consumes).bind
      intro _
      exact kept.quiet.saveDocument

theorem Kept.reverseConsumedFee (kept : Kept orderId allowed property)
    {reversible : ℤ} : Keeps property (reverseConsumedFee reversible) := by
  apply kept.quiet.reading
  intro start identified
  rw [identified]
  split
  · apply (kept.onWallets movesFor_reverseFee).bind
    intro _
    exact kept.setConsumed consumes
  · exact Keeps.pure ()

end

section

variable (collects : ∀ paymentSummary, allowed (.collect paymentSummary))

include collects

variable {actor : User} {input : PaymentCollectionFields}

theorem Kept.recordCollectionTransaction (kept : Kept orderId allowed property)
    {amount : ℚ} {status : OnlineTransactionStatus} :
    Keeps property (recordCollectionTransaction clock actor input amount status) := by
  apply kept.quiet.reading
  intro start identified
  apply Keeps.checking
  rintro ⟨paymentMethod, tenderedCentavos, changeCentavos⟩
  have collected : Keeps property
      (Program.edit (OrderDocument.collect clock actor._id input
        paymentMethod tenderedCentavos changeCentavos amount) :
        OrderProgram Unit) := by
    apply Keeps.edit
    intro session holds
    exact kept.touch session (.collect _) (collects _) holds
  apply collected.bind
  intro _
  apply kept.quiet.saveDocument.bind
  intro _
  apply Keeps.query kept.spent
  intro session value store holds ran
  cases ran
  exact kept.receive session _ holds identified

theorem Kept.collectNowOrLater (kept : Kept orderId allowed property)
    {collectNow : Bool} :
    Keeps property (collectNowOrLater clock actor input collectNow) := by
  apply kept.quiet.reading
  intro start _
  split
  · exact kept.recordCollectionTransaction collects
  · exact Keeps.pure ()

theorem Kept.settleOutstanding (kept : Kept orderId allowed property)
    (consumes : ∀ consumed, allowed (.consume consumed)) {outstanding : ℚ} :
    Keeps property (settleOutstanding clock actor input outstanding) := by
  apply kept.quiet.reading
  intro start _
  split
  · apply (kept.recordCollectionTransaction collects).bind
    intro _
    exact kept.consumeOutstandingFee consumes
  · exact Keeps.pure ()

end

def Callback.savesAhead : Callback → Prop
  | .saveThenTransition _ _ _ _ _ | .recordWeight _ | .recordPayment _ _ _
  | .receive _ _ _ | .handOver _ _ _ _ => True
  | _ => False

variable {callback : Callback}

/-- What their writes keep, they keep after the save. -/
theorem Kept.rest (ahead : callback.savesAhead)
    (kept : Kept orderId allowed property)
    (allows : callback.Allows clock allowed property) :
    ∃ rest : OrderProgram Unit,
      callback.program clock = (saveDocument >>= fun _ => rest) ∧
        Keeps property rest := by
  have moves : ∀ target, (∀ pickupMode, target ∈ callback.targets pickupMode) →
      ∀ (actorUid : Uid) (actorRole : String) (note : Option String),
        Keeps property (applyTransition clock target actorUid actorRole note) := by
    intro target goes actorUid actorRole note
    exact kept.quiet.applyTransition fun session holds =>
      allows.patches session target holds ⟨.customerDropoff, goes _⟩
  cases callback with
  | saveThenTransition =>
    refine ⟨_, rfl, ?_⟩
    exact moves _ (by simp [Callback.targets]) _ _ _
  | recordWeight =>
    refine ⟨_, rfl, ?_⟩
    apply (kept.consumeOutstandingFee fun _ =>
      allows.others _ trivial (by simp)).bind
    intro _
    exact moves _ (by simp [Callback.targets]) _ _ _
  | recordPayment =>
    refine ⟨_, rfl, ?_⟩
    apply (kept.collectNowOrLater fun _ =>
      allows.others _ trivial (by simp)).bind
    intro _
    apply (moves _ (by simp [Callback.targets]) _ _ _).bind
    intro _
    exact moves _ (by simp [Callback.targets]) _ _ _
  | receive =>
    refine ⟨_, rfl, ?_⟩
    apply (kept.collectNowOrLater fun _ =>
      allows.others _ trivial (by simp)).bind
    intro _
    apply (kept.consumeOutstandingFee fun _ =>
      allows.others _ trivial (by simp)).bind
    intro _
    apply (moves _ (by simp [Callback.targets]) _ _ _).bind
    intro _
    exact moves _ (by simp [Callback.targets]) _ _ _
  | handOver =>
    refine ⟨_, rfl, ?_⟩
    apply (kept.settleOutstanding
      (fun _ => allows.others _ trivial (by simp))
      fun _ => allows.others _ trivial (by simp)).bind
    intro _
    apply (moves _ (by simp [Callback.targets]) _ _ _).bind
    intro _
    exact moves _ (by simp [Callback.targets]) _ _ _
  | create | accept | respond | abandon => exact ahead.elim

theorem Kept.runs (kept : Kept orderId allowed property)
    (allows : callback.Allows clock allowed property) :
    Keeps property (callback.program clock) := by
  have saves : callback.savesAhead → Keeps property (callback.program clock) := by
    intro ahead
    rcases kept.rest ahead allows with ⟨rest, same, keeps⟩
    rw [same]
    exact kept.quiet.saveDocument.bind fun _ => keeps
  cases callback with
  | create | accept | respond => exact kept.quiet.program rfl allows
  | saveThenTransition | recordWeight | recordPayment | receive
  | handOver => exact saves trivial
  | abandon =>
    apply (kept.reverseConsumedFee fun _ =>
      allows.others _ trivial (by simp)).bind
    intro _
    apply kept.quiet.saveDocument.bind
    intro _
    exact kept.quiet.applyTransition fun session holds =>
      allows.patches session _ holds ⟨.customerDropoff, by simp [Callback.targets]⟩

theorem Kept.program (kept : Kept orderId callback.touches property) :
    Keeps property (callback.program clock) :=
  kept.runs Callback.allows

theorem Kept.committedAhead {callback : Callback}
    {held : Database → OrderDocument → Prop}
    {document document' : OrderDocument} {database after : Database}
    (ahead : callback.savesAhead)
    (kept : Kept orderId callback.touches (fun session => held session.store session.memory))
    (saves : ∀ row saved,
      document.save (database.orders.lookup document.order._id) = .ok (row, saved) →
      held (database.putOrder document.order._id row) saved)
    (outcome : (callback.program clock).commit database document =
      (.ok (), after, document')) : held after document' := by
  rcases kept.rest ahead Callback.allows with ⟨rest, same, keeps⟩
  rw [same] at outcome
  rcases commit_ok.mp outcome with ⟨finish, ran, rfl, rfl⟩
  rcases run_bind_ok.mp ran with ⟨_, middle, first, ended⟩
  have established : Ensures
      (fun store memory => store = database ∧ memory = document)
      saveDocument (fun _ store memory => held store memory) := by
    apply ensures_saveDocument
    rintro _ _ row saved ⟨rfl, rfl⟩ ran
    exact saves row saved ran
  exact keeps.ran (established _ _ _ rfl ⟨rfl, rfl⟩ first).2 ended

end

/-! ## What stays of a run that fails, and of the other orders -/

def Call.orderId : Call → ObjectId
  | .transaction _ _ _ document => document.order._id
  | .save document => document.order._id
  | .audit event => event.orderId
  | .reserve _ document => document.order._id

def Database.transitionsOf (orderId : ObjectId) (database : Database) :
    List OrderEvent :=
  database.events.filter fun event =>
    event.orderId == orderId && event.isTransition

/-- Nothing that counts about an order has changed. -/
structure Database.SameFor (orderId : ObjectId) (database after : Database) : Prop where
  row : after.orders.lookup orderId = database.orders.lookup orderId
  ledger : orderLedgerTotal orderId after.wallets = orderLedgerTotal orderId database.wallets
  receipts : orderReceipts orderId after = orderReceipts orderId database
  transitions : after.transitionsOf orderId = database.transitionsOf orderId

namespace Database.SameFor

variable {orderId other : ObjectId} {database middle after : Database}

theorem refl (database : Database) : database.SameFor orderId database := ⟨rfl, rfl, rfl, rfl⟩

theorem trans (first : database.SameFor orderId middle)
    (second : middle.SameFor orderId after) :
    database.SameFor orderId after :=
  ⟨second.row.trans first.row, second.ledger.trans first.ledger,
    second.receipts.trans first.receipts, second.transitions.trans first.transitions⟩

theorem account (same : database.SameFor orderId after) :
    after.account orderId = database.account orderId := by
  rw [Database.account, Database.account, same.row, same.ledger, same.receipts]

theorem putPromotions (promotions : PromotionStore) :
    database.SameFor orderId (database.putPromotions promotions) :=
  ⟨rfl, rfl, rfl, rfl⟩

theorem putOrder (different : orderId ≠ other) (row : OnlineOrder) :
    database.SameFor orderId (database.putOrder other row) :=
  ⟨AList.lookup_insert_ne different, rfl, rfl, rfl⟩

theorem createEvent {event : OrderEvent}
    (aside : orderId ≠ event.orderId ∨ event.isTransition = false) :
    database.SameFor orderId (database.createEvent event) := by
  refine ⟨rfl, rfl, rfl, ?_⟩
  rw [transitionsOf, transitionsOf, Database.createEvent, List.filter_append]
  rcases aside with different | audit
  · simp [Ne.symm different]
  · simp [audit]

theorem putWallets {wallets : WalletStore} {rows : List WalletLedgerEntry}
    (appended : wallets.ledger = database.wallets.ledger ++ rows)
    (foreign : ∀ row ∈ rows, row.orderId ≠ some orderId) :
    database.SameFor orderId (database.putWallets wallets) := by
  refine ⟨rfl, ?_, rfl, rfl⟩
  show Ledger.total _ _ _ wallets.ledger = _
  rw [appended, Ledger.total_append, Ledger.total_eq_zero _ _ foreign, add_zero]
  rfl

theorem createTransaction {transaction : OnlineTransaction}
    (different : orderId ≠ transaction.orderId) :
    database.SameFor orderId (database.createTransaction transaction) := by
  refine ⟨rfl, rfl, ?_, rfl⟩
  show Ledger.total _ _ _ (database.transactions ++ [transaction]) = _
  rw [Ledger.total_append, Ledger.total_singleton, if_neg (Ne.symm different), add_zero]
  rfl

theorem updateOrder (different : orderId ≠ other) {expected : ℕ}
    {patch : TransitionPatch}
    (updated : Orders.updateOrder other expected patch database = .ok ((), after)) :
    database.SameFor orderId after := by
  rcases updateOrder_ok.mp updated with ⟨row, _, _, rfl⟩
  exact putOrder different _

theorem moveBalance (different : orderId ≠ other) {branchId : ObjectId}
    {type : WalletLedgerEntryType} {amountCentavos : ℤ}
    {wallets : WalletStore}
    (moved : database.wallets.moveBalance branchId type amountCentavos (some other) = .ok wallets) :
    database.SameFor orderId (database.putWallets wallets) := by
  rcases WalletStore.moveBalance_ok.mp moved with ⟨wallet, _, rfl⟩
  apply putWallets rfl
  intro row member
  cases List.mem_singleton.mp member
  exact fun equal => different (Option.some.inj equal).symm

end Database.SameFor

theorem Callback.followUp_orderId {callback : Callback}
    {operation : Option Operation} {document : OrderDocument} {call : Call}
    (followed : callback.followUp operation document = some call) :
    call.orderId = document.order._id := by
  unfold Callback.followUp at followed
  split at followed
  · cases followed
    rfl
  · cases followed
    rfl
  · cases followed

def Database.Keyed (database : Database) : Prop :=
  ∀ orderId row, database.orders.lookup orderId = some row → row._id = orderId

theorem Database.Keyed.putOrder {database : Database}
    (keyed : database.Keyed) {orderId : ObjectId} {row : OnlineOrder}
    (identified : row._id = orderId) :
    (database.putOrder orderId row).Keyed := by
  intro other stored found
  rw [Database.putOrder] at found
  by_cases same : other = orderId
  · subst same
    rw [AList.lookup_insert] at found
    cases found
    exact identified
  · rw [AList.lookup_insert_ne same] at found
    exact keyed other stored found

section

variable {clock : Clock} {callback : Callback} {database : Database} {document : OrderDocument}

/-- A run of a callback, while it goes on and wherever it ends. -/
structure Confined (database : Database) (orderId : ObjectId)
    (session : Session Database OrderDocument) : Prop where
  identified : session.memory.order._id = orderId
  others : ∀ other, other ≠ orderId → database.SameFor other session.store
  durable : ∃ promotions, session.durable = database.putPromotions promotions
  keyed : database.Keyed → session.store.Keyed

theorem Confined.kept (database : Database) (orderId : ObjectId)
    (allowed : Touch → Prop) :
    Kept orderId allowed (Confined database orderId) where
  identified := fun _ confined => confined.identified
  spent := fun _ confined =>
    ⟨confined.identified, confined.others, confined.durable, confined.keyed⟩
  save := by
    intro session row saved confined ran
    refine ⟨?_, ?_, confined.durable, ?_⟩
    · rw [OrderDocument.save_saved ran]
      exact confined.identified
    · intro other different
      exact (confined.others other different).trans (.putOrder different _)
    · intro keyed
      apply (confined.keyed keyed).putOrder
      rw [← confined.identified] at ran ⊢
      exact OrderDocument.save_id (fun old => confined.keyed keyed _ old) ran
  update := by
    intro session expected patch store confined ran
    refine ⟨confined.identified, ?_, confined.durable, ?_⟩
    · exact fun other different =>
        (confined.others other different).trans (.updateOrder different ran)
    · intro keyed
      rcases updateOrder_ok.mp ran with ⟨row, found, _, rfl⟩
      exact (confined.keyed keyed).putOrder (confined.keyed keyed _ row found)
  record := by
    rintro session event confined rfl
    exact ⟨confined.identified,
      fun other different =>
        (confined.others other different).trans (.createEvent (.inl different)),
      confined.durable, confined.keyed⟩
  move := fun session branchId type amount wallets confined moved =>
    ⟨confined.identified,
      fun other different =>
        (confined.others other different).trans (.moveBalance different moved),
      confined.durable, confined.keyed⟩
  receive := by
    rintro session transaction confined rfl
    exact ⟨confined.identified,
      fun other different =>
        (confined.others other different).trans (.createTransaction different),
      confined.durable, confined.keyed⟩
  promote := fun session promotions confined =>
    ⟨confined.identified,
      fun other different =>
        (confined.others other different).trans (.putPromotions _),
      confined.durable, confined.keyed⟩
  outside := by
    intro session promotions promotions' confined
    rcases confined.durable with ⟨_, durable⟩
    refine ⟨confined.identified, ?_, ⟨promotions', ?_⟩, confined.keyed⟩
    · intro other different
      exact (confined.others other different).trans (.putPromotions _)
    · rw [durable]
      rfl
  touch := by
    intro session touch _ confined
    refine ⟨?_, confined.others, confined.durable, confined.keyed⟩
    exact (touch.spares _).identified.trans confined.identified

theorem Callback.confined {budget : Option ℕ} :
    Confined database document.order._id
      ((callback.program clock).runOnce budget database document).2 := by
  have kept : Keeps (Confined database document.order._id)
      (callback.program clock) :=
    (Confined.kept _ _ callback.touches).program
  apply kept
  exact ⟨rfl, fun _ _ => .refl _, ⟨database.promotions, rfl⟩, id⟩

theorem Callback.failed {failure : Failure ServiceError}
    {after : Database} {document' : OrderDocument}
    (outcome : (callback.program clock).commit database document =
      (.error failure, after, document')) :
    ∃ promotions, after = database.putPromotions promotions := by
  have confined := @Callback.confined clock callback database document none
  rw [Program.commit] at outcome
  split at outcome
  · cases outcome
  · rename_i ran
    cases outcome
    rw [ran] at confined
    exact confined.durable

theorem Callback.succeeded {after : Database} {document' : OrderDocument}
    (outcome : (callback.program clock).commit database document = (.ok (), after, document')) :
    document'.order._id = document.order._id ∧
      (∀ other, other ≠ document.order._id → database.SameFor other after) ∧
      (database.Keyed → after.Keyed) := by
  have confined := @Callback.confined clock callback database document none
  rcases commit_ok.mp outcome with ⟨finish, ran, rfl, rfl⟩
  rw [Program.runOnce, ran] at confined
  exact ⟨confined.identified, confined.others, confined.keyed⟩

end

end Lalaba.Orders
