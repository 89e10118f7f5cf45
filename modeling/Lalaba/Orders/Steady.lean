import Lalaba.Orders.Callbacks

/-!
# Assertions that only transitions change

Between its transitions a callback saves the document, moves fees and collects
money.  An assertion that none of this changes is steady.  A family of steady
assertions, indexed by the statuses an order has taken so far, goes through a
whole callback once a single transition takes it from one index to the next.
-/

namespace Lalaba.Orders

open Foundation
open Foundation.Program
open Promotions
open Wallets

def transitionEvent (target : OrderStatus) (actorUid : Uid)
    (actorRole : String) (note : Option String) (database : Database)
    (order : OnlineOrder) : OrderEvent where
  orderId := order._id
  sequence := database.lastSequence order._id + 1
  fromStatus := some order.status
  toStatus := target
  actorUid
  actorRole
  note
  isTransition := true

/--
What a transition does when it goes through: the table allows it from the status
in memory, the row is at the version in memory, and row, timeline and document
move together.
-/
theorem ensures_transition {clock : Clock} {target : OrderStatus}
    {actorUid : Uid} {actorRole : String} {note : Option String}
    {Before Moved : Database → OrderDocument → Prop}
    {After : Unit → Database → OrderDocument → Prop}
    (moves : ∀ database document row, Before database document →
      target ∈ document.order.status.transitions →
      database.orders.lookup document.order._id = some row →
      row.version = document.order.version → Moved
        ((database.putOrder document.order._id
          ((transitionPatch clock target document.order).apply row)).createEvent
          (transitionEvent target actorUid actorRole note database document.order))
        (document.applyPatch (transitionPatch clock target document.order)))
    (settles : ∀ order, Ensures Moved
      (settlePromoForTransition clock order target) After) :
    Ensures Before (applyTransition clock target actorUid actorRole note)
      After := by
  apply Ensures.remembering
  intro start
  have validated : Ensures
      (fun database document => Before database document ∧ document = start)
      (check (assertValidTransition start.order.status target))
      (fun _ database document => (Before database document ∧
        document = start) ∧ target ∈ start.order.status.transitions) :=
    Ensures.check fun _ _ _ allowed start =>
      ⟨start, assertValidTransition_ok.mp allowed⟩
  apply validated.bind
  intro _
  let patch := transitionPatch clock target start.order
  let Patched : Database → OrderDocument → Prop :=
    fun database document => Before database start ∧
      target ∈ start.order.status.transitions ∧ document = start.applyPatch patch
  have patched : Ensures
      (fun database document => (Before database document ∧
        document = start) ∧ target ∈ start.order.status.transitions)
      (edit (OrderDocument.applyPatch patch) : OrderProgram Unit)
      (fun _ => Patched) := by
    apply Ensures.edit
    rintro database document ⟨⟨before, rfl⟩, allowed⟩
    exact ⟨before, allowed, rfl⟩
  apply patched.bind
  intro _
  let Updated : Database → OrderDocument → Prop :=
    fun database document => ∃ old row, Before old start ∧
      target ∈ start.order.status.transitions ∧
      old.orders.lookup start.order._id = some row ∧
      row.version = start.order.version ∧
      database = old.putOrder start.order._id (patch.apply row) ∧
      document = start.applyPatch patch
  have updated : Ensures Patched
      (query (updateOrder start.order._id start.order.version patch) :
        OrderProgram Unit)
      (fun _ => Updated) := by
    apply Ensures.query
    rintro database document value after ⟨before, allowed, rfl⟩ ran
    rcases updateOrder_ok.mp ran with ⟨row, found, current, rfl⟩
    exact ⟨database, row, before, allowed, found, current, rfl, rfl⟩
  apply updated.bind
  intro _
  have recorded : Ensures Updated
      (query (recordTransition start.order._id start.order.status target
        actorUid actorRole note) : OrderProgram Unit)
      (fun _ => Moved) := by
    apply Ensures.query
    rintro database document value after
      ⟨old, row, before, allowed, found, current, rfl, rfl⟩ ran
    cases ran
    exact moves old start row before allowed found current
  apply recorded.bind
  intro _
  exact settles start.order

theorem settlePromo_eq {clock : Clock} {order : OnlineOrder}
    {target : OrderStatus}
    (plain : target ≠ .rejectedByProvider ∧ target ≠ .cancelled ∧ target ≠ .completed) :
    settlePromoForTransition clock order target = pure () := by
  simp [settlePromoForTransition, plain.1, plain.2.1, plain.2.2]

def Path.holdsMoney : Path → Bool
  | .pricing | .paymentSummary => true
  | _ => false

def OrderDocument.charge (path : Path) (pricing : OrderPricing)
    (paymentSummary : PaymentSummary) (document : OrderDocument) :
    OrderDocument :=
  document.assign path fun order => { order with pricing, paymentSummary }

/-! ## Steady assertions -/

/-- An assertion that holds on, whatever a callback does but transitions. -/
structure Steady (holds : Database → OrderDocument → Prop) : Prop where
  save : Ensures holds saveDocument (fun _ => holds)
  charge : ∀ database document path pricing paymentSummary,
    path.holdsMoney → holds database document →
      holds database (document.charge path pricing paymentSummary)
  beside : ∀ database after document, after.orders = database.orders →
    after.events = database.events → holds database document → holds after document

section

variable {holds : Database → OrderDocument → Prop} {clock : Clock}

theorem Steady.onWallets (steady : Steady holds)
    {operation : WalletStore → Except ServiceError WalletStore} :
    Ensures holds (onWallets operation) (fun _ => holds) := by
  apply Ensures.query
  rintro database document value after start ran
  rcases map_eq_ok.mp ran with ⟨wallets, outcome, ran⟩
  cases ran
  exact steady.beside database _ document rfl rfl start

theorem Steady.setConsumed (steady : Steady holds) {consumed : ℤ} :
    Ensures holds
      (edit (OrderDocument.setConsumed consumed) : OrderProgram Unit)
      (fun _ => holds) := by
  apply Ensures.edit
  intro database document start
  exact steady.charge database document .pricing { document.order.pricing with
      platformFeeConsumedCentavos := some consumed }
    document.order.paymentSummary rfl start

theorem Steady.consumeOutstandingFee (steady : Steady holds) :
    Ensures holds consumeOutstandingFee (fun _ => holds) := by
  apply Ensures.reading (fun _ _ _ => trivial)
  intro start _
  dsimp only
  split
  · exact Ensures.pure fun _ _ => id
  · split
    · apply steady.onWallets.bind
      intro _
      apply steady.setConsumed.bind
      intro _
      exact steady.save
    · apply steady.onWallets.bind
      intro _
      apply steady.setConsumed.bind
      intro _
      exact steady.save

variable {actor : User} {input : PaymentCollectionFields}

theorem Steady.recordCollectionTransaction (steady : Steady holds) {amount : ℚ}
    {status : OnlineTransactionStatus} :
    Ensures holds
      (recordCollectionTransaction clock actor input amount status)
      (fun _ => holds) := by
  apply Ensures.reading (fun _ _ _ => trivial)
  intro start _
  have checked : Ensures holds (check (checkCollection input amount))
      (fun _ => holds) :=
    Ensures.check fun _ _ _ _ => id
  apply checked.bind
  rintro ⟨paymentMethod, tenderedCentavos, changeCentavos⟩
  have collected : Ensures holds
      (edit (OrderDocument.collect clock actor._id input paymentMethod
        tenderedCentavos changeCentavos amount) : OrderProgram Unit)
      (fun _ => holds) := by
    apply Ensures.edit
    intro database document holding
    exact steady.charge database document .paymentSummary
      document.order.pricing _ rfl holding
  apply collected.bind
  intro _
  apply steady.save.bind
  intro _
  apply Ensures.query
  rintro database document value after holding ran
  cases ran
  exact steady.beside database _ document rfl rfl holding

theorem Steady.collectNowOrLater (steady : Steady holds) {collectNow : Bool} :
    Ensures holds (collectNowOrLater clock actor input collectNow)
      (fun _ => holds) := by
  apply Ensures.reading (fun _ _ _ => trivial)
  intro start _
  split
  · exact steady.recordCollectionTransaction
  · exact Ensures.pure fun _ _ => id

theorem Steady.settleOutstanding (steady : Steady holds) {outstanding : ℚ} :
    Ensures holds (settleOutstanding clock actor input outstanding)
      (fun _ => holds) := by
  apply Ensures.reading (fun _ _ _ => trivial)
  intro start _
  split
  · apply steady.recordCollectionTransaction.bind
    intro _
    exact steady.consumeOutstandingFee
  · exact Ensures.pure fun _ _ => id

theorem Steady.reverseConsumedFee (steady : Steady holds)
    {reversible : ℤ} :
    Ensures holds (reverseConsumedFee reversible) (fun _ => holds) := by
  apply Ensures.reading (fun _ _ _ => trivial)
  intro start _
  split
  · apply steady.onWallets.bind
    intro _
    exact steady.setConsumed
  · exact Ensures.pure fun _ _ => id

theorem Steady.applyPlatformFeePromo (steady : Steady holds) :
    Ensures holds (applyPlatformFeePromo clock actor) (fun _ => holds) := by
  apply Ensures.reading (fun _ _ _ => trivial)
  intro start _
  dsimp only
  split
  · exact Ensures.pure fun _ _ => id
  apply Ensures.attempt
  apply Keeps.bind
  · apply Keeps.outside
    exact fun _ holding => holding
  intro found
  cases found with
  | none => exact Keeps.pure ()
  | some promo =>
    apply Keeps.bind
    · apply Keeps.outside
      rintro session ⟨unlimited, holding⟩
      exact ⟨unlimited, steady.beside session.store _ session.memory rfl rfl holding⟩
    intro reserved
    cases reserved with
    | false => exact Keeps.pure ()
    | true =>
      apply Keeps.bind
      · apply Keeps.edit
        rintro session ⟨unlimited, holding⟩
        exact ⟨unlimited, steady.charge session.store session.memory
          .pricing _ session.memory.order.paymentSummary rfl holding⟩
      intro _
      exact steady.save.keeps_call

theorem ensures_reserveDayOf {washer : Option WasherProfile} :
    Ensures holds (reserveDayOf clock washer) (fun _ => holds) := by
  cases washer with
  | none => exact Ensures.pure fun _ _ => id
  | some washer =>
    apply Ensures.reading (fun _ _ _ => trivial)
    intro start _
    split
    · exact Ensures.pure fun _ _ => id
    · have counted : Ensures holds
          (query fun database => .ok ((), database) : OrderProgram Unit)
          (fun _ => holds) := by
        apply Ensures.query
        rintro database document value after holding ran
        cases ran
        exact holding
      apply counted.bind
      intro _
      apply Ensures.query
      rintro database document value after holding ran
      rcases map_eq_ok.mp ran with ⟨_, outcome, ran⟩
      cases ran
      exact holding

end

/-! ## Walking through a callback -/

def routeTargets : FulfillmentPickupMode → List OrderStatus
  | .providerPickup => [.awaitingPickupAssignment]
  | .customerDropoff => []

/-- The statuses a callback takes its order through. -/
def Callback.targets (pickupMode : FulfillmentPickupMode) :
    Callback → List OrderStatus
  | .create _ _ _ => [.pricingValidated, .pendingProviderAcceptance]
  | .saveThenTransition target _ _ _ _ => [target]
  | .accept _ _ _ _ => .acceptedByProvider :: routeTargets pickupMode
  | .respond _ approve =>
    if approve then
      .acceptedByProvider :: routeTargets pickupMode
    else
      [.cancelled]
  | .recordWeight _ => [.pickupWeighed]
  | .recordPayment _ _ _ => [.pickedUpFromCustomer, .laundryInProgress]
  | .receive _ _ _ => [.receivedByProvider, .laundryInProgress]
  | .handOver _ _ _ handedOver => [handedOver, .completed]
  | .abandon _ _ _ _ => [.abandonedUnsettled]

theorem Callback.targets_ne_nil (callback : Callback)
    {pickupMode : FulfillmentPickupMode} :
    callback.targets pickupMode ≠ [] := by
  cases callback with
  | respond customerUid approve => cases approve <;> simp [targets]
  | _ => simp [targets]

def Callback.keepsDocument : Callback → Prop
  | .create _ _ _ | .accept _ _ _ _ => False
  | _ => True

/-- A family of assertions that every transition takes one step further. -/
structure Walk (pickupMode : FulfillmentPickupMode)
    (holds : List OrderStatus → Database → OrderDocument → Prop) :
    Prop where
  pickupMode : ∀ walked database document,
    holds walked database document → document.order.fulfillment.pickupMode = pickupMode
  transition : ∀ walked clock target actorUid actorRole note,
    Ensures (holds walked)
      (applyTransition clock target actorUid actorRole note)
      (fun _ => holds (walked ++ [target]))
  steady : ∀ walked target, Steady (holds (walked ++ [target]))

section

variable {pickupMode : FulfillmentPickupMode}
  {holds : List OrderStatus → Database → OrderDocument → Prop}
  {clock : Clock} {walked : List OrderStatus}

theorem Walk.transitions (walk : Walk pickupMode holds)
    {first second : OrderStatus} {actorUid : Uid} {actorRole : String}
    {note note' : Option String} :
    Ensures (holds walked) (do
        applyTransition clock first actorUid actorRole note
        applyTransition clock second actorUid actorRole note')
      (fun _ => holds (walked ++ [first, second])) := by
  apply (walk.transition walked _ _ _ _ _).bind
  intro _
  have next := walk.transition (walked ++ [first]) clock second actorUid actorRole note'
  rw [List.append_assoc] at next
  exact next

theorem Walk.route (walk : Walk pickupMode holds) {actorUid : Uid}
    {actorRole : String} :
    Ensures (holds walked) (routeToPickup clock actorUid actorRole)
      (fun _ => holds (walked ++ routeTargets pickupMode)) := by
  apply Ensures.reading (walk.pickupMode walked)
  rintro start rfl
  cases start.order.fulfillment.pickupMode with
  | providerPickup => exact walk.transition walked _ _ _ _ _
  | customerDropoff =>
    simp only [routeTargets, List.append_nil]
    exact Ensures.pure fun _ _ => id

/-- A walk goes through every callback that starts from its document. -/
theorem Walk.program (walk : Walk pickupMode holds)
    (steady : Steady (holds [])) {callback : Callback}
    (keeps : callback.keepsDocument) :
    Ensures (holds []) (callback.program clock)
      (fun _ => holds (callback.targets pickupMode)) := by
  cases callback with
  | create | accept => exact keeps.elim
  | saveThenTransition =>
    apply steady.save.bind
    intro _
    exact walk.transition [] _ _ _ _ _
  | respond customerUid approve =>
    show Ensures _ (respondInTransaction _ _ _) _
    rw [respondInTransaction]
    cases approve with
    | true =>
      apply (walk.transition [] _ _ _ _ _).bind
      intro _
      exact walk.route
    | false => exact walk.transition [] _ _ _ _ _
  | recordWeight =>
    apply steady.save.bind
    intro _
    apply steady.consumeOutstandingFee.bind
    intro _
    exact walk.transition [] _ _ _ _ _
  | recordPayment =>
    apply steady.save.bind
    intro _
    apply steady.collectNowOrLater.bind
    intro _
    exact walk.transitions
  | receive =>
    apply steady.save.bind
    intro _
    apply steady.collectNowOrLater.bind
    intro _
    apply steady.consumeOutstandingFee.bind
    intro _
    exact walk.transitions
  | handOver =>
    apply steady.save.bind
    intro _
    apply steady.settleOutstanding.bind
    intro _
    exact walk.transitions
  | abandon =>
    apply steady.reverseConsumedFee.bind
    intro _
    apply steady.save.bind
    intro _
    exact walk.transition [] _ _ _ _ _

theorem Walk.accept (walk : Walk pickupMode holds) {actor : User}
    {initialStatus : OrderStatus} {initialVersion : ℕ}
    {washer : Option WasherProfile}
    {before : Database → OrderDocument → Prop}
    (reset : ∀ database document, before database document →
      holds [] database (document.resetTransition initialStatus initialVersion)) :
    Ensures before
      (acceptInTransaction clock actor initialStatus initialVersion washer)
      (fun _ => holds (.acceptedByProvider :: routeTargets pickupMode)) := by
  have started : Ensures before
      (edit (OrderDocument.resetTransition initialStatus
        initialVersion) : OrderProgram Unit)
      (fun _ => holds []) :=
    Ensures.edit reset
  apply started.bind
  intro _
  apply ensures_reserveDayOf.bind
  intro _
  apply (walk.transition [] _ _ _ _ _).bind
  intro _
  apply (walk.steady [] _).applyPlatformFeePromo.bind
  intro _
  exact walk.route

end

/-- A creation goes through these two writes before its transitions. -/
theorem ensures_createInTransaction {clock : Clock}
    {customerUid : Uid}
    {book : Database → Except ServiceError ScheduledPickup}
    {Before Inserted : Database → OrderDocument → Prop}
    (schedules : ∀ database document slot, Before database document →
      Before database (document.mutate fun order =>
        { order with
          fulfillment := { order.fulfillment with scheduledPickup := some slot } }))
    (inserts : Ensures Before saveDocument (fun _ => Inserted))
    {Named : OrderDocument → Prop}
    (named : ∀ database document, Inserted database document → Named document)
    {After : Unit → Database → OrderDocument → Prop}
    (transitions : ∀ saved : OrderDocument, Named saved → Ensures Inserted (do
        query fun database =>
          .ok ((), database.createEvent (creationEvent saved.order._id customerUid))
        applyTransition clock .pricingValidated customerUid "customer" none
        applyTransition clock .pendingProviderAcceptance customerUid "customer" none)
      After) :
    Ensures Before (createInTransaction clock customerUid book) After := by
  have booked : Ensures Before (query fun database =>
        (book database).map fun slot => (slot, database))
      (fun _ => Before) := by
    apply Ensures.query
    rintro database document slot after start ran
    rcases map_eq_ok.mp ran with ⟨slot, outcome, ran⟩
    cases ran
    exact start
  apply booked.bind
  intro slot
  have scheduled : Ensures Before (edit (OrderDocument.mutate fun order =>
        { order with
          fulfillment := { order.fulfillment with scheduledPickup := some slot } }) :
        OrderProgram Unit)
      (fun _ => Before) :=
    Ensures.edit fun database document start =>
      schedules database document slot start
  apply scheduled.bind
  intro _
  apply inserts.bind
  intro _
  apply Ensures.reading named
  exact transitions

end Lalaba.Orders
