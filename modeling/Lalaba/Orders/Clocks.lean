import Lalaba.Orders.Custody
import Lalaba.Orders.Editing
import Lalaba.Orders.History

/-!
# The clocks of an order

An order has two clocks: the express promise, which starts when its laundry is
first in progress, and the abandonment deadline, which runs while the provider
waits with finished laundry that is not paid for.  Transitions alone set them, from
the document in memory; in a timely run the document has the clocks of the row.
-/

namespace Lalaba.Orders

open Foundation
open Foundation.Program

def OnlineOrder.clocks (order : OnlineOrder) :
    OrderTurnaround × Option Instant :=
  (order.turnaround, order.abandonmentDeadlineAt)

def OnlineOrder.bill (order : OnlineOrder) : ℚ × ℚ :=
  (order.pricing.dueCentavos, order.paymentSummary.collectedCentavos)

def OrderTurnaround.express (turnaround : OrderTurnaround) : Prop :=
  turnaround.tierCode = .express ∧ ∃ slaHours, turnaround.slaHours = some slaHours ∧ slaHours ≠ 0

def OrderTurnaround.unpromised (turnaround : OrderTurnaround) :
    OrderTurnaround :=
  { turnaround with promisedCompletionAt := none }

theorem OrderTurnaround.express_unpromised {turnaround : OrderTurnaround} :
    turnaround.unpromised.express ↔ turnaround.express :=
  Iff.rfl

def Path.tells : Path → Bool
  | .promisedCompletionAt | .abandonmentDeadlineAt => true
  | _ => false

def OrderDocument.Silent (document : OrderDocument) : Prop :=
  ∀ path ∈ document.modified, path.tells = false

def Prepared.KeepsClocks (row : OnlineOrder) : Prepared → Prop
  | .transaction _ document | .saveOnly document =>
    document.order.clocks = row.clocks
  | .refuse _ | .unchanged => True

section

variable {environment : Environment} {clock : Clock} {actor : User}
  {database : Database} {row : OnlineOrder}

theorem applyHandoverProof_clocks (leg : CourierLeg)
    (objectKeys : List String) (actorUid : Uid)
    (document : OrderDocument) :
    (applyHandoverProof clock leg objectKeys actorUid
      document).order.clocks = document.order.clocks := by
  rcases applyHandoverProof_eq clock leg objectKeys actorUid document with ⟨_, _, _, same, _⟩
  rw [same]
  rfl

theorem resolveHold_clocks (hold : QualityHold) (approve : Bool)
    (order : OnlineOrder) :
    (order.resolveHold clock hold approve).clocks = order.clocks := by
  rw [OnlineOrder.resolveHold]
  split
  · split <;> rfl
  · rfl

/-- No method sets a clock. -/
theorem Operation.keepsClocks (operation : Operation) :
    Yields (operation.prepare environment clock actor database row) (Prepared.KeepsClocks row) := by
  cases operation with
  | acceptOrder =>
    apply Yields.checked
    apply Yields.bind
    intro _ _
    exact Yields.after rfl
  | rejectOrder | cancelOrder | respondToProviderChange | startPickupRoute
  | arriveAtPickup | startReturnRoute | arriveAtReturn
  | recordFailedPickupAttempt | recordFailedDeliveryAttempt
  | retryPickupSameDay | escalateToReschedule | cancelAfterFailedPickup
  | markLaundryReady | confirmReturnedToProvider | reschedulePickup
  | scheduleRedelivery | chooseReturnOption => exact Yields.after rfl
  | proposeOrderChange reason revised =>
    apply Yields.after
    cases revised <;> rfl
  | assignPickupStaff | assignReturnStaff =>
    apply Yields.checked
    split
    · exact Yields.pure trivial
    · exact Yields.pure rfl
  | updateCourierLocation input =>
    simp only [prepare, Orders.updateCourierLocation]
    split
    · exact Yields.error
    · rename_i leg _
      split
      · exact Yields.ok trivial
      · apply Yields.ok
        cases leg <;> rfl
  | recordPickupWeight input =>
    apply Yields.after
    exact applyHandoverProof_clocks _ _ _ _
  | recordPickupPayment input =>
    apply Yields.checked
    apply Yields.bind
    intro _ _
    exact Yields.pure rfl
  | receiveAtCounter input =>
    apply Yields.checked
    apply Yields.bind
    intro _ _
    apply Yields.pure
    exact applyHandoverProof_clocks _ _ _ _
  | raiseQualityHold input =>
    apply Yields.checked
    apply Yields.after
    split <;> rfl
  | respondToQualityHold approve =>
    apply Yields.checked
    apply Yields.bind
    intro hold _
    apply Yields.pure
    exact resolveHold_clocks hold approve row
  | autoResolveExpiredQualityHold =>
    simp only [prepare, Orders.autoResolveExpiredQualityHold]
    split
    · exact Yields.ok trivial
    · split
      · exact Yields.ok trivial
      · exact Yields.ok rfl
  | recordDelivery input | verifySelfPickup input =>
    apply Yields.checked
    apply Yields.after
    exact applyHandoverProof_clocks _ _ _ _
  | overrideStatus target note =>
    simp only [prepare, Orders.overrideStatus]
    split
    · exact Yields.error
    · split
      · exact Yields.ok rfl
      · split
        · exact Yields.error
        · exact Yields.error
  | abandonUnsettledOrder =>
    simp only [prepare, Orders.abandonUnsettledOrder]
    split
    · exact Yields.ok trivial
    · exact Yields.ok rfl
  | reinstateAbandonedOrder note =>
    simp only [prepare, Orders.reinstateAbandonedOrder]
    split
    · exact Yields.error
    · exact Yields.ok rfl

theorem Edited.silent {operation : Operation} {document : OrderDocument}
    (edited : Edited clock row operation document) : document.Silent := by
  intro path member
  have marked := edited.marks member
  rw [← Bool.not_eq_true]
  intro tells
  cases path with
  | promisedCompletionAt | abandonmentDeadlineAt =>
    cases operation <;> simp [Operation.marks] at marked
  | _ => cases tells

end

/-! ## Documents of aborted runs -/

/-- A document whose clocks no run has moved, and no save will write. -/
structure Untold (orderId : ObjectId)
    (clocks : OrderTurnaround × Option Instant) (document : OrderDocument) :
    Prop where
  identified : document.order._id = orderId
  clocks : document.order.clocks = clocks
  silent : document.Silent

def TransitionPatch.silent (patch : TransitionPatch) : Prop :=
  patch.promisedCompletionAt = none ∧ patch.abandonmentDeadlineAt = none

def OrderStatus.clocked (status : OrderStatus) : Bool :=
  status.abandonmentWaiting || decide (status = .laundryInProgress)

theorem transitionPatch_silent {clock : Clock} {target : OrderStatus}
    {order : OnlineOrder} (plain : target.clocked = false)
    (undated : order.abandonmentDeadlineAt = none) :
    (transitionPatch clock target order).silent := by
  simp only [OrderStatus.clocked, Bool.or_eq_false_iff, decide_eq_false_iff_not] at plain
  constructor
  · simp only [transitionPatch]
    split
    · rfl
    · simp [plain.2]
  · simp [transitionPatch, plain.1, undated]

def Touch.silent : Touch → Prop
  | .patch applied => applied.silent
  | _ => True

theorem Untold.touch {orderId : ObjectId}
    {clocks : OrderTurnaround × Option Instant} {document : OrderDocument}
    (untold : Untold orderId clocks document) {touch : Touch}
    (silent : touch.silent) : Untold orderId clocks (touch.apply document) := by
  rcases untold with ⟨identified, same, quiet⟩
  cases touch with
  | patch patch =>
    rcases silent with ⟨promise, deadline⟩
    refine ⟨identified, ?_, ?_⟩
    · rw [← same]
      simp [Touch.apply, OrderDocument.applyPatch, TransitionPatch.apply,
        OnlineOrder.clocks, promise, deadline]
    · intro path member
      simp only [Touch.apply, OrderDocument.applyPatch,
        TransitionPatch.paths, promise, deadline, Option.isSome_none,
        Bool.false_eq_true, if_false, Finset.union_empty,
        Finset.mem_union, Finset.mem_insert, Finset.mem_singleton] at member
      rcases member with old | rfl | rfl
      · exact quiet path old
      · rfl
      · rfl
  | consume | collect | grant =>
    refine ⟨identified, same, ?_⟩
    intro path member
    rcases Finset.mem_insert.mp member with rfl | old
    · rfl
    · exact quiet path old
  | reset =>
    refine ⟨identified, same, ?_⟩
    intro path member
    rcases Finset.mem_insert.mp member with rfl | member
    · rfl
    · rcases Finset.mem_insert.mp member with rfl | old
      · rfl
      · exact quiet path old
  | schedule => exact ⟨identified, same, quiet⟩

theorem Untold.rests (orderId : ObjectId)
    (clocks : OrderTurnaround × Option Instant) :
    Rests orderId Touch.silent (fun session => Untold orderId clocks session.memory) where
  identified := fun _ untold => untold.identified
  beside := fun _ _ _ _ _ untold => untold
  save := by
    intro session row saved untold ran
    rw [OrderDocument.save_saved ran]
    refine ⟨untold.identified, untold.clocks, ?_⟩
    intro path member
    cases Finset.notMem_empty path member
  update := fun _ _ _ _ untold _ => untold
  touch := fun _ _ silent untold => untold.touch silent

def Callback.untimed : Callback → Bool
  | .create _ _ _ | .accept _ _ _ _ => true
  | _ => false

theorem Callback.plain_of_untimed {callback : Callback}
    (untimed : callback.untimed = true) {target : OrderStatus}
    (goes : callback.goes target) : target.clocked = false := by
  rcases goes with ⟨pickupMode, member⟩
  cases callback with
  | create =>
    simp only [targets, List.mem_cons, List.not_mem_nil, or_false] at member
    rcases member with rfl | rfl <;> rfl
  | accept =>
    cases pickupMode <;> simp only [targets, routeTargets, List.mem_cons,
      List.not_mem_nil, or_false] at member
    · rcases member with rfl | rfl <;> rfl
    · cases member
      rfl
  | _ => cases untimed

theorem Callback.allows_silent {callback : Callback}
    (untimed : callback.untimed = true) {clock : Clock} {orderId : ObjectId}
    {clocks : OrderTurnaround × Option Instant} (undated : clocks.2 = none) :
    callback.Allows clock Touch.silent (fun session => Untold orderId clocks session.memory) where
  patches := by
    intro session target untold goes
    apply transitionPatch_silent (Callback.plain_of_untimed untimed goes)
    exact (congrArg Prod.snd untold.clocks).trans undated
  others := by
    intro touch _ other
    cases touch with
    | patch patch => exact (other patch rfl).elim
    | _ => trivial

/-- A document has the clocks it was prepared with, or a later version. -/
structure Drifted (orderId : ObjectId) (prepared document : OrderDocument) : Prop where
  identified : document.order._id = orderId
  onward : prepared.order.version ≤ document.order.version
  clocks : document.order.version = prepared.order.version →
    document.order.clocks = prepared.order.clocks

def Touch.advances (version : ℕ) : Touch → Prop
  | .patch applied => version < applied.version
  | .reset _ _ => False
  | _ => True

theorem Drifted.rests (orderId : ObjectId) (prepared : OrderDocument) :
    Rests orderId (Touch.advances prepared.order.version)
      (fun session => Drifted orderId prepared session.memory) where
  identified := fun _ drifted => drifted.identified
  beside := fun _ _ _ _ _ drifted => drifted
  save := by
    intro session row saved drifted ran
    rw [OrderDocument.save_saved ran]
    exact ⟨drifted.identified, drifted.onward, drifted.clocks⟩
  update := fun _ _ _ _ drifted _ => drifted
  touch := by
    intro session touch advances drifted
    cases touch with
    | patch patch =>
      have advances : prepared.order.version < patch.version := advances
      refine ⟨drifted.identified, advances.le, ?_⟩
      intro same
      exact (advances.ne' same).elim
    | reset => exact advances.elim
    | _ => exact ⟨drifted.identified, drifted.onward, drifted.clocks⟩

theorem Callback.allows_advances {callback : Callback}
    (keeps : callback.resets = false) {clock : Clock} {orderId : ObjectId}
    {prepared : OrderDocument} :
    callback.Allows clock (Touch.advances prepared.order.version)
      (fun session => Drifted orderId prepared session.memory) where
  patches := fun _ _ drifted _ => Nat.lt_succ_of_le drifted.onward
  others := by
    intro touch touches other
    cases touch with
    | patch patch => exact (other patch rfl).elim
    | reset =>
      cases callback with
      | accept => cases keeps
      | _ => cases touches
    | _ => trivial

/-! ## What a committed callback does to the clocks -/

def Synchronous (database : Database) (document : OrderDocument) : Prop :=
  ∃ row, database.orders.lookup document.order._id = some row ∧ row.clocks = document.order.clocks

/--
After some transitions row and document agree on their clocks: there is no deadline
unless the order waits, and a promise that was made stands; it has been made once an
express order has been in progress.
-/
structure Clocked (orderId : ObjectId) (pickupMode : FulfillmentPickupMode)
    (before : OrderTurnaround) (walked : List OrderStatus)
    (database : Database) (document : OrderDocument) : Prop where
  identified : document.order._id = orderId
  pickupMode : document.order.fulfillment.pickupMode = pickupMode
  synchronous : Synchronous database document
  undated : ∀ status, walked.getLast? = some status →
    status.abandonmentWaiting = false → document.order.abandonmentDeadlineAt = none
  terms : document.order.turnaround.unpromised = before.unpromised
  stands : ∀ promised, before.promisedCompletionAt = some promised →
    document.order.turnaround.promisedCompletionAt = some promised
  promised : document.order.turnaround.promisedCompletionAt ≠ none ↔
    before.promisedCompletionAt ≠ none ∨ before.express ∧ .laundryInProgress ∈ walked

section

variable {orderId : ObjectId} {pickupMode : FulfillmentPickupMode} {before : OrderTurnaround}

variable {document : OrderDocument} {order : OnlineOrder} {clock : Clock}
  {database : Database} {target : OrderStatus}

theorem writeTo_clocks {row : OnlineOrder}
    (same : row.clocks = document.order.clocks) :
    (document.writeTo row).clocks = document.order.clocks := by
  have turnaround : row.turnaround = document.order.turnaround := congrArg Prod.fst same
  have deadline : row.abandonmentDeadlineAt =
      document.order.abandonmentDeadlineAt :=
    congrArg Prod.snd same
  simp only [OnlineOrder.clocks, OrderDocument.writeTo, OrderDocument.pick,
    turnaround, deadline, ite_self]

theorem Synchronous.saved {database : Database}
    {document saved : OrderDocument} {row : OnlineOrder}
    (synchronous : Synchronous database document)
    (ran : document.save (database.orders.lookup document.order._id) = .ok (row, saved)) :
    Synchronous (database.putOrder document.order._id row) saved := by
  have clean := OrderDocument.save_saved ran
  subst clean
  rcases synchronous with ⟨old, found, same⟩
  refine ⟨row, AList.lookup_insert _, ?_⟩
  rcases OrderDocument.save_cases ran with ⟨_, absent, _⟩ | ⟨_, _, found', rfl⟩
  · cases found.symm.trans absent
  · cases found.symm.trans found'
    exact writeTo_clocks same

theorem TransitionPatch.apply_clocks (patch : TransitionPatch)
    {row : OnlineOrder} (same : row.clocks = order.clocks) :
    (patch.apply row).clocks = (patch.apply order).clocks := by
  have turnaround : row.turnaround = order.turnaround := congrArg Prod.fst same
  have deadline : row.abandonmentDeadlineAt = order.abandonmentDeadlineAt := congrArg Prod.snd same
  simp only [OnlineOrder.clocks, TransitionPatch.apply, turnaround, deadline]

theorem Clocked.of_orders {walked : List OrderStatus} {after : Database}
    (clocked : Clocked orderId pickupMode before walked database document)
    (orders : after.orders = database.orders) :
    Clocked orderId pickupMode before walked after document := by
  refine ⟨clocked.identified, clocked.pickupMode, ?_, clocked.undated,
    clocked.terms, clocked.stands, clocked.promised⟩
  rw [Synchronous, orders]
  exact clocked.synchronous

theorem Clocked.steady (walked : List OrderStatus) :
    Steady (Clocked orderId pickupMode before walked) where
  save := by
    apply ensures_saveDocument
    intro database document row saved clocked ran
    have synchronous := clocked.synchronous.saved ran
    have clean := OrderDocument.save_saved ran
    subst clean
    exact ⟨clocked.identified, clocked.pickupMode, synchronous,
      clocked.undated, clocked.terms, clocked.stands, clocked.promised⟩
  charge := fun _ _ _ _ _ _ clocked =>
    ⟨clocked.identified, clocked.pickupMode, clocked.synchronous,
      clocked.undated, clocked.terms, clocked.stands, clocked.promised⟩
  beside := fun _ _ _ orders _ clocked => clocked.of_orders orders

theorem transitionPatch_promise {clock : Clock} {target : OrderStatus}
    {order : OnlineOrder} :
    (transitionPatch clock target order).promisedCompletionAt ≠ none ↔
      order.turnaround.promisedCompletionAt = none ∧
        order.turnaround.express ∧ target = .laundryInProgress := by
  simp only [transitionPatch, OrderTurnaround.express]
  rcases order.turnaround.slaHours with _ | slaHours
  · simp
  · simp only [Option.some.injEq, exists_eq_left']
    split
    · rename_i holds
      simp [holds]
    · rename_i fails
      simp only [ne_eq, not_true_eq_false, false_iff]
      rintro ⟨unset, ⟨tier, hours⟩, goes⟩
      exact fails ⟨goes, tier, hours, unset⟩

theorem promised_apply_of_some {promised : Instant}
    (made : order.turnaround.promisedCompletionAt = some promised) :
    ((transitionPatch clock target order).apply order).turnaround.promisedCompletionAt =
        some promised := by
  have kept : (transitionPatch clock target order).promisedCompletionAt = none := by
    by_contra fresh
    have unset := (transitionPatch_promise.mp fresh).1
    rw [made] at unset
    cases unset
  simp only [TransitionPatch.apply, kept]
  exact made

theorem promised_apply :
    ((transitionPatch clock target
      order).apply order).turnaround.promisedCompletionAt ≠ none ↔
        order.turnaround.promisedCompletionAt ≠ none ∨
          order.turnaround.express ∧ target = .laundryInProgress := by
  rcases made : order.turnaround.promisedCompletionAt with _ | promised
  · have promise := @transitionPatch_promise clock target order
    rw [made] at promise
    simp only [TransitionPatch.apply, ne_eq, not_true_eq_false, false_or]
    rcases fresh : (transitionPatch clock target order).promisedCompletionAt with _ | promised
    · rw [fresh] at promise
      simpa [made] using promise
    · rw [fresh] at promise
      simpa using promise
  · simp [promised_apply_of_some made]

theorem transitionPatch_undated (rests : target.abandonmentWaiting = false) :
    ((transitionPatch clock target order).apply order).abandonmentDeadlineAt = none := by
  simp only [TransitionPatch.apply, transitionPatch, rests, Bool.false_eq_true, if_false]
  by_cases dated : order.abandonmentDeadlineAt = none
  · simp [dated]
  · simp [dated]

theorem Clocked.transition (walked : List OrderStatus) (clock : Clock)
    (target : OrderStatus) (actorUid : Uid) (actorRole : String)
    (note : Option String) :
    Ensures (Clocked orderId pickupMode before walked)
      (applyTransition clock target actorUid actorRole note)
      (fun _ => Clocked orderId pickupMode before (walked ++ [target])) := by
  apply @ensures_transition _ _ _ _ _ _ (Clocked orderId pickupMode before (walked ++ [target]))
  · intro database document row clocked _ found _
    rcases clocked with ⟨rfl, mode, ⟨_, found', same⟩, _, terms, stands, promised⟩
    cases found.symm.trans found'
    refine ⟨rfl, mode, ⟨_, AList.lookup_insert _,
      TransitionPatch.apply_clocks _ same⟩, ?_, ?_, ?_, ?_⟩
    · intro status last rests
      rw [List.getLast?_concat, Option.some.injEq] at last
      subst last
      exact transitionPatch_undated rests
    · exact terms
    · exact fun made before => promised_apply_of_some (stands made before)
    · have express : document.order.turnaround.express ↔
          before.express := by
        rw [← OrderTurnaround.express_unpromised, terms, OrderTurnaround.express_unpromised]
      show ((transitionPatch clock target document.order).apply
        document.order).turnaround.promisedCompletionAt ≠ none ↔ _
      rw [promised_apply, promised, express, List.mem_append,
        List.mem_singleton, or_assoc, ← and_or_left, @eq_comm _ target]
  · intro start
    exact ensures_settlePromo fun _ _ _ clocked => clocked.of_orders rfl

theorem Clocked.walk : Walk pickupMode (Clocked orderId pickupMode before) where
  pickupMode := fun _ _ _ clocked => clocked.pickupMode
  transition := Clocked.transition
  steady := fun _ _ => Clocked.steady _

theorem Clocked.start (synchronous : Synchronous database document) :
    Clocked document.order._id document.order.fulfillment.pickupMode
      document.order.turnaround [] database document where
  identified := rfl
  pickupMode := rfl
  synchronous := synchronous
  undated := nofun
  terms := rfl
  stands := fun _ => id
  promised := by simp

theorem Callback.clocks {callback : Callback} {after : Database}
    {document' : OrderDocument} (existing : ∀ customerUid book promo,
      callback ≠ .create customerUid book promo)
    (synchronous : Synchronous database document)
    (outcome : (callback.program clock).commit database document = (.ok (), after, document')) :
    Clocked document.order._id document.order.fulfillment.pickupMode
      document.order.turnaround
      (callback.targets document.order.fulfillment.pickupMode) after
      document' := by
  cases callback with
  | create customerUid book promo => exact (existing _ _ _ rfl).elim
  | accept actor initialStatus initialVersion washer =>
    have accepted : Ensures
        (fun store memory => store = database ∧ memory = document)
        (acceptInTransaction clock actor initialStatus initialVersion washer)
        (fun _ => Clocked document.order._id
          document.order.fulfillment.pickupMode document.order.turnaround
          (.acceptedByProvider :: routeTargets document.order.fulfillment.pickupMode)) := by
      apply Clocked.walk.accept
      rintro _ memory ⟨rfl, rfl⟩
      rcases Clocked.start synchronous with
        ⟨identified, mode, same, undated, terms, stands, promised⟩
      exact ⟨identified, mode, same, undated, terms, stands, promised⟩
    exact accepted.committed ⟨rfl, rfl⟩ outcome
  | _ =>
    exact (Clocked.walk.program (Clocked.steady []) (by trivial)).committed
      (.start synchronous) outcome

/-- A creation inserts its order with the clocks it has. -/
theorem Clocked.created {customerUid : Uid}
    {book : Database → Except ServiceError ScheduledPickup}
    {clock : Clock} :
    Ensures
      (fun _ document => document.isNew = true ∧
        document.order._id = orderId ∧
        document.order.fulfillment.pickupMode = pickupMode ∧
        document.order.turnaround = before)
      (createInTransaction clock customerUid book)
      (fun _ => Clocked orderId pickupMode before
        [.pricingValidated, .pendingProviderAcceptance]) := by
  let Start (_ : Database) (document : OrderDocument) : Prop :=
    document.isNew = true ∧ document.order._id = orderId ∧
      document.order.fulfillment.pickupMode = pickupMode ∧
      document.order.turnaround = before
  refine @ensures_createInTransaction clock customerUid book Start
    (Clocked orderId pickupMode before []) ?_ ?_
    (fun document => document.order._id = orderId) ?_ _ ?_
  · exact fun _ _ _ start => start
  · apply ensures_saveDocument
    rintro database document row saved ⟨isNew, rfl, rfl, rfl⟩ ran
    have clean := OrderDocument.save_saved ran
    subst clean
    rcases OrderDocument.save_cases ran with ⟨_, _, rfl⟩ | ⟨inserted, _⟩
    · exact ⟨rfl, rfl, ⟨_, AList.lookup_insert _, rfl⟩, nofun, rfl,
        fun _ => id, by simp [OrderDocument.saved]⟩
    · cases isNew.symm.trans inserted
  · exact fun _ _ clocked => clocked.identified
  · intro saved identified
    have recorded : Ensures (Clocked orderId pickupMode before []) (query fun database =>
          .ok ((), database.createEvent (creationEvent saved.order._id customerUid)) :
          OrderProgram Unit)
        (fun _ => Clocked orderId pickupMode before []) := by
      apply Ensures.query
      rintro database document value after clocked ran
      cases ran
      exact clocked.of_orders rfl
    apply recorded.bind
    intro _
    exact Clocked.walk.transitions

end

/-- Row and document of an order have this bill. -/
structure Billed (orderId : ObjectId) (bill : ℚ × ℚ) (database : Database)
    (document : OrderDocument) : Prop where
  identified : document.order._id = orderId
  memory : document.order.bill = bill
  row : ∃ row, database.orders.lookup orderId = some row ∧ row.bill = bill

def OnlineOrder.Due (order : OnlineOrder) : Prop :=
  order.status.abandonmentWaiting = true →
    (order.abandonmentDeadlineAt ≠ none ↔ order.bill.2 < order.bill.1)

section

variable {orderId : ObjectId} {bill : ℚ × ℚ} {clock : Clock}

theorem writeTo_bill {document : OrderDocument} {row : OnlineOrder}
    (same : row.bill = document.order.bill) :
    (document.writeTo row).bill = document.order.bill := by
  have due : row.pricing.dueCentavos =
      document.order.pricing.dueCentavos :=
    congrArg Prod.fst same
  have collected : row.paymentSummary.collectedCentavos =
      document.order.paymentSummary.collectedCentavos :=
    congrArg Prod.snd same
  apply Prod.ext
  · show (document.pick .pricing document.order.pricing
      row.pricing).dueCentavos = document.order.pricing.dueCentavos
    rw [OrderDocument.pick]
    split
    · rfl
    · exact due
  · show (document.pick .paymentSummary document.order.paymentSummary
      row.paymentSummary).collectedCentavos = document.order.paymentSummary.collectedCentavos
    rw [OrderDocument.pick]
    split
    · rfl
    · exact collected

theorem Billed.save :
    Ensures (Billed orderId bill) saveDocument (fun _ => Billed orderId bill) := by
  apply ensures_saveDocument
  rintro database document row saved ⟨rfl, rfl, old, found, same⟩ ran
  have clean := OrderDocument.save_saved ran
  subst clean
  refine ⟨rfl, rfl, row, AList.lookup_insert _, ?_⟩
  rcases OrderDocument.save_cases ran with ⟨_, absent, _⟩ | ⟨_, _, found', rfl⟩
  · cases found.symm.trans absent
  · cases found.symm.trans found'
    exact writeTo_bill same

theorem Billed.transition {target : OrderStatus} {actorUid : Uid}
    {actorRole : String} {note : Option String} :
    Ensures (Billed orderId bill)
      (applyTransition clock target actorUid actorRole note)
      (fun _ database document => document.order.bill = bill ∧
        ∃ row, database.orders.lookup orderId = some row ∧ row.bill = bill ∧ row.Due) := by
  apply @ensures_transition _ _ _ _ _ _
    (fun database document => document.order.bill = bill ∧
      ∃ row, database.orders.lookup orderId = some row ∧ row.bill = bill ∧ row.Due)
  · rintro database document row ⟨rfl, rfl, _, found', same⟩ _ found _
    cases found.symm.trans found'
    refine ⟨rfl, _, AList.lookup_insert _, same, ?_⟩
    intro waits
    have waits : target.abandonmentWaiting = true := waits
    have dated : ((transitionPatch clock target document.order).apply
        row).abandonmentDeadlineAt ≠ none ↔ 0 < document.order.outstandingCentavos := by
      simp [TransitionPatch.apply, transitionPatch, waits]
    rw [dated, outstandingCentavos_pos]
    show document.order.bill.2 < document.order.bill.1 ↔ row.bill.2 < row.bill.1
    rw [same]
  · intro start
    exact ensures_settlePromo fun _ _ _ => id

theorem Billed.commits {target : OrderStatus} {actorUid : Uid}
    {actorRole : String} {note : Option String} {next : Option OrderStatus}
    {database after : Database} {document document' : OrderDocument}
    (billed : Billed orderId bill database document)
    (outcome : ((Callback.saveThenTransition target actorUid actorRole note
      next).program clock).commit database document = (.ok (), after, document')) :
    document'.order.bill = bill ∧
      ∃ row, after.orders.lookup orderId = some row ∧ row.bill = bill ∧ row.Due :=
  (Billed.save.bind fun _ => Billed.transition).committed billed outcome

theorem bill_rests (orderId : ObjectId) (bill : ℚ × ℚ) :
    Rests orderId (fun touch => ∃ patch, touch = .patch patch)
      (fun session => session.memory.order._id = orderId ∧ session.memory.order.bill = bill) where
  identified := fun _ holds => holds.1
  beside := fun _ _ _ _ _ holds => holds
  save := by
    intro session row saved holds ran
    rw [OrderDocument.save_saved ran]
    exact holds
  update := fun _ _ _ _ holds _ => holds
  touch := by
    rintro session _ ⟨patch, rfl⟩ holds
    exact holds

theorem Callback.allows_patches {callback : Callback}
    (chargeless : callback.chargeless)
    {property : Session Database OrderDocument → Prop} :
    callback.Allows clock (fun touch => ∃ patch, touch = .patch patch) property where
  patches := fun _ _ _ _ => ⟨_, rfl⟩
  others := by
    intro touch touches other
    cases touch with
    | patch patch => exact ⟨patch, rfl⟩
    | _ =>
      cases callback with
      | saveThenTransition => exact touches.elim
      | _ => exact chargeless.elim

end

end Lalaba.Orders
