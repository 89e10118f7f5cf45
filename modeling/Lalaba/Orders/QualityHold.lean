import Lalaba.Orders.Custody
import Lalaba.Orders.Editing
import Lalaba.Orders.History

/-!
# Orders on hold

A blocking quality hold stops an order until its customer answers, or until a
sweep finds that the time for it has run out.  A hold that only documents is
saved outside any transaction, over whatever hold is stored by then.
-/

namespace Lalaba.Orders

open Foundation
open Foundation.Program

def QualityHold.pending (hold : QualityHold) : Bool :=
  hold.blocksOrder && hold.respondTimeoutAt.isSome && hold.resolvedAt.isNone

def OnlineOrder.held (order : OnlineOrder) : Bool := order.activeQualityHold.any QualityHold.pending

def Resolvable (clock : Clock) (order : OnlineOrder) : Prop :=
  (∃ hold, answerableHold clock order = .ok hold) ∨
    ∃ callback document, autoResolveExpiredQualityHold clock order =
      .ok (.transaction callback document)

variable {order : OnlineOrder} {operation : Operation}

theorem OnlineOrder.resolvable (status : order.status = .laundryQualityHold)
    (held : order.held = true) (clock : Clock) :
    Resolvable clock order := by
  rcases found : order.activeQualityHold with _ | hold
  · simp [OnlineOrder.held, found] at held
  · simp only [OnlineOrder.held, found, Option.any_some,
      QualityHold.pending, Bool.and_eq_true, Option.isSome_iff_exists,
      Option.isNone_iff_eq_none] at held
    rcases held with ⟨⟨_, limit, waits⟩, unresolved⟩
    by_cases late : limit < clock.now
    · have waited : ¬ clock.now < limit := not_lt.mpr late.le
      right
      simp [autoResolveExpiredQualityHold, found, status, waits, unresolved, waited]
    · refine .inl ⟨hold, ?_⟩
      simp [answerableHold, found, waits, unresolved, late]

theorem answered_pending (clock : Clock) (response : QualityHoldResponse)
    (hold : QualityHold) :
    (hold.answered clock response).pending = false := by
  simp [QualityHold.pending, QualityHold.answered]

theorem raisedHold_pending (clock : Clock)
    (input : RaiseQualityHoldInput) :
    (raisedHold clock input).pending = input.blocksOrder := by
  cases blocks : input.blocksOrder <;> simp [QualityHold.pending, raisedHold, blocks]

/-! ## What the calls make of a hold -/

def HeldAs (status : OrderStatus) (order : OnlineOrder) : Prop :=
  status = .laundryQualityHold ∧ order.held = true ∨
    status = .laundryInProgress ∧ order.held = false

def OrderStatus.turns (status : OrderStatus) : Prop :=
  status = .laundryQualityHold ∨ status = .laundryInProgress

theorem HeldAs.turns {status : OrderStatus} (held : HeldAs status order) : status.turns :=
  held.imp And.left And.left

theorem HeldAs.of_hold {status : OrderStatus} {other : OnlineOrder}
    (held : HeldAs status order)
    (same : other.activeQualityHold = order.activeQualityHold) :
    HeldAs status other := by
  rw [HeldAs, OnlineOrder.held, same]
  exact held

theorem turns_of_followUps {first second : OrderStatus}
    (member : (first, second) ∈ followUps) :
    ¬ first.turns ∧ ¬ second.turns := by
  simp only [followUps, List.mem_cons, Prod.mk.injEq, List.not_mem_nil, or_false] at member
  rcases member with ⟨rfl, rfl⟩ | ⟨rfl, rfl⟩ | ⟨rfl, rfl⟩ | ⟨rfl, rfl⟩ <;> simp [OrderStatus.turns]

theorem Operation.edits_hold (marked : .activeQualityHold ∈ operation.marks) :
    (∃ input, operation = .raiseQualityHold input) ∨
      (∃ approve, operation = .respondToQualityHold approve) ∨
        operation = .autoResolveExpiredQualityHold := by
  cases operation with
  | raiseQualityHold input => exact .inl ⟨input, rfl⟩
  | respondToQualityHold approve => exact .inr (.inl ⟨approve, rfl⟩)
  | autoResolveExpiredQualityHold => exact .inr (.inr rfl)
  | _ => simp [marks] at marked

theorem Operation.edits_of_turns {row : OnlineOrder} {target : OrderStatus}
    (aims : operation.aim row = some target) (turns : target.turns)
    (free : operation.forces = false) :
    .activeQualityHold ∈ operation.marks := by
  cases operation with
  | raiseQualityHold | respondToQualityHold
  | autoResolveExpiredQualityHold => simp [marks]
  | overrideStatus => cases free
  | respondToProviderChange approve =>
    cases approve <;> cases aims <;> rcases turns with turn | turn <;> cases turn
  | chooseReturnOption returnMode =>
    cases returnMode <;> cases aims <;> rcases turns with turn | turn <;> cases turn
  | reinstateAbandonedOrder note =>
    simp only [aim, Option.some.injEq] at aims
    split at aims <;> cases aims <;> rcases turns with turn | turn <;> cases turn
  | _ => cases aims <;> rcases turns with turn | turn <;> cases turn

theorem Drafted.heldAs {actor : User} {clock : Clock} {row : OnlineOrder}
    {callback : Callback} {document : OrderDocument}
    (drafted : Drafted actor row operation callback document)
    (edited : Edited clock row operation document)
    (moves : operation.savesOnly = false)
    (marked : .activeQualityHold ∈ document.modified) :
    HeldAs callback.aim document.order := by
  have aims := drafted.aims
  have edits := edited.edits
  rcases Operation.edits_hold (edited.marks marked) with ⟨input, rfl⟩ | ⟨approve, rfl⟩ | rfl
  · left
    rcases edits with ⟨hold, _⟩
    refine ⟨(Option.some.inj aims).symm, ?_⟩
    rw [OnlineOrder.held, hold, Option.any_some, raisedHold_pending]
    simpa [Operation.savesOnly] using moves
  · right
    rcases edits with ⟨hold, _, answered, _⟩
    refine ⟨(Option.some.inj aims).symm, ?_⟩
    rw [OnlineOrder.held, answered, Option.any_some, answered_pending]
  · right
    rcases edits with ⟨hold, _, _, _, answered, _⟩
    refine ⟨(Option.some.inj aims).symm, ?_⟩
    rw [OnlineOrder.held, answered, Option.any_some, answered_pending]

/-- What a call in flight may do to the hold of its order. -/
def Minds : Call → Prop
  | .transaction _ callback prepared document =>
    (∀ customerUid book promo, callback = .create customerUid book promo →
          document.order.activeQualityHold = none) ∧
      (.activeQualityHold ∈ document.modified → .activeQualityHold ∈ prepared.modified) ∧
      (.activeQualityHold ∈ prepared.modified →
        callback.chargeless ∧ callback.next = none ∧ HeldAs callback.aim document.order) ∧
      (callback.aim.turns → .activeQualityHold ∈ prepared.modified)
  | .save document =>
    .activeQualityHold ∈ document.modified → document.order.held = false
  | .reserve _ document => .activeQualityHold ∉ document.modified
  | .audit _ => True

/--
A step that minds the holds of an order: a transaction still has the hold to write
that its method edited, and a hold that only documents is not saved over an order
on hold.
-/
def mindful (orderId : ObjectId) (state : State) : Action → Bool
  | .commit index _ _ =>
    match state.calls[index]? with
    | some (.transaction _ _ prepared document) =>
      decide (document.order._id ≠ orderId) ||
        decide (.activeQualityHold ∈ prepared.modified → .activeQualityHold ∈ document.modified)
    | some (.save document) =>
      decide (document.order._id ≠ orderId) ||
        decide (.activeQualityHold ∉ document.modified) ||
        (state.database.orders.lookup orderId).all fun row =>
          row.status != .laundryQualityHold
    | _ => true
  | _ => true

/-- No run of a callback changes the hold in memory, or marks it. -/
structure Unedited (orderId : ObjectId) (document memory : OrderDocument) : Prop where
  identified : memory.order._id = orderId
  hold : memory.order.activeQualityHold = document.order.activeQualityHold
  marked : .activeQualityHold ∈ memory.modified → .activeQualityHold ∈ document.modified

theorem Unedited.rests {orderId : ObjectId} {callback : Callback}
    (document : OrderDocument) :
    Rests orderId callback.touches (fun session => Unedited orderId document session.memory) where
  identified := fun _ unedited => unedited.identified
  beside := fun _ _ _ _ _ unedited => unedited
  save := by
    intro session row saved unedited ran
    rw [OrderDocument.save_saved ran]
    exact ⟨unedited.identified, unedited.hold, nofun⟩
  update := fun _ _ _ _ unedited _ => unedited
  touch := by
    intro session touch _ unedited
    have spares := touch.spares session.memory
    exact ⟨spares.identified.trans unedited.identified, spares.hold.trans unedited.hold,
      fun again => unedited.marked (spares.marked _ rfl again)⟩

/-- The stored row has this hold, and nothing is left to write of it. -/
structure Holding (orderId : ObjectId) (hold : Option QualityHold)
    (orders : Collection OnlineOrder) (document : OrderDocument) : Prop where
  identified : document.order._id = orderId
  clean : .activeQualityHold ∉ document.modified
  inserts : document.isNew = true → document.order.activeQualityHold = hold
  row : ∀ row, orders.lookup orderId = some row → row.activeQualityHold = hold

theorem Holding.saved {orderId : ObjectId} {hold : Option QualityHold}
    {database : Database} {document saved : OrderDocument}
    {row : OnlineOrder}
    (holding : Holding orderId hold database.orders document)
    (ran : document.save (database.orders.lookup orderId) = .ok (row, saved)) :
    Holding orderId hold (database.putOrder orderId row).orders saved := by
  have clean := OrderDocument.save_saved ran
  subst clean
  refine ⟨holding.identified, by simp [OrderDocument.saved], nofun, ?_⟩
  intro stored found
  cases (AList.lookup_insert _).symm.trans found
  rcases OrderDocument.save_cases ran with ⟨isNew, _, rfl⟩ | ⟨_, old, found', rfl⟩
  · exact holding.inserts isNew
  · show document.pick .activeQualityHold _ _ = hold
    rw [OrderDocument.pick, if_neg holding.clean]
    exact holding.row old found'

theorem Holding.rests {orderId : ObjectId} {callback : Callback}
    (hold : Option QualityHold) :
    Rests orderId callback.touches (fun session =>
        Holding orderId hold session.store.orders session.memory) where
  identified := fun _ holding => holding.identified
  beside := fun _ _ _ _ same holding => same ▸ holding
  save := fun _ _ _ holding ran => holding.saved ran
  update := by
    intro session expected patch store holding ran
    rcases updateOrder_ok.mp ran with ⟨row, found, _, rfl⟩
    refine ⟨holding.identified, holding.clean, holding.inserts, ?_⟩
    intro stored found'
    cases (AList.lookup_insert _).symm.trans found'
    exact holding.row row found
  touch := by
    intro session touch _ holding
    have spares := touch.spares session.memory
    refine ⟨spares.identified.trans holding.identified,
      fun again => holding.clean (spares.marked _ rfl again), ?_,
      holding.row⟩
    intro again
    exact spares.hold.trans (holding.inserts (spares.inserted.symm.trans again))

section

variable {orderId : ObjectId} {clock : Clock} {callback : Callback}
  {document document' : OrderDocument} {database after : Database}

theorem Holding.committed {hold : Option QualityHold}
    (holding : Holding orderId hold database.orders document)
    (outcome : (callback.program clock).commit database document = (.ok (), after, document')) :
    Holding orderId hold after.orders document' := by
  have kept : Keeps (fun session : Session Database OrderDocument =>
        Holding orderId hold session.store.orders session.memory)
      (callback.program clock) :=
    (Holding.rests hold).kept.program
  exact @Keeps.committed _ _ _ _ (fun (database : Database) memory =>
      Holding orderId hold database.orders memory)
    _ _ _ _ _ _ kept holding outcome

theorem Holding.written (chargeless : callback.chargeless)
    (identified : document.order._id = orderId)
    (inserted : document.isNew = false)
    (marked : .activeQualityHold ∈ document.modified)
    (outcome : (callback.program clock).commit database document = (.ok (), after, document')) :
    Holding orderId document.order.activeQualityHold after.orders
      document' := by
  have ahead : callback.savesAhead := by
    cases callback with
    | saveThenTransition => trivial
    | _ => exact chargeless.elim
  apply @Kept.committedAhead _ _ _
    (fun database memory => Holding orderId document.order.activeQualityHold database.orders memory)
    _ _ _ _ ahead (Holding.rests _).kept _ outcome
  intro row saved ran
  rw [OrderDocument.save_saved ran]
  rcases OrderDocument.save_ok inserted ran with ⟨old, _, rfl, _⟩
  refine ⟨identified, by simp [OrderDocument.saved], nofun, ?_⟩
  intro stored found
  rw [identified] at found
  cases (AList.lookup_insert _).symm.trans found
  exact if_pos marked

theorem Callback.lands_on_hold {pickupMode : FulfillmentPickupMode}
    (lands : (callback.targets pickupMode).getLast? = some .laundryQualityHold) :
    callback.aim = .laundryQualityHold := by
  cases callback with
  | saveThenTransition target => exact Option.some.inj lands
  | accept => cases pickupMode <;> cases lands
  | respond customerUid approve =>
    cases approve <;> cases pickupMode <;> cases lands
  | _ => cases lands

end

/-! ## Runs -/

def Database.HoldsRightly (orderId : ObjectId) (database : Database) :
    Prop :=
  ∀ row, database.orders.lookup orderId = some row →
    (row.status = .laundryQualityHold ↔ row.held = true)

section

variable {orderId : ObjectId} {state after : State} {action : Action}
  {clock : Clock} {operation : Option Operation} {callback : Callback}
  {prepared document document' : OrderDocument} {database : Database}

/-- A call that is begun minds the hold. -/
theorem Minds.begun {call : Call}
    (minds : ∀ other ∈ state.calls, other.orderId = orderId → Minds other)
    (free : unforced orderId action = true)
    (begun : Begun orderId state action after call)
    (about : call.orderId = orderId) : Minds call := by
  cases begun with
  | booked _ _ _ _ _ _ _ ordered =>
    have booked := createOrder_books _ ordered
    rcases booked.creates with ⟨_, _, _, rfl⟩
    rcases booked.orders with ⟨_, _, _, _, _, _, _, rfl, _⟩
    refine ⟨fun _ _ _ _ => rfl, id, nofun, ?_⟩
    rintro (turn | turn) <;> cases turn
  | drafted environment clock actor method row callback document requested _ _ _ prepares =>
    subst requested
    have drafted : Drafted actor row method callback document := method.drafts _ prepares
    rcases method.edited _ prepares with ⟨edited, moves, saves⟩
    have unforced : method.forces = false := by
      simpa [unforced] using free
    refine ⟨?_, id, ?_, ?_⟩
    · rintro _ _ _ rfl
      exact drafted.fits.elim
    · intro marked
      have held := drafted.heldAs edited moves marked
      refine ⟨saves ?_, ?_, held⟩
      · rcases Operation.edits_hold (edited.marks marked) with ⟨_, rfl⟩ | ⟨_, rfl⟩ | rfl <;> rfl
      · rcases next : callback.next with _ | target
        · rfl
        · have continues := drafted.follows target next
          exact ((turns_of_followUps continues).1 held.turns).elim
    · intro turns
      exact edited.writes _ (Operation.edits_of_turns drafted.aims turns unforced) rfl
  | amended environment clock actor method row document requested _ prepares =>
    rcases method.edited _ prepares with ⟨edited, only⟩
    intro marked
    have edits := edited.edits
    rcases Operation.edits_hold (edited.marks marked) with ⟨input, rfl⟩ | ⟨_, rfl⟩ | rfl
    · rcases edits with ⟨hold, _⟩
      rw [OnlineOrder.held, hold, Option.any_some, raisedHold_pending]
      simpa [Operation.savesOnly] using only
    · cases only
    · cases only
  | audited => trivial
  | aborted index budget clock operation callback prepared document _ flying =>
    have confined := @Callback.confined clock callback state.database document (some budget)
    have about' : document.order._id = orderId := confined.identified.symm.trans about
    have kept : Keeps (fun session : Session Database OrderDocument =>
          Unedited orderId document session.memory)
        (callback.program clock) :=
      (Unedited.rests document).kept.program
    have unedited := kept
      ⟨state.database, state.database, document, some budget⟩
      ⟨about', rfl, id⟩
    rcases minds _ (List.mem_of_getElem? flying) about' with ⟨unheld, marked, held, turns⟩
    refine ⟨?_, fun again => marked (unedited.marked again), ?_, turns⟩
    · exact fun _ _ _ creates =>
        unedited.hold.trans (unheld _ _ _ creates)
    · intro again
      rcases held again with ⟨chargeless, last, heldAs⟩
      exact ⟨chargeless, last, heldAs.of_hold unedited.hold⟩
  | reserved index environment clock claim document promoId _ flying =>
    have clean : .activeQualityHold ∉ document.modified :=
      minds _ (List.mem_of_getElem? flying) about
    intro marked
    rcases Finset.mem_insert.mp marked with same | old
    · cases same
    · exact (clean old).elim

theorem Minds.follows {call : Call} {hold : Option QualityHold}
    (read : Read orderId state (.transaction operation callback prepared document))
    (holding : Holding orderId hold database.orders document')
    (followed : callback.followUp operation document' = some call) :
    Minds call := by
  have clean : .activeQualityHold ∉ document'.markAssignments.modified := by
    simpa using holding.clean
  unfold Callback.followUp at followed
  split at followed
  · rename_i first actorUid actorRole note next
    cases followed
    exact ⟨nofun, id, fun marked => (clean marked).elim,
      fun turns => ((turns_of_followUps read.continues).2 turns).elim⟩
  · cases followed
    exact holding.clean
  · cases followed

/-- A commit that minds the hold keeps the order on hold rightly. -/
theorem Minds.commits
    (minds : Minds (.transaction operation callback prepared document))
    (read : Read orderId state (.transaction operation callback prepared document))
    (mindful : .activeQualityHold ∈ prepared.modified → .activeQualityHold ∈ document.modified)
    (about : document.order._id = orderId)
    (advanced : Advanced orderId callback prepared state.database database document')
    (rightly : state.database.HoldsRightly orderId)
    (outcome : (callback.program clock).commit state.database document =
      (.ok (), database, document')) :
    database.HoldsRightly orderId ∧ ∃ hold, Holding orderId hold database.orders document' := by
  rcases minds with ⟨unheld, marks, held, turns⟩
  by_cases marked : .activeQualityHold ∈ document.modified
  · -- The method has edited the hold: it is saved before its transition.
    rcases held (marks marked) with ⟨chargeless, _, heldAs⟩
    have inserted : document.isNew = false := by
      rcases read with booked | ⟨_, _, inserted, _⟩
      · rcases booked.creates with ⟨_, _, _, rfl⟩
        exact chargeless.elim
      · exact inserted
    have holding := Holding.written chargeless about inserted marked outcome
    refine ⟨?_, _, holding⟩
    intro row found
    have status : row.status = callback.aim := by
      rcases advanced.lands found with ⟨pickupMode, lands⟩
      cases callback with
      | saveThenTransition => exact (Option.some.inj lands).symm
      | _ => exact chargeless.elim
    rw [OnlineOrder.held, holding.row row found, status]
    rcases heldAs with ⟨aim, on⟩ | ⟨aim, off⟩
    · exact iff_of_true aim on
    · apply iff_of_false
      · rw [aim]
        exact nofun
      · exact ne_true_of_eq_false off
  · -- The hold stays what it was, and so does being on hold.
    have elsewhere : ¬ callback.aim.turns :=
      fun turn => marked (mindful (turns turn))
    have unmoved : ∀ row, database.orders.lookup orderId = some row →
        row.status ≠ .laundryQualityHold := by
      intro row found onHold
      rcases advanced.lands found with ⟨_, lands⟩
      rw [onHold] at lands
      exact elsewhere (.inl (Callback.lands_on_hold lands))
    cases advanced with
    | opened _ _ booked absent _ =>
      rcases booked.creates with ⟨_, _, _, creates⟩
      have holding : Holding orderId none state.database.orders
          document := by
        refine ⟨about, marked, fun _ => unheld _ _ _ creates, ?_⟩
        intro row found
        rw [absent] at found
        cases found
      have finished := holding.committed outcome
      refine ⟨?_, _, finished⟩
      intro row found
      apply iff_of_false (unmoved row found)
      rw [OnlineOrder.held, finished.row row found]
      exact nofun
    | moved old _ existing stored _ striding =>
      have inserted : document.isNew = false := by
        rcases read with booked | ⟨_, _, inserted, _⟩
        · rcases booked.creates with ⟨_, _, _, creates⟩
          exact (existing _ _ _ creates).elim
        · exact inserted
      have holding : Holding orderId old.activeQualityHold
          state.database.orders document := by
        refine ⟨about, marked, ?_, ?_⟩
        · intro isNew
          rw [inserted] at isNew
          cases isNew
        · intro row found
          cases found.symm.trans stored
          rfl
      have finished := holding.committed outcome
      refine ⟨?_, _, finished⟩
      intro row found
      have before : old.status ≠ .laundryQualityHold := by
        intro onHold
        have allowed := striding.allowed
        rw [onHold] at allowed
        exact elsewhere (.inr (List.mem_singleton.mp allowed))
      apply iff_of_false (unmoved row found)
      rw [OnlineOrder.held, finished.row row found]
      exact mt (rightly old stored).mpr before

end

def MindsHolds (orderId : ObjectId) (state : State) (action : Action) :
    Prop :=
  Timely orderId state action ∧ unforced orderId action = true ∧ mindful orderId state action = true

instance (orderId : ObjectId) (state : State) (action : Action) :
    Decidable (MindsHolds orderId state action) :=
  inferInstanceAs (Decidable (_ ∧ _))

theorem hold_obligations (orderId : ObjectId) :
    Obligations orderId (MindsHolds orderId) (OnTime orderId)
      (fun state => state.database.HoldsRightly orderId)
      (fun _ => Minds) where
  beside := by
    intro state after beside rightly row found
    rw [beside.same.row] at found
    exact rightly row found
  steady := fun _ _ _ _ _ minds => minds
  begun := fun _ _ _ _ _ invariant allowed _ begun about =>
    .begun invariant.sound allowed.2.1 begun about
  commit := by
    intro state index environment clock operation callback prepared document
      database document' onTime invariant allowed flying about minds outcome
    have read := onTime.sound _ (List.mem_of_getElem? flying) about
    have advanced := read.commits allowed.1 flying about outcome
    have mindful : .activeQualityHold ∈ prepared.modified →
        .activeQualityHold ∈ document.modified := by
      simpa [Orders.mindful, flying, about, imp_iff_not_or] using allowed.2.2
    rcases minds.commits read mindful about advanced invariant.good
      outcome with ⟨rightly, hold, holding⟩
    exact ⟨⟨rightly, fun _ _ _ other => other⟩,
      fun call followed => .follows read holding followed⟩
  save := by
    intro state index environment clock document row saved onTime invariant
      allowed flying about minds outcome
    have read := onTime.sound _ (List.mem_of_getElem? flying) about
    rcases read.saves allowed.1 flying about outcome with ⟨old, found, rfl, stands⟩
    have status : (document.writeTo old).status = old.status := congrArg Prod.fst stands
    have rightly := invariant.good old found
    refine ⟨?_, fun _ _ _ other => other⟩
    intro row found'
    cases (AList.lookup_insert _).symm.trans found'
    rw [status]
    by_cases marked : .activeQualityHold ∈ document.modified
    · have hold : (document.writeTo old).held = document.order.held := by
        rw [OnlineOrder.held, OnlineOrder.held]
        exact congrArg (Option.any QualityHold.pending) (if_pos marked)
      have off : old.status ≠ .laundryQualityHold := by
        simpa [mindful, flying, about, marked, found] using allowed.2.2
      rw [hold, minds marked]
      exact iff_of_false off nofun
    · have hold : (document.writeTo old).held = old.held := by
        rw [OnlineOrder.held, OnlineOrder.held]
        exact congrArg (Option.any QualityHold.pending) (if_neg marked)
      rw [hold]
      exact rightly

/--
In a run that minds the holds of an order, it is on hold exactly while a blocking
hold waits to be answered, and it can then be taken up again at any time.
-/
theorem heldOrdersAreOnHold {castToObjectId : String → Option ObjectId}
    {orderId : ObjectId} {state : State} {row : OnlineOrder}
    (reached : (orderSystem castToObjectId).Reaches (MindsHolds orderId) .start state)
    (found : state.database.orders.lookup orderId = some row) :
    (row.status = .laundryQualityHold ↔ row.held = true) ∧
      (row.status = .laundryQualityHold → ∀ clock, Resolvable clock row) := by
  have invariant := (hold_obligations orderId).reaches
    (fun _ reached => onTime_of_reaches (fun _ _ all => all.1) reached)
    (by
      intro row found
      simp [State.start] at found)
    reached
  have rightly := invariant.good row found
  exact ⟨rightly, fun status => row.resolvable status (rightly.mp status)⟩

namespace Shop

def washing : List Action := accepted ++ calls owner (.receiveAtCounter deferred)

def stained (blocksOrder : Bool) : RaiseQualityHoldInput :=
  { serviceLineIndex := 0
    reason := "stained"
    blocksOrder
    additionalChargeCentavos := some 5000 }

end Shop

/-- The owner of the shop asks, and the order waits for its customer. -/
theorem heldOrdersAreOnHold_stained :
    ∃ state row,
      (orderSystem some).Reaches (MindsHolds "order") .start state ∧
        state.database.orders.lookup "order" = some row ∧
        row.status = .laundryQualityHold ∧
        ((row.status = .laundryQualityHold ↔ row.held = true) ∧
          (row.status = .laundryQualityHold → ∀ clock, Resolvable clock row)) := by
  have performed :
      (((orderSystem some).restrict (MindsHolds "order")).perform
        (Shop.washing ++ Shop.calls Shop.owner (.raiseQualityHold (Shop.stained true)))
        .start).bind (fun state =>
          (state.database.orders.lookup "order").map
            OnlineOrder.status) = some .laundryQualityHold := by
    decide +kernel
  rcases System.reaches_of_bind_restrict performed with ⟨state, reached, seen⟩
  rcases Option.map_eq_some_iff.mp seen with ⟨row, found, status⟩
  exact ⟨state, row, reached, found, status, heldOrdersAreOnHold reached found⟩

/--
The owner notes a stain, and asks about it before the note is saved.  The note is
saved over the question.
-/
def notedOverQuestion : List Action :=
  Shop.washing ++
    [ Shop.requests Shop.owner (.raiseQualityHold (Shop.stained false)),
      Shop.requests Shop.owner (.raiseQualityHold (Shop.stained true)),
      .commit 1 Shop.environment (Shop.clock 2), Shop.proceeds ]

/-- The order is on hold, and there is nothing left that could be answered. -/
theorem heldOrderNotOnHold :
    ¬ ∀ (orderId : ObjectId) (state : State) (row : OnlineOrder),
        (orderSystem some).Reaches (fun _ action => unforced orderId action)
            .start state →
          state.database.orders.lookup orderId = some row →
          (row.status = .laundryQualityHold ↔ row.held = true) ∧
            (row.status = .laundryQualityHold → ∀ clock, Resolvable clock row) := by
  intro always
  have performed :
      (((orderSystem some).restrict
          (fun _ action => unforced "order" action = true)).perform
        notedOverQuestion .start).bind (fun state =>
          (state.database.orders.lookup "order").map fun row =>
            (row.status, row.held)) =
        some (.laundryQualityHold, false) := by
    decide +kernel
  rcases System.reaches_of_bind_restrict performed with ⟨state, ran, seen⟩
  rcases Option.map_eq_some_iff.mp seen with ⟨row, found, facts⟩
  rcases Prod.mk.inj facts with ⟨status, free⟩
  have held := (always "order" state row ran found).1.mp status
  rw [free] at held
  cases held

end Lalaba.Orders
