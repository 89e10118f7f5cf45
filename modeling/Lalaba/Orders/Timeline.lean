import Lalaba.Orders.Current

/-!
# The timeline of an order

Every transition appends a row to the timeline of its order, one past the last
row that is there.  The rows that a committed callback appends lead from the
status its document starts with through the statuses of the callback, and row and
document end up where the last of them says.
-/

namespace Lalaba.Orders

open Foundation
open Foundation.Program

def Database.eventsOf (orderId : ObjectId) (database : Database) :
    List OrderEvent :=
  database.events.filter fun event => event.orderId == orderId

theorem eventsOf_createEvent {orderId : ObjectId} {event : OrderEvent}
    {database : Database} (about : event.orderId = orderId) :
    (database.createEvent event).eventsOf orderId = database.eventsOf orderId ++ [event] := by
  rw [Database.eventsOf, Database.eventsOf, Database.createEvent, List.filter_append]
  simp [about]

theorem transitionsOf_eq (orderId : ObjectId) (database : Database) :
    database.transitionsOf orderId =
      (database.eventsOf orderId).filter OrderEvent.isTransition := by
  rw [Database.transitionsOf, Database.eventsOf, List.filter_filter]
  apply List.filter_congr
  intro event _
  exact Bool.and_comm _ _

theorem foldr_max_append (numbers : List ℕ) (number : ℕ) :
    (numbers ++ [number]).foldr max 0 = max (numbers.foldr max 0) number := by
  induction numbers with
  | nil => simp
  | cons first rest induction =>
    rw [List.cons_append, List.foldr_cons, List.foldr_cons, induction, max_assoc]

theorem lastSequence_createEvent {orderId : ObjectId} {event : OrderEvent}
    {database : Database} (about : event.orderId = orderId)
    (numbered : event.sequence = database.lastSequence orderId + 1) :
    (database.createEvent event).lastSequence orderId = database.lastSequence orderId + 1 := by
  have last : (database.createEvent event).lastSequence orderId =
      max (database.lastSequence orderId) event.sequence := by
    rw [Database.lastSequence, Database.lastSequence, Database.createEvent,
      List.filter_append, ← foldr_max_append]
    simp [about]
  rw [last, numbered]
  exact max_eq_right (Nat.le_succ _)

/--
Rows of transitions, numbered in turn after a last one, that take an order from
one status to another.
-/
inductive Strides (orderId : ObjectId) (origin : OrderStatus) (last : ℕ) :
    List OrderEvent → OrderStatus → Prop where
  | stay : Strides orderId origin last [] origin
  | step {rows : List OrderEvent} {current : OrderStatus}
      (row : OrderEvent)
      (earlier : Strides orderId origin last rows current)
      (allowed : row.toStatus ∈ current.transitions)
      (leaves : row.fromStatus = some current)
      (about : row.orderId = orderId) (moves : row.isTransition = true)
      (numbered : row.sequence = last + rows.length + 1) :
      Strides orderId origin last (rows ++ [row]) row.toStatus

namespace Strides

variable {orderId : ObjectId} {origin current : OrderStatus} {last : ℕ} {rows : List OrderEvent}

theorem mem (strides : Strides orderId origin last rows current)
    {row : OrderEvent} (member : row ∈ rows) :
    row.orderId = orderId ∧ row.isTransition = true := by
  induction strides with
  | stay => cases member
  | step next earlier _ _ about moves _ induction =>
    rcases List.mem_append.mp member with old | new
    · exact induction old
    · cases List.mem_singleton.mp new
      exact ⟨about, moves⟩

theorem current_eq (strides : Strides orderId origin last rows current)
    (moved : rows ≠ []) :
    rows.getLast?.map OrderEvent.toStatus = some current := by
  cases strides with
  | stay => exact (moved rfl).elim
  | step row => simp

end Strides

/-! ## Callbacks -/

/-- A callback after some of its transitions. -/
structure Striding (orderId : ObjectId) (pickupMode : FulfillmentPickupMode)
    (base : Database) (origin : OrderStatus) (version : ℕ)
    (walked : List OrderStatus) (database : Database)
    (document : OrderDocument) : Prop where
  identified : document.order._id = orderId
  pickupMode : document.order.fulfillment.pickupMode = pickupMode
  strides : ∃ rows,
    database.eventsOf orderId = base.eventsOf orderId ++ rows ∧
      Strides orderId origin (base.lastSequence orderId) rows document.order.status ∧
      rows.map OrderEvent.toStatus = walked ∧
      database.lastSequence orderId = base.lastSequence orderId + rows.length
  version : document.order.version = version + walked.length
  row : walked ≠ [] → ∃ row,
    database.orders.lookup orderId = some row ∧
      row.status = document.order.status ∧
      row.version = document.order.version

section

variable {orderId : ObjectId} {pickupMode : FulfillmentPickupMode}
  {base : Database} {origin : OrderStatus} {version : ℕ}

theorem writeTo_agrees {document : OrderDocument} {row : OnlineOrder}
    (status : row.status = document.order.status)
    (version : row.version = document.order.version) :
    (document.writeTo row).status = document.order.status ∧
      (document.writeTo row).version = document.order.version := by
  constructor
  · show document.pick .status document.order.status row.status = _
    rw [status, OrderDocument.pick, ite_self]
  · show document.pick .version document.order.version row.version = _
    rw [version, OrderDocument.pick, ite_self]

theorem Striding.steady (walked : List OrderStatus) :
    Steady (Striding orderId pickupMode base origin version walked) where
  save := by
    apply ensures_saveDocument
    intro database document row saved striding ran
    have clean := OrderDocument.save_saved ran
    subst clean
    refine ⟨striding.identified, striding.pickupMode, striding.strides, striding.version, ?_⟩
    intro moved
    rcases striding.row moved with ⟨old, found, status, current⟩
    rw [striding.identified, found] at ran
    refine ⟨row, ?_, ?_⟩
    · rw [striding.identified]
      exact AList.lookup_insert _
    · rcases OrderDocument.save_cases ran with ⟨_, absent, _⟩ | ⟨_, _, same, rfl⟩
      · cases absent
      · cases same
        exact writeTo_agrees status current
  charge := fun _ _ _ _ _ _ striding =>
    ⟨striding.identified, striding.pickupMode, striding.strides, striding.version, striding.row⟩
  beside := by
    intro database after document orders events striding
    rcases striding.strides with ⟨rows, appended, strides, walk, last⟩
    refine ⟨striding.identified, striding.pickupMode, ⟨rows, ?_, strides,
      walk, ?_⟩, striding.version, ?_⟩
    · rw [Database.eventsOf, events]
      exact appended
    · rw [Database.lastSequence, events]
      exact last
    · rw [orders]
      exact striding.row

theorem Striding.transition (walked : List OrderStatus) (clock : Clock)
    (target : OrderStatus) (actorUid : Uid) (actorRole : String)
    (note : Option String) :
    Ensures (Striding orderId pickupMode base origin version walked)
      (applyTransition clock target actorUid actorRole note)
      (fun _ => Striding orderId pickupMode base origin version (walked ++ [target])) := by
  apply @ensures_transition _ _ _ _ _ _
    (Striding orderId pickupMode base origin version (walked ++ [target]))
  · intro database document row striding allowed found current
    rcases striding with ⟨rfl, mode, ⟨rows, appended, strides, walk, last⟩, counted, _⟩
    refine ⟨rfl, mode, ⟨rows ++ [transitionEvent target actorUid actorRole
      note database document.order], ?_, ?_, ?_, ?_⟩, ?_, ?_⟩
    · rw [@eventsOf_createEvent document.order._id _ _ rfl, ← List.append_assoc, ← appended]
      rfl
    · apply Strides.step (transitionEvent target actorUid actorRole note
        database document.order) strides allowed rfl rfl rfl
      show database.lastSequence _ + 1 = _
      rw [last]
    · rw [List.map_append, walk]
      rfl
    · rw [@lastSequence_createEvent document.order._id _ _ rfl rfl]
      show database.lastSequence _ + 1 = _
      rw [last, List.length_append]
      rfl
    · show document.order.version + 1 = _
      rw [counted, List.length_append]
      rfl
    · intro _
      exact ⟨_, AList.lookup_insert _, rfl, rfl⟩
  · intro start
    exact ensures_settlePromo fun database document promotions striding =>
      (Striding.steady _).beside database _ document rfl rfl striding

theorem Striding.walk : Walk pickupMode (Striding orderId pickupMode base origin version) where
  pickupMode := fun _ _ _ striding => striding.pickupMode
  transition := Striding.transition
  steady := fun _ _ => Striding.steady _

end

def Callback.origin (document : OrderDocument) :
    Callback → OrderStatus × ℕ
  | .accept _ initialStatus initialVersion _ =>
    (initialStatus, initialVersion)
  | _ => (document.order.status, document.order.version)

/--
A callback that commits has walked from where it started through its statuses, and
has left a row of the timeline for each.
-/
theorem Callback.strides {callback : Callback} {clock : Clock}
    {database after : Database} {document document' : OrderDocument}
    (existing : ∀ customerUid book promo, callback ≠ .create customerUid book promo)
    (outcome : (callback.program clock).commit database document = (.ok (), after, document')) :
    Striding document.order._id document.order.fulfillment.pickupMode
      database (callback.origin document).1 (callback.origin document).2
      (callback.targets document.order.fulfillment.pickupMode) after
      document' := by
  have start : ∀ moved : OrderDocument,
      moved.order._id = document.order._id →
      moved.order.fulfillment.pickupMode = document.order.fulfillment.pickupMode →
      Striding document.order._id document.order.fulfillment.pickupMode
        database moved.order.status moved.order.version [] database moved :=
    fun moved identified mode =>
      ⟨identified, mode, ⟨[], (List.append_nil _).symm, .stay, rfl, rfl⟩,
        rfl, fun impossible => (impossible rfl).elim⟩
  cases callback with
  | create customerUid book promo => exact (existing _ _ _ rfl).elim
  | accept actor initialStatus initialVersion washer =>
    have accepted : Ensures
        (fun store memory => store = database ∧ memory = document)
        (acceptInTransaction clock actor initialStatus initialVersion washer)
        (fun _ => Striding document.order._id
          document.order.fulfillment.pickupMode database initialStatus
          initialVersion (.acceptedByProvider ::
            routeTargets document.order.fulfillment.pickupMode)) := by
      apply Striding.walk.accept
      rintro _ memory ⟨rfl, rfl⟩
      exact start (memory.resetTransition initialStatus initialVersion) rfl rfl
    exact accepted.committed ⟨rfl, rfl⟩ outcome
  | _ =>
    exact (Striding.walk.program (Striding.steady []) (by trivial)).committed
      (start document rfl rfl) outcome

/--
A creation appends the row that no transition has made, and then walks like any
callback.
-/
theorem Striding.created {orderId : ObjectId} {customerUid : Uid}
    {book : Database → Except ServiceError ScheduledPickup}
    {pickupMode : FulfillmentPickupMode} {base : Database}
    {origin : OrderStatus} {version : ℕ} {clock : Clock} :
    Ensures
      (fun database document => database.events = base.events ∧
        document.order._id = orderId ∧
        document.order.fulfillment.pickupMode = pickupMode ∧
        document.order.status = origin ∧
        document.order.version = version)
      (createInTransaction clock customerUid book)
      (fun _ => Striding orderId pickupMode
        (base.createEvent (creationEvent orderId customerUid)) origin
        version [.pricingValidated, .pendingProviderAcceptance]) := by
  let Start (database : Database) (document : OrderDocument) : Prop :=
    database.events = base.events ∧ document.order._id = orderId ∧
      document.order.fulfillment.pickupMode = pickupMode ∧
      document.order.status = origin ∧ document.order.version = version
  refine @ensures_createInTransaction clock customerUid book Start Start ?_
    ?_ (fun document => document.order._id = orderId) ?_ _ ?_
  · exact fun database document slot start => start
  · apply ensures_saveDocument
    intro database document row saved start ran
    rw [OrderDocument.save_saved ran]
    exact start
  · exact fun _ _ start => start.2.1
  · intro saved identified
    have recorded : Ensures Start (query fun database =>
          .ok ((), database.createEvent (creationEvent saved.order._id customerUid)) :
          OrderProgram Unit)
        (fun _ => Striding orderId pickupMode
          (base.createEvent (creationEvent orderId customerUid)) origin
          version []) := by
      apply Ensures.query
      rintro database document value after ⟨events, about, mode, rfl, rfl⟩ ran
      cases ran
      have same : (database.createEvent
          (creationEvent saved.order._id customerUid)).events =
            (base.createEvent (creationEvent orderId customerUid)).events := by
        rw [Database.createEvent, Database.createEvent, events, identified]
      refine ⟨about, mode, ⟨[], ?_, .stay, rfl, ?_⟩, rfl,
        fun impossible => (impossible rfl).elim⟩
      · rw [List.append_nil, Database.eventsOf, same]
        rfl
      · rw [Database.lastSequence, same]
        rfl
    apply recorded.bind
    intro _
    exact Striding.walk.transitions

theorem Striding.transitionsOf {orderId : ObjectId}
    {pickupMode : FulfillmentPickupMode} {base database : Database}
    {origin : OrderStatus} {version : ℕ} {walked : List OrderStatus}
    {document : OrderDocument}
    (striding : Striding orderId pickupMode base origin version walked database document) :
    ∃ rows, database.transitionsOf orderId =
        base.transitionsOf orderId ++ rows ∧
      rows.map OrderEvent.toStatus = walked ∧
      Strides orderId origin (base.lastSequence orderId) rows
        document.order.status := by
  rcases striding.strides with ⟨rows, appended, strides, walk, _⟩
  refine ⟨rows, ?_, walk, strides⟩
  rw [transitionsOf_eq, transitionsOf_eq, appended, List.filter_append]
  congr 1
  apply List.filter_eq_self.mpr
  exact fun row member => (strides.mem member).2

/--
What every commit leaves: a row of the timeline for each status of the callback,
and the order in the last of them.
-/
theorem Callback.moved {callback : Callback} {clock : Clock}
    {database after : Database} {document document' : OrderDocument}
    (outcome : (callback.program clock).commit database document = (.ok (), after, document')) :
    ∃ rows, after.transitionsOf document.order._id =
        database.transitionsOf document.order._id ++ rows ∧
      rows.map OrderEvent.toStatus = callback.targets document.order.fulfillment.pickupMode ∧
      ∃ row, after.orders.lookup document.order._id = some row ∧
        rows.getLast?.map OrderEvent.toStatus = some row.status := by
  have finishes : ∀ base origin version,
      Striding document.order._id document.order.fulfillment.pickupMode
        base origin version
        (callback.targets document.order.fulfillment.pickupMode) after
        document' →
      ∃ rows, after.transitionsOf document.order._id =
          base.transitionsOf document.order._id ++ rows ∧
        rows.map OrderEvent.toStatus = callback.targets document.order.fulfillment.pickupMode ∧
        ∃ row, after.orders.lookup document.order._id = some row ∧
          rows.getLast?.map OrderEvent.toStatus = some row.status := by
    intro base origin version striding
    rcases striding.transitionsOf with ⟨rows, appended, walk, strides⟩
    rcases striding.row callback.targets_ne_nil with ⟨row, found, status, _⟩
    refine ⟨rows, appended, walk, row, found, ?_⟩
    rw [status]
    apply strides.current_eq
    rintro rfl
    exact callback.targets_ne_nil walk.symm
  by_cases existing : ∀ customerUid book promo, callback ≠ .create customerUid book promo
  · exact finishes _ _ _ (Callback.strides existing outcome)
  · push Not at existing
    rcases existing with ⟨customerUid, book, promo, rfl⟩
    have striding := (@Striding.created document.order._id customerUid book
      document.order.fulfillment.pickupMode database document.order.status
      document.order.version clock).committed ⟨rfl, rfl, rfl, rfl, rfl⟩
      outcome
    rcases finishes _ _ _ striding with ⟨rows, appended, rest⟩
    refine ⟨rows, ?_, rest⟩
    rw [appended, transitionsOf_eq, transitionsOf_eq,
      @eventsOf_createEvent document.order._id _ _ rfl, List.filter_append]
    simp [creationEvent]

end Lalaba.Orders
