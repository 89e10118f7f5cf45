import Lalaba.Orders.Places

/-!
# Booking under snapshot isolation

The transaction of a `createOrder` reads a snapshot of the collections: the orders it
counts are those of the moment it began.  At its end it increments the counter of
the day, and it conflicts with every transaction that has done so since.

A timely run of such transactions is a run of the order service in which a creation
counts and commits in one step: where the counter has not moved, no place has been
taken since the snapshot.
-/

namespace Lalaba.Orders

open Bookings (DayBookableResult RequestedFulfillment SlotCounters isFull)
open Foundation
open Foundation.Program

/-- The call of `assertDayBookable` that a `createOrder` makes. -/
structure PlaceRequest where
  desk : Bookings.Store
  now : Instant
  branchId : ObjectId
  providerType : ProviderType
  date : String
  fulfillment : RequestedFulfillment

namespace PlaceRequest

def book (request : PlaceRequest) (database : Database) :
    Except ServiceError ScheduledPickup :=
  (request.desk.assertDayBookable request.now request.branchId
    request.providerType request.date request.fulfillment
    (some database.bookedOrders)).map fun (result, _) =>
      { date := result.date, label := result.label }

def limit (request : PlaceRequest) : Option ℕ :=
  match Bookings.assertRealDate request.date with
  | .ok day => request.desk.effectiveLimit request.branchId
      request.providerType day
  | .error _ => none

variable {request : PlaceRequest} {database database' : Database} {slot : ScheduledPickup}

theorem book_ok (booked : request.book database = .ok slot) :
    ∃ result, request.desk.assertDayBookable request.now request.branchId
        request.providerType request.date request.fulfillment
        (some database.bookedOrders) = .ok result ∧
      slot = { date := result.1.date, label := result.1.label } := by
  rw [book] at booked
  rcases answered : request.desk.assertDayBookable request.now
    request.branchId request.providerType request.date request.fulfillment
    (some database.bookedOrders) with error | result
  · rw [answered] at booked
    cases booked
  · rw [answered] at booked
    cases booked
    exact ⟨result, rfl, rfl⟩

theorem book_room (booked : request.book database = .ok slot) :
    slot.date = request.date ∧ isFull request.limit
      (database.booked request.branchId request.date) = false := by
  rcases book_ok booked with ⟨result, answered, rfl⟩
  rcases Bookings.Store.assertDayBookable_ok.mp answered with ⟨day, real, _, _, _, rfl⟩
  refine ⟨rfl, ?_⟩
  have room := Bookings.Store.assertDayBookable_room answered real
  rw [Option.getD_some, Database.bookedCount_bookedOrders] at room
  rw [limit, real]
  exact room

theorem book_mono (booked : request.book database = .ok slot)
    (less : database'.booked request.branchId request.date ≤
      database.booked request.branchId request.date) :
    request.book database' = .ok slot := by
  rcases book_ok booked with ⟨result, answered, rfl⟩
  have fewer : Bookings.bookedCount request.branchId request.date
      database'.bookedOrders ≤ Bookings.bookedCount request.branchId
        request.date database.bookedOrders := by
    rw [Database.bookedCount_bookedOrders, Database.bookedCount_bookedOrders]
    exact less
  rw [book, Bookings.Store.assertDayBookable_mono answered fewer]
  rfl

end PlaceRequest

/-! ## The system -/

/-- The request `createOrder` makes for its input. -/
def CreateOrderInput.requestFor (desk : Bookings.Store) (clock : Clock)
    (input : CreateOrderInput) (date : String) : PlaceRequest where
  desk := desk
  now := clock.now
  branchId := input.branchId
  providerType := input.providerType
  date := date
  fulfillment :=
    if input.pickupMode = .customerDropoff then .dropoff else .pickup

def Market.booking (market : Market) (desk : Bookings.Store)
    (clock : Clock) : Market :=
  { market with
    assertDayBookable := fun branchId providerType date dropoff =>
      PlaceRequest.book
        { desk
          now := clock.now
          branchId
          providerType
          date
          fulfillment := if dropoff then .dropoff else .pickup } }

/-- The collections and the counters as a transaction reads them. -/
structure Snapshot where
  database : Database
  counters : SlotCounters

/--
The order service with the counters of the booked days.  Not stored anywhere are the
request each creation was called with and the snapshot of its open transaction.
-/
structure SlotState where
  orders : State
  counters : SlotCounters
  requests : ObjectId → Option PlaceRequest
  snapshots : ObjectId → Option Snapshot

def SlotState.start : SlotState where
  orders := .start
  counters _ := 0
  requests _ := none
  snapshots _ := none

inductive SlotAction where
  /-- `createOrder` is called; ids are not used twice. -/
  | create (desk : Bookings.Store) (market : Market) (clock : Clock)
      (customer : User) (input : CreateOrderInput) (orderId : ObjectId)
  | snapshot (index : ℕ)
  | commit (index : ℕ) (environment : Environment) (clock : Clock)
  | abort (index budget : ℕ) (clock : Clock)
  | other (action : Action)

namespace SlotState

def serializes (state : SlotState) : Action → Bool
  | .create _ _ _ _ _ => true
  | .commit index _ _ | .abort index _ _ =>
    match state.orders.calls[index]? with
    | some (.transaction _ (.create _ _ _) _ _) => true
    | _ => false
  | _ => false

def unmoved (state : SlotState) (request : PlaceRequest)
    (snapshot : Snapshot) : Bool :=
  state.counters (request.branchId, request.date) ==
    snapshot.counters (request.branchId, request.date)

/-- A run of a creation: what it has found in its snapshot, to its commit. -/
def stepCommit (index : ℕ) (clock : Clock) (operation : Option Operation)
    (customerUid : Uid) (promo : Option PromoClaim)
    (slot : ScheduledPickup) (request : PlaceRequest)
    (document : OrderDocument) (state : SlotState) : SlotState :=
  let callback := Callback.create customerUid (fun _ => .ok slot) promo
  { state with
    orders := Orders.stepCommit index clock operation callback document state.orders
    counters :=
      match ((callback.program clock).commit state.orders.database document).1 with
      | .ok _ => state.counters.increment request.branchId request.date
      | .error _ => state.counters
    snapshots := Function.update state.snapshots document.order._id none }

/-- The same run, aborted after some calls. -/
def stepAbort (index budget : ℕ) (clock : Clock)
    (operation : Option Operation) (customerUid : Uid)
    (book : Database → Except ServiceError ScheduledPickup)
    (promo : Option PromoClaim) (slot : ScheduledPickup)
    (prepared document : OrderDocument) (state : SlotState) :
    Option SlotState :=
  match (createInTransaction clock customerUid
      (fun _ => .ok slot)).runOnce (some budget) state.orders.database document with
  | (.error (.thrown _), _) => none
  | (_, after) =>
    some { state with
      orders := (state.orders.write after.durable).advance index
        (.transaction operation (.create customerUid book promo) prepared after.memory)
      snapshots := Function.update state.snapshots document.order._id none }

end SlotState

/-- One step; a transaction that conflicts has to begin again. -/
def slotStep (castToObjectId : String → Option ObjectId) :
    SlotAction → SlotState → Option SlotState
  | .create desk market clock customer input orderId, state =>
    match state.requests orderId, input.scheduledPickupDate with
    | none, some date =>
      (stepCreate (market.booking desk clock) clock customer input
        orderId state.orders).map fun orders =>
          { state with
            orders
            requests := Function.update state.requests orderId
              (some (input.requestFor desk clock date)) }
    | _, _ => none
  | .snapshot index, state =>
    match state.orders.calls[index]? with
    | some (.transaction _ (.create _ _ _) _ document) =>
      some { state with
        snapshots := Function.update state.snapshots document.order._id
          (some ⟨state.orders.database, state.counters⟩) }
    | _ => none
  | .commit index _ clock, state =>
    match state.orders.calls[index]? with
    | some (.transaction operation (.create customerUid book promo) _ document) =>
      match state.requests document.order._id, state.snapshots document.order._id with
      | some request, some snapshot =>
        match book snapshot.database with
        | .error _ =>
          some { state with orders := state.orders.finish index }
        | .ok slot =>
          if state.unmoved request snapshot then
            some (state.stepCommit index clock operation customerUid promo slot request document)
          else
            none
      | _, _ => none
    | _ => none
  | .abort index budget clock, state =>
    match state.orders.calls[index]? with
    | some (.transaction operation (.create customerUid book promo) prepared document) =>
      match state.requests document.order._id, state.snapshots document.order._id with
      | some request, some snapshot =>
        match book snapshot.database with
        | .error _ => none
        | .ok slot =>
          if state.unmoved request snapshot then
            state.stepAbort index budget clock operation customerUid
              book promo slot prepared document
          else
            none
      | _, _ => none
    | _ => none
  | .other action, state =>
    if state.serializes action then
      none
    else
      (step castToObjectId action state.orders).map fun orders =>
        { state with orders }

def slotSystem (castToObjectId : String → Option ObjectId) :
    System SlotState SlotAction :=
  { step := slotStep castToObjectId }

def prompt (state : State) (action : Action) : Bool :=
  match action with
  | .commit index _ _ => state.calls[index]?.all fun call =>
    timely call.orderId state action
  | _ => true

def Prompt (state : SlotState) : SlotAction → Prop
  | .commit index environment clock =>
    prompt state.orders (.commit index environment clock) = true
  | .other action => prompt state.orders action = true
  | _ => True

instance (state : SlotState) (action : SlotAction) :
    Decidable (Prompt state action) :=
  match action with
  | .commit _ _ _ => inferInstanceAs (Decidable (_ = true))
  | .other _ => inferInstanceAs (Decidable (_ = true))
  | .create _ _ _ _ _ _ => isTrue trivial
  | .snapshot _ => isTrue trivial
  | .abort _ _ _ => isTrue trivial

theorem timely_of_prompt {state : State} {action : Action}
    (promptly : prompt state action = true) (orderId : ObjectId) :
    Timely orderId state action := by
  cases action with
  | commit index environment clock =>
    rcases flying : state.calls[index]? with _ | call
    · simp [Timely, timely, flying]
    · have own : timely call.orderId state (.commit index environment clock) = true := by
        simpa [prompt, flying] using promptly
      by_cases here : call.orderId = orderId
      · subst here
        exact own
      · cases call <;> simp_all [Timely, timely, Call.orderId]
  | _ => rfl

theorem provider_rests {orderId : ObjectId} {provider : ProviderSnapshot}
    {allowed : Touch → Prop} :
    Rests orderId allowed (fun session =>
      session.memory.order._id = orderId ∧ session.memory.order.provider = provider) where
  identified := fun _ same => same.1
  beside := fun _ _ _ _ _ same => same
  save := by
    intro session row saved same ran
    rw [OrderDocument.save_saved ran]
    exact same
  update := fun _ _ _ _ same _ => same
  touch := by
    intro session touch _ same
    cases touch <;> exact same

theorem provider_of_run {clock : Clock} {callback : Callback}
    {database : Database} {document : OrderDocument} {budget : Option ℕ} :
    let after := ((callback.program clock).runOnce budget database document).2.memory
    after.order._id = document.order._id ∧ after.order.provider = document.order.provider := by
  have kept : Keeps
      (fun session => session.memory.order._id = document.order._id ∧
        session.memory.order.provider = document.order.provider)
      (callback.program clock) :=
    provider_rests.kept.program
  exact kept _ ⟨rfl, rfl⟩

def AsksFor (requests : ObjectId → Option PlaceRequest) : Call → Prop
  | .transaction _ (.create _ book _) _ document =>
    ∃ request : PlaceRequest,
      requests document.order._id = some request ∧
        book = request.book ∧
        document.order.provider.branchId = request.branchId
  | _ => True

theorem AsksFor.mono {requests requests' : ObjectId → Option PlaceRequest}
    (stands : ∀ orderId request, requests orderId = some request → requests' orderId = some request)
    {call : Call} (requested : AsksFor requests call) :
    AsksFor requests' call := by
  cases call with
  | transaction operation callback prepared document =>
    cases callback with
    | create customerUid book promo =>
      rcases requested with ⟨request, asked, same⟩
      exact ⟨request, stands _ _ asked, same⟩
    | _ => trivial
  | _ => trivial

theorem requested_of_createOrder {desk : Bookings.Store} {market : Market}
    {clock : Clock} {customer : User} {input : CreateOrderInput}
    {orderId : ObjectId} {database : Database} {callback : Callback}
    {document : OrderDocument} {date : String}
    {requests : ObjectId → Option PlaceRequest}
    (dated : input.scheduledPickupDate = some date)
    (asked : requests orderId = some (input.requestFor desk clock date))
    (ordered : createOrder (market.booking desk clock) clock customer input
      orderId database = .ok (callback, document)) :
    AsksFor requests (.transaction none callback document document) := by
  rcases createOrder_yields _ ordered with ⟨_, _, _, _, date', _, _, _, _, required, equal⟩
  rw [requirePickupDate, dated] at required
  cases required
  cases equal
  refine ⟨_, asked, ?_, rfl⟩
  simp [Market.booking, CreateOrderInput.requestFor]

section

variable {castToObjectId : String → Option ObjectId}
  {requests : ObjectId → Option PlaceRequest} {state after : State}
  {action : Action}

/-- Nothing but a call of `createOrder` asks for a place. -/
theorem requested_step (tidy : state.Tidy)
    (requested : ∀ call ∈ state.calls, AsksFor requests call)
    (creates : ∀ market clock customer input orderId callback document,
      action = .create market clock customer input orderId →
      createOrder market clock customer input orderId state.database = .ok (callback, document) →
      AsksFor requests (.transaction none callback document document))
    (stepped : (orderSystem castToObjectId).step action state = some after) :
    ∀ call ∈ after.calls, AsksFor requests call := by
  intro call member
  have cases := @step_cases call.orderId _ _ _ tidy _ stepped
  cases cases with
  | saved _ _ _ _ _ _ _ _ _ _ _ calls =>
    exact requested call (calls call member)
  | committed _ _ _ _ callback _ _ _ _ _ _ _ _ _ calls =>
    rcases calls call member with old | follows
    · exact requested call old
    · -- What is left to do after a commit books nothing.
      unfold Callback.followUp at follows
      split at follows <;> cases follows <;> trivial
  | aside _ calls =>
    rcases calls call member rfl with old | begun
    · exact requested call old
    cases begun with
    | booked market clock customer input callback document called ordered =>
      exact creates _ _ _ _ _ _ _ called ordered
    | drafted environment clock actor operation row callback document _ _ _ _ prepared =>
      have drafted : Drafted actor row operation callback document := Operation.drafts _ _ prepared
      have fits := drafted.fits
      cases callback with
      | create => exact fits.elim
      | _ => trivial
    | aborted index budget clock operation callback prepared document _ flying =>
      have old := requested _ (List.mem_of_getElem? flying)
      cases callback with
      | create customerUid book promo =>
        have same := @provider_of_run clock
          (.create customerUid book promo) state.database document
          (some budget)
        rcases old with ⟨request, asked, books, offered⟩
        refine ⟨request, ?_, books, ?_⟩
        · rw [same.1]
          exact asked
        · rw [same.2]
          exact offered
      | _ => trivial
    | _ => trivial

end

section

variable {clock : Clock} {customerUid : Uid}
  {book : Database → Except ServiceError ScheduledPickup}
  {promo : Option PromoClaim} {operation : Option Operation}
  {prepared document : OrderDocument} {slot : ScheduledPickup}
  {index budget : ℕ}

theorem createInTransaction_booked {database : Database}
    {budget : Option ℕ} (booked : book database = .ok slot) :
    (createInTransaction clock customerUid (fun _ => .ok slot)).runOnce
        budget database document =
      (createInTransaction clock customerUid book).runOnce budget database
        document := by
  have found : ∀ session : Session Database OrderDocument,
      session.store = database →
      (query fun database => (Except.ok slot).map
          fun slot => (slot, database) :
        OrderProgram ScheduledPickup) session =
      (query fun database => (book database).map
          fun slot => (slot, database) :
        OrderProgram ScheduledPickup) session := by
    rintro session rfl
    simp only [query, call, booked]
  rw [runOnce, runOnce, Program.run, Program.run]
  simp only [createInTransaction, bind, andThen]
  rw [found _ rfl]

theorem stepCommit_booked {state : State}
    (booked : book state.database = .ok slot) :
    stepCommit index clock operation
        (.create customerUid (fun _ => .ok slot) promo) document state =
      stepCommit index clock operation (.create customerUid book promo)
        document state := by
  have same := @createInTransaction_booked clock customerUid book document
    slot state.database none booked
  have follows : ∀ document' : OrderDocument,
      (Callback.create customerUid (fun _ => .ok slot) promo).followUp
          operation document' =
        (Callback.create customerUid book promo).followUp operation
          document' := by
    intro document'
    cases promo <;> rfl
  simp only [stepCommit, Callback.program, Program.commit, same, follows]

end

/-! ## Every count is fresh -/

/--
Nobody has taken a place in a day since the snapshot, unless the counter of the day
has moved.
-/
def Snapshot.Fresh (snapshot : Snapshot) (state : SlotState) : Prop :=
  ∀ branchId date,
    snapshot.counters (branchId, date) ≤ state.counters (branchId, date) ∧
      (state.counters (branchId, date) = snapshot.counters (branchId, date) →
        state.orders.database.booked branchId date ≤ snapshot.database.booked branchId date)

structure SlotState.Sound (state : SlotState) : Prop where
  asks : ∀ call ∈ state.orders.calls, AsksFor state.requests call
  fresh : ∀ orderId snapshot, state.snapshots orderId = some snapshot → snapshot.Fresh state

/-- What a step is in the order service, and what it does to the counters. -/
inductive SlotStepped (castToObjectId : String → Option ObjectId)
    (state : SlotState) (action : SlotAction) (after : SlotState) :
    Prop where
  | asks (desk : Bookings.Store) (market : Market) (clock : Clock)
      (customer : User) (input : CreateOrderInput) (orderId : ObjectId)
      (date : String)
      (called : action = .create desk market clock customer input orderId)
      (dated : input.scheduledPickupDate = some date)
      (unused : state.requests orderId = none)
      (stepped : (orderSystem castToObjectId).step
        (.create (market.booking desk clock) clock customer input orderId)
        state.orders = some after.orders)
      (requests : after.requests = Function.update state.requests orderId
        (some (input.requestFor desk clock date)))
      (counters : after.counters = state.counters)
      (snapshots : after.snapshots = state.snapshots)
  | reads (orderId : ObjectId) (snapshots : after = { state with
        snapshots := Function.update state.snapshots orderId
          (some ⟨state.orders.database, state.counters⟩) })
  | books (index : ℕ) (environment : Environment) (clock : Clock)
      (operation : Option Operation) (customerUid : Uid)
      (promo : Option PromoClaim) (prepared document : OrderDocument)
      (request : PlaceRequest) (slot : ScheduledPickup)
      (allowed : prompt state.orders (.commit index environment clock) = true)
      (flying : state.orders.calls[index]? = some (.transaction operation
        (.create customerUid request.book promo) prepared document))
      (asked : state.requests document.order._id = some request)
      (offered : document.order.provider.branchId = request.branchId)
      (booked : request.book state.orders.database = .ok slot)
      (stepped : (orderSystem castToObjectId).step
        (.commit index environment clock) state.orders = some after.orders)
      (requests : after.requests = state.requests)
      (counters : after.counters = state.counters.increment request.branchId request.date)
      (snapshots : ∀ orderId snapshot, after.snapshots orderId = some snapshot →
          state.snapshots orderId = some snapshot)
  | acts (label : Action) (allowed : prompt state.orders label = true)
      (stepped : (orderSystem castToObjectId).step label state.orders = some after.orders)
      (creates : ∀ orderId row, ¬ Creation orderId state.orders label row)
      (calls : ∀ market clock customer input orderId,
        label ≠ .create market clock customer input orderId)
      (requests : after.requests = state.requests)
      (counters : after.counters = state.counters)
      (snapshots : ∀ orderId snapshot, after.snapshots orderId = some snapshot →
          state.snapshots orderId = some snapshot)

section

variable {castToObjectId : String → Option ObjectId} {state after : SlotState} {action : SlotAction}

variable {orderId : ObjectId} {request : PlaceRequest}
  {slot : ScheduledPickup} {index : ℕ} {clock : Clock}
  {operation : Option Operation} {customerUid : Uid}
  {promo : Option PromoClaim} {prepared document : OrderDocument}

theorem SlotState.Sound.finds (sound : state.Sound) {snapshot : Snapshot}
    (read : state.snapshots orderId = some snapshot)
    (unmoved : state.unmoved request snapshot = true)
    (booked : request.book snapshot.database = .ok slot) :
    request.book state.orders.database = .ok slot :=
  PlaceRequest.book_mono booked ((sound.fresh _ _ read _ _).2 (beq_iff_eq.mp unmoved))

theorem snapshots_of_closed {snapshots : ObjectId → Option Snapshot}
    {other : ObjectId} {snapshot : Snapshot}
    (found : Function.update snapshots orderId none other = some snapshot) :
    snapshots other = some snapshot := by
  by_cases same : other = orderId
  · subst same
    rw [Function.update_self] at found
    cases found
  · rwa [Function.update_of_ne same] at found

/-- The commit of a creation that has found its place in its snapshot. -/
theorem stepCommit_steps {environment : Environment}
    (allowed : prompt state.orders (.commit index environment clock) = true)
    (flying : state.orders.calls[index]? = some (.transaction operation
      (.create customerUid request.book promo) prepared document))
    (asked : state.requests document.order._id = some request)
    (offered : document.order.provider.branchId = request.branchId)
    (booked : request.book state.orders.database = .ok slot) :
    SlotStepped castToObjectId state action
      (state.stepCommit index clock operation customerUid promo slot request document) := by
  have stepped : (orderSystem castToObjectId).step
      (.commit index environment clock) state.orders =
        some (state.stepCommit index clock operation customerUid promo slot
          request document).orders := by
    rw [orderSystem, SlotState.stepCommit, stepCommit_booked booked]
    dsimp only
    rw [step, flying]
    rfl
  have same := @createInTransaction_booked clock customerUid request.book
    document slot state.orders.database none booked
  have same' : (createInTransaction clock customerUid
        (fun _ => .ok slot)).commit state.orders.database document =
      (createInTransaction clock customerUid request.book).commit
        state.orders.database document := by
    rw [Program.commit, Program.commit, same]
  rcases outcome : ((createInTransaction clock customerUid
      request.book).commit state.orders.database document).1 with
    failure | value
  · refine .acts _ allowed stepped ?_ ?_ rfl ?_ ?_
    · rintro orderId row ⟨_, _, _, _, _, _, _, _, _, _, _, commits, flying', _, _, _, _, succeeds⟩
      cases commits
      cases flying.symm.trans flying'
      cases outcome.symm.trans succeeds
    · intro _ _ _ _ _ called
      cases called
    · simp only [SlotState.stepCommit, Callback.program, same', outcome]
    · exact fun _ _ => snapshots_of_closed
  · refine .books index environment clock operation customerUid promo
      prepared document request slot allowed flying asked offered booked
      stepped rfl ?_ ?_
    · simp only [SlotState.stepCommit, Callback.program, same', outcome]
    · exact fun _ _ => snapshots_of_closed

/-- The abort of a creation that has found its place in its snapshot. -/
theorem stepAbort_steps {budget : ℕ}
    {book : Database → Except ServiceError ScheduledPickup}
    (flying : state.orders.calls[index]? = some (.transaction operation
      (.create customerUid book promo) prepared document))
    (booked : book state.orders.database = .ok slot)
    (stepped : state.stepAbort index budget clock operation customerUid
      book promo slot prepared document = some after) :
    SlotStepped castToObjectId state action after := by
  have same := @createInTransaction_booked clock customerUid book document
    slot state.orders.database (some budget) booked
  have created : ∀ orderId row,
      ¬ Creation orderId state.orders (.abort index budget clock) row := by
    intro orderId row creation
    rcases creation.is_commit with ⟨_, _, _, commits⟩
    cases commits
  rw [SlotState.stepAbort, same] at stepped
  have aborts : (orderSystem castToObjectId).step
      (.abort index budget clock) state.orders =
        stepAbort index budget clock operation
          (.create customerUid book promo) prepared document
          state.orders := by
    rw [orderSystem]
    dsimp only
    rw [step, flying]
  rw [Orders.stepAbort, Callback.program] at aborts
  split at stepped
  · cases stepped
  · rename_i unthrown ran
    cases stepped
    rw [ran] at aborts
    split at aborts
    · rename_i equal
      cases equal
      exact (unthrown _ rfl).elim
    rename_i equal
    cases equal
    refine .acts (.abort index budget clock) rfl aborts created ?_ rfl rfl
      fun _ _ => snapshots_of_closed
    intro _ _ _ _ _ called
    cases called

/-- What a step can do. -/
theorem slotStep_cases (sound : state.Sound)
    (promptly : Prompt state action)
    (stepped : slotStep castToObjectId action state = some after) :
    SlotStepped castToObjectId state action after := by
  cases action with
  | create desk market clock customer input orderId =>
    rw [slotStep] at stepped
    split at stepped
    · rename_i date unused dated
      rcases Option.map_eq_some_iff.mp stepped with ⟨orders, ran, rfl⟩
      exact .asks desk market clock customer input orderId date rfl dated unused ran rfl rfl rfl
    · cases stepped
  | snapshot index =>
    rw [slotStep] at stepped
    split at stepped
    · cases stepped
      exact .reads _ rfl
    · cases stepped
  | commit index environment clock =>
    rw [slotStep] at stepped
    split at stepped
    · rename_i operation customerUid book promo prepared document flying
      split at stepped
      · rename_i request snapshot asked read
        rcases sound.asks _ (List.mem_of_getElem? flying) with ⟨request', asked', rfl, offered⟩
        cases asked.symm.trans asked'
        split at stepped
        · cases stepped
          refine .acts (.crash index) rfl rfl ?_ ?_ rfl rfl
            fun _ _ found => found
          · intro orderId row creation
            rcases creation.is_commit with ⟨_, _, _, commits⟩
            cases commits
          · intro _ _ _ _ _ called
            cases called
        · rename_i slot booked
          split at stepped
          · rename_i unmoved
            cases stepped
            exact stepCommit_steps promptly flying asked offered (sound.finds read unmoved booked)
          · cases stepped
      · cases stepped
    · cases stepped
  | abort index budget clock =>
    rw [slotStep] at stepped
    split at stepped
    · rename_i operation customerUid book promo prepared document flying
      split at stepped
      · rename_i request snapshot asked read
        rcases sound.asks _ (List.mem_of_getElem? flying) with ⟨request', asked', rfl, offered⟩
        cases asked.symm.trans asked'
        split at stepped
        · cases stepped
        · rename_i slot booked
          split at stepped
          · rename_i unmoved
            exact stepAbort_steps flying (sound.finds read unmoved booked) stepped
          · cases stepped
      · cases stepped
    · cases stepped
  | other action =>
    rw [slotStep] at stepped
    split at stepped
    · cases stepped
    · rename_i free
      rcases Option.map_eq_some_iff.mp stepped with ⟨orders, ran, rfl⟩
      refine .acts action promptly ran ?_ ?_ rfl rfl
        fun _ _ found => found
      · rintro orderId row ⟨_, _, _, _, _, _, _, _, _, _, _, rfl, flying, _⟩
        exact free (by simp [SlotState.serializes, flying])
      · rintro market clock customer input orderId rfl
        exact free rfl

theorem SlotStepped.matched (stepped : SlotStepped castToObjectId state action after) :
    after.orders = state.orders ∨ ∃ action,
      prompt state.orders action = true ∧
        (orderSystem castToObjectId).step action state.orders = some after.orders := by
  cases stepped with
  | asks _ _ _ _ _ _ _ _ _ _ stepped =>
    exact .inr ⟨_, by rfl, stepped⟩
  | reads orderId snapshots =>
    subst snapshots
    exact .inl rfl
  | books _ _ _ _ _ _ _ _ _ _ allowed _ _ _ _ stepped =>
    exact .inr ⟨_, allowed, stepped⟩
  | acts action allowed stepped => exact .inr ⟨action, allowed, stepped⟩

theorem SlotStepped.stands (stepped : SlotStepped castToObjectId state
      action after) (asked : state.requests orderId = some request) :
    after.requests orderId = some request := by
  cases stepped with
  | asks _ _ _ _ _ other _ _ _ unused _ requests =>
    rw [requests, Function.update_of_ne]
    · exact asked
    · rintro rfl
      rw [unused] at asked
      cases asked
  | reads _ snapshots =>
    subst snapshots
    exact asked
  | books _ _ _ _ _ _ _ _ _ _ _ _ _ _ _ _ requests
  | acts _ _ _ _ _ requests =>
    rw [requests]
    exact asked

theorem Snapshot.Fresh.step {snapshot : Snapshot}
    (fresh : snapshot.Fresh state)
    (counts : ∀ branchId date,
      state.counters (branchId, date) < after.counters (branchId, date) ∨
        state.counters (branchId, date) = after.counters (branchId, date) ∧
          after.orders.database.booked branchId date ≤ state.orders.database.booked branchId date) :
    snapshot.Fresh after := by
  intro branchId date
  rcases fresh branchId date with ⟨below, less⟩
  rcases counts branchId date with moved | ⟨same, fewer⟩
  · refine ⟨by omega, fun equal => ?_⟩
    omega
  · refine ⟨by omega, fun equal => ?_⟩
    exact fewer.trans (less (same.trans equal))

/-- What the order service is known to satisfy when its run is timely. -/
structure State.Punctual (state : State) : Prop where
  tidy : state.Tidy
  onTime : ∀ orderId, OnTime orderId state

theorem State.Punctual.of_reaches {state : State}
    (reached : (orderSystem castToObjectId).Reaches
      (fun state action => prompt state action = true) .start state) :
    state.Punctual where
  tidy := State.Tidy.of_reaches reached
  onTime orderId := onTime_of_reaches
    (fun _ _ promptly => timely_of_prompt promptly orderId) reached

theorem Creation.asked {state : State} {environment : Environment}
    {row : OnlineOrder}
    (creation : Creation orderId state (.commit index environment clock) row)
    (flying : state.calls[index]? = some (.transaction operation
      (.create customerUid request.book promo) prepared document))
    (offered : document.order.provider.branchId = request.branchId) :
    document.order._id = orderId ∧
      row.booked.branchId = request.branchId ∧
      row.booked.scheduledDate = some request.date ∧
      isFull request.limit (state.database.booked request.branchId request.date) = false := by
  rcases creation.commits with ⟨_, _, _, _, _, _, _, _, _, slot, commits,
    flying', about, booked, provider, scheduled, _⟩
  cases commits
  cases flying.symm.trans flying'
  rcases PlaceRequest.book_room booked with ⟨dated, room⟩
  refine ⟨about, ?_, ?_, room⟩
  · rw [OnlineOrder.booked, provider]
    exact offered
  · rw [OnlineOrder.booked, scheduled, Option.map_some, dated]

/-- A step takes a place in a day only if it counts it. -/
theorem SlotStepped.counts (punctual : state.orders.Punctual)
    (stepped : SlotStepped castToObjectId state action after)
    (branchId : ObjectId) (date : String) :
    state.counters (branchId, date) < after.counters (branchId, date) ∨
      state.counters (branchId, date) = after.counters (branchId, date) ∧
        after.orders.database.booked branchId date ≤
          state.orders.database.booked branchId date := by
  cases stepped with
  | asks _ _ _ _ _ _ _ _ _ _ stepped _ counters =>
    refine .inr ⟨by rw [counters], ?_⟩
    apply booked_le punctual.tidy punctual.onTime (timely_of_prompt (by rfl)) stepped
    intro orderId row creation
    rcases creation.is_commit with ⟨_, _, _, commits⟩
    cases commits
  | reads _ snapshots =>
    subst snapshots
    exact .inr ⟨rfl, le_rfl⟩
  | acts action allowed stepped creates _ _ counters =>
    refine .inr ⟨by rw [counters], ?_⟩
    apply booked_le punctual.tidy punctual.onTime (timely_of_prompt allowed) stepped
    exact fun orderId row creation => (creates orderId row creation).elim
  | books index environment clock operation customerUid promo prepared
      document request slot allowed flying asked offered booked stepped _
      counters =>
    by_cases here : (branchId, date) = (request.branchId, request.date)
    · left
      rw [counters, SlotCounters.increment, here, Function.update_self]
      exact Nat.lt_succ_self _
    · right
      rw [counters, SlotCounters.increment, Function.update_of_ne here]
      refine ⟨rfl, ?_⟩
      apply booked_le punctual.tidy punctual.onTime (timely_of_prompt allowed) stepped
      intro orderId row creation
      rcases creation.asked flying offered with ⟨_, branch, scheduled, _⟩
      rw [OnlineOrder.holds, Bookings.BookedOrder.holds, branch, scheduled, Bool.eq_false_iff]
      intro holds
      simp only [Bool.and_eq_true, beq_iff_eq, Option.some.injEq] at holds
      exact here (by rw [holds.1.1, holds.1.2])

/-- Every step leaves the counts fresh. -/
theorem SlotState.Sound.step (sound : state.Sound)
    (punctual : state.orders.Punctual)
    (stepped : SlotStepped castToObjectId state action after) : after.Sound := by
  have counts := stepped.counts punctual
  have stands : ∀ orderId request,
      state.requests orderId = some request → after.requests orderId = some request :=
    fun _ _ asked => stepped.stands asked
  have stood : ∀ call ∈ state.orders.calls,
      AsksFor after.requests call :=
    fun call member => (sound.asks call member).mono stands
  cases stepped with
  | asks desk market clock customer input orderId date _ dated unused
      stepped requests counters snapshots =>
    constructor
    · refine requested_step punctual.tidy stood ?_ stepped
      intro _ _ _ _ _ callback document called ordered
      cases called
      refine requested_of_createOrder dated ?_ ordered
      rw [requests, Function.update_self]
    · rw [snapshots]
      exact fun _ _ read => (sound.fresh _ _ read).step counts
  | reads orderId snapshots =>
    subst snapshots
    refine ⟨stood, fun other snapshot read => ?_⟩
    by_cases same : other = orderId
    · subst same
      dsimp only at read
      rw [Function.update_self] at read
      cases read
      exact fun _ _ => ⟨le_rfl, fun _ => le_rfl⟩
    · dsimp only at read
      rw [Function.update_of_ne same] at read
      exact sound.fresh other snapshot read
  | books _ _ _ _ _ _ _ _ _ _ _ _ _ _ _ stepped _ _ snapshots =>
    constructor
    · refine requested_step punctual.tidy stood ?_ stepped
      intro _ _ _ _ _ _ _ called
      cases called
    · exact fun _ _ read =>
        (sound.fresh _ _ (snapshots _ _ read)).step counts
  | acts _ _ stepped _ calls _ _ snapshots =>
    constructor
    · refine requested_step punctual.tidy stood ?_ stepped
      intro _ _ _ _ _ _ _ called
      exact (calls _ _ _ _ _ called).elim
    · exact fun _ _ read =>
        (sound.fresh _ _ (snapshots _ _ read)).step counts

theorem SlotState.sound_start : SlotState.start.Sound where
  asks := by
    intro call member
    cases member
  fresh := by
    intro orderId snapshot read
    cases read

theorem SlotState.of_reaches
    (reached : (slotSystem castToObjectId).Reaches Prompt .start state) :
    state.Sound ∧ state.orders.Punctual := by
  have both : state.Sound ∧ (orderSystem castToObjectId).Reaches
      (fun state action => prompt state action = true)
      SlotState.start.orders state.orders := by
    refine reached.refines SlotState.orders SlotState.Sound SlotState.sound_start ?_ ?_
    · intro state action after ran sound promptly stepped
      exact sound.step (.of_reaches ran) (slotStep_cases sound promptly stepped)
    · intro state action after ran sound promptly stepped
      exact (slotStep_cases sound promptly stepped).matched
  exact ⟨both.1, .of_reaches both.2⟩

end

end Lalaba.Orders
