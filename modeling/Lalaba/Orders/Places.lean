import Lalaba.Bookings.Gate
import Lalaba.Orders.DailyCap
import Lalaba.Orders.History

/-!
# The places of a day

Every order holds a place in the day it is booked for, until it ends in one of the
releasing statuses.  In a timely run only the commit of a `createOrder` takes a
place, and no order that has given its place back takes one again.
-/

namespace Lalaba.Orders

open Bookings (BookedOrder SLOT_RELEASING_STATUSES bookedCount)
open Foundation
open Foundation.Program

def OnlineOrder.booked (order : OnlineOrder) : BookedOrder where
  branchId := order.provider.branchId
  scheduledDate := order.fulfillment.scheduledPickup.map ScheduledPickup.date
  status := order.status

def OnlineOrder.holds (branchId : ObjectId) (date : String)
    (order : OnlineOrder) : Bool :=
  order.booked.holds branchId date

namespace Database

def bookedOrders (database : Database) : List BookedOrder :=
  database.orders.entries.map fun entry => entry.2.booked

def booked (branchId : ObjectId) (date : String) (database : Database) :
    ℕ :=
  countRows (OnlineOrder.holds branchId date) database.orders

theorem bookedCount_bookedOrders (branchId : ObjectId) (date : String)
    (database : Database) :
    bookedCount branchId date database.bookedOrders =
      database.booked branchId date :=
  List.countP_map

end Database

theorem transitions_of_released {status : OrderStatus}
    (released : status ∈ SLOT_RELEASING_STATUSES) :
    status.transitions = [] := by
  simp only [SLOT_RELEASING_STATUSES, List.mem_cons, List.not_mem_nil, or_false] at released
  rcases released with rfl | rfl | rfl <;> rfl

/-! ## What a timely step makes of one order -/

/-- The commit of a `createOrder`, with the row it inserts. -/
structure Creation (orderId : ObjectId) (state : State) (action : Action)
    (row : OnlineOrder) : Prop where
  absent : state.database.orders.lookup orderId = none
  commits : ∃ index environment clock operation customerUid book promo
      prepared document slot,
    action = .commit index environment clock ∧
    state.calls[index]? = some (.transaction operation
      (.create customerUid book promo) prepared document) ∧
    document.order._id = orderId ∧
    book state.database = .ok slot ∧
    row.provider = document.order.provider ∧
    row.fulfillment.scheduledPickup = some slot ∧
    ((createInTransaction clock customerUid book).commit state.database document).1 = .ok ()

theorem Creation.is_commit {orderId : ObjectId} {state : State}
    {action : Action} {row : OnlineOrder}
    (creation : Creation orderId state action row) :
    ∃ index environment clock, action = .commit index environment clock := by
  rcases creation.commits with ⟨index, environment, clock, _, _, _, _, _, _, _, commits, _⟩
  exact ⟨index, environment, clock, commits⟩

/-- What a step makes of an order: it stays, it moves on, or it is new. -/
inductive Turned (orderId : ObjectId) (state : State) (action : Action) (after : State) : Prop where
  | stays (same : after.database.orders.lookup orderId = state.database.orders.lookup orderId)
  | moves (row later : OnlineOrder)
      (found : state.database.orders.lookup orderId = some row)
      (found' : after.database.orders.lookup orderId = some later)
      (provider : later.provider = row.provider)
      (scheduled : later.fulfillment.scheduledPickup = row.fulfillment.scheduledPickup)
      (leads : later.status = row.status ∨ row.status.transitions ≠ [])
  | opens (row : OnlineOrder)
      (found' : after.database.orders.lookup orderId = some row)
      (creation : Creation orderId state action row)

theorem saveDocument_inserts {session finish : Session Database OrderDocument}
    (unlimited : session.budget = none)
    (absent : session.store.orders.lookup session.memory.order._id = none)
    (ran : saveDocument.run session = (.ok (), finish)) :
    finish = { session with
      store := session.store.putOrder session.memory.order._id session.memory.order
      memory := session.memory.saved } := by
  rcases (run_call_ok unlimited).mp ran with ⟨store, memory, saved, rfl⟩
  rw [absent] at saved
  rcases isNew : session.memory.isNew with _ | _
  · simp [OrderDocument.save, isNew] at saved
  · rw [OrderDocument.save_new isNew] at saved
    cases saved
    rfl

theorem created_seated {clock : Clock} {customerUid : Uid}
    {book : Database → Except ServiceError ScheduledPickup}
    {database after : Database} {document document' : OrderDocument}
    (absent : database.orders.lookup document.order._id = none)
    (outcome : (createInTransaction clock customerUid book).commit database
      document = (.ok (), after, document')) :
    ∃ slot, book database = .ok slot ∧
      Seated document.order.provider (some slot) (after.orders.lookup document.order._id) := by
  rcases commit_ok.mp outcome with ⟨finish, ran, rfl, rfl⟩
  rcases run_bind_ok.mp ran with ⟨slot, _, checked, ran⟩
  rcases (run_query_ok rfl).mp checked with ⟨_, booked, rfl⟩
  dsimp only at booked
  rcases checks : book database with error | booked'
  · rw [checks] at booked
    cases booked
  rw [checks] at booked
  cases booked
  rcases run_bind_ok.mp ran with ⟨_, _, edited, ran⟩
  cases edited
  rcases run_bind_ok.mp ran with ⟨_, _, inserted, ran⟩
  have inserts := saveDocument_inserts rfl absent inserted
  subst inserts
  refine ⟨slot, rfl, ?_⟩
  -- Nothing moves a stored order to another provider or day.
  have seated : Kept document.order._id (fun _ => True) _ :=
    (@Seated.rests document.order._id document.order.provider (some slot) _).kept
  have kept := @Quiet.opening _ _ _ clock customerUid seated.quiet
    fun _ _ _ _ => trivial
  have after := kept.ran ⟨rfl, _, AList.lookup_insert _, by rfl, by rfl⟩ ran
  exact after.2

section

variable {castToObjectId : String → Option ObjectId} {orderId : ObjectId}
  {state after : State} {action : Action}

theorem Seated.commits {callback : Callback} {clock : Clock}
    {database database' : Database} {document document' : OrderDocument}
    {row : OnlineOrder} (about : document.order._id = orderId)
    (found : database.orders.lookup orderId = some row)
    (outcome : (callback.program clock).commit database document = (.ok (), database', document')) :
    Seated row.provider row.fulfillment.scheduledPickup (database'.orders.lookup orderId) := by
  have kept : Keeps
      (fun session => session.memory.order._id = orderId ∧
        Seated row.provider row.fulfillment.scheduledPickup (session.store.orders.lookup orderId))
      (callback.program clock) :=
    Seated.rests.kept.program
  rcases commit_ok.mp outcome with ⟨finish, ran, rfl, rfl⟩
  exact (kept.ran ⟨about, row, found, rfl, rfl⟩ ran).2

/-- What a timely step makes of an order. -/
theorem OnTime.turned (tidy : state.Tidy) (onTime : OnTime orderId state)
    (timely : Timely orderId state action)
    (stepped : (orderSystem castToObjectId).step action state = some after) :
    Turned orderId state action after := by
  have cases := @step_cases orderId _ _ _ tidy _ stepped
  cases cases with
  | aside beside _ => exact .stays beside.same.row
  | saved index environment clock document document' written commits flying
      about outcome beside _ =>
    subst commits
    have read := onTime.sound _ (List.mem_of_getElem? flying) about
    rcases read.saves timely flying about outcome with ⟨old, found, _, stands⟩
    have seated : Seated old.provider old.fulfillment.scheduledPickup
        (some written) :=
      Seated.saves ⟨old, found, rfl, rfl⟩ outcome
    rcases seated with ⟨_, same, provider, scheduled⟩
    cases same
    refine .moves old written found ?_ provider scheduled (.inl (congrArg Prod.fst stands))
    rw [beside.same.row]
    exact AList.lookup_insert _
  | committed index environment clock operation callback prepared document
      document' database commits flying about outcome beside _ =>
    subst commits
    have read := onTime.sound _ (List.mem_of_getElem? flying) about
    have advanced := read.commits timely flying about outcome
    cases advanced with
    | opened customerUid pickupMode booked absent striding =>
      rcases booked.creates with ⟨customerUid, book, promo, rfl⟩
      subst about
      rcases created_seated absent outcome with ⟨slot, checked, row, stored, provider, scheduled⟩
      refine .opens row ?_ ⟨absent, index, environment, clock,
        operation, customerUid, book, promo, prepared, document, slot,
        rfl, flying, rfl, checked, provider, scheduled, congrArg Prod.fst outcome⟩
      rw [beside.same.row]
      exact stored
    | moved row pickupMode existing found stands striding =>
      rcases Seated.commits about found outcome with ⟨later, found', provider, scheduled⟩
      refine .moves row later found ?_ provider scheduled (.inr ?_)
      · rw [beside.same.row]
        exact found'
      · intro ends
        have leaves := striding.allowed
        rw [ends] at leaves
        cases leaves

theorem Turned.holds {branchId : ObjectId} {date : String}
    {later : OnlineOrder} (turned : Turned orderId state action after)
    (found' : after.database.orders.lookup orderId = some later)
    (takes : later.holds branchId date = true) :
    (∃ row, state.database.orders.lookup orderId = some row ∧
        row.holds branchId date = true) ∨
      Creation orderId state action later := by
  cases turned with
  | stays same => exact .inl ⟨later, same ▸ found', takes⟩
  | opens row stored creation =>
    cases found'.symm.trans stored
    exact .inr creation
  | moves row later' found stored provider scheduled leads =>
    cases found'.symm.trans stored
    refine .inl ⟨row, found, ?_⟩
    rw [OnlineOrder.holds, BookedOrder.holds, Bool.and_eq_true, decide_eq_true_eq] at takes ⊢
    simp only [OnlineOrder.booked, provider, scheduled] at takes ⊢
    refine ⟨takes.1, fun released => ?_⟩
    rcases leads with same | leads
    · exact takes.2 (same ▸ released)
    · exact leads (transitions_of_released released)

theorem step_writes_one (tidy : state.Tidy)
    (stepped : (orderSystem castToObjectId).step action state = some after) :
    ∃ orderId, ∀ other, other ≠ orderId →
      after.database.orders.lookup other =
        state.database.orders.lookup other := by
  by_cases commits : ∃ index environment clock call,
      action = .commit index environment clock ∧ state.calls[index]? = some call
  · rcases commits with ⟨index, environment, clock, call, rfl, flying⟩
    refine ⟨call.orderId, fun other different => ?_⟩
    exact @lookup_of_other castToObjectId _ _ _ _ _ _ tidy flying stepped _ different
  · refine ⟨"", fun other _ => ?_⟩
    have cases := @step_cases other _ _ _ tidy _ stepped
    cases cases with
    | aside beside _ => exact beside.same.row
    | committed _ _ _ _ _ _ _ _ _ commits' flying
    | saved _ _ _ _ _ _ commits' flying =>
      exact (commits ⟨_, _, _, _, commits', flying⟩).elim

theorem booked_of_others {database database' : Database}
    (others : ∀ other, other ≠ orderId →
      database'.orders.lookup other = database.orders.lookup other)
    (branchId : ObjectId) (date : String) :
    database'.booked branchId date +
        (if (database.orders.lookup orderId).any (OnlineOrder.holds branchId date) then 1 else 0) =
      database.booked branchId date +
        if (database'.orders.lookup orderId).any
          (OnlineOrder.holds branchId date) then 1 else 0 := by
  rw [Database.booked, Database.booked, countRows_eq orderId,
    countRows_eq orderId _ database.orders, countOthers_congr others]
  omega

variable {branchId : ObjectId} {date : String}

theorem booked_le (tidy : state.Tidy)
    (onTime : ∀ orderId, OnTime orderId state)
    (timely : ∀ orderId, Timely orderId state action)
    (stepped : (orderSystem castToObjectId).step action state = some after)
    (creates : ∀ orderId row, Creation orderId state action row → row.holds branchId date = false) :
    after.database.booked branchId date ≤
      state.database.booked branchId date := by
  rcases step_writes_one tidy stepped with ⟨orderId, others⟩
  have moved := booked_of_others others branchId date
  have turned := (onTime orderId).turned tidy (timely orderId) stepped
  rcases stored : after.database.orders.lookup orderId with _ | later
  · simp only [stored, Option.any_none, Bool.false_eq_true, if_false, add_zero] at moved
    omega
  rcases takes : later.holds branchId date with _ | _
  · simp only [stored, Option.any_some, takes, Bool.false_eq_true, if_false, add_zero] at moved
    omega
  rcases turned.holds stored takes with ⟨row, found, held⟩ | creation
  · simp only [stored, found, Option.any_some, takes, held, if_true] at moved
    omega
  · rw [creates orderId later creation] at takes
    cases takes

theorem booked_le_succ (tidy : state.Tidy)
    (stepped : (orderSystem castToObjectId).step action state = some after) :
    after.database.booked branchId date ≤ state.database.booked branchId date + 1 := by
  rcases step_writes_one tidy stepped with ⟨orderId, others⟩
  have moved := booked_of_others others branchId date
  split at moved <;> split at moved <;> omega

theorem booked_of_released (tidy : state.Tidy)
    (stepped : (orderSystem castToObjectId).step action state = some after)
    {row later : OnlineOrder}
    (found : state.database.orders.lookup orderId = some row)
    (found' : after.database.orders.lookup orderId = some later)
    (held : row.status ∉ SLOT_RELEASING_STATUSES)
    (released : later.status ∈ SLOT_RELEASING_STATUSES) :
    after.database.booked branchId date +
        (if row.holds branchId date then 1 else 0) =
      state.database.booked branchId date := by
  rcases step_writes_one tidy stepped with ⟨written, others⟩
  have here : orderId = written := by
    by_contra different
    rw [others orderId different, found] at found'
    cases found'
    exact held released
  subst here
  have moved := booked_of_others others branchId date
  have free : later.holds branchId date = false := by
    simp [OnlineOrder.holds, BookedOrder.holds, OnlineOrder.booked, released]
  simpa [found, found', free] using moved

end

end Lalaba.Orders
