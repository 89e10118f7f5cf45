import Lalaba.Pos.Course

/-!
# Stock and its history

The transactions of orders guard what they take in the update itself, and write the
history with it.  A manual change writes the stock first and the history after, and
has checked a stock that it read earlier: the sums agree whenever nobody is between
the two writes, but the stock stays above zero only while a manual change still fits
when it is written.
-/

namespace Lalaba.Pos

open Foundation

/-! ## Manual changes in flight -/

def Call.manual : Call → Option StockChange
  | .change made => some made
  | .log made => some made
  | _ => none

def Call.writes : Call → Option StockChange
  | .change made => some made
  | _ => none

def Call.unlogged (inventoryId : ObjectId) : Call → ℚ
  | .log made => moved inventoryId [made.row]
  | _ => 0

def State.unlogged (inventoryId : ObjectId) (state : State) : ℚ :=
  ((state.calls : Multiset Call).map (Call.unlogged inventoryId)).sum

def CoveredChange (state : State) (action : Action) : Prop :=
  ∀ index ∈ action.proceeding, ∀ call ∈ state.calls[index]?,
    ∀ change ∈ call.writes, 0 ≤ state.store.stock change.inventoryId + change.quantityChange

instance (state : State) (action : Action) :
    Decidable (CoveredChange state action) :=
  inferInstanceAs (Decidable (∀ index ∈ action.proceeding, ∀ call ∈ state.calls[index]?,
      ∀ change ∈ call.writes, 0 ≤ state.store.stock change.inventoryId + change.quantityChange))

section

variable {inventoryId : ObjectId} {state : State} {index : ℕ} {call next : Call}

theorem State.unlogged_begin :
    (state.begin call).unlogged inventoryId =
      call.unlogged inventoryId + state.unlogged inventoryId := by
  rw [State.unlogged, State.calls_begin, Multiset.map_cons, Multiset.sum_cons, State.unlogged]

theorem State.unlogged_finish (flying : state.calls[index]? = some call) :
    state.unlogged inventoryId =
      call.unlogged inventoryId + (state.finish index).unlogged inventoryId := by
  rw [State.unlogged, State.calls_finish flying, Multiset.map_cons,
    Multiset.sum_cons, State.unlogged]

theorem State.unlogged_advance (flying : state.calls[index]? = some call) :
    (state.advance index next).unlogged inventoryId =
      next.unlogged inventoryId + (state.finish index).unlogged inventoryId := by
  rw [State.unlogged, State.calls_advance flying, Multiset.map_cons,
    Multiset.sum_cons, State.unlogged]

end

def PosStore.Follows (store after : PosStore) : Prop :=
  ∃ rows,
    after.inventoryTransactions = store.inventoryTransactions ++ rows ∧
    (∀ inventoryId, after.stock inventoryId = store.stock inventoryId + moved inventoryId rows) ∧
    ((∀ inventoryId, 0 ≤ store.stock inventoryId) → ∀ inventoryId, 0 ≤ after.stock inventoryId)

namespace PosStore.Follows

variable {store middle after : PosStore}

theorem of_moved {rows : List InventoryTransaction}
    (moves : Moved store after rows) : store.Follows after :=
  ⟨rows, moves.history, moves.stock, moves.covered⟩

theorem of_same (inventory : after.inventory = store.inventory)
    (history : after.inventoryTransactions =
      store.inventoryTransactions) : store.Follows after := by
  have same : ∀ inventoryId, after.stock inventoryId = store.stock inventoryId := by
    intro inventoryId
    rw [PosStore.stock, inventory, PosStore.stock]
  refine ⟨[], by rw [history, List.append_nil], ?_, ?_⟩
  · intro inventoryId
    rw [same, moved_nil, add_zero]
  · intro covered inventoryId
    rw [same]
    exact covered inventoryId

theorem refl (store : PosStore) : store.Follows store := of_same rfl rfl

theorem trans (first : store.Follows middle)
    (second : middle.Follows after) : store.Follows after := by
  rcases first with ⟨rows, history, stock, covered⟩
  rcases second with ⟨others, later, stock', covered'⟩
  refine ⟨rows ++ others, ?_, ?_, covered' ∘ covered⟩
  · rw [later, history, List.append_assoc]
  · intro inventoryId
    rw [stock', stock, moved_append, add_assoc]

theorem updateOrder (orderId : ObjectId) (uid : Uid)
    (change : PosOrder → PosOrder) :
    store.Follows (store.updateOrder orderId uid change) := by
  rw [PosStore.updateOrder]
  split
  · exact refl store
  · split
    · exact of_same rfl rfl
    · exact refl store

theorem transact {state : State} {orderId : ObjectId} {cause : Cause}
    {ran : Except ServiceError PosStore}
    (follows : ∀ store, ran = .ok store → state.store.Follows store) :
    state.store.Follows (state.transact orderId cause ran).store := by
  rcases ran with error | store
  · exact refl _
  · exact follows store rfl

end PosStore.Follows

section

variable {catalog : Catalog} {state after : State} {index : ℕ}
  {newId : ObjectId} {claimCode : String} {now : Instant} {call : Call}

/-- A call on an order writes the history with the stock. -/
theorem stepCall_follows (orders : call.manual = none) :
    state.store.Follows (stepCall catalog index newId claimCode now state call).store := by
  cases call with
  | change | log => cases orders
  | create input user =>
    apply PosStore.Follows.transact
    intro store ran
    rcases createInTransaction_ok ran with ⟨_, items, _, moves⟩
    exact PosStore.Follows.trans
      (.of_same rfl rfl : state.store.Follows (state.store.putOrder newId
        (newOrder input user claimCode items (items.map OrderItem.subtotal).sum)))
      (.of_moved moves)
  | mark | pickup | paid => exact .updateOrder _ _ _
  | payment orderId uid input user order =>
    rw [stepCall, stepPayment]
    split
    · exact .updateOrder _ _ _
    · exact .of_same rfl rfl
  | cancel request order =>
    apply PosStore.Follows.transact
    intro store ran
    rcases cancelInTransaction_ok ran with ⟨middle, moves, rfl⟩
    exact PosStore.Follows.trans (.of_moved moves) (.updateOrder _ _ _)
  | void request order =>
    apply PosStore.Follows.transact
    intro store ran
    rcases voidInTransaction_ok ran with ⟨middle, moves, rfl⟩
    have refunds : state.store.Follows
        (if order.paymentStatus = .paid then
          state.store.createTransaction (refundRow request order state.store)
        else
          state.store) := by
      split
      · exact .of_same rfl rfl
      · exact .refl _
    exact refunds.trans (PosStore.Follows.trans (.of_moved moves) (.updateOrder _ _ _))
  | addOn request order =>
    apply PosStore.Follows.transact
    intro store ran
    rcases addOnInTransaction_ok ran with ⟨items, middle, _, moves, rfl⟩
    have pays : state.store.Follows (state.store.createTransaction
        (addOnRow request (items.map OrderItem.subtotal).sum)) :=
      .of_same rfl rfl
    exact pays.trans (PosStore.Follows.trans (.of_moved moves) (.updateOrder _ _ _))

/-! ## Every step -/

/--
The stock is the initial one and all that was recorded since, with what has not been
recorded yet; a manual change in flight is about an item that is there.
-/
structure Recorded (initial : ObjectId → ℚ) (state : State) : Prop where
  sums : ∀ inventoryId, state.store.stock inventoryId =
    initial inventoryId +
      moved inventoryId state.store.inventoryTransactions +
      state.unlogged inventoryId
  covered : ∀ inventoryId, 0 ≤ state.store.stock inventoryId
  known : ∀ call ∈ state.calls, ∀ change ∈ call.manual,
    state.store.described change.inventoryId ≠ none

namespace Recorded

variable {initial : ObjectId → ℚ}

theorem begin (recorded : Recorded initial state)
    (nothing : ∀ inventoryId, call.unlogged inventoryId = 0)
    (known : ∀ change ∈ call.manual, state.store.described change.inventoryId ≠ none) :
    Recorded initial (state.begin call) where
  sums := by
    intro inventoryId
    rw [State.unlogged_begin, nothing, zero_add]
    exact recorded.sums inventoryId
  covered := recorded.covered
  known := by
    intro member listed
    rcases List.mem_append.mp listed with earlier | new
    · exact recorded.known member earlier
    · rw [List.mem_singleton] at new
      subst new
      exact known

theorem follow {store : PosStore} (recorded : Recorded initial state)
    (described : store.described = state.store.described)
    (follows : state.store.Follows store) :
    Recorded initial (state.write store) where
  sums := by
    rcases follows with ⟨rows, history, stock, _⟩
    intro inventoryId
    show store.stock inventoryId = initial inventoryId +
      moved inventoryId store.inventoryTransactions +
      state.unlogged inventoryId
    rw [stock, history, moved_append, recorded.sums]
    ring
  covered := by
    rcases follows with ⟨_, _, _, covered⟩
    exact covered recorded.covered
  known := by
    intro member listed change manual
    show store.described change.inventoryId ≠ none
    rw [described]
    exact recorded.known member listed change manual

theorem finish (recorded : Recorded initial state)
    (flying : state.calls[index]? = some call)
    (nothing : ∀ inventoryId, call.unlogged inventoryId = 0) :
    Recorded initial (state.finish index) where
  sums := by
    intro inventoryId
    have sums := recorded.sums inventoryId
    rw [State.unlogged_finish flying, nothing, zero_add] at sums
    exact sums
  covered := recorded.covered
  known := by
    intro member listed
    exact recorded.known member (List.mem_of_mem_eraseIdx listed)

theorem advance (recorded : Recorded initial state) {next : Call}
    (flying : state.calls[index]? = some call)
    (nothing : ∀ inventoryId, call.unlogged inventoryId = 0)
    (also : ∀ inventoryId, next.unlogged inventoryId = 0)
    (orders : next.manual = none) :
    Recorded initial (state.advance index next) where
  sums := by
    intro inventoryId
    rw [State.unlogged_advance flying, also, zero_add]
    exact (recorded.finish flying nothing).sums inventoryId
  covered := recorded.covered
  known := by
    intro member listed change manual
    rcases List.mem_or_eq_of_mem_set listed with earlier | rfl
    · exact recorded.known member earlier change manual
    · rw [orders] at manual
      cases manual

theorem congr (recorded : Recorded initial state)
    (store : after.store = state.store)
    (calls : after.calls = state.calls) : Recorded initial after where
  sums := by
    intro inventoryId
    rw [store, State.unlogged, calls]
    exact recorded.sums inventoryId
  covered := by
    rw [store]
    exact recorded.covered
  known := by
    rw [store, calls]
    exact recorded.known

end Recorded

theorem Call.unlogged_of_orders {inventoryId : ObjectId}
    (orders : call.manual = none) : call.unlogged inventoryId = 0 := by
  cases call with
  | log => cases orders
  | _ => rfl

theorem State.calls_transact {orderId : ObjectId} {cause : Cause}
    {ran : Except ServiceError PosStore} :
    (state.transact orderId cause ran).calls = state.calls := by
  cases ran <;> rfl

theorem stepCall_calls (orders : call.manual = none) :
    (stepCall catalog index newId claimCode now state call).calls =
        (state.finish index).calls ∨
      ∃ next, next.manual = none ∧
        (stepCall catalog index newId claimCode now state call).calls =
          (state.advance index next).calls := by
  cases call with
  | change | log => cases orders
  | create | cancel | void | addOn =>
    left
    rw [stepCall, State.transact_finish, State.calls_transact]
  | mark | pickup | paid => exact .inl rfl
  | payment orderId uid input user order =>
    rw [stepCall, stepPayment]
    split
    · exact .inl rfl
    · exact .inr ⟨.paid orderId uid order, rfl, rfl⟩

namespace Recorded

variable {initial : ObjectId → ℚ}

theorem stepCall_orders (recorded : Recorded initial state)
    (flying : state.calls[index]? = some call)
    (orders : call.manual = none) :
    Recorded initial (stepCall catalog index newId claimCode now state call) := by
  have written := recorded.follow
    (@described_stepCall catalog state index newId claimCode now call)
    (stepCall_follows orders)
  have nothing : ∀ inventoryId, call.unlogged inventoryId = 0 :=
    fun _ => Call.unlogged_of_orders orders
  rcases @stepCall_calls catalog state index newId claimCode now call
    orders with calls | ⟨next, also, calls⟩
  · exact (written.finish flying nothing).congr rfl calls
  · exact (written.advance flying nothing
      (fun _ => Call.unlogged_of_orders also) also).congr rfl calls

variable {change : StockChange}

/-- A manual change is written, and is still to be recorded. -/
theorem stepCall_change (recorded : Recorded initial state)
    (flying : state.calls[index]? = some (.change change))
    (fits : 0 ≤ state.store.stock change.inventoryId + change.quantityChange) :
    Recorded initial (stepCall catalog index newId claimCode now state (.change change)) := by
  have present : ∃ item, state.store.inventory.lookup change.inventoryId = some item := by
    have known := recorded.known _ (List.mem_of_getElem? flying) change rfl
    rw [PosStore.described] at known
    rcases found : state.store.inventory.lookup change.inventoryId with
      _ | item
    · rw [found] at known
      exact absurd rfl known
    · exact ⟨item, rfl⟩
  rcases present with ⟨item, found⟩
  have stock : ∀ other, (state.store.incrementStock change.inventoryId
      change.quantityChange).stock other =
      state.store.stock other + moved other [change.row] := by
    intro other
    rw [PosStore.stock_incrementStock found, moved_singleton]
    rfl
  have history : (state.store.incrementStock change.inventoryId
      change.quantityChange).inventoryTransactions =
      state.store.inventoryTransactions := by
    rw [PosStore.incrementStock, found]
  have flying' : (state.write (state.store.incrementStock
      change.inventoryId change.quantityChange)).calls[index]? = some (.change change) :=
    flying
  rw [stepCall]
  constructor
  · intro inventoryId
    rw [State.unlogged_advance flying']
    show (state.store.incrementStock change.inventoryId
        change.quantityChange).stock inventoryId =
      initial inventoryId + moved inventoryId
        (state.store.incrementStock change.inventoryId
          change.quantityChange).inventoryTransactions +
        (moved inventoryId [change.row] + (state.finish index).unlogged inventoryId)
    have sums := recorded.sums inventoryId
    rw [State.unlogged_finish flying] at sums
    rw [stock, history, sums]
    simp only [Call.unlogged]
    ring
  · intro inventoryId
    show 0 ≤ (state.store.incrementStock change.inventoryId change.quantityChange).stock inventoryId
    rw [stock, moved_singleton]
    split
    · rename_i same
      rw [← same]
      exact fits
    · rw [add_zero]
      exact recorded.covered inventoryId
  · intro member listed made manual
    show (state.store.incrementStock change.inventoryId
      change.quantityChange).described made.inventoryId ≠ none
    rw [PosStore.described_incrementStock]
    rcases List.mem_or_eq_of_mem_set listed with earlier | rfl
    · exact recorded.known member earlier made manual
    · cases manual
      exact recorded.known _ (List.mem_of_getElem? flying) change rfl

theorem stepCall_log (recorded : Recorded initial state)
    (flying : state.calls[index]? = some (.log change)) :
    Recorded initial (stepCall catalog index newId claimCode now state (.log change)) where
  sums := by
    intro inventoryId
    show state.store.stock inventoryId = initial inventoryId +
      moved inventoryId (state.store.inventoryTransactions ++ [change.row]) +
      (state.finish index).unlogged inventoryId
    have sums := recorded.sums inventoryId
    rw [State.unlogged_finish flying] at sums
    rw [moved_append, sums]
    simp only [Call.unlogged]
    ring
  covered := recorded.covered
  known := by
    intro member listed
    exact recorded.known member (List.mem_of_mem_eraseIdx listed)

theorem stepRead {orderId : ObjectId} {uid : Uid}
    {next : PosOrder → Except ServiceError Call}
    (recorded : Recorded initial state)
    (orders : ∀ order call, next order = .ok call → call.manual = none)
    (stepped : Pos.stepRead orderId uid next state = some after) :
    Recorded initial after := by
  rw [Pos.stepRead] at stepped
  split at stepped
  · cases stepped
  · rename_i order found
    rcases Option.map_eq_some_iff.mp stepped with ⟨call, passed, rfl⟩
    rcases checked : next order with error | begun
    · rw [checked] at passed
      cases passed
    · rw [checked] at passed
      cases passed
      have free := orders order call checked
      refine recorded.begin (fun _ => Call.unlogged_of_orders free) ?_
      rw [free]
      rintro _ ⟨⟩

theorem stepChange {uid : Uid} {check : Inventory → Except ServiceError Unit}
    (recorded : Recorded initial state)
    (stepped : Pos.stepChange uid change check state = some after) :
    Recorded initial after := by
  rw [Pos.stepChange] at stepped
  split at stepped
  · cases stepped
  · rename_i item found
    split_ifs at stepped
    rcases Option.map_eq_some_iff.mp stepped with ⟨_, _, rfl⟩
    refine recorded.begin (fun _ => rfl) ?_
    rintro _ ⟨⟩
    rw [PosStore.described, (Option.filter_eq_some_iff.mp found).1]
    simp

theorem step {action : Action} (recorded : Recorded initial state)
    (covers : CoveredChange state action)
    (stepped : Pos.step catalog action state = some after) :
    Recorded initial after := by
  have mapped : ∀ {Passed : Type} {check : Except ServiceError Passed}
      {make : Passed → Call} {call : Call},
      (∀ passed, (make passed).manual = none) →
      check.map make = .ok call → call.manual = none := by
    intro Passed check make call orders checked
    rcases check with error | passed
    · cases checked
    · cases checked
      exact orders passed
  cases action with
  | create input user activeBranchId =>
    rw [Pos.step] at stepped
    split at stepped
    · cases stepped
    · rcases Option.map_eq_some_iff.mp stepped with ⟨_, _, rfl⟩
      apply recorded.begin (fun _ => rfl)
      rintro _ ⟨⟩
  | markInProgress | markReady | processPickup | cancelOrder | voidOrder | addOrderItems =>
    exact recorded.stepRead (fun _ _ checked => mapped (fun _ => rfl) checked) stepped
  | processPayment orderId uid input user =>
    rcases Option.map_eq_some_iff.mp stepped with ⟨⟨order, store⟩, locked, rfl⟩
    rcases Option.map_eq_some_iff.mp locked with ⟨row, found, same⟩
    cases same
    have locks : state.store.Follows (state.store.putOrder orderId
        { order with paymentStatus := .paid }) :=
      .of_same rfl rfl
    have written := recorded.follow (by rfl) locks
    have free : (Call.payment orderId uid input user order).manual =
        none :=
      rfl
    apply written.begin (fun _ => Call.unlogged_of_orders free)
    rintro _ ⟨⟩
  | restock | adjust | damage => exact recorded.stepChange stepped
  | proceed index newId claimCode now =>
    rcases Option.map_eq_some_iff.mp stepped with ⟨call, flying, rfl⟩
    cases call with
    | change change =>
      exact recorded.stepCall_change flying (covers index rfl _ flying change rfl)
    | log change => exact recorded.stepCall_log flying
    | create | mark | pickup | payment | paid | cancel | void | addOn =>
      exact recorded.stepCall_orders flying rfl

end Recorded

end

theorem Counter.shelf_stocked (other : ObjectId) :
    0 ≤ (State.start (Counter.shelf 5)).store.stock other := by
  by_cases same : other = "powder"
  · subst same
    decide +kernel
  · have missing : (Counter.shelf 5).lookup other = none := by
      rw [Counter.shelf, AList.lookup_insert_ne same]
      rfl
    show 0 ≤ (((Counter.shelf 5).lookup other).map _).getD 0
    rw [missing]
    exact le_refl _

end Lalaba.Pos
