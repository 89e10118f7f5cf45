import Lalaba.Pos.Ticket

/-!
# Runs seen from one order

Every step of the point of sale is a step of an order's machine, or leaves what
concerns the order as it is.  An invariant of the machine is therefore one of every
run.  A run may be restricted by what its calls find of the order when they proceed;
the calls on other orders stay free.
-/

namespace Lalaba.Pos

open Foundation

namespace Ticket

variable {catalog : Catalog} {described : ObjectId → Option Inventory}
  {orderId : ObjectId} {ticket after : Ticket} {label : Option Call}

theorem Owned.begin {row : PosOrder} {payments : List PosTransaction}
    {movements : List Movement} {calls : Multiset Call} {call : Call}
    {changed : PosOrder}
    (owned : Owned ⟨some row, payments, movements, calls⟩)
    (same : changed.uid = row.uid)
    (own : call.order.map Prod.snd = some row.uid) :
    Owned ⟨some changed, payments, movements, call ::ₘ calls⟩ := by
  intro member listed
  refine ⟨changed, rfl, ?_⟩
  rw [same]
  rcases Multiset.mem_cons.mp listed with rfl | earlier
  · exact own
  · rcases owned member earlier with ⟨_, ⟨⟩, found⟩
    exact found

theorem Owned.finish {row changed : PosOrder}
    {payments paid : List PosTransaction}
    {movements moved : List Movement} {calls : Multiset Call} {call : Call}
    (owned : Owned ⟨some row, payments, movements, call ::ₘ calls⟩)
    (same : changed.uid = row.uid) :
    Owned ⟨some changed, paid, moved, calls⟩ := by
  intro member listed
  rcases owned member (Multiset.mem_cons_of_mem listed) with ⟨_, ⟨⟩, found⟩
  exact ⟨changed, rfl, by rw [same]; exact found⟩

theorem addNote_uid (label : String) (reason : Option String)
    (snapshot row : PosOrder) :
    (addNote label reason snapshot row).uid = row.uid := by
  rw [addNote]
  split <;> rfl

theorem Owned.step (owned : ticket.Owned)
    (stepped : Step catalog described orderId ticket label after) :
    after.Owned := by
  cases stepped with
  | created =>
    intro member listed
    obtain ⟨row, absent, own⟩ := owned member listed
    cases absent
  | began row payments movements calls call begun =>
    apply owned.begin rfl
    cases begun with
    | mark | pickup => rfl
    | cancel _ own | void _ own | addOn _ own => exact congrArg some own
  | locked => exact owned.begin rfl rfl
  | refused row payments movements calls call =>
    intro member listed
    exact owned member (Multiset.mem_cons_of_mem listed)
  | marked | claimed | unlocked | addedOn => exact owned.finish rfl
  | recorded =>
    exact Owned.begin (owned.finish rfl) rfl rfl
  | completed row payments movements calls order =>
    apply owned.finish
    split <;> rfl
  | cancelled | voided =>
    apply owned.finish
    rw [addNote_uid]

end Ticket

def Call.read : Call → Option PosOrder
  | .payment _ _ _ _ order => some order
  | .paid _ _ order => some order
  | .cancel _ order => some order
  | .void _ order => some order
  | .addOn _ order => some order
  | _ => none

theorem Ticket.Step.reads {catalog : Catalog}
    {described : ObjectId → Option Inventory} {orderId : ObjectId}
    {ticket after : Ticket} {label : Option Call}
    (stepped : Step catalog described orderId ticket label after) :
    ∀ call ∈ after.calls, ∀ order ∈ call.read,
      ticket.row = some order ∨ ∃ earlier ∈ ticket.calls, earlier.read = some order := by
  intro call listed order reading
  cases stepped with
  | created => exact .inr ⟨call, listed, reading⟩
  | refused | marked | claimed | unlocked | completed | cancelled | voided | addedOn =>
    exact .inr ⟨call, Multiset.mem_cons_of_mem listed, reading⟩
  | began row payments movements calls begins begun =>
    rcases Multiset.mem_cons.mp listed with rfl | earlier
    · left
      cases begun with
      | mark | pickup => cases reading
      | cancel | void | addOn =>
        cases reading
        rfl
    · exact .inr ⟨call, earlier, reading⟩
  | locked =>
    rcases Multiset.mem_cons.mp listed with rfl | earlier
    · cases reading
      exact .inl rfl
    · exact .inr ⟨call, earlier, reading⟩
  | recorded =>
    rcases Multiset.mem_cons.mp listed with rfl | earlier
    · cases reading
      exact .inr ⟨_, Multiset.mem_cons_self _ _, rfl⟩
    · exact .inr ⟨call, Multiset.mem_cons_of_mem earlier, reading⟩

theorem Ticket.Step.kept {catalog : Catalog}
    {described : ObjectId → Option Inventory} {orderId : ObjectId}
    {ticket after : Ticket} {label : Option Call}
    (stepped : Step catalog described orderId ticket label after) :
    ∀ call ∈ after.calls, call ∈ ticket.calls ∨
      (∃ other uid input user order, call = .payment other uid input user order) ∨
      (∃ other uid order, call = .paid other uid order) ∨
      ∃ row, Begun row call := by
  intro call listed
  cases stepped with
  | created => exact .inl listed
  | refused | marked | claimed | unlocked | completed | cancelled | voided | addedOn =>
    exact .inl (Multiset.mem_cons_of_mem listed)
  | began row payments movements calls begins begun =>
    rcases Multiset.mem_cons.mp listed with rfl | earlier
    · exact .inr (.inr (.inr ⟨row, begun⟩))
    · exact .inl earlier
  | locked =>
    rcases Multiset.mem_cons.mp listed with rfl | earlier
    · exact .inr (.inl ⟨_, _, _, _, _, rfl⟩)
    · exact .inl earlier
  | recorded =>
    rcases Multiset.mem_cons.mp listed with rfl | earlier
    · exact .inr (.inr (.inl ⟨_, _, _, rfl⟩))
    · exact .inl (Multiset.mem_cons_of_mem earlier)

theorem Ticket.Step.moves {catalog : Catalog}
    {described : ObjectId → Option Inventory} {orderId : ObjectId}
    {ticket after : Ticket} {label : Option Call}
    (moves : ∀ other uid target, .mark other uid target ∈ ticket.calls →
      target = .inProgress ∨ target = .ready)
    (stepped : Step catalog described orderId ticket label after) :
    ∀ other uid target, .mark other uid target ∈ after.calls →
      target = .inProgress ∨ target = .ready := by
  intro other uid target listed
  rcases stepped.kept _ listed with
    earlier | ⟨_, _, _, _, _, ⟨⟩⟩ | ⟨_, _, _, ⟨⟩⟩ | ⟨_, begun⟩
  · exact moves other uid target earlier
  · cases begun with
    | mark _ _ marked =>
      rcases marked with marked | marked
      · rw [markInProgress] at marked
        split_ifs at marked
        cases marked
        exact .inl rfl
      · rw [markReady] at marked
        split_ifs at marked
        cases marked
        exact .inr rfl

section

variable {catalog : Catalog} {store after : PosStore}

theorem PosStore.described_updateOrder (orderId : ObjectId) (uid : Uid)
    (change : PosOrder → PosOrder) :
    (store.updateOrder orderId uid change).described =
      store.described := by
  rw [PosStore.updateOrder]
  split
  · rfl
  · split <;> rfl

theorem State.described_transact {state : State} {orderId : ObjectId}
    {cause : Cause} {ran : Except ServiceError PosStore}
    (keeps : ∀ store, ran = .ok store → store.described = state.store.described) :
    (state.transact orderId cause ran).store.described =
      state.store.described := by
  rcases ran with error | store
  · rfl
  · exact keeps store rfl

theorem described_stepCall {state : State} {index : ℕ}
    {newId : ObjectId} {claimCode : String} {now : Instant} (call : Call) :
    (stepCall catalog index newId claimCode now state
      call).store.described = state.store.described := by
  cases call with
  | create input user =>
    apply State.described_transact
    intro store ran
    rcases createInTransaction_ok ran with ⟨_, _, _, moves⟩
    exact moves.described
  | mark | pickup | paid => exact PosStore.described_updateOrder _ _ _
  | payment orderId uid input user order =>
    rw [stepCall, stepPayment]
    split
    · exact PosStore.described_updateOrder _ _ _
    · rfl
  | cancel request order =>
    apply State.described_transact
    intro store ran
    rcases cancelInTransaction_ok ran with ⟨middle, moves, rfl⟩
    rw [PosStore.described_updateOrder, moves.described]
  | void request order =>
    apply State.described_transact
    intro store ran
    rcases voidInTransaction_ok ran with ⟨middle, moves, rfl⟩
    rw [PosStore.described_updateOrder, moves.described]
    split <;> rfl
  | addOn request order =>
    apply State.described_transact
    intro store ran
    rcases addOnInTransaction_ok ran with ⟨_, middle, _, moves, rfl⟩
    rw [PosStore.described_updateOrder, moves.described]
    rfl
  | change change => exact PosStore.described_incrementStock
  | log => rfl

end

section

variable {catalog : Catalog} {orderId : ObjectId} {state after : State}

variable {uid : Uid}

theorem findOwn_ok {store : PosStore} {row : PosOrder}
    (found : store.findOwn orderId uid = .ok row) :
    store.orders.lookup orderId = some row ∧ row.uid = uid := by
  rw [PosStore.findOwn] at found
  rcases stored : store.orders.lookup orderId with _ | order
  · rw [stored] at found
    cases found
  · rw [stored] at found
    by_cases own : order.uid = uid
    · simp only [Option.filter, own, decide_true] at found
      cases found
      exact ⟨rfl, own⟩
    · simp only [Option.filter, own, decide_false] at found
      cases found

theorem stepRead_step {other : ObjectId}
    {next : PosOrder → Except ServiceError Call}
    (begins : ∀ order call, order.uid = uid → next order = .ok call →
      Begun order call ∧ call.order = some (other, uid))
    (stepped : stepRead other uid next state = some after) :
    after.ticket orderId = state.ticket orderId ∨
      Ticket.Step catalog state.store.described orderId
        (state.ticket orderId) none (after.ticket orderId) := by
  rw [stepRead] at stepped
  rcases found : state.store.findOwn other uid with error | order
  · rw [found] at stepped
    cases stepped
  · simp only [found] at stepped
    rcases findOwn_ok found with ⟨stored, own⟩
    rcases checked : next order with error | call
    · rw [checked] at stepped
      cases stepped
    · rw [checked] at stepped
      cases stepped
      rcases begins order call own checked with ⟨begun, about⟩
      by_cases same : other = orderId
      · subst same
        right
        rw [State.ticket_begin (by simp [Call.concerns, about])]
        rcases is : state.ticket other with ⟨row, payments, movements, calls⟩
        have stored' : state.store.orders.lookup other = row := (Ticket.mk.inj is).1
        rw [stored] at stored'
        subst stored'
        exact .began order payments movements calls call begun
      · left
        exact State.ticket_begin_of_not (by simp [Call.concerns, about, same])

theorem lockForPayment_step {other : ObjectId} {input : ProcessPaymentInput}
    {user : User} {order : PosOrder} {store : PosStore}
    (locked : lockForPayment other uid state.store = some (order, store)) :
    ((state.write store).begin
        (.payment other uid input user order)).ticket orderId = state.ticket orderId ∨
      Ticket.Step catalog state.store.described orderId
        (state.ticket orderId) none
        (((state.write store).begin (.payment other uid input user order)).ticket orderId) := by
  rw [lockForPayment] at locked
  rcases Option.map_eq_some_iff.mp locked with ⟨row, found, same⟩
  rcases Option.filter_eq_some_iff.mp found with ⟨stored, guard⟩
  simp only [decide_eq_true_eq] at guard
  cases same
  by_cases here : other = orderId
  · subst here
    right
    rcases is : state.ticket other with ⟨held, payments, movements, calls⟩
    rcases Ticket.mk.inj is with ⟨stored', paid, moves, inFlight⟩
    rw [stored] at stored'
    subst stored'
    have written : (state.write (state.store.putOrder other
        { order with paymentStatus := .paid })).ticket other =
        ⟨some { order with paymentStatus := .paid }, payments, movements, calls⟩ := by
      ext1
      · exact AList.lookup_insert _
      · exact paid
      · exact moves
      · exact inFlight
    rw [State.ticket_begin (by simp [Call.concerns, Call.order]), written, ← guard.1]
    exact .locked order payments movements calls input user guard.2
  · left
    rw [State.ticket_begin_of_not (by simp [Call.concerns, Call.order, here])]
    exact State.ticket_write (.putOrder here _)

/-- A new order is a step of its machine. -/
theorem created_step {input : CreateOrderInput} {user : User}
    {claimCode : String} {index : ℕ}
    (flying : state.calls[index]? = some (.create input user)) :
    ((state.transact orderId (.created user.getMerchantId input.idempotencyKey)
        (createInTransaction catalog orderId claimCode input user
          state.store)).finish index).ticket orderId =
          state.ticket orderId ∨
      Ticket.Step catalog state.store.described orderId
        (state.ticket orderId) none
        (((state.transact orderId (.created user.getMerchantId input.idempotencyKey)
          (createInTransaction catalog orderId claimCode input user
            state.store)).finish index).ticket orderId) := by
  have beside : (state.finish index).ticket orderId =
      state.ticket orderId :=
    State.ticket_finish_of_not flying rfl
  rw [State.transact_finish, ← beside]
  rcases outcome : createInTransaction catalog orderId claimCode input
      user state.store with error | store
  · exact .inl rfl
  · right
    rcases createInTransaction_ok outcome with ⟨free, items, priced, takes⟩
    rcases is : (state.finish index).ticket orderId with ⟨row, payments, movements, calls⟩
    rcases Ticket.mk.inj is with ⟨stored, paid, moves, inFlight⟩
    have absent : row = none := stored.symm.trans free
    subst absent
    have noted : ((state.finish index).transact orderId
        (.created user.getMerchantId input.idempotencyKey) (.ok store)).ticket orderId =
        ⟨some (newOrder input user claimCode items (items.map OrderItem.subtotal).sum),
          payments, ((state.finish index).ticket orderId).movements ++ [⟨orderId,
            .created user.getMerchantId input.idempotencyKey,
            consumedRows catalog state.store.described user user.getMerchantId items⟩],
          ((state.finish index).ticket orderId).calls⟩ := by
      apply State.ticket_transact
      · exact takes.history
      · rw [takes.orders]
        exact AList.lookup_insert _
      · rw [takes.transactions]
        exact paid
    rw [noted, is]
    exact .created payments movements calls claimCode input user items priced

theorem stepChange_beside {change : StockChange}
    {check : Inventory → Except ServiceError Unit}
    (stepped : stepChange uid change check state = some after) :
    after.ticket orderId = state.ticket orderId := by
  rw [stepChange] at stepped
  split at stepped
  · cases stepped
  · split_ifs at stepped
    rcases Option.map_eq_some_iff.mp stepped with ⟨_, _, rfl⟩
    exact State.ticket_begin_of_not rfl

/-- A step changes nothing of an inventory item but its stock. -/
theorem described_step {action : Action}
    (stepped : step catalog action state = some after) :
    after.store.described = state.store.described := by
  have reads : ∀ {other : ObjectId} {uid : Uid}
      {next : PosOrder → Except ServiceError Call},
      stepRead other uid next state = some after →
      after.store.described = state.store.described := by
    intro other uid next stepped
    rw [stepRead] at stepped
    split at stepped
    · cases stepped
    · rcases Option.map_eq_some_iff.mp stepped with ⟨_, _, rfl⟩
      rfl
  have changes : ∀ {uid : Uid} {change : StockChange}
      {check : Inventory → Except ServiceError Unit},
      stepChange uid change check state = some after →
      after.store.described = state.store.described := by
    intro uid change check stepped
    rw [stepChange] at stepped
    split at stepped
    · cases stepped
    · split_ifs at stepped
      rcases Option.map_eq_some_iff.mp stepped with ⟨_, _, rfl⟩
      rfl
  cases action with
  | create input user activeBranchId =>
    rw [step] at stepped
    split at stepped
    · cases stepped
    · rcases Option.map_eq_some_iff.mp stepped with ⟨_, _, rfl⟩
      rfl
  | markInProgress | markReady | processPickup | cancelOrder | voidOrder |
      addOrderItems => exact reads stepped
  | processPayment other uid input user =>
    rcases Option.map_eq_some_iff.mp stepped with ⟨⟨order, store⟩, locked, rfl⟩
    rcases Option.map_eq_some_iff.mp locked with ⟨row, found, same⟩
    cases same
    rfl
  | restock | adjust | damage => exact changes stepped
  | proceed index newId claimCode now =>
    rcases Option.map_eq_some_iff.mp stepped with ⟨call, flying, rfl⟩
    exact described_stepCall call

/--
A step is one of the order's machine, or leaves what concerns the order as it is.
A labelled step is that of a call on the order.
-/
theorem ticket_step {action : Action} (owned : (state.ticket orderId).Owned)
    (stepped : step catalog action state = some after) :
    after.ticket orderId = state.ticket orderId ∨
      ∃ label, Ticket.Step catalog state.store.described orderId
          (state.ticket orderId) label (after.ticket orderId) ∧
        ∀ call ∈ label, ∃ index newId claimCode now,
          action = .proceed index newId claimCode now ∧
          state.calls[index]? = some call ∧
          call.concerns orderId = true := by
  have quiet : (after.ticket orderId = state.ticket orderId ∨
      Ticket.Step catalog state.store.described orderId
        (state.ticket orderId) none (after.ticket orderId)) →
      after.ticket orderId = state.ticket orderId ∨
        ∃ label, Ticket.Step catalog state.store.described orderId
            (state.ticket orderId) label (after.ticket orderId) ∧
          ∀ call ∈ label, ∃ index newId claimCode now,
            action = .proceed index newId claimCode now ∧
            state.calls[index]? = some call ∧
            call.concerns orderId = true := by
    rintro (same | takes)
    · exact .inl same
    · exact .inr ⟨none, takes, by simp⟩
  cases action with
  | create input user activeBranchId =>
    apply quiet
    left
    rw [step] at stepped
    split at stepped
    · cases stepped
    · rcases Option.map_eq_some_iff.mp stepped with ⟨_, _, rfl⟩
      exact State.ticket_begin_of_not rfl
  | markInProgress other uid =>
    apply quiet
    refine stepRead_step ?_ stepped
    rintro order call rfl checked
    rcases bind_eq_ok.mp checked with ⟨target, marked, checked⟩
    cases checked
    exact ⟨.mark other target (.inl marked), rfl⟩
  | markReady other uid =>
    apply quiet
    refine stepRead_step ?_ stepped
    rintro order call rfl checked
    rcases bind_eq_ok.mp checked with ⟨target, marked, checked⟩
    cases checked
    exact ⟨.mark other target (.inr marked), rfl⟩
  | processPayment other uid input user =>
    apply quiet
    rcases Option.map_eq_some_iff.mp stepped with ⟨⟨order, store⟩, locked, rfl⟩
    exact lockForPayment_step locked
  | processPickup other uid user =>
    apply quiet
    refine stepRead_step ?_ stepped
    rintro order call rfl checked
    rcases bind_eq_ok.mp checked with ⟨passes, claimable, checked⟩
    cases checked
    exact ⟨.pickup other user claimable, rfl⟩
  | cancelOrder request =>
    apply quiet
    refine stepRead_step ?_ stepped
    intro order call own checked
    rcases bind_eq_ok.mp checked with ⟨passes, cancellable, checked⟩
    cases checked
    exact ⟨.cancel request own.symm cancellable, rfl⟩
  | voidOrder request =>
    apply quiet
    refine stepRead_step ?_ stepped
    intro order call own checked
    rcases bind_eq_ok.mp checked with ⟨passes, voidable, checked⟩
    cases checked
    exact ⟨.void request own.symm voidable, rfl⟩
  | addOrderItems request =>
    apply quiet
    refine stepRead_step ?_ stepped
    intro order call own checked
    rcases bind_eq_ok.mp checked with ⟨passes, addable, checked⟩
    cases checked
    exact ⟨.addOn request own.symm addable, rfl⟩
  | restock | adjust | damage =>
    apply quiet
    left
    exact stepChange_beside stepped
  | proceed index newId claimCode now =>
    rcases Option.map_eq_some_iff.mp stepped with ⟨call, flying, rfl⟩
    by_cases about : call.concerns orderId = true
    · refine .inr ⟨some call, stepCall_about owned flying about, ?_⟩
      rintro _ ⟨⟩
      exact ⟨index, newId, claimCode, now, rfl, flying, about⟩
    · apply quiet
      rw [Bool.not_eq_true] at about
      by_cases here : newId = orderId
      · subst here
        cases call with
        | create input user => exact created_step flying
        | mark | pickup | payment | paid | cancel | void | addOn | change | log =>
          left
          apply stepCall_beside flying about
          intro _ _ same
          cases same
      · exact .inl (stepCall_beside flying about fun _ _ _ => here)

end

def Action.proceeding : Action → Option ℕ
  | .proceed index _ _ _ => some index
  | _ => none

def Allowing (orderId : ObjectId) (allowed : Ticket → Call → Prop)
    (state : State) (action : Action) : Prop :=
  ∀ index ∈ action.proceeding, ∀ call ∈ state.calls[index]?,
    call.concerns orderId = true → allowed (state.ticket orderId) call

instance (orderId : ObjectId) (allowed : Ticket → Call → Prop)
    [∀ ticket call, Decidable (allowed ticket call)] (state : State)
    (action : Action) :
    Decidable (Allowing orderId allowed state action) :=
  inferInstanceAs (Decidable (∀ index ∈ action.proceeding, ∀ call ∈ state.calls[index]?,
      call.concerns orderId = true → allowed (state.ticket orderId) call))

section

variable {catalog : Catalog} {orderId : ObjectId}
  {inventory : Collection Inventory} {state : State}
  {allowed : Ticket → Call → Prop}

theorem described_reached {admissible : State → Action → Prop}
    (reached : (posSystem catalog).Reaches admissible (State.start inventory) state) :
    state.store.described = (State.start inventory).store.described := by
  refine reached.invariant
    (fun state => state.store.described = (State.start inventory).store.described) rfl ?_
  intro state action after described _ stepped
  rw [← described]
  exact described_step stepped

/--
The invariant rule of an order: what its machine keeps, holds of it in every state
that a run reaches.
-/
theorem ticket_invariant (Invariant : Ticket → Prop)
    (initial : Invariant ⟨none, [], [], 0⟩)
    (preserved : ∀ ticket label after, Invariant ticket →
      (∀ call ∈ label, allowed ticket call) →
      Ticket.Step catalog (State.start inventory).store.described orderId
        ticket label after → Invariant after)
    (reached : (posSystem catalog).Reaches (Allowing orderId allowed)
      (State.start inventory) state) :
    Invariant (state.ticket orderId) := by
  have both : (state.ticket orderId).Owned ∧ Invariant (state.ticket orderId) := by
    refine reached.layered
      (fun state => state.store.described = (State.start inventory).store.described)
      (fun state => (state.ticket orderId).Owned ∧ Invariant (state.ticket orderId))
      (fun _ => described_reached) ⟨by rintro _ ⟨⟩, initial⟩ ?_
    rintro state action after described ⟨owned, invariant⟩ admissible stepped
    rcases ticket_step owned stepped with same | ⟨label, takes, about⟩
    · rw [same]
      exact ⟨owned, invariant⟩
    · refine ⟨owned.step takes, ?_⟩
      rw [described] at takes
      refine preserved _ label _ invariant ?_ takes
      intro call listed
      rcases about call listed with ⟨index, newId, claimCode, now, rfl, flying, concerned⟩
      exact admissible index rfl call flying concerned
  exact both.2

end

/-! ## A counter -/

/-- A shop with one branch that sells soap, kept as one inventory item. -/
def Counter.catalog : Catalog where
  services := ∅
  products := (∅ : Collection Product).insert "soap"
    { inventoryId := "powder"
      productName := "Soap"
      price := 10
      quantity := 1
      productUnit := .pieces
      isArchived := false }
  branches := (∅ : Collection Branch).insert "branch"
    { uid := "shop"
      branchName := "Main"
      isActive := true
      isOnline := true
      allowsPayAtHandover := none }
  permissions := []

def Counter.shelf (stockQuantity : ℚ) : Collection Inventory :=
  (∅ : Collection Inventory).insert "powder"
    { uid := "shop"
      productName := "Powder"
      inventoryUnit := .pieces
      stockQuantity
      isArchived := false }

def Counter.owner : User where
  _id := "shop"
  roleId := some "merchant"
  merchantId := none
  branchIds := []
  branchAccess := []

def Counter.soap (quantity : ℚ≥0) : OrderItemInput where
  type := .product
  productId := some "soap"
  quantity

def Counter.proceeds (index : ℕ) : Action := .proceed index "order" "CODE" 0

def Counter.orders (quantity : ℚ≥0) (idempotencyKey : Option String) :
    Action :=
  .create
    { branchId := "branch"
      items := [soap quantity]
      idempotencyKey }
    owner none

def Counter.sale (quantity : ℚ≥0) (idempotencyKey : Option String) :
    List Action :=
  [orders quantity idempotencyKey, proceeds 0]

def Counter.callOff : CallOff where
  orderId := "order"
  uid := "shop"
  user := owner
  reason := none
  restoreInventory := none

def Counter.cash (amountPaid : ℚ≥0) : ProcessPaymentInput where
  paymentMethod := .cash
  referenceId := none
  amountPaid

def Counter.payment : List Action :=
  [ .processPayment "order" "shop" (cash 10) owner,
    proceeds 0,
    proceeds 0 ]

def Counter.addOn (quantity : ℚ≥0) : AddOn where
  orderId := "order"
  uid := "shop"
  user := owner
  items := [soap quantity]
  payment := cash (10 * quantity)

end Lalaba.Pos
