import Lalaba.Pos.Course

/-!
# One order for a key

A client that repeats its request sends the same idempotency key.  The key is looked
up before the order is stored, and nothing looks again: the index on the merchant
and the key is not unique.  One order is stored for a key as long as none that
carries it is stored already.
-/

namespace Lalaba.Pos

open Foundation

/-! ## Orders with a key -/

def PosOrder.Keyed (uid : Uid) (key : String) (row : PosOrder) : Prop :=
  row.uid = uid ∧ row.idempotencyKey = some key

instance (uid : Uid) (key : String) (row : PosOrder) :
    Decidable (row.Keyed uid key) :=
  inferInstanceAs (Decidable (row.uid = uid ∧ row.idempotencyKey = some key))

def PosStore.keyed (uid : Uid) (key : String) (store : PosStore) : Bool :=
  store.orders.entries.any fun entry => entry.2.Keyed uid key

def PosStore.Carries (uid : Uid) (key : String) (orderId : ObjectId)
    (store : PosStore) : Prop :=
  ∃ row, store.orders.lookup orderId = some row ∧ row.Keyed uid key

def State.deductions (uid : Uid) (key : String) (state : State) :
    List Movement :=
  state.movements.filter fun movement =>
    movement.cause = .created uid (some key)

def Call.carries : Call → Option (Uid × String)
  | .create input user =>
    input.idempotencyKey.map fun key => (user.getMerchantId, key)
  | _ => none

def FreshKey (uid : Uid) (key : String) (state : State)
    (action : Action) : Prop :=
  ∀ index ∈ action.proceeding, ∀ call ∈ state.calls[index]?,
    call.carries = some (uid, key) → state.store.keyed uid key = false

instance (uid : Uid) (key : String) (state : State) (action : Action) :
    Decidable (FreshKey uid key state action) :=
  inferInstanceAs (Decidable (∀ index ∈ action.proceeding, ∀ call ∈ state.calls[index]?,
      call.carries = some (uid, key) → state.store.keyed uid key = false))

section

variable {uid : Uid} {key : String} {orderId other newId : ObjectId} {store middle after : PosStore}

theorem PosStore.not_carries (free : store.keyed uid key = false) :
    ¬ store.Carries uid key orderId := by
  rintro ⟨row, found, carries⟩
  have listed := AList.mem_lookup_iff.mp (Option.mem_def.mpr found)
  rw [PosStore.keyed, List.any_eq_false] at free
  exact free _ listed (decide_eq_true carries)

def PosStore.SameKeys (uid : Uid) (key : String)
    (store after : PosStore) : Prop :=
  ∀ orderId, after.Carries uid key orderId ↔ store.Carries uid key orderId

namespace PosStore.SameKeys

theorem refl (store : PosStore) : store.SameKeys uid key store :=
  fun _ => Iff.rfl

theorem trans (first : store.SameKeys uid key middle)
    (second : middle.SameKeys uid key after) :
    store.SameKeys uid key after :=
  fun orderId => (second orderId).trans (first orderId)

theorem of_orders (same : after.orders = store.orders) :
    store.SameKeys uid key after := by
  intro orderId
  rw [PosStore.Carries, same, PosStore.Carries]

theorem putOrder {row changed : PosOrder}
    (found : store.orders.lookup other = some row)
    (owner : changed.uid = row.uid)
    (carried : changed.idempotencyKey = row.idempotencyKey) :
    store.SameKeys uid key (store.putOrder other changed) := by
  intro orderId
  by_cases same : orderId = other
  · subst same
    have stored : (store.putOrder orderId changed).orders.lookup orderId =
        some changed :=
      AList.lookup_insert _
    simp [PosStore.Carries, stored, found, PosOrder.Keyed, owner, carried]
  · have stored : (store.putOrder other changed).orders.lookup orderId =
        store.orders.lookup orderId :=
      AList.lookup_insert_ne same
    simp [PosStore.Carries, stored]

theorem updateOrder (other : ObjectId) (owner : Uid)
    {change : PosOrder → PosOrder}
    (keeps : ∀ row, (change row).uid = row.uid ∧ (change row).idempotencyKey = row.idempotencyKey) :
    store.SameKeys uid key (store.updateOrder other owner change) := by
  rw [PosStore.updateOrder]
  split
  · exact refl store
  · rename_i row found
    split
    · exact putOrder found (keeps row).1 (keeps row).2
    · exact refl store

end PosStore.SameKeys

end

/-! ## Every step -/

/--
At most one order carries the key, and stock has been taken for it at most once, and
for no other order.
-/
structure OnePerKey (uid : Uid) (key : String) (state : State) : Prop where
  single : ∀ first second, state.store.Carries uid key first →
    state.store.Carries uid key second → first = second
  stored : ∀ movement ∈ state.deductions uid key, state.store.Carries uid key movement.orderId
  once : (state.deductions uid key).length ≤ 1

namespace OnePerKey

variable {catalog : Catalog} {uid : Uid} {key : String}
  {state after : State} {index : ℕ} {newId : ObjectId}
  {claimCode : String} {now : Instant} {call : Call}

theorem keep (one : OnePerKey uid key state)
    (same : state.store.SameKeys uid key after.store)
    (deductions : after.deductions uid key = state.deductions uid key) :
    OnePerKey uid key after where
  single := by
    intro first second here there
    exact one.single first second ((same first).mp here) ((same second).mp there)
  stored := by
    rw [deductions]
    intro movement listed
    exact (same movement.orderId).mpr (one.stored movement listed)
  once := by
    rw [deductions]
    exact one.once

theorem deductions_transact {orderId : ObjectId} {cause : Cause}
    {ran : Except ServiceError PosStore}
    (otherwise : cause ≠ .created uid (some key)) :
    (state.transact orderId cause ran).deductions uid key =
      state.deductions uid key := by
  rcases ran with error | store
  · rfl
  · simp [State.deductions, State.transact, State.note, State.write, otherwise]

theorem transact {orderId : ObjectId} {cause : Cause}
    {ran : Except ServiceError PosStore} (one : OnePerKey uid key state)
    (otherwise : cause ≠ .created uid (some key))
    (same : ∀ store, ran = .ok store → state.store.SameKeys uid key store) :
    OnePerKey uid key (state.transact orderId cause ran) := by
  apply one.keep _ (deductions_transact otherwise)
  rcases ran with error | store
  · exact .refl _
  · exact same store rfl

/-- A new order that carries another key, or none. -/
theorem create_beside {input : CreateOrderInput} {user : User}
    (one : OnePerKey uid key state)
    (otherwise : (Call.create input user).carries ≠ some (uid, key)) :
    OnePerKey uid key (state.transact newId
      (.created user.getMerchantId input.idempotencyKey)
      (createInTransaction catalog newId claimCode input user state.store)) := by
  have away : ∀ items subtotal, ¬ (newOrder input user claimCode items subtotal).Keyed uid key := by
    rintro items subtotal ⟨owner, carried⟩
    have owner' : user.getMerchantId = uid := owner
    have carried' : input.idempotencyKey = some key := carried
    apply otherwise
    rw [Call.carries, carried', ← owner']
    rfl
  apply one.transact
  · intro same
    rcases Cause.created.inj same with ⟨owner, carried⟩
    apply otherwise
    rw [Call.carries, carried, owner]
    rfl
  · intro store ran orderId
    rcases createInTransaction_ok ran with ⟨free, items, _, moves⟩
    rw [PosStore.Carries, moves.orders]
    by_cases same : orderId = newId
    · subst same
      constructor
      · rintro ⟨row, found, carries⟩
        have stored : some (newOrder input user claimCode items
            (items.map OrderItem.subtotal).sum) = some row :=
          (AList.lookup_insert _).symm.trans found
        cases stored
        exact absurd carries (away _ _)
      · rintro ⟨row, found, _⟩
        rw [free] at found
        cases found
    · have stored : (state.store.putOrder newId (newOrder input user claimCode items
            (items.map OrderItem.subtotal).sum)).orders.lookup orderId =
          state.store.orders.lookup orderId :=
        AList.lookup_insert_ne same
      rw [stored, PosStore.Carries]

/-- The first order that carries the key. -/
theorem create_first {input : CreateOrderInput} {user : User}
    (one : OnePerKey uid key state)
    (fresh : state.store.keyed uid key = false) :
    OnePerKey uid key (state.transact newId
      (.created user.getMerchantId input.idempotencyKey)
      (createInTransaction catalog newId claimCode input user state.store)) := by
  have nobody : ∀ orderId, ¬ state.store.Carries uid key orderId :=
    fun _ => PosStore.not_carries fresh
  have nothing : state.deductions uid key = [] :=
    List.eq_nil_iff_forall_not_mem.mpr fun movement listed =>
      nobody _ (one.stored movement listed)
  rcases outcome : createInTransaction catalog newId claimCode input user
      state.store with error | store
  · exact one
  · rcases createInTransaction_ok outcome with ⟨free, items, _, moves⟩
    have here : ∀ orderId, store.Carries uid key orderId → orderId = newId := by
      rintro orderId ⟨row, found, carries⟩
      by_contra different
      rw [moves.orders] at found
      have before : state.store.orders.lookup orderId = some row :=
        (AList.lookup_insert_ne different).symm.trans found
      exact nobody orderId ⟨row, before, carries⟩
    have noted : (state.transact newId
        (.created user.getMerchantId input.idempotencyKey)
        (.ok store)).deductions uid key =
        [⟨newId, .created user.getMerchantId input.idempotencyKey,
          store.inventoryTransactions.drop state.store.inventoryTransactions.length⟩].filter
          fun movement => movement.cause = .created uid (some key) := by
      have nothing' : state.movements.filter (fun movement =>
          movement.cause = .created uid (some key)) = [] :=
        nothing
      simp only [State.deductions, State.transact, State.note,
        State.write, List.filter_append, nothing', List.nil_append]
    constructor
    · intro first second is other
      exact (here first is).trans (here second other).symm
    · rw [noted]
      intro movement listed
      rcases List.mem_filter.mp listed with ⟨member, cause⟩
      rw [List.mem_singleton] at member
      subst member
      rcases Cause.created.inj (of_decide_eq_true cause) with ⟨owner, carried⟩
      refine ⟨newOrder input user claimCode items
        (items.map OrderItem.subtotal).sum, ?_, owner, carried⟩
      show store.orders.lookup newId = _
      rw [moves.orders]
      exact AList.lookup_insert _
    · rw [noted]
      exact List.length_filter_le _ _

theorem congr (one : OnePerKey uid key state)
    (store : after.store = state.store)
    (movements : after.movements = state.movements) :
    OnePerKey uid key after := by
  apply one.keep
  · rw [store]
    exact .refl _
  · rw [State.deductions, movements, State.deductions]

theorem addNote_keeps (label : String) (reason : Option String)
    (snapshot row : PosOrder) :
    (addNote label reason snapshot row).uid = row.uid ∧
      (addNote label reason snapshot row).idempotencyKey =
        row.idempotencyKey := by
  rw [addNote]
  split
  · exact ⟨rfl, rfl⟩
  · exact ⟨rfl, rfl⟩

theorem stepCall (one : OnePerKey uid key state)
    (fresh : call.carries = some (uid, key) → state.store.keyed uid key = false) :
    OnePerKey uid key (Pos.stepCall catalog index newId claimCode now state call) := by
  cases call with
  | create input user =>
    rw [Pos.stepCall]
    by_cases carries : (Call.create input user).carries = some (uid, key)
    · exact (one.create_first (fresh carries)).congr rfl rfl
    · exact (one.create_beside carries).congr rfl rfl
  | mark | pickup =>
    apply one.keep
    · exact .updateOrder _ _ fun _ => ⟨rfl, rfl⟩
    · rfl
  | payment orderId owner input user order =>
    rw [Pos.stepCall, stepPayment]
    split
    · apply one.keep
      · exact .updateOrder _ _ fun _ => ⟨rfl, rfl⟩
      · rfl
    · apply one.keep
      · exact .of_orders rfl
      · rfl
  | paid orderId owner order =>
    apply one.keep
    · apply PosStore.SameKeys.updateOrder
      intro row
      split <;> exact ⟨rfl, rfl⟩
    · rfl
  | cancel request order =>
    refine (one.transact (by simp) fun store ran => ?_).congr rfl rfl
    rcases cancelInTransaction_ok ran with ⟨middle, moves, rfl⟩
    exact PosStore.SameKeys.trans (.of_orders moves.orders)
      (.updateOrder _ _ fun row => addNote_keeps _ _ _ _)
  | void request order =>
    refine (one.transact (by simp) fun store ran => ?_).congr rfl rfl
    rcases voidInTransaction_ok ran with ⟨middle, moves, rfl⟩
    have orders : middle.orders = state.store.orders := by
      rw [moves.orders]
      split <;> rfl
    exact PosStore.SameKeys.trans (.of_orders orders)
      (.updateOrder _ _ fun row => addNote_keeps _ _ _ _)
  | addOn request order =>
    refine (one.transact (by simp) fun store ran => ?_).congr rfl rfl
    rcases addOnInTransaction_ok ran with ⟨items, middle, _, moves, rfl⟩
    exact PosStore.SameKeys.trans (.of_orders moves.orders) (.updateOrder _ _ fun row => ⟨rfl, rfl⟩)
  | change change =>
    apply one.keep
    · apply PosStore.SameKeys.of_orders
      show (state.store.incrementStock _ _).orders = _
      rw [PosStore.incrementStock]
      split <;> rfl
    · rfl
  | log change =>
    apply one.keep
    · exact .of_orders rfl
    · rfl

theorem step {action : Action} (one : OnePerKey uid key state)
    (fresh : FreshKey uid key state action)
    (stepped : Pos.step catalog action state = some after) :
    OnePerKey uid key after := by
  have reads : ∀ {other : ObjectId} {owner : Uid}
      {next : PosOrder → Except ServiceError Call},
      stepRead other owner next state = some after →
      OnePerKey uid key after := by
    intro other owner next stepped
    rw [stepRead] at stepped
    split at stepped
    · cases stepped
    · rcases Option.map_eq_some_iff.mp stepped with ⟨_, _, rfl⟩
      exact one.congr rfl rfl
  have changes : ∀ {owner : Uid} {change : StockChange}
      {check : Inventory → Except ServiceError Unit},
      stepChange owner change check state = some after →
      OnePerKey uid key after := by
    intro owner change check stepped
    rw [stepChange] at stepped
    split at stepped
    · cases stepped
    · split_ifs at stepped
      rcases Option.map_eq_some_iff.mp stepped with ⟨_, _, rfl⟩
      exact one.congr rfl rfl
  cases action with
  | create input user activeBranchId =>
    rw [Pos.step] at stepped
    split at stepped
    · cases stepped
    · rcases Option.map_eq_some_iff.mp stepped with ⟨_, _, rfl⟩
      exact one.congr rfl rfl
  | markInProgress | markReady | processPickup | cancelOrder | voidOrder |
      addOrderItems => exact reads stepped
  | processPayment orderId owner input user =>
    rcases Option.map_eq_some_iff.mp stepped with ⟨⟨order, store⟩, locked, rfl⟩
    rcases Option.map_eq_some_iff.mp locked with ⟨row, found, same⟩
    cases same
    have stored := (Option.filter_eq_some_iff.mp found).1
    apply one.keep
    · exact .putOrder stored rfl rfl
    · rfl
  | restock | adjust | damage => exact changes stepped
  | proceed index newId claimCode now =>
    rcases Option.map_eq_some_iff.mp stepped with ⟨call, flying, rfl⟩
    exact one.stepCall (fresh index rfl call flying)

end OnePerKey

/--
In every run in which an order with the key is stored only when the merchant has
none with it, the merchant never has two, and stock is taken for one at most.
-/
theorem orderIsCreatedOncePerKey (catalog : Catalog)
    (inventory : Collection Inventory) (uid : Uid) (key : String)
    (state : State)
    (reached : (posSystem catalog).Reaches (FreshKey uid key) (State.start inventory) state) :
    (∀ first second, state.store.Carries uid key first →
      state.store.Carries uid key second → first = second) ∧
      (state.deductions uid key).length ≤ 1 := by
  have one : OnePerKey uid key state := by
    refine reached.invariant (OnePerKey uid key) ?_
      fun _ _ _ one fresh stepped => one.step fresh stepped
    refine ⟨?_, by rintro _ ⟨⟩, Nat.zero_le _⟩
    rintro _ _ ⟨_, ⟨⟩, _⟩
  exact ⟨one.single, one.once⟩

/-- An order with a key is stored, and its stock is taken once. -/
theorem orderIsCreatedOncePerKey_created :
    ∃ state,
      (posSystem Counter.catalog).Reaches (FreshKey "shop" "key")
          (State.start (Counter.shelf 5)) state ∧
        (state.deductions "shop" "key").length = 1 ∧
        ((∀ first second, state.store.Carries "shop" "key" first →
          state.store.Carries "shop" "key" second → first = second) ∧
          (state.deductions "shop" "key").length ≤ 1) := by
  have performed :
      (((posSystem Counter.catalog).restrict
          (FreshKey "shop" "key")).perform
        (Counter.sale 1 (some "key"))
        (State.start (Counter.shelf 5))).map (fun state =>
          (state.deductions "shop" "key").length) = some 1 := by
    decide +kernel
  rcases System.reaches_of_map_restrict performed with ⟨state, reached, deducted⟩
  exact ⟨state, reached, deducted,
    orderIsCreatedOncePerKey Counter.catalog (Counter.shelf 5) "shop" "key" state reached⟩

/-- Two requests with one key have both found no order. -/
theorem orderCreatedTwice :
    ¬ ∀ (catalog : Catalog) (inventory : Collection Inventory)
        (uid : Uid) (key : String) (state : State),
        (posSystem catalog).Reaches (fun _ _ => True)
            (State.start inventory) state →
          (∀ first second, state.store.Carries uid key first →
            state.store.Carries uid key second → first = second) ∧
            (state.deductions uid key).length ≤ 1 := by
  intro always
  have performed :
      ((posSystem Counter.catalog).perform
        [ Counter.orders 1 (some "key"),
          Counter.orders 1 (some "key"), Counter.proceeds 0,
          .proceed 0 "second" "OTHER" 0 ]
        (State.start (Counter.shelf 5))).map (fun state =>
          (state.deductions "shop" "key").length) = some 2 := by
    decide +kernel
  rcases System.reaches_of_map performed with ⟨state, ran, deducted⟩
  have once := (always Counter.catalog (Counter.shelf 5) "shop" "key" state ran).2
  rw [deducted] at once
  exact absurd once (by decide)

end Lalaba.Pos
