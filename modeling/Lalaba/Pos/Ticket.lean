import Lalaba.Pos.Stock
import Lalaba.Pos.System
import Mathlib.Data.List.Perm.Basic
import Mathlib.Data.Multiset.Filter

/-!
# One order at the point of sale

What concerns one order: its row, the payments taken for it, the stock moved for
it, and the calls in flight on it.  Seen alone an order is a machine of its own; no
call on another order, and no manual change of stock, takes part in it.  Every run
of the point of sale is a run of this machine, so an invariant of an order is proved
for the machine.
-/

namespace Lalaba.Pos

open Foundation

/-! ## The order alone -/

def Call.order : Call → Option (ObjectId × Uid)
  | .mark orderId uid _ => some (orderId, uid)
  | .pickup orderId uid _ => some (orderId, uid)
  | .payment orderId uid _ _ _ => some (orderId, uid)
  | .paid orderId uid _ => some (orderId, uid)
  | .cancel request _ => some (request.orderId, request.uid)
  | .void request _ => some (request.orderId, request.uid)
  | .addOn request _ => some (request.orderId, request.uid)
  | .create _ _ => none
  | .change _ => none
  | .log _ => none

def Call.concerns (orderId : ObjectId) (call : Call) : Bool :=
  call.order.any fun order => order.1 = orderId

def Call.transacts : Call → Bool
  | .cancel .. => true
  | .void .. => true
  | .addOn .. => true
  | _ => false

/-- What concerns one order. -/
@[ext]
structure Ticket where
  row : Option PosOrder
  payments : List PosTransaction
  movements : List Movement
  calls : Multiset Call

def State.ticket (orderId : ObjectId) (state : State) : Ticket where
  row := state.store.orders.lookup orderId
  payments := state.store.transactions.filter fun row =>
    row.orderId = orderId
  movements := state.movements.filter fun movement =>
    movement.orderId = orderId
  calls := (state.calls : Multiset Call).filter fun call =>
    call.concerns orderId

/-- What a method has found before it waits. -/
inductive Begun (row : PosOrder) : Call → Prop where
  | mark (orderId : ObjectId) (target : LaundryStatus)
      (marked : markInProgress row = .ok target ∨ markReady row = .ok target) :
      Begun row (.mark orderId row.uid target)
  | pickup (orderId : ObjectId) (user : User)
      (claimable : assertClaimable row = .ok ()) :
      Begun row (.pickup orderId row.uid user)
  | cancel (request : CallOff) (own : request.uid = row.uid)
      (cancellable : assertCancellable row = .ok ()) :
      Begun row (.cancel request row)
  | void (request : CallOff) (own : request.uid = row.uid)
      (voidable : assertVoidable row = .ok ()) :
      Begun row (.void request row)
  | addOn (request : AddOn) (own : request.uid = row.uid)
      (addable : assertAddable request row = .ok ()) :
      Begun row (.addOn request row)

def returnedRows (catalog : Catalog)
    (described : ObjectId → Option Inventory) (request : CallOff)
    (restores : Bool) (order : PosOrder) : List InventoryTransaction :=
  if restores then
    order.items.flatMap (OrderItem.rows catalog (request.user.mover request.uid) .RETURN described)
  else
    []

def consumedRows (catalog : Catalog)
    (described : ObjectId → Option Inventory) (user : User) (uid : Uid)
    (items : List OrderItem) : List InventoryTransaction :=
  items.flatMap (OrderItem.rows catalog (user.mover uid) .CONSUME described)

/--
The machine of one order.  A step is labelled with the call that proceeds, if it is
one that was in flight.
-/
inductive Ticket.Step (catalog : Catalog)
    (described : ObjectId → Option Inventory) (orderId : ObjectId) :
    Ticket → Option Call → Ticket → Prop where
  | created (payments : List PosTransaction) (movements : List Movement)
      (calls : Multiset Call) (claimCode : String)
      (input : CreateOrderInput) (user : User) (items : List OrderItem)
      (priced : ∀ item ∈ items, 0 ≤ item.subtotal) :
      Step catalog described orderId
        ⟨none, payments, movements, calls⟩
        none
        ⟨some (newOrder input user claimCode items (items.map OrderItem.subtotal).sum),
          payments, movements ++ [⟨orderId,
            .created user.getMerchantId input.idempotencyKey,
            consumedRows catalog described user user.getMerchantId items⟩], calls⟩
  | began (row : PosOrder) (payments : List PosTransaction)
      (movements : List Movement) (calls : Multiset Call) (call : Call)
      (begun : Begun row call) :
      Step catalog described orderId
        ⟨some row, payments, movements, calls⟩
        none
        ⟨some row, payments, movements, call ::ₘ calls⟩
  | locked (row : PosOrder) (payments : List PosTransaction)
      (movements : List Movement) (calls : Multiset Call)
      (input : ProcessPaymentInput) (user : User)
      (unpaid : row.paymentStatus = .unpaid) :
      Step catalog described orderId
        ⟨some row, payments, movements, calls⟩
        none
        ⟨some { row with paymentStatus := .paid }, payments, movements,
          .payment orderId row.uid input user row ::ₘ calls⟩
  | refused (row : Option PosOrder) (payments : List PosTransaction)
      (movements : List Movement) (calls : Multiset Call) (call : Call)
      (transacts : call.transacts = true) :
      Step catalog described orderId
        ⟨row, payments, movements, call ::ₘ calls⟩
        (some call)
        ⟨row, payments, movements, calls⟩
  | marked (row : PosOrder) (payments : List PosTransaction)
      (movements : List Movement) (calls : Multiset Call)
      (target : LaundryStatus) :
      Step catalog described orderId
        ⟨some row, payments, movements, .mark orderId row.uid target ::ₘ calls⟩
        (some (.mark orderId row.uid target))
        ⟨some { row with laundryStatus := target }, payments, movements, calls⟩
  | claimed (row : PosOrder) (payments : List PosTransaction)
      (movements : List Movement) (calls : Multiset Call) (user : User)
      (now : Instant) :
      Step catalog described orderId
        ⟨some row, payments, movements, .pickup orderId row.uid user ::ₘ calls⟩
        (some (.pickup orderId row.uid user))
        ⟨some { row with
            laundryStatus := .claimed
            claimedBy := some user._id
            claimedAt := some now }, payments, movements, calls⟩
  | unlocked (row : PosOrder) (payments : List PosTransaction)
      (movements : List Movement) (calls : Multiset Call)
      (input : ProcessPaymentInput) (user : User) (order : PosOrder) :
      Step catalog described orderId
        ⟨some row, payments, movements, .payment orderId row.uid input user order ::ₘ calls⟩
        (some (.payment orderId row.uid input user order))
        ⟨some { row with paymentStatus := .unpaid }, payments, movements, calls⟩
  | recorded (row : PosOrder) (payments : List PosTransaction)
      (movements : List Movement) (calls : Multiset Call)
      (input : ProcessPaymentInput) (user : User) (order : PosOrder)
      (accepted : paymentRefusal order input = none) :
      Step catalog described orderId
        ⟨some row, payments, movements, .payment orderId row.uid input user order ::ₘ calls⟩
        (some (.payment orderId row.uid input user order))
        ⟨some row, payments ++ [paymentRow orderId order input user],
          movements, .paid orderId row.uid order ::ₘ calls⟩
  | completed (row : PosOrder) (payments : List PosTransaction)
      (movements : List Movement) (calls : Multiset Call)
      (order : PosOrder) :
      Step catalog described orderId
        ⟨some row, payments, movements, .paid orderId row.uid order ::ₘ calls⟩
        (some (.paid orderId row.uid order))
        ⟨some (if completesSale order then
            { row with laundryStatus := .completed }
          else row), payments, movements, calls⟩
  | cancelled (row : PosOrder) (payments : List PosTransaction)
      (movements : List Movement) (calls : Multiset Call)
      (request : CallOff) (order : PosOrder)
      (own : request.uid = row.uid) :
      Step catalog described orderId
        ⟨some row, payments, movements, .cancel request order ::ₘ calls⟩
        (some (.cancel request order))
        ⟨some (addNote "Cancelled" request.reason order
            { row with laundryStatus := .cancelled }), payments,
          movements ++ [⟨orderId, .calledOff,
            returnedRows catalog described request request.cancelRestores order⟩],
          calls⟩
  | voided (row : PosOrder) (payments : List PosTransaction)
      (movements : List Movement) (calls : Multiset Call)
      (request : CallOff) (order : PosOrder) (refunds : PosTransaction)
      (own : request.uid = row.uid)
      (refund : refunds.status = .refunded ∧ refunds.totalAmount = order.totalAmount) :
      Step catalog described orderId
        ⟨some row, payments, movements, .void request order ::ₘ calls⟩
        (some (.void request order))
        ⟨some (addNote "Voided" request.reason order { row with
              laundryStatus := .void
              paymentStatus :=
                if order.paymentStatus = .paid then .refunded
                else .unpaid }),
          (if order.paymentStatus = .paid then payments ++ [refunds]
            else payments), movements ++ [⟨orderId, .calledOff,
            returnedRows catalog described request (request.voidRestores order) order⟩],
          calls⟩
  | addedOn (row : PosOrder) (payments : List PosTransaction)
      (movements : List Movement) (calls : Multiset Call)
      (request : AddOn) (order : PosOrder) (items : List OrderItem)
      (own : request.uid = row.uid)
      (priced : ∀ item ∈ items, 0 ≤ item.subtotal) :
      Step catalog described orderId
        ⟨some row, payments, movements, .addOn request order ::ₘ calls⟩
        (some (.addOn request order))
        ⟨some { row with
            items := row.items ++ items
            subtotal := order.subtotal + (items.map OrderItem.subtotal).sum
            totalAmount := order.subtotal + (items.map OrderItem.subtotal).sum - order.discount },
          payments ++ [addOnRow request (items.map OrderItem.subtotal).sum],
          movements ++ [⟨orderId, .addedOn,
            consumedRows catalog described request.user request.uid items⟩], calls⟩

def Ticket.Owned (ticket : Ticket) : Prop :=
  ∀ call ∈ ticket.calls, ∃ row, ticket.row = some row ∧ call.order.map Prod.snd = some row.uid

section

variable {catalog : Catalog} {store after : PosStore}

theorem subtotal_nonneg (quantity price : ℚ≥0) :
    (0 : ℚ) ≤ (quantity : ℚ) * price :=
  mul_nonneg (NNRat.coe_nonneg _) (NNRat.coe_nonneg _)

theorem calculateItemSubtotal_nonneg (quantity : ℚ≥0)
    (service : Service) : 0 ≤ calculateItemSubtotal quantity service := by
  have price : (0 : ℚ) ≤ service.price := NNRat.coe_nonneg _
  rw [calculateItemSubtotal]
  split
  · split
    · exact price
    · rename_i more
      have excess : (0 : ℚ) ≤ (quantity : ℚ) - service.baseKilos.getD 0 := by
        have base := (not_le.mp more).le
        exact sub_nonneg.mpr (by exact_mod_cast base)
      exact add_nonneg price (mul_nonneg excess (NNRat.coe_nonneg _))
  · exact subtotal_nonneg _ _

theorem resolveProductItem_priced {uid : Uid} {input : OrderItemInput}
    {item : OrderItem}
    (resolved : resolveProductItem catalog uid input store = .ok item) :
    0 ≤ item.subtotal := by
  rw [resolveProductItem] at resolved
  split at resolved
  · cases resolved
  · split at resolved
    · cases resolved
    · split_ifs at resolved
      split at resolved
      · cases resolved
      · split_ifs at resolved
        cases resolved
        exact subtotal_nonneg _ _

theorem resolveItem_priced {uid : Uid} {input : OrderItemInput}
    {item : OrderItem}
    (resolved : resolveItem catalog uid store input = .ok item) :
    0 ≤ item.subtotal := by
  rw [resolveItem] at resolved
  split at resolved
  · rw [resolveCustomItem] at resolved
    split_ifs at resolved
    split at resolved
    · cases resolved
    · cases resolved
      exact subtotal_nonneg _ _
  · rw [resolveServiceItem] at resolved
    split at resolved
    · cases resolved
    · split at resolved
      · cases resolved
      · split_ifs at resolved
        cases resolved
        exact calculateItemSubtotal_nonneg _ _
  · exact resolveProductItem_priced resolved

theorem createInTransaction_ok {newId : ObjectId} {claimCode : String}
    {input : CreateOrderInput} {user : User}
    (ran : createInTransaction catalog newId claimCode input user store = .ok after) :
    store.orders.lookup newId = none ∧
      ∃ items : List OrderItem, (∀ item ∈ items, 0 ≤ item.subtotal) ∧
        Moved
          (store.putOrder newId (newOrder input user claimCode items
            (items.map OrderItem.subtotal).sum))
          after
          (consumedRows catalog store.described user user.getMerchantId items) := by
  rcases bind_eq_ok.mp ran with ⟨_, resolves, ran⟩
  rcases bind_eq_ok.mp resolves with ⟨items, resolved, equal⟩
  cases equal
  dsimp only at ran
  split at ran
  · cases ran
  · rename_i free
    simp only [not_or, not_not] at free
    exact ⟨free.1, items, mapM_yields (fun _ _ => resolveItem_priced) _ _ resolved,
      deductInventory_moved ran⟩

variable {order : PosOrder}

theorem cancelInTransaction_ok {request : CallOff}
    (ran : cancelInTransaction catalog request order store = .ok after) :
    ∃ middle,
      Moved store middle (returnedRows catalog store.described request
        request.cancelRestores order) ∧
      after = middle.updateOrder request.orderId request.uid fun row =>
        addNote "Cancelled" request.reason order { row with laundryStatus := .cancelled } := by
  rw [cancelInTransaction] at ran
  rw [returnedRows]
  split at ran
  · rename_i restores
    rw [if_pos restores]
    rcases bind_eq_ok.mp ran with ⟨middle, returned, equal⟩
    cases equal
    exact ⟨middle, returnInventory_moved returned, rfl⟩
  · rename_i keeps
    rw [if_neg keeps]
    cases ran
    exact ⟨_, .refl _, rfl⟩

theorem voidInTransaction_ok {request : CallOff}
    (ran : voidInTransaction catalog request order store = .ok after) :
    ∃ middle,
      Moved
        (if order.paymentStatus = .paid then
          store.createTransaction (refundRow request order store)
        else
          store)
        middle
        (returnedRows catalog store.described request (request.voidRestores order) order) ∧
      after = middle.updateOrder request.orderId request.uid fun row =>
        addNote "Voided" request.reason order { row with
            laundryStatus := .void
            paymentStatus :=
              if order.paymentStatus = .paid then .refunded
              else .unpaid } := by
  have described : store.described =
      (if order.paymentStatus = .paid then
        store.createTransaction (refundRow request order store)
      else
        store).described := by
    split <;> rfl
  rw [voidInTransaction] at ran
  rw [returnedRows, described]
  split at ran
  · rename_i restores
    rw [if_pos restores]
    rcases bind_eq_ok.mp ran with ⟨middle, returned, equal⟩
    cases equal
    exact ⟨middle, returnInventory_moved returned, rfl⟩
  · rename_i keeps
    rw [if_neg keeps]
    cases ran
    exact ⟨_, .refl _, rfl⟩

theorem addOnInTransaction_ok {request : AddOn}
    (ran : addOnInTransaction catalog request order store = .ok after) :
    ∃ (items : List OrderItem) (middle : PosStore),
      (∀ item ∈ items, 0 ≤ item.subtotal) ∧
      Moved
        (store.createTransaction (addOnRow request (items.map OrderItem.subtotal).sum))
        middle
        (consumedRows catalog store.described request.user request.uid items) ∧
      after = middle.updateOrder request.orderId request.uid fun row =>
        { row with
          items := row.items ++ items
          subtotal := order.subtotal + (items.map OrderItem.subtotal).sum
          totalAmount :=
            order.subtotal + (items.map OrderItem.subtotal).sum - order.discount } := by
  rw [addOnInTransaction] at ran
  rcases bind_eq_ok.mp ran with ⟨items, resolved, ran⟩
  have priced : ∀ item ∈ items, 0 ≤ item.subtotal :=
    mapM_yields (fun _ _ => resolveProductItem_priced) _ _ resolved
  dsimp only at ran
  split at ran
  · cases ran
  · rcases bind_eq_ok.mp ran with ⟨middle, deducts, equal⟩
    cases equal
    exact ⟨items, middle, priced, deductInventory_moved deducts, rfl⟩

end

/-! ## Steps beside an order -/

/-- The row of the order and its payments are the same. -/
structure PosStore.SameFor (orderId : ObjectId) (store after : PosStore) : Prop where
  row : after.orders.lookup orderId = store.orders.lookup orderId
  payments :
    (after.transactions.filter fun row => row.orderId = orderId) =
      store.transactions.filter fun row => row.orderId = orderId

namespace PosStore

variable {orderId other : ObjectId} {store middle after : PosStore}

theorem SameFor.trans (first : store.SameFor orderId middle)
    (second : middle.SameFor orderId after) :
    store.SameFor orderId after where
  row := second.row.trans first.row
  payments := second.payments.trans first.payments

theorem SameFor.putOrder (different : other ≠ orderId) (row : PosOrder) :
    store.SameFor orderId (store.putOrder other row) where
  row := AList.lookup_insert_ne (Ne.symm different)
  payments := rfl

theorem SameFor.updateOrder (different : other ≠ orderId) (uid : Uid)
    (change : PosOrder → PosOrder) :
    store.SameFor orderId (store.updateOrder other uid change) := by
  rw [PosStore.updateOrder]
  split
  · exact ⟨rfl, rfl⟩
  · split
    · exact .putOrder different _
    · exact ⟨rfl, rfl⟩

theorem SameFor.createTransaction {row : PosTransaction}
    (different : row.orderId ≠ orderId) :
    store.SameFor orderId (store.createTransaction row) where
  row := rfl
  payments := by
    simp [PosStore.createTransaction, different]

theorem SameFor.of_moved {rows : List InventoryTransaction}
    (moves : Moved store after rows) : store.SameFor orderId after where
  row := by rw [moves.orders]
  payments := by rw [moves.transactions]

theorem updateOrder_eq {uid : Uid} {row : PosOrder}
    (found : store.orders.lookup orderId = some row)
    (own : row.uid = uid) (change : PosOrder → PosOrder) :
    store.updateOrder orderId uid change = store.putOrder orderId (change row) := by
  simp [PosStore.updateOrder, found, own]

end PosStore

namespace State

variable {orderId : ObjectId} {state : State} {index : ℕ} {call next : Call}

theorem calls_finish (flying : state.calls[index]? = some call) :
    (state.calls : Multiset Call) = call ::ₘ ((state.finish index).calls : Multiset Call) := by
  rcases List.getElem?_eq_some_iff.mp flying with ⟨bound, rfl⟩
  exact (Multiset.coe_eq_coe.mpr (List.getElem_cons_eraseIdx_perm bound)).symm

theorem calls_advance (flying : state.calls[index]? = some call) :
    ((state.advance index next).calls : Multiset Call) =
      next ::ₘ ((state.finish index).calls : Multiset Call) := by
  rcases List.getElem?_eq_some_iff.mp flying with ⟨bound, rfl⟩
  exact Multiset.coe_eq_coe.mpr (List.set_perm_cons_eraseIdx bound next)

theorem calls_begin :
    ((state.begin call).calls : Multiset Call) = call ::ₘ (state.calls : Multiset Call) := by
  exact Multiset.coe_eq_coe.mpr (List.perm_append_singleton _ _)

theorem ticket_of_calls {state' : State} {calls : Multiset Call}
    (store : state'.store = state.store) (movements : state'.movements = state.movements)
    (flying : (state'.calls : Multiset Call).filter (fun call => call.concerns orderId) = calls) :
    state'.ticket orderId = { state.ticket orderId with calls } := by
  rw [ticket, ticket, store, movements, flying]

theorem ticket_begin_of_not (beside : call.concerns orderId = false) :
    (state.begin call).ticket orderId = state.ticket orderId := by
  apply ticket_of_calls rfl rfl
  rw [calls_begin]
  exact Multiset.filter_cons_of_neg _ (by simp [beside])

theorem ticket_begin (about : call.concerns orderId = true) :
    (state.begin call).ticket orderId = { state.ticket orderId with
        calls := call ::ₘ (state.ticket orderId).calls } := by
  apply ticket_of_calls rfl rfl
  rw [calls_begin]
  exact Multiset.filter_cons_of_pos _ about

theorem ticket_finish_of_not (flying : state.calls[index]? = some call)
    (beside : call.concerns orderId = false) :
    (state.finish index).ticket orderId = state.ticket orderId := by
  apply Eq.symm
  apply ticket_of_calls rfl rfl
  rw [calls_finish flying]
  exact Multiset.filter_cons_of_neg _ (by simp [beside])

theorem ticket_finish (flying : state.calls[index]? = some call)
    (about : call.concerns orderId = true) :
    state.ticket orderId = { (state.finish index).ticket orderId with
        calls := call ::ₘ ((state.finish index).ticket orderId).calls } := by
  apply ticket_of_calls rfl rfl
  rw [calls_finish flying]
  exact Multiset.filter_cons_of_pos _ about

theorem ticket_advance (flying : state.calls[index]? = some call)
    (about : next.concerns orderId = true) :
    (state.advance index next).ticket orderId = { (state.finish index).ticket orderId with
        calls := next ::ₘ ((state.finish index).ticket orderId).calls } := by
  apply ticket_of_calls rfl rfl
  rw [calls_advance flying]
  exact Multiset.filter_cons_of_pos _ about

theorem ticket_advance_of_not (flying : state.calls[index]? = some call)
    (beside : next.concerns orderId = false) :
    (state.advance index next).ticket orderId = (state.finish index).ticket orderId := by
  apply ticket_of_calls rfl rfl
  rw [calls_advance flying]
  exact Multiset.filter_cons_of_neg _ (by simp [beside])

theorem ticket_write {store : PosStore}
    (same : state.store.SameFor orderId store) :
    (state.write store).ticket orderId = state.ticket orderId := by
  ext1
  · exact same.row
  · exact same.payments
  · rfl
  · rfl

variable {cause : Cause}

theorem ticket_transact_of_not {other : ObjectId}
    {ran : Except ServiceError PosStore} (different : other ≠ orderId)
    (same : ∀ store, ran = .ok store → state.store.SameFor orderId store) :
    (state.transact other cause ran).ticket orderId =
      state.ticket orderId := by
  rcases ran with error | store
  · rfl
  · have same' := same store rfl
    ext1
    · exact same'.row
    · exact same'.payments
    · simp [transact, note, write, ticket, different]
    · rfl

theorem ticket_transact {store : PosStore} {rows : List InventoryTransaction}
    {row : Option PosOrder} {payments : List PosTransaction}
    (history : store.inventoryTransactions = state.store.inventoryTransactions ++ rows)
    (found : store.orders.lookup orderId = row)
    (paid : (store.transactions.filter fun row =>
      row.orderId = orderId) = payments) :
    (state.transact orderId cause (.ok store)).ticket orderId =
      ⟨row, payments, (state.ticket orderId).movements ++ [⟨orderId, cause, rows⟩],
        (state.ticket orderId).calls⟩ := by
  ext1
  · exact found
  · exact paid
  · simp [transact, note, write, ticket, history]
  · rfl

theorem transact_finish {other : ObjectId} {ran : Except ServiceError PosStore} :
    (state.transact other cause ran).finish index =
      (state.finish index).transact other cause ran := by
  cases ran <;> rfl

end State

/-! ## Every step of the system is one of the machine -/

section

variable {catalog : Catalog} {orderId newId : ObjectId}
  {claimCode : String} {now : Instant} {state after : State} {index : ℕ}
  {call : Call}

/-- A call on another order, or on none, takes no part in this one. -/
theorem stepCall_beside (flying : state.calls[index]? = some call)
    (beside : call.concerns orderId = false)
    (elsewhere : ∀ input user, call = .create input user → newId ≠ orderId) :
    (stepCall catalog index newId claimCode now state call).ticket
        orderId = state.ticket orderId := by
  rw [← State.ticket_finish_of_not flying beside]
  have different : ∀ other uid, call.order = some (other, uid) → other ≠ orderId := by
    intro other uid order same
    simp [Call.concerns, order, same] at beside
  cases call with
  | create input user =>
    rw [stepCall, State.transact_finish]
    apply State.ticket_transact_of_not (elsewhere input user rfl)
    intro store ran
    rcases createInTransaction_ok ran with ⟨_, _, _, moves⟩
    exact (PosStore.SameFor.putOrder (elsewhere input user rfl) _).trans (.of_moved moves)
  | mark other uid | pickup other uid | paid other uid =>
    exact @State.ticket_write orderId (state.finish index) _
      (.updateOrder (different other uid rfl) _ _)
  | payment other uid input user order =>
    have away := different other uid rfl
    rw [stepCall, stepPayment]
    split
    · exact @State.ticket_write orderId (state.finish index) _ (.updateOrder away _ _)
    · have flying' : (state.write (state.store.createTransaction
          (paymentRow other order input user))).calls[index]? =
            some (.payment other uid input user order) :=
        flying
      rw [State.ticket_advance_of_not flying' (by simp [Call.concerns, Call.order, away])]
      exact @State.ticket_write orderId (state.finish index) _ (.createTransaction away)
  | cancel request order =>
    have away := different request.orderId request.uid rfl
    rw [stepCall, State.transact_finish]
    apply State.ticket_transact_of_not away
    intro store ran
    rcases cancelInTransaction_ok ran with ⟨middle, moves, rfl⟩
    exact (PosStore.SameFor.of_moved moves).trans (.updateOrder away _ _)
  | void request order =>
    have away := different request.orderId request.uid rfl
    rw [stepCall, State.transact_finish]
    apply State.ticket_transact_of_not away
    intro store ran
    rcases voidInTransaction_ok ran with ⟨middle, moves, rfl⟩
    have refunded : state.store.SameFor orderId
        (if order.paymentStatus = .paid then
          state.store.createTransaction (refundRow request order state.store)
        else
          state.store) := by
      split
      · exact .createTransaction away
      · exact ⟨rfl, rfl⟩
    exact (refunded.trans (.of_moved moves)).trans (.updateOrder away _ _)
  | addOn request order =>
    have away := different request.orderId request.uid rfl
    rw [stepCall, State.transact_finish]
    apply State.ticket_transact_of_not away
    intro store ran
    rcases addOnInTransaction_ok ran with ⟨items, middle, _, moves, rfl⟩
    have paid : state.store.SameFor orderId
        (state.store.createTransaction (addOnRow request (items.map OrderItem.subtotal).sum)) :=
      .createTransaction away
    exact (paid.trans (.of_moved moves)).trans (.updateOrder away _ _)
  | change change =>
    have same : state.store.SameFor orderId
        (state.store.incrementStock change.inventoryId change.quantityChange) := by
      rw [PosStore.incrementStock]
      split <;> exact ⟨rfl, rfl⟩
    have flying' : (state.write (state.store.incrementStock
        change.inventoryId change.quantityChange)).calls[index]? = some (.change change) :=
      flying
    rw [stepCall, State.ticket_advance_of_not flying' (by simp [Call.concerns, Call.order])]
    exact @State.ticket_write orderId (state.finish index) _ same
  | log change =>
    exact @State.ticket_write orderId (state.finish index) _ ⟨rfl, rfl⟩

theorem ticket_update {row : PosOrder} {payments : List PosTransaction}
    {movements : List Movement} {calls : Multiset Call}
    (is : state.ticket orderId = ⟨some row, payments, movements, calls⟩)
    {uid : Uid} (own : row.uid = uid) (change : PosOrder → PosOrder) :
    (state.write (state.store.updateOrder orderId uid change)).ticket
        orderId =
      ⟨some (change row), payments, movements, calls⟩ := by
  rcases Ticket.mk.inj is with ⟨found, paid, moves, inFlight⟩
  rw [PosStore.updateOrder_eq found own]
  ext1
  · exact AList.lookup_insert _
  · exact paid
  · exact moves
  · exact inFlight

theorem ticket_transacted {row : PosOrder}
    {payments : List PosTransaction} {movements : List Movement}
    {calls : Multiset Call}
    (is : state.ticket orderId = ⟨some row, payments, movements, calls⟩)
    {uid : Uid} (own : row.uid = uid) (change : PosOrder → PosOrder)
    {cause : Cause} {paid middle : PosStore}
    {rows : List InventoryTransaction}
    {added : List PosTransaction}
    (orders : paid.orders = state.store.orders)
    (history : paid.inventoryTransactions = state.store.inventoryTransactions)
    (pays : (paid.transactions.filter fun row =>
      row.orderId = orderId) = added)
    (moves : Moved paid middle rows) :
    (state.transact orderId cause
        (.ok (middle.updateOrder orderId uid change))).ticket orderId =
      ⟨some (change row), added, movements ++ [⟨orderId, cause, rows⟩], calls⟩ := by
  have found : middle.orders.lookup orderId = some row := by
    rw [moves.orders, orders]
    exact congrArg Ticket.row is
  rw [PosStore.updateOrder_eq found own]
  have noted : (state.transact orderId cause
      (.ok (middle.putOrder orderId (change row)))).ticket orderId =
      ⟨some (change row), added,
        (state.ticket orderId).movements ++ [⟨orderId, cause, rows⟩],
        (state.ticket orderId).calls⟩ := by
    apply State.ticket_transact
    · exact moves.history.trans (by rw [history])
    · exact AList.lookup_insert _
    · rw [← pays, ← moves.transactions]
      rfl
  rw [noted, is]

section

variable {row order : PosOrder} {payments : List PosTransaction}
  {movements : List Movement} {calls : Multiset Call}

theorem payments_createTransaction {added : PosTransaction}
    {store : PosStore} (about : added.orderId = orderId)
    (paid : (store.transactions.filter fun row =>
      row.orderId = orderId) = payments) :
    ((store.createTransaction added).transactions.filter fun row =>
      row.orderId = orderId) = payments ++ [added] := by
  show ((store.transactions ++ [added]).filter _) = _
  rw [List.filter_append, paid]
  simp [about]

theorem cancelled_step {request : CallOff}
    (is : state.ticket request.orderId = ⟨some row, payments, movements, calls⟩)
    (own : row.uid = request.uid) :
    Ticket.Step catalog state.store.described request.orderId
      ⟨some row, payments, movements, .cancel request order ::ₘ calls⟩
      (some (.cancel request order))
      ((state.transact request.orderId .calledOff
        (cancelInTransaction catalog request order state.store)).ticket request.orderId) := by
  rcases outcome : cancelInTransaction catalog request order state.store with error | store
  · rw [State.transact, is]
    exact .refused _ payments movements calls _ rfl
  · rcases cancelInTransaction_ok outcome with ⟨middle, returns, rfl⟩
    have paid : (state.store.transactions.filter fun row =>
        row.orderId = request.orderId) = payments :=
      (Ticket.mk.inj is).2.1
    rw [ticket_transacted is own _ rfl rfl paid returns]
    exact .cancelled row payments movements calls request order own.symm

theorem voided_step {request : CallOff}
    (is : state.ticket request.orderId = ⟨some row, payments, movements, calls⟩)
    (own : row.uid = request.uid) :
    Ticket.Step catalog state.store.described request.orderId
      ⟨some row, payments, movements, .void request order ::ₘ calls⟩
      (some (.void request order))
      ((state.transact request.orderId .calledOff
        (voidInTransaction catalog request order state.store)).ticket request.orderId) := by
  rcases outcome : voidInTransaction catalog request order state.store with error | store
  · rw [State.transact, is]
    exact .refused _ payments movements calls _ rfl
  · rcases voidInTransaction_ok outcome with ⟨middle, returns, rfl⟩
    have paid : (state.store.transactions.filter fun row =>
        row.orderId = request.orderId) = payments :=
      (Ticket.mk.inj is).2.1
    have pays : ((if order.paymentStatus = .paid then
          state.store.createTransaction (refundRow request order state.store)
        else
          state.store).transactions.filter fun row =>
            row.orderId = request.orderId) =
        if order.paymentStatus = .paid then
          payments ++ [refundRow request order state.store]
        else
          payments := by
      split
      · exact payments_createTransaction rfl paid
      · exact paid
    rw [ticket_transacted is own _ (by split <;> rfl) (by split <;> rfl) pays returns]
    exact .voided row payments movements calls request order _ own.symm ⟨rfl, rfl⟩

theorem addedOn_step {request : AddOn}
    (is : state.ticket request.orderId = ⟨some row, payments, movements, calls⟩)
    (own : row.uid = request.uid) :
    Ticket.Step catalog state.store.described request.orderId
      ⟨some row, payments, movements, .addOn request order ::ₘ calls⟩
      (some (.addOn request order))
      ((state.transact request.orderId .addedOn
        (addOnInTransaction catalog request order state.store)).ticket request.orderId) := by
  rcases outcome : addOnInTransaction catalog request order state.store with error | store
  · rw [State.transact, is]
    exact .refused _ payments movements calls _ rfl
  · rcases addOnInTransaction_ok outcome with ⟨items, middle, priced, takes, rfl⟩
    have paid : (state.store.transactions.filter fun row =>
        row.orderId = request.orderId) = payments :=
      (Ticket.mk.inj is).2.1
    have pays : ((state.store.createTransaction
          (addOnRow request (items.map OrderItem.subtotal).sum)).transactions.filter
          fun row => row.orderId = request.orderId) =
        payments ++ [addOnRow request (items.map OrderItem.subtotal).sum] :=
      payments_createTransaction rfl paid
    rw [ticket_transacted is own _ (by rfl) (by rfl) pays takes]
    exact .addedOn row payments movements calls request order items own.symm priced

theorem payment_step {input : ProcessPaymentInput} {user : User}
    (is : (state.finish index).ticket orderId = ⟨some row, payments, movements, calls⟩)
    (flying : state.calls[index]? = some (.payment orderId row.uid input user order)) :
    Ticket.Step catalog state.store.described orderId
      ⟨some row, payments, movements, .payment orderId row.uid input user order ::ₘ calls⟩
      (some (.payment orderId row.uid input user order))
      ((stepPayment index orderId row.uid input user order state).ticket orderId) := by
  rcases Ticket.mk.inj is with ⟨found, paid, moves, inFlight⟩
  rw [stepPayment]
  split
  · have after := ticket_update is rfl fun row =>
      { row with paymentStatus := .unpaid }
    exact after ▸ .unlocked row payments movements calls input user order
  · rename_i accepted
    have flying' : (state.write (state.store.createTransaction
        (paymentRow orderId order input user))).calls[index]? =
          some (.payment orderId row.uid input user order) :=
      flying
    have after : ((state.write (state.store.createTransaction
        (paymentRow orderId order input user))).finish index).ticket orderId =
        ⟨some row, payments ++ [paymentRow orderId order input user], movements, calls⟩ := by
      ext1
      · exact found
      · exact payments_createTransaction rfl paid
      · exact moves
      · exact inFlight
    rw [State.ticket_advance flying' (by simp [Call.concerns, Call.order]), after]
    exact .recorded row payments movements calls input user order accepted

end

/-- A call on the order takes a step of its machine. -/
theorem stepCall_about (owned : (state.ticket orderId).Owned)
    (flying : state.calls[index]? = some call)
    (about : call.concerns orderId = true) :
    Ticket.Step catalog state.store.described orderId
      (state.ticket orderId) (some call)
      ((stepCall catalog index newId claimCode now state call).ticket orderId) := by
  have before := State.ticket_finish flying about
  have member : call ∈ (state.ticket orderId).calls := by
    have listed : call ∈
        call ::ₘ ((state.finish index).ticket orderId).calls :=
      Multiset.mem_cons_self _ _
    rw [before]
    exact listed
  rcases owned call member with ⟨row, found, own⟩
  rcases is : (state.finish index).ticket orderId with ⟨stored, payments, movements, calls⟩
  rw [is] at before
  rw [before] at found ⊢
  cases found
  have here : ∀ other uid, call.order = some (other, uid) → other = orderId ∧ row.uid = uid := by
    intro other uid order
    constructor
    · simpa [Call.concerns, order] using about
    · rw [order] at own
      exact (Option.some.inj own).symm
  cases call with
  | create | change | log => cases about
  | mark other uid target =>
    rcases here other uid rfl with ⟨rfl, rfl⟩
    have after := ticket_update is rfl fun row =>
      { row with laundryStatus := target }
    rw [stepCall]
    exact after ▸ .marked row payments movements calls target
  | pickup other uid user =>
    rcases here other uid rfl with ⟨rfl, rfl⟩
    have after := ticket_update is rfl fun row =>
      { row with
        laundryStatus := .claimed
        claimedBy := some user._id
        claimedAt := some now }
    rw [stepCall]
    exact after ▸ .claimed row payments movements calls user now
  | payment other uid input user order =>
    rcases here other uid rfl with ⟨rfl, rfl⟩
    exact payment_step is flying
  | paid other uid order =>
    rcases here other uid rfl with ⟨rfl, rfl⟩
    have after := ticket_update is rfl fun row =>
      if completesSale order then
        { row with laundryStatus := .completed }
      else
        row
    rw [stepCall]
    exact after ▸ .completed row payments movements calls order
  | cancel request order =>
    rcases here _ _ rfl with ⟨rfl, same⟩
    rw [stepCall, State.transact_finish]
    exact cancelled_step is same
  | void request order =>
    rcases here _ _ rfl with ⟨rfl, same⟩
    rw [stepCall, State.transact_finish]
    exact voided_step is same
  | addOn request order =>
    rcases here _ _ rfl with ⟨rfl, same⟩
    rw [stepCall, State.transact_finish]
    exact addedOn_step is same

end

end Lalaba.Pos
