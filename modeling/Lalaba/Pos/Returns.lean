import Lalaba.Pos.Course

/-!
# Stock that is handed back

Calling an order off puts back what its items take from the stock.  It is decided
on the order as the call has read it, and written whatever the order has become:
a second call, or a change of status over an order that has been called off, lets
the stock be handed back again.  While no call writes the status of an order that
has been called off, it is handed back at most once, and never more than was taken.
-/

namespace Lalaba.Pos

open Foundation

/-! ## What items use -/

def StockMover.of (uid : Uid) : StockMover where
  uid
  createdBy := ""
  createdByType := ""

def uses (catalog : Catalog) (described : ObjectId → Option Inventory)
    (uid : Uid) (inventoryId : ObjectId) (items : List OrderItem) : ℚ :=
  moved inventoryId (items.flatMap (OrderItem.rows catalog (.of uid) .RETURN described))

section

variable {catalog : Catalog} {described : ObjectId → Option Inventory}
  {uid : Uid} {inventoryId : ObjectId}

theorem ratio_nonneg (fromUnit toUnit : InventoryUnit) : 0 ≤ fromUnit.ratio toUnit := by
  cases fromUnit <;> cases toUnit <;> decide +kernel

theorem convertQuantity_nonneg {quantity : ℚ} (positive : 0 ≤ quantity)
    (fromUnit toUnit : Option InventoryUnit) :
    0 ≤ convertQuantity quantity fromUnit toUnit := by
  unfold convertQuantity
  split
  · exact mul_nonneg positive (ratio_nonneg _ _)
  · exact positive

theorem multiplier_nonneg (item : OrderItem)
    (consumable : DefaultProductItem) : 0 ≤ item.multiplier consumable := by
  unfold OrderItem.multiplier
  split
  · exact zero_le_one
  · split
    · exact zero_le_one
    · exact NNRat.coe_nonneg _

theorem moved_rows (mover : StockMover) (type : TransactionType)
    (other : ObjectId) (magnitude : InventoryUnit → ℚ) :
    moved inventoryId (mover.rows type described other magnitude) =
      type.signed (moved inventoryId
        ((StockMover.of mover.uid).rows .RETURN described other magnitude)) := by
  unfold StockMover.rows
  have owner : (StockMover.of mover.uid).uid = mover.uid := rfl
  rw [owner]
  split
  · simp [TransactionType.signed]
  · rw [moved_singleton, moved_singleton]
    by_cases here : other = inventoryId
    · simp [TransactionType.signed, here]
    · simp [TransactionType.signed, here]

theorem signed_add (type : TransactionType) (first second : ℚ) :
    type.signed (first + second) = type.signed first + type.signed second := by
  unfold TransactionType.signed
  split
  · exact neg_add _ _
  · rfl

theorem signed_zero (type : TransactionType) : type.signed 0 = 0 := by
  unfold TransactionType.signed
  split <;> simp

theorem moved_flatMap_signed {Item : Type} (type : TransactionType)
    {written plain : Item → List InventoryTransaction}
    (each : ∀ item, moved inventoryId (written item) = type.signed (moved inventoryId (plain item)))
    (items : List Item) :
    moved inventoryId (items.flatMap written) =
      type.signed (moved inventoryId (items.flatMap plain)) := by
  induction items with
  | nil => exact (signed_zero type).symm
  | cons item items induction =>
    rw [List.flatMap_cons, List.flatMap_cons, moved_append,
      moved_append, each, induction, signed_add]

theorem moved_item (mover : StockMover) (type : TransactionType)
    (item : OrderItem) :
    moved inventoryId (item.rows catalog mover type described) =
      type.signed (moved inventoryId (item.rows catalog (.of mover.uid) .RETURN described)) := by
  rcases kind : item.type with _ | _ | _
  · simp only [OrderItem.rows, kind]
    exact moved_flatMap_signed type (fun consumable => moved_rows mover type _ _) _
  · rcases identified : item.productId with _ | productId
    · simp [OrderItem.rows, kind, identified, signed_zero]
    · rcases found : catalog.products.lookup productId with _ | product
      · simp [OrderItem.rows, kind, identified, found, signed_zero]
      · simp only [OrderItem.rows, kind, identified, found]
        exact moved_rows mover type _ _
  · simp [OrderItem.rows, kind, signed_zero]

theorem moved_items (mover : StockMover) (type : TransactionType)
    (items : List OrderItem) :
    moved inventoryId (items.flatMap (OrderItem.rows catalog mover type described)) =
      type.signed (uses catalog described mover.uid inventoryId items) :=
  moved_flatMap_signed type (fun item => moved_item mover type item) items

theorem uses_append (first second : List OrderItem) :
    uses catalog described uid inventoryId (first ++ second) =
      uses catalog described uid inventoryId first +
        uses catalog described uid inventoryId second := by
  rw [uses, List.flatMap_append, moved_append, uses, uses]

theorem moved_nonneg {rows : List InventoryTransaction}
    (each : ∀ row ∈ rows, 0 ≤ row.quantityChange) :
    0 ≤ moved inventoryId rows := by
  apply List.sum_nonneg
  intro amount listed
  rcases List.mem_map.mp listed with ⟨row, kept, rfl⟩
  exact each row (List.mem_filter.mp kept).1

theorem rows_nonneg {mover : StockMover} {other : ObjectId}
    {magnitude : InventoryUnit → ℚ} (positive : ∀ unit, 0 ≤ magnitude unit) :
    ∀ row ∈ mover.rows .RETURN described other magnitude, 0 ≤ row.quantityChange := by
  intro row listed
  rw [StockMover.rows] at listed
  split at listed
  · cases listed
  · rw [List.mem_singleton] at listed
    subst listed
    exact positive _

theorem uses_nonneg (items : List OrderItem) :
    0 ≤ uses catalog described uid inventoryId items := by
  apply moved_nonneg
  intro row listed
  rcases List.mem_flatMap.mp listed with ⟨item, _, written⟩
  rw [OrderItem.rows] at written
  split at written
  · rcases List.mem_flatMap.mp written with ⟨consumable, _, written⟩
    refine rows_nonneg (fun unit => ?_) row written
    exact convertQuantity_nonneg (mul_nonneg (NNRat.coe_nonneg _) (multiplier_nonneg _ _)) _ _
  · split at written
    · cases written
    · refine rows_nonneg (fun unit => ?_) row written
      exact mul_nonneg (convertQuantity_nonneg (NNRat.coe_nonneg _) _ _) (NNRat.coe_nonneg _)
  · cases written

theorem uses_prefix {first items : List OrderItem}
    (starts : first <+: items) :
    uses catalog described uid inventoryId first ≤
      uses catalog described uid inventoryId items := by
  rcases starts with ⟨later, rfl⟩
  rw [uses_append]
  exact le_add_of_nonneg_right (uses_nonneg later)

end

/-! ## What an order has taken and given back -/

def movedAs (type : TransactionType) (inventoryId : ObjectId)
    (rows : List InventoryTransaction) : ℚ :=
  moved inventoryId (rows.filter fun row => row.type = type)

section

variable {catalog : Catalog} {described : ObjectId → Option Inventory}
  {inventoryId : ObjectId} {type other : TransactionType}

theorem movedAs_append (first second : List InventoryTransaction) :
    movedAs type inventoryId (first ++ second) =
      movedAs type inventoryId first + movedAs type inventoryId second := by
  rw [movedAs, List.filter_append, moved_append, movedAs, movedAs]

theorem type_of_items {mover : StockMover} {items : List OrderItem}
    {row : InventoryTransaction}
    (listed : row ∈ items.flatMap (OrderItem.rows catalog mover type described)) :
    row.type = type := by
  have each : ∀ {other magnitude},
      row ∈ mover.rows type described other magnitude → row.type = type := by
    intro other magnitude listed
    rw [StockMover.rows] at listed
    split at listed
    · cases listed
    · rw [List.mem_singleton] at listed
      rw [listed]
  rcases List.mem_flatMap.mp listed with ⟨item, _, written⟩
  rw [OrderItem.rows] at written
  split at written
  · rcases List.mem_flatMap.mp written with ⟨_, _, written⟩
    exact each written
  · split at written
    · cases written
    · exact each written
  · cases written

theorem movedAs_items (mover : StockMover) (items : List OrderItem) :
    movedAs type inventoryId (items.flatMap
        (OrderItem.rows catalog mover type described)) =
      type.signed (uses catalog described mover.uid inventoryId items) := by
  rw [← moved_items, movedAs, List.filter_eq_self.mpr]
  intro row listed
  exact decide_eq_true (type_of_items listed)

theorem movedAs_items_of_ne (different : type ≠ other)
    (mover : StockMover) (items : List OrderItem) :
    movedAs other inventoryId (items.flatMap
        (OrderItem.rows catalog mover type described)) = 0 := by
  rw [movedAs, List.filter_eq_nil_iff.mpr, moved_nil]
  intro row listed
  rw [type_of_items listed]
  simpa using different

end

namespace Ticket

def rows (ticket : Ticket) : List InventoryTransaction := ticket.movements.flatMap Movement.rows

def returned (inventoryId : ObjectId) (ticket : Ticket) : ℚ :=
  movedAs .RETURN inventoryId ticket.rows

def consumed (inventoryId : ObjectId) (ticket : Ticket) : ℚ :=
  -movedAs .CONSUME inventoryId ticket.rows

def restorations (ticket : Ticket) : List Movement :=
  ticket.movements.filter fun movement =>
    movement.cause = .calledOff ∧ movement.rows ≠ []

end Ticket

def Call.writesStatus : Call → Bool
  | .mark .. => true
  | .pickup .. => true
  | .cancel .. => true
  | .void .. => true
  | .paid _ _ order => completesSale order
  | _ => false

def SparesCalledOff (ticket : Ticket) (call : Call) : Prop :=
  call.writesStatus = true → ∀ row ∈ ticket.row, row.laundryStatus.calledOff = false

instance (ticket : Ticket) (call : Call) :
    Decidable (SparesCalledOff ticket call) :=
  inferInstanceAs (Decidable (call.writesStatus = true →
    ∀ row ∈ ticket.row, row.laundryStatus.calledOff = false))

/-! ## The invariant -/

theorem addNote_items (label : String) (reason : Option String)
    (snapshot row : PosOrder) :
    (addNote label reason snapshot row).items = row.items := by
  rw [addNote]
  split <;> rfl

theorem addNote_status (label : String) (reason : Option String)
    (snapshot row : PosOrder) :
    (addNote label reason snapshot row).laundryStatus =
      row.laundryStatus := by
  rw [addNote]
  split <;> rfl

/--
The items of the order are what has been taken for it, and a call in flight has read
some of them.  Until the order is called off nothing has been put back.
-/
structure Ticket.Stocked (catalog : Catalog)
    (described : ObjectId → Option Inventory) (ticket : Ticket) : Prop where
  fresh : ticket.row = none → ticket.movements = [] ∧ ticket.calls = 0
  consumed : ∀ row ∈ ticket.row, ∀ inventoryId,
    ticket.consumed inventoryId = uses catalog described row.uid inventoryId row.items
  read : ∀ row ∈ ticket.row, ∀ call ∈ ticket.calls, ∀ order ∈ call.read, order.items <+: row.items
  standing : ∀ row ∈ ticket.row, row.laundryStatus.calledOff = false →
    (∀ inventoryId, ticket.returned inventoryId = 0) ∧ ticket.restorations = []
  covered : ∀ inventoryId, ticket.returned inventoryId ≤ ticket.consumed inventoryId
  once : ticket.restorations.length ≤ 1

namespace Ticket.Stocked

variable {catalog : Catalog} {described : ObjectId → Option Inventory}
  {orderId : ObjectId} {row changed : PosOrder}
  {payments paid : List PosTransaction} {movements : List Movement}
  {calls remaining : Multiset Call}

theorem update
    (stocked : Stocked catalog described ⟨some row, payments, movements, calls⟩)
    (items : changed.items = row.items) (owner : changed.uid = row.uid)
    (standing : changed.laundryStatus.calledOff = false → row.laundryStatus.calledOff = false)
    (reads : ∀ call ∈ remaining, ∀ order ∈ call.read,
      some row = some order ∨ ∃ earlier ∈ calls, earlier.read = some order) :
    Stocked catalog described ⟨some changed, paid, movements, remaining⟩ where
  fresh := by rintro ⟨⟩
  consumed := by
    rintro _ ⟨⟩ inventoryId
    rw [items, owner]
    exact stocked.consumed row rfl inventoryId
  read := by
    rintro _ ⟨⟩ call listed order reading
    rw [items]
    rcases reads call listed order reading with ⟨⟨⟩⟩ | ⟨earlier, flying, held⟩
    · exact List.prefix_rfl
    · exact stocked.read row rfl earlier flying order held
  standing := by
    rintro _ ⟨⟩ calledOff
    exact stocked.standing row rfl (standing calledOff)
  covered := stocked.covered
  once := stocked.once

theorem returned_append (movement : Movement) (inventoryId : ObjectId) :
    returned inventoryId
        ⟨some changed, paid, movements ++ [movement], remaining⟩ =
      returned inventoryId ⟨some row, payments, movements, calls⟩ +
        movedAs .RETURN inventoryId movement.rows := by
  simp [returned, rows, movedAs_append]

theorem consumed_append (movement : Movement) (inventoryId : ObjectId) :
    Ticket.consumed inventoryId
        ⟨some changed, paid, movements ++ [movement], remaining⟩ =
      Ticket.consumed inventoryId ⟨some row, payments, movements, calls⟩ -
        movedAs .CONSUME inventoryId movement.rows := by
  simp only [Ticket.consumed, rows, List.flatMap_append,
    List.flatMap_cons, List.flatMap_nil, List.append_nil, movedAs_append]
  ring

theorem returnedRows_moves (request : CallOff) (restores : Bool)
    (order : PosOrder) (inventoryId : ObjectId) :
    movedAs .RETURN inventoryId
        (returnedRows catalog described request restores order) ≤
      uses catalog described request.uid inventoryId order.items ∧
    movedAs .CONSUME inventoryId (returnedRows catalog described request restores order) = 0 := by
  rw [returnedRows]
  split
  · constructor
    · rw [movedAs_items]
      exact le_of_eq rfl
    · exact movedAs_items_of_ne (by decide) _ _
  · constructor
    · exact uses_nonneg _
    · rfl

/-- Calling the order off puts back at most what was taken. -/
theorem callOff {request : CallOff} {call : Call} {restores : Bool}
    {order : PosOrder}
    (stocked : Stocked catalog described ⟨some row, payments, movements, call ::ₘ calls⟩)
    (reading : call.read = some order) (own : request.uid = row.uid)
    (standing : row.laundryStatus.calledOff = false)
    (items : changed.items = row.items) (owner : changed.uid = row.uid)
    (calledOff : changed.laundryStatus.calledOff = true) :
    Stocked catalog described ⟨some changed, paid, movements ++ [⟨orderId, .calledOff,
        returnedRows catalog described request restores order⟩],
      calls⟩ := by
  rcases stocked.standing row rfl standing with ⟨nothing, untouched⟩
  have starts : order.items <+: row.items :=
    stocked.read row rfl call (Multiset.mem_cons_self _ _) order reading
  have moves := @returnedRows_moves catalog described request restores order
  constructor
  · rintro ⟨⟩
  · rintro _ ⟨⟩ inventoryId
    rw [consumed_append, (moves inventoryId).2, sub_zero, items, owner]
    exact stocked.consumed row rfl inventoryId
  · rintro _ ⟨⟩ member listed held reads
    rw [items]
    exact stocked.read row rfl member (Multiset.mem_cons_of_mem listed) held reads
  · rintro _ ⟨⟩ absurd
    rw [calledOff] at absurd
    cases absurd
  · intro inventoryId
    rw [returned_append, consumed_append, (moves inventoryId).2, sub_zero,
      nothing, zero_add, stocked.consumed row rfl]
    calc movedAs .RETURN inventoryId
          (returnedRows catalog described request restores order)
        ≤ uses catalog described request.uid inventoryId order.items := (moves inventoryId).1
      _ = uses catalog described row.uid inventoryId order.items := by
          rw [own]
      _ ≤ uses catalog described row.uid inventoryId row.items := uses_prefix starts
  · have untouched' : movements.filter (fun movement =>
        movement.cause = .calledOff ∧ movement.rows ≠ []) = [] :=
      untouched
    rw [restorations, List.filter_append, untouched', List.nil_append]
    exact List.length_filter_le _ _

/-- New items take what they use. -/
theorem take {mover : StockMover} {cause : Cause} {items : List OrderItem}
    (stocked : Stocked catalog described ⟨some row, payments, movements, calls⟩)
    (own : mover.uid = row.uid) (takes : cause ≠ .calledOff)
    (fewer : ∀ call ∈ remaining, call ∈ calls)
    (status : changed.laundryStatus = row.laundryStatus)
    (added : changed.items = row.items ++ items)
    (owner : changed.uid = row.uid) :
    Stocked catalog described ⟨some changed, paid,
      movements ++ [⟨orderId, cause, items.flatMap
        (OrderItem.rows catalog mover .CONSUME described)⟩],
      remaining⟩ := by
  have returns : ∀ inventoryId, returned inventoryId
      ⟨some changed, paid, movements ++ [⟨orderId, cause, items.flatMap
        (OrderItem.rows catalog mover .CONSUME described)⟩], remaining⟩ =
      returned inventoryId ⟨some row, payments, movements, calls⟩ := by
    intro inventoryId
    rw [returned_append, movedAs_items_of_ne (by decide), add_zero]
  have consumes : ∀ inventoryId, Ticket.consumed inventoryId
      ⟨some changed, paid, movements ++ [⟨orderId, cause, items.flatMap
        (OrderItem.rows catalog mover .CONSUME described)⟩], remaining⟩ =
      Ticket.consumed inventoryId ⟨some row, payments, movements, calls⟩ +
        uses catalog described row.uid inventoryId items := by
    intro inventoryId
    rw [consumed_append, movedAs_items, own, TransactionType.signed, if_pos rfl, sub_neg_eq_add]
  have same : restorations
      ⟨some changed, paid, movements ++ [⟨orderId, cause, items.flatMap
        (OrderItem.rows catalog mover .CONSUME described)⟩], remaining⟩ =
      restorations ⟨some row, payments, movements, calls⟩ := by
    simp [restorations, takes]
  constructor
  · rintro ⟨⟩
  · rintro _ ⟨⟩ inventoryId
    rw [consumes, stocked.consumed row rfl, added, owner, uses_append]
  · rintro _ ⟨⟩ call listed order reading
    rw [added]
    exact (stocked.read row rfl call (fewer call listed) order
      reading).trans (List.prefix_append _ _)
  · rintro _ ⟨⟩ standing
    rw [status] at standing
    rw [same]
    refine ⟨fun inventoryId => ?_, (stocked.standing row rfl standing).2⟩
    rw [returns]
    exact (stocked.standing row rfl standing).1 inventoryId
  · intro inventoryId
    rw [returns, consumes]
    exact le_add_of_le_of_nonneg (stocked.covered inventoryId) (uses_nonneg items)
  · rw [same]
    exact stocked.once

theorem blank (row : PosOrder) (items : row.items = []) :
    Stocked catalog described ⟨some row, payments, [], 0⟩ where
  fresh := by rintro ⟨⟩
  consumed := by
    rintro _ ⟨⟩ inventoryId
    rw [items]
    rfl
  read := by
    rintro _ _ call ⟨⟩
  standing := by
    rintro _ _ _
    exact ⟨fun _ => rfl, rfl⟩
  covered := fun _ => le_refl _
  once := Nat.zero_le _

theorem step {ticket after : Ticket} {label : Option Call}
    (stocked : ticket.Stocked catalog described)
    (spares : ∀ call ∈ label, SparesCalledOff ticket call)
    (stepped : Step catalog described orderId ticket label after) :
    after.Stocked catalog described := by
  have reads := stepped.reads
  cases stepped with
  | created payments movements calls claimCode input user items priced =>
    rcases stocked.fresh rfl with ⟨nothing, idle⟩
    subst nothing idle
    let empty : PosOrder :=
      { newOrder input user claimCode items (items.map OrderItem.subtotal).sum with items := [] }
    have start : Stocked catalog described
        ⟨some empty, payments, [], 0⟩ :=
      blank empty rfl
    exact start.take rfl (by simp) (fun _ listed => listed) rfl rfl rfl
  | began | locked | unlocked | recorded =>
    exact stocked.update rfl rfl id reads
  | refused row payments movements calls call =>
    rcases row with _ | row
    · rcases stocked.fresh rfl with ⟨_, idle⟩
      exact absurd idle (Multiset.cons_ne_zero)
    · exact stocked.update rfl rfl id reads
  | marked row | claimed row =>
    exact stocked.update rfl rfl (fun _ => spares _ rfl rfl row rfl) reads
  | completed row payments movements calls order =>
    refine stocked.update ?_ ?_ ?_ reads
    · split <;> rfl
    · split <;> rfl
    · split
      · rename_i completes
        exact fun _ => spares _ rfl completes row rfl
      · exact id
  | cancelled row _ _ _ _ _ own | voided row _ _ _ _ _ _ own =>
    apply stocked.callOff rfl own (spares _ rfl rfl row rfl)
    · exact addNote_items _ _ _ _
    · exact addNote_uid _ _ _ _
    · rw [addNote_status]
      rfl
  | addedOn row payments movements calls request order items own =>
    exact stocked.take own (by simp) (fun _ listed => Multiset.mem_cons_of_mem listed) rfl rfl rfl

end Ticket.Stocked

/--
In every run in which no call writes the status of an order over its being called
off, no more of any inventory item is put back for the order than was taken, and at
most one call puts stock back.
-/
theorem stockIsReturnedOnce (catalog : Catalog)
    (inventory : Collection Inventory) (orderId : ObjectId) (state : State)
    (reached : (posSystem catalog).Reaches
      (Allowing orderId SparesCalledOff) (State.start inventory) state) :
    (∀ inventoryId, (state.ticket orderId).returned inventoryId ≤
        (state.ticket orderId).consumed inventoryId) ∧
      (state.ticket orderId).restorations.length ≤ 1 := by
  have stocked := ticket_invariant
    (Ticket.Stocked catalog (State.start inventory).store.described)
    ⟨fun _ => ⟨rfl, rfl⟩, by rintro _ ⟨⟩, by rintro _ ⟨⟩,
      by rintro _ ⟨⟩, fun _ => le_refl _, Nat.zero_le _⟩
    (fun _ _ _ stocked spares stepped => stocked.step spares stepped)
    reached
  exact ⟨stocked.covered, stocked.once⟩

/-- An order that is cancelled gives back all that it took. -/
theorem stockIsReturnedOnce_cancelled :
    ∃ state,
      (posSystem Counter.catalog).Reaches
          (Allowing "order" SparesCalledOff)
          (State.start (Counter.shelf 5)) state ∧
        (state.ticket "order").restorations ≠ [] ∧
        ((∀ inventoryId,
          (state.ticket "order").returned inventoryId ≤
            (state.ticket "order").consumed inventoryId) ∧
          (state.ticket "order").restorations.length ≤ 1) := by
  have performed :
      (((posSystem Counter.catalog).restrict
          (Allowing "order" SparesCalledOff)).perform
        (Counter.sale 2 none ++ [.cancelOrder Counter.callOff, Counter.proceeds 0])
        (State.start (Counter.shelf 5))).map (fun state =>
          (state.ticket "order").restorations.length) = some 1 := by
    decide +kernel
  rcases System.reaches_of_map_restrict performed with ⟨state, reached, once⟩
  refine ⟨state, reached, ?_,
    stockIsReturnedOnce Counter.catalog (Counter.shelf 5) "order" state reached⟩
  intro nothing
  rw [nothing] at once
  cases once

/-- Two cancellations have read a pending order, and both put its soap back. -/
theorem stockReturnedTwice :
    ¬ ∀ (catalog : Catalog) (inventory : Collection Inventory)
        (orderId : ObjectId) (state : State),
        (posSystem catalog).Reaches (fun _ _ => True)
            (State.start inventory) state →
          (∀ inventoryId, (state.ticket orderId).returned inventoryId ≤
              (state.ticket orderId).consumed inventoryId) ∧
            (state.ticket orderId).restorations.length ≤ 1 := by
  intro always
  have performed :
      ((posSystem Counter.catalog).perform (Counter.sale 2 none ++
          [ .cancelOrder Counter.callOff, .cancelOrder Counter.callOff,
            Counter.proceeds 0, Counter.proceeds 0 ])
        (State.start (Counter.shelf 5))).map (fun state =>
          ((state.ticket "order").returned "powder", (state.ticket "order").consumed "powder")) =
        some (4, 2) := by
    decide +kernel
  rcases System.reaches_of_map performed with ⟨state, ran, sums⟩
  rcases Prod.mk.inj sums with ⟨returned, consumed⟩
  have covered := (always Counter.catalog (Counter.shelf 5) "order" state ran).1 "powder"
  rw [returned, consumed] at covered
  exact absurd covered (by decide +kernel)

end Lalaba.Pos
