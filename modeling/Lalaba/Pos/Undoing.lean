import Lalaba.Pos.Editing
import Lalaba.Pos.Returns

/-!
# Cancelling and creating

An order that is called off puts back what its lines draw from the inventory at that
moment, and it was created with what they drew then.  A service is drawn by the
consumables that the order keeps, a product by what the catalogue now says of it,
and both in the unit that the inventory item now has.  So the two agree when no edit
in between changes what a line draws.
-/

namespace Lalaba.Pos

open Foundation

/-- An amount of an inventory item, in any unit that the item may have. -/
structure Draw where
  inventoryId : ObjectId
  amount : InventoryUnit → ℚ

def Product.perUnit (product : Product) (unit : InventoryUnit) : ℚ :=
  convertQuantity product.quantity (some product.productUnit) (some unit)

/-- What a line draws: its consumables, or its product. -/
def OrderItem.draws (products : Collection Product) (item : OrderItem) :
    List Draw :=
  match item.type, item.productId with
  | .service, _ =>
    (item.defaultProducts.filter fun consumable =>
      consumable.included).map fun consumable =>
        { inventoryId := consumable.inventoryId
          amount := fun unit => convertQuantity
            ((consumable.quantity : ℚ) * item.multiplier consumable)
            consumable.unit (some unit) }
  | .product, some productId =>
    match products.lookup productId with
    | none => []
    | some product =>
      [{ inventoryId := product.inventoryId
         amount := fun unit => product.perUnit unit * item.quantity }]
  | _, _ => []

def OrderItem.sells (productId : ObjectId) (item : OrderItem) : Bool :=
  decide (item.type = .product ∧ item.productId = some productId)

section

variable {catalog : Catalog} {products products' : Collection Product}
  {described described' : ObjectId → Option Inventory}
  {mover : StockMover} {type : TransactionType} {item : OrderItem}

theorem rows_eq_draws :
    item.rows catalog mover type described = (item.draws catalog.products).flatMap fun draw =>
        mover.rows type described draw.inventoryId draw.amount := by
  rcases kind : item.type with _ | _ | _
  · simp only [OrderItem.rows, OrderItem.draws, kind, List.flatMap_map]
  · rcases identified : item.productId with _ | productId
    · simp only [OrderItem.rows, OrderItem.draws, kind, identified, List.flatMap_nil]
    · rcases found : catalog.products.lookup productId with _ | product
      · simp only [OrderItem.rows, OrderItem.draws, kind, identified, found, List.flatMap_nil]
      · simp only [OrderItem.rows, OrderItem.draws, kind, identified, found,
          List.flatMap_cons, List.flatMap_nil, List.append_nil, Product.perUnit]
  · simp only [OrderItem.rows, OrderItem.draws, kind, List.flatMap_nil]

theorem draws_congr
    (same : ∀ productId, item.sells productId = true →
      products'.lookup productId = products.lookup productId) :
    item.draws products' = item.draws products := by
  rcases kind : item.type with _ | _ | _
  · simp only [OrderItem.draws, kind]
  · rcases identified : item.productId with _ | productId
    · simp only [OrderItem.draws, kind, identified]
    · have sold : item.sells productId = true := by
        simp [OrderItem.sells, kind, identified]
      simp only [OrderItem.draws, kind, identified, same productId sold]
  · simp only [OrderItem.draws, kind]

theorem rows_congr {inventoryId : ObjectId}
    {amount amount' : InventoryUnit → ℚ}
    (same : (described inventoryId).map
        (fun item => (item.uid, amount item.inventoryUnit)) =
      (described' inventoryId).map
        fun item => (item.uid, amount' item.inventoryUnit)) :
    mover.rows type described inventoryId amount =
      mover.rows type described' inventoryId amount' := by
  rcases before : described inventoryId with _ | item <;>
    rcases after : described' inventoryId with _ | item'
  · rw [StockMover.rows, StockMover.rows, before, after]
    rfl
  · rw [before, after] at same
    cases same
  · rw [before, after] at same
    cases same
  · rw [before, after] at same
    simp only [Option.map_some, Option.some.injEq, Prod.mk.injEq] at same
    simp only [StockMover.rows, before, after, Option.filter_some, same.1]
    by_cases own : item'.uid = mover.uid
    · simp only [own, decide_true, if_true, same.2]
    · simp only [own, decide_false, Bool.false_eq_true, if_false]

theorem rows_of_draws
    (same : ∀ draw ∈ item.draws products, (described draw.inventoryId).map
        (fun item => (item.uid, draw.amount item.inventoryUnit)) =
      (described' draw.inventoryId).map
        fun item => (item.uid, draw.amount item.inventoryUnit)) :
    ((item.draws products).flatMap fun draw =>
        mover.rows type described draw.inventoryId draw.amount) =
      (item.draws products).flatMap fun draw =>
        mover.rows type described' draw.inventoryId draw.amount :=
  List.flatMap_congr fun draw listed => rows_congr (same draw listed)

end

/-- Does an edit leave alone what a line draws? -/
def OrderItem.spared (shop : Shop) (item : OrderItem) : ShopAction → Bool
  | .updateProduct productId _ input =>
    !item.sells productId || (shop.catalog.products.lookup productId).all fun product =>
        (shop.state.store.inventory.lookup product.inventoryId).all
          fun inventory =>
            decide ((input.apply product).perUnit inventory.inventoryUnit =
              product.perUnit inventory.inventoryUnit)
  | .deleteProduct productId => !item.sells productId
  | .updateInventory inventoryId _ input =>
    (shop.state.store.inventory.lookup inventoryId).all fun inventory =>
      (item.draws shop.catalog.products).all fun draw =>
        decide (draw.inventoryId = inventoryId →
          draw.amount (input.apply inventory).inventoryUnit = draw.amount inventory.inventoryUnit)
  | .deleteInventory inventoryId =>
    (item.draws shop.catalog.products).all fun draw =>
      decide (draw.inventoryId ≠ inventoryId)
  | _ => true

def Shop.returns (shop : Shop) (uid : Uid) (item : OrderItem) :
    List InventoryTransaction :=
  item.rows shop.catalog (.of uid) .RETURN shop.state.store.described

section

variable {shop after : Shop} {item : OrderItem} {uid : Uid} {productId inventoryId : ObjectId}

theorem described_writeInventory_insert (changed : Inventory)
    (other : ObjectId) :
    (shop.writeInventory (shop.state.store.inventory.insert inventoryId
        changed)).state.store.described other =
      if other = inventoryId then some { changed with stockQuantity := 0 }
      else shop.state.store.described other := by
  by_cases same : other = inventoryId
  · subst same
    simp [Shop.writeInventory, State.write, PosStore.described]
  · simp [Shop.writeInventory, State.write, PosStore.described, AList.lookup_insert_ne same, same]

theorem Shop.returns_writeProducts {product changed : Product}
    (stored : shop.catalog.products.lookup productId = some product)
    (place : changed.inventoryId = product.inventoryId)
    (amount : item.sells productId = true → ∀ inventory,
      shop.state.store.inventory.lookup product.inventoryId = some inventory →
        changed.perUnit inventory.inventoryUnit = product.perUnit inventory.inventoryUnit) :
    (shop.writeProducts (shop.catalog.products.insert productId
        changed)).returns uid item = shop.returns uid item := by
  rw [Shop.returns, Shop.returns, rows_eq_draws, rows_eq_draws]
  by_cases sold : item.sells productId = true
  · have line := of_decide_eq_true sold
    have now : item.draws (shop.catalog.products.insert productId changed) =
        [{ inventoryId := changed.inventoryId
           amount := fun unit => changed.perUnit unit * item.quantity }] := by
      simp only [OrderItem.draws, line.1, line.2, AList.lookup_insert]
    have before : item.draws shop.catalog.products =
        [{ inventoryId := product.inventoryId
           amount := fun unit => product.perUnit unit * item.quantity }] := by
      simp only [OrderItem.draws, line.1, line.2, stored]
    simp only [Shop.writeProducts, now, before, List.flatMap_cons, List.flatMap_nil, place]
    congr 1
    apply rows_congr
    rw [PosStore.described]
    rcases kept : shop.state.store.inventory.lookup product.inventoryId with
      _ | inventory
    · rfl
    · simp only [Option.map_some, amount sold inventory kept]
  · have same := @draws_congr shop.catalog.products
      (shop.catalog.products.insert productId changed) item
      fun other others => AList.lookup_insert_ne fun same =>
        sold (same ▸ others)
    simp only [Shop.writeProducts, same]

theorem Shop.returns_deleteProduct (kept : item.sells productId = false) :
    (shop.deleteProduct productId).returns uid item =
      shop.returns uid item := by
  rw [Shop.returns, Shop.returns, rows_eq_draws, rows_eq_draws]
  have same := @draws_congr shop.catalog.products
    (shop.catalog.products.erase productId) item fun other others =>
      AList.lookup_erase_ne fun same => by
        rw [← same, others] at kept
        cases kept
  simp only [Shop.deleteProduct, Shop.writeProducts, same]

theorem Shop.returns_writeInventory {inventory changed : Inventory}
    (stored : shop.state.store.inventory.lookup inventoryId = some inventory)
    (owner : changed.uid = inventory.uid)
    (amounts : ∀ draw ∈ item.draws shop.catalog.products,
      draw.inventoryId = inventoryId →
        draw.amount changed.inventoryUnit = draw.amount inventory.inventoryUnit) :
    (shop.writeInventory (shop.state.store.inventory.insert inventoryId
        changed)).returns uid item = shop.returns uid item := by
  rw [Shop.returns, Shop.returns, rows_eq_draws, rows_eq_draws]
  apply rows_of_draws
  intro draw listed
  rw [described_writeInventory_insert]
  split
  · rename_i same
    rw [PosStore.described, same, stored]
    simp only [Option.map_some, owner, amounts draw listed same]
  · rfl

theorem Shop.returns_deleteInventory
    (kept : ∀ draw ∈ item.draws shop.catalog.products, draw.inventoryId ≠ inventoryId) :
    (shop.deleteInventory inventoryId).returns uid item =
      shop.returns uid item := by
  rw [Shop.returns, Shop.returns, rows_eq_draws, rows_eq_draws]
  apply rows_of_draws
  intro draw listed
  simp only [Shop.deleteInventory, Shop.writeInventory, State.write,
    PosStore.described, AList.lookup_erase_ne (kept draw listed)]

theorem Shop.returns_step {action : ShopAction}
    (spared : item.spared shop action = true)
    (stepped : shopStep action shop = some after) :
    after.returns uid item = shop.returns uid item := by
  cases action with
  | sale action =>
    rcases Option.map_eq_some_iff.mp stepped with ⟨state, ran, rfl⟩
    rw [Shop.returns, Shop.returns, described_step ran]
  | updateProduct productId owner input =>
    rcases Shop.changeProduct_ok (toOption_eq_some.mp stepped) with ⟨product, stored, rfl⟩
    refine Shop.returns_writeProducts stored (by rfl) ?_
    intro sold inventory kept
    simpa [OrderItem.spared, sold, stored, kept] using spared
  | archiveProduct productId owner | restoreProduct productId owner =>
    rcases Shop.changeProduct_ok (toOption_eq_some.mp stepped) with ⟨product, stored, rfl⟩
    exact Shop.returns_writeProducts stored rfl fun _ _ _ => rfl
  | deleteProduct productId =>
    cases stepped
    exact Shop.returns_deleteProduct (by
      simpa [OrderItem.spared] using spared)
  | updateService | archiveService | restoreService | deleteService =>
    rcases Shop.changeService_ok (toOption_eq_some.mp stepped) with ⟨services, rfl⟩
    rfl
  | updateInventory inventoryId owner input =>
    rcases Shop.changeInventory_ok (toOption_eq_some.mp stepped) with ⟨inventory, stored, rfl⟩
    refine Shop.returns_writeInventory stored (by rfl) ?_
    intro draw listed same
    simp only [OrderItem.spared, stored, Option.all_some,
      List.all_eq_true, decide_eq_true_eq] at spared
    exact spared draw listed same
  | archiveInventory inventoryId owner | restoreInventory inventoryId owner =>
    rcases Shop.changeInventory_ok (toOption_eq_some.mp stepped) with ⟨inventory, stored, rfl⟩
    exact Shop.returns_writeInventory stored rfl fun _ _ _ => rfl
  | deleteInventory inventoryId =>
    cases stepped
    apply Shop.returns_deleteInventory
    simpa [OrderItem.spared] using spared

end

def Call.restores : Call → Option Bool
  | .cancel request _ => some request.cancelRestores
  | .void request order => some (request.voidRestores order)
  | _ => none

def Call.writesOrder : Call → Bool
  | .addOn .. => true
  | call => call.writesStatus

/--
No call writes over an order that has been called off, and one that calls it off
puts stock back, for the lines that the order then has.
-/
def TakesBack (ticket : Ticket) (call : Call) : Prop :=
  (call.writesOrder = true → ∀ row ∈ ticket.row, row.laundryStatus.calledOff = false) ∧
  ∀ restores ∈ call.restores, restores = true ∧
    ∀ order ∈ call.read, ∀ row ∈ ticket.row, order.items = row.items

instance (ticket : Ticket) (call : Call) :
    Decidable (TakesBack ticket call) :=
  inferInstanceAs (Decidable ((call.writesOrder = true →
    ∀ row ∈ ticket.row, row.laundryStatus.calledOff = false) ∧
    ∀ restores ∈ call.restores, restores = true ∧
      ∀ order ∈ call.read, ∀ row ∈ ticket.row, order.items = row.items))

def InTurn (orderId : ObjectId) (shop : Shop) : ShopAction → Prop
  | .sale action => Allowing orderId TakesBack shop.state action
  | _ => True

def SparesLines (orderId : ObjectId) (shop : Shop) (action : ShopAction) :
    Prop :=
  ∀ row ∈ (shop.ticket orderId).row,
    row.laundryStatus.calledOff = false → ∀ item ∈ row.items, item.spared shop action = true

instance (orderId : ObjectId) (shop : Shop) (action : ShopAction) :
    Decidable (InTurn orderId shop action) :=
  match action with
  | .sale action =>
    inferInstanceAs (Decidable (Allowing orderId TakesBack shop.state action))
  | .updateProduct .. | .archiveProduct .. | .restoreProduct .. |
    .deleteProduct .. | .updateService .. | .archiveService .. |
    .restoreService .. | .deleteService .. | .updateInventory .. |
    .archiveInventory .. | .restoreInventory .. | .deleteInventory .. =>
    .isTrue trivial

instance (orderId : ObjectId) (shop : Shop) (action : ShopAction) :
    Decidable (SparesLines orderId shop action) :=
  inferInstanceAs (Decidable (∀ row ∈ (shop.ticket orderId).row,
    row.laundryStatus.calledOff = false → ∀ item ∈ row.items, item.spared shop action = true))

/-! ## The invariant -/

/--
Until the order is called off, what has been taken for it is what its lines use, and
nothing has been put back.  From then on as much is put back as was taken.
-/
structure Ticket.Undoable (catalog : Catalog)
    (described : ObjectId → Option Inventory) (ticket : Ticket) : Prop where
  fresh : ticket.row = none → ticket.movements = [] ∧ ticket.calls = 0
  moves : ∀ other uid target, .mark other uid target ∈ ticket.calls →
    target = .inProgress ∨ target = .ready
  standing : ∀ row ∈ ticket.row, row.laundryStatus.calledOff = false →
    ∀ inventoryId,
      ticket.consumed inventoryId =
          uses catalog described row.uid inventoryId row.items ∧
        ticket.returned inventoryId = 0
  calledOff : ∀ row ∈ ticket.row, row.laundryStatus.calledOff = true →
    ∀ inventoryId, ticket.returned inventoryId = ticket.consumed inventoryId

namespace Ticket.Undoable

variable {catalog : Catalog} {described : ObjectId → Option Inventory}
  {orderId : ObjectId} {row changed : PosOrder}
  {payments paid : List PosTransaction} {movements : List Movement}
  {calls remaining : Multiset Call}

theorem update
    (undoable : Undoable catalog described ⟨some row, payments, movements, calls⟩)
    (items : changed.items = row.items) (owner : changed.uid = row.uid)
    (status : changed.laundryStatus.calledOff = row.laundryStatus.calledOff)
    (moves : ∀ other uid target, .mark other uid target ∈ remaining →
      target = .inProgress ∨ target = .ready) :
    Undoable catalog described ⟨some changed, paid, movements, remaining⟩ where
  fresh := by rintro ⟨⟩
  moves := moves
  standing := by
    rintro _ ⟨⟩ alive
    rw [items, owner]
    exact undoable.standing row rfl (status ▸ alive)
  calledOff := by
    rintro _ ⟨⟩ closed
    exact undoable.calledOff row rfl (status ▸ closed)

theorem take {mover : StockMover} {cause : Cause} {items : List OrderItem}
    (undoable : Undoable catalog described ⟨some row, payments, movements, calls⟩)
    (own : mover.uid = row.uid)
    (standing : row.laundryStatus.calledOff = false)
    (status : changed.laundryStatus = row.laundryStatus)
    (added : changed.items = row.items ++ items)
    (owner : changed.uid = row.uid)
    (moves : ∀ other uid target, .mark other uid target ∈ remaining →
      target = .inProgress ∨ target = .ready) :
    Undoable catalog described ⟨some changed, paid,
      movements ++ [⟨orderId, cause, items.flatMap
        (OrderItem.rows catalog mover .CONSUME described)⟩],
      remaining⟩ where
  fresh := by rintro ⟨⟩
  moves := moves
  standing := by
    rintro _ ⟨⟩ _ inventoryId
    rcases undoable.standing row rfl standing inventoryId with ⟨consumed, returned⟩
    constructor
    · rw [Stocked.consumed_append, movedAs_items, own, consumed, added,
        owner, uses_append, TransactionType.signed, if_pos rfl, sub_neg_eq_add]
    · rw [Stocked.returned_append, movedAs_items_of_ne (by decide), returned, add_zero]
  calledOff := by
    rintro _ ⟨⟩ closed
    rw [status, standing] at closed
    cases closed

theorem callOff {request : CallOff} {order : PosOrder}
    (undoable : Undoable catalog described ⟨some row, payments, movements, calls⟩)
    (own : request.uid = row.uid) (current : order.items = row.items)
    (standing : row.laundryStatus.calledOff = false)
    (closed : changed.laundryStatus.calledOff = true)
    (moves : ∀ other uid target, .mark other uid target ∈ remaining →
      target = .inProgress ∨ target = .ready) :
    Undoable catalog described ⟨some changed, paid, movements ++ [⟨orderId, .calledOff,
        returnedRows catalog described request true order⟩],
      remaining⟩ where
  fresh := by rintro ⟨⟩
  moves := moves
  standing := by
    rintro _ ⟨⟩ alive
    rw [closed] at alive
    cases alive
  calledOff := by
    rintro _ ⟨⟩ _ inventoryId
    rcases undoable.standing row rfl standing inventoryId with ⟨consumed, returned⟩
    have mover : (request.user.mover request.uid).uid = row.uid := own
    rw [Stocked.returned_append, Stocked.consumed_append, returned, consumed,
      returnedRows, if_pos rfl, movedAs_items,
      movedAs_items_of_ne (by decide), mover, current]
    simp [TransactionType.signed]

theorem blank (row : PosOrder) (items : row.items = [])
    (standing : row.laundryStatus.calledOff = false) :
    Undoable catalog described ⟨some row, payments, [], 0⟩ where
  fresh := by rintro ⟨⟩
  moves := by rintro _ _ _ ⟨⟩
  standing := by
    rintro _ ⟨⟩ _ inventoryId
    rw [items]
    exact ⟨rfl, rfl⟩
  calledOff := by
    rintro _ ⟨⟩ closed
    rw [standing] at closed
    cases closed

theorem step {ticket after : Ticket} {label : Option Call}
    (undoable : ticket.Undoable catalog described)
    (takesBack : ∀ call ∈ label, TakesBack ticket call)
    (stepped : Step catalog described orderId ticket label after) :
    after.Undoable catalog described := by
  have moves := stepped.moves undoable.moves
  cases stepped with
  | created payments movements calls claimCode input user items priced =>
    rcases undoable.fresh rfl with ⟨nothing, idle⟩
    subst nothing idle
    let empty : PosOrder :=
      { newOrder input user claimCode items (items.map OrderItem.subtotal).sum with items := [] }
    have start : Undoable catalog described
        ⟨some empty, payments, [], 0⟩ :=
      blank empty rfl rfl
    exact start.take rfl rfl rfl rfl rfl moves
  | began | locked | unlocked | recorded =>
    exact undoable.update rfl rfl rfl moves
  | refused row payments movements calls call =>
    rcases row with _ | row
    · rcases undoable.fresh rfl with ⟨_, idle⟩
      exact absurd idle Multiset.cons_ne_zero
    · exact undoable.update rfl rfl rfl moves
  | marked row payments movements calls target =>
    refine undoable.update rfl rfl ?_ moves
    rw [(takesBack _ rfl).1 rfl row rfl]
    rcases undoable.moves _ _ _ (Multiset.mem_cons_self _ _) with
      rfl | rfl <;> rfl
  | claimed row =>
    refine undoable.update rfl rfl ?_ moves
    rw [(takesBack _ rfl).1 rfl row rfl]
    rfl
  | completed row payments movements calls order =>
    refine undoable.update ?_ ?_ ?_ moves
    · split <;> rfl
    · split <;> rfl
    · split
      · rename_i completes
        rw [(takesBack _ rfl).1 completes row rfl]
        rfl
      · rfl
  | cancelled row _ _ _ _ order own | voided row _ _ _ _ order _ own =>
    have standing := (takesBack _ rfl).1 rfl row rfl
    rcases (takesBack _ rfl).2 _ rfl with ⟨restores, current⟩
    rw [restores]
    exact undoable.callOff own (current order rfl row rfl) standing
      (by rw [addNote_status]; rfl) moves
  | addedOn row payments movements calls request order items own =>
    have standing := (takesBack _ rfl).1 rfl row rfl
    exact undoable.take own standing rfl rfl rfl moves

theorem edited {catalog' : Catalog}
    {described' : ObjectId → Option Inventory} {ticket : Ticket}
    (undoable : ticket.Undoable catalog described)
    (spared : ∀ row ∈ ticket.row, row.laundryStatus.calledOff = false →
      ∀ item ∈ row.items, item.rows catalog' (.of row.uid) .RETURN described' =
          item.rows catalog (.of row.uid) .RETURN described) :
    ticket.Undoable catalog' described' where
  fresh := undoable.fresh
  moves := undoable.moves
  standing := by
    intro row stored alive inventoryId
    rcases undoable.standing row stored alive inventoryId with ⟨consumed, returned⟩
    refine ⟨?_, returned⟩
    rw [consumed, uses, uses, List.flatMap_congr (spared row stored alive)]
  calledOff := undoable.calledOff

end Ticket.Undoable

theorem shop_ticket_step {orderId : ObjectId} {shop after : Shop}
    {action : ShopAction} (owned : (shop.ticket orderId).Owned)
    (inTurn : InTurn orderId shop action)
    (stepped : shopStep action shop = some after) :
    after.ticket orderId = shop.ticket orderId ∨
      ∃ label, Ticket.Step after.catalog after.state.store.described orderId
          (shop.ticket orderId) label (after.ticket orderId) ∧
        ∀ call ∈ label, TakesBack (shop.ticket orderId) call := by
  cases action with
  | sale action =>
    rcases Option.map_eq_some_iff.mp stepped with ⟨state, ran, rfl⟩
    rcases ticket_step owned ran with same | ⟨label, takes, about⟩
    · exact .inl same
    · rw [← described_step ran] at takes
      refine .inr ⟨label, takes, ?_⟩
      intro call listed
      rcases about call listed with ⟨index, newId, claimCode, now, rfl, flying, concerned⟩
      exact inTurn index rfl call flying concerned
  | updateProduct | archiveProduct | restoreProduct =>
    rcases Shop.changeProduct_ok (toOption_eq_some.mp stepped) with ⟨_, _, rfl⟩
    exact .inl rfl
  | updateService | archiveService | restoreService | deleteService =>
    rcases Shop.changeService_ok (toOption_eq_some.mp stepped) with ⟨_, rfl⟩
    exact .inl rfl
  | updateInventory | archiveInventory | restoreInventory =>
    rcases Shop.changeInventory_ok (toOption_eq_some.mp stepped) with ⟨_, _, rfl⟩
    exact .inl rfl
  | deleteProduct | deleteInventory =>
    cases stepped
    exact .inl rfl

def Shop.Undoable (orderId : ObjectId) (shop : Shop) : Prop :=
  (shop.ticket orderId).Owned ∧
    (shop.ticket orderId).Undoable shop.catalog shop.state.store.described

theorem Shop.Undoable.step {orderId : ObjectId} {shop after : Shop}
    {action : ShopAction} (undoable : shop.Undoable orderId)
    (inTurn : InTurn orderId shop action)
    (spares : SparesLines orderId shop action)
    (stepped : shopStep action shop = some after) :
    after.Undoable orderId := by
  rcases undoable with ⟨owned, undoable⟩
  -- What the lines would put back is the same before and after the step.
  have kept : (shop.ticket orderId).Undoable after.catalog
      after.state.store.described := by
    apply undoable.edited
    intro row stored alive item listed
    exact Shop.returns_step (spares row stored alive item listed) stepped
  rcases shop_ticket_step owned inTurn stepped with
    same | ⟨label, takes, takesBack⟩
  · rw [Shop.Undoable, same]
    exact ⟨owned, kept⟩
  · exact ⟨owned.step takes, kept.step takesBack takes⟩

/--
In every run in which no edit changes what the lines of the open order draw, and the
calls on the order find it as they have read it and put its stock back, as much of
every inventory item has been returned for an order that is called off as has been
deducted for it.
-/
theorem callingOffUndoesCreation (catalog : Catalog)
    (inventory : Collection Inventory) (orderId : ObjectId) (shop : Shop)
    (reached : shopSystem.Reaches (fun shop action =>
        InTurn orderId shop action ∧ SparesLines orderId shop action)
      (Shop.start catalog inventory) shop)
    (row : PosOrder) (stored : shop.state.store.orders.lookup orderId = some row)
    (off : row.laundryStatus.calledOff = true) (inventoryId : ObjectId) :
    (shop.ticket orderId).returned inventoryId = (shop.ticket orderId).consumed inventoryId := by
  have undoable : shop.Undoable orderId := by
    apply reached.invariant (Shop.Undoable orderId)
    · refine ⟨?_, fun _ => ⟨rfl, rfl⟩, ?_, ?_, ?_⟩
      · rintro _ ⟨⟩
      · rintro _ _ _ ⟨⟩
      · rintro _ ⟨⟩
      · rintro _ ⟨⟩
    · rintro shop action after undoable ⟨inTurn, spares⟩ stepped
      exact undoable.step inTurn spares stepped
  exact undoable.2.calledOff row stored off inventoryId

def Counter.sold (edits : List ShopAction) : List ShopAction :=
  (Counter.sale 2 none).map ShopAction.sale ++ edits ++
    [ .sale (.cancelOrder Counter.callOff), .sale (Counter.proceeds 0) ]

def Counter.harmless : List ShopAction :=
  [ .updateProduct "soap" "shop" { price := some 12 },
    .archiveProduct "soap" "shop",
    .archiveInventory "powder" "shop" ]

def Counter.larger : List ShopAction := [.updateProduct "soap" "shop" { quantity := some 3 }]

def Counter.seen (shop : Shop) : Option Bool × ℚ × ℚ :=
  ( (shop.state.store.orders.lookup "order").map fun row =>
      row.laundryStatus.calledOff,
    (shop.ticket "order").returned "powder",
    (shop.ticket "order").consumed "powder" )

/-- Soap that is archived is put back all the same. -/
theorem callingOffUndoesCreation_archived : ∃ shop row, shopSystem.Reaches (fun shop action =>
            InTurn "order" shop action ∧ SparesLines "order" shop action)
          (Shop.start Counter.catalog (Counter.shelf 5)) shop ∧
        shop.state.store.orders.lookup "order" = some row ∧
        row.laundryStatus.calledOff = true ∧
        (shop.ticket "order").consumed "powder" = 2 ∧
        (shop.ticket "order").returned "powder" = (shop.ticket "order").consumed "powder" := by
  have performed : ((shopSystem.restrict fun shop action =>
          InTurn "order" shop action ∧ SparesLines "order" shop action).perform
        (Counter.sold Counter.harmless)
        (Shop.start Counter.catalog (Counter.shelf 5))).map Counter.seen =
        some (some true, 2, 2) := by
    decide +kernel
  rcases System.reaches_of_map_restrict performed with ⟨shop, reached, seen⟩
  simp only [Counter.seen, Prod.mk.injEq] at seen
  rcases Option.map_eq_some_iff.mp seen.1 with ⟨row, stored, off⟩
  exact ⟨shop, row, reached, stored, off, seen.2.2,
    callingOffUndoesCreation Counter.catalog (Counter.shelf 5) "order" shop
      reached row stored off "powder"⟩

/-- The product takes three where it took one, and six are put back for two. -/
theorem callingOffDoesNotUndoCreation :
    ¬ ∀ (catalog : Catalog) (inventory : Collection Inventory)
        (orderId : ObjectId) (shop : Shop) (row : PosOrder),
        shopSystem.Reaches (fun shop action => InTurn orderId shop action)
            (Shop.start catalog inventory) shop →
          shop.state.store.orders.lookup orderId = some row →
          row.laundryStatus.calledOff = true →
          ∀ inventoryId,
            (shop.ticket orderId).returned inventoryId =
              (shop.ticket orderId).consumed inventoryId := by
  intro always
  have performed : ((shopSystem.restrict fun shop action =>
          InTurn "order" shop action).perform (Counter.sold Counter.larger)
        (Shop.start Counter.catalog (Counter.shelf 5))).map Counter.seen =
        some (some true, 6, 2) := by
    decide +kernel
  rcases System.reaches_of_map_restrict performed with ⟨shop, ran, seen⟩
  simp only [Counter.seen, Prod.mk.injEq] at seen
  rcases Option.map_eq_some_iff.mp seen.1 with ⟨row, stored, off⟩
  have same := always Counter.catalog (Counter.shelf 5) "order" shop row ran stored off "powder"
  rw [seen.2.1, seen.2.2] at same
  exact absurd same (by decide +kernel)

end Lalaba.Pos
