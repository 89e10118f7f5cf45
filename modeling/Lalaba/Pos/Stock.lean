import Lalaba.Foundation.Ledger
import Lalaba.Pos.Service

/-!
# What the orders take from the stock

A transaction that moves stock appends one row to the history for each inventory
item it touches, and changes the stock by what the row says.  Which rows these are
depends on the items of the order alone: nothing about an inventory item changes
but its stock.
-/

namespace Lalaba.Pos

open Foundation

/-! ## The stock and its history -/

namespace PosStore

def stock (inventoryId : ObjectId) (store : PosStore) : ℚ :=
  ((store.inventory.lookup inventoryId).map Inventory.stockQuantity).getD 0

def described (store : PosStore) (inventoryId : ObjectId) :
    Option Inventory :=
  (store.inventory.lookup inventoryId).map fun item =>
    { item with stockQuantity := 0 }

end PosStore

def moved (inventoryId : ObjectId) (rows : List InventoryTransaction) : ℚ :=
  Ledger.total InventoryTransaction.inventoryId InventoryTransaction.quantityChange inventoryId rows

@[simp]
theorem moved_nil (inventoryId : ObjectId) : moved inventoryId [] = 0 := rfl

theorem moved_append (inventoryId : ObjectId)
    (first second : List InventoryTransaction) :
    moved inventoryId (first ++ second) = moved inventoryId first + moved inventoryId second :=
  Ledger.total_append inventoryId first second

theorem moved_singleton (inventoryId : ObjectId)
    (row : InventoryTransaction) :
    moved inventoryId [row] =
      if row.inventoryId = inventoryId then row.quantityChange else 0 :=
  Ledger.total_singleton inventoryId row

namespace PosStore

variable {store : PosStore} {inventoryId : ObjectId} {delta : ℚ}

theorem stock_incrementStock {item : Inventory}
    (found : store.inventory.lookup inventoryId = some item)
    (other : ObjectId) :
    (store.incrementStock inventoryId delta).stock other =
      store.stock other + if inventoryId = other then delta else 0 := by
  rw [incrementStock, found]
  by_cases same : inventoryId = other
  · subst same
    simp [stock, found]
  · simp [stock, AList.lookup_insert_ne (Ne.symm same), same]

theorem described_incrementStock :
    (store.incrementStock inventoryId delta).described =
      store.described := by
  funext other
  rw [incrementStock]
  rcases found : store.inventory.lookup inventoryId with _ | item
  · rfl
  · by_cases same : inventoryId = other
    · subst same
      simp [described, found]
    · simp [described, AList.lookup_insert_ne (Ne.symm same)]

theorem findInventory_described (uid : Uid) : (store.findInventory inventoryId uid).map (fun item =>
        { item with stockQuantity := 0 }) =
      (store.described inventoryId).filter fun item => item.uid = uid := by
  rw [findInventory, described]
  rcases store.inventory.lookup inventoryId with _ | item
  · rfl
  · by_cases own : item.uid = uid <;> simp [Option.filter, own]

end PosStore

/-- What a transaction that moves stock changes, and what it leaves alone. -/
structure Moved (store after : PosStore) (rows : List InventoryTransaction) : Prop where
  orders : after.orders = store.orders
  transactions : after.transactions = store.transactions
  described : after.described = store.described
  history : after.inventoryTransactions = store.inventoryTransactions ++ rows
  stock : ∀ inventoryId, after.stock inventoryId = store.stock inventoryId + moved inventoryId rows
  covered : (∀ inventoryId, 0 ≤ store.stock inventoryId) →
    ∀ inventoryId, 0 ≤ after.stock inventoryId

namespace Moved

variable {store middle after : PosStore} {first second : List InventoryTransaction}

theorem refl (store : PosStore) : Moved store store [] where
  orders := rfl
  transactions := rfl
  described := rfl
  history := by simp
  stock := by simp
  covered := id

theorem trans (here : Moved store middle first)
    (there : Moved middle after second) :
    Moved store after (first ++ second) where
  orders := there.orders.trans here.orders
  transactions := there.transactions.trans here.transactions
  described := there.described.trans here.described
  history := by
    rw [there.history, here.history, List.append_assoc]
  stock := by
    intro inventoryId
    rw [there.stock, here.stock, moved_append, add_assoc]
  covered := fun covered => there.covered (here.covered covered)

theorem foldlM {Item : Type}
    {round : PosStore → Item → Except ServiceError PosStore}
    {rows : (ObjectId → Option Inventory) → Item → List InventoryTransaction}
    (each : ∀ store item after, round store item = .ok after →
      Moved store after (rows store.described item))
    {items : List Item} (ran : items.foldlM round store = .ok after) :
    Moved store after (items.flatMap (rows store.described)) := by
  induction items generalizing store with
  | nil =>
    cases ran
    exact .refl _
  | cons item items induction =>
    rw [List.foldlM_cons] at ran
    rcases bind_eq_ok.mp ran with ⟨middle, outcome, ran⟩
    have here := each store item middle outcome
    have there := induction ran
    rw [here.described] at there
    exact here.trans there

end Moved

def TransactionType.signed (type : TransactionType) (magnitude : ℚ) : ℚ :=
  if type = .CONSUME then -magnitude else magnitude

/-- The rows of one movement: none when the merchant has no such item. -/
def StockMover.rows (mover : StockMover) (type : TransactionType)
    (described : ObjectId → Option Inventory) (inventoryId : ObjectId)
    (magnitude : InventoryUnit → ℚ) : List InventoryTransaction :=
  match (described inventoryId).filter fun item =>
      item.uid = mover.uid with
  | none => []
  | some item =>
    [{ inventoryId
       type
       quantityChange := type.signed (magnitude item.inventoryUnit)
       createdBy := mover.createdBy
       createdByType := mover.createdByType }]

/-- The rows that an item of an order writes. -/
def OrderItem.rows (catalog : Catalog) (mover : StockMover)
    (type : TransactionType) (described : ObjectId → Option Inventory)
    (item : OrderItem) : List InventoryTransaction :=
  match item.type, item.productId with
  | .service, _ =>
    (item.defaultProducts.filter fun consumable =>
      consumable.included).flatMap fun consumable =>
        mover.rows type described consumable.inventoryId fun unit =>
          convertQuantity
            ((consumable.quantity : ℚ) * item.multiplier consumable)
            consumable.unit (some unit)
  | .product, some productId =>
    match catalog.products.lookup productId with
    | none => []
    | some product =>
      mover.rows type described product.inventoryId fun unit =>
        convertQuantity product.quantity (some product.productUnit) (some unit) * item.quantity
  | _, _ => []

section

variable {catalog : Catalog} {mover : StockMover} {type : TransactionType} {store after : PosStore}

/-- One movement of stock. -/
theorem adjustStock_moved {inventoryId : ObjectId}
    {delta : Inventory → ℚ} {magnitude : InventoryUnit → ℚ}
    (is : ∀ item : Inventory, delta item = type.signed (magnitude item.inventoryUnit))
    (ran : adjustStock mover type inventoryId delta store = .ok after) :
    Moved store after (mover.rows type store.described inventoryId magnitude) := by
  have known := @PosStore.findInventory_described store inventoryId mover.uid
  rw [adjustStock] at ran
  rw [StockMover.rows, ← known]
  split at ran
  · rename_i missing
    cases ran
    rw [missing]
    exact .refl _
  · rename_i item found
    rw [found]
    have stored : store.inventory.lookup inventoryId = some item :=
      (Option.filter_eq_some_iff.mp found).1
    split at ran
    · cases ran
    · rename_i enough
      cases ran
      simp only [not_and, not_lt] at enough
      have stock : ∀ other,
          (store.incrementStock inventoryId (delta item)).stock other =
            store.stock other +
              if inventoryId = other then delta item else 0 :=
        PosStore.stock_incrementStock stored
      refine ⟨?_, ?_, PosStore.described_incrementStock, ?_, ?_, ?_⟩
      · rw [PosStore.incrementStock, stored]
        rfl
      · rw [PosStore.incrementStock, stored]
        rfl
      · simp only [PosStore.incrementStock, stored, is, PosStore.logTransaction, Option.map_some]
      · intro other
        simp only [Option.map_some, moved_singleton, ← is]
        exact stock other
      · intro covered other
        show 0 ≤ (store.incrementStock inventoryId (delta item)).stock other
        rw [stock]
        split
        · rename_i same
          subst same
          have held : store.stock inventoryId = item.stockQuantity := by
            simp [PosStore.stock, stored]
          rcases lt_or_ge (delta item) 0 with taken | given
          · have := enough taken
            rw [held]
            linarith
          · exact add_nonneg (covered inventoryId) given
        · simpa using covered other

theorem convertQuantity_neg (quantity : ℚ)
    (fromUnit toUnit : Option InventoryUnit) :
    convertQuantity (-quantity) fromUnit toUnit = -convertQuantity quantity fromUnit toUnit := by
  unfold convertQuantity
  split
  · exact neg_mul _ _
  · rfl

theorem moveItem_moved {item : OrderItem}
    (ran : moveItem catalog mover type item store = .ok after) :
    Moved store after (item.rows catalog mover type store.described) := by
  rcases kind : item.type with _ | _ | _
  · simp only [moveItem, kind] at ran
    simp only [OrderItem.rows, kind]
    refine @Moved.foldlM store after DefaultProductItem _
      (fun described consumable => mover.rows type described
        consumable.inventoryId fun unit => convertQuantity
          ((consumable.quantity : ℚ) * item.multiplier consumable)
          consumable.unit (some unit)) ?_ _ ran
    intro store consumable after adjusted
    apply adjustStock_moved _ adjusted
    intro inventory
    rw [TransactionType.signed]
    split
    · exact convertQuantity_neg _ _ _
    · rfl
  · rcases identified : item.productId with _ | productId
    · simp only [moveItem, kind, identified] at ran
      cases ran
      simp only [OrderItem.rows, kind, identified]
      exact .refl _
    · simp only [moveItem, kind, identified] at ran
      simp only [OrderItem.rows, kind, identified]
      rcases found : catalog.products.lookup productId with _ | product
      · simp only [adjustProductItemStock, found] at ran
        cases ran
        exact .refl _
      · simp only [adjustProductItemStock, found] at ran
        exact adjustStock_moved (fun _ => rfl) ran
  · simp only [moveItem, kind] at ran
    cases ran
    simp only [OrderItem.rows, kind]
    exact .refl _

theorem deductInventory_moved {items : List OrderItem}
    (ran : deductInventory catalog items mover store = .ok after) :
    Moved store after (items.flatMap (OrderItem.rows catalog mover .CONSUME store.described)) :=
  @Moved.foldlM store after OrderItem _
    (fun described => OrderItem.rows catalog mover .CONSUME described)
    (fun _ _ _ => moveItem_moved) items ran

theorem returnInventory_moved {items : List OrderItem}
    (ran : returnInventory catalog items mover store = .ok after) :
    Moved store after (items.flatMap (OrderItem.rows catalog mover .RETURN store.described)) :=
  @Moved.foldlM store after OrderItem _
    (fun described => OrderItem.rows catalog mover .RETURN described)
    (fun _ _ _ => moveItem_moved) items ran

end

end Lalaba.Pos
