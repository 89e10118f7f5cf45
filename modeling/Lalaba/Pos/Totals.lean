import Lalaba.Pos.Returns

/-!
# Totals and lines

The total of an order is its subtotal less its discount, in every run.  Its subtotal
is the sum of its lines until items are added to it from an older subtotal: they are
pushed onto the lines there are, and the subtotal is computed from the order as the
call has read it.
-/

namespace Lalaba.Pos

open Foundation

/-! ## The price of an order -/

def PosOrder.lines (row : PosOrder) : ℚ := (row.items.map OrderItem.subtotal).sum

theorem calculateDiscount_nonneg {subtotal : ℚ} (positive : 0 ≤ subtotal)
    (discountType : Option DiscountType) (discountValue : Option ℚ≥0) :
    0 ≤ calculateDiscount subtotal discountType discountValue := by
  unfold calculateDiscount
  split
  · exact le_min (NNRat.coe_nonneg _) positive
  · rename_i value
    have percent : (0 : ℚ) ≤ min (value : ℚ) 100 := le_min (NNRat.coe_nonneg _) (by norm_num)
    have rounded := Orders.roundCentavos_nonneg
      (mul_nonneg (mul_nonneg positive (div_nonneg percent
        (by norm_num : (0 : ℚ) ≤ 100))) (by norm_num : (0 : ℚ) ≤ 100))
    refine le_min (div_nonneg ?_ (by norm_num)) positive
    exact_mod_cast rounded
  · exact le_refl _

theorem calculateDiscount_le {subtotal : ℚ} (positive : 0 ≤ subtotal)
    (discountType : Option DiscountType) (discountValue : Option ℚ≥0) :
    calculateDiscount subtotal discountType discountValue ≤ subtotal := by
  unfold calculateDiscount
  split
  · exact min_le_right _ _
  · exact min_le_right _ _
  · exact positive

theorem lines_nonneg {items : List OrderItem}
    (priced : ∀ item ∈ items, 0 ≤ item.subtotal) :
    0 ≤ (items.map OrderItem.subtotal).sum := by
  apply List.sum_nonneg
  intro amount listed
  rcases List.mem_map.mp listed with ⟨item, member, rfl⟩
  exact priced item member

/--
The subtotal is the sum of the lines, and the total the subtotal less a discount
that it covers.
-/
structure PosOrder.Totalled (row : PosOrder) : Prop where
  lines : row.subtotal = row.lines
  total : row.totalAmount = row.subtotal - row.discount
  given : 0 ≤ row.discount
  covered : row.discount ≤ row.subtotal

/-- Orders that agree in what they cost. -/
structure PosOrder.SamePrice (row changed : PosOrder) : Prop where
  lines : changed.lines = row.lines
  subtotal : changed.subtotal = row.subtotal
  discount : changed.discount = row.discount
  total : changed.totalAmount = row.totalAmount

namespace PosOrder

variable {row changed : PosOrder}

theorem SamePrice.refl (row : PosOrder) : row.SamePrice row := ⟨rfl, rfl, rfl, rfl⟩

theorem SamePrice.totalled (same : row.SamePrice changed)
    (totalled : row.Totalled) : changed.Totalled where
  lines := by
    rw [same.subtotal, same.lines]
    exact totalled.lines
  total := by
    rw [same.total, same.subtotal, same.discount]
    exact totalled.total
  given := by
    rw [same.discount]
    exact totalled.given
  covered := by
    rw [same.discount, same.subtotal]
    exact totalled.covered

theorem samePrice_addNote (label : String) (reason : Option String)
    (snapshot row : PosOrder) :
    row.SamePrice (addNote label reason snapshot row) := by
  rw [addNote]
  split
  · exact .refl row
  · exact ⟨rfl, rfl, rfl, rfl⟩

theorem SamePrice.trans {middle : PosOrder}
    (first : row.SamePrice middle) (second : middle.SamePrice changed) :
    row.SamePrice changed where
  lines := second.lines.trans first.lines
  subtotal := second.subtotal.trans first.subtotal
  discount := second.discount.trans first.discount
  total := second.total.trans first.total

end PosOrder

theorem newOrder_totalled {input : CreateOrderInput} {user : User}
    {claimCode : String} {items : List OrderItem}
    (priced : ∀ item ∈ items, 0 ≤ item.subtotal) :
    (newOrder input user claimCode items (items.map OrderItem.subtotal).sum).Totalled where
  lines := rfl
  total := rfl
  given := calculateDiscount_nonneg (lines_nonneg priced) _ _
  covered := calculateDiscount_le (lines_nonneg priced) _ _

/-! ## Totals along a run -/

def Call.addsTo : Call → Option PosOrder
  | .addOn _ order => some order
  | _ => none

def AddsToSubtotal (ticket : Ticket) (call : Call) : Prop :=
  ∀ order ∈ call.addsTo, ∀ row ∈ ticket.row, order.subtotal = row.subtotal

instance (ticket : Ticket) (call : Call) :
    Decidable (AddsToSubtotal ticket call) :=
  inferInstanceAs (Decidable (∀ order ∈ call.addsTo, ∀ row ∈ ticket.row,
    order.subtotal = row.subtotal))

/--
The order is totalled, and a call in flight has read the discount that it has had
from the start.
-/
structure Ticket.Totalled (ticket : Ticket) : Prop where
  fresh : ticket.row = none → ticket.calls = 0
  row : ∀ row ∈ ticket.row, row.Totalled
  read : ∀ row ∈ ticket.row, ∀ call ∈ ticket.calls, ∀ order ∈ call.read,
    order.discount = row.discount

namespace Ticket.Totalled

variable {catalog : Catalog} {described : ObjectId → Option Inventory}
  {orderId : ObjectId} {row changed : PosOrder}
  {payments paid : List PosTransaction} {movements moved : List Movement}
  {calls remaining : Multiset Call}

theorem update
    (totalled : Totalled ⟨some row, payments, movements, calls⟩)
    (priced : changed.Totalled) (discount : changed.discount = row.discount)
    (reads : ∀ call ∈ remaining, ∀ order ∈ call.read,
      some row = some order ∨ ∃ earlier ∈ calls, earlier.read = some order) :
    Totalled ⟨some changed, paid, moved, remaining⟩ where
  fresh := by rintro ⟨⟩
  row := by
    rintro _ ⟨⟩
    exact priced
  read := by
    rintro _ ⟨⟩ call listed order reading
    rw [discount]
    rcases reads call listed order reading with ⟨⟨⟩⟩ | ⟨earlier, flying, held⟩
    · rfl
    · exact totalled.read row rfl earlier flying order held

theorem keep
    (totalled : Totalled ⟨some row, payments, movements, calls⟩)
    (same : row.SamePrice changed)
    (reads : ∀ call ∈ remaining, ∀ order ∈ call.read,
      some row = some order ∨ ∃ earlier ∈ calls, earlier.read = some order) :
    Totalled ⟨some changed, paid, moved, remaining⟩ :=
  totalled.update (same.totalled (totalled.row row rfl)) same.discount reads

theorem step {ticket after : Ticket} {label : Option Call}
    (totalled : ticket.Totalled)
    (adds : ∀ call ∈ label, AddsToSubtotal ticket call)
    (stepped : Step catalog described orderId ticket label after) :
    after.Totalled := by
  have reads := stepped.reads
  cases stepped with
  | created payments movements calls claimCode input user items priced =>
    have idle := totalled.fresh rfl
    dsimp only at idle
    subst idle
    constructor
    · rintro ⟨⟩
    · rintro _ ⟨⟩
      exact newOrder_totalled priced
    · rintro _ _ call ⟨⟩
  | began | locked | unlocked | recorded | marked | claimed =>
    exact totalled.keep ⟨rfl, rfl, rfl, rfl⟩ reads
  | refused row payments movements calls call =>
    rcases row with _ | row
    · exact absurd (totalled.fresh rfl) Multiset.cons_ne_zero
    · exact totalled.keep (.refl row) reads
  | completed row =>
    refine totalled.keep ?_ reads
    split
    · exact ⟨rfl, rfl, rfl, rfl⟩
    · exact .refl row
  | cancelled | voided =>
    refine totalled.keep ?_ reads
    apply PosOrder.SamePrice.trans _ (PosOrder.samePrice_addNote _ _ _ _)
    exact ⟨rfl, rfl, rfl, rfl⟩
  | addedOn row payments movements calls request order items own priced =>
    have before := totalled.row row rfl
    have current : order.subtotal = row.subtotal := adds _ rfl order rfl row rfl
    have discount : order.discount = row.discount :=
      totalled.read row rfl _ (Multiset.mem_cons_self _ _) order rfl
    refine totalled.update ⟨?_, ?_, ?_, ?_⟩ rfl reads
    · show order.subtotal + (items.map OrderItem.subtotal).sum =
        ((row.items ++ items).map OrderItem.subtotal).sum
      rw [List.map_append, List.sum_append, current, before.lines]
      rfl
    · show _ - order.discount = _ - row.discount
      rw [discount]
    · exact before.given
    · show row.discount ≤ order.subtotal + (items.map OrderItem.subtotal).sum
      rw [current]
      exact le_add_of_le_of_nonneg before.covered (lines_nonneg priced)

end Ticket.Totalled

/--
In every run in which items are added to an order only while its subtotal is the one
that was read, the totals of the order match its lines.
-/
theorem totalsMatchLines (catalog : Catalog)
    (inventory : Collection Inventory) (orderId : ObjectId) (state : State)
    (row : PosOrder)
    (reached : (posSystem catalog).Reaches
      (Allowing orderId AddsToSubtotal) (State.start inventory) state)
    (found : state.store.orders.lookup orderId = some row) :
    row.subtotal = (row.items.map OrderItem.subtotal).sum ∧
      row.totalAmount = row.subtotal - row.discount ∧
      0 ≤ row.discount ∧ row.discount ≤ row.subtotal := by
  have totalled := ticket_invariant Ticket.Totalled
    ⟨fun _ => rfl, by rintro _ ⟨⟩, by rintro _ ⟨⟩⟩
    (fun _ _ _ totalled adds stepped => totalled.step adds stepped) reached
  have priced := totalled.row row found
  exact ⟨priced.lines, priced.total, priced.given, priced.covered⟩

/-- An order with one add-on has a subtotal of both. -/
theorem totalsMatchLines_addedOn :
    ∃ state row,
      (posSystem Counter.catalog).Reaches
          (Allowing "order" AddsToSubtotal)
          (State.start (Counter.shelf 5)) state ∧
        state.store.orders.lookup "order" = some row ∧
        row.items.length = 2 ∧
        (row.subtotal = (row.items.map OrderItem.subtotal).sum ∧
          row.totalAmount = row.subtotal - row.discount ∧
          0 ≤ row.discount ∧ row.discount ≤ row.subtotal) := by
  have performed :
      (((posSystem Counter.catalog).restrict
          (Allowing "order" AddsToSubtotal)).perform
        (Counter.sale 1 none ++ Counter.payment ++
          [.addOrderItems (Counter.addOn 1), Counter.proceeds 0])
        (State.start (Counter.shelf 5))).bind (fun state =>
          (state.store.orders.lookup "order").map fun row =>
            row.items.length) = some 2 := by
    decide +kernel
  rcases System.reaches_of_bind_restrict performed with ⟨state, reached, seen⟩
  rcases Option.map_eq_some_iff.mp seen with ⟨row, found, lines⟩
  exact ⟨state, row, reached, found, lines,
    totalsMatchLines Counter.catalog (Counter.shelf 5) "order" state row reached found⟩

/-- Two add-ons have read one subtotal: the second forgets the first. -/
theorem addOnForgotten :
    ¬ ∀ (catalog : Catalog) (inventory : Collection Inventory)
        (orderId : ObjectId) (state : State) (row : PosOrder),
        (posSystem catalog).Reaches (fun _ _ => True)
            (State.start inventory) state →
          state.store.orders.lookup orderId = some row →
          row.subtotal = (row.items.map OrderItem.subtotal).sum ∧
            row.totalAmount = row.subtotal - row.discount ∧
            0 ≤ row.discount ∧ row.discount ≤ row.subtotal := by
  intro always
  have performed :
      ((posSystem Counter.catalog).perform (Counter.sale 1 none ++ Counter.payment ++
          [ .addOrderItems (Counter.addOn 1), .addOrderItems (Counter.addOn 1),
            Counter.proceeds 0, Counter.proceeds 0 ])
        (State.start (Counter.shelf 5))).bind (fun state =>
          (state.store.orders.lookup "order").map fun row =>
            (row.subtotal, (row.items.map OrderItem.subtotal).sum)) =
        some (20, 30) := by
    decide +kernel
  rcases System.reaches_of_bind performed with ⟨state, ran, seen⟩
  rcases Option.map_eq_some_iff.mp seen with ⟨row, found, sums⟩
  rcases Prod.mk.inj sums with ⟨subtotal, lines⟩
  have matched := (always Counter.catalog (Counter.shelf 5) "order" state row ran found).1
  rw [subtotal, lines] at matched
  exact absurd matched (by decide +kernel)

end Lalaba.Pos
