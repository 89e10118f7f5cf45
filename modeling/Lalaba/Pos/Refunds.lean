import Lalaba.Pos.Payments
import Lalaba.Pos.Totals

/-!
# What a refund gives back

A void refunds what the order came to when the call read it.  That is what has been
taken for the order as long as the total of the order is the sum of its payments,
and the total that was read is the one it still has.
-/

namespace Lalaba.Pos

open Foundation

/-! ## Money taken and given back -/

def PosTransaction.takes (row : PosTransaction) : Bool :=
  row.status = .completed ∨ row.status = .addOn

def taken (payments : List PosTransaction) : ℚ :=
  ((payments.filter PosTransaction.takes).map PosTransaction.totalAmount).sum

def refunds (payments : List PosTransaction) : List PosTransaction :=
  payments.filter fun row => row.status = .refunded

theorem taken_append (payments : List PosTransaction)
    (added : PosTransaction) :
    taken (payments ++ [added]) =
      taken payments + if added.takes then added.totalAmount else 0 := by
  rw [taken, List.filter_append, List.map_append, List.sum_append, taken]
  by_cases takes : added.takes = true <;> simp [takes]

theorem refunds_append (payments : List PosTransaction)
    (added : PosTransaction) :
    refunds (payments ++ [added]) =
      refunds payments ++
        if added.status = .refunded then [added] else [] := by
  rw [refunds, List.filter_append, refunds]
  by_cases refunded : added.status = .refunded <;> simp [refunded]

/--
What has been taken, by the status of the order, its total, and the payments that
hold it.
-/
inductive Collected : PaymentStatus → ℚ → ℚ → List PosTransaction → Multiset Call → Prop where
  | unpaid (total : ℚ) : Collected .unpaid total 0 [] 0
  | held (orderId : ObjectId) (uid : Uid) (input : ProcessPaymentInput)
      (user : User) (order : PosOrder) :
      Collected .paid order.totalAmount 0 [] {.payment orderId uid input user order}
  | paid (total : ℚ) : Collected .paid total total [] 0
  | refunded (total : ℚ) (refund : PosTransaction) :
      Collected .refunded total refund.totalAmount [refund] 0

namespace Collected

variable {payment : PaymentStatus} {total sum : ℚ}
  {given : List PosTransaction} {holders remaining : Multiset Call}
  {orderId : ObjectId} {uid : Uid} {input : ProcessPaymentInput}
  {user : User} {order : PosOrder}

theorem lock (collected : Collected .unpaid order.totalAmount sum given holders) :
    Collected .paid order.totalAmount sum given
      (.payment orderId uid input user order ::ₘ holders) := by
  cases collected with
  | unpaid => exact .held orderId uid input user order

theorem unlock (collected : Collected payment total sum given holders)
    (holds : holders = .payment orderId uid input user order ::ₘ remaining) :
    Collected .unpaid total sum given remaining := by
  cases collected with
  | unpaid | paid | refunded =>
    exact absurd holds.symm Multiset.cons_ne_zero
  | held =>
    rcases (Multiset.singleton_eq_cons_iff _).mp holds with ⟨_, rfl⟩
    exact .unpaid _

theorem record (collected : Collected payment total sum given holders)
    (holds : holders = .payment orderId uid input user order ::ₘ remaining) :
    Collected payment total (sum + order.totalAmount) given remaining := by
  cases collected with
  | unpaid | paid | refunded =>
    exact absurd holds.symm Multiset.cons_ne_zero
  | held =>
    rcases (Multiset.singleton_eq_cons_iff _).mp holds with ⟨⟨⟩, rfl⟩
    rw [zero_add]
    exact .paid _

theorem add (collected : Collected .paid total sum given holders)
    (free : holders = 0) (more : ℚ) :
    Collected .paid (total + more) (sum + more) given holders := by
  cases collected with
  | held => exact absurd free (Multiset.singleton_ne_zero _)
  | paid => exact .paid _

theorem refund (collected : Collected .paid total sum given holders)
    (free : holders = 0) {row : PosTransaction}
    (whole : row.totalAmount = total) :
    Collected .refunded total sum (given ++ [row]) holders := by
  cases collected with
  | held => exact absurd free (Multiset.singleton_ne_zero _)
  | paid =>
    rw [← whole]
    exact .refunded _ row

end Collected

/--
An order is called off as it was read and between payments, with the total that was
read; items are added to an order that is paid and has the subtotal that was read.
-/
def MindsRefund (ticket : Ticket) (call : Call) : Prop :=
  SettlesPayment ticket call ∧
    (∀ order ∈ call.callsOff, order.paymentStatus = .paid →
      ∀ row ∈ ticket.row, row.totalAmount = order.totalAmount) ∧
    ∀ order ∈ call.addsTo, (holding ticket.calls).card = 0 ∧
      ∀ row ∈ ticket.row, row.paymentStatus = .paid ∧ order.subtotal = row.subtotal

instance (ticket : Ticket) (call : Call) :
    Decidable (MindsRefund ticket call) :=
  inferInstanceAs (Decidable (SettlesPayment ticket call ∧
    (∀ order ∈ call.callsOff, order.paymentStatus = .paid →
      ∀ row ∈ ticket.row, row.totalAmount = order.totalAmount) ∧
    ∀ order ∈ call.addsTo, (holding ticket.calls).card = 0 ∧
      ∀ row ∈ ticket.row, row.paymentStatus = .paid ∧ order.subtotal = row.subtotal))

/-- The order has been paid by the sum of its payments. -/
structure Ticket.Balanced (ticket : Ticket) : Prop where
  phased : ticket.Phased
  totalled : ticket.Totalled
  collected : ∀ row ∈ ticket.row,
    Collected row.paymentStatus row.totalAmount (taken ticket.payments)
      (refunds ticket.payments) (holding ticket.calls)

namespace Ticket.Balanced

variable {catalog : Catalog} {described : ObjectId → Option Inventory}
  {orderId : ObjectId} {ticket after : Ticket} {label : Option Call}

theorem collected_step (balanced : ticket.Balanced)
    (minds : ∀ call ∈ label, MindsRefund ticket call)
    (stepped : Step catalog described orderId ticket label after) :
    ∀ row ∈ after.row,
      Collected row.paymentStatus row.totalAmount (taken after.payments)
        (refunds after.payments) (holding after.calls) := by
  have known := balanced.collected
  cases stepped with
  | created payments movements calls =>
    rcases balanced.phased.fresh rfl with ⟨unpaid, idle⟩
    dsimp only at unpaid idle
    subst unpaid idle
    rintro _ ⟨⟩
    exact .unpaid _
  | began row payments movements calls call begun =>
    rintro _ ⟨⟩
    rw [holding_cons_of_not calls (by cases begun <;> rfl)]
    exact known row rfl
  | locked row payments movements calls input user unpaid =>
    rintro _ ⟨⟩
    have before := known row rfl
    rw [unpaid] at before
    rw [holding_cons calls rfl]
    exact before.lock
  | refused row payments movements calls call transacts =>
    intro row found
    have free : call.holds = false := by
      cases call with
      | payment => cases transacts
      | _ => rfl
    rw [← holding_cons_of_not calls free]
    exact known row found
  | marked row _ _ calls | claimed row _ _ calls =>
    rintro _ ⟨⟩
    have before := known row rfl
    rw [holding_cons_of_not calls (by rfl)] at before
    exact before
  | unlocked row payments movements calls =>
    rintro _ ⟨⟩
    exact (known row rfl).unlock (holding_cons calls rfl)
  | recorded row payments movements calls input user order accepted =>
    rintro _ ⟨⟩
    rw [taken_append, refunds_append, holding_cons_of_not calls (by rfl)]
    have after := (known row rfl).record (holding_cons calls rfl)
    rw [← List.append_nil (refunds payments)] at after
    exact after
  | completed row payments movements calls order =>
    rintro _ ⟨⟩
    have before := known row rfl
    rw [holding_cons_of_not calls (by rfl)] at before
    split <;> exact before
  | cancelled row payments movements calls request order own =>
    rintro _ ⟨⟩
    have before := known row rfl
    rw [holding_cons_of_not calls (by rfl)] at before
    rw [addNote_payment, (PosOrder.samePrice_addNote _ _ _ _).total]
    exact before
  | voided row payments movements calls request order refunds own refund =>
    rintro _ ⟨⟩
    rcases minds _ rfl with ⟨settles, whole, _⟩
    rcases settles.2 order rfl with ⟨free, same⟩
    have before := known row rfl
    rw [holding_cons_of_not calls (by rfl), same row rfl] at before
    rw [addNote_payment, (PosOrder.samePrice_addNote _ _ _ _).total]
    by_cases paid : order.paymentStatus = .paid
    · rw [paid] at before
      simp only [if_pos paid]
      rw [taken_append, refunds_append, PosTransaction.takes, refund.1]
      have ended := before.refund (Multiset.card_eq_zero.mp (by
          rwa [holding_cons_of_not calls (by rfl)] at free))
        (refund.2.trans (whole order rfl paid row rfl).symm)
      simpa using ended
    · have unpaid : order.paymentStatus = .unpaid := by
        rw [← same row rfl]
        exact (balanced.phased.phase row rfl).unpaid_of_standing
          (settles.1 rfl row rfl) (by rwa [same row rfl])
      rw [unpaid] at before
      simp only [if_neg paid]
      exact before
  | addedOn row payments movements calls request order items own priced =>
    rintro _ ⟨⟩
    rcases (minds _ rfl).2.2 order rfl with ⟨free, current⟩
    rcases current row rfl with ⟨paid, subtotal⟩
    dsimp only at free
    rw [holding_cons_of_not calls (by rfl)] at free
    have before := known row rfl
    have discount : order.discount = row.discount :=
      balanced.totalled.read row rfl _ (Multiset.mem_cons_self _ _) order rfl
    have total : order.subtotal + (items.map OrderItem.subtotal).sum -
          order.discount =
        row.totalAmount + (items.map OrderItem.subtotal).sum := by
      rw [(balanced.totalled.row row rfl).total, subtotal, discount]
      ring
    rw [paid, holding_cons_of_not calls (by rfl)] at before
    have added := before.add (Multiset.card_eq_zero.mp free) (items.map OrderItem.subtotal).sum
    rw [taken_append, refunds_append]
    rw [← List.append_nil (refunds payments)] at added
    dsimp only
    rw [paid, total]
    exact added

theorem step (balanced : ticket.Balanced)
    (minds : ∀ call ∈ label, MindsRefund ticket call)
    (stepped : Step catalog described orderId ticket label after) :
    after.Balanced where
  phased := balanced.phased.step (fun call listed => (minds call listed).1) stepped
  totalled := balanced.totalled.step (fun call listed order adds row found =>
      (((minds call listed).2.2 order adds).2 row found).2) stepped
  collected := balanced.collected_step minds stepped

end Ticket.Balanced

end Lalaba.Pos
