import Lalaba.Pos.Returns

/-!
# Payments and the status they leave

A payment first sets the order paid, as a lock, then is checked and recorded; where
it is refused, the order is set unpaid again.  What other calls find in between says
nothing about money.  Apart from that, the status of an order is the sum of its
payments: at every moment one of four phases.  A call that writes over a payment it
has not read, or acts on the lock alone, leaves the phases.
-/

namespace Lalaba.Pos

open Foundation

/-! ## Phases -/

def Call.holds : Call → Bool
  | .payment .. => true
  | _ => false

def holding (calls : Multiset Call) : Multiset Call := calls.filter fun call => call.holds

def counted (status : TransactionStatus) (payments : List PosTransaction) :
    ℕ :=
  payments.countP fun row => row.status = status

theorem counted_append (status : TransactionStatus)
    (payments : List PosTransaction) (added : PosTransaction) :
    counted status (payments ++ [added]) =
      counted status payments + if added.status = status then 1 else 0 := by
  simp [counted, List.countP_append, List.countP_singleton]

section

variable {call : Call} (calls : Multiset Call)

theorem holding_cons (holds : call.holds = true) :
    holding (call ::ₘ calls) = call ::ₘ holding calls :=
  Multiset.filter_cons_of_pos _ holds

theorem holding_cons_of_not (free : call.holds = false) :
    holding (call ::ₘ calls) = holding calls :=
  Multiset.filter_cons_of_neg _ (by simp [free])

end

/--
What is paid and what is given back, by the status of the order and the payments
that hold it.
-/
inductive Ticket.Phase : PaymentStatus → LaundryStatus → ℕ → ℕ → Multiset Call → Prop where
  | unpaid (status : LaundryStatus) : Phase .unpaid status 0 0 0
  | held (status : LaundryStatus) (orderId : ObjectId) (uid : Uid)
      (input : ProcessPaymentInput) (user : User) (order : PosOrder)
      (known : status.calledOff = true → order.laundryStatus.calledOff = true) :
      Phase .paid status 0 0 {.payment orderId uid input user order}
  | paid (status : LaundryStatus) (standing : status.calledOff = false) : Phase .paid status 1 0 0
  | refunded : Phase .refunded .void 1 1 0

namespace Ticket.Phase

variable {payment : PaymentStatus} {laundry target : LaundryStatus}
  {completed refunded : ℕ} {holders remaining : Multiset Call}
  {orderId : ObjectId} {uid : Uid} {input : ProcessPaymentInput}
  {user : User} {order : PosOrder}

theorem lock
    (phase : Phase .unpaid order.laundryStatus completed refunded holders) :
    Phase .paid order.laundryStatus completed refunded
      (.payment orderId uid input user order ::ₘ holders) := by
  cases phase with
  | unpaid => exact .held _ orderId uid input user order id

theorem unlock (phase : Phase payment laundry completed refunded holders)
    (holds : holders = .payment orderId uid input user order ::ₘ remaining) :
    Phase .unpaid laundry completed refunded remaining := by
  cases phase with
  | unpaid | paid | refunded =>
    exact absurd holds.symm Multiset.cons_ne_zero
  | held =>
    rcases (Multiset.singleton_eq_cons_iff _).mp holds with ⟨_, rfl⟩
    exact .unpaid laundry

theorem record (phase : Phase payment laundry completed refunded holders)
    (holds : holders = .payment orderId uid input user order ::ₘ remaining)
    (accepted : order.laundryStatus.calledOff = false) :
    Phase payment laundry (completed + 1) refunded remaining := by
  cases phase with
  | unpaid | paid | refunded =>
    exact absurd holds.symm Multiset.cons_ne_zero
  | held status _ _ _ _ read known =>
    rcases (Multiset.singleton_eq_cons_iff _).mp holds with ⟨⟨⟩, rfl⟩
    refine .paid laundry ?_
    rw [Bool.eq_false_iff]
    intro calledOff
    rw [known calledOff] at accepted
    cases accepted

theorem move (phase : Phase payment laundry completed refunded holders)
    (standing : laundry.calledOff = false)
    (moves : target.calledOff = false) :
    Phase payment target completed refunded holders := by
  cases phase with
  | unpaid => exact .unpaid target
  | held _ orderId uid input user order =>
    refine .held target orderId uid input user order fun absurd => ?_
    rw [moves] at absurd
    cases absurd
  | paid => exact .paid target moves
  | refunded => cases standing

theorem cancel (phase : Phase payment laundry completed refunded holders)
    (standing : laundry.calledOff = false) (unpaid : payment ≠ .paid) :
    Phase payment .cancelled completed refunded holders := by
  cases phase with
  | unpaid => exact .unpaid _
  | held | paid => exact absurd rfl unpaid
  | refunded => cases standing

theorem void (phase : Phase payment laundry completed refunded holders)
    (standing : laundry.calledOff = false) (free : holders = 0) :
    Phase (if payment = .paid then .refunded else .unpaid) .void completed
      (refunded + if payment = .paid then 1 else 0) holders := by
  cases phase with
  | unpaid => exact .unpaid _
  | held => exact absurd free (Multiset.singleton_ne_zero _)
  | paid => exact .refunded
  | refunded => cases standing

theorem unpaid_of_standing
    (phase : Phase payment laundry completed refunded holders)
    (standing : laundry.calledOff = false) (unpaid : payment ≠ .paid) :
    payment = .unpaid := by
  cases phase with
  | unpaid => rfl
  | held | paid => exact absurd rfl unpaid
  | refunded => cases standing

end Ticket.Phase

def Call.callsOff : Call → Option PosOrder
  | .cancel _ order => some order
  | .void _ order => some order
  | _ => none

def Call.handsOut : Call → Bool
  | .pickup .. => true
  | _ => false

/--
An order is called off as it was read, and between payments; no status is written
over its being called off.
-/
def SettlesPayment (ticket : Ticket) (call : Call) : Prop :=
  SparesCalledOff ticket call ∧
    ∀ order ∈ call.callsOff, (holding ticket.calls).card = 0 ∧
      ∀ row ∈ ticket.row, row.paymentStatus = order.paymentStatus

def MindsPayment (ticket : Ticket) (call : Call) : Prop :=
  SettlesPayment ticket call ∧
    (call.handsOut = true → (holding ticket.calls).card = 0 ∧
      ∀ row ∈ ticket.row, row.paymentStatus = .paid)

instance (ticket : Ticket) (call : Call) :
    Decidable (SettlesPayment ticket call) :=
  inferInstanceAs (Decidable (SparesCalledOff ticket call ∧
    ∀ order ∈ call.callsOff, (holding ticket.calls).card = 0 ∧
      ∀ row ∈ ticket.row, row.paymentStatus = order.paymentStatus))

instance (ticket : Ticket) (call : Call) :
    Decidable (MindsPayment ticket call) :=
  inferInstanceAs (Decidable (SettlesPayment ticket call ∧
    (call.handsOut = true → (holding ticket.calls).card = 0 ∧
      ∀ row ∈ ticket.row, row.paymentStatus = .paid)))

/-! ## Every step keeps to a phase -/

theorem addNote_payment (label : String) (reason : Option String)
    (snapshot row : PosOrder) :
    (addNote label reason snapshot row).paymentStatus =
      row.paymentStatus := by
  rw [addNote]
  split <;> rfl

/--
The order is in a phase.  A cancellation has read an order that is not paid, and a
change of status makes it neither claimed nor called off.
-/
structure Ticket.Phased (ticket : Ticket) : Prop where
  fresh : ticket.row = none → ticket.payments = [] ∧ ticket.calls = 0
  phase : ∀ row ∈ ticket.row,
    Phase row.paymentStatus row.laundryStatus
      (counted .completed ticket.payments)
      (counted .refunded ticket.payments) (holding ticket.calls)
  unpaid : ∀ request order, .cancel request order ∈ ticket.calls → order.paymentStatus ≠ .paid
  moves : ∀ orderId uid target, .mark orderId uid target ∈ ticket.calls →
    target = .inProgress ∨ target = .ready

namespace Ticket

variable {catalog : Catalog} {described : ObjectId → Option Inventory}
  {orderId : ObjectId} {row changed : PosOrder}
  {payments paid : List PosTransaction} {movements moved : List Movement}
  {calls remaining : Multiset Call} {call : Call}
  {status : TransactionStatus}

namespace Phased

theorem checked {ticket after : Ticket} {label : Option Call}
    (phased : ticket.Phased)
    (stepped : Step catalog described orderId ticket label after) :
    (∀ request order, .cancel request order ∈ after.calls → order.paymentStatus ≠ .paid) ∧
    ∀ other uid target, .mark other uid target ∈ after.calls →
      target = .inProgress ∨ target = .ready := by
  refine ⟨?_, stepped.moves phased.moves⟩
  intro request order listed
  rcases stepped.kept _ listed with
    earlier | ⟨_, _, _, _, _, ⟨⟩⟩ | ⟨_, _, _, ⟨⟩⟩ | ⟨_, begun⟩
  · exact phased.unpaid request order earlier
  · cases begun with
    | cancel _ _ cancellable =>
      rw [assertCancellable] at cancellable
      split_ifs at cancellable
      assumption

/-- The phases follow every step of an order's machine. -/
theorem phase_step {ticket after : Ticket} {label : Option Call}
    (phased : ticket.Phased)
    (settles : ∀ call ∈ label, SettlesPayment ticket call)
    (stepped : Step catalog described orderId ticket label after) :
    ∀ row ∈ after.row,
      Phase row.paymentStatus row.laundryStatus
        (counted .completed after.payments)
        (counted .refunded after.payments) (holding after.calls) := by
  have known := phased.phase
  cases stepped with
  | created payments movements calls =>
    rcases phased.fresh rfl with ⟨unpaid, idle⟩
    dsimp only at unpaid idle
    subst unpaid idle
    rintro _ ⟨⟩
    exact .unpaid _
  | began row payments movements calls call begun =>
    rintro _ ⟨⟩
    rw [holding_cons_of_not calls (by cases begun <;> rfl)]
    exact known row rfl
  | locked row payments movements calls input user unpaid =>
    rintro _ ⟨⟩
    have before := known row rfl
    rw [unpaid] at before
    rw [holding_cons calls rfl]
    exact before.lock
  | refused row payments movements calls call transacts =>
    rcases row with _ | row
    · rintro _ ⟨⟩
    · rintro _ ⟨⟩
      have free : call.holds = false := by
        cases call with
        | payment => cases transacts
        | _ => rfl
      rw [← holding_cons_of_not calls free]
      exact known row rfl
  | marked row payments movements calls target =>
    rintro _ ⟨⟩
    have before := known row rfl
    rw [holding_cons_of_not calls (by rfl)] at before
    refine before.move ((settles _ rfl).1 rfl row rfl) ?_
    rcases phased.moves orderId row.uid target (Multiset.mem_cons_self _ _) with rfl | rfl <;> rfl
  | claimed row payments movements calls user now =>
    rintro _ ⟨⟩
    have before := known row rfl
    rw [holding_cons_of_not calls (by rfl)] at before
    exact before.move ((settles _ rfl).1 rfl row rfl) rfl
  | unlocked row payments movements calls input user order =>
    rintro _ ⟨⟩
    exact (known row rfl).unlock (holding_cons calls rfl)
  | recorded row payments movements calls input user order accepted =>
    rintro _ ⟨⟩
    have standing : order.laundryStatus.calledOff = false := by
      rw [paymentRefusal] at accepted
      split_ifs at accepted with calledOff
      exact Bool.eq_false_iff.mpr calledOff
    rw [counted_append, counted_append, holding_cons_of_not calls (by rfl)]
    exact (known row rfl).record (holding_cons calls rfl) standing
  | completed row payments movements calls order =>
    rintro _ ⟨⟩
    have before := known row rfl
    rw [holding_cons_of_not calls (by rfl)] at before
    split
    · rename_i completes
      exact before.move ((settles _ rfl).1 completes row rfl) rfl
    · exact before
  | cancelled row payments movements calls request order own =>
    rintro _ ⟨⟩
    have unpaid : row.paymentStatus ≠ .paid := by
      rw [((settles _ rfl).2 order rfl).2 row rfl]
      exact phased.unpaid request order (Multiset.mem_cons_self _ _)
    have before := known row rfl
    rw [holding_cons_of_not calls (by rfl)] at before
    rw [addNote_status, addNote_payment]
    exact before.cancel ((settles _ rfl).1 rfl row rfl) unpaid
  | voided row payments movements calls request order refunds own refund =>
    rintro _ ⟨⟩
    rcases (settles _ rfl).2 order rfl with ⟨free, same⟩
    have ended := (known row rfl).void ((settles _ rfl).1 rfl row rfl)
      (Multiset.card_eq_zero.mp free)
    rw [same row rfl, holding_cons_of_not calls (by rfl)] at ended
    rw [addNote_status, addNote_payment]
    by_cases paid : order.paymentStatus = .paid
    · simp only [if_pos paid] at ended ⊢
      rw [counted_append, counted_append, refund.1]
      exact ended
    · simp only [if_neg paid] at ended ⊢
      exact ended
  | addedOn row payments movements calls request order items own priced =>
    rintro _ ⟨⟩
    have before := known row rfl
    rw [holding_cons_of_not calls (by rfl)] at before
    rw [counted_append, counted_append]
    exact before

theorem step {ticket after : Ticket} {label : Option Call}
    (phased : ticket.Phased)
    (settles : ∀ call ∈ label, SettlesPayment ticket call)
    (stepped : Step catalog described orderId ticket label after) :
    after.Phased where
  fresh := by
    intro absent
    cases stepped with
    | refused =>
      rcases phased.fresh absent with ⟨_, idle⟩
      exact absurd idle Multiset.cons_ne_zero
    | _ => cases absent
  phase := phased.phase_step settles stepped
  unpaid := (phased.checked stepped).1
  moves := (phased.checked stepped).2

end Phased

end Ticket

def Ticket.HandedOut (ticket : Ticket) : Prop :=
  ∀ row ∈ ticket.row, row.laundryStatus = .claimed → 0 < counted .completed ticket.payments

theorem Ticket.Phase.completed_of_paid {laundry : LaundryStatus}
    {completed refunded : ℕ} {holders : Multiset Call}
    (phase : Phase .paid laundry completed refunded holders)
    (free : holders = 0) :
    completed = 1 ∧ refunded = 0 ∧ laundry.calledOff = false := by
  cases phase with
  | held => exact absurd free (Multiset.singleton_ne_zero _)
  | paid _ standing => exact ⟨rfl, rfl, standing⟩

theorem Ticket.HandedOut.step {catalog : Catalog}
    {described : ObjectId → Option Inventory} {orderId : ObjectId}
    {ticket after : Ticket} {label : Option Call}
    (handed : ticket.HandedOut) (phased : ticket.Phased)
    (minds : ∀ call ∈ label, MindsPayment ticket call)
    (stepped : Step catalog described orderId ticket label after) :
    after.HandedOut := by
  cases stepped with
  | created =>
    rintro _ ⟨⟩ ⟨⟩
  | cancelled | voided =>
    rintro _ ⟨⟩ claimed
    rw [addNote_status] at claimed
    cases claimed
  | began row | locked row | unlocked row =>
    rintro _ ⟨⟩ claimed
    exact handed row rfl claimed
  | refused row payments movements calls call transacts =>
    exact handed
  | marked row payments movements calls target =>
    rintro _ ⟨⟩ claimed
    dsimp only at claimed
    subst claimed
    rcases phased.moves orderId row.uid .claimed
      (Multiset.mem_cons_self _ _) with is | is <;> cases is
  | claimed row payments movements calls user now =>
    rintro _ ⟨⟩ _
    rcases (minds _ rfl).2 rfl with ⟨free, paid⟩
    have before := phased.phase row rfl
    rw [paid row rfl] at before
    rw [(before.completed_of_paid (Multiset.card_eq_zero.mp free)).1]
    exact one_pos
  | completed row payments movements calls order =>
    rintro _ ⟨⟩ claimed
    split at claimed
    · cases claimed
    · exact handed row rfl claimed
  | recorded row | addedOn row =>
    rintro _ ⟨⟩ claimed
    rw [counted_append]
    exact Nat.add_pos_left (handed row rfl claimed) _

/--
In every run in which an order is called off as it was read and between payments,
handed out when it is paid and not only locked, and no status is written over its
being called off, the status of an order that nobody is working on is the sum of
its payments.
-/
theorem paymentStatusIsTrue (catalog : Catalog)
    (inventory : Collection Inventory) (orderId : ObjectId) (state : State)
    (row : PosOrder)
    (reached : (posSystem catalog).Reaches
      (Allowing orderId MindsPayment) (State.start inventory) state)
    (found : state.store.orders.lookup orderId = some row)
    (idle : (state.ticket orderId).calls = 0) :
    (row.paymentStatus = .paid ↔
      counted .completed (state.ticket orderId).payments = 1 ∧
        counted .refunded (state.ticket orderId).payments = 0) ∧
    (row.paymentStatus = .refunded →
      counted .completed (state.ticket orderId).payments = 1 ∧
        counted .refunded (state.ticket orderId).payments = 1) ∧
    (row.laundryStatus = .claimed → 0 < counted .completed (state.ticket orderId).payments) ∧
    (row.laundryStatus = .cancelled → counted .completed (state.ticket orderId).payments = 0) := by
  have known : (state.ticket orderId).Phased ∧ (state.ticket orderId).HandedOut := by
    refine ticket_invariant
      (fun ticket => ticket.Phased ∧ ticket.HandedOut)
      ⟨⟨fun _ => ⟨rfl, rfl⟩, by rintro _ ⟨⟩, by rintro _ _ ⟨⟩,
        by rintro _ _ _ ⟨⟩⟩, by rintro _ ⟨⟩⟩ ?_ reached
    intro ticket label after before minds stepped
    exact ⟨before.1.step (fun call listed => (minds call listed).1) stepped,
      before.2.step before.1 minds stepped⟩
  have phase := known.1.phase row found
  have handed := known.2 row found
  rw [idle] at phase
  generalize counted .completed (state.ticket orderId).payments = completed at phase handed ⊢
  generalize counted .refunded (state.ticket orderId).payments = refunded at phase ⊢
  generalize row.paymentStatus = payment at phase ⊢
  generalize row.laundryStatus = laundry at phase handed ⊢
  generalize held : holding 0 = holders at phase
  cases phase with
  | unpaid => exact ⟨by simp, by simp, handed, fun _ => rfl⟩
  | held => exact absurd held (Multiset.singleton_ne_zero _).symm
  | paid _ standing =>
    refine ⟨by simp, by simp, handed, fun cancelled => ?_⟩
    rw [cancelled] at standing
    cases standing
  | refunded => exact ⟨by simp, by simp, handed, by simp⟩

/-- An order that is paid at the counter. -/
theorem paymentStatusIsTrue_paid :
    ∃ state row,
      (posSystem Counter.catalog).Reaches (Allowing "order" MindsPayment)
          (State.start (Counter.shelf 5)) state ∧
        state.store.orders.lookup "order" = some row ∧
        (state.ticket "order").calls = 0 ∧
        row.paymentStatus = .paid ∧
        ((row.paymentStatus = .paid ↔
          counted .completed (state.ticket "order").payments = 1 ∧
            counted .refunded (state.ticket "order").payments = 0) ∧
        (row.paymentStatus = .refunded →
          counted .completed (state.ticket "order").payments = 1 ∧
            counted .refunded (state.ticket "order").payments = 1) ∧
        (row.laundryStatus = .claimed → 0 < counted .completed (state.ticket "order").payments) ∧
        (row.laundryStatus = .cancelled →
          counted .completed (state.ticket "order").payments = 0)) := by
  have performed :
      (((posSystem Counter.catalog).restrict
          (Allowing "order" MindsPayment)).perform
        (Counter.sale 1 none ++ Counter.payment)
        (State.start (Counter.shelf 5))).bind (fun state =>
          (state.store.orders.lookup "order").map fun row =>
            (row.paymentStatus, (state.ticket "order").calls.card)) =
        some (.paid, 0) := by
    decide +kernel
  rcases System.reaches_of_bind_restrict performed with ⟨state, reached, seen⟩
  rcases Option.map_eq_some_iff.mp seen with ⟨row, found, facts⟩
  rcases Prod.mk.inj facts with ⟨paid, calls⟩
  have idle := Multiset.card_eq_zero.mp calls
  exact ⟨state, row, reached, found, idle, paid,
    paymentStatusIsTrue Counter.catalog (Counter.shelf 5) "order" state row reached found idle⟩

/-- A cancellation has read an unpaid order, which is paid before it commits. -/
theorem paidOrderCancelled :
    ¬ ∀ (catalog : Catalog) (inventory : Collection Inventory)
        (orderId : ObjectId) (state : State) (row : PosOrder),
        (posSystem catalog).Reaches (fun _ _ => True)
            (State.start inventory) state →
          state.store.orders.lookup orderId = some row →
          (state.ticket orderId).calls = 0 →
          (row.paymentStatus = .paid ↔
            counted .completed (state.ticket orderId).payments = 1 ∧
              counted .refunded (state.ticket orderId).payments = 0) ∧
          (row.paymentStatus = .refunded →
            counted .completed (state.ticket orderId).payments = 1 ∧
              counted .refunded (state.ticket orderId).payments = 1) ∧
          (row.laundryStatus = .claimed → 0 < counted .completed (state.ticket orderId).payments) ∧
          (row.laundryStatus = .cancelled →
            counted .completed (state.ticket orderId).payments = 0) := by
  intro always
  have performed :
      ((posSystem Counter.catalog).perform (Counter.sale 1 none ++
          [ .cancelOrder Counter.callOff,
            .processPayment "order" "shop" (Counter.cash 10) Counter.owner,
            Counter.proceeds 1,
            Counter.proceeds 1,
            Counter.proceeds 0 ])
        (State.start (Counter.shelf 5))).bind (fun state =>
          (state.store.orders.lookup "order").map fun row =>
            (row.laundryStatus, (state.ticket "order").calls.card,
              counted .completed (state.ticket "order").payments)) =
        some (.cancelled, 0, 1) := by
    decide +kernel
  rcases System.reaches_of_bind performed with ⟨state, ran, seen⟩
  rcases Option.map_eq_some_iff.mp seen with ⟨row, found, facts⟩
  rcases Prod.mk.inj facts with ⟨cancelled, facts⟩
  rcases Prod.mk.inj facts with ⟨calls, completed⟩
  have nothing := (always Counter.catalog (Counter.shelf 5) "order" state
    row ran found
    (Multiset.card_eq_zero.mp calls)).2.2.2 cancelled
  rw [completed] at nothing
  cases nothing

end Lalaba.Pos
