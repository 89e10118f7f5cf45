import Lalaba.Foundation.Ledger
import Lalaba.Orders.System

/-!
# The account of an order

What an order stands for in the abstract: where it is, what its customer owes
and has paid, and what its provider has been debited.  Every transaction of the
service is a list of moves on this account.  Money claims about orders are
claims about moves; that the callbacks perform these moves and no others is
shown later.
-/

namespace Lalaba.Orders

open Foundation
open Wallets

/-- The part of an account that the row of the order holds. -/
structure Standing where
  status : OrderStatus
  version : ℕ
  pickupMode : FulfillmentPickupMode
  due : ℚ
  collected : ℚ
  owed : ℤ
  consumed : ℤ
deriving DecidableEq

/-- An order's standing, and what the rows about it add up to. -/
structure Account extends Standing where
  debited : ℤ
  received : ℚ

def OnlineOrder.standing (order : OnlineOrder) : Standing where
  status := order.status
  version := order.version
  pickupMode := order.fulfillment.pickupMode
  due := order.pricing.dueCentavos
  collected := order.paymentSummary.collectedCentavos
  owed := order.pricing.chargeablePlatformFeeCentavos
  consumed := order.pricing.consumedCentavos

def orderLedgerTotal (orderId : ObjectId) (wallets : WalletStore) : ℤ :=
  Ledger.total WalletLedgerEntry.orderId WalletLedgerEntry.amountCentavos
    (some orderId) wallets.ledger

def orderReceipts (orderId : ObjectId) (database : Database) : ℚ :=
  Ledger.total OnlineTransaction.orderId OnlineTransaction.amountCentavos
    orderId database.transactions

def Database.account (orderId : ObjectId) (database : Database) :
    Option Account :=
  (database.orders.lookup orderId).map fun row =>
    { toStanding := row.standing
      debited := -orderLedgerTotal orderId database.wallets
      received := orderReceipts orderId database }

/-! ## Moves -/

/-- One change of an account. -/
inductive Move where
  | reprice (due : ℚ) (owed : ℤ)
  | settleFee
  | reverseFee
  | collect (amount : ℚ)
  | transition (target : OrderStatus)

namespace Account

def reprice (due : ℚ) (owed : ℤ) (account : Account) : Account := { account with due, owed }

def settleFee (account : Account) : Account :=
  { account with
    debited := account.debited + (account.owed - account.consumed)
    consumed := account.owed }

def reverseFee (account : Account) : Account :=
  { account with
    debited := account.debited - account.consumed
    consumed := 0 }

def collect (amount : ℚ) (account : Account) : Account :=
  { account with
    collected := account.collected + amount
    received := account.received + amount }

def moveTo (target : OrderStatus) (account : Account) : Account :=
  { account with
    status := target
    version := account.version + 1 }

def make (move : Move) (account : Account) : Option Account :=
  match move with
  | .reprice due owed => some (account.reprice due owed)
  | .settleFee => some account.settleFee
  | .reverseFee => some account.reverseFee
  | .collect amount => some (account.collect amount)
  | .transition target =>
    if target ∈ account.status.transitions then
      some (account.moveTo target)
    else
      none

def makeAll (moves : List Move) (account : Account) : Option Account :=
  moves.foldlM (fun account move => account.make move) account

@[simp]
theorem makeAll_nil (account : Account) :
    account.makeAll [] = some account :=
  rfl

@[simp]
theorem makeAll_cons (move : Move) (moves : List Move)
    (account : Account) :
    account.makeAll (move :: moves) = (account.make move).bind (makeAll moves) :=
  rfl

theorem makeAll_append (first second : List Move) (account : Account) :
    account.makeAll (first ++ second) = (account.makeAll first).bind (makeAll second) := by
  induction first generalizing account with
  | nil => rfl
  | cons move rest induction =>
    rw [List.cons_append, makeAll_cons, makeAll_cons, Option.bind_assoc]
    congr 1
    funext middle
    exact induction middle

variable {account after : Account} {moves : List Move} {target : OrderStatus}

theorem make_transition :
    account.make (.transition target) = some after ↔
      target ∈ account.status.transitions ∧ after = account.moveTo target := by
  simp only [make]
  split
  · rename_i allowed
    simp [allowed, eq_comm]
  · rename_i refused
    simp [refused]

theorem makeAll_invariant (Invariant : Account → Prop)
    (preserved : ∀ move ∈ moves, ∀ account after, Invariant account →
      account.make move = some after → Invariant after)
    (start : Invariant account) (made : account.makeAll moves = some after) : Invariant after := by
  induction moves generalizing account with
  | nil =>
    cases made
    exact start
  | cons move rest induction =>
    rw [makeAll_cons] at made
    rcases Option.bind_eq_some_iff.mp made with ⟨middle, first, others⟩
    have kept := preserved move (by simp) account middle start first
    apply induction _ kept others
    intro next member
    exact preserved next (List.mem_cons_of_mem _ member)

theorem pickupMode_of_makeAll (made : account.makeAll moves = some after) :
    after.pickupMode = account.pickupMode := by
  apply makeAll_invariant (fun middle => middle.pickupMode = account.pickupMode) _ rfl made
  intro move _ middle next same step
  cases move with
  | transition target =>
    rcases make_transition.mp step with ⟨_, rfl⟩
    exact same
  | reprice | settleFee | reverseFee | collect => cases step; exact same

theorem version_le_of_make {move : Move} (made : account.make move = some after) :
    account.version ≤ after.version := by
  cases move with
  | transition target =>
    rcases make_transition.mp made with ⟨_, rfl⟩
    exact Nat.le_succ _
  | reprice | settleFee | reverseFee | collect => cases made; exact le_rfl

theorem version_le_of_makeAll (made : account.makeAll moves = some after) :
    account.version ≤ after.version := by
  apply makeAll_invariant (fun middle => account.version ≤ middle.version) _ le_rfl made
  intro move _ middle next earlier step
  exact earlier.trans (version_le_of_make step)

theorem version_lt_of_makeAll (member : Move.transition target ∈ moves)
    (made : account.makeAll moves = some after) :
    account.version < after.version := by
  rcases List.append_of_mem member with ⟨before, rest, rfl⟩
  rw [makeAll_append] at made
  rcases Option.bind_eq_some_iff.mp made with ⟨middle, first, others⟩
  rw [makeAll_cons] at others
  rcases Option.bind_eq_some_iff.mp others with ⟨next, moved, rest'⟩
  rcases make_transition.mp moved with ⟨_, rfl⟩
  have early := version_le_of_makeAll first
  have late := version_le_of_makeAll rest'
  exact lt_of_lt_of_le (Nat.lt_succ_of_le early) late

theorem status_of_makeAll
    (made : account.makeAll (moves ++ [.transition target]) = some after) :
    after.status = target := by
  rw [makeAll_append] at made
  rcases Option.bind_eq_some_iff.mp made with ⟨middle, _, last⟩
  rw [makeAll_cons] at last
  rcases Option.bind_eq_some_iff.mp last with ⟨_, moved, done⟩
  rcases make_transition.mp moved with ⟨_, rfl⟩
  cases done
  rfl

end Account

end Lalaba.Orders
