import Lalaba.Orders.Current

/-!
# Fees are conserved

What the wallet ledger says about an order is what the order says was debited.
Every move keeps this: the fee is only ever moved together with the amount that
the row remembers.
-/

namespace Lalaba.Orders

open Foundation
open Promotions
open Wallets

/-! ## Conserved accounts -/

/-- The ledger and the row agree on what was debited. -/
structure Account.Conserved (account : Account) : Prop where
  debited : account.debited = account.consumed
  consumed : 0 ≤ account.consumed
  owed : 0 ≤ account.owed

variable {orderId : ObjectId} {account : Account} {callback : Callback}

theorem Account.Conserved.make {move : Move} {after : Account}
    (conserved : account.Conserved)
    (priced : ∀ due owed, move = .reprice due owed → 0 ≤ owed)
    (made : account.make move = some after) : after.Conserved := by
  rcases conserved with ⟨debited, consumed, owed⟩
  cases move with
  | reprice due quoted =>
    cases made
    exact ⟨debited, consumed, priced due quoted rfl⟩
  | settleFee =>
    cases made
    refine ⟨?_, owed, owed⟩
    show account.debited + (account.owed - account.consumed) = account.owed
    omega
  | reverseFee =>
    cases made
    refine ⟨?_, le_rfl, owed⟩
    show account.debited - account.consumed = 0
    omega
  | collect amount =>
    cases made
    exact ⟨debited, consumed, owed⟩
  | transition target =>
    rcases make_transition.mp made with ⟨_, rfl⟩
    exact ⟨debited, consumed, owed⟩

def pricesFees (moves : List Move) : Prop := ∀ due owed, Move.reprice due owed ∈ moves → 0 ≤ owed

theorem pricesFees_quote (order : OnlineOrder) : pricesFees (quote order.standing) := by
  intro due owed member
  simp only [quote, List.mem_singleton] at member
  cases member
  exact OrderPricing.chargeablePlatformFeeCentavos_nonneg _

theorem Callback.pricesFees_moves (callback : Callback)
    (order : OnlineOrder) : pricesFees (callback.moves order.standing) := by
  intro due owed member
  have quoted := pricesFees_quote order due owed
  cases callback with
  | create => simp [moves, creation] at member
  | accept =>
    simp only [moves, acceptance, route] at member
    split at member <;> simp at member
  | respond customerUid approve =>
    simp only [moves, response, route] at member
    split at member
    · split at member <;> simp at member
    · simp at member
  | abandon reversible =>
    simp only [moves, reversal] at member
    split at member <;> simp at member
  | handOver _ _ outstanding =>
    apply quoted
    simp only [moves, settlement] at member
    split at member <;> simpa using member
  | saveThenTransition | recordWeight =>
    exact quoted (by simpa [moves] using member)
  | recordPayment | receive =>
    apply quoted
    simp only [moves, collection] at member
    split at member <;> simpa using member

theorem Booked.unpaid {document : OrderDocument}
    (booked : Booked orderId callback document) :
    document.order.standing.consumed = 0 ∧
      document.order.standing.collected = 0 ∧
      document.order.standing.due = 0 ∧
      document.order.standing.status = .draft ∧
      document.order.standing.version = 0 := by
  rcases booked.orders with ⟨_, _, _, _, _, _, _, rfl, _⟩
  exact ⟨rfl, rfl, rfl, rfl, rfl⟩

theorem Account.Conserved.opens {document : OrderDocument}
    (booked : Booked orderId callback document)
    (made : (Account.opening document.order.standing).makeAll creation = some account) :
    account.Conserved := by
  have opening : (Account.opening document.order.standing).Conserved := by
    rcases booked.unpaid with ⟨consumed, _⟩
    refine ⟨?_, ?_, ?_⟩
    · exact consumed.symm
    · exact consumed.symm.le
    · exact OrderPricing.chargeablePlatformFeeCentavos_nonneg _
  apply Account.makeAll_invariant Account.Conserved _ opening made
  intro move member before after conserved moved
  apply conserved.make _ moved
  rintro due owed rfl
  simp [creation] at member

theorem Account.Conserved.moves {order : OnlineOrder} {made : Account}
    {owed : ℤ} (conserved : account.Conserved)
    (moves : account.makeAll (callback.moves order.standing) = some made)
    (nonneg : 0 ≤ owed) :
    (made.reprice made.due owed).Conserved := by
  have kept : made.Conserved := by
    apply Account.makeAll_invariant Account.Conserved _ conserved moves
    intro move member before after conserved moved
    apply conserved.make _ moved
    rintro due owed rfl
    exact callback.pricesFees_moves order due owed member
  exact ⟨kept.debited, kept.consumed, nonneg⟩

theorem Account.Conserved.books {database : Database} {row : OnlineOrder}
    (conserved : Account.Conserved
      { toStanding := row.standing
        debited := -orderLedgerTotal orderId database.wallets
        received := orderReceipts orderId database }) :
    orderLedgerTotal orderId database.wallets =
        -row.pricing.consumedCentavos ∧
      0 ≤ row.pricing.consumedCentavos := by
  have debited : -orderLedgerTotal orderId database.wallets =
      row.pricing.consumedCentavos := conserved.debited
  exact ⟨by omega, conserved.consumed⟩

theorem books_of_reaches {castToObjectId : String → Option ObjectId}
    {admissible : State → Action → Prop} {state : State} {row : OnlineOrder}
    (current : ∀ state action, admissible state action → Current orderId state action)
    (reached : (orderSystem castToObjectId).Reaches admissible .start
      state) (found : state.database.orders.lookup orderId = some row) :
    orderLedgerTotal orderId state.database.wallets =
        -row.pricing.consumedCentavos ∧
      0 ≤ row.pricing.consumedCentavos := by
  have stored := Database.account_eq_some.mpr ⟨row, found, rfl⟩
  have conserved := account_invariant Account.Conserved current ?_ ?_ reached stored
  · exact conserved.books
  · exact fun _ _ _ booked made => .opens booked made
  · exact fun _ _ _ _ _ _ _ _ conserved moves nonneg =>
      conserved.moves moves nonneg

/--
In a current run, the ledger amounts of an order add up to what its row says was
debited, with the sign turned, and that is never negative.
-/
theorem feesAreConserved {castToObjectId : String → Option ObjectId}
    {orderId : ObjectId} {state : State} {row : OnlineOrder}
    (reached : (orderSystem castToObjectId).Reaches (Current orderId) .start state)
    (found : state.database.orders.lookup orderId = some row) :
    orderLedgerTotal orderId state.database.wallets =
        -row.pricing.consumedCentavos ∧
      0 ≤ row.pricing.consumedCentavos :=
  books_of_reaches (fun _ _ current => current) reached found

/-! ## A shop to run orders in -/

namespace Shop

def branch : Branch :=
  { uid := "owner"
    branchName := "Main"
    isActive := true
    isOnline := true
    allowsPayAtHandover := some true }

def person (uid role : String) : User where
  _id := uid
  roleId := some role
  merchantId := some "owner"
  branchIds := []
  isActive := true
  isArchived := false
  selfieStatus := some "ACTIVE"
  firstName := uid
  lastName := ""
  email := ""

def owner : User := person "owner" "merchant"

def customer : User := person "customer" "customer"

def courier : User := person "courier" "courier"

def environment : Environment where
  branches branchId := if branchId = "branch" then some branch else none
  users uid := ([owner, customer, courier].find? fun user => user._id == uid)
  washers _ := none
  distanceMeters _ _ _ _ := 0
  distanceKm _ _ _ _ := 0

/-- Washing by the kilo, at a tenth of commission. -/
def market : Market where
  toEnvironment := environment
  addresses _ := some
    { uid := "customer"
      isArchived := false
      latitude := none
      longitude := none }
  bookingsPaused _ := false
  services _ := some
    { pricingType := .perKilo
      price := 5000
      baseKilos := none
      excessRate := none
      minBillableKg := none
      branchId := "branch"
      serviceName := "Wash"
      isArchived := false
      isOnline := true }
  templates _ := none
  offerings _ _ := none
  products _ := none
  inventoryBranch _ := none
  commission _ := { percent := 10, ruleKey := none, ruleVersion := none }
  fulfillmentPricing _ := (none, 0)
  offersProviderDelivery _ _ := true
  assertDayBookable _ _ date _ _ := .ok { date, label := date }
  toUpperCase text := text

def clock (now : Instant) : Clock := { now, phDayKey := "2026-01-05" }

def booking (pickupMode : FulfillmentPickupMode)
    (returnMode : FulfillmentReturnMode) : CreateOrderInput where
  providerType := .merchant
  branchId := "branch"
  addressId := "address"
  serviceLines := [{ serviceRefId := "wash", estimatedWeightKg := some 4 }]
  pickupMode
  returnMode
  scheduledPickupDate := some "2026-01-05"

/-- The owner tops the wallet up. -/
def funding : List Action :=
  [ .initializeTopUp "branch" (some branch) 150000 "owner",
    .createIntent 0 "topup",
    .gatewayAnswers 0
      { gatewayInvoiceId := "invoice"
        invoiceUrl := "checkout"
        autoSucceeds := false },
    .recordInvoice 0,
    .postVerifiedTopUp "topup"
      { reference := "topup"
        amountCentavos := 150000
        currency := "PHP"
        gatewayInvoiceId := some "invoice" },
    .readIntent 0,
    .commitCredit 0 11,
    .report 0 ].map .wallet

def placing (input : CreateOrderInput) : List Action :=
  [ .create market (clock 1) customer input "order", .commit 0 environment (clock 1) ]

def requests (actor : User) (operation : Operation) : Action :=
  .request environment (clock 2) actor "order" operation

def proceeds : Action := .commit 0 environment (clock 2)

def aborts (budget : ℕ) : Action := .abort 0 budget (clock 2)

def calls (actor : User) (operation : Operation) : List Action :=
  [requests actor operation, proceeds]

def deferred : RecordCollectionInput :=
  { paymentTiming := some .atFinalHandover
    measured := { actualWeightKg := some 4 } }

def accepted : List Action :=
  funding ++
    placing (booking .customerDropoff .customerSelfPickup) ++
    calls owner .acceptOrder

end Shop

/-- The order of the shop arrives at the counter, and its fee is debited. -/
theorem feesAreConserved_counter :
    ∃ state row,
      (orderSystem some).Reaches (Current "order") .start state ∧
        state.database.orders.lookup "order" = some row ∧
        row.pricing.consumedCentavos = 2000 ∧
        orderLedgerTotal "order" state.database.wallets =
            -row.pricing.consumedCentavos ∧
          0 ≤ row.pricing.consumedCentavos := by
  have performed :
      (((orderSystem some).restrict (Current "order")).perform
        (Shop.accepted ++ Shop.calls Shop.owner (.receiveAtCounter Shop.deferred))
        .start).bind (fun state =>
          (state.database.orders.lookup "order").map fun row =>
            row.pricing.consumedCentavos) = some 2000 := by
    decide +kernel
  rcases System.reaches_of_bind_restrict performed with ⟨state, reached, consumed⟩
  rcases Option.map_eq_some_iff.mp consumed with ⟨row, found, amount⟩
  exact ⟨state, row, reached, found, amount, feesAreConserved reached found⟩

/--
A weigh-in at the counter whose first run is aborted once the fee is debited:
the document remembers the debit that the database has undone.
-/
def feeRememberedAcrossAbort : List Action :=
  Shop.accepted ++
    [ Shop.requests Shop.owner (.receiveAtCounter Shop.deferred), Shop.aborts 2, Shop.proceeds ]

def codeless (orderId : ObjectId) : Action → Bool
  | .create _ _ _ input other =>
    decide (other ≠ orderId) || input.promoCode.isNone
  | _ => true

/-- The row says that the fee was debited, and the ledger has no row. -/
theorem feeNotConserved :
    ¬ ∀ (orderId : ObjectId) (state : State) (row : OnlineOrder),
      (orderSystem some).Reaches (fun _ action => codeless orderId action)
          .start state →
        state.database.orders.lookup orderId = some row →
          orderLedgerTotal orderId state.database.wallets =
              -row.pricing.consumedCentavos ∧
            0 ≤ row.pricing.consumedCentavos := by
  intro claimed
  have performed :
      (((orderSystem some).restrict
          (fun _ action => codeless "order" action = true)).perform
        feeRememberedAcrossAbort .start).bind (fun state =>
          (state.database.orders.lookup "order").map fun row =>
            (orderLedgerTotal "order" state.database.wallets,
              row.pricing.consumedCentavos)) = some (0, 2000) := by
    decide +kernel
  rcases System.reaches_of_bind_restrict performed with ⟨state, ran, seen⟩
  rcases Option.map_eq_some_iff.mp seen with ⟨row, found, amounts⟩
  simp only [Prod.mk.injEq] at amounts
  have conserved := claimed "order" state row ran found
  rw [amounts.1, amounts.2] at conserved
  exact absurd conserved.1 (by decide)

end Lalaba.Orders
