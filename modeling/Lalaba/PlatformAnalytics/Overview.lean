import Lalaba.Orders.Waivers
import Lalaba.Washers.Report

/-!
# Fees in reports

The overview of the platform and the reports of its washers add up the platform fee that
the prices of completed orders name.  What a provider is debited is the fee less what a
promotion has waived of it, so the two agree where nothing has been waived.
-/

namespace Lalaba.PlatformAnalytics

open Foundation
open Orders
open Wallets (WalletStore)
open Washers

/-! ## The overview -/

/-- Both bounds can be left out. -/
structure PlatformAnalyticsRangeInput where
  start : Option ℤ
  finish : Option ℤ

/-- A time with both of its ends. -/
structure Range where
  start : ℤ
  finish : ℤ

/-- `$gte` and `$lte`. -/
def Range.contains (range : Range) (instant : Instant) : Bool :=
  decide (range.start ≤ instant ∧ (instant : ℤ) ≤ range.finish)

def PlatformAnalyticsRangeInput.range (input : PlatformAnalyticsRangeInput)
    (now : Instant) : Range where
  start := input.start.getD 0
  finish := input.finish.getD now

def completedMatch (range : Range) (order : ReportedOrder) : Bool :=
  decide (order.status = .completed) && order.completedAt.any range.contains

def createdMatch (range : Range) (order : ReportedOrder) : Bool := range.contains order.createdAt

def NON_CONVERTING_STATUSES : List OrderStatus := [.cancelled, .rejectedByProvider]

/-- The overview without its breakdowns, which are aggregations of their own. -/
structure PlatformOverview where
  ordersCreated : ℤ
  ordersCompleted : ℤ
  ordersCancelled : ℤ
  cancellationRate : ℚ
  gmvCentavos : ℤ
  platformFeeRevenueCentavos : ℤ
  averageOrderValueCentavos : ℤ
  activeCustomers : ℕ
  activeProviders : ℕ

def overview (input : PlatformAnalyticsRangeInput) (now : Instant)
    (orders : List ReportedOrder) : PlatformOverview :=
  let range := input.range now
  let ordersCreated := tally (createdMatch range) (fun _ => (1 : ℤ)) orders
  let ordersCancelled :=
    tally (createdMatch range)
      (fun order => if order.status ∈ NON_CONVERTING_STATUSES then (1 : ℤ) else 0)
      orders
  let ordersCompleted := tally (completedMatch range) (fun _ => (1 : ℤ)) orders
  let gmvCentavos := roundCentavos (tally (completedMatch range) ReportedOrder.totalCentavos orders)
  let completed := orders.filter (completedMatch range)
  { ordersCreated
    ordersCompleted
    ordersCancelled
    cancellationRate :=
      if 0 < ordersCreated then (ordersCancelled : ℚ) / ordersCreated else 0
    gmvCentavos
    platformFeeRevenueCentavos :=
      roundCentavos (tally (completedMatch range) ReportedOrder.feeCentavos orders : ℤ)
    averageOrderValueCentavos :=
      if 0 < ordersCompleted then
        roundCentavos ((gmvCentavos : ℚ) / ordersCompleted)
      else 0
    activeCustomers := (completed.map fun order => order.customer.uid).dedup.length
    activeProviders := (completed.map fun order => order.provider.branchId).dedup.length }

def reportedOrders (columns : ObjectId → OrderColumns) (database : Database) :
    List ReportedOrder :=
  database.orders.entries.map fun entry =>
    { toOnlineOrder := entry.2, toOrderColumns := columns entry.1 }

def debitedCentavos (wallets : WalletStore) (order : ReportedOrder) : ℤ :=
  -orderLedgerTotal order._id wallets

def Waived (order : ReportedOrder) : Prop :=
  0 < order.pricing.platformFeeCentavos.getD 0 ∧
    0 < order.pricing.platformFeeDiscountCentavos.getD 0

instance (order : ReportedOrder) : Decidable (Waived order) := inferInstanceAs (Decidable (_ ∧ _))

def Faithful (orderId : ObjectId) (state : State) (action : Action) : Prop :=
  Current orderId state action ∧ unforced orderId action = true

instance (orderId : ObjectId) (state : State) (action : Action) :
    Decidable (Faithful orderId state action) :=
  inferInstanceAs (Decidable (_ ∧ _))

theorem Faithful.timely {orderId : ObjectId} {state : State} {action : Action}
    (faithful : Faithful orderId state action) : Timely orderId state action := by
  have kept := faithful.1
  cases action with
  | commit index environment clock =>
    simp only [Current, Orders.current] at kept
    simp only [Timely, Orders.timely]
    cases flying : state.calls[index]? with
    | none => rfl
    | some call => cases call with
      | transaction operation callback prepared document =>
        simp only [flying, Bool.or_eq_true, Bool.and_eq_true, decide_eq_true_eq] at kept ⊢
        rcases kept with (other | resets) | ⟨rfl, inStep⟩
        · exact .inl (.inl (.inl other))
        · exact .inl (.inl (.inr resets))
        · exact .inr ⟨by simp [OrderDocument.still], inStep⟩
      | save document => simpa only [flying] using kept
      | _ => rfl
  | _ => rfl

theorem debited_of_reaches {castToObjectId : String → Option ObjectId}
    {orderId : ObjectId} {state : State} {row : OnlineOrder}
    (reached : (orderSystem castToObjectId).Reaches (Faithful orderId) .start state)
    (found : state.database.orders.lookup orderId = some row)
    (completed : row.status = .completed) :
    -orderLedgerTotal orderId state.database.wallets =
        row.pricing.chargeablePlatformFeeCentavos ∧ row.pricing.Split := by
  have books := books_of_reaches (fun _ _ faithful => faithful.1) reached found
  have settled := settled_of_reaches reached (Database.account_eq_some.mpr ⟨row, found, rfl⟩)
  have phase : row.status.phase = .handedOver := by
    rw [completed]
    rfl
  have consumed : row.pricing.consumedCentavos =
      row.pricing.chargeablePlatformFeeCentavos := (settled.handedOver phase).2
  have split := split_of_reaches (reached.weaken fun _ _ faithful => faithful.timely) found
  exact ⟨by rw [books.1, neg_neg, consumed], split⟩

def FaithfullyReached (castToObjectId : String → Option ObjectId) (state : State) : Prop :=
  ∀ orderId row, state.database.orders.lookup orderId = some row →
    row.status = .completed → (orderSystem castToObjectId).Reaches (Faithful orderId) .start state

section

variable {castToObjectId : String → Option ObjectId} {state : State}
variable {columns : ObjectId → OrderColumns}

theorem debited_le (reached : FaithfullyReached castToObjectId state)
    {order : ReportedOrder} (mem : order ∈ reportedOrders columns state.database)
    (completed : order.status = .completed) :
    debitedCentavos state.database.wallets order ≤ order.feeCentavos ∧
      (debitedCentavos state.database.wallets order = order.feeCentavos ↔ ¬ Waived order) := by
  obtain ⟨⟨orderId, row⟩, stored, rfl⟩ := List.mem_map.mp mem
  have found : state.database.orders.lookup orderId = some row := AList.mem_lookup_iff.mpr stored
  have run := reached orderId row found completed
  have identified : row._id = orderId := (State.Tidy.of_reaches run).keyed orderId row found
  obtain ⟨debited, split⟩ := debited_of_reaches run found completed
  have debited : debitedCentavos state.database.wallets
      { toOnlineOrder := row, toOrderColumns := columns orderId } =
        row.pricing.chargeablePlatformFeeCentavos := by
    rw [debitedCentavos, identified, debited]
  have nonneg : 0 ≤ row.pricing.platformFeeCentavos.getD 0 := split.nonneg.trans split.within
  rw [debited]
  simp only [ReportedOrder.feeCentavos, Waived, OrderPricing.chargeablePlatformFeeCentavos]
  omega

theorem fees_eq_debited_iff (reached : FaithfullyReached castToObjectId state)
    {counts : ReportedOrder → Bool}
    (completed : ∀ order, counts order = true → order.status = .completed) :
    tally counts ReportedOrder.feeCentavos (reportedOrders columns state.database) =
        tally counts (debitedCentavos state.database.wallets)
          (reportedOrders columns state.database) ↔
      ∀ order ∈ reportedOrders columns state.database, counts order = true → ¬ Waived order := by
  rw [eq_comm, tally_eq_tally_iff fun order mem counted =>
    (debited_le reached mem (completed order counted)).1]
  apply forall₂_congr
  intro order mem
  apply imp_congr_right
  exact fun counted => (debited_le reached mem (completed order counted)).2

end

theorem completedMatch_completed {range : Range} {order : ReportedOrder}
    (counted : completedMatch range order = true) : order.status = .completed := by
  simp only [completedMatch, Bool.and_eq_true, decide_eq_true_eq] at counted
  exact counted.1

theorem completedIn_completed {uid : Uid} {window : Window} {order : ReportedOrder}
    (counted : completedIn uid window order = true) : order.status = .completed := by
  simp only [completedIn, Bool.and_eq_true, decide_eq_true_eq] at counted
  exact counted.1.2

theorem getReport_ok {uid : Uid} {store : ReportStore} {dateFrom dateTo : String}
    {report : WasherReport} (made : store.getReport uid dateFrom dateTo = .ok report) :
    ∃ branchId window, reportWindow dateFrom dateTo = .ok window ∧
      report = store.report uid branchId window dateFrom dateTo := by
  rw [ReportStore.getReport] at made
  split at made
  · cases made
  · next branchId _ =>
    cases spans : reportWindow dateFrom dateTo with
    | error error =>
      rw [spans] at made
      cases made
    | ok window =>
      rw [spans] at made
      cases made
      exact ⟨branchId, window, rfl, rfl⟩

/--
The revenue of the overview, and the fees and the net amount of a washer's report, count
what has been debited for the completed orders if and only if none of the fee of any of
these orders has been waived.
-/
theorem reportsCountTheFee_iff {castToObjectId : String → Option ObjectId} {state : State}
    (reached : FaithfullyReached castToObjectId state)
    (columns : ObjectId → OrderColumns) :
    (∀ (input : PlatformAnalyticsRangeInput) (now : Instant), (overview input now
          (reportedOrders columns state.database)).platformFeeRevenueCentavos =
        tally (completedMatch (input.range now))
          (debitedCentavos state.database.wallets)
          (reportedOrders columns state.database) ↔
      ∀ order ∈ reportedOrders columns state.database,
        completedMatch (input.range now) order = true → ¬ Waived order) ∧
    ∀ (store : ReportStore) (uid : Uid) (dateFrom dateTo : String)
      (report : WasherReport),
      store.orders = reportedOrders columns state.database →
      store.getReport uid dateFrom dateTo = .ok report →
        ∃ window, reportWindow dateFrom dateTo = .ok window ∧
          ((report.platformFeeCentavos = tally (completedIn uid window)
                  (debitedCentavos state.database.wallets)
                  (reportedOrders columns state.database) ∧
              report.netCentavos = report.grossCentavos - tally (completedIn uid window)
                  (debitedCentavos state.database.wallets)
                  (reportedOrders columns state.database)) ↔
            ∀ order ∈ reportedOrders columns state.database,
              completedIn uid window order = true → ¬ Waived order) := by
  constructor
  · intro input now
    rw [← fees_eq_debited_iff reached fun _ => completedMatch_completed]
    simp only [overview, roundCentavos_intCast]
  · intro store uid dateFrom dateTo report rows made
    obtain ⟨branchId, window, spans, rfl⟩ := getReport_ok made
    refine ⟨window, spans, ?_⟩
    rw [← fees_eq_debited_iff reached fun _ => completedIn_completed]
    simp only [ReportStore.report, ReportStore.platformFeeCentavos, roundCentavos_intCast, rows]
    exact ⟨fun both => both.1, fun fees => ⟨fees, by rw [fees]⟩⟩

namespace Desk

def completes : List Action :=
  Shop.calls Shop.owner (.receiveAtCounter Shop.deferred) ++
    [Shop.requests Shop.owner .markLaundryReady, Shop.proceeds, Shop.proceeds] ++
    Shop.calls Shop.owner (.verifySelfPickup Shop.cash)

def columns (_ : ObjectId) : OrderColumns where
  estimatedWeightKg := some 4
  createdAt := 1
  updatedAt := 2

def always : PlatformAnalyticsRangeInput where
  start := none
  finish := none

def orders (state : State) : List ReportedOrder := reportedOrders columns state.database

def debited (state : State) : ℤ :=
  tally (completedMatch (always.range 3)) (debitedCentavos state.database.wallets) (orders state)

end Desk

/-- The order of the shop is completed, and its fee is the revenue. -/
theorem reportsCountTheFee_ordinary :
    ∃ state,
      FaithfullyReached some state ∧ Desk.debited state = 2000 ∧
        (overview Desk.always 3 (Desk.orders state)).platformFeeRevenueCentavos =
          Desk.debited state := by
  have performed :
      (((orderSystem some).restrict (Faithful "order")).perform
        (Shop.accepted ++ Desk.completes) .start).map (fun state =>
          (state.database.orders.entries.map Sigma.fst, Desk.debited state,
            decide (∀ order ∈ Desk.orders state, ¬ Waived order))) =
        some (["order"], 2000, true) := by
    decide +kernel
  obtain ⟨state, ran, seen⟩ := Option.map_eq_some_iff.mp performed
  simp only [Prod.mk.injEq, decide_eq_true_eq] at seen
  obtain ⟨only, debited, unwaived⟩ := seen
  have run := System.reaches_of_perform_restrict ran
  have reached : FaithfullyReached some state := by
    intro orderId row found _
    have mem : orderId ∈ state.database.orders.entries.map Sigma.fst :=
      List.mem_map_of_mem (AList.mem_lookup_iff.mp found)
    rw [only] at mem
    rw [List.mem_singleton.mp mem]
    exact run
  exact ⟨state, reached, debited,
    ((reportsCountTheFee_iff reached Desk.columns).1 Desk.always 3).mpr
      fun order mem _ => unwaived order mem⟩

/-- The fee of the order is waived: it is revenue, and nobody has been debited. -/
theorem waivedFeeIsReported :
    ¬ ∀ state : State,
      (orderSystem some).Reaches (Faithful "order") .start state →
        (overview Desk.always 3 (Desk.orders state)).platformFeeRevenueCentavos =
          Desk.debited state := by
  intro counted
  have performed :
      (((orderSystem some).restrict (Faithful "order")).perform
        (Shop.waived .customerDropoff ++ Desk.completes) .start).map (fun state =>
          ((overview Desk.always 3 (Desk.orders state)).platformFeeRevenueCentavos,
            Desk.debited state)) =
        some (2000, 0) := by
    decide +kernel
  obtain ⟨state, ran, seen⟩ := Option.map_eq_some_iff.mp performed
  simp only [Prod.mk.injEq] at seen
  have same := counted state (System.reaches_of_perform_restrict ran)
  rw [seen.1, seen.2] at same
  exact absurd same (by decide)

end Lalaba.PlatformAnalytics
