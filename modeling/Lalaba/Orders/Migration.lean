import Lalaba.Foundation.Snapshot
import Lalaba.Orders.Conservation

/-!
# The migration of the payment fields

`migrateLegacyOnDelivery` rewrites what earlier versions have stored: the timing
`on_delivery`, and a platform fee that was debited before the row said so.  Its
filters are on values; nothing tells an old order from a new one.  Here it runs,
any number of times, between the steps of the order service.
-/

namespace Lalaba.Orders

open Foundation
open Promotions
open Wallets

/-! ## The migration -/

def PaymentTiming.value : PaymentTiming → String
  | .onPickup => "on_pickup"
  | .atFinalHandover => "at_final_handover"

def LEGACY_PAYMENT_TIMING_ON_DELIVERY : String := "on_delivery"

/-- `TERMINAL_STATUSES`: nothing can be collected any more. -/
def TERMINAL_STATUSES : List String :=
  ["completed", "cancelled", "rejected_by_provider", "refunded", "abandoned_unsettled"]

namespace OnlineOrder

def timingFilter (order : OnlineOrder) : Bool :=
  order.paymentTiming.value == LEGACY_PAYMENT_TIMING_ON_DELIVERY

/-- `unsettledFilter`: still owes. -/
def unsettledFilter (order : OnlineOrder) : Bool :=
  order.timingFilter && order.paymentSummary.collectedAt.isNone &&
    !TERMINAL_STATUSES.contains order.status.value

/-- `settledFilter`: collected or over. -/
def settledFilter (order : OnlineOrder) : Bool :=
  order.timingFilter &&
    (order.paymentSummary.collectedAt.isSome || TERMINAL_STATUSES.contains order.status.value)

/-- `feeBackfillFilter`: collected, with no word of a debited fee. -/
def feeBackfillFilter (order : OnlineOrder) : Bool :=
  order.paymentSummary.collectedAt.isSome && order.pricing.platformFeeConsumedCentavos.isNone

def rewriteTiming (order : OnlineOrder) : OnlineOrder :=
  if order.unsettledFilter then
    { order with paymentTiming := .atFinalHandover }
  else if order.settledFilter then
    { order with paymentTiming := .onPickup }
  else
    order

def backfillFee (order : OnlineOrder) : OnlineOrder :=
  if order.feeBackfillFilter then
    { order with
      pricing :=
        { order.pricing with
          platformFeeConsumedCentavos := some (order.pricing.platformFeeCentavos.getD 0) } }
  else
    order

end OnlineOrder

/--
`migrateLegacyOnDelivery` with `apply`.  No row holds a `paymentStatus`, so that
the rewrite of it finds nothing.
-/
def Database.migrateLegacyOnDelivery (database : Database) : Database :=
  { database with
    orders := Snapshot.mapRows (fun _ order => order.rewriteTiming.backfillFee) database.orders }

/-! ### What it does to a row -/

namespace OnlineOrder

theorem timingFilter_eq_false (order : OnlineOrder) : order.timingFilter = false := by
  rw [timingFilter]
  cases order.paymentTiming with
  | onPickup | atFinalHandover => decide

theorem rewriteTiming_eq (order : OnlineOrder) : order.rewriteTiming = order := by
  simp [rewriteTiming, unsettledFilter, settledFilter, timingFilter_eq_false]

theorem backfillFee_backfillFee (order : OnlineOrder) :
    order.backfillFee.backfillFee = order.backfillFee := by
  have settled : order.backfillFee.feeBackfillFilter = false := by
    rw [backfillFee]
    split
    · simp [feeBackfillFilter]
    · exact Bool.eq_false_iff.mpr ‹_›
  rw [backfillFee, settled, if_neg Bool.false_ne_true]

def overstated (order : OnlineOrder) : Bool :=
  order.feeBackfillFilter && order.pricing.platformFeeCentavos.getD 0 != 0

theorem backfillFee_standing (order : OnlineOrder) :
    order.backfillFee.standing = { order.standing with
        consumed :=
          if order.feeBackfillFilter then
            order.pricing.platformFeeCentavos.getD 0
          else
            order.standing.consumed } := by
  rw [backfillFee]
  split
  · rfl
  · rfl

theorem consumed_of_feeBackfillFilter {order : OnlineOrder}
    (missing : order.feeBackfillFilter = true) :
    order.standing.consumed = 0 := by
  have absent : order.pricing.platformFeeConsumedCentavos = none := by
    simp only [feeBackfillFilter, Bool.and_eq_true, Option.isNone_iff_eq_none] at missing
    exact missing.2
  show order.pricing.consumedCentavos = 0
  rw [OrderPricing.consumedCentavos, absent, Option.getD_none]

theorem backfillFee_standing_eq {order : OnlineOrder} :
    order.backfillFee.standing = order.standing ↔ order.overstated = false := by
  rw [backfillFee_standing, overstated]
  cases missing : order.feeBackfillFilter with
  | false => simp
  | true =>
    have unpaid := consumed_of_feeBackfillFilter missing
    constructor
    · intro same
      have consumed := congrArg Standing.consumed same
      rw [unpaid] at consumed
      simpa using consumed
    · intro free
      have nothing : order.pricing.platformFeeCentavos.getD 0 = 0 := by
        simpa using free
      rw [if_pos rfl, nothing, ← unpaid]

theorem backfillFee_row (order : OnlineOrder) :
    order.backfillFee._id = order._id ∧
      order.backfillFee.abandonmentDeadlineAt =
        order.abandonmentDeadlineAt := by
  rw [backfillFee]
  split <;> exact ⟨rfl, rfl⟩

end OnlineOrder

section

variable {orderId : ObjectId} {database : Database}

theorem Database.lookup_migrate :
    database.migrateLegacyOnDelivery.orders.lookup orderId =
      (database.orders.lookup orderId).map OnlineOrder.backfillFee := by
  rw [migrateLegacyOnDelivery, Snapshot.lookup_mapRows]
  congr 1
  funext order
  rw [order.rewriteTiming_eq]

theorem Database.migrate_migrate (database : Database) :
    database.migrateLegacyOnDelivery.migrateLegacyOnDelivery =
      database.migrateLegacyOnDelivery := by
  have twice : (fun (_ : ObjectId) (order : OnlineOrder) =>
      order.rewriteTiming.backfillFee.rewriteTiming.backfillFee) =
        fun _ order => order.rewriteTiming.backfillFee := by
    funext _ order
    rw [OnlineOrder.rewriteTiming_eq, OnlineOrder.rewriteTiming_eq,
      OnlineOrder.backfillFee_backfillFee]
  simp only [migrateLegacyOnDelivery, Snapshot.mapRows_mapRows, twice]

def Database.understood (orderId : ObjectId) (database : Database) : Bool :=
  (database.orders.lookup orderId).all fun row => !row.overstated

theorem Database.standing_of_understood {row : OnlineOrder}
    (understood : database.understood orderId = true)
    (found : database.orders.lookup orderId = some row) :
    row.backfillFee.standing = row.standing := by
  rw [Database.understood, found, Option.all_some, Bool.not_eq_true'] at understood
  exact OnlineOrder.backfillFee_standing_eq.mpr understood

end

/-! ## Runs with the migration -/

/-- What can happen next: a step of the service, or a run of the migration. -/
inductive MigratedAction where
  | order (action : Action)
  | migrate

def stepMigrated (castToObjectId : String → Option ObjectId) :
    MigratedAction → State → Option State
  | .order action, state => step castToObjectId action state
  | .migrate, state =>
    some (state.write state.database.migrateLegacyOnDelivery)

def migratedSystem (castToObjectId : String → Option ObjectId) :
    System State MigratedAction :=
  { step := stepMigrated castToObjectId }

/--
A step of the service is current, and a run of the migration overstates no fee of
the order.
-/
def understood (orderId : ObjectId) (state : State) :
    MigratedAction → Bool
  | .order action => current orderId state action
  | .migrate => state.database.understood orderId

def Understood (orderId : ObjectId) (state : State)
    (action : MigratedAction) : Prop :=
  understood orderId state action = true

instance (orderId : ObjectId) (state : State) (action : MigratedAction) :
    Decidable (Understood orderId state action) :=
  inferInstanceAs (Decidable (_ = true))

/-- What is known of an order in every state of such a run. -/
structure Accounted (orderId : ObjectId) (state : State) : Prop where
  tidy : state.Tidy
  inTouch : InTouch orderId state
  conserved : state.Settles orderId Account.Conserved

section

variable {orderId : ObjectId} {database : Database}

theorem Database.account_migrate
    (understood : database.understood orderId = true) :
    database.migrateLegacyOnDelivery.account orderId =
      database.account orderId := by
  rw [Database.account, Database.account, Database.lookup_migrate]
  cases found : database.orders.lookup orderId with
  | none => rfl
  | some row =>
    have same := Database.standing_of_understood understood found
    simp only [Option.map_some, same]
    rfl

theorem Database.later_migrate
    (understood : database.understood orderId = true) :
    database.Later orderId database.migrateLegacyOnDelivery := by
  intro row found
  refine ⟨row.backfillFee, ?_, .inl ?_⟩
  · rw [Database.lookup_migrate, found]
    rfl
  · exact Database.standing_of_understood understood found

theorem Grounded.migrate (grounded : Grounded orderId database)
    (understood : database.understood orderId = true) :
    Grounded orderId database.migrateLegacyOnDelivery where
  unborn := by
    intro absent
    rw [Database.lookup_migrate, Option.map_eq_none_iff] at absent
    exact grounded.unborn absent
  dated := by
    intro row found waiting deadline
    rw [Database.lookup_migrate] at found
    rcases Option.map_eq_some_iff.mp found with ⟨before, stored, rfl⟩
    have same := Database.standing_of_understood understood stored
    have status : before.backfillFee.status = before.status := congrArg Standing.status same
    rw [status] at waiting
    rw [before.backfillFee_row.2] at deadline
    rw [same]
    exact grounded.dated before stored waiting deadline

variable {state : State}

theorem State.Tidy.migrate (tidy : state.Tidy) :
    (state.write state.database.migrateLegacyOnDelivery).Tidy where
  keyed := by
    intro orderId row found
    have stored : state.database.migrateLegacyOnDelivery.orders.lookup
        orderId = some row :=
      found
    rw [Database.lookup_migrate] at stored
    rcases Option.map_eq_some_iff.mp stored with ⟨before, was, rfl⟩
    rw [before.backfillFee_row.1]
    exact tidy.keyed orderId before was
  audits := tidy.audits

theorem Accounted.start (orderId : ObjectId) : Accounted orderId .start where
  tidy := State.tidy_start
  inTouch := @inTouch_of_reaches some orderId _ _ (fun _ _ current => current) .refl
  conserved := by
    intro account found
    simp [State.start, Database.account] at found

theorem Accounted.order {castToObjectId : String → Option ObjectId}
    {after : State} {action : Action} (accounted : Accounted orderId state)
    (current : Current orderId state action)
    (stepped : step castToObjectId action state = some after) :
    Accounted orderId after := by
  rcases accounted with ⟨tidy, inTouch, conserved⟩
  have accounts := @account_obligations orderId _ Account.Conserved
    (fun _ _ (current : Current orderId _ _) => current)
    (fun _ _ _ booked made => .opens booked made)
    (fun _ _ _ _ _ _ _ _ conserved moves nonneg =>
      conserved.moves moves nonneg)
  refine ⟨tidy.step stepped, ?_, ?_⟩
  · exact (knows_obligations orderId).step tidy trivial inTouch current stepped
  · have invariant : Invariant orderId
        (State.Settles orderId Account.Conserved) (fun _ _ => True)
        state :=
      ⟨conserved, fun _ _ _ => trivial⟩
    exact (accounts.step tidy inTouch invariant current stepped).good

theorem Accounted.migrate (accounted : Accounted orderId state)
    (understood : state.database.understood orderId = true) :
    Accounted orderId (state.write state.database.migrateLegacyOnDelivery) where
  tidy := accounted.tidy.migrate
  inTouch := by
    refine ⟨accounted.inTouch.good.migrate understood, ?_⟩
    intro call member about
    have knows := accounted.inTouch.sound call member about
    exact knows.later (Database.later_migrate understood)
  conserved := by
    intro account found
    have stored : state.database.migrateLegacyOnDelivery.account orderId =
        some account :=
      found
    rw [Database.account_migrate understood] at stored
    exact accounted.conserved account stored

theorem accounted_of_reaches {castToObjectId : String → Option ObjectId}
    (reached : (migratedSystem castToObjectId).Reaches (Understood orderId) .start state) :
    Accounted orderId state := by
  apply reached.invariant (Accounted orderId) (.start orderId)
  intro state action after accounted allowed stepped
  cases action with
  | order action => exact accounted.order allowed stepped
  | migrate =>
    cases stepped
    exact accounted.migrate allowed

end

/-! ## The books -/

/--
However often the migration runs between the steps of the service: while it
overstates no fee of an order, what the order says was debited is what the ledger
says, no more is reversed than was debited, and a second run changes nothing.
-/
theorem migrationKeepsTheBooks
    {castToObjectId : String → Option ObjectId} {orderId : ObjectId}
    {state : State}
    (reached : (migratedSystem castToObjectId).Reaches (Understood orderId) .start state) :
    (∀ row, state.database.orders.lookup orderId = some row →
      orderLedgerTotal orderId state.database.wallets = -row.pricing.consumedCentavos) ∧
      orderLedgerTotal orderId state.database.wallets ≤ 0 ∧
      state.database.migrateLegacyOnDelivery.migrateLegacyOnDelivery =
        state.database.migrateLegacyOnDelivery := by
  have accounted := accounted_of_reaches reached
  have books : ∀ row, state.database.orders.lookup orderId = some row →
      orderLedgerTotal orderId state.database.wallets =
          -row.pricing.consumedCentavos ∧
        0 ≤ row.pricing.consumedCentavos := by
    intro row found
    have stored := Database.account_eq_some.mpr ⟨row, found, rfl⟩
    exact (accounted.conserved _ stored).books
  refine ⟨fun row found => (books row found).1, ?_, Database.migrate_migrate _⟩
  cases found : state.database.orders.lookup orderId with
  | none => exact (accounted.inTouch.good.unborn found).1.le
  | some row =>
    rcases books row found with ⟨balanced, consumed⟩
    rw [balanced]
    exact neg_nonpos.mpr consumed

namespace Shop

def prepaid : RecordCollectionInput :=
  { paymentTiming := some .onPickup
    paymentMethod := some .cash
    measured := { actualWeightKg := some 4 } }

/-- The platform waives its fee for merchants. -/
def feeWaiver : PromoCode where
  _id := "waiver"
  code := "FREEFEE"
  scope := some .platformFee
  discountType := .percentage
  discountValue := 100
  maxDiscountCentavos := none
  minOrderValueCentavos := none
  targetRoleIds := ["merchant"]
  firstOrderOnly := false
  usageCapTotal := none
  usageCapPerCustomer := 1
  usageCapPerSubject := none
  redemptionCount := 0
  startsAt := 0
  expiresAt := none
  isActive := true

def paidAtCounter : List MigratedAction :=
  (accepted ++ calls owner (.receiveAtCounter prepaid)).map .order

def waivedAtCounter : List MigratedAction := .order (.editPromos [feeWaiver]) :: paidAtCounter

def booked (state : State) : Option (ℤ × Option ℤ) :=
  (state.database.orders.lookup "order").map fun row =>
    (orderLedgerTotal "order" state.database.wallets, row.pricing.platformFeeConsumedCentavos)

end Shop

/-- The migration passes over an order that was paid for at the counter. -/
theorem migrationKeepsTheBooks_counter :
    ∃ state,
      (migratedSystem some).Reaches (Understood "order") .start state ∧
        Shop.booked state = some (-2000, some 2000) ∧
        ((∀ row, state.database.orders.lookup "order" = some row →
          orderLedgerTotal "order" state.database.wallets = -row.pricing.consumedCentavos) ∧
          orderLedgerTotal "order" state.database.wallets ≤ 0 ∧
          state.database.migrateLegacyOnDelivery.migrateLegacyOnDelivery =
            state.database.migrateLegacyOnDelivery) := by
  have performed :
      (((migratedSystem some).restrict (Understood "order")).perform
        (.migrate :: Shop.paidAtCounter ++ [.migrate, .migrate])
        .start).bind Shop.booked = some (-2000, some 2000) := by
    decide +kernel
  rcases System.reaches_of_bind_restrict performed with ⟨state, reached, seen⟩
  exact ⟨state, reached, seen, migrationKeepsTheBooks reached⟩

def currentOrders (orderId : ObjectId) (state : State) :
    MigratedAction → Bool
  | .order action => current orderId state action
  | .migrate => true

/-- A waived fee was never debited, and the migration counts it as debited. -/
theorem waivedFeeCountedAsDebited :
    ¬ ∀ (orderId : ObjectId) (state : State) (row : OnlineOrder),
      (migratedSystem some).Reaches
          (fun state action => currentOrders orderId state action = true)
          .start state →
        state.database.orders.lookup orderId = some row →
          orderLedgerTotal orderId state.database.wallets = -row.pricing.consumedCentavos := by
  intro claimed
  have performed : (((migratedSystem some).restrict (fun state action =>
          currentOrders "order" state action = true)).perform
        (Shop.waivedAtCounter ++ [.migrate]) .start).bind
        Shop.booked = some (0, some 2000) := by
    decide +kernel
  rcases System.reaches_of_bind_restrict performed with ⟨state, ran, seen⟩
  rcases Option.map_eq_some_iff.mp seen with ⟨row, found, amounts⟩
  rcases Prod.mk.inj amounts with ⟨total, consumed⟩
  have balanced := claimed "order" state row ran found
  rw [total, OrderPricing.consumedCentavos, consumed] at balanced
  exact absurd balanced (by decide)

end Lalaba.Orders
