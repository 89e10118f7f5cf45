import Lalaba.Orders.Custody
import Lalaba.Orders.Provenance

/-!
# The fee of an abandoned order

The sweep gives up on an order that waits unsettled past its deadline, and what
was debited of the platform fee is credited back: the provider did the work and
collected nothing.  An order also waits unsettled when a surcharge was approved
after all of its price had been collected, and there the same amount is credited
back.
-/

namespace Lalaba.Orders

open Foundation
open Foundation.Program
open Wallets

def Database.balance (branchId : ObjectId) (database : Database) :
    Option ℤ :=
  (database.wallets.wallets.lookup branchId).map Wallet.balanceCentavos

def Database.consumedOf (orderId : ObjectId) (database : Database) :
    Option ℤ :=
  (database.orders.lookup orderId).map fun row =>
    row.pricing.consumedCentavos

theorem balance_reverseFee {branchId orderId : ObjectId} {amount : ℤ}
    {database : Database} {wallets : WalletStore} (positive : 0 < amount)
    (reversed : database.wallets.reverseFee branchId amount orderId = .ok wallets) :
    ∃ balance, database.balance branchId = some balance ∧
      (database.putWallets wallets).balance branchId = some (balance + amount) := by
  rw [WalletStore.reverseFee, if_neg (not_le.mpr positive)] at reversed
  rcases WalletStore.moveBalance_ok.mp reversed with ⟨wallet, found, rfl⟩
  refine ⟨wallet.balanceCentavos, ?_, ?_⟩
  · rw [Database.balance, found]
    rfl
  · show ((database.wallets.wallets.insert branchId _).lookup
      branchId).map Wallet.balanceCentavos = _
    rw [AList.lookup_insert]
    rfl

namespace OnlineOrder

def KeepsEarnedFee (row : OnlineOrder) (database after : Database) :
    Prop :=
  0 < row.paymentSummary.collectedCentavos →
    after.balance row.provider.branchId =
        database.balance row.provider.branchId ∧
      after.consumedOf row._id = database.consumedOf row._id

def FeeReturned (row : OnlineOrder) (database after : Database) : Prop :=
  0 < row.pricing.consumedCentavos ∧
    after.balance row.provider.branchId =
      (database.balance row.provider.branchId).map (· + row.pricing.consumedCentavos) ∧
    after.consumedOf row._id = some 0

end OnlineOrder

/-- A document of the sweep, before a run and after one that was aborted. -/
structure GivenUp (orderId branchId : ObjectId) (reversible : ℤ)
    (document : OrderDocument) : Prop where
  identified : document.order._id = orderId
  offered : document.order.provider.branchId = branchId
  inserted : document.isNew = false
  unpriced : reversible ≤ 0 → .pricing ∉ document.modified

def returns (reversible : ℤ) : Touch → Prop
  | .patch _ => True
  | .consume _ => 0 < reversible
  | _ => False

section

variable {orderId branchId : ObjectId} {reversible : ℤ}

theorem GivenUp.applyPatch {document : OrderDocument}
    (givenUp : GivenUp orderId branchId reversible document)
    (patch : TransitionPatch) :
    GivenUp orderId branchId reversible (document.applyPatch patch) where
  identified := givenUp.identified
  offered := givenUp.offered
  inserted := givenUp.inserted
  unpriced := by
    intro spent member
    rcases Finset.mem_union.mp member with old | new
    · exact givenUp.unpriced spent old
    · exact pricing_not_mem_paths patch new

theorem GivenUp.saved {document : OrderDocument}
    (givenUp : GivenUp orderId branchId reversible document) :
    GivenUp orderId branchId reversible document.saved :=
  ⟨givenUp.identified, givenUp.offered, rfl, fun _ => by
    simp [OrderDocument.saved]⟩

theorem GivenUp.rests :
    Rests orderId (returns reversible)
      (fun session => GivenUp orderId branchId reversible session.memory) where
  identified := fun _ givenUp => givenUp.identified
  beside := fun _ _ _ _ _ givenUp => givenUp
  save := by
    intro session row saved givenUp ran
    rw [OrderDocument.save_saved ran]
    exact givenUp.saved
  update := fun _ _ _ _ givenUp _ => givenUp
  touch := by
    intro session touch may givenUp
    cases touch with
    | patch patch => exact givenUp.applyPatch patch
    | consume consumed =>
      exact ⟨givenUp.identified, givenUp.offered, givenUp.inserted,
        fun spent => absurd may (not_lt.mpr spent)⟩
    | collect | grant | reset | schedule => exact may.elim

theorem GivenUp.keeps (clock : Clock) (actorUid : Uid)
    (actorRole note : String) :
    Keeps (fun session : Session Database OrderDocument =>
        GivenUp orderId branchId reversible session.memory)
      (abandonInTransaction clock reversible actorUid actorRole note) := by
  have kept := (@GivenUp.rests orderId branchId reversible).kept
  have reversed : Keeps (fun session : Session Database OrderDocument =>
        GivenUp orderId branchId reversible session.memory)
      (reverseConsumedFee reversible) := by
    by_cases positive : 0 < reversible
    · exact kept.reverseConsumedFee fun _ => positive
    · apply kept.quiet.reading
      intro start _
      rw [if_neg positive]
      exact Keeps.pure ()
  apply reversed.bind
  intro _
  apply kept.quiet.saveDocument.bind
  intro _
  exact kept.quiet.applyTransition fun _ _ => trivial

end

/-! ## A run that commits -/

/-- A run of the sweep that has reversed what there is to reverse. -/
structure Reversed (orderId branchId : ObjectId) (reversible : ℤ)
    (base database : Database) (document : OrderDocument) : Prop where
  givenUp : GivenUp orderId branchId reversible document
  untouched : reversible ≤ 0 →
    database.balance branchId = base.balance branchId ∧
      database.consumedOf orderId = base.consumedOf orderId
  credited : 0 < reversible → ∃ balance,
    base.balance branchId = some balance ∧ database.balance branchId = some (balance + reversible)

section

variable {orderId branchId : ObjectId} {reversible : ℤ} {base : Database}

theorem Reversed.reverse :
    Ensures
      (fun database document => database = base ∧ GivenUp orderId branchId reversible document)
      (reverseConsumedFee reversible)
      (fun _ database document =>
        Reversed orderId branchId reversible base database document ∧
          (0 < reversible → .pricing ∈ document.modified ∧
            document.order.pricing.consumedCentavos = 0)) := by
  apply @Ensures.reading _ _ _ _ _ (GivenUp orderId branchId reversible)
  · exact fun _ _ start => start.2
  rintro start ⟨rfl, rfl, _, _⟩
  by_cases positive : 0 < reversible
  · rw [if_pos positive]
    have credited : Ensures
        (fun database document => database = base ∧
          GivenUp start.order._id start.order.provider.branchId reversible document)
        (onWallets (WalletStore.reverseFee start.order.provider.branchId
          reversible start.order._id))
        (fun _ database document =>
          Reversed start.order._id start.order.provider.branchId
            reversible base database document) := by
      apply Ensures.query
      rintro database document value after ⟨rfl, givenUp⟩ ran
      rcases bind_eq_ok.mp ran with ⟨wallets, outcome, ran⟩
      cases ran
      exact ⟨givenUp, fun spent => absurd positive (not_lt.mpr spent),
        fun _ => balance_reverseFee positive outcome⟩
    apply credited.bind
    intro _
    apply Ensures.edit
    intro database document reversed
    refine ⟨⟨⟨reversed.givenUp.identified, reversed.givenUp.offered,
      reversed.givenUp.inserted,
      fun spent => absurd positive (not_lt.mpr spent)⟩,
      reversed.untouched, reversed.credited⟩, fun _ => ⟨?_, rfl⟩⟩
    exact Finset.mem_insert_self _ _
  · rw [if_neg positive]
    apply Ensures.pure
    rintro database document ⟨rfl, givenUp⟩
    exact ⟨⟨givenUp, fun _ => ⟨rfl, rfl⟩,
      fun positive' => absurd positive' positive⟩,
      fun positive' => absurd positive' positive⟩

theorem Reversed.save : Ensures (fun database document =>
        Reversed orderId branchId reversible base database document ∧
          (0 < reversible → .pricing ∈ document.modified ∧
            document.order.pricing.consumedCentavos = 0))
      saveDocument
      (fun _ database document =>
        Reversed orderId branchId reversible base database document ∧
          (0 < reversible → database.consumedOf orderId = some 0)) := by
  apply ensures_saveDocument
  rintro database document row saved ⟨reversed, marked⟩ ran
  rcases reversed with ⟨givenUp, untouched, credited⟩
  rcases OrderDocument.save_ok givenUp.inserted ran with ⟨old, found, rfl, rfl⟩
  have identified := givenUp.identified
  subst identified
  have stored :
      (database.putOrder document.order._id
        (document.writeTo old)).consumedOf document.order._id =
          some (document.writeTo old).pricing.consumedCentavos := by
    rw [Database.consumedOf, Database.putOrder, AList.lookup_insert]
    rfl
  refine ⟨⟨givenUp.saved, ?_, credited⟩, ?_⟩
  · intro spent
    refine ⟨(untouched spent).1, ?_⟩
    rw [stored, ← (untouched spent).2, Database.consumedOf, found]
    show some (document.pick .pricing document.order.pricing old.pricing).consumedCentavos = _
    rw [OrderDocument.pick, if_neg (givenUp.unpriced spent)]
    rfl
  · intro positive
    rcases marked positive with ⟨member, nothing⟩
    rw [stored]
    show some (document.pick .pricing document.order.pricing old.pricing).consumedCentavos = _
    rw [OrderDocument.pick, if_pos member, nothing]

theorem consumedOf_patched {database : Database} {row : OnlineOrder}
    (patch : TransitionPatch) (event : OrderEvent)
    (found : database.orders.lookup orderId = some row) :
    ((database.putOrder orderId (patch.apply row)).createEvent
      event).consumedOf orderId = database.consumedOf orderId := by
  show ((database.orders.insert orderId (patch.apply row)).lookup orderId).map _ = _
  rw [AList.lookup_insert, Database.consumedOf, found]
  rfl

theorem Reversed.transition {clock : Clock} {actorUid : Uid}
    {actorRole : String} {note : Option String} :
    Ensures (fun database document =>
        Reversed orderId branchId reversible base database document ∧
          (0 < reversible → database.consumedOf orderId = some 0))
      (applyTransition clock .abandonedUnsettled actorUid actorRole note)
      (fun _ database document =>
        Reversed orderId branchId reversible base database document ∧
          (0 < reversible → database.consumedOf orderId = some 0)) := by
  let Done (database : Database) (document : OrderDocument) : Prop :=
    Reversed orderId branchId reversible base database document ∧
      (0 < reversible → database.consumedOf orderId = some 0)
  apply @ensures_transition _ _ _ _ _ _ Done
  · rintro database document row ⟨reversed, zeroed⟩ _ found _
    rcases reversed with ⟨givenUp, untouched, credited⟩
    rw [givenUp.identified] at found ⊢
    refine ⟨⟨givenUp.applyPatch _, ?_, credited⟩, ?_⟩
    · intro spent
      refine ⟨(untouched spent).1, ?_⟩
      rw [consumedOf_patched _ _ found]
      exact (untouched spent).2
    · intro positive
      rw [consumedOf_patched _ _ found]
      exact zeroed positive
  · intro order
    rw [settlePromo_eq (by decide)]
    exact Ensures.pure fun _ _ => id

end

/-- What the sweep does to the fee of the order it gives up on. -/
theorem abandon_commits {row : OnlineOrder} {callback : Callback}
    {prepared document document' : OrderDocument} {clock : Clock}
    {database after : Database}
    (called : abandonUnsettledOrder row = .ok (.transaction callback prepared))
    (retried : callback.Retried prepared document)
    (outcome : (callback.program clock).commit database document = (.ok (), after, document')) :
    (row.pricing.consumedCentavos ≤ 0 → after.balance row.provider.branchId =
          database.balance row.provider.branchId ∧
        after.consumedOf row._id = database.consumedOf row._id) ∧
      (0 < row.pricing.consumedCentavos → (∃ balance,
          database.balance row.provider.branchId = some balance ∧
            after.balance row.provider.branchId = some (balance + row.pricing.consumedCentavos)) ∧
          after.consumedOf row._id = some 0) := by
  rw [abandonUnsettledOrder] at called
  split at called
  · cases called
  cases called
  have givenUp : GivenUp row._id row.provider.branchId
      row.pricing.consumedCentavos document :=
    retried.holds (fun clock => GivenUp.keeps clock _ _ _)
      ⟨rfl, rfl, rfl, fun _ => Finset.notMem_empty _⟩
  have ran : Ensures
      (fun store memory => store = database ∧
        GivenUp row._id row.provider.branchId row.pricing.consumedCentavos memory)
      (abandonInTransaction clock row.pricing.consumedCentavos "system"
        "system" "Unsettled past the abandonment window")
      (fun _ store memory =>
        Reversed row._id row.provider.branchId
            row.pricing.consumedCentavos database store memory ∧
          (0 < row.pricing.consumedCentavos → store.consumedOf row._id = some 0)) := by
    apply Reversed.reverse.bind
    intro _
    apply Reversed.save.bind
    intro _
    exact Reversed.transition
  rcases ran.committed ⟨rfl, givenUp⟩ outcome with ⟨reversed, zeroed⟩
  exact ⟨reversed.untouched, fun positive =>
    ⟨reversed.credited positive, zeroed positive⟩⟩

/--
The sweep leaves the fee that was earned alone, and credits all of the fee back
only when nothing was collected, exactly when nothing was collected or none of
the fee had been debited.
-/
theorem feesOfPaidOrdersAreKept {row : OnlineOrder} {callback : Callback}
    {prepared document document' : OrderDocument} {clock : Clock}
    {database after : Database}
    (called : abandonUnsettledOrder row = .ok (.transaction callback prepared))
    (retried : callback.Retried prepared document)
    (outcome : (callback.program clock).commit database document = (.ok (), after, document')) :
    (row.KeepsEarnedFee database after ↔
        row.paymentSummary.collectedCentavos ≤ 0 ∨ row.pricing.consumedCentavos ≤ 0) ∧
      ((row.FeeReturned database after → row.paymentSummary.collectedCentavos ≤ 0) ↔
        row.paymentSummary.collectedCentavos ≤ 0 ∨ row.pricing.consumedCentavos ≤ 0) := by
  rcases abandon_commits called retried outcome with ⟨untouched, returned⟩
  constructor
  · constructor
    · intro keeps
      by_contra earned
      push Not at earned
      rcases (returned earned.2).1 with ⟨balance, before, credited⟩
      have same := (keeps earned.1).1
      rw [before, credited, Option.some.injEq] at same
      linarith [earned.2]
    · rintro (unpaid | undebited) paid
      · exact absurd paid (not_lt.mpr unpaid)
      · exact untouched undebited
  · constructor
    · intro onlyUnpaid
      by_contra earned
      push Not at earned
      rcases returned earned.2 with ⟨⟨balance, before, credited⟩, zeroed⟩
      have unpaid := onlyUnpaid ⟨earned.2, by rw [credited, before]; rfl, zeroed⟩
      exact absurd earned.1 (not_lt.mpr unpaid)
    · rintro (unpaid | undebited) ⟨debited, _⟩
      · exact unpaid
      · exact absurd debited (not_lt.mpr undebited)

/-- Nothing was collected for the shop's order, and its fee is returned. -/
theorem feesOfPaidOrdersAreKept_unpaid :
    ∃ state row after,
      (orderSystem some).Reaches (fun _ _ => True) .start state ∧
        state.database.orders.lookup "order" = some row ∧
        row.KeepsEarnedFee state.database after ∧
        (row.FeeReturned state.database after → row.paymentSummary.collectedCentavos ≤ 0) := by
  have performed : ((orderSystem some).perform Shop.washed .start).bind (fun state =>
          (state.database.orders.lookup "order").map fun row =>
            (row.status, row.paymentSummary.collectedCentavos,
              ((abandonInTransaction (Shop.clock 864000000)
                row.pricing.consumedCentavos "system" "system"
                "Unsettled past the abandonment window").commit
                state.database (.ofRow row)).1.toOption)) =
        some (.awaitingCustomerPickup, 0, some ()) := by
    decide +kernel
  rcases System.reaches_of_bind performed with ⟨state, ran, seen⟩
  rcases Option.map_eq_some_iff.mp seen with ⟨row, found, facts⟩
  simp only [Prod.mk.injEq] at facts
  rcases facts with ⟨status, unpaid, commits⟩
  have called : abandonUnsettledOrder row =
      .ok (.transaction
        (.abandon row.pricing.consumedCentavos "system" "system"
          "Unsettled past the abandonment window")
        (.ofRow row)) := by
    rw [abandonUnsettledOrder, if_neg (by rw [status]; decide)]
  rcases outcome : (abandonInTransaction (Shop.clock 864000000)
      row.pricing.consumedCentavos "system" "system"
      "Unsettled past the abandonment window").commit state.database
      (.ofRow row) with ⟨failure | value, after, document⟩
  · rw [outcome] at commits
    cases commits
  · rcases feesOfPaidOrdersAreKept called .first outcome with ⟨keeps, returns⟩
    exact ⟨state, row, after, ran, found, keeps.mpr (.inl unpaid.le), returns.mpr (.inl unpaid.le)⟩

/-- A surcharge is approved after the price was collected. -/
def Shop.surcharged : List Action :=
  Shop.accepted ++
    Shop.calls Shop.owner (.receiveAtCounter
      { paymentMethod := some .cash
        tenderedCentavos := some 50000
        measured := { actualWeightKg := some 4 } }) ++
    Shop.calls Shop.owner (.raiseQualityHold
      { serviceLineIndex := 0
        reason := "Stains"
        blocksOrder := true
        additionalChargeCentavos := some 5000 }) ++
    Shop.calls Shop.customer (.respondToQualityHold true) ++
    Shop.calls Shop.owner .markLaundryReady ++ [Shop.proceeds]

set_option synthInstance.maxSize 1000 in
/--
The order that was paid for but for its surcharge is given up, and the fee on
all that was collected comes back.
-/
theorem feeOfPaidOrderNotKept :
    ¬ ∀ (orderId : ObjectId) (state next after : State)
        (environment environment' : Environment) (clock clock' : Clock)
        (actor : User) (row : OnlineOrder),
        (orderSystem some).Reaches (fun _ _ => True) .start state →
        state.database.orders.lookup orderId = some row →
        0 < row.paymentSummary.collectedCentavos →
        (orderSystem some).step
          (.request environment clock actor orderId .abandonUnsettledOrder) state = some next →
        (orderSystem some).step (.commit state.calls.length environment' clock') next = some after →
        ¬ row.FeeReturned state.database after.database := by
  intro always
  have performed :
      ((orderSystem some).perform (Shop.surcharged ++ [.sweep (Shop.clock 864000000)])
        .start).bind (fun state =>
          ((orderSystem some).step
            (.request Shop.environment (Shop.clock 864000000) Shop.owner
              "order" .abandonUnsettledOrder) state).bind fun next =>
          ((orderSystem some).step
            (.commit state.calls.length Shop.environment
              (Shop.clock 864000000)) next).bind fun after =>
          (state.database.orders.lookup "order").map fun row =>
            (row.paymentSummary.collectedCentavos,
              row.pricing.consumedCentavos, row.provider.branchId,
              row._id, state.database.balance "branch",
              after.database.balance "branch",
              after.database.consumedOf "order")) =
        some (22000, 2000, "branch", "order", some 148000, some 150000, some 0) := by
    decide +kernel
  rcases System.reaches_of_bind performed with ⟨state, ran, seen⟩
  rcases Option.bind_eq_some_iff.mp seen with ⟨next, called, seen⟩
  rcases Option.bind_eq_some_iff.mp seen with ⟨after, stepped, seen⟩
  rcases Option.map_eq_some_iff.mp seen with ⟨row, found, facts⟩
  simp only [Prod.mk.injEq] at facts
  rcases facts with ⟨collected, consumed, branch, identified, before, credited, zeroed⟩
  apply always "order" state next after _ _ _ _ _ row
    ran found (by rw [collected]; norm_num)
    called stepped
  refine ⟨by rw [consumed]; decide, ?_, by rw [identified, zeroed]⟩
  rw [branch, before, credited, consumed]
  rfl

end Lalaba.Orders
