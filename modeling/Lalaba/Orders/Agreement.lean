import Lalaba.Orders.Account

/-!
# What a document knows of an account

`Agrees` is the assertion that carries the refinement of the order service by
accounts: every account is known, and what the document in memory says about
its order's standing is what the row says.  The shared parts of a transaction
are single changes of the account under this assertion.
-/

namespace Lalaba.Orders

open Foundation
open Foundation.Program
open Promotions
open Wallets

/-! ## Accounts under single writes -/

namespace Database

variable {orderId other : ObjectId} {database : Database}

@[simp]
theorem account_createEvent (event : OrderEvent) :
    (database.createEvent event).account orderId =
      database.account orderId :=
  rfl

@[simp]
theorem account_putPromotions (promotions : PromotionStore) :
    (database.putPromotions promotions).account orderId =
      database.account orderId :=
  rfl

theorem account_eq_some {account : Account} :
    database.account orderId = some account ↔
      ∃ row, database.orders.lookup orderId = some row ∧
        account =
          { toStanding := row.standing
            debited := -orderLedgerTotal orderId database.wallets
            received := orderReceipts orderId database } := by
  rw [Database.account, Option.map_eq_some_iff]
  constructor
  · rintro ⟨row, found, rfl⟩
    exact ⟨row, found, rfl⟩
  · rintro ⟨row, found, rfl⟩
    exact ⟨row, found, rfl⟩

theorem account_putOrder (row : OnlineOrder) {account : Account}
    (stored : database.account orderId = some account) :
    (database.putOrder orderId row).account other =
      if other = orderId then
        some { account with toStanding := row.standing }
      else
        database.account other := by
  rcases account_eq_some.mp stored with ⟨_, _, rfl⟩
  by_cases same : other = orderId
  · subst same
    simp [Database.account, putOrder, orderReceipts]
  · simp [Database.account, putOrder, orderReceipts, same]

theorem account_createTransaction (transaction : OnlineTransaction) :
    (database.createTransaction transaction).account other =
      (database.account other).map fun account =>
        if transaction.orderId = other then
          { account with
            received := account.received + transaction.amountCentavos }
        else
          account := by
  rcases found : database.orders.lookup other with _ | row
  · simp [Database.account, createTransaction, found]
  · by_cases same : transaction.orderId = other
    · simp [Database.account, createTransaction, found, orderReceipts,
        Ledger.total_append, Ledger.total_singleton, same]
    · simp [Database.account, createTransaction, found, orderReceipts,
        Ledger.total_append, Ledger.total_singleton, same]

theorem account_moveBalance {branchId : ObjectId}
    {type : WalletLedgerEntryType} {amountCentavos : ℤ}
    {wallets : WalletStore}
    (moved : database.wallets.moveBalance branchId type amountCentavos
      (some orderId) = .ok wallets) :
    (database.putWallets wallets).account other = (database.account other).map fun account =>
        if orderId = other then
          { account with debited := account.debited - amountCentavos }
        else
          account := by
  rcases WalletStore.moveBalance_ok.mp moved with ⟨wallet, _, rfl⟩
  rcases found : database.orders.lookup other with _ | row
  · simp [Database.account, putWallets, found]
  · by_cases same : orderId = other
    · simp [Database.account, putWallets, found, orderReceipts,
        orderLedgerTotal, Ledger.total_append, Ledger.total_singleton,
        same, sub_eq_add_neg, add_comm]
    · simp [Database.account, putWallets, found, orderReceipts,
        orderLedgerTotal, Ledger.total_append, Ledger.total_singleton, same]

end Database

/-- What a save does not write is what is stored. -/
structure OrderDocument.Writes (document : OrderDocument) (stored : Standing) : Prop where
  status : .status ∉ document.modified → document.order.status = stored.status
  version : .version ∉ document.modified → document.order.version = stored.version
  pickupMode : document.order.fulfillment.pickupMode = stored.pickupMode
  pricing : .pricing ∉ document.modified →
    document.order.standing.due = stored.due ∧
      document.order.standing.owed = stored.owed ∧
      document.order.standing.consumed = stored.consumed
  payment : .paymentSummary ∉ document.modified →
    document.order.standing.collected = stored.collected

theorem OrderDocument.Writes.of_eq {document : OrderDocument}
    {stored : Standing} (equal : document.order.standing = stored) :
    document.Writes stored := by
  subst equal
  constructor
  · exact fun _ => rfl
  · exact fun _ => rfl
  · rfl
  · exact fun _ => ⟨rfl, rfl, rfl⟩
  · exact fun _ => rfl

theorem OrderDocument.Writes.standing_writeTo {document : OrderDocument}
    {row : OnlineOrder} (writes : document.Writes row.standing) :
    (document.writeTo row).standing = document.order.standing := by
  have status := writes.status
  have version := writes.version
  have pricing := writes.pricing
  have payment := writes.payment
  simp only [OnlineOrder.standing] at status version pricing payment
  simp only [OnlineOrder.standing, writeTo, pick, Standing.mk.injEq]
  refine ⟨?_, ?_, writes.pickupMode.symm, ?_, ?_, ?_, ?_⟩
  · split
    · rfl
    · exact (status (by assumption)).symm
  · split
    · rfl
    · exact (version (by assumption)).symm
  · split
    · rfl
    · exact (pricing (by assumption)).1.symm
  · split
    · rfl
    · exact (payment (by assumption)).symm
  · split
    · rfl
    · exact (pricing (by assumption)).2.1.symm
  · split
    · rfl
    · exact (pricing (by assumption)).2.2.symm

@[simp]
theorem OrderDocument.saved_standing (document : OrderDocument) :
    document.saved.order.standing = document.order.standing :=
  rfl

section

variable {orderId : ObjectId} {elsewhere : ObjectId → Option Account}

def Database.Holds (orderId : ObjectId) (account : Account)
    (elsewhere : ObjectId → Option Account) (database : Database) : Prop :=
  ∀ other, database.account other =
    if other = orderId then some account else elsewhere other

/--
The document of an order whose account is known, with what it says about the
order's standing.
-/
structure Loaded (orderId : ObjectId)
    (elsewhere : ObjectId → Option Account) (account : Account)
    (standing : Standing) (database : Database)
    (document : OrderDocument) : Prop where
  holds : database.Holds orderId account elsewhere
  identified : document.order._id = orderId
  inserted : document.isNew = false
  standing : document.order.standing = standing

abbrev Agrees (orderId : ObjectId)
    (elsewhere : ObjectId → Option Account) (account : Account)
    (database : Database) (document : OrderDocument) : Prop :=
  Loaded orderId elsewhere account account.toStanding database document

theorem Database.Holds.stored {account : Account} {database : Database}
    (holds : database.Holds orderId account elsewhere) :
    database.account orderId = some account := by
  simpa using holds orderId

theorem Database.Holds.row {account : Account} {database : Database}
    (holds : database.Holds orderId account elsewhere) :
    ∃ row, database.orders.lookup orderId = some row ∧ row.standing = account.toStanding := by
  rcases Database.account_eq_some.mp holds.stored with ⟨row, found, rfl⟩
  exact ⟨row, found, rfl⟩

theorem Database.Holds.putOrder {account : Account} {database : Database}
    (holds : database.Holds orderId account elsewhere)
    (row : OnlineOrder) :
    (database.putOrder orderId row).Holds orderId
      { account with toStanding := row.standing } elsewhere := by
  intro other
  rw [Database.account_putOrder _ holds.stored]
  split
  · rfl
  · rename_i different
    rw [holds other, if_neg different]

theorem ensures_firstSave {account : Account} {standing : Standing} :
    Ensures (fun database document =>
        Loaded orderId elsewhere account standing database document ∧
          document.Writes account.toStanding)
      saveDocument
      (fun _ => Agrees orderId elsewhere { account with toStanding := standing }) := by
  apply ensures_saveDocument
  rintro database document row after ⟨loaded, writes⟩ saved
  rcases OrderDocument.save_ok loaded.inserted saved with ⟨old, found, rfl, rfl⟩
  rcases loaded.holds.row with ⟨current, lookup, same⟩
  rw [loaded.identified, lookup] at found
  cases found
  have written : (document.writeTo old).standing = standing := by
    rw [← loaded.standing]
    apply OrderDocument.Writes.standing_writeTo
    rw [same]
    exact writes
  constructor
  · rw [loaded.identified, ← written]
    exact loaded.holds.putOrder _
  · exact loaded.identified
  · rfl
  · exact loaded.standing

/-! ## Transitions -/

def Standing.moveTo (target : OrderStatus) (standing : Standing) :
    Standing :=
  { standing with
    status := target
    version := standing.version + 1 }

/-- Two standings that may differ by what is owed of the fee. -/
structure Standing.UpToFee (standing other : Standing) : Prop where
  status : standing.status = other.status
  version : standing.version = other.version
  pickupMode : standing.pickupMode = other.pickupMode
  due : standing.due = other.due
  collected : standing.collected = other.collected
  consumed : standing.consumed = other.consumed

theorem Standing.UpToFee.refl (standing : Standing) :
    standing.UpToFee standing :=
  ⟨rfl, rfl, rfl, rfl, rfl, rfl⟩

def Standing.requote (owed : ℤ) (standing : Standing) : Standing := { standing with owed }

theorem Standing.UpToFee.requote {standing other : Standing}
    (upToFee : standing.UpToFee other) :
    standing = other.requote standing.owed := by
  rcases standing with ⟨_, _, _, _, _, _, _⟩
  rcases other with ⟨_, _, _, _, _, _, _⟩
  rcases upToFee with ⟨rfl, rfl, rfl, rfl, rfl, rfl⟩
  rfl

theorem OrderDocument.writeTo_upToFee {document : OrderDocument}
    {row : OnlineOrder}
    (upToFee : document.order.standing.UpToFee row.standing) :
    (document.writeTo row).standing.UpToFee row.standing := by
  constructor
  · show document.pick .status document.order.status row.status = row.status
    rw [pick]
    split
    · exact upToFee.status
    · rfl
  · show document.pick .version document.order.version row.version = row.version
    rw [pick]
    split
    · exact upToFee.version
    · rfl
  · rfl
  · show (document.pick .pricing document.order.pricing
      row.pricing).dueCentavos = row.pricing.dueCentavos
    rw [pick]
    split
    · exact upToFee.due
    · rfl
  · show (document.pick .paymentSummary document.order.paymentSummary
      row.paymentSummary).collectedCentavos = row.paymentSummary.collectedCentavos
    rw [pick]
    split
    · exact upToFee.collected
    · rfl
  · show (document.pick .pricing document.order.pricing
      row.pricing).consumedCentavos = row.pricing.consumedCentavos
    rw [pick]
    split
    · exact upToFee.consumed
    · rfl

def OnlineOrder.Dated (order : OnlineOrder) : Prop :=
  order.status.abandonmentWaiting → order.abandonmentDeadlineAt ≠ none →
    order.standing.collected < order.standing.due

theorem outstandingCentavos_pos {order : OnlineOrder} :
    0 < order.outstandingCentavos ↔ order.standing.collected < order.standing.due := by
  simp [OnlineOrder.outstandingCentavos, OnlineOrder.standing]

theorem transitionPatch_dated {clock : Clock} {target : OrderStatus}
    {order row : OnlineOrder}
    (same : order.standing.UpToFee row.standing) :
    ((transitionPatch clock target order).apply row).Dated := by
  intro waiting deadline
  have target : target.abandonmentWaiting = true := waiting
  simp only [TransitionPatch.apply, transitionPatch, target, if_true, Option.getD_some] at deadline
  by_cases outstanding : 0 < order.outstandingCentavos
  · have unpaid := outstandingCentavos_pos.mp outstanding
    rw [same.due, same.collected] at unpaid
    exact unpaid
  · simp [outstanding] at deadline

theorem ensures_settlePromo {clock : Clock} {order : OnlineOrder}
    {target : OrderStatus} {before : Database → OrderDocument → Prop}
    (indifferent : ∀ database document promotions,
      before database document → before (database.putPromotions promotions) document) :
    Ensures before (settlePromoForTransition clock order target) (fun _ => before) := by
  rw [settlePromoForTransition]
  split
  · split
    · apply Ensures.query
      rintro database document value after start ran
      cases ran
      exact indifferent _ _ _ start
    · split
      · apply Ensures.query
        rintro database document value after start ran
        cases ran
        exact indifferent _ _ _ start
      · exact Ensures.pure fun _ _ => id
  · exact Ensures.pure fun _ _ => id

def Database.Dated (orderId : ObjectId) (database : Database) : Prop :=
  ∀ row, database.orders.lookup orderId = some row → row.Dated

theorem transitionPatch_standing {clock : Clock} {target : OrderStatus}
    {order row : OnlineOrder}
    (version : order.standing.version = row.standing.version) :
    ((transitionPatch clock target order).apply row).standing =
      row.standing.moveTo target := by
  have same : order.version = row.version := version
  simp [TransitionPatch.apply, transitionPatch, OnlineOrder.standing, Standing.moveTo, same]

theorem updateOrder_loaded {account : Account} {standing : Standing}
    {clock : Clock} {target : OrderStatus} {database after : Database}
    {document : OrderDocument} {value : Unit}
    (upToFee : standing.UpToFee account.toStanding)
    (loaded : Loaded orderId elsewhere account standing database document)
    (updated : updateOrder document.order._id document.order.version
      (transitionPatch clock target document.order) database = .ok (value, after)) :
    Loaded orderId elsewhere (account.moveTo target)
        (standing.moveTo target) after
        (document.applyPatch (transitionPatch clock target document.order)) ∧
      after.Dated orderId := by
  rcases updateOrder_ok.mp updated with ⟨row, found, _, rfl⟩
  rcases loaded.holds.row with ⟨_, lookup, stored⟩
  rw [loaded.identified] at found ⊢
  rw [found] at lookup
  cases lookup
  have same : document.order.standing.UpToFee row.standing := by
    rw [stored, loaded.standing]
    exact upToFee
  have moved : ((transitionPatch clock target document.order).apply
      row).standing = (account.moveTo target).toStanding := by
    rw [transitionPatch_standing same.version, stored]
    rfl
  have remembered : ((transitionPatch clock target document.order).apply
      document.order).standing = standing.moveTo target := by
    rw [transitionPatch_standing rfl, loaded.standing]
  have holds := loaded.holds.putOrder ((transitionPatch clock target document.order).apply row)
  rw [moved] at holds
  constructor
  · exact ⟨holds, loaded.identified, loaded.inserted, remembered⟩
  · intro after inserted
    rw [Database.putOrder, AList.lookup_insert] at inserted
    cases inserted
    exact transitionPatch_dated same

theorem ensures_applyTransition {account : Account}
    {standing : Standing} {clock : Clock} {target : OrderStatus}
    {actorUid : Uid} {actorRole : String} {note : Option String}
    (upToFee : standing.UpToFee account.toStanding) :
    Ensures (Loaded orderId elsewhere account standing)
      (applyTransition clock target actorUid actorRole note)
      (fun _ database document =>
        target ∈ account.status.transitions ∧
          Loaded orderId elsewhere (account.moveTo target)
            (standing.moveTo target) database document ∧
          database.Dated orderId) := by
  apply Ensures.remembering
  intro start
  let Start : Database → OrderDocument → Prop := fun database document =>
    Loaded orderId elsewhere account standing database document ∧ document = start
  have validated : Ensures Start
      (check (assertValidTransition start.order.status target))
      (fun _ database document => Start database document ∧
        target ∈ account.status.transitions) := by
    apply Ensures.check
    rintro _ database document allowed ⟨loaded, rfl⟩
    have status : document.order.status = account.status :=
      (congrArg Standing.status loaded.standing).trans upToFee.status
    rw [status] at allowed
    exact ⟨⟨loaded, rfl⟩, assertValidTransition_ok.mp allowed⟩
  apply validated.bind
  intro _
  let patch := transitionPatch clock target start.order
  -- In memory the order has moved; in the database it has not.
  let Patched : Database → OrderDocument → Prop :=
    fun database document =>
      Start database start ∧ target ∈ account.status.transitions ∧ document = start.applyPatch patch
  have patched : Ensures
      (fun database document => Start database document ∧ target ∈ account.status.transitions)
      (edit (OrderDocument.applyPatch patch) : OrderProgram Unit)
      (fun _ => Patched) := by
    apply Ensures.edit
    rintro database document ⟨⟨loaded, rfl⟩, allowed⟩
    exact ⟨⟨loaded, rfl⟩, allowed, rfl⟩
  apply patched.bind
  intro _
  let Moved : Database → OrderDocument → Prop :=
    fun database document =>
      target ∈ account.status.transitions ∧
        Loaded orderId elsewhere (account.moveTo target)
          (standing.moveTo target) database document ∧
        database.Dated orderId
  have updated : Ensures Patched
      (query (updateOrder start.order._id start.order.version patch))
      (fun _ => Moved) := by
    apply Ensures.query
    rintro database document value database' ⟨⟨loaded, _⟩, allowed, rfl⟩ ran
    exact ⟨allowed, updateOrder_loaded upToFee loaded ran⟩
  apply updated.bind
  intro _
  have recorded : Ensures Moved
      (query (recordTransition start.order._id start.order.status target actorUid actorRole note))
      (fun _ => Moved) := by
    apply Ensures.query
    rintro database document value database' ⟨allowed, loaded, dated⟩ ran
    cases ran
    exact ⟨allowed, ⟨loaded.holds, loaded.identified, loaded.inserted, loaded.standing⟩, dated⟩
  apply recorded.bind
  intro _
  apply ensures_settlePromo
  rintro database document promotions ⟨allowed, loaded, dated⟩
  exact ⟨allowed, ⟨loaded.holds, loaded.identified, loaded.inserted, loaded.standing⟩, dated⟩

/-! ## Fees -/

theorem setConsumed_standing (consumed : ℤ) (document : OrderDocument) :
    (document.setConsumed consumed).order.standing = { document.order.standing with consumed } :=
  rfl

theorem Database.Holds.moveBalance {account : Account}
    {database : Database} {branchId : ObjectId}
    {type : WalletLedgerEntryType} {amountCentavos : ℤ}
    {wallets : WalletStore}
    (holds : database.Holds orderId account elsewhere)
    (moved : database.wallets.moveBalance branchId type amountCentavos
      (some orderId) = .ok wallets) :
    (database.putWallets wallets).Holds orderId
      { account with debited := account.debited - amountCentavos }
      elsewhere := by
  intro other
  rw [Database.account_moveBalance moved, holds other]
  by_cases same : other = orderId
  · simp [same]
  · simp [same, Ne.symm same]

theorem ensures_onWallets {account : Account} {standing : Standing}
    {operation : WalletStore → Except ServiceError WalletStore}
    {branchId : ObjectId} {type : WalletLedgerEntryType}
    {amountCentavos : ℤ}
    (moves : ∀ wallets, operation wallets =
      wallets.moveBalance branchId type amountCentavos (some orderId)) :
    Ensures (Loaded orderId elsewhere account standing)
      (onWallets operation)
      (fun _ => Loaded orderId elsewhere
        { account with debited := account.debited - amountCentavos }
        standing) := by
  apply Ensures.query
  rintro database document value database' loaded ran
  rw [moves] at ran
  rcases map_eq_ok.mp ran with ⟨wallets, outcome, ran⟩
  cases ran
  exact ⟨loaded.holds.moveBalance outcome, loaded.identified, loaded.inserted, loaded.standing⟩

theorem writes_setConsumed {consumed : ℤ} {document : OrderDocument}
    {stored : Standing}
    (same : (document.setConsumed consumed).order.standing = { stored with consumed }) :
    (document.setConsumed consumed).Writes stored := by
  have status := congrArg Standing.status same
  have version := congrArg Standing.version same
  have pickupMode := congrArg Standing.pickupMode same
  have collected := congrArg Standing.collected same
  constructor
  · exact fun _ => status
  · exact fun _ => version
  · exact pickupMode
  · intro clean
    simp [OrderDocument.setConsumed, OrderDocument.assign, OrderDocument.markModified] at clean
  · exact fun _ => collected

theorem ensures_saveConsumed {account : Account} {standing : Standing}
    {consumed : ℤ}
    (same : { account.toStanding with consumed } = { standing with consumed }) :
    Ensures (Loaded orderId elsewhere account standing) (do
        edit (OrderDocument.setConsumed consumed)
        saveDocument)
      (fun _ => Agrees orderId elsewhere { account with consumed }) := by
  have edited : Ensures (Loaded orderId elsewhere account standing)
      (edit (OrderDocument.setConsumed consumed) : OrderProgram Unit)
      (fun _ database document =>
        Loaded orderId elsewhere account { standing with consumed }
            database document ∧
          document.Writes account.toStanding) := by
    apply Ensures.edit
    intro database document loaded
    have standing : (document.setConsumed consumed).order.standing =
        { standing with consumed } := by
      rw [setConsumed_standing, loaded.standing]
    refine ⟨⟨loaded.holds, loaded.identified, loaded.inserted, standing⟩, ?_⟩
    apply writes_setConsumed
    rw [standing, same]
  apply edited.bind
  intro _
  rw [← same]
  exact ensures_firstSave

theorem reverseFee_eq {branchId : ObjectId} {amountCentavos : ℤ}
    (positive : 0 < amountCentavos) (wallets : WalletStore) :
    wallets.reverseFee branchId amountCentavos orderId =
      wallets.moveBalance branchId .feeReversal amountCentavos (some orderId) := by
  rw [WalletStore.reverseFee, if_neg (not_le.mpr positive)]

theorem ensures_consumeOutstandingFee {account : Account} :
    Ensures (Agrees orderId elsewhere account) consumeOutstandingFee
      (fun _ => Agrees orderId elsewhere account.settleFee) := by
  have known : ∀ database document,
      Agrees orderId elsewhere account database document →
        document.order._id = orderId ∧ document.order.standing = account.toStanding :=
    fun _ _ agrees => ⟨agrees.identified, agrees.standing⟩
  apply Ensures.reading known
  rintro start ⟨identified, standing⟩
  have owed : start.order.pricing.chargeablePlatformFeeCentavos =
      account.owed := congrArg Standing.owed standing
  have consumed : start.order.pricing.consumedCentavos =
      account.consumed := congrArg Standing.consumed standing
  dsimp only
  rw [identified, owed, consumed]
  split
  · -- Nothing is outstanding.
    rename_i settled
    have same : account.settleFee = account := by
      rcases account with ⟨⟨_, _, _, _, _, _, _⟩, _, _⟩
      simp_all [Account.settleFee]
    rw [same]
    exact Ensures.pure fun _ _ => id
  · split
    · -- More was debited than is owed.
      rename_i exceeds
      have moved := @ensures_onWallets orderId elsewhere account
        account.toStanding _ start.order.provider.branchId _ _
        (reverseFee_eq (sub_pos.mpr exceeds))
      apply moved.bind
      intro _
      apply (ensures_saveConsumed rfl).weaken (fun _ _ => id)
      intro _ database document agrees
      rw [sub_sub_eq_add_sub, add_sub_assoc] at agrees
      exact agrees
    · have moved := @ensures_onWallets orderId elsewhere account
        account.toStanding
        (WalletStore.consumeFee start.order.provider.branchId
          (account.owed - account.consumed) orderId) _ _ _
        (fun _ => rfl)
      apply moved.bind
      intro _
      apply (ensures_saveConsumed rfl).weaken (fun _ _ => id)
      intro _ database document agrees
      rw [sub_neg_eq_add] at agrees
      exact agrees

theorem Database.Holds.createTransaction {account : Account}
    {database : Database} {transaction : OnlineTransaction}
    (holds : database.Holds orderId account elsewhere)
    (identified : transaction.orderId = orderId) :
    (database.createTransaction transaction).Holds orderId { account with
        received := account.received + transaction.amountCentavos }
      elsewhere := by
  intro other
  rw [Database.account_createTransaction, holds other, identified]
  by_cases same : other = orderId
  · simp [same]
  · simp [same, Ne.symm same]

theorem ensures_recordCollectionTransaction {account : Account}
    {clock : Clock} {actor : User} {input : PaymentCollectionFields}
    {amount : ℚ} {status : OnlineTransactionStatus} :
    Ensures (Agrees orderId elsewhere account)
      (recordCollectionTransaction clock actor input amount status)
      (fun _ => Agrees orderId elsewhere (account.collect amount)) := by
  have known : ∀ database document,
      Agrees orderId elsewhere account database document → document.order._id = orderId :=
    fun _ _ agrees => agrees.identified
  apply Ensures.reading known
  intro start identified
  have checked : Ensures (Agrees orderId elsewhere account)
      (check (checkCollection input amount))
      (fun _ => Agrees orderId elsewhere account) :=
    Ensures.check fun _ _ _ _ agrees => agrees
  apply checked.bind
  rintro ⟨paymentMethod, tenderedCentavos, changeCentavos⟩
  let paid : Standing := { account.toStanding with collected := account.collected + amount }
  have edited : Ensures (Agrees orderId elsewhere account)
      (edit (OrderDocument.collect clock actor._id input paymentMethod
        tenderedCentavos changeCentavos amount) : OrderProgram Unit)
      (fun _ database document =>
        Loaded orderId elsewhere account paid database document ∧
          document.Writes account.toStanding) := by
    apply Ensures.edit
    intro database document agrees
    have standing := agrees.standing
    have status := congrArg Standing.status standing
    have version := congrArg Standing.version standing
    have pickupMode := congrArg Standing.pickupMode standing
    have due := congrArg Standing.due standing
    have owed := congrArg Standing.owed standing
    have consumed := congrArg Standing.consumed standing
    constructor
    · refine ⟨agrees.holds, agrees.identified, agrees.inserted, ?_⟩
      show { document.order.standing with
        collected := document.order.standing.collected + amount } = paid
      rw [standing]
    · constructor
      · exact fun _ => status
      · exact fun _ => version
      · exact pickupMode
      · exact fun _ => ⟨due, owed, consumed⟩
      · intro clean
        simp [OrderDocument.collect, OrderDocument.assign, OrderDocument.markModified] at clean
  apply edited.bind
  intro _
  apply ensures_firstSave.bind
  intro _
  apply Ensures.query
  rintro database document value database' agrees ran
  cases ran
  exact ⟨agrees.holds.createTransaction identified, agrees.identified,
    agrees.inserted, agrees.standing⟩

end

end Lalaba.Orders
