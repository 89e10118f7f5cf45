import Lalaba.Orders.Agreement
import Lalaba.Orders.Steady

/-!
# Transactions are moves on accounts

The callbacks of the service refine the account machine: a run that commits from
a document that is in step with the row makes a list of moves on the account of
its order, and touches no other account.  A document with another version than
the row cannot commit.
-/

namespace Lalaba.Orders

open Foundation
open Foundation.Program
open Promotions
open Wallets

section

variable {orderId : ObjectId} {elsewhere : ObjectId → Option Account}

def Made (orderId : ObjectId) (elsewhere : ObjectId → Option Account)
    (account : Account) (moves : List Move) (database : Database)
    (document : OrderDocument) : Prop :=
  ∃ after, account.makeAll moves = some after ∧ Agrees orderId elsewhere after database document

theorem Made.step {account : Account} {moves : List Move} {move : Move}
    {program : OrderProgram Unit}
    (makes : ∀ middle : Account, Ensures (Agrees orderId elsewhere middle)
      program (fun _ database document => ∃ after,
        middle.make move = some after ∧ Agrees orderId elsewhere after database document)) :
    Ensures (Made orderId elsewhere account moves) program
      (fun _ => Made orderId elsewhere account (moves ++ [move])) := by
  apply Ensures.exists
  intro middle
  apply Ensures.assuming
  intro made
  apply (makes middle).weaken (fun _ _ => id)
  rintro _ database document ⟨after, moved, agrees⟩
  refine ⟨after, ?_, agrees⟩
  rw [Account.makeAll_append, made]
  simp [moved]

theorem Made.settleFee {account : Account} {moves : List Move} :
    Ensures (Made orderId elsewhere account moves) consumeOutstandingFee
      (fun _ => Made orderId elsewhere account (moves ++ [.settleFee])) := by
  apply Made.step
  intro middle
  apply ensures_consumeOutstandingFee.weaken (fun _ _ => id)
  exact fun _ _ _ agrees => ⟨_, rfl, agrees⟩

variable {account : Account} {moves : List Move} {clock : Clock}

theorem Made.collect {actor : User} {input : PaymentCollectionFields}
    {amount : ℚ} {status : OnlineTransactionStatus} :
    Ensures (Made orderId elsewhere account moves)
      (recordCollectionTransaction clock actor input amount status)
      (fun _ => Made orderId elsewhere account (moves ++ [.collect amount])) := by
  apply Made.step
  intro middle
  apply ensures_recordCollectionTransaction.weaken (fun _ _ => id)
  exact fun _ _ _ agrees => ⟨_, rfl, agrees⟩

theorem Made.transition {account : Account} {moves : List Move}
    {clock : Clock} {target : OrderStatus} {actorUid : Uid}
    {actorRole : String} {note : Option String} :
    Ensures (Made orderId elsewhere account moves)
      (applyTransition clock target actorUid actorRole note)
      (fun _ database document =>
        Made orderId elsewhere account (moves ++ [.transition target])
            database document ∧
          database.Dated orderId) := by
  apply Ensures.exists
  intro middle
  apply Ensures.assuming
  intro made
  apply (ensures_applyTransition (.refl _)).weaken (fun _ _ => id)
  rintro _ database document ⟨allowed, agrees, dated⟩
  refine ⟨⟨_, ?_, agrees⟩, dated⟩
  rw [Account.makeAll_append, made]
  simp [Account.make, allowed]

theorem Made.transitions {first second : OrderStatus} {actorUid : Uid}
    {actorRole : String} :
    Ensures (Made orderId elsewhere account moves) (do
        applyTransition clock first actorUid actorRole none
        applyTransition clock second actorUid actorRole none)
      (fun _ database document =>
        Made orderId elsewhere account
            (moves ++ [.transition first, .transition second])
            database document ∧
          database.Dated orderId) := by
  apply Made.transition.bind
  intro _
  apply Made.transition.weaken
  · exact fun _ _ both => both.1
  · intro _ database document both
    rw [List.append_assoc] at both
    exact both

def collection (standing : Standing) (collectNow : Bool) : List Move :=
  if collectNow then
    [.collect (max 0 (standing.due - standing.collected))]
  else
    []

theorem Made.collectNowOrLater {middle : Account} {actor : User}
    {input : PaymentCollectionFields} {collectNow : Bool}
    (made : account.makeAll moves = some middle) :
    Ensures (Made orderId elsewhere account moves)
      (collectNowOrLater clock actor input collectNow)
      (fun _ => Made orderId elsewhere account
        (moves ++ collection middle.toStanding collectNow)) := by
  have known : ∀ database document,
      Made orderId elsewhere account moves database document →
        document.order.standing = middle.toStanding := by
    rintro database document ⟨after, made', agrees⟩
    rw [made] at made'
    cases made'
    exact agrees.standing
  apply Ensures.reading known
  intro start standing
  cases collectNow with
  | false =>
    simp only [collection, Bool.false_eq_true, if_false, List.append_nil]
    exact Ensures.pure fun _ _ => id
  | true =>
    have amount : start.order.outstandingCentavos = max 0 (middle.due - middle.collected) := by
      show max 0 (start.order.standing.due - start.order.standing.collected) = _
      rw [standing]
    simp only [if_true, collection]
    rw [← amount]
    exact Made.collect

/-! ## Callbacks -/

/-- What a document says differs from what is stored by its price only. -/
structure Quoted (standing stored : Standing) : Prop where
  status : standing.status = stored.status
  version : standing.version = stored.version
  pickupMode : standing.pickupMode = stored.pickupMode
  collected : standing.collected = stored.collected
  consumed : standing.consumed = stored.consumed

def quote (standing : Standing) : List Move := [.reprice standing.due standing.owed]

theorem Quoted.makeAll_quote {standing : Standing}
    (quoted : Quoted standing account.toStanding) :
    account.makeAll (quote standing) = some { account with toStanding := standing } := by
  rcases standing with ⟨_, _, _, _, _, _, _⟩
  rcases account with ⟨⟨_, _, _, _, _, _, _⟩, _, _⟩
  rcases quoted with ⟨rfl, rfl, rfl, rfl, rfl⟩
  rfl

def Ready (orderId : ObjectId) (elsewhere : ObjectId → Option Account)
    (account : Account) (standing : Standing) (database : Database)
    (document : OrderDocument) : Prop :=
  Loaded orderId elsewhere account standing database document ∧ document.Writes account.toStanding

section

variable {account : Account} {standing : Standing} {clock : Clock}

theorem ensures_quote (quoted : Quoted standing account.toStanding) :
    Ensures (Ready orderId elsewhere account standing) saveDocument
      (fun _ => Made orderId elsewhere account (quote standing)) := by
  apply ensures_firstSave.weaken (fun _ _ => id)
  exact fun _ _ _ agrees => ⟨_, quoted.makeAll_quote, agrees⟩

variable {actor : User} {actorUid : Uid} {actorRole : String}
  {input : PaymentCollectionFields} {moves : List Move}

theorem ensures_saveThenTransition {target : OrderStatus} {note : Option String}
    (quoted : Quoted standing account.toStanding) :
    Ensures (Ready orderId elsewhere account standing)
      (saveThenTransition clock target actorUid actorRole note)
      (fun _ database document =>
        Made orderId elsewhere account
            (quote standing ++ [.transition target]) database document ∧
          database.Dated orderId) := by
  apply (ensures_quote quoted).bind
  intro _
  exact Made.transition

theorem ensures_recordWeight {courier : User}
    (quoted : Quoted standing account.toStanding) :
    Ensures (Ready orderId elsewhere account standing)
      (recordWeightInTransaction clock courier)
      (fun _ database document =>
        Made orderId elsewhere account
            (quote standing ++ [.settleFee, .transition .pickupWeighed])
            database document ∧
          database.Dated orderId) := by
  apply (ensures_quote quoted).bind
  intro _
  apply Made.settleFee.bind
  intro _
  exact Made.transition

theorem ensures_recordPayment {courier : User} {collectNow : Bool}
    (quoted : Quoted standing account.toStanding) :
    Ensures (Ready orderId elsewhere account standing)
      (recordPaymentInTransaction clock courier input collectNow)
      (fun _ database document =>
        Made orderId elsewhere account
            ((quote standing ++ collection standing collectNow) ++
              [.transition .pickedUpFromCustomer, .transition .laundryInProgress])
            database document ∧
          database.Dated orderId) := by
  apply (ensures_quote quoted).bind
  intro _
  apply (Made.collectNowOrLater quoted.makeAll_quote).bind
  intro _
  exact Made.transitions

theorem ensures_receive {collectNow : Bool}
    (quoted : Quoted standing account.toStanding) :
    Ensures (Ready orderId elsewhere account standing)
      (receiveInTransaction clock actor input collectNow)
      (fun _ database document =>
        Made orderId elsewhere account
            (((quote standing ++ collection standing collectNow) ++
              [.settleFee]) ++
              [.transition .receivedByProvider, .transition .laundryInProgress])
            database document ∧
          database.Dated orderId) := by
  apply (ensures_quote quoted).bind
  intro _
  apply (Made.collectNowOrLater quoted.makeAll_quote).bind
  intro _
  apply Made.settleFee.bind
  intro _
  exact Made.transitions

def settlement (outstanding : ℚ) : List Move :=
  if 0 < outstanding then [.collect outstanding, .settleFee] else []

theorem Made.settleOutstanding {outstanding : ℚ} :
    Ensures (Made orderId elsewhere account moves)
      (settleOutstanding clock actor input outstanding)
      (fun _ => Made orderId elsewhere account (moves ++ settlement outstanding)) := by
  apply Ensures.reading (fun _ _ _ => trivial)
  intro start _
  rw [settlement]
  split
  · apply Made.collect.bind
    intro _
    have settled := @Made.settleFee orderId elsewhere account (moves ++ [.collect outstanding])
    rw [List.append_assoc] at settled
    exact settled
  · rw [List.append_nil]
    exact Ensures.pure fun _ _ => id

theorem ensures_handOver {outstanding : ℚ} {handedOver : OrderStatus}
    (quoted : Quoted standing account.toStanding) :
    Ensures (Ready orderId elsewhere account standing)
      (handOverInTransaction clock actor input outstanding handedOver)
      (fun _ database document =>
        Made orderId elsewhere account
            ((quote standing ++ settlement outstanding) ++
              [.transition handedOver, .transition .completed])
            database document ∧
          database.Dated orderId) := by
  apply (ensures_quote quoted).bind
  intro _
  apply Made.settleOutstanding.bind
  intro _
  exact Made.transitions

def reversal (reversible : ℤ) : List Move :=
  if 0 < reversible then [.reverseFee] else []

theorem ensures_reverseConsumedFee {reversible : ℤ}
    (agreed : reversible = account.consumed) :
    Ensures (Agrees orderId elsewhere account)
      (reverseConsumedFee reversible)
      (fun _ database document => ∃ standing middle,
        account.makeAll (reversal reversible) = some { middle with
          toStanding := standing } ∧
          Ready orderId elsewhere middle standing database document) := by
  have known : ∀ database document,
      Agrees orderId elsewhere account database document → document.order._id = orderId :=
    fun _ _ agrees => agrees.identified
  apply Ensures.reading known
  intro start identified
  rw [identified, reversal]
  split
  · rename_i positive
    have moved := @ensures_onWallets orderId elsewhere account
      account.toStanding _ start.order.provider.branchId _ _
      (reverseFee_eq positive)
    apply moved.bind
    intro _
    apply Ensures.edit
    intro database document loaded
    have standing : (document.setConsumed 0).order.standing =
        { account.toStanding with consumed := 0 } := by
      rw [setConsumed_standing, loaded.standing]
    refine ⟨_, _, ?_, ⟨loaded.holds, loaded.identified, loaded.inserted,
      standing⟩, writes_setConsumed standing⟩
    rw [agreed]
    rfl
  · apply Ensures.pure
    intro database document agrees
    exact ⟨_, account, rfl, agrees, .of_eq agrees.standing⟩

theorem ensures_abandon {reversible : ℤ} {note : String}
    (agreed : reversible = account.consumed) :
    Ensures (Agrees orderId elsewhere account)
      (abandonInTransaction clock reversible actorUid actorRole note)
      (fun _ database document =>
        Made orderId elsewhere account
            (reversal reversible ++ [.transition .abandonedUnsettled])
            database document ∧
          database.Dated orderId) := by
  apply (ensures_reverseConsumedFee agreed).bind
  intro _
  have saved : Ensures
      (fun database document => ∃ standing middle,
        account.makeAll (reversal reversible) = some { middle with
          toStanding := standing } ∧
          Ready orderId elsewhere middle standing database document)
      saveDocument
      (fun _ => Made orderId elsewhere account (reversal reversible)) := by
    apply Ensures.exists
    intro standing
    apply Ensures.exists
    intro middle
    apply Ensures.assuming
    intro made
    apply ensures_firstSave.weaken (fun _ _ => id)
    exact fun _ _ _ agrees => ⟨_, made, agrees⟩
  apply saved.bind
  intro _
  exact Made.transition

def route (pickupMode : FulfillmentPickupMode) : List Move :=
  match pickupMode with
  | .providerPickup => [.transition .awaitingPickupAssignment]
  | .customerDropoff => []

theorem Made.route : Ensures (fun database document =>
        Made orderId elsewhere account moves database document ∧ database.Dated orderId)
      (routeToPickup clock actorUid actorRole)
      (fun _ database document =>
        Made orderId elsewhere account
            (moves ++ Orders.route account.pickupMode) database document ∧
          database.Dated orderId) := by
  have known : ∀ database document,
      Made orderId elsewhere account moves database document ∧
          database.Dated orderId →
        document.order.fulfillment.pickupMode = account.pickupMode := by
    rintro database document ⟨⟨after, made, agrees⟩, _⟩
    exact (congrArg Standing.pickupMode agrees.standing).trans (Account.pickupMode_of_makeAll made)
  apply Ensures.reading known
  intro start pickupMode
  rw [pickupMode]
  cases account.pickupMode with
  | providerPickup =>
    apply Made.transition.strengthen
    exact fun _ _ both => both.1
  | customerDropoff =>
    apply Ensures.pure
    intro database document made
    rw [Orders.route, List.append_nil]
    exact made

def response (pickupMode : FulfillmentPickupMode) (approve : Bool) :
    List Move :=
  if approve then
    .transition .acceptedByProvider :: route pickupMode
  else
    [.transition .cancelled]

theorem ensures_respond {customerUid : Uid} {approve : Bool} :
    Ensures (Agrees orderId elsewhere account)
      (respondInTransaction clock customerUid approve)
      (fun _ database document =>
        Made orderId elsewhere account
            (response account.pickupMode approve) database document ∧
          database.Dated orderId) := by
  have start : ∀ database document,
      Agrees orderId elsewhere account database document →
        Made orderId elsewhere account [] database document :=
    fun _ _ agrees => ⟨account, rfl, agrees⟩
  rw [respondInTransaction]
  cases approve with
  | true =>
    apply (Made.transition.strengthen start).bind
    intro _
    exact Made.route
  | false => exact Made.transition.strengthen start

/-! ### Acceptance

A re-run of `acceptOrder` works on a document that an earlier run has touched.
Its status and version are reset; what may be left over is a fee promotion that
was granted in memory only.
-/

def Tracks (orderId : ObjectId) (elsewhere : ObjectId → Option Account)
    (account : Account) (database : Database)
    (document : OrderDocument) : Prop :=
  ∃ owed quoted : ℤ,
    Loaded orderId elsewhere (account.reprice account.due owed)
      (account.toStanding.requote quoted) database document

def MadeUpToFee (orderId : ObjectId)
    (elsewhere : ObjectId → Option Account) (account : Account)
    (moves : List Move) (database : Database)
    (document : OrderDocument) : Prop :=
  ∃ after, account.makeAll moves = some after ∧ Tracks orderId elsewhere after database document

theorem MadeUpToFee.transition {moves : List Move}
    {target : OrderStatus} {actorUid : Uid} {actorRole : String}
    {note : Option String} :
    Ensures (MadeUpToFee orderId elsewhere account moves)
      (applyTransition clock target actorUid actorRole note)
      (fun _ => MadeUpToFee orderId elsewhere account (moves ++ [.transition target])) := by
  apply Ensures.exists
  intro middle
  apply Ensures.assuming
  intro made
  apply Ensures.exists
  intro owed
  apply Ensures.exists
  intro quoted
  have upToFee : (middle.toStanding.requote quoted).UpToFee
      (middle.reprice middle.due owed).toStanding :=
    ⟨rfl, rfl, rfl, rfl, rfl, rfl⟩
  apply (ensures_applyTransition upToFee).weaken (fun _ _ => id)
  rintro _ database document ⟨allowed, loaded, _⟩
  refine ⟨middle.moveTo target, ?_, owed, quoted, loaded⟩
  rw [Account.makeAll_append, made]
  have allowed : target ∈ middle.status.transitions := allowed
  simp [Account.make, allowed]

theorem MadeUpToFee.route :
    Ensures (MadeUpToFee orderId elsewhere account moves)
      (routeToPickup clock actorUid actorRole)
      (fun _ => MadeUpToFee orderId elsewhere account
        (moves ++ Orders.route account.pickupMode)) := by
  have known : ∀ database document,
      MadeUpToFee orderId elsewhere account moves database document →
        document.order.fulfillment.pickupMode = account.pickupMode := by
    rintro database document ⟨after, made, owed, quoted, loaded⟩
    exact (congrArg Standing.pickupMode loaded.standing).trans (Account.pickupMode_of_makeAll made)
  apply Ensures.reading known
  intro start pickupMode
  rw [pickupMode]
  cases account.pickupMode with
  | providerPickup => exact MadeUpToFee.transition
  | customerDropoff =>
    apply Ensures.pure
    intro database document made
    rw [Orders.route, List.append_nil]
    exact made

theorem Tracks.save {database : Database} {document after : OrderDocument}
    {row : OnlineOrder}
    (tracks : Tracks orderId elsewhere account database document)
    (saved : document.save (database.orders.lookup document.order._id) = .ok (row, after)) :
    Tracks orderId elsewhere account (database.putOrder document.order._id row) after := by
  rcases tracks with ⟨owed, quoted, loaded⟩
  rcases OrderDocument.save_ok loaded.inserted saved with ⟨old, found, rfl, rfl⟩
  rcases loaded.holds.row with ⟨_, lookup, same⟩
  rw [loaded.identified] at found ⊢
  rw [found] at lookup
  cases lookup
  have upToFee : document.order.standing.UpToFee old.standing := by
    rw [loaded.standing, same]
    exact ⟨rfl, rfl, rfl, rfl, rfl, rfl⟩
  have written := (OrderDocument.writeTo_upToFee upToFee).requote
  have holds := loaded.holds.putOrder (document.writeTo old)
  rw [written, same] at holds
  exact ⟨(document.writeTo old).standing.owed, quoted, holds,
    loaded.identified, rfl, loaded.standing⟩

theorem Tracks.putPromotions {database : Database}
    {document : OrderDocument} (promotions : PromotionStore)
    (tracks : Tracks orderId elsewhere account database document) :
    Tracks orderId elsewhere account (database.putPromotions promotions)
      document := by
  rcases tracks with ⟨owed, quoted, loaded⟩
  exact ⟨owed, quoted, loaded.holds, loaded.identified, loaded.inserted, loaded.standing⟩

theorem grantFeePromo_standing (promo : PromoCode) (discount : ℤ)
    (document : OrderDocument) :
    (document.grantFeePromo promo discount).order.standing =
      document.order.standing.requote (document.grantFeePromo promo discount).order.standing.owed :=
  rfl

/-- However the fee promotion ends, only the fee owed may have changed. -/
theorem Tracks.applyPlatformFeePromo :
    Ensures (Tracks orderId elsewhere account)
      (applyPlatformFeePromo clock actor)
      (fun _ => Tracks orderId elsewhere account) := by
  apply Ensures.reading (fun _ _ _ => trivial)
  intro start _
  dsimp only
  split
  · exact Ensures.pure fun _ _ => id
  apply Ensures.attempt
  apply Keeps.bind
  · apply Keeps.outside
    exact fun _ holds => holds
  intro found
  cases found with
  | none => exact Keeps.pure ()
  | some promo =>
    apply Keeps.bind
    · apply Keeps.outside
      rintro session ⟨unlimited, tracks⟩
      exact ⟨unlimited, tracks.putPromotions _⟩
    intro reserved
    cases reserved with
    | false => exact Keeps.pure ()
    | true =>
      apply Keeps.bind
      · apply Keeps.edit
        rintro session ⟨unlimited, owed, quoted, loaded⟩
        have granted := grantFeePromo_standing promo
          start.order.pricing.waivablePlatformFeeCentavos
          session.memory
        rw [loaded.standing] at granted
        exact ⟨unlimited, owed, _, loaded.holds, loaded.identified, loaded.inserted, granted⟩
      intro _
      apply Keeps.call
      · rintro session ⟨unlimited, tracks⟩
        exact ⟨by rw [unlimited]; rfl, tracks⟩
      · rintro session value store memory ⟨unlimited, tracks⟩ ran
        refine ⟨unlimited, ?_⟩
        rcases outcome : session.memory.save
            (session.store.orders.lookup session.memory.order._id) with
          error | ⟨row, after⟩
        · simp [outcome] at ran
        · simp only [outcome, Except.ok.injEq, Prod.mk.injEq] at ran
          rcases ran with ⟨_, rfl, rfl⟩
          exact tracks.save outcome

/--
A document `acceptOrder` can run on, first or again: all but its status, its
version and the fee it owes is what is stored.
-/
structure Acceptable (orderId : ObjectId)
    (elsewhere : ObjectId → Option Account) (account : Account)
    (database : Database) (document : OrderDocument) : Prop where
  holds : database.Holds orderId account elsewhere
  identified : document.order._id = orderId
  inserted : document.isNew = false
  pickupMode : document.order.fulfillment.pickupMode = account.pickupMode
  due : document.order.standing.due = account.due
  collected : document.order.standing.collected = account.collected
  consumed : document.order.standing.consumed = account.consumed

def acceptance (pickupMode : FulfillmentPickupMode) : List Move :=
  .transition .acceptedByProvider :: route pickupMode

theorem ensures_accept {initialStatus : OrderStatus} {initialVersion : ℕ}
    {washer : Option WasherProfile} (status : initialStatus = account.status)
    (version : initialVersion = account.version) :
    Ensures (Acceptable orderId elsewhere account)
      (acceptInTransaction clock actor initialStatus initialVersion washer)
      (fun _ => MadeUpToFee orderId elsewhere account (acceptance account.pickupMode)) := by
  have reset : Ensures (Acceptable orderId elsewhere account)
      (edit (OrderDocument.resetTransition initialStatus initialVersion) : OrderProgram Unit)
      (fun _ => MadeUpToFee orderId elsewhere account []) := by
    apply Ensures.edit
    intro database document acceptable
    refine ⟨account, rfl, account.owed, document.order.standing.owed,
      acceptable.holds, acceptable.identified, acceptable.inserted, ?_⟩
    apply Standing.UpToFee.requote
    exact ⟨status, version, acceptable.pickupMode, acceptable.due,
      acceptable.collected, acceptable.consumed⟩
  apply reset.bind
  intro _
  apply ensures_reserveDayOf.bind
  intro _
  apply MadeUpToFee.transition.bind
  intro _
  have promoted : Ensures
      (MadeUpToFee orderId elsewhere account [.transition .acceptedByProvider])
      (applyPlatformFeePromo clock actor)
      (fun _ => MadeUpToFee orderId elsewhere account [.transition .acceptedByProvider]) := by
    apply Ensures.exists
    intro middle
    apply Ensures.assuming
    intro made
    apply Tracks.applyPlatformFeePromo.weaken (fun _ _ => id)
    exact fun _ _ _ tracks => ⟨middle, made, tracks⟩
  apply promoted.bind
  intro _
  exact MadeUpToFee.route

/-- A document that was never inserted, of an order nothing is known about. -/
structure Unborn (orderId : ObjectId)
    (elsewhere : ObjectId → Option Account) (standing : Standing)
    (database : Database) (document : OrderDocument) : Prop where
  absent : database.orders.lookup orderId = none
  others : ∀ other, other ≠ orderId → database.account other = elsewhere other
  undebited : orderLedgerTotal orderId database.wallets = 0
  unpaid : orderReceipts orderId database = 0
  identified : document.order._id = orderId
  isNew : document.isNew = true
  standing : document.order.standing = standing

def Account.opening (standing : Standing) : Account :=
  { toStanding := standing, debited := 0, received := 0 }

theorem Unborn.insert :
    Ensures (Unborn orderId elsewhere standing) saveDocument
      (fun _ => Agrees orderId elsewhere (.opening standing)) := by
  apply ensures_saveDocument
  rintro database document row after unborn saved
  rw [unborn.identified] at saved ⊢
  rw [unborn.absent, OrderDocument.save_new unborn.isNew] at saved
  cases saved
  constructor
  · intro other
    split
    · rename_i same
      subst same
      have undebited := unborn.undebited
      have unpaid := unborn.unpaid
      simp only [orderReceipts] at unpaid
      simp [Database.account, Database.putOrder, Account.opening,
        undebited, orderReceipts, unpaid, unborn.standing]
    · rename_i different
      rw [← unborn.others other different]
      simp [Database.account, Database.putOrder, orderReceipts, different]
  · exact unborn.identified
  · rfl
  · exact unborn.standing

def creation : List Move := [.transition .pricingValidated, .transition .pendingProviderAcceptance]

theorem ensures_create {customerUid : Uid}
    {book : Database → Except ServiceError ScheduledPickup} :
    Ensures (Unborn orderId elsewhere standing)
      (createInTransaction clock customerUid book)
      (fun _ => Made orderId elsewhere (.opening standing) creation) := by
  apply ensures_createInTransaction _ Unborn.insert fun _ _ _ => trivial
  · intro saved _
    have recorded : Ensures (Agrees orderId elsewhere (.opening standing)) (query fun database =>
          .ok ((), database.createEvent (creationEvent saved.order._id customerUid)) :
          OrderProgram Unit)
        (fun _ => Made orderId elsewhere (.opening standing) []) := by
      apply Ensures.query
      rintro database document value after agrees ran
      cases ran
      exact ⟨_, rfl, agrees.holds, agrees.identified, agrees.inserted, agrees.standing⟩
    apply recorded.bind
    intro _
    apply Made.transitions.weaken (fun _ _ => id)
    exact fun _ _ _ both => both.1
  · intro database document slot unborn
    exact ⟨unborn.absent, unborn.others, unborn.undebited, unborn.unpaid,
      unborn.identified, unborn.isNew, unborn.standing⟩

end

end

/-! ## Commits

One theorem for all callbacks: a document that fits its callback and the stored
standing commits by making the moves of the callback.
-/

/-- The moves of a callback, from what its document says. -/
def Callback.moves (standing : Standing) : Callback → List Move
  | .create _ _ _ => creation
  | .saveThenTransition target _ _ _ _ =>
    quote standing ++ [.transition target]
  | .accept _ _ _ _ => acceptance standing.pickupMode
  | .respond _ approve => response standing.pickupMode approve
  | .recordWeight _ =>
    quote standing ++ [.settleFee, .transition .pickupWeighed]
  | .recordPayment _ _ collectNow =>
    (quote standing ++ collection standing collectNow) ++
      [.transition .pickedUpFromCustomer, .transition .laundryInProgress]
  | .receive _ _ collectNow =>
    ((quote standing ++ collection standing collectNow) ++ [.settleFee]) ++
      [.transition .receivedByProvider, .transition .laundryInProgress]
  | .handOver _ _ outstanding handedOver =>
    (quote standing ++ settlement outstanding) ++ [.transition handedOver, .transition .completed]
  | .abandon reversible _ _ _ =>
    reversal reversible ++ [.transition .abandonedUnsettled]

/--
A document was read from a row that stands like this and edited for its
callback: the price in it may be new, and what the callback has captured is what
was read.
-/
def Callback.Fits (document : OrderDocument) (stored : Standing) :
    Callback → Prop
  | .create _ _ _ => False
  | .saveThenTransition target _ _ _ _ =>
    Quoted document.order.standing stored ∧ document.Writes stored ∧
      (document.order.standing = stored ∨
        target = .laundryInProgress ∧ stored.due < document.order.standing.due)
  | .accept _ initialStatus initialVersion _ =>
    document.order.standing = stored ∧ initialStatus = stored.status ∧
      initialVersion = stored.version
  | .respond _ _ => document.order.standing = stored
  | .recordWeight _ | .receive _ _ _ =>
    Quoted document.order.standing stored ∧ document.Writes stored ∧ 0 ≤ document.order.standing.due
  | .recordPayment _ _ _ => document.order.standing = stored
  | .handOver _ _ outstanding _ =>
    document.order.standing = stored ∧ outstanding = max 0 (stored.due - stored.collected)
  | .abandon reversible _ _ _ =>
    document.order.standing = stored ∧ reversible = stored.consumed

theorem Quoted.of_eq {standing stored : Standing}
    (equal : standing = stored) : Quoted standing stored := by
  subst equal
  exact ⟨rfl, rfl, rfl, rfl, rfl⟩

section

variable {orderId : ObjectId} {elsewhere : ObjectId → Option Account}
  {account : Account} {standing : Standing} {clock : Clock}

def Fitting (orderId : ObjectId) (elsewhere : ObjectId → Option Account)
    (account : Account) (standing : Standing) (callback : Callback)
    (database : Database) (document : OrderDocument) : Prop :=
  Loaded orderId elsewhere account standing database document ∧
    callback.Fits document account.toStanding

theorem Loaded.agrees {database : Database} {document : OrderDocument}
    (loaded : Loaded orderId elsewhere account standing database document)
    (equal : document.order.standing = account.toStanding) :
    Agrees orderId elsewhere account database document :=
  ⟨loaded.holds, loaded.identified, loaded.inserted, equal⟩

theorem Loaded.ready {database : Database} {document : OrderDocument}
    (loaded : Loaded orderId elsewhere account standing database document)
    (writes : document.Writes account.toStanding) :
    Ready orderId elsewhere account standing database document :=
  ⟨loaded, writes⟩

/-- A committed callback has made its moves, and dated the row. -/
theorem Callback.ensures_moves {callback : Callback}
    (keeps : callback.keepsDocument) :
    Ensures (Fitting orderId elsewhere account standing callback)
      (callback.program clock)
      (fun _ database document =>
        Made orderId elsewhere account (callback.moves standing)
            database document ∧
          database.Dated orderId) := by
  cases callback with
  | create | accept => exact keeps.elim
  | saveThenTransition =>
    apply Ensures.knowing
    · rintro database document ⟨loaded, quoted, _, _⟩
      rw [loaded.standing] at quoted
      exact quoted
    intro quoted
    apply (ensures_saveThenTransition quoted).strengthen
    rintro database document ⟨loaded, _, writes, _⟩
    exact loaded.ready writes
  | respond =>
    apply Ensures.knowing
    · rintro database document ⟨loaded, equal⟩
      exact loaded.standing.symm.trans equal
    rintro rfl
    apply ensures_respond.strengthen
    rintro database document ⟨loaded, equal⟩
    exact loaded.agrees equal
  | recordWeight =>
    apply Ensures.knowing
    · rintro database document ⟨loaded, quoted, _, _⟩
      rw [loaded.standing] at quoted
      exact quoted
    intro quoted
    apply (ensures_recordWeight quoted).strengthen
    rintro database document ⟨loaded, _, writes, _⟩
    exact loaded.ready writes
  | recordPayment =>
    apply Ensures.knowing
    · rintro database document ⟨loaded, equal⟩
      exact loaded.standing.symm.trans equal
    intro equal
    apply (ensures_recordPayment (.of_eq equal)).strengthen
    rintro database document ⟨loaded, same⟩
    exact loaded.ready (.of_eq same)
  | receive =>
    apply Ensures.knowing
    · rintro database document ⟨loaded, quoted, _, _⟩
      rw [loaded.standing] at quoted
      exact quoted
    intro quoted
    apply (ensures_receive quoted).strengthen
    rintro database document ⟨loaded, _, writes, _⟩
    exact loaded.ready writes
  | handOver =>
    apply Ensures.knowing
    · rintro database document ⟨loaded, equal, _⟩
      exact loaded.standing.symm.trans equal
    intro equal
    apply (ensures_handOver (.of_eq equal)).strengthen
    rintro database document ⟨loaded, same, _⟩
    exact loaded.ready (.of_eq same)
  | abandon =>
    apply Ensures.knowing
    · rintro database document ⟨_, _, agreed⟩
      exact agreed
    intro agreed
    apply (ensures_abandon agreed).strengthen
    rintro database document ⟨loaded, equal, _⟩
    exact loaded.agrees equal

end

/-! ## Stale documents

A document whose version is neither the row's nor dirty cannot commit: the
guarded update of its first transition misses.
-/

section

/-- The row has another version than the document. -/
structure Stale (database : Database) (document : OrderDocument) : Prop where
  inserted : document.isNew = false
  stale : ∃ row,
    database.orders.lookup document.order._id = some row ∧ row.version ≠ document.order.version

/-- The row has another version, and a save would not change that. -/
structure StaleClean (database : Database) (document : OrderDocument) :
    Prop extends Stale database document where
  clean : .version ∉ document.modified

variable {clock : Clock}

theorem Stale.transition {target : OrderStatus} {actorUid : Uid}
    {actorRole : String} {note : Option String} :
    Ensures Stale
      (applyTransition clock target actorUid actorRole note)
      (fun _ _ _ => False) := by
  apply Ensures.remembering
  intro start
  have validated : Ensures
      (fun database document => Stale database document ∧ document = start)
      (check (assertValidTransition start.order.status target))
      (fun _ database _ => Stale database start) := by
    apply Ensures.check
    rintro _ database document _ ⟨stale, rfl⟩
    exact stale
  apply validated.bind
  intro _
  have patched : Ensures (fun database _ => Stale database start)
      (edit (OrderDocument.applyPatch
        (transitionPatch clock target start.order)) : OrderProgram Unit)
      (fun _ database _ => Stale database start) :=
    Ensures.edit fun _ _ stale => stale
  apply patched.bind
  intro _
  have missed : Ensures (fun database _ => Stale database start)
      (query (updateOrder start.order._id start.order.version
        (transitionPatch clock target start.order)) : OrderProgram Unit)
      (fun _ _ _ => False) := by
    apply Ensures.query
    rintro database document value after stale ran
    rcases updateOrder_ok.mp ran with ⟨row, found, current, _⟩
    rcases stale.stale with ⟨_, lookup, different⟩
    rw [found] at lookup
    cases lookup
    exact different current
  apply missed.bind
  intro _
  exact Ensures.unreachable

def StaleWalk (pickupMode : FulfillmentPickupMode)
    (walked : List OrderStatus) (database : Database)
    (document : OrderDocument) : Prop :=
  walked = [] ∧ StaleClean database document ∧ document.order.fulfillment.pickupMode = pickupMode

theorem StaleWalk.steady {pickupMode : FulfillmentPickupMode} :
    Steady (StaleWalk pickupMode []) where
  save := by
    apply ensures_saveDocument
    rintro database document row after ⟨_, stale, rfl⟩ saved
    rcases OrderDocument.save_ok stale.inserted saved with ⟨old, found, rfl, rfl⟩
    rcases stale.stale with ⟨_, lookup, different⟩
    rw [found] at lookup
    cases lookup
    refine ⟨rfl, ⟨⟨rfl, document.writeTo old, ?_, ?_⟩, ?_⟩, rfl⟩
    · exact AList.lookup_insert _
    · show document.pick .version document.order.version old.version ≠ _
      rw [OrderDocument.pick, if_neg stale.clean]
      exact different
    · simp [OrderDocument.saved]
  charge := by
    rintro database document path pricing payment money ⟨_, stale, rfl⟩
    refine ⟨rfl, ⟨⟨stale.inserted, stale.stale⟩, ?_⟩, rfl⟩
    have other : Path.version ≠ path := by
      rintro rfl
      cases money
    simp [OrderDocument.charge, OrderDocument.assign,
      OrderDocument.markModified, OrderDocument.mutate, other, stale.clean]
  beside := by
    rintro database after document orders _ ⟨_, stale, rfl⟩
    rcases stale.stale with ⟨row, found, different⟩
    rw [← orders] at found
    exact ⟨rfl, ⟨⟨stale.inserted, row, found, different⟩, stale.clean⟩, rfl⟩

theorem StaleWalk.walk {pickupMode : FulfillmentPickupMode} :
    Walk pickupMode (StaleWalk pickupMode) where
  pickupMode := fun _ _ _ stale => stale.2.2
  transition := by
    intro walked clock target actorUid actorRole note
    apply Stale.transition.weaken
    · exact fun _ _ stale => stale.2.1.toStale
    · exact fun _ _ _ impossible => impossible.elim
  steady := by
    intro walked target
    have impossible : ∀ database document,
        ¬StaleWalk pickupMode (walked ++ [target]) database document :=
      fun _ _ stale => by simpa using stale.1
    constructor
    · apply Ensures.unreachable.strengthen
      exact fun database document => impossible database document
    · exact fun database document _ _ _ _ stale =>
        (impossible database document stale).elim
    · exact fun database _ document _ _ stale =>
        (impossible database document stale).elim

theorem StaleClean.program {callback : Callback}
    (keeps : callback.keepsDocument) :
    Ensures StaleClean (callback.program clock) (fun _ _ _ => False) := by
  have somewhere : Ensures
      (fun database document => ∃ pickupMode, StaleWalk pickupMode [] database document)
      (callback.program clock) (fun _ _ _ => False) := by
    apply Ensures.exists
    intro pickupMode
    apply (StaleWalk.walk.program StaleWalk.steady keeps).weaken (fun _ _ => id)
    intro _ database document stale
    exact callback.targets_ne_nil stale.1
  apply somewhere.strengthen
  exact fun _ _ stale => ⟨_, rfl, stale, rfl⟩

theorem Stale.accept {actor : User} {initialStatus : OrderStatus}
    {initialVersion : ℕ} {washer : Option WasherProfile} :
    Ensures
      (fun database document => document.isNew = false ∧
        ∃ row, database.orders.lookup document.order._id = some row ∧ row.version ≠ initialVersion)
      (acceptInTransaction clock actor initialStatus initialVersion washer)
      (fun _ _ _ => False) := by
  have reset : Ensures
      (fun database document => document.isNew = false ∧
        ∃ row, database.orders.lookup document.order._id = some row ∧ row.version ≠ initialVersion)
      (edit (OrderDocument.resetTransition initialStatus initialVersion) : OrderProgram Unit)
      (fun _ => Stale) := by
    apply Ensures.edit
    rintro database document ⟨inserted, stale⟩
    exact ⟨inserted, stale⟩
  apply reset.bind
  intro _
  apply ensures_reserveDayOf.bind
  intro _
  apply Stale.transition.bind
  intro _
  exact Ensures.unreachable

end

end Lalaba.Orders
