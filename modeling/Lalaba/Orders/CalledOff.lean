import Lalaba.Orders.Custody
import Lalaba.Orders.History

/-!
# Called-off orders

The statuses an order can be called off from come before its laundry is weighed,
and no edge of the table leads back to them.  On the way through them no callback
moves a fee or a payment, so a timely run calls off no order that anyone has paid
for.
-/

namespace Lalaba.Orders

open Foundation
open Foundation.Program

/-! ## Orders nobody has paid for -/

/-- Nothing is stored of a payment or a fee of the order. -/
structure Database.Uncharged (orderId : ObjectId) (database : Database) : Prop where
  transactions : ∀ transaction ∈ database.transactions, transaction.orderId ≠ orderId
  ledger : ∀ entry ∈ database.wallets.ledger, entry.orderId ≠ some orderId

def OnlineOrder.Unpaid (order : OnlineOrder) : Prop :=
  order.paymentSummary.collectedCentavos = 0 ∧ order.pricing.consumedCentavos = 0

theorem OnlineOrder.Unpaid.of_standing {order : OnlineOrder}
    (collected : order.standing.collected = 0)
    (consumed : order.standing.consumed = 0) : order.Unpaid :=
  ⟨collected, consumed⟩

theorem OrderDocument.unpaid_writeTo {document : OrderDocument}
    {row : OnlineOrder}
    (payments : .paymentSummary ∈ document.modified →
      document.order.paymentSummary.collectedCentavos = 0)
    (fees : .pricing ∈ document.modified → document.order.pricing.consumedCentavos = 0)
    (stored : row.Unpaid) : (document.writeTo row).Unpaid := by
  constructor
  · show (document.pick .paymentSummary document.order.paymentSummary
      row.paymentSummary).collectedCentavos = 0
    rw [pick]
    split
    · rename_i marked
      exact payments marked
    · exact stored.1
  · show (document.pick .pricing document.order.pricing row.pricing).consumedCentavos = 0
    rw [pick]
    split
    · rename_i marked
      exact fees marked
    · exact stored.2

theorem absent_or_zero {Value : Type} [Zero Value] {amount : Option Value}
    (nothing : amount.getD 0 = 0) : amount = none ∨ amount = some 0 := by
  cases amount with
  | none => exact .inl rfl
  | some amount => exact .inr (congrArg some nothing)

theorem OrderStatus.booked_of_transition {source target : OrderStatus}
    (allowed : target ∈ source.transitions)
    (booked : target.phase = .booked) : source.phase = .booked := by
  revert target
  cases source <;> decide

theorem Strides.booked {orderId : ObjectId} {origin current : OrderStatus}
    {last : ℕ} {rows : List OrderEvent}
    (strides : Strides orderId origin last rows current)
    (booked : current.phase = .booked) : origin.phase = .booked := by
  induction strides with
  | stay => exact booked
  | step row _ allowed _ _ _ _ induction =>
    exact induction (OrderStatus.booked_of_transition allowed booked)

theorem Callback.free_of_booked {callback : Callback}
    {pickupMode : FulfillmentPickupMode} {status : OrderStatus}
    (lands : (callback.targets pickupMode).getLast? = some status)
    (booked : status.phase = .booked) : callback.free = true := by
  cases callback with
  | create | saveThenTransition | accept | respond => rfl
  | _ =>
    cases lands
    cases booked

theorem phase_of_followUps {first second : OrderStatus}
    (member : (first, second) ∈ followUps) : first.phase ≠ .booked := by
  simp only [followUps, List.mem_cons, Prod.mk.injEq, List.not_mem_nil, or_false] at member
  rcases member with ⟨rfl, rfl⟩ | ⟨rfl, rfl⟩ | ⟨rfl, rfl⟩ | ⟨rfl, rfl⟩ <;> decide

section

variable {orderId : ObjectId} {clock : Clock} {callback : Callback}
  {document document' : OrderDocument} {database after : Database}

theorem Database.Uncharged.of_same
    (uncharged : database.Uncharged orderId)
    (transactions : after.transactions = database.transactions)
    (ledger : after.wallets.ledger = database.wallets.ledger) :
    after.Uncharged orderId where
  transactions := transactions ▸ uncharged.transactions
  ledger := ledger ▸ uncharged.ledger

theorem Uncharged.quiet (other : ObjectId) (allowed : Touch → Prop) :
    Quiet other allowed (fun session =>
      session.memory.order._id = other ∧ session.store.Uncharged orderId) where
  identified := fun _ holds => holds.1
  spent := fun _ holds => holds
  save := by
    intro session row saved holds ran
    rw [OrderDocument.save_saved ran]
    exact ⟨holds.1, holds.2.of_same rfl rfl⟩
  update := by
    intro session expected patch store holds ran
    rcases updateOrder_ok.mp ran with ⟨row, _, _, rfl⟩
    exact ⟨holds.1, holds.2.of_same rfl rfl⟩
  record := fun _ _ holds _ => ⟨holds.1, holds.2.of_same rfl rfl⟩
  promote := fun _ _ holds => ⟨holds.1, holds.2.of_same rfl rfl⟩
  outside := fun _ _ _ holds => ⟨holds.1, holds.2.of_same rfl rfl⟩
  touch := by
    intro session touch _ holds
    refine ⟨?_, holds.2⟩
    exact (touch.spares _).identified.trans holds.1

theorem Uncharged.kept {other : ObjectId} (different : orderId ≠ other)
    (allowed : Touch → Prop) :
    Kept other allowed (fun session =>
      session.memory.order._id = other ∧ session.store.Uncharged orderId) := by
  apply (Uncharged.quiet other allowed).kept
  · intro session branchId type amount wallets holds moved
    rcases Wallets.WalletStore.moveBalance_ok.mp moved with ⟨wallet, _, rfl⟩
    refine ⟨holds.1, holds.2.transactions, ?_⟩
    intro entry member
    rcases List.mem_append.mp member with old | new
    · exact holds.2.ledger entry old
    · cases List.mem_singleton.mp new
      exact fun equal => different (Option.some.inj equal).symm
  · intro session transaction holds about
    refine ⟨holds.1, ?_, holds.2.ledger⟩
    intro row member
    rcases List.mem_append.mp member with old | new
    · exact holds.2.transactions row old
    · cases List.mem_singleton.mp new
      rw [about]
      exact different.symm

theorem Database.Uncharged.commits
    (uncharged : database.Uncharged orderId)
    (aside : document.order._id ≠ orderId ∨ callback.free = true)
    (outcome : (callback.program clock).commit database document = (.ok (), after, document')) :
    after.Uncharged orderId := by
  by_cases about : document.order._id = orderId
  · have free := aside.resolve_left (not_not.mpr about)
    have kept := (@Uncharged.quiet orderId orderId
      callback.touches).program free (@Callback.allows callback clock _)
    exact (@Keeps.committed _ _ _ _ (fun (store : Database) (memory : OrderDocument) =>
        memory.order._id = orderId ∧ store.Uncharged orderId)
      _ _ _ _ _ _ kept ⟨about, uncharged⟩ outcome).2
  · have kept := (@Uncharged.kept orderId document.order._id
      (Ne.symm about) callback.touches).runs (@Callback.allows callback clock _)
    exact (@Keeps.committed _ _ _ _ (fun (store : Database) (memory : OrderDocument) =>
        memory.order._id = document.order._id ∧ store.Uncharged orderId)
      _ _ _ _ _ _ kept ⟨rfl, uncharged⟩ outcome).2

/-- What charges an order is a commit of one of its own callbacks. -/
inductive Charging (orderId : ObjectId) (state : State) (action : Action)
    (after : State) : Prop where
  | intro (index : ℕ) (environment : Environment) (clock : Clock)
      (operation : Option Operation) (callback : Callback)
      (prepared document document' : OrderDocument)
      (commits : action = .commit index environment clock)
      (flying : state.calls[index]? = some (.transaction operation callback prepared document))
      (about : document.order._id = orderId)
      (charges : callback.free = false)
      (outcome : (callback.program clock).commit state.database document =
        (.ok (), after.database, document'))

theorem stepCommit_database {state : State} {index : ℕ} {clock : Clock}
    {operation : Option Operation} {callback : Callback}
    {document document' : OrderDocument} {database : Database}
    (outcome : (callback.program clock).commit state.database document =
      (.ok (), database, document')) :
    (stepCommit index clock operation callback document state).database =
      database := by
  simp only [stepCommit, outcome]
  cases callback.followUp operation document' <;> rfl

/-- Every other step leaves it uncharged. -/
theorem step_uncharged {castToObjectId : String → Option ObjectId}
    {state after : State} {action : Action}
    (stepped : step castToObjectId action state = some after)
    (uncharged : state.database.Uncharged orderId) :
    after.database.Uncharged orderId ∨
      Charging orderId state action after := by
  cases action with
  | create market clock customer input other =>
    simp only [step, stepCreate] at stepped
    split at stepped
    · cases stepped
    · cases stepped
      exact .inl uncharged
  | request environment clock actor other operation =>
    simp only [step, stepRequest] at stepped
    split at stepped
    · rename_i claimed row taken _
      have same := (@State.Beside.of_claimExpired orderId _ _ _ _ taken).2.1
      rw [← same] at uncharged
      split at stepped
      · cases stepped
      · cases stepped
        exact .inl uncharged
      · cases stepped
        exact .inl uncharged
      · cases stepped
        exact .inl uncharged
      · cases stepped
        left
        have vetted := (@State.vet_database claimed other operation).1
        show ((claimed.vet other operation).database).Uncharged orderId
        rw [vetted]
        exact uncharged
    · cases stepped
  | commit index environment clock =>
    rcases Option.map_eq_some_iff.mp stepped with ⟨call, flying, rfl⟩
    cases call with
    | transaction operation callback prepared document =>
      show (stepCommit index clock operation callback document
          state).database.Uncharged orderId ∨
        Charging orderId state _ (stepCommit index clock operation callback document state)
      rcases outcome : (callback.program clock).commit state.database
        document with ⟨failure | value, database, document'⟩
      · rcases Callback.failed outcome with ⟨promotions, rfl⟩
        left
        rw [stepCommit, outcome]
        exact uncharged.of_same rfl rfl
      · cases value
        have written := @stepCommit_database state index clock operation
          callback document document' database outcome
        rw [written]
        by_cases aside : document.order._id ≠ orderId ∨ callback.free = true
        · exact .inl (uncharged.commits aside outcome)
        · push Not at aside
          refine .inr (.intro index environment clock operation callback
            prepared document document' rfl flying aside.1 ?_ ?_)
          · exact eq_false_of_ne_true aside.2
          · rw [written]
            exact outcome
    | save document =>
      left
      simp only [stepCall, stepSave]
      split
      · exact uncharged
      · exact uncharged.of_same rfl rfl
    | audit event =>
      left
      simp only [stepCall, stepAudit]
      split
      · exact uncharged
      · exact uncharged.of_same rfl rfl
    | reserve claim document =>
      left
      simp only [stepCall, stepReserve]
      split
      · exact uncharged
      · exact uncharged.of_same rfl rfl
  | abort index budget clock =>
    simp only [step] at stepped
    split at stepped
    · rename_i operation callback prepared document flying
      left
      have confined := @Callback.confined clock callback state.database document (some budget)
      rcases confined.durable with ⟨promotions, durable⟩
      rw [stepAbort] at stepped
      split at stepped
      · cases stepped
      · rename_i finish _ ran
        cases stepped
        rw [ran] at durable
        have written : finish.durable =
            state.database.putPromotions promotions := durable
        show finish.durable.Uncharged orderId
        rw [written]
        exact uncharged.of_same rfl rfl
    · cases stepped
  | crash | sweep =>
    cases stepped
    exact .inl uncharged
  | wallet action =>
    left
    simp only [step, stepWallet] at stepped
    split at stepped
    · cases stepped
    · rename_i aside
      split at stepped
      · cases stepped
      · rename_i moved ran
        cases stepped
        rcases (Wallets.step_effect ran).store.ledger
          (Bool.eq_false_iff.mpr aside) with ⟨rows, appended, free⟩
        refine ⟨uncharged.transactions, ?_⟩
        intro entry member
        have member : entry ∈ state.database.wallets.ledger ++ rows := appended ▸ member
        rcases List.mem_append.mp member with old | new
        · exact uncharged.ledger entry old
        · rw [free entry new]
          exact (Option.some_ne_none orderId).symm
  | editPromos promos =>
    cases stepped
    exact .inl (uncharged.of_same rfl rfl)

end

/-! ## What the calls know of payments and fees -/

theorem Unpaid.rests {orderId : ObjectId} {callback : Callback}
    (free : callback.free = true) (stored : Prop) :
    Rests orderId callback.touches (fun session =>
      session.memory.order._id = orderId ∧ session.memory.order.Unpaid ∧
        (stored → ∀ row, session.store.orders.lookup orderId = some row → row.Unpaid)) where
  identified := fun _ holds => holds.1
  beside := fun _ _ _ _ same holds => same ▸ holds
  save := by
    rintro session row saved ⟨identified, unpaid, rows⟩ ran
    have clean := OrderDocument.save_saved ran
    subst clean
    refine ⟨identified, unpaid, ?_⟩
    intro keeps stored found
    cases (AList.lookup_insert _).symm.trans found
    rcases OrderDocument.save_cases ran with ⟨_, _, rfl⟩ | ⟨_, old, found', rfl⟩
    · exact unpaid
    · exact OrderDocument.unpaid_writeTo (fun _ => unpaid.1)
        (fun _ => unpaid.2) (rows keeps old found')
  update := by
    rintro session expected patch store ⟨identified, unpaid, rows⟩ ran
    rcases updateOrder_ok.mp ran with ⟨row, found, _, rfl⟩
    refine ⟨identified, unpaid, ?_⟩
    intro keeps stored found'
    cases (AList.lookup_insert _).symm.trans found'
    exact rows keeps row found
  touch := by
    rintro session touch touches ⟨identified, unpaid, rows⟩
    cases touch with
    | consume | collect => cases callback <;> cases touches <;> cases free
    | _ => exact ⟨identified, unpaid, rows⟩

def Spares : Call → Prop
  | .transaction _ callback prepared document =>
    callback.free = true → (callback.origin prepared).1.phase = .booked → document.order.Unpaid
  | .save document =>
    (.paymentSummary ∈ document.modified →
        document.order.paymentSummary.collectedCentavos = 0) ∧
      (.pricing ∈ document.modified → document.order.pricing.consumedCentavos = 0)
  | .reserve _ document => document.order.Unpaid
  | .audit _ => True

def Database.PaysLater (orderId : ObjectId) (database : Database) : Prop :=
  ∀ row, database.orders.lookup orderId = some row → row.status.phase = .booked → row.Unpaid

section

variable {orderId : ObjectId} {state after : State} {action : Action}
  {clock : Clock} {operation : Option Operation} {callback : Callback}
  {prepared document document' : OrderDocument} {database : Database}

theorem Callback.Fits.unpaid {row : OnlineOrder}
    (fits : callback.Fits document row.standing) (free : callback.free = true)
    (unpaid : row.Unpaid) : document.order.Unpaid := by
  have of_eq : document.order.standing = row.standing →
      document.order.Unpaid := by
    intro equal
    exact .of_standing ((congrArg Standing.collected equal).trans unpaid.1)
      ((congrArg Standing.consumed equal).trans unpaid.2)
  cases callback with
  | create => exact fits.elim
  | saveThenTransition =>
    exact .of_standing (fits.1.collected.trans unpaid.1) (fits.1.consumed.trans unpaid.2)
  | accept => exact of_eq fits.1
  | respond => exact of_eq fits
  | _ => cases free

/-- A new call spares its order. -/
theorem Spares.begun {call : Call}
    (later : state.database.PaysLater orderId)
    (spares : ∀ other ∈ state.calls, other.orderId = orderId → Spares other)
    (begun : Begun orderId state action after call)
    (about : call.orderId = orderId) : Spares call := by
  cases begun with
  | booked _ _ _ _ _ _ _ ordered =>
    intro _ _
    rcases (createOrder_books _ ordered).unpaid with ⟨consumed, collected, _⟩
    exact .of_standing collected consumed
  | drafted environment clock actor method row callback document _ _ _ found prepares =>
    intro free booked
    have drafted : Drafted actor row method callback document := method.drafts _ prepares
    apply drafted.fits.unpaid free
    apply later row found
    rw [drafted.fits.place] at booked
    exact booked
  | amended environment clock actor method row document _ _ prepares =>
    have amended : Amended row document := method.drafts _ prepares
    constructor
    · intro marked
      have path := amended.clean marked
      simp at path
    · intro marked
      have path := amended.clean marked
      simp at path
  | audited => trivial
  | aborted index budget clock operation callback prepared document _ flying =>
    intro free booked
    have confined := @Callback.confined clock callback state.database document (some budget)
    have about' : document.order._id = orderId := confined.identified.symm.trans about
    have unpaid := spares _ (List.mem_of_getElem? flying) about' free booked
    have quiet := (@Unpaid.rests orderId callback free False).kept.runs
      (@Callback.allows callback clock _)
    exact (quiet ⟨state.database, state.database, document, some budget⟩
      ⟨about', unpaid, False.elim⟩).2.1
  | reserved index environment clock claim document promoId _ flying =>
    have unpaid : document.order.Unpaid := spares _ (List.mem_of_getElem? flying) about
    exact ⟨fun _ => unpaid.1, fun _ => unpaid.2⟩

theorem Spares.follows {earlier : Database} {call : Call}
    (read : Read orderId state (.transaction operation callback prepared document))
    (advanced : Advanced orderId callback prepared earlier database document')
    (unpaid : (∃ customerUid book promo, callback = .create customerUid book promo) →
      document'.order.Unpaid)
    (followed : callback.followUp operation document' = some call) :
    Spares call := by
  unfold Callback.followUp at followed
  split at followed
  · rename_i first actorUid actorRole note next
    cases followed
    intro _ booked
    have booked : document'.order.status.phase = .booked := booked
    rw [advanced.plain] at booked
    exact (phase_of_followUps read.continues booked).elim
  · cases followed
    exact unpaid ⟨_, _, _, rfl⟩
  · cases followed

theorem Advanced.booked {earlier : Database} {row : OnlineOrder}
    (advanced : Advanced orderId callback prepared earlier database document')
    (found : database.orders.lookup orderId = some row)
    (booked : row.status.phase = .booked) :
    callback.free = true ∧
      (callback.origin prepared).1.phase = .booked ∧
      ∀ old, earlier.orders.lookup orderId = some old → old.status.phase = .booked := by
  cases advanced with
  | opened _ _ ordered absent =>
    rcases ordered.creates with ⟨_, _, _, rfl⟩
    refine ⟨rfl, ?_, ?_⟩
    · show prepared.order.standing.status.phase = .booked
      rw [ordered.unpaid.2.2.2.1]
      rfl
    · intro old found'
      rw [absent] at found'
      cases found'
  | moved old pickupMode _ stored stands striding =>
    have moves := @Callback.targets_ne_nil callback pickupMode
    rcases striding.row moves with ⟨_, found', status, _⟩
    cases found.symm.trans found'
    have lands := striding.lands moves
    rw [← status] at lands
    rcases striding.strides with ⟨_, _, strides, _⟩
    rw [← status] at strides
    have before := strides.booked booked
    refine ⟨Callback.free_of_booked lands booked, ?_, ?_⟩
    · rw [← stands]
      exact before
    · intro other found''
      cases stored.symm.trans found''
      exact before

theorem Spares.commits
    (spares : Spares (.transaction operation callback prepared document))
    (about : document.order._id = orderId)
    (advanced : Advanced orderId callback prepared state.database database document')
    (later : state.database.PaysLater orderId)
    (free : callback.free = true)
    (booked : (callback.origin prepared).1.phase = .booked)
    (outcome : (callback.program clock).commit state.database document =
      (.ok (), database, document')) :
    document'.order.Unpaid ∧ ∀ row, database.orders.lookup orderId = some row → row.Unpaid := by
  have quiet := (@Unpaid.rests orderId callback free True).kept.runs
    (@Callback.allows callback clock _)
  have rows : ∀ row, state.database.orders.lookup orderId = some row →
      row.Unpaid := by
    intro row found
    cases advanced with
    | opened _ _ _ absent =>
      rw [absent] at found
      cases found
    | moved old _ _ stored stands _ =>
      cases stored.symm.trans found
      apply later row found
      rw [← stands] at booked
      exact booked
  have kept := @Keeps.committed _ _ _ _ (fun (store : Database) (memory : OrderDocument) =>
      memory.order._id = orderId ∧ memory.order.Unpaid ∧
        (True → ∀ row, store.orders.lookup orderId = some row → row.Unpaid))
    _ _ _ _ _ _ quiet ⟨about, spares free booked, fun _ => rows⟩ outcome
  exact ⟨kept.2.1, kept.2.2 trivial⟩

end

theorem payment_obligations (orderId : ObjectId) :
    Obligations orderId (Timely orderId) (OnTime orderId)
      (fun state => state.database.PaysLater orderId)
      (fun _ => Spares) where
  beside := by
    intro state after beside later row found
    rw [beside.same.row] at found
    exact later row found
  steady := fun _ _ _ _ _ spares => spares
  begun := fun _ _ _ _ _ invariant _ _ begun about =>
    .begun invariant.good invariant.sound begun about
  commit := by
    intro state index environment clock operation callback prepared document
      database document' onTime invariant timely flying about spares outcome
    have read := onTime.sound _ (List.mem_of_getElem? flying) about
    have advanced := read.commits timely flying about outcome
    refine ⟨⟨?_, fun _ _ _ other => other⟩, ?_⟩
    · intro row found booked
      rcases advanced.booked found booked with ⟨free, before, _⟩
      exact (spares.commits about advanced invariant.good free before outcome).2 row found
    · intro call followed
      apply Spares.follows read advanced _ followed
      rintro ⟨_, _, _, rfl⟩
      rcases read with ordered | ⟨existing, _⟩
      · have drafted : prepared.order.status = .draft := ordered.unpaid.2.2.2.1
        refine (spares.commits about advanced invariant.good rfl ?_ outcome).1
        show prepared.order.status.phase = .booked
        rw [drafted]
        rfl
      · exact (existing _ _ _ rfl).elim
  save := by
    intro state index environment clock document row saved onTime invariant
      timely flying about spares outcome
    have read := onTime.sound _ (List.mem_of_getElem? flying) about
    rcases read.saves timely flying about outcome with ⟨old, found, rfl, stands⟩
    refine ⟨?_, fun _ _ _ other => other⟩
    intro row found' booked
    cases (AList.lookup_insert _).symm.trans found'
    have status : (document.writeTo old).status = old.status := congrArg Prod.fst stands
    rw [status] at booked
    exact OrderDocument.unpaid_writeTo spares.1 spares.2 (invariant.good old found booked)

def Database.Booked (orderId : ObjectId) (database : Database) : Prop :=
  ∀ row, database.orders.lookup orderId = some row → row.status.phase = .booked

theorem OnTime.booked {castToObjectId : String → Option ObjectId}
    {orderId : ObjectId} {state after : State} {action : Action}
    (tidy : state.Tidy) (onTime : OnTime orderId state)
    (timely : Timely orderId state action)
    (stepped : (orderSystem castToObjectId).step action state = some after)
    (booked : after.database.Booked orderId) :
    state.database.Booked orderId := by
  have cases := @step_cases orderId _ _ _ tidy _ stepped
  cases cases with
  | aside beside _ =>
    intro row found
    rw [← beside.same.row] at found
    exact booked row found
  | committed index environment clock operation callback prepared document
      document' database commits flying about outcome beside _ =>
    subst commits
    have read := onTime.sound _ (List.mem_of_getElem? flying) about
    have advanced := read.commits timely flying about outcome
    rcases advanced.stored with ⟨row, found, _⟩
    have stored : after.database.orders.lookup orderId = some row := beside.same.row.trans found
    exact (advanced.booked found (booked row stored)).2.2
  | saved index environment clock document document' written commits flying
      about outcome beside _ =>
    subst commits
    have read := onTime.sound _ (List.mem_of_getElem? flying) about
    rcases read.saves timely flying about outcome with ⟨old, found, _, stands⟩
    intro row found'
    cases found.symm.trans found'
    have stored : after.database.orders.lookup orderId = some written :=
      beside.same.row.trans (AList.lookup_insert _)
    have same : written.status = old.status := congrArg Prod.fst stands
    rw [← same]
    exact booked written stored

theorem uncharged_of_reaches {castToObjectId : String → Option ObjectId}
    {orderId : ObjectId} {state : State}
    (reached : (orderSystem castToObjectId).Reaches (Timely orderId) .start state) :
    state.database.Booked orderId → state.database.Uncharged orderId := by
  apply reached.layered
    (fun state => state.Tidy ∧ OnTime orderId state)
    (fun state => state.database.Booked orderId → state.database.Uncharged orderId)
  · exact fun state reached => ⟨State.Tidy.of_reaches reached,
      onTime_of_reaches (fun _ _ timely => timely) reached⟩
  · intro _
    constructor
    · intro transaction member
      simp [State.start] at member
    · intro entry member
      simp [State.start, Wallets.WalletStore.empty] at member
  · rintro state action after ⟨tidy, onTime⟩ uncharged timely stepped booked
    have before := uncharged (onTime.booked tidy timely stepped booked)
    rcases step_uncharged stepped before with kept | charging
    · exact kept
    · -- What charges the order takes it past the scale.
      rcases charging with ⟨index, environment, clock, operation, callback,
        prepared, document, document', rfl, flying, about, charges, outcome⟩
      have read := onTime.sound _ (List.mem_of_getElem? flying) about
      have advanced := read.commits timely flying about outcome
      rcases advanced.stored with ⟨row, found, _⟩
      have free := (advanced.booked found (booked row found)).1
      rw [charges] at free
      cases free

/--
In a timely run an order that was cancelled or rejected has never cost anyone
money: nothing was collected for it, and no fee was debited.
-/
theorem calledOffOrdersCostNothing
    {castToObjectId : String → Option ObjectId} {orderId : ObjectId}
    {state : State} {row : OnlineOrder}
    (reached : (orderSystem castToObjectId).Reaches (Timely orderId) .start state)
    (found : state.database.orders.lookup orderId = some row)
    (calledOff : row.status = .cancelled ∨ row.status = .rejectedByProvider) :
    (∀ transaction ∈ state.database.transactions, transaction.orderId ≠ orderId) ∧
      (row.paymentSummary.amountCollectedCentavos = none ∨
        row.paymentSummary.amountCollectedCentavos = some 0) ∧
      (row.pricing.platformFeeConsumedCentavos = none ∨
        row.pricing.platformFeeConsumedCentavos = some 0) ∧
      ∀ entry ∈ state.database.wallets.ledger, entry.orderId ≠ some orderId := by
  have booked : row.status.phase = .booked := by
    rcases calledOff with status | status <;> rw [status] <;> rfl
  have invariant := (payment_obligations orderId).reaches
    (fun _ reached => onTime_of_reaches (fun _ _ timely => timely) reached)
    (by
      intro row found
      simp [State.start] at found)
    reached
  have unpaid := invariant.good row found booked
  have uncharged : state.database.Uncharged orderId := by
    apply uncharged_of_reaches reached
    intro other found'
    cases found.symm.trans found'
    exact booked
  exact ⟨uncharged.transactions, absent_or_zero unpaid.1, absent_or_zero unpaid.2, uncharged.ledger⟩

def Shop.callsOff : Operation := .cancelOrder "changed my mind"

/-- The customer of the shop cancels an order that has been accepted. -/
theorem calledOffOrdersCostNothing_accepted :
    ∃ state row,
      (orderSystem some).Reaches (Timely "order") .start state ∧
        state.database.orders.lookup "order" = some row ∧
        row.status = .cancelled ∧
        ((∀ transaction ∈ state.database.transactions,
            transaction.orderId ≠ "order") ∧
          (row.paymentSummary.amountCollectedCentavos = none ∨
            row.paymentSummary.amountCollectedCentavos = some 0) ∧
          (row.pricing.platformFeeConsumedCentavos = none ∨
            row.pricing.platformFeeConsumedCentavos = some 0) ∧
          ∀ entry ∈ state.database.wallets.ledger, entry.orderId ≠ some "order") := by
  have performed :
      (((orderSystem some).restrict (Timely "order")).perform
        (Shop.accepted ++ Shop.calls Shop.customer Shop.callsOff)
        .start).bind (fun state =>
          (state.database.orders.lookup "order").map OnlineOrder.status) = some .cancelled := by
    decide +kernel
  rcases System.reaches_of_bind_restrict performed with ⟨state, reached, seen⟩
  rcases Option.map_eq_some_iff.mp seen with ⟨row, found, status⟩
  exact ⟨state, row, reached, found, status, calledOffOrdersCostNothing reached found (.inl status)⟩

/--
The owner accepts the order and takes the laundry in before its code is stamped on
it.  The stamp takes the order back to where it was created, and the customer
cancels it.
-/
def receivedThenCalledOff : List Action :=
  Shop.placed ++
    [ Shop.requests Shop.owner .acceptOrder, .commit 1 Shop.environment (Shop.clock 2),
      Shop.requests Shop.owner (.receiveAtCounter Shop.deferred),
      .commit 1 Shop.environment (Shop.clock 2), Shop.proceeds, Shop.proceeds ] ++
    Shop.calls Shop.customer Shop.callsOff

/-- The order is cancelled, and the wallet has been debited for it. -/
theorem calledOffOrderCosts :
    ¬ ∀ (orderId : ObjectId) (state : State) (row : OnlineOrder),
        (orderSystem some).Reaches (fun _ _ => True) .start state →
        state.database.orders.lookup orderId = some row →
        row.status = .cancelled ∨ row.status = .rejectedByProvider →
        (∀ transaction ∈ state.database.transactions, transaction.orderId ≠ orderId) ∧
          (row.paymentSummary.amountCollectedCentavos = none ∨
            row.paymentSummary.amountCollectedCentavos = some 0) ∧
          (row.pricing.platformFeeConsumedCentavos = none ∨
            row.pricing.platformFeeConsumedCentavos = some 0) ∧
          ∀ entry ∈ state.database.wallets.ledger, entry.orderId ≠ some orderId := by
  intro always
  have performed : ((orderSystem some).perform receivedThenCalledOff .start).bind (fun state =>
          (state.database.orders.lookup "order").map fun row =>
            (row.status, state.database.wallets.ledger.any fun entry =>
              entry.orderId == some "order")) =
        some (.cancelled, true) := by
    decide +kernel
  rcases System.reaches_of_bind performed with ⟨state, ran, seen⟩
  rcases Option.map_eq_some_iff.mp seen with ⟨row, found, facts⟩
  rcases Prod.mk.inj facts with ⟨status, debited⟩
  rcases List.any_eq_true.mp debited with ⟨entry, member, about⟩
  have free := (always "order" state row ran found (.inl status)).2.2.2
  exact free entry member (by simpa using about)

end Lalaba.Orders
