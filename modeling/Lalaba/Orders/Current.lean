import Lalaba.Orders.InFlight

/-!
# What a call knows of its order

A call in flight has read its order at some version.  As long as the row is at
this version, the document fits it, and a commit makes the moves of the callback
on the account of the order.

Two things can break this: a callback that runs again on a document which an
aborted run has touched, and a save that takes a row which has moved on back to
the status and version in memory.  In a current run there is neither, and there
a commit of a call that is not up to date is refused.
-/

namespace Lalaba.Orders

open Foundation
open Foundation.Program
open Wallets

/-! ## Current runs -/

def OrderDocument.inStep (document : OrderDocument)
    (stored : Option OnlineOrder) : Bool :=
  stored.all fun row =>
    decide ((.status ∈ document.modified → document.order.status = row.status) ∧
      (.version ∈ document.modified → document.order.version = row.version))

def Callback.resets : Callback → Bool
  | .accept _ _ _ _ => true
  | _ => false

/--
A step of a current run: what is written to the order comes from a document that
no aborted run has touched, and that does not take the row back.
-/
def current (orderId : ObjectId) (state : State) : Action → Bool
  | .commit index _ _ =>
    match state.calls[index]? with
    | some (.transaction _ callback prepared document) =>
      decide (document.order._id ≠ orderId) || callback.resets ||
        (decide (document = prepared) && document.inStep (state.database.orders.lookup orderId))
    | some (.save document) =>
      decide (document.order._id ≠ orderId) ||
        document.inStep (state.database.orders.lookup orderId)
    | _ => true
  | _ => true

def Current (orderId : ObjectId) (state : State) (action : Action) :
    Prop :=
  current orderId state action = true

instance (orderId : ObjectId) (state : State) (action : Action) :
    Decidable (Current orderId state action) :=
  inferInstanceAs (Decidable (_ = true))

theorem OrderDocument.inStep_version {document : OrderDocument}
    {row : OnlineOrder} (still : document.inStep (some row) = true)
    (dirty : .version ∈ document.modified) :
    document.order.version = row.version := by
  simp only [inStep, Option.all_some, decide_eq_true_eq] at still
  exact still.2 dirty

section

variable {orderId : ObjectId} {state : State} {index : ℕ}
  {environment : Environment} {clock : Clock}
  {operation : Option Operation} {callback : Callback}
  {prepared document : OrderDocument}

theorem Current.transaction
    (current : Current orderId state (.commit index environment clock))
    (flying : state.calls[index]? = some (.transaction operation callback prepared document))
    (about : document.order._id = orderId)
    (keeps : callback.resets = false) :
    document = prepared ∧ document.inStep (state.database.orders.lookup orderId) = true := by
  simpa [Current, Orders.current, flying, about, keeps] using current

theorem Current.save
    (current : Current orderId state (.commit index environment clock))
    (flying : state.calls[index]? = some (.save document))
    (about : document.order._id = orderId) :
    document.inStep (state.database.orders.lookup orderId) = true := by
  simpa [Current, Orders.current, flying, about] using current

end

def Database.Later (orderId : ObjectId) (database after : Database) :
    Prop :=
  ∀ row, database.orders.lookup orderId = some row →
    ∃ later, after.orders.lookup orderId = some later ∧
      (later.standing = row.standing ∨ row.version < later.version)

variable {orderId : ObjectId} {database after : Database}
  {callback : Callback} {prepared : OrderDocument}

theorem Database.SameFor.later (same : database.SameFor orderId after) :
    database.Later orderId after := by
  intro row found
  rw [← same.row] at found
  exact ⟨row, found, .inl rfl⟩

/-! ## What a call knows -/

def Callback.startVersion (prepared : OrderDocument) : Callback → ℕ
  | .accept _ _ initialVersion _ => initialVersion
  | _ => prepared.order.version

theorem Callback.Fits.startVersion {document : OrderDocument}
    {stored : Standing} (fits : callback.Fits document stored) :
    callback.startVersion document = stored.version := by
  have of_eq : document.order.standing = stored →
      document.order.version = stored.version :=
    fun equal => congrArg Standing.version equal
  cases callback with
  | create => exact fits.elim
  | saveThenTransition | recordWeight | receive => exact fits.1.version
  | accept => exact fits.2.2
  | respond | recordPayment => exact of_eq fits
  | handOver | abandon => exact of_eq fits.1

/-- What was read of the row, while the row is at that version. -/
structure Reading (orderId : ObjectId) (callback : Callback)
    (prepared : OrderDocument) (database : Database) : Prop where
  inserted : prepared.isNew = false
  row : ∃ row, database.orders.lookup orderId = some row ∧
    callback.startVersion prepared ≤ row.version ∧
    (row.version = callback.startVersion prepared → callback.Fits prepared row.standing)

theorem Reading.later (reading : Reading orderId callback prepared database)
    (later : database.Later orderId after) :
    Reading orderId callback prepared after := by
  rcases reading.row with ⟨row, found, earlier, fits⟩
  rcases later row found with ⟨next, found', same | newer⟩
  · have version : next.version = row.version := congrArg Standing.version same
    refine ⟨reading.inserted, next, found', version ▸ earlier, ?_⟩
    intro current
    rw [same]
    exact fits (version.symm.trans current)
  · refine ⟨reading.inserted, next, found', earlier.trans newer.le, ?_⟩
    intro current
    rw [current] at newer
    exact (newer.not_ge earlier).elim

/-- What an aborted run of `acceptOrder` leaves of the document. -/
structure Retained (prepared document : OrderDocument) : Prop where
  identified : document.order._id = prepared.order._id
  inserted : document.isNew = false
  pickupMode : document.order.fulfillment.pickupMode = prepared.order.fulfillment.pickupMode
  due : document.order.standing.due = prepared.order.standing.due
  collected : document.order.standing.collected = prepared.order.standing.collected
  consumed : document.order.standing.consumed = prepared.order.standing.consumed

/--
The document of `createOrder` after its transaction.  It still holds a status
and a version to save, those of the creation.
-/
structure Trailing (orderId : ObjectId) (document : OrderDocument)
    (database : Database) : Prop where
  inserted : document.isNew = false
  status : .status ∈ document.modified
  version : .version ∈ document.modified
  pending : document.order.status = .pendingProviderAcceptance
  row : ∃ row, database.orders.lookup orderId = some row ∧
    document.order.version ≤ row.version ∧
    (row.version = document.order.version → document.order.standing = row.standing)

theorem Trailing.later {document : OrderDocument}
    (trailing : Trailing orderId document database)
    (later : database.Later orderId after) :
    Trailing orderId document after := by
  rcases trailing.row with ⟨row, found, earlier, same⟩
  refine ⟨trailing.inserted, trailing.status, trailing.version, trailing.pending, ?_⟩
  rcases later row found with ⟨next, found', equal | newer⟩
  · have version : next.version = row.version := congrArg Standing.version equal
    refine ⟨next, found', version ▸ earlier, ?_⟩
    intro current
    rw [equal]
    exact same (version.symm.trans current)
  · refine ⟨next, found', earlier.trans newer.le, ?_⟩
    intro current
    rw [current] at newer
    exact (newer.not_ge earlier).elim

/-- A document that changes nothing of an account when it is saved. -/
structure Aside (document : OrderDocument) : Prop where
  inserted : document.isNew = false
  clean : document.modified ⊆ {.pickupAssignment, .returnAssignment, .activeQualityHold}

/-- Where a transaction comes from: a method, or the one before it. -/
inductive Origin (operation : Option Operation) (callback : Callback)
    (prepared : OrderDocument) : Prop where
  | drafted (actor : User) (row : OnlineOrder) (method : Operation)
      (of : operation = some method)
      (drafted : Drafted actor row method callback prepared)
  | following (target : OrderStatus) (actorUid : Uid) (actorRole : String)
      (of : callback = .saveThenTransition target actorUid actorRole none none)
      (after : (prepared.order.status, target) ∈ followUps)

def Knows (orderId : ObjectId) (state : State) : Call → Prop
  | .transaction operation callback prepared document =>
    (∃ customerUid book promo,
        callback = .create customerUid book promo ∧ Booked orderId callback prepared) ∨
      Reading orderId callback prepared state.database ∧
        Origin operation callback prepared ∧
        (callback.resets → Retained prepared document)
  | .save document =>
    Aside document ∨ Trailing orderId document state.database
  | .reserve _ document => Trailing orderId document state.database
  | .audit _ => True

theorem Knows.later {state after : State} {call : Call}
    (knows : Knows orderId state call)
    (later : state.database.Later orderId after.database) :
    Knows orderId after call := by
  cases call with
  | transaction =>
    rcases knows with created | ⟨reading, rest⟩
    · exact .inl created
    · exact .inr ⟨reading.later later, rest⟩
  | save =>
    rcases knows with aside | trailing
    · exact .inl aside
    · exact .inr (trailing.later later)
  | reserve => exact Trailing.later knows later
  | audit => trivial

/--
What holds of the order itself: nothing is recorded for an order that does not
exist, and a deadline is one of an order that is not paid for.
-/
structure Grounded (orderId : ObjectId) (database : Database) : Prop where
  unborn : database.orders.lookup orderId = none →
    orderLedgerTotal orderId database.wallets = 0 ∧ orderReceipts orderId database = 0
  dated : database.Dated orderId

theorem Grounded.beside (grounded : Grounded orderId database)
    (same : database.SameFor orderId after) : Grounded orderId after where
  unborn := by
    intro absent
    rw [same.row] at absent
    rw [same.ledger, same.receipts]
    exact grounded.unborn absent
  dated := by
    intro row found
    rw [same.row] at found
    exact grounded.dated row found

/-! ## What a commit does -/

/-- What a committed callback has done to the account of its order. -/
inductive Effect (orderId : ObjectId) (callback : Callback)
    (prepared : OrderDocument) (database after : Database) : Prop where
  | opened (account : Account)
      (booked : Booked orderId callback prepared)
      (absent : database.orders.lookup orderId = none)
      (made : (Account.opening prepared.order.standing).makeAll creation = some account)
      (stored : after.account orderId = some account)
  | moved (account made : Account) (owed : ℤ)
      (found : database.account orderId = some account)
      (fits : callback.Fits prepared account.toStanding)
      (moves : account.makeAll (callback.moves prepared.order.standing) = some made)
      (exact : callback.keepsDocument → owed = made.owed)
      (stored : after.account orderId = some (made.reprice made.due owed))

theorem Callback.aim_mem_moves (callback : Callback)
    (standing : Standing) :
    Move.transition callback.aim ∈ callback.moves standing := by
  cases callback with
  | respond customerUid approve =>
    cases approve <;> simp [aim, moves, response]
  | _ => simp [aim, moves, creation, acceptance]

theorem Effect.grows (effect : Effect orderId callback prepared database after)
    {account made : Account} (before : database.account orderId = some account)
    (stored : after.account orderId = some made) :
    account.version < made.version := by
  cases effect with
  | opened _ _ absent =>
    rcases Database.account_eq_some.mp before with ⟨_, found, _⟩
    rw [absent] at found
    cases found
  | moved old new owed found fits moves _ stored' =>
    rw [found] at before
    cases before
    rw [stored'] at stored
    cases stored
    have grown := Account.version_lt_of_makeAll
      (callback.aim_mem_moves prepared.order.standing) moves
    exact grown

theorem Effect.later (effect : Effect orderId callback prepared database after) :
    database.Later orderId after := by
  have stored : ∃ made, after.account orderId = some made := by
    cases effect with
    | opened account _ _ _ stored => exact ⟨account, stored⟩
    | moved _ _ _ _ _ _ _ stored => exact ⟨_, stored⟩
  rcases stored with ⟨made, stored⟩
  intro row found
  have before := Database.account_eq_some.mpr ⟨row, found, rfl⟩
  have grown := effect.grows before stored
  rcases Database.account_eq_some.mp stored with ⟨later, found', rfl⟩
  exact ⟨later, found', .inr grown⟩

theorem Database.holds_self {account : Account}
    (stored : database.account orderId = some account) :
    database.Holds orderId account fun other => database.account other := by
  intro other
  split
  · rename_i same
    subst same
    exact stored
  · rfl

section

variable {orderId : ObjectId} {clock : Clock} {callback : Callback}
  {prepared document : OrderDocument} {database after : Database}
  {document' : OrderDocument}

theorem Reading.loaded {row : OnlineOrder} {standing : Standing}
    (inserted : document.isNew = false)
    (identified : document.order._id = orderId)
    (found : database.orders.lookup orderId = some row)
    (same : document.order.standing = standing) :
    ∃ account, database.account orderId = some account ∧
      account.toStanding = row.standing ∧
      Loaded orderId (fun other => database.account other) account standing
        database document := by
  have stored := Database.account_eq_some.mpr ⟨row, found, rfl⟩
  exact ⟨_, stored, rfl, Database.holds_self stored, identified, inserted, same⟩

/-- A transaction that starts from its document, up to date or not. -/
theorem Reading.commits
    (reading : Reading orderId callback document database)
    (identified : document.order._id = orderId)
    (keeps : callback.keepsDocument)
    (still : document.inStep (database.orders.lookup orderId) = true)
    (outcome : (callback.program clock).commit database document = (.ok (), after, document')) :
    Effect orderId callback document database after ∧
      after.Dated orderId ∧ document'.isNew = false ∧
      after.account orderId ≠ none ∧
      ∀ row, after.orders.lookup orderId = some row → document'.order.standing = row.standing := by
  rcases reading.row with ⟨row, found, earlier, fits⟩
  have start : callback.startVersion document = document.order.version := by
    cases callback <;> first | rfl | exact keeps.elim
  rw [start] at earlier fits
  by_cases current : row.version = document.order.version
  · rcases Reading.loaded reading.inserted identified found rfl with ⟨account, stored, same, loaded⟩
    have fitting : Fitting orderId (fun other => database.account other)
        account document.order.standing callback database document := by
      refine ⟨loaded, ?_⟩
      rw [same]
      exact fits current
    have ensures := @Callback.ensures_moves orderId
      (fun other => database.account other) account
      document.order.standing clock callback keeps
    rcases ensures.committed fitting outcome with ⟨⟨made, moves, agrees⟩, dated⟩
    refine ⟨?_, dated, agrees.inserted, ?_, ?_⟩
    · exact .moved account made made.owed stored fitting.2 moves (fun _ => rfl) agrees.holds.stored
    · rw [agrees.holds.stored]
      exact Option.some_ne_none _
    · intro later found'
      rcases agrees.holds.row with ⟨_, lookup, equal⟩
      rw [found'] at lookup
      cases lookup
      exact agrees.standing.trans equal.symm
  · -- The row has moved on, and a save would not take it back.
    have clean : .version ∉ document.modified := by
      intro dirty
      rw [found] at still
      exact current (OrderDocument.inStep_version still dirty).symm
    have stale : StaleClean database document := by
      refine ⟨⟨reading.inserted, row, ?_, current⟩, clean⟩
      rw [identified]
      exact found
    exact ((StaleClean.program keeps).committed stale outcome).elim

variable {account : Account} {customerUid : Uid}
  {book : Database → Except ServiceError ScheduledPickup}

theorem Database.dated_of_account
    (stored : database.account orderId = some account)
    (status : account.status.abandonmentWaiting = false) :
    database.Dated orderId := by
  rcases Database.account_eq_some.mp stored with ⟨row, found, rfl⟩
  intro other found' waiting
  rw [found] at found'
  cases found'
  rw [show row.status.abandonmentWaiting = false from status] at waiting
  cases waiting

theorem Account.status_of_acceptance {made : Account}
    {pickupMode : FulfillmentPickupMode}
    (moves : account.makeAll (acceptance pickupMode) = some made) :
    made.status = .acceptedByProvider ∨ made.status = .awaitingPickupAssignment := by
  cases pickupMode with
  | providerPickup =>
    have last : acceptance .providerPickup =
        [.transition .acceptedByProvider] ++ [.transition .awaitingPickupAssignment] :=
      rfl
    rw [last] at moves
    exact .inr (status_of_makeAll moves)
  | customerDropoff =>
    have last : acceptance .customerDropoff =
        [] ++ [.transition .acceptedByProvider] :=
      rfl
    rw [last] at moves
    exact .inl (status_of_makeAll moves)

theorem Account.status_of_creation {made : Account}
    (moves : account.makeAll creation = some made) :
    made.status = .pendingProviderAcceptance := by
  have last : creation =
      [.transition .pricingValidated] ++ [.transition .pendingProviderAcceptance] :=
    rfl
  rw [last] at moves
  exact status_of_makeAll moves

/-- An acceptance, on a document that earlier runs may have touched. -/
theorem Reading.accepts {actor : User} {initialStatus : OrderStatus}
    {initialVersion : ℕ} {washer : Option WasherProfile}
    (reading : Reading orderId
      (.accept actor initialStatus initialVersion washer) prepared database)
    (retained : Retained prepared document)
    (identified : document.order._id = orderId)
    (outcome : (acceptInTransaction clock actor initialStatus
      initialVersion washer).commit database document = (.ok (), after, document')) :
    Effect orderId (.accept actor initialStatus initialVersion washer)
        prepared database after ∧
      after.Dated orderId ∧ after.account orderId ≠ none := by
  rcases reading.row with ⟨row, found, earlier, fits⟩
  have inserted := retained.inserted
  by_cases current : row.version = initialVersion
  · rcases fits current with ⟨standing, status, version⟩
    have stored := Database.account_eq_some.mpr ⟨row, found, rfl⟩
    have acceptable := Acceptable.mk (Database.holds_self stored)
      identified inserted
      (retained.pickupMode.trans (congrArg Standing.pickupMode standing))
      (retained.due.trans (congrArg Standing.due standing))
      (retained.collected.trans (congrArg Standing.collected standing))
      (retained.consumed.trans (congrArg Standing.consumed standing))
    rcases (ensures_accept status version).committed acceptable outcome with
      ⟨made, moves, owed, _, loaded⟩
    have stored' := loaded.holds.stored
    refine ⟨?_, ?_, ?_⟩
    · refine .moved _ made owed stored ⟨standing, status, version⟩ ?_
        (fun keeps => keeps.elim) stored'
      show Account.makeAll (acceptance prepared.order.standing.pickupMode)
        _ = some made
      rw [standing]
      exact moves
    · apply Database.dated_of_account stored'
      show made.status.abandonmentWaiting = false
      rcases Account.status_of_acceptance moves with same | same
      · rw [same]
        rfl
      · rw [same]
        rfl
    · rw [stored']
      exact Option.some_ne_none _
  · have stale : document.isNew = false ∧
        ∃ row, database.orders.lookup document.order._id = some row ∧
          row.version ≠ initialVersion := by
      rw [identified]
      exact ⟨inserted, row, found, current⟩
    exact (Stale.accept.committed stale outcome).elim

/-- After a transition its status and its version wait for the next save. -/
theorem ensures_marked {before : Database → OrderDocument → Prop}
    {target : OrderStatus} {actorUid : Uid} {actorRole : String}
    {note : Option String} :
    Ensures before (applyTransition clock target actorUid actorRole note)
      (fun _ _ document => .status ∈ document.modified ∧ .version ∈ document.modified) := by
  let Marked : Database → OrderDocument → Prop := fun _ document =>
    .status ∈ document.modified ∧ .version ∈ document.modified
  apply Ensures.reading (fun _ _ _ => trivial)
  intro start _
  have validated : Ensures before
      (check (assertValidTransition start.order.status target))
      (fun _ => before) :=
    Ensures.check fun _ _ _ _ holds => holds
  apply validated.bind
  intro _
  have patched : Ensures before
      (edit (OrderDocument.applyPatch
        (transitionPatch clock target start.order)) : OrderProgram Unit)
      (fun _ => Marked) := by
    apply Ensures.edit
    intro database document _
    simp [Marked, OrderDocument.applyPatch, TransitionPatch.paths]
  apply patched.bind
  intro _
  have updated : Ensures Marked
      (query (updateOrder start.order._id start.order.version
        (transitionPatch clock target start.order)) : OrderProgram Unit)
      (fun _ => Marked) :=
    Ensures.query fun _ _ _ _ marked _ => marked
  apply updated.bind
  intro _
  have recorded : Ensures Marked
      (query (recordTransition start.order._id start.order.status target
        actorUid actorRole note) : OrderProgram Unit)
      (fun _ => Marked) :=
    Ensures.query fun _ _ _ _ marked _ => marked
  apply recorded.bind
  intro _
  exact ensures_settlePromo fun _ _ _ marked => marked

theorem ensures_duplicate :
    Ensures
      (fun database document => document.isNew = true ∧
        database.orders.lookup document.order._id ≠ none)
      (createInTransaction clock customerUid book)
      (fun _ _ _ => False) := by
  apply @ensures_createInTransaction clock customerUid book _ fun _ _ => False
  · exact fun database document slot start => start
  · apply ensures_saveDocument
    rintro database document row saved ⟨isNew, present⟩ ran
    rcases OrderDocument.save_cases ran with ⟨_, absent, _⟩ | ⟨inserted, _⟩
    · exact present absent
    · cases isNew.symm.trans inserted
  · exact fun _ _ impossible => impossible
  · exact fun _ _ => Ensures.unreachable

theorem ensures_created :
    Ensures (fun _ _ => True) (createInTransaction clock customerUid book)
      (fun _ _ document => .status ∈ document.modified ∧ .version ∈ document.modified) := by
  apply @ensures_createInTransaction clock customerUid book _ fun _ _ => True
  · exact fun _ _ _ _ => trivial
  · exact ensures_saveDocument fun _ _ _ _ _ _ => trivial
  · exact fun _ _ _ => trivial
  · intro saved _
    have recorded : Ensures (fun _ _ => True) (query fun database =>
          .ok ((), database.createEvent (creationEvent saved.order._id customerUid)) :
          OrderProgram Unit)
        (fun _ _ _ => True) :=
      Ensures.query fun _ _ _ _ _ _ => trivial
    apply recorded.bind
    intro _
    apply ensures_marked.bind
    intro _
    exact ensures_marked

theorem Booked.commits {promo : Option PromoClaim}
    (grounded : Grounded orderId database)
    (booked : Booked orderId (.create customerUid book promo) document)
    (outcome : (createInTransaction clock customerUid book).commit database
      document = (.ok (), after, document')) :
    Effect orderId (.create customerUid book promo) document database
        after ∧
      after.Dated orderId ∧ after.account orderId ≠ none ∧
      Trailing orderId document' after := by
  have isNew : document.isNew = true := by
    rcases booked.orders with ⟨_, _, _, _, _, _, _, rfl, _⟩
    rfl
  have absent : database.orders.lookup orderId = none := by
    by_contra present
    rw [← booked.identified] at present
    exact ensures_duplicate.committed ⟨isNew, present⟩ outcome
  rcases grounded.unborn absent with ⟨undebited, unpaid⟩
  have unborn : Unborn orderId (fun other => database.account other)
      document.order.standing database document :=
    ⟨absent, fun _ _ => rfl, undebited, unpaid, booked.identified, isNew, rfl⟩
  rcases (ensures_create.and ensures_created).committed ⟨unborn, trivial⟩
    outcome with ⟨⟨made, moves, agrees⟩, status, version⟩
  have stored := agrees.holds.stored
  have pending := Account.status_of_creation moves
  refine ⟨.opened made booked absent moves stored, ?_, ?_, ?_⟩
  · apply Database.dated_of_account stored
    rw [pending]
    rfl
  · rw [stored]
    exact Option.some_ne_none _
  · rcases agrees.holds.row with ⟨row, found, same⟩
    have equal : document'.order.standing = row.standing := agrees.standing.trans same.symm
    refine ⟨agrees.inserted, status, version, ?_, row, found, ?_, ?_⟩
    · exact (congrArg Standing.status agrees.standing).trans pending
    · exact (congrArg Standing.version equal).le
    · exact fun _ => equal

end

/-! ## The invariant -/

section

variable {orderId : ObjectId} {state : State} {index : ℕ}
  {environment : Environment} {clock : Clock}
  {operation : Option Operation} {callback : Callback}
  {prepared document document' : OrderDocument} {database : Database}

theorem Grounded.of_stored (dated : database.Dated orderId)
    (stored : database.account orderId ≠ none) :
    Grounded orderId database where
  unborn := by
    intro absent
    exact (stored (by simp [Database.account, absent])).elim
  dated := dated

theorem Knows.following {target next : OrderStatus} {actorUid : Uid}
    {actorRole : String} {row : OnlineOrder}
    (inserted : document'.isNew = false)
    (found : database.orders.lookup orderId = some row)
    (same : document'.order.standing = row.standing)
    (status : document'.order.status = target)
    (follows : (target, next) ∈ followUps) :
    Knows orderId (state.write database)
      (.transaction operation (.saveThenTransition next actorUid actorRole none none)
        document'.markAssignments document'.markAssignments) := by
  have equal : document'.markAssignments.order.standing = row.standing := same
  refine .inr ⟨⟨inserted, row, found, ?_, ?_⟩, ?_, nofun⟩
  · exact (congrArg Standing.version equal).le
  · exact fun _ => ⟨.of_eq equal, .of_eq equal, .inl equal⟩
  · refine .following next actorUid actorRole rfl ?_
    rw [← status] at follows
    exact follows

/-- What a commit does, and what it leaves to do. -/
theorem Knows.commits (grounded : Grounded orderId state.database)
    (knows : Knows orderId state (.transaction operation callback prepared document))
    (current : Current orderId state (.commit index environment clock))
    (flying : state.calls[index]? = some (.transaction operation callback prepared document))
    (about : document.order._id = orderId)
    (outcome : (callback.program clock).commit state.database document =
      (.ok (), database, document')) :
    Effect orderId callback prepared state.database database ∧
      Grounded orderId database ∧
      ∀ call, callback.followUp operation document' = some call →
        Knows orderId (state.write database) call := by
  rcases knows with ⟨customerUid, book, promo, rfl, booked⟩ | ⟨reading, origin, retained⟩
  · rcases current.transaction flying about rfl with ⟨rfl, _⟩
    rcases booked.commits grounded outcome with ⟨effect, dated, stored, trailing⟩
    refine ⟨effect, .of_stored dated stored, ?_⟩
    intro call followed
    cases promo with
    | none => cases followed
    | some claim =>
      cases followed
      exact trailing
  · rcases resets : callback.resets with _ | _
    · rcases current.transaction flying about resets with ⟨rfl, still⟩
      have keeps : callback.keepsDocument := by
        rcases reading.row with ⟨row, _⟩
        cases callback with
        | create =>
          cases origin with
          | drafted _ row _ _ drafted => exact drafted.fits.elim
          | following _ _ _ of => cases of
        | accept => cases resets
        | _ => trivial
      rcases reading.commits about keeps still outcome with
        ⟨effect, dated, inserted, stored, agrees⟩
      refine ⟨effect, .of_stored dated stored, ?_⟩
      intro call followed
      unfold Callback.followUp at followed
      split at followed
      · rename_i first actorUid actorRole note next
        cases followed
        cases effect with
        | opened _ booked =>
          rcases booked.creates with ⟨_, _, _, impossible⟩
          cases impossible
        | moved account made owed _ _ moves exact' after =>
          have last : made.status = first := Account.status_of_makeAll moves
          rcases Database.account_eq_some.mp after with ⟨row, found, equal⟩
          have standing := agrees row found
          have status : document'.order.status = first := by
            rw [← last]
            have same := congrArg (fun account => account.status) equal
            exact (congrArg Standing.status standing).trans same.symm
          cases origin with
          | drafted _ _ _ _ drafted =>
            exact .following inserted found standing status (drafted.follows next rfl)
          | following _ _ _ of => cases of
      · exact keeps.elim
      · cases followed
    · cases callback with
      | accept actor initialStatus initialVersion washer =>
        rcases reading.accepts (retained rfl) about outcome with ⟨effect, dated, stored⟩
        refine ⟨effect, .of_stored dated stored, ?_⟩
        intro call followed
        cases followed
      | _ => cases resets

theorem Aside.writeTo (aside : Aside document) (row : OnlineOrder) :
    (document.writeTo row).standing = row.standing ∧
      (document.writeTo row).abandonmentDeadlineAt =
        row.abandonmentDeadlineAt := by
  have clean : ∀ path : Path, path ∉
      ({.pickupAssignment, .returnAssignment, .activeQualityHold} :
        Finset Path) → path ∉ document.modified :=
    fun path outside member => outside (aside.clean member)
  have status := clean .status (by decide)
  have version := clean .version (by decide)
  have pricing := clean .pricing (by decide)
  have payment := clean .paymentSummary (by decide)
  have deadline := clean .abandonmentDeadlineAt (by decide)
  simp [OrderDocument.writeTo, OrderDocument.pick, OnlineOrder.standing,
    status, version, pricing, payment, deadline]

/-- A save outside a transaction changes nothing of the account. -/
theorem Knows.saves {row : OnlineOrder}
    (grounded : Grounded orderId state.database)
    (knows : Knows orderId state (.save document))
    (current : Current orderId state (.commit index environment clock))
    (flying : state.calls[index]? = some (.save document))
    (about : document.order._id = orderId)
    (outcome : document.save (state.database.orders.lookup orderId) = .ok (row, document')) :
    (state.database.putOrder orderId row).account orderId =
        state.database.account orderId ∧
      Grounded orderId (state.database.putOrder orderId row) ∧
      state.database.Later orderId (state.database.putOrder orderId row) := by
  have inserted : document.isNew = false := by
    rcases knows with aside | trailing
    · exact aside.inserted
    · exact trailing.inserted
  rcases OrderDocument.save_ok inserted outcome with ⟨old, found, rfl, _⟩
  have same : (document.writeTo old).standing = old.standing ∧ (document.writeTo old).Dated := by
    rcases knows with aside | trailing
    · rcases aside.writeTo old with ⟨standing, deadline⟩
      refine ⟨standing, ?_⟩
      intro waiting dated
      have status : (document.writeTo old).status = old.status := congrArg Standing.status standing
      rw [standing]
      apply grounded.dated old found
      · rw [← status]
        exact waiting
      · rw [← deadline]
        exact dated
    · have still := current.save flying about
      rcases trailing.row with ⟨_, lookup, _, equal⟩
      rw [found] at lookup still
      cases lookup
      have version := OrderDocument.inStep_version still trailing.version
      have agrees := equal version.symm
      refine ⟨?_, ?_⟩
      · have written := (OrderDocument.Writes.of_eq agrees).standing_writeTo
        exact written.trans agrees
      · intro waiting
        have status : (document.writeTo old).status =
            .pendingProviderAcceptance := by
          show document.pick .status document.order.status old.status = _
          rw [OrderDocument.pick, if_pos trailing.status]
          exact trailing.pending
        rw [status] at waiting
        cases waiting
  have stored := Database.account_eq_some.mpr ⟨old, found, rfl⟩
  have after := @Database.account_putOrder orderId orderId _ (document.writeTo old) _ stored
  rw [if_pos rfl, same.1] at after
  refine ⟨after.trans stored.symm, .of_stored ?_ ?_, ?_⟩
  · intro later found'
    rw [Database.putOrder, AList.lookup_insert] at found'
    cases found'
    exact same.2
  · rw [after]
    exact Option.some_ne_none _
  · intro row found'
    rw [found] at found'
    cases found'
    exact ⟨_, AList.lookup_insert _, .inl same.1⟩

theorem Retained.rests {actor : User} {initialStatus : OrderStatus}
    {initialVersion : ℕ} {washer : Option WasherProfile}
    (prepared : OrderDocument) :
    Rests prepared.order._id
      (Callback.accept actor initialStatus initialVersion washer).touches
      (fun session => Retained prepared session.memory) where
  identified := fun _ retained => retained.identified
  beside := fun _ _ _ _ _ retained => retained
  save := by
    intro session row saved retained ran
    rw [OrderDocument.save_saved ran]
    exact ⟨retained.identified, rfl, retained.pickupMode, retained.due,
      retained.collected, retained.consumed⟩
  update := fun _ _ _ _ retained _ => retained
  touch := by
    intro session touch allowed retained
    cases touch with
    | patch | grant | reset =>
      exact ⟨retained.identified, retained.inserted, retained.pickupMode,
        retained.due, retained.collected, retained.consumed⟩
    | consume | collect | schedule => exact allowed.elim

/-- A new call knows its order. -/
theorem Knows.begun {after : State} {action : Action} {call : Call}
    (known : ∀ other ∈ state.calls, other.orderId = orderId → Knows orderId state other)
    (beside : state.Beside orderId after)
    (begun : Begun orderId state action after call)
    (about : call.orderId = orderId) : Knows orderId after call := by
  have later : state.database.Later orderId after.database := beside.same.later
  cases begun with
  | booked _ _ _ _ callback document _ ordered =>
    have booked := createOrder_books _ ordered
    rcases booked.creates with ⟨customerUid, book, promo, rfl⟩
    exact .inl ⟨customerUid, book, promo, rfl, booked⟩
  | drafted environment clock actor method row callback document _ _ _ found prepared =>
    have drafted : Drafted actor row method callback document := method.drafts _ prepared
    have start := drafted.fits.startVersion
    have reading : Reading orderId callback document state.database :=
      ⟨drafted.inserted, row, found, start.le, fun _ => drafted.fits⟩
    exact .inr ⟨reading.later later, .drafted actor row method rfl drafted,
      fun _ => ⟨rfl, drafted.inserted, rfl, rfl, rfl, rfl⟩⟩
  | amended environment clock actor method row document _ found prepared =>
    have amended : Amended row document := method.drafts _ prepared
    exact .inl ⟨amended.inserted, amended.clean⟩
  | audited => trivial
  | aborted index budget clock operation callback prepared document _ flying =>
    have confined := @Callback.confined clock callback state.database document (some budget)
    have about' : document.order._id = orderId := confined.identified.symm.trans about
    have knows := known _ (List.mem_of_getElem? flying) about'
    have moved := Knows.later knows later
    rcases moved with created | ⟨reading, origin, retained⟩
    · exact .inl created
    · refine .inr ⟨reading, origin, ?_⟩
      intro resets
      cases callback with
      | accept actor initialStatus initialVersion washer =>
        have kept : Keeps
            (fun session => Retained prepared session.memory)
            ((Callback.accept actor initialStatus initialVersion washer).program clock) :=
          (Retained.rests prepared).kept.program
        exact kept _ (retained resets)
      | _ => cases resets
  | reserved index environment clock claim document promoId _ flying =>
    have trailing : Trailing orderId document state.database :=
      known _ (List.mem_of_getElem? flying) about
    have moved := trailing.later later
    refine .inr ⟨moved.inserted, ?_, ?_, moved.pending, moved.row⟩
    · simp [OrderDocument.stampPromo, moved.status]
    · simp [OrderDocument.stampPromo, moved.version]

end

theorem knows_obligations (orderId : ObjectId) :
    Obligations orderId (Current orderId) (fun _ => True)
      (fun state => Grounded orderId state.database) (Knows orderId) where
  beside := fun _ _ beside grounded => grounded.beside beside.same
  steady := fun _ _ _ beside _ knows => knows.later beside.same.later
  begun := fun _ _ _ _ _ invariant _ beside begun about =>
    .begun invariant.sound beside begun about
  commit := by
    intro state index environment clock operation callback prepared document
      database document' _ invariant current flying about knows outcome
    rcases knows.commits invariant.good current flying about outcome with
      ⟨effect, grounded, follows⟩
    exact ⟨⟨grounded, fun _ _ _ other => other.later effect.later⟩, follows⟩
  save := by
    intro state index environment clock document row saved _ invariant
      current flying about knows outcome
    rcases knows.saves invariant.good current flying about outcome with ⟨_, grounded, later⟩
    exact ⟨grounded, fun _ _ _ other => other.later later⟩

abbrev InTouch (orderId : ObjectId) (state : State) : Prop :=
  Invariant orderId (fun state => Grounded orderId state.database) (Knows orderId) state

theorem inTouch_of_reaches {castToObjectId : String → Option ObjectId}
    {orderId : ObjectId} {admissible : State → Action → Prop}
    {state : State}
    (current : ∀ state action, admissible state action → Current orderId state action)
    (reached : (orderSystem castToObjectId).Reaches admissible .start state) :
    InTouch orderId state := by
  apply (knows_obligations orderId).reaches (fun _ _ => trivial) _ (reached.weaken current)
  constructor
  · exact fun _ => ⟨rfl, rfl⟩
  · intro row found
    simp [State.start] at found

theorem Knows.origin {orderId : ObjectId} {state : State}
    {operation : Option Operation} {callback : Callback}
    {prepared document : OrderDocument} {stored : Standing}
    (knows : Knows orderId state (.transaction operation callback prepared document))
    (fits : callback.Fits prepared stored) :
    Origin operation callback prepared := by
  rcases knows with ⟨_, _, _, rfl, _⟩ | ⟨_, origin, _⟩
  · exact fits.elim
  · exact origin

def State.Settles (orderId : ObjectId) (Fine : Account → Prop)
    (state : State) : Prop :=
  ∀ account, state.database.account orderId = some account → Fine account

/-- What an account is opened with, and what the moves of a callback keep. -/
theorem account_obligations {orderId : ObjectId}
    {admissible : State → Action → Prop} (Fine : Account → Prop)
    (current : ∀ state action, admissible state action → Current orderId state action)
    (opens : ∀ callback document account, Booked orderId callback document →
      (Account.opening document.order.standing).makeAll creation = some account → Fine account)
    (moves : ∀ operation callback document account made owed,
      Origin operation callback document →
      callback.Fits document account.toStanding → Fine account →
      account.makeAll (callback.moves document.order.standing) =
        some made → 0 ≤ owed → Fine (made.reprice made.due owed)) :
    Obligations orderId admissible (InTouch orderId)
      (State.Settles orderId Fine) fun _ _ => True := by
  constructor
  · intro state after beside good account found
    rw [beside.same.account] at found
    exact good account found
  · exact fun _ _ _ _ _ _ => trivial
  · exact fun _ _ _ _ _ _ _ _ _ _ => trivial
  · intro state index environment clock operation callback prepared
      document database document' inTouch invariant allowed flying about
      _ outcome
    have knows := inTouch.sound _ (List.mem_of_getElem? flying) about
    have effect := (knows.commits inTouch.good (current _ _ allowed) flying about outcome).1
    refine ⟨⟨?_, fun _ _ _ _ => trivial⟩, fun _ _ => trivial⟩
    intro account found
    cases effect with
    | opened made booked _ opened stored =>
      rw [show (state.write database).database = database from rfl, stored] at found
      cases found
      exact opens _ _ _ booked opened
    | moved before made owed old fits moved _ stored =>
      rw [show (state.write database).database = database from rfl, stored] at found
      cases found
      have nonneg : 0 ≤ owed := by
        rcases Database.account_eq_some.mp stored with ⟨row, _, equal⟩
        have same : owed = row.standing.owed := congrArg (fun account => account.owed) equal
        rw [same]
        exact OrderPricing.chargeablePlatformFeeCentavos_nonneg _
      exact moves _ _ _ _ _ _ (knows.origin fits) fits (invariant.good _ old) moved nonneg
  · intro state index environment clock document row saved inTouch
      invariant allowed flying about _ outcome
    have knows := inTouch.sound _ (List.mem_of_getElem? flying) about
    have same := (knows.saves inTouch.good (current _ _ allowed) flying about outcome).1
    refine ⟨?_, fun _ _ _ _ => trivial⟩
    intro account found
    rw [show (state.write (state.database.putOrder orderId row)).database
      = state.database.putOrder orderId row from rfl, same] at found
    exact invariant.good account found

/--
The account rule: in a current run an account keeps what it has when it is opened
and what the moves of every callback keep that fits it.
-/
theorem account_invariant {castToObjectId : String → Option ObjectId}
    {orderId : ObjectId} {admissible : State → Action → Prop}
    {state : State} (Fine : Account → Prop)
    (current : ∀ state action, admissible state action → Current orderId state action)
    (opens : ∀ callback document account, Booked orderId callback document →
      (Account.opening document.order.standing).makeAll creation = some account → Fine account)
    (moves : ∀ operation callback document account made owed,
      Origin operation callback document →
      callback.Fits document account.toStanding → Fine account →
      account.makeAll (callback.moves document.order.standing) =
        some made → 0 ≤ owed → Fine (made.reprice made.due owed))
    (reached : (orderSystem castToObjectId).Reaches admissible .start state) {account : Account}
    (stored : state.database.account orderId = some account) :
    Fine account := by
  have invariant :=
    (account_obligations Fine current opens moves).reaches
      (fun _ reached => inTouch_of_reaches current reached)
      (by
        intro account found
        simp [State.start, Database.account] at found)
      reached
  exact invariant.good account stored

end Lalaba.Orders
