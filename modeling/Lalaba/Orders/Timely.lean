import Lalaba.Orders.Provenance

/-!
# Where an order stands

The status of an order and its version move together, one version a transition.
A call has read them when it began, and its transaction is refused once the row
is at another version, unless the document is saved over the row first.

A run is timely when no committed run starts from a document that an aborted run
has moved in memory, unless the table refuses what it is about to do, and no save
takes the row back to a status or a version in memory.  In a timely run the row
stands, whenever a transaction commits, where its call has read it.
-/

namespace Lalaba.Orders

open Foundation
open Foundation.Program

def OnlineOrder.place (order : OnlineOrder) : OrderStatus × ℕ := (order.status, order.version)

def OrderDocument.still (document prepared : OrderDocument) : Bool :=
  decide (document.order.place = prepared.order.place ∧ document.isNew = prepared.isNew)

def Callback.refused (callback : Callback) (document : OrderDocument) :
    Bool :=
  !decide (callback.aim ∈ document.order.status.transitions)

/--
A step of a timely run: what is written to the order comes from a document that no
aborted run has moved, and that does not take the row back.
-/
def timely (orderId : ObjectId) (state : State) : Action → Bool
  | .commit index _ _ =>
    match state.calls[index]? with
    | some (.transaction _ callback prepared document) =>
      decide (document.order._id ≠ orderId) || callback.resets ||
        callback.refused document ||
        (document.still prepared && document.inStep (state.database.orders.lookup orderId))
    | some (.save document) =>
      decide (document.order._id ≠ orderId) ||
        document.inStep (state.database.orders.lookup orderId)
    | _ => true
  | _ => true

def Timely (orderId : ObjectId) (state : State) (action : Action) : Prop :=
  timely orderId state action = true

instance (orderId : ObjectId) (state : State) (action : Action) :
    Decidable (Timely orderId state action) :=
  inferInstanceAs (Decidable (_ = true))

section

variable {orderId : ObjectId} {state : State} {index : ℕ}
  {environment : Environment} {clock : Clock}
  {operation : Option Operation} {callback : Callback}
  {prepared document : OrderDocument}

theorem Timely.transaction
    (timely : Timely orderId state (.commit index environment clock))
    (flying : state.calls[index]? = some (.transaction operation callback prepared document))
    (about : document.order._id = orderId)
    (keeps : callback.resets = false)
    (allowed : callback.aim ∈ document.order.status.transitions) :
    document.order.place = prepared.order.place ∧
      document.isNew = prepared.isNew ∧
      document.inStep (state.database.orders.lookup orderId) = true := by
  have both : document.still prepared = true ∧
      document.inStep (state.database.orders.lookup orderId) = true := by
    simpa [Timely, Orders.timely, Callback.refused, flying, about, keeps, allowed] using timely
  have unmoved := of_decide_eq_true both.1
  exact ⟨unmoved.1, unmoved.2, both.2⟩

theorem Timely.save
    (timely : Timely orderId state (.commit index environment clock))
    (flying : state.calls[index]? = some (.save document))
    (about : document.order._id = orderId) :
    document.inStep (state.database.orders.lookup orderId) = true := by
  simpa [Timely, Orders.timely, flying, about] using timely

theorem OrderDocument.place_writeTo {row : OnlineOrder}
    (still : document.inStep (some row) = true) :
    (document.writeTo row).place = row.place := by
  simp only [inStep, Option.all_some, decide_eq_true_eq] at still
  have status : document.pick .status document.order.status row.status =
      row.status := by
    rw [pick]
    split
    · rename_i dirty
      exact still.1 dirty
    · rfl
  have version : document.pick .version document.order.version row.version = row.version := by
    rw [pick]
    split
    · rename_i dirty
      exact still.2 dirty
    · rfl
  exact Prod.ext status version

end

def Database.Onward (orderId : ObjectId) (database after : Database) :
    Prop :=
  ∀ row, database.orders.lookup orderId = some row →
    ∃ later, after.orders.lookup orderId = some later ∧
      (later.place = row.place ∨ row.version < later.version)

variable {orderId : ObjectId}

theorem Database.SameFor.onward {database after : Database}
    (same : database.SameFor orderId after) :
    database.Onward orderId after := by
  intro row found
  rw [← same.row] at found
  exact ⟨row, found, .inl rfl⟩

def Since (orderId : ObjectId) (place : OrderStatus × ℕ)
    (database : Database) : Prop :=
  ∃ row, database.orders.lookup orderId = some row ∧
    place.2 ≤ row.version ∧ (row.version = place.2 → row.place = place)

theorem Since.onward {place : OrderStatus × ℕ} {database after : Database}
    (since : Since orderId place database)
    (onward : database.Onward orderId after) :
    Since orderId place after := by
  rcases since with ⟨row, found, earlier, same⟩
  rcases onward row found with ⟨later, found', still | newer⟩
  · have version : later.version = row.version := congrArg Prod.snd still
    refine ⟨later, found', version ▸ earlier, ?_⟩
    intro current
    rw [still]
    exact same (version.symm.trans current)
  · refine ⟨later, found', earlier.trans newer.le, ?_⟩
    intro current
    rw [current] at newer
    exact (newer.not_ge earlier).elim

theorem Callback.Fits.place {callback : Callback}
    {document : OrderDocument} {row : OnlineOrder}
    (fits : callback.Fits document row.standing) :
    callback.origin document = row.place := by
  have of_eq : document.order.standing = row.standing →
      document.order.place = row.place :=
    fun equal => Prod.ext (congrArg Standing.status equal) (congrArg Standing.version equal)
  cases callback with
  | create => exact fits.elim
  | saveThenTransition | recordWeight | receive =>
    exact Prod.ext fits.1.status fits.1.version
  | accept => exact Prod.ext fits.2.1 fits.2.2
  | respond | recordPayment => exact of_eq fits
  | handOver | abandon => exact of_eq fits.1

def Read (orderId : ObjectId) (state : State) : Call → Prop
  | .transaction operation callback prepared document =>
    Booked orderId callback prepared ∨
      (∀ customerUid book promo, callback ≠ .create customerUid book promo) ∧
        Origin operation callback prepared ∧ document.isNew = false ∧
        Since orderId (callback.origin prepared) state.database
  | .save document => document.isNew = false
  | .reserve _ document => document.isNew = false
  | .audit _ => True

theorem Read.onward {state after : State} {call : Call}
    (read : Read orderId state call)
    (onward : state.database.Onward orderId after.database) :
    Read orderId after call := by
  cases call with
  | transaction =>
    rcases read with booked | ⟨existing, origin, inserted, since⟩
    · exact .inl booked
    · exact .inr ⟨existing, origin, inserted, since.onward onward⟩
  | save | reserve => exact read
  | audit => trivial

/-! ## What a commit does -/

/-- Where a committed transaction has taken its order. -/
inductive Advanced (orderId : ObjectId) (callback : Callback)
    (prepared : OrderDocument) (database after : Database)
    (document' : OrderDocument) : Prop where
  | opened (customerUid : Uid) (pickupMode : FulfillmentPickupMode)
      (booked : Booked orderId callback prepared)
      (absent : database.orders.lookup orderId = none)
      (striding : Striding orderId pickupMode
        (database.createEvent (creationEvent orderId customerUid)) .draft 0
        [.pricingValidated, .pendingProviderAcceptance] after document')
  | moved (row : OnlineOrder) (pickupMode : FulfillmentPickupMode)
      (existing : ∀ customerUid book promo, callback ≠ .create customerUid book promo)
      (found : database.orders.lookup orderId = some row)
      (stands : row.place = callback.origin prepared)
      (striding : Striding orderId pickupMode database row.status
        row.version (callback.targets pickupMode) after document')

section

variable {orderId : ObjectId} {clock : Clock} {callback : Callback}
  {prepared document document' : OrderDocument}
  {database after : Database}

theorem Strides.first {origin current : OrderStatus} {last : ℕ}
    {rows : List OrderEvent}
    (strides : Strides orderId origin last rows current)
    {target : OrderStatus}
    (first : (rows.map OrderEvent.toStatus).head? = some target) :
    target ∈ origin.transitions := by
  induction strides with
  | stay => cases first
  | @step rows current row earlier allowed _ _ _ _ induction =>
    cases earlier with
    | stay =>
      cases first
      exact allowed
    | step other before =>
      apply induction
      rw [List.map_append, List.head?_append_of_ne_nil _ (by simp)] at first
      exact first

theorem Callback.head_targets (callback : Callback)
    (pickupMode : FulfillmentPickupMode) :
    (callback.targets pickupMode).head? = some callback.aim := by
  cases callback with
  | respond customerUid approve => cases approve <;> rfl
  | _ => rfl

theorem Striding.allowed {pickupMode : FulfillmentPickupMode}
    {base : Database} {origin : OrderStatus} {version : ℕ}
    (striding : Striding orderId pickupMode base origin version
      (callback.targets pickupMode) database document) :
    callback.aim ∈ origin.transitions := by
  rcases striding.strides with ⟨rows, _, strides, walk, _⟩
  apply strides.first
  rw [walk]
  exact callback.head_targets pickupMode

theorem Advanced.stored
    (advanced : Advanced orderId callback prepared database after document') :
    ∃ row, after.orders.lookup orderId = some row ∧ row.place = document'.order.place := by
  have of_striding : ∀ pickupMode base origin version walked,
      walked ≠ [] →
      Striding orderId pickupMode base origin version walked after document' →
      ∃ row, after.orders.lookup orderId = some row ∧ row.place = document'.order.place := by
    intro pickupMode base origin version walked moves striding
    rcases striding.row moves with ⟨row, found, status, version⟩
    exact ⟨row, found, Prod.ext status version⟩
  cases advanced with
  | opened _ _ _ _ striding => exact of_striding _ _ _ _ _ (by simp) striding
  | moved _ _ _ _ _ striding =>
    exact of_striding _ _ _ _ _ callback.targets_ne_nil striding

theorem Advanced.newer
    (advanced : Advanced orderId callback prepared database after
      document') {row later : OnlineOrder}
    (found : database.orders.lookup orderId = some row)
    (found' : after.orders.lookup orderId = some later) :
    row.version < later.version := by
  rcases advanced.stored with ⟨stored, found'', stands⟩
  cases found'.symm.trans found''
  cases advanced with
  | opened _ _ _ absent =>
    rw [absent] at found
    cases found
  | moved old pickupMode _ lookup _ striding =>
    rw [found] at lookup
    cases lookup
    have version : later.version = document'.order.version := congrArg Prod.snd stands
    rw [version, striding.version]
    have walked : 0 < (callback.targets pickupMode).length :=
      List.length_pos_of_ne_nil callback.targets_ne_nil
    omega

theorem Advanced.onward
    (advanced : Advanced orderId callback prepared database after document') :
    database.Onward orderId after := by
  intro row found
  rcases advanced.stored with ⟨later, found', _⟩
  exact ⟨later, found', .inr (advanced.newer found found')⟩

theorem Since.commits
    (since : Since orderId document.order.place database)
    (keeps : callback.keepsDocument)
    (inserted : document.isNew = false)
    (identified : document.order._id = orderId)
    (still : document.inStep (database.orders.lookup orderId) = true)
    (outcome : (callback.program clock).commit database document = (.ok (), after, document')) :
    ∃ row, database.orders.lookup orderId = some row ∧ row.place = document.order.place := by
  rcases since with ⟨row, found, _, same⟩
  refine ⟨row, found, same ?_⟩
  by_contra different
  -- The row has moved on, and a save would not take it back.
  have clean : .version ∉ document.modified := by
    intro dirty
    rw [found] at still
    exact different (OrderDocument.inStep_version still dirty).symm
  have stale : StaleClean database document := by
    refine ⟨⟨inserted, row, ?_, different⟩, clean⟩
    rw [identified]
    exact found
  exact (StaleClean.program keeps).committed stale outcome

theorem Since.accepts {actor : User} {initialStatus : OrderStatus}
    {initialVersion : ℕ} {washer : Option WasherProfile}
    (since : Since orderId (initialStatus, initialVersion) database)
    (inserted : document.isNew = false)
    (identified : document.order._id = orderId)
    (outcome : (acceptInTransaction clock actor initialStatus
      initialVersion washer).commit database document = (.ok (), after, document')) :
    ∃ row, database.orders.lookup orderId = some row ∧
      row.place = (initialStatus, initialVersion) := by
  rcases since with ⟨row, found, _, same⟩
  refine ⟨row, found, same ?_⟩
  by_contra different
  have stale : document.isNew = false ∧
      ∃ row, database.orders.lookup document.order._id = some row ∧
        row.version ≠ initialVersion := by
    rw [identified]
    exact ⟨inserted, row, found, different⟩
  exact Stale.accept.committed stale outcome

theorem Booked.opens {customerUid : Uid}
    {book : Database → Except ServiceError ScheduledPickup}
    {promo : Option PromoClaim}
    (booked : Booked orderId (.create customerUid book promo) prepared)
    (stands : document.order.place = prepared.order.place)
    (isNew : document.isNew = prepared.isNew)
    (identified : document.order._id = orderId)
    (outcome : (createInTransaction clock customerUid book).commit database
      document = (.ok (), after, document')) :
    Advanced orderId (.create customerUid book promo) prepared database after document' := by
  have drafted : prepared.isNew = true ∧ prepared.order.place = (.draft, 0) := by
    rcases booked.orders with ⟨_, _, _, _, _, _, _, rfl, _⟩
    exact ⟨rfl, rfl⟩
  rw [drafted.2] at stands
  rw [drafted.1] at isNew
  have absent : database.orders.lookup orderId = none := by
    by_contra present
    rw [← identified] at present
    exact ensures_duplicate.committed ⟨isNew, present⟩ outcome
  have striding := (@Striding.created orderId customerUid book
    document.order.fulfillment.pickupMode database .draft 0
    clock).committed ⟨rfl, identified, rfl, congrArg Prod.fst stands,
      congrArg Prod.snd stands⟩ outcome
  exact .opened customerUid _ booked absent striding

theorem Callback.keepsDocument_of {callback : Callback}
    (existing : ∀ customerUid book promo, callback ≠ .create customerUid book promo)
    (resets : callback.resets = false) : callback.keepsDocument := by
  cases callback with
  | create => exact (existing _ _ _ rfl).elim
  | accept => cases resets
  | _ => trivial

/-- What a timely commit does. -/
theorem Read.commits {state : State} {index : ℕ}
    {environment : Environment} {operation : Option Operation}
    (read : Read orderId state (.transaction operation callback prepared document))
    (timely : Timely orderId state (.commit index environment clock))
    (flying : state.calls[index]? = some (.transaction operation callback prepared document))
    (about : document.order._id = orderId)
    (outcome : (callback.program clock).commit state.database document =
      (.ok (), after, document')) :
    Advanced orderId callback prepared state.database after document' := by
  rcases read with booked | ⟨existing, _, inserted, since⟩
  · rcases booked.creates with ⟨customerUid, book, promo, rfl⟩
    have striding := (@Striding.created orderId customerUid book
      document.order.fulfillment.pickupMode state.database
      document.order.status document.order.version clock).committed
        ⟨rfl, about, rfl, rfl, rfl⟩ outcome
    have allowed : (Callback.create customerUid book promo).aim ∈
        document.order.status.transitions :=
      @Striding.allowed _ (.create customerUid book promo) _ _ _ _ _ _ striding
    rcases timely.transaction flying about rfl allowed with ⟨stands, isNew, _⟩
    exact booked.opens stands isNew about outcome
  · have striding := Callback.strides existing outcome
    rcases resets : callback.resets with _ | _
    · have keeps := Callback.keepsDocument_of existing resets
      have origins : ∀ moved : OrderDocument, callback.origin moved = moved.order.place := by
        intro moved
        cases callback with
        | accept => cases resets
        | _ => rfl
      have allowed := striding.allowed
      rw [origins] at allowed
      rcases timely.transaction flying about resets allowed with ⟨stands, _, still⟩
      rw [origins, ← stands] at since
      rcases since.commits keeps inserted about still outcome with ⟨row, found, same⟩
      refine .moved row document.order.fulfillment.pickupMode existing found ?_ ?_
      · rw [origins, same, stands]
      · rw [origins, ← same, about] at striding
        exact striding
    · cases callback with
      | accept actor initialStatus initialVersion washer =>
        rcases since.accepts inserted about outcome with ⟨row, found, same⟩
        refine .moved row document.order.fulfillment.pickupMode existing found same ?_
        have status : row.status = initialStatus := congrArg Prod.fst same
        have version : row.version = initialVersion := congrArg Prod.snd same
        rw [status, version, ← about]
        exact striding
      | _ => cases resets

theorem Read.saves {state : State} {index : ℕ}
    {environment : Environment} {row : OnlineOrder}
    (read : Read orderId state (.save document))
    (timely : Timely orderId state (.commit index environment clock))
    (flying : state.calls[index]? = some (.save document))
    (about : document.order._id = orderId)
    (outcome : document.save (state.database.orders.lookup orderId) = .ok (row, document')) :
    ∃ old, state.database.orders.lookup orderId = some old ∧
      row = document.writeTo old ∧ row.place = old.place := by
  rcases OrderDocument.save_ok read outcome with ⟨old, found, rfl, _⟩
  have still := timely.save flying about
  rw [found] at still
  exact ⟨old, found, rfl, OrderDocument.place_writeTo still⟩

theorem onward_putOrder {row old : OnlineOrder}
    (found : database.orders.lookup orderId = some old)
    (stands : row.place = old.place) :
    database.Onward orderId (database.putOrder orderId row) := by
  intro other found'
  rw [found] at found'
  cases found'
  exact ⟨row, AList.lookup_insert _, .inl stands⟩

end

/-! ## The invariant -/

theorem inserted_rests {orderId : ObjectId} {allowed : Touch → Prop} :
    Rests orderId allowed
      (fun session => session.memory.order._id = orderId ∧ session.memory.isNew = false) where
  identified := fun _ holds => holds.1
  beside := fun _ _ _ _ _ holds => holds
  save := by
    intro session row saved holds ran
    rw [OrderDocument.save_saved ran]
    exact ⟨holds.1, rfl⟩
  update := fun _ _ _ _ holds _ => holds
  touch := by
    intro session touch _ holds
    have spares := touch.spares session.memory
    exact ⟨spares.identified.trans holds.1, spares.inserted.trans holds.2⟩

section

variable {orderId : ObjectId} {state : State} {clock : Clock}
  {operation : Option Operation} {callback : Callback}
  {prepared document document' : OrderDocument} {database : Database}

theorem Callback.keepsInserted {budget : Option ℕ}
    (inserted : document.isNew = false) :
    ((callback.program clock).runOnce budget database document).2.memory.isNew = false := by
  have kept : Keeps (fun session : Session Database OrderDocument =>
        session.memory.order._id = document.order._id ∧ session.memory.isNew = false)
      (callback.program clock) :=
    (inserted_rests : Rests _ callback.touches _).kept.program
  exact (kept ⟨database, database, document, budget⟩ ⟨rfl, inserted⟩).2

variable {actorUid : Uid} {actorRole : String} {note : Option String}

theorem ensures_inserted {target : OrderStatus} :
    Ensures (fun _ document => document.isNew = false)
      (applyTransition clock target actorUid actorRole note)
      (fun _ _ document => document.isNew = false) := by
  apply @ensures_transition _ _ _ _ _ _ (fun _ document => document.isNew = false)
  · exact fun _ _ _ inserted _ _ _ => inserted
  · exact fun _ => ensures_settlePromo fun _ _ _ inserted => inserted

theorem ensures_insert {customerUid : Uid}
    {book : Database → Except ServiceError ScheduledPickup} :
    Ensures (fun _ _ => True) (createInTransaction clock customerUid book)
      (fun _ _ document => document.isNew = false) := by
  apply @ensures_createInTransaction clock customerUid book _
    fun _ document => document.isNew = false
  · exact fun _ _ _ _ => trivial
  · apply ensures_saveDocument
    intro database document row saved _ ran
    rw [OrderDocument.save_saved ran]
    rfl
  · exact fun _ _ _ => trivial
  · intro saved _
    have recorded : Ensures
        (fun (_ : Database) document => document.isNew = false)
        (query fun database =>
          .ok ((), database.createEvent (creationEvent saved.order._id customerUid)) :
          OrderProgram Unit)
        (fun _ _ document => document.isNew = false) :=
      Ensures.query fun _ _ _ _ inserted _ => inserted
    apply recorded.bind
    intro _
    apply ensures_inserted.bind
    intro _
    exact ensures_inserted

theorem Striding.lands {pickupMode : FulfillmentPickupMode}
    {base : Database} {origin : OrderStatus} {version : ℕ}
    {walked : List OrderStatus}
    (striding : Striding orderId pickupMode base origin version walked
      database document) (moves : walked ≠ []) :
    walked.getLast? = some document.order.status := by
  rcases striding.strides with ⟨rows, _, strides, walk, _⟩
  rw [← walk, List.getLast?_map]
  apply strides.current_eq
  rintro rfl
  exact moves walk.symm

theorem Advanced.lands
    (advanced : Advanced orderId callback prepared database after document') {row : OnlineOrder}
    (found : after.orders.lookup orderId = some row) :
    ∃ pickupMode, (callback.targets pickupMode).getLast? = some row.status := by
  have of_striding : ∀ pickupMode base origin version,
      Striding orderId pickupMode base origin version
        (callback.targets pickupMode) after document' →
      (callback.targets pickupMode).getLast? = some row.status := by
    intro pickupMode base origin version striding
    have moves := @Callback.targets_ne_nil callback pickupMode
    rcases striding.row moves with ⟨stored, found', status, _⟩
    cases found.symm.trans found'
    rw [status]
    exact striding.lands moves
  cases advanced with
  | opened customerUid pickupMode booked _ striding =>
    rcases booked.creates with ⟨_, _, _, rfl⟩
    exact ⟨pickupMode, of_striding _ _ _ _ striding⟩
  | moved _ pickupMode _ _ _ striding =>
    exact ⟨pickupMode, of_striding _ _ _ _ striding⟩

theorem Advanced.plain {target : OrderStatus} {next : Option OrderStatus}
    (advanced : Advanced orderId
      (.saveThenTransition target actorUid actorRole note next) prepared
      database after document') :
    document'.order.status = target := by
  cases advanced with
  | opened _ _ booked =>
    rcases booked.creates with ⟨_, _, _, impossible⟩
    cases impossible
  | moved _ _ _ _ _ striding =>
    exact (Option.some.inj (striding.lands (by simp [Callback.targets]))).symm

theorem Read.continues {first next : OrderStatus}
    (read : Read orderId state (.transaction operation
      (.saveThenTransition first actorUid actorRole note (some next))
      prepared document)) :
    (first, next) ∈ followUps := by
  rcases read with booked | ⟨_, origin, _⟩
  · rcases booked.creates with ⟨_, _, _, impossible⟩
    cases impossible
  · cases origin with
    | drafted _ _ _ _ drafted => exact drafted.follows next rfl
    | following _ _ _ of => cases of

theorem Read.inserted
    (read : Read orderId state (.transaction operation callback prepared document))
    (outcome : (callback.program clock).commit database document =
      (.ok (), after, document')) : document'.isNew = false := by
  rcases read with booked | ⟨existing, _, inserted, _⟩
  · rcases booked.creates with ⟨customerUid, book, promo, rfl⟩
    exact ensures_insert.committed trivial outcome
  · rcases commit_ok.mp outcome with ⟨finish, ran, _, rfl⟩
    have still := @Callback.keepsInserted clock callback document database none inserted
    rw [Program.runOnce, ran] at still
    exact still

theorem Read.follows
    (read : Read orderId state (.transaction operation callback prepared document))
    (advanced : Advanced orderId callback prepared database after document')
    (inserted : document'.isNew = false) {call : Call}
    (followed : callback.followUp operation document' = some call) :
    Read orderId (state.write after) call := by
  rcases advanced.stored with ⟨row, found, stands⟩
  unfold Callback.followUp at followed
  split at followed
  · rename_i first actorUid actorRole note next
    cases followed
    have continues : (document'.order.status, next) ∈ followUps := by
      rw [advanced.plain]
      exact read.continues
    refine .inr ⟨nofun, .following next actorUid actorRole rfl continues,
      inserted, row, found, ?_, ?_⟩
    · exact (congrArg Prod.snd stands).ge
    · exact fun _ => stands
  · cases followed
    exact inserted
  · cases followed

theorem Read.begun {after : State} {action : Action} {call : Call}
    (read : ∀ other ∈ state.calls, other.orderId = orderId → Read orderId state other)
    (beside : state.Beside orderId after)
    (begun : Begun orderId state action after call)
    (about : call.orderId = orderId) : Read orderId after call := by
  have onward := beside.same.onward
  cases begun with
  | booked _ _ _ _ callback document _ ordered =>
    exact .inl (createOrder_books _ ordered)
  | drafted environment clock actor method row callback document _ _ _ found prepares =>
    have drafted : Drafted actor row method callback document := method.drafts _ prepares
    have stands := drafted.fits.place
    have existing : ∀ customerUid book promo, callback ≠ .create customerUid book promo := by
      rintro _ _ _ rfl
      exact drafted.fits
    refine .inr ⟨existing, .drafted actor row method rfl drafted, drafted.inserted, ?_⟩
    rw [stands]
    have since : Since orderId row.place state.database := ⟨row, found, le_rfl, fun _ => rfl⟩
    exact since.onward onward
  | amended environment clock actor method row document _ _ prepares =>
    have amended : Amended row document := method.drafts _ prepares
    exact amended.inserted
  | audited => trivial
  | aborted index budget clock operation callback prepared document _ flying =>
    have confined := @Callback.confined clock callback state.database document (some budget)
    have about' : document.order._id = orderId := confined.identified.symm.trans about
    have before := read _ (List.mem_of_getElem? flying) about'
    rcases before with booked | ⟨existing, origin, inserted, since⟩
    · exact .inl booked
    · exact .inr ⟨existing, origin, Callback.keepsInserted inserted, since.onward onward⟩
  | reserved index environment clock claim document promoId _ flying =>
    exact read _ (List.mem_of_getElem? flying) about

end

theorem read_obligations (orderId : ObjectId) :
    Obligations orderId (Timely orderId) (fun _ => True) (fun _ => True) (Read orderId) where
  beside := fun _ _ _ _ => trivial
  steady := fun _ _ _ beside _ read => read.onward beside.same.onward
  begun := fun _ _ _ _ _ invariant _ beside begun about =>
    .begun invariant.sound beside begun about
  commit := by
    intro state index environment clock operation callback prepared document
      database document' _ invariant timely flying about read outcome
    have advanced := read.commits timely flying about outcome
    exact ⟨⟨trivial, fun _ _ _ other => other.onward advanced.onward⟩,
      fun call followed =>
        read.follows advanced (read.inserted outcome) followed⟩
  save := by
    intro state index environment clock document row saved _ invariant
      timely flying about read outcome
    rcases read.saves timely flying about outcome with ⟨old, found, _, stands⟩
    exact ⟨trivial, fun _ _ _ other =>
      other.onward (onward_putOrder found stands)⟩

abbrev OnTime (orderId : ObjectId) (state : State) : Prop :=
  Invariant orderId (fun _ => True) (Read orderId) state

theorem onTime_of_reaches {castToObjectId : String → Option ObjectId}
    {orderId : ObjectId} {admissible : State → Action → Prop}
    {state : State}
    (timely : ∀ state action, admissible state action → Timely orderId state action)
    (reached : (orderSystem castToObjectId).Reaches admissible .start state) :
    OnTime orderId state :=
  (read_obligations orderId).reaches (fun _ _ => trivial) trivial (reached.weaken timely)

end Lalaba.Orders
