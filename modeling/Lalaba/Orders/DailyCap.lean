import Lalaba.Foundation.Rows
import Lalaba.Orders.Acceptance

/-!
# The daily cap of a washer

A washer takes a limited number of orders a day.  `acceptOrder` counts the other
orders of the day in its transaction; the approval of a proposed change lets an
order in uncounted.
-/

namespace Lalaba.Orders

open Foundation
open Foundation.Program

def OnlineOrder.occupies (branchId : ObjectId) (day : String)
    (order : OnlineOrder) : Bool :=
  order.provider.branchId == branchId &&
    (order.fulfillment.scheduledPickup.any fun slot => slot.date == day) &&
    order.status.capCounted

theorem countScheduled_all (branchId : ObjectId) (day : String)
    (database : Database) :
    database.countScheduled branchId day none =
      countRows (OnlineOrder.occupies branchId day) database.orders := by
  apply List.countP_congr
  intro entry _
  simp [OnlineOrder.occupies, and_assoc]

theorem countScheduled_others (branchId : ObjectId) (day : String)
    (orderId : ObjectId) (database : Database) :
    database.countScheduled branchId day (some orderId) =
      countOthers orderId (OnlineOrder.occupies branchId day)
        database.orders := by
  apply List.countP_congr
  intro entry _
  simp only [OnlineOrder.occupies, Bool.and_eq_true, bne_iff_ne, ne_eq, Option.some.injEq]
  tauto

theorem countScheduled_eq (branchId : ObjectId) (day : String)
    (orderId : ObjectId) (database : Database) :
    database.countScheduled branchId day none =
      database.countScheduled branchId day (some orderId) +
        if (database.orders.lookup orderId).any
          (OnlineOrder.occupies branchId day) then 1 else 0 := by
  rw [countScheduled_all, countScheduled_others, countRows_eq orderId]

theorem countScheduled_of_lookup {branchId : ObjectId} {day : String}
    {orderId : ObjectId} {database after : Database}
    (others : ∀ other, other ≠ orderId → after.orders.lookup other = database.orders.lookup other) :
    after.countScheduled branchId day (some orderId) =
      database.countScheduled branchId day (some orderId) := by
  rw [countScheduled_others, countScheduled_others, countOthers_congr others]

theorem countScheduled_others_le (branchId : ObjectId) (day : String)
    (orderId : ObjectId) (database : Database) :
    database.countScheduled branchId day (some orderId) ≤
      database.countScheduled branchId day none := by
  rw [countScheduled_eq branchId day orderId]
  exact Nat.le_add_right _ _

theorem countScheduled_le (branchId : ObjectId) (day : String)
    (orderId : ObjectId) (database : Database) :
    database.countScheduled branchId day none ≤
      database.countScheduled branchId day (some orderId) + 1 := by
  rw [countScheduled_eq branchId day orderId]
  split <;> omega

theorem countScheduled_free {branchId : ObjectId} {day : String}
    {orderId : ObjectId} {database : Database}
    (free : ∀ row, database.orders.lookup orderId = some row → row.occupies branchId day = false) :
    database.countScheduled branchId day none =
      database.countScheduled branchId day (some orderId) := by
  rw [countScheduled_eq branchId day orderId]
  rcases stored : database.orders.lookup orderId with _ | row
  · rfl
  · simp [free row stored]

def Seated (provider : ProviderSnapshot) (slot : Option ScheduledPickup)
    (stored : Option OnlineOrder) : Prop :=
  ∃ row, stored = some row ∧ row.provider = provider ∧ row.fulfillment.scheduledPickup = slot

theorem Seated.saves {provider : ProviderSnapshot}
    {slot : Option ScheduledPickup} {stored : Option OnlineOrder}
    {document saved : OrderDocument} {row : OnlineOrder}
    (seated : Seated provider slot stored)
    (ran : document.save stored = .ok (row, saved)) :
    Seated provider slot (some row) := by
  rcases seated with ⟨old, rfl, offered, scheduled⟩
  rcases OrderDocument.save_cases ran with ⟨_, absent, _⟩ | ⟨_, _, same, rfl⟩
  · cases absent
  · cases same
    exact ⟨_, rfl, offered, scheduled⟩

theorem Seated.rests {orderId : ObjectId} {provider : ProviderSnapshot}
    {slot : Option ScheduledPickup} {allowed : Touch → Prop} :
    Rests orderId allowed (fun session =>
      session.memory.order._id = orderId ∧
        Seated provider slot (session.store.orders.lookup orderId)) where
  identified := fun _ seated => seated.1
  beside := fun _ _ _ _ same seated => same ▸ seated
  save := by
    rintro session row saved ⟨identified, seated⟩ ran
    have stored := seated.saves ran
    rw [OrderDocument.save_saved ran]
    refine ⟨identified, ?_⟩
    rw [show (session.store.putOrder orderId row).orders.lookup orderId =
      some row from AList.lookup_insert _]
    exact stored
  update := by
    rintro session expected patch store ⟨identified, seated⟩ updated
    rcases updateOrder_ok.mp updated with ⟨row, found, _, rfl⟩
    rcases seated with ⟨_, found', offered, scheduled⟩
    cases found.symm.trans found'
    exact ⟨identified, patch.apply row, AList.lookup_insert _, offered, scheduled⟩
  touch := by
    rintro session touch _ ⟨identified, seated⟩
    cases touch <;> exact ⟨identified, seated⟩

def Washed (branchId : ObjectId) (provider : ProviderSnapshot) : Prop :=
  provider.branchId = branchId → provider.providerType = .washer

/-- Such an order, in memory and wherever it is stored. -/
structure Washing (branchId orderId : ObjectId)
    (stored : Option OnlineOrder) (document : OrderDocument) : Prop where
  identified : document.order._id = orderId
  memory : Washed branchId document.order.provider
  row : ∀ row, stored = some row → Washed branchId row.provider

theorem Washing.saves {branchId orderId : ObjectId}
    {stored : Option OnlineOrder} {document saved : OrderDocument}
    {row : OnlineOrder}
    (washing : Washing branchId orderId stored document)
    (ran : document.save stored = .ok (row, saved)) :
    Washed branchId row.provider := by
  rcases OrderDocument.save_cases ran with ⟨_, _, rfl⟩ | ⟨_, old, found, rfl⟩
  · exact washing.memory
  · exact washing.row old found

theorem Washing.rests {branchId orderId : ObjectId}
    {allowed : Touch → Prop} :
    Rests orderId allowed (fun session =>
      Washing branchId orderId (session.store.orders.lookup orderId) session.memory) where
  identified := fun _ washing => washing.identified
  beside := fun _ _ _ _ same washing => same ▸ washing
  save := by
    intro session row saved washing ran
    have stored := washing.saves ran
    rw [OrderDocument.save_saved ran]
    refine ⟨washing.identified, washing.memory, ?_⟩
    intro written found
    rw [show written = row from Option.some.inj (found.symm.trans (AList.lookup_insert _))]
    exact stored
  update := by
    intro session expected patch store washing updated
    rcases updateOrder_ok.mp updated with ⟨row, found, _, rfl⟩
    refine ⟨washing.identified, washing.memory, ?_⟩
    intro written found'
    rw [show written = patch.apply row from
      Option.some.inj (found'.symm.trans (AList.lookup_insert _))]
    exact washing.row row found
  touch := by
    intro session touch _ washing
    cases touch <;> exact ⟨washing.identified, washing.memory, washing.row⟩

def capped (branchId : ObjectId) (cap : ℕ) (environment : Environment) :
    Bool :=
  (environment.washers branchId).all fun washer =>
    washer.maxOrdersPerDay == some cap

def Operation.decides : Operation → Bool
  | .acceptOrder | .rejectOrder _ | .proposeOrderChange _ _
  | .respondToProviderChange _ | .cancelOrder _ => true
  | _ => false

/--
Orders are booked with a washer of a fixed cap, and decided on; nothing else is
called.
-/
def deciding (branchId : ObjectId) (cap : ℕ) : Action → Bool
  | .create market _ _ input _ =>
    capped branchId cap market.toEnvironment &&
      (input.branchId != branchId || input.providerType == .washer)
  | .request environment _ _ _ operation =>
    capped branchId cap environment && operation.decides
  | _ => true

def roomy (branchId : ObjectId) (cap : ℕ) (state : State) :
    Action → Bool
  | .commit index _ _ =>
    match state.calls[index]? with
    | some (.transaction (some (.respondToProviderChange true)) _ _ document) =>
      (state.database.orders.lookup document.order._id).all fun row =>
        row.provider.branchId != branchId || row.fulfillment.scheduledPickup.all fun slot =>
            decide (state.database.countScheduled branchId slot.date
              (some document.order._id) < cap)
    | _ => true
  | _ => true

def Deciding (branchId : ObjectId) (cap : ℕ) (state : State)
    (action : Action) : Prop :=
  deciding branchId cap action = true ∧ roomy branchId cap state action = true

instance (branchId : ObjectId) (cap : ℕ) (state : State)
    (action : Action) : Decidable (Deciding branchId cap state action) :=
  inferInstanceAs (Decidable (_ ∧ _))

theorem accept_counts {clock : Clock} {actor : User}
    {initialStatus : OrderStatus} {initialVersion cap : ℕ}
    {washer : WasherProfile} {database after : Database}
    {document document' : OrderDocument}
    (limited : washer.maxOrdersPerDay = some cap)
    (outcome : (acceptInTransaction clock actor initialStatus
      initialVersion (some washer)).commit database document = (.ok (), after, document')) :
    database.countScheduled document.order.provider.branchId
        (scheduledDay clock document.order) (some document.order._id) <
      cap := by
  rcases commit_ok.mp outcome with ⟨finish, ran, _⟩
  rcases run_bind_ok.mp ran with ⟨_, reset, edited, ran⟩
  cases edited
  rcases run_bind_ok.mp ran with ⟨_, counted, claimed, _⟩
  rw [reserveDayOf, reserveDailyCapSlot] at claimed
  rcases run_bind_ok.mp claimed with ⟨_, _, remembered, claimed⟩
  cases remembered
  simp only [limited] at claimed
  rcases run_bind_ok.mp claimed with ⟨_, _, touched, claimed⟩
  rcases (run_query_ok rfl).mp touched with ⟨_, same, rfl⟩
  cases same
  rcases (run_query_ok rfl).mp claimed with ⟨store, checked, _⟩
  rcases under : assertUnderCap clock cap _ _ with error | _
  · rw [under] at checked
    cases checked
  · rw [assertUnderCap] at under
    split at under
    · cases under
    · rename_i room
      exact not_le.mp room

def Anchored (orderId : ObjectId) (prepared document : OrderDocument)
    (stored : Option OnlineOrder) : Prop :=
  Unmoved orderId prepared.order.provider
      prepared.order.fulfillment.scheduledPickup document ∧
    Seated prepared.order.provider prepared.order.fulfillment.scheduledPickup stored

def Sited (branchId orderId : ObjectId) (state : State) : Call → Prop
  | .transaction _ callback prepared document =>
    callback.next = none ∧ Washed branchId document.order.provider ∧
      ((∀ customerUid book promo, callback ≠ .create customerUid book promo) →
        Anchored orderId prepared document (state.database.orders.lookup orderId))
  | .save document | .reserve _ document =>
    document.order.status = .pendingProviderAcceptance ∧ Washed branchId document.order.provider
  | .audit _ => True

theorem Sited.later {branchId orderId : ObjectId} {state after : State}
    {call : Call} (sited : Sited branchId orderId state call)
    (seated : ∀ provider slot,
      Seated provider slot (state.database.orders.lookup orderId) →
        Seated provider slot (after.database.orders.lookup orderId)) :
    Sited branchId orderId after call := by
  cases call with
  | transaction =>
    rcases sited with ⟨next, washed, anchored⟩
    refine ⟨next, washed, ?_⟩
    intro existing
    exact ⟨(anchored existing).1, seated _ _ (anchored existing).2⟩
  | save | reserve => exact sited
  | audit => trivial

def Callback.leavesFree (callback : Callback) : Prop :=
  ∀ pickupMode landed,
    (callback.targets pickupMode).getLast? = some landed → landed.capCounted = false

/--
The methods that decide start from the order as they read it, and only two of
them can give it a place in its day.
-/
theorem Operation.decides_prepares {environment : Environment}
    {clock : Clock} {actor : User} {database : Database}
    {row : OnlineOrder} {method : Operation}
    (decides : method.decides = true) :
    Yields (method.prepare environment clock actor database row)
      (fun drafted => ∃ callback prepared,
        drafted = .transaction callback prepared ∧
        callback.next = none ∧ prepared.order.provider = row.provider ∧
          prepared.order.fulfillment.scheduledPickup = row.fulfillment.scheduledPickup ∧
        ((∃ washer,
            callback = .accept actor row.status row.version washer ∧
              assertProviderAccepting environment database row = .ok washer) ∨
          method = .respondToProviderChange true ∨
          callback.leavesFree)) := by
  have leaves : ∀ target actorUid actorRole note,
      target.capCounted = false →
        (Callback.saveThenTransition target actorUid actorRole note none).leavesFree := by
    intro target actorUid actorRole note free pickupMode landed lands
    cases lands
    exact free
  cases method with
  | acceptOrder =>
    apply Yields.checked
    apply Yields.bind
    intro washer bookable
    apply Yields.checked
    exact Yields.pure ⟨_, _, rfl, rfl, rfl, rfl, .inl ⟨washer, rfl, bookable⟩⟩
  | proposeOrderChange reason revised =>
    apply Yields.after
    refine ⟨_, _, rfl, rfl, ?_, ?_, .inr (.inr (leaves _ _ _ _ rfl))⟩
    · cases revised <;> rfl
    · cases revised <;> rfl
  | respondToProviderChange approve =>
    apply Yields.after
    refine ⟨_, _, rfl, rfl, rfl, rfl, .inr ?_⟩
    cases approve with
    | true => exact .inl rfl
    | false =>
      refine .inr fun pickupMode landed lands => ?_
      cases lands
      rfl
  | rejectOrder | cancelOrder =>
    apply Yields.checked
    exact Yields.pure ⟨_, _, rfl, rfl, rfl, rfl, .inr (.inr (leaves _ _ _ _ rfl))⟩
  | _ => cases decides

theorem created_pending {customerUid : Uid}
    {book : Database → Except ServiceError ScheduledPickup}
    {clock : Clock} {database after : Database}
    {document document' : OrderDocument}
    (outcome : (createInTransaction clock customerUid book).commit database
      document = (.ok (), after, document')) :
    document'.order.status = .pendingProviderAcceptance := by
  have striding := (@Striding.created document.order._id customerUid book
    document.order.fulfillment.pickupMode database document.order.status
    document.order.version clock).committed ⟨rfl, rfl, rfl, rfl, rfl⟩
    outcome
  rcases striding.strides with ⟨rows, _, strides, walk, _⟩
  have moved : rows ≠ [] := by
    rintro rfl
    cases walk
  have last := strides.current_eq moved
  rw [← List.getLast?_map, walk] at last
  exact (Option.some.inj last).symm

theorem Sited.ran {branchId orderId : ObjectId} {state : State}
    {operation : Option Operation} {callback : Callback}
    {prepared document : OrderDocument} {clock : Clock}
    {budget : Option ℕ}
    (sited : Sited branchId orderId state (.transaction operation callback prepared document))
    (washed : ∀ row, state.database.orders.lookup orderId = some row → Washed branchId row.provider)
    (about : document.order._id = orderId) :
    Washing branchId orderId
        (((callback.program clock).runOnce budget state.database
          document).2.store.orders.lookup orderId)
        ((callback.program clock).runOnce budget state.database document).2.memory ∧
      ((∀ customerUid book promo, callback ≠ .create customerUid book promo) →
        Unmoved orderId prepared.order.provider
          prepared.order.fulfillment.scheduledPickup
          ((callback.program clock).runOnce budget state.database document).2.memory) := by
  constructor
  · have kept : Keeps
        (fun session => Washing branchId orderId
          (session.store.orders.lookup orderId) session.memory)
        (callback.program clock) :=
      Washing.rests.kept.program
    exact kept _ ⟨about, sited.2.1, washed⟩
  · intro existing
    have unscheduled : ∀ slot, ¬ callback.touches (.schedule slot) := by
      intro slot may
      cases callback with
      | create => exact existing _ _ _ rfl
      | _ => exact may
    have kept : Keeps
        (fun session => Unmoved orderId prepared.order.provider
          prepared.order.fulfillment.scheduledPickup session.memory)
        (callback.program clock) :=
      (Unmoved.rests unscheduled).kept.program
    exact kept _ (sited.2.2 existing).1

theorem sited_obligations {branchId : ObjectId} {cap : ℕ}
    (orderId : ObjectId) :
    Obligations orderId (Deciding branchId cap) (fun _ => True)
      (fun state => ∀ row,
        state.database.orders.lookup orderId = some row → Washed branchId row.provider)
      (Sited branchId orderId) where
  beside := by
    intro state after beside washed row found
    rw [beside.same.row] at found
    exact washed row found
  steady := by
    intro state after call beside _ sited
    apply sited.later
    intro provider slot seated
    rw [beside.same.row]
    exact seated
  begun := by
    intro state action after call _ invariant decides beside begun about
    cases begun with
    | booked market clock customer input _ _ requested ordered =>
      rcases createOrder_yields _ ordered with ⟨_, _, _, _, _, _, _, _, _, _, equal⟩
      cases equal
      refine ⟨rfl, ?_, fun existing => (existing _ _ _ rfl).elim⟩
      intro here
      have here : input.branchId = branchId := here
      have typed := decides.1
      rw [requested] at typed
      show input.providerType = .washer
      simpa [deciding, here] using (Bool.and_eq_true_iff.mp typed).2
    | drafted environment clock actor method row callback document requested _ _ found prepares =>
      have typed := decides.1
      rw [requested] at typed
      rcases Operation.decides_prepares (Bool.and_eq_true_iff.mp typed).2 _ prepares with
        ⟨_, _, equal, next, offered, scheduled, _⟩
      cases equal
      refine ⟨next, ?_, ?_⟩
      · rw [offered]
        exact invariant.good row found
      · intro _
        refine ⟨⟨about, rfl, rfl⟩, row, ?_, offered.symm, scheduled.symm⟩
        rw [beside.same.row]
        exact found
    | amended environment clock actor method row document requested found prepares =>
      have typed := decides.1
      rw [requested] at typed
      rcases Operation.decides_prepares (Bool.and_eq_true_iff.mp typed).2 _ prepares with
        ⟨_, _, equal, _⟩
      cases equal
    | audited => trivial
    | aborted index budget clock operation callback prepared document _ flying =>
      have confined := @Callback.confined clock callback state.database document (some budget)
      have about' : document.order._id = orderId := confined.identified.symm.trans about
      have sited := invariant.sound _ (List.mem_of_getElem? flying) about'
      rcases sited.ran invariant.good about' with ⟨washing, unmoved⟩
      refine ⟨sited.1, washing.memory, ?_⟩
      intro existing
      refine ⟨unmoved existing, ?_⟩
      rw [beside.same.row]
      exact (sited.2.2 existing).2
    | reserved index environment clock claim document promoId _ flying =>
      exact invariant.sound _ (List.mem_of_getElem? flying) about
  commit := by
    intro state index environment clock operation callback prepared document
      database document' _ invariant _ flying about sited outcome
    rcases commit_ok.mp outcome with ⟨finish, ran, rfl, rfl⟩
    have washing := (@Sited.ran _ _ _ _ _ _ _ clock none sited invariant.good about).1
    rw [Program.runOnce, ran] at washing
    refine ⟨⟨washing.row, ?_⟩, ?_⟩
    · intro call _ _ other
      apply other.later
      intro provider slot seated
      have kept : Keeps
          (fun session => session.memory.order._id = orderId ∧
            Seated provider slot (session.store.orders.lookup orderId))
          (callback.program clock) :=
        Seated.rests.kept.program
      have after := kept ⟨_, state.database, document, none⟩ ⟨about, seated⟩
      rw [ran] at after
      exact after.2
    · intro call followed
      unfold Callback.followUp at followed
      split at followed
      · cases sited.1
      · cases followed
        exact ⟨created_pending outcome, washing.memory⟩
      · cases followed
  save := by
    intro state index environment clock document row saved _ invariant _ flying about sited ran
    have washing : Washing branchId orderId
        (state.database.orders.lookup orderId) document :=
      ⟨about, sited.2, invariant.good⟩
    constructor
    · intro written found
      rw [show written = row from Option.some.inj (found.symm.trans (AList.lookup_insert _))]
      exact washing.saves ran
    · intro call _ _ other
      apply other.later
      intro provider slot seated
      rw [show (state.write (state.database.putOrder orderId
        row)).database.orders.lookup orderId = some row from AList.lookup_insert _]
      exact seated.saves ran

theorem lookup_of_other {castToObjectId : String → Option ObjectId}
    {state after : State} {index : ℕ} {environment : Environment}
    {clock : Clock} {call : Call} (tidy : state.Tidy)
    (flying : state.calls[index]? = some call)
    (stepped : step castToObjectId (.commit index environment clock) state = some after)
    {other : ObjectId} (different : other ≠ call.orderId) :
    after.database.orders.lookup other =
      state.database.orders.lookup other := by
  have cases := @step_cases other _ _ _ tidy _ stepped
  cases cases with
  | aside beside _ => exact beside.same.row
  | committed _ _ _ _ _ _ _ _ _ commits flying' about
  | saved _ _ _ _ _ _ commits flying' about =>
    cases commits
    cases flying.symm.trans flying'
    exact (different about.symm).elim

theorem Callback.lands {callback : Callback} {clock : Clock}
    {database after : Database} {document document' : OrderDocument}
    {row : OnlineOrder}
    (outcome : (callback.program clock).commit database document = (.ok (), after, document'))
    (found : after.orders.lookup document.order._id = some row) :
    (callback.targets document.order.fulfillment.pickupMode).getLast? = some row.status := by
  rcases Callback.moved outcome with ⟨rows, _, walk, _, found', last⟩
  cases found.symm.trans found'
  rw [← walk, List.getLast?_map, last]

/-- What a call comes from that gives its order a place in its day. -/
theorem deciding_traced {castToObjectId : String → Option ObjectId}
    {branchId : ObjectId} {cap : ℕ} {state : State}
    {operation : Option Operation} {callback : Callback}
    {prepared document : OrderDocument}
    (reached : (orderSystem castToObjectId).Reaches (Deciding branchId cap) .start state)
    (member : Call.transaction operation callback prepared document ∈ state.calls)
    {pickupMode : FulfillmentPickupMode} {landed : OrderStatus}
    (lands : (callback.targets pickupMode).getLast? = some landed)
    (counted : landed.capCounted = true) :
    (∀ customerUid book promo, callback ≠ .create customerUid book promo) ∧
    (operation = some (.respondToProviderChange true) ∨
      ∃ actor initialStatus initialVersion washer environment database row,
        callback = .accept actor initialStatus initialVersion washer ∧
        capped branchId cap environment = true ∧
        assertProviderAccepting environment database row = .ok washer ∧
        prepared.order.provider = row.provider) := by
  have placed : callback.leavesFree → False := by
    intro free
    rw [free _ _ lands] at counted
    cases counted
  have traced := (traced_of_reaches reached _ _ _ _ member).1
  cases traced with
  | booked _ _ _ _ _ _ _ _ _ ordered =>
    rcases (createOrder_books _ ordered).creates with ⟨_, _, _, rfl⟩
    cases lands
    cases counted
  | following method first before next actorUid actorRole _ requested follows is =>
    cases requested with
    | intro environment clock actor row earlier _ _ decides _ _ _ prepares =>
      rcases Operation.decides_prepares (Bool.and_eq_true_iff.mp decides.1).2 _ prepares with
        ⟨_, _, equal, none, _⟩
      cases equal
      rw [none] at follows
      cases follows
  | requested method of requested =>
    cases requested with
    | intro environment clock actor row earlier _ _ decides _ _ _ prepares =>
      have allowed := Bool.and_eq_true_iff.mp decides.1
      rcases Operation.decides_prepares allowed.2 _ prepares with
        ⟨_, _, equal, _, offered, _, ⟨washer, rfl, bookable⟩ | rfl | free⟩
      · cases equal
        exact ⟨nofun, .inr ⟨_, _, _, washer, environment, _, row, rfl,
          allowed.1, bookable, offered⟩⟩
      · refine ⟨?_, .inl of⟩
        rintro _ _ _ rfl
        cases lands
        cases counted
      · cases equal
        exact (placed free).elim

theorem capped_of_accepting {branchId : ObjectId} {cap : ℕ}
    {environment : Environment} {database : Database} {row : OnlineOrder}
    {washer : Option WasherProfile}
    (fixed : capped branchId cap environment = true)
    (here : row.provider.branchId = branchId)
    (typed : row.provider.providerType = .washer)
    (bookable : assertProviderAccepting environment database row = .ok washer) :
    ∃ profile, washer = some profile ∧ profile.maxOrdersPerDay = some cap := by
  subst here
  rw [assertProviderAccepting] at bookable
  dsimp only at bookable
  split at bookable
  · cases bookable
  · rw [typed] at bookable
    dsimp only at bookable
    rcases profiled : environment.washers row.provider.branchId with
      _ | profile
    · rw [profiled] at bookable
      cases bookable
    · rw [capped, profiled] at fixed
      rw [profiled] at bookable
      refine ⟨profile, ?_, by simpa using fixed⟩
      dsimp only at bookable
      cases active : profile.isActive with
      | false =>
        rw [active] at bookable
        cases bookable
      | true =>
        rw [active] at bookable
        simp only [if_true, pure_bind] at bookable
        split at bookable
        · cases bookable
        · split at bookable
          · cases bookable
          · cases bookable
            rfl

/-- A commit gives no order a place in a full day. -/
theorem commit_keepsCap {castToObjectId : String → Option ObjectId}
    {branchId : ObjectId} {cap : ℕ} {state : State} {index : ℕ}
    {environment : Environment} {clock : Clock}
    {operation : Option Operation} {callback : Callback}
    {prepared document document' : OrderDocument} {database : Database}
    {row : OnlineOrder} {day : String}
    (reached : (orderSystem castToObjectId).Reaches (Deciding branchId cap) .start state)
    (room : roomy branchId cap state (.commit index environment clock) = true)
    (flying : state.calls[index]? = some (.transaction operation callback prepared document))
    (outcome : (callback.program clock).commit state.database document =
      (.ok (), database, document'))
    (found : database.orders.lookup document.order._id = some row)
    (takes : row.occupies branchId day = true) :
    state.database.countScheduled branchId day (some document.order._id) < cap := by
  have member := List.mem_of_getElem? flying
  have invariant := (sited_obligations document.order._id).reaches
    (fun _ _ => trivial)
    (by intro row absent; simp [State.start] at absent) reached
  rw [OnlineOrder.occupies, Bool.and_eq_true, Bool.and_eq_true, beq_iff_eq] at takes
  rcases takes with ⟨⟨here, today⟩, counted⟩
  rcases deciding_traced reached member (Callback.lands outcome found)
    counted with ⟨existing, source⟩
  have sited := invariant.sound _ member rfl
  rcases sited.2.2 existing with ⟨unmoved, seated⟩
  have stays : Seated prepared.order.provider
      prepared.order.fulfillment.scheduledPickup (some row) := by
    have kept : Keeps
        (fun session => session.memory.order._id = document.order._id ∧
          Seated prepared.order.provider
            prepared.order.fulfillment.scheduledPickup
            (session.store.orders.lookup document.order._id))
        (callback.program clock) :=
      Seated.rests.kept.program
    rcases commit_ok.mp outcome with ⟨finish, ran, rfl, rfl⟩
    have after := kept ⟨_, state.database, document, none⟩ ⟨rfl, seated⟩
    rw [ran, found] at after
    exact after.2
  rcases stays with ⟨_, same, offered, scheduled⟩
  cases same
  rcases slotted : row.fulfillment.scheduledPickup with _ | slot
  · rw [slotted] at today
    cases today
  · rw [slotted] at today scheduled
    have date : slot.date = day := by simpa using today
    rcases source with rfl | ⟨actor, initialStatus, initialVersion, washer,
      environment', read, earlier, rfl, fixed, bookable, provided⟩
    · rcases seated with ⟨old, stored, offered', scheduled'⟩
      simp only [roomy, flying] at room
      rw [stored] at room
      simpa [offered', ← offered, here, scheduled', ← scheduled, date] using room
    · have branch : earlier.provider.branchId = branchId := by
        rw [← provided, ← offered]
        exact here
      have typed : earlier.provider.providerType = .washer := by
        have washed := sited.2.1
        rw [unmoved.offered, provided] at washed
        exact washed branch
      rcases capped_of_accepting fixed branch typed bookable with ⟨profile, rfl, limited⟩
      have counts := accept_counts limited outcome
      rw [unmoved.offered, ← offered, here, scheduledDay, unmoved.scheduled, ← scheduled] at counts
      rw [← date]
      exact counts

theorem save_keepsCap {branchId : ObjectId} {day : String}
    {stored : Option OnlineOrder} {document saved : OrderDocument}
    {row : OnlineOrder}
    (pending : document.order.status = .pendingProviderAcceptance)
    (ran : document.save stored = .ok (row, saved))
    (takes : row.occupies branchId day = true) :
    ∃ old, stored = some old ∧ old.occupies branchId day = true := by
  rcases OrderDocument.save_cases ran with ⟨_, _, rfl⟩ | ⟨_, old, found, rfl⟩
  · simp [OnlineOrder.occupies, pending, OrderStatus.capCounted] at takes
  · refine ⟨old, found, ?_⟩
    by_cases written : .status ∈ document.modified
    · simp [OnlineOrder.occupies, OrderDocument.writeTo,
        OrderDocument.pick, written, pending, OrderStatus.capCounted]
        at takes
    · simpa [OnlineOrder.occupies, OrderDocument.writeTo, OrderDocument.pick, written] using takes

namespace Shop

def washer : WasherProfile where
  uid := "owner"
  storeName := "Home"
  isActive := true
  isAvailable := true
  maxOrdersPerDay := some 1
  serviceRadiusKm := some 5
  latitude := some 0
  longitude := some 0
  offeredServiceTemplateIds := ["wash"]

def home : Environment :=
  { environment with
    washers := fun branchId =>
      if branchId = "branch" then some washer else none }

def homeMarket : Market :=
  { market with
    toEnvironment := home
    templates := fun _ => some
      { name := "Wash"
        isActive := true
        isPlatformFixed := true
        platformPricingModel := some .perKg
        platform := { model := .perKg, priceCentavos := 5000 } } }

def placingHome (orderId : ObjectId) : List Action :=
  [ .create homeMarket (clock 1) customer { booking .customerDropoff .customerSelfPickup with
        providerType := .washer } orderId, .commit 0 home (clock 1) ]

def callsHome (actor : User) (orderId : ObjectId)
    (operation : Operation) : List Action :=
  [ .request home (clock 2) actor orderId operation, .commit 0 home (clock 2) ]

end Shop

def overbooked : List Action :=
  Shop.funding ++ Shop.placingHome "first" ++ Shop.placingHome "second" ++
    Shop.callsHome Shop.owner "first" (.proposeOrderChange "More shirts" none) ++
    Shop.callsHome Shop.owner "second" .acceptOrder ++
    Shop.callsHome Shop.customer "first" (.respondToProviderChange true)

end Lalaba.Orders
