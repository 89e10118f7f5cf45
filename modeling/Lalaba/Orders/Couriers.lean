import Lalaba.Orders.Custody
import Lalaba.Orders.History

/-!
# The couriers of an order

From the moment a leg is given to a courier until its goods are handed over, the
order names the courier.  Only the methods of assignment name one; a method that
takes a leg to its first status with nobody on it leaves a job on nobody's board.
-/

namespace Lalaba.Orders

open Foundation
open Foundation.Program

theorem CourierLeg.underway_of_transition {leg : CourierLeg}
    {source target : OrderStatus} (allowed : target ∈ source.transitions)
    (underway : target ∈ leg.assignedStatuses) :
    target = leg.entry ∨ source ∈ leg.assignedStatuses := by
  have table : ∀ target ∈ source.transitions,
      target ∈ leg.assignedStatuses → target = leg.entry ∨ source ∈ leg.assignedStatuses := by
    cases leg <;> cases source <;> decide
  exact table target allowed underway

theorem CourierLeg.resting_of_followUps (leg : CourierLeg)
    {first second : OrderStatus} (member : (first, second) ∈ followUps) :
    first ∉ leg.assignedStatuses := by
  simp only [followUps, List.mem_cons, Prod.mk.injEq, List.not_mem_nil, or_false] at member
  rcases member with ⟨rfl, rfl⟩ | ⟨rfl, rfl⟩ | ⟨rfl, rfl⟩ | ⟨rfl, rfl⟩ <;> cases leg <;> decide

theorem Callback.aim_of_underway {callback : Callback} {leg : CourierLeg}
    {pickupMode : FulfillmentPickupMode} {status : OrderStatus}
    (lands : (callback.targets pickupMode).getLast? = some status)
    (underway : status ∈ leg.assignedStatuses) :
    callback.aim = status ∧ (status = leg.entry →
      ∃ actorUid actorRole note next, callback =
        .saveThenTransition leg.entry actorUid actorRole note next) := by
  cases callback with
  | saveThenTransition target actorUid actorRole note next =>
    cases lands
    refine ⟨rfl, ?_⟩
    rintro rfl
    exact ⟨actorUid, actorRole, note, next, rfl⟩
  | recordWeight =>
    cases lands
    refine ⟨rfl, ?_⟩
    intro enters
    cases leg <;> cases enters
  | accept =>
    cases pickupMode <;> cases lands <;> exact absurd underway (by cases leg <;> decide)
  | respond customerUid approve =>
    cases approve <;> cases pickupMode <;> cases lands <;>
      exact absurd underway (by cases leg <;> decide)
  | handOver =>
    have rests : .completed ∉ leg.assignedStatuses := by
      cases leg <;> decide
    cases lands
    exact (rests underway).elim
  | _ =>
    cases lands
    exact absurd underway (by cases leg <;> decide)

/-! ## Documents and couriers -/

theorem OrderDocument.assignment_writeTo (document : OrderDocument)
    (row : OnlineOrder) (leg : CourierLeg) :
    (document.writeTo row).assignment leg =
      if leg.path ∈ document.modified then document.order.assignment leg
      else row.assignment leg := by
  cases leg <;> rfl

theorem OrderDocument.courier_writeTo (document : OrderDocument)
    (row : OnlineOrder) (leg : CourierLeg) :
    (document.writeTo row).courier leg =
      if leg.path ∈ document.modified then document.order.courier leg
      else row.courier leg := by
  rw [OnlineOrder.courier, document.assignment_writeTo row leg]
  split <;> rfl

def OrderDocument.courierSaved (document : OrderDocument)
    (database : Database) (leg : CourierLeg) : Option Uid :=
  if leg.path ∈ document.modified then document.order.courier leg
  else (database.orders.lookup document.order._id).bind fun row =>
    row.courier leg

def OnlineOrder.Vetted (vetted : Uid → Prop) (order : OnlineOrder) : Prop :=
  ∀ leg uid, order.courier leg = some uid → vetted uid

/--
A session that leaves the legs named in `held` with their couriers, and names nobody
who was not vetted.  What is not stored yet has no courier.
-/
structure Crewed (orderId : ObjectId) (vetted : Uid → Prop)
    (marked held : CourierLeg → Prop) (stored : Prop) (database : Database)
    (document : OrderDocument) : Prop where
  identified : document.order._id = orderId
  names : document.order.Vetted vetted
  marks : ∀ leg, marked leg → leg.path ∈ document.modified → document.order.courier leg ≠ none
  inserts : document.isNew = true → ∀ leg, ¬ held leg
  row : stored → ∀ row, database.orders.lookup orderId = some row →
    row.Vetted vetted ∧ ∀ leg, held leg → row.courier leg ≠ none

section

variable {orderId : ObjectId} {vetted : Uid → Prop}
  {marked held : CourierLeg → Prop} {stored : Prop}
  {database after : Database} {document document' : OrderDocument}
  {row : OnlineOrder}

theorem OnlineOrder.Vetted.writeTo (names : document.order.Vetted vetted)
    (stored : row.Vetted vetted) :
    (document.writeTo row).Vetted vetted := by
  intro leg uid named
  rw [document.courier_writeTo row leg] at named
  split at named
  · exact names leg uid named
  · exact stored leg uid named

theorem Crewed.saved (within : ∀ leg, held leg → marked leg)
    (crewed : Crewed orderId vetted marked held stored database document)
    (keeps : stored)
    (ran : document.save (database.orders.lookup orderId) = .ok (row, document')) :
    row.Vetted vetted ∧ ∀ leg, held leg → row.courier leg ≠ none := by
  rcases OrderDocument.save_cases ran with ⟨isNew, _, rfl⟩ | ⟨_, old, found, rfl⟩
  · exact ⟨crewed.names, fun leg holds =>
      (crewed.inserts isNew leg holds).elim⟩
  · rcases crewed.row keeps old found with ⟨names, manned⟩
    refine ⟨crewed.names.writeTo names, ?_⟩
    intro leg holds
    rw [document.courier_writeTo old leg]
    split
    · rename_i dirty
      exact crewed.marks leg (within leg holds) dirty
    · exact manned leg holds

/-- No run takes a courier off a leg that it holds. -/
theorem Crewed.rests {allowed : Touch → Prop}
    (within : ∀ leg, held leg → marked leg) :
    Rests orderId allowed
      (fun session => Crewed orderId vetted marked held stored session.store session.memory) where
  identified := fun _ crewed => crewed.identified
  beside := by
    intro session store durable budget same crewed
    refine ⟨crewed.identified, crewed.names, crewed.marks, crewed.inserts, ?_⟩
    rw [same]
    exact crewed.row
  save := by
    intro session row saved crewed ran
    have written := fun keeps => crewed.saved within keeps ran
    have clean := OrderDocument.save_saved ran
    subst clean
    refine ⟨crewed.identified, crewed.names, ?_, nofun, ?_⟩
    · exact fun leg _ dirty => (Finset.notMem_empty _ dirty).elim
    · intro keeps stored found
      cases (AList.lookup_insert _).symm.trans found
      exact written keeps
  update := by
    intro session expected patch store crewed ran
    rcases updateOrder_ok.mp ran with ⟨row, found, _, rfl⟩
    refine ⟨crewed.identified, crewed.names, crewed.marks, crewed.inserts, ?_⟩
    intro keeps stored found'
    cases (AList.lookup_insert _).symm.trans found'
    exact crewed.row keeps row found
  touch := by
    intro session touch _ crewed
    have spares := touch.spares session.memory
    refine ⟨spares.identified.trans crewed.identified, ?_, ?_, ?_, crewed.row⟩
    · intro leg uid named
      rw [OnlineOrder.courier, spares.assignment leg] at named
      exact crewed.names leg uid named
    · intro leg marks dirty
      rw [OnlineOrder.courier, spares.assignment leg]
      exact crewed.marks leg marks (spares.marked _ leg.untouched_path dirty)
    · intro isNew leg
      exact crewed.inserts (spares.inserted.symm.trans isNew) leg

theorem Crewed.commits {clock : Clock} {callback : Callback}
    (within : ∀ leg, held leg → marked leg)
    (crewed : Crewed orderId vetted marked held stored database document)
    (outcome : (callback.program clock).commit database document = (.ok (), after, document')) :
    Crewed orderId vetted marked held stored after document' :=
  @Keeps.committed _ _ _ _ (fun (store : Database) (memory : OrderDocument) =>
      Crewed orderId vetted marked held stored store memory)
    _ _ _ _ _ _ ((Crewed.rests within).kept.runs (@Callback.allows callback clock _)) crewed outcome

/-- A plain transition stores the courier that the save of its document leaves. -/
theorem courier_commits {clock : Clock} {target : OrderStatus}
    {actorUid : Uid} {actorRole : String} {note : Option String}
    {next : Option OrderStatus} {leg : CourierLeg} {uid : Uid}
    (about : document.order._id = orderId)
    (named : document.courierSaved database leg = some uid)
    (outcome : ((Callback.saveThenTransition target actorUid actorRole note
      next).program clock).commit database document = (.ok (), after, document')) :
    ∃ row, after.orders.lookup orderId = some row ∧ row.courier leg = some uid := by
  let Names : Database → OrderDocument → Prop := fun database document =>
    document.order._id = orderId ∧ document.courierSaved database leg = some uid
  let Stored : Database → OrderDocument → Prop := fun database document =>
    document.order._id = orderId ∧ ∃ row,
      database.orders.lookup orderId = some row ∧ row.courier leg = some uid
  have saved : Ensures Names saveDocument (fun _ => Stored) := by
    apply ensures_saveDocument
    rintro database document row saved ⟨rfl, named⟩ ran
    have clean := OrderDocument.save_saved ran
    subst clean
    refine ⟨rfl, row, AList.lookup_insert _, ?_⟩
    rw [OrderDocument.courierSaved] at named
    rcases OrderDocument.save_cases ran with ⟨_, absent, rfl⟩ | ⟨_, old, found, rfl⟩
    · rw [absent] at named
      split at named
      · exact named
      · cases named
    · rw [document.courier_writeTo old leg]
      rw [found] at named
      exact named
  have moved : Ensures Stored
      (applyTransition clock target actorUid actorRole note)
      (fun _ => Stored) := by
    apply @ensures_transition _ _ _ _ _ _ Stored
    · rintro database document row ⟨rfl, old, found, named⟩ _ found' _
      cases found.symm.trans found'
      exact ⟨rfl, _, AList.lookup_insert _, named⟩
    · intro start
      exact ensures_settlePromo fun _ _ _ => id
  exact ((saved.bind fun _ => moved).committed ⟨about, named⟩ outcome).2

end

/-! ## What the calls know of the couriers -/

def Callback.escorts (callback : Callback) (prepared : OrderDocument)
    (leg : CourierLeg) : Prop :=
  (callback.origin prepared).1 ∈ leg.assignedStatuses ∧
    callback.aim ∈ leg.assignedStatuses ∧ callback.aim ≠ leg.entry

/-- What a call in flight may write on the legs of an order. -/
def Crews (vetted : Uid → Prop) : Call → Prop
  | .transaction _ callback prepared document =>
    document.order.Vetted vetted ∧
      (∀ leg, prepared.isNew = true ∨ callback.escorts prepared leg →
        leg.path ∈ document.modified → document.order.courier leg ≠ none) ∧
      (document.isNew = true → prepared.isNew = true) ∧
      (prepared.isNew = true →
        prepared.order.status = .draft ∧ ∃ customerUid book promo,
          callback = .create customerUid book promo)
  | .save document | .reserve _ document =>
    document.order.Vetted vetted ∧
      ∀ leg : CourierLeg, leg.path ∈ document.modified → document.order.courier leg ≠ none
  | .audit _ => True

/-- Who rides for an order was vetted, and a leg under way has a rider. -/
structure Database.Manned (orderId : ObjectId) (vetted : Uid → Prop)
    (database : Database) : Prop where
  vetted : ∀ row, database.orders.lookup orderId = some row → row.Vetted vetted
  manned : ∀ row, database.orders.lookup orderId = some row →
    ∀ leg : CourierLeg, row.status ∈ leg.assignedStatuses → row.courier leg ≠ none

/--
A transaction that takes a leg to its first status saves a document that leaves a
courier there.
-/
def crewed (orderId : ObjectId) (state : State) : Action → Bool
  | .commit index _ _ =>
    match state.calls[index]? with
    | some (.transaction _ callback _ document) =>
      decide (document.order._id ≠ orderId) ||
        callback.refused document ||
        [CourierLeg.pickup, .return].all fun leg =>
          decide (callback.aim ≠ leg.entry) ||
            decide (document.courierSaved state.database leg ≠ none)
    | _ => true
  | _ => true

def CrewedTimely (orderId : ObjectId) (state : State) (action : Action) :
    Prop :=
  Timely orderId state action ∧ crewed orderId state action = true

instance (orderId : ObjectId) (state : State) (action : Action) :
    Decidable (CrewedTimely orderId state action) :=
  inferInstanceAs (Decidable (_ ∧ _ = true))

section

variable {orderId : ObjectId} {vetted : Uid → Prop}
  {state after : State} {action : Action}
  {clock : Clock} {operation : Option Operation} {callback : Callback}
  {prepared document document' : OrderDocument} {database : Database}

theorem crewed.names {index : ℕ} {environment : Environment}
    (crews : crewed orderId state (.commit index environment clock) = true)
    (flying : state.calls[index]? = some (.transaction operation callback prepared document))
    (about : document.order._id = orderId)
    (allowed : callback.aim ∈ document.order.status.transitions)
    {leg : CourierLeg} (enters : callback.aim = leg.entry) :
    ∃ uid, document.courierSaved state.database leg = some uid := by
  have named : document.courierSaved state.database leg ≠ none := by
    simp only [crewed, flying, about, Callback.refused, allowed, ne_eq,
      not_true_eq_false, decide_false, decide_true, Bool.not_true,
      Bool.false_or, List.all_cons, List.all_nil, Bool.and_true,
      Bool.and_eq_true, Bool.or_eq_true, decide_eq_true_eq] at crews
    cases leg with
    | pickup => exact crews.1.resolve_left (not_not.mpr enters)
    | «return» => exact crews.2.resolve_left (not_not.mpr enters)
  exact Option.ne_none_iff_exists'.mp named

theorem Operation.courier_cases (method : Operation) (row : OnlineOrder)
    (leg : CourierLeg) :
    method.courier row leg = row.courier leg ∨
      (∃ staffUid, method.courier row leg = some staffUid ∧
        (method = .assignPickupStaff staffUid ∨ method = .assignReturnStaff staffUid)) ∨
      method.courier row leg = none ∧
        (method = .reschedulePickup ∧ leg = .pickup ∨
          method = .scheduleRedelivery ∧ leg = .return) := by
  cases method with
  | assignPickupStaff staffUid =>
    cases leg with
    | pickup => exact .inr (.inl ⟨staffUid, rfl, .inl rfl⟩)
    | «return» => exact .inl rfl
  | assignReturnStaff staffUid =>
    cases leg with
    | pickup => exact .inl rfl
    | «return» => exact .inr (.inl ⟨staffUid, rfl, .inr rfl⟩)
  | reschedulePickup =>
    cases leg with
    | pickup => exact .inr (.inr ⟨rfl, .inl ⟨rfl, rfl⟩⟩)
    | «return» => exact .inl rfl
  | scheduleRedelivery =>
    cases leg with
    | pickup => exact .inl rfl
    | «return» => exact .inr (.inr ⟨rfl, .inr ⟨rfl, rfl⟩⟩)
  | _ => exact .inl rfl

theorem Crews.unescorted
    (crews : Crews vetted (.transaction operation callback prepared document))
    (isNew : document.isNew = true) (leg : CourierLeg) :
    ¬ callback.escorts prepared leg := by
  rintro ⟨underway, _⟩
  rcases crews with ⟨_, _, inserts, creates⟩
  rcases creates (inserts isNew) with ⟨draft, _, _, _, rfl⟩
  have origin : prepared.order.status ∈ leg.assignedStatuses := underway
  rw [draft] at origin
  exact absurd origin (by cases leg <;> decide)

variable {call : Call}

theorem Crews.mono {vetted' : Uid → Prop} (crews : Crews vetted call)
    (grows : ∀ uid, vetted uid → vetted' uid) :
    Crews vetted' call := by
  cases call with
  | transaction =>
    rcases crews with ⟨names, marks, inserts, creates⟩
    exact ⟨fun leg uid named => grows uid (names leg uid named), marks, inserts, creates⟩
  | save | reserve =>
    exact ⟨fun leg uid named => grows uid (crews.1 leg uid named), crews.2⟩
  | audit => trivial

theorem Database.Manned.mono {vetted' : Uid → Prop}
    (manned : database.Manned orderId vetted)
    (grows : ∀ uid, vetted uid → vetted' uid) :
    database.Manned orderId vetted' where
  vetted := fun row found leg uid named =>
    grows uid (manned.vetted row found leg uid named)
  manned := manned.manned

/-- A new call names nobody who was not vetted. -/
theorem Crews.begun (manned : state.database.Manned orderId vetted)
    (crews : ∀ other ∈ state.calls, other.orderId = orderId → Crews vetted other)
    (passed : ∀ staffUid, (orderId, staffUid) ∈ after.vetted →
      vetted staffUid) (begun : Begun orderId state action after call)
    (about : call.orderId = orderId) : Crews vetted call := by
  cases begun with
  | booked _ _ _ _ callback document _ ordered =>
    have booked := createOrder_books _ ordered
    rcases booked.orders with ⟨_, _, _, _, _, _, _, rfl, _⟩
    refine ⟨?_, ?_, id, fun _ => ⟨rfl, booked.creates⟩⟩
    · intro leg uid named
      cases leg <;> cases named
    · intro leg _ dirty
      cases Finset.notMem_empty _ dirty
  | drafted environment clock actor method row callback document _ _ listed found prepares =>
    have drafted : Drafted actor row method callback document := method.drafts _ prepares
    have aims := drafted.aims
    have place := drafted.fits.place
    refine ⟨?_, ?_, id, ?_⟩
    · intro leg uid named
      rw [drafted.courier leg] at named
      rcases method.courier_cases row leg with
        same | ⟨staffUid, assigned, assigns⟩ | ⟨nobody, _⟩
      · rw [same] at named
        exact manned.vetted row found leg uid named
      · rw [assigned] at named
        cases named
        exact passed _ (listed _ assigns)
      · rw [nobody] at named
        cases named
    · rintro leg (isNew | ⟨origin, aim, other⟩) _
      · rw [drafted.inserted] at isNew
        cases isNew
      rw [place] at origin
      rw [drafted.courier leg]
      rcases method.courier_cases row leg with
        same | ⟨staffUid, assigned, _⟩ | ⟨_, ⟨rfl, rfl⟩ | ⟨rfl, rfl⟩⟩
      · rw [same]
        exact manned.manned row found leg origin
      · rw [assigned]
        exact Option.some_ne_none _
      · exact (other (Option.some.inj aims).symm).elim
      · rw [← Option.some.inj aims] at aim
        exact absurd aim (by decide)
    · intro isNew
      rw [drafted.inserted] at isNew
      cases isNew
  | amended environment clock actor method row document _ found prepares =>
    have amended : Amended row document := method.drafts _ prepares
    constructor
    · intro leg uid named
      rw [amended.courier leg] at named
      exact manned.vetted row found leg uid named
    · intro leg dirty
      rw [amended.courier leg]
      exact amended.manned leg dirty
  | audited => trivial
  | aborted index budget clock operation callback prepared document _ flying =>
    have confined := @Callback.confined clock callback state.database document (some budget)
    have about' : document.order._id = orderId := confined.identified.symm.trans about
    have known := crews _ (List.mem_of_getElem? flying) about'
    have unescorted := known.unescorted
    rcases known with ⟨names, marks, inserts, creates⟩
    have kept := (@Crewed.rests orderId vetted
      (fun leg => prepared.isNew = true ∨ callback.escorts prepared leg)
      (fun leg => callback.escorts prepared leg) False callback.touches
      fun _ => .inr).kept.runs (@Callback.allows callback clock _)
    have crewed := kept
      ⟨state.database, state.database, document, some budget⟩
      ⟨about', names, marks, unescorted, False.elim⟩
    refine ⟨?_, crewed.marks, ?_, creates⟩
    · exact crewed.names
    · intro isNew
      apply inserts
      by_contra old
      have inserted := @Callback.keepsInserted clock callback document
        state.database (some budget) (eq_false_of_ne_true old)
      rw [inserted] at isNew
      cases isNew
  | reserved index environment clock claim document promoId _ flying =>
    have known : document.order.Vetted
          vetted ∧
        ∀ leg : CourierLeg, leg.path ∈ document.modified → document.order.courier leg ≠ none :=
      crews _ (List.mem_of_getElem? flying) about
    refine ⟨known.1, ?_⟩
    intro leg dirty
    apply known.2 leg
    rcases Finset.mem_insert.mp dirty with impossible | old
    · cases leg <;> cases impossible
    · exact old

theorem Crews.committed
    (crews : Crews vetted (.transaction operation callback prepared document))
    (manned : state.database.Manned orderId vetted)
    (about : document.order._id = orderId)
    (advanced : Advanced orderId callback prepared state.database database document')
    (outcome : (callback.program clock).commit state.database document =
      (.ok (), database, document')) :
    Crewed orderId vetted
      (fun leg => prepared.isNew = true ∨ callback.escorts prepared leg)
      (callback.escorts prepared) True database document' := by
  have unescorted := crews.unescorted
  rcases crews with ⟨names, marks, _, _⟩
  apply Crewed.commits (fun _ => .inr) _ outcome
  refine ⟨about, names, marks, unescorted, ?_⟩
  intro _ row found
  refine ⟨manned.vetted row found, ?_⟩
  rintro leg ⟨underway, _⟩
  cases advanced with
  | opened _ _ _ absent =>
    rw [absent] at found
    cases found
  | moved old _ _ stored stands _ =>
    cases stored.symm.trans found
    rw [← stands] at underway
    exact manned.manned row found leg underway

theorem Crews.commits {index : ℕ} {environment : Environment}
    (crews : Crews vetted (.transaction operation callback prepared document))
    (manned : state.database.Manned orderId vetted)
    (allowed : crewed orderId state (.commit index environment clock) = true)
    (flying : state.calls[index]? = some (.transaction operation callback prepared document))
    (about : document.order._id = orderId)
    (advanced : Advanced orderId callback prepared state.database database document')
    (outcome : (callback.program clock).commit state.database document =
      (.ok (), database, document')) :
    database.Manned orderId vetted := by
  have committed := crews.committed manned about advanced outcome
  constructor
  · exact fun row found => (committed.row trivial row found).1
  · intro row found leg underway
    rcases advanced.lands found with ⟨pickupMode, lands⟩
    rcases Callback.aim_of_underway lands underway with ⟨aim, plain⟩
    by_cases enters : row.status = leg.entry
    · rcases plain enters with ⟨actorUid, actorRole, note, next, rfl⟩
      have begins : leg.entry ∈ document.order.status.transitions :=
        (Callback.strides (by rintro _ _ _ ⟨⟩) outcome).allowed
      rcases crewed.names allowed flying about begins rfl with ⟨uid, named⟩
      rcases courier_commits about named outcome with ⟨stored, found', kept⟩
      cases found.symm.trans found'
      rw [kept]
      exact Option.some_ne_none uid
    · apply (committed.row trivial row found).2 leg
      rw [← aim] at underway enters
      refine ⟨?_, underway, enters⟩
      cases advanced with
      | opened _ _ booked =>
        rcases booked.creates with ⟨customerUid, book, promo, rfl⟩
        have underway : .pricingValidated ∈ leg.assignedStatuses := underway
        exact absurd underway (by cases leg <;> decide)
      | moved old _ _ _ stands striding =>
        rw [← stands]
        exact (leg.underway_of_transition striding.allowed underway).resolve_left enters

/-- What a commit leaves to do has the couriers of what it has committed. -/
theorem Crews.follows (crews : Crews vetted
      (.transaction operation callback prepared document))
    (read : Read orderId state (.transaction operation callback prepared document))
    (committed : Crewed orderId vetted
      (fun leg => prepared.isNew = true ∨ callback.escorts prepared leg)
      (callback.escorts prepared) True database document')
    (advanced : Advanced orderId callback prepared state.database database
      document') (inserted : document'.isNew = false)
    (followed : callback.followUp operation document' = some call) :
    Crews vetted call := by
  unfold Callback.followUp at followed
  split at followed
  · rename_i first actorUid actorRole note next
    cases followed
    have names : document'.markAssignments.order.Vetted
        vetted := by
      intro leg uid named
      apply committed.names leg uid
      cases leg <;> exact named
    refine ⟨names, ?_, id, ?_⟩
    · rintro leg (isNew | ⟨underway, _⟩) _
      · have isNew : document'.isNew = true := isNew
        rw [inserted] at isNew
        cases isNew
      · have underway : document'.order.status ∈ leg.assignedStatuses := underway
        rw [advanced.plain] at underway
        exact (leg.resting_of_followUps read.continues underway).elim
    · intro isNew
      have isNew : document'.isNew = true := isNew
      rw [inserted] at isNew
      cases isNew
  · cases followed
    refine ⟨committed.names, ?_⟩
    intro leg
    apply committed.marks leg
    left
    rcases read with booked | ⟨existing, _⟩
    · rcases booked.orders with ⟨_, _, _, _, _, _, _, rfl, _⟩
      rfl
    · exact (existing _ _ _ rfl).elim
  · cases followed

end

def State.Listed (orderId : ObjectId) (state : State) (uid : Uid) : Prop :=
  (orderId, uid) ∈ state.vetted

theorem crew_obligations (orderId : ObjectId) :
    Obligations orderId (CrewedTimely orderId) (OnTime orderId)
      (fun state => state.database.Manned orderId (state.Listed orderId))
      (fun state => Crews (state.Listed orderId)) where
  beside := by
    intro state after beside manned
    apply Database.Manned.mono _ fun _ => beside.vetted _
    constructor
    · rw [beside.same.row]
      exact manned.vetted
    · rw [beside.same.row]
      exact manned.manned
  steady := fun _ _ _ beside _ crews =>
    crews.mono fun _ => beside.vetted _
  begun := by
    intro state action after call _ invariant _ beside begun about
    have grows : ∀ uid, state.Listed orderId uid →
        after.Listed orderId uid :=
      fun _ => beside.vetted _
    apply Crews.begun (invariant.good.mono grows) _ (fun _ => id) begun about
    exact fun other flying about' =>
      (invariant.sound other flying about').mono grows
  commit := by
    rintro state index environment clock operation callback prepared
      document database document' onTime invariant ⟨timely, allowed⟩ flying
      about crews outcome
    have read := onTime.sound _ (List.mem_of_getElem? flying) about
    have advanced := read.commits timely flying about outcome
    have manned := crews.commits invariant.good allowed flying about advanced outcome
    refine ⟨⟨manned, fun _ _ _ other => other⟩, ?_⟩
    intro call followed
    exact crews.follows read
      (crews.committed invariant.good about advanced outcome) advanced
      (read.inserted outcome) followed
  save := by
    rintro state index environment clock document row saved onTime invariant
      ⟨timely, _⟩ flying about ⟨names, marks⟩ outcome
    have read := onTime.sound _ (List.mem_of_getElem? flying) about
    rcases read.saves timely flying about outcome with ⟨old, found, rfl, stands⟩
    have status : (document.writeTo old).status = old.status := congrArg Prod.fst stands
    refine ⟨⟨?_, ?_⟩, fun _ _ _ other => other⟩
    · intro row found'
      cases (AList.lookup_insert _).symm.trans found'
      exact names.writeTo (invariant.good.vetted old found)
    · intro row found' leg underway
      cases (AList.lookup_insert _).symm.trans found'
      rw [status] at underway
      rw [document.courier_writeTo old leg]
      split
      · rename_i dirty
        exact marks leg dirty
      · exact invariant.good.manned old found leg underway

/-! ## Who is on the list -/

def Prepared.Needs (condition : Prop) : Prepared → Prop
  | .transaction _ _ => condition
  | _ => True

theorem Operation.assigns {environment : Environment} {actor : User}
    {row : OnlineOrder} {method : Operation} {staffUid : Uid}
    (assigns : method = .assignPickupStaff staffUid ∨ method = .assignReturnStaff staffUid)
    (prepares : method.prepare environment clock actor database row =
      .ok (.transaction callback prepared)) :
    courierRejection environment row staffUid = none := by
  have checked : Yields
      (method.prepare environment clock actor database row)
      (Prepared.Needs (courierRejection environment row staffUid = none)) := by
    rcases assigns with rfl | rfl
    all_goals
      apply Yields.checked
      split
      · exact Yields.pure trivial
      · rename_i free
        exact Yields.pure free
  exact checked _ prepares

/-- The run has called a method of assignment, and the check has passed. -/
inductive Assigned (castToObjectId : String → Option ObjectId)
    (admissible : State → Action → Prop) (orderId : ObjectId)
    (state : State) (uid : Uid) : Prop where
  | intro (environment : Environment) (clock : Clock) (actor : User)
      (method : Operation) (read : OnlineOrder) (earlier next : State)
      (assigns : method = .assignPickupStaff uid ∨ method = .assignReturnStaff uid)
      (reached : (orderSystem castToObjectId).Reaches admissible .start earlier)
      (called : (orderSystem castToObjectId).step
        (.request environment clock actor orderId method) earlier = some next)
      (continues : (orderSystem castToObjectId).Reaches admissible next state)
      (found : earlier.database.orders.lookup orderId = some read)
      (passed : courierRejection environment read uid = none)

section

variable {castToObjectId : String → Option ObjectId}
  {admissible : State → Action → Prop} {orderId : ObjectId}
  {state after : State} {uid : Uid}

theorem Assigned.next
    (assigned : Assigned castToObjectId admissible orderId state uid)
    {action : Action} (allowed : admissible state action)
    (stepped : (orderSystem castToObjectId).step action state = some after) :
    Assigned castToObjectId admissible orderId after uid := by
  cases assigned with
  | intro environment clock actor method read earlier next assigns reached
      called continues found passed =>
    exact .intro environment clock actor method read earlier next assigns
      reached called (.next continues allowed stepped) found passed

theorem stepCall_vetted (index : ℕ) (environment : Environment)
    (clock : Clock) (state : State) (call : Call) :
    (stepCall index environment clock state call).vetted =
      state.vetted := by
  cases call with
  | transaction operation callback prepared document =>
    simp only [stepCall, stepCommit]
    split
    · split <;> rfl
    · rfl
  | save document =>
    simp only [stepCall, stepSave]
    split <;> rfl
  | audit event =>
    simp only [stepCall, stepAudit]
    split <;> rfl
  | reserve claim document =>
    simp only [stepCall, stepReserve]
    split <;> rfl

variable {other : ObjectId} {method : Operation}

theorem State.claimExpired_vetted {claimed : State}
    (taken : state.claimExpired other method = some claimed) : claimed.vetted = state.vetted := by
  rw [State.claimExpired] at taken
  split at taken
  · split at taken
    · cases taken
      rfl
    · cases taken
  · cases taken
    rfl

theorem State.listed_vet (listed : (state.vet other method).Listed orderId uid) :
    state.Listed orderId uid ∨ other = orderId ∧
      (method = .assignPickupStaff uid ∨ method = .assignReturnStaff uid) := by
  have appended : ∀ staffUid,
      (orderId, uid) ∈ state.vetted ++ [(other, staffUid)] →
        state.Listed orderId uid ∨ other = orderId ∧ staffUid = uid := by
    intro staffUid member
    rcases List.mem_append.mp member with old | new
    · exact .inl old
    · cases List.mem_singleton.mp new
      exact .inr ⟨rfl, rfl⟩
  cases method with
  | assignPickupStaff staffUid =>
    exact (appended staffUid listed).imp_right fun same =>
      ⟨same.1, .inl (congrArg Operation.assignPickupStaff same.2)⟩
  | assignReturnStaff staffUid =>
    exact (appended staffUid listed).imp_right fun same =>
      ⟨same.1, .inr (congrArg Operation.assignReturnStaff same.2)⟩
  | _ => exact .inl listed

theorem listed_of_request {environment : Environment} {clock : Clock}
    {actor : User}
    (stepped : stepRequest environment clock actor other method state =
      some after) (listed : after.Listed orderId uid) :
    state.Listed orderId uid ∨ other = orderId ∧
      (method = .assignPickupStaff uid ∨ method = .assignReturnStaff uid) ∧
      ∃ read, state.database.orders.lookup orderId = some read ∧
        courierRejection environment read uid = none := by
  rw [stepRequest] at stepped
  split at stepped
  · rename_i claimed row taken found
    have same := State.claimExpired_vetted taken
    have database := (@State.Beside.of_claimExpired orderId _ _ _ _ taken).2.1
    have old : claimed.Listed orderId uid → state.Listed orderId uid := by
      rw [State.Listed, same]
      exact id
    split at stepped
    · cases stepped
    · cases stepped
      exact .inl (old listed)
    · cases stepped
      exact .inl (old listed)
    · cases stepped
      exact .inl (old listed)
    · rename_i callback document prepares
      cases stepped
      rcases State.listed_vet listed with before | ⟨rfl, assigns⟩
      · exact .inl (old before)
      · rw [database] at prepares
        exact .inr ⟨rfl, assigns, row, found, method.assigns assigns prepares⟩
  · cases stepped

/-- Only a request of an assignment puts anyone on the list. -/
theorem listed_of_step {action : Action}
    (stepped : step castToObjectId action state = some after)
    (listed : after.Listed orderId uid) :
    state.Listed orderId uid ∨
      ∃ environment clock actor method read, action =
          .request environment clock actor orderId method ∧
        (method = .assignPickupStaff uid ∨ method = .assignReturnStaff uid) ∧
        state.database.orders.lookup orderId = some read ∧
        courierRejection environment read uid = none := by
  cases action with
  | create market clock customer input other =>
    simp only [step, stepCreate] at stepped
    split at stepped
    · cases stepped
    · cases stepped
      exact .inl listed
  | request environment clock actor other method =>
    rcases listed_of_request stepped listed with
      old | ⟨rfl, assigns, read, found, passed⟩
    · exact .inl old
    · exact .inr ⟨environment, clock, actor, method, read, rfl, assigns, found, passed⟩
  | commit index environment clock =>
    rcases Option.map_eq_some_iff.mp stepped with ⟨call, _, rfl⟩
    rw [State.Listed, stepCall_vetted] at listed
    exact .inl listed
  | abort index budget clock =>
    simp only [step] at stepped
    split at stepped
    · rw [stepAbort] at stepped
      split at stepped
      · cases stepped
      · cases stepped
        exact .inl listed
    · cases stepped
  | crash | sweep | editPromos =>
    cases stepped
    exact .inl listed
  | wallet action =>
    simp only [step, stepWallet] at stepped
    split at stepped
    · cases stepped
    · split at stepped
      · cases stepped
      · cases stepped
        exact .inl listed

theorem assigned_of_reaches
    (reached : (orderSystem castToObjectId).Reaches admissible .start state)
    (listed : state.Listed orderId uid) :
    Assigned castToObjectId admissible orderId state uid := by
  induction reached with
  | refl => cases listed
  | @next state after action earlier allowed stepped induction =>
    rcases listed_of_step stepped listed with old | ⟨environment, clock,
      actor, method, read, rfl, assigns, found, passed⟩
    · exact (induction old).next allowed stepped
    · exact .intro environment clock actor method read state after assigns
        earlier stepped .refl found passed

end

/--
When every leg is given to a courier, a leg under way has one, who has passed the
check of couriers.
-/
theorem ridersAreNamed {castToObjectId : String → Option ObjectId}
    {orderId : ObjectId} {state : State} {row : OnlineOrder}
    {leg : CourierLeg}
    (reached : (orderSystem castToObjectId).Reaches (CrewedTimely orderId) .start state)
    (found : state.database.orders.lookup orderId = some row)
    (underway : row.status ∈ leg.assignedStatuses) :
    ∃ uid, row.courier leg = some uid ∧
      Assigned castToObjectId (CrewedTimely orderId) orderId state uid := by
  have invariant := (crew_obligations orderId).reaches
    (fun _ reached => onTime_of_reaches (fun _ _ both => both.1) reached)
    (by
      constructor <;>
        · intro row found
          simp [State.start] at found)
    reached
  rcases Option.ne_none_iff_exists'.mp
    (invariant.good.manned row found leg underway) with ⟨uid, named⟩
  exact ⟨uid, named, assigned_of_reaches reached (invariant.good.vetted row found leg uid named)⟩

def Shop.unassigned : List Action :=
  Shop.funding ++
    Shop.placing (Shop.booking .providerPickup .customerSelfPickup) ++
    Shop.calls Shop.owner .acceptOrder

/-- The owner of the shop sends its courier. -/
theorem ridersAreNamed_shop :
    ∃ state row uid,
      (orderSystem some).Reaches (CrewedTimely "order") .start state ∧
        state.database.orders.lookup "order" = some row ∧
        row.status = .pickupAssigned ∧ row.courier .pickup = some uid ∧
        Assigned some (CrewedTimely "order") "order" state uid := by
  have performed :
      (((orderSystem some).restrict (CrewedTimely "order")).perform
        (Shop.unassigned ++ Shop.calls Shop.owner (.assignPickupStaff "courier"))
        .start).bind (fun state =>
          (state.database.orders.lookup "order").map
            OnlineOrder.status) = some .pickupAssigned := by
    decide +kernel
  rcases System.reaches_of_bind_restrict performed with ⟨state, reached, seen⟩
  rcases Option.map_eq_some_iff.mp seen with ⟨row, found, status⟩
  rcases @ridersAreNamed some "order" state row .pickup reached found
    (by rw [status]; decide) with ⟨uid, named, assigned⟩
  exact ⟨state, row, uid, reached, found, status, named, assigned⟩

/-- The customer reschedules the pickup of an order that waits for a courier. -/
theorem riderNotNamed :
    ¬ ∀ (orderId : ObjectId) (state : State) (row : OnlineOrder)
        (leg : CourierLeg),
        (orderSystem some).Reaches (fun _ action => unforced orderId action)
            .start state →
          state.database.orders.lookup orderId = some row →
          row.status ∈ leg.assignedStatuses →
          ∃ uid, row.courier leg = some uid ∧
            Assigned some (fun _ action => unforced orderId action)
              orderId state uid := by
  intro always
  have performed :
      (((orderSystem some).restrict
          (fun _ action => unforced "order" action = true)).perform
        (Shop.unassigned ++ Shop.calls Shop.customer .reschedulePickup)
        .start).bind (fun state =>
          (state.database.orders.lookup "order").map fun row =>
            (row.status, row.courier .pickup)) =
        some (.pickupAssigned, none) := by
    decide +kernel
  rcases System.reaches_of_bind_restrict performed with ⟨state, ran, seen⟩
  rcases Option.map_eq_some_iff.mp seen with ⟨row, found, facts⟩
  rcases Prod.mk.inj facts with ⟨status, nobody⟩
  rcases always "order" state row .pickup
    ran found
    (by rw [status]; decide) with ⟨uid, named, _⟩
  rw [nobody] at named
  cases named

end Lalaba.Orders
