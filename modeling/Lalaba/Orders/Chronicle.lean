import Lalaba.Orders.Custody
import Lalaba.Orders.History

/-!
# The chronicle of an order

The rows that `createOrder` and the transitions write to the timeline of an order
are a path of the transition table from the draft to where the order stands, in the
order of their numbers.  Audit rows lie between them and share no number with them:
a row that would is not inserted.
-/

namespace Lalaba.Orders

open Foundation
open Foundation.Program

/-- What a step writes to the orders and to their timelines. -/
inductive Wrote (state : State) (action : Action) (after : State) : Prop where
  | nothing (orders : after.database.orders = state.database.orders)
      (events : after.database.events = state.database.events)
  | committed (index : ℕ) (environment : Environment) (clock : Clock)
      (operation : Option Operation) (callback : Callback)
      (prepared document document' : OrderDocument)
      (commits : action = .commit index environment clock)
      (flying : state.calls[index]? = some (.transaction operation callback prepared document))
      (outcome : (callback.program clock).commit state.database document =
        (.ok (), after.database, document'))
  | saved (index : ℕ) (environment : Environment) (clock : Clock)
      (document document' : OrderDocument) (row : OnlineOrder)
      (commits : action = .commit index environment clock)
      (flying : state.calls[index]? = some (.save document))
      (outcome : document.save
        (state.database.orders.lookup document.order._id) = .ok (row, document'))
      (stored : after.database = state.database.putOrder document.order._id row)
  | audited (event : OrderEvent)
      (flying : Call.audit event ∈ state.calls)
      (free : ∀ other ∈ state.database.events,
        other.orderId = event.orderId → other.sequence ≠ event.sequence)
      (appended : after.database = state.database.createEvent event)

variable {state : State} {database : Database}

theorem Wrote.of_database {after : State} {action : Action}
    (written : after.database = database)
    (orders : database.orders = state.database.orders)
    (events : database.events = state.database.events) :
    Wrote state action after :=
  .nothing (by rw [written, orders]) (by rw [written, events])

theorem stepCommit_wrote {index : ℕ} {environment : Environment} {clock : Clock}
    {operation : Option Operation} {callback : Callback}
    {prepared document : OrderDocument} (flying : state.calls[index]? =
      some (.transaction operation callback prepared document)) :
    Wrote state (.commit index environment clock)
      (stepCommit index clock operation callback document state) := by
  rw [stepCommit]
  rcases outcome : (callback.program clock).commit state.database document
    with ⟨failure | value, database, document'⟩
  · rcases Callback.failed outcome with ⟨promotions, rfl⟩
    exact .nothing rfl rfl
  · cases value
    have committed : ∀ after : State, after.database = database →
        Wrote state (.commit index environment clock) after := by
      rintro after rfl
      exact .committed index environment clock operation callback prepared
        document document' rfl flying outcome
    rcases followed : callback.followUp operation document' with _ | call
    · simp only [followed]
      exact committed _ rfl
    · simp only [followed]
      exact committed _ rfl

/-- Every step writes to the orders and their timelines in one of these ways. -/
theorem step_wrote {castToObjectId : String → Option ObjectId} {after : State}
    {action : Action} (stepped : step castToObjectId action state = some after) :
    Wrote state action after := by
  cases action with
  | create market clock customer input orderId =>
    rw [step, stepCreate] at stepped
    split at stepped
    · cases stepped
    · cases stepped
      exact .nothing rfl rfl
  | request environment clock actor orderId operation =>
    rw [step, stepRequest] at stepped
    split at stepped
    · rename_i claimed row taken found
      have same := (@State.Beside.of_claimExpired orderId _ _ _ _ taken).2.1
      split at stepped
      · cases stepped
      · cases stepped
        exact .of_database same rfl rfl
      · cases stepped
        exact .of_database same rfl rfl
      · cases stepped
        exact .of_database same rfl rfl
      · cases stepped
        have vetted := (@State.vet_database claimed orderId operation).1
        exact .of_database (vetted.trans same) rfl rfl
    · cases stepped
  | commit index environment clock =>
    rcases Option.map_eq_some_iff.mp stepped with ⟨call, flying, rfl⟩
    cases call with
    | transaction => exact stepCommit_wrote flying
    | save document =>
      rw [stepCall, stepSave]
      split
      · exact .nothing rfl rfl
      · rename_i row saved outcome
        exact .saved index environment clock document saved row rfl flying outcome rfl
    | audit event =>
      rw [stepCall, stepAudit]
      split
      · exact .nothing rfl rfl
      · rename_i free
        refine .audited event (List.mem_of_getElem? flying) ?_ rfl
        intro other member about number
        apply free
        exact List.any_eq_true.mpr ⟨other, member, by
          simp [about, number]⟩
    | reserve =>
      rw [stepCall, stepReserve]
      split <;> exact .nothing rfl rfl
  | abort index budget clock =>
    rw [step] at stepped
    split at stepped
    · rename_i operation callback prepared document flying
      rw [stepAbort] at stepped
      split at stepped
      · cases stepped
      · rename_i failure session ran
        cases stepped
        have confined := @Callback.confined clock callback state.database document (some budget)
        rcases confined.durable with ⟨promotions, durable⟩
        rw [ran] at durable
        exact .of_database durable rfl rfl
    · cases stepped
  | crash | sweep | editPromos =>
    cases stepped
    exact .nothing rfl rfl
  | wallet action =>
    rw [step, stepWallet] at stepped
    split at stepped
    · cases stepped
    · split at stepped
      · cases stepped
      · cases stepped
        exact .nothing rfl rfl

/-- A run that has written to the timeline of its own order only. -/
structure Foreign (database : Database) (orderId : ObjectId)
    (session : Session Database OrderDocument) : Prop where
  identified : session.memory.order._id = orderId
  events : ∀ other, other ≠ orderId → session.store.eventsOf other = database.eventsOf other

theorem eventsOf_createEvent_ne {orderId : ObjectId} {event : OrderEvent}
    (different : event.orderId ≠ orderId) :
    (database.createEvent event).eventsOf orderId =
      database.eventsOf orderId := by
  rw [Database.eventsOf, Database.eventsOf, Database.createEvent, List.filter_append]
  simp [different]

theorem Foreign.kept (database : Database) (orderId : ObjectId)
    (allowed : Touch → Prop) :
    Kept orderId allowed (Foreign database orderId) where
  identified := fun _ foreign => foreign.identified
  spent := fun _ foreign => ⟨foreign.identified, foreign.events⟩
  save := by
    intro session row saved foreign ran
    refine ⟨?_, foreign.events⟩
    rw [OrderDocument.save_saved ran]
    exact foreign.identified
  update := by
    intro session expected patch store foreign ran
    rcases updateOrder_ok.mp ran with ⟨row, _, _, rfl⟩
    exact ⟨foreign.identified, foreign.events⟩
  record := by
    rintro session event foreign rfl
    refine ⟨foreign.identified, ?_⟩
    intro other different
    rw [eventsOf_createEvent_ne (Ne.symm different)]
    exact foreign.events other different
  move := fun _ _ _ _ _ foreign _ => ⟨foreign.identified, foreign.events⟩
  receive := fun _ _ foreign _ => ⟨foreign.identified, foreign.events⟩
  promote := fun _ _ foreign => ⟨foreign.identified, foreign.events⟩
  outside := fun _ _ _ foreign => ⟨foreign.identified, foreign.events⟩
  touch := by
    intro session touch _ foreign
    refine ⟨?_, foreign.events⟩
    exact (touch.spares _).identified.trans foreign.identified

theorem Callback.eventsOf_other {callback : Callback} {clock : Clock}
    {after : Database} {document document' : OrderDocument} {orderId : ObjectId}
    (different : orderId ≠ document.order._id)
    (outcome : (callback.program clock).commit database document = (.ok (), after, document')) :
    after.eventsOf orderId = database.eventsOf orderId := by
  rcases commit_ok.mp outcome with ⟨finish, ran, rfl, _⟩
  have kept : Keeps (Foreign database document.order._id)
      (callback.program clock) :=
    (Foreign.kept _ _ callback.touches).program
  have foreign := kept ⟨database, database, document, none⟩ ⟨rfl, fun _ _ => rfl⟩
  rw [ran] at foreign
  exact foreign.events orderId different

/-- A row that `createOrder` or a transition has written. -/
def OrderEvent.written (event : OrderEvent) : Bool := event.isTransition || event.fromStatus.isNone

def Database.historyOf (orderId : ObjectId) (database : Database) :
    List OrderEvent :=
  (database.eventsOf orderId).filter OrderEvent.written

/--
Rows in the order of their numbers that lead along the transition table from the
draft to a status, each from where the one before it has led.
-/
inductive Chronicle (orderId : ObjectId) : List OrderEvent → OrderStatus → Prop where
  | created (row : OrderEvent) (about : row.orderId = orderId)
      (first : row.fromStatus = none) (draft : row.toStatus = .draft) :
      Chronicle orderId [row] .draft
  | moved {rows : List OrderEvent} {current : OrderStatus}
      (row : OrderEvent) (earlier : Chronicle orderId rows current)
      (about : row.orderId = orderId)
      (allowed : row.toStatus ∈ current.transitions)
      (leaves : row.fromStatus = some current)
      (later : ∀ other ∈ rows, other.sequence < row.sequence) :
      Chronicle orderId (rows ++ [row]) row.toStatus

namespace Strides

variable {orderId : ObjectId} {origin current : OrderStatus} {last : ℕ} {rows : List OrderEvent}

theorem numbers (strides : Strides orderId origin last rows current) :
    rows.map OrderEvent.sequence = List.range' (last + 1) rows.length := by
  induction strides with
  | stay => rfl
  | step row earlier _ _ _ _ numbered induction =>
    rw [List.map_append, induction, List.length_append, List.range'_append.symm]
    congr 1
    rw [List.map_singleton, numbered]
    simp [add_right_comm]

theorem chronicle {earlier : List OrderEvent}
    (strides : Strides orderId origin last rows current)
    (before : Chronicle orderId earlier origin)
    (bounded : ∀ row ∈ earlier, row.sequence ≤ last) :
    Chronicle orderId (earlier ++ rows) current := by
  induction strides with
  | stay => rwa [List.append_nil]
  | @step rows current row walked allowed leaves about _ numbered induction =>
    rw [← List.append_assoc]
    refine .moved row induction about allowed leaves ?_
    intro other member
    rw [numbered]
    rcases List.mem_append.mp member with old | new
    · have bound := bounded other old
      omega
    · have listed : other.sequence ∈ List.range' (last + 1) rows.length := by
        rw [← walked.numbers]
        exact List.mem_map_of_mem new
      have bound := List.mem_range'_1.mp listed
      omega

end Strides

section

variable {orderId : ObjectId} {base database : Database}

theorem sequence_le_last {event : OrderEvent}
    (member : event ∈ database.eventsOf orderId) :
    event.sequence ≤ database.lastSequence orderId := by
  have le_max : ∀ numbers : List ℕ, ∀ number ∈ numbers, number ≤ numbers.foldr max 0 := by
    intro numbers
    induction numbers with
    | nil => exact nofun
    | cons first rest induction =>
      intro number member
      rcases List.mem_cons.mp member with rfl | old
      · exact le_max_left _ _
      · exact (induction number old).trans (le_max_right _ _)
  apply le_max
  apply List.mem_map_of_mem
  rcases List.mem_filter.mp member with ⟨stored, about⟩
  exact List.mem_filter.mpr ⟨stored, by simpa using about⟩

theorem historyOf_append {rows : List OrderEvent}
    (appended : database.eventsOf orderId = base.eventsOf orderId ++ rows)
    (written : ∀ row ∈ rows, row.written = true) :
    database.historyOf orderId = base.historyOf orderId ++ rows := by
  rw [Database.historyOf, appended, List.filter_append, List.filter_eq_self.mpr written]
  rfl

/-- What the timeline of an order says of it. -/
structure Recorded (orderId : ObjectId) (place : OrderStatus × ℕ) (database : Database) : Prop where
  chronicle : Chronicle orderId (database.historyOf orderId) place.1
  counted : (database.historyOf orderId).length = place.2 + 1
  numbered : ((database.eventsOf orderId).map OrderEvent.sequence).Nodup

theorem Recorded.strides {pickupMode : FulfillmentPickupMode}
    {origin : OrderStatus} {version : ℕ} {walked : List OrderStatus}
    {document : OrderDocument}
    (recorded : Recorded orderId (origin, version) base)
    (striding : Striding orderId pickupMode base origin version walked database document) :
    Recorded orderId document.order.place database := by
  rcases striding.strides with ⟨rows, appended, strides, walk, _⟩
  have length : rows.length = walked.length := by
    rw [← walk, List.length_map]
  have history : database.historyOf orderId = base.historyOf orderId ++ rows := by
    apply historyOf_append appended
    intro row member
    simp [OrderEvent.written, (strides.mem member).2]
  constructor
  · rw [history]
    apply strides.chronicle recorded.chronicle
    exact fun row member => sequence_le_last (List.mem_filter.mp member).1
  · rw [history, List.length_append, recorded.counted, length]
    show version + 1 + walked.length = document.order.version + 1
    rw [striding.version]
    omega
  · rw [appended, List.map_append]
    apply recorded.numbered.append
    · rw [strides.numbers]
      exact List.nodup_range'
    · intro number old new
      rcases List.mem_map.mp old with ⟨row, member, rfl⟩
      have bound := sequence_le_last member
      rw [strides.numbers] at new
      have after := (List.mem_range'_1.mp new).1
      omega

theorem Recorded.creation {customerUid : Uid}
    (unwritten : base.eventsOf orderId = []) :
    Recorded orderId (.draft, 0) (base.createEvent (creationEvent orderId customerUid)) := by
  have appended := @eventsOf_createEvent orderId (creationEvent orderId customerUid) base rfl
  rw [unwritten, List.nil_append] at appended
  have history : (base.createEvent
      (creationEvent orderId customerUid)).historyOf orderId =
        [creationEvent orderId customerUid] := by
    rw [Database.historyOf, appended]
    rfl
  constructor
  · rw [history]
    exact .created _ rfl rfl rfl
  · rw [history]
    rfl
  · rw [appended]
    exact List.nodup_singleton _

theorem Recorded.audit {place : OrderStatus × ℕ} {event : OrderEvent}
    (recorded : Recorded orderId place base)
    (about : event.orderId = orderId) (audit : event.written = false)
    (free : ∀ other ∈ base.events, other.orderId = event.orderId →
      other.sequence ≠ event.sequence) :
    Recorded orderId place (base.createEvent event) := by
  have appended := @eventsOf_createEvent orderId event base about
  have history : (base.createEvent event).historyOf orderId =
      base.historyOf orderId := by
    rw [Database.historyOf, appended, List.filter_append]
    simp [audit, Database.historyOf]
  constructor
  · rw [history]
    exact recorded.chronicle
  · rw [history]
    exact recorded.counted
  · rw [appended, List.map_append]
    apply recorded.numbered.append (List.nodup_singleton _)
    intro number old new
    rcases List.mem_map.mp old with ⟨row, member, rfl⟩
    rcases List.mem_filter.mp member with ⟨stored, owner⟩
    apply free row stored
    · rw [about]
      simpa using owner
    · exact List.mem_singleton.mp new

end

theorem audit_of_step {castToObjectId : String → Option ObjectId}
    {state after : State} {action : Action} {event : OrderEvent}
    (tidy : state.Tidy)
    (stepped : step castToObjectId action state = some after)
    (member : Call.audit event ∈ after.calls) :
    Call.audit event ∈ state.calls ∨
      event.written = false ∧ state.database.orders.lookup event.orderId ≠ none := by
  have cases := @step_cases event.orderId _ _ _ tidy _ stepped
  cases cases with
  | aside _ calls =>
    rcases calls _ member rfl with old | begun
    · exact .inl old
    · cases begun with
      | audited _ audit repeats stored =>
        refine .inr ⟨?_, stored⟩
        rw [OrderEvent.written, audit, Bool.false_or, Option.isNone_eq_false_iff]
        exact Option.isSome_iff_ne_none.mpr repeats
  | committed _ _ _ _ callback _ _ _ _ _ _ _ _ _ calls =>
    rcases calls _ member with old | followed
    · exact .inl old
    · unfold Callback.followUp at followed
      split at followed <;> cases followed
  | saved _ _ _ _ _ _ _ _ _ _ _ calls => exact .inl (calls _ member)

/-- The timeline of an order, and the audit rows that wait to be appended. -/
structure Chronicled (orderId : ObjectId) (state : State) : Prop where
  audits : ∀ event, Call.audit event ∈ state.calls →
    event.orderId = orderId → event.written = false ∧ state.database.orders.lookup orderId ≠ none
  unwritten : state.database.orders.lookup orderId = none → state.database.eventsOf orderId = []
  recorded : ∀ row, state.database.orders.lookup orderId = some row →
    Recorded orderId row.place state.database

section

variable {castToObjectId : String → Option ObjectId} {orderId : ObjectId}
  {state after : State} {action : Action}

theorem Chronicled.quiet (chronicled : Chronicled orderId state)
    (audits : ∀ event, Call.audit event ∈ after.calls → event.orderId = orderId →
        event.written = false ∧ after.database.orders.lookup orderId ≠ none)
    (events : after.database.eventsOf orderId = state.database.eventsOf orderId)
    (rows : (after.database.orders.lookup orderId).map OnlineOrder.place =
      (state.database.orders.lookup orderId).map OnlineOrder.place) :
    Chronicled orderId after := by
  refine ⟨audits, ?_, ?_⟩
  · intro absent
    rw [absent, Option.map_none, eq_comm, Option.map_eq_none_iff] at rows
    rw [events]
    exact chronicled.unwritten rows
  · intro row found
    rw [found, Option.map_some, eq_comm, Option.map_eq_some_iff] at rows
    rcases rows with ⟨old, found', stands⟩
    have recorded := chronicled.recorded old found'
    rw [stands] at recorded
    refine ⟨?_, ?_, ?_⟩
    · rw [Database.historyOf, events]
      exact recorded.chronicle
    · rw [Database.historyOf, events]
      exact recorded.counted
    · rw [events]
      exact recorded.numbered

theorem Chronicled.committed {index : ℕ} {environment : Environment}
    {clock : Clock} {operation : Option Operation} {callback : Callback}
    {prepared document document' : OrderDocument}
    (chronicled : Chronicled orderId state)
    (onTime : OnTime orderId state)
    (timely : Timely orderId state (.commit index environment clock))
    (flying : state.calls[index]? = some (.transaction operation callback prepared document))
    (about : document.order._id = orderId)
    (outcome : (callback.program clock).commit state.database document =
      (.ok (), after.database, document'))
    (audits : ∀ event, Call.audit event ∈ after.calls → event.orderId = orderId →
        event.written = false ∧ after.database.orders.lookup orderId ≠ none) :
    Chronicled orderId after := by
  have read := onTime.sound _ (List.mem_of_getElem? flying) about
  have advanced := read.commits timely flying about outcome
  rcases advanced.stored with ⟨row, found, stands⟩
  refine ⟨audits, ?_, ?_⟩
  · intro absent
    rw [found] at absent
    cases absent
  · intro other found'
    cases found.symm.trans found'
    rw [stands]
    cases advanced with
    | opened customerUid _ _ absent striding =>
      exact (Recorded.creation (chronicled.unwritten absent)).strides striding
    | moved old _ _ lookup _ striding =>
      exact (chronicled.recorded old lookup).strides striding

/-- A step of a timely run keeps the chronicle of an order. -/
theorem Chronicled.step (tidy : state.Tidy) (onTime : OnTime orderId state)
    (chronicled : Chronicled orderId state)
    (timely : Timely orderId state action)
    (stepped : (orderSystem castToObjectId).step action state = some after) :
    Chronicled orderId after := by
  have onward := onTime.step tidy timely stepped
  have audits : ∀ event, Call.audit event ∈ after.calls →
      event.orderId = orderId → event.written = false ∧
        after.database.orders.lookup orderId ≠ none := by
    intro event member about
    have before : event.written = false ∧ state.database.orders.lookup orderId ≠ none := by
      rcases audit_of_step tidy stepped member with old | new
      · exact chronicled.audits event old about
      · rwa [about] at new
    refine ⟨before.1, ?_⟩
    rcases Option.ne_none_iff_exists'.mp before.2 with ⟨row, found⟩
    rcases onward row found with ⟨later, found', _⟩
    rw [found']
    exact Option.some_ne_none _
  cases step_wrote stepped with
  | nothing orders events =>
    apply chronicled.quiet audits
    · rw [Database.eventsOf, events]
      rfl
    · rw [orders]
  | committed index environment clock operation callback prepared document
      document' commits flying outcome =>
    subst commits
    by_cases about : document.order._id = orderId
    · exact chronicled.committed onTime timely flying about outcome audits
    · have different : orderId ≠ document.order._id := Ne.symm about
      apply chronicled.quiet audits
      · exact Callback.eventsOf_other different outcome
      · have same := (Callback.succeeded outcome).2.1 orderId different
        rw [same.row]
  | saved index environment clock document document' row commits flying outcome stored =>
    subst commits
    apply chronicled.quiet audits
    · rw [stored]
      rfl
    · rw [stored]
      by_cases about : document.order._id = orderId
      · subst about
        have read := onTime.sound _ (List.mem_of_getElem? flying) rfl
        rcases read.saves timely flying rfl outcome with ⟨old, found, _, stands⟩
        rw [Database.putOrder, AList.lookup_insert, found, Option.map_some, Option.map_some, stands]
      · rw [Database.putOrder, AList.lookup_insert_ne (Ne.symm about)]
  | audited event flying free appended =>
    by_cases about : event.orderId = orderId
    · rcases chronicled.audits event flying about with ⟨audit, stored⟩
      refine ⟨audits, ?_, ?_⟩
      · intro absent
        rw [appended] at absent
        exact (stored absent).elim
      · intro row found
        rw [appended] at found ⊢
        exact (chronicled.recorded row found).audit about audit free
    · apply chronicled.quiet audits
      · rw [appended]
        exact eventsOf_createEvent_ne about
      · rw [appended]
        rfl

theorem chronicled_of_reaches
    (reached : (orderSystem castToObjectId).Reaches (Timely orderId) .start state) :
    Chronicled orderId state := by
  apply reached.layered (fun state => state.Tidy ∧ OnTime orderId state)
  · exact fun state reached => ⟨State.Tidy.of_reaches reached,
      onTime_of_reaches (fun _ _ timely => timely) reached⟩
  · constructor
    · intro event member
      simp [State.start] at member
    · exact fun _ => rfl
    · intro row found
      simp [State.start] at found
  · rintro state action after ⟨tidy, onTime⟩ chronicled timely stepped
    exact chronicled.step tidy onTime timely stepped

end

def orderly (orderId : ObjectId) (state : State) (action : Action) :
    Bool :=
  match action with
  | .commit index _ _ =>
    match state.calls[index]? with
    | some (.save _) => true
    | _ => timely orderId state action
  | _ => true

def Codeless : Call → Prop
  | .transaction _ callback _ _ => ∀ customerUid book claim,
      callback ≠ .create customerUid book (some claim)
  | .save document =>
    .status ∉ document.modified ∧ .version ∉ document.modified
  | .reserve _ _ => False
  | .audit _ => True

theorem codeless_obligations (orderId : ObjectId) :
    Obligations orderId (fun _ action => codeless orderId action = true)
      (fun _ => True) (fun _ => True) (fun _ => Codeless) where
  beside := fun _ _ _ _ => trivial
  steady := fun _ _ _ _ _ codeless => codeless
  begun := by
    intro state action after call _ invariant allowed _ begun about
    cases begun with
    | booked market clock customer input callback document requested ordered =>
      subst requested
      intro customerUid book claim creates
      have uncoded : input.promoCode = none := by
        simpa [codeless] using allowed
      rcases createOrder_yields _ ordered with ⟨_, _, _, _, _, _, _, _, _, _, equal⟩
      rw [(Prod.mk.inj equal).1, requestedCode, uncoded] at creates
      cases creates
    | drafted environment clock actor method row callback document _ _ _ found prepares =>
      have drafted : Drafted actor row method callback document := method.drafts _ prepares
      rintro _ _ _ rfl
      exact drafted.fits
    | amended environment clock actor method row document _ _ prepares =>
      have amended : Amended row document := method.drafts _ prepares
      constructor
      · exact fun dirty => absurd (amended.clean dirty) (by decide)
      · exact fun dirty => absurd (amended.clean dirty) (by decide)
    | audited => trivial
    | aborted index budget clock operation callback prepared document _ flying =>
      have confined := @Callback.confined clock callback state.database document (some budget)
      have about' : document.order._id = orderId := confined.identified.symm.trans about
      have uncoded : Codeless
          (.transaction operation callback prepared document) :=
        invariant.sound _ (List.mem_of_getElem? flying) about'
      exact uncoded
    | reserved index environment clock claim document promoId _ flying =>
      exact (invariant.sound _ (List.mem_of_getElem? flying) about).elim
  commit := by
    intro state index environment clock operation callback prepared document
      database document' _ _ _ _ _ uncoded _
    refine ⟨⟨trivial, fun _ _ _ other => other⟩, ?_⟩
    intro call followed
    unfold Callback.followUp at followed
    split at followed
    · cases followed
      exact nofun
    · exact (uncoded _ _ _ rfl).elim
    · cases followed
  save := fun _ _ _ _ _ _ _ _ _ _ _ _ _ _ =>
    ⟨trivial, fun _ _ _ other => other⟩

theorem timely_of_codeless {castToObjectId : String → Option ObjectId}
    {orderId : ObjectId} {state : State}
    (reached : (orderSystem castToObjectId).Reaches
      (fun state action => codeless orderId action = true ∧
        orderly orderId state action = true) .start state) :
    (orderSystem castToObjectId).Reaches (Timely orderId) .start state := by
  induction reached with
  | refl => exact .refl
  | @next state after action earlier allowed stepped induction =>
    refine .next induction ?_ stepped
    have uncoded := (codeless_obligations orderId).reaches
      (fun _ _ => trivial) trivial (earlier.weaken fun _ _ both => both.1)
    have orderly := allowed.2
    unfold Orders.orderly at orderly
    split at orderly
    · split at orderly
      · rename_i index environment clock _ document flying
        have member := List.mem_of_getElem? flying
        by_cases about : document.order._id = orderId
        · rcases uncoded.sound _ member about with ⟨status, version⟩
          rw [Timely, timely, flying]
          rcases state.database.orders.lookup orderId with _ | row
          · simp [OrderDocument.inStep]
          · simp [OrderDocument.inStep, status, version]
        · simp [Timely, timely, flying, about]
      · exact orderly
    · rename_i other
      unfold Timely timely
      split
      · exact (other _ _ _ rfl).elim
      · rfl

/--
The timeline of an order without a code replays to the order: the rows of the
creation and of the transitions lead from the draft to its status, one for each
version, and no two rows have the same number.
-/
theorem timelineReplays {castToObjectId : String → Option ObjectId}
    {orderId : ObjectId} {state : State} {row : OnlineOrder}
    (reached : (orderSystem castToObjectId).Reaches
      (fun state action => codeless orderId action = true ∧
        orderly orderId state action = true) .start state)
    (found : state.database.orders.lookup orderId = some row) :
    Chronicle orderId (state.database.historyOf orderId) row.status ∧
      (state.database.historyOf orderId).length = row.version + 1 ∧
      ((state.database.eventsOf orderId).map OrderEvent.sequence).Nodup := by
  have recorded := (chronicled_of_reaches (timely_of_codeless reached)).recorded row found
  exact ⟨recorded.chronicle, recorded.counted, recorded.numbered⟩

/-- The timeline of the shop's accepted order replays to it. -/
theorem timelineReplays_shop :
    ∃ state row,
      (orderSystem some).Reaches
          (fun state action => codeless "order" action = true ∧
            orderly "order" state action = true) .start state ∧
        state.database.orders.lookup "order" = some row ∧
        (Chronicle "order" (state.database.historyOf "order")
            row.status ∧
          (state.database.historyOf "order").length = row.version + 1 ∧
          ((state.database.eventsOf "order").map OrderEvent.sequence).Nodup) := by
  have performed : (((orderSystem some).restrict fun state action =>
          codeless "order" action = true ∧ orderly "order" state action = true).perform Shop.washed
        .start).bind (fun state =>
          (state.database.orders.lookup "order").map
            OnlineOrder.status) = some .awaitingCustomerPickup := by
    decide +kernel
  rcases System.reaches_of_bind_restrict performed with ⟨state, reached, seen⟩
  rcases Option.map_eq_some_iff.mp seen with ⟨row, found, _⟩
  exact ⟨state, row, reached, found, timelineReplays reached found⟩

/--
The customer chooses how the laundry comes back between the two transitions of
`markLaundryReady`, and the second of them is made once more.
-/
def readyTwice : List Action :=
  Shop.accepted ++
    Shop.calls Shop.owner (.receiveAtCounter Shop.deferred) ++
    Shop.calls Shop.owner .markLaundryReady ++
    [ Shop.requests Shop.customer (.chooseReturnOption .customerSelfPickup),
      .commit 1 Shop.environment (Shop.clock 2), Shop.proceeds ]

/-- The timeline has more rows than the order has had versions. -/
theorem timelineDoesNotReplay :
    ¬ ∀ (orderId : ObjectId) (state : State) (row : OnlineOrder),
        (orderSystem some).Reaches (fun _ action => codeless orderId action = true) .start state →
        state.database.orders.lookup orderId = some row →
        Chronicle orderId (state.database.historyOf orderId) row.status ∧
          (state.database.historyOf orderId).length = row.version + 1 ∧
          ((state.database.eventsOf orderId).map OrderEvent.sequence).Nodup := by
  intro always
  have performed : (((orderSystem some).restrict fun _ action =>
          codeless "order" action = true).perform readyTwice .start).bind
        (fun state =>
          (state.database.orders.lookup "order").map fun row =>
            ((state.database.historyOf "order").length, row.version)) =
        some (9, 7) := by
    decide +kernel
  rcases System.reaches_of_bind_restrict performed with ⟨state, ran, seen⟩
  rcases Option.map_eq_some_iff.mp seen with ⟨row, found, counts⟩
  simp only [Prod.mk.injEq] at counts
  have replays := always "order" state row ran found
  rw [counts.1, counts.2] at replays
  exact absurd replays.2.1 (by decide)

end Lalaba.Orders
