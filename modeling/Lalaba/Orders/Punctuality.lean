import Lalaba.Orders.Clocks

/-!
# Clocks that are right

In a timely run the document of a call has the clocks of the row it is about to
write, and the bill that the deadline depends on.  So the deadline of an order runs
exactly while it waits for a customer who still owes something, and its promise is
made once and kept.  A second transition that an untimely run leaves behind can set
a deadline for an order that is paid and gone.
-/

namespace Lalaba.Orders

open Foundation
open Foundation.Program

/-! ## What the calls know of the clocks -/

/-- The document of a call has read this row. -/
structure Abreast (callback : Callback) (prepared : OrderDocument) (row : OnlineOrder) : Prop where
  clocks : row.clocks = prepared.order.clocks
  bill : callback.chargeless → callback.aim ≠ .laundryInProgress →
    row.status ≠ .pendingProviderAcceptance → row.bill = prepared.order.bill

/-- What a call in flight knows of the clocks and of the bill of its order. -/
def Timed (orderId : ObjectId) (state : State) : Call → Prop
  | .transaction _ callback prepared document =>
    (callback.untimed = true → prepared.order.abandonmentDeadlineAt = none →
          Untold orderId prepared.order.clocks document) ∧
      (callback.untimed = false → Drifted orderId prepared document) ∧
      (callback.chargeless → document.order.bill = prepared.order.bill) ∧
      ((∀ customerUid book promo, callback ≠ .create customerUid book promo) →
        ∀ row, state.database.orders.lookup orderId = some row →
          row.place = callback.origin prepared → Abreast callback prepared row)
  | .save document =>
    document.Silent ∧
      (.pricing ∈ document.modified ∨ .paymentSummary ∈ document.modified →
        .status ∈ document.modified ∧ document.order.status = .pendingProviderAcceptance)
  | .reserve _ document =>
    document.Silent ∧ .status ∈ document.modified ∧
      document.order.status = .pendingProviderAcceptance
  | .audit _ => True

/-- The clocks of an order are right. -/
structure OnlineOrder.Punctual (order : OnlineOrder) (transitions : List OrderEvent) : Prop where
  dated : order.abandonmentDeadlineAt ≠ none → order.status.abandonmentWaiting = true
  due : order.Due
  promised : order.turnaround.promisedCompletionAt ≠ none ↔
    order.turnaround.express ∧ .laundryInProgress ∈ transitions.map OrderEvent.toStatus

/-- What is known of the clocks of an order. -/
structure Database.Punctual (orderId : ObjectId) (database : Database) : Prop where
  unborn : database.orders.lookup orderId = none → database.transitionsOf orderId = []
  row : ∀ row, database.orders.lookup orderId = some row →
    row.Punctual (database.transitionsOf orderId)

section

variable {orderId : ObjectId} {state after : State} {action : Action}
  {clock : Clock} {operation : Option Operation} {callback : Callback}
  {prepared document document' : OrderDocument} {database : Database}

variable {index : ℕ} {environment : Environment} {call : Call} {row : OnlineOrder}

theorem Timed.onward (timed : Timed orderId state call)
    (same : state.database.SameFor orderId after.database) :
    Timed orderId after call := by
  cases call with
  | transaction =>
    rcases timed with ⟨untold, drifted, bill, abreast⟩
    refine ⟨untold, drifted, bill, ?_⟩
    intro existing row found
    rw [same.row] at found
    exact abreast existing row found
  | save | reserve => exact timed
  | audit => trivial

/-- A new call has read the clocks and the bill of its order. -/
theorem Timed.begun (timed : ∀ other ∈ state.calls, other.orderId = orderId →
      Timed orderId state other) (beside : state.Beside orderId after)
    (begun : Begun orderId state action after call)
    (about : call.orderId = orderId) : Timed orderId after call := by
  cases begun with
  | booked _ _ _ _ callback document _ ordered =>
    have booked := createOrder_books _ ordered
    rcases booked.creates with ⟨_, _, _, rfl⟩
    refine ⟨fun _ _ => ⟨about, rfl, ?_⟩, nofun, nofun, ?_⟩
    · rcases booked.orders with ⟨_, _, _, _, _, _, _, rfl, _⟩
      intro path member
      cases Finset.notMem_empty path member
    · exact fun existing => (existing _ _ _ rfl).elim
  | drafted environment clock actor method row callback document _ _ _ found prepares =>
    have drafted : Drafted actor row method callback document := method.drafts _ prepares
    have clocks : document.order.clocks = row.clocks := method.keepsClocks _ prepares
    rcases method.edited _ prepares with ⟨edited, _⟩
    refine ⟨fun _ _ => ⟨about, rfl, edited.silent⟩,
      fun _ => ⟨about, le_rfl, fun _ => rfl⟩, fun _ => rfl, ?_⟩
    intro _ stored found' _
    rw [beside.same.row, found] at found'
    cases found'
    refine ⟨clocks.symm, ?_⟩
    intro chargeless aim _
    cases callback with
    | saveThenTransition =>
      rcases drafted.fits with ⟨_, _, same | ⟨resumes, _⟩⟩
      · exact Prod.ext (congrArg Standing.due same).symm (congrArg Standing.collected same).symm
      · exact (aim resumes).elim
    | _ => exact chargeless.elim
  | amended environment clock actor method row document _ _ prepares =>
    have amended : Amended row document := method.drafts _ prepares
    rcases method.edited _ prepares with ⟨edited, _⟩
    refine ⟨edited.silent, ?_⟩
    rintro (marked | marked)
    · have path := amended.clean marked
      simp at path
    · have path := amended.clean marked
      simp at path
  | audited => trivial
  | aborted index budget clock operation callback prepared document _ flying =>
    have confined := @Callback.confined clock callback state.database document (some budget)
    have about' : document.order._id = orderId := confined.identified.symm.trans about
    rcases timed _ (List.mem_of_getElem? flying) about' with ⟨untold, drifted, bill, abreast⟩
    let session : Session Database OrderDocument :=
      ⟨state.database, state.database, document, some budget⟩
    refine ⟨?_, ?_, ?_, ?_⟩
    · intro untimed undated
      exact (Untold.rests orderId prepared.order.clocks).kept.runs
        (Callback.allows_silent untimed undated) session
        (untold untimed undated)
    · intro timed
      have keeps : callback.resets = false := by
        cases callback <;> first | rfl | cases timed
      exact (Drifted.rests orderId prepared).kept.runs
        (Callback.allows_advances keeps) session (drifted timed)
    · intro chargeless
      exact ((bill_rests orderId prepared.order.bill).kept.runs
        (Callback.allows_patches chargeless) session ⟨about', bill chargeless⟩).2
    · intro existing row found
      rw [beside.same.row] at found
      exact abreast existing row found
  | reserved index environment clock claim document promoId _ flying =>
    have timed : document.Silent ∧ .status ∈ document.modified ∧
        document.order.status = .pendingProviderAcceptance :=
      timed _ (List.mem_of_getElem? flying) about
    refine ⟨?_, fun _ => ⟨Finset.mem_insert_of_mem timed.2.1, timed.2.2⟩⟩
    intro path member
    rcases Finset.mem_insert.mp member with rfl | old
    · rfl
    · exact timed.1 path old

theorem not_waiting_of_accepted {source : OrderStatus}
    (allowed : .acceptedByProvider ∈ source.transitions) :
    source.abandonmentWaiting = false := by
  revert allowed
  cases source <;> decide

/-- In a timely commit the document has the clocks of the row. -/
theorem Timed.synchronous (timed : Timed orderId state
      (.transaction operation callback prepared document))
    (timely : Timely orderId state (.commit index environment clock))
    (flying : state.calls[index]? = some (.transaction operation callback prepared document))
    (about : document.order._id = orderId) (existing : ∀ customerUid book promo,
      callback ≠ .create customerUid book promo)
    (found : state.database.orders.lookup orderId = some row)
    (stands : row.place = callback.origin prepared)
    (allowed : callback.aim ∈ row.status.transitions)
    (dated : row.abandonmentDeadlineAt ≠ none → row.status.abandonmentWaiting = true)
    (outcome : (callback.program clock).commit state.database document =
      (.ok (), database, document')) :
    row.clocks = document.order.clocks := by
  rcases timed with ⟨untold, drifted, _, abreast⟩
  have clocks := (abreast existing row found stands).clocks
  rw [clocks]
  rcases untimed : callback.untimed with _ | _
  · have keeps : callback.resets = false := by
      cases callback <;> first | rfl | cases untimed
    have begins : callback.aim ∈ document.order.status.transitions := by
      have first := (Callback.strides existing outcome).allowed
      cases callback <;> first | exact first | cases keeps
    have still := (timely.transaction flying about keeps begins).1
    exact ((drifted untimed).clocks (congrArg Prod.snd still)).symm
  · cases callback with
    | create => exact (existing _ _ _ rfl).elim
    | accept =>
      have undated : prepared.order.abandonmentDeadlineAt = none := by
        by_contra deadline
        have same : row.abandonmentDeadlineAt =
            prepared.order.abandonmentDeadlineAt :=
          congrArg Prod.snd clocks
        rw [← same] at deadline
        have waits := dated deadline
        rw [not_waiting_of_accepted allowed] at waits
        cases waits
      exact (untold untimed undated).clocks.symm
    | _ => cases untimed

theorem Booked.clocks
    (booked : Booked orderId callback prepared) :
    prepared.order.turnaround.promisedCompletionAt = none ∧
      prepared.order.abandonmentDeadlineAt = none ∧
      prepared.isNew = true := by
  rcases booked.orders with ⟨_, _, _, _, _, _, _, rfl, _⟩
  exact ⟨rfl, rfl, rfl⟩

/-- What a timely commit does to the clocks of its order. -/
theorem Timed.ticks (timed : Timed orderId state
      (.transaction operation callback prepared document))
    (timely : Timely orderId state (.commit index environment clock))
    (flying : state.calls[index]? = some (.transaction operation callback prepared document))
    (about : document.order._id = orderId)
    (advanced : Advanced orderId callback prepared state.database database
      document') (punctual : state.database.Punctual orderId)
    (outcome : (callback.program clock).commit state.database document =
      (.ok (), database, document')) :
    ∃ before, Clocked orderId document.order.fulfillment.pickupMode before
        (callback.targets document.order.fulfillment.pickupMode) database
        document' ∧
      (before.promisedCompletionAt ≠ none ↔ before.express ∧ .laundryInProgress ∈
          (state.database.transitionsOf orderId).map OrderEvent.toStatus) ∧
      ∀ old, state.database.orders.lookup orderId = some old → old.turnaround = before := by
  cases advanced with
  | opened _ _ booked absent _ =>
    rcases booked.creates with ⟨customerUid, book, promo, rfl⟩
    rcases booked.clocks with ⟨unpromised, undated, isNew⟩
    have untold := timed.1 rfl undated
    have turnaround : document.order.turnaround =
        prepared.order.turnaround :=
      congrArg Prod.fst untold.clocks
    have striding := (@Striding.created orderId customerUid book
      document.order.fulfillment.pickupMode state.database
      document.order.status document.order.version clock).committed
        ⟨rfl, about, rfl, rfl, rfl⟩ outcome
    have begins : (Callback.create customerUid book promo).aim ∈
        document.order.status.transitions :=
      @Striding.allowed _ (.create customerUid book promo) _ _ _ _ _ _ striding
    have fresh := (timely.transaction flying about rfl begins).2.1
    have clocked := Clocked.created.committed ⟨fresh.trans isNew, about, rfl, turnaround⟩ outcome
    refine ⟨_, clocked, ?_, ?_⟩
    · rw [unpromised, punctual.unborn absent]
      simp
    · intro old found
      rw [absent] at found
      cases found
  | moved row _ existing found stands striding =>
    have right := punctual.row row found
    have same := timed.synchronous timely flying about existing found
      stands striding.allowed right.dated outcome
    have turnaround : row.turnaround = document.order.turnaround := congrArg Prod.fst same
    have clocked := Callback.clocks existing ⟨row, by rw [about]; exact found, same⟩ outcome
    rw [about] at clocked
    refine ⟨_, clocked, ?_, ?_⟩
    · rw [← turnaround]
      exact right.promised
    · intro old found'
      cases found.symm.trans found'
      exact turnaround

theorem not_pending_of_allowed {source target : OrderStatus}
    (allowed : target ∈ source.transitions)
    (waits : target.abandonmentWaiting = true ∨ ∃ next, (target, next) ∈ followUps) :
    source ≠ .pendingProviderAcceptance ∧ target ≠ .laundryInProgress := by
  constructor
  · rintro rfl
    rcases waits with waits | ⟨next, member⟩
    · revert allowed
      cases target <;> first | decide | cases waits
    · simp only [followUps, List.mem_cons, Prod.mk.injEq, List.not_mem_nil, or_false] at member
      rcases member with ⟨rfl, _⟩ | ⟨rfl, _⟩ | ⟨rfl, _⟩ | ⟨rfl, _⟩ <;> revert allowed <;> decide
  · rintro rfl
    rcases waits with waits | ⟨next, member⟩
    · cases waits
    · simp [followUps] at member

theorem Timed.bills {target : OrderStatus} {actorUid : Uid}
    {actorRole : String} {note : Option String} {next : Option OrderStatus}
    (timed : Timed orderId state (.transaction operation
      (.saveThenTransition target actorUid actorRole note next) prepared document))
    (about : document.order._id = orderId)
    (advanced : Advanced orderId
      (.saveThenTransition target actorUid actorRole note next) prepared
      state.database database document')
    (waits : target.abandonmentWaiting = true ∨ ∃ next, (target, next) ∈ followUps)
    (outcome : ((Callback.saveThenTransition target actorUid actorRole note
      next).program clock).commit state.database document = (.ok (), database, document')) :
    ∃ row, database.orders.lookup orderId = some row ∧
      row.bill = document'.order.bill ∧ row.Due := by
  cases advanced with
  | opened _ _ booked =>
    rcases booked.creates with ⟨_, _, _, impossible⟩
    cases impossible
  | moved row _ existing found stands striding =>
    rcases not_pending_of_allowed striding.allowed waits with ⟨pending, progress⟩
    have bill := (timed.2.2.2 existing row found stands).bill trivial progress pending
    rcases Billed.commits ⟨about, timed.2.2.1 trivial, row, found, bill⟩
      outcome with ⟨memory, stored, found', same, due⟩
    exact ⟨stored, found', same.trans memory.symm, due⟩

theorem Callback.plain_of_waiting {callback : Callback}
    {pickupMode : FulfillmentPickupMode} {status : OrderStatus}
    (lands : (callback.targets pickupMode).getLast? = some status)
    (waits : status.abandonmentWaiting = true) :
    ∃ actorUid actorRole note next, callback =
      .saveThenTransition status actorUid actorRole note next := by
  cases callback with
  | saveThenTransition target actorUid actorRole note next =>
    cases lands
    exact ⟨actorUid, actorRole, note, next, rfl⟩
  | accept => cases pickupMode <;> cases lands <;> cases waits
  | respond customerUid approve =>
    cases approve <;> cases pickupMode <;> cases lands <;> cases waits
  | _ =>
    cases lands
    cases waits

/-- A timely commit leaves the clocks of its order right. -/
theorem Timed.commits (timed : Timed orderId state
      (.transaction operation callback prepared document))
    (timely : Timely orderId state (.commit index environment clock))
    (flying : state.calls[index]? = some (.transaction operation callback prepared document))
    (about : document.order._id = orderId)
    (advanced : Advanced orderId callback prepared state.database database
      document') (punctual : state.database.Punctual orderId)
    (outcome : (callback.program clock).commit state.database document =
      (.ok (), database, document')) :
    database.Punctual orderId := by
  rcases timed.ticks timely flying about advanced punctual outcome with
    ⟨before, clocked, promised, _⟩
  rcases Callback.moved outcome with ⟨rows, appended, walk, stored, found, last⟩
  rw [about] at appended found
  rw [← List.getLast?_map, walk] at last
  rcases clocked.synchronous with ⟨_, found', same⟩
  rw [clocked.identified] at found'
  cases found.symm.trans found'
  have turnaround : stored.turnaround = document'.order.turnaround := congrArg Prod.fst same
  have deadline : stored.abandonmentDeadlineAt =
      document'.order.abandonmentDeadlineAt :=
    congrArg Prod.snd same
  constructor
  · intro absent
    rw [found] at absent
    cases absent
  · intro row found''
    cases found.symm.trans found''
    constructor
    · intro dated
      by_contra rests
      rw [deadline] at dated
      exact dated (clocked.undated _ last (eq_false_of_ne_true rests))
    · intro waits
      rcases Callback.plain_of_waiting last waits with ⟨_, _, _, _, rfl⟩
      rcases timed.bills about advanced (.inl waits) outcome with ⟨_, found'', _, due⟩
      cases found.symm.trans found''
      exact due waits
    · have express : stored.turnaround.express ↔ before.express := by
        rw [turnaround, ← OrderTurnaround.express_unpromised,
          clocked.terms, OrderTurnaround.express_unpromised]
      rw [express, turnaround, clocked.promised, promised, appended,
        List.map_append, walk, List.mem_append, and_or_left]

/-- What a commit leaves to do has the clocks and the bill it has left. -/
theorem Timed.follows (timed : Timed orderId state
      (.transaction operation callback prepared document))
    (timely : Timely orderId state (.commit index environment clock))
    (flying : state.calls[index]? = some (.transaction operation callback prepared document))
    (about : document.order._id = orderId) (read : Read orderId state
      (.transaction operation callback prepared document))
    (advanced : Advanced orderId callback prepared state.database database
      document') (punctual : state.database.Punctual orderId)
    (outcome : (callback.program clock).commit state.database document =
      (.ok (), database, document'))
    (followed : callback.followUp operation document' = some call) :
    Timed orderId (state.write database) call := by
  rcases timed.ticks timely flying about advanced punctual outcome with ⟨before, clocked, _, _⟩
  unfold Callback.followUp at followed
  split at followed
  · rename_i first actorUid actorRole note next
    cases followed
    rcases timed.bills about advanced (.inr ⟨next, read.continues⟩)
      outcome with ⟨row, found, bill, _⟩
    rcases clocked.synchronous with ⟨_, found', same⟩
    rw [clocked.identified] at found'
    cases found.symm.trans found'
    refine ⟨nofun, fun _ => ⟨clocked.identified, le_rfl, fun _ => rfl⟩,
      fun _ => rfl, ?_⟩
    intro _ stored found'' _
    cases found.symm.trans found''
    exact ⟨same, fun _ _ _ => bill⟩
  · rename_i customerUid book claim
    cases followed
    cases advanced with
    | moved _ _ existing => exact (existing _ _ _ rfl).elim
    | opened _ _ booked _ striding =>
      have undated := booked.clocks.2.1
      have kept := (Untold.rests orderId prepared.order.clocks).kept.runs
        (@Callback.allows_silent (.create customerUid book (some claim))
          rfl clock orderId _ undated)
      have untold := @Keeps.committed _ _ _ _ (fun (_ : Database) (memory : OrderDocument) =>
          Untold orderId prepared.order.clocks memory)
        _ _ _ _ _ _ kept (timed.1 rfl undated) outcome
      refine ⟨untold.silent, ?_, ?_⟩
      · exact (ensures_created.committed trivial outcome).1
      · exact (Option.some.inj (striding.lands (by simp))).symm
  · cases followed

theorem Timed.saves (timed : Timed orderId state (.save document))
    (still : document.inStep (some row) = true) :
    (document.writeTo row).clocks = row.clocks ∧
      (row.status ≠ .pendingProviderAcceptance → (document.writeTo row).bill = row.bill) := by
  rcases timed with ⟨silent, pending⟩
  constructor
  · have promise : .promisedCompletionAt ∉ document.modified := by
      intro marked
      cases silent _ marked
    have deadline : .abandonmentDeadlineAt ∉ document.modified := by
      intro marked
      cases silent _ marked
    simp only [OnlineOrder.clocks, OrderDocument.writeTo,
      OrderDocument.pick, if_neg promise, if_neg deadline]
  · intro elsewhere
    have free : ¬ (.pricing ∈ document.modified ∨ .paymentSummary ∈ document.modified) := by
      intro marked
      rcases pending marked with ⟨dirty, status⟩
      simp only [OrderDocument.inStep, Option.all_some, decide_eq_true_eq] at still
      exact elsewhere ((still.1 dirty).symm.trans status)
    rw [not_or] at free
    simp only [OnlineOrder.bill, OrderDocument.writeTo,
      OrderDocument.pick, if_neg free.1, if_neg free.2]

theorem OnlineOrder.Punctual.of_same {other : OnlineOrder}
    {transitions : List OrderEvent} (punctual : row.Punctual transitions)
    (status : other.status = row.status) (clocks : other.clocks = row.clocks)
    (bill : row.status ≠ .pendingProviderAcceptance →
      other.bill = row.bill) : other.Punctual transitions := by
  have turnaround : other.turnaround = row.turnaround := congrArg Prod.fst clocks
  have deadline : other.abandonmentDeadlineAt = row.abandonmentDeadlineAt :=
    congrArg Prod.snd clocks
  constructor
  · rw [deadline, status]
    exact punctual.dated
  · intro waits
    rw [status] at waits
    have elsewhere : row.status ≠ .pendingProviderAcceptance := by
      intro pending
      rw [pending] at waits
      cases waits
    rw [deadline, bill elsewhere]
    exact punctual.due waits
  · rw [turnaround]
    exact punctual.promised

end

theorem clock_obligations (orderId : ObjectId) :
    Obligations orderId (Timely orderId) (OnTime orderId)
      (fun state => state.database.Punctual orderId) (Timed orderId) where
  beside := by
    intro state after beside punctual
    constructor
    · rw [beside.same.row, beside.same.transitions]
      exact punctual.unborn
    · rw [beside.same.row, beside.same.transitions]
      exact punctual.row
  steady := fun _ _ _ beside _ timed => timed.onward beside.same
  begun := fun _ _ _ _ _ invariant _ beside begun about =>
    .begun invariant.sound beside begun about
  commit := by
    intro state index environment clock operation callback prepared document
      database document' onTime invariant timely flying about timed outcome
    have read := onTime.sound _ (List.mem_of_getElem? flying) about
    have advanced := read.commits timely flying about outcome
    have punctual := timed.commits timely flying about advanced invariant.good outcome
    refine ⟨⟨punctual, ?_⟩, ?_⟩
    · intro call member about' other
      cases call with
      | transaction operation' callback' prepared' memory =>
        rcases other with ⟨untold, drifted, bill, _⟩
        refine ⟨untold, drifted, bill, ?_⟩
        intro existing row found stands
        -- A later version than the one the other call has read.
        rcases onTime.sound _ member about' with
          booked | ⟨_, _, _, since⟩
        · rcases booked.creates with ⟨_, _, _, creates⟩
          exact (existing _ _ _ creates).elim
        · rcases since with ⟨old, found', earlier, _⟩
          have newer := advanced.newer found' found
          rw [← stands] at earlier
          exact (newer.not_ge earlier).elim
      | save | reserve => exact other
      | audit => trivial
    · intro call followed
      exact timed.follows timely flying about read advanced invariant.good outcome followed
  save := by
    intro state index environment clock document row saved onTime invariant
      timely flying about timed outcome
    have read := onTime.sound _ (List.mem_of_getElem? flying) about
    rcases read.saves timely flying about outcome with ⟨old, found, rfl, stands⟩
    have still := timely.save flying about
    rw [found] at still
    rcases timed.saves still with ⟨clocks, bill⟩
    have status : (document.writeTo old).status = old.status := congrArg Prod.fst stands
    refine ⟨⟨?_, ?_⟩, ?_⟩
    · intro absent
      cases (AList.lookup_insert _).symm.trans absent
    · intro row found'
      cases (AList.lookup_insert _).symm.trans found'
      exact (invariant.good.row old found).of_same status clocks bill
    · intro call _ _ other
      cases call with
      | transaction operation callback prepared memory =>
        rcases other with ⟨untold, drifted, bill', abreast⟩
        refine ⟨untold, drifted, bill', ?_⟩
        intro existing row found' place
        cases (AList.lookup_insert _).symm.trans found'
        rcases abreast existing old found (stands.symm.trans place) with ⟨same, priced⟩
        refine ⟨clocks.trans same, ?_⟩
        intro chargeless aim elsewhere
        rw [status] at elsewhere
        exact (bill elsewhere).trans (priced chargeless aim elsewhere)
      | save | reserve => exact other
      | audit => trivial

/-! ## Runs -/

abbrev Ticking (orderId : ObjectId) (state : State) : Prop :=
  Invariant orderId (fun state => state.database.Punctual orderId) (Timed orderId) state

variable {castToObjectId : String → Option ObjectId} {orderId : ObjectId} {state : State}

theorem ticking_of_reaches
    (reached : (orderSystem castToObjectId).Reaches (Timely orderId) .start state) :
    Ticking orderId state := by
  apply (clock_obligations orderId).reaches
    (fun _ reached => onTime_of_reaches (fun _ _ timely => timely) reached)
    _ reached
  constructor
  · exact fun _ => rfl
  · intro row found
    simp [State.start] at found

def Database.Promises (orderId : ObjectId) (database after : Database) :
    Prop :=
  ∀ row promised, database.orders.lookup orderId = some row →
    row.turnaround.promisedCompletionAt = some promised →
      ∃ later, after.orders.lookup orderId = some later ∧
        later.turnaround.promisedCompletionAt = some promised

/-- No timely step takes a promise back. -/
theorem Ticking.step {castToObjectId : String → Option ObjectId}
    {orderId : ObjectId} {state after : State} {action : Action}
    (tidy : state.Tidy) (onTime : OnTime orderId state)
    (ticking : Ticking orderId state) (timely : Timely orderId state action)
    (stepped : (orderSystem castToObjectId).step action state = some after) :
    state.database.Promises orderId after.database := by
  intro row promised found made
  have cases := @step_cases orderId _ _ _ tidy _ stepped
  cases cases with
  | aside beside _ =>
    refine ⟨row, ?_, made⟩
    rw [beside.same.row]
    exact found
  | committed index environment clock operation callback prepared document
      document' database commits flying about outcome beside _ =>
    subst commits
    have member := List.mem_of_getElem? flying
    have read := onTime.sound _ member about
    have advanced := read.commits timely flying about outcome
    rcases (ticking.sound _ member about).ticks timely flying about
      advanced ticking.good outcome with ⟨before, clocked, _, turnaround⟩
    rcases clocked.synchronous with ⟨later, found', same⟩
    rw [clocked.identified] at found'
    have kept : later.turnaround = document'.order.turnaround := congrArg Prod.fst same
    refine ⟨later, beside.same.row.trans found', ?_⟩
    rw [kept]
    apply clocked.stands
    rw [← turnaround row found]
    exact made
  | saved index environment clock document document' written commits flying
      about outcome beside _ =>
    subst commits
    have member := List.mem_of_getElem? flying
    have read := onTime.sound _ member about
    rcases read.saves timely flying about outcome with ⟨old, found', rfl, _⟩
    cases found.symm.trans found'
    have still := timely.save flying about
    rw [found] at still
    have timed : Timed orderId state (.save document) := ticking.sound _ member about
    have turnaround : (document.writeTo row).turnaround =
        row.turnaround :=
      congrArg Prod.fst (timed.saves still).1
    refine ⟨_, beside.same.row.trans (AList.lookup_insert _), ?_⟩
    rw [turnaround]
    exact made

theorem Ticking.relates {after : State} (Relation : Database → Database → Prop)
    (reached : (orderSystem castToObjectId).Reaches (Timely orderId) .start state)
    (continues : (orderSystem castToObjectId).Reaches (Timely orderId)
      state after) (reflexive : ∀ database, Relation database database)
    (transitive : ∀ first second third, Relation first second →
      Relation second third → Relation first third)
    (related : ∀ (state after : State) (action : Action), state.Tidy →
      OnTime orderId state → Ticking orderId state → Timely orderId state action →
          (orderSystem castToObjectId).step action state = some after →
            Relation state.database after.database) :
    Relation state.database after.database := by
  apply continues.relates
    (fun state => state.Tidy ∧ OnTime orderId state ∧ Ticking orderId state)
    (fun state after => Relation state.database after.database)
  · exact ⟨State.Tidy.of_reaches reached,
      onTime_of_reaches (fun _ _ timely => timely) reached, ticking_of_reaches reached⟩
  · rintro state action after ⟨tidy, onTime, ticking⟩ timely stepped
    exact ⟨tidy.step stepped,
      (read_obligations orderId).step tidy trivial onTime timely stepped,
      (clock_obligations orderId).step tidy onTime ticking timely stepped⟩
  · exact fun state => reflexive state.database
  · exact fun _ _ _ => transitive _ _ _
  · rintro state action after ⟨tidy, onTime, ticking⟩ timely stepped
    exact related state after action tidy onTime ticking timely stepped

theorem promises_of_reaches {after : State}
    (reached : (orderSystem castToObjectId).Reaches (Timely orderId) .start state)
    (continues : (orderSystem castToObjectId).Reaches (Timely orderId) state after) :
    state.database.Promises orderId after.database := by
  apply Ticking.relates (Database.Promises orderId) reached continues
  · exact fun database row promised found made => ⟨row, found, made⟩
  · intro first second third kept keeps row promised found made
    rcases kept row promised found made with ⟨later, found', made'⟩
    exact keeps later promised found' made'
  · intro state after action tidy onTime ticking timely stepped
    exact ticking.step tidy onTime timely stepped

/--
In a timely run an order has a deadline exactly while it waits for a customer who
still owes something, and a promise exactly once it is an express order that has been
in progress; a promise never changes.
-/
theorem clocksAreRight {castToObjectId : String → Option ObjectId}
    {orderId : ObjectId} {state after : State} {row : OnlineOrder}
    (reached : (orderSystem castToObjectId).Reaches (Timely orderId) .start state)
    (found : state.database.orders.lookup orderId = some row)
    (continues : (orderSystem castToObjectId).Reaches (Timely orderId) state after) :
    (row.abandonmentDeadlineAt ≠ none ↔ (row.status = .awaitingRedeliverySelection ∨
            row.status = .awaitingCustomerPickup) ∧
          row.paymentSummary.collectedCentavos < row.pricing.dueCentavos) ∧
      (row.turnaround.promisedCompletionAt ≠ none ↔ row.turnaround.express ∧
          ∃ event ∈ state.database.transitionsOf orderId, event.toStatus = .laundryInProgress) ∧
      ∀ promised, row.turnaround.promisedCompletionAt = some promised →
        ∃ later, after.database.orders.lookup orderId = some later ∧
          later.turnaround.promisedCompletionAt = some promised := by
  have punctual := (ticking_of_reaches reached).good.row row found
  have waits : row.status.abandonmentWaiting = true ↔
      row.status = .awaitingRedeliverySelection ∨ row.status = .awaitingCustomerPickup := by
    cases row.status <;> decide
  refine ⟨?_, ?_, ?_⟩
  · rw [← waits]
    constructor
    · intro dated
      have waiting := punctual.dated dated
      exact ⟨waiting, (punctual.due waiting).mp dated⟩
    · rintro ⟨waiting, owes⟩
      exact (punctual.due waiting).mpr owes
  · rw [punctual.promised, List.mem_map]
  · intro promised made
    exact promises_of_reaches reached continues row promised found made

/-- The laundry of the shop waits for its customer, who has not paid. -/
theorem clocksAreRight_washed :
    ∃ state after row,
      (orderSystem some).Reaches (Timely "order") .start state ∧
        (orderSystem some).Reaches (Timely "order") state after ∧
        state.database.orders.lookup "order" = some row ∧
        row.status = .awaitingCustomerPickup ∧
        ((row.abandonmentDeadlineAt ≠ none ↔
            (row.status = .awaitingRedeliverySelection ∨
                row.status = .awaitingCustomerPickup) ∧
              row.paymentSummary.collectedCentavos < row.pricing.dueCentavos) ∧
          (row.turnaround.promisedCompletionAt ≠ none ↔ row.turnaround.express ∧
              ∃ event ∈ state.database.transitionsOf "order", event.toStatus = .laundryInProgress) ∧
          ∀ promised, row.turnaround.promisedCompletionAt = some promised →
            ∃ later, after.database.orders.lookup "order" = some later ∧
              later.turnaround.promisedCompletionAt = some promised) := by
  have performed :
      (((orderSystem some).restrict (Timely "order")).perform Shop.washed .start).bind (fun state =>
          (((orderSystem some).restrict (Timely "order")).perform
            (Shop.calls Shop.owner (.verifySelfPickup Shop.cash))
            state).bind fun after =>
          (state.database.orders.lookup "order").bind fun row =>
            (after.database.orders.lookup "order").map fun later =>
              (row.status, later.status)) =
        some (.awaitingCustomerPickup, .completed) := by
    decide +kernel
  rcases System.reaches_of_bind_restrict performed with ⟨state, reached, seen⟩
  rcases System.reaches_of_bind_restrict seen with ⟨after, continues, seen⟩
  rcases Option.bind_eq_some_iff.mp seen with ⟨row, found, seen⟩
  rcases Option.map_eq_some_iff.mp seen with ⟨_, _, facts⟩
  exact ⟨state, after, row, reached, continues, found,
    congrArg Prod.fst facts, clocksAreRight reached found continues⟩

def uncoded (orderId : ObjectId) : Action → Bool
  | .create _ _ _ input other =>
    decide (other ≠ orderId) || (requestedCode input).isNone
  | _ => true

/--
The owner marks the laundry ready.  Before the second transition of that call, the
customer asks to collect the laundry, pays and takes it home.
-/
def readyAfterPickup : List Action :=
  Shop.accepted ++ Shop.calls Shop.owner (.receiveAtCounter Shop.deferred) ++
    [ Shop.requests Shop.owner .markLaundryReady, Shop.proceeds,
      Shop.requests Shop.customer (.chooseReturnOption .customerSelfPickup),
      .commit 1 Shop.environment (Shop.clock 2),
      Shop.requests Shop.owner (.verifySelfPickup Shop.cash),
      .commit 1 Shop.environment (Shop.clock 2), Shop.proceeds ]

/-- The second transition gives the completed order a deadline. -/
theorem clockNotRight :
    ¬ ∀ (orderId : ObjectId) (state after : State) (row : OnlineOrder),
        (orderSystem some).Reaches (fun _ action => uncoded orderId action) .start state →
        state.database.orders.lookup orderId = some row →
        (orderSystem some).Reaches (fun _ action => uncoded orderId action) state after →
        (row.abandonmentDeadlineAt ≠ none ↔ (row.status = .awaitingRedeliverySelection ∨
                row.status = .awaitingCustomerPickup) ∧
              row.paymentSummary.collectedCentavos < row.pricing.dueCentavos) ∧
          (row.turnaround.promisedCompletionAt ≠ none ↔ row.turnaround.express ∧
              ∃ event ∈ state.database.transitionsOf orderId, event.toStatus = .laundryInProgress) ∧
          ∀ promised, row.turnaround.promisedCompletionAt = some promised →
            ∃ later, after.database.orders.lookup orderId = some later ∧
              later.turnaround.promisedCompletionAt = some promised := by
  intro always
  have performed :
      (((orderSystem some).restrict
          (fun _ action => uncoded "order" action = true)).perform
        readyAfterPickup .start).bind (fun state =>
          (state.database.orders.lookup "order").map fun row =>
            (row.abandonmentDeadlineAt.isSome,
              row.paymentSummary.collectedCentavos,
              row.pricing.dueCentavos)) =
        some (true, 22000, 22000) := by
    decide +kernel
  rcases System.reaches_of_bind_restrict performed with ⟨state, ran, seen⟩
  rcases Option.map_eq_some_iff.mp seen with ⟨row, found, facts⟩
  simp only [Prod.mk.injEq] at facts
  rcases facts with ⟨dated, collected, due⟩
  have right := (always "order" state state row ran found .refl).1
  have owes := (right.mp (Option.isSome_iff_ne_none.mp dated)).2
  rw [collected, due] at owes
  exact lt_irrefl _ owes

end Lalaba.Orders
