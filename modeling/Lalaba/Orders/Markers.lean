import Lalaba.Orders.Couriers
import Lalaba.Orders.Editing

/-!
# The courier's marker

A position fix is checked against the order that was read, and then the whole
assignment is saved, with no check of what has been stored since.  Where nobody
has written the assignment in between, the marker of a courier moves forward only
and a ping changes nothing else of the order.
-/

namespace Lalaba.Orders

open Foundation
open Foundation.Program

/-! ## One assignment -/

namespace LegAssignment

def unlocated (assignment : LegAssignment) : LegAssignment :=
  { assignment with
    locationLat := none
    locationLng := none
    locationAt := none
    locationAccuracy := none
    locationSpeed := none
    locationHeading := none
    locationSequence := none }

def untimed (assignment : LegAssignment) : LegAssignment :=
  { assignment with
    enRouteAt := none
    arrivedAt := none
    completedAt := none }

/-- The order of fixes on which `updateCourierLocation` insists. -/
def overtaken (assignment later : LegAssignment) : Bool :=
  (assignment.locationSequence.all fun last =>
    later.locationSequence.any fun next => decide (last < next)) &&
  assignment.locationAt.all fun last =>
    later.locationAt.any fun next => decide (last < next)

/-- The same assignment, and its marker has not gone back. -/
structure Onward (assignment later : LegAssignment) : Prop where
  staff : later.assignedStaffUid = assignment.assignedStaffUid
  since : later.assignedAt = assignment.assignedAt
  sequence : ∀ last ∈ assignment.locationSequence, ∃ next ∈ later.locationSequence, last ≤ next
  position : ∀ last ∈ assignment.locationAt, ∃ next ∈ later.locationAt, last ≤ next

variable {assignment later : LegAssignment}

theorem Onward.refl (assignment : LegAssignment) : assignment.Onward assignment where
  staff := rfl
  since := rfl
  sequence last stored := ⟨last, stored, le_rfl⟩
  position last stored := ⟨last, stored, le_rfl⟩

theorem Onward.trans {middle : LegAssignment}
    (first : assignment.Onward middle) (second : middle.Onward later) :
    assignment.Onward later where
  staff := second.staff.trans first.staff
  since := second.since.trans first.since
  sequence := by
    intro last stored
    rcases first.sequence last stored with ⟨between, stored', below⟩
    rcases second.sequence between stored' with ⟨next, stored'', above⟩
    exact ⟨next, stored'', below.trans above⟩
  position := by
    intro last stored
    rcases first.position last stored with ⟨between, stored', below⟩
    rcases second.position between stored' with ⟨next, stored'', above⟩
    exact ⟨next, stored'', below.trans above⟩

theorem Onward.of_overtaken
    (same : later.unlocated = assignment.unlocated)
    (overtakes : assignment.overtaken later = true) :
    assignment.Onward later := by
  rw [overtaken, Bool.and_eq_true] at overtakes
  constructor
  · exact congrArg (fun kept => kept.assignedStaffUid) same
  · exact congrArg (fun kept => kept.assignedAt) same
  · intro last stored
    have passed := overtakes.1
    rw [stored, Option.all_some, Option.any_eq_true] at passed
    rcases passed with ⟨next, stored', less⟩
    exact ⟨next, stored', (of_decide_eq_true less).le⟩
  · intro last stored
    have passed := overtakes.2
    rw [stored, Option.all_some, Option.any_eq_true] at passed
    rcases passed with ⟨next, stored', less⟩
    exact ⟨next, stored', (of_decide_eq_true less).le⟩

theorem Onward.of_untimed (same : later.untimed = assignment.untimed) :
    assignment.Onward later := by
  have sequence : later.locationSequence = assignment.locationSequence :=
    congrArg (fun kept => kept.locationSequence) same
  have position : later.locationAt = assignment.locationAt :=
    congrArg (fun kept => kept.locationAt) same
  constructor
  · exact congrArg (fun kept => kept.assignedStaffUid) same
  · exact congrArg (fun kept => kept.assignedAt) same
  · exact fun last stored => ⟨last, sequence ▸ stored, le_rfl⟩
  · exact fun last stored => ⟨last, position ▸ stored, le_rfl⟩

end LegAssignment

/-- What a session makes of the assignments: those stored, or the document's. -/
structure Rostered (document : OrderDocument) (stored : Option OnlineOrder)
    (session : Session Database OrderDocument) : Prop where
  identified : session.memory.order._id = document.order._id
  memory : ∀ leg, session.memory.order.assignment leg = document.order.assignment leg
  marks : ∀ leg : CourierLeg, leg.path ∈ session.memory.modified → leg.path ∈ document.modified
  row : ∀ old, stored = some old → ∃ row,
    session.store.orders.lookup document.order._id = some row ∧ ∀ leg,
      row.assignment leg = old.assignment leg ∨
        leg.path ∈ document.modified ∧ row.assignment leg = document.order.assignment leg

theorem Rostered.rests {document : OrderDocument} {stored : Option OnlineOrder}
    {allowed : Touch → Prop} :
    Rests document.order._id allowed (Rostered document stored) where
  identified := fun _ rostered => rostered.identified
  beside := by
    intro session store durable budget same rostered
    refine ⟨rostered.identified, rostered.memory, rostered.marks, ?_⟩
    rw [same]
    exact rostered.row
  save := by
    intro session row saved rostered ran
    have clean := OrderDocument.save_saved ran
    subst clean
    refine ⟨rostered.identified, rostered.memory, ?_, ?_⟩
    · exact fun leg dirty => (Finset.notMem_empty _ dirty).elim
    · intro old before
      rcases rostered.row old before with ⟨middle, found, assigned⟩
      refine ⟨row, AList.lookup_insert _, fun leg => ?_⟩
      rcases OrderDocument.save_cases ran with ⟨_, absent, _⟩ | ⟨_, _, found', rfl⟩
      · cases found.symm.trans absent
      · cases found.symm.trans found'
        rw [session.memory.assignment_writeTo middle leg]
        split
        · rename_i dirty
          exact .inr ⟨rostered.marks leg dirty, rostered.memory leg⟩
        · exact assigned leg
  update := by
    intro session expected patch store rostered ran
    rcases updateOrder_ok.mp ran with ⟨row, found, _, rfl⟩
    refine ⟨rostered.identified, rostered.memory, rostered.marks, ?_⟩
    intro old before
    rcases rostered.row old before with ⟨middle, found', assigned⟩
    cases found.symm.trans found'
    refine ⟨patch.apply row, AList.lookup_insert _, fun leg => ?_⟩
    have same : (patch.apply row).assignment leg = row.assignment leg := by
      cases leg <;> rfl
    rw [same]
    exact assigned leg
  touch := by
    intro session touch _ rostered
    have spares := touch.spares session.memory
    refine ⟨spares.identified.trans rostered.identified, ?_, ?_, rostered.row⟩
    · exact fun leg =>
        (spares.assignment leg).trans (rostered.memory leg)
    · exact fun leg dirty =>
        rostered.marks leg (spares.marked _ leg.untouched_path dirty)

theorem Rostered.of_run {clock : Clock} {callback : Callback}
    {database : Database} {document : OrderDocument} {budget : Option ℕ} :
    Rostered document (database.orders.lookup document.order._id)
      ((callback.program clock).runOnce budget database document).2 := by
  have kept : Keeps
      (Rostered document (database.orders.lookup document.order._id))
      (callback.program clock) :=
    Rostered.rests.kept.program
  apply kept
  refine ⟨rfl, fun _ => rfl, fun _ dirty => dirty, ?_⟩
  exact fun old found => ⟨old, found, fun _ => .inl rfl⟩

/-! ## What a ping saves -/

/-- A document that marks one assignment and nothing else. -/
structure OrderDocument.Pings (document : OrderDocument) : Prop where
  inserted : document.isNew = false
  pickups : document.pushedPickupAttempts = []
  deliveries : document.pushedDeliveryAttempts = []
  marks : ∃ leg : CourierLeg, document.modified = {leg.path}

def OrderDocument.Unassigning (document : OrderDocument) : Prop :=
  ∀ leg : CourierLeg, leg.path ∉ document.modified

def Call.Pings : Call → Prop
  | .save document => document.Unassigning ∨ document.Pings
  | .reserve _ document | .transaction _ (.create _ _ _) _ document =>
    document.Unassigning
  | _ => True

def Prepared.Pings : Prepared → Prop
  | .saveOnly document => document.Unassigning ∨ document.Pings
  | _ => True

section

variable {environment : Environment} {clock : Clock} {actor : User}
  {database : Database} {row : OnlineOrder}

theorem updateCourierLocation_pings {input : UpdateCourierLocationInput} :
    Yields (updateCourierLocation environment actor input row)
      Prepared.Pings := by
  rw [updateCourierLocation]
  split
  · exact Yields.error
  · rename_i leg _
    split
    · exact Yields.ok trivial
    · apply Yields.ok
      exact .inr ⟨rfl, rfl, rfl, leg, rfl⟩

theorem raiseQualityHold_pings {input : RaiseQualityHoldInput} :
    Yields (raiseQualityHold environment clock actor input row)
      Prepared.Pings := by
  apply Yields.checked
  apply Yields.after
  split
  · trivial
  · left
    intro leg marked
    cases leg <;> simp [CourierLeg.path] at marked

theorem Operation.pings (operation : Operation) :
    Yields (operation.prepare environment clock actor database row)
      Prepared.Pings := by
  intro prepared prepares
  cases prepared with
  | saveOnly document =>
    have saves : operation.savesOnly = true := (operation.edited _ prepares).2
    cases operation with
    | updateCourierLocation =>
      exact updateCourierLocation_pings _ prepares
    | raiseQualityHold => exact raiseQualityHold_pings _ prepares
    | _ => cases saves
  | _ => trivial

end

section

variable {castToObjectId : String → Option ObjectId} {state after : State} {action : Action}

/-- No call but a ping comes to save an assignment outside a transaction. -/
theorem pings_step (tidy : state.Tidy)
    (pings : ∀ call ∈ state.calls, call.Pings)
    (stepped : (orderSystem castToObjectId).step action state = some after) :
    ∀ call ∈ after.calls, call.Pings := by
  intro call member
  have cases := @step_cases call.orderId _ _ _ tidy _ stepped
  cases cases with
  | saved _ _ _ _ _ _ _ _ _ _ _ calls => exact pings call (calls call member)
  | committed index environment clock operation callback prepared document
      document' database _ flying _ outcome _ calls =>
    rcases calls call member with old | follows
    · exact pings call old
    have known := pings _ (List.mem_of_getElem? flying)
    rcases commit_ok.mp outcome with ⟨finish, ran, rfl, rfl⟩
    have rostered := @Rostered.of_run clock callback state.database document none
    rw [runOnce, ran] at rostered
    unfold Callback.followUp at follows
    split at follows
    · cases follows
      trivial
    · cases follows
      exact fun leg dirty => known leg (rostered.marks leg dirty)
    · cases follows
  | aside _ calls =>
    rcases calls call member rfl with old | begun
    · exact pings call old
    cases begun with
    | booked market clock customer input callback document _ ordered =>
      have booked := createOrder_books _ ordered
      rcases booked.creates with ⟨customerUid, book, promo, rfl⟩
      rcases booked.orders with ⟨_, _, _, _, _, _, _, drawn, _⟩
      have clean : document.modified = ∅ := congrArg (fun drafted => drafted.modified) drawn
      intro leg dirty
      rw [clean] at dirty
      exact Finset.notMem_empty _ dirty
    | drafted environment clock actor operation row callback document _ _ _ _ prepares =>
      have drafted : Drafted actor row operation callback document := Operation.drafts _ _ prepares
      have fits := drafted.fits
      cases callback with
      | create => exact fits.elim
      | _ => trivial
    | amended environment clock actor operation row document _ _ prepares =>
      exact operation.pings _ prepares
    | audited => trivial
    | aborted index budget clock operation callback prepared document _ flying =>
      have known := pings _ (List.mem_of_getElem? flying)
      have rostered := @Rostered.of_run clock callback state.database document (some budget)
      cases callback with
      | create =>
        exact fun leg dirty => known leg (rostered.marks leg dirty)
      | _ => trivial
    | reserved index environment clock claim document promoId _ flying =>
      have known := pings _ (List.mem_of_getElem? flying)
      left
      intro leg dirty
      apply known leg
      rcases Finset.mem_insert.mp dirty with impossible | old
      · cases leg <;> cases impossible
      · exact old

theorem pings_of_reaches {admissible : State → Action → Prop}
    (reached : (orderSystem castToObjectId).Reaches admissible .start state) :
    ∀ call ∈ state.calls, call.Pings := by
  refine reached.layered State.Tidy
    (fun state => ∀ call ∈ state.calls, call.Pings)
    (fun _ => State.Tidy.of_reaches) ?_ ?_
  · intro call member
    cases member
  · exact fun state action after tidy pings _ stepped =>
      pings_step tidy pings stepped

end

/-! ## Steps that find the assignment they have read -/

def Operation.reassigns : Operation → CourierLeg → Bool
  | .assignPickupStaff _, .pickup | .reschedulePickup, .pickup
  | .assignReturnStaff _, .return | .scheduleRedelivery, .return => true
  | _, _ => false

namespace OrderDocument

def overtakes (document : OrderDocument) (row : OnlineOrder)
    (leg : CourierLeg) : Bool :=
  match row.assignment leg, document.order.assignment leg with
  | some assignment, some later =>
    decide (later.unlocated = assignment.unlocated) && assignment.overtaken later
  | none, none => true
  | _, _ => false

def retains (document : OrderDocument) (row : OnlineOrder)
    (leg : CourierLeg) : Bool :=
  decide ((document.order.assignment leg).map LegAssignment.untimed =
    (row.assignment leg).map LegAssignment.untimed)

end OrderDocument

def OrderDocument.eachMarked (document : OrderDocument)
    (holds : CourierLeg → Bool) : Bool :=
  [CourierLeg.pickup, .return].all fun leg =>
    decide (leg.path ∉ document.modified) || holds leg

/--
What is written of an assignment finds it as it was read: a transaction up to the
times of its courier, and a ping up to a fix that is older than its own.
-/
def unraced (orderId : ObjectId) (state : State) : Action → Bool
  | .commit index _ _ =>
    match state.calls[index]?, state.database.orders.lookup orderId with
    | some (.transaction operation callback _ document), some row =>
      decide (document.order._id ≠ orderId) ||
        decide (callback.aim ∉ (callback.origin document).1.transitions) ||
        document.eachMarked fun leg =>
          operation.any (fun method => method.reassigns leg) || document.retains row leg
    | some (.save document), some row =>
      decide (document.order._id ≠ orderId) || document.eachMarked (document.overtakes row)
    | _, _ => true
  | _ => true

def Unraced (orderId : ObjectId) (state : State) (action : Action) : Prop :=
  unraced orderId state action = true

instance (orderId : ObjectId) (state : State) (action : Action) :
    Decidable (Unraced orderId state action) :=
  inferInstanceAs (Decidable (_ = true))

def reassigned (orderId : ObjectId) (leg : CourierLeg) (state : State) :
    Action → Bool
  | .commit index _ _ =>
    match state.calls[index]? with
    | some (.transaction operation _ _ document) =>
      decide (document.order._id = orderId) && operation.any fun method => method.reassigns leg
    | _ => false
  | _ => false

def OnlineOrder.unlocated (order : OnlineOrder) : OnlineOrder :=
  { order with
    pickupAssignment := order.pickupAssignment.map LegAssignment.unlocated
    returnAssignment := order.returnAssignment.map LegAssignment.unlocated }

def OnlineOrder.Onward (leg : CourierLeg) (row later : OnlineOrder) :
    Prop :=
  ∀ assignment, row.assignment leg = some assignment →
    ∃ next, later.assignment leg = some next ∧ assignment.Onward next

section

variable {orderId : ObjectId} {leg : CourierLeg}
  {row later : OnlineOrder} {document : OrderDocument}

theorem OrderDocument.holds_of_eachMarked {holds : CourierLeg → Bool}
    (each : document.eachMarked holds = true)
    (marked : leg.path ∈ document.modified) : holds leg = true := by
  simp only [eachMarked, List.all_cons, List.all_nil, Bool.and_true,
    Bool.and_eq_true, Bool.or_eq_true, decide_eq_true_eq] at each
  cases leg with
  | pickup => exact each.1.resolve_left (not_not_intro marked)
  | «return» => exact each.2.resolve_left (not_not_intro marked)

theorem OnlineOrder.Onward.of_eq
    (same : later.assignment leg = row.assignment leg) :
    row.Onward leg later :=
  fun assignment found => ⟨assignment, same.trans found, .refl _⟩

theorem OrderDocument.onward_of_overtakes
    (overtakes : document.overtakes row leg = true)
    (written : later.assignment leg = document.order.assignment leg) :
    row.Onward leg later := by
  intro assignment found
  rw [OrderDocument.overtakes, found] at overtakes
  rcases saved : document.order.assignment leg with _ | next
  · rw [saved] at overtakes
    cases overtakes
  · rw [saved] at overtakes
    have both := Bool.and_eq_true_iff.mp overtakes
    exact ⟨next, written.trans saved, .of_overtaken (of_decide_eq_true both.1) both.2⟩

theorem OrderDocument.onward_of_retains
    (retains : document.retains row leg = true)
    (written : later.assignment leg = document.order.assignment leg) :
    row.Onward leg later := by
  intro assignment found
  have same := of_decide_eq_true retains
  rw [found, Option.map_some] at same
  rcases Option.map_eq_some_iff.mp same with ⟨next, saved, equal⟩
  exact ⟨next, written.trans saved, .of_untimed equal⟩

theorem OrderDocument.unlocated_writeTo (pings : document.Pings)
    (each : document.eachMarked (document.overtakes row) = true) :
    (document.writeTo row).unlocated = row.unlocated := by
  rcases pings with ⟨_, pickups, deliveries, leg, marks⟩
  have marked : leg.path ∈ document.modified := by
    rw [marks]
    exact Finset.mem_singleton_self _
  have overtakes := holds_of_eachMarked each marked
  have same : (document.order.assignment leg).map
        LegAssignment.unlocated =
      (row.assignment leg).map LegAssignment.unlocated := by
    rw [OrderDocument.overtakes] at overtakes
    split at overtakes
    · rename_i assignment next found saved
      have both := Bool.and_eq_true_iff.mp overtakes
      rw [found, saved, Option.map_some, Option.map_some, of_decide_eq_true both.1]
    · rename_i found saved
      rw [found, saved]
    · cases overtakes
  have unchanged : document.changesArray = false := by
    rw [changesArray, marks, pickups, deliveries]
    cases leg <;> rfl
  cases leg with
  | pickup =>
    have same : document.order.pickupAssignment.map
          LegAssignment.unlocated =
        row.pickupAssignment.map LegAssignment.unlocated := same
    simp [OnlineOrder.unlocated, writeTo, pick, marks, pickups, deliveries,
      unchanged, CourierLeg.path, same]
  | «return» =>
    have same : document.order.returnAssignment.map
          LegAssignment.unlocated =
        row.returnAssignment.map LegAssignment.unlocated := same
    simp [OnlineOrder.unlocated, writeTo, pick, marks, pickups, deliveries,
      unchanged, CourierLeg.path, same]

end

/-! ## Runs -/

section

variable {castToObjectId : String → Option ObjectId} {orderId : ObjectId}
  {leg : CourierLeg} {state after : State} {action : Action}
  {row : OnlineOrder}

theorem Callback.aim_of_commit {clock : Clock} {callback : Callback}
    {database database' : Database} {document document' : OrderDocument}
    (outcome : (callback.program clock).commit database document = (.ok (), database', document')) :
    callback.aim ∈ (callback.origin document).1.transitions := by
  cases callback with
  | create customerUid book promo =>
    have striding := (@Striding.created document.order._id customerUid
      book document.order.fulfillment.pickupMode database
      document.order.status document.order.version clock).committed
      ⟨rfl, rfl, rfl, rfl, rfl⟩ outcome
    exact @Striding.allowed _ (.create customerUid book promo) _ _ _ _ _ _ striding
  | _ => exact (Callback.strides (by rintro _ _ _ ⟨⟩) outcome).allowed

/-- A step that replaces no assignment takes no marker back. -/
theorem onward_step (tidy : state.Tidy)
    (unraced : Unraced orderId state action)
    (kept : reassigned orderId leg state action = false)
    (stepped : (orderSystem castToObjectId).step action state = some after)
    (found : state.database.orders.lookup orderId = some row) :
    ∃ later, after.database.orders.lookup orderId = some later ∧
      row.Onward leg later := by
  have cases := @step_cases orderId _ _ _ tidy _ stepped
  cases cases with
  | aside beside _ =>
    exact ⟨row, beside.same.row.trans found, .of_eq rfl⟩
  | saved index environment clock document saved written commits flying about outcome beside _ =>
    subst commits about
    refine ⟨written, beside.same.row.trans (AList.lookup_insert _), ?_⟩
    rcases OrderDocument.save_cases outcome with ⟨_, absent, _⟩ | ⟨_, _, found', rfl⟩
    · cases found.symm.trans absent
    · cases found.symm.trans found'
      by_cases marked : leg.path ∈ document.modified
      · have each : document.eachMarked (document.overtakes row) =
            true := by
          simpa [Unraced, Orders.unraced, flying, found] using unraced
        apply document.onward_of_overtakes (OrderDocument.holds_of_eachMarked each marked)
        rw [document.assignment_writeTo row leg, if_pos marked]
      · apply OnlineOrder.Onward.of_eq
        rw [document.assignment_writeTo row leg, if_neg marked]
  | committed index environment clock operation callback prepared document
      document' database commits flying about outcome beside _ =>
    subst commits about
    have aims := Callback.aim_of_commit outcome
    rcases commit_ok.mp outcome with ⟨finish, ran, rfl, rfl⟩
    have rostered := @Rostered.of_run clock callback state.database document none
    rw [runOnce, ran] at rostered
    rcases rostered.row row found with ⟨later, stored, assigned⟩
    refine ⟨later, beside.same.row.trans stored, ?_⟩
    rcases assigned leg with same | ⟨marked, same⟩
    · exact .of_eq same
    · have each : (document.eachMarked fun leg =>
          operation.any (fun method => method.reassigns leg) ||
            document.retains row leg) = true := by
        simpa [Unraced, Orders.unraced, flying, found, aims] using unraced
      have either := OrderDocument.holds_of_eachMarked each marked
      have replaces :
          operation.any (fun method => method.reassigns leg) =
            false := by
        simpa [reassigned, flying] using kept
      rw [replaces, Bool.false_or] at either
      exact document.onward_of_retains either same

theorem ping_step (tidy : state.Tidy)
    (pings : ∀ call ∈ state.calls, call.Pings) {index : ℕ}
    {environment : Environment} {clock : Clock} {document : OrderDocument}
    (unraced : Unraced orderId state (.commit index environment clock))
    (flying : state.calls[index]? = some (.save document))
    (about : document.order._id = orderId)
    (marked : leg.path ∈ document.modified)
    (stepped : (orderSystem castToObjectId).step
      (.commit index environment clock) state = some after)
    (found : state.database.orders.lookup orderId = some row) :
    ∃ later, after.database.orders.lookup orderId = some later ∧
      later.unlocated = row.unlocated := by
  have ping : document.Pings :=
    (pings _ (List.mem_of_getElem? flying)).resolve_left
      fun unassigning => unassigning leg marked
  have cases := @step_cases orderId _ _ castToObjectId tidy
    (.commit index environment clock) stepped
  cases cases with
  | aside beside _ => exact ⟨row, beside.same.row.trans found, rfl⟩
  | saved _ _ _ document' saved written commits flying' about' outcome beside _ =>
    cases commits
    cases flying.symm.trans flying'
    refine ⟨written, beside.same.row.trans (AList.lookup_insert _), ?_⟩
    rcases OrderDocument.save_ok ping.inserted outcome with ⟨old, found', rfl, _⟩
    cases found.symm.trans found'
    apply OrderDocument.unlocated_writeTo ping
    simpa [Unraced, Orders.unraced, flying, found, about] using unraced
  | committed _ _ _ _ _ _ _ _ _ commits flying' =>
    cases commits
    cases flying.symm.trans flying'

/--
In a run that writes assignments over what it has read, the marker of a courier never
goes back within one assignment, and a ping changes nothing but the fix.
-/
theorem courierMarkersAdvance
    (reached : (orderSystem castToObjectId).Reaches (Unraced orderId) .start state)
    (found : state.database.orders.lookup orderId = some row) :
    (∀ leg assignment after, row.assignment leg = some assignment →
      (orderSystem castToObjectId).Reaches (fun state action =>
        Unraced orderId state action ∧ reassigned orderId leg state action = false) state after →
      ∃ later next, after.database.orders.lookup orderId = some later ∧
        later.assignment leg = some next ∧ assignment.Onward next) ∧
    ∀ index environment clock document (leg : CourierLeg) after,
      Unraced orderId state (.commit index environment clock) →
      state.calls[index]? = some (.save document) →
      document.order._id = orderId → leg.path ∈ document.modified →
      (orderSystem castToObjectId).step (.commit index environment clock) state = some after →
      ∃ later, after.database.orders.lookup orderId = some later ∧
        later.unlocated = row.unlocated := by
  constructor
  · intro leg assignment after assigned continues
    have onward : ∃ later,
        after.database.orders.lookup orderId = some later ∧
          ∃ next, later.assignment leg = some next ∧
            assignment.Onward next := by
      induction continues with
      | refl => exact ⟨row, found, assignment, assigned, .refl _⟩
      | next earlier allowed stepped induction =>
        rcases induction with ⟨middle, found', between, stands, onward⟩
        have reached' := reached.trans (earlier.weaken fun _ _ both => both.1)
        rcases onward_step (.of_reaches reached') allowed.1 allowed.2
          stepped found' with ⟨later, stored, moves⟩
        rcases moves between stands with ⟨next, named, further⟩
        exact ⟨later, stored, next, named, onward.trans further⟩
    rcases onward with ⟨later, stored, next, named, further⟩
    exact ⟨later, next, stored, named, further⟩
  · intro index environment clock document leg after unraced flying about marked stepped
    exact ping_step (.of_reaches reached) (pings_of_reaches reached)
      unraced flying about marked stepped found

end

namespace Shop

def ping (number : ℕ) : Operation :=
  .updateCourierLocation
    { latitude := 14
      longitude := 121
      accuracy := none
      speed := none
      heading := none
      recordedAt := number
      sequence := number }

def riding : List Action :=
  unassigned ++ calls owner (.assignPickupStaff "courier") ++ calls courier (ping 1)

def fix (state : State) : Option ℤ :=
  (state.database.orders.lookup "order").bind fun row =>
    (row.assignment .pickup).bind LegAssignment.locationSequence

theorem fix_of_assignment {state : State} {last : ℤ}
    (fixed : fix state = some last) :
    ∃ row assignment, state.database.orders.lookup "order" = some row ∧
      row.assignment .pickup = some assignment ∧
      assignment.locationSequence = some last := by
  rcases Option.bind_eq_some_iff.mp fixed with ⟨row, found, named⟩
  rcases Option.bind_eq_some_iff.mp named with ⟨assignment, stands, last⟩
  exact ⟨row, assignment, found, stands, last⟩

end Shop

/-- The courier sets out and reports another position. -/
theorem courierMarkersAdvance_shop :
    ∃ state after row assignment later next,
      (orderSystem some).Reaches (Unraced "order") .start state ∧
        state.database.orders.lookup "order" = some row ∧
        row.assignment .pickup = some assignment ∧
        assignment.locationSequence = some 1 ∧
        after.database.orders.lookup "order" = some later ∧
        later.assignment .pickup = some next ∧ Shop.fix after = some 2 ∧
        assignment.Onward next := by
  have performed :
      (((orderSystem some).restrict (Unraced "order")).perform
        Shop.riding .start).bind (fun state =>
          (((orderSystem some).restrict (fun state action =>
              Unraced "order" state action ∧
                reassigned "order" .pickup state action = false)).perform
            (Shop.calls Shop.courier .startPickupRoute ++
              Shop.calls Shop.courier (Shop.ping 2)) state).map fun after =>
            (Shop.fix state, Shop.fix after)) = some (some 1, some 2) := by
    decide +kernel
  rcases System.reaches_of_bind_restrict performed with ⟨state, reached, seen⟩
  rcases System.reaches_of_map_restrict seen with ⟨after, went, fixes⟩
  rcases Prod.mk.inj fixes with ⟨first, second⟩
  rcases Shop.fix_of_assignment first with ⟨row, assignment, found, stands, sequence⟩
  rcases (courierMarkersAdvance reached found).1 .pickup assignment after stands went with
    ⟨later, next, stored, named, onward⟩
  exact ⟨state, after, row, assignment, later, next, reached, found, stands,
    sequence, stored, named, second, onward⟩

/-- Two pings are read before the later one is saved, and then the earlier. -/
theorem courierMarkerGoesBack :
    ¬ ∀ (orderId : ObjectId) (leg : CourierLeg) (state after : State)
        (row : OnlineOrder) (assignment : LegAssignment),
      (orderSystem some).Reaches (fun _ _ => True) .start state →
      state.database.orders.lookup orderId = some row →
      row.assignment leg = some assignment →
      (orderSystem some).Reaches (fun state action =>
        reassigned orderId leg state action = false) state after →
      ∃ later next, after.database.orders.lookup orderId = some later ∧
        later.assignment leg = some next ∧ assignment.Onward next := by
  intro always
  have performed :
      ((orderSystem some).perform (Shop.riding ++
          [ Shop.requests Shop.courier (Shop.ping 2),
            Shop.requests Shop.courier (Shop.ping 3),
            .commit 1 Shop.environment (Shop.clock 2) ]) .start).bind
        (fun state =>
          (((orderSystem some).restrict (fun state action =>
              reassigned "order" .pickup state action = false)).perform
            [Shop.proceeds] state).map fun after =>
              (Shop.fix state, Shop.fix after)) =
        some (some 3, some 2) := by
    decide +kernel
  rcases System.reaches_of_bind performed with ⟨state, ran, seen⟩
  rcases System.reaches_of_map_restrict seen with ⟨after, went, fixes⟩
  rcases Prod.mk.inj fixes with ⟨first, second⟩
  rcases Shop.fix_of_assignment first with ⟨row, assignment, found, stands, sequence⟩
  rcases always "order" .pickup state after row assignment
    ran found stands
    went with
    ⟨later, next, stored, named, onward⟩
  rcases onward.sequence 3 sequence with ⟨last, fixed, above⟩
  have here : Shop.fix after = next.locationSequence := by
    rw [Shop.fix, stored, Option.bind_some, named, Option.bind_some]
  rw [here, fixed] at second
  cases second
  exact absurd above (by decide)

end Lalaba.Orders
