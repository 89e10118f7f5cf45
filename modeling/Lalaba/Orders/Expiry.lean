import Lalaba.Orders.Punctuality

/-!
# Orders that are given up

The sweep lists the waiting orders whose deadline has passed, and gives each of
them up in a call of its own.  That call reads the order again and looks at its
status only: an order that was reinstated since it was listed has a fresh deadline,
and is given up all the same.  In a timely run the deadline of the order that is
given up is the one the call has read.
-/

namespace Lalaba.Orders

open Foundation
open Foundation.Program

def OnlineOrder.Expired (clock : Clock) (order : OnlineOrder) : Prop :=
  ∃ deadline, order.abandonmentDeadlineAt = some deadline ∧ deadline ≤ clock.now

instance (clock : Clock) (order : OnlineOrder) :
    Decidable (order.Expired clock) :=
  match deadline : order.abandonmentDeadlineAt with
  | none => .isFalse fun expired => by
      rcases expired with ⟨_, dated, _⟩
      rw [deadline] at dated
      cases dated
  | some instant =>
    decidable_of_iff (instant ≤ clock.now)
      ⟨fun passed => ⟨instant, deadline, passed⟩, fun expired => by
        rcases expired with ⟨_, dated, passed⟩
        rw [deadline] at dated
        cases dated
        exact passed⟩

variable {clock : Clock} {database : Database} {orderId : ObjectId}

theorem OnlineOrder.Expired.later {clock' : Clock} {order other : OnlineOrder}
    (expired : order.Expired clock) (same : other.clocks = order.clocks)
    (forward : clock.now ≤ clock'.now) : other.Expired clock' := by
  rcases expired with ⟨deadline, dated, passed⟩
  have deadlines : other.abandonmentDeadlineAt =
      order.abandonmentDeadlineAt :=
    congrArg Prod.snd same
  exact ⟨deadline, deadlines.trans dated, passed.trans forward⟩

theorem OnlineOrder.expired_congr {order other : OnlineOrder}
    (same : other.clocks = order.clocks) :
    other.Expired clock ↔ order.Expired clock := by
  constructor
  · exact fun expired => expired.later same.symm le_rfl
  · exact fun expired => expired.later same le_rfl

section

variable {castToObjectId : String → Option ObjectId} {orderId : ObjectId}
  {state after : State} {action : Action}

theorem abandonUnsettledOrder_reads {row : OnlineOrder}
    {callback : Callback} {prepared : OrderDocument}
    (called : abandonUnsettledOrder row = .ok (.transaction callback prepared)) :
    prepared = .ofRow row ∧ callback.next = none := by
  rw [abandonUnsettledOrder] at called
  split at called
  · cases called
  · cases called
    exact ⟨rfl, rfl⟩

theorem Traced.swept {callback : Callback} {prepared : OrderDocument}
    (traced : Traced castToObjectId (Timely orderId) state
      (some .abandonUnsettledOrder) callback prepared) :
    ∃ read, prepared = .ofRow read ∧
      Requested castToObjectId (Timely orderId) state
        .abandonUnsettledOrder callback prepared := by
  cases traced with
  | booked _ _ _ _ _ _ _ _ of => cases of
  | requested method of requested =>
    cases of
    have requested' := requested
    cases requested' with
    | intro environment clock actor read _ _ _ _ _ _ _ prepares =>
      exact ⟨read, (abandonUnsettledOrder_reads prepares).1, requested⟩
  | following method first before target _ _ of requested next =>
    cases of
    cases requested with
    | intro environment clock actor read _ _ _ _ _ _ _ prepares =>
      rw [(abandonUnsettledOrder_reads prepares).2] at next
      cases next

/--
When a timely step of the sweep gives an order up, the stored order has expired
exactly when the order that its call has read has expired by then.
-/
theorem abandonedOrdersHaveExpired {index : ℕ} {environment : Environment}
    {clock : Clock} {callback : Callback} {prepared document : OrderDocument}
    {row later : OnlineOrder}
    (reached : (orderSystem castToObjectId).Reaches (Timely orderId) .start state)
    (timely : Timely orderId state (.commit index environment clock))
    (flying : state.calls[index]? = some (.transaction
      (some .abandonUnsettledOrder) callback prepared document))
    (stepped : (orderSystem castToObjectId).step
      (.commit index environment clock) state = some after)
    (found : state.database.orders.lookup orderId = some row)
    (stood : row.status ≠ .abandonedUnsettled)
    (found' : after.database.orders.lookup orderId = some later)
    (abandoned : later.status = .abandonedUnsettled) :
    ∃ read, prepared = .ofRow read ∧
      Requested castToObjectId (Timely orderId) state .abandonUnsettledOrder callback prepared ∧
      (row.Expired clock ↔ read.Expired clock) := by
  have tidy := State.Tidy.of_reaches reached
  have onTime := onTime_of_reaches (fun _ _ timely => timely) reached
  have member := List.mem_of_getElem? flying
  rcases (traced_of_reaches reached _ _ _ _ member).1.swept with ⟨read, rfl, requested⟩
  refine ⟨read, rfl, requested, ?_⟩
  have cases : Stepped orderId state (.commit index environment clock)
      after :=
    @step_cases orderId state after castToObjectId tidy _ stepped
  cases cases with
  | aside beside _ =>
    rw [beside.same.row, found] at found'
    cases found'
    exact (stood abandoned).elim
  | committed _ _ _ _ _ _ _ _ _ commits flying' about outcome =>
    cases commits
    cases flying.symm.trans flying'
    have advanced := (onTime.sound _ member about).commits timely flying about outcome
    cases advanced with
    | opened _ _ _ absent =>
      rw [absent] at found
      cases found
    | moved old _ existing found'' stands =>
      cases found.symm.trans found''
      have timed : Timed orderId state (.transaction
          (some .abandonUnsettledOrder) callback (.ofRow read)
          document) :=
        (ticking_of_reaches reached).sound _ member about
      have abreast := timed.2.2.2 existing row found stands
      exact OnlineOrder.expired_congr abreast.clocks
  | saved _ _ _ _ _ _ commits flying' =>
    cases commits
    cases flying.symm.trans flying'

end

def Shop.dawn : Clock := Shop.clock 864000000

def Shop.givesUp : List Action :=
  [.request Shop.environment Shop.dawn Shop.owner "order" .abandonUnsettledOrder]

/-- Is this a call of `abandonUnsettledOrder`? -/
def Call.sweeps : Call → Bool
  | .transaction (some .abandonUnsettledOrder) _ _ _ => true
  | _ => false

theorem Call.sweeps_transaction {call : Call}
    (sweeps : call.sweeps = true) :
    ∃ callback prepared document, call = .transaction
      (some .abandonUnsettledOrder) callback prepared document := by
  unfold Call.sweeps at sweeps
  split at sweeps
  · exact ⟨_, _, _, rfl⟩
  · cases sweeps

/-- Nobody has paid for the laundry of the shop in time. -/
theorem abandonedOrdersHaveExpired_washed :
    ∃ state row read callback prepared,
      state.database.orders.lookup "order" = some row ∧
        row.Expired Shop.dawn ∧ prepared = .ofRow read ∧
        Requested some (Timely "order") state .abandonUnsettledOrder callback prepared ∧
        (row.Expired Shop.dawn ↔ read.Expired Shop.dawn) := by
  have performed :
      (((orderSystem some).restrict (Timely "order")).perform
        (Shop.washed ++ [.sweep Shop.dawn] ++ Shop.givesUp) .start).bind
        (fun state =>
          (((orderSystem some).restrict (Timely "order")).step
            (.commit 0 Shop.environment Shop.dawn) state).bind fun after =>
          (state.calls[0]?).bind fun call =>
          (state.database.orders.lookup "order").bind fun row =>
            (after.database.orders.lookup "order").map fun later =>
              (call.sweeps, decide (row.Expired Shop.dawn), row.status, later.status)) =
        some (true, true, .awaitingCustomerPickup, .abandonedUnsettled) := by
    decide +kernel
  rcases System.reaches_of_bind_restrict performed with ⟨state, ran, seen⟩
  rcases Option.bind_eq_some_iff.mp seen with ⟨after, went, seen⟩
  rcases Option.bind_eq_some_iff.mp seen with ⟨call, flying, seen⟩
  rcases Option.bind_eq_some_iff.mp seen with ⟨row, found, seen⟩
  rcases Option.map_eq_some_iff.mp seen with ⟨later, found', facts⟩
  simp only [Prod.mk.injEq, decide_eq_true_eq] at facts
  rcases facts with ⟨sweeps, expired, waits, abandoned⟩
  rcases Call.sweeps_transaction sweeps with ⟨callback, prepared, document, rfl⟩
  rcases System.restrict_step went with ⟨timely, stepped⟩
  rcases abandonedOrdersHaveExpired
    ran timely flying stepped found
    (by rw [waits]; decide) found' abandoned with
    ⟨read, of, requested, same⟩
  exact ⟨state, row, read, callback, prepared, found, expired, of, requested, same⟩

def Shop.support : User := person "support" "support"

/--
Two sweeps find the order.  One gives it up, support reinstates it, and then the
other comes to it.
-/
def Shop.reinstated : List Action :=
  washed ++ [.sweep dawn, .sweep dawn] ++ givesUp ++
    [ .commit 0 environment dawn,
      .request environment dawn support "order" (.reinstateAbandonedOrder none),
      .commit 0 environment dawn ] ++ givesUp

/-- The reinstated order is given up with a week left. -/
theorem abandonedOrderNotExpired :
    ¬ ∀ (orderId : ObjectId) (state after : State) (index : ℕ)
        (environment : Environment) (clock : Clock) (callback : Callback)
        (prepared document : OrderDocument) (row later : OnlineOrder),
        (orderSystem some).Reaches (fun _ _ => True) .start state →
        state.calls[index]? = some (.transaction
          (some .abandonUnsettledOrder) callback prepared document) →
        (orderSystem some).step (.commit index environment clock) state = some after →
        state.database.orders.lookup orderId = some row →
        row.status ≠ .abandonedUnsettled →
        after.database.orders.lookup orderId = some later →
        later.status = .abandonedUnsettled → row.Expired clock := by
  intro always
  have performed : ((orderSystem some).perform Shop.reinstated .start).bind (fun state =>
          ((orderSystem some).step (.commit 0 Shop.environment Shop.dawn) state).bind fun after =>
          (state.calls[0]?).bind fun call =>
          (state.database.orders.lookup "order").bind fun row =>
            (after.database.orders.lookup "order").map fun later =>
              (call.sweeps, decide (row.Expired Shop.dawn), row.status, later.status)) =
        some (true, false, .awaitingCustomerPickup, .abandonedUnsettled) := by
    decide +kernel
  rcases System.reaches_of_bind performed with ⟨state, ran, seen⟩
  rcases Option.bind_eq_some_iff.mp seen with ⟨after, stepped, seen⟩
  rcases Option.bind_eq_some_iff.mp seen with ⟨call, flying, seen⟩
  rcases Option.bind_eq_some_iff.mp seen with ⟨row, found, seen⟩
  rcases Option.map_eq_some_iff.mp seen with ⟨later, found', facts⟩
  simp only [Prod.mk.injEq, decide_eq_false_iff_not] at facts
  rcases facts with ⟨sweeps, fresh, waits, abandoned⟩
  rcases Call.sweeps_transaction sweeps with ⟨callback, prepared, document, rfl⟩
  exact fresh (always "order" state after 0 _ _ callback prepared document
    row later ran flying stepped found
    (by rw [waits]; decide) found' abandoned)

end Lalaba.Orders
