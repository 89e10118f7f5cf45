import Lalaba.Orders.Provenance
import Lalaba.Orders.Conservation

/-!
# Who lets an order in

`acceptOrder` asks whether the provider still operates and whether its wallet
covers the fee.  An order becomes accepted in other ways, too: by an override, and
by a customer who approves a proposed change, which asks nothing of the provider.
-/

namespace Lalaba.Orders

open Foundation
open Foundation.Program
open Wallets

/-- What `acceptOrder` asks of a provider before it takes an order. -/
structure Gated (environment : Environment) (database : Database) (row : OnlineOrder) : Prop where
  bookable : ∃ washer, assertProviderAccepting environment database row = .ok washer
  solvent : database.wallets.assertCanAcceptOrder row.provider.branchId
    (row.pricing.platformFeeCentavos.getD 0) = .ok ()

theorem acceptOrder_gated {environment : Environment} {actor : User}
    {database : Database} {row : OnlineOrder} :
    Yields (acceptOrder environment actor database row)
      (fun _ => Gated environment database row) := by
  apply Yields.checked
  apply Yields.bind
  intro washer bookable
  apply Yields.bind
  intro _ solvent
  exact Yields.pure ⟨⟨washer, bookable⟩, solvent⟩

theorem Callback.aim_of_accepts {callback : Callback}
    {pickupMode : FulfillmentPickupMode}
    (accepts : .acceptedByProvider ∈ callback.targets pickupMode) :
    callback.aim = .acceptedByProvider := by
  cases callback with
  | respond customerUid approve =>
    cases approve with
    | true => rfl
    | false => simp [targets] at accepts
  | accept => rfl
  | saveThenTransition => exact (List.mem_singleton.mp accepts).symm
  | handOver => simpa [targets, aim, eq_comm] using accepts
  | _ => simp [targets] at accepts

theorem Operation.accepts {method : Operation} {row : OnlineOrder}
    (aims : method.aim row = some .acceptedByProvider) :
    method = .acceptOrder ∨ method = .respondToProviderChange true ∨
      ∃ note, method = .overrideStatus .acceptedByProvider note := by
  cases method with
  | acceptOrder => exact .inl rfl
  | respondToProviderChange approve =>
    cases approve with
    | true => exact .inr (.inl rfl)
    | false => simp [aim] at aims
  | overrideStatus target note =>
    cases aims
    exact .inr (.inr ⟨note, rfl⟩)
  | chooseReturnOption returnMode =>
    cases returnMode <;> simp [aim, returnTarget] at aims
  | reinstateAbandonedOrder note =>
    simp only [aim, Option.some.injEq] at aims
    split at aims <;> cases aims
  | _ => simp [aim] at aims

def outright (orderId : ObjectId) (state : State) : Action → Bool
  | .commit index _ _ =>
    match state.calls[index]? with
    | some (.transaction (some (.respondToProviderChange true)) _ _
        document) => decide (document.order._id ≠ orderId)
    | _ => true
  | _ => true

theorem committed_of_new {castToObjectId : String → Option ObjectId}
    {orderId : ObjectId} {state after : State} {action : Action}
    {event : OrderEvent} (tidy : state.Tidy)
    (stepped : (orderSystem castToObjectId).step action state = some after)
    (entered : event ∈ after.database.transitionsOf orderId)
    (new : event ∉ state.database.transitionsOf orderId) :
    ∃ index environment clock operation callback prepared document,
      action = .commit index environment clock ∧
        state.calls[index]? = some (.transaction operation callback prepared document) ∧
        document.order._id = orderId ∧
        event.toStatus ∈ callback.targets document.order.fulfillment.pickupMode := by
  have cases := @step_cases orderId _ _ _ tidy _ stepped
  cases cases with
  | aside beside | saved _ _ _ _ _ _ _ _ _ _ beside =>
    rw [beside.same.transitions] at entered
    exact (new entered).elim
  | committed index environment clock operation callback prepared document
      document' database commits flying about outcome beside _ =>
    rw [beside.same.transitions] at entered
    rcases Callback.moved outcome with ⟨rows, appended, walk, _⟩
    rw [about] at appended
    have entered : event ∈ database.transitionsOf orderId := entered
    rw [appended] at entered
    rcases List.mem_append.mp entered with old | row
    · exact (new old).elim
    · refine ⟨index, environment, clock, operation, callback, prepared,
        document, commits, flying, about, ?_⟩
      rw [← walk]
      exact List.mem_map_of_mem row

/--
In a run without a customer's approval of a change, whatever takes an order to
the accepted status is an override, or a call whose gate was passed when it was
made.
-/
theorem acceptanceIsGated {castToObjectId : String → Option ObjectId}
    {orderId : ObjectId} {state after : State} {action : Action}
    {event : OrderEvent}
    (reached : (orderSystem castToObjectId).Reaches
      (fun state action => outright orderId state action = true) .start state)
    (allowed : outright orderId state action = true)
    (stepped : (orderSystem castToObjectId).step action state = some after)
    (entered : event ∈ after.database.transitionsOf orderId)
    (new : event ∉ state.database.transitionsOf orderId)
    (accepted : event.toStatus = .acceptedByProvider) :
    ∃ index environment clock method callback prepared document,
      action = .commit index environment clock ∧
      state.calls[index]? = some (.transaction (some method) callback prepared document) ∧
      document.order._id = orderId ∧
      ((∃ note, method = .overrideStatus .acceptedByProvider note) ∨
        ∃ environment clock actor row earlier next, (orderSystem castToObjectId).Reaches
            (fun state action => outright orderId state action = true) .start earlier ∧
          (orderSystem castToObjectId).step
            (.request environment clock actor orderId method) earlier = some next ∧
          (orderSystem castToObjectId).Reaches
            (fun state action => outright orderId state action = true) next state ∧
          earlier.database.orders.lookup orderId = some row ∧
          method.prepare environment clock actor earlier.database row =
            .ok (.transaction callback prepared) ∧
          Gated environment earlier.database row) := by
  have tidy := State.Tidy.of_reaches reached
  rcases committed_of_new tidy stepped entered new with
    ⟨index, environment, clock, operation, callback, prepared, document,
      commits, flying, about, target⟩
  rw [accepted] at target
  have aim := Callback.aim_of_accepts target
  rcases traced_of_reaches reached _ _ _ _ (List.mem_of_getElem? flying) with ⟨traced, identified⟩
  cases traced with
  | booked _ _ _ _ _ _ _ _ _ ordered =>
    rcases (createOrder_books _ ordered).creates with ⟨_, _, _, rfl⟩
    cases aim
  | following method first before next actorUid actorRole _ requested follows is =>
    subst is
    cases aim
    rcases requested.drafts with ⟨_, _, drafted⟩
    have listed := drafted.follows _ follows
    simp [followUps] at listed
  | requested method of requested =>
    subst of
    refine ⟨index, environment, clock, method, callback, prepared,
      document, commits, flying, about, ?_⟩
    rcases requested.drafts with ⟨_, row, drafted⟩
    have aims := drafted.aims
    rw [aim] at aims
    rcases Operation.accepts aims with rfl | rfl | forced
    · cases requested with
      | intro environment clock actor row earlier next before _ called continues found prepares =>
        rw [identified, about] at found called
        exact .inr ⟨environment, clock, actor, row, earlier, next,
          before, called, continues, found, prepares, acceptOrder_gated _ prepares⟩
    · subst commits
      simp [outright, flying, about] at allowed
    · exact .inl forced

def Shop.acceptances (state after : State) : List OrderEvent :=
  (after.database.transitionsOf "order").filter fun event =>
    event.toStatus == .acceptedByProvider && !(state.database.transitionsOf "order").contains event

theorem Shop.mem_acceptances {state after : State} {event : OrderEvent}
    (member : event ∈ acceptances state after) :
    event ∈ after.database.transitionsOf "order" ∧
      event ∉ state.database.transitionsOf "order" ∧
      event.toStatus = .acceptedByProvider := by
  rcases List.mem_filter.mp member with ⟨entered, checked⟩
  rw [Bool.and_eq_true, beq_iff_eq, Bool.not_eq_true',
    List.contains_eq_mem, decide_eq_false_iff_not] at checked
  exact ⟨entered, checked.2, checked.1⟩

/-- Is this a call of `acceptOrder`? -/
def Shop.accepts : Call → Bool
  | .transaction (some .acceptOrder) _ _ _ => true
  | _ => false

/-- The shop's owner accepts an order, and has passed the gate. -/
theorem acceptanceIsGated_shop :
    ∃ state after event,
      (orderSystem some).step Shop.proceeds state = some after ∧
        event ∈ Shop.acceptances state after ∧
        ∃ environment row earlier,
          (orderSystem some).Reaches
            (fun state action => outright "order" state action = true)
            .start earlier ∧
          earlier.database.orders.lookup "order" = some row ∧
          Gated environment earlier.database row := by
  have performed : (((orderSystem some).restrict fun state action =>
          outright "order" state action = true).perform (Shop.funding ++
          Shop.placing (Shop.booking .customerDropoff .customerSelfPickup) ++
          [Shop.requests Shop.owner .acceptOrder]) .start).bind
        (fun state =>
          ((orderSystem some).step Shop.proceeds state).map fun after =>
            ((Shop.acceptances state after).length,
              state.calls.all Shop.accepts,
              outright "order" state Shop.proceeds)) =
        some (1, true, true) := by
    decide +kernel
  rcases System.reaches_of_bind_restrict performed with ⟨state, ran, seen⟩
  rcases Option.map_eq_some_iff.mp seen with ⟨after, stepped, facts⟩
  simp only [Prod.mk.injEq] at facts
  rcases facts with ⟨one, calls, allowed⟩
  rcases List.exists_mem_of_length_pos (lt_of_lt_of_eq Nat.one_pos one.symm) with ⟨event, member⟩
  rcases Shop.mem_acceptances member with ⟨entered, new, accepted⟩
  rcases acceptanceIsGated ran allowed stepped entered new accepted with
    ⟨_, _, _, method, _, _, _, _, flying, _, ⟨note, rfl⟩ |
      ⟨environment, _, _, row, earlier, _, reached, _, _, found, _, gated⟩⟩
  · have accepts := List.all_eq_true.mp calls _ (List.mem_of_getElem? flying)
    cases accepts
  · exact ⟨state, after, event, stepped, member, environment, row, earlier, reached, found, gated⟩

def Shop.closed : Environment :=
  { Shop.environment with
    branches := fun branchId =>
      if branchId = "branch" then
        some { Shop.branch with isActive := false }
      else
        none }

def Shop.proposed : List Action :=
  Shop.funding ++
    Shop.placing (Shop.booking .customerDropoff .customerSelfPickup) ++
    Shop.calls Shop.owner (.proposeOrderChange "More shirts" none)

/--
The customer approves the change of a shop that has closed, and the order is
accepted.
-/
theorem acceptanceNotGated :
    ¬ ∀ (orderId : ObjectId) (earlier next after : State)
        (environment environment' : Environment) (clock clock' : Clock)
        (actor : User) (method : Operation) (row : OnlineOrder)
        (event : OrderEvent),
        (orderSystem some).Reaches (fun _ _ => True) .start earlier →
        earlier.database.orders.lookup orderId = some row →
        (∀ note, method ≠ .overrideStatus .acceptedByProvider note) →
        (orderSystem some).step
          (.request environment clock actor orderId method) earlier = some next →
        (orderSystem some).step
          (.commit earlier.calls.length environment' clock') next = some after →
        event ∈ after.database.transitionsOf orderId →
        event ∉ earlier.database.transitionsOf orderId →
        event.toStatus = .acceptedByProvider →
        Gated environment earlier.database row := by
  intro always
  have performed : ((orderSystem some).perform Shop.proposed .start).bind (fun earlier =>
          ((orderSystem some).step
            (.request Shop.closed (Shop.clock 2) Shop.customer "order"
              (.respondToProviderChange true)) earlier).bind fun next =>
          ((orderSystem some).step
            (.commit earlier.calls.length Shop.closed (Shop.clock 2))
            next).bind fun after =>
          (earlier.database.orders.lookup "order").map fun row =>
            ((Shop.acceptances earlier after).length,
              (assertProviderAccepting Shop.closed earlier.database
                row).toOption.isSome)) = some (1, false) := by
    decide +kernel
  rcases System.reaches_of_bind performed with ⟨earlier, ran, seen⟩
  rcases Option.bind_eq_some_iff.mp seen with ⟨next, called, seen⟩
  rcases Option.bind_eq_some_iff.mp seen with ⟨after, stepped, seen⟩
  rcases Option.map_eq_some_iff.mp seen with ⟨row, found, facts⟩
  simp only [Prod.mk.injEq] at facts
  rcases facts with ⟨one, refused⟩
  rcases List.exists_mem_of_length_pos (lt_of_lt_of_eq Nat.one_pos one.symm) with ⟨event, member⟩
  rcases Shop.mem_acceptances member with ⟨entered, new, accepted⟩
  rcases (always "order" earlier next after _ _ _ _ _ _ row event
    ran found (by simp) called stepped
    entered new accepted).bookable with ⟨washer, bookable⟩
  rw [bookable] at refused
  cases refused

end Lalaba.Orders
