import Lalaba.Orders.Abandonment
import Lalaba.Orders.History

/-!
# Orders that were given up

The table has two edges out of the abandoned status, which support takes when it
reinstates an order.  Most methods check nothing but the table, and one of them
takes an order along such an edge as well: the customer's choice of how the laundry
comes back.
-/

namespace Lalaba.Orders

open Foundation
open Foundation.Program

def Operation.revives : Operation → Bool
  | .reinstateAbandonedOrder _ | .overrideStatus _ _ => true
  | _ => false

def unchosen (orderId : ObjectId) (state : State) : Action → Bool
  | .commit index _ _ =>
    match state.calls[index]? with
    | some (.transaction (some (.chooseReturnOption .customerSelfPickup)) _ _ document) =>
      decide (document.order._id ≠ orderId) || (state.database.orders.lookup orderId).all fun row =>
          row.status != .abandonedUnsettled
    | _ => true
  | _ => true

theorem Operation.revives_of_aim {method : Operation} {row : OnlineOrder}
    {target : OrderStatus}
    (leaves : target ∈ OrderStatus.abandonedUnsettled.transitions)
    (aims : method.aim row = some target) :
    method.revives ∨ method = .chooseReturnOption .customerSelfPickup := by
  have targets : target = .awaitingRedeliverySelection ∨ target = .awaitingCustomerPickup := by
    simpa [OrderStatus.transitions] using leaves
  cases method with
  | chooseReturnOption returnMode =>
    cases returnMode with
    | customerSelfPickup => exact .inr rfl
    | providerDelivery => rcases targets with rfl | rfl <;> cases aims
  | reinstateAbandonedOrder | overrideStatus => exact .inl rfl
  | respondToProviderChange approve =>
    cases approve <;> rcases targets with rfl | rfl <;> cases aims
  | _ => rcases targets with rfl | rfl <;> cases aims

/--
In a timely run in which no choice to fetch the laundry is committed on it, an
abandoned order stays abandoned until support revives it.
-/
theorem abandonedOrdersStay {castToObjectId : String → Option ObjectId}
    {orderId : ObjectId} {state after : State} {action : Action}
    {row : OnlineOrder}
    (reached : (orderSystem castToObjectId).Reaches
      (fun state action => Timely orderId state action ∧
        unchosen orderId state action = true) .start state)
    (allowed : Timely orderId state action ∧ unchosen orderId state action = true)
    (stepped : (orderSystem castToObjectId).step action state = some after)
    (found : state.database.orders.lookup orderId = some row)
    (abandoned : row.status = .abandonedUnsettled) :
    (∃ later, after.database.orders.lookup orderId = some later ∧
        later.status = .abandonedUnsettled) ∨
      ∃ index environment clock method callback prepared document,
        action = .commit index environment clock ∧
          state.calls[index]? = some (.transaction (some method) callback prepared document) ∧
          document.order._id = orderId ∧ method.revives = true := by
  have onTime := onTime_of_reaches (fun _ _ both => both.1) reached
  have cases := @step_cases orderId _ _ _ (State.Tidy.of_reaches reached) _ stepped
  cases cases with
  | aside beside _ =>
    refine .inl ⟨row, ?_, abandoned⟩
    rw [beside.same.row]
    exact found
  | saved index environment clock document document' written commits flying
      about outcome beside _ =>
    subst commits
    have read := onTime.sound _ (List.mem_of_getElem? flying) about
    rcases read.saves allowed.1 flying about outcome with ⟨old, found', _, stands⟩
    cases found.symm.trans found'
    refine .inl ⟨written, ?_, ?_⟩
    · rw [beside.same.row]
      exact AList.lookup_insert _
    · exact (congrArg Prod.fst stands).trans abandoned
  | committed index environment clock operation callback prepared document
      document' database commits flying about outcome beside _ =>
    subst commits
    have read := onTime.sound _ (List.mem_of_getElem? flying) about
    have advanced := read.commits allowed.1 flying about outcome
    cases advanced with
    | opened _ _ _ absent =>
      rw [found] at absent
      cases absent
    | moved old pickupMode existing found' stands striding =>
      cases found.symm.trans found'
      have leaves := striding.allowed
      rw [abandoned] at leaves
      rcases read with booked | ⟨_, origin, _, _⟩
      · rcases booked.creates with ⟨_, _, _, rfl⟩
        exact (existing _ _ _ rfl).elim
      cases origin with
      | drafted actor row' method of drafted =>
        subst of
        rcases Operation.revives_of_aim leaves drafted.aims with
          revives | rfl
        · exact .inr ⟨index, environment, clock, method, callback,
            prepared, document, rfl, flying, about, revives⟩
        · have unchosen := allowed.2
          simp [Orders.unchosen, flying, about, found, abandoned] at unchosen
      | following target _ _ of continues =>
        subst of
        have status : prepared.order.status =
            .abandonedUnsettled :=
          (congrArg Prod.fst stands).symm.trans abandoned
        rw [status] at continues
        exact absurd continues (by simp [followUps])

def Shop.abandoned : List Action :=
  Shop.washed ++
    [ .sweep (Shop.clock 864000000),
      .request Shop.environment (Shop.clock 864000000) Shop.owner "order" .abandonUnsettledOrder,
      Shop.proceeds ]

/-- The laundry of an abandoned order is not handed over. -/
theorem abandonedOrdersStay_shop :
    ∃ state after row,
      (orderSystem some).step Shop.proceeds state = some after ∧
        state.database.orders.lookup "order" = some row ∧
        row.status = .abandonedUnsettled ∧
        ((∃ later, after.database.orders.lookup "order" = some later ∧
            later.status = .abandonedUnsettled) ∨
          ∃ index environment clock method callback prepared document,
            Shop.proceeds = .commit index environment clock ∧
              state.calls[index]? = some (.transaction (some method) callback prepared document) ∧
              document.order._id = "order" ∧ method.revives = true) := by
  have performed : (((orderSystem some).restrict fun state action =>
          Timely "order" state action ∧ unchosen "order" state action = true).perform
        (Shop.abandoned ++ [Shop.requests Shop.owner (.verifySelfPickup Shop.cash)])
        .start).bind (fun state =>
          ((orderSystem some).step Shop.proceeds state).bind fun after =>
          (state.database.orders.lookup "order").map fun row =>
            (row.status, timely "order" state Shop.proceeds,
              unchosen "order" state Shop.proceeds)) =
        some (.abandonedUnsettled, true, true) := by
    decide +kernel
  rcases System.reaches_of_bind_restrict performed with ⟨state, ran, seen⟩
  rcases Option.bind_eq_some_iff.mp seen with ⟨after, stepped, seen⟩
  rcases Option.map_eq_some_iff.mp seen with ⟨row, found, facts⟩
  simp only [Prod.mk.injEq] at facts
  rcases facts with ⟨abandoned, timely, unchosen⟩
  exact ⟨state, after, row, stepped, found, abandoned,
    abandonedOrdersStay ran ⟨timely, unchosen⟩ stepped found abandoned⟩

/-- The customer chooses to fetch the laundry, and the order is revived. -/
theorem abandonedOrderRevived :
    ¬ ∀ (orderId : ObjectId) (state next after : State)
        (environment environment' : Environment) (clock clock' : Clock)
        (actor : User) (method : Operation) (row : OnlineOrder),
        (orderSystem some).Reaches (fun _ _ => True) .start state →
        state.database.orders.lookup orderId = some row →
        row.status = .abandonedUnsettled → method.revives = false →
        (orderSystem some).step
          (.request environment clock actor orderId method) state = some next →
        (orderSystem some).step (.commit state.calls.length environment' clock') next = some after →
        ∃ later, after.database.orders.lookup orderId = some later ∧
          later.status = .abandonedUnsettled := by
  intro always
  have performed : ((orderSystem some).perform Shop.abandoned .start).bind (fun state =>
          ((orderSystem some).step
            (Shop.requests Shop.customer (.chooseReturnOption .customerSelfPickup)) state).bind
            fun next =>
          ((orderSystem some).step
            (.commit state.calls.length Shop.environment (Shop.clock 2))
            next).bind fun after =>
          (state.database.orders.lookup "order").bind fun row =>
          (after.database.orders.lookup "order").map fun later =>
            (row.status, later.status)) =
        some (.abandonedUnsettled, .awaitingCustomerPickup) := by
    decide +kernel
  rcases System.reaches_of_bind performed with ⟨state, ran, seen⟩
  rcases Option.bind_eq_some_iff.mp seen with ⟨next, called, seen⟩
  rcases Option.bind_eq_some_iff.mp seen with ⟨after, stepped, seen⟩
  rcases Option.bind_eq_some_iff.mp seen with ⟨row, found, seen⟩
  rcases Option.map_eq_some_iff.mp seen with ⟨later, found', statuses⟩
  simp only [Prod.mk.injEq] at statuses
  rcases always "order" state next after _ _ _ _ _ _ row
    ran found statuses.1 rfl called stepped with
    ⟨_, found'', abandoned⟩
  cases found'.symm.trans found''
  rw [statuses.2] at abandoned
  cases abandoned

end Lalaba.Orders
