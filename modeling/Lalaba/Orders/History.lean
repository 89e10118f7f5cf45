import Lalaba.Orders.Redemption
import Lalaba.Orders.Timely

/-!
# The history of an order

In a timely run no transition is taken back: the version of an order only grows,
and the last transition of its timeline says where the order stands.
-/

namespace Lalaba.Orders

open Foundation
open Foundation.Program

/-! ## Nothing is taken back -/

theorem Database.Onward.trans {orderId : ObjectId}
    {first second third : Database}
    (onward : first.Onward orderId second)
    (further : second.Onward orderId third) :
    first.Onward orderId third := by
  intro row found
  rcases onward row found with ⟨middle, found', still | newer⟩
  · rcases further middle found' with ⟨later, found'', still' | newer'⟩
    · exact ⟨later, found'', .inl (still'.trans still)⟩
    · have version : middle.version = row.version := congrArg Prod.snd still
      exact ⟨later, found'', .inr (version ▸ newer')⟩
  · rcases further middle found' with ⟨later, found'', still' | newer'⟩
    · have version : later.version = middle.version := congrArg Prod.snd still'
      exact ⟨later, found'', .inr (version ▸ newer)⟩
    · exact ⟨later, found'', .inr (newer.trans newer')⟩

theorem OnTime.step {castToObjectId : String → Option ObjectId}
    {orderId : ObjectId} {state after : State} {action : Action}
    (tidy : state.Tidy) (onTime : OnTime orderId state)
    (timely : Timely orderId state action)
    (stepped : (orderSystem castToObjectId).step action state = some after) :
    state.database.Onward orderId after.database := by
  have cases := @step_cases orderId _ _ _ tidy _ stepped
  cases cases with
  | aside beside _ => exact beside.same.onward
  | committed index environment clock operation callback prepared document
      document' database commits flying about outcome beside _ =>
    subst commits
    have read := onTime.sound _ (List.mem_of_getElem? flying) about
    exact (read.commits timely flying about outcome).onward.trans beside.same.onward
  | saved index environment clock document document' row commits flying about outcome beside _ =>
    subst commits
    have read := onTime.sound _ (List.mem_of_getElem? flying) about
    rcases read.saves timely flying about outcome with ⟨old, found, _, stands⟩
    exact (onward_putOrder found stands).trans beside.same.onward

theorem onward_of_reaches {castToObjectId : String → Option ObjectId}
    {orderId : ObjectId} {state after : State}
    (reached : (orderSystem castToObjectId).Reaches (Timely orderId) .start state)
    (continues : (orderSystem castToObjectId).Reaches (Timely orderId) state after) :
    state.database.Onward orderId after.database := by
  apply continues.relates (fun state => state.Tidy ∧ OnTime orderId state)
    (fun state after => state.database.Onward orderId after.database)
  · exact ⟨State.Tidy.of_reaches reached, onTime_of_reaches (fun _ _ timely => timely) reached⟩
  · rintro state action after ⟨tidy, onTime⟩ timely stepped
    refine ⟨tidy.step stepped, ?_⟩
    exact (read_obligations orderId).step tidy trivial onTime timely stepped
  · exact fun state row found => ⟨row, found, .inl rfl⟩
  · exact fun _ _ _ first second => first.trans second
  · rintro state action after ⟨tidy, onTime⟩ timely stepped
    exact onTime.step tidy timely stepped

def Database.Told (orderId : ObjectId) (database : Database) : Prop :=
  ∀ row, database.orders.lookup orderId = some row →
    (database.transitionsOf orderId).getLast?.map OrderEvent.toStatus = some row.status

theorem told_obligations (orderId : ObjectId) :
    Obligations orderId (Timely orderId) (OnTime orderId)
      (fun state => state.database.Told orderId) (fun _ _ => True) where
  beside := by
    intro state after beside told row found
    rw [beside.same.row] at found
    rw [beside.same.transitions]
    exact told row found
  steady := fun _ _ _ _ _ _ => trivial
  begun := fun _ _ _ _ _ _ _ _ _ _ => trivial
  commit := by
    intro state index environment clock operation callback prepared document
      database document' onTime invariant timely flying about _ outcome
    refine ⟨⟨?_, fun _ _ _ _ => trivial⟩, fun _ _ => trivial⟩
    intro row found
    rcases Callback.moved outcome with ⟨rows, appended, _, stored, found', last⟩
    rw [about] at appended found'
    cases found.symm.trans found'
    show (database.transitionsOf orderId).getLast?.map _ = _
    have moved : rows ≠ [] := by
      rintro rfl
      cases last
    rw [appended, List.getLast?_append_of_ne_nil _ moved, last]
  save := by
    intro state index environment clock document row saved onTime invariant
      timely flying about _ outcome
    have read := onTime.sound _ (List.mem_of_getElem? flying) about
    rcases read.saves timely flying about outcome with ⟨old, found, _, stands⟩
    refine ⟨?_, fun _ _ _ _ => trivial⟩
    intro other found'
    cases (AList.lookup_insert _).symm.trans found'
    have status : row.status = old.status := congrArg Prod.fst stands
    rw [status]
    exact invariant.good old found

/--
In a timely run no committed transition is undone: the last of them says where the
order stands, and its version does not go down.
-/
theorem transitionsAreNotUndone {castToObjectId : String → Option ObjectId}
    {orderId : ObjectId} {state after : State} {row : OnlineOrder}
    (reached : (orderSystem castToObjectId).Reaches (Timely orderId) .start state)
    (found : state.database.orders.lookup orderId = some row)
    (continues : (orderSystem castToObjectId).Reaches (Timely orderId) state after) :
    (state.database.transitionsOf orderId).getLast?.map
        OrderEvent.toStatus = some row.status ∧
      ∃ later, after.database.orders.lookup orderId = some later ∧ row.version ≤ later.version := by
  constructor
  · have told := (told_obligations orderId).reaches
      (fun _ reached => onTime_of_reaches (fun _ _ timely => timely) reached)
      (by
        intro row found
        simp [State.start] at found)
      reached
    exact told.good row found
  · rcases onward_of_reaches reached continues row found with ⟨later, found', still | newer⟩
    · exact ⟨later, found', (congrArg Prod.snd still).ge⟩
    · exact ⟨later, found', newer.le⟩

def Shop.placed : List Action :=
  Shop.funding ++ [.editPromos [Shop.tenth false]] ++
    Shop.placing { Shop.booking .customerDropoff .customerSelfPickup with
        promoCode := some "TENTH" }

/-- The code is stamped on the order, and then the owner accepts it. -/
theorem transitionsAreNotUndone_shop :
    ∃ state after row,
      (orderSystem some).Reaches (Timely "order") .start state ∧
        (orderSystem some).Reaches (Timely "order") state after ∧
        state.database.orders.lookup "order" = some row ∧
        ((state.database.transitionsOf "order").getLast?.map
            OrderEvent.toStatus = some row.status ∧
          ∃ later, after.database.orders.lookup "order" = some later ∧
            row.version ≤ later.version) := by
  have performed :
      (((orderSystem some).restrict (Timely "order")).perform
        (Shop.placed ++ [Shop.proceeds, Shop.proceeds]) .start).bind
        (fun state =>
          (((orderSystem some).restrict (Timely "order")).perform
            (Shop.calls Shop.owner .acceptOrder) state).bind fun after =>
          (state.database.orders.lookup "order").bind fun row =>
            (after.database.orders.lookup "order").map fun later =>
              (row.status, later.status)) =
        some (.pendingProviderAcceptance, .acceptedByProvider) := by
    decide +kernel
  rcases System.reaches_of_bind_restrict performed with ⟨state, reached, seen⟩
  rcases System.reaches_of_bind_restrict seen with ⟨after, continues, seen⟩
  rcases Option.bind_eq_some_iff.mp seen with ⟨row, found, _⟩
  exact ⟨state, after, row, reached, continues, found,
    transitionsAreNotUndone reached found continues⟩

def stampedAfterAcceptance : List Action :=
  Shop.placed ++
    [ Shop.requests Shop.owner .acceptOrder, .commit 1 Shop.environment (Shop.clock 2),
      Shop.proceeds, Shop.proceeds ]

/-- The stamp takes the accepted order back to where it was created. -/
theorem transitionUndone :
    ¬ ∀ (orderId : ObjectId) (state after : State) (row : OnlineOrder),
        (orderSystem some).Reaches (fun _ _ => True) .start state →
        state.database.orders.lookup orderId = some row →
        (orderSystem some).Reaches (fun _ _ => True) state after →
        (state.database.transitionsOf orderId).getLast?.map
            OrderEvent.toStatus = some row.status ∧
          ∃ later, after.database.orders.lookup orderId = some later ∧
            row.version ≤ later.version := by
  intro always
  have performed : ((orderSystem some).perform stampedAfterAcceptance .start).bind (fun state =>
          (state.database.orders.lookup "order").map fun row =>
            (row.status, row.version,
              (state.database.transitionsOf "order").getLast?.map OrderEvent.toStatus)) =
        some (.pendingProviderAcceptance, 2, some .acceptedByProvider) := by
    decide +kernel
  rcases System.reaches_of_bind performed with ⟨state, ran, seen⟩
  rcases Option.map_eq_some_iff.mp seen with ⟨row, found, facts⟩
  simp only [Prod.mk.injEq] at facts
  rcases facts with ⟨status, _, last⟩
  have told := (always "order" state state row ran found .refl).1
  rw [last, status] at told
  cases told

end Lalaba.Orders
