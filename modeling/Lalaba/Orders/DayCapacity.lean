import Lalaba.Orders.Slots

/-!
# The capacity of a day

No decrement gives a place back: the counter of a day only makes creations of one day
conflict, and the places are counted anew every time.  In a prompt run a creation is
committed only while its day has room, so a limit that stands is never exceeded.
-/

namespace Lalaba.Orders

open Bookings (SLOT_RELEASING_STATUSES isFull)
open Foundation

def limited (branchId : ObjectId) (date : String) (limit : ℕ) :
    SlotAction → Bool
  | .create desk _ clock _ input _ =>
    input.branchId != branchId ||
      input.scheduledPickupDate != some date ||
        (input.requestFor desk clock date).limit == some limit
  | _ => true

section

variable {castToObjectId : String → Option ObjectId} {state after : SlotState} {action : SlotAction}

/-- An order that was not stored before was asked for, and there was room. -/
theorem SlotStepped.created (punctual : state.orders.Punctual)
    (stepped : SlotStepped castToObjectId state action after)
    {orderId : ObjectId} {row : OnlineOrder}
    (absent : state.orders.database.orders.lookup orderId = none)
    (stored : after.orders.database.orders.lookup orderId = some row) :
    ∃ request : PlaceRequest, state.requests orderId = some request ∧
      row.booked.branchId = request.branchId ∧
      row.booked.scheduledDate = some request.date ∧
      isFull request.limit (state.orders.database.booked request.branchId
        request.date) = false := by
  have opens : ∀ label, prompt state.orders label = true →
      (orderSystem castToObjectId).step label state.orders = some after.orders →
      Creation orderId state.orders label row := by
    intro label allowed stepped
    have turned := (punctual.onTime orderId).turned punctual.tidy
      (timely_of_prompt allowed orderId) stepped
    cases turned with
    | stays same =>
      rw [same, absent] at stored
      cases stored
    | moves _ _ found =>
      rw [absent] at found
      cases found
    | opens written found creation =>
      cases stored.symm.trans found
      exact creation
  cases stepped with
  | asks _ _ _ _ _ _ _ _ _ _ stepped =>
    rcases (opens _ (by rfl) stepped).is_commit with ⟨_, _, _, commits⟩
    cases commits
  | reads _ snapshots =>
    subst snapshots
    rw [absent] at stored
    cases stored
  | acts label allowed stepped creates =>
    exact (creates orderId row (opens label allowed stepped)).elim
  | books _ _ _ _ _ _ _ _ request _ allowed flying asked offered _ stepped =>
    rcases (opens _ allowed stepped).asked flying offered with ⟨about, branch, scheduled, room⟩
    exact ⟨request, about ▸ asked, branch, scheduled, room⟩

theorem SlotStepped.takes (punctual : state.orders.Punctual)
    (stepped : SlotStepped castToObjectId state action after)
    (branchId : ObjectId) (date : String) :
    after.orders.database.booked branchId date ≤
        state.orders.database.booked branchId date ∨
      after.orders.database.booked branchId date ≤
          state.orders.database.booked branchId date + 1 ∧
        ∃ (orderId : ObjectId) (request : PlaceRequest),
          state.requests orderId = some request ∧
            request.branchId = branchId ∧ request.date = date ∧
            isFull request.limit (state.orders.database.booked branchId date) = false := by
  rcases stepped.counts punctual branchId date with moved | ⟨_, fewer⟩
  · right
    cases stepped with
    | books _ _ _ _ _ _ _ document request _ _ _ asked _ booked stepped _ counters =>
      refine ⟨booked_le_succ punctual.tidy stepped, _, request, asked, ?_⟩
      by_cases here : (branchId, date) = (request.branchId, request.date)
      · cases here
        exact ⟨rfl, rfl, (PlaceRequest.book_room booked).2⟩
      · rw [counters, Bookings.SlotCounters.increment, Function.update_of_ne here] at moved
        exact (lt_irrefl _ moved).elim
    | asks _ _ _ _ _ _ _ _ _ _ _ _ counters | acts _ _ _ _ _ _ counters =>
      rw [counters] at moved
      exact (lt_irrefl _ moved).elim
    | reads _ snapshots =>
      subst snapshots
      exact (lt_irrefl _ moved).elim
  · exact .inl fewer

/-- A limit that stands is never exceeded. -/
structure WithinLimit (branchId : ObjectId) (date : String) (limit : ℕ)
    (state : SlotState) : Prop where
  stands : ∀ orderId request, state.requests orderId = some request →
    request.branchId = branchId → request.date = date → request.limit = some limit
  within : state.orders.database.booked branchId date ≤ limit

theorem WithinLimit.step {branchId : ObjectId} {date : String}
    {limit : ℕ} (within : WithinLimit branchId date limit state)
    (punctual : state.orders.Punctual)
    (constant : limited branchId date limit action = true)
    (stepped : SlotStepped castToObjectId state action after) :
    WithinLimit branchId date limit after where
  stands := by
    intro orderId request asked branch day
    cases stepped with
    | asks desk market clock customer input other date' called dated _ _ requests =>
      rw [requests] at asked
      by_cases here : orderId = other
      · subst called
        rw [here, Function.update_self] at asked
        cases asked
        have same : input.branchId = branchId := branch
        have same' : date' = date := day
        subst same'
        simpa [limited, same, dated] using constant
      · rw [Function.update_of_ne here] at asked
        exact within.stands orderId request asked branch day
    | reads _ snapshots =>
      subst snapshots
      exact within.stands orderId request asked branch day
    | books _ _ _ _ _ _ _ _ _ _ _ _ _ _ _ _ requests
    | acts _ _ _ _ _ requests =>
      rw [requests] at asked
      exact within.stands orderId request asked branch day
  within := by
    rcases stepped.takes punctual branchId date with
      fewer | ⟨one, orderId, request, asked, branch, day, room⟩
    · exact fewer.trans within.within
    · rw [within.stands orderId request asked branch day, isFull,
        Option.any_some, decide_eq_false_iff_not, not_le] at room
      omega

theorem WithinLimit.of_reaches {branchId : ObjectId} {date : String}
    {limit : ℕ}
    (reached : (slotSystem castToObjectId).Reaches
      (fun state action => Prompt state action ∧
        limited branchId date limit action = true) .start state) :
    WithinLimit branchId date limit state := by
  apply reached.layered (fun state => state.Sound ∧ state.orders.Punctual)
  · exact fun state reached =>
      SlotState.of_reaches (reached.weaken fun _ _ both => both.1)
  · refine ⟨?_, ?_⟩
    · intro orderId request asked
      cases asked
    · exact Nat.zero_le limit
  · rintro state action after ⟨sound, punctual⟩ within ⟨promptly, constant⟩ stepped
    exact within.step punctual constant (slotStep_cases sound promptly stepped)

/--
In a prompt run an order is stored only while its day has room for it, a day whose
limit stands is never overbooked, and an order that ends in a releasing status gives
back its one place.
-/
theorem dayCapacityIsKept
    (reached : (slotSystem castToObjectId).Reaches Prompt .start state) :
    (∀ action after orderId row, Prompt state action →
      (slotSystem castToObjectId).step action state = some after →
      state.orders.database.orders.lookup orderId = none →
      after.orders.database.orders.lookup orderId = some row →
      ∃ request, state.requests orderId = some request ∧
        row.booked.branchId = request.branchId ∧
        row.booked.scheduledDate = some request.date ∧
        ∀ limit, request.limit = some limit →
          state.orders.database.booked request.branchId request.date < limit) ∧
    (∀ branchId date limit, (slotSystem castToObjectId).Reaches (fun state action =>
        Prompt state action ∧ limited branchId date limit action = true) .start state →
      state.orders.database.booked branchId date ≤ limit) ∧
    ∀ action after orderId row later branchId date, Prompt state action →
      (slotSystem castToObjectId).step action state = some after →
      state.orders.database.orders.lookup orderId = some row →
      after.orders.database.orders.lookup orderId = some later →
      row.status ∉ SLOT_RELEASING_STATUSES →
      later.status ∈ SLOT_RELEASING_STATUSES →
      after.orders.database.booked branchId date +
          (if row.holds branchId date then 1 else 0) =
        state.orders.database.booked branchId date := by
  rcases SlotState.of_reaches reached with ⟨sound, punctual⟩
  refine ⟨?_, fun _ _ _ constant =>
    (WithinLimit.of_reaches constant).within, ?_⟩
  · intro action after orderId row promptly stepped absent stored
    rcases (slotStep_cases sound promptly stepped).created punctual absent
      stored with ⟨request, asked, branch, scheduled, room⟩
    refine ⟨request, asked, branch, scheduled, fun limit limited => ?_⟩
    rw [limited, isFull, Option.any_some, decide_eq_false_iff_not, not_le] at room
    exact room
  · intro action after orderId row later branchId date promptly stepped found found' held released
    rcases (slotStep_cases sound promptly stepped).matched with
      same | ⟨label, _, stepped'⟩
    · rw [same, found] at found'
      cases found'
      exact (held released).elim
    · exact booked_of_released punctual.tidy stepped' found found' held released

end

namespace Shop

def bookingConfig : Bookings.BookingAvailabilityConfig where
  branchId := "branch"
  providerType := .merchant
  weekly _ := Bookings.Store.defaultWeek
  dailyBookingLimit := some 1

def frontDesk : Bookings.Store where
  configs := AList.insert "branch" bookingConfig ∅
  overrides := []
  blackouts := []
  washers := ∅
  policy := none
  milestones := []
  campaigns := []
  orders := []
  counters _ := 0
  overrides_unique := Bookings.Store.unique_nil

def morning : Clock := clock 1767578400000

def tomorrow (promoCode : Option String) : CreateOrderInput :=
  { booking .customerDropoff .customerSelfPickup with
    scheduledPickupDate := some "2026-01-06"
    promoCode }

def books (index : ℕ) (promoCode : Option String) (orderId : ObjectId) :
    List SlotAction :=
  [ .create frontDesk market morning customer (tomorrow promoCode) orderId,
    .snapshot index, .commit index environment morning ]

end Shop

/-- The one place of the day is taken. -/
theorem dayCapacityIsKept_shop :
    ∃ state, (slotSystem some).Reaches Prompt .start state ∧
      state.orders.database.booked "branch" "2026-01-06" = 1 ∧
      state.orders.database.booked "branch" "2026-01-06" ≤ 1 := by
  have performed : (((slotSystem some).restrict (fun state action =>
          Prompt state action ∧ limited "branch" "2026-01-06" 1 action = true)).perform
        (Shop.funding.map .other ++ Shop.books 0 none "order") .start).map
      (fun state => state.orders.database.booked "branch" "2026-01-06") =
        some 1 := by
    decide +kernel
  rcases System.reaches_of_map_restrict performed with ⟨state, reached, booked⟩
  have prompt : (slotSystem some).Reaches Prompt .start state :=
    reached.weaken fun _ _ both => both.1
  exact ⟨state, prompt, booked, (dayCapacityIsKept prompt).2.1 _ _ _ reached⟩

/--
The customer books with a code and cancels; another order takes the place, and then
the code is stamped on the cancelled order.
-/
def stampedAfterCancellation : List SlotAction :=
  (Shop.funding ++ [Action.editPromos [Shop.tenth false]]).map .other ++
    Shop.books 0 (some "TENTH") "order" ++
    [ .other (Shop.requests Shop.customer (.cancelOrder "changed")),
      .other (.commit 1 Shop.environment (Shop.clock 2)) ] ++
    Shop.books 1 none "second" ++
    [.other Shop.proceeds, .other Shop.proceeds]

/-- The stamp brings the cancelled order back: two orders hold the one place. -/
theorem dayOverbooked :
    ¬ ∀ (branchId : ObjectId) (date : String) (limit : ℕ)
        (state : SlotState),
      (slotSystem some).Reaches (fun _ action =>
        limited branchId date limit action = true) .start state →
      state.orders.database.booked branchId date ≤ limit := by
  intro always
  have performed : (((slotSystem some).restrict (fun _ action =>
          limited "branch" "2026-01-06" 1 action = true)).perform
        stampedAfterCancellation .start).map
      (fun state => state.orders.database.booked "branch" "2026-01-06") =
        some 2 := by
    decide +kernel
  rcases System.reaches_of_map_restrict performed with ⟨state, ran, booked⟩
  have within := always "branch" "2026-01-06" 1 state ran
  rw [booked] at within
  exact absurd within (by decide)

end Lalaba.Orders
