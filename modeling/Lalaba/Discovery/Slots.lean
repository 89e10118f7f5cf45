import Lalaba.Bookings.PhTime
import Lalaba.Orders.DailyCap

/-!
# The slots of a washer's card

A card and the washer's own statistics say how much of the day's cap is used up.
They count the orders that were created today; what is enforced counts those that
are scheduled for today.  The two agree as long as what was booked ahead for today
makes up for what was booked today for another day.
-/

namespace Lalaba.Discovery

open Foundation
open Foundation.Program
open Bookings (PH_OFFSET_MS MS_PER_DAY phDay dateKey)
open Orders

/-- `startOfTodayPH`: the midnight of the day of an instant. -/
def startOfTodayPH (now : Instant) : ℤ := phDay now * MS_PER_DAY - PH_OFFSET_MS

def clockOf (now : Instant) : Clock where
  now := now
  phDayKey := dateKey (phDay now)

/--
How many orders of a provider were created today and count against a cap;
`createdAt` is the time that the ODM stamps on a row.
-/
def countCreated (now : Instant) (createdAt : ObjectId → Instant)
    (mine : ProviderSnapshot → Bool) (database : Database) : ℕ :=
  database.orders.entries.countP fun entry =>
    mine entry.2.provider &&
      decide (startOfTodayPH now ≤ (createdAt entry.1 : ℤ)) &&
      entry.2.status.capCounted

/-- `slotsRemaining`: without a cap there is no number to show. -/
def slotsRemaining (now : Instant) (createdAt : ObjectId → Instant)
    (database : Database) (branchId : ObjectId) (washer : WasherProfile) :
    Option ℕ :=
  washer.maxOrdersPerDay.map fun cap =>
    cap - countCreated now createdAt (fun provider => provider.branchId == branchId) database

/-- The slots that `getStats` reports as used. -/
def slotsUsedToday (now : Instant) (createdAt : ObjectId → Instant)
    (database : Database) (uid : Uid) : ℕ :=
  countCreated now createdAt (fun provider => provider.providerUid == uid) database

def washerStatusText (washer : WasherProfile) (left : Option ℕ) : String :=
  if washer.isAvailable = false then
    "Not accepting bookings"
  else
    match left with
    | none => "Accepting bookings"
    | some left =>
      if left = 0 then
        "Fully booked today"
      else if left ≤ 3 then
        toString left ++ " slot" ++ (if left = 1 then "" else "s") ++ " left"
      else
        "Accepting bookings"

section

variable {clock : Clock} {database : Database} {washer : WasherProfile}
  {branchId : ObjectId} {cap : ℕ}

theorem assertUnderCap_ok {count : ℕ} {day : String} :
    assertUnderCap clock cap count day = .ok () ↔ count < cap := by
  rw [assertUnderCap]
  split
  · rename_i full
    simp [not_lt.mpr full]
  · rename_i room
    simp [not_le.mp room]

theorem assertWasherUnderDailyCap_ok {day : String}
    (limited : washer.maxOrdersPerDay = some cap) :
    assertWasherUnderDailyCap clock database washer branchId day = .ok () ↔
      database.countScheduled branchId day none < cap := by
  simp only [assertWasherUnderDailyCap, limited]
  exact assertUnderCap_ok

theorem reserveDailyCapSlot_ok {document : OrderDocument}
    (limited : washer.maxOrdersPerDay = some cap) :
    (∃ after, (reserveDailyCapSlot clock washer).commit database document =
        (.ok (), after)) ↔
      database.countScheduled document.order.provider.branchId
          (scheduledDay clock document.order) (some document.order._id) <
        cap := by
  constructor
  · rintro ⟨after, outcome⟩
    rcases commit_ok.mp outcome with ⟨finish, ran, _⟩
    rw [reserveDailyCapSlot] at ran
    rcases run_bind_ok.mp ran with ⟨_, _, remembered, ran⟩
    cases remembered
    simp only [limited] at ran
    rcases run_bind_ok.mp ran with ⟨_, _, touched, ran⟩
    rcases (run_query_ok rfl).mp touched with ⟨_, same, rfl⟩
    cases same
    rcases (run_query_ok rfl).mp ran with ⟨store, checked, _⟩
    rcases map_eq_ok.mp checked with ⟨_, under, _⟩
    exact assertUnderCap_ok.mp under
  · intro room
    have under := (@assertUnderCap_ok clock _ _ (scheduledDay clock document.order)).mpr room
    let session : Session Database OrderDocument :=
      { store := database, durable := database, memory := document
        budget := none }
    refine ⟨(database, document), commit_ok.mpr ⟨session, ?_, rfl, rfl⟩⟩
    rw [reserveDailyCapSlot]
    refine run_bind_ok.mpr ⟨_, _, rfl, ?_⟩
    simp only [limited]
    refine run_bind_ok.mpr ⟨_, _, rfl, ?_⟩
    exact (run_query_ok rfl).mpr ⟨database, map_eq_ok.mpr ⟨(), under, rfl⟩, rfl⟩

end

def bookedAhead (now : Instant) (createdAt : ObjectId → Instant)
    (database : Database) (branchId : ObjectId) : ℕ :=
  database.orders.entries.countP fun entry =>
    entry.2.occupies branchId (clockOf now).phDayKey &&
      !decide (startOfTodayPH now ≤ (createdAt entry.1 : ℤ))

def bookedElsewhere (now : Instant) (createdAt : ObjectId → Instant)
    (database : Database) (branchId : ObjectId) : ℕ :=
  database.orders.entries.countP fun entry =>
    (entry.2.provider.branchId == branchId &&
        decide (startOfTodayPH now ≤ (createdAt entry.1 : ℤ)) &&
        entry.2.status.capCounted) &&
      !entry.2.fulfillment.scheduledPickup.any fun slot =>
        slot.date == (clockOf now).phDayKey

def ownedBy (branchId : ObjectId) (uid : Uid) (database : Database) :
    Bool :=
  database.orders.entries.all fun entry =>
    (entry.2.provider.branchId == branchId) == (entry.2.provider.providerUid == uid)

section

variable {now : Instant} {createdAt : ObjectId → Instant}
  {database : Database} {branchId : ObjectId} {uid : Uid}

theorem slotsUsedToday_eq (owned : ownedBy branchId uid database = true) :
    slotsUsedToday now createdAt database uid =
      countCreated now createdAt (fun provider => provider.branchId == branchId) database := by
  apply List.countP_congr
  intro entry member
  have same := beq_iff_eq.mp (List.all_eq_true.mp owned entry member)
  simp only [same]

theorem countCreated_add_bookedAhead :
    countCreated now createdAt
          (fun provider => provider.branchId == branchId) database +
        bookedAhead now createdAt database branchId =
      database.countScheduled branchId (clockOf now).phDayKey none +
        bookedElsewhere now createdAt database branchId := by
  have split := countP_add_countP_only (fun entry : (_ : ObjectId) × OnlineOrder =>
      entry.2.provider.branchId == branchId &&
        decide (startOfTodayPH now ≤ (createdAt entry.1 : ℤ)) &&
        entry.2.status.capCounted)
    (fun entry =>
      entry.2.occupies branchId (clockOf now).phDayKey)
    database.orders.entries
  have ahead : bookedAhead now createdAt database branchId =
      database.orders.entries.countP fun entry =>
        entry.2.occupies branchId (clockOf now).phDayKey &&
          !(entry.2.provider.branchId == branchId &&
            decide (startOfTodayPH now ≤ (createdAt entry.1 : ℤ)) &&
            entry.2.status.capCounted) := by
    apply List.countP_congr
    intro entry _
    simp only [OnlineOrder.occupies]
    cases entry.2.provider.branchId == branchId <;> cases entry.2.status.capCounted <;> simp
  have elsewhere : bookedElsewhere now createdAt database branchId =
      database.orders.entries.countP fun entry =>
        (entry.2.provider.branchId == branchId &&
            decide (startOfTodayPH now ≤ (createdAt entry.1 : ℤ)) &&
            entry.2.status.capCounted) &&
          !entry.2.occupies branchId (clockOf now).phDayKey := by
    apply List.countP_congr
    intro entry _
    simp only [OnlineOrder.occupies]
    cases entry.2.provider.branchId == branchId <;> cases entry.2.status.capCounted <;> simp
  rw [ahead, elsewhere, countScheduled_all]
  exact split

end

/--
What is shown of a washer's day is what is enforced: the slots that are left, the
slots that are used, and that none is left when a booking or an acceptance for
today is refused.
-/
structure SlotsAgree (now : Instant) (createdAt : ObjectId → Instant)
    (database : Database) (branchId : ObjectId) (washer : WasherProfile)
    (cap : ℕ) : Prop where
  shown : slotsRemaining now createdAt database branchId washer =
    some (cap - database.countScheduled branchId (clockOf now).phDayKey none)
  used : slotsUsedToday now createdAt database washer.uid =
    database.countScheduled branchId (clockOf now).phDayKey none
  booking : slotsRemaining now createdAt database branchId washer =
      some 0 ↔
    assertWasherUnderDailyCap (clockOf now) database washer branchId (clockOf now).phDayKey ≠ .ok ()
  acceptance : ∀ document : OrderDocument,
    document.order.provider.branchId = branchId →
    scheduledDay (clockOf now) document.order = (clockOf now).phDayKey →
    (∀ row, database.orders.lookup document.order._id = some row →
      row.occupies branchId (clockOf now).phDayKey = false) →
    (slotsRemaining now createdAt database branchId washer = some 0 ↔ ∀ after,
        (reserveDailyCapSlot (clockOf now) washer).commit database document ≠ (.ok (), after))

/--
What is shown of a washer's day is what is enforced, exactly when as many of her
orders were booked ahead for today as were booked today for another day.
-/
theorem slotsShownAreEnforced {now : Instant}
    {createdAt : ObjectId → Instant} {database : Database}
    {branchId : ObjectId} {washer : WasherProfile} {cap : ℕ}
    (limited : washer.maxOrdersPerDay = some cap)
    (owned : ownedBy branchId washer.uid database = true) :
    SlotsAgree now createdAt database branchId washer cap ↔
      bookedAhead now createdAt database branchId =
        bookedElsewhere now createdAt database branchId := by
  have counts := @countCreated_add_bookedAhead now createdAt database branchId
  have used := @slotsUsedToday_eq now createdAt _ _ _ owned
  constructor
  · intro agree
    have same := agree.used
    rw [used] at same
    omega
  · intro balanced
    have same : countCreated now createdAt
        (fun provider => provider.branchId == branchId) database =
          database.countScheduled branchId (clockOf now).phDayKey none := by
      omega
    have shown : slotsRemaining now createdAt database branchId washer =
        some (cap - database.countScheduled branchId (clockOf now).phDayKey none) := by
      rw [slotsRemaining, limited, same, Option.map_some]
    have none_left : slotsRemaining now createdAt database branchId
        washer = some 0 ↔
          ¬database.countScheduled branchId (clockOf now).phDayKey none <
            cap := by
      rw [shown, Option.some.injEq, not_lt, Nat.sub_eq_zero_iff_le]
    refine ⟨shown, used.trans same, ?_, ?_⟩
    · rw [none_left, Ne, assertWasherUnderDailyCap_ok limited]
    · intro document here today free
      have others := countScheduled_free free
      rw [none_left, ← not_exists, reserveDailyCapSlot_ok limited, here, today, others]

namespace Sample

def now : Instant := 20458 * MS_PER_DAY

def yesterday : Instant := 20457 * MS_PER_DAY

def accepted : List Action :=
  Shop.funding ++ Shop.placingHome "first" ++ Shop.callsHome Shop.owner "first" .acceptOrder

def slots (createdAt : Instant) : Option (Bool × ℕ × ℕ × Option ℕ × ℕ) :=
  ((orderSystem some).perform accepted .start).map fun state =>
    (ownedBy "branch" Shop.washer.uid state.database,
      bookedAhead now (fun _ => createdAt) state.database "branch",
      bookedElsewhere now (fun _ => createdAt) state.database "branch",
      slotsRemaining now (fun _ => createdAt) state.database "branch" Shop.washer,
      state.database.countScheduled "branch" (clockOf now).phDayKey none)

end Sample

/-- An order that is booked and accepted on its day takes its slot. -/
theorem slotsShownAreEnforced_today :
    ∃ state : State,
      (orderSystem some).perform Sample.accepted .start = some state ∧
        slotsRemaining Sample.now (fun _ => Sample.now) state.database
            "branch" Shop.washer = some 0 ∧
        SlotsAgree Sample.now (fun _ => Sample.now) state.database "branch" Shop.washer 1 := by
  have seen : Sample.slots Sample.now = some (true, 0, 0, some 0, 1) := by
    decide +kernel
  rcases Option.map_eq_some_iff.mp seen with ⟨state, ran, counts⟩
  simp only [Prod.mk.injEq] at counts
  rcases counts with ⟨owned, ahead, elsewhere, shown, _⟩
  refine ⟨state, ran, shown, ?_⟩
  exact (slotsShownAreEnforced rfl owned).mpr (ahead.trans elsewhere.symm)

/-- An order that was booked the day before takes no slot that is shown. -/
theorem slotShownIsTaken :
    ¬ ∀ (now : Instant) (createdAt : ObjectId → Instant)
        (database : Database) (branchId : ObjectId)
        (washer : WasherProfile) (cap : ℕ),
        washer.maxOrdersPerDay = some cap →
        ownedBy branchId washer.uid database = true →
        SlotsAgree now createdAt database branchId washer cap := by
  intro always
  have seen : Sample.slots Sample.yesterday = some (true, 1, 0, some 1, 1) := by
    decide +kernel
  rcases Option.map_eq_some_iff.mp seen with ⟨state, _, counts⟩
  simp only [Prod.mk.injEq] at counts
  rcases counts with ⟨owned, _, _, left, taken⟩
  have agree := always Sample.now (fun _ => Sample.yesterday)
    state.database "branch" Shop.washer 1 rfl owned
  have shown := agree.shown
  rw [left, taken] at shown
  cases shown

end Lalaba.Discovery
