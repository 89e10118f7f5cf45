import Lalaba.Bookings.PhTime
import Lalaba.Foundation.Tally
import Lalaba.Ratings.Service

/-!
# The report of a washer

A washer's own performance over a range of days: what she completed, what was cancelled,
the money of the completed orders as their prices stand, and how she was rated.  A range
is the time between two midnights of the Philippines, and the days of two ranges that
follow each other are the days of both together.
-/

namespace Lalaba.Washers

open Foundation
open Bookings (Day MS_PER_DAY PH_OFFSET_MS dateNumber)
open Orders (OnlineOrder roundCentavos)
open Ratings (Rating)

/-- What a report reads of an order and no order operation does. -/
structure OrderColumns where
  estimatedWeightKg : Option ℚ≥0
  createdAt : Instant
  updatedAt : Instant

/-- A row of `online_orders`, as reports read it. -/
structure ReportedOrder extends OnlineOrder, OrderColumns

/-- A row of `ratings`, as reports read it. -/
structure ReportedRating extends Rating where
  createdAt : Instant

/-- What a report is made from; a washer's profile names her branch. -/
structure ReportStore where
  profiles : Uid → Option ObjectId
  orders : List ReportedOrder
  ratings : List ReportedRating

/-- The time from one instant until before another, either of them before 1970 too. -/
structure Window where
  start : ℤ
  finish : ℤ
deriving DecidableEq

/-- `$gte` and `$lt`. -/
def Window.contains (window : Window) (instant : Instant) : Bool :=
  decide (window.start ≤ instant ∧ (instant : ℤ) < window.finish)

def startOfDay (day : Day) : ℤ := day * MS_PER_DAY - PH_OFFSET_MS

def reportWindow (dateFrom dateTo : String) : Except ServiceError Window :=
  match dateNumber dateFrom, dateNumber dateTo with
  | some first, some last =>
    -- `setDate` adds a day of the server, which is as long as any other.
    let start := startOfDay first
    let finish := startOfDay last + MS_PER_DAY
    if finish ≤ start then
      .error (.badRequest "The end date must not precede the start date.")
    else
      .ok { start, finish }
  | _, _ => .error (.badRequest "Dates must be in YYYY-MM-DD format.")

/-! ## The report -/

def completedIn (uid : Uid) (window : Window) (order : ReportedOrder) : Bool :=
  decide (order.provider.providerUid = uid ∧ order.status = .completed) &&
    order.completedAt.any window.contains

def cancelledIn (uid : Uid) (window : Window) (order : ReportedOrder) : Bool :=
  decide (order.provider.providerUid = uid ∧
      (order.status = .cancelled ∨ order.status = .rejectedByProvider)) &&
    window.contains order.updatedAt

def ratedIn (branchId : ObjectId) (window : Window) (rating : ReportedRating) : Bool :=
  decide (rating.branchId = branchId) && window.contains rating.createdAt

namespace ReportedOrder

def totalCentavos (order : ReportedOrder) : ℚ :=
  order.pricing.customerTotalCentavos.getD order.pricing.estimatedTotalCentavos

def feeCentavos (order : ReportedOrder) : ℤ := order.pricing.platformFeeCentavos.getD 0

def weightKg (order : ReportedOrder) : ℚ :=
  ((order.pricing.actualWeightKg.getD (order.estimatedWeightKg.getD 0) : ℚ≥0) : ℚ)

end ReportedOrder

structure WasherReport where
  dateFrom : String
  dateTo : String
  ordersCompleted : ℤ
  ordersCancelled : ℤ
  grossCentavos : ℤ
  platformFeeCentavos : ℤ
  netCentavos : ℤ
  totalKg : ℚ
  avgRating : Option ℚ
  reviewCount : ℤ

namespace ReportStore

variable (uid : Uid) (branchId : ObjectId) (window : Window) (store : ReportStore)

def grossCentavos : ℚ := tally (completedIn uid window) ReportedOrder.totalCentavos store.orders

def platformFeeCentavos : ℤ := tally (completedIn uid window) ReportedOrder.feeCentavos store.orders

def reviewCount : ℤ := tally (ratedIn branchId window) (fun _ => 1) store.ratings

def overallScores : ℚ :=
  tally (ratedIn branchId window) (fun rating => rating.overallScore) store.ratings

/-- The report over a window. -/
def report (dateFrom dateTo : String) : WasherReport :=
  let gross := roundCentavos (store.grossCentavos uid window)
  let fees := roundCentavos (store.platformFeeCentavos uid window)
  let reviewCount := store.reviewCount branchId window
  { dateFrom
    dateTo
    ordersCompleted := tally (completedIn uid window) (fun _ => 1) store.orders
    ordersCancelled := tally (cancelledIn uid window) (fun _ => 1) store.orders
    grossCentavos := gross
    platformFeeCentavos := fees
    netCentavos := gross - fees
    totalKg := tally (completedIn uid window) ReportedOrder.weightKg store.orders
    -- Nobody has rated, or the average of those who have.
    avgRating :=
      if reviewCount = 0 then none
      else some (store.overallScores branchId window / reviewCount)
    reviewCount }

def getReport (dateFrom dateTo : String) : Except ServiceError WasherReport :=
  match store.profiles uid with
  | none => .error (.notFound "Washer profile not found")
  | some branchId =>
    (reportWindow dateFrom dateTo).map fun window =>
      store.report uid branchId window dateFrom dateTo

end ReportStore

def roundingError (value : ℚ) : ℚ := value - roundCentavos value

theorem roundCentavos_add_iff (first second : ℚ) :
    roundCentavos (first + second) = roundCentavos first + roundCentavos second ↔
      -1 / 2 ≤ roundingError first + roundingError second ∧
        roundingError first + roundingError second < 1 / 2 := by
  rw [roundCentavos, Int.floor_eq_iff, roundingError, roundingError]
  push_cast
  constructor
  · rintro ⟨least, most⟩
    exact ⟨by linarith, by linarith⟩
  · rintro ⟨least, most⟩
    exact ⟨by linarith, by linarith⟩

theorem roundCentavos_intCast (value : ℤ) : roundCentavos value = value := by
  rw [roundCentavos, Int.floor_eq_iff]
  constructor
  · linarith
  · linarith

/-! ## Windows that follow each other -/

/-- One window ends where the other starts, and `whole` is the time of both. -/
structure Window.Joins (first second whole : Window) : Prop where
  start : whole.start = first.start
  next : second.start = first.finish
  finish : whole.finish = second.finish
  ordered : first.start ≤ first.finish
  later : first.finish ≤ second.finish

namespace Window.Joins

variable {first second whole : Window} (joins : first.Joins second whole)
include joins

theorem contains (instant : Instant) :
    whole.contains instant = (first.contains instant || second.contains instant) := by
  rcases joins with ⟨start, next, finish, ordered, later⟩
  rw [Bool.eq_iff_iff]
  simp only [Window.contains, decide_eq_true_eq, Bool.or_eq_true]
  omega

theorem apart {instant : Instant} (inside : first.contains instant = true) :
    second.contains instant = false := by
  rcases joins with ⟨start, next, finish, ordered, later⟩
  simp only [Window.contains, decide_eq_true_eq, decide_eq_false_iff_not] at *
  omega

theorem completedIn (uid : Uid) (order : ReportedOrder) :
    Washers.completedIn uid whole order =
      (Washers.completedIn uid first order || Washers.completedIn uid second order) := by
  simp only [Washers.completedIn]
  cases order.completedAt with
  | none => simp
  | some instant => simp only [Option.any_some, joins.contains, Bool.and_or_distrib_left]

theorem not_completedIn {uid : Uid} {order : ReportedOrder}
    (inside : Washers.completedIn uid first order = true) :
    Washers.completedIn uid second order = false := by
  simp only [Washers.completedIn, Bool.and_eq_true] at inside ⊢
  cases completed : order.completedAt with
  | none => simp
  | some instant =>
    rw [completed] at inside
    simp only [Option.any_some, joins.apart inside.2, Bool.and_false]

theorem tally_completedIn {Amount : Type} [AddCommGroup Amount]
    (amount : ReportedOrder → Amount) (uid : Uid) (orders : List ReportedOrder) :
    tally (Washers.completedIn uid whole) amount orders =
      tally (Washers.completedIn uid first) amount orders +
        tally (Washers.completedIn uid second) amount orders :=
  tally_or (joins.completedIn uid) (fun _ => joins.not_completedIn) orders

theorem tally_cancelledIn (uid : Uid) (orders : List ReportedOrder) :
    tally (cancelledIn uid whole) (fun _ => (1 : ℤ)) orders =
      tally (cancelledIn uid first) (fun _ => 1) orders +
        tally (cancelledIn uid second) (fun _ => 1) orders := by
  apply tally_or
  · intro order
    simp only [cancelledIn, joins.contains, Bool.and_or_distrib_left]
  · intro order inside
    simp only [cancelledIn, Bool.and_eq_true] at inside
    simp only [cancelledIn, joins.apart inside.2, Bool.and_false]

theorem tally_ratedIn {Amount : Type} [AddCommGroup Amount]
    (amount : ReportedRating → Amount) (branchId : ObjectId)
    (ratings : List ReportedRating) :
    tally (ratedIn branchId whole) amount ratings =
      tally (ratedIn branchId first) amount ratings +
        tally (ratedIn branchId second) amount ratings := by
  apply tally_or
  · intro rating
    simp only [ratedIn, joins.contains, Bool.and_or_distrib_left]
  · intro rating inside
    simp only [ratedIn, Bool.and_eq_true] at inside
    simp only [ratedIn, joins.apart inside.2, Bool.and_false]

end Window.Joins

theorem reportWindow_joins {dateFrom dateMiddle dateNext dateTo : String}
    {start middle finish : ℤ} (first : dateNumber dateFrom = some start)
    (last : dateNumber dateMiddle = some middle)
    (next : dateNumber dateNext = some (middle + 1))
    (final : dateNumber dateTo = some finish) (ordered : start ≤ middle)
    (later : middle < finish) :
    ∃ early late whole : Window,
      reportWindow dateFrom dateMiddle = .ok early ∧
        reportWindow dateNext dateTo = .ok late ∧
        reportWindow dateFrom dateTo = .ok whole ∧ early.Joins late whole := by
  simp only [reportWindow, first, last, next, final]
  have lengths : startOfDay start < startOfDay middle + MS_PER_DAY ∧
      startOfDay (middle + 1) < startOfDay finish + MS_PER_DAY ∧
      startOfDay start < startOfDay finish + MS_PER_DAY ∧
      startOfDay (middle + 1) = startOfDay middle + MS_PER_DAY ∧
      startOfDay middle + MS_PER_DAY ≤ startOfDay finish + MS_PER_DAY := by
    simp only [startOfDay, MS_PER_DAY]
    omega
  obtain ⟨early, late, whole, follows, ends⟩ := lengths
  rw [if_neg (not_le.mpr early), if_neg (not_le.mpr late), if_neg (not_le.mpr whole)]
  exact ⟨_, _, _, rfl, rfl, rfl, rfl, follows, rfl, early.le, ends⟩

def combinedRating (first second : WasherReport) : Option ℚ :=
  if first.reviewCount + second.reviewCount = 0 then none
  else some ((first.avgRating.getD 0 * first.reviewCount +
    second.avgRating.getD 0 * second.reviewCount) /
      ((first.reviewCount + second.reviewCount : ℤ) : ℚ))

/-- The counts and sums of a report are those of two others together. -/
structure WasherReport.AddsUp (whole first second : WasherReport) : Prop where
  ordersCompleted : whole.ordersCompleted = first.ordersCompleted + second.ordersCompleted
  ordersCancelled : whole.ordersCancelled = first.ordersCancelled + second.ordersCancelled
  grossCentavos : whole.grossCentavos = first.grossCentavos + second.grossCentavos
  platformFeeCentavos :
    whole.platformFeeCentavos = first.platformFeeCentavos + second.platformFeeCentavos
  netCentavos : whole.netCentavos = first.netCentavos + second.netCentavos
  totalKg : whole.totalKg = first.totalKg + second.totalKg
  reviewCount : whole.reviewCount = first.reviewCount + second.reviewCount
  avgRating : whole.avgRating = combinedRating first second

theorem ReportStore.avgRating_mul (uid : Uid) (branchId : ObjectId) (window : Window)
    (store : ReportStore) (dateFrom dateTo : String) :
    (store.report uid branchId window dateFrom dateTo).avgRating.getD 0 *
        store.reviewCount branchId window =
      store.overallScores branchId window := by
  simp only [ReportStore.report]
  split
  · next unrated =>
    have nobody : store.ratings.filter (ratedIn branchId window) = [] := by
      simpa [ReportStore.reviewCount, tally] using unrated
    rw [ReportStore.overallScores, tally_eq_zero nobody, unrated]
    simp
  · next rated =>
    have positive : (store.reviewCount branchId window : ℚ) ≠ 0 := by
      exact_mod_cast rated
    rw [Option.getD_some, div_mul_cancel₀ _ positive]

/-- Reports add up if and only if the rounding of their gross amounts does. -/
theorem ReportStore.report_addsUp_iff {first second whole : Window}
    (joins : first.Joins second whole) (uid : Uid) (branchId : ObjectId)
    (store : ReportStore) (dateFrom dateMiddle dateNext dateTo : String) :
    (store.report uid branchId whole dateFrom dateTo).AddsUp
        (store.report uid branchId first dateFrom dateMiddle)
        (store.report uid branchId second dateNext dateTo) ↔
      -1 / 2 ≤ roundingError (store.grossCentavos uid first) +
          roundingError (store.grossCentavos uid second) ∧
        roundingError (store.grossCentavos uid first) +
          roundingError (store.grossCentavos uid second) < 1 / 2 := by
  have gross : store.grossCentavos uid whole =
      store.grossCentavos uid first + store.grossCentavos uid second :=
    joins.tally_completedIn _ uid store.orders
  have fees : store.platformFeeCentavos uid whole =
      store.platformFeeCentavos uid first + store.platformFeeCentavos uid second :=
    joins.tally_completedIn _ uid store.orders
  rw [← roundCentavos_add_iff, ← gross]
  constructor
  · intro addsUp
    exact addsUp.grossCentavos
  · intro rounds
    have feesRound : roundCentavos (store.platformFeeCentavos uid whole) =
        roundCentavos (store.platformFeeCentavos uid first) +
          roundCentavos (store.platformFeeCentavos uid second) := by
      simp only [roundCentavos_intCast, fees]
    have reviews : store.reviewCount branchId whole =
        store.reviewCount branchId first + store.reviewCount branchId second :=
      joins.tally_ratedIn _ branchId store.ratings
    have scores : store.overallScores branchId whole =
        store.overallScores branchId first + store.overallScores branchId second :=
      joins.tally_ratedIn _ branchId store.ratings
    refine ⟨joins.tally_completedIn _ uid store.orders,
      joins.tally_cancelledIn uid store.orders, rounds, feesRound, ?_,
      joins.tally_completedIn _ uid store.orders, reviews, ?_⟩
    · show roundCentavos (store.grossCentavos uid whole) -
          roundCentavos (store.platformFeeCentavos uid whole) =
        roundCentavos (store.grossCentavos uid first) -
            roundCentavos (store.platformFeeCentavos uid first) +
          (roundCentavos (store.grossCentavos uid second) -
            roundCentavos (store.platformFeeCentavos uid second))
      rw [rounds, feesRound]
      ring
    · show (if store.reviewCount branchId whole = 0 then none
          else some (store.overallScores branchId whole /
            store.reviewCount branchId whole)) = combinedRating _ _
      have firstSum := store.avgRating_mul uid branchId first dateFrom dateMiddle
      have secondSum := store.avgRating_mul uid branchId second dateNext dateTo
      rw [combinedRating]
      show _ = if store.reviewCount branchId first +
          store.reviewCount branchId second = 0 then none else some
            (((store.report uid branchId first dateFrom dateMiddle).avgRating.getD 0 *
                store.reviewCount branchId first +
              (store.report uid branchId second dateNext dateTo).avgRating.getD 0 *
                store.reviewCount branchId second) /
              ((store.reviewCount branchId first + store.reviewCount branchId second : ℤ) : ℚ))
      rw [firstSum, secondSum, ← scores, ← reviews]

end Lalaba.Washers
