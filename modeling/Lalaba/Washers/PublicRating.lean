import Lalaba.Ratings.Aggregate
import Lalaba.Washers.Report

/-!
# Reports and the public rating

A washer's report counts the ratings of her branch by itself, and does not ask whether
they have been removed; the aggregate that the public sees is of those that have not.
-/

namespace Lalaba.Washers

open Foundation
open Bookings (Day dateNumber)
open Orders (OnlineOrder)
open Ratings

/-! ## The ratings of a branch -/

def reported (createdAt : ObjectId → Instant) (rating : Rating) : ReportedRating :=
  { rating with createdAt := createdAt rating._id }

def Window.Covers (window : Window) (branchId : ObjectId)
    (ratings : List ReportedRating) : Prop :=
  ∀ rating ∈ ratings, rating.branchId = branchId → window.contains rating.createdAt

def AllLive (branchId : ObjectId) (ratings : List ReportedRating) : Prop :=
  ∀ rating ∈ ratings, rating.branchId = branchId →
    rating.providerType = .washer ∧ rating.isRemoved = false

instance (window : Window) (branchId : ObjectId) (ratings : List ReportedRating) :
    Decidable (window.Covers branchId ratings) :=
  inferInstanceAs (Decidable (∀ rating ∈ ratings, _ → _))

instance (branchId : ObjectId) (ratings : List ReportedRating) :
    Decidable (AllLive branchId ratings) :=
  inferInstanceAs (Decidable (∀ rating ∈ ratings, _ → _))

def WasherReport.Matches (report : WasherReport) (aggregate : RatingAggregate) : Prop :=
  report.reviewCount = aggregate.count ∧
    report.avgRating =
      if aggregate.count = 0 then none else some (aggregate.average .overall)

section

variable {window : Window} {branchId : ObjectId} {ratings : List Rating}
variable {createdAt : ObjectId → Instant}

theorem filter_ratedIn (covers : window.Covers branchId (ratings.map (reported createdAt))) :
    (ratings.map (reported createdAt)).filter (ratedIn branchId window) =
      (ratings.filter fun rating => decide (rating.branchId = branchId)).map
        (reported createdAt) := by
  rw [List.filter_map]
  congr 1
  apply List.filter_congr
  intro rating mem
  have inside := covers (reported createdAt rating) (List.mem_map_of_mem mem)
  by_cases here : rating.branchId = branchId
  · have inside : window.contains (createdAt rating._id) = true := inside here
    simp [ratedIn, reported, here, inside]
  · simp [ratedIn, reported, here]

theorem filter_live (allLive : AllLive branchId (ratings.map (reported createdAt))) :
    ratings.filter (live .washer branchId) =
      ratings.filter fun rating => decide (rating.branchId = branchId) := by
  apply List.filter_congr
  intro rating mem
  have counts := allLive (reported createdAt rating) (List.mem_map_of_mem mem)
  by_cases here : rating.branchId = branchId
  · have counts : rating.providerType = .washer ∧ rating.isRemoved = false := counts here
    simp [live, here, counts]
  · simp [live, here]

theorem allLive_of_length
    (same : (ratings.filter (live .washer branchId)).length =
      (ratings.filter fun rating => decide (rating.branchId = branchId)).length) :
    AllLive branchId (ratings.map (reported createdAt)) := by
  have sublist : (ratings.filter (live .washer branchId)).Sublist
      (ratings.filter fun rating => decide (rating.branchId = branchId)) := by
    apply List.monotone_filter_right
    intro rating counts
    simp only [live, decide_eq_true_eq] at counts ⊢
    exact counts.2.1
  have equal := sublist.eq_of_length same
  intro rating mem here
  obtain ⟨row, stored, rfl⟩ := List.mem_map.mp mem
  have there : row ∈ ratings.filter (live .washer branchId) := by
    rw [equal]
    exact List.mem_filter.mpr ⟨stored, decide_eq_true here⟩
  have counts := (List.mem_filter.mp there).2
  simp only [live, decide_eq_true_eq] at counts
  exact ⟨counts.1, counts.2.2⟩

end

/-- A report over everything has the public rating unless a rating does not count. -/
theorem report_matches_iff {window : Window} {branchId : ObjectId}
    {ratings : List Rating} {createdAt : ObjectId → Instant} {store : ReportStore}
    {aggregate : RatingAggregate} (rows : store.ratings = ratings.map (reported createdAt))
    (covers : window.Covers branchId store.ratings)
    (summarises : aggregate.Summarises (ratings.filter (live .washer branchId)))
    (uid : Uid) (dateFrom dateTo : String) :
    (store.report uid branchId window dateFrom dateTo).Matches aggregate ↔
      AllLive branchId store.ratings := by
  rw [rows] at covers ⊢
  have count : store.reviewCount branchId window =
      (ratings.filter fun rating => decide (rating.branchId = branchId)).length := by
    rw [ReportStore.reviewCount, tally, rows, filter_ratedIn covers]
    simp [Function.comp_def]
  have scores : store.overallScores branchId window =
      ((ratings.filter fun rating => decide (rating.branchId = branchId)).map
        (·.score .overall)).sum := by
    rw [ReportStore.overallScores, tally, rows, filter_ratedIn covers, List.map_map]
    rfl
  constructor
  · rintro ⟨counts, _⟩
    apply allLive_of_length
    have counts : store.reviewCount branchId window = aggregate.count := counts
    rw [count, summarises.count] at counts
    exact_mod_cast counts.symm
  · intro allLive
    have alive := filter_live allLive
    rw [alive] at summarises
    have counts : store.reviewCount branchId window = aggregate.count := by
      rw [count, summarises.count]
    refine ⟨counts, ?_⟩
    show (if store.reviewCount branchId window = 0 then none
      else some (store.overallScores branchId window / store.reviewCount branchId window)) = _
    rw [counts]
    split
    · rfl
    · next rated =>
      have positive : 0 < aggregate.count := by
        have count := summarises.count
        omega
      rw [summarises.averages positive, scores, summarises.count]
      simp

/-- Reports of two ranges that follow each other, and of both together. -/
structure Consecutive (store : ReportStore) (uid : Uid) (branchId : ObjectId)
    (dateFrom dateMiddle dateNext dateTo : String) (first second whole : Window) :
    Prop where
  early : store.getReport uid dateFrom dateMiddle =
    .ok (store.report uid branchId first dateFrom dateMiddle)
  late : store.getReport uid dateNext dateTo =
    .ok (store.report uid branchId second dateNext dateTo)
  both : store.getReport uid dateFrom dateTo = .ok (store.report uid branchId whole dateFrom dateTo)
  contains : ∀ instant, whole.contains instant = (first.contains instant || second.contains instant)
  apart : ∀ instant, first.contains instant = true → second.contains instant = false

/--
Reports of ranges that follow each other add up if and only if the fractions of a
centavo in their gross amounts do.  After a careful run of the ratings, a report over
everything has the public rating of the washer if and only if no rating of her branch
has been removed.
-/
theorem reportsAreConsistent_iff {initial : RatingStore} {state : State}
    (integrity : initial.Integrity) (unique : (initial.ratings.map (·._id)).Nodup)
    (reached : ratingSystem.Reaches Careful (.start initial) state)
    {createdAt : ObjectId → Instant} {store : ReportStore}
    (rows : store.ratings = state.store.ratings.map (reported createdAt))
    {uid : Uid} {branchId : ObjectId} (profile : store.profiles uid = some branchId)
    {aggregate : Option RatingAggregate}
    (stored : state.store.washerProfiles.lookup branchId = some aggregate) :
    (∀ (dateFrom dateMiddle dateNext dateTo : String) (start middle finish : Day),
      dateNumber dateFrom = some start → dateNumber dateMiddle = some middle →
      dateNumber dateNext = some (middle + 1) → dateNumber dateTo = some finish →
      start ≤ middle → middle < finish → ∃ first second whole,
          Consecutive store uid branchId dateFrom dateMiddle dateNext dateTo first second whole ∧
          ((store.report uid branchId whole dateFrom dateTo).AddsUp
              (store.report uid branchId first dateFrom dateMiddle)
              (store.report uid branchId second dateNext dateTo) ↔
            -1 / 2 ≤ roundingError (store.grossCentavos uid first) +
                roundingError (store.grossCentavos uid second) ∧
              roundingError (store.grossCentavos uid first) +
                roundingError (store.grossCentavos uid second) < 1 / 2)) ∧
      ∀ (dateFrom dateTo : String) (window : Window),
        reportWindow dateFrom dateTo = .ok window →
        window.Covers branchId store.ratings →
          store.getReport uid dateFrom dateTo =
              .ok (store.report uid branchId window dateFrom dateTo) ∧
            ((store.report uid branchId window dateFrom dateTo).Matches
                (aggregate.getD .zero) ↔ AllLive branchId store.ratings) := by
  constructor
  · intro dateFrom dateMiddle dateNext dateTo start middle finish
      first last next final ordered later
    obtain ⟨early, late, whole, opens, closes, spans, joins⟩ :=
      reportWindow_joins first last next final ordered later
    refine ⟨early, late, whole, ⟨?_, ?_, ?_, joins.contains, fun _ => joins.apart⟩,
      store.report_addsUp_iff joins uid branchId dateFrom dateMiddle dateNext dateTo⟩
    · simp only [ReportStore.getReport, profile, opens, Except.map]
    · simp only [ReportStore.getReport, profile, closes, Except.map]
    · simp only [ReportStore.getReport, profile, spans, Except.map]
  · intro dateFrom dateTo window spans covers
    have summarises := (sound_of_reaches integrity unique reached).integrity
      .washer branchId aggregate stored
    refine ⟨?_, report_matches_iff rows covers summarises uid dateFrom dateTo⟩
    simp only [ReportStore.getReport, profile, spans, Except.map]

/-! ## A washer with one rating -/

namespace Rated

def opened : RatingStore where
  ratings := []
  washerProfiles := (∅ : Collection (Option RatingAggregate)).insert Desk.branch none
  branches := ∅

def completed : OnlineOrder :=
  { Desk.completed with
    provider :=
      { providerType := .washer
        providerUid := "washer-1"
        branchId := Desk.branch
        providerName := "Washer"
        allowsPayAtHandover := false } }

def rated : List Action :=
  [.submitRating "order-1" (some completed) Desk.customer (Desk.scored 5) 2000,
    .proceed 0 [] "rating-1"]

def removed : List Action :=
  rated ++ [.moderateTakedown "rating-1" "spam", .proceed 0 [] "rating-2"]

def createdAt (_ : ObjectId) : Instant := 2000

def store (state : State) : ReportStore where
  profiles uid := if uid = "washer-1" then some Desk.branch else none
  orders := []
  ratings := state.store.ratings.map (reported createdAt)

def window : Window where
  start := -28800000
  finish := 57600000

theorem opened_integrity : opened.Integrity := by
  intro providerType branchId aggregate stored
  have unrated : aggregate = none := by
    cases providerType with
    | merchant => cases stored
    | washer =>
      by_cases same : branchId = Desk.branch
      · have found : opened.washerProfiles.lookup Desk.branch = some none := AList.lookup_insert _
        exact (Option.some.inj (found.symm.trans (same ▸ stored))).symm
      · have found : opened.washerProfiles.lookup branchId = none := AList.lookup_insert_ne same
        cases found.symm.trans stored
  subst unrated
  exact ⟨rfl, fun positive => absurd positive (by decide), fun _ _ => rfl⟩

theorem reportWindow_day : reportWindow "1970-01-01" "1970-01-01" = .ok window := by
  decide +kernel

end Rated

/-- The washer has been rated once, and a report over the day says so. -/
theorem reportsAreConsistent_rated :
    ∃ state aggregate,
      ratingSystem.Reaches Careful (.start Rated.opened) state ∧
        state.store.washerProfiles.lookup Desk.branch = some aggregate ∧
        (Rated.store state).getReport "washer-1" "1970-01-01" "1970-01-01" =
          .ok ((Rated.store state).report "washer-1" Desk.branch Rated.window
            "1970-01-01" "1970-01-01") ∧
        ((Rated.store state).report "washer-1" Desk.branch Rated.window
          "1970-01-01" "1970-01-01").Matches (aggregate.getD .zero) := by
  have performed :
      ((ratingSystem.restrict Careful).perform Rated.rated (.start Rated.opened)).map (fun state =>
          ((state.store.washerProfiles.lookup Desk.branch).isSome,
            decide (Rated.window.Covers Desk.branch (Rated.store state).ratings),
            decide (AllLive Desk.branch (Rated.store state).ratings))) =
        some (true, true, true) := by
    decide +kernel
  obtain ⟨state, ran, seen⟩ := Option.map_eq_some_iff.mp performed
  simp only [Prod.mk.injEq, decide_eq_true_eq] at seen
  obtain ⟨profile, covers, allLive⟩ := seen
  obtain ⟨aggregate, stored⟩ := Option.isSome_iff_exists.mp profile
  have reached := System.reaches_of_perform_restrict ran
  have rows : (Rated.store state).ratings =
      state.store.ratings.map (reported Rated.createdAt) := rfl
  have profile : (Rated.store state).profiles "washer-1" = some Desk.branch := rfl
  obtain ⟨reports, ratings⟩ := (reportsAreConsistent_iff Rated.opened_integrity
    List.nodup_nil reached rows profile stored).2
    "1970-01-01" "1970-01-01" Rated.window Rated.reportWindow_day covers
  exact ⟨state, aggregate, reached, stored, reports, ratings.mpr allLive⟩

/-- The rating has been removed: the washer shows none, and a report has one. -/
theorem removedRatingIsReported :
    ¬ ∀ (state : State) (aggregate : Option RatingAggregate),
      ratingSystem.Reaches (fun _ _ => True) (.start Rated.opened) state →
        state.store.washerProfiles.lookup Desk.branch = some aggregate →
        Rated.window.Covers Desk.branch (Rated.store state).ratings →
          ((Rated.store state).report "washer-1" Desk.branch Rated.window
            "1970-01-01" "1970-01-01").Matches (aggregate.getD .zero) := by
  intro always
  have performed : (ratingSystem.perform Rated.removed (.start Rated.opened)).map (fun state =>
          ((state.store.washerProfiles.lookup Desk.branch).map fun aggregate =>
              (aggregate.getD .zero).count,
            decide (Rated.window.Covers Desk.branch (Rated.store state).ratings),
            (Rated.store state).reviewCount Desk.branch Rated.window)) =
        some (some 0, true, 1) := by
    decide +kernel
  obtain ⟨state, ran, seen⟩ := Option.map_eq_some_iff.mp performed
  simp only [Prod.mk.injEq, decide_eq_true_eq] at seen
  obtain ⟨shown, covers, counted⟩ := seen
  obtain ⟨aggregate, stored, count⟩ := Option.map_eq_some_iff.mp shown
  have reached := System.reaches_of_perform ran
  have same : (Rated.store state).reviewCount Desk.branch Rated.window =
      (aggregate.getD .zero).count :=
    (always state aggregate reached stored covers).1
  rw [counted, count] at same
  exact absurd same (by decide)

end Lalaba.Washers
