import Lalaba.Foundation.Program
import Lalaba.Orders.Order
import Mathlib.Data.Fintype.Basic
import Mathlib.Data.Fintype.Pi

/-!
# Ratings of a provider

The customer of a completed order rates it in five dimensions, and may edit the
rating for two days.  Moderators take ratings down and put them back.  A provider
keeps the number of its ratings and six averages, and each of these operations
moves them by a difference, in the transaction that writes the rating.
-/

namespace Lalaba.Ratings

open Foundation
open Orders (OnlineOrder ProviderType)

/-! ## Rows -/

/-- `DIMENSIONS`. -/
inductive Dimension where
  | quality
  | speed
  | valueForMoney
  | delivery
  | communication
deriving DecidableEq

instance : Fintype Dimension where
  elems := {.quality, .speed, .valueForMoney, .delivery, .communication}
  complete dimension := by cases dimension <;> decide

def DIMENSIONS : List Dimension := [.quality, .speed, .valueForMoney, .delivery, .communication]

abbrev RatingScores : Type := Dimension → ℕ

structure Rating where
  _id : ObjectId
  orderId : ObjectId
  customerUid : Uid
  providerType : ProviderType
  branchId : ObjectId
  scores : RatingScores
  overallScore : ℚ
  comment : Option String
  editableUntil : Instant
  isRemoved : Bool
  removalReason : Option String
  restoredReason : Option String
deriving DecidableEq

/-- What a provider's averages are of: the overall score, or one dimension. -/
inductive Measure where
  | overall
  | dimension (dimension : Dimension)

def Rating.score (rating : Rating) : Measure → ℚ
  | .overall => rating.overallScore
  | .dimension dimension => rating.scores dimension

/-- The aggregate of a provider, with its six averages. -/
structure RatingAggregate where
  count : ℤ
  average : Measure → ℚ

def RatingAggregate.zero : RatingAggregate where
  count := 0
  average _ := 0

/--
The ratings, and the aggregates of washer profiles and of merchants' branches, by
branch.  A document without an aggregate holds `none`.
-/
structure RatingStore where
  ratings : List Rating
  washerProfiles : Collection (Option RatingAggregate)
  branches : Collection (Option RatingAggregate)

def average (scores : RatingScores) : ℚ :=
  ((DIMENSIONS.map fun dimension => (scores dimension : ℚ)).sum) / DIMENSIONS.length

/-- What an operation adds to the count and to the sums of a provider. -/
structure Deltas where
  countDelta : ℤ
  delta : Measure → ℚ

def RatingAggregate.apply (deltas : Deltas) (aggregate : RatingAggregate) :
    RatingAggregate :=
  let newCount := aggregate.count + deltas.countDelta
  { count := newCount
    average := fun measure =>
      if 0 < newCount then
        (aggregate.average measure * aggregate.count + deltas.delta measure) / (newCount : ℚ)
      else 0 }

namespace RatingStore

def aggregates (providerType : ProviderType) (store : RatingStore) :
    Collection (Option RatingAggregate) :=
  match providerType with
  | .washer => store.washerProfiles
  | .merchant => store.branches

/-- `aggregateModelFor`: the aggregate of a provider, if it has one. -/
def aggregateModelFor (providerType : ProviderType) (branchId : ObjectId)
    (store : RatingStore) : Except ServiceError (Option RatingAggregate) :=
  match (store.aggregates providerType).lookup branchId with
  | some aggregate => .ok aggregate
  | none =>
    match providerType with
    | .washer => .error (.notFound "Washer profile not found")
    | .merchant => .error (.notFound "Branch not found")

/-- `$set` the aggregate of a provider. -/
def setAggregate (providerType : ProviderType) (branchId : ObjectId)
    (aggregate : RatingAggregate) (store : RatingStore) : RatingStore :=
  match providerType with
  | .washer =>
    { store with
      washerProfiles := store.washerProfiles.insert branchId (some aggregate) }
  | .merchant =>
    { store with
      branches := store.branches.insert branchId (some aggregate) }

end RatingStore

/--
`applyAggregateDelta`: the aggregate is read outside the session and written in
it.
-/
def applyAggregateDelta {Memory : Type} (providerType : ProviderType)
    (branchId : ObjectId) (deltas : Deltas) :
    Program RatingStore Memory ServiceError Unit := do
  let found ← Program.outside fun store =>
    (store.aggregateModelFor providerType branchId, store)
  let aggregate ← Program.check found
  Program.query fun store =>
    .ok ((), store.setAggregate providerType branchId ((aggregate.getD .zero).apply deltas))

/-! ## A rating in memory -/

/-- The paths of a rating that have been modified, with their values. -/
structure RatingPatch where
  scores : Option RatingScores := none
  overallScore : Option ℚ := none
  comment : Option (Option String) := none
  isRemoved : Option Bool := none
  removalReason : Option (Option String) := none
  restoredReason : Option (Option String) := none
deriving DecidableEq

def RatingPatch.apply (patch : RatingPatch) (rating : Rating) : Rating :=
  { rating with
    scores := patch.scores.getD rating.scores
    overallScore := patch.overallScore.getD rating.overallScore
    comment := patch.comment.getD rating.comment
    isRemoved := patch.isRemoved.getD rating.isRemoved
    removalReason := patch.removalReason.getD rating.removalReason
    restoredReason := patch.restoredReason.getD rating.restoredReason }

/-- A rating as a call holds it. -/
structure RatingDocument where
  rating : Rating
  modified : RatingPatch

namespace RatingDocument

def read (rating : Rating) : RatingDocument where
  rating
  modified := {}

def assignScores (scores : RatingScores) (document : RatingDocument) :
    RatingDocument :=
  if document.rating.scores = scores then document
  else
    { rating := { document.rating with scores }
      modified := { document.modified with scores := some scores } }

def assignOverallScore (overallScore : ℚ) (document : RatingDocument) :
    RatingDocument :=
  if document.rating.overallScore = overallScore then document
  else
    { rating := { document.rating with overallScore }
      modified := { document.modified with overallScore := some overallScore } }

def assignComment (comment : Option String) (document : RatingDocument) :
    RatingDocument :=
  if document.rating.comment = comment then document
  else
    { rating := { document.rating with comment }
      modified := { document.modified with comment := some comment } }

def assignRemoved (isRemoved : Bool) (document : RatingDocument) :
    RatingDocument :=
  if document.rating.isRemoved = isRemoved then document
  else
    { rating := { document.rating with isRemoved }
      modified := { document.modified with isRemoved := some isRemoved } }

def assignRemovalReason (reason : String) (document : RatingDocument) :
    RatingDocument :=
  if document.rating.removalReason = some reason then document
  else
    { rating := { document.rating with removalReason := some reason }
      modified := { document.modified with removalReason := some (some reason) } }

def assignRestoredReason (reason : String) (document : RatingDocument) :
    RatingDocument :=
  if document.rating.restoredReason = some reason then document
  else
    { rating := { document.rating with restoredReason := some reason }
      modified := { document.modified with restoredReason := some (some reason) } }

end RatingDocument

def RatingStore.updateRating (ratingId : ObjectId)
    (change : Rating → Rating) (store : RatingStore) : RatingStore :=
  { store with
    ratings := store.ratings.map fun rating =>
      if rating._id = ratingId then change rating else rating }

/-- `save`: the modified paths are written, and are modified no more. -/
def save : Program RatingStore RatingDocument ServiceError Unit :=
  Program.call fun store document =>
    if store.ratings.any fun row => row._id == document.rating._id then
      .ok ((), store.updateRating document.rating._id document.modified.apply,
        { document with modified := {} })
    else
      .error .documentNotFound

/-! ## The transactions -/

def revise (edit : RatingDocument → RatingDocument)
    (deltas : Rating → Deltas) :
    Program RatingStore RatingDocument ServiceError Unit := do
  Program.edit edit
  save
  let document ← Program.remember
  applyAggregateDelta document.rating.providerType document.rating.branchId (deltas document.rating)

def Rating.added (rating : Rating) : Deltas where
  countDelta := 1
  delta := rating.score

def Rating.taken (rating : Rating) : Deltas where
  countDelta := -1
  delta measure := -rating.score measure

/-- `UpdateRatingInput`, and the scores of a `SubmitRatingInput`. -/
structure RatingInput where
  scores : RatingScores
  comment : Option String
deriving DecidableEq

def RatingInput.score (input : RatingInput) : Measure → ℚ
  | .overall => average input.scores
  | .dimension dimension => input.scores dimension

def RatingInput.deltas (input : RatingInput) (read : Rating) : Deltas where
  countDelta := 0
  delta measure := input.score measure - read.score measure

def RatingInput.assign (input : RatingInput) (document : RatingDocument) :
    RatingDocument :=
  ((document.assignScores input.scores).assignOverallScore
    (average input.scores)).assignComment input.comment

/-- The transaction of `updateRating`; its deltas are computed before it. -/
def updateInTransaction (input : RatingInput) (read : Rating) :
    Program RatingStore RatingDocument ServiceError Unit :=
  revise input.assign fun _ => input.deltas read

/-- The transaction of `moderateTakedown`. -/
def takedownInTransaction (reason : String) :
    Program RatingStore RatingDocument ServiceError Unit :=
  revise (fun document =>
      (document.assignRemoved true).assignRemovalReason reason)
    Rating.taken

/-- The transaction of `restoreRating`. -/
def restoreInTransaction (reason : String) :
    Program RatingStore RatingDocument ServiceError Unit :=
  revise (fun document =>
      (document.assignRemoved false).assignRestoredReason reason)
    Rating.added

def RatingStore.create (rating : Rating) (store : RatingStore) :
    Except ServiceError RatingStore :=
  if store.ratings.any fun row => row.orderId == rating.orderId then
    .error (.duplicateKey "orderId_1")
  else
    .ok { store with ratings := store.ratings ++ [rating] }

/-- The transaction of `submitRating`. -/
def submitInTransaction (rating : Rating) :
    Program RatingStore Unit ServiceError Unit := do
  Program.query fun store =>
    (store.create rating).map fun after => ((), after)
  applyAggregateDelta rating.providerType rating.branchId rating.added

def RATING_WINDOW_DAYS : ℕ := 30

def EDIT_WINDOW_HOURS : ℕ := 48

/-- The checks of `submitRating`, which sees the order and the ratings. -/
def assertRatable (order : Option OnlineOrder) (customerUid : Uid)
    (orderId : ObjectId) (now : Instant) (store : RatingStore) :
    Except ServiceError OnlineOrder :=
  match order with
  | none => .error (.notFound "Order not found")
  | some order =>
    if order.customer.uid ≠ customerUid then
      .error (.forbidden "Not your order")
    else
      match order.completedAt with
      | none =>
        .error (.badRequest "Only completed orders can be rated")
      | some completedAt =>
        if order.status ≠ .completed then
          .error (.badRequest "Only completed orders can be rated")
        else if RATING_WINDOW_DAYS * (1000 * 60 * 60 * 24) <
            now - completedAt then
          .error (.badRequest "The rating window for this order has closed")
        else if store.ratings.any fun row => row.orderId == orderId then
          .error (.badRequest "This order has already been rated")
        else
          .ok order

/-- The rating that an input gives an order. -/
def newRating (ratingId orderId : ObjectId) (order : OnlineOrder)
    (customerUid : Uid) (input : RatingInput) (now : Instant) : Rating where
  _id := ratingId
  orderId
  customerUid
  providerType := order.provider.providerType
  branchId := order.provider.branchId
  scores := input.scores
  overallScore := average input.scores
  comment := input.comment
  editableUntil := now + EDIT_WINDOW_HOURS * 60 * 60 * 1000
  isRemoved := false
  removalReason := none
  restoredReason := none

/-- The checks of `updateRating`. -/
def assertEditable (orderId : ObjectId) (customerUid : Uid) (now : Instant)
    (store : RatingStore) : Except ServiceError Rating :=
  match store.ratings.find? fun row => row.orderId == orderId with
  | none => .error (.notFound "Rating not found")
  | some rating =>
    if rating.customerUid ≠ customerUid then
      .error (.forbidden "Not your rating")
    else if rating.editableUntil < now then
      .error (.badRequest "The edit window for this rating has closed")
    else
      .ok rating

def findForModeration (ratingId : ObjectId) (decided : Bool)
    (store : RatingStore) : Except ServiceError (Option Rating) :=
  match store.ratings.find? fun row => row._id == ratingId with
  | none => .error (.notFound "Rating not found")
  | some rating =>
    if rating.isRemoved = decided then .ok none else .ok (some rating)

end Lalaba.Ratings
