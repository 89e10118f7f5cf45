import Lalaba.Foundation.Tally
import Lalaba.Ratings.System

/-!
# The aggregate of a provider

The count and the averages of a provider summarise its ratings that are not
removed.  Every operation moves them by the difference that its rating makes, as
the call has read it.  So they stay right in the runs in which the rating is still
as it was read when the transaction writes it, and in which the transaction is not
run again once it has saved the rating.
-/

namespace Lalaba.Ratings

open Foundation
open Orders (OnlineOrder ProviderType)

def live (providerType : ProviderType) (branchId : ObjectId)
    (rating : Rating) : Bool :=
  rating.providerType = providerType ∧ rating.branchId = branchId ∧ rating.isRemoved = false

/-- The count and the averages are those of some ratings. -/
structure RatingAggregate.Summarises (aggregate : RatingAggregate)
    (ratings : List Rating) : Prop where
  count : aggregate.count = ratings.length
  averages : 0 < aggregate.count → ∀ measure,
    aggregate.average measure = (ratings.map (·.score measure)).sum / ratings.length
  empty : aggregate.count = 0 → ∀ measure, aggregate.average measure = 0

def RatingStore.Integrity (store : RatingStore) : Prop :=
  ∀ providerType branchId aggregate,
    (store.aggregates providerType).lookup branchId = some aggregate →
    (aggregate.getD .zero).Summarises (store.ratings.filter (live providerType branchId))

/-! ## The aggregate as sums -/

def liveCount (providerType : ProviderType) (branchId : ObjectId) :
    List Rating → ℤ :=
  tally (live providerType branchId) fun _ => 1

def liveSum (providerType : ProviderType) (branchId : ObjectId)
    (measure : Measure) : List Rating → ℚ :=
  tally (live providerType branchId) (·.score measure)

theorem liveCount_eq (providerType : ProviderType) (branchId : ObjectId)
    (ratings : List Rating) :
    liveCount providerType branchId ratings =
      (ratings.filter (live providerType branchId)).length := by
  simp [liveCount, tally]

def Sums (aggregate : RatingAggregate) (providerType : ProviderType)
    (branchId : ObjectId) (ratings : List Rating) : Prop :=
  aggregate.count = liveCount providerType branchId ratings ∧
    ∀ measure,
      Mean aggregate.count (liveSum providerType branchId measure ratings)
        (aggregate.average measure)

variable {providerType : ProviderType} {branchId : ObjectId} {ratings : List Rating}

theorem summarises_iff {aggregate : RatingAggregate} :
    aggregate.Summarises (ratings.filter (live providerType branchId)) ↔
      Sums aggregate providerType branchId ratings := by
  constructor
  · intro summarises
    have count := summarises.count
    refine ⟨by rw [liveCount_eq, count], fun measure => ⟨?_, ?_⟩⟩
    · intro positive
      rw [summarises.averages positive measure, count]
      simp [liveSum, tally]
    · intro zero
      have none : ratings.filter (live providerType branchId) = [] := by
        apply List.length_eq_zero_iff.mp
        omega
      exact ⟨summarises.empty zero measure, tally_eq_zero none⟩
  · rintro ⟨count, means⟩
    rw [liveCount_eq] at count
    refine ⟨count, fun positive measure => ?_, fun zero measure => ?_⟩
    · rw [(means measure).counted positive, count]
      simp [liveSum, tally]
    · exact ((means measure).empty zero).1

theorem liveSum_eq_zero (none : liveCount providerType branchId ratings = 0)
    (measure : Measure) :
    liveSum providerType branchId measure ratings = 0 := by
  apply tally_eq_zero
  rw [liveCount_eq] at none
  apply List.length_eq_zero_iff.mp
  exact_mod_cast none

/--
Deltas that are what the ratings have moved by move the aggregate.  Where no
rating is left, the sums do not matter: the averages are zero.
-/
theorem Sums.apply {aggregate : RatingAggregate} {ratings' : List Rating}
    {deltas : Deltas} (sums : Sums aggregate providerType branchId ratings)
    (count : liveCount providerType branchId ratings' =
      liveCount providerType branchId ratings + deltas.countDelta)
    (moved : liveCount providerType branchId ratings' ≠ 0 → ∀ measure,
      liveSum providerType branchId measure ratings' =
        liveSum providerType branchId measure ratings + deltas.delta measure) :
    Sums (aggregate.apply deltas) providerType branchId ratings' := by
  have nonneg : 0 ≤ aggregate.count := by
    rw [sums.1, liveCount_eq]
    exact Int.natCast_nonneg _
  have newCount : (aggregate.apply deltas).count = liveCount providerType branchId ratings' := by
    rw [count, ← sums.1]
    rfl
  refine ⟨newCount, fun measure => ?_⟩
  by_cases empty : liveCount providerType branchId ratings' = 0
  · rw [newCount, liveSum_eq_zero empty]
    constructor
    · intro positive
      omega
    · intro _
      refine ⟨if_neg ?_, rfl⟩
      have zero := newCount.trans empty
      exact fun positive => (zero ▸ positive : (0 : ℤ) < 0).false
  · rw [moved empty measure]
    apply (sums.2 measure).move nonneg
    intro zero
    exact absurd (newCount.symm.trans zero) empty

/-- The ratings of one provider have moved by deltas, those of no other. -/
structure Moved (providerType : ProviderType) (branchId : ObjectId)
    (deltas : Deltas) (ratings ratings' : List Rating) : Prop where
  count : liveCount providerType branchId ratings' =
    liveCount providerType branchId ratings + deltas.countDelta
  sums : liveCount providerType branchId ratings' ≠ 0 → ∀ measure,
    liveSum providerType branchId measure ratings' =
      liveSum providerType branchId measure ratings + deltas.delta measure
  others : ∀ providerType' branchId',
    ¬(providerType' = providerType ∧ branchId' = branchId) →
    liveCount providerType' branchId' ratings' =
        liveCount providerType' branchId' ratings ∧
      ∀ measure,
        liveSum providerType' branchId' measure ratings' =
          liveSum providerType' branchId' measure ratings

namespace RatingStore

variable {store : RatingStore}

theorem integrity_iff :
    store.Integrity ↔
      ∀ providerType branchId aggregate,
        (store.aggregates providerType).lookup branchId = some aggregate →
        Sums (aggregate.getD .zero) providerType branchId
          store.ratings := by
  simp only [Integrity, summarises_iff]

theorem aggregateModelFor_ok {providerType : ProviderType} {branchId : ObjectId}
    {aggregate : Option RatingAggregate}
    (found : store.aggregateModelFor providerType branchId = .ok aggregate) :
    (store.aggregates providerType).lookup branchId = some aggregate := by
  unfold aggregateModelFor at found
  split at found
  · next stored =>
    cases found
    exact stored
  · cases providerType <;> cases found

@[simp]
theorem setAggregate_ratings (providerType : ProviderType)
    (branchId : ObjectId) (aggregate : RatingAggregate)
    (store : RatingStore) :
    (store.setAggregate providerType branchId aggregate).ratings =
      store.ratings := by
  cases providerType <;> rfl

theorem lookup_setAggregate (providerType providerType' : ProviderType)
    (branchId branchId' : ObjectId) (aggregate : RatingAggregate)
    (store : RatingStore) :
    ((store.setAggregate providerType branchId aggregate).aggregates
        providerType').lookup branchId' =
      if providerType' = providerType ∧ branchId' = branchId then
        some (some aggregate)
      else (store.aggregates providerType').lookup branchId' := by
  by_cases same : branchId' = branchId
  · subst same
    cases providerType <;> cases providerType' <;> simp [aggregates, setAggregate]
  · cases providerType <;> cases providerType' <;>
      simp [aggregates, setAggregate, same, AList.lookup_insert_ne]

theorem Integrity.moved {written : RatingStore} {providerType : ProviderType}
    {branchId : ObjectId} {deltas : Deltas} {found : Option RatingAggregate}
    (integrity : store.Integrity) (same : ∀ providerType,
      written.aggregates providerType = store.aggregates providerType)
    (aggregate : store.aggregateModelFor providerType branchId =
      .ok found) (moved : Moved providerType branchId deltas store.ratings
      written.ratings) :
    (written.setAggregate providerType branchId ((found.getD .zero).apply deltas)).Integrity := by
  rw [integrity_iff] at integrity ⊢
  intro providerType' branchId' aggregate' stored
  rw [setAggregate_ratings]
  rw [lookup_setAggregate] at stored
  split at stored
  · next here =>
    cases stored
    rw [here.1, here.2]
    exact (integrity _ _ _ (aggregateModelFor_ok aggregate)).apply moved.count moved.sums
  · next elsewhere =>
    rw [same] at stored
    obtain ⟨count, sums⟩ := integrity _ _ _ stored
    obtain ⟨count', sums'⟩ := moved.others _ _ elsewhere
    refine ⟨count.trans count'.symm, fun measure => ?_⟩
    rw [sums' measure]
    exact sums measure

end RatingStore

def Rating.weight (rating : Rating) : ℤ :=
  if rating.isRemoved then 0 else 1

def Rating.counted (rating : Rating) (measure : Measure) : ℚ :=
  if rating.isRemoved then 0 else rating.score measure

/-- A count moves by the difference between a rating before and after. -/
structure Difference (before after : Rating) (deltas : Deltas) : Prop where
  providerType : after.providerType = before.providerType
  branchId : after.branchId = before.branchId
  count : after.weight - before.weight = deltas.countDelta

section

variable {Amount : Type} [AddCommGroup Amount] (amount : Rating → Amount)
  {rating : Rating} {providerType : ProviderType} {branchId : ObjectId}

theorem contribution_own (isType : rating.providerType = providerType)
    (isBranch : rating.branchId = branchId) :
    contribution (live providerType branchId) amount rating =
      if rating.isRemoved then 0 else amount rating := by
  cases removed : rating.isRemoved <;> simp [contribution, live, isType, isBranch, removed]

theorem contribution_other
    (elsewhere : ¬(providerType = rating.providerType ∧ branchId = rating.branchId)) :
    contribution (live providerType branchId) amount rating = 0 := by
  apply if_neg
  intro isLive
  have parts := of_decide_eq_true isLive
  exact elsewhere ⟨parts.1.symm, parts.2.1.symm⟩

end

variable {store : RatingStore} {deltas : Deltas} {rating : Rating} {value : Unit}

theorem Difference.moved {ratings : List Rating} {row : Rating}
    {change : Rating → Rating} (difference : Difference row (change row) deltas)
    (unique : (ratings.map (·._id)).Nodup) (stored : row ∈ ratings)
    (sums : liveCount row.providerType row.branchId ratings +
        deltas.countDelta ≠ 0 → ∀ measure,
      (change row).counted measure - row.counted measure = deltas.delta measure) :
    Moved row.providerType row.branchId deltas ratings (ratings.map fun other =>
        if other._id = row._id then change other else other) := by
  have count : liveCount row.providerType row.branchId (ratings.map fun other =>
        if other._id = row._id then change other else other) =
      liveCount row.providerType row.branchId ratings +
        deltas.countDelta := by
    rw [liveCount, tally_update unique stored change,
      contribution_own _ difference.providerType difference.branchId,
      contribution_own _ rfl rfl, ← difference.count]
    rfl
  refine ⟨count, ?_, ?_⟩
  · intro counted measure
    rw [liveSum, tally_update unique stored change,
      contribution_own _ difference.providerType difference.branchId,
      contribution_own _ rfl rfl, ← sums (count ▸ counted) measure]
    rfl
  · intro providerType branchId elsewhere
    have after : ¬(providerType = (change row).providerType ∧
        branchId = (change row).branchId) := by
      rw [difference.providerType, difference.branchId]
      exact elsewhere
    constructor
    · rw [liveCount, tally_update unique stored change,
        contribution_other _ after, contribution_other _ elsewhere, sub_self, add_zero]
    · intro measure
      rw [liveSum, tally_update unique stored change,
        contribution_other _ after, contribution_other _ elsewhere, sub_self, add_zero]

theorem moved_append (unremoved : rating.isRemoved = false)
    (ratings : List Rating) :
    Moved rating.providerType rating.branchId rating.added ratings (ratings ++ [rating]) where
  count := by
    rw [liveCount, tally_append, tally_singleton, contribution_own _ rfl rfl, unremoved]
    rfl
  sums _ measure := by
    rw [liveSum, tally_append, tally_singleton, contribution_own _ rfl rfl, unremoved]
    rfl
  others providerType branchId elsewhere := by
    constructor
    · rw [liveCount, tally_append, tally_singleton, contribution_other _ elsewhere, add_zero]
    · intro measure
      rw [liveSum, tally_append, tally_singleton, contribution_other _ elsewhere, add_zero]

/-! ## What a transaction leaves behind -/

theorem applyAggregateDelta_ok {Memory : Type} {providerType : ProviderType}
    {branchId : ObjectId} {session finish : Session RatingStore Memory}
    (unlimited : session.budget = none)
    (ran : (applyAggregateDelta providerType branchId deltas).run session = (.ok value, finish)) :
    ∃ found,
      session.durable.aggregateModelFor providerType branchId =
          .ok found ∧
        finish.store = session.store.setAggregate providerType branchId
          ((found.getD .zero).apply deltas) := by
  obtain ⟨outcome, read, ranOutside, ran⟩ := Program.run_bind_ok.mp ran
  cases ranOutside
  obtain ⟨aggregate, checked, ranCheck, ran⟩ := Program.run_bind_ok.mp ran
  dsimp only at ranCheck
  rcases found : session.durable.aggregateModelFor providerType branchId with error | found'
  · rw [found] at ranCheck
    cases ranCheck
  · rw [found] at ranCheck
    cases ranCheck
    obtain ⟨store, acted, rfl⟩ := (Program.run_query_ok unlimited).mp ran
    cases acted
    exact ⟨aggregate, rfl, rfl⟩

theorem keeps_applyAggregateDelta {Memory : Type}
    (store : RatingStore) (providerType : ProviderType)
    (branchId : ObjectId) (deltas : Deltas) :
    Program.Keeps (fun session : Session RatingStore Memory =>
        session.durable = store)
      (applyAggregateDelta providerType branchId deltas) := by
  refine Program.Keeps.bind (Program.Keeps.outside fun _ holds => holds) ?_
  intro found
  apply Program.Keeps.checking
  intro aggregate
  exact Program.Keeps.query (fun _ holds => holds) (fun _ _ _ holds _ => holds)

theorem keeps_revise (store : RatingStore)
    (edit : RatingDocument → RatingDocument) (deltas : Rating → Deltas) :
    Program.Keeps (fun session : Session RatingStore RatingDocument =>
        session.durable = store)
      (revise edit deltas) := by
  refine Program.Keeps.bind (Program.Keeps.edit fun _ holds => holds) ?_
  intro _
  refine Program.Keeps.bind
    (Program.Keeps.call (fun _ holds => holds)
      fun _ _ _ _ holds _ => holds) ?_
  intro _
  refine Program.Keeps.bind Program.Keeps.remember ?_
  intro document
  exact keeps_applyAggregateDelta store _ _ _

theorem revise_committed {edit : RatingDocument → RatingDocument}
    {deltas : Rating → Deltas} {after : RatingStore}
    {document memory : RatingDocument}
    (committed : (revise edit deltas).commit store document = (.ok value, after, memory)) :
    ∃ found,
      store.aggregateModelFor (edit document).rating.providerType
          (edit document).rating.branchId = .ok found ∧
        after =
          (store.updateRating (edit document).rating._id
            (edit document).modified.apply).setAggregate
              (edit document).rating.providerType
              (edit document).rating.branchId
              ((found.getD .zero).apply (deltas (edit document).rating)) := by
  obtain ⟨finish, ran, rfl, rfl⟩ := Program.commit_ok.mp committed
  obtain ⟨_, edited, ranEdit, ran⟩ := Program.run_bind_ok.mp ran
  cases ranEdit
  obtain ⟨_, saved, ranSave, ran⟩ := Program.run_bind_ok.mp ran
  obtain ⟨written, cleared, acted, rfl⟩ := (Program.run_call_ok rfl).mp ranSave
  obtain ⟨_, remembered, ranRemember, ran⟩ := Program.run_bind_ok.mp ran
  cases ranRemember
  obtain ⟨found, model, applied⟩ := applyAggregateDelta_ok rfl ran
  split at acted
  · cases acted
    exact ⟨found, model, applied⟩
  · cases acted

theorem submit_committed {after : RatingStore} {memory memory' : Unit}
    (committed : (submitInTransaction rating).commit store memory = (.ok value, after, memory')) :
    ∃ found,
      store.aggregateModelFor rating.providerType rating.branchId =
          .ok found ∧
        after =
          ({ store with ratings := store.ratings ++ [rating] }
            : RatingStore).setAggregate rating.providerType
              rating.branchId ((found.getD .zero).apply rating.added) := by
  obtain ⟨finish, ran, rfl, rfl⟩ := Program.commit_ok.mp committed
  obtain ⟨_, created, ranCreate, ran⟩ := Program.run_bind_ok.mp ran
  obtain ⟨written, acted, rfl⟩ := (Program.run_query_ok rfl).mp ranCreate
  obtain ⟨found, model, applied⟩ := applyAggregateDelta_ok rfl ran
  rw [RatingStore.create] at acted
  split at acted
  · cases acted
  · cases acted
    exact ⟨found, model, applied⟩

theorem revise_aborted (edit : RatingDocument → RatingDocument)
    (deltas : Rating → Deltas) (store : RatingStore)
    (document : RatingDocument) (rest : List ℕ) :
    (revise edit deltas).withTransaction (0 :: rest) store document =
      (revise edit deltas).withTransaction rest store (edit document) :=
  rfl

def Unsaved (aborts : List ℕ) : Prop := ∀ budget ∈ aborts, budget = 0

instance (aborts : List ℕ) : Decidable (Unsaved aborts) :=
  inferInstanceAs (Decidable (∀ budget ∈ aborts, budget = 0))

theorem revise_unsaved {edit : RatingDocument → RatingDocument}
    (idempotent : ∀ document, edit (edit document) = edit document)
    (deltas : Rating → Deltas) (store : RatingStore) {aborts : List ℕ}
    (unsaved : Unsaved aborts) (document : RatingDocument) :
    ((revise edit deltas).withTransaction aborts store document).2.1 =
        store ∨
      ∃ value after memory again, edit again = edit document ∧
        (revise edit deltas).commit store again = (.ok value, after, memory) ∧
        ((revise edit deltas).withTransaction aborts store document).2.1 = after := by
  induction aborts generalizing document with
  | nil =>
    rcases Program.commit_cases (keeps_revise store edit deltas) document
      with same | ⟨value, after, memory, committed⟩
    · exact .inl same
    · rw [Program.withTransaction_nil, committed]
      exact .inr ⟨value, after, memory, document, rfl, committed, rfl⟩
  | cons budget rest induction =>
    have zero := unsaved budget List.mem_cons_self
    subst zero
    rw [revise_aborted]
    have later := induction
      (fun budget member => unsaved budget (List.mem_cons_of_mem _ member))
      (edit document)
    rw [idempotent] at later
    exact later

theorem keeps_memory {Fact : RatingDocument → Prop}
    {edit : RatingDocument → RatingDocument} (deltas : Rating → Deltas)
    (edited : ∀ document, Fact document → Fact (edit document))
    (saved : ∀ document, Fact document → Fact { document with modified := {} }) :
    Program.Keeps (fun session : Session RatingStore RatingDocument =>
        Fact session.memory)
      (revise edit deltas) := by
  refine Program.Keeps.bind (Program.Keeps.edit fun session => edited session.memory) ?_
  intro _
  refine Program.Keeps.bind (Program.Keeps.call (fun _ holds => holds) ?_) ?_
  · intro session value store memory holds acted
    split at acted
    · cases acted
      exact saved session.memory holds
    · cases acted
  · intro _
    refine Program.Keeps.bind Program.Keeps.remember ?_
    intro document
    rw [applyAggregateDelta]
    refine Program.Keeps.bind (Program.Keeps.outside fun _ holds => holds) ?_
    intro found
    apply Program.Keeps.checking
    intro aggregate
    exact Program.Keeps.query (fun _ holds => holds) (fun _ _ _ holds _ => holds)

def Identified (read : Rating) (store : RatingStore) : Prop :=
  ∃ row ∈ store.ratings, row._id = read._id ∧
    row.providerType = read.providerType ∧ row.branchId = read.branchId

/-- What every transaction leaves behind. -/
structure Advanced (store after : RatingStore) : Prop where
  integrity : after.Integrity
  unique : (after.ratings.map (·._id)).Nodup
  identified : ∀ read, Identified read store → Identified read after

theorem map_updateRating {Key : Type} (key : Rating → Key)
    {ratingId : ObjectId} (store : RatingStore) (change : Rating → Rating)
    (same : ∀ rating, key (change rating) = key rating) :
    (store.updateRating ratingId change).ratings.map key =
      store.ratings.map key := by
  rw [RatingStore.updateRating, List.map_map]
  apply List.map_congr_left
  intro rating _
  rw [Function.comp]
  split
  · exact same rating
  · rfl

theorem identified_iff {read : Rating} :
    Identified read store ↔
      (read._id, read.providerType, read.branchId) ∈ store.ratings.map fun rating =>
          (rating._id, rating.providerType, rating.branchId) := by
  simp [Identified]

theorem advanced_revision {document : RatingDocument} {row : Rating}
    {found : Option RatingAggregate} (integrity : store.Integrity)
    (unique : (store.ratings.map (·._id)).Nodup) (stored : row ∈ store.ratings)
    (isIt : row._id = document.rating._id)
    (ofType : row.providerType = document.rating.providerType)
    (ofBranch : row.branchId = document.rating.branchId)
    (model : store.aggregateModelFor document.rating.providerType
      document.rating.branchId = .ok found)
    (difference : Difference row (document.modified.apply row) deltas)
    (sums : liveCount row.providerType row.branchId store.ratings +
        deltas.countDelta ≠ 0 → ∀ measure,
      (document.modified.apply row).counted measure - row.counted measure = deltas.delta measure) :
    Advanced store
      ((store.updateRating document.rating._id document.modified.apply).setAggregate
          document.rating.providerType document.rating.branchId
          ((found.getD .zero).apply deltas)) where
  integrity := by
    have moved := difference.moved unique stored sums
    rw [isIt, ofType, ofBranch] at moved
    exact integrity.moved (fun _ => rfl) model moved
  unique := by
    rw [RatingStore.setAggregate_ratings,
      map_updateRating (·._id) store document.modified.apply fun _ => rfl]
    exact unique
  identified read identified := by
    rw [identified_iff, RatingStore.setAggregate_ratings,
      map_updateRating _ store document.modified.apply fun _ => rfl,
      ← identified_iff]
    exact identified

theorem advanced_submission {found : Option RatingAggregate}
    (integrity : store.Integrity) (unique : (store.ratings.map (·._id)).Nodup)
    (undrawn : ∀ row ∈ store.ratings, row._id ≠ rating._id)
    (unremoved : rating.isRemoved = false)
    (model : store.aggregateModelFor rating.providerType rating.branchId = .ok found) :
    Advanced store
      (({ store with ratings := store.ratings ++ [rating] }
        : RatingStore).setAggregate rating.providerType rating.branchId
          ((found.getD .zero).apply rating.added)) where
  integrity := by
    refine RatingStore.Integrity.moved integrity ?_ model (moved_append unremoved store.ratings)
    exact fun _ => rfl
  unique := by
    rw [RatingStore.setAggregate_ratings, List.map_append]
    refine List.nodup_append.mpr ⟨unique, List.nodup_singleton _, ?_⟩
    intro ratingId drawn ratingId' isIt
    obtain ⟨row, stored, rfl⟩ := List.mem_map.mp drawn
    rw [List.map_singleton, List.mem_singleton] at isIt
    rw [isIt]
    exact undrawn row stored
  identified read identified := by
    obtain ⟨row, stored, its⟩ := identified
    refine ⟨row, ?_, its⟩
    rw [RatingStore.setAggregate_ratings]
    exact List.mem_append_left _ stored

/-! ## The rating in memory -/

/-- A document is of a rating, and does not decide whether it is removed. -/
structure Follows (read : Rating) (document : RatingDocument) : Prop where
  _id : document.rating._id = read._id
  providerType : document.rating.providerType = read.providerType
  branchId : document.rating.branchId = read.branchId
  undecided : document.modified.isRemoved = none

/-- A document has the scores of an input, and has not modified them. -/
structure Scored (input : RatingInput) (document : RatingDocument) : Prop where
  scores : document.rating.scores = input.scores
  overallScore : document.rating.overallScore = average input.scores
  unscored : document.modified.scores = none
  unaveraged : document.modified.overallScore = none

namespace RatingDocument

section

variable (scores : RatingScores) (overallScore : ℚ)
  (comment : Option String) (document : RatingDocument)

@[simp]
theorem assignScores_scores : (document.assignScores scores).rating.scores = scores := by
  rw [assignScores]
  split <;> first | assumption | rfl

@[simp]
theorem assignScores_overallScore :
    (document.assignScores scores).rating.overallScore =
      document.rating.overallScore := by
  rw [assignScores]
  split <;> rfl

theorem assignScores_modified : (document.assignScores scores).modified = { document.modified with
        scores :=
          if document.rating.scores = scores then document.modified.scores
          else some scores } := by
  rw [assignScores]
  split <;> rfl

@[simp]
theorem assignOverallScore_scores :
    (document.assignOverallScore overallScore).rating.scores =
      document.rating.scores := by
  rw [assignOverallScore]
  split <;> rfl

@[simp]
theorem assignOverallScore_overallScore :
    (document.assignOverallScore overallScore).rating.overallScore =
      overallScore := by
  rw [assignOverallScore]
  split <;> first | assumption | rfl

theorem assignOverallScore_modified :
    (document.assignOverallScore overallScore).modified = { document.modified with
        overallScore :=
          if document.rating.overallScore = overallScore then
            document.modified.overallScore
          else some overallScore } := by
  rw [assignOverallScore]
  split <;> rfl

@[simp]
theorem assignComment_scores :
    (document.assignComment comment).rating.scores =
      document.rating.scores := by
  rw [assignComment]
  split <;> rfl

@[simp]
theorem assignComment_overallScore :
    (document.assignComment comment).rating.overallScore =
      document.rating.overallScore := by
  rw [assignComment]
  split <;> rfl

@[simp]
theorem assignComment_comment : (document.assignComment comment).rating.comment = comment := by
  rw [assignComment]
  split <;> first | assumption | rfl

theorem assignComment_modified :
    (document.assignComment comment).modified = { document.modified with
        comment :=
          if document.rating.comment = comment then
            document.modified.comment
          else some comment } := by
  rw [assignComment]
  split <;> rfl

end

end RatingDocument

namespace RatingInput

theorem assign_follows {read : Rating} {document : RatingDocument}
    (input : RatingInput) (follows : Follows read document) :
    Follows read (input.assign document) := by
  rw [assign, RatingDocument.assignComment,
    RatingDocument.assignOverallScore, RatingDocument.assignScores]
  split <;> split <;> split <;>
    exact ⟨follows._id, follows.providerType, follows.branchId, follows.undecided⟩

theorem assign_scored {input : RatingInput} {document : RatingDocument}
    (scored : Scored input document) :
    Scored input (input.assign document) where
  scores := by simp [assign]
  overallScore := by simp [assign]
  unscored := by
    simp [assign, RatingDocument.assignComment_modified,
      RatingDocument.assignOverallScore_modified,
      RatingDocument.assignScores_modified, scored.scores, scored.unscored]
  unaveraged := by
    simp [assign, RatingDocument.assignComment_modified,
      RatingDocument.assignOverallScore_modified,
      RatingDocument.assignScores_modified, scored.overallScore, scored.unaveraged]

theorem assign_assign (input : RatingInput) (document : RatingDocument) :
    input.assign (input.assign document) = input.assign document := by
  have scores : (input.assign document).rating.scores = input.scores := by
    simp [assign]
  have overallScore : (input.assign document).rating.overallScore = average input.scores := by
    simp [assign]
  have comment : (input.assign document).rating.comment =
      input.comment := by
    simp [assign]
  generalize input.assign document = assigned at *
  rw [assign, RatingDocument.assignScores, if_pos scores,
    RatingDocument.assignOverallScore, if_pos overallScore,
    RatingDocument.assignComment, if_pos comment]

theorem score_assign {read row : Rating} (input : RatingInput)
    (scores : row.scores = read.scores)
    (overallScore : row.overallScore = read.overallScore)
    (measure : Measure) :
    ((input.assign (.read read)).modified.apply row).score measure =
      input.score measure := by
  have modified : (input.assign (.read read)).modified.scores =
      if read.scores = input.scores then none else some input.scores := by
    simp [assign, RatingDocument.assignComment_modified,
      RatingDocument.assignOverallScore_modified,
      RatingDocument.assignScores_modified, RatingDocument.read]
  have averaged : (input.assign (.read read)).modified.overallScore =
      if read.overallScore = average input.scores then none
      else some (average input.scores) := by
    simp [assign, RatingDocument.assignComment_modified,
      RatingDocument.assignOverallScore_modified,
      RatingDocument.assignScores_modified, RatingDocument.read]
  cases measure with
  | overall =>
    show ((input.assign (.read read)).modified.overallScore.getD
      row.overallScore) = average input.scores
    rw [averaged]
    split
    · next same => exact overallScore.trans same
    · rfl
  | dimension dimension =>
    show (((input.assign (.read read)).modified.scores.getD
      row.scores dimension : ℕ) : ℚ) = input.scores dimension
    rw [modified]
    split
    · next same => rw [Option.getD_none, scores, same]
    · rfl

end RatingInput

/-- A document decides whether its rating is removed, and nothing it sums. -/
structure Decided (removed : Bool) (read : Rating) (document : RatingDocument) : Prop where
  _id : document.rating._id = read._id
  providerType : document.rating.providerType = read.providerType
  branchId : document.rating.branchId = read.branchId
  score : document.rating.score = read.score
  decided : document.modified.isRemoved = some removed
  unscored : document.modified.scores = none
  unaveraged : document.modified.overallScore = none

def takenDown (reason : String) (document : RatingDocument) :
    RatingDocument :=
  (document.assignRemoved true).assignRemovalReason reason

def restored (reason : String) (document : RatingDocument) :
    RatingDocument :=
  (document.assignRemoved false).assignRestoredReason reason

theorem takenDown_takenDown (reason : String) (document : RatingDocument) :
    takenDown reason (takenDown reason document) =
      takenDown reason document := by
  have removed : (takenDown reason document).rating.isRemoved = true := by
    rw [takenDown, RatingDocument.assignRemovalReason, RatingDocument.assignRemoved]
    split <;> split <;> first | assumption | rfl
  have because : (takenDown reason document).rating.removalReason =
      some reason := by
    rw [takenDown, RatingDocument.assignRemovalReason]
    split <;> first | assumption | rfl
  generalize takenDown reason document = taken at *
  rw [takenDown, RatingDocument.assignRemoved, if_pos removed,
    RatingDocument.assignRemovalReason, if_pos because]

theorem restored_restored (reason : String) (document : RatingDocument) :
    restored reason (restored reason document) =
      restored reason document := by
  have removed : (restored reason document).rating.isRemoved = false := by
    rw [restored, RatingDocument.assignRestoredReason, RatingDocument.assignRemoved]
    split <;> split <;> first | assumption | rfl
  have because : (restored reason document).rating.restoredReason =
      some reason := by
    rw [restored, RatingDocument.assignRestoredReason]
    split <;> first | assumption | rfl
  generalize restored reason document = back at *
  rw [restored, RatingDocument.assignRemoved, if_pos removed,
    RatingDocument.assignRestoredReason, if_pos because]

theorem decided_takenDown {read : Rating} (reason : String)
    (unremoved : read.isRemoved = false) :
    Decided true read (takenDown reason (.read read)) := by
  rw [takenDown, RatingDocument.assignRemoved,
    if_neg (by simp [RatingDocument.read, unremoved]),
    RatingDocument.assignRemovalReason]
  split <;> exact ⟨rfl, rfl, rfl, by ext measure; cases measure <;> rfl, rfl, rfl, rfl⟩

theorem decided_restored {read : Rating} (reason : String)
    (removed : read.isRemoved = true) :
    Decided false read (restored reason (.read read)) := by
  rw [restored, RatingDocument.assignRemoved,
    if_neg (by simp [RatingDocument.read, removed]),
    RatingDocument.assignRestoredReason]
  split <;> exact ⟨rfl, rfl, rfl, by ext measure; cases measure <;> rfl, rfl, rfl, rfl⟩

namespace Decided

variable {removed : Bool} {read row : Rating} {document : RatingDocument}

theorem isRemoved (decided : Decided removed read document) :
    (document.modified.apply row).isRemoved = removed := by
  rw [RatingPatch.apply, decided.decided]
  rfl

theorem score_apply (decided : Decided removed read document) :
    (document.modified.apply row).score = row.score := by
  ext measure
  cases measure with
  | overall =>
    show document.modified.overallScore.getD row.overallScore = row.overallScore
    rw [decided.unaveraged]
    rfl
  | dimension dimension =>
    show ((document.modified.scores.getD row.scores dimension : ℕ) : ℚ) = row.scores dimension
    rw [decided.unscored]
    rfl

end Decided

/-! ## Careful steps -/

def Unchanged (read : Rating) (store : RatingStore) : Prop :=
  ∀ row ∈ store.ratings, row._id = read._id →
    row.scores = read.scores ∧ row.overallScore = read.overallScore

def Standing (removed : Bool) (read : Rating) (store : RatingStore) : Prop :=
  ∀ row ∈ store.ratings, row._id = read._id → row.isRemoved = removed

def Rating.company (read : Rating) (store : RatingStore) : ℤ :=
  liveCount read.providerType read.branchId store.ratings

def RatingInput.Repeats (input : RatingInput) (read : Rating) : Prop :=
  input.scores = read.scores ∧ average input.scores = read.overallScore

instance (read : Rating) (store : RatingStore) :
    Decidable (Unchanged read store) :=
  inferInstanceAs (Decidable (∀ row ∈ store.ratings,
    row._id = read._id → row.scores = read.scores ∧ row.overallScore = read.overallScore))

instance (removed : Bool) (read : Rating) (store : RatingStore) :
    Decidable (Standing removed read store) :=
  inferInstanceAs (Decidable (∀ row ∈ store.ratings, row._id = read._id → row.isRemoved = removed))

instance (input : RatingInput) (read : Rating) :
    Decidable (input.Repeats read) :=
  inferInstanceAs (Decidable (input.scores = read.scores ∧
    average input.scores = read.overallScore))

/--
The transaction of a call is run over the rating it has read, and is not run again
once it has saved it.  Edits that leave the scores alone may be run at any time, and
so may those of a removed rating whose provider has no other; and the scores of the
last rating that counts are taken down with it whatever they are.
-/
def Call.Careful (aborts : List ℕ) (store : RatingStore) : Call → Prop
  | .submit _ _ _ _ _ => True
  | .update read input =>
    input.Repeats read ∨ read.company store = 0 ∨
      (Standing false read store ∧ Unchanged read store ∧ Unsaved aborts)
  | .takedown read _ =>
    Standing false read store ∧
      (Unchanged read store ∨ read.company store = 1) ∧
      Unsaved aborts
  | .restore read _ =>
    Standing true read store ∧ Unchanged read store ∧ Unsaved aborts

instance (aborts : List ℕ) (store : RatingStore) (call : Call) :
    Decidable (call.Careful aborts store) :=
  match call with
  | .submit _ _ _ _ _ => inferInstanceAs (Decidable True)
  | .update read input =>
    inferInstanceAs (Decidable (input.Repeats read ∨
      read.company store = 0 ∨ (Standing false read store ∧ Unchanged read store ∧ Unsaved aborts)))
  | .takedown read _ =>
    inferInstanceAs (Decidable (Standing false read store ∧
      (Unchanged read store ∨ read.company store = 1) ∧ Unsaved aborts))
  | .restore read _ =>
    inferInstanceAs (Decidable (Standing true read store ∧ Unchanged read store ∧ Unsaved aborts))

def Careful (state : State) : Action → Prop
  | .proceed index aborts _ =>
    ∀ call ∈ state.calls[index]?, call.Careful aborts state.store
  | _ => True

instance (state : State) (action : Action) :
    Decidable (Careful state action) :=
  match action with
  | .proceed index aborts _ =>
    inferInstanceAs (Decidable (∀ call ∈ state.calls[index]?, call.Careful aborts state.store))
  | .submitRating _ _ _ _ _ => inferInstanceAs (Decidable True)
  | .updateRating _ _ _ _ => inferInstanceAs (Decidable True)
  | .moderateTakedown _ _ => inferInstanceAs (Decidable True)
  | .restoreRating _ _ => inferInstanceAs (Decidable True)

def Call.Grounded (store : RatingStore) : Call → Prop
  | .submit _ _ _ _ _ => True
  | .update read _ => Identified read store
  | .takedown read _ => Identified read store ∧ read.isRemoved = false
  | .restore read _ => Identified read store ∧ read.isRemoved = true

theorem Call.Checked.grounded {store : RatingStore} {call : Call}
    (checked : call.Checked store) : call.Grounded store := by
  cases call with
  | submit => trivial
  | update read input => exact ⟨read, checked, rfl, rfl, rfl⟩
  | takedown read | restore read =>
    exact ⟨⟨read, checked.1, rfl, rfl, rfl⟩, checked.2⟩

theorem Call.Grounded.advanced {store after : RatingStore} {call : Call}
    (grounded : call.Grounded store) (advanced : Advanced store after) :
    call.Grounded after := by
  cases call with
  | submit => trivial
  | update read input => exact advanced.identified read grounded
  | takedown read | restore read =>
    exact ⟨advanced.identified read grounded.1, grounded.2⟩

/-! ## What a careful transaction keeps -/

theorem score_eq {read row : Rating} (scores : row.scores = read.scores)
    (overallScore : row.overallScore = read.overallScore) :
    row.score = read.score := by
  ext measure
  cases measure with
  | overall => exact overallScore
  | dimension dimension =>
    exact congrArg (fun scores : RatingScores => (scores dimension : ℚ)) scores

section

variable {store : RatingStore} {aborts : List ℕ} {read : Rating}
  (integrity : store.Integrity)
  (unique : (store.ratings.map (·._id)).Nodup)

include integrity unique

theorem advanced_refl : Advanced store store := ⟨integrity, unique, fun _ => id⟩

variable {input : RatingInput}

theorem advanced_edit {row : Rating} {again memory : RatingDocument}
    {after : RatingStore} {value : Unit} (stored : row ∈ store.ratings)
    (isIt : row._id = read._id) (ofType : row.providerType = read.providerType)
    (ofBranch : row.branchId = read.branchId)
    (follows : Follows read (input.assign again))
    (sums : read.company store ≠ 0 → ∀ measure,
      ((input.assign again).modified.apply row).counted measure -
        row.counted measure = input.score measure - read.score measure)
    (committed : (updateInTransaction input read).commit store again = (.ok value, after, memory)) :
    Advanced store after := by
  obtain ⟨found, model, rfl⟩ := revise_committed committed
  refine advanced_revision integrity unique stored
    (isIt.trans follows._id.symm)
    (ofType.trans follows.providerType.symm)
    (ofBranch.trans follows.branchId.symm) model
    ⟨rfl, rfl, ?_⟩ ?_
  · rw [Rating.weight, RatingPatch.apply, follows.undecided]
    exact sub_self _
  · rw [ofType, ofBranch]
    intro counted
    apply sums
    simpa [RatingInput.deltas, Rating.company] using counted

/-- Scores that are written as they were read are not modified. -/
theorem advanced_repeated (identified : Identified read store)
    (repeats : input.Repeats read) (aborts : List ℕ) :
    Advanced store
      ((updateInTransaction input read).withTransaction aborts store (.read read)).2.1 := by
  rw [updateInTransaction]
  obtain ⟨row, stored, isIt, ofType, ofBranch⟩ := identified
  have start : Follows read (.read read) ∧ Scored input (.read read) :=
    ⟨⟨rfl, rfl, rfl, rfl⟩, ⟨repeats.1.symm, repeats.2.symm, rfl, rfl⟩⟩
  have known := @keeps_memory
    (fun document => Follows read document ∧ Scored input document)
    input.assign (fun _ => input.deltas read)
    (fun _ fact =>
      ⟨input.assign_follows fact.1, RatingInput.assign_scored fact.2⟩)
    (fun _ fact =>
      ⟨⟨fact.1._id, fact.1.providerType, fact.1.branchId, rfl⟩,
        ⟨fact.2.scores, fact.2.overallScore, rfl, rfl⟩⟩)
  rcases Program.withTransaction_cases
      (fun document => Follows read document ∧ Scored input document)
      (keeps_revise store _ _) known aborts start
    with same | ⟨_, after, memory, again, fact, committed, ended⟩
  · rw [same]
    exact advanced_refl integrity unique
  · rw [ended]
    have follows := input.assign_follows fact.1
    have scored := RatingInput.assign_scored fact.2
    refine advanced_edit integrity unique stored isIt ofType ofBranch follows ?_ committed
    intro _ measure
    have counted : ((input.assign again).modified.apply row).counted
        measure = row.counted measure := by
      cases measure <;>
        simp [Rating.counted, RatingPatch.apply, Rating.score,
          follows.undecided, scored.unscored, scored.unaveraged]
    have same : input.score measure = read.score measure := by
      cases measure with
      | overall => exact repeats.2
      | dimension dimension =>
        exact congrArg (fun scores : RatingScores =>
          (scores dimension : ℚ)) repeats.1
    rw [counted, same, sub_self, sub_self]

theorem advanced_uncounted (identified : Identified read store)
    (alone : read.company store = 0) (aborts : List ℕ) :
    Advanced store
      ((updateInTransaction input read).withTransaction aborts store (.read read)).2.1 := by
  rw [updateInTransaction]
  obtain ⟨row, stored, isIt, ofType, ofBranch⟩ := identified
  have known := @keeps_memory (Follows read) input.assign
    (fun _ => input.deltas read) (fun _ => input.assign_follows)
    (fun _ fact => ⟨fact._id, fact.providerType, fact.branchId, rfl⟩)
  have start : Follows read (.read read) := ⟨rfl, rfl, rfl, rfl⟩
  rcases Program.withTransaction_cases (Follows read)
      (keeps_revise store _ _) known aborts start
    with same | ⟨_, after, memory, again, fact, committed, ended⟩
  · rw [same]
    exact advanced_refl integrity unique
  · rw [ended]
    exact advanced_edit integrity unique stored isIt ofType ofBranch
      (input.assign_follows fact) (fun some => absurd alone some)
      committed

theorem advanced_overwritten (identified : Identified read store)
    (standing : Standing false read store) (unchanged : Unchanged read store)
    (unsaved : Unsaved aborts) :
    Advanced store
      ((updateInTransaction input read).withTransaction aborts store (.read read)).2.1 := by
  rw [updateInTransaction]
  obtain ⟨row, stored, isIt, ofType, ofBranch⟩ := identified
  rcases revise_unsaved input.assign_assign (fun _ => input.deltas read)
      store unsaved (.read read) with
    same | ⟨_, after, memory, again, isEdit, committed, ended⟩
  · rw [same]
    exact advanced_refl integrity unique
  · rw [ended]
    have follows : Follows read (input.assign again) :=
      isEdit ▸ input.assign_follows ⟨rfl, rfl, rfl, rfl⟩
    refine advanced_edit integrity unique stored isIt ofType ofBranch follows ?_ committed
    intro _ measure
    have scores := unchanged row stored isIt
    have unremoved := standing row stored isIt
    have after : ((input.assign again).modified.apply row).counted
        measure = input.score measure := by
      rw [Rating.counted, if_neg, isEdit, input.score_assign scores.1 scores.2]
      simp [RatingPatch.apply, follows.undecided, unremoved]
    have before : row.counted measure = read.score measure := by
      rw [Rating.counted, if_neg (by simp [unremoved])]
      exact congrFun (score_eq scores.1 scores.2) measure
    rw [after, before]

theorem advanced_takedown {reason : String}
    (identified : Identified read store)
    (unremoved : read.isRemoved = false)
    (careful : (Call.takedown read reason).Careful aborts store) :
    Advanced store
      ((takedownInTransaction reason).withTransaction aborts store (.read read)).2.1 := by
  obtain ⟨standing, company, unsaved⟩ := careful
  obtain ⟨row, stored, isIt, ofType, ofBranch⟩ := identified
  have counts := standing row stored isIt
  rcases revise_unsaved (takenDown_takenDown reason) Rating.taken store unsaved (.read read) with
    same | ⟨_, after, memory, again, isEdit, committed, ended⟩
  · show Advanced store ((revise (takenDown reason)
      Rating.taken).withTransaction aborts store (.read read)).2.1
    rw [same]
    exact advanced_refl integrity unique
  · have decided := decided_takenDown reason unremoved
    rw [← isEdit] at decided
    obtain ⟨found, model, rfl⟩ := revise_committed committed
    refine ended ▸ advanced_revision integrity unique stored
      (isIt.trans decided._id.symm)
      (ofType.trans decided.providerType.symm)
      (ofBranch.trans decided.branchId.symm) model ⟨rfl, rfl, ?_⟩ ?_
    · rw [Rating.weight, Rating.weight, decided.isRemoved, counts]
      rfl
    · intro others measure
      have scores : row.score measure = read.score measure := by
        rcases company with unchanged | last
        · rcases unchanged row stored isIt with ⟨scores, overallScore⟩
          rw [score_eq scores overallScore]
        · -- No rating is left, and the sums do not matter.
          rw [ofType, ofBranch] at others
          exact absurd (by rw [← Rating.company, last]; rfl) others
      rw [Rating.counted, Rating.counted, decided.isRemoved, counts,
        if_pos rfl, if_neg (by simp), Rating.taken, decided.score, scores, zero_sub]

theorem advanced_restore {reason : String}
    (identified : Identified read store)
    (removed : read.isRemoved = true)
    (careful : (Call.restore read reason).Careful aborts store) :
    Advanced store
      ((restoreInTransaction reason).withTransaction aborts store (.read read)).2.1 := by
  obtain ⟨standing, unchanged, unsaved⟩ := careful
  obtain ⟨row, stored, isIt, ofType, ofBranch⟩ := identified
  have uncounted := standing row stored isIt
  rcases revise_unsaved (restored_restored reason) Rating.added store unsaved (.read read) with
    same | ⟨_, after, memory, again, isEdit, committed, ended⟩
  · show Advanced store ((revise (restored reason)
      Rating.added).withTransaction aborts store (.read read)).2.1
    rw [same]
    exact advanced_refl integrity unique
  · have decided := decided_restored reason removed
    rw [← isEdit] at decided
    obtain ⟨found, model, rfl⟩ := revise_committed committed
    refine ended ▸ advanced_revision integrity unique stored
      (isIt.trans decided._id.symm)
      (ofType.trans decided.providerType.symm)
      (ofBranch.trans decided.branchId.symm) model ⟨rfl, rfl, ?_⟩ ?_
    · rw [Rating.weight, Rating.weight, decided.isRemoved, uncounted]
      rfl
    · intro _ measure
      have scores : row.score measure = read.score measure := by
        rcases unchanged row stored isIt with ⟨scores, overallScore⟩
        rw [score_eq scores overallScore]
      rw [Rating.counted, Rating.counted, decided.isRemoved, uncounted,
        if_pos rfl, if_neg (by simp), Rating.added, decided.score,
        decided.score_apply, scores, sub_zero]

theorem advanced_submit {rating : Rating}
    (undrawn : ∀ row ∈ store.ratings, row._id ≠ rating._id)
    (unremoved : rating.isRemoved = false) (aborts : List ℕ) :
    Advanced store ((submitInTransaction rating).withTransaction aborts store ()).2.1 := by
  have keeps : Program.Keeps
      (fun session : Session RatingStore Unit => session.durable = store)
      (submitInTransaction rating) := by
    refine Program.Keeps.bind (Program.Keeps.query (fun _ holds => holds)
      (fun _ _ _ holds _ => holds)) ?_
    intro _
    exact keeps_applyAggregateDelta store _ _ _
  rcases Program.withTransaction_cases (fun _ => True) keeps
      (fun _ => id) aborts trivial
    with same | ⟨_, after, memory, _, _, committed, ended⟩
  · rw [same]
    exact advanced_refl integrity unique
  · obtain ⟨found, model, rfl⟩ := submit_committed committed
    exact ended ▸ advanced_submission integrity unique undrawn unremoved model

theorem advanced_transact {call : Call} {newId : ObjectId}
    (grounded : call.Grounded store)
    (undrawn : ∀ row ∈ store.ratings, row._id ≠ newId)
    (careful : call.Careful aborts store) :
    Advanced store (transact aborts newId store call) := by
  cases call with
  | submit orderId order customerUid input now =>
    exact advanced_submit integrity unique undrawn rfl aborts
  | update read input =>
    rcases careful with repeats | alone | ⟨standing, unchanged, unsaved⟩
    · exact advanced_repeated integrity unique grounded repeats aborts
    · exact advanced_uncounted integrity unique grounded alone aborts
    · exact advanced_overwritten integrity unique grounded standing unchanged unsaved
  | takedown read reason =>
    exact advanced_takedown integrity unique grounded.1 grounded.2 careful
  | restore read reason =>
    exact advanced_restore integrity unique grounded.1 grounded.2 careful

end

/-- What every state of a careful run satisfies. -/
structure Sound (state : State) : Prop where
  integrity : state.store.Integrity
  unique : (state.store.ratings.map (·._id)).Nodup
  grounded : ∀ call ∈ state.calls, call.Grounded state.store

theorem Sound.step {state after : State} {action : Action}
    (sound : Sound state) (careful : Careful state action)
    (stepped : ratingSystem.step action state = some after) :
    Sound after := by
  rcases step_cases stepped with
    ⟨call, checked, rfl⟩ |
    ⟨index, aborts, newId, call, rfl, undrawn, waits, rfl⟩
  · refine ⟨sound.integrity, sound.unique, ?_⟩
    intro other waiting
    rcases List.mem_append.mp waiting with earlier | isIt
    · exact sound.grounded other earlier
    · rw [List.mem_singleton.mp isIt]
      exact checked.grounded
  · have advanced := advanced_transact sound.integrity sound.unique
      (sound.grounded call (List.mem_of_getElem? waits)) undrawn
      (careful call waits)
    refine ⟨advanced.integrity, advanced.unique, ?_⟩
    intro other waiting
    exact (sound.grounded other (List.mem_of_mem_eraseIdx waiting)).advanced advanced

theorem sound_of_reaches {store : RatingStore} {state : State}
    (integrity : store.Integrity)
    (unique : (store.ratings.map (·._id)).Nodup)
    (reached : ratingSystem.Reaches Careful (.start store) state) :
    Sound state := by
  refine System.Reaches.invariant Sound ?_ ?_ reached
  · refine ⟨integrity, unique, ?_⟩
    intro call waiting
    cases waiting
  · intro state action after sound careful stepped
    exact sound.step careful stepped

/--
In every run whose transactions are careful, the aggregate of every provider is
the one of its ratings that have not been removed.
-/
theorem integrity_of_reaches {store : RatingStore} {state : State}
    (integrity : store.Integrity)
    (unique : (store.ratings.map (·._id)).Nodup)
    (reached : ratingSystem.Reaches Careful (.start store) state) :
    state.store.Integrity :=
  (sound_of_reaches integrity unique reached).integrity

/-! ## A branch with one rating -/

namespace Desk

def customer : Uid := "customer-1"

def branch : ObjectId := "branch-1"

def opened : RatingStore where
  ratings := []
  washerProfiles := ∅
  branches := (∅ : Collection (Option RatingAggregate)).insert branch none

/-- A completed order of the branch. -/
def completed : OnlineOrder where
  _id := "order-1"
  customer := { uid := customer }
  provider :=
    { providerType := .merchant
      providerUid := "owner-1"
      branchId := branch
      providerName := "Laundry"
      allowsPayAtHandover := false }
  serviceLines := []
  fulfillment :=
    { pickupMode := .customerDropoff
      pickupSubMode := none
      returnMode := .customerSelfPickup
      deliverySubMode := none
      scheduledPickup := none }
  turnaround :=
    { tierCode := .standard
      feeCentavos := 0
      slaHours := none
      promisedCompletionAt := none }
  pricing := { estimatedTotalCentavos := 10000 }
  paymentSummary := {}
  paymentTiming := .onPickup
  pickupAssignment := none
  returnAssignment := none
  pickupAttempts := []
  deliveryAttempts := []
  pickupProof := none
  returnProof := none
  activeQualityHold := none
  status := .completed
  version := 0
  cancellationReason := none
  rejectionReason := none
  completedAt := some 1000
  abandonmentDeadlineAt := none
  __v := 0

def scored (score : ℕ) : RatingInput where
  scores _ := score
  comment := none

def rated : List Action :=
  [.submitRating "order-1" (some completed) customer (scored 5) 2000, .proceed 0 [1] "rating-1"]

def shown (store : RatingStore) : Option (ℤ × ℚ) :=
  (store.branches.lookup branch).join.map fun aggregate =>
    (aggregate.count, aggregate.average .overall)

theorem opened_integrity : opened.Integrity := by
  intro providerType branchId aggregate stored
  have unrated : aggregate = none := by
    cases providerType with
    | washer => cases stored
    | merchant =>
      by_cases same : branchId = branch
      · have found : opened.branches.lookup branch = some none := AList.lookup_insert _
        exact (Option.some.inj (found.symm.trans (same ▸ stored))).symm
      · have found : opened.branches.lookup branchId = none := AList.lookup_insert_ne same
        cases found.symm.trans stored
  subst unrated
  exact ⟨rfl, fun positive => absurd positive (by decide),
    fun _ _ => rfl⟩

end Desk

/-- A rating is edited, taken down and restored, and the branch is up to date. -/
theorem integrity_of_reaches_restored :
    ∃ state,
      ratingSystem.Reaches Careful (.start Desk.opened) state ∧
        Desk.shown state.store = some (1, 4) ∧ state.store.Integrity := by
  have performed :
      ((ratingSystem.restrict Careful).perform (Desk.rated ++
          [.updateRating "order-1" Desk.customer (Desk.scored 4) 3000,
            .proceed 0 [0] "rating-2",
            .moderateTakedown "rating-1" "spam",
            .proceed 0 [] "rating-2",
            .restoreRating "rating-1" "not spam",
            .proceed 0 [0, 0] "rating-2"]) (.start Desk.opened)).map
          (fun state => decide (Desk.shown state.store = some (1, 4))) =
        some true := by
    decide +kernel
  obtain ⟨state, ran, shown⟩ := Option.map_eq_some_iff.mp performed
  have reached := System.reaches_of_perform_restrict ran
  exact ⟨state, reached, of_decide_eq_true shown,
    integrity_of_reaches Desk.opened_integrity List.nodup_nil reached⟩

/--
Two moderators take a rating down at once: each has read it before the other's
transaction, and the branch is left with minus one rating.
-/
theorem not_integrity_takenDownTwice :
    Desk.opened.Integrity ∧
      ∃ state,
        ratingSystem.Reaches (fun _ _ => True) (.start Desk.opened)
            state ∧
          ¬state.store.Integrity := by
  refine ⟨Desk.opened_integrity, ?_⟩
  have performed :
      (ratingSystem.perform (Desk.rated ++
          [.moderateTakedown "rating-1" "spam",
            .moderateTakedown "rating-1" "rude",
            .proceed 0 [] "rating-2",
            .proceed 0 [] "rating-2"])
        (.start Desk.opened)).map (fun state =>
            ((state.store.branches.lookup Desk.branch).join.map (·.count))) = some (some (-1)) := by
    decide +kernel
  obtain ⟨state, ran, count⟩ := Option.map_eq_some_iff.mp performed
  refine ⟨state, System.reaches_of_perform ran, ?_⟩
  intro integrity
  obtain ⟨aggregate, stored, negative⟩ := Option.map_eq_some_iff.mp count
  have summarises := integrity .merchant Desk.branch (some aggregate)
    (Option.join_eq_some_iff.mp stored)
  have count' : aggregate.count = _ := summarises.count
  omega

end Lalaba.Ratings
