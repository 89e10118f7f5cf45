import Lalaba.Kyc.Decisions

/-!
# The reviewer of a case

A case is the documents of one provider, and it is claimed document by document: a
reviewer looks who holds which of them, and claims later.  A document alone is claimed
without a look at the others.  As long as nobody who claims finds a document of the case
in other hands by then, a case has one reviewer.
-/

namespace Lalaba.Kyc

open Foundation
open Foundation.Configuration

abbrev ProviderCase : Type := KycProviderType × ObjectId

def KycDocument.caseOf (row : KycDocument) : ProviderCase := (row.providerType, row.providerId)

def KycDocument.isHeld (providerCase : ProviderCase) (reviewerUid : Uid)
    (row : KycDocument) : Bool :=
  row.isReviewable && row.caseOf == providerCase && row.claimedByUid == some reviewerUid

namespace Store

def Holds (store : Store) (providerCase : ProviderCase)
    (reviewerUid : Uid) : Prop :=
  ∃ id row, store.documents.lookup id = some row ∧ row.isHeld providerCase reviewerUid = true

def OneReviewer (store : Store) : Prop :=
  ∀ providerCase reviewer other, store.Holds providerCase reviewer →
    store.Holds providerCase other → reviewer = other

def casesOf (ids : List ObjectId) (store : Store) : List ProviderCase :=
  ids.filterMap fun id =>
    (store.documents.lookup id).map KycDocument.caseOf

def isFree (reviewerUid : Uid) (providerCase : ProviderCase)
    (store : Store) : Bool :=
  store.documents.entries.all fun entry =>
    !(entry.2.isReviewable && entry.2.caseOf == providerCase && heldByOther reviewerUid entry.2)

def holdsBesides (ids : List ObjectId) (reviewerUid : Uid)
    (providerCase : ProviderCase) (store : Store) : Bool :=
  store.documents.entries.any fun entry =>
    !ids.elem entry.1 && entry.2.isHeld providerCase reviewerUid

end Store

/-! ## The history of a run -/

/-- A call of `claimCaseForReview` that has succeeded. -/
structure CaseClaim where
  reviewerUid : Uid
  providerCase : ProviderCase
deriving DecidableEq

/-- The claims since the last release or decision in their case. -/
structure History where
  standing : List CaseClaim := []

def History.claiming (reviewerUid : Uid) (cases : List ProviderCase)
    (history : History) : History where
  standing := cases.map (fun providerCase => { reviewerUid, providerCase }) ++ history.standing

def History.lapsing (cases : List ProviderCase) (history : History) : History where
  standing := history.standing.filter fun claim =>
    !cases.elem claim.providerCase

/-- What becomes of the claims when a call runs on. -/
def History.after (store : Store) (history : History) : Call → History
  | .findOpen reviewerUid providerType providerId =>
    let found := store.find (isOpen providerType providerId)
    -- The call succeeds when the whole case is the reviewer's already.
    if found ≠ [] ∧ found.all (fun entry =>
        entry.2.claimedByUid == some reviewerUid) then
      history.claiming reviewerUid [(providerType, providerId)]
    else history
  | .claimCase reviewerUid found =>
    history.claiming reviewerUid (store.casesOf found)
  | .save _ _ document review =>
    match review with
    | .claimDocumentForReview => history
    | _ => history.lapsing (store.casesOf [document.id])
  | .release mine => history.lapsing (store.casesOf mine)
  | _ => history

def see (configuration : Calls) (move : Move Request Tick) (_ : Calls)
    (history : History) : History :=
  match move with
  | .enter _ => history
  | .resume index _ =>
    match configuration.calls[index]? with
    | some (some call) => history.after configuration.store call
    | _ => history

/--
Whoever claims finds no document of the case in other hands by then, and a resubmission
leaves a reviewer who has claimed a case with some document of it.
-/
def Call.exclusive (store : Store) (history : History) : Call → Bool
  | .claimCase reviewerUid found =>
    (store.casesOf found).all fun providerCase =>
      store.isFree reviewerUid providerCase
  | .save reviewerUid _ document .claimDocumentForReview =>
    (store.casesOf [document.id]).all fun providerCase =>
      store.isFree reviewerUid providerCase
  | .supersede _ previous =>
    history.standing.all fun claim =>
      store.holdsBesides previous claim.reviewerUid claim.providerCase
  | _ => true

def exclusive (both : Calls × History) : Move Request Tick → Bool
  | .enter _ => true
  | .resume index _ =>
    match both.1.calls[index]? with
    | some (some call) => call.exclusive both.1.store both.2
    | _ => true

section

variable {store : Store} {id : ObjectId} {ids : List ObjectId}
  {row : KycDocument} {providerCase : ProviderCase} {reviewer other : Uid}
  {change : KycDocument → KycDocument}

theorem isHeld_iff :
    row.isHeld providerCase reviewer = true ↔
      row.isReviewable = true ∧ row.caseOf = providerCase ∧ row.claimedByUid = some reviewer := by
  simp only [KycDocument.isHeld, Bool.and_eq_true, beq_iff_eq, and_assoc]

theorem eq_of_isFree (free : store.isFree reviewer providerCase = true)
    (holds : store.Holds providerCase other) : other = reviewer := by
  rcases holds with ⟨id, row, stored, held⟩
  rcases isHeld_iff.mp held with ⟨reviewable, own, claimed⟩
  have spared := List.all_eq_true.mp free ⟨id, row⟩ (AList.mem_lookup_iff.mp stored)
  simpa [reviewable, own, claimed, heldByOther] using spared

theorem holdsBesides_iff :
    store.holdsBesides ids reviewer providerCase = true ↔
      ∃ id row, store.documents.lookup id = some row ∧ id ∉ ids ∧
        row.isHeld providerCase reviewer = true := by
  rw [Store.holdsBesides, List.any_eq_true]
  constructor
  · rintro ⟨⟨id, row⟩, member, holds⟩
    rcases Bool.and_eq_true_iff.mp holds with ⟨apart, held⟩
    exact ⟨id, row, AList.mem_lookup_iff.mpr member, by simpa using apart, held⟩
  · rintro ⟨id, row, stored, apart, held⟩
    exact ⟨⟨id, row⟩, AList.mem_lookup_iff.mp stored, by simp [apart, held]⟩

theorem mem_casesOf :
    providerCase ∈ store.casesOf ids ↔
      ∃ id ∈ ids, ∃ row, store.documents.lookup id = some row ∧ row.caseOf = providerCase := by
  simp only [Store.casesOf, List.mem_filterMap, Option.map_eq_some_iff]

theorem holds_updateMany :
    (store.updateMany ids change).Holds providerCase reviewer ↔
      ∃ id row, store.documents.lookup id = some row ∧
        (id ∉ ids ∧ row.isHeld providerCase reviewer = true ∨
          id ∈ ids ∧ (change row).isHeld providerCase reviewer = true) := by
  constructor
  · rintro ⟨id, row, stored, held⟩
    rw [lookup_updateMany] at stored
    rcases Option.map_eq_some_iff.mp stored with ⟨before, found, rfl⟩
    refine ⟨id, before, found, ?_⟩
    split at held
    · rename_i listed
      exact .inr ⟨listed, held⟩
    · rename_i apart
      exact .inl ⟨apart, held⟩
  · rintro ⟨id, row, stored, changed⟩
    refine ⟨id, if id ∈ ids then change row else row, ?_, ?_⟩
    · rw [lookup_updateMany, stored]
      rfl
    · rcases changed with ⟨apart, held⟩ | ⟨listed, held⟩
      · rw [if_neg apart]
        exact held
      · rw [if_pos listed]
        exact held

theorem Store.Holds.besides (stored : store.documents.lookup id = some row)
    (held : row.isHeld providerCase reviewer = true) (apart : id ∉ ids) :
    (store.updateMany ids change).Holds providerCase reviewer :=
  holds_updateMany.mpr ⟨id, row, stored, .inl ⟨apart, held⟩⟩

theorem holds_of_updateMany
    (drops : ∀ row reviewer, (change row).isHeld providerCase reviewer = false)
    (holds : (store.updateMany ids change).Holds providerCase reviewer) :
    store.Holds providerCase reviewer := by
  rcases holds_updateMany.mp holds with ⟨id, row, stored, ⟨_, held⟩ | ⟨_, held⟩⟩
  · exact ⟨id, row, stored, held⟩
  · cases (drops row reviewer).symm.trans held

theorem holds_insertDocument (unused : id ∉ store.documents)
    (unclaimed : row.claimedByUid = none) :
    (store.insertDocument id row).Holds providerCase reviewer ↔
      store.Holds providerCase reviewer := by
  constructor
  · rintro ⟨place, row', stored, held⟩
    by_cases same : place = id
    · subst same
      rw [lookup_insertDocument_self] at stored
      cases stored
      cases unclaimed.symm.trans (isHeld_iff.mp held).2.2
    · rw [lookup_insertDocument_of_ne same] at stored
      exact ⟨place, row', stored, held⟩
  · rintro ⟨place, row', stored, held⟩
    refine ⟨place, row', ?_, held⟩
    rw [lookup_insertDocument_of_ne, stored]
    rintro rfl
    exact unused (AList.lookup_isSome.mp (stored ▸ rfl))

end

/-! ## One step -/

def Call.Briefed : Call → Prop
  | .save _ _ document review =>
    document.values.isReviewable = true ∧
      (review = .claimDocumentForReview → document.values.claimedByUid = none)
  | _ => True

section

variable {tick : Tick} {store after : Store} {call call' : Call}

theorem reviewable_eq_ok {reviewerUid : Uid} {provider : ResolvedProvider}
    {values : KycDocument} {review review' : Review}
    (checks : reviewable reviewerUid provider values review = .ok (some review')) :
    values.isReviewable = true ∧
      (review' = .claimDocumentForReview → values.claimedByUid = none) := by
  unfold reviewable at checks
  split at checks
  · cases checks
  · split at checks
    · cases checks
    · rename_i reviewable
      refine ⟨by simpa using reviewable, ?_⟩
      split at checks
      · rename_i decides
        cases checks
        exact fun claims => (decides claims).elim
      · split at checks
        · cases checks
        · rename_i mine
          split at checks
          · cases checks
          · rename_i unheld
            intro _
            -- A document that is neither mine nor another's is nobody's.
            cases claimed : values.claimedByUid with
            | none => rfl
            | some holder =>
              have apart : holder ≠ reviewerUid := by
                rintro rfl
                exact mine claimed
              simp [heldByOther, claimed, apart] at unheld

/-- A call goes on with what it has checked. -/
theorem briefed_of_resume
    (resumes : resume tick call store = some (after, some call')) :
    call'.Briefed := by
  cases call with
  | upload provider submission =>
    simp only [resume] at resumes
    split at resumes
    · cases resumes
      trivial
    · cases resumes
  | find | supersede | recompute =>
    cases resumes
    trivial
  | create provider submission storageObjectKey previous =>
    simp only [resume] at resumes
    split at resumes
    · cases resumes
    · cases resumes
      split <;> trivial
  | load reviewerUid document review =>
    simp only [resume] at resumes
    split at resumes
    · cases resumes
    · split at resumes
      · rename_i checks
        cases resumes
        exact reviewable_eq_ok checks
      · cases resumes
  | save reviewerUid provider document review =>
    cases review with
    | claimDocumentForReview => cases resumes
    | approveDocument | rejectDocument =>
      cases resumes
      trivial
  | setProviderVerification | claimCase | release =>
    cases resumes
  | findOpen | findMine =>
    simp only [resume] at resumes
    split at resumes
    · cases resumes
    · cases resumes
      trivial

theorem briefed_of_begin {request : Request}
    (begins : begin request store = .ok call) : call.Briefed := by
  have started : ∀ {reviewer documentId review},
      startReview reviewer documentId review store = .ok call →
        call.Briefed := by
    intro reviewer documentId review starts
    rw [startReview] at starts
    split at starts
    · cases starts
    · cases starts
      trivial
  cases request with
  | submitDocument user input now =>
    simp only [begin] at begins
    split at begins
    · cases begins
    · rcases map_eq_ok.mp begins with ⟨submission, _, rfl⟩
      trivial
  | claimDocumentForReview | approveDocument => exact started begins
  | rejectDocument reviewer documentId reasonCode note =>
    simp only [begin] at begins
    split at begins
    · cases begins
    · exact started begins
  | claimCaseForReview reviewer providerType providerId =>
    simp only [begin] at begins
    split at begins
    · cases begins
    · split at begins
      · cases begins
      · cases begins
        trivial
  | releaseCase reviewer providerType providerId =>
    simp only [begin] at begins
    rcases map_eq_ok.mp begins with ⟨provider, _, rfl⟩
    trivial

theorem briefings :
    kyc.Obligations (fun _ => True) (fun _ _ => True) (fun _ => True)
      (fun _ call => call.Briefed) where
  entered := by
    intro request store call _ enters
    exact briefed_of_begin (toOption_eq_some.mp enters)
  resumed := by
    intro configuration index tick call store next _ _ _ _ _ resumes
    refine ⟨trivial, ?_⟩
    rintro call' rfl
    exact briefed_of_resume resumes
  stable := fun _ _ _ _ _ _ _ _ _ _ _ _ _ _ _ briefed _ => briefed

end

/-- A case has one reviewer, and whoever has claimed it still holds some of it. -/
structure Exclusive (store : Store) (history : History) : Prop where
  one : store.OneReviewer
  held : ∀ claim ∈ history.standing, store.Holds claim.providerCase claim.reviewerUid

section

variable {store after : Store} {history : History} {tick : Tick}
  {call : Call} {next : Option Call} {ids : List ObjectId} {id : ObjectId}
  {reviewer other : Uid} {providerCase : ProviderCase}
  {row values : KycDocument} {change : KycDocument → KycDocument}

theorem Store.OneReviewer.fewer (one : store.OneReviewer)
    (fewer : ∀ providerCase reviewer, after.Holds providerCase reviewer →
      store.Holds providerCase reviewer) : after.OneReviewer :=
  fun providerCase reviewer other holds holds' =>
    one providerCase reviewer other (fewer _ _ holds) (fewer _ _ holds')

theorem mem_lapsing {claim : CaseClaim} {cases : List ProviderCase}
    (member : claim ∈ (history.lapsing cases).standing) :
    claim ∈ history.standing ∧ claim.providerCase ∉ cases := by
  rcases List.mem_filter.mp member with ⟨stood, apart⟩
  exact ⟨stood, by simpa using apart⟩

theorem Exclusive.lapse (exclusive : Exclusive store history)
    (drops : ∀ row providerCase reviewer, (change row).isHeld providerCase reviewer = false) :
    Exclusive (store.updateMany ids change) (history.lapsing (store.casesOf ids)) where
  one := exclusive.one.fewer fun providerCase _ =>
    holds_of_updateMany fun row reviewer => drops row providerCase reviewer
  held := by
    intro claim member
    rcases mem_lapsing member with ⟨stood, apart⟩
    rcases exclusive.held claim stood with ⟨id, row, stored, held⟩
    apply Store.Holds.besides stored held
    intro listed
    exact apart (mem_casesOf.mpr ⟨id, listed, row, stored, (isHeld_iff.mp held).2.1⟩)

theorem Exclusive.take (exclusive : Exclusive store history)
    (free : ∀ providerCase ∈ store.casesOf ids, store.isFree reviewer providerCase = true)
    (takes : ∀ row providerCase other, (change row).isHeld providerCase other = true →
        other = reviewer ∧ row.caseOf = providerCase)
    (keeps : ∀ row providerCase, row.isHeld providerCase reviewer = true →
        (change row).isHeld providerCase reviewer = true) :
    Exclusive (store.updateMany ids change) history := by
  have holder : ∀ providerCase other,
      (store.updateMany ids change).Holds providerCase other →
        store.Holds providerCase other ∨ other = reviewer ∧ providerCase ∈ store.casesOf ids := by
    intro providerCase other holds
    rcases holds_updateMany.mp holds with ⟨id, row, stored, ⟨_, held⟩ | ⟨listed, held⟩⟩
    · exact .inl ⟨id, row, stored, held⟩
    · rcases takes row providerCase other held with ⟨same, own⟩
      exact .inr ⟨same, mem_casesOf.mpr ⟨id, listed, row, stored, own⟩⟩
  constructor
  · intro providerCase first second holds holds'
    rcases holder _ _ holds with old | ⟨rfl, within⟩
    · rcases holder _ _ holds' with old' | ⟨rfl, within⟩
      · exact exclusive.one _ _ _ old old'
      · exact eq_of_isFree (free _ within) old
    · rcases holder _ _ holds' with old' | ⟨rfl, _⟩
      · exact (eq_of_isFree (free _ within) old').symm
      · rfl
  · intro claim stood
    have holds := exclusive.held claim stood
    rcases holds with ⟨id, row, stored, held⟩
    by_cases listed : id ∈ ids
    · have within : claim.providerCase ∈ store.casesOf ids :=
        mem_casesOf.mpr ⟨id, listed, row, stored, (isHeld_iff.mp held).2.1⟩
      have own := eq_of_isFree (free _ within) ⟨id, row, stored, held⟩
      apply holds_updateMany.mpr ⟨id, row, stored, .inr ⟨listed, ?_⟩⟩
      rw [own] at held ⊢
      exact keeps row _ held
    · exact Store.Holds.besides stored held listed

variable {now : Instant}

theorem isHeld_claimed :
    (row.claimed reviewer now).isHeld providerCase other = true ↔
      other = reviewer ∧ row.caseOf = providerCase := by
  rw [isHeld_iff]
  constructor
  · rintro ⟨_, own, claimed⟩
    cases claimed
    exact ⟨rfl, own⟩
  · rintro ⟨rfl, own⟩
    exact ⟨rfl, own, rfl⟩

theorem isHeld_saved_claimed (unclaimed : values.claimedByUid = none)
    (held : (KycDocument.saved values (values.claimed reviewer now)
      row).isHeld providerCase other = true) :
    other = reviewer ∧ row.caseOf = providerCase := by
  rcases isHeld_iff.mp held with ⟨_, own, claimed⟩
  have saved : (KycDocument.saved values (values.claimed reviewer now)
      row).claimedByUid = some reviewer := by
    rw [KycDocument.saved, KycDocument.claimed, unclaimed]
    rfl
  cases saved.symm.trans claimed
  exact ⟨rfl, own⟩

theorem isReviewable_saved_claimed (reviewable : row.isReviewable = true) :
    (KycDocument.saved values (values.claimed reviewer now) row).isReviewable = true := by
  apply isReviewable_iff.mpr
  rw [KycDocument.saved, KycDocument.claimed, modified]
  dsimp only
  split
  · exact isReviewable_iff.mp reviewable
  · exact .inr rfl

theorem isHeld_saved_decided {review : Review}
    (reviewable : values.isReviewable = true)
    (decides : review ≠ .claimDocumentForReview) :
    (KycDocument.saved values (review.assigned reviewer now values)
      row).isHeld providerCase other = false := by
  have decided : (KycDocument.saved values
      (review.assigned reviewer now values) row).isReviewable = false := by
    have written : ∀ status : KycDocumentStatus,
        status ∉ REVIEWABLE_STATUSES → modified values.status status row.status = status := by
      intro status final
      rw [modified, if_neg]
      rintro rfl
      exact final (of_decide_eq_true reviewable)
    cases review with
    | claimDocumentForReview => exact (decides rfl).elim
    | approveDocument =>
      rw [KycDocument.isReviewable, KycDocument.saved, Review.assigned, KycDocument.approved]
      dsimp only
      rw [written .APPROVED (by decide)]
      rfl
    | rejectDocument _ _ _ =>
      rw [KycDocument.isReviewable, KycDocument.saved, Review.assigned, KycDocument.rejected]
      dsimp only
      rw [written .REJECTED (by decide)]
      rfl
  rw [KycDocument.isHeld, decided, Bool.false_and, Bool.false_and]

theorem Exclusive.save {document : Document} {review : Review}
    {provider : ResolvedProvider} (exclusive : Exclusive store history)
    (briefed : (Call.save reviewer provider document review).Briefed)
    (allowed : (Call.save reviewer provider document review).exclusive store history = true) :
    Exclusive
      (store.updateMany [document.id] (KycDocument.saved document.values
        (review.assigned reviewer now document.values)))
      (history.after store (.save reviewer provider document review)) := by
  rcases briefed with ⟨reviewable, unclaimed⟩
  cases review with
  | claimDocumentForReview =>
    apply exclusive.take (List.all_eq_true.mp allowed)
    · exact fun row _ _ => isHeld_saved_claimed (unclaimed rfl)
    · intro row providerCase held
      rcases isHeld_iff.mp held with ⟨reviewable', own, _⟩
      refine isHeld_iff.mpr ⟨isReviewable_saved_claimed reviewable', own, ?_⟩
      rw [KycDocument.saved, Review.assigned, KycDocument.claimed, unclaimed rfl]
      rfl
  | approveDocument | rejectDocument =>
    apply exclusive.lapse
    exact fun _ _ _ => isHeld_saved_decided reviewable (fun same => by
      cases same)

theorem Exclusive.findOpen {providerType : KycProviderType}
    {providerId : ObjectId} (exclusive : Exclusive store history) :
    Exclusive store (history.after store (.findOpen reviewer providerType providerId)) := by
  rw [History.after]
  split
  · rename_i mine
    refine ⟨exclusive.one, ?_⟩
    intro claim member
    rcases List.mem_append.mp member with new | old
    · cases List.mem_singleton.mp new
      rcases List.exists_mem_of_ne_nil _ mine.1 with ⟨⟨id, row⟩, found⟩
      have claimed := List.all_eq_true.mp mine.2 ⟨id, row⟩ found
      rcases List.mem_filter.mp found with ⟨stored, isOpen⟩
      rw [Kyc.isOpen] at isOpen
      simp only [Bool.and_eq_true, beq_iff_eq] at isOpen claimed
      rcases isOpen with ⟨⟨provider, type⟩, reviewable⟩
      refine ⟨id, row, AList.mem_lookup_iff.mpr stored, isHeld_iff.mpr ⟨reviewable, ?_, claimed⟩⟩
      rw [KycDocument.caseOf, provider, type]
    · exact exclusive.held claim old
  · exact exclusive

theorem Resumed.exclusive (resumed : Resumed tick store call after next)
    (briefed : call.Briefed)
    (allowed : call.exclusive store history = true)
    (exclusive : Exclusive store history) :
    Exclusive after (history.after store call) := by
  cases resumed with
  | created provider submission storageObjectKey previous unused =>
    have same : ∀ providerCase reviewer, (store.insertDocument tick.drawn
        (submission.document provider storageObjectKey tick.now
          previous)).Holds providerCase reviewer ↔
        store.Holds providerCase reviewer :=
      fun _ _ => holds_insertDocument unused rfl
    exact
      ⟨exclusive.one.fewer fun _ _ => (same _ _).mp,
        fun claim stood => (same _ _).mpr (exclusive.held claim stood)⟩
  | superseded provider previous =>
    constructor
    · apply exclusive.one.fewer
      exact fun _ _ => holds_of_updateMany fun _ _ => rfl
    · intro claim stood
      have besides := List.all_eq_true.mp allowed claim stood
      rcases holdsBesides_iff.mp besides with ⟨id, row, stored, apart, held⟩
      exact Store.Holds.besides stored held apart
  | claimed | decided =>
    exact exclusive.save briefed allowed
  | openNone | openFound => exact exclusive.findOpen
  | caseClaimed reviewerUid found =>
    have taken : Exclusive (store.updateMany found
        (KycDocument.claimed reviewerUid tick.now)) history := by
      apply exclusive.take (List.all_eq_true.mp allowed)
      · exact fun _ _ _ => isHeld_claimed.mp
      · intro row providerCase held
        exact isHeld_claimed.mpr ⟨rfl, (isHeld_iff.mp held).2.1⟩
    refine ⟨taken.one, ?_⟩
    intro claim member
    rcases List.mem_append.mp member with new | old
    · rcases List.mem_map.mp new with ⟨providerCase, within, rfl⟩
      rcases mem_casesOf.mp within with ⟨id, listed, row, stored, own⟩
      exact holds_updateMany.mpr ⟨id, row, stored, .inr ⟨listed, isHeld_claimed.mpr ⟨rfl, own⟩⟩⟩
    · exact taken.held claim old
  | released mine =>
    apply exclusive.lapse
    intro row providerCase reviewer
    rw [KycDocument.isHeld, KycDocument.released]
    exact Bool.and_false _
  | unanswered | uploaded | found | refused | loaded | recomputed
  | mineNone | mineFound => exact exclusive
  | verified _ _ _ _ => exact ⟨exclusive.one, exclusive.held⟩

end

section

variable {both both' : Calls × History} {move : Move Request Tick}

theorem exclusive_step
    (briefed : Service.Invariant (fun _ => True) (fun _ call => call.Briefed) both.1)
    (invariant : Exclusive both.1.store both.2)
    (allowed : exclusive both move = true)
    (stepped : (kyc.system.observed see).step move both = some both') :
    Exclusive both'.1.store both'.2 := by
  rcases both' with ⟨after, history⟩
  rcases System.observed_step stepped with ⟨ran, seen⟩
  dsimp only at ran seen
  subst seen
  cases Service.stepped_of_step ran with
  | entered request call enters => exact invariant
  | resumed index tick call store next waits resumes =>
    rw [exclusive, waits] at allowed
    rw [see, waits]
    exact (resumed_of_resume resumes).exclusive (briefed.sound index call waits) allowed invariant

/--
In a run in which whoever claims finds no document of the case in other hands by then,
and in which a resubmission leaves a reviewer who has claimed a case with some document
of it, all documents of a provider that are claimed and still to be decided are claimed
by one reviewer; and without a release or a decision in between, no two reviewers claim
a case with success.
-/
theorem oneReviewerPerCase {start : Store} (single : start.OneReviewer)
    (reached : (kyc.system.observed see).Reaches
      (fun both move => exclusive both move = true)
      (.start start, {}) both) :
    (∀ id other row row' reviewer reviewer',
      both.1.store.documents.lookup id = some row →
      both.1.store.documents.lookup other = some row' →
      row.providerType = row'.providerType → row.providerId = row'.providerId →
      row.isReviewable = true → row'.isReviewable = true →
      row.claimedByUid = some reviewer →
      row'.claimedByUid = some reviewer' → reviewer = reviewer') ∧
    ∀ claim ∈ both.2.standing, ∀ claim' ∈ both.2.standing,
      claim.providerCase = claim'.providerCase → claim.reviewerUid = claim'.reviewerUid := by
  have invariant : Service.Invariant (fun _ => True)
      (fun _ call => call.Briefed) both.1 ∧ Exclusive both.1.store both.2 := by
    refine reached.invariant
      (fun both => Service.Invariant (fun _ => True)
        (fun _ call => call.Briefed) both.1 ∧ Exclusive both.1.store both.2) ?_ ?_
    · exact ⟨Service.invariant_start trivial, single, fun _ absent => by
        cases absent⟩
    · intro _ _ _ ⟨briefed, invariant⟩ allowed stepped
      exact
        ⟨briefings.step trivial briefed trivial (System.observed_step stepped).1,
          exclusive_step briefed invariant allowed stepped⟩
  rcases invariant with ⟨_, one, held⟩
  constructor
  · intro id other row row' reviewer reviewer' stored stored' type provider
      reviewable reviewable' claimed claimed'
    apply one row.caseOf reviewer reviewer'
    · exact ⟨id, row, stored, isHeld_iff.mpr ⟨reviewable, rfl, claimed⟩⟩
    · refine ⟨other, row', stored', isHeld_iff.mpr ⟨reviewable', ?_, claimed'⟩⟩
      rw [KycDocument.caseOf, KycDocument.caseOf, type, provider]
  · intro claim stood claim' stood' same
    have holds := held claim' stood'
    rw [← same] at holds
    exact one _ _ _ (held claim stood) holds

end

/-! ## Sample runs -/

namespace Sample

def claimsCase (reviewer : Uid) : Move Request Tick :=
  .enter (.claimCaseForReview reviewer .WASHER "profile")

def submitsSelfie : Move Request Tick :=
  .enter
    (.submitDocument "washer"
      { providerType := .WASHER
        providerId := none
        documentType := .SELFIE
        base64 := "AAAA"
        mimeType := "image/jpeg" }
      1)

def submission : List (Move Request Tick) :=
  [submits, goesOn 0 2, goesOn 0 3, inserts 0 4 "first", goesOn 0 5, goesOn 0 6]

def handover : List (Move Request Tick) :=
  [claimsCase "ana", goesOn 1 7, goesOn 1 8, claimsCase "bea", goesOn 2 9,
    .enter (.releaseCase "ana" .WASHER "profile"), goesOn 3 10,
    goesOn 3 11, claimsCase "bea", goesOn 4 12, goesOn 4 13]

def growing : List (Move Request Tick) :=
  [claimsCase "ana", goesOn 1 7, submitsSelfie, goesOn 2 8, goesOn 2 9,
    inserts 2 10 "second", goesOn 2 11, goesOn 2 12, claimsCase "bea",
    goesOn 3 13, goesOn 3 14, goesOn 1 15]

def holds (reviewer : Uid) (id : ObjectId) (configuration : Calls) : Bool :=
  (configuration.store.documents.lookup id).any (KycDocument.isHeld (.WASHER, "profile") reviewer)

end Sample

theorem Sample.oneReviewer : Sample.store.OneReviewer := by
  rintro providerCase reviewer other ⟨id, row, stored, _⟩
  cases stored

/-- The case is the second reviewer's when the first one has handed it back. -/
theorem oneReviewerPerCase_handover :
    ∃ both : Calls × History,
      (kyc.system.observed see).Reaches
          (fun both move => exclusive both move = true)
          (.start Sample.store, {}) both ∧
        both.2.standing = [{ reviewerUid := "bea", providerCase := (.WASHER, "profile") }] ∧
        Sample.holds "bea" "first" both.1 = true ∧
        ∀ claim ∈ both.2.standing, ∀ claim' ∈ both.2.standing,
          claim.providerCase = claim'.providerCase → claim.reviewerUid = claim'.reviewerUid := by
  have performed :
      (((kyc.system.observed see).restrict
          (fun both move => exclusive both move = true)).perform
        (Sample.submission ++ Sample.handover)
        (.start Sample.store, {})).map
          (fun both => (both.2.standing, Sample.holds "bea" "first" both.1)) =
        some ([{ reviewerUid := "bea", providerCase := (.WASHER, "profile") }], true) := by
    decide +kernel
  rcases System.reaches_of_map_restrict performed with ⟨both, reached, seen⟩
  rcases Prod.mk.inj seen with ⟨standing, holds⟩
  exact ⟨both, reached, standing, holds, (oneReviewerPerCase Sample.oneReviewer reached).2⟩

/-- Both reviewers claim the case, and each holds a half of it. -/
theorem twoReviewersHoldACase :
    ¬ ∀ (start : Store) (both : Calls × History), start.OneReviewer →
      (kyc.system.observed see).Reaches (fun _ _ => True)
          (.start start, {}) both →
        (both.1.Quiet → ∀ id other row row' reviewer reviewer',
          both.1.store.documents.lookup id = some row →
          both.1.store.documents.lookup other = some row' →
          row.providerType = row'.providerType → row.providerId = row'.providerId →
          row.isReviewable = true → row'.isReviewable = true →
          row.claimedByUid = some reviewer →
          row'.claimedByUid = some reviewer' → reviewer = reviewer') ∧
        ∀ claim ∈ both.2.standing, ∀ claim' ∈ both.2.standing,
          claim.providerCase = claim'.providerCase → claim.reviewerUid = claim'.reviewerUid := by
  intro always
  have performed :
      ((kyc.system.observed see).perform (Sample.submission ++ Sample.growing)
        (.start Sample.store, {})).map
          (fun both => (Sample.holds "ana" "first" both.1,
            Sample.holds "bea" "second" both.1,
            both.1.someCall fun _ => true)) =
        some (true, true, false) := by
    decide +kernel
  rcases System.reaches_of_map performed with ⟨both, ran, seen⟩
  rcases Prod.mk.inj seen with ⟨first, rest⟩
  rcases Prod.mk.inj rest with ⟨second, returned⟩
  have one := (always Sample.store both Sample.oneReviewer ran).1 (quiet_iff.mpr returned)
  rcases Option.any_eq_true _ _ |>.mp first with ⟨row, stored, held⟩
  rcases Option.any_eq_true _ _ |>.mp second with ⟨row', stored', held'⟩
  rcases isHeld_iff.mp held with ⟨reviewable, own, claimed⟩
  rcases isHeld_iff.mp held' with ⟨reviewable', own', claimed'⟩
  have same := own.trans own'.symm
  have equal := one "first" "second" row row' "ana" "bea" stored stored'
    (congrArg Prod.fst same) (congrArg Prod.snd same) reviewable
    reviewable' claimed claimed'
  exact absurd equal (by decide)

end Lalaba.Kyc
