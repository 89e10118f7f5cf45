import Lalaba.Kyc.Service

/-!
# Decisions of reviewers

A document that was approved or rejected is meant to change no more until another
replaces it, and a submission is meant to leave one live document of its type.  Both
rest on what a call has read some steps before it writes.
-/

namespace Lalaba.Kyc

open Foundation
open Foundation.Configuration
open Foundation.Snapshot (mapRows lookup_mapRows)

abbrev Calls : Type := Configuration Store Call

def KycDocumentStatus.MayBecome :
    KycDocumentStatus → KycDocumentStatus → Prop
  | .APPROVED, later => later = .APPROVED ∨ later = .SUPERSEDED
  | .REJECTED, later => later = .REJECTED ∨ later = .SUPERSEDED
  | .SUPERSEDED, later => later = .SUPERSEDED
  | .SUBMITTED, _ => True
  | .UNDER_REVIEW, _ => True

namespace Store

def Single (store : Store) : Prop :=
  ∀ providerId documentType id other row row',
    store.documents.lookup id = some row →
    store.documents.lookup other = some row' →
    row.isLiveOf providerId documentType = true →
    row'.isLiveOf providerId documentType = true → id = other

def Keeps (store after : Store) : Prop :=
  ∀ id row, store.documents.lookup id = some row →
    ∃ row', after.documents.lookup id = some row' ∧ row.status.MayBecome row'.status

end Store

section

variable {status middle later : KycDocumentStatus}

theorem KycDocumentStatus.MayBecome.refl : status.MayBecome status := by
  cases status with
  | SUBMITTED | UNDER_REVIEW => trivial
  | APPROVED | REJECTED => exact .inl rfl
  | SUPERSEDED => rfl

theorem KycDocumentStatus.MayBecome.superseded : status.MayBecome .SUPERSEDED := by
  cases status with
  | SUBMITTED | UNDER_REVIEW => trivial
  | APPROVED | REJECTED => exact .inr rfl
  | SUPERSEDED => rfl

theorem KycDocumentStatus.MayBecome.trans (first : status.MayBecome middle)
    (second : middle.MayBecome later) : status.MayBecome later := by
  cases status with
  | SUBMITTED | UNDER_REVIEW => trivial
  | APPROVED | REJECTED =>
    rcases first with rfl | rfl
    · exact second
    · exact .inr second
  | SUPERSEDED =>
    cases first
    exact second

variable {row : KycDocument}

theorem isReviewable_iff :
    row.isReviewable = true ↔ row.status = .SUBMITTED ∨ row.status = .UNDER_REVIEW := by
  simp [KycDocument.isReviewable, REVIEWABLE_STATUSES]

theorem mayBecome_of_isReviewable (reviewable : row.isReviewable = true) :
    row.status.MayBecome later := by
  rcases isReviewable_iff.mp reviewable with submitted | claimed
  · rw [submitted]
    trivial
  · rw [claimed]
    trivial

theorem isLiveOf_iff {providerId : ObjectId} {documentType : KycDocumentType} :
    row.isLiveOf providerId documentType = true ↔
      row.providerId = providerId ∧ row.documentType = documentType ∧ row.status ≠ .SUPERSEDED := by
  simp only [KycDocument.isLiveOf, KycDocument.isLive, Bool.and_eq_true, beq_iff_eq, bne_iff_ne]
  constructor
  · exact fun ⟨⟨provider, live⟩, type⟩ => ⟨provider, type, live⟩
  · exact fun ⟨provider, type, live⟩ => ⟨⟨provider, live⟩, type⟩

end

/-- What a call can do next. -/
inductive Resumed (tick : Tick) (store : Store) : Call → Store → Option Call → Prop where
  | unanswered (provider : ResolvedProvider) (submission : Submission) :
      Resumed tick store (.upload provider submission) store none
  | uploaded (provider : ResolvedProvider) (submission : Submission)
      (storageObjectKey : String) :
      Resumed tick store (.upload provider submission) store
        (some (.find provider submission storageObjectKey))
  | found (provider : ResolvedProvider) (submission : Submission)
      (storageObjectKey : String) :
      Resumed tick store (.find provider submission storageObjectKey) store
        (some (.create provider submission storageObjectKey
          (store.previous provider.providerId submission.documentType)))
  | created (provider : ResolvedProvider) (submission : Submission)
      (storageObjectKey : String) (previous : List ObjectId)
      (unused : tick.drawn ∉ store.documents) :
      Resumed tick store
        (.create provider submission storageObjectKey previous)
        (store.insertDocument tick.drawn
          (submission.document provider storageObjectKey tick.now previous))
        (some
          (if previous = [] then .recompute provider none
          else .supersede provider previous))
  | superseded (provider : ResolvedProvider) (previous : List ObjectId) :
      Resumed tick store (.supersede provider previous)
        (store.updateMany previous KycDocument.superseded)
        (some (.recompute provider none))
  | refused (reviewerUid : Uid) (document : Document) (review : Review) :
      Resumed tick store (.load reviewerUid document review) store none
  | loaded (reviewerUid : Uid) (document : Document)
      (review review' : Review) (provider : ResolvedProvider)
      (loads : loadProvider document.values.providerType
        document.values.providerId store = .ok provider) :
      Resumed tick store (.load reviewerUid document review) store
        (some (.save reviewerUid provider document review'))
  | claimed (reviewerUid : Uid) (provider : ResolvedProvider)
      (document : Document) :
      Resumed tick store
        (.save reviewerUid provider document .claimDocumentForReview)
        (store.updateMany [document.id] (KycDocument.saved document.values
          (Review.claimDocumentForReview.assigned reviewerUid tick.now document.values)))
        none
  | decided (reviewerUid : Uid) (provider : ResolvedProvider)
      (document : Document) (review : Review) (grantor : Option Uid) :
      Resumed tick store (.save reviewerUid provider document review)
        (store.updateMany [document.id] (KycDocument.saved document.values
          (review.assigned reviewerUid tick.now document.values)))
        (some (.recompute provider grantor))
  | recomputed (provider : ResolvedProvider) (reviewerUid : Option Uid) :
      Resumed tick store (.recompute provider reviewerUid) store
        (some (.setProviderVerification provider reviewerUid tick.now
          (store.live provider.providerId)))
  | verified (provider : ResolvedProvider) (reviewerUid : Option Uid)
      (readAt : Instant) (live : List KycDocument) :
      Resumed tick store
        (.setProviderVerification provider reviewerUid readAt live)
        (store.updateProvider provider.providerId
          (Provider.verified (verdict readAt provider.providerType live) reviewerUid readAt))
        none
  | openNone (reviewerUid : Uid) (providerType : KycProviderType)
      (providerId : ObjectId) :
      Resumed tick store (.findOpen reviewerUid providerType providerId) store none
  | openFound (reviewerUid : Uid) (providerType : KycProviderType)
      (providerId : ObjectId) :
      Resumed tick store (.findOpen reviewerUid providerType providerId)
        store
        (some (.claimCase reviewerUid
          ((store.find (isOpen providerType providerId)).map Sigma.fst)))
  | caseClaimed (reviewerUid : Uid) (found : List ObjectId) :
      Resumed tick store (.claimCase reviewerUid found)
        (store.updateMany found (KycDocument.claimed reviewerUid tick.now))
        none
  | mineNone (reviewerUid : Uid) (providerType : KycProviderType)
      (providerId : ObjectId) :
      Resumed tick store (.findMine reviewerUid providerType providerId) store none
  | mineFound (reviewerUid : Uid) (providerType : KycProviderType)
      (providerId : ObjectId) :
      Resumed tick store (.findMine reviewerUid providerType providerId)
        store
        (some (.release ((store.find (isMine providerType providerId reviewerUid)).map Sigma.fst)))
  | released (mine : List ObjectId) :
      Resumed tick store (.release mine) (store.updateMany mine KycDocument.released) none

theorem resumed_of_resume {tick : Tick} {call : Call} {store after : Store}
    {next : Option Call} (resumes : resume tick call store = some (after, next)) :
    Resumed tick store call after next := by
  cases call with
  | upload provider submission =>
    simp only [resume] at resumes
    split at resumes
    · cases resumes
      exact .uploaded provider submission _
    · cases resumes
      exact .unanswered provider submission
  | find provider submission storageObjectKey =>
    cases resumes
    exact .found provider submission storageObjectKey
  | create provider submission storageObjectKey previous =>
    simp only [resume] at resumes
    split at resumes
    · cases resumes
    · rename_i unused
      cases resumes
      exact .created provider submission storageObjectKey previous unused
  | supersede provider previous =>
    cases resumes
    exact .superseded provider previous
  | load reviewerUid document review =>
    simp only [resume] at resumes
    split at resumes
    · cases resumes
      exact .refused reviewerUid document review
    · rename_i provider loads
      split at resumes
      · rename_i review' _
        cases resumes
        exact .loaded reviewerUid document review review' provider loads
      · cases resumes
        exact .refused reviewerUid document review
  | save reviewerUid provider document review =>
    cases review with
    | claimDocumentForReview =>
      cases resumes
      exact .claimed reviewerUid provider document
    | approveDocument =>
      cases resumes
      exact .decided reviewerUid provider document .approveDocument _
    | rejectDocument reasonCode note reason =>
      cases resumes
      exact .decided reviewerUid provider document (.rejectDocument reasonCode note reason) _
  | recompute provider reviewerUid =>
    cases resumes
    exact .recomputed provider reviewerUid
  | setProviderVerification provider reviewerUid readAt live =>
    cases resumes
    exact .verified provider reviewerUid readAt live
  | findOpen reviewerUid providerType providerId =>
    simp only [resume] at resumes
    split at resumes
    · cases resumes
      exact .openNone reviewerUid providerType providerId
    · cases resumes
      exact .openFound reviewerUid providerType providerId
  | claimCase reviewerUid found =>
    cases resumes
    exact .caseClaimed reviewerUid found
  | findMine reviewerUid providerType providerId =>
    simp only [resume] at resumes
    split at resumes
    · cases resumes
      exact .mineNone reviewerUid providerType providerId
    · cases resumes
      exact .mineFound reviewerUid providerType providerId
  | release mine =>
    cases resumes
    exact .released mine

/-- What no write changes of a document. -/
structure KycDocument.SameEvidence (row row' : KycDocument) : Prop where
  providerId : row'.providerId = row.providerId
  documentType : row'.documentType = row.documentType
  expiresAt : row'.expiresAt = row.expiresAt

section

variable {store : Store} {ids : List ObjectId} {id : ObjectId}
  {row row' read assigned : KycDocument}
  {change : KycDocument → KycDocument}

theorem lookup_updateMany :
    (store.updateMany ids change).documents.lookup id = (store.documents.lookup id).map fun row =>
        if id ∈ ids then change row else row :=
  lookup_mapRows

theorem lookup_insertDocument_self :
    (store.insertDocument id row).documents.lookup id = some row :=
  AList.lookup_insert _

theorem lookup_insertDocument_of_ne {other : ObjectId} (apart : other ≠ id) :
    (store.insertDocument id row).documents.lookup other =
      store.documents.lookup other :=
  AList.lookup_insert_ne apart

theorem KycDocument.SameEvidence.refl : row.SameEvidence row := ⟨rfl, rfl, rfl⟩

theorem sameEvidence_saved : row.SameEvidence
    (KycDocument.saved read assigned row) :=
  ⟨rfl, rfl, rfl⟩

theorem sameEvidence_update
    (keeps : row.SameEvidence (change row)) :
    row.SameEvidence (if id ∈ ids then change row else row) := by
  split
  · exact keeps
  · exact .refl

end

/-! ## Overlaps -/

def Review.status : Review → KycDocumentStatus
  | .claimDocumentForReview => .UNDER_REVIEW
  | .approveDocument => .APPROVED
  | .rejectDocument _ _ _ => .REJECTED

@[simp]
theorem Review.assigned_status {review : Review} {reviewerUid : Uid}
    {now : Instant} {values : KycDocument} :
    (review.assigned reviewerUid now values).status = review.status := by
  cases review <;> rfl

def Call.retires (id : ObjectId) : Call → Bool
  | .supersede _ previous => id ∈ previous
  | _ => false

def doomed (id : ObjectId) (configuration : Calls) : Bool :=
  configuration.someCall (Call.retires id)

/--
A call that has nothing of another to write over: what a reviewer writes to can still
be reviewed, or has already the status it is given, and the documents of the type that
are live when a submission is inserted were found by it or are about to be retired.
-/
def Call.undisturbed (configuration : Calls) : Call → Bool
  | .create provider submission _ previous =>
    configuration.store.documents.entries.all fun entry =>
      !entry.2.isLiveOf provider.providerId submission.documentType ||
        decide (entry.1 ∈ previous) || doomed entry.1 configuration
  | .save _ _ document review =>
    review.status == document.values.status ||
      (configuration.store.documents.lookup document.id).all fun row =>
        row.isReviewable || row.status == review.status
  | .claimCase _ found => found.all fun id =>
    (configuration.store.documents.lookup id).all KycDocument.isReviewable
  | .release mine => mine.all fun id =>
    (configuration.store.documents.lookup id).all KycDocument.isReviewable
  | _ => true

def undisturbed (configuration : Calls) : Move Request Tick → Bool
  | .enter _ => true
  | .resume index _ =>
    match configuration.calls[index]? with
    | some (some call) => call.undisturbed configuration
    | _ => true

/-- What becomes of a document in a step. -/
structure KycDocument.Becomes (row row' : KycDocument) : Prop where
  evidence : row.SameEvidence row'
  status : row.status.MayBecome row'.status

section

variable {configuration : Calls} {tick : Tick} {call : Call}
  {store after : Store} {next : Option Call} {ids : List ObjectId}
  {id : ObjectId} {row row' : KycDocument}
  {change : KycDocument → KycDocument}

theorem KycDocument.Becomes.refl : row.Becomes row := ⟨.refl, .refl⟩

theorem KycDocument.Becomes.live {providerId : ObjectId}
    {documentType : KycDocumentType} (becomes : row.Becomes row')
    (live : row'.isLiveOf providerId documentType = true) :
    row.isLiveOf providerId documentType = true := by
  rcases isLiveOf_iff.mp live with ⟨provider, type, status⟩
  refine isLiveOf_iff.mpr
    ⟨becomes.evidence.providerId ▸ provider, becomes.evidence.documentType ▸ type, ?_⟩
  intro superseded
  have final := becomes.status
  rw [superseded] at final
  exact status final

theorem becomes_updateMany
    (changes : id ∈ ids → store.documents.lookup id = some row → row.Becomes (change row))
    (stored : store.documents.lookup id = some row) :
    ∃ row', (store.updateMany ids change).documents.lookup id = some row' ∧ row.Becomes row' := by
  refine ⟨if id ∈ ids then change row else row, ?_, ?_⟩
  · rw [lookup_updateMany, stored]
    rfl
  · split
    · rename_i listed
      exact changes listed stored
    · exact .refl

theorem becomes_superseded : row.Becomes row.superseded := ⟨⟨rfl, rfl, rfl⟩, .superseded⟩

theorem becomes_of_isReviewable (evidence : row.SameEvidence row')
    (reviewable : row.isReviewable = true) : row.Becomes row' :=
  ⟨evidence, mayBecome_of_isReviewable reviewable⟩

theorem saved_status {read assigned : KycDocument} :
    (KycDocument.saved read assigned row).status =
      if assigned.status = read.status then row.status
      else assigned.status :=
  rfl

theorem becomes_saved {reviewerUid : Uid} {provider : ResolvedProvider}
    {document : Document} {review : Review} {now : Instant}
    (allowed : (Call.save reviewerUid provider document review).undisturbed configuration = true)
    (stored : configuration.store.documents.lookup document.id = some row) :
    row.Becomes (KycDocument.saved document.values
      (review.assigned reviewerUid now document.values) row) := by
  refine ⟨sameEvidence_saved, ?_⟩
  rw [saved_status, Review.assigned_status]
  rw [Call.undisturbed, stored] at allowed
  split
  · exact .refl
  · rename_i assigns
    rcases Bool.or_eq_true_iff.mp allowed with same | either
    · exact (assigns (eq_of_beq same)).elim
    · rcases Bool.or_eq_true_iff.mp either with reviewable | given
      · exact mayBecome_of_isReviewable reviewable
      · rw [eq_of_beq given]
        exact .refl

theorem Resumed.becomes
    (resumed : Resumed tick configuration.store call after next)
    (allowed : call.undisturbed configuration = true)
    (stored : configuration.store.documents.lookup id = some row) :
    ∃ row', after.documents.lookup id = some row' ∧ row.Becomes row' := by
  have reviewed : ∀ {found : List ObjectId}, (found.all fun id =>
        (configuration.store.documents.lookup id).all KycDocument.isReviewable) = true →
      id ∈ found → row.isReviewable = true := by
    intro found all listed
    have holds := List.all_eq_true.mp all id listed
    rw [stored] at holds
    exact holds
  cases resumed with
  | created provider submission storageObjectKey previous unused =>
    refine ⟨row, ?_, .refl⟩
    rw [lookup_insertDocument_of_ne, stored]
    rintro rfl
    exact unused (AList.lookup_isSome.mp (stored ▸ rfl))
  | superseded provider previous =>
    exact becomes_updateMany (fun _ _ => becomes_superseded) stored
  | claimed | decided =>
    apply becomes_updateMany _ stored
    intro listed stored
    cases List.mem_singleton.mp listed
    exact becomes_saved allowed stored
  | caseClaimed | released =>
    apply becomes_updateMany _ stored
    intro listed _
    exact becomes_of_isReviewable ⟨rfl, rfl, rfl⟩ (reviewed allowed listed)
  | _ => exact ⟨row, stored, .refl⟩

theorem Resumed.stored
    (resumed : Resumed tick store call after next)
    (stored : after.documents.lookup id = some row') :
    (∃ row, store.documents.lookup id = some row) ∨
      ∃ provider submission storageObjectKey previous,
        call = .create provider submission storageObjectKey previous ∧
          row' = submission.document provider storageObjectKey tick.now previous ∧
          id = tick.drawn := by
  have updated : ∀ {ids change},
      (store.updateMany ids change).documents.lookup id = some row' →
      ∃ row, store.documents.lookup id = some row := by
    intro ids change stored
    rw [lookup_updateMany] at stored
    rcases Option.map_eq_some_iff.mp stored with ⟨row, found, _⟩
    exact ⟨row, found⟩
  cases resumed with
  | created provider submission storageObjectKey previous unused =>
    by_cases own : id = tick.drawn
    · subst own
      rw [lookup_insertDocument_self] at stored
      cases stored
      exact .inr ⟨_, _, _, _, rfl, rfl, rfl⟩
    · rw [lookup_insertDocument_of_ne own] at stored
      exact .inl ⟨row', stored⟩
  | superseded | claimed | decided | caseClaimed | released => exact .inl (updated stored)
  | _ => exact .inl ⟨row', stored⟩

end

/-! ## Runs -/

def Covered (configuration : Calls) : Prop :=
  ∀ providerId documentType id other row row',
    configuration.store.documents.lookup id = some row →
    configuration.store.documents.lookup other = some row' →
    row.isLiveOf providerId documentType = true →
    row'.isLiveOf providerId documentType = true → id ≠ other →
    doomed id configuration = true ∨ doomed other configuration = true

section

variable {configuration before after : Calls} {start : Store}
  {move : Move Request Tick} {index : ℕ} {tick : Tick} {call : Call}
  {store : Store} {next : Option Call} {id : ObjectId} {row row' : KycDocument}

theorem Store.Keeps.refl : store.Keeps store :=
  fun _ row stored => ⟨row, stored, .refl⟩

theorem Store.Keeps.trans {middle later : Store}
    (first : store.Keeps middle) (second : middle.Keeps later) :
    store.Keeps later := by
  intro id row stored
  rcases first id row stored with ⟨row', stored', status⟩
  rcases second id row' stored' with ⟨row'', stored'', status'⟩
  exact ⟨row'', stored'', status.trans status'⟩

theorem keeps_step (allowed : undisturbed configuration move = true)
    (stepped : kyc.system.step move configuration = some after) :
    configuration.store.Keeps after.store := by
  cases Service.stepped_of_step stepped with
  | entered request call enters => exact .refl
  | resumed index tick call store next waits resumes =>
    rw [undisturbed, waits] at allowed
    intro id row stored
    rcases (resumed_of_resume resumes).becomes allowed stored with ⟨row', stored', becomes⟩
    exact ⟨row', stored', becomes.status⟩

theorem doomed_resumed (waits : configuration.Waits index call)
    (resumed : Resumed tick configuration.store call store next)
    (dooms : doomed id configuration = true)
    (stored : store.documents.lookup id = some row')
    (live : row'.status ≠ .SUPERSEDED) :
    doomed id (configuration.resumed index store next) = true := by
  apply someCall_resumed waits dooms
  intro retires
  cases resumed with
  | superseded provider previous =>
    have listed : id ∈ previous := of_decide_eq_true retires
    rw [lookup_updateMany] at stored
    rcases Option.map_eq_some_iff.mp stored with ⟨row, _, rfl⟩
    rw [if_pos listed] at live
    exact (live rfl).elim
  | _ => cases retires

theorem doomed_created {provider : ResolvedProvider}
    {previous : List ObjectId}
    (waits : configuration.Waits index call) (listed : id ∈ previous) :
    doomed id (configuration.resumed index store (some
        (if previous = [] then .recompute provider none
        else .supersede provider previous))) = true := by
  apply someCall_next waits
  rw [if_neg (List.ne_nil_of_mem listed)]
  exact decide_eq_true listed

theorem Covered.step (covered : Covered configuration)
    (allowed : undisturbed configuration move = true)
    (stepped : kyc.system.step move configuration = some after) :
    Covered after := by
  cases Service.stepped_of_step stepped with
  | entered request call enters =>
    intro providerId documentType id other row row' stored stored' live live' apart
    rcases covered providerId documentType id other row row' stored stored'
      live live' apart with dooms | dooms
    · exact .inl (someCall_entered dooms)
    · exact .inr (someCall_entered dooms)
  | resumed index tick call store next waits resumes =>
    have resumed := resumed_of_resume resumes
    rw [undisturbed, waits] at allowed
    dsimp only at allowed
    -- A live document was live before, unless this step has inserted it.
    have lived : ∀ {providerId documentType id row},
        store.documents.lookup id = some row →
        row.isLiveOf providerId documentType = true →
        (∃ row, configuration.store.documents.lookup id = some row) →
        ∃ row, configuration.store.documents.lookup id = some row ∧
          row.isLiveOf providerId documentType = true := by
      rintro providerId documentType id row stored live ⟨old, found⟩
      rcases resumed.becomes allowed found with ⟨row', stored', becomes⟩
      cases stored.symm.trans stored'
      exact ⟨old, found, becomes.live live⟩
    -- Every other live document is doomed when a document is inserted.
    have alone : ∀ {providerId documentType id other row row'},
        store.documents.lookup id = some row →
        store.documents.lookup other = some row' →
        row.isLiveOf providerId documentType = true →
        row'.isLiveOf providerId documentType = true → id ≠ other →
        (∃ row, configuration.store.documents.lookup other = some row) →
        (∃ provider submission storageObjectKey previous,
          call = .create provider submission storageObjectKey previous ∧
            row = submission.document provider storageObjectKey tick.now previous ∧
            id = tick.drawn) →
        doomed other (configuration.resumed index store next) = true := by
      rintro providerId documentType id other row row' _ stored' live live'
        apart exists' ⟨provider, submission, storageObjectKey, previous, rfl, rfl, rfl⟩
      rcases isLiveOf_iff.mp live with ⟨rfl, rfl, _⟩
      rcases lived stored' live' exists' with ⟨old, found, live⟩
      have listed : (⟨other, old⟩ : (_ : ObjectId) × KycDocument) ∈
          configuration.store.documents.entries :=
        AList.mem_lookup_iff.mp found
      have accounted := List.all_eq_true.mp allowed _ listed
      change (!old.isLiveOf provider.providerId submission.documentType ||
        decide (other ∈ previous) || doomed other configuration) = true at accounted
      have live : old.isLiveOf provider.providerId submission.documentType = true := live
      rw [live] at accounted
      rcases Bool.or_eq_true_iff.mp accounted with own | dooms
      · cases resumed with
        | created _ _ _ _ unused =>
          exact doomed_created waits (of_decide_eq_true own)
      · exact doomed_resumed waits resumed dooms stored' (isLiveOf_iff.mp live').2.2
    intro providerId documentType id other row row' stored stored' live live' apart
    rcases resumed.stored stored with old | inserted
    · rcases resumed.stored stored' with old' | inserted'
      · rcases lived stored live old with ⟨before, found, lives⟩
        rcases lived stored' live' old' with ⟨before', found', lives'⟩
        rcases covered providerId documentType id other before before'
          found found' lives lives' apart with dooms | dooms
        · exact .inl (doomed_resumed waits resumed dooms stored (isLiveOf_iff.mp live).2.2)
        · exact .inr (doomed_resumed waits resumed dooms stored' (isLiveOf_iff.mp live').2.2)
      · exact .inl (alone stored' stored live' live apart.symm old inserted')
    · rcases resumed.stored stored' with old' | inserted'
      · exact .inr (alone stored stored' live live' apart old' inserted)
      · rcases inserted with ⟨_, _, _, _, _, _, rfl⟩
        rcases inserted' with ⟨_, _, _, _, _, _, rfl⟩
        exact (apart rfl).elim

theorem Covered.single (covered : Covered configuration)
    (quiet : configuration.Quiet) : configuration.store.Single := by
  intro providerId documentType id other row row' stored stored' live live'
  by_contra apart
  rcases covered providerId documentType id other row row' stored stored' live
    live' apart with dooms | dooms
  · exact not_someCall_of_quiet quiet dooms
  · exact not_someCall_of_quiet quiet dooms

/--
In a run in which no call writes over what another has written, decisions are final,
and one document of a type is live whenever no call is in progress.
-/
theorem decisionsAreFinal (single : start.Single)
    (reached : kyc.system.Reaches
      (fun configuration move => undisturbed configuration move = true)
      (.start start) before)
    (ran : kyc.system.Reaches
      (fun configuration move => undisturbed configuration move = true) before after) :
    before.store.Keeps after.store ∧ (after.Quiet → after.store.Single) := by
  have covered : Covered after := by
    refine (reached.trans ran).invariant Covered ?_ ?_
    · intro providerId documentType id other row row' stored stored' live live' apart
      exact (apart (single providerId documentType id other row row' stored
        stored' live live')).elim
    · exact fun _ _ _ covered allowed stepped =>
        covered.step allowed stepped
  constructor
  · refine ran.invariant (fun later => before.store.Keeps later.store) .refl ?_
    exact fun _ _ _ keeps allowed stepped =>
      keeps.trans (keeps_step allowed stepped)
  · exact covered.single

end

/-! ## Sample runs -/

namespace Sample

def store : Store where
  documents := ∅
  providers := AList.singleton "profile"
    { providerType := .WASHER
      ownerUid := "washer" }

def submits : Move Request Tick :=
  .enter
    (.submitDocument "washer"
      { providerType := .WASHER
        providerId := none
        documentType := .PROOF_OF_ADDRESS
        base64 := "AAAA"
        mimeType := "image/jpeg" }
      1)

def approves (reviewer : Uid) (documentId : ObjectId) :
    Move Request Tick :=
  .enter (.approveDocument reviewer documentId)

def rejects (reviewer : Uid) (documentId : ObjectId) :
    Move Request Tick :=
  .enter (.rejectDocument reviewer documentId .BLURRY none)

def goesOn (index : ℕ) (now : Instant) : Move Request Tick := .resume index { now, drawn := "" }

def inserts (index : ℕ) (now : Instant) (drawn : ObjectId) :
    Move Request Tick :=
  .resume index { now, drawn }

def first : List (Move Request Tick) :=
  [submits, goesOn 0 2, goesOn 0 3, inserts 0 4 "first", goesOn 0 5,
    goesOn 0 6, approves "reviewer" "first", goesOn 1 7]

def status (id : ObjectId) (configuration : Calls) :
    Option KycDocumentStatus :=
  (configuration.store.documents.lookup id).map KycDocument.status

def around (system : System Calls (Move Request Tick))
    (earlier later : List (Move Request Tick)) : Option (Calls × Calls) :=
  (system.perform earlier (.start store)).bind fun before =>
    (system.perform later before).map fun after => (before, after)

end Sample

theorem Sample.performed {system : System Calls (Move Request Tick)}
    {earlier later : List (Move Request Tick)} {before after : Calls}
    (around : Sample.around system earlier later = some (before, after)) :
    system.perform earlier (.start Sample.store) = some before ∧
      system.perform later before = some after := by
  rcases Option.bind_eq_some_iff.mp around with ⟨middle, ran, rest⟩
  rcases Option.map_eq_some_iff.mp rest with ⟨last, ran', same⟩
  cases same
  exact ⟨ran, ran'⟩

theorem Sample.single : Sample.store.Single := by
  intro _ _ id _ _ _ stored
  cases stored

/-- An approved document is replaced. -/
theorem decisionsAreFinal_replaced :
    ∃ before after : Calls,
      Sample.status "first" before = some .APPROVED ∧
        Sample.status "first" after = some .SUPERSEDED ∧
        before.store.Keeps after.store ∧ after.store.Single := by
  have performed : (Sample.around (kyc.system.restrict fun configuration move =>
          undisturbed configuration move = true) (Sample.first ++ [Sample.goesOn 1 8])
        [Sample.goesOn 1 9, Sample.goesOn 1 10, Sample.submits,
          Sample.goesOn 2 11, Sample.goesOn 2 12,
          Sample.inserts 2 13 "second", Sample.goesOn 2 14,
          Sample.goesOn 2 15, Sample.goesOn 2 16]).map
        (fun (before, after) =>
          (Sample.status "first" before, Sample.status "first" after,
            after.someCall fun _ => true)) =
        some (some .APPROVED, some .SUPERSEDED, false) := by
    decide +kernel
  rcases Option.map_eq_some_iff.mp performed with ⟨⟨before, after⟩, around, seen⟩
  rcases Sample.performed around with ⟨ran, ran'⟩
  rcases Prod.mk.inj seen with ⟨approved, facts⟩
  rcases Prod.mk.inj facts with ⟨replaced, returned⟩
  have final := decisionsAreFinal Sample.single
    (System.reaches_of_perform_restrict ran)
    (System.reaches_of_perform_restrict ran')
  exact ⟨before, after, approved, replaced, final.1, final.2 (quiet_iff.mpr returned)⟩

/-- A rejection is saved over the approval that came between. -/
theorem approvalRejected :
    ¬ ∀ (start : Store) (before after : Calls), start.Single →
      kyc.system.Reaches (fun _ _ => True) (.start start) before →
      kyc.system.Reaches (fun _ _ => True) before after →
      before.store.Keeps after.store ∧ (after.Quiet → after.store.Single) := by
  intro always
  have performed :
      (Sample.around kyc.system
        (Sample.first ++ [Sample.rejects "second" "first",
          Sample.goesOn 2 8, Sample.goesOn 1 9]) [Sample.goesOn 2 10]).map
        (fun (before, after) =>
          (Sample.status "first" before, Sample.status "first" after)) =
        some (some .APPROVED, some .REJECTED) := by
    decide +kernel
  rcases Option.map_eq_some_iff.mp performed with ⟨⟨before, after⟩, around, seen⟩
  rcases Sample.performed around with ⟨ran, ran'⟩
  rcases Prod.mk.inj seen with ⟨approved, rejected⟩
  have keeps := (always Sample.store before after Sample.single
    (System.reaches_of_perform ran) (System.reaches_of_perform ran')).1
  rcases Option.map_eq_some_iff.mp approved with ⟨row, stored, status⟩
  rcases keeps "first" row stored with ⟨row', stored', becomes⟩
  rw [Sample.status, stored'] at rejected
  cases Option.some.inj rejected ▸ status ▸ becomes with
  | inl same => cases same
  | inr same => cases same

end Lalaba.Kyc
