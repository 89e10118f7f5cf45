import Lalaba.Kyc.Latest

/-!
# Badges that have been granted

A submission and a decision derive the status of a provider anew, from all of its live
documents and under the set that is required today.  So a badge that was granted under
an older set, or on documents that have expired since, is lost with the next document
that is handled.  It is kept exactly if the documents at hand would earn it today.
-/

namespace Lalaba.Kyc

open Foundation

/-! ## A call to its end -/

section

variable {store after : Store} {ticks : List Tick} {provider : ResolvedProvider} {reviewerUid : Uid}

theorem resumed_of_kyc {tick : Tick} {call : Call} {next : Option Call}
    (resumes : kyc.resume tick call store = some (after, next)) :
    Resumed tick store call after next :=
  resumed_of_resume resumes

theorem alone_recompute {grantor : Option Uid}
    (ran : kyc.alone ticks (.recompute provider grantor) store = some after) :
    ∃ reads writes, ticks = [reads, writes] ∧
      after = store.updateProvider provider.providerId
        (Provider.verified (verdict reads.now provider.providerType
            (store.live provider.providerId)) grantor reads.now) := by
  match ticks, ran with
  | [reads, writes], ran =>
    cases ran
    exact ⟨reads, writes, rfl, rfl⟩

theorem reads_of_ticks {earlier front : List Tick}
    {reads writes reads' writes' : Tick}
    (same : earlier ++ [reads, writes] = front ++ [reads', writes']) :
    reads' = reads := by
  have last := List.append_inj_right' same rfl
  cases last
  rfl

theorem updateMany_nil {change : KycDocument → KycDocument} :
    store.updateMany [] change = store := by
  have same : Snapshot.mapRows
      (fun id row => if id ∈ ([] : List ObjectId) then change row else row)
      store.documents = store.documents := by
    apply AList.ext
    rw [Snapshot.mapRows]
    simp only [List.not_mem_nil, if_false]
    exact List.map_id _
  rw [Store.updateMany, same]

/-- A submission that is not refused inserts its document and derives the status. -/
theorem alone_upload {submission : Submission} {earlier : List Tick}
    {reads writes : Tick}
    (ran : kyc.alone (earlier ++ [reads, writes])
      (.upload provider submission) store = some after) :
    ∃ (created : Store) (document : KycDocument) (grantor : Option Uid),
      document.documentType = submission.documentType ∧
      document.status = .SUBMITTED ∧
      created.live provider.providerId =
        document :: (store.live provider.providerId).filter
          (fun row => row.documentType != document.documentType) ∧
      created.providers = store.providers ∧
      after = created.updateProvider provider.providerId
        (Provider.verified (verdict reads.now provider.providerType
            (created.live provider.providerId)) grantor reads.now) := by
  rcases Service.alone_cases ran with ⟨uploads, _, ticks, ⟨rfl, _⟩ | ⟨_, _, uploaded, ran⟩⟩
  · have length := congrArg List.length ticks
    simp at length
  cases resumed_of_kyc uploaded with
  | uploaded _ _ storageObjectKey =>
    rcases Service.alone_cases ran with ⟨finds, _, rfl, ⟨_, returns⟩ | ⟨_, _, found, ran⟩⟩
    · cases resumed_of_kyc returns
    cases resumed_of_kyc found with
    | found =>
      rcases Service.alone_cases ran with ⟨creates, rest, rfl, ⟨_, returns⟩ | ⟨_, _, creation, ran⟩⟩
      · cases resumed_of_kyc returns
      cases resumed_of_kyc creation with
      | created _ _ _ previous unused =>
        refine ⟨(store.insertDocument creates.drawn
            (submission.document provider storageObjectKey creates.now
              (store.previous provider.providerId submission.documentType))).updateMany
            (store.previous provider.providerId submission.documentType)
            KycDocument.superseded, _, none, rfl, rfl,
          live_submitted unused rfl rfl rfl, rfl, ?_⟩
        by_cases alone : store.previous provider.providerId submission.documentType = []
        · rw [if_pos alone] at ran
          rcases alone_recompute ran with ⟨reads', writes', rfl, rfl⟩
          have read : reads' = reads := @reads_of_ticks _ [uploads, finds, creates] _ _ _ _ ticks
          rw [read, alone, updateMany_nil]
        · rw [if_neg alone] at ran
          rcases Service.alone_cases ran with
            ⟨supersedes, _, rfl, ⟨_, returns⟩ | ⟨_, _, replaced, ran⟩⟩
          · cases resumed_of_kyc returns
          cases resumed_of_kyc replaced with
          | superseded =>
            rcases alone_recompute ran with ⟨reads', writes', rfl, rfl⟩
            have read : reads' = reads :=
              @reads_of_ticks _ [uploads, finds, creates, supersedes] _ _ _ _ ticks
            rw [read]

theorem reviewable_of_ok {values : KycDocument} {review review' : Review}
    (checks : reviewable reviewerUid provider values review = .ok (some review')) :
    review' = review ∧ values.isReviewable = true := by
  unfold reviewable at checks
  split_ifs at checks with own reviewable decides mine held
  · cases checks
    exact ⟨rfl, by simpa using reviewable⟩
  · cases checks
  · cases checks
    exact ⟨rfl, by simpa using reviewable⟩

/-- A decision that is not refused saves its document and derives the status. -/
theorem alone_load {document : Document} {review : Review}
    {earlier : List Tick} {reads writes : Tick}
    (decides : review ≠ .claimDocumentForReview)
    (ran : kyc.alone (earlier ++ [reads, writes])
      (.load reviewerUid document review) store = some after) :
    ∃ provider now grantor,
      loadProvider document.values.providerType document.values.providerId store = .ok provider ∧
      document.values.isReviewable = true ∧
      after = (store.updateMany [document.id] (KycDocument.saved document.values
            (review.assigned reviewerUid now document.values))).updateProvider provider.providerId
        (Provider.verified (verdict reads.now provider.providerType
            ((store.updateMany [document.id] (KycDocument.saved document.values
                (review.assigned reviewerUid now document.values))).live provider.providerId))
          grantor reads.now) := by
  rcases Service.alone_cases ran with ⟨loads, _, ticks, ⟨rfl, _⟩ | ⟨_, _, loaded, rest⟩⟩
  · have length := congrArg List.length ticks
    simp at length
  unfold kyc at loaded
  dsimp only [resume] at loaded
  cases found : loadProvider document.values.providerType document.values.providerId store with
  | error error =>
    rw [found] at loaded
    cases loaded
  | ok provider =>
    rw [found] at loaded
    dsimp only at loaded
    split at loaded
    · rename_i review' checks
      cases loaded
      rcases reviewable_of_ok checks with ⟨rfl, reviewable⟩
      rcases Service.alone_cases rest with ⟨saves, _, rfl, ⟨_, returns⟩ | ⟨_, _, saved, ran⟩⟩
      · cases resumed_of_kyc returns
        exact (decides rfl).elim
      cases resumed_of_kyc saved with
      | decided _ _ _ _ grantor =>
        rcases alone_recompute ran with ⟨reads', writes', rfl, rfl⟩
        have read : reads' = reads := @reads_of_ticks _ [loads, saves] _ _ _ _ ticks
        exact ⟨provider, saves.now, grantor, rfl, reviewable, by rw [read]⟩
    · cases loaded

def Call.handles : Call → Bool
  | .load _ _ review => review = .claimDocumentForReview
  | .save _ _ _ review => review = .claimDocumentForReview
  | .findOpen _ _ _ => true
  | .claimCase _ _ => true
  | .findMine _ _ _ => true
  | .release _ => true
  | _ => false

/-- They write to no provider. -/
theorem alone_handles {call : Call} (handles : call.handles = true)
    (ran : kyc.alone ticks call store = some after) :
    after.providers = store.providers := by
  induction ticks generalizing call store with
  | nil => cases ran
  | cons tick rest induction =>
    have step : ∀ {middle : Store} {next : Option Call},
        kyc.resume tick call store = some (middle, next) →
        middle.providers = store.providers ∧ ∀ call', next = some call' → call'.handles = true := by
      intro middle next resumes
      cases call with
      | load uid document review =>
        unfold kyc at resumes
        dsimp only [resume] at resumes
        split at resumes
        · cases resumes
          exact ⟨rfl, fun _ goesOn => by cases goesOn⟩
        · split at resumes
          · rename_i checks
            cases resumes
            refine ⟨rfl, fun call' goesOn => ?_⟩
            cases goesOn
            rw [(reviewable_of_ok checks).1]
            exact handles
          · cases resumes
            exact ⟨rfl, fun _ goesOn => by cases goesOn⟩
      | save uid other document review =>
        cases of_decide_eq_true handles
        cases resumes
        exact ⟨rfl, fun _ goesOn => by cases goesOn⟩
      | findOpen uid providerType providerId =>
        cases resumed_of_kyc resumes with
        | openNone => exact ⟨rfl, fun _ goesOn => by cases goesOn⟩
        | openFound =>
          exact ⟨rfl, fun _ goesOn => by cases goesOn; rfl⟩
      | claimCase | release =>
        cases resumes
        exact ⟨rfl, fun _ goesOn => by cases goesOn⟩
      | findMine uid providerType providerId =>
        cases resumed_of_kyc resumes with
        | mineNone => exact ⟨rfl, fun _ goesOn => by cases goesOn⟩
        | mineFound =>
          exact ⟨rfl, fun _ goesOn => by cases goesOn; rfl⟩
      | _ => cases handles
    rcases Service.alone_cases ran with ⟨_, _, same, ⟨_, returns⟩ | ⟨_, _, resumes, ran'⟩⟩
    · cases same
      exact (step returns).1
    · cases same
      rcases step resumes with ⟨spared, goesOn⟩
      exact (induction (goesOn _ rfl) ran').trans spared

end

/-! ## Granted badges -/

/-- The provider a call is about. -/
def Store.subject (store : Store) :
    Request → Except ServiceError ResolvedProvider
  | .submitDocument user input _ =>
    resolveOwnedProvider user input.providerType input.providerId store
  | .claimDocumentForReview _ documentId => ofDocument documentId
  | .approveDocument _ documentId => ofDocument documentId
  | .rejectDocument _ documentId _ _ => ofDocument documentId
  | .claimCaseForReview _ providerType providerId =>
    loadProvider providerType providerId store
  | .releaseCase _ providerType providerId =>
    loadProvider providerType providerId store
where
  ofDocument (documentId : ObjectId) :
      Except ServiceError ResolvedProvider :=
    match store.documents.lookup documentId with
    | none => .error (.notFound "KYC document not found")
    | some values =>
      loadProvider values.providerType values.providerId store

/--
When a badge survives a call: the documents at hand support it, the one that is being
approved among them, and what is submitted is not required.  Claims and releases do not
touch it.
-/
def Store.Retains (store : Store) (now : Instant)
    (provider : ResolvedProvider) : Request → Prop
  | .submitDocument _ input _ =>
    input.documentType ∉ store.required provider ∧ store.Supports now provider none
  | .approveDocument _ documentId =>
    store.Supports now provider (some documentId)
  | .rejectDocument _ _ _ _ => store.Supports now provider none
  | _ => True

section

variable {store after : Store} {provider : ResolvedProvider} {row : Provider} {values : KycDocument}

variable {now : Instant} {review : Review} {reviewerUid : Uid}

theorem status_verified
    (stored : store.providers.lookup provider.providerId = some row)
    {verdict : Verdict} {grantor : Option Uid} :
    ((store.updateProvider provider.providerId
        (Provider.verified verdict grantor now)).providers.lookup
          provider.providerId).map Provider.verificationStatus =
      some .APPROVED ↔ verdict.status = .APPROVED := by
  rw [lookup_updateProvider, stored, Option.map_some, if_pos rfl,
    Option.map_some, Option.some.injEq]
  rfl

@[simp]
theorem modified_self {Value : Type} [DecidableEq Value]
    {read assigned : Value} : modified read assigned read = assigned := by
  rw [modified]
  split
  · rename_i same
    exact same.symm
  · rfl

theorem saved_assigned :
    KycDocument.saved values (review.assigned reviewerUid now values)
      values = review.assigned reviewerUid now values := by
  cases review <;>
    simp [KycDocument.saved, Review.assigned, KycDocument.claimed,
      KycDocument.approved, KycDocument.rejected]

theorem checked_ok {input : SubmitKycDocumentInput} {submission : Submission}
    (checks : checked now input = .ok submission) :
    input.documentType ∈ KYC_ALLOWED_DOCUMENT_TYPES input.providerType ∧
      submission.documentType = input.documentType := by
  unfold checked at checks
  dsimp only at checks
  split at checks
  · cases checks
  · rename_i allowed
    iterate 3
      split at checks
      · cases checks
    split at checks
    · cases checks
    · rcases map_eq_ok.mp checks with ⟨_, _, rfl⟩
      exact ⟨not_not.mp allowed, rfl⟩

theorem rejection_ok {reasonCode : KycRejectionReason} {note : Option String}
    (rejects : rejection reasonCode note = .ok review) :
    ∃ note' reason, review = .rejectDocument reasonCode note' reason := by
  unfold rejection at rejects
  dsimp only at rejects
  split at rejects
  · split at rejects
    · cases rejects
    · cases rejects
      exact ⟨_, _, rfl⟩
  · cases rejects
    exact ⟨_, _, rfl⟩

theorem providerType_of_resolveOwnedProvider {user : Uid}
    {providerType : KycProviderType} {named : Option ObjectId}
    (resolves : resolveOwnedProvider user providerType named store =
      .ok provider) : provider.providerType = providerType := by
  unfold resolveOwnedProvider at resolves
  dsimp only at resolves
  cases providerType with
  | MERCHANT_BRANCH =>
    dsimp only at resolves
    split at resolves
    · cases resolves
    · split at resolves
      · cases resolves
      · split at resolves
        · cases resolves
        · cases resolves
          rfl
  | WASHER =>
    dsimp only at resolves
    split at resolves
    · cases resolves
    · split at resolves
      · cases resolves
      · cases resolves
        rfl

theorem alters_decided {documentId : ObjectId}
    (stored : store.documents.lookup documentId = some values)
    (reviewable : values.isReviewable = true)
    (decides : review ≠ .claimDocumentForReview) :
    store.Alters documentId (KycDocument.saved values
      (review.assigned reviewerUid now values)) := by
  have live : values.status ≠ .SUPERSEDED := by
    intro replaced
    rw [KycDocument.isReviewable, replaced] at reviewable
    cases reviewable
  constructor
  · intro row found
    cases stored.symm.trans found
    rw [saved_assigned]
    cases review with
    | claimDocumentForReview => exact (decides rfl).elim
    | approveDocument =>
      refine ⟨rfl, rfl, rfl, ?_⟩
      simp [Review.assigned, KycDocument.approved, live]
    | rejectDocument reasonCode note reason =>
      refine ⟨rfl, rfl, rfl, ?_⟩
      simp [Review.assigned, KycDocument.rejected, live]
  · exact fun _ _ => rfl

theorem retains_decided {documentId : ObjectId} {earlier : List Tick}
    {reads writes : Tick}
    (stored : store.providers.lookup provider.providerId = some row)
    (about : loadProvider values.providerType values.providerId store =
      .ok provider) (decides : review ≠ .claimDocumentForReview)
    (ran : kyc.alone (earlier ++ [reads, writes])
      (.load reviewerUid { id := documentId, values } review) store = some after) :
    values.isReviewable = true ∧ ∃ now,
      ((after.providers.lookup provider.providerId).map
          Provider.verificationStatus = some .APPROVED ↔
        (store.updateMany [documentId] (KycDocument.saved values
          (review.assigned reviewerUid now values))).Supports reads.now provider none) := by
  rcases alone_load decides ran with ⟨provider', now, grantor, loads, reviewable, rfl⟩
  cases about.symm.trans loads
  refine ⟨reviewable, now, ?_⟩
  rw [supports_iff]
  exact status_verified stored

end

/--
A granted badge survives a call that runs alone exactly if, when the status is derived,
the documents at hand would earn it again.
-/
theorem badgeIsKept {store after : Store} {provider : ResolvedProvider}
    {row : Provider} {request : Request} {call : Call}
    {earlier : List Tick} {reads writes : Tick}
    (stored : store.providers.lookup provider.providerId = some row)
    (granted : row.verificationStatus = .APPROVED)
    (about : store.subject request = .ok provider)
    (begins : begin request store = .ok call)
    (ran : kyc.alone (earlier ++ [reads, writes]) call store = some after) :
    (after.providers.lookup provider.providerId).map
        Provider.verificationStatus = some .APPROVED ↔
      store.Retains reads.now provider request := by
  have untouched : after.providers = store.providers →
      ((after.providers.lookup provider.providerId).map
          Provider.verificationStatus = some .APPROVED ↔ True) := by
    intro same
    rw [same, stored, Option.map_some, granted]
    exact iff_true_intro rfl
  cases request with
  | submitDocument user input now =>
    have about : resolveOwnedProvider user input.providerType
      input.providerId store = .ok provider := about
    rw [begin, about] at begins
    rcases map_eq_ok.mp begins with ⟨submission, checks, rfl⟩
    rcases checked_ok checks with ⟨allowed, type⟩
    rcases alone_upload ran with ⟨created, document, grantor, same, waiting, live, spared, rfl⟩
    have stored' : created.providers.lookup provider.providerId =
      some row := spared ▸ stored
    have typed := providerType_of_resolveOwnedProvider about
    have own : document.documentType = input.documentType := same.trans type
    rw [status_verified stored', live, verdict_submitted
      (by rw [own, typed]; exact allowed) waiting, own]
    exact and_congr_right fun _ => supports_iff.symm
  | claimDocumentForReview reviewer documentId =>
    rw [begin, startReview] at begins
    split at begins
    · cases begins
    · cases begins
      exact untouched (alone_handles rfl ran)
  | approveDocument reviewer documentId =>
    rw [begin, startReview] at begins
    rw [Store.subject, Store.subject.ofDocument] at about
    split at begins
    · cases begins
    · rename_i values found
      cases begins
      rw [found] at about
      have decides : Review.approveDocument ≠ .claimDocumentForReview :=
        fun same => by cases same
      rcases retains_decided stored about decides ran with ⟨reviewable, now, kept⟩
      refine kept.trans (supports_approved found (alters_decided found reviewable decides) ?_ rfl)
      rw [saved_assigned]
      rfl
  | rejectDocument reviewer documentId reasonCode note =>
    rw [begin] at begins
    rw [Store.subject, Store.subject.ofDocument] at about
    split at begins
    · cases begins
    · rename_i review rejects
      rcases rejection_ok rejects with ⟨note', reason, rfl⟩
      rw [startReview] at begins
      split at begins
      · cases begins
      · rename_i values found
        cases begins
        rw [found] at about
        have decides : Review.rejectDocument reasonCode note' reason ≠
          .claimDocumentForReview := fun same => by cases same
        rcases retains_decided stored about decides ran with ⟨reviewable, now, kept⟩
        refine kept.trans (supports_rejected found (alters_decided found reviewable decides) ?_ ?_)
        · rw [saved_assigned]
          exact fun same => by cases same
        · intro approved
          rw [KycDocument.isReviewable, approved] at reviewable
          cases reviewable
  | claimCaseForReview reviewer providerType providerId =>
    simp only [begin] at begins
    split at begins
    · cases begins
    · split at begins
      · cases begins
      · cases begins
        exact untouched (alone_handles rfl ran)
  | releaseCase reviewer providerType providerId =>
    simp only [begin] at begins
    rcases map_eq_ok.mp begins with ⟨_, _, rfl⟩
    exact untouched (alone_handles rfl ran)

/-! ## Sample runs -/

namespace Sample

/-- A document that was approved. -/
def evidence (provider : ResolvedProvider) (documentType : KycDocumentType)
    (governmentIdType : Option GovernmentIdType) : KycDocument where
  providerId := provider.providerId
  providerType := provider.providerType
  ownerUid := provider.ownerUid
  documentType := documentType
  governmentIdType := governmentIdType
  storageObjectKey := "key"
  mimeType := "image/jpeg"
  fileSizeBytes := 3
  status := .APPROVED
  submittedAt := 1
  expiresAt := none
  supersedesDocumentId := none
  livenessChallenge := none
  livenessMetadata := none

def washer : ResolvedProvider where
  providerId := "profile"
  providerType := .WASHER
  ownerUid := "washer"

def verified : Store where
  documents :=
    AList.insert "passport" (evidence washer .VALID_ID (some .PASSPORT))
      (AList.insert "selfie" (evidence washer .SELFIE none)
        (AList.insert "address" (evidence washer .PROOF_OF_ADDRESS none)
          (AList.insert "clearance" (evidence washer .BARANGAY_CLEARANCE none) ∅)))
  providers := AList.singleton "profile"
    { providerType := .WASHER
      ownerUid := "washer"
      verificationStatus := .APPROVED
      verificationPolicyVersion := some 2 }

def branch : ResolvedProvider where
  providerId := "branch"
  providerType := .MERCHANT_BRANCH
  ownerUid := "merchant"

def grandfathered : Store where
  documents :=
    AList.insert "permit" (evidence branch .BUSINESS_PERMIT none)
      (AList.insert "owner" (evidence branch .OWNER_VALID_ID (some .UMID)) ∅)
  providers := AList.singleton "branch"
    { providerType := .MERCHANT_BRANCH
      ownerUid := "merchant"
      verificationStatus := .APPROVED
      verificationPolicyVersion := some 1 }

def adds (provider : ResolvedProvider) (documentType : KycDocumentType) :
    SubmitKycDocumentInput where
  providerType := provider.providerType
  providerId := some provider.providerId
  documentType := documentType
  base64 := "AAAA"
  mimeType := "image/jpeg"

def added (documentType : KycDocumentType) : Submission where
  documentType := documentType
  governmentIdType := none
  expiresAt := none
  mimeType := "image/jpeg"
  extension := "jpg"
  fileSizeBytes := 3
  livenessChallenge := none
  livenessMetadata := none

def tick (now : Instant) : Tick where
  now := now
  drawn := "drawn"

def run (provider : ResolvedProvider) (documentType : KycDocumentType)
    (store : Store) : Option Store :=
  kyc.alone ([tick 2, tick 3, tick 4] ++ [tick 5, tick 6])
    (.upload provider (added documentType)) store

def statusOf (provider : ResolvedProvider) (store : Store) :
    Option VerificationStatus :=
  (store.providers.lookup provider.providerId).map Provider.verificationStatus

end Sample

/-- The back of a passport is not required, and costs no badge. -/
theorem badgeIsKept_passport :
    ∃ after, Sample.run Sample.washer .VALID_ID_BACK Sample.verified =
        some after ∧
      Sample.statusOf Sample.washer after = some .APPROVED := by
  have performed : (Sample.run Sample.washer .VALID_ID_BACK Sample.verified).isSome = true := by
    decide +kernel
  rcases Option.isSome_iff_exists.mp performed with ⟨after, ran⟩
  have about : Sample.verified.subject (.submitDocument "washer"
      (Sample.adds Sample.washer .VALID_ID_BACK) 1) = .ok Sample.washer :=
    rfl
  have begins : begin (.submitDocument "washer"
        (Sample.adds Sample.washer .VALID_ID_BACK) 1) Sample.verified =
      .ok (.upload Sample.washer (Sample.added .VALID_ID_BACK)) :=
    rfl
  have retains : Sample.verified.Retains 5 Sample.washer
      (.submitDocument "washer" (Sample.adds Sample.washer .VALID_ID_BACK) 1) :=
    ⟨by decide +kernel, supports_iff.mpr (by decide +kernel)⟩
  exact ⟨after, ran, (badgeIsKept rfl rfl about begins ran).mpr retains⟩

/-- A branch of the first set submits a document of the second. -/
theorem grandfatheredBadgeLost :
    ¬ ∀ (store after : Store) (provider : ResolvedProvider)
      (row : Provider) (user : Uid) (input : SubmitKycDocumentInput)
      (now : Instant) (call : Call) (earlier : List Tick)
      (reads writes : Tick),
      store.providers.lookup provider.providerId = some row →
      row.verificationStatus = .APPROVED →
      store.subject (.submitDocument user input now) = .ok provider →
      store.previous provider.providerId input.documentType = [] →
      begin (.submitDocument user input now) store = .ok call →
      kyc.alone (earlier ++ [reads, writes]) call store = some after →
      Sample.statusOf provider after = some .APPROVED := by
  intro always
  have performed : (Sample.run Sample.branch .DTI_CERTIFICATE
      Sample.grandfathered).map (Sample.statusOf Sample.branch) = some (some .PENDING) := by
    decide +kernel
  rcases Option.map_eq_some_iff.mp performed with ⟨after, ran, pending⟩
  have kept := always Sample.grandfathered after Sample.branch _ "merchant"
    (Sample.adds Sample.branch .DTI_CERTIFICATE) 1 _ _ _ _ rfl rfl rfl
    (by decide +kernel) rfl ran
  rw [pending] at kept
  cases kept

end Lalaba.Kyc
