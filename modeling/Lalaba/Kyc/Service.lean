import Lalaba.Foundation.Snapshot
import Lalaba.Kyc.Documents

/-!
# The verification of providers

A provider submits documents; a submission replaces the document of its type that was
live.  Reviewers claim, release, approve and reject them.  A submission and a decision
derive the status of the provider anew.  Every await is a step of its own; what only the
audit trail and the notifications show is left out, and so is the public copy of a
washer's selfie, which can fail nothing.
-/

namespace Lalaba.Kyc

open Foundation
open Foundation.Snapshot (mapRows)
open CourierVerification (LivenessChallenge LivenessMetadata)
open Orders (trimmed)

/-! ## Collections -/

/-- The verification of a branch or of a washer's profile. -/
structure Provider where
  providerType : KycProviderType
  ownerUid : Uid
  verificationStatus : VerificationStatus := .PENDING
  verifiedAt : Option Instant := none
  verifiedBy : Option Uid := none
  rejectionReason : Option String := none
  verificationPolicyVersion : Option ℕ := none

/-- The documents, and the providers of both types: an id is never drawn twice. -/
structure Store where
  documents : Collection KycDocument
  providers : Collection Provider

/-- A provider as a call has read it. -/
structure ResolvedProvider where
  providerId : ObjectId
  providerType : KycProviderType
  ownerUid : Uid
deriving DecidableEq

/-- A document as a call has read it. -/
structure Document where
  id : ObjectId
  values : KycDocument
deriving DecidableEq

namespace Store

/-- `find` of documents: ids and rows. -/
def find (matching : KycDocument → Bool) (store : Store) :
    List ((_ : ObjectId) × KycDocument) :=
  store.documents.entries.filter fun entry => matching entry.2

def live (providerId : ObjectId) (store : Store) : List KycDocument :=
  (store.find (KycDocument.isLive providerId)).map Sigma.snd

/-- `findById`, in the collection of a type. -/
def findProvider (providerType : KycProviderType) (providerId : ObjectId)
    (store : Store) : Option Provider :=
  (store.providers.lookup providerId).filter fun provider =>
    provider.providerType = providerType

def insertDocument (id : ObjectId) (row : KycDocument) (store : Store) :
    Store :=
  { store with documents := store.documents.insert id row }

/-- `updateMany` of documents by their ids. -/
def updateMany (ids : List ObjectId) (change : KycDocument → KycDocument)
    (store : Store) : Store :=
  { store with
    documents := mapRows (fun id row => if id ∈ ids then change row else row) store.documents }

/-- `findByIdAndUpdate` of a provider. -/
def updateProvider (providerId : ObjectId) (change : Provider → Provider)
    (store : Store) : Store :=
  { store with
    providers := mapRows
      (fun id row => if id = providerId then change row else row)
      store.providers }

end Store

/-- A path that `save` writes only when it was assigned another value. -/
def modified {Value : Type} [DecidableEq Value]
    (read assigned stored : Value) : Value :=
  if assigned = read then stored else assigned

namespace KycDocument

/-- `save` of a document that was read and then assigned to. -/
def saved (read assigned row : KycDocument) : KycDocument :=
  { row with
    status := modified read.status assigned.status row.status
    reviewedAt := modified read.reviewedAt assigned.reviewedAt row.reviewedAt
    reviewedByUid := modified read.reviewedByUid assigned.reviewedByUid row.reviewedByUid
    rejectionReason := modified read.rejectionReason assigned.rejectionReason row.rejectionReason
    rejectionReasonCode :=
      modified read.rejectionReasonCode assigned.rejectionReasonCode row.rejectionReasonCode
    rejectionNote := modified read.rejectionNote assigned.rejectionNote row.rejectionNote
    claimedByUid := modified read.claimedByUid assigned.claimedByUid row.claimedByUid
    claimedAt := modified read.claimedAt assigned.claimedAt row.claimedAt }

def superseded (row : KycDocument) : KycDocument :=
  { row with
    status := .SUPERSEDED
    claimedByUid := none
    claimedAt := none }

def claimed (reviewerUid : Uid) (now : Instant) (row : KycDocument) :
    KycDocument :=
  { row with
    status := .UNDER_REVIEW
    claimedByUid := some reviewerUid
    claimedAt := some now }

def released (row : KycDocument) : KycDocument :=
  { row with
    status := .SUBMITTED
    claimedByUid := none
    claimedAt := none }

def approved (reviewerUid : Uid) (now : Instant) (row : KycDocument) :
    KycDocument :=
  { row with
    status := .APPROVED
    reviewedAt := some now
    reviewedByUid := some reviewerUid
    rejectionReason := none
    claimedByUid := none
    claimedAt := none }

def rejected (reviewerUid : Uid) (now : Instant)
    (reasonCode : KycRejectionReason) (note : Option String)
    (reason : String) (row : KycDocument) : KycDocument :=
  { row with
    status := .REJECTED
    reviewedAt := some now
    reviewedByUid := some reviewerUid
    rejectionReason := some reason
    rejectionReasonCode := some reasonCode
    rejectionNote := note
    claimedByUid := none
    claimedAt := none }

end KycDocument

/-- `setProviderVerification`. -/
def Provider.verified (verdict : Verdict) (reviewerUid : Option Uid)
    (now : Instant) (row : Provider) : Provider :=
  { row with
    verificationStatus := verdict.status
    verifiedAt := if verdict.status = .APPROVED then some now else none
    verifiedBy := if verdict.status = .APPROVED then reviewerUid else none
    rejectionReason := verdict.rejectionReason
    verificationPolicyVersion :=
      if verdict.status = .APPROVED then some KYC_POLICY_VERSION else none }

/-! ## Submissions -/

structure SubmitKycDocumentInput where
  providerType : KycProviderType
  providerId : Option ObjectId
  documentType : KycDocumentType
  base64 : String
  mimeType : String
  governmentIdType : Option GovernmentIdType := none
  expiresAt : Option Instant := none
  livenessChallenge : Option LivenessChallenge := none
  livenessMetadata : Option LivenessMetadata := none

/-- A submission that has passed its checks. -/
structure Submission where
  documentType : KycDocumentType
  governmentIdType : Option GovernmentIdType
  expiresAt : Option Instant
  mimeType : String
  extension : String
  fileSizeBytes : ℕ
  livenessChallenge : Option LivenessChallenge
  livenessMetadata : Option LivenessMetadata
deriving DecidableEq

def KYC_MIME_EXTENSIONS : List (String × String) :=
  [("image/jpeg", "jpg"),
    ("image/jpg", "jpg"),
    ("image/png", "png"),
    ("image/webp", "webp"),
    ("image/heic", "heic"),
    ("application/pdf", "pdf"),
    ("application/vnd.openxmlformats-officedocument.wordprocessingml.document", "docx")]

def MAX_BASE64_LENGTH : ℕ := 7 * 1024 * 1024

def base64Data (base64 : String) : List Char :=
  if ',' ∈ base64.toList then
    ((base64.toList.dropWhile (· ≠ ',')).drop 1).takeWhile (· ≠ ',')
  else base64.toList

def isBase64 (character : Char) : Bool :=
  character.isAlphanum || character == '+' || character == '/' || character == '='

/-- `Buffer.from(data, 'base64').length`. -/
def decodedLength (data : List Char) : ℕ := (data.takeWhile (· ≠ '=')).length * 3 / 4

def decoded (base64 : String) : Except ServiceError ℕ :=
  let data := base64Data base64
  if data = [] ∨ ¬ data.all isBase64 then
    .error (.badRequest "The uploaded file is corrupted or invalid.")
  else if MAX_BASE64_LENGTH < data.length then
    .error (.badRequest "File exceeds the 5 MB size limit")
  else
    .ok (decodedLength data)

def KycProviderType.name : KycProviderType → String
  | .MERCHANT_BRANCH => "MERCHANT_BRANCH"
  | .WASHER => "WASHER"

def KycDocumentType.name : KycDocumentType → String
  | .BUSINESS_PERMIT => "BUSINESS_PERMIT"
  | .OWNER_VALID_ID => "OWNER_VALID_ID"
  | .DTI_CERTIFICATE => "DTI_CERTIFICATE"
  | .BIR_2303 => "BIR_2303"
  | .BUSINESS_PHOTO_STOREFRONT => "BUSINESS_PHOTO_STOREFRONT"
  | .BUSINESS_PHOTO_INTERIOR => "BUSINESS_PHOTO_INTERIOR"
  | .BUSINESS_PHOTO_MACHINES => "BUSINESS_PHOTO_MACHINES"
  | .VALID_ID => "VALID_ID"
  | .VALID_ID_BACK => "VALID_ID_BACK"
  | .BARANGAY_CLEARANCE => "BARANGAY_CLEARANCE"
  | .PROOF_OF_ADDRESS => "PROOF_OF_ADDRESS"
  | .SELFIE => "SELFIE"

def SubmitKycDocumentInput.expiry (input : SubmitKycDocumentInput) :
    Option Instant :=
  if KYC_DOCUMENT_EXPIRY_POLICY input.documentType = .NONE then none
  else input.expiresAt

/-- The checks of `submitDocument`. -/
def checked (now : Instant) (input : SubmitKycDocumentInput) :
    Except ServiceError Submission :=
  let isGovernmentId := input.documentType ∈ GOVERNMENT_ID_DOCUMENT_TYPES
  if input.documentType ∉ KYC_ALLOWED_DOCUMENT_TYPES input.providerType then
    .error (.badRequest
      ("Document type " ++ input.documentType.name ++
        " does not apply to " ++ input.providerType.name ++ "."))
  else if isGovernmentId ∧ input.governmentIdType = none then
    .error (.badRequest "Select which government-issued ID this is before uploading it.")
  else if KYC_DOCUMENT_EXPIRY_POLICY input.documentType = .REQUIRED ∧
      input.expiresAt = none then
    .error (.badRequest "An expiry date is required for this document.")
  else if input.expiry.any fun expiresAt => decide (expiresAt ≤ now) then
    .error (.badRequest "This document has already expired. Upload a currently valid one.")
  else
    match KYC_MIME_EXTENSIONS.lookup input.mimeType with
    | none =>
      .error (.badRequest
        "File type not supported. Upload an image (JPG/PNG/HEIC), PDF, or Word document (.docx).")
    | some extension =>
      (decoded input.base64).map fun fileSizeBytes =>
        { documentType := input.documentType
          governmentIdType :=
            if isGovernmentId then input.governmentIdType else none
          expiresAt := input.expiry
          mimeType := input.mimeType
          extension
          fileSizeBytes
          -- The liveness check is recorded with a selfie only.
          livenessChallenge :=
            if input.documentType = .SELFIE then input.livenessChallenge
            else none
          livenessMetadata :=
            if input.documentType = .SELFIE then input.livenessMetadata
            else none }

def storageKey (provider : ResolvedProvider) (uuid : String)
    (submission : Submission) : String :=
  "kyc/" ++ provider.providerType.name.toLower ++ "/" ++
    provider.providerId ++ "/" ++ submission.documentType.name.toLower ++
    "/" ++ uuid ++ "." ++ submission.extension

/-- The row of a submission. -/
def Submission.document (provider : ResolvedProvider)
    (storageObjectKey : String) (now : Instant)
    (previous : List ObjectId) (submission : Submission) :
    KycDocument where
  providerId := provider.providerId
  providerType := provider.providerType
  ownerUid := provider.ownerUid
  documentType := submission.documentType
  governmentIdType := submission.governmentIdType
  storageObjectKey := storageObjectKey
  mimeType := submission.mimeType
  fileSizeBytes := submission.fileSizeBytes
  status := .SUBMITTED
  submittedAt := now
  expiresAt := submission.expiresAt
  supersedesDocumentId := previous.head?
  livenessChallenge := submission.livenessChallenge
  livenessMetadata := submission.livenessMetadata

def KycDocument.isLiveOf (providerId : ObjectId)
    (documentType : KycDocumentType) (row : KycDocument) : Bool :=
  row.isLive providerId && row.documentType == documentType

def Store.previous (providerId : ObjectId)
    (documentType : KycDocumentType) (store : Store) : List ObjectId :=
  ((store.find (KycDocument.isLiveOf providerId documentType)).insertionSort
    fun first second =>
      second.2.submittedAt ≤ first.2.submittedAt).map Sigma.fst

def Store.washerProfile (uid : Uid) (store : Store) :
    Option ((_ : ObjectId) × Provider) :=
  store.providers.entries.find? fun entry =>
    entry.2.providerType == .WASHER && entry.2.ownerUid == uid

/-- `resolveOwnedProvider`; an empty id is no id. -/
def resolveOwnedProvider (user : Uid) (providerType : KycProviderType)
    (providerId : Option ObjectId) (store : Store) :
    Except ServiceError ResolvedProvider :=
  let named := providerId.filter (· ≠ "")
  match providerType with
  | .MERCHANT_BRANCH =>
    match named with
    | none =>
      .error (.badRequest "providerId (branch) is required for merchant KYC.")
    | some branchId =>
      match store.findProvider .MERCHANT_BRANCH branchId with
      | none => .error (.notFound "Branch not found")
      | some branch =>
        if branch.ownerUid ≠ user then
          .error (.forbidden "You can only manage KYC documents for your own branch.")
        else
          .ok
            { providerId := branchId
              providerType
              ownerUid := branch.ownerUid }
  | .WASHER =>
    match store.washerProfile user with
    | none => .error (.notFound "Washer profile not found")
    | some ⟨profileId, profile⟩ =>
      if named.any (· ≠ profileId) then
        .error (.forbidden "You can only manage KYC documents for your own washer profile.")
      else
        .ok
          { providerId := profileId
            providerType
            ownerUid := profile.ownerUid }

/-- `loadProviderForDocument` and `loadProviderIdentity`. -/
def loadProvider (providerType : KycProviderType) (providerId : ObjectId)
    (store : Store) : Except ServiceError ResolvedProvider :=
  match store.findProvider providerType providerId with
  | some provider =>
    .ok { providerId, providerType, ownerUid := provider.ownerUid }
  | none =>
    match providerType with
    | .MERCHANT_BRANCH => .error (.notFound "Branch not found")
    | .WASHER => .error (.notFound "Washer profile not found")

/-- What a reviewer does to one document. -/
inductive Review where
  | claimDocumentForReview
  | approveDocument
  | rejectDocument (reasonCode : KycRejectionReason) (note : Option String) (reason : String)
deriving DecidableEq

/-- The checks of `rejectDocument` on its reason: a note, unless it is blank. -/
def rejection (reasonCode : KycRejectionReason) (note : Option String) :
    Except ServiceError Review :=
  let standard := KYC_REJECTION_REASON_TEXT reasonCode
  match (note.map trimmed).filter (· ≠ "") with
  | none =>
    if reasonCode = .OTHER then
      .error (.badRequest "Describe what needs fixing when the reason is \"Other\".")
    else .ok (.rejectDocument reasonCode none standard)
  | some text =>
    .ok (.rejectDocument reasonCode (some text) (standard ++ " " ++ text))

def Review.assigned (reviewerUid : Uid) (now : Instant)
    (values : KycDocument) : Review → KycDocument
  | .claimDocumentForReview => values.claimed reviewerUid now
  | .approveDocument => values.approved reviewerUid now
  | .rejectDocument reasonCode note reason =>
    values.rejected reviewerUid now reasonCode note reason

def heldByOther (reviewerUid : Uid) (row : KycDocument) : Bool :=
  row.claimedByUid.any (· ≠ reviewerUid)

def KycDocumentStatus.name : KycDocumentStatus → String
  | .SUBMITTED => "SUBMITTED"
  | .UNDER_REVIEW => "UNDER_REVIEW"
  | .APPROVED => "APPROVED"
  | .REJECTED => "REJECTED"
  | .SUPERSEDED => "SUPERSEDED"

/--
The checks of a review, on the document and the provider it has read; `none` when the
document is the reviewer's already.
-/
def reviewable (reviewerUid : Uid) (provider : ResolvedProvider)
    (values : KycDocument) (review : Review) :
    Except ServiceError (Option Review) :=
  if provider.ownerUid = reviewerUid then
    .error (.forbidden "You cannot review your own KYC documents.")
  else if !values.isReviewable then
    .error (.badRequest ("Document is " ++ values.status.name ++ " and can no longer be reviewed."))
  else if review ≠ .claimDocumentForReview then .ok (some review)
  else if values.claimedByUid = some reviewerUid then .ok none
  else if heldByOther reviewerUid values then
    .error (.forbidden "This document is already being reviewed by another reviewer.")
  else .ok (some review)

def isOpen (providerType : KycProviderType) (providerId : ObjectId)
    (row : KycDocument) : Bool :=
  row.providerId == providerId && row.providerType == providerType && row.isReviewable

def isMine (providerType : KycProviderType) (providerId : ObjectId)
    (reviewerUid : Uid) (row : KycDocument) : Bool :=
  row.providerId == providerId && row.providerType == providerType &&
    row.claimedByUid == some reviewerUid

/-- A call, at the point where it waits. -/
inductive Call where
  /-- `submitDocument`, about to upload its file. -/
  | upload (provider : ResolvedProvider) (submission : Submission)
  | find (provider : ResolvedProvider) (submission : Submission) (storageObjectKey : String)
  | create (provider : ResolvedProvider) (submission : Submission)
      (storageObjectKey : String) (previous : List ObjectId)
  | supersede (provider : ResolvedProvider) (previous : List ObjectId)
  | load (reviewerUid : Uid) (document : Document) (review : Review)
  | save (reviewerUid : Uid) (provider : ResolvedProvider) (document : Document) (review : Review)
  /-- `recomputeProviderVerification`, about to read the live documents. -/
  | recompute (provider : ResolvedProvider) (reviewerUid : Option Uid)
  | setProviderVerification (provider : ResolvedProvider)
      (reviewerUid : Option Uid) (readAt : Instant)
      (live : List KycDocument)
  /-- `claimCaseForReview`, about to look for the documents of the case. -/
  | findOpen (reviewerUid : Uid) (providerType : KycProviderType) (providerId : ObjectId)
  | claimCase (reviewerUid : Uid) (found : List ObjectId)
  /-- `releaseCase`, about to look for the documents it holds. -/
  | findMine (reviewerUid : Uid) (providerType : KycProviderType) (providerId : ObjectId)
  | release (mine : List ObjectId)

inductive Request where
  | submitDocument (user : Uid) (input : SubmitKycDocumentInput) (now : Instant)
  | claimDocumentForReview (reviewer : Uid) (documentId : ObjectId)
  | approveDocument (reviewer : Uid) (documentId : ObjectId)
  | rejectDocument (reviewer : Uid) (documentId : ObjectId)
      (reasonCode : KycRejectionReason) (note : Option String)
  | claimCaseForReview (reviewer : Uid) (providerType : KycProviderType) (providerId : ObjectId)
  | releaseCase (reviewer : Uid) (providerType : KycProviderType) (providerId : ObjectId)

/-- The instant of a step, what is drawn in it, and whether the storage answers. -/
structure Tick where
  now : Instant
  drawn : String
  answers : Bool := true

def startReview (reviewer : Uid) (documentId : ObjectId)
    (review : Review) (store : Store) : Except ServiceError Call :=
  match store.documents.lookup documentId with
  | none => .error (.notFound "KYC document not found")
  | some values =>
    .ok (.load reviewer { id := documentId, values } review)

/-- What a call does first. -/
def begin : Request → Store → Except ServiceError Call
  | .submitDocument user input now, store =>
    match resolveOwnedProvider user input.providerType input.providerId store with
    | .error error => .error error
    | .ok provider => (checked now input).map (.upload provider)
  | .claimDocumentForReview reviewer documentId, store =>
    startReview reviewer documentId .claimDocumentForReview store
  | .approveDocument reviewer documentId, store =>
    startReview reviewer documentId .approveDocument store
  | .rejectDocument reviewer documentId reasonCode note, store =>
    match rejection reasonCode note with
    | .error error => .error error
    | .ok review => startReview reviewer documentId review store
  | .claimCaseForReview reviewer providerType providerId, store =>
    match loadProvider providerType providerId store with
    | .error error => .error error
    | .ok provider =>
      if provider.ownerUid = reviewer then
        .error (.forbidden "You cannot review your own KYC case.")
      else .ok (.findOpen reviewer providerType providerId)
  | .releaseCase reviewer providerType providerId, store =>
    (loadProvider providerType providerId store).map fun _ =>
      .findMine reviewer providerType providerId

/-- What a call does next.  An id is never drawn twice. -/
def resume (tick : Tick) : Call → Store → Option (Store × Option Call)
  | .upload provider submission, store =>
    if tick.answers then
      some (store, some (.find provider submission (storageKey provider tick.drawn submission)))
    else some (store, none)
  | .find provider submission storageObjectKey, store =>
    some (store, some (.create provider submission storageObjectKey
        (store.previous provider.providerId submission.documentType)))
  | .create provider submission storageObjectKey previous, store =>
    if tick.drawn ∈ store.documents then none
    else
      some
        (store.insertDocument tick.drawn
          (submission.document provider storageObjectKey tick.now previous), some
          (if previous = [] then .recompute provider none
          else .supersede provider previous))
  | .supersede provider previous, store =>
    some (store.updateMany previous KycDocument.superseded, some (.recompute provider none))
  | .load reviewerUid document review, store =>
    match loadProvider document.values.providerType document.values.providerId store with
    | .error _ => some (store, none)
    | .ok provider =>
      match reviewable reviewerUid provider document.values review with
      | .ok (some review) =>
        some (store, some (.save reviewerUid provider document review))
      | _ => some (store, none)
  | .save reviewerUid provider document review, store =>
    some
      (store.updateMany [document.id] (KycDocument.saved document.values
        (review.assigned reviewerUid tick.now document.values)),
      match review with
      | .claimDocumentForReview => none
      | .approveDocument => some (.recompute provider (some reviewerUid))
      | .rejectDocument _ _ _ => some (.recompute provider none))
  | .recompute provider reviewerUid, store =>
    some (store, some (.setProviderVerification provider reviewerUid tick.now
        (store.live provider.providerId)))
  | .setProviderVerification provider reviewerUid readAt live, store =>
    some
      (store.updateProvider provider.providerId
        (Provider.verified (verdict readAt provider.providerType live) reviewerUid readAt), none)
  | .findOpen reviewerUid providerType providerId, store =>
    let found := store.find (isOpen providerType providerId)
    -- Nothing to review, held by another, or the reviewer's already.
    if found = [] ∨ found.any (fun entry =>
          heldByOther reviewerUid entry.2) ∨
        found.all (fun entry =>
          entry.2.claimedByUid == some reviewerUid) then
      some (store, none)
    else
      some (store, some (.claimCase reviewerUid (found.map Sigma.fst)))
  | .claimCase reviewerUid found, store =>
    some (store.updateMany found (KycDocument.claimed reviewerUid tick.now), none)
  | .findMine reviewerUid providerType providerId, store =>
    let mine := store.find (isMine providerType providerId reviewerUid)
    if mine = [] then some (store, none)
    else some (store, some (.release (mine.map Sigma.fst)))
  | .release mine, store =>
    some (store.updateMany mine KycDocument.released, none)

def kyc : Service Store Call Request Tick where
  enter request store := (begin request store).toOption
  resume := resume

end Lalaba.Kyc
