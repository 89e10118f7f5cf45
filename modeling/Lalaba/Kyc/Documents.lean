import Lalaba.CourierVerification.Service
import Mathlib.Data.List.Sort

/-!
# Documents of a provider

The evidence that a branch or a washer submits, the set that is required of it, and
the rule that derives the status of a provider from its live documents.
-/

namespace Lalaba.Kyc

open CourierVerification (LivenessChallenge LivenessMetadata)

inductive KycProviderType where
  | MERCHANT_BRANCH
  | WASHER
deriving DecidableEq

inductive KycDocumentType where
  | BUSINESS_PERMIT
  | OWNER_VALID_ID
  | DTI_CERTIFICATE
  | BIR_2303
  | BUSINESS_PHOTO_STOREFRONT
  | BUSINESS_PHOTO_INTERIOR
  | BUSINESS_PHOTO_MACHINES
  | VALID_ID
  | VALID_ID_BACK
  | BARANGAY_CLEARANCE
  | PROOF_OF_ADDRESS
  | SELFIE
deriving DecidableEq

inductive GovernmentIdType where
  | PHILSYS_NATIONAL_ID
  | DRIVERS_LICENSE
  | PASSPORT
  | UMID
  | SSS_ID
  | PHILHEALTH_ID
  | POSTAL_ID
  | VOTERS_ID
  | PRC_ID
  | TIN_ID
  | OTHER
deriving DecidableEq

def SINGLE_SIDED_GOVERNMENT_ID_TYPES : List GovernmentIdType := [.PASSPORT]

def GOVERNMENT_ID_DOCUMENT_TYPES : List KycDocumentType := [.VALID_ID, .OWNER_VALID_ID]

inductive KycExpiryPolicy where
  | NONE
  | OPTIONAL
  | REQUIRED
deriving DecidableEq

def KYC_DOCUMENT_EXPIRY_POLICY : KycDocumentType → KycExpiryPolicy
  | .BUSINESS_PERMIT => .REQUIRED
  | .BARANGAY_CLEARANCE => .REQUIRED
  | .OWNER_VALID_ID => .OPTIONAL
  | .VALID_ID => .OPTIONAL
  | .VALID_ID_BACK => .OPTIONAL
  | .PROOF_OF_ADDRESS => .OPTIONAL
  | .DTI_CERTIFICATE => .NONE
  | .BIR_2303 => .NONE
  | .BUSINESS_PHOTO_STOREFRONT => .NONE
  | .BUSINESS_PHOTO_INTERIOR => .NONE
  | .BUSINESS_PHOTO_MACHINES => .NONE
  | .SELFIE => .NONE

inductive KycRejectionReason where
  | BLURRY
  | WRONG_DOCUMENT
  | INCOMPLETE
  | DETAILS_MISMATCH
  | EXPIRED
  | OBSCURED
  | OTHER
deriving DecidableEq

/-- What a provider is told. -/
def KYC_REJECTION_REASON_TEXT : KycRejectionReason → String
  | .BLURRY =>
    "The image is too blurry to read. Please upload a clearer photo."
  | .WRONG_DOCUMENT =>
    "This is not the document we asked for. Please upload the correct one."
  | .INCOMPLETE =>
    "The document is incomplete — part of it is missing or cut off."
  | .DETAILS_MISMATCH =>
    "The details do not match your profile. Please check and re-upload."
  | .EXPIRED =>
    "This document has expired. Please upload a current one."
  | .OBSCURED =>
    "Required details are covered or unreadable. Please upload a full, unobstructed photo."
  | .OTHER => "This document needs to be replaced."

inductive KycDocumentStatus where
  | SUBMITTED
  | UNDER_REVIEW
  | APPROVED
  | REJECTED
  | SUPERSEDED
deriving DecidableEq

def REVIEWABLE_STATUSES : List KycDocumentStatus := [.SUBMITTED, .UNDER_REVIEW]

def KYC_POLICY_VERSION : ℕ := 2

def REQUIRED_KYC_DOCUMENT_TYPES :
    KycProviderType → List KycDocumentType
  | .MERCHANT_BRANCH =>
    [.OWNER_VALID_ID, .DTI_CERTIFICATE, .BIR_2303,
      .BUSINESS_PHOTO_STOREFRONT, .BUSINESS_PHOTO_INTERIOR, .BUSINESS_PHOTO_MACHINES]
  | .WASHER =>
    [.VALID_ID, .VALID_ID_BACK, .SELFIE, .PROOF_OF_ADDRESS, .BARANGAY_CLEARANCE]

def requiredKycDocumentTypes (providerType : KycProviderType)
    (governmentIdType : Option GovernmentIdType) : List KycDocumentType :=
  let required := REQUIRED_KYC_DOCUMENT_TYPES providerType
  match governmentIdType with
  | none => required
  | some kind =>
    if kind ∈ SINGLE_SIDED_GOVERNMENT_ID_TYPES then
      required.filter fun type => type ≠ .VALID_ID_BACK
    else required

def KYC_ALLOWED_DOCUMENT_TYPES : KycProviderType → List KycDocumentType
  | .MERCHANT_BRANCH =>
    REQUIRED_KYC_DOCUMENT_TYPES .MERCHANT_BRANCH ++ [.BUSINESS_PERMIT]
  | .WASHER => REQUIRED_KYC_DOCUMENT_TYPES .WASHER

structure KycDocument where
  providerId : ObjectId
  providerType : KycProviderType
  ownerUid : Uid
  documentType : KycDocumentType
  governmentIdType : Option GovernmentIdType
  storageObjectKey : String
  mimeType : String
  fileSizeBytes : ℕ
  status : KycDocumentStatus
  submittedAt : Instant
  expiresAt : Option Instant
  reviewedAt : Option Instant := none
  reviewedByUid : Option Uid := none
  rejectionReason : Option String := none
  rejectionReasonCode : Option KycRejectionReason := none
  rejectionNote : Option String := none
  claimedByUid : Option Uid := none
  claimedAt : Option Instant := none
  supersedesDocumentId : Option ObjectId
  livenessChallenge : Option LivenessChallenge
  livenessMetadata : Option LivenessMetadata
deriving DecidableEq

namespace KycDocument

def isReviewable (document : KycDocument) : Bool := document.status ∈ REVIEWABLE_STATUSES

def isLive (providerId : ObjectId) (document : KycDocument) : Bool :=
  document.providerId == providerId && document.status != .SUPERSEDED

end KycDocument

/-! ## The status of a provider -/

inductive VerificationStatus where
  | PENDING
  | IN_REVIEW
  | APPROVED
  | REJECTED
deriving DecidableEq

/-- What the documents of a provider come to. -/
structure Verdict where
  status : VerificationStatus
  rejectionReason : Option String := none

def latestFirst (documents : List KycDocument) : List KycDocument :=
  documents.insertionSort fun first second =>
    second.submittedAt ≤ first.submittedAt

def firstOfEachType (documents : List KycDocument) : List KycDocument :=
  documents.foldl (fun byType document =>
      if byType.any fun other =>
          other.documentType == document.documentType then byType
      else byType ++ [document])
    []

/-- `latestDocumentsByType`, of the live documents of a provider. -/
def latestDocumentsByType (live : List KycDocument) : List KycDocument :=
  firstOfEachType (latestFirst live)

def ofType (byType : List KycDocument) (type : KycDocumentType) :
    Option KycDocument :=
  byType.find? fun document => document.documentType == type

def claimedGovernmentIdType (documents : List KycDocument) :
    Option GovernmentIdType :=
  documents.findSome? fun document =>
    if document.status = .SUPERSEDED then none
    else if document.documentType ∈ GOVERNMENT_ID_DOCUMENT_TYPES then
      document.governmentIdType
    else none

def satisfiesRequirement (now : Instant) (document : Option KycDocument) :
    Bool :=
  document.any fun document =>
    document.status == .APPROVED &&
      !document.expiresAt.any fun expiresAt => decide (expiresAt ≤ now)

/-- The rule of `recomputeProviderVerification`, on the documents it has read. -/
def verdict (now : Instant) (providerType : KycProviderType)
    (live : List KycDocument) : Verdict :=
  let byType := latestDocumentsByType live
  let required := requiredKycDocumentTypes providerType (claimedGovernmentIdType byType)
  let rejected := (required.filterMap (ofType byType)).find? fun document =>
    document.status == .REJECTED
  match rejected with
  | some document =>
    { status := .REJECTED
      rejectionReason := document.rejectionReason }
  | none =>
    if required.all fun type =>
        satisfiesRequirement now (ofType byType type) then
      { status := .APPROVED }
    else if required.all fun type => (ofType byType type).isSome then
      { status := .IN_REVIEW }
    else
      { status := .PENDING }

section

variable {documents live : List KycDocument} {document : KycDocument}
  {type : KycDocumentType} {now later : Instant}
  {providerType : KycProviderType}

theorem mem_of_mem_firstOfEachType
    (member : document ∈ firstOfEachType documents) :
    document ∈ documents := by
  have general : ∀ rest byType : List KycDocument, document ∈ rest.foldl (fun byType document =>
          if byType.any fun other =>
              other.documentType == document.documentType then byType
          else byType ++ [document])
        byType →
      document ∈ byType ∨ document ∈ rest := by
    intro rest
    induction rest with
    | nil => exact fun _ found => .inl found
    | cons next rest induction =>
      intro byType found
      rw [List.foldl_cons] at found
      rcases induction _ found with listed | later
      · split at listed
        · exact .inl listed
        · rcases List.mem_append.mp listed with earlier | here
          · exact .inl earlier
          · cases List.mem_singleton.mp here
            exact .inr List.mem_cons_self
      · exact .inr (List.mem_cons_of_mem _ later)
  exact (general documents [] member).resolve_left List.not_mem_nil

theorem mem_of_ofType_latest
    (found : ofType (latestDocumentsByType live) type = some document) :
    document ∈ live ∧ document.documentType = type := by
  constructor
  · have listed := mem_of_mem_firstOfEachType (List.mem_of_find?_eq_some found)
    exact (List.mem_insertionSort _).mp listed
  · have same := List.find?_some found
    exact eq_of_beq same

theorem satisfiesRequirement_congr
    (unexpiring : ∀ document ∈ live, document.expiresAt = none) :
    satisfiesRequirement now (ofType (latestDocumentsByType live) type) =
      satisfiesRequirement later (ofType (latestDocumentsByType live) type) := by
  cases found : ofType (latestDocumentsByType live) type with
  | none => rfl
  | some document =>
    have lasting := unexpiring document (mem_of_ofType_latest found).1
    simp [satisfiesRequirement, lasting]

theorem verdict_congr
    (unexpiring : ∀ document ∈ live, document.expiresAt = none) :
    verdict now providerType live = verdict later providerType live := by
  have same : ∀ type,
      satisfiesRequirement now (ofType (latestDocumentsByType live) type) =
        satisfiesRequirement later (ofType (latestDocumentsByType live) type) :=
    fun _ => satisfiesRequirement_congr unexpiring
  simp only [verdict, same]

theorem verdict_approved_iff_satisfied :
    (verdict now providerType live).status = .APPROVED ↔
      ∀ type ∈ requiredKycDocumentTypes providerType
          (claimedGovernmentIdType (latestDocumentsByType live)),
        satisfiesRequirement now (ofType (latestDocumentsByType live) type) = true := by
  rw [verdict]
  split
  · rename_i document rejected
    have listed := List.mem_of_find?_eq_some rejected
    have status := List.find?_some rejected
    rcases List.mem_filterMap.mp listed with ⟨type, required, found⟩
    constructor
    · intro approved
      cases approved
    · intro all
      have satisfied := all type required
      rw [found, satisfiesRequirement, Option.any_some, Bool.and_eq_true,
        eq_of_beq status] at satisfied
      cases satisfied.1
  · split
    · rename_i all
      exact ⟨fun _ => List.all_eq_true.mp all, fun _ => rfl⟩
    · rename_i lacking
      constructor
      · intro approved
        split at approved <;> cases approved
      · exact fun all => (lacking (List.all_eq_true.mpr all)).elim

theorem verdict_nil : verdict now providerType [] = { status := .PENDING } := by
  cases providerType <;> rfl

end

end Lalaba.Kyc
