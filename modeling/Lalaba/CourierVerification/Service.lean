import Lalaba.Foundation.Interleaving
import Lalaba.Orders.Callbacks

/-!
# The courier verification service

A courier's liveness selfie goes live as soon as it is submitted: it is uploaded, the
selfie before it is retired, its row is inserted, and the courier's account is opened
with it.  A reviewer may take it down.  Every await is a step of its own.
-/

namespace Lalaba.CourierVerification

open Foundation
open Orders (trimmed)

/-! ## Collections -/

inductive CourierSelfieStatus where
  | ACTIVE
  | SUPERSEDED
  | REVOKED
deriving DecidableEq

inductive LivenessChallenge where
  | BLINK
  | TURN_LEFT
  | TURN_RIGHT
deriving DecidableEq

/-- What the check on the device has observed. -/
structure LivenessMetadata where
  durationMs : ℕ
  eyesOpenScore : ℚ
  yawDegrees : ℚ
  pitchDegrees : ℚ
  attemptCount : ℕ := 0
deriving DecidableEq

/-- What is stored of an image that has passed the checks on its bytes. -/
structure Submission where
  livenessChallenge : LivenessChallenge
  livenessMetadata : LivenessMetadata
  mimeType : String
  fileSizeBytes : ℕ
deriving DecidableEq

structure CourierSelfie where
  _id : ObjectId
  courierUid : Uid
  storageKey : String
  publicUrl : String
  status : CourierSelfieStatus
  livenessChallenge : LivenessChallenge
  livenessMetadata : LivenessMetadata
  mimeType : String
  fileSizeBytes : ℕ
  submittedAt : Instant
  revokedByUid : Option Uid := none
  revokedAt : Option Instant := none
  revocationReason : Option String := none
  supersedesId : Option ObjectId
deriving DecidableEq

/-- The selfie of a courier as the account shows it. -/
structure Account where
  photoUrl : Option String := none
  selfieStatus : Option CourierSelfieStatus := none
  selfieVerifiedAt : Option Instant := none
  selfieRevokedReason : Option String := none
deriving DecidableEq

/--
The rows, the accounts, and the keys of the bucket: those that were ever uploaded and
those that were deleted.
-/
structure Store where
  selfies : List CourierSelfie
  accounts : Uid → Account
  uploaded : List String
  deleted : List String

namespace Store

def empty : Store where
  selfies := []
  accounts _ := {}
  uploaded := []
  deleted := []

/-- `findOne` of the row of a courier that is live. -/
def activeSelfie (courierUid : Uid) (store : Store) :
    Option CourierSelfie :=
  store.selfies.find? fun row =>
    row.courierUid == courierUid && row.status == .ACTIVE

/-- `save` of a row that was read. -/
def updateSelfie (id : ObjectId) (change : CourierSelfie → CourierSelfie)
    (store : Store) : Store :=
  { store with
    selfies := store.selfies.map fun row =>
      if row._id = id then change row else row }

def insertSelfie (row : CourierSelfie) (store : Store) : Store :=
  { store with selfies := store.selfies ++ [row] }

/-- `findByIdAndUpdate` of an account. -/
def updateAccount (uid : Uid) (account : Account) (store : Store) : Store :=
  { store with accounts := Function.update store.accounts uid account }

/-- `delete` of an object; a failure is only logged. -/
def deleteObject (answers : Bool) (storageKey : String) (store : Store) :
    Store :=
  if answers then { store with deleted := storageKey :: store.deleted }
  else store

/-- `eraseForUser`, to its last object: what the courier's rows refer to. -/
def eraseObjects (answers : String → Bool) (courierUid : Uid)
    (store : Store) : Store :=
  let keys := (store.selfies.filter fun row =>
    row.courierUid == courierUid).map CourierSelfie.storageKey
  { store with
    deleted := keys.filter (fun key => key != "" && answers key) ++ store.deleted }

/-- `eraseForUser`, its `deleteMany`. -/
def eraseRows (courierUid : Uid) (store : Store) : Store :=
  { store with
    selfies := store.selfies.filter fun row => row.courierUid != courierUid }

end Store

namespace CourierSelfie

def superseded (row : CourierSelfie) : CourierSelfie := { row with status := .SUPERSEDED }

def revoked (reviewerUid : Uid) (now : Instant) (reason : String)
    (row : CourierSelfie) : CourierSelfie :=
  { row with
    status := .REVOKED
    revokedByUid := some reviewerUid
    revokedAt := some now
    revocationReason := some reason }

def opened (row : CourierSelfie) : Account where
  photoUrl := some row.publicUrl
  selfieStatus := some .ACTIVE
  selfieVerifiedAt := some row.submittedAt
  selfieRevokedReason := none

end CourierSelfie

def locked (reason : String) : Account where
  photoUrl := none
  selfieStatus := some .REVOKED
  selfieVerifiedAt := none
  selfieRevokedReason := some reason

/-! ## Calls -/

/-- A submission whose image is in the bucket. -/
structure Upload where
  courierUid : Uid
  submission : Submission
  storageKey : String
  publicUrl : String
deriving DecidableEq

/-- The row of an upload. -/
def Upload.selfie (id : ObjectId) (now : Instant)
    (previous : Option CourierSelfie) (upload : Upload) :
    CourierSelfie where
  _id := id
  courierUid := upload.courierUid
  storageKey := upload.storageKey
  publicUrl := upload.publicUrl
  status := .ACTIVE
  livenessChallenge := upload.submission.livenessChallenge
  livenessMetadata := upload.submission.livenessMetadata
  mimeType := upload.submission.mimeType
  fileSizeBytes := upload.submission.fileSizeBytes
  submittedAt := now
  supersedesId := previous.map CourierSelfie._id

/-- A call, at the point where it waits. -/
inductive Call where
  /-- `submitSelfie`, about to upload. -/
  | upload (courierUid : Uid) (submission : Submission)
  | find (upload : Upload)
  | retire (upload : Upload) (previous : CourierSelfie)
  | insert (upload : Upload) (previous : Option CourierSelfie)
  | present (created : CourierSelfie) (previous : Option CourierSelfie)
  /-- `revokeSelfie`, about to save the row it has read. -/
  | revoke (selfie : CourierSelfie) (reviewerUid : Uid) (reason : String)
  | lock (selfie : CourierSelfie) (reason : String)
  | discard (storageKey : String)

inductive Request where
  | submitSelfie (courierUid : Uid) (submission : Submission)
  | revokeSelfie (selfieId : ObjectId) (reviewerUid : Uid) (reason : String)

/-- The instant of a step, what is drawn in it, and whether the bucket answers. -/
structure Tick where
  now : Instant
  drawn : String
  answers : Bool := true

def selfieKey (courierUid : Uid) (uuid : String) : String :=
  "profiles/couriers/" ++ courierUid ++ "/" ++ uuid ++ ".jpg"

/-- A selfie that may be revoked. -/
def revocable (selfieId : ObjectId) (reason : String) (store : Store) :
    Except ServiceError CourierSelfie :=
  if trimmed reason = "" then
    .error (.badRequest "A reason is required to revoke a selfie.")
  else
    match store.selfies.find? fun row => row._id == selfieId with
    | none => .error (.notFound "Selfie not found")
    | some selfie =>
      if selfie.status = .REVOKED then
        .error (.badRequest "This selfie has already been revoked.")
      else
        .ok selfie

def enter : Request → Store → Option Call
  | .submitSelfie courierUid submission, _ =>
    some (.upload courierUid submission)
  | .revokeSelfie selfieId reviewerUid reason, store =>
    match revocable selfieId reason store with
    | .error _ => none
    | .ok selfie => some (.revoke selfie reviewerUid (trimmed reason))

/--
What a call does next.  An id and a key are never drawn twice; a second live row of
a courier is refused by the unique index.
-/
def resume (urlOf : String → String) (tick : Tick) :
    Call → Store → Option (Store × Option Call)
  | .upload courierUid submission, store =>
    let storageKey := selfieKey courierUid tick.drawn
    if storageKey ∈ store.uploaded then none
    else if tick.answers then
      some
        ({ store with uploaded := storageKey :: store.uploaded }, some (.find
            { courierUid
              submission
              storageKey
              publicUrl := urlOf storageKey }))
    else
      some (store, none)
  | .find upload, store =>
    match store.activeSelfie upload.courierUid with
    | some previous => some (store, some (.retire upload previous))
    | none => some (store, some (.insert upload none))
  | .retire upload previous, store =>
    some
      (store.updateSelfie previous._id CourierSelfie.superseded,
        some (.insert upload (some previous)))
  | .insert upload previous, store =>
    if tick.drawn ∈ store.selfies.map CourierSelfie._id then none
    else if (store.activeSelfie upload.courierUid).isSome then
      some (store, none)
    else
      let created := upload.selfie tick.drawn tick.now previous
      some (store.insertSelfie created, some (.present created previous))
  | .present created previous, store =>
    some
      (store.updateAccount created.courierUid created.opened,
        previous.map fun row => .discard row.storageKey)
  | .revoke selfie reviewerUid reason, store =>
    some
      (store.updateSelfie selfie._id
        (CourierSelfie.revoked reviewerUid tick.now reason), some
        (if selfie.status = .ACTIVE then .lock selfie reason
        else .discard selfie.storageKey))
  | .lock selfie reason, store =>
    some
      (store.updateAccount selfie.courierUid (locked reason), some (.discard selfie.storageKey))
  | .discard storageKey, store =>
    some (store.deleteObject tick.answers storageKey, none)

def verification (urlOf : String → String) : Service Store Call Request Tick where
  enter := enter
  resume := resume urlOf

end Lalaba.CourierVerification
