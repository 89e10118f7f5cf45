import Lalaba.CourierVerification.Service
import Lalaba.Users.Account

/-!
# The account deletion service

A request locks an account out and schedules its erasure; a cancellation lifts both.
A sweep finds the accounts whose grace period is over and erases them one after the
other.  An erasure is a list of writes without a transaction; what one of them throws
ends the erasure of that account only.
-/

namespace Lalaba.AccountDeletion

open Foundation
open Users (AccountStatus)

/-! ## Collections -/

/-- The home address of a user; every part is absent by default. -/
structure HomeAddress where
  unit : Option String := none
  streetAddress : Option String := none
  barangayName : Option String := none
  barangayCode : Option String := none
  cityMunicipalityName : Option String := none
  cityMunicipalityCode : Option String := none
  provinceName : Option String := none
  provinceCode : Option String := none
  regionName : Option String := none
  regionCode : Option String := none
  zipCode : Option String := none
deriving DecidableEq

/-- The fields of a user document that a deletion reads or writes. -/
structure User where
  _id : Uid
  roleId : Option String
  accountStatus : AccountStatus := .ACTIVE
  isActive : Bool := true
  deletionRequestedAt : Option Instant := none
  deletionScheduledAt : Option Instant := none
  deletionCancelledAt : Option Instant := none
  deletedAt : Option Instant := none
  anonymizedAt : Option Instant := none
  firstName : String
  lastName : String
  email : String
  phoneNumber : String
  homeAddress : HomeAddress := {}
  fcmTokens : List String := []
deriving DecidableEq

structure Device where
  uid : Uid
  deviceName : String
deriving DecidableEq

/-- The fields of a washer profile that an erasure writes. -/
structure WasherProfile where
  uid : Uid
  displayName : String
  storeName : Option String
  phone : Option String
  photoUrl : Option String
  bio : Option String
  description : Option String
  logoUrl : Option String
  coverPhotoUrl : Option String
  address : Option BranchAddress
  mapLocation : Option MapLocation
  certProofUrls : Option (List String)
  legacyCertProofUrls : Option (List String)
  certProofObjectKeys : List String
  isAvailable : Bool
deriving DecidableEq

structure ActivityLog where
  actorId : Uid
  actorName : String
  actorEmail : String
deriving DecidableEq

/-- `customer` of an order, with the copies of personal data in it. -/
structure OrderCustomer where
  uid : Uid
  displayName : String
  maskedPhone : Option String
  address : Option BranchAddress
  mapLocation : Option MapLocation
  areaLabel : Option String
deriving DecidableEq

structure WasherBooking where
  customerId : Uid
  customerName : Option String
  customerPhone : Option String
deriving DecidableEq

/-- What an erasure has found, in numbers. -/
structure ProcessingSummary where
  userAnonymized : Bool := false
  devicesRemoved : ℕ := 0
  firebaseIdentityDeleted : Bool := false
  washerProfileScrubbed : Bool := false
  activityLogsRedacted : ℕ := 0
  onlineOrderSnapshotsRedacted : ℕ := 0
  legacyBookingContactRedacted : ℕ := 0
deriving DecidableEq

structure AccountDeletionRecord where
  uid : Uid
  roleId : Option String
  requestedAt : Instant
  scheduledAt : Instant
  cancelledAt : Option Instant := none
  cancelledBy : Option Uid := none
  completedAt : Option Instant := none
  processingSummary : ProcessingSummary := {}

/--
The collections, the identities that exist, the users that are cached, and the time.
The selfie fields of a user are those of `verification`.
-/
structure Store where
  users : Collection User
  verification : CourierVerification.Store
  devices : List Device
  washerProfiles : List WasherProfile
  activityLogs : List ActivityLog
  orders : List OrderCustomer
  bookings : List WasherBooking
  records : List AccountDeletionRecord
  identities : List Uid
  cached : List Uid
  clock : Instant

/-- `updateMany` of the rows that a filter selects. -/
def updateMany {Row : Type} (filter : Row → Bool) (set : Row → Row)
    (rows : List Row) : List Row :=
  rows.map fun row => if filter row then set row else row

/-- `deleteMany` of the rows that a filter selects. -/
def deleteMany {Row : Type} (filter : Row → Bool) (rows : List Row) :
    List Row :=
  rows.filter fun row => !filter row

namespace Store

/-- `findByIdAndUpdate` of a user. -/
def updateUser (uid : Uid) (set : User → User) (store : Store) : Store :=
  match store.users.lookup uid with
  | none => store
  | some user => { store with users := store.users.insert uid (set user) }

/-- `del` of a cached user. -/
def uncache (uid : Uid) (store : Store) : Store :=
  { store with cached := deleteMany (fun other => other == uid) store.cached }

def isOpen (uid : Uid) (record : AccountDeletionRecord) : Bool :=
  record.uid == uid && record.completedAt.isNone && record.cancelledAt.isNone

def due (now : Instant) (store : Store) : List Uid :=
  (store.users.entries.filter fun entry =>
    entry.2.accountStatus == .DELETION_PENDING && entry.2.deletionScheduledAt.any fun scheduledAt =>
        scheduledAt ≤ now).map Sigma.fst

end Store

def DELETION_GRACE_DAYS : ℕ := 30

def scheduledAt (now : Instant) : Instant := now + DELETION_GRACE_DAYS * 24 * 60 * 60 * 1000

def mayRequest : Option User → Except ServiceError User
  | none => .error (.notFound "User not found")
  | some existing =>
    match existing.accountStatus with
    | .DELETED =>
      .error (.badRequest "This account has already been deleted.")
    | .DELETION_PENDING =>
      .error (.badRequest "This account already has a pending deletion request.")
    | .ACTIVE => .ok existing

def assertNoBlockers : List String → Except ServiceError Unit
  | [] => .ok ()
  | messages =>
    .error (.badRequest ("Account cannot be deleted yet: " ++ " ".intercalate messages))

def mayCancel : Option User → Except ServiceError User
  | none => .error (.notFound "User not found")
  | some existing =>
    match existing.accountStatus with
    | .DELETION_PENDING => .ok existing
    | _ =>
      .error (.badRequest "This account does not have a pending deletion request.")

namespace User

def scheduled (now : Instant) (user : User) : User :=
  { user with
    isActive := false
    accountStatus := .DELETION_PENDING
    deletionRequestedAt := some now
    deletionScheduledAt := some (scheduledAt now)
    deletionCancelledAt := none }

def restored (now : Instant) (user : User) : User :=
  { user with
    isActive := true
    accountStatus := .ACTIVE
    deletionCancelledAt := some now
    deletionRequestedAt := none
    deletionScheduledAt := none }

end User

/-! ## Erasure -/

def ANONYMIZED_FIRST_NAME : String := "Deleted"

def ANONYMIZED_LAST_NAME : String := "User"

def ANONYMIZED_DISPLAY_NAME : String := "Deleted User"

def anonymizedEmail (uid : Uid) : String := "deleted_" ++ uid ++ "@deleted.lalaba.internal"

def User.anonymized (uid : Uid) (now : Instant) (user : User) : User :=
  { user with
    accountStatus := .DELETED
    isActive := false
    deletedAt := some now
    anonymizedAt := some now
    firstName := ANONYMIZED_FIRST_NAME
    lastName := ANONYMIZED_LAST_NAME
    email := anonymizedEmail uid
    phoneNumber := ""
    homeAddress := {}
    fcmTokens := [] }

def Store.anonymize (uid : Uid) (now : Instant) (store : Store) : Store :=
  match store.users.lookup uid with
  | none => store
  | some _ =>
    { store.updateUser uid (User.anonymized uid now) with
      verification := store.verification.updateAccount uid {} }

def WasherProfile.scrubbed (profile : WasherProfile) : WasherProfile where
  uid := profile.uid
  displayName := ANONYMIZED_DISPLAY_NAME
  storeName := none
  phone := none
  photoUrl := none
  bio := none
  description := none
  logoUrl := none
  coverPhotoUrl := none
  address := none
  mapLocation := none
  certProofUrls := some []
  legacyCertProofUrls := some []
  certProofObjectKeys := []
  isAvailable := false

def ActivityLog.redacted (log : ActivityLog) : ActivityLog where
  actorId := log.actorId
  actorName := ANONYMIZED_DISPLAY_NAME
  actorEmail := anonymizedEmail log.actorId

def OrderCustomer.redacted (customer : OrderCustomer) : OrderCustomer where
  uid := customer.uid
  displayName := ANONYMIZED_DISPLAY_NAME
  maskedPhone := none
  address := none
  mapLocation := none
  areaLabel := none

def WasherBooking.redacted (booking : WasherBooking) : WasherBooking where
  customerId := booking.customerId
  customerName := some ANONYMIZED_DISPLAY_NAME
  customerPhone := none

/-- What `deleteUser` answers; only a success and an absence count. -/
inductive IdentityReply where
  | deleted
  | userNotFound
  | failed

/-- The awaits of `eraseAccount`, those of the selfie service in it. -/
inductive Erasure where
  | user
  | cache
  | selfieObjects
  | selfieRows
  | devices
  | identity
  | washerProfile
  | activityLogs
  | orders
  | bookings
  | record
deriving DecidableEq

namespace Erasure

def all : List Erasure :=
  [user, cache, selfieObjects, selfieRows, devices, identity,
    washerProfile, activityLogs, orders, bookings, record]

/-- What `deleteUser` throws is caught within `eraseAccount`. -/
def caught : Erasure → Bool
  | identity => true
  | _ => false

/-- What one await does, and adds to the summary. -/
def apply (answers : String → Bool) (reply : IdentityReply) (uid : Uid)
    (now : Instant) : Erasure → Store × ProcessingSummary →
    Store × ProcessingSummary
  | user, (store, summary) =>
    (store.anonymize uid now, { summary with userAnonymized := true })
  | cache, (store, summary) => (store.uncache uid, summary)
  | selfieObjects, (store, summary) =>
    ({ store with
        verification := store.verification.eraseObjects answers uid }, summary)
  | selfieRows, (store, summary) =>
    ({ store with verification := store.verification.eraseRows uid }, summary)
  | devices, (store, summary) =>
    ({ store with
        devices := deleteMany (fun row => row.uid == uid) store.devices },
      { summary with
        devicesRemoved := store.devices.countP fun row =>
          row.uid == uid })
  | identity, (store, summary) =>
    match reply with
    | .deleted =>
      ({ store with
          identities := deleteMany (fun other => other == uid) store.identities },
        { summary with firebaseIdentityDeleted := true })
    | .userNotFound =>
      (store, { summary with firebaseIdentityDeleted := true })
    | .failed => (store, summary)
  | washerProfile, (store, summary) =>
    ({ store with
        washerProfiles := updateMany (fun row => row.uid == uid)
          WasherProfile.scrubbed store.washerProfiles },
      { summary with
        washerProfileScrubbed := store.washerProfiles.any fun row =>
          row.uid == uid })
  | activityLogs, (store, summary) =>
    ({ store with
        activityLogs := updateMany (fun row => row.actorId == uid)
          ActivityLog.redacted store.activityLogs },
      { summary with
        activityLogsRedacted := store.activityLogs.countP fun row =>
          row.actorId == uid })
  | orders, (store, summary) =>
    ({ store with
        orders := updateMany (fun row => row.uid == uid) OrderCustomer.redacted store.orders },
      { summary with
        onlineOrderSnapshotsRedacted := store.orders.countP fun row =>
          row.uid == uid })
  | bookings, (store, summary) =>
    ({ store with
        bookings := updateMany (fun row => row.customerId == uid)
          WasherBooking.redacted store.bookings },
      { summary with
        legacyBookingContactRedacted := store.bookings.countP fun row =>
          row.customerId == uid })
  | record, (store, summary) =>
    ({ store with
        records := updateMany (Store.isOpen uid) (fun row =>
            { row with
              completedAt := some now
              processingSummary := summary })
          store.records }, summary)

end Erasure

/-- What the world does during the erasure of one account. -/
structure Weather where
  throws : Erasure → Bool := fun _ => false
  answers : String → Bool := fun _ => true
  reply : IdentityReply := .deleted

namespace Weather

def stops (weather : Weather) (step : Erasure) : Bool := weather.throws step && !step.caught

/-- What an await does; `deleteUser` fails when it throws. -/
def run (weather : Weather) (uid : Uid) (now : Instant) (step : Erasure)
    (both : Store × ProcessingSummary) : Store × ProcessingSummary :=
  step.apply weather.answers (if weather.throws step then .failed else weather.reply) uid now both

/-- The awaits that are left of an erasure; `false` when it throws. -/
def runAll (weather : Weather) (uid : Uid) (now : Instant) :
    List Erasure → Store × ProcessingSummary → Store × Bool
  | [], both => (both.1, true)
  | step :: rest, both =>
    if weather.stops step then (both.1, false)
    else weather.runAll uid now rest (weather.run uid now step both)

end Weather

/-- `eraseAccount` on its own; `false` when it throws. -/
def eraseAccount (weather : Weather) (uid : Uid) (now : Instant)
    (store : Store) : Store × Bool :=
  weather.runAll uid now Erasure.all (store, {})

def eraseAccounts (weather : Uid → Weather) (now : Instant) :
    List Uid → Store → Store
  | [], store => store
  | uid :: rest, store =>
    eraseAccounts weather now rest (eraseAccount (weather uid) uid now store).1

/-- `processScheduledDeletions` on its own. -/
def processScheduledDeletions (weather : Uid → Weather) (now : Instant)
    (store : Store) : Store :=
  eraseAccounts weather now (store.due now) store

/-! ## Calls -/

/-- A sweep under way: the accounts it has still to erase, and its counts. -/
structure Sweep where
  now : Instant
  rest : List Uid
  processed : ℕ := 0
  failed : ℕ := 0
deriving DecidableEq

/-- A call, at the point where it waits. -/
inductive Call where
  /-- `processScheduledDeletions`, about to read the clock. -/
  | sweep
  | find (now : Instant)
  | erase (uid : Uid) (step : Erasure) (steps : List Erasure)
      (summary : ProcessingSummary) (sweep : Sweep)
  /-- `requestDeletion`, about to read the account. -/
  | request (uid : Uid)
  | block (uid : Uid) (existing : User)
  | schedule (uid : Uid) (existing : User) (now : Instant)
  | record (uid : Uid) (existing : User) (now : Instant)
  /-- `cancelDeletion`, about to read the account. -/
  | cancel (uid cancelledBy : Uid)
  | restore (uid cancelledBy : Uid) (now : Instant)
  | close (uid cancelledBy : Uid) (now : Instant)

inductive Request where
  | processScheduledDeletions
  | requestDeletion (uid : Uid)
  | cancelDeletion (uid cancelledBy : Uid)

/-- The time of a step, what stands in the way of a deletion, and the weather. -/
structure Tick where
  now : Instant
  blockers : List String := []
  weather : Weather := {}

def enter : Request → Store → Option Call
  | .processScheduledDeletions, _ => some .sweep
  | .requestDeletion uid, _ => some (.request uid)
  | .cancelDeletion uid cancelledBy, _ => some (.cancel uid cancelledBy)

def Sweep.turn (sweep : Sweep) : Option Call :=
  match sweep.rest with
  | [] => none
  | uid :: rest =>
    some (.erase uid .user Erasure.all.tail {} { sweep with rest })

/-- What a call does next, once the clock is set. -/
def proceed (tick : Tick) : Call → Store → Store × Option Call
  | .sweep, store => (store, some (.find store.clock))
  | .find now, store =>
    (store, Sweep.turn { now, rest := store.due now })
  | .erase uid step steps summary sweep, store =>
    if tick.weather.stops step then
      (store, Sweep.turn { sweep with failed := sweep.failed + 1 })
    else
      let done := tick.weather.run uid sweep.now step (store, summary)
      match steps with
      | [] =>
        (done.1, Sweep.turn { sweep with processed := sweep.processed + 1 })
      | next :: later =>
        (done.1, some (.erase uid next later done.2 sweep))
  | .request uid, store =>
    match mayRequest (store.users.lookup uid) with
    | .error _ => (store, none)
    | .ok existing => (store, some (.block uid existing))
  | .block uid existing, store =>
    match assertNoBlockers tick.blockers with
    | .error _ => (store, none)
    | .ok _ => (store, some (.schedule uid existing store.clock))
  | .schedule uid existing now, store =>
    match store.users.lookup uid with
    | none => (store, none)
    | some _ =>
      (store.updateUser uid (User.scheduled now), some (.record uid existing now))
  | .record uid existing now, store =>
    ({ store.uncache uid with
        records := store.records ++
          [{ uid
             roleId := existing.roleId
             requestedAt := now
             scheduledAt := scheduledAt now }] }, none)
  | .cancel uid cancelledBy, store =>
    match mayCancel (store.users.lookup uid) with
    | .error _ => (store, none)
    | .ok _ => (store, some (.restore uid cancelledBy store.clock))
  | .restore uid cancelledBy now, store =>
    (store.updateUser uid (User.restored now), some (.close uid cancelledBy now))
  | .close uid cancelledBy now, store =>
    ({ store.uncache uid with
        records := updateMany (Store.isOpen uid) (fun row =>
            { row with
              cancelledAt := some now
              cancelledBy := some cancelledBy })
          store.records }, none)

def resume (tick : Tick) (call : Call) (store : Store) :
    Option (Store × Option Call) :=
  if tick.now < store.clock then none
  else some (proceed tick call { store with clock := tick.now })

def deletion : Service Store Call Request Tick where
  enter := enter
  resume := resume

end Lalaba.AccountDeletion
