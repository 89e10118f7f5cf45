import Lalaba.AccountDeletion.Erasure
import Lalaba.Addresses.Service
import Lalaba.Chat.Service

/-!
# What is stored of a person

An erasure names fields one by one.  Here are the documents as they are stored, with
the data of a person that no write of an erasure names, and the collections that an
erasure does not open.
-/

namespace Lalaba.AccountDeletion

open Foundation
open Orders (AttemptEvidence OrderInstructions ProviderSnapshot)

structure StoredProfile extends WasherProfile where
  featuredPhotos : List String
  selfiePublicObjectKey : Option String

structure StoredLog extends ActivityLog where
  targetId : Option String
  targetName : Option String
  metadata : Option String

/-- An order with the parts that tell of its customer and its provider. -/
structure StoredOrder where
  customer : OrderCustomer
  provider : ProviderSnapshot
  instructions : OrderInstructions
  pickupAttempts : List AttemptEvidence
  deliveryAttempts : List AttemptEvidence

structure StoredBooking extends WasherBooking where
  pickupAddress : Option String
  deliveryAddress : Option String

/-- A conversation with the names in its header. -/
structure ConversationHeader extends Chat.Conversation where
  customerName : String
  providerName : String

/--
The collections that hold data of a person.  Wallets, point-of-sale records and the
documents of a verification are retained and left out.
-/
structure Database where
  users : Collection User
  verification : CourierVerification.Store
  devices : List Device
  washerProfiles : List StoredProfile
  activityLogs : List StoredLog
  orders : List StoredOrder
  bookings : List StoredBooking
  addresses : List Addresses.Address
  conversations : List ConversationHeader
  records : List AccountDeletionRecord
  identities : List Uid
  cached : List Uid
  clock : Instant

/-! ## Writes -/

namespace StoredProfile

def scrubbed (row : StoredProfile) : StoredProfile :=
  { row with toWasherProfile := row.toWasherProfile.scrubbed }

end StoredProfile

namespace StoredLog

def redacted (row : StoredLog) : StoredLog :=
  { row with toActivityLog := row.toActivityLog.redacted }

end StoredLog

namespace StoredOrder

def redacted (row : StoredOrder) : StoredOrder := { row with customer := row.customer.redacted }

end StoredOrder

namespace StoredBooking

def redacted (row : StoredBooking) : StoredBooking :=
  { row with toWasherBooking := row.toWasherBooking.redacted }

end StoredBooking

namespace Database

/-- What the writes of an erasure name of a database. -/
def store (db : Database) : Store where
  users := db.users
  verification := db.verification
  devices := db.devices
  washerProfiles := db.washerProfiles.map StoredProfile.toWasherProfile
  activityLogs := db.activityLogs.map StoredLog.toActivityLog
  orders := db.orders.map StoredOrder.customer
  bookings := db.bookings.map StoredBooking.toWasherBooking
  records := db.records
  identities := db.identities
  cached := db.cached
  clock := db.clock

def write (store : Store) (db : Database) : Database :=
  { db with
    users := store.users
    verification := store.verification
    devices := store.devices
    records := store.records
    identities := store.identities
    cached := store.cached
    clock := store.clock }

/-- What one await does to the documents, and adds to the summary. -/
def apply (answers : String → Bool) (reply : IdentityReply) (uid : Uid)
    (now : Instant) : Erasure → Database × ProcessingSummary →
    Database × ProcessingSummary
  | .washerProfile, (db, summary) =>
    ({ db with
        washerProfiles := updateMany (fun row => row.uid == uid)
          StoredProfile.scrubbed db.washerProfiles },
      { summary with
        washerProfileScrubbed := db.washerProfiles.any fun row =>
          row.uid == uid })
  | .activityLogs, (db, summary) =>
    ({ db with
        activityLogs := updateMany (fun row => row.actorId == uid)
          StoredLog.redacted db.activityLogs },
      { summary with
        activityLogsRedacted := db.activityLogs.countP fun row =>
          row.actorId == uid })
  | .orders, (db, summary) =>
    ({ db with
        orders := updateMany (fun row => row.customer.uid == uid) StoredOrder.redacted db.orders },
      { summary with
        onlineOrderSnapshotsRedacted := db.orders.countP fun row =>
          row.customer.uid == uid })
  | .bookings, (db, summary) =>
    ({ db with
        bookings := updateMany (fun row => row.customerId == uid)
          StoredBooking.redacted db.bookings },
      { summary with
        legacyBookingContactRedacted := db.bookings.countP fun row =>
          row.customerId == uid })
  | step, (db, summary) =>
    let done := step.apply answers reply uid now (db.store, summary)
    (db.write done.1, done.2)

/-- What an await does; `deleteUser` fails when it throws. -/
def run (weather : Weather) (uid : Uid) (now : Instant) (step : Erasure)
    (both : Database × ProcessingSummary) : Database × ProcessingSummary :=
  apply weather.answers
    (if weather.throws step then .failed else weather.reply) uid now step
    both

/-- The awaits that are left of an erasure; `false` when it throws. -/
def runAll (weather : Weather) (uid : Uid) (now : Instant) :
    List Erasure → Database × ProcessingSummary → Database × Bool
  | [], both => (both.1, true)
  | step :: rest, both =>
    if weather.stops step then (both.1, false)
    else runAll weather uid now rest (run weather uid now step both)

/-- `eraseAccount` on the documents; `false` when it throws. -/
def eraseAccount (weather : Weather) (uid : Uid) (now : Instant)
    (db : Database) : Database × Bool :=
  runAll weather uid now Erasure.all (db, {})

section

variable {Row Part : Type} {part : Row → Part} {filter : Part → Bool}
  {set : Row → Row} {setPart : Part → Part}

end

variable {answers : String → Bool} {reply : IdentityReply} {uid : Uid}
  {now : Instant} {weather : Weather} {db : Database}
  {summary : ProcessingSummary}

end Database

end Lalaba.AccountDeletion
