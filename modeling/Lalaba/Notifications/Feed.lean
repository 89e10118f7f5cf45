import Lalaba.Common
import Lalaba.Foundation.Interleaving
import Lalaba.Foundation.Snapshot

/-!
# The read state of the notification feed

A direct notification carries its own time of reading; a notification of a branch is
shared, and each reader has a row for having read it.  "Mark all read" writes one
watermark for the account and deletes the rows that the watermark replaces.  Every
await is a step of its own.
-/

namespace Lalaba.Notifications

open Foundation
open Foundation.Snapshot

/-! ## Collections -/

inductive NotificationAudience where
  | USER
  | BRANCH
deriving DecidableEq

structure Notification where
  audience : NotificationAudience
  uid : Option Uid
  branchId : Option ObjectId
  requiredPermission : Option String
  createdAt : Instant
  expiresAt : Instant
  readAt : Option Instant
deriving DecidableEq

/-- A reader's row for one notification of a branch. -/
structure NotificationRead where
  expiresAt : Instant
  createdAt : Instant

/--
The notifications by their ids, and what one account has read: its watermark, and its
rows by the notification they are for.  The clock is the time of the last step.
-/
structure Store where
  notifications : Collection Notification
  readAllBefore : Option Instant
  reads : Collection NotificationRead
  clock : Instant

/-- What an account may see. -/
structure FeedScope where
  branchIds : List ObjectId
  granted : List String
deriving DecidableEq

/-- `visibilityFilter`, for an account. -/
def visible (uid : Uid) (scope : FeedScope) (now : Instant)
    (row : Notification) : Bool :=
  decide (now < row.expiresAt) &&
    match row.audience with
    | .USER => row.uid == some uid
    | .BRANCH =>
      (row.branchId.any fun branchId => scope.branchIds.elem branchId) &&
        row.requiredPermission.all fun permission =>
          scope.granted.elem permission

namespace Store

/-- `findOne` of a notification that is there by now and may be seen. -/
def findVisible (uid : Uid) (id : ObjectId) (scope : FeedScope)
    (store : Store) : Option Notification :=
  (store.notifications.lookup id).filter fun row =>
    decide (row.createdAt ≤ store.clock) && visible uid scope store.clock row

def underWatermark (row : Notification) (store : Store) : Bool :=
  store.readAllBefore.any fun watermark => row.createdAt ≤ watermark

/-- `resolveReadState`, of one row. -/
def resolveReadState (id : ObjectId) (row : Notification)
    (store : Store) : Bool :=
  match row.audience with
  | .USER => row.readAt.isSome || store.underWatermark row
  | .BRANCH => store.underWatermark row || (store.reads.lookup id).isSome

/-- `updateOne` of a direct notification that is not read yet. -/
def stamp (id : ObjectId) (store : Store) : Store :=
  { store with
    notifications := mapRows (fun other row =>
        if other = id ∧ row.readAt = none then
          { row with readAt := some store.clock }
        else row)
      store.notifications }

/-- `updateOne` with `upsert`: the row of a reader is only inserted. -/
def record (id : ObjectId) (expiresAt : Instant) (store : Store) : Store :=
  if (store.reads.lookup id).isSome then store
  else
    { store with
      reads := store.reads.insert id { expiresAt, createdAt := store.clock } }

/-- `$set` of the watermark. -/
def moveCursor (now : Instant) (store : Store) : Store := { store with readAllBefore := some now }

/-- `updateMany` of the direct notifications up to this time. -/
def stampAll (uid : Uid) (now : Instant) (store : Store) : Store :=
  { store with
    notifications := mapRows (fun _ row =>
        if row.audience = .USER ∧ row.uid = some uid ∧ row.readAt = none ∧
            row.createdAt ≤ now then
          { row with readAt := some now }
        else row)
      store.notifications }

/-- `deleteMany` of the rows up to this time. -/
def deleteReads (now : Instant) (store : Store) : Store :=
  { store with
    reads :=
      ⟨store.reads.entries.filter fun entry =>
          decide (now < entry.2.createdAt),
        (List.filter_sublist.map Sigma.fst).nodup store.reads.nodupKeys⟩ }

end Store

/-! ## Calls -/

/-- A call of the account, at the point where it waits. -/
inductive Call where
  /-- `markNotificationRead`, about to look for the notification. -/
  | find (id : ObjectId) (scope : FeedScope)
  | stamp (id : ObjectId)
  | record (id : ObjectId) (expiresAt : Instant)
  /-- `markAllNotificationsRead`, about to take its time. -/
  | start
  | moveCursor (now : Instant)
  | collapse (now : Instant)
  | stampAll (now : Instant)
  | deleteReads (now : Instant)

inductive Request where
  | markNotificationRead (id : ObjectId) (scope : FeedScope)
  | markAllNotificationsRead

/-- The time of a step, and which of two writes that are under way comes first. -/
structure Tick where
  now : Instant
  deletesFirst : Bool := false

def enter : Request → Store → Option Call
  | .markNotificationRead id scope, _ => some (.find id scope)
  | .markAllNotificationsRead, _ => some .start

/-- What a call does next. -/
def act (uid : Uid) (deletesFirst : Bool) :
    Call → Store → Store × Option Call
  | .find id scope, store =>
    match store.findVisible uid id scope with
    | none => (store, none)
    | some row =>
      (store, some (match row.audience with
          | .USER => .stamp id
          | .BRANCH => .record id row.expiresAt))
  | .stamp id, store => (store.stamp id, none)
  | .record id expiresAt, store => (store.record id expiresAt, none)
  | .start, store => (store, some (.moveCursor store.clock))
  | .moveCursor now, store => (store.moveCursor now, some (.collapse now))
  | .collapse now, store =>
    if deletesFirst then (store.deleteReads now, some (.stampAll now))
    else (store.stampAll uid now, some (.deleteReads now))
  | .stampAll now, store => (store.stampAll uid now, none)
  | .deleteReads now, store => (store.deleteReads now, none)

def resume (uid : Uid) (tick : Tick) (call : Call) (store : Store) :
    Option (Store × Option Call) :=
  if tick.now < store.clock then none
  else some (act uid tick.deletesFirst call { store with clock := tick.now })

def feed (uid : Uid) : Service Store Call Request Tick where
  enter := enter
  resume := resume uid

abbrev Calls : Type := Configuration Store Call

def Store.unread (notifications : Collection Notification) : Store where
  notifications
  readAllBefore := none
  reads := ∅
  clock := 0

end Lalaba.Notifications
