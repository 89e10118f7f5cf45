import Lalaba.Bookings.Entitlement
import Lalaba.Foundation.Interleaving

/-!
# Publishing the booking policy

A policy is published as a new document: the one that is live is archived, and then the
next version is inserted.  A reader who finds no live policy inserts the platform's
seed.  The database admits one live policy at a time.  Every await is a step of its own.
-/

namespace Lalaba.BookingPolicy

open Foundation
open Bookings (DayKey UniversalDay PolicyDefaults parseHHMM)

/-! ## Collections -/

inductive BookingPolicyStatus where
  | LIVE
  | ARCHIVED
deriving DecidableEq

/-- The ceilings nothing can exceed. -/
structure PolicySafetyLimits where
  dailyCapacity : ℕ := 100
  advanceBookingDays : ℕ := 60
  maxLegFeeCentavos : ℕ := 20000
  maxServiceRadiusKm : ℚ := 15

/-- What a policy lays down. -/
structure PolicyContent where
  enabled : Bool := true
  defaults : PolicyDefaults := {}
  universalDays : DayKey → UniversalDay
  safetyLimits : PolicySafetyLimits := {}

/-- A version of the policy. -/
structure Policy extends PolicyContent where
  _id : ObjectId
  version : ℕ
  status : BookingPolicyStatus
  changeNote : Option String
  publishedBy : Option Uid
  publishedAt : Instant

/-- The policies, the newest first. -/
structure Store where
  policies : List Policy

namespace Store

/-- `findOne` of the live policy. -/
def live (store : Store) : Option Policy :=
  store.policies.find? fun policy => policy.status == .LIVE

/-- `create` of a live policy; the partial unique index refuses a second one. -/
def create (policy : Policy) (store : Store) : Option Store :=
  if store.live.isSome then none
  else some { policies := policy :: store.policies }

/-- `updateOne` of the status of a policy. -/
def setStatus (id : ObjectId) (status : BookingPolicyStatus) (store : Store) : Store where
  policies := store.policies.map fun policy =>
    if policy._id = id then { policy with status } else policy

/-- `updateOne` to `LIVE`, which the index refuses next to another live policy. -/
def restore (id : ObjectId) (store : Store) : Option Store :=
  if store.live.any fun policy => policy._id != id then none
  else some (store.setStatus id .LIVE)

end Store

structure PolicyDefaultsInput where
  dailyCapacity : Option ℕ := none
  advanceBookingDays : Option ℕ := none
  leadTimeMinutes : Option ℕ := none
  sameDayBookingEnabled : Option Bool := none
  sameDayCutoffTime : Option String := none

structure PolicySafetyLimitsInput where
  dailyCapacity : Option ℕ := none
  advanceBookingDays : Option ℕ := none
  maxLegFeeCentavos : Option ℕ := none
  maxServiceRadiusKm : Option ℚ := none

/-- Every section is optional, and every field of a section. -/
structure PublishBookingPolicyInput where
  enabled : Option Bool := none
  defaults : PolicyDefaultsInput := {}
  universalDays : Option (DayKey → UniversalDay) := none
  safetyLimits : PolicySafetyLimitsInput := {}
  changeNote : Option String := none

/-- What is sent over what is stored. -/
def merged (input : PublishBookingPolicyInput) (current : PolicyContent) : PolicyContent where
  enabled := input.enabled.getD current.enabled
  defaults :=
    { dailyCapacity := input.defaults.dailyCapacity.getD
        current.defaults.dailyCapacity
      advanceBookingDays := input.defaults.advanceBookingDays.getD
        current.defaults.advanceBookingDays
      leadTimeMinutes := input.defaults.leadTimeMinutes.getD current.defaults.leadTimeMinutes
      sameDayBookingEnabled := input.defaults.sameDayBookingEnabled.getD
        current.defaults.sameDayBookingEnabled
      sameDayCutoffTime := input.defaults.sameDayCutoffTime.getD
        current.defaults.sameDayCutoffTime }
  universalDays := input.universalDays.getD current.universalDays
  safetyLimits :=
    { dailyCapacity := input.safetyLimits.dailyCapacity.getD
        current.safetyLimits.dailyCapacity
      advanceBookingDays := input.safetyLimits.advanceBookingDays.getD
        current.safetyLimits.advanceBookingDays
      maxLegFeeCentavos := input.safetyLimits.maxLegFeeCentavos.getD
        current.safetyLimits.maxLegFeeCentavos
      maxServiceRadiusKm := input.safetyLimits.maxServiceRadiusKm.getD
        current.safetyLimits.maxServiceRadiusKm }

def WEEK_ORDER : List (DayKey × String) :=
  [(.monday, "Monday"), (.tuesday, "Tuesday"), (.wednesday, "Wednesday"),
    (.thursday, "Thursday"), (.friday, "Friday"),
    (.saturday, "Saturday"), (.sunday, "Sunday")]

/-- An open day has windows, and each of them closes after it opens. -/
def assertDayCoherent (name : String) (day : UniversalDay) :
    Except ServiceError Unit :=
  if day.isOpen = false then
    .ok ()
  else if day.windows = [] then
    .error (.badRequest (name ++ " is open but has no booking window."))
  else if day.windows.any fun window =>
      match parseHHMM window.start, parseHHMM window.end_ with
      | some start, some finish => finish ≤ start
      | _, _ => false then
    .error (.badRequest (name ++ ": the closing time must be after the opening time."))
  else
    .ok ()

def assertPolicyCoherent (content : PolicyContent) :
    Except ServiceError Unit :=
  let d := content.defaults
  let s := content.safetyLimits
  if s.dailyCapacity < d.dailyCapacity then
    .error (.badRequest ("The base daily capacity (" ++
      toString d.dailyCapacity ++ ") cannot exceed the platform maximum (" ++
      toString s.dailyCapacity ++ ")."))
  else if s.advanceBookingDays < d.advanceBookingDays then
    .error (.badRequest ("The advance window (" ++
      toString d.advanceBookingDays ++
      " days) cannot exceed the platform maximum (" ++
      toString s.advanceBookingDays ++ " days)."))
  else if parseHHMM d.sameDayCutoffTime = none then
    .error (.badRequest "The same-day cutoff must be a valid time.")
  else
    WEEK_ORDER.forM fun (key, name) =>
      assertDayCoherent name (content.universalDays key)

/-! ## Calls -/

/-- The arguments of `publish`. -/
structure Publish where
  input : PublishBookingPolicyInput
  actorUid : Uid

/-- A call, at the point where it waits; `none` is a call of `current`. -/
inductive Call where
  /-- `current`, about to look for the live policy. -/
  | find (publish : Option Publish)
  | seed (publish : Option Publish)
  /-- `publish`, about to archive the policy it has read. -/
  | archive (live : Policy) (content : PolicyContent) (publish : Publish)
  | create (live : Policy) (content : PolicyContent) (publish : Publish)
  | restore (live : Policy)

inductive Request where
  | current
  | publish (publish : Publish)

/-- The instant of a step, and an id that is drawn in it. -/
structure Tick where
  now : Instant
  drawn : ObjectId := ""

def seedPolicy (id : ObjectId) (now : Instant) : Policy where
  universalDays _ := { isOpen := true, windows := [{ start := "06:00", end_ := "22:00" }] }
  _id := id
  version := 1
  status := .LIVE
  changeNote := some "Initial platform booking policy"
  publishedBy := none
  publishedAt := now

def nextPolicy (id : ObjectId) (now : Instant) (live : Policy)
    (content : PolicyContent) (publish : Publish) : Policy where
  toPolicyContent := content
  _id := id
  version := live.version + 1
  status := .LIVE
  changeNote := publish.input.changeNote
  publishedBy := some publish.actorUid
  publishedAt := now

def enter : Request → Store → Option Call
  | .current, _ => some (.find none)
  | .publish publish, _ => some (.find (some publish))

/-- What follows on the policy that `current` returns. -/
def proceed (publish : Option Publish) (live : Policy) : Option Call :=
  publish.bind fun publish =>
    let content := merged publish.input live.toPolicyContent
    match assertPolicyCoherent content with
    | .error _ => none
    | .ok () => some (.archive live content publish)

/-- What a call does next; an id is never drawn twice. -/
def resume (tick : Tick) : Call → Store → Option (Store × Option Call)
  | .find publish, store =>
    match store.live with
    | some live => some (store, proceed publish live)
    | none => some (store, some (.seed publish))
  | .seed publish, store =>
    if tick.drawn ∈ store.policies.map Policy._id then none
    else
      let seeded := seedPolicy tick.drawn tick.now
      match store.create seeded with
      | none => some (store, none)
      | some after => some (after, proceed publish seeded)
  | .archive live content publish, store =>
    some (store.setStatus live._id .ARCHIVED, some (.create live content publish))
  | .create live content publish, store =>
    if tick.drawn ∈ store.policies.map Policy._id then none
    else
      match store.create (nextPolicy tick.drawn tick.now live content publish) with
      | none => some (store, some (.restore live))
      | some after => some (after, none)
  | .restore live, store =>
    match store.restore live._id with
    | none => some (store, none)
    | some after => some (after, none)

def publishing : Service Store Call Request Tick where
  enter := enter
  resume := resume

abbrev Calls : Type := Configuration Store Call

def Store.empty : Store where
  policies := []

/--
Whether a call has completed, what the last `publish` that has succeeded laid down, and
the policies that were live one after another, the last one first.
-/
structure History where
  completed : Bool := false
  published : Option PolicyContent := none
  lives : List Policy := []

def History.admitting (live : Option Policy) (history : History) : History :=
  match live with
  | none => history
  | some live =>
    if history.lives.head?.any fun last => last._id == live._id then
      history
    else
      { history with lives := live :: history.lives }

def Call.lays : Call → Option PolicyContent
  | .create _ content _ => some content
  | _ => none

def History.returning (call : Call) (next : Option Call)
    (history : History) : History :=
  match next with
  | some _ => history
  | none =>
    { history with
      completed := true
      published := call.lays.or history.published }

def see (configuration : Calls) (move : Move Request Tick) (after : Calls)
    (history : History) : History :=
  match move with
  | .enter _ => history
  | .resume index _ =>
    match configuration.calls[index]?, after.calls[index]? with
    | some (some call), some next =>
      (history.returning call next).admitting after.store.live
    | _, _ => history

end Lalaba.BookingPolicy
