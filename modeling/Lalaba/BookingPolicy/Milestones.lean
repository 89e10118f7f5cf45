import Lalaba.Bookings.Entitlement
import Lalaba.Foundation.Interleaving
import Lalaba.Foundation.Snapshot
import Lalaba.Orders.Callbacks

/-!
# Milestones and campaigns

An administrator edits the milestones that providers can earn, and the campaigns that
target them.  A milestone that becomes the default takes the flag from all others
before it is written; one that is targeted, or the default, is not deleted.  Every
await is a step of its own.
-/

namespace Lalaba.BookingPolicy.Milestones

open Foundation
open Bookings (BookingMilestone BookingCampaign CampaignModifier
  CampaignScope CampaignTargeting MilestoneEligibility MilestoneEntitlements)
open Orders (ProviderType trimmed)

structure Milestone extends BookingMilestone where
  description : Option String
  priorityBooking : Bool
  updatedBy : Option Uid
deriving DecidableEq

structure Campaign extends BookingCampaign where
  description : Option String
  createdBy : Option Uid

/-- The milestones by their keys, which are unique, and the campaigns by their ids. -/
structure Store where
  milestones : Collection Milestone
  campaigns : Collection Campaign

namespace Store

def empty : Store where
  milestones := ∅
  campaigns := ∅

/-- `countDocuments` of the campaigns that target a key. -/
def targeting (key : String) (store : Store) : ℕ :=
  store.campaigns.entries.countP fun entry =>
    decide (key ∈ entry.2.targeting.milestoneKeys)

/-- `updateMany` of every other milestone: it is not the default. -/
def clearOthers (key : String) (store : Store) : Store :=
  { store with
    milestones := Snapshot.mapRows
      (fun other row => if other = key then row
        else { row with isDefault := false })
      store.milestones }

end Store

/-! ## Inputs -/

/-- A description may be left out, or set to `null`. -/
structure UpsertBookingMilestoneInput where
  key : String
  name : String
  description : Option (Option String) := none
  rank : ℕ
  isDefault : Bool
  isActive : Bool
  eligibility : MilestoneEligibility
  entitlements : MilestoneEntitlements
  priorityBooking : Bool
deriving DecidableEq

/-- The row of an upsert; what is left out stays as it is stored. -/
def UpsertBookingMilestoneInput.written (actorUid : Uid)
    (input : UpsertBookingMilestoneInput) (stored : Option Milestone) :
    Milestone where
  key := input.key
  name := trimmed input.name
  rank := input.rank
  isDefault := input.isDefault
  isActive := input.isActive
  eligibility := input.eligibility
  entitlements := input.entitlements
  description :=
    match input.description with
    | some description => description.map trimmed
    | none => stored.bind Milestone.description
  priorityBooking := input.priorityBooking
  updatedBy := some actorUid

structure CampaignTargetingInput where
  scope : CampaignScope
  providerType : Option ProviderType := none
  milestoneKeys : Option (List String) := none
deriving DecidableEq

/-- A modifier may be left out, or set to `null`. -/
structure UpsertBookingCampaignInput where
  id : Option ObjectId := none
  name : String
  description : Option (Option String) := none
  startDate : String
  endDate : String
  isEnabled : Bool
  targeting : CampaignTargetingInput
  dailyCapacity : Option (Option CampaignModifier) := none
  advanceBookingDays : Option (Option CampaignModifier) := none
deriving DecidableEq

namespace UpsertBookingCampaignInput

def milestoneKeys (input : UpsertBookingCampaignInput) : List String :=
  input.targeting.milestoneKeys.getD []

/-- The checks of `upsertCampaign`. -/
def checked (input : UpsertBookingCampaignInput) :
    Except ServiceError UpsertBookingCampaignInput :=
  if input.endDate < input.startDate then
    .error (.badRequest "The campaign cannot end before it starts.")
  else if input.targeting.scope = .milestone ∧
      input.milestoneKeys.length = 0 then
    .error (.badRequest "Pick at least one milestone to target.")
  else if input.targeting.scope = .providerType ∧
      input.targeting.providerType = none then
    .error (.badRequest "Pick which provider type to target.")
  else
    .ok input

def targeted (input : UpsertBookingCampaignInput) : CampaignTargeting where
  scope := input.targeting.scope
  providerType := input.targeting.providerType
  milestoneKeys := input.milestoneKeys

/-- `$set` of an input over the campaign that is stored. -/
def onto (input : UpsertBookingCampaignInput) (stored : Campaign) :
    Campaign :=
  { stored with
    name := trimmed input.name
    description :=
      match input.description with
      | some description => description.map trimmed
      | none => stored.description
    startDate := input.startDate
    endDate := input.endDate
    isEnabled := input.isEnabled
    targeting := input.targeted
    dailyCapacity := input.dailyCapacity.getD stored.dailyCapacity
    advanceBookingDays := input.advanceBookingDays.getD stored.advanceBookingDays }

def created (id : ObjectId) (actorUid : Uid) (input : UpsertBookingCampaignInput) : Campaign where
  _id := id
  name := trimmed input.name
  description := (input.description.getD none).map trimmed
  startDate := input.startDate
  endDate := input.endDate
  isEnabled := input.isEnabled
  targeting := input.targeted
  dailyCapacity := input.dailyCapacity.getD none
  advanceBookingDays := input.advanceBookingDays.getD none
  createdBy := some actorUid

end UpsertBookingCampaignInput

def removable : Option Milestone →
    Except ServiceError (Option Milestone)
  | none => .ok none
  | some milestone =>
    if milestone.isDefault then
      .error (.badRequest
        ("The default milestone cannot be deleted — every provider " ++
          "needs a floor. Make another milestone the default first."))
    else
      .ok (some milestone)

def untargeted (milestone : Milestone) (targeting : ℕ) :
    Except ServiceError Unit :=
  if 0 < targeting then
    .error (.badRequest (milestone.name ++ " is targeted by " ++
      toString targeting ++ " campaign(s). Update those first."))
  else
    .ok ()

/-- A call, at the point where it waits. -/
inductive Call where
  /-- `upsertMilestone`, about to take the flag from all others. -/
  | clear (input : UpsertBookingMilestoneInput) (actorUid : Uid)
  | upsert (input : UpsertBookingMilestoneInput) (actorUid : Uid)
  /-- `removeMilestone`, about to look for it. -/
  | find (key : String)
  | count (key : String) (milestone : Milestone)
  | delete (key : String)
  /-- `upsertCampaign`, about to update a campaign. -/
  | update (id : ObjectId) (input : UpsertBookingCampaignInput)
  | create (input : UpsertBookingCampaignInput) (actorUid : Uid)

inductive Request where
  | upsertMilestone (input : UpsertBookingMilestoneInput) (actorUid : Uid)
  | removeMilestone (key : String)
  | upsertCampaign (input : UpsertBookingCampaignInput) (actorUid : Uid)

/-- An id that is drawn in a step. -/
structure Tick where
  drawn : ObjectId := ""

/-- What a call does first; a campaign is checked before anything is read. -/
def enter : Request → Store → Option Call
  | .upsertMilestone input actorUid, _ =>
    some (if input.isDefault then .clear input actorUid
      else .upsert input actorUid)
  | .removeMilestone key, _ => some (.find key)
  | .upsertCampaign input actorUid, _ =>
    match input.checked with
    | .error _ => none
    | .ok input =>
      match input.id.filter (· != "") with
      | some id => some (.update id input)
      | none => some (.create input actorUid)

/-- What a call does next; an id is never drawn twice. -/
def resume (tick : Tick) : Call → Store → Option (Store × Option Call)
  | .clear input actorUid, store =>
    some (store.clearOthers input.key, some (.upsert input actorUid))
  | .upsert input actorUid, store =>
    some ({ store with
          milestones := store.milestones.insert input.key
            (input.written actorUid (store.milestones.lookup input.key)) }, none)
  | .find key, store =>
    match removable (store.milestones.lookup key) with
    | .error _ => some (store, none)
    | .ok none => some (store, none)
    | .ok (some milestone) => some (store, some (.count key milestone))
  | .count key milestone, store =>
    match untargeted milestone (store.targeting key) with
    | .error _ => some (store, none)
    | .ok () => some (store, some (.delete key))
  | .delete key, store =>
    some ({ store with milestones := store.milestones.erase key }, none)
  | .update id input, store =>
    match store.campaigns.lookup id with
    | none => some (store, none)
    | some stored =>
      some ({ store with
            campaigns := store.campaigns.insert id (input.onto stored) }, none)
  | .create input actorUid, store =>
    if tick.drawn ∈ store.campaigns then none
    else
      some ({ store with
            campaigns := store.campaigns.insert tick.drawn
              (input.created tick.drawn actorUid) }, none)

def editing : Service Store Call Request Tick where
  enter := enter
  resume := resume

abbrev Calls : Type := Configuration Store Call

def see (configuration : Calls) (move : Move Request Tick) (_ : Calls)
    (made : Bool) : Bool :=
  match move with
  | .enter _ => made
  | .resume index _ =>
    match configuration.calls[index]? with
    | some (some (.upsert input _)) => made || input.isDefault
    | _ => made

end Lalaba.BookingPolicy.Milestones
