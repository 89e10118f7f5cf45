import Lalaba.Foundation.Interleaving
import Lalaba.Foundation.Rows
import Lalaba.Foundation.Snapshot
import Lalaba.Orders.Callbacks
import Mathlib.Data.List.MinMax

/-!
# The address book

A customer's addresses and the one that is the default.  Each operation reads first
and then runs a transaction, which is run again when it is aborted.  The documents of
an operation live as long as the call: an aborted run leaves its assignments in
them, and, once they were saved, nothing that the next run would write.
-/

namespace Lalaba.Addresses

open Foundation
open Foundation.Snapshot (mapRows)
open Orders (trimmed)

def MAX_ADDRESSES_PER_CUSTOMER : ℕ := 10

/-! ## Rows and documents -/

structure Address where
  uid : Uid
  label : Option String
  address : BranchAddress
  mapLocation : MapLocation
  accessInstructions : Option String
  isDefault : Bool
  isArchived : Bool := false
  archivedAt : Option Instant := none
  createdAt : Instant
deriving DecidableEq

abbrev Addresses := Collection Address

structure CreateAddressInput where
  label : Option String
  address : BranchAddress
  mapLocation : MapLocation
  accessInstructions : Option String
  isDefault : Option Bool
deriving DecidableEq

/-- A partial update; a text may be set to `null`. -/
structure UpdateAddressInput where
  label : Option (Option String) := none
  address : Option BranchAddress := none
  mapLocation : Option MapLocation := none
  accessInstructions : Option (Option String) := none
  isDefault : Option Bool := none
deriving DecidableEq

/-- The paths a save writes. -/
structure Modified where
  label : Option (Option String) := none
  address : Option BranchAddress := none
  mapLocation : Option MapLocation := none
  accessInstructions : Option (Option String) := none
  isDefault : Option Bool := none
  isArchived : Option Bool := none
  archivedAt : Option Instant := none
deriving DecidableEq

/-- The `$set` of a save. -/
def Modified.apply (modified : Modified) (row : Address) : Address :=
  { row with
    label := modified.label.getD row.label
    address := modified.address.getD row.address
    mapLocation := modified.mapLocation.getD row.mapLocation
    accessInstructions := modified.accessInstructions.getD row.accessInstructions
    isDefault := modified.isDefault.getD row.isDefault
    isArchived := modified.isArchived.getD row.isArchived
    archivedAt := modified.archivedAt.or row.archivedAt }

/-- A document in memory: its values, and what was assigned since its last save. -/
structure Document where
  id : ObjectId
  values : Address
  modified : Modified := {}
deriving DecidableEq

namespace Document

/-! An assignment is remembered when it changes the value. -/

def setLabel (label : Option String) (document : Document) : Document :=
  let label := label.map trimmed
  if document.values.label = label then document
  else
    { document with
      values.label := label
      modified.label := some label }

def setAddress (address : BranchAddress) (document : Document) :
    Document :=
  if document.values.address = address then document
  else
    { document with
      values.address := address
      modified.address := some address }

def setMapLocation (mapLocation : MapLocation) (document : Document) :
    Document :=
  if document.values.mapLocation = mapLocation then document
  else
    { document with
      values.mapLocation := mapLocation
      modified.mapLocation := some mapLocation }

def setAccessInstructions (accessInstructions : Option String)
    (document : Document) : Document :=
  let accessInstructions := accessInstructions.map trimmed
  if document.values.accessInstructions = accessInstructions then document
  else
    { document with
      values.accessInstructions := accessInstructions
      modified.accessInstructions := some accessInstructions }

def setIsDefault (isDefault : Bool) (document : Document) : Document :=
  if document.values.isDefault = isDefault then document
  else
    { document with
      values.isDefault := isDefault
      modified.isDefault := some isDefault }

def setIsArchived (isArchived : Bool) (document : Document) : Document :=
  if document.values.isArchived = isArchived then document
  else
    { document with
      values.isArchived := isArchived
      modified.isArchived := some isArchived }

def setArchivedAt (archivedAt : Instant) (document : Document) :
    Document :=
  if document.values.archivedAt = some archivedAt then document
  else
    { document with
      values.archivedAt := some archivedAt
      modified.archivedAt := some archivedAt }

def assignIf {Value : Type} (value : Option Value)
    (set : Value → Document → Document) (document : Document) : Document :=
  match value with
  | none => document
  | some value => set value document

def assign (input : UpdateAddressInput) (document : Document) : Document :=
  document
    |> assignIf input.label setLabel
    |> assignIf input.address setAddress
    |> assignIf input.mapLocation setMapLocation
    |> assignIf input.accessInstructions setAccessInstructions
    |> assignIf input.isDefault setIsDefault

def archive (now : Instant) (document : Document) : Document :=
  document |> setIsArchived true |> setArchivedAt now |> setIsDefault false

def saved (document : Document) : Document := { document with modified := {} }

end Document

/-! ## The collection -/

def isActive (uid : Uid) (row : Address) : Bool := row.uid == uid && !row.isArchived

/-- `countDocuments` of the addresses of a customer. -/
def activeCount (uid : Uid) (rows : Addresses) : ℕ := countRows (isActive uid) rows

def Address.cleared (uid : Uid) (row : Address) : Address :=
  if row.uid = uid ∧ row.isDefault = true then
    { row with isDefault := false }
  else row

/-- `updateMany`: no address of the customer is the default. -/
def clearDefaults (uid : Uid) : Addresses → Addresses := mapRows fun _ row => row.cleared uid

def Document.write (document : Document) (id : ObjectId)
    (row : Address) : Address :=
  if id = document.id then document.modified.apply row else row

/-- `save` of a document that was read. -/
def save (document : Document) : Addresses → Addresses := mapRows document.write

def newest (uid : Uid) (rows : Addresses) : Option ObjectId :=
  ((rows.entries.filter fun entry => isActive uid entry.2).argmax
    fun entry => entry.2.createdAt).map Sigma.fst

def Address.promoted (next id : ObjectId) (row : Address) : Address :=
  if id = next then { row with isDefault := true } else row

/-- `save` of a row that was read in the same run, as the default. -/
def promote (next : ObjectId) : Addresses → Addresses := mapRows fun id row => row.promoted next id

def clash (first second : (_ : ObjectId) × Address) : Bool :=
  first.1 != second.1 && first.2.uid == second.2.uid &&
    first.2.isDefault && !first.2.isArchived &&
    second.2.isDefault && !second.2.isArchived

def violates (rows : Addresses) : Bool :=
  rows.entries.any fun first => rows.entries.any fun second =>
    clash first second

def findOwned (id : ObjectId) (uid : Uid) (rows : Addresses) :
    Except ServiceError Document :=
  match rows.lookup id with
  | none => .error (.notFound "Address not found")
  | some row =>
    if row.isArchived then .error (.notFound "Address not found")
    else if row.uid ≠ uid then
      .error (.forbidden "You do not own this address")
    else .ok { id, values := row }

/-- An operation that has read, with its documents. -/
inductive Operation where
  | create (uid : Uid) (input : CreateAddressInput) (makeDefault : Bool)
  | update (uid : Uid) (existing : Document) (input : UpdateAddressInput)
  | setDefault (uid : Uid) (existing : Document)
  | delete (uid : Uid) (existing : Document) (wasDefault : Bool)

namespace Operation

def uid : Operation → Uid
  | create uid _ _ => uid
  | update uid _ _ => uid
  | setDefault uid _ => uid
  | delete uid _ _ => uid

def existing : Operation → Option Document
  | create _ _ _ => none
  | update _ existing _ => some existing
  | setDefault _ existing => some existing
  | delete _ existing _ => some existing

def assigned (now : Instant) : Operation → Operation
  | create uid input makeDefault => create uid input makeDefault
  | update uid existing input =>
    update uid (existing.assign input) input
  | setDefault uid existing => setDefault uid (existing.setIsDefault true)
  | delete uid existing wasDefault =>
    delete uid (existing.archive now) wasDefault

def saved : Operation → Operation
  | create uid input makeDefault => create uid input makeDefault
  | update uid existing input => update uid existing.saved input
  | setDefault uid existing => setDefault uid existing.saved
  | delete uid existing wasDefault => delete uid existing.saved wasDefault

/-- What a run makes of the rows it sees. -/
def run (drawn : ObjectId) (now : Instant) (rows : Addresses) :
    Operation → Addresses
  | create uid input makeDefault =>
    (if makeDefault then clearDefaults uid rows else rows).insert drawn
      { uid
        label := input.label.map trimmed
        address := input.address
        mapLocation := input.mapLocation
        accessInstructions := input.accessInstructions.map trimmed
        isDefault := makeDefault
        createdAt := now }
  | update uid existing input =>
    save (existing.assign input)
      (if input.isDefault = some true ∧ existing.values.isDefault = false
        then clearDefaults uid rows
        else rows)
  | setDefault uid existing =>
    save (existing.setIsDefault true) (clearDefaults uid rows)
  | delete uid existing wasDefault =>
    let archived := save (existing.archive now) rows
    match if wasDefault then newest uid archived else none with
    | none => archived
    | some next => promote next archived

def collides (drawn : ObjectId) (rows : Addresses) : Operation → Bool
  | create _ _ _ => (rows.lookup drawn).isSome
  | _ => false

end Operation

/-- How far an aborted run has come. -/
inductive Abort where
  | early
  | unsaved
  | saved
deriving DecidableEq

/-- A call, at the point where it waits. -/
inductive Call where
  /-- `createAddress`, about to count. -/
  | count (uid : Uid) (input : CreateAddressInput)
  | begin (operation : Operation)
  | commit (operation : Operation) (snapshot : Addresses)

inductive Request where
  | createAddress (uid : Uid) (input : CreateAddressInput)
  | updateAddress (id : ObjectId) (uid : Uid) (input : UpdateAddressInput)
  | setDefaultAddress (id : ObjectId) (uid : Uid)
  | deleteAddress (id : ObjectId) (uid : Uid)

/-- The instant of a step, the id drawn in it, and what aborts a run. -/
structure Tick where
  now : Instant
  drawn : ObjectId := ""
  aborts : Option Abort := none

/-- What a call does first. -/
def enter : Request → Addresses → Option Call
  | .createAddress uid input, _ => some (.count uid input)
  | .updateAddress id uid input, rows =>
    match findOwned id uid rows with
    | .error _ => none
    | .ok existing => some (.begin (.update uid existing input))
  | .setDefaultAddress id uid, rows =>
    match findOwned id uid rows with
    | .error _ => none
    | .ok existing =>
      if existing.values.isDefault then none
      else some (.begin (.setDefault uid existing))
  | .deleteAddress id uid, rows =>
    match findOwned id uid rows with
    | .error _ => none
    | .ok existing =>
      some (.begin (.delete uid existing existing.values.isDefault))

/--
What a call does next.  A run that conflicts with another is aborted, never
committed; one that the unique index refuses ends the call.
-/
def resume (tick : Tick) : Call → Addresses →
    Option (Addresses × Option Call)
  | .count uid input, rows =>
    let activeCount := activeCount uid rows
    if MAX_ADDRESSES_PER_CUSTOMER ≤ activeCount then some (rows, none)
    else
      some (rows, some (.begin
        (.create uid input (activeCount == 0 || input.isDefault == some true))))
  | .begin operation, rows => some (rows, some (.commit operation rows))
  | .commit operation snapshot, rows =>
    match tick.aborts with
    | some .early => some (rows, some (.begin operation))
    | some .unsaved =>
      some (rows, some (.begin (operation.assigned tick.now)))
    | some .saved =>
      some (rows, some (.begin (operation.assigned tick.now).saved))
    | none =>
      if operation.collides tick.drawn snapshot || operation.collides tick.drawn rows then none
      else
        let view := operation.run tick.drawn tick.now snapshot
        if violates view then some (rows, none)
        else
          match Snapshot.commit snapshot view rows with
          | none => none
          | some after =>
            if violates after then some (rows, none)
            else some (after, none)

def addressBook : Service Addresses Call Request Tick where
  enter := enter
  resume := resume

end Lalaba.Addresses
