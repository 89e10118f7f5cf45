import Lalaba.Foundation.Interleaving
import Lalaba.Search.Term

/-!
# Support tickets

A ticket is filed by or for an account, its requester.  Notes on it are internal or
shown to the requester, and the same method writes those of both sides.  A change of
status reads the ticket, writes the status and the time of the resolution, and records
an event.
-/

namespace Lalaba.SupportTickets

open Foundation
open Orders (trimmed)
open Search (nextTicketNumber)

inductive TicketSource where
  | CUSTOMER_APP
  | PARTNER_APP
  | COURIER_APP
  | CHAT
  | WEBSITE
  | PHONE
  | ADMIN
deriving DecidableEq

inductive TicketStatus where
  | OPEN
  | IN_PROGRESS
  | WAITING_ON_CUSTOMER
  | ESCALATED
  | RESOLVED
  | CLOSED
deriving DecidableEq

inductive TicketPriority where
  | LOW
  | NORMAL
  | HIGH
  | URGENT
deriving DecidableEq

inductive TicketCategory where
  | ORDER_LATE
  | ORDER_DAMAGED
  | ORDER_MISSING_ITEMS
  | PAYMENT_DISPUTE
  | REFUND_REQUEST
  | WALLET_TOPUP
  | COURIER_CONDUCT
  | PROVIDER_CONDUCT
  | CUSTOMER_CONDUCT
  | ACCOUNT_ACCESS
  | VERIFICATION
  | APP_BUG
  | OTHER
deriving DecidableEq

inductive NoteVisibility where
  | INTERNAL
  | CUSTOMER
deriving DecidableEq

inductive TicketEventType where
  | CREATED
  | STATUS_CHANGED
  | ASSIGNED
  | UNASSIGNED
  | ESCALATED
  | PRIORITY_CHANGED
  | RESOLVED
  | REOPENED
deriving DecidableEq

def TicketStatus.text : TicketStatus → String
  | .OPEN => "OPEN"
  | .IN_PROGRESS => "IN_PROGRESS"
  | .WAITING_ON_CUSTOMER => "WAITING_ON_CUSTOMER"
  | .ESCALATED => "ESCALATED"
  | .RESOLVED => "RESOLVED"
  | .CLOSED => "CLOSED"

def TicketPriority.text : TicketPriority → String
  | .LOW => "LOW"
  | .NORMAL => "NORMAL"
  | .HIGH => "HIGH"
  | .URGENT => "URGENT"

def TICKET_ACTIVE_STATUSES : List TicketStatus := [.OPEN, .IN_PROGRESS, .ESCALATED]

def AUTO_PRIORITY : TicketCategory → Option TicketPriority
  | .PAYMENT_DISPUTE | .WALLET_TOPUP | .ORDER_DAMAGED
  | .ORDER_MISSING_ITEMS | .COURIER_CONDUCT | .CUSTOMER_CONDUCT => some .HIGH
  | _ => none

/-! ## Collections -/

/-- An account that acts on tickets. -/
structure Account where
  _id : Uid
  firstName : Option String
  lastName : Option String
  email : Option String
  phoneNumber : Option String
  roleId : String
deriving DecidableEq

structure TicketRequester where
  uid : Uid
  displayName : String
  email : Option String
  phone : Option String
  role : String
deriving DecidableEq

structure TicketLinks where
  orderId : Option ObjectId
  providerBranchId : Option ObjectId
  paymentReference : Option String
deriving DecidableEq

structure SupportTicket where
  ticketNumber : String
  subject : String
  body : String
  source : TicketSource
  status : TicketStatus
  priority : TicketPriority
  category : TicketCategory
  requester : TicketRequester
  links : TicketLinks
  assignedToUid : Option Uid := none
  firstResponseAt : Option Instant := none
  resolvedAt : Option Instant := none
  resolutionCode : Option String := none
  createdAt : Option Instant
deriving DecidableEq

/-- What a note says, and to whom. -/
structure NoteContent where
  ticketId : ObjectId
  authorUid : Uid
  authorName : String
  visibility : NoteVisibility
  body : String
  imageKey : Option String
deriving DecidableEq

structure SupportTicketNote extends NoteContent where
  _id : ObjectId
  createdAt : Instant

structure SupportTicketEvent where
  ticketId : ObjectId
  type : TicketEventType
  actorUid : Uid
  actorName : String
  fromValue : Option String
  toValue : Option String
  reason : Option String

structure Store where
  tickets : Collection SupportTicket
  notes : List SupportTicketNote
  events : List SupportTicketEvent

def Store.empty : Store where
  tickets := ∅
  notes := []
  events := []

/-- `findByIdAndUpdate` of a ticket. -/
def Store.update (ticketId : ObjectId)
    (change : SupportTicket → SupportTicket) (store : Store) : Store :=
  match store.tickets.lookup ticketId with
  | none => store
  | some ticket =>
    { store with
      tickets := store.tickets.insert ticketId (change ticket) }

def fullName (account : Account) : String :=
  trimmed (account.firstName.getD "" ++ " " ++ account.lastName.getD "")

def nameOf (account : Account) : String :=
  if fullName account ≠ "" then fullName account
  else (account.email.filter (· ≠ "")).getD account._id

/-- The row that `recordEvent` inserts. -/
def eventOf (ticketId : ObjectId) (type : TicketEventType)
    (actor : Account) (fromValue toValue reason : Option String) :
    SupportTicketEvent where
  ticketId
  type
  actorUid := actor._id
  actorName := nameOf actor
  fromValue
  toValue
  reason := (reason.map trimmed).filter (· ≠ "")

/-! ## Calls -/

structure CreateTicketInput where
  requesterUid : Uid
  subject : String
  body : String
  category : TicketCategory
  source : Option TicketSource
  priority : Option TicketPriority
  links : TicketLinks
deriving DecidableEq

/-- The ticket that an input describes, under a number and at a time. -/
def ticketOf (input : CreateTicketInput) (requester : Account)
    (ticketNumber : String) (now : Instant) : SupportTicket where
  ticketNumber
  subject := input.subject
  body := input.body
  source := input.source.getD .ADMIN
  status := .OPEN
  priority := (input.priority.or (AUTO_PRIORITY input.category)).getD .NORMAL
  category := input.category
  requester :=
    { uid := requester._id
      displayName :=
        if fullName requester ≠ "" then fullName requester
        else requester.email.getD ""
      email := requester.email
      phone := requester.phoneNumber
      role := requester.roleId }
  links := input.links
  createdAt := some now

/-- What `resolve` goes on with. -/
structure Resolution where
  resolutionCode : String
  actor : Account

/-- A call, at the point where it waits. -/
inductive Call where
  /-- `create`, about to look the requester up. -/
  | create (input : CreateTicketInput) (actor : Account)
  | number (input : CreateTicketInput) (actor requester : Account) (attempt : ℕ)
  | insert (input : CreateTicketInput) (actor requester : Account)
      (ticketNumber : String) (attempt : ℕ)
  /-- `addMySupportTicketNote`, about to check whose ticket it is. -/
  | own (ticketId : ObjectId) (body : String) (actor : Account) (imageKey : Option String)
  /-- `addNote`, about to read the ticket. -/
  | noting (ticketId : ObjectId) (body : String)
      (visibility : NoteVisibility) (actor : Account)
      (imageKey : Option String) (resolution : Option Resolution)
  /-- About to insert the note; `answered` is what the ticket said. -/
  | note (content : NoteContent) (answered : Bool) (resolution : Option Resolution)
  | stamp (ticketId noteId : ObjectId) (firstResponseAt : Instant) (resolution : Option Resolution)
  /-- `resolve`, about to write the resolution code. -/
  | code (ticketId : ObjectId) (resolution : Resolution) (note : Option String)
  /-- `changeStatus`, about to read the ticket. -/
  | changing (ticketId : ObjectId) (status : TicketStatus)
      (actor : Account) (reason : Option String)
  | status (ticketId : ObjectId) (old status : TicketStatus)
      (now : Instant) (actor : Account) (reason : Option String)
  | event (event : SupportTicketEvent)

inductive Request where
  | create (input : CreateTicketInput) (actor : Account)
  | addNote (ticketId : ObjectId) (body : String)
      (visibility : NoteVisibility) (actor : Account)
      (imageKey : Option String)
  | addMySupportTicketNote (ticketId : ObjectId) (body : String)
      (actor : Account) (imageKey : Option String)
  | changeStatus (ticketId : ObjectId) (status : TicketStatus)
      (actor : Account) (reason : Option String)
  | resolve (ticketId : ObjectId) (resolutionCode : String) (actor : Account) (note : Option String)
deriving DecidableEq

def enter : Request → Store → Option Call
  | .create input actor, _ => some (.create input actor)
  | .addNote ticketId body visibility actor imageKey, _ =>
    some (.noting ticketId body visibility actor imageKey none)
  | .addMySupportTicketNote ticketId body actor imageKey, _ =>
    some (.own ticketId body actor imageKey)
  | .changeStatus ticketId status actor reason, _ =>
    some (.changing ticketId status actor reason)
  | .resolve ticketId resolutionCode actor note, _ =>
    some (.code ticketId { resolutionCode, actor } note)

/-- The time, an id that is new, and the requester's account. -/
structure Tick where
  now : Instant
  id : ObjectId
  requester : Option Account

def NoteContent.row (tick : Tick) (content : NoteContent) :
    SupportTicketNote :=
  { content with _id := tick.id, createdAt := tick.now }

/-- The rest of `resolve`, after its note. -/
def Resolution.call (ticketId : ObjectId) (resolution : Resolution) : Call :=
  .changing ticketId .RESOLVED resolution.actor (some resolution.resolutionCode)

def isGiven (text : Option String) : Bool := text.any fun text => trimmed text ≠ ""

def resolvedAtOf (old status : TicketStatus) (now : Instant)
    (resolvedAt : Option Instant) : Option Instant :=
  if status = .RESOLVED then some now
  else if old = .RESOLVED then none
  else resolvedAt

def eventTypeOf (old status : TicketStatus) : TicketEventType :=
  if status = .ESCALATED then .ESCALATED
  else if status = .RESOLVED then .RESOLVED
  else if old = .RESOLVED ∨ old = .CLOSED then .REOPENED
  else .STATUS_CHANGED

def setStatus (old status : TicketStatus) (now : Instant)
    (ticket : SupportTicket) : SupportTicket :=
  { ticket with
    status
    resolvedAt := resolvedAtOf old status now ticket.resolvedAt }

/-- What a call does next. -/
def resume (tick : Tick) : Call → Store → Option (Store × Option Call)
  | .create input actor, store =>
    some (store, tick.requester.map fun requester =>
      .number input actor requester 0)
  | .number input actor requester attempt, store =>
    some (store, some (.insert input actor requester
      (nextTicketNumber store.tickets.entries.length) attempt))
  | .insert input actor requester ticketNumber attempt, store =>
    -- An id is given out once.
    if tick.id ∈ store.tickets then
      none
    else if store.tickets.entries.any fun entry =>
        entry.2.ticketNumber == ticketNumber then
      some (store,
        if attempt < 4 then
          some (.number input actor requester (attempt + 1))
        else
          none)
    else
      some ({ store with
            tickets := store.tickets.insert tick.id
              (ticketOf input requester ticketNumber tick.now) },
          some (.event (eventOf tick.id .CREATED actor none (some ticketNumber) none)))
  | .own ticketId body actor imageKey, store =>
    match store.tickets.lookup ticketId with
    | none => some (store, none)
    | some ticket =>
      if ticket.requester.uid ≠ actor._id then
        some (store, none)
      else
        some (store, some (.noting ticketId body .CUSTOMER actor imageKey none))
  | .noting ticketId body visibility actor imageKey resolution, store =>
    match store.tickets.lookup ticketId with
    | none => some (store, none)
    | some ticket =>
      if trimmed body = "" ∧ imageKey.filter (· ≠ "") = none then
        some (store, none)
      else
        some (store, some (.note
            { ticketId
              authorUid := actor._id
              authorName := nameOf actor
              visibility
              body := trimmed body
              imageKey } ticket.firstResponseAt.isSome resolution))
  | .note content answered resolution, store =>
    if tick.id ∈ store.notes.map SupportTicketNote._id then
      none
    else
      some
        ({ store with notes := store.notes ++ [content.row tick] },
          if content.visibility = .CUSTOMER ∧ answered = false then
            some (.stamp content.ticketId tick.id tick.now resolution)
          else
            resolution.map (Resolution.call content.ticketId))
  | .stamp ticketId _ firstResponseAt resolution, store =>
    some (store.update ticketId fun ticket =>
        { ticket with firstResponseAt := some firstResponseAt },
        resolution.map (Resolution.call ticketId))
  | .code ticketId resolution note, store =>
    some (store.update ticketId fun ticket =>
        { ticket with resolutionCode := some resolution.resolutionCode },
        some
          (if isGiven note then
            .noting ticketId (note.getD "") .CUSTOMER resolution.actor none (some resolution)
          else
            resolution.call ticketId))
  | .changing ticketId status actor reason, store =>
    match store.tickets.lookup ticketId with
    | none => some (store, none)
    | some ticket =>
      if ticket.status = status then
        some (store, none)
      else if status = .ESCALATED ∧ isGiven reason = false then
        some (store, none)
      else
        some (store, some (.status ticketId ticket.status status tick.now actor reason))
  | .status ticketId old status now actor reason, store =>
    some
      (store.update ticketId (setStatus old status now),
        some (.event (eventOf ticketId (eventTypeOf old status) actor
          (some old.text) (some status.text) reason)))
  | .event event, store =>
    some ({ store with events := store.events ++ [event] }, none)

def desk : Service Store Call Request Tick where
  enter := enter
  resume := resume

abbrev Calls : Type := Configuration Store Call

section

variable {store : Store} {ticketId other : ObjectId}
  {ticket : SupportTicket} {change : SupportTicket → SupportTicket}

theorem lookup_update_of_ne (elsewhere : other ≠ ticketId) :
    (store.update ticketId change).tickets.lookup other =
      store.tickets.lookup other := by
  rw [Store.update]
  split
  · rfl
  · exact AList.lookup_insert_ne elsewhere

theorem lookup_update :
    (store.update ticketId change).tickets.lookup ticketId =
      (store.tickets.lookup ticketId).map change := by
  rw [Store.update]
  split
  · rename_i absent
    rw [absent]
    rfl
  · rename_i ticket found
    rw [found]
    exact AList.lookup_insert _

@[simp]
theorem notes_update : (store.update ticketId change).notes = store.notes := by
  rw [Store.update]
  split <;> rfl

@[simp]
theorem events_update : (store.update ticketId change).events = store.events := by
  rw [Store.update]
  split <;> rfl

theorem of_lookup_update
    (found : (store.update ticketId change).tickets.lookup other = some ticket) :
    ∃ old, store.tickets.lookup other = some old ∧
      ticket = if other = ticketId then change old else old := by
  by_cases here : other = ticketId
  · subst here
    rw [lookup_update] at found
    rcases Option.map_eq_some_iff.mp found with ⟨old, stored, rfl⟩
    exact ⟨old, stored, (if_pos rfl).symm⟩
  · rw [lookup_update_of_ne here] at found
    exact ⟨ticket, found, (if_neg here).symm⟩

end

def Call.checks : Call → Bool
  | .create _ _ | .insert _ _ _ _ _ | .own _ _ _ _
  | .noting _ _ _ _ _ _ | .changing _ _ _ _ => true
  | _ => false

/-- The steps of a call, by what they do to the store. -/
inductive Resumed (tick : Tick) (store : Store) : Call → Store → Option Call → Prop where
  | refused (call : Call) (checks : call.checks = true) : Resumed tick store call store none
  | known (input : CreateTicketInput) (actor requester : Account) :
      Resumed tick store (.create input actor) store (some (.number input actor requester 0))
  | numbered (input : CreateTicketInput) (actor requester : Account)
      (attempt : ℕ) :
      Resumed tick store (.number input actor requester attempt) store
        (some (.insert input actor requester
          (nextTicketNumber store.tickets.entries.length) attempt))
  | taken (input : CreateTicketInput) (actor requester : Account)
      (ticketNumber : String) (attempt : ℕ) :
      Resumed tick store (.insert input actor requester ticketNumber attempt)
        store (some (.number input actor requester (attempt + 1)))
  | filed (input : CreateTicketInput) (actor requester : Account)
      (ticketNumber : String) (attempt : ℕ)
      (fresh : store.tickets.lookup tick.id = none) :
      Resumed tick store (.insert input actor requester ticketNumber attempt) { store with
          tickets := store.tickets.insert tick.id (ticketOf input requester ticketNumber tick.now) }
        (some (.event (eventOf tick.id .CREATED actor none (some ticketNumber) none)))
  | owned (ticketId : ObjectId) (body : String) (actor : Account)
      (imageKey : Option String) :
      Resumed tick store (.own ticketId body actor imageKey) store
        (some (.noting ticketId body .CUSTOMER actor imageKey none))
  | drafted (ticketId : ObjectId) (body : String)
      (visibility : NoteVisibility) (actor : Account)
      (imageKey : Option String) (resolution : Option Resolution)
      (ticket : SupportTicket)
      (found : store.tickets.lookup ticketId = some ticket)
      (given : ¬ (trimmed body = "" ∧ imageKey.filter (· ≠ "") = none)) :
      Resumed tick store
        (.noting ticketId body visibility actor imageKey resolution) store
        (some (.note
          { ticketId
            authorUid := actor._id
            authorName := nameOf actor
            visibility
            body := trimmed body
            imageKey } ticket.firstResponseAt.isSome resolution))
  | noted (content : NoteContent) (answered : Bool)
      (resolution : Option Resolution)
      (fresh : tick.id ∉ store.notes.map SupportTicketNote._id) :
      Resumed tick store (.note content answered resolution)
        { store with notes := store.notes ++ [content.row tick] }
        (if content.visibility = .CUSTOMER ∧ answered = false then
          some (.stamp content.ticketId tick.id tick.now resolution)
        else
          resolution.map (Resolution.call content.ticketId))
  | stamped (ticketId noteId : ObjectId) (firstResponseAt : Instant)
      (resolution : Option Resolution) :
      Resumed tick store (.stamp ticketId noteId firstResponseAt resolution)
        (store.update ticketId fun ticket =>
          { ticket with firstResponseAt := some firstResponseAt })
        (resolution.map (Resolution.call ticketId))
  | coded (ticketId : ObjectId) (resolution : Resolution)
      (note : Option String) :
      Resumed tick store (.code ticketId resolution note) (store.update ticketId fun ticket =>
          { ticket with resolutionCode := some resolution.resolutionCode })
        (some
          (if isGiven note then
            .noting ticketId (note.getD "") .CUSTOMER resolution.actor none (some resolution)
          else
            resolution.call ticketId))
  | planned (ticketId : ObjectId) (status : TicketStatus)
      (actor : Account) (reason : Option String) (ticket : SupportTicket)
      (found : store.tickets.lookup ticketId = some ticket)
      (changes : ticket.status ≠ status)
      (reasoned : status = .ESCALATED → isGiven reason = true) :
      Resumed tick store (.changing ticketId status actor reason) store
        (some (.status ticketId ticket.status status tick.now actor reason))
  | changed (ticketId : ObjectId) (old status : TicketStatus)
      (now : Instant) (actor : Account) (reason : Option String) :
      Resumed tick store (.status ticketId old status now actor reason)
        (store.update ticketId (setStatus old status now))
        (some (.event (eventOf ticketId (eventTypeOf old status) actor
          (some old.text) (some status.text) reason)))
  | recorded (event : SupportTicketEvent) :
      Resumed tick store (.event event) { store with events := store.events ++ [event] } none

theorem resumed_of_resume {tick : Tick} {call : Call} {store after : Store}
    {next : Option Call}
    (resumes : resume tick call store = some (after, next)) :
    Resumed tick store call after next := by
  cases call with
  | create input actor =>
    cases resumes
    cases tick.requester with
    | none => exact .refused _ rfl
    | some requester => exact .known input actor requester
  | number input actor requester attempt =>
    cases resumes
    exact .numbered input actor requester attempt
  | insert input actor requester ticketNumber attempt =>
    rw [resume] at resumes
    split at resumes
    · cases resumes
    · rename_i fresh
      split at resumes
      · cases resumes
        split
        · exact .taken input actor requester ticketNumber attempt
        · exact .refused _ rfl
      · cases resumes
        exact .filed input actor requester ticketNumber attempt (AList.lookup_eq_none.mpr fresh)
  | own ticketId body actor imageKey =>
    rw [resume] at resumes
    split at resumes
    · cases resumes
      exact .refused _ rfl
    · split at resumes
      · cases resumes
        exact .refused _ rfl
      · cases resumes
        exact .owned ticketId body actor imageKey
  | noting ticketId body visibility actor imageKey resolution =>
    rw [resume] at resumes
    split at resumes
    · cases resumes
      exact .refused _ rfl
    · rename_i ticket found
      split at resumes
      · cases resumes
        exact .refused _ rfl
      · rename_i given
        cases resumes
        exact .drafted ticketId body visibility actor imageKey resolution ticket found given
  | note content answered resolution =>
    rw [resume] at resumes
    split at resumes
    · cases resumes
    · rename_i fresh
      cases resumes
      exact .noted content answered resolution fresh
  | stamp ticketId noteId firstResponseAt resolution =>
    cases resumes
    exact .stamped ticketId noteId firstResponseAt resolution
  | code ticketId resolution note =>
    cases resumes
    exact .coded ticketId resolution note
  | changing ticketId status actor reason =>
    rw [resume] at resumes
    split at resumes
    · cases resumes
      exact .refused _ rfl
    · rename_i ticket found
      split at resumes
      · cases resumes
        exact .refused _ rfl
      · rename_i changes
        split at resumes
        · cases resumes
          exact .refused _ rfl
        · rename_i reasoned
          cases resumes
          refine .planned ticketId status actor reason ticket found changes ?_
          intro escalates
          by_contra blank
          exact reasoned ⟨escalates, by simpa using blank⟩
  | status ticketId old status now actor reason =>
    cases resumes
    exact .changed ticketId old status now actor reason
  | event event =>
    cases resumes
    exact .recorded event

end Lalaba.SupportTickets
