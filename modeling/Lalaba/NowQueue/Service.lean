import Lalaba.Kyc.Documents
import Lalaba.SupportTickets.Inbox

/-!
# The queue of what needs somebody now

Five sources each read one collection, sorted by the database and cut after a number of
rows.  What they contribute is then sorted by priority and, within a priority, by how
long it has been waiting.
-/

namespace Lalaba.NowQueue

open Foundation
open Kyc (KycDocumentStatus)
open Orders (OrderStatus roundCentavos trimmed)
open SupportTickets (SupportTicket TicketPriority storedRank TICKET_ACTIVE_STATUSES)
open Wallets (Wallet WalletLedgerEntry)

/-! ## Work items -/

inductive WorkItemType where
  | TICKET_OVERDUE
  | TICKET_UNASSIGNED
  | KYC_AWAITING_REVIEW
  | ORDER_STUCK
  | ORDER_UNSETTLED
  | WALLET_VARIANCE
deriving DecidableEq

inductive WorkPriority where
  | HIGH
  | MEDIUM
  | LOW
deriving DecidableEq

inductive WorkSubjectType where
  | ORDER
  | TICKET
  | PERSON
  | BRANCH
deriving DecidableEq

structure WorkItem where
  id : String
  type : WorkItemType
  priority : WorkPriority
  title : String
  reason : String
  subjectType : WorkSubjectType
  subjectId : String
  enteredQueueAt : Option Instant
  ageMinutes : Option ℤ
  dueAt : Option Instant
  overdueMinutes : Option ℤ
  assigneeName : Option String
  amountCentavos : Option ℤ
deriving DecidableEq

structure Queue where
  items : List WorkItem
  searchedTypes : List WorkItemType
  truncated : Bool
  generatedAt : Instant

def TYPE_ROLES : List (WorkItemType × List String) :=
  [(.TICKET_OVERDUE, ["admin", "support"]),
    (.TICKET_UNASSIGNED, ["admin", "support"]),
    (.KYC_AWAITING_REVIEW, ["admin", "support"]),
    (.ORDER_STUCK, ["admin", "support"]),
    (.ORDER_UNSETTLED, ["admin", "support"]),
    (.WALLET_VARIANCE, ["admin"])]

def FIRST_RESPONSE_TARGET_MINUTES : TicketPriority → ℕ
  | .URGENT => 30
  | .HIGH => 2 * 60
  | .NORMAL => 8 * 60
  | .LOW => 24 * 60

def PROVIDER_ACCEPTANCE_GRACE_MINUTES : ℕ := 2 * 60

def AWAITING_PROVIDER : List OrderStatus := [.pendingProviderAcceptance, .providerChangeProposed]

def PER_SOURCE_LIMIT : ℕ := 10

def MINUTE : ℕ := 60000

/-- `minutesBetween`, with `Math.round`. -/
def minutesBetween (start finish : Instant) : ℤ :=
  roundCentavos (((finish : ℚ) - (start : ℚ)) / (MINUTE : ℚ))

/-- `humanMinutes`: "2h 14m". -/
def humanMinutes (minutes : ℤ) : String :=
  let abs := minutes.natAbs
  let hours := abs / 60
  let days := hours / 24
  if abs < 60 then s!"{abs}m"
  else if hours < 24 then
    if abs % 60 = 0 then s!"{hours}h" else s!"{hours}h {abs % 60}m"
  else if hours % 24 = 0 then s!"{days}d"
  else s!"{days}d {hours % 24}h"

def grouped (number : ℕ) : String :=
  let digits := number.repr.toList.reverse
  let marked := digits.zipIdx.flatMap fun (digit, place) =>
    if place ≠ 0 ∧ place % 3 = 0 then [',', digit] else [digit]
  String.ofList marked.reverse

def formatPeso (centavos : ℤ) : String :=
  let abs := centavos.natAbs
  let sign := if centavos < 0 then "−" else ""
  let cents := if abs % 100 < 10 then s!"0{abs % 100}" else s!"{abs % 100}"
  s!"{sign}₱{grouped (abs / 100)}.{cents}"

def lastSix (id : ObjectId) : String := String.ofList (id.toList.drop (id.length - 6))

/-! ## Collections -/

structure UserName where
  firstName : Option String
  lastName : Option String

/-- The fields of a document that the queue reads. -/
structure KycDocument where
  ownerUid : Uid
  documentType : String
  status : KycDocumentStatus
  claimedByUid : Option Uid
  createdAt : Instant

/-- The fields of an order that the queue reads. -/
structure OnlineOrder where
  orderNumber : Option String
  status : OrderStatus
  updatedAt : Instant
  abandonmentDeadlineAt : Option Instant
  customerTotalCentavos : Option ℚ
  amountCollectedCentavos : Option ℚ
  providerName : Option String
  customerDisplayName : Option String

/-- The collections; there is one wallet for a branch. -/
structure Database where
  users : Collection UserName
  tickets : Collection SupportTicket
  documents : Collection KycDocument
  orders : Collection OnlineOrder
  wallets : Collection Wallet
  ledger : List WalletLedgerEntry

abbrev Entry (Row : Type) : Type := Σ _ : ObjectId, Row

def selected {Row : Type} (selects : Row → Bool)
    (collection : Collection Row) : List (Entry Row) :=
  collection.entries.filter fun entry => selects entry.2

def StoredBefore {Row : Type} (time : Row → Option Instant)
    (first second : Entry Row) : Prop :=
  storedRank (time first.2) ≤ storedRank (time second.2)

instance {Row : Type} {time : Row → Option Instant} : DecidableRel (StoredBefore time) := fun _ _ =>
  inferInstanceAs (Decidable (_ ≤ _))

instance {Row : Type} {time : Row → Option Instant} : Std.Total (StoredBefore time) where
  total _ _ := Nat.le_total _ _

instance {Row : Type} {time : Row → Option Instant} : IsTrans (Entry Row) (StoredBefore time) where
  trans _ _ _ := Nat.le_trans

/--
What the database answers to a sorted query: the rows, in its own order among those of
one time.
-/
structure Answer {Row : Type} (rows : List (Entry Row)) (time : Row → Option Instant) where
  sorted : List (Entry Row)
  perm : sorted.Perm rows
  ordered : sorted.Pairwise (StoredBefore time)

def Answer.stable {Row : Type} (rows : List (Entry Row))
    (time : Row → Option Instant) : Answer rows time where
  sorted := rows.insertionSort (StoredBefore time)
  perm := List.perm_insertionSort _ _
  ordered := List.pairwise_insertionSort _ _

def awaitsReply (ticket : SupportTicket) : Bool :=
  TICKET_ACTIVE_STATUSES.contains ticket.status && ticket.firstResponseAt.isNone

def awaitsReview (document : KycDocument) : Bool :=
  document.status == .SUBMITTED && document.claimedByUid.isNone

def isStuck (now : Instant) (order : OnlineOrder) : Bool :=
  AWAITING_PROVIDER.contains order.status &&
    decide (order.updatedAt + PROVIDER_ACCEPTANCE_GRACE_MINUTES * MINUTE ≤ now)

def isUnsettled (order : OnlineOrder) : Bool :=
  order.status == .abandonedUnsettled ||
    order.abandonmentDeadlineAt.isSome &&
      decide (order.amountCollectedCentavos.getD 0 < order.customerTotalCentavos.getD 0)

/-- What the database answers while a queue is built. -/
structure Answers (database : Database) (now : Instant) where
  tickets : Answer (selected awaitsReply database.tickets) SupportTicket.createdAt
  documents : Answer (selected awaitsReview database.documents)
    fun document => some document.createdAt
  stuck : Answer (selected (isStuck now) database.orders)
    fun order => some order.updatedAt
  unsettled : Answer (selected isUnsettled database.orders) OnlineOrder.abandonmentDeadlineAt

def Answers.stable (database : Database) (now : Instant) : Answers database now where
  tickets := .stable _ _
  documents := .stable _ _
  stuck := .stable _ _
  unsettled := .stable _ _

/-! ## The items -/

/-- The name of a user, as `namesFor` has it. -/
def nameOf (database : Database) (uid : Uid) : Option String :=
  (database.users.lookup uid).map fun user =>
    trimmed (user.firstName.getD "" ++ " " ++ user.lastName.getD "")

def dueAt (now : Instant) (ticket : SupportTicket) : Instant :=
  ticket.createdAt.getD now + FIRST_RESPONSE_TARGET_MINUTES ticket.priority * MINUTE

def minutesLate (now : Instant) (ticket : SupportTicket) : ℤ :=
  minutesBetween (dueAt now ticket) now

def isUnassigned (ticket : SupportTicket) : Bool := (ticket.assignedToUid.filter (· ≠ "")).isNone

def ticketItem (database : Database) (now : Instant)
    (entry : Entry SupportTicket) : WorkItem :=
  let ticket := entry.2
  let overdueMinutes := minutesLate now ticket
  let isOverdue := decide (0 < overdueMinutes)
  { id := "ticket:" ++ entry.1
    type := if isOverdue then .TICKET_OVERDUE else .TICKET_UNASSIGNED
    priority :=
      if isOverdue then .HIGH
      else if isUnassigned ticket then .MEDIUM
      else .LOW
    title :=
      if ticket.ticketNumber ≠ "" then
        ticket.ticketNumber ++ " — " ++ ticket.subject
      else
        ticket.subject
    reason :=
      if isOverdue then
        "First reply overdue by " ++ humanMinutes overdueMinutes
      else if isUnassigned ticket then
        "Waiting for a first reply, nobody assigned"
      else
        "Waiting for a first reply"
    subjectType := .TICKET
    subjectId := entry.1
    enteredQueueAt := some (ticket.createdAt.getD now)
    ageMinutes := some (minutesBetween (ticket.createdAt.getD now) now)
    dueAt := some (dueAt now ticket)
    overdueMinutes := some overdueMinutes
    assigneeName := (ticket.assignedToUid.filter (· ≠ "")).bind (nameOf database)
    amountCentavos := none }

def documentItem (now : Instant) (entry : Entry KycDocument) : WorkItem :=
  let document := entry.2
  let ageMinutes := minutesBetween document.createdAt now
  { id := "kyc:" ++ entry.1
    type := .KYC_AWAITING_REVIEW
    priority := if 24 * 60 < ageMinutes then .HIGH else .MEDIUM
    title := (document.documentType.map fun char =>
      if char = '_' then ' ' else char).toLower
    reason := "Submitted " ++ humanMinutes ageMinutes ++ " ago, unclaimed"
    subjectType := .PERSON
    subjectId := document.ownerUid
    enteredQueueAt := some document.createdAt
    ageMinutes := some ageMinutes
    dueAt := none
    overdueMinutes := none
    assigneeName := none
    amountCentavos := none }

def orderTitle (entry : Entry OnlineOrder) : String :=
  entry.2.orderNumber.getD ("Order " ++ lastSix entry.1)

def stuckItem (now : Instant) (entry : Entry OnlineOrder) : WorkItem :=
  let order := entry.2
  let ageMinutes := minutesBetween order.updatedAt now
  { id := "order-stuck:" ++ entry.1
    type := .ORDER_STUCK
    priority := if 6 * 60 < ageMinutes then .HIGH else .MEDIUM
    title := orderTitle entry
    reason := "Waiting for provider acceptance for " ++ humanMinutes ageMinutes
    subjectType := .ORDER
    subjectId := entry.1
    enteredQueueAt := some order.updatedAt
    ageMinutes := some ageMinutes
    dueAt := none
    overdueMinutes := some (ageMinutes - PROVIDER_ACCEPTANCE_GRACE_MINUTES)
    assigneeName := order.providerName
    amountCentavos := some (roundCentavos (order.customerTotalCentavos.getD 0)) }

def unsettledItem (now : Instant) (entry : Entry OnlineOrder) : WorkItem :=
  let order := entry.2
  let minutesLeft := order.abandonmentDeadlineAt.map (minutesBetween now)
  { id := "order-unsettled:" ++ entry.1
    type := .ORDER_UNSETTLED
    priority :=
      if minutesLeft.any (fun minutes => minutes < 24 * 60) then .HIGH
      else .MEDIUM
    title := orderTitle entry
    reason :=
      match minutesLeft with
      | none => "Unsettled, no sweep deadline"
      | some minutes =>
        if minutes ≤ 0 then "Sweep deadline passed"
        else "Sweep gives up in " ++ humanMinutes minutes
    subjectType := .ORDER
    subjectId := entry.1
    enteredQueueAt := some order.updatedAt
    ageMinutes := some (minutesBetween order.updatedAt now)
    dueAt := order.abandonmentDeadlineAt
    overdueMinutes := minutesLeft.map fun minutes => -minutes
    assigneeName := order.customerDisplayName
    amountCentavos := some (max 0 (roundCentavos
      (order.customerTotalCentavos.getD 0 - order.amountCollectedCentavos.getD 0))) }

def ledgerSum (database : Database) (branchId : ObjectId) : ℤ :=
  ((database.ledger.filter fun row => row.branchId == branchId).map
    WalletLedgerEntry.amountCentavos).sum

def variance (database : Database) (entry : Entry Wallet) : ℤ :=
  entry.2.balanceCentavos - ledgerSum database entry.1

def varianceItem (database : Database) (entry : Entry Wallet) : WorkItem where
  id := "wallet-variance:" ++ entry.1
  type := .WALLET_VARIANCE
  priority := .HIGH
  title := "Ledger variance"
  reason := "A stored balance disagrees with its ledger by " ++ formatPeso (variance database entry)
  subjectType := .BRANCH
  subjectId := entry.1
  enteredQueueAt := none
  ageMinutes := none
  dueAt := none
  overdueMinutes := none
  assigneeName := none
  amountCentavos := some (variance database entry)

def shown {Row : Type} (item : Entry Row → WorkItem)
    (rows : List (Entry Row)) : List WorkItem :=
  (rows.take PER_SOURCE_LIMIT).map item

def cut {Row : Type} (item : Entry Row → WorkItem)
    (rows : List (Entry Row)) : List WorkItem :=
  (rows.drop PER_SOURCE_LIMIT).map item

def WALLET_LIMIT : ℕ := 500

def disagreeing (database : Database) (wallets : List (Entry Wallet)) :
    List (Entry Wallet) :=
  wallets.filter fun entry => variance database entry ≠ 0

def walletVariances (database : Database) : List WorkItem :=
  shown (varianceItem database) (disagreeing database (database.wallets.entries.take WALLET_LIMIT))

/-! ## The queue -/

def rankOf : WorkPriority → ℕ
  | .HIGH => 0
  | .MEDIUM => 1
  | .LOW => 2

def waited (item : WorkItem) : ℤ := (item.overdueMinutes.or item.ageMinutes).getD 0

def Before (first second : WorkItem) : Prop :=
  rankOf first.priority < rankOf second.priority ∨
    rankOf first.priority = rankOf second.priority ∧ waited second ≤ waited first

instance : DecidableRel Before := fun _ _ =>
  inferInstanceAs (Decidable (_ ∨ _))

instance : Std.Total Before where
  total first second := by
    unfold Before
    omega

instance : IsTrans WorkItem Before where
  trans first second third := by
    unfold Before
    omega

def searchedTypes (roleId : String) : List WorkItemType :=
  (TYPE_ROLES.filter fun row => row.2.contains roleId).map Prod.fst

def visible (roleId : String) (type : WorkItemType)
    (items : List WorkItem) : List WorkItem :=
  if (searchedTypes roleId).contains type then items else []

def groups (roleId : String) (database : Database) (now : Instant)
    (answers : Answers database now) : List (List WorkItem) :=
  [visible roleId .TICKET_OVERDUE
      (shown (ticketItem database now) answers.tickets.sorted),
    visible roleId .KYC_AWAITING_REVIEW (shown (documentItem now) answers.documents.sorted),
    visible roleId .ORDER_STUCK (shown (stuckItem now) answers.stuck.sorted),
    visible roleId .ORDER_UNSETTLED (shown (unsettledItem now) answers.unsettled.sorted),
    visible roleId .WALLET_VARIANCE (walletVariances database)]

/-- `build`, when no source fails. -/
def build (roleId : String) (database : Database) (now : Instant)
    (answers : Answers database now) : Queue where
  items := (groups roleId database now answers).flatten.insertionSort Before
  searchedTypes := searchedTypes roleId
  truncated := (groups roleId database now answers).any fun group =>
    PER_SOURCE_LIMIT ≤ group.length
  generatedAt := now

end Lalaba.NowQueue
