import Lalaba.Foundation.Pages
import Lalaba.Foundation.Sorting
import Lalaba.SupportTickets.Service
import Mathlib.Data.PNat.Defs

/-!
# The inbox of the desk

The inbox is sorted by severity, and by age within a severity.  The database sorts the
texts of the priorities and cuts the page, and what it returns is sorted by severity:
so the page is one of the inbox exactly if the alphabet cuts the same window out of
every priority.
-/

namespace Lalaba.SupportTickets

open Foundation
open Orders (trimmed)
open Search (occursIn nextTicketNumber)

abbrev TicketEntry : Type := Σ _ : ObjectId, SupportTicket

/-- Letters as the runtime and the database compare them. -/
structure Letters where
  toUpperCase : String → String
  fold : Char → Char

structure TicketFilterInput where
  search : Option String := none
  statuses : Option (List TicketStatus) := none
  activeOnly : Option Bool := none
  sources : Option (List TicketSource) := none
  priorities : Option (List TicketPriority) := none
  categories : Option (List TicketCategory) := none
  assignedToUid : Option Uid := none
  unassignedOnly : Option Bool := none
  orderId : Option ObjectId := none
  requesterUid : Option Uid := none
  limit : Option ℕ+ := none
  offset : Option ℕ := none

namespace TicketFilterInput

/-- `$in` of a list, unless none is given. -/
def among {Value : Type} [BEq Value] (values : Option (List Value))
    (value : Value) : Bool :=
  match values.getD [] with
  | [] => true
  | values => values.contains value

def equals (given stored : Option String) : Bool :=
  (given.filter (· ≠ "")).all fun text => stored == some text

/-- The query that `find` builds. -/
def selects (letters : Letters) (filter : TicketFilterInput)
    (ticket : SupportTicket) : Bool :=
  (match filter.statuses.getD [] with
    | [] =>
      !filter.activeOnly.getD false || TICKET_ACTIVE_STATUSES.contains ticket.status
    | statuses => statuses.contains ticket.status) &&
  among filter.sources ticket.source &&
  among filter.priorities ticket.priority &&
  among filter.categories ticket.category &&
  equals filter.orderId ticket.links.orderId &&
  equals filter.requesterUid (some ticket.requester.uid) &&
  (if filter.unassignedOnly.getD false then ticket.assignedToUid.isNone
    else equals filter.assignedToUid ticket.assignedToUid) &&
  ((filter.search.map trimmed).filter (· ≠ "")).all fun term =>
    ticket.ticketNumber == letters.toUpperCase term ||
      occursIn letters.fold term ticket.subject ||
      occursIn letters.fold term ticket.requester.displayName

end TicketFilterInput

def storedRank : Option Instant → ℕ
  | none => 0
  | some instant => instant + 1

/-- The order of `sort({ priority: 1, createdAt: 1 })`; a priority is a text. -/
def StoredBefore (first second : TicketEntry) : Prop :=
  first.2.priority.text < second.2.priority.text ∨
    first.2.priority = second.2.priority ∧
      storedRank first.2.createdAt ≤ storedRank second.2.createdAt

instance : DecidableRel StoredBefore := fun _ _ =>
  inferInstanceAs (Decidable (_ ∨ _))

/-- `order`: how severe a priority is, the most severe first. -/
def TicketPriority.order : TicketPriority → ℕ
  | .URGENT => 0
  | .HIGH => 1
  | .NORMAL => 2
  | .LOW => 3

/-- `getTime() ?? 0`. -/
def timeOf : Option Instant → ℕ
  | none => 0
  | some instant => instant

def SortedBefore (first second : TicketEntry) : Prop :=
  first.2.priority.order < second.2.priority.order ∨
    first.2.priority.order = second.2.priority.order ∧
      timeOf first.2.createdAt ≤ timeOf second.2.createdAt

instance : DecidableRel SortedBefore := fun _ _ =>
  inferInstanceAs (Decidable (_ ∨ _))

/-! ## Pages -/

structure PaginatedTickets where
  data : List TicketEntry
  total : ℕ
  limit : ℕ
  offset : ℕ

def Store.selected (letters : Letters) (filter : TicketFilterInput)
    (store : Store) : List TicketEntry :=
  store.tickets.entries.filter fun entry =>
    filter.selects letters entry.2

/-- `find`; rows that the sort leaves equal keep the order of the collection. -/
def find (letters : Letters) (filter : TicketFilterInput) (store : Store) :
    PaginatedTickets :=
  let limit : ℕ := filter.limit.getD 25
  let offset := filter.offset.getD 0
  { data :=
      (page offset limit ((store.selected letters filter).insertionSort
        StoredBefore)).insertionSort SortedBefore
    total := (store.selected letters filter).length
    limit
    offset }

def MoreUrgent (first second : TicketEntry) : Prop :=
  first.2.priority.order < second.2.priority.order ∨
    first.2.priority = second.2.priority ∧
      storedRank first.2.createdAt ≤ storedRank second.2.createdAt

instance : DecidableRel MoreUrgent := fun _ _ =>
  inferInstanceAs (Decidable (_ ∨ _))

def inbox (letters : Letters) (filter : TicketFilterInput)
    (store : Store) : List TicketEntry :=
  (store.selected letters filter).insertionSort MoreUrgent

def TicketPriority.alphabetical : TicketPriority → ℕ
  | .HIGH => 0
  | .LOW => 1
  | .NORMAL => 2
  | .URGENT => 3

def window (offset limit start count : ℕ) : ℕ × ℕ :=
  (offset - start, min (limit - (start - offset)) (count - (offset - start)))

def windowOf (rank : TicketPriority → ℕ) (offset limit : ℕ)
    (tickets : List TicketEntry) (priority : TicketPriority) : ℕ × ℕ :=
  window offset limit
    (tickets.countP fun entry => rank entry.2.priority < rank priority)
    (tickets.countP fun entry => entry.2.priority == priority)

/--
Of every priority, as many tickets are shown whether the priorities are ranked by the
alphabet or by severity, and unless these are none they are the same.
-/
def SameWindows (offset limit : ℕ) (tickets : List TicketEntry) : Prop :=
  ∀ priority,
    let stored := windowOf TicketPriority.alphabetical offset limit tickets priority
    let severe := windowOf TicketPriority.order offset limit tickets priority
    stored.2 = severe.2 ∧ (stored.2 = 0 ∨ stored.1 = severe.1)

/-! ### The orders compared -/

section

variable {first second third : TicketEntry} {priority other : TicketPriority}

theorem text_lt_text : priority.text < other.text ↔ priority.alphabetical < other.alphabetical := by
  cases priority <;> cases other <;> decide

theorem order_inj : priority.order = other.order ↔ priority = other := by
  cases priority <;> cases other <;> decide

theorem alphabetical_inj : priority.alphabetical = other.alphabetical ↔ priority = other := by
  cases priority <;> cases other <;> decide

theorem storedBefore_iff :
    StoredBefore first second ↔
      first.2.priority.alphabetical < second.2.priority.alphabetical ∨
        first.2.priority.alphabetical = second.2.priority.alphabetical ∧
          storedRank first.2.createdAt ≤ storedRank second.2.createdAt := by
  rw [StoredBefore, text_lt_text, alphabetical_inj]

theorem moreUrgent_iff :
    MoreUrgent first second ↔
      first.2.priority.order < second.2.priority.order ∨
        first.2.priority.order = second.2.priority.order ∧
          storedRank first.2.createdAt ≤ storedRank second.2.createdAt := by
  rw [MoreUrgent, order_inj]

instance : Std.Total StoredBefore where
  total first second := by
    rw [storedBefore_iff, storedBefore_iff]
    omega

instance : IsTrans TicketEntry StoredBefore where
  trans first second third := by
    rw [storedBefore_iff, storedBefore_iff, storedBefore_iff]
    omega

instance : Std.Total SortedBefore where
  total first second := by
    unfold SortedBefore
    omega

instance : IsTrans TicketEntry SortedBefore where
  trans first second third := by
    unfold SortedBefore
    omega

instance : Std.Total MoreUrgent where
  total first second := by
    rw [moreUrgent_iff, moreUrgent_iff]
    omega

instance : IsTrans TicketEntry MoreUrgent where
  trans first second third := by
    rw [moreUrgent_iff, moreUrgent_iff, moreUrgent_iff]
    omega

theorem sortedBefore_of_storedBefore
    (same : first.2.priority = second.2.priority)
    (stored : StoredBefore first second) : SortedBefore first second := by
  rw [storedBefore_iff, same] at stored
  rw [SortedBefore, same]
  refine .inr ⟨rfl, ?_⟩
  rcases stored with stored | ⟨_, older⟩
  · exact (Nat.lt_irrefl _ stored).elim
  · cases created : first.2.createdAt with
    | none => exact Nat.zero_le _
    | some instant =>
      cases created' : second.2.createdAt with
      | none =>
        rw [created, created'] at older
        cases older
      | some instant' =>
        rw [created, created'] at older
        exact Nat.succ_le_succ_iff.mp older

theorem storedBefore_iff_moreUrgent
    (same : first.2.priority = second.2.priority) :
    StoredBefore first second ↔ MoreUrgent first second := by
  rw [storedBefore_iff, moreUrgent_iff, same]
  omega

end

section

variable {priority : TicketPriority} {tickets : List TicketEntry} {offset limit : ℕ}

def ofPriority (priority : TicketPriority)
    (tickets : List TicketEntry) : List TicketEntry :=
  tickets.filter fun entry => entry.2.priority == priority

theorem block_order :
    block (fun entry : TicketEntry => entry.2.priority.order)
      priority.order tickets = ofPriority priority tickets := by
  apply List.filter_congr
  intro entry _
  rw [Bool.eq_iff_iff, beq_iff_eq, beq_iff_eq, order_inj]

theorem block_alphabetical :
    block (fun entry : TicketEntry => entry.2.priority.alphabetical)
      priority.alphabetical tickets = ofPriority priority tickets := by
  apply List.filter_congr
  intro entry _
  rw [Bool.eq_iff_iff, beq_iff_eq, beq_iff_eq, alphabetical_inj]

theorem ofPriority_sorted :
    ofPriority priority (tickets.insertionSort StoredBefore) =
      ofPriority priority (tickets.insertionSort MoreUrgent) := by
  rw [ofPriority, filter_insertionSort, ofPriority, filter_insertionSort]
  have agree : ∀ first ∈ ofPriority priority tickets,
      ∀ second ∈ ofPriority priority tickets,
        StoredBefore first second ↔ MoreUrgent first second := by
    intro first member second member'
    have one : first.2.priority = priority := by
      simpa [ofPriority] using (List.mem_filter.mp member).2
    have other : second.2.priority = priority := by
      simpa [ofPriority] using (List.mem_filter.mp member').2
    exact storedBefore_iff_moreUrgent (one.trans other.symm)
  have sorted := List.map_insertionSort StoredBefore MoreUrgent id
    (ofPriority priority tickets) agree
  rwa [List.map_id, List.map_id] at sorted

theorem ofPriority_resorted
    (sorted : tickets.Pairwise StoredBefore) :
    ofPriority priority (tickets.insertionSort SortedBefore) =
      ofPriority priority tickets := by
  rw [ofPriority, filter_insertionSort]
  apply List.Pairwise.insertionSort_eq
  apply List.pairwise_filter.mpr
  apply sorted.imp
  intro first second stored one other
  exact sortedBefore_of_storedBefore ((beq_iff_eq.mp one).trans (beq_iff_eq.mp other).symm) stored

theorem ofPriority_stored_page :
    ofPriority priority
        (page offset limit (tickets.insertionSort StoredBefore)) =
      page (offset - tickets.countP fun entry =>
          entry.2.priority.alphabetical < priority.alphabetical)
        (limit - ((tickets.countP fun entry =>
          entry.2.priority.alphabetical < priority.alphabetical) - offset))
        (ofPriority priority (tickets.insertionSort MoreUrgent)) := by
  have sorted := List.pairwise_insertionSort StoredBefore tickets
  have ranked : (tickets.insertionSort StoredBefore).Pairwise
      fun first second => first.2.priority.alphabetical ≤
        second.2.priority.alphabetical := by
    apply sorted.imp
    intro first second stored
    rw [storedBefore_iff] at stored
    omega
  have count : before (fun entry : TicketEntry =>
        entry.2.priority.alphabetical) priority.alphabetical
        (tickets.insertionSort StoredBefore) =
      tickets.countP fun entry =>
        entry.2.priority.alphabetical < priority.alphabetical :=
    (List.perm_insertionSort StoredBefore tickets).countP_eq _
  rw [← block_alphabetical, block_page ranked, count, block_alphabetical, ofPriority_sorted]

theorem ofPriority_inbox_page :
    ofPriority priority
        (page offset limit (tickets.insertionSort MoreUrgent)) =
      page (offset - tickets.countP fun entry =>
          entry.2.priority.order < priority.order)
        (limit - ((tickets.countP fun entry =>
          entry.2.priority.order < priority.order) - offset))
        (ofPriority priority (tickets.insertionSort MoreUrgent)) := by
  have sorted := List.pairwise_insertionSort MoreUrgent tickets
  have ranked : (tickets.insertionSort MoreUrgent).Pairwise
      fun first second => first.2.priority.order ≤
        second.2.priority.order := by
    apply sorted.imp
    intro first second urgent
    rw [moreUrgent_iff] at urgent
    omega
  have count : before (fun entry : TicketEntry =>
        entry.2.priority.order) priority.order
        (tickets.insertionSort MoreUrgent) =
      tickets.countP fun entry =>
        entry.2.priority.order < priority.order :=
    (List.perm_insertionSort MoreUrgent tickets).countP_eq _
  rw [← block_order, block_page ranked, count, block_order]

theorem eq_of_priorities {tickets' : List TicketEntry}
    (sorted : tickets.Pairwise fun first second =>
      first.2.priority.order ≤ second.2.priority.order)
    (sorted' : tickets'.Pairwise fun first second =>
      first.2.priority.order ≤ second.2.priority.order)
    (same : ∀ priority, ofPriority priority tickets = ofPriority priority tickets') :
    tickets = tickets' := by
  apply eq_of_blocks sorted sorted'
  intro index
  by_cases ranks : ∃ priority : TicketPriority, priority.order = index
  · rcases ranks with ⟨priority, rfl⟩
    rw [block_order, block_order, same]
  · have none (tickets : List TicketEntry) :
        block (fun entry => entry.2.priority.order) index tickets = [] := by
      apply List.filter_eq_nil_iff.mpr
      intro entry _ here
      exact ranks ⟨_, beq_iff_eq.mp here⟩
    rw [none, none]

end

section

variable {letters : Letters} {filter : TicketFilterInput} {store : Store}

theorem nodup_selected : (store.selected letters filter).Nodup :=
  store.tickets.nodupKeys.nodup.filter _

/--
The page is one of the inbox exactly if the alphabet cuts the same window out of every
priority as severity does.
-/
theorem pageIsOfTheInbox_iff :
    (find letters filter store).data =
        page (filter.offset.getD 0) (filter.limit.getD 25) (inbox letters filter store) ↔
      SameWindows (filter.offset.getD 0) (filter.limit.getD 25)
        (store.selected letters filter) := by
  let selected := store.selected letters filter
  let offset := filter.offset.getD 0
  let limit : ℕ := filter.limit.getD 25
  have sorted : (find letters filter store).data.Pairwise
      fun first second =>
        first.2.priority.order ≤ second.2.priority.order := by
    apply (List.pairwise_insertionSort SortedBefore _).imp
    intro first second before
    unfold SortedBefore at before
    omega
  have sorted' : (page offset limit (inbox letters filter store)).Pairwise
      fun first second =>
        first.2.priority.order ≤ second.2.priority.order := by
    apply List.Pairwise.sublist page_sublist
    apply (List.pairwise_insertionSort MoreUrgent _).imp
    intro first second urgent
    rw [moreUrgent_iff] at urgent
    omega
  have distinct (priority : TicketPriority) :
      (ofPriority priority (selected.insertionSort MoreUrgent)).Nodup :=
    ((List.perm_insertionSort MoreUrgent selected).nodup_iff.mpr nodup_selected).filter _
  have count (priority : TicketPriority) :
      (ofPriority priority (selected.insertionSort MoreUrgent)).length =
        selected.countP fun entry => entry.2.priority == priority := by
    rw [ofPriority, ← List.countP_eq_length_filter]
    exact (List.perm_insertionSort MoreUrgent selected).countP_eq _
  have shown (priority : TicketPriority) :
      ofPriority priority (find letters filter store).data =
        ofPriority priority (page offset limit (selected.insertionSort StoredBefore)) :=
    ofPriority_resorted ((List.pairwise_insertionSort StoredBefore selected).sublist page_sublist)
  have windows (priority : TicketPriority) :
      ofPriority priority (find letters filter store).data =
          ofPriority priority (page offset limit (inbox letters filter store)) ↔
        (windowOf TicketPriority.alphabetical offset limit selected priority).2 =
            (windowOf TicketPriority.order offset limit selected priority).2 ∧
          ((windowOf TicketPriority.alphabetical offset limit selected priority).2 = 0 ∨
            (windowOf TicketPriority.alphabetical offset limit selected priority).1 =
              (windowOf TicketPriority.order offset limit selected priority).1) := by
    rw [shown, ofPriority_stored_page, inbox, ofPriority_inbox_page,
      page_eq_iff (distinct priority), count]
    rfl
  constructor
  · intro same priority
    exact (windows priority).mp (congrArg _ same)
  · intro same
    apply eq_of_priorities sorted sorted'
    exact fun priority => (windows priority).mpr (same priority)

end

namespace Sample

/-- A ticket of this priority, filed at this instant. -/
def ticket (priority : TicketPriority) (createdAt : Instant) : SupportTicket where
  ticketNumber := nextTicketNumber createdAt
  subject := "Late"
  body := "Where is it?"
  source := .CUSTOMER_APP
  status := .OPEN
  priority
  category := .ORDER_LATE
  requester :=
    { uid := "customer"
      displayName := "Maria Santos"
      email := none
      phone := none
      role := "customer" }
  links :=
    { orderId := none
      providerBranchId := none
      paymentReference := none }
  createdAt := some createdAt

def inbox : Store where
  tickets := AList.insert "urgent" (ticket .URGENT 2) (AList.insert "low" (ticket .LOW 1) ∅)
  notes := []
  events := []

def letters : Letters where
  toUpperCase := String.toUpper
  fold := Char.toLower

end Sample

/-- On pages of one ticket, the first one shows the ticket that is not urgent. -/
theorem firstPageHidesTheUrgentTicket :
    ¬ ∀ (letters : Letters) (filter : TicketFilterInput) (store : Store),
        (find letters filter store).data =
          page (filter.offset.getD 0) (filter.limit.getD 25) (inbox letters filter store) := by
  intro always
  have shown := congrArg (List.map Sigma.fst)
    (always Sample.letters { limit := some 1 } Sample.inbox)
  revert shown
  decide +kernel

end Lalaba.SupportTickets
