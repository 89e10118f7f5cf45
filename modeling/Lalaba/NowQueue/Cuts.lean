import Lalaba.NowQueue.Service

/-!
# What the limits of the sources hide

A source is cut in the order of the database, and its items are ranked afterwards.  The
cut respects the ranking for documents and for stuck orders, whose rank is their age.
It does not for tickets, which are cut by age and ranked by what is overdue; for
unsettled orders, where a missing deadline comes first; and for wallets, of which only
the first ones are looked at.
-/

namespace Lalaba.NowQueue

open Orders (roundCentavos)
open SupportTickets (SupportTicket TicketPriority storedRank)
open Wallets (Wallet)

theorem roundCentavos_mono {first second : ℚ} (le : first ≤ second) :
    roundCentavos first ≤ roundCentavos second :=
  Int.floor_mono (by linarith)

theorem minutesBetween_anti {first second finish : Instant}
    (le : first ≤ second) :
    minutesBetween second finish ≤ minutesBetween first finish := by
  have le : (first : ℚ) ≤ (second : ℚ) := by exact_mod_cast le
  apply roundCentavos_mono
  exact div_le_div_of_nonneg_right (by linarith) (by simp [MINUTE])

theorem minutesBetween_mono {start first second : Instant}
    (le : first ≤ second) :
    minutesBetween start first ≤ minutesBetween start second := by
  have le : (first : ℚ) ≤ (second : ℚ) := by exact_mod_cast le
  apply roundCentavos_mono
  exact div_le_div_of_nonneg_right (by linarith) (by simp [MINUTE])

def RespectsRanking (shown hidden : List WorkItem) : Prop :=
  ∀ first ∈ shown, ∀ second ∈ hidden, Before first second

def ShowsVariances (database : Database) : Prop :=
  ∀ entry ∈ database.wallets.entries, variance database entry ≠ 0 →
    (∃ item ∈ walletVariances database, item.subjectId = entry.1) ∨
      (walletVariances database).length = PER_SOURCE_LIMIT

/-- No source hides anything worse than what it shows. -/
structure HidesNothingWorse (database : Database) (now : Instant)
    (answers : Answers database now) : Prop where
  tickets : RespectsRanking
    (shown (ticketItem database now) answers.tickets.sorted)
    (cut (ticketItem database now) answers.tickets.sorted)
  documents : RespectsRanking
    (shown (documentItem now) answers.documents.sorted)
    (cut (documentItem now) answers.documents.sorted)
  stuck : RespectsRanking
    (shown (stuckItem now) answers.stuck.sorted)
    (cut (stuckItem now) answers.stuck.sorted)
  unsettled : RespectsRanking
    (shown (unsettledItem now) answers.unsettled.sorted)
    (cut (unsettledItem now) answers.unsettled.sorted)
  wallets : RespectsRanking (walletVariances database)
    ((disagreeing database database.wallets.entries).map (varianceItem database))
  variances : ShowsVariances database

/--
A ticket that is overdue is overdue by less than the other one; one that is not comes
behind one that is, behind one that nobody is assigned to, or is due later.
-/
def NoMoreUrgent (now : Instant) (kept hidden : SupportTicket) : Prop :=
  if 0 < minutesLate now hidden then
    minutesLate now hidden ≤ minutesLate now kept
  else
    0 < minutesLate now kept ∨
      isUnassigned kept = true ∧ isUnassigned hidden = false ∨
      isUnassigned kept = isUnassigned hidden ∧ minutesLate now hidden ≤ minutesLate now kept

/--
Against an order without a deadline, another one without has not waited longer, and one
with a deadline has a day left and is not further beyond it than the first has waited.
-/
def NoMorePressing (now : Instant) (kept hidden : OnlineOrder) : Prop :=
  match kept.abandonmentDeadlineAt, hidden.abandonmentDeadlineAt with
  | some _, _ => True
  | none, none =>
    minutesBetween hidden.updatedAt now ≤ minutesBetween kept.updatedAt now
  | none, some deadline =>
    24 * 60 ≤ minutesBetween now deadline ∧
      -minutesBetween now deadline ≤ minutesBetween kept.updatedAt now

def LooksAtEnough (database : Database) : Prop :=
  PER_SOURCE_LIMIT ≤
      (disagreeing database (database.wallets.entries.take WALLET_LIMIT)).length ∨
    ∀ entry ∈ database.wallets.entries.drop WALLET_LIMIT, variance database entry = 0

/-! ## One source at a time -/

section

variable {database : Database} {now : Instant} {Row : Type}
  {rows : List (Entry Row)} {time : Row → Option Instant}
  {item : Entry Row → WorkItem}

theorem Answer.le (answer : Answer rows time) {kept hidden : Entry Row}
    (first : kept ∈ answer.sorted.take PER_SOURCE_LIMIT)
    (second : hidden ∈ answer.sorted.drop PER_SOURCE_LIMIT) :
    storedRank (time kept.2) ≤ storedRank (time hidden.2) := by
  have ordered := answer.ordered
  rw [← List.take_append_drop PER_SOURCE_LIMIT answer.sorted, List.pairwise_append] at ordered
  exact ordered.2.2 kept first hidden second

theorem respectsRanking_iff (answer : Answer rows time) :
    RespectsRanking (shown item answer.sorted) (cut item answer.sorted) ↔
      ∀ kept ∈ answer.sorted.take PER_SOURCE_LIMIT,
        ∀ hidden ∈ answer.sorted.drop PER_SOURCE_LIMIT, Before (item kept) (item hidden) := by
  rw [RespectsRanking, shown, cut, List.forall_mem_map]
  refine forall₂_congr fun kept _ => ?_
  rw [List.forall_mem_map]

theorem respectsRanking_of_le (answer : Answer rows time)
    (pairs : ∀ kept hidden : Entry Row,
      storedRank (time kept.2) ≤ storedRank (time hidden.2) → Before (item kept) (item hidden)) :
    RespectsRanking (shown item answer.sorted) (cut item answer.sorted) :=
  (respectsRanking_iff answer).mpr fun kept first hidden second =>
    pairs kept hidden (answer.le first second)

theorem before_ticketItem {kept hidden : Entry SupportTicket} :
    Before (ticketItem database now kept) (ticketItem database now hidden) ↔
      NoMoreUrgent now kept.2 hidden.2 := by
  simp only [Before, ticketItem, waited, Option.some_or, Option.getD_some,
    NoMoreUrgent, decide_eq_true_eq]
  by_cases late : 0 < minutesLate now hidden.2
  · rw [if_pos late, if_pos late]
    by_cases late' : 0 < minutesLate now kept.2
    · simp [late', rankOf]
    · rw [if_neg late']
      have later : ¬ minutesLate now hidden.2 ≤ minutesLate now kept.2 := by
        omega
      split <;> simp [rankOf, later]
  · rw [if_neg late, if_neg late]
    by_cases late' : 0 < minutesLate now kept.2
    · rw [if_pos late']
      split <;> simp [rankOf, late']
    · rw [if_neg late']
      cases isUnassigned kept.2 <;> cases isUnassigned hidden.2 <;> simp [rankOf, late']

theorem before_documentItem {kept hidden : Entry KycDocument}
    (le : kept.2.createdAt ≤ hidden.2.createdAt) :
    Before (documentItem now kept) (documentItem now hidden) := by
  have older := @minutesBetween_anti _ _ now le
  simp only [Before, documentItem, waited, Option.none_or, Option.getD_some]
  split <;> split <;> simp [rankOf] <;> omega

theorem before_stuckItem {kept hidden : Entry OnlineOrder}
    (le : kept.2.updatedAt ≤ hidden.2.updatedAt) :
    Before (stuckItem now kept) (stuckItem now hidden) := by
  have older := @minutesBetween_anti _ _ now le
  simp only [Before, stuckItem, waited, Option.some_or, Option.getD_some]
  split <;> split <;> simp [rankOf] <;> omega

theorem before_unsettledItem {kept hidden : Entry OnlineOrder}
    (le : storedRank kept.2.abandonmentDeadlineAt ≤ storedRank hidden.2.abandonmentDeadlineAt) :
    Before (unsettledItem now kept) (unsettledItem now hidden) ↔
      NoMorePressing now kept.2 hidden.2 := by
  simp only [Before, unsettledItem, waited, NoMorePressing]
  cases due : kept.2.abandonmentDeadlineAt with
  | some deadline =>
    rw [due] at le
    cases due' : hidden.2.abandonmentDeadlineAt with
    | none =>
      rw [due'] at le
      cases le
    | some deadline' =>
      rw [due'] at le
      have le : deadline ≤ deadline' := Nat.le_of_succ_le_succ le
      have sooner := @minutesBetween_mono now _ _ le
      simp only [Option.map_some, Option.any_some, Option.some_or,
        Option.getD_some, decide_eq_true_eq, iff_true]
      split <;> split <;> simp [rankOf] <;> omega
  | none =>
    cases due' : hidden.2.abandonmentDeadlineAt with
    | none =>
      simp [rankOf]
    | some deadline' =>
      simp only [Option.map_none, Option.any_none, Option.none_or,
        Option.map_some, Option.any_some, Option.some_or,
        Option.getD_some, decide_eq_true_eq, Bool.false_eq_true, if_false]
      split <;> simp [rankOf] <;> omega

theorem respectsRanking_walletVariances :
    RespectsRanking (walletVariances database)
      ((disagreeing database database.wallets.entries).map (varianceItem database)) := by
  intro first shown second hidden
  rcases List.mem_map.mp shown with ⟨kept, _, rfl⟩
  rcases List.mem_map.mp hidden with ⟨other, _, rfl⟩
  exact .inr ⟨rfl, le_rfl⟩

theorem length_walletVariances :
    (walletVariances database).length =
      min PER_SOURCE_LIMIT (disagreeing database
        (database.wallets.entries.take WALLET_LIMIT)).length := by
  rw [walletVariances, shown, List.length_map, List.length_take]

theorem shows_iff {branchId : ObjectId} :
    (∃ item ∈ walletVariances database, item.subjectId = branchId) ↔
      ∃ entry ∈ (disagreeing database (database.wallets.entries.take WALLET_LIMIT)).take
            PER_SOURCE_LIMIT, entry.1 = branchId := by
  rw [walletVariances, shown]
  constructor
  · rintro ⟨item, member, rfl⟩
    rcases List.mem_map.mp member with ⟨entry, within, rfl⟩
    exact ⟨entry, within, rfl⟩
  · rintro ⟨entry, within, rfl⟩
    exact ⟨_, List.mem_map_of_mem within, rfl⟩

theorem showsVariances_iff : ShowsVariances database ↔ LooksAtEnough database := by
  have full : (walletVariances database).length = PER_SOURCE_LIMIT ↔
      PER_SOURCE_LIMIT ≤ (disagreeing database
        (database.wallets.entries.take WALLET_LIMIT)).length := by
    rw [length_walletVariances]
    exact min_eq_left_iff
  by_cases enough : PER_SOURCE_LIMIT ≤ (disagreeing database
      (database.wallets.entries.take WALLET_LIMIT)).length
  · exact iff_of_true (fun _ _ _ => .inr (full.mpr enough)) (.inl enough)
  · have all : (disagreeing database
          (database.wallets.entries.take WALLET_LIMIT)).take PER_SOURCE_LIMIT =
        disagreeing database (database.wallets.entries.take WALLET_LIMIT) :=
      List.take_of_length_le (by omega)
    rw [LooksAtEnough, or_iff_right enough, ShowsVariances]
    simp only [full, enough, or_false, shows_iff, all]
    constructor
    · intro shows entry beyond
      by_contra disagrees
      rcases shows entry (List.mem_of_mem_drop beyond) disagrees with ⟨other, among, same⟩
      have within : other.1 ∈ (database.wallets.entries.map Sigma.fst).take WALLET_LIMIT := by
        rw [← List.map_take]
        exact List.mem_map_of_mem (List.mem_filter.mp among).1
      have beyond : other.1 ∈ (database.wallets.entries.map Sigma.fst).drop WALLET_LIMIT := by
        rw [← List.map_drop, same]
        exact List.mem_map_of_mem beyond
      exact List.disjoint_take_drop database.wallets.nodupKeys le_rfl within beyond
    · intro agrees entry member disagrees
      rw [← List.take_append_drop WALLET_LIMIT database.wallets.entries, List.mem_append] at member
      rcases member with within | beyond
      · exact ⟨entry, List.mem_filter.mpr ⟨within, decide_eq_true disagrees⟩, rfl⟩
      · exact (disagrees (agrees entry beyond)).elim

end

/--
The queue hides nothing worse than it shows exactly if no ticket beyond the oldest ones
is more urgent than one of them, no unsettled order beyond the first ones is more
pressing than one without a deadline, and no wallet beyond those that are looked at
disagrees with its ledger, unless enough of these do.
-/
theorem hidesNothingWorse_iff (database : Database) (now : Instant)
    (answers : Answers database now) :
    HidesNothingWorse database now answers ↔
      (∀ kept ∈ answers.tickets.sorted.take PER_SOURCE_LIMIT,
        ∀ hidden ∈ answers.tickets.sorted.drop PER_SOURCE_LIMIT, NoMoreUrgent now kept.2 hidden.2) ∧
      (∀ kept ∈ answers.unsettled.sorted.take PER_SOURCE_LIMIT,
        ∀ hidden ∈ answers.unsettled.sorted.drop PER_SOURCE_LIMIT,
          NoMorePressing now kept.2 hidden.2) ∧
      LooksAtEnough database := by
  have tickets : RespectsRanking
        (shown (ticketItem database now) answers.tickets.sorted)
        (cut (ticketItem database now) answers.tickets.sorted) ↔
      ∀ kept ∈ answers.tickets.sorted.take PER_SOURCE_LIMIT,
        ∀ hidden ∈ answers.tickets.sorted.drop PER_SOURCE_LIMIT,
          NoMoreUrgent now kept.2 hidden.2 := by
    rw [respectsRanking_iff]
    exact forall₂_congr fun _ _ => forall₂_congr fun _ _ =>
      before_ticketItem
  have unsettled : RespectsRanking
        (shown (unsettledItem now) answers.unsettled.sorted)
        (cut (unsettledItem now) answers.unsettled.sorted) ↔
      ∀ kept ∈ answers.unsettled.sorted.take PER_SOURCE_LIMIT,
        ∀ hidden ∈ answers.unsettled.sorted.drop PER_SOURCE_LIMIT,
          NoMorePressing now kept.2 hidden.2 := by
    rw [respectsRanking_iff]
    exact forall₂_congr fun _ first => forall₂_congr fun _ second =>
      before_unsettledItem (answers.unsettled.le first second)
  constructor
  · intro holds
    exact ⟨tickets.mp holds.tickets, unsettled.mp holds.unsettled,
      showsVariances_iff.mp holds.variances⟩
  · rintro ⟨urgent, pressing, enough⟩
    constructor
    · exact tickets.mpr urgent
    · exact respectsRanking_of_le answers.documents fun _ _ le =>
        before_documentItem (Nat.le_of_succ_le_succ le)
    · exact respectsRanking_of_le answers.stuck fun _ _ le =>
        before_stuckItem (Nat.le_of_succ_le_succ le)
    · exact unsettled.mpr pressing
    · exact respectsRanking_walletVariances
    · exact showsVariances_iff.mpr enough

theorem build_sorted (roleId : String) (database : Database) (now : Instant)
    (answers : Answers database now) :
    (build roleId database now answers).items.Pairwise Before ∧
      (build roleId database now answers).items.Perm (groups roleId database now answers).flatten :=
  ⟨List.pairwise_insertionSort Before _, List.perm_insertionSort Before _⟩

/-! ## What a queue shows -/

/-- Of a kind of work that was searched for, every row is on the queue. -/
def Queue.Lists {Row : Type} (queue : Queue) (type : WorkItemType)
    (item : Entry Row → WorkItem) (rows : List (Entry Row)) : Prop :=
  type ∈ queue.searchedTypes → ∀ entry ∈ rows, item entry ∈ queue.items

structure Queue.Complete (queue : Queue) (database : Database) (now : Instant) : Prop where
  tickets : queue.Lists .TICKET_OVERDUE (ticketItem database now)
    (selected awaitsReply database.tickets)
  documents : queue.Lists .KYC_AWAITING_REVIEW (documentItem now)
    (selected awaitsReview database.documents)
  stuck : queue.Lists .ORDER_STUCK (stuckItem now) (selected (isStuck now) database.orders)
  unsettled : queue.Lists .ORDER_UNSETTLED (unsettledItem now)
    (selected isUnsettled database.orders)
  wallets : queue.Lists .WALLET_VARIANCE (varianceItem database)
    (disagreeing database (database.wallets.entries.take WALLET_LIMIT))

theorem mem_visible {roleId : String} {type : WorkItemType} {items : List WorkItem}
    {item : WorkItem} :
    item ∈ visible roleId type items ↔ type ∈ searchedTypes roleId ∧ item ∈ items := by
  rw [visible]
  split <;> simp_all

theorem searchedTypes_iff {roleId : String} {type : WorkItemType} :
    type ∈ searchedTypes roleId ↔ ∃ roles, (type, roles) ∈ TYPE_ROLES ∧ roleId ∈ roles := by
  simp [searchedTypes]

theorem type_of_mem_groups {roleId : String} {database : Database} {now : Instant}
    {answers : Answers database now} {item : WorkItem}
    (member : item ∈ (groups roleId database now answers).flatten) :
    item.type ∈ searchedTypes roleId := by
  simp only [groups, List.mem_flatten, List.mem_cons, List.not_mem_nil, or_false] at member
  rcases member with ⟨group, rfl | rfl | rfl | rfl | rfl, member⟩ <;>
  rcases mem_visible.mp member with ⟨searched, listed⟩ <;>
  rcases List.mem_map.mp listed with ⟨entry, _, rfl⟩
  · rw [ticketItem]
    dsimp only
    split
    · exact searched
    · rw [searchedTypes_iff] at searched ⊢
      rcases searched with ⟨roles, row, role⟩
      have same : roles = ["admin", "support"] := by
        simpa [TYPE_ROLES] using row
      exact ⟨roles, by rw [same]; simp [TYPE_ROLES], role⟩
  all_goals exact searched

/-- A source that stays below the limit hides nothing. -/
theorem lists_of_not_truncated {Row : Type} {roleId : String} {database : Database}
    {now : Instant} {answers : Answers database now} {type : WorkItemType}
    {item : Entry Row → WorkItem} {rows found : List (Entry Row)}
    (whole : (build roleId database now answers).truncated = false)
    (source : visible roleId type (shown item rows) ∈ groups roleId database now answers)
    (answered : ∀ entry ∈ found, entry ∈ rows) :
    (build roleId database now answers).Lists type item found := by
  intro searched entry member
  have below := List.any_eq_false.mp whole _ source
  have visible_eq : visible roleId type (shown item rows) = shown item rows :=
    if_pos (List.contains_iff_mem.mpr searched)
  apply (build_sorted roleId database now answers).2.mem_iff.mpr
  refine List.mem_flatten.mpr ⟨_, source, ?_⟩
  rw [visible_eq] at below ⊢
  refine List.mem_map.mpr ⟨entry, ?_, rfl⟩
  rw [List.take_of_length_le]
  · exact answered entry member
  · simp only [shown, List.length_map, List.length_take, decide_eq_true_eq] at below
    omega

namespace Sample

/-- A ticket of this priority, filed at this minute. -/
def ticket (priority : TicketPriority) (minute : ℕ) : SupportTicket where
  ticketNumber := ""
  subject := "Late"
  body := "Where is it?"
  source := .CUSTOMER_APP
  status := .OPEN
  priority
  category := .ORDER_LATE
  requester :=
    { uid := "customer"
      displayName := "Maria Santos"
      email := none
      phone := none
      role := "customer" }
  links :=
    { orderId := none
      providerBranchId := none
      paymentReference := none }
  createdAt := some (minute * MINUTE)

/-- Ten tickets that can wait for a day, and an urgent one after them. -/
def database : Database where
  users := ∅
  tickets := (List.range 10).foldr (fun minute tickets =>
      tickets.insert (toString minute) (ticket .LOW minute))
    (AList.insert "urgent" (ticket .URGENT 10) ∅)
  documents := ∅
  orders := ∅
  wallets := ∅
  ledger := []

def now : Instant := 70 * MINUTE

end Sample

/-- The oldest tickets hide the one that is overdue. -/
theorem oldTicketsHideTheOverdueOne :
    ¬ ∀ (database : Database) (now : Instant)
        (answers : Answers database now),
        HidesNothingWorse database now answers := by
  intro always
  have hides := (always Sample.database Sample.now (.stable _ _)).tickets
  revert hides
  rw [RespectsRanking]
  decide +kernel

end Lalaba.NowQueue
