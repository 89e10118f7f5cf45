import Lalaba.SupportTickets.Service

/-!
# Resolving, closing and reopening

A change of status derives the event it records and the time of the resolution from
the old and the new status, by two different conditions.  Both take the closing of a
resolved ticket for its reopening, and the event of an escalation hides that the
ticket was settled.
-/

namespace Lalaba.SupportTickets.Resolution

open Foundation

def settled : TicketStatus → Bool
  | .RESOLVED | .CLOSED => true
  | _ => false

def history (ticketId : ObjectId) (store : Store) : List TicketEventType :=
  (store.events.filter fun event => event.ticketId == ticketId).map SupportTicketEvent.type

/-- A ticket before and after a call: what was asked for, and what became of it. -/
structure Passage where
  request : Request
  old : TicketStatus
  status : TicketStatus
  recorded : List TicketEventType
  resolvedAt : Option Instant

def passageOf (ticketId : ObjectId) (before after : Store)
    (request : Request) (old ticket : SupportTicket) : Passage where
  request
  old := old.status
  status := ticket.status
  recorded := (history ticketId after).drop (history ticketId before).length
  resolvedAt := ticket.resolvedAt

def see (ticketId : ObjectId) (before : Store)
    (action : Request × List Tick) (after : Store)
    (passages : List Passage) : List Passage :=
  match before.tickets.lookup ticketId, after.tickets.lookup ticketId with
  | some old, some ticket =>
    passages ++ [passageOf ticketId before after action.1 old ticket]
  | _, _ => passages

def Passage.resolves (passage : Passage) : Bool :=
  passage.old != .RESOLVED && passage.status == .RESOLVED

def Passage.reopens (passage : Passage) : Bool := settled passage.old && !settled passage.status

/--
Whether the last resolution of a ticket stands: it does until the ticket is reopened.
Before the first resolution and the first reopening it is `none`.
-/
def stands : List Passage → Option Bool :=
  List.foldl (fun standing passage =>
    if passage.resolves then some true
    else if passage.reopens then some false
    else standing) none

def Booked (passages : List Passage) (passage : Passage) : Prop :=
  (.REOPENED ∈ passage.recorded ↔ passage.reopens = true) ∧
    (stands (passages ++ [passage]) = some true → passage.resolvedAt ≠ none) ∧
    (stands (passages ++ [passage]) = some false → passage.resolvedAt = none)

def Bookkept (passages : List Passage) : Prop :=
  ∀ earlier passage, earlier ++ [passage] <+: passages → Booked earlier passage

def slips (ticketId : ObjectId) (old : TicketStatus) : Request → Bool
  | .changeStatus other status _ reason =>
    other == ticketId &&
      (old == .RESOLVED && status == .CLOSED ||
        settled old && status == .ESCALATED && isGiven reason)
  | _ => false

/-! ## What a call does to a ticket -/

/-- The status that a call is going to give the ticket, and the reason. -/
def plan (ticketId : ObjectId) :
    Call → Option (TicketStatus × Option String)
  | .changing other status _ reason =>
    if other = ticketId then some (status, reason) else none
  | .code other resolution _ | .noting other _ _ _ _ (some resolution)
  | .stamp other _ _ (some resolution) =>
    if other = ticketId then
      some (.RESOLVED, some resolution.resolutionCode)
    else
      none
  | .note content _ (some resolution) =>
    if content.ticketId = ticketId then
      some (.RESOLVED, some resolution.resolutionCode)
    else
      none
  | _ => none

def idle (ticketId : ObjectId) : Call → Bool
  | .status other _ _ _ _ _ => other != ticketId
  | .event event => event.ticketId != ticketId
  | _ => true

/-- What became of a ticket. -/
inductive Effect (ticketId : ObjectId) (store after : Store)
    (old : SupportTicket) (planned : Option (TicketStatus × Option String)) :
    Prop where
  | same (ticket : SupportTicket)
      (found : after.tickets.lookup ticketId = some ticket)
      (status : ticket.status = old.status)
      (resolvedAt : ticket.resolvedAt = old.resolvedAt)
      (recorded : history ticketId after = history ticketId store)
  | changed (ticket : SupportTicket) (now : Instant)
      (reason : Option String)
      (found : after.tickets.lookup ticketId = some ticket)
      (asked : planned = some (ticket.status, reason))
      (changes : old.status ≠ ticket.status)
      (reasoned : ticket.status = .ESCALATED → isGiven reason = true)
      (resolvedAt : ticket.resolvedAt = resolvedAtOf old.status ticket.status now old.resolvedAt)
      (recorded : history ticketId after =
        history ticketId store ++ [eventTypeOf old.status ticket.status])

section

variable {ticketId other : ObjectId} {store middle after : Store}
  {ticket old : SupportTicket} {call : Call} {next : Option Call}
  {tick : Tick} {ticks : List Tick}
  {planned : Option (TicketStatus × Option String)}

theorem history_of_events (same : after.events = store.events) :
    history ticketId after = history ticketId store := by
  rw [history, history, same]

theorem history_append {event : SupportTicketEvent}
    (appended : after.events = store.events ++ [event]) :
    history ticketId after = history ticketId store ++
      if event.ticketId = ticketId then [event.type] else [] := by
  rw [history, history, appended, List.filter_append, List.map_append, List.filter_singleton]
  by_cases here : event.ticketId = ticketId
  · rw [if_pos here, beq_iff_eq.mpr here]
    rfl
  · rw [if_neg here, beq_eq_false_iff_ne.mpr here]
    rfl

theorem Effect.later (effect : Effect ticketId middle after ticket planned)
    (status : ticket.status = old.status)
    (resolvedAt : ticket.resolvedAt = old.resolvedAt)
    (recorded : history ticketId middle = history ticketId store) :
    Effect ticketId store after old planned := by
  cases effect with
  | same ticket' found status' resolvedAt' recorded' =>
    exact .same ticket' found (status'.trans status)
      (resolvedAt'.trans resolvedAt) (recorded'.trans recorded)
  | changed ticket' now reason found asked changes reasoned resolvedAt' recorded' =>
    rw [status] at changes
    rw [status, resolvedAt] at resolvedAt'
    rw [recorded, status] at recorded'
    exact .changed ticket' now reason found asked changes reasoned resolvedAt' recorded'

theorem Effect.found
    (effect : Effect ticketId store after old planned) :
    ∃ ticket, after.tickets.lookup ticketId = some ticket := by
  cases effect with
  | same ticket found | changed ticket _ _ found => exact ⟨ticket, found⟩

theorem Effect.stamped
    (effect : Effect ticketId store after old planned)
    (found : after.tickets.lookup ticketId = some ticket)
    (stamped : old.resolvedAt ≠ none ↔ old.status = .RESOLVED) :
    ticket.resolvedAt ≠ none ↔ ticket.status = .RESOLVED := by
  cases effect with
  | same ticket' found' status resolvedAt =>
    cases found.symm.trans found'
    rw [status, resolvedAt]
    exact stamped
  | changed ticket' now reason found' asked changes reasoned resolvedAt =>
    cases found.symm.trans found'
    rw [resolvedAt, resolvedAtOf]
    by_cases resolves : ticket.status = .RESOLVED
    · simp [resolves]
    · rw [if_neg resolves]
      split
      · simp [resolves]
      · rename_i unresolved
        exact iff_of_false (fun set => unresolved (stamped.mp set)) resolves

variable {status was : TicketStatus} {reason : Option String}

theorem written_of_status {now : Instant} {actor : Account}
    (ran : desk.alone ticks (.status ticketId was status now actor reason) store = some after)
    (found : store.tickets.lookup ticketId = some old) :
    after.tickets.lookup ticketId = some (setStatus was status now old) ∧
      history ticketId after = history ticketId store ++ [eventTypeOf was status] := by
  rcases Service.alone_cases ran with ⟨tick, rest, rfl, last | goes⟩
  · cases last.2
  · rcases goes with ⟨middle, next, resumes, ran⟩
    cases resumes
    rcases Service.alone_cases ran with ⟨tick, rest, rfl, last | goes⟩
    · cases last.2
      constructor
      · exact lookup_update.trans (by rw [found]; rfl)
      · refine (history_append (congrArg (· ++ _) events_update)).trans ?_
        rw [eventOf, if_pos rfl]
    · rcases goes with ⟨_, _, resumes, _⟩
      cases resumes

/-- A step that writes no status leaves the ticket's, and its plan. -/
theorem Resumed.passes
    (resumed : Resumed tick store call middle next)
    (found : store.tickets.lookup ticketId = some old)
    (idles : idle ticketId call = true) :
    (∃ ticket, middle.tickets.lookup ticketId = some ticket ∧
      ticket.status = old.status ∧ ticket.resolvedAt = old.resolvedAt) ∧
      history ticketId middle = history ticketId store ∧
      ∀ call', next = some call' →
        idle ticketId call' = true ∧
            plan ticketId call' = plan ticketId call ∨
          ∃ status now actor reason,
            call' = .status ticketId old.status status now actor reason ∧
              plan ticketId call = some (status, reason) ∧
              old.status ≠ status ∧
              (status = .ESCALATED → isGiven reason = true) := by
  have updated (other : ObjectId) (change : SupportTicket → SupportTicket)
      (keeps : (change old).status = old.status ∧ (change old).resolvedAt = old.resolvedAt) :
      ∃ ticket, (store.update other change).tickets.lookup ticketId =
          some ticket ∧ ticket.status = old.status ∧
        ticket.resolvedAt = old.resolvedAt := by
    by_cases here : ticketId = other
    · subst here
      exact ⟨change old, lookup_update.trans (by rw [found]; rfl), keeps⟩
    · exact ⟨old, (lookup_update_of_ne here).trans found, rfl, rfl⟩
  have kept : ∃ ticket, store.tickets.lookup ticketId = some ticket ∧
      ticket.status = old.status ∧ ticket.resolvedAt = old.resolvedAt :=
    ⟨old, found, rfl, rfl⟩
  cases resumed with
  | filed input actor requester ticketNumber attempt fresh =>
    have other : ticketId ≠ tick.id := by
      rintro rfl
      rw [fresh] at found
      cases found
    refine ⟨⟨old, (AList.lookup_insert_ne other).trans found, rfl, rfl⟩, rfl, ?_⟩
    rintro call' ⟨⟩
    exact .inl ⟨bne_iff_ne.mpr other.symm, rfl⟩
  | planned held status actor reason ticket found' changes reasoned =>
    refine ⟨kept, rfl, ?_⟩
    intro call' goes
    cases goes
    by_cases here : held = ticketId
    · subst here
      cases found.symm.trans found'
      exact .inr ⟨status, _, actor, reason, rfl, if_pos rfl, changes, reasoned⟩
    · exact .inl ⟨bne_iff_ne.mpr here, (if_neg here).symm⟩
  | changed held old' status now actor reason =>
    have elsewhere : held ≠ ticketId := bne_iff_ne.mp idles
    refine ⟨⟨old, (lookup_update_of_ne elsewhere.symm).trans found, rfl,
      rfl⟩, history_of_events events_update, ?_⟩
    intro call' goes
    cases goes
    exact .inl ⟨idles, rfl⟩
  | recorded event =>
    refine ⟨kept, ?_, ?_⟩
    · refine (history_append rfl).trans ?_
      rw [if_neg (bne_iff_ne.mp idles), List.append_nil]
    · intro call' goes
      cases goes
  | noted content answered resolution fresh =>
    refine ⟨kept, history_of_events rfl, ?_⟩
    intro call' goes
    left
    split at goes
    · cases goes
      cases resolution <;> exact ⟨rfl, rfl⟩
    · cases resolution with
      | none => cases goes
      | some resolution =>
        cases goes
        exact ⟨rfl, rfl⟩
  | stamped held noteId firstResponseAt resolution =>
    refine ⟨updated held _ ⟨rfl, rfl⟩, history_of_events events_update, ?_⟩
    intro call' goes
    cases resolution with
    | none => cases goes
    | some resolution =>
      cases goes
      exact .inl ⟨rfl, rfl⟩
  | coded held resolution note =>
    refine ⟨updated held _ ⟨rfl, rfl⟩, history_of_events events_update, ?_⟩
    intro call' goes
    cases goes
    split <;> exact .inl ⟨rfl, rfl⟩
  | drafted held body visibility actor imageKey resolution =>
    refine ⟨kept, rfl, ?_⟩
    intro call' goes
    cases goes
    cases resolution <;> exact .inl ⟨rfl, rfl⟩
  | refused =>
    refine ⟨kept, rfl, ?_⟩
    intro call' goes
    cases goes
  | known | numbered | taken | owned =>
    refine ⟨kept, rfl, ?_⟩
    intro call' goes
    cases goes
    exact .inl ⟨rfl, rfl⟩

theorem effect_of_alone
    (ran : desk.alone ticks call store = some after)
    (found : store.tickets.lookup ticketId = some old)
    (idles : idle ticketId call = true) :
    Effect ticketId store after old (plan ticketId call) := by
  induction ticks generalizing call store old with
  | nil => cases ran
  | cons tick rest induction =>
    rcases Service.alone_cases ran with ⟨_, _, same, goes⟩
    cases same
    rcases goes with ⟨_, resumes⟩ | ⟨middle, next, resumes, ran⟩
    · rcases Resumed.passes (resumed_of_resume resumes) found idles with
        ⟨⟨ticket, found', status, resolvedAt⟩, recorded, _⟩
      exact .same ticket found' status resolvedAt recorded
    · rcases Resumed.passes (resumed_of_resume resumes) found idles with
        ⟨⟨ticket, found', status, resolvedAt⟩, recorded, follows⟩
      rcases follows next rfl with
        ⟨idles', kept⟩ |
        ⟨status', now, actor, reason, rfl, planned, changes, reasoned⟩
      · rw [← kept]
        exact (induction ran found' idles').later status resolvedAt recorded
      · rw [planned]
        rcases written_of_status ran found' with ⟨written, event⟩
        refine .changed _ now reason written rfl changes reasoned ?_ ?_
        · exact congrArg (resolvedAtOf old.status status' now) resolvedAt
        · exact event.trans (congrArg (· ++ _) recorded)

theorem status_of_changing {actor : Account}
    (ran : desk.alone ticks (.changing ticketId status actor reason) store =
      some after) (found : store.tickets.lookup ticketId = some old)
    (changes : old.status ≠ status)
    (reasoned : status = .ESCALATED → isGiven reason = true) :
    ∃ ticket, after.tickets.lookup ticketId = some ticket ∧ ticket.status = status := by
  rcases Service.alone_cases ran with ⟨tick, rest, rfl, goes⟩
  have resumes : resume tick (.changing ticketId status actor reason)
      store = some (store, some (.status ticketId old.status status tick.now actor reason)) := by
    rw [resume, found]
    dsimp only
    rw [if_neg changes, if_neg]
    rintro ⟨escalates, blank⟩
    rw [reasoned escalates] at blank
    cases blank
  rcases goes with ⟨_, last⟩ | ⟨middle, next, goes, ran⟩
  · cases resumes.symm.trans last
  · cases resumes.symm.trans goes
    exact ⟨_, (written_of_status ran found).1, rfl⟩

theorem idle_of_enter {request : Request}
    (enters : enter request store = some call) :
    idle ticketId call = true := by
  cases request <;> cases enters <;> rfl

theorem unslipped {request : Request} (enters : enter request store = some call)
    (planned : plan ticketId call = some (status, reason))
    (holds : slips ticketId was request = false)
    (reasoned : status = .ESCALATED → isGiven reason = true) :
    ¬ (was = .RESOLVED ∧ status = .CLOSED) ∧ ¬ (settled was = true ∧ status = .ESCALATED) := by
  cases request with
  | changeStatus held asked actor why =>
    cases enters
    rw [plan] at planned
    split at planned
    · rename_i here
      cases planned
      constructor
      · rintro ⟨rfl, rfl⟩
        simp [slips, here] at holds
      · rintro ⟨isSettled, rfl⟩
        simp [slips, here, isSettled, reasoned rfl] at holds
    · cases planned
  | resolve held resolutionCode actor note =>
    cases enters
    rw [plan] at planned
    split at planned
    · cases planned
      constructor
      · rintro ⟨_, closes⟩
        cases closes
      · rintro ⟨_, escalates⟩
        cases escalates
    · cases planned
  | create | addNote | addMySupportTicketNote =>
    cases enters
    cases planned

theorem eventTypeOf_eq_reopened (changes : was ≠ status)
    (closes : ¬ (was = .RESOLVED ∧ status = .CLOSED))
    (escalates : ¬ (settled was = true ∧ status = .ESCALATED)) :
    eventTypeOf was status = .REOPENED ↔ settled was = true ∧ settled status = false := by
  revert changes closes escalates
  cases was <;> cases status <;> decide

theorem Resumed.files
    (resumed : Resumed tick store call middle next)
    (absent : store.tickets.lookup ticketId = none) :
    middle.tickets.lookup ticketId = none ∨
      ∃ ticket event, middle.tickets.lookup ticketId = some ticket ∧
        ticket.status = .OPEN ∧ ticket.resolvedAt = none ∧
        next = some (.event event) := by
  have untouched (other : ObjectId)
      (change : SupportTicket → SupportTicket) :
      (store.update other change).tickets.lookup ticketId = none := by
    by_cases here : ticketId = other
    · subst here
      exact lookup_update.trans (by rw [absent]; rfl)
    · exact (lookup_update_of_ne here).trans absent
  cases resumed with
  | filed input actor requester ticketNumber attempt fresh =>
    by_cases here : ticketId = tick.id
    · subst here
      exact .inr ⟨_, _, AList.lookup_insert _, rfl, rfl, rfl⟩
    · exact .inl ((AList.lookup_insert_ne here).trans absent)
  | stamped | coded | changed => exact .inl (untouched _ _)
  | refused | known | numbered | taken | owned | drafted | noted | planned
  | recorded => exact .inl absent

theorem open_of_alone
    (ran : desk.alone ticks call store = some after)
    (absent : store.tickets.lookup ticketId = none)
    (found : after.tickets.lookup ticketId = some ticket) :
    ticket.status = .OPEN ∧ ticket.resolvedAt = none := by
  induction ticks generalizing call store with
  | nil => cases ran
  | cons tick rest induction =>
    rcases Service.alone_cases ran with ⟨_, _, same, goes⟩
    cases same
    rcases goes with ⟨_, resumes⟩ | ⟨middle, next, resumes, ran⟩
    · rcases Resumed.files (resumed_of_resume resumes) absent with
        absent' | ⟨_, _, _, _, _, goes⟩
      · rw [absent'] at found
        cases found
      · cases goes
    · rcases Resumed.files (resumed_of_resume resumes) absent with
        absent' | ⟨filed, event, found', status, resolvedAt, goes⟩
      · exact induction ran absent'
      · cases goes
        rcases Service.alone_cases ran with ⟨_, _, rfl, last | goes⟩
        · cases last.2
          cases found.symm.trans found'
          exact ⟨status, resolvedAt⟩
        · rcases goes with ⟨_, _, resumes, _⟩
          cases resumes

end

section

variable {ticketId : ObjectId} {passages : List Passage} {passage : Passage}

theorem stands_append :
    stands (passages ++ [passage]) =
      if passage.resolves then some true
      else if passage.reopens then some false
      else stands passages := by
  rw [stands, List.foldl_append]
  rfl

theorem bookkept_append :
    Bookkept (passages ++ [passage]) ↔ Bookkept passages ∧ Booked passages passage := by
  constructor
  · intro kept
    constructor
    · intro earlier last within
      exact kept earlier last (within.trans (List.prefix_append passages [passage]))
    · exact kept passages passage List.prefix_rfl
  · rintro ⟨kept, booked⟩ earlier last within
    rcases List.prefix_concat_iff.mp within with same | within
    · rcases List.append_inj' same rfl with ⟨rfl, single⟩
      cases single
      exact booked
    · exact kept earlier last within

/-- The invariant of all sequences of calls. -/
structure Books (ticketId : ObjectId) (store : Store) (passages : List Passage) : Prop where
  absent : store.tickets.lookup ticketId = none → passages = []
  stamped : ∀ ticket, store.tickets.lookup ticketId = some ticket →
    (ticket.resolvedAt ≠ none ↔ ticket.status = .RESOLVED)
  stands : (∀ passage ∈ passages, slips ticketId passage.old passage.request = false) →
    ∀ ticket, store.tickets.lookup ticketId = some ticket →
      (stands passages = some true → ticket.status = .RESOLVED) ∧
        (stands passages = some false → ticket.status ≠ .RESOLVED)
  kept : Bookkept passages ↔ ∀ passage ∈ passages,
    slips ticketId passage.old passage.request = false

section

variable {store after : Store} {request : Request} {ticks : List Tick}
  {call : Call} {old ticket : SupportTicket}

/-- Whether the resolution stands after a passage that does not slip. -/
theorem stands_of_effect
    (enters : enter request store = some call)
    (effect : Effect ticketId store after old (plan ticketId call))
    (found : after.tickets.lookup ticketId = some ticket)
    (holds : slips ticketId old.status request = false)
    (stood : (stands passages = some true → old.status = .RESOLVED) ∧
      (stands passages = some false → old.status ≠ .RESOLVED)) :
    (stands (passages ++ [passageOf ticketId store after request old ticket]) =
        some true → ticket.status = .RESOLVED) ∧
      (stands (passages ++ [passageOf ticketId store after request old ticket]) =
        some false → ticket.status ≠ .RESOLVED) := by
  rw [stands_append]
  by_cases resolves : (passageOf ticketId store after request old ticket).resolves = true
  · have resolved : ticket.status = .RESOLVED := beq_iff_eq.mp (Bool.and_eq_true_iff.mp resolves).2
    rw [if_pos resolves]
    exact ⟨fun _ => resolved, nofun⟩
  rw [if_neg resolves]
  by_cases reopens : (passageOf ticketId store after request old ticket).reopens = true
  · have worked : settled ticket.status = false :=
      (Bool.not_eq_true' _).mp (Bool.and_eq_true_iff.mp reopens).2
    rw [if_pos reopens]
    refine ⟨nofun, fun _ resolved => ?_⟩
    rw [resolved] at worked
    cases worked
  rw [if_neg reopens]
  -- Neither resolved nor reopened: the resolution stands as it stood.
  cases effect with
  | same ticket' found' status =>
    cases found.symm.trans found'
    rw [status]
    exact stood
  | changed ticket' now reason found' asked changes reasoned =>
    cases found.symm.trans found'
    have closes := (unslipped enters asked holds reasoned).1
    simp only [passageOf, Passage.resolves, Passage.reopens,
      Bool.and_eq_true, bne_iff_ne, beq_iff_eq, Bool.not_eq_true',
      not_and] at resolves reopens
    constructor
    · intro standing
      have resolved := stood.1 standing
      rw [resolved] at changes closes reopens
      revert changes closes reopens
      cases ticket.status <;> simp [settled]
    · intro standing resolved
      exact resolves (stood.2 standing) resolved

theorem reopened_of_effect
    (enters : enter request store = some call)
    (effect : Effect ticketId store after old (plan ticketId call))
    (found : after.tickets.lookup ticketId = some ticket)
    (holds : slips ticketId old.status request = false) :
    .REOPENED ∈ (passageOf ticketId store after request old ticket).recorded ↔
      (passageOf ticketId store after request old ticket).reopens =
        true := by
  cases effect with
  | same ticket' found' status resolvedAt recorded =>
    cases found.symm.trans found'
    rw [passageOf, Passage.reopens, recorded, List.drop_length, status]
    simp
  | changed ticket' now reason found' asked changes reasoned resolvedAt recorded =>
    cases found.symm.trans found'
    rcases unslipped enters asked holds reasoned with ⟨closes, escalates⟩
    rw [passageOf, Passage.reopens, recorded, List.drop_left]
    simp only [List.mem_singleton, Bool.and_eq_true, Bool.not_eq_true']
    rw [eq_comm]
    exact eventTypeOf_eq_reopened changes closes escalates

/-- A passage that slips is recorded as what it is not. -/
theorem misrecorded
    (enters : enter request store = some call)
    (ran : desk.alone ticks call store = some after)
    (stored : store.tickets.lookup ticketId = some old)
    (found : after.tickets.lookup ticketId = some ticket)
    (slip : slips ticketId old.status request = true) :
    ¬ (.REOPENED ∈ (passageOf ticketId store after request old ticket).recorded ↔
        (passageOf ticketId store after request old ticket).reopens = true) := by
  cases request with
  | changeStatus held status actor reason =>
    cases enters
    simp only [slips, Bool.and_eq_true, Bool.or_eq_true, beq_iff_eq] at slip
    rcases slip with ⟨rfl, slip⟩
    have changes : old.status ≠ status := by
      rintro rfl
      rcases slip with ⟨resolved, closed⟩ | ⟨⟨isSettled, escalated⟩, _⟩
      · rw [resolved] at closed
        cases closed
      · rw [escalated] at isSettled
        cases isSettled
    have reasoned : status = .ESCALATED → isGiven reason = true := by
      rintro rfl
      rcases slip with ⟨_, closes⟩ | ⟨_, given⟩
      · cases closes
      · exact given
    rcases status_of_changing ran stored changes reasoned with ⟨ticket', found', rfl⟩
    cases found.symm.trans found'
    cases effect_of_alone ran stored rfl with
    | same ticket' found'' status =>
      cases found.symm.trans found''
      exact (changes status.symm).elim
    | changed ticket' now reason found'' _ _ _ _ recorded =>
      cases found.symm.trans found''
      rw [passageOf, Passage.reopens, recorded, List.drop_left]
      dsimp only
      rcases slip with ⟨resolved, closed⟩ | ⟨⟨isSettled, escalated⟩, _⟩
      · rw [resolved, closed]
        decide
      · rw [escalated, isSettled, eventTypeOf, if_pos rfl]
        decide
  | create | addNote | addMySupportTicketNote | resolve => cases slip

/-- A call keeps the books. -/
theorem Books.step (books : Books ticketId store passages)
    (stepped : desk.sequential.step (request, ticks) store = some after) :
    Books ticketId after (see ticketId store (request, ticks) after passages) := by
  rcases Option.bind_eq_some_iff.mp stepped with ⟨call, enters, ran⟩
  dsimp only at enters ran
  cases stored : store.tickets.lookup ticketId with
  | none =>
    have empty := books.absent stored
    rw [see, stored]
    refine ⟨fun _ => empty, ?_, ?_, ?_⟩
    · intro ticket found
      rcases open_of_alone ran stored found with ⟨status, resolvedAt⟩
      rw [status, resolvedAt]
      simp
    · intro _ ticket _
      rw [empty]
      exact ⟨nofun, nofun⟩
    · exact books.kept
  | some old =>
    have effect := effect_of_alone ran stored (idle_of_enter enters)
    have stamped := books.stamped old stored
    rcases effect.found with ⟨ticket, found⟩
    have stamped' := effect.stamped found stamped
    rw [see, stored, found]
    dsimp only
    have both (passages' : List Passage) (passage : Passage) :
        (∀ other ∈ passages' ++ [passage],
            slips ticketId other.old other.request = false) ↔
          (∀ other ∈ passages', slips ticketId other.old other.request = false) ∧
            slips ticketId passage.old passage.request = false := by
      simp only [List.forall_mem_append, List.forall_mem_singleton]
    refine ⟨?_, ?_, ?_, ?_⟩
    · intro absent
      rw [found] at absent
      cases absent
    · intro ticket' found'
      cases found.symm.trans found'
      exact stamped'
    · intro holds ticket' found'
      cases found.symm.trans found'
      rcases (both _ _).mp holds with ⟨earlier, last⟩
      exact stands_of_effect enters effect found last (books.stands earlier old stored)
    · rw [bookkept_append, both, books.kept]
      apply and_congr_right
      intro earlier
      constructor
      · intro booked
        by_contra slip
        exact misrecorded enters ran stored found (Bool.not_eq_false _ ▸ slip) booked.1
      · intro last
        have standing := stands_of_effect enters effect found last (books.stands earlier old stored)
        refine ⟨reopened_of_effect enters effect found last, ?_, ?_⟩
        · exact fun stands => stamped'.mpr (standing.1 stands)
        · intro reopened
          by_contra set
          exact standing.2 reopened (stamped'.mp set)

end

/--
In every sequence of calls from the first ticket on, the books of a ticket are right in
every state if and only if nobody closes it while it is resolved or escalates it while
it is settled.
-/
theorem resolutionBooks (ticketId : ObjectId)
    {both : Store × List Passage}
    (reached : (desk.sequential.observed (see ticketId)).Reaches
      (fun _ _ => True) (Store.empty, []) both) :
    Bookkept both.2 ↔ ∀ passage ∈ both.2, slips ticketId passage.old passage.request = false := by
  have books : Books ticketId both.1 both.2 := by
    refine reached.invariant (fun both => Books ticketId both.1 both.2) ?_ ?_
    · constructor
      · exact fun _ => rfl
      · intro ticket found
        cases found
      · intro _ ticket found
        cases found
      · refine iff_of_true ?_ ?_
        · intro earlier passage within
          cases earlier <;> cases List.prefix_nil.mp within
        · intro passage member
          cases member
    · rintro ⟨store, passages⟩ ⟨request, ticks⟩ ⟨after, seen⟩ books _ stepped
      rcases System.observed_step stepped with ⟨ran, saw⟩
      dsimp only at saw
      subst saw
      exact books.step ran
  exact books.kept

end

namespace Sample

def customer : Account where
  _id := "customer"
  firstName := some "Maria"
  lastName := some "Santos"
  email := none
  phoneNumber := none
  roleId := "customer"

def agent : Account := { customer with _id := "agent", roleId := "admin" }

def ticks (instants : List Instant) : List Tick :=
  instants.map fun now =>
    { now, id := "ticket", requester := some customer }

def files : Request × List Tick :=
  (.create
    { requesterUid := "customer"
      subject := "Late"
      body := "Where is it?"
      category := .ORDER_LATE
      source := some .CUSTOMER_APP
      priority := none
      links :=
        { orderId := none
          providerBranchId := none
          paymentReference := none } } customer, ticks [1, 2, 3, 4])

def resolves : Request × List Tick := (.resolve "ticket" "DELIVERED" agent none, ticks [5, 6, 7, 8])

def changes (status : TicketStatus) : Request × List Tick :=
  (.changeStatus "ticket" status customer none, ticks [9, 10, 11])

end Sample

/-- A ticket is resolved, and opened again. -/
theorem resolutionBooks_reopened :
    ∃ both : Store × List Passage,
      (desk.sequential.observed (see "ticket")).Reaches
          (fun _ _ => True) (Store.empty, []) both ∧
        both.2.map (fun passage => (passage.recorded, passage.resolvedAt)) =
          [([.RESOLVED], some 6), ([.REOPENED], none)] ∧
        Bookkept both.2 := by
  have performed :
      ((desk.sequential.observed (see "ticket")).perform
        [Sample.files, Sample.resolves, Sample.changes .OPEN]
        (Store.empty, [])).map (fun both =>
          (both.2.map fun passage =>
              (passage.recorded, passage.resolvedAt),
            both.2.all fun passage =>
              !slips "ticket" passage.old passage.request)) =
        some ([([.RESOLVED], some 6), ([.REOPENED], none)], true) := by
    decide +kernel
  rcases System.reaches_of_map performed with ⟨both, reached, seen⟩
  rcases Prod.mk.inj seen with ⟨recorded, holds⟩
  refine ⟨both, reached, recorded, (resolutionBooks "ticket" reached).mpr ?_⟩
  intro passage member
  exact (Bool.not_eq_true' _).mp (List.all_eq_true.mp holds passage member)

/-- Closing a resolved ticket is recorded as its reopening, without its time. -/
theorem closingIsRecordedAsReopening :
    ¬ ∀ (ticketId : ObjectId) (both : Store × List Passage),
        (desk.sequential.observed (see ticketId)).Reaches
            (fun _ _ => True) (Store.empty, []) both →
          Bookkept both.2 := by
  intro always
  have performed :
      ((desk.sequential.observed (see "ticket")).perform
        [Sample.files, Sample.resolves, Sample.changes .CLOSED]
        (Store.empty, [])).map (fun both => both.2.any fun passage =>
          passage.recorded.contains .REOPENED && !passage.reopens) =
        some true := by
    decide +kernel
  rcases System.reaches_of_map performed with ⟨both, ran, seen⟩
  rcases List.any_eq_true.mp seen with ⟨passage, member, wrong⟩
  rcases Bool.and_eq_true_iff.mp wrong with ⟨recorded, closes⟩
  rcases List.append_of_mem member with ⟨earlier, later, split⟩
  have within : earlier ++ [passage] <+: both.2 := by
    rw [split]
    exact ⟨later, List.append_assoc _ _ _⟩
  have booked := always "ticket" both ran earlier passage within
  have reopens := booked.1.mp (List.contains_iff_mem.mp recorded)
  rw [reopens] at closes
  cases closes

end Lalaba.SupportTickets.Resolution
