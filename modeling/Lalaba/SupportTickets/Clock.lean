import Lalaba.SupportTickets.Service

/-!
# The first-response clock

A ticket is stamped with its first response by a call that has read it without one.
Calls of both sides do so: the reply of the requester stamps as well, and of two calls
that overlap both stamp.  While neither happens, the stamp is the time of the first
note that somebody else has written to the requester.
-/

namespace Lalaba.SupportTickets

open Foundation
open Foundation.Configuration
open Orders (trimmed)

def NoteContent.responds (ticketId : ObjectId) (ticket : SupportTicket)
    (content : NoteContent) : Bool :=
  content.ticketId == ticketId && content.visibility == .CUSTOMER &&
    content.authorUid != ticket.requester.uid

def Store.responses (ticketId : ObjectId) (ticket : SupportTicket)
    (store : Store) : List SupportTicketNote :=
  store.notes.filter fun note => note.responds ticketId ticket

/-- A stamp: the ticket, the note of the call that has stamped it, and the time. -/
structure Stamp where
  ticketId : ObjectId
  noteId : ObjectId
  firstResponseAt : Instant

def stampsOf (ticketId : ObjectId) (stamps : List Stamp) : List Stamp :=
  stamps.filter fun stamp => stamp.ticketId == ticketId

def see (configuration : Calls) (move : Move Request Tick) (_ : Calls)
    (stamps : List Stamp) : List Stamp :=
  match move with
  | .enter _ => stamps
  | .resume index _ =>
    match configuration.calls[index]? with
    | some (some (.stamp ticketId noteId firstResponseAt _)) =>
      stamps ++ [{ ticketId, noteId, firstResponseAt }]
    | _ => stamps

def Call.stamps : Call → Option ObjectId
  | .note content answered _ =>
    if content.visibility = .CUSTOMER ∧ answered = false then
      some content.ticketId
    else
      none
  | .stamp ticketId _ _ _ => some ticketId
  | _ => none

/--
Whoever finds a ticket unanswered when writing to the requester is not the requester,
and no other call is about to stamp the ticket.
-/
def keepsClock (configuration : Calls) : Move Request Tick → Bool
  | .enter _ => true
  | .resume index _ =>
    match configuration.calls[index]? with
    | some (some (.noting ticketId body .CUSTOMER actor imageKey _)) =>
      match configuration.store.tickets.lookup ticketId with
      | none => true
      | some ticket =>
        ticket.firstResponseAt.isSome ||
          decide (trimmed body = "" ∧ imageKey.filter (· ≠ "") = none) ||
          actor._id != ticket.requester.uid && !configuration.someCall fun call =>
              call.stamps == some ticketId
    | _ => true

/-! ## What holds of a ticket -/

/-- A ticket, its stamps and its responses, and the call that is to stamp it. -/
inductive Clock (configuration : Calls) (stamps : List Stamp)
    (ticketId : ObjectId) (ticket : SupportTicket) : Prop where
  | waiting (unset : ticket.firstResponseAt = none)
      (unstamped : stampsOf ticketId stamps = [])
      (unanswered : configuration.store.responses ticketId ticket = [])
      (idle : ∀ index noteId firstResponseAt resolution,
        ¬ configuration.Waits index (.stamp ticketId noteId firstResponseAt resolution))
  | answering (index : ℕ) (noteId : ObjectId) (firstResponseAt : Instant)
      (resolution : Option Resolution)
      (waits : configuration.Waits index (.stamp ticketId noteId firstResponseAt resolution))
      (unset : ticket.firstResponseAt = none)
      (unstamped : stampsOf ticketId stamps = [])
      (response : (configuration.store.responses ticketId ticket).map
        SupportTicketNote._id = [noteId])
  | answered (noteId : ObjectId) (firstResponseAt : Instant)
      (set : ticket.firstResponseAt = some firstResponseAt)
      (stamped : stampsOf ticketId stamps = [{ ticketId, noteId, firstResponseAt }])
      (response : (configuration.store.responses ticketId ticket).head?.map
        SupportTicketNote._id = some noteId)
      (rests : ∀ index call, configuration.Waits index call → call.stamps ≠ some ticketId)

def Sound (store : Store) : Call → Prop
  | .note content answered _ =>
    ∃ ticket, store.tickets.lookup content.ticketId = some ticket ∧
      (content.visibility = .CUSTOMER →
        if answered then ticket.firstResponseAt.isSome = true
        else content.authorUid ≠ ticket.requester.uid)
  | .stamp ticketId _ _ _ =>
    ∃ ticket, store.tickets.lookup ticketId = some ticket
  | _ => True

/-- The invariant of all interleavings. -/
structure Timed (both : Calls × List Stamp) : Prop where
  noted : ∀ note ∈ both.1.store.notes, ∃ ticket,
    both.1.store.tickets.lookup note.ticketId = some ticket
  stamped : ∀ stamp ∈ both.2, ∃ ticket, both.1.store.tickets.lookup stamp.ticketId = some ticket
  sound : ∀ index call, both.1.Waits index call → Sound both.1.store call
  distinct : both.1.Distinct Call.stamps
  clock : ∀ ticketId ticket,
    both.1.store.tickets.lookup ticketId = some ticket →
    Clock both.1 both.2 ticketId ticket

section

variable {configuration : Calls} {stamps stamps' : List Stamp}
  {ticketId other : ObjectId} {ticket ticket' : SupportTicket}
  {store after : Store} {call : Call} {next : Option Call} {index : ℕ}
  {tick : Tick} {content : NoteContent}

theorem responses_congr
    (same : ticket'.requester = ticket.requester)
    (kept : after.notes = store.notes) :
    after.responses ticketId ticket' = store.responses ticketId ticket := by
  rw [Store.responses, Store.responses, kept]
  apply List.filter_congr
  intro note _
  rw [NoteContent.responds, NoteContent.responds, same]

theorem stamps_of_enter {request : Request}
    (enters : enter request store = some call) :
    call.stamps = none ∧ Sound store call := by
  cases request <;> cases enters <;> exact ⟨rfl, trivial⟩

theorem Clock.entered
    (clock : Clock configuration stamps ticketId ticket)
    (plain : call.stamps = none) :
    Clock (configuration.entered call) stamps ticketId ticket := by
  cases clock with
  | waiting unset unstamped unanswered idle =>
    refine .waiting unset unstamped unanswered ?_
    intro place noteId firstResponseAt resolution waits
    rcases waits_entered.mp waits with old | ⟨_, rfl⟩
    · exact idle _ _ _ _ old
    · cases plain
  | answering place noteId firstResponseAt resolution waits unset unstamped response =>
    exact .answering place noteId firstResponseAt resolution waits.entered unset unstamped response
  | answered noteId firstResponseAt set stamped response rests =>
    refine .answered noteId firstResponseAt set stamped response ?_
    intro place call' waits
    rcases waits_entered.mp waits with old | ⟨_, rfl⟩
    · exact rests place call' old
    · rw [plain]
      intro same
      cases same

theorem Clock.frame
    (clock : Clock configuration stamps ticketId ticket)
    (waits : configuration.Waits index call)
    (first : ticket'.firstResponseAt = ticket.firstResponseAt)
    (responses : after.responses ticketId ticket' = configuration.store.responses ticketId ticket)
    (seen : stampsOf ticketId stamps' = stampsOf ticketId stamps)
    (plain : ∀ noteId firstResponseAt resolution,
      call ≠ .stamp ticketId noteId firstResponseAt resolution)
    (asks : ∀ call', next = some call' → call'.stamps = some ticketId →
      ticket.firstResponseAt = none ∧ ∀ noteId firstResponseAt resolution,
          call' ≠ .stamp ticketId noteId firstResponseAt resolution) :
    Clock (configuration.resumed index after next) stamps' ticketId
      ticket' := by
  cases clock with
  | waiting unset unstamped unanswered idle =>
    refine .waiting (first.trans unset) (seen.trans unstamped) (responses.trans unanswered) ?_
    intro place noteId firstResponseAt resolution waits'
    rcases (waits_resumed waits).mp waits' with ⟨_, old⟩ | ⟨_, goes⟩
    · exact idle _ _ _ _ old
    · exact (asks _ goes rfl).2 _ _ _ rfl
  | answering place noteId firstResponseAt resolution waits' unset unstamped response =>
    refine .answering place noteId firstResponseAt resolution ?_
      (first.trans unset) (seen.trans unstamped) ?_
    · apply waits'.resumed
      rintro rfl
      exact plain _ _ _ (waits.unique waits')
    · exact (congrArg _ responses).trans response
  | answered noteId firstResponseAt set stamped response rests =>
    refine .answered noteId firstResponseAt (first.trans set) (seen.trans stamped) ?_ ?_
    · exact (congrArg (fun notes : List SupportTicketNote =>
        notes.head?.map SupportTicketNote._id) responses).trans response
    · intro place call' waits' stamps
      rcases (waits_resumed waits).mp waits' with ⟨_, old⟩ | ⟨_, goes⟩
      · exact rests place call' old stamps
      · rw [(asks call' goes stamps).1] at set
        cases set

variable {resolution : Option Resolution}

theorem Clock.of_note (clock : Clock configuration stamps ticketId ticket)
    (distinct : configuration.Distinct Call.stamps)
    (waits : configuration.Waits index (.note content false resolution))
    (here : (Call.note content false resolution).stamps = some ticketId) :
    ticket.firstResponseAt = none ∧ stampsOf ticketId stamps = [] ∧
      configuration.store.responses ticketId ticket = [] := by
  cases clock with
  | waiting unset unstamped unanswered idle =>
    exact ⟨unset, unstamped, unanswered⟩
  | answering place noteId firstResponseAt resolution waits' _ _ _ =>
    have same := distinct _ _ _ _ ticketId waits waits' here rfl
    subst same
    cases waits.unique waits'
  | answered noteId firstResponseAt _ _ _ rests =>
    exact (rests _ _ waits here).elim

theorem Resumed.keeps (resumed : Resumed tick store call after next)
    (found : store.tickets.lookup ticketId = some ticket) :
    ∃ ticket', after.tickets.lookup ticketId = some ticket' ∧
      ticket'.requester = ticket.requester ∧
      (ticket.firstResponseAt.isSome = true → ticket'.firstResponseAt.isSome = true) := by
  have updated (other : ObjectId) (change : SupportTicket → SupportTicket)
      (requester : (change ticket).requester = ticket.requester)
      (answered : ticket.firstResponseAt.isSome = true →
        (change ticket).firstResponseAt.isSome = true) :
      ∃ ticket', (store.update other change).tickets.lookup ticketId =
          some ticket' ∧ ticket'.requester = ticket.requester ∧
        (ticket.firstResponseAt.isSome = true → ticket'.firstResponseAt.isSome = true) := by
    by_cases here : ticketId = other
    · subst here
      exact ⟨change ticket, by rw [lookup_update, found]; rfl, requester, answered⟩
    · exact ⟨ticket, (lookup_update_of_ne here).trans found, rfl, id⟩
  cases resumed with
  | filed input actor requester ticketNumber attempt fresh =>
    have other : ticketId ≠ tick.id := by
      rintro rfl
      rw [fresh] at found
      cases found
    exact ⟨ticket, (AList.lookup_insert_ne other).trans found, rfl, id⟩
  | stamped => exact updated _ _ rfl fun _ => rfl
  | coded => exact updated _ _ rfl id
  | changed => exact updated _ _ rfl id
  | refused | known | numbered | taken | owned | drafted | noted | planned
  | recorded => exact ⟨ticket, found, rfl, id⟩

theorem Sound.follows (sound : Sound store call)
    (keeps : ∀ ticketId ticket, store.tickets.lookup ticketId = some ticket →
      ∃ ticket', after.tickets.lookup ticketId = some ticket' ∧
        ticket'.requester = ticket.requester ∧ (ticket.firstResponseAt.isSome = true →
          ticket'.firstResponseAt.isSome = true)) :
    Sound after call := by
  cases call with
  | note content answered resolution =>
    rcases sound with ⟨ticket, found, read⟩
    rcases keeps _ ticket found with ⟨ticket', found', requester, answers⟩
    refine ⟨ticket', found', ?_⟩
    intro visible
    have read := read visible
    split at read
    · rename_i answered
      rw [if_pos answered]
      exact answers read
    · rename_i unanswered
      rw [if_neg unanswered, requester]
      exact read
  | stamp ticketId noteId firstResponseAt resolution =>
    rcases sound with ⟨ticket, found⟩
    rcases keeps _ ticket found with ⟨ticket', found', _⟩
    exact ⟨ticket', found'⟩
  | create | number | insert | own | noting | code | changing | status
  | event => trivial

theorem unchallenged {body : String} {actor : Account}
    {imageKey : Option String}
    (allowed : keepsClock configuration (.resume index tick) = true)
    (waits : configuration.Waits index (.noting ticketId body .CUSTOMER actor imageKey resolution))
    (found : configuration.store.tickets.lookup ticketId = some ticket)
    (given : ¬ (trimmed body = "" ∧ imageKey.filter (· ≠ "") = none))
    (unset : ticket.firstResponseAt = none) :
    actor._id ≠ ticket.requester.uid ∧
      ∀ place call, configuration.Waits place call → call.stamps ≠ some ticketId := by
  have waits : configuration.calls[index]? = some (some
    (.noting ticketId body .CUSTOMER actor imageKey resolution)) := waits
  simp only [keepsClock, waits, found, unset, Option.isSome_none,
    decide_eq_false given, Bool.false_or, Bool.and_eq_true, bne_iff_ne,
    Bool.not_eq_true'] at allowed
  refine ⟨allowed.1, ?_⟩
  intro place call waits' stamps
  have some : (configuration.someCall fun call =>
      call.stamps == some ticketId) = true :=
    someCall_iff.mpr ⟨place, call, waits', by simpa using stamps⟩
  rw [allowed.2] at some
  cases some

/-- What a call does next is sound, and no two calls stamp one ticket. -/
theorem Resumed.next_sound {call' : Call}
    (resumed : Resumed tick configuration.store call after (some call'))
    (allowed : keepsClock configuration (.resume index tick) = true)
    (waits : configuration.Waits index call)
    (sound : Sound configuration.store call) :
    Sound after call' ∧ ∀ held, call'.stamps = some held →
      call.stamps = some held ∨ ∀ place other,
        configuration.Waits place other → other.stamps ≠ some held := by
  generalize goes : some call' = next at resumed
  cases resumed with
  | drafted ticketId body visibility actor imageKey resolution ticket found given =>
    cases goes
    cases visibility with
    | INTERNAL => exact ⟨⟨ticket, found, nofun⟩, nofun⟩
    | CUSTOMER =>
      cases set : ticket.firstResponseAt with
      | some instant =>
        refine ⟨⟨ticket, found, fun _ => ?_⟩, nofun⟩
        rw [set]
        rfl
      | none =>
        have alone := unchallenged allowed waits found given set
        refine ⟨⟨ticket, found, fun _ => alone.1⟩, ?_⟩
        intro held stamps
        cases stamps
        exact .inr alone.2
  | noted content answered resolution fresh =>
    rcases sound with ⟨ticket, found, _⟩
    split at goes
    · rename_i asks
      cases goes
      exact ⟨⟨ticket, found⟩, fun held stamps =>
        .inl ((if_pos asks).trans stamps)⟩
    · cases resolution with
      | none => cases goes
      | some resolution =>
        cases goes
        exact ⟨trivial, nofun⟩
  | stamped ticketId noteId firstResponseAt resolution =>
    cases resolution with
    | none => cases goes
    | some resolution =>
      cases goes
      exact ⟨trivial, nofun⟩
  | coded ticketId resolution note =>
    cases goes
    split <;> exact ⟨trivial, nofun⟩
  | known | numbered | taken | filed | owned | planned | changed =>
    cases goes
    exact ⟨trivial, nofun⟩
  | refused | recorded => cases goes

theorem see_plain (waits : configuration.Waits index call)
    (plain : ∀ ticketId noteId firstResponseAt resolution,
      call ≠ .stamp ticketId noteId firstResponseAt resolution)
    (after : Calls) :
    see configuration (.resume index tick) after stamps = stamps := by
  have waits : configuration.calls[index]? = some (some call) := waits
  rw [see, waits]
  split
  · rename_i same
    cases same
    exact (plain _ _ _ _ rfl).elim
  · rfl

theorem Clock.filed {input : CreateTicketInput} {requester : Account}
    {ticketNumber : String} (timed : Timed (configuration, stamps))
    (waits : configuration.Waits index call)
    (fresh : configuration.store.tickets.lookup ticketId = none)
    (plain : ∀ call', next = some call' → call'.stamps = none)
    (kept : after.notes = configuration.store.notes) :
    Clock (configuration.resumed index after next) stamps ticketId
      (ticketOf input requester ticketNumber tick.now) := by
  refine .waiting rfl ?_ ?_ ?_
  · apply List.filter_eq_nil_iff.mpr
    intro stamp member here
    rcases timed.stamped stamp member with ⟨ticket, found⟩
    rw [beq_iff_eq.mp here, fresh] at found
    cases found
  · apply List.filter_eq_nil_iff.mpr
    intro note member responds
    have member : note ∈ configuration.store.notes := by
      rwa [show (configuration.resumed index after next).store.notes =
        after.notes from rfl, kept] at member
    rcases timed.noted note member with ⟨ticket, found⟩
    simp only [NoteContent.responds, Bool.and_eq_true, beq_iff_eq] at responds
    rw [responds.1.1, fresh] at found
    cases found
  · intro place noteId firstResponseAt resolution waits'
    rcases (waits_resumed waits).mp waits' with ⟨_, old⟩ | ⟨_, goes⟩
    · rcases timed.sound _ _ old with ⟨ticket, found⟩
      rw [fresh] at found
      cases found
    · cases plain _ goes

/-- The first response is about to be stamped, or there was one before. -/
theorem Clock.noted {answered : Bool} (timed : Timed (configuration, stamps))
    (waits : configuration.Waits index (.note content answered resolution))
    (found : configuration.store.tickets.lookup ticketId = some ticket) :
    Clock (configuration.resumed index { configuration.store with
          notes := configuration.store.notes ++ [content.row tick] }
        (if content.visibility = .CUSTOMER ∧ answered = false then
          some (.stamp content.ticketId tick.id tick.now resolution)
        else
          resolution.map (Resolution.call content.ticketId)))
      stamps ticketId ticket := by
  have clock := timed.clock ticketId ticket found
  have plain : ∀ noteId firstResponseAt resolution',
      Call.note content answered resolution ≠
        .stamp ticketId noteId firstResponseAt resolution' := nofun
  have rests : ∀ call',
      resolution.map (Resolution.call content.ticketId) = some call' →
        call'.stamps = some ticketId → ticket.firstResponseAt = none ∧
          ∀ noteId firstResponseAt resolution,
            call' ≠ .stamp ticketId noteId firstResponseAt resolution := by
    intro call' goes stamps
    rcases Option.map_eq_some_iff.mp goes with ⟨resolution, _, rfl⟩
    cases stamps
  have appended : (configuration.store.notes ++ [content.row tick]).filter
          (fun note => note.responds ticketId ticket) =
      configuration.store.responses ticketId ticket ++
        if content.responds ticketId ticket then [content.row tick]
        else [] := by
    rw [List.filter_append, Store.responses, List.filter_singleton, ← cond_eq_ite]
    rfl
  rcases timed.sound _ _ waits with ⟨ticket', found', read⟩
  by_cases here : content.ticketId = ticketId
  · subst here
    cases found.symm.trans found'
    cases visible : content.visibility with
    | INTERNAL =>
      rw [if_neg (by simp)]
      refine clock.frame waits rfl ?_ rfl plain rests
      rw [Store.responses, appended, NoteContent.responds, visible]
      simp
    | CUSTOMER =>
      have read := read visible
      cases answered with
      | true =>
        rw [if_neg (by simp)]
        rw [if_pos rfl] at read
        cases clock with
        | waiting unset | answering _ _ _ _ _ unset =>
          rw [unset] at read
          cases read
        | answered noteId firstResponseAt set stamped response unstamping =>
          refine .answered noteId firstResponseAt set stamped ?_ ?_
          · rw [Store.responses]
            show Option.map _ ((_ ++ _ : List _).filter _).head? = _
            rw [appended]
            cases responses : configuration.store.responses content.ticketId ticket with
            | nil =>
              rw [responses] at response
              cases response
            | cons first rest =>
              rw [responses] at response
              exact response
          · intro place call waits' stamps
            rcases (waits_resumed waits).mp waits' with ⟨_, old⟩ | ⟨_, goes⟩
            · exact unstamping place call old stamps
            · rw [(rests call goes stamps).1] at set
              cases set
      | false =>
        rw [if_pos ⟨rfl, rfl⟩]
        rw [if_neg (by decide)] at read
        have asks : (Call.note content false resolution).stamps =
            some content.ticketId :=
          if_pos ⟨visible, rfl⟩
        rcases clock.of_note timed.distinct waits asks with ⟨unset, unstamped, unanswered⟩
        refine .answering index tick.id tick.now resolution ?_ unset unstamped ?_
        · exact (waits_resumed waits).mpr (.inr ⟨rfl, rfl⟩)
        · rw [Store.responses]
          show List.map _ ((_ ++ _ : List _).filter _) = _
          rw [appended, unanswered, NoteContent.responds, visible,
            bne_iff_ne.mpr read, beq_self_eq_true]
          rfl
  · refine clock.frame waits rfl ?_ rfl plain ?_
    · rw [Store.responses, appended, NoteContent.responds, beq_eq_false_iff_ne.mpr here]
      simp
    · intro call' goes stamps
      split at goes
      · cases goes
        exact (here (Option.some.inj stamps)).elim
      · exact rests call' goes stamps

theorem see_stamp {noteId : ObjectId} {firstResponseAt : Instant}
    (waits : configuration.Waits index
      (.stamp ticketId noteId firstResponseAt resolution)) (after : Calls) :
    see configuration (.resume index tick) after stamps =
      stamps ++ [.mk ticketId noteId firstResponseAt] := by
  have waits : configuration.calls[index]? =
      some (some (.stamp ticketId noteId firstResponseAt resolution)) := waits
  rw [see, waits]

theorem Clock.stamped {noteId : ObjectId} {firstResponseAt : Instant}
    (timed : Timed (configuration, stamps)) (waits : configuration.Waits index
      (.stamp ticketId noteId firstResponseAt resolution))
    (found : configuration.store.tickets.lookup ticketId = some ticket) :
    Clock (configuration.resumed index (configuration.store.update ticketId fun ticket =>
          { ticket with firstResponseAt := some firstResponseAt })
        (resolution.map (Resolution.call ticketId)))
      (stamps ++ [.mk ticketId noteId firstResponseAt]) ticketId
      { ticket with firstResponseAt := some firstResponseAt } := by
  cases timed.clock ticketId ticket found with
  | waiting _ _ _ idle => exact (idle _ _ _ _ waits).elim
  | answered _ _ _ _ _ rests => exact (rests _ _ waits rfl).elim
  | answering place noteId' instant resolution' waits' unset unstamped response =>
    have same := timed.distinct _ _ _ _ ticketId waits waits' rfl rfl
    subst same
    cases waits.unique waits'
    refine .answered noteId firstResponseAt rfl ?_ ?_ ?_
    · rw [stampsOf] at unstamped
      rw [stampsOf, List.filter_append, unstamped]
      simp
    · have first := congrArg List.head? response
      rw [List.head?_map] at first
      refine Eq.trans (congrArg (fun notes : List SupportTicketNote =>
        notes.head?.map SupportTicketNote._id) ?_) first
      exact responses_congr rfl notes_update
    · intro place call waits' stamps
      rcases (waits_resumed waits).mp waits' with ⟨away, old⟩ | ⟨_, goes⟩
      · exact away (timed.distinct _ _ _ _ ticketId old waits stamps rfl)
      · rcases Option.map_eq_some_iff.mp goes with ⟨resolution, _, rfl⟩
        cases stamps

theorem Timed.updated {change : SupportTicket → SupportTicket}
    (timed : Timed (configuration, stamps))
    (waits : configuration.Waits index call)
    (plain : ∀ noteId firstResponseAt resolution,
      call ≠ .stamp ticketId noteId firstResponseAt resolution)
    (requester : ∀ ticket, (change ticket).requester = ticket.requester)
    (first : ∀ ticket, (change ticket).firstResponseAt = ticket.firstResponseAt)
    (found : (configuration.store.update other change).tickets.lookup ticketId = some ticket)
    (asks : ∀ call', next = some call' → call'.stamps = none) :
    Clock (configuration.resumed index
      (configuration.store.update other change) next) stamps ticketId
      ticket := by
  rcases of_lookup_update found with ⟨old, stored, changed⟩
  have same : ticket.requester = old.requester ∧ ticket.firstResponseAt = old.firstResponseAt := by
    rw [changed]
    split
    · exact ⟨requester old, first old⟩
    · exact ⟨rfl, rfl⟩
  refine (timed.clock ticketId old stored).frame waits same.2
    (responses_congr same.1 notes_update) rfl plain ?_
  intro call' goes stamps
  rw [asks call' goes] at stamps
  cases stamps

theorem Timed.untouched (timed : Timed (configuration, stamps))
    (waits : configuration.Waits index call)
    (plain : ∀ noteId firstResponseAt resolution,
      call ≠ .stamp ticketId noteId firstResponseAt resolution)
    (found : configuration.store.tickets.lookup ticketId = some ticket)
    (kept : after.notes = configuration.store.notes)
    (asks : ∀ call', next = some call' → call'.stamps ≠ some ticketId) :
    Clock (configuration.resumed index after next) stamps ticketId
      ticket :=
  (timed.clock ticketId ticket found).frame waits rfl
    (responses_congr rfl kept) rfl plain
    fun call' goes stamps => (asks call' goes stamps).elim

/-- A step keeps the clock of every ticket. -/
theorem Resumed.clock
    (resumed : Resumed tick configuration.store call after next)
    (timed : Timed (configuration, stamps))
    (waits : configuration.Waits index call)
    (found : after.tickets.lookup ticketId = some ticket) :
    Clock (configuration.resumed index after next)
      (see configuration (.resume index tick) (configuration.resumed index after next) stamps)
      ticketId ticket := by
  cases resumed with
  | stamped other noteId firstResponseAt resolution =>
    rw [see_stamp waits]
    rcases of_lookup_update found with ⟨old, stored, rfl⟩
    by_cases here : ticketId = other
    · subst here
      rw [if_pos rfl]
      exact Clock.stamped timed waits stored
    · rw [if_neg here]
      refine (timed.clock ticketId old stored).frame waits rfl
        (responses_congr rfl notes_update) ?_ ?_ ?_
      · rw [stampsOf, List.filter_append, List.filter_singleton,
          beq_eq_false_iff_ne.mpr (Ne.symm here)]
        exact List.append_nil _
      · intro _ _ _ same
        cases same
        exact here rfl
      · intro call' goes stamps
        rcases Option.map_eq_some_iff.mp goes with ⟨resolution, _, rfl⟩
        cases stamps
  | filed input actor requester ticketNumber attempt fresh =>
    rw [see_plain waits nofun]
    by_cases here : ticketId = tick.id
    · subst here
      rw [AList.lookup_insert] at found
      cases found
      refine Clock.filed timed waits fresh ?_ rfl
      intro call' goes
      cases goes
      rfl
    · rw [AList.lookup_insert_ne here] at found
      refine timed.untouched waits nofun found rfl ?_
      intro call' goes stamps
      cases goes
      cases stamps
  | noted content answered resolution fresh =>
    rw [see_plain waits nofun]
    exact Clock.noted timed waits found
  | drafted other body visibility actor imageKey resolution old stored given =>
    rw [see_plain waits nofun]
    refine (timed.clock ticketId ticket found).frame waits rfl rfl rfl nofun ?_
    intro call' goes stamps
    cases goes
    refine ⟨?_, nofun⟩
    simp only [Call.stamps] at stamps
    split at stamps
    · rename_i asks
      cases stamps
      cases found.symm.trans stored
      exact Option.isNone_iff_eq_none.mp (Option.isSome_eq_false_iff.mp asks.2)
    · cases stamps
  | coded other resolution note =>
    rw [see_plain waits nofun]
    refine timed.updated waits nofun (fun _ => rfl) (fun _ => rfl) found ?_
    intro call' goes
    cases goes
    split <;> rfl
  | changed other old status now actor reason =>
    rw [see_plain waits nofun]
    refine timed.updated waits nofun (fun _ => rfl) (fun _ => rfl) found ?_
    intro call' goes
    cases goes
    rfl
  | refused _ checks =>
    have plain : ∀ ticketId noteId firstResponseAt resolution,
        call ≠ .stamp ticketId noteId firstResponseAt resolution := by
      rintro _ _ _ _ rfl
      cases checks
    rw [see_plain waits plain]
    refine timed.untouched waits (plain ticketId) found rfl ?_
    intro call' goes
    cases goes
  | known | numbered | taken | owned | planned | recorded =>
    rw [see_plain waits nofun]
    refine timed.untouched waits nofun found rfl ?_
    intro call' goes stamps
    cases goes <;> cases stamps

theorem Resumed.of_mem_notes {note : SupportTicketNote}
    (resumed : Resumed tick store call after next)
    (member : note ∈ after.notes) :
    note ∈ store.notes ∨ ∃ content answered resolution,
      call = .note content answered resolution ∧ note = content.row tick := by
  cases resumed with
  | noted content answered resolution fresh =>
    rcases List.mem_append.mp member with old | new
    · exact .inl old
    · exact .inr ⟨content, answered, resolution, rfl, List.mem_singleton.mp new⟩
  | stamped | coded | changed =>
    rw [notes_update] at member
    exact .inl member
  | refused | known | numbered | taken | filed | owned | drafted | planned
  | recorded => exact .inl member

theorem of_mem_see {stamp : Stamp} {move : Move Request Tick}
    {after : Calls}
    (member : stamp ∈ see configuration move after stamps) :
    stamp ∈ stamps ∨ ∃ index noteId firstResponseAt resolution,
      configuration.Waits index (.stamp stamp.ticketId noteId firstResponseAt resolution) := by
  cases move with
  | enter request => exact .inl member
  | resume index tick =>
    rw [see] at member
    split at member
    · rename_i ticketId noteId firstResponseAt resolution waits
      rcases List.mem_append.mp member with old | new
      · exact .inl old
      · cases List.mem_singleton.mp new
        exact .inr ⟨index, noteId, firstResponseAt, resolution, waits⟩
    · exact .inl member

/-- A step keeps the invariant. -/
theorem Timed.step {move : Move Request Tick} {both both' : Calls × List Stamp}
    (timed : Timed both) (allowed : keepsClock both.1 move = true)
    (stepped : (desk.system.observed see).step move both = some both') :
    Timed both' := by
  rcases both with ⟨configuration, stamps⟩
  rcases both' with ⟨after, seen⟩
  rcases System.observed_step stepped with ⟨ran, saw⟩
  dsimp only at ran saw
  subst saw
  cases Service.stepped_of_step ran with
  | entered request call enters =>
    rcases stamps_of_enter enters with ⟨plain, sound⟩
    constructor
    · exact timed.noted
    · exact timed.stamped
    · intro place other waits
      rcases waits_entered.mp waits with old | ⟨_, rfl⟩
      · exact timed.sound place other old
      · exact sound
    · exact timed.distinct.entered plain
    · intro ticketId ticket found
      exact (timed.clock ticketId ticket found).entered plain
  | resumed index tick call store next waits resumes =>
    have resumed := resumed_of_resume resumes
    have sound := timed.sound index call waits
    have stays (ticketId : ObjectId)
        (found : ∃ ticket, configuration.store.tickets.lookup ticketId = some ticket) :
        ∃ ticket, store.tickets.lookup ticketId = some ticket := by
      rcases found with ⟨ticket, found⟩
      rcases resumed.keeps found with ⟨ticket', found', _⟩
      exact ⟨ticket', found'⟩
    constructor
    · intro note member
      apply stays
      rcases resumed.of_mem_notes member with
        old | ⟨content, answered, resolution, rfl, rfl⟩
      · exact timed.noted note old
      · rcases sound with ⟨ticket, found, _⟩
        exact ⟨ticket, found⟩
    · intro stamp member
      apply stays
      dsimp only at member
      rcases of_mem_see member with
        old | ⟨place, noteId, firstResponseAt, resolution, waits'⟩
      · exact timed.stamped stamp old
      · exact timed.sound place _ waits'
    · intro place other waits'
      rcases (waits_resumed waits).mp waits' with ⟨_, old⟩ | ⟨_, rfl⟩
      · exact (timed.sound place other old).follows
          fun _ _ found => resumed.keeps found
      · exact (resumed.next_sound allowed waits sound).1
    · refine timed.distinct.resumed waits ?_
      rintro call' held rfl holds
      exact (resumed.next_sound allowed waits sound).2 held holds
    · intro ticketId ticket found
      exact resumed.clock timed waits found

theorem prefix_see (configuration after : Calls)
    (move : Move Request Tick) (stamps : List Stamp) :
    stamps <+: see configuration move after stamps := by
  cases move with
  | enter request => exact List.prefix_rfl
  | resume index tick =>
    rw [see]
    split
    · exact List.prefix_append _ _
    · exact List.prefix_rfl

end

section

variable {both both' : Calls × List Stamp} {ticketId : ObjectId}
  {ticket ticket' : SupportTicket} {firstResponseAt : Instant}

theorem Timed.initial : Timed (.start Store.empty, []) where
  noted := fun _ member => by cases member
  stamped := fun _ member => by cases member
  sound := fun _ _ waits => (not_waits_start waits).elim
  distinct := fun _ _ _ _ _ waits => (not_waits_start waits).elim
  clock := fun _ _ found => by cases found

def Kept (start both : Calls × List Stamp) : Prop :=
  (desk.system.observed see).Reaches (fun both move => keepsClock both.1 move = true) start both

theorem Kept.timed (kept : Kept both both') (timed : Timed both) :
    Timed both' :=
  System.Reaches.invariant Timed timed
    (fun _ _ _ timed allowed stepped => timed.step allowed stepped) kept

theorem Timed.stamp (timed : Timed both)
    (found : both.1.store.tickets.lookup ticketId = some ticket)
    (set : ticket.firstResponseAt = some firstResponseAt) :
    ∃ note, (both.1.store.responses ticketId ticket).head? = some note ∧
      stampsOf ticketId both.2 = [.mk ticketId note._id firstResponseAt] := by
  cases timed.clock ticketId ticket found with
  | waiting unset | answering _ _ _ _ _ unset =>
    rw [unset] at set
    cases set
  | answered noteId instant set' stamped response =>
    cases set'.symm.trans set
    rcases Option.map_eq_some_iff.mp response with ⟨note, first, rfl⟩
    exact ⟨note, first, stamped⟩

theorem Timed.isSome_iff (timed : Timed both) (quiet : both.1.Quiet)
    (found : both.1.store.tickets.lookup ticketId = some ticket) :
    ticket.firstResponseAt.isSome = true ↔ both.1.store.responses ticketId ticket ≠ [] := by
  cases timed.clock ticketId ticket found with
  | waiting unset _ unanswered _ =>
    rw [unset, unanswered]
    simp
  | answering _ _ _ _ waits => exact (quiet _ _ waits).elim
  | answered _ _ set _ response _ =>
    rw [set]
    refine ⟨fun _ unanswered => ?_, fun _ => rfl⟩
    rw [unanswered] at response
    cases response

theorem found_of_step {configuration after : Calls}
    {move : Move Request Tick}
    (stepped : desk.system.step move configuration = some after)
    (found : ∃ ticket, configuration.store.tickets.lookup ticketId = some ticket) :
    ∃ ticket, after.store.tickets.lookup ticketId = some ticket := by
  rcases found with ⟨ticket, found⟩
  cases Service.stepped_of_step stepped with
  | entered => exact ⟨ticket, found⟩
  | resumed index tick call store next waits resumes =>
    rcases (resumed_of_resume resumes).keeps found with ⟨ticket', found', _⟩
    exact ⟨ticket', found'⟩

theorem Kept.extends (kept : Kept both both') :
    both.2 <+: both'.2 ∧ ∀ ticketId,
      (∃ ticket, both.1.store.tickets.lookup ticketId = some ticket) →
      ∃ ticket, both'.1.store.tickets.lookup ticketId = some ticket := by
  induction kept with
  | refl => exact ⟨List.prefix_rfl, fun _ found => found⟩
  | next _ _ stepped induction =>
    rcases System.observed_step stepped with ⟨ran, saw⟩
    constructor
    · rw [saw]
      exact induction.1.trans (prefix_see _ _ _ _)
    · intro ticketId found
      exact found_of_step ran (induction.2 ticketId found)

/--
In a run in which whoever finds a ticket unanswered when writing to its requester is
somebody else, and nobody is about to stamp the ticket by then: where no call is in
progress, a ticket is stamped when it has a response; it was stamped by the first one
and never again; and a stamp that was set is never changed.
-/
theorem firstResponseClock (kept : Kept (.start Store.empty, []) both) :
    (∀ ticketId ticket, both.1.store.tickets.lookup ticketId = some ticket →
      (both.1.Quiet → (ticket.firstResponseAt.isSome = true ↔
        both.1.store.responses ticketId ticket ≠ [])) ∧ ∀ firstResponseAt,
        ticket.firstResponseAt = some firstResponseAt → ∃ note,
          (both.1.store.responses ticketId ticket).head? = some note ∧
            stampsOf ticketId both.2 = [.mk ticketId note._id firstResponseAt]) ∧
    ∀ both', Kept both both' → ∀ ticketId ticket firstResponseAt,
      both.1.store.tickets.lookup ticketId = some ticket →
      ticket.firstResponseAt = some firstResponseAt →
        ∃ ticket', both'.1.store.tickets.lookup ticketId = some ticket' ∧
          ticket'.firstResponseAt = some firstResponseAt := by
  have timed := kept.timed .initial
  constructor
  · intro ticketId ticket found
    constructor
    · exact fun quiet => timed.isSome_iff quiet found
    · exact fun firstResponseAt set => timed.stamp found set
  · intro both' later ticketId ticket firstResponseAt found set
    have timed' := later.timed timed
    rcases later.extends with ⟨stamps, stays⟩
    rcases stays ticketId ⟨ticket, found⟩ with ⟨ticket', found'⟩
    refine ⟨ticket', found', ?_⟩
    rcases timed.stamp found set with ⟨note, _, stamped⟩
    have kept : [Stamp.mk ticketId note._id firstResponseAt] <+: stampsOf ticketId both'.2 := by
      rw [← stamped]
      exact stamps.filter _
    cases timed'.clock ticketId ticket' found' with
    | waiting _ unstamped | answering _ _ _ _ _ _ unstamped =>
      rw [unstamped] at kept
      cases List.prefix_nil.mp kept
    | answered noteId instant set' stamped' =>
      rw [stamped'] at kept
      cases kept.eq_of_length rfl
      exact set'

end

/-! ## Sample runs -/

namespace Sample

def customer : Account where
  _id := "customer"
  firstName := some "Maria"
  lastName := some "Santos"
  email := none
  phoneNumber := none
  roleId := "customer"

def agent : Account := { customer with _id := "agent", roleId := "admin" }

def goesOn (index : ℕ) (now : Instant) (id : ObjectId) :
    Move Request Tick :=
  .resume index { now, id, requester := some customer }

/-- The customer files a ticket. -/
def filing : List (Move Request Tick) :=
  [.enter (.create
      { requesterUid := "customer"
        subject := "Late"
        body := "Where is it?"
        category := .ORDER_LATE
        source := some .CUSTOMER_APP
        priority := none
        links :=
          { orderId := none
            providerBranchId := none
            paymentReference := none } } customer),
    goesOn 0 1 "", goesOn 0 2 "", goesOn 0 3 "ticket", goesOn 0 4 ""]

def answering : List (Move Request Tick) :=
  [.enter (.addNote "ticket" "On its way." .CUSTOMER agent none),
    goesOn 1 5 "", goesOn 1 6 "answer", goesOn 1 7 ""]

def adding : List (Move Request Tick) :=
  [.enter (.addMySupportTicketNote "ticket" "Order 12." customer none),
    goesOn 1 5 "", goesOn 1 6 "", goesOn 1 7 "addition", goesOn 1 8 ""]

def clockOf (both : Calls × List Stamp) :
    Option (Option Instant × List ObjectId) :=
  (both.1.store.tickets.lookup "ticket").map fun ticket =>
    (ticket.firstResponseAt, (both.1.store.responses "ticket" ticket).map SupportTicketNote._id)

end Sample

/-- The answer of an agent stamps the ticket. -/
theorem firstResponseClock_answered :
    ∃ both : Calls × List Stamp, Kept (.start Store.empty, []) both ∧
      Sample.clockOf both = some (some 6, ["answer"]) ∧
      ∀ ticketId ticket,
        both.1.store.tickets.lookup ticketId = some ticket →
        (both.1.Quiet → (ticket.firstResponseAt.isSome = true ↔
          both.1.store.responses ticketId ticket ≠ [])) := by
  have performed :
      (((desk.system.observed see).restrict
          (fun both move => keepsClock both.1 move = true)).perform
        (Sample.filing ++ Sample.answering)
        (.start Store.empty, [])).map Sample.clockOf =
        some (some (some 6, ["answer"])) := by
    decide +kernel
  rcases System.reaches_of_map_restrict performed with ⟨both, ran, seen⟩
  have kept : Kept (.start Store.empty, []) both := ran
  exact ⟨both, kept, seen, fun ticketId ticket found =>
    ((firstResponseClock kept).1 ticketId ticket found).1⟩

/-- What the customer adds stamps the ticket that nobody has answered. -/
theorem ownReplyStopsTheClock :
    ¬ ∀ both : Calls × List Stamp,
        (desk.system.observed see).Reaches (fun _ _ => True) (.start Store.empty, []) both →
        both.1.Quiet → ∀ ticketId ticket,
          both.1.store.tickets.lookup ticketId = some ticket →
          (ticket.firstResponseAt.isSome = true ↔ both.1.store.responses ticketId ticket ≠ []) := by
  intro always
  have performed :
      ((desk.system.observed see).perform (Sample.filing ++ Sample.adding)
        (.start Store.empty, [])).map (fun both =>
          (Sample.clockOf both, both.1.someCall fun _ => true)) =
        some (some (some 7, []), false) := by
    decide +kernel
  rcases System.reaches_of_map performed with ⟨both, ran, seen⟩
  rcases Prod.mk.inj seen with ⟨clock, returned⟩
  rcases Option.map_eq_some_iff.mp clock with ⟨ticket, found, shown⟩
  rcases Prod.mk.inj shown with ⟨set, responses⟩
  have agrees := always both ran (quiet_iff.mpr returned) "ticket" ticket found
  rw [set] at agrees
  exact agrees.mp rfl (List.map_eq_nil_iff.mp responses)

end Lalaba.SupportTickets
