import Lalaba.Orders.Surcharges

/-!
# Surcharges are applied once

Each call in flight has made something of the price and the hold that its row had
when it was read, and the row reflects the history of its order.  A commit that is
timely and loses no change adds what it has made to the row as the observer adds it
to the history; every other call in flight is overtaken by it.
-/

namespace Lalaba.Orders

open Foundation
open Foundation.Program

/-! ## What the calls make of a history -/

/-- What a transaction that edits a stored order has made of it. -/
structure Tracked (orderId : ObjectId) (history : List Occurrence)
    (database : Database) (bearing : Bearing) (callback : Callback)
    (prepared document : OrderDocument) : Prop where
  fits : bearing.Fits callback
  marked : bearing.marks ⊆ prepared.modified
  unmarked : .activeQualityHold ∉ bearing.marks → .activeQualityHold ∉ document.modified
  current : ∀ row, database.orders.lookup orderId = some row →
    row.version = (callback.origin prepared).2 →
      document.order.serviceLines.length = row.serviceLines.length ∧
        bearing.Makes history row document

/-- What a call in flight has made of its order. -/
def Call.Tracks (orderId : ObjectId) (history : List Occurrence)
    (database : Database) : Call → Prop
  | .transaction none callback _ document =>
    (∃ customerUid book promo, callback = .create customerUid book promo) ∧
    document.order.activeQualityHold = none ∧
    .activeQualityHold ∉ document.modified ∧
    .serviceLines ∉ document.modified
  | .transaction (some operation) callback prepared document =>
    Tracked orderId history database operation.bearing callback prepared document
  | .save document =>
    .serviceLines ∉ document.modified ∧
      (.activeQualityHold ∈ document.modified →
        ∀ hold, document.order.activeQualityHold = some hold → hold.resolvedAt ≠ none)
  | .reserve _ document =>
    .serviceLines ∉ document.modified ∧ .activeQualityHold ∉ document.modified
  | .audit _ => True

/-- What is stored of an order, and what is in flight, makes up a history. -/
structure Applied (orderId : ObjectId) (history : List Occurrence) (state : State) : Prop where
  orderly : Orderly history
  absent : state.database.orders.lookup orderId = none → history = []
  row : ∀ row, state.database.orders.lookup orderId = some row → row.Reflects history
  calls : ∀ call ∈ state.calls, call.orderId = orderId → call.Tracks orderId history state.database

section

variable {orderId : ObjectId} {history history' : List Occurrence}
  {state after : State} {action : Action} {clock : Clock}
  {operation : Option Operation} {callback : Callback}
  {prepared document document' : OrderDocument}
  {database database' : Database} {bearing : Bearing}

theorem Bearing.Fits.existing (fits : bearing.Fits callback)
    (customerUid : Uid)
    (book : Database → Except ServiceError ScheduledPickup)
    (promo : Option PromoClaim) :
    callback ≠ .create customerUid book promo := by
  rintro rfl
  cases bearing with
  | prices => exact fits
  | raises | resolves approve => exact fits.1
  | plain => exact fits _ _ _ rfl

theorem Bearing.Makes.of_costs {row row' : OnlineOrder}
    (makes : bearing.Makes history row document)
    (same : row'.pricing.amounts = row.pricing.amounts)
    (lines : row'.serviceLines.length = row.serviceLines.length) :
    bearing.Makes history row' document := by
  cases bearing with
  | prices => trivial
  | raises =>
    rw [Bearing.Makes, same, lines]
    exact makes
  | resolves approve =>
    rw [Bearing.Makes, same]
    exact makes
  | plain => exact makes.trans same.symm

theorem Bearing.Makes.carried {row : OnlineOrder} {memory : OrderDocument}
    (makes : bearing.Makes history row document)
    (carried : Carried orderId document memory) :
    bearing.Makes history row memory := by
  cases bearing with
  | prices => trivial
  | raises | resolves =>
    rw [Bearing.Makes, carried.amounts, carried.hold]
    exact makes
  | plain => exact carried.amounts.trans makes

theorem Tracked.carried {memory : OrderDocument}
    (tracked : Tracked orderId history database bearing callback prepared
      document) (carried : Carried orderId document memory) :
    Tracked orderId history database bearing callback prepared memory where
  fits := tracked.fits
  marked := tracked.marked
  unmarked := fun aside again =>
    tracked.unmarked aside (carried.marked _ rfl again)
  current := by
    intro row found stands
    rcases tracked.current row found stands with ⟨lines, makes⟩
    exact ⟨(congrArg List.length carried.lines).trans lines, makes.carried carried⟩

variable {call : Call}

theorem Call.Tracks.congr (tracks : call.Tracks orderId history database)
    (same : ∀ row', database'.orders.lookup orderId = some row' →
      ∃ row, database.orders.lookup orderId = some row ∧ row'.version = row.version ∧
        row'.pricing.amounts = row.pricing.amounts ∧
        row'.serviceLines.length = row.serviceLines.length) :
    call.Tracks orderId history database' := by
  cases call with
  | transaction operation =>
    cases operation with
    | none => exact tracks
    | some operation =>
      refine ⟨tracks.fits, tracks.marked, tracks.unmarked, ?_⟩
      intro row' found' stands
      rcases same row' found' with ⟨row, found, version, amounts, lines⟩
      rcases tracks.current row found (version ▸ stands) with ⟨lined, makes⟩
      exact ⟨lined.trans lines.symm, makes.of_costs amounts lines⟩
  | save | reserve => exact tracks
  | audit => trivial

theorem Call.Tracks.overtaken
    (tracks : call.Tracks orderId history state.database)
    (read : Read orderId state call)
    (newer : ∀ row row', state.database.orders.lookup orderId = some row →
      database'.orders.lookup orderId = some row' → row.version < row'.version) :
    call.Tracks orderId history' database' := by
  cases call with
  | transaction operation callback prepared document =>
    cases operation with
    | none => exact tracks
    | some operation =>
      refine ⟨tracks.fits, tracks.marked, tracks.unmarked, ?_⟩
      intro row' found' stands
      exfalso
      rcases read with booked | ⟨_, _, _, row, found, earlier, _⟩
      · rcases booked.creates with ⟨_, _, _, creates⟩
        exact tracks.fits.existing _ _ _ creates
      · have later := newer row row' found found'
        omega
  | save | reserve => exact tracks
  | audit => trivial

/-- A new call makes of its order what its method makes of the row. -/
theorem Call.Tracks.begun (applied : Applied orderId history state)
    (beside : state.Beside orderId after)
    (begun : Begun orderId state action after call)
    (about : call.orderId = orderId) :
    call.Tracks orderId history after.database := by
  cases begun with
  | booked _ _ _ _ callback document _ ordered =>
    have booked := createOrder_books _ ordered
    rcases booked.orders with ⟨_, _, _, _, _, _, _, rfl, _⟩
    exact ⟨booked.creates, rfl, Finset.notMem_empty _, Finset.notMem_empty _⟩
  | drafted environment clock actor method row callback document _ _ _ found prepares =>
    have edited : Edited clock row method document := (method.edited _ prepares).1
    refine ⟨method.fits prepares, edited.marked, edited.unmarked, ?_⟩
    intro row' found' _
    rw [beside.same.row] at found'
    cases found.symm.trans found'
    exact ⟨edited.lines, edited.makes (applied.row row found)⟩
  | amended environment clock actor method row document _ _ prepares =>
    have amended : Amended row document := method.drafts _ prepares
    rcases method.edited _ prepares with ⟨edited, only⟩
    constructor
    · intro marked
      have clean := amended.clean marked
      simp at clean
    · intro marked hold found
      have edits := edited.edits
      rcases Operation.edits_hold (edited.marks marked) with ⟨input, rfl⟩ | ⟨_, rfl⟩ | rfl
      · have documents : input.blocksOrder = false := by
          simpa [Operation.savesOnly] using only
        cases edits.1.symm.trans found
        simp [raisedHold, documents]
      · cases only
      · cases only
  | audited => trivial
  | aborted index budget clock operation callback prepared document _ flying =>
    have carried := @Carried.run clock callback document state.database (some budget)
    have about' : document.order._id = orderId := carried.identified.symm.trans about
    rw [about'] at carried
    have tracks : (Call.transaction operation callback prepared
        document).Tracks orderId history after.database := by
      apply (applied.calls _ (List.mem_of_getElem? flying) about').congr
      exact fun row' found' =>
        ⟨row', beside.same.row.symm.trans found', rfl, rfl, rfl⟩
    cases operation with
    | none =>
      rcases tracks with ⟨creates, hold, unheld, unlined⟩
      exact ⟨creates, carried.hold.trans hold,
        fun again => unheld (carried.marked _ rfl again),
        fun again => unlined (carried.marked _ rfl again)⟩
    | some operation => exact tracks.carried carried
  | reserved index environment clock claim document promoId _ flying =>
    rcases applied.calls _ (List.mem_of_getElem? flying) about with ⟨unlined, unheld⟩
    constructor
    · intro marked
      rcases Finset.mem_insert.mp marked with same | old
      · cases same
      · exact unlined old
    · intro marked
      rcases Finset.mem_insert.mp marked with same | old
      · cases same
      · exact (unheld old).elim

end

/-! ## What a commit makes of a history -/

section

variable {orderId : ObjectId} {history : List Occurrence} {clock : Clock}
  {callback : Callback} {prepared document document' : OrderDocument}
  {database after : Database} {bearing : Bearing} {row : OnlineOrder}

theorem Bearing.savesAhead (fits : bearing.Fits callback)
    (priced : .pricing ∈ bearing.marks) : callback.savesAhead := by
  cases bearing with
  | prices =>
    cases callback with
    | recordWeight | receive => trivial
    | _ => exact fits.elim
  | resolves approve =>
    cases callback with
    | saveThenTransition => trivial
    | _ => exact fits.1.elim
  | raises | plain => simp [marks] at priced

theorem Bearing.chargeless (fits : bearing.Fits callback)
    (held : .activeQualityHold ∈ bearing.marks) : callback.chargeless := by
  cases bearing with
  | raises | resolves approve => exact fits.1
  | prices | plain => simp [marks] at held

theorem Bearing.Makes.amounts (makes : bearing.Makes history row document)
    (unpriced : .pricing ∉ bearing.marks) :
    document.order.pricing.amounts = row.pricing.amounts := by
  cases bearing with
  | prices => simp [marks] at unpriced
  | raises => exact makes.1
  | resolves approve =>
    rcases makes with ⟨_, _, _, _, same⟩
    cases approve with
    | false => exact same
    | true => simp [marks] at unpriced
  | plain => exact makes

theorem Bearing.Fits.allowed (fits : bearing.Fits callback)
    (edits : bearing ≠ .plain)
    (outcome : (callback.program clock).commit database document = (.ok (), after, document')) :
    callback.refused document = false := by
  have striding := Callback.strides fits.existing outcome
  have starts : callback.origin document = document.order.place := by
    cases bearing with
    | prices =>
      cases callback with
      | recordWeight | receive => rfl
      | _ => exact fits.elim
    | raises | resolves approve =>
      cases callback with
      | saveThenTransition => rfl
      | _ => exact fits.1.elim
    | plain => exact (edits rfl).elim
  have allowed := striding.allowed
  rw [starts] at allowed
  simpa [Callback.refused, OnlineOrder.place] using allowed

theorem Tracked.unspent
    (tracked : Tracked orderId history database bearing callback prepared document)
    (unspent : (callback.refused document || document.unspent prepared) = true)
    (outcome : (callback.program clock).commit database document = (.ok (), after, document')) :
    bearing.marks ⊆ document.modified := by
  by_cases plain : bearing = .plain
  · rw [plain]
    exact Finset.empty_subset _
  · rw [tracked.fits.allowed plain outcome, Bool.false_or,
      OrderDocument.unspent, Bool.and_eq_true] at unspent
    intro path member
    have marked := tracked.marked member
    rcases bearing.pricing_or_hold member with rfl | rfl
    · exact of_decide_eq_true unspent.1 marked
    · exact of_decide_eq_true unspent.2 marked

theorem Tracked.reckoned
    (tracked : Tracked orderId history database bearing callback prepared document)
    (unspent : bearing.marks ⊆ document.modified)
    (inserted : document.isNew = false)
    (about : document.order._id = orderId)
    (found : database.orders.lookup orderId = some row)
    (stands : row.place = callback.origin prepared)
    (outcome : (callback.program clock).commit database document = (.ok (), after, document')) :
    Reckoned orderId document.order.pricing.amounts
      row.serviceLines.length after.orders document' := by
  rcases tracked.current row found (congrArg Prod.snd stands) with ⟨lines, makes⟩
  by_cases priced : .pricing ∈ bearing.marks
  · rw [← lines]
    apply Reckoned.written (Bearing.savesAhead tracked.fits priced) about
      inserted (unspent priced) _ outcome
    intro other found'
    cases found.symm.trans found'
    exact lines.symm
  · have reckoned : Reckoned orderId document.order.pricing.amounts
        row.serviceLines.length database.orders document := by
      refine ⟨about, ⟨rfl, lines⟩, ?_⟩
      intro other found'
      cases found.symm.trans found'
      exact ⟨(makes.amounts priced).symm, rfl⟩
    exact reckoned.committed outcome

theorem Tracked.holding
    (tracked : Tracked orderId history database bearing callback prepared document)
    (unspent : bearing.marks ⊆ document.modified)
    (inserted : document.isNew = false)
    (about : document.order._id = orderId)
    (found : database.orders.lookup orderId = some row)
    (outcome : (callback.program clock).commit database document = (.ok (), after, document')) :
    Holding orderId
      (if .activeQualityHold ∈ bearing.marks then
        document.order.activeQualityHold
      else
        row.activeQualityHold)
      after.orders document' := by
  split
  · rename_i held
    exact Holding.written (Bearing.chargeless tracked.fits held) about
      inserted (unspent held) outcome
  · rename_i aside
    have holding : Holding orderId row.activeQualityHold database.orders
        document := by
      refine ⟨about, tracked.unmarked aside, ?_, ?_⟩
      · intro isNew
        rw [inserted] at isNew
        cases isNew
      · intro other found'
        cases found.symm.trans found'
        rfl
    exact holding.committed outcome

theorem Tracked.orderly
    (tracked : Tracked orderId history database bearing callback prepared document)
    (orderly : Orderly history) (reflects : row.Reflects history)
    (found : database.orders.lookup orderId = some row)
    (stands : row.place = callback.origin prepared)
    (allowed : callback.aim ∈ row.status.transitions) :
    Orderly (history ++ bearing.occurrences document) := by
  rcases tracked.current row found (congrArg Prod.snd stands) with ⟨_, makes⟩
  cases bearing with
  | prices =>
    apply orderly.concat
    by_contra approved
    exact Callback.not_weighs_of_taken (reflects.taken approved) allowed tracked.fits
  | raises =>
    rcases makes with ⟨_, hold, raised, _⟩
    rw [Bearing.occurrences, raised]
    exact orderly.concat trivial
  | resolves approve =>
    rcases makes with ⟨hold, clock, waits, answered, _⟩
    rw [Bearing.occurrences, answered]
    exact orderly.concat ⟨hold, clock, _, waits, rfl⟩
  | plain =>
    rw [Bearing.occurrences, List.append_nil]
    exact orderly

theorem Tracked.taken
    (tracked : Tracked orderId history database bearing callback prepared document)
    (reflects : row.Reflects history)
    (found : database.orders.lookup orderId = some row)
    (advanced : Advanced orderId callback prepared database after document')
    (approved : approvedIn (history ++ bearing.occurrences document) ≠ [])
    {row' : OnlineOrder} (found' : after.orders.lookup orderId = some row') :
    row'.status.taken := by
  by_cases earlier : approvedIn history = []
  · apply advanced.taken (.inr (.inr _)) found'
    rw [approvedIn_append, earlier, List.nil_append] at approved
    cases bearing with
    | prices | plain => exact (approved rfl).elim
    | raises =>
      rcases hold : document.order.activeQualityHold with _ | hold
      · simp [Bearing.occurrences, hold, approvedIn] at approved
      · simp [Bearing.occurrences, hold, approvedIn, Occurrence.approval] at approved
    | resolves approve =>
      rw [tracked.fits.2.2]
      exact .inl rfl
  · exact advanced.taken (.inl ⟨row, found, reflects.taken earlier⟩) found'

/-- What a commit makes of a row that reflects a history. -/
theorem Tracked.reflects
    (tracked : Tracked orderId history database bearing callback prepared document)
    (unspent : bearing.marks ⊆ document.modified)
    (inserted : document.isNew = false)
    (about : document.order._id = orderId)
    (reflects : row.Reflects history)
    (found : database.orders.lookup orderId = some row)
    (stands : row.place = callback.origin prepared)
    (advanced : Advanced orderId callback prepared database after document')
    (outcome : (callback.program clock).commit database document =
      (.ok (), after, document')) {row' : OnlineOrder}
    (found' : after.orders.lookup orderId = some row') :
    row'.Reflects (history ++ bearing.occurrences document) := by
  rcases tracked.current row found (congrArg Prod.snd stands) with ⟨_, makes⟩
  rcases (tracked.reckoned unspent inserted about found stands outcome).row
    row' found' with ⟨amounts, lines⟩
  have held := (tracked.holding unspent inserted about found outcome).row row' found'
  refine ⟨?_, ?_, fun approved =>
    tracked.taken reflects found advanced approved found'⟩
  · intro due comes
    rw [amounts]
    cases bearing with
    | prices =>
      rw [Bearing.occurrences, amountsIn_concat] at comes
      exact Option.some.inj comes
    | raises =>
      rcases makes with ⟨same, hold, raised, _⟩
      rw [Bearing.occurrences, raised, Option.map_some, Option.toList_some,
        amountsIn_concat] at comes
      rcases Option.map_eq_some_iff.mp comes with ⟨earlier, before, rfl⟩
      exact same.trans (reflects.amounts earlier before)
    | resolves approve =>
      rcases makes with ⟨hold, clock, _, answered, same⟩
      rw [Bearing.occurrences, answered, Option.map_some,
        Option.toList_some, amountsIn_concat] at comes
      rcases Option.map_eq_some_iff.mp comes with ⟨earlier, before, rfl⟩
      rw [same, reflects.amounts earlier before]
      cases approve <;> rfl
    | plain =>
      rw [Bearing.occurrences, List.append_nil] at comes
      exact makes.trans (reflects.amounts due comes)
  · intro hold stored unresolved
    rw [held] at stored
    rw [lines]
    cases bearing with
    | prices =>
      rw [Bearing.occurrences, waitingIn_concat]
      exact reflects.hold hold stored unresolved
    | raises =>
      rcases makes with ⟨_, raised, found, line⟩
      cases found.symm.trans stored
      rw [Bearing.occurrences, found, Option.map_some, Option.toList_some, waitingIn_concat]
      exact ⟨rfl, line⟩
    | resolves approve =>
      rcases makes with ⟨answered, clock, _, found, _⟩
      have marked : .activeQualityHold ∈ (Bearing.resolves approve).marks := by
        cases approve <;> decide
      rw [if_pos marked, found] at stored
      cases stored
      cases unresolved
    | plain =>
      rw [Bearing.occurrences, List.append_nil]
      exact reflects.hold hold stored unresolved

end

/-! ## Runs -/

section

variable {orderId : ObjectId} {history history' : List Occurrence}
  {state after : State} {index : ℕ} {environment : Environment}
  {clock : Clock} {callback : Callback}
  {prepared document document' : OrderDocument} {database : Database}
  {action : Action}

theorem Applied.beside (applied : Applied orderId history state)
    (beside : state.Beside orderId after)
    (calls : ∀ call ∈ after.calls, call.orderId = orderId →
      call ∈ state.calls ∨ call.Tracks orderId history after.database) :
    Applied orderId history after where
  orderly := applied.orderly
  absent := by
    rw [beside.same.row]
    exact applied.absent
  row := by
    rw [beside.same.row]
    exact applied.row
  calls := by
    intro call member about
    rcases calls call member about with old | tracks
    · apply (applied.calls call old about).congr
      exact fun row' found' =>
        ⟨row', beside.same.row.symm.trans found', rfl, rfl, rfl⟩
    · exact tracks

theorem Tracked.follows {operation : Operation} {hold : Option QualityHold}
    {lines : ℕ} {amounts : Amounts} {call : Call}
    (tracked : Tracked orderId history state.database operation.bearing callback prepared document)
    (holding : Holding orderId hold database.orders document')
    (reckoned : Reckoned orderId amounts lines database.orders document')
    (followed : callback.followUp (some operation) document' = some call) :
    call.Tracks orderId history' database := by
  have clean : .activeQualityHold ∉ document'.markAssignments.modified := by
    simpa using holding.clean
  have fits := tracked.fits
  unfold Callback.followUp at followed
  split at followed
  · cases followed
    have plain : operation.bearing = .plain := by
      cases bears : operation.bearing with
      | prices =>
        rw [bears] at fits
        exact fits.elim
      | raises =>
        rw [bears] at fits
        cases fits.2
      | resolves approve =>
        rw [bears] at fits
        cases fits.2.1
      | plain => rfl
    rw [Call.Tracks, plain]
    refine ⟨fun _ _ _ => nofun, Finset.empty_subset _, fun _ => clean, ?_⟩
    intro row found _
    rcases reckoned.row row found with ⟨amounts, lines⟩
    exact ⟨reckoned.memory.2.trans lines.symm, reckoned.memory.1.trans amounts.symm⟩
  · exact (fits.existing _ _ _ rfl).elim
  · cases followed

theorem Applied.overtaken (applied : Applied orderId history state)
    (onTime : OnTime orderId state)
    (advanced : Advanced orderId callback prepared state.database database document') :
    (database.orders.lookup orderId = none → history' = []) ∧
      ∀ call ∈ state.calls, call.orderId = orderId → call.Tracks orderId history' database := by
  constructor
  · intro missing
    rcases advanced.stored with ⟨row, found, _⟩
    cases found.symm.trans missing
  · intro call member about
    exact (applied.calls call member about).overtaken
      (onTime.sound call member about) fun _ _ => advanced.newer

/-- A new order has no price and no hold yet. -/
theorem Applied.opens (applied : Applied orderId history state)
    (onTime : OnTime orderId state)
    (allowed : LosesNothing orderId state (.commit index environment clock))
    (flying : state.calls[index]? = some (.transaction none callback prepared document))
    (about : document.order._id = orderId)
    (outcome : (callback.program clock).commit state.database document =
      (.ok (), database, document')) :
    Applied orderId history (state.write database) ∧
      ∀ call, callback.followUp none document' = some call →
        call.Tracks orderId history database := by
  have member := List.mem_of_getElem? flying
  have read := onTime.sound _ member about
  have advanced := read.commits allowed.1 flying about outcome
  rcases applied.calls _ member about with ⟨creates, hold, unheld, unlined⟩
  rcases creates with ⟨customerUid, book, promo, rfl⟩
  cases advanced with
  | moved _ _ existing => exact (existing _ _ _ rfl).elim
  | opened other mode booked absent striding =>
    -- Nothing has occurred to an order that was not there.
    have fresh := applied.absent absent
    subst fresh
    have start : Holding orderId none state.database.orders document := by
      refine ⟨about, unheld, fun _ => hold, ?_⟩
      intro row found
      rw [absent] at found
      cases found
    have holding := start.committed outcome
    have carried := Carried.committed outcome
    rcases applied.overtaken onTime
      (.opened other mode booked absent striding) with ⟨missing, calls⟩
    refine ⟨⟨applied.orderly, missing, ?_, calls⟩, ?_⟩
    · intro row found
      refine ⟨nofun, ?_, fun approved => (approved rfl).elim⟩
      intro other found'
      rw [holding.row row found] at found'
      cases found'
    · intro call followed
      cases promo with
      | none => cases followed
      | some claim =>
        cases followed
        exact ⟨fun again => unlined (carried.marked _ rfl again), holding.clean⟩

/-- A commit adds to the history what has occurred. -/
theorem Applied.moves {operation : Operation}
    (applied : Applied orderId history state)
    (onTime : OnTime orderId state)
    (allowed : LosesNothing orderId state (.commit index environment clock))
    (flying : state.calls[index]? = some (.transaction (some operation) callback prepared document))
    (about : document.order._id = orderId)
    (outcome : (callback.program clock).commit state.database document =
      (.ok (), database, document')) :
    Applied orderId (history ++ operation.bearing.occurrences document)
        (state.write database) ∧
      ∀ call, callback.followUp (some operation) document' = some call →
        call.Tracks orderId (history ++ operation.bearing.occurrences document) database := by
  have member := List.mem_of_getElem? flying
  have read := onTime.sound _ member about
  have advanced := read.commits allowed.1 flying about outcome
  have tracked : Tracked orderId history state.database operation.bearing
      callback prepared document :=
    applied.calls _ member about
  have unspent : operation.bearing.marks ⊆ document.modified := by
    apply tracked.unspent _ outcome
    simpa [Orders.unspent, flying, about] using allowed.2
  rcases read with booked | ⟨_, _, inserted, _⟩
  · rcases booked.creates with ⟨_, _, _, creates⟩
    exact (tracked.fits.existing _ _ _ creates).elim
  · rcases applied.overtaken onTime advanced with ⟨missing, calls⟩
    cases advanced with
    | opened _ _ booked =>
      rcases booked.creates with ⟨_, _, _, creates⟩
      exact (tracked.fits.existing _ _ _ creates).elim
    | moved row mode existing found stands striding =>
      have reflects := applied.row row found
      have reckoned := tracked.reckoned unspent inserted about found stands outcome
      have holding := tracked.holding unspent inserted about found outcome
      refine ⟨⟨?_, missing, ?_, calls⟩, ?_⟩
      · exact tracked.orderly applied.orderly reflects found stands striding.allowed
      · exact fun row' found' => tracked.reflects unspent inserted about
          reflects found stands
          (.moved row mode existing found stands striding) outcome found'
      · exact fun call followed =>
          tracked.follows holding reckoned followed

/-- A save outside any transaction leaves the price alone. -/
theorem Applied.saves {row : OnlineOrder} {saved : OrderDocument}
    (applied : Applied orderId history state)
    (onTime : OnTime orderId state)
    (allowed : LosesNothing orderId state (.commit index environment clock))
    (flying : state.calls[index]? = some (.save document))
    (about : document.order._id = orderId)
    (outcome : document.save (state.database.orders.lookup orderId) = .ok (row, saved)) :
    Applied orderId history (state.write (state.database.putOrder orderId row)) := by
  have member := List.mem_of_getElem? flying
  have read := onTime.sound _ member about
  rcases read.saves allowed.1 flying about outcome with ⟨old, found, rfl, stands⟩
  rcases applied.calls _ member about with ⟨unlined, resolved⟩
  have reflects := applied.row old found
  have amounts : (document.writeTo old).pricing.amounts =
      old.pricing.amounts := by
    by_cases marked : .pricing ∈ document.modified
    · have same : old.pricing.amounts = document.order.pricing.amounts := by
        simpa [Orders.unspent, flying, about, found, marked] using allowed.2
      exact (congrArg OrderPricing.amounts (if_pos marked)).trans same.symm
    · exact congrArg OrderPricing.amounts (if_neg marked)
  have lines : (document.writeTo old).serviceLines = old.serviceLines := if_neg unlined
  refine ⟨applied.orderly, ?_, ?_, ?_⟩
  · intro missing
    cases (AList.lookup_insert _).symm.trans missing
  · intro stored found'
    cases (AList.lookup_insert _).symm.trans found'
    refine ⟨?_, ?_, ?_⟩
    · rw [amounts]
      exact reflects.amounts
    · intro hold kept unresolved
      rw [lines]
      by_cases marked : .activeQualityHold ∈ document.modified
      · exact (resolved marked hold ((if_pos marked).symm.trans kept) unresolved).elim
      · exact reflects.hold hold ((if_neg marked).symm.trans kept) unresolved
    · rw [show (document.writeTo old).status = old.status from congrArg Prod.fst stands]
      exact reflects.taken
  · intro call member about
    apply (applied.calls call member about).congr
    intro stored found'
    cases (AList.lookup_insert _).symm.trans found'
    exact ⟨old, found, congrArg Prod.snd stands, amounts, congrArg List.length lines⟩

end

def Commits (orderId : ObjectId) (state : State) (action : Action) : Prop :=
  ∃ index environment clock operation callback prepared document database
      document',
    action = .commit index environment clock ∧
      state.calls[index]? = some (.transaction operation callback prepared document) ∧
      document.order._id = orderId ∧
      (callback.program clock).commit state.database document = (.ok (), database, document')

section

variable {orderId : ObjectId} {state after : State} {action : Action} {history : List Occurrence}

theorem observe_of_commit {index : ℕ} {environment : Environment}
    {clock : Clock} {operation : Option Operation} {callback : Callback}
    {prepared document document' : OrderDocument} {database : Database}
    (flying : state.calls[index]? = some (.transaction operation callback prepared document))
    (about : document.order._id = orderId)
    (outcome : (callback.program clock).commit state.database document =
      (.ok (), database, document')) :
    observe orderId state (.commit index environment clock) after history =
      history ++ occurrencesOf document operation := by
  simp only [observe, flying, about, if_true, outcome]

theorem observe_of_not (quiet : ¬ Commits orderId state action) :
    observe orderId state action after history = history := by
  unfold observe
  split
  · split
    · rename_i index _ clock _ operation callback prepared document flying
      split
      · rename_i about
        rcases outcome : (callback.program clock).commit state.database
          document with ⟨failure | value, database, document'⟩
        · rfl
        · exact (quiet ⟨index, _, clock, operation, callback, prepared,
            document, database, document', rfl, flying, about, outcome⟩).elim
      · rfl
    · rfl
  · rfl

/-- Every step that loses no change keeps row and calls in line with the history. -/
theorem Applied.step {castToObjectId : String → Option ObjectId}
    (tidy : state.Tidy) (onTime : OnTime orderId state)
    (applied : Applied orderId history state)
    (allowed : LosesNothing orderId state action)
    (stepped : (orderSystem castToObjectId).step action state = some after) :
    Applied orderId (observe orderId state action after history) after := by
  by_cases commits : Commits orderId state action
  · rcases commits with ⟨index, environment, clock, operation, callback,
      prepared, document, database, document', rfl, flying, about, outcome⟩
    have same : after =
        stepCommit index clock operation callback document state := by
      rcases Option.map_eq_some_iff.mp stepped with ⟨call, flying', rfl⟩
      cases flying.symm.trans flying'
      rfl
    subst same
    rcases @stepCommit_succeeded orderId state index clock operation _ _ _ _
      outcome with ⟨beside, calls⟩
    rw [observe_of_commit flying about outcome]
    have both : Applied orderId (history ++ occurrencesOf document operation)
          (state.write database) ∧
        ∀ call, callback.followUp operation document' = some call →
          call.Tracks orderId (history ++ occurrencesOf document operation)
            database := by
      cases operation with
      | none =>
        rw [occurrencesOf, List.append_nil]
        exact applied.opens onTime allowed flying about outcome
      | some operation =>
        exact applied.moves onTime allowed flying about outcome
    apply both.1.beside beside
    intro call member _
    rcases calls call member with old | followed
    · exact .inl old
    · right
      apply (both.2 call followed).congr
      exact fun row' found' =>
        ⟨row', beside.same.row.symm.trans found', rfl, rfl, rfl⟩
  · rw [observe_of_not commits]
    have cases := @step_cases orderId _ _ _ tidy _ stepped
    cases cases with
    | aside beside calls =>
      apply applied.beside beside
      exact fun call member about => (calls call member about).imp_right
        fun begun => .begun applied beside begun about
    | committed index environment clock operation callback prepared document
        document' database same flying about outcome =>
      exact (commits ⟨index, environment, clock, operation, callback,
        prepared, document, database, document', same, flying, about, outcome⟩).elim
    | saved index environment clock document document' row same flying about outcome beside calls =>
      subst same
      apply (applied.saves onTime allowed flying about outcome).beside beside
      exact fun call member _ => .inl (calls call member)

theorem applied_start : Applied orderId [] .start where
  orderly := orderly_nil
  absent := fun _ => rfl
  row := by
    intro row found
    simp [State.start] at found
  calls := by
    intro call member
    simp [State.start] at member

theorem applied_of_reaches {castToObjectId : String → Option ObjectId}
    {both : State × List Occurrence}
    (reached : ((orderSystem castToObjectId).observed (observe orderId)).Reaches
        (fun both action => LosesNothing orderId both.1 action) (.start, []) both) :
    Applied orderId both.2 both.1 := by
  apply reached.layered
    (fun both => both.1.Tidy ∧ OnTime orderId both.1)
    (fun both => Applied orderId both.2 both.1)
  · intro both reached
    have ran := reached.unobserved
    exact ⟨State.Tidy.of_reaches ran, onTime_of_reaches (fun _ _ once => once.1) ran⟩
  · exact applied_start
  · rintro both action both' ⟨tidy, onTime⟩ applied allowed stepped
    rcases System.observed_step stepped with ⟨ran, seen⟩
    rw [seen]
    exact applied.step tidy onTime allowed ran

end

/-- The surcharges of an order are applied exactly once. -/
structure AppliedOnce (orderId : ObjectId) (history : List Occurrence)
    (database : Database) : Prop where
  resolved : ∀ before hold since,
    history = before ++ .resolved hold :: since →
      ∃ raised earlier between clock response,
        before = earlier ++ .raised raised :: between ∧
          (∀ other, .resolved other ∉ between) ∧
          hold = raised.answered clock response
  priced : ∀ before amounts since,
    history = before ++ .priced amounts :: since → approvedIn before = []
  amounts : ∀ before amounts since,
    history = before ++ .priced amounts :: since →
      (∀ other, .priced other ∉ since) →
        ∀ row, database.orders.lookup orderId = some row →
          row.pricing.actualServiceTotalCentavos.getD 0 =
              amounts.serviceTotalCentavos +
                (((approvedIn since).map QualityHold.surchargeCentavos).sum : ℕ) ∧
            row.pricing.platformFeeSurchargeCentavos.getD 0 =
              amounts.feeSurchargeCentavos +
                ((approvedIn since).map (QualityHold.surchargeFeeCentavos amounts.feePercent)).sum ∧
            row.pricing.customerTotalCentavos.getD 0 =
              amounts.customerTotalCentavos +
                (((approvedIn since).map QualityHold.surchargeCentavos).sum : ℕ) +
                (((approvedIn since).map
                  (QualityHold.surchargeFeeCentavos amounts.feePercent)).sum : ℤ)

theorem Applied.once {orderId : ObjectId} {history : List Occurrence}
    {state : State} (applied : Applied orderId history state) :
    AppliedOnce orderId history state.database where
  resolved := by
    intro before hold since parted
    rcases applied.orderly before _ since parted with ⟨raised, clock, response, waits, answered⟩
    rcases raised_of_waitingIn waits with ⟨earlier, between, same, unresolved⟩
    exact ⟨raised, earlier, between, clock, response, same, unresolved, answered⟩
  priced := fun before _ since parted =>
    applied.orderly before _ since parted
  amounts := by
    intro before amounts since parted last row found
    have comes := (applied.row row found).amounts _ (parted ▸ amountsIn_since last)
    rw [Amounts.foldl_charge] at comes
    exact ⟨congrArg Amounts.serviceTotalCentavos comes,
      congrArg Amounts.feeSurchargeCentavos comes,
      congrArg Amounts.customerTotalCentavos comes⟩

end Lalaba.Orders
