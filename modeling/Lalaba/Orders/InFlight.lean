import Lalaba.Orders.Aftermath
import Lalaba.Orders.Preparation
import Lalaba.Wallets.Integrity

/-!
# One order under interleaving

What a step can do to one order: it is beside the order, or it commits a
transaction of the order, or it saves one of its documents.  Every call in flight
was begun by a method, by an aborted run or by what a commit left to do.

An invariant of an order is an assertion about the state and one about each call
in flight for the order.  By the inversion of the steps it comes down to a few
obligations: what a new call finds, what an aborted run leaves, and what a commit
and a save do.
-/

namespace Lalaba.Orders

open Foundation
open Foundation.Program
open Promotions
open Wallets

def Database.Expirable (orderId : ObjectId) (database : Database) : Prop :=
  ∃ row, database.orders.lookup orderId = some row ∧
    row.status.abandonmentWaiting ∧ row.abandonmentDeadlineAt ≠ none

/-- What happened was not about this order. -/
structure State.Beside (orderId : ObjectId) (state after : State) : Prop where
  same : state.database.SameFor orderId after.database
  vetted : ∀ passed ∈ state.vetted, passed ∈ after.vetted
  expired : orderId ∈ after.expired → orderId ∈ state.expired ∨ state.database.Expirable orderId

namespace State

variable {orderId : ObjectId} {state middle after : State}

theorem Beside.of_same
    (same : state.database.SameFor orderId after.database)
    (vetted : after.vetted = state.vetted)
    (expired : after.expired = state.expired) :
    state.Beside orderId after where
  same := same
  vetted := fun _ member => by rwa [vetted]
  expired := fun member => .inl (by rwa [expired] at member)

theorem Beside.refl (state : State) : state.Beside orderId state := .of_same (.refl _) rfl rfl

theorem mem_begin {call other : Call}
    (member : call ∈ (state.begin other).calls) :
    call ∈ state.calls ∨ call = other := by
  simpa [begin] using member

theorem mem_advance {index : ℕ} {call other : Call}
    (member : call ∈ (state.advance index other).calls) :
    call ∈ state.calls ∨ call = other :=
  List.mem_or_eq_of_mem_set member

theorem mem_finish {index : ℕ} {call : Call}
    (member : call ∈ (state.finish index).calls) : call ∈ state.calls :=
  List.mem_of_mem_eraseIdx member

end State

/-! ## What a step can do -/

/-- Rows are stored under their ids, and audit rows record no transition. -/
structure State.Tidy (state : State) : Prop where
  keyed : state.database.Keyed
  audits : ∀ event, Call.audit event ∈ state.calls → event.isTransition = false

/-- Where a call of an order that was not in flight comes from. -/
inductive Begun (orderId : ObjectId) (state : State) (action : Action)
    (after : State) : Call → Prop where
  | booked (market : Market) (clock : Clock) (customer : User)
      (input : CreateOrderInput) (callback : Callback)
      (document : OrderDocument)
      (requested : action = .create market clock customer input orderId)
      (drafted : createOrder market clock customer input orderId
        state.database = .ok (callback, document)) :
      Begun orderId state action after (.transaction none callback document document)
  | drafted (environment : Environment) (clock : Clock) (actor : User)
      (operation : Operation) (row : OnlineOrder) (callback : Callback)
      (document : OrderDocument)
      (requested : action = .request environment clock actor orderId operation)
      (expired : operation = .abandonUnsettledOrder → orderId ∈ state.expired)
      (vetted : ∀ staffUid, operation = .assignPickupStaff staffUid ∨
        operation = .assignReturnStaff staffUid → (orderId, staffUid) ∈ after.vetted)
      (found : state.database.orders.lookup orderId = some row)
      (prepared : operation.prepare environment clock actor state.database
        row = .ok (.transaction callback document)) :
      Begun orderId state action after (.transaction (some operation) callback document document)
  | amended (environment : Environment) (clock : Clock) (actor : User)
      (operation : Operation) (row : OnlineOrder)
      (document : OrderDocument)
      (requested : action = .request environment clock actor orderId operation)
      (found : state.database.orders.lookup orderId = some row)
      (prepared : operation.prepare environment clock actor state.database
        row = .ok (.saveOnly document)) :
      Begun orderId state action after (.save document)
  | audited (event : OrderEvent) (audit : event.isTransition = false)
      (repeats : event.fromStatus ≠ none)
      (stored : state.database.orders.lookup orderId ≠ none) :
      Begun orderId state action after (.audit event)
  | aborted (index budget : ℕ) (clock : Clock)
      (operation : Option Operation) (callback : Callback)
      (prepared document : OrderDocument)
      (aborts : action = .abort index budget clock)
      (flying : state.calls[index]? = some (.transaction operation callback prepared document)) :
      Begun orderId state action after
        (.transaction operation callback prepared
          ((callback.program clock).runOnce (some budget) state.database document).2.memory)
  | reserved (index : ℕ) (environment : Environment) (clock : Clock)
      (claim : PromoClaim) (document : OrderDocument) (promoId : ObjectId)
      (commits : action = .commit index environment clock)
      (flying : state.calls[index]? = some (.reserve claim document)) :
      Begun orderId state action after (.save (document.stampPromo promoId))

/-- What a step does to one order. -/
inductive Stepped (orderId : ObjectId) (state : State) (action : Action)
    (after : State) : Prop where
  | aside (beside : state.Beside orderId after)
      (calls : ∀ call ∈ after.calls, call.orderId = orderId →
        call ∈ state.calls ∨ Begun orderId state action after call)
  | committed (index : ℕ) (environment : Environment) (clock : Clock)
      (operation : Option Operation) (callback : Callback)
      (prepared document document' : OrderDocument) (database : Database)
      (commits : action = .commit index environment clock)
      (flying : state.calls[index]? = some (.transaction operation callback prepared document))
      (about : document.order._id = orderId)
      (outcome : (callback.program clock).commit state.database document =
        (.ok (), database, document'))
      (beside : (state.write database).Beside orderId after)
      (calls : ∀ call ∈ after.calls, call ∈ state.calls ∨
        callback.followUp operation document' = some call)
  | saved (index : ℕ) (environment : Environment) (clock : Clock)
      (document document' : OrderDocument) (row : OnlineOrder)
      (commits : action = .commit index environment clock)
      (flying : state.calls[index]? = some (.save document))
      (about : document.order._id = orderId)
      (outcome : document.save (state.database.orders.lookup orderId) = .ok (row, document'))
      (beside : (state.write (state.database.putOrder orderId row)).Beside orderId after)
      (calls : ∀ call ∈ after.calls, call ∈ state.calls)

section

variable {orderId : ObjectId} {state after : State}

variable {clock : Clock} {environment : Environment} {index : ℕ} {document : OrderDocument}

theorem stepCreate_cases {market : Market} {customer : User}
    {input : CreateOrderInput} {other : ObjectId}
    (stepped : stepCreate market clock customer input other state = some after) :
    Stepped orderId state (.create market clock customer input other)
      after := by
  rw [stepCreate] at stepped
  split at stepped
  · cases stepped
  · rename_i callback document drafted
    cases stepped
    refine .aside (.of_same (.refl _) rfl rfl) ?_
    intro call member about
    rcases State.mem_begin member with old | rfl
    · exact .inl old
    · have booked := createOrder_books _ drafted
      have same : other = orderId := booked.identified.symm.trans about
      subst same
      exact .inr (.booked market clock customer input callback document rfl drafted)

theorem State.Beside.of_claimExpired {other : ObjectId}
    {operation : Operation}
    (claimed : state.claimExpired other operation = some after) :
    state.Beside orderId after ∧
      after.database = state.database ∧ after.calls = state.calls ∧
      (operation = .abandonUnsettledOrder → other ∈ state.expired) := by
  rw [State.claimExpired] at claimed
  split at claimed
  · split at claimed
    · rename_i found
      cases claimed
      refine ⟨⟨.refl _, fun _ member => member, ?_⟩, rfl, rfl,
        fun _ => found⟩
      exact fun member => .inl (List.mem_of_mem_erase member)
    · cases claimed
  · rename_i different
    cases claimed
    exact ⟨.refl _, rfl, rfl, fun equal => (different equal).elim⟩

theorem State.vetted_vet {other : ObjectId} {operation : Operation} :
    (∀ passed ∈ state.vetted, passed ∈ (state.vet other operation).vetted) ∧
    ∀ staffUid, operation = .assignPickupStaff staffUid ∨
      operation = .assignReturnStaff staffUid →
        (other, staffUid) ∈ (state.vet other operation).vetted := by
  constructor
  · intro passed member
    unfold State.vet
    split
    · exact List.mem_append_left _ member
    · exact List.mem_append_left _ member
    · exact member
  · intro staffUid assigns
    rcases assigns with rfl | rfl <;> simp [State.vet]

theorem State.vet_database {other : ObjectId} {operation : Operation} :
    (state.vet other operation).database = state.database ∧
      (state.vet other operation).calls = state.calls ∧
      (state.vet other operation).expired = state.expired := by
  unfold State.vet
  split <;> exact ⟨rfl, rfl, rfl⟩

theorem stepRequest_cases (tidy : state.Tidy) {actor : User} {other : ObjectId}
    {operation : Operation}
    (stepped : stepRequest environment clock actor other operation state = some after) :
    Stepped orderId state (.request environment clock actor other operation) after := by
  rw [stepRequest] at stepped
  split at stepped
  · rename_i claimed row taken found
    rcases @State.Beside.of_claimExpired orderId _ _ _ _ taken with
      ⟨beside, database, calls, expired⟩
    rw [database] at stepped
    have drafts := @Operation.drafts environment clock actor state.database row operation
    have identified := tidy.keyed other row found
    split at stepped
    · cases stepped
    · cases stepped
      refine .aside beside ?_
      intro call member _
      rw [calls] at member
      exact .inl member
    · cases stepped
      refine .aside ⟨beside.same, beside.vetted, beside.expired⟩ ?_
      intro call member about
      rcases State.mem_begin member with old | rfl
      · rw [calls] at old
        exact .inl old
      · have same : other = orderId := identified.symm.trans about
        subst same
        refine .inr (.audited _ rfl nofun ?_)
        rw [found]
        exact Option.some_ne_none _
    · rename_i document prepared
      cases stepped
      refine .aside ⟨beside.same, beside.vetted, beside.expired⟩ ?_
      intro call member about
      rcases State.mem_begin member with old | rfl
      · rw [calls] at old
        exact .inl old
      · have amended : Amended row document := drafts _ prepared
        have same : other = orderId := (amended.identified.trans identified).symm.trans about
        subst same
        exact .inr (.amended environment clock actor operation row document rfl found prepared)
    · rename_i callback document prepared
      cases stepped
      rcases @State.vetted_vet claimed other operation with ⟨kept, vetted⟩
      rcases @State.vet_database claimed other operation with ⟨database', calls', expired'⟩
      have beside' : state.Beside orderId
          ((claimed.vet other operation).begin
            (.transaction (some operation) callback document document)) := by
        refine ⟨?_, fun passed member =>
          kept passed (beside.vetted passed member), ?_⟩
        · show state.database.SameFor orderId (claimed.vet other operation).database
          rw [database']
          exact beside.same
        · intro member
          have member' : orderId ∈ (claimed.vet other operation).expired := member
          rw [expired'] at member'
          exact beside.expired member'
      refine .aside beside' ?_
      intro call member about
      rcases State.mem_begin member with old | rfl
      · rw [calls', calls] at old
        exact .inl old
      · have drafted : Drafted actor row operation callback document := drafts _ prepared
        have same : other = orderId := (drafted.identified.trans identified).symm.trans about
        subst same
        exact .inr (.drafted environment clock actor operation row callback
          document rfl expired vetted found prepared)
  · cases stepped

theorem State.Beside.of_putPromotions (promotions : PromotionStore)
    (database : after.database = state.database.putPromotions promotions)
    (vetted : after.vetted = state.vetted)
    (expired : after.expired = state.expired) :
    state.Beside orderId after := by
  apply State.Beside.of_same _ vetted expired
  rw [database]
  exact .putPromotions _

theorem stepCommit_succeeded {index : ℕ} {clock : Clock}
    {operation : Option Operation} {callback : Callback}
    {document document' : OrderDocument} {database : Database}
    (outcome : (callback.program clock).commit state.database document =
      (.ok (), database, document')) :
    (state.write database).Beside orderId
        (stepCommit index clock operation callback document state) ∧
      ∀ call ∈ (stepCommit index clock operation callback document state).calls,
        call ∈ state.calls ∨ callback.followUp operation document' =
          some call := by
  simp only [stepCommit, outcome]
  rcases followed : callback.followUp operation document' with _ | call
  · refine ⟨.of_same (.refl _) rfl rfl, ?_⟩
    exact fun call member => .inl (State.mem_finish member)
  · refine ⟨.of_same (.refl _) rfl rfl, ?_⟩
    intro other member
    rcases State.mem_advance member with old | rfl
    · exact .inl old
    · exact .inr rfl

theorem stepCommit_cases {operation : Option Operation} {callback : Callback}
    {prepared : OrderDocument} (flying : state.calls[index]? =
      some (.transaction operation callback prepared document)) :
    Stepped orderId state (.commit index environment clock)
      (stepCommit index clock operation callback document state) := by
  rcases outcome : (callback.program clock).commit state.database document
    with ⟨failure | value, database, document'⟩
  · -- Nothing but promo slots outside the session may have been written.
    rcases Callback.failed outcome with ⟨promotions, rfl⟩
    rw [stepCommit, outcome]
    refine .aside (.of_putPromotions promotions rfl rfl rfl) ?_
    exact fun call member _ => .inl (State.mem_finish member)
  · cases value
    rcases Callback.succeeded outcome with ⟨identified, others, _⟩
    rcases @stepCommit_succeeded orderId state index clock operation _ _ _ _
      outcome with ⟨beside, calls⟩
    by_cases about : document.order._id = orderId
    · exact .committed index environment clock operation callback prepared
        document document' database rfl flying about outcome beside calls
    · have same := others orderId (Ne.symm about)
      refine .aside ⟨same.trans beside.same, beside.vetted, ?_⟩ ?_
      · intro listed
        rcases beside.expired listed with old | expirable
        · exact .inl old
        · right
          rwa [Database.Expirable, State.write, same.row] at expirable
      · intro other member about'
        rcases calls other member with old | followed
        · exact .inl old
        · rw [Callback.followUp_orderId followed, identified] at about'
          exact (about about').elim

theorem stepAbort_cases {budget : ℕ} {operation : Option Operation}
    {callback : Callback} {prepared : OrderDocument}
    (flying : state.calls[index]? = some (.transaction operation callback prepared document))
    (stepped : stepAbort index budget clock operation callback prepared
      document state = some after) :
    Stepped orderId state (.abort index budget clock) after := by
  have aborted : after =
      (state.write ((callback.program clock).runOnce (some budget)
        state.database document).2.durable).advance index
        (.transaction operation callback prepared
          ((callback.program clock).runOnce (some budget) state.database document).2.memory) := by
    rw [stepAbort] at stepped
    split at stepped
    · cases stepped
    · rename_i ran
      cases stepped
      rw [ran]
  subst aborted
  have confined := @Callback.confined clock callback state.database document (some budget)
  rcases confined.durable with ⟨promotions, durable⟩
  rw [durable]
  refine .aside (.of_putPromotions promotions rfl rfl rfl) ?_
  intro call member about
  rcases State.mem_advance member with old | rfl
  · exact .inl old
  · exact .inr (.aborted index budget clock operation callback prepared document rfl flying)

theorem stepSave_cases (flying : state.calls[index]? = some (.save document)) :
    Stepped orderId state (.commit index environment clock) (stepSave index document state) := by
  rw [stepSave]
  rcases outcome : document.save (state.database.orders.lookup document.order._id) with
    error | ⟨row, saved⟩
  · refine .aside (.of_same (.refl _) rfl rfl) ?_
    exact fun call member _ => .inl (State.mem_finish member)
  · by_cases about : document.order._id = orderId
    · have outcome' : document.save (state.database.orders.lookup orderId) = .ok (row, saved) := by
        rw [← about]
        exact outcome
      simp only [about]
      refine .saved index environment clock document saved row rfl
        flying about outcome' (.of_same (.refl _) rfl rfl) ?_
      exact fun call member => State.mem_finish member
    · refine .aside (.of_same (.putOrder (Ne.symm about) row) rfl rfl) ?_
      exact fun call member _ => .inl (State.mem_finish member)

theorem stepReserve_cases {claim : PromoClaim}
    (flying : state.calls[index]? = some (.reserve claim document)) :
    Stepped orderId state (.commit index environment clock)
      (stepReserve index environment clock claim document state) := by
  rw [stepReserve]
  split
  · refine .aside (.of_same (.refl _) rfl rfl) ?_
    exact fun call member _ => .inl (State.mem_finish member)
  · rename_i promoId promotions reserved
    refine .aside (.of_putPromotions promotions rfl rfl rfl) ?_
    intro call member about
    rcases State.mem_advance member with old | rfl
    · exact .inl old
    · exact .inr (.reserved index environment clock claim document promoId rfl flying)

theorem stepAudit_cases (tidy : state.Tidy) {event : OrderEvent}
    (flying : state.calls[index]? = some (.audit event)) :
    Stepped orderId state (.commit index environment clock) (stepAudit index event state) := by
  have audit := tidy.audits event (List.mem_of_getElem? flying)
  rw [stepAudit]
  split
  · refine .aside (.of_same (.refl _) rfl rfl) ?_
    exact fun call member _ => .inl (State.mem_finish member)
  · refine .aside (.of_same (.createEvent (.inr audit)) rfl rfl) ?_
    exact fun call member _ => .inl (State.mem_finish member)

theorem State.Beside.of_sweep (clock : Clock) : state.Beside orderId { state with
        expired := state.expired ++ expiredOrders clock state.database } := by
  refine ⟨.refl _, fun _ member => member, ?_⟩
  intro member
  rcases List.mem_append.mp member with old | new
  · exact .inl old
  · rcases List.mem_map.mp new with ⟨⟨key, row⟩, entry, rfl⟩
    rcases List.mem_filter.mp entry with ⟨stored, expired⟩
    have both := Bool.and_eq_true_iff.mp expired
    refine .inr ⟨row, AList.mem_lookup_iff.mpr stored, both.1, ?_⟩
    intro undated
    have deadline := both.2
    simp [undated] at deadline

variable {castToObjectId : String → Option ObjectId}

theorem stepWallet_cases {action : Wallets.Action}
    (stepped : stepWallet castToObjectId action state = some after) :
    Stepped orderId state (.wallet action) after := by
  rw [stepWallet] at stepped
  split at stepped
  · cases stepped
  · rename_i aside
    split at stepped
    · cases stepped
    · rename_i moved ran
      cases stepped
      rcases (Wallets.step_effect ran).store.ledger
        (Bool.eq_false_iff.mpr aside) with ⟨rows, appended, free⟩
      have foreign : ∀ row ∈ rows, row.orderId ≠ some orderId := by
        intro row member
        rw [free row member]
        exact (Option.some_ne_none orderId).symm
      refine .aside (.of_same (.putWallets appended foreign) rfl rfl) ?_
      exact fun call member _ => .inl member

theorem step_cases (tidy : state.Tidy) {action : Action}
    (stepped : step castToObjectId action state = some after) :
    Stepped orderId state action after := by
  cases action with
  | create => exact stepCreate_cases stepped
  | request => exact stepRequest_cases tidy stepped
  | commit index environment clock =>
    rcases Option.map_eq_some_iff.mp stepped with ⟨call, flying, rfl⟩
    cases call with
    | transaction => exact stepCommit_cases flying
    | save => exact stepSave_cases flying
    | audit => exact stepAudit_cases tidy flying
    | reserve => exact stepReserve_cases flying
  | abort index budget clock =>
    rw [step] at stepped
    split at stepped
    · rename_i flying
      exact stepAbort_cases flying stepped
    · cases stepped
  | crash index =>
    cases stepped
    refine .aside (.of_same (.refl _) rfl rfl) ?_
    exact fun call member _ => .inl (State.mem_finish member)
  | sweep clock =>
    cases stepped
    refine .aside (.of_sweep clock) ?_
    exact fun call member _ => .inl member
  | wallet => exact stepWallet_cases stepped
  | editPromos promos =>
    cases stepped
    refine .aside (.of_putPromotions _ rfl rfl rfl) ?_
    exact fun call member _ => .inl member

theorem State.Tidy.step (tidy : state.Tidy) {action : Action}
    (stepped : Orders.step castToObjectId action state = some after) :
    after.Tidy := by
  constructor
  · intro orderId row found
    have cases := @step_cases orderId _ _ _ tidy _ stepped
    cases cases with
    | aside beside _ =>
      rw [beside.same.row] at found
      exact tidy.keyed orderId row found
    | committed _ _ _ _ _ _ _ _ database _ _ _ outcome beside _ =>
      rw [beside.same.row] at found
      exact (Callback.succeeded outcome).2.2 tidy.keyed orderId row found
    | saved _ _ _ document _ written _ _ about outcome beside _ =>
      rw [beside.same.row] at found
      have keyed : (state.database.putOrder orderId written).Keyed := by
        apply tidy.keyed.putOrder
        rw [← about] at outcome ⊢
        exact OrderDocument.save_id (fun _ => tidy.keyed _ _) outcome
      exact keyed orderId row found
  · intro event member
    have cases := @step_cases event.orderId _ _ _ tidy _ stepped
    cases cases with
    | aside _ calls =>
      rcases calls _ member rfl with old | begun
      · exact tidy.audits event old
      · cases begun with
        | audited _ audit _ _ => exact audit
    | committed _ _ _ _ callback _ _ _ _ _ _ _ _ _ calls =>
      rcases calls _ member with old | followed
      · exact tidy.audits event old
      · unfold Callback.followUp at followed
        split at followed <;> cases followed
    | saved _ _ _ _ _ _ _ _ _ _ _ calls =>
      exact tidy.audits event (calls _ member)

theorem State.tidy_start : State.start.Tidy where
  keyed := by
    intro orderId row found
    simp [State.start] at found
  audits := by
    intro event member
    simp [State.start] at member

end

/-- An assertion about the state, and one about each call of the order. -/
structure Invariant (orderId : ObjectId) (Good : State → Prop)
    (Sound : State → Call → Prop) (state : State) : Prop where
  good : Good state
  sound : ∀ call ∈ state.calls, call.orderId = orderId → Sound state call

/-- After a write to an order: what holds of the state and of its calls. -/
structure Written (orderId : ObjectId) (Good : State → Prop)
    (Sound : State → Call → Prop) (state after : State) : Prop where
  good : Good after
  sound : ∀ call ∈ state.calls, call.orderId = orderId → Sound state call → Sound after call

/--
What is to be shown of an invariant of an order, when `Known` holds in every
state that is reached.
-/
structure Obligations (orderId : ObjectId)
    (admissible : State → Action → Prop) (Known Good : State → Prop)
    (Sound : State → Call → Prop) : Prop where
  beside : ∀ state after, state.Beside orderId after → Good state → Good after
  steady : ∀ state after call, state.Beside orderId after → Good state →
    Sound state call → Sound after call
  begun : ∀ state action after call, Known state →
    Invariant orderId Good Sound state → admissible state action →
    state.Beside orderId after → Begun orderId state action after call →
    call.orderId = orderId → Sound after call
  commit : ∀ state index environment clock operation callback prepared
      document database document', Known state →
    Invariant orderId Good Sound state →
    admissible state (.commit index environment clock) →
    state.calls[index]? = some (.transaction operation callback prepared document) →
    document.order._id = orderId →
    Sound state (.transaction operation callback prepared document) →
    (callback.program clock).commit state.database document = (.ok (), database, document') →
    Written orderId Good Sound state (state.write database) ∧
      ∀ call, callback.followUp operation document' = some call → Sound (state.write database) call
  save : ∀ state index environment clock document row saved, Known state →
    Invariant orderId Good Sound state →
    admissible state (.commit index environment clock) →
    state.calls[index]? = some (.save document) →
    document.order._id = orderId → Sound state (.save document) →
    document.save (state.database.orders.lookup orderId) = .ok (row, saved) →
    Written orderId Good Sound state (state.write (state.database.putOrder orderId row))

section

variable {orderId : ObjectId} {admissible : State → Action → Prop}
  {Known Good : State → Prop} {Sound : State → Call → Prop}
  {state after : State} {castToObjectId : String → Option ObjectId}

theorem Obligations.written {middle : State}
    (obligations : Obligations orderId admissible Known Good Sound)
    (invariant : Invariant orderId Good Sound state)
    (written : Written orderId Good Sound state middle)
    (beside : middle.Beside orderId after)
    (calls : ∀ call ∈ after.calls, call.orderId = orderId →
      call ∈ state.calls ∨ Sound middle call) :
    Invariant orderId Good Sound after where
  good := obligations.beside _ _ beside written.good
  sound := by
    intro call member about
    apply obligations.steady _ _ _ beside written.good
    rcases calls call member about with old | sound
    · exact written.sound call old about (invariant.sound call old about)
    · exact sound

theorem Obligations.step
    (obligations : Obligations orderId admissible Known Good Sound)
    (tidy : state.Tidy) (known : Known state)
    (invariant : Invariant orderId Good Sound state)
    {action : Action} (allowed : admissible state action)
    (stepped : (orderSystem castToObjectId).step action state = some after) :
    Invariant orderId Good Sound after := by
  have cases := @step_cases orderId _ _ _ tidy _ stepped
  cases cases with
  | aside beside calls =>
    constructor
    · exact obligations.beside _ _ beside invariant.good
    · intro call member about
      rcases calls call member about with old | begun
      · exact obligations.steady _ _ _ beside invariant.good (invariant.sound call old about)
      · exact obligations.begun _ _ _ _ known invariant allowed beside begun about
  | committed index environment clock operation callback prepared document
      document' database commits flying about outcome beside calls =>
    subst commits
    have member := List.mem_of_getElem? flying
    rcases obligations.commit state index environment clock operation
      callback prepared document database document' known invariant
      allowed flying about (invariant.sound _ member about) outcome with
      ⟨written, follows⟩
    apply obligations.written invariant written beside
    intro call member _
    exact (calls call member).imp_right (follows call)
  | saved index environment clock document document' row commits flying
      about outcome beside calls =>
    subst commits
    have member := List.mem_of_getElem? flying
    have written := obligations.save state index environment clock
      document row document' known invariant allowed flying about
      (invariant.sound _ member about) outcome
    apply obligations.written invariant written beside
    exact fun call member _ => .inl (calls call member)

theorem State.Tidy.of_reaches
    (reached : (orderSystem castToObjectId).Reaches admissible .start state) :
    state.Tidy := by
  apply reached.invariant State.Tidy State.tidy_start
  exact fun state action after tidy _ stepped => tidy.step stepped

theorem Obligations.reaches
    (obligations : Obligations orderId admissible Known Good Sound)
    (known : ∀ state, (orderSystem castToObjectId).Reaches admissible .start state → Known state)
    (good : Good .start)
    (reached : (orderSystem castToObjectId).Reaches admissible .start state) :
    Invariant orderId Good Sound state := by
  apply reached.layered (fun state => state.Tidy ∧ Known state)
  · exact fun state reached =>
      ⟨State.Tidy.of_reaches reached, known state reached⟩
  · refine ⟨good, ?_⟩
    intro call member
    simp [State.start] at member
  · rintro state action after ⟨tidy, known⟩ invariant allowed stepped
    exact obligations.step tidy known invariant allowed stepped

end

end Lalaba.Orders
