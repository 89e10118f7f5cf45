import Lalaba.Orders.Conservation

/-!
# Money before custody

Laundry is only handed over once it is paid for and its fee is debited.  An
account goes through four phases, and what is known of its money depends on the
phase; the phases change in five transitions, each made by one callback.
-/

namespace Lalaba.Orders

open Foundation
open Promotions
open Wallets

/-! ## Phases -/

/-- Who holds the laundry, and what has been weighed. -/
inductive Phase where
  | booked
  | weighed
  | custody
  | handedOver
deriving DecidableEq

/-- The phase a status belongs to. -/
def OrderStatus.phase : OrderStatus → Phase
  | .draft | .pricingValidated | .pendingProviderAcceptance
  | .providerChangeProposed | .acceptedByProvider | .rejectedByProvider
  | .cancelled | .awaitingPickupAssignment | .pickupAssigned
  | .pickupEnRoute | .pickupArrived | .pickupAttemptFailed
  | .awaitingPickupReschedule => .booked
  | .pickupWeighed => .weighed
  | .pickedUpFromCustomer | .receivedByProvider | .laundryInProgress
  | .laundryQualityHold | .laundryReady | .awaitingReturnSelection
  | .awaitingReturnAssignment | .returnAssigned | .returnEnRoute
  | .returnArrived | .deliveryAttempted | .returnedToProvider
  | .awaitingRedeliverySelection | .redeliveryScheduled
  | .awaitingCustomerPickup | .abandonedUnsettled => .custody
  | .deliveredToCustomer | .customerPickupVerified | .completed
  | .refunded | .disputed => .handedOver

def phaseEntries : List OrderStatus :=
  [.pickupWeighed, .pickedUpFromCustomer, .receivedByProvider,
    .deliveredToCustomer, .customerPickupVerified]

theorem OrderStatus.phase_of_transition {source target : OrderStatus}
    (allowed : target ∈ source.transitions)
    (inside : target ∉ phaseEntries) : target.phase = source.phase := by
  revert target
  cases source <;> decide

/-- What is known of the money of an account. -/
structure Account.Settled (account : Account) : Prop where
  received : account.received = account.collected
  booked : account.status.phase = .booked → account.collected = 0 ∧ account.consumed = 0
  weighed : account.status.phase = .weighed →
    account.collected = 0 ∧ 0 ≤ account.due ∧ account.consumed = account.owed
  custody : account.status.phase = .custody →
    account.collected ≤ account.due ∧
      (account.consumed = account.owed ∨ account.collected < account.due)
  handedOver : account.status.phase = .handedOver →
    account.collected = account.due ∧ account.consumed = account.owed

def Account.Lingers (account : Account) : Prop :=
  account.status.phase = .custody ∧ account.collected < account.due ∨
    account.status.phase = .handedOver

namespace Account

variable {account made : Account} {standing : Standing}

variable {source target : OrderStatus} {moves : List Move}

theorem makeAll_transition
    (moved : account.makeAll (moves ++ [.transition target]) = some made) :
    ∃ middle, account.makeAll moves = some middle ∧
      target ∈ middle.status.transitions ∧ made = middle.moveTo target := by
  rw [makeAll_append] at moved
  rcases Option.bind_eq_some_iff.mp moved with ⟨middle, first, last⟩
  rw [makeAll_cons] at last
  rcases Option.bind_eq_some_iff.mp last with ⟨after, step, done⟩
  rcases make_transition.mp step with ⟨allowed, rfl⟩
  cases done
  exact ⟨middle, first, allowed, rfl⟩

theorem makeAll_transitions {first second : OrderStatus}
    (moved : account.makeAll (moves ++ [.transition first, .transition second]) = some made) :
    ∃ middle, account.makeAll moves = some middle ∧
      first ∈ middle.status.transitions ∧
      second ∈ first.transitions ∧
      made = (middle.moveTo first).moveTo second := by
  have split : moves ++ [.transition first, .transition second] =
      (moves ++ [.transition first]) ++ [.transition second] := by
    simp
  rw [split] at moved
  rcases makeAll_transition moved with ⟨after, earlier, next, rfl⟩
  rcases makeAll_transition earlier with ⟨middle, begun, allowed, rfl⟩
  exact ⟨middle, begun, allowed, next, rfl⟩

theorem Settled.moveTo (settled : account.Settled)
    (allowed : target ∈ account.status.transitions)
    (inside : target ∉ phaseEntries) : (account.moveTo target).Settled := by
  have same : (account.moveTo target).status.phase =
      account.status.phase :=
    OrderStatus.phase_of_transition allowed inside
  constructor
  · exact settled.received
  · exact fun phase => settled.booked (same.symm.trans phase)
  · exact fun phase => settled.weighed (same.symm.trans phase)
  · exact fun phase => settled.custody (same.symm.trans phase)
  · exact fun phase => settled.handedOver (same.symm.trans phase)

theorem Settled.walk (settled : account.Settled)
    (inside : ∀ move ∈ moves, ∃ target, move = .transition target ∧
      target ∉ phaseEntries) (moved : account.makeAll moves = some made) : made.Settled := by
  apply makeAll_invariant Settled _ settled moved
  intro move member before after settled step
  rcases inside move member with ⟨target, rfl, within⟩
  rcases make_transition.mp step with ⟨allowed, rfl⟩
  exact settled.moveTo allowed within

theorem Settled.of_booked (received : account.received = account.collected)
    (phase : account.status.phase = .booked)
    (collected : account.collected = 0) (consumed : account.consumed = 0) :
    account.Settled where
  received := received
  booked := fun _ => ⟨collected, consumed⟩
  weighed := fun other => by rw [phase] at other; cases other
  custody := fun other => by rw [phase] at other; cases other
  handedOver := fun other => by rw [phase] at other; cases other

theorem Settled.of_weighed
    (received : account.received = account.collected)
    (phase : account.status.phase = .weighed)
    (collected : account.collected = 0) (priced : 0 ≤ account.due)
    (consumed : account.consumed = account.owed) : account.Settled where
  received := received
  booked := fun other => by rw [phase] at other; cases other
  weighed := fun _ => ⟨collected, priced, consumed⟩
  custody := fun other => by rw [phase] at other; cases other
  handedOver := fun other => by rw [phase] at other; cases other

theorem Settled.of_custody
    (received : account.received = account.collected)
    (phase : account.status.phase = .custody)
    (paid : account.collected ≤ account.due)
    (fee : account.consumed = account.owed ∨
      account.collected < account.due) : account.Settled where
  received := received
  booked := fun other => by rw [phase] at other; cases other
  weighed := fun other => by rw [phase] at other; cases other
  custody := fun _ => ⟨paid, fee⟩
  handedOver := fun other => by rw [phase] at other; cases other

theorem Settled.of_handedOver
    (received : account.received = account.collected)
    (phase : account.status.phase = .handedOver)
    (paid : account.collected = account.due)
    (consumed : account.consumed = account.owed) : account.Settled where
  received := received
  booked := fun other => by rw [phase] at other; cases other
  weighed := fun other => by rw [phase] at other; cases other
  custody := fun other => by rw [phase] at other; cases other
  handedOver := fun _ => ⟨paid, consumed⟩

/-! ### One callback at a time -/

theorem Settled.saveThenTransition (settled : account.Settled)
    (inside : target ∉ phaseEntries) (priced : standing = account.toStanding ∨
      target = .laundryInProgress ∧ account.due < standing.due)
    (moved : account.makeAll (quote standing ++ [.transition target]) =
      some made) : made.Settled := by
  rcases makeAll_transition moved with ⟨middle, quoted, allowed, rfl⟩
  cases quoted
  rcases priced with rfl | ⟨rfl, dearer⟩
  · exact settled.moveTo allowed inside
  · have custody : account.status.phase = .custody :=
      (OrderStatus.phase_of_transition allowed inside).symm
    rcases settled.custody custody with ⟨paid, _⟩
    have unpaid : account.collected < standing.due := lt_of_le_of_lt paid dearer
    exact .of_custody settled.received rfl unpaid.le (.inr unpaid)

theorem Settled.acceptance {pickupMode : FulfillmentPickupMode}
    {owed : ℤ} (settled : account.Settled)
    (moved : account.makeAll (Orders.acceptance pickupMode) =
      some made) : (made.reprice made.due owed).Settled := by
  have walked : made.Settled := by
    apply settled.walk _ moved
    intro move member
    cases pickupMode <;>
      simp only [Orders.acceptance, route, List.mem_cons, List.not_mem_nil, or_false] at member
    · rcases member with rfl | rfl <;> exact ⟨_, rfl, by decide⟩
    · rcases member with rfl
      exact ⟨_, rfl, by decide⟩
  have phase : made.status.phase = .booked := by
    rcases status_of_acceptance moved with same | same <;> rw [same] <;> rfl
  rcases walked.booked phase with ⟨collected, consumed⟩
  exact .of_booked walked.received phase collected consumed

theorem Settled.response {pickupMode : FulfillmentPickupMode}
    {approve : Bool} (settled : account.Settled)
    (moved : account.makeAll (Orders.response pickupMode approve) = some made) : made.Settled := by
  apply settled.walk _ moved
  intro move member
  cases approve <;> cases pickupMode <;>
    simp only [Orders.response, route, Bool.false_eq_true, if_false,
      if_true, List.mem_cons, List.not_mem_nil, or_false] at member
  · rcases member with rfl
    exact ⟨_, rfl, by decide⟩
  · rcases member with rfl
    exact ⟨_, rfl, by decide⟩
  · rcases member with rfl | rfl <;> exact ⟨_, rfl, by decide⟩
  · rcases member with rfl
    exact ⟨_, rfl, by decide⟩

theorem phase_of_weighed (allowed : .pickupWeighed ∈ source.transitions) :
    source.phase = .booked ∨ source.phase = .weighed := by
  revert allowed
  cases source <;> decide

theorem phase_of_pickedUp (allowed : .pickedUpFromCustomer ∈ source.transitions) :
    source.phase = .weighed := by
  revert allowed
  cases source <;> decide

theorem phase_of_received (allowed : .receivedByProvider ∈ source.transitions) :
    source.phase = .booked := by
  revert allowed
  cases source <;> decide

theorem phase_of_handedOver {handedOver : OrderStatus}
    (allowed : handedOver ∈ source.transitions)
    (next : .completed ∈ handedOver.transitions) :
    source.phase = .custody := by
  revert handedOver
  cases source <;> decide

theorem phase_of_abandoned (allowed : .abandonedUnsettled ∈ source.transitions) :
    source.phase = .custody := by
  revert allowed
  cases source <;> decide

theorem Settled.recordWeight (settled : account.Settled)
    (priced : 0 ≤ standing.due)
    (moved : account.makeAll
      (quote standing ++ [.settleFee, .transition .pickupWeighed]) = some made) : made.Settled := by
  have split : quote standing ++ [.settleFee, .transition .pickupWeighed] =
      (quote standing ++ [.settleFee]) ++ [.transition .pickupWeighed] := by
    simp
  rw [split] at moved
  rcases makeAll_transition moved with ⟨middle, settles, allowed, rfl⟩
  cases settles
  have unpaid : account.collected = 0 := by
    rcases phase_of_weighed allowed with phase | phase
    · exact (settled.booked phase).1
    · exact (settled.weighed phase).1
  exact .of_weighed settled.received rfl unpaid priced rfl

theorem makeAll_collection {collectNow : Bool}
    (unpaid : account.collected = 0) (priced : 0 ≤ account.due)
    (received : account.received = account.collected)
    (moved : account.makeAll (collection account.toStanding collectNow) = some made) :
    made.received = made.collected ∧ made.collected ≤ made.due ∧
      made.status = account.status ∧ made.due = account.due ∧
      made.owed = account.owed ∧ made.consumed = account.consumed := by
  cases collectNow with
  | false =>
    cases moved
    exact ⟨received, by rw [unpaid]; exact priced, rfl, rfl, rfl, rfl⟩
  | true =>
    cases moved
    refine ⟨?_, ?_, rfl, rfl, rfl, rfl⟩
    · show account.received + _ = account.collected + _
      rw [received]
    · show account.collected + max 0 (account.due - account.collected) ≤ account.due
      rw [unpaid, zero_add, sub_zero, max_eq_right priced]

theorem Settled.recordPayment {collectNow : Bool}
    (settled : account.Settled)
    (moved : account.makeAll ((quote account.toStanding ++
          collection account.toStanding collectNow) ++
        [.transition .pickedUpFromCustomer, .transition .laundryInProgress]) = some made) :
    made.Settled := by
  rcases makeAll_transitions moved with ⟨middle, pays, allowed, _, rfl⟩
  rw [makeAll_append] at pays
  rcases Option.bind_eq_some_iff.mp pays with ⟨quoted, quotes, collects⟩
  cases quotes
  have status : middle.status = account.status := by
    cases collectNow <;> cases collects <;> rfl
  rw [status] at allowed
  rcases settled.weighed (phase_of_pickedUp allowed) with ⟨unpaid, priced, consumed⟩
  rcases @makeAll_collection account middle collectNow unpaid priced
    settled.received collects with ⟨received, paid, _, _, owed, debited⟩
  have fee : middle.consumed = middle.owed := by
    rw [owed, debited]
    exact consumed
  exact .of_custody received rfl paid (.inl fee)

theorem Settled.receive {collectNow : Bool} (settled : account.Settled)
    (priced : 0 ≤ standing.due)
    (collected : standing.collected = account.collected)
    (moved : account.makeAll (((quote standing ++ collection standing collectNow) ++
          [.settleFee]) ++ [.transition .receivedByProvider,
          .transition .laundryInProgress]) = some made) :
    made.Settled := by
  rcases makeAll_transitions moved with ⟨middle, settles, allowed, _, rfl⟩
  rw [makeAll_append] at settles
  rcases Option.bind_eq_some_iff.mp settles with ⟨paid, pays, debits⟩
  cases debits
  rw [makeAll_append] at pays
  rcases Option.bind_eq_some_iff.mp pays with ⟨quoted, quotes, collects⟩
  cases quotes
  have status : paid.settleFee.status = account.status := by
    cases collectNow <;> cases collects <;> rfl
  rw [status] at allowed
  rcases settled.booked (phase_of_received allowed) with ⟨unpaid, _⟩
  have known : collection standing collectNow =
      collection (account.reprice standing.due standing.owed).toStanding
        collectNow := by
    rw [collection, collection, collected]
    rfl
  rw [known] at collects
  rcases makeAll_collection
      (show (account.reprice standing.due standing.owed).collected = 0
        from unpaid) priced settled.received collects with
    ⟨received, covered, _⟩
  exact .of_custody received rfl covered (.inl rfl)

theorem Settled.handOver {handedOver : OrderStatus}
    (settled : account.Settled)
    (moved : account.makeAll ((quote account.toStanding ++
          settlement (max 0 (account.due - account.collected))) ++
        [.transition handedOver, .transition .completed]) = some made) :
    made.Settled := by
  rcases makeAll_transitions moved with ⟨middle, settles, allowed, next, rfl⟩
  rw [makeAll_append] at settles
  rcases Option.bind_eq_some_iff.mp settles with ⟨quoted, quotes, pays⟩
  cases quotes
  rw [settlement] at pays
  split at pays
  · -- The rest is collected, and the fee on it.
    rename_i outstanding
    cases pays
    have rest : max 0 (account.due - account.collected) = account.due - account.collected := by
      apply max_eq_right
      rcases lt_max_iff.mp outstanding with impossible | positive
      · exact (lt_irrefl 0 impossible).elim
      · exact positive.le
    refine .of_handedOver ?_ rfl ?_ rfl
    · show account.received + _ = account.collected + _
      rw [settled.received]
    · show account.collected + max 0 (account.due - account.collected) = account.due
      rw [rest]
      ring
  · rename_i covered
    cases pays
    rcases settled.custody (phase_of_handedOver allowed next) with ⟨paid, fee⟩
    have enough : account.due ≤ account.collected := by
      by_contra short
      apply covered
      exact lt_max_of_lt_right (by linarith)
    refine .of_handedOver settled.received rfl (paid.antisymm enough) ?_
    rcases fee with debited | unpaid
    · exact debited
    · exact (not_lt_of_ge enough unpaid).elim

theorem makeAll_reversal {reversible : ℤ}
    (moved : account.makeAll (reversal reversible) = some made) :
    made.status = account.status ∧ made.due = account.due ∧
      made.collected = account.collected ∧
      made.received = account.received := by
  rw [reversal] at moved
  split at moved <;> cases moved <;> exact ⟨rfl, rfl, rfl, rfl⟩

theorem Settled.abandon {reversible : ℤ} (settled : account.Settled)
    (lingers : account.Lingers)
    (moved : account.makeAll
      (reversal reversible ++ [.transition .abandonedUnsettled]) = some made) :
    made.Settled := by
  rcases makeAll_transition moved with ⟨middle, reverses, allowed, rfl⟩
  rcases makeAll_reversal reverses with ⟨status, due, collected, received⟩
  rw [status] at allowed
  have custody := phase_of_abandoned allowed
  rcases lingers with ⟨_, unpaid⟩ | returned
  · have still : middle.collected < middle.due := by
      rw [due, collected]
      exact unpaid
    refine .of_custody ?_ rfl still.le (.inr still)
    show middle.received = middle.collected
    rw [received, collected]
    exact settled.received
  · rw [custody] at returned
    cases returned

end Account

def Operation.forces : Operation → Bool
  | .overrideStatus _ _ => true
  | _ => false

theorem Origin.inside {operation : Option Operation}
    {prepared : OrderDocument} {target : OrderStatus} {actorUid : Uid}
    {actorRole : String} {note : Option String} {next : Option OrderStatus}
    (origin : Origin operation (.saveThenTransition target actorUid actorRole note next) prepared)
    (free : ∀ method, operation = some method → method.forces = false) :
    target ∉ phaseEntries := by
  cases origin with
  | drafted actor row method of drafted =>
    have saves := drafted.saves trivial
    have aims := drafted.aims
    have unforced := free method of
    cases method with
    | overrideStatus => cases unforced
    | chooseReturnOption returnMode =>
      cases aims
      cases returnMode <;> decide
    | reinstateAbandonedOrder note =>
      simp only [Operation.aim, Callback.aim, Option.some.injEq] at aims
      rw [← aims]
      split <;> decide
    | updateCourierLocation => cases aims
    | acceptOrder | respondToProviderChange | recordPickupWeight
    | recordPickupPayment | receiveAtCounter | recordDelivery
    | verifySelfPickup | abandonUnsettledOrder => cases saves
    | _ =>
      cases aims
      decide
  | following target' actorUid' actorRole' of after =>
    cases of
    intro member
    simp only [followUps, List.mem_cons, Prod.mk.injEq, List.not_mem_nil, or_false] at after
    rcases after with ⟨_, rfl⟩ | ⟨_, rfl⟩ | ⟨_, rfl⟩ | ⟨_, rfl⟩ <;> exact absurd member (by decide)

def Callback.givesUp : Callback → Bool
  | .abandon _ _ _ _ => true
  | _ => false

section

variable {operation : Option Operation} {callback : Callback}
  {document : OrderDocument} {account made : Account} {owed : ℤ}

/-- What is known of the money, every callback keeps. -/
theorem Account.Settled.moves
    (settled : account.Settled) (origin : Origin operation callback document)
    (free : ∀ method, operation = some method → method.forces = false)
    (fits : callback.Fits document account.toStanding)
    (lingers : callback.givesUp → account.Lingers)
    (moved : account.makeAll (callback.moves document.order.standing) = some made)
    (exact' : callback.keepsDocument → owed = made.owed) :
    (made.reprice made.due owed).Settled := by
  have same : callback.keepsDocument → made.reprice made.due owed = made := by
    intro keeps
    rw [exact' keeps]
    rfl
  cases callback with
  | create => exact fits.elim
  | saveThenTransition =>
    rw [same trivial]
    exact settled.saveThenTransition (origin.inside free) fits.2.2 moved
  | accept => exact settled.acceptance moved
  | respond =>
    rw [same trivial]
    exact settled.response moved
  | recordWeight =>
    rw [same trivial]
    exact settled.recordWeight fits.2.2 moved
  | recordPayment =>
    rw [same trivial]
    have standing : document.order.standing = account.toStanding := fits
    simp only [Callback.moves, standing] at moved
    exact settled.recordPayment moved
  | receive =>
    rw [same trivial]
    exact settled.receive fits.2.2 fits.1.collected moved
  | handOver =>
    rw [same trivial]
    rcases fits with ⟨standing, rfl⟩
    simp only [Callback.moves, standing] at moved
    exact settled.handOver moved
  | abandon =>
    rw [same trivial]
    exact settled.abandon (lingers rfl) moved

theorem Account.Lingers.not_booked (lingers : account.Lingers) :
    account.status.phase ≠ .booked ∧ account.status.phase ≠ .weighed := by
  rcases lingers with ⟨phase, _⟩ | phase <;> rw [phase] <;> decide

theorem Account.Lingers.moveTo {target : OrderStatus}
    (lingers : account.Lingers)
    (allowed : target ∈ account.status.transitions)
    (inside : target ∉ phaseEntries) :
    (account.moveTo target).Lingers := by
  have same := OrderStatus.phase_of_transition allowed inside
  rcases lingers with ⟨phase, unpaid⟩ | phase
  · exact .inl ⟨same.trans phase, unpaid⟩
  · exact .inr (same.trans phase)

/-- No callback takes payment of such an order without handing it over. -/
theorem Account.Lingers.moves (lingers : account.Lingers)
    (origin : Origin operation callback document)
    (free : ∀ method, operation = some method → method.forces = false)
    (fits : callback.Fits document account.toStanding)
    (moved : account.makeAll (callback.moves document.order.standing) =
      some made) : (made.reprice made.due owed).Lingers := by
  rcases lingers.not_booked with ⟨booked, weighed⟩
  have accepts : ∀ middle : Account, middle.status = account.status →
      .acceptedByProvider ∉ middle.status.transitions := by
    intro middle status allowed
    rw [status] at allowed
    exact booked (OrderStatus.phase_of_transition allowed (by decide)).symm
  cases callback with
  | create => exact fits.elim
  | saveThenTransition target =>
    rcases Account.makeAll_transition moved with ⟨middle, quoted, allowed, rfl⟩
    cases quoted
    rcases fits with ⟨_, _, same | ⟨_, dearer⟩⟩
    · rw [same]
      exact lingers.moveTo allowed (origin.inside free)
    · have same := OrderStatus.phase_of_transition allowed (origin.inside free)
      rcases lingers with ⟨phase, unpaid⟩ | phase
      · exact .inl ⟨same.trans phase, unpaid.trans dearer⟩
      · exact .inr (same.trans phase)
  | accept =>
    have moved : account.makeAll (.transition .acceptedByProvider ::
      route document.order.standing.pickupMode) = some made := moved
    rw [Account.makeAll_cons] at moved
    rcases Option.bind_eq_some_iff.mp moved with ⟨_, first, _⟩
    exact (accepts account rfl (Account.make_transition.mp first).1).elim
  | respond customerUid approve =>
    cases approve with
    | true =>
      have moved : account.makeAll (.transition .acceptedByProvider ::
        route document.order.standing.pickupMode) = some made := moved
      rw [Account.makeAll_cons] at moved
      rcases Option.bind_eq_some_iff.mp moved with ⟨_, first, _⟩
      exact (accepts account rfl (Account.make_transition.mp first).1).elim
    | false =>
      have moved : account.makeAll ([] ++ [.transition .cancelled]) =
        some made := moved
      rcases Account.makeAll_transition moved with ⟨middle, same, allowed, rfl⟩
      cases same
      exact (booked (OrderStatus.phase_of_transition allowed (by decide)).symm).elim
  | recordWeight =>
    have moved : account.makeAll ((quote document.order.standing ++
      [.settleFee]) ++ [.transition .pickupWeighed]) = some made := moved
    rcases Account.makeAll_transition moved with ⟨middle, settles, allowed, rfl⟩
    cases settles
    rcases Account.phase_of_weighed allowed with phase | phase
    · exact (booked phase).elim
    · exact (weighed phase).elim
  | recordPayment courier input collectNow =>
    rcases Account.makeAll_transitions moved with ⟨middle, pays, allowed, _, rfl⟩
    have status : middle.status = account.status := by
      cases collectNow <;> cases pays <;> rfl
    rw [status] at allowed
    exact (weighed (Account.phase_of_pickedUp allowed)).elim
  | receive actor input collectNow =>
    rcases Account.makeAll_transitions moved with ⟨middle, pays, allowed, _, rfl⟩
    have status : middle.status = account.status := by
      cases collectNow <;> cases pays <;> rfl
    rw [status] at allowed
    exact (booked (Account.phase_of_received allowed)).elim
  | handOver =>
    rcases Account.makeAll_transitions moved with ⟨middle, pays, allowed, _, rfl⟩
    exact .inr rfl
  | abandon =>
    rcases Account.makeAll_transition moved with ⟨middle, reverses, allowed, rfl⟩
    rcases Account.makeAll_reversal reverses with ⟨status, due, collected, _⟩
    rw [status] at allowed
    have custody := Account.phase_of_abandoned allowed
    rcases lingers with ⟨_, unpaid⟩ | returned
    · refine .inl ⟨rfl, ?_⟩
      show middle.collected < middle.due
      rw [due, collected]
      exact unpaid
    · rw [custody] at returned
      cases returned

end

/-! ## Runs without support -/

def unforced (orderId : ObjectId) : Action → Bool
  | .request _ _ _ other operation =>
    decide (other ≠ orderId) || !operation.forces
  | _ => true

/-- What a run without overrides knows of the order's money. -/
structure Solvent (orderId : ObjectId) (state : State) : Prop where
  dated : state.database.Dated orderId
  settled : ∀ account, state.database.account orderId = some account → account.Settled
  expired : orderId ∈ state.expired →
    ∃ account, state.database.account orderId = some account ∧ account.Lingers

def Unforced (orderId : ObjectId) (state : State) : Call → Prop
  | .transaction operation callback prepared _ =>
    (∀ method, operation = some method → method.forces = false) ∧
      (callback.givesUp → ∀ account, state.database.account orderId = some account →
          account.version = callback.startVersion prepared → account.Lingers)
  | _ => True

variable {orderId : ObjectId} {state : State}

theorem Solvent.of_expirable (solvent : Solvent orderId state)
    (expirable : state.database.Expirable orderId) :
    ∃ account, state.database.account orderId = some account ∧
      account.Lingers := by
  rcases expirable with ⟨row, found, waiting, deadline⟩
  refine ⟨_, Database.account_eq_some.mpr ⟨row, found, rfl⟩, .inl ?_⟩
  refine ⟨?_, solvent.dated row found waiting deadline⟩
  show row.status.phase = .custody
  revert waiting
  cases row.status <;> decide

theorem Solvent.beside {after : State} (solvent : Solvent orderId state)
    (beside : state.Beside orderId after) : Solvent orderId after where
  dated := by
    intro row found
    rw [beside.same.row] at found
    exact solvent.dated row found
  settled := by
    intro account stored
    rw [beside.same.account] at stored
    exact solvent.settled account stored
  expired := by
    intro member
    rw [beside.same.account]
    rcases beside.expired member with old | expirable
    · exact solvent.expired old
    · exact solvent.of_expirable expirable

theorem Unforced.written {after : State} {call : Call}
    (unforced : Unforced orderId state call) (knows : Knows orderId state call)
    (later : ∀ account made, state.database.account orderId = some account →
      after.database.account orderId = some made →
        made = account ∨ account.version < made.version) :
    Unforced orderId after call := by
  cases call with
  | transaction operation callback prepared document =>
    refine ⟨unforced.1, ?_⟩
    intro givesUp made stored version
    rcases knows with ⟨_, _, _, rfl, _⟩ | ⟨reading, _, _⟩
    · cases givesUp
    · rcases reading.row with ⟨row, found, earlier, _⟩
      have before := Database.account_eq_some.mpr ⟨row, found, rfl⟩
      rcases later _ made before stored with rfl | newer
      · exact unforced.2 givesUp _ before version
      · rw [version] at newer
        exact (newer.not_ge earlier).elim
  | _ => trivial

theorem unforced_obligations (orderId : ObjectId) :
    Obligations orderId
      (fun state action => Current orderId state action ∧ unforced orderId action = true)
      (InTouch orderId) (Solvent orderId) (Unforced orderId) where
  beside := fun _ _ beside solvent => solvent.beside beside
  steady := by
    intro state after call beside _ known
    cases call with
    | transaction =>
      refine ⟨known.1, ?_⟩
      rw [beside.same.account]
      exact known.2
    | _ => trivial
  begun := by
    intro state action after call inTouch invariant allowed beside begun about
    cases begun with
    | booked _ _ _ _ _ _ _ ordered =>
      have booked := createOrder_books _ ordered
      rcases booked.creates with ⟨_, _, _, rfl⟩
      constructor
      · intro method absent
        cases absent
      · intro givesUp
        cases givesUp
    | drafted environment clock actor method row callback document requested
        expired _ found prepared =>
      subst requested
      have free : method.forces = false := by
        simpa [unforced] using allowed.2
      have drafted : Drafted actor row method callback document := method.drafts _ prepared
      refine ⟨by rintro _ ⟨⟩; exact free, ?_⟩
      intro givesUp account stored _
      have sweeps : method = .abandonUnsettledOrder := by
        have aims := drafted.aims
        cases callback with
        | abandon =>
          cases method with
          | abandonUnsettledOrder => rfl
          | overrideStatus => cases free
          | chooseReturnOption returnMode
          | respondToProviderChange returnMode =>
            cases returnMode <;> cases aims
          | reinstateAbandonedOrder =>
            simp only [Operation.aim, Callback.aim, Option.some.injEq] at aims
            split at aims <;> cases aims
          | _ => cases aims
        | _ => cases givesUp
      rw [beside.same.account] at stored
      rcases invariant.good.expired (expired sweeps) with ⟨_, stored', lingers⟩
      rw [stored] at stored'
      cases stored'
      exact lingers
    | amended | audited | reserved => trivial
    | aborted index budget clock operation callback prepared document _ flying =>
      have confined := @Callback.confined clock callback state.database document (some budget)
      have known := invariant.sound _ (List.mem_of_getElem? flying)
        (confined.identified.symm.trans about)
      refine ⟨known.1, ?_⟩
      rw [beside.same.account]
      exact known.2
  commit := by
    intro state index environment clock operation callback prepared document
      database document' inTouch invariant allowed flying about known
      outcome
    have member := List.mem_of_getElem? flying
    have knows := inTouch.sound _ member about
    rcases knows.commits inTouch.good allowed.1 flying about outcome with
      ⟨effect, grounded, follows⟩
    have solvent := invariant.good
    refine ⟨⟨?_, ?_⟩, ?_⟩
    · cases effect with
      | opened account booked absent made stored =>
        rcases booked.unpaid with ⟨consumed, collected, _, status, _⟩
        have opening : (Account.opening prepared.order.standing).Settled := by
          apply Account.Settled.of_booked
          · exact collected.symm
          · show prepared.order.standing.status.phase = .booked
            rw [status]
            rfl
          · exact collected
          · exact consumed
        refine ⟨grounded.dated, ?_, ?_⟩
        · intro other stored'
          have stored' : database.account orderId = some other := stored'
          rw [stored] at stored'
          cases stored'
          apply opening.walk _ made
          intro move member
          simp only [creation, List.mem_cons, List.not_mem_nil, or_false] at member
          rcases member with rfl | rfl <;> exact ⟨_, rfl, by decide⟩
        · intro expired
          rcases solvent.expired expired with ⟨_, stored', _⟩
          rcases Database.account_eq_some.mp stored' with ⟨_, found, _⟩
          rw [absent] at found
          cases found
      | moved account made owed stored fits moves exact' stored' =>
        have origin := knows.origin fits
        refine ⟨grounded.dated, ?_, ?_⟩
        · intro other found
          have found : database.account orderId = some other := found
          rw [stored'] at found
          cases found
          apply (solvent.settled account stored).moves origin known.1 fits _ moves exact'
          exact fun givesUp => known.2 givesUp account stored fits.startVersion.symm
        · intro expired
          rcases solvent.expired expired with ⟨_, found, lingers⟩
          rw [stored] at found
          cases found
          exact ⟨_, stored', lingers.moves origin known.1 fits moves⟩
    · intro call member' about' other
      apply other.written (inTouch.sound call member' about')
      exact fun account made before after =>
        .inr (effect.grows before after)
    · intro call followed
      unfold Callback.followUp at followed
      split at followed
      · cases followed
        exact ⟨known.1, by rintro ⟨⟩⟩
      · cases followed
        trivial
      · cases followed
  save := by
    intro state index environment clock document row saved inTouch invariant
      allowed flying about known outcome
    have member := List.mem_of_getElem? flying
    have knows := inTouch.sound _ member about
    rcases knows.saves inTouch.good allowed.1 flying about outcome with ⟨same, grounded, _⟩
    have solvent := invariant.good
    refine ⟨⟨grounded.dated, ?_, ?_⟩, ?_⟩
    · intro account stored
      exact solvent.settled account (same.symm.trans stored)
    · intro expired
      rcases solvent.expired expired with ⟨account, stored, lingers⟩
      exact ⟨account, same.trans stored, lingers⟩
    · intro call member' about' other
      apply other.written (inTouch.sound call member' about')
      intro account made before after
      have after : (state.database.putOrder orderId row).account orderId =
        some made := after
      rw [same, before] at after
      cases after
      exact .inl rfl

theorem settled_of_reaches {castToObjectId : String → Option ObjectId}
    {account : Account} (reached : (orderSystem castToObjectId).Reaches
      (fun state action => Current orderId state action ∧
        unforced orderId action = true) .start state)
    (stored : state.database.account orderId = some account) :
    account.Settled := by
  have invariant := (unforced_obligations orderId).reaches
    (fun _ reached => inTouch_of_reaches (fun _ _ both => both.1) reached)
    (by
      refine ⟨?_, ?_, ?_⟩
      · intro row found
        simp [State.start] at found
      · intro account stored
        simp [State.start, Database.account] at stored
      · intro member
        simp [State.start] at member)
    reached
  exact invariant.good.settled account stored

/--
In a current run without an override, an order that has been handed over is paid
for in full, by collections that are all recorded, and its fee is debited.
-/
theorem handedOverOrdersAreSettled
    {castToObjectId : String → Option ObjectId} {orderId : ObjectId}
    {state : State} {row : OnlineOrder}
    (reached : (orderSystem castToObjectId).Reaches
      (fun state action => Current orderId state action ∧
        unforced orderId action = true) .start state)
    (found : state.database.orders.lookup orderId = some row)
    (handedOver : row.status = .deliveredToCustomer ∨
      row.status = .customerPickupVerified ∨ row.status = .completed) :
    row.paymentSummary.collectedCentavos = row.pricing.dueCentavos ∧
      row.paymentSummary.collectedCentavos = orderReceipts orderId state.database ∧
      row.pricing.consumedCentavos =
        row.pricing.chargeablePlatformFeeCentavos := by
  have settled := settled_of_reaches reached (Database.account_eq_some.mpr ⟨row, found, rfl⟩)
  have phase : row.status.phase = .handedOver := by
    rcases handedOver with status | status | status <;> rw [status] <;> rfl
  rcases settled.handedOver phase with ⟨paid, consumed⟩
  exact ⟨paid, settled.received.symm, consumed⟩

def Shop.washed : List Action :=
  Shop.accepted ++ Shop.calls Shop.owner (.receiveAtCounter Shop.deferred) ++
    [Shop.requests Shop.owner .markLaundryReady, Shop.proceeds, Shop.proceeds]

def Shop.cash : RecordCollectionInput :=
  { paymentMethod := some .cash, tenderedCentavos := some 50000 }

/-- The order of the shop is paid for at the counter and handed over. -/
theorem handedOverOrdersAreSettled_counter :
    ∃ state row,
      (orderSystem some).Reaches
          (fun state action => Current "order" state action ∧
            unforced "order" action = true) .start state ∧
        state.database.orders.lookup "order" = some row ∧
        row.status = .completed ∧
        (row.paymentSummary.collectedCentavos = row.pricing.dueCentavos ∧
          row.paymentSummary.collectedCentavos = orderReceipts "order" state.database ∧
          row.pricing.consumedCentavos = row.pricing.chargeablePlatformFeeCentavos) := by
  have performed : (((orderSystem some).restrict fun state action =>
          Current "order" state action ∧ unforced "order" action = true).perform
        (Shop.washed ++ Shop.calls Shop.owner (.verifySelfPickup Shop.cash))
        .start).bind (fun state =>
          (state.database.orders.lookup "order").map OnlineOrder.status) = some .completed := by
    decide +kernel
  rcases System.reaches_of_bind_restrict performed with ⟨state, reached, seen⟩
  rcases Option.map_eq_some_iff.mp seen with ⟨row, found, status⟩
  exact ⟨state, row, reached, found, status,
    handedOverOrdersAreSettled reached found (.inr (.inr status))⟩

/--
A handover whose first run is aborted once the payment is noted: the second run
notes it again.
-/
def paymentCollectedAgain : List Action :=
  Shop.washed ++
    [ Shop.requests Shop.owner (.verifySelfPickup Shop.cash), Shop.aborts 2, Shop.proceeds ]

/-- The completed order says that twice its total was collected. -/
theorem handedOverOrderNotSettled :
    ¬ ∀ (orderId : ObjectId) (state : State) (row : OnlineOrder),
      (orderSystem some).Reaches (fun _ action => unforced orderId action)
          .start state →
        state.database.orders.lookup orderId = some row →
        row.status = .deliveredToCustomer ∨
          row.status = .customerPickupVerified ∨ row.status = .completed →
        row.paymentSummary.collectedCentavos = row.pricing.dueCentavos ∧
          row.paymentSummary.collectedCentavos = orderReceipts orderId state.database ∧
          row.pricing.consumedCentavos =
            row.pricing.chargeablePlatformFeeCentavos := by
  intro claimed
  have performed :
      (((orderSystem some).restrict
          (fun _ action => unforced "order" action = true)).perform
        paymentCollectedAgain .start).bind (fun state =>
          (state.database.orders.lookup "order").map fun row =>
            (row.status, row.paymentSummary.collectedCentavos, row.pricing.dueCentavos)) =
        some (.completed, 44000, 22000) := by
    decide +kernel
  rcases System.reaches_of_bind_restrict performed with ⟨state, ran, seen⟩
  rcases Option.map_eq_some_iff.mp seen with ⟨row, found, amounts⟩
  simp only [Prod.mk.injEq] at amounts
  rcases amounts with ⟨status, collected, due⟩
  have settled := claimed "order" state row ran found (.inr (.inr status))
  rw [collected, due] at settled
  exact absurd settled.1 (by norm_num)

end Lalaba.Orders
