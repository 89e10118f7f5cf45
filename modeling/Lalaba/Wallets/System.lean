import Lalaba.Foundation.Run
import Lalaba.Wallets.Store

/-!
# Concurrent calls of the wallet service

Every `await` of the service is a point where other calls run.  A call in flight
is the point it has reached with the values it has read so far; an action takes
one call to its next point, starts a new call, or performs an operation that is
one transaction.  Transactions commit or abort as a whole and conflicting ones
are serialized, so a committed transaction is one step; `abortCredit` is a run
of the credit callback that the database aborted.
-/

namespace Lalaba.Wallets

open Foundation
open Foundation.Program

/-- A payment event the gateway has vouched for. -/
structure VerifiedTopUpEvent where
  reference : String
  amountCentavos : Int
  currency : String
  gatewayInvoiceId : Option String
deriving DecidableEq

/-- What the payment gateway answers to `createInvoice`. -/
structure GatewayInvoice where
  gatewayInvoiceId : String
  invoiceUrl : String
  autoSucceeds : Bool
deriving DecidableEq

/-- The guards of `initializeTopUp` before its first write. -/
def assertFundable (branch : Option Branch) (actorUid : Uid)
    (amountCentavos : Int) : Except ServiceError Unit :=
  match branch with
  | none => .error (.forbidden "You do not manage this branch")
  | some branch =>
    if branch.uid ≠ actorUid then
      .error (.forbidden "You do not manage this branch")
    else if branch.isActive = false then
      .error (.forbidden "This branch is deactivated and cannot be funded")
    else if amountCentavos ≤ 0 ∨ MAX_TOPUP_CENTAVOS < amountCentavos then
      .error (.badRequest "Top-up amount must be a positive integer amount of centavos")
    else
      .ok ()

/--
The checks of `postVerifiedTopUp` on the intent it has read.  The value says
whether the intent has succeeded already, so that nothing is left to do.
-/
def verifyTopUpEvent (intent : TopUpIntent) (event : VerifiedTopUpEvent) :
    Except ServiceError Bool :=
  if event.reference ≠ intent._id then
    .error (.badRequest "Payment reference does not match this top-up intent")
  else if event.currency ≠ "PHP" then
    .error (.badRequest ("Unsupported top-up currency: " ++ event.currency))
  else if event.amountCentavos ≠ intent.amountCentavos then
    .error (.badRequest "Paid amount does not match the top-up intent amount")
  else
    match intent.status with
    | .succeeded => .ok true
    | .failed => .error (.badRequest
        "Top-up intent is FAILED and can no longer be credited")
    | .expired => .error (.badRequest
        "Top-up intent is EXPIRED and can no longer be credited")
    | .pending => .ok false

def claimIntent (now : Instant) (event : VerifiedTopUpEvent)
    (intent : TopUpIntent) : TopUpIntent :=
  { intent with
    status := .succeeded
    resolvedAt := some now
    xenditInvoiceId :=
      match event.gatewayInvoiceId with
      | none => intent.xenditInvoiceId
      | some invoice =>
        if invoice = "" then intent.xenditInvoiceId else some invoice }

def activateIfDue (now : Instant) (branchId : ObjectId)
    (wallet : Wallet) :
    Program WalletStore Bool ServiceError Wallet :=
  if wallet.activatedAt.isNone ∧
      ACTIVATION_MIN_CENTAVOS ≤ wallet.balanceCentavos then
    query fun store =>
      match store.activate now branchId with
      | (none, _) => .error .nullAccess
      | (some activated, after) => .ok (activated, after)
  else
    pure wallet

/--
The transaction callback of `postVerifiedTopUp`.  Memory is its `alreadyPosted`
variable, and `intent` the document read before the transaction.
-/
def creditTopUp (now : Instant) (intent : TopUpIntent)
    (event : VerifiedTopUpEvent) :
    Program WalletStore Bool ServiceError Unit := do
  let claimed ← query fun store =>
    .ok (store.resolvePending intent._id (claimIntent now event))
  if claimed then
    let wallet ← query fun store =>
      match store.incrementBalance intent.branchId intent.amountCentavos with
      | (none, _) => .error walletNotFound
      | (some wallet, after) => .ok (wallet, after)
    let wallet ← activateIfDue now intent.branchId wallet
    query fun store =>
      (store.createLedgerEntry
        { branchId := intent.branchId
          type := .topUp
          amountCentavos := intent.amountCentavos
          balanceAfterCentavos := wallet.balanceCentavos
          xenditReference := some intent._id }).map fun after => ((), after)
  else
    -- Taken for a concurrent delivery of the same payment.
    edit fun _ => true

/-! ## Calls in flight -/

/-- A call of the service, at the point where it waits. -/
inductive Call where
  /-- `initializeTopUp`, about to insert the intent. -/
  | intentCreation (branchId : ObjectId) (amountCentavos : Int)
  /-- `initializeTopUp`, waiting for the gateway. -/
  | invoiceCreation (intentId : ObjectId) (amountCentavos : Int)
  /-- `initializeTopUp`, about to fail the intent after the gateway threw. -/
  | intentFailure (intentId : ObjectId)
  /-- `initializeTopUp`, about to store the invoice. -/
  | invoiceRecording (intentId : ObjectId) (amountCentavos : Int) (invoice : GatewayInvoice)
  /-- `postVerifiedTopUp`, about to read the intent. -/
  | posting (intentId : String) (event : VerifiedTopUpEvent)
  /-- `postVerifiedTopUp`, in its transaction. -/
  | credit (intent : TopUpIntent) (event : VerifiedTopUpEvent) (alreadyPosted : Bool)
  /-- `postVerifiedTopUp`, about to read the intent it reports. -/
  | report (intentId : ObjectId) (alreadyPosted : Bool)
deriving DecidableEq

/--
The collections, the calls in flight, and the intents for which a
`postVerifiedTopUp` call has returned normally.
-/
structure State where
  store : WalletStore
  calls : List Call
  acknowledged : List ObjectId

namespace State

def start : State := { store := .empty, calls := [], acknowledged := [] }

def begin (call : Call) (state : State) : State := { state with calls := state.calls ++ [call] }

def advance (index : Nat) (call : Call) (state : State) : State :=
  { state with calls := state.calls.set index call }

def finish (index : Nat) (state : State) : State :=
  { state with calls := state.calls.eraseIdx index }

def write (store : WalletStore) (state : State) : State := { state with store }

/-- Return normally from `postVerifiedTopUp`. -/
def acknowledge (intentId : ObjectId) (state : State) : State :=
  { state with acknowledged := state.acknowledged ++ [intentId] }

variable {state : State} {call other : Call} {index : Nat}

theorem mem_begin (member : call ∈ (state.begin other).calls) :
    call ∈ state.calls ∨ call = other := by
  simpa [begin] using member

theorem mem_advance (member : call ∈ (state.advance index other).calls) :
    call ∈ state.calls ∨ call = other :=
  List.mem_or_eq_of_mem_set member

theorem mem_finish (member : call ∈ (state.finish index).calls) :
    call ∈ state.calls :=
  List.mem_of_mem_eraseIdx member

end State

/-! ## Steps -/

/-- What can happen next. -/
inductive Action where
  | createWallet (branchId : ObjectId)
  | initializeTopUp (branchId : ObjectId) (branch : Option Branch)
      (amountCentavos : Int) (actorUid : Uid)
  | createIntent (index : Nat) (intentId : ObjectId)
  | gatewayAnswers (index : Nat) (invoice : GatewayInvoice)
  | gatewayThrows (index : Nat)
  | failIntent (index : Nat) (now : Instant)
  | recordInvoice (index : Nat)
  | postVerifiedTopUp (intentId : String) (event : VerifiedTopUpEvent)
  | readIntent (index : Nat)
  | abortCredit (index budget : Nat) (now : Instant)
  | commitCredit (index : Nat) (now : Instant)
  | report (index : Nat)
  | resolveIntentWithoutCredit (intentId : String) (status : TopUpIntentStatus) (now : Instant)
  | consumeFee (branchId : ObjectId) (amountCentavos : Int) (orderId : ObjectId)
  | reverseFee (branchId : ObjectId) (amountCentavos : Int) (orderId : ObjectId)
  | adminAdjustBalance (branchId : ObjectId) (deltaCentavos : Int)
  | crash (index : Nat)

def Action.movesFee : Action → Bool
  | .consumeFee _ _ _ | .reverseFee _ _ _ => true
  | _ => false

def autoSucceedEvent (intentId : ObjectId) (amountCentavos : Int)
    (invoice : GatewayInvoice) : VerifiedTopUpEvent :=
  { reference := intentId
    amountCentavos
    currency := "PHP"
    gatewayInvoiceId := some invoice.gatewayInvoiceId }

def resolveWithout (status : TopUpIntentStatus) (now : Instant)
    (intent : TopUpIntent) : TopUpIntent :=
  { intent with status, resolvedAt := some now }

def storeInvoice (invoice : GatewayInvoice)
    (intent : TopUpIntent) : TopUpIntent :=
  { intent with
    xenditInvoiceId := some invoice.gatewayInvoiceId
    invoiceUrl := some invoice.invoiceUrl }

/-- `postVerifiedTopUp` up to its transaction. -/
def stepReadIntent (castToObjectId : String → Option ObjectId)
    (index : Nat) (intentId : String) (event : VerifiedTopUpEvent)
    (state : State) : State :=
  match (castToObjectId intentId).bind state.store.intents.lookup with
  | none => state.finish index
  | some intent =>
    match verifyTopUpEvent intent event with
    | .error _ => state.finish index
    | .ok true => (state.finish index).acknowledge intent._id
    | .ok false => state.advance index (.credit intent event false)

/-- The final run of the credit callback and the `catch` around it. -/
def stepCommitCredit (index : Nat) (now : Instant) (intent : TopUpIntent)
    (event : VerifiedTopUpEvent) (alreadyPosted : Bool)
    (state : State) : State :=
  match (creditTopUp now intent event).commit state.store alreadyPosted with
  | (.ok _, store, posted) =>
    (state.write store).advance index (.report intent._id posted)
  | (.error (.thrown (.duplicateKey _)), _, _) =>
    state.advance index (.report intent._id true)
  | (.error _, _, _) => state.finish index

def stepAbortCredit (index budget : Nat) (now : Instant)
    (intent : TopUpIntent) (event : VerifiedTopUpEvent)
    (alreadyPosted : Bool) (state : State) : Option State :=
  match (creditTopUp now intent event).runOnce (some budget) state.store alreadyPosted with
  | (.error (.thrown _), _) => none
  | (_, after) =>
    some (state.advance index (.credit intent event after.memory))

def stepTransaction (outcome : Except ServiceError WalletStore)
    (state : State) : Option State :=
  match outcome with
  | .error _ => none
  | .ok store => some (state.write store)

/-- One step; `none` when the request is refused without a write. -/
def step (castToObjectId : String → Option ObjectId) :
    Action → State → Option State
  | .createWallet branchId, state =>
    some (state.write (state.store.createWallet branchId))
  | .initializeTopUp branchId branch amountCentavos actorUid, state =>
    match assertFundable branch actorUid amountCentavos with
    | .error _ => none
    | .ok _ =>
      some ((state.write (state.store.createWallet branchId)).begin
        (.intentCreation branchId amountCentavos))
  | .createIntent index intentId, state =>
    match state.calls[index]?, state.store.intents.lookup intentId with
    | some (.intentCreation branchId amountCentavos), none =>
      some ((state.write { state.store with
          intents := state.store.intents.insert intentId
            { _id := intentId, branchId, amountCentavos
              status := .pending } }).advance index
        (.invoiceCreation intentId amountCentavos))
    | _, _ => none
  | .gatewayAnswers index invoice, state =>
    match state.calls[index]? with
    | some (.invoiceCreation intentId amountCentavos) =>
      some (state.advance index (.invoiceRecording intentId amountCentavos invoice))
    | _ => none
  | .gatewayThrows index, state =>
    match state.calls[index]? with
    | some (.invoiceCreation intentId _) =>
      some (state.advance index (.intentFailure intentId))
    | _ => none
  | .failIntent index now, state =>
    match state.calls[index]? with
    | some (.intentFailure intentId) =>
      some ((state.write (state.store.resolvePending intentId
        (resolveWithout .failed now)).2).finish index)
    | _ => none
  | .recordInvoice index, state =>
    match state.calls[index]? with
    | some (.invoiceRecording intentId amountCentavos invoice) =>
      let written := state.write (state.store.updateIntent intentId (storeInvoice invoice))
      if invoice.autoSucceeds then
        some (written.advance index (.posting intentId
          (autoSucceedEvent intentId amountCentavos invoice)))
      else
        some (written.finish index)
    | _ => none
  | .postVerifiedTopUp intentId event, state =>
    some (state.begin (.posting intentId event))
  | .readIntent index, state =>
    match state.calls[index]? with
    | some (.posting intentId event) =>
      some (stepReadIntent castToObjectId index intentId event state)
    | _ => none
  | .abortCredit index budget now, state =>
    match state.calls[index]? with
    | some (.credit intent event alreadyPosted) =>
      stepAbortCredit index budget now intent event alreadyPosted state
    | _ => none
  | .commitCredit index now, state =>
    match state.calls[index]? with
    | some (.credit intent event alreadyPosted) =>
      some (stepCommitCredit index now intent event alreadyPosted state)
    | _ => none
  | .report index, state =>
    match state.calls[index]? with
    | some (.report intentId _) =>
      some ((state.finish index).acknowledge intentId)
    | _ => none
  | .resolveIntentWithoutCredit intentId status now, state =>
    match castToObjectId intentId with
    | none => none
    | some _id =>
      if status = .expired ∨ status = .failed then
        some (state.write (state.store.resolvePending _id (resolveWithout status now)).2)
      else
        none
  | .consumeFee branchId amountCentavos orderId, state =>
    stepTransaction (state.store.consumeFee branchId amountCentavos orderId) state
  | .reverseFee branchId amountCentavos orderId, state =>
    stepTransaction (state.store.reverseFee branchId amountCentavos orderId) state
  | .adminAdjustBalance branchId deltaCentavos, state =>
    stepTransaction (state.store.adminAdjustBalance branchId deltaCentavos) state
  | .crash index, state => some (state.finish index)

def walletSystem (castToObjectId : String → Option ObjectId) :
    System State Action :=
  { step := step castToObjectId }

/-! ## What a step can do

Every invariant of the service is derived from the three lemmas of this section:
what a step does to the collections, which calls it leaves in flight, and which
top-ups it acknowledges.
-/

/-- What one step does to the collections. -/
inductive StoreChange (action : Action) (calls : List Call)
    (store : WalletStore) : WalletStore → Prop where
  | none : StoreChange action calls store store
  | createWallet (branchId : ObjectId) :
      StoreChange action calls store (store.createWallet branchId)
  | createIntent (intentId branchId : ObjectId) (amountCentavos : Int)
      (unused : store.intents.lookup intentId = none) :
      StoreChange action calls store { store with
          intents := store.intents.insert intentId
            { _id := intentId, branchId, amountCentavos
              status := .pending } }
  | resolve (intentId : ObjectId) (status : TopUpIntentStatus)
      (now : Instant) (without : status ≠ .succeeded) :
      StoreChange action calls store (store.resolvePending intentId (resolveWithout status now)).2
  | recordInvoice (intentId : ObjectId) (invoice : GatewayInvoice) :
      StoreChange action calls store (store.updateIntent intentId (storeInvoice invoice))
  | credit {now : Instant} {intent : TopUpIntent}
      {event : VerifiedTopUpEvent} {posted posted' : Bool}
      {after : WalletStore}
      (flying : Call.credit intent event posted ∈ calls)
      (committed : (creditTopUp now intent event).commit store posted = (.ok (), after, posted')) :
      StoreChange action calls store after
  | consumeFee {branchId orderId : ObjectId} {amountCentavos : Int}
      {after : WalletStore}
      (moves : action = .consumeFee branchId amountCentavos orderId)
      (consumed : store.consumeFee branchId amountCentavos orderId = .ok after) :
      StoreChange action calls store after
  | reverseFee {branchId orderId : ObjectId} {amountCentavos : Int}
      {after : WalletStore}
      (moves : action = .reverseFee branchId amountCentavos orderId)
      (reversed : store.reverseFee branchId amountCentavos orderId = .ok after) :
      StoreChange action calls store after
  | adminAdjustBalance {branchId : ObjectId} {deltaCentavos : Int}
      {after : WalletStore}
      (adjusted : store.adminAdjustBalance branchId deltaCentavos = .ok after) :
      StoreChange action calls store after

/-- How a call that was not in flight before a step comes to be. -/
inductive Arrives (state : State) (store : WalletStore) : Action → Call → Prop where
  | intentCreation {action : Action} (branchId : ObjectId) (amountCentavos : Int) :
      Arrives state store action (.intentCreation branchId amountCentavos)
  | invoiceCreation {action : Action} (intentId : ObjectId) (amountCentavos : Int) :
      Arrives state store action (.invoiceCreation intentId amountCentavos)
  | intentFailure {action : Action} (intentId : ObjectId) :
      Arrives state store action (.intentFailure intentId)
  | invoiceRecording {action : Action} (intentId : ObjectId) (amountCentavos : Int)
      (invoice : GatewayInvoice) :
      Arrives state store action (.invoiceRecording intentId amountCentavos invoice)
  | posting {action : Action} (intentId : String) (event : VerifiedTopUpEvent) :
      Arrives state store action (.posting intentId event)
  | read {action : Action} {intentId : ObjectId}
      {intent : TopUpIntent} {event : VerifiedTopUpEvent}
      (found : store.intents.lookup intentId = some intent)
      (same : store = state.store) :
      Arrives state store action (.credit intent event false)
  | aborted {action : Action} {intent : TopUpIntent}
      {event : VerifiedTopUpEvent} {posted : Bool} (posted' : Bool)
      (flying : Call.credit intent event posted ∈ state.calls) :
      Arrives state store action (.credit intent event posted')
  | committed {index : Nat} {now : Instant} {intent : TopUpIntent}
      {event : VerifiedTopUpEvent} {posted posted' : Bool}
      (flying : state.calls[index]? = some (.credit intent event posted))
      (committed : (creditTopUp now intent event).commit state.store
        posted = (.ok (), store, posted')) :
      Arrives state store (.commitCredit index now) (.report intent._id posted')
  | duplicate {index : Nat} {now : Instant} {intent : TopUpIntent}
      {event : VerifiedTopUpEvent} {posted posted' : Bool}
      {indexName : String} {rolledBack : WalletStore}
      (flying : state.calls[index]? = some (.credit intent event posted))
      (refused : (creditTopUp now intent event).commit state.store
        posted = (.error (.thrown (.duplicateKey indexName)), rolledBack, posted'))
      (same : store = state.store) :
      Arrives state store (.commitCredit index now) (.report intent._id true)

/-- How a top-up comes to be acknowledged. -/
inductive Acknowledges (state : State) (intentId : ObjectId) : Prop where
  | reported (posted : Bool)
      (flying : Call.report intentId posted ∈ state.calls) :
      Acknowledges state intentId
  | succeeded {key : ObjectId} {intent : TopUpIntent}
      (found : state.store.intents.lookup key = some intent)
      (identity : intent._id = intentId)
      (success : intent.status = .succeeded) :
      Acknowledges state intentId

theorem stepTransaction_some {outcome : Except ServiceError WalletStore}
    {state after : State}
    (stepped : stepTransaction outcome state = some after) :
    ∃ store, outcome = .ok store ∧ after = state.write store := by
  cases outcome with
  | error error => cases stepped
  | ok store =>
    cases stepped
    exact ⟨store, rfl, rfl⟩

theorem verifyTopUpEvent_true {intent : TopUpIntent}
    {event : VerifiedTopUpEvent}
    (verified : verifyTopUpEvent intent event = .ok true) :
    intent.status = .succeeded := by
  rw [verifyTopUpEvent] at verified
  split_ifs at verified
  split at verified <;> simp_all

theorem stepReadIntent_cases
    (castToObjectId : String → Option ObjectId) (state : State)
    (index : Nat) (intentId : String) (event : VerifiedTopUpEvent) :
    stepReadIntent castToObjectId index intentId event state = state.finish index ∨
    (∃ key intent, state.store.intents.lookup key = some intent ∧
      intent.status = .succeeded ∧
      stepReadIntent castToObjectId index intentId event state =
        (state.finish index).acknowledge intent._id) ∨
    (∃ key intent, state.store.intents.lookup key = some intent ∧
      stepReadIntent castToObjectId index intentId event state =
        state.advance index (.credit intent event false)) := by
  rw [stepReadIntent]
  rcases read : (castToObjectId intentId).bind state.store.intents.lookup with _ | intent
  · exact .inl rfl
  · obtain ⟨key, -, found⟩ := Option.bind_eq_some_iff.mp read
    rcases verified : verifyTopUpEvent intent event with error | posted
    · exact .inl (by simp only [verified])
    · cases posted with
      | true =>
        exact .inr (.inl ⟨key, intent, found,
          verifyTopUpEvent_true verified, by simp only [verified]⟩)
      | false =>
        exact .inr (.inr ⟨key, intent, found, by simp only [verified]⟩)

theorem stepCommitCredit_cases (state : State) (index : Nat)
    (now : Instant) (intent : TopUpIntent) (event : VerifiedTopUpEvent)
    (posted : Bool) :
    (∃ store posted', (creditTopUp now intent event).commit state.store posted =
        (.ok (), store, posted') ∧
      stepCommitCredit index now intent event posted state =
        (state.write store).advance index (.report intent._id posted')) ∨
    (∃ indexName rolledBack posted',
      (creditTopUp now intent event).commit state.store posted =
        (.error (.thrown (.duplicateKey indexName)), rolledBack, posted') ∧
      stepCommitCredit index now intent event posted state =
        state.advance index (.report intent._id true)) ∨
    stepCommitCredit index now intent event posted state =
      state.finish index := by
  rw [stepCommitCredit]
  split
  · exact .inl ⟨_, _, by assumption, rfl⟩
  · exact .inr (.inl ⟨_, _, _, by assumption, rfl⟩)
  · exact .inr (.inr rfl)

variable {castToObjectId : String → Option ObjectId} {state after : State}

/-- What a step does, to all that the invariants speak of. -/
structure Effect (action : Action) (state after : State) : Prop where
  store : StoreChange action state.calls state.store after.store
  calls : ∀ call ∈ after.calls, call ∈ state.calls ∨ Arrives state after.store action call
  acknowledged : ∀ intentId ∈ after.acknowledged,
    intentId ∈ state.acknowledged ∨ Acknowledges state intentId ∧ after.store = state.store

namespace Effect

variable {action : Action}

variable {store : WalletStore}

theorem write (change : StoreChange action state.calls state.store store) :
    Effect action state (state.write store) where
  store := change
  calls := fun _ member => .inl member
  acknowledged := fun _ member => .inl member

theorem finish (index : Nat)
    (change : StoreChange action state.calls state.store store) :
    Effect action state ((state.write store).finish index) where
  store := change
  calls := fun _ member => .inl (State.mem_finish member)
  acknowledged := fun _ member => .inl member

theorem advance (index : Nat) {call : Call}
    (change : StoreChange action state.calls state.store store)
    (arrives : Arrives state store action call) :
    Effect action state ((state.write store).advance index call) where
  store := change
  calls := by
    intro other member
    rcases State.mem_advance member with old | rfl
    · exact .inl old
    · exact .inr arrives
  acknowledged := fun _ member => .inl member

theorem begin {call : Call}
    (change : StoreChange action state.calls state.store store)
    (arrives : Arrives state store action call) :
    Effect action state ((state.write store).begin call) where
  store := change
  calls := by
    intro other member
    rcases State.mem_begin member with old | rfl
    · exact .inl old
    · exact .inr arrives
  acknowledged := fun _ member => .inl member

theorem acknowledge (index : Nat) {intentId : ObjectId}
    (acknowledges : Acknowledges state intentId) :
    Effect action state ((state.finish index).acknowledge intentId) where
  store := .none
  calls := fun _ member => .inl (State.mem_finish member)
  acknowledged := by
    intro other member
    rcases List.mem_append.mp member with old | new
    · exact .inl old
    · cases List.mem_singleton.mp new
      exact .inr ⟨acknowledges, rfl⟩

end Effect

/-- One step, case by case. -/
theorem step_effect {action : Action}
    (stepped : step castToObjectId action state = some after) :
    Effect action state after := by
  cases action with
  | createWallet branchId =>
    cases stepped
    exact .write (.createWallet branchId)
  | initializeTopUp branchId branch amountCentavos actorUid =>
    rw [step] at stepped
    split at stepped
    · cases stepped
    · cases stepped
      exact .begin (.createWallet branchId) (.intentCreation _ _)
  | createIntent index intentId =>
    rw [step] at stepped
    split at stepped
    · cases stepped
      exact .advance index (.createIntent _ _ _ (by assumption)) (.invoiceCreation _ _)
    · cases stepped
  | gatewayAnswers index invoice =>
    rw [step] at stepped
    split at stepped
    · cases stepped
      exact .advance index .none (.invoiceRecording _ _ _)
    · cases stepped
  | gatewayThrows index =>
    rw [step] at stepped
    split at stepped
    · cases stepped
      exact .advance index .none (.intentFailure _)
    · cases stepped
  | failIntent index now =>
    rw [step] at stepped
    split at stepped
    · cases stepped
      exact .finish index (.resolve _ .failed now (fun equal => by cases equal))
    · cases stepped
  | recordInvoice index =>
    rw [step] at stepped
    split at stepped
    · simp only at stepped
      split at stepped
      · cases stepped
        exact .advance index (.recordInvoice _ _) (.posting _ _)
      · cases stepped
        exact .finish index (.recordInvoice _ _)
    · cases stepped
  | postVerifiedTopUp intentId event =>
    cases stepped
    exact .begin .none (.posting _ _)
  | readIntent index =>
    rw [step] at stepped
    split at stepped
    · rename_i intentId event flying
      rcases stepReadIntent_cases castToObjectId state index intentId event with
        ended | ⟨key, intent, found, success, returned⟩ | ⟨key, intent, found, moved⟩
      · rw [ended] at stepped
        cases stepped
        exact .finish index .none
      · rw [returned] at stepped
        cases stepped
        exact .acknowledge index (.succeeded found rfl success)
      · rw [moved] at stepped
        cases stepped
        exact .advance index .none (.read found rfl)
    · cases stepped
  | abortCredit index budget now =>
    rw [step] at stepped
    split at stepped
    · rename_i intent event posted flying
      rw [stepAbortCredit] at stepped
      split at stepped
      · cases stepped
      · cases stepped
        exact .advance index .none (.aborted _ (List.mem_of_getElem? flying))
    · cases stepped
  | commitCredit index now =>
    rw [step] at stepped
    split at stepped
    · rename_i intent event posted flying
      rcases stepCommitCredit_cases state index now intent event posted with
        ⟨store, posted', committed, moved⟩ |
          ⟨indexName, rolledBack, posted', refused, moved⟩ | ended
      · rw [moved] at stepped
        cases stepped
        exact .advance index
          (.credit (List.mem_of_getElem? flying) committed)
          (.committed flying committed)
      · rw [moved] at stepped
        cases stepped
        exact .advance index .none (.duplicate flying refused rfl)
      · rw [ended] at stepped
        cases stepped
        exact .finish index .none
    · cases stepped
  | report index =>
    rw [step] at stepped
    split at stepped
    · rename_i intentId posted flying
      cases stepped
      exact .acknowledge index (.reported posted (List.mem_of_getElem? flying))
    · cases stepped
  | resolveIntentWithoutCredit intentId status now =>
    rw [step] at stepped
    split at stepped
    · cases stepped
    · split_ifs at stepped with terminal
      cases stepped
      refine .write (.resolve _ status now ?_)
      rcases terminal with rfl | rfl <;> exact fun equal => by cases equal
  | consumeFee branchId amountCentavos orderId =>
    obtain ⟨store, consumed, rfl⟩ := stepTransaction_some stepped
    exact .write (.consumeFee rfl consumed)
  | reverseFee branchId amountCentavos orderId =>
    obtain ⟨store, reversed, rfl⟩ := stepTransaction_some stepped
    exact .write (.reverseFee rfl reversed)
  | adminAdjustBalance branchId deltaCentavos =>
    obtain ⟨store, adjusted, rfl⟩ := stepTransaction_some stepped
    exact .write (.adminAdjustBalance adjusted)
  | crash index =>
    cases stepped
    exact .finish index .none

end Lalaba.Wallets
