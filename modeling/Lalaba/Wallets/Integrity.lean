import Lalaba.Foundation.Ledger
import Lalaba.Wallets.System

/-!
# The wallet ledger is the wallet

Three collections tell one story: the balance of a wallet is the sum of its
branch's ledger rows, every row records the sum up to itself, and a top-up
intent has succeeded exactly when one row credits it.  The invariant is about
the collections and about what a credit in flight has read, so it survives
every interleaving of calls, aborted runs included.
-/

namespace Lalaba.Wallets

open Foundation
open Foundation.Program

/-! ## The abstract ledger -/

def balanceOf (branchId : ObjectId) (ledger : List WalletLedgerEntry) :
    Int :=
  Ledger.total WalletLedgerEntry.branchId WalletLedgerEntry.amountCentavos branchId ledger

def RunningBalance (ledger : List WalletLedgerEntry) : Prop :=
  Ledger.Running WalletLedgerEntry.branchId
    WalletLedgerEntry.amountCentavos
    WalletLedgerEntry.balanceAfterCentavos ledger

def creditsOf (intentId : ObjectId) (ledger : List WalletLedgerEntry) :
    List WalletLedgerEntry :=
  ledger.filter fun row =>
    row.type = .topUp ∧ row.xenditReference = some intentId

theorem creditsOf_append (intentId : ObjectId)
    (ledger : List WalletLedgerEntry) (row : WalletLedgerEntry) :
    creditsOf intentId (ledger ++ [row]) =
      creditsOf intentId ledger ++
        if row.type = .topUp ∧ row.xenditReference = some intentId then
          [row] else [] := by
  rw [creditsOf, creditsOf, List.filter_append]
  by_cases credits : row.type = .topUp ∧ row.xenditReference = some intentId <;> simp [credits]

/-- The ledger agrees with the wallets and the intents. -/
structure Integrity (store : WalletStore) : Prop where
  balance : ∀ branchId wallet,
    store.wallets.lookup branchId = some wallet →
      wallet.balanceCentavos = balanceOf branchId store.ledger
  running : RunningBalance store.ledger
  credited : ∀ intentId intent,
    store.intents.lookup intentId = some intent →
      (intent.status = .succeeded ↔ ∃ row, creditsOf intentId store.ledger = [row] ∧
          row.amountCentavos = intent.amountCentavos)
  once : ∀ intentId, (creditsOf intentId store.ledger).length ≤ 1

def CreditedOnce (ledger : List WalletLedgerEntry)
    (intent : TopUpIntent) : Prop :=
  ∃ row, creditsOf intent._id ledger = [row] ∧
    row.branchId = intent.branchId ∧
    row.amountCentavos = intent.amountCentavos

/-- What every reachable state of the collections satisfies. -/
structure StoreInvariant (store : WalletStore) : Prop where
  balance : ∀ branchId wallet,
    store.wallets.lookup branchId = some wallet →
      wallet.balanceCentavos = balanceOf branchId store.ledger
  walletless : ∀ branchId, store.wallets.lookup branchId = none →
    ∀ row ∈ store.ledger, row.branchId ≠ branchId
  running : RunningBalance store.ledger
  references : ∀ row ∈ store.ledger, row.xenditReference.isSome → row.type = .topUp
  identity : ∀ intentId intent, store.intents.lookup intentId = some intent → intent._id = intentId
  succeeded : ∀ intentId intent,
    store.intents.lookup intentId = some intent →
      intent.status = .succeeded → CreditedOnce store.ledger intent
  uncredited : ∀ intentId intent,
    store.intents.lookup intentId = some intent →
      intent.status ≠ .succeeded → creditsOf intentId store.ledger = []
  unknown : ∀ intentId, store.intents.lookup intentId = none → creditsOf intentId store.ledger = []

namespace StoreInvariant

variable {store after : WalletStore}

theorem empty : StoreInvariant .empty := by
  constructor <;> intros <;>
    simp_all [WalletStore.empty, RunningBalance, Ledger.Running.nil, creditsOf]

theorem integrity (invariant : StoreInvariant store) : Integrity store where
  balance := invariant.balance
  running := invariant.running
  credited := by
    intro intentId intent found
    constructor
    · intro succeeded
      obtain ⟨row, credits, _, amount⟩ := invariant.succeeded intentId intent found succeeded
      rw [invariant.identity intentId intent found] at credits
      exact ⟨row, credits, amount⟩
    · rintro ⟨row, credits, _⟩
      by_contra pending
      rw [invariant.uncredited intentId intent found pending] at credits
      cases credits
  once := by
    intro intentId
    rcases found : store.intents.lookup intentId with _ | intent
    · simp [invariant.unknown intentId found]
    · by_cases succeeded : intent.status = .succeeded
      · obtain ⟨row, credits, _⟩ := invariant.succeeded intentId intent found succeeded
        rw [invariant.identity intentId intent found] at credits
        simp [credits]
      · simp [invariant.uncredited intentId intent found succeeded]

theorem createWallet (invariant : StoreInvariant store)
    (branchId : ObjectId) :
    StoreInvariant (store.createWallet branchId) := by
  rw [WalletStore.createWallet]
  rcases missing : store.wallets.lookup branchId with _ | wallet
  · refine
      { running := invariant.running
        references := invariant.references
        identity := invariant.identity
        succeeded := invariant.succeeded
        uncredited := invariant.uncredited
        unknown := invariant.unknown
        balance := ?_
        walletless := ?_ }
    · intro other wallet found
      by_cases same : other = branchId
      · subst same
        rw [AList.lookup_insert] at found
        cases found
        exact (Ledger.total_eq_zero _ _ (invariant.walletless other missing)).symm
      · rw [AList.lookup_insert_ne same] at found
        exact invariant.balance other wallet found
    · intro other absent
      by_cases same : other = branchId
      · subst same
        rw [AList.lookup_insert] at absent
        cases absent
      · rw [AList.lookup_insert_ne same] at absent
        exact invariant.walletless other absent
  · exact invariant

variable {branchId intentId : ObjectId} {amountCentavos : Int}

/--
A balance move together with its row.  `row` may credit an intent; that part of
the invariant is the caller's.
-/
theorem balanceMoved (invariant : StoreInvariant store) (wallet moved : Wallet)
    (row : WalletLedgerEntry)
    (found : store.wallets.lookup branchId = some wallet)
    (owner : row.branchId = branchId) (amount : moved.balanceCentavos =
      wallet.balanceCentavos + row.amountCentavos)
    (recorded : row.balanceAfterCentavos = moved.balanceCentavos) :
    (∀ other present,
      (store.wallets.insert branchId moved).lookup other = some present →
        present.balanceCentavos = balanceOf other (store.ledger ++ [row])) ∧
    (∀ other, (store.wallets.insert branchId moved).lookup other = none →
      ∀ entry ∈ store.ledger ++ [row], entry.branchId ≠ other) ∧
    RunningBalance (store.ledger ++ [row]) := by
  have old := invariant.balance branchId wallet found
  refine ⟨?_, ?_, ?_⟩
  · intro other present there
    rw [balanceOf, Ledger.total_append, Ledger.total_singleton]
    by_cases same : other = branchId
    · subst same
      rw [AList.lookup_insert] at there
      cases there
      rw [if_pos owner, amount, old]
      rfl
    · rw [AList.lookup_insert_ne same] at there
      have foreign : row.branchId ≠ other := fun equal =>
        same (equal.symm.trans owner)
      rw [if_neg foreign, add_zero]
      exact invariant.balance other present there
  · intro other absent entry member
    by_cases same : other = branchId
    · subst same
      rw [AList.lookup_insert] at absent
      cases absent
    · rw [AList.lookup_insert_ne same] at absent
      rcases List.mem_append.mp member with old | new
      · exact invariant.walletless other absent entry old
      · cases List.mem_singleton.mp new
        exact fun equal => same (equal.symm.trans owner)
  · apply Ledger.Running.append invariant.running
    rw [recorded, amount, owner, old]
    rfl

/-- A fee or a correction: its row names no intent. -/
theorem moveBalance (invariant : StoreInvariant store)
    {type : WalletLedgerEntryType} {orderId : Option ObjectId}
    (moved : store.moveBalance branchId type amountCentavos orderId = .ok after) :
    StoreInvariant after := by
  obtain ⟨wallet, found, rfl⟩ := WalletStore.moveBalance_ok.mp moved
  obtain ⟨balance, walletless, running⟩ :=
    invariant.balanceMoved wallet { wallet with
        balanceCentavos := wallet.balanceCentavos + amountCentavos }
      { branchId, type, amountCentavos, orderId
        balanceAfterCentavos := wallet.balanceCentavos + amountCentavos }
      found rfl rfl rfl
  have credits : ∀ intentId,
      creditsOf intentId (store.ledger ++
        [{ branchId, type, amountCentavos, orderId
           balanceAfterCentavos := wallet.balanceCentavos + amountCentavos }]) =
        creditsOf intentId store.ledger := by
    intro intentId
    rw [creditsOf_append]
    simp
  refine
    { balance, walletless, running
      identity := invariant.identity
      references := ?_
      succeeded := ?_
      uncredited := ?_
      unknown := ?_ }
  · intro row member referenced
    rcases List.mem_append.mp member with old | new
    · exact invariant.references row old referenced
    · cases List.mem_singleton.mp new
      cases referenced
  · intro intentId intent there succeeded
    obtain ⟨row, credited, rest⟩ := invariant.succeeded intentId intent there succeeded
    exact ⟨row, (credits intent._id).trans credited, rest⟩
  · intro intentId intent there pending
    exact (credits intentId).trans (invariant.uncredited intentId intent there pending)
  · intro intentId absent
    exact (credits intentId).trans (invariant.unknown intentId absent)

theorem consumeFee (invariant : StoreInvariant store) {orderId : ObjectId}
    (consumed : store.consumeFee branchId amountCentavos orderId = .ok after) :
    StoreInvariant after :=
  invariant.moveBalance consumed

theorem reverseFee (invariant : StoreInvariant store) {orderId : ObjectId}
    (reversed : store.reverseFee branchId amountCentavos orderId = .ok after) :
    StoreInvariant after := by
  rw [WalletStore.reverseFee] at reversed
  split at reversed
  · cases reversed
    exact invariant
  · exact invariant.moveBalance reversed

theorem adminAdjustBalance (invariant : StoreInvariant store)
    {deltaCentavos : Int}
    (adjusted : store.adminAdjustBalance branchId deltaCentavos = .ok after) :
    StoreInvariant after := by
  rw [WalletStore.adminAdjustBalance] at adjusted
  split at adjusted
  · cases adjusted
  · split at adjusted
    · cases adjusted
    · split at adjusted
      · cases adjusted
      · exact invariant.moveBalance adjusted

/-- A new pending intent: no row can name it yet. -/
theorem createIntent (invariant : StoreInvariant store)
    (unused : store.intents.lookup intentId = none) :
    StoreInvariant { store with
        intents := store.intents.insert intentId
          { _id := intentId, branchId, amountCentavos
            status := .pending } } := by
  refine
    { balance := invariant.balance
      walletless := invariant.walletless
      running := invariant.running
      references := invariant.references
      identity := ?_
      succeeded := ?_
      uncredited := ?_
      unknown := ?_ } <;> intro other
  · intro intent there
    by_cases same : other = intentId
    · subst same
      rw [AList.lookup_insert] at there
      cases there
      rfl
    · rw [AList.lookup_insert_ne same] at there
      exact invariant.identity other intent there
  · intro intent there succeeded
    by_cases same : other = intentId
    · subst same
      rw [AList.lookup_insert] at there
      cases there
      cases succeeded
    · rw [AList.lookup_insert_ne same] at there
      exact invariant.succeeded other intent there succeeded
  · intro intent there pending
    by_cases same : other = intentId
    · subst same
      exact invariant.unknown other unused
    · rw [AList.lookup_insert_ne same] at there
      exact invariant.uncredited other intent there pending
  · intro absent
    by_cases same : other = intentId
    · subst same
      exact invariant.unknown other unused
    · rw [AList.lookup_insert_ne same] at absent
      exact invariant.unknown other absent

/--
A change of one intent that neither grants nor takes back success, and leaves
what a credit is checked against.
-/
theorem changeIntent (invariant : StoreInvariant store)
    {intent changed : TopUpIntent}
    (found : store.intents.lookup intentId = some intent)
    (identity : changed._id = intent._id)
    (branch : changed.branchId = intent.branchId)
    (amount : changed.amountCentavos = intent.amountCentavos)
    (success : changed.status = .succeeded ↔ intent.status = .succeeded) :
    StoreInvariant { store with
        intents := store.intents.insert intentId changed } := by
  refine
    { balance := invariant.balance
      walletless := invariant.walletless
      running := invariant.running
      references := invariant.references
      identity := ?_
      succeeded := ?_
      uncredited := ?_
      unknown := ?_ } <;> intro other
  · intro present there
    by_cases same : other = intentId
    · subst same
      rw [AList.lookup_insert] at there
      cases there
      exact identity.trans (invariant.identity other intent found)
    · rw [AList.lookup_insert_ne same] at there
      exact invariant.identity other present there
  · intro present there succeeded
    by_cases same : other = intentId
    · subst same
      rw [AList.lookup_insert] at there
      cases there
      obtain ⟨row, credited, owner, credit⟩ :=
        invariant.succeeded other intent found (success.mp succeeded)
      exact ⟨row, by rw [identity]; exact credited,
        owner.trans branch.symm, credit.trans amount.symm⟩
    · rw [AList.lookup_insert_ne same] at there
      exact invariant.succeeded other present there succeeded
  · intro present there pending
    by_cases same : other = intentId
    · subst same
      rw [AList.lookup_insert] at there
      cases there
      exact invariant.uncredited other intent found
        (fun succeeded => pending (success.mpr succeeded))
    · rw [AList.lookup_insert_ne same] at there
      exact invariant.uncredited other present there pending
  · intro absent
    by_cases same : other = intentId
    · subst same
      rw [AList.lookup_insert] at absent
      cases absent
    · rw [AList.lookup_insert_ne same] at absent
      exact invariant.unknown other absent

theorem resolvePending (invariant : StoreInvariant store)
    (intentId : ObjectId) {status : TopUpIntentStatus} (now : Instant)
    (without : status ≠ .succeeded) :
    StoreInvariant (store.resolvePending intentId (resolveWithout status now)).2 := by
  rw [WalletStore.resolvePending]
  rcases found : store.intents.lookup intentId with _ | intent
  · exact invariant
  · by_cases pending : intent.status = .pending
    · simp only [pending, if_true]
      refine invariant.changeIntent found rfl rfl rfl ?_
      constructor
      · exact fun succeeded => absurd succeeded without
      · exact fun succeeded => by rw [pending] at succeeded; cases succeeded
    · simp only [pending, if_false]
      exact invariant

theorem updateIntent (invariant : StoreInvariant store)
    (intentId : ObjectId) (invoice : GatewayInvoice) :
    StoreInvariant (store.updateIntent intentId (storeInvoice invoice)) := by
  rw [WalletStore.updateIntent]
  rcases found : store.intents.lookup intentId with _ | intent
  · exact invariant
  · exact invariant.changeIntent found rfl rfl rfl Iff.rfl

/--
A committed credit.  The claimed intent was pending, so no row named it; after
the step exactly one does.
-/
theorem credit (invariant : StoreInvariant store) {stored claimed : TopUpIntent}
    (wallet credited : Wallet) (row : WalletLedgerEntry)
    (found : store.intents.lookup intentId = some stored)
    (pending : stored.status = .pending) (identity : claimed._id = stored._id)
    (branch : claimed.branchId = stored.branchId)
    (amount : claimed.amountCentavos = stored.amountCentavos)
    (success : claimed.status = .succeeded)
    (present : store.wallets.lookup branchId = some wallet)
    (raised : credited.balanceCentavos = wallet.balanceCentavos + row.amountCentavos)
    (recorded : row.balanceAfterCentavos = credited.balanceCentavos)
    (topUp : row.type = .topUp)
    (reference : row.xenditReference = some intentId)
    (owner : row.branchId = branchId) (owner' : branchId = stored.branchId)
    (worth : row.amountCentavos = stored.amountCentavos) :
    StoreInvariant
      { wallets := store.wallets.insert branchId credited
        ledger := store.ledger ++ [row]
        intents := store.intents.insert intentId claimed } := by
  obtain ⟨balance, walletless, running⟩ :=
    invariant.balanceMoved wallet credited row present owner raised recorded
  have foreign : ∀ other, other ≠ intentId →
      creditsOf other (store.ledger ++ [row]) = creditsOf other store.ledger := by
    intro other different
    rw [creditsOf_append, reference]
    simp [different.symm]
  have named : creditsOf intentId (store.ledger ++ [row]) = [row] := by
    have none : creditsOf intentId store.ledger = [] := by
      apply invariant.uncredited intentId stored found
      rw [pending]
      exact fun equal => by cases equal
    rw [creditsOf_append, none, if_pos ⟨topUp, reference⟩]
    rfl
  refine
    { balance, walletless, running
      references := ?_
      identity := ?_
      succeeded := ?_
      uncredited := ?_
      unknown := ?_ }
  · intro entry member referenced
    rcases List.mem_append.mp member with old | new
    · exact invariant.references entry old referenced
    · cases List.mem_singleton.mp new
      exact topUp
  · intro other intent there
    by_cases same : other = intentId
    · subst same
      rw [AList.lookup_insert] at there
      cases there
      exact identity.trans (invariant.identity other stored found)
    · rw [AList.lookup_insert_ne same] at there
      exact invariant.identity other intent there
  · intro other intent there succeeded
    by_cases same : other = intentId
    · subst same
      rw [AList.lookup_insert] at there
      cases there
      refine ⟨row, ?_, owner.trans (owner'.trans branch.symm), worth.trans amount.symm⟩
      rw [identity, invariant.identity other stored found]
      exact named
    · rw [AList.lookup_insert_ne same] at there
      obtain ⟨entry, credits, rest⟩ := invariant.succeeded other intent there succeeded
      refine ⟨entry, ?_, rest⟩
      have own := invariant.identity other intent there
      rw [own] at credits ⊢
      exact (foreign other same).trans credits
  · intro other intent there unsuccessful
    by_cases same : other = intentId
    · subst same
      rw [AList.lookup_insert] at there
      cases there
      exact absurd success unsuccessful
    · rw [AList.lookup_insert_ne same] at there
      exact (foreign other same).trans (invariant.uncredited other intent there unsuccessful)
  · intro other absent
    by_cases same : other = intentId
    · subst same
      rw [AList.lookup_insert] at absent
      cases absent
    · rw [AList.lookup_insert_ne same] at absent
      exact (foreign other same).trans (invariant.unknown other absent)

end StoreInvariant

theorem activateIfDue_ok {now : Instant} {branchId : ObjectId}
    {wallet activated : Wallet}
    {session finish : Session WalletStore Bool}
    (unlimited : session.budget = none)
    (present : session.store.wallets.lookup branchId = some wallet)
    (ran : (activateIfDue now branchId wallet).run session = (.ok activated, finish)) :
    activated.balanceCentavos = wallet.balanceCentavos ∧ finish = { session with
          store :=
            { session.store with
              wallets := finish.store.wallets } } ∧
      (finish.store.wallets = session.store.wallets ∧ activated = wallet ∨
        finish.store.wallets = session.store.wallets.insert branchId activated) := by
  rw [activateIfDue] at ran
  split at ran
  · obtain ⟨store, acted, rfl⟩ := (run_query_ok unlimited).mp ran
    simp only [WalletStore.activate, present] at acted
    cases acted
    exact ⟨rfl, rfl, Or.inr rfl⟩
  · cases ran
    exact ⟨rfl, rfl, Or.inl ⟨rfl, rfl⟩⟩

/--
A run of the credit callback that succeeds either claims a pending intent,
raises the balance and appends the row, or finds no pending intent and only
notes it.
-/
theorem creditTopUp_ok {now : Instant} {intent : TopUpIntent}
    {event : VerifiedTopUpEvent} {store after : WalletStore}
    {posted posted' : Bool}
    (committed : (creditTopUp now intent event).commit store posted = (.ok (), after, posted')) :
    (∃ stored wallet credited, store.intents.lookup intent._id = some stored ∧
      stored.status = .pending ∧ store.wallets.lookup intent.branchId = some wallet ∧
      credited.balanceCentavos = wallet.balanceCentavos + intent.amountCentavos ∧
      after =
        { wallets := store.wallets.insert intent.branchId credited
          ledger := store.ledger ++
            [{ branchId := intent.branchId
               type := .topUp
               amountCentavos := intent.amountCentavos
               balanceAfterCentavos := credited.balanceCentavos
               xenditReference := some intent._id }]
          intents := store.intents.insert intent._id (claimIntent now event stored) }) ∨
    (after = store ∧ ∀ stored, store.intents.lookup intent._id = some stored →
        stored.status ≠ .pending) := by
  obtain ⟨finish, ran, rfl, -⟩ := commit_ok.mp committed
  rw [creditTopUp] at ran
  obtain ⟨claimed, first, ranClaim, ran⟩ := run_bind_ok.mp ran
  obtain ⟨claimStore, claim, rfl⟩ := (run_query_ok rfl).mp ranClaim
  simp only [WalletStore.resolvePending, Except.ok.injEq] at claim
  rcases found : store.intents.lookup intent._id with _ | stored
  · rw [found] at claim
    cases claim
    cases ran
    right
    exact ⟨rfl, fun stored there => by cases there⟩
  · rw [found] at claim
    by_cases pending : stored.status = .pending
    · simp only [pending, if_true, Prod.mk.injEq] at claim
      obtain ⟨rfl, rfl⟩ := claim
      simp only [if_true] at ran
      obtain ⟨raised, second, ranRaise, ran⟩ := run_bind_ok.mp ran
      obtain ⟨raiseStore, raise, rfl⟩ := (run_query_ok rfl).mp ranRaise
      simp only [WalletStore.incrementBalance] at raise
      rcases present : store.wallets.lookup intent.branchId with
        _ | wallet
      · rw [present] at raise
        cases raise
      · rw [present] at raise
        cases raise
        obtain ⟨credited, third, ranActivate, ran⟩ := run_bind_ok.mp ran
        obtain ⟨balance, shape, wallets⟩ := activateIfDue_ok rfl (by simp) ranActivate
        rw [shape] at ran
        obtain ⟨createStore, create, rfl⟩ := (run_query_ok rfl).mp ran
        rw [WalletStore.createLedgerEntry] at create
        split at create
        · cases create
        · cases create
          left
          refine ⟨stored, wallet, credited, rfl, pending, rfl, balance, ?_⟩
          rcases wallets with ⟨same, rfl⟩ | inserted
          · simp [same]
          · simp [inserted]
    · simp only [pending, if_false, Prod.mk.injEq] at claim
      obtain ⟨rfl, rfl⟩ := claim
      cases ran
      right
      exact ⟨rfl, fun other there => by cases there; exact pending⟩

/-! ## Intents only grow -/

/--
Intents are never deleted, keep their branch and amount, and a success is
final.
-/
def IntentsKept (before after : WalletStore) : Prop :=
  ∀ intentId intent, before.intents.lookup intentId = some intent →
    ∃ later, after.intents.lookup intentId = some later ∧
      later.branchId = intent.branchId ∧
      later.amountCentavos = intent.amountCentavos ∧
      (intent.status = .succeeded → later.status = .succeeded)

namespace IntentsKept

variable {store : WalletStore}

variable {after : WalletStore}

theorem same (intents : after.intents = store.intents) :
    IntentsKept store after := by
  intro intentId intent found
  exact ⟨intent, by rw [intents]; exact found, rfl, rfl, id⟩

theorem insert {intentId : ObjectId} {intent changed : TopUpIntent}
    (found : store.intents.lookup intentId = some intent)
    (intents : after.intents = store.intents.insert intentId changed)
    (branch : changed.branchId = intent.branchId)
    (amount : changed.amountCentavos = intent.amountCentavos)
    (success : intent.status = .succeeded → changed.status = .succeeded) :
    IntentsKept store after := by
  intro other present there
  rw [intents]
  by_cases equal : other = intentId
  · subst equal
    rw [found] at there
    cases there
    exact ⟨changed, AList.lookup_insert _, branch, amount, success⟩
  · exact ⟨present, by rw [AList.lookup_insert_ne equal]; exact there, rfl, rfl, id⟩

theorem create {intentId : ObjectId} {created : TopUpIntent}
    (unused : store.intents.lookup intentId = none)
    (intents : after.intents = store.intents.insert intentId created) :
    IntentsKept store after := by
  intro other present there
  have different : other ≠ intentId := by
    rintro rfl
    rw [unused] at there
    cases there
  exact ⟨present, by
    rw [intents, AList.lookup_insert_ne different]; exact there,
    rfl, rfl, id⟩

end IntentsKept

variable {store after : WalletStore}

theorem WalletStore.moveBalance_intents {branchId : ObjectId}
    {type : WalletLedgerEntryType} {amountCentavos : Int}
    {orderId : Option ObjectId}
    (moved : store.moveBalance branchId type amountCentavos orderId = .ok after) :
    after.intents = store.intents := by
  obtain ⟨wallet, -, rfl⟩ := WalletStore.moveBalance_ok.mp moved
  rfl

/-- Every change of the collections keeps the intents. -/
theorem StoreChange.kept {action : Action} {calls : List Call}
    {store after : WalletStore}
    (change : StoreChange action calls store after) :
    IntentsKept store after := by
  cases change with
  | none => exact .same rfl
  | createWallet branchId =>
    apply IntentsKept.same
    rw [WalletStore.createWallet]
    split <;> rfl
  | createIntent intentId branchId amountCentavos unused =>
    exact .create unused rfl
  | resolve intentId status now without =>
    rw [WalletStore.resolvePending]
    rcases found : store.intents.lookup intentId with _ | intent
    · exact .same rfl
    · by_cases pending : intent.status = .pending
      · simp only [pending, if_true]
        refine .insert found rfl rfl rfl ?_
        intro succeeded
        rw [pending] at succeeded
        cases succeeded
      · simp only [pending, if_false]
        exact .same rfl
  | recordInvoice intentId invoice =>
    rw [WalletStore.updateIntent]
    rcases found : store.intents.lookup intentId with _ | intent
    · exact .same rfl
    · exact .insert found rfl rfl rfl id
  | credit flying committed =>
    rcases creditTopUp_ok committed with
      ⟨stored, wallet, credited, found, pending, -, -, rfl⟩ | ⟨rfl, -⟩
    · exact .insert found rfl rfl rfl (fun _ => rfl)
    · exact .same rfl
  | consumeFee _ consumed =>
    exact .same (WalletStore.moveBalance_intents consumed)
  | reverseFee _ reversed =>
    rw [WalletStore.reverseFee] at reversed
    split at reversed
    · cases reversed
      exact .same rfl
    · exact .same (WalletStore.moveBalance_intents reversed)
  | adminAdjustBalance adjusted =>
    rw [WalletStore.adminAdjustBalance] at adjusted
    split at adjusted
    · cases adjusted
    · split at adjusted
      · cases adjusted
      · split at adjusted
        · cases adjusted
        · exact .same (WalletStore.moveBalance_intents adjusted)

/--
What a credit in flight has read is still true of what does not change: the
branch and the amount of its intent.
-/
def Reading (store : WalletStore) : Call → Prop
  | .credit intent _ _ =>
    ∃ stored, store.intents.lookup intent._id = some stored ∧
      stored.branchId = intent.branchId ∧
      stored.amountCentavos = intent.amountCentavos
  | _ => True

theorem Reading.kept {before after : WalletStore} {call : Call}
    (reading : Reading before call) (kept : IntentsKept before after) :
    Reading after call := by
  cases call with
  | credit intent event posted =>
    obtain ⟨stored, found, branch, amount⟩ := reading
    obtain ⟨later, there, branch', amount', -⟩ := kept intent._id stored found
    exact ⟨later, there, branch'.trans branch, amount'.trans amount⟩
  | _ => trivial

/-- The invariant of every reachable state. -/
structure Invariant (state : State) : Prop where
  store : StoreInvariant state.store
  reading : ∀ call ∈ state.calls, Reading state.store call

theorem StoreChange.invariant {action : Action} {calls : List Call}
    (change : StoreChange action calls store after)
    (invariant : StoreInvariant store)
    (reading : ∀ call ∈ calls, Reading store call) :
    StoreInvariant after := by
  cases change with
  | none => exact invariant
  | createWallet branchId => exact invariant.createWallet branchId
  | createIntent intentId branchId amountCentavos unused =>
    exact invariant.createIntent unused
  | resolve intentId status now without =>
    exact invariant.resolvePending intentId now without
  | recordInvoice intentId invoice =>
    exact invariant.updateIntent intentId invoice
  | credit flying committed =>
    rcases creditTopUp_ok committed with
      ⟨stored, wallet, credited, found, pending, present, raised, rfl⟩ | ⟨rfl, -⟩
    · obtain ⟨read, there, branch, amount⟩ := reading _ flying
      rw [found] at there
      cases there
      exact invariant.credit wallet credited _ found pending rfl rfl rfl
        rfl present raised rfl rfl rfl rfl branch.symm amount.symm
    · exact invariant
  | consumeFee _ consumed => exact invariant.consumeFee consumed
  | reverseFee _ reversed => exact invariant.reverseFee reversed
  | adminAdjustBalance adjusted =>
    exact invariant.adminAdjustBalance adjusted

theorem adminAdjustBalance_ledger {branchId : ObjectId} {deltaCentavos : Int}
    (adjusted : store.adminAdjustBalance branchId deltaCentavos = .ok after) :
    ∃ row, after.ledger = store.ledger ++ [row] ∧ row.orderId = none := by
  rw [WalletStore.adminAdjustBalance] at adjusted
  split at adjusted
  · cases adjusted
  · split at adjusted
    · cases adjusted
    · split at adjusted
      · cases adjusted
      · rcases WalletStore.moveBalance_ok.mp adjusted with ⟨_, _, rfl⟩
        exact ⟨_, rfl, rfl⟩

theorem StoreChange.ledger {action : Action} {calls : List Call}
    (change : StoreChange action calls store after)
    (aside : action.movesFee = false) :
    ∃ rows, after.ledger = store.ledger ++ rows ∧ ∀ row ∈ rows, row.orderId = Option.none := by
  have same : ∀ {other : WalletStore}, other.ledger = store.ledger →
      ∃ rows, other.ledger = store.ledger ++ rows ∧ ∀ row ∈ rows, row.orderId = Option.none :=
    fun equal => ⟨[], by simpa using equal, by simp⟩
  cases change with
  | none | createIntent => exact same rfl
  | createWallet branchId =>
    apply same
    rw [WalletStore.createWallet]
    split <;> rfl
  | resolve intentId status now without =>
    apply same
    rw [WalletStore.resolvePending]
    rcases store.intents.lookup intentId with _ | intent
    · rfl
    · simp only
      split <;> rfl
  | recordInvoice intentId invoice =>
    apply same
    rw [WalletStore.updateIntent]
    rcases store.intents.lookup intentId with _ | intent <;> rfl
  | credit flying committed =>
    rcases creditTopUp_ok committed with ⟨_, _, _, _, _, _, _, rfl⟩ | ⟨rfl, _⟩
    · exact ⟨_, rfl, by simp⟩
    · exact same rfl
  | consumeFee moves | reverseFee moves =>
    subst moves
    cases aside
  | adminAdjustBalance adjusted =>
    rcases adminAdjustBalance_ledger adjusted with ⟨row, equal, free⟩
    exact ⟨[row], equal, by simpa using free⟩

theorem Invariant.start : Invariant .start where
  store := .empty
  reading := fun _ member => by cases member

theorem Invariant.step {castToObjectId : String → Option ObjectId}
    {state after : State} {action : Action}
    (invariant : Invariant state)
    (stepped : step castToObjectId action state = some after) :
    Invariant after := by
  have effect := step_effect stepped
  have kept := effect.store.kept
  refine
    { store := effect.store.invariant invariant.store invariant.reading
      reading := ?_ }
  intro call member
  rcases effect.calls call member with old | new
  · exact (invariant.reading call old).kept kept
  · cases new with
    | read found same =>
      rw [same] at found
      have identity := invariant.store.identity _ _ found
      refine ⟨_, ?_, rfl, rfl⟩
      rw [same, identity]
      exact found
    | aborted posted' flying =>
      exact (invariant.reading _ flying).kept kept
    | _ => trivial

theorem Invariant.reached {castToObjectId : String → Option ObjectId}
    {admissible : State → Action → Prop} {state : State}
    (reached : (walletSystem castToObjectId).Reaches admissible .start state) :
    Invariant state :=
  reached.invariant Invariant .start (fun _ _ _ invariant _ stepped => invariant.step stepped)

/--
In every state that any interleaving of calls reaches, the ledger is the
wallet: balances, running balances and credited intents agree, and no intent is
credited twice.
-/
theorem walletLedgerIntegrity
    {castToObjectId : String → Option ObjectId} {state : State}
    (reached : (walletSystem castToObjectId).Reaches (fun _ _ => True) .start state) :
    Integrity state.store :=
  (Invariant.reached reached).store.integrity

/-- A payment that the gateway delivers twice, both deliveries racing. -/
def duplicateDelivery : List Action :=
  let branch : Branch :=
    { uid := "merchant"
      branchName := "Main"
      isActive := true
      isOnline := true
      allowsPayAtHandover := none }
  let event : VerifiedTopUpEvent :=
    { reference := "topup"
      amountCentavos := 150000
      currency := "PHP"
      gatewayInvoiceId := some "invoice" }
  let invoice : GatewayInvoice :=
    { gatewayInvoiceId := "invoice"
      invoiceUrl := "checkout"
      autoSucceeds := false }
  [ .initializeTopUp "branch" (some branch) 150000 "merchant",
    .createIntent 0 "topup",
    .gatewayAnswers 0 invoice,
    .recordInvoice 0,
    .postVerifiedTopUp "topup" event,
    .postVerifiedTopUp "topup" event,
    .readIntent 0,
    .readIntent 1,
    .abortCredit 1 2 10,
    .commitCredit 0 11,
    .commitCredit 1 12,
    .consumeFee "branch" 4000 "order",
    .report 1,
    .report 0 ]

/-- Two racing deliveries and a fee end in one credit and two rows. -/
theorem walletLedgerIntegrity_duplicateDelivery :
    ∃ state,
      (walletSystem some).perform duplicateDelivery .start = some state ∧
        state.store.ledger.length = 2 ∧ Integrity state.store := by
  have performed :
      ((walletSystem some).perform duplicateDelivery .start).map
        (fun state => state.store.ledger.length) = some 2 := by
    decide +kernel
  obtain ⟨state, reached, length⟩ := Option.map_eq_some_iff.mp performed
  exact ⟨state, reached, length, walletLedgerIntegrity (System.reaches_of_perform reached)⟩

end Lalaba.Wallets
