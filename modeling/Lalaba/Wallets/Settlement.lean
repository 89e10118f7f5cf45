import Lalaba.Wallets.Integrity

/-!
# Acknowledged payments

A normal return of `postVerifiedTopUp` tells the gateway to stop retrying.  The
claim inside its transaction comes back empty when another delivery was faster,
and also when the intent has meanwhile expired or failed; the callback takes
both for the first.  Unless the second happens, every acknowledged payment is on
the ledger.
-/

namespace Lalaba.Wallets

open Foundation
open Foundation.Program

def Settled (store : WalletStore) (intentId : ObjectId) : Prop :=
  ∃ intent, store.intents.lookup intentId = some intent ∧
    intent.status = .succeeded ∧
    ∃ row ∈ store.ledger, row.type = .topUp ∧ row.xenditReference = some intentId

def NoAcknowledgedPaymentLost (state : State) : Prop :=
  ∀ intentId ∈ state.acknowledged, Settled state.store intentId

/--
Does the step run the credit callback to its end while the stored intent has
been resolved without a credit?
-/
def claimsResolvedIntent (state : State) : Action → Bool
  | .commitCredit index _ =>
    match state.calls[index]? with
    | some (.credit intent _ _) =>
      match state.store.intents.lookup intent._id with
      | some stored =>
        stored.status = .expired ∨ stored.status = .failed
      | none => false
    | _ => false
  | _ => false

variable {store : WalletStore} {intent : TopUpIntent}

theorem StoreInvariant.settled (invariant : StoreInvariant store)
    {intentId : ObjectId} (found : store.intents.lookup intentId = some intent)
    (success : intent.status = .succeeded) :
    Settled store intentId := by
  obtain ⟨row, credits, -, -⟩ := invariant.succeeded intentId intent found success
  rw [invariant.identity intentId intent found] at credits
  have member : row ∈ creditsOf intentId store.ledger := by simp [credits]
  obtain ⟨there, credit⟩ := List.mem_filter.mp member
  obtain ⟨topUp, reference⟩ := of_decide_eq_true credit
  exact ⟨intent, found, success, row, there, topUp, reference⟩

theorem Settled.kept {before after : WalletStore} {intentId : ObjectId}
    (settled : Settled before intentId)
    (kept : IntentsKept before after)
    (invariant : StoreInvariant after) :
    Settled after intentId := by
  obtain ⟨intent, found, success, -⟩ := settled
  obtain ⟨later, there, -, -, successful⟩ := kept intentId intent found
  exact invariant.settled there (successful success)

/--
A credit that commits leaves the intent settled, unless it found the intent
resolved without a credit.
-/
theorem settled_of_committed {now : Instant} {event : VerifiedTopUpEvent}
    {after : WalletStore} {posted posted' : Bool}
    (reading : Reading store (.credit intent event posted))
    (invariant : StoreInvariant after) (unresolved : ∀ stored,
      store.intents.lookup intent._id = some stored →
        ¬ (stored.status = .expired ∨ stored.status = .failed))
    (committed : (creditTopUp now intent event).commit store posted = (.ok (), after, posted')) :
    Settled after intent._id := by
  rcases creditTopUp_ok committed with ⟨stored, wallet, credited, -, -, -, -, rfl⟩ | ⟨rfl, finished⟩
  · exact invariant.settled (AList.lookup_insert _) rfl
  · obtain ⟨stored, found, -, -⟩ := reading
    have pending := finished stored found
    have open' := unresolved stored found
    have success : stored.status = .succeeded := by
      rcases status : stored.status <;> simp_all
    exact invariant.settled found success

/-- A pending intent has no row, so the unique index never refuses it. -/
theorem creditTopUp_not_duplicate {now : Instant} {event : VerifiedTopUpEvent}
    {rolledBack : WalletStore} {posted posted' : Bool} {indexName : String}
    (invariant : StoreInvariant store) :
    (creditTopUp now intent event).commit store posted ≠
      (.error (.thrown (.duplicateKey indexName)), rolledBack, posted') := by
  intro refused
  rcases found : store.intents.lookup intent._id with _ | stored
  · simp [creditTopUp, commit, runOnce, run, bind_eq, andThen, query, call,
      WalletStore.resolvePending, found, Except.map, edit] at refused
  by_cases pending : stored.status = .pending
  · have uncredited : creditsOf intent._id store.ledger = [] := by
      apply invariant.uncredited intent._id stored found
      rw [pending]
      exact fun equal => by cases equal
    have unreferenced : ¬ ∃ row, row ∈ store.ledger ∧
        row.branchId = intent.branchId ∧
        row.xenditReference = some intent._id := by
      rintro ⟨row, member, -, reference⟩
      have topUp := invariant.references row member (by simp [reference])
      have credit : row ∈ creditsOf intent._id store.ledger :=
        List.mem_filter.mpr ⟨member, by simp [topUp, reference]⟩
      rw [uncredited] at credit
      cases credit
    rcases present : store.wallets.lookup intent.branchId with _ | wallet
    · simp [creditTopUp, commit, runOnce, run, bind_eq, andThen, query,
        call, WalletStore.resolvePending, found, pending, Except.map,
        WalletStore.incrementBalance, present, walletNotFound] at refused
    · by_cases due : wallet.activatedAt = none ∧
          ACTIVATION_MIN_CENTAVOS ≤ wallet.balanceCentavos + intent.amountCentavos
      · simp [creditTopUp, activateIfDue, commit, runOnce, run, bind_eq,
          andThen, query, call, WalletStore.resolvePending, found, pending,
          Except.map, WalletStore.incrementBalance, present, due,
          WalletStore.activate, WalletStore.createLedgerEntry,
          WalletStore.referenced, unreferenced] at refused
      · simp [creditTopUp, activateIfDue, commit, runOnce, run, bind_eq,
          pure_eq, skip, andThen, query, call, WalletStore.resolvePending,
          found, pending, Except.map, WalletStore.incrementBalance,
          present, due, WalletStore.createLedgerEntry,
          WalletStore.referenced, unreferenced] at refused
  · simp [creditTopUp, commit, runOnce, run, bind_eq, andThen, query, call,
      WalletStore.resolvePending, found, pending, Except.map, edit]
      at refused

/-- Whatever is about to be acknowledged, or has been, is settled. -/
structure SettledReports (state : State) : Prop where
  reports : ∀ intentId posted,
    Call.report intentId posted ∈ state.calls → Settled state.store intentId
  acknowledged : NoAcknowledgedPaymentLost state

theorem SettledReports.start : SettledReports .start where
  reports := fun _ _ member => by cases member
  acknowledged := fun _ member => by cases member

theorem SettledReports.step
    {castToObjectId : String → Option ObjectId}
    {state after : State} {action : Action}
    (settled : SettledReports state) (invariant : Invariant state)
    (claims : claimsResolvedIntent state action = false)
    (stepped : Wallets.step castToObjectId action state = some after) :
    SettledReports after := by
  have effect := step_effect stepped
  have kept := effect.store.kept
  have next := invariant.step stepped
  constructor
  · intro intentId posted member
    rcases effect.calls _ member with old | new
    · exact (settled.reports intentId posted old).kept kept next.store
    · cases new with
      | committed flying committed =>
        refine settled_of_committed
          (invariant.reading _ (List.mem_of_getElem? flying))
          next.store ?_ committed
        intro stored found resolved
        simp only [claimsResolvedIntent, flying, found, decide_eq_false_iff_not] at claims
        exact claims resolved
      | duplicate flying refused same =>
        exact absurd refused (creditTopUp_not_duplicate invariant.store)
  · intro intentId member
    rcases effect.acknowledged intentId member with old | ⟨new, same⟩
    · exact (settled.acknowledged intentId old).kept kept next.store
    · rw [same]
      cases new with
      | reported posted flying =>
        exact settled.reports intentId posted flying
      | succeeded found identity success =>
        have key := invariant.store.identity _ _ found
        rw [← identity, key]
        exact invariant.store.settled found success

/--
In every run in which no delivery claims an intent that has been resolved
without a credit, every acknowledged payment is settled.
-/
theorem acknowledgedPaymentsAreSettled
    {castToObjectId : String → Option ObjectId} {state : State}
    (reached : (walletSystem castToObjectId).Reaches
      (fun state action => claimsResolvedIntent state action = false) .start state) :
    NoAcknowledgedPaymentLost state := by
  have both : Invariant state ∧ SettledReports state := by
    apply reached.invariant (fun state => Invariant state ∧ SettledReports state)
    · exact ⟨.start, .start⟩
    · rintro state action after ⟨invariant, settled⟩ claims stepped
      exact ⟨invariant.step stepped, settled.step invariant claims stepped⟩
  exact both.2.acknowledged

/-- Two racing deliveries of one payment are both acknowledged. -/
theorem acknowledgedPaymentsAreSettled_duplicateDelivery :
    ∃ state,
      (walletSystem some).perform duplicateDelivery .start = some state ∧
        state.acknowledged = ["topup", "topup"] ∧
        NoAcknowledgedPaymentLost state := by
  have performed : ((walletSystem some).restrict fun state action =>
          claimsResolvedIntent state action = false).perform
        duplicateDelivery .start =
      (walletSystem some).perform duplicateDelivery .start := by
    rfl
  have acknowledged :
      ((walletSystem some).perform duplicateDelivery .start).map
        State.acknowledged = some ["topup", "topup"] := by
    decide +kernel
  obtain ⟨state, reached, both⟩ := Option.map_eq_some_iff.mp acknowledged
  exact ⟨state, reached, both, acknowledgedPaymentsAreSettled
    (System.reaches_of_perform_restrict (performed.trans reached))⟩

/--
A payment that arrives while the gateway's expiry callback runs: the delivery
reads the intent while it is pending and claims it once it has expired.
-/
def expiryBetweenReadAndClaim : List Action :=
  let branch : Branch :=
    { uid := "merchant"
      branchName := "Main"
      isActive := true
      isOnline := true
      allowsPayAtHandover := none }
  let event : VerifiedTopUpEvent :=
    { reference := "topup"
      amountCentavos := 150000
      currency := "PHP"
      gatewayInvoiceId := some "invoice" }
  let invoice : GatewayInvoice :=
    { gatewayInvoiceId := "invoice"
      invoiceUrl := "checkout"
      autoSucceeds := false }
  [ .initializeTopUp "branch" (some branch) 150000 "merchant",
    .createIntent 0 "topup",
    .gatewayAnswers 0 invoice,
    .recordInvoice 0,
    .postVerifiedTopUp "topup" event,
    .readIntent 0,
    .resolveIntentWithoutCredit "topup" .expired 10,
    .commitCredit 0 11,
    .report 0 ]

/-- The delivery is acknowledged and the wallet is not credited. -/
theorem acknowledgedPaymentLost :
    ¬ ∀ state,
      (walletSystem some).Reaches (fun _ _ => True) .start state →
        NoAcknowledgedPaymentLost state := by
  intro claimed
  have performed :
      ((walletSystem some).perform expiryBetweenReadAndClaim .start).map
        (fun state => (state.acknowledged,
          (state.store.intents.lookup "topup").map TopUpIntent.status)) =
        some (["topup"], some .expired) := by
    decide +kernel
  obtain ⟨state, reached, seen⟩ := Option.map_eq_some_iff.mp performed
  simp only [Prod.mk.injEq] at seen
  obtain ⟨acknowledged, status⟩ := seen
  obtain ⟨intent, found, success, -⟩ :=
    claimed state (System.reaches_of_perform reached) "topup" (by simp [acknowledged])
  rw [found] at status
  simp [success] at status

end Lalaba.Wallets
