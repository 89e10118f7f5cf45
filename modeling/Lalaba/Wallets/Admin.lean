import Lalaba.Wallets.Settlement

/-!
# Money that never reached a wallet

The back office can ask for the top-ups that the gateway has settled and the ledger has
not.  The top-ups are read first and the ledger afterwards, and the page is always empty:
also when a payment was lost.
-/

namespace Lalaba.Wallets

open Foundation

inductive WalletProviderType where
  | MERCHANT
  | WASHER

/-- The schema gives both numbers a default. -/
structure AdminTopUpFilterInput where
  branchId : Option ObjectId := none
  status : Option TopUpIntentStatus := none
  unreconciledOnly : Bool := false
  limit : ℕ := 25
  offset : ℕ := 0

structure AdminTopUpRow where
  intent : TopUpIntent
  providerName : String
  providerType : WalletProviderType
  hasLedgerCredit : Bool

def AdminTopUpFilterInput.query (filter : AdminTopUpFilterInput) (intent : TopUpIntent) : Bool :=
  (filter.branchId.filter (· ≠ "")).all (intent.branchId = ·) &&
    if filter.unreconciledOnly then decide (intent.status = .succeeded)
    else filter.status.all (intent.status = ·)

/-- `listTopUps`, on the intents that the database has found, in its order. -/
def listTopUps (filter : AdminTopUpFilterInput) (matched : List TopUpIntent)
    (ledger : List WalletLedgerEntry)
    (providers : ObjectId → Option (String × WalletProviderType)) :
    List AdminTopUpRow × ℕ :=
  let credited := (ledger.filterMap WalletLedgerEntry.xenditReference).filter
    (· ∈ matched.map TopUpIntent._id)
  let rows := (matched.map fun intent =>
      let provider := providers intent.branchId
      { intent
        providerName :=
          (provider.map Prod.fst).getD ("Unknown provider (" ++ intent.branchId ++ ")")
        providerType := (provider.map Prod.snd).getD .MERCHANT
        hasLedgerCredit := intent._id ∈ credited : AdminTopUpRow }).filter
    fun row => !filter.unreconciledOnly || !row.hasLedgerCredit
  ((rows.drop filter.offset).take filter.limit, rows.length)

def Found (filter : AdminTopUpFilterInput) (store : WalletStore)
    (matched : List TopUpIntent) : Prop :=
  ∀ intent ∈ matched, store.intents.lookup intent._id = some intent ∧ filter.query intent = true

theorem settled_of_reaches {castToObjectId : String → Option ObjectId} {state later : State}
    {intentId : ObjectId} (invariant : Invariant state) (settled : Settled state.store intentId)
    (continues : (walletSystem castToObjectId).Reaches (fun _ _ => True) state later) :
    Settled later.store intentId := by
  have both : Invariant later ∧ Settled later.store intentId := by
    apply continues.invariant fun later => Invariant later ∧ Settled later.store intentId
    · exact ⟨invariant, settled⟩
    · rintro state action after ⟨invariant, settled⟩ _ stepped
      have next := invariant.step stepped
      exact ⟨next, settled.kept (step_effect stepped).store.kept next.store⟩
  exact both.2

/--
In every run the page of what the gateway has settled and the ledger has not is empty,
whatever calls come between reading the top-ups and reading the ledger.
-/
theorem unreconciledPageIsEmpty {castToObjectId : String → Option ObjectId}
    {state later : State} {filter : AdminTopUpFilterInput} {matched : List TopUpIntent}
    {providers : ObjectId → Option (String × WalletProviderType)}
    (reached : (walletSystem castToObjectId).Reaches (fun _ _ => True) .start state)
    (continues : (walletSystem castToObjectId).Reaches (fun _ _ => True) state later)
    (found : Found filter state.store matched) (only : filter.unreconciledOnly = true) :
    listTopUps filter matched later.store.ledger providers = ([], 0) := by
  have invariant := Invariant.reached reached
  have none : ∀ intent ∈ matched, intent._id ∈ (later.store.ledger.filterMap
      WalletLedgerEntry.xenditReference).filter (· ∈ matched.map TopUpIntent._id) := by
    intro intent member
    rcases found intent member with ⟨stored, queried⟩
    rw [AdminTopUpFilterInput.query, if_pos only, Bool.and_eq_true, decide_eq_true_eq] at queried
    rcases settled_of_reaches invariant (invariant.store.settled stored queried.2)
      continues with ⟨_, _, _, row, there, _, reference⟩
    exact List.mem_filter.mpr ⟨List.mem_filterMap.mpr ⟨row, there, reference⟩,
      decide_eq_true (List.mem_map_of_mem member)⟩
  have rows : ∀ rows : List AdminTopUpRow, rows = [] →
      ((rows.drop filter.offset).take filter.limit, rows.length) = ([], 0) := by
    rintro _ rfl
    simp
  refine rows _ (List.filter_eq_nil_iff.mpr fun row member => ?_)
  rcases List.mem_map.mp member with ⟨intent, there, rfl⟩
  simp only [only, none intent there, decide_true]
  decide

/-- A payment is acknowledged and lost, and the page is empty. -/
theorem unreconciledPageIsEmpty_lost :
    ∃ state : State, state.acknowledged = ["topup"] ∧ state.store.ledger = [] ∧
      ∀ matched, Found { unreconciledOnly := true } state.store matched →
        listTopUps { unreconciledOnly := true } matched state.store.ledger (fun _ => none) =
          ([], 0) := by
  have performed : ((walletSystem some).perform expiryBetweenReadAndClaim .start).map
      (fun state => (state.acknowledged, state.store.ledger)) = some (["topup"], []) := by
    decide +kernel
  rcases System.reaches_of_map performed with ⟨state, reached, seen⟩
  rcases Prod.mk.inj seen with ⟨acknowledged, ledger⟩
  exact ⟨state, acknowledged, ledger, fun matched found =>
    unreconciledPageIsEmpty reached .refl found rfl⟩

end Lalaba.Wallets
