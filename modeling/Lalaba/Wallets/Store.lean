import Lalaba.Common
import Lalaba.Foundation.Program

/-!
# Wallets, their ledger and top-up intents

The three collections of the wallet service and the database calls it makes on
them.  A ledger row is only ever appended, and the partial unique index on
`(branchId, xenditReference)` refuses a second row for one reference.
-/

namespace Lalaba.Wallets

open Foundation

/-- A branch's prepaid balance. -/
structure Wallet where
  branchId : ObjectId
  balanceCentavos : Int
  activatedAt : Option Instant
deriving DecidableEq

/-- What moved the balance. -/
inductive WalletLedgerEntryType where
  | topUp
  | feeConsumption
  | feeReversal
  | adminAdjustment
deriving DecidableEq

/-- One balance change. -/
structure WalletLedgerEntry where
  branchId : ObjectId
  type : WalletLedgerEntryType
  amountCentavos : Int
  balanceAfterCentavos : Int
  orderId : Option ObjectId := none
  xenditReference : Option ObjectId := none
deriving DecidableEq

/-- Where a top-up attempt stands. -/
inductive TopUpIntentStatus where
  | pending
  | succeeded
  | failed
  | expired
deriving DecidableEq

/-- A top-up attempt. -/
structure TopUpIntent where
  _id : ObjectId
  branchId : ObjectId
  amountCentavos : Int
  status : TopUpIntentStatus
  xenditInvoiceId : Option String := none
  invoiceUrl : Option String := none
  resolvedAt : Option Instant := none
deriving DecidableEq

/-- The wallet service's collections. -/
structure WalletStore where
  wallets : Collection Wallet
  ledger : List WalletLedgerEntry
  intents : Collection TopUpIntent
deriving DecidableEq

def WalletStore.empty : WalletStore := { wallets := ∅, ledger := [], intents := ∅ }

def ACTIVATION_MIN_CENTAVOS : Int := 100000

def DISCOVERY_ACCEPT_MIN_CENTAVOS : Int := 10000

def MAX_TOPUP_CENTAVOS : Int := 1000000000

def walletNotFound : ServiceError := .notFound "Wallet not found for this branch"

namespace WalletStore

def createWallet (branchId : ObjectId) (store : WalletStore) :
    WalletStore :=
  match store.wallets.lookup branchId with
  | some _ => store
  | none =>
    { store with
      wallets := store.wallets.insert branchId
        { branchId, balanceCentavos := 0, activatedAt := none } }

/-- `$inc` the balance and return the new row, or `none` without a wallet. -/
def incrementBalance (branchId : ObjectId) (amountCentavos : Int)
    (store : WalletStore) : Option Wallet × WalletStore :=
  match store.wallets.lookup branchId with
  | none => (none, store)
  | some wallet =>
    let updated :=
      { wallet with
        balanceCentavos := wallet.balanceCentavos + amountCentavos }
    (some updated, { store with wallets := store.wallets.insert branchId updated })

def activate (now : Instant) (branchId : ObjectId)
    (store : WalletStore) : Option Wallet × WalletStore :=
  match store.wallets.lookup branchId with
  | none => (none, store)
  | some wallet =>
    let updated := { wallet with activatedAt := some now }
    (some updated, { store with wallets := store.wallets.insert branchId updated })

def referenced (branchId : ObjectId) (reference : Option ObjectId)
    (store : WalletStore) : Bool :=
  reference.isSome && store.ledger.any fun row =>
      row.branchId == branchId && row.xenditReference == reference

def createLedgerEntry (row : WalletLedgerEntry) (store : WalletStore) :
    Except ServiceError WalletStore :=
  if store.referenced row.branchId row.xenditReference then
    .error (.duplicateKey "branchId_1_xenditReference_1")
  else
    .ok { store with ledger := store.ledger ++ [row] }

def updateIntent (intentId : ObjectId)
    (change : TopUpIntent → TopUpIntent) (store : WalletStore) :
    WalletStore :=
  match store.intents.lookup intentId with
  | none => store
  | some intent =>
    { store with
      intents := store.intents.insert intentId (change intent) }

def resolvePending (intentId : ObjectId)
    (change : TopUpIntent → TopUpIntent) (store : WalletStore) :
    Bool × WalletStore :=
  match store.intents.lookup intentId with
  | none => (false, store)
  | some intent =>
    if intent.status = .pending then
      (true, { store with
          intents := store.intents.insert intentId (change intent) })
    else
      (false, store)

/--
Move a balance and append the row that records it: the shape every mutating
path of the service has.
-/
def moveBalance (branchId : ObjectId) (type : WalletLedgerEntryType)
    (amountCentavos : Int) (orderId : Option ObjectId)
    (store : WalletStore) : Except ServiceError WalletStore :=
  match store.incrementBalance branchId amountCentavos with
  | (none, _) => .error walletNotFound
  | (some updated, after) =>
    after.createLedgerEntry
      { branchId, type, amountCentavos, orderId
        balanceAfterCentavos := updated.balanceCentavos }

def consumeFee (branchId : ObjectId) (amountCentavos : Int)
    (orderId : ObjectId) (store : WalletStore) :
    Except ServiceError WalletStore :=
  store.moveBalance branchId .feeConsumption (-amountCentavos) (some orderId)

def reverseFee (branchId : ObjectId) (amountCentavos : Int)
    (orderId : ObjectId) (store : WalletStore) :
    Except ServiceError WalletStore :=
  if amountCentavos ≤ 0 then
    .ok store
  else
    store.moveBalance branchId .feeReversal amountCentavos (some orderId)

/-- A support correction, which may not leave the balance negative. -/
def adminAdjustBalance (branchId : ObjectId) (deltaCentavos : Int)
    (store : WalletStore) : Except ServiceError WalletStore :=
  if deltaCentavos = 0 then
    .error (.badRequest "Adjustment amount must be a non-zero whole number of centavos")
  else
    match store.wallets.lookup branchId with
    | none => .error walletNotFound
    | some existing =>
      if existing.balanceCentavos + deltaCentavos < 0 then
        .error (.badRequest "Adjustment would leave the wallet balance negative")
      else
        store.moveBalance branchId .adminAdjustment deltaCentavos none

def hasSufficientBalance (branchId : ObjectId)
    (estimatedFeeCentavos : Int) (store : WalletStore) : Bool :=
  match store.wallets.lookup branchId with
  | none => false
  | some wallet => decide (estimatedFeeCentavos ≤ wallet.balanceCentavos)

/-- The acceptance gate of `WalletAcceptanceGuardService`. -/
def assertCanAcceptOrder (branchId : ObjectId)
    (estimatedFeeCentavos : Int) (store : WalletStore) :
    Except ServiceError Unit :=
  let wallet := store.wallets.lookup branchId
  let balance := (wallet.map Wallet.balanceCentavos).getD 0
  if balance < 0 then
    .error (.badRequest "Wallet balance is negative. Top up before accepting new orders.")
  else if wallet.isNone || decide (balance < estimatedFeeCentavos) then
    .error (.badRequest "Insufficient wallet balance to cover this order's platform fee.")
  else
    .ok ()

theorem moveBalance_ok {branchId : ObjectId}
    {type : WalletLedgerEntryType} {amountCentavos : Int}
    {orderId : Option ObjectId} {store after : WalletStore} :
    store.moveBalance branchId type amountCentavos orderId = .ok after ↔
      ∃ wallet, store.wallets.lookup branchId = some wallet ∧ after = { store with
            wallets := store.wallets.insert branchId { wallet with
                balanceCentavos := wallet.balanceCentavos + amountCentavos }
            ledger := store.ledger ++
              [{ branchId, type, amountCentavos, orderId
                 balanceAfterCentavos := wallet.balanceCentavos + amountCentavos }] } := by
  rw [moveBalance, incrementBalance]
  rcases found : store.wallets.lookup branchId with _ | wallet
  · simp
  · simp only [createLedgerEntry, referenced, Option.isSome_none,
      Bool.false_and, Bool.false_eq_true, if_false, Option.some.injEq, exists_eq_left']
    constructor
    · intro equal
      cases equal
      rfl
    · rintro rfl
      rfl

end WalletStore

end Lalaba.Wallets
