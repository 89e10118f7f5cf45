import Lalaba.Foundation.Run
import Lalaba.Orders.Callbacks
import Mathlib.Data.List.MinMax
import Mathlib.Data.List.Sort
import Mathlib.Data.List.SplitOn

/-!
# Versions of the platform fee rules

The rules of the platform fee are kept as versions: an edit, and switching a rule
on or off, publish the next version of the same key.  Each version has a window
in which it takes effect, and an administrator dates it as she likes.  Pricing
asks which version is in force for a payer and a category at an instant.
-/

namespace Lalaba.Fees

open Foundation
open Orders (roundCentavos trimmed)

/-! ## Rules -/

inductive FeePayerRole where
  | customer
  | homeWasher
  | laundromat
  | courier
deriving DecidableEq

def FeePayerRole.text : FeePayerRole → String
  | .customer => "customer"
  | .homeWasher => "washer"
  | .laundromat => "merchant"
  | .courier => "courier"

inductive FeeCategory where
  | commission
  | bookingFee
  | surcharge
  | activationMinimum
  | acceptMinimum
  | other
deriving DecidableEq

inductive FeeCalculationType where
  | fixed
  | percentage
  | fixedPlusPercentage
deriving DecidableEq

inductive FeeChargedTo where
  | customer
  | provider
  | split
deriving DecidableEq

inductive FeeTaxTreatment where
  | taxInclusive
  | taxExclusive
deriving DecidableEq

/-- The terms of a fee, as an administrator states them. -/
structure SavePlatformFeeRuleInput where
  name : String
  appliesTo : FeePayerRole
  category : FeeCategory
  calculationType : FeeCalculationType
  percent : Option ℚ≥0 := none
  fixedAmountCentavos : Option ℕ := none
  minFeeCentavos : Option ℕ := none
  maxFeeCentavos : Option ℕ := none
  chargedTo : FeeChargedTo
  customerSharePercent : Option ℚ≥0 := none
  providerSharePercent : Option ℚ≥0 := none
  taxTreatment : FeeTaxTreatment := .taxInclusive
  applyVat : Bool := false
  vatRatePercent : Option ℚ≥0 := none
  isActive : Bool
  effectiveFrom : Instant
  effectiveUntil : Option Instant := none
  changeReason : Option String := none
deriving DecidableEq

/-- One version of a rule. -/
structure PlatformFeeRule extends SavePlatformFeeRuleInput where
  ruleKey : String
  version : ℕ
  supersededByVersion : Option ℕ
  setByUid : Uid
  setByName : Option String
deriving DecidableEq

/-- The versions, in the order they were published. -/
structure FeeRuleStore where
  rules : List PlatformFeeRule

/-! ## Checks -/

/-- `toLowerCase`, as far as it yields letters that a slug keeps. -/
def lowered (character : Char) : List Char :=
  if character.toNat = 0x212A then
    ['k']
  else if character.toNat = 0x130 then
    ['i', Char.ofNat 0x307]
  else
    [character.toLower]

def slugKeeps (character : Char) : Bool := ('a' ≤ character && character ≤ 'z') || character.isDigit

/-- `feeRuleKeyFor`: the kept words of the name and the payer, by dashes. -/
def feeRuleKeyFor (name : String) (appliesTo : FeePayerRole) : String :=
  let words := ((name.toList.flatMap lowered).splitOnP fun character =>
    !slugKeeps character).filter fun word => word ≠ []
  let slug := "-".intercalate (words.map String.ofList)
  (if slug = "" then "fee" else slug) ++ "-" ++ appliesTo.text

def isMissing {Amount : Type} [Zero Amount] [DecidableEq Amount]
    (amount : Option Amount) : Bool :=
  amount.all fun value => value = 0

/-- The two shares of a split fee. -/
def validateShares (draft : SavePlatformFeeRuleInput) :
    Except ServiceError Unit :=
  match draft.chargedTo, draft.customerSharePercent, draft.providerSharePercent with
  | .split, some customer, some provider =>
    if roundCentavos (customer + provider) ≠ 100 then
      .error (.badRequest "Allocation must total 100%.")
    else
      .ok ()
  | .split, _, _ =>
    .error (.badRequest "A split fee needs both a customer share and a provider share.")
  | _, none, none => .ok ()
  | _, _, _ =>
    .error (.badRequest ("Shares only apply to a fee split between the " ++
      "customer and the provider."))

/-- A percentage and an amount are given where the fee has them. -/
def validateAmounts (draft : SavePlatformFeeRuleInput) :
    Except ServiceError Unit :=
  let needsPercent := draft.calculationType ≠ .fixed
  let needsFixed := draft.calculationType ≠ .percentage
  if needsPercent ∧ isMissing draft.percent then
    .error (.badRequest "A percentage fee needs a percentage greater than 0.")
  else if needsFixed ∧ isMissing draft.fixedAmountCentavos then
    .error (.badRequest "A fixed fee needs an amount greater than ₱0.")
  else if ¬ needsPercent ∧ draft.percent ≠ none then
    .error (.badRequest "This fee is a fixed amount — clear the percentage.")
  else if ¬ needsFixed ∧ draft.fixedAmountCentavos ≠ none then
    .error (.badRequest "This fee is a percentage — clear the fixed amount.")
  else if draft.minFeeCentavos.any fun minimum =>
      draft.maxFeeCentavos.any fun maximum => maximum < minimum then
    .error (.badRequest "Maximum fee must be greater than the minimum fee.")
  else
    .ok ()

def validateTerms (draft : SavePlatformFeeRuleInput) :
    Except ServiceError Unit :=
  if draft.applyVat ∧ isMissing draft.vatRatePercent then
    .error (.badRequest "Applying VAT needs a VAT rate.")
  else if draft.effectiveUntil.any fun finish =>
      finish ≤ draft.effectiveFrom then
    .error (.badRequest "The end date must be after the start date.")
  else if trimmed draft.name = "" then
    .error (.badRequest "A fee rule needs a name.")
  else
    .ok ()

/-- `validateRule`: the first problem of a draft. -/
def validateRule (draft : SavePlatformFeeRuleInput) :
    Except ServiceError Unit := do
  validateAmounts draft
  validateShares draft
  validateTerms draft

theorem validateRule_ok {draft : SavePlatformFeeRuleInput}
    (accepted : validateRule draft = .ok ()) :
    validateAmounts draft = .ok () ∧ validateShares draft = .ok () ∧
      validateTerms draft = .ok () := by
  rw [validateRule] at accepted
  rcases amounts : validateAmounts draft with _ | _
  · rw [amounts] at accepted
    cases accepted
  · rcases shares : validateShares draft with _ | _
    · rw [amounts, shares] at accepted
      cases accepted
    · rw [amounts, shares] at accepted
      exact ⟨rfl, rfl, accepted⟩

/-! ## Publishing -/

def assertSameRule (input : SavePlatformFeeRuleInput)
    (current : PlatformFeeRule) : Except ServiceError Unit :=
  if input.appliesTo ≠ current.appliesTo then
    .error (.badRequest ("A fee rule cannot change who it applies to. " ++
      "Create a separate rule for the other payer."))
  else if input.category ≠ current.category then
    .error (.badRequest ("A fee rule cannot change category. Create a " ++
      "separate rule instead."))
  else
    .ok ()

namespace FeeRuleStore

def versionsOf (ruleKey : String) (store : FeeRuleStore) :
    List PlatformFeeRule :=
  store.rules.filter fun rule => rule.ruleKey == ruleKey

def newestVersion (ruleKey : String) (store : FeeRuleStore) :
    Except ServiceError PlatformFeeRule :=
  match (store.versionsOf ruleKey).argmax PlatformFeeRule.version with
  | none => .error (.notFound "No fee rule with that key.")
  | some current => .ok current

def assertUnnamed (name ruleKey : String) (store : FeeRuleStore) :
    Except ServiceError Unit :=
  if store.rules.any fun rule => rule.ruleKey == ruleKey then
    .error (.badRequest ("A fee named \"" ++ name ++
      "\" already exists for this payer. Edit it instead — editing " ++
      "publishes a new version and keeps the history."))
  else
    .ok ()

def insertRule (rule : PlatformFeeRule) (store : FeeRuleStore) :
    Except ServiceError FeeRuleStore :=
  if store.rules.any fun other =>
      other.ruleKey == rule.ruleKey && other.version == rule.version then
    .error (.duplicateKey "ruleKey_1_version_-1")
  else
    .ok { rules := store.rules ++ [rule] }

def supersede (rule : PlatformFeeRule) (nextVersion : ℕ) (store : FeeRuleStore) : FeeRuleStore where
  rules := store.rules.map fun other =>
    if other.ruleKey = rule.ruleKey ∧ other.version = rule.version then
      { other with supersededByVersion := some nextVersion }
    else
      other

def createRule (input : SavePlatformFeeRuleInput) (adminUid : Uid)
    (adminName : Option String) (store : FeeRuleStore) :
    Except ServiceError FeeRuleStore := do
  validateRule input
  let ruleKey := feeRuleKeyFor input.name input.appliesTo
  store.assertUnnamed input.name ruleKey
  store.insertRule { input with
      ruleKey
      version := 1
      supersededByVersion := none
      setByUid := adminUid
      setByName := adminName }

def updateRule (ruleKey : String) (input : SavePlatformFeeRuleInput)
    (adminUid : Uid) (adminName : Option String) (store : FeeRuleStore) :
    Except ServiceError FeeRuleStore := do
  validateRule input
  let current ← store.newestVersion ruleKey
  assertSameRule input current
  let nextVersion := current.version + 1
  let published ← store.insertRule { input with
      ruleKey
      version := nextVersion
      supersededByVersion := none
      setByUid := adminUid
      setByName := adminName }
  return published.supersede current nextVersion

def setRuleActive (now : Instant) (ruleKey : String) (isActive : Bool)
    (adminUid : Uid) (adminName changeReason : Option String)
    (store : FeeRuleStore) : Except ServiceError FeeRuleStore := do
  let current ← store.newestVersion ruleKey
  store.updateRule current.ruleKey { current.toSavePlatformFeeRuleInput with
      isActive
      effectiveFrom := now
      changeReason :=
        some (changeReason.getD (if isActive then "Rule reactivated" else "Rule deactivated")) }
    adminUid adminName

end FeeRuleStore

def PlatformFeeRule.window (rule : PlatformFeeRule) (instant : Instant) :
    Bool :=
  decide (rule.effectiveFrom ≤ instant) &&
    rule.effectiveUntil.all fun finish => decide (instant < finish)

def PlatformFeeRule.Precedes (first second : PlatformFeeRule) : Prop :=
  second.effectiveFrom < first.effectiveFrom ∨
    second.effectiveFrom = first.effectiveFrom ∧ second.version ≤ first.version

instance : DecidableRel PlatformFeeRule.Precedes :=
  fun _ _ => inferInstanceAs (Decidable (_ ∨ _))

def isRuleInEffect (rule : PlatformFeeRule) (instant : Instant) : Bool :=
  if !rule.isActive then
    false
  else if instant < rule.effectiveFrom then
    false
  else if rule.effectiveUntil.any fun finish => finish ≤ instant then
    false
  else
    true

def firstOfEachKey (candidates : List PlatformFeeRule) :
    List PlatformFeeRule :=
  candidates.foldl (fun byKey rule =>
      if byKey.any fun other => other.ruleKey == rule.ruleKey then byKey
      else byKey ++ [rule])
    []

namespace FeeRuleStore

def matching (appliesTo : FeePayerRole) (category : FeeCategory)
    (store : FeeRuleStore) : List PlatformFeeRule :=
  store.rules.filter fun rule =>
    rule.appliesTo = appliesTo ∧ rule.category = category

/-- `find`, sorted by start and then by number, the latest first. -/
def candidates (appliesTo : FeePayerRole) (category : FeeCategory)
    (instant : Instant) (store : FeeRuleStore) : List PlatformFeeRule :=
  ((store.matching appliesTo category).filter fun rule =>
    rule.effectiveFrom ≤ instant).insertionSort PlatformFeeRule.Precedes

def resolveRule (appliesTo : FeePayerRole) (category : FeeCategory)
    (instant : Instant) (store : FeeRuleStore) :
    Option PlatformFeeRule :=
  (firstOfEachKey (store.candidates appliesTo category instant)).find?
    fun rule => isRuleInEffect rule instant

end FeeRuleStore

end Lalaba.Fees
