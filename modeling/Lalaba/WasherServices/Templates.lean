import Lalaba.Orders.Creation

/-!
# Templates of washer services

What the platform says about a service that washers may offer: how it may be charged,
within which bounds, and the platform's own numbers.  An input is a patch: a field may be
left out, or be set to `null`.
-/

namespace Lalaba.WasherServices

open Orders (PricingSource WasherPricingModel trimmed)

/-- A condition under which a request is refused, and what it is told. -/
structure Check where
  fails : Bool
  message : String

def require (checks : List Check) : Except ServiceError Unit :=
  match checks.find? Check.fails with
  | none => .ok ()
  | some check => .error (.badRequest check.message)

theorem require_ok {checks : List Check} :
    require checks = .ok () ↔ ∀ check ∈ checks, check.fails = false := by
  rw [require]
  split
  · rename_i none
    simp only [true_iff]
    intro check member
    exact Bool.eq_false_of_not_eq_true (List.find?_eq_none.mp none check member)
  · rename_i check found
    constructor
    · intro refused
      cases refused
    · intro all
      have fails := List.find?_some found
      rw [all check (List.mem_of_find?_eq_some found)] at fails
      cases fails

theorem require_append {first second : List Check} :
    require (first ++ second) = .ok () ↔ require first = .ok () ∧ require second = .ok () := by
  simp only [require_ok, List.mem_append]
  constructor
  · exact fun all =>
      ⟨fun check member => all check (.inl member),
        fun check member => all check (.inr member)⟩
  · rintro ⟨left, right⟩ check (member | member)
    · exact left check member
    · exact right check member

theorem require_cons {check : Check} {checks : List Check} :
    require (check :: checks) = .ok () ↔ check.fails = false ∧ require checks = .ok () := by
  simp only [require_ok, List.forall_mem_cons]

inductive WasherPricingControl where
  | platformFixed
  | washerSet
deriving DecidableEq

/-- What a per-item service counts. -/
inductive WasherServiceUnit where
  | piece
  | pair
  | set
  | panel
deriving DecidableEq

namespace WasherServiceUnit

def name : WasherServiceUnit → String
  | .piece => "piece"
  | .pair => "pair"
  | .set => "set"
  | .panel => "panel"

end WasherServiceUnit

def ALL_PRICING_MODELS : List WasherPricingModel := [.perKg, .perLoad, .baseExcess]

/-- A stored template; of the fields that have a default any may be `null`. -/
structure WasherServiceTemplate where
  name : String
  description : Option String
  pricingControl : Option WasherPricingControl
  allowedPricingModels : Option (List WasherPricingModel)
  minPriceCentavos : Option ℚ≥0
  maxPriceCentavos : Option ℚ≥0
  platformPricingModel : Option WasherPricingModel
  basePriceCentavos : ℚ≥0
  baseWeightKg : ℚ≥0
  excessRatePerKgCentavos : ℚ≥0
  platformLoadCapacityKg : Option ℚ≥0
  platformUnit : Option WasherServiceUnit
  platformMinBillableKg : Option ℚ≥0
  turnaroundHours : Option ℚ≥0
  isActive : Bool
deriving DecidableEq

namespace WasherServiceTemplate

def isPlatformFixed (template : WasherServiceTemplate) : Bool :=
  decide (template.pricingControl = some .platformFixed)

/-- What orders and discovery read of a template. -/
def priced (template : WasherServiceTemplate) : Orders.WasherServiceTemplate where
  name := template.name
  isActive := template.isActive
  isPlatformFixed := template.isPlatformFixed
  platformPricingModel := template.platformPricingModel
  platform :=
    { model := template.platformPricingModel.getD .baseExcess
      priceCentavos := template.basePriceCentavos
      loadCapacityKg := template.platformLoadCapacityKg
      baseWeightKg := some template.baseWeightKg
      excessRatePerKgCentavos := some template.excessRatePerKgCentavos
      minBillableKg := template.platformMinBillableKg
      unit := template.platformUnit.map WasherServiceUnit.name }

end WasherServiceTemplate

/-- The optional fields of an input: left out, `null`, or a value. -/
structure WasherServiceTemplatePatch where
  description : Option (Option String) := none
  pricingControl : Option (Option WasherPricingControl) := none
  allowedPricingModels : Option (Option (List WasherPricingModel)) := none
  minPriceCentavos : Option (Option ℚ≥0) := none
  maxPriceCentavos : Option (Option ℚ≥0) := none
  platformPricingModel : Option (Option WasherPricingModel) := none
  platformLoadCapacityKg : Option (Option ℚ≥0) := none
  platformUnit : Option (Option WasherServiceUnit) := none
  platformMinBillableKg : Option (Option ℚ≥0) := none
  turnaroundHours : Option (Option ℚ≥0) := none
deriving DecidableEq

structure CreateWasherServiceTemplateInput extends WasherServiceTemplatePatch where
  name : String
  basePriceCentavos : ℚ≥0
  baseWeightKg : ℚ≥0
  excessRatePerKgCentavos : ℚ≥0
deriving DecidableEq

/-- The fields of a template may all be left out of an update. -/
structure UpdateWasherServiceTemplateInput extends WasherServiceTemplatePatch where
  name : Option String := none
  basePriceCentavos : Option ℚ≥0 := none
  baseWeightKg : Option ℚ≥0 := none
  excessRatePerKgCentavos : Option ℚ≥0 := none
deriving DecidableEq

section

variable {Value : Type} {given : Option (Option Value)} {current : Option Value} {value : Value}

/-- `given ?? current`: neither a field that is left out nor `null` counts. -/
def merged (given : Option (Option Value)) (current : Option Value) :
    Option Value :=
  given.join.or current

/-- `$set` of a field: one that is left out stays, and `null` clears it. -/
def written (given : Option (Option Value)) (current : Option Value) :
    Option Value :=
  given.getD current

theorem merged_of_written (writes : written given current = some value) :
    merged given current = some value := by
  cases given with
  | none => exact writes
  | some given =>
    cases given with
    | none => cases writes
    | some given => exact writes

theorem written_none : written given none = given.join := by
  cases given with
  | none | some => rfl

theorem written_eq_merged (valued : given ≠ some none) :
    written given current = merged given current := by
  cases given with
  | none => rfl
  | some given =>
    cases given with
    | none => exact (valued rfl).elim
    | some given => rfl

end

def assertGuardrailsCoherent (min max : Option ℚ≥0) : List Check :=
  [{ fails := min.any fun least => max.any fun most =>
        decide (most < least)
     message := "The minimum price cannot be higher than the maximum " ++ "price." }]

/-- A platform price is complete on its own; the fallback price is not checked. -/
def assertPlatformPricingComplete
    (pricingControl : Option WasherPricingControl)
    (platformPricingModel : Option WasherPricingModel)
    (platformLoadCapacityKg : Option ℚ≥0)
    (platformUnit : Option WasherServiceUnit) : List Check :=
  if pricingControl ≠ some .platformFixed then
    []
  else
    [{ fails := decide (platformPricingModel = some .perLoad) &&
          platformLoadCapacityKg.all fun capacity => decide (capacity ≤ 0)
       message := "Set how many kilos one load covers, so bigger baskets " ++
          "are charged for the extra loads they need." },
     { fails := decide (platformPricingModel = some .perItem) &&
          platformUnit.isNone
       message := "Choose what this service counts — pieces, pairs, sets " ++ "or panels." }]

namespace CreateWasherServiceTemplateInput

/-- The checks of `create`. -/
def checks (input : CreateWasherServiceTemplateInput) : List Check :=
  assertGuardrailsCoherent input.minPriceCentavos.join
      input.maxPriceCentavos.join ++
    assertPlatformPricingComplete
      (merged input.pricingControl (some .washerSet))
      (merged input.platformPricingModel (some .baseExcess))
      input.platformLoadCapacityKg.join
      input.platformUnit.join

/-- The row of a new template, with the defaults of what is left out. -/
def created (input : CreateWasherServiceTemplateInput) : WasherServiceTemplate where
  name := trimmed input.name
  description := written input.description none
  pricingControl := written input.pricingControl (some .washerSet)
  allowedPricingModels := written input.allowedPricingModels (some ALL_PRICING_MODELS)
  minPriceCentavos := written input.minPriceCentavos none
  maxPriceCentavos := written input.maxPriceCentavos none
  platformPricingModel := written input.platformPricingModel (some .baseExcess)
  basePriceCentavos := input.basePriceCentavos
  baseWeightKg := input.baseWeightKg
  excessRatePerKgCentavos := input.excessRatePerKgCentavos
  platformLoadCapacityKg := written input.platformLoadCapacityKg none
  platformUnit := written input.platformUnit none
  platformMinBillableKg := written input.platformMinBillableKg none
  turnaroundHours := written input.turnaroundHours none
  isActive := true

end CreateWasherServiceTemplateInput

namespace UpdateWasherServiceTemplateInput

/-- The checks of `update`, of what is sent and else of what is stored. -/
def checks (input : UpdateWasherServiceTemplateInput)
    (current : WasherServiceTemplate) : List Check :=
  assertGuardrailsCoherent
      (merged input.minPriceCentavos current.minPriceCentavos)
      (merged input.maxPriceCentavos current.maxPriceCentavos) ++
    assertPlatformPricingComplete
      (merged input.pricingControl current.pricingControl)
      ((merged input.platformPricingModel current.platformPricingModel).or (some .baseExcess))
      (merged input.platformLoadCapacityKg current.platformLoadCapacityKg)
      (merged input.platformUnit current.platformUnit)

/-- `$set` of an input over a stored template. -/
def onto (input : UpdateWasherServiceTemplateInput)
    (stored : WasherServiceTemplate) : WasherServiceTemplate where
  name := (input.name.map trimmed).getD stored.name
  description := written input.description stored.description
  pricingControl := written input.pricingControl stored.pricingControl
  allowedPricingModels := written input.allowedPricingModels stored.allowedPricingModels
  minPriceCentavos := written input.minPriceCentavos stored.minPriceCentavos
  maxPriceCentavos := written input.maxPriceCentavos stored.maxPriceCentavos
  platformPricingModel := written input.platformPricingModel stored.platformPricingModel
  basePriceCentavos := input.basePriceCentavos.getD stored.basePriceCentavos
  baseWeightKg := input.baseWeightKg.getD stored.baseWeightKg
  excessRatePerKgCentavos := input.excessRatePerKgCentavos.getD stored.excessRatePerKgCentavos
  platformLoadCapacityKg := written input.platformLoadCapacityKg stored.platformLoadCapacityKg
  platformUnit := written input.platformUnit stored.platformUnit
  platformMinBillableKg := written input.platformMinBillableKg stored.platformMinBillableKg
  turnaroundHours := written input.turnaroundHours stored.turnaroundHours
  isActive := stored.isActive

end UpdateWasherServiceTemplateInput

end Lalaba.WasherServices
