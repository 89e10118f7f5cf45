import Lalaba.Foundation.Interleaving
import Lalaba.WasherServices.Templates

/-!
# Offerings of washers

A washer sets her own price for a service, within what the template allows; a row for
each branch and template holds it.  An offering that is accepted carries the template it
was judged against, so that a row with a negative number cannot be built.

The calls of administrators and washers are steps of one service: each is judged as it
reads, and writes later.
-/

namespace Lalaba.WasherServices

open Foundation
open Orders (PricingSource WasherPricingModel roundCentavos trimmed)

/-- What a washer asks for; numbers are what the schema parses. -/
structure SetWasherServiceOfferingInput where
  serviceTemplateId : ObjectId
  pricingModel : WasherPricingModel
  priceCentavos : ℚ
  loadCapacityKg : Option ℚ := none
  baseWeightKg : Option ℚ := none
  excessRatePerKgCentavos : Option ℚ := none
  minBillableKg : Option ℚ := none
  unit : Option WasherServiceUnit := none
  minQuantity : Option ℚ := none
  maxQuantity : Option ℚ := none
deriving DecidableEq

def describeModel : WasherPricingModel → String
  | .perKg => "per kilo"
  | .perLoad => "per load"
  | .baseExcess => "as a base price plus excess"
  | .perItem => "per item"

def peso (centavos : ℚ≥0) : String :=
  let rounded := (roundCentavos centavos).toNat
  "₱" ++ toString (rounded / 100) ++ "." ++ toString (rounded % 100 / 10) ++ toString (rounded % 10)

def lacks (value : Option ℚ) (bound : ℚ) : Bool := value.all fun number => decide (number < bound)

def notCountable (value : Option ℚ) : Bool :=
  value.any fun number => decide (number.den ≠ 1) || decide (number < 1)

/-- Whether the platform lets washers charge so, and within which bounds. -/
def policy (template : WasherServiceTemplate)
    (input : SetWasherServiceOfferingInput) : List Check :=
  [{ fails := template.isPlatformFixed
     message := "\"" ++ template.name ++ "\" is priced by Lalaba — you " ++
        "can offer it, but not set its price." },
   { fails := !template.allowedPricingModels.any fun models =>
        models.contains input.pricingModel
     message := "\"" ++ template.name ++ "\" cannot be charged " ++
        describeModel input.pricingModel ++ "." },
   { fails := decide (input.priceCentavos ≤ 0)
     message := "Enter a price greater than zero." },
   { fails := template.minPriceCentavos.any fun least =>
        decide (input.priceCentavos < (least : ℚ))
     message := "That price is below the " ++
        peso (template.minPriceCentavos.getD 0) ++
        " minimum Lalaba allows for \"" ++ template.name ++ "\"." },
   { fails := template.maxPriceCentavos.any fun most =>
        decide ((most : ℚ) < input.priceCentavos)
     message := "That price is above the " ++
        peso (template.maxPriceCentavos.getD 0) ++
        " maximum Lalaba allows for \"" ++ template.name ++ "\"." }]

/-- What each model needs besides a price. -/
def completeness (input : SetWasherServiceOfferingInput) : List Check :=
  match input.pricingModel with
  | .perKg => []
  | .perLoad =>
    [{ fails := input.loadCapacityKg.all fun capacity =>
          decide (capacity ≤ 0)
       message := "Set how many kilos fit in one load, so bigger " ++
          "baskets are charged for the extra loads they need." }]
  | .baseExcess =>
    [{ fails := lacks input.baseWeightKg 0
       message := "Set how many kilos the base price covers." },
     { fails := lacks input.excessRatePerKgCentavos 0
       message := "Set the rate for every kilo above the base weight." }]
  | .perItem =>
    [{ fails := input.unit.isNone
       message := "Choose what you are counting — pieces, pairs, sets " ++ "or panels." },
     { fails := notCountable input.minQuantity
       message := "The smallest order must be a whole number of at " ++ "least 1." },
     { fails := notCountable input.maxQuantity
       message := "The largest order must be a whole number of at " ++ "least 1." },
     { fails := input.minQuantity.any fun least =>
          input.maxQuantity.any fun most => decide (most < least)
       message := "The smallest order cannot be larger than the " ++ "largest order." }]

def minimumWeight (input : SetWasherServiceOfferingInput) : List Check :=
  [{ fails := input.minBillableKg.any fun minimum => decide (minimum < 0)
     message := "Minimum weight cannot be negative." }]

def assertOfferingAllowed (template : WasherServiceTemplate)
    (input : SetWasherServiceOfferingInput) : Except ServiceError Unit :=
  require (policy template input ++ completeness input ++ minimumWeight input)

/-! ## Accepted offerings -/

/-- An input, with the template that it was accepted against. -/
structure Offer where
  template : WasherServiceTemplate
  input : SetWasherServiceOfferingInput
  allowed : assertOfferingAllowed template input = .ok ()
deriving DecidableEq

namespace Offer

variable (offer : Offer)

theorem requires :
    require (policy offer.template offer.input) = .ok () ∧
      require (completeness offer.input) = .ok () ∧
      require (minimumWeight offer.input) = .ok () := by
  rcases require_append.mp offer.allowed with ⟨both, weight⟩
  rcases require_append.mp both with ⟨policy, complete⟩
  exact ⟨policy, complete, weight⟩

theorem washerSet : offer.template.isPlatformFixed = false := by
  have within := offer.requires.1
  simp only [policy, require_cons] at within
  exact within.1

theorem price_pos : 0 < offer.input.priceCentavos := by
  have within := offer.requires.1
  simp only [policy, require_cons, decide_eq_false_iff_not, not_le] at within
  exact within.2.2.1

theorem capacity (perLoad : offer.input.pricingModel = .perLoad) :
    ∃ capacity, offer.input.loadCapacityKg = some capacity ∧ 0 < capacity := by
  have complete := offer.requires.2.1
  simp only [completeness, perLoad, require_cons] at complete
  cases given : offer.input.loadCapacityKg with
  | none =>
    rw [given] at complete
    cases complete.1
  | some capacity =>
    rw [given, Option.all_some, decide_eq_false_iff_not, not_le] at complete
    exact ⟨capacity, rfl, complete.1⟩

theorem not_lacks {value : Option ℚ} {bound : ℚ}
    (given : lacks value bound = false) :
    ∃ number, value = some number ∧ bound ≤ number := by
  cases value with
  | none => cases given
  | some number =>
    rw [lacks, Option.all_some, decide_eq_false_iff_not, not_lt] at given
    exact ⟨number, rfl, given⟩

theorem baseWeight (baseExcess : offer.input.pricingModel = .baseExcess) :
    ∃ kilos, offer.input.baseWeightKg = some kilos ∧ 0 ≤ kilos := by
  have complete := offer.requires.2.1
  simp only [completeness, baseExcess, require_cons] at complete
  exact not_lacks complete.1

theorem excessRate (baseExcess : offer.input.pricingModel = .baseExcess) :
    ∃ rate, offer.input.excessRatePerKgCentavos = some rate ∧ 0 ≤ rate := by
  have complete := offer.requires.2.1
  simp only [completeness, baseExcess, require_cons] at complete
  exact not_lacks complete.2.1

theorem minBillable_nonneg (minimum : ℚ)
    (given : offer.input.minBillableKg = some minimum) : 0 ≤ minimum := by
  have weight := offer.requires.2.2
  rw [minimumWeight, require_cons, given, Option.any_some,
    decide_eq_false_iff_not, not_lt] at weight
  exact weight.1

def nonnegative (value : Option ℚ)
    (holds : ∀ number, value = some number → 0 ≤ number) : Option ℚ≥0 :=
  value.pmap Subtype.mk holds

theorem nonnegative_eq {value : Option ℚ} {number : ℚ}
    (holds : ∀ number, value = some number → 0 ≤ number)
    (given : value = some number) :
    nonnegative value holds = some ⟨number, holds number given⟩ := by
  subst given
  rfl

theorem capacity_nonneg (perLoad : offer.input.pricingModel = .perLoad)
    (number : ℚ) (given : offer.input.loadCapacityKg = some number) :
    0 ≤ number := by
  rcases offer.capacity perLoad with ⟨capacity, known, positive⟩
  cases given.symm.trans known
  exact positive.le

theorem baseWeight_nonneg
    (baseExcess : offer.input.pricingModel = .baseExcess)
    (number : ℚ) (given : offer.input.baseWeightKg = some number) :
    0 ≤ number := by
  rcases offer.baseWeight baseExcess with ⟨kilos, known, nonneg⟩
  cases given.symm.trans known
  exact nonneg

theorem excessRate_nonneg
    (baseExcess : offer.input.pricingModel = .baseExcess) (number : ℚ)
    (given : offer.input.excessRatePerKgCentavos = some number) :
    0 ≤ number := by
  rcases offer.excessRate baseExcess with ⟨rate, known, nonneg⟩
  cases given.symm.trans known
  exact nonneg

/-- What is stored: the fields that the model of the offering uses. -/
def patch : PricingSource where
  model := offer.input.pricingModel
  priceCentavos := ⟨offer.input.priceCentavos, offer.price_pos.le⟩
  loadCapacityKg :=
    if perLoad : offer.input.pricingModel = .perLoad then
      nonnegative offer.input.loadCapacityKg (offer.capacity_nonneg perLoad)
    else
      none
  baseWeightKg :=
    if baseExcess : offer.input.pricingModel = .baseExcess then
      nonnegative offer.input.baseWeightKg (offer.baseWeight_nonneg baseExcess)
    else
      none
  excessRatePerKgCentavos :=
    if baseExcess : offer.input.pricingModel = .baseExcess then
      nonnegative offer.input.excessRatePerKgCentavos (offer.excessRate_nonneg baseExcess)
    else
      none
  minBillableKg :=
    if offer.input.pricingModel = .perLoad ∨
        offer.input.pricingModel = .perItem then
      none
    else
      nonnegative offer.input.minBillableKg offer.minBillable_nonneg
  unit :=
    if offer.input.pricingModel = .perItem then
      offer.input.unit.map WasherServiceUnit.name
    else
      none
  minQuantity :=
    if offer.input.pricingModel = .perItem then
      offer.input.minQuantity.map fun number => number.num.toNat
    else
      none
  maxQuantity :=
    if offer.input.pricingModel = .perItem then
      offer.input.maxQuantity.map fun number => number.num.toNat
    else
      none

end Offer

/-! ## Calls -/

/-- The templates, and the offerings by their branches and templates. -/
structure Store where
  templates : Collection WasherServiceTemplate
  offerings : AList fun _ : ObjectId × ObjectId => PricingSource

namespace Store

def empty : Store where
  templates := ∅
  offerings := ∅

def taken (id : ObjectId) (name : String) (store : Store) : Bool :=
  store.templates.entries.any fun entry =>
    decide (entry.1 ≠ id) && decide (entry.2.name = name)

def putTemplate (id : ObjectId) (template : WasherServiceTemplate)
    (store : Store) : Store :=
  { store with templates := store.templates.insert id template }

end Store

/-- A call, at the point where it waits. -/
inductive Call where
  /-- `create`, about to insert a template that was checked. -/
  | insert (input : CreateWasherServiceTemplateInput)
  /-- `update`, about to write a patch that was checked. -/
  | write (id : ObjectId) (input : UpdateWasherServiceTemplateInput)
  | setActive (id : ObjectId) (isActive : Bool)
  /-- `setOffering`, about to write an offering that was accepted. -/
  | upsert (branchId : ObjectId) (offer : Offer)
  | remove (branchId serviceTemplateId : ObjectId)

inductive Request where
  | create (input : CreateWasherServiceTemplateInput)
  | update (id : ObjectId) (input : UpdateWasherServiceTemplateInput)
  | setActive (id : ObjectId) (isActive : Bool)
  | setOffering (branchId : ObjectId) (input : SetWasherServiceOfferingInput)
  | removeOffering (branchId serviceTemplateId : ObjectId)

/-- An id that is drawn in a step. -/
structure Tick where
  drawn : ObjectId := ""

section

-- How the regular expressions of the database fold the case of letters.
variable (foldCase : String → String)

def exactMatchInsensitive (value stored : String) : Bool := foldCase value == foldCase stored

/-- An input is accepted against a template that is active. -/
def offered (input : SetWasherServiceOfferingInput) (store : Store) :
    Except ServiceError Offer :=
  match store.templates.lookup input.serviceTemplateId with
  | none =>
    .error (.badRequest "Service not found or no longer offered.")
  | some template =>
    if !template.isActive then
      .error (.badRequest "Service not found or no longer offered.")
    else
      match allowed : assertOfferingAllowed template input with
      | .error error => .error error
      | .ok () => .ok ⟨template, input, allowed⟩

def creatable (input : CreateWasherServiceTemplateInput) (store : Store) :
    Except ServiceError Unit :=
  if store.templates.entries.any fun entry =>
      exactMatchInsensitive foldCase (trimmed input.name) entry.2.name then
    .error (.badRequest ("A service template named \"" ++ input.name ++ "\" already exists"))
  else
    require input.checks

def updatable (id : ObjectId) (input : UpdateWasherServiceTemplateInput)
    (store : Store) : Except ServiceError Unit :=
  match store.templates.lookup id with
  | none => .error (.notFound "Service template not found")
  | some current => require (input.checks current)

/-- What a call does up to its write: it reads, and is judged on what it has read. -/
def enter : Request → Store → Option Call
  | .create input, store =>
    match creatable foldCase input store with
    | .error _ => none
    | .ok () => some (.insert input)
  | .update id input, store =>
    match updatable id input store with
    | .error _ => none
    | .ok () => some (.write id input)
  | .setActive id isActive, _ => some (.setActive id isActive)
  | .setOffering branchId input, store =>
    match offered input store with
    | .error _ => none
    | .ok offer => some (.upsert branchId offer)
  | .removeOffering branchId serviceTemplateId, _ =>
    some (.remove branchId serviceTemplateId)

end

/-- The write of a call; an id is never drawn twice, and a taken name is refused. -/
def resume (tick : Tick) : Call → Store → Option (Store × Option Call)
  | .insert input, store =>
    if tick.drawn ∈ store.templates then none
    else if store.taken tick.drawn input.created.name then
      some (store, none)
    else
      some (store.putTemplate tick.drawn input.created, none)
  | .write id input, store =>
    match store.templates.lookup id with
    | none => some (store, none)
    | some stored =>
      if store.taken id (input.onto stored).name then
        some (store, none)
      else
        some (store.putTemplate id (input.onto stored), none)
  | .setActive id isActive, store =>
    match store.templates.lookup id with
    | none => some (store, none)
    | some stored =>
      some (store.putTemplate id { stored with isActive := isActive }, none)
  | .upsert branchId offer, store =>
    some ({ store with
          offerings := store.offerings.insert
            (branchId, offer.input.serviceTemplateId) offer.patch }, none)
  | .remove branchId serviceTemplateId, store =>
    some ({ store with
          offerings := store.offerings.erase (branchId, serviceTemplateId) }, none)

def catalogue (foldCase : String → String) : Service Store Call Request Tick where
  enter := enter foldCase
  resume := resume

abbrev Calls : Type := Configuration Store Call

def Call.ofTemplate : Call → Bool
  | .insert _ | .write _ _ | .setActive _ _ => true
  | .upsert _ _ | .remove _ _ => false

/-- What a step can be; every call returns with it. -/
inductive Resumed (store : Store) : Call → Store → Prop where
  | refused (call : Call) (ofTemplate : call.ofTemplate = true) : Resumed store call store
  | inserted (id : ObjectId) (input : CreateWasherServiceTemplateInput) :
      Resumed store (.insert input) (store.putTemplate id input.created)
  | updated (id : ObjectId) (input : UpdateWasherServiceTemplateInput)
      (stored : WasherServiceTemplate)
      (found : store.templates.lookup id = some stored) :
      Resumed store (.write id input) (store.putTemplate id (input.onto stored))
  | activated (id : ObjectId) (isActive : Bool)
      (stored : WasherServiceTemplate)
      (found : store.templates.lookup id = some stored) :
      Resumed store (.setActive id isActive)
        (store.putTemplate id { stored with isActive := isActive })
  | upserted (branchId : ObjectId) (offer : Offer) :
      Resumed store (.upsert branchId offer) { store with
          offerings := store.offerings.insert
            (branchId, offer.input.serviceTemplateId) offer.patch }
  | removed (branchId serviceTemplateId : ObjectId) :
      Resumed store (.remove branchId serviceTemplateId) { store with
          offerings := store.offerings.erase (branchId, serviceTemplateId) }

theorem resumed_of_resume {store after : Store} {call : Call}
    {next : Option Call} {tick : Tick}
    (resumes : resume tick call store = some (after, next)) :
    next = none ∧ Resumed store call after := by
  cases call with
  | insert input =>
    rw [resume] at resumes
    split at resumes
    · cases resumes
    · split at resumes
      · cases resumes
        exact ⟨rfl, .refused _ rfl⟩
      · cases resumes
        exact ⟨rfl, .inserted _ input⟩
  | write id input =>
    rw [resume] at resumes
    split at resumes
    · cases resumes
      exact ⟨rfl, .refused _ rfl⟩
    · rename_i stored found
      split at resumes
      · cases resumes
        exact ⟨rfl, .refused _ rfl⟩
      · cases resumes
        exact ⟨rfl, .updated id input stored found⟩
  | setActive id isActive =>
    rw [resume] at resumes
    split at resumes
    · cases resumes
      exact ⟨rfl, .refused _ rfl⟩
    · rename_i stored found
      cases resumes
      exact ⟨rfl, .activated id isActive stored found⟩
  | upsert branchId offer =>
    cases resumes
    exact ⟨rfl, .upserted branchId offer⟩
  | remove branchId serviceTemplateId =>
    cases resumes
    exact ⟨rfl, .removed branchId serviceTemplateId⟩

end Lalaba.WasherServices
