import Lalaba.WasherServices.Prices

/-!
# Complete templates

A template that the platform prices has what its model needs, its bounds leave room for
a price, and nobody is billed one load for a basket of any size.  The checks of an update
are of what is sent or else stored, and what is written is what is sent: a `null` passes
on the strength of the value that it clears.  The fallback price is not checked at all
while washers set their own.
-/

namespace Lalaba.WasherServices

open Foundation
open Foundation.Configuration
open Orders (le_loadsFor loadsFor platformPricingOf priceFromSource resolveWasherPricing)

namespace WasherServiceTemplate

/-- What a template promises to those who are priced by it. -/
structure Complete (template : WasherServiceTemplate) : Prop where
  load : template.pricingControl = some .platformFixed →
    template.platformPricingModel = some .perLoad →
    ∃ capacity, template.platformLoadCapacityKg = some capacity ∧ 0 < capacity
  item : template.pricingControl = some .platformFixed →
    template.platformPricingModel = some .perItem →
    ∃ unit, template.platformUnit = some unit
  bounds : ∀ least most, template.minPriceCentavos = some least →
    template.maxPriceCentavos = some most → least ≤ most
  fallback : (resolveWasherPricing template.priced none).pricingType =
      .perLoadWithCapacity →
    ∃ limit : ℚ≥0, ∀ weight, limit < weight →
      1 < loadsFor (some weight) (resolveWasherPricing template.priced none).baseKilos

def SizedLoad (template : WasherServiceTemplate) : Prop :=
  template.platformPricingModel = some .perLoad →
    ∃ capacity, template.platformLoadCapacityKg = some capacity ∧ 0 < capacity

def unsized (template : WasherServiceTemplate) : Bool :=
  !template.isPlatformFixed &&
    (decide (template.platformPricingModel = some .perLoad) &&
      template.platformLoadCapacityKg.all fun capacity =>
        decide (capacity ≤ 0))

variable {template : WasherServiceTemplate}

theorem resolve_none :
    resolveWasherPricing template.priced none = platformPricingOf template.priced := by
  rw [resolveWasherPricing]
  split <;> rfl

theorem fallback_of_sizedLoad (sized : template.SizedLoad)
    (byLoad : (resolveWasherPricing template.priced none).pricingType = .perLoadWithCapacity) :
    ∃ limit : ℚ≥0, ∀ weight, limit < weight →
      1 < loadsFor (some weight) (resolveWasherPricing template.priced none).baseKilos := by
  rw [resolve_none, platformPricingOf, priceFromSource] at byLoad ⊢
  dsimp only [priced] at byLoad ⊢
  cases model : template.platformPricingModel with
  | none =>
    rw [model] at byLoad
    cases byLoad
  | some model' =>
    rw [model] at byLoad
    cases model' with
    | perKg | perItem | baseExcess => cases byLoad
    | perLoad =>
      rcases sized model with ⟨capacity, known, positive⟩
      refine ⟨capacity, ?_⟩
      intro weight heavier
      dsimp only [Option.getD_some]
      rw [known]
      have loads := @le_loadsFor (some weight) capacity positive
      have roomy : (0 : ℚ) < capacity := by exact_mod_cast positive
      have heavier : (capacity : ℚ) < weight := by
        exact_mod_cast heavier
      have several := ((one_lt_div roomy).mpr heavier).trans_le loads
      exact_mod_cast several

end WasherServiceTemplate

/-! ## What the checks are worth -/

section

variable {control : Option WasherPricingControl}
  {model : Option Orders.WasherPricingModel}
  {capacityKg least most : Option ℚ≥0} {unit : Option WasherServiceUnit}

theorem le_of_coherent {min max : ℚ≥0}
    (coherent : require (assertGuardrailsCoherent least most) = .ok ())
    (least_eq : least = some min) (most_eq : most = some max) :
    min ≤ max := by
  rw [assertGuardrailsCoherent, require_cons, least_eq, most_eq,
    Option.any_some, Option.any_some, decide_eq_false_iff_not, not_lt] at coherent
  exact coherent.1

theorem capacity_of_complete
    (complete : require (assertPlatformPricingComplete control model capacityKg unit) = .ok ())
    (fixed : control = some .platformFixed)
    (perLoad : model = some .perLoad) :
    ∃ capacity, capacityKg = some capacity ∧ 0 < capacity := by
  rw [assertPlatformPricingComplete, fixed, perLoad, if_neg (not_not.mpr rfl),
    require_cons, decide_eq_true rfl, Bool.true_and] at complete
  cases capacityKg with
  | none => cases complete.1
  | some capacity =>
    rw [Option.all_some, decide_eq_false_iff_not, not_le] at complete
    exact ⟨capacity, rfl, complete.1⟩

theorem unit_of_complete
    (complete : require (assertPlatformPricingComplete control model capacityKg unit) = .ok ())
    (fixed : control = some .platformFixed)
    (perItem : model = some .perItem) : ∃ counted, unit = some counted := by
  rw [assertPlatformPricingComplete, fixed, perItem, if_neg (not_not.mpr rfl),
    require_cons, require_cons, decide_eq_true rfl, Bool.true_and] at complete
  cases unit with
  | none => cases complete.2.1
  | some counted => exact ⟨counted, rfl⟩

variable {template : WasherServiceTemplate}

theorem sizedLoad_of_fixed
    (fixed : template.pricingControl = some .platformFixed → template.SizedLoad)
    (sized : template.unsized = false) : template.SizedLoad := by
  intro perLoad
  by_cases control : template.pricingControl = some .platformFixed
  · exact fixed control perLoad
  · rw [WasherServiceTemplate.unsized,
      WasherServiceTemplate.isPlatformFixed, decide_eq_false control,
      decide_eq_true perLoad, Bool.not_false, Bool.true_and, Bool.true_and] at sized
    cases known : template.platformLoadCapacityKg with
    | none =>
      rw [known] at sized
      cases sized
    | some capacity =>
      rw [known, Option.all_some, decide_eq_false_iff_not, not_le] at sized
      exact ⟨capacity, rfl, sized⟩

theorem complete_of_require
    (required : require (assertGuardrailsCoherent least most ++
      assertPlatformPricingComplete control model capacityKg unit) = .ok ())
    (min : ∀ price, template.minPriceCentavos = some price → least = some price)
    (max : ∀ price, template.maxPriceCentavos = some price → most = some price)
    (controlled : ∀ control', template.pricingControl = some control' → control = some control')
    (modelled : ∀ model', template.platformPricingModel = some model' → model = some model')
    (loaded : template.pricingControl = some .platformFixed →
      template.platformPricingModel = some .perLoad →
      template.platformLoadCapacityKg = capacityKg)
    (counted : template.pricingControl = some .platformFixed →
      template.platformPricingModel = some .perItem → template.platformUnit = unit)
    (sized : template.unsized = false) : template.Complete := by
  rcases require_append.mp required with ⟨coherent, complete⟩
  have load (fixed : template.pricingControl = some .platformFixed)
      (perLoad : template.platformPricingModel = some .perLoad) :
      ∃ capacity, template.platformLoadCapacityKg = some capacity ∧ 0 < capacity := by
    rw [loaded fixed perLoad]
    exact capacity_of_complete complete (controlled _ fixed) (modelled _ perLoad)
  constructor
  · exact load
  · intro fixed perItem
    rw [counted fixed perItem]
    exact unit_of_complete complete (controlled _ fixed) (modelled _ perItem)
  · intro min' max' least_eq most_eq
    exact le_of_coherent coherent (min min' least_eq) (max max' most_eq)
  · exact WasherServiceTemplate.fallback_of_sizedLoad (sizedLoad_of_fixed load sized)

end

namespace CreateWasherServiceTemplateInput

theorem complete_created {input : CreateWasherServiceTemplateInput}
    (required : require input.checks = .ok ())
    (sized : input.created.unsized = false) : input.created.Complete := by
  refine complete_of_require required ?_ ?_ ?_ ?_ ?_ ?_ sized
  · exact fun _ least => written_none.symm.trans least
  · exact fun _ most => written_none.symm.trans most
  · exact fun _ => merged_of_written
  · exact fun _ => merged_of_written
  · exact fun _ _ => written_none
  · exact fun _ _ => written_none

end CreateWasherServiceTemplateInput

namespace UpdateWasherServiceTemplateInput

/-- A `null` clears what the platform's own price needs. -/
def clears (input : UpdateWasherServiceTemplateInput)
    (after : WasherServiceTemplate) : Bool :=
  after.isPlatformFixed &&
    (decide (input.platformLoadCapacityKg = some none ∧
        after.platformPricingModel = some .perLoad) ||
      decide (input.platformUnit = some none ∧ after.platformPricingModel = some .perItem))

variable {input : UpdateWasherServiceTemplateInput} {stored : WasherServiceTemplate}

theorem complete_onto (required : require (input.checks stored) = .ok ())
    (kept : input.clears (input.onto stored) = false)
    (sized : (input.onto stored).unsized = false) :
    (input.onto stored).Complete := by
  rw [clears, WasherServiceTemplate.isPlatformFixed] at kept
  refine complete_of_require required ?_ ?_ ?_ ?_ ?_ ?_ sized
  · exact fun _ => merged_of_written
  · exact fun _ => merged_of_written
  · exact fun _ => merged_of_written
  · intro model writes
    rw [merged_of_written writes]
    rfl
  · intro fixed perLoad
    rw [decide_eq_true fixed, Bool.true_and, Bool.or_eq_false_iff] at kept
    refine written_eq_merged ?_
    intro null
    exact of_decide_eq_false kept.1 ⟨null, perLoad⟩
  · intro fixed perItem
    rw [decide_eq_true fixed, Bool.true_and, Bool.or_eq_false_iff] at kept
    refine written_eq_merged ?_
    intro null
    exact of_decide_eq_false kept.2 ⟨null, perItem⟩

end UpdateWasherServiceTemplateInput

def Store.Complete (store : Store) : Prop :=
  ∀ id template, store.templates.lookup id = some template → template.Complete

theorem Store.complete_empty : Store.empty.Complete := by
  intro id template found
  cases found

theorem Store.Complete.put {store : Store} (complete : store.Complete)
    {id : ObjectId} {template : WasherServiceTemplate}
    (own : template.Complete) :
    (store.putTemplate id template).Complete := by
  intro other template' found
  rw [Store.putTemplate] at found
  by_cases same : other = id
  · subst same
    rw [AList.lookup_insert] at found
    cases found
    exact own
  · rw [AList.lookup_insert_ne same] at found
    exact complete other template' found

/--
A write passes its checks on the row as it is by now, clears nothing that the price of
the platform needs, and does not leave washers to fall back on loads without a size.
-/
def Call.careful (store : Store) : Call → Bool
  | .insert input => !input.created.unsized
  | .write id input =>
    match store.templates.lookup id with
    | none => true
    | some stored =>
      decide (require (input.checks stored) = .ok ()) &&
        (!input.clears (input.onto stored) && !(input.onto stored).unsized)
  | _ => true

def inOrder (configuration : Calls) : Move Request Tick → Bool
  | .enter _ => true
  | .resume index _ =>
    match configuration.calls[index]? with
    | some (some call) => call.careful configuration.store
    | _ => true

def Call.Checked : Call → Prop
  | .insert input => require input.checks = .ok ()
  | _ => True

namespace Resumed

variable {store after : Store} {call : Call}

theorem complete (resumed : Resumed store call after)
    (checked : call.Checked) (careful : call.careful store = true)
    (complete : store.Complete) : after.Complete := by
  cases resumed with
  | refused | upserted | removed => exact complete
  | inserted id input =>
    refine complete.put (input.complete_created checked ?_)
    rw [Call.careful, Bool.not_eq_true'] at careful
    exact careful
  | updated id input stored found =>
    rw [Call.careful, found] at careful
    simp only [Bool.and_eq_true, decide_eq_true_eq, Bool.not_eq_true'] at careful
    exact complete.put (UpdateWasherServiceTemplateInput.complete_onto
      careful.1 careful.2.1 careful.2.2)
  | activated id isActive stored found =>
    have kept := complete id stored found
    exact complete.put ⟨kept.load, kept.item, kept.bounds, kept.fallback⟩

end Resumed

section

variable {foldCase : String → String}

theorem checked_of_enter {request : Request} {store : Store} {call : Call}
    (enters : (catalogue foldCase).enter request store = some call) :
    call.Checked := by
  simp only [catalogue] at enters
  cases request with
  | create input =>
    rw [enter] at enters
    split at enters
    · cases enters
    · rename_i creates
      cases enters
      rw [creatable] at creates
      split at creates
      · cases creates
      · exact creates
  | update | setOffering =>
    rw [enter] at enters
    split at enters
    · cases enters
    · cases enters
      exact trivial
  | setActive | removeOffering =>
    cases enters
    exact trivial

theorem obligations :
    (catalogue foldCase).Obligations (fun _ => True)
      (fun configuration move => inOrder configuration move = true)
      Store.Complete fun _ call => call.Checked where
  entered _ _ _ _ enters := checked_of_enter enters
  resumed := by
    intro configuration index tick call store next _ allowed waits complete checked resumes
    rcases resumed_of_resume resumes with ⟨rfl, resumed⟩
    rw [inOrder, waits] at allowed
    refine ⟨resumed.complete checked allowed complete, ?_⟩
    intro call' absent
    cases absent
  stable := by
    intro _ _ _ _ _ _ _ _ _ _ _ _ _ _ _ checked _
    exact checked

/--
In a run whose writes are all careful, every stored template has what its price needs,
bounds that leave room for a price, and a fallback price that bills a large basket for
more than one load.
-/
theorem templatesStayComplete {initial : Store} {configuration : Calls}
    (complete : initial.Complete)
    (reached : (catalogue foldCase).system.Reaches
      (fun configuration move => inOrder configuration move = true)
      (.start initial) configuration) :
    configuration.store.Complete := by
  have invariant : Service.Invariant Store.Complete (fun _ call => call.Checked) configuration := by
    refine reached.invariant
      (Service.Invariant Store.Complete fun _ call => call.Checked)
      (Service.invariant_start complete) ?_
    intro state move after invariant allowed stepped
    exact obligations.step trivial invariant allowed stepped
  exact invariant.good

end

namespace Sample

def bedding : CreateWasherServiceTemplateInput where
  name := "Bedding"
  basePriceCentavos := 25000
  baseWeightKg := 0
  excessRatePerKgCentavos := 0
  pricingControl := some (some .platformFixed)
  platformPricingModel := some (some .perLoad)
  platformLoadCapacityKg := some (some 8)

def resize (capacityKg : Option ℚ≥0) : UpdateWasherServiceTemplateInput where
  pricingControl := some (some .platformFixed)
  platformPricingModel := some (some .perLoad)
  platformLoadCapacityKg := some capacityKg

def resizing (capacityKg : Option ℚ≥0) : List (Move Request Tick) :=
  [.enter (.create bedding), .resume 0 { drawn := "bedding" },
    .enter (.update "bedding" (resize capacityKg)), .resume 1 {}]

def loadSize (configuration : Calls) : Option (Option ℚ≥0) :=
  (configuration.store.templates.lookup "bedding").map WasherServiceTemplate.platformLoadCapacityKg

end Sample

/-- A load that is edited to ten kilos has a size. -/
theorem templatesStayComplete_resizing :
    ∃ (configuration : Calls) (template : WasherServiceTemplate),
      configuration.store.templates.lookup "bedding" = some template ∧
        template.platformLoadCapacityKg = some 10 ∧ template.Complete := by
  have performed : (((catalogue String.toLower).system.restrict (fun configuration move =>
            inOrder configuration move = true)).perform
        (Sample.resizing (some 10)) (.start .empty)).map Sample.loadSize =
        some (some (some 10)) := by
    decide +kernel
  rcases System.reaches_of_map_restrict performed with ⟨configuration, ran, seen⟩
  rcases Option.map_eq_some_iff.mp seen with ⟨template, found, size⟩
  have complete := templatesStayComplete Store.complete_empty ran
  exact ⟨configuration, template, found, size, complete "bedding" template found⟩

/-- A `null` passes for the size that is stored, and clears it. -/
theorem loadSizeCleared :
    ¬ ∀ (foldCase : String → String) (configuration : Calls),
      (catalogue foldCase).system.Reaches (fun _ _ => True)
          (.start .empty) configuration →
        configuration.store.Complete := by
  intro always
  have performed :
      ((catalogue String.toLower).system.perform (Sample.resizing none)
        (.start .empty)).map (fun configuration =>
          configuration.store.templates.lookup "bedding") =
        some (some ((Sample.resize none).onto Sample.bedding.created)) := by
    decide +kernel
  rcases System.reaches_of_map performed with ⟨configuration, ran, found⟩
  have complete := always String.toLower configuration ran "bedding" _ found
  rcases complete.load rfl rfl with ⟨capacity, known, _⟩
  cases known

/-- Loads without a size are what washers may fall back on. -/
example : ((catalogue String.toLower).system.perform [.enter (.create { Sample.bedding with
          pricingControl := some (some .washerSet)
          platformLoadCapacityKg := none }),
        .resume 0 { drawn := "bedding" }]
      (.start .empty)).map Sample.loadSize = some (some none) := by
  decide +kernel

end Lalaba.WasherServices
