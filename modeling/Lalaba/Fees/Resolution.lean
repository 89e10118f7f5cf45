import Lalaba.Fees.Rules

/-!
# Which version of a rule is in force

The contract of `resolveRule` is that of the versions whose window contains an
instant the highest number decides.  The method looks at the version that started
last, and at no other.  The two agree exactly when, for every active version in
its window, to have started last and to have the highest number are the same.
-/

namespace Lalaba.Fees

open Foundation

/-! ## Histories -/

/-- What an administrator can do to the rules. -/
inductive Action where
  | createRule (input : SavePlatformFeeRuleInput) (adminUid : Uid) (adminName : Option String)
  | updateRule (ruleKey : String) (input : SavePlatformFeeRuleInput)
      (adminUid : Uid) (adminName : Option String)
  | setRuleActive (now : Instant) (ruleKey : String) (isActive : Bool)
      (adminUid : Uid) (adminName changeReason : Option String)

/-- One call; `none` when it is refused. -/
def step (action : Action) (store : FeeRuleStore) : Option FeeRuleStore :=
  (match action with
    | .createRule input adminUid adminName =>
      store.createRule input adminUid adminName
    | .updateRule ruleKey input adminUid adminName =>
      store.updateRule ruleKey input adminUid adminName
    | .setRuleActive now ruleKey isActive adminUid adminName changeReason =>
      store.setRuleActive now ruleKey isActive adminUid adminName changeReason).toOption

def feeRules : System FeeRuleStore Action := { step }

def FeeRuleStore.empty : FeeRuleStore where
  rules := []

def PlatformFeeRule.number (rule : PlatformFeeRule) : String × ℕ := (rule.ruleKey, rule.version)

def FeeRuleStore.Numbered (store : FeeRuleStore) : Prop :=
  (store.rules.map PlatformFeeRule.number).Nodup

namespace FeeRuleStore

variable {store after : FeeRuleStore}

theorem Numbered.insertRule (numbered : store.Numbered)
    {rule : PlatformFeeRule}
    (inserted : store.insertRule rule = .ok after) : after.Numbered := by
  rw [FeeRuleStore.insertRule] at inserted
  split at inserted
  · cases inserted
  · rename_i free
    cases inserted
    rw [Numbered, List.map_append, List.map_singleton, ← List.concat_eq_append]
    refine numbered.concat ?_
    intro taken
    rcases List.mem_map.mp taken with ⟨other, member, same⟩
    rcases Prod.mk.inj same with ⟨key, version⟩
    apply free
    apply List.any_eq_true.mpr
    exact ⟨other, member, by simp [key, version]⟩

theorem Numbered.supersede (numbered : store.Numbered)
    (rule : PlatformFeeRule) (nextVersion : ℕ) :
    (store.supersede rule nextVersion).Numbered := by
  have same : (store.supersede rule nextVersion).rules.map
      PlatformFeeRule.number = store.rules.map PlatformFeeRule.number := by
    rw [FeeRuleStore.supersede, List.map_map]
    apply List.map_congr_left
    intro other _
    simp only [Function.comp_apply]
    split <;> rfl
  rw [Numbered, same]
  exact numbered

variable {adminUid : Uid} {adminName : Option String}

theorem Numbered.createRule (numbered : store.Numbered)
    {input : SavePlatformFeeRuleInput} :
    Yields (store.createRule input adminUid adminName) Numbered := by
  apply Yields.bind
  intro _ _
  apply Yields.bind
  intro _ _ after inserted
  exact numbered.insertRule inserted

theorem Numbered.updateRule (numbered : store.Numbered) {ruleKey : String}
    {input : SavePlatformFeeRuleInput} :
    Yields (store.updateRule ruleKey input adminUid adminName)
      Numbered := by
  apply Yields.bind
  intro _ _
  apply Yields.bind
  intro current _
  apply Yields.bind
  intro _ _
  apply Yields.bind
  intro published inserted
  exact Yields.pure ((numbered.insertRule inserted).supersede _ _)

theorem Numbered.setRuleActive (numbered : store.Numbered) {now : Instant}
    {ruleKey : String} {isActive : Bool} {changeReason : Option String} :
    Yields (store.setRuleActive now ruleKey isActive adminUid adminName changeReason) Numbered := by
  apply Yields.bind
  intro _ _
  exact numbered.updateRule

theorem Numbered.step (numbered : store.Numbered) {action : Action}
    (stepped : Fees.step action store = some after) : after.Numbered := by
  have returned := toOption_eq_some.mp stepped
  cases action with
  | createRule => exact numbered.createRule _ returned
  | updateRule => exact numbered.updateRule _ returned
  | setRuleActive => exact numbered.setRuleActive _ returned

theorem Numbered.of_reaches {admissible : FeeRuleStore → Action → Prop}
    (reached : feeRules.Reaches admissible .empty store) :
    store.Numbered := by
  apply reached.invariant Numbered
  · exact List.nodup_nil
  · exact fun _ _ _ numbered _ stepped => numbered.step stepped

end FeeRuleStore

/-! ## The contract -/

def Highest (versions : List PlatformFeeRule) (instant : Instant)
    (rule : PlatformFeeRule) : Prop :=
  (rule ∈ versions ∧ rule.window instant = true) ∧
    ∀ other ∈ versions, other.window instant = true → other.version ≤ rule.version

def StartedLast (versions : List PlatformFeeRule) (instant : Instant)
    (rule : PlatformFeeRule) : Prop :=
  (rule ∈ versions ∧ rule.effectiveFrom ≤ instant) ∧
    ∀ other ∈ versions, other.effectiveFrom ≤ instant →
      other.effectiveFrom < rule.effectiveFrom ∨
        other.effectiveFrom = rule.effectiveFrom ∧ other.version ≤ rule.version

/--
The version that the contract of `resolveRule` names: the highest number decides
among the versions whose window contains the instant, and it counts if active.
-/
def FeeRuleStore.ruleInForce (appliesTo : FeePayerRole)
    (category : FeeCategory) (instant : Instant) (store : FeeRuleStore) :
    Option PlatformFeeRule :=
  (((store.matching appliesTo category).filter fun rule =>
    rule.window instant).argmax PlatformFeeRule.version).filter
      fun rule => rule.isActive

def FeeRuleStore.SharesKey (appliesTo : FeePayerRole)
    (category : FeeCategory) (store : FeeRuleStore) : Prop :=
  ∀ first ∈ store.matching appliesTo category,
    ∀ second ∈ store.matching appliesTo category, first.ruleKey = second.ruleKey

instance (appliesTo : FeePayerRole) (category : FeeCategory)
    (store : FeeRuleStore) :
    Decidable (store.SharesKey appliesTo category) :=
  inferInstanceAs (Decidable (∀ first ∈ store.matching appliesTo category,
    ∀ second ∈ store.matching appliesTo category, first.ruleKey = second.ruleKey))

/--
An active version in its window has started last of all exactly when it has the
highest number of the versions in their window.
-/
def FeeRuleStore.StartsInOrder (appliesTo : FeePayerRole)
    (category : FeeCategory) (instant : Instant) (store : FeeRuleStore) :
    Prop :=
  ∀ rule ∈ store.matching appliesTo category,
    rule.isActive = true → rule.window instant = true →
      (StartedLast (store.matching appliesTo category) instant rule ↔
        Highest (store.matching appliesTo category) instant rule)

section

variable {appliesTo : FeePayerRole} {category : FeeCategory}
  {instant : Instant} {store : FeeRuleStore}

theorem isRuleInEffect_iff (rule : PlatformFeeRule) :
    isRuleInEffect rule instant = true ↔ rule.isActive = true ∧ rule.window instant = true := by
  rw [isRuleInEffect, PlatformFeeRule.window]
  rcases rule.isActive with _ | _
  · simp
  · rcases rule.effectiveUntil with _ | finish
    · simp
    · simp

theorem firstOfEachKey_eq {rule : PlatformFeeRule}
    {rest : List PlatformFeeRule}
    (shared : ∀ other ∈ rest, rule.ruleKey = other.ruleKey) :
    firstOfEachKey (rule :: rest) = [rule] := by
  have kept : ∀ rest : List PlatformFeeRule,
      (∀ other ∈ rest, rule.ruleKey = other.ruleKey) →
      rest.foldl (fun byKey rule =>
          if byKey.any fun other => other.ruleKey == rule.ruleKey then byKey
          else byKey ++ [rule])
        [rule] = [rule] := by
    intro rest
    induction rest with
    | nil => exact fun _ => rfl
    | cons other rest induction =>
      intro shared
      rw [List.foldl_cons, if_pos]
      · exact induction fun later member =>
          shared later (List.mem_cons_of_mem _ member)
      · simp [shared other List.mem_cons_self]
  exact kept rest shared

theorem FeeRuleStore.Numbered.distinct (numbered : store.Numbered)
    (shared : store.SharesKey appliesTo category)
    {first second : PlatformFeeRule}
    (here : first ∈ store.matching appliesTo category)
    (there : second ∈ store.matching appliesTo category)
    (version : first.version = second.version) : first = second := by
  have number : first.number = second.number := Prod.ext (shared first here second there) version
  exact List.inj_on_of_nodup_map numbered (List.mem_of_mem_filter here)
    (List.mem_of_mem_filter there) number

theorem ruleInForce_eq_some (numbered : store.Numbered)
    (shared : store.SharesKey appliesTo category)
    {rule : PlatformFeeRule} :
    store.ruleInForce appliesTo category instant = some rule ↔
      Highest (store.matching appliesTo category) instant rule ∧ rule.isActive = true := by
  rw [FeeRuleStore.ruleInForce, Option.filter_eq_some_iff]
  apply and_congr_left
  intro _
  have highest : ∀ best, (((store.matching appliesTo category).filter
      fun rule => rule.window instant).argmax PlatformFeeRule.version) = some best →
      Highest (store.matching appliesTo category) instant best := by
    intro best found
    have inside := List.mem_filter.mp (List.argmax_mem found)
    refine ⟨inside, ?_⟩
    intro other member window
    exact List.le_of_mem_argmax (List.mem_filter.mpr ⟨member, window⟩) found
  constructor
  · exact highest rule
  · intro best
    rcases found : (((store.matching appliesTo category).filter
        fun rule => rule.window instant).argmax PlatformFeeRule.version) with _ | other
    · have empty := List.argmax_eq_none.mp found
      have inside : rule ∈ (store.matching appliesTo category).filter
          fun rule => rule.window instant :=
        List.mem_filter.mpr best.1
      rw [empty] at inside
      cases inside
    · have top := highest other found
      have version : other.version = rule.version :=
        le_antisymm (best.2 other top.1.1 top.1.2) (top.2 rule best.1.1 best.1.2)
      rw [found, numbered.distinct shared top.1.1 best.1.1 version]

theorem mem_candidates {rule : PlatformFeeRule} :
    rule ∈ store.candidates appliesTo category instant ↔
      rule ∈ store.matching appliesTo category ∧ rule.effectiveFrom ≤ instant := by
  rw [FeeRuleStore.candidates, List.mem_insertionSort, List.mem_filter, decide_eq_true_iff]

instance : IsTrans PlatformFeeRule PlatformFeeRule.Precedes where
  trans first second third := by
    simp only [PlatformFeeRule.Precedes]
    grind

instance : Std.Total PlatformFeeRule.Precedes where
  total first second := by
    simp only [PlatformFeeRule.Precedes]
    grind

theorem startedLast_head {first : PlatformFeeRule}
    {rest : List PlatformFeeRule}
    (sorted : store.candidates appliesTo category instant = first :: rest) :
    StartedLast (store.matching appliesTo category) instant first := by
  have ordered := List.pairwise_insertionSort PlatformFeeRule.Precedes
    ((store.matching appliesTo category).filter fun rule =>
      rule.effectiveFrom ≤ instant)
  rw [← FeeRuleStore.candidates] at ordered
  rw [sorted] at ordered
  refine ⟨mem_candidates.mp (sorted ▸ List.mem_cons_self), ?_⟩
  intro other member started
  have candidate : other ∈ first :: rest := sorted ▸ mem_candidates.mpr ⟨member, started⟩
  rcases List.mem_cons.mp candidate with rfl | later
  · exact .inr ⟨rfl, le_rfl⟩
  · exact List.rel_of_pairwise_cons ordered later

theorem resolveRule_eq_some (numbered : store.Numbered)
    (shared : store.SharesKey appliesTo category)
    {rule : PlatformFeeRule} :
    store.resolveRule appliesTo category instant = some rule ↔
      StartedLast (store.matching appliesTo category) instant rule ∧
        isRuleInEffect rule instant = true := by
  rw [FeeRuleStore.resolveRule]
  rcases sorted : store.candidates appliesTo category instant with
    _ | ⟨first, rest⟩
  · apply iff_of_false
    · simp [firstOfEachKey]
    · rintro ⟨last, _⟩
      have candidate := mem_candidates.mpr last.1
      rw [sorted] at candidate
      cases candidate
  · have head := startedLast_head sorted
    have same : ∀ other ∈ rest, first.ruleKey = other.ruleKey := by
      intro other member
      have candidate : other ∈
          store.candidates appliesTo category instant :=
        sorted ▸ List.mem_cons_of_mem _ member
      exact shared first head.1.1 other (mem_candidates.mp candidate).1
    rw [firstOfEachKey_eq same, List.find?_singleton]
    constructor
    · intro found
      split at found
      · rename_i inEffect
        cases found
        exact ⟨head, inEffect⟩
      · cases found
    · rintro ⟨last, inEffect⟩
      have before := head.2 rule last.1.1 last.1.2
      have after := last.2 first head.1.1 head.1.2
      have version : first.version = rule.version := by grind
      rw [numbered.distinct shared head.1.1 last.1.1 version, if_pos inEffect]

end

def commission (percent : ℚ≥0) (effectiveFrom : Instant) : SavePlatformFeeRuleInput where
  name := "Platform Commission"
  appliesTo := .homeWasher
  category := .commission
  calculationType := .percentage
  percent := some percent
  chargedTo := .customer
  isActive := true
  effectiveFrom

def commissions (days : List (ℚ≥0 × Instant)) : List Action :=
  .createRule (commission 10 1) "admin" none :: days.map fun (percent, day) =>
      .updateRule "platform-commission-washer" (commission percent day) "admin" none

end Lalaba.Fees
