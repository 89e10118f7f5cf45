import Lalaba.Fees.Resolution

/-!
# The history of a rule

Editing a rule publishes a version and keeps the others.  The panel of the changes shows
an unbroken row of them, newest first, and whatever it has shown it shows ever after.
-/

namespace Lalaba.Fees

open Foundation

namespace FeeRuleStore

/-- The panel; versions are listed newest first. -/
def ruleHistory (ruleKey : String) (store : FeeRuleStore) :
    Except ServiceError (List PlatformFeeRule) :=
  let versions := (store.versionsOf ruleKey).mergeSort fun first second =>
    second.version ≤ first.version
  if versions.isEmpty then .error (.notFound "No fee rule with that key.") else .ok versions

end FeeRuleStore

/-- A version without the note on what supersedes it. -/
def PlatformFeeRule.terms (rule : PlatformFeeRule) : PlatformFeeRule :=
  { rule with supersededByVersion := none }

def PlatformFeeRule.mark (current : PlatformFeeRule) (nextVersion : ℕ)
    (rule : PlatformFeeRule) : PlatformFeeRule :=
  if rule.ruleKey = current.ruleKey ∧ rule.version = current.version then
    { rule with supersededByVersion := some nextVersion }
  else
    rule

/-- The versions of a key in the order of publishing, each superseded by the next. -/
def Chained (versions : List PlatformFeeRule) : Prop :=
  ∀ (i : ℕ) (rule : PlatformFeeRule), versions[i]? = some rule → rule.version = i + 1 ∧
    rule.supersededByVersion = if i + 1 = versions.length then none else some (i + 2)

/-- The versions of a key, or one more of them that is new. -/
inductive Grown (versions after : List PlatformFeeRule) : Prop where
  | same (same : after = versions)
  | created (rule : PlatformFeeRule) (first : versions = []) (published : after = [rule])
      (version : rule.version = 1) (unmarked : rule.supersededByVersion = none)
  | updated (rule current : PlatformFeeRule)
      (published : after = (versions ++ [rule]).map (current.mark (current.version + 1)))
      (newest : current ∈ versions.argmax PlatformFeeRule.version)
      (keys : ∀ other ∈ versions ++ [rule], other.ruleKey = current.ruleKey)
      (version : rule.version = current.version + 1)
      (unmarked : rule.supersededByVersion = none)

section

variable {store after : FeeRuleStore} {ruleKey : String} {rule current : PlatformFeeRule}
  {versions later : List PlatformFeeRule} {adminUid : Uid} {adminName : Option String}
  {input : SavePlatformFeeRuleInput}

theorem versionsOf_insertRule (inserted : store.insertRule rule = .ok after) :
    after.versionsOf ruleKey =
      store.versionsOf ruleKey ++ if rule.ruleKey = ruleKey then [rule] else [] := by
  rw [FeeRuleStore.insertRule] at inserted
  split at inserted
  · cases inserted
  · cases inserted
    simp [FeeRuleStore.versionsOf, List.filter_append, List.filter_cons]

theorem ruleKey_mark (nextVersion : ℕ) (rule : PlatformFeeRule) :
    (current.mark nextVersion rule).ruleKey = rule.ruleKey := by
  rw [PlatformFeeRule.mark]
  split <;> rfl

theorem terms_mark (nextVersion : ℕ) (rule : PlatformFeeRule) :
    (current.mark nextVersion rule).terms = rule.terms := by
  rw [PlatformFeeRule.mark]
  split <;> rfl

theorem versionsOf_supersede (nextVersion : ℕ) :
    (store.supersede current nextVersion).versionsOf ruleKey =
      (store.versionsOf ruleKey).map (current.mark nextVersion) := by
  rw [FeeRuleStore.versionsOf, FeeRuleStore.versionsOf, FeeRuleStore.supersede]
  refine List.filter_map.trans (congrArg _ (List.filter_congr fun other _ => ?_))
  exact congrArg (· == ruleKey) (ruleKey_mark nextVersion other)

theorem mem_versionsOf : rule ∈ store.versionsOf ruleKey ↔
    rule ∈ store.rules ∧ rule.ruleKey = ruleKey := by
  rw [FeeRuleStore.versionsOf, List.mem_filter, beq_iff_eq]

theorem grown_createRule : Yields (store.createRule input adminUid adminName) fun after =>
      Grown (store.versionsOf ruleKey) (after.versionsOf ruleKey) := by
  apply Yields.bind
  intro _ _
  apply Yields.bind
  intro _ unnamed after inserted
  rw [versionsOf_insertRule inserted]
  split
  · rename_i here
    have first : store.versionsOf ruleKey = [] := by
      rw [List.eq_nil_iff_forall_not_mem]
      intro other member
      rcases mem_versionsOf.mp member with ⟨stored, key⟩
      rw [FeeRuleStore.assertUnnamed, if_pos] at unnamed
      · cases unnamed
      · exact List.any_eq_true.mpr ⟨other, stored, by simp [key, ← here]⟩
    rw [first]
    exact .created _ rfl rfl rfl rfl
  · exact .same (List.append_nil _)

theorem grown_updateRule {updated : String} :
    Yields (store.updateRule updated input adminUid adminName) fun after =>
      Grown (store.versionsOf ruleKey) (after.versionsOf ruleKey) := by
  apply Yields.bind
  intro _ _
  apply Yields.bind
  intro current newest
  apply Yields.bind
  intro _ _
  apply Yields.bind
  intro published inserted
  apply Yields.pure
  have found : current ∈ (store.versionsOf updated).argmax PlatformFeeRule.version := by
    rw [FeeRuleStore.newestVersion] at newest
    split at newest <;> cases newest
    assumption
  have key := (mem_versionsOf.mp (List.argmax_mem found)).2
  rw [versionsOf_supersede, versionsOf_insertRule inserted]
  split
  · rename_i here
    subst here
    refine .updated _ current rfl found ?_ rfl rfl
    intro other member
    rcases List.mem_append.mp member with old | new
    · exact (mem_versionsOf.mp old).2.trans key.symm
    · rw [List.mem_singleton.mp new, key]
  · rename_i elsewhere
    rw [List.append_nil]
    refine .same ((List.map_congr_left fun other member => ?_).trans (List.map_id _))
    refine if_neg fun both => elsewhere ?_
    exact key.symm.trans (both.1.symm.trans (mem_versionsOf.mp member).2)

theorem grown_step {action : Action} (stepped : feeRules.step action store = some after) :
    Grown (store.versionsOf ruleKey) (after.versionsOf ruleKey) := by
  have returned := toOption_eq_some.mp stepped
  cases action with
  | createRule => exact grown_createRule after returned
  | updateRule => exact grown_updateRule after returned
  | setRuleActive now key isActive adminUid adminName changeReason =>
    have grown : Yields (store.setRuleActive now key isActive adminUid adminName changeReason)
        fun after => Grown (store.versionsOf ruleKey) (after.versionsOf ruleKey) := by
      apply Yields.bind
      exact fun _ _ => grown_updateRule
    exact grown after returned

theorem Chained.version_newest (chained : Chained versions)
    (newest : current ∈ versions.argmax PlatformFeeRule.version) :
    current.version = versions.length := by
  rcases List.getElem?_of_mem (List.argmax_mem newest) with ⟨i, found⟩
  have within := (List.getElem?_eq_some_iff.mp found).1
  have last := List.getElem?_eq_getElem (Nat.sub_lt (Nat.zero_lt_of_lt within) Nat.one_pos)
  have top := List.le_of_mem_argmax (List.mem_of_getElem? last) newest
  rw [(chained _ _ last).1] at top
  have number := (chained _ _ found).1
  omega

/-- One version more is the next of the chain, and supersedes the last. -/
theorem Chained.grown (chained : Chained versions) (grown : Grown versions later) :
    Chained later := by
  cases grown with
  | same same => rwa [same]
  | created rule first published version unmarked =>
    subst published
    intro i other found
    cases i with
    | zero =>
      cases found
      exact ⟨version, unmarked⟩
    | succ => cases found
  | updated rule current published newest keys version unmarked =>
    subst published
    have length := chained.version_newest newest
    intro i other found
    rw [List.getElem?_map] at found
    rcases Option.map_eq_some_iff.mp found with ⟨old, found', rfl⟩
    have key := keys old (List.mem_of_getElem? found')
    simp only [PlatformFeeRule.mark, key, true_and, List.length_map, List.length_append,
      List.length_singleton]
    rcases Nat.lt_or_ge i versions.length with within | beyond
    · rw [List.getElem?_append_left within] at found'
      rcases chained i old found' with ⟨number, superseded⟩
      split
      · exact ⟨number, by rw [if_neg (by omega)]; exact congrArg some (by omega)⟩
      · rw [superseded]
        exact ⟨number, by rw [if_neg (by omega), if_neg (by omega)]⟩
    · have last : i = versions.length := by
        have bound := (List.getElem?_eq_some_iff.mp found').1
        rw [List.length_append, List.length_singleton] at bound
        omega
      subst last
      rw [List.getElem?_concat_length] at found'
      cases found'
      rw [if_neg (by omega), if_pos rfl]
      exact ⟨by omega, unmarked⟩

theorem Grown.terms (grown : Grown versions later) :
    versions.map PlatformFeeRule.terms <+: later.map PlatformFeeRule.terms := by
  cases grown with
  | same same => rw [same]
  | created _ first =>
    rw [first]
    exact List.nil_prefix
  | updated rule current published =>
    have same : PlatformFeeRule.terms ∘ current.mark (current.version + 1) =
        PlatformFeeRule.terms := funext (terms_mark _)
    rw [published, List.map_map, same, List.map_append]
    exact List.prefix_append _ _

theorem ruleHistory_eq (chained : Chained (store.versionsOf ruleKey)) :
    store.ruleHistory ruleKey =
      if (store.versionsOf ruleKey).isEmpty then .error (.notFound "No fee rule with that key.")
      else .ok (store.versionsOf ruleKey).reverse := by
  have sorted : (store.versionsOf ruleKey).mergeSort (fun first second =>
      second.version ≤ first.version) = (store.versionsOf ruleKey).reverse := by
    refine List.Perm.eq_of_pairwise ?_
      (List.pairwise_mergeSort (by simp; omega) (by simp; omega) _) ?_
      ((List.mergeSort_perm _ _).trans (List.reverse_perm _).symm)
    · intro first second isFirst isSecond above below
      rw [List.mem_mergeSort] at isFirst
      rcases List.getElem?_of_mem isFirst with ⟨i, found⟩
      rcases List.getElem?_of_mem (List.mem_reverse.mp isSecond) with ⟨j, found'⟩
      have number := (chained i first found).1
      have number' := (chained j second found').1
      have same : i = j := by
        simp only [decide_eq_true_eq] at above below
        omega
      subst same
      exact Option.some.inj (found.symm.trans found')
    · rw [List.pairwise_reverse, List.pairwise_iff_getElem]
      intro i j within within' before
      have number := (chained i _ (List.getElem?_eq_getElem within)).1
      have number' := (chained j _ (List.getElem?_eq_getElem within')).1
      rw [decide_eq_true_eq]
      omega
  rw [FeeRuleStore.ruleHistory, sorted, List.isEmpty_reverse]

theorem ruleHistory_ok (chained : Chained (store.versionsOf ruleKey))
    (listed : store.ruleHistory ruleKey = .ok versions) :
    (store.versionsOf ruleKey).isEmpty = false ∧ versions = (store.versionsOf ruleKey).reverse := by
  rw [ruleHistory_eq chained] at listed
  split at listed
  · cases listed
  · rename_i some
    cases listed
    exact ⟨Bool.eq_false_iff.mpr some, rfl⟩

theorem chained_of_reaches {admissible : FeeRuleStore → Action → Prop}
    (chained : Chained (store.versionsOf ruleKey))
    (reached : feeRules.Reaches admissible store after) :
    Chained (after.versionsOf ruleKey) := by
  apply reached.invariant (fun store => Chained (store.versionsOf ruleKey)) chained
  exact fun _ _ _ chained _ stepped => chained.grown (grown_step stepped)

theorem terms_of_reaches {admissible : FeeRuleStore → Action → Prop}
    (reached : feeRules.Reaches admissible store after) :
    (store.versionsOf ruleKey).map PlatformFeeRule.terms <+:
      (after.versionsOf ruleKey).map PlatformFeeRule.terms := by
  apply reached.invariant fun after => (store.versionsOf ruleKey).map PlatformFeeRule.terms <+:
    (after.versionsOf ruleKey).map PlatformFeeRule.terms
  · exact List.prefix_rfl
  · exact fun _ _ _ longer _ stepped => longer.trans (grown_step stepped).terms

end

/--
The panel shows the versions of a key numbered down to one without a gap, the newest not
superseded and every other one superseded by the one above it.  Whatever it has shown it
shows in every later state, and what is published since stands above that.
-/
theorem ruleHistoryStands {store later : FeeRuleStore} {ruleKey : String}
    {versions : List PlatformFeeRule}
    (reached : feeRules.Reaches (fun _ _ => True) .empty store)
    (continues : feeRules.Reaches (fun _ _ => True) store later)
    (listed : store.ruleHistory ruleKey = .ok versions) :
    ∃ shown newer, later.ruleHistory ruleKey = .ok shown ∧
      shown.map PlatformFeeRule.terms = newer ++ versions.map PlatformFeeRule.terms ∧
      ∀ (i : ℕ) (rule : PlatformFeeRule), shown[i]? = some rule →
        rule.version = shown.length - i ∧
        rule.supersededByVersion = if i = 0 then none else some (rule.version + 1) := by
  have chained : Chained (store.versionsOf ruleKey) :=
    chained_of_reaches (fun i rule found => by cases found) reached
  have chained' := chained_of_reaches chained continues
  rcases ruleHistory_ok chained listed with ⟨some, rfl⟩
  have grown : (store.versionsOf ruleKey).map PlatformFeeRule.terms <+:
      (later.versionsOf ruleKey).map PlatformFeeRule.terms := terms_of_reaches continues
  have some' : (later.versionsOf ruleKey).isEmpty = false := by
    cases listed' : later.versionsOf ruleKey with
    | nil =>
      rw [listed'] at grown
      rw [List.map_eq_nil_iff.mp (List.prefix_nil.mp grown)] at some
      cases some
    | cons => rfl
  rcases grown with ⟨newer, longer⟩
  refine ⟨_, newer.reverse, (ruleHistory_eq chained').trans (if_neg ?_), ?_, ?_⟩
  · rw [some']
    exact Bool.false_ne_true
  · rw [List.map_reverse, ← longer, List.reverse_append, List.map_reverse]
  · intro i rule found
    have within := (List.getElem?_eq_some_iff.mp found).1
    rw [List.length_reverse] at within
    rw [List.getElem?_reverse within] at found
    rcases chained' _ _ found with ⟨number, superseded⟩
    rw [List.length_reverse, superseded, number]
    refine ⟨by omega, ?_⟩
    by_cases newest : i = 0
    · rw [if_pos newest, if_pos (by omega)]
    · rw [if_neg newest, if_neg (by omega)]

/-- A commission is changed twice, the second time after the panel was looked at. -/
theorem ruleHistoryStands_changed :
    ∃ (store later : FeeRuleStore) (versions shown newer : List PlatformFeeRule),
      store.ruleHistory "platform-commission-washer" = .ok versions ∧ versions.length = 2 ∧
      later.ruleHistory "platform-commission-washer" = .ok shown ∧
      shown.map PlatformFeeRule.terms = newer ++ versions.map PlatformFeeRule.terms := by
  have performed : ((feeRules.perform (commissions [(12, 30)]) .empty).bind fun store =>
      (feeRules.perform ((commissions [(12, 30), (15, 50)]).drop 2) store).map fun _ =>
        (store.versionsOf "platform-commission-washer").length) = some 2 := by
    decide +kernel
  rcases Option.bind_eq_some_iff.mp performed with ⟨store, first, rest⟩
  rcases Option.map_eq_some_iff.mp rest with ⟨later, second, length⟩
  have reached := System.reaches_of_perform first
  have chained : Chained (store.versionsOf "platform-commission-washer") :=
    chained_of_reaches (fun i rule found => by cases found) reached
  have listed := (ruleHistory_eq chained).trans (if_neg (by
    rw [List.isEmpty_iff_length_eq_zero]
    omega))
  rcases ruleHistoryStands reached (System.reaches_of_perform second) listed with
    ⟨shown, newer, listed', same, _⟩
  exact ⟨store, later, _, shown, newer, listed, List.length_reverse.trans length, listed', same⟩

end Lalaba.Fees
