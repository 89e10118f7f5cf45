import Lalaba.Fees.Resolution

/-!
# Switching a rule off and on

A rule is switched off by publishing one more version, which is inactive and
starts at once.  That version decides until a version starts later, and versions
that were scheduled before the switch are still there.  So the rule stays off when
no scheduled version is active, or when each has been withdrawn by an inactive one
for the same instant with a higher number.  A rule that is switched on is in force
at once.
-/

namespace Lalaba.Fees

open Foundation

/-! ## What a call publishes -/

/-- Two versions differ in nothing but the note on what supersedes them. -/
structure SameTerms (first second : PlatformFeeRule) : Prop where
  input : first.toSavePlatformFeeRuleInput = second.toSavePlatformFeeRuleInput
  ruleKey : first.ruleKey = second.ruleKey
  version : first.version = second.version

namespace SameTerms

variable {first second : PlatformFeeRule}

theorem isActive (same : SameTerms first second) :
    first.isActive = second.isActive :=
  congrArg (·.isActive) same.input

theorem effectiveFrom (same : SameTerms first second) :
    first.effectiveFrom = second.effectiveFrom :=
  congrArg (·.effectiveFrom) same.input

theorem effectiveUntil (same : SameTerms first second) :
    first.effectiveUntil = second.effectiveUntil :=
  congrArg (·.effectiveUntil) same.input

theorem appliesTo (same : SameTerms first second) :
    first.appliesTo = second.appliesTo :=
  congrArg (·.appliesTo) same.input

theorem category (same : SameTerms first second) :
    first.category = second.category :=
  congrArg (·.category) same.input

end SameTerms

/-- The versions of a store, perhaps with other notes, and one more. -/
structure Published (rule : PlatformFeeRule) (store after : FeeRuleStore) : Prop where
  added : rule ∈ after.rules
  kept : ∀ old ∈ store.rules, ∃ new ∈ after.rules, SameTerms new old
  origin : ∀ new ∈ after.rules, new = rule ∨ ∃ old ∈ store.rules, SameTerms new old

theorem Published.supersede {store after : FeeRuleStore}
    {rule current : PlatformFeeRule}
    {nextVersion : ℕ} (published : Published rule store after)
    (other : rule.version ≠ current.version) :
    Published rule store (after.supersede current nextVersion) := by
  have same : ∀ old : PlatformFeeRule, SameTerms
      (if old.ruleKey = current.ruleKey ∧
          old.version = current.version then
        { old with supersededByVersion := some nextVersion }
      else old) old := by
    intro old
    split <;> exact ⟨rfl, rfl, rfl⟩
  refine ⟨?_, ?_, ?_⟩
  · apply List.mem_map.mpr
    exact ⟨rule, published.added, if_neg fun isIt => other isIt.2⟩
  · intro old stored
    obtain ⟨new, member, terms⟩ := published.kept old stored
    refine ⟨_, List.mem_map_of_mem member, ?_⟩
    exact ⟨(same new).input.trans terms.input, (same new).ruleKey.trans terms.ruleKey,
      (same new).version.trans terms.version⟩
  · intro marked stored
    obtain ⟨new, member, rfl⟩ := List.mem_map.mp stored
    rcases published.origin new member with isIt | ⟨old, stored', terms⟩
    · left
      rw [isIt]
      exact if_neg fun isIt => other isIt.2
    · right
      refine ⟨old, stored', ?_⟩
      exact ⟨(same new).input.trans terms.input, (same new).ruleKey.trans terms.ruleKey,
        (same new).version.trans terms.version⟩

namespace FeeRuleStore

variable {store after : FeeRuleStore}

theorem published_insertRule {rule : PlatformFeeRule}
    (inserted : store.insertRule rule = .ok after) :
    Published rule store after := by
  rw [insertRule] at inserted
  split at inserted
  · cases inserted
  · cases inserted
    refine ⟨?_, ?_, ?_⟩
    · exact List.mem_append_right _ (List.mem_singleton_self rule)
    · intro old stored
      exact ⟨old, List.mem_append_left _ stored, rfl, rfl, rfl⟩
    · intro new stored
      rcases List.mem_append.mp stored with stored | isIt
      · exact .inr ⟨new, stored, rfl, rfl, rfl⟩
      · exact .inl (List.mem_singleton.mp isIt)

variable {ruleKey : String} {adminUid : Uid} {adminName : Option String}

theorem newestVersion_ok {current : PlatformFeeRule}
    (newest : store.newestVersion ruleKey = .ok current) :
    current ∈ store.rules ∧ current.ruleKey = ruleKey ∧
      ∀ other ∈ store.rules, other.ruleKey = ruleKey → other.version ≤ current.version := by
  rw [newestVersion] at newest
  split at newest
  · cases newest
  · next found =>
    cases newest
    have stored := List.mem_filter.mp (List.argmax_mem found)
    refine ⟨stored.1, eq_of_beq stored.2, ?_⟩
    intro other member key
    apply List.le_of_mem_argmax _ found
    exact List.mem_filter.mpr ⟨member, by simp [key]⟩

/-- A version follows the newest one of its key. -/
structure Follows (rule current : PlatformFeeRule) (store : FeeRuleStore) : Prop where
  newest : store.newestVersion rule.ruleKey = .ok current
  version : rule.version = current.version + 1
  appliesTo : rule.appliesTo = current.appliesTo
  category : rule.category = current.category

theorem dated_of_validateRule {draft : SavePlatformFeeRuleInput}
    (accepted : validateRule draft = .ok ()) :
    ∀ finish ∈ draft.effectiveUntil, draft.effectiveFrom < finish := by
  have terms := (validateRule_ok accepted).2.2
  rw [validateTerms] at terms
  intro finish isIt
  split at terms
  · cases terms
  · split at terms
    · cases terms
    · next later =>
      rw [Option.mem_def.mp isIt] at later
      simpa using later

/-- What `updateRule` publishes. -/
structure Update (ruleKey : String) (input : SavePlatformFeeRuleInput)
    (rule : PlatformFeeRule) (store after : FeeRuleStore) : Prop where
  ofKey : rule.ruleKey = ruleKey
  terms : rule.toSavePlatformFeeRuleInput = input
  accepted : validateRule input = .ok ()
  follows : ∃ current, Follows rule current store
  published : Published rule store after

theorem updateRule_update {input : SavePlatformFeeRuleInput} :
    Yields (store.updateRule ruleKey input adminUid adminName)
      fun after => ∃ rule, Update ruleKey input rule store after := by
  apply Yields.bind
  intro _ accepted
  apply Yields.bind
  intro current newest
  apply Yields.bind
  intro _ same
  apply Yields.bind
  intro inserted isInserted
  apply Yields.pure
  rw [assertSameRule] at same
  split at same
  · cases same
  · next payer =>
    split at same
    · cases same
    · next category =>
      refine ⟨_, rfl, rfl, accepted, ⟨current, ?_⟩,
        (published_insertRule isInserted).supersede (Nat.succ_ne_self _)⟩
      exact ⟨newest, rfl, not_not.mp payer, not_not.mp category⟩

theorem setRuleActive_update {now : Instant} {isActive : Bool}
    {changeReason : Option String} :
    Yields (store.setRuleActive now ruleKey isActive adminUid adminName changeReason) fun after =>
        ∃ rule input, Update ruleKey input rule store after ∧
          input.isActive = isActive ∧ input.effectiveFrom = now := by
  apply Yields.bind
  intro current newest after updated
  obtain ⟨rule, update⟩ := updateRule_update after updated
  rw [(newestVersion_ok newest).2.1] at update
  exact ⟨rule, _, update, rfl, rfl⟩

theorem createRule_published {input : SavePlatformFeeRuleInput} :
    Yields (store.createRule input adminUid adminName) fun after =>
      ∃ rule, rule.toSavePlatformFeeRuleInput = input ∧
        validateRule input = .ok () ∧
        (∀ other ∈ store.rules, other.ruleKey ≠ rule.ruleKey) ∧
        Published rule store after := by
  apply Yields.bind
  intro _ accepted
  apply Yields.bind
  intro _ unnamed after inserted
  refine ⟨_, rfl, accepted, ?_, published_insertRule inserted⟩
  intro other stored same
  rw [assertUnnamed, if_pos] at unnamed
  · cases unnamed
  · exact List.any_eq_true.mpr ⟨other, stored, by simp [same]⟩

end FeeRuleStore

/-! ## Histories -/

def LeavesOff (ruleKey : String) (_ : FeeRuleStore) : Action → Prop
  | .createRule _ _ _ => True
  | .updateRule key _ _ _ => key ≠ ruleKey
  | .setRuleActive _ key isActive _ _ _ => key = ruleKey → isActive = false

def PlatformFeeRule.Dated (rule : PlatformFeeRule) : Prop :=
  ∀ finish ∈ rule.effectiveUntil, rule.effectiveFrom < finish

theorem PlatformFeeRule.Dated.inEffect {rule : PlatformFeeRule}
    (dated : rule.Dated) (active : rule.isActive = true) :
    isRuleInEffect rule rule.effectiveFrom = true := by
  apply (isRuleInEffect_iff rule).mpr
  refine ⟨active, ?_⟩
  rw [PlatformFeeRule.window]
  simp only [Bool.and_eq_true, decide_eq_true_eq, le_refl, true_and]
  rcases ends : rule.effectiveUntil with _ | finish
  · rfl
  · exact decide_eq_true (dated finish ends)

/-- What one call publishes. -/
structure Step (action : Action) (rule : PlatformFeeRule) (store after : FeeRuleStore) : Prop where
  published : Published rule store after
  dated : rule.Dated
  follows : (∀ other ∈ store.rules, other.ruleKey ≠ rule.ruleKey) ∨
    (∃ current, FeeRuleStore.Follows rule current store) ∧
      (LeavesOff rule.ruleKey store action → rule.isActive = false)

theorem Step.of_update {action : Action} {ruleKey : String}
    {input : SavePlatformFeeRuleInput} {rule : PlatformFeeRule}
    {store after : FeeRuleStore}
    (update : FeeRuleStore.Update ruleKey input rule store after)
    (off : LeavesOff ruleKey store action → input.isActive = false) :
    Step action rule store after where
  published := update.published
  dated := by
    have dated := FeeRuleStore.dated_of_validateRule update.accepted
    rw [← update.terms] at dated
    exact dated
  follows := by
    refine .inr ⟨update.follows, ?_⟩
    rw [update.ofKey]
    intro leaves
    have inactive := off leaves
    rw [← update.terms] at inactive
    exact inactive

theorem step_publishes {action : Action} {store after : FeeRuleStore}
    (stepped : feeRules.step action store = some after) :
    ∃ rule, Step action rule store after := by
  have returned := toOption_eq_some.mp stepped
  cases action with
  | createRule input adminUid adminName =>
    obtain ⟨rule, terms, accepted, unused, published⟩ :=
      FeeRuleStore.createRule_published after returned
    have dated := FeeRuleStore.dated_of_validateRule accepted
    rw [← terms] at dated
    exact ⟨rule, published, dated, .inl unused⟩
  | updateRule ruleKey input adminUid adminName =>
    obtain ⟨rule, update⟩ := FeeRuleStore.updateRule_update after returned
    exact ⟨rule, .of_update update fun leaves => absurd rfl leaves⟩
  | setRuleActive now ruleKey isActive adminUid adminName changeReason =>
    obtain ⟨rule, input, update, active, _⟩ := FeeRuleStore.setRuleActive_update after returned
    refine ⟨rule, .of_update update ?_⟩
    intro leaves
    exact active.trans (leaves rfl)

namespace FeeRuleStore

/-- What holds of the versions in every history. -/
structure Orderly (store : FeeRuleStore) : Prop where
  numbered : store.Numbered
  dated : ∀ rule ∈ store.rules, rule.Dated
  appliesTo : ∀ first ∈ store.rules, ∀ second ∈ store.rules,
    first.ruleKey = second.ruleKey → first.appliesTo = second.appliesTo
  category : ∀ first ∈ store.rules, ∀ second ∈ store.rules,
    first.ruleKey = second.ruleKey → first.category = second.category

variable {store after : FeeRuleStore}

theorem shared_published {Field : Type} (field : PlatformFeeRule → Field)
    {rule : PlatformFeeRule} (published : Published rule store after)
    (same : ∀ first second, SameTerms first second → field first = field second)
    (shared : ∀ first ∈ store.rules, ∀ second ∈ store.rules,
      first.ruleKey = second.ruleKey → field first = field second)
    (joins : ∀ other ∈ store.rules, other.ruleKey = rule.ruleKey → field other = field rule) :
    ∀ first ∈ after.rules, ∀ second ∈ after.rules,
      first.ruleKey = second.ruleKey → field first = field second := by
  intro first isFirst second isSecond key
  rcases published.origin first isFirst with rfl | ⟨old, stored, terms⟩
  · rcases published.origin second isSecond with
      rfl | ⟨old', stored', terms'⟩
    · rfl
    · rw [same _ _ terms']
      exact (joins old' stored' (terms'.ruleKey.symm.trans key.symm)).symm
  · rcases published.origin second isSecond with
      rfl | ⟨old', stored', terms'⟩
    · rw [same _ _ terms]
      exact joins old stored (terms.ruleKey.symm.trans key)
    · rw [same _ _ terms, same _ _ terms']
      exact shared old stored old' stored' (terms.ruleKey.symm.trans (key.trans terms'.ruleKey))

theorem Orderly.step {action : Action} (orderly : store.Orderly)
    (stepped : feeRules.step action store = some after) :
    after.Orderly := by
  obtain ⟨rule, published, dated, follows⟩ := step_publishes stepped
  have joins : ∀ other ∈ store.rules, other.ruleKey = rule.ruleKey →
      other.appliesTo = rule.appliesTo ∧ other.category = rule.category := by
    intro other stored key
    rcases follows with unused | ⟨⟨current, follows⟩, _⟩
    · exact absurd key (unused other stored)
    · have newest := newestVersion_ok follows.newest
      have sameKey := key.trans newest.2.1.symm
      exact
        ⟨(orderly.appliesTo other stored current newest.1 sameKey).trans
            follows.appliesTo.symm,
          (orderly.category other stored current newest.1 sameKey).trans follows.category.symm⟩
  refine ⟨orderly.numbered.step stepped, ?_, ?_, ?_⟩
  · intro new stored
    rcases published.origin new stored with rfl | ⟨old, stored', terms⟩
    · exact dated
    · rw [PlatformFeeRule.Dated, terms.effectiveUntil, terms.effectiveFrom]
      exact orderly.dated old stored'
  · exact shared_published (·.appliesTo) published
      (fun _ _ terms => terms.appliesTo) orderly.appliesTo
      fun other stored key => (joins other stored key).1
  · exact shared_published (·.category) published
      (fun _ _ terms => terms.category) orderly.category
      fun other stored key => (joins other stored key).2

theorem Orderly.of_reaches {admissible : FeeRuleStore → Action → Prop}
    (reached : feeRules.Reaches admissible .empty store) :
    store.Orderly := by
  apply reached.invariant Orderly
  · refine ⟨List.nodup_nil, ?_, ?_, ?_⟩ <;> exact fun _ stored => by cases stored
  · intro store action after orderly _ stepped
    exact orderly.step stepped

end FeeRuleStore

/-- The first candidate of a key comes before every other of the key. -/
theorem mem_firstOfEachKey {rule : PlatformFeeRule}
    {candidates : List PlatformFeeRule}
    (first : rule ∈ firstOfEachKey candidates) :
    ∃ before after, candidates = before ++ rule :: after ∧
      ∀ other ∈ before, other.ruleKey ≠ rule.ruleKey := by
  have general : ∀ (rest seen byKey : List PlatformFeeRule),
      (∀ other ∈ seen, ∃ kept ∈ byKey, kept.ruleKey = other.ruleKey) →
      (∀ kept ∈ byKey, ∃ before after, seen = before ++ kept :: after ∧
        ∀ other ∈ before, other.ruleKey ≠ kept.ruleKey) →
      rule ∈ rest.foldl (fun byKey rule =>
          if byKey.any fun other => other.ruleKey == rule.ruleKey then byKey
          else byKey ++ [rule])
        byKey →
      ∃ before after, seen ++ rest = before ++ rule :: after ∧
        ∀ other ∈ before, other.ruleKey ≠ rule.ruleKey := by
    intro rest
    induction rest with
    | nil =>
      intro seen byKey _ firsts found
      rw [List.append_nil]
      exact firsts rule found
    | cons next rest induction =>
      intro seen byKey covered firsts found
      rw [List.foldl_cons] at found
      rw [List.append_cons]
      split at found
      · next known =>
        refine induction (seen ++ [next]) byKey ?_ ?_ found
        · intro other member
          rcases List.mem_append.mp member with earlier | isIt
          · exact covered other earlier
          · rw [List.mem_singleton.mp isIt]
            obtain ⟨kept, member, same⟩ := List.any_eq_true.mp known
            exact ⟨kept, member, eq_of_beq same⟩
        · intro kept member
          obtain ⟨before, after, isSeen, apart⟩ := firsts kept member
          exact ⟨before, after ++ [next], by simp [isSeen], apart⟩
      · next unknown =>
        refine induction (seen ++ [next]) (byKey ++ [next]) ?_ ?_ found
        · intro other member
          rcases List.mem_append.mp member with earlier | isIt
          · obtain ⟨kept, member, same⟩ := covered other earlier
            exact ⟨kept, List.mem_append_left _ member, same⟩
          · exact ⟨next, List.mem_append_right _ (List.mem_singleton_self next),
              congrArg _ (List.mem_singleton.mp isIt).symm⟩
        · intro kept member
          rcases List.mem_append.mp member with earlier | isIt
          · obtain ⟨before, after, isSeen, apart⟩ := firsts kept earlier
            exact ⟨before, after ++ [next], by simp [isSeen], apart⟩
          · rw [List.mem_singleton.mp isIt]
            refine ⟨seen, [], rfl, ?_⟩
            intro other member same
            obtain ⟨kept, isKept, key⟩ := covered other member
            apply unknown
            exact List.any_eq_true.mpr ⟨kept, isKept, by simp [key, same]⟩
  have all := general candidates [] [] (fun _ none => by cases none)
    (fun _ none => by cases none) first
  rw [List.nil_append] at all
  exact all

theorem startedLast_of_resolveRule {store : FeeRuleStore}
    {appliesTo : FeePayerRole} {category : FeeCategory}
    {instant : Instant} {rule : PlatformFeeRule}
    (found : store.resolveRule appliesTo category instant = some rule) :
    isRuleInEffect rule instant = true ∧
      StartedLast ((store.matching appliesTo category).filter
        fun other => other.ruleKey == rule.ruleKey) instant rule := by
  rw [FeeRuleStore.resolveRule] at found
  have inEffect := List.find?_some found
  obtain ⟨before, after, sorted, apart⟩ := mem_firstOfEachKey (List.mem_of_find?_eq_some found)
  have candidate : rule ∈ store.candidates appliesTo category instant :=
    sorted ▸ List.mem_append_right _ List.mem_cons_self
  have ordered := List.pairwise_insertionSort PlatformFeeRule.Precedes
    ((store.matching appliesTo category).filter fun rule =>
      rule.effectiveFrom ≤ instant)
  rw [← FeeRuleStore.candidates, sorted] at ordered
  have started := mem_candidates.mp candidate
  refine ⟨inEffect, ⟨List.mem_filter.mpr ⟨started.1, by simp⟩, started.2⟩, ?_⟩
  intro other member started'
  obtain ⟨matching, key⟩ := List.mem_filter.mp member
  have isCandidate : other ∈ before ++ rule :: after :=
    sorted ▸ mem_candidates.mpr ⟨matching, started'⟩
  rcases List.mem_append.mp isCandidate with earlier | later
  · exact absurd (eq_of_beq key) (apart other earlier)
  · rcases List.mem_cons.mp later with rfl | later
    · exact .inr ⟨rfl, le_rfl⟩
    · exact List.rel_of_pairwise_cons (List.pairwise_append.mp ordered).2.1 later

/-! ## Off and on -/

/--
No version that is dated after an instant is active, unless an inactive one with a
higher number starts with it.
-/
def FeeRuleStore.Settled (ruleKey : String) (now : Instant)
    (store : FeeRuleStore) : Prop :=
  ∀ rule ∈ store.rules, rule.ruleKey = ruleKey → rule.isActive = true →
    now < rule.effectiveFrom →
    ∃ other ∈ store.rules, other.ruleKey = ruleKey ∧
      other.effectiveFrom = rule.effectiveFrom ∧
      rule.version < other.version ∧ other.isActive = false

/--
From an instant on, no version of a key is resolved, until terms are published for
the key or it is switched on.
-/
def FeeRuleStore.StaysOff (ruleKey : String) (now : Instant)
    (store : FeeRuleStore) : Prop :=
  ∀ later, feeRules.Reaches (LeavesOff ruleKey) store later →
    ∀ appliesTo category instant rule, now ≤ instant →
      later.resolveRule appliesTo category instant = some rule →
      rule.ruleKey ≠ ruleKey

def FeeRuleStore.Alone (ruleKey : String) (store : FeeRuleStore) : Prop :=
  ∀ rule ∈ store.rules, rule.ruleKey = ruleKey → store.SharesKey rule.appliesTo rule.category

namespace FeeRuleStore

variable {store after : FeeRuleStore} {ruleKey : String} {now : Instant}

/-- What switching off leaves behind, and every call that leaves it off. -/
structure SwitchedOff (ruleKey : String) (now : Instant) (store : FeeRuleStore) : Prop where
  orderly : store.Orderly
  switched : ∃ rule ∈ store.rules, rule.ruleKey = ruleKey ∧ rule.effectiveFrom = now
  withdrawn : ∀ rule ∈ store.rules, rule.ruleKey = ruleKey →
    rule.isActive = true → now ≤ rule.effectiveFrom →
    ∃ other ∈ store.rules, other.ruleKey = ruleKey ∧
      other.effectiveFrom = rule.effectiveFrom ∧
      rule.version < other.version ∧ other.isActive = false

theorem SwitchedOff.step {action : Action}
    (off : store.SwitchedOff ruleKey now)
    (leaves : LeavesOff ruleKey store action)
    (stepped : feeRules.step action store = some after) :
    after.SwitchedOff ruleKey now := by
  obtain ⟨added, published, _, follows⟩ := step_publishes stepped
  refine ⟨off.orderly.step stepped, ?_, ?_⟩
  · obtain ⟨rule, stored, key, start⟩ := off.switched
    obtain ⟨new, member, terms⟩ := published.kept rule stored
    exact ⟨new, member, terms.ruleKey.trans key, terms.effectiveFrom.trans start⟩
  · intro new stored key active start
    rcases published.origin new stored with rfl | ⟨old, stored', terms⟩
    · -- What is published for the key is inactive.
      obtain ⟨rule, isRule, sameKey, _⟩ := off.switched
      rcases follows with unused | ⟨_, inactive⟩
      · exact absurd (sameKey.trans key.symm) (unused rule isRule)
      · rw [key] at inactive
        rw [inactive leaves] at active
        cases active
    · obtain ⟨other, isOther, otherKey, same, higher, inactive⟩ :=
        off.withdrawn old stored' (terms.ruleKey.symm.trans key)
          (terms.isActive.symm.trans active)
          (terms.effectiveFrom ▸ start)
      obtain ⟨other', isOther', terms'⟩ := published.kept other isOther
      refine ⟨other', isOther', terms'.ruleKey.trans otherKey, ?_, ?_,
        terms'.isActive.trans inactive⟩
      · rw [terms'.effectiveFrom, same, terms.effectiveFrom]
      · rw [terms.version, terms'.version]
        exact higher

variable {input : SavePlatformFeeRuleInput} {published rule : PlatformFeeRule}

theorem SwitchedOff.unresolved {appliesTo : FeePayerRole}
    {category : FeeCategory} {instant : Instant}
    (off : store.SwitchedOff ruleKey now) (reached : now ≤ instant)
    (found : store.resolveRule appliesTo category instant = some rule) :
    rule.ruleKey ≠ ruleKey := by
  intro key
  obtain ⟨inEffect, last⟩ := startedLast_of_resolveRule found
  have active := ((isRuleInEffect_iff rule).mp inEffect).1
  obtain ⟨matching, _⟩ := List.mem_filter.mp last.1.1
  obtain ⟨stored, terms⟩ := List.mem_filter.mp matching
  have answers := of_decide_eq_true terms
  have inKey : ∀ other ∈ store.rules, other.ruleKey = ruleKey →
      other ∈ (store.matching appliesTo category).filter
        fun other => other.ruleKey == rule.ruleKey := by
    intro other isOther otherKey
    have same := otherKey.trans key.symm
    refine List.mem_filter.mpr ⟨List.mem_filter.mpr ⟨isOther, ?_⟩, by simp [same]⟩
    simp [off.orderly.appliesTo other isOther rule stored same,
      off.orderly.category other isOther rule stored same, answers]
  obtain ⟨switch, isSwitch, switchKey, start⟩ := off.switched
  have later : now ≤ rule.effectiveFrom := by
    have before := last.2 switch (inKey switch isSwitch switchKey) (start ▸ reached)
    rw [start] at before
    rcases before with before | ⟨same, _⟩
    · exact le_of_lt before
    · exact le_of_eq same
  obtain ⟨other, isOther, otherKey, same, higher, _⟩ := off.withdrawn rule stored key active later
  have before := last.2 other (inKey other isOther otherKey) (same ▸ last.1.2)
  rcases before with before | ⟨_, lower⟩
  · exact absurd same (ne_of_lt before)
  · exact absurd higher (not_lt_of_ge lower)

theorem switchedOff_of_settled (orderly : after.Orderly)
    (settled : store.Settled ruleKey now)
    (update : Update ruleKey input rule store after)
    (inactive : input.isActive = false) (start : input.effectiveFrom = now) :
    after.SwitchedOff ruleKey now := by
  have off : rule.isActive = false := by
    rw [← update.terms] at inactive
    exact inactive
  have starts : rule.effectiveFrom = now := by
    rw [← update.terms] at start
    exact start
  obtain ⟨current, follows⟩ := update.follows
  have newest := newestVersion_ok follows.newest
  refine ⟨orderly, ⟨rule, update.published.added, update.ofKey, starts⟩, ?_⟩
  intro new stored key active later
  rcases update.published.origin new stored with
    rfl | ⟨old, stored', terms⟩
  · rw [off] at active
    cases active
  · have oldKey := terms.ruleKey.symm.trans key
    rcases later.eq_or_lt with here | later
    · -- What starts at the switch has a lower number than the switch.
      refine ⟨rule, update.published.added, update.ofKey, starts.trans here, ?_, off⟩
      rw [terms.version, follows.version]
      exact Nat.lt_succ_of_le (newest.2.2 old stored' (oldKey.trans update.ofKey.symm))
    · obtain ⟨other, isOther, otherKey, same, higher, withdrawn⟩ :=
        settled old stored' oldKey (terms.isActive.symm.trans active) (terms.effectiveFrom ▸ later)
      obtain ⟨other', isOther', terms'⟩ := update.published.kept other isOther
      refine ⟨other', isOther', terms'.ruleKey.trans otherKey, ?_, ?_,
        terms'.isActive.trans withdrawn⟩
      · rw [terms'.effectiveFrom, same, terms.effectiveFrom]
      · rw [terms.version, terms'.version]
        exact higher

theorem SwitchedOff.staysOff (off : store.SwitchedOff ruleKey now) :
    store.StaysOff ruleKey now := by
  intro later reached appliesTo category instant rule started found
  have off' : later.SwitchedOff ruleKey now := by
    refine reached.invariant (SwitchedOff ruleKey now) off ?_
    intro store action after off leaves stepped
    exact off.step leaves stepped
  exact off'.unresolved started found

theorem sharesKey_update (alone : store.Alone ruleKey)
    (update : Update ruleKey input published store after)
    (stored : rule ∈ store.rules) (key : rule.ruleKey = ruleKey) :
    after.SharesKey rule.appliesTo rule.category := by
  have ofKey : ∀ other ∈ after.matching rule.appliesTo rule.category, other.ruleKey = ruleKey := by
    intro other matching
    obtain ⟨member, answers⟩ := List.mem_filter.mp matching
    rcases update.published.origin other member with
      rfl | ⟨old, stored', terms⟩
    · exact update.ofKey
    · have matching' : old ∈ store.matching rule.appliesTo rule.category := by
        refine List.mem_filter.mpr ⟨stored', ?_⟩
        rw [terms.appliesTo, terms.category] at answers
        exact answers
      have itself : rule ∈
          store.matching rule.appliesTo rule.category :=
        List.mem_filter.mpr ⟨stored, by simp⟩
      rw [terms.ruleKey, ← key]
      exact alone rule stored key old matching' rule itself
  intro first isFirst second isSecond
  exact (ofKey first isFirst).trans (ofKey second isSecond).symm

/-- A version that is still scheduled and active switches the key on again. -/
theorem settled_of_staysOff (orderly : store.Orderly) (orderly' : after.Orderly)
    (alone : store.Alone ruleKey)
    (update : Update ruleKey input published store after)
    (start : input.effectiveFrom = now) (stays : after.StaysOff ruleKey now) :
    store.Settled ruleKey now := by
  intro rule stored key active later
  by_contra unsettled
  push Not at unsettled
  obtain ⟨copy, isCopy, copied⟩ := update.published.kept rule stored
  have shares := sharesKey_update alone update stored key
  -- Of the versions that start with it the one with the highest number.
  have isFound : copy ∈ (after.matching rule.appliesTo rule.category).filter
        fun other => other.effectiveFrom = rule.effectiveFrom := by
    refine List.mem_filter.mpr ⟨List.mem_filter.mpr ⟨isCopy, ?_⟩, ?_⟩
    · simp [copied.appliesTo, copied.category]
    · simp [copied.effectiveFrom]
  rcases found : ((after.matching rule.appliesTo rule.category).filter
      fun other => other.effectiveFrom = rule.effectiveFrom).argmax
        PlatformFeeRule.version with _ | top
  · rw [List.argmax_eq_none.mp found] at isFound
    cases isFound
  obtain ⟨matching, starts⟩ := List.mem_filter.mp (List.argmax_mem found)
  have starts' : top.effectiveFrom = rule.effectiveFrom := of_decide_eq_true starts
  have higher : rule.version ≤ top.version := copied.version ▸ List.le_of_mem_argmax isFound found
  have last : StartedLast
      (after.matching rule.appliesTo rule.category) rule.effectiveFrom
        top := by
    refine ⟨⟨matching, le_of_eq starts'⟩, ?_⟩
    intro other isOther started
    rcases started.lt_or_eq with earlier | same
    · exact .inl (starts'.symm ▸ earlier)
    · right
      refine ⟨same.trans starts'.symm, ?_⟩
      exact List.le_of_mem_argmax (List.mem_filter.mpr ⟨isOther, decide_eq_true same⟩) found
  obtain ⟨member, _⟩ := List.mem_filter.mp matching
  have topKey : top.ruleKey = ruleKey := by
    rw [shares top matching copy (List.mem_filter.mp isFound).1, copied.ruleKey, key]
  have isActive : top.isActive = true := by
    rcases update.published.origin top member with
      rfl | ⟨old, stored', terms⟩
    · have now' : top.effectiveFrom = now := by
        rw [← update.terms] at start
        exact start
      rw [← now', starts'] at later
      exact absurd later (lt_irrefl _)
    · have oldKey := terms.ruleKey.symm.trans topKey
      have oldStart := terms.effectiveFrom.symm.trans starts'
      rw [terms.isActive]
      rcases (terms.version ▸ higher).eq_or_lt with same | more
      · have itself : rule = old :=
          List.inj_on_of_nodup_map orderly.numbered stored stored'
            (Prod.ext (key.trans oldKey.symm) same)
        rw [← itself]
        exact active
      · exact Bool.of_not_eq_false (unsettled old stored' oldKey oldStart more)
  have inEffect := (orderly'.dated top member).inEffect isActive
  rw [starts'] at inEffect
  have resolved := (resolveRule_eq_some orderly'.numbered shares).mpr ⟨last, inEffect⟩
  exact stays after .refl _ _ _ top (le_of_lt later) resolved topKey

theorem newest_of_update (update : Update ruleKey input published store after) :
    ∀ other ∈ after.rules, other.ruleKey = ruleKey →
      other = published ∨ other.version < published.version := by
  obtain ⟨current, follows⟩ := update.follows
  have newest := newestVersion_ok follows.newest
  intro other stored key
  rcases update.published.origin other stored with
    isIt | ⟨old, stored', terms⟩
  · exact .inl isIt
  · right
    rw [terms.version, follows.version]
    exact Nat.lt_succ_of_le (newest.2.2 old stored'
      ((terms.ruleKey.symm.trans key).trans update.ofKey.symm))

theorem resolved_of_update {appliesTo : FeePayerRole} {category : FeeCategory}
    (orderly : after.Orderly)
    (update : Update ruleKey input published store after)
    (start : published.effectiveFrom = now)
    (found : after.resolveRule appliesTo category now = some rule)
    (key : rule.ruleKey = ruleKey) : rule = published := by
  obtain ⟨_, last⟩ := startedLast_of_resolveRule found
  obtain ⟨matching, _⟩ := List.mem_filter.mp last.1.1
  obtain ⟨stored, terms⟩ := List.mem_filter.mp matching
  have answers := of_decide_eq_true terms
  have sameKey := update.ofKey.trans key.symm
  have inKey : published ∈ (after.matching appliesTo category).filter
      fun other => other.ruleKey == rule.ruleKey := by
    refine List.mem_filter.mpr
      ⟨List.mem_filter.mpr ⟨update.published.added, ?_⟩,
        by simp [sameKey]⟩
    simp [orderly.appliesTo published update.published.added rule stored
      sameKey, orderly.category published update.published.added rule stored sameKey, answers]
  have before := last.2 published inKey (le_of_eq start)
  rcases newest_of_update update rule stored key with isIt | lower
  · exact isIt
  · rcases before with earlier | ⟨_, higher⟩
    · rw [start] at earlier
      exact absurd last.1.2 (not_le_of_gt earlier)
    · exact absurd lower (not_lt_of_ge higher)

theorem newestVersion_update
    (update : Update ruleKey input published store after) :
    after.newestVersion ruleKey = .ok published := by
  have member : published ∈ after.versionsOf ruleKey :=
    List.mem_filter.mpr ⟨update.published.added, by simp [update.ofKey]⟩
  rcases newest : after.newestVersion ruleKey with _ | current
  · rw [newestVersion] at newest
    split at newest
    · next none =>
      rw [List.argmax_eq_none.mp none] at member
      cases member
    · cases newest
  · have top := newestVersion_ok newest
    rcases newest_of_update update current top.1 top.2.1 with
      isIt | lower
    · rw [isIt]
    · exact absurd lower (not_lt_of_ge (top.2.2 published update.published.added update.ofKey))

theorem startedLast_update (update : Update ruleKey input published store after)
    (shares : after.SharesKey published.appliesTo published.category) :
    StartedLast (after.matching published.appliesTo published.category)
      published.effectiveFrom published := by
  have itself : published ∈
      after.matching published.appliesTo published.category :=
    List.mem_filter.mpr ⟨update.published.added, by simp⟩
  refine ⟨⟨itself, le_rfl⟩, ?_⟩
  intro other matching started
  rcases started.lt_or_eq with earlier | same
  · exact .inl earlier
  · right
    refine ⟨same, ?_⟩
    have key := (shares other matching published itself).trans update.ofKey
    rcases newest_of_update update other (List.mem_filter.mp matching).1 key with isIt | lower
    · exact le_of_eq (congrArg _ isIt)
    · exact le_of_lt lower

end FeeRuleStore

/--
A rule that is switched off stays off exactly when it is settled, and a rule that
is switched on is in force at once.
-/
theorem switchTakesHold {store after : FeeRuleStore} {ruleKey : String}
    {now : Instant} {adminUid : Uid}
    {adminName changeReason : Option String}
    (reached : feeRules.Reaches (fun _ _ => True) .empty store) :
    (store.setRuleActive now ruleKey false adminUid adminName changeReason = .ok after →
      (store.Settled ruleKey now → after.StaysOff ruleKey now) ∧
        (store.Alone ruleKey → after.StaysOff ruleKey now → store.Settled ruleKey now)) ∧
    (store.setRuleActive now ruleKey true adminUid adminName changeReason = .ok after →
      ∃ published, after.newestVersion ruleKey = .ok published ∧
        isRuleInEffect published now = true ∧ (∀ appliesTo category rule,
          after.resolveRule appliesTo category now = some rule →
          rule.ruleKey = ruleKey → rule = published) ∧ (store.Alone ruleKey →
          after.resolveRule published.appliesTo published.category now = some published)) := by
  have orderly := FeeRuleStore.Orderly.of_reaches reached
  constructor
  · intro switched
    have stepped : feeRules.step
        (.setRuleActive now ruleKey false adminUid adminName changeReason)
        store = some after := toOption_eq_some.mpr switched
    have orderly' := orderly.step stepped
    obtain ⟨rule, input, update, inactive, start⟩ :=
      FeeRuleStore.setRuleActive_update after switched
    constructor
    · intro settled
      exact (FeeRuleStore.switchedOff_of_settled orderly' settled update inactive start).staysOff
    · intro alone stays
      exact FeeRuleStore.settled_of_staysOff orderly orderly' alone update start stays
  · intro switched
    have stepped : feeRules.step
        (.setRuleActive now ruleKey true adminUid adminName changeReason)
        store = some after := toOption_eq_some.mpr switched
    have orderly' := orderly.step stepped
    obtain ⟨rule, input, update, active, start⟩ := FeeRuleStore.setRuleActive_update after switched
    rw [← update.terms] at active start
    have inEffect := (orderly'.dated rule update.published.added).inEffect active
    rw [start] at inEffect
    refine ⟨rule, FeeRuleStore.newestVersion_update update, inEffect, ?_, ?_⟩
    · intro appliesTo category other found key
      exact FeeRuleStore.resolved_of_update orderly' update start found key
    · intro alone
      obtain ⟨current, follows⟩ := update.follows
      have newest := FeeRuleStore.newestVersion_ok follows.newest
      have shares := FeeRuleStore.sharesKey_update alone update newest.1
        (newest.2.1.trans update.ofKey)
      rw [← follows.appliesTo, ← follows.category] at shares
      have last := FeeRuleStore.startedLast_update update shares
      rw [start] at last
      exact (resolveRule_eq_some orderly'.numbered shares).mpr ⟨last, inEffect⟩

instance (ruleKey : String) (now : Instant) (store : FeeRuleStore) :
    Decidable (store.Settled ruleKey now) :=
  inferInstanceAs (Decidable (∀ rule ∈ store.rules,
    rule.ruleKey = ruleKey → rule.isActive = true → now < rule.effectiveFrom →
    ∃ other ∈ store.rules, other.ruleKey = ruleKey ∧
      other.effectiveFrom = rule.effectiveFrom ∧
      rule.version < other.version ∧ other.isActive = false))

/-- A commission without scheduled changes is switched off. -/
theorem switchTakesHold_off :
    ∃ store after,
      feeRules.Reaches (fun _ _ => True) .empty store ∧
        store.setRuleActive 40 "platform-commission-washer" false "admin"
            none none = .ok after ∧
          after.StaysOff "platform-commission-washer" 40 := by
  have performed : (feeRules.perform (commissions [(12, 30)]) .empty).map (fun store =>
        (decide (store.Settled "platform-commission-washer" 40),
          (store.setRuleActive 40 "platform-commission-washer" false
            "admin" none none).toOption.isSome)) = some (true, true) := by
    decide +kernel
  obtain ⟨store, ran, seen⟩ := Option.map_eq_some_iff.mp performed
  obtain ⟨settled, switches⟩ := Prod.mk.inj seen
  obtain ⟨after, switched⟩ := Option.isSome_iff_exists.mp switches
  have reached := System.reaches_of_perform ran
  have returned := toOption_eq_some.mp switched
  exact ⟨store, after, reached, returned,
    ((switchTakesHold reached).1 returned).1 (of_decide_eq_true settled)⟩

/--
A change is scheduled, and the rule is switched off before its day.  On that day
the scheduled version switches it on again.
-/
theorem scheduledVersionRevives :
    ¬ ∀ (store after : FeeRuleStore) (ruleKey : String) (now : Instant),
        feeRules.Reaches (fun _ _ => True) .empty store →
          store.setRuleActive now ruleKey false "admin" none none = .ok after →
          after.StaysOff ruleKey now := by
  intro always
  have performed : (feeRules.perform (commissions [(12, 30)]) .empty).map (fun store =>
        (store.setRuleActive 20 "platform-commission-washer" false "admin"
          none none).toOption.map fun after =>
            (after.resolveRule .homeWasher .commission 40).map fun rule =>
              (rule.ruleKey, rule.version)) =
      some (some (some ("platform-commission-washer", 2))) := by
    decide +kernel
  obtain ⟨store, ran, seen⟩ := Option.map_eq_some_iff.mp performed
  obtain ⟨after, switched, resolved⟩ := Option.map_eq_some_iff.mp seen
  obtain ⟨rule, found, isIt⟩ := Option.map_eq_some_iff.mp resolved
  have stays := always store after "platform-commission-washer" 20
    (System.reaches_of_perform ran) (toOption_eq_some.mp switched)
  exact stays after .refl _ _ 40 rule (by decide) found (Prod.mk.inj isIt).1

end Lalaba.Fees
