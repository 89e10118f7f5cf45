import Lalaba.Bookings.Service
import Lalaba.Bookings.Stacking

/-!
# The simulator

The simulator asks the ordinary resolver for a provider who sits exactly on the
thresholds of a milestone.  Such a provider is verified, in good standing and has never
cancelled, so a higher milestone that asks for no more orders and no better rating is
hers as well, and is what the simulator shows.
-/

namespace Lalaba.Bookings

open Orders (ProviderType)

def BookingMilestone.atThresholds (milestone : BookingMilestone) : ProviderStats where
  completedOrders := milestone.eligibility.minCompletedOrders.getD 0
  rating := some (milestone.eligibility.minRating.getD 5)
  cancellationRatePercent := some 0
  isVerified := true
  inGoodStanding := true

structure PolicySimulation where
  date : String
  entitlement : EffectiveEntitlement

namespace Store

def listMilestones (store : Store) : List BookingMilestone :=
  store.milestones.insertionSort fun first second =>
    first.rank ≤ second.rank

def liveCampaignsOn (date : String) (store : Store) :
    List BookingCampaign :=
  store.campaigns.filter fun campaign => isCampaignLive campaign date

/-- `simulate`; without a date it is today's, and an empty key is no key. -/
def simulate (now : Instant) (providerType : ProviderType)
    (milestoneKey date : Option String) (store : Store) :
    PolicySimulation :=
  let date := date.getD (dateKey (phDay now))
  let milestones := store.listMilestones
  let target := (milestoneKey.filter (· ≠ "")).bind fun key =>
    milestones.find? fun milestone => milestone.key == key
  let stats := (target.map BookingMilestone.atThresholds).getD NEW_PROVIDER_STATS
  { date
    entitlement := resolveEntitlement (some store.current) milestones
      (store.liveCampaignsOn date) stats providerType date }

end Store

/-- What the database and the checks of an edit keep true of the milestones. -/
structure Ladder (milestones : List BookingMilestone) : Prop where
  ranked : Ranked milestones
  keyed : (milestones.map BookingMilestone.key).Nodup
  named : ∀ milestone ∈ milestones, milestone.key ≠ ""
  ceilings : ∀ milestone ∈ milestones,
    ∀ most ∈ milestone.eligibility.maxCancellationRatePercent, 0 ≤ most

def Undemanding (other milestone : BookingMilestone) : Prop :=
  other.eligibility.minCompletedOrders.getD 0 ≤
      milestone.eligibility.minCompletedOrders.getD 0 ∧
    ∀ least ∈ other.eligibility.minRating, least ≤ milestone.eligibility.minRating.getD 5

def Undisputed (milestones : List BookingMilestone)
    (milestone : BookingMilestone) : Prop :=
  ∀ other ∈ milestones, other.Earnable →
    (milestone.isDefault = true ∨ milestone.rank < other.rank) → ¬ Undemanding other milestone

theorem undemanding_self (milestone : BookingMilestone) :
    Undemanding milestone milestone := by
  refine ⟨le_rfl, fun least asked => ?_⟩
  rw [Option.mem_def.mp asked]
  exact le_rfl

theorem satisfies_atThresholds {other milestone : BookingMilestone}
    (ceiling : ∀ most ∈ other.eligibility.maxCancellationRatePercent, 0 ≤ most) :
    satisfies other milestone.atThresholds = true ↔
      Undemanding other milestone := by
  rw [satisfies_iff]
  constructor
  · rintro ⟨orders, ratings, -, -, -⟩
    constructor
    · cases asked : other.eligibility.minCompletedOrders with
      | none => exact Nat.zero_le _
      | some least => exact orders least asked
    · intro least asked
      rcases ratings least asked with ⟨rating, same, enough⟩
      cases same
      exact enough
  · rintro ⟨orders, ratings⟩
    refine ⟨fun least asked => ?_,
      fun least asked => ⟨_, rfl, ratings least asked⟩,
      fun most asked rate same => ?_, fun _ => rfl, fun _ => rfl⟩
    · rw [Option.mem_def.mp asked] at orders
      exact orders
    · cases same
      exact ceiling most asked

section

variable {milestones : List BookingMilestone} {milestone : BookingMilestone} {stats : ProviderStats}

theorem mem_earned_atThresholds (ladder : Ladder milestones)
    {other : BookingMilestone} :
    other ∈ earned milestones milestone.atThresholds ↔
      other ∈ milestones ∧ other.Earnable ∧
        Undemanding other milestone := by
  rw [mem_earned]
  refine and_congr_right fun member => and_congr_right fun _ => ?_
  exact satisfies_atThresholds (ladder.ceilings other member)

/--
A provider sitting exactly on a milestone that someone has stands at it exactly when
everything above it asks for more.
-/
theorem resolveMilestone_atThresholds_iff (ladder : Ladder milestones)
    (stands : resolveMilestone milestones stats = some milestone) :
    resolveMilestone milestones milestone.atThresholds =
        some milestone ↔
      Undisputed milestones milestone := by
  have member := mem_of_resolveMilestone stands
  constructor
  · intro sits other among earnable above lenient
    have mine : other ∈ earned milestones milestone.atThresholds :=
      (mem_earned_atThresholds ladder).mpr ⟨among, earnable, lenient⟩
    rcases resolveMilestone_cases sits with ⟨own, highest⟩ | ⟨none, -⟩
    · have own := (mem_earned.mp own).2.1.2
      rw [own] at above
      rcases above with default | higher
      · cases default
      · exact absurd (highest other mine) (not_le.mpr higher)
    · rw [none] at mine
      cases mine
  · intro undisputed
    cases default : milestone.isDefault with
    | true =>
      have none : earned milestones milestone.atThresholds = [] := by
        refine List.eq_nil_iff_forall_not_mem.mpr fun other mine => ?_
        rcases (mem_earned_atThresholds ladder).mp mine with ⟨among, earnable, lenient⟩
        exact undisputed other among earnable (.inl default) lenient
      rw [resolveMilestone_of_none none]
      rcases resolveMilestone_cases stands with ⟨own, -⟩ | ⟨-, floor⟩
      · have own := (mem_earned.mp own).2.1.2
        rw [default] at own
        cases own
      · exact floor
    | false =>
      have own : milestone ∈
          earned milestones milestone.atThresholds :=
        (mem_earned_atThresholds ladder).mpr
          ⟨member.1, ⟨member.2, default⟩, undemanding_self milestone⟩
      refine ladder.ranked.resolveMilestone_eq own fun other mine => ?_
      rcases (mem_earned_atThresholds ladder).mp mine with ⟨among, earnable, lenient⟩
      exact not_lt.mp fun higher =>
        undisputed other among earnable (.inr higher) lenient

end

/-! ## The claim of the simulator -/

theorem resolveEntitlement_congr {milestones : List BookingMilestone}
    {stats stats' : ProviderStats}
    (same : resolveMilestone milestones stats = resolveMilestone milestones stats')
    (policy : Option BookingPolicy) (campaigns : List BookingCampaign)
    (providerType : ProviderType) (date : String) :
    resolveEntitlement policy milestones campaigns stats providerType
        date =
      resolveEntitlement policy milestones campaigns stats' providerType
        date := by
  simp only [resolveEntitlement, same]

theorem Ladder.perm {milestones milestones' : List BookingMilestone}
    (ladder : Ladder milestones) (same : milestones.Perm milestones') :
    Ladder milestones' where
  ranked := ladder.ranked.perm same
  keyed := (same.map BookingMilestone.key).nodup_iff.mp ladder.keyed
  named milestone member := ladder.named milestone (same.mem_iff.mpr member)
  ceilings milestone member := ladder.ceilings milestone (same.mem_iff.mpr member)

namespace Store

theorem listMilestones_perm (store : Store) :
    store.listMilestones.Perm store.milestones :=
  List.perm_insertionSort _ _

def Simulated (now : Instant) (date : Option String)
    (milestone : BookingMilestone) (store : Store) : Prop :=
  let simulation := store.simulate now .washer (some milestone.key) date
  simulation.entitlement.milestoneKey = some milestone.key ∧
    ∀ stats, resolveMilestone store.listMilestones stats =
        some milestone →
      let granted := resolveEntitlement (some store.current)
        store.listMilestones (store.liveCampaignsOn simulation.date) stats
        .washer simulation.date
      simulation.entitlement.dailyCapacity = granted.dailyCapacity ∧
        simulation.entitlement.advanceBookingDays = granted.advanceBookingDays

variable {store : Store} {milestone : BookingMilestone}

theorem simulate_entitlement (ladder : Ladder store.listMilestones)
    (member : milestone ∈ store.listMilestones) (now : Instant)
    (date : Option String) :
    (store.simulate now .washer (some milestone.key) date).entitlement =
      resolveEntitlement (some store.current) store.listMilestones
        (store.liveCampaignsOn (date.getD (dateKey (phDay now))))
        milestone.atThresholds .washer
        (date.getD (dateKey (phDay now))) := by
  have found : store.listMilestones.find? (fun other =>
      other.key == milestone.key) = some milestone := by
    cases search : store.listMilestones.find? fun other =>
        other.key == milestone.key with
    | none =>
      have absent := List.find?_eq_none.mp search milestone member
      simp at absent
    | some other =>
      have same : other.key = milestone.key := by
        simpa using List.find?_some search
      exact congrArg some (List.inj_on_of_nodup_map ladder.keyed
        (List.mem_of_find?_eq_some search) member same)
  have given : (some milestone.key).filter (· ≠ "") = some milestone.key := by
    rw [Option.filter_some, if_pos (decide_eq_true (ladder.named milestone member))]
  simp only [simulate, given, Option.bind_some, found, Option.map_some, Option.getD_some]

theorem milestoneKey_resolveEntitlement {policy : Option BookingPolicy}
    {milestones : List BookingMilestone}
    {campaigns : List BookingCampaign} {stats : ProviderStats}
    {date : String} :
    (resolveEntitlement policy milestones campaigns stats .washer date).milestoneKey =
      (resolveMilestone milestones stats).map BookingMilestone.key :=
  rfl

/--
The simulator shows the milestone it was asked for, and what it grants, exactly when
every milestone above it asks for more orders or a better rating.
-/
theorem simulate_iff (ladder : Ladder store.milestones)
    {stats : ProviderStats}
    (stands : resolveMilestone store.listMilestones stats =
      some milestone) (now : Instant) (date : Option String) :
    Simulated now date milestone store ↔ Undisputed store.milestones milestone := by
  have sorted := ladder.perm store.listMilestones_perm.symm
  have member := (mem_of_resolveMilestone stands).1
  have undisputed : Undisputed store.listMilestones milestone ↔
      Undisputed store.milestones milestone := by
    simp only [Undisputed, store.listMilestones_perm.mem_iff]
  rw [← undisputed, ← resolveMilestone_atThresholds_iff sorted stands]
  have simulated := simulate_entitlement sorted member now date
  unfold Simulated
  dsimp only
  rw [simulated, milestoneKey_resolveEntitlement]
  constructor
  · rintro ⟨keyed, -⟩
    rcases Option.map_eq_some_iff.mp keyed with ⟨shown, sits, same⟩
    have among := (mem_of_resolveMilestone sits).1
    rw [sits, List.inj_on_of_nodup_map sorted.keyed among member same]
  · intro sits
    refine ⟨by rw [sits, Option.map_some], fun stats' stands' => ?_⟩
    rw [resolveEntitlement_congr (sits.trans stands'.symm)]
    exact ⟨rfl, rfl⟩

end Store

namespace Sample

def starter : BookingMilestone where
  key := "starter"
  name := "Starter"
  rank := 0
  isDefault := true
  isActive := true
  eligibility := {}
  entitlements := { dailyCapacity := 3, advanceBookingDays := 14 }

def regular : BookingMilestone where
  key := "regular"
  name := "Regular"
  rank := 1
  isDefault := false
  isActive := true
  eligibility := { minCompletedOrders := some 10 }
  entitlements := { dailyCapacity := 5, advanceBookingDays := 14 }

def trusted : BookingMilestone where
  key := "trusted"
  name := "Trusted"
  rank := 2
  isDefault := false
  isActive := true
  eligibility := { minCompletedOrders := some 10, requireVerified := true }
  entitlements := { dailyCapacity := 8, advanceBookingDays := 30 }

def ladderStore : Store where
  configs := ∅
  overrides := []
  blackouts := []
  washers := ∅
  policy := none
  milestones := [starter, regular, trusted]
  campaigns := []
  orders := []
  counters := fun _ => 0
  overrides_unique := Store.unique_nil

def tenOrders : ProviderStats := { NEW_PROVIDER_STATS with completedOrders := 10 }

end Sample

theorem mem_ladderStore {milestone : BookingMilestone}
    (member : milestone ∈ Sample.ladderStore.milestones) :
    milestone = Sample.starter ∨ milestone = Sample.regular ∨ milestone = Sample.trusted := by
  simpa only [Sample.ladderStore, List.mem_cons, List.not_mem_nil, or_false] using member

theorem ladder_ladderStore : Ladder Sample.ladderStore.milestones where
  ranked := (by decide : (Sample.ladderStore.milestones.map BookingMilestone.rank).Nodup)
  keyed := by decide
  named := by decide
  ceilings := by
    intro milestone member most asked
    rcases mem_ladderStore member with rfl | rfl | rfl <;> cases asked

/-- A washer of ten orders is regular; the simulator shows the milestone above. -/
theorem simulate_regular :
    resolveMilestone Sample.ladderStore.listMilestones Sample.tenOrders =
        some Sample.regular ∧
      (Sample.ladderStore.simulate 0 .washer (some "regular")
        none).entitlement.milestoneKey = some "trusted" ∧
      ¬ Sample.ladderStore.Simulated 0 none Sample.regular := by
  have shown : (Sample.ladderStore.simulate 0 .washer (some "regular")
      none).entitlement.milestoneKey = some "trusted" := by
    decide +kernel
  refine ⟨by decide +kernel, shown, fun simulated => ?_⟩
  exact absurd (shown.symm.trans simulated.1) (by decide)

/-- The milestone at the top is simulated as it is. -/
theorem simulate_iff_trusted :
    Sample.ladderStore.Simulated 0 none Sample.trusted :=
  (Store.simulate_iff ladder_ladderStore
    (by decide +kernel : resolveMilestone Sample.ladderStore.listMilestones
      { Sample.tenOrders with isVerified := true } = some Sample.trusted)
    0 none).mpr (by
      intro other member earnable above
      rcases mem_ladderStore member with rfl | rfl | rfl
      · cases earnable.2
      · rcases above with default | higher
        · cases default
        · exact absurd higher (by decide)
      · rcases above with default | higher
        · cases default
        · exact absurd higher (by decide))

end Lalaba.Bookings
