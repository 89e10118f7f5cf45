import Lalaba.Bookings.Entitlement
import Lalaba.Foundation.Sorting

/-!
# Where a provider stands

The milestone of a provider is the highest she has earned, and a floor when she has
earned none.  With one milestone at a rank this is the same milestone in whatever order
they are stored.
-/

namespace Lalaba.Bookings

open Foundation

theorem satisfies_iff {milestone : BookingMilestone}
    {stats : ProviderStats} :
    satisfies milestone stats = true ↔
      (∀ least ∈ milestone.eligibility.minCompletedOrders,
          least ≤ stats.completedOrders) ∧
        (∀ least ∈ milestone.eligibility.minRating, ∃ rating ∈ stats.rating, least ≤ rating) ∧
        (∀ most ∈ milestone.eligibility.maxCancellationRatePercent,
          ∀ rate ∈ stats.cancellationRatePercent, rate ≤ most) ∧
        (milestone.eligibility.requireVerified = true → stats.isVerified = true) ∧
        (milestone.eligibility.requireGoodStanding = true → stats.inGoodStanding = true) := by
  have flag {required held : Bool} : (!required || held) = true ↔
      (required = true → held = true) := by
    cases required <;> simp
  simp only [satisfies, Bool.and_eq_true, flag, Option.all_eq_true,
    Option.any_eq_true, decide_eq_true_eq, Option.mem_def, and_assoc]

def BookingMilestone.Earnable (milestone : BookingMilestone) : Prop :=
  milestone.isActive = true ∧ milestone.isDefault = false

def Ranked (milestones : List BookingMilestone) : Prop :=
  (milestones.map BookingMilestone.rank).Nodup

theorem Ranked.unique {milestones : List BookingMilestone}
    (ranked : Ranked milestones) {first second : BookingMilestone}
    (member : first ∈ milestones) (member' : second ∈ milestones)
    (same : first.rank = second.rank) : first = second :=
  List.inj_on_of_nodup_map ranked member member' same

theorem Ranked.perm {milestones milestones' : List BookingMilestone}
    (ranked : Ranked milestones) (same : milestones.Perm milestones') :
    Ranked milestones' :=
  (same.map BookingMilestone.rank).nodup_iff.mp ranked

def earned (milestones : List BookingMilestone) (stats : ProviderStats) :
    List BookingMilestone :=
  (milestones.filter (·.isActive)).filter fun milestone =>
    !milestone.isDefault && satisfies milestone stats

def floorOf (milestones : List BookingMilestone) :
    Option BookingMilestone :=
  match (milestones.filter (·.isActive)).find? (·.isDefault) with
  | some milestone => some milestone
  | none => ((milestones.filter (·.isActive)).insertionSort
      fun first second => first.rank ≤ second.rank).head?

section

variable {milestones milestones' : List BookingMilestone}
  {stats : ProviderStats} {milestone : BookingMilestone}

theorem mem_earned :
    milestone ∈ earned milestones stats ↔
      milestone ∈ milestones ∧ milestone.Earnable ∧ satisfies milestone stats = true := by
  simp only [earned, List.mem_filter, BookingMilestone.Earnable,
    Bool.and_eq_true, Bool.not_eq_true', and_assoc]

theorem resolveMilestone_eq (milestones : List BookingMilestone)
    (stats : ProviderStats) :
    resolveMilestone milestones stats =
      match (earned milestones stats).insertionSort
        fun first second => second.rank ≤ first.rank with
      | milestone :: _ => some milestone
      | [] => floorOf milestones :=
  rfl

theorem resolveMilestone_of_earned
    (member : milestone ∈ earned milestones stats) :
    ∃ top ∈ earned milestones stats,
      resolveMilestone milestones stats = some top ∧
        ∀ other ∈ earned milestones stats, other.rank ≤ top.rank := by
  cases sorted : (earned milestones stats).insertionSort
      fun first second => second.rank ≤ first.rank with
  | nil =>
    have none := (List.perm_insertionSort
      (fun first second : BookingMilestone => second.rank ≤ first.rank)
      (earned milestones stats)).mem_iff.mpr member
    rw [sorted] at none
    cases none
  | cons top rest =>
    have first := first_of_insertionSort sorted
    refine ⟨top, first.1, ?_, ?_⟩
    · rw [resolveMilestone_eq, sorted]
    · intro other among
      rcases first.2 other among with rfl | below
      · exact le_rfl
      · exact below

theorem resolveMilestone_of_none (none : earned milestones stats = []) :
    resolveMilestone milestones stats = floorOf milestones := by
  rw [resolveMilestone_eq, none]
  rfl

theorem resolveMilestone_cases
    (stands : resolveMilestone milestones stats = some milestone) :
    (milestone ∈ earned milestones stats ∧
        ∀ other ∈ earned milestones stats, other.rank ≤ milestone.rank) ∨
      (earned milestones stats = [] ∧ floorOf milestones = some milestone) := by
  cases any : earned milestones stats with
  | nil => exact .inr ⟨rfl, (resolveMilestone_of_none any).symm.trans stands⟩
  | cons first rest =>
    have member : first ∈ earned milestones stats := by
      rw [any]
      exact .head _
    rcases resolveMilestone_of_earned member with ⟨top, among, same, least⟩
    cases same.symm.trans stands
    rw [any] at among least
    exact .inl ⟨among, least⟩

theorem Ranked.resolveMilestone_eq (ranked : Ranked milestones)
    (member : milestone ∈ earned milestones stats)
    (highest : ∀ other ∈ earned milestones stats, other.rank ≤ milestone.rank) :
    resolveMilestone milestones stats = some milestone := by
  rcases resolveMilestone_of_earned member with ⟨top, among, same, least⟩
  rw [same]
  exact congrArg some (ranked.unique (mem_earned.mp among).1 (mem_earned.mp member).1
    (le_antisymm (highest top among) (least milestone member)))

theorem mem_of_floorOf (stands : floorOf milestones = some milestone) :
    milestone ∈ milestones ∧ milestone.isActive = true := by
  unfold floorOf at stands
  split at stands
  · rename_i default found
    cases stands
    exact List.mem_filter.mp (List.mem_of_find?_eq_some found)
  · have first := List.mem_of_mem_head? stands
    exact List.mem_filter.mp ((List.mem_insertionSort _).mp first)

theorem mem_of_resolveMilestone
    (stands : resolveMilestone milestones stats = some milestone) :
    milestone ∈ milestones ∧ milestone.isActive = true := by
  rcases resolveMilestone_cases stands with ⟨member, -⟩ | ⟨-, floor⟩
  · have among := mem_earned.mp member
    exact ⟨among.1, among.2.1.1⟩
  · exact mem_of_floorOf floor

def OneDefault (milestones : List BookingMilestone) : Prop :=
  (milestones.filter (·.isDefault)).length ≤ 1

theorem floorOf_perm (ranked : Ranked milestones)
    (oneDefault : OneDefault milestones)
    (same : milestones.Perm milestones') :
    floorOf milestones = floorOf milestones' := by
  have active := same.filter (·.isActive)
  have defaults : (milestones.filter (·.isActive)).find? (·.isDefault) =
      (milestones'.filter (·.isActive)).find? (·.isDefault) := by
    rw [← List.head?_filter, ← List.head?_filter]
    have few : ((milestones.filter (·.isActive)).filter (·.isDefault)).length ≤ 1 := by
      rw [List.filter_comm]
      exact (List.length_filter_le _ _).trans oneDefault
    have perm := active.filter (·.isDefault)
    rcases Nat.le_one_iff_eq_zero_or_eq_one.mp few with none | one
    · rw [List.length_eq_zero_iff.mp none] at perm ⊢
      rw [List.nil_perm.mp perm]
    · rcases List.length_eq_one_iff.mp one with ⟨only, is⟩
      rw [is] at perm ⊢
      rw [List.singleton_perm.mp perm]
  have sorted : (milestones.filter (·.isActive)).insertionSort
      (fun first second => first.rank ≤ second.rank) =
      (milestones'.filter (·.isActive)).insertionSort
        fun first second => first.rank ≤ second.rank :=
    insertionSort_eq_of_perm
      (fun first member second member' below above => ranked.unique
        (List.mem_filter.mp member).1 (List.mem_filter.mp member').1
        (le_antisymm below above)) active
  unfold floorOf
  rw [defaults, sorted]

theorem resolveMilestone_perm (ranked : Ranked milestones)
    (oneDefault : OneDefault milestones)
    (same : milestones.Perm milestones') :
    resolveMilestone milestones stats = resolveMilestone milestones' stats := by
  have sorted : (earned milestones stats).insertionSort
      (fun first second => second.rank ≤ first.rank) =
      (earned milestones' stats).insertionSort
        fun first second => second.rank ≤ first.rank :=
    insertionSort_eq_of_perm
      (fun first member second member' below above => ranked.unique
        (mem_earned.mp member).1 (mem_earned.mp member').1
        (le_antisymm above below)) ((same.filter _).filter _)
  rw [resolveMilestone_eq, resolveMilestone_eq, floorOf_perm ranked oneDefault same, sorted]

end

end Lalaba.Bookings
