import Lalaba.BookingPolicy.Simulation

/-!
# The progress panel

The panel of a washer shows the milestone above the one she stands at, and lists what
she still has to do for it.  The list repeats the tests of the ladder one by one, so it
is empty exactly when the milestone is earned, and doing all of it earns the milestone
or one above it.
-/

namespace Lalaba.Bookings

open Orders (ProviderType)

/-! ## The model -/

def nextMilestone (milestones : List BookingMilestone)
    (current : Option BookingMilestone) : Option BookingMilestone :=
  let currentRank := (current.map BookingMilestone.rank).getD (-1)
  ((milestones.filter fun milestone =>
    milestone.isActive && !milestone.isDefault &&
      decide (currentRank < milestone.rank)).insertionSort
        fun first second => first.rank ≤ second.rank).head?

/-- What a provider still has to do. -/
inductive Requirement where
  | completedOrders (missing : ℕ)
  | rating (least : ℚ)
  | cancellationRate (most : ℚ)
  | verified
  | goodStanding
deriving DecidableEq

/-- `toFixed(1)` of a number that is not negative. -/
def toFixed1 (number : ℚ) : String :=
  let tenths := ⌊number * 10 + 1 / 2⌋.toNat
  toString (tenths / 10) ++ "." ++ toString (tenths % 10)

def decimals : ℕ → ℚ → List Char
  | 0, _ => []
  | more + 1, fraction =>
    if fraction = 0 then []
    else
      digit ⌊fraction * 10⌋ :: decimals more (fraction * 10 - ⌊fraction * 10⌋)

def numberText (number : ℚ) : String :=
  let fraction := number - ⌊number⌋
  if fraction = 0 then toString ⌊number⌋
  else toString ⌊number⌋ ++ String.ofList ('.' :: decimals 17 fraction)

def Requirement.text : Requirement → String
  | .completedOrders missing => toString missing ++ " more completed orders"
  | .rating least => "A rating of " ++ toFixed1 least ++ " or higher"
  | .cancellationRate most =>
    "A cancellation rate at or under " ++ numberText most ++ "%"
  | .verified => "A verified account"
  | .goodStanding => "An account in good standing"

def unmetOrders (least : Option ℕ) (completed : ℕ) : List Requirement :=
  match least with
  | some least =>
    if completed < least then [.completedOrders (least - completed)]
    else []
  | none => []

def unmetRating (least rating : Option ℚ) : List Requirement :=
  match least with
  | some least =>
    if rating.all fun rating => decide (rating < least) then
      [.rating least]
    else
      []
  | none => []

def unmetCancellation (most rate : Option ℚ) : List Requirement :=
  match most, rate with
  | some most, some rate =>
    if most < rate then [.cancellationRate most] else []
  | _, _ => []

def unmetFlag (requirement : Requirement) (required held : Bool) :
    List Requirement :=
  if required && !held then [requirement] else []

def unmet (milestone : BookingMilestone) (stats : ProviderStats) :
    List Requirement :=
  let e := milestone.eligibility
  unmetOrders e.minCompletedOrders stats.completedOrders ++
    unmetRating e.minRating stats.rating ++
    unmetCancellation e.maxCancellationRatePercent stats.cancellationRatePercent ++
    unmetFlag .verified e.requireVerified stats.isVerified ++
    unmetFlag .goodStanding e.requireGoodStanding stats.inGoodStanding

def describeUnmet (milestone : BookingMilestone) (stats : ProviderStats) :
    List String :=
  (unmet milestone stats).map Requirement.text

example :
    [Requirement.completedOrders 3, .rating (9 / 2), .cancellationRate 12.5,
      .cancellationRate 20].map Requirement.text =
      ["3 more completed orders", "A rating of 4.5 or higher",
        "A cancellation rate at or under 12.5%",
        "A cancellation rate at or under 20%"] := by
  decide +kernel

structure MilestoneProgress where
  currentKey : Option String
  currentName : Option String
  currentDailyCapacity : Option ℕ
  completedOrders : ℕ
  rating : Option ℚ
  nextKey : Option String
  nextName : Option String
  nextDailyCapacity : Option ℕ
  nextAdvanceBookingDays : Option ℕ
  ordersRequired : Option ℕ
  ordersRemaining : Option ℕ
  unmetRequirements : List String

/-- The panel, from the ladder and the statistics that were read. -/
def progressOf (milestones : List BookingMilestone)
    (stats : ProviderStats) : MilestoneProgress :=
  let current := resolveMilestone milestones stats
  let next := nextMilestone milestones current
  let target := next.bind (·.eligibility.minCompletedOrders)
  { currentKey := current.map (·.key)
    currentName := current.map (·.name)
    currentDailyCapacity := current.map (·.entitlements.dailyCapacity)
    completedOrders := stats.completedOrders
    rating := stats.rating
    nextKey := next.map (·.key)
    nextName := next.map (·.name)
    nextDailyCapacity := next.map (·.entitlements.dailyCapacity)
    nextAdvanceBookingDays := next.map (·.entitlements.advanceBookingDays)
    ordersRequired := target
    ordersRemaining := target.map (· - stats.completedOrders)
    unmetRequirements := (next.map fun next => describeUnmet next stats).getD [] }

/-- `progressFor`; only washers have milestones. -/
def Store.progressFor (branchId : ObjectId) (providerType : ProviderType)
    (store : Store) : Option MilestoneProgress :=
  if providerType = .washer then
    some (progressOf store.listMilestones (store.statsFor branchId providerType))
  else
    none

/-! ## The list and the ladder -/

variable {requirement : Requirement}

theorem mem_unmetOrders {least : Option ℕ} {completed : ℕ} :
    requirement ∈ unmetOrders least completed ↔
      ∃ asked ∈ least, completed < asked ∧ requirement = .completedOrders (asked - completed) := by
  cases least with
  | none | some => simp [unmetOrders]

theorem mem_unmetRating {least rating : Option ℚ} :
    requirement ∈ unmetRating least rating ↔
      ∃ asked ∈ least, (∀ held ∈ rating, held < asked) ∧ requirement = .rating asked := by
  cases least with
  | none => simp [unmetRating]
  | some least => cases rating <;> simp [unmetRating]

theorem mem_unmetCancellation {most rate : Option ℚ} :
    requirement ∈ unmetCancellation most rate ↔
      ∃ asked ∈ most, (∃ held ∈ rate, asked < held) ∧ requirement = .cancellationRate asked := by
  cases most with
  | none => simp [unmetCancellation]
  | some most => cases rate <;> simp [unmetCancellation]

theorem mem_unmetFlag {flag : Requirement} {required held : Bool} :
    requirement ∈ unmetFlag flag required held ↔
      (required = true ∧ held = false) ∧ requirement = flag := by
  cases required <;> cases held <;> simp [unmetFlag]

theorem mem_unmet {milestone : BookingMilestone} {stats : ProviderStats} :
    requirement ∈ unmet milestone stats ↔
      (∃ asked ∈ milestone.eligibility.minCompletedOrders,
          stats.completedOrders < asked ∧ requirement =
            .completedOrders (asked - stats.completedOrders)) ∨
        (∃ asked ∈ milestone.eligibility.minRating,
          (∀ held ∈ stats.rating, held < asked) ∧ requirement = .rating asked) ∨
        (∃ asked ∈ milestone.eligibility.maxCancellationRatePercent,
          (∃ held ∈ stats.cancellationRatePercent, asked < held) ∧
            requirement = .cancellationRate asked) ∨
        ((milestone.eligibility.requireVerified = true ∧
            stats.isVerified = false) ∧ requirement = .verified) ∨
        ((milestone.eligibility.requireGoodStanding = true ∧
            stats.inGoodStanding = false) ∧
          requirement = .goodStanding) := by
  simp only [unmet, List.mem_append, mem_unmetOrders, mem_unmetRating,
    mem_unmetCancellation, mem_unmetFlag, or_assoc]

def Requirement.Met (stats stats' : ProviderStats) : Requirement → Prop
  | .completedOrders missing =>
    stats.completedOrders + missing ≤ stats'.completedOrders
  | .rating least => ∃ rating ∈ stats'.rating, least ≤ rating
  | .cancellationRate most =>
    ∀ rate ∈ stats'.cancellationRatePercent, rate ≤ most
  | .verified => stats'.isVerified = true
  | .goodStanding => stats'.inGoodStanding = true

/-- All that is listed was done; a statistic nothing is listed for is the same. -/
structure Fulfilled (listed : List Requirement) (stats stats' : ProviderStats) : Prop where
  met : ∀ requirement ∈ listed, requirement.Met stats stats'
  completedOrders : (∀ missing, .completedOrders missing ∉ listed) →
    stats'.completedOrders = stats.completedOrders
  rating : (∀ least, .rating least ∉ listed) → stats'.rating = stats.rating
  cancellationRate : (∀ most, .cancellationRate most ∉ listed) →
    stats'.cancellationRatePercent = stats.cancellationRatePercent
  verified : .verified ∉ listed → stats'.isVerified = stats.isVerified
  goodStanding : .goodStanding ∉ listed → stats'.inGoodStanding = stats.inGoodStanding

section

variable {milestone : BookingMilestone} {stats stats' : ProviderStats}

/-- Statistics with which all that is listed was done clear the thresholds. -/
theorem Fulfilled.satisfies
    (fulfilled : Fulfilled (unmet milestone stats) stats stats') :
    satisfies milestone stats' = true := by
  rw [satisfies_iff]
  refine ⟨fun least asked => ?_, fun least asked => ?_,
    fun most asked => ?_, fun asked => ?_, fun asked => ?_⟩
  · by_cases few : stats.completedOrders < least
    · have done := fulfilled.met _ (mem_unmet.mpr (.inl ⟨least, asked, few, rfl⟩))
      unfold Requirement.Met at done
      omega
    · rw [fulfilled.completedOrders]
      · omega
      · intro missing listed
        have listed := mem_unmet.mp listed
        simp only [reduceCtorEq, and_false, exists_false, or_false] at listed
        rcases listed with ⟨least', asked', few', -⟩
        cases Option.mem_unique asked asked'
        exact few few'
  · by_cases low : ∀ held ∈ stats.rating, held < least
    · exact fulfilled.met _ (mem_unmet.mpr (.inr (.inl ⟨least, asked, low, rfl⟩)))
    · rw [fulfilled.rating]
      · simpa only [not_forall, not_lt, exists_prop] using low
      · intro least' listed
        have listed := mem_unmet.mp listed
        simp only [reduceCtorEq, and_false, exists_false, or_false, false_or] at listed
        rcases listed with ⟨other, asked', low', -⟩
        cases Option.mem_unique asked asked'
        exact low low'
  · by_cases high : ∃ held ∈ stats.cancellationRatePercent, most < held
    · exact fulfilled.met _ (mem_unmet.mpr (.inr (.inr (.inl ⟨most, asked, high, rfl⟩))))
    · rw [fulfilled.cancellationRate]
      · simpa only [not_exists, not_and, not_lt] using high
      · intro most' listed
        have listed := mem_unmet.mp listed
        simp only [reduceCtorEq, and_false, exists_false, or_false, false_or] at listed
        rcases listed with ⟨other, asked', high', -⟩
        cases Option.mem_unique asked asked'
        exact high high'
  · cases held : stats.isVerified with
    | false =>
      exact fulfilled.met _ (mem_unmet.mpr (.inr (.inr (.inr (.inl ⟨⟨asked, held⟩, rfl⟩)))))
    | true =>
      rw [fulfilled.verified, held]
      intro listed
      have listed := mem_unmet.mp listed
      simp [held] at listed
  · cases held : stats.inGoodStanding with
    | false =>
      exact fulfilled.met _ (mem_unmet.mpr (.inr (.inr (.inr (.inr ⟨⟨asked, held⟩, rfl⟩)))))
    | true =>
      rw [fulfilled.goodStanding, held]
      intro listed
      have listed := mem_unmet.mp listed
      simp [held] at listed

theorem fulfilled_nil (stats : ProviderStats) : Fulfilled [] stats stats :=
  ⟨by simp, fun _ => rfl, fun _ => rfl, fun _ => rfl, fun _ => rfl,
    fun _ => rfl⟩

theorem unmet_eq_nil_iff : unmet milestone stats = [] ↔ satisfies milestone stats = true := by
  constructor
  · intro none
    have done := fulfilled_nil stats
    rw [← none] at done
    exact done.satisfies
  · intro cleared
    rcases satisfies_iff.mp cleared with ⟨orders, ratings, rates, verified, standing⟩
    refine List.eq_nil_iff_forall_not_mem.mpr fun requirement listed => ?_
    rcases mem_unmet.mp listed with ⟨least, asked, few, -⟩ |
      ⟨least, asked, low, -⟩ | ⟨most, asked, ⟨rate, held, high⟩, -⟩ |
      ⟨⟨asked, held⟩, -⟩ | ⟨⟨asked, held⟩, -⟩
    · exact absurd few (not_lt.mpr (orders least asked))
    · rcases ratings least asked with ⟨rating, held, enough⟩
      exact absurd (low rating held) (not_lt.mpr enough)
    · exact absurd high (not_lt.mpr (rates most asked rate held))
    · exact absurd (verified asked) (by simp [held])
    · exact absurd (standing asked) (by simp [held])

end

section

variable {milestones : List BookingMilestone} {stats : ProviderStats} {next : BookingMilestone}

theorem nextMilestone_spec {current : Option BookingMilestone}
    (shown : nextMilestone milestones current = some next) :
    next ∈ milestones ∧ next.Earnable ∧
      (current.map BookingMilestone.rank).getD (-1) < next.rank := by
  have member := (List.mem_insertionSort _).mp (List.mem_of_mem_head? shown)
  simpa only [List.mem_filter, Bool.and_eq_true, Bool.not_eq_true',
    decide_eq_true_eq, BookingMilestone.Earnable, and_assoc] using member

theorem not_satisfies_next
    (shown : nextMilestone milestones (resolveMilestone milestones stats) = some next) :
    satisfies next stats = false := by
  rcases nextMilestone_spec shown with ⟨member, earnable, above⟩
  by_contra cleared
  have mine : next ∈ earned milestones stats :=
    mem_earned.mpr ⟨member, earnable, by simpa using cleared⟩
  rcases resolveMilestone_of_earned mine with ⟨top, -, stands, highest⟩
  rw [stands, Option.map_some, Option.getD_some] at above
  exact absurd (highest next mine) (not_le.mpr above)

end

end Lalaba.Bookings
