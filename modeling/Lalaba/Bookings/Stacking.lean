import Lalaba.Bookings.Standing

/-!
# Campaigns on top of one another

The campaigns that are in force for a provider on a date are applied one after another,
in the order the database returns them.  Replacing, multiplying and adding do not
commute, so the entitlement depends on that order as soon as two campaigns that can be
in force together do not commute; the order of the milestones never matters.
-/

namespace Lalaba.Bookings

open Orders (ProviderType)

/-! ## The amounts of an entitlement -/

/-- What is granted, where it comes from, and whether a limit cut it. -/
structure Entitled where
  dailyCapacity : Option ℕ
  advanceBookingDays : ℕ
  milestoneKey : Option String
  cappedBySafetyLimit : Bool

def EffectiveEntitlement.entitled (entitlement : EffectiveEntitlement) : Entitled where
  dailyCapacity := entitlement.dailyCapacity
  advanceBookingDays := entitlement.advanceBookingDays
  milestoneKey := entitlement.milestoneKey
  cappedBySafetyLimit := entitlement.cappedBySafetyLimit

abbrev Amounts : Type := Option ℕ × ℕ

def EntitlementStep.amounts (step : EntitlementStep) : Amounts :=
  (step.dailyCapacity, step.advanceBookingDays)

def modified (amounts : Amounts) (campaign : BookingCampaign) : Amounts :=
  (amounts.1.map fun daily => applyModifier daily campaign.dailyCapacity,
    applyModifier amounts.2 campaign.advanceBookingDays)

def inForce (campaigns : List BookingCampaign)
    (providerType : ProviderType) (milestoneKey : Option String)
    (date : String) : List BookingCampaign :=
  (campaigns.filter fun campaign => isCampaignLive campaign date).filter
    fun campaign => campaignApplies campaign providerType milestoneKey

def milestoneOf (milestones : List BookingMilestone)
    (stats : ProviderStats) (providerType : ProviderType) :
    Option BookingMilestone :=
  if providerType == .washer then resolveMilestone milestones stats
  else none

def granted (policy : Option BookingPolicy) (providerType : ProviderType)
    (milestone : Option BookingMilestone) : Amounts :=
  let defaults := (policy.map BookingPolicy.defaults).getD {}
  match milestone with
  | some milestone =>
    (some milestone.entitlements.dailyCapacity, milestone.entitlements.advanceBookingDays)
  | none =>
    (if providerType == .washer then some defaults.dailyCapacity else none,
      defaults.advanceBookingDays)

def limited (safety : PolicySafetyLimits) (amounts : Amounts) : Amounts :=
  (amounts.1.map fun daily => min daily safety.dailyCapacity,
    min amounts.2 safety.advanceBookingDays)

@[simp]
theorem amounts_applyCampaign (step : EntitlementStep)
    (campaign : BookingCampaign) :
    (applyCampaign step campaign).amounts = modified step.amounts campaign :=
  rfl

theorem amounts_steps (live : List BookingCampaign)
    (steps : List EntitlementStep) (platform : EntitlementStep) :
    ((live.foldl (fun steps campaign =>
        steps ++ [applyCampaign (steps.getLastD platform) campaign])
      steps).getLastD platform).amounts =
      live.foldl modified (steps.getLastD platform).amounts := by
  induction live generalizing steps with
  | nil => rfl
  | cons campaign rest induction =>
    rw [List.foldl_cons, induction, List.foldl_cons]
    simp

theorem foldl_modified (live : List BookingCampaign) (amounts : Amounts) :
    live.foldl modified amounts =
      (amounts.1.map fun daily => live.foldl
          (fun daily campaign => applyModifier daily campaign.dailyCapacity)
          daily,
        live.foldl (fun days campaign =>
            applyModifier days campaign.advanceBookingDays) amounts.2) := by
  induction live generalizing amounts with
  | nil => simp
  | cons campaign rest induction =>
    rw [List.foldl_cons, induction]
    simp only [modified, Option.map_map, List.foldl_cons]
    rfl

def entitledBy (safety : PolicySafetyLimits)
    (milestoneKey : Option String) (before : Amounts) : Entitled where
  dailyCapacity := (limited safety before).1
  advanceBookingDays := (limited safety before).2
  milestoneKey
  cappedBySafetyLimit :=
    before.1 != (limited safety before).1 || before.2 != (limited safety before).2

theorem entitledBy_of_steps {safety : PolicySafetyLimits}
    {milestoneKey : Option String} {live : List BookingCampaign}
    {steps : List EntitlementStep} {platform : EntitlementStep}
    {start : Amounts}
    (first : (steps.getLastD platform).amounts = start) :
    let beforeCap := (live.foldl (fun steps campaign =>
        steps ++ [applyCampaign (steps.getLastD platform) campaign])
      steps).getLastD platform
    let daily := beforeCap.dailyCapacity.map fun daily =>
      min daily safety.dailyCapacity
    let advance := min beforeCap.advanceBookingDays safety.advanceBookingDays
    ({ dailyCapacity := daily
       advanceBookingDays := advance
       milestoneKey
       cappedBySafetyLimit := beforeCap.dailyCapacity != daily ||
        beforeCap.advanceBookingDays != advance } : Entitled) =
      entitledBy safety milestoneKey (live.foldl modified start) := by
  rw [← first, ← amounts_steps]
  rfl

theorem entitled_resolveEntitlement (policy : Option BookingPolicy)
    (milestones : List BookingMilestone)
    (campaigns : List BookingCampaign) (stats : ProviderStats)
    (providerType : ProviderType) (date : String) :
    (resolveEntitlement policy milestones campaigns stats providerType date).entitled =
      let milestone := milestoneOf milestones stats providerType
      let key := milestone.map BookingMilestone.key
      entitledBy ((policy.map BookingPolicy.safetyLimits).getD {}) key
        ((inForce campaigns providerType key date).foldl modified
          (granted policy providerType milestone)) := by
  simp only [EffectiveEntitlement.entitled, resolveEntitlement, milestoneOf]
  generalize (if (providerType == ProviderType.washer) = true then
    resolveMilestone milestones stats else none) = milestone
  cases milestone with
  | none | some => exact entitledBy_of_steps rfl

def Commute (first second : Option CampaignModifier) : Prop :=
  ∀ base, applyModifier (applyModifier base first) second =
    applyModifier (applyModifier base second) first

def Together (providerType : ProviderType) (milestoneKey : Option String)
    (date : String) (first second : BookingCampaign) : Prop :=
  (isCampaignLive first date = true ∧
      campaignApplies first providerType milestoneKey = true) ∧
    isCampaignLive second date = true ∧ campaignApplies second providerType milestoneKey = true

def Compatible (among : Set BookingCampaign) : Prop :=
  ∀ first ∈ among, ∀ second ∈ among, ∀ providerType milestoneKey date,
    (providerType = .washer ∨ milestoneKey = none) →
      Together providerType milestoneKey date first second →
        Commute first.advanceBookingDays second.advanceBookingDays ∧
          (providerType = .washer → Commute first.dailyCapacity second.dailyCapacity)

def OrderIndependent (among : Set BookingCampaign) : Prop :=
  ∀ (policy : Option BookingPolicy) (stats : ProviderStats)
    (providerType : ProviderType) (date : String)
    (milestones milestones' : List BookingMilestone)
    (campaigns campaigns' : List BookingCampaign),
    Ranked milestones → OneDefault milestones →
      (∀ campaign ∈ campaigns, campaign ∈ among) →
        milestones.Perm milestones' → campaigns.Perm campaigns' →
          (resolveEntitlement policy milestones campaigns stats
              providerType date).entitled =
            (resolveEntitlement policy milestones' campaigns' stats providerType date).entitled

variable {providerType : ProviderType} {date : String} {key : Option String}

theorem mem_inForce {campaigns : List BookingCampaign}
    {milestoneKey : Option String} {campaign : BookingCampaign} :
    campaign ∈ inForce campaigns providerType milestoneKey date ↔
      campaign ∈ campaigns ∧ isCampaignLive campaign date = true ∧
        campaignApplies campaign providerType milestoneKey = true := by
  simp only [inForce, List.mem_filter, and_assoc]

theorem milestoneOf_merchant {milestones : List BookingMilestone}
    {stats : ProviderStats} (other : providerType ≠ .washer) :
    milestoneOf milestones stats providerType = none := by
  cases providerType with
  | merchant => rfl
  | washer => exact (other rfl).elim

theorem foldl_applyModifier_perm {live live' : List BookingCampaign}
    (same : live.Perm live')
    {field : BookingCampaign → Option CampaignModifier}
    (commute : ∀ first ∈ live, ∀ second ∈ live, Commute (field first) (field second)) (base : ℕ) :
    live.foldl (fun base campaign => applyModifier base (field campaign))
        base =
      live'.foldl (fun base campaign => applyModifier base (field campaign))
        base :=
  same.foldl_eq' (fun first member second member' base =>
    commute first member second member' base) base

/-- Campaigns that commute come to the same in every order. -/
theorem Compatible.orderIndependent {among : Set BookingCampaign}
    (compatible : Compatible among) : OrderIndependent among := by
  intro policy stats providerType date milestones milestones' campaigns
    campaigns' ranked oneDefault drawn sameLadder sameCampaigns
  have standing : milestoneOf milestones stats providerType =
      milestoneOf milestones' stats providerType := by
    unfold milestoneOf
    rw [resolveMilestone_perm ranked oneDefault sameLadder]
  simp only [entitled_resolveEntitlement, ← standing]
  generalize stands : milestoneOf milestones stats providerType = milestone
  generalize named : milestone.map BookingMilestone.key = key
  have known : providerType = .washer ∨ key = none := by
    by_cases washer : providerType = .washer
    · exact .inl washer
    · rw [milestoneOf_merchant washer] at stands
      subst stands
      exact .inr named.symm
  have same : (inForce campaigns providerType key date).Perm
      (inForce campaigns' providerType key date) :=
    (sameCampaigns.filter _).filter _
  have pairs : ∀ first ∈ inForce campaigns providerType key date,
      ∀ second ∈ inForce campaigns providerType key date,
        Commute first.advanceBookingDays second.advanceBookingDays ∧
          (providerType = .washer → Commute first.dailyCapacity second.dailyCapacity) := by
    intro first member second member'
    have live := mem_inForce.mp member
    have live' := mem_inForce.mp member'
    exact compatible first (drawn first live.1) second
      (drawn second live'.1) providerType key date known
      ⟨live.2, live'.2⟩
  have advance := foldl_applyModifier_perm same
    fun first member second member' =>
      (pairs first member second member').1
  rw [foldl_modified, foldl_modified, advance]
  by_cases washer : providerType = .washer
  · have daily := foldl_applyModifier_perm same
      fun first member second member' =>
        (pairs first member second member').2 washer
    simp only [daily]
  · -- Whoever is no washer has no capacity that a campaign could change.
    rw [milestoneOf_merchant washer] at stands
    subst stands
    have uncapped : (providerType == ProviderType.washer) = false := by
      simpa using washer
    simp only [granted, uncapped, Bool.false_eq_true, if_false, Option.map_none]

/-! ## The campaigns that tell the order -/

def policyOf (base safety : ℕ) : BookingPolicy where
  defaults := { dailyCapacity := base, advanceBookingDays := base }
  universalDays := BookingPolicy.seed.universalDays
  safetyLimits := { dailyCapacity := safety, advanceBookingDays := safety }

def ladderOf (base : ℕ) : Option String → List BookingMilestone
  | none => []
  | some key =>
    [ { key
        name := key
        rank := 0
        isDefault := true
        isActive := true
        eligibility := {}
        entitlements := { dailyCapacity := base, advanceBookingDays := base } } ]

theorem ladderOf_ranked (base : ℕ) (key : Option String) :
    Ranked (ladderOf base key) ∧ OneDefault (ladderOf base key) := by
  cases key with
  | none => exact ⟨List.nodup_nil, Nat.zero_le _⟩
  | some key => exact ⟨List.nodup_singleton _, le_rfl⟩

theorem granted_ladderOf (base safety : ℕ)
    (known : providerType = .washer ∨ key = none) (stats : ProviderStats) :
    (milestoneOf (ladderOf base key) stats providerType).map
        BookingMilestone.key = key ∧
      granted (some (policyOf base safety)) providerType
          (milestoneOf (ladderOf base key) stats providerType) =
        (if providerType = .washer then some base else none, base) := by
  cases key with
  | none => cases providerType <;> exact ⟨rfl, rfl⟩
  | some key =>
    rcases known with rfl | absent
    · exact ⟨rfl, rfl⟩
    · cases absent

theorem inForce_pair {first second : BookingCampaign}
    (together : Together providerType key date first second) :
    inForce [first, second] providerType key date = [first, second] := by
  simp [inForce, together.1.1, together.1.2, together.2.1, together.2.2]

theorem entitled_pair {first second : BookingCampaign}
    (known : providerType = .washer ∨ key = none)
    (together : Together providerType key date first second) (base safety : ℕ)
    (stats : ProviderStats) :
    (resolveEntitlement (some (policyOf base safety)) (ladderOf base key)
        [first, second] stats providerType date).entitled =
      entitledBy (policyOf base safety).safetyLimits key
        (modified (modified
          (if providerType = .washer then some base else none, base) first)
          second) := by
  have start := granted_ladderOf base safety known stats
  simp only [entitled_resolveEntitlement, start.1, start.2,
    inForce_pair together, List.foldl_cons, List.foldl_nil]
  rfl

namespace Sample

def flat : BookingCampaign where
  _id := "campaign-1"
  name := "Opening week"
  startDate := "2026-03-01"
  endDate := "2026-03-07"
  isEnabled := true
  targeting := {}
  dailyCapacity := some { mode := .replace, value := 5 }
  advanceBookingDays := none

def more : BookingCampaign where
  _id := "campaign-2"
  name := "Two more"
  startDate := "2026-03-01"
  endDate := "2026-03-31"
  isEnabled := true
  targeting := {}
  dailyCapacity := some { mode := .increaseBy, value := 2 }
  advanceBookingDays := none

end Sample

end Lalaba.Bookings
