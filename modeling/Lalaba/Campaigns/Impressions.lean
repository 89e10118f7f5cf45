import Lalaba.Campaigns.Frequency
import Lalaba.Foundation.Interleaving
import Mathlib.Data.List.Sort

/-!
# Showing campaigns

An app asks for the campaign to show next.  The insert of an impression is the check:
a unique index admits one row for a campaign, an account and a key.  For the launches of
an app a floor is checked first, in a step of its own, so two launches on either side of
a bucket both pass it.  Rows are swept some time after they have expired.
-/

namespace Lalaba.Campaigns

open Foundation
open Foundation.Configuration

/-! ## Collections -/

inductive CampaignStatus where
  | DRAFT
  | ACTIVE
  | PAUSED
  | ARCHIVED
deriving DecidableEq

/-- A campaign, but for its frequency. -/
structure Campaign where
  _id : ObjectId
  status : CampaignStatus
  targetRoleIds : List String
  startsAt : Instant
  endsAt : Option Instant
  priority : ℤ
  createdAt : Instant
deriving DecidableEq

structure CampaignImpression where
  campaignId : ObjectId
  uid : Uid
  roleId : String
  periodKey : String
  shownAt : Instant
  expiresAt : Option Instant
deriving DecidableEq

structure Store where
  campaigns : List Campaign
  impressions : List CampaignImpression
  clock : Instant

def CampaignImpression.collides (row other : CampaignImpression) : Bool :=
  row.campaignId == other.campaignId && row.uid == other.uid && row.periodKey == other.periodKey

def CampaignImpression.isExpired (clock : Instant)
    (row : CampaignImpression) : Bool :=
  row.expiresAt.any fun expiresAt => decide (expiresAt ≤ clock)

def Campaign.isEligible (roleId : String) (now : Instant)
    (campaign : Campaign) : Bool :=
  campaign.status == .ACTIVE && campaign.targetRoleIds.elem roleId &&
    decide (campaign.startsAt ≤ now) &&
    campaign.endsAt.all fun endsAt => decide (now < endsAt)

namespace Store

/-- `find` of the eligible campaigns, the highest priority first. -/
def eligible (roleId : String) (now : Instant) (store : Store) :
    List Campaign :=
  (store.campaigns.filter (Campaign.isEligible roleId now)).insertionSort
    fun first second =>
      second.priority < first.priority ∨
        second.priority = first.priority ∧ second.createdAt ≤ first.createdAt

/-- `create` of an impression; `none` for a duplicate key. -/
def create (row : CampaignImpression) (store : Store) : Option Store :=
  if store.impressions.any row.collides then none
  else some { store with impressions := row :: store.impressions }

def shownWithinFloor (campaignId : ObjectId) (uid : Uid) (now : Instant)
    (store : Store) : Bool :=
  store.impressions.any fun row =>
    row.campaignId == campaignId && row.uid == uid && decide (now - APP_OPEN_FLOOR_MS ≤ row.shownAt)

def put (campaign : Campaign) (store : Store) : Store :=
  { store with
    campaigns :=
      campaign :: store.campaigns.filter fun other =>
        other._id != campaign._id }

def sweep (row : CampaignImpression) (store : Store) : Option Store :=
  if row.isExpired store.clock then
    some { store with impressions := store.impressions.erase row }
  else none

end Store

/-! ## Calls -/

/-- A call of `nextFor`, with the instant at which it has begun. -/
structure Visit where
  uid : Uid
  roleId : String
  sessionId : Option String
  now : Instant
deriving DecidableEq

/-- A call, at the point where it waits. -/
inductive Call where
  /-- `nextFor`, about to take its instant. -/
  | start (uid : Uid) (roleId : String) (sessionId : Option String)
  | find (visit : Visit)
  | floor (visit : Visit) (campaign : Campaign) (periodKey : String) (rest : List Campaign)
  | create (visit : Visit) (campaign : Campaign) (periodKey : String) (rest : List Campaign)
  | put (campaign : Campaign)
  | sweep (row : CampaignImpression)

inductive Request where
  | nextFor (uid : Uid) (roleId : Option String) (sessionId : Option String)
  | put (campaign : Campaign)
  | sweep (row : CampaignImpression)

def enter : Request → Store → Option Call
  | .nextFor uid roleId sessionId, _ =>
    roleId.map fun roleId => .start uid roleId sessionId
  | .put campaign, _ => some (.put campaign)
  | .sweep row, _ => some (.sweep row)

section

variable (frequencies : ObjectId → CampaignFrequency)

def impression (visit : Visit) (campaign : Campaign) (periodKey : String) : CampaignImpression where
  campaignId := campaign._id
  uid := visit.uid
  roleId := visit.roleId
  periodKey := periodKey
  shownAt := visit.now
  expiresAt := impressionExpiryFor (frequencies campaign._id) visit.now

/-- The loop of `nextFor`: on to the next campaign that has a key. -/
def advance (visit : Visit) : List Campaign → Option Call
  | [] => none
  | campaign :: rest =>
    match periodKeyFor (frequencies campaign._id) visit.now visit.sessionId with
    | none => advance visit rest
    | some periodKey =>
      if frequencies campaign._id = .EVERY_APP_OPEN then
        some (.floor visit campaign periodKey rest)
      else some (.create visit campaign periodKey rest)

/-- What a call does next, on a store whose clock shows the present. -/
def act : Call → Store → Option (Store × Option Call)
  | .start uid roleId sessionId, store =>
    some (store, some (.find { uid, roleId, sessionId, now := store.clock }))
  | .find visit, store =>
    some (store, advance frequencies visit (store.eligible visit.roleId visit.now))
  | .floor visit campaign periodKey rest, store =>
    if store.shownWithinFloor campaign._id visit.uid visit.now then
      some (store, advance frequencies visit rest)
    else some (store, some (.create visit campaign periodKey rest))
  | .create visit campaign periodKey rest, store =>
    match store.create (impression frequencies visit campaign periodKey) with
    | none => some (store, advance frequencies visit rest)
    | some after => some (after, none)
  | .put campaign, store => some (store.put campaign, none)
  | .sweep row, store => (store.sweep row).map fun after => (after, none)

def resume (now : Instant) (call : Call) (store : Store) :
    Option (Store × Option Call) :=
  if now < store.clock then none
  else act frequencies call { store with clock := now }

def delivery : Service Store Call Request Instant where
  enter := enter
  resume := resume frequencies

abbrev Calls : Type := Configuration Store Call

def Call.shown (store : Store) : Call → Option CampaignImpression
  | .create visit campaign periodKey _ =>
    let row := impression frequencies visit campaign periodKey
    if store.impressions.any row.collides then none else some row
  | _ => none

def see (configuration : Calls) (move : Move Request Instant) (_ : Calls)
    (showings : List CampaignImpression) : List CampaignImpression :=
  match move with
  | .enter _ => showings
  | .resume index _ =>
    match configuration.calls[index]? with
    | some (some call) =>
      (call.shown frequencies configuration.store).toList ++ showings
    | _ => showings

/--
An insert that is not refused comes before an impression of its window can have been
swept, and for the launches of an app the floor would still be passed.
-/
def Call.timely (store : Store) : Call → Bool
  | .create visit campaign periodKey _ =>
    let row := impression frequencies visit campaign periodKey
    let frequency := frequencies campaign._id
    store.impressions.any row.collides ||
      frequency.isFresh store.clock visit.now &&
        (frequency != .EVERY_APP_OPEN || !store.shownWithinFloor campaign._id visit.uid visit.now)
  | _ => true

def timely (configuration : Calls) : Move Request Instant → Bool
  | .enter _ => true
  | .resume index now =>
    match configuration.calls[index]? with
    | some (some call) =>
      call.timely frequencies { configuration.store with clock := now }
    | _ => true

/-! ## Keys -/

def Call.Keyed : Call → Prop
  | .floor visit campaign periodKey _ =>
    periodKeyFor (frequencies campaign._id) visit.now visit.sessionId = some periodKey
  | .create visit campaign periodKey _ =>
    periodKeyFor (frequencies campaign._id) visit.now visit.sessionId = some periodKey
  | _ => True

def CampaignImpression.Keyed (row : CampaignImpression) : Prop :=
  (∃ sessionId, periodKeyFor (frequencies row.campaignId) row.shownAt
      sessionId = some row.periodKey) ∧
    row.expiresAt = impressionExpiryFor (frequencies row.campaignId) row.shownAt

def CampaignImpression.Allowed (later earlier : CampaignImpression) :
    Prop :=
  later.campaignId = earlier.campaignId → later.uid = earlier.uid →
    (frequencies later.campaignId).Allows earlier.shownAt later.shownAt

/-- What was shown is stored or has expired, and was shown once in each window. -/
structure Capped (store : Store) (showings : List CampaignImpression) : Prop where
  kept : ∀ row ∈ showings, row ∈ store.impressions ∨ row.isExpired store.clock = true
  keyed : ∀ row ∈ showings, row.Keyed frequencies
  allowed : showings.Pairwise (CampaignImpression.Allowed frequencies)

section

variable {frequencies} {store after : Store} {visit : Visit}
  {campaign : Campaign} {campaigns rest : List Campaign} {call : Call}
  {next : Option Call} {periodKey : String} {now : Instant}
  {row earlier : CampaignImpression} {showings : List CampaignImpression}

theorem keyed_advance {call' : Call}
    (advances : advance frequencies visit campaigns = some call') :
    call'.Keyed frequencies := by
  induction campaigns with
  | nil => cases advances
  | cons campaign rest induction =>
    rw [advance] at advances
    split at advances
    · exact induction advances
    · rename_i periodKey key
      split at advances
      · cases advances
        exact key
      · cases advances
        exact key

theorem keyed_act {call' : Call} (keyed : call.Keyed frequencies)
    (acts : act frequencies call store = some (after, some call')) :
    call'.Keyed frequencies := by
  cases call with
  | start uid roleId sessionId =>
    cases acts
    trivial
  | find visit =>
    rcases Prod.mk.inj (Option.some.inj acts) with ⟨_, advances⟩
    exact keyed_advance advances
  | floor visit campaign periodKey rest =>
    rw [act] at acts
    split at acts
    · rcases Prod.mk.inj (Option.some.inj acts) with ⟨_, advances⟩
      exact keyed_advance advances
    · cases acts
      exact keyed
  | create visit campaign periodKey rest =>
    simp only [act] at acts
    split at acts
    · rcases Prod.mk.inj (Option.some.inj acts) with ⟨_, advances⟩
      exact keyed_advance advances
    · cases acts
  | put campaign => cases acts
  | sweep row =>
    rcases Option.map_eq_some_iff.mp acts with ⟨swept, _, same⟩
    cases same

theorem collides_iff :
    row.collides earlier = true ↔
      row.campaignId = earlier.campaignId ∧ row.uid = earlier.uid ∧
        row.periodKey = earlier.periodKey := by
  simp only [CampaignImpression.collides, Bool.and_eq_true, beq_iff_eq, and_assoc]

theorem Capped.ticks (capped : Capped frequencies store showings)
    (later : store.clock ≤ now) :
    Capped frequencies { store with clock := now } showings where
  kept := by
    intro row shown
    rcases capped.kept row shown with stored | expired
    · exact .inl stored
    · right
      rcases (Option.any_eq_true _ _).mp expired with ⟨expiresAt, expires, passed⟩
      refine (Option.any_eq_true _ _).mpr ⟨expiresAt, expires, ?_⟩
      exact decide_eq_true ((of_decide_eq_true passed).trans later)
  keyed := capped.keyed
  allowed := capped.allowed

/-- An earlier showing that is still stored, or that was swept, allows another. -/
theorem Capped.allows (capped : Capped frequencies store showings)
    (shown : earlier ∈ showings)
    (key : periodKeyFor (frequencies campaign._id) visit.now visit.sessionId = some periodKey)
    (unique : store.impressions.any
      (impression frequencies visit campaign periodKey).collides = false)
    (fresh : (frequencies campaign._id).isFresh store.clock visit.now = true)
    (spaced : frequencies campaign._id = .EVERY_APP_OPEN →
      store.shownWithinFloor campaign._id visit.uid visit.now = false) :
    CampaignImpression.Allowed frequencies
      (impression frequencies visit campaign periodKey) earlier := by
  intro sameCampaign sameAccount
  have sameCampaign : campaign._id = earlier.campaignId := sameCampaign
  have sameAccount : visit.uid = earlier.uid := sameAccount
  rcases capped.keyed earlier shown with ⟨⟨session, key'⟩, expiry⟩
  rw [← sameCampaign] at key' expiry
  change (frequencies campaign._id).Allows earlier.shownAt visit.now
  rcases capped.kept earlier shown with stored | expired
  · by_cases launches : frequencies campaign._id = .EVERY_APP_OPEN
    · -- The floor looks at the instants, whatever the buckets.
      have quiet := List.any_eq_false.mp (spaced launches) earlier stored
      have before : ¬ visit.now - APP_OPEN_FLOOR_MS ≤ earlier.shownAt := by
        simpa [sameCampaign, sameAccount] using quiet
      rw [launches]
      left
      have ordered : ∀ first second : ℕ,
          ¬ second - APP_OPEN_FLOOR_MS ≤ first → first + APP_OPEN_FLOOR_MS ≤ second := by
        intro first second before
        omega
      exact ordered _ _ before
    · apply allows_of_periodKeyFor _ launches
      · exact session
      · exact visit.sessionId
      · rw [key, key']
        intro same
        have apart := List.any_eq_false.mp unique earlier stored
        exact apart (collides_iff.mpr ⟨sameCampaign, sameAccount, (Option.some.inj same).symm⟩)
  · rcases (Option.any_eq_true _ _).mp expired with ⟨expiresAt, expires, passed⟩
    exact allows_of_isFresh fresh (expiry.symm.trans expires) (of_decide_eq_true passed)

theorem Capped.keeps (capped : Capped frequencies store showings)
    (clock : after.clock = store.clock)
    (kept : ∀ row ∈ store.impressions, row ∈ after.impressions ∨ row.isExpired store.clock = true) :
    Capped frequencies after showings where
  kept := by
    intro row shown
    rw [clock]
    rcases capped.kept row shown with stored | expired
    · exact kept row stored
    · exact .inr expired
  keyed := capped.keyed
  allowed := capped.allowed

theorem Capped.create (capped : Capped frequencies store showings)
    (keyed : (Call.create visit campaign periodKey rest).Keyed frequencies)
    (timely : (Call.create visit campaign periodKey rest).timely frequencies store = true)
    (unique : store.impressions.any
      (impression frequencies visit campaign periodKey).collides = false) :
    Capped frequencies { store with
        impressions := impression frequencies visit campaign periodKey :: store.impressions }
      (impression frequencies visit campaign periodKey :: showings) := by
  rw [Call.timely, unique, Bool.false_or] at timely
  rcases Bool.and_eq_true_iff.mp timely with ⟨fresh, floor⟩
  constructor
  · intro row member
    rcases List.mem_cons.mp member with rfl | shown
    · exact .inl List.mem_cons_self
    · exact (capped.kept row shown).imp_left (List.mem_cons_of_mem _)
  · intro row member
    rcases List.mem_cons.mp member with rfl | shown
    · exact ⟨⟨visit.sessionId, keyed⟩, rfl⟩
    · exact capped.keyed row shown
  · apply List.Pairwise.cons _ capped.allowed
    intro earlier shown
    apply capped.allows shown keyed unique fresh
    intro launches
    simpa [launches] using floor

theorem Capped.act (capped : Capped frequencies store showings)
    (keyed : call.Keyed frequencies)
    (timely : call.timely frequencies store = true)
    (acts : act frequencies call store = some (after, next)) :
    Capped frequencies after ((call.shown frequencies store).toList ++ showings) := by
  cases call with
  | start | find =>
    cases acts
    exact capped
  | floor visit campaign periodKey rest =>
    rw [Campaigns.act] at acts
    split at acts
    · cases acts
      exact capped
    · cases acts
      exact capped
  | create visit campaign periodKey rest =>
    simp only [Campaigns.act, Store.create] at acts
    rw [Call.shown]
    by_cases taken : store.impressions.any
        (impression frequencies visit campaign periodKey).collides = true
    · rw [if_pos taken] at acts ⊢
      cases acts
      exact capped
    · rw [if_neg taken] at acts ⊢
      cases acts
      exact capped.create keyed timely (Bool.eq_false_iff.mpr taken)
  | put campaign =>
    cases acts
    exact capped.keeps rfl fun _ stored => .inl stored
  | sweep row =>
    rcases Option.map_eq_some_iff.mp acts with ⟨swept, removes, same⟩
    cases same
    rw [Store.sweep] at removes
    split at removes
    · rename_i expired
      cases removes
      have kept : ∀ other ∈ store.impressions,
          other ∈ store.impressions.erase row ∨ other.isExpired store.clock = true := by
        intro other stored
        by_cases same : other = row
        · subst same
          exact .inr expired
        · exact .inl ((List.mem_erase_of_ne same).mpr stored)
      exact capped.keeps rfl kept
    · cases removes

end

section

variable {frequencies} {both both' : Calls × List CampaignImpression} {move : Move Request Instant}

theorem resume_eq_some {now : Instant} {call : Call} {store after : Store}
    {next : Option Call}
    (resumes : resume frequencies now call store = some (after, next)) :
    store.clock ≤ now ∧ act frequencies call { store with clock := now } = some (after, next) := by
  rw [resume] at resumes
  split at resumes
  · cases resumes
  · rename_i later
    exact ⟨Nat.not_lt.mp later, resumes⟩

theorem obligations :
    (delivery frequencies).Obligations (fun _ => True) (fun _ _ => True)
      (fun _ => True) (fun _ call => call.Keyed frequencies) where
  entered := by
    intro request store call _ enters
    cases request with
    | nextFor uid roleId sessionId =>
      rcases Option.map_eq_some_iff.mp enters with ⟨role, _, rfl⟩
      trivial
    | put | sweep =>
      cases enters
      trivial
  resumed := by
    intro configuration index now call store next _ _ _ _ keyed resumes
    refine ⟨trivial, ?_⟩
    rintro call' rfl
    exact keyed_act keyed (resume_eq_some resumes).2
  stable := fun _ _ _ _ _ _ _ _ _ _ _ _ _ _ _ keyed _ => keyed

theorem capped_step
    (keyed : Service.Invariant (fun _ => True) (fun _ call => call.Keyed frequencies) both.1)
    (capped : Capped frequencies both.1.store both.2)
    (allowed : timely frequencies both.1 move = true)
    (stepped : ((delivery frequencies).system.observed
      (see frequencies)).step move both = some both') :
    Capped frequencies both'.1.store both'.2 := by
  rcases both' with ⟨after, showings⟩
  rcases System.observed_step stepped with ⟨ran, seen⟩
  dsimp only at ran seen
  subst seen
  cases Service.stepped_of_step ran with
  | entered request call enters => exact capped
  | resumed index now call store next waits resumes =>
    rcases resume_eq_some resumes with ⟨later, acts⟩
    rw [timely, waits] at allowed
    have capped := (capped.ticks later).act (keyed.sound index call waits) allowed acts
    rw [see, waits]
    cases call with
    | create | _ => exact capped

/--
In a run in which every insert comes before an impression of its window can have been
swept, and in which the floor would still be passed when the impression of a launch is
inserted, a campaign is shown to an account once in each window, and once in thirty
minutes if it is shown at every launch.
-/
theorem frequencyIsACap {campaigns : List Campaign} {clock : Instant}
    (reached : ((delivery frequencies).system.observed (see frequencies)).Reaches
      (fun both move => timely frequencies both.1 move = true)
      (.start { campaigns, impressions := [], clock }, []) both) :
    both.2.Pairwise fun later earlier =>
      later.campaignId = earlier.campaignId → later.uid = earlier.uid →
        (frequencies later.campaignId).Allows earlier.shownAt
          later.shownAt := by
  have invariant : Service.Invariant (fun _ => True)
      (fun _ call => call.Keyed frequencies) both.1 ∧ Capped frequencies both.1.store both.2 := by
    refine reached.invariant
      (fun both => Service.Invariant (fun _ => True)
        (fun _ call => call.Keyed frequencies) both.1 ∧
          Capped frequencies both.1.store both.2) ?_ ?_
    · refine ⟨Service.invariant_start trivial, ?_, ?_, List.Pairwise.nil⟩
      · exact fun _ absent => (List.not_mem_nil absent).elim
      · exact fun _ absent => (List.not_mem_nil absent).elim
    · intro _ _ _ ⟨keyed, capped⟩ allowed stepped
      exact
        ⟨obligations.step trivial keyed trivial (System.observed_step stepped).1,
          capped_step keyed capped allowed stepped⟩
  exact invariant.2.allowed

end

end

/-! ## Sample runs -/

namespace Sample

def campaign : Campaign where
  _id := "launch"
  status := .ACTIVE
  targetRoleIds := ["customer"]
  startsAt := 0
  endsAt := none
  priority := 1
  createdAt := 0

def store : Store where
  campaigns := [campaign]
  impressions := []
  clock := 0

def frequencies (_ : ObjectId) : CampaignFrequency := .EVERY_APP_OPEN

def opens : Move Request Instant := .enter (.nextFor "ana" (some "customer") none)

def spaced : List (Move Request Instant) :=
  [opens, .resume 0 0, .resume 0 0, .resume 0 0, .resume 0 1,
    opens, .resume 1 600000, .resume 1 600000, .resume 1 600001,
    opens, .resume 2 2400000, .resume 2 2400000, .resume 2 2400001, .resume 2 2400001]

def adjacent : List (Move Request Instant) :=
  [opens, opens, .resume 0 1799999, .resume 0 1799999, .resume 0 1799999,
    .resume 1 1800000, .resume 1 1800000, .resume 1 1800000,
    .resume 0 1800001, .resume 1 1800001]

def showing (periodKey : String) (shownAt : Instant) : CampaignImpression where
  campaignId := "launch"
  uid := "ana"
  roleId := "customer"
  periodKey := periodKey
  shownAt := shownAt
  expiresAt := some (shownAt + RETENTION_MS)

end Sample

/-- The second launch is too early, and the third one is not. -/
theorem frequencyIsACap_spaced :
    ∃ both : Calls × List CampaignImpression,
      ((delivery Sample.frequencies).system.observed (see Sample.frequencies)).Reaches
        (fun both move => timely Sample.frequencies both.1 move = true)
        (.start Sample.store, []) both ∧
      both.2 = [Sample.showing "open:1" 2400000, Sample.showing "open:0" 0] ∧
      both.2.Pairwise fun later earlier =>
        later.campaignId = earlier.campaignId → later.uid = earlier.uid →
          (Sample.frequencies later.campaignId).Allows earlier.shownAt
            later.shownAt := by
  have performed :
      ((((delivery Sample.frequencies).system.observed
          (see Sample.frequencies)).restrict
        (fun both move =>
          timely Sample.frequencies both.1 move = true)).perform Sample.spaced
        (.start Sample.store, [])).map Prod.snd =
        some [Sample.showing "open:1" 2400000, Sample.showing "open:0" 0] := by
    decide +kernel
  rcases System.reaches_of_map_restrict performed with ⟨both, reached, shown⟩
  exact ⟨both, reached, shown, frequencyIsACap reached⟩

/-- Both launches pass the floor, and are shown a millisecond apart. -/
theorem shownAtOnceTwice :
    ¬ ∀ (frequencies : ObjectId → CampaignFrequency)
        (campaigns : List Campaign) (clock : Instant)
        (both : Calls × List CampaignImpression),
      ((delivery frequencies).system.observed (see frequencies)).Reaches
          (fun _ _ => True)
          (.start { campaigns, impressions := [], clock }, []) both →
        both.2.Pairwise fun later earlier =>
          later.campaignId = earlier.campaignId → later.uid = earlier.uid →
            (frequencies later.campaignId).Allows earlier.shownAt
              later.shownAt := by
  intro always
  have performed :
      (((delivery Sample.frequencies).system.observed
          (see Sample.frequencies)).perform Sample.adjacent
        (.start Sample.store, [])).map Prod.snd =
        some [Sample.showing "open:1" 1800000, Sample.showing "open:0" 1799999] := by
    decide +kernel
  rcases System.reaches_of_map performed with ⟨both, ran, shown⟩
  have spaced := always Sample.frequencies [Sample.campaign] 0 both ran
  rw [shown] at spaced
  have allows := (List.pairwise_cons.mp spaced).1
    (Sample.showing "open:0" 1799999) List.mem_cons_self rfl rfl
  rcases allows with early | late
  · exact absurd early (by decide)
  · exact absurd late (by decide)

end Lalaba.Campaigns
