import Lalaba.BookingPolicy.Milestones

/-!
# The floor of the ladder

The milestones have one default, which every provider falls back on, and campaigns
target milestones that exist.  No operation checks either of these as it writes: two
defaults come of two upserts whose clearing comes first, and the floor is lost with an
edit that switches the flag off.
-/

namespace Lalaba.BookingPolicy.Milestones

open Foundation
open Foundation.Configuration
open Bookings (ProviderStats resolveMilestone satisfies)

/-! ## Stores -/

namespace Store

def IsDefault (store : Store) (key : String) : Prop :=
  ∃ row, store.milestones.lookup key = some row ∧ row.isDefault = true

def defaults (store : Store) : List String :=
  (store.milestones.entries.filter fun entry => entry.2.isDefault).map Sigma.fst

variable {store : Store}

theorem mem_defaults {key : String} : key ∈ store.defaults ↔ store.IsDefault key := by
  simp only [defaults, IsDefault, List.mem_map, List.mem_filter]
  constructor
  · rintro ⟨⟨other, row⟩, ⟨member, isDefault⟩, rfl⟩
    exact ⟨row, AList.mem_lookup_iff.mpr member, isDefault⟩
  · rintro ⟨row, found, isDefault⟩
    exact ⟨⟨key, row⟩, ⟨AList.mem_lookup_iff.mp found, isDefault⟩, rfl⟩

def OneDefault (store : Store) : Prop :=
  ∀ key other, store.IsDefault key → store.IsDefault other → key = other

def ActiveDefaults (store : Store) : Prop :=
  ∀ key row, store.milestones.lookup key = some row → row.isDefault = true → row.isActive = true

def Floor (store : Store) : Prop :=
  ∃ key row, store.milestones.lookup key = some row ∧ row.isDefault = true ∧ row.isActive = true

def Referenced (store : Store) : Prop :=
  ∀ id campaign, store.campaigns.lookup id = some campaign →
    ∀ key ∈ campaign.targeting.milestoneKeys, key ∈ store.milestones

/-- What is kept of a store in every state. -/
structure Good (store : Store) : Prop where
  single : store.OneDefault
  active : store.ActiveDefaults
  referenced : store.Referenced

theorem Good.floor (good : store.Good) {key : String}
    (default : store.IsDefault key) : store.Floor := by
  rcases default with ⟨row, found, isDefault⟩
  exact ⟨key, row, found, isDefault, good.active key row found isDefault⟩

theorem good_empty : empty.Good where
  single := by
    rintro key other ⟨row, found, _⟩ _
    cases found
  active := by
    intro key row found
    cases found
  referenced := by
    intro id campaign found
    cases found

end Store

section

variable {store : Store} {key other : String} {row : Milestone}

theorem lookup_clearOthers :
    (store.clearOthers key).milestones.lookup other = (store.milestones.lookup other).map fun row =>
        if other = key then row else { row with isDefault := false } := by
  rw [Store.clearOthers]
  exact Snapshot.lookup_mapRows

theorem isDefault_clearOthers :
    (store.clearOthers key).IsDefault other ↔ other = key ∧ store.IsDefault other := by
  rw [Store.IsDefault, Store.IsDefault, lookup_clearOthers]
  constructor
  · rintro ⟨row, found, isDefault⟩
    rcases Option.map_eq_some_iff.mp found with ⟨row', stored, rfl⟩
    by_cases here : other = key
    · rw [if_pos here] at isDefault
      exact ⟨here, row', stored, isDefault⟩
    · rw [if_neg here] at isDefault
      cases isDefault
  · rintro ⟨here, row, found, isDefault⟩
    rw [found, Option.map_some, if_pos here]
    exact ⟨row, rfl, isDefault⟩

theorem good_clearOthers (good : store.Good) : (store.clearOthers key).Good where
  single := by
    intro first second one two
    exact (isDefault_clearOthers.mp one).1.trans (isDefault_clearOthers.mp two).1.symm
  active := by
    intro other row found isDefault
    rw [lookup_clearOthers] at found
    rcases Option.map_eq_some_iff.mp found with ⟨row', stored, rfl⟩
    by_cases here : other = key
    · rw [if_pos here] at isDefault ⊢
      exact good.active other row' stored isDefault
    · rw [if_neg here] at isDefault
      cases isDefault
  referenced := by
    intro id campaign found target targeted
    have stored := good.referenced id campaign found target targeted
    rw [← AList.lookup_isSome] at stored ⊢
    rw [lookup_clearOthers, Option.isSome_map]
    exact stored

theorem isDefault_insert : ({ store with
        milestones := store.milestones.insert key row } : Store).IsDefault other ↔
      other = key ∧ row.isDefault = true ∨ other ≠ key ∧ store.IsDefault other := by
  rw [Store.IsDefault, Store.IsDefault]
  by_cases here : other = key
  · subst here
    simp [AList.lookup_insert]
  · simp [AList.lookup_insert_ne here, here]

theorem good_insert (good : store.Good)
    (alone : row.isDefault = true → ∀ other, store.IsDefault other → other = key)
    (active : row.isDefault = true → row.isActive = true) :
    ({ store with milestones := store.milestones.insert key row } : Store).Good where
  single := by
    intro first second one two
    rcases isDefault_insert.mp one with ⟨here, isDefault⟩ | ⟨off, old⟩
    · rcases isDefault_insert.mp two with ⟨here', _⟩ | ⟨off', old'⟩
      · exact here.trans here'.symm
      · exact (off' (alone isDefault second old')).elim
    · rcases isDefault_insert.mp two with ⟨_, isDefault⟩ | ⟨_, old'⟩
      · exact (off (alone isDefault first old)).elim
      · exact good.single first second old old'
  active := by
    intro other found stored isDefault
    by_cases here : other = key
    · subst here
      rw [AList.lookup_insert] at stored
      cases stored
      exact active isDefault
    · rw [AList.lookup_insert_ne here] at stored
      exact good.active other found stored isDefault
  referenced := by
    intro id campaign found target targeted
    exact AList.mem_insert _ |>.mpr (.inr (good.referenced id campaign found target targeted))

theorem isDefault_erase
    (erased : ({ store with milestones := store.milestones.erase key } : Store).IsDefault other) :
    other ≠ key ∧ store.IsDefault other := by
  rcases erased with ⟨row, found, isDefault⟩
  by_cases here : other = key
  · subst here
    rw [AList.lookup_erase] at found
    cases found
  · rw [AList.lookup_erase_ne here] at found
    exact ⟨here, row, found, isDefault⟩

theorem good_erase (good : store.Good) (free : store.targeting key = 0) :
    ({ store with milestones := store.milestones.erase key } : Store).Good where
  single := by
    intro first second one two
    exact good.single first second (isDefault_erase one).2 (isDefault_erase two).2
  active := by
    intro other row found isDefault
    by_cases here : other = key
    · subst here
      rw [AList.lookup_erase] at found
      cases found
    · rw [AList.lookup_erase_ne here] at found
      exact good.active other row found isDefault
  referenced := by
    intro id campaign found target targeted
    refine AList.mem_erase.mpr ⟨?_, good.referenced id campaign found target targeted⟩
    rintro rfl
    rw [Store.targeting, List.countP_eq_zero] at free
    exact free ⟨id, campaign⟩ (AList.mem_lookup_iff.mp found) (decide_eq_true targeted)

theorem good_campaign {id : ObjectId} {campaign : Campaign}
    (good : store.Good)
    (known : ∀ key ∈ campaign.targeting.milestoneKeys, key ∈ store.milestones) :
    ({ store with campaigns := store.campaigns.insert id campaign } : Store).Good where
  single := good.single
  active := good.active
  referenced := by
    intro other found stored
    by_cases here : other = id
    · subst here
      rw [AList.lookup_insert] at stored
      cases stored
      exact known
    · rw [AList.lookup_insert_ne here] at stored
      exact good.referenced other found stored

end

/-! ## One step -/

namespace Call

def seats : Call → Bool
  | .upsert input _ => input.isDefault
  | _ => false

/--
What a call writes keeps the ladder: a milestone that becomes the default is active and
the only one; the default does not lose its flag, and is not deleted, unless another
milestone is about to become the default; a milestone that is deleted is not targeted;
and a campaign targets milestones that are there.
-/
def careful (store : Store) (seated : Bool) : Call → Bool
  | .upsert input _ =>
    if input.isDefault then
      input.isActive && store.defaults.all (· == input.key)
    else
      seated || decide (input.key ∉ store.defaults)
  | .delete key =>
    (seated || decide (key ∉ store.defaults)) && store.targeting key == 0
  | .update id input =>
    (store.campaigns.lookup id).isNone ||
      input.milestoneKeys.all fun key => decide (key ∈ store.milestones)
  | .create input _ =>
    input.milestoneKeys.all fun key => decide (key ∈ store.milestones)
  | _ => true

def Begun : Call → Prop
  | .clear input _ => input.isDefault = true
  | _ => True

end Call

/-- What a step does to the store, and where the call waits next. -/
inductive Resumed (store : Store) : Call → Store → Option Call → Prop where
  | cleared (input : UpsertBookingMilestoneInput) (actorUid : Uid) :
      Resumed store (.clear input actorUid) (store.clearOthers input.key)
        (some (.upsert input actorUid))
  | upserted (input : UpsertBookingMilestoneInput) (actorUid : Uid) :
      Resumed store (.upsert input actorUid) { store with
          milestones := store.milestones.insert input.key
            (input.written actorUid (store.milestones.lookup input.key)) }
        none
  | idle (call : Call) (next : Option Call) (unseated : call.seats = false)
      (begun : ∀ call', next = some call' → call'.Begun) :
      Resumed store call store next
  | deleted (key : String) :
      Resumed store (.delete key) { store with milestones := store.milestones.erase key } none
  | updated (id : ObjectId) (input : UpsertBookingCampaignInput)
      (stored : Campaign) (found : store.campaigns.lookup id = some stored) :
      Resumed store (.update id input) { store with
          campaigns := store.campaigns.insert id (input.onto stored) }
        none
  | created (id : ObjectId) (input : UpsertBookingCampaignInput)
      (actorUid : Uid) :
      Resumed store (.create input actorUid) { store with
          campaigns := store.campaigns.insert id (input.created id actorUid) }
        none

section

variable {store after : Store} {call : Call} {next : Option Call} {tick : Tick} {seated : Bool}

theorem resumed_of_resume
    (resumes : resume tick call store = some (after, next)) :
    Resumed store call after next := by
  have returns : ∀ call', (none : Option Call) = some call' →
      call'.Begun := by
    intro call' absent
    cases absent
  cases call with
  | clear input actorUid =>
    cases resumes
    exact .cleared input actorUid
  | upsert input actorUid =>
    cases resumes
    exact .upserted input actorUid
  | find key =>
    rw [resume] at resumes
    split at resumes
    · cases resumes
      exact .idle _ _ rfl returns
    · cases resumes
      exact .idle _ _ rfl returns
    · cases resumes
      refine .idle _ _ rfl ?_
      intro call' same
      cases same
      exact trivial
  | count key milestone =>
    rw [resume] at resumes
    split at resumes
    · cases resumes
      exact .idle _ _ rfl returns
    · cases resumes
      refine .idle _ _ rfl ?_
      intro call' same
      cases same
      exact trivial
  | delete key =>
    cases resumes
    exact .deleted key
  | update id input =>
    rw [resume] at resumes
    split at resumes
    · cases resumes
      exact .idle _ _ rfl returns
    · rename_i stored found
      cases resumes
      exact .updated id input stored found
  | create input actorUid =>
    rw [resume] at resumes
    split at resumes
    · cases resumes
    · cases resumes
      exact .created _ input actorUid

namespace Resumed

theorem begun (resumed : Resumed store call after next) :
    ∀ call', next = some call' → call'.Begun := by
  intro call' same
  cases resumed with
  | cleared input actorUid =>
    cases same
    exact trivial
  | upserted | deleted | updated | created => cases same
  | idle _ _ _ begun => exact begun call' same

theorem good (resumed : Resumed store call after next)
    (careful : call.careful store seated = true) (good : store.Good) :
    after.Good := by
  cases resumed with
  | cleared input actorUid => exact good_clearOthers good
  | upserted input actorUid =>
    refine good_insert good ?_ ?_
    · intro isDefault other elsewhere
      have isDefault : input.isDefault = true := isDefault
      rw [Call.careful, if_pos isDefault, Bool.and_eq_true, List.all_eq_true] at careful
      exact eq_of_beq (careful.2 other (Store.mem_defaults.mpr elsewhere))
    · intro isDefault
      have isDefault : input.isDefault = true := isDefault
      rw [Call.careful, if_pos isDefault, Bool.and_eq_true] at careful
      exact careful.1
  | idle _ _ _ _ => exact good
  | deleted key =>
    rw [Call.careful, Bool.and_eq_true] at careful
    exact good_erase good (eq_of_beq careful.2)
  | updated id input stored found =>
    refine good_campaign good ?_
    intro key targeted
    rw [Call.careful, found, Option.isNone_some, Bool.false_or, List.all_eq_true] at careful
    exact of_decide_eq_true (careful key targeted)
  | created id input actorUid =>
    refine good_campaign good ?_
    intro key targeted
    rw [Call.careful, List.all_eq_true] at careful
    exact of_decide_eq_true (careful key targeted)

theorem keeps (resumed : Resumed store call after next)
    (careful : call.careful store seated = true) (begun : call.Begun)
    {key : String} (isDefault : store.IsDefault key) :
    seated = true ∨ (∃ call', next = some call' ∧ call'.seats = true) ∨
      ∃ other, after.IsDefault other := by
  cases resumed with
  | cleared input actorUid => exact .inr (.inl ⟨_, rfl, begun⟩)
  | upserted input actorUid =>
    rw [Call.careful] at careful
    cases becomes : input.isDefault with
    | true =>
      exact .inr (.inr ⟨input.key, isDefault_insert.mpr (.inl ⟨rfl, becomes⟩)⟩)
    | false =>
      rw [becomes, if_neg Bool.false_ne_true, Bool.or_eq_true,
        decide_eq_true_eq, Store.mem_defaults] at careful
      rcases careful with elsewhere | other
      · exact .inl elsewhere
      · refine .inr (.inr ⟨key, isDefault_insert.mpr (.inr ⟨?_, isDefault⟩)⟩)
        rintro rfl
        exact other isDefault
  | idle | updated | created => exact .inr (.inr ⟨key, isDefault⟩)
  | deleted gone =>
    rw [Call.careful, Bool.and_eq_true, Bool.or_eq_true,
      decide_eq_true_eq, Store.mem_defaults] at careful
    rcases careful.1 with elsewhere | other
    · exact .inl elsewhere
    · rcases isDefault with ⟨row, found, flagged⟩
      have kept : key ≠ gone := by
        rintro rfl
        exact other ⟨row, found, flagged⟩
      refine .inr (.inr ⟨key, row, ?_, flagged⟩)
      rw [AList.lookup_erase_ne kept]
      exact found

theorem made (resumed : Resumed store call after next)
    (seats : call.seats = true) : ∃ key, after.IsDefault key := by
  cases resumed with
  | cleared | deleted | updated | created => cases seats
  | upserted input actorUid =>
    exact ⟨input.key, isDefault_insert.mpr (.inl ⟨rfl, seats⟩)⟩
  | idle _ _ unseated _ => cases unseated.symm.trans seats

end Resumed

end

def inOrder (configuration : Calls) : Move Request Tick → Bool
  | .enter _ => true
  | .resume index _ =>
    match configuration.calls[index]? with
    | some (some call) =>
      call.careful configuration.store (configuration.someCall Call.seats)
    | _ => true

def Floored (both : Calls × Bool) : Prop :=
  both.2 = true → (∃ key, both.1.store.IsDefault key) ∨ both.1.someCall Call.seats = true

section

variable {both both' : Calls × Bool} {move : Move Request Tick}

theorem begun_of_enter {request : Request} {store : Store} {call : Call}
    (enters : editing.enter request store = some call) : call.Begun := by
  cases request with
  | upsertMilestone input actorUid =>
    cases enters
    cases becomes : input.isDefault with
    | true => exact becomes
    | false => exact trivial
  | removeMilestone key =>
    cases enters
    exact trivial
  | upsertCampaign input actorUid =>
    simp only [editing, enter] at enters
    split at enters
    · cases enters
    · split at enters
      · cases enters
        exact trivial
      · cases enters
        exact trivial

theorem obligations :
    editing.Obligations (fun _ => True)
      (fun configuration move => inOrder configuration move = true)
      Store.Good fun _ call => call.Begun where
  entered := fun _ _ _ _ enters => begun_of_enter enters
  resumed := by
    intro configuration index tick call store next _ allowed waits good _ resumes
    have resumed := resumed_of_resume resumes
    rw [inOrder, waits] at allowed
    exact ⟨resumed.good allowed good, resumed.begun⟩
  stable := by
    intro _ _ _ _ _ _ _ _ _ _ _ _ _ _ _ begun _
    exact begun

theorem see_resumed {configuration after : Calls} {index : ℕ} {tick : Tick}
    {call : Call} {made : Bool} (waits : configuration.Waits index call) :
    see configuration (.resume index tick) after made = (made || call.seats) := by
  rw [see, waits]
  cases call with
  | upsert input actorUid => rfl
  | _ => exact (Bool.or_false made).symm

theorem floored_step
    (invariant : Service.Invariant Store.Good (fun _ call => call.Begun) both.1)
    (floored : Floored both) (allowed : inOrder both.1 move = true)
    (stepped : (editing.system.observed see).step move both = some both') : Floored both' := by
  rcases both' with ⟨after, made⟩
  rcases System.observed_step stepped with ⟨ran, seen⟩
  dsimp only at ran seen
  subst seen
  cases Service.stepped_of_step ran with
  | entered request call enters =>
    exact fun made => (floored made).imp_right someCall_entered
  | resumed index tick call store next waits resumes =>
    have resumed := resumed_of_resume resumes
    rw [inOrder, waits] at allowed
    intro made
    rw [see_resumed waits] at made
    cases seats : call.seats with
    | true => exact .inl (resumed.made seats)
    | false =>
      rw [seats, Bool.or_false] at made
      have goesOn : both.1.someCall Call.seats = true →
          (both.1.resumed index store next).someCall Call.seats =
            true := by
        intro elsewhere
        refine someCall_resumed waits elsewhere ?_
        intro here
        cases seats.symm.trans here
      rcases floored made with ⟨key, isDefault⟩ | elsewhere
      · rcases resumed.keeps allowed (invariant.sound index call waits)
            isDefault with elsewhere | ⟨call', rfl, next⟩ | stays
        · exact .inr (goesOn elsewhere)
        · exact .inr (someCall_next waits next)
        · exact .inl stays
      · exact .inr (goesOn elsewhere)

/--
In a run whose writes all keep the ladder, one milestone at most is the default whenever
no call is in progress; there is an active default once there was one; and campaigns
target milestones that exist.
-/
theorem ladderKeepsItsFloor
    (reached : (editing.system.observed see).Reaches
      (fun both move => inOrder both.1 move = true) (.start .empty, false) both)
    (quiet : both.1.Quiet) :
    both.1.store.OneDefault ∧ (both.2 = true → both.1.store.Floor) ∧
      both.1.store.Referenced := by
  have known : Service.Invariant Store.Good (fun _ call => call.Begun) both.1 ∧ Floored both := by
    refine reached.invariant
      (fun both => Service.Invariant Store.Good
        (fun _ call => call.Begun) both.1 ∧ Floored both) ?_ ?_
    · refine ⟨Service.invariant_start Store.good_empty, ?_⟩
      intro made
      cases made
    · intro state move after ⟨invariant, floored⟩ allowed stepped
      exact
        ⟨obligations.step trivial invariant allowed (System.observed_step stepped).1,
          floored_step invariant floored allowed stepped⟩
  rcases known with ⟨invariant, floored⟩
  refine ⟨invariant.good.single, ?_, invariant.good.referenced⟩
  intro made
  rcases floored made with ⟨key, isDefault⟩ | seats
  · exact invariant.good.floor isDefault
  · exact (not_someCall_of_quiet quiet seats).elim

end

namespace Sample

def rung (key : String) (isDefault : Bool) : UpsertBookingMilestoneInput where
  key := key
  name := key
  rank := 0
  isDefault := isDefault
  isActive := true
  eligibility := {}
  entitlements := { dailyCapacity := 3, advanceBookingDays := 14 }
  priorityBooking := false

def goesOn (index : ℕ) : Move Request Tick := .resume index {}

def handover : List (Move Request Tick) :=
  [.enter (.upsertMilestone (rung "starter" true) "admin"), goesOn 0,
    goesOn 0, .enter (.upsertMilestone (rung "pro" true) "admin"), goesOn 1, goesOn 1]

def twice : List (Move Request Tick) :=
  [.enter (.upsertMilestone (rung "starter" true) "admin"),
    .enter (.upsertMilestone (rung "pro" true) "admin"), goesOn 0,
    goesOn 1, goesOn 0, goesOn 1]

def unseating : List (Move Request Tick) :=
  [.enter (.upsertMilestone (rung "starter" true) "admin"), goesOn 0,
    goesOn 0, .enter (.upsertMilestone (rung "starter" false) "admin"), goesOn 1]

def seen (both : Calls × Bool) : Bool × Bool × List String :=
  (both.1.someCall fun _ => true, both.2, both.1.store.defaults)

end Sample

/-- The second milestone is the only default. -/
theorem ladderKeepsItsFloor_handover :
    ∃ both : Calls × Bool,
      both.1.store.defaults = ["pro"] ∧ both.1.store.OneDefault ∧
        both.1.store.Floor := by
  have performed :
      (((editing.system.observed see).restrict
          (fun both move => inOrder both.1 move = true)).perform
        Sample.handover (.start .empty, false)).map Sample.seen =
        some (false, true, ["pro"]) := by
    decide +kernel
  rcases System.reaches_of_map_restrict performed with ⟨both, ran, seen⟩
  have quiet : both.1.Quiet := quiet_iff.mpr (congrArg Prod.fst seen)
  have kept := ladderKeepsItsFloor ran quiet
  exact
    ⟨both, congrArg (fun seen => seen.2.2) seen, kept.1,
      kept.2.1 (congrArg (fun seen => seen.2.1) seen)⟩

/-- The default loses its flag in an edit, and no other has it. -/
theorem floorLost :
    ¬ ∀ both : Calls × Bool,
      (editing.system.observed see).Reaches (fun _ _ => True)
          (.start .empty, false) both →
        both.1.Quiet →
        both.1.store.OneDefault ∧ (both.2 = true → both.1.store.Floor) ∧
          both.1.store.Referenced := by
  intro always
  have performed :
      ((editing.system.observed see).perform Sample.unseating
        (.start .empty, false)).map Sample.seen =
        some (false, true, []) := by
    decide +kernel
  rcases System.reaches_of_map performed with ⟨both, ran, seen⟩
  have quiet : both.1.Quiet := quiet_iff.mpr (congrArg Prod.fst seen)
  have kept := always both ran quiet
  have none : both.1.store.defaults = [] := congrArg (fun seen => seen.2.2) seen
  rcases kept.2.1 (congrArg (fun seen => seen.2.1) seen) with ⟨key, row, found, isDefault, _⟩
  have member : key ∈ both.1.store.defaults := Store.mem_defaults.mpr ⟨row, found, isDefault⟩
  rw [none] at member
  cases member

/-- Of two upserts at once come two defaults. -/
example :
    ((editing.system.observed see).perform Sample.twice
      (.start .empty, false)).map Sample.seen =
      some (false, true, ["pro", "starter"]) := by
  decide +kernel

end Lalaba.BookingPolicy.Milestones
