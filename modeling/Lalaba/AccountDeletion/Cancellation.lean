import Lalaba.AccountDeletion.Erasure

/-!
# Cancelled deletions

A sweep erases the accounts it has found without a second look, and a request and a
cancellation write over whatever the account has become since they read it.  As long
as none of these writes comes too late, an account whose deletion was cancelled is
erased only after the grace period of a later request.
-/

namespace Lalaba.AccountDeletion

open Foundation
open Foundation.Configuration

abbrev Calls := Configuration Store Call

/--
What has been seen of an account: `none` before its first cancellation, and since the
last one the ends of the grace periods that were asked for.
-/
abbrev Seen := Option (List Instant)

def Call.see (uid : Uid) (seen : Seen) : Call → Seen
  | .restore other _ _ => if other = uid then some [] else seen
  | .schedule other _ now =>
    if other = uid then seen.map fun requests => scheduledAt now :: requests
    else seen
  | _ => seen

def see (uid : Uid) (configuration : Calls) (move : Move Request Tick)
    (_ : Calls) (seen : Seen) : Seen :=
  match move with
  | .enter _ => seen
  | .resume index _ =>
    match configuration.calls[index]? with
    | some (some call) => call.see uid seen
    | _ => seen

def Licensed (now : Instant) (seen : Seen) : Prop :=
  ∀ requests, seen = some requests → ∃ scheduledAt ∈ requests, scheduledAt ≤ now

def Store.isDeleted (uid : Uid) (store : Store) : Bool :=
  (store.users.lookup uid).any fun user => user.accountStatus == .DELETED

/--
A write to the account does not come too late: the first write of an erasure finds it
due, or erased already; those of a request and of a cancellation do not find it
erased.
-/
def Call.timely (uid : Uid) (tick : Tick) (store : Store) : Call → Bool
  | .erase other .user _ _ work =>
    other != uid || tick.weather.stops .user || uid ∈ store.due work.now || store.isDeleted uid
  | .schedule other _ _ => other != uid || !store.isDeleted uid
  | .restore other _ _ => other != uid || !store.isDeleted uid
  | _ => true

def timely (uid : Uid) (configuration : Calls) : Move Request Tick → Bool
  | .enter _ => true
  | .resume index tick =>
    match configuration.calls[index]? with
    | some (some call) => call.timely uid tick configuration.store
    | _ => true

/-- What becomes of the user document. -/
inductive Accounted (uid : Uid) (tick : Tick) (store after : Store) : Call → Prop where
  | kept (call : Call) (silent : ∀ seen, call.see uid seen = seen)
      (same : after.users.lookup uid = store.users.lookup uid) :
      Accounted uid tick store after call
  | anonymized (steps : List Erasure) (summary : ProcessingSummary)
      (sweep : Sweep) (runs : tick.weather.stops .user = false)
      (user : after.users.lookup uid =
        (store.users.lookup uid).map (User.anonymized uid sweep.now)) :
      Accounted uid tick store after (.erase uid .user steps summary sweep)
  | scheduled (existing : User) (now : Instant)
      (user : after.users.lookup uid = (store.users.lookup uid).map (User.scheduled now)) :
      Accounted uid tick store after (.schedule uid existing now)
  | restored (cancelledBy : Uid) (now : Instant)
      (user : after.users.lookup uid = (store.users.lookup uid).map (User.restored now)) :
      Accounted uid tick store after (.restore uid cancelledBy now)

section

variable {uid : Uid} {tick : Tick} {store : Store} {call : Call}

theorem proceed_erase {other : Uid} {step : Erasure}
    {steps : List Erasure} {summary : ProcessingSummary} {sweep : Sweep}
    (runs : tick.weather.stops step = false) :
    (proceed tick (.erase other step steps summary sweep) store).1 =
      (tick.weather.run other sweep.now step (store, summary)).1 := by
  rw [proceed, if_neg (by rw [runs]; exact Bool.false_ne_true)]
  cases steps <;> rfl

theorem accounted_proceed : Accounted uid tick store (proceed tick call store).1 call := by
  cases call with
  | erase other step steps summary sweep =>
    cases stops : tick.weather.stops step with
    | true =>
      apply Accounted.kept _ fun _ => rfl
      simp [proceed, stops]
    | false =>
      have users : (proceed tick
          (.erase other step steps summary sweep) store).1.users =
            if step = .user then (store.anonymize other sweep.now).users
            else store.users := by
        rw [proceed_erase stops, Weather.run, Erasure.users_apply]
      by_cases first : step = .user
      · subst first
        rw [if_pos rfl, Store.anonymize_users] at users
        by_cases own : other = uid
        · subst own
          apply Accounted.anonymized steps summary sweep stops
          rw [users, Store.lookup_updateUser]
        · apply Accounted.kept _ fun _ => rfl
          rw [users, Store.lookup_updateUser_of_ne (Ne.symm own)]
      · rw [if_neg first] at users
        apply Accounted.kept _ fun _ => rfl
        rw [users]
  | schedule other existing now =>
    by_cases own : other = uid
    · subst own
      apply Accounted.scheduled
      rw [proceed]
      split
      · rename_i absent
        rw [absent]
        rfl
      · exact Store.lookup_updateUser
    · apply Accounted.kept (.schedule other existing now)
        fun _ => if_neg own
      rw [proceed]
      split
      · rfl
      · exact Store.lookup_updateUser_of_ne (Ne.symm own)
  | restore other cancelledBy now =>
    by_cases own : other = uid
    · subst own
      exact .restored cancelledBy now Store.lookup_updateUser
    · exact .kept _ (fun _ => if_neg own) (Store.lookup_updateUser_of_ne (Ne.symm own))
  | request | block | cancel =>
    apply Accounted.kept _ fun _ => rfl
    rw [proceed]
    split <;> rfl
  | _ => exact .kept _ (fun _ => rfl) rfl

theorem personalData_proceed
    (moved : (proceed tick call store).1.personalData uid ≠ store.personalData uid) :
    ∃ step steps summary sweep, call = .erase uid step steps summary sweep ∧
      tick.weather.stops step = false := by
  cases call with
  | erase other step steps summary sweep =>
    cases stops : tick.weather.stops step with
    | true =>
      rw [proceed, if_pos stops] at moved
      exact (moved rfl).elim
    | false =>
      by_cases own : other = uid
      · subst own
        exact ⟨step, steps, summary, sweep, rfl, stops⟩
      · rw [proceed_erase stops] at moved
        exact (moved (Erasure.personalData_apply_of_ne (Ne.symm own))).elim
  | schedule other existing now =>
    rw [proceed] at moved
    split at moved
    · exact (moved rfl).elim
    · exact (moved (Store.personalData_updateUser fun _ => rfl)).elim
  | restore other cancelledBy now =>
    exact (moved (Store.personalData_updateUser fun _ => rfl)).elim
  | request | block | cancel =>
    rw [proceed] at moved
    split at moved <;> exact (moved rfl).elim
  | _ => exact (moved rfl).elim

variable {now : Instant}

theorem clock_run {weather : Weather} {step : Erasure}
    {both : Store × ProcessingSummary} :
    (weather.run uid now step both).1.clock = both.1.clock := by
  rcases both with ⟨store, summary⟩
  cases step with
  | user =>
    rw [Weather.run, Erasure.apply]
    dsimp only
    rw [Store.anonymize]
    split
    · rfl
    · rename_i user found
      rw [Store.updateUser_of_some found]
  | identity =>
    rw [Weather.run]
    generalize (if weather.throws .identity = true then _ else _) = reply
    cases reply <;> rfl
  | _ => rfl

theorem clock_updateUser {set : User → User} : (store.updateUser uid set).clock = store.clock := by
  rw [Store.updateUser]
  split <;> rfl

theorem clock_proceed : (proceed tick call store).1.clock = store.clock := by
  cases call with
  | erase other step steps summary sweep =>
    cases stops : tick.weather.stops step with
    | true => rw [proceed, if_pos stops]
    | false => rw [proceed_erase stops, clock_run]
  | schedule other existing now =>
    rw [proceed]
    split
    · rfl
    · exact clock_updateUser
  | restore other cancelledBy now => exact clock_updateUser
  | request | block | cancel =>
    rw [proceed]
    split <;> rfl
  | _ => rfl

theorem isDeleted_proceed (deleted : store.isDeleted uid = true)
    (timely : call.timely uid tick store = true) :
    (proceed tick call store).1.isDeleted uid = true := by
  have accounted := @accounted_proceed uid tick store call
  rw [Store.isDeleted]
  cases accounted with
  | kept _ _ same =>
    rw [same]
    exact deleted
  | anonymized steps summary sweep runs user =>
    rw [user]
    cases found : store.users.lookup uid with
    | none =>
      rw [Store.isDeleted, found] at deleted
      cases deleted
    | some user => rfl
  | scheduled | restored =>
    rw [Call.timely, deleted, bne_self_eq_false] at timely
    cases timely

/-! ## Calls -/

def Sound (uid : Uid) (store : Store) : Call → Prop
  | .find now => now ≤ store.clock
  | .erase other step _ _ sweep =>
    sweep.now ≤ store.clock ∧ (other = uid → step ≠ .user → store.isDeleted uid = true)
  | _ => True

theorem sound_turn {sweep : Sweep} (past : sweep.now ≤ store.clock) :
    ∀ call', sweep.turn = some call' → Sound uid store call' := by
  intro call' turns
  rw [Sweep.turn] at turns
  split at turns
  · cases turns
  · cases turns
    exact ⟨past, fun _ later => (later rfl).elim⟩

theorem sound_proceed (sound : Sound uid store call)
    (timely : call.timely uid tick store = true) :
    ∀ call', (proceed tick call store).2 = some call' →
      Sound uid (proceed tick call store).1 call' := by
  cases call with
  | sweep =>
    intro call' turns
    rw [proceed] at turns
    cases turns
    exact Nat.le_refl store.clock
  | find now => exact sound_turn sound
  | erase other step steps summary sweep =>
    have past : sweep.now ≤ (proceed tick
        (.erase other step steps summary sweep) store).1.clock :=
      clock_proceed.symm ▸ sound.1
    cases stops : tick.weather.stops step with
    | true =>
      intro call' turns
      rw [proceed, if_pos stops] at turns
      exact @sound_turn uid _ { sweep with failed := sweep.failed + 1 } past call' turns
    | false =>
      have erased : other = uid → (proceed tick
          (.erase other step steps summary sweep) store).1.isDeleted uid = true := by
        rintro rfl
        by_cases first : step = .user
        · subst first
          rw [Call.timely, stops, bne_self_eq_false, Bool.false_or,
            Bool.false_or, Bool.or_eq_true, decide_eq_true_eq]
            at timely
          rcases timely with due | deleted
          · rcases Store.mem_due.mp due with ⟨user, found, _⟩
            rw [proceed_erase stops]
            have users : ((store.anonymize other sweep.now).users.lookup other) =
                  some (user.anonymized other sweep.now) := by
              rw [Store.anonymize_users, Store.lookup_updateUser, found]
              rfl
            rw [Store.isDeleted, Weather.run, Erasure.users_apply, if_pos rfl, users]
            rfl
          · apply isDeleted_proceed deleted
            rw [Call.timely, deleted, Bool.or_true]
        · apply isDeleted_proceed (sound.2 rfl first)
          cases step with
          | user => exact (first rfl).elim
          | _ => rfl
      intro call' turns
      cases steps with
      | nil =>
        rw [proceed, if_neg (by rw [stops]; exact Bool.false_ne_true)] at turns
        exact @sound_turn uid _
          { sweep with processed := sweep.processed + 1 } past call'
          turns
      | cons following later =>
        rw [proceed, if_neg (by rw [stops]; exact Bool.false_ne_true)] at turns
        cases turns
        exact ⟨past, fun own _ => erased own⟩
  | request | block | cancel | schedule =>
    intro call' turns
    rw [proceed] at turns
    split at turns <;> cases turns
    trivial
  | restore other cancelledBy now =>
    intro call' turns
    rw [proceed] at turns
    cases turns
    trivial
  | record | close =>
    intro call' turns
    rw [proceed] at turns
    cases turns

theorem timely_ticked :
    call.timely uid tick { store with clock := now } =
      call.timely uid tick store := by
  cases call with
  | erase _ step _ _ _ => cases step <;> rfl
  | _ => rfl

theorem Sound.ticked (sound : Sound uid store call) (later : store.clock ≤ now) :
    Sound uid { store with clock := now } call := by
  cases call with
  | find read => exact Nat.le_trans sound later
  | erase _ _ _ _ _ => exact ⟨Nat.le_trans sound.1 later, sound.2⟩
  | _ => trivial

theorem proceed_of_resume {after : Store} {next : Option Call}
    (resumes : resume tick call store = some (after, next)) :
    store.clock ≤ tick.now ∧
      proceed tick call { store with clock := tick.now } = (after, next) := by
  rw [resume] at resumes
  split at resumes
  · cases resumes
  · rename_i later
    exact ⟨Nat.le_of_not_lt later, Option.some.inj resumes⟩

end

section

variable {uid : Uid}

theorem obligations :
    deletion.Obligations (fun _ => True)
      (fun configuration move => timely uid configuration move = true)
      (fun _ => True) (Sound uid) where
  entered := by
    intro request store call _ enters
    cases request with
    | processScheduledDeletions | requestDeletion | cancelDeletion =>
      cases enters
      trivial
  resumed := by
    intro configuration index tick call store next _ allowed waits _ sound resumes
    refine ⟨trivial, ?_⟩
    rcases proceed_of_resume resumes with ⟨later, proceeds⟩
    have allowed' : call.timely uid tick configuration.store = true := by
      rw [timely, waits] at allowed
      exact allowed
    have follows := sound_proceed (sound.ticked later) (timely_ticked.trans allowed')
    rw [proceeds] at follows
    exact follows
  stable := by
    intro configuration index tick call store next place other _ allowed waits _ _ _ _ sound resumes
    rcases proceed_of_resume resumes with ⟨later, proceeds⟩
    have allowed' : call.timely uid tick configuration.store = true := by
      rw [timely, waits] at allowed
      exact allowed
    have clock := @clock_proceed tick { configuration.store with clock := tick.now } call
    have deleted := fun deleted => @isDeleted_proceed uid tick
      { configuration.store with clock := tick.now } call deleted
      (timely_ticked.trans allowed')
    rw [proceeds] at clock deleted
    have later' : configuration.store.clock ≤ store.clock := clock.symm ▸ later
    cases other with
    | find read => exact Nat.le_trans sound later'
    | erase _ _ _ _ _ =>
      exact ⟨Nat.le_trans sound.1 later',
        fun own past => deleted (sound.2 own past)⟩
    | _ => trivial

/-- The user document agrees with what has been seen of the account. -/
structure Tracked (uid : Uid) (store : Store) (seen : Seen) : Prop where
  pending : ∀ user scheduledAt, store.users.lookup uid = some user →
    user.accountStatus = .DELETION_PENDING →
    user.deletionScheduledAt = some scheduledAt →
      ∀ requests, seen = some requests → scheduledAt ∈ requests
  deleted : store.isDeleted uid = true → Licensed store.clock seen

variable {store : Store} {seen : Seen}

theorem Licensed.later {now later : Instant} (licensed : Licensed now seen)
    (after : now ≤ later) :
    Licensed later seen := by
  intro requests same
  rcases licensed requests same with ⟨scheduledAt, member, past⟩
  exact ⟨scheduledAt, member, Nat.le_trans past after⟩

theorem Tracked.licensed {tick : Tick} {steps : List Erasure}
    {summary : ProcessingSummary} {sweep : Sweep}
    (tracked : Tracked uid store seen) (past : sweep.now ≤ store.clock)
    (runs : tick.weather.stops .user = false)
    (allowed : Call.timely uid tick store (.erase uid .user steps summary sweep) = true) :
    Licensed store.clock seen := by
  rw [Call.timely, runs, bne_self_eq_false, Bool.false_or, Bool.false_or,
    Bool.or_eq_true, decide_eq_true_eq] at allowed
  rcases allowed with due | deleted
  · rcases Store.mem_due.mp due with ⟨user, found, pending, scheduledAt, scheduled, elapsed⟩
    intro requests same
    exact ⟨scheduledAt,
      tracked.pending user scheduledAt found pending scheduled requests same,
      Nat.le_trans elapsed past⟩
  · exact tracked.deleted deleted

theorem Tracked.ticked {now : Instant} (tracked : Tracked uid store seen)
    (later : store.clock ≤ now) :
    Tracked uid { store with clock := now } seen where
  pending := tracked.pending
  deleted := fun deleted => (tracked.deleted deleted).later later

theorem Tracked.proceed {tick : Tick} {call : Call}
    (tracked : Tracked uid store seen) (sound : Sound uid store call)
    (allowed : call.timely uid tick store = true) :
    Tracked uid (proceed tick call store).1 (call.see uid seen) := by
  have accounted := @accounted_proceed uid tick store call
  have clock := @clock_proceed tick store call
  cases accounted with
  | kept _ silent same =>
    rw [silent]
    constructor
    · rw [same]
      exact tracked.pending
    · rw [Store.isDeleted, same, clock]
      exact tracked.deleted
  | anonymized steps summary sweep runs user =>
    constructor
    · intro after scheduledAt found pending
      rw [user] at found
      rcases Option.map_eq_some_iff.mp found with ⟨before, _, rfl⟩
      cases pending
    · intro _
      rw [clock]
      exact tracked.licensed sound.1 runs allowed
  | scheduled existing now user =>
    have sees : Call.see uid seen (.schedule uid existing now) =
        seen.map fun requests => scheduledAt now :: requests :=
      if_pos rfl
    rw [sees]
    constructor
    · intro after scheduledAt' found pending scheduled requests same
      rw [user] at found
      rcases Option.map_eq_some_iff.mp found with ⟨before, _, rfl⟩
      cases scheduled
      rcases Option.map_eq_some_iff.mp same with ⟨earlier, _, rfl⟩
      exact List.mem_cons_self
    · intro deleted
      rw [Store.isDeleted, user, Option.any_map] at deleted
      cases found : store.users.lookup uid with
      | none | some =>
        rw [found] at deleted
        cases deleted
  | restored cancelledBy now user =>
    have sees : Call.see uid seen (.restore uid cancelledBy now) =
        some [] :=
      if_pos rfl
    rw [sees]
    constructor
    · intro after scheduledAt found pending
      rw [user] at found
      rcases Option.map_eq_some_iff.mp found with ⟨before, _, rfl⟩
      cases pending
    · intro deleted
      rw [Store.isDeleted, user, Option.any_map] at deleted
      cases found : store.users.lookup uid with
      | none | some =>
        rw [found] at deleted
        cases deleted

/-- What every state reached in time is known to satisfy. -/
structure Followed (uid : Uid) (both : Calls × Seen) : Prop where
  sited : Service.Invariant (fun _ => True) (Sound uid) both.1
  tracked : Tracked uid both.1.store both.2

theorem Followed.step {both both' : Calls × Seen}
    {move : Move Request Tick} (followed : Followed uid both)
    (allowed : timely uid both.1 move = true)
    (stepped : (deletion.system.observed (see uid)).step move both = some both') :
    Followed uid both' := by
  rcases both with ⟨configuration, seen⟩
  rcases both' with ⟨after, seen'⟩
  rcases System.observed_step stepped with ⟨stepped', sees⟩
  dsimp only at stepped' sees
  subst sees
  constructor
  · exact obligations.step trivial followed.sited allowed stepped'
  · cases Service.stepped_of_step stepped' with
    | entered request call enters => exact followed.tracked
    | resumed index tick call store next waits resumes =>
      rcases proceed_of_resume resumes with ⟨later, proceeds⟩
      have allowed' : call.timely uid tick configuration.store = true := by
        rw [timely, waits] at allowed
        exact allowed
      have sees : see uid configuration (.resume index tick)
          (configuration.resumed index store next) seen =
            call.see uid seen := by
        rw [see, waits]
      have sound := followed.sited.sound index call waits
      have tracked := (followed.tracked.ticked later).proceed
        (sound.ticked later) (timely_ticked.trans allowed')
      rw [proceeds] at tracked
      rw [sees]
      exact tracked

theorem tracked_none : Tracked uid store none where
  pending := by
    intro _ _ _ _ _ requests absent
    cases absent
  deleted := by
    intro _ requests absent
    cases absent

theorem followed_of_reaches {both : Calls × Seen}
    (reached : (deletion.system.observed (see uid)).Reaches
      (fun both move => timely uid both.1 move = true) (.start store, none) both) :
    Followed uid both := by
  refine reached.invariant (Followed uid) ?_ ?_
  · exact ⟨Service.invariant_start trivial, tracked_none⟩
  · exact fun _ _ _ followed allowed stepped =>
      followed.step allowed stepped

/--
In a run in which no write to an account comes too late, its personal data are
overwritten only when it was never cancelled, or when the grace period of a request
made since the last cancellation is over.
-/
theorem cancelledDeletionIsNotExecuted {store : Store}
    {configuration after : Calls} {seen : Seen}
    {move : Move Request Tick}
    (reached : (deletion.system.observed (see uid)).Reaches
      (fun both move => timely uid both.1 move = true)
      (.start store, none) (configuration, seen))
    (allowed : timely uid configuration move = true)
    (stepped : deletion.system.step move configuration = some after)
    (moved : after.store.personalData uid ≠ configuration.store.personalData uid) :
    Licensed after.store.clock seen := by
  have followed := followed_of_reaches reached
  cases Service.stepped_of_step stepped with
  | entered request call enters => exact (moved rfl).elim
  | resumed index tick call store next waits resumes =>
    rcases proceed_of_resume resumes with ⟨later, proceeds⟩
    have clock := @clock_proceed tick { configuration.store with clock := tick.now } call
    have moved' : (proceed tick call
        { configuration.store with clock := tick.now }).1.personalData
          uid ≠ Store.personalData uid { configuration.store with clock := tick.now } := by
      rw [proceeds]
      exact moved
    rw [proceeds] at clock
    have clock' : (configuration.resumed index store next).store.clock =
        tick.now :=
      clock
    rw [clock']
    rcases personalData_proceed moved' with ⟨step, steps, summary, sweep, rfl, runs⟩
    have sound := followed.sited.sound index _ waits
    by_cases first : step = .user
    · subst first
      rw [timely, waits] at allowed
      exact (followed.tracked.ticked later).licensed
        (sound.ticked later).1 runs (timely_ticked.trans allowed)
    · exact (followed.tracked.ticked later).deleted (sound.2 rfl first)

end

namespace Sample

def goesOn (index : ℕ) (now : Instant) : Move Request Tick := .resume index { now }

def cancels : Move Request Tick := .enter (.cancelDeletion "customer" "customer")

def overwritten (move : Move Request Tick) (both : Calls × Seen) :
    Option (Bool × Bool × Seen) :=
  (deletion.system.step move both.1).map fun after =>
    (timely "customer" both.1 move,
      after.store.personalData "customer" == both.1.store.personalData "customer", both.2)

end Sample

/-- The customer cancels and asks again, and is erased a grace period later. -/
theorem cancelledDeletionIsNotExecuted_again :
    ∃ (configuration after : Calls) (move : Move Request Tick),
      (deletion.system.observed (see "customer")).Reaches
          (fun both move => timely "customer" both.1 move = true)
          (.start Sample.store, none)
          (configuration, some [scheduledAt 5]) ∧
        deletion.system.step move configuration = some after ∧
        after.store.personalData "customer" ≠ configuration.store.personalData "customer" ∧
        Licensed after.store.clock (some [scheduledAt 5]) := by
  have performed :
      (((deletion.system.observed (see "customer")).restrict
          (fun both move => timely "customer" both.1 move = true)).perform
        [Sample.cancels, Sample.goesOn 0 1, Sample.goesOn 0 2,
          Sample.goesOn 0 3, .enter (.requestDeletion "customer"),
          Sample.goesOn 1 4, Sample.goesOn 1 5, Sample.goesOn 1 6,
          Sample.goesOn 1 7, .enter .processScheduledDeletions,
          Sample.goesOn 2 (scheduledAt 5), Sample.goesOn 2 (scheduledAt 5)]
        (.start Sample.store, none)).bind
          (Sample.overwritten (Sample.goesOn 2 (scheduledAt 6))) =
            some (true, false, some [scheduledAt 5]) := by
    decide +kernel
  rcases System.reaches_of_bind_restrict performed with ⟨⟨configuration, seen⟩, reached, facts⟩
  rcases Option.map_eq_some_iff.mp facts with ⟨after, stepped, same⟩
  rcases Prod.mk.inj same with ⟨allowed, same⟩
  rcases Prod.mk.inj same with ⟨moved, sees⟩
  dsimp only at stepped allowed moved sees
  subst sees
  have moved' := beq_eq_false_iff_ne.mp moved
  exact
    ⟨configuration, after, _, reached, stepped, moved',
      cancelledDeletionIsNotExecuted reached allowed stepped moved'⟩

/-- The deletion is cancelled after the sweep has read which accounts are due. -/
theorem cancelledDeletionExecuted :
    ¬ ∀ (uid : Uid) (store : Store) (configuration after : Calls)
        (seen : Seen) (move : Move Request Tick),
      (deletion.system.observed (see uid)).Reaches (fun _ _ => True)
        (.start store, none) (configuration, seen) →
      deletion.system.step move configuration = some after →
      after.store.personalData uid ≠ configuration.store.personalData uid →
      Licensed after.store.clock seen := by
  intro always
  have performed :
      ((deletion.system.observed (see "customer")).perform
        [.enter .processScheduledDeletions,
          Sample.goesOn 0 (scheduledAt 0), Sample.goesOn 0 (scheduledAt 0),
          Sample.cancels, Sample.goesOn 1 (scheduledAt 1),
          Sample.goesOn 1 (scheduledAt 1), Sample.goesOn 1 (scheduledAt 1)]
        (.start Sample.store, none)).bind
          (Sample.overwritten (Sample.goesOn 0 (scheduledAt 2))) =
            some (false, false, some []) := by
    decide +kernel
  rcases System.reaches_of_bind performed with ⟨⟨configuration, seen⟩, ran, facts⟩
  rcases Option.map_eq_some_iff.mp facts with ⟨after, stepped, same⟩
  rcases Prod.mk.inj same with ⟨_, same⟩
  rcases Prod.mk.inj same with ⟨moved, sees⟩
  dsimp only at stepped moved sees
  subst sees
  rcases always "customer" Sample.store configuration after (some []) _
      ran stepped (beq_eq_false_iff_ne.mp moved)
      [] rfl with ⟨scheduledAt, member, _⟩
  cases member

end Lalaba.AccountDeletion
