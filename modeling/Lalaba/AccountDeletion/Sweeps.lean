import Lalaba.AccountDeletion.Erasure

/-!
# Sweeps that fail

A sweep selects by the status that the first write of an erasure changes.  An erasure
that fails later than that is not taken up again by any sweep, and its record stays
open.
-/

namespace Lalaba.AccountDeletion

open Foundation

/-- What becomes of an account while others are erased. -/
structure Spared (uid : Uid) (store after : Store) : Prop where
  user : after.users.lookup uid = store.users.lookup uid
  personalData : after.personalData uid = store.personalData uid
  records : ∀ (index : ℕ) (record : AccountDeletionRecord),
    store.records[index]? = some record → record.uid = uid → after.records[index]? = some record
  cached : uid ∈ after.cached → uid ∈ store.cached
  deleted : store.verification.deleted ⊆ after.verification.deleted

section

variable {uid other : Uid} {store middle after : Store} {now : Instant}
  {weather : Weather} {both : Store × ProcessingSummary}

theorem Spared.refl (store : Store) : Spared uid store store :=
  ⟨rfl, rfl, fun _ _ stored _ => stored, id, List.Subset.refl _⟩

theorem Spared.trans (first : Spared uid store middle)
    (second : Spared uid middle after) : Spared uid store after where
  user := second.user.trans first.user
  personalData := second.personalData.trans first.personalData
  records := fun index record stored own =>
    second.records index record (first.records index record stored own) own
  cached := fun member => first.cached (second.cached member)
  deleted := List.Subset.trans first.deleted second.deleted

theorem Store.anonymize_rest :
    (store.anonymize other now).records = store.records ∧
      (store.anonymize other now).cached = store.cached ∧
      (store.anonymize other now).verification.deleted =
        store.verification.deleted := by
  rw [anonymize]
  split
  · exact ⟨rfl, rfl, rfl⟩
  · rename_i user found
    rw [updateUser_of_some found]
    exact ⟨rfl, rfl, rfl⟩

/-- A write of an erasure spares the other accounts. -/
theorem spared_run (different : uid ≠ other) (step : Erasure) :
    Spared uid both.1 (weather.run other now step both).1 where
  user := by
    rcases both with ⟨store, summary⟩
    rw [Weather.run, Erasure.users_apply]
    split
    · rw [Store.anonymize_users, Store.lookup_updateUser_of_ne different]
    · rfl
  personalData := Erasure.personalData_apply_of_ne different
  records := by
    rcases both with ⟨store, summary⟩
    intro index record stored own
    cases step with
    | user =>
      exact (congrArg (fun records => records[index]?) Store.anonymize_rest.1).trans stored
    | identity =>
      rw [Weather.run]
      generalize (if weather.throws .identity = true then _ else _) = reply
      cases reply <;> exact stored
    | record =>
      have closed : Store.isOpen other record = false := by
        rw [Store.isOpen, own, beq_eq_false_iff_ne.mpr different]
        rfl
      rw [Weather.run, Erasure.apply]
      dsimp only
      rw [updateMany, List.getElem?_map, stored, Option.map_some, closed]
      rfl
    | _ => exact stored
  cached := by
    rcases both with ⟨store, summary⟩
    intro member
    cases step with
    | user => exact Store.anonymize_rest.2.1 ▸ member
    | cache => exact List.mem_of_mem_filter member
    | identity =>
      rw [Weather.run] at member
      generalize (if weather.throws .identity = true then _ else _) = reply at member
      cases reply <;> exact member
    | _ => exact member
  deleted := by
    rcases both with ⟨store, summary⟩
    cases step with
    | user =>
      rw [Weather.run, Erasure.apply]
      dsimp only
      rw [Store.anonymize_rest.2.2]
      exact List.Subset.refl _
    | selfieObjects => exact List.subset_append_right _ _
    | identity =>
      rw [Weather.run]
      generalize (if weather.throws .identity = true then _ else _) = reply
      cases reply <;> exact List.Subset.refl _
    | _ => exact List.Subset.refl _

theorem spared_runAll (different : uid ≠ other) (steps : List Erasure) :
    Spared uid both.1 (weather.runAll other now steps both).1 := by
  induction steps generalizing both with
  | nil => exact .refl _
  | cons step rest induction =>
    rw [Weather.runAll]
    split
    · exact .refl _
    · exact (spared_run different step).trans induction

theorem spared_eraseAccount (different : uid ≠ other) :
    Spared uid store (eraseAccount weather other now store).1 :=
  @spared_runAll uid other now weather (store, {}) different Erasure.all

theorem spared_eraseAccounts {weather : Uid → Weather} {uids : List Uid}
    (absent : uid ∉ uids) :
    Spared uid store (eraseAccounts weather now uids store) := by
  induction uids generalizing store with
  | nil => exact .refl _
  | cons other rest induction =>
    rw [List.mem_cons, not_or] at absent
    exact (spared_eraseAccount absent.1).trans (induction absent.2)

end

namespace Erasure

def earlier (step : Erasure) : List Erasure := all.takeWhile fun other => other != step

def later (step : Erasure) : List Erasure := (all.dropWhile fun other => other != step).tail

theorem all_split (step : Erasure) :
    all = earlier step ++ step :: later step ∧ step ∉ later step ∧
      record ∉ earlier step ∧
      (step = selfieObjects → selfieRows ∉ earlier step) := by
  cases step <;> decide

end Erasure

namespace Weather

variable {weather : Weather} {uid : Uid} {now : Instant}

def perform (weather : Weather) (uid : Uid) (now : Instant)
    (steps : List Erasure) (both : Store × ProcessingSummary) :
    Store × ProcessingSummary :=
  steps.foldl (fun both step => weather.run uid now step both) both

theorem runAll_cases (steps : List Erasure)
    (both : Store × ProcessingSummary) :
    (∀ step ∈ steps, weather.stops step = false) ∧
        (weather.runAll uid now steps both).1 = (weather.perform uid now steps both).1 ∨
      ∃ done step rest, steps = done ++ step :: rest ∧
        weather.stops step = true ∧
        (weather.runAll uid now steps both).1 = (weather.perform uid now done both).1 := by
  induction steps generalizing both with
  | nil => exact .inl ⟨nofun, rfl⟩
  | cons step rest induction =>
    rw [runAll]
    cases stops : weather.stops step with
    | true => exact .inr ⟨[], step, rest, rfl, stops, rfl⟩
    | false =>
      rw [if_neg Bool.false_ne_true]
      rcases induction (weather.run uid now step both) with
        ⟨clean, same⟩ | ⟨done, halt, left, rfl, halts, same⟩
      · left
        refine ⟨?_, same⟩
        intro other member
        rcases List.mem_cons.mp member with rfl | member
        · exact stops
        · exact clean other member
      · exact .inr ⟨step :: done, halt, left, rfl, halts, same⟩

end Weather

/-! ## What an erasure has done -/

def anonymous (uid : Uid) : Person where
  firstName := ANONYMIZED_FIRST_NAME
  lastName := ANONYMIZED_LAST_NAME
  email := anonymizedEmail uid
  phoneNumber := ""
  homeAddress := {}
  fcmTokens := []

/--
What an await has done to an account that was as in `before`.  An object is deleted
if the bucket answers, and the identity if `deleteUser` does.
-/
def Applied (weather : Weather) (uid : Uid) (before store : Store) :
    Erasure → Prop
  | .user =>
    (store.personalData uid).person = some (anonymous uid) ∧ (store.personalData uid).account = {}
  | .cache => uid ∉ store.cached
  | .selfieObjects =>
    ∀ row ∈ (before.personalData uid).selfies, row.storageKey ≠ "" →
      weather.answers row.storageKey = true → row.storageKey ∈ store.verification.deleted
  | .selfieRows => (store.personalData uid).selfies = []
  | .devices => (store.personalData uid).devices = []
  | .identity =>
    weather.throws .identity = false → weather.reply = .deleted →
      (store.personalData uid).hasIdentity = false
  | .washerProfile =>
    ∀ row ∈ (store.personalData uid).washerProfiles, row.scrubbed = row
  | .activityLogs =>
    ∀ row ∈ (store.personalData uid).activityLogs, row.redacted = row
  | .orders =>
    ∀ row ∈ (store.personalData uid).orders, row.redacted = row
  | .bookings =>
    ∀ row ∈ (store.personalData uid).bookings, row.redacted = row
  | .record =>
    ∀ (index : ℕ) (record : AccountDeletionRecord),
      before.records[index]? = some record →
      Store.isOpen uid record = true →
        ∃ closed, store.records[index]? = some closed ∧ closed.uid = uid ∧ closed.completedAt ≠ none

section

variable {weather : Weather} {uid : Uid} {before store after : Store}
  {now : Instant} {step other : Erasure}
  {both : Store × ProcessingSummary}

theorem updateMany_self {Row : Type} {filter : Row → Bool}
    {set : Row → Row} {rows : List Row}
    (twice : ∀ row, set (set row) = set row) :
    ∀ row ∈ (updateMany filter set rows).filter filter, set row = row := by
  intro row member
  rcases List.mem_filter.mp member with ⟨member, selected⟩
  rcases List.mem_map.mp member with ⟨original, _, rfl⟩
  cases before : filter original with
  | false =>
    rw [before, if_neg Bool.false_ne_true] at selected
    rw [selected] at before
    cases before
  | true =>
    rw [if_pos rfl]
    exact twice original

theorem Applied.spared (applied : Applied weather uid before store step)
    (spared : Spared uid store after) :
    Applied weather uid before after step := by
  cases step with
  | cache => exact fun member => applied (spared.cached member)
  | selfieObjects =>
    exact fun row member named answers =>
      spared.deleted (applied row member named answers)
  | record =>
    intro index record stored own
    rcases applied index record stored own with ⟨closed, stored', own', done⟩
    exact ⟨closed, spared.records index closed stored' own', own', done⟩
  | _ =>
    simp only [Applied, spared.personalData]
    exact applied

theorem Applied.run (applied : Applied weather uid before both.1 step)
    (different : step ≠ other) :
    Applied weather uid before (weather.run uid now other both).1
      step := by
  rcases both with ⟨store, summary⟩
  cases other with
  | user =>
    rw [Weather.run, Erasure.apply]
    dsimp only
    rw [Store.anonymize]
    split
    · exact applied
    · rename_i user found
      rw [Store.updateUser_of_some found]
      cases step with
      | user => exact (different rfl).elim
      | _ => exact applied
  | identity =>
    rw [Weather.run]
    generalize (if weather.throws .identity = true then _ else _) = reply
    cases reply with
    | deleted =>
      cases step with
      | identity => exact (different rfl).elim
      | _ => exact applied
    | userNotFound | failed => exact applied
  | _ =>
    cases step <;> first
      | exact (different rfl).elim
      | exact applied

/-- What the awaits before this one have left as it was. -/
structure Ready (uid : Uid) (before store : Store) (step : Erasure) : Prop where
  user : store.users.lookup uid ≠ none
  selfies : step = .selfieObjects →
    (store.personalData uid).selfies = (before.personalData uid).selfies
  records : store.records = before.records

/-- What an await does. -/
theorem applied_self (ready : Ready uid before both.1 step) :
    Applied weather uid before (weather.run uid now step both).1 step := by
  rcases both with ⟨store, summary⟩
  cases step with
  | user =>
    rcases Option.ne_none_iff_exists'.mp ready.user with ⟨user, found⟩
    dsimp only at found
    have person : ((store.anonymize uid now).users.lookup uid).map
        User.person = some (anonymous uid) := by
      rw [Store.anonymize_users, Store.lookup_updateUser, found]
      rfl
    refine ⟨person, ?_⟩
    have account : (store.anonymize uid now).verification.accounts uid = {} := by
      rw [Store.anonymize, found]
      exact Function.update_self _ _ _
    exact account
  | cache =>
    intro member
    have kept := List.of_mem_filter member
    simp at kept
  | selfieObjects =>
    intro row member named answers
    rw [← ready.selfies rfl] at member
    apply List.mem_append_left
    rw [List.mem_filter]
    refine ⟨List.mem_map_of_mem member, ?_⟩
    rw [answers, Bool.and_true]
    exact bne_iff_ne.mpr named
  | selfieRows | devices =>
    apply List.filter_eq_nil_iff.mpr
    intro row member
    have kept := List.of_mem_filter member
    simpa using kept
  | identity =>
    intro returns deleted
    rw [Weather.run, returns, deleted]
    simp [Erasure.apply, Store.personalData, deleteMany]
  | washerProfile | activityLogs | orders | bookings =>
    exact updateMany_self fun _ => rfl
  | record =>
    intro index record stored isOpen
    have stored' : store.records[index]? = some record := ready.records.symm ▸ stored
    refine ⟨{ record with
      completedAt := some now
      processingSummary := summary }, ?_, ?_, by rintro ⟨⟩⟩
    · rw [Weather.run, Erasure.apply]
      dsimp only
      rw [updateMany, List.getElem?_map, stored', Option.map_some, if_pos isOpen]
    · rw [Store.isOpen, Bool.and_eq_true, Bool.and_eq_true] at isOpen
      exact eq_of_beq isOpen.1.1

theorem records_run (different : other ≠ .record) :
    (weather.run uid now other both).1.records = both.1.records := by
  rcases both with ⟨store, summary⟩
  cases other with
  | user => exact Store.anonymize_rest.1
  | identity =>
    rw [Weather.run]
    generalize (if weather.throws .identity = true then _ else _) = reply
    cases reply <;> rfl
  | record => exact (different rfl).elim
  | _ => rfl

theorem user_run (known : both.1.users.lookup uid ≠ none) :
    (weather.run uid now other both).1.users.lookup uid ≠ none := by
  rcases both with ⟨store, summary⟩
  rw [Weather.run, Erasure.users_apply]
  split
  · rw [Store.anonymize_users, Store.lookup_updateUser]
    intro absent
    exact known (Option.map_eq_none_iff.mp absent)
  · exact known

theorem selfies_run (different : other ≠ .selfieRows) :
    ((weather.run uid now other both).1.personalData uid).selfies =
      (both.1.personalData uid).selfies := by
  rcases both with ⟨store, summary⟩
  cases other with
  | user =>
    rw [Weather.run, Erasure.apply]
    dsimp only
    rw [Store.anonymize]
    split
    · rfl
    · rename_i user found
      rw [Store.updateUser_of_some found]
      rfl
  | identity =>
    rw [Weather.run]
    generalize (if weather.throws .identity = true then _ else _) = reply
    cases reply <;> rfl
  | selfieRows => exact (different rfl).elim
  | _ => rfl

theorem Ready.run (ready : Ready uid before both.1 step)
    (different : other ≠ .record)
    (different' : step = .selfieObjects → other ≠ .selfieRows) :
    Ready uid before (weather.run uid now other both).1 step where
  user := user_run ready.user
  selfies := fun same =>
    (selfies_run (different' same)).trans (ready.selfies same)
  records := (records_run different).trans ready.records

theorem Ready.perform {steps : List Erasure}
    (ready : Ready uid before both.1 step)
    (different : .record ∉ steps)
    (different' : step = .selfieObjects → .selfieRows ∉ steps) :
    Ready uid before (weather.perform uid now steps both).1 step := by
  induction steps generalizing both with
  | nil => exact ready
  | cons other rest induction =>
    rw [List.mem_cons, not_or] at different
    apply induction
    · apply ready.run (Ne.symm different.1)
      exact fun same rows => different' same (rows ▸ List.mem_cons_self)
    · exact different.2
    · exact fun same member =>
        different' same (List.mem_cons_of_mem _ member)

theorem Applied.perform {steps : List Erasure}
    (applied : Applied weather uid before both.1 step)
    (absent : step ∉ steps) :
    Applied weather uid before (weather.perform uid now steps both).1
      step := by
  induction steps generalizing both with
  | nil => exact applied
  | cons other rest induction =>
    rw [List.mem_cons, not_or] at absent
    exact induction (applied.run absent.1) absent.2

theorem applied_perform (known : store.users.lookup uid ≠ none)
    (step : Erasure) :
    Applied weather uid store (weather.perform uid now Erasure.all (store, {})).1 step := by
  rcases Erasure.all_split step with ⟨split, last, unrecorded, rows⟩
  rw [split, Weather.perform, List.foldl_append, List.foldl_cons]
  apply Applied.perform _ last
  apply applied_self
  exact Ready.perform ⟨known, fun _ => rfl, rfl⟩ unrecorded rows

theorem Applied.begun (applied : Applied weather uid before after step)
    (spared : Spared uid store before) :
    Applied weather uid store after step := by
  cases step with
  | selfieObjects =>
    intro row member
    rw [← spared.personalData] at member
    exact applied row member
  | record =>
    intro index record stored isOpen
    have own := isOpen
    rw [Store.isOpen, Bool.and_eq_true, Bool.and_eq_true] at own
    exact applied index record (spared.records index record stored (eq_of_beq own.1.1)) isOpen
  | _ => exact applied

/-! ## Sweeps -/

def Gone (uid : Uid) (store : Store) : Prop :=
  ∃ user, store.users.lookup uid = some user ∧ user.accountStatus = .DELETED

theorem gone_anonymize (known : store.users.lookup uid ≠ none) :
    Gone uid (store.anonymize uid now) := by
  rcases Option.ne_none_iff_exists'.mp known with ⟨user, found⟩
  refine ⟨user.anonymized uid now, ?_, rfl⟩
  rw [Store.anonymize_users, Store.lookup_updateUser, found]
  rfl

theorem Gone.run (gone : Gone uid both.1) : Gone uid (weather.run uid now other both).1 := by
  rcases both with ⟨store, summary⟩
  have known : store.users.lookup uid ≠ none := by
    rcases gone with ⟨user, found, _⟩
    exact found ▸ Option.some_ne_none user
  rcases gone with ⟨user, found, deleted⟩
  have users := @Erasure.users_apply weather.answers
    (if weather.throws other then .failed else weather.reply) uid now other
    store summary
  rw [Gone, Weather.run, users]
  split
  · exact gone_anonymize known
  · exact ⟨user, found, deleted⟩

theorem Gone.perform {steps : List Erasure} (gone : Gone uid both.1) :
    Gone uid (weather.perform uid now steps both).1 := by
  induction steps generalizing both with
  | nil => exact gone
  | cons step rest induction => exact induction gone.run

theorem gone_perform {rest : List Erasure}
    (known : store.users.lookup uid ≠ none) :
    Gone uid (weather.perform uid now (.user :: rest) (store, {})).1 := by
  have first : Gone uid (weather.run uid now .user (store, {})).1 := gone_anonymize known
  exact first.perform

theorem Gone.spared (gone : Gone uid store) (spared : Spared uid store after) : Gone uid after := by
  rcases gone with ⟨user, found, deleted⟩
  exact ⟨user, spared.user.trans found, deleted⟩

theorem Gone.not_due (gone : Gone uid store) : uid ∉ store.due now := by
  rcases gone with ⟨user, found, deleted⟩
  intro due
  rcases Store.mem_due.mp due with ⟨other, found', pending, _⟩
  cases found.symm.trans found'
  rw [deleted] at pending
  cases pending

theorem due_nodup : (store.due now).Nodup :=
  List.Nodup.sublist (List.Sublist.map _ List.filter_sublist) store.users.nodupKeys

theorem eraseAccounts_append {weather : Uid → Weather}
    {first second : List Uid} :
    eraseAccounts weather now (first ++ second) store =
      eraseAccounts weather now second (eraseAccounts weather now first store) := by
  induction first generalizing store with
  | nil => rfl
  | cons other rest induction => exact induction

theorem processScheduledDeletions_due {weather : Uid → Weather}
    (due : uid ∈ store.due now) :
    ∃ middle, Spared uid store middle ∧
      Spared uid (eraseAccount (weather uid) uid now middle).1
        (processScheduledDeletions weather now store) := by
  rcases List.append_of_mem due with ⟨first, second, split⟩
  have distinct := @due_nodup store now
  rw [split] at distinct
  have absent := List.nodup_append.mp distinct
  have absent' := List.nodup_cons.mp absent.2.1
  refine ⟨eraseAccounts weather now first store, ?_, ?_⟩
  · apply spared_eraseAccounts
    intro member
    exact absent.2.2 uid member uid List.mem_cons_self rfl
  · rw [processScheduledDeletions, split, eraseAccounts_append, eraseAccounts]
    exact spared_eraseAccounts absent'.1

end

/-- A sweep, the time it reads, and the weather for each account. -/
structure Night where
  now : Instant
  weather : Uid → Weather

def nights (sweeps : List Night) (store : Store) : Store :=
  sweeps.foldl (fun store night =>
      processScheduledDeletions night.weather night.now store)
    store

def Retried : List Weather → Prop
  | [] => True
  | weather :: rest =>
    if weather.stops .user then Retried rest
    else ∀ step, weather.stops step = false

section

variable {uid : Uid} {store : Store} {night : Night} {sweeps : List Night}
  {user : User} {endOfGrace : Instant} {index : ℕ}
  {record : AccountDeletionRecord}

/-- An account whose deletion is under way, with a record of it. -/
structure Awaiting (uid : Uid) (endOfGrace : Instant) (index : ℕ)
    (record : AccountDeletionRecord) (store : Store) : Prop where
  pending : ∃ user, store.users.lookup uid = some user ∧
    user.accountStatus = .DELETION_PENDING ∧
    user.deletionScheduledAt = some endOfGrace
  stored : store.records[index]? = some record
  isOpen : Store.isOpen uid record = true

theorem own_of_isOpen (isOpen : Store.isOpen uid record = true) : record.uid = uid := by
  rw [Store.isOpen, Bool.and_eq_true, Bool.and_eq_true] at isOpen
  exact eq_of_beq isOpen.1.1

theorem Awaiting.spared {after : Store}
    (awaiting : Awaiting uid endOfGrace index record store)
    (spared : Spared uid store after) :
    Awaiting uid endOfGrace index record after where
  pending := by
    rw [spared.user]
    exact awaiting.pending
  stored := spared.records index record awaiting.stored (own_of_isOpen awaiting.isOpen)
  isOpen := awaiting.isOpen

theorem Awaiting.due
    (awaiting : Awaiting uid endOfGrace index record store)
    (elapsed : endOfGrace ≤ night.now) : uid ∈ store.due night.now := by
  rcases awaiting.pending with ⟨user, found, pending, scheduled⟩
  exact Store.mem_due.mpr ⟨user, found, pending, endOfGrace, scheduled, elapsed⟩

theorem Awaiting.known
    (awaiting : Awaiting uid endOfGrace index record store) :
    store.users.lookup uid ≠ none := by
  rcases awaiting.pending with ⟨user, found, _⟩
  exact found ▸ Option.some_ne_none user

theorem Awaiting.sweep
    (awaiting : Awaiting uid endOfGrace index record store)
    (elapsed : endOfGrace ≤ night.now) :
    ∃ middle after, Spared uid store middle ∧
      after = (eraseAccount (night.weather uid) uid night.now middle).1 ∧
      Spared uid after (processScheduledDeletions night.weather night.now store) := by
  rcases processScheduledDeletions_due (awaiting.due elapsed) with ⟨middle, first, second⟩
  exact ⟨middle, _, first, rfl, second⟩

theorem Awaiting.sweep_user
    (awaiting : Awaiting uid endOfGrace index record store)
    (elapsed : endOfGrace ≤ night.now)
    (stops : (night.weather uid).stops .user = true) :
    Spared uid store (processScheduledDeletions night.weather night.now store) := by
  rcases awaiting.sweep elapsed with ⟨middle, after, first, rfl, second⟩
  have same : (eraseAccount (night.weather uid) uid night.now middle).1 =
      middle := by
    rw [eraseAccount, Erasure.all, Weather.runAll, stops]
    rfl
  rw [same] at second
  exact first.trans second

theorem Awaiting.sweep_clean
    (awaiting : Awaiting uid endOfGrace index record store)
    (elapsed : endOfGrace ≤ night.now)
    (clean : ∀ step, (night.weather uid).stops step = false) :
    Gone uid (processScheduledDeletions night.weather night.now store) ∧
      ∀ step, Applied (night.weather uid) uid store
        (processScheduledDeletions night.weather night.now store) step := by
  rcases awaiting.sweep elapsed with ⟨middle, after, first, rfl, second⟩
  have known := (awaiting.spared first).known
  rcases Weather.runAll_cases Erasure.all (middle, {}) with ⟨_, same⟩ | ⟨_, step, _, _, stops, _⟩
  · have erased : (eraseAccount (night.weather uid) uid night.now
        middle).1 = _ :=
      same
    rw [erased] at second
    constructor
    · apply Gone.spared _ second
      exact gone_perform known
    · intro step
      exact ((applied_perform known step).begun first).spared second
  · rw [clean step] at stops
    cases stops

/-- A sweep that throws later takes the account away and leaves its record open. -/
theorem Awaiting.sweep_stopped
    (awaiting : Awaiting uid endOfGrace index record store)
    (elapsed : endOfGrace ≤ night.now)
    (past : (night.weather uid).stops .user = false) {step : Erasure}
    (stops : (night.weather uid).stops step = true) :
    Gone uid (processScheduledDeletions night.weather night.now store) ∧
      (processScheduledDeletions night.weather night.now store).records[index]? = some record := by
  rcases awaiting.sweep elapsed with ⟨middle, after, first, rfl, second⟩
  have awaiting' := awaiting.spared first
  rcases Weather.runAll_cases Erasure.all (middle, {}) with
    ⟨clean, _⟩ | ⟨done, halt, rest, split, halts, same⟩
  · rw [clean step (by cases step <;> decide)] at stops
    cases stops
  · have erased : (eraseAccount (night.weather uid) uid night.now
        middle).1 = _ :=
      same
    rw [erased] at second
    have unrecorded : .record ∉ done := by
      intro member
      have distinct : Erasure.all.Nodup := by decide
      have last : Erasure.all.getLast? = some .record := by rfl
      rw [split] at distinct last
      rw [List.getLast?_append_cons] at last
      exact (List.nodup_append.mp distinct).2.2 _ member _ (List.mem_of_getLast? last) rfl
    have ready : Ready uid middle middle .record := ⟨awaiting'.known, nofun, rfl⟩
    have kept := (@Ready.perform (night.weather uid) uid middle night.now
      .record (middle, {}) done ready unrecorded nofun).records
    constructor
    · apply Gone.spared _ second
      cases done with
      | nil =>
        cases split
        rw [past] at halts
        cases halts
      | cons head tail =>
        rw [Erasure.all, List.cons_append, List.cons.injEq] at split
        cases split.1
        exact gone_perform awaiting'.known
    · apply second.records index record _ (own_of_isOpen awaiting.isOpen)
      rw [kept]
      exact awaiting'.stored

theorem Gone.nights (gone : Gone uid store) : Spared uid store (nights sweeps store) := by
  induction sweeps generalizing store with
  | nil => exact .refl _
  | cons night rest induction =>
    have spared : Spared uid store
        (processScheduledDeletions night.weather night.now store) :=
      spared_eraseAccounts gone.not_due
    exact spared.trans (induction (gone.spared spared))

theorem Awaiting.finished {last : Night}
    (awaiting : Awaiting uid endOfGrace index record store)
    (elapsed : ∀ night ∈ sweeps ++ [last], endOfGrace ≤ night.now)
    (clean : ∀ step, (last.weather uid).stops step = false)
    (retried : Retried (sweeps.map fun night => night.weather uid)) :
    ∃ night ∈ sweeps ++ [last], ∀ step,
      Applied (night.weather uid) uid store (nights (sweeps ++ [last]) store) step := by
  induction sweeps generalizing store with
  | nil =>
    refine ⟨last, List.mem_singleton_self last, ?_⟩
    exact (awaiting.sweep_clean (elapsed last List.mem_cons_self) clean).2
  | cons night rest induction =>
    have first := elapsed night List.mem_cons_self
    have others := fun other member =>
      elapsed other (List.mem_cons_of_mem night member)
    rw [List.map_cons, Retried] at retried
    split at retried
    · rename_i stops
      have spared := awaiting.sweep_user first stops
      rcases induction (awaiting.spared spared) others retried with ⟨other, member, applied⟩
      exact ⟨other, List.mem_cons_of_mem night member,
        fun step => (applied step).begun spared⟩
    · rcases awaiting.sweep_clean first retried with ⟨gone, applied⟩
      exact ⟨night, List.mem_cons_self,
        fun step => (applied step).spared gone.nights⟩

theorem Awaiting.unfinished {last : Night}
    (awaiting : Awaiting uid endOfGrace index record store)
    (elapsed : ∀ night ∈ sweeps ++ [last], endOfGrace ≤ night.now)
    (lost : ¬ Retried (sweeps.map fun night => night.weather uid)) :
    (nights (sweeps ++ [last]) store).records[index]? = some record := by
  induction sweeps generalizing store with
  | nil => exact (lost trivial).elim
  | cons night rest induction =>
    have first := elapsed night List.mem_cons_self
    have others := fun other member =>
      elapsed other (List.mem_cons_of_mem night member)
    rw [List.map_cons, Retried] at lost
    split at lost
    · rename_i stops
      have spared := awaiting.sweep_user first stops
      exact induction (awaiting.spared spared) others lost
    · rename_i past
      rcases not_forall.mp lost with ⟨step, stops⟩
      rcases awaiting.sweep_stopped first (Bool.not_eq_true _ ▸ past)
        (Bool.not_eq_false _ ▸ stops) with ⟨gone, stored⟩
      exact gone.nights.records index record stored (own_of_isOpen awaiting.isOpen)

/--
For an account that is due, whatever sweeps came before a sweep that throws nowhere
for it: every await of an erasure has been made, and its record is completed, exactly
when the first sweep that got past the first write threw nowhere either.
-/
theorem failedErasureIsFinished {last : Night}
    (awaiting : Awaiting uid endOfGrace index record store)
    (elapsed : ∀ night ∈ sweeps ++ [last], endOfGrace ≤ night.now)
    (clean : ∀ step, (last.weather uid).stops step = false) :
    (∃ night ∈ sweeps ++ [last], ∀ step,
        Applied (night.weather uid) uid store (nights (sweeps ++ [last]) store) step) ↔
      Retried (sweeps.map fun night => night.weather uid) := by
  constructor
  · rintro ⟨night, _, applied⟩
    by_contra lost
    rcases applied .record index record awaiting.stored awaiting.isOpen with
      ⟨closed, stored, _, completed⟩
    cases (awaiting.unfinished elapsed lost).symm.trans stored
    have isOpen := awaiting.isOpen
    rw [Store.isOpen, Bool.and_eq_true, Bool.and_eq_true] at isOpen
    exact completed (Option.isNone_iff_eq_none.mp isOpen.1.2)
  · exact awaiting.finished elapsed clean

end

namespace Sample

def failing (step : Erasure) : Night where
  now := scheduledAt 0
  weather _ := { throws := fun other => other == step }

def clean : Night where
  now := scheduledAt 1
  weather _ := {}

theorem awaiting : Awaiting "customer" (scheduledAt 0) 0 record store where
  pending := ⟨customer, rfl, rfl, rfl⟩
  stored := rfl
  isOpen := by decide

theorem elapsed (step : Erasure) :
    ∀ night ∈ [failing step] ++ [clean], scheduledAt 0 ≤ night.now := by
  intro night member
  rw [List.singleton_append, List.mem_pair] at member
  rcases member with rfl | rfl
  · exact Nat.le_refl _
  · exact Nat.add_le_add_right (Nat.zero_le 1) _

end Sample

/-- The first write has failed, and the next sweep makes it. -/
theorem failedErasureIsFinished_user :
    ∃ night ∈ [Sample.failing .user] ++ [Sample.clean], ∀ step,
      Applied (night.weather "customer") "customer" Sample.store
        (nights ([Sample.failing .user] ++ [Sample.clean]) Sample.store)
        step :=
  (failedErasureIsFinished Sample.awaiting (Sample.elapsed .user)
    fun _ => rfl).mpr trivial

/-- The devices could not be removed, and no later sweep removes them. -/
theorem failedErasureIsForgotten :
    ¬ ∀ (uid : Uid) (store : Store) (endOfGrace : Instant) (index : ℕ)
        (record : AccountDeletionRecord) (sweeps : List Night)
        (last : Night),
      Awaiting uid endOfGrace index record store →
      (∀ night ∈ sweeps ++ [last], endOfGrace ≤ night.now) →
      (∀ uid step, (last.weather uid).throws step = false) →
      ∃ night ∈ sweeps ++ [last], ∀ step,
        Applied (night.weather uid) uid store (nights (sweeps ++ [last]) store) step := by
  intro always
  rcases always "customer" Sample.store (scheduledAt 0) 0 Sample.record
      [Sample.failing .devices] Sample.clean Sample.awaiting
      (Sample.elapsed .devices) (fun _ _ => rfl) with ⟨night, _, applied⟩
  have removed := applied .devices
  have left : ((nights ([Sample.failing .devices] ++ [Sample.clean])
      Sample.store).personalData "customer").devices =
        Sample.store.devices := by
    decide +kernel
  rw [Applied, left] at removed
  cases removed

section

open Configuration

variable {configuration : Configuration Store Call} {index : ℕ}
  {call : Call} {weather : Weather} {store middle : Store}
  {next next' : Option Call}

end

end Lalaba.AccountDeletion
