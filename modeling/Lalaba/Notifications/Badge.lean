import Lalaba.Notifications.ReadState

/-!
# The unread badge

The badge is counted by one query, which drops what was read in three places: direct
notifications with a time of reading, everything under the watermark, and whatever the
account has a row for.  Rows are only ever written for notifications of a branch, so
the query counts what the feed reports as unread, up to its cap.
-/

namespace Lalaba.Notifications

open Foundation
open Foundation.Configuration

def UNREAD_COUNT_CAP : ℕ := 99

namespace Store

def isShown (uid : Uid) (scope : FeedScope) (store : Store)
    (row : Notification) : Bool :=
  decide (row.createdAt ≤ store.clock) && visible uid scope store.clock row

/-- The `$match` of the count. -/
def unreadMatch (uid : Uid) (scope : FeedScope) (store : Store)
    (row : Notification) : Bool :=
  store.isShown uid scope row &&
    (row.audience == .BRANCH || row.audience == .USER && row.readAt.isNone) &&
    store.readAllBefore.all fun watermark =>
      decide (watermark < row.createdAt)

/-- The `$lookup`: the account has no row for a notification. -/
def noReads (id : ObjectId) (store : Store) : Bool := (store.reads.lookup id).isNone

def myUnreadNotificationCount (uid : Uid) (scope : FeedScope)
    (store : Store) : ℕ :=
  let matched := store.notifications.entries.filter fun entry =>
    store.unreadMatch uid scope entry.2
  let unread := matched.filter fun entry => store.noReads entry.1
  min (unread.take (UNREAD_COUNT_CAP + 1)).length UNREAD_COUNT_CAP

def unreadShown (uid : Uid) (scope : FeedScope) (store : Store) : ℕ :=
  store.notifications.entries.countP fun entry =>
    store.isShown uid scope entry.2 && !store.resolveReadState entry.1 entry.2

end Store

/-! ## Rows are for notifications of a branch -/

def Store.Shared (id : ObjectId) (store : Store) : Prop :=
  ∃ row, store.notifications.lookup id = some row ∧ row.audience = .BRANCH

def Store.RowsShared (store : Store) : Prop :=
  ∀ id, (store.reads.lookup id).isSome = true → store.Shared id

def Recording (store : Store) : Call → Prop
  | .record id _ => store.Shared id
  | _ => True

section

variable {uid : Uid} {id : ObjectId} {store after : Store}
  {call other call' : Call} {deletesFirst : Bool}

theorem Store.Shared.follows (shared : store.Shared id)
    (follows : store.Follows after) : after.Shared id := by
  rcases shared with ⟨row, found, audience⟩
  rcases follows.forth found with ⟨row', found', follow⟩
  exact ⟨row', found', follow.audience.trans audience⟩

theorem Effect.follows (effect : Effect store call after) :
    store.Follows after := by
  cases effect with
  | none | moves | deletes => exact .refl rfl
  | stamps _ notifications follows => exact follows
  | records id expiresAt => exact .refl notifications_record

theorem Effect.recording (effect : Effect store call after)
    (recording : Recording store other) : Recording after other := by
  cases other with
  | record id expiresAt => exact Store.Shared.follows recording effect.follows
  | find | stamp | start | moveCursor | collapse | stampAll | deleteReads => trivial

theorem Effect.rowsShared (effect : Effect store call after)
    (shared : store.RowsShared) (recording : Recording store call) :
    after.RowsShared := by
  intro other held
  have follows := effect.follows
  cases effect with
  | none | moves => exact shared other held
  | stamps _ notifications _ => exact (shared other held).follows follows
  | records id expiresAt =>
    refine Store.Shared.follows ?_ follows
    by_cases same : other = id
    · subst same
      exact recording
    · rw [Store.record] at held
      split at held
      · exact shared other held
      · rw [AList.lookup_insert_ne same] at held
        exact shared other held
  | deletes _ now _ =>
    rcases Option.isSome_iff_exists.mp held with ⟨read, found⟩
    have before := (lookup_deleteReads.mp found).1
    exact shared other (Option.isSome_iff_exists.mpr ⟨read, before⟩)

theorem recording_next
    (follows : (act uid deletesFirst call store).2 = some call') :
    Recording (act uid deletesFirst call store).1 call' := by
  cases call with
  | find id scope =>
    rw [act] at follows ⊢
    cases found : store.findVisible uid id scope with
    | none =>
      rw [found] at follows
      cases follows
    | some row =>
      rw [found] at follows
      have stored := (Option.filter_eq_some_iff.mp found).1
      cases audience : row.audience with
      | USER =>
        simp only [audience] at follows
        cases follows
        trivial
      | BRANCH =>
        simp only [audience] at follows
        cases follows
        exact ⟨row, stored, audience⟩
  | stamp | record | stampAll | deleteReads => cases follows
  | start | moveCursor =>
    cases follows
    trivial
  | collapse now =>
    rw [act] at follows ⊢
    split at follows <;> cases follows <;> trivial

theorem Recording.ticks (recording : Recording store call)
    (now : Instant) : Recording { store with clock := now } call := by
  cases call with
  | record id expiresAt => exact recording
  | find | stamp | start | moveCursor | collapse | stampAll | deleteReads => trivial

end

section

variable {uid : Uid}

theorem rowsObligations :
    (feed uid).Obligations (fun _ => True) (fun _ _ => True)
      Store.RowsShared Recording := by
  constructor
  · intro request store call _ enters
    cases request with
    | markNotificationRead | markAllNotificationsRead =>
      cases enters
      trivial
  · intro configuration index tick call store next _ _ _ shared recording resumes
    rcases resume_eq_some resumes with ⟨-, acts⟩
    have effect := @effect_of_act uid
      { configuration.store with clock := tick.now } call
      tick.deletesFirst
    have follows (call' : Call) := @recording_next uid
      { configuration.store with clock := tick.now } call call'
      tick.deletesFirst
    rw [acts] at effect follows
    exact ⟨effect.rowsShared shared (recording.ticks _),
      fun call' waits => follows call' waits⟩
  · intro configuration index tick call store next place other _ _ _ _ _ _ _ recording resumes
    rcases resume_eq_some resumes with ⟨-, acts⟩
    have effect := @effect_of_act uid
      { configuration.store with clock := tick.now } call
      tick.deletesFirst
    rw [acts] at effect
    exact effect.recording (recording.ticks _)

theorem rowsShared_unread {notifications : Collection Notification} :
    (Store.unread notifications).RowsShared := by
  intro id held
  rw [Store.unread] at held
  cases held

theorem rowsShared_of_reaches {notifications : Collection Notification}
    {configuration : Calls}
    (reached : (feed uid).system.Reaches (fun _ _ => True)
      (.start (.unread notifications)) configuration) :
    configuration.store.RowsShared := by
  have invariant : Service.Invariant Store.RowsShared Recording
      configuration := by
    apply reached.invariant (Service.Invariant Store.RowsShared Recording)
      (Service.invariant_start rowsShared_unread)
    exact fun _ _ _ invariant _ stepped =>
      rowsObligations.step trivial invariant trivial stepped
  exact invariant.good

theorem Store.RowsShared.unread_iff {store : Store}
    (shared : store.RowsShared) {scope : FeedScope} {id : ObjectId}
    {row : Notification}
    (found : store.notifications.lookup id = some row) :
    (store.unreadMatch uid scope row && store.noReads id) =
      (store.isShown uid scope row && !store.resolveReadState id row) := by
  have above : (store.readAllBefore.all fun watermark =>
      decide (watermark < row.createdAt)) = !store.underWatermark row := by
    rw [underWatermark]
    cases store.readAllBefore with
    | none => rfl
    | some watermark =>
      simp only [Option.all_some, Option.any_some, ← not_le, decide_not]
  rw [unreadMatch, above, resolveReadState, noReads]
  cases audience : row.audience with
  | USER =>
    -- A direct notification has no row.
    have none : store.reads.lookup id = none := by
      cases held : store.reads.lookup id with
      | none => rfl
      | some read =>
        rcases shared id (by rw [held]; rfl) with ⟨row', found', branch⟩
        cases found.symm.trans found'
        cases audience.symm.trans branch
    rw [none]
    cases store.isShown uid scope row <;> cases row.readAt <;>
      cases store.underWatermark row <;> rfl
  | BRANCH =>
    cases store.isShown uid scope row <;>
      cases store.reads.lookup id <;>
      cases store.underWatermark row <;> rfl

/--
In every reachable state the badge is the smaller of its cap and the number of
notifications that the feed reports as unread.
-/
theorem myUnreadNotificationCount_eq
    {notifications : Collection Notification} {configuration : Calls}
    (reached : (feed uid).system.Reaches (fun _ _ => True)
      (.start (.unread notifications)) configuration)
    (scope : FeedScope) :
    configuration.store.myUnreadNotificationCount uid scope =
      min UNREAD_COUNT_CAP (configuration.store.unreadShown uid scope) := by
  have shared := rowsShared_of_reaches reached
  generalize configuration.store = store at shared
  have counted : (store.notifications.entries.filter fun entry =>
      store.unreadMatch uid scope entry.2).countP (fun entry => store.noReads entry.1) =
      store.unreadShown uid scope := by
    rw [List.countP_filter, Store.unreadShown]
    apply List.countP_congr
    intro entry member
    have found := AList.mem_lookup_iff.mpr member
    rw [← shared.unread_iff found, Bool.and_comm]
  rw [Store.myUnreadNotificationCount, List.length_take, ← List.countP_eq_length_filter, counted]
  omega

end

namespace Sample

def branchScope : FeedScope where
  branchIds := ["branch"]
  granted := []

def opens : Move Request Tick := .enter (.markNotificationRead "order" branchScope)

end Sample

/-- A notification that was opened is not counted any more. -/
theorem myUnreadNotificationCount_opened :
    ∃ configuration : Calls,
      (feed "owner").system.Reaches (fun _ _ => True)
          (.start (.unread Sample.notifications)) configuration ∧
        configuration.store.myUnreadNotificationCount "owner" Sample.branchScope = 0 ∧
        min UNREAD_COUNT_CAP (configuration.store.unreadShown "owner" Sample.branchScope) = 0 := by
  have performed :
      ((feed "owner").system.perform
        [Sample.opens, Sample.goesOn 0 3, Sample.goesOn 0 4]
        (.start (.unread Sample.notifications))).map (fun after =>
          after.store.myUnreadNotificationCount "owner" Sample.branchScope) = some 0 := by
    decide +kernel
  rcases System.reaches_of_map performed with ⟨after, reached, counted⟩
  have agrees := myUnreadNotificationCount_eq reached Sample.branchScope
  exact ⟨after, reached, counted, agrees.symm.trans counted⟩

end Lalaba.Notifications
