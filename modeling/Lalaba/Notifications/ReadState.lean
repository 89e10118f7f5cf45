import Lalaba.Notifications.Feed

/-!
# What was read stays read

Two calls of "mark all read" may overlap, and the one that has started first may write
the watermark last.  What was created between the two and has no time of reading of
its own is unread again.  As long as the watermark is not taken back over any such
notification, what was read stays read.
-/

namespace Lalaba.Notifications

open Foundation
open Foundation.Configuration
open Foundation.Snapshot

def Notification.concerns (uid : Uid) (row : Notification) : Bool :=
  row.audience == .BRANCH || row.uid == some uid

def Store.IsRead (uid : Uid) (id : ObjectId) (store : Store) : Prop :=
  ∃ row, store.notifications.lookup id = some row ∧
    row.concerns uid = true ∧ store.resolveReadState id row = true

/--
The watermark is not taken back over a notification without a time of reading of its
own.
-/
def forward (uid : Uid) (configuration : Calls) :
    Move Request Tick → Bool
  | .enter _ => true
  | .resume index _ =>
    match configuration.calls[index]? with
    | some (some (.moveCursor now)) =>
      configuration.store.notifications.entries.all fun entry =>
        !(entry.2.concerns uid &&
            configuration.store.underWatermark entry.2) ||
          decide (entry.2.createdAt ≤ now) ||
          (entry.2.audience == .USER && entry.2.readAt.isSome)
    | _ => true

def Store.Covers (now : Instant) (store : Store) : Prop :=
  ∀ id row, store.notifications.lookup id = some row →
    row.audience = .BRANCH → row.createdAt ≤ now → store.underWatermark row = true

def Store.Good (store : Store) : Prop :=
  ∀ id read, store.reads.lookup id = some read →
    ∃ row, store.notifications.lookup id = some row ∧ row.createdAt ≤ read.createdAt

def Sound (store : Store) : Call → Prop
  | .record id _ =>
    ∃ row, store.notifications.lookup id = some row ∧ row.createdAt ≤ store.clock
  | .collapse now => store.Covers now
  | .deleteReads now => store.Covers now
  | _ => True

/-- A notification later on: it may have been stamped. -/
structure Notification.Follows (row row' : Notification) : Prop where
  audience : row'.audience = row.audience
  uid : row'.uid = row.uid
  createdAt : row'.createdAt = row.createdAt
  readAt : row.readAt.isSome = true → row'.readAt.isSome = true

def Store.Follows (store after : Store) : Prop :=
  ∀ id, Option.Rel Notification.Follows (store.notifications.lookup id)
    (after.notifications.lookup id)

section

variable {uid : Uid} {id : ObjectId} {store after : Store}
  {row row' : Notification} {now : Instant} {expiresAt : Instant}

theorem Notification.Follows.refl : row.Follows row where
  audience := rfl
  uid := rfl
  createdAt := rfl
  readAt := fun read => read

theorem Notification.Follows.concerns (follows : row.Follows row') :
    row'.concerns uid = row.concerns uid := by
  rw [Notification.concerns, Notification.concerns, follows.audience, follows.uid]

theorem Store.Follows.refl (same : after.notifications =
    store.notifications) : store.Follows after := by
  intro id
  rw [same]
  cases store.notifications.lookup id with
  | none => exact .none
  | some row => exact .some .refl

theorem Store.Follows.forth (follows : store.Follows after)
    (found : store.notifications.lookup id = some row) :
    ∃ row', after.notifications.lookup id = some row' ∧ row.Follows row' := by
  have related := follows id
  rw [found] at related
  cases later : after.notifications.lookup id with
  | none =>
    rw [later] at related
    cases related
  | some row' =>
    rw [later] at related
    cases related with
    | some follow => exact ⟨row', rfl, follow⟩

theorem Store.Follows.back (follows : store.Follows after)
    (found : after.notifications.lookup id = some row') :
    ∃ row, store.notifications.lookup id = some row ∧ row.Follows row' := by
  have related := follows id
  rw [found] at related
  cases before : store.notifications.lookup id with
  | none =>
    rw [before] at related
    cases related
  | some row =>
    rw [before] at related
    cases related with
    | some follow => exact ⟨row, rfl, follow⟩

theorem Store.Follows.mapRows {change : ObjectId → Notification → Notification}
    (stamps : ∀ (id : ObjectId) (row : Notification), row.Follows (change id row))
    (changed : after.notifications = Snapshot.mapRows change store.notifications) :
    store.Follows after := by
  intro id
  rw [changed, lookup_mapRows]
  cases store.notifications.lookup id with
  | none => exact .none
  | some row => exact .some (stamps id row)

theorem Store.follows_stamp : store.Follows (store.stamp id) := by
  apply Store.Follows.mapRows _ rfl
  intro other row
  split
  · exact ⟨rfl, rfl, rfl, fun _ => rfl⟩
  · exact .refl

theorem Store.follows_stampAll : store.Follows (store.stampAll uid now) := by
  apply Store.Follows.mapRows _ rfl
  intro other row
  split
  · exact ⟨rfl, rfl, rfl, fun _ => rfl⟩
  · exact .refl

@[simp]
theorem notifications_record : (store.record id expiresAt).notifications = store.notifications := by
  rw [Store.record]
  split <;> rfl

@[simp]
theorem readAllBefore_record : (store.record id expiresAt).readAllBefore = store.readAllBefore := by
  rw [Store.record]
  split <;> rfl

theorem lookup_record {other : ObjectId} {read : NotificationRead}
    (found : store.reads.lookup other = some read) :
    (store.record id expiresAt).reads.lookup other = some read := by
  rw [Store.record]
  split
  · exact found
  · rename_i absent
    have apart : other ≠ id := by
      rintro rfl
      rw [found] at absent
      exact absent rfl
    exact (AList.lookup_insert_ne apart).trans found

theorem lookup_deleteReads {other : ObjectId} {read : NotificationRead} :
    (store.deleteReads now).reads.lookup other = some read ↔
      store.reads.lookup other = some read ∧ now < read.createdAt := by
  rw [← Option.mem_def, AList.mem_lookup_iff, Store.deleteReads,
    List.mem_filter, ← AList.mem_lookup_iff, Option.mem_def, decide_eq_true_eq]

theorem underWatermark_congr (same : after.readAllBefore =
      store.readAllBefore) (follows : row.Follows row') :
    after.underWatermark row' = store.underWatermark row := by
  rw [Store.underWatermark, Store.underWatermark, same, follows.createdAt]

theorem Store.IsRead.follows (isRead : store.IsRead uid id)
    (follows : store.Follows after)
    (covers : ∀ row row', store.notifications.lookup id = some row →
      row.concerns uid = true → row.Follows row' →
      store.underWatermark row = true → after.resolveReadState id row' = true)
    (reads : ∀ row, store.notifications.lookup id = some row →
      row.audience = .BRANCH → (store.reads.lookup id).isSome = true →
        (after.reads.lookup id).isSome = true ∨ store.underWatermark row = true) :
    after.IsRead uid id := by
  rcases isRead with ⟨row, found, concerns, read⟩
  rcases follows.forth found with ⟨row', found', follow⟩
  refine ⟨row', found', follow.concerns.trans concerns, ?_⟩
  cases under : store.underWatermark row with
  | true => exact covers row row' found concerns follow under
  | false =>
    rw [Store.resolveReadState, under] at read
    rw [Store.resolveReadState, follow.audience]
    cases audience : row.audience with
    | USER =>
      rw [audience] at read
      have stamped := (Bool.or_eq_true _ _).mp read
      rw [follow.readAt (stamped.resolve_right Bool.false_ne_true)]
      rfl
    | BRANCH =>
      rw [audience] at read
      have recorded := (Bool.or_eq_true _ _).mp read
      rcases reads row found audience (recorded.resolve_left Bool.false_ne_true) with kept | above
      · rw [Bool.or_eq_true]
        exact .inr kept
      · rw [under] at above
        cases above

theorem resolveReadState_of_under
    (under : store.underWatermark row = true) :
    store.resolveReadState id row = true := by
  rw [Store.resolveReadState]
  cases row.audience with
  | USER => exact (Bool.or_eq_true _ _).mpr (.inr under)
  | BRANCH => exact (Bool.or_eq_true _ _).mpr (.inl under)

theorem Store.IsRead.keeps (isRead : store.IsRead uid id)
    (follows : store.Follows after)
    (same : after.readAllBefore = store.readAllBefore)
    (reads : ∀ row, store.notifications.lookup id = some row →
      row.audience = .BRANCH → (store.reads.lookup id).isSome = true →
        (after.reads.lookup id).isSome = true ∨ store.underWatermark row = true) :
    after.IsRead uid id := by
  apply isRead.follows follows _ reads
  intro row row' _ _ follow under
  apply resolveReadState_of_under
  rw [underWatermark_congr same follow]
  exact under

theorem Store.IsRead.deleteReads (isRead : store.IsRead uid id)
    (good : store.Good) (covers : store.Covers now) :
    (store.deleteReads now).IsRead uid id := by
  have follows : store.Follows (store.deleteReads now) := .refl rfl
  apply isRead.keeps follows rfl
  intro row found audience recorded
  rcases Option.isSome_iff_exists.mp recorded with ⟨read, held⟩
  by_cases kept : now < read.createdAt
  · left
    rw [lookup_deleteReads.mpr ⟨held, kept⟩]
    rfl
  · right
    rcases good id read held with ⟨other, found', older⟩
    cases found.symm.trans found'
    exact covers id row found audience (older.trans (Nat.not_lt.mp kept))

theorem Store.IsRead.moveCursor (isRead : store.IsRead uid id)
    (allowed : ∀ row, store.notifications.lookup id = some row →
      row.concerns uid = true → store.underWatermark row = true →
        row.createdAt ≤ now ∨ row.audience = .USER ∧ row.readAt.isSome = true) :
    (store.moveCursor now).IsRead uid id := by
  have follows : store.Follows (store.moveCursor now) := .refl rfl
  apply isRead.follows follows
  · intro row row' found concerns follow under
    rcases allowed row found concerns under with older | ⟨audience, stamped⟩
    · apply resolveReadState_of_under
      rw [Store.underWatermark, follow.createdAt]
      exact decide_eq_true older
    · rw [Store.resolveReadState, follow.audience, audience]
      exact (Bool.or_eq_true _ _).mpr (.inl (follow.readAt stamped))
  · exact fun _ _ _ recorded => .inl recorded

theorem Store.Covers.keeps (covers : store.Covers now)
    (follows : store.Follows after)
    (same : after.readAllBefore = store.readAllBefore) :
    after.Covers now := by
  intro id row' found' audience older
  rcases follows.back found' with ⟨row, found, follow⟩
  rw [underWatermark_congr same follow]
  apply covers id row found
  · rw [← follow.audience]
    exact audience
  · rw [← follow.createdAt]
    exact older

theorem covers_moveCursor : (store.moveCursor now).Covers now := by
  intro id row _ _ older
  exact decide_eq_true older

theorem Store.Covers.moveCursor {other : Instant}
    (covers : store.Covers other)
    (allowed : ∀ (id : ObjectId) (row : Notification),
      store.notifications.lookup id = some row →
      row.audience = .BRANCH → store.underWatermark row = true → row.createdAt ≤ now) :
    (store.moveCursor now).Covers other := by
  intro id row found audience older
  exact decide_eq_true (allowed id row found audience (covers id row found audience older))

end

/-! ## What a step does -/

def Store.Forward (uid : Uid) (now : Instant) (store : Store) : Prop :=
  ∀ id row, store.notifications.lookup id = some row →
    row.concerns uid = true → store.underWatermark row = true →
      row.createdAt ≤ now ∨ row.audience = .USER ∧ row.readAt.isSome = true

/-- What a call does to the store. -/
inductive Effect (store : Store) : Call → Store → Prop where
  | none (call : Call) : Effect store call store
  | stamps (call : Call) (notifications : Collection Notification)
      (follows : store.Follows { store with notifications }) :
      Effect store call { store with notifications }
  | records (id : ObjectId) (expiresAt : Instant) :
      Effect store (.record id expiresAt) (store.record id expiresAt)
  | moves (now : Instant) : Effect store (.moveCursor now) (store.moveCursor now)
  | deletes (call : Call) (now : Instant)
      (covers : Sound store call → store.Covers now) :
      Effect store call (store.deleteReads now)

section

variable {uid : Uid} {id : ObjectId} {store after : Store} {call other : Call} {deletesFirst : Bool}

theorem effect_of_act : Effect store call (act uid deletesFirst call store).1 := by
  cases call with
  | find id scope =>
    rw [act]
    split
    · exact .none _
    · exact .none _
  | stamp id => exact .stamps _ _ Store.follows_stamp
  | record id expiresAt => exact .records id expiresAt
  | start => exact .none _
  | moveCursor now => exact .moves now
  | collapse now =>
    rw [act]
    split
    · exact .deletes _ now fun covers => covers
    · exact .stamps _ _ Store.follows_stampAll
  | stampAll now => exact .stamps _ _ Store.follows_stampAll
  | deleteReads now => exact .deletes _ now fun covers => covers

theorem Effect.good (effect : Effect store call after)
    (good : store.Good) (sound : Sound store call) : after.Good := by
  cases effect with
  | none | moves => exact good
  | stamps _ notifications follows =>
    intro id read held
    rcases good id read held with ⟨row, found, older⟩
    rcases follows.forth found with ⟨row', found', follow⟩
    exact ⟨row', found', follow.createdAt.trans_le older⟩
  | records id expiresAt =>
    rcases sound with ⟨row, found, older⟩
    intro other read held
    rw [Store.record] at held ⊢
    split at held
    · rename_i present
      rw [if_pos present]
      exact good other read held
    · rename_i absent
      rw [if_neg absent]
      by_cases same : other = id
      · subst same
        rw [AList.lookup_insert] at held
        cases held
        exact ⟨row, found, older⟩
      · rw [AList.lookup_insert_ne same] at held
        exact good other read held
  | deletes _ now _ =>
    intro id read held
    exact good id read (lookup_deleteReads.mp held).1

theorem Effect.sound (effect : Effect store call after)
    (allowed : ∀ now, call = .moveCursor now → store.Forward uid now)
    (sound : Sound store other) : Sound after other := by
  have covers : ∀ now, store.Covers now → after.Covers now := by
    intro now covers
    cases effect with
    | none | deletes => exact covers
    | stamps _ notifications follows => exact covers.keeps follows rfl
    | records id expiresAt =>
      exact covers.keeps (.refl notifications_record) readAllBefore_record
    | moves now' =>
      apply covers.moveCursor
      intro id row found audience under
      have concerns : row.concerns uid = true := by
        rw [Notification.concerns, audience]
        rfl
      rcases allowed now' rfl id row found concerns under with
        older | ⟨direct, _⟩
      · exact older
      · cases audience.symm.trans direct
  cases other with
  | record id expiresAt =>
    rcases sound with ⟨row, found, older⟩
    cases effect with
    | none | moves | deletes => exact ⟨row, found, older⟩
    | stamps _ notifications follows =>
      rcases follows.forth found with ⟨row', found', follow⟩
      exact ⟨row', found', follow.createdAt.trans_le older⟩
    | records id' expiresAt' =>
      rw [Sound, notifications_record]
      refine ⟨row, found, ?_⟩
      rw [Store.record]
      split <;> exact older
  | collapse now | deleteReads now => exact covers now sound
  | find | stamp | start | moveCursor | stampAll => trivial

theorem Effect.isRead (effect : Effect store call after)
    (good : store.Good) (sound : Sound store call)
    (allowed : ∀ now, call = .moveCursor now → store.Forward uid now)
    (isRead : store.IsRead uid id) : after.IsRead uid id := by
  cases effect with
  | none _ => exact isRead
  | stamps _ notifications follows =>
    exact isRead.keeps follows rfl fun _ _ _ recorded => .inl recorded
  | records id' expiresAt =>
    have follows : store.Follows (store.record id' expiresAt) := .refl notifications_record
    apply isRead.keeps follows readAllBefore_record
    intro row _ _ recorded
    rcases Option.isSome_iff_exists.mp recorded with ⟨read, held⟩
    left
    rw [lookup_record held]
    rfl
  | moves now => exact isRead.moveCursor (allowed now rfl id)
  | deletes _ now covers => exact isRead.deleteReads good (covers sound)

/-- What a call goes on with, it may count on. -/
theorem sound_next {call' : Call} (sound : Sound store call)
    (follows : (act uid deletesFirst call store).2 = some call') :
    Sound (act uid deletesFirst call store).1 call' := by
  cases call with
  | find id scope =>
    rw [act] at follows ⊢
    cases found : store.findVisible uid id scope with
    | none =>
      rw [found] at follows
      cases follows
    | some row =>
      rw [found] at follows
      dsimp only at follows
      rcases Option.filter_eq_some_iff.mp found with ⟨stored, shown⟩
      have older := of_decide_eq_true (Bool.and_eq_true_iff.mp shown).1
      cases audience : row.audience with
      | USER =>
        rw [audience] at follows
        cases follows
        trivial
      | BRANCH =>
        rw [audience] at follows
        cases follows
        exact ⟨row, stored, older⟩
  | stamp | record | stampAll | deleteReads => cases follows
  | start =>
    cases follows
    trivial
  | moveCursor now =>
    cases follows
    exact covers_moveCursor
  | collapse now =>
    rw [act] at follows ⊢
    split at follows
    · cases follows
      trivial
    · rename_i stampsFirst
      cases follows
      rw [if_neg stampsFirst]
      exact Store.Covers.keeps sound Store.follows_stampAll rfl

theorem Sound.ticks (sound : Sound store call) {now : Instant}
    (later : store.clock ≤ now) :
    Sound { store with clock := now } call := by
  cases call with
  | record id expiresAt =>
    rcases sound with ⟨row, found, older⟩
    exact ⟨row, found, older.trans later⟩
  | collapse | deleteReads => exact sound
  | find | stamp | start | moveCursor | stampAll => trivial

theorem resume_eq_some {tick : Tick} {next : Option Call}
    (resumes : resume uid tick call store = some (after, next)) :
    store.clock ≤ tick.now ∧
      act uid tick.deletesFirst call { store with clock := tick.now } = (after, next) := by
  rw [resume] at resumes
  split at resumes
  · cases resumes
  · rename_i later
    exact ⟨Nat.not_lt.mp later, Option.some.inj resumes⟩

end

section

variable {uid : Uid} {configuration after : Calls} {move : Move Request Tick}

theorem forward_of_allowed {index : ℕ} {tick : Tick} {call : Call}
    (allowed : forward uid configuration (.resume index tick) = true)
    (waits : configuration.Waits index call) (now : Instant)
    (moves : call = .moveCursor now) :
    configuration.store.Forward uid now := by
  subst moves
  rw [forward, waits] at allowed
  dsimp only at allowed
  intro id row found concerns under
  have spared := List.all_eq_true.mp allowed ⟨id, row⟩ (AList.mem_lookup_iff.mp found)
  simpa [concerns, under] using spared

theorem obligations :
    (feed uid).Obligations (fun _ => True)
      (fun configuration move => forward uid configuration move = true)
      Store.Good Sound := by
  constructor
  · intro request store call _ enters
    cases request with
    | markNotificationRead | markAllNotificationsRead =>
      cases enters
      trivial
  · intro configuration index tick call store next _ allowed waits good sound resumes
    rcases resume_eq_some resumes with ⟨later, acts⟩
    have effect := @effect_of_act uid
      { configuration.store with clock := tick.now } call
      tick.deletesFirst
    have follows := @sound_next uid
      { configuration.store with clock := tick.now } call
      tick.deletesFirst
    rw [acts] at effect follows
    have sound' := sound.ticks later
    exact ⟨effect.good good sound', fun _ => follows sound'⟩
  · intro configuration index tick call store next place other _ allowed
      waits _ _ good _ sound' resumes
    rcases resume_eq_some resumes with ⟨later, acts⟩
    have effect := @effect_of_act uid
      { configuration.store with clock := tick.now } call
      tick.deletesFirst
    rw [acts] at effect
    exact effect.sound (forward_of_allowed allowed waits) (sound'.ticks later)

abbrev Sited (configuration : Calls) : Prop := Service.Invariant Store.Good Sound configuration

theorem Sited.step (sited : Sited configuration)
    (allowed : forward uid configuration move = true)
    (stepped : (feed uid).system.step move configuration = some after) :
    Sited after :=
  obligations.step trivial sited allowed stepped

theorem isRead_step {id : ObjectId} (sited : Sited configuration)
    (allowed : forward uid configuration move = true)
    (stepped : (feed uid).system.step move configuration = some after)
    (isRead : configuration.store.IsRead uid id) :
    after.store.IsRead uid id := by
  cases Service.stepped_of_step stepped with
  | entered request call enters => exact isRead
  | resumed index tick call store next waits resumes =>
    rcases resume_eq_some resumes with ⟨later, acts⟩
    have effect := @effect_of_act uid
      { configuration.store with clock := tick.now } call
      tick.deletesFirst
    rw [acts] at effect
    exact effect.isRead sited.good
      ((sited.sound index call waits).ticks later)
      (forward_of_allowed allowed waits) isRead

theorem good_unread {notifications : Collection Notification} :
    (Store.unread notifications).Good := by
  intro id read held
  cases (AList.lookup_empty id).symm.trans held

/--
In a run in which the watermark is never taken back over a notification that has no
time of reading of its own, a notification that is once reported as read is reported
as read ever after.
-/
theorem readStaysRead {notifications : Collection Notification}
    {earlier later : Calls} {id : ObjectId}
    (reached : (feed uid).system.Reaches
      (fun configuration move => forward uid configuration move = true)
      (.start (.unread notifications)) earlier)
    (continued : (feed uid).system.Reaches
      (fun configuration move => forward uid configuration move = true) earlier later)
    (isRead : earlier.store.IsRead uid id) :
    later.store.IsRead uid id := by
  have sited : Sited earlier := by
    apply reached.invariant Sited (Service.invariant_start good_unread)
    exact fun _ _ _ sited allowed stepped => sited.step allowed stepped
  refine continued.relates Sited
    (fun earlier later => earlier.store.IsRead uid id →
      later.store.IsRead uid id) sited ?_ ?_ ?_ ?_ isRead
  · exact fun _ _ _ sited allowed stepped => sited.step allowed stepped
  · exact fun _ isRead => isRead
  · exact fun _ _ _ first second isRead => second (first isRead)
  · exact fun _ _ _ sited allowed stepped =>
      isRead_step sited allowed stepped

end

namespace Sample

def notifications : Collection Notification :=
  AList.insert "order"
    { audience := .BRANCH
      uid := none
      branchId := some "branch"
      requiredPermission := none
      createdAt := 2
      expiresAt := 1000
      readAt := none } ∅

def marksAll : Move Request Tick := .enter .markAllNotificationsRead

def goesOn (index : ℕ) (now : Instant) : Move Request Tick := .resume index { now }

def reading : List (Move Request Tick) := [marksAll, marksAll, goesOn 0 1, goesOn 1 3]

def seen (configuration : Calls) : Option Bool :=
  (configuration.store.notifications.lookup "order").map fun row =>
    configuration.store.resolveReadState "order" row

theorem isRead_of_seen {configuration : Calls}
    (read : seen configuration = some true)
    (same : configuration.store.notifications.lookup "order" = notifications.lookup "order") :
    configuration.store.IsRead "owner" "order" := by
  rcases Option.map_eq_some_iff.mp read with ⟨row, found, reported⟩
  refine ⟨row, found, ?_, reported⟩
  rw [same] at found
  cases found
  rfl

end Sample

/-- The earlier call writes the watermark first, and the later one above it. -/
theorem readStaysRead_ordered :
    ∃ earlier later : Calls, (feed "owner").system.Reaches (fun configuration move =>
            forward "owner" configuration move = true)
          (.start (.unread Sample.notifications)) earlier ∧
        (feed "owner").system.Reaches (fun configuration move =>
            forward "owner" configuration move = true) earlier later ∧
        earlier.store.IsRead "owner" "order" ∧
        later.store.IsRead "owner" "order" := by
  have performed : (((feed "owner").system.restrict (fun configuration move =>
            forward "owner" configuration move = true)).perform
        (Sample.reading ++ [Sample.goesOn 0 4, Sample.goesOn 1 5])
        (.start (.unread Sample.notifications))).bind (fun earlier =>
          (((feed "owner").system.restrict (fun configuration move =>
                forward "owner" configuration move = true)).perform
            [Sample.goesOn 0 6, Sample.goesOn 1 7, Sample.goesOn 0 8,
              Sample.goesOn 1 9] earlier).map fun _ =>
                (Sample.seen earlier,
                  decide (earlier.store.notifications.lookup "order" =
                    Sample.notifications.lookup "order"))) =
        some (some true, true) := by
    decide +kernel
  rcases System.reaches_of_bind_restrict performed with ⟨earlier, reached, rest⟩
  rcases System.reaches_of_map_restrict rest with ⟨later, continued, seen⟩
  rcases Prod.mk.inj seen with ⟨read, same⟩
  have isRead := Sample.isRead_of_seen read (of_decide_eq_true same)
  exact ⟨earlier, later, reached, continued, isRead, readStaysRead reached continued isRead⟩

/-- The earlier call writes the watermark last, below the notification. -/
theorem readIsUnreadAgain :
    ¬ ∀ (uid : Uid) (notifications : Collection Notification)
        (earlier later : Calls) (id : ObjectId),
      (feed uid).system.Reaches (fun _ _ => True) (.start (.unread notifications)) earlier →
      (feed uid).system.Reaches (fun _ _ => True) earlier later →
      earlier.store.IsRead uid id → later.store.IsRead uid id := by
  intro always
  have performed :
      ((feed "owner").system.perform (Sample.reading ++ [Sample.goesOn 1 4])
        (.start (.unread Sample.notifications))).bind (fun earlier =>
          ((feed "owner").system.perform
            [Sample.goesOn 0 5, Sample.goesOn 0 6, Sample.goesOn 1 7,
              Sample.goesOn 0 8, Sample.goesOn 1 9] earlier).map
                fun later =>
                  (Sample.seen earlier,
                    decide (earlier.store.notifications.lookup "order" =
                      Sample.notifications.lookup "order"),
                    Sample.seen later)) =
        some (some true, true, some false) := by
    decide +kernel
  rcases System.reaches_of_bind performed with ⟨earlier, ran, rest⟩
  rcases System.reaches_of_map rest with ⟨later, went, seen⟩
  rcases Prod.mk.inj seen with ⟨read, rest⟩
  rcases Prod.mk.inj rest with ⟨same, unread⟩
  have isRead := always "owner" Sample.notifications earlier later "order"
    ran went
    (Sample.isRead_of_seen read (of_decide_eq_true same))
  rcases isRead with ⟨row, found, _, reported⟩
  rw [Sample.seen, found] at unread
  cases reported.symm.trans (Option.some.inj unread)

end Lalaba.Notifications
