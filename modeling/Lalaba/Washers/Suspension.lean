import Lalaba.Common
import Lalaba.Foundation.Interleaving

/-!
# The suspension of a washer

An administrator suspends a washer on her profile, and the gate of a request reads a
copy on her account.  The profile is written first and the account after it, so the
account of a washer may be written late, by a call whose profile was changed since.
As long as such a write is not the last one, the two agree.
-/

namespace Lalaba.Washers

open Foundation
open Foundation.Configuration

inductive WasherStatus where
  | ACTIVE
  | INACTIVE
  | SUSPENDED
deriving DecidableEq

structure WasherProfile where
  uid : Uid
  status : WasherStatus
deriving DecidableEq

/-- The profiles by their branches, and the accounts' copies. -/
structure Store where
  profiles : Collection WasherProfile
  washerStatus : Uid → Option WasherStatus

namespace Store

/-- `findOneAndUpdate` of the profile of a branch. -/
def updateStatus (branchId : ObjectId) (status : WasherStatus)
    (store : Store) : Store :=
  match store.profiles.lookup branchId with
  | none => store
  | some profile =>
    { store with
      profiles := store.profiles.insert branchId { profile with status } }

def setWasherStatus (uid : Uid) (washerStatus : Option WasherStatus)
    (store : Store) : Store :=
  { store with
    washerStatus := Function.update store.washerStatus uid washerStatus }

end Store

/-- `setStatus`, at the point where it waits. -/
inductive Call where
  | profile (branchId : ObjectId) (uid : Uid) (status : WasherStatus)
  | account (branchId : ObjectId) (uid : Uid) (status : WasherStatus)

/-- The arguments of `setStatus`. -/
structure SetStatus where
  branchId : ObjectId
  status : WasherStatus

/-- What `setStatus` reads, and when it refuses. -/
def requireOther (request : SetStatus) (store : Store) :
    Except ServiceError WasherProfile :=
  match store.profiles.lookup request.branchId with
  | none => .error (.notFound "Washer profile not found")
  | some profile =>
    if profile.status = request.status then
      .error (.badRequest ("Washer is already " ++
        match request.status with
        | .ACTIVE => "active"
        | .INACTIVE => "inactive"
        | .SUSPENDED => "suspended"))
    else
      .ok profile

def enter (request : SetStatus) (store : Store) : Option Call :=
  match requireOther request store with
  | .error _ => none
  | .ok profile =>
    some (.profile request.branchId profile.uid request.status)

def copyOf (status : WasherStatus) : Option WasherStatus :=
  if status = .SUSPENDED then some .SUSPENDED else none

def resume (_ : Unit) : Call → Store → Option (Store × Option Call)
  | .profile branchId uid status, store =>
    some (store.updateStatus branchId status, some (.account branchId uid status))
  | .account _ uid status, store =>
    some (store.setWasherStatus uid (copyOf status), none)

/-- `setStatus`, by any number of administrators. -/
def suspension : Service Store Call SetStatus Unit where
  enter := enter
  resume := resume

abbrev Calls : Type := Configuration Store Call

/-! ## Agreement -/

def Store.Agrees (branchId : ObjectId) (store : Store) : Prop :=
  ∀ profile, store.profiles.lookup branchId = some profile →
    (store.washerStatus profile.uid = some .SUSPENDED ↔ profile.status = .SUSPENDED)

/-- An account has one profile, as the unique index on `uid` demands. -/
def Store.Good (store : Store) : Prop :=
  ∀ branchId other profile profile',
    store.profiles.lookup branchId = some profile →
    store.profiles.lookup other = some profile' →
    profile.uid = profile'.uid → branchId = other

def Call.subject : Call → ObjectId × Uid
  | .profile branchId uid _ => (branchId, uid)
  | .account branchId uid _ => (branchId, uid)

def Sound (store : Store) (call : Call) : Prop :=
  ∃ profile, store.profiles.lookup call.subject.1 = some profile ∧ profile.uid = call.subject.2

def Call.mends (branchId : ObjectId) (suspended : Bool) : Call → Bool
  | .profile branchId' _ _ => branchId' == branchId
  | .account branchId' _ status =>
    branchId' == branchId && decide (status = .SUSPENDED) == suspended

def Store.suspended (branchId : ObjectId) (store : Store) : Bool :=
  (store.profiles.lookup branchId).any fun profile =>
    profile.status = .SUSPENDED

def awaited (branchId : ObjectId) (configuration : Calls) : Bool :=
  configuration.someCall (Call.mends branchId (configuration.store.suspended branchId))

/--
A write to the account says what the profile says at that time, unless another call
has yet to write the account.
-/
def upToDate (branchId : ObjectId) (configuration : Calls) :
    Move SetStatus Unit → Bool
  | .enter _ => true
  | .resume index _ =>
    match configuration.calls[index]? with
    | some (some (.account branchId' _ status)) =>
      branchId' != branchId ||
        decide (status = .SUSPENDED) == configuration.store.suspended branchId ||
        awaited branchId configuration
    | _ => true

section

variable {store : Store} {branchId other : ObjectId} {uid : Uid}
  {status : WasherStatus} {profile : WasherProfile}

def written (branchId other : ObjectId) (status : WasherStatus)
    (profile : WasherProfile) : WasherProfile :=
  if other = branchId then { profile with status } else profile

theorem written_of_ne (elsewhere : other ≠ branchId) : written branchId other status = id := by
  funext profile
  rw [written, if_neg elsewhere]
  rfl

theorem lookup_updateStatus :
    (store.updateStatus branchId status).profiles.lookup other =
      (store.profiles.lookup other).map (written branchId other status) := by
  rw [Store.updateStatus]
  split
  · rename_i absent
    by_cases same : other = branchId
    · subst same
      rw [absent]
      rfl
    · rw [written_of_ne same, Option.map_id]
      rfl
  · rename_i profile found
    by_cases same : other = branchId
    · subst same
      rw [found, AList.lookup_insert]
      simp [written]
    · rw [AList.lookup_insert_ne same, written_of_ne same, Option.map_id]
      rfl

@[simp]
theorem written_uid : (written branchId other status profile).uid = profile.uid := by
  rw [written]
  split <;> rfl

@[simp]
theorem washerStatus_updateStatus :
    (store.updateStatus branchId status).washerStatus =
      store.washerStatus := by
  rw [Store.updateStatus]
  split <;> rfl

theorem Store.Good.updateStatus (good : store.Good) :
    (store.updateStatus branchId status).Good := by
  intro first second profile₁ profile₂ found₁ found₂ same
  rw [lookup_updateStatus] at found₁ found₂
  rcases Option.map_eq_some_iff.mp found₁ with ⟨old₁, stored₁, rfl⟩
  rcases Option.map_eq_some_iff.mp found₂ with ⟨old₂, stored₂, rfl⟩
  rw [written_uid, written_uid] at same
  exact good _ _ _ _ stored₁ stored₂ same

theorem Sound.updateStatus {call : Call} (sound : Sound store call) :
    Sound (store.updateStatus branchId status) call := by
  rcases sound with ⟨profile, found, names⟩
  refine ⟨written branchId call.subject.1 status profile, ?_, ?_⟩
  · rw [lookup_updateStatus, found]
    rfl
  · rw [written_uid, names]

theorem suspended_updateStatus
    (found : store.profiles.lookup branchId = some profile) :
    (store.updateStatus branchId status).suspended branchId = decide (status = .SUSPENDED) := by
  rw [Store.suspended, lookup_updateStatus, found]
  simp [written]

theorem suspended_updateStatus_of_ne (elsewhere : other ≠ branchId) :
    (store.updateStatus branchId status).suspended other =
      store.suspended other := by
  rw [Store.suspended, lookup_updateStatus, written_of_ne elsewhere, Option.map_id]
  rfl

theorem agrees_iff (found : store.profiles.lookup branchId = some profile) :
    store.Agrees branchId ↔
      (store.washerStatus profile.uid = some .SUSPENDED ↔ store.suspended branchId = true) := by
  rw [Store.suspended, found, Option.any_some, decide_eq_true_eq]
  constructor
  · exact fun agrees => agrees profile found
  · intro agrees other found'
    cases found.symm.trans found'
    exact agrees

theorem lookup_of_requireOther {request : SetStatus}
    (checked : requireOther request store = .ok profile) :
    store.profiles.lookup request.branchId = some profile := by
  unfold requireOther at checked
  split at checked
  · cases checked
  · rename_i stored found
    split at checked
    · cases checked
    · cases checked
      exact found

theorem copyOf_eq_some : copyOf status = some .SUSPENDED ↔ status = .SUSPENDED := by
  rw [copyOf]
  split
  · rename_i suspended
    simp [suspended]
  · rename_i active
    simp [active]

end

section

variable {configuration after : Calls} {move : Move SetStatus Unit} {branchId : ObjectId}

theorem obligations :
    suspension.Obligations (fun _ => True) (fun _ _ => True) Store.Good
      Sound := by
  constructor
  · intro request store call _ enters
    have enters : enter request store = some call := enters
    unfold enter at enters
    split at enters
    · cases enters
    · rename_i profile checked
      cases enters
      exact ⟨profile, lookup_of_requireOther checked, rfl⟩
  · intro configuration index tick call store next _ _ _ good sound resumes
    cases call with
    | profile branchId uid status =>
      cases resumes
      refine ⟨good.updateStatus, ?_⟩
      rintro call' ⟨⟩
      exact Sound.updateStatus sound
    | account branchId uid status =>
      cases resumes
      exact ⟨good, fun _ absent => by cases absent⟩
  · intro configuration index tick call store next place other _ _ _ _ _ _ _ sound resumes
    cases call with
    | profile branchId uid status =>
      cases resumes
      exact sound.updateStatus
    | account branchId uid status =>
      cases resumes
      exact sound

def Settled (branchId : ObjectId) (configuration : Calls) : Prop :=
  awaited branchId configuration = true ∨ configuration.store.Agrees branchId

theorem Settled.profile {index : ℕ} {written : ObjectId} {uid : Uid}
    {status : WasherStatus} (settled : Settled branchId configuration)
    (waits : configuration.Waits index (.profile written uid status))
    (sound : Sound configuration.store (.profile written uid status)) :
    Settled branchId
      (configuration.resumed index (configuration.store.updateStatus written status)
        (some (.account written uid status))) := by
  rcases sound with ⟨profile, found, _⟩
  have found : configuration.store.profiles.lookup written = some profile := found
  by_cases same : branchId = written
  · subst same
    left
    apply someCall_next waits
    rw [Configuration.resumed, suspended_updateStatus found]
    simp [Call.mends]
  · have unmoved := @suspended_updateStatus_of_ne configuration.store written branchId status same
    rcases settled with waiting | agrees
    · left
      rw [awaited, Configuration.resumed]
      dsimp only
      rw [unmoved]
      apply someCall_resumed waits waiting
      intro mends
      exact absurd (eq_of_beq mends).symm same
    · right
      intro profile' found'
      have found' : (configuration.store.updateStatus written
          status).profiles.lookup branchId = some profile' := found'
      rw [lookup_updateStatus] at found'
      rcases Option.map_eq_some_iff.mp found' with ⟨old, stored, rfl⟩
      have kept := agrees old stored
      simpa [Configuration.resumed, Lalaba.Washers.written, same] using kept

/-- A write to an account is right, or not the last one. -/
theorem Settled.account {index : ℕ} {written : ObjectId} {uid : Uid}
    {status : WasherStatus} (settled : Settled branchId configuration)
    (good : configuration.store.Good)
    (waits : configuration.Waits index (.account written uid status))
    (sound : Sound configuration.store (.account written uid status))
    (allowed : upToDate branchId configuration (.resume index ()) = true) :
    Settled branchId
      (configuration.resumed index
        (configuration.store.setWasherStatus uid (copyOf status)) none) := by
  rcases sound with ⟨profile, found, names⟩
  have found : configuration.store.profiles.lookup written = some profile := found
  have names : profile.uid = uid := names
  -- A call that mends is another one, and goes on waiting.
  have goesOn (stale : written ≠ branchId ∨
      decide (status = .SUSPENDED) ≠ configuration.store.suspended branchId)
      (waiting : awaited branchId configuration = true) :
      awaited branchId (configuration.resumed index
        (configuration.store.setWasherStatus uid (copyOf status)) none) =
          true := by
    apply someCall_resumed waits waiting
    intro mends
    rcases Bool.and_eq_true_iff.mp mends with ⟨here, current⟩
    rcases stale with elsewhere | behind
    · exact (elsewhere (eq_of_beq here)).elim
    · exact (behind (eq_of_beq current)).elim
  by_cases same : written = branchId
  · subst same
    by_cases current : decide (status = .SUSPENDED) = configuration.store.suspended written
    · right
      apply (@agrees_iff (configuration.store.setWasherStatus uid
        (copyOf status)) written profile found).mpr
      have stamped : (configuration.store.setWasherStatus uid
          (copyOf status)).washerStatus profile.uid = copyOf status := by
        rw [names]
        exact Function.update_self _ _ _
      have shown : configuration.store.suspended written = true ↔ status = .SUSPENDED := by
        rw [← current, decide_eq_true_eq]
      rw [stamped, copyOf_eq_some]
      exact shown.symm
    · left
      apply goesOn (.inr current)
      rw [upToDate, waits] at allowed
      simpa [current] using allowed
  · rcases settled with waiting | agrees
    · exact .inl (goesOn (.inl same) waiting)
    · right
      intro profile' found'
      have found' : configuration.store.profiles.lookup branchId = some profile' := found'
      have apart : profile'.uid ≠ uid := by
        intro named
        exact same (good _ _ _ _ found found' (names.trans named.symm))
      have kept := agrees profile' found'
      have unmoved : (configuration.store.setWasherStatus uid
          (copyOf status)).washerStatus profile'.uid =
            configuration.store.washerStatus profile'.uid :=
        Function.update_of_ne apart _ _
      rw [← unmoved] at kept
      exact kept

abbrev Sited (configuration : Calls) : Prop := Service.Invariant Store.Good Sound configuration

theorem sited_of_reaches {store : Store} (good : store.Good)
    {admissible : Calls → Move SetStatus Unit → Prop}
    (reached : suspension.system.Reaches admissible (.start store) configuration) :
    Sited configuration := by
  apply reached.invariant Sited (Service.invariant_start good)
  intro _ _ _ sited _ stepped
  exact obligations.step trivial sited trivial stepped

theorem Settled.step (settled : Settled branchId configuration)
    (sited : Sited configuration)
    (allowed : upToDate branchId configuration move = true)
    (stepped : suspension.system.step move configuration = some after) :
    Settled branchId after := by
  cases Service.stepped_of_step stepped with
  | entered request call enters =>
    rcases settled with waiting | agrees
    · exact .inl (someCall_entered waiting)
    · exact .inr agrees
  | resumed index tick call store next waits resumes =>
    have sound := sited.sound index call waits
    cases call with
    | profile written uid status =>
      cases resumes
      exact settled.profile waits sound
    | account written uid status =>
      cases resumes
      exact settled.account sited.good waits sound allowed

/--
In a run in which the account of a washer is never left with a status that her
profile has no more, the two agree whenever no call is in progress.
-/
theorem suspensionAgrees {store : Store} (good : store.Good)
    (agrees : store.Agrees branchId)
    (reached : suspension.system.Reaches (fun configuration move =>
        upToDate branchId configuration move = true) (.start store) configuration)
    (quiet : configuration.Quiet) :
    configuration.store.Agrees branchId := by
  have settled : Settled branchId configuration := by
    apply reached.layered Sited (Settled branchId)
    · exact fun _ reached => sited_of_reaches good reached
    · exact .inr agrees
    · exact fun _ _ _ sited settled allowed stepped =>
        settled.step sited allowed stepped
  exact settled.resolve_left (not_someCall_of_quiet quiet)

end

/-! ## Sample runs -/

namespace Sample

def store : Store where
  profiles := AList.insert "branch" { uid := "washer", status := .ACTIVE } ∅
  washerStatus _ := none

theorem lookup_store {branchId : ObjectId} {profile : WasherProfile}
    (found : store.profiles.lookup branchId = some profile) :
    branchId = "branch" ∧ profile = { uid := "washer", status := .ACTIVE } := by
  by_cases same : branchId = "branch"
  · subst same
    cases found
    exact ⟨rfl, rfl⟩
  · rw [store, AList.lookup_insert_ne same, AList.lookup_empty] at found
    cases found

theorem good : store.Good := by
  intro branchId other profile profile' found found' _
  exact (lookup_store found).1.trans (lookup_store found').1.symm

theorem agrees : store.Agrees "branch" := by
  intro profile found
  cases (lookup_store found).2
  simp [store]

def sets (status : WasherStatus) : Move SetStatus Unit := .enter { branchId := "branch", status }

def goesOn (index : ℕ) : Move SetStatus Unit := .resume index ()

def opposed : List (Move SetStatus Unit) := [sets .SUSPENDED, goesOn 0, sets .ACTIVE, goesOn 1]

def seen (configuration : Calls) :
    Bool × Option WasherProfile × Option WasherStatus :=
  (configuration.someCall fun _ => true,
    configuration.store.profiles.lookup "branch",
    configuration.store.washerStatus "washer")

end Sample

/-- The account is reactivated after it was suspended. -/
theorem suspensionAgrees_reactivated :
    ∃ configuration : Calls, suspension.system.Reaches (fun configuration move =>
            upToDate "branch" configuration move = true)
          (.start Sample.store) configuration ∧
        configuration.Quiet ∧
        configuration.store.Agrees "branch" := by
  have performed : ((suspension.system.restrict (fun configuration move =>
            upToDate "branch" configuration move = true)).perform
        (Sample.opposed ++ [Sample.goesOn 0, Sample.goesOn 1])
        (.start Sample.store)).map Sample.seen =
          some (false, some { uid := "washer", status := .ACTIVE }, none) := by
    decide +kernel
  rcases System.reaches_of_map_restrict performed with ⟨configuration, reached, seen⟩
  have quiet := quiet_iff.mpr (Prod.mk.inj seen).1
  exact
    ⟨configuration, reached, quiet, suspensionAgrees Sample.good Sample.agrees reached quiet⟩

/-- The account is suspended last, and the washer is locked out. -/
theorem reactivatedWasherLockedOut :
    ¬ ∀ (store : Store) (branchId : ObjectId) (configuration : Calls),
      store.Good → store.Agrees branchId →
      suspension.system.Reaches (fun _ _ => True) (.start store) configuration →
      configuration.Quiet → configuration.store.Agrees branchId := by
  intro always
  have performed :
      (suspension.system.perform (Sample.opposed ++ [Sample.goesOn 1, Sample.goesOn 0])
        (.start Sample.store)).map Sample.seen =
          some (false, some { uid := "washer", status := .ACTIVE }, some .SUSPENDED) := by
    decide +kernel
  rcases System.reaches_of_map performed with ⟨configuration, ran, seen⟩
  rcases Prod.mk.inj seen with ⟨returned, facts⟩
  rcases Prod.mk.inj facts with ⟨profile, account⟩
  have agrees := always Sample.store "branch" configuration Sample.good
    Sample.agrees ran (quiet_iff.mpr returned)
  cases (agrees _ profile).mp account

end Lalaba.Washers
