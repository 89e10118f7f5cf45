import Lalaba.Foundation.Interleaving
import Lalaba.Foundation.Rows
import Lalaba.Users.Account

/-!
# Deactivated accounts

An administrator deactivates accounts, and may do so to another administrator as long
as the active ones are more than one.  They are counted first and the account is
written later, so the count may be out of date by then.  As long as the guard would
still pass at the write, an active administrator remains.
-/

namespace Lalaba.Users

open Foundation
open Foundation.Configuration

namespace Activation

/-- An account as it is stored: with a reference to its role. -/
structure Account where
  role : Option ObjectId
  isActive : Bool
deriving DecidableEq

structure Store where
  users : Collection Account
  roles : Collection Role

namespace Store

/-- `populate('role')` on an account. -/
def populate (account : Account) (store : Store) : Option Role :=
  account.role.bind store.roles.lookup

def isAdmin (account : Account) (store : Store) : Bool :=
  (store.populate account).any fun role => role.roleId == "admin"

/-- `countDocuments` of the active accounts with a role. -/
def activeWith (role : Option ObjectId) (store : Store) : ℕ :=
  countRows (fun account => account.role == role && account.isActive) store.users

/-- `findByIdAndUpdate`. -/
def setActive (uid : Uid) (isActive : Bool) (store : Store) : Store :=
  match store.users.lookup uid with
  | none => store
  | some account =>
    { store with
      users := store.users.insert uid { account with isActive } }

end Store

/-! ## Calls -/

/-- A call, at the point where it waits. -/
inductive Call where
  /-- `deactivateUser` of an administrator, about to count the active ones. -/
  | count (uid : Uid) (role : Option ObjectId)
  | deactivate (uid : Uid)
  /-- `reactivateUser`, about to reactivate the account. -/
  | reactivate (uid : Uid)

inductive Request where
  | deactivateUser (uid : Uid) (actorUid : Option Uid)
  | reactivateUser (uid : Uid)

/-- An account that `deactivateUser` goes on with. -/
def deactivatable (uid : Uid) (actorUid : Option Uid) (store : Store) :
    Except ServiceError Account :=
  match store.users.lookup uid with
  | none => .error (.notFound "User not found")
  | some account =>
    if account.isActive = false then
      .error (.badRequest "User is already deactivated")
    else if actorUid = some uid ∧ uid ≠ "" then
      .error (.badRequest ("You cannot deactivate your own account. " ++
        "Ask another admin to do it."))
    else
      .ok account

def assertNotLastAdmin (activeAdmins : ℕ) : Except ServiceError Unit :=
  if activeAdmins ≤ 1 then
    .error (.badRequest ("This is the last active admin. Promote another " ++
      "admin before deactivating this one."))
  else
    .ok ()

/-- An account that `reactivateUser` goes on with. -/
def reactivatable (uid : Uid) (store : Store) :
    Except ServiceError Account :=
  match store.users.lookup uid with
  | none => .error (.notFound "User not found")
  | some account =>
    if account.isActive then
      .error (.badRequest "User is already active")
    else
      .ok account

/-- What a call does first. -/
def enter : Request → Store → Option Call
  | .deactivateUser uid actorUid, store =>
    match deactivatable uid actorUid store with
    | .error _ => none
    | .ok account =>
      some
        (if store.isAdmin account then .count uid account.role
        else .deactivate uid)
  | .reactivateUser uid, store =>
    match reactivatable uid store with
    | .error _ => none
    | .ok _ => some (.reactivate uid)

def resume (_ : Unit) : Call → Store → Option (Store × Option Call)
  | .count uid role, store =>
    match assertNotLastAdmin (store.activeWith role) with
    | .error _ => some (store, none)
    | .ok () => some (store, some (.deactivate uid))
  | .deactivate uid, store => some (store.setActive uid false, none)
  | .reactivate uid, store => some (store.setActive uid true, none)

def activation : Service Store Call Request Unit where
  enter := enter
  resume := resume

abbrev Calls : Type := Configuration Store Call

/-! ## Somebody administers -/

def Store.Administered (store : Store) : Prop :=
  ∃ uid account, store.users.lookup uid = some account ∧
    account.isActive = true ∧ store.isAdmin account = true

/--
When the account of an active administrator is deactivated, the guard on the last one
passes at that time too.
-/
def stillGuarded (configuration : Calls) : Move Request Unit → Bool
  | .enter _ => true
  | .resume index _ =>
    match configuration.calls[index]? with
    | some (some (.deactivate uid)) =>
      (configuration.store.users.lookup uid).all fun account =>
        !(account.isActive && configuration.store.isAdmin account) ||
          (assertNotLastAdmin (configuration.store.activeWith account.role)).toBool
    | _ => true

section

variable {store : Store} {uid other : Uid} {account : Account} {isActive : Bool}

theorem lookup_setActive_of_ne (elsewhere : other ≠ uid) :
    (store.setActive uid isActive).users.lookup other =
      store.users.lookup other := by
  rw [Store.setActive]
  split
  · rfl
  · exact AList.lookup_insert_ne elsewhere

theorem lookup_setActive (found : store.users.lookup uid = some account) :
    (store.setActive uid isActive).users.lookup uid = some { account with isActive } := by
  rw [Store.setActive, found]
  exact AList.lookup_insert _

@[simp]
theorem isAdmin_setActive :
    (store.setActive uid isActive).isAdmin account =
      store.isAdmin account := by
  have roles : (store.setActive uid isActive).roles = store.roles := by
    rw [Store.setActive]
    split <;> rfl
  rw [Store.isAdmin, Store.isAdmin, Store.populate, Store.populate, roles]

theorem isAdmin_congr {account' : Account}
    (same : account'.role = account.role) :
    store.isAdmin account' = store.isAdmin account := by
  rw [Store.isAdmin, Store.isAdmin, Store.populate, Store.populate, same]

theorem another_active (several : 1 < store.activeWith account.role)
    (uid : Uid) :
    ∃ other account', other ≠ uid ∧
      store.users.lookup other = some account' ∧
      account'.role = account.role ∧ account'.isActive = true := by
  rw [Store.activeWith, countRows_eq uid] at several
  have others : 0 < countOthers uid
      (fun row => row.role == account.role && row.isActive)
      store.users := by
    split at several <;> omega
  rcases List.countP_pos_iff.mp others with ⟨entry, member, counted⟩
  rcases Bool.and_eq_true_iff.mp counted with ⟨elsewhere, active⟩
  rcases Bool.and_eq_true_iff.mp active with ⟨role, active⟩
  exact
    ⟨entry.1, entry.2, bne_iff_ne.mp elsewhere,
      AList.mem_lookup_iff.mpr member, eq_of_beq role, active⟩

theorem Store.Administered.spares
    (found : store.users.lookup other = some account)
    (active : account.isActive = true)
    (admin : store.isAdmin account = true) (elsewhere : other ≠ uid) :
    (store.setActive uid isActive).Administered :=
  ⟨other, account, (lookup_setActive_of_ne elsewhere).trans found, active,
    isAdmin_setActive.trans admin⟩

theorem Store.Administered.reactivate (administered : store.Administered)
    (uid : Uid) : (store.setActive uid true).Administered := by
  rcases administered with ⟨admin, account, found, active, isAdmin⟩
  by_cases same : admin = uid
  · subst same
    refine ⟨admin, { account with isActive := true }, lookup_setActive found, rfl, ?_⟩
    rw [isAdmin_setActive]
    exact isAdmin
  · exact .spares found active isAdmin same

theorem Store.Administered.deactivate (administered : store.Administered)
    (guarded : ∀ account, store.users.lookup uid = some account →
      account.isActive = true → store.isAdmin account = true → 1 < store.activeWith account.role) :
    (store.setActive uid false).Administered := by
  rcases administered with ⟨admin, account, found, active, isAdmin⟩
  by_cases same : admin = uid
  · subst same
    have several := guarded account found active isAdmin
    rcases another_active several admin with ⟨other, account', elsewhere, found', role, active'⟩
    exact .spares found' active' ((isAdmin_congr role).trans isAdmin) elsewhere
  · exact .spares found active isAdmin same

end

section

variable {configuration after : Calls} {move : Move Request Unit}

theorem several_of_stillGuarded {index : ℕ} {uid : Uid} {account : Account}
    (allowed : stillGuarded configuration (.resume index ()) = true)
    (waits : configuration.Waits index (.deactivate uid))
    (found : configuration.store.users.lookup uid = some account)
    (active : account.isActive = true)
    (admin : configuration.store.isAdmin account = true) :
    1 < configuration.store.activeWith account.role := by
  rw [stillGuarded, waits] at allowed
  dsimp only at allowed
  rw [found, Option.all_some, active, admin, assertNotLastAdmin] at allowed
  by_contra few
  rw [if_pos (Nat.not_lt.mp few)] at allowed
  cases allowed

theorem administered_step
    (administered : configuration.store.Administered)
    (allowed : stillGuarded configuration move = true)
    (stepped : activation.system.step move configuration = some after) :
    after.store.Administered := by
  cases Service.stepped_of_step stepped with
  | entered request call enters => exact administered
  | resumed index tick call store next waits resumes =>
    cases call with
    | count uid role =>
      have resumes : resume tick (.count uid role)
        configuration.store = some (store, next) := resumes
      unfold resume at resumes
      dsimp only at resumes
      split at resumes
      · cases resumes
        exact administered
      · cases resumes
        exact administered
    | deactivate uid =>
      cases resumes
      exact administered.deactivate fun _ found active admin =>
        several_of_stillGuarded allowed waits found active admin
    | reactivate uid =>
      cases resumes
      exact administered.reactivate uid

/--
In a run in which the guard on the last administrator would pass at the writes too,
there is an active administrator in every state reached.
-/
theorem somebodyAdministers {store : Store}
    (administered : store.Administered)
    (reached : activation.system.Reaches
      (fun configuration move => stillGuarded configuration move = true)
      (.start store) configuration) :
    configuration.store.Administered := by
  refine reached.invariant (fun configuration => configuration.store.Administered) ?_ ?_
  · exact administered
  · exact fun _ _ _ administered allowed stepped =>
      administered_step administered allowed stepped

end

namespace Sample

def store : Store where
  users :=
    AList.insert "first" { role := some "role", isActive := true }
      (AList.insert "second" { role := some "role", isActive := true } ∅)
  roles := AList.insert "role" { roleId := "admin" } ∅

theorem administered : store.Administered :=
  ⟨"first", { role := some "role", isActive := true }, rfl, rfl, rfl⟩

def deactivates (uid actorUid : Uid) : Move Request Unit :=
  .enter (.deactivateUser uid (some actorUid))

def goesOn (index : ℕ) : Move Request Unit := .resume index ()

def left (configuration : Calls) : Bool :=
  configuration.store.users.entries.any fun entry =>
    entry.2.isActive && configuration.store.isAdmin entry.2

theorem left_of_administered {configuration : Calls}
    (administered : configuration.store.Administered) :
    left configuration = true := by
  rcases administered with ⟨uid, account, found, active, admin⟩
  rw [left, List.any_eq_true]
  exact ⟨⟨uid, account⟩, AList.mem_lookup_iff.mp found, by
      rw [Bool.and_eq_true]
      exact ⟨active, admin⟩⟩

end Sample

/-- One of two is deactivated, and the other cannot be any more. -/
theorem somebodyAdministers_one :
    ∃ configuration : Calls,
      activation.system.Reaches
          (fun configuration move => stillGuarded configuration move = true)
          (.start Sample.store) configuration ∧
        configuration.store.activeWith (some "role") = 1 ∧
        configuration.store.Administered := by
  have performed : ((activation.system.restrict (fun configuration move =>
            stillGuarded configuration move = true)).perform
        [Sample.deactivates "second" "first", Sample.goesOn 0,
          Sample.goesOn 0, Sample.deactivates "first" "second",
          Sample.goesOn 1]
        (.start Sample.store)).map (fun configuration =>
          configuration.store.activeWith (some "role")) = some 1 := by
    decide +kernel
  rcases System.reaches_of_map_restrict performed with ⟨configuration, reached, remaining⟩
  exact ⟨configuration, reached, remaining, somebodyAdministers Sample.administered reached⟩

/-- Two administrators deactivate each other. -/
theorem nobodyAdministers :
    ¬ ∀ (store : Store) (configuration : Calls), store.Administered →
      activation.system.Reaches (fun _ _ => True) (.start store) configuration →
      configuration.store.Administered := by
  intro always
  have performed :
      (activation.system.perform
        [Sample.deactivates "second" "first",
          Sample.deactivates "first" "second", Sample.goesOn 0,
          Sample.goesOn 1, Sample.goesOn 0, Sample.goesOn 1]
        (.start Sample.store)).map Sample.left = some false := by
    decide +kernel
  rcases System.reaches_of_map performed with ⟨configuration, ran, gone⟩
  have administered := always Sample.store configuration Sample.administered ran
  rw [Sample.left_of_administered administered] at gone
  cases gone

end Activation

end Lalaba.Users
