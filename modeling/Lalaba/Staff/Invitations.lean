import Lalaba.Foundation.Attempt
import Lalaba.Staff.Update
import Lalaba.Users.Account

/-!
# Invitations

An owner invites staff, and an administrator invites back-office users.  Both create a
Firebase account and a user document and then send a mail, and both undo what they have
done when a step throws.  For staff only the account is deleted; for back-office users
both are, but what is returned without `await` throws when nobody catches it any more.
-/

namespace Lalaba.Staff.Invitations

open Foundation
open Users (Role)

/-! ## Data -/

/-- The roles that an owner may invite somebody into. -/
inductive InvitableStaffRole where
  | STAFF
  | COURIER
deriving DecidableEq

def InvitableStaffRole.roleId : InvitableStaffRole → String
  | .STAFF => "staff"
  | .COURIER => "courier"

structure CreateStaffInput where
  email : String
  firstName : String
  lastName : String
  phoneNumber : String
  branchAccess : Option (List BranchAccessInput)
  branchIds : Option (List ObjectId)
  role : Option InvitableStaffRole

structure CreateAdminUserInput where
  email : String
  firstName : String
  lastName : String
  phoneNumber : String
  role : String

structure FirebaseUser where
  email : String
  displayName : String
  disabled : Bool

/-- A user document, as an invitation writes it. -/
structure User extends DerivedGrantFields where
  email : String
  firstName : String
  lastName : String
  phoneNumber : String
  role : ObjectId
  merchantId : Option Uid
  isActive : Bool
  isArchived : Bool
deriving DecidableEq

inductive Mail where
  | staffInvite (email firstName resetLink : String)
  | passwordReset (email : String)

structure World where
  firebaseUsers : Collection FirebaseUser
  users : Collection User
  roles : Collection Role
  mails : List Mail

/-- The steps outside the program, the deletions apart. -/
inductive Step where
  | findRole
  | permissionIdsByName
  | findBranches
  | createUser
  | save
  | generatePasswordResetLink
  | sendStaffInvite
  | sendPasswordResetEmail
  | populate
  | withBranchAccessGroups
deriving DecidableEq

/-- What the outside answers during a call: which steps throw, and the new id. -/
structure Outside where
  throws : Step → Option ServiceError
  uid : Uid
  resetLink : String
  directory : Directory
  permissionNameById : ObjectId → Option String

def Outside.step {Value : Type} (outside : Outside) (step : Step)
    (computed : Except ServiceError Value) : Except ServiceError Value :=
  match outside.throws step with
  | some error => .error error
  | none => computed

/-- `findOne` of a role by its `roleId`. -/
def World.findRole (roleId : String) (world : World) : Option ObjectId :=
  (world.roles.entries.find? fun entry => entry.2.roleId == roleId).map Sigma.fst

def grantEntriesOf (outside : Outside) (input : CreateStaffInput) :
    Except ServiceError (List BranchAccessEntry) :=
  match input.branchAccess.filter (· ≠ []) with
  | some branchAccess =>
    outside.step .permissionIdsByName (.ok (entriesFromGroups outside.directory branchAccess))
  | none =>
    .ok ((input.branchIds.getD []).map fun branchId =>
      { branchId, permissionIds := [] })

def checkInviter (ownerRoleId : Option String)
    (requestedRole : InvitableStaffRole) : Except ServiceError Unit :=
  if ownerRoleId = some "washer" ∧ requestedRole ≠ .COURIER then
    .error (.badRequest "Home washers can only invite couriers, not staff.")
  else
    .ok ()

def checkCourier (requestedRole : InvitableStaffRole)
    (input : CreateStaffInput) : Except ServiceError Unit :=
  if requestedRole = .COURIER ∧ (input.branchAccess.getD []).any
      (fun entry => entry.groups ≠ []) then
    .error (.badRequest
      "Couriers cannot be granted permissions — their access is pickup and delivery only.")
  else
    .ok ()

def checkBranches (outside : Outside) (merchantId : Uid)
    (branchIds : List ObjectId) : Except ServiceError Unit :=
  if branchIds = [] then .ok ()
  else
    outside.step .findBranches (validateBranches outside.directory merchantId branchIds)

/-- `createStaff`, up to the creation of the account. -/
def prepareStaff (outside : Outside) (input : CreateStaffInput)
    (merchantId : Uid) (ownerRoleId : Option String) (world : World) :
    Except ServiceError (ObjectId × DerivedGrantFields) := do
  let requestedRole := input.role.getD .STAFF
  checkInviter ownerRoleId requestedRole
  let staffRole ← outside.step .findRole
    ((world.findRole requestedRole.roleId).elim
      (.error (.badRequest "Unable to create staff account. Please try again.")) .ok)
  checkCourier requestedRole input
  let entries ← grantEntriesOf outside input
  let grants := deriveGrantFields entries
  checkBranches outside merchantId grants.branchIds
  return (staffRole, grants)

/-- `createAdminUser`, up to the creation of the account. -/
def prepareAdminUser (outside : Outside) (input : CreateAdminUserInput)
    (world : World) : Except ServiceError ObjectId :=
  outside.step .findRole
    ((world.findRole input.role).elim
      (.error (.badRequest "Unable to create account. Please try again.")) .ok)

/-! ## Steps -/

/-- `createUser` of Firebase, which knows an email once. -/
def createFirebaseUser (outside : Outside)
    (email firstName lastName : String) : Attempt World ServiceError Uid :=
  .perform fun world =>
    match outside.throws .createUser with
    | some _ =>
      .error (.badRequest "Account creation failed. Please try again.")
    | none =>
      if world.firebaseUsers.entries.any
          fun entry => entry.2.email == email then
        .error (.conflict "A user with this email already exists")
      else
        .ok (outside.uid, { world with
            firebaseUsers := world.firebaseUsers.insert outside.uid
              { email
                displayName := firstName ++ " " ++ lastName
                disabled := false } })

/-- `save` of a new user document; emails are unique. -/
def save (outside : Outside) (uid : Uid) (user : User) :
    Attempt World ServiceError User :=
  .perform fun world =>
    outside.step .save
      (if world.users.entries.any fun entry => entry.2.email == user.email
        then .error (.duplicateKey "email_1")
        else .ok (user, { world with users := world.users.insert uid user }))

def send (outside : Outside) (step : Step) (mail : Mail) :
    Attempt World ServiceError Unit :=
  .perform fun world =>
    outside.step step (.ok ((), { world with mails := world.mails ++ [mail] }))

def populate (outside : Outside) (user : User) :
    Attempt World ServiceError (User × Option Role) :=
  .reads fun world =>
    outside.step .populate (.ok (user, world.roles.lookup user.role))

/-- `deleteUser` of Firebase. -/
def deleteFirebaseUser (uid : Uid) : Attempt World ServiceError Unit :=
  .change fun world =>
    { world with firebaseUsers := world.firebaseUsers.erase uid }

/-- `findByIdAndDelete` of a user document. -/
def deleteUser (uid : Uid) : Attempt World ServiceError Unit :=
  .change fun world => { world with users := world.users.erase uid }

def groupsFromNames (names : List String) : List PermissionGroup :=
  [.ORDERS, .INVENTORY, .SERVICES, .OTHERS].filter fun group =>
    (PERMISSION_GROUP_MEMBERS group).any fun name => name ∈ names

/-- A staff member as it is shown: the role, and the groups of every branch. -/
structure StaffView where
  user : User
  role : Option Role
  branchAccess : List BranchAccessInput

/-- `withBranchAccessGroups`; without branches nothing is looked up. -/
def withBranchAccessGroups (outside : Outside)
    (populated : User × Option Role) :
    Attempt World ServiceError StaffView :=
  .reads fun _ =>
    if populated.1.branchAccess = [] then
      .ok { user := populated.1, role := populated.2, branchAccess := [] }
    else
      outside.step .withBranchAccessGroups
        (.ok
          { user := populated.1
            role := populated.2
            branchAccess := populated.1.branchAccess.map fun entry =>
              { branchId := entry.branchId
                groups := groupsFromNames (entry.permissionIds.filterMap
                  outside.permissionNameById) } })

/--
`createStaff`.  The body of the `try` returns a promise; what that throws is thrown
after the `try`.
-/
def createStaff (outside : Outside) (input : CreateStaffInput)
    (merchantId : Uid) (ownerRoleId : Option String) :
    Attempt World ServiceError StaffView := do
  let (staffRole, grants) ← .reads (prepareStaff outside input merchantId ownerRoleId)
  let uid ← createFirebaseUser outside input.email input.firstName input.lastName
  let promise ← .recover (do
      let saved ← save outside uid
        { toDerivedGrantFields := grants
          email := input.email
          firstName := input.firstName
          lastName := input.lastName
          phoneNumber := input.phoneNumber
          role := staffRole
          merchantId := some merchantId
          isActive := true
          isArchived := false }
      let resetLink ← .reads fun _ =>
        outside.step .generatePasswordResetLink (.ok outside.resetLink)
      send outside .sendStaffInvite (.staffInvite input.email input.firstName resetLink)
      let populated ← populate outside saved
      return withBranchAccessGroups outside populated)
    (fun error => do
      deleteFirebaseUser uid
      .raise error)
  promise

/-- `createAdminUser`, with `rollbackAdminUser`. -/
def createAdminUser (outside : Outside) (input : CreateAdminUserInput) :
    Attempt World ServiceError (User × Option Role) := do
  let role ← .reads (prepareAdminUser outside input)
  let uid ← createFirebaseUser outside input.email input.firstName input.lastName
  let promise ← .recover (do
      let saved ← save outside uid
        { branchAccess := []
          branchIds := []
          permissionIds := []
          email := input.email
          firstName := input.firstName
          lastName := input.lastName
          phoneNumber := input.phoneNumber
          role
          merchantId := none
          isActive := true
          isArchived := false }
      send outside .sendPasswordResetEmail (.passwordReset input.email)
      return populate outside saved)
    (fun error => do
      deleteUser uid
      deleteFirebaseUser uid
      .raise error)
  promise

/-! ## What remains -/

def LeavesNothing {Value : Type}
    (program : Attempt World ServiceError Value) (world : World) : Prop :=
  program.Does world (fun _ _ => True) fun _ after =>
    after.firebaseUsers = world.firebaseUsers ∧ after.users = world.users

def Outside.Fresh (outside : Outside) (world : World) : Prop :=
  outside.uid ∉ world.firebaseUsers ∧ outside.uid ∉ world.users

def creates (outside : Outside) (email : String) (world : World) : Bool :=
  (outside.throws .createUser).isNone &&
    !world.firebaseUsers.entries.any fun entry => entry.2.email == email

def saves (outside : Outside) (email : String) (world : World) : Bool :=
  (outside.throws .save).isNone && !world.users.entries.any fun entry => entry.2.email == email

def CreateStaffInput.namesBranches (input : CreateStaffInput) : Bool :=
  !(input.branchAccess.getD []).isEmpty || !(input.branchIds.getD []).isEmpty

/-- `createStaff` gets as far as a saved user. -/
def savesStaff (outside : Outside) (input : CreateStaffInput)
    (merchantId : Uid) (ownerRoleId : Option String) (world : World) : Bool :=
  (prepareStaff outside input merchantId ownerRoleId world).isOk &&
    creates outside input.email world && saves outside input.email world

def throwsAfterSaving (outside : Outside) (input : CreateStaffInput) : Bool :=
  (outside.throws .generatePasswordResetLink).isSome ||
    (outside.throws .sendStaffInvite).isSome ||
    (outside.throws .populate).isSome ||
    input.namesBranches && (outside.throws .withBranchAccessGroups).isSome

/-- `createAdminUser` gets as far as a sent mail. -/
def invitesAdminUser (outside : Outside) (input : CreateAdminUserInput)
    (world : World) : Bool :=
  (prepareAdminUser outside input world).isOk &&
    creates outside input.email world && saves outside input.email world &&
    (outside.throws .sendPasswordResetEmail).isNone

section

variable {outside : Outside} {world : World} {clean : World → Prop} {step : Step}

theorem does_step {Value : Type} {compute : World → Value}
    {returns : Value → World → Prop} :
    (Attempt.reads fun world =>
          outside.step step (.ok (compute world))).Does world returns
        (fun _ => clean) ↔
      if (outside.throws step).isSome then clean world
      else returns (compute world) world := by
  rw [Attempt.does_reads, Outside.step]
  cases outside.throws step <;> simp

theorem does_createFirebaseUser {email firstName lastName : String}
    {returns : Uid → World → Prop} :
    (createFirebaseUser outside email firstName lastName).Does world returns
        (fun _ => clean) ↔
      if creates outside email world then
        returns outside.uid { world with
            firebaseUsers := world.firebaseUsers.insert outside.uid
              { email
                displayName := firstName ++ " " ++ lastName
                disabled := false } }
      else
        clean world := by
  rw [createFirebaseUser, Attempt.does_perform, creates]
  cases outside.throws .createUser with
  | some error => simp
  | none =>
    cases world.firebaseUsers.entries.any fun entry =>
      entry.2.email == email <;> simp

theorem does_save {uid : Uid} {user : User}
    {returns : User → World → Prop} :
    (save outside uid user).Does world returns (fun _ => clean) ↔
      if saves outside user.email world then
        returns user { world with users := world.users.insert uid user }
      else
        clean world := by
  rw [save, Attempt.does_perform, saves, Outside.step]
  cases outside.throws .save with
  | some error => simp
  | none =>
    cases world.users.entries.any fun entry =>
      entry.2.email == user.email <;> simp

theorem does_send {mail : Mail} {returns : Unit → World → Prop} :
    (send outside step mail).Does world returns (fun _ => clean) ↔
      if (outside.throws step).isSome then clean world
      else returns () { world with mails := world.mails ++ [mail] } := by
  rw [send, Attempt.does_perform, Outside.step]
  cases outside.throws step with
  | some error => simp
  | none =>
    simp only [Except.ok.injEq, Prod.mk.injEq, reduceCtorEq, false_implies, implies_true, and_true]
    constructor
    · exact fun returned => returned () _ ⟨trivial, rfl⟩
    · rintro returned _ _ ⟨_, rfl⟩
      exact returned

variable {Row : Type} {id : String} {input : CreateStaffInput}

variable {collection : Collection Row}

theorem erase_insert {row : Row} (fresh : id ∉ collection) :
    (collection.insert id row).erase id = collection := by
  apply AList.ext
  change List.kerase id (collection.insert id row).entries = _
  rw [AList.entries_insert_of_notMem fresh]
  exact List.kerase_cons_eq rfl

theorem erase_of_fresh (fresh : id ∉ collection) :
    collection.erase id = collection :=
  AList.ext (List.kerase_of_notMem_keys fresh)

theorem insert_ne {row : Row} (fresh : id ∉ collection) :
    collection.insert id row ≠ collection := by
  intro same
  rw [← same] at fresh
  exact fresh ((AList.mem_insert _).mpr (.inl rfl))

theorem does_prepared {Value Next : Type}
    {compute : World → Except ServiceError Value}
    {next : Value → Attempt World ServiceError Next} :
    (do
        let prepared ← Attempt.reads compute
        next prepared : Attempt World ServiceError Next).Does world
          (fun _ _ => True) (fun _ => clean) ↔
      match compute world with
      | .ok prepared =>
        (next prepared).Does world (fun _ _ => True) (fun _ => clean)
      | .error _ => clean world := by
  rw [Attempt.does_bind, Attempt.does_reads]
  cases compute world <;> simp

@[simp]
theorem saves_firebaseUsers {email : String}
    {firebaseUsers : Collection FirebaseUser} :
    saves outside email { world with firebaseUsers } =
      saves outside email world :=
  rfl

theorem does_populate {user : User}
    {returns : User × Option Role → World → Prop} :
    (populate outside user).Does world returns (fun _ => clean) ↔
      if (outside.throws .populate).isSome then clean world
      else returns (user, world.roles.lookup user.role) world :=
  does_step

theorem does_withBranchAccessGroups {populated : User × Option Role} :
    (withBranchAccessGroups outside populated).Does world (fun _ _ => True)
        (fun _ => clean) ↔
      (populated.1.branchAccess ≠ [] →
        (outside.throws .withBranchAccessGroups).isSome = true → clean world) := by
  rw [withBranchAccessGroups, Attempt.does_reads]
  by_cases without : populated.1.branchAccess = []
  · simp [without]
  · simp only [if_neg without, Outside.step]
    cases outside.throws .withBranchAccessGroups <;> simp [without]

theorem mergeEntry_ne_nil {byBranch : List BranchAccessEntry}
    {entry : BranchAccessEntry} : mergeEntry byBranch entry ≠ [] := by
  rw [mergeEntry]
  split
  · rename_i held
    intro empty
    rw [List.map_eq_nil_iff.mp empty] at held
    cases held
  · simp

theorem branchAccess_deriveGrantFields {entries : List BranchAccessEntry} :
    (deriveGrantFields entries).branchAccess = [] ↔ entries = [] := by
  rw [deriveGrantFields]
  cases entries using List.reverseRecOn with
  | nil => simp
  | append_singleton earlier entry =>
    simp [List.foldl_append, mergeEntry_ne_nil]

theorem grantEntriesOf_ne_nil {entries : List BranchAccessEntry}
    (granted : grantEntriesOf outside input = .ok entries) :
    entries ≠ [] ↔ input.namesBranches = true := by
  rw [grantEntriesOf] at granted
  split at granted
  · rename_i branchAccess given
    rw [Outside.step] at granted
    split at granted
    · cases granted
    · cases granted
      rcases Option.filter_eq_some_iff.mp given with ⟨sent, nonempty⟩
      have nonempty : branchAccess ≠ [] := of_decide_eq_true nonempty
      rw [CreateStaffInput.namesBranches, sent]
      simp [entriesFromGroups, nonempty]
  · rename_i absent
    cases granted
    have none : input.branchAccess.getD [] = [] := by
      cases sent : input.branchAccess with
      | none => rfl
      | some branchAccess =>
        rw [sent] at absent
        by_contra nonempty
        have nonempty : branchAccess ≠ [] := nonempty
        rw [Option.filter_some, if_pos (decide_eq_true nonempty)] at absent
        cases absent
    rw [CreateStaffInput.namesBranches, none]
    simp

theorem branchAccess_of_prepareStaff {merchantId : Uid}
    {ownerRoleId : Option String} {staffRole : ObjectId}
    {grants : DerivedGrantFields}
    (prepared : prepareStaff outside input merchantId ownerRoleId world = .ok (staffRole, grants)) :
    grants.branchAccess ≠ [] ↔ input.namesBranches = true := by
  have yields : Yields
      (prepareStaff outside input merchantId ownerRoleId world)
      fun both => both.2.branchAccess ≠ [] ↔ input.namesBranches = true := by
    refine .bind fun _ _ => .bind fun _ _ => .bind fun _ _ =>
      .bind fun entries granted => .bind fun _ _ => .pure ?_
    rw [ne_eq, branchAccess_deriveGrantFields]
    exact grantEntriesOf_ne_nil granted
  exact yields _ prepared

theorem leavesNothing_createStaff (fresh : outside.Fresh world)
    {merchantId : Uid} {ownerRoleId : Option String} :
    LeavesNothing (createStaff outside input merchantId ownerRoleId) world ↔
      (savesStaff outside input merchantId ownerRoleId world = true →
        throwsAfterSaving outside input = false) := by
  rw [LeavesNothing, createStaff, does_prepared, savesStaff]
  cases prepared : prepareStaff outside input merchantId ownerRoleId world with
  | error error => simp [Except.isOk, Except.toBool]
  | ok both =>
    rcases both with ⟨staffRole, grants⟩
    dsimp only
    simp only [Attempt.does_bind, does_createFirebaseUser,
      Attempt.does_recover, does_save, does_send, deleteFirebaseUser,
      Attempt.does_change, Attempt.does_raise, Attempt.does_pure,
      does_populate, does_withBranchAccessGroups]
    rw [@does_step outside _ _ _ _ fun _ => outside.resetLink]
    simp only [erase_insert fresh.1, insert_ne fresh.1, insert_ne fresh.2]
    rw [branchAccess_of_prepareStaff prepared, saves_firebaseUsers, throwsAfterSaving]
    -- What is left is a case analysis on which of the steps throws.
    cases creates outside input.email world <;>
    cases saves outside input.email world <;>
    cases (outside.throws .generatePasswordResetLink).isSome <;>
    cases (outside.throws .sendStaffInvite).isSome <;>
    cases (outside.throws .populate).isSome <;>
    simp [Except.isOk, Except.toBool]

theorem leavesNothing_createAdminUser (fresh : outside.Fresh world)
    {input : CreateAdminUserInput} :
    LeavesNothing (createAdminUser outside input) world ↔
      (invitesAdminUser outside input world = true →
        (outside.throws .populate).isSome = false) := by
  rw [LeavesNothing, createAdminUser, does_prepared, invitesAdminUser]
  cases prepareAdminUser outside input world with
  | error error => simp [Except.isOk, Except.toBool]
  | ok role =>
    dsimp only
    simp only [Attempt.does_bind, does_createFirebaseUser,
      Attempt.does_recover, does_save, does_send, deleteFirebaseUser,
      deleteUser, Attempt.does_change, Attempt.does_raise,
      Attempt.does_pure, does_populate, erase_of_fresh fresh.2,
      erase_insert fresh.1, erase_insert fresh.2, insert_ne fresh.1]
    rw [saves_firebaseUsers]
    cases creates outside input.email world <;>
    cases saves outside input.email world <;>
    cases outside.throws .sendPasswordResetEmail <;>
    simp [Except.isOk, Except.toBool]

/--
A failed invitation leaves nothing behind exactly when: for staff, no step throws once
the user is saved; for back-office users, the last step does not throw once the mail is
sent.
-/
theorem failedInvitationLeavesNothing_iff (fresh : outside.Fresh world) :
    (∀ input merchantId ownerRoleId,
      LeavesNothing (createStaff outside input merchantId ownerRoleId) world ↔
        (savesStaff outside input merchantId ownerRoleId world = true →
          throwsAfterSaving outside input = false)) ∧
    ∀ input,
      LeavesNothing (createAdminUser outside input) world ↔
        (invitesAdminUser outside input world = true → (outside.throws .populate).isSome = false) :=
  ⟨fun _ _ _ => leavesNothing_createStaff fresh,
    fun _ => leavesNothing_createAdminUser fresh⟩

end

namespace Sample

def world : World where
  firebaseUsers := ∅
  users := ∅
  roles := AList.insert "staffRole" { roleId := "staff" }
    (AList.insert "adminRole" { roleId := "admin" } ∅)
  mails := []

def outside (step : Step) : Outside where
  throws other :=
    if other = step then some (.plain "unavailable") else none
  uid := "invited"
  resetLink := "https://reset"
  directory :=
    { permissionIdsByName := fun _ => none
      ownsActiveBranch := fun _ _ => true }
  permissionNameById _ := none

def staff : CreateStaffInput where
  email := "ana@example.com"
  firstName := "Ana"
  lastName := "Cruz"
  phoneNumber := "09170000000"
  branchAccess := none
  branchIds := none
  role := none

def admin : CreateAdminUserInput where
  email := "ana@example.com"
  firstName := "Ana"
  lastName := "Cruz"
  phoneNumber := "09170000000"
  role := "admin"

end Sample

/-- An invitation whose user is not saved leaves nothing. -/
theorem failedInvitationLeavesNothing_unsaved :
    (Sample.outside .save).Fresh Sample.world ∧
      LeavesNothing
        (createStaff (Sample.outside .save) Sample.staff "owner" none)
        Sample.world ∧
      LeavesNothing (createAdminUser (Sample.outside .save) Sample.admin)
        Sample.world := by
  have fresh : (Sample.outside .save).Fresh Sample.world :=
    ⟨AList.notMem_empty _, AList.notMem_empty _⟩
  have exactly := failedInvitationLeavesNothing_iff fresh
  refine ⟨fresh, (exactly.1 _ _ _).mpr ?_, (exactly.2 _).mpr ?_⟩
  · decide +kernel
  · decide +kernel

/-- When no reset link is made, the saved user stays without an account. -/
theorem strandedStaffMember :
    ¬ ∀ (outside : Outside) (world : World), outside.Fresh world →
        ∀ input merchantId ownerRoleId,
          LeavesNothing (createStaff outside input merchantId ownerRoleId) world := by
  intro always
  have fresh : (Sample.outside .generatePasswordResetLink).Fresh
      Sample.world := ⟨AList.notMem_empty _, AList.notMem_empty _⟩
  have nothing := always _ _ fresh Sample.staff "owner" none
  have stranded :
      (match createStaff (Sample.outside .generatePasswordResetLink)
          Sample.staff "owner" none Sample.world with
        | (.ok _, _) => false
        | (.error _, after) => after.users.keys == ["invited"]) = true := by
    decide +kernel
  rw [LeavesNothing, Attempt.Does] at nothing
  generalize createStaff (Sample.outside .generatePasswordResetLink)
    Sample.staff "owner" none Sample.world = outcome at nothing stranded
  rcases outcome with ⟨error | value, after⟩
  · dsimp only at nothing stranded
    rw [nothing.2] at stranded
    cases stranded
  · cases stranded

end Lalaba.Staff.Invitations
