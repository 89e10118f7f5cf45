import Lalaba.Staff.Grants

/-!
# Whether an account holds a permission

The guard answers it for a handler, the feed for the notifications it lists, and the
fan-out for those it pushes.  The guard knows grants of staff only, and those of an
account from before the branch grants by its flat mirror; the feed knows the flat mirror
of everyone but staff.
-/

namespace Lalaba.Permissions

open Staff

structure Permission where
  _id : ObjectId
  permissionName : String

/-- The fields of an account that decide what it may do, its role populated. -/
structure Account where
  roleId : Option String
  branchAccess : Option (List BranchAccessEntry)
  branchIds : Option (List ObjectId)
  permissionIds : Option (List ObjectId)

/-- The accounts and the owners of the branches, by their ids. -/
structure Store where
  permissions : List Permission
  branches : Collection Uid
  accounts : Collection Account

def OWNER_DEFAULT_PERMISSION_NAMES : List String :=
  ["order_create", "order_apply_discount", "order_cancel",
    "order_confirm_pickup", "order_update_status", "service_create",
    "service_edit", "service_archive", "report_view", "report_export",
    "log_view", "costing_read", "costing_create", "costing_update",
    "inventory_create", "inventory_edit", "inventory_archive",
    "product_create", "product_update", "product_archive"]

def DENIED : String := "You do not have permission to perform this action."

/-- `grantsForBranch`, of what an account has. -/
def Account.grantsOn (user : Account) (branchId : Option ObjectId) :
    List ObjectId :=
  grantsForBranch (user.branchAccess.getD []) (branchId.getD "")

/-- `holdsOnBranch`: one of the required permissions is granted there. -/
def holdsOnBranch (permissions : List Permission) (user : Account)
    (branchId : Option ObjectId) (required : List String) : Bool :=
  permissions.any fun row =>
    row.permissionName ∈ required ∧ row._id ∈ user.grantsOn branchId

/-- `predatesBranchAccess`: the document has no such field. -/
def predatesBranchAccess (user : Account) : Bool := user.branchAccess.isNone

def canActivate (permissions : List Permission)
    (requiredPermissions : List String) (user : Account)
    (activeBranchId : Option ObjectId) : Except ServiceError Unit :=
  if requiredPermissions = [] then .ok ()
  else if user.roleId = some "merchant" ∧
      requiredPermissions.all (· ∈ OWNER_DEFAULT_PERMISSION_NAMES) then
    .ok ()
  else if user.roleId = some "staff" then
    if predatesBranchAccess user then
      if permissions.any fun row =>
          row._id ∈ user.permissionIds.getD [] ∧ row.permissionName ∈ requiredPermissions then
        .ok ()
      else .error (.forbidden DENIED)
    else if activeBranchId.getD "" = "" then
      .error (.forbidden ("Your device is not assigned to a branch. " ++
        "Ask your manager to approve it again."))
    else if holdsOnBranch permissions user activeBranchId
        requiredPermissions then
      .ok ()
    else .error (.forbidden DENIED)
  else .error (.forbidden DENIED)

/-- `resolveGrantedPermissionNames`: the floor of the role, and the grants. -/
def resolveGrantedPermissionNames (roleId : Option String)
    (grants : List ObjectId) (permissions : List Permission) :
    List String :=
  addAll
    (if roleId = some "merchant" then OWNER_DEFAULT_PERMISSION_NAMES
      else [])
    (((permissions.filter fun row => row._id ∈ grants).map
      Permission.permissionName).filter (· ≠ ""))

structure FeedScope where
  uid : Uid
  branchIds : List ObjectId
  granted : List String

def visibleBranchIds (store : Store) (uid : Uid) (user : Account) :
    List ObjectId :=
  if user.roleId = some "merchant" ∨ user.roleId = some "washer" then
    (store.branches.entries.filter fun branch => branch.2 = uid).map Sigma.fst
  else if user.roleId = some "staff" then user.branchIds.getD []
  else []

def scopeFor (store : Store) (uid : Uid) (user : Account)
    (activeBranchId : Option ObjectId) : FeedScope :=
  if user.roleId = some "staff" then
    { uid
      branchIds :=
        if activeBranchId.getD "" ∈ user.branchIds.getD [] ∧
            activeBranchId.getD "" ≠ "" then
          activeBranchId.toList
        else []
      granted := resolveGrantedPermissionNames user.roleId
        (user.grantsOn activeBranchId) store.permissions }
  else
    { uid
      branchIds := visibleBranchIds store uid user
      granted := resolveGrantedPermissionNames user.roleId
        (user.permissionIds.getD []) store.permissions }

def receives (permissions : List Permission) (branchId : ObjectId)
    (requiredPermission : Option String) (member : Account) : Bool :=
  requiredPermission.getD "" = "" ∨
    requiredPermission.getD "" ∈ resolveGrantedPermissionNames member.roleId
      (member.grantsOn (some branchId)) permissions

/-- `branchPushRecipients`: the owner, and those attached who hold the permission. -/
def branchPushRecipients (store : Store) (branchId : ObjectId)
    (requiredPermission : Option String) (excludeUid : Option Uid) :
    List Uid :=
  match store.branches.lookup branchId with
  | none => []
  | some owner =>
    let staff := store.accounts.entries.filter fun member =>
      branchId ∈ member.2.branchIds.getD []
    let recipients := addAll [owner] ((staff.filter fun member =>
        receives store.permissions branchId requiredPermission member.2).map Sigma.fst)
    recipients.filter fun uid => excludeUid ≠ some uid

/-! ## The answers -/

def Granted (permissions : List Permission) (name : String)
    (grants : List ObjectId) : Prop :=
  ∃ row ∈ permissions, row.permissionName = name ∧ row._id ∈ grants

/-- Guard, feed and fan-out agree on one permission of an account on a branch. -/
structure PermissionAnswersAgree (store : Store) (uid : Uid) (user : Account)
    (branchId : ObjectId) (name : String) : Prop where
  feed : canActivate store.permissions [name] user (some branchId) = .ok () ↔
    name ∈ (scopeFor store uid user (some branchId)).granted
  push : ∀ excludeUid, store.accounts.lookup uid = some user →
    user.roleId = some "staff" → store.branches.lookup branchId ≠ some uid →
    uid ∈ branchPushRecipients store branchId (some name) excludeUid →
      canActivate store.permissions [name] user (some branchId) = .ok ()

section

variable {store : Store} {permissions : List Permission} {uid : Uid}
  {user : Account} {branchId : ObjectId} {name : String}

theorem mem_resolveGrantedPermissionNames {roleId : Option String}
    {grants : List ObjectId} (named : name ≠ "") :
    name ∈ resolveGrantedPermissionNames roleId grants permissions ↔
      roleId = some "merchant" ∧ name ∈ OWNER_DEFAULT_PERMISSION_NAMES ∨
        Granted permissions name grants := by
  rw [resolveGrantedPermissionNames, mem_addAll_iff]
  apply or_congr
  · split
    · rename_i owner
      simp [owner]
    · rename_i other
      simp [other]
  · simp [Granted, named, and_assoc, and_comm]

theorem canActivate_ok (active : branchId ≠ "") :
    canActivate permissions [name] user (some branchId) = .ok () ↔
      user.roleId = some "merchant" ∧
          name ∈ OWNER_DEFAULT_PERMISSION_NAMES ∨
        user.roleId = some "staff" ∧
          Granted permissions name
            (if user.branchAccess.isNone then user.permissionIds.getD []
              else user.grantsOn (some branchId)) := by
  by_cases owner : user.roleId = some "merchant" ∧ name ∈ OWNER_DEFAULT_PERMISSION_NAMES
  · simp [canActivate, owner]
  by_cases staff : user.roleId = some "staff"
  · cases dated : user.branchAccess with
    | none =>
      simp [canActivate, staff, dated, predatesBranchAccess, Granted, and_comm]
    | some _ =>
      simp [canActivate, staff, dated, predatesBranchAccess, Granted, holdsOnBranch, active]
  · simp [canActivate, owner, staff]

theorem mem_scopeFor (named : name ≠ "") :
    name ∈ (scopeFor store uid user (some branchId)).granted ↔
      user.roleId = some "merchant" ∧
          name ∈ OWNER_DEFAULT_PERMISSION_NAMES ∨
        Granted store.permissions name
          (if user.roleId = some "staff" then user.grantsOn (some branchId)
            else user.permissionIds.getD []) := by
  rw [scopeFor]
  split <;> exact mem_resolveGrantedPermissionNames named

theorem not_merchant (staff : user.roleId = some "staff") : user.roleId ≠ some "merchant" := by
  rw [staff]
  decide

theorem not_granted_nil : ¬ Granted permissions name [] := by
  rintro ⟨_, _, _, absent⟩
  cases absent

theorem granted_of_recipient {excludeUid : Option Uid} (named : name ≠ "")
    (found : store.accounts.lookup uid = some user)
    (staff : user.roleId = some "staff")
    (other : store.branches.lookup branchId ≠ some uid)
    (notified : uid ∈ branchPushRecipients store branchId (some name) excludeUid) :
    Granted store.permissions name (user.grantsOn (some branchId)) := by
  rw [branchPushRecipients] at notified
  split at notified
  · cases notified
  · rename_i owner owned
    rcases mem_addAll_iff.mp (List.mem_filter.mp notified).1 with
      own | attached
    · cases List.mem_singleton.mp own
      exact (other owned).elim
    · rcases List.mem_map.mp attached with ⟨⟨_, member⟩, listed, rfl⟩
      rcases List.mem_filter.mp listed with ⟨present, receiving⟩
      have stored := AList.mem_lookup_iff.mpr (List.mem_filter.mp present).1
      cases found.symm.trans stored
      have holds := of_decide_eq_true receiving
      rcases (mem_resolveGrantedPermissionNames named).mp
          (holds.resolve_left named) with ⟨merchant, _⟩ | granted
      · exact (not_merchant staff merchant).elim
      · exact granted

/--
The answers agree just where the flat mirror is not what decides: it grants nothing of
the name, or the account is of the staff and has its branches, or it is an owner whose
floor has the name anyway.
-/
theorem permissionAnswersAgree_iff (active : branchId ≠ "")
    (named : name ≠ "") :
    PermissionAnswersAgree store uid user branchId name ↔
      (Granted store.permissions name (user.permissionIds.getD []) →
        user.roleId = some "staff" ∧ user.branchAccess ≠ none ∨
          user.roleId = some "merchant" ∧ name ∈ OWNER_DEFAULT_PERMISSION_NAMES) := by
  constructor
  · rintro ⟨feed, _⟩ flat
    rw [canActivate_ok active, mem_scopeFor named] at feed
    by_cases staff : user.roleId = some "staff"
    · refine .inl ⟨staff, fun undated => ?_⟩
      have without : user.grantsOn (some branchId) = [] := by
        simp [Account.grantsOn, undated, grantsForBranch]
      rw [if_pos staff, without, undated, Option.isNone_none, if_pos rfl] at feed
      rcases feed.mp (.inr ⟨staff, flat⟩) with ⟨merchant, _⟩ | granted
      · exact not_merchant staff merchant
      · exact not_granted_nil granted
    · rw [if_neg staff] at feed
      exact .inr ((feed.mpr (.inr flat)).resolve_right
        fun both => staff both.1)
  · intro decided
    constructor
    · rw [canActivate_ok active, mem_scopeFor named]
      apply or_congr_right'
      intro floorless
      by_cases staff : user.roleId = some "staff"
      · rw [if_pos staff]
        cases dated : user.branchAccess with
        | none =>
          have without : user.grantsOn (some branchId) = [] := by
            simp [Account.grantsOn, dated, grantsForBranch]
          rw [without, Option.isNone_none, if_pos rfl]
          constructor
          · rintro ⟨_, flat⟩
            rcases decided flat with ⟨_, dated'⟩ | owner
            · exact (dated' dated).elim
            · exact (floorless owner).elim
          · exact fun granted => (not_granted_nil granted).elim
        | some _ => simp [staff]
      · rw [if_neg staff]
        constructor
        · exact fun both => (staff both.1).elim
        · intro flat
          rcases decided flat with ⟨staff', _⟩ | owner
          · exact (staff staff').elim
          · exact (floorless owner).elim
    · intro excludeUid found staff other notified
      have granted := granted_of_recipient named found staff other notified
      refine (canActivate_ok active).mpr (.inr ⟨staff, ?_⟩)
      cases dated : user.branchAccess with
      | none =>
        rw [Account.grantsOn, dated, Option.getD_none, grantsForBranch,
          List.find?_nil, Option.map_none, Option.getD_none, ite_self]
          at granted
        exact (not_granted_nil granted).elim
      | some _ => exact granted

end

namespace Sample

def store : Store where
  permissions := [⟨"view", "log_view"⟩]
  branches := AList.insert "makati" "owner" ∅
  accounts := ∅

def staff (branchAccess : Option (List BranchAccessEntry)) : Account where
  roleId := some "staff"
  branchAccess := branchAccess
  branchIds := some ["makati"]
  permissionIds := some ["view"]

end Sample

/-- With a grant on the branch, the guard and the feed both have the permission. -/
theorem permissionAnswersAgree_granted :
    canActivate Sample.store.permissions ["log_view"]
        (Sample.staff (some [⟨"makati", ["view"]⟩])) (some "makati") =
      .ok () ∧
    PermissionAnswersAgree Sample.store "staff"
      (Sample.staff (some [⟨"makati", ["view"]⟩])) "makati" "log_view" :=
  ⟨rfl, (permissionAnswersAgree_iff (by decide) (by decide)).mpr
    fun _ => .inl ⟨rfl, nofun⟩⟩

/--
The guard takes the mirror of an account from before the branch grants; the feed takes
it for one that holds nothing.
-/
theorem permissionAnswersDiffer :
    ¬ ∀ (store : Store) (uid : Uid) (user : Account) (branchId : ObjectId)
      (name : String), branchId ≠ "" → name ≠ "" →
        PermissionAnswersAgree store uid user branchId name := by
  intro always
  have agree := always Sample.store "staff" (Sample.staff none) "makati"
    "log_view" (by decide) (by decide)
  have listed := agree.feed.mp rfl
  exact absurd listed (by decide)

end Lalaba.Permissions
