import Lalaba.Common

/-!
# Accounts

The fields of a user document that the gates of a request read, with the role it
refers to already in its place.
-/

namespace Lalaba.Users

inductive AccountStatus where
  | ACTIVE
  | DELETION_PENDING
  | DELETED
deriving DecidableEq

structure Role where
  roleId : String
deriving DecidableEq

/-- A user document, its role populated. -/
structure User where
  _id : Uid
  role : Option Role
  isActive : Bool
  merchantId : Option Uid
  branchIds : List ObjectId
  selfieStatus : Option String
  washerStatus : Option String
  sessionsValidAfter : Option Instant
  accountStatus : Option AccountStatus
deriving DecidableEq

def User.hasRole (user : User) (roleId : String) : Bool :=
  user.role.any fun role => role.roleId == roleId

/-- `merchantId ?? _id`: the merchant an account acts for. -/
def User.merchant (user : User) : Uid := user.merchantId.getD user._id

def User.isStaff (user : User) : Bool := user.merchant ≠ user._id

end Lalaba.Users
