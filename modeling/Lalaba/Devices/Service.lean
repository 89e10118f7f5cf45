import Lalaba.Users.Account

/-!
# The devices of a merchant

A staff member registers a device and the owner of the merchant approves it.  A
request of a staff member is let in by its device: the device must be approved,
and it must hold the one active session of its staff member.  What a device token
is worth is kept in a cache, and every change of a device deletes its entry.
-/

namespace Lalaba.Devices

open Users (User)

inductive DeviceStatus where
  | PENDING
  | APPROVED
  | BLOCKED
deriving DecidableEq

/--
A row of the devices.  Rows that are older than the fields `status` and
`activeSession` have none.
-/
structure Device where
  _id : ObjectId
  uid : Uid
  staffUid : Option Uid
  branchId : Option ObjectId
  fcmToken : String
  status : Option DeviceStatus
  isActive : Bool
  activeSession : Option Bool
deriving DecidableEq

def Device.Authorized (device : Device) : Prop :=
  device.status = some .APPROVED ∧ device.activeSession ≠ some false

instance (device : Device) : Decidable device.Authorized := inferInstanceAs (Decidable (_ ∧ _))

/-- The fields of `CreateDeviceInput` that a registration keeps. -/
structure CreateDeviceInput where
  fcmToken : String
  branchId : ObjectId
deriving DecidableEq

/-- May a request proceed, for which branch, and with whose device? -/
structure DeviceAuthResult where
  authorized : Bool
  branchId : Option ObjectId
  staffUid : Option Uid
deriving DecidableEq

def deviceAuthCacheKey (merchantId : Uid) (fcmToken : String) : String :=
  "device_auth_v2:" ++ merchantId ++ ":" ++ fcmToken

/-- `findOne({ uid, fcmToken })`. -/
def findByToken (merchantId : Uid) (fcmToken : String)
    (devices : List Device) : Option Device :=
  devices.find? fun device =>
    device.uid == merchantId && device.fcmToken == fcmToken

/-- Does a row let its device in?  An old row goes by `isActive`. -/
def Device.letsIn (device : Device) : Bool :=
  device.activeSession ≠ some false ∧
    (device.status = some .APPROVED ∨ device.status = none ∧ device.isActive = true)

/-- The verdict on a token, as `resolveDeviceAuth` reads it off its row. -/
def deviceAuth (merchantId : Uid) (fcmToken : String)
    (devices : List Device) : DeviceAuthResult :=
  match (findByToken merchantId fcmToken devices).filter Device.letsIn with
  | none => { authorized := false, branchId := none, staffUid := none }
  | some device =>
    { authorized := true
      branchId := device.branchId.filter (· ≠ "")
      staffUid := device.staffUid.filter (· ≠ "") }

/-! ## Reads and writes -/

def findOwned (id : ObjectId) (merchantId : Uid) (devices : List Device) :
    Except ServiceError Device :=
  match devices.find? fun device => device._id == id with
  | none => .error (.notFound "Device not found")
  | some device =>
    if device.uid = merchantId then .ok device
    else .error (.notFound "Device not found")

/-- `findByIdAndUpdate`. -/
def updateById (id : ObjectId) (change : Device → Device)
    (devices : List Device) : List Device :=
  devices.map fun device =>
    if device._id = id then change device else device

/-- `findByIdAndDelete`. -/
def deleteById (id : ObjectId) (devices : List Device) : List Device :=
  devices.filter fun device => device._id ≠ id

/-- What `approve` and `unblock` set. -/
def Device.approved (device : Device) : Device :=
  { device with
    status := some .APPROVED
    isActive := true
    activeSession := some true }

/-- What `block` sets. -/
def Device.blocked (device : Device) : Device :=
  { device with status := some .BLOCKED, isActive := false }

/-- What `claimActiveDevice` sets. -/
def Device.claimed (device : Device) : Device := { device with activeSession := some true }

def Device.superseded (device : Device) : Device := { device with activeSession := some false }

/-- The device that takes over the session of a staff member. -/
structure Claimant where
  merchantId : Uid
  staffUid : Uid
  fcmToken : String
deriving DecidableEq

/-- The filter of `supersedeSiblingDevices`. -/
def Claimant.isSibling (claimant : Claimant) (device : Device) : Bool :=
  device.uid = claimant.merchantId ∧
    device.staffUid = some claimant.staffUid ∧
    device.fcmToken ≠ claimant.fcmToken ∧
    device.activeSession ≠ some false

/-- `updateMany`: every sibling loses the session. -/
def Claimant.supersede (claimant : Claimant) (devices : List Device) :
    List Device :=
  devices.map fun device =>
    if claimant.isSibling device then device.superseded else device

/-- The checks of `register`, which sees the branch and a row of the token. -/
def assertRegistrable (input : CreateDeviceInput) (actor : User)
    (branches : Collection Branch) (devices : List Device) :
    Except ServiceError Unit :=
  if input.branchId = "" then
    .error (.badRequest "A branch is required to register a device")
  else if (branches.lookup input.branchId).all fun branch =>
      branch.uid != actor.merchant then
    .error (.badRequest "Selected branch does not exist")
  else if actor.isStaff ∧ input.branchId ∉ actor.branchIds then
    .error (.forbidden "You are not assigned to the selected branch")
  else
    match findByToken actor.merchant input.fcmToken devices with
    | none => .ok ()
    | some existing =>
      if existing.staffUid = some actor._id then
        .error (.badRequest "This device is already registered")
      else
        .error (.badRequest "This device is already registered to another account")

def newDevice (id : ObjectId) (input : CreateDeviceInput) (actor : User) : Device where
  _id := id
  uid := actor.merchant
  staffUid := some actor._id
  branchId := some input.branchId
  fcmToken := input.fcmToken
  status := some (if actor.isStaff then .PENDING else .APPROVED)
  isActive := !actor.isStaff
  activeSession := some true

/-- `save` of a new row; a merchant registers a token once. -/
def insertDevice (device : Device) (devices : List Device) :
    Except ServiceError (List Device) :=
  if (findByToken device.uid device.fcmToken devices).isSome then
    .error (.duplicateKey "uid_1_fcmToken_1")
  else
    .ok (devices ++ [device])

end Lalaba.Devices
