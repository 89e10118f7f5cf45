import Lalaba.AccountDeletion.Service

/-!
# Erasures

The writes of an erasure concern one account only.  The first of them takes the
account out of every later sweep, so an erasure is finished by the sweep that gets
past it or by none.
-/

namespace Lalaba.AccountDeletion

open Foundation

/-- What a user document says of a person. -/
structure Person where
  firstName : String
  lastName : String
  email : String
  phoneNumber : String
  homeAddress : HomeAddress
  fcmTokens : List String
deriving DecidableEq

def User.person (user : User) : Person where
  firstName := user.firstName
  lastName := user.lastName
  email := user.email
  phoneNumber := user.phoneNumber
  homeAddress := user.homeAddress
  fcmTokens := user.fcmTokens

/-- Everything an erasure overwrites or deletes of an account. -/
structure PersonalData where
  person : Option Person
  account : CourierVerification.Account
  selfies : List CourierVerification.CourierSelfie
  devices : List Device
  washerProfiles : List WasherProfile
  activityLogs : List ActivityLog
  orders : List OrderCustomer
  bookings : List WasherBooking
  hasIdentity : Bool
deriving DecidableEq

def Store.personalData (uid : Uid) (store : Store) : PersonalData where
  person := (store.users.lookup uid).map User.person
  account := store.verification.accounts uid
  selfies := store.verification.selfies.filter fun row =>
    row.courierUid == uid
  devices := store.devices.filter fun row => row.uid == uid
  washerProfiles := store.washerProfiles.filter fun row => row.uid == uid
  activityLogs := store.activityLogs.filter fun row => row.actorId == uid
  orders := store.orders.filter fun row => row.uid == uid
  bookings := store.bookings.filter fun row => row.customerId == uid
  hasIdentity := store.identities.contains uid

/-! ## Writes -/

section

variable {Row : Type} {filter own : Row → Bool} {set : Row → Row} {rows : List Row}

theorem filter_updateMany_of_disjoint
    (disjoint : ∀ row, filter row = true → own row = false ∧ own (set row) = false) :
    (updateMany filter set rows).filter own = rows.filter own := by
  rw [updateMany]
  induction rows with
  | nil => rfl
  | cons row rest induction =>
    rw [List.map_cons, List.filter_cons, List.filter_cons, induction]
    cases selected : filter row with
    | false => rfl
    | true =>
      rcases disjoint row selected with ⟨before, after⟩
      rw [if_pos rfl, before, after, if_neg Bool.false_ne_true, if_neg Bool.false_ne_true]

theorem filter_deleteMany_of_disjoint
    (disjoint : ∀ row, filter row = true → own row = false) :
    (deleteMany filter rows).filter own = rows.filter own := by
  rw [deleteMany, List.filter_filter]
  apply List.filter_congr
  intro row _
  cases selected : filter row with
  | false => simp
  | true => simp [disjoint row selected]

end

namespace Store

variable {store : Store} {uid other : Uid} {set : User → User} {now : Instant}

theorem mem_due :
    uid ∈ store.due now ↔ ∃ user, store.users.lookup uid = some user ∧
      user.accountStatus = .DELETION_PENDING ∧
      ∃ scheduledAt, user.deletionScheduledAt = some scheduledAt ∧ scheduledAt ≤ now := by
  simp only [Store.due, List.mem_map, List.mem_filter, Bool.and_eq_true,
    beq_iff_eq, Option.any_eq_true, decide_eq_true_eq]
  constructor
  · rintro ⟨⟨key, user⟩, ⟨member, pending, due⟩, rfl⟩
    exact ⟨user, AList.mem_lookup_iff.mpr member, pending, due⟩
  · rintro ⟨user, found, pending, due⟩
    exact ⟨⟨uid, user⟩, ⟨AList.mem_lookup_iff.mp found, pending, due⟩, rfl⟩

theorem updateUser_of_some {user : User}
    (found : store.users.lookup uid = some user) :
    store.updateUser uid set = { store with users := store.users.insert uid (set user) } := by
  rw [updateUser, found]

theorem updateUser_of_none (absent : store.users.lookup uid = none) :
    store.updateUser uid set = store := by
  rw [updateUser, absent]

theorem lookup_updateUser :
    (store.updateUser uid set).users.lookup uid = (store.users.lookup uid).map set := by
  cases found : store.users.lookup uid with
  | none =>
    rw [updateUser_of_none found, found]
    rfl
  | some user =>
    rw [updateUser_of_some found]
    exact AList.lookup_insert _

theorem lookup_updateUser_of_ne (different : uid ≠ other) :
    (store.updateUser other set).users.lookup uid =
      store.users.lookup uid := by
  cases found : store.users.lookup other with
  | none => rw [updateUser_of_none found]
  | some user =>
    rw [updateUser_of_some found]
    exact AList.lookup_insert_ne different

theorem anonymize_users :
    (store.anonymize uid now).users = (store.updateUser uid (User.anonymized uid now)).users := by
  rw [anonymize]
  split
  · rename_i absent
    rw [updateUser_of_none absent]
  · rfl

theorem personalData_anonymize_of_ne (different : uid ≠ other) :
    (store.anonymize other now).personalData uid =
      store.personalData uid := by
  rw [anonymize]
  split
  · rfl
  · rename_i user found
    have person := congrArg (Option.map User.person)
      (@lookup_updateUser_of_ne store uid other (User.anonymized other now) different)
    rw [updateUser_of_some found] at person ⊢
    have account : Function.update store.verification.accounts other {} uid =
        store.verification.accounts uid :=
      Function.update_of_ne different _ _
    exact congrArg₂ (fun person account =>
      { store.personalData uid with person, account }) person account

theorem personalData_updateUser
    (same : ∀ user, (set user).person = user.person) :
    (store.updateUser other set).personalData uid =
      store.personalData uid := by
  cases found : store.users.lookup other with
  | none => rw [updateUser_of_none found]
  | some user =>
    have person :
        ((store.updateUser other set).users.lookup uid).map User.person =
          (store.users.lookup uid).map User.person := by
      by_cases here : uid = other
      · subst here
        rw [lookup_updateUser, found, Option.map_some, Option.map_some, Option.map_some, same]
      · rw [lookup_updateUser_of_ne here]
    rw [updateUser_of_some found] at person ⊢
    exact congrArg (fun person =>
      { store.personalData uid with person }) person

end Store

namespace Erasure

variable {answers : String → Bool} {reply : IdentityReply}
  {uid other : Uid} {now : Instant} {step : Erasure} {store : Store}
  {summary : ProcessingSummary}

theorem apart {Row : Type} {key : Row → Uid} (different : uid ≠ other)
    (row : Row) (own : (key row == other) = true) :
    (key row == uid) = false := by
  rw [eq_of_beq own]
  exact beq_eq_false_iff_ne.mpr different.symm

/-- An erasure leaves the data of every other person alone. -/
theorem personalData_apply_of_ne (different : uid ≠ other) :
    (step.apply answers reply other now (store, summary)).1.personalData
        uid =
      store.personalData uid := by
  cases step with
  | user => exact Store.personalData_anonymize_of_ne different
  | cache | selfieObjects | record => rfl
  | selfieRows =>
    have kept := @filter_deleteMany_of_disjoint
      CourierVerification.CourierSelfie
      (fun row => row.courierUid == other)
      (fun row => row.courierUid == uid) store.verification.selfies
      (apart different)
    exact congrArg (fun selfies =>
      { store.personalData uid with selfies }) kept
  | devices =>
    have kept := @filter_deleteMany_of_disjoint Device
      (fun row => row.uid == other) (fun row => row.uid == uid)
      store.devices (apart different)
    exact congrArg (fun devices =>
      { store.personalData uid with devices }) kept
  | identity =>
    cases reply with
    | deleted =>
      have kept : (deleteMany (fun row => row == other) store.identities).contains uid =
            store.identities.contains uid := by
        rw [deleteMany, List.contains_eq_mem, List.contains_eq_mem]
        simp [different]
      exact congrArg (fun hasIdentity =>
        { store.personalData uid with hasIdentity }) kept
    | userNotFound | failed => rfl
  | washerProfile =>
    have kept := @filter_updateMany_of_disjoint WasherProfile
      (fun row => row.uid == other) (fun row => row.uid == uid)
      WasherProfile.scrubbed store.washerProfiles
      fun row own => ⟨apart different row own, apart different row own⟩
    exact congrArg (fun washerProfiles =>
      { store.personalData uid with washerProfiles }) kept
  | activityLogs =>
    have kept := @filter_updateMany_of_disjoint ActivityLog
      (fun row => row.actorId == other) (fun row => row.actorId == uid)
      ActivityLog.redacted store.activityLogs
      fun row own => ⟨apart different row own, apart different row own⟩
    exact congrArg (fun activityLogs =>
      { store.personalData uid with activityLogs }) kept
  | orders =>
    have kept := @filter_updateMany_of_disjoint OrderCustomer
      (fun row => row.uid == other) (fun row => row.uid == uid)
      OrderCustomer.redacted store.orders
      fun row own => ⟨apart different row own, apart different row own⟩
    exact congrArg (fun orders =>
      { store.personalData uid with orders }) kept
  | bookings =>
    have kept := @filter_updateMany_of_disjoint WasherBooking
      (fun row => row.customerId == other)
      (fun row => row.customerId == uid)
      WasherBooking.redacted store.bookings
      fun row own => ⟨apart different row own, apart different row own⟩
    exact congrArg (fun bookings =>
      { store.personalData uid with bookings }) kept

theorem users_apply :
    (step.apply answers reply uid now (store, summary)).1.users =
      if step = user then (store.anonymize uid now).users
      else store.users := by
  cases step with
  | identity => cases reply <;> rfl
  | _ => rfl

end Erasure

namespace Sample

def customer : User where
  _id := "customer"
  roleId := some "customer"
  accountStatus := .DELETION_PENDING
  isActive := false
  deletionRequestedAt := some 0
  deletionScheduledAt := some (scheduledAt 0)
  firstName := "Ana"
  lastName := "Reyes"
  email := "ana@mail.test"
  phoneNumber := "0917"

def record : AccountDeletionRecord where
  uid := "customer"
  roleId := some "customer"
  requestedAt := 0
  scheduledAt := scheduledAt 0

/-- A customer who has asked for deletion; she has one device. -/
def store : Store where
  users := AList.singleton "customer" customer
  verification := .empty
  devices := [{ uid := "customer", deviceName := "phone" }]
  washerProfiles := []
  activityLogs := []
  orders := []
  bookings := []
  records := [record]
  identities := ["customer"]
  cached := []
  clock := 0

end Sample

end Lalaba.AccountDeletion
