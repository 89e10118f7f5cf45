import Lalaba.Devices.Service
import Lalaba.Foundation.Run

/-!
# Concurrent calls about devices

Every read and every write of a call is a step, in the database and in the cache.
Between any two of them other calls run.  A call stays in its place in the list
of calls when it has returned, and an entry stays in the cache until a call
deletes it.
-/

namespace Lalaba.Devices

open Foundation
open Users (User)

/-! ## Calls in flight -/

/-- What an owner does with a device. -/
inductive OwnerAction where
  | approve
  | disapprove
  | block
  | unblock
  | delete
deriving DecidableEq

/-- The operations that read a device and then write it. -/
inductive Operation where
  | owner (action : OwnerAction)
  /-- `claimActiveDevice` by a staff member. -/
  | claim (actorUid : Uid)
deriving DecidableEq

def Operation.apply (id : ObjectId) : Operation → List Device → List Device
  | .owner .approve => updateById id Device.approved
  | .owner .unblock => updateById id Device.approved
  | .owner .block => updateById id Device.blocked
  | .owner .disapprove => deleteById id
  | .owner .delete => deleteById id
  | .claim _ => updateById id Device.claimed

def Operation.claimant (device : Device) : Operation → Option Claimant
  | .owner .approve =>
    (device.staffUid.filter (· ≠ "")).map fun staffUid =>
      { merchantId := device.uid, staffUid, fcmToken := device.fcmToken }
  | .claim actorUid =>
    some
      { merchantId := device.uid
        staffUid := device.staffUid.getD actorUid
        fcmToken := device.fcmToken }
  | .owner _ => none

/-- A call, at the point where it waits, with what it has read. -/
inductive Call where
  /-- `register`, about to save. -/
  | register (input : CreateDeviceInput) (actor : User)
  | write (operation : Operation) (device : Device)
  | forget (merchantId : Uid) (fcmToken : String) (next : Option Claimant)
  /-- `supersedeSiblingDevices`, about to look for them. -/
  | supersede (claimant : Claimant)
  /-- `supersedeSiblingDevices`, about to update what it has found. -/
  | retire (claimant : Claimant) (siblings : List String)
  /-- `supersedeSiblingDevices`, with entries left to delete. -/
  | sweep (merchantId : Uid) (fcmTokens : List String)
  /-- `resolveDeviceAuth`, not answered by the cache. -/
  | lookUp (merchantId : Uid) (fcmToken : String)
  /-- `resolveDeviceAuth`, about to cache its verdict. -/
  | keep (merchantId : Uid) (fcmToken : String) (result : DeviceAuthResult)
  /-- `resolveDeviceAuth` has returned. -/
  | resolved (merchantId : Uid) (fcmToken : String) (result : DeviceAuthResult)
  | done
deriving DecidableEq

def Call.returned : Call → Bool
  | .resolved _ _ _ => true
  | .done => true
  | _ => false

/--
The devices, the cache and the calls.  `drawn` are the ids the database has given
out; it never gives one out twice.
-/
structure State where
  devices : List Device
  cache : Collection DeviceAuthResult
  calls : List Call
  drawn : List ObjectId

namespace State

def start (devices : List Device) : State where
  devices
  cache := ∅
  calls := []
  drawn := devices.map (·._id)

def begin (call : Call) (state : State) : State := { state with calls := state.calls ++ [call] }

def advance (index : ℕ) (call : Call) (state : State) : State :=
  { state with calls := state.calls.set index call }

def Quiescent (state : State) : Prop := ∀ call ∈ state.calls, call.returned

instance (state : State) : Decidable state.Quiescent :=
  inferInstanceAs (Decidable (∀ call ∈ state.calls, call.returned))

end State

/-- What can happen next. -/
inductive Action where
  | register (input : CreateDeviceInput) (actor : User)
  | own (action : OwnerAction) (id : ObjectId) (merchantId : Uid)
  | claimActiveDevice (actor : User) (deviceToken : String)
  | resolveDeviceAuth (merchantId : Uid) (fcmToken : String)
  | proceed (index : ℕ) (newId : ObjectId)
  | clear (index : ℕ) (fcmToken : String)

/-- The first read of `claimActiveDevice`. -/
def claimable (actor : User) (deviceToken : String)
    (devices : List Device) : Option Device :=
  if actor.isStaff then
    (findByToken actor.merchant deviceToken devices).filter fun device =>
      device.status = some .APPROVED
  else
    none

/-- A call takes its next step. -/
def stepCall (index : ℕ) (newId : ObjectId) (state : State) :
    Call → Option State
  | .register input actor =>
    if newId ∈ state.drawn then
      none
    else
      match insertDevice (newDevice newId input actor) state.devices with
      | .error _ => some (state.advance index .done)
      | .ok devices =>
        some (({ state with devices, drawn := newId :: state.drawn }
          : State).advance index (.forget actor.merchant input.fcmToken none))
  | .write operation device =>
    some (({ state with
      devices := operation.apply device._id state.devices } : State).advance index
          (.forget device.uid device.fcmToken (operation.claimant device)))
  | .forget merchantId fcmToken next =>
    some (({ state with
      cache := state.cache.erase
        (deviceAuthCacheKey merchantId fcmToken) } :
        State).advance index (next.elim .done .supersede))
  | .supersede claimant =>
    match state.devices.filter claimant.isSibling with
    | [] => some (state.advance index .done)
    | sibling :: siblings =>
      some (state.advance index (.retire claimant ((sibling :: siblings).map (·.fcmToken))))
  | .retire claimant siblings =>
    some (({ state with
      devices := claimant.supersede state.devices } :
        State).advance index (.sweep claimant.merchantId siblings))
  | .lookUp merchantId fcmToken =>
    some (state.advance index
      (.keep merchantId fcmToken (deviceAuth merchantId fcmToken state.devices)))
  | .keep merchantId fcmToken result =>
    some (({ state with
      cache := state.cache.insert
        (deviceAuthCacheKey merchantId fcmToken) result } :
        State).advance index (.resolved merchantId fcmToken result))
  | .sweep _ _ => none
  | .resolved _ _ _ => none
  | .done => none

/-- One of the deletions of a superseding call; after the last it returns. -/
def stepClear (index : ℕ) (fcmToken : String) (state : State) :
    Call → Option State
  | .sweep merchantId fcmTokens =>
    if fcmToken ∈ fcmTokens then
      some (({ state with
        cache := state.cache.erase
          (deviceAuthCacheKey merchantId fcmToken) } : State).advance index
            (if fcmTokens.erase fcmToken = [] then .done
              else .sweep merchantId (fcmTokens.erase fcmToken)))
    else
      none
  | _ => none

/-- One step; `none` when it is refused without a write. -/
def step (branches : Collection Branch) : Action → State → Option State
  | .register input actor, state =>
    (assertRegistrable input actor branches state.devices).toOption.map
      fun _ => state.begin (.register input actor)
  | .own action id merchantId, state =>
    (findOwned id merchantId state.devices).toOption.map fun device =>
      state.begin (.write (.owner action) device)
  | .claimActiveDevice actor deviceToken, state =>
    (claimable actor deviceToken state.devices).map fun device =>
      state.begin (.write (.claim actor._id) device)
  | .resolveDeviceAuth merchantId fcmToken, state =>
    match state.cache.lookup (deviceAuthCacheKey merchantId fcmToken) with
    | some result => some (state.begin (.resolved merchantId fcmToken result))
    | none => some (state.begin (.lookUp merchantId fcmToken))
  | .proceed index newId, state =>
    state.calls[index]?.bind (stepCall index newId state)
  | .clear index fcmToken, state =>
    state.calls[index]?.bind (stepClear index fcmToken state)

def deviceSystem (branches : Collection Branch) : System State Action := { step := step branches }

/-! ## What a step can do -/

/-- How a call starts. -/
inductive Opens (state : State) : Call → Prop where
  | register (input : CreateDeviceInput) (actor : User) : Opens state (.register input actor)
  | write (operation : Operation) (device : Device)
      (stored : device ∈ state.devices) :
      Opens state (.write operation device)
  | miss (merchantId : Uid) (fcmToken : String)
      (absent : state.cache.lookup (deviceAuthCacheKey merchantId fcmToken) = none) :
      Opens state (.lookUp merchantId fcmToken)
  | hit (merchantId : Uid) (fcmToken : String) (result : DeviceAuthResult)
      (cached : state.cache.lookup (deviceAuthCacheKey merchantId fcmToken) = some result) :
      Opens state (.resolved merchantId fcmToken result)

/-- What a step can do to a state. -/
inductive Stepped (state : State) : Action → State → Prop where
  | began {action : Action} {call : Call} (opened : Opens state call) :
      Stepped state action (state.begin call)
  | saved {index : ℕ} {newId : ObjectId} {input : CreateDeviceInput}
      {actor : User}
      (waits : state.calls[index]? = some (.register input actor))
      (undrawn : newId ∉ state.drawn)
      (unregistered : findByToken actor.merchant input.fcmToken state.devices = none) :
      Stepped state (.proceed index newId)
        { devices := state.devices ++ [newDevice newId input actor]
          cache := state.cache
          calls := state.calls.set index (.forget actor.merchant input.fcmToken none)
          drawn := newId :: state.drawn }
  | refused {index : ℕ} {newId : ObjectId} {input : CreateDeviceInput}
      {actor : User}
      (waits : state.calls[index]? = some (.register input actor)) :
      Stepped state (.proceed index newId) (state.advance index .done)
  | wrote {index : ℕ} {newId : ObjectId} {operation : Operation}
      {device : Device}
      (waits : state.calls[index]? = some (.write operation device)) :
      Stepped state (.proceed index newId)
        { devices := operation.apply device._id state.devices
          cache := state.cache
          calls := state.calls.set index
            (.forget device.uid device.fcmToken (operation.claimant device))
          drawn := state.drawn }
  | forgot {index : ℕ} {newId : ObjectId} {merchantId : Uid}
      {fcmToken : String} {next : Option Claimant}
      (waits : state.calls[index]? = some (.forget merchantId fcmToken next)) :
      Stepped state (.proceed index newId)
        { devices := state.devices
          cache := state.cache.erase (deviceAuthCacheKey merchantId fcmToken)
          calls := state.calls.set index (next.elim .done .supersede)
          drawn := state.drawn }
  | alone {index : ℕ} {newId : ObjectId} {claimant : Claimant}
      (waits : state.calls[index]? = some (.supersede claimant))
      (none : state.devices.filter claimant.isSibling = []) :
      Stepped state (.proceed index newId) (state.advance index .done)
  | found {index : ℕ} {newId : ObjectId} {claimant : Claimant}
      (waits : state.calls[index]? = some (.supersede claimant)) :
      Stepped state (.proceed index newId)
        (state.advance index (.retire claimant
            ((state.devices.filter claimant.isSibling).map (·.fcmToken))))
  | retired {index : ℕ} {newId : ObjectId} {claimant : Claimant}
      {siblings : List String}
      (waits : state.calls[index]? = some (.retire claimant siblings)) :
      Stepped state (.proceed index newId)
        { devices := claimant.supersede state.devices
          cache := state.cache
          calls := state.calls.set index (.sweep claimant.merchantId siblings)
          drawn := state.drawn }
  | looked {index : ℕ} {newId : ObjectId} {merchantId : Uid}
      {fcmToken : String}
      (waits : state.calls[index]? = some (.lookUp merchantId fcmToken)) :
      Stepped state (.proceed index newId)
        (state.advance index
          (.keep merchantId fcmToken (deviceAuth merchantId fcmToken state.devices)))
  | kept {index : ℕ} {newId : ObjectId} {merchantId : Uid}
      {fcmToken : String} {result : DeviceAuthResult}
      (waits : state.calls[index]? = some (.keep merchantId fcmToken result)) :
      Stepped state (.proceed index newId)
        { devices := state.devices
          cache := state.cache.insert (deviceAuthCacheKey merchantId fcmToken) result
          calls := state.calls.set index (.resolved merchantId fcmToken result)
          drawn := state.drawn }
  | cleared {index : ℕ} {merchantId : Uid} {fcmToken : String}
      {fcmTokens : List String}
      (waits : state.calls[index]? = some (.sweep merchantId fcmTokens))
      (pending : fcmToken ∈ fcmTokens) :
      Stepped state (.clear index fcmToken)
        { devices := state.devices
          cache := state.cache.erase (deviceAuthCacheKey merchantId fcmToken)
          calls := state.calls.set index
            (if fcmTokens.erase fcmToken = [] then .done
              else .sweep merchantId (fcmTokens.erase fcmToken))
          drawn := state.drawn }

variable {state after : State} {devices : List Device} {device : Device}

theorem Stepped.calls {action : Action} (stepped : Stepped state action after) :
    (∃ call, Opens state call ∧ after.calls = state.calls ++ [call]) ∨
      ∃ (place : ℕ) (call next : Call), state.calls[place]? = some call ∧
        call.returned = false ∧
        after.calls = state.calls.set place next := by
  cases stepped with
  | began opened => exact .inl ⟨_, opened, rfl⟩
  | saved waits | refused waits | wrote waits | forgot waits | alone waits
  | found waits | retired waits | looked waits | kept waits | cleared waits => exact .inr ⟨_, _, _, waits, rfl, rfl⟩

theorem Stepped.returned {action : Action}
    (stepped : Stepped state action after) {index : ℕ} {call : Call}
    (waits : state.calls[index]? = some call) (returned : call.returned = true) :
    after.calls[index]? = some call := by
  rcases stepped.calls with ⟨opened, _, calls⟩ | ⟨place, moving, next, waits', open_, calls⟩
  · rw [calls, List.getElem?_append_left (List.getElem?_eq_some_iff.mp waits).1]
    exact waits
  · rw [calls]
    by_cases here : place = index
    · subst here
      rw [waits] at waits'
      cases waits'
      rw [returned] at open_
      cases open_
    · rw [List.getElem?_set_ne here]
      exact waits

theorem findOwned_ok {id : ObjectId} {merchantId : Uid}
    (found : findOwned id merchantId devices = .ok device) :
    device ∈ devices ∧ device._id = id ∧ device.uid = merchantId := by
  rw [findOwned] at found
  rcases sought : devices.find? fun device => device._id == id with _ | row
  · rw [sought] at found
    cases found
  · rw [sought] at found
    have isIt : row._id = id := by simpa using List.find?_some sought
    by_cases owned : row.uid = merchantId
    · simp only [owned, if_true] at found
      cases found
      exact ⟨List.mem_of_find?_eq_some sought, isIt, owned⟩
    · simp only [owned, if_false] at found
      cases found

theorem mem_of_findByToken {merchantId : Uid} {fcmToken : String}
    (found : findByToken merchantId fcmToken devices = some device) :
    device ∈ devices ∧ device.uid = merchantId ∧ device.fcmToken = fcmToken := by
  have named : device.uid = merchantId ∧ device.fcmToken = fcmToken := by
    simpa using List.find?_some found
  exact ⟨List.mem_of_find?_eq_some found, named⟩

theorem mem_of_claimable {actor : User} {deviceToken : String}
    (found : claimable actor deviceToken devices = some device) :
    device ∈ devices := by
  rw [claimable] at found
  split at found
  · exact (mem_of_findByToken (Option.filter_eq_some_iff.mp found).1).1
  · cases found

/-- A call that waits takes one of its steps. -/
theorem stepCall_cases {index : ℕ} {newId : ObjectId} {call : Call}
    (waits : state.calls[index]? = some call)
    (stepped : stepCall index newId state call = some after) :
    Stepped state (.proceed index newId) after := by
  cases call with
  | register input actor =>
    rw [stepCall] at stepped
    split at stepped
    · cases stepped
    · next undrawn =>
      rw [insertDevice] at stepped
      rcases sought : findByToken actor.merchant input.fcmToken state.devices with _ | existing
      · simp only [newDevice, sought, Option.isSome_none,
          Bool.false_eq_true, if_false, Option.some.injEq] at stepped
        subst stepped
        exact .saved waits undrawn sought
      · simp only [newDevice, sought, Option.isSome_some, if_true, Option.some.injEq] at stepped
        subst stepped
        exact .refused waits
  | write operation device =>
    cases stepped
    exact .wrote waits
  | forget merchantId fcmToken next =>
    cases stepped
    exact .forgot waits
  | supersede claimant =>
    rw [stepCall] at stepped
    rcases sought : state.devices.filter claimant.isSibling with
      _ | ⟨sibling, siblings⟩
    · rw [sought] at stepped
      cases stepped
      exact .alone waits sought
    · rw [sought] at stepped
      cases stepped
      have reached : Stepped state (.proceed index newId) _ := .found waits
      rw [sought] at reached
      exact reached
  | retire claimant siblings =>
    cases stepped
    exact .retired waits
  | sweep | resolved | done => cases stepped
  | lookUp merchantId fcmToken =>
    cases stepped
    exact .looked waits
  | keep merchantId fcmToken result =>
    cases stepped
    exact .kept waits

/-- What a step does to a state. -/
theorem step_cases {branches : Collection Branch} {action : Action}
    {state after : State}
    (stepped : (deviceSystem branches).step action state = some after) :
    Stepped state action after := by
  cases action with
  | register input actor =>
    obtain ⟨_, _, rfl⟩ := Option.map_eq_some_iff.mp stepped
    exact .began (.register input actor)
  | own action id merchantId =>
    obtain ⟨device, found, rfl⟩ := Option.map_eq_some_iff.mp stepped
    have found' : findOwned id merchantId state.devices = .ok device := by
      rcases sought : findOwned id merchantId state.devices with _ | row
      · rw [sought] at found
        cases found
      · rw [sought] at found
        cases found
        rfl
    exact .began (.write _ _ (findOwned_ok found').1)
  | claimActiveDevice actor deviceToken =>
    obtain ⟨device, found, rfl⟩ := Option.map_eq_some_iff.mp stepped
    exact .began (.write _ _ (mem_of_claimable found))
  | resolveDeviceAuth merchantId fcmToken =>
    simp only [deviceSystem, step] at stepped
    rcases sought : state.cache.lookup (deviceAuthCacheKey merchantId fcmToken) with _ | result
    · rw [sought] at stepped
      cases stepped
      exact .began (.miss _ _ sought)
    · rw [sought] at stepped
      cases stepped
      exact .began (.hit _ _ _ sought)
  | proceed index newId =>
    obtain ⟨call, waits, stepped'⟩ := Option.bind_eq_some_iff.mp stepped
    exact stepCall_cases waits stepped'
  | clear index fcmToken =>
    obtain ⟨call, waits, stepped'⟩ := Option.bind_eq_some_iff.mp stepped
    cases call with
    | sweep merchantId fcmTokens =>
      rw [stepClear] at stepped'
      split at stepped'
      · next pending =>
        cases stepped'
        exact .cleared waits pending
      · cases stepped'
    | _ => cases stepped'

end Lalaba.Devices
