import Lalaba.Devices.System
import Mathlib.Data.List.Nodup

/-!
# One active device for each staff member

Approving a device and claiming it both give it the session of its staff member
and then take the session from the others.  While such a call is on its way two
devices of one staff member may be authorized; the call that will settle this is
still in progress.  Unblocking a device gives it the session too and takes it from
nobody, so the argument holds for the runs in which a device is unblocked only
while no other device of its staff member is authorized.
-/

namespace Lalaba.Devices

open Foundation

def StaffMember (merchantId staffUid : Uid) : Prop := staffUid ≠ merchantId ∧ staffUid ≠ ""

instance (merchantId staffUid : Uid) :
    Decidable (StaffMember merchantId staffUid) :=
  inferInstanceAs (Decidable (_ ∧ _))

def Device.IsOf (device : Device) (merchantId staffUid : Uid) : Prop :=
  device.uid = merchantId ∧ device.staffUid = some staffUid

instance (device : Device) (merchantId staffUid : Uid) :
    Decidable (device.IsOf merchantId staffUid) :=
  inferInstanceAs (Decidable (_ ∧ _))

def SingleActive (merchantId staffUid : Uid) (devices : List Device) :
    Prop :=
  ∀ first ∈ devices, ∀ second ∈ devices,
    first.IsOf merchantId staffUid → second.IsOf merchantId staffUid →
    first.Authorized → second.Authorized → first = second

instance (merchantId staffUid : Uid) (devices : List Device) :
    Decidable (SingleActive merchantId staffUid devices) :=
  inferInstanceAs (Decidable (∀ first ∈ devices, ∀ second ∈ devices, _))

/-! ## What no write changes -/

/-- What a row keeps for as long as it exists. -/
structure Identity where
  _id : ObjectId
  uid : Uid
  staffUid : Option Uid
  fcmToken : String

def Device.identity (device : Device) : Identity where
  _id := device._id
  uid := device.uid
  staffUid := device.staffUid
  fcmToken := device.fcmToken

def Keeps (change : Device → Device) : Prop := ∀ device, (change device).identity = device.identity

/-- Every row has an id of its own, and a merchant has a token once. -/
structure Indexed (devices : List Device) : Prop where
  ids : (devices.map (·._id)).Nodup
  tokens : (devices.map fun device =>
    (device.uid, device.fcmToken)).Nodup

instance (devices : List Device) : Decidable (Indexed devices) :=
  decidable_of_iff
    ((devices.map (·._id)).Nodup ∧ (devices.map fun device => (device.uid, device.fcmToken)).Nodup)
    ⟨fun holds => ⟨holds.1, holds.2⟩, fun holds => ⟨holds.1, holds.2⟩⟩

namespace Indexed

variable {devices : List Device}

theorem eq_of_id (indexed : Indexed devices) {first second : Device}
    (stored : first ∈ devices) (stored' : second ∈ devices)
    (same : first._id = second._id) :
    first = second :=
  List.inj_on_of_nodup_map indexed.ids stored stored' same

theorem eq_of_token (indexed : Indexed devices) {first second : Device}
    (stored : first ∈ devices) (stored' : second ∈ devices)
    (owner : first.uid = second.uid)
    (same : first.fcmToken = second.fcmToken) :
    first = second :=
  List.inj_on_of_nodup_map indexed.tokens stored stored' (Prod.ext owner same)

theorem map (indexed : Indexed devices) {change : Device → Device}
    (keeps : Keeps change) : Indexed (devices.map change) := by
  have ids : (·._id) ∘ change = (·._id) := by
    funext device
    exact congrArg Identity._id (keeps device)
  have tokens : (fun device => (device.uid, device.fcmToken)) ∘ change =
      fun device => (device.uid, device.fcmToken) := by
    funext device
    exact congrArg (fun identity => (identity.uid, identity.fcmToken)) (keeps device)
  constructor
  · rw [List.map_map, ids]
    exact indexed.ids
  · rw [List.map_map, tokens]
    exact indexed.tokens

theorem filter (indexed : Indexed devices) (kept : Device → Bool) :
    Indexed (devices.filter kept) where
  ids := indexed.ids.sublist (List.filter_sublist.map _)
  tokens := indexed.tokens.sublist (List.filter_sublist.map _)

theorem insert (indexed : Indexed devices) {device : Device}
    (newId : ∀ row ∈ devices, row._id ≠ device._id)
    (newToken : findByToken device.uid device.fcmToken devices = none) :
    Indexed (devices ++ [device]) := by
  have free : ∀ row ∈ devices, (row.uid, row.fcmToken) ≠ (device.uid, device.fcmToken) := by
    intro row stored same
    have missed := List.find?_eq_none.mp newToken row stored
    rw [Prod.mk.injEq] at same
    simp [same.1, same.2] at missed
  constructor
  · rw [List.map_append]
    refine List.nodup_append.mpr ⟨indexed.ids, by simp, ?_⟩
    simpa using newId
  · rw [List.map_append]
    refine List.nodup_append.mpr ⟨indexed.tokens, by simp, ?_⟩
    simpa using free

end Indexed

def Operation.change : Operation → Device → Device
  | .owner .block => Device.blocked
  | .claim _ => Device.claimed
  | .owner _ => Device.approved

theorem Operation.change_keeps (operation : Operation) : Keeps operation.change := by
  intro device
  rcases operation with (_ | _ | _ | _ | _) | _ <;> rfl

theorem updateById_keeps {change : Device → Device} (keeps : Keeps change)
    (id : ObjectId) :
    Keeps fun device => if device._id = id then change device else device := by
  intro device
  dsimp only
  split
  · exact keeps device
  · rfl

theorem Claimant.supersede_keeps (claimant : Claimant) : Keeps fun device =>
      if claimant.isSibling device then device.superseded else device := by
  intro device
  dsimp only
  split <;> rfl

def Operation.deletes : Operation → Bool
  | .owner .disapprove => true
  | .owner .delete => true
  | _ => false

theorem Operation.apply_eq (operation : Operation) (id : ObjectId)
    (devices : List Device) :
    operation.deletes = false ∧
        operation.apply id devices = updateById id operation.change devices ∨
      operation.apply id devices = deleteById id devices := by
  rcases operation with (_ | _ | _ | _ | _) | _
  case owner.disapprove => exact .inr rfl
  case owner.delete => exact .inr rfl
  all_goals exact .inl ⟨rfl, rfl⟩

variable {devices : List Device}

theorem Indexed.apply (indexed : Indexed devices) (operation : Operation)
    (id : ObjectId) :
    Indexed (operation.apply id devices) := by
  rcases operation.apply_eq id devices with ⟨_, updates⟩ | deletes
  · rw [updates]
    exact indexed.map (updateById_keeps operation.change_keeps id)
  · rw [deletes]
    exact indexed.filter _

theorem mem_apply {operation : Operation} {id : ObjectId} {row : Device}
    (stored : row ∈ operation.apply id devices) :
    row ∈ devices ∧ row._id ≠ id ∨
      operation.deletes = false ∧ ∃ old ∈ devices, old._id = id ∧ row = operation.change old := by
  rcases operation.apply_eq id devices with ⟨writes, updates⟩ | deletes
  · rw [updates] at stored
    obtain ⟨old, stored', rfl⟩ := List.mem_map.mp stored
    by_cases same : old._id = id
    · exact .inr ⟨writes, old, stored', same, if_pos same⟩
    · rw [if_neg same]
      exact .inl ⟨stored', same⟩
  · rw [deletes] at stored
    have left := List.mem_filter.mp stored
    exact .inl ⟨left.1, by simpa using left.2⟩

/--
The collection is indexed, and a call that is about to write knows the identity
of the row it will write.
-/
structure Sound (state : State) : Prop where
  indexed : Indexed state.devices
  drawn : ∀ device ∈ state.devices, device._id ∈ state.drawn
  known : ∀ (index : ℕ) (operation : Operation) (device : Device),
    state.calls[index]? = some (.write operation device) →
    device._id ∈ state.drawn ∧
      ∀ row ∈ state.devices, row._id = device._id → row.identity = device.identity

theorem Sound.start (indexed : Indexed devices) : Sound (.start devices) where
  indexed := indexed
  drawn _ stored := List.mem_map_of_mem stored
  known index _ _ waits := by simp [State.start] at waits

def Call.writes : Call → Bool
  | .write _ _ => true
  | _ => false

theorem Sound.moved {state after : State} (sound : Sound state)
    {index : ℕ} {next : Call} (moves : next.writes = false)
    (calls : after.calls = state.calls.set index next)
    (drawn : ∀ id ∈ state.drawn, id ∈ after.drawn)
    (indexed : Indexed after.devices)
    (rows : ∀ row ∈ after.devices,
      (∃ old ∈ state.devices, old.identity = row.identity) ∨
        row._id ∉ state.drawn ∧ row._id ∈ after.drawn) :
    Sound after where
  indexed := indexed
  drawn row stored := by
    rcases rows row stored with ⟨old, stored', same⟩ | ⟨_, new⟩
    · have sameId : old._id = row._id := congrArg Identity._id same
      exact drawn _ (sameId ▸ sound.drawn old stored')
    · exact new
  known place operation device waits := by
    rw [calls, List.getElem?_set] at waits
    split at waits
    · next here =>
      split at waits
      · cases waits
        cases moves
      · cases waits
    · obtain ⟨used, agrees⟩ := sound.known place operation device waits
      refine ⟨drawn _ used, ?_⟩
      intro row stored named
      rcases rows row stored with ⟨old, stored', same⟩ | ⟨new, _⟩
      · have sameId : old._id = row._id := congrArg Identity._id same
        rw [← same]
        exact agrees old stored' (sameId.trans named)
      · rw [named] at new
        exact absurd used new

theorem Sound.began {state : State} (sound : Sound state) {call : Call}
    (opened : Opens state call) : Sound (state.begin call) where
  indexed := sound.indexed
  drawn := sound.drawn
  known index operation device waits := by
    have waits' : (state.calls ++ [call])[index]? = some (.write operation device) := waits
    rw [List.getElem?_append] at waits'
    split at waits'
    · exact sound.known index operation device waits'
    · have isIt : call = .write operation device := by
        have member := List.mem_of_getElem? waits'
        exact (List.mem_singleton.mp member).symm
      subst isIt
      cases opened with
      | write _ _ stored =>
        refine ⟨sound.drawn device stored, ?_⟩
        intro row stored' named
        rw [sound.indexed.eq_of_id stored' stored named]

theorem identity_of_apply {operation : Operation} {id : ObjectId} {row : Device}
    (stored : row ∈ operation.apply id devices) :
    ∃ old ∈ devices, old.identity = row.identity := by
  rcases mem_apply stored with ⟨stored', _⟩ | ⟨_, old, stored', _, rfl⟩
  · exact ⟨row, stored', rfl⟩
  · exact ⟨old, stored', (operation.change_keeps old).symm⟩

theorem Sound.stepped {state after : State} {action : Action}
    (sound : Sound state) (stepped : Stepped state action after) :
    Sound after := by
  have same : ∀ row ∈ state.devices,
      (∃ old ∈ state.devices, old.identity = row.identity) ∨
        row._id ∉ state.drawn ∧ row._id ∈ state.drawn :=
    fun row stored => .inl ⟨row, stored, rfl⟩
  cases stepped with
  | began opened => exact sound.began opened
  | @saved index newId input actor waits undrawn unregistered =>
    refine sound.moved rfl rfl (fun id used => List.mem_cons_of_mem _ used)
      (sound.indexed.insert ?_ unregistered) ?_
    · intro row stored named
      have drawn := sound.drawn row stored
      rw [named] at drawn
      exact undrawn drawn
    · intro row stored
      rcases List.mem_append.mp stored with stored' | isIt
      · exact .inl ⟨row, stored', rfl⟩
      · rw [List.mem_singleton.mp isIt]
        exact .inr ⟨undrawn, List.mem_cons_self⟩
  | refused | alone | found | looked | kept =>
    exact sound.moved rfl rfl (fun _ => id) sound.indexed same
  | wrote waits =>
    exact sound.moved rfl rfl (fun _ => id) (sound.indexed.apply _ _)
      fun row stored => .inl (identity_of_apply stored)
  | @forgot index newId merchantId fcmToken next waits =>
    refine sound.moved ?_ rfl (fun _ => id) sound.indexed same
    cases next <;> rfl
  | @retired index newId claimant siblings waits =>
    refine sound.moved rfl rfl (fun _ => id) (sound.indexed.map claimant.supersede_keeps) ?_
    intro row stored
    obtain ⟨old, stored', rfl⟩ := List.mem_map.mp stored
    exact .inl ⟨old, stored', (claimant.supersede_keeps old).symm⟩
  | cleared waits pending =>
    refine sound.moved ?_ rfl (fun _ => id) sound.indexed same
    split <;> rfl

/-! ## A contest is settled by a call in progress -/

def Call.claimant : Call → Option Claimant
  | .forget _ _ next => next
  | .supersede claimant => some claimant
  | .retire claimant _ => some claimant
  | _ => none

def Settling (merchantId staffUid : Uid) (calls : List Call)
    (first second : Device) : Prop :=
  ∃ (index : ℕ) (call : Call) (fcmToken : String),
    calls[index]? = some call ∧
      call.claimant = some { merchantId, staffUid, fcmToken } ∧
      (fcmToken = first.fcmToken ∨ fcmToken = second.fcmToken)

def Contested (merchantId staffUid : Uid) (state : State) : Prop :=
  ∀ first ∈ state.devices, ∀ second ∈ state.devices, first ≠ second →
    first.IsOf merchantId staffUid → second.IsOf merchantId staffUid →
    first.Authorized → second.Authorized →
    Settling merchantId staffUid state.calls first second

namespace Settling

variable {merchantId staffUid : Uid} {calls : List Call} {first second : Device}

theorem begin (settling : Settling merchantId staffUid calls first second)
    (call : Call) :
    Settling merchantId staffUid (calls ++ [call]) first second := by
  obtain ⟨index, settler, fcmToken, waits, claims, names⟩ := settling
  have inside : index < calls.length := (List.getElem?_eq_some_iff.mp waits).1
  exact ⟨index, settler, fcmToken, (List.getElem?_append_left inside).trans waits, claims, names⟩

theorem set (settling : Settling merchantId staffUid calls first second)
    {index : ℕ} {call next : Call} (waits : calls[index]? = some call)
    (keeps : ∀ fcmToken,
      call.claimant = some { merchantId, staffUid, fcmToken } →
      fcmToken = first.fcmToken ∨ fcmToken = second.fcmToken →
      next.claimant = some { merchantId, staffUid, fcmToken }) :
    Settling merchantId staffUid (calls.set index next) first second := by
  obtain ⟨place, settler, fcmToken, waits', claims, names⟩ := settling
  by_cases here : place = index
  · subst here
    rw [waits] at waits'
    cases waits'
    have inside : place < calls.length := (List.getElem?_eq_some_iff.mp waits).1
    exact ⟨place, next, fcmToken, by simp [inside], keeps fcmToken claims names, names⟩
  · refine ⟨place, settler, fcmToken, ?_, claims, names⟩
    rw [List.getElem?_set_ne (Ne.symm here)]
    exact waits'

theorem comm (settling : Settling merchantId staffUid calls first second) :
    Settling merchantId staffUid calls second first := by
  obtain ⟨index, call, fcmToken, waits, claims, names⟩ := settling
  exact ⟨index, call, fcmToken, waits, claims, names.symm⟩

end Settling

variable {merchantId staffUid : Uid} {state : State} {device : Device}
  {operation : Operation} {index : ℕ} {devices : List Device}

theorem isSibling_of_authorized {fcmToken : String}
    (owned : device.IsOf merchantId staffUid) (authorized : device.Authorized)
    (other : device.fcmToken ≠ fcmToken) :
    Claimant.isSibling { merchantId, staffUid, fcmToken } device := by
  simp [Claimant.isSibling, owned.1, owned.2, other, authorized.2]

def Unrivalled (device : Device) (devices : List Device) : Prop :=
  ∀ other ∈ devices, other._id ≠ device._id → other.uid = device.uid →
    other.staffUid = device.staffUid → ¬ other.Authorized

instance (device : Device) (devices : List Device) :
    Decidable (Unrivalled device devices) :=
  inferInstanceAs (Decidable (∀ other ∈ devices, _))

def Device.ofStaff (device : Device) : Bool :=
  device.staffUid.any fun staffUid =>
    decide (StaffMember device.uid staffUid)

def unblocks (state : State) : Action → Option Device
  | .proceed index _ =>
    match state.calls[index]? with
    | some (.write (.owner .unblock) device) => some device
    | _ => none
  | _ => none

/--
A device of a staff member is unblocked only while no other device of that staff
member is authorized.
-/
def UnblocksAlone (state : State) (action : Action) : Prop :=
  ∀ device ∈ unblocks state action, device.ofStaff → Unrivalled device state.devices

instance (state : State) (action : Action) :
    Decidable (UnblocksAlone state action) :=
  match unblocked : unblocks state action with
  | none => isTrue (by simp [UnblocksAlone, unblocked])
  | some device =>
    decidable_of_iff
      (device.ofStaff → Unrivalled device state.devices)
      (by simp [UnblocksAlone, unblocked])

theorem gives_session {old : Device} (writes : operation.deletes = false)
    (authorized : (operation.change old).Authorized) :
    operation = .owner .unblock ∨ operation = .owner .approve ∨
      ∃ actorUid, operation = .claim actorUid := by
  rcases operation with (_ | _ | _ | _ | _) | actorUid
  case owner.approve => exact .inr (.inl rfl)
  case owner.disapprove => cases writes
  case owner.block =>
    exact absurd authorized.1 (by simp [Operation.change, Device.blocked])
  case owner.unblock => exact .inl rfl
  case owner.delete => cases writes
  case claim => exact .inr (.inr ⟨actorUid, rfl⟩)

theorem claimant_of_gives (member : StaffMember merchantId staffUid)
    (owned : device.IsOf merchantId staffUid)
    (gives : operation = .owner .approve ∨ ∃ actorUid, operation = .claim actorUid) :
    operation.claimant device = some { merchantId, staffUid, fcmToken := device.fcmToken } := by
  obtain ⟨rfl, named⟩ := owned
  rcases gives with rfl | ⟨actorUid, rfl⟩
  · simp [Operation.claimant, named, member.2]
  · simp [Operation.claimant, named]

theorem ofStaff_of_isOf (member : StaffMember merchantId staffUid)
    (owned : device.IsOf merchantId staffUid) : device.ofStaff := by
  obtain ⟨rfl, named⟩ := owned
  simp [Device.ofStaff, named, member]

theorem Settling.written (member : StaffMember merchantId staffUid)
    (sound : Sound state)
    (waits : state.calls[index]? = some (.write operation device))
    (alone : operation = .owner .unblock → device.ofStaff →
      Unrivalled device state.devices) {old other : Device}
    (writes : operation.deletes = false) (stored : old ∈ state.devices)
    (named : old._id = device._id) (stored' : other ∈ state.devices)
    (apart : other._id ≠ device._id)
    (owned : (operation.change old).IsOf merchantId staffUid)
    (owned' : other.IsOf merchantId staffUid)
    (authorized : (operation.change old).Authorized)
    (authorized' : other.Authorized) :
    Settling merchantId staffUid
      (state.calls.set index (.forget device.uid device.fcmToken (operation.claimant device)))
      (operation.change old) other := by
  have same : (operation.change old).identity = device.identity :=
    (operation.change_keeps old).trans
      ((sound.known index operation device waits).2 old stored named)
  have uid : (operation.change old).uid = device.uid := congrArg Identity.uid same
  have staff : (operation.change old).staffUid = device.staffUid := congrArg Identity.staffUid same
  have token : (operation.change old).fcmToken = device.fcmToken := congrArg Identity.fcmToken same
  have device_owned : device.IsOf merchantId staffUid := ⟨uid ▸ owned.1, staff ▸ owned.2⟩
  rcases gives_session writes authorized with unblocks | gives
  · have rivals :=
      alone unblocks (ofStaff_of_isOf member device_owned) other stored'
        apart (owned'.1.trans device_owned.1.symm)
        (owned'.2.trans device_owned.2.symm)
    exact absurd authorized' rivals
  · have inside : index < state.calls.length := (List.getElem?_eq_some_iff.mp waits).1
    exact ⟨index, _, device.fcmToken, List.getElem?_set_self inside,
      claimant_of_gives member device_owned gives, .inl token.symm⟩

theorem Contested.wrote (member : StaffMember merchantId staffUid)
    (sound : Sound state) (contested : Contested merchantId staffUid state)
    (waits : state.calls[index]? = some (.write operation device))
    (alone : operation = .owner .unblock → device.ofStaff → Unrivalled device state.devices) :
    Contested merchantId staffUid
      { devices := operation.apply device._id state.devices
        cache := state.cache
        calls := state.calls.set index
          (.forget device.uid device.fcmToken (operation.claimant device))
        drawn := state.drawn } := by
  intro first stored second stored' differ owned owned' authorized authorized'
  rcases mem_apply stored with ⟨held, apart⟩ | ⟨writes, old, held, named, rfl⟩
  · rcases mem_apply stored' with ⟨held', apart'⟩ | ⟨writes', old', held', named', rfl⟩
    · refine (contested first held second held' differ owned owned'
        authorized authorized').set waits ?_
      intro fcmToken claims
      cases claims
    · exact (Settling.written member sound waits alone writes' held' named'
        held apart owned' owned authorized' authorized).comm
  · rcases mem_apply stored' with ⟨held', apart'⟩ | ⟨writes', old', held', named', rfl⟩
    · exact Settling.written member sound waits alone writes held named held'
        apart' owned owned' authorized authorized'
    · have same := sound.indexed.eq_of_id held held' (named.trans named'.symm)
      exact absurd (congrArg operation.change same) differ

theorem sibling_of_contest (indexed : Indexed devices) {fcmToken : String}
    {first second : Device} (stored : first ∈ devices)
    (stored' : second ∈ devices) (differ : first ≠ second)
    (owned : first.IsOf merchantId staffUid)
    (owned' : second.IsOf merchantId staffUid) (authorized : first.Authorized)
    (authorized' : second.Authorized)
    (names : fcmToken = first.fcmToken ∨ fcmToken = second.fcmToken) :
    Claimant.isSibling { merchantId, staffUid, fcmToken } first ∨
      Claimant.isSibling { merchantId, staffUid, fcmToken } second := by
  have tokens : first.fcmToken ≠ second.fcmToken := fun same =>
    differ (indexed.eq_of_token stored stored' (owned.1.trans owned'.1.symm) same)
  rcases names with rfl | rfl
  · exact .inr (isSibling_of_authorized owned' authorized' (Ne.symm tokens))
  · exact .inl (isSibling_of_authorized owned authorized tokens)

theorem Contested.moved {after : State}
    (contested : Contested merchantId staffUid state) {call next : Call}
    (waits : state.calls[index]? = some call)
    (devices : after.devices = state.devices)
    (calls : after.calls = state.calls.set index next)
    (keeps : ∀ claimant, call.claimant = some claimant → next.claimant = some claimant) :
    Contested merchantId staffUid after := by
  intro first stored second stored' differ owned owned' authorized authorized'
  rw [devices] at stored stored'
  rw [calls]
  exact (contested first stored second stored' differ owned owned'
    authorized authorized').set waits fun _ claims _ => keeps _ claims

theorem newDevice_not_contested (member : StaffMember merchantId staffUid)
    {newId : ObjectId} {input : CreateDeviceInput} {actor : Users.User}
    (owned : (newDevice newId input actor).IsOf merchantId staffUid)
    (authorized : (newDevice newId input actor).Authorized) : False := by
  have approved : actor.isStaff = false := by
    have status := authorized.1
    by_contra staff
    rw [Bool.not_eq_false] at staff
    simp [newDevice, staff] at status
  have self : actor.merchant = actor._id := by
    simpa [Users.User.isStaff] using approved
  have named : actor._id = staffUid := Option.some.inj owned.2
  exact member.1 (named.symm.trans (self.symm.trans owned.1))

theorem Contested.stepped (member : StaffMember merchantId staffUid)
    {after : State} {action : Action} (sound : Sound state)
    (contested : Contested merchantId staffUid state)
    (alone : UnblocksAlone state action) (stepped : Stepped state action after) :
    Contested merchantId staffUid after := by
  cases stepped with
  | began opened =>
    intro first stored second stored' differ owned owned' authorized authorized'
    exact (contested first stored second stored' differ owned owned' authorized authorized').begin _
  | @saved index newId input actor waits undrawn unregistered =>
    intro first stored second stored' differ owned owned' authorized authorized'
    have old : ∀ row ∈ state.devices ++ [newDevice newId input actor],
        row.IsOf merchantId staffUid → row.Authorized →
        row ∈ state.devices := by
      intro row held isOf authorized
      rcases List.mem_append.mp held with held' | isIt
      · exact held'
      · rw [List.mem_singleton.mp isIt] at isOf authorized
        exact (newDevice_not_contested member isOf authorized).elim
    refine (contested first (old first stored owned authorized) second
      (old second stored' owned' authorized') differ owned owned'
      authorized authorized').set waits ?_
    intro fcmToken claims
    cases claims
  | refused waits | looked waits | kept waits | cleared waits => exact contested.moved waits rfl rfl nofun
  | wrote waits =>
    refine contested.wrote member sound waits ?_
    rintro rfl
    exact alone _ (by simp [unblocks, waits])
  | @forgot index newId merchantId fcmToken next waits =>
    refine contested.moved waits rfl rfl ?_
    intro claimant claims
    cases claims
    rfl
  | alone waits none =>
    intro first stored second stored' differ owned owned' authorized authorized'
    have settling := contested first stored second stored' differ owned
      owned' authorized authorized'
    refine settling.set waits ?_
    intro fcmToken claims names
    cases claims
    have nobody := List.filter_eq_nil_iff.mp none
    rcases sibling_of_contest sound.indexed stored stored' differ owned
        owned' authorized authorized' names with sibling | sibling
    · exact absurd sibling (nobody first stored)
    · exact absurd sibling (nobody second stored')
  | found waits => exact contested.moved waits rfl rfl fun _ => id
  | @retired index newId claimant siblings waits =>
    intro first stored second stored' differ owned owned' authorized authorized'
    have left : ∀ row ∈ claimant.supersede state.devices,
        row.Authorized →
        row ∈ state.devices ∧ ¬ claimant.isSibling row := by
      intro row held authorized
      obtain ⟨old, held', rfl⟩ := List.mem_map.mp held
      by_cases sibling : claimant.isSibling old
      · rw [if_pos sibling] at authorized
        exact absurd rfl authorized.2
      · rw [if_neg sibling]
        exact ⟨held', sibling⟩
    obtain ⟨held, kept⟩ := left first stored authorized
    obtain ⟨held', kept'⟩ := left second stored' authorized'
    refine (contested first held second held' differ owned owned'
      authorized authorized').set waits ?_
    intro fcmToken claims names
    cases claims
    rcases sibling_of_contest sound.indexed held held' differ owned owned'
        authorized authorized' names with sibling | sibling
    · exact absurd sibling kept
    · exact absurd sibling kept'

theorem Contested.quiescent (contested : Contested merchantId staffUid state)
    (quiescent : state.Quiescent) :
    SingleActive merchantId staffUid state.devices := by
  intro first stored second stored' owned owned' authorized authorized'
  by_contra differ
  obtain ⟨index, call, fcmToken, waits, claims, _⟩ :=
    contested first stored second stored' differ owned owned' authorized authorized'
  have returned := quiescent call (List.mem_of_getElem? waits)
  cases call with
  | resolved | done => cases claims
  | _ => cases returned

theorem Contested.start (single : SingleActive merchantId staffUid devices) :
    Contested merchantId staffUid (.start devices) := by
  intro first stored second stored' differ owned owned' authorized authorized'
  exact absurd
    (single first stored second stored' owned owned' authorized authorized')
    differ

theorem sound_of_reaches {branches : Collection Branch}
    {admissible : State → Action → Prop} (indexed : Indexed devices)
    (reached : (deviceSystem branches).Reaches admissible (.start devices) state) :
    Sound state :=
  reached.invariant Sound (Sound.start indexed)
    fun _ _ _ sound _ stepped => sound.stepped (step_cases stepped)

/--
Whenever no call is in progress, a staff member has at most one authorized
device, provided that devices are unblocked only while the staff member has no
other authorized device.
-/
theorem singleActive_of_reaches {branches : Collection Branch}
    {merchantId staffUid : Uid} (member : StaffMember merchantId staffUid)
    {devices : List Device} (indexed : Indexed devices)
    (single : SingleActive merchantId staffUid devices) {state : State}
    (reached : (deviceSystem branches).Reaches UnblocksAlone (.start devices) state)
    (quiescent : state.Quiescent) :
    SingleActive merchantId staffUid state.devices := by
  have contested : Contested merchantId staffUid state :=
    reached.layered Sound (Contested merchantId staffUid)
      (fun _ earlier => sound_of_reaches indexed earlier)
      (Contested.start single)
      fun _ _ _ sound contested alone stepped =>
        contested.stepped member sound alone (step_cases stepped)
  exact contested.quiescent quiescent

namespace Shop

def branches : Collection Branch :=
  (∅ : Collection Branch).insert "branch"
    { uid := "owner"
      branchName := "Makati"
      isActive := true
      isOnline := true
      allowsPayAtHandover := none }

def staff : Users.User where
  _id := "staff"
  role := some { roleId := "staff" }
  isActive := true
  merchantId := some "owner"
  branchIds := ["branch"]
  selfieStatus := none
  washerStatus := none
  sessionsValidAfter := none
  accountStatus := some .ACTIVE

def hired : List Action :=
  [.register { fcmToken := "phone-token", branchId := "branch" } staff,
    .proceed 0 "phone", .proceed 0 "",
    .own .approve "phone" "owner", .proceed 1 "", .proceed 1 "",
    .proceed 1 ""]

def exchange : List Action :=
  hired ++
    [.register { fcmToken := "tablet-token", branchId := "branch" } staff,
      .proceed 2 "tablet", .proceed 2 "",
      .own .block "phone" "owner", .proceed 3 "", .proceed 3 "",
      .own .approve "tablet" "owner", .proceed 4 "", .proceed 4 "",
      .proceed 4 "", .proceed 4 "", .clear 4 "phone-token"]

def unblocked : List Action :=
  exchange ++ [.own .unblock "phone" "owner", .proceed 5 "", .proceed 5 ""]

end Shop

/--
The phone is blocked, the tablet approved, and the phone unblocked: both are
authorized, and no call is in progress.
-/
theorem not_singleActive :
    ∃ state, (deviceSystem Shop.branches).Reaches (fun _ _ => True)
        (.start []) state ∧
      state.Quiescent ∧ StaffMember "owner" "staff" ∧
      ¬ SingleActive "owner" "staff" state.devices := by
  have performed : (((deviceSystem Shop.branches).perform Shop.unblocked
      (.start [])).map fun state =>
        decide (state.Quiescent ∧ ¬ SingleActive "owner" "staff" state.devices)) = some true := by
    decide +kernel
  obtain ⟨state, ran, holds⟩ := Option.map_eq_some_iff.mp performed
  obtain ⟨quiescent, twice⟩ := of_decide_eq_true holds
  exact ⟨state, System.reaches_of_perform ran, quiescent, by decide, twice⟩

/-- After the exchange the staff member has the tablet only. -/
theorem singleActive_exchange :
    ∃ state, (deviceSystem Shop.branches).Reaches UnblocksAlone
        (.start []) state ∧
      state.Quiescent ∧ SingleActive "owner" "staff" state.devices := by
  have performed : ((((deviceSystem Shop.branches).restrict
      UnblocksAlone).perform Shop.exchange (.start [])).map fun state =>
        decide state.Quiescent) = some true := by
    decide +kernel
  obtain ⟨state, ran, holds⟩ := Option.map_eq_some_iff.mp performed
  have reached := System.reaches_of_perform_restrict ran
  have quiescent := of_decide_eq_true holds
  exact ⟨state, reached, quiescent,
    singleActive_of_reaches (by decide) (by decide) (by decide) reached quiescent⟩

end Lalaba.Devices
