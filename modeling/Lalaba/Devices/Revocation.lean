import Lalaba.Devices.Sessions

/-!
# A revoked device stays out

Whoever revokes a device writes its row first and then deletes the cached verdict
on its token.  A request that has read the row before can still put its verdict
into the cache after that.  Without such a request, and without an approval, a
claim or a registration of the token, the verdict on it stays negative.
-/

namespace Lalaba.Devices

open Foundation

def Barred (merchantId : Uid) (fcmToken : String) (devices : List Device) :
    Prop :=
  ∀ row ∈ devices, row.uid = merchantId → row.fcmToken = fcmToken → row.letsIn = false

variable {merchantId : Uid} {fcmToken : String} {devices : List Device} {state : State}

theorem deviceAuth_authorized :
    (deviceAuth merchantId fcmToken devices).authorized = true ↔
      ∃ row, findByToken merchantId fcmToken devices = some row ∧ row.letsIn = true := by
  rw [deviceAuth]
  constructor
  · intro authorized
    rcases let_in : (findByToken merchantId fcmToken devices).filter Device.letsIn with _ | row
    · rw [let_in] at authorized
      cases authorized
    · exact ⟨row, Option.filter_eq_some_iff.mp let_in⟩
  · rintro ⟨row, found, letsIn⟩
    have let_in : (findByToken merchantId fcmToken devices).filter
        Device.letsIn = some row :=
      Option.filter_eq_some_iff.mpr ⟨found, letsIn⟩
    rw [let_in]

theorem Barred.deviceAuth (barred : Barred merchantId fcmToken devices) :
    (deviceAuth merchantId fcmToken devices).authorized = false := by
  by_contra authorized
  rw [Bool.not_eq_false, deviceAuth_authorized] at authorized
  obtain ⟨row, found, letsIn⟩ := authorized
  obtain ⟨stored, owned, named⟩ := mem_of_findByToken found
  rw [barred row stored owned named] at letsIn
  cases letsIn

theorem barred_of_deviceAuth (indexed : Indexed devices)
    (negative : (deviceAuth merchantId fcmToken devices).authorized = false) :
    Barred merchantId fcmToken devices := by
  intro row stored owned named
  by_contra letsIn
  rw [Bool.not_eq_false] at letsIn
  rcases found : findByToken merchantId fcmToken devices with _ | first
  · have missed := List.find?_eq_none.mp found row stored
    simp [owned, named] at missed
  · obtain ⟨stored', owned', named'⟩ := mem_of_findByToken found
    have same := indexed.eq_of_token stored' stored
      (owned'.trans owned.symm) (named'.trans named.symm)
    subst same
    have positive : (Devices.deviceAuth merchantId fcmToken
        devices).authorized = true :=
      deviceAuth_authorized.mpr ⟨first, found, letsIn⟩
    rw [negative] at positive
    cases positive

/-! ## Steps -/

def Operation.enables : Operation → Bool
  | .owner .approve => true
  | .owner .unblock => true
  | .claim _ => true
  | .owner _ => false

def renews (merchantId : Uid) (fcmToken : String) (state : State) :
    Action → Bool
  | .proceed index _ =>
    match state.calls[index]? with
    | some (.register input actor) =>
      actor.merchant = merchantId ∧ input.fcmToken = fcmToken ∧
        findByToken merchantId fcmToken state.devices = none
    | some (.write operation device) =>
      operation.enables ∧ device.uid = merchantId ∧ device.fcmToken = fcmToken
    | _ => false
  | _ => false

/--
A step that caches a positive verdict for the token when its row does not give
that verdict any more.
-/
def staleVerdict (merchantId : Uid) (fcmToken : String) (state : State) :
    Action → Bool
  | .proceed index _ =>
    match state.calls[index]? with
    | some (.keep merchantId' fcmToken' result) =>
      deviceAuthCacheKey merchantId' fcmToken' =
          deviceAuthCacheKey merchantId fcmToken ∧
        result.authorized = true ∧
        (deviceAuth merchantId fcmToken state.devices).authorized = false
    | _ => false
  | _ => false

def Clearing (merchantId : Uid) (fcmToken : String) (index : ℕ)
    (state : State) : Prop :=
  (∃ next, state.calls[index]? = some (.forget merchantId fcmToken next)) ∨
    ∃ fcmTokens, state.calls[index]? = some (.sweep merchantId fcmTokens) ∧ fcmToken ∈ fcmTokens

instance (merchantId : Uid) (fcmToken : String) (index : ℕ)
    (state : State) :
    Decidable (Clearing merchantId fcmToken index state) :=
  match waits : state.calls[index]? with
  | some (.forget merchantId' fcmToken' _) =>
    decidable_of_iff (merchantId' = merchantId ∧ fcmToken' = fcmToken) (by simp [Clearing, waits])
  | some (.sweep merchantId' fcmTokens) =>
    decidable_of_iff (merchantId' = merchantId ∧ fcmToken ∈ fcmTokens) (by simp [Clearing, waits])
  | some (.register _ _) => isFalse (by simp [Clearing, waits])
  | some (.write _ _) => isFalse (by simp [Clearing, waits])
  | some (.supersede _) => isFalse (by simp [Clearing, waits])
  | some (.retire _ _) => isFalse (by simp [Clearing, waits])
  | some (.lookUp _ _) => isFalse (by simp [Clearing, waits])
  | some (.keep _ _ _) => isFalse (by simp [Clearing, waits])
  | some (.resolved _ _ _) => isFalse (by simp [Clearing, waits])
  | some .done => isFalse (by simp [Clearing, waits])
  | none => isFalse (by simp [Clearing, waits])

def Unrenewed (merchantId : Uid) (fcmToken : String) (state : State)
    (action : Action) : Prop :=
  renews merchantId fcmToken state action = false

/--
Nor does a step cache a verdict that was read before the revocation, once the
revoking call has deleted the cached one.
-/
def Undisturbed (merchantId : Uid) (fcmToken : String) (index : ℕ)
    (state : State) (action : Action) : Prop :=
  Unrenewed merchantId fcmToken state action ∧
    (Clearing merchantId fcmToken index state ∨
      staleVerdict merchantId fcmToken state action = false)

instance (merchantId : Uid) (fcmToken : String) (state : State)
    (action : Action) :
    Decidable (Unrenewed merchantId fcmToken state action) :=
  inferInstanceAs (Decidable (_ = _))

instance (merchantId : Uid) (fcmToken : String) (index : ℕ)
    (state : State) (action : Action) :
    Decidable (Undisturbed merchantId fcmToken index state action) :=
  inferInstanceAs (Decidable (_ ∧ (_ ∨ _)))

/--
The call is about to revoke the token: it blocks, disapproves or deletes its
device, or supersedes it for another one.
-/
def revokes (merchantId : Uid) (fcmToken : String) (index : ℕ)
    (state : State) : Bool :=
  match state.calls[index]? with
  | some (.write operation device) =>
    operation.enables = false ∧ device.uid = merchantId ∧ device.fcmToken = fcmToken
  | some (.retire claimant _) =>
    state.devices.any fun device =>
      claimant.isSibling device && device.uid == merchantId && device.fcmToken == fcmToken
  | _ => false

def hasFound (fcmToken : String) (index : ℕ) (state : State) : Bool :=
  match state.calls[index]? with
  | some (.retire _ siblings) => fcmToken ∈ siblings
  | _ => true

theorem enables_of_letsIn {operation : Operation} {old : Device}
    (writes : operation.deletes = false)
    (letsIn : (operation.change old).letsIn = true) :
    operation.enables = true := by
  rcases operation with (_ | _ | _ | _ | _) | _
  case owner.disapprove => cases writes
  case owner.block =>
    simp [Operation.change, Device.blocked, Device.letsIn] at letsIn
  case owner.delete => cases writes
  all_goals rfl

theorem Barred.wrote (sound : Sound state)
    (barred : Barred merchantId fcmToken state.devices) {index : ℕ}
    {operation : Operation} {device : Device}
    (waits : state.calls[index]? = some (.write operation device))
    (other : ¬ (operation.enables = true ∧ device.uid = merchantId ∧ device.fcmToken = fcmToken)) :
    Barred merchantId fcmToken (operation.apply device._id state.devices) := by
  intro row stored owned named
  rcases mem_apply stored with ⟨stored', _⟩ | ⟨writes, old, stored', isIt, rfl⟩
  · exact barred row stored' owned named
  · by_contra letsIn
    rw [Bool.not_eq_false] at letsIn
    have same : (operation.change old).identity = device.identity :=
      (operation.change_keeps old).trans
        ((sound.known index operation device waits).2 old stored' isIt)
    have uid : (operation.change old).uid = device.uid := congrArg Identity.uid same
    have token : (operation.change old).fcmToken = device.fcmToken :=
      congrArg Identity.fcmToken same
    exact other ⟨enables_of_letsIn writes letsIn, uid.symm.trans owned, token.symm.trans named⟩

theorem Barred.supersede (barred : Barred merchantId fcmToken devices)
    (claimant : Claimant) :
    Barred merchantId fcmToken (claimant.supersede devices) := by
  intro row stored owned named
  obtain ⟨old, stored', rfl⟩ := List.mem_map.mp stored
  by_cases sibling : claimant.isSibling old
  · rw [if_pos sibling]
    simp [Device.superseded, Device.letsIn]
  · rw [if_neg sibling] at owned named ⊢
    exact barred old stored' owned named

theorem Barred.stepped {after : State} {action : Action} (sound : Sound state)
    (barred : Barred merchantId fcmToken state.devices)
    (unrenewed : Unrenewed merchantId fcmToken state action)
    (stepped : Stepped state action after) :
    Barred merchantId fcmToken after.devices := by
  cases stepped with
  | @saved index newId input actor waits undrawn unregistered =>
    intro row stored owned named
    rcases List.mem_append.mp stored with stored' | isIt
    · exact barred row stored' owned named
    · rw [List.mem_singleton.mp isIt] at owned named
      have owned' : actor.merchant = merchantId := owned
      have named' : input.fcmToken = fcmToken := named
      subst owned' named'
      simp [Unrenewed, renews, waits, unregistered] at unrenewed
  | wrote waits =>
    apply barred.wrote sound waits
    intro other
    simp [Unrenewed, renews, waits, other] at unrenewed
  | @retired index newId claimant siblings waits =>
    exact barred.supersede claimant
  | _ => exact barred

/-! ## The cache is cleared and stays clear -/

def Cleared (merchantId : Uid) (fcmToken : String) (state : State) : Prop :=
  ∀ result, state.cache.lookup (deviceAuthCacheKey merchantId fcmToken) =
    some result → result.authorized = false

theorem erased {key : String} {cache : Collection DeviceAuthResult}
    (erase : String) {result : DeviceAuthResult}
    (cached : (cache.erase erase).lookup key = some result) :
    erase ≠ key ∧ cache.lookup key = some result := by
  by_cases same : key = erase
  · subst same
    rw [AList.lookup_erase] at cached
    cases cached
  · rw [AList.lookup_erase_ne same] at cached
    exact ⟨Ne.symm same, cached⟩

theorem Cleared.stepped {after : State} {action : Action}
    (barred : Barred merchantId fcmToken state.devices)
    (cleared : Cleared merchantId fcmToken state)
    (fresh : staleVerdict merchantId fcmToken state action = false)
    (stepped : Stepped state action after) :
    Cleared merchantId fcmToken after := by
  intro verdict cached
  cases stepped with
  | forgot | cleared => exact cleared verdict (erased _ cached).2
  | @kept index newId merchantId' fcmToken' result waits =>
    have cached' : (state.cache.insert
        (deviceAuthCacheKey merchantId' fcmToken') result).lookup
          (deviceAuthCacheKey merchantId fcmToken) = some verdict :=
      cached
    by_cases same : deviceAuthCacheKey merchantId fcmToken =
        deviceAuthCacheKey merchantId' fcmToken'
    · rw [same, AList.lookup_insert] at cached'
      cases cached'
      by_contra authorized
      rw [Bool.not_eq_false] at authorized
      simp [staleVerdict, waits, same, authorized, barred.deviceAuth] at fresh
    · rw [AList.lookup_insert_ne same] at cached'
      exact cleared verdict cached'
  | _ => exact cleared verdict cached

def Call.clears : Call → Bool
  | .forget _ _ _ => true
  | .sweep _ _ => true
  | _ => false

namespace Clearing

variable {merchantId : Uid} {fcmToken : String} {index : ℕ} {state after : State}

theorem clears (clearing : Clearing merchantId fcmToken index state)
    {call : Call} (waits : state.calls[index]? = some call) :
    call.clears = true := by
  rcases clearing with ⟨next, waits'⟩ | ⟨fcmTokens, waits', _⟩
  · rw [waits] at waits'
    cases waits'
    rfl
  · rw [waits] at waits'
    cases waits'
    rfl

theorem elsewhere (clearing : Clearing merchantId fcmToken index state)
    (same : after.calls[index]? = state.calls[index]?) :
    Clearing merchantId fcmToken index after := by
  rw [Clearing, same]
  exact clearing

theorem set (clearing : Clearing merchantId fcmToken index state)
    {place : ℕ} {next : Call} (other : place ≠ index)
    (calls : after.calls = state.calls.set place next) :
    Clearing merchantId fcmToken index after := by
  apply clearing.elsewhere
  rw [calls, List.getElem?_set_ne other]

theorem moved (clearing : Clearing merchantId fcmToken index state)
    {place : ℕ} {call next : Call}
    (waits : state.calls[place]? = some call)
    (idle : call.clears = false)
    (calls : after.calls = state.calls.set place next) :
    Clearing merchantId fcmToken index after := by
  refine clearing.set ?_ calls
  rintro rfl
  have clears := clearing.clears waits
  rw [idle] at clears
  cases clears

theorem begin (clearing : Clearing merchantId fcmToken index state)
    (call : Call) :
    Clearing merchantId fcmToken index (state.begin call) := by
  have inside : index < state.calls.length := by
    rcases clearing with ⟨next, waits⟩ | ⟨fcmTokens, waits, _⟩
    · exact (List.getElem?_eq_some_iff.mp waits).1
    · exact (List.getElem?_eq_some_iff.mp waits).1
  exact clearing.elsewhere (List.getElem?_append_left inside)

/-- The revoking call deletes the entry, or still has to. -/
theorem stepped (clearing : Clearing merchantId fcmToken index state)
    {action : Action} (stepped : Stepped state action after) :
    Clearing merchantId fcmToken index after ∨
      Cleared merchantId fcmToken after := by
  cases stepped with
  | began opened => exact .inl (clearing.begin _)
  | @forgot place newId merchantId' fcmToken' next waits =>
    by_cases here : place = index
    · subst here
      right
      intro result cached
      rcases clearing with ⟨next', waits'⟩ | ⟨fcmTokens, waits', _⟩
      · rw [waits] at waits'
        cases waits'
        exact absurd rfl (erased _ cached).1
      · rw [waits] at waits'
        cases waits'
    · exact .inl (clearing.set here rfl)
  | @cleared place merchantId' fcmToken' fcmTokens waits pending =>
    by_cases here : place = index
    · subst here
      rcases clearing with ⟨next', waits'⟩ | ⟨fcmTokens', waits', listed⟩
      · rw [waits] at waits'
        cases waits'
      · rw [waits] at waits'
        cases waits'
        by_cases same : fcmToken' = fcmToken
        · subst same
          right
          intro result cached
          exact absurd rfl (erased _ cached).1
        · have left : fcmToken ∈ fcmTokens.erase fcmToken' :=
            (List.mem_erase_of_ne (Ne.symm same)).mpr listed
          have some_left : fcmTokens.erase fcmToken' ≠ [] := List.ne_nil_of_mem left
          have inside : place < state.calls.length := (List.getElem?_eq_some_iff.mp waits).1
          refine .inl (.inr ⟨_, ?_, left⟩)
          simp [inside, some_left]
    · exact .inl (clearing.set here rfl)
  | saved waits | refused waits | wrote waits | alone waits | found waits
  | retired waits | looked waits | kept waits => exact .inl (clearing.moved waits rfl rfl)

end Clearing

/-- What holds from the revoking write on. -/
structure Revoked (merchantId : Uid) (fcmToken : String) (index : ℕ) (state : State) : Prop where
  sound : Sound state
  barred : Barred merchantId fcmToken state.devices
  clear : Clearing merchantId fcmToken index state ∨ Cleared merchantId fcmToken state

variable {merchantId : Uid} {fcmToken : String} {state after : State} {index : ℕ}

theorem Revoked.stepped {action : Action}
    (revoked : Revoked merchantId fcmToken index state)
    (undisturbed : Undisturbed merchantId fcmToken index state action)
    (stepped : Stepped state action after) :
    Revoked merchantId fcmToken index after where
  sound := revoked.sound.stepped stepped
  barred := revoked.barred.stepped revoked.sound undisturbed.1 stepped
  clear := by
    rcases revoked.clear with clearing | cleared
    · exact clearing.stepped stepped
    · rcases undisturbed.2 with clearing | fresh
      · exact clearing.stepped stepped
      · exact .inr (cleared.stepped revoked.barred fresh stepped)

theorem clearing_of_revokes {branches : Collection Branch} {newId : ObjectId}
    (revoking : revokes merchantId fcmToken index state = true)
    (found : hasFound fcmToken index state = true)
    (stepped : (deviceSystem branches).step (.proceed index newId) state = some after) :
    Clearing merchantId fcmToken index after := by
  obtain ⟨call, waits, stepped'⟩ := Option.bind_eq_some_iff.mp stepped
  have inside : index < state.calls.length := (List.getElem?_eq_some_iff.mp waits).1
  simp only [revokes, hasFound, waits] at revoking found
  cases call with
  | write operation device =>
    obtain ⟨_, rfl, rfl⟩ := of_decide_eq_true revoking
    cases stepped'
    exact .inl ⟨operation.claimant device, List.getElem?_set_self inside⟩
  | retire claimant siblings =>
    obtain ⟨device, _, isIt⟩ := List.any_eq_true.mp revoking
    simp only [Bool.and_eq_true, beq_iff_eq] at isIt
    obtain ⟨⟨sibling, rfl⟩, _⟩ := isIt
    have owner : device.uid = claimant.merchantId := by
      simp only [Claimant.isSibling, decide_eq_true_eq] at sibling
      exact sibling.1
    cases stepped'
    exact .inr ⟨siblings, owner ▸ List.getElem?_set_self inside, of_decide_eq_true found⟩
  | _ => cases revoking

theorem Revoked.start {branches : Collection Branch} {newId : ObjectId}
    (sound : Sound state)
    (revoking : revokes merchantId fcmToken index state = true)
    (found : hasFound fcmToken index state = true)
    (stepped : (deviceSystem branches).step (.proceed index newId) state = some after)
    (negative : (deviceAuth merchantId fcmToken after.devices).authorized = false) :
    Revoked merchantId fcmToken index after := by
  have sound' := sound.stepped (step_cases stepped)
  exact
    { sound := sound'
      barred := barred_of_deviceAuth sound'.indexed negative
      clear := .inl (clearing_of_revokes revoking found stepped) }

def Call.Negative (merchantId : Uid) (fcmToken : String) (call : Call) :
    Prop :=
  ∀ result, call = .keep merchantId fcmToken result ∨
      call = .resolved merchantId fcmToken result →
    result.authorized = false

/-- No call from number `first` on gets a positive verdict on the token. -/
structure Refused (merchantId : Uid) (fcmToken : String)
    (index first : ℕ) (state : State) : Prop where
  revoked : Revoked merchantId fcmToken index state
  returned : state.calls[index]? = some .done
  negative : ∀ (place : ℕ) (call : Call), first ≤ place →
    state.calls[place]? = some call → call.Negative merchantId fcmToken

theorem Revoked.cleared {merchantId : Uid} {fcmToken : String} {index : ℕ}
    {state : State} (revoked : Revoked merchantId fcmToken index state)
    (returned : state.calls[index]? = some .done) :
    Cleared merchantId fcmToken state := by
  rcases revoked.clear with clearing | cleared
  · have clears := clearing.clears returned
    cases clears
  · exact cleared

theorem negative_of_opens (cleared : Cleared merchantId fcmToken state)
    {call : Call} (opened : Opens state call) :
    call.Negative merchantId fcmToken := by
  rintro result (rfl | rfl)
  · cases opened
  · cases opened with
    | hit _ _ _ cached => exact cleared result cached

theorem negative_of_moves {calls : List Call} {first place : ℕ} {next : Call}
    (negative : ∀ (index : ℕ) (call : Call), first ≤ index →
      calls[index]? = some call → call.Negative merchantId fcmToken)
    (moves : first ≤ place → next.Negative merchantId fcmToken) :
    ∀ (index : ℕ) (call : Call), first ≤ index →
      (calls.set place next)[index]? = some call →
      call.Negative merchantId fcmToken := by
  intro index call later waits
  rw [List.getElem?_set] at waits
  split at waits
  · next here =>
    subst here
    split at waits
    · cases waits
      exact moves later
    · cases waits
  · exact negative index call later waits

theorem Refused.stepped {first : ℕ} {action : Action}
    (refused : Refused merchantId fcmToken index first state)
    (undisturbed : Undisturbed merchantId fcmToken index state action)
    (stepped : Stepped state action after) :
    Refused merchantId fcmToken index first after where
  revoked := refused.revoked.stepped undisturbed stepped
  returned := stepped.returned refused.returned rfl
  negative := by
    have silent : ∀ {next : Call}, (∀ merchantId fcmToken result,
        next ≠ .keep merchantId fcmToken result ∧ next ≠ .resolved merchantId fcmToken result) →
        next.Negative merchantId fcmToken := by
      rintro next other result (rfl | rfl)
      · exact absurd rfl (other _ _ _).1
      · exact absurd rfl (other _ _ _).2
    cases stepped with
    | @began _ call opened =>
      intro place call' later waits
      have waits' : (state.calls ++ [call])[place]? = some call' := waits
      rw [List.getElem?_append] at waits'
      split at waits'
      · exact refused.negative place call' later waits'
      · have member := List.mem_of_getElem? waits'
        rw [List.mem_singleton.mp member]
        exact negative_of_opens (refused.revoked.cleared refused.returned) opened
    | looked waits =>
      refine negative_of_moves refused.negative fun _ => ?_
      rintro result (isIt | isIt)
      · cases isIt
        exact refused.revoked.barred.deviceAuth
      · cases isIt
    | kept waits =>
      refine negative_of_moves refused.negative fun later => ?_
      rintro result (isIt | isIt)
      · cases isIt
      · cases isIt
        exact refused.negative _ _ later waits _ (.inl rfl)
    | @forgot _ _ _ _ next waits =>
      refine negative_of_moves refused.negative fun _ => silent ?_
      cases next <;> simp
    | cleared waits pending =>
      refine negative_of_moves refused.negative fun _ => silent ?_
      split <;> simp
    | saved | refused | wrote | alone | found | retired =>
      exact negative_of_moves refused.negative fun _ => silent (by simp)

namespace Shop

def blocking : List Action :=
  hired ++
    [.resolveDeviceAuth "owner" "phone-token", .proceed 2 "", .own .block "phone" "owner"]

def blocked : List Action := [.proceed 3 ""]

def late : List Action := [.proceed 2 "", .resolveDeviceAuth "owner" "phone-token"]

def punctual : List Action :=
  [.resolveDeviceAuth "owner" "phone-token", .proceed 4 "", .proceed 4 ""]

/-- What a run before, through and after a revocation arrives at. -/
structure Trace where
  before : State
  written : State
  returned : State
  later : State

/--
Run until the owner's call is about to write, through the write, until the call
has returned, and on.
-/
def trace (admissible : State → Action → Prop)
    [∀ state action, Decidable (admissible state action)]
    (actions : List Action) : Option Trace :=
  ((deviceSystem branches).perform blocking (.start [])).bind fun before =>
    ((deviceSystem branches).step (.proceed 3 "") before).bind fun written =>
      (((deviceSystem branches).restrict admissible).perform blocked written).bind fun returned =>
        (((deviceSystem branches).restrict admissible).perform actions returned).map fun later =>
            { before, written, returned, later }

def Trace.Revokes (trace : Trace) : Prop :=
  revokes "owner" "phone-token" 3 trace.before = true ∧
    hasFound "phone-token" 3 trace.before = true ∧
    (deviceAuth "owner" "phone-token" trace.written.devices).authorized = false ∧
    trace.returned.calls[3]? = some .done ∧
    trace.returned.calls.length ≤ 4

instance (trace : Trace) : Decidable trace.Revokes :=
  inferInstanceAs (Decidable (_ ∧ _ ∧ _ ∧ _ ∧ _))

def Trace.Answers (trace : Trace) (result : DeviceAuthResult) : Prop :=
  trace.later.calls[4]? = some (Call.resolved "owner" "phone-token" result)

instance (trace : Trace) (result : DeviceAuthResult) :
    Decidable (trace.Answers result) :=
  inferInstanceAs (Decidable (_ = _))

theorem runs_of_trace {admissible : State → Action → Prop}
    [∀ state action, Decidable (admissible state action)]
    {actions : List Action} {ran : Trace}
    (traced : trace admissible actions = some ran) :
    (deviceSystem branches).Reaches (fun _ _ => True) (.start [])
        ran.before ∧
      (deviceSystem branches).step (.proceed 3 "") ran.before = some ran.written ∧
      (deviceSystem branches).Reaches admissible ran.written ran.returned ∧
      (deviceSystem branches).Reaches admissible ran.returned
        ran.later := by
  obtain ⟨before, first, traced⟩ := Option.bind_eq_some_iff.mp traced
  obtain ⟨written, second, traced⟩ := Option.bind_eq_some_iff.mp traced
  obtain ⟨returned, third, traced⟩ := Option.bind_eq_some_iff.mp traced
  obtain ⟨later, fourth, rfl⟩ := Option.map_eq_some_iff.mp traced
  exact ⟨System.reaches_of_perform first, second,
    System.reaches_of_perform_restrict third, System.reaches_of_perform_restrict fourth⟩

end Shop

end Lalaba.Devices
