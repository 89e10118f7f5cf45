import Lalaba.Foundation.Interleaving
import Lalaba.Foundation.Outcome
import Lalaba.Staff.Grants
import Mathlib.Data.List.Permutation

/-!
# Updates of a staff member

An update reads the staff member, derives the grants from what it has read, and sets
them later.  An app from before the rollout sends the branches alone, and the grants of
a branch that stays are those that were read; so a grant that another update has taken
away in between comes back.
-/

namespace Lalaba.Staff

open Foundation
open Foundation.Configuration

/-- What an update may write of a staff member. -/
structure Staff extends DerivedGrantFields where
  merchantId : Option Uid
  firstName : String
  lastName : String
  phoneNumber : String
  isActive : Bool

/-- The groups an owner has chosen for a branch. -/
structure BranchAccessInput where
  branchId : ObjectId
  groups : List PermissionGroup
deriving DecidableEq

structure UpdateStaffInput where
  firstName : Option String := none
  lastName : Option String := none
  phoneNumber : Option String := none
  branchAccess : Option (List BranchAccessInput) := none
  branchIds : Option (List ObjectId) := none
  permissionIds : Option (List ObjectId) := none
  isActive : Option Bool := none
deriving DecidableEq

/-- The arguments of `updateStaff`, on one staff member. -/
structure UpdateStaff where
  merchantId : Uid
  input : UpdateStaffInput
deriving DecidableEq

/-- The permissions by their names, and the branches of a merchant in service. -/
structure Directory where
  permissionIdsByName : String → Option ObjectId
  ownsActiveBranch : Uid → ObjectId → Bool

/-! ## Deriving the grants -/

def entriesFromGroups (directory : Directory)
    (branchAccess : List BranchAccessInput) : List BranchAccessEntry :=
  branchAccess.map fun entry =>
    { branchId := entry.branchId
      permissionIds := (expandGroups entry.groups).filterMap directory.permissionIdsByName }

def permissionIdsOf (branchAccess : List BranchAccessEntry)
    (branchId : ObjectId) : List ObjectId :=
  ((branchAccess.find? fun entry => entry.branchId == branchId).map
    BranchAccessEntry.permissionIds).getD []

/-- `resolveGrantEntries`: the entries to write, or `none` to leave them alone. -/
def resolveGrantEntries (directory : Directory) (input : UpdateStaffInput)
    (existing : Staff) : Option (List BranchAccessEntry) :=
  match input.branchAccess with
  | some branchAccess => some (entriesFromGroups directory branchAccess)
  | none =>
    match input.permissionIds with
    | some permissionIds =>
      let branchIds := input.branchIds.getD (existing.branchAccess.map BranchAccessEntry.branchId)
      some (branchIds.map fun branchId => { branchId, permissionIds })
    | none =>
      input.branchIds.map fun branchIds =>
        branchIds.map fun branchId =>
          { branchId
            permissionIds := permissionIdsOf existing.branchAccess branchId }

/-- The fields that `deriveGrantFields` makes of the entries. -/
def resolveGrants (directory : Directory) (input : UpdateStaffInput)
    (existing : Staff) : Option DerivedGrantFields :=
  (resolveGrantEntries directory input existing).map deriveGrantFields

/-- `validateBranches`; the derived branches are distinct. -/
def validateBranches (directory : Directory) (merchantId : Uid)
    (branchIds : List ObjectId) : Except ServiceError Unit :=
  if branchIds.all (directory.ownsActiveBranch merchantId) then .ok ()
  else .error (.badRequest "One or more branches do not belong to you or are not active")

/-- `updateStaff`, up to its write. -/
def prepare (directory : Directory) (request : UpdateStaff)
    (existing : Staff) :
    Except ServiceError (Option DerivedGrantFields) :=
  if existing.merchantId ≠ some request.merchantId then
    .error (.notFound "Staff not found")
  else
    match resolveGrants directory request.input existing with
    | none => .ok none
    | some grants =>
      if grants.branchIds = [] then .ok (some grants)
      else
        (validateBranches directory request.merchantId grants.branchIds).map fun _ => some grants

/-- The `$set`: the fields that were sent, and the grants together. -/
def Staff.set (input : UpdateStaffInput)
    (grants : Option DerivedGrantFields) (staff : Staff) : Staff where
  merchantId := staff.merchantId
  firstName := input.firstName.getD staff.firstName
  lastName := input.lastName.getD staff.lastName
  phoneNumber := input.phoneNumber.getD staff.phoneNumber
  isActive := input.isActive.getD staff.isActive
  toDerivedGrantFields := grants.getD staff.toDerivedGrantFields

/-- `updateStaff`, when nothing comes in between. -/
def updateStaff (directory : Directory) (staff : Staff)
    (request : UpdateStaff) : Except ServiceError Staff :=
  (prepare directory request staff).map fun grants =>
    staff.set request.input grants

def Staff.holds (branchId permissionId : ObjectId) (staff : Staff) : Bool :=
  permissionId ∈ grantsForBranch staff.branchAccess branchId

def UpdateStaffInput.grants (directory : Directory)
    (branchId permissionId : ObjectId) (input : UpdateStaffInput) : Bool :=
  match input.branchAccess with
  | some branchAccess =>
    (entriesFromGroups directory branchAccess).any fun entry =>
      entry.branchId == branchId && entry.permissionIds.elem permissionId
  | none =>
    (input.permissionIds.any fun permissionIds =>
        permissionIds.elem permissionId) &&
      input.branchIds.all fun branchIds => branchIds.elem branchId

/-- `updateStaff`, about to write. -/
structure Call extends UpdateStaff where
  grants : Option DerivedGrantFields

def enter (directory : Directory) (request : UpdateStaff) (staff : Staff) :
    Option Call :=
  match prepare directory request staff with
  | .error _ => none
  | .ok grants => some { request with grants }

def resume (_ : Unit) (call : Call) (staff : Staff) :
    Option (Staff × Option Call) :=
  some (staff.set call.input call.grants, none)

def staffing (directory : Directory) : Service Staff Call UpdateStaff Unit where
  enter := enter directory
  resume := resume

abbrev Calls : Type := Configuration Staff Call

/-! ## The history of a run -/

/-- A permission an update has taken away, and how many had started by then. -/
structure Revocation where
  branchId : ObjectId
  permissionId : ObjectId
  startedBefore : ℕ
deriving DecidableEq

/-- The updates that have started and those that were written, each in order. -/
structure History where
  started : List UpdateStaff := []
  written : List UpdateStaff := []
  revoked : List Revocation := []

def lost (before after : Staff) : List (ObjectId × ObjectId) :=
  (before.branchAccess.flatMap fun entry =>
    entry.permissionIds.map fun permissionId =>
      (entry.branchId, permissionId)).filter fun (branchId, permissionId) =>
        before.holds branchId permissionId && !after.holds branchId permissionId

def see (configuration : Calls) (move : Move UpdateStaff Unit)
    (after : Calls) (history : History) : History :=
  match move with
  | .enter request =>
    { history with started := history.started ++ [request] }
  | .resume index _ =>
    match configuration.calls[index]? with
    | some (some call) =>
      { history with
        written := history.written ++ [call.toUpdateStaff]
        revoked := history.revoked ++
          (lost configuration.store after.store).map
            fun (branchId, permissionId) =>
              { branchId
                permissionId
                startedBefore := history.started.length } }
    | _ => history

def Call.regrants (revocation : Revocation) (call : Call) : Bool :=
  call.grants.any fun grants =>
    revocation.permissionId ∈ grantsForBranch grants.branchAccess revocation.branchId

/--
The grants that are written are those that would be derived at that time, and bring
nothing back that was taken away since the update has started.
-/
def upToDate (directory : Directory) (both : Calls × History) :
    Move UpdateStaff Unit → Bool
  | .enter _ => true
  | .resume index _ =>
    match both.1.calls[index]? with
    | some (some call) =>
      decide (resolveGrants directory call.input both.1.store = call.grants) &&
        both.2.revoked.all fun revocation =>
          !(decide (index < revocation.startedBefore) && call.regrants revocation) ||
          both.1.store.holds revocation.branchId revocation.permissionId
    | _ => true

section

variable {directory : Directory} {input : UpdateStaffInput} {staff : Staff}
  {branchId permissionId : ObjectId}

/-- What is derived for a branch was sent, or was held there before. -/
theorem granted_of_resolveGrants {grants : DerivedGrantFields}
    (resolved : resolveGrants directory input staff = some grants)
    (granted : permissionId ∈ grantsForBranch grants.branchAccess branchId) :
    input.grants directory branchId permissionId = true ∨
      staff.holds branchId permissionId = true := by
  have named : branchId ≠ "" := by
    rintro rfl
    rw [grantsForBranch, if_pos rfl] at granted
    cases granted
  rcases Option.map_eq_some_iff.mp resolved with ⟨entries, chosen, rfl⟩
  rcases granted_of_deriveGrantFields granted with ⟨entry, member, names, grants⟩
  rw [resolveGrantEntries] at chosen
  rw [UpdateStaffInput.grants]
  cases sent : input.branchAccess with
  | some branchAccess =>
    rw [sent] at chosen
    cases chosen
    left
    dsimp only
    rw [List.any_eq_true]
    refine ⟨entry, member, ?_⟩
    simp [names, grants]
  | none =>
    rw [sent] at chosen
    dsimp only at chosen ⊢
    cases listed : input.permissionIds with
    | some permissionIds =>
      rw [listed] at chosen
      cases chosen
      rcases List.mem_map.mp member with ⟨branch, within, rfl⟩
      cases names
      left
      cases branches : input.branchIds with
      | none => simpa using grants
      | some branchIds =>
        rw [branches] at within
        have within : branch ∈ branchIds := within
        simpa using ⟨grants, within⟩
    | none =>
      rw [listed] at chosen
      rcases Option.map_eq_some_iff.mp chosen with ⟨branchIds, _, rfl⟩
      rcases List.mem_map.mp member with ⟨branch, _, rfl⟩
      cases names
      right
      rw [Staff.holds, grantsForBranch, if_neg named, decide_eq_true_eq]
      exact grants

variable {request : UpdateStaff} {grants : Option DerivedGrantFields}

theorem prepare_yields :
    Yields (prepare directory request staff)
      fun grants => resolveGrants directory request.input staff = grants := by
  intro grants prepared
  unfold prepare at prepared
  split at prepared
  · cases prepared
  · split at prepared
    · rename_i absent
      cases prepared
      exact absent
    · rename_i derived resolved
      split at prepared
      · cases prepared
        exact resolved
      · cases validated : validateBranches directory request.merchantId derived.branchIds with
        | error _ =>
          rw [validated] at prepared
          cases prepared
        | ok _ =>
          rw [validated] at prepared
          cases prepared
          exact resolved

theorem prepare_congr {existing : Staff}
    (prepared : prepare directory request existing = .ok grants)
    (owner : staff.merchantId = existing.merchantId)
    (same : resolveGrants directory request.input staff = grants) :
    prepare directory request staff = .ok grants := by
  have derived := prepare_yields _ prepared
  rw [← prepared, prepare, prepare, owner, same, derived]

theorem updateStaff_eq {existing : Staff}
    (prepared : prepare directory request existing = .ok grants)
    (owner : staff.merchantId = existing.merchantId)
    (same : resolveGrants directory request.input staff = grants) :
    updateStaff directory staff request = .ok (staff.set request.input grants) := by
  rw [updateStaff, prepare_congr prepared owner same]
  rfl

theorem holds_set
    (holds : (staff.set input grants).holds branchId permissionId = true) :
    staff.holds branchId permissionId = true ∨
      ∃ derived, grants = some derived ∧
        permissionId ∈ grantsForBranch derived.branchAccess branchId := by
  cases grants with
  | none => exact .inl holds
  | some derived => exact .inr ⟨derived, rfl, of_decide_eq_true holds⟩

theorem not_holds_of_mem_lost {before after : Staff}
    {pair : ObjectId × ObjectId} (member : pair ∈ lost before after) :
    after.holds pair.1 pair.2 = false := by
  have taken := (List.mem_filter.mp member).2
  simpa using (Bool.and_eq_true_iff.mp taken).2

end

section

variable {directory : Directory} {start : Staff}
  {both both' : Calls × History} {move : Move UpdateStaff Unit}

def Sound (directory : Directory) (staff : Staff) (call : Call) : Prop :=
  ∃ existing, prepare directory call.toUpdateStaff existing =
    .ok call.grants ∧ staff.merchantId = existing.merchantId

/-- The updates are serial, and what was revoked is granted by a later one. -/
structure Serial (directory : Directory) (start : Staff) (both : Calls × History) : Prop where
  sound : ∀ index call, both.1.Waits index call → Sound directory both.1.store call
  places : both.1.calls.length = both.2.started.length
  named : ∀ index call, both.1.Waits index call → both.2.started[index]? = some call.toUpdateStaff
  once : both.2.started.Perm (both.2.written ++ both.1.waiting.map Call.toUpdateStaff)
  replayed : both.2.written.foldlM (updateStaff directory) start = .ok both.1.store
  earlier : ∀ revocation ∈ both.2.revoked, revocation.startedBefore ≤ both.2.started.length
  regranted : ∀ revocation ∈ both.2.revoked,
    both.1.store.holds revocation.branchId revocation.permissionId = true →
      ∃ request ∈ both.2.started.drop revocation.startedBefore,
        request.input.grants directory revocation.branchId revocation.permissionId = true

theorem Serial.entered {request : UpdateStaff} {call : Call}
    (serial : Serial directory start both)
    (enters : enter directory request both.1.store = some call) :
    Serial directory start
      (both.1.entered call, { both.2 with started := both.2.started ++ [request] }) := by
  unfold enter at enters
  split at enters
  · cases enters
  · rename_i grants prepared
    cases enters
    constructor
    · intro index call waits
      rcases waits_entered.mp waits with old | ⟨_, rfl⟩
      · exact serial.sound index call old
      · exact ⟨both.1.store, prepared, rfl⟩
    · rw [Configuration.entered, List.length_append, List.length_append, serial.places]
      rfl
    · intro index call waits
      rcases waits_entered.mp waits with old | ⟨rfl, rfl⟩
      · have found := serial.named index call old
        have within := (List.getElem?_eq_some_iff.mp found).1
        exact (List.getElem?_append_left within).trans found
      · rw [serial.places, List.getElem?_append_right (Nat.le_refl _), Nat.sub_self]
        rfl
    · rw [waiting_entered, List.map_append, ← List.append_assoc]
      exact serial.once.append_right _
    · exact serial.replayed
    · intro revocation member
      rw [List.length_append]
      exact (serial.earlier revocation member).trans (Nat.le_add_right _ _)
    · intro revocation member holds
      rcases serial.regranted revocation member holds with ⟨request', later, grants⟩
      refine ⟨request', ?_, grants⟩
      rw [List.drop_append]
      exact List.mem_append_left _ later

theorem Serial.writes {index : ℕ} {call : Call}
    (serial : Serial directory start both)
    (waits : both.1.Waits index call)
    (same : resolveGrants directory call.input both.1.store = call.grants)
    (allowed : ∀ revocation ∈ both.2.revoked,
      index < revocation.startedBefore → call.regrants revocation = true →
        both.1.store.holds revocation.branchId revocation.permissionId = true)
    {revocation : Revocation} (member : revocation ∈ both.2.revoked)
    (holds : (both.1.store.set call.input call.grants).holds
      revocation.branchId revocation.permissionId = true) :
    ∃ request ∈ both.2.started.drop revocation.startedBefore,
      request.input.grants directory revocation.branchId revocation.permissionId = true := by
  rcases holds_set holds with before | ⟨derived, resolved, granted⟩
  · exact serial.regranted revocation member before
  · by_cases first : index < revocation.startedBefore
    · apply serial.regranted revocation member
      apply allowed revocation member first
      rw [Call.regrants, resolved]
      exact decide_eq_true granted
    · rcases granted_of_resolveGrants (same.trans resolved) granted with
        sent | before
      · have place : revocation.startedBefore + (index - revocation.startedBefore) = index := by
          omega
        have found : (both.2.started.drop revocation.startedBefore)[
            index - revocation.startedBefore]? = some call.toUpdateStaff := by
          rw [List.getElem?_drop, place]
          exact serial.named index call waits
        exact ⟨call.toUpdateStaff, List.mem_of_getElem? found, sent⟩
      · exact serial.regranted revocation member before

theorem Serial.resumed {index : ℕ} {call : Call}
    (serial : Serial directory start both)
    (waits : both.1.Waits index call)
    (same : resolveGrants directory call.input both.1.store = call.grants)
    (allowed : ∀ revocation ∈ both.2.revoked,
      index < revocation.startedBefore → call.regrants revocation = true →
        both.1.store.holds revocation.branchId revocation.permissionId = true) :
    Serial directory start
      (both.1.resumed index (both.1.store.set call.input call.grants) none, { both.2 with
          written := both.2.written ++ [call.toUpdateStaff]
          revoked := both.2.revoked ++
            (lost both.1.store
              (both.1.store.set call.input call.grants)).map
                fun (branchId, permissionId) =>
                  { branchId
                    permissionId
                    startedBefore := both.2.started.length } }) := by
  constructor
  · intro other call' waits'
    rcases (waits_resumed waits).mp waits' with ⟨_, old⟩ | ⟨_, absent⟩
    · exact serial.sound other call' old
    · cases absent
  · rw [Configuration.resumed, List.length_set]
    exact serial.places
  · intro other call' waits'
    rcases (waits_resumed waits).mp waits' with ⟨_, old⟩ | ⟨_, absent⟩
    · exact serial.named other call' old
    · cases absent
  · -- The call moves from those in progress to those written.
    have returned := (@waiting_returned _ _ _ _ _
      (both.1.store.set call.input call.grants) waits).map Call.toUpdateStaff
    rw [List.append_assoc]
    exact serial.once.trans (returned.append_left both.2.written)
  · rcases serial.sound index call waits with ⟨existing, prepared, owner⟩
    rw [List.foldlM_append, serial.replayed]
    exact (bind_pure _).trans (updateStaff_eq prepared owner same)
  · intro revocation member
    rcases List.mem_append.mp member with old | new
    · exact serial.earlier revocation old
    · rcases List.mem_map.mp new with ⟨pair, _, rfl⟩
      exact Nat.le_refl _
  · intro revocation member holds
    rcases List.mem_append.mp member with old | new
    · exact serial.writes waits same allowed old holds
    · rcases List.mem_map.mp new with ⟨pair, taken, rfl⟩
      have gone := not_holds_of_mem_lost taken
      rw [Configuration.resumed] at holds
      dsimp only at holds
      rw [gone] at holds
      cases holds

theorem Serial.step (serial : Serial directory start both)
    (allowed : upToDate directory both move = true)
    (stepped : ((staffing directory).system.observed see).step move both = some both') :
    Serial directory start both' := by
  rcases both' with ⟨after, history⟩
  rcases System.observed_step stepped with ⟨ran, seen⟩
  dsimp only at ran seen
  subst seen
  cases Service.stepped_of_step ran with
  | entered request call enters => exact serial.entered enters
  | resumed index tick call store next waits resumes =>
    cases resumes
    rw [upToDate, waits] at allowed
    dsimp only at allowed
    rcases Bool.and_eq_true_iff.mp allowed with ⟨same, spared⟩
    rw [see, waits]
    apply serial.resumed waits (of_decide_eq_true same)
    intro revocation member first regrants
    have held := List.all_eq_true.mp spared revocation member
    simpa [first, regrants] using held

theorem serial_start : Serial directory start (.start start, {}) where
  sound := fun _ _ waits => (not_waits_start waits).elim
  places := rfl
  named := fun _ _ waits => (not_waits_start waits).elim
  once := List.Perm.refl _
  replayed := rfl
  earlier := fun _ member => (List.not_mem_nil member).elim
  regranted := fun _ member => (List.not_mem_nil member).elim

/--
In a run in which every update writes what it would derive at that time, and brings
back nothing that was revoked since it has started, the staff member is in the end as
after some order of the updates; and in every state, what was revoked is held again
only if an update that has started later grants it.
-/
theorem grantsDoNotComeBack
    (reached : ((staffing directory).system.observed see).Reaches
      (fun both move => upToDate directory both move = true)
      (.start start, {}) both) :
    (both.1.Quiet → ∃ order : List UpdateStaff, order.Perm both.2.started ∧
      order.foldlM (updateStaff directory) start = .ok both.1.store) ∧
    ∀ revocation ∈ both.2.revoked,
      both.1.store.holds revocation.branchId revocation.permissionId =
          true →
        ∃ request ∈ both.2.started.drop revocation.startedBefore,
          request.input.grants directory revocation.branchId revocation.permissionId = true := by
  have serial : Serial directory start both := by
    refine reached.invariant (Serial directory start) serial_start ?_
    exact fun _ _ _ serial allowed stepped => serial.step allowed stepped
  constructor
  · intro quiet
    have once := serial.once
    rw [waiting_of_quiet quiet, List.map_nil, List.append_nil] at once
    exact ⟨both.2.written, once.symm, serial.replayed⟩
  · exact serial.regranted

end

/-! ## Sample runs -/

namespace Sample

def directory : Directory where
  permissionIdsByName := some
  ownsActiveBranch _ _ := true

def staff : Staff where
  merchantId := some "owner"
  firstName := "Ana"
  lastName := "Cruz"
  phoneNumber := "09170000000"
  isActive := true
  toDerivedGrantFields := deriveGrantFields
    [{ branchId := "makati", permissionIds := ["service_create"] }]

def reassigns : UpdateStaff where
  merchantId := "owner"
  input := { branchIds := some ["makati", "taguig"] }

def revokes : UpdateStaff where
  merchantId := "owner"
  input := { branchAccess := some [{ branchId := "makati", groups := [] }] }

def reached (moves : List (Move UpdateStaff Unit)) :
    Option (Calls × History) :=
  ((staffing directory).system.observed see).perform moves (.start staff, {})

def overlapping : List (Move UpdateStaff Unit) :=
  [.enter reassigns, .enter revokes, .resume 1 (), .resume 0 ()]

def seen (both : Calls × History) :
    Bool × List UpdateStaff × Bool × ℕ :=
  (both.1.someCall fun _ => true, both.2.started,
    both.1.store.holds "makati" "service_create", both.2.revoked.length)

end Sample

/-- She is assigned first; what is revoked then stays revoked. -/
theorem grantsDoNotComeBack_sequential :
    ∃ both : Calls × History,
      ((staffing Sample.directory).system.observed see).Reaches
          (fun both move => upToDate Sample.directory both move = true)
          (.start Sample.staff, {}) both ∧
        both.1.store.holds "makati" "service_create" = false ∧
        (both.1.Quiet → ∃ order : List UpdateStaff, order.Perm both.2.started ∧
          order.foldlM (updateStaff Sample.directory) Sample.staff = .ok both.1.store) := by
  have performed : ((((staffing Sample.directory).system.observed see).restrict (fun both move =>
            upToDate Sample.directory both move = true)).perform
        [.enter Sample.reassigns, .enter Sample.revokes, .resume 0 (), .resume 1 ()]
        (.start Sample.staff, {})).map Sample.seen =
          some (false, [Sample.reassigns, Sample.revokes], false, 1) := by
    decide +kernel
  rcases System.reaches_of_map_restrict performed with ⟨both, reached, seen⟩
  rcases Prod.mk.inj seen with ⟨_, facts⟩
  rcases Prod.mk.inj facts with ⟨_, facts⟩
  exact ⟨both, reached, (Prod.mk.inj facts).1, (grantsDoNotComeBack reached).1⟩

/-- The permission is back, as after no order of the two updates. -/
theorem revokedGrantComesBack :
    ¬ ∀ (directory : Directory) (start : Staff) (both : Calls × History),
      ((staffing directory).system.observed see).Reaches (fun _ _ => True) (.start start, {}) both →
      both.1.Quiet → ∃ order : List UpdateStaff, order.Perm both.2.started ∧
        order.foldlM (updateStaff directory) start = .ok both.1.store := by
  intro always
  have performed : (Sample.reached Sample.overlapping).map Sample.seen =
      some (false, [Sample.reassigns, Sample.revokes], true, 1) := by
    decide +kernel
  rcases System.reaches_of_map performed with ⟨both, ran, seen⟩
  rcases Prod.mk.inj seen with ⟨returned, facts⟩
  rcases Prod.mk.inj facts with ⟨started, facts⟩
  have back := (Prod.mk.inj facts).1
  rcases always Sample.directory Sample.staff both ran (quiet_iff.mpr returned) with
    ⟨order, same, replayed⟩
  have gone : ∀ order ∈ [Sample.reassigns, Sample.revokes].permutations',
      ((order.foldlM (updateStaff Sample.directory) Sample.staff).toOption.map fun staff =>
          staff.holds "makati" "service_create") = some false := by
    decide +kernel
  rw [started] at same
  have absent := gone order (List.mem_permutations'.mpr same)
  rw [replayed] at absent
  have absent : both.1.store.holds "makati" "service_create" = false := Option.some.inj absent
  rw [back] at absent
  cases absent

end Lalaba.Staff
