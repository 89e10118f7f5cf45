import Lalaba.Auth.Maintenance
import Lalaba.Devices.Service
import Lalaba.Foundation.Run
import Lalaba.Orders.Callbacks

/-!
# The guard of every request

A request carries a token.  The guard has it verified, finds the account it was
issued for, and lets the request pass a row of gates.  What a token says and the
account with its role are kept in a cache.  An account that waits for its
deletion is inactive; it is let in before the gates, to the operations that are
open to it.
-/

namespace Lalaba.Auth

open Devices (DeviceAuthResult)
open Foundation
open Orders (trimmed)
open Users (User)

/-- The claims of a token that the guard reads; `iat` is in seconds. -/
structure DecodedToken where
  uid : Uid
  iat : Option ℕ
  signInSecondFactor : Option String

/-- What the cache keeps of a token. -/
structure VerifiedToken where
  uid : Uid
  issuedAtMs : Instant
  usedSecondFactor : Bool

def DecodedToken.issuedAt (token : DecodedToken) : Instant := token.iat.getD 0 * 1000

def DecodedToken.verified (token : DecodedToken) : VerifiedToken where
  uid := token.uid
  issuedAtMs := token.issuedAt
  usedSecondFactor := token.signInSecondFactor.isSome

/--
What the guard is given: the digest of a token, its claims, whether the token is
accepted at an instant, and the setting `ADMIN_MFA_REQUIRED`.
-/
structure Environment where
  sha256 : String → String
  claims : String → DecodedToken
  accepts : Instant → String → Bool
  ADMIN_MFA_REQUIRED : Option String

namespace Environment

/-- `verifyIdToken`: the claims of a token that is accepted. -/
def verifyIdToken (environment : Environment) (now : Instant)
    (idToken : String) : Option DecodedToken :=
  if environment.accepts now idToken then some (environment.claims idToken)
  else none

def tokenCacheKey (environment : Environment) (idToken : String) : String :=
  "firebase_token_v2:" ++ environment.sha256 idToken

def adminMfaRequired (environment : Environment) : Bool :=
  (trimmed (environment.ADMIN_MFA_REQUIRED.getD "")).toLower == "on"

end Environment

/-- The headers that the guard reads. -/
structure Request where
  authorization : Option String
  deviceToken : Option String

/-- What the decorators of the called handler allow. -/
structure Metadata where
  allowDeletionPending : Bool
  allowUnregisteredDevice : Bool
  allowUnverifiedCourier : Bool
  allowDuringMaintenance : Bool

/-- The text up to the next `Bearer `. -/
def untilBearer : List Char → List Char
  | [] => []
  | letter :: rest =>
    if "Bearer ".toList.isPrefixOf (letter :: rest) then []
    else letter :: untilBearer rest

/-- `split('Bearer ')[1]` of a header that starts with `Bearer `. -/
def Request.idToken (request : Request) : Option String :=
  (request.authorization.filter (·.startsWith "Bearer ")).map fun header =>
    String.ofList (untilBearer (header.toList.drop "Bearer ".length))

/-- What the guard throws. -/
inductive GuardError where
  | unauthorized (message : String)
  | graphQL (message : String) (code : String)
  /-- `MAINTENANCE_MODE`, with the status among its extensions. -/
  | maintenance (message : String) (status : MaintenanceStatus)
deriving DecidableEq

/-- What the guard puts on the request it admits. -/
structure Admission where
  user : User
  activeBranchId : Option ObjectId
deriving DecidableEq

/-! ## Gates -/

def assertDeletionPending (metadata : Metadata) (user : User) :
    Except GuardError Unit :=
  if user.accountStatus = some .DELETION_PENDING then
    if metadata.allowDeletionPending then .ok ()
    else
      .error (.unauthorized ("This account is scheduled for deletion. " ++
        "Cancel the deletion request to restore access."))
  else
    .error (.unauthorized "User account has been deactivated.")

def sessionRevoked (user : User) (issuedAtMs : Instant) : Bool :=
  user.sessionsValidAfter.any (issuedAtMs < ·)

def assertSession (user : User) (verified : VerifiedToken) :
    Except GuardError Unit :=
  if sessionRevoked user verified.issuedAtMs then
    .error (.graphQL ("Your session was ended by an administrator. " ++
      "Please log in again.") "SESSION_REVOKED")
  else
    .ok ()

def assertSecondFactor (environment : Environment) (user : User)
    (verified : VerifiedToken) : Except GuardError Unit :=
  if (user.hasRole "admin" || user.hasRole "support") &&
      environment.adminMfaRequired && !verified.usedSecondFactor then
    .error (.graphQL ("Two-factor authentication is required for " ++
      "back-office accounts. Enrol a second factor, then sign in again.")
      "MFA_REQUIRED")
  else
    .ok ()

/-- The verdict on a device, as a request of a staff member reads it. -/
def assertDeviceOf (user : User) (deviceAuth : DeviceAuthResult) :
    Except GuardError (Option ObjectId) :=
  if deviceAuth.authorized = false then
    .error (.unauthorized "This device is not registered or has been deactivated.")
  else if deviceAuth.staffUid.any (· ≠ user._id) then
    .error (.unauthorized "This device is registered to another account.")
  else
    match deviceAuth.branchId with
    | none =>
      .error (.unauthorized ("This device is not assigned to a branch. " ++
        "Ask your manager to approve it again."))
    | some branchId => .ok (some branchId)

/-- The device gate, which selects the branch of a staff member. -/
def assertDevice (resolveDeviceAuth : Uid → String → DeviceAuthResult)
    (metadata : Metadata) (request : Request) (user : User) :
    Except GuardError (Option ObjectId) :=
  if user.hasRole "staff" then
    match user.merchantId.filter (· ≠ "") with
    | none =>
      .error (.unauthorized "Your account setup is incomplete. Contact your manager.")
    | some merchantId =>
      if metadata.allowUnregisteredDevice then .ok none
      else
        match request.deviceToken.filter (· ≠ "") with
        | none =>
          .error (.unauthorized "Please log in from a registered device.")
        | some deviceToken =>
          assertDeviceOf user (resolveDeviceAuth merchantId deviceToken)
  else
    .ok none

def assertSelfie (metadata : Metadata) (user : User) :
    Except GuardError Unit :=
  if user.hasRole "courier" && !metadata.allowUnverifiedCourier &&
      user.selfieStatus ≠ some "ACTIVE" then
    if user.selfieStatus = some "REVOKED" then
      .error (.unauthorized ("Your profile photo was removed by an " ++
        "administrator. Take a new selfie to continue."))
    else
      .error (.unauthorized "Take your verification selfie before handling orders.")
  else
    .ok ()

def assertNotSuspended (user : User) : Except GuardError Unit :=
  if user.hasRole "washer" && user.washerStatus = some "SUSPENDED" then
    .error (.unauthorized ("Your account has been suspended by an " ++
      "administrator. Contact support for more information."))
  else
    .ok ()

def assertNotInMaintenance (status : MaintenanceStatus)
    (metadata : Metadata) : Except GuardError Unit :=
  if metadata.allowDuringMaintenance = false ∧ status.blocked then
    .error (.maintenance (status.message.getD "This app is temporarily unavailable.") status)
  else
    .ok ()

/-- What surrounds a request: the clock, the devices and the maintenance. -/
structure Surroundings where
  now : Instant
  resolveDeviceAuth : Uid → String → DeviceAuthResult
  maintenance : MaintenanceConfig

def Surroundings.statusFor (surroundings : Surroundings) (user : User) :
    MaintenanceStatus :=
  surroundings.maintenance.effectiveStateForRole surroundings.now
    (user.role.map (·.roleId)) user._id

/-- The gates for an account and a token, in the order of the guard. -/
def passGates (environment : Environment) (surroundings : Surroundings)
    (metadata : Metadata) (request : Request) (user : User)
    (verified : VerifiedToken) : Except GuardError Admission :=
  if user.isActive = false then do
    assertDeletionPending metadata user
    pure { user, activeBranchId := none }
  else do
    assertSession user verified
    assertSecondFactor environment user verified
    let activeBranchId ← assertDevice surroundings.resolveDeviceAuth metadata request user
    assertSelfie metadata user
    assertNotSuspended user
    assertNotInMaintenance (surroundings.statusFor user) metadata
    pure { user, activeBranchId }

/-- The entries of tokens and of accounts. -/
structure Caches where
  tokens : Collection VerifiedToken
  users : Collection User

def userCacheKey (uid : Uid) : String := "user:" ++ uid

def verify (environment : Environment) (now : Instant) (idToken : String)
    (tokens : Collection VerifiedToken) :
    Option (VerifiedToken × Collection VerifiedToken) :=
  match tokens.lookup (environment.tokenCacheKey idToken) with
  | some verified => some (verified, tokens)
  | none =>
    (environment.verifyIdToken now idToken).map fun decoded =>
      (decoded.verified, tokens.insert (environment.tokenCacheKey idToken) decoded.verified)

def findOneByIdWithRoleCached (uid : Uid) (stored users : Collection User) :
    Option User × Collection User :=
  match users.lookup (userCacheKey uid) with
  | some user => (some user, users)
  | none =>
    match stored.lookup uid with
    | none => (none, users)
    | some user => (some user, users.insert (userCacheKey uid) user)

/-- `canActivate`, over the stored accounts. -/
def canActivate (environment : Environment) (surroundings : Surroundings)
    (metadata : Metadata) (request : Request) (stored : Collection User)
    (caches : Caches) : Except GuardError Admission × Caches :=
  match request.idToken with
  | none =>
    (.error (.unauthorized "Authentication required. Please log in again."), caches)
  | some idToken =>
    match verify environment surroundings.now idToken caches.tokens with
    | none =>
      (.error (.unauthorized "Session expired or invalid token authentication."), caches)
    | some (verified, tokens) =>
      match findOneByIdWithRoleCached verified.uid stored caches.users with
      | (none, users) =>
        (.error (.unauthorized "Account not found."), { tokens, users })
      | (some user, users) =>
        (passGates environment surroundings metadata request user verified, { tokens, users })

/-- The stored accounts and the caches. -/
structure State where
  stored : Collection User
  caches : Caches

namespace State

def start (stored : Collection User) : State where
  stored
  caches := { tokens := ∅, users := ∅ }

def Current (uid : Uid) (state : State) : Prop :=
  ∀ user, state.caches.users.lookup (userCacheKey uid) = some user →
    state.stored.lookup uid = some user

end State

/-- What can happen next. -/
inductive Action where
  | request (surroundings : Surroundings) (metadata : Metadata) (request : Request)
  | write (stored : Collection User)
  | forgetUser (uid : Uid)
  | forgetToken (idToken : String)

/-- One step. -/
def step (environment : Environment) : Action → State → Option State
  | .request surroundings metadata request, state =>
    some { state with
        caches := (canActivate environment surroundings metadata request
          state.stored state.caches).2 }
  | .write stored, state => some { state with stored }
  | .forgetUser uid, state =>
    some { state with
        caches :=
          { state.caches with
            users := state.caches.users.erase (userCacheKey uid) } }
  | .forgetToken idToken, state =>
    some { state with
        caches :=
          { state.caches with
            tokens := state.caches.tokens.erase (environment.tokenCacheKey idToken) } }

def guardSystem (environment : Environment) : System State Action := { step := step environment }

def Faithful (environment : Environment)
    (tokens : Collection VerifiedToken) : Prop :=
  ∀ idToken verified,
    tokens.lookup (environment.tokenCacheKey idToken) = some verified →
    verified = (environment.claims idToken).verified

theorem tokenCacheKey_injective {environment : Environment}
    (collisionFree : Function.Injective environment.sha256) :
    Function.Injective environment.tokenCacheKey := by
  intro first second same
  exact collisionFree (String.append_right_inj _ |>.mp same)

theorem verify_faithful {environment : Environment} {now : Instant}
    {idToken : String} {tokens tokens' : Collection VerifiedToken}
    {verified : VerifiedToken}
    (collisionFree : Function.Injective environment.sha256)
    (faithful : Faithful environment tokens)
    (ran : verify environment now idToken tokens = some (verified, tokens')) :
    verified = (environment.claims idToken).verified ∧ Faithful environment tokens' := by
  rw [verify] at ran
  split at ran
  · next cached =>
    cases ran
    exact ⟨faithful idToken verified cached, faithful⟩
  · obtain ⟨decoded, accepted, isIt⟩ := Option.map_eq_some_iff.mp ran
    have isClaimed : decoded = environment.claims idToken := by
      rw [Environment.verifyIdToken] at accepted
      split at accepted
      · exact (Option.some.inj accepted).symm
      · cases accepted
    cases isIt
    refine ⟨by rw [isClaimed], ?_⟩
    intro other verified cached
    by_cases same : environment.tokenCacheKey other = environment.tokenCacheKey idToken
    · rw [same, AList.lookup_insert] at cached
      cases cached
      rw [tokenCacheKey_injective collisionFree same, isClaimed]
    · rw [AList.lookup_insert_ne same] at cached
      exact faithful other verified cached

theorem canActivate_faithful {environment : Environment}
    (collisionFree : Function.Injective environment.sha256)
    {surroundings : Surroundings} {metadata : Metadata} {request : Request}
    {stored : Collection User} {caches : Caches}
    (faithful : Faithful environment caches.tokens) :
    Faithful environment
      (canActivate environment surroundings metadata request stored caches).2.tokens := by
  rw [canActivate]
  split
  · exact faithful
  · next idToken _ =>
    split
    · exact faithful
    · next verified tokens ran =>
      have kept := (verify_faithful collisionFree faithful ran).2
      split <;> exact kept

theorem faithful_of_reaches {environment : Environment}
    (collisionFree : Function.Injective environment.sha256)
    {stored : Collection User} {state : State}
    (reached : (guardSystem environment).Reaches (fun _ _ => True) (.start stored) state) :
    Faithful environment state.caches.tokens := by
  refine reached.invariant (fun state => Faithful environment state.caches.tokens) ?_ ?_
  · intro idToken verified cached
    simp [State.start] at cached
  · intro state action after faithful _ stepped
    cases action with
    | request surroundings metadata request =>
      cases stepped
      exact canActivate_faithful collisionFree faithful
    | write | forgetUser =>
      cases stepped
      exact faithful
    | forgetToken idToken =>
      cases stepped
      intro other verified cached
      by_cases same : environment.tokenCacheKey other = environment.tokenCacheKey idToken
      · rw [same, AList.lookup_erase] at cached
        cases cached
      · rw [AList.lookup_erase_ne same] at cached
        exact faithful other verified cached

theorem assertDeletionPending_ok {metadata : Metadata} {user : User}
    {passed : Unit}
    (ok : assertDeletionPending metadata user = .ok passed) :
    user.accountStatus = some .DELETION_PENDING ∧ metadata.allowDeletionPending = true := by
  rw [assertDeletionPending] at ok
  split at ok
  · next pending =>
    split at ok
    · next allowed => exact ⟨pending, allowed⟩
    · cases ok
  · cases ok

theorem assertSession_ok {user : User} {verified : VerifiedToken}
    {passed : Unit} (ok : assertSession user verified = .ok passed) :
    sessionRevoked user verified.issuedAtMs = false := by
  rw [assertSession] at ok
  split at ok
  · cases ok
  · next valid => exact Bool.not_eq_true _ |>.mp valid

theorem passGates_yields (environment : Environment)
    (surroundings : Surroundings) (metadata : Metadata) (request : Request)
    (user : User) (verified : VerifiedToken) :
    Yields
      (passGates environment surroundings metadata request user verified)
      fun admission => admission.user = user ∧
        (user.isActive = false ∧ user.accountStatus = some .DELETION_PENDING ∧
            metadata.allowDeletionPending = true ∨
          sessionRevoked user verified.issuedAtMs = false) := by
  rw [passGates]
  split
  · next inactive =>
    refine Yields.bind fun _ passed => Yields.pure ⟨rfl, .inl ?_⟩
    exact ⟨inactive, assertDeletionPending_ok passed⟩
  · refine Yields.bind fun _ passed => ?_
    have valid := assertSession_ok passed
    exact Yields.bind fun _ _ => Yields.bind fun _ _ =>
      Yields.bind fun _ _ => Yields.bind fun _ _ =>
        Yields.bind fun _ _ => Yields.pure ⟨rfl, .inr valid⟩

theorem passGates_deletionPending {environment : Environment}
    {surroundings : Surroundings} {metadata : Metadata} {request : Request}
    {user : User} {verified : VerifiedToken} (inactive : user.isActive = false)
    (pending : user.accountStatus = some .DELETION_PENDING)
    (allowed : metadata.allowDeletionPending = true) :
    passGates environment surroundings metadata request user verified =
      .ok { user, activeBranchId := none } := by
  rw [passGates, if_pos inactive, assertDeletionPending, if_pos pending, if_pos allowed]
  rfl

theorem not_sessionRevoked_iff {user : User} {issuedAt : Instant} :
    sessionRevoked user issuedAt = false ↔
      ∀ validAfter ∈ user.sessionsValidAfter, validAfter ≤ issuedAt := by
  rw [sessionRevoked]
  cases user.sessionsValidAfter <;> simp

theorem found_stored {uid : Uid} {state : State}
    (current : state.Current uid) :
    (findOneByIdWithRoleCached uid state.stored state.caches.users).1 =
      state.stored.lookup uid := by
  rw [findOneByIdWithRoleCached]
  split
  · next user cached => exact (current user cached).symm
  · split
    · next absent => exact absent.symm
    · next user present => exact present.symm

def Verifiable (environment : Environment) (now : Instant)
    (idToken : String) (tokens : Collection VerifiedToken) : Prop :=
  (tokens.lookup (environment.tokenCacheKey idToken)).isSome ∨
    environment.accepts now idToken = true

theorem verify_of_verifiable {environment : Environment} {now : Instant}
    {idToken : String} {tokens : Collection VerifiedToken}
    (faithful : Faithful environment tokens)
    (verifiable : Verifiable environment now idToken tokens) :
    ∃ tokens', verify environment now idToken tokens =
      some ((environment.claims idToken).verified, tokens') := by
  rcases cached : tokens.lookup (environment.tokenCacheKey idToken) with
    _ | verified
  · have accepted : environment.accepts now idToken = true := by
      rcases verifiable with held | accepted
      · rw [cached] at held
        cases held
      · exact accepted
    exact ⟨_, by rw [verify, cached, Environment.verifyIdToken, if_pos accepted]; rfl⟩
  · rw [verify, cached, faithful idToken verified cached]
    exact ⟨tokens, rfl⟩

theorem verifiable_of_verify {environment : Environment} {now : Instant}
    {idToken : String} {tokens tokens' : Collection VerifiedToken}
    {verified : VerifiedToken}
    (ran : verify environment now idToken tokens = some (verified, tokens')) :
    Verifiable environment now idToken tokens := by
  rw [verify] at ran
  split at ran
  · next cached => exact .inl (by rw [cached]; rfl)
  · obtain ⟨decoded, accepted, _⟩ := Option.map_eq_some_iff.mp ran
    rw [Environment.verifyIdToken] at accepted
    split at accepted
    · next accepts => exact .inr accepts
    · cases accepted

theorem canActivate_ok {environment : Environment}
    {surroundings : Surroundings} {metadata : Metadata} {request : Request}
    {state : State}
    (collisionFree : Function.Injective environment.sha256)
    (faithful : Faithful environment state.caches.tokens)
    {idToken : String} (bearer : request.idToken = some idToken)
    (current : state.Current (environment.claims idToken).uid)
    {admission : Admission}
    (admitted : (canActivate environment surroundings metadata request
      state.stored state.caches).1 = .ok admission) :
    Verifiable environment surroundings.now idToken state.caches.tokens ∧
      ∃ user, state.stored.lookup (environment.claims idToken).uid =
          some user ∧
        passGates environment surroundings metadata request user
          (environment.claims idToken).verified = .ok admission := by
  rcases ran : verify environment surroundings.now idToken
      state.caches.tokens with _ | ⟨verified, tokens⟩
  · simp only [canActivate, bearer, ran] at admitted
    cases admitted
  · have isIt : verified = (environment.claims idToken).verified :=
      (verify_faithful collisionFree faithful ran).1
    subst isIt
    refine ⟨verifiable_of_verify ran, ?_⟩
    have stored := found_stored current
    rcases read : findOneByIdWithRoleCached
        (environment.claims idToken).uid state.stored
        state.caches.users with ⟨_ | user, users⟩
    · simp only [canActivate, bearer, ran, DecodedToken.verified, read] at admitted
      cases admitted
    · rw [read] at stored
      simp only [canActivate, bearer, ran, DecodedToken.verified, read] at admitted
      exact ⟨user, stored.symm, admitted⟩

def AdmitsUnrevoked (environment : Environment)
    (surroundings : Surroundings) (metadata : Metadata) (request : Request)
    (state : State) : Prop :=
  ∀ admission idToken, request.idToken = some idToken →
    (canActivate environment surroundings metadata request state.stored
      state.caches).1 = .ok admission →
    ∀ validAfter ∈ admission.user.sessionsValidAfter,
      validAfter ≤ (environment.claims idToken).issuedAt

/--
The request holds a revoked token of an account that waits for its deletion, and
calls an operation that is open to such accounts.
-/
def RevokedButPending (environment : Environment)
    (surroundings : Surroundings) (metadata : Metadata) (request : Request)
    (state : State) : Prop :=
  ∃ idToken user, request.idToken = some idToken ∧
    Verifiable environment surroundings.now idToken state.caches.tokens ∧
    state.stored.lookup (environment.claims idToken).uid = some user ∧
    user.isActive = false ∧
    user.accountStatus = some .DELETION_PENDING ∧
    metadata.allowDeletionPending = true ∧
    ∃ validAfter ∈ user.sessionsValidAfter, (environment.claims idToken).issuedAt < validAfter

/--
In every state reached the guard admits with unrevoked tokens only, exactly when
the request is not that of an account waiting for its deletion to an operation
open to it, with a revoked token.
-/
theorem admitsUnrevoked_iff {environment : Environment}
    (collisionFree : Function.Injective environment.sha256)
    {stored : Collection User} {state : State}
    (reached : (guardSystem environment).Reaches (fun _ _ => True) (.start stored) state)
    (surroundings : Surroundings) (metadata : Metadata) (request : Request)
    (current : ∀ idToken ∈ request.idToken, state.Current (environment.claims idToken).uid) :
    AdmitsUnrevoked environment surroundings metadata request state ↔
      ¬ RevokedButPending environment surroundings metadata request
        state := by
  have faithful := faithful_of_reaches collisionFree reached
  constructor
  · rintro unrevoked ⟨idToken, user, bearer, verifiable, found, inactive,
      pending, allowed, validAfter, revokes, before⟩
    obtain ⟨tokens, verified⟩ := verify_of_verifiable faithful verifiable
    have isIt := (found_stored (current idToken bearer)).trans found
    rcases read : findOneByIdWithRoleCached
        (environment.claims idToken).uid state.stored
        state.caches.users with ⟨read_user, users⟩
    rw [read] at isIt
    cases isIt
    have admitted : (canActivate environment surroundings metadata request
        state.stored state.caches).1 = .ok { user, activeBranchId := none } := by
      simp only [canActivate, bearer, verified, DecodedToken.verified, read]
      exact passGates_deletionPending inactive pending allowed
    have valid := unrevoked _ idToken bearer admitted validAfter revokes
    exact absurd valid (Nat.not_le.mpr before)
  · intro closed admission idToken bearer admitted validAfter revokes
    obtain ⟨verifiable, user, found, admits⟩ :=
      canActivate_ok collisionFree faithful bearer (current idToken bearer) admitted
    obtain ⟨rfl, pending | valid⟩ := passGates_yields environment surroundings
      metadata request user _ admission admits
    · by_contra before
      exact closed ⟨idToken, admission.user, bearer, verifiable, found,
        pending.1, pending.2.1, pending.2.2, validAfter, revokes, Nat.not_le.mp before⟩
    · exact not_sessionRevoked_iff.mp valid validAfter revokes

/-! ## A session that was ended, of an account that is to be deleted -/

namespace Sample

/-- The digest of the token `token`, and another for every other text. -/
def sha256 : String → String :=
  Equiv.swap "token" "3c469e9d6c5875d37a43f353d4f88e61fcf812c66eee3457465a40b0da4153e0"

def environment : Environment where
  sha256 := sha256
  claims _ := { uid := "customer", iat := some 1000, signInSecondFactor := none }
  accepts _ _ := true
  ADMIN_MFA_REQUIRED := none

def customer : User where
  _id := "customer"
  role := some { roleId := "customer" }
  isActive := false
  merchantId := none
  branchIds := []
  selfieStatus := none
  washerStatus := none
  sessionsValidAfter := some 2000000
  accountStatus := some .DELETION_PENDING

def state : State := .start ((∅ : Collection User).insert "customer" customer)

/-- No app is in maintenance. -/
def surroundings : Surroundings where
  now := 2500000
  resolveDeviceAuth _ _ := { authorized := false, branchId := none, staffUid := none }
  maintenance :=
    let app : MaintenanceAppState :=
      { active := false
        mode := .EMERGENCY
        message := none
        scheduledStart := none
        scheduledEnd := none }
    { globalEmergencyActive := false
      globalEmergencyMessage := none
      customerApp := app
      partnerApp := app
      supportEmail := none
      supportPhone := none
      bypassUids := [] }

/-- The handler of `cancelAccountDeletion`. -/
def cancelAccountDeletion : Metadata where
  allowDeletionPending := true
  allowUnregisteredDevice := false
  allowUnverifiedCourier := true
  allowDuringMaintenance := false

def otherHandler : Metadata := { cancelAccountDeletion with allowDeletionPending := false }

def request : Request where
  authorization := some "Bearer token"
  deviceToken := none

theorem current (uid : Uid) : state.Current uid := by
  intro user cached
  simp [state, State.start] at cached

end Sample

/-- The guard admits the customer with the token of a session that was ended. -/
theorem revoked_session_admitted :
    Function.Injective Sample.environment.sha256 ∧
      (∀ uid, Sample.state.Current uid) ∧
      ¬ AdmitsUnrevoked Sample.environment Sample.surroundings
        Sample.cancelAccountDeletion Sample.request Sample.state := by
  refine ⟨Equiv.injective _, Sample.current, ?_⟩
  intro unrevoked
  have bearer : Sample.request.idToken = some "token" := by decide +kernel
  have admitted : (canActivate Sample.environment Sample.surroundings
      Sample.cancelAccountDeletion Sample.request Sample.state.stored
      Sample.state.caches).1 = .ok { user := Sample.customer, activeBranchId := none } := by
    decide +kernel
  have valid : (2000000 : Instant) ≤ 1000000 := unrevoked _ "token" bearer admitted 2000000 rfl
  exact absurd valid (by decide)

/-- Any other handler is closed to the same request. -/
theorem otherHandler_admitsUnrevoked :
    AdmitsUnrevoked Sample.environment Sample.surroundings
      Sample.otherHandler Sample.request Sample.state := by
  refine (admitsUnrevoked_iff (Equiv.injective _) .refl
    Sample.surroundings Sample.otherHandler Sample.request
    fun _ _ => Sample.current _).mpr ?_
  rintro ⟨_, _, _, _, _, _, _, allowed, _⟩
  cases allowed

end Lalaba.Auth
