import Lalaba.Auth.Maintenance
import Lalaba.Foundation.Interleaving
import Lalaba.Orders.Callbacks

/-!
# Somebody to turn to

An administrator replaces the whole maintenance configuration, and one that blocks
anybody is refused unless it names a contact.  Callers are answered from a copy in a
cache, which a slow reader may fill again after an update has emptied it.
-/

namespace Lalaba.Auth

open Foundation
open Orders (trimmed)

namespace MaintenanceConfig

/-- What `$setOnInsert` stores. -/
def seed : MaintenanceConfig where
  globalEmergencyActive := false
  globalEmergencyMessage := none
  customerApp := ⟨false, .EMERGENCY, none, none, none⟩
  partnerApp := ⟨false, .EMERGENCY, none, none, none⟩
  supportEmail := none
  supportPhone := none
  bypassUids := []

def blocking (config : MaintenanceConfig) : Bool :=
  config.globalEmergencyActive || config.customerApp.active || config.partnerApp.active

/-- `?.trim() || null`. -/
def contact (text : Option String) : Option String := (text.map trimmed).filter (· ≠ "")

/-- The input of an update has the fields of a configuration. -/
def assertReachableWhileBlocked (input : MaintenanceConfig) : Except ServiceError Unit :=
  if input.blocking = false then .ok ()
  else if contact input.supportEmail = none ∧ contact input.supportPhone = none then
    .error (.badRequest ("A support email or phone number is required while any " ++
      "maintenance block is active — it is the only thing a blocked person can reach."))
  else .ok ()

/-- What an update stores. -/
def ofInput (input : MaintenanceConfig) : MaintenanceConfig :=
  { input with
    supportEmail := contact input.supportEmail
    supportPhone := contact input.supportPhone }

end MaintenanceConfig

/-- The answers so far are kept beside the collection and the cache. -/
structure MaintenanceStore where
  document : Option MaintenanceConfig
  cached : Option (MaintenanceConfig × Instant)
  told : List MaintenanceStatus

def MaintenanceStore.tell (status : MaintenanceStatus) (store : MaintenanceStore) :
    MaintenanceStore :=
  { store with told := status :: store.told }

def CACHE_TTL_MS : Instant := 15 * 1000

inductive MaintenanceRequest where
  | effectiveStateForRole (roleId : Option String) (uid : Uid)
  | update (input : MaintenanceConfig)

/-- A call, before the step it waits for. -/
inductive MaintenanceCall where
  | asking (roleId : Option String) (uid : Uid)
  | finding (roleId : Option String) (uid : Uid)
  | caching (config : MaintenanceConfig) (roleId : Option String) (uid : Uid)
  | storing (config : MaintenanceConfig)
  | dropping

/-- A cache may lose an entry before its time is over. -/
structure MaintenanceTick where
  now : Instant
  evicted : Bool := false

/-- The back office is told that nothing is blocked, and nothing is read for it. -/
def enterMaintenance : MaintenanceRequest → MaintenanceStore → Option MaintenanceCall
  | .effectiveStateForRole roleId uid, _ =>
    if (roleId.filter (· ≠ "")).all fun role => role = "admin" || role = "support" then none
    else some (.asking roleId uid)
  | .update input, _ =>
    input.assertReachableWhileBlocked.toOption.map fun _ => .storing input.ofInput

def runMaintenance (tick : MaintenanceTick) :
    MaintenanceCall → MaintenanceStore → MaintenanceStore × Option MaintenanceCall
  | .asking roleId uid, store =>
    match store.cached.filter fun entry => tick.now < entry.2 && !tick.evicted with
    | some entry => (store.tell (entry.1.effectiveStateForRole tick.now roleId uid), none)
    | none => (store, some (.finding roleId uid))
  | .finding roleId uid, store =>
    let config := store.document.getD .seed
    ({ store with document := some config }, some (.caching config roleId uid))
  | .caching config roleId uid, store =>
    (({ store with cached := some (config, tick.now + CACHE_TTL_MS) } :
      MaintenanceStore).tell (config.effectiveStateForRole tick.now roleId uid), none)
  | .storing config, store => ({ store with document := some config }, some .dropping)
  | .dropping, store => ({ store with cached := none }, none)

def maintenance : Service MaintenanceStore MaintenanceCall MaintenanceRequest MaintenanceTick where
  enter := enterMaintenance
  resume tick call store := some (runMaintenance tick call store)

/-- There is an address or a number to write to or to call. -/
def Contactable (email phone : Option String) : Prop :=
  ∃ text, text ≠ "" ∧ (email = some text ∨ phone = some text)

/-- A configuration that blocks names a contact. -/
def MaintenanceConfig.Reachable (config : MaintenanceConfig) : Prop :=
  config.blocking = true → Contactable config.supportEmail config.supportPhone

structure MaintenanceStore.Reachable (store : MaintenanceStore) : Prop where
  document : ∀ config, store.document = some config → config.Reachable
  cached : ∀ entry, store.cached = some entry → entry.1.Reachable
  told : ∀ status ∈ store.told, status.blocked = true →
    Contactable status.supportEmail status.supportPhone

/-- The configuration that a call is about to store, or to copy, is reachable. -/
def MaintenanceCall.Reachable : MaintenanceCall → Prop
  | .caching config _ _ | .storing config => config.Reachable
  | _ => True

section

variable {config input : MaintenanceConfig} {store : MaintenanceStore} {now : Instant}
  {roleId : Option String} {uid : Uid}

theorem contact_ne {text : Option String} {kept : String}
    (contact : MaintenanceConfig.contact text = some kept) : kept ≠ "" :=
  of_decide_eq_true (Option.filter_eq_some_iff.mp contact).2

theorem reachable_ofInput (accepted : input.assertReachableWhileBlocked = .ok ()) :
    input.ofInput.Reachable := by
  intro blocking
  have blocks : input.blocking ≠ false := Bool.ne_false_iff.mpr blocking
  rw [MaintenanceConfig.assertReachableWhileBlocked, if_neg blocks] at accepted
  split at accepted
  · cases accepted
  · rename_i named
    cases email : MaintenanceConfig.contact input.supportEmail with
    | some text => exact ⟨text, contact_ne email, .inl email⟩
    | none =>
      rcases Option.ne_none_iff_exists'.mp fun none => named ⟨email, none⟩ with ⟨text, phone⟩
      exact ⟨text, contact_ne phone, .inr phone⟩

theorem active_appState {role : String} {state : MaintenanceAppState}
    (found : (config.appState role).filter (·.active) = some state) :
    config.blocking = true := by
  rcases Option.filter_eq_some_iff.mp found with ⟨app, active⟩
  rw [MaintenanceConfig.appState] at app
  rw [MaintenanceConfig.blocking]
  split at app
  · cases app
    simp [active]
  · split at app
    · cases app
      simp [active]
    · cases app

/-- Whoever is told of a block is told a contact with it. -/
theorem contactable_effectiveState {status : MaintenanceStatus} (reachable : config.Reachable)
    (told : config.effectiveStateForRole now roleId uid = status)
    (blocked : status.blocked = true) :
    Contactable status.supportEmail status.supportPhone := by
  rw [MaintenanceConfig.effectiveStateForRole] at told
  split at told
  · rw [← told] at blocked
    cases blocked
  · split at told
    · rw [← told] at blocked
      cases blocked
    · split at told
      · rw [← told] at blocked
        cases blocked
      · split at told
        · rename_i emergency
          rw [← told]
          exact reachable (by rw [MaintenanceConfig.blocking, emergency]; rfl)
        · split at told
          · rw [← told] at blocked
            cases blocked
          · rename_i state found
            have contact := reachable (active_appState found)
            rw [MaintenanceConfig.appStatus] at told
            split at told
            · rw [← told]
              exact contact
            · split at told <;> rw [← told] <;> exact contact

end

theorem maintenance_obligations :
    maintenance.Obligations (fun _ => True) (fun _ _ => True) MaintenanceStore.Reachable
      fun _ call => call.Reachable where
  entered request store call _ enters := by
    cases request with
    | effectiveStateForRole roleId uid =>
      simp only [maintenance, enterMaintenance] at enters
      split at enters
      · cases enters
      · cases enters
        trivial
    | update input =>
      rcases Option.map_eq_some_iff.mp enters with ⟨_, accepted, rfl⟩
      exact reachable_ofInput (toOption_eq_some.mp accepted)
  resumed configuration index tick call store next _ _ _ good sound resumes := by
    have ran := Option.some.inj resumes
    have tells : ∀ {config : MaintenanceConfig} {roleId uid}, config.Reachable →
        ∀ status ∈ config.effectiveStateForRole tick.now roleId uid ::
          configuration.store.told, status.blocked = true →
            Contactable status.supportEmail status.supportPhone := by
      intro config roleId uid reachable status member blocked
      rcases List.mem_cons.mp member with rfl | earlier
      · exact contactable_effectiveState reachable rfl blocked
      · exact good.told status earlier blocked
    cases call with
    | asking roleId uid =>
      simp only [runMaintenance] at ran
      split at ran
      · rename_i entry kept
        cases ran
        have reachable := good.cached entry (Option.filter_eq_some_iff.mp kept).1
        exact ⟨⟨good.document, good.cached, tells reachable⟩, by simp⟩
      · cases ran
        exact ⟨good, by intro _ next; cases next; trivial⟩
    | finding roleId uid =>
      cases ran
      have reachable : (configuration.store.document.getD .seed).Reachable := by
        cases found : configuration.store.document with
        | none => exact fun blocking => (Bool.false_ne_true blocking).elim
        | some config => exact good.document config found
      refine ⟨⟨?_, good.cached, good.told⟩, ?_⟩
      · rintro _ ⟨⟩
        exact reachable
      · rintro _ ⟨⟩
        exact reachable
    | caching config roleId uid =>
      cases ran
      refine ⟨⟨good.document, ?_, tells sound⟩, by simp⟩
      rintro _ ⟨⟩
      exact sound
    | storing config =>
      cases ran
      refine ⟨⟨?_, good.cached, good.told⟩, by intro _ next; cases next; trivial⟩
      rintro _ ⟨⟩
      exact sound
    | dropping =>
      cases ran
      exact ⟨⟨good.document, by simp, good.told⟩, by simp⟩
  stable := fun _ _ _ _ _ _ _ _ _ _ _ _ _ _ _ sound _ => sound

/--
In every run of checks and updates, whatever copies the cache holds, nobody is told of a
block without being told whom to write to or to call.
-/
theorem blockedCallersHaveAContact
    {configuration : Configuration MaintenanceStore MaintenanceCall}
    (reached : maintenance.system.Reaches (fun _ _ => True) (.start ⟨none, none, []⟩)
      configuration) :
    ∀ status ∈ configuration.store.told, status.blocked = true →
      Contactable status.supportEmail status.supportPhone := by
  have invariant : Service.Invariant MaintenanceStore.Reachable
      (fun _ call => call.Reachable) configuration := by
    apply reached.invariant (Service.Invariant MaintenanceStore.Reachable
      fun _ call => call.Reachable)
    · exact Service.invariant_start ⟨by simp, by simp, by simp⟩
    · exact fun _ _ _ invariant _ stepped =>
        maintenance_obligations.step trivial invariant trivial stepped
  exact invariant.good.told

/-- A slow customer caches the block after it has been lifted. -/
def lateReader : List (Move MaintenanceRequest MaintenanceTick) :=
  let blocked : MaintenanceConfig :=
    { MaintenanceConfig.seed with
      globalEmergencyActive := true, supportEmail := some " help@lalaba.example " }
  [.enter (.update blocked), .resume 0 ⟨0, false⟩,
    .enter (.effectiveStateForRole (some "customer") "maria"), .resume 1 ⟨1, false⟩,
    .resume 1 ⟨2, false⟩, .enter (.update .seed), .resume 2 ⟨3, false⟩,
    .resume 2 ⟨4, false⟩, .resume 1 ⟨5, false⟩,
    .enter (.effectiveStateForRole (some "customer") "jose"), .resume 3 ⟨6, false⟩]

theorem blockedCallersHaveAContact_lateReader :
    ∃ configuration, maintenance.system.Reaches (fun _ _ => True)
        (.start ⟨none, none, []⟩) configuration ∧
      (configuration.store.told.map MaintenanceStatus.blocked) = [true, true] ∧
      ∀ status ∈ configuration.store.told, status.blocked = true →
        Contactable status.supportEmail status.supportPhone := by
  have performed : (maintenance.system.perform lateReader
      (.start ⟨none, none, []⟩)).map
        (fun configuration => configuration.store.told.map MaintenanceStatus.blocked) =
      some [true, true] := by
    decide +kernel
  rcases System.reaches_of_map performed with ⟨configuration, reached, blocked⟩
  exact ⟨configuration, reached, blocked, blockedCallersHaveAContact reached⟩

end Lalaba.Auth
