import Lalaba.Common

/-!
# Maintenance

An administrator can close the customer app, the partner app, or both.  Nobody in
the back office is ever locked out by it, and neither is an account on the bypass
list.
-/

namespace Lalaba.Auth

inductive MaintenanceType where
  | SCHEDULED
  | EMERGENCY
deriving DecidableEq

/-- The state of one app. -/
structure MaintenanceAppState where
  active : Bool
  mode : MaintenanceType
  message : Option String
  scheduledStart : Option Instant
  scheduledEnd : Option Instant
deriving DecidableEq

structure MaintenanceConfig where
  globalEmergencyActive : Bool
  globalEmergencyMessage : Option String
  customerApp : MaintenanceAppState
  partnerApp : MaintenanceAppState
  supportEmail : Option String
  supportPhone : Option String
  bypassUids : List Uid

/-- What a caller is told about its own app. -/
structure MaintenanceStatus where
  blocked : Bool := false
  type : Option MaintenanceType := none
  message : Option String := none
  endsAt : Option Instant := none
  supportEmail : Option String := none
  supportPhone : Option String := none
deriving DecidableEq

def PARTNER_APP_ROLES : List String := ["merchant", "staff", "washer", "courier"]

def MaintenanceAppState.inWindow (now : Instant)
    (state : MaintenanceAppState) : Bool :=
  state.scheduledStart.any (· ≤ now) && state.scheduledEnd.any (now ≤ ·)

namespace MaintenanceConfig

def notBlocked (config : MaintenanceConfig) : MaintenanceStatus where
  supportEmail := config.supportEmail
  supportPhone := config.supportPhone

def block (type : MaintenanceType) (message : String)
    (endsAt : Option Instant) (config : MaintenanceConfig) :
    MaintenanceStatus :=
  { config.notBlocked with
    blocked := true, type := some type, message := some message, endsAt }

def appState (roleId : String) (config : MaintenanceConfig) :
    Option MaintenanceAppState :=
  if roleId = "customer" then some config.customerApp
  else if roleId ∈ PARTNER_APP_ROLES then some config.partnerApp
  else none

/-- What an app that is switched to maintenance answers. -/
def appStatus (now : Instant) (state : MaintenanceAppState)
    (config : MaintenanceConfig) : MaintenanceStatus :=
  match state.mode with
  | .EMERGENCY =>
    config.block .EMERGENCY (state.message.getD "This app is temporarily unavailable.") none
  | .SCHEDULED =>
    if state.inWindow now then
      config.block .SCHEDULED
        (state.message.getD "Scheduled maintenance is in progress.")
        state.scheduledEnd
    else
      config.notBlocked

def effectiveStateForRole (now : Instant) (roleId : Option String)
    (uid : Uid) (config : MaintenanceConfig) : MaintenanceStatus :=
  match roleId.filter (· ≠ "") with
  | none => {}
  | some roleId =>
    if roleId = "admin" ∨ roleId = "support" then
      {}
    else if uid ∈ config.bypassUids then
      config.notBlocked
    else if config.globalEmergencyActive then
      config.block .EMERGENCY
        (config.globalEmergencyMessage.getD ("The platform is " ++
          "temporarily unavailable. Please try again shortly.")) none
    else
      match (config.appState roleId).filter (·.active) with
      | none => config.notBlocked
      | some state => config.appStatus now state

end MaintenanceConfig

end Lalaba.Auth
