import Eisenberg.Client.Runs
import Eisenberg.Coordinator.Modes
import Eisenberg.Coordinator.SetActiveMode
import Eisenberg.Framework.History

/-!
# The coordinator's operations

Everything that asks Arlo for something once the coordinator is set up: the entities' commands,
the setting of a mode, and the upkeep of the health tick. Some go through `call_with_session_retry`
and some call the client directly.
-/

namespace Eisenberg.Coordinator

open Framework

/-- What an operation awaits besides a login: a method of the client, the event stream, or the
pruning of the archive. -/
inductive ArloRequest where
  | rest (method : Client.Method)
  | ensureMqtt
  | pruneOldMedia

/-- What is awaited comes back with a value that the operation looks at, if it looks at any; the
pruning, with the clock when it is done. -/
@[reducible] def ArloAnswers : ArloRequest → Type
  | .rest .getDevices => List DeviceInfo
  | .rest (.getActiveMode _) => ActiveModeState
  | .rest (.setActiveMode _ _ _ _) => ActiveModeState
  | .rest _ => Unit
  | .ensureMqtt => Bool
  | .pruneOldMedia => Nat

abbrev ArloReply := Request.Reply ArloAnswers

abbrev ArloAsync := Async ArloAnswers

/-- A method of the client, called directly. -/
def rest (method : Client.Method) : ArloAsync (ArloAnswers (.rest method)) :=
  Co.await (Request.client (ArloRequest.rest method))

/-! ## Commands -/

/-- What an entity asks of its device. -/
inductive EntityCommand where
  | startStream (deviceId : String)
  | setSpotlight (deviceId : String) (on : Bool) (intensity : Option Int)
  | setPrivacy (deviceId : String) (active : Bool)
  | setSiren (deviceId : String) (on : Bool)

def EntityCommand.method : EntityCommand → Client.Method
  | startStream deviceId => .startStream deviceId
  | setSpotlight deviceId on intensity => .setSpotlight deviceId on intensity
  | setPrivacy deviceId active => .setPrivacy deviceId active
  | setSiren deviceId on => .setSiren deviceId on

/-- An entity's command, through `call_with_session_retry`. -/
def entityCommand (command : EntityCommand) : ArloAsync Unit := do
  let _ ← callWithSessionRetry (rest command.method)
  return ()

/-- The active security mode of the device's location. -/
def modeForDevice (deviceId : String) (s : CoordinatorState) : Option String := do
  let device ← s.devices.find? fun d => d.deviceId = deviceId
  let location ← locationForDevice device s
  location.activeMode

/-- Ask Arlo for a fresh full-frame snapshot of a camera. -/
def requestSnapshot (deviceId : String) : ArloAsync Unit := do
  if modeForDevice deviceId (← get) = some ArloMode.standby.value then
    throw (.homeAssistantError
      "Cannot snapshot while disarmed — Arlo refuses cloud snapshots in standby")
  else
    try callWithSessionRetry (rest (.requestSnapshot deviceId))
    catch err =>
      if err.isHomeAssistantError || !err.isException then throw err
      else throw (.homeAssistantError s!"Snapshot request failed: {err.str}")

/-! ## Modes -/

def ModeRequest.method : ModeRequest → Client.Method
  | setActiveMode locationId mode revision custom =>
    .setActiveMode locationId mode revision custom
  | getActiveMode locationId => .getActiveMode locationId

def modeRequest : Request ModeRequest → Request ArloRequest
  | .login => .login
  | .client request => .client (.rest request.method)

def modeReply : (i : Request ModeRequest) → ArloReply (modeRequest i) → ModeReply i
  | .login, cookieJar => cookieJar
  | .client (.setActiveMode _ _ _ _), state => state
  | .client (.getActiveMode _), state => state

/-- `async_set_active_mode` among the other operations. -/
def setMode (locationId label : String) : ArloAsync Unit :=
  (asyncSetActiveMode locationId label).relabel modeRequest modeReply

/-! ## Upkeep -/

/-- An `except Exception` clause that logs. -/
def logged (c : ArloAsync Unit) : ArloAsync Unit :=
  try c
  catch err => if err.isException then pure () else throw err

/-- Register with a base station, then ask it for its state; one that does not register will not
answer. -/
def bringUpBase (baseId : String) : ArloAsync Unit := do
  let registered ←
    tryCatch (do let _ ← rest (.registerEventSubscription baseId); return true)
      fun err => if err.isException then pure false else throw err
  if registered then
    logged (rest (.requestDeviceStates baseId))

def bringUpEach : List String → ArloAsync Unit
  | [] => return ()
  | baseId :: baseIds => do
    bringUpBase baseId
    bringUpEach baseIds

/-- The devices that are base stations. -/
def baseIds (devices : List DeviceInfo) : List String :=
  (devices.filter fun d => d.isBaseStation).map fun d => d.deviceId

/-- Register with every base station, then ask it for its state. -/
def bringUpBaseStations (now : Nat) : ArloAsync Unit := do
  modify fun s => { s with lastBaseBringup := now }
  bringUpEach (baseIds (← get).devices)

/-- 25 minutes, on a clock that counts nanoseconds. -/
def BASE_STATION_RENEW_INTERVAL : Nat := 25 * 60 * 1000000000

/-- Renew the base-station registrations, unless one was just made. -/
def maybeRenewBaseStations (now : Nat) : ArloAsync Unit := do
  if now - (← get).lastBaseBringup < BASE_STATION_RENEW_INTERVAL then return ()
  else bringUpBaseStations now

/-- Re-read the REST device list. What its properties are merged into decides no request. -/
def refreshDevices : ArloAsync Unit :=
  logged do
    let _ ← rest .getDevices
    return ()

/-- The token refresh of a health tick: a verdict on the credentials ends the tick, anything else
leaves the token as it is. -/
def refreshToken : ArloAsync Unit :=
  try loginSilent
  catch err =>
    if err.isMfaRequired then
      throw (.configEntryAuthFailed "Trust cookie expired — re-authenticate to continue")
    else if err.isAuthenticationError || err.isRateLimitedError then
      throw (.configEntryAuthFailed err.str)
    else if err.isException then pure ()
    else throw err

/-- The steps of a health tick after the token refresh. -/
def maintain : ArloAsync Unit := do
  let _ ← Co.await (Request.client ArloRequest.ensureMqtt)
  let now ← Co.await (Request.client ArloRequest.pruneOldMedia)
  maybeRenewBaseStations now
  refreshDevices

/-- The periodic health check. -/
def healthTick (stale : Bool) : ArloAsync Unit := do
  if stale then refreshToken
  maintain

/-! ## Any operation -/

inductive Operation where
  | entityCommand (command : EntityCommand)
  | requestSnapshot (deviceId : String)
  | setActiveMode (locationId mode : String)
  | bringUpBaseStations (now : Nat)
  | refreshDevices
  /-- The client's fields and the clock are what `token_needs_refresh` reads at the start. -/
  | healthTick (client : Client.ClientState) (now : Nat)

def operate : Operation → ArloAsync Unit
  | .entityCommand command => entityCommand command
  | .requestSnapshot deviceId => requestSnapshot deviceId
  | .setActiveMode locationId mode => setMode locationId mode
  | .bringUpBaseStations now => bringUpBaseStations now
  | .refreshDevices => refreshDevices
  | .healthTick client now => healthTick (client.tokenNeedsRefresh now)

abbrev OperationPool := Pool Operation CoordinatorState Exc ArloReply Unit

inductive OperationEvent where
  | operation (event : PoolEvent Operation Exc ArloReply)
  /-- A frame of the event stream, which moves the modes of locations. -/
  | frame (f : Locations → Locations)

def OperationPool.step (p : OperationPool) : OperationEvent → Option OperationPool
  | .operation event => Pool.step operate p event
  | .frame f => some { p with shared := updateLocations f p.shared }

/-- Any number of operations at once, in any order of starts, answers and frames. -/
def operationMachine : Machine OperationPool OperationEvent where
  step := OperationPool.step

end Eisenberg.Coordinator
