import Eisenberg.Client.Login

/-!
# The REST methods

The methods of the client that need a token: the device list, locations and modes, and the commands
for one device or base station. What a method makes of an answer is a function of its own.
-/

namespace Eisenberg.Client

open Framework

section Commands

variable (env : ClientEnv)

/-- The token of a request, and the failure of a client that has none. -/
def tokenOf (s : ClientState) : Except Exc Json :=
  if s.token.isNull then .error notAuthenticated else .ok s.token

/-- `f"{self.user_id}_web"`. -/
def webId (s : ClientState) : String := s.userId.getD "None" ++ "_web"

/-! ## Devices -/

/-- Whether a record replaces the one kept for its id. -/
def replaces (existing : Option DeviceInfo) (device : DeviceInfo) : Bool :=
  match existing with
  | none => true
  | some kept => kept.modelId.endsWith "-siren" && !device.modelId.endsWith "-siren"

/-- Collapse device records that share a deviceId. -/
def dedupeDevices (devices : List DeviceInfo) : List DeviceInfo :=
  (devices.foldl (fun kept device =>
    if replaces (kept.get? device.deviceId) device then kept.set device.deviceId device else kept)
    Dict.empty).values

def readDevices (body : Json) : Except Exc (List DeviceInfo) := do
  checkSuccess env "get_devices" body
  let data ← body.item "data"
  let items ← data.iter
  let devices ← items.mapM fun item => validated (validateDevice env.scalars item)
  return dedupeDevices devices

/-- Every field that decides how a per-device command is addressed. -/
def recordDevice (s : ClientState) (device : DeviceInfo) : ClientState :=
  { s with
    deviceCloudIds := s.deviceCloudIds.set device.deviceId device.xCloudId
    deviceParentIds := s.deviceParentIds.set device.deviceId device.gateway }

def recordDevices (devices : List DeviceInfo) (s : ClientState) : ClientState :=
  let s := devices.foldl recordDevice s
  { s with xCloudId := s.xCloudId.or (devices.head?.map fun d => d.xCloudId) }

/-- Fetch all devices. -/
def getDevices : Async (List DeviceInfo) := do
  let s ← get
  let token ← Co.ret (tokenOf s)
  let (_, body) ← exchange env
    { method := .GET
      host := .myapi
      path := "/hmsweb/v2/users/devices"
      headers := myapiHeaders token s }
  let devices ← Co.ret (readDevices env body)
  modify (recordDevices devices)
  return devices

/-! ## Locations and modes -/

/-- The list under one key of the data block; anything else is passed over. -/
def bucket (data : Json) (key : String) : List Json :=
  match data.item key with
  | .ok (.arr items) => items
  | _ => []

def locationBuckets : List String :=
  ["userLocations", "ownedLocations", "sharedLocations", "locations"]

/-- `deduped.setdefault(info.location_id, info)`. -/
def setDefault (deduped : Dict String LocationInfo) (info : LocationInfo) :
    Dict String LocationInfo :=
  if (deduped.get? info.locationId).isSome then deduped else deduped.set info.locationId info

def readLocations (body : Json) : Except Exc (List LocationInfo) :=
  match body.item "data" with
  | .error _ => .ok []
  | .ok data => do
    let infos ← (locationBuckets.flatMap (bucket data)).mapM fun item =>
      validated (LocationInfo.validate env.scalars item)
    return (infos.foldl setDefault Dict.empty).values

/-- List every location the user can see — owned AND shared. -/
def getLocations : Async (List LocationInfo) := do
  let s ← get
  match s.userId with
  | none => throw notAuthenticated
  | some userId =>
    let token ← Co.ret (tokenOf s)
    let (_, body) ← exchange env
      { method := .GET
        host := .myapi
        path := "/hmsdevicemanagement/users/" ++ userId ++ "/locations"
        headers := myapiHeaders token s }
    Co.ret (readLocations env body)

/-- The `data` of a body, or the body itself when it has none. -/
def dataOrBody (body : Json) : Json :=
  match body.item "data" with
  | .ok data => data
  | .error _ => body

def readActiveMode (body : Json) : Except Exc ActiveModeState :=
  validated (validateActiveModeState env.scalars (dataOrBody body))

/-- GET the current active mode + revision for a location. -/
def getActiveMode (locationId : String) : Async ActiveModeState := do
  let s ← get
  let token ← Co.ret (tokenOf s)
  let headers ← Co.ret (v3ModeHeaders token s)
  let (_, body) ← exchange env
    { method := .GET
      host := .myapi
      path := "/hmsweb/automation/v3/activeMode"
      headers := headers
      params := [("locationId", locationId)] }
  Co.ret (readActiveMode env body)

def readCustomModes (body : Json) : Except Exc (List (String × List (Json × String))) := do
  checkSuccess env "get_custom_modes" body
  let data ← body.item "data"
  let modes ← data.dictGet "customModes"
  match modes with
  | none | some .null => return []
  | some modes =>
    let raw ← modes.item "properties"
    customModeLabels env.scalars raw

/-- Custom modes of a location: gateway id → mode key → label. -/
def getCustomModes (locationId : String) : Async (List (String × List (Json × String))) := do
  let s ← get
  let token ← Co.ret (tokenOf s)
  let headers ← Co.ret (v3ModeHeaders token s)
  let (_, body) ← exchange env
    { method := .GET
      host := .myapi
      path := "/hmsweb/automation/v3"
      headers := headers
      params := [("locationId", locationId), ("revisions", "false")] }
  Co.ret (readCustomModes env body)

/-- `success is False`. -/
def isFalse : Json → Bool
  | .bool b => !b
  | _ => false

def readSetMode (body : Json) : Except Exc ActiveModeState :=
  match body.item "success" with
  | .ok success =>
    if isFalse success then .error (arloError env body "set_active_mode")
    else readActiveMode env body
  | .error _ => readActiveMode env body

/-- Set the active mode for a location. Returns the new revision. -/
def setActiveMode (locationId mode : String) (revision : Int)
    (custom : Option (Dict String String)) : Async ActiveModeState := do
  let s ← get
  let token ← Co.ret (tokenOf s)
  let headers ← Co.ret (v3ModeHeaders token s)
  let (_, body) ← exchange env
    { method := .PUT
      host := .myapi
      path := "/hmsweb/automation/v3/activeMode"
      headers := headers
      params := [("locationId", locationId), ("revision", toString revision)]
      json := some (.obj (("mode", .str mode) ::
        match custom with
        | none => []
        | some custom => [("custom", .obj (custom.entries.map fun (k, v) => (k, .str v)))])) }
  Co.ret (readSetMode env body)

/-! ## Commands for one device -/

/-- The payload that is addressed to a gateway. -/
def gatewayPayload (s : ClientState) (target action resource : String) (publishResponse : Bool)
    (properties : List (String × Json)) : Json :=
  .obj ([("from", .str (webId s)), ("to", .str target), ("action", .str action),
    ("resource", .str resource), ("publishResponse", .bool publishResponse)] ++ properties)

/-- Post a command and check the answer. -/
def postCommand (op path : String) (headers : List (String × Json)) (payload : Json) :
    Async Unit := do
  let (_, body) ← exchange env
    { method := .POST, host := .myapi, path := path, headers := headers, json := some payload }
  Co.ret (checkSuccess env op body)

/-- A command for a device, addressed to its gateway. -/
def deviceCommand (op deviceId : String) (path : String → String)
    (payload : ClientState → String → Json) : Async Unit := do
  let s ← get
  let token ← Co.ret (tokenOf s)
  let target ← Co.ret (deviceTarget deviceId s)
  let headers ← Co.ret (deviceHeaders token deviceId s)
  postCommand env op (path target) headers (payload s target)

def notifyPath (target : String) : String := "/hmsweb/users/devices/notify/" ++ target

/-- Request a full-frame snapshot. Response comes via MQTT. -/
def requestSnapshot (deviceId : String) : Async Unit :=
  deviceCommand env "request_snapshot" deviceId
    (fun _ => "/hmsweb/users/devices/fullFrameSnapshot")
    fun s target => gatewayPayload s target "set" ("cameras/" ++ deviceId) true
      [("properties", .obj [("activityState", .str "fullFrameSnapshot")])]

/-- Turn the camera spotlight on/off and optionally set brightness. -/
def setSpotlight (deviceId : String) (on : Bool) (intensity : Option Int) : Async Unit :=
  deviceCommand env "set_spotlight" deviceId notifyPath
    fun s target => gatewayPayload s target "set" ("cameras/" ++ deviceId) true
      [("properties", .obj [("spotlight", .obj (("enabled", .bool on) ::
        match intensity with
        | none => []
        | some intensity => [("intensity", .int intensity)]))])]

/-- Switch a camera off (privacy active) or back on. -/
def setPrivacy (deviceId : String) (active : Bool) : Async Unit :=
  deviceCommand env "set_privacy" deviceId notifyPath
    fun s target => gatewayPayload s target "set" ("cameras/" ++ deviceId) true
      [("properties", .obj [("privacyActive", .bool active)])]

/-- Turn siren on or off. -/
def setSiren (deviceId : String) (on : Bool) : Async Unit :=
  deviceCommand env "set_siren" deviceId notifyPath
    fun s target => gatewayPayload s target "set" ("siren/" ++ deviceId) true
      [("properties", .obj (("sirenState", .str (if on then "on" else "off")) ::
        if on then [("duration", .int 180), ("volume", .int 8), ("pattern", .str "alarm")]
        else []))]

/-- A command for a base station, which is its own gateway. -/
def baseCommand (op baseId : String) (payload : ClientState → Json) : Async Unit := do
  let s ← get
  let token ← Co.ret (tokenOf s)
  let headers ← Co.ret (deviceHeaders token baseId s)
  postCommand env op (notifyPath baseId) headers (payload s)

/-- Tell a base station to publish events to this session. -/
def registerEventSubscription (baseId : String) : Async Unit :=
  baseCommand env "register_event_subscription" baseId
    fun s => gatewayPayload s baseId "set" ("subscriptions/" ++ webId s) false
      [("properties", .obj [("devices", .arr [.str baseId])])]

/-- Ask a base station to report the state of the devices it gateways. -/
def requestDeviceStates (baseId : String) : Async Unit :=
  baseCommand env "request_device_states" baseId
    fun s => gatewayPayload s baseId "get" "devices" true []

def readStream (body : Json) : Except Exc StreamResponse := do
  checkSuccess env "start_stream" body
  let data ← body.item "data"
  validated (StreamResponse.validate env.scalars data)

/-- Start a live stream. Returns RTSP URL (uses mobile UA). -/
def startStream (deviceId : String) : Async StreamResponse := do
  let s ← get
  let token ← Co.ret (tokenOf s)
  let headers ← Co.ret (deviceHeadersMobile token deviceId s)
  let target ← Co.ret (deviceTarget deviceId s)
  let (_, body) ← exchange env
    { method := .POST
      host := .myapi
      path := "/hmsweb/users/devices/startStream"
      headers := headers
      json := some (gatewayPayload s target "set" ("cameras/" ++ deviceId) true
        [("properties", .obj [("activityState", .str "startUserStream"),
          ("cameraId", .str deviceId)])]) }
  Co.ret (readStream env body)

end Commands

end Eisenberg.Client
