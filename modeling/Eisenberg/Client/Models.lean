import Eisenberg.Values.Locations
import Eisenberg.Values.PythonJson

/-!
# What the REST answers are parsed into

The models of `eisenberg/models.py` that the client validates an answer against. Validation gives
`none` where pydantic raises its ValidationError.
-/

namespace Eisenberg.Client

open Framework

/-- `Model.model_validate(value)`. -/
def validated {α : Type} (parsed : Option α) : Except Exc α :=
  match parsed with
  | some value => .ok value
  | none => .error (.builtin .validationError "")

/-- A field `list[str]`, empty by default. -/
def textsField (scalars : Scalars) (key name : String) (fields : List (String × Json)) :
    Option (List String) :=
  match (Json.lookup key fields).or (Json.lookup name fields) with
  | none => some []
  | some (.arr items) => items.mapM scalars.str
  | some _ => none

def fieldsOf : Json → Option (List (String × Json))
  | .obj fields => some fields
  | _ => none

/-- The `data` block of POST /api/auth. -/
structure AuthData where
  token : String
  userId : String
  authCompleted : Bool
  mfaState : Option String
  deriving DecidableEq, Repr

namespace AuthData

def validate (scalars : Scalars) : Json → Option AuthData
  | .obj fields => do
    let token ← requiredField scalars.str "token" "token" fields
    let userId ← requiredField scalars.str "userId" "user_id" fields
    let authCompleted ← requiredField scalars.bool "authCompleted" "auth_completed" fields
    let mfaState ← optionalField scalars.str "MFA_State" "mfa_state" fields
    return { token, userId, authCompleted, mfaState }
  | _ => none

/-- True when Arlo says the account has no second factor to satisfy. -/
def mfaDisabledByService (auth : AuthData) : Bool := auth.mfaState == some "DISABLED"

end AuthData

def factorTypeOf : Json → Option FactorType
  | .str s =>
    if s = "PUSH" then some .PUSH
    else if s = "EMAIL" then some .EMAIL
    else if s = "SMS" then some .SMS
    else if s = "BROWSER" then some .BROWSER
    else none
  | _ => none

def validateSecondFactor (scalars : Scalars) : Json → Option SecondFactor
  | .obj fields => do
    let factorId ← requiredField scalars.str "factorId" "factor_id" fields
    let factorType ← requiredField factorTypeOf "factorType" "factor_type" fields
    let displayName ← requiredField scalars.str "displayName" "display_name" fields
    let factorNickname ← optionalField scalars.str "factorNickname" "factor_nickname" fields
    let factorRole ← requiredField scalars.str "factorRole" "factor_role" fields
    return { factorId, factorType, displayName, factorNickname, factorRole }
  | _ => none

def validateDevice (scalars : Scalars) : Json → Option DeviceInfo
  | .obj fields => do
    let deviceId ← requiredField scalars.str "deviceId" "device_id" fields
    let deviceName ← requiredField scalars.str "deviceName" "device_name" fields
    let modelId ← requiredField scalars.str "modelId" "model_id" fields
    let xCloudId ← requiredField scalars.str "xCloudId" "x_cloud_id" fields
    let userId ← optionalField scalars.str "userId" "user_id" fields
    let deviceType ← optionalField scalars.str "deviceType" "device_type" fields
    let parentId ← optionalField scalars.str "parentId" "parent_id" fields
    let allowedMqttTopics ← textsField scalars "allowedMqttTopics" "allowed_mqtt_topics" fields
    let properties ← optionalField fieldsOf "properties" "properties" fields
    let connectivity ← optionalField fieldsOf "connectivity" "connectivity" fields
    return { deviceId, deviceName, modelId, xCloudId, userId, deviceType, parentId,
             allowedMqttTopics, properties, connectivity }
  | _ => none

/-- One entry from GET /hmsdevicemanagement/users/{userId}/locations. -/
structure LocationInfo where
  locationId : String
  locationName : Option String
  gatewayDeviceIds : List String
  deriving DecidableEq, Repr

def LocationInfo.validate (scalars : Scalars) : Json → Option LocationInfo
  | .obj fields => do
    let locationId ← requiredField scalars.str "locationId" "location_id" fields
    let locationName ← optionalField scalars.str "locationName" "location_name" fields
    let gatewayDeviceIds ← textsField scalars "gatewayDeviceIds" "gateway_device_ids" fields
    return { locationId, locationName, gatewayDeviceIds }
  | _ => none

/-- `ActiveModeState.model_validate(data)`. -/
def validateActiveModeState (scalars : Scalars) : Json → Option ActiveModeState
  | .obj fields => do
    let properties ←
      optionalField (ActiveModeProperties.validate scalars) "properties" "properties" fields
    let revision ←
      match Json.lookup "revision" fields with
      | none => some 0
      | some value => scalars.int value
    return { properties, revision }
  | _ => none

/-- Response from POST /hmsweb/users/devices/startStream. -/
structure StreamResponse where
  url : String
  sipCallInfo : Option (List (String × Json))
  iceServers : Option (List (String × Json))

def StreamResponse.validate (scalars : Scalars) : Json → Option StreamResponse
  | .obj fields => do
    let url ← requiredField scalars.str "url" "url" fields
    let sipCallInfo ← optionalField fieldsOf "sipCallInfo" "sip_call_info" fields
    let iceServers ← optionalField fieldsOf "iceServers" "ice_servers" fields
    return { url, sipCallInfo, iceServers }
  | _ => none

/-! ## Custom modes -/

/-- Whether two keys of a `dict` are one: numbers are compared by value. -/
def sameKey : Json → Json → Bool
  | .str s, .str t => s == t
  | .null, .null => true
  | .int n, key | key, .int n => key.eqInt n
  | .bool b, key | key, .bool b => key.eqInt (if b then 1 else 0)
  | .float m e, .float m' e' => if e ≤ e' then m == m' * 10 ^ (e' - e).toNat
      else m * 10 ^ (e - e').toNat == m'
  | _, _ => false

def putKey (key value : Json) : List (Json × Json) → List (Json × Json)
  | [] => [(key, value)]
  | (k, v) :: rest => if sameKey k key then (k, value) :: rest else (k, v) :: putKey key value rest

def unhashable (key : Json) : Bool :=
  match key with
  | .arr _ | .obj _ => true
  | _ => false

/-- One element of the sequence a `dict` is built from: a pair, given as any iterable of two. -/
def pairOf (element : Json) : Except Exc (Json × Json) :=
  match element with
  | .arr items => two items
  | .str s => two (s.toList.map fun c => .str (String.ofList [c]))
  | .obj fields => two (fields.map fun field => .str field.1)
  | _ => .error (.builtin .typeError "cannot convert dictionary update sequence element to a sequence")
where
  two : List Json → Except Exc (Json × Json)
    | [key, value] =>
      if unhashable key then .error (.builtin .typeError s!"unhashable type: '{key.pyType}'")
      else .ok (key, value)
    | _ => .error (.builtin .valueError "dictionary update sequence element has not length 2")

/-- `dict(value)`. -/
def toDict (value : Json) : Except Exc (List (Json × Json)) :=
  match value with
  | .obj fields => .ok (fields.map fun field => (.str field.1, field.2))
  | .arr items => (items.mapM pairOf).map fun pairs =>
      pairs.foldl (fun entries pair => putKey pair.1 pair.2 entries) []
  | .str s =>
    if s = "" then .ok []
    else .error (.builtin .valueError "dictionary update sequence element has not length 2")
  | _ => .error (.builtin .typeError s!"'{value.pyType}' object is not iterable")

/-- `CustomModeEntry.model_validate(value)`: the name, empty by default. -/
def customModeName (scalars : Scalars) : Json → Option String
  | .obj fields =>
    match Json.lookup "name" fields with
    | none => some ""
    | some name => scalars.str name
  | _ => none

/-- The name Arlo gives a migrated pre-v3 mode. -/
def UNNAMED_CUSTOM_MODE : String := "__DEFAULT_DISARMED__"

/-- The named modes of one gateway. -/
def gatewayLabels (scalars : Scalars) (modes : Json) : Except Exc (List (Json × String)) := do
  let entries ← toDict modes
  let named ← entries.mapM fun entry => do
    let name ← validated (customModeName scalars entry.2)
    return (entry.1, name)
  return named.filter fun entry => entry.2 != "" && entry.2 != UNNAMED_CUSTOM_MODE

/-- customModes.properties → gateway id → mode key → name, named modes only. -/
def customModeLabels (scalars : Scalars) (raw : Json) :
    Except Exc (List (String × List (Json × String))) :=
  match raw with
  | .obj gateways => gateways.mapM fun gateway => do
      let labels ← gatewayLabels scalars gateway.2
      return (gateway.1, labels)
  | value => .error (value.noAttribute "items")

end Eisenberg.Client
