import Eisenberg.Values.Json

/-!
# Payload models

The models of `eisenberg/models.py` that hold the state of a device. Validation reads a key by its
alias, then by its name; what pydantic makes of a scalar is a parameter.
-/

namespace Eisenberg

/-- The scalar conversions of a model field; `none` is a validation error. -/
structure Scalars where
  bool : Json → Option Bool
  int : Json → Option Int
  str : Json → Option String

/-- Conversions that take each scalar as it is. -/
def plainScalars : Scalars where
  bool := fun value => match value with | .bool b => some b | _ => none
  int := fun value => match value with | .int n => some n | _ => none
  str := Json.str?

/-- A field `T | None = Field(None, alias=...)`: absent and null both give `None`. -/
def optionalField {α : Type} (parse : Json → Option α) (key name : String)
    (fields : List (String × Json)) : Option (Option α) :=
  match (Json.lookup key fields).or (Json.lookup name fields) with
  | none | some .null => some none
  | some value => (parse value).map some

def requiredField {α : Type} (parse : Json → Option α) (key name : String)
    (fields : List (String × Json)) : Option α :=
  (Json.lookup key fields).or (Json.lookup name fields) >>= parse

/-- Camera device state update: any subset of the fields can appear. -/
structure DeviceState where
  motionDetected : Option Bool := none
  activityState : Option String := none
  dateStarted : Option Int := none
  signalStrength : Option Int := none
  batteryLevel : Option Int := none
  chargingState : Option String := none
  connectionState : Option String := none
  privacyActive : Option Bool := none
  contactState : Option Bool := none
  deriving DecidableEq, Repr

inductive DeviceField where
  | motionDetected | activityState | dateStarted | signalStrength | batteryLevel | chargingState
  | connectionState | privacyActive | contactState
  deriving DecidableEq, Repr

inductive Scalar where
  | bool (b : Bool)
  | int (n : Int)
  | str (s : String)
  deriving DecidableEq, Repr

namespace DeviceState

/-- The value of a field, `none` for `None`. -/
def get (s : DeviceState) : DeviceField → Option Scalar
  | .motionDetected => s.motionDetected.map .bool
  | .activityState => s.activityState.map .str
  | .dateStarted => s.dateStarted.map .int
  | .signalStrength => s.signalStrength.map .int
  | .batteryLevel => s.batteryLevel.map .int
  | .chargingState => s.chargingState.map .str
  | .connectionState => s.connectionState.map .str
  | .privacyActive => s.privacyActive.map .bool
  | .contactState => s.contactState.map .bool

/-- `DeviceState.model_validate(block)`. -/
def validate (scalars : Scalars) : Json → Option DeviceState
  | .obj fields => do
    let motionDetected ← optionalField scalars.bool "motionDetected" "motion_detected" fields
    let activityState ← optionalField scalars.str "activityState" "activity_state" fields
    let dateStarted ← optionalField scalars.int "dateStarted" "date_started" fields
    let signalStrength ← optionalField scalars.int "signalStrength" "signal_strength" fields
    let batteryLevel ← optionalField scalars.int "batteryLevel" "battery_level" fields
    let chargingState ← optionalField scalars.str "chargingState" "charging_state" fields
    let connectionState ← optionalField scalars.str "connectionState" "connection_state" fields
    let privacyActive ← optionalField scalars.bool "privacyActive" "privacy_active" fields
    let contactState ← optionalField scalars.bool "contactState" "contact_state" fields
    return { motionDetected, activityState, dateStarted, signalStrength, batteryLevel,
             chargingState, connectionState, privacyActive, contactState }
  | _ => none

/-- `current.model_copy(update=incoming.model_dump(exclude_none=True))`. -/
def merge (current incoming : DeviceState) : DeviceState where
  motionDetected := incoming.motionDetected.or current.motionDetected
  activityState := incoming.activityState.or current.activityState
  dateStarted := incoming.dateStarted.or current.dateStarted
  signalStrength := incoming.signalStrength.or current.signalStrength
  batteryLevel := incoming.batteryLevel.or current.batteryLevel
  chargingState := incoming.chargingState.or current.chargingState
  connectionState := incoming.connectionState.or current.connectionState
  privacyActive := incoming.privacyActive.or current.privacyActive
  contactState := incoming.contactState.or current.contactState

theorem get_merge (current incoming : DeviceState) (f : DeviceField) :
    (current.merge incoming).get f = (incoming.get f).or (current.get f) := by
  cases f <;> simp [get, merge, Option.map_or]

@[simp] theorem get_default (f : DeviceField) : ({} : DeviceState).get f = none := by
  cases f <;> rfl

theorem eq_default_iff {s : DeviceState} : s = {} ↔ ∀ f, s.get f = none := by
  constructor
  · rintro rfl f
    exact get_default f
  · intro h
    rw [mk.injEq]
    refine ⟨?_, ?_, ?_, ?_, ?_, ?_, ?_, ?_, ?_⟩
    · exact Option.map_eq_none_iff.mp (h .motionDetected)
    · exact Option.map_eq_none_iff.mp (h .activityState)
    · exact Option.map_eq_none_iff.mp (h .dateStarted)
    · exact Option.map_eq_none_iff.mp (h .signalStrength)
    · exact Option.map_eq_none_iff.mp (h .batteryLevel)
    · exact Option.map_eq_none_iff.mp (h .chargingState)
    · exact Option.map_eq_none_iff.mp (h .connectionState)
    · exact Option.map_eq_none_iff.mp (h .privacyActive)
    · exact Option.map_eq_none_iff.mp (h .contactState)

end DeviceState

/-- Camera-integrated spotlight state, under the `spotlight` key of a property block. -/
structure SpotlightState where
  enabled : Bool
  intensity : Option Int
  deriving DecidableEq, Repr

def SpotlightState.validate (scalars : Scalars) (fields : List (String × Json)) :
    Option SpotlightState := do
  let enabled ← requiredField scalars.bool "enabled" "enabled" fields
  let intensity ← optionalField scalars.int "intensity" "intensity" fields
  return { enabled, intensity }

/-- Siren state from MQTT. -/
structure SirenState where
  sirenState : String
  sirenTrigger : Option String := none
  duration : Option Int := none
  volume : Option Int := none
  pattern : Option String := none
  sirenTimestamp : Option Int := none
  deriving DecidableEq, Repr

namespace SirenState

/-- `SirenState.model_validate(properties)`. -/
def validate (scalars : Scalars) : Json → Option SirenState
  | .obj fields => do
    let sirenState ← requiredField scalars.str "sirenState" "siren_state" fields
    let sirenTrigger ← optionalField scalars.str "sirenTrigger" "siren_trigger" fields
    let duration ← optionalField scalars.int "duration" "duration" fields
    let volume ← optionalField scalars.int "volume" "volume" fields
    let pattern ← optionalField scalars.str "pattern" "pattern" fields
    let sirenTimestamp ← optionalField scalars.int "sirenTimestamp" "siren_timestamp" fields
    return { sirenState, sirenTrigger, duration, volume, pattern, sirenTimestamp }
  | _ => none

def isOn (state : SirenState) : Bool := state.sirenState == "on"

end SirenState

/-- Properties of a base station's heartbeat; an ack frame has none. -/
structure BasestationState where
  connectionState : Option String
  deriving DecidableEq, Repr

/-- `BasestationState.model_validate(properties)`. -/
def BasestationState.validate (scalars : Scalars) : Json → Option BasestationState
  | .obj fields => do
    let connectionState ←
      optionalField scalars.str "connectionState" "connection_state" fields
    return { connectionState }
  | _ => none

/-- Device info from the devices list API. -/
structure DeviceInfo where
  deviceId : String
  parentId : Option String := none
  properties : Option (List (String × Json)) := none
  deviceName : String := ""
  modelId : String := ""
  xCloudId : String := ""
  userId : Option String := none
  deviceType : Option String := none
  allowedMqttTopics : List String := []
  connectivity : Option (List (String × Json)) := none

namespace DeviceInfo

/-- `(self.device_type or "").lower()`, as far as the comparisons with ASCII names below see it. -/
def deviceClass (device : DeviceInfo) : String :=
  String.ofList ((device.deviceType.getD "").toList.map Char.toLower)

/-- True when this device is base-station infrastructure, not a camera. -/
def isBaseStation (device : DeviceInfo) : Bool :=
  device.deviceClass ∈ ["basestation", "arlobridge", "hub"]

def isDoorbell (device : DeviceInfo) : Bool := device.deviceClass == "doorbell"

/-- True for an all-in-one sensor (MS1001). -/
def isSensor (device : DeviceInfo) : Bool := device.deviceClass == "sensors"

/-- MQTT filter for this device's `cameras/<id>` resource. -/
def cameraResourceFilter (device : DeviceInfo) : String :=
  "d/" ++ device.xCloudId ++ "/out/cameras/" ++ device.deviceId ++ "/#"

end DeviceInfo

end Eisenberg
