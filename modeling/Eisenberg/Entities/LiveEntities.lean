import Eisenberg.Coordinator.LiveReports
import Eisenberg.Coordinator.Operations
import Eisenberg.Entities.Brightness
import Eisenberg.Entities.UniqueIds
import Eisenberg.Framework.Display

/-!
# What the entities show

The attributes that `_handle_coordinator_update` sets on the entities of a device: most keep their
value until something is reported, some read the coordinator each time. The detection sensors and
the mode selects are modelled apart, with what else they do.
-/

namespace Eisenberg.Entities

open Framework Coordinator

abbrev LiveDisplay := Display LiveState (Option Scalar)

section Displays

variable (device : DeviceInfo)

/-- `(self._device.properties or {}).get(key)`. -/
def property (key : String) : Option Json := Json.lookup key (device.properties.getD [])

/-- The value if `isinstance(value, bool)`. -/
def boolSeed : Option Json → Option Scalar
  | some (.bool b) => some (.bool b)
  | _ => none

/-- The value if `isinstance(value, int)`, which a bool is too. -/
def intSeed : Option Json → Option Scalar
  | some (.int n) => some (.int n)
  | some (.bool b) => some (.bool b)
  | _ => none

def negated : Scalar → Scalar
  | .bool b => .bool !b
  | value => value

/-- `state == "available"`. -/
def isAvailable : Scalar → Scalar
  | .str state => .bool (state == "available")
  | value => value

/-- `MotionSensor.is_on`. -/
def MotionSensor.isOn : LiveDisplay :=
  .sticky (fun c => c.view device.deviceId (.device .motionDetected)) (some (.bool false))

/-- `ContactSensor._is_open`. -/
def ContactSensor.isOpen (c : LiveState) : Option Scalar :=
  (c.view device.deviceId (.device .contactState)).or (boolSeed (property device "contactState"))

/-- `ContactSensor.is_on`. -/
def ContactSensor.isOn : LiveDisplay :=
  .direct (ContactSensor.isOpen device) (ContactSensor.isOpen device)

/-- `BasestationConnectivity.is_on`, by the parent or the device itself. -/
def BasestationConnectivity.isOn : LiveDisplay :=
  .sticky (fun c => (c.view device.gateway .connection).map isAvailable) none

/-- `BatterySensor.native_value`. -/
def BatterySensor.nativeValue : LiveDisplay :=
  .sticky (fun c => c.view device.deviceId (.device .batteryLevel))
    (intSeed (property device "batteryLevel"))

/-- `SignalStrengthSensor.native_value`. -/
def SignalStrengthSensor.nativeValue : LiveDisplay :=
  .sticky (fun c => c.view device.deviceId (.device .signalStrength))
    (intSeed (property device "signalStrength"))

/-- `SirenSwitch.is_on`. -/
def SirenSwitch.isOn : LiveDisplay :=
  .sticky (fun c => c.view device.deviceId .siren) (some (.bool false))

/-- `CameraPowerSwitch._is_on`: Arlo's privacy mode, inverted. -/
def CameraPowerSwitch.isOnNow (c : LiveState) : Option Scalar :=
  ((c.view device.deviceId (.device .privacyActive)).map negated).or
    ((boolSeed (property device "privacyActive")).map negated)

/-- `CameraPowerSwitch.is_on`. -/
def CameraPowerSwitch.isOn : LiveDisplay :=
  .direct (CameraPowerSwitch.isOnNow device) (CameraPowerSwitch.isOnNow device)

/-- `SpotlightLight.is_on`. -/
def SpotlightLight.isOn : LiveDisplay :=
  .sticky (fun c => c.view device.deviceId .spotlight) (some (.bool false))

/-- `activity_state in ("userStreamActive", "alertStreamActive")`. -/
def isStreamActive : Option Scalar → Bool
  | some (.str state) => state == "userStreamActive" || state == "alertStreamActive"
  | _ => false

/-- `EisenbergCamera.is_streaming`. -/
def EisenbergCamera.isStreaming : LiveDisplay :=
  .direct (fun _ => some (.bool false)) fun c =>
    some (.bool (isStreamActive (c.view device.deviceId (.device .activityState))))

/-- `EisenbergCamera.motion_detection_enabled`. -/
def EisenbergCamera.motionDetectionEnabled : LiveDisplay :=
  .direct (fun _ => some (.bool true)) fun c =>
    some (.bool (modeForDevice device.deviceId c.client != some ArloMode.standby.value))

end Displays

inductive Attribute where
  | motion | contact | connectivity | battery | signal | siren | power | spotlight | streaming
  | motionDetection
  deriving DecidableEq

namespace Attribute

def display (device : DeviceInfo) : Attribute → LiveDisplay
  | motion => MotionSensor.isOn device
  | contact => ContactSensor.isOn device
  | connectivity => BasestationConnectivity.isOn device
  | battery => BatterySensor.nativeValue device
  | signal => SignalStrengthSensor.nativeValue device
  | siren => SirenSwitch.isOn device
  | power => CameraPowerSwitch.isOn device
  | spotlight => SpotlightLight.isOn device
  | streaming => EisenbergCamera.isStreaming device
  | motionDetection => EisenbergCamera.motionDetectionEnabled device

/-- The attributes of the entities that the platforms build, each with its device. -/
def built (devices : List DeviceInfo) : List (Attribute × DeviceInfo) :=
  ((cameras devices).flatMap fun device =>
    ([motion, connectivity, battery, signal, siren, spotlight, streaming, motionDetection] ++
      if hasPowerSwitch device then [power] else []).map fun attr => (attr, device)) ++
    (contactSensors devices).flatMap fun device => [(contact, device), (battery, device)]

end Attribute

/-- The brightness of a `SpotlightLight`, which keeps the last intensity that a broadcast found. -/
structure SpotlightBrightness where
  device : DeviceInfo
  value : Option ℤ := none
  /-- A broadcast has reached the light. -/
  updated : Bool := false

namespace SpotlightBrightness

/-- `spotlight_states[device_id].intensity`, if the spotlight is known and has one. -/
def intensity (d : String) (c : LiveState) : Option Int :=
  (c.store.spotlightStates.get? d).bind fun state => state.intensity

/-- `_handle_coordinator_update`. -/
def update (c : LiveState) (l : SpotlightBrightness) : SpotlightBrightness :=
  { l with value := ((intensity l.device.deviceId c).map brightnessOf).or l.value, updated := true }

def follow (c : LiveState) (pushed : Bool) (l : SpotlightBrightness) : SpotlightBrightness :=
  if pushed then l.update c else l

end SpotlightBrightness

/-! ## A revision changes no mode -/

section Revision

variable {s s' : CoordinatorState} {g : LocationState → LocationState}

theorem locationForDevice_map (device : DeviceInfo)
    (hclaims : ∀ l gateway, (g l).claims gateway = l.claims gateway)
    (hrecords : s'.locations.records = s.locations.records.map g) :
    locationForDevice device s' = (locationForDevice device s).map g := by
  have hresolve : resolveLocationForDevice device s'.locations.records =
      (resolveLocationForDevice device s.locations.records).map g := by
    simp only [resolveLocationForDevice, hrecords, List.find?_map, Function.comp_def, hclaims]
  unfold locationForDevice
  rw [hresolve, hrecords, List.head?_map]
  cases resolveLocationForDevice device s.locations.records <;> rfl

theorem modeForDevice_setRevision (deviceId locationId : String) (revision : Int) :
    modeForDevice deviceId (updateLocations (·.setRevision locationId revision) s) =
      modeForDevice deviceId s := by
  unfold modeForDevice
  have hdevices : (updateLocations (·.setRevision locationId revision) s).devices = s.devices := rfl
  rw [hdevices]
  cases s.devices.find? fun d => d.deviceId = deviceId with
  | none => rfl
  | some device =>
    have hmap : locationForDevice device (updateLocations (·.setRevision locationId revision) s) =
        (locationForDevice device s).map fun l =>
          if l.locationId = locationId then l.setRevision revision else l := by
      apply locationForDevice_map device _ rfl
      intro l gateway
      split <;> rfl
    show (locationForDevice device _).bind _ = (locationForDevice device s).bind _
    rw [hmap]
    cases locationForDevice device s with
    | none => rfl
    | some l =>
      simp only [Option.map_some, Option.bind_some]
      split <;> rfl

end Revision

/-! ## What is reported is not forgotten -/

/-- Nothing that is known in the first state is unknown in the second. -/
def Known (c c' : LiveState) : Prop := ∀ d field, c'.view d field = none → c.view d field = none

theorem Known.refl (c : LiveState) : Known c c := fun _ _ => id

theorem Known.trans {c c' c'' : LiveState} (h : Known c c') (h' : Known c' c'') : Known c c'' :=
  fun d field hnone => h d field (h' d field hnone)

theorem Known.of_view {c c' : LiveState} (h : c'.view = c.view) : Known c c' := by
  intro d field hnone
  rwa [h] at hnone

theorem known_of_reports {c c' : LiveState} {reports : List Report}
    (h : c'.view = reports.foldl Write.apply c.view) : Known c c' := by
  intro d field hnone
  rw [h, Write.foldl_apply, Option.or_eq_none_iff] at hnone
  exact hnone.2

namespace Attribute

theorem display_lawful (device : DeviceInfo) (attr : Attribute) :
    (attr.display device).Lawful Known := by
  cases attr with
  | contact | power | streaming | motionDetection => exact Display.direct_lawful ..
  | connectivity =>
    apply Display.sticky_lawful
    intro c c' hknown hnone
    rw [Option.map_eq_none_iff] at hnone ⊢
    exact hknown _ _ hnone
  | motion | battery | signal | siren | spotlight =>
    exact Display.sticky_lawful _ fun c c' hknown hnone => hknown _ _ hnone

/-- An attribute shows reports of its device, or its location's mode. -/
theorem showing_congr (device : DeviceInfo) (attr : Attribute) {c c' : LiveState}
    (hview : c'.view = c.view)
    (hmode : modeForDevice device.deviceId c'.client = modeForDevice device.deviceId c.client) :
    (attr.display device).showing c' = (attr.display device).showing c := by
  cases attr <;> simp only [display, MotionSensor.isOn, ContactSensor.isOn,
    BasestationConnectivity.isOn, BatterySensor.nativeValue, SignalStrengthSensor.nativeValue,
    SirenSwitch.isOn, CameraPowerSwitch.isOn, SpotlightLight.isOn, EisenbergCamera.isStreaming,
    EisenbergCamera.motionDetectionEnabled, Display.showing_sticky, Display.showing_direct,
    ContactSensor.isOpen, CameraPowerSwitch.isOnNow, hview, hmode]

/-! ## What is shown of the last report -/

/-- The device whose reports the attribute shows. -/
def key (device : DeviceInfo) : Attribute → String
  | connectivity => device.gateway
  | _ => device.deviceId

/-- The reported field it shows; what the mode says is no report of the device. -/
def field : Attribute → Option LiveField
  | motion => some (.device .motionDetected)
  | contact => some (.device .contactState)
  | connectivity => some .connection
  | battery => some (.device .batteryLevel)
  | signal => some (.device .signalStrength)
  | siren => some .siren
  | power => some (.device .privacyActive)
  | spotlight => some .spotlight
  | streaming => some (.device .activityState)
  | motionDetection => none

/-- What is shown for the last report, or for none. -/
def render (device : DeviceInfo) : Attribute → Option Scalar → Option Scalar
  | motion, report | siren, report | spotlight, report => report.or (some (.bool false))
  | contact, report => report.or (boolSeed (property device "contactState"))
  | connectivity, report => report.map isAvailable
  | battery, report => report.or (intSeed (property device "batteryLevel"))
  | signal, report => report.or (intSeed (property device "signalStrength"))
  | power, report =>
    (report.map negated).or ((boolSeed (property device "privacyActive")).map negated)
  | streaming, report => some (.bool (isStreamActive report))
  | motionDetection, report => report

theorem showing_eq (device : DeviceInfo) {attr : Attribute} {f : LiveField}
    (h : attr.field = some f) (c : LiveState) :
    (attr.display device).showing c =
      attr.render device (c.view (attr.key device) f) := by
  cases attr <;> cases h <;> try rfl
  exact Option.or_none

end Attribute

end Eisenberg.Entities
