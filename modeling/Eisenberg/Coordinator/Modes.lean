import Eisenberg.Coordinator.Session
import Eisenberg.Mqtt.Router

/-!
# Mode events

The three handlers that move a location's mode on a frame, and `_apply_mode` behind them. Each
finds the location by a key of its own: a locationId, or the device a topic names.
-/

namespace Eisenberg.Coordinator

open Framework Mqtt

/-- Resolve a device to its location, falling back when unmatched. -/
def locationForDevice (device : DeviceInfo) (s : CoordinatorState) : Option LocationState :=
  match resolveLocationForDevice device s.locations.records with
  | some l => some l
  | none => s.locations.records.head?

/-- Record a mode change from an MQTT event onto the right location. -/
def applyMode (locationId : Option String) (mode : String) (custom : Dict String String)
    (s : CoordinatorState) : CoordinatorState :=
  match locationId with
  | some locationId =>
    match s.locations.get? locationId with
    | some _ => { s with locations := s.locations.setMode locationId mode custom }
    | none => s
  | none =>
    match s.locations.records with
    | [sole] => { s with locations := s.locations.setMode sole.locationId mode custom }
    | _ => s

/-- `_handle_active_mode`. -/
def handleActiveMode (scalars : Scalars) (payload : Json) (s : CoordinatorState) :
    CoordinatorState :=
  match ActiveMode.validate scalars ((payload.get? "properties").getD (.obj [])) with
  | some mode =>
    applyMode ((payload.get? "locationId").bind Json.str?) mode.properties.mode
      mode.properties.custom s
  | none => s

/-- The mode change feed event, without the fields no handler reads. -/
structure ModeChangeEvent where
  activeMode : String
  locationId : Option String

namespace ModeChangeEvent

/-- The optional text fields that are only validated. -/
def textFields : List (String × String) :=
  [("date", "date"), ("timeZone", "time_zone"), ("resource", "resource"), ("ownerId", "owner_id"),
    ("userId", "user_id"), ("feedId", "feed_id"), ("uniqueId", "unique_id"), ("state", "state"),
    ("action", "action")]

def countFields : List (String × String) :=
  [("feedObjectCount", "feed_object_count"), ("mediaObjectCount", "media_object_count")]

/-- `ModeChangeEvent.model_validate(payload)`. -/
def validate (scalars : Scalars) : Json → Option ModeChangeEvent
  | .obj fields => do
    let _ ← requiredField scalars.str "type" "type" fields
    let activeMode ← requiredField scalars.str "activeMode" "active_mode" fields
    let _ ← requiredField scalars.str "deviceId" "device_id" fields
    let _ ← requiredField scalars.int "utcCreatedDate" "utc_created_date" fields
    let locationId ← optionalField scalars.str "locationId" "location_id" fields
    guard (textFields.all fun (key, name) => (optionalField scalars.str key name fields).isSome)
    guard (countFields.all fun (key, name) => (optionalField scalars.int key name fields).isSome)
    guard (optionalField scalars.bool "donated" "donated" fields).isSome
    return { activeMode, locationId }
  | _ => none

end ModeChangeEvent

/-- `_handle_feed` on a frame of type modeChange; the other types leave the modes alone. -/
def handleFeed (scalars : Scalars) (payload : Json) (s : CoordinatorState) : CoordinatorState :=
  match payload.get? "type" with
  | some (.str "modeChange") =>
    match ModeChangeEvent.validate scalars payload with
    | some event =>
      if event.activeMode ∈ standardModes then
        applyMode event.locationId event.activeMode Dict.empty s
      else s
    | none => s
  | _ => s

/-- The standard mode a states block carries. -/
def broadcastMode (payload : Json) : Option String :=
  match payload.get? "states" with
  | some (.obj states) =>
    match Json.lookup "activeMode" states with
    | some (.str activeMode) => if activeMode ∈ standardModes then some activeMode else none
    | _ => none
  | _ => none

/-- The listed device a topic d/{xCloudId}/out/devices/{deviceId}/states/is names. -/
def broadcastingDevice (topic : String) (s : CoordinatorState) : Option DeviceInfo :=
  match (splitTopic topic)[4]? with
  | some deviceId => s.devices.find? fun d => d.deviceId = deviceId
  | none => none

/-- `_handle_device_states`. -/
def handleDeviceStates (topic : String) (payload : Json) (s : CoordinatorState) :
    CoordinatorState :=
  match broadcastMode payload with
  | some activeMode =>
    let location := (broadcastingDevice topic s).bind fun device => locationForDevice device s
    applyMode (location.map (·.locationId)) activeMode Dict.empty s
  | none => s

section Apply

variable {s : CoordinatorState} {mode : String} {custom : Dict String String}

theorem applyMode_some_get? (locationId j : String) :
    (applyMode (some locationId) mode custom s).locations.get? j =
      if j = locationId then (s.locations.get? j).map (·.setMode mode custom)
      else s.locations.get? j := by
  cases hfind : s.locations.get? locationId with
  | none =>
    simp only [applyMode, hfind]
    by_cases hj : j = locationId
    · subst hj
      simp [hfind]
    · rw [if_neg hj]
  | some l =>
    simp only [applyMode, hfind, Locations.get?_setMode]
    by_cases hj : j = locationId
    · subst hj
      simp [hfind]
    · rw [if_neg hj, if_neg hj]

theorem applyMode_none (htwo : 2 ≤ s.locations.records.length) :
    applyMode none mode custom s = s := by
  simp only [applyMode]
  split
  next sole hsole => simp [hsole] at htwo
  next => rfl

/-- Where each location stands after a mode change, when there are several. -/
theorem applyMode_get? (htwo : 2 ≤ s.locations.records.length) {l : LocationState}
    (hl : l ∈ s.locations.records) {locationId : Option String} :
    (applyMode locationId mode custom s).locations.get? l.locationId =
      some (if locationId = some l.locationId then l.setMode mode custom else l) := by
  cases locationId with
  | none =>
    rw [applyMode_none htwo, if_neg (by simp)]
    exact Table.get?_key hl
  | some locationId =>
    rw [applyMode_some_get?, Table.get?_key hl]
    by_cases hid : l.locationId = locationId
    · rw [if_pos hid, if_pos (congrArg some hid.symm)]
      rfl
    · rw [if_neg hid, if_neg fun h => hid (Option.some.inj h).symm]

theorem locationForDevice_of_unclaimed {device : DeviceInfo}
    (h : ∀ l ∈ s.locations.records, l.claims device.gateway = false) :
    locationForDevice device s = s.locations.records.head? := by
  have hnone : resolveLocationForDevice device s.locations.records = none := by
    rw [resolveLocationForDevice, List.find?_eq_none]
    intro l hl
    simp [h l hl]
  rw [locationForDevice, hnone]

theorem locationForDevice_cases {device : DeviceInfo} {l : LocationState}
    (h : locationForDevice device s = some l) :
    l.claims device.gateway = true ∨
      (∀ l ∈ s.locations.records, l.claims device.gateway = false) ∧
        s.locations.records.head? = some l := by
  unfold locationForDevice at h
  split at h
  next l' hl' =>
    cases h
    left
    simpa using List.find?_some (p := fun l : LocationState => l.claims device.gateway) hl'
  next hnone =>
    refine Or.inr ⟨?_, h⟩
    intro l hl
    simpa using List.find?_eq_none.mp hnone l hl

theorem locationForDevice_mem {device : DeviceInfo} {l : LocationState}
    (h : locationForDevice device s = some l) : l ∈ s.locations.records := by
  unfold locationForDevice at h
  split at h
  next l' hl' =>
    cases h
    exact List.mem_of_find?_eq_some hl'
  next => exact List.mem_of_mem_head? h

end Apply

/-!
### Whom a frame moves
-/

/-- A frame of one of the three kinds. -/
inductive ModeFrame where
  | activeMode (payload : Json)
  | feed (payload : Json)
  | deviceStates (topic : String) (payload : Json)

namespace ModeFrame

def apply (scalars : Scalars) : ModeFrame → CoordinatorState → CoordinatorState
  | activeMode payload, s => handleActiveMode scalars payload s
  | feed payload, s => handleFeed scalars payload s
  | deviceStates topic payload, s => handleDeviceStates topic payload s

/-- The frame is about this location: by its locationId, or by the broadcasting device's gateway,
which the location lists bare or behind its owner, `{ownerId}_{gateway}`. -/
def Names (scalars : Scalars) (s : CoordinatorState) (l : LocationState) : ModeFrame → Prop
  | activeMode payload => payload.get? "locationId" = some (.str l.locationId)
  | feed payload =>
    (ModeChangeEvent.validate scalars payload).bind (·.locationId) = some l.locationId
  | deviceStates topic _ =>
    ∃ device, broadcastingDevice topic s = some device ∧ ∃ gid ∈ l.gatewayDeviceIds,
      gid = device.gateway ∨
        ∃ owner : String, '_' ∉ owner.toList ∧ gid = owner ++ "_" ++ device.gateway

/-- No location but those the frame names changes its mode or its custom map. -/
def MovesOnlyNamed (scalars : Scalars) (s : CoordinatorState) (frame : ModeFrame) : Prop :=
  ∀ l ∈ s.locations.records, ∃ l', (frame.apply scalars s).locations.get? l.locationId = some l' ∧
    (l'.activeMode = l.activeMode ∧ l'.activeCustom = l.activeCustom ∨ frame.Names scalars s l)

/-- A broadcast of a listed device whose gateway no location claims, of a mode the first location
is not in. -/
def FallsBack (s : CoordinatorState) : ModeFrame → Prop
  | deviceStates topic payload =>
    ∃ mode device first, broadcastMode payload = some mode ∧
      broadcastingDevice topic s = some device ∧
      (∀ l ∈ s.locations.records, l.claims device.gateway = false) ∧
      s.locations.records.head? = some first ∧
      ¬ (first.activeMode = some mode ∧ first.activeCustom = Dict.empty)
  | _ => False

variable {scalars : Scalars} {s : CoordinatorState} {frame : ModeFrame}

theorem movesOnlyNamed_of_unchanged (happly : frame.apply scalars s = s) :
    frame.MovesOnlyNamed scalars s := by
  intro l hl
  refine ⟨l, ?_, Or.inl ⟨rfl, rfl⟩⟩
  rw [happly]
  exact Table.get?_key hl

theorem movesOnlyNamed_of_applyMode (htwo : 2 ≤ s.locations.records.length)
    {locationId : Option String} {mode : String} {custom : Dict String String}
    (happly : frame.apply scalars s = applyMode locationId mode custom s)
    (hnames : ∀ l ∈ s.locations.records, locationId = some l.locationId →
      (l.activeMode = some mode ∧ l.activeCustom = LocationState.recordedCustom mode custom) ∨
        frame.Names scalars s l) :
    frame.MovesOnlyNamed scalars s := by
  intro l hl
  rw [happly, applyMode_get? htwo hl]
  by_cases hid : locationId = some l.locationId
  · rw [if_pos hid]
    refine ⟨_, rfl, ?_⟩
    rcases hnames l hl hid with ⟨hmode, hcustom⟩ | hnamed
    · exact Or.inl ⟨hmode.symm, hcustom.symm⟩
    · exact Or.inr hnamed
  · rw [if_neg hid]
    exact ⟨l, rfl, Or.inl ⟨rfl, rfl⟩⟩

theorem activeMode_movesOnlyNamed (htwo : 2 ≤ s.locations.records.length) (payload : Json) :
    (activeMode payload).MovesOnlyNamed scalars s := by
  cases hvalid : ActiveMode.validate scalars ((payload.get? "properties").getD (.obj [])) with
  | none => exact movesOnlyNamed_of_unchanged (by simp [apply, handleActiveMode, hvalid])
  | some mode =>
    have happly : (activeMode payload).apply scalars s =
        applyMode ((payload.get? "locationId").bind Json.str?) mode.properties.mode
          mode.properties.custom s := by
      simp only [apply, handleActiveMode, hvalid]
    apply movesOnlyNamed_of_applyMode htwo happly
    intro l _ hid
    right
    obtain ⟨value, hvalue, hstr⟩ := Option.bind_eq_some_iff.mp hid
    cases value <;> simp only [Json.str?, reduceCtorEq, Option.some.injEq] at hstr
    rw [Names, hvalue, hstr]

theorem feed_movesOnlyNamed (htwo : 2 ≤ s.locations.records.length) (payload : Json) :
    (feed payload).MovesOnlyNamed scalars s := by
  have hcases : (feed payload).apply scalars s = s ∨ ∃ event,
      ModeChangeEvent.validate scalars payload = some event ∧
      (feed payload).apply scalars s =
        applyMode event.locationId event.activeMode Dict.empty s := by
    simp only [apply, handleFeed]
    split
    · split
      next event hvalid =>
        split
        · exact Or.inr ⟨event, hvalid, rfl⟩
        · exact Or.inl rfl
      next => exact Or.inl rfl
    · exact Or.inl rfl
  rcases hcases with hsame | ⟨event, hvalid, happly⟩
  · exact movesOnlyNamed_of_unchanged hsame
  · apply movesOnlyNamed_of_applyMode htwo happly
    intro l _ hid
    right
    rw [Names, hvalid]
    exact hid

theorem deviceStates_movesOnlyNamed (htwo : 2 ≤ s.locations.records.length) (topic : String)
    (payload : Json) (hfalls : ¬ (deviceStates topic payload).FallsBack s) :
    (deviceStates topic payload).MovesOnlyNamed scalars s := by
  cases hmode : broadcastMode payload with
  | none => exact movesOnlyNamed_of_unchanged (by simp [apply, handleDeviceStates, hmode])
  | some mode =>
    have happly : (deviceStates topic payload).apply scalars s =
        applyMode (((broadcastingDevice topic s).bind fun device =>
          locationForDevice device s).map (·.locationId)) mode Dict.empty s := by
      simp only [apply, handleDeviceStates, hmode]
    apply movesOnlyNamed_of_applyMode htwo happly
    intro l hl hid
    obtain ⟨l', hlocation, hl'⟩ := Option.map_eq_some_iff.mp hid
    obtain ⟨device, hdevice, hfor⟩ := Option.bind_eq_some_iff.mp hlocation
    have hsame : l' = l := by
      have hget := Table.get?_key (locationForDevice_mem hfor)
      rw [hl', Table.get?_key hl] at hget
      exact (Option.some.inj hget).symm
    subst hsame
    rcases locationForDevice_cases hfor with hclaims | ⟨hunclaimed, hfirst⟩
    · exact Or.inr ⟨device, hdevice, LocationState.claims_iff.mp hclaims⟩
    · left
      rw [LocationState.recordedCustom_empty]
      by_contra hmoved
      exact hfalls ⟨mode, device, l', hmode, hdevice, hunclaimed, hfirst, hmoved⟩

theorem not_movesOnlyNamed_of_fallsBack (htwo : 2 ≤ s.locations.records.length)
    (hfalls : frame.FallsBack s) : ¬ frame.MovesOnlyNamed scalars s := by
  cases frame with
  | activeMode payload => exact hfalls.elim
  | feed payload => exact hfalls.elim
  | deviceStates topic payload =>
    obtain ⟨mode, device, first, hmode, hdevice, hunclaimed, hfirst, hmoved⟩ := hfalls
    intro hmoves
    have hmem : first ∈ s.locations.records := List.mem_of_mem_head? hfirst
    have hfor : locationForDevice device s = some first := by
      rw [locationForDevice_of_unclaimed hunclaimed, hfirst]
    have happly : (deviceStates topic payload).apply scalars s =
        applyMode (some first.locationId) mode Dict.empty s := by
      simp only [apply, handleDeviceStates, hmode, hdevice, Option.bind_some, hfor,
        Option.map_some]
    obtain ⟨l', hl', hkept⟩ := hmoves first hmem
    rw [happly, applyMode_get? htwo hmem, if_pos rfl] at hl'
    cases hl'
    rcases hkept with ⟨hmode', hcustom'⟩ | ⟨device', hdevice', hlisted⟩
    · refine hmoved ⟨hmode'.symm, ?_⟩
      rw [← hcustom']
      exact LocationState.recordedCustom_empty mode
    · rw [hdevice] at hdevice'
      cases hdevice'
      have hclaims := LocationState.claims_iff.mpr hlisted
      rw [hunclaimed first hmem] at hclaims
      cases hclaims

/-- With two locations or more, a frame moves only the locations it names unless it is a broadcast
that falls back. -/
theorem movesOnlyNamed_iff (scalars : Scalars) (s : CoordinatorState) (frame : ModeFrame)
    (htwo : 2 ≤ s.locations.records.length) :
    frame.MovesOnlyNamed scalars s ↔ ¬ frame.FallsBack s := by
  constructor
  · intro hmoves hfalls
    exact not_movesOnlyNamed_of_fallsBack htwo hfalls hmoves
  · intro hfalls
    cases frame with
    | activeMode payload => exact activeMode_movesOnlyNamed htwo payload
    | feed payload => exact feed_movesOnlyNamed htwo payload
    | deviceStates topic payload => exact deviceStates_movesOnlyNamed htwo topic payload hfalls

end ModeFrame

/-!
### Two houses

A base station that no location lists broadcasts its disarmed mode.
-/

def homeLocation : LocationState :=
  { locationId := "home", gatewayDeviceIds := ["OWNER_BASE-1"], activeMode := some "armAway" }

def cabinLocation : LocationState :=
  { locationId := "cabin", gatewayDeviceIds := ["OWNER_BASE-2"], activeMode := some "standby" }

def twoHouses : CoordinatorState where
  devices := [{ deviceId := "CAM-1", parentId := some "BASE-1" },
    { deviceId := "CAM-9", parentId := some "BASE-9" }]
  locations := ⟨[homeLocation, cabinLocation], by decide⟩

def standbyBroadcast (topic : String) : ModeFrame :=
  .deviceStates topic (.obj [("states", .obj [("activeMode", .str "standby")])])

theorem movesOnlyNamed_iff_claimed :
    (standbyBroadcast "d/X/out/devices/CAM-1/states/is").MovesOnlyNamed plainScalars twoHouses := by
  refine (ModeFrame.movesOnlyNamed_iff plainScalars twoHouses _ (by decide)).mpr ?_
  rintro ⟨mode, device, first, -, hdevice, hunclaimed, -, -⟩
  cases hdevice
  exact absurd (hunclaimed homeLocation List.mem_cons_self) (by decide)

/-- The broadcast of the unlisted base shows the first house as disarmed. -/
theorem not_movesOnlyNamed_unclaimed :
    ¬ (standbyBroadcast "d/X/out/devices/CAM-9/states/is").MovesOnlyNamed plainScalars twoHouses :=
  ModeFrame.not_movesOnlyNamed_of_fallsBack (by decide)
    ⟨"standby", _, homeLocation, rfl, rfl, by decide, rfl, by decide⟩

end Eisenberg.Coordinator
