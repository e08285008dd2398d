import Eisenberg.Client.CommandTargets
import Eisenberg.Coordinator.SseSupplement
import Eisenberg.Values.Locations

/-!
# The entities of the seven platforms

What each platform builds from the coordinator's devices and locations, and that the ids it
registers the entities under are distinct. An id is a device id with a suffix, and no suffix of a
platform ends in another one.
-/

namespace Eisenberg.Entities

open Framework Coordinator

/-! ## Names with suffixes -/

section Suffixes

/-- No suffix ends in another one. -/
def SuffixFree (suffixes : List String) : Prop :=
  ∀ s ∈ suffixes, ∀ t ∈ suffixes, s.toList <:+ t.toList → s = t

instance (suffixes : List String) : Decidable (SuffixFree suffixes) :=
  inferInstanceAs (Decidable (∀ s ∈ suffixes, ∀ t ∈ suffixes, s.toList <:+ t.toList → s = t))

variable {suffixes : List String}

theorem SuffixFree.append_inj (hfree : SuffixFree suffixes) {a b s t : String} (hs : s ∈ suffixes)
    (ht : t ∈ suffixes) (h : a ++ s = b ++ t) : a = b ∧ s = t := by
  have hlist : a.toList ++ s.toList = b.toList ++ t.toList := by
    rw [← String.toList_append, h, String.toList_append]
  have hsame : s = t := by
    have hends : s.toList <:+ b.toList ++ t.toList := ⟨a.toList, hlist⟩
    rcases List.suffix_or_suffix_of_suffix hends (List.suffix_append _ _) with hst | hts
    · exact hfree s hs t ht hst
    · exact (hfree t ht s hs hts).symm
  subst hsame
  exact ⟨String.toList_inj.mp (List.append_cancel_right hlist), rfl⟩

theorem SuffixFree.nodup_names (hfree : SuffixFree suffixes) {keys : List (String × String)}
    (hkeys : ∀ key ∈ keys, key.2 ∈ suffixes) (hnodup : keys.Nodup) :
    (keys.map fun key => key.1 ++ key.2).Nodup := by
  apply List.Nodup.map_on _ hnodup
  intro key hkey other hother h
  obtain ⟨hname, hsuffix⟩ := hfree.append_inj (hkeys key hkey) (hkeys other hother) h
  exact Prod.ext hname hsuffix

end Suffixes

/-! ## The entities -/

/-- What an entity is registered with. -/
structure Entity where
  uniqueId : String
  /-- `None` is the name of the device. -/
  name : Option String
  /-- The device of the `identifiers`, if there is one. -/
  device : Option String
  deriving DecidableEq, Repr

/-- An entity of one device, under the device's id and a suffix. -/
def deviceEntity (suffix : String) (name : Option String) (device : DeviceInfo) : Entity where
  uniqueId := device.deviceId ++ suffix
  name := name
  device := some device.deviceId

/-- `category.lower()`. -/
def lower (category : String) : String := String.ofList (category.toList.map Char.toLower)

def eisenbergCamera : DeviceInfo → Entity := deviceEntity "_camera" none

def motionSensor : DeviceInfo → Entity := deviceEntity "_motion" (some "Motion")

def detectionSensor (category : String) : DeviceInfo → Entity :=
  deviceEntity ("_" ++ lower category) (some (category ++ " detected"))

def contactSensor : DeviceInfo → Entity := deviceEntity "_contact" none

def basestationConnectivity : DeviceInfo → Entity :=
  deviceEntity "_basestation_connectivity" (some "Base station connectivity")

def snapshotButton : DeviceInfo → Entity := deviceEntity "_snapshot" (some "Snapshot")

def spotlightLight : DeviceInfo → Entity := deviceEntity "_spotlight" (some "Spotlight")

def batterySensor : DeviceInfo → Entity := deviceEntity "_battery" (some "Battery")

def signalStrengthSensor : DeviceInfo → Entity := deviceEntity "_signal" (some "Signal strength")

def sirenSwitch : DeviceInfo → Entity := deviceEntity "_siren" (some "Siren")

def cameraPowerSwitch : DeviceInfo → Entity := deviceEntity "_power" (some "Camera")

def LEGACY_UNIQUE_ID : String := "eisenberg_security_mode"

/-- A device that lives in this location, or the first one. -/
def representativeDevice (devices : List DeviceInfo) (location : LocationState) :
    Option DeviceInfo :=
  (devices.find? fun device => (resolveLocationForDevice device [location]).isSome).or
    devices.head?

def securityModeSelect (devices : List DeviceInfo) (single : Bool) (location : LocationState) :
    Entity where
  uniqueId := if single then LEGACY_UNIQUE_ID else LEGACY_UNIQUE_ID ++ "_" ++ location.locationId
  name := some (if single then "Security mode" else s!"Security mode ({label})")
  device := (representativeDevice devices location).map fun device => device.deviceId
where
  label := if location.locationName.getD "" = "" then location.locationId
    else location.locationName.getD ""

/-! ## The platforms -/

section Platforms

variable (devices : List DeviceInfo)

def buildCameras : List Entity := (cameras devices).map eisenbergCamera

/-- Motion, AI detection and connectivity per camera; a contact sensor per all-in-one sensor. -/
def buildBinarySensors : List Entity :=
  ((cameras devices).flatMap fun device =>
    [motionSensor device, detectionSensor "Person" device, detectionSensor "Vehicle" device,
      detectionSensor "Animal" device, basestationConnectivity device]) ++
    (contactSensors devices).map contactSensor

def buildButtons : List Entity := (cameras devices).map snapshotButton

def buildLights : List Entity := (cameras devices).map spotlightLight

/-- One select per location. -/
def buildModeSelects (locations : Locations) : List Entity :=
  locations.records.map (securityModeSelect devices (locations.records.length = 1))

/-- Battery and signal per camera; battery per all-in-one sensor. -/
def buildSensors : List Entity :=
  ((cameras devices).flatMap fun device => [batterySensor device, signalStrengthSensor device]) ++
    (contactSensors devices).map batterySensor

/-- The camera reports Arlo's privacy mode, or no properties at all. -/
def hasPowerSwitch (device : DeviceInfo) : Bool :=
  (device.properties.getD []).isEmpty ||
    (device.properties.getD []).any fun property => property.1 == "privacyActive"

/-- A siren per camera, and an on/off switch. -/
def buildSwitches : List Entity :=
  (cameras devices).map sirenSwitch ++
    ((cameras devices).filter hasPowerSwitch).map cameraPowerSwitch

inductive Platform where
  | camera | binarySensor | button | light | select | sensor | switch
  deriving DecidableEq, Repr

def Platform.build (locations : Locations) : Platform → List Entity
  | camera => buildCameras devices
  | binarySensor => buildBinarySensors devices
  | button => buildButtons devices
  | light => buildLights devices
  | select => buildModeSelects devices locations
  | sensor => buildSensors devices
  | switch => buildSwitches devices

end Platforms

/-! ## Distinct ids -/

section Distinct

/-- Each device under each suffix. -/
def block (devices : List DeviceInfo) (suffixes : List String) : List (String × String) :=
  devices.flatMap fun device => suffixes.map fun suffix => (device.deviceId, suffix)

variable {devices : List DeviceInfo} {suffixes : List String}

theorem mem_block {key : String × String} :
    key ∈ block devices suffixes ↔
      key.1 ∈ devices.map (fun d => d.deviceId) ∧ key.2 ∈ suffixes := by
  simp only [block, List.mem_flatMap, List.mem_map, Prod.ext_iff]
  constructor
  · rintro ⟨device, hdevice, suffix, hsuffix, hid, rfl⟩
    exact ⟨⟨device, hdevice, hid⟩, hsuffix⟩
  · rintro ⟨⟨device, hdevice, hid⟩, hsuffix⟩
    exact ⟨device, hdevice, key.2, hsuffix, hid, rfl⟩

theorem nodup_block (hdevices : (devices.map fun d => d.deviceId).Nodup)
    (hsuffixes : suffixes.Nodup) : (block devices suffixes).Nodup := by
  have hproduct : block devices suffixes =
      (devices.map fun d => d.deviceId) ×ˢ suffixes := by
    show _ = List.product _ _
    rw [block, List.product, List.flatMap_map]
  rw [hproduct]
  exact hdevices.product hsuffixes

/-- The ids of entities that are built for each device, of every kind. -/
theorem map_uniqueId_block (devices : List DeviceInfo) (kinds : List (String × Option String)) :
    (devices.flatMap fun device =>
        kinds.map fun kind => deviceEntity kind.1 kind.2 device).map (fun e => e.uniqueId) =
      (block devices (kinds.map Prod.fst)).map fun key => key.1 ++ key.2 := by
  rw [block, List.map_flatMap, List.map_flatMap]
  congr 1
  funext device
  simp [deviceEntity]

theorem map_uniqueId_single (devices : List DeviceInfo) (suffix : String) (name : Option String) :
    ((devices.map (deviceEntity suffix name)).map fun e => e.uniqueId) =
      (block devices [suffix]).map fun key => key.1 ++ key.2 := by
  have hmap : devices.map (deviceEntity suffix name) =
      devices.flatMap fun device => [deviceEntity suffix name device] := List.map_eq_flatMap
  rw [hmap]
  exact map_uniqueId_block devices [(suffix, name)]

/-- The ids of two blocks are distinct when they share no device, or no suffix. -/
theorem nodup_blocks {others : List DeviceInfo} {suffixes' : List String}
    (hfree : SuffixFree (suffixes ++ suffixes')) (hblock : (block devices suffixes).Nodup)
    (hblock' : (block others suffixes').Nodup)
    (hdisjoint : (∀ d ∈ devices, ∀ e ∈ others, d.deviceId ≠ e.deviceId) ∨
      ∀ suffix ∈ suffixes, suffix ∉ suffixes') :
    ((block devices suffixes ++ block others suffixes').map fun key => key.1 ++ key.2).Nodup := by
  apply hfree.nodup_names
  · intro key hkey
    rcases List.mem_append.mp hkey with hkey | hkey
    · exact List.mem_append_left _ (mem_block.mp hkey).2
    · exact List.mem_append_right _ (mem_block.mp hkey).2
  · apply List.nodup_append.mpr
    refine ⟨hblock, hblock', ?_⟩
    intro key hkey other hother heq
    subst heq
    obtain ⟨hid, hsuffix⟩ := mem_block.mp hkey
    obtain ⟨hid', hsuffix'⟩ := mem_block.mp hother
    rcases hdisjoint with hdevices | hsuffixes
    · obtain ⟨d, hd, hdid⟩ := List.mem_map.mp hid
      obtain ⟨e, he, heid⟩ := List.mem_map.mp hid'
      exact hdevices d hd e he (hdid.trans heid.symm)
    · exact hsuffixes key.2 hsuffix hsuffix'

theorem nodup_single (hdevices : (devices.map fun d => d.deviceId).Nodup) (suffix : String)
    (name : Option String) :
    ((devices.map (deviceEntity suffix name)).map fun e => e.uniqueId).Nodup := by
  have hfree : SuffixFree [suffix] := by
    intro s hs t ht _
    rw [List.mem_singleton.mp hs, List.mem_singleton.mp ht]
  rw [map_uniqueId_single]
  apply hfree.nodup_names
  · intro key hkey
    exact (mem_block.mp hkey).2
  · exact nodup_block hdevices (List.nodup_singleton suffix)

theorem nodup_cameras (hdevices : (devices.map fun d => d.deviceId).Nodup) :
    ((cameras devices).map fun d => d.deviceId).Nodup :=
  hdevices.sublist (List.filter_sublist.map _)

theorem nodup_contactSensors (hdevices : (devices.map fun d => d.deviceId).Nodup) :
    ((contactSensors devices).map fun d => d.deviceId).Nodup :=
  hdevices.sublist (List.filter_sublist.map _)

theorem cameras_disjoint_contactSensors (hdevices : (devices.map fun d => d.deviceId).Nodup) :
    ∀ d ∈ cameras devices, ∀ e ∈ contactSensors devices, d.deviceId ≠ e.deviceId := by
  intro d hd e he hid
  obtain ⟨hdmem, hnot⟩ := List.mem_filter.mp hd
  obtain ⟨hemem, hsensor⟩ := List.mem_filter.mp he
  obtain rfl := List.inj_on_of_nodup_map hdevices hdmem hemem hid
  simp [hsensor] at hnot

theorem nodup_cameras_contactSensors (hdevices : (devices.map fun d => d.deviceId).Nodup)
    {suffixes' : List String} (hfree : SuffixFree (suffixes ++ suffixes'))
    (hsuffixes : suffixes.Nodup) (hsuffixes' : suffixes'.Nodup) :
    ((block (cameras devices) suffixes ++ block (contactSensors devices) suffixes').map
      fun key => key.1 ++ key.2).Nodup := by
  apply nodup_blocks hfree
  · exact nodup_block (nodup_cameras hdevices) hsuffixes
  · exact nodup_block (nodup_contactSensors hdevices) hsuffixes'
  · exact Or.inl (cameras_disjoint_contactSensors hdevices)

/-- What each camera has among the binary sensors. -/
def binarySensorKinds : List (String × Option String) :=
  [("_motion", some "Motion"), ("_person", some "Person detected"),
    ("_vehicle", some "Vehicle detected"), ("_animal", some "Animal detected"),
    ("_basestation_connectivity", some "Base station connectivity")]

theorem detectionSensor_eq {category suffix name : String}
    (hsuffix : "_" ++ lower category = suffix)
    (hname : category ++ " detected" = name) :
    detectionSensor category = deviceEntity suffix (some name) := by
  rw [detectionSensor, hsuffix, hname]

theorem nodup_binarySensors (hdevices : (devices.map fun d => d.deviceId).Nodup) :
    ((buildBinarySensors devices).map fun e => e.uniqueId).Nodup := by
  have hids : ((buildBinarySensors devices).map fun e => e.uniqueId) =
      (block (cameras devices) (binarySensorKinds.map Prod.fst) ++
        block (contactSensors devices) ["_contact"]).map fun key => key.1 ++ key.2 := by
    rw [buildBinarySensors, List.map_append, List.map_append, ← map_uniqueId_block,
      ← map_uniqueId_single _ _ none,
      @detectionSensor_eq "Person" "_person" "Person detected" (by decide) (by decide),
      @detectionSensor_eq "Vehicle" "_vehicle" "Vehicle detected" (by decide) (by decide),
      @detectionSensor_eq "Animal" "_animal" "Animal detected" (by decide) (by decide)]
    rfl
  rw [hids]
  exact nodup_cameras_contactSensors hdevices (by decide) (by decide) (by decide)

theorem nodup_sensors (hdevices : (devices.map fun d => d.deviceId).Nodup) :
    ((buildSensors devices).map fun e => e.uniqueId).Nodup := by
  have hids : ((buildSensors devices).map fun e => e.uniqueId) =
      (block (cameras devices) ["_battery", "_signal"] ++
        block (contactSensors devices) ["_battery"]).map fun key => key.1 ++ key.2 := by
    rw [buildSensors, List.map_append, List.map_append,
      ← map_uniqueId_single _ _ (some "Battery")]
    congr 1
    exact map_uniqueId_block _ [("_battery", some "Battery"), ("_signal", some "Signal strength")]
  rw [hids]
  exact nodup_cameras_contactSensors hdevices (by decide) (by decide) (by decide)

theorem nodup_switches (hdevices : (devices.map fun d => d.deviceId).Nodup) :
    ((buildSwitches devices).map fun e => e.uniqueId).Nodup := by
  have hids : ((buildSwitches devices).map fun e => e.uniqueId) =
      (block (cameras devices) ["_siren"] ++
        block ((cameras devices).filter hasPowerSwitch) ["_power"]).map
          fun key => key.1 ++ key.2 := by
    rw [buildSwitches, List.map_append, List.map_append,
      ← map_uniqueId_single _ _ (some "Siren"), ← map_uniqueId_single _ _ (some "Camera")]
    rfl
  have hcameras := nodup_cameras hdevices
  rw [hids]
  apply nodup_blocks (by decide)
  · exact nodup_block hcameras (by decide)
  · exact nodup_block (hcameras.sublist (List.filter_sublist.map _)) (by decide)
  · exact Or.inr (by decide)

/-- Several locations have their own ids, a single one has the legacy id. -/
theorem nodup_modeSelects (devices : List DeviceInfo) (locations : Locations) :
    ((buildModeSelects devices locations).map fun e => e.uniqueId).Nodup := by
  rw [buildModeSelects, List.map_map]
  by_cases hsingle : locations.records.length = 1
  · obtain ⟨location, hlocation⟩ := List.length_eq_one_iff.mp hsingle
    rw [hlocation]
    exact List.nodup_singleton _
  · have hids : (fun e : Entity => e.uniqueId) ∘
        securityModeSelect devices (locations.records.length = 1) =
        (fun id => LEGACY_UNIQUE_ID ++ "_" ++ id) ∘ LocationState.locationId := by
      funext location
      simp [securityModeSelect, hsingle]
    rw [hids, ← List.map_map]
    apply locations.nodup.map
    intro a b h
    have hlist := congrArg String.toList h
    simp only [String.toList_append] at hlist
    exact String.toList_inj.mp (List.append_cancel_left hlist)

/-- Whatever records Arlo sends: the entities of each platform have distinct ids. -/
theorem uniqueIds_nodup {env : Client.ClientEnv} {p : Client.ClientPool}
    {lists : List (List DeviceInfo)} (h : Client.Discovered env p lists) {devices : List DeviceInfo}
    (hdevices : devices ∈ lists) (locations : Locations) (platform : Platform) :
    ((platform.build devices locations).map fun e => e.uniqueId).Nodup := by
  have hdistinct := (Client.known_of_discovered h).1.distinct devices hdevices
  cases platform with
  | camera => exact nodup_single (nodup_cameras hdistinct) _ _
  | binarySensor => exact nodup_binarySensors hdistinct
  | button => exact nodup_single (nodup_cameras hdistinct) _ _
  | light => exact nodup_single (nodup_cameras hdistinct) _ _
  | select => exact nodup_modeSelects devices locations
  | sensor => exact nodup_sensors hdistinct
  | switch => exact nodup_switches hdistinct

/-- The siren twin of a base station and the station, two cameras, one of them listed twice, and an
all-in-one sensor. -/
def homeListing : List (String × String × String) :=
  [("BASE", "VMB4540-siren", "siren"), ("BASE", "VMB4540", "basestation"),
    ("CAM", "VMC4040", "camera"), ("DOOR", "AVD1001", "doorbell"), ("DOOR", "AVD1001", "doorbell"),
    ("LEAK", "MS1001", "sensors")]

def homeBody : Json :=
  .obj [("success", .bool true), ("data", .arr (homeListing.map fun listed =>
    .obj [("deviceId", .str listed.1), ("deviceName", .str listed.1), ("modelId", .str listed.2.1),
      ("xCloudId", .str "XC"), ("deviceType", .str listed.2.2)]))]

def homeRecord (listed : String × String × String) : DeviceInfo where
  deviceId := listed.1
  deviceName := listed.1
  modelId := listed.2.1
  xCloudId := "XC"
  deviceType := some listed.2.2

def homeDevices : List DeviceInfo := Client.dedupeDevices (homeListing.map homeRecord)

def homeLocations : Locations where
  records := [{ locationId := "HOME" }, { locationId := "HOME_2" }]
  nodup := by simp

set_option maxRecDepth 8000 in
theorem home_discovered : ∃ p, Client.Discovered Client.hubEnv p [homeDevices] := by
  have hfresh : Client.Discovered Client.hubEnv ⟨Client.hubLoggedIn, []⟩ [] :=
    Client.Discovered.fresh rfl rfl
  have hstart := @Client.Discovered.step _ _ _ _ (.start .getDevices) hfresh rfl
  have hanswer := @Client.Discovered.step _ _ _ _ (.answer 0 (Client.hubReply homeBody)) hstart rfl
  exact ⟨_, @Client.Discovered.step _ _ _ _ (.deliver 0) hanswer rfl⟩

theorem uniqueIds_nodup_home :
    (∃ p, Client.Discovered Client.hubEnv p [homeDevices]) ∧
      homeDevices.map (fun d => d.modelId) = ["VMB4540", "VMC4040", "AVD1001", "MS1001"] ∧
      ((Platform.switch.build homeDevices homeLocations).map fun e => e.uniqueId) =
        ["CAM_siren", "DOOR_siren", "CAM_power", "DOOR_power"] ∧
      ∀ platform : Platform,
        ((platform.build homeDevices homeLocations).map fun e => e.uniqueId).Nodup := by
  obtain ⟨p, hdiscovered⟩ := home_discovered
  exact ⟨⟨p, hdiscovered⟩, by decide +kernel, by decide +kernel,
    uniqueIds_nodup hdiscovered (by simp) homeLocations⟩

end Distinct

end Eisenberg.Entities
