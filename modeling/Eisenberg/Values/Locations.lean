import Eisenberg.Framework.Dict
import Eisenberg.Framework.Separator
import Eisenberg.Framework.Table
import Eisenberg.Values.Models

/-!
# Locations and their modes

`LocationState` and the v3 activeMode models of `eisenberg/models.py`, and the functions of the
coordinator that tell which location a device belongs to.
-/

namespace Eisenberg

open Framework

inductive ArloMode where
  | armAway | armHome | standby
  deriving DecidableEq, Repr

def ArloMode.value : ArloMode → String
  | armAway => "armAway"
  | armHome => "armHome"
  | standby => "standby"

/-- `[m.value for m in ArloMode]`, and `_STANDARD_MODES` as a set. -/
def standardModes : List String := [ArloMode.armAway, .armHome, .standby].map ArloMode.value

def customMode : String := "custom"

theorem customMode_not_standard : customMode ∉ standardModes := by decide

structure LocationState where
  locationId : String
  locationName : Option String := none
  gatewayDeviceIds : List String := []
  activeMode : Option String := none
  /-- Gateway id → custom mode key. -/
  activeCustom : Dict String String := Dict.empty
  /-- Gateway id → custom mode key → label. -/
  customModes : Dict String (Dict String String) := Dict.empty
  modeRevision : Int := 1
  deriving DecidableEq

namespace LocationState

/-- The custom map a mode is recorded with. -/
def recordedCustom (mode : String) (custom : Dict String String) : Dict String String :=
  if mode = customMode then custom else Dict.empty

@[simp] theorem recordedCustom_empty (mode : String) :
    recordedCustom mode Dict.empty = Dict.empty := by
  unfold recordedCustom
  split <;> rfl

/-- Record the location's active mode as Arlo's activeMode states it. -/
def setMode (l : LocationState) (mode : String) (custom : Dict String String) : LocationState :=
  { l with activeMode := some mode, activeCustom := recordedCustom mode custom }

def setRevision (l : LocationState) (revision : Int) : LocationState :=
  { l with modeRevision := revision }

/-- The active mode as offered to users: standard key or custom label. -/
def modeLabel (l : LocationState) : Option String :=
  if l.activeMode ≠ some customMode then l.activeMode
  else
    match l.activeCustom.entries with
    | [] => none
    | (gatewayId, key) :: _ =>
      some ((((l.customModes.get? gatewayId).getD Dict.empty).get? key).getD key)

def addOption (options : List String) (label : String) : List String :=
  if label ∈ options then options else options ++ [label]

/-- Standard modes, then each distinct named custom mode, then the active one if it is not there. -/
def modeOptions (l : LocationState) : List String :=
  let options := l.customModes.values.foldl
    (fun options modes => modes.values.foldl addOption options) standardModes
  match l.modeLabel with
  | some active => addOption options active
  | none => options

/-- The activeMode `custom` map selecting `label` on every gateway that has it. -/
def customTarget (l : LocationState) (label : String) : Dict String String :=
  Dict.ofEntries (l.customModes.entries.flatMap fun (gatewayId, modes) =>
    (modes.entries.filter fun (_, modeLabel) => modeLabel = label).map fun (key, _) =>
      (gatewayId, key))

/-!
### Labels, options and targets
-/

/-- Some gateway has a custom mode of this label. -/
def Named (l : LocationState) (label : String) : Prop :=
  ∃ gatewayId modes key, l.customModes.get? gatewayId = some modes ∧ modes.get? key = some label

theorem mem_addOption {options : List String} {a label : String} :
    a ∈ addOption options label ↔ a ∈ options ∨ a = label := by
  unfold addOption
  split
  next hmem =>
    constructor
    · exact Or.inl
    · rintro (h | rfl)
      · exact h
      · exact hmem
  next => simp

theorem mem_foldl_addOption {labels options : List String} {a : String} :
    a ∈ labels.foldl addOption options ↔ a ∈ options ∨ a ∈ labels := by
  induction labels generalizing options with
  | nil => simp
  | cons label rest ih =>
    rw [List.foldl_cons, ih, mem_addOption, List.mem_cons, or_assoc]

theorem mem_foldl_modes {modes : List (Dict String String)} {options : List String} {a : String} :
    a ∈ modes.foldl (fun options m => m.values.foldl addOption options) options ↔
      a ∈ options ∨ ∃ m ∈ modes, a ∈ m.values := by
  induction modes generalizing options with
  | nil => simp
  | cons m rest ih =>
    rw [List.foldl_cons, ih, mem_foldl_addOption, List.exists_mem_cons_iff, or_assoc]

theorem named_iff {l : LocationState} {label : String} :
    l.Named label ↔ ∃ m ∈ l.customModes.values, label ∈ m.values := by
  constructor
  · rintro ⟨gatewayId, m, key, hm, hkey⟩
    exact ⟨m, List.mem_map_of_mem (Dict.mem_entries_iff.mpr hm),
      List.mem_map_of_mem (Dict.mem_entries_iff.mpr hkey)⟩
  · rintro ⟨m, hm, hlabel⟩
    obtain ⟨⟨gatewayId, m'⟩, hentry, rfl⟩ := List.mem_map.mp hm
    obtain ⟨⟨key, label'⟩, hkey, rfl⟩ := List.mem_map.mp hlabel
    exact ⟨gatewayId, m', key, Dict.mem_entries_iff.mp hentry, Dict.mem_entries_iff.mp hkey⟩

theorem mem_modeOptions {l : LocationState} {label : String} :
    label ∈ l.modeOptions ↔
      label ∈ standardModes ∨ l.Named label ∨ l.modeLabel = some label := by
  have hnamed : label ∈ l.customModes.values.foldl
      (fun options m => m.values.foldl addOption options) standardModes ↔
      label ∈ standardModes ∨ l.Named label := by
    rw [mem_foldl_modes, named_iff]
  unfold modeOptions
  cases hactive : l.modeLabel with
  | none => simpa using hnamed
  | some active =>
    rw [mem_addOption, hnamed, or_assoc, Option.some.injEq, eq_comm (a := active)]

theorem mem_customTarget {l : LocationState} {label gatewayId key : String}
    (h : (gatewayId, key) ∈ (l.customTarget label).entries) :
    ∃ modes, l.customModes.get? gatewayId = some modes ∧ modes.get? key = some label := by
  obtain ⟨⟨gw, modes⟩, hgw, hmem⟩ := List.mem_flatMap.mp (Dict.mem_of_mem_ofEntries h)
  obtain ⟨⟨key', label'⟩, hfilter, heq⟩ := List.mem_map.mp hmem
  cases heq
  obtain ⟨hkey, hlabel⟩ := List.mem_filter.mp hfilter
  rw [decide_eq_true_eq] at hlabel
  subst hlabel
  exact ⟨modes, Dict.mem_entries_iff.mp hgw, Dict.mem_entries_iff.mp hkey⟩

theorem customTarget_entries_eq_nil {l : LocationState} {label : String} :
    (l.customTarget label).entries = [] ↔ ¬ l.Named label := by
  rw [customTarget, Dict.ofEntries_entries_eq_nil_iff, List.flatMap_eq_nil_iff]
  constructor
  · rintro hnil ⟨gatewayId, modes, key, hmodes, hkey⟩
    have hempty := hnil (gatewayId, modes) (Dict.mem_entries_iff.mpr hmodes)
    rw [List.map_eq_nil_iff, List.filter_eq_nil_iff] at hempty
    exact hempty (key, label) (Dict.mem_entries_iff.mpr hkey) (by simp)
  · rintro hnamed ⟨gatewayId, modes⟩ hmodes
    rw [List.map_eq_nil_iff, List.filter_eq_nil_iff]
    rintro ⟨key, label'⟩ hkey hlabel
    rw [decide_eq_true_eq] at hlabel
    subst hlabel
    exact hnamed ⟨gatewayId, modes, key, Dict.mem_entries_iff.mp hmodes,
      Dict.mem_entries_iff.mp hkey⟩

/-- The mode and the custom map that select an option: a standard mode, or a custom mode's label
with the key each gateway runs. -/
def Selects (l : LocationState) (label mode : String) (custom : Option (Dict String String)) :
    Prop :=
  (label ∈ standardModes ∧ mode = label ∧ custom = none) ∨
    (label ∉ standardModes ∧ l.Named label ∧ mode = customMode ∧
      custom = some (l.customTarget label))

/-- What selects an option is shown as that option. -/
theorem Selects.modeLabel {l l' : LocationState} {label mode : String}
    {custom : Option (Dict String String)} (h : l.Selects label mode custom)
    (hmodes : l'.customModes = l.customModes) :
    (l'.setMode mode (custom.getD Dict.empty)).modeLabel = some label := by
  rcases h with ⟨hstandard, rfl, rfl⟩ | ⟨-, hnamed, rfl, rfl⟩
  · have hne : mode ≠ customMode := by
      rintro rfl
      exact customMode_not_standard hstandard
    simp [LocationState.modeLabel, setMode, hne]
  · cases hentries : (l.customTarget label).entries with
    | nil => exact absurd hnamed (customTarget_entries_eq_nil.mp hentries)
    | cons entry rest =>
      obtain ⟨gatewayId, key⟩ := entry
      have hfirst : (gatewayId, key) ∈ (l.customTarget label).entries :=
        hentries ▸ List.mem_cons_self
      obtain ⟨modes, hgateway, hkey⟩ := mem_customTarget hfirst
      simp [LocationState.modeLabel, setMode, recordedCustom, hentries, hmodes, hgateway, hkey]

end LocationState

/-- `ActiveModeStateProperties` and `ActiveModeProperties`. -/
structure ActiveModeProperties where
  mode : String
  custom : Dict String String := Dict.empty
  deriving DecidableEq

/-- The answer to GET and PUT activeMode. -/
structure ActiveModeState where
  properties : Option ActiveModeProperties := none
  revision : Int := 0
  deriving DecidableEq

/-- The active mode as the automation topic carries it. -/
structure ActiveMode where
  properties : ActiveModeProperties
  revision : Int

/-- A field `custom: dict[str, str]`, empty by default. -/
def customField (scalars : Scalars) (fields : List (String × Json)) :
    Option (Dict String String) :=
  match Json.lookup "custom" fields with
  | none => some Dict.empty
  | some (.obj entries) =>
    (entries.mapM fun entry => (scalars.str entry.2).map (Prod.mk entry.1)).map Dict.ofEntries
  | some _ => none

def ActiveModeProperties.validate (scalars : Scalars) : Json → Option ActiveModeProperties
  | .obj fields => do
    let mode ← Json.lookup "mode" fields >>= scalars.str
    let custom ← customField scalars fields
    return { mode, custom }
  | _ => none

/-- `ActiveMode.model_validate(properties)`. -/
def ActiveMode.validate (scalars : Scalars) : Json → Option ActiveMode
  | .obj fields => do
    let properties ← Json.lookup "properties" fields >>= ActiveModeProperties.validate scalars
    let revision ← Json.lookup "revision" fields >>= scalars.int
    return { properties, revision }
  | _ => none

/-- `device.parent_id or device.device_id`. -/
def DeviceInfo.gateway (device : DeviceInfo) : String :=
  match device.parentId with
  | some parent => if parent = "" then device.deviceId else parent
  | none => device.deviceId

/-- `gid.split("_", 1)[-1] if "_" in gid else gid`. -/
def gatewaySuffix (gid : String) : String :=
  match gid.toList.dropWhile (· ≠ '_') with
  | [] => gid
  | _ :: suffix => String.ofList suffix

/-- The location's gateway list contains the gateway, under its own id or an owner-prefixed one. -/
def LocationState.claims (l : LocationState) (gateway : String) : Bool :=
  l.gatewayDeviceIds.any fun gid => gateway = gid || gateway = gatewaySuffix gid

/-- An owner is whatever comes before the first underscore. -/
theorem eq_gatewaySuffix_iff {gid gateway : String} :
    gateway = gid ∨ gateway = gatewaySuffix gid ↔
      gid = gateway ∨ ∃ owner : String, '_' ∉ owner.toList ∧ gid = owner ++ "_" ++ gateway := by
  have howned : ∀ name : String, gid.toList.dropWhile (· ≠ '_') = '_' :: name.toList ↔
      ∃ owner : String, '_' ∉ owner.toList ∧ gid = owner ++ "_" ++ name := by
    intro name
    rw [dropWhile_eq_cons_iff]
    constructor
    · rintro ⟨owner, howner, -, hgid⟩
      refine ⟨String.ofList owner, by simpa using howner, ?_⟩
      apply String.toList_inj.mp
      simp [hgid]
    · rintro ⟨owner, howner, rfl⟩
      exact ⟨owner.toList, howner, rfl, by simp⟩
  rw [← howned, eq_comm (a := gid)]
  apply or_congr_right'
  intro hother
  unfold gatewaySuffix
  cases hrest : gid.toList.dropWhile (· ≠ '_') with
  | nil => simpa using hother
  | cons c suffix =>
    obtain ⟨-, -, rfl, -⟩ := dropWhile_eq_cons_iff.mp hrest
    rw [List.cons_inj_right, ← String.toList_inj, String.toList_ofList, eq_comm]

/-- The gateway is listed under its own id or behind its owner's. -/
theorem LocationState.claims_iff {l : LocationState} {gateway : String} :
    l.claims gateway = true ↔ ∃ gid ∈ l.gatewayDeviceIds,
      gid = gateway ∨ ∃ owner : String, '_' ∉ owner.toList ∧ gid = owner ++ "_" ++ gateway := by
  simp only [LocationState.claims, List.any_eq_true, Bool.or_eq_true, decide_eq_true_eq,
    eq_gatewaySuffix_iff]

/-- The location whose gateway list contains this device's gateway. -/
def resolveLocationForDevice (device : DeviceInfo) (locations : List LocationState) :
    Option LocationState :=
  locations.find? fun l => l.claims device.gateway

/-- `self.locations`: each location under its own id. -/
abbrev Locations := Table LocationState.locationId

namespace Locations

/-- `location.set_mode(mode, custom)` on the location with this id. -/
def setMode (ls : Locations) (locationId mode : String) (custom : Dict String String) :
    Locations :=
  ls.modify locationId (·.setMode mode custom) fun _ => rfl

def setRevision (ls : Locations) (locationId : String) (revision : Int) : Locations :=
  ls.modify locationId (·.setRevision revision) fun _ => rfl

theorem get?_setMode (ls : Locations) (locationId mode : String) (custom : Dict String String)
    (j : String) : (ls.setMode locationId mode custom).get? j =
      if j = locationId then (ls.get? locationId).map (·.setMode mode custom) else ls.get? j :=
  Table.get?_modify ls locationId j

theorem get?_setRevision (ls : Locations) (locationId : String) (revision : Int) (j : String) :
    (ls.setRevision locationId revision).get? j =
      if j = locationId then (ls.get? locationId).map (·.setRevision revision) else ls.get? j :=
  Table.get?_modify ls locationId j

end Locations

end Eisenberg
