import Eisenberg.Coordinator.Setup

/-!
# Pruning the locations

`relevant_locations` drops the locations that claim no device, and `resolve_location_for_device`
finds the first location that claims one. The two match gateway ids the same way, so what is dropped
is never what a device resolves to.
-/

namespace Eisenberg.Coordinator

open Framework

section Relevant

variable {info : Client.LocationInfo} {device : DeviceInfo} {devices : List DeviceInfo}

/-- `resolve_location_for_device` resolves some device against this location alone. -/
def resolvesSome (devices : List DeviceInfo) (info : Client.LocationInfo) : Bool :=
  devices.any fun device =>
    (resolveLocationForDevice device [LocationState.fromInfo info]).isSome

/-- The location that a device resolves to, by its id. -/
def resolvedId (device : DeviceInfo) (infos : List Client.LocationInfo) : Option String :=
  (resolveLocationForDevice device (infos.map LocationState.fromInfo)).map
    LocationState.locationId

theorem resolve_singleton (device : DeviceInfo) (info : Client.LocationInfo) :
    (resolveLocationForDevice device [LocationState.fromInfo info]).isSome =
      (LocationState.fromInfo info).claims device.gateway := by
  cases h : (LocationState.fromInfo info).claims device.gateway <;>
    simp [resolveLocationForDevice, h]

theorem fromInfo_claims (gateway : String) :
    (LocationState.fromInfo info).claims gateway = true ↔
      ∃ gid ∈ info.gatewayDeviceIds, gateway = gid ∨ gateway = gatewaySuffix gid := by
  simp [LocationState.claims, LocationState.fromInfo]

theorem claimsADevice_eq :
    claimsADevice (devices.map DeviceInfo.gateway) info = resolvesSome devices info := by
  rw [Bool.eq_iff_iff]
  simp only [claimsADevice, resolvesSome, List.any_eq_true, resolve_singleton, fromInfo_claims,
    Bool.or_eq_true, decide_eq_true_eq, List.mem_map]
  constructor
  · rintro ⟨gid, hgid, ⟨device, hdevice, heq⟩ | ⟨device, hdevice, heq⟩⟩
    · exact ⟨device, hdevice, gid, hgid, Or.inl heq⟩
    · exact ⟨device, hdevice, gid, hgid, Or.inr heq⟩
  · rintro ⟨device, hdevice, gid, hgid, heq | heq⟩
    · exact ⟨gid, hgid, Or.inl ⟨device, hdevice, heq⟩⟩
    · exact ⟨gid, hgid, Or.inr ⟨device, hdevice, heq⟩⟩

theorem relevantLocations_eq (infos : List Client.LocationInfo) (devices : List DeviceInfo) :
    relevantLocations infos devices =
      if infos.any (resolvesSome devices) then infos.filter (resolvesSome devices) else infos := by
  have hclaims : claimsADevice (devices.map DeviceInfo.gateway) = resolvesSome devices := by
    funext info
    exact claimsADevice_eq
  unfold relevantLocations
  rw [hclaims]
  cases hany : infos.any (resolvesSome devices) with
  | true =>
    have hsome : (infos.filter (resolvesSome devices)).isEmpty = false := by
      rw [List.any_eq_true] at hany
      obtain ⟨info, hinfo, hresolves⟩ := hany
      rw [List.isEmpty_eq_false_iff_exists_mem]
      exact ⟨info, List.mem_filter.mpr ⟨hinfo, hresolves⟩⟩
    simp [hsome]
  | false =>
    have hnone : infos.filter (resolvesSome devices) = [] := by
      rw [List.any_eq_false] at hany
      exact List.filter_eq_nil_iff.mpr hany
    simp [hnone]

/-- What claims the gateway of a device is never dropped on its account. -/
theorem resolvesSome_of_claims (h : device ∈ devices)
    (hclaims : (LocationState.fromInfo info).claims device.gateway = true) :
    resolvesSome devices info = true := by
  rw [resolvesSome, List.any_eq_true]
  exact ⟨device, h, by rw [resolve_singleton, hclaims]⟩

/-- The first location that claims a device is still the first one after the pruning. -/
theorem resolve_relevantLocations (h : device ∈ devices) (infos : List Client.LocationInfo) :
    resolveLocationForDevice device ((relevantLocations infos devices).map LocationState.fromInfo) =
      resolveLocationForDevice device (infos.map LocationState.fromInfo) := by
  rw [relevantLocations_eq]
  split
  · have hpred : ∀ info, decide (resolvesSome devices info = true ∧
        (LocationState.fromInfo info).claims device.gateway = true) =
          (LocationState.fromInfo info).claims device.gateway := by
      intro info
      cases hclaims : (LocationState.fromInfo info).claims device.gateway with
      | false => simp
      | true => simp [resolvesSome_of_claims h hclaims]
    unfold resolveLocationForDevice
    rw [List.find?_map, List.find?_map, List.find?_filter]
    simp only [Function.comp_def, hpred]
  · rfl

end Relevant

section Sample

/-- The user's own location, which has no base station. -/
def ownEmpty : Client.LocationInfo where
  locationId := "own-empty"
  locationName := some "Home Assistant"
  gatewayDeviceIds := []

/-- A location of another account, with the owner before the id of its base station. -/
def sharedReal : Client.LocationInfo where
  locationId := "shared-real"
  locationName := some "Owner House"
  gatewayDeviceIds := ["P7EK4-183_BASE"]

def sharedCamera : DeviceInfo where
  deviceId := "CAM"
  parentId := some "BASE"

end Sample

/-- The pruning keeps the locations that resolve some device, and changes no resolution. -/
theorem pruning_keeps_resolutions (infos : List Client.LocationInfo) (devices : List DeviceInfo) :
    (infos.any (resolvesSome devices) = true →
        relevantLocations infos devices = infos.filter (resolvesSome devices)) ∧
      ∀ device ∈ devices,
        resolvedId device (relevantLocations infos devices) = resolvedId device infos := by
  constructor
  · intro hany
    rw [relevantLocations_eq, if_pos hany]
  · intro device hdevice
    unfold resolvedId
    rw [resolve_relevantLocations hdevice]

theorem sharedCamera_resolved :
    relevantLocations [ownEmpty, sharedReal] [sharedCamera] = [sharedReal] ∧
      resolvedId sharedCamera (relevantLocations [ownEmpty, sharedReal] [sharedCamera]) =
        some "shared-real" := by
  have hpruned := pruning_keeps_resolutions [ownEmpty, sharedReal] [sharedCamera]
  constructor
  · rw [hpruned.1 (by decide)]
    decide
  · rw [hpruned.2 sharedCamera List.mem_cons_self]
    decide

end Eisenberg.Coordinator
