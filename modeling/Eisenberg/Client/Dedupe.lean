import Eisenberg.Client.Commands
import Eisenberg.Framework.BestOf

/-!
# Records that share a device id

`_dedupe_devices`: a base station with a siren of its own is listed twice under one id. Of the
records of an id the first that is no "-siren" twin is kept, or the first one if all of them are.
-/

namespace Eisenberg.Client

open Framework

/-- The "-siren" twin of a base station. -/
def isSirenTwin (device : DeviceInfo) : Bool := device.modelId.endsWith "-siren"

/-- The record of an id that is to be kept. -/
def keptRecord (devices : List DeviceInfo) (deviceId : String) : Option DeviceInfo :=
  let records := devices.filter fun device => device.deviceId = deviceId
  (records.find? fun device => !isSirenTwin device).or records.head?

section Collected

/-- A real device is better than a twin. -/
def replacesTwin (device kept : DeviceInfo) : Bool := isSirenTwin kept && !isSirenTwin device

def collected (devices : List DeviceInfo) : Dict String DeviceInfo :=
  Dict.collect replacesTwin (devices.map fun device => (device.deviceId, device))

variable {devices : List DeviceInfo} {deviceId : String} {device : DeviceInfo}

theorem dedupeDevices_eq (devices : List DeviceInfo) :
    dedupeDevices devices = (collected devices).values := by
  have hstep : ∀ (kept : Dict String DeviceInfo) (device : DeviceInfo),
      (if replaces (kept.get? device.deviceId) device then kept.set device.deviceId device
        else kept) = kept.improve replacesTwin device.deviceId device := by
    intro kept device
    unfold Dict.improve
    cases kept.get? device.deviceId with
    | none => rfl
    | some existing => rfl
  rw [dedupeDevices, collected, Dict.collect, List.foldl_map]
  simp only [hstep]

theorem deviceId_of_collected (h : (collected devices).get? deviceId = some device) :
    device.deviceId = deviceId := by
  obtain ⟨d, -, hd⟩ := List.mem_map.mp (Dict.mem_of_get?_collect h)
  cases hd
  rfl

theorem get?_collected (devices : List DeviceInfo) (deviceId : String) :
    (collected devices).get? deviceId = keptRecord devices deviceId := by
  have hrecords : ((devices.map fun device => (device.deviceId, device)).filter
      fun entry => entry.1 = deviceId).map Prod.snd =
        devices.filter fun device => device.deviceId = deviceId := by
    rw [List.filter_map, List.map_map]
    exact List.map_id _
  rw [collected, Dict.get?_collect, hrecords]
  exact best_real isSirenTwin _

theorem deviceIds_dedupeDevices (devices : List DeviceInfo) :
    (dedupeDevices devices).map (fun device => device.deviceId) = (collected devices).keys := by
  rw [dedupeDevices_eq]
  exact (Dict.keys_eq_map_values _ _ fun _ _ => deviceId_of_collected).symm

theorem nodup_dedupeDevices (devices : List DeviceInfo) :
    ((dedupeDevices devices).map fun device => device.deviceId).Nodup := by
  rw [deviceIds_dedupeDevices]
  exact (collected devices).nodup

theorem keptRecord_of_mem (h : device ∈ devices) :
    ∃ kept, keptRecord devices device.deviceId = some kept := by
  have hrecords : (devices.filter fun d => d.deviceId = device.deviceId) ≠ [] := by
    apply List.ne_nil_of_mem
    exact List.mem_filter.mpr ⟨h, by simp⟩
  obtain ⟨first, hfirst⟩ := Option.isSome_iff_exists.mp (List.isSome_head?.mpr hrecords)
  unfold keptRecord
  dsimp only
  rw [hfirst]
  cases (devices.filter fun d => d.deviceId = device.deviceId).find? fun d => !isSirenTwin d with
  | none => exact ⟨first, rfl⟩
  | some real => exact ⟨real, rfl⟩

theorem collected_dedupeDevices (devices : List DeviceInfo) :
    collected (dedupeDevices devices) = collected devices := by
  have hentries : (dedupeDevices devices).map (fun device => (device.deviceId, device)) =
      (collected devices).entries := by
    rw [dedupeDevices_eq]
    exact (Dict.entries_eq_map_values _ _ fun _ _ => deviceId_of_collected).symm
  rw [collected, hentries, Dict.collect_entries]

end Collected

/-- One record of each id is kept, the real device before its twin, in the order in which the ids
first came; and there is nothing more to collapse. -/
theorem dedupe_keeps_right_record (devices : List DeviceInfo) :
    (dedupeDevices devices).map (fun device => device.deviceId) =
        (devices.map fun device => device.deviceId).eraseDups ∧
      (∀ device ∈ devices, ∃ kept, keptRecord devices device.deviceId = some kept ∧
        (dedupeDevices devices).filter (fun d => d.deviceId = device.deviceId) = [kept]) ∧
      dedupeDevices (dedupeDevices devices) = dedupeDevices devices := by
  refine ⟨?_, ?_, ?_⟩
  · rw [deviceIds_dedupeDevices, collected, Dict.keys_collect, List.map_map]
    rfl
  · intro device hdevice
    obtain ⟨kept, hkept⟩ := keptRecord_of_mem hdevice
    refine ⟨kept, hkept, ?_⟩
    rw [dedupeDevices_eq, Dict.filter_values _ _ fun _ _ => deviceId_of_collected, get?_collected,
      hkept]
    rfl
  · rw [dedupeDevices_eq, collected_dedupeDevices, ← dedupeDevices_eq]

/-- The twin came first. -/
example : (dedupeDevices [{ deviceId := "base", modelId := "VMB4000-siren" },
    { deviceId := "camera", modelId := "VMC4030" },
    { deviceId := "base", modelId := "VMB4000" }]).map
      (fun device => (device.deviceId, device.modelId)) =
    [("base", "VMB4000"), ("camera", "VMC4030")] := by decide +kernel

end Eisenberg.Client
