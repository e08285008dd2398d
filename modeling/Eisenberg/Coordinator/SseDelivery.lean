import Eisenberg.Coordinator.EventRouting

/-!
# What the supplement delivers

Between MQTT and the SSE supplement no published device state is lost. A frame is handled twice when
the broker delivers its own topic but not the `is` topic of its resource.
-/

namespace Eisenberg.Coordinator

open Framework Mqtt

/-! ## The topics of published state -/

section Topics

theorem splitTopic_deviceTopic (xCloudId resource action : String) :
    splitTopic (deviceTopic xCloudId resource action) =
      "d" :: splitTopic xCloudId ++ "out" :: splitTopic resource ++ splitTopic action := by
  have hjoin : deviceTopic xCloudId resource action =
      "d" ++ "/" ++ (xCloudId ++ "/" ++ ("out" ++ "/" ++ (resource ++ "/" ++ action))) := by
    simp only [deviceTopic, String.append_assoc]
    rfl
  have hd : splitTopic "d" = ["d"] := splitTopic_of_not_mem (by decide)
  have hout : splitTopic "out" = ["out"] := splitTopic_of_not_mem (by decide)
  rw [hjoin, splitTopic_append, splitTopic_append, splitTopic_append, splitTopic_append, hd, hout]
  simp

theorem root_of_published {device : DeviceInfo} {resource : String}
    (h : resource ∈ published device) :
    ∃ root ∈ ["cameras", "doorbells", "sensors"], resource = root ++ "/" ++ device.deviceId := by
  unfold published cameraResources sensorResource at h
  split at h
  · exact ⟨"sensors", by decide, List.mem_singleton.mp h⟩
  · rcases List.mem_cons.mp h with hcamera | hdoorbell
    · exact ⟨"cameras", by decide, hcamera⟩
    · split at hdoorbell
      · exact ⟨"doorbells", by decide, List.mem_singleton.mp hdoorbell⟩
      · cases hdoorbell

theorem splitTopic_resource {root deviceId : String} (hroot : '/' ∉ root.toList)
    (hid : '/' ∉ deviceId.toList) : splitTopic (root ++ "/" ++ deviceId) = [root, deviceId] := by
  rw [splitTopic_append, splitTopic_of_not_mem hroot, splitTopic_of_not_mem hid]
  rfl

theorem slash_not_mem_root {root : String} (h : root ∈ ["cameras", "doorbells", "sensors"]) :
    '/' ∉ root.toList := by
  simp only [List.mem_cons, List.not_mem_nil, or_false] at h
  rcases h with rfl | rfl | rfl <;> decide

theorem levels_of_topic {xCloudId root deviceId action : String}
    (hcloud : '/' ∉ xCloudId.toList) (hroot : '/' ∉ root.toList)
    (hid : '/' ∉ deviceId.toList) (haction : '/' ∉ action.toList) :
    splitTopic (deviceTopic xCloudId (root ++ "/" ++ deviceId) action) =
      ["d", xCloudId, "out", root, deviceId, action] := by
  rw [splitTopic_deviceTopic, splitTopic_resource hroot hid, splitTopic_of_not_mem hcloud,
    splitTopic_of_not_mem haction]
  rfl

theorem matching_state {xCloudId root deviceId : String} (hcloud : '/' ∉ xCloudId.toList)
    (hroot : root ∈ ["cameras", "doorbells", "sensors"]) (hid : '/' ∉ deviceId.toList) :
    ∃ handler,
      eventRouter.matching (deviceTopic xCloudId (root ++ "/" ++ deviceId) "is") = [handler] := by
  rw [TopicRouter.matching, levels_of_topic hcloud (slash_not_mem_root hroot) hid (by decide),
    eventRouter_routes]
  simp only [List.mem_cons, List.not_mem_nil, or_false] at hroot
  rcases hroot with rfl | rfl | rfl
  · exact ⟨.cameraState, by simp [matchesLevels, matchesLoop]⟩
  · exact ⟨.cameraState, by simp [matchesLevels, matchesLoop]⟩
  · exact ⟨.sensorState, by simp [matchesLevels, matchesLoop]⟩

theorem matching_snapshot {xCloudId deviceId : String} (hcloud : '/' ∉ xCloudId.toList)
    (hid : '/' ∉ deviceId.toList) :
    eventRouter.matching
        (deviceTopic xCloudId ("cameras" ++ "/" ++ deviceId) "fullFrameSnapshotAvailable") =
      [.snapshot] := by
  rw [TopicRouter.matching, levels_of_topic hcloud (by decide) hid (by decide), eventRouter_routes]
  simp [matchesLevels, matchesLoop]

theorem matching_of_published {device : DeviceInfo} {resource : String}
    (hmem : resource ∈ published device) (hid : '/' ∉ device.deviceId.toList)
    (hcloud : '/' ∉ device.xCloudId.toList) :
    ∃ handler, eventRouter.matching (deviceTopic device.xCloudId resource "is") = [handler] := by
  obtain ⟨root, hroot, rfl⟩ := root_of_published hmem
  exact matching_state hcloud hroot hid

end Topics

section Results

open Supplement

variable {devices : List DeviceInfo} {httpSession : Bool} {client : ClientSession} {s : Supplement}
  {m : MqttHandle} {outcome : SubscribeOutcome} {payload : List (String × Json)}

theorem splitTopic_of_published {device : DeviceInfo} {resource : String}
    (hmem : resource ∈ published device) (hid : '/' ∉ device.deviceId.toList) :
    ∃ root, splitTopic resource = [root, device.deviceId] := by
  obtain ⟨root, hroot, rfl⟩ := root_of_published hmem
  exact ⟨root, splitTopic_resource (slash_not_mem_root hroot) hid⟩

theorem publishers_subset {device : DeviceInfo} (h : device ∈ publishers devices) :
    device ∈ devices := by
  rcases List.mem_append.mp h with hcamera | hsensor
  · exact (List.mem_filter.mp hcamera).1
  · exact (List.mem_filter.mp hsensor).1

theorem publisher_unique (hids : (devices.map fun d => d.deviceId).Nodup)
    (hslash : ∀ d ∈ devices, '/' ∉ d.deviceId.toList) {d e : DeviceInfo} {resource : String}
    (hd : d ∈ publishers devices) (he : e ∈ publishers devices)
    (hpubd : resource ∈ published d) (hpube : resource ∈ published e) : e = d := by
  have hdmem := publishers_subset hd
  have hemem := publishers_subset he
  obtain ⟨root, hroot⟩ := splitTopic_of_published hpubd (hslash d hdmem)
  obtain ⟨root', hroot'⟩ := splitTopic_of_published hpube (hslash e hemem)
  have hid : d.deviceId = e.deviceId := by
    rw [hroot] at hroot'
    simp only [List.cons.injEq, and_true] at hroot'
    exact hroot'.2
  exact (List.inj_on_of_nodup_map hids hdmem hemem hid).symm

theorem sseTopic_eq {resource action : String}
    (hresource : Json.lookup "resource" payload = some (.str resource))
    (haction : Json.lookup "action" payload = some (.str action)) :
    s.sseTopic payload = (s.sseResources.get? resource).map fun xCloudId =>
      deviceTopic xCloudId resource action := by
  simp [Supplement.sseTopic, hresource, haction]

theorem sseGapResources_of_unique {device : DeviceInfo} {resource : String}
    (hdevice : device ∈ publishers devices) (hpublished : resource ∈ published device)
    (hdelivers : delivers outcome (deviceTopic device.xCloudId resource "is") = false)
    (hunique : ∀ e ∈ publishers devices, resource ∈ published e → e = device) :
    (sseGapResources devices outcome).get? resource = some device.xCloudId := by
  have hmem : device ∈ undelivered devices outcome resource := by
    simp [undelivered, hdevice, hpublished, hdelivers]
  obtain ⟨last, hlast⟩ : ∃ last, (undelivered devices outcome resource).getLast? = some last :=
    Option.isSome_iff_exists.mp (by simpa using List.ne_nil_of_mem hmem)
  have hlastMem := List.mem_filter.mp (List.mem_of_getLast? hlast)
  have hlastPub : resource ∈ published last := by
    have hboth := hlastMem.2
    simp only [Bool.and_eq_true, decide_eq_true_eq] at hboth
    exact hboth.1
  rw [sseGapResources_get?, hlast, hunique last hlastMem.1 hlastPub]
  rfl

/-- With one handler the two delivery paths leave the same state. -/
theorem runInTurn_singleton {σ : Type} (topic : String) (payload : Json) (handler : EventHandler σ)
    (env : σ) :
    (runInTurn topic payload [handler] env).1 = (runHandlers topic payload [handler] env).1 := by
  rcases hrun : handler topic payload env with ⟨env', result⟩
  cases result with
  | ok _ => simp [runInTurn, runHandlers, hrun]
  | error err =>
    by_cases herr : err.isException = true
    · simp [runInTurn, runHandlers, hrun, herr]
    · simp [runInTurn, runHandlers, hrun, herr]

/-- The SSE supplement loses no device state: what no granted filter delivers, it hands to the
handler MQTT would have run. -/
theorem supplement_completes_mqtt
    (hs : Supplement.machine.Reachable (init devices httpSession client) s) (hmqtt : s.mqtt = some m)
    (houtcome : m.subscribeOutcome = some outcome)
    (hids : (s.devices.map fun d => d.deviceId).Nodup)
    (hslash : ∀ d ∈ s.devices, '/' ∉ d.deviceId.toList ∧ '/' ∉ d.xCloudId.toList)
    {device : DeviceInfo} (hdevice : device ∈ publishers s.devices) {resource : String}
    (hpublished : resource ∈ published device)
    (hresource : Json.lookup "resource" payload = some (.str resource))
    (haction : Json.lookup "action" payload = some (.str "is")) :
    (∃ f ∈ grantedTopics outcome,
        topicMatches f (deviceTopic device.xCloudId resource "is") = true) ∨
      (s.sse = true ∧ ∃ handler,
        m.handled (deviceTopic device.xCloudId resource "is") payload =
            [(handler, deviceTopic device.xCloudId resource "is")] ∧
          s.handled payload = [(handler, deviceTopic device.xCloudId resource "is")] ∧
          ∀ (σ : Type) (run : Handler → EventHandler σ) (env : σ),
            (s.handleSseEvent run payload env).1 =
              (m.dispatch run (deviceTopic device.xCloudId resource "is") payload env).1) := by
  have hsynced := synced_of_reachable hs
  by_cases hdelivers : delivers outcome (deviceTopic device.xCloudId resource "is") = true
  · left
    simpa [delivers] using hdelivers
  · right
    rw [Bool.not_eq_true] at hdelivers
    have hgap : (sseGapResources s.devices outcome).get? resource = some device.xCloudId :=
      sseGapResources_of_unique hdevice hpublished hdelivers fun e he hpube =>
        publisher_unique hids (fun d hd => (hslash d hd).1) hdevice he hpublished hpube
    obtain ⟨hresources, hrouter⟩ := hsynced.resources m outcome hmqtt houtcome
    have htopic : s.sseTopic payload = some (deviceTopic device.xCloudId resource "is") := by
      rw [sseTopic_eq hresource haction, hresources, hgap]
      rfl
    have hopen : s.sse = true := by
      refine (hsynced.isOpen m outcome hmqtt houtcome ?_).1
      intro hnil
      rw [Dict.get?, hnil] at hgap
      cases hgap
    have hslashes := hslash device (publishers_subset hdevice)
    obtain ⟨handler, hmatching⟩ := matching_of_published hpublished hslashes.1 hslashes.2
    have hmqttRun : ∀ (σ : Type) (run : Handler → EventHandler σ) (env : σ),
        m.dispatch run (deviceTopic device.xCloudId resource "is") payload env =
          runHandlers (deviceTopic device.xCloudId resource "is") (.obj payload)
            [run handler] env := by
      intro σ run env
      rw [m.dispatch_eq, hsynced.routes m hmqtt, hmatching]
      rfl
    have hsseRun : ∀ (σ : Type) (run : Handler → EventHandler σ) (env : σ),
        s.handleSseEvent run payload env =
          runInTurn (deviceTopic device.xCloudId resource "is") (.obj payload)
            [run handler] env := by
      intro σ run env
      rw [Supplement.handleSseEvent, htopic, hrouter]
      simp only [hmatching]
      rfl
    refine ⟨hopen, handler, ?_, ?_, ?_⟩
    · rw [MqttHandle.handled, hmqttRun]
      rfl
    · rw [Supplement.handled, hsseRun]
      rfl
    · intro σ run env
      rw [hmqttRun, hsseRun]
      exact runInTurn_singleton _ _ _ _

/-- What a frame runs, in terms of the devices, the SUBACK and the routes. -/
theorem handled_of_synced (hsynced : s.Synced) (hmqtt : s.mqtt = some m)
    (houtcome : m.subscribeOutcome = some outcome) {resource action : String}
    (hresource : Json.lookup "resource" payload = some (.str resource))
    (haction : Json.lookup "action" payload = some (.str action)) :
    s.handled payload =
      ((undelivered s.devices outcome resource).getLast?.map fun d =>
        (eventRouter.matching (deviceTopic d.xCloudId resource action)).map fun handler =>
          (handler, deviceTopic d.xCloudId resource action)).getD [] := by
  obtain ⟨hresources, hrouter⟩ := hsynced.resources m outcome hmqtt houtcome
  rw [handled_eq, sseTopic_eq hresource haction, hresources, hrouter, sseGapResources_get?]
  cases (undelivered s.devices outcome resource).getLast? with
  | none => rfl
  | some d => rfl

/-- Some granted filter matches the topic of a frame, for a device that publishes its resource. -/
def DeliversFrame (devices : List DeviceInfo) (outcome : SubscribeOutcome)
    (resource action : String) : Prop :=
  ∃ d ∈ publishers devices, resource ∈ published d ∧
    ∃ f ∈ grantedTopics outcome, topicMatches f (deviceTopic d.xCloudId resource action) = true

/-- A delivered frame runs no handler a second time, exactly when its resource is not in the gap or
no route takes its topic. -/
theorem handled_once_iff
    (hs : Supplement.machine.Reachable (init devices httpSession client) s) (hmqtt : s.mqtt = some m)
    (houtcome : m.subscribeOutcome = some outcome) {resource action : String}
    (hresource : Json.lookup "resource" payload = some (.str resource))
    (haction : Json.lookup "action" payload = some (.str action)) :
    (DeliversFrame s.devices outcome resource action → s.handled payload = []) ↔
      (DeliversFrame s.devices outcome resource action →
        ∀ d, (undelivered s.devices outcome resource).getLast? = some d →
          eventRouter.matching (deviceTopic d.xCloudId resource action) = []) := by
  have hhandled := handled_of_synced (synced_of_reachable hs) hmqtt houtcome hresource haction
  refine imp_congr_right fun _ => ?_
  rw [hhandled]
  cases hlast : (undelivered s.devices outcome resource).getLast? with
  | none => simp
  | some last => simp

end Results

section Sample

open Supplement

/-- The topics a session for these devices asks for, with the codes of a SUBACK. -/
def subackOf (devices : List DeviceInfo) (codes : List Nat) : SubscribeOutcome :=
  subscribeOutcomeOf
    (buildSubscribeTopics (devices.map fun d => d.xCloudId).eraseDups "U" (mqttExtraTopics devices))
    codes

def connectedTo (devices : List DeviceInfo) (codes : List Nat) : Option Supplement :=
  Supplement.machine.run (init devices true ⟨some "wss://mqtt", some "U", some "T"⟩)
    [.ensureMqtt, .connected (.ok (subackOf devices codes))]

def frame (resource action : String) : List (String × Json) :=
  [("resource", .str resource), ("action", .str action)]

def gen2Doorbell : DeviceInfo where
  deviceId := "DOOR1"
  xCloudId := "XC"
  deviceType := some "doorbell"
  allowedMqttTopics := ["d/XC/out/doorbells/DOOR1/#"]

/-- The broker grants what the doorbell declares, and refuses the wildcard and its camera topic. -/
def doorbellSession : Supplement :=
  (connectedTo [gen2Doorbell] [0x80, 1, 1, 0x80]).getD (init [] false ⟨none, none, none⟩)

theorem doorbellSession_reachable : Supplement.machine.Reachable
    (init [gen2Doorbell] true ⟨some "wss://mqtt", some "U", some "T"⟩) doorbellSession :=
  ⟨[.ensureMqtt, .connected (.ok (subackOf [gen2Doorbell] [0x80, 1, 1, 0x80]))], rfl⟩

def doorbellMqtt : MqttHandle where
  topics := ["d/XC/out/#", "u/U/in/#", "d/XC/out/doorbells/DOOR1/#", "d/XC/out/cameras/DOOR1/#"]
  router := eventRouter
  subscribeOutcome := some (subackOf [gen2Doorbell] [0x80, 1, 1, 0x80])

theorem supplement_completes_mqtt_doorbell :
    (∃ f ∈ grantedTopics (subackOf [gen2Doorbell] [0x80, 1, 1, 0x80]),
        topicMatches f "d/XC/out/cameras/DOOR1/is" = true) ∨
      (doorbellSession.sse = true ∧ ∃ handler,
        doorbellMqtt.handled "d/XC/out/cameras/DOOR1/is" (frame "cameras/DOOR1" "is") =
            [(handler, "d/XC/out/cameras/DOOR1/is")] ∧
          doorbellSession.handled (frame "cameras/DOOR1" "is") =
            [(handler, "d/XC/out/cameras/DOOR1/is")] ∧
          ∀ (σ : Type) (run : Handler → EventHandler σ) (env : σ),
            (doorbellSession.handleSseEvent run (frame "cameras/DOOR1" "is") env).1 =
              (doorbellMqtt.dispatch run "d/XC/out/cameras/DOOR1/is" (frame "cameras/DOOR1" "is")
                env).1) := by
  have hdevices : doorbellSession.devices = [gen2Doorbell] := rfl
  have hslash : ∀ d ∈ doorbellSession.devices,
      '/' ∉ d.deviceId.toList ∧ '/' ∉ d.xCloudId.toList := by
    rw [hdevices]
    intro d hd
    rw [List.mem_singleton.mp hd]
    decide
  have hpublisher : gen2Doorbell ∈ publishers doorbellSession.devices := List.mem_cons_self
  have hpublished : "cameras/DOOR1" ∈ published gen2Doorbell := by decide
  have hresource : Json.lookup "resource" (frame "cameras/DOOR1" "is") =
      some (.str "cameras/DOOR1") := rfl
  have haction : Json.lookup "action" (frame "cameras/DOOR1" "is") = some (.str "is") := rfl
  have hcompletes := supplement_completes_mqtt doorbellSession_reachable (m := doorbellMqtt) rfl rfl
    (by rw [hdevices]; decide) hslash hpublisher hpublished hresource haction
  exact hcompletes

theorem handled_once_iff_doorbell :
    doorbellSession.handled (frame "doorbells/DOOR1" "fullFrameSnapshotAvailable") = [] := by
  have hundelivered : undelivered doorbellSession.devices
      (subackOf [gen2Doorbell] [0x80, 1, 1, 0x80]) "doorbells/DOOR1" = [] :=
    List.filter_eq_nil_iff.mpr (by decide)
  have hdelivers : DeliversFrame doorbellSession.devices
      (subackOf [gen2Doorbell] [0x80, 1, 1, 0x80]) "doorbells/DOOR1" "fullFrameSnapshotAvailable" :=
    ⟨gen2Doorbell, List.mem_cons_self, by decide, "d/XC/out/doorbells/DOOR1/#", by decide, by decide⟩
  refine (handled_once_iff doorbellSession_reachable (m := doorbellMqtt) rfl rfl rfl rfl).mpr ?_
    hdelivers
  intro _ d hlast
  rw [hundelivered] at hlast
  cases hlast

/-- A camera that declares only the topic of its snapshots. -/
def snapshotCamera : DeviceInfo where
  deviceId := "CAM1"
  xCloudId := "XC"
  deviceType := some "camera"
  allowedMqttTopics := ["d/XC/out/cameras/CAM1/fullFrameSnapshotAvailable"]

/-- The broker refuses the wildcard and grants the topic of the snapshots. -/
def snapshotSession : Supplement :=
  (connectedTo [snapshotCamera] [0x80, 1, 1]).getD (init [] false ⟨none, none, none⟩)

theorem snapshotSession_handles_twice : ∃ m,
    connectedTo [snapshotCamera] [0x80, 1, 1] = some snapshotSession ∧
      snapshotSession.mqtt = some m ∧
      m.subscribeOutcome = some (subackOf [snapshotCamera] [0x80, 1, 1]) ∧
      DeliversFrame snapshotSession.devices (subackOf [snapshotCamera] [0x80, 1, 1])
        "cameras/CAM1" "fullFrameSnapshotAvailable" ∧
      m.handled "d/XC/out/cameras/CAM1/fullFrameSnapshotAvailable"
          (frame "cameras/CAM1" "fullFrameSnapshotAvailable") =
        [(.snapshot, "d/XC/out/cameras/CAM1/fullFrameSnapshotAvailable")] ∧
      snapshotSession.handled (frame "cameras/CAM1" "fullFrameSnapshotAvailable") =
        [(.snapshot, "d/XC/out/cameras/CAM1/fullFrameSnapshotAvailable")] := by
  have hmatching : eventRouter.matching "d/XC/out/cameras/CAM1/fullFrameSnapshotAvailable" =
      [.snapshot] := @matching_snapshot "XC" "CAM1" (by decide) (by decide)
  refine ⟨{
    topics := ["d/XC/out/#", "u/U/in/#", "d/XC/out/cameras/CAM1/fullFrameSnapshotAvailable"]
    router := eventRouter
    subscribeOutcome := some (subackOf [snapshotCamera] [0x80, 1, 1]) }, rfl, rfl, rfl, ?_, ?_, ?_⟩
  · exact ⟨snapshotCamera, List.mem_cons_self, by decide,
      "d/XC/out/cameras/CAM1/fullFrameSnapshotAvailable", by decide, by decide⟩
  · rw [MqttHandle.handled, MqttHandle.dispatch_eq, hmatching]
    rfl
  · have htopic : snapshotSession.sseTopic (frame "cameras/CAM1" "fullFrameSnapshotAvailable") =
        some "d/XC/out/cameras/CAM1/fullFrameSnapshotAvailable" := rfl
    have hrouter : snapshotSession.sseRouter = eventRouter := rfl
    rw [handled_eq, htopic, hrouter, Option.map_some, hmatching]
    rfl

end Sample

end Eisenberg.Coordinator
