import Eisenberg.Framework.Dict
import Eisenberg.Framework.Transition
import Eisenberg.Mqtt.Stream
import Eisenberg.Values.Models

/-!
# The SSE supplement

`_ensure_mqtt`, `_sync_sse`, `_sse_gap_resources` and `_handle_sse_event` of the coordinator: after
each SUBACK the coordinator opens Arlo's SSE stream for the device resources no granted filter
delivers, and routes their frames through the handlers MQTT uses.

A handler is a name here; what it does to the coordinator is a parameter.
-/

namespace Eisenberg.Coordinator

open Framework Mqtt

inductive Handler where
  | cameraState | snapshot | lastImageSnapshot | sensorState | siren | feed | mediaUpload
  | activeMode | customModes | connectivity | basestation | deviceStates | devicesResponse
  | subscriptionAck | geofences | exceptionSensors
  deriving DecidableEq, Repr

/-- Topic pattern → handler table, shared by MQTT and the SSE supplement. -/
def eventRoutes : List (String × Handler) :=
  [("d/+/out/cameras/+/is", .cameraState),
   ("d/+/out/cameras/+/privacyZones/is", .cameraState),
   ("d/+/out/doorbells/+/is", .cameraState),
   ("d/+/out/doorbells/+/privacyZones/is", .cameraState),
   ("d/+/out/cameras/+/fullFrameSnapshotAvailable", .snapshot),
   ("d/+/out/doorbells/+/fullFrameSnapshotAvailable", .snapshot),
   ("d/+/out/cameras/+/lastImageSnapshotAvailable", .lastImageSnapshot),
   ("d/+/out/doorbells/+/lastImageSnapshotAvailable", .lastImageSnapshot),
   ("d/+/out/sensors/+/is", .sensorState),
   ("d/+/out/siren/+/is", .siren),
   ("u/+/in/feed/live", .feed),
   ("u/+/in/library/add", .mediaUpload),
   ("u/+/in/automation/activeMode/is", .activeMode),
   ("u/+/in/automation/customModes/is", .customModes),
   ("d/+/out/basestation/connectivity/is", .connectivity),
   ("d/+/out/basestation/is", .basestation),
   ("d/+/out/devices/+/states/is", .deviceStates),
   ("d/+/out/devices/is", .devicesResponse),
   ("d/+/out/subscriptions/+/is", .subscriptionAck),
   ("u/+/in/automation/geofences/is", .geofences),
   ("u/+/in/automation/exceptionSensors/is", .exceptionSensors)]

def eventRouter : TopicRouter Handler := TopicRouter.ofRoutes eventRoutes

/-! ## What the devices publish, and what the broker delivers of it -/

/-- `f"d/{x_cloud_id}/out/{resource}/{action}"`. -/
def deviceTopic (xCloudId resource action : String) : String :=
  "d/" ++ xCloudId ++ "/out/" ++ resource ++ "/" ++ action

/-- Devices that get per-camera entities. -/
def cameras (devices : List DeviceInfo) : List DeviceInfo :=
  devices.filter fun d => !d.isBaseStation && !d.isSensor

def contactSensors (devices : List DeviceInfo) : List DeviceInfo :=
  devices.filter fun d => d.isSensor

/-- Union of every device's declared allowedMqttTopics, order-stable. -/
def mqttExtraTopics (devices : List DeviceInfo) : List String :=
  devices.foldl (fun topics device =>
    (device.allowedMqttTopics ++
        if device.isDoorbell then [device.cameraResourceFilter] else []).foldl
      (fun topics topic => if topic ∈ topics then topics else topics ++ [topic]) topics) []

/-- `[r.topic for r in outcome.results if r.granted]`. -/
def grantedTopics (outcome : SubscribeOutcome) : List String :=
  (outcome.results.filter fun r => r.granted).map fun r => r.topic

/-- Some granted filter matches the topic. -/
def delivers (outcome : SubscribeOutcome) (topic : String) : Bool :=
  (grantedTopics outcome).any fun f => topicMatches f topic

/-- One device's part of the loops of `_sse_gap_resources`. -/
def addUndelivered (outcome : SubscribeOutcome) (device : DeviceInfo) (gap : Dict String String) :
    List String → Dict String String
  | [] => gap
  | resource :: resources =>
    addUndelivered outcome device
      (if delivers outcome (deviceTopic device.xCloudId resource "is") then gap
        else gap.set resource device.xCloudId) resources

def cameraResources (device : DeviceInfo) : List String :=
  ("cameras" ++ "/" ++ device.deviceId) ::
    if device.isDoorbell then ["doorbells" ++ "/" ++ device.deviceId] else []

def sensorResource (device : DeviceInfo) : String := "sensors" ++ "/" ++ device.deviceId

/-- Device resources no granted MQTT filter delivers, → their xCloudId. -/
def sseGapResources (devices : List DeviceInfo) (outcome : SubscribeOutcome) :
    Dict String String :=
  (contactSensors devices).foldl
    (fun gap device => addUndelivered outcome device gap [sensorResource device])
    ((cameras devices).foldl
      (fun gap device => addUndelivered outcome device gap (cameraResources device)) Dict.empty)

/-! ## Keeping the supplement in step with the broker -/

/-- What `_ensure_mqtt` reads of the client. -/
structure ClientSession where
  mqttUrl : Option String
  userId : Option String
  token : Option String
  deriving DecidableEq, Repr

/-- `bool(value)` of a text that may be `None`. -/
def isSet (value : Option String) : Bool := value.getD "" != ""

structure MqttHandle where
  topics : List String
  router : TopicRouter Handler
  subscribeOutcome : Option SubscribeOutcome := none

/-- Where the holder of `_mqtt_lock` is suspended. -/
inductive LockHolder where
  | unlocked
  | connecting
  /-- In `await self._sse.stop()`. -/
  | closing
  deriving DecidableEq, Repr

structure Supplement where
  devices : List DeviceInfo
  httpSession : Bool
  client : ClientSession
  mqtt : Option MqttHandle := none
  /-- `self._sse is not None`. -/
  sse : Bool := false
  sseResources : Dict String String := Dict.empty
  sseRouter : TopicRouter Handler := {}
  ensure : LockHolder := .unlocked

namespace Supplement

/-- Fix the resources SSE may feed in, and the routes they take. -/
def setSseResources (resources : Dict String String) (s : Supplement) : Supplement :=
  { s with sseResources := resources, sseRouter := TopicRouter.ofRoutes eventRoutes }

/-- Open or close the SSE supplement to match the latest SUBACK, up to the `stop()` it awaits. -/
def syncSse (s : Supplement) : Supplement :=
  match s.mqtt.bind fun m => m.subscribeOutcome with
  | none => { s with ensure := .unlocked }
  | some outcome =>
    if (sseGapResources s.devices outcome).entries = [] then
      { s.setSseResources (sseGapResources s.devices outcome) with
        ensure := if s.sse then .closing else .unlocked }
    else
      { s.setSseResources (sseGapResources s.devices outcome) with
        sse := s.sse || s.httpSession
        ensure := .unlocked }

/-- Bring the MQTT stream up if it is down, up to the `connect()` it awaits. -/
def beginEnsure (s : Supplement) : Supplement :=
  if s.mqtt.isSome then s
  else if isSet s.client.mqttUrl && isSet s.client.userId && isSet s.client.token &&
      s.httpSession && !s.devices.isEmpty then
    { s with
      mqtt := some
        { topics := buildSubscribeTopics (s.devices.map fun d => d.xCloudId).eraseDups
            (s.client.userId.getD "") (mqttExtraTopics s.devices)
          router := TopicRouter.ofRoutes eventRoutes }
      ensure := .connecting }
  else s

/-- `_ensure_mqtt` from the end of `connect()` on. -/
def endConnect (m : MqttHandle) (result : Except Exc SubscribeOutcome) (s : Supplement) :
    Supplement :=
  match result with
  | .ok outcome => syncSse { s with mqtt := some { m with subscribeOutcome := some outcome } }
  | .error err =>
    if err.isException then { s with mqtt := none, ensure := .unlocked }
    else { s with ensure := .unlocked }

inductive Action where
  | login (client : ClientSession)
  | ensureMqtt
  | connected (result : Except Exc SubscribeOutcome)
  | sseStopped
  /-- `_handle_mqtt_disconnect` of the stream in use. -/
  | disconnected

/-- Shutting down is left out: it ends the coordinator. -/
def step (s : Supplement) : Action → Option Supplement
  | .login client => some { s with client := client }
  | .ensureMqtt => if s.ensure = .unlocked then some s.beginEnsure else none
  | .connected result =>
    match s.ensure, s.mqtt with
    | .connecting, some m => some (s.endConnect m result)
    | _, _ => none
  | .sseStopped =>
    if s.ensure = .closing then some { s with sse := false, ensure := .unlocked } else none
  | .disconnected =>
    -- Only a connected stream has a listen loop to call back from.
    if (s.mqtt.bind fun m => m.subscribeOutcome).isSome then some { s with mqtt := none } else none

def machine : Machine Supplement Action where
  step := step

/-- After the devices were listed, before the first `_ensure_mqtt`. -/
def init (devices : List DeviceInfo) (httpSession : Bool) (client : ClientSession) : Supplement where
  devices := devices
  httpSession := httpSession
  client := client

end Supplement

/-! ## Routing a frame -/

section Routing

variable {σ : Type}

/-- Run the handlers in turn; the first exception leaves the loop. -/
def runInTurn (topic : String) (payload : Json) :
    List (EventHandler σ) → σ → σ × Except Exc Unit
  | [], env => (env, .ok ())
  | handler :: handlers, env =>
    match handler topic payload env with
    | (env, .ok ()) => runInTurn topic payload handlers env
    | (env, .error err) => (env, .error err)

/-- The topic MQTT would have used for a frame the supplement may feed in. -/
def Supplement.sseTopic (s : Supplement) (payload : List (String × Json)) : Option String :=
  match Json.lookup "resource" payload, Json.lookup "action" payload with
  | some (.str resource), some (.str action) =>
    (s.sseResources.get? resource).map fun xCloudId => deviceTopic xCloudId resource action
  | _, _ => none

/-- Route one SSE frame through the MQTT handlers, if it fills a gap. -/
def Supplement.handleSseEvent (run : Handler → EventHandler σ) (s : Supplement)
    (payload : List (String × Json)) (env : σ) : σ × Except Exc Unit :=
  match s.sseTopic payload with
  | none => (env, .ok ())
  | some topic => runInTurn topic (.obj payload) ((s.sseRouter.matching topic).map run) env

/-- What MQTT does with the same payload on a topic. -/
def MqttHandle.dispatch (run : Handler → EventHandler σ) (m : MqttHandle) (topic : String)
    (payload : List (String × Json)) (env : σ) : σ × Except Exc Unit :=
  runHandlers topic (.obj payload) ((m.router.map run).matching topic) env

/-- Handlers that only note that they ran, and with what topic. -/
def noteRun (handler : Handler) : EventHandler (List (Handler × String)) :=
  fun topic _ log => (log ++ [(handler, topic)], .ok ())

/-- The handlers that a frame runs, each with its topic. -/
def Supplement.handled (s : Supplement) (payload : List (String × Json)) :
    List (Handler × String) :=
  (s.handleSseEvent noteRun payload []).1

/-- The handlers that MQTT runs, each with its topic. -/
def MqttHandle.handled (m : MqttHandle) (topic : String) (payload : List (String × Json)) :
    List (Handler × String) :=
  (m.dispatch noteRun topic payload []).1

theorem runInTurn_noteRun (topic : String) (payload : Json) (handlers : List Handler)
    (log : List (Handler × String)) :
    (runInTurn topic payload (handlers.map noteRun) log).1 =
      log ++ handlers.map fun handler => (handler, topic) := by
  induction handlers generalizing log with
  | nil => simp [runInTurn]
  | cons handler handlers ih => simp [runInTurn, noteRun, ih]

theorem MqttHandle.dispatch_eq (m : MqttHandle) (run : Handler → EventHandler σ) (topic : String)
    (payload : List (String × Json)) (env : σ) :
    m.dispatch run topic payload env =
      runHandlers topic (.obj payload) ((m.router.matching topic).map run) env := by
  rw [MqttHandle.dispatch, TopicRouter.matching_map]

theorem handled_eq (s : Supplement) (payload : List (String × Json)) :
    s.handled payload =
      ((s.sseTopic payload).map fun topic =>
        (s.sseRouter.matching topic).map fun handler => (handler, topic)).getD [] := by
  unfold Supplement.handled Supplement.handleSseEvent
  cases s.sseTopic payload with
  | none => rfl
  | some topic => simp [runInTurn_noteRun]

end Routing

/-! ## The gap as a list of devices -/

section Gap

/-- The devices whose resources the gap is computed over, in its order. -/
def publishers (devices : List DeviceInfo) : List DeviceInfo :=
  cameras devices ++ contactSensors devices

/-- The resources a device publishes its state as. -/
def published (device : DeviceInfo) : List String :=
  if device.isSensor then [sensorResource device] else cameraResources device

/-- The publishers of a resource whose state no granted filter delivers. -/
def undelivered (devices : List DeviceInfo) (outcome : SubscribeOutcome) (resource : String) :
    List DeviceInfo :=
  (publishers devices).filter fun d =>
    resource ∈ published d && !delivers outcome (deviceTopic d.xCloudId resource "is")

def undeliveredEntries (outcome : SubscribeOutcome) (device : DeviceInfo)
    (resources : List String) : List (String × String) :=
  (resources.filter fun resource =>
    !delivers outcome (deviceTopic device.xCloudId resource "is")).map
    fun resource => (resource, device.xCloudId)

theorem addUndelivered_eq (outcome : SubscribeOutcome) (device : DeviceInfo)
    (gap : Dict String String) (resources : List String) :
    addUndelivered outcome device gap resources =
      (undeliveredEntries outcome device resources).foldl
        (fun gap entry => gap.set entry.1 entry.2) gap := by
  induction resources generalizing gap with
  | nil => rfl
  | cons resource resources ih =>
    rw [addUndelivered, ih]
    by_cases hdelivered : delivers outcome (deviceTopic device.xCloudId resource "is") = true
    · simp [undeliveredEntries, hdelivered]
    · simp [undeliveredEntries, hdelivered]

theorem foldl_addUndelivered (outcome : SubscribeOutcome) (resourcesOf : DeviceInfo → List String)
    (devices : List DeviceInfo) (gap : Dict String String) :
    devices.foldl (fun gap device => addUndelivered outcome device gap (resourcesOf device)) gap =
      (devices.flatMap fun device => undeliveredEntries outcome device (resourcesOf device)).foldl
        (fun gap entry => gap.set entry.1 entry.2) gap := by
  induction devices generalizing gap with
  | nil => rfl
  | cons device devices ih =>
    rw [List.foldl_cons, ih, addUndelivered_eq, List.flatMap_cons, List.foldl_append]

theorem sseGapResources_eq (devices : List DeviceInfo) (outcome : SubscribeOutcome) :
    sseGapResources devices outcome =
      Dict.ofEntries ((publishers devices).flatMap fun device =>
        undeliveredEntries outcome device (published device)) := by
  have hcameras : (cameras devices).flatMap
        (fun device => undeliveredEntries outcome device (published device)) =
      (cameras devices).flatMap
        (fun device => undeliveredEntries outcome device (cameraResources device)) := by
    refine List.flatMap_congr fun device hdevice => ?_
    simp only [cameras, List.mem_filter, Bool.and_eq_true, Bool.not_eq_true'] at hdevice
    simp [published, hdevice.2.2]
  have hsensors : (contactSensors devices).flatMap
        (fun device => undeliveredEntries outcome device (published device)) =
      (contactSensors devices).flatMap
        (fun device => undeliveredEntries outcome device [sensorResource device]) := by
    refine List.flatMap_congr fun device hdevice => ?_
    simp only [contactSensors, List.mem_filter] at hdevice
    simp [published, hdevice.2]
  rw [sseGapResources, foldl_addUndelivered, foldl_addUndelivered, Dict.ofEntries, publishers,
    List.flatMap_append, List.foldl_append, hcameras, hsensors]

theorem published_nodup (device : DeviceInfo) : (published device).Nodup := by
  unfold published cameraResources
  split
  · exact List.nodup_singleton _
  · split
    · simp
    · exact List.nodup_singleton _

theorem undeliveredEntries_filter (outcome : SubscribeOutcome) (device : DeviceInfo)
    (resource : String) :
    ((undeliveredEntries outcome device (published device)).filter
        fun entry => entry.1 = resource) =
      if resource ∈ published device &&
          !delivers outcome (deviceTopic device.xCloudId resource "is") then
        [(resource, device.xCloudId)]
      else [] := by
  have hnodup := (published_nodup device).filter fun resource =>
    !delivers outcome (deviceTopic device.xCloudId resource "is")
  have hkey : ∀ resources : List String,
      ((resources.map fun resource => (resource, device.xCloudId)).filter
          fun entry => entry.1 = resource) =
        (resources.filter fun r => r = resource).map fun r => (r, device.xCloudId) := by
    intro resources
    simp [List.filter_map, Function.comp_def]
  rw [undeliveredEntries, hkey, List.filter_eq, hnodup.count]
  by_cases hmem : resource ∈ published device ∧
      delivers outcome (deviceTopic device.xCloudId resource "is") = false
  · simp [hmem]
  · simp [List.mem_filter, hmem]

/-- The gap leads a resource to the last device that publishes it undelivered. -/
theorem sseGapResources_get? (devices : List DeviceInfo) (outcome : SubscribeOutcome)
    (resource : String) :
    (sseGapResources devices outcome).get? resource =
      (undelivered devices outcome resource).getLast?.map fun d => d.xCloudId := by
  have hentries : ∀ devices : List DeviceInfo,
      ((devices.flatMap fun device => undeliveredEntries outcome device (published device)).filter
          fun entry => entry.1 = resource) =
        (devices.filter fun d => resource ∈ published d &&
          !delivers outcome (deviceTopic d.xCloudId resource "is")).map
          fun d => (resource, d.xCloudId) := by
    intro devices
    induction devices with
    | nil => rfl
    | cons device devices ih =>
      rw [List.flatMap_cons, List.filter_append, ih, undeliveredEntries_filter, List.filter_cons]
      split_ifs with hmem
      · rfl
      · rfl
  rw [sseGapResources_eq, Dict.get?_ofEntries, hentries, List.getLast?_map, Option.map_map]
  rfl

end Gap

/-! ## The supplement follows the broker -/

namespace Supplement

/-- What the supplement feeds in is what the last SUBACK leaves undelivered. -/
structure Synced (s : Supplement) : Prop where
  connecting : s.ensure = .connecting →
    s.httpSession = true ∧ ∃ m, s.mqtt = some m ∧ m.subscribeOutcome = none
  routes : ∀ m, s.mqtt = some m → m.router = eventRouter
  resources : ∀ m outcome, s.mqtt = some m → m.subscribeOutcome = some outcome →
    s.sseResources = sseGapResources s.devices outcome ∧ s.sseRouter = eventRouter
  isOpen : ∀ m outcome, s.mqtt = some m → m.subscribeOutcome = some outcome →
    (sseGapResources s.devices outcome).entries ≠ [] → s.sse = true ∧ s.ensure ≠ .closing

theorem synced_init (devices : List DeviceInfo) (httpSession : Bool) (client : ClientSession) :
    Synced (init devices httpSession client) where
  connecting := nofun
  routes := nofun
  resources := nofun
  isOpen := nofun

theorem Synced.syncSse {s : Supplement} {m : MqttHandle} {outcome : SubscribeOutcome}
    (hmqtt : s.mqtt = some m) (hrouter : m.router = eventRouter)
    (houtcome : m.subscribeOutcome = some outcome) (hsession : s.httpSession = true) :
    Synced s.syncSse := by
  have hbind : (s.mqtt.bind fun m => m.subscribeOutcome) = some outcome := by
    rw [hmqtt]
    exact houtcome
  have hcur : ∀ m' outcome', s.mqtt = some m' → m'.subscribeOutcome = some outcome' →
      outcome' = outcome := by
    intro m' outcome' hm' ho'
    rw [hmqtt] at hm'
    cases hm'
    rw [houtcome] at ho'
    exact (Option.some.inj ho').symm
  have hroutes : ∀ m', s.mqtt = some m' → m'.router = eventRouter := by
    intro m' hm'
    rw [hmqtt] at hm'
    cases hm'
    exact hrouter
  unfold Supplement.syncSse
  rw [hbind]
  by_cases hgap : (sseGapResources s.devices outcome).entries = []
  · simp only [hgap, if_true]
    constructor
    case connecting =>
      intro h
      cases hsse : s.sse <;> simp [hsse] at h
    case routes => exact hroutes
    case resources =>
      intro m' outcome' hm' ho'
      rw [hcur m' outcome' hm' ho']
      exact ⟨rfl, rfl⟩
    case isOpen =>
      intro m' outcome' hm' ho' hne
      rw [hcur m' outcome' hm' ho'] at hne
      exact absurd hgap hne
  · simp only [hgap, if_false]
    constructor
    case connecting => nofun
    case routes => exact hroutes
    case resources =>
      intro m' outcome' hm' ho'
      rw [hcur m' outcome' hm' ho']
      exact ⟨rfl, rfl⟩
    case isOpen =>
      intro m' outcome' hm' ho' hne
      simp [hsession]

theorem Synced.beginEnsure {s : Supplement} (hs : Synced s) : Synced s.beginEnsure := by
  unfold Supplement.beginEnsure
  split
  · exact hs
  · split
    next hready =>
      simp only [Bool.and_eq_true] at hready
      constructor
      case connecting => exact fun _ => ⟨hready.1.2, _, rfl, rfl⟩
      case routes =>
        intro m hm
        cases hm
        rfl
      case resources =>
        intro m outcome hm ho
        cases hm
        cases ho
      case isOpen =>
        intro m outcome hm ho
        cases hm
        cases ho
    next => exact hs

theorem Synced.endConnect {s : Supplement} {m : MqttHandle} (hs : Synced s)
    (hensure : s.ensure = .connecting) (hmqtt : s.mqtt = some m)
    (result : Except Exc SubscribeOutcome) : Synced (s.endConnect m result) := by
  cases result with
  | ok outcome =>
    have hsync : Synced (Supplement.syncSse
        { s with mqtt := some { m with subscribeOutcome := some outcome } }) :=
      Synced.syncSse rfl (hs.routes m hmqtt) rfl (hs.connecting hensure).1
    exact hsync
  | error err =>
    unfold Supplement.endConnect
    by_cases herr : err.isException = true
    · simp only [herr, if_true]
      exact ⟨nofun, nofun, nofun, nofun⟩
    · simp only [herr]
      obtain ⟨_, m', hm', ho'⟩ := hs.connecting hensure
      constructor
      case connecting => nofun
      case routes => exact hs.routes
      case resources => exact hs.resources
      case isOpen =>
        intro m'' outcome hm'' ho'' hne
        exact ⟨(hs.isOpen m'' outcome hm'' ho'' hne).1, nofun⟩

theorem Synced.step {s t : Supplement} {a : Action} (hs : Synced s)
    (h : machine.step s a = some t) : Synced t := by
  cases a with
  | login client =>
    cases h
    exact ⟨hs.connecting, hs.routes, hs.resources, hs.isOpen⟩
  | ensureMqtt =>
    simp only [machine, Supplement.step, Option.ite_none_right_eq_some, Option.some.injEq] at h
    obtain ⟨_, rfl⟩ := h
    exact hs.beginEnsure
  | connected result =>
    simp only [machine, Supplement.step] at h
    split at h
    next m hensure hmqtt =>
      cases h
      exact hs.endConnect hensure hmqtt result
    next => cases h
  | sseStopped =>
    simp only [machine, Supplement.step, Option.ite_none_right_eq_some, Option.some.injEq] at h
    obtain ⟨hclosing, rfl⟩ := h
    constructor
    case connecting => nofun
    case routes => exact hs.routes
    case resources => exact hs.resources
    case isOpen =>
      intro m outcome hm ho hne
      exact absurd hclosing (hs.isOpen m outcome hm ho hne).2
  | disconnected =>
    simp only [machine, Supplement.step, Option.ite_none_right_eq_some, Option.some.injEq] at h
    obtain ⟨houtcome, rfl⟩ := h
    constructor
    case connecting =>
      intro hensure
      obtain ⟨_, m, hm, ho⟩ := hs.connecting hensure
      simp [hm, ho] at houtcome
    case routes => nofun
    case resources => nofun
    case isOpen => nofun

theorem synced_of_reachable {devices : List DeviceInfo} {httpSession : Bool}
    {client : ClientSession} {s : Supplement}
    (h : machine.Reachable (init devices httpSession client) s) : Synced s :=
  h.invariant (synced_init devices httpSession client) fun _ _ _ => Synced.step

/-- A supplement that feeds in anything has the routes of MQTT. -/
def Routed (s : Supplement) : Prop := s.sseResources = Dict.empty ∨ s.sseRouter = eventRouter

theorem routed_setSseResources (resources : Dict String String) (s : Supplement) :
    Routed (s.setSseResources resources) := Or.inr rfl

theorem Routed.syncSse {s : Supplement} (hs : Routed s) : Routed s.syncSse := by
  unfold Supplement.syncSse
  split
  · exact hs
  · split
    · exact routed_setSseResources _ s
    · exact routed_setSseResources _ s

theorem Routed.step {s t : Supplement} {a : Action} (hs : Routed s)
    (h : machine.step s a = some t) : Routed t := by
  cases a with
  | login client =>
    cases h
    exact hs
  | ensureMqtt =>
    simp only [machine, Supplement.step, Option.ite_none_right_eq_some, Option.some.injEq] at h
    obtain ⟨-, rfl⟩ := h
    unfold Supplement.beginEnsure
    split
    · exact hs
    · split <;> exact hs
  | connected result =>
    simp only [machine, Supplement.step] at h
    split at h
    next m hensure hmqtt =>
      cases h
      cases result with
      | ok outcome => exact Routed.syncSse hs
      | error err =>
        unfold Supplement.endConnect
        dsimp only
        split <;> exact hs
    next => cases h
  | sseStopped =>
    simp only [machine, Supplement.step, Option.ite_none_right_eq_some, Option.some.injEq] at h
    obtain ⟨-, rfl⟩ := h
    exact hs
  | disconnected =>
    simp only [machine, Supplement.step, Option.ite_none_right_eq_some, Option.some.injEq] at h
    obtain ⟨-, rfl⟩ := h
    exact hs

end Supplement

end Eisenberg.Coordinator
