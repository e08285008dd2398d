import Eisenberg.Framework.Dict
import Eisenberg.Framework.LastWriter
import Eisenberg.Mqtt.Router
import Eisenberg.Values.Exceptions
import Eisenberg.Values.Models

/-!
# Device states

The four writers of `device_states`: camera and sensor frames, a base station's answer to a device
query, and the re-read REST device list. Each goes through `_merge_device_state`, so that the store
holds, field by field, what the last block said.
-/

namespace Eisenberg.Coordinator

open Framework Mqtt

structure DeviceStore where
  deviceStates : Dict String DeviceState
  basestationConnection : Dict String String
  spotlightStates : Dict String SpotlightState

namespace DeviceStore

def init : DeviceStore := ⟨.empty, .empty, .empty⟩

variable (scalars : Scalars)

/-- Fold the non-null fields of `incoming` onto the stored state. -/
def mergeDeviceState (s : DeviceStore) (deviceId : String) (incoming : DeviceState) : DeviceStore :=
  if incoming = {} then s
  else
    let merged := match s.deviceStates.get? deviceId with
      | none => incoming
      | some current => current.merge incoming
    { s with deviceStates := s.deviceStates.set deviceId merged }

/-- The value arrives keyed by the device the block describes, its own gateway included. -/
def recordConnection (s : DeviceStore) (deviceId : String) (state : DeviceState) : DeviceStore :=
  match state.connectionState with
  | none => s
  | some connection =>
    { s with basestationConnection := s.basestationConnection.set deviceId connection }

def attributeError : Exc := .builtin .attributeError "object has no attribute 'get'"

/-- `payload.get("properties") or payload.get("states", {})`. -/
def cameraBlock (fields : List (String × Json)) : Json :=
  let properties := (Json.lookup "properties" fields).getD .null
  if properties.truthy then properties else (Json.lookup "states" fields).getD (.obj [])

def recordSpotlight (s : DeviceStore) (deviceId : String) (block : Json) : DeviceStore :=
  match block.get? "spotlight" with
  | some (.obj fields) =>
    match SpotlightState.validate scalars fields with
    | none => s
    | some spotlight =>
      { s with spotlightStates := s.spotlightStates.set deviceId spotlight }
  | _ => s

/-- Handle camera device state updates: d/{xCloudId}/out/cameras/{deviceId}/is. -/
def handleCameraState (topic : String) (payload : Json) (s : DeviceStore) :
    DeviceStore × Except Exc Unit :=
  match (splitTopic topic)[4]? with
  | none => (s, .ok ())
  | some deviceId =>
    match payload with
    | .obj fields =>
      match DeviceState.validate scalars (cameraBlock fields) with
      | none => (s, .ok ())
      | some state =>
        let s := s.mergeDeviceState deviceId state
        (s.recordSpotlight scalars deviceId (cameraBlock fields), .ok ())
    | _ => (s, .error attributeError)

/-- `payload.get("properties", {})`. -/
def sensorBlock (fields : List (String × Json)) : Json :=
  (Json.lookup "properties" fields).getD (.obj [])

/-- Handle an all-in-one sensor's state: d/{xCloudId}/out/sensors/{id}/is. -/
def handleSensorState (topic : String) (payload : Json) (s : DeviceStore) :
    DeviceStore × Except Exc Unit :=
  match (splitTopic topic)[4]? with
  | none => (s, .error (.builtin .indexError "list index out of range"))
  | some deviceId =>
    match payload with
    | .obj fields =>
      match DeviceState.validate scalars (sensorBlock fields) with
      | none => (s, .ok ())
      | some state => (s.mergeDeviceState deviceId state, .ok ())
    | _ => (s, .error attributeError)

/-- One block of a list or a map: merged if it validates, skipped if not. -/
def applyBlock (s : DeviceStore) (deviceId : String) (block : Json) : DeviceStore :=
  match DeviceState.validate scalars block with
  | none => s
  | some state => (s.mergeDeviceState deviceId state).recordConnection deviceId state

/-- The blocks of a device query's answer; one that is no object is skipped. -/
def responseBlocks (fields : List (String × Json)) : List (String × Json) :=
  match Json.lookup "resource" fields, Json.lookup "devices" fields with
  | some (.str "devices"), some (.obj devices) => devices.filter fun entry => entry.2.isObj
  | _, _ => []

/-- Handle a base station's answer to `{action: get, resource: devices}`. -/
def handleDevicesResponse (payload : Json) (s : DeviceStore) : DeviceStore × Except Exc Unit :=
  match payload with
  | .obj fields =>
    ((responseBlocks fields).foldl (fun s entry => s.applyBlock scalars entry.1 entry.2) s, .ok ())
  | _ => (s, .error attributeError)

/-- The property blocks of a device list; a device without properties has none. -/
def propertyBlocks (devices : List DeviceInfo) : List (String × Json) :=
  devices.filterMap fun device =>
    match device.properties with
    | none | some [] => none
    | some props => some (device.deviceId, .obj props)

/-- `_refresh_device_properties` once `get_devices` has answered. -/
def refreshDeviceProperties (reply : Except Exc (List DeviceInfo)) (s : DeviceStore) : DeviceStore :=
  match reply with
  | .error _ => s
  | .ok devices =>
    (propertyBlocks devices).foldl (fun s entry => s.applyBlock scalars entry.1 entry.2) s

end DeviceStore

/-- What a state event brings to the coordinator. -/
inductive StateEvent where
  | camera (topic : String) (payload : Json)
  | sensor (topic : String) (payload : Json)
  | devicesResponse (payload : Json)
  | refresh (reply : Except Exc (List DeviceInfo))

namespace StateEvent

open DeviceStore

/-- The store after the event; an exception that leaves a handler is logged by the dispatch. -/
def apply (scalars : Scalars) (s : DeviceStore) : StateEvent → DeviceStore
  | camera topic payload => (s.handleCameraState scalars topic payload).1
  | sensor topic payload => (s.handleSensorState scalars topic payload).1
  | devicesResponse payload => (s.handleDevicesResponse scalars payload).1
  | refresh reply => s.refreshDeviceProperties scalars reply

/-- The state blocks of the event, each with the device it is for. -/
def blocks : StateEvent → List (String × Json)
  | camera topic (.obj fields) => ((splitTopic topic)[4]?.map fun d => (d, cameraBlock fields)).toList
  | sensor topic (.obj fields) => ((splitTopic topic)[4]?.map fun d => (d, sensorBlock fields)).toList
  | devicesResponse (.obj fields) => responseBlocks fields
  | refresh (.ok devices) => propertyBlocks devices
  | _ => []

end StateEvent

/-! ## The last-writer law -/

/-- The blocks that validate, as writes to the fields that are not null. -/
def blockWrites (scalars : Scalars) (blocks : List (String × Json)) :
    List (Write String DeviceField Scalar) :=
  blocks.filterMap fun block =>
    (DeviceState.validate scalars block.2).map fun state => ⟨block.1, state.get⟩

/-- The value of `f` in the last block for `d` that validated and carried a non-null `f`. -/
def lastValue (scalars : Scalars) (blocks : List (String × Json)) (d : String) (f : DeviceField) :
    Option Scalar :=
  Write.last (blockWrites scalars blocks) d f

namespace DeviceStore

/-- `device_states[d].f`, `none` for `None` and for no entry. -/
def field (s : DeviceStore) (d : String) (f : DeviceField) : Option Scalar :=
  (s.deviceStates.get? d).bind fun state => state.get f

variable {scalars : Scalars}

theorem field_mergeDeviceState (s : DeviceStore) (d : String) (incoming : DeviceState) :
    (s.mergeDeviceState d incoming).field = Write.apply s.field ⟨d, incoming.get⟩ := by
  funext k f
  by_cases hempty : incoming = {}
  · subst hempty
    simp [mergeDeviceState, Write.apply, Write.at?]
  · by_cases hk : k = d
    · subst hk
      cases hcurrent : s.deviceStates.get? k with
      | none =>
        simp [mergeDeviceState, hempty, hcurrent, field, Write.apply, Write.at?]
      | some current =>
        simp [mergeDeviceState, hempty, hcurrent, field, Write.apply, Write.at?,
          DeviceState.get_merge]
    · have hd : ¬ d = k := fun h => hk h.symm
      simp [mergeDeviceState, hempty, field, Write.apply, Write.at?, hd, Dict.get?_set_of_ne _ hk]

@[simp] theorem field_recordConnection (s : DeviceStore) (d : String) (state : DeviceState) :
    (s.recordConnection d state).field = s.field := by
  unfold recordConnection
  cases state.connectionState <;> rfl

@[simp] theorem field_recordSpotlight (s : DeviceStore) (d : String) (block : Json) :
    (s.recordSpotlight scalars d block).field = s.field := by
  unfold recordSpotlight
  split
  · split <;> rfl
  · rfl

theorem field_applyBlock (s : DeviceStore) (block : String × Json) :
    (s.applyBlock scalars block.1 block.2).field =
      (blockWrites scalars [block]).foldl Write.apply s.field := by
  cases hvalid : DeviceState.validate scalars block.2 with
  | none => simp [applyBlock, blockWrites, hvalid]
  | some state => simp [applyBlock, blockWrites, hvalid, field_mergeDeviceState]

theorem blockWrites_append (xs ys : List (String × Json)) :
    blockWrites scalars (xs ++ ys) = blockWrites scalars xs ++ blockWrites scalars ys :=
  List.filterMap_append ..

theorem field_foldl_applyBlock (blocks : List (String × Json)) (s : DeviceStore) :
    (blocks.foldl (fun s entry => s.applyBlock scalars entry.1 entry.2) s).field =
      (blockWrites scalars blocks).foldl Write.apply s.field := by
  induction blocks generalizing s with
  | nil => rfl
  | cons block blocks ih =>
    rw [List.foldl_cons, ih, field_applyBlock, ← List.foldl_append, ← blockWrites_append]
    rfl

theorem field_apply (s : DeviceStore) (event : StateEvent) :
    (event.apply scalars s).field =
      (blockWrites scalars event.blocks).foldl Write.apply s.field := by
  cases event with
  | camera topic payload =>
    cases hd : (splitTopic topic)[4]? with
    | none =>
      cases payload <;>
        simp [StateEvent.apply, StateEvent.blocks, handleCameraState, hd, blockWrites]
    | some d =>
      cases payload with
      | obj fields =>
        cases hvalid : DeviceState.validate scalars (cameraBlock fields) <;>
          simp [StateEvent.apply, StateEvent.blocks, handleCameraState, hd, hvalid, blockWrites,
            field_mergeDeviceState]
      | _ => simp [StateEvent.apply, StateEvent.blocks, handleCameraState, hd, blockWrites]
  | sensor topic payload =>
    cases hd : (splitTopic topic)[4]? with
    | none =>
      cases payload <;>
        simp [StateEvent.apply, StateEvent.blocks, handleSensorState, hd, blockWrites]
    | some d =>
      cases payload with
      | obj fields =>
        cases hvalid : DeviceState.validate scalars (sensorBlock fields) <;>
          simp [StateEvent.apply, StateEvent.blocks, handleSensorState, hd, hvalid, blockWrites,
            field_mergeDeviceState]
      | _ => simp [StateEvent.apply, StateEvent.blocks, handleSensorState, hd, blockWrites]
  | devicesResponse payload =>
    cases payload with
    | obj fields => exact field_foldl_applyBlock ..
    | _ => rfl
  | refresh reply =>
    cases reply with
    | error err => rfl
    | ok devices => exact field_foldl_applyBlock ..

theorem field_run (events : List StateEvent) (s : DeviceStore) (d : String) (f : DeviceField) :
    (events.foldl (StateEvent.apply scalars) s).field d f =
      (lastValue scalars (events.flatMap StateEvent.blocks) d f).or (s.field d f) := by
  have hwrites : (events.foldl (StateEvent.apply scalars) s).field =
      (blockWrites scalars (events.flatMap StateEvent.blocks)).foldl Write.apply s.field := by
    induction events generalizing s with
    | nil => rfl
    | cons event events ih =>
      rw [List.foldl_cons, ih, field_apply, List.flatMap_cons, blockWrites_append, List.foldl_append]
  rw [hwrites, Write.foldl_apply]
  rfl

/-! ## What leaves a device alone -/

theorem get?_mergeDeviceState_of_ne (s : DeviceStore) {d k : String} (h : k ≠ d)
    (incoming : DeviceState) :
    (s.mergeDeviceState d incoming).deviceStates.get? k = s.deviceStates.get? k := by
  unfold mergeDeviceState
  split_ifs
  · rfl
  · exact Dict.get?_set_of_ne _ h _

@[simp] theorem deviceStates_recordConnection (s : DeviceStore) (d : String) (state : DeviceState) :
    (s.recordConnection d state).deviceStates = s.deviceStates := by
  unfold recordConnection
  cases state.connectionState <;> rfl

@[simp] theorem deviceStates_recordSpotlight (s : DeviceStore) (d : String) (block : Json) :
    (s.recordSpotlight scalars d block).deviceStates = s.deviceStates := by
  unfold recordSpotlight
  split
  · split <;> rfl
  · rfl

/-- The block says nothing about `d`: it is for another device, it does not validate, or all its
fields are null or missing. -/
def Silent (scalars : Scalars) (d : String) (block : String × Json) : Prop :=
  block.1 = d → ∀ state, DeviceState.validate scalars block.2 = some state → state = {}

theorem get?_mergeDeviceState_of_silent (s : DeviceStore) {d k : String} {block : Json}
    (h : Silent scalars k (d, block)) {state : DeviceState}
    (hvalid : DeviceState.validate scalars block = some state) :
    (s.mergeDeviceState d state).deviceStates.get? k = s.deviceStates.get? k := by
  by_cases hk : d = k
  · rw [h hk state hvalid]
    rfl
  · exact get?_mergeDeviceState_of_ne s (fun hkd => hk hkd.symm) state

theorem get?_foldl_applyBlock_of_silent {k : String} {blocks : List (String × Json)}
    (h : ∀ block ∈ blocks, Silent scalars k block) (s : DeviceStore) :
    (blocks.foldl (fun s entry => s.applyBlock scalars entry.1 entry.2) s).deviceStates.get? k =
      s.deviceStates.get? k := by
  induction blocks generalizing s with
  | nil => rfl
  | cons block blocks ih =>
    rw [List.foldl_cons, ih fun other hother => h other (by simp [hother])]
    cases hvalid : DeviceState.validate scalars block.2 with
    | none => simp [applyBlock, hvalid]
    | some state =>
      simp only [applyBlock, hvalid, deviceStates_recordConnection]
      exact get?_mergeDeviceState_of_silent s (h block (by simp)) hvalid

theorem get?_apply_of_silent {k : String} {event : StateEvent}
    (h : ∀ block ∈ event.blocks, Silent scalars k block) (s : DeviceStore) :
    (event.apply scalars s).deviceStates.get? k = s.deviceStates.get? k := by
  cases event with
  | camera topic payload =>
    cases hd : (splitTopic topic)[4]? with
    | none => simp [StateEvent.apply, handleCameraState, hd]
    | some d =>
      cases payload with
      | obj fields =>
        have hsilent := h (d, cameraBlock fields) (by simp [StateEvent.blocks, hd])
        cases hvalid : DeviceState.validate scalars (cameraBlock fields) with
        | none => simp [StateEvent.apply, handleCameraState, hd, hvalid]
        | some state =>
          simp only [StateEvent.apply, handleCameraState, hd, hvalid, deviceStates_recordSpotlight]
          exact get?_mergeDeviceState_of_silent s hsilent hvalid
      | _ => simp [StateEvent.apply, handleCameraState, hd]
  | sensor topic payload =>
    cases hd : (splitTopic topic)[4]? with
    | none => simp [StateEvent.apply, handleSensorState, hd]
    | some d =>
      cases payload with
      | obj fields =>
        have hsilent := h (d, sensorBlock fields) (by simp [StateEvent.blocks, hd])
        cases hvalid : DeviceState.validate scalars (sensorBlock fields) with
        | none => simp [StateEvent.apply, handleSensorState, hd, hvalid]
        | some state =>
          simp only [StateEvent.apply, handleSensorState, hd, hvalid]
          exact get?_mergeDeviceState_of_silent s hsilent hvalid
      | _ => simp [StateEvent.apply, handleSensorState, hd]
  | devicesResponse payload =>
    cases payload with
    | obj fields => exact get?_foldl_applyBlock_of_silent h s
    | _ => rfl
  | refresh reply =>
    cases reply with
    | error err => rfl
    | ok devices => exact get?_foldl_applyBlock_of_silent h s

end DeviceStore

/-! ## The blocks of the four shapes -/

namespace StateEvent

/-- The state blocks that Arlo sent with the event, read off the four shapes: a camera frame
has its block under `properties` or else under `states`, a sensor frame under `properties`, both for
the device their topic names; a hub answers a device query with a block for each device it names;
the device list has one for each device. -/
def carried : StateEvent → List (String × Json)
  | camera topic payload =>
    match splitTopic topic with
    | _ :: _ :: _ :: _ :: deviceId :: _ =>
      match payload.get? "properties", payload.get? "states" with
      | some properties, states =>
        if properties.truthy then [(deviceId, properties)]
        else states.toList.map fun block => (deviceId, block)
      | none, states => states.toList.map fun block => (deviceId, block)
    | _ => []
  | sensor topic payload =>
    match splitTopic topic with
    | _ :: _ :: _ :: _ :: deviceId :: _ =>
      (payload.get? "properties").toList.map fun block => (deviceId, block)
    | _ => []
  | devicesResponse payload =>
    match payload.get? "resource", payload.get? "devices" with
    | some (.str "devices"), some (.obj devices) => devices
    | _, _ => []
  | refresh (.ok devices) =>
    devices.map fun device => (device.deviceId, .obj (device.properties.getD []))
  | refresh (.error _) => []

end StateEvent

/-- What blocks say about a field, block by block. -/
def mentions (scalars : Scalars) (blocks : List (String × Json)) (d : String) (f : DeviceField) :
    List Scalar :=
  (blockWrites scalars blocks).filterMap fun write => write.at? d f

theorem lastValue_eq_mentions (scalars : Scalars) (blocks : List (String × Json)) (d : String)
    (f : DeviceField) : lastValue scalars blocks d f = (mentions scalars blocks d f).getLast? := rfl

/-- The block is an object that has fields. -/
def speaks (block : String × Json) : Bool :=
  match block.2 with
  | .obj (_ :: _) => true
  | _ => false

section Mentions

variable {scalars : Scalars} {d : String} {f : DeviceField}

@[simp] theorem mentions_nil : mentions scalars [] d f = [] := rfl

theorem mentions_append (xs ys : List (String × Json)) :
    mentions scalars (xs ++ ys) d f = mentions scalars xs d f ++ mentions scalars ys d f := by
  rw [mentions, DeviceStore.blockWrites_append, List.filterMap_append]
  rfl

theorem mentions_cons (block : String × Json) (blocks : List (String × Json)) :
    mentions scalars (block :: blocks) d f =
      mentions scalars [block] d f ++ mentions scalars blocks d f :=
  mentions_append [block] blocks

/-- Other blocks do not validate, or have nothing in them. -/
theorem empty_of_not_speaks {block : String × Json} (h : speaks block = false)
    {state : DeviceState} (hvalid : DeviceState.validate scalars block.2 = some state) :
    state = {} := by
  obtain ⟨k, value⟩ := block
  cases value with
  | obj fields =>
    cases fields with
    | nil => exact (Option.some.inj hvalid).symm
    | cons field fields => cases h
  | _ => simp [DeviceState.validate] at hvalid

theorem mentions_of_not_speaks {block : String × Json} (h : speaks block = false) :
    mentions scalars [block] d f = [] := by
  cases hvalid : DeviceState.validate scalars block.2 with
  | none => simp [mentions, blockWrites, hvalid]
  | some state =>
    simp [mentions, blockWrites, hvalid, empty_of_not_speaks h hvalid, Write.at?]

theorem mentions_filter_speaks (blocks : List (String × Json)) :
    mentions scalars (blocks.filter speaks) d f = mentions scalars blocks d f := by
  induction blocks with
  | nil => rfl
  | cons block blocks ih =>
    rw [mentions_cons block blocks, ← ih]
    cases hspeaks : speaks block with
    | true => rw [List.filter_cons_of_pos hspeaks, mentions_cons]
    | false =>
      rw [List.filter_cons_of_neg (by simp [hspeaks]), mentions_of_not_speaks hspeaks,
        List.nil_append]

end Mentions

namespace DeviceStore

variable {scalars : Scalars}

theorem splitTopic_fifth (topic : String) :
    (∃ a b c e d rest, splitTopic topic = a :: b :: c :: e :: d :: rest ∧
        (splitTopic topic)[4]? = some d) ∨
      (splitTopic topic)[4]? = none ∧
        ∀ a b c e d rest, splitTopic topic ≠ a :: b :: c :: e :: d :: rest := by
  rcases splitTopic topic with _ | ⟨a, _ | ⟨b, _ | ⟨c, _ | ⟨e, _ | ⟨d, rest⟩⟩⟩⟩⟩
  case cons.cons.cons.cons.cons => exact Or.inl ⟨a, b, c, e, d, rest, rfl, rfl⟩
  all_goals exact Or.inr ⟨rfl, by simp⟩

theorem filter_speaks_camera (topic : String) (payload : Json) :
    (StateEvent.camera topic payload).blocks.filter speaks =
      (StateEvent.camera topic payload).carried.filter speaks := by
  obtain ⟨a, b, c, e, d, rest, htopic, hfifth⟩ | ⟨hfifth, hshort⟩ := splitTopic_fifth topic
  · cases payload with
    | obj fields =>
      simp only [StateEvent.blocks, StateEvent.carried, htopic, cameraBlock, Json.get?]
      cases Json.lookup "properties" fields with
      | none => cases Json.lookup "states" fields <;> rfl
      | some properties =>
        cases htruthy : properties.truthy with
        | true => simp [htruthy]
        | false => cases Json.lookup "states" fields <;> simp [htruthy, speaks]
    | _ => simp [StateEvent.blocks, StateEvent.carried, htopic, Json.get?]
  · have hcarried : (StateEvent.camera topic payload).carried = [] := by
      -- The equation of a short topic, which `hshort` grants.
      simp only [StateEvent.carried]
    rw [hcarried]
    cases payload <;> simp [StateEvent.blocks, hfifth]

theorem filter_speaks_sensor (topic : String) (payload : Json) :
    (StateEvent.sensor topic payload).blocks.filter speaks =
      (StateEvent.sensor topic payload).carried.filter speaks := by
  obtain ⟨a, b, c, e, d, rest, htopic, hfifth⟩ | ⟨hfifth, hshort⟩ := splitTopic_fifth topic
  · cases payload with
    | obj fields =>
      simp only [StateEvent.blocks, StateEvent.carried, htopic, sensorBlock, Json.get?]
      cases Json.lookup "properties" fields <;> rfl
    | _ => simp [StateEvent.blocks, StateEvent.carried, htopic, Json.get?]
  · have hcarried : (StateEvent.sensor topic payload).carried = [] := by
      -- The equation of a short topic, which `hshort` grants.
      simp only [StateEvent.carried]
    rw [hcarried]
    cases payload <;> simp [StateEvent.blocks, hfifth]

theorem isObj_of_speaks {block : String × Json} (h : speaks block = true) :
    block.2.isObj = true := by
  obtain ⟨k, value⟩ := block
  cases value with
  | obj fields => rfl
  | _ => cases h

theorem filter_speaks_devicesResponse (payload : Json) :
    (StateEvent.devicesResponse payload).blocks.filter speaks =
      (StateEvent.devicesResponse payload).carried.filter speaks := by
  cases payload with
  | obj fields =>
    simp only [StateEvent.blocks, StateEvent.carried, responseBlocks, Json.get?]
    split
    · rw [List.filter_filter]
      refine List.filter_congr fun block _ => ?_
      cases hspeaks : speaks block with
      | true => rw [isObj_of_speaks hspeaks, Bool.and_true]
      | false => rfl
    · rfl
  | _ => rfl

theorem filter_speaks_refresh (devices : List DeviceInfo) :
    (StateEvent.refresh (.ok devices)).blocks.filter speaks =
      (StateEvent.refresh (.ok devices)).carried.filter speaks := by
  induction devices with
  | nil => rfl
  | cons device devices ih =>
    have hcarried : (StateEvent.refresh (.ok (device :: devices))).carried =
        (device.deviceId, .obj (device.properties.getD [])) ::
          (StateEvent.refresh (.ok devices)).carried := rfl
    rw [hcarried]
    simp only [StateEvent.blocks] at ih ⊢
    rcases hprops : device.properties with _ | _ | ⟨field, fields⟩
    · simpa [propertyBlocks, hprops, List.filter_cons, speaks] using ih
    · simpa [propertyBlocks, hprops, List.filter_cons, speaks] using ih
    · simpa [propertyBlocks, hprops, List.filter_cons, speaks] using ih

/-- The code takes the blocks that were sent, up to ones that say nothing. -/
theorem filter_speaks_blocks (event : StateEvent) :
    event.blocks.filter speaks = event.carried.filter speaks := by
  cases event with
  | camera topic payload => exact filter_speaks_camera topic payload
  | sensor topic payload => exact filter_speaks_sensor topic payload
  | devicesResponse payload => exact filter_speaks_devicesResponse payload
  | refresh reply =>
    cases reply with
    | error err => rfl
    | ok devices => exact filter_speaks_refresh devices

theorem mentions_blocks (event : StateEvent) (d : String) (f : DeviceField) :
    mentions scalars event.blocks d f = mentions scalars event.carried d f := by
  rw [← mentions_filter_speaks, filter_speaks_blocks, mentions_filter_speaks]

theorem mentions_flatMap_blocks (events : List StateEvent) (d : String) (f : DeviceField) :
    mentions scalars (events.flatMap StateEvent.blocks) d f =
      mentions scalars (events.flatMap StateEvent.carried) d f := by
  induction events with
  | nil => rfl
  | cons event events ih =>
    rw [List.flatMap_cons, List.flatMap_cons, mentions_append, mentions_append, mentions_blocks, ih]

theorem lastValue_flatMap_blocks (events : List StateEvent) (d : String) (f : DeviceField) :
    lastValue scalars (events.flatMap StateEvent.blocks) d f =
      lastValue scalars (events.flatMap StateEvent.carried) d f := by
  rw [lastValue_eq_mentions, lastValue_eq_mentions, mentions_flatMap_blocks]

/-- Blocks that are all silent about a device are blocks that mention none of its fields. -/
theorem silent_iff_mentions {blocks : List (String × Json)} {d : String} :
    (∀ block ∈ blocks, Silent scalars d block) ↔ ∀ f, mentions scalars blocks d f = [] := by
  induction blocks with
  | nil => simp
  | cons block blocks ih =>
    have hone : Silent scalars d block ↔ ∀ f, mentions scalars [block] d f = [] := by
      cases hvalid : DeviceState.validate scalars block.2 with
      | none => simp [Silent, mentions, blockWrites, hvalid]
      | some state =>
        by_cases hd : block.1 = d
        · simp [Silent, mentions, blockWrites, hvalid, hd, Write.at?, DeviceState.eq_default_iff]
        · simp [Silent, mentions, blockWrites, hvalid, hd, Write.at?]
    rw [List.forall_mem_cons, hone, ih]
    simp only [mentions_cons block blocks, List.append_eq_nil_iff, forall_and]

theorem silent_blocks {event : StateEvent} {d : String}
    (h : ∀ block ∈ event.carried, Silent scalars d block) :
    ∀ block ∈ event.blocks, Silent scalars d block := by
  rw [silent_iff_mentions] at h ⊢
  intro f
  rw [mentions_blocks, h f]

/-- After any events a field holds what the last block that was sent for its device said about it,
and a block that says nothing about a device leaves its entry alone. -/
theorem deviceStates_last_writer (scalars : Scalars) (d : String) :
    (∀ (events : List StateEvent) (f : DeviceField),
      (events.foldl (StateEvent.apply scalars) init).field d f =
        lastValue scalars (events.flatMap StateEvent.carried) d f) ∧
    ∀ (s : DeviceStore) (event : StateEvent),
      (∀ block ∈ event.carried, Silent scalars d block) →
        (event.apply scalars s).deviceStates.get? d = s.deviceStates.get? d := by
  constructor
  · intro events f
    rw [field_run, lastValue_flatMap_blocks]
    exact Option.or_none
  · intro s event h
    exact get?_apply_of_silent (silent_blocks h) s

section Sample

/-- Each writer once: a camera's `properties`, a sensor, a hub's answer with a block that is no
object between two that are, the device list, and the camera again by its `states`. -/
def fourWriters : List StateEvent :=
  [.camera "d/XC/out/cameras/CAM/is"
      (.obj [("properties", .obj [("batteryLevel", .int 80), ("activityState", .str "idle")])]),
    .sensor "d/XC/out/sensors/DOOR/is" (.obj [("properties", .obj [("contactState", .bool true)])]),
    .devicesResponse
      (.obj [("resource", .str "devices"),
        ("devices",
          .obj [("HUB", .obj [("connectionState", .str "available")]), ("BAD", .int 3),
            ("CAM", .obj [("batteryLevel", .int 55), ("signalStrength", .null)])])]),
    .refresh
      (.ok [{ deviceId := "CAM", properties := some [("signalStrength", .int 4)] },
        { deviceId := "DOOR" }]),
    .camera "d/XC/out/cameras/CAM/is"
      (.obj [("properties", .obj []), ("states", .obj [("activityState", .str "recording")])])]

/-- An event that concerns only the hub. -/
def hubOnly : StateEvent :=
  .refresh (.ok [{ deviceId := "HUB", properties := some [("connectionState", .str "available")] }])

theorem deviceStates_last_writer_fourWriters :
    ((fourWriters.foldl (StateEvent.apply plainScalars) init).field "CAM" .batteryLevel =
        some (.int 55) ∧
      (fourWriters.foldl (StateEvent.apply plainScalars) init).field "CAM" .signalStrength =
        some (.int 4) ∧
      (fourWriters.foldl (StateEvent.apply plainScalars) init).field "CAM" .activityState =
        some (.str "recording")) ∧
    ((fourWriters.foldl (StateEvent.apply plainScalars) init).field "DOOR" .contactState =
        some (.bool true) ∧
      (fourWriters.foldl (StateEvent.apply plainScalars) init).field "HUB" .connectionState =
        some (.str "available") ∧
      (fourWriters.foldl (StateEvent.apply plainScalars) init).field "BAD" .batteryLevel = none) ∧
    (hubOnly.apply plainScalars (fourWriters.foldl (StateEvent.apply plainScalars) init)
      ).deviceStates.get? "CAM" =
        (fourWriters.foldl (StateEvent.apply plainScalars) init).deviceStates.get? "CAM" := by
  have hcam := (deviceStates_last_writer plainScalars "CAM").1 fourWriters
  have hdoor := (deviceStates_last_writer plainScalars "DOOR").1 fourWriters
  have hhub := (deviceStates_last_writer plainScalars "HUB").1 fourWriters
  have hbad := (deviceStates_last_writer plainScalars "BAD").1 fourWriters
  refine ⟨⟨?_, ?_, ?_⟩, ⟨?_, ?_, ?_⟩, ?_⟩
  · rw [hcam]
    decide
  · rw [hcam]
    decide
  · rw [hcam]
    decide
  · rw [hdoor]
    decide
  · rw [hhub]
    decide
  · rw [hbad]
    decide
  · apply (deviceStates_last_writer plainScalars "CAM").2
    intro block hblock
    obtain rfl := List.mem_singleton.mp hblock
    exact fun hcam => absurd hcam (by decide)

end Sample

end DeviceStore

end Eisenberg.Coordinator
