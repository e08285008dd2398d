import Eisenberg.Coordinator.ArchiveFailures
import Eisenberg.Coordinator.DeviceStates
import Eisenberg.Coordinator.EventRouting
import Eisenberg.Coordinator.ModeOptions

/-!
# Live state

The maps the entities read, and the handlers that write them. A handler that changes one of them
pushes to the entities in the same turn of the event loop; only the bring-up of the base stations
keeps a change to itself until it is through. The handlers of media change none of the maps, and
push when their downloads and file jobs have come to an end.
-/

namespace Eisenberg.Coordinator

open Framework Mqtt

structure LiveState where
  store : DeviceStore := .init
  sirenStates : Dict String SirenState := Dict.empty
  client : CoordinatorState := {}

namespace LiveState

variable (scalars : Scalars)

/-- `basestation_connection[gateway_id] = state`. -/
def setConnection (c : LiveState) (gatewayId state : String) : LiveState :=
  { c with store := { c.store with
      basestationConnection := c.store.basestationConnection.set gatewayId state } }

/-! ## The handlers

Each gives the state it leaves, and whether it has pushed. -/

/-- The block for the device that the topic names, if it validates. -/
def topicBlock (block : List (String × Json) → Json) (topic : String) :
    Json → Option (String × DeviceState)
  | .obj fields => do
    let deviceId ← (splitTopic topic)[4]?
    let state ← DeviceState.validate scalars (block fields)
    return (deviceId, state)
  | _ => none

def handleCameraState (topic : String) (payload : Json) (c : LiveState) : LiveState × Bool :=
  ({ c with store := (c.store.handleCameraState scalars topic payload).1 },
    (topicBlock scalars DeviceStore.cameraBlock topic payload).isSome)

def handleSensorState (topic : String) (payload : Json) (c : LiveState) : LiveState × Bool :=
  ({ c with store := (c.store.handleSensorState scalars topic payload).1 },
    (topicBlock scalars DeviceStore.sensorBlock topic payload).isSome)

/-- Handle siren state updates. -/
def handleSiren (topic : String) (payload : Json) (c : LiveState) : LiveState × Bool :=
  match (splitTopic topic)[4]?, payload with
  | some deviceId, .obj fields =>
    match SirenState.validate scalars ((Json.lookup "properties" fields).getD (.obj [])) with
    | some state => ({ c with sirenStates := c.sirenStates.set deviceId state }, true)
    | none => (c, false)
  | _, _ => (c, false)

/-- `payload.get("properties") or {}`. -/
def heartbeatProperties (payload : Json) : Json :=
  let properties := (payload.get? "properties").getD .null
  if properties.truthy then properties else .obj []

/-- Handle base station heartbeat / state. -/
def handleBasestation (payload : Json) (c : LiveState) : LiveState × Bool :=
  match (payload.get? "from").bind Json.str? with
  | none => (c, false)
  | some gatewayId =>
    match BasestationState.validate scalars (heartbeatProperties payload) with
    | none => (c, false)
    | some state =>
      match state.connectionState with
      | none => (c, false)
      | some connection => (c.setConnection gatewayId connection, true)

/-- A base station confirming it will publish events to this session. -/
def handleSubscriptionAck (payload : Json) (c : LiveState) : LiveState × Bool :=
  match (payload.get? "from").bind Json.str? with
  | none => (c, false)
  | some baseId =>
    if c.store.basestationConnection.get? baseId = some "available" then (c, false)
    else (c.setConnection baseId "available", true)

/-- `updated` counts the blocks that validate, the empty ones too. -/
def handleDevicesResponse (payload : Json) (c : LiveState) : LiveState × Bool :=
  ({ c with store := (c.store.handleDevicesResponse scalars payload).1 },
    match payload with
    | .obj fields =>
      (DeviceStore.responseBlocks fields).any fun block =>
        (DeviceState.validate scalars block.2).isSome
    | _ => false)

def handleActiveMode (payload : Json) (c : LiveState) : LiveState × Bool :=
  ({ c with client := Coordinator.handleActiveMode scalars payload c.client },
    (ActiveMode.validate scalars ((payload.get? "properties").getD (.obj []))).isSome)

/-- A motion event reaches none of these maps; it is pushed if `through`, when its media are
archived. -/
def handleFeed (payload : Json) (through : Bool) (c : LiveState) : LiveState × Bool :=
  ({ c with client := Coordinator.handleFeed scalars payload c.client },
    match payload.get? "type" with
    | some (.str "motion") => through && (MotionEvent.validate scalars payload).isSome
    | some (.str "modeChange") => (ModeChangeEvent.validate scalars payload).isSome
    | _ => false)

/-- `_handle_snapshot` and `_handle_last_image_snapshot`, which end with `_store_snapshot`. -/
def handleSnapshot (kind : SnapshotKind) (topic : String) (payload : Json) (through : Bool)
    (c : LiveState) : LiveState × Bool :=
  (c, through && (splitTopic topic)[4]?.isSome &&
    (kind.validate scalars ((payload.get? "properties").getD (.obj []))).isSome)

def handleDeviceStates (topic : String) (payload : Json) (c : LiveState) : LiveState × Bool :=
  ({ c with client := Coordinator.handleDeviceStates topic payload c.client },
    (broadcastMode payload).isSome)

def handleCustomModes (payload : Json) (c : LiveState) : LiveState × Bool :=
  ({ c with client := Coordinator.handleCustomModes scalars payload c.client },
    (((payload.get? "locationId").bind Json.str?).bind c.client.locations.get?).isSome &&
      (customModesOf scalars payload).isSome)

/-- What a handler does to these maps. A handler that awaits media comes to its push only if these
let it `through`: the archive's directory may be refused. -/
def handle (topic : String) (payload : Json) (through : Bool) (c : LiveState) :
    Handler → LiveState × Bool
  | .cameraState => c.handleCameraState scalars topic payload
  | .sensorState => c.handleSensorState scalars topic payload
  | .siren => c.handleSiren scalars topic payload
  | .basestation => c.handleBasestation scalars payload
  | .subscriptionAck => c.handleSubscriptionAck payload
  | .devicesResponse => c.handleDevicesResponse scalars payload
  | .activeMode => c.handleActiveMode scalars payload
  | .feed => c.handleFeed scalars payload through
  | .deviceStates => c.handleDeviceStates topic payload
  | .customModes => c.handleCustomModes scalars payload
  | .snapshot => c.handleSnapshot scalars .fullFrame topic payload through
  | .lastImageSnapshot => c.handleSnapshot scalars .lastImage topic payload through
  | .mediaUpload | .connectivity | .geofences | .exceptionSensors => (c, false)

/-- The handlers of the topic, one after the other. -/
def dispatch (topic : String) (payload : Json) (through : Bool) (c : LiveState) :
    LiveState × Bool :=
  (eventRouter.matching topic).foldl (fun (c, pushed) handler =>
    let (c, pushed') := c.handle scalars topic payload through handler
    (c, pushed || pushed')) (c, false)

/-- `_refresh_device_properties` once `get_devices` has answered: it pushes if a merge changed
anything. -/
def refreshDeviceProperties (reply : Except Exc (List DeviceInfo)) (c : LiveState) :
    LiveState × Bool :=
  ({ c with store := c.store.refreshDeviceProperties scalars reply },
    match reply with
    | .error _ => false
    | .ok devices =>
      (DeviceStore.propertyBlocks devices).any fun block =>
        match DeviceState.validate scalars block.2 with
        | some state => state ≠ {}
        | none => false)

/-- The end of `async_set_active_mode`: the accepted mode is recorded and pushed. -/
def recordMode (locationId mode : String) (custom : Option (Dict String String))
    (result : ActiveModeState) (c : LiveState) : LiveState × Bool :=
  ({ c with client := updateLocations (recordResult locationId mode custom result) c.client },
    true)

/-- The refetch of `async_set_active_mode` moves the revision, which no entity shows. -/
def recordRevision (locationId : String) (revision : Int) (c : LiveState) : LiveState :=
  { c with client :=
      updateLocations (·.setRevision locationId (revisionOrOne revision)) c.client }

/-! ## Nothing changes without a push -/

section Quiet

variable {scalars : Scalars}

theorem handleCameraState_quiet {topic : String} {payload : Json} {c : LiveState}
    (h : (c.handleCameraState scalars topic payload).2 = false) :
    (c.handleCameraState scalars topic payload).1 = c := by
  have hstore : (c.store.handleCameraState scalars topic payload).1 = c.store := by
    unfold DeviceStore.handleCameraState
    cases hd : (splitTopic topic)[4]? with
    | none => rfl
    | some deviceId =>
      cases payload with
      | obj fields =>
        cases hvalid : DeviceState.validate scalars (DeviceStore.cameraBlock fields) with
        | none => simp only [hvalid]
        | some state => simp [handleCameraState, topicBlock, hd, hvalid] at h
      | _ => rfl
  rw [handleCameraState, hstore]

theorem handleSensorState_quiet {topic : String} {payload : Json} {c : LiveState}
    (h : (c.handleSensorState scalars topic payload).2 = false) :
    (c.handleSensorState scalars topic payload).1 = c := by
  have hstore : (c.store.handleSensorState scalars topic payload).1 = c.store := by
    unfold DeviceStore.handleSensorState
    cases hd : (splitTopic topic)[4]? with
    | none => rfl
    | some deviceId =>
      cases payload with
      | obj fields =>
        cases hvalid : DeviceState.validate scalars (DeviceStore.sensorBlock fields) with
        | none => simp only [hvalid]
        | some state => simp [handleSensorState, topicBlock, hd, hvalid] at h
      | _ => rfl
  rw [handleSensorState, hstore]

theorem handleSiren_quiet {topic : String} {payload : Json} {c : LiveState}
    (h : (c.handleSiren scalars topic payload).2 = false) :
    (c.handleSiren scalars topic payload).1 = c := by
  unfold handleSiren at h ⊢
  split at h
  · split at h
    · cases h
    · rfl
  · rfl

theorem handleBasestation_quiet {payload : Json} {c : LiveState}
    (h : (c.handleBasestation scalars payload).2 = false) :
    (c.handleBasestation scalars payload).1 = c := by
  unfold handleBasestation at h ⊢
  split at h
  · rfl
  · split at h
    · rfl
    · split at h
      · rfl
      · cases h

theorem handleSubscriptionAck_quiet {payload : Json} {c : LiveState}
    (h : (c.handleSubscriptionAck payload).2 = false) :
    (c.handleSubscriptionAck payload).1 = c := by
  unfold handleSubscriptionAck at h ⊢
  split at h
  · rfl
  · split_ifs at h ⊢
    rfl

theorem foldl_applyBlock_quiet {s : DeviceStore} {blocks : List (String × Json)}
    (h : ∀ block ∈ blocks, s.applyBlock scalars block.1 block.2 = s) :
    blocks.foldl (fun s entry => s.applyBlock scalars entry.1 entry.2) s = s := by
  induction blocks with
  | nil => rfl
  | cons block blocks ih =>
    rw [List.foldl_cons, h block List.mem_cons_self]
    exact ih fun other hother => h other (List.mem_cons_of_mem _ hother)

theorem handleDevicesResponse_quiet {payload : Json} {c : LiveState}
    (h : (c.handleDevicesResponse scalars payload).2 = false) :
    (c.handleDevicesResponse scalars payload).1 = c := by
  have hstore : (c.store.handleDevicesResponse scalars payload).1 = c.store := by
    cases payload with
    | obj fields =>
      apply foldl_applyBlock_quiet
      intro block hblock
      have hinvalid := List.any_eq_false.mp h block hblock
      simp only [Option.isSome_iff_ne_none, ne_eq, not_not] at hinvalid
      rw [DeviceStore.applyBlock, hinvalid]
    | _ => rfl
  show ({ c with store := (c.store.handleDevicesResponse scalars payload).1 } : LiveState) = c
  rw [hstore]

/-- A refresh that merges nothing meets no connection state either. -/
theorem refreshDeviceProperties_quiet {reply : Except Exc (List DeviceInfo)} {c : LiveState}
    (h : (c.refreshDeviceProperties scalars reply).2 = false) :
    (c.refreshDeviceProperties scalars reply).1 = c := by
  have hstore : c.store.refreshDeviceProperties scalars reply = c.store := by
    cases reply with
    | error err => rfl
    | ok devices =>
      apply foldl_applyBlock_quiet
      intro block hblock
      have hempty := List.any_eq_false.mp h block hblock
      cases hvalid : DeviceState.validate scalars block.2 with
      | none => rw [DeviceStore.applyBlock, hvalid]
      | some state =>
        simp only [hvalid, decide_eq_true_eq, ne_eq, not_not] at hempty
        subst hempty
        rw [DeviceStore.applyBlock, hvalid]
        rfl
  show ({ c with store := c.store.refreshDeviceProperties scalars reply } : LiveState) = c
  rw [hstore]

theorem handleActiveMode_quiet {payload : Json} {c : LiveState}
    (h : (c.handleActiveMode scalars payload).2 = false) :
    (c.handleActiveMode scalars payload).1 = c := by
  have hclient : Coordinator.handleActiveMode scalars payload c.client = c.client := by
    have hnone : ActiveMode.validate scalars ((payload.get? "properties").getD (.obj [])) = none := by
      simpa [handleActiveMode] using h
    rw [Coordinator.handleActiveMode, hnone]
  rw [handleActiveMode, hclient]

theorem handleFeed_quiet {payload : Json} {through : Bool} {c : LiveState}
    (h : (c.handleFeed scalars payload through).2 = false) :
    (c.handleFeed scalars payload through).1 = c := by
  have hclient : Coordinator.handleFeed scalars payload c.client = c.client := by
    unfold Coordinator.handleFeed
    split
    next htype =>
      have hnone : ModeChangeEvent.validate scalars payload = none := by
        simpa [handleFeed, htype] using h
      rw [hnone]
    next => rfl
  show ({ c with client := Coordinator.handleFeed scalars payload c.client } : LiveState) = c
  rw [hclient]

theorem handleDeviceStates_quiet {topic : String} {payload : Json} {c : LiveState}
    (h : (c.handleDeviceStates topic payload).2 = false) :
    (c.handleDeviceStates topic payload).1 = c := by
  have hclient : Coordinator.handleDeviceStates topic payload c.client = c.client := by
    have hnone : broadcastMode payload = none := by
      simpa [handleDeviceStates] using h
    rw [Coordinator.handleDeviceStates, hnone]
  rw [handleDeviceStates, hclient]

theorem handleCustomModes_quiet {payload : Json} {c : LiveState}
    (h : (c.handleCustomModes scalars payload).2 = false) :
    (c.handleCustomModes scalars payload).1 = c := by
  have hclient : Coordinator.handleCustomModes scalars payload c.client = c.client := by
    unfold Coordinator.handleCustomModes
    split
    next locationId hid =>
      split
      next location hlocation =>
        have hnone : customModesOf scalars payload = none := by
          simpa [handleCustomModes, hid, hlocation] using h
        rw [hnone]
      next => rfl
    next => rfl
  rw [handleCustomModes, hclient]

theorem handle_quiet {topic : String} {payload : Json} {through : Bool} {c : LiveState}
    {handler : Handler} (h : (c.handle scalars topic payload through handler).2 = false) :
    (c.handle scalars topic payload through handler).1 = c := by
  cases handler with
  | cameraState => exact handleCameraState_quiet h
  | sensorState => exact handleSensorState_quiet h
  | siren => exact handleSiren_quiet h
  | basestation => exact handleBasestation_quiet h
  | subscriptionAck => exact handleSubscriptionAck_quiet h
  | devicesResponse => exact handleDevicesResponse_quiet h
  | activeMode => exact handleActiveMode_quiet h
  | feed => exact handleFeed_quiet h
  | deviceStates => exact handleDeviceStates_quiet h
  | customModes => exact handleCustomModes_quiet h
  | _ => rfl

theorem length_matching_le (topic : String) : (eventRouter.matching topic).length ≤ 1 := by
  have hsame : (eventRouter.routes.filter fun route => matchesLevels route.1 (splitTopic topic)) =
      eventRouter.routes.filter fun route => levelsMatch route.1 (splitTopic topic) :=
    List.filter_congr fun route hroute => matchesLevels_eq (hashLast_eventRouter hroute) _
  rw [TopicRouter.matching, List.length_map, hsame]
  exact length_filter_apart eventRouter_apart _

/-- A topic has one handler at most. -/
theorem matching_cases (topic : String) :
    eventRouter.matching topic = [] ∨ ∃ handler, eventRouter.matching topic = [handler] := by
  have hone := length_matching_le topic
  match hmatching : eventRouter.matching topic with
  | [] => exact Or.inl rfl
  | [handler] => exact Or.inr ⟨handler, rfl⟩
  | _ :: _ :: _ =>
    rw [hmatching] at hone
    simp at hone

theorem dispatch_nil {topic : String} (h : eventRouter.matching topic = []) (payload : Json)
    (through : Bool) (c : LiveState) :
    c.dispatch scalars topic payload through = (c, false) := by
  rw [dispatch, h]
  rfl

theorem dispatch_singleton {topic : String} {handler : Handler}
    (h : eventRouter.matching topic = [handler]) (payload : Json) (through : Bool)
    (c : LiveState) : c.dispatch scalars topic payload through =
      c.handle scalars topic payload through handler := by
  rw [dispatch, h]
  simp

theorem dispatch_cases (scalars : Scalars) (topic : String) (payload : Json) (through : Bool)
    (c : LiveState) :
    eventRouter.matching topic = [] ∧ c.dispatch scalars topic payload through = (c, false) ∨
      ∃ handler, eventRouter.matching topic = [handler] ∧
        c.dispatch scalars topic payload through =
          c.handle scalars topic payload through handler := by
  rcases matching_cases topic with hnil | ⟨handler, hone⟩
  · exact Or.inl ⟨hnil, dispatch_nil hnil payload through c⟩
  · exact Or.inr ⟨handler, hone, dispatch_singleton hone payload through c⟩

theorem dispatch_quiet {topic : String} {payload : Json} {through : Bool} {c : LiveState}
    (h : (c.dispatch scalars topic payload through).2 = false) :
    (c.dispatch scalars topic payload through).1 = c := by
  rcases dispatch_cases scalars topic payload through c with ⟨-, hnone⟩ | ⟨handler, -, hone⟩
  · rw [hnone]
  · rw [hone] at h ⊢
    exact handle_quiet h

end Quiet

end LiveState

end Eisenberg.Coordinator
