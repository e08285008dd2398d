import Eisenberg.Coordinator.LiveState

/-!
# What was reported last

Every frame, every re-read device list and every answer of a base station is a list of reports: a
device and the values it gives to some of its fields. They are read off what was sent, not off what
the handlers take of it; the live state is what the last report said, field by field.
-/

namespace Eisenberg.Coordinator

open Framework Mqtt

/-- What the entities read of a device. -/
inductive LiveField where
  | device (f : DeviceField)
  | connection
  | siren
  | spotlight
  deriving DecidableEq

abbrev Report := Write String LiveField Scalar

namespace Report

def ofState (d : String) (state : DeviceState) : Report where
  key := d
  value := fun field => match field with
    | .device f => state.get f
    | _ => none

def ofConnection (d state : String) : Report where
  key := d
  value := fun field => match field with
    | .connection => some (.str state)
    | _ => none

def ofSiren (d : String) (state : SirenState) : Report where
  key := d
  value := fun field => match field with
    | .siren => some (.bool state.isOn)
    | _ => none

def ofSpotlight (d : String) (state : SpotlightState) : Report where
  key := d
  value := fun field => match field with
    | .spotlight => some (.bool state.enabled)
    | _ => none

end Report

namespace LiveState

/-- The field of the device, `none` while nothing is known of it. -/
def view (c : LiveState) (d : String) : LiveField → Option Scalar
  | .device f => c.store.field d f
  | .connection => (c.store.basestationConnection.get? d).map .str
  | .siren => (c.sirenStates.get? d).map fun state => .bool state.isOn
  | .spotlight => (c.store.spotlightStates.get? d).map fun state => .bool state.enabled

variable (scalars : Scalars)

/-! ## The reports of a frame -/

/-- The spotlight of a property block, if it has one that validates. -/
def spotlightOf (block : Json) : Option SpotlightState :=
  match block.get? "spotlight" with
  | some (.obj fields) => SpotlightState.validate scalars fields
  | _ => none

/-- The spotlight a camera's frame carries, with its camera. -/
def frameSpotlight (topic : String) : Json → Option (String × SpotlightState)
  | .obj fields => do
    let (deviceId, _) ← topicBlock scalars DeviceStore.cameraBlock topic (.obj fields)
    let spotlight ← spotlightOf scalars (DeviceStore.cameraBlock fields)
    return (deviceId, spotlight)
  | _ => none

def frameSiren (topic : String) : Json → Option (String × SirenState)
  | .obj fields => do
    let deviceId ← (splitTopic topic)[4]?
    let state ← SirenState.validate scalars ((Json.lookup "properties" fields).getD (.obj []))
    return (deviceId, state)
  | _ => none

/-- The gateway of a heartbeat, with the connection state it carries. -/
def heartbeat (payload : Json) : Option (String × String) := do
  let gatewayId ← (payload.get? "from").bind Json.str?
  let state ← BasestationState.validate scalars (heartbeatProperties payload)
  let connection ← state.connectionState
  return (gatewayId, connection)

/-- What a valid block reports besides the state of its device: a camera its spotlight, a list the
connection. -/
def extraReport : StateEvent → String → Json → DeviceState → Option Report
  | .camera _ _, d, block, _ => (spotlightOf scalars block).map (Report.ofSpotlight d)
  | .sensor _ _, _, _, _ => none
  | .devicesResponse _, d, _, state | .refresh _, d, _, state =>
    state.connectionState.map (Report.ofConnection d)

/-- A block that does not validate reports nothing. -/
def blockReports (event : StateEvent) (block : String × Json) : List Report :=
  match DeviceState.validate scalars block.2 with
  | none => []
  | some state =>
    Report.ofState block.1 state :: (extraReport scalars event block.1 block.2 state).toList

/-- The reports in the blocks that were sent with the event. -/
def stateReports (event : StateEvent) : List Report :=
  event.carried.flatMap (blockReports scalars event)

def reports (topic : String) (payload : Json) : Handler → List Report
  | .cameraState => stateReports scalars (.camera topic payload)
  | .sensorState => stateReports scalars (.sensor topic payload)
  | .siren =>
    ((frameSiren scalars topic payload).map fun (d, state) => Report.ofSiren d state).toList
  | .basestation =>
    ((heartbeat scalars payload).map fun (d, state) => Report.ofConnection d state).toList
  | .subscriptionAck =>
    (((payload.get? "from").bind Json.str?).map fun d =>
      Report.ofConnection d "available").toList
  | .devicesResponse => stateReports scalars (.devicesResponse payload)
  | _ => []

/-- The reports of the handlers that a topic has. -/
def frameReports (topic : String) (payload : Json) : List Report :=
  (eventRouter.matching topic).flatMap (reports scalars topic payload)

/-! ## The view after a report -/

section View

variable {scalars} {c : LiveState}

theorem view_setConnection (d state : String) :
    (c.setConnection d state).view = Write.apply c.view (Report.ofConnection d state) := by
  funext k field
  by_cases hk : d = k
  · subst hk
    cases field <;> simp [view, setConnection, DeviceStore.field, Write.apply, Write.at?,
      Report.ofConnection]
  · have hne : k ≠ d := fun h => hk h.symm
    cases field <;> simp [view, setConnection, DeviceStore.field, Write.apply, Write.at?,
      Report.ofConnection, hk, Dict.get?_set_of_ne _ hne]

theorem view_mergeDeviceState (d : String) (state : DeviceState) :
    ({ c with store := c.store.mergeDeviceState d state } : LiveState).view =
      Write.apply c.view (Report.ofState d state) := by
  funext k field
  have hfield := congrFun (congrFun (DeviceStore.field_mergeDeviceState c.store d state) k)
  by_cases hk : d = k
  · cases field with
    | device f => simpa [view, Write.apply, Write.at?, Report.ofState, hk] using hfield f
    | _ =>
      unfold DeviceStore.mergeDeviceState
      split_ifs <;> simp [view, Write.apply, Write.at?, Report.ofState, hk]
  · cases field with
    | device f => simpa [view, Write.apply, Write.at?, Report.ofState, hk] using hfield f
    | _ =>
      unfold DeviceStore.mergeDeviceState
      split_ifs <;> simp [view, Write.apply, Write.at?, Report.ofState, hk]

theorem recordSpotlight_eq (s : DeviceStore) (d : String) (block : Json) :
    s.recordSpotlight scalars d block =
      match spotlightOf scalars block with
      | some state => { s with spotlightStates := s.spotlightStates.set d state }
      | none => s := by
  unfold DeviceStore.recordSpotlight spotlightOf
  cases block.get? "spotlight" with
  | none => rfl
  | some raw =>
    cases raw with
    | obj fields =>
      cases hvalid : SpotlightState.validate scalars fields <;> simp only [hvalid]
    | _ => rfl

theorem view_recordSpotlight (d : String) (block : Json) :
    ({ c with store := c.store.recordSpotlight scalars d block } : LiveState).view =
      (((spotlightOf scalars block).map (Report.ofSpotlight d)).toList).foldl Write.apply
        c.view := by
  rw [recordSpotlight_eq]
  cases spotlightOf scalars block with
  | none => rfl
  | some state =>
    funext k field
    by_cases hk : d = k
    · subst hk
      cases field <;> simp [view, DeviceStore.field, Write.apply, Write.at?, Report.ofSpotlight]
    · have hne : k ≠ d := fun h => hk h.symm
      cases field <;> simp [view, DeviceStore.field, Write.apply, Write.at?, Report.ofSpotlight,
        hk, Dict.get?_set_of_ne _ hne]

theorem view_setSiren (d : String) (state : SirenState) :
    ({ c with sirenStates := c.sirenStates.set d state } : LiveState).view =
      Write.apply c.view (Report.ofSiren d state) := by
  funext k field
  by_cases hk : d = k
  · subst hk
    cases field <;> simp [view, Write.apply, Write.at?, Report.ofSiren]
  · have hne : k ≠ d := fun h => hk h.symm
    cases field <;> simp [view, Write.apply, Write.at?, Report.ofSiren, hk,
      Dict.get?_set_of_ne _ hne]

@[simp] theorem view_client (client : CoordinatorState) :
    ({ c with client } : LiveState).view = c.view := by
  funext d field
  cases field <;> rfl

/-! ### The blocks -/

theorem foldl_blockReports_of_not_speaks (event : StateEvent) {block : String × Json}
    (h : speaks block = false) (view : String → LiveField → Option Scalar) :
    (blockReports scalars event block).foldl Write.apply view = view := by
  obtain ⟨d, value⟩ := block
  cases hvalid : DeviceState.validate scalars value with
  | none => simp [blockReports, hvalid]
  | some state =>
    have hstate := empty_of_not_speaks h hvalid
    subst hstate
    have hextra : extraReport scalars event d value {} = none := by
      cases event with
      | camera topic payload =>
        have hnone : spotlightOf scalars value = none := by
          cases value with
          | obj fields =>
            cases fields with
            | nil => rfl
            | cons field fields => cases h
          | _ => rfl
        simp [extraReport, hnone]
      | _ => rfl
    have hempty : Write.apply view (Report.ofState d {}) = view := by
      funext k field
      apply Write.apply_of_none
      cases field with
      | device f => cases f <;> rfl
      | _ => rfl
    simp only [blockReports, hvalid, hextra, Option.toList_none, List.foldl_cons, hempty,
      List.foldl_nil]

theorem foldl_filter_speaks (event : StateEvent) (blocks : List (String × Json))
    (view : String → LiveField → Option Scalar) :
    ((blocks.filter speaks).flatMap (blockReports scalars event)).foldl Write.apply view =
      (blocks.flatMap (blockReports scalars event)).foldl Write.apply view := by
  induction blocks generalizing view with
  | nil => rfl
  | cons block blocks ih =>
    rw [List.flatMap_cons, List.foldl_append, ← ih]
    cases hspeaks : speaks block with
    | true => rw [List.filter_cons_of_pos hspeaks, List.flatMap_cons, List.foldl_append]
    | false =>
      rw [List.filter_cons_of_neg (by simp [hspeaks]),
        foldl_blockReports_of_not_speaks event hspeaks]

/-- The blocks that the handlers take report what those that were sent do. -/
theorem foldl_stateReports (event : StateEvent) (view : String → LiveField → Option Scalar) :
    (stateReports scalars event).foldl Write.apply view =
      (event.blocks.flatMap (blockReports scalars event)).foldl Write.apply view := by
  rw [← foldl_filter_speaks, DeviceStore.filter_speaks_blocks, foldl_filter_speaks, stateReports]

theorem view_applyBlock {event : StateEvent} (hevent : ∀ d block state,
      extraReport scalars event d block state = state.connectionState.map (Report.ofConnection d))
    (block : String × Json) :
    ({ c with store := c.store.applyBlock scalars block.1 block.2 } : LiveState).view =
      (blockReports scalars event block).foldl Write.apply c.view := by
  cases hvalid : DeviceState.validate scalars block.2 with
  | none => simp [DeviceStore.applyBlock, blockReports, hvalid]
  | some state =>
    simp only [DeviceStore.applyBlock, blockReports, hvalid, hevent, List.foldl_cons,
      ← view_mergeDeviceState]
    cases hconnection : state.connectionState with
    | none => simp [DeviceStore.recordConnection, hconnection]
    | some connection =>
      simp only [DeviceStore.recordConnection, hconnection, Option.map_some, Option.toList_some,
        List.foldl_cons, List.foldl_nil]
      exact view_setConnection (c := { c with store := c.store.mergeDeviceState block.1 state })
        block.1 connection

theorem view_foldl_applyBlock {event : StateEvent} (hevent : ∀ d block state,
      extraReport scalars event d block state = state.connectionState.map (Report.ofConnection d))
    (blocks : List (String × Json)) (c : LiveState) :
    ({ c with store := blocks.foldl (fun s entry => s.applyBlock scalars entry.1 entry.2) c.store } :
        LiveState).view =
      (blocks.flatMap (blockReports scalars event)).foldl Write.apply c.view := by
  induction blocks generalizing c with
  | nil => rfl
  | cons block blocks ih =>
    rw [List.flatMap_cons, List.foldl_append, ← view_applyBlock hevent]
    exact ih { c with store := c.store.applyBlock scalars block.1 block.2 }

/-! ### The handlers -/

theorem view_handleCameraState (topic : String) (payload : Json) :
    (c.handleCameraState scalars topic payload).1.view =
      (reports scalars topic payload .cameraState).foldl Write.apply c.view := by
  rw [reports, foldl_stateReports]
  cases payload with
  | obj fields =>
    cases hd : (splitTopic topic)[4]? with
    | none => simp [handleCameraState, DeviceStore.handleCameraState, StateEvent.blocks, hd]
    | some d =>
      simp only [handleCameraState, DeviceStore.handleCameraState, StateEvent.blocks, hd,
        Option.map_some, Option.toList_some, List.flatMap_singleton, blockReports]
      cases hvalid : DeviceState.validate scalars (DeviceStore.cameraBlock fields) with
      | none => rfl
      | some state =>
        rw [List.foldl_cons, ← view_mergeDeviceState]
        exact view_recordSpotlight (c := { c with store := c.store.mergeDeviceState d state }) d _
  | _ => cases hd : (splitTopic topic)[4]? <;>
      simp [handleCameraState, DeviceStore.handleCameraState, StateEvent.blocks, hd]

theorem view_handleSensorState (topic : String) (payload : Json) :
    (c.handleSensorState scalars topic payload).1.view =
      (reports scalars topic payload .sensorState).foldl Write.apply c.view := by
  rw [reports, foldl_stateReports]
  cases payload with
  | obj fields =>
    cases hd : (splitTopic topic)[4]? with
    | none => simp [handleSensorState, DeviceStore.handleSensorState, StateEvent.blocks, hd]
    | some d =>
      simp only [handleSensorState, DeviceStore.handleSensorState, StateEvent.blocks, hd,
        Option.map_some, Option.toList_some, List.flatMap_singleton, blockReports]
      cases hvalid : DeviceState.validate scalars (DeviceStore.sensorBlock fields) with
      | none => rfl
      | some state => exact view_mergeDeviceState d state
  | _ => cases hd : (splitTopic topic)[4]? <;>
      simp [handleSensorState, DeviceStore.handleSensorState, StateEvent.blocks, hd]

theorem view_handleSiren (topic : String) (payload : Json) :
    (c.handleSiren scalars topic payload).1.view =
      (reports scalars topic payload .siren).foldl Write.apply c.view := by
  cases hd : (splitTopic topic)[4]? with
  | none => cases payload <;> simp [handleSiren, reports, frameSiren, hd]
  | some d =>
    cases payload with
    | obj fields =>
      cases hvalid : SirenState.validate scalars
          ((Json.lookup "properties" fields).getD (.obj [])) with
      | none => simp [handleSiren, reports, frameSiren, hd, hvalid]
      | some state => simp [handleSiren, reports, frameSiren, hd, hvalid, view_setSiren]
    | _ => simp [handleSiren, reports, frameSiren, hd]

theorem view_handleBasestation (topic : String) (payload : Json) :
    (c.handleBasestation scalars payload).1.view =
      (reports scalars topic payload .basestation).foldl Write.apply c.view := by
  unfold handleBasestation
  split
  next hfrom => simp [reports, heartbeat, hfrom]
  next gatewayId hfrom =>
    split
    next hvalid => simp [reports, heartbeat, hfrom, hvalid]
    next state hvalid =>
      split
      next hnone => simp [reports, heartbeat, hfrom, hvalid, hnone]
      next connection hconnection =>
        simp [reports, heartbeat, hfrom, hvalid, hconnection, view_setConnection]

theorem view_handleSubscriptionAck (topic : String) (payload : Json) :
    (c.handleSubscriptionAck payload).1.view =
      (reports scalars topic payload .subscriptionAck).foldl Write.apply c.view := by
  unfold handleSubscriptionAck
  split
  next hfrom => simp [reports, hfrom]
  next baseId hfrom =>
    simp only [reports, hfrom, Option.map_some, Option.toList_some, List.foldl_cons,
      List.foldl_nil, ← view_setConnection]
    split
    next hknown => rw [setConnection, Dict.set_get? hknown]
    next => rfl

theorem view_handleDevicesResponse (topic : String) (payload : Json) :
    (c.handleDevicesResponse scalars payload).1.view =
      (reports scalars topic payload .devicesResponse).foldl Write.apply c.view := by
  rw [reports, foldl_stateReports]
  cases payload with
  | obj fields =>
    exact view_foldl_applyBlock (fun _ _ _ => rfl) (DeviceStore.responseBlocks fields) c
  | _ => rfl

theorem view_handle (topic : String) (payload : Json) (through : Bool) (handler : Handler) :
    (c.handle scalars topic payload through handler).1.view =
      (reports scalars topic payload handler).foldl Write.apply c.view := by
  cases handler with
  | cameraState => exact view_handleCameraState topic payload
  | sensorState => exact view_handleSensorState topic payload
  | siren => exact view_handleSiren topic payload
  | basestation => exact view_handleBasestation topic payload
  | subscriptionAck => exact view_handleSubscriptionAck topic payload
  | devicesResponse => exact view_handleDevicesResponse topic payload
  | activeMode | feed | deviceStates | customModes => exact view_client _
  | _ => rfl

theorem view_dispatch (topic : String) (payload : Json) (through : Bool) :
    (c.dispatch scalars topic payload through).1.view =
      (frameReports scalars topic payload).foldl Write.apply c.view := by
  rcases dispatch_cases scalars topic payload through c with
    ⟨hmatching, hnone⟩ | ⟨handler, hmatching, hone⟩
  · rw [hnone, frameReports, hmatching]
    rfl
  · rw [hone, frameReports, hmatching, List.flatMap_singleton, view_handle]

theorem view_refreshDeviceProperties (reply : Except Exc (List DeviceInfo)) :
    (c.refreshDeviceProperties scalars reply).1.view =
      (stateReports scalars (.refresh reply)).foldl Write.apply c.view := by
  rw [foldl_stateReports]
  cases reply with
  | error err => rfl
  | ok devices =>
    exact view_foldl_applyBlock (fun _ _ _ => rfl) (DeviceStore.propertyBlocks devices) c

end View

end LiveState

end Eisenberg.Coordinator
