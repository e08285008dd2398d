import Eisenberg.Client.Discovery

/-!
# Where commands go

Each of the five commands for one device is one request, addressed to the device's gateway and sent
with the device's own xCloudId; for an id the client never saw no request is made.
-/

namespace Eisenberg.Client

open Framework

/-! ## One request -/

section Requests

variable {α β : Type} (env : ClientEnv)

/-- The method makes this request and no other, unless aiohttp refuses one of its headers. -/
def Requests (c : Async α) (s : ClientState) (r : HttpRequest) : Prop :=
  match r.headers.findSome? fun header => env.headerFault header.2 with
  | some fault => c.advance s = (s, .done (.error (.builtin fault "")))
  | none => ∃ k, c.advance s = (s, .waiting r k) ∧
      ∀ answer, ∃ result, k answer = Co.ret result

/-- The method raises before it makes a request. -/
def Refuses (c : Async α) (s : ClientState) (err : Exc) : Prop :=
  c.advance s = (s, .done (.error err))

variable {env} {s : ClientState} {r : HttpRequest}

theorem requests_get_bind {f : ClientState → Async α} (h : Requests env (f s) s r) :
    Requests env ((get : Async ClientState) >>= f) s r := h

theorem requests_ret_bind {x : Except Exc α} {f : α → Async β} {a : α} (hx : x = .ok a)
    (h : Requests env (f a) s r) : Requests env (Co.ret x >>= f) s r := by
  rw [hx]
  exact h

theorem refuses_get_bind {f : ClientState → Async α} {err : Exc} (h : Refuses (f s) s err) :
    Refuses ((get : Async ClientState) >>= f) s err := h

theorem refuses_ret_bind {x : Except Exc α} {f : α → Async β} {a : α} {err : Exc}
    (hx : x = .ok a) (h : Refuses (f a) s err) : Refuses (Co.ret x >>= f) s err := by
  rw [hx]
  exact h

theorem refuses_ret_error {x : Except Exc α} {f : α → Async β} {err : Exc} (hx : x = .error err) :
    Refuses (Co.ret x >>= f) s err := by
  rw [hx]
  rfl

theorem advance_bind_error {c : Async α} (f : α → Async β) {t : ClientState} {err : Exc}
    (h : c.advance s = (t, .done (.error err))) :
    (c >>= f).advance s = (t, .done (.error err)) := by
  rw [Co.bind_def]
  induction c generalizing s with
  | ret result =>
    cases h
    rfl
  | get k ih => exact ih s h
  | set u k ih => exact ih h
  | call i k ih => cases h

theorem requests_exchange (r : HttpRequest) (read : HttpReply × Json → Except Exc α) :
    Requests env (exchange env r >>= fun a => Co.ret (read a)) s r := by
  rw [Requests]
  unfold exchange
  cases hfault : r.headers.findSome? fun header => env.headerFault header.2 with
  | some fault => rfl
  | none =>
    refine ⟨_, rfl, fun answer => ?_⟩
    cases answer with
    | error err => exact ⟨_, rfl⟩
    | ok reply =>
      cases hbody : readArloJson r reply with
      | error err => exact ⟨.error err, by simp [Co.bind, bind, hbody]⟩
      | ok body => exact ⟨read (reply, body), by simp [Co.bind, bind, hbody, pure]⟩

theorem Requests.discard {c : Async α} (h : Requests env c s r) : Requests env (discard c) s r := by
  rw [Requests] at h ⊢
  cases hfault : r.headers.findSome? fun header => env.headerFault header.2 with
  | some fault =>
    rw [hfault] at h
    exact advance_bind_error _ h
  | none =>
    rw [hfault] at h
    obtain ⟨k, hwaiting, hlast⟩ := h
    refine ⟨_, Co.advance_bind_waiting hwaiting, fun answer => ?_⟩
    obtain ⟨result, hresult⟩ := hlast answer
    cases result with
    | ok a => exact ⟨.ok (), by rw [hresult]; rfl⟩
    | error err => exact ⟨.error err, by rw [hresult]; rfl⟩

theorem Refuses.discard {c : Async α} {err : Exc} (h : Refuses c s err) :
    Refuses (discard c) s err := advance_bind_error _ h

end Requests

/-! ## The five commands -/

inductive DeviceCommand where
  | requestSnapshot
  | startStream
  | setSpotlight (on : Bool) (intensity : Option Int)
  | setPrivacy (active : Bool)
  | setSiren (on : Bool)
  deriving DecidableEq, Repr

namespace DeviceCommand

def method (deviceId : String) : DeviceCommand → Method
  | requestSnapshot => .requestSnapshot deviceId
  | startStream => .startStream deviceId
  | setSpotlight on intensity => .setSpotlight deviceId on intensity
  | setPrivacy active => .setPrivacy deviceId active
  | setSiren on => .setSiren deviceId on

/-- The notify URL names the gateway, the other two endpoints are fixed. -/
def path (target : String) : DeviceCommand → String
  | requestSnapshot => "/hmsweb/users/devices/fullFrameSnapshot"
  | startStream => "/hmsweb/users/devices/startStream"
  | _ => "/hmsweb/users/devices/notify/" ++ target

/-- The resource of the payload names the device. -/
def resource (deviceId : String) : DeviceCommand → String
  | setSiren _ => "siren/" ++ deviceId
  | _ => "cameras/" ++ deviceId

end DeviceCommand

/-- The request goes to the gateway of the device, in the name of its own base station. -/
structure Addressed (command : DeviceCommand) (d : DeviceInfo) (r : HttpRequest) : Prop where
  path : r.path = command.path d.gateway
  payload : ∃ fields, r.json = some (.obj fields) ∧
    Json.lookup "to" fields = some (.str d.gateway) ∧
    Json.lookup "resource" fields = some (.str (command.resource d.deviceId))
  xCloudId : (r.headers.filter fun header => header.1 == "xCloudId") =
    [("xCloudId", .str d.xCloudId)]

section Targets

variable {env : ClientEnv} {s : ClientState} {deviceId xCloudId target : String}

theorem tokenOf_of_some (htoken : s.token.isNull = false) : tokenOf s = .ok s.token := by
  simp [tokenOf, htoken]

theorem deviceHeaders_of_known (token : Json)
    (hcloud : s.deviceCloudIds.get? deviceId = some xCloudId) :
    deviceHeaders token deviceId s =
      .ok (setHeader "xCloudId" (.str xCloudId) (myapiHeaders token s)) := by
  simp [deviceHeaders, deviceCloudId, hcloud, Except.map]

theorem deviceTarget_of_known (hparent : s.deviceParentIds.get? deviceId = some target) :
    deviceTarget deviceId s = .ok target := by
  simp [deviceTarget, hparent]

theorem requests_deviceCommand (op : String) (path : String → String)
    (payload : ClientState → String → Json) (htoken : s.token.isNull = false)
    (hcloud : s.deviceCloudIds.get? deviceId = some xCloudId)
    (hparent : s.deviceParentIds.get? deviceId = some target) :
    Requests env (deviceCommand env op deviceId path payload) s
      { method := .POST
        host := .myapi
        path := path target
        headers := setHeader "xCloudId" (.str xCloudId) (myapiHeaders s.token s)
        json := some (payload s target) } := by
  apply requests_get_bind
  apply requests_ret_bind (tokenOf_of_some htoken)
  apply requests_ret_bind (deviceTarget_of_known hparent)
  apply requests_ret_bind (deviceHeaders_of_known s.token hcloud)
  exact requests_exchange _ fun a => checkSuccess env op a.2

theorem refuses_deviceCommand (op : String) (path : String → String)
    (payload : ClientState → String → Json)
    (hparent : s.deviceParentIds.get? deviceId = none) :
    ∃ err, Refuses (deviceCommand env op deviceId path payload) s err := by
  cases htoken : s.token.isNull with
  | true =>
    refine ⟨notAuthenticated, refuses_get_bind (refuses_ret_error ?_)⟩
    simp [tokenOf, htoken]
  | false =>
    refine ⟨unknownDevice deviceId,
      refuses_get_bind (refuses_ret_bind (tokenOf_of_some htoken) (refuses_ret_error ?_))⟩
    simp [deviceTarget, hparent]

theorem filter_setHeader_xCloudId (token : Json) :
    ((setHeader "xCloudId" (.str xCloudId) (myapiHeaders token s)).filter fun header =>
      header.1 == "xCloudId") = [("xCloudId", .str xCloudId)] := by
  simp [setHeader, myapiHeaders]

/-- The headers of a phone, with the xCloudId of the device. -/
def phoneHeaders (token : Json) (xCloudId : String) (s : ClientState) : List (String × Json) :=
  setHeader "x-user-device-type" (.str "PHONE") (setHeader "User-Agent" (.str MOBILE_UA)
    (setHeader "xCloudId" (.str xCloudId) (myapiHeaders token s)))

theorem filter_phoneHeaders_xCloudId (token : Json) :
    ((phoneHeaders token xCloudId s).filter fun header => header.1 == "xCloudId") =
      [("xCloudId", .str xCloudId)] := by
  simp [phoneHeaders, setHeader, myapiHeaders]

theorem requests_startStream (htoken : s.token.isNull = false)
    (hcloud : s.deviceCloudIds.get? deviceId = some xCloudId)
    (hparent : s.deviceParentIds.get? deviceId = some target) :
    Requests env (startStream env deviceId) s
      { method := .POST
        host := .myapi
        path := "/hmsweb/users/devices/startStream"
        headers := phoneHeaders s.token xCloudId s
        json := some (gatewayPayload s target "set" ("cameras/" ++ deviceId) true
          [("properties", .obj [("activityState", .str "startUserStream"),
            ("cameraId", .str deviceId)])]) } := by
  have hheaders : deviceHeadersMobile s.token deviceId s =
      .ok (phoneHeaders s.token xCloudId s) := by
    rw [deviceHeadersMobile, deviceHeaders_of_known s.token hcloud]
    rfl
  apply requests_get_bind
  apply requests_ret_bind (tokenOf_of_some htoken)
  apply requests_ret_bind hheaders
  apply requests_ret_bind (deviceTarget_of_known hparent)
  exact requests_exchange _ fun a => readStream env a.2

theorem refuses_startStream (hcloud : s.deviceCloudIds.get? deviceId = none) :
    ∃ err, Refuses (startStream env deviceId) s err := by
  cases htoken : s.token.isNull with
  | true =>
    refine ⟨notAuthenticated, refuses_get_bind (refuses_ret_error ?_)⟩
    simp [tokenOf, htoken]
  | false =>
    refine ⟨unknownDevice deviceId,
      refuses_get_bind (refuses_ret_bind (tokenOf_of_some htoken) (refuses_ret_error ?_))⟩
    simp [deviceHeadersMobile, deviceHeaders, deviceCloudId, hcloud, Except.map]

theorem requests_command (command : DeviceCommand) {d : DeviceInfo}
    (htoken : s.token.isNull = false)
    (hcloud : s.deviceCloudIds.get? d.deviceId = some d.xCloudId)
    (hparent : s.deviceParentIds.get? d.deviceId = some d.gateway) :
    ∃ r, Addressed command d r ∧ Requests env (perform env (command.method d.deviceId)) s r := by
  have hpayload (action resource : String) (publish : Bool) (properties : List (String × Json)) :
      ∃ fields, some (gatewayPayload s d.gateway action resource publish properties) =
          some (.obj fields) ∧
        Json.lookup "to" fields = some (.str d.gateway) ∧
        Json.lookup "resource" fields = some (.str resource) :=
    ⟨_, rfl, by simp [Json.lookup], by simp [Json.lookup]⟩
  cases command with
  | requestSnapshot =>
    exact ⟨_, ⟨rfl, hpayload _ _ _ _, filter_setHeader_xCloudId _⟩,
      requests_deviceCommand _ _ _ htoken hcloud hparent⟩
  | startStream =>
    exact ⟨_, ⟨rfl, hpayload _ _ _ _, filter_phoneHeaders_xCloudId _⟩,
      (requests_startStream htoken hcloud hparent).discard⟩
  | setSpotlight on intensity =>
    exact ⟨_, ⟨rfl, hpayload _ _ _ _, filter_setHeader_xCloudId _⟩,
      requests_deviceCommand _ _ _ htoken hcloud hparent⟩
  | setPrivacy active =>
    exact ⟨_, ⟨rfl, hpayload _ _ _ _, filter_setHeader_xCloudId _⟩,
      requests_deviceCommand _ _ _ htoken hcloud hparent⟩
  | setSiren on =>
    exact ⟨_, ⟨rfl, hpayload _ _ _ _, filter_setHeader_xCloudId _⟩,
      requests_deviceCommand _ _ _ htoken hcloud hparent⟩

theorem refuses_command (command : DeviceCommand)
    (hcloud : s.deviceCloudIds.get? deviceId = none)
    (hparent : s.deviceParentIds.get? deviceId = none) :
    ∃ err, Refuses (perform env (command.method deviceId)) s err := by
  cases command with
  | startStream =>
    obtain ⟨err, h⟩ := @refuses_startStream env s deviceId hcloud
    exact ⟨err, h.discard⟩
  | requestSnapshot => exact refuses_deviceCommand _ _ _ hparent
  | setSpotlight on intensity => exact refuses_deviceCommand _ _ _ hparent
  | setPrivacy active => exact refuses_deviceCommand _ _ _ hparent
  | setSiren on => exact refuses_deviceCommand _ _ _ hparent

end Targets

/-- After any run of the client, with its methods interleaved in any way: a command for a device of
the last list is one request to the device's gateway in the name of its own base station, and a
command for an id that was in no list raises without one. -/
theorem commands_reach_gateway {env : ClientEnv} {p : ClientPool} {lists : List (List DeviceInfo)}
    (h : Discovered env p lists) :
    (∀ devices, lists.getLast? = some devices → ∀ d ∈ devices, p.shared.token.isNull = false →
      ∀ command : DeviceCommand, ∃ r, Addressed command d r ∧
        Requests env (perform env (command.method d.deviceId)) p.shared r) ∧
    ∀ deviceId, (∀ devices ∈ lists, ∀ d ∈ devices, d.deviceId ≠ deviceId) →
      ∀ command : DeviceCommand, ∃ err,
        Refuses (perform env (command.method deviceId)) p.shared err := by
  obtain ⟨hknown, -⟩ := known_of_discovered h
  constructor
  · intro devices hlast d hd htoken command
    obtain ⟨hcloud, hparent⟩ := hknown.last devices hlast d hd
    exact requests_command command htoken hcloud hparent
  · intro deviceId hid command
    obtain ⟨hcloud, hparent⟩ := hknown.never deviceId hid
    exact refuses_command command hcloud hparent

section Sample

def hubEnv : ClientEnv where
  email := "user@example.org"
  password := "secret"
  deviceId := "device"
  scalars := plainScalars
  floats := exponentText
  headerFault := lineBreakFault

/-- The answer of a REST endpoint. -/
def hubReply (body : Json) : HttpRequest → Except Exc HttpReply :=
  fun _ => .ok ⟨200, "application/json", .json body, 0⟩

/-- A camera behind a base station. -/
def hubBody (xCloudId : String) : Json :=
  .obj [("success", .bool true), ("data", .arr
    [.obj [("deviceId", .str "CAM"), ("deviceName", .str "Door"), ("modelId", .str "VMC"),
      ("xCloudId", .str xCloudId), ("parentId", .str "BASE")]])]

def hubCamera (xCloudId : String) : DeviceInfo where
  deviceId := "CAM"
  parentId := some "BASE"
  deviceName := "Door"
  modelId := "VMC"
  xCloudId := xCloudId

def hubLoggedIn : ClientState where
  token := .str "T"
  userId := some "U"
  xCloudId := some "XC-1"

/-- After the list with this camera. -/
def hubState (xCloudId : String) : ClientState :=
  recordDevice hubLoggedIn (hubCamera xCloudId)

set_option maxRecDepth 8000 in
theorem hub_discovered (xCloudId : String) : ∃ p, Discovered hubEnv p [[hubCamera xCloudId]] ∧
    p.shared = hubState xCloudId ∧ ∃ call, p.threads = [call] := by
  have hfresh : Discovered hubEnv ⟨hubLoggedIn, []⟩ [] := Discovered.fresh rfl rfl
  have hstart := @Discovered.step _ _ _ _ (.start .getDevices) hfresh rfl
  have hanswer := @Discovered.step _ _ _ _ (.answer 0 (hubReply (hubBody xCloudId))) hstart rfl
  exact ⟨_, @Discovered.step _ _ _ _ (.deliver 0) hanswer rfl, rfl, _, rfl⟩

theorem commands_reach_gateway_hub : ∃ p, Discovered hubEnv p [[hubCamera "XC-2"]] ∧
    (∃ r, Addressed (.setSiren true) (hubCamera "XC-2") r ∧
      Requests hubEnv (perform hubEnv (.setSiren "CAM" true)) p.shared r) ∧
    ∃ err, Refuses (perform hubEnv (.startStream "BASE")) p.shared err := by
  obtain ⟨p, hdiscovered, hshared, -⟩ := hub_discovered "XC-2"
  have htoken : p.shared.token.isNull = false := by
    rw [hshared]
    rfl
  obtain ⟨hlast, hnever⟩ := commands_reach_gateway hdiscovered
  refine ⟨p, hdiscovered, ?_, ?_⟩
  · exact hlast _ rfl (hubCamera "XC-2") (by simp) htoken (.setSiren true)
  · exact hnever "BASE" (by simp [hubCamera]) .startStream

/-- A second factor that is answered without a token. -/
def noToken : Json :=
  .obj [("meta", .obj [("code", .int 200)]),
    ("data", .obj [("authCompleted", .bool true), ("token", .null)])]

set_option maxRecDepth 8000 in
theorem token_lost (xCloudId : String) : ∃ p, Discovered hubEnv p [[hubCamera xCloudId]] ∧
    p.shared.token = .null := by
  obtain ⟨p, hdiscovered, hshared, call, hthreads⟩ := hub_discovered xCloudId
  have hstart := @Discovered.step _ _ _ _ (.start (.tryFinishAuth (.str "F") none)) hdiscovered rfl
  rw [hshared, hthreads] at hstart
  have hanswer := @Discovered.step _ _ _ _ (.answer 1 (hubReply noToken)) hstart rfl
  exact ⟨_, @Discovered.step _ _ _ _ (.deliver 1) hanswer rfl, rfl⟩

/-- An xCloudId with a line break, and a token that the second factor took away. -/
theorem commands_reach_gateway_fails :
    (∃ p, Discovered hubEnv p [[hubCamera "XC\n2"]] ∧ p.shared.token = .str "T" ∧
      ∃ err, Refuses (perform hubEnv (.setSiren "CAM" true)) p.shared err) ∧
    ∃ p, Discovered hubEnv p [[hubCamera "XC-2"]] ∧
      ∃ err, Refuses (perform hubEnv (.setSiren "CAM" true)) p.shared err := by
  constructor
  · obtain ⟨p, hdiscovered, hshared, -⟩ := hub_discovered "XC\n2"
    refine ⟨p, hdiscovered, ?_, .builtin .valueError "", ?_⟩
    · rw [hshared]
      rfl
    · rw [hshared]
      rfl
  · obtain ⟨p, hdiscovered, htoken⟩ := token_lost "XC-2"
    refine ⟨p, hdiscovered, notAuthenticated, refuses_get_bind (refuses_ret_error ?_)⟩
    simp [tokenOf, htoken, Json.isNull]

end Sample

end Eisenberg.Client
