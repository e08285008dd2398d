import Eisenberg.Client.Dedupe
import Eisenberg.Client.Runs

/-!
# What the client knows of its devices

The two maps that address a command are written by `get_devices` alone. Over any interleaving of the
client's methods they hold what the last returned list says of its devices, and nothing of an id
that no list had.
-/

namespace Eisenberg.Client

open Framework

/-! ## Distinct devices -/

theorem nodup_readDevices {env : ClientEnv} {body : Json} {devices : List DeviceInfo}
    (h : readDevices env body = .ok devices) : (devices.map fun d => d.deviceId).Nodup := by
  simp only [readDevices, bind, Except.bind, pure, Except.pure] at h
  split at h
  · cases h
  · split at h
    · cases h
    · split at h
      · cases h
      · split at h
        · cases h
        · obtain rfl := Except.ok.inj h
          exact nodup_dedupeDevices _

/-! ## The maps that address a command -/

def SameRoutes (s t : ClientState) : Prop :=
  t.deviceCloudIds = s.deviceCloudIds ∧ t.deviceParentIds = s.deviceParentIds

theorem SameRoutes.refl (s : ClientState) : SameRoutes s s := ⟨rfl, rfl⟩

theorem SameRoutes.trans {s t u : ClientState} (h : SameRoutes s t) (h' : SameRoutes t u) :
    SameRoutes s u := ⟨h'.1.trans h.1, h'.2.trans h.2⟩

theorem foldl_recordDevice_of_not_mem {devices : List DeviceInfo} {s : ClientState} {id : String}
    (h : ∀ d ∈ devices, d.deviceId ≠ id) :
    (devices.foldl recordDevice s).deviceCloudIds.get? id = s.deviceCloudIds.get? id ∧
      (devices.foldl recordDevice s).deviceParentIds.get? id = s.deviceParentIds.get? id := by
  induction devices generalizing s with
  | nil => exact ⟨rfl, rfl⟩
  | cons device devices ih =>
    have hne : id ≠ device.deviceId := (h device (by simp)).symm
    obtain ⟨hcloud, hparent⟩ := @ih (recordDevice s device) (fun d hd => h d (by simp [hd]))
    rw [List.foldl_cons, hcloud, hparent]
    simp [recordDevice, Dict.get?_set_of_ne _ hne]

theorem foldl_recordDevice_of_mem {devices : List DeviceInfo} {s : ClientState}
    (hnodup : (devices.map fun d => d.deviceId).Nodup) {d : DeviceInfo} (hd : d ∈ devices) :
    (devices.foldl recordDevice s).deviceCloudIds.get? d.deviceId = some d.xCloudId ∧
      (devices.foldl recordDevice s).deviceParentIds.get? d.deviceId = some d.gateway := by
  induction devices generalizing s with
  | nil => exact absurd hd List.not_mem_nil
  | cons device devices ih =>
    obtain ⟨hnot, hrest⟩ := List.nodup_cons.mp hnodup
    rw [List.foldl_cons]
    rcases List.mem_cons.mp hd with rfl | hd
    · have hother : ∀ e ∈ devices, e.deviceId ≠ d.deviceId := by
        intro e he heq
        exact hnot (List.mem_map.mpr ⟨e, he, heq⟩)
      obtain ⟨hcloud, hparent⟩ := @foldl_recordDevice_of_not_mem devices (recordDevice s d) _ hother
      rw [hcloud, hparent]
      simp [recordDevice]
    · exact ih hrest hd

/-! ## The methods that leave the maps alone -/

/-- No segment of the coroutine changes the maps. -/
def KeepsRoutes {α : Type} (c : Async α) : Prop :=
  ∀ cause s₀ s, SameRoutes s₀ s → c.Within (fun _ s₀ s => SameRoutes s₀ s) cause s₀ s

section KeepsRoutes

variable {α β : Type} (env : ClientEnv)

theorem keepsRoutes_ret (result : Except Exc α) : KeepsRoutes (Co.ret result : Async α) :=
  fun _ _ _ h => h

theorem keepsRoutes_pure (a : α) : KeepsRoutes (pure a : Async α) := keepsRoutes_ret (.ok a)

theorem keepsRoutes_throw (err : Exc) : KeepsRoutes (throw err : Async α) :=
  keepsRoutes_ret (.error err)

theorem keepsRoutes_get : KeepsRoutes (get : Async ClientState) := fun _ _ _ h => h

theorem keepsRoutes_modify {f : ClientState → ClientState} (hf : ∀ s, SameRoutes s (f s)) :
    KeepsRoutes (modify f : Async Unit) :=
  fun _ _ s h => h.trans (hf s)

theorem KeepsRoutes.bind {c : Async α} {f : α → Async β} (hc : KeepsRoutes c)
    (hf : ∀ a, KeepsRoutes (f a)) : KeepsRoutes (c >>= f) :=
  fun cause s₀ s h => Co.Segments.bind (hc cause s₀ s h) (fun cause s₀ s a h => hf a cause s₀ s h)
    (fun _ _ _ _ h => h)

theorem keepsRoutes_exchange (r : HttpRequest) : KeepsRoutes (exchange env r) := by
  unfold exchange
  split
  · exact keepsRoutes_throw _
  · refine KeepsRoutes.bind ?_ fun reply => ?_
    · intro cause s₀ s h
      exact ⟨h, fun _ t => SameRoutes.refl t⟩
    · exact KeepsRoutes.bind (keepsRoutes_ret _) fun body => keepsRoutes_pure _

theorem keepsRoutes_exchangeMeta (r : HttpRequest) : KeepsRoutes (exchangeMeta env r) := by
  refine KeepsRoutes.bind (keepsRoutes_exchange env r) fun a => ?_
  exact KeepsRoutes.bind (keepsRoutes_ret _) fun block => keepsRoutes_pure _

theorem KeepsRoutes.ite {p : Prop} [Decidable p] {c d : Async α} (hc : KeepsRoutes c)
    (hd : KeepsRoutes d) : KeepsRoutes (if p then c else d) := by
  split
  · exact hc
  · exact hd

theorem KeepsRoutes.unless {p : Prop} [Decidable p] (err : Exc) {f : PUnit → Async α}
    (hf : ∀ a, KeepsRoutes (f a)) :
    KeepsRoutes (if p then (throw err : Async PUnit) >>= f else f PUnit.unit) :=
  KeepsRoutes.ite ((keepsRoutes_throw err).bind hf) (hf _)

theorem keepsRoutes_setToken (token : Json) :
    KeepsRoutes (modify (ClientState.setToken token) : Async Unit) :=
  keepsRoutes_modify fun _ => ⟨rfl, rfl⟩

theorem keepsRoutes_useToken (token : Json) (now : Nat) :
    KeepsRoutes (modify (ClientState.useToken token now) : Async Unit) :=
  keepsRoutes_modify fun _ => ⟨rfl, rfl⟩

theorem keepsRoutes_setUserId (userId : String) :
    KeepsRoutes (modify (ClientState.setUserId userId) : Async Unit) :=
  keepsRoutes_modify fun _ => ⟨rfl, rfl⟩

theorem keepsRoutes_establishSession : KeepsRoutes (establishSession env) :=
  keepsRoutes_get.bind fun _ => KeepsRoutes.unless _ fun _ =>
    (keepsRoutes_exchange env _).bind fun _ => (keepsRoutes_ret _).bind fun _ =>
      keepsRoutes_modify fun _ => ⟨rfl, rfl⟩

theorem keepsRoutes_getFactors (token : Json) : KeepsRoutes (getFactors env token) :=
  (keepsRoutes_ret _).bind fun _ => (keepsRoutes_exchangeMeta env _).bind fun _ =>
    keepsRoutes_ret _

theorem keepsRoutes_loginTrusted (token factorId : Json) :
    KeepsRoutes (loginTrusted env token factorId) :=
  keepsRoutes_get.bind fun _ => (keepsRoutes_ret _).bind fun _ =>
    (keepsRoutes_exchangeMeta env _).bind fun _ => (keepsRoutes_ret _).bind fun _ =>
      (keepsRoutes_useToken _ _).bind fun _ => keepsRoutes_establishSession env

theorem keepsRoutes_loginUntrusted (token : Json) : KeepsRoutes (loginUntrusted env token) :=
  (keepsRoutes_setToken token).bind fun _ => (keepsRoutes_getFactors env token).bind fun _ =>
    keepsRoutes_throw _

theorem keepsRoutes_loginByTrust (token : Json) : KeepsRoutes (loginByTrust env token) :=
  keepsRoutes_get.bind fun _ => (keepsRoutes_ret _).bind fun _ =>
    (keepsRoutes_exchangeMeta env _).bind fun _ => (keepsRoutes_ret _).bind fun _ =>
      KeepsRoutes.ite
        ((keepsRoutes_ret _).bind fun _ => (keepsRoutes_ret _).bind fun _ =>
          keepsRoutes_loginTrusted env token _)
        (keepsRoutes_loginUntrusted env token)

theorem keepsRoutes_login : KeepsRoutes (login env) :=
  (keepsRoutes_ret _).bind fun _ => (keepsRoutes_exchangeMeta env _).bind fun _ =>
    (keepsRoutes_ret _).bind fun _ => (keepsRoutes_setUserId _).bind fun _ =>
      KeepsRoutes.ite
        ((keepsRoutes_useToken _ _).bind fun _ => keepsRoutes_establishSession env)
        (keepsRoutes_loginByTrust env _)

theorem keepsRoutes_startMfa (factor : SecondFactor) : KeepsRoutes (startMfa env factor) :=
  keepsRoutes_get.bind fun _ => KeepsRoutes.unless _ fun _ => (keepsRoutes_ret _).bind fun _ =>
    (keepsRoutes_exchangeMeta env _).bind fun _ => keepsRoutes_ret _

theorem keepsRoutes_pairBrowser (browserAuthCode : Json) :
    KeepsRoutes (pairBrowser env browserAuthCode) :=
  keepsRoutes_get.bind fun _ => (keepsRoutes_ret _).bind fun _ =>
    (keepsRoutes_exchangeMeta env _).bind fun _ => (keepsRoutes_ret _).bind fun _ =>
      keepsRoutes_pure _

theorem keepsRoutes_tryFinishAuth (factorAuthCode : Json) (otp : Option String) :
    KeepsRoutes (tryFinishAuth env factorAuthCode otp) := by
  refine keepsRoutes_get.bind fun s => (keepsRoutes_ret _).bind fun headers =>
    (keepsRoutes_exchangeMeta env _).bind fun a => (keepsRoutes_ret _).bind fun answer => ?_
  cases answer with
  | pending => exact keepsRoutes_pure false
  | approved token browserAuthCode =>
    have hlast : KeepsRoutes (do establishSession env; return true) :=
      (keepsRoutes_establishSession env).bind fun _ => keepsRoutes_pure true
    refine (keepsRoutes_useToken _ _).bind fun _ => KeepsRoutes.ite ?_ hlast
    exact (keepsRoutes_pairBrowser env _).bind fun _ => hlast

theorem keepsRoutes_getLocations : KeepsRoutes (getLocations env) := by
  refine keepsRoutes_get.bind fun s => ?_
  cases s.userId with
  | none => exact keepsRoutes_throw _
  | some userId =>
    exact (keepsRoutes_ret _).bind fun _ => (keepsRoutes_exchange env _).bind fun _ =>
      keepsRoutes_ret _

theorem keepsRoutes_getActiveMode (locationId : String) :
    KeepsRoutes (getActiveMode env locationId) :=
  keepsRoutes_get.bind fun _ => (keepsRoutes_ret _).bind fun _ => (keepsRoutes_ret _).bind fun _ =>
    (keepsRoutes_exchange env _).bind fun _ => keepsRoutes_ret _

theorem keepsRoutes_getCustomModes (locationId : String) :
    KeepsRoutes (getCustomModes env locationId) :=
  keepsRoutes_get.bind fun _ => (keepsRoutes_ret _).bind fun _ => (keepsRoutes_ret _).bind fun _ =>
    (keepsRoutes_exchange env _).bind fun _ => keepsRoutes_ret _

theorem keepsRoutes_setActiveMode (locationId mode : String) (revision : Int)
    (custom : Option (Dict String String)) :
    KeepsRoutes (setActiveMode env locationId mode revision custom) :=
  keepsRoutes_get.bind fun _ => (keepsRoutes_ret _).bind fun _ => (keepsRoutes_ret _).bind fun _ =>
    (keepsRoutes_exchange env _).bind fun _ => keepsRoutes_ret _

theorem keepsRoutes_postCommand (op path : String) (headers : List (String × Json))
    (payload : Json) : KeepsRoutes (postCommand env op path headers payload) :=
  (keepsRoutes_exchange env _).bind fun _ => keepsRoutes_ret _

theorem keepsRoutes_deviceCommand (op deviceId : String) (path : String → String)
    (payload : ClientState → String → Json) :
    KeepsRoutes (deviceCommand env op deviceId path payload) :=
  keepsRoutes_get.bind fun _ => (keepsRoutes_ret _).bind fun _ => (keepsRoutes_ret _).bind fun _ =>
    (keepsRoutes_ret _).bind fun _ => keepsRoutes_postCommand env _ _ _ _

theorem keepsRoutes_baseCommand (op baseId : String) (payload : ClientState → Json) :
    KeepsRoutes (baseCommand env op baseId payload) :=
  keepsRoutes_get.bind fun _ => (keepsRoutes_ret _).bind fun _ => (keepsRoutes_ret _).bind fun _ =>
    keepsRoutes_postCommand env _ _ _ _

theorem keepsRoutes_startStream (deviceId : String) : KeepsRoutes (startStream env deviceId) :=
  keepsRoutes_get.bind fun _ => (keepsRoutes_ret _).bind fun _ => (keepsRoutes_ret _).bind fun _ =>
    (keepsRoutes_ret _).bind fun _ => (keepsRoutes_exchange env _).bind fun _ => keepsRoutes_ret _

theorem KeepsRoutes.discard {c : Async α} (h : KeepsRoutes c) : KeepsRoutes (discard c) :=
  h.bind fun _ => keepsRoutes_pure _

/-- `get_devices` apart, every method leaves the maps alone. -/
theorem keepsRoutes_perform (method : Method) (h : method ≠ .getDevices) :
    KeepsRoutes (perform env method) := by
  cases method with
  | login => exact keepsRoutes_login env
  | startMfa factor => exact (keepsRoutes_startMfa env factor).discard
  | tryFinishAuth factorAuthCode otp => exact (keepsRoutes_tryFinishAuth env _ otp).discard
  | establishSession => exact keepsRoutes_establishSession env
  | getDevices => exact absurd rfl h
  | getLocations => exact (keepsRoutes_getLocations env).discard
  | getActiveMode locationId => exact (keepsRoutes_getActiveMode env locationId).discard
  | getCustomModes locationId => exact (keepsRoutes_getCustomModes env locationId).discard
  | setActiveMode locationId mode revision custom =>
    exact (keepsRoutes_setActiveMode env locationId mode revision custom).discard
  | startStream deviceId => exact (keepsRoutes_startStream env deviceId).discard
  | requestSnapshot deviceId => exact keepsRoutes_deviceCommand env _ _ _ _
  | setSpotlight deviceId on intensity => exact keepsRoutes_deviceCommand env _ _ _ _
  | setPrivacy deviceId active => exact keepsRoutes_deviceCommand env _ _ _ _
  | setSiren deviceId on => exact keepsRoutes_deviceCommand env _ _ _ _
  | registerEventSubscription baseId => exact keepsRoutes_baseCommand env _ _ _
  | requestDeviceStates baseId => exact keepsRoutes_baseCommand env _ _ _

end KeepsRoutes

/-! ## The lists that callers got -/

/-- A method, with the device list it returns if it is `get_devices`. -/
def invoke (env : ClientEnv) : Method → Async (Option (List DeviceInfo))
  | .getDevices => do
    let devices ← getDevices env
    return some devices
  | method => do
    perform env method
    return none

/-- The client with the calls of its methods that were started. -/
abbrev ClientPool :=
  Pool Method ClientState Exc (fun _ : HttpRequest => HttpReply) (Option (List DeviceInfo))

abbrev ClientEvent := PoolEvent Method Exc (fun _ : HttpRequest => HttpReply)

/-- The list that a finished call returned. -/
def finishedList (call : Thread Method ClientState Exc (fun _ : HttpRequest => HttpReply)
    (Option (List DeviceInfo))) : Option (List DeviceInfo) :=
  match call.status with
  | .done (.ok devices) => devices
  | _ => none

/-- The list that a step hands to the caller of `get_devices`. -/
def returnedList (q : ClientPool) : ClientEvent → Option (List DeviceInfo)
  | .start _ => q.threads.getLast?.bind finishedList
  | .deliver t => q.threads[t]?.bind finishedList
  | .answer _ _ => none

/-- A client and the device lists it has returned since it was made, under any interleaving of its
methods. -/
inductive Discovered (env : ClientEnv) : ClientPool → List (List DeviceInfo) → Prop
  | fresh {s : ClientState} (hcloud : s.deviceCloudIds = Dict.empty)
      (hparent : s.deviceParentIds = Dict.empty) : Discovered env ⟨s, []⟩ []
  | step {p q : ClientPool} {lists : List (List DeviceInfo)} {event : ClientEvent}
      (h : Discovered env p lists) (hstep : Pool.step (invoke env) p event = some q) :
      Discovered env q (lists ++ (returnedList q event).toList)

/-- What the last segment of `get_devices` does to the maps. -/
def Recorded (s₀ s : ClientState) : Except Exc (List DeviceInfo) → Prop
  | .ok devices =>
    SameRoutes (devices.foldl recordDevice s₀) s ∧ (devices.map fun d => d.deviceId).Nodup
  | .error _ => SameRoutes s₀ s

def Returned (s₀ s : ClientState) : Except Exc (Option (List DeviceInfo)) → Prop
  | .ok (some devices) => Recorded s₀ s (.ok devices)
  | _ => SameRoutes s₀ s

theorem SameRoutes.foldl_recordDevice {s t : ClientState} (h : SameRoutes s t)
    (devices : List DeviceInfo) :
    SameRoutes (devices.foldl recordDevice s) (devices.foldl recordDevice t) := by
  induction devices generalizing s t with
  | nil => exact h
  | cons device devices ih =>
    apply ih
    exact ⟨by simp [recordDevice, h.1], by simp [recordDevice, h.2]⟩

theorem KeepsRoutes.segments_bind {α β : Type} {c : Async α} {f : α → Async β}
    {Q : ClientState → ClientState → Except Exc β → Prop} (hc : KeepsRoutes c)
    (hf : ∀ a cause s₀ s, SameRoutes s₀ s → (f a).Segments (fun _ s₀ s => SameRoutes s₀ s)
      (fun _ s₀ s r => Q s₀ s r) cause s₀ s)
    (herror : ∀ s₀ s err, SameRoutes s₀ s → Q s₀ s (.error err))
    (cause : Co.Cause Exc fun _ : HttpRequest => HttpReply) {s₀ s : ClientState}
    (h : SameRoutes s₀ s) :
    (c >>= f).Segments (fun _ s₀ s => SameRoutes s₀ s) (fun _ s₀ s r => Q s₀ s r) cause s₀ s :=
  Co.Segments.bind (hc cause s₀ s h) (fun cause s₀ s a h => hf a cause s₀ s h)
    (fun _ s₀ s err h => herror s₀ s err h)

theorem segments_getDevices (env : ClientEnv)
    (cause : Co.Cause Exc fun _ : HttpRequest => HttpReply) {s₀ s : ClientState}
    (h : SameRoutes s₀ s) :
    (getDevices env).Segments (fun _ s₀ s => SameRoutes s₀ s)
      (fun _ s₀ s r => Recorded s₀ s r) cause s₀ s := by
  have herror (s₀ s : ClientState) (err : Exc) (h : SameRoutes s₀ s) :
      Recorded s₀ s (.error err) := h
  refine keepsRoutes_get.segments_bind (fun s cause s₀ s' h => ?_) herror cause h
  refine (keepsRoutes_ret _).segments_bind (fun token cause s₀ s h => ?_) herror cause h
  refine (keepsRoutes_exchange env _).segments_bind (fun a cause s₀ s h => ?_) herror cause h
  obtain ⟨reply, body⟩ := a
  dsimp only
  cases hread : readDevices env body with
  | error err => exact h
  | ok devices =>
    exact ⟨h.foldl_recordDevice devices, nodup_readDevices hread⟩

theorem segments_invoke (env : ClientEnv) (method : Method) (s : ClientState) :
    (invoke env method).Segments (fun _ s₀ s => SameRoutes s₀ s)
      (fun _ s₀ s r => Returned s₀ s r) .started s s := by
  by_cases hdevices : method = .getDevices
  · rw [hdevices]
    exact Co.Segments.bind (segments_getDevices env .started (SameRoutes.refl s))
      (fun _ _ _ _ h => h) (fun _ _ _ _ h => h)
  · have hinvoke : invoke env method = (do perform env method; return none) := by
      cases method <;> first | rfl | exact absurd rfl hdevices
    rw [hinvoke]
    exact Co.Segments.bind (keepsRoutes_perform env method hdevices _ _ _ (SameRoutes.refl s))
      (fun _ _ _ _ h => h) (fun _ _ _ _ h => h)

/-! ## What the maps hold -/

/-- No list has an id twice. The last list is in the maps, and an id that was in no list is not. -/
structure Known (lists : List (List DeviceInfo)) (s : ClientState) : Prop where
  distinct : ∀ devices ∈ lists, (devices.map fun d => d.deviceId).Nodup
  last : ∀ devices, lists.getLast? = some devices → ∀ d ∈ devices,
    s.deviceCloudIds.get? d.deviceId = some d.xCloudId ∧
      s.deviceParentIds.get? d.deviceId = some d.gateway
  never : ∀ id, (∀ devices ∈ lists, ∀ d ∈ devices, d.deviceId ≠ id) →
    s.deviceCloudIds.get? id = none ∧ s.deviceParentIds.get? id = none

theorem Known.same {lists : List (List DeviceInfo)} {s t : ClientState} (h : Known lists s)
    (hsame : SameRoutes s t) : Known lists t := by
  obtain ⟨hcloud, hparent⟩ := hsame
  refine ⟨h.distinct, ?_, ?_⟩
  · rw [hcloud, hparent]
    exact h.last
  · rw [hcloud, hparent]
    exact h.never

theorem Known.recorded {lists : List (List DeviceInfo)} {s t : ClientState} (h : Known lists s)
    {devices : List DeviceInfo} (hrecorded : Recorded s t (.ok devices)) :
    Known (lists ++ [devices]) t := by
  obtain ⟨hsame, hnodup⟩ := hrecorded
  suffices hfold : Known (lists ++ [devices]) (devices.foldl recordDevice s) from hfold.same hsame
  refine ⟨?_, ?_, ?_⟩
  · intro earlier hearlier
    rcases List.mem_append.mp hearlier with hearlier | hearlier
    · exact h.distinct earlier hearlier
    · rw [List.mem_singleton.mp hearlier]
      exact hnodup
  · intro last hlast d hd
    rw [List.getLast?_concat] at hlast
    obtain rfl := Option.some.inj hlast
    exact foldl_recordDevice_of_mem hnodup hd
  · intro id hid
    have hnew : ∀ d ∈ devices, d.deviceId ≠ id := hid devices (by simp)
    obtain ⟨hcloud, hparent⟩ := @foldl_recordDevice_of_not_mem devices s id hnew
    rw [hcloud, hparent]
    exact h.never id fun earlier hearlier => hid earlier (by simp [hearlier])

theorem Known.returned {lists : List (List DeviceInfo)} {s t : ClientState} (h : Known lists s)
    {arg : Method} {calls : List HttpRequest} {cause : Co.Cause Exc fun _ : HttpRequest => HttpReply}
    {stop : Co.Stop ClientState Exc (fun _ : HttpRequest => HttpReply) (Option (List DeviceInfo))}
    (hends : stop.Ends (fun _ s₀ s => SameRoutes s₀ s) (fun _ s₀ s r => Returned s₀ s r) cause s t) :
    Known (lists ++ (finishedList (Pool.stopped arg calls stop)).toList) t := by
  cases stop with
  | waiting i k => simpa [Pool.stopped, Co.Stop.status, finishedList] using h.same hends.1
  | done result =>
    cases result with
    | error err => simpa [Pool.stopped, Co.Stop.status, finishedList] using h.same hends
    | ok devices =>
      cases devices with
      | none => simpa [Pool.stopped, Co.Stop.status, finishedList] using h.same hends
      | some devices => exact h.recorded hends

theorem known_of_discovered {env : ClientEnv} {p : ClientPool} {lists : List (List DeviceInfo)}
    (h : Discovered env p lists) :
    Known lists p.shared ∧ ∀ th ∈ p.threads, th.status.Segments (fun _ s₀ s => SameRoutes s₀ s)
      (fun _ s₀ s r => Returned s₀ s r) := by
  induction h with
  | fresh hcloud hparent =>
    refine ⟨⟨by simp, by simp, ?_⟩, by simp⟩
    intro id _
    rw [hcloud, hparent]
    exact ⟨rfl, rfl⟩
  | @step p q lists event _ hstep ih =>
    obtain ⟨hknown, hthreads⟩ := ih
    refine ⟨?_, Pool.step_segments (segments_invoke env) event hthreads hstep⟩
    cases event with
    | start method =>
      rw [Pool.step_start hstep]
      have hends := (segments_invoke env method p.shared).advance
      simpa [returnedList] using hknown.returned hends
    | answer t answers =>
      obtain ⟨arg, calls, i, k, -, rfl⟩ := Pool.step_answer hstep
      simpa [returnedList] using hknown
    | deliver t =>
      obtain ⟨arg, calls, i, r, k, ht, rfl⟩ := Pool.step_deliver hstep
      have hends := (hthreads _ (List.mem_of_getElem? ht) p.shared).advance
      have hlt : t < p.threads.length := (List.getElem?_eq_some_iff.mp ht).1
      simpa [returnedList, hlt] using hknown.returned hends

end Eisenberg.Client
