import Eisenberg.Client.RateLimit
import Eisenberg.Framework.Knowledge

/-!
# The requests of the methods

What a lore must allow for the methods to stay within it: one rule for each exchange, and all the
methods of myapi at once, whose requests differ in nothing that a lore of the login looks at.
-/

namespace Eisenberg.Client

open Framework

/-- The answers of a client teach, and its fields are the state. -/
abbrev ClientLore (κ : Type) [Preorder κ] : Type :=
  Lore ClientState Exc (fun _ : HttpRequest => HttpReply) κ

section Exchange

variable {κ α β : Type} [Preorder κ] {lore : ClientLore κ} {known : κ} {env : ClientEnv}

theorem stays_exchange_bind {r : HttpRequest} {f : HttpReply × Json → Async β}
    (hr : lore.allows known r)
    (hf : ∀ reply body more, lore.learns known r (.ok reply) ≤ more →
      readArloJson r reply = .ok body → Co.Stays lore (f (reply, body)) more) :
    Co.Stays lore (exchange env r >>= f) known := by
  cases hfault : r.headers.findSome? fun header => env.headerFault header.2 with
  | some fault =>
    rw [exchange_bind_fault hfault]
    exact Co.stays_ret _
  | none =>
    rw [exchange_bind hfault]
    apply Co.stays_call hr
    intro answer more hmore
    apply Co.stays_ret_bind
    rintro ⟨reply, body⟩ hdecoded
    cases answer with
    | error err => cases hdecoded
    | ok reply' =>
      cases hbody : readArloJson r reply' with
      | error err => simp [decode, bind, Except.bind, hbody] at hdecoded
      | ok body' =>
        simp [decode, bind, Except.bind, hbody, pure, Except.pure] at hdecoded
        obtain ⟨rfl, rfl⟩ := hdecoded
        exact hf reply' body' more hmore hbody

theorem stays_exchangeMeta_bind {r : HttpRequest} {f : HttpReply × Json × Json → Async β}
    (hr : lore.allows known r)
    (hf : ∀ reply body block more, lore.learns known r (.ok reply) ≤ more →
      readArloJson r reply = .ok body → arloMeta env r reply body = .ok block →
      Co.Stays lore (f (reply, body, block)) more) :
    Co.Stays lore (exchangeMeta env r >>= f) known := by
  rw [exchangeMeta_bind]
  apply stays_exchange_bind hr
  intro reply body more hmore hbody
  apply Co.stays_ret_bind
  intro block hblock
  exact hf reply body block more hmore hbody hblock

theorem stays_discard {c : Async α} (hc : Co.Stays lore c known) :
    Co.Stays lore (discard c) known := hc.bind fun _ _ _ => Co.stays_pure ()

end Exchange

/-! ## Headers -/

theorem mem_setHeader_of_ne {name key : String} (hne : key ≠ name) (value v : Json)
    (headers : List (String × Json)) :
    (key, v) ∈ setHeader name value headers ↔ (key, v) ∈ headers := by
  unfold setHeader
  split
  · rw [List.mem_map]
    constructor
    · rintro ⟨header, hheader, heq⟩
      split at heq
      next => exact absurd (congrArg Prod.fst heq).symm hne
      next => exact heq ▸ hheader
    · intro hmem
      exact ⟨(key, v), hmem, if_neg hne⟩
  · simp [hne]

theorem mem_myapiHeaders (token : Json) (s : ClientState) (v : Json) :
    ("Authorization", v) ∈ myapiHeaders token s ↔ v = token := by
  simp [myapiHeaders]

theorem mem_v3ModeHeaders {token : Json} {s : ClientState} {headers : List (String × Json)}
    (h : v3ModeHeaders token s = .ok headers) (v : Json) :
    ("Authorization", v) ∈ headers ↔ v = token := by
  unfold v3ModeHeaders at h
  split at h
  next => cases h
  next =>
    cases h
    rw [mem_setHeader_of_ne (by decide), mem_setHeader_of_ne (by decide), mem_myapiHeaders]

theorem mem_deviceHeaders {token : Json} {deviceId : String} {s : ClientState}
    {headers : List (String × Json)} (h : deviceHeaders token deviceId s = .ok headers) (v : Json) :
    ("Authorization", v) ∈ headers ↔ v = token := by
  unfold deviceHeaders at h
  cases hcloud : deviceCloudId deviceId s with
  | error err =>
    rw [hcloud] at h
    cases h
  | ok xCloudId =>
    rw [hcloud] at h
    cases h
    rw [mem_setHeader_of_ne (by decide), mem_myapiHeaders]

theorem mem_deviceHeadersMobile {token : Json} {deviceId : String} {s : ClientState}
    {headers : List (String × Json)} (h : deviceHeadersMobile token deviceId s = .ok headers)
    (v : Json) : ("Authorization", v) ∈ headers ↔ v = token := by
  unfold deviceHeadersMobile at h
  cases hdevice : deviceHeaders token deviceId s with
  | error err =>
    rw [hdevice] at h
    cases h
  | ok inner =>
    rw [hdevice] at h
    cases h
    rw [mem_setHeader_of_ne (by decide), mem_setHeader_of_ne (by decide),
      mem_deviceHeaders hdevice]

/-! ## The methods of myapi -/

theorem isNull_iff (value : Json) : value.isNull = true ↔ value = .null := by
  cases value <;> simp [Json.isNull]

/-- A lore that allows myapi any request with the client's token, and does not look at the fields
that the methods of myapi write. -/
structure AllowsMyapi {κ : Type} [Preorder κ] (lore : ClientLore κ) : Prop where
  allows : ∀ {known s r}, lore.holds known s → s.token ≠ .null → r.host = .myapi →
    (∀ v, ("Authorization", v) ∈ r.headers ↔ v = s.token) → lore.allows known r
  session : ∀ {known s} mqttUrl, lore.holds known s → lore.holds known (s.setMqttUrl mqttUrl)
  devices : ∀ {known s} devices, lore.holds known s → lore.holds known (recordDevices devices s)

section Myapi

variable {κ : Type} [Preorder κ] {lore : ClientLore κ} (hlore : AllowsMyapi lore) (env : ClientEnv)
  (known : κ)

theorem tokenOf_eq_ok {s : ClientState} {token : Json} (h : tokenOf s = .ok token) :
    token = s.token ∧ s.token ≠ .null := by
  unfold tokenOf at h
  split at h
  next => cases h
  next hnull =>
    cases h
    exact ⟨rfl, fun heq => hnull ((isNull_iff _).mpr heq)⟩

theorem stays_postCommand {s : ClientState} {op path : String} {headers : List (String × Json)}
    {payload : Json}
    (hallows : ∀ r, r.host = .myapi → (∀ v, ("Authorization", v) ∈ r.headers ↔ v = s.token) →
      lore.allows known r)
    (hheaders : ∀ v, ("Authorization", v) ∈ headers ↔ v = s.token) :
    Co.Stays lore (postCommand env op path headers payload) known := by
  apply stays_exchange_bind (hallows _ rfl hheaders)
  intro reply body more _ _
  exact Co.stays_ret _

include hlore

theorem stays_tokenOf_bind {β : Type} {s : ClientState} {f : Json → Async β}
    (hs : lore.holds known s)
    (hf : (∀ r, r.host = .myapi → (∀ v, ("Authorization", v) ∈ r.headers ↔ v = s.token) →
      lore.allows known r) → Co.Stays lore (f s.token) known) :
    Co.Stays lore (Co.ret (tokenOf s) >>= f) known := by
  apply Co.stays_ret_bind
  intro token htoken
  obtain ⟨rfl, hnull⟩ := tokenOf_eq_ok htoken
  exact hf fun r hhost hheaders => hlore.allows hs hnull hhost hheaders

theorem stays_establishSession : Co.Stays lore (establishSession env) known := by
  apply Co.stays_get_bind
  intro s hs
  split
  · trivial
  next hnull =>
    have htoken : s.token ≠ .null := fun heq => hnull ((isNull_iff _).mpr heq)
    apply stays_exchange_bind (hlore.allows hs htoken rfl (mem_myapiHeaders s.token s))
    intro reply body more _ _
    apply Co.stays_ret_bind
    intro mqttUrl _
    exact Co.stays_modify fun s hs => hlore.session mqttUrl hs

theorem stays_getDevices : Co.Stays lore (getDevices env) known := by
  apply Co.stays_get_bind
  intro s hs
  apply stays_tokenOf_bind hlore known hs
  intro hallows
  apply stays_exchange_bind (hallows _ rfl (mem_myapiHeaders s.token s))
  intro reply body more _ _
  apply Co.stays_ret_bind
  intro devices _
  apply Co.stays_modify_bind fun s hs => hlore.devices devices hs
  exact Co.stays_pure _

theorem stays_getLocations : Co.Stays lore (getLocations env) known := by
  apply Co.stays_get_bind
  intro s hs
  split
  · exact Co.stays_throw _
  · apply stays_tokenOf_bind hlore known hs
    intro hallows
    apply stays_exchange_bind (hallows _ rfl (mem_myapiHeaders s.token s))
    intro reply body more _ _
    exact Co.stays_ret _

theorem stays_mode {α : Type} (request : ClientState → List (String × Json) → HttpRequest)
    (hhost : ∀ s headers, (request s headers).host = .myapi)
    (hheaders : ∀ s headers, (request s headers).headers = headers)
    (read : Json → Except Exc α) :
    Co.Stays lore (do
      let s ← get
      let token ← Co.ret (tokenOf s)
      let headers ← Co.ret (v3ModeHeaders token s)
      let (_, body) ← exchange env (request s headers)
      Co.ret (read body)) known := by
  apply Co.stays_get_bind
  intro s hs
  apply stays_tokenOf_bind hlore known hs
  intro hallows
  apply Co.stays_ret_bind
  intro headers hv3
  apply stays_exchange_bind
  · apply hallows _ (hhost s headers)
    rw [hheaders]
    exact mem_v3ModeHeaders hv3
  intro reply body more _ _
  exact Co.stays_ret _

theorem stays_deviceCommand (op deviceId : String) (path : String → String)
    (payload : ClientState → String → Json) :
    Co.Stays lore (deviceCommand env op deviceId path payload) known := by
  apply Co.stays_get_bind
  intro s hs
  apply stays_tokenOf_bind hlore known hs
  intro hallows
  apply Co.stays_ret_bind
  intro target _
  apply Co.stays_ret_bind
  intro headers hheaders
  exact stays_postCommand env known hallows (mem_deviceHeaders hheaders)

theorem stays_baseCommand (op baseId : String) (payload : ClientState → Json) :
    Co.Stays lore (baseCommand env op baseId payload) known := by
  apply Co.stays_get_bind
  intro s hs
  apply stays_tokenOf_bind hlore known hs
  intro hallows
  apply Co.stays_ret_bind
  intro headers hheaders
  exact stays_postCommand env known hallows (mem_deviceHeaders hheaders)

theorem stays_startStream (deviceId : String) :
    Co.Stays lore (startStream env deviceId) known := by
  apply Co.stays_get_bind
  intro s hs
  apply stays_tokenOf_bind hlore known hs
  intro hallows
  apply Co.stays_ret_bind
  intro headers hheaders
  apply Co.stays_ret_bind
  intro target _
  apply stays_exchange_bind (hallows _ rfl (mem_deviceHeadersMobile hheaders))
  intro reply body more _ _
  exact Co.stays_ret _

end Myapi

/-- The methods that talk to ocapi. -/
def Method.logsIn : Method → Bool
  | .login | .startMfa _ | .tryFinishAuth _ _ => true
  | _ => false

theorem stays_perform {κ : Type} [Preorder κ] {lore : ClientLore κ} (hlore : AllowsMyapi lore)
    (env : ClientEnv) {method : Method} (hmethod : method.logsIn = false) (known : κ) :
    Co.Stays lore (perform env method) known := by
  cases method with
  | login => cases hmethod
  | startMfa factor => cases hmethod
  | tryFinishAuth factorAuthCode otp => cases hmethod
  | establishSession => exact stays_establishSession hlore env known
  | getDevices => exact stays_discard (stays_getDevices hlore env known)
  | getLocations => exact stays_discard (stays_getLocations hlore env known)
  | getActiveMode locationId =>
    apply stays_discard
    exact stays_mode hlore env known _ (fun _ _ => rfl) (fun _ _ => rfl) (readActiveMode env)
  | getCustomModes locationId =>
    apply stays_discard
    exact stays_mode hlore env known _ (fun _ _ => rfl) (fun _ _ => rfl) (readCustomModes env)
  | setActiveMode locationId mode revision custom =>
    apply stays_discard
    exact stays_mode hlore env known _ (fun _ _ => rfl) (fun _ _ => rfl) (readSetMode env)
  | startStream deviceId => exact stays_discard (stays_startStream hlore env known deviceId)
  | requestSnapshot deviceId => exact stays_deviceCommand hlore env known _ _ _ _
  | setSpotlight deviceId on intensity => exact stays_deviceCommand hlore env known _ _ _ _
  | setPrivacy deviceId active => exact stays_deviceCommand hlore env known _ _ _ _
  | setSiren deviceId on => exact stays_deviceCommand hlore env known _ _ _ _
  | registerEventSubscription baseId => exact stays_baseCommand hlore env known _ _ _
  | requestDeviceStates baseId => exact stays_baseCommand hlore env known _ _ _

end Eisenberg.Client
