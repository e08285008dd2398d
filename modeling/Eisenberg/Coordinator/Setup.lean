import Eisenberg.Client.Models
import Eisenberg.Coordinator.HealthTick

/-!
# Setting up an entry

`async_setup` of the coordinator and `async_setup_entry` around it, down to what each step awaits,
and what a failed attempt leaves behind.
-/

namespace Eisenberg.Coordinator

open Framework

/-! ## The state and the requests -/

inductive TaskPhase where
  | running | done
  deriving DecidableEq, Repr

/-- The coordinator with the handles of what it has opened. `_ensure_mqtt` and the callbacks of its
stream move them while something is awaited. -/
structure SetupState extends CoordinatorState where
  /-- `self._mqtt is not None`. -/
  mqtt : Bool := false
  /-- `self._sse is not None`. -/
  sse : Bool := false
  reconnectTask : Option TaskPhase := none

/-- A coordinator for an entry with these trust cookies: nothing is opened yet. -/
def newCoordinator (trustCookies : Option (List Cookie)) : SetupState where
  httpSession := false
  trustCookies := trustCookies

inductive SetupRequest where
  /-- What a health tick asks for as well. -/
  | tick (i : TickRequest)
  /-- The device list that the setup itself reads. -/
  | getDevices
  | getLocations
  | getCustomModes (locationId : String)
  /-- The executor job of `_seed_image_cache_from_disk`. -/
  | scanArchive
  /-- `async_config_entry_first_refresh` of Home Assistant. -/
  | firstRefresh
  | forwardEntrySetups
  /-- `async_shutdown` waits for the reconnect task that it has cancelled. -/
  | joinReconnect
  | disconnect
  | stopSse
  | closeSession

@[reducible] def SetupReply : SetupRequest → Type
  | .tick i => TickReply i
  | .getDevices => List DeviceInfo
  | .getLocations => List Client.LocationInfo
  | .getCustomModes _ => Dict String (Dict String String)
  | .scanArchive | .firstRefresh | .forwardEntrySetups => Unit
  | .joinReconnect | .disconnect | .stopSse | .closeSession => Unit

abbrev Setup := Co SetupState Exc SetupReply

def SetupState.update (s : CoordinatorState) (t : SetupState) : SetupState :=
  { t with toCoordinatorState := s }

/-- A coroutine of the tick, as part of the setup. -/
def ofTick {α : Type} (c : Tick α) : Setup α :=
  (c.zoom SetupState.toCoordinatorState SetupState.update).relabel SetupRequest.tick fun _ => id

def tickOfArlo {α : Type} (c : ArloAsync α) : Tick α :=
  c.relabel TickRequest.arlo fun _ => id

/-- A coroutine that asks Arlo, as part of the setup. -/
def ofArlo {α : Type} (c : ArloAsync α) : Setup α := ofTick (tickOfArlo c)

/-- `except Exception` around a step, with what stands for its value. -/
def orLogged {α : Type} (default : α) (c : Setup α) : Setup α :=
  tryCatch c fun err => if err.isException then pure default else throw err

/-! ## The steps -/

/-- What the setup reads that is not the coordinator's. -/
structure SetupEnv where
  /-- `URL(text)` of yarl. -/
  parseUrl : String → Except Exc Unit
  /-- `self.client.mqtt_url and self.client.user_id and self.client.token`, after the login. -/
  clientReady : Bool
  /-- `self.media_path is not None`. -/
  mediaPath : Bool

/-- A leading dot of a cookie's domain is dropped. -/
def cookieUrl (cookie : Cookie) : String :=
  let domain := if cookie.domain.startsWith "." then (cookie.domain.drop 1).toString else cookie.domain
  "https://" ++ domain ++ cookie.path

/-- Restore only the browser trust cookies: name and value, under their URL. -/
def restoreCookies (env : SetupEnv) : List Cookie → Except Exc (List (String × String × String))
  | [] => return []
  | cookie :: cookies => do
    if cookie.name.startsWith trustCookiePrefix then
      env.parseUrl (cookieUrl cookie)
      return (cookie.name, cookie.value, cookieUrl cookie) :: (← restoreCookies env cookies)
    else restoreCookies env cookies

/-- The login, with what its exceptions become. -/
def setupLogin : Setup Unit :=
  tryCatch (ofArlo loginSilent) fun err =>
    if err.isMfaRequired then
      throw (.configEntryAuthFailed "Trust cookie expired — re-authenticate to continue")
    else if err.isAuthenticationError || err.isRateLimitedError then
      throw (.configEntryAuthFailed err.str)
    else if err.isTransientAPIError then throw (.configEntryNotReady err.str)
    else throw err

/-- Start MQTT, register with the base stations, and read the device list once more. -/
def startEventStream (env : SetupEnv) : Setup Unit := do
  if env.clientReady && !(← get).devices.isEmpty then
    if ← ofTick ensureMqtt then
      let now ← Co.await (SetupRequest.tick .monotonic)
      ofArlo (bringUpBaseStations now)
      if (← get).devices.any DeviceInfo.isBaseStation then ofArlo refreshDevices
    else throw (.configEntryNotReady "Could not connect to the Arlo event stream")

def claimsADevice (gateways : List String) (info : Client.LocationInfo) : Bool :=
  info.gatewayDeviceIds.any fun gid => gid ∈ gateways || gatewaySuffix gid ∈ gateways

/-- Only the locations that gateway at least one discovered device; all, if none does. -/
def relevantLocations (infos : List Client.LocationInfo) (devices : List DeviceInfo) :
    List Client.LocationInfo :=
  let relevant := infos.filter (claimsADevice (devices.map DeviceInfo.gateway))
  if relevant.isEmpty then infos else relevant

def LocationState.fromInfo (info : Client.LocationInfo) : LocationState where
  locationId := info.locationId
  locationName := info.locationName
  gatewayDeviceIds := info.gatewayDeviceIds

/-- What the answer to GET activeMode says of the location; revision 0 counts as 1. -/
def withActiveMode (location : LocationState) (state : ActiveModeState) : LocationState :=
  let location := location.setRevision (if state.revision = 0 then 1 else state.revision)
  match state.properties with
  | some properties => location.setMode properties.mode properties.custom
  | none => location

def fetchMode (location : LocationState) : Setup LocationState :=
  orLogged location do
    let state ← ofArlo (rest (.getActiveMode location.locationId))
    return withActiveMode location state

/-- Standard modes still work without the custom ones. -/
def fetchCustomModes (location : LocationState) : Setup LocationState :=
  orLogged location do
    let customModes ← Co.await (SetupRequest.getCustomModes location.locationId)
    return { location with customModes := customModes }

def discoverEach : List Client.LocationInfo → Setup Unit
  | [] => return ()
  | info :: infos => do
    let location ← fetchMode (LocationState.fromInfo info)
    let location ← fetchCustomModes location
    modify fun s => { s with locations := s.locations.put location }
    discoverEach infos

/-- Discover the locations with their modes. -/
def discoverLocations : Setup Unit :=
  orLogged () do
    modify fun s => { s with locations := Table.empty }
    let infos ← Co.await SetupRequest.getLocations
    discoverEach (relevantLocations infos (← get).devices)

def CoordinatorState.cameras (s : CoordinatorState) : List DeviceInfo :=
  s.devices.filter fun d => !d.isBaseStation && !d.isSensor

/-- Arlo refuses a snapshot in standby, so only a camera whose location is armed is asked. -/
def requestInitialSnapshot (device : DeviceInfo) : Setup Unit := do
  match modeForDevice device.deviceId (← get).toCoordinatorState with
  | none => return ()
  | some mode =>
    if mode = "" ∨ mode = ArloMode.standby.value then return ()
    else orLogged () (ofArlo (rest (.requestSnapshot device.deviceId)))

def requestSnapshotEach : List DeviceInfo → Setup Unit
  | [] => return ()
  | device :: devices => do
    requestInitialSnapshot device
    requestSnapshotEach devices

/-- Seed the tiles, for cameras only. -/
def requestInitialSnapshots : Setup Unit := do
  requestSnapshotEach (← get).toCoordinatorState.cameras

/-- Load the newest archived picture per device. -/
def seedImageCacheFromDisk (env : SetupEnv) : Setup Unit := do
  if env.mediaPath && !(← get).devices.isEmpty then Co.await SetupRequest.scanArchive

def pruneOldMedia (env : SetupEnv) : Setup Unit := do
  if env.mediaPath then
    let _ ← Co.await (SetupRequest.tick .pruneJob)

/-- What follows the device list. -/
def setUpDevices (env : SetupEnv) (devices : List DeviceInfo) : Setup Unit := do
  modify fun s => { s with devices := devices }
  startEventStream env
  discoverLocations
  requestInitialSnapshots
  seedImageCacheFromDisk env
  pruneOldMedia env

/-- What follows the cookies: the session is there from here on. -/
def openSession (env : SetupEnv) : Setup Unit := do
  modify fun s => { s with httpSession := true }
  setupLogin
  let devices ← Co.await SetupRequest.getDevices
  setUpDevices env devices

/-- Initialize client and MQTT on first refresh. -/
def asyncSetup (env : SetupEnv) : Setup Unit := do
  match restoreCookies env ((← get).trustCookies.getD []) with
  | .error err => throw err
  | .ok _ => openSession env

/-! ## What a blocked setup raises -/

/-- Home Assistant tries this setup again. -/
def NotReady (err : Exc) : Prop := ∃ message, err = .configEntryNotReady message

/-- A block page in front of Arlo. -/
def Blocked (err : Exc) : Prop := err.isTransientAPIError = true

theorem Blocked.ordinary {err : Exc} (h : Blocked err) : err.isException = true := by
  cases err <;> first | rfl | cases h

/-- The answers of a setup of which the login and the device list come back with these, any other
REST request may be blocked, and everything else succeeds. -/
def BlockedAnswers (login : Except Exc (List Cookie)) (deviceList : Except Exc (List DeviceInfo)) :
    (i : SetupRequest) → Except Exc (SetupReply i) → Prop
  | .tick (.arlo .login), r => r = login
  | .tick (.arlo (.client _)), r => Raises Blocked r
  | .getDevices, r => r = deviceList
  | .getLocations, r => Raises Blocked r
  | .getCustomModes _, r => Raises Blocked r
  | .tick .mqttLock, r => Returns r
  | .tick .connect, r => Returns r
  | .tick .syncSse, r => Returns r
  | .tick .pruneJob, r => Returns r
  | .tick .monotonic, r => Returns r
  | .scanArchive, r => Returns r
  | .firstRefresh, r => Returns r
  | .forwardEntrySetups, r => Returns r
  | .joinReconnect, r => Returns r
  | .disconnect, r => Returns r
  | .stopSse, r => Returns r
  | .closeSession, r => Returns r

section Embedded

variable {α : Type} {A : (i : SetupRequest) → Except Exc (SetupReply i) → Prop}
  {E : SetupState → SetupState → Prop} {P : Exc → Prop} {s t : SetupState}
  {calls : List SetupRequest}

/-- The answers a coroutine of the tick gets. -/
abbrev TickPart (A : (i : SetupRequest) → Except Exc (SetupReply i) → Prop) :
    (i : TickRequest) → Except Exc (TickReply i) → Prop :=
  Co.Relabelled SetupRequest.tick (fun _ => id) A

/-- The answers a coroutine that asks Arlo gets. -/
abbrev ArloPart (A : (i : SetupRequest) → Except Exc (SetupReply i) → Prop) :
    (i : Request ArloRequest) → Except Exc (ArloReply i) → Prop :=
  Co.Relabelled TickRequest.arlo (fun _ => id) (TickPart A)

abbrev Meanwhile (E : SetupState → SetupState → Prop) :
    CoordinatorState → CoordinatorState → Prop :=
  Co.Seen SetupState.toCoordinatorState E

theorem answer_tickPart {i : TickRequest} {a : Except Exc (TickReply i)} (h : TickPart A i a) :
    A (.tick i) a := by
  obtain ⟨b, hb, rfl⟩ := h
  cases b with
  | ok b => exact hb
  | error err => exact hb

theorem answer_arloPart {i : Request ArloRequest} {a : Except Exc (ArloReply i)}
    (h : ArloPart A i a) : A (.tick (.arlo i)) a := by
  obtain ⟨b, hb, rfl⟩ := h
  cases b with
  | ok b => exact answer_tickPart hb
  | error err => exact answer_tickPart hb

theorem ran_ofTick {c : Tick α} {r : Except Exc α} (h : Co.Ran A E s (ofTick c) calls t r) :
    ∃ asked, Co.Ran (TickPart A) (Meanwhile E) s.toCoordinatorState c asked
      t.toCoordinatorState r := by
  obtain ⟨asked, hzoom, -⟩ := Co.Ran.relabel h
  exact ⟨asked, Co.Ran.zoom (fun _ _ => rfl) hzoom⟩

theorem ran_ofArlo {c : ArloAsync α} {r : Except Exc α} (h : Co.Ran A E s (ofArlo c) calls t r) :
    ∃ asked, Co.Ran (ArloPart A) (Meanwhile E) s.toCoordinatorState c asked
      t.toCoordinatorState r := by
  obtain ⟨_, htick⟩ := ran_ofTick h
  obtain ⟨asked, harlo, -⟩ := Co.Ran.relabel htick
  exact ⟨asked, harlo⟩

theorem raisesOnly_ofTick {c : Tick α} (h : Co.RaisesOnly (TickPart A) (Meanwhile E) P c) :
    Co.RaisesOnly A E P (ofTick c) := by
  intro s calls t err hran
  obtain ⟨asked, htick⟩ := ran_ofTick hran
  exact h _ asked _ err htick

theorem raisesOnly_ofArlo {c : ArloAsync α} (h : Co.RaisesOnly (ArloPart A) (Meanwhile E) P c) :
    Co.RaisesOnly A E P (ofArlo c) := by
  intro s calls t err hran
  obtain ⟨asked, harlo⟩ := ran_ofArlo hran
  exact h _ asked _ err harlo

theorem orLogged_quiet {default : α} {c : Setup α}
    (h : Co.RaisesOnly A E (fun err => err.isException = true) c) :
    Co.RaisesOnly A E (fun _ => False) (orLogged default c) := by
  refine Co.RaisesOnly.tryCatch h fun err herr => ?_
  rw [if_pos herr]
  exact Co.raisesOnly_pure default

end Embedded

theorem loginSilent_ran {A : (i : Request ArloRequest) → Except Exc (ArloReply i) → Prop}
    {E : CoordinatorState → CoordinatorState → Prop} {s t : CoordinatorState}
    {calls : List (Request ArloRequest)} {r : Except Exc Unit}
    (h : Co.Ran A E s loginSilent calls t r) :
    ∃ login, A .login login ∧ r = login.map fun _ => () := by
  rcases Co.ran_bind_iff.mp h with ⟨first, u, cookieJar, later, hlogin, hsave, -⟩ | ⟨err, hlogin, rfl⟩
  · obtain ⟨-, hA, -⟩ := Co.ran_await_iff.mp hlogin
    have hquiet : Co.RaisesOnly A E (fun _ => False) (do
        modify fun s : CoordinatorState => { s with authIsDead := false }
        modify (saveCookies cookieJar) : ArloAsync Unit) :=
      Co.RaisesOnly.bind (Co.raisesOnly_modify _) fun _ => Co.raisesOnly_modify _
    obtain ⟨_, rfl⟩ := hsave.returns hquiet
    exact ⟨.ok cookieJar, hA, rfl⟩
  · obtain ⟨-, hA, -⟩ := Co.ran_await_iff.mp hlogin
    exact ⟨.error err, hA, rfl⟩

section BlockedSetup

variable {login : Except Exc (List Cookie)} {deviceList : Except Exc (List DeviceInfo)}
  {E : SetupState → SetupState → Prop} {env : SetupEnv}

theorem blocked_restOrdinary : RestOrdinary (ArloPart (BlockedAnswers login deviceList)) := by
  intro method err h
  have hblocked : Blocked err := answer_arloPart h
  exact hblocked.ordinary

theorem blocked_restCall (method : Client.Method) :
    Co.RaisesOnly (BlockedAnswers login deviceList) E (fun err => err.isException = true)
      (ofArlo (rest method)) :=
  raisesOnly_ofArlo (rest_ordinary blocked_restOrdinary method)

theorem blocked_ensureMqtt :
    Co.RaisesOnly (BlockedAnswers login deviceList) E (fun _ => False) (ofTick ensureMqtt) := by
  apply raisesOnly_ofTick
  refine ensureMqtt_raisesNothing (fun err h => ?_) (fun err h => ?_) fun err h => ?_
  · exact answer_tickPart h
  · exact (answer_tickPart h : False).elim
  · exact (answer_tickPart h : False).elim

theorem blocked_startEventStream :
    Co.RaisesOnly (BlockedAnswers login deviceList) E NotReady (startEventStream env) := by
  refine Co.raisesOnly_get_bind fun s => ?_
  split
  · refine Co.RaisesOnly.bind (blocked_ensureMqtt.mono fun _ h => h.elim) fun up => ?_
    cases up with
    | false => exact Co.raisesOnly_throw ⟨_, rfl⟩
    | true =>
      have hclock : ∀ err, ¬ BlockedAnswers login deviceList (.tick .monotonic) (.error err) :=
        fun err h => h
      refine Co.RaisesOnly.bind (Co.raisesOnly_await fun err h => (hclock err h).elim) fun now => ?_
      have hbringUp : Co.RaisesOnly (BlockedAnswers login deviceList) E NotReady
          (ofArlo (bringUpBaseStations now)) := by
        refine (raisesOnly_ofArlo ?_).mono fun _ (h : False) => h.elim
        refine Co.RaisesOnly.bind (Co.raisesOnly_modify _) fun _ => ?_
        exact Co.raisesOnly_get_bind fun t => bringUpEach_quiet blocked_restOrdinary _
      refine Co.RaisesOnly.bind hbringUp fun _ => Co.raisesOnly_get_bind fun t => ?_
      split
      · refine (raisesOnly_ofArlo ?_).mono fun _ (h : False) => h.elim
        apply logged_quiet
        exact Co.RaisesOnly.bind (rest_ordinary blocked_restOrdinary _) fun _ =>
          Co.raisesOnly_pure ()
      · exact Co.raisesOnly_pure ()
  · exact Co.raisesOnly_pure ()

theorem blocked_fetchMode (location : LocationState) :
    Co.RaisesOnly (BlockedAnswers login deviceList) E (fun _ => False) (fetchMode location) :=
  orLogged_quiet (Co.RaisesOnly.bind (blocked_restCall _) fun _ => Co.raisesOnly_pure _)

theorem blocked_fetchCustomModes (location : LocationState) :
    Co.RaisesOnly (BlockedAnswers login deviceList) E (fun _ => False)
      (fetchCustomModes location) := by
  have hread : ∀ err, BlockedAnswers login deviceList (.getCustomModes location.locationId)
      (.error err) → err.isException = true := fun err (h : Blocked err) => h.ordinary
  exact orLogged_quiet (Co.RaisesOnly.bind (Co.raisesOnly_await hread) fun _ =>
    Co.raisesOnly_pure _)

theorem blocked_discoverEach (infos : List Client.LocationInfo) :
    Co.RaisesOnly (BlockedAnswers login deviceList) E (fun _ => False) (discoverEach infos) := by
  induction infos with
  | nil => exact Co.raisesOnly_pure ()
  | cons info infos ih =>
    refine Co.RaisesOnly.bind (blocked_fetchMode _) fun location => ?_
    refine Co.RaisesOnly.bind (blocked_fetchCustomModes location) fun location => ?_
    exact Co.RaisesOnly.bind (Co.raisesOnly_modify _) fun _ => ih

theorem blocked_discoverLocations :
    Co.RaisesOnly (BlockedAnswers login deviceList) E (fun _ => False) discoverLocations := by
  have hread : ∀ err, BlockedAnswers login deviceList .getLocations (.error err) →
      err.isException = true := fun err (h : Blocked err) => h.ordinary
  apply orLogged_quiet
  refine Co.RaisesOnly.bind (Co.raisesOnly_modify _) fun _ => ?_
  refine Co.RaisesOnly.bind (Co.raisesOnly_await hread) fun infos => ?_
  refine Co.raisesOnly_get_bind fun s => ?_
  exact (blocked_discoverEach _).mono fun _ (h : False) => h.elim

theorem blocked_requestSnapshotEach (devices : List DeviceInfo) :
    Co.RaisesOnly (BlockedAnswers login deviceList) E (fun _ => False)
      (requestSnapshotEach devices) := by
  induction devices with
  | nil => exact Co.raisesOnly_pure ()
  | cons device devices ih =>
    refine Co.RaisesOnly.bind (Co.raisesOnly_get_bind fun s => ?_) fun _ => ih
    split
    · exact Co.raisesOnly_pure ()
    · split
      · exact Co.raisesOnly_pure ()
      · exact orLogged_quiet (blocked_restCall _)

/-- Once the device list is there, only the event stream can end the setup. -/
theorem blocked_setUpDevices (devices : List DeviceInfo) :
    Co.RaisesOnly (BlockedAnswers login deviceList) E NotReady (setUpDevices env devices) := by
  have hscan : ∀ err, ¬ BlockedAnswers login deviceList .scanArchive (.error err) :=
    fun err h => h
  have hprune : ∀ err, ¬ BlockedAnswers login deviceList (.tick .pruneJob) (.error err) :=
    fun err h => h
  have hseed : Co.RaisesOnly (BlockedAnswers login deviceList) E NotReady
      (seedImageCacheFromDisk env) := by
    refine Co.raisesOnly_get_bind fun s => ?_
    split
    · exact Co.raisesOnly_await fun err h => (hscan err h).elim
    · exact Co.raisesOnly_pure ()
  have hold : Co.RaisesOnly (BlockedAnswers login deviceList) E NotReady (pruneOldMedia env) := by
    unfold pruneOldMedia
    split
    · exact Co.RaisesOnly.bind (Co.raisesOnly_await fun err h => (hprune err h).elim) fun _ =>
        Co.raisesOnly_pure ()
    · exact Co.raisesOnly_pure ()
  have hsnapshots : Co.RaisesOnly (BlockedAnswers login deviceList) E NotReady
      requestInitialSnapshots :=
    Co.raisesOnly_get_bind fun s =>
      (blocked_requestSnapshotEach _).mono fun _ (h : False) => h.elim
  refine Co.RaisesOnly.bind (Co.raisesOnly_modify _) fun _ => ?_
  refine Co.RaisesOnly.bind blocked_startEventStream fun _ => ?_
  refine Co.RaisesOnly.bind (blocked_discoverLocations.mono fun _ h => h.elim) fun _ => ?_
  refine Co.RaisesOnly.bind hsnapshots fun _ => ?_
  exact Co.RaisesOnly.bind hseed fun _ => hold

theorem blocked_setupLogin (hlogin : Raises Blocked login) {s t : SetupState}
    {calls : List SetupRequest} {r : Except Exc Unit}
    (hran : Co.Ran (BlockedAnswers login deviceList) E s setupLogin calls t r) :
    (Returns r ↔ Returns login) ∧ Raises NotReady r := by
  have hsilent : ∀ {s t : SetupState} {calls : List SetupRequest} {r : Except Exc Unit},
      Co.Ran (BlockedAnswers login deviceList) E s (ofArlo loginSilent) calls t r →
        r = login.map fun _ => () := by
    intro s t calls r h
    obtain ⟨asked, h⟩ := ran_ofArlo h
    obtain ⟨login', hA, rfl⟩ := loginSilent_ran h
    have heq : login' = login := answer_arloPart hA
    rw [heq]
  rcases Co.ran_tryCatch_iff.mp hran with ⟨_, h, rfl⟩ | ⟨earlier, u, err, later, h, hhandler, -⟩
  · cases login with
    | ok cookieJar => simp [Returns]
    | error err => cases hsilent h
  · cases login with
    | ok cookieJar => cases hsilent h
    | error err' =>
      cases hsilent h
      cases err with
      | transientAPIError message =>
        obtain ⟨-, -, rfl⟩ := Co.ran_throw_iff.mp hhandler
        exact ⟨by simp [Returns], ⟨_, rfl⟩⟩
      | _ => cases hlogin

/-- A setup under block pages completes or is tried again, if and only if it is not the device list
after a login that is blocked. -/
theorem blocked_setup_retried_iff {s t : SetupState} {calls : List SetupRequest}
    {r : Except Exc Unit} {restored : List (String × String × String)}
    (hcookies : restoreCookies env (s.trustCookies.getD []) = .ok restored)
    (hlogin : Raises Blocked login) (hdevices : Raises Blocked deviceList)
    (hran : Co.Ran (BlockedAnswers login deviceList) E s (asyncSetup env) calls t r) :
    Raises NotReady r ↔ (Returns login → Returns deviceList) := by
  rw [asyncSetup, Co.ran_get_bind_iff] at hran
  simp only [hcookies] at hran
  rw [openSession] at hran
  rcases Co.ran_bind_iff.mp hran with ⟨_, s₁, _, calls₁, -, hopened, -⟩ | ⟨err, h, -⟩
  · rcases Co.ran_bind_iff.mp hopened with ⟨_, s₂, _, calls₂, hlog, hrest, -⟩ | ⟨err, hlog, rfl⟩
    · have hin : Returns login := (blocked_setupLogin hlogin hlog).1.mp trivial
      simp only [hin, true_implies]
      rcases Co.ran_bind_iff.mp hrest with ⟨_, s₃, devices, calls₃, hlist, hsetup, -⟩ |
        ⟨err, hlist, rfl⟩
      · obtain ⟨-, hA, -⟩ := Co.ran_await_iff.mp hlist
        have hlisted : Except.ok devices = deviceList := hA
        subst hlisted
        cases r with
        | ok u => simp [Returns]
        | error err =>
          have hnotReady := blocked_setUpDevices devices s₃ calls₃ t err hsetup
          simp [Returns, hnotReady]
      · obtain ⟨-, hA, -⟩ := Co.ran_await_iff.mp hlist
        have hlisted : Except.error err = deviceList := hA
        subst hlisted
        have hnot : ¬ NotReady err := by
          rintro ⟨message, rfl⟩
          cases hdevices
        simp [Returns, hnot]
    · obtain ⟨hreturns, hnotReady⟩ := blocked_setupLogin hlogin hlog
      have hout : ¬ Returns login := fun h => hreturns.mpr h
      simp only [hout, false_implies, iff_true]
      exact hnotReady
  · obtain ⟨-, -, heq⟩ := Co.ran_modify_iff.mp h
    cases heq

end BlockedSetup

/-! ### A block page in front of the device list -/

/-- No stream to connect to, and nothing archived. -/
def plainEnv : SetupEnv where
  parseUrl := fun _ => .ok ()
  clientReady := false
  mediaPath := false

def devicesBlocked : Exc :=
  .transientAPIError "GET /hmsweb/v2/users/devices returned 403 text/html, not JSON: '<html>'"

/-- The setup raises the block page itself, which Home Assistant does not retry. -/
theorem blocked_device_list_escapes :
    ∃ calls t r, Co.Ran (BlockedAnswers (.ok []) (.error devicesBlocked)) Eq (newCoordinator none)
      (asyncSetup plainEnv) calls t r ∧ ¬ Raises NotReady r := by
  refine ⟨[.tick (.arlo .login), .getDevices],
    { newCoordinator none with httpSession := true }, .error devicesBlocked, ?_, ?_⟩
  · have hlogin : BlockedAnswers (.ok []) (.error devicesBlocked) (.tick (.arlo .login))
        (.ok []) := rfl
    refine .get (.get (.set ?_))
    refine .call hlogin rfl ?_
    refine .get (.get (.set (.get (.get (.set ?_)))))
    exact .call (i := SetupRequest.getDevices) (a := .error devicesBlocked) rfl rfl .ret
  · rintro ⟨message, h⟩
    cases h

/-- A block page in front of the login is retried. -/
theorem blocked_login_retried :
    ∃ calls t r, Co.Ran (BlockedAnswers (.error devicesBlocked) (.ok [])) Eq (newCoordinator none)
      (asyncSetup plainEnv) calls t r ∧ Raises NotReady r := by
  have hlogin : BlockedAnswers (.error devicesBlocked) (.ok []) (.tick (.arlo .login))
      (.error devicesBlocked) := rfl
  have hran : Co.Ran (BlockedAnswers (.error devicesBlocked) (.ok [])) Eq (newCoordinator none)
      (asyncSetup plainEnv) [.tick (.arlo .login)] { newCoordinator none with httpSession := true }
      (.error (.configEntryNotReady devicesBlocked.str)) :=
    .get (.get (.set (.call hlogin rfl .ret)))
  have hcookies : restoreCookies plainEnv ((newCoordinator none).trustCookies.getD []) = .ok [] := rfl
  have hblocked : Raises Blocked (.error devicesBlocked : Except Exc (List Cookie)) :=
    (rfl : Blocked devicesBlocked)
  have hdevices : Raises Blocked (.ok [] : Except Exc (List DeviceInfo)) := trivial
  exact ⟨_, _, _, hran, (blocked_setup_retried_iff hcookies hblocked hdevices hran).mpr
    fun h => h.elim⟩

end Eisenberg.Coordinator
