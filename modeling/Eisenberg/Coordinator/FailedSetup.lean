import Eisenberg.Coordinator.Setup

/-!
# What a failed setup leaves behind

`async_setup_entry` has no clean-up of its own. Home Assistant runs the coordinator's
`async_shutdown` after some exceptions of a setup and not after others.
-/

namespace Eisenberg.Coordinator

open Framework

/-! ## The entry and the shutdown -/

/-- Set up Eisenberg from a config entry. -/
def asyncSetupEntry (env : SetupEnv) : Setup Bool := do
  asyncSetup env
  Co.await SetupRequest.firstRefresh
  Co.await SetupRequest.forwardEntrySetups
  return true

/-- What is held is closed, and then forgotten. -/
def release (held : SetupState → Bool) (close : Setup Unit) (forget : SetupState → SetupState) :
    Setup Unit := do
  if held (← get) then
    close
    modify forget

/-- The reconnect task is cancelled and waited for. -/
def releaseReconnectTask : Setup Unit :=
  release (fun s => s.reconnectTask.isSome)
    (tryCatch (Co.await SetupRequest.joinReconnect)
      fun err => if err = .cancelledError then pure () else throw err)
    fun s => { s with reconnectTask := none }

def releaseMqtt : Setup Unit :=
  release (fun s => s.mqtt) (Co.await SetupRequest.disconnect) fun s => { s with mqtt := false }

def releaseSse : Setup Unit :=
  release (fun s => s.sse) (Co.await SetupRequest.stopSse) fun s => { s with sse := false }

def releaseHttpSession : Setup Unit :=
  release (fun s => s.httpSession) (Co.await SetupRequest.closeSession)
    fun s => { s with httpSession := false }

/-- Clean shutdown. -/
def asyncShutdown : Setup Unit := do
  releaseReconnectTask
  releaseMqtt
  releaseSse
  releaseHttpSession

/-- What Home Assistant does about a setup that raised: `hooked` tells after which exceptions it
runs the shutdown that the coordinator has registered for unloading. -/
def cleanUp (hooked : Exc → Bool) (err : Exc) : Setup Unit :=
  if hooked err then asyncShutdown else pure ()

/-- Nothing is open or running. -/
structure Released (s : SetupState) : Prop where
  httpSession : s.httpSession = false
  mqtt : s.mqtt = false
  sse : s.sse = false
  reconnectTask : s.reconnectTask ≠ some .running

/-! ## The session -/

/-- An HTTP session that is there stays. -/
def KeepsSession (s t : CoordinatorState) : Prop := s.httpSession = true → t.httpSession = true

theorem keepsSession_refl (s : CoordinatorState) : KeepsSession s s := fun h => h

theorem keepsSession_trans (s t u : CoordinatorState) (hst : KeepsSession s t)
    (htu : KeepsSession t u) : KeepsSession s u :=
  fun h => htu (hst h)

section Session

variable {A : (i : Request ArloRequest) → Except Exc (ArloReply i) → Prop}
  {E : CoordinatorState → CoordinatorState → Prop}

theorem loginSilent_keepsSession (hE : ∀ s t, E s t → KeepsSession s t) :
    Co.Moves A E KeepsSession loginSilent := by
  refine Co.Moves.bind keepsSession_trans (Co.moves_await hE _) fun cookieJar => ?_
  refine Co.Moves.bind keepsSession_trans (Co.moves_modify fun s h => h) fun _ => ?_
  apply Co.moves_modify
  intro s hsession
  obtain ⟨cookies, hsaved⟩ := saveCookies_frame cookieJar s
  rw [hsaved]
  exact hsession

theorem logged_keepsSession {c : ArloAsync Unit} (h : Co.Moves A E KeepsSession c) :
    Co.Moves A E KeepsSession (logged c) := by
  refine Co.Moves.tryCatch keepsSession_trans h fun err => ?_
  split
  · exact Co.moves_ret keepsSession_refl _
  · exact Co.moves_ret keepsSession_refl _

theorem rest_keepsSession (hE : ∀ s t, E s t → KeepsSession s t) (method : Client.Method) :
    Co.Moves A E KeepsSession (rest method) :=
  Co.moves_await hE _

theorem bringUpEach_keepsSession (hE : ∀ s t, E s t → KeepsSession s t) (ids : List String) :
    Co.Moves A E KeepsSession (bringUpEach ids) := by
  induction ids with
  | nil => exact Co.moves_ret keepsSession_refl _
  | cons baseId ids ih =>
    refine Co.Moves.bind keepsSession_trans ?_ fun _ => ih
    refine Co.Moves.bind keepsSession_trans ?_ fun registered => ?_
    · refine Co.Moves.tryCatch keepsSession_trans ?_ fun err => ?_
      · exact Co.Moves.bind keepsSession_trans (rest_keepsSession hE _) fun _ =>
          Co.moves_ret keepsSession_refl _
      · split
        · exact Co.moves_ret keepsSession_refl _
        · exact Co.moves_ret keepsSession_refl _
    · split
      · exact logged_keepsSession (rest_keepsSession hE _)
      · exact Co.moves_ret keepsSession_refl _

theorem bringUpBaseStations_keepsSession (hE : ∀ s t, E s t → KeepsSession s t) (now : Nat) :
    Co.Moves A E KeepsSession (bringUpBaseStations now) := by
  refine Co.Moves.bind keepsSession_trans (Co.moves_modify fun s h => h) fun _ => ?_
  exact Co.moves_get_bind fun s => bringUpEach_keepsSession hE _

theorem refreshDevices_keepsSession (hE : ∀ s t, E s t → KeepsSession s t) :
    Co.Moves A E KeepsSession refreshDevices :=
  logged_keepsSession (Co.Moves.bind keepsSession_trans (rest_keepsSession hE _) fun _ =>
    Co.moves_ret keepsSession_refl _)

theorem ensureMqtt_keepsSession {B : (i : TickRequest) → Except Exc (TickReply i) → Prop}
    (hE : ∀ s t, E s t → KeepsSession s t) : Co.Moves B E KeepsSession ensureMqtt := by
  have hret : ∀ {α : Type} (result : Except Exc α),
      Co.Moves B E KeepsSession (.ret result : Tick α) := Co.moves_ret keepsSession_refl
  refine Co.Moves.bind keepsSession_trans (Co.moves_await hE _) fun view => ?_
  split
  · exact hret _
  · split
    · refine Co.Moves.bind keepsSession_trans ?_ fun connected => ?_
      · refine Co.Moves.tryCatch keepsSession_trans ?_ fun err => ?_
        · exact Co.Moves.bind keepsSession_trans (Co.moves_await hE _) fun _ => hret _
        · split
          · exact hret _
          · exact hret _
      · split
        · refine Co.Moves.bind keepsSession_trans ?_ fun _ => hret _
          refine Co.Moves.tryCatch keepsSession_trans (Co.moves_await hE _) fun err => ?_
          split
          · exact hret _
          · exact hret _
        · exact hret _
    · exact hret _

end Session

section Attempt

variable {A : (i : SetupRequest) → Except Exc (SetupReply i) → Prop}
  {E : SetupState → SetupState → Prop} {env : SetupEnv}

/-- The HTTP session of the coordinator that is set up. -/
abbrev SetupKeepsSession (s t : SetupState) : Prop :=
  KeepsSession s.toCoordinatorState t.toCoordinatorState

theorem setup_trans (s t u : SetupState) (hst : SetupKeepsSession s t)
    (htu : SetupKeepsSession t u) : SetupKeepsSession s u :=
  fun h => htu (hst h)

theorem setup_ret {α : Type} (result : Except Exc α) :
    Co.Moves A E SetupKeepsSession (.ret result : Setup α) :=
  Co.moves_ret (fun _ h => h) result

theorem setup_ofTick {α : Type} {c : Tick α}
    (h : Co.Moves (TickPart A) (Meanwhile E) KeepsSession c) :
    Co.Moves A E SetupKeepsSession (ofTick c) := by
  intro s calls t r hran
  obtain ⟨asked, htick⟩ := ran_ofTick hran
  exact h _ asked _ r htick

theorem setup_ofArlo {α : Type} {c : ArloAsync α}
    (h : Co.Moves (ArloPart A) (Meanwhile E) KeepsSession c) :
    Co.Moves A E SetupKeepsSession (ofArlo c) := by
  intro s calls t r hran
  obtain ⟨asked, harlo⟩ := ran_ofArlo hran
  exact h _ asked _ r harlo

theorem meanwhile_keepsSession (hE : ∀ s t, E s t → SetupKeepsSession s t) :
    ∀ s t, Meanwhile E s t → KeepsSession s t := by
  rintro s t ⟨s', t', h, rfl, rfl⟩
  exact hE s' t' h

theorem orLogged_keepsSession {α : Type} {default : α} {c : Setup α}
    (h : Co.Moves A E SetupKeepsSession c) :
    Co.Moves A E SetupKeepsSession (orLogged default c) := by
  refine Co.Moves.tryCatch setup_trans h fun err => ?_
  split
  · exact setup_ret _
  · exact setup_ret _

theorem setupLogin_keepsSession (hE : ∀ s t, E s t → SetupKeepsSession s t) :
    Co.Moves A E SetupKeepsSession setupLogin := by
  have hsilent := setup_ofArlo (A := A) (loginSilent_keepsSession (meanwhile_keepsSession hE))
  refine Co.Moves.tryCatch setup_trans hsilent fun err => ?_
  split
  · exact setup_ret _
  · split
    · exact setup_ret _
    · split
      · exact setup_ret _
      · exact setup_ret _

theorem startEventStream_keepsSession (hE : ∀ s t, E s t → SetupKeepsSession s t) :
    Co.Moves A E SetupKeepsSession (startEventStream env) := by
  have hmeanwhile := meanwhile_keepsSession hE
  refine Co.moves_get_bind fun s => ?_
  split
  · refine Co.Moves.bind setup_trans (setup_ofTick (ensureMqtt_keepsSession hmeanwhile))
      fun up => ?_
    split
    · refine Co.Moves.bind setup_trans (Co.moves_await hE _) fun now => ?_
      have hbringUp := setup_ofArlo (A := A) (bringUpBaseStations_keepsSession hmeanwhile now)
      refine Co.Moves.bind setup_trans hbringUp fun _ => Co.moves_get_bind fun t => ?_
      split
      · exact setup_ofArlo (refreshDevices_keepsSession hmeanwhile)
      · exact setup_ret _
    · exact setup_ret _
  · exact setup_ret _

theorem discoverEach_keepsSession (hE : ∀ s t, E s t → SetupKeepsSession s t)
    (infos : List Client.LocationInfo) :
    Co.Moves A E SetupKeepsSession (discoverEach infos) := by
  induction infos with
  | nil => exact setup_ret _
  | cons info infos ih =>
    refine Co.Moves.bind setup_trans (orLogged_keepsSession ?_) fun location => ?_
    · exact Co.Moves.bind setup_trans
        (setup_ofArlo (rest_keepsSession (meanwhile_keepsSession hE) _)) fun _ => setup_ret _
    · refine Co.Moves.bind setup_trans (orLogged_keepsSession ?_) fun location => ?_
      · exact Co.Moves.bind setup_trans (Co.moves_await hE _) fun _ => setup_ret _
      · exact Co.Moves.bind setup_trans (Co.moves_modify fun s h => h) fun _ => ih

theorem discoverLocations_keepsSession (hE : ∀ s t, E s t → SetupKeepsSession s t) :
    Co.Moves A E SetupKeepsSession discoverLocations := by
  apply orLogged_keepsSession
  refine Co.Moves.bind setup_trans (Co.moves_modify fun s h => h) fun _ => ?_
  refine Co.Moves.bind setup_trans (Co.moves_await hE _) fun infos => ?_
  exact Co.moves_get_bind fun s => discoverEach_keepsSession hE _

theorem requestSnapshotEach_keepsSession (hE : ∀ s t, E s t → SetupKeepsSession s t)
    (devices : List DeviceInfo) :
    Co.Moves A E SetupKeepsSession (requestSnapshotEach devices) := by
  induction devices with
  | nil => exact setup_ret _
  | cons device devices ih =>
    refine Co.Moves.bind setup_trans (Co.moves_get_bind fun s => ?_) fun _ => ih
    split
    · exact setup_ret _
    · split
      · exact setup_ret _
      · exact orLogged_keepsSession
          (setup_ofArlo (rest_keepsSession (meanwhile_keepsSession hE) _))

theorem setUpDevices_keepsSession (hE : ∀ s t, E s t → SetupKeepsSession s t)
    (devices : List DeviceInfo) :
    Co.Moves A E SetupKeepsSession (setUpDevices env devices) := by
  have hseed : Co.Moves A E SetupKeepsSession (seedImageCacheFromDisk env) := by
    refine Co.moves_get_bind fun s => ?_
    split
    · exact Co.moves_await hE _
    · exact setup_ret _
  have hprune : Co.Moves A E SetupKeepsSession (pruneOldMedia env) := by
    unfold pruneOldMedia
    split
    · exact Co.Moves.bind setup_trans (Co.moves_await hE _) fun _ => setup_ret _
    · exact setup_ret _
  have hsnapshots : Co.Moves A E SetupKeepsSession requestInitialSnapshots :=
    Co.moves_get_bind fun s => requestSnapshotEach_keepsSession hE _
  refine Co.Moves.bind setup_trans (Co.moves_modify fun s h => h) fun _ => ?_
  refine Co.Moves.bind setup_trans (startEventStream_keepsSession hE) fun _ => ?_
  refine Co.Moves.bind setup_trans (discoverLocations_keepsSession hE) fun _ => ?_
  refine Co.Moves.bind setup_trans hsnapshots fun _ => ?_
  exact Co.Moves.bind setup_trans hseed fun _ => hprune

/-- Once the cookies are restored there is an HTTP session, whatever the setup comes to. -/
theorem asyncSetupEntry_session (hE : ∀ s t, E s t → SetupKeepsSession s t) {s t : SetupState}
    {calls : List SetupRequest} {r : Except Exc Bool}
    (hcookies : Returns (restoreCookies env (s.trustCookies.getD [])))
    (hran : Co.Ran A E s (asyncSetupEntry env) calls t r) : t.httpSession = true := by
  obtain ⟨restored, hrestored⟩ := returns_iff.mp hcookies
  have hsetup : ∀ {t : SetupState} {calls : List SetupRequest} {r : Except Exc Unit},
      Co.Ran A E s (asyncSetup env) calls t r → t.httpSession = true := by
    intro t calls r h
    rw [asyncSetup, Co.ran_get_bind_iff] at h
    simp only [hrestored] at h
    rcases Co.ran_bind_iff.mp h with ⟨_, s₁, _, calls₁, hopen, hrest, -⟩ | ⟨err, hopen, -⟩
    · obtain ⟨-, rfl, -⟩ := Co.ran_modify_iff.mp hopen
      have hmoves : Co.Moves A E SetupKeepsSession (do
          setupLogin
          let devices ← Co.await SetupRequest.getDevices
          setUpDevices env devices : Setup Unit) := by
        refine Co.Moves.bind setup_trans (setupLogin_keepsSession hE) fun _ => ?_
        exact Co.Moves.bind setup_trans (Co.moves_await hE _) fun devices =>
          setUpDevices_keepsSession hE devices
      exact hmoves _ calls₁ t r hrest rfl
    · obtain ⟨-, rfl, -⟩ := Co.ran_modify_iff.mp hopen
      rfl
  rcases Co.ran_bind_iff.mp hran with ⟨_, s₁, _, calls₁, hfirst, hrest, -⟩ | ⟨err, hfirst, -⟩
  · have hmoves : Co.Moves A E SetupKeepsSession (do
        Co.await SetupRequest.firstRefresh
        Co.await SetupRequest.forwardEntrySetups
        return true : Setup Bool) := by
      refine Co.Moves.bind setup_trans (Co.moves_await hE _) fun _ => ?_
      exact Co.Moves.bind setup_trans (Co.moves_await hE _) fun _ => setup_ret _
    exact hmoves _ calls₁ t r hrest (hsetup hfirst)
  · exact hsetup hfirst

theorem asyncSetupEntry_unopened {s t : SetupState} {calls : List SetupRequest}
    {r : Except Exc Bool} (hcookies : ¬ Returns (restoreCookies env (s.trustCookies.getD [])))
    (hran : Co.Ran A E s (asyncSetupEntry env) calls t r) : t = s := by
  have hsetup : ∀ {t : SetupState} {calls : List SetupRequest} {r : Except Exc Unit},
      Co.Ran A E s (asyncSetup env) calls t r → t = s ∧ ∃ err, r = .error err := by
    intro t calls r h
    rw [asyncSetup, Co.ran_get_bind_iff] at h
    cases hrestored : restoreCookies env (s.trustCookies.getD []) with
    | ok restored => exact absurd (hrestored ▸ trivial) hcookies
    | error err =>
      simp only [hrestored] at h
      obtain ⟨-, rfl, rfl⟩ := Co.ran_throw_iff.mp h
      exact ⟨rfl, err, rfl⟩
  rcases Co.ran_bind_iff.mp hran with ⟨_, s₁, _, calls₁, hfirst, -, -⟩ | ⟨err, hfirst, -⟩
  · obtain ⟨-, err, heq⟩ := hsetup hfirst
    cases heq
  · exact (hsetup hfirst).1

end Attempt

/-! ## The clean-up -/

/-- What the other tasks do while the shutdown waits: they open nothing, and leave the session to
it. -/
structure OpensNothing (s t : SetupState) : Prop where
  httpSession : t.httpSession = s.httpSession
  mqtt : t.mqtt = true → s.mqtt = true
  sse : t.sse = true → s.sse = true
  reconnectTask : t.reconnectTask = some .running → s.reconnectTask = some .running

/-- What is open was open before. -/
structure Shrinks (s t : SetupState) : Prop where
  mqtt : t.mqtt = true → s.mqtt = true
  sse : t.sse = true → s.sse = true
  reconnectTask : t.reconnectTask = some .running → s.reconnectTask = some .running

theorem shrinks_trans (s t u : SetupState) (hst : Shrinks s t) (htu : Shrinks t u) :
    Shrinks s u where
  mqtt h := hst.mqtt (htu.mqtt h)
  sse h := hst.sse (htu.sse h)
  reconnectTask h := hst.reconnectTask (htu.reconnectTask h)

theorem OpensNothing.shrinks (s t : SetupState) (h : OpensNothing s t) : Shrinks s t :=
  ⟨h.mqtt, h.sse, h.reconnectTask⟩

theorem OpensNothing.keepsSession (s t : SetupState) (h : OpensNothing s t) :
    SetupKeepsSession s t :=
  fun hs => h.httpSession.trans hs

section Shutdown

variable {A : (i : SetupRequest) → Except Exc (SetupReply i) → Prop}
  {E R : SetupState → SetupState → Prop} {s t : SetupState} {calls : List SetupRequest}

theorem release_moves (hrefl : ∀ s, R s s) (htrans : ∀ s t u, R s t → R t u → R s u)
    {held : SetupState → Bool} {close : Setup Unit} {forget : SetupState → SetupState}
    (hclose : Co.Moves A E R close) (hforget : ∀ s, R s (forget s)) :
    Co.Moves A E R (release held close forget) := by
  refine Co.moves_get_bind fun s => ?_
  split
  · exact Co.Moves.bind htrans hclose fun _ => Co.moves_modify hforget
  · exact Co.moves_ret hrefl _

/-- After a release that returns nothing is held: there was nothing, or it is forgotten. -/
theorem release_returned {held : SetupState → Bool} {close : Setup Unit}
    {forget : SetupState → SetupState}
    (hran : Co.Ran A E s (release held close forget) calls t (.ok ())) :
    held t = false ∨ ∃ u, t = forget u := by
  rw [release, Co.ran_get_bind_iff] at hran
  split at hran
  · rcases Co.ran_bind_iff.mp hran with ⟨_, u, _, _, -, hforget, -⟩ | ⟨err, -, heq⟩
    · obtain ⟨-, rfl, -⟩ := Co.ran_modify_iff.mp hforget
      exact Or.inr ⟨u, rfl⟩
    · cases heq
  next hheld =>
    obtain ⟨-, rfl, -⟩ := Co.ran_pure_iff.mp hran
    exact Or.inl (by simpa using hheld)

theorem joinReconnect_moves (hrefl : ∀ s, R s s) (htrans : ∀ s t u, R s t → R t u → R s u)
    (hE : ∀ s t, E s t → R s t) :
    Co.Moves A E R (tryCatch (Co.await SetupRequest.joinReconnect)
      fun err => if err = .cancelledError then pure () else throw err : Setup Unit) := by
  refine Co.Moves.tryCatch htrans (Co.moves_await hE _) fun err => ?_
  split
  · exact Co.moves_ret hrefl _
  · exact Co.moves_ret hrefl _

/-- A shutdown that returns has released everything. -/
theorem asyncShutdown_released
    (hran : Co.Ran A OpensNothing s asyncShutdown calls t (.ok ())) : Released t := by
  have hrefl : ∀ s, Shrinks s s := fun s => ⟨fun h => h, fun h => h, fun h => h⟩
  have hmqtt : Co.Moves A OpensNothing Shrinks releaseMqtt :=
    release_moves hrefl shrinks_trans (Co.moves_await OpensNothing.shrinks _)
      fun s => ⟨fun h => Bool.noConfusion h, fun h => h, fun h => h⟩
  have hsse : Co.Moves A OpensNothing Shrinks releaseSse :=
    release_moves hrefl shrinks_trans (Co.moves_await OpensNothing.shrinks _)
      fun s => ⟨fun h => h, fun h => Bool.noConfusion h, fun h => h⟩
  have hsession : Co.Moves A OpensNothing Shrinks releaseHttpSession :=
    release_moves hrefl shrinks_trans (Co.moves_await OpensNothing.shrinks _)
      fun s => ⟨fun h => h, fun h => h, fun h => h⟩
  rcases Co.ran_bind_iff.mp hran with ⟨_, s₁, _, _, h₁, hran, -⟩ | ⟨_, _, heq⟩
  · rcases Co.ran_bind_iff.mp hran with ⟨_, s₂, _, _, h₂, hran, -⟩ | ⟨_, _, heq⟩
    · rcases Co.ran_bind_iff.mp hran with ⟨_, s₃, _, _, h₃, h₄, -⟩ | ⟨_, _, heq⟩
      · have h₂₃ := hsse _ _ _ _ h₃
        have h₃₄ := hsession _ _ _ _ h₄
        have hreconnect : s₁.reconnectTask ≠ some .running := by
          rcases release_returned h₁ with hnone | ⟨u, rfl⟩
          · intro h
            simp [h] at hnone
          · simp
        have hnoMqtt : s₂.mqtt = false := by
          rcases release_returned h₂ with hnone | ⟨u, rfl⟩
          · exact hnone
          · rfl
        have hnoSse : s₃.sse = false := by
          rcases release_returned h₃ with hnone | ⟨u, rfl⟩
          · exact hnone
          · rfl
        refine ⟨?_, ?_, ?_, ?_⟩
        · rcases release_returned h₄ with hnone | ⟨u, rfl⟩
          · exact hnone
          · rfl
        · exact Bool.eq_false_iff.mpr fun h =>
            Bool.eq_false_iff.mp hnoMqtt (h₂₃.mqtt (h₃₄.mqtt h))
        · exact Bool.eq_false_iff.mpr fun h => Bool.eq_false_iff.mp hnoSse (h₃₄.sse h)
        · intro h
          have h₁₂ := hmqtt _ _ _ _ h₂
          exact hreconnect (h₁₂.reconnectTask (h₂₃.reconnectTask (h₃₄.reconnectTask h)))
      · cases heq
    · cases heq
  · cases heq

/-- A shutdown that raises has not closed the session. -/
theorem asyncShutdown_unclosed {err : Exc} (hs : s.httpSession = true)
    (hran : Co.Ran A OpensNothing s asyncShutdown calls t (.error err)) :
    t.httpSession = true := by
  have hrefl : ∀ s : SetupState, SetupKeepsSession s s := fun _ h => h
  have hawait : ∀ i, Co.Moves A OpensNothing SetupKeepsSession (Co.await i) :=
    fun i => Co.moves_await OpensNothing.keepsSession i
  have hreconnect : Co.Moves A OpensNothing SetupKeepsSession releaseReconnectTask :=
    release_moves hrefl setup_trans
      (joinReconnect_moves hrefl setup_trans OpensNothing.keepsSession) fun _ h => h
  have hmqtt : Co.Moves A OpensNothing SetupKeepsSession releaseMqtt :=
    release_moves hrefl setup_trans (hawait _) fun _ h => h
  have hsse : Co.Moves A OpensNothing SetupKeepsSession releaseSse :=
    release_moves hrefl setup_trans (hawait _) fun _ h => h
  have hclose : ∀ {s t : SetupState} {calls : List SetupRequest},
      Co.Ran A OpensNothing s releaseHttpSession calls t (.error err) →
        SetupKeepsSession s t := by
    intro s t calls h
    rw [releaseHttpSession, release, Co.ran_get_bind_iff] at h
    split at h
    · rcases Co.ran_bind_iff.mp h with ⟨_, u, _, _, -, hforget, -⟩ | ⟨err', hraised, -⟩
      · obtain ⟨-, -, heq⟩ := Co.ran_modify_iff.mp hforget
        cases heq
      · exact hawait _ _ _ _ _ hraised
    · obtain ⟨-, -, heq⟩ := Co.ran_pure_iff.mp h
      cases heq
  rcases Co.ran_bind_iff.mp hran with ⟨_, s₁, _, _, h₁, hran, -⟩ | ⟨_, h₁, -⟩
  · rcases Co.ran_bind_iff.mp hran with ⟨_, s₂, _, _, h₂, hran, -⟩ | ⟨_, h₂, -⟩
    · rcases Co.ran_bind_iff.mp hran with ⟨_, s₃, _, _, h₃, h₄, -⟩ | ⟨_, h₃, -⟩
      · exact hclose h₄ (hsse _ _ _ _ h₃ (hmqtt _ _ _ _ h₂ (hreconnect _ _ _ _ h₁ hs)))
      · exact hsse _ _ _ _ h₃ (hmqtt _ _ _ _ h₂ (hreconnect _ _ _ _ h₁ hs))
    · exact hmqtt _ _ _ _ h₂ (hreconnect _ _ _ _ h₁ hs)
  · exact hreconnect _ _ _ _ h₁ hs

end Shutdown

theorem asyncShutdown_new {A : (i : SetupRequest) → Except Exc (SetupReply i) → Prop}
    {E : SetupState → SetupState → Prop} {trustCookies : Option (List Cookie)} {t : SetupState}
    {calls : List SetupRequest} {r : Except Exc Unit}
    (hran : Co.Ran A E (newCoordinator trustCookies) asyncShutdown calls t r) :
    t = newCoordinator trustCookies := by
  cases hran with
  | get h₁ =>
    cases h₁ with
    | get h₂ =>
      cases h₂ with
      | get h₃ =>
        cases h₃ with
        | get h₄ =>
          cases h₄
          rfl

/-- A setup attempt raises, and Home Assistant does what it does then: nothing is left open if and
only if the cookies were already refused, or it has run the shutdown and the shutdown returned. -/
theorem failed_setup_released_iff {A : (i : SetupRequest) → Except Exc (SetupReply i) → Prop}
    {E : SetupState → SetupState → Prop} (hE : ∀ s t, E s t → SetupKeepsSession s t)
    {env : SetupEnv} {hooked : Exc → Bool} {trustCookies : Option (List Cookie)}
    {u t : SetupState} {err : Exc} {calls later : List SetupRequest} {r : Except Exc Unit}
    (hran : Co.Ran A E (newCoordinator trustCookies) (asyncSetupEntry env) calls u (.error err))
    (hafter : Co.Ran A OpensNothing u (cleanUp hooked err) later t r) :
    Released t ↔
      ¬ Returns (restoreCookies env (trustCookies.getD [])) ∨ (hooked err = true ∧ r = .ok ()) := by
  by_cases hcookies : Returns (restoreCookies env (trustCookies.getD []))
  · have hsession : u.httpSession = true := asyncSetupEntry_session hE hcookies hran
    simp only [hcookies, not_true, false_or]
    rw [cleanUp] at hafter
    split at hafter
    next hhooked =>
      cases r with
      | ok u => simpa [hhooked] using asyncShutdown_released hafter
      | error err' =>
        have hopen := asyncShutdown_unclosed hsession hafter
        constructor
        · intro h
          exact absurd h.httpSession (by simp [hopen])
        · rintro ⟨-, heq⟩
          cases heq
    next hunhooked =>
      obtain ⟨-, rfl, -⟩ := Co.ran_pure_iff.mp hafter
      constructor
      · intro h
        exact absurd h.httpSession (by simp [hsession])
      · rintro ⟨hhooked, -⟩
        exact absurd hhooked hunhooked
  · have hsame : u = newCoordinator trustCookies := asyncSetupEntry_unopened hcookies hran
    subst hsame
    have hrest : t = newCoordinator trustCookies := by
      rw [cleanUp] at hafter
      split at hafter
      · exact asyncShutdown_new hafter
      · exact (Co.ran_pure_iff.mp hafter).2.1
    subst hrest
    have hreleased : Released (newCoordinator trustCookies) :=
      ⟨rfl, rfl, rfl, by simp [newCoordinator]⟩
    simp [hcookies, hreleased]

/-! ### Two attempts that meet a block page -/

/-- Home Assistant shuts the coordinator down after its own config entry exceptions. -/
def entryException : Exc → Bool
  | .configEntryAuthFailed _ | .configEntryNotReady _ => true
  | _ => false

/-- The device list is blocked: the exception is no config entry exception, and the HTTP session
stays open. -/
theorem blocked_device_list_leaks :
    ∃ calls later u t r, Co.Ran (BlockedAnswers (.ok []) (.error devicesBlocked)) Eq
        (newCoordinator none) (asyncSetupEntry plainEnv) calls u (.error devicesBlocked) ∧
      Co.Ran (BlockedAnswers (.ok []) (.error devicesBlocked)) OpensNothing u
        (cleanUp entryException devicesBlocked) later t r ∧ ¬ Released t := by
  have hlogin : BlockedAnswers (.ok []) (.error devicesBlocked) (.tick (.arlo .login)) (.ok []) :=
    rfl
  have hdevices : BlockedAnswers (.ok []) (.error devicesBlocked) .getDevices
      (.error devicesBlocked) := rfl
  refine ⟨[.tick (.arlo .login), .getDevices], [], { newCoordinator none with httpSession := true },
    { newCoordinator none with httpSession := true }, .ok (), ?_, .ret, ?_⟩
  · refine .get (.get (.set (.call hlogin rfl ?_)))
    refine .get (.get (.set (.get (.get (.set ?_)))))
    exact .call hdevices rfl .ret
  · intro h
    cases h.httpSession

/-- The login is blocked: Home Assistant shuts the coordinator down. -/
theorem blocked_login_released :
    ∃ calls later u t err r, Co.Ran (BlockedAnswers (.error devicesBlocked) (.ok [])) Eq
        (newCoordinator none) (asyncSetupEntry plainEnv) calls u (.error err) ∧
      Co.Ran (BlockedAnswers (.error devicesBlocked) (.ok [])) OpensNothing u
        (cleanUp entryException err) later t r ∧ Released t := by
  have hlogin : BlockedAnswers (.error devicesBlocked) (.ok []) (.tick (.arlo .login))
      (.error devicesBlocked) := rfl
  have hclose : BlockedAnswers (.error devicesBlocked) (.ok []) .closeSession (.ok ()) := trivial
  have hran : Co.Ran (BlockedAnswers (.error devicesBlocked) (.ok [])) Eq (newCoordinator none)
      (asyncSetupEntry plainEnv) [.tick (.arlo .login)]
      { newCoordinator none with httpSession := true }
      (.error (.configEntryNotReady devicesBlocked.str)) :=
    .get (.get (.set (.call hlogin rfl .ret)))
  have hafter : Co.Ran (BlockedAnswers (.error devicesBlocked) (.ok [])) OpensNothing
      { newCoordinator none with httpSession := true }
      (cleanUp entryException (.configEntryNotReady devicesBlocked.str)) [.closeSession]
      (newCoordinator none) (.ok ()) := by
    refine .get (.get (.get (.get ?_)))
    refine .call (u := { newCoordinator none with httpSession := true }) hclose ?_ ?_
    · exact ⟨rfl, fun h => h, fun h => h, fun h => h⟩
    · exact .get (.set .ret)
  refine ⟨_, _, _, _, _, _, hran, hafter, ?_⟩
  have hkept : ∀ s t : SetupState, s = t → SetupKeepsSession s t := fun s t h => h ▸ fun hs => hs
  exact (failed_setup_released_iff hkept hran hafter).mpr
    (Or.inr ⟨rfl, rfl⟩)

end Eisenberg.Coordinator
