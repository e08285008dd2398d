import Eisenberg.Coordinator.ReconnectSafety

/-!
# Shutting down

`async_shutdown` beside the tasks of the reconnect machine. It waits for the cancelled reconnect
task, for the MQTT stream to disconnect, for the SSE supplement to stop and for the HTTP session to
close, in this order and without the lock of `_ensure_mqtt`.
-/

namespace Eisenberg.Coordinator

open Framework

/-- What `async_shutdown` is waiting for. `cancelling` is the wait for a reconnect task that has not
been told of its cancellation yet, `joining` the one for a task that is over. -/
inductive ShutdownPc where
  | idle
  | cancelling (t : TaskId)
  | joining | disconnecting | stoppingSse | closing
  | finished (raised : Bool)
  deriving DecidableEq, Repr

def ShutdownPc.cancels : ShutdownPc → Option TaskId
  | .cancelling t => some t
  | _ => none

/-- The shutdown has looked at the MQTT handle and is not over. -/
def ShutdownPc.givingUp : ShutdownPc → Bool
  | .disconnecting | .stoppingSse | .closing => true
  | _ => false

/-- `handles.sse` is the handle of the SSE supplement, whose task runs until a `stop` of it has
returned. -/
structure ShutdownState where
  handles : MqttState
  /-- `self._http_session is not None`. -/
  session : Bool
  pc : ShutdownPc

namespace MqttState

/-- The task is cancelled: it leaves the sleep, or `_ensure_mqtt`, which gives up the lock and does
not clear the handle. The `stop` of the supplement keeps the cancellation to itself. -/
def cancelTask (s : MqttState) (t : TaskId) : MqttState :=
  match s.tasks t with
  | .asleep _ _ | .ensuring _ _ .wantLock => s.setTask t .done
  | .ensuring _ _ (.connecting n) => (s.setStream n .gone).leave (.reconnect t) true
  | .ensuring _ _ .syncing => { s with sse := false }.leave (.reconnect t) true
  | .unborn | .done => s

/-- `disconnect` cancels the listen loop of the stream, if there is one. -/
def cancelListening (s : MqttState) (n : StreamId) : MqttState :=
  if s.streams n = .listening then s.setStream n .gone else s

end MqttState

namespace ShutdownState

def init (session : Bool) : ShutdownState := ⟨.init, session, .idle⟩

def closeSession (s : ShutdownState) : ShutdownState :=
  if s.session then { s with pc := .closing } else { s with pc := .finished false }

def stopSse (s : ShutdownState) : ShutdownState :=
  if s.handles.sse then { s with pc := .stoppingSse } else s.closeSession

def disconnect (s : ShutdownState) : ShutdownState :=
  match s.handles.mqtt with
  | some n => { s with handles := s.handles.cancelListening n, pc := .disconnecting }
  | none => s.stopSse

/-- Clean shutdown. -/
def asyncShutdown (s : ShutdownState) : ShutdownState :=
  match s.handles.reconnectTask with
  | some t => { s with pc := .cancelling t }
  | none => s.disconnect

end ShutdownState

inductive ShutdownAction where
  | other (a : Action)
  /-- `async_shutdown` is called. -/
  | shutDown
  /-- The cancellation reaches the reconnect task. -/
  | cancelled
  | joined
  /-- `disconnect` of the stream returns or raises. -/
  | disconnected (ok : Bool)
  | sseStopped
  | sessionClosed
  deriving DecidableEq, Repr

namespace Action

/-- The reconnect task whose step it is. -/
def reconnectTask : Action → Option TaskId
  | .wake t | .acquire (.reconnect t) _ _ | .connectOk (.reconnect t) _
  | .connectFail (.reconnect t) | .synced (.reconnect t) _ => some t
  | _ => none

/-- A stream is built, and the SSE supplement opened, only with an HTTP session. -/
def hasSession (s : ShutdownState) : Action → Bool
  | .acquire _ ready _ => !ready || s.session
  | .connectOk _ gap => !gap || s.session || s.handles.sse
  | _ => true

/-- A task that is being cancelled takes no other step. -/
def possible (s : ShutdownState) (a : Action) : Bool :=
  a.hasSession s && (a.reconnectTask.isNone || a.reconnectTask != s.pc.cancels)

end Action

open ShutdownState in
def shutdownStep (s : ShutdownState) : ShutdownAction → Option ShutdownState
  | .other a =>
    if a.possible s then (step s.handles a).map fun handles => { s with handles } else none
  | .shutDown => if s.pc = .idle then some s.asyncShutdown else none
  | .cancelled =>
    match s.pc with
    | .cancelling t => some { s with handles := s.handles.cancelTask t, pc := .joining }
    | _ => none
  | .joined =>
    if s.pc = .joining then
      some { s with handles := { s.handles with reconnectTask := none } }.disconnect
    else none
  | .disconnected ok =>
    if s.pc = .disconnecting then
      -- An exception of the DISCONNECT ends the shutdown here.
      if ok then some { s with handles := { s.handles with mqtt := none } }.stopSse
      else some { s with pc := .finished true }
    else none
  | .sseStopped =>
    if s.pc = .stoppingSse then
      some { s with handles := { s.handles with sse := false } }.closeSession
    else none
  | .sessionClosed =>
    if s.pc = .closing then some { s with session := false, pc := .finished false } else none

def shutdownMachine : Machine ShutdownState ShutdownAction where
  step := shutdownStep

/-! ## An orderly shutdown -/

/-- No call of `_ensure_mqtt` is past the lock. -/
def Unlocked (s : MqttState) : Prop := ∀ c pc, s.callerPc c = some pc → pc = .wantLock

/-- The DISCONNECT does not raise; when the shutdown looks at the MQTT handle, no `_ensure_mqtt` is
past the lock, and from then on none finds the handle empty and builds a stream. -/
def Orderly (s : ShutdownState) : ShutdownAction → Prop
  | .disconnected ok => ok = true
  | .shutDown => s.handles.reconnectTask = none → Unlocked s.handles
  | .joined => Unlocked s.handles
  | .other (.acquire _ ready _) =>
    s.pc.givingUp = true → s.handles.mqtt = none → ready = false
  | _ => True

/-- When the shutdown is over, the supplement is stopped and the session closed, no stream is
listening, and no `_ensure_mqtt` is connecting one or still stopping the supplement. -/
def ReleasedAll (s : ShutdownState) : Prop :=
  ∀ raised, s.pc = .finished raised →
    s.session = false ∧ s.handles.sse = false ∧ (∀ n, s.handles.streams n ≠ .listening) ∧
      Unlocked s.handles

namespace MqttState

/-- No stream is listening, and no `_ensure_mqtt` is past the lock. -/
structure Quiet (s : MqttState) : Prop where
  unlocked : Unlocked s
  silent : ∀ n, s.streams n ≠ .listening

theorem Inv.cancelTask {s : MqttState} (h : Inv s) (t : TaskId) : Inv (s.cancelTask t) := by
  have hdone : Inv (s.setTask t .done) :=
    h.setTask (Or.inl rfl) fun hun => absurd hun (by simp [ReconnectPc.unfinished])
  unfold MqttState.cancelTask
  cases ht : s.tasks t with
  | unborn => exact h
  | asleep delay later => exact hdone
  | done => exact h
  | ensuring delay later pc =>
    have hpc : s.callerPc (.reconnect t) = some pc := by
      simp [callerPc, ht, ReconnectPc.ensurePc]
    cases pc with
    | wantLock => exact hdone
    | connecting n =>
      have hleft := h.leave hpc (Or.inl (by simp)) true
      simp only [setStream_leave]
      exact hleft.setStream (h.not_connecting_leave hpc (by simp) true n) (by simp)
    | syncing =>
      simp only [setSse_leave]
      exact (h.leave hpc (Or.inl (by simp)) true).setSse false

theorem cancelListening_callerPc (s : MqttState) (n : StreamId) (c : Caller) :
    (s.cancelListening n).callerPc c = s.callerPc c := by
  unfold cancelListening
  split_ifs
  · cases c <;> rfl
  · rfl

/-- The handle's stream is the only one that listens, and it no longer does. -/
theorem Inv.cancelListening {s : MqttState} (hlisten : ∀ n, s.streams n = .listening →
    s.mqtt = some n) (hunlocked : Unlocked s) {n : StreamId} (hmqtt : s.mqtt = some n) :
    Quiet (s.cancelListening n) where
  unlocked c pc hpc := by
    rw [cancelListening_callerPc] at hpc
    exact hunlocked c pc hpc
  silent m hm := by
    unfold MqttState.cancelListening at hm
    split_ifs at hm with hn
    · rw [setStream_streams] at hm
      split_ifs at hm with hmn
      have hm' := hlisten m hm
      rw [hmqtt] at hm'
      cases hm'
      exact hmn rfl
    · have hm' := hlisten m hm
      rw [hmqtt] at hm'
      cases hm'
      exact hn hm

section Unlocked

variable {s : MqttState}

theorem unlocked_congr {s' : MqttState} (h : Unlocked s) (hticks : s'.ticks = s.ticks)
    (htasks : s'.tasks = s.tasks) : Unlocked s' := by
  intro c pc hpc
  cases c with
  | tick i =>
    have hi : s.callerPc (.tick i) = some pc := by simpa [callerPc, hticks] using hpc
    exact h (.tick i) pc hi
  | reconnect t =>
    have ht : s.callerPc (.reconnect t) = some pc := by simpa [callerPc, htasks] using hpc
    exact h (.reconnect t) pc ht

theorem unlocked_setTick (h : Unlocked s) (i : Nat) : Unlocked (s.setTick i (some .wantLock)) := by
  intro c pc hpc
  cases c with
  | tick j =>
    by_cases hj : j = i
    · simpa [MqttState.setTick, callerPc, hj, eq_comm] using hpc
    · exact h (.tick j) pc (by simpa [MqttState.setTick, callerPc, hj] using hpc)
  | reconnect t => exact h (.reconnect t) pc hpc

theorem unlocked_setTask (h : Unlocked s) {t : TaskId} {r : ReconnectPc}
    (hr : r.ensurePc = none ∨ r.ensurePc = some .wantLock) : Unlocked (s.setTask t r) := by
  intro c pc hpc
  cases c with
  | tick i => exact h (.tick i) pc hpc
  | reconnect u =>
    by_cases hu : u = t
    · simp only [callerPc, MqttState.setTask, hu, Function.update_self] at hpc
      rcases hr with hr | hr
      · rw [hr] at hpc
        cases hpc
      · rw [hr] at hpc
        cases hpc
        rfl
    · exact h (.reconnect u) pc (by simpa [callerPc, MqttState.setTask, hu] using hpc)

theorem unlocked_leave (h : Unlocked s) (c : Caller) (result : Bool) :
    Unlocked (s.leave c result) := by
  intro c' pc hpc
  rw [leave_callerPc] at hpc
  split_ifs at hpc
  exact h c' pc hpc

theorem unlocked_handleMqttDisconnect (h : Unlocked s) (n : StreamId) (t : TaskId) :
    Unlocked (s.handleMqttDisconnect n t) := by
  by_cases hmqtt : s.mqtt = some n
  · cases hbusy : s.reconnecting with
    | true =>
      rw [s.handleMqttDisconnect_of_reconnecting hmqtt hbusy]
      exact unlocked_congr h rfl rfl
    | false =>
      rw [s.handleMqttDisconnect_of_idle hmqtt hbusy]
      have hrecorded : Unlocked { s with mqtt := none, reconnectTask := some t } :=
        unlocked_congr h rfl rfl
      exact unlocked_setTask hrecorded (Or.inl rfl)
  · rw [s.handleMqttDisconnect_of_ne hmqtt]
    exact h

end Unlocked

theorem Quiet.congr {s s' : MqttState} (h : Quiet s) (hticks : s'.ticks = s.ticks)
    (htasks : s'.tasks = s.tasks) (hstreams : s'.streams = s.streams) : Quiet s' where
  unlocked := unlocked_congr h.unlocked hticks htasks
  silent n := by
    rw [hstreams]
    exact h.silent n

theorem Quiet.leave {s : MqttState} (h : Quiet s) (c : Caller) (result : Bool) :
    Quiet (s.leave c result) where
  unlocked := unlocked_leave h.unlocked c result
  silent n := by
    rw [leave_streams]
    exact h.silent n

theorem Quiet.step {s s' : MqttState} {a : Action} (h : Quiet s)
    (hbuild : ∀ c n, a = .acquire c true n → s.mqtt ≠ none) (hstep : step s a = some s') :
    Quiet s' ∧ s'.sse = s.sse := by
  cases mqttStep_of_step hstep with
  | tick hfree => exact ⟨⟨unlocked_setTick h.unlocked _, h.silent⟩, rfl⟩
  | wakeFound ht hmqtt => exact ⟨⟨unlocked_setTask h.unlocked (Or.inl rfl), h.silent⟩, rfl⟩
  | wake ht hmqtt => exact ⟨⟨unlocked_setTask h.unlocked (Or.inr rfl), h.silent⟩, rfl⟩
  | found hpc hlock hmqtt => exact ⟨h.leave _ true, leave_sse s _ true⟩
  | build hpc hlock hborn hmqtt => exact absurd hmqtt (hbuild _ _ rfl)
  | refuse hpc hlock hmqtt => exact ⟨h.leave _ false, leave_sse s _ false⟩
  | connected hpc hquiet => cases h.unlocked _ _ hpc
  | openSse hpc hmqtt => cases h.unlocked _ _ hpc
  | closeSse hpc hmqtt hsse => cases h.unlocked _ _ hpc
  | connectFail hpc => cases h.unlocked _ _ hpc
  | synced hpc => cases h.unlocked _ _ hpc
  | drop hn => exact absurd hn (h.silent _)
  | crash hn => exact absurd hn (h.silent _)
  | @callback n t hn ht =>
    have hgone : Unlocked (s.setStream n .gone) := unlocked_congr h.unlocked rfl rfl
    refine ⟨⟨unlocked_handleMqttDisconnect hgone n t, ?_⟩, handleMqttDisconnect_sse _ n t⟩
    intro m hm
    rw [handleMqttDisconnect_streams, setStream_streams] at hm
    split_ifs at hm
    exact h.silent m hm

end MqttState

/-! ## Runs -/

namespace ShutdownState

/-- Until the shutdown looks at the MQTT handle the reconnect machine is as always; from then on it
is quiet, and handle by handle is given up. -/
def Inv (s : ShutdownState) : Prop :=
  match s.pc with
  | .idle | .cancelling _ | .joining => s.handles.Inv
  | .disconnecting | .stoppingSse => s.handles.Quiet
  | .closing => s.handles.Quiet ∧ s.handles.sse = false
  | .finished raised =>
    raised = false ∧ s.handles.Quiet ∧ s.handles.sse = false ∧ s.session = false

variable {s : ShutdownState}

theorem Inv.closeSession (h : s.handles.Quiet) (hsse : s.handles.sse = false) :
    s.closeSession.Inv := by
  cases hsession : s.session with
  | true => simpa [ShutdownState.closeSession, Inv, hsession] using ⟨h, hsse⟩
  | false => simpa [ShutdownState.closeSession, Inv, hsession] using ⟨h, hsse⟩

theorem Inv.stopSse (h : s.handles.Quiet) : s.stopSse.Inv := by
  cases hsse : s.handles.sse with
  | true => simpa [ShutdownState.stopSse, Inv, hsse] using h
  | false =>
    have hclosed := Inv.closeSession h hsse
    simpa [ShutdownState.stopSse, hsse] using hclosed

theorem Inv.disconnect (hlisten : ∀ n, s.handles.streams n = .listening →
    s.handles.mqtt = some n) (hunlocked : Unlocked s.handles) : s.disconnect.Inv := by
  cases hmqtt : s.handles.mqtt with
  | some n =>
    have hquiet := MqttState.Inv.cancelListening hlisten hunlocked hmqtt
    simpa [ShutdownState.disconnect, Inv, hmqtt] using hquiet
  | none =>
    have hquiet : s.handles.Quiet := by
      refine ⟨hunlocked, ?_⟩
      intro n hn
      have hn' := hlisten n hn
      rw [hmqtt] at hn'
      cases hn'
    have hstopped := Inv.stopSse hquiet
    simpa [ShutdownState.disconnect, hmqtt] using hstopped

theorem Inv.asyncShutdown (h : s.handles.Inv)
    (hunlocked : s.handles.reconnectTask = none → Unlocked s.handles) : s.asyncShutdown.Inv := by
  cases htask : s.handles.reconnectTask with
  | some t => simpa [ShutdownState.asyncShutdown, Inv, htask] using h
  | none =>
    have hgone : s.disconnect.Inv :=
      Inv.disconnect (fun n hn => h.listening n (Or.inl hn)) (hunlocked htask)
    simpa [ShutdownState.asyncShutdown, htask] using hgone

theorem quiet_other {s : ShutdownState} {a : Action} {handles : MqttState} (h : s.handles.Quiet)
    (hbefore : s.pc.givingUp = true ∨ s.session = false) (horderly : Orderly s (.other a))
    (hpossible : a.possible s = true) (hstep : step s.handles a = some handles) :
    handles.Quiet ∧ handles.sse = s.handles.sse := by
  refine h.step ?_ hstep
  intro c n ha hmqtt
  subst ha
  rcases hbefore with hgiving | hsession
  · have hready : true = false := horderly hgiving hmqtt
    cases hready
  · simp [Action.possible, Action.hasSession, hsession] at hpossible

theorem Inv.other {s : ShutdownState} {a : Action} {handles : MqttState} (h : s.Inv)
    (horderly : Orderly s (.other a)) (hpossible : a.possible s = true)
    (hstep : step s.handles a = some handles) : Inv { s with handles } := by
  cases hpc : s.pc with
  | idle | cancelling t | joining =>
    have hinv : s.handles.Inv := by simpa [Inv, hpc] using h
    simpa [Inv, hpc] using hinv.step hstep
  | disconnecting | stoppingSse =>
    have hquiet : s.handles.Quiet := by simpa [Inv, hpc] using h
    have hkept := quiet_other hquiet (Or.inl (by simp [hpc, ShutdownPc.givingUp])) horderly
      hpossible hstep
    simpa [Inv, hpc] using hkept.1
  | closing =>
    obtain ⟨hquiet, hsse⟩ : s.handles.Quiet ∧ s.handles.sse = false := by simpa [Inv, hpc] using h
    have hkept := quiet_other hquiet (Or.inl (by simp [hpc, ShutdownPc.givingUp])) horderly
      hpossible hstep
    simpa [Inv, hpc] using And.intro hkept.1 (hkept.2.trans hsse)
  | finished raised =>
    obtain ⟨hraised, hquiet, hsse, hsession⟩ : raised = false ∧ s.handles.Quiet ∧
        s.handles.sse = false ∧ s.session = false := by simpa [Inv, hpc] using h
    have hkept := quiet_other hquiet (Or.inr hsession) horderly hpossible hstep
    simpa [Inv, hpc] using And.intro hraised ⟨hkept.1, hkept.2.trans hsse, hsession⟩

theorem Inv.step {s s' : ShutdownState} {a : ShutdownAction} (h : s.Inv) (horderly : Orderly s a)
    (hstep : shutdownMachine.step s a = some s') : s'.Inv := by
  cases a with
  | other a =>
    simp only [shutdownMachine, shutdownStep] at hstep
    split_ifs at hstep with hpossible
    obtain ⟨handles, hhandles, rfl⟩ := Option.map_eq_some_iff.mp hstep
    exact h.other horderly hpossible hhandles
  | shutDown =>
    simp only [shutdownMachine, shutdownStep] at hstep
    split_ifs at hstep with hpc
    cases hstep
    have hinv : s.handles.Inv := by simpa [Inv, hpc] using h
    exact Inv.asyncShutdown hinv horderly
  | cancelled =>
    cases hpc : s.pc with
    | cancelling t =>
      have hinv : s.handles.Inv := by simpa [Inv, hpc] using h
      simp only [shutdownMachine, shutdownStep, hpc] at hstep
      cases hstep
      exact hinv.cancelTask t
    | idle | joining | disconnecting | stoppingSse | closing | finished raised =>
      simp [shutdownMachine, shutdownStep, hpc] at hstep
  | joined =>
    simp only [shutdownMachine, shutdownStep] at hstep
    split_ifs at hstep with hpc
    cases hstep
    have hinv : s.handles.Inv := by simpa [Inv, hpc] using h
    have hunlocked : Unlocked { s.handles with reconnectTask := none } :=
      MqttState.unlocked_congr horderly rfl rfl
    exact Inv.disconnect (fun n hn => hinv.listening n (Or.inl hn)) hunlocked
  | disconnected ok =>
    have hok : ok = true := horderly
    subst hok
    simp only [shutdownMachine, shutdownStep] at hstep
    split_ifs at hstep with hpc
    cases hstep
    have hquiet : s.handles.Quiet := by simpa [Inv, hpc] using h
    exact Inv.stopSse (hquiet.congr rfl rfl rfl)
  | sseStopped =>
    simp only [shutdownMachine, shutdownStep] at hstep
    split_ifs at hstep with hpc
    cases hstep
    have hquiet : s.handles.Quiet := by simpa [Inv, hpc] using h
    exact Inv.closeSession (hquiet.congr rfl rfl rfl) rfl
  | sessionClosed =>
    simp only [shutdownMachine, shutdownStep] at hstep
    split_ifs at hstep with hpc
    cases hstep
    obtain ⟨hquiet, hsse⟩ : s.handles.Quiet ∧ s.handles.sse = false := by simpa [Inv, hpc] using h
    exact ⟨rfl, hquiet, hsse, rfl⟩

theorem Inv.releasedAll {s : ShutdownState} (h : s.Inv) : ReleasedAll s := by
  intro raised hpc
  obtain ⟨-, hquiet, hsse, hsession⟩ : raised = false ∧ s.handles.Quiet ∧
      s.handles.sse = false ∧ s.session = false := by simpa [Inv, hpc] using h
  exact ⟨hsession, hsse, hquiet.silent, hquiet.unlocked⟩

end ShutdownState

/-- An orderly shutdown releases everything, and nothing is connected afterwards. -/
theorem shutdown_releases {session : Bool} {actions : List ShutdownAction} {s : ShutdownState}
    (horderly : shutdownMachine.Along Orderly (.init session) actions)
    (hrun : shutdownMachine.run (.init session) actions = some s) : ReleasedAll s := by
  have hinit : (ShutdownState.init session).Inv := MqttState.Inv.init
  have hinv : s.Inv := horderly.invariant (fun _ _ _ hs ha hstep => hs.step ha hstep) hinit hrun
  exact hinv.releasedAll

/-! ### A stream and the supplement are up -/

section Sample

/-- A tick connects the stream and opens the supplement; then the coordinator is shut down. -/
def shutDownConnected : List ShutdownAction :=
  [.other (.tick 0), .other (.acquire (.tick 0) true 0), .other (.connectOk (.tick 0) true),
    .shutDown]

/-- The broker is gone: sending the DISCONNECT raises. -/
def brokenGoodbye : List ShutdownAction := shutDownConnected ++ [.disconnected false]

/-- The supplement runs on, over a session that nobody closes. -/
theorem raising_disconnect_leaks :
    ¬ ∀ session actions s, shutdownMachine.run (.init session) actions = some s →
      ReleasedAll s := by
  intro hclaim
  have hrun : shutdownMachine.run (.init true) brokenGoodbye =
      some ((shutdownMachine.run (.init true) brokenGoodbye).getD (.init true)) := rfl
  have hclosed := (hclaim true brokenGoodbye _ hrun true rfl).1
  cases hclosed

def goodbyes : List ShutdownAction :=
  shutDownConnected ++ [.disconnected true, .sseStopped, .sessionClosed]

theorem goodbyes_orderly : shutdownMachine.Along Orderly (.init true) goodbyes := by
  have hbefore : ∀ {s : ShutdownState} {c : Caller} {ready : Bool} {n : StreamId},
      s.pc.givingUp = false → Orderly s (.other (.acquire c ready n)) :=
    fun hpc hgiving => Bool.noConfusion (hgiving.symm.trans hpc)
  refine (shutdownMachine.along_cons_of_step rfl).mpr ⟨trivial, ?_⟩
  refine (shutdownMachine.along_cons_of_step rfl).mpr ⟨hbefore rfl, ?_⟩
  refine (shutdownMachine.along_cons_of_step rfl).mpr ⟨trivial, ?_⟩
  refine (shutdownMachine.along_cons_of_step rfl).mpr ⟨?_, ?_⟩
  · intro _ c pc hc
    -- The tick has returned from `_ensure_mqtt`, and nobody else has called it.
    cases c with
    | tick i =>
      by_cases hi : i = 0
      · subst hi
        cases hc
      · have hnone : (ShutdownState.init true).handles.ticks i = none := rfl
        simp [MqttState.callerPc, MqttState.leave, MqttState.setTick, MqttState.setCallerPc,
          MqttState.buildStream, MqttState.recordAttempt, MqttState.setStream, hi, hnone] at hc
    | reconnect t => cases hc
  refine (shutdownMachine.along_cons_of_step rfl).mpr ⟨rfl, ?_⟩
  refine (shutdownMachine.along_cons_of_step rfl).mpr ⟨trivial, ?_⟩
  exact (shutdownMachine.along_cons_of_step rfl).mpr ⟨trivial, trivial⟩

/-- The goodbyes succeed one after the other. -/
theorem shutdown_releases_connected :
    ReleasedAll ((shutdownMachine.run (.init true) goodbyes).getD (.init true)) := by
  have hrun : shutdownMachine.run (.init true) goodbyes =
      some ((shutdownMachine.run (.init true) goodbyes).getD (.init true)) := rfl
  exact shutdown_releases goodbyes_orderly hrun

end Sample

end Eisenberg.Coordinator
