import Eisenberg.Coordinator.ReconnectSafety
import Eisenberg.Mqtt.Closing

/-!
# The sockets of the streams

The reconnect machine with the WebSocket of each stream. How a connect and a listen loop end is what
`connect` and `_listen_loop` make of the messages they receive.
-/

namespace Eisenberg.Coordinator

open Framework Mqtt

variable {σ : Type} {loads : Bytes → Except Exc Json}

inductive SocketPhase where
  | unopened | opened | closed
  deriving DecidableEq, Repr

structure SocketState where
  handles : MqttState
  sockets : StreamId → SocketPhase

inductive SocketAction (σ : Type) where
  /-- What opens and closes no socket. -/
  | other (a : Action)
  /-- `ws_connect` returns to the caller. -/
  | opened (c : Caller)
  /-- `connect` is over, with what the transport and the socket gave it. -/
  | connectEnded (c : Caller) (t : Transport) (w : World σ) (received : List Received) (gap : Bool)
  /-- `_listen_loop` is over. -/
  | loopEnded (stream : StreamId) (w : World σ) (received : List Received)

/-- The actions that leave the sockets alone. A disconnect callback comes from the end of a listen
loop. -/
def Action.LeavesSockets (s : MqttState) : Action → Prop
  | .tick _ | .wake _ | .acquire _ _ _ | .synced _ _ => True
  | .callback stream _ => s.streams stream = .ended
  | .connectOk _ _ | .connectFail _ | .drop _ | .crash _ => False

instance (s : MqttState) : (a : Action) → Decidable (a.LeavesSockets s)
  | .tick _ | .wake _ | .acquire _ _ _ | .synced _ _ => instDecidableTrue
  | .callback stream _ => decEq (s.streams stream) .ended
  | .connectOk _ _ | .connectFail _ | .drop _ | .crash _ => instDecidableFalse

namespace SocketState

def init : SocketState where
  handles := MqttState.init
  sockets := fun _ => .unopened

def setSocket (s : SocketState) (n : StreamId) (phase : SocketPhase) : SocketState :=
  { s with sockets := Function.update s.sockets n phase }

/-- An open socket that has been closed since. -/
def settle (s : SocketState) (n : StreamId) (w : World σ) : SocketState :=
  if s.sockets n = .opened ∧ w.stream.wsClosed = true then s.setSocket n .closed else s

/-- The handles move on by an action of theirs. -/
def act (s : SocketState) (a : Action) : Option SocketState :=
  (step s.handles a).map fun handles => { s with handles }

end SocketState

open SocketState in
def socketStep (loads : Bytes → Except Exc Json) (s : SocketState) :
    SocketAction σ → Option SocketState
  | .other a => if a.LeavesSockets s.handles then s.act a else none
  | .opened c =>
    match s.handles.callerPc c with
    | some (.connecting n) =>
      if s.sockets n = .unopened then some (s.setSocket n .opened) else none
    | _ => none
  | .connectEnded c t w received gap =>
    match s.handles.callerPc c with
    | some (.connecting n) =>
      -- A socket has been opened if and only if `ws_connect` returned.
      if (s.sockets n == .opened) = t.wsConnect.isOk then
        match connect loads t w received with
        | (w, .ok _) => (s.settle n w).act (.connectOk c gap)
        | (w, .raised err) =>
          if err.isException then (s.settle n w).act (.connectFail c) else none
        | (_, .blocked) => none
      else none
    | _ => none
  | .loopEnded n w received =>
    if w.stream.running = true ∧ w.stream.wsClosed = (s.sockets n == .closed) then
      match listenLoop loads w received with
      | (w, .returned) => (s.settle n w).act (.drop n)
      | (w, .raised _) => (s.settle n w).act (.crash n)
      | (_, .cancelled) => none
    else none

def socketMachine (σ : Type) (loads : Bytes → Except Exc Json) :
    Machine SocketState (SocketAction σ) where
  step := socketStep loads

/-! ## What the actions do to the handles -/

namespace MqttState

/-- An action that leaves the sockets alone ends no listen loop, and it takes the handle from a
stream only once its listen loop has ended. -/
theorem step_leavesSockets {s s' : MqttState} {a : Action} (ha : a.LeavesSockets s)
    (h : step s a = some s') :
    (∀ m, s'.streams m = .ended → s.streams m = .ended) ∧
      (s'.mqtt = s.mqtt ∨ s.mqtt = none ∨
        ∃ n, s.mqtt = some n ∧ s.streams n = .ended) := by
  cases mqttStep_of_step h with
  | tick hfree => exact ⟨fun m hm => hm, Or.inl rfl⟩
  | wakeFound ht hmqtt => exact ⟨fun m hm => hm, Or.inl rfl⟩
  | wake ht hmqtt => exact ⟨fun m hm => hm, Or.inl rfl⟩
  | found hpc hlock hmqtt => exact ⟨fun m hm => by simpa using hm, Or.inl (by simp)⟩
  | build hpc hlock hborn hmqtt =>
    refine ⟨?_, Or.inr (Or.inl hmqtt)⟩
    intro m hm
    rw [buildStream_streams] at hm
    split_ifs at hm with hmn
    exact hm
  | refuse hpc hlock hmqtt => exact ⟨fun m hm => by simpa using hm, Or.inl (by simp)⟩
  | synced hpc => exact ⟨fun m hm => by simpa using hm, Or.inl (by simp)⟩
  | @callback n t hphase ht =>
    have hn : s.streams n = .ended := ha
    refine ⟨?_, ?_⟩
    · intro m hm
      rw [handleMqttDisconnect_streams, setStream_streams] at hm
      split_ifs at hm
      exact hm
    · by_cases hmqtt : s.mqtt = some n
      · exact Or.inr (Or.inr ⟨n, hmqtt, hn⟩)
      · left
        rw [(s.setStream n .gone).handleMqttDisconnect_of_ne hmqtt]
        rfl
  | connected hpc hquiet => exact ha.elim
  | openSse hpc hmqtt => exact ha.elim
  | closeSse hpc hmqtt hsse => exact ha.elim
  | connectFail hpc => exact ha.elim
  | drop hn => exact ha.elim
  | crash hn => exact ha.elim

/-- A stream that is given another phase than `ended` leaves the others as they are. -/
theorem ended_of_setStream {s : MqttState} {n m : StreamId} {phase : StreamPhase}
    (hphase : phase ≠ .ended) (hm : (s.setStream n phase).streams m = .ended) :
    s.streams m = .ended := by
  rw [setStream_streams] at hm
  split_ifs at hm
  · exact absurd hm hphase
  · exact hm

theorem step_connectOk {s s' : MqttState} {c : Caller} {gap : Bool}
    (h : step s (.connectOk c gap) = some s') :
    s'.mqtt = s.mqtt ∧ ∀ m, s'.streams m = .ended → s.streams m = .ended := by
  cases mqttStep_of_step h with
  | connected hpc hquiet =>
    refine ⟨by simp, ?_⟩
    intro m hm
    rw [leave_streams] at hm
    exact ended_of_setStream (by simp) hm
  | openSse hpc hmqtt =>
    refine ⟨by simp, ?_⟩
    intro m hm
    rw [leave_streams] at hm
    exact ended_of_setStream (by simp) hm
  | closeSse hpc hmqtt hsse =>
    refine ⟨by simp, ?_⟩
    intro m hm
    rw [setCallerPc_streams] at hm
    exact ended_of_setStream (by simp) hm

theorem step_drop {s s' : MqttState} {n : StreamId} (h : step s (.drop n) = some s') :
    s'.mqtt = s.mqtt ∧ ∀ m, s'.streams m = .ended → m = n ∨ s.streams m = .ended := by
  cases mqttStep_of_step h with
  | drop hn =>
    refine ⟨rfl, ?_⟩
    intro m hm
    rw [setStream_streams] at hm
    split_ifs at hm with hmn
    · exact Or.inl hmn
    · exact Or.inr hm

theorem step_crash {s s' : MqttState} {n : StreamId} (h : step s (.crash n) = some s') :
    s'.mqtt = s.mqtt ∧ ∀ m, s'.streams m = .ended → s.streams m = .ended := by
  cases mqttStep_of_step h with
  | crash hn => exact ⟨rfl, fun m hm => ended_of_setStream (by simp) hm⟩

end MqttState

/-! ## One open socket -/

/-- An attempt fails without leaving its socket open, and a listen loop is not left because a
`receive` timed out. -/
def ClosesSockets (loads : Bytes → Except Exc Json) : SocketAction σ → Prop
  | .connectEnded _ t w received _ => OnlySocketFails loads t w received
  | .loopEnded _ w received => (listenLoop loads w received).2 = .returned →
      w.stream.wsClosed = true ∨ ClosedInTime received
  | _ => True

/-- When a socket is opened, those that were opened before it are closed. -/
def OpensAlone (loads : Bytes → Except Exc Json) (s : SocketState) (a : SocketAction σ) : Prop :=
  ∀ c s', a = .opened c → socketStep loads s a = some s' → ∀ m, s.sockets m ≠ .opened

namespace SocketState

/-- What holds along the runs that close their sockets: an open socket is that of the handle. -/
structure SocketInv (s : SocketState) : Prop where
  handles : MqttState.Inv s.handles
  opened : ∀ m, s.sockets m = .opened → s.handles.mqtt = some m
  ended : ∀ m, s.handles.streams m = .ended → s.sockets m ≠ .opened

theorem socketInv_init : SocketInv init where
  handles := MqttState.Inv.init
  opened m h := by cases h
  ended m _ h := by cases h

theorem settle_handles (s : SocketState) (n : StreamId) (w : World σ) :
    (s.settle n w).handles = s.handles := by
  unfold settle
  split_ifs <;> rfl

/-- Settling opens nothing, and a socket that has been closed is not open after it. -/
theorem opened_of_settle {s : SocketState} {n m : StreamId} {w : World σ}
    (h : (s.settle n w).sockets m = .opened) :
    s.sockets m = .opened ∧ (m = n → w.stream.wsClosed = false) := by
  unfold settle at h
  split_ifs at h with hclosed
  · by_cases hm : m = n
    · subst hm
      simp [setSocket] at h
    · exact ⟨by simpa [setSocket, hm] using h, fun heq => absurd heq hm⟩
  · refine ⟨h, ?_⟩
    intro hm
    subst hm
    by_contra hw
    exact hclosed ⟨h, by simpa using hw⟩

theorem act_eq_some {s s' : SocketState} {a : Action} (h : s.act a = some s') :
    step s.handles a = some s'.handles ∧ s'.sockets = s.sockets := by
  obtain ⟨handles, hstep, rfl⟩ := Option.map_eq_some_iff.mp h
  exact ⟨hstep, rfl⟩

namespace SocketInv

variable {s s' : SocketState}

theorem other (h : SocketInv s) {a : Action} (ha : a.LeavesSockets s.handles)
    (hact : s.act a = some s') : SocketInv s' := by
  obtain ⟨hstep, hsockets⟩ := act_eq_some hact
  obtain ⟨hended, hmqtt⟩ := MqttState.step_leavesSockets ha hstep
  refine ⟨h.handles.step hstep, ?_, ?_⟩
  · intro m hm
    rw [hsockets] at hm
    have hold := h.opened m hm
    rcases hmqtt with hsame | hnone | ⟨n, hn, hover⟩
    · rw [hsame, hold]
    · rw [hnone] at hold
      cases hold
    · rw [hn] at hold
      cases hold
      exact absurd hm (h.ended m hover)
  · intro m hm
    rw [hsockets]
    exact h.ended m (hended m hm)

theorem setSocket_opened (h : SocketInv s) {c : Caller} {n : StreamId}
    (hpc : s.handles.callerPc c = some (.connecting n)) : SocketInv (s.setSocket n .opened) := by
  obtain ⟨hmqtt, hphase⟩ := h.handles.connecting c n hpc
  refine ⟨h.handles, ?_, ?_⟩
  · intro m hm
    by_cases hmn : m = n
    · subst hmn
      exact hmqtt
    · exact h.opened m (by simpa [setSocket, hmn] using hm)
  · intro m hm
    have hmn : m ≠ n := by
      rintro rfl
      rw [setSocket, hphase] at hm
      cases hm
    simpa [setSocket, hmn] using h.ended m hm

/-- The stream is connected, or its listen loop is left by an exception: the handle stays. -/
theorem settled (h : SocketInv s) {n : StreamId} {w : World σ} {a : Action}
    (hact : (s.settle n w).act a = some s') (hmqtt : s'.handles.mqtt = s.handles.mqtt)
    (hended : ∀ m, s'.handles.streams m = .ended →
      s.handles.streams m = .ended ∨ m = n ∧ w.stream.wsClosed = true) : SocketInv s' := by
  obtain ⟨hstep, hsockets⟩ := act_eq_some hact
  rw [settle_handles] at hstep
  refine ⟨h.handles.step hstep, ?_, ?_⟩
  · intro m hm
    rw [hsockets] at hm
    rw [hmqtt]
    exact h.opened m (opened_of_settle hm).1
  · intro m hm hopen
    rw [hsockets] at hopen
    obtain ⟨hold, hclosed⟩ := opened_of_settle hopen
    rcases hended m hm with hbefore | ⟨hmn, hw⟩
    · exact h.ended m hbefore hold
    · rw [hclosed hmn] at hw
      cases hw

/-- A connect fails and the handle is cleared: its socket was never opened, or it is closed. -/
theorem failed (h : SocketInv s) {c : Caller} {n : StreamId} {w : World σ}
    (hpc : s.handles.callerPc c = some (.connecting n))
    (hclosed : s.sockets n = .opened → w.stream.wsClosed = true)
    (hact : (s.settle n w).act (.connectFail c) = some s') : SocketInv s' := by
  obtain ⟨hstep, hsockets⟩ := act_eq_some hact
  rw [settle_handles] at hstep
  have hnone : ∀ m, s'.sockets m ≠ .opened := by
    intro m hm
    rw [hsockets] at hm
    obtain ⟨hold, hopen⟩ := opened_of_settle hm
    have hmqtt := h.opened m hold
    rw [(h.handles.connecting c n hpc).1] at hmqtt
    cases hmqtt
    rw [hclosed hold] at hopen
    exact Bool.noConfusion (hopen rfl)
  exact ⟨h.handles.step hstep, fun m hm => absurd hm (hnone m), fun m _ => hnone m⟩

theorem step {a : SocketAction σ} (h : SocketInv s) (hcloses : ClosesSockets loads a)
    (hstep : socketStep loads s a = some s') : SocketInv s' := by
  cases a with
  | other a =>
    simp only [socketStep] at hstep
    split_ifs at hstep with ha
    exact h.other ha hstep
  | opened c =>
    simp only [socketStep] at hstep
    split at hstep
    next n hpc =>
      split_ifs at hstep
      cases hstep
      exact h.setSocket_opened hpc
    next => cases hstep
  | connectEnded c t w received gap =>
    simp only [socketStep] at hstep
    split at hstep
    next n hpc =>
      split_ifs at hstep with hopened
      split at hstep
      next w' rest hconnect =>
        have hnext := (act_eq_some hstep).1
        rw [settle_handles] at hnext
        obtain ⟨hmqtt, hended⟩ := MqttState.step_connectOk hnext
        exact h.settled hstep hmqtt fun m hm => Or.inl (hended m hm)
      next w' err hconnect =>
        split_ifs at hstep with hexception
        refine h.failed hpc ?_ hstep
        intro hsocket
        have hws : t.wsConnect = .ok () := by
          cases hws : t.wsConnect with
          | ok u => rfl
          | error err =>
            rw [hws, hsocket] at hopened
            simp [Except.isOk, Except.toBool] at hopened
        rcases connect_raised hcloses hws hconnect with rfl | hclosed
        · exact absurd hexception (by simp [Exc.isException])
        · exact hclosed
      next => cases hstep
    next => cases hstep
  | loopEnded n w received =>
    simp only [socketStep] at hstep
    split_ifs at hstep with hguard
    split at hstep
    next w' hloop =>
      have htime := hcloses (by rw [hloop])
      have hclosed := listenLoop_returned hguard.1 htime hloop
      have hnext := (act_eq_some hstep).1
      rw [settle_handles] at hnext
      obtain ⟨hmqtt, hended⟩ := MqttState.step_drop hnext
      refine h.settled hstep hmqtt ?_
      intro m hm
      rcases hended m hm with hmn | hbefore
      · exact Or.inr ⟨hmn, hclosed⟩
      · exact Or.inl hbefore
    next w' err hloop =>
      have hnext := (act_eq_some hstep).1
      rw [settle_handles] at hnext
      obtain ⟨hmqtt, hended⟩ := MqttState.step_crash hnext
      exact h.settled hstep hmqtt fun m hm => Or.inl (hended m hm)
    next => cases hstep

theorem opensAlone (h : SocketInv s) (a : SocketAction σ) : OpensAlone loads s a := by
  rintro c s' rfl hstep m hm
  simp only [socketStep] at hstep
  split at hstep
  next n hpc =>
    split_ifs at hstep with hunopened
    have hmqtt := h.opened m hm
    rw [(h.handles.connecting c n hpc).1] at hmqtt
    cases hmqtt
    rw [hunopened] at hm
    cases hm
  next => cases hstep

end SocketInv

/-- In a run whose failing attempts and listen loops leave no open socket behind, every socket is
opened alone. -/
theorem sockets_opened_alone {actions : List (SocketAction σ)}
    (h : (socketMachine σ loads).Along (fun _ a => ClosesSockets loads a) init actions) :
    (socketMachine σ loads).Along (OpensAlone loads) init actions :=
  h.imp (fun _ _ _ hinv hcloses hstep => SocketInv.step hinv hcloses hstep)
    (fun _ a hinv _ => hinv.opensAlone a) socketInv_init

end SocketState

/-! ### Two brokers that do not let the client in -/

section Sample

open SocketState

/-- The first stream gets this answer to its CONNECT; a later tick builds another one. -/
def answeredWith (connack : Bytes) : List (SocketAction Nat) :=
  [.other (.tick 0), .other (.acquire (.tick 0) true 0), .opened (.tick 0),
   .connectEnded (.tick 0) sampleTransport sampleWorld [.msg (.binary connack)] false,
   .other (.tick 1), .other (.acquire (.tick 1) true 1)]

/-- That tick opens its socket. -/
def reopened : SocketAction Nat := .opened (.tick 1)

/-- A CONNACK without a return code: the second socket is opened beside the first one. -/
theorem malformed_connack_leaks :
    ∃ s s', (socketMachine Nat sampleLoads).run init (answeredWith [0x20, 0]) = some s ∧
      socketStep sampleLoads s reopened = some s' ∧ ¬ OpensAlone sampleLoads s reopened := by
  refine ⟨_, _, rfl, rfl, ?_⟩
  intro h
  exact absurd rfl (h (.tick 1) _ rfl rfl 0)

/-- A CONNACK with return code 5. -/
theorem sockets_opened_alone_refused :
    (socketMachine Nat sampleLoads).Along (OpensAlone sampleLoads) init
      (answeredWith [0x20, 2, 0, 5] ++ [reopened]) := by
  apply sockets_opened_alone
  have hrefused : OnlySocketFails sampleLoads sampleTransport sampleWorld
      [.msg (.binary [0x20, 2, 0, 5])] := by
    intro _
    refine ⟨rfl, ?_⟩
    intro w' connack rest hread
    cases hread
    exact ⟨5, rfl, fun h => absurd h (by decide)⟩
  have hstep := @Machine.along_cons_of_step _ _ (socketMachine Nat sampleLoads)
    (fun _ a => ClosesSockets sampleLoads a)
  refine (hstep rfl).mpr ⟨trivial, ?_⟩
  refine (hstep rfl).mpr ⟨trivial, ?_⟩
  refine (hstep rfl).mpr ⟨trivial, ?_⟩
  refine (hstep rfl).mpr ⟨hrefused, ?_⟩
  refine (hstep rfl).mpr ⟨trivial, ?_⟩
  refine (hstep rfl).mpr ⟨trivial, ?_⟩
  exact (hstep rfl).mpr ⟨trivial, trivial⟩

end Sample

end Eisenberg.Coordinator
