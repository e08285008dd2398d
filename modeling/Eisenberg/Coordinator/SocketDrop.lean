import Eisenberg.Coordinator.ReconnectSafety

/-!
# What follows a socket drop

After a disconnect callback that cleared the handle, a connect succeeds or an attempt is made at each
of the backoff delays, as long as the callback does not meet a reconnect task with fewer attempts
ahead of it and no reconnect task gives way to a connect that then fails.
-/

namespace Eisenberg.Coordinator

open Framework

/-- URL, user id, token, session and devices are there whenever a stream could be built. -/
def Action.ready : Action → Bool
  | .acquire _ ready _ => ready
  | _ => true

def readyMachine : Machine MqttState Action := machine.restrict Action.ready

theorem step_of_ready {s s' : MqttState} {a : Action} (h : readyMachine.step s a = some s') :
    step s a = some s' :=
  (machine.step_of_restrict h).2

/-- The delays after which the task will still make an attempt. -/
def ReconnectPc.pending : ReconnectPc → List Nat
  | asleep delay later => delay :: later
  | ensuring delay later .wantLock => delay :: later
  | ensuring _ later (.connecting _) => later
  | ensuring _ _ .syncing => []
  | unborn | done => []

theorem ReconnectPc.pending_of_finished {r : ReconnectPc} (h : r.unfinished = false) :
    r.pending = [] := by
  cases r with
  | unborn => rfl
  | done => rfl
  | asleep delay later => cases h
  | ensuring delay later pc => cases h

theorem ReconnectPc.pending_nextDelay (later : List Nat) : (nextDelay later).pending = later := by
  cases later <;> rfl

namespace MqttState

def reconnectPc (s : MqttState) : ReconnectPc :=
  match s.reconnectTask with
  | none => .unborn
  | some t => s.tasks t

def pendingDelays (s : MqttState) : List Nat := s.reconnectPc.pending

/-! ## What is to follow a drop -/

/-- After `s`, some `connect` of the actions succeeds, and its stream is the handle then. -/
def Reconnected (s : MqttState) (as : List Action) : Prop :=
  ∃ (pre : List Action) (c : Caller) (gap : Bool) (post : List Action) (u : MqttState),
    as = pre ++ .connectOk c gap :: post ∧
      readyMachine.run s (pre ++ [.connectOk c gap]) = some u ∧ u.mqtt ≠ none

/-- The attempts made from `s` to `u` are those of the backoff, all of them once the reconnect task
is done. -/
def BacksOff (s u : MqttState) : Prop :=
  ∃ made rest, u.attempts = s.attempts ++ made ∧ made ++ rest = MQTT_RECONNECT_BACKOFF ∧
    (u.reconnecting = false → rest = [])

/-- No drop of the run is lost: after each callback that cleared the handle a connect succeeds, or
attempts follow at the delays of the backoff. -/
def DropsRecover (s : MqttState) (as : List Action) : Prop :=
  ∀ (pre : List Action) (n : StreamId) (t : TaskId) (post : List Action) (s₁ s₂ u : MqttState),
    as = pre ++ .callback n t :: post → readyMachine.run s pre = some s₁ → s₁.mqtt = some n →
      readyMachine.step s₁ (.callback n t) = some s₂ → readyMachine.run s₂ post = some u →
      Reconnected s₂ post ∨ BacksOff s₂ u

/-- A callback that clears the handle meets no unfinished reconnect task, or one with the whole
backoff ahead; and a reconnect task does not wake while a stream is connecting. -/
def KeepsBackoff (s : MqttState) : Action → Prop
  | .callback n _ => s.mqtt = some n → s.reconnecting = true →
      s.pendingDelays = MQTT_RECONNECT_BACKOFF
  | .wake _ => (s.mqtt.any fun n => s.streams n = .connecting) = false
  | _ => True

instance (s : MqttState) (a : Action) : Decidable (KeepsBackoff s a) := by
  cases a <;> simp only [KeepsBackoff] <;> infer_instance

/-! ## From the drop to the next connect -/

theorem reconnecting_eq (s : MqttState) : s.reconnecting = s.reconnectPc.unfinished := by
  unfold reconnecting reconnectPc
  cases s.reconnectTask <;> rfl

theorem reconnectPc_of_unfinished {s : MqttState} (hinv : Inv s) {t : TaskId}
    (ht : (s.tasks t).unfinished = true) : s.reconnectPc = s.tasks t := by
  simp [reconnectPc, hinv.task t ht]

theorem pendingDelays_setTask {s : MqttState} {t : TaskId} (hrecord : s.reconnectTask = some t)
    (pc : ReconnectPc) : (s.setTask t pc).pendingDelays = pc.pending := by
  simp [pendingDelays, reconnectPc, setTask, hrecord]

theorem setTick_callerPc (s : MqttState) (i : Nat) (pc : Option EnsurePc) (c : Caller) :
    (s.setTick i pc).callerPc c = if c = .tick i then pc else s.callerPc c := by
  cases c with
  | tick j => by_cases hj : j = i <;> simp [setTick, callerPc, hj]
  | reconnect t => simp [setTick, callerPc]

theorem setTask_callerPc (s : MqttState) (t : TaskId) (pc : ReconnectPc) (c : Caller) :
    (s.setTask t pc).callerPc c = if c = .reconnect t then pc.ensurePc else s.callerPc c := by
  cases c with
  | tick j => simp [setTask, callerPc]
  | reconnect u => by_cases hu : u = t <;> simp [setTask, callerPc, hu]

/-- No connect has succeeded since the drop: the handle is empty or that of a stream that is
connecting, and no reconnect task is past its connect. -/
structure Down (s : MqttState) : Prop where
  handle : ∀ n, s.mqtt = some n → ∃ c, s.callerPc c = some (.connecting n)
  task : ∀ t, s.callerPc (.reconnect t) ≠ some .syncing

namespace Down

variable {s s' : MqttState}

theorem mqtt_eq_none (hdown : Down s) (hinv : Inv s) (hlock : s.lock = none) : s.mqtt = none := by
  by_contra hmqtt
  obtain ⟨n, hn⟩ := Option.ne_none_iff_exists'.mp hmqtt
  obtain ⟨c, hc⟩ := hdown.handle n hn
  have hwant := hinv.wantLock_of_lock hlock hc
  cases hwant

theorem connecting (hdown : Down s) (hinv : Inv s) {n : StreamId} (hn : s.mqtt = some n) :
    s.streams n = .connecting := by
  obtain ⟨c, hc⟩ := hdown.handle n hn
  exact (hinv.connecting c n hc).2

theorem of_mqtt_eq_none (hmqtt : s.mqtt = none)
    (htask : ∀ t, s.callerPc (.reconnect t) ≠ some .syncing) : Down s where
  handle n hn := by
    rw [hmqtt] at hn
    cases hn
  task := htask

theorem setStream (hdown : Down s) (n : StreamId) (phase : StreamPhase) :
    Down (s.setStream n phase) where
  handle := hdown.handle
  task := hdown.task

theorem setTick (hdown : Down s) {i : Nat} (hfree : s.ticks i = none) :
    Down (s.setTick i (some .wantLock)) where
  handle n hn := by
    obtain ⟨c, hc⟩ := hdown.handle n hn
    refine ⟨c, ?_⟩
    rw [setTick_callerPc, if_neg]
    · exact hc
    · rintro rfl
      rw [callerPc, hfree] at hc
      cases hc
  task t := by
    rw [setTick_callerPc, if_neg (by simp)]
    exact hdown.task t

theorem wake (hdown : Down s) {t : TaskId} {delay : Nat} {later : List Nat}
    (ht : s.tasks t = .asleep delay later) :
    Down (s.setTask t (.ensuring delay later .wantLock)) where
  handle n hn := by
    obtain ⟨c, hc⟩ := hdown.handle n hn
    refine ⟨c, ?_⟩
    rw [setTask_callerPc, if_neg]
    · exact hc
    · rintro rfl
      rw [callerPc, ht] at hc
      cases hc
  task u := by
    rw [setTask_callerPc]
    split_ifs with hu
    · simp [ReconnectPc.ensurePc]
    · exact hdown.task u

theorem leave (hdown : Down s) (hmqtt : s.mqtt = none) (c : Caller) (result : Bool) :
    Down (s.leave c result) := by
  refine of_mqtt_eq_none (by simpa using hmqtt) ?_
  intro t
  rw [leave_callerPc]
  split_ifs with hc
  · simp
  · exact hdown.task t

theorem buildStream (hdown : Down s) {c : Caller} (hpc : s.callerPc c = some .wantLock)
    (n : StreamId) : Down (s.buildStream c n) where
  handle m hm := by
    rw [buildStream_mqtt] at hm
    cases hm
    exact ⟨c, by rw [buildStream_callerPc hpc, if_pos rfl]⟩
  task t := by
    rw [buildStream_callerPc hpc]
    split_ifs with hc
    · simp
    · exact hdown.task t

end Down

/-- The attempts made on the way from `s` to `s'` are the ones that are no longer pending. -/
def Attempted (s s' : MqttState) : Prop :=
  ∃ made, s'.attempts = s.attempts ++ made ∧ made ++ s'.pendingDelays = s.pendingDelays

theorem Attempted.of_eq {s s' : MqttState} (hattempts : s'.attempts = s.attempts)
    (hpending : s'.pendingDelays = s.pendingDelays) : Attempted s s' :=
  ⟨[], by rw [hattempts, List.append_nil], hpending⟩

theorem Attempted.trans {s u v : MqttState} (h : Attempted s u) (h' : Attempted u v) :
    Attempted s v := by
  obtain ⟨made, hattempts, hpending⟩ := h
  obtain ⟨more, hattempts', hpending'⟩ := h'
  refine ⟨made ++ more, ?_, ?_⟩
  · rw [hattempts', hattempts, List.append_assoc]
  · rw [List.append_assoc, hpending', hpending]

theorem attempted_buildStream {s : MqttState} (hinv : Inv s) {c : Caller}
    (hpc : s.callerPc c = some .wantLock) (n : StreamId) : Attempted s (s.buildStream c n) := by
  cases c with
  | tick i => exact .of_eq rfl rfl
  | reconnect t =>
    obtain ⟨delay, later, ht⟩ := ensurePc_eq_some hpc
    have hrecord := hinv.task t (by rw [ht]; rfl)
    refine ⟨[delay], ?_, ?_⟩
    · simp [buildStream, recordAttempt, setCallerPc, MqttState.setStream, setTask, ht,
        ReconnectPc.attempt]
    · simp [pendingDelays, reconnectPc, buildStream, recordAttempt, setCallerPc,
        MqttState.setStream, setTask, hrecord, ht, ReconnectPc.setEnsurePc, ReconnectPc.pending]

theorem attempted_connectFail {s : MqttState} (hinv : Inv s) {c : Caller} {n : StreamId}
    (hpc : s.callerPc c = some (.connecting n)) :
    Attempted s ({ s.setStream n .gone with mqtt := none }.leave c false) := by
  cases c with
  | tick i => exact .of_eq rfl rfl
  | reconnect t =>
    obtain ⟨delay, later, ht⟩ := ensurePc_eq_some hpc
    have hrecord := hinv.task t (by rw [ht]; rfl)
    refine .of_eq rfl ?_
    have hleft : ({ s.setStream n .gone with mqtt := none }.leave (.reconnect t) false).pendingDelays =
        ((s.tasks t).ensured false).pending := pendingDelays_setTask (by exact hrecord) _
    have hbefore : s.pendingDelays = later := by
      simp [pendingDelays, reconnectPc, hrecord, ht, ReconnectPc.pending]
    rw [hleft, ht, hbefore]
    exact ReconnectPc.pending_nextDelay later

/-- Until a connect succeeds, the state stays down and each attempt is the next one pending. -/
theorem Down.step {s s' : MqttState} (hdown : Down s) (hinv : Inv s) {a : Action}
    (hkeeps : KeepsBackoff s a) (hstep : readyMachine.step s a = some s') :
    (∃ c gap, a = .connectOk c gap) ∨ Down s' ∧ Attempted s s' := by
  obtain ⟨hready, hstep⟩ := machine.step_of_restrict hstep
  cases mqttStep_of_step hstep with
  | tick hfree => exact Or.inr ⟨hdown.setTick hfree, .of_eq rfl rfl⟩
  | wakeFound ht hlive =>
    -- The stream that the task finds would have to be connecting.
    obtain ⟨n, hn⟩ := Option.ne_none_iff_exists'.mp hlive
    have hconnecting := hdown.connecting hinv hn
    simp [KeepsBackoff, hn, hconnecting] at hkeeps
  | wake ht hmqtt =>
    have hrecord := hinv.task _ (by rw [ht]; rfl)
    refine Or.inr ⟨hdown.wake ht, .of_eq rfl ?_⟩
    rw [pendingDelays_setTask hrecord]
    simp [pendingDelays, reconnectPc, hrecord, ht, ReconnectPc.pending]
  | found hpc hlock hlive => exact absurd (hdown.mqtt_eq_none hinv hlock) hlive
  | build hpc hlock hborn hmqtt =>
    exact Or.inr ⟨hdown.buildStream hpc _, attempted_buildStream hinv hpc _⟩
  | refuse hpc hlock hmqtt => cases hready
  | connected hpc hquiet => exact Or.inl ⟨_, _, rfl⟩
  | openSse hpc hlive => exact Or.inl ⟨_, _, rfl⟩
  | closeSse hpc hlive hsse => exact Or.inl ⟨_, _, rfl⟩
  | @connectFail c n hpc =>
    have hcleared : Down { s.setStream n .gone with mqtt := none } :=
      .of_mqtt_eq_none rfl hdown.task
    exact Or.inr ⟨hcleared.leave rfl c false, attempted_connectFail hinv hpc⟩
  | @synced c ok hpc =>
    cases c with
    | reconnect t => exact absurd hpc (hdown.task t)
    | tick i =>
      have hmqtt : s.mqtt = none := by
        by_contra hlive
        -- Two callers would be past the lock.
        obtain ⟨n, hn⟩ := Option.ne_none_iff_exists'.mp hlive
        obtain ⟨c, hc⟩ := hdown.handle n hn
        have hsame := hinv.eq_of_critical hpc (by simp) hc (by simp)
        rw [hsame, hpc] at hc
        cases hc
      have hclosed : Down { s with sse := s.sse && !ok } := ⟨hdown.handle, hdown.task⟩
      exact Or.inr ⟨hclosed.leave hmqtt (.tick i) true, .of_eq rfl rfl⟩
  | drop hn => exact Or.inr ⟨hdown.setStream _ _, .of_eq rfl rfl⟩
  | @callback n t hn ht =>
    have hne : s.mqtt ≠ some n := by
      intro hlive
      have hconnecting := hdown.connecting hinv hlive
      rw [hconnecting] at hn
      simp at hn
    rw [step_callback_of_ne hne hstep]
    exact Or.inr ⟨hdown.setStream _ _, .of_eq rfl rfl⟩
  | crash hn => exact Or.inr ⟨hdown.setStream _ _, .of_eq rfl rfl⟩

theorem mqtt_of_connectOk {s s' : MqttState} (hinv : Inv s) {c : Caller} {gap : Bool}
    (hstep : readyMachine.step s (.connectOk c gap) = some s') : s'.mqtt ≠ none := by
  have hlive : ∀ {n}, s.callerPc c = some (.connecting n) → s.mqtt ≠ none := by
    intro n hpc hmqtt
    have hn := (hinv.connecting c n hpc).1
    rw [hmqtt] at hn
    cases hn
  cases mqttStep_of_step (step_of_ready hstep) with
  | connected hpc hquiet => simpa using hlive hpc
  | openSse hpc hmqtt => simpa using hmqtt
  | closeSse hpc hmqtt hsse => simpa using hmqtt

theorem Reconnected.cons {s s' : MqttState} {a : Action} {as : List Action}
    (hstep : readyMachine.step s a = some s') (h : Reconnected s' as) : Reconnected s (a :: as) := by
  obtain ⟨pre, c, gap, post, u, rfl, hrun, hmqtt⟩ := h
  exact ⟨a :: pre, c, gap, post, u, rfl, readyMachine.run_cons_eq_some.mpr ⟨s', hstep, hrun⟩, hmqtt⟩

/-- A run that stays down makes the attempts in the order they were pending. -/
theorem Down.run {s u : MqttState} (hdown : Down s) (hinv : Inv s) {as : List Action}
    (hkeeps : readyMachine.Along KeepsBackoff s as) (hrun : readyMachine.run s as = some u) :
    Reconnected s as ∨ Attempted s u := by
  induction as generalizing s with
  | nil =>
    cases hrun
    exact Or.inr (.of_eq rfl rfl)
  | cons a as ih =>
    obtain ⟨s', hstep, hrest⟩ := readyMachine.run_cons_eq_some.mp hrun
    rcases hdown.step hinv hkeeps.1 hstep with ⟨c, gap, rfl⟩ | ⟨hdown', hattempted⟩
    · refine Or.inl ⟨[], c, gap, as, s', rfl, ?_, mqtt_of_connectOk hinv hstep⟩
      simp [Machine.run_cons, hstep]
    · have hinv' := hinv.step (step_of_ready hstep)
      rcases ih hdown' hinv' (hkeeps.2 s' hstep) hrest with hback | hmore
      · exact Or.inl (hback.cons hstep)
      · exact Or.inr (hattempted.trans hmore)

/-! ## The drop itself -/

section Callback

variable {s s' : MqttState} {n : StreamId} {t : TaskId}

theorem callback_eq (hstep : readyMachine.step s (.callback n t) = some s') :
    s' = (s.setStream n .gone).handleMqttDisconnect n t := by
  cases mqttStep_of_step (step_of_ready hstep) with
  | callback hn ht => rfl

theorem callback_of_busy (hlive : s.mqtt = some n) (hbusy : s.reconnecting = true)
    (hstep : readyMachine.step s (.callback n t) = some s') :
    s' = { s.setStream n .gone with mqtt := none } :=
  (callback_eq hstep).trans ((s.setStream n .gone).handleMqttDisconnect_of_reconnecting hlive hbusy t)

theorem callback_of_idle (hlive : s.mqtt = some n) (hidle : s.reconnecting = false)
    (hstep : readyMachine.step s (.callback n t) = some s') :
    s' = { s.setStream n .gone with mqtt := none, reconnectTask := some t }.setTask t
      (nextDelay MQTT_RECONNECT_BACKOFF) :=
  (callback_eq hstep).trans ((s.setStream n .gone).handleMqttDisconnect_of_idle hlive hidle t)

/-- Right after the drop the whole backoff is pending. -/
theorem down_callback (hinv : Inv s) (hlive : s.mqtt = some n)
    (hkeeps : KeepsBackoff s (.callback n t))
    (hstep : readyMachine.step s (.callback n t) = some s') :
    Down s' ∧ s'.pendingDelays = MQTT_RECONNECT_BACKOFF := by
  cases hbusy : s.reconnecting with
  | true =>
    have hpending := hkeeps hlive hbusy
    rw [callback_of_busy hlive hbusy hstep]
    refine ⟨.of_mqtt_eq_none rfl ?_, hpending⟩
    -- A task in `_sync_sse` would have nothing pending.
    intro u hu
    obtain ⟨delay, later, htask⟩ := ensurePc_eq_some hu
    have hpc := reconnectPc_of_unfinished hinv (t := u) (by rw [show s.tasks u = _ from htask]; rfl)
    rw [pendingDelays, hpc, show s.tasks u = _ from htask] at hpending
    cases hpending
  | false =>
    rw [callback_of_idle hlive hbusy hstep]
    refine ⟨.of_mqtt_eq_none rfl ?_, pendingDelays_setTask rfl _⟩
    intro u
    rw [setTask_callerPc]
    split_ifs with hu
    · simp [nextDelay, MQTT_RECONNECT_BACKOFF, ReconnectPc.ensurePc]
    · intro hpc
      obtain ⟨delay, later, htask⟩ := ensurePc_eq_some hpc
      have hfinished := hinv.finished_of_idle hbusy u
      rw [show s.tasks u = _ from htask] at hfinished
      cases hfinished

end Callback

/-- What is left to attempt is the rest of the backoff, and nothing once the task is done. -/
theorem BacksOff.of_attempted {s u : MqttState} (h : Attempted s u)
    (hpending : s.pendingDelays = MQTT_RECONNECT_BACKOFF) : BacksOff s u := by
  obtain ⟨made, hattempts, hleft⟩ := h
  refine ⟨made, u.pendingDelays, hattempts, hleft.trans hpending, ?_⟩
  intro hidle
  rw [reconnecting_eq] at hidle
  exact ReconnectPc.pending_of_finished hidle

/-- In a run that keeps the backoff no drop is lost. -/
theorem dropsRecover {as : List Action} (hkeeps : readyMachine.Along KeepsBackoff init as) :
    DropsRecover init as := by
  rintro pre n t post s₁ s₂ u rfl hpre hlive hstep hpost
  have hinv₁ : Inv s₁ := inv_of_reachable (Machine.Reachable.of_restrict ⟨pre, hpre⟩)
  have hfrom := hkeeps.of_append hpre
  obtain ⟨hdown, hpending⟩ := down_callback hinv₁ hlive hfrom.1 hstep
  have hinv₂ := hinv₁.step (step_of_ready hstep)
  rcases hdown.run hinv₂ (hfrom.2 s₂ hstep) hpost with hback | hattempted
  · exact Or.inl hback
  · exact Or.inr (.of_attempted hattempted hpending)

/-! ## Runs that lose a drop, and one that does not -/

theorem Reconnected.mem {s : MqttState} {as : List Action} (h : Reconnected s as) :
    ∃ c gap, Action.connectOk c gap ∈ as := by
  obtain ⟨pre, c, gap, post, u, rfl, -, -⟩ := h
  exact ⟨c, gap, by simp⟩

def isConnectOk : Action → Bool
  | .connectOk _ _ => true
  | _ => false

/-- The drop is lost where no connect succeeds and the task is done with an attempt unmade. -/
theorem not_dropsRecover {pre post : List Action} {n : StreamId} {t : TaskId} {s₁ s₂ u : MqttState}
    (hpre : readyMachine.run init pre = some s₁) (hlive : s₁.mqtt = some n)
    (hstep : readyMachine.step s₁ (.callback n t) = some s₂)
    (hpost : readyMachine.run s₂ post = some u) (hfails : post.any isConnectOk = false)
    (hdone : u.reconnecting = false) (hmissed : u.attempts ≠ s₂.attempts ++ MQTT_RECONNECT_BACKOFF) :
    ¬ DropsRecover init (pre ++ .callback n t :: post) := by
  intro hrecover
  rcases hrecover pre n t post s₁ s₂ u rfl hpre hlive hstep hpost with
    hback | ⟨made, rest, hmade, hall, hrest⟩
  · obtain ⟨c, gap, hmem⟩ := hback.mem
    have hnone := List.any_eq_false.mp hfails _ hmem
    exact hnone rfl
  · rw [hrest hdone, List.append_nil] at hall
    rw [hall] at hmade
    exact hmissed hmade

/-- A tick connects stream 0, with the SSE supplement open if there is a gap, and the stream
drops. -/
def firstDrop (gap : Bool) : List Action :=
  [.tick 0, .acquire (.tick 0) true 0, .connectOk (.tick 0) gap, .drop 0]

/-- The reconnect task has built the next stream and is closing the supplement when that one drops,
too. -/
def droppedWhileSyncing : List Action :=
  firstDrop true ++ [.callback 0 0, .wake 0, .acquire (.reconnect 0) true 1,
    .connectOk (.reconnect 0) false, .drop 1]

/-- The attempt after 5 s fails, a tick connects, and the stream drops while the task is asleep. -/
def droppedWhileAsleep : List Action :=
  firstDrop false ++ [.callback 0 0, .wake 0, .acquire (.reconnect 0) true 1,
    .connectFail (.reconnect 0), .tick 1, .acquire (.tick 1) true 2, .connectOk (.tick 1) false,
    .drop 2]

/-- The attempts of the reconnect task at the delays that are left fail one after the other. -/
def failedAttempts (t : TaskId) : List StreamId → List Action
  | [] => []
  | n :: ns =>
    .wake t :: .acquire (.reconnect t) true n :: .connectFail (.reconnect t) :: failedAttempts t ns

/-- A tick is connecting when the reconnect task wakes: the task is done, and the connect fails. -/
def wokenWhileConnecting : List Action :=
  [.tick 1, .acquire (.tick 1) true 1, .wake 0, .connectFail (.tick 1)]

theorem drops_lost :
    ¬ DropsRecover init (droppedWhileSyncing ++ [.callback 1 1, .synced (.reconnect 0) true]) ∧
      ¬ DropsRecover init (droppedWhileAsleep ++ .callback 2 1 :: failedAttempts 0 [3, 4, 5, 6]) ∧
      ¬ DropsRecover init (firstDrop false ++ .callback 0 0 :: wokenWhileConnecting) :=
  ⟨not_dropsRecover rfl rfl rfl rfl rfl rfl (by decide),
    not_dropsRecover rfl rfl rfl rfl rfl rfl (by decide),
    not_dropsRecover rfl rfl rfl rfl rfl rfl (by decide)⟩

/-- All five attempts fail. -/
def outage : List Action := firstDrop true ++ .callback 0 0 :: failedAttempts 0 [1, 2, 3, 4, 5]

theorem dropsRecover_outage :
    DropsRecover init outage ∧
      (readyMachine.run init outage).map attempts = some [5, 15, 60, 180, 300] :=
  ⟨dropsRecover (by decide), rfl⟩

end MqttState

end Eisenberg.Coordinator
