import Eisenberg.Coordinator.Reconnect

/-!
# One stream, one reconnect task

The invariant of the reconnect machine: a stream whose listen loop runs is the one the handle refers
to, whoever is past the lock holds it, and an unfinished reconnect task is the recorded one.
-/

namespace Eisenberg.Coordinator

open Framework

namespace MqttState

/-! ## What the updates change -/

section Updates

variable (s : MqttState) (c : Caller)

@[simp] theorem setStream_mqtt (stream : StreamId) (phase : StreamPhase) :
    (s.setStream stream phase).mqtt = s.mqtt := rfl

@[simp] theorem setStream_streams (stream other : StreamId) (phase : StreamPhase) :
    (s.setStream stream phase).streams other = if other = stream then phase else s.streams other :=
  Function.update_apply ..

@[simp] theorem leave_mqtt (result : Bool) : (s.leave c result).mqtt = s.mqtt := by
  cases c <;> rfl

@[simp] theorem leave_streams (result : Bool) : (s.leave c result).streams = s.streams := by
  cases c <;> rfl

@[simp] theorem leave_reconnectTask (result : Bool) :
    (s.leave c result).reconnectTask = s.reconnectTask := by
  cases c <;> rfl

@[simp] theorem leave_sse (result : Bool) : (s.leave c result).sse = s.sse := by
  cases c <;> rfl

@[simp] theorem leave_attempts (result : Bool) : (s.leave c result).attempts = s.attempts := by
  cases c <;> rfl

@[simp] theorem setCallerPc_mqtt (pc : EnsurePc) : (s.setCallerPc c pc).mqtt = s.mqtt := by
  cases c <;> rfl

@[simp] theorem setCallerPc_lock (pc : EnsurePc) : (s.setCallerPc c pc).lock = s.lock := by
  cases c <;> rfl

@[simp] theorem setCallerPc_streams (pc : EnsurePc) :
    (s.setCallerPc c pc).streams = s.streams := by
  cases c <;> rfl

@[simp] theorem setCallerPc_reconnectTask (pc : EnsurePc) :
    (s.setCallerPc c pc).reconnectTask = s.reconnectTask := by
  cases c <;> rfl

theorem handleMqttDisconnect_of_ne {stream : StreamId} (h : s.mqtt ≠ some stream) (t : TaskId) :
    s.handleMqttDisconnect stream t = s := if_neg h

theorem handleMqttDisconnect_of_reconnecting {stream : StreamId} (h : s.mqtt = some stream)
    (hbusy : s.reconnecting = true) (t : TaskId) :
    s.handleMqttDisconnect stream t = { s with mqtt := none } :=
  (if_pos h).trans (if_pos hbusy)

theorem handleMqttDisconnect_of_idle {stream : StreamId} (h : s.mqtt = some stream)
    (hidle : s.reconnecting = false) (t : TaskId) :
    s.handleMqttDisconnect stream t =
      { s with mqtt := none, reconnectTask := some t }.setTask t
        (nextDelay MQTT_RECONNECT_BACKOFF) :=
  (if_pos h).trans (if_neg (fun hbusy => Bool.noConfusion (hbusy.symm.trans hidle)))

end Updates

theorem handleMqttDisconnect_streams (s : MqttState) (n : StreamId) (t : TaskId) :
    (s.handleMqttDisconnect n t).streams = s.streams := by
  by_cases hmqtt : s.mqtt = some n
  · cases hbusy : s.reconnecting with
    | true => rw [s.handleMqttDisconnect_of_reconnecting hmqtt hbusy]
    | false =>
      rw [s.handleMqttDisconnect_of_idle hmqtt hbusy]
      rfl
  · rw [s.handleMqttDisconnect_of_ne hmqtt]

theorem handleMqttDisconnect_sse (s : MqttState) (n : StreamId) (t : TaskId) :
    (s.handleMqttDisconnect n t).sse = s.sse := by
  simp only [MqttState.handleMqttDisconnect]
  split_ifs <;> rfl

theorem ensurePc_eq_some {r : ReconnectPc} {pc : EnsurePc} (h : r.ensurePc = some pc) :
    ∃ delay later, r = .ensuring delay later pc := by
  cases r with
  | ensuring delay later pc' =>
    cases h
    exact ⟨delay, later, rfl⟩
  | unborn => cases h
  | asleep delay later => cases h
  | done => cases h

theorem setStream_leave (s : MqttState) (n : StreamId) (phase : StreamPhase) (c : Caller)
    (result : Bool) :
    (s.setStream n phase).leave c result = (s.leave c result).setStream n phase := by
  cases c <;> rfl

theorem setStream_setCallerPc (s : MqttState) (n : StreamId) (phase : StreamPhase) (c : Caller)
    (pc : EnsurePc) :
    (s.setStream n phase).setCallerPc c pc = (s.setCallerPc c pc).setStream n phase := by
  cases c <;> rfl

theorem setSse_leave (s : MqttState) (sse : Bool) (c : Caller) (result : Bool) :
    { s with sse := sse }.leave c result = { s.leave c result with sse := sse } := by
  cases c <;> rfl

theorem clearMqtt_leave (s : MqttState) (c : Caller) (result : Bool) :
    { s with mqtt := none }.leave c result = { s.leave c result with mqtt := none } := by
  cases c <;> rfl

theorem ensurePc_ensured (pc : ReconnectPc) (result : Bool) :
    (pc.ensured result).ensurePc = none := by
  cases pc with
  | ensuring delay later pc => cases result <;> cases later <;> rfl
  | unborn => rfl
  | asleep delay later => rfl
  | done => rfl

theorem unfinished_ensured {pc : ReconnectPc} {result : Bool}
    (h : (pc.ensured result).unfinished = true) : pc.unfinished = true := by
  cases pc with
  | ensuring delay later pc => rfl
  | unborn => exact h
  | asleep delay later => rfl
  | done => exact h

theorem unfinished_setEnsurePc (pc : EnsurePc) (r : ReconnectPc) :
    (r.setEnsurePc pc).unfinished = r.unfinished := by
  cases r <;> rfl

theorem leave_callerPc (s : MqttState) (c other : Caller) (result : Bool) :
    (s.leave c result).callerPc other = if other = c then none else s.callerPc other := by
  cases c with
  | tick i =>
    cases other with
    | tick j => by_cases h : j = i <;> simp [leave, callerPc, setTick, h]
    | reconnect t => simp [leave, callerPc, setTick]
  | reconnect t =>
    cases other with
    | tick j => simp [leave, callerPc, setTask]
    | reconnect u =>
      by_cases h : u = t <;> simp [leave, callerPc, setTask, h, ensurePc_ensured]

theorem setCallerPc_callerPc {s : MqttState} {c : Caller} {old : EnsurePc}
    (h : s.callerPc c = some old) (pc : EnsurePc) (other : Caller) :
    (s.setCallerPc c pc).callerPc other = if other = c then some pc else s.callerPc other := by
  cases c with
  | tick i =>
    cases other with
    | tick j => by_cases hj : j = i <;> simp [setCallerPc, callerPc, setTick, hj]
    | reconnect t => simp [setCallerPc, callerPc, setTick]
  | reconnect t =>
    have ht : ((s.tasks t).setEnsurePc pc).ensurePc = some pc := by
      cases hpc : s.tasks t <;> simp [callerPc, hpc, ReconnectPc.ensurePc] at h
      rfl
    cases other with
    | tick j => simp [setCallerPc, callerPc, setTask]
    | reconnect u => by_cases hu : u = t <;> simp [setCallerPc, callerPc, setTask, hu, ht]

theorem leave_unfinished {s : MqttState} {c : Caller} {result : Bool} {t : TaskId}
    (h : ((s.leave c result).tasks t).unfinished = true) : (s.tasks t).unfinished = true := by
  cases c with
  | tick i => exact h
  | reconnect u =>
    by_cases hu : t = u
    · subst hu
      exact unfinished_ensured (by simpa [leave, setTask] using h)
    · simpa [leave, setTask, hu] using h

theorem setCallerPc_unfinished (s : MqttState) (c : Caller) (pc : EnsurePc) (t : TaskId) :
    ((s.setCallerPc c pc).tasks t).unfinished = (s.tasks t).unfinished := by
  cases c with
  | tick i => rfl
  | reconnect u => by_cases hu : t = u <;> simp [setCallerPc, setTask, hu, unfinished_setEnsurePc]

section Build

variable {s : MqttState} {c : Caller} {n : StreamId}

@[simp] theorem buildStream_mqtt : (s.buildStream c n).mqtt = some n := by
  cases c <;> rfl

@[simp] theorem buildStream_lock : (s.buildStream c n).lock = some c := by
  cases c <;> rfl

@[simp] theorem buildStream_reconnectTask :
    (s.buildStream c n).reconnectTask = s.reconnectTask := by
  cases c <;> rfl

theorem buildStream_streams (m : StreamId) :
    (s.buildStream c n).streams m = if m = n then .connecting else s.streams m := by
  cases c <;> exact Function.update_apply ..

theorem buildStream_callerPc {old : EnsurePc} (h : s.callerPc c = some old) (other : Caller) :
    (s.buildStream c n).callerPc other =
      if other = c then some (.connecting n) else s.callerPc other := by
  have hcallers (c' : Caller) :
      ({ s.recordAttempt c with mqtt := some n, lock := some c }.setStream n .connecting).callerPc
        c' = s.callerPc c' := by
    cases c <;> cases c' <;> rfl
  rw [buildStream, setCallerPc_callerPc ((hcallers c).trans h), hcallers]

theorem buildStream_unfinished (t : TaskId) :
    ((s.buildStream c n).tasks t).unfinished = (s.tasks t).unfinished := by
  rw [buildStream, setCallerPc_unfinished]
  cases c <;> rfl

end Build

/-- What each action does, and when. -/
inductive MqttStep (s : MqttState) : Action → MqttState → Prop
  | tick {i : Nat} : s.ticks i = none → MqttStep s (.tick i) (s.setTick i (some .wantLock))
  | wakeFound {t : TaskId} {delay : Nat} {later : List Nat} :
      s.tasks t = .asleep delay later → s.mqtt ≠ none → MqttStep s (.wake t) (s.setTask t .done)
  | wake {t : TaskId} {delay : Nat} {later : List Nat} :
      s.tasks t = .asleep delay later → s.mqtt = none →
      MqttStep s (.wake t) (s.setTask t (.ensuring delay later .wantLock))
  | found {c : Caller} {ready : Bool} {n : StreamId} :
      s.callerPc c = some .wantLock → s.lock = none → s.mqtt ≠ none →
      MqttStep s (.acquire c ready n) (s.leave c true)
  | build {c : Caller} {n : StreamId} :
      s.callerPc c = some .wantLock → s.lock = none → s.streams n = .unborn → s.mqtt = none →
      MqttStep s (.acquire c true n) (s.buildStream c n)
  | refuse {c : Caller} {n : StreamId} :
      s.callerPc c = some .wantLock → s.lock = none → s.mqtt = none →
      MqttStep s (.acquire c false n) (s.leave c false)
  | connected {c : Caller} {gap : Bool} {n : StreamId} :
      s.callerPc c = some (.connecting n) → s.mqtt = none ∨ gap = false ∧ s.sse = false →
      MqttStep s (.connectOk c gap) ((s.setStream n .listening).leave c true)
  | openSse {c : Caller} {n : StreamId} :
      s.callerPc c = some (.connecting n) → s.mqtt ≠ none →
      MqttStep s (.connectOk c true) ({ s.setStream n .listening with sse := true }.leave c true)
  | closeSse {c : Caller} {n : StreamId} :
      s.callerPc c = some (.connecting n) → s.mqtt ≠ none → s.sse = true →
      MqttStep s (.connectOk c false) ((s.setStream n .listening).setCallerPc c .syncing)
  | connectFail {c : Caller} {n : StreamId} :
      s.callerPc c = some (.connecting n) →
      MqttStep s (.connectFail c) ({ s.setStream n .gone with mqtt := none }.leave c false)
  | synced {c : Caller} {ok : Bool} :
      s.callerPc c = some .syncing →
      MqttStep s (.synced c ok) ({ s with sse := s.sse && !ok }.leave c true)
  | drop {n : StreamId} :
      s.streams n = .listening → MqttStep s (.drop n) (s.setStream n .ended)
  | callback {n : StreamId} {t : TaskId} :
      s.streams n = .ended ∨ s.streams n = .gone → s.tasks t = .unborn →
      MqttStep s (.callback n t) ((s.setStream n .gone).handleMqttDisconnect n t)
  | crash {n : StreamId} :
      s.streams n = .listening → MqttStep s (.crash n) (s.setStream n .gone)

theorem mqttStep_of_step {s s' : MqttState} {a : Action} (h : step s a = some s') :
    MqttStep s a s' := by
  cases a with
  | tick i =>
    simp only [step] at h
    split_ifs at h with hfree
    cases h
    exact .tick hfree
  | wake t =>
    simp only [step] at h
    split at h
    next delay later ht =>
      split_ifs at h with hmqtt
      · cases h
        exact .wakeFound ht (Option.isSome_iff_ne_none.mp hmqtt)
      · cases h
        exact .wake ht (by simpa using hmqtt)
    next => cases h
  | acquire c ready n =>
    simp only [step] at h
    split_ifs at h with hguard hmqtt hready
    · cases h
      exact .found hguard.1 hguard.2.1 (Option.isSome_iff_ne_none.mp hmqtt)
    · cases h
      subst hready
      exact .build hguard.1 hguard.2.1 hguard.2.2 (by simpa using hmqtt)
    · cases h
      cases Bool.eq_false_iff.mpr hready
      exact .refuse hguard.1 hguard.2.1 (by simpa using hmqtt)
  | connectOk c gap =>
    simp only [step] at h
    split at h
    next n hpc =>
      split_ifs at h with hmqtt hgap hsse
      · cases h
        exact .connected hpc (Or.inl (by simpa using hmqtt))
      · cases h
        subst hgap
        exact .openSse hpc (by simpa using hmqtt)
      · cases h
        cases Bool.eq_false_iff.mpr hgap
        exact .closeSse hpc (by simpa using hmqtt) hsse
      · cases h
        exact .connected hpc
          (Or.inr ⟨Bool.eq_false_iff.mpr hgap, Bool.eq_false_iff.mpr hsse⟩)
    next => cases h
  | connectFail c =>
    simp only [step] at h
    split at h
    next n hpc =>
      cases h
      exact .connectFail hpc
    next => cases h
  | synced c ok =>
    simp only [step] at h
    split_ifs at h with hpc
    cases h
    exact .synced hpc
  | drop n =>
    simp only [step] at h
    split_ifs at h with hn
    cases h
    exact .drop hn
  | callback n t =>
    simp only [step] at h
    split_ifs at h with hguard
    cases h
    exact .callback hguard.1 hguard.2
  | crash n =>
    simp only [step] at h
    split_ifs at h with hn
    cases h
    exact .crash hn

/-- What holds in every state the machine reaches. -/
structure Inv (s : MqttState) : Prop where
  listening : ∀ n, s.streams n = .listening ∨ s.streams n = .ended → s.mqtt = some n
  critical : ∀ c pc, s.callerPc c = some pc → pc ≠ .wantLock → s.lock = some c
  connecting : ∀ c n, s.callerPc c = some (.connecting n) →
    s.mqtt = some n ∧ s.streams n = .connecting
  task : ∀ t, (s.tasks t).unfinished = true → s.reconnectTask = some t

theorem Inv.init : Inv init where
  listening n h := by simp [MqttState.init] at h
  critical c pc h := by cases c <;> simp [MqttState.init, callerPc, ReconnectPc.ensurePc] at h
  connecting c n h := by cases c <;> simp [MqttState.init, callerPc, ReconnectPc.ensurePc] at h
  task t h := by simp [MqttState.init, ReconnectPc.unfinished] at h

namespace Inv

variable {s : MqttState}

/-- Whoever holds the lock is the only one past it. -/
theorem eq_of_critical (hinv : Inv s) {c c' : Caller} {pc pc' : EnsurePc}
    (h : s.callerPc c = some pc) (hpc : pc ≠ .wantLock) (h' : s.callerPc c' = some pc')
    (hpc' : pc' ≠ .wantLock) : c' = c := by
  have hlock := hinv.critical c pc h hpc
  rw [hinv.critical c' pc' h' hpc'] at hlock
  exact Option.some.inj hlock

theorem wantLock_of_lock (hinv : Inv s) (hlock : s.lock = none) {c : Caller} {pc : EnsurePc}
    (h : s.callerPc c = some pc) : pc = .wantLock := by
  by_contra hpc
  rw [hinv.critical c pc h hpc] at hlock
  cases hlock

theorem leave (hinv : Inv s) {c : Caller} {pc : EnsurePc} (h : s.callerPc c = some pc)
    (hpc : pc ≠ .wantLock ∨ s.lock = none) (result : Bool) : Inv (s.leave c result) where
  listening n hn := by
    rw [leave_streams] at hn
    rw [leave_mqtt]
    exact hinv.listening n hn
  critical c' pc' hc' hpc' := by
    rw [leave_callerPc] at hc'
    split_ifs at hc' with hne
    rcases hpc with hpc | hlock
    · exact absurd (hinv.eq_of_critical h hpc hc' hpc') hne
    · exact absurd (hinv.wantLock_of_lock hlock hc') hpc'
  connecting c' n hc' := by
    rw [leave_callerPc] at hc'
    split_ifs at hc' with hne
    rw [leave_mqtt, leave_streams]
    exact hinv.connecting c' n hc'
  task t ht := by
    rw [leave_reconnectTask]
    exact hinv.task t (leave_unfinished ht)

theorem setTick (hinv : Inv s) (i : Nat) : Inv (s.setTick i (some .wantLock)) where
  listening := hinv.listening
  critical c pc hc hpc := by
    cases c with
    | tick j =>
      by_cases hj : j = i
      · simp [MqttState.setTick, callerPc, hj] at hc
        exact absurd hc.symm hpc
      · exact hinv.critical (.tick j) pc (by simpa [MqttState.setTick, callerPc, hj] using hc) hpc
    | reconnect t => exact hinv.critical (.reconnect t) pc hc hpc
  connecting c n hc := by
    cases c with
    | tick j =>
      by_cases hj : j = i
      · simp [MqttState.setTick, callerPc, hj] at hc
      · exact hinv.connecting (.tick j) n (by simpa [MqttState.setTick, callerPc, hj] using hc)
    | reconnect t => exact hinv.connecting (.reconnect t) n hc
  task := hinv.task

theorem setTask (hinv : Inv s) {t : TaskId} {pc : ReconnectPc}
    (hpc : pc.ensurePc = none ∨ pc.ensurePc = some .wantLock)
    (htask : pc.unfinished = true → s.reconnectTask = some t) : Inv (s.setTask t pc) where
  listening := hinv.listening
  critical c pc' hc hpc' := by
    cases c with
    | tick i => exact hinv.critical (.tick i) pc' hc hpc'
    | reconnect u =>
      by_cases hu : u = t
      · simp only [callerPc, MqttState.setTask, hu, Function.update_self] at hc
        rcases hpc with hnone | hwant
        · rw [hnone] at hc
          cases hc
        · rw [hwant] at hc
          exact absurd (Option.some.inj hc).symm hpc'
      · exact hinv.critical (.reconnect u) pc'
          (by simpa [callerPc, MqttState.setTask, hu] using hc) hpc'
  connecting c n hc := by
    cases c with
    | tick i => exact hinv.connecting (.tick i) n hc
    | reconnect u =>
      by_cases hu : u = t
      · simp only [callerPc, MqttState.setTask, hu, Function.update_self] at hc
        rcases hpc with hnone | hwant
        · rw [hnone] at hc
          cases hc
        · rw [hwant] at hc
          cases hc
      · exact hinv.connecting (.reconnect u) n
          (by simpa [callerPc, MqttState.setTask, hu] using hc)
  task u hu := by
    by_cases hut : u = t
    · subst hut
      exact htask (by simpa [MqttState.setTask] using hu)
    · exact hinv.task u (by simpa [MqttState.setTask, hut] using hu)

theorem setStream (hinv : Inv s) {n : StreamId} {phase : StreamPhase}
    (hold : ∀ c, s.callerPc c ≠ some (.connecting n))
    (hnew : phase = .listening ∨ phase = .ended → s.mqtt = some n) :
    Inv (s.setStream n phase) where
  listening m hm := by
    rw [setStream_streams] at hm
    split_ifs at hm with hmn
    · subst hmn
      exact hnew hm
    · exact hinv.listening m hm
  critical := hinv.critical
  connecting c m hc := by
    obtain ⟨hmqtt, hphase⟩ := hinv.connecting c m hc
    refine ⟨hmqtt, ?_⟩
    rw [setStream_streams]
    split_ifs with hmn
    · subst hmn
      exact absurd hc (hold c)
    · exact hphase
  task := hinv.task

theorem not_connecting (hinv : Inv s) {n : StreamId} (h : s.streams n ≠ .connecting) (c : Caller) :
    s.callerPc c ≠ some (.connecting n) :=
  fun hc => h (hinv.connecting c n hc).2

/-- The one caller past the lock is the one that leaves. -/
theorem not_connecting_leave (hinv : Inv s) {c : Caller} {pc : EnsurePc}
    (h : s.callerPc c = some pc) (hpc : pc ≠ .wantLock) (result : Bool) (n : StreamId)
    (c' : Caller) : (s.leave c result).callerPc c' ≠ some (.connecting n) := by
  intro hc'
  rw [leave_callerPc] at hc'
  split_ifs at hc' with hne
  exact hne (hinv.eq_of_critical h hpc hc' (by simp))

theorem clearMqtt (hinv : Inv s) {n : StreamId} (hmqtt : s.mqtt = some n)
    (hgone : s.streams n = .gone) : Inv { s with mqtt := none } where
  listening m hm := by
    have hm' := hinv.listening m hm
    rw [hmqtt] at hm'
    cases hm'
    simp [hgone] at hm
  critical := hinv.critical
  connecting c m hc := by
    obtain ⟨hm, hphase⟩ := hinv.connecting c m hc
    rw [hmqtt] at hm
    cases hm
    rw [hgone] at hphase
    cases hphase
  task := hinv.task

theorem setSse (hinv : Inv s) (sse : Bool) : Inv { s with sse := sse } where
  listening := hinv.listening
  critical := hinv.critical
  connecting := hinv.connecting
  task := hinv.task

theorem setCallerPc_syncing (hinv : Inv s) {c : Caller} {pc : EnsurePc}
    (h : s.callerPc c = some pc) (hpc : pc ≠ .wantLock) : Inv (s.setCallerPc c .syncing) where
  listening n hn := by
    rw [setCallerPc_streams] at hn
    rw [setCallerPc_mqtt]
    exact hinv.listening n hn
  critical c' pc' hc' hpc' := by
    rw [setCallerPc_callerPc h] at hc'
    rw [setCallerPc_lock]
    split_ifs at hc' with hne
    · subst hne
      exact hinv.critical c' pc h hpc
    · exact hinv.critical c' pc' hc' hpc'
  connecting c' n hc' := by
    rw [setCallerPc_callerPc h] at hc'
    rw [setCallerPc_mqtt, setCallerPc_streams]
    split_ifs at hc' with hne
    · cases hc'
    · exact hinv.connecting c' n hc'
  task t ht := by
    rw [setCallerPc_unfinished] at ht
    rw [setCallerPc_reconnectTask]
    exact hinv.task t ht

theorem buildStream (hinv : Inv s) {c : Caller} (h : s.callerPc c = some .wantLock)
    (hlock : s.lock = none) (hmqtt : s.mqtt = none) (n : StreamId) : Inv (s.buildStream c n) where
  listening m hm := by
    rw [buildStream_streams] at hm
    split_ifs at hm with hmn
    · simp at hm
    · have hm' := hinv.listening m hm
      rw [hmqtt] at hm'
      cases hm'
  critical c' pc hc' hpc := by
    rw [buildStream_callerPc h] at hc'
    split_ifs at hc' with hne
    · rw [buildStream_lock, hne]
    · exact absurd (hinv.wantLock_of_lock hlock hc') hpc
  connecting c' m hc' := by
    rw [buildStream_callerPc h] at hc'
    split_ifs at hc' with hne
    · cases hc'
      exact ⟨buildStream_mqtt, by rw [buildStream_streams, if_pos rfl]⟩
    · cases hinv.wantLock_of_lock hlock hc'
  task t ht := by
    rw [buildStream_unfinished] at ht
    rw [buildStream_reconnectTask]
    exact hinv.task t ht

theorem finished_of_idle (hinv : Inv s) (hidle : s.reconnecting = false) (t : TaskId) :
    (s.tasks t).unfinished = false := by
  by_contra ht
  have ht' : (s.tasks t).unfinished = true := by simpa using ht
  simp [reconnecting, hinv.task t ht', ht'] at hidle

theorem handleMqttDisconnect (hinv : Inv s) {n : StreamId} (hgone : s.streams n = .gone)
    (t : TaskId) : Inv (s.handleMqttDisconnect n t) := by
  by_cases hmqtt : s.mqtt = some n
  · have hclear := hinv.clearMqtt hmqtt hgone
    cases hbusy : s.reconnecting with
    | true =>
      rw [s.handleMqttDisconnect_of_reconnecting hmqtt hbusy]
      exact hclear
    | false =>
      rw [s.handleMqttDisconnect_of_idle hmqtt hbusy]
      have hrecord : Inv { s with mqtt := none, reconnectTask := some t } :=
        { listening := hclear.listening
          critical := hclear.critical
          connecting := hclear.connecting
          task := fun u hu => absurd hu (by simp [hinv.finished_of_idle hbusy u]) }
      exact hrecord.setTask (Or.inl rfl) (fun _ => rfl)
  · rw [s.handleMqttDisconnect_of_ne hmqtt]
    exact hinv

end Inv

theorem Inv.connected {s : MqttState} (hinv : Inv s) {c : Caller} {n : StreamId}
    (hpc : s.callerPc c = some (.connecting n)) :
    Inv ((s.setStream n .listening).leave c true) := by
  have hmqtt := (hinv.connecting c n hpc).1
  have hleft := hinv.leave hpc (Or.inl (by simp)) true
  rw [setStream_leave]
  exact hleft.setStream (hinv.not_connecting_leave hpc (by simp) true n)
    (fun _ => by simpa using hmqtt)

theorem Inv.step {s s' : MqttState} {a : Action} (hinv : Inv s) (h : step s a = some s') :
    Inv s' := by
  cases mqttStep_of_step h with
  | tick hfree => exact hinv.setTick _
  | wakeFound ht hmqtt => exact hinv.setTask (Or.inl rfl) (by simp [ReconnectPc.unfinished])
  | wake ht hmqtt =>
    have hrecord := hinv.task _ (by rw [ht]; rfl)
    exact hinv.setTask (Or.inr rfl) (fun _ => hrecord)
  | found hpc hlock hmqtt => exact hinv.leave hpc (Or.inr hlock) true
  | build hpc hlock hborn hmqtt => exact hinv.buildStream hpc hlock hmqtt _
  | refuse hpc hlock hmqtt => exact hinv.leave hpc (Or.inr hlock) false
  | connected hpc hquiet => exact hinv.connected hpc
  | openSse hpc hmqtt =>
    rw [setSse_leave]
    exact (hinv.connected hpc).setSse true
  | closeSse hpc hmqtt hsse =>
    have hlive := (hinv.connecting _ _ hpc).1
    have hsyncing := hinv.setCallerPc_syncing hpc (by simp)
    rw [setStream_setCallerPc]
    refine hsyncing.setStream (fun c' hc' => ?_) (fun _ => by simpa using hlive)
    rw [setCallerPc_callerPc hpc] at hc'
    split_ifs at hc' with hne
    · cases hc'
    · exact hne (hinv.eq_of_critical hpc (by simp) hc' (by simp))
  | @connectFail c n hpc =>
    have hleft := hinv.leave hpc (Or.inl (by simp)) false
    have hgone : Inv ((s.leave c false).setStream n .gone) := hleft.setStream
      (hinv.not_connecting_leave hpc (by simp) false n) (by simp)
    rw [clearMqtt_leave, setStream_leave]
    exact hgone.clearMqtt (n := n) (by simpa using (hinv.connecting c n hpc).1) (by simp)
  | synced hpc =>
    rw [setSse_leave]
    exact (hinv.leave hpc (Or.inl (by simp)) true).setSse _
  | drop hn =>
    exact hinv.setStream (hinv.not_connecting (by simp [hn]))
      (fun _ => hinv.listening _ (Or.inl hn))
  | @callback n t hn ht =>
    have hnot : s.streams n ≠ .connecting := by
      rcases hn with hn | hn <;> simp [hn]
    have hgone : Inv (s.setStream n .gone) := hinv.setStream (hinv.not_connecting hnot) (by simp)
    exact hgone.handleMqttDisconnect (by simp) t
  | crash hn => exact hinv.setStream (hinv.not_connecting (by simp [hn])) (by simp)

theorem inv_of_reachable {s : MqttState} (h : machine.Reachable init s) : Inv s :=
  h.invariant Inv.init fun _ _ _ hinv hstep => hinv.step hstep

theorem step_callback_of_ne {s s' : MqttState} {n : StreamId} {t : TaskId} (hne : s.mqtt ≠ some n)
    (h : step s (.callback n t) = some s') : s' = s.setStream n .gone := by
  cases mqttStep_of_step h with
  | callback hn ht => exact (s.setStream n .gone).handleMqttDisconnect_of_ne hne t

/-- One listen loop at most runs, that of the stream the handle refers to; one reconnect task at
most is unfinished; and a callback of another stream leaves both handles alone. -/
theorem one_stream_one_task {s : MqttState} (h : machine.Reachable init s) :
    (∀ n, s.streams n = .listening → s.mqtt = some n) ∧
      (∀ n m, s.streams n = .listening → s.streams m = .listening → n = m) ∧
      (∀ t u, (s.tasks t).unfinished = true → (s.tasks u).unfinished = true → t = u) ∧
      ∀ n t s', s.mqtt ≠ some n → machine.step s (.callback n t) = some s' →
        s'.mqtt = s.mqtt ∧ s'.reconnectTask = s.reconnectTask := by
  have hinv := inv_of_reachable h
  refine ⟨fun n hn => hinv.listening n (Or.inl hn), ?_, ?_, ?_⟩
  · intro n m hn hm
    have hn' := hinv.listening n (Or.inl hn)
    rw [hinv.listening m (Or.inl hm)] at hn'
    exact (Option.some.inj hn').symm
  · intro t u ht hu
    have ht' := hinv.task t ht
    rw [hinv.task u hu] at ht'
    exact (Option.some.inj ht').symm
  · intro n t s' hne hstep
    rw [step_callback_of_ne hne hstep]
    exact ⟨rfl, rfl⟩

/-- A tick connected the first stream, it dropped, and the reconnect task built the second one. -/
def reconnected : List Action :=
  [.tick 0, .acquire (.tick 0) true 0, .connectOk (.tick 0) false, .drop 0, .callback 0 0, .wake 0,
    .acquire (.reconnect 0) true 1, .connectOk (.reconnect 0) false]

theorem one_stream_one_task_reconnected :
    ((machine.run init reconnected).getD init).mqtt = some 1 := by
  have hreach : machine.Reachable init ((machine.run init reconnected).getD init) :=
    ⟨reconnected, rfl⟩
  exact (one_stream_one_task hreach).1 1 (by decide)

end MqttState

end Eisenberg.Coordinator
