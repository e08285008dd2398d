import Eisenberg.Framework.Transition
import Mathlib.Logic.Function.Basic

/-!
# Building and losing the MQTT stream

`_ensure_mqtt`, `_reconnect_mqtt_with_backoff`, `_sync_sse` and `_handle_mqtt_disconnect` of the
coordinator. Between two suspension points a task runs alone, so one action is what a task does from
one suspension point to the next. Which action comes next is open.
-/

namespace Eisenberg.Coordinator

open Framework

/-- Reconnect delays after a socket drop, in seconds. -/
def MQTT_RECONNECT_BACKOFF : List Nat := [5, 15, 60, 180, 300]

abbrev StreamId := Nat

abbrev TaskId := Nat

/-- `ended` is a stream whose listen loop is over and whose disconnect callback is still to come. -/
inductive StreamPhase where
  | unborn | connecting | listening | ended | gone
  deriving DecidableEq, Repr

/-- Where a call of `_ensure_mqtt` is suspended: at the lock, in `connect` of the new stream, or in
`_sync_sse` stopping the SSE supplement. -/
inductive EnsurePc where
  | wantLock
  | connecting (stream : StreamId)
  | syncing
  deriving DecidableEq, Repr

/-- Where a reconnect task is: in the sleep of a delay, or in `_ensure_mqtt` after it. -/
inductive ReconnectPc where
  | unborn
  | asleep (delay : Nat) (later : List Nat)
  | ensuring (delay : Nat) (later : List Nat) (pc : EnsurePc)
  | done
  deriving DecidableEq, Repr

/-- The next turn of the `for` over the delays that are left. -/
def nextDelay : List Nat → ReconnectPc
  | [] => .done
  | delay :: later => .asleep delay later

namespace ReconnectPc

def unfinished : ReconnectPc → Bool
  | asleep _ _ | ensuring _ _ _ => true
  | unborn | done => false

def ensurePc : ReconnectPc → Option EnsurePc
  | ensuring _ _ pc => some pc
  | _ => none

def setEnsurePc (pc : EnsurePc) : ReconnectPc → ReconnectPc
  | ensuring delay later _ => ensuring delay later pc
  | other => other

/-- What `_ensure_mqtt` returned: the task is done, or it goes on to its next delay. -/
def ensured (result : Bool) : ReconnectPc → ReconnectPc
  | ensuring _ later _ => if result then done else nextDelay later
  | other => other

/-- The delay whose attempt the task is making. -/
def attempt : ReconnectPc → List Nat
  | ensuring delay _ _ => [delay]
  | _ => []

end ReconnectPc

/-- A caller of `_ensure_mqtt`: a health tick (or the setup), or a reconnect task. -/
inductive Caller where
  | tick (id : Nat)
  | reconnect (task : TaskId)
  deriving DecidableEq, Repr

/-- The handles of the coordinator and the places of its tasks. `attempts` records the delays after
which a reconnect task built a stream. -/
structure MqttState where
  mqtt : Option StreamId
  reconnectTask : Option TaskId
  lock : Option Caller
  /-- `self._sse is not None`. -/
  sse : Bool
  streams : StreamId → StreamPhase
  tasks : TaskId → ReconnectPc
  ticks : Nat → Option EnsurePc
  attempts : List Nat

namespace MqttState

def init : MqttState where
  mqtt := none
  reconnectTask := none
  lock := none
  sse := false
  streams := fun _ => .unborn
  tasks := fun _ => .unborn
  ticks := fun _ => none
  attempts := []

/-- `self._reconnect_task is not None and not self._reconnect_task.done()`. -/
def reconnecting (s : MqttState) : Bool :=
  match s.reconnectTask with
  | none => false
  | some t => (s.tasks t).unfinished

def setStream (s : MqttState) (stream : StreamId) (phase : StreamPhase) : MqttState :=
  { s with streams := Function.update s.streams stream phase }

def setTask (s : MqttState) (t : TaskId) (pc : ReconnectPc) : MqttState :=
  { s with tasks := Function.update s.tasks t pc }

def setTick (s : MqttState) (i : Nat) (pc : Option EnsurePc) : MqttState :=
  { s with ticks := Function.update s.ticks i pc }

/-- Where the call of `_ensure_mqtt` by `c` is suspended, if there is one. -/
def callerPc (s : MqttState) : Caller → Option EnsurePc
  | .tick i => s.ticks i
  | .reconnect t => (s.tasks t).ensurePc

def setCallerPc (s : MqttState) (c : Caller) (pc : EnsurePc) : MqttState :=
  match c with
  | .tick i => s.setTick i (some pc)
  | .reconnect t => s.setTask t ((s.tasks t).setEnsurePc pc)

/-- The lock is released and `_ensure_mqtt` returns. -/
def leave (s : MqttState) (c : Caller) (result : Bool) : MqttState :=
  let s := { s with lock := none }
  match c with
  | .tick i => s.setTick i none
  | .reconnect t => s.setTask t ((s.tasks t).ensured result)

def recordAttempt (s : MqttState) (c : Caller) : MqttState :=
  match c with
  | .tick _ => s
  | .reconnect t => { s with attempts := s.attempts ++ (s.tasks t).attempt }

/-- The handle is published before `connect` of the new stream completes. -/
def buildStream (s : MqttState) (c : Caller) (stream : StreamId) : MqttState :=
  let s := { s.recordAttempt c with mqtt := some stream, lock := some c }
  (s.setStream stream .connecting).setCallerPc c (.connecting stream)

/-- Handle MQTT disconnect: start reconnecting on a backoff, as `newTask`. -/
def handleMqttDisconnect (s : MqttState) (stream : StreamId) (newTask : TaskId) : MqttState :=
  if s.mqtt = some stream then
    let s := { s with mqtt := none }
    if s.reconnecting then s
    else
      { s with reconnectTask := some newTask }.setTask newTask (nextDelay MQTT_RECONNECT_BACKOFF)
  else s -- a stream already replaced, unwinding late

end MqttState

inductive Action where
  /-- A health tick calls `_ensure_mqtt`. -/
  | tick (i : Nat)
  /-- The sleep of a reconnect task is over. -/
  | wake (t : TaskId)
  /-- The lock is acquired; `ready` says whether URL, user id, token, session and devices are there,
  and `stream` names the stream that is built. -/
  | acquire (c : Caller) (ready : Bool) (stream : StreamId)
  /-- `connect` returns; `gap` says whether some resource needs the SSE supplement. -/
  | connectOk (c : Caller) (gap : Bool)
  | connectFail (c : Caller)
  /-- `_sse.stop()` returns or raises. -/
  | synced (c : Caller) (ok : Bool)
  /-- The listen loop of a stream ends. -/
  | drop (stream : StreamId)
  | callback (stream : StreamId) (newTask : TaskId)
  /-- The listen loop is left by an exception, and there is no callback. -/
  | crash (stream : StreamId)
  deriving DecidableEq, Repr

open MqttState in
def step (s : MqttState) : Action → Option MqttState
  | .tick i => if s.ticks i = none then some (s.setTick i (some .wantLock)) else none
  | .wake t =>
    match s.tasks t with
    | .asleep delay later =>
      if s.mqtt.isSome then some (s.setTask t .done)
      else some (s.setTask t (.ensuring delay later .wantLock))
    | _ => none
  | .acquire c ready stream =>
    if s.callerPc c = some .wantLock ∧ s.lock = none ∧ s.streams stream = .unborn then
      if s.mqtt.isSome then some (s.leave c true)
      else if ready then some (s.buildStream c stream)
      else some (s.leave c false)
    else none
  | .connectOk c gap =>
    match s.callerPc c with
    | some (.connecting stream) =>
      let s := s.setStream stream .listening
      if s.mqtt.isNone then some (s.leave c true)
      else if gap then some ({ s with sse := true }.leave c true)
      else if s.sse then some (s.setCallerPc c .syncing)
      else some (s.leave c true)
    | _ => none
  | .connectFail c =>
    match s.callerPc c with
    | some (.connecting stream) => some ({ s.setStream stream .gone with mqtt := none }.leave c false)
    | _ => none
  | .synced c ok =>
    if s.callerPc c = some .syncing then
      -- A failing stop is logged only: the handle of the supplement stays.
      some ({ s with sse := s.sse && !ok }.leave c true)
    else none
  | .drop stream =>
    if s.streams stream = .listening then some (s.setStream stream .ended) else none
  | .callback stream newTask =>
    if (s.streams stream = .ended ∨ s.streams stream = .gone) ∧ s.tasks newTask = .unborn then
      some ((s.setStream stream .gone).handleMqttDisconnect stream newTask)
    else none
  | .crash stream =>
    if s.streams stream = .listening then some (s.setStream stream .gone) else none

def machine : Machine MqttState Action where
  step := step

end Eisenberg.Coordinator
