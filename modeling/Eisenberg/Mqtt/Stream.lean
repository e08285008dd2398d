import Eisenberg.Mqtt.Codec
import Eisenberg.Mqtt.Router
import Eisenberg.Values.Json

/-!
# The MQTT event stream

`MQTTEventStream` of `eisenberg/mqtt.py`: the connect handshake, the listen loop and the dispatch of
packets to handlers, all reading through one byte buffer.

The socket is the list of what successive `receive` calls give. Handlers act on the listener's own
state of type `σ` and may raise. `json.loads` is a parameter. The list `handed` records every
packet given to `_dispatch_packet`, in order.
-/

namespace Eisenberg.Mqtt

def CONNACK : Nat := 2
def PUBLISH : Nat := 3
def SUBACK : Nat := 9
/-- SUBACK return code signalling the broker refused a topic filter. -/
def SUBACK_FAILURE : Nat := 0x80

structure TopicResult where
  topic : String
  code : Nat
  granted : Bool
  deriving DecidableEq, Repr

structure SubscribeOutcome where
  results : List TopicResult
  deriving DecidableEq, Repr

/-- Assemble the ordered, de-duplicated MQTT topic filter list. -/
def buildSubscribeTopics (xCloudIds : List String) (userId : String)
    (extraTopics : List String) : List String :=
  let topics := xCloudIds.map fun cid => s!"d/{cid}/out/#"
  let topics := topics ++ [s!"u/{userId}/in/#"]
  extraTopics.foldl (fun topics topic => if topic ∈ topics then topics else topics ++ [topic]) topics

/-- The WebSocket message types the two readers tell apart. -/
inductive WSMsg where
  | binary (data : Bytes)
  /-- The socket is closed by the time `receive` says so, here and in the next two. -/
  | closed
  | error
  /-- The closing frame of the peer: ignored as a message. -/
  | close
  | other
  deriving DecidableEq, Repr

/-- How one awaited `receive` ends in the listen loop. -/
inductive Received where
  | msg (m : WSMsg)
  | timeout
  | cancelled
  deriving DecidableEq, Repr

/-- Running a handler and awaiting the coroutine it may return. -/
abbrev EventHandler (σ : Type) := String → Json → σ → σ × Except Exc Unit

structure MQTTEventStream (σ : Type) where
  userId : String
  token : String
  xCloudIds : List String
  extraTopics : List String
  router : TopicRouter (EventHandler σ)
  onDisconnect : Option (σ → σ × Except Exc Unit)
  running : Bool
  wsClosed : Bool
  rxBuffer : Bytes
  subscribeOutcome : Option SubscribeOutcome

/-- The stream, the state its handlers act on, and the packets handed to `_dispatch_packet`. -/
structure World (σ : Type) where
  stream : MQTTEventStream σ
  env : σ
  handed : List Bytes

variable {σ : Type} (loads : Bytes → Except Exc Json)

def World.setBuffer (w : World σ) (buffer : Bytes) : World σ :=
  { w with stream := { w.stream with rxBuffer := buffer } }

@[simp] theorem World.setBuffer_setBuffer (w : World σ) (old buffer : Bytes) :
    (w.setBuffer old).setBuffer buffer = w.setBuffer buffer := rfl

def World.setClosed (w : World σ) : World σ :=
  { w with stream := { w.stream with wsClosed := true } }

/-! ## Dispatch -/

/-- Run the handlers in turn; an ordinary exception of one is logged and the next one runs. -/
def runHandlers (topic : String) (payload : Json) :
    List (EventHandler σ) → σ → σ × Except Exc Unit
  | [], env => (env, .ok ())
  | handler :: handlers, env =>
    match handler topic payload env with
    | (env, .ok ()) => runHandlers topic payload handlers env
    | (env, .error err) =>
      if err.isException then runHandlers topic payload handlers env else (env, .error err)

/-- `except (json.JSONDecodeError, UnicodeDecodeError)`. -/
def isJsonReject : Exc → Bool
  | .builtin .jsonDecodeError _ | .builtin .unicodeDecodeError _ => true
  | _ => false

/-- Route one complete MQTT packet to its handlers. -/
def dispatchPacket (router : TopicRouter (EventHandler σ)) (data : Bytes) (env : σ) :
    σ × Except Exc Unit :=
  match parsePacketType data with
  | .error err => (env, .error err)
  | .ok pktType =>
    if pktType = PUBLISH then
      match parsePublish data with
      | .error err => (env, .error err)
      | .ok parsed =>
        match loads parsed.payload with
        | .error err => (env, if isJsonReject err then .ok () else .error err)
        | .ok payload =>
          -- An unmatched topic is logged only: there is no handler to run.
          runHandlers parsed.topic payload (router.matching parsed.topic) env
    else (env, .ok ())

def handOver (data : Bytes) (w : World σ) : World σ × Except Exc Unit :=
  let (env, result) := dispatchPacket loads w.stream.router data w.env
  ({ w with env := env, handed := w.handed ++ [data] }, result)

def handOverAll : List Bytes → World σ → World σ × Except Exc Unit
  | [], w => (w, .ok ())
  | packet :: packets, w =>
    match handOver loads packet w with
    | (w, .ok ()) => handOverAll packets w
    | (w, .error err) => (w, .error err)

/-- Dispatch every complete packet sitting in the buffer. -/
def drainBuffer (w : World σ) : World σ × Except Exc Unit :=
  let (packets, remainder) := splitPackets w.stream.rxBuffer
  handOverAll loads packets (w.setBuffer remainder)

/-! ## The connect handshake -/

inductive Handshake (α : Type) where
  | ok (value : α)
  | raised (err : Exc)
  /-- `receive` never returns. -/
  | blocked
  deriving Repr

/-- Return the next complete MQTT packet and what the socket still has to give. -/
def readPacket (w : World σ) (received : List Received) :
    World σ × Handshake (Bytes × List Received) :=
  match takePacket w.stream.rxBuffer with
  | (some packet, rest) =>
    (w.setBuffer rest, .ok (packet, received))
  | (none, _) =>
    match received with
    | [] => (w, .blocked)
    | .msg (.binary data) :: received =>
      readPacket (w.setBuffer (w.stream.rxBuffer ++ data)) received
    | .msg .closed :: _ | .msg .error :: _ =>
      (w.setClosed, .raised (.builtin .connectionError "MQTT socket closed during handshake"))
    | .msg .close :: received =>
      readPacket w.setClosed received
    | .msg .other :: received => readPacket w received
    -- No timeout is set during the handshake, so the call goes on waiting.
    | .timeout :: received => readPacket w received
    | .cancelled :: _ => (w, .raised .cancelledError)

theorem readPacket_of_some {w : World σ} {packet rest : Bytes}
    (h : takePacket w.stream.rxBuffer = (some packet, rest)) (received : List Received) :
    readPacket w received = (w.setBuffer rest, .ok (packet, received)) := by
  unfold readPacket
  simp [h]

/-- Read until the SUBACK, dispatching any packet that races ahead of it. One packet uses up at
least one buffered or received byte, so `fuel` counts the bytes there are. -/
def awaitSuback : Nat → World σ → List Received → World σ × Handshake (List Nat × List Received)
  | 0, w, _ => (w, .blocked)
  | fuel + 1, w, received =>
    match readPacket w received with
    | (w, .raised err) => (w, .raised err)
    | (w, .blocked) => (w, .blocked)
    | (w, .ok (packet, received)) =>
      match parsePacketType packet with
      | .error err => (w, .raised err)
      | .ok pktType =>
        if pktType = SUBACK then (w, .ok (parseSuback packet, received))
        else
          match handOver loads packet w with
          | (w, .error err) => (w, .raised err)
          | (w, .ok ()) => awaitSuback fuel w received

/-- Bytes the socket has to give. -/
def receivedBytes : List Received → Nat
  | [] => 0
  | .msg (.binary data) :: received => data.length + receivedBytes received
  | _ :: received => receivedBytes received

/-- What `connect` depends on besides the packets it reads: the clock in the client id, and whether
opening the socket and the two sends succeed. -/
structure Transport where
  now : Nat
  wsConnect : Except Exc Unit
  sendConnect : Except Exc Unit
  sendSubscribe : Except Exc Unit

def subscribeOutcomeOf (topics : List String) (codes : List Nat) : SubscribeOutcome where
  results := (topics.zip codes).map fun (topic, code) =>
    { topic := topic, code := code, granted := code != SUBACK_FAILURE }

namespace MQTTEventStream

def topics (stream : MQTTEventStream σ) : List String :=
  buildSubscribeTopics stream.xCloudIds stream.userId stream.extraTopics

/-- Open the socket and send the CONNECT. -/
def openSession (stream : MQTTEventStream σ) (t : Transport) : Except Exc Unit := do
  t.wsConnect
  let clientId := s!"user_{stream.userId}_{t.now}"
  let _ ← buildConnect clientId stream.userId stream.token 60
  t.sendConnect

def sendSubscribe (stream : MQTTEventStream σ) (t : Transport) : Except Exc Unit := do
  let _ ← buildSubscribe 1 stream.topics
  t.sendSubscribe

end MQTTEventStream

/-- No bytes are left over from a previous session, and the socket is a new one. -/
def World.newSession (w : World σ) : World σ :=
  { w with stream := { w.stream with rxBuffer := [], wsClosed := false } }

def World.subscribed (w : World σ) (outcome : SubscribeOutcome) : World σ :=
  { w with stream := { w.stream with subscribeOutcome := some outcome, running := true } }

/-- Connect to the broker, subscribe, and leave the socket to the listen loop. -/
def connect (t : Transport) (w : World σ) (received : List Received) :
    World σ × Handshake (List Received) :=
  let w := w.newSession
  match w.stream.openSession t with
  | .error err => (w, .raised err)
  | .ok () =>
    match readPacket w received with
    | (w, .raised err) => (w, .raised err)
    | (w, .blocked) => (w, .blocked)
    | (w, .ok (connack, received)) =>
      match parseConnack connack with
      | .error err => (w, .raised err)
      | .ok rc =>
        if rc ≠ 0 then
          (w.setClosed, .raised (.builtin .connectionError s!"MQTT CONNACK failed with rc={rc}"))
        else
          match w.stream.sendSubscribe t with
          | .error err => (w, .raised err)
          | .ok () =>
            let fuel := w.stream.rxBuffer.length + receivedBytes received + 1
            match awaitSuback loads fuel w received with
            | (w, .raised err) => (w, .raised err)
            | (w, .blocked) => (w, .blocked)
            | (w, .ok (codes, received)) =>
              (w.subscribed (subscribeOutcomeOf w.stream.topics codes), .ok received)

/-! ## The listen loop -/

/-- How `_listen_loop` ends: at its last line, by the cancellation of `disconnect`, or by an
exception that nothing catches. -/
inductive LoopEnd where
  | returned
  | cancelled
  | raised (err : Exc)
  deriving DecidableEq, Repr

/-- What an exception that leaves the loop makes of the task. -/
def LoopEnd.ofExc : Exc → LoopEnd
  | .cancelledError => .cancelled
  | err => .raised err

/-- The `while` of `_listen_loop`; `returned` means that the loop was left for the lines after it. -/
def receiveLoop (w : World σ) : List Received → World σ × LoopEnd
  -- Nothing more arrives: the receive times out.
  | [] => (w, .returned)
  | received :: rest =>
    if w.stream.running && !w.stream.wsClosed then
      match received with
      | .timeout => (w, .returned)
      | .cancelled => (w, .cancelled)
      | .msg (.binary data) =>
        match drainBuffer loads (w.setBuffer (w.stream.rxBuffer ++ data)) with
        | (w, .error err) => (w, .ofExc err)
        | (w, .ok ()) => receiveLoop w rest
      | .msg .closed | .msg .error => (w.setClosed, .returned)
      | .msg .close => receiveLoop w.setClosed rest
      | .msg .other => receiveLoop w rest
    else (w, .returned)

/-- Run the disconnect callback, if one is registered. -/
def notifyDisconnect (w : World σ) : World σ × LoopEnd :=
  let w := { w with stream := { w.stream with running := false } }
  match w.stream.onDisconnect with
  | none => (w, .returned)
  | some callback =>
    match callback w.env with
    | (env, .ok ()) => ({ w with env := env }, .returned)
    | (env, .error err) => ({ w with env := env }, .ofExc err)

/-- Read MQTT packets and dispatch PUBLISH messages. -/
def listenLoop (w : World σ) (received : List Received) : World σ × LoopEnd :=
  match drainBuffer loads w with
  | (w, .error err) => (w, .ofExc err)
  | (w, .ok ()) =>
    match receiveLoop loads w received with
    | (w, .returned) => notifyDisconnect w
    | (w, stop) => (w, stop)

/-- `connect()` followed by the `_listen_loop()` it starts. -/
def connectAndListen (t : Transport) (w : World σ) (received : List Received) :
    World σ × Handshake LoopEnd :=
  match connect loads t w received with
  | (w, .ok received) => let (w, stop) := listenLoop loads w received; (w, .ok stop)
  | (w, .raised err) => (w, .raised err)
  | (w, .blocked) => (w, .blocked)

end Eisenberg.Mqtt
