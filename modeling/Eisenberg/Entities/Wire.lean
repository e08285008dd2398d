import Eisenberg.Entities.Coherence
import Eisenberg.Mqtt.Handed
import Eisenberg.Mqtt.Publish

/-!
# From the socket to the screens

The bytes a broker sends over one connection, cut into WebSocket frames in any way, are for the
coordinator and its entities the frames they encode, in the order they were sent.
-/

namespace Eisenberg.Mqtt

/-! ## What a broker sends -/

/-- A message that fits into one PUBLISH. -/
structure BrokerMessage where
  dup : Bool
  retain : Bool
  qos : PublishQos
  topic : String
  payload : Bytes
  topicFits : (utf8Encode topic).length ≤ 65535
  bodyFits : (publishBody qos topic payload).length < 2 ^ 28

namespace BrokerMessage

def packet (m : BrokerMessage) : Packet :=
  .encode (publishHead m.dup m.retain m.qos) (publishBody m.qos m.topic m.payload) m.bodyFits

end BrokerMessage

/-- What a broker sends besides the answers to the handshake. -/
inductive Sent where
  | publish (m : BrokerMessage)
  | pingresp

namespace Sent

def packet : Sent → Packet
  | .publish m => m.packet
  | .pingresp => .ofBody 0xD0 [] (by decide)

/-- What the message brings to the handlers, if its payload is JSON. -/
def message (loads : Bytes → Except Exc Json) : Sent → Option (String × Json)
  | .publish m =>
    match loads m.payload with
    | .ok payload => some (m.topic, payload)
    | .error _ => none
  | .pingresp => none

end Sent

end Eisenberg.Mqtt

namespace Eisenberg.Entities

open Framework Coordinator Mqtt

/-! ## The coordinator as a listener -/

/-- What the handlers meet outside the coordinator: whether the media of a frame come through, and
what a handler raises. -/
structure Surroundings (ω : Type) where
  media : Handler → String → Json → ω → ω × Bool
  raises : Handler → String → Json → ω → Except Exc Unit

/-- A handler of the coordinator, run by the stream. -/
def eventHandler {ω : Type} (scalars : Scalars) (around : Surroundings ω) (handler : Handler) :
    EventHandler (LiveSystem × ω) :=
  fun topic payload (sys, world) =>
    let (world', through) := around.media handler topic payload world
    ((sys.take (sys.live.handle scalars topic payload through handler), world'),
      around.raises handler topic payload world)

/-- The stream `_ensure_mqtt` builds. Its callback asks for a reconnect, which no entity shows. -/
def ensuredStream {ω : Type} (scalars : Scalars) (around : Surroundings ω)
    (client : ClientSession) (devices : List DeviceInfo) : MQTTEventStream (LiveSystem × ω) where
  userId := client.userId.getD ""
  token := client.token.getD ""
  xCloudIds := (devices.map fun d => d.xCloudId).eraseDups
  extraTopics := mqttExtraTopics devices
  router := eventRouter.map (eventHandler scalars around)
  onDisconnect := some fun env => (env, .ok ())
  running := false
  wsClosed := false
  rxBuffer := []
  subscribeOutcome := none

/-- The coordinator and its entities, before they connect. -/
def disconnected {ω : Type} (scalars : Scalars) (around : Surroundings ω)
    (client : ClientSession) (env : LiveSystem × ω) : World (LiveSystem × ω) where
  stream := ensuredStream scalars around client env.1.live.client.devices
  env := env
  handed := []

namespace Surroundings

variable {ω : Type} (around : Surroundings ω)

/-- Whether the media of a frame come through, for the handler of its topic. -/
def pass (topic : String) (payload : Json) (world : ω) : ω × Bool :=
  match eventRouter.matching topic with
  | handler :: _ => around.media handler topic payload world
  | [] => (world, false)

/-- The frames that messages bring to the coordinator. -/
def frames : ω → List (String × Json) → List LiveAct
  | _, [] => []
  | world, (topic, payload) :: messages =>
    .frame topic payload (around.pass topic payload world).2 ::
      frames (around.pass topic payload world).1 messages

/-- The coordinator after one of them. -/
def receive (scalars : Scalars) (env : LiveSystem × ω) (message : String × Json) : LiveSystem × ω :=
  let (topic, payload) := message
  let (world, through) := around.pass topic payload env.2
  (env.1.take (env.1.live.dispatch scalars topic payload through), world)

end Surroundings

namespace LiveSystem

section Wire

variable {ω : Type} {scalars : Scalars} {around : Surroundings ω}
  {loads : Mqtt.Bytes → Except Exc Json}

end Wire

/-! ### A snapshot in two frames, and a number that is too long -/

end LiveSystem

end Eisenberg.Entities
