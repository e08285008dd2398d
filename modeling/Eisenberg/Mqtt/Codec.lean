import Eisenberg.Framework.Framing
import Eisenberg.Values.Exceptions
import Mathlib.Algebra.Group.Nat.Defs

/-!
# MQTT packet construction and parsing

The raw codec of `eisenberg/mqtt_codec.py`. The loops over byte indices run over the list of the
bytes that are left, the index carried along.
-/

namespace Eisenberg.Mqtt

abbrev Bytes := List UInt8

/-- Parsed MQTT PUBLISH packet. -/
structure MQTTPublish where
  topic : String
  payload : Bytes
  deriving DecidableEq, Repr

/-! ## Construction -/

/-- Encode MQTT remaining length, at most `fuel` bytes of it. -/
def encodeRemainingLengthLoop : Nat → Nat → Bytes
  | 0, _ => []
  | fuel + 1, length =>
    let byte := UInt8.ofNat (length &&& 0x7F)
    let length := length >>> 7
    if length > 0 then (byte ||| 0x80) :: encodeRemainingLengthLoop fuel length else [byte]

def encodeRemainingLength (length : Nat) : Bytes :=
  encodeRemainingLengthLoop (length + 1) length

/-- `struct.pack("!H", n)`. -/
def packUInt16 (n : Nat) : Except Exc Bytes :=
  if n < 65536 then .ok [UInt8.ofNat (n / 256), UInt8.ofNat (n % 256)]
  else .error (.builtin .structError "'H' format requires 0 <= number <= 65535")

/-- `s.encode("utf-8")`. -/
def utf8Encode (s : String) : Bytes := s.toUTF8.data.toList

/-- Encode a UTF-8 string with 2-byte length prefix. -/
def encodeUtf8String (s : String) : Except Exc Bytes := do
  let encoded := utf8Encode s
  let prefixBytes ← packUInt16 encoded.length
  return prefixBytes ++ encoded

def buildConnect (clientId username password : String) (keepalive : Nat) : Except Exc Bytes := do
  let keepaliveBytes ← packUInt16 keepalive
  let varHeader : Bytes :=
    [0x00, 0x04, 0x4D, 0x51, 0x54, 0x54] ++ [0x04] ++ [0xC2] ++ keepaliveBytes
  let clientIdBytes ← encodeUtf8String clientId
  let usernameBytes ← encodeUtf8String username
  let passwordBytes ← encodeUtf8String password
  let remaining := varHeader ++ (clientIdBytes ++ usernameBytes ++ passwordBytes)
  return [0x10] ++ encodeRemainingLength remaining.length ++ remaining

/-- The topic filters of a SUBSCRIBE, each with QoS 0. -/
def subscribePayload : List String → Except Exc Bytes
  | [] => return []
  | topic :: topics => do
    let topicBytes ← encodeUtf8String topic
    let rest ← subscribePayload topics
    return topicBytes ++ [0x00] ++ rest

def buildSubscribe (packetId : Nat) (topics : List String) : Except Exc Bytes := do
  let packetIdBytes ← packUInt16 packetId
  let topicBytes ← subscribePayload topics
  let payload := packetIdBytes ++ topicBytes
  return [0x82] ++ encodeRemainingLength payload.length ++ payload

/-! ## Framing -/

/-- The varint loop of `take_packet` over the bytes from `pos` on: the remaining length and the
position of the body, or `none` when the bytes run out mid-varint. -/
def takePacketLength : Bytes → Nat → Nat → Nat → Option (Nat × Nat)
  | [], _, _, _ => none
  | byte :: rest, remaining, multiplier, pos =>
    let remaining := remaining + (byte &&& 0x7F).toNat * multiplier
    let pos := pos + 1
    if byte &&& 0x80 = 0 then some (remaining, pos)
    else
      let multiplier := multiplier * 128
      -- varint is max 4 bytes per spec
      if multiplier > 128 ^ 3 then some (remaining, pos)
      else takePacketLength rest remaining multiplier pos

/-- Consume one complete MQTT packet from the front of the buffer. -/
def takePacket (buffer : Bytes) : Option Bytes × Bytes :=
  match buffer with
  | [] => (none, buffer)
  | _ :: tail =>
    match takePacketLength tail 0 1 1 with
    | none => (none, buffer)
    | some (remaining, pos) =>
      let stop := pos + remaining
      if stop > buffer.length then (none, buffer)
      else (some (buffer.take stop), buffer.drop stop)

/-- The loop of `split_packets`; a packet is never empty, so the length of the buffer bounds the
number of turns. -/
def splitPacketsLoop : Nat → List Bytes → Bytes → List Bytes × Bytes
  | 0, packets, rest => (packets, rest)
  | fuel + 1, packets, rest =>
    match takePacket rest with
    | (none, rest) => (packets, rest)
    | (some packet, rest) => splitPacketsLoop fuel (packets ++ [packet]) rest

/-- Split a byte buffer into every complete MQTT packet plus a remainder. -/
def splitPackets (buffer : Bytes) : List Bytes × Bytes :=
  splitPacketsLoop buffer.length [] buffer

/-! ## Parsing -/

def indexError : Exc := .builtin .indexError "index out of range"

/-- Decode MQTT remaining length from the bytes at `idx` on. -/
def decodeRemainingLengthLoop : Bytes → Nat → Nat → Nat → Nat × Nat
  | [], remaining, _, idx => (remaining, idx)
  | byte :: rest, remaining, multiplier, idx =>
    let remaining := remaining + (byte &&& 0x7F).toNat * multiplier
    let multiplier := multiplier * 128
    let idx := idx + 1
    if byte &&& 0x80 = 0 then (remaining, idx)
    else decodeRemainingLengthLoop rest remaining multiplier idx

/-- Decode MQTT remaining length. Returns the length and the next index. -/
def decodeRemainingLength (data : Bytes) (start : Nat) : Nat × Nat :=
  decodeRemainingLengthLoop (data.drop start) 0 1 start

/-- Extract packet type from first byte (upper 4 bits). -/
def parsePacketType (data : Bytes) : Except Exc Nat :=
  match data with
  | [] => .error indexError
  | head :: _ => .ok ((head >>> 4) &&& 0x0F).toNat

/-- Parse CONNACK packet, return the return code (0 = success). -/
def parseConnack (data : Bytes) : Except Exc Nat :=
  match data[3]? with
  | none => .error indexError
  | some rc => .ok rc.toNat

/-- Parse a SUBACK packet into its per-topic return codes. -/
def parseSuback (data : Bytes) : List Nat :=
  let idx := (decodeRemainingLength data 1).2
  let idx := idx + 2
  (data.drop idx).map UInt8.toNat

/-- `struct.unpack("!H", data)[0]`. -/
def unpackUInt16 : Bytes → Except Exc Nat
  | [hi, lo] => .ok (hi.toNat * 256 + lo.toNat)
  | _ => .error (.builtin .structError "unpack requires a buffer of 2 bytes")

/-- `data.decode("utf-8")`. -/
def utf8Decode (data : Bytes) : Except Exc String :=
  match String.fromUTF8? ⟨data.toArray⟩ with
  | some s => .ok s
  | none => .error (.builtin .unicodeDecodeError "'utf-8' codec can't decode bytes")

/-- `data[start:start + count]`. -/
def slice (data : Bytes) (start count : Nat) : Bytes := (data.drop start).take count

/-- Parse an MQTT PUBLISH packet into topic and payload. -/
def parsePublish (data : Bytes) : Except Exc MQTTPublish := do
  let idx := (decodeRemainingLength data 1).2
  let topicLen ← unpackUInt16 (slice data idx 2)
  let idx := idx + 2
  let topic ← utf8Decode (slice data idx topicLen)
  let idx := idx + topicLen
  let head := data.headD 0
  let qos := (head >>> 1) &&& 0x03
  let idx := if qos > 0 then idx + 2 else idx
  return ⟨topic, data.drop idx⟩

end Eisenberg.Mqtt
