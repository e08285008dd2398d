import Eisenberg.Mqtt.Grammar
import Eisenberg.Mqtt.PacketStream

/-!
# PUBLISH packets

`parse_publish` gives back the topic and the payload a PUBLISH was encoded with. On a packet whose
body is shorter than its fields announce it still returns a topic and a payload, since a slice of
the body never fails; the pieces are then not the body.
-/

namespace Eisenberg.Mqtt

/-! ## Encoding -/

/-- The QoS of a PUBLISH, with a packet id exactly when it is not 0. -/
inductive PublishQos
  | atMostOnce
  | atLeastOnce (packetId : UInt16)
  | exactlyOnce (packetId : UInt16)
  deriving DecidableEq, Repr

namespace PublishQos

def level : PublishQos → UInt8
  | atMostOnce => 0
  | atLeastOnce _ => 1
  | exactlyOnce _ => 2

def packetIdBytes : PublishQos → Bytes
  | atMostOnce => []
  | atLeastOnce packetId => uint16Bytes packetId.toNat
  | exactlyOnce packetId => uint16Bytes packetId.toNat

end PublishQos

def publishHead (dup retain : Bool) (qos : PublishQos) : UInt8 :=
  (0x30 : UInt8) ||| (dup.toUInt8 <<< 3) ||| (qos.level <<< 1) ||| retain.toUInt8

def publishBody (qos : PublishQos) (topic : String) (payload : Bytes) : Bytes :=
  stringBytes topic ++ qos.packetIdBytes ++ payload

/-- A PUBLISH of the specification, its remaining length written by `_encode_remaining_length`. -/
def encodePublish (dup retain : Bool) (qos : PublishQos) (topic : String) (payload : Bytes) :
    Bytes :=
  [publishHead dup retain qos] ++ encodeRemainingLength (publishBody qos topic payload).length ++
    publishBody qos topic payload

/-- The length of the packet id that the QoS bits of the type byte announce. -/
def packetIdLength (head : UInt8) : Nat := if (head >>> 1) &&& 0x03 > 0 then 2 else 0

theorem publishHead_qos (dup retain : Bool) (qos : PublishQos) :
    (publishHead dup retain qos >>> 1) &&& 0x03 = qos.level := by
  simp only [publishHead]
  cases qos <;> cases dup <;> cases retain <;> simp only [PublishQos.level] <;> rfl

theorem packetIdLength_publishHead (dup retain : Bool) (qos : PublishQos) :
    packetIdLength (publishHead dup retain qos) = qos.packetIdBytes.length := by
  rw [packetIdLength, publishHead_qos]
  cases qos with
  | atMostOnce => rfl
  | atLeastOnce packetId => simp [PublishQos.level, PublishQos.packetIdBytes, uint16Bytes]
  | exactlyOnce packetId => simp [PublishQos.level, PublishQos.packetIdBytes, uint16Bytes]

theorem publishPayload_cons (head hi lo : UInt8) (rest : Bytes) :
    publishPayload head (hi :: lo :: rest) =
      rest.drop (hi.toNat * 256 + lo.toNat + packetIdLength head) := by
  simp only [publishPayload, packetIdLength]
  split_ifs with hqos
  · rfl
  · rw [Nat.add_zero]

theorem parsePublish_encodePublish (dup retain : Bool) (qos : PublishQos) (topic : String)
    (payload : Bytes) (htopic : (utf8Encode topic).length ≤ 65535)
    (hbody : (publishBody qos topic payload).length < 2 ^ 28) :
    parsePublish (encodePublish dup retain qos topic payload) = .ok ⟨topic, payload⟩ := by
  let p := Packet.encode (publishHead dup retain qos) (publishBody qos topic payload) hbody
  have hbytes : encodePublish dup retain qos topic payload = p.bytes := by
    simp [encodePublish, p, Packet.encode, Packet.bytes]
  have hlength : (UInt8.ofNat ((utf8Encode topic).length / 256)).toNat * 256 +
      (UInt8.ofNat ((utf8Encode topic).length % 256)).toNat = (utf8Encode topic).length := by
    rw [UInt8.toNat_ofNat', UInt8.toNat_ofNat']
    omega
  have hcons : p.body = UInt8.ofNat ((utf8Encode topic).length / 256) ::
      UInt8.ofNat ((utf8Encode topic).length % 256) ::
        (utf8Encode topic ++ (qos.packetIdBytes ++ payload)) := by
    simp [p, Packet.encode, publishBody, stringBytes, uint16Bytes]
  have hread : readTopic p.body = some topic := by
    rw [hcons, readTopic, hlength, List.take_left, fromUTF8?_eq_some]
  have hpayload : publishPayload p.head p.body = payload := by
    have hhead : p.head = publishHead dup retain qos := rfl
    rw [hcons, publishPayload_cons, hlength, hhead, packetIdLength_publishHead, ← List.drop_drop,
      List.drop_left, List.drop_left]
  rw [hbytes, p.parsePublish_of_readTopic hread, hpayload]

theorem parsePublish_encodePublish_command :
    parsePublish (encodePublish true false (.atLeastOnce 7) "d/c/out/x" [0x7B, 0x7D]) =
      .ok ⟨"d/c/out/x", [0x7B, 0x7D]⟩ :=
  parsePublish_encodePublish true false (.atLeastOnce 7) "d/c/out/x" [0x7B, 0x7D] (by decide)
    (by decide)

/-! ## Bodies shorter than they announce -/

/-- The topic length field of a body. -/
def topicLength (body : Bytes) : Nat := (body.getD 0 0).toNat * 256 + (body.getD 1 0).toNat

/-- The bytes the field selects, as many as the body has. -/
def topicBytes (body : Bytes) : Bytes := (body.drop 2).take (topicLength body)

/-- The pieces make up the body: the length field, as many bytes of topic, the packet id of QoS 1
and 2, the payload. -/
def PiecesOf (head : UInt8) (body : Bytes) (publish : MQTTPublish) : Prop :=
  ∃ hi lo packetId, hi.toNat * 256 + lo.toNat = (utf8Encode publish.topic).length ∧
    packetId.length = packetIdLength head ∧
    body = hi :: lo :: (utf8Encode publish.topic ++ (packetId ++ publish.payload))

/-- `parse_publish` raises, or the pieces it returns are those of the body. -/
def AcceptsWellFormed (head : UInt8) (body : Bytes) (outcome : Except Exc MQTTPublish) : Prop :=
  (∃ err, outcome = .error err) ∨ ∃ publish, outcome = .ok publish ∧ PiecesOf head body publish

/-- The parser raises on the body, or the body holds the topic and the packet id it announces. -/
def RaisesOrHolds (head : UInt8) (body : Bytes) : Prop :=
  body.length < 2 ∨ ¬ (⟨(topicBytes body).toArray⟩ : ByteArray).IsValidUTF8 ∨
    2 + topicLength body + packetIdLength head ≤ body.length

theorem readTopic_eq_none_iff (body : Bytes) :
    readTopic body = none ↔
      body.length < 2 ∨ ¬ (⟨(topicBytes body).toArray⟩ : ByteArray).IsValidUTF8 := by
  rcases body with _ | ⟨hi, _ | ⟨lo, rest⟩⟩
  · simp [readTopic]
  · simp [readTopic]
  · by_cases hvalid : (⟨(topicBytes (hi :: lo :: rest)).toArray⟩ : ByteArray).IsValidUTF8
    · have hread : readTopic (hi :: lo :: rest) = some (String.fromUTF8 _ hvalid) :=
        dif_pos hvalid
      simp [hread, hvalid]
    · have hread : readTopic (hi :: lo :: rest) = none := dif_neg hvalid
      simp [hread, hvalid]

/-- The pieces returned for a readable topic are those of the body when the body is long enough. -/
theorem piecesOf_iff {head : UInt8} {body : Bytes} {topic : String}
    (h : readTopic body = some topic) :
    PiecesOf head body ⟨topic, publishPayload head body⟩ ↔
      2 + topicLength body + packetIdLength head ≤ body.length := by
  rcases body with _ | ⟨hi, _ | ⟨lo, rest⟩⟩
  · simp [readTopic] at h
  · simp [readTopic] at h
  have htopic : utf8Encode topic = rest.take (hi.toNat * 256 + lo.toNat) := fromUTF8?_eq_some.mp h
  have hlength : topicLength (hi :: lo :: rest) = hi.toNat * 256 + lo.toNat := rfl
  rw [hlength]
  simp only [PiecesOf, publishPayload_cons, List.length_cons]
  constructor
  · intro hpieces
    obtain ⟨hi', lo', packetId, hfield, hid, hbody⟩ := hpieces
    simp only [List.cons.injEq] at hbody
    obtain ⟨rfl, rfl, hrest⟩ := hbody
    have hsum := congrArg List.length hrest
    simp only [List.length_append] at hsum
    omega
  · intro hlong
    refine ⟨hi, lo, (rest.drop (hi.toNat * 256 + lo.toNat)).take (packetIdLength head), ?_, ?_, ?_⟩
    · rw [htopic, List.length_take]
      omega
    · rw [List.length_take, List.length_drop]
      omega
    · have hafter : rest.drop (hi.toNat * 256 + lo.toNat + packetIdLength head) =
          (rest.drop (hi.toNat * 256 + lo.toNat)).drop (packetIdLength head) :=
        List.drop_drop.symm
      rw [htopic, hafter, List.take_append_drop, List.take_append_drop]

theorem Packet.acceptsWellFormed_iff (p : Packet) :
    AcceptsWellFormed p.head p.body (parsePublish p.bytes) ↔ RaisesOrHolds p.head p.body := by
  have hnone := readTopic_eq_none_iff p.body
  rw [RaisesOrHolds, ← or_assoc, ← hnone]
  rcases htopic : readTopic p.body with _ | topic
  · obtain ⟨err, herr, -⟩ := p.parsePublish_of_readTopic_none htopic
    exact iff_of_true (Or.inl ⟨err, herr⟩) (Or.inl rfl)
  · rw [p.parsePublish_of_readTopic htopic, ← piecesOf_iff htopic]
    simp [AcceptsWellFormed]

/-- A slice of the body never fails, so `parse_publish` returns pieces that are not the body exactly
when the body ends before its topic or its packet id does. -/
theorem parsePublish_acceptsWellFormed_iff {buffer packet rest : Bytes}
    (h : takePacket buffer = (some packet, rest))
    (hfinal : ∃ byte ∈ (buffer.drop 1).take 4, byte &&& 0x80 = 0) :
    AcceptsWellFormed (packet.headD 0) (packet.drop (headerLength buffer)) (parsePublish packet) ↔
      RaisesOrHolds (packet.headD 0) (packet.drop (headerLength buffer)) := by
  obtain ⟨p, rfl, hheader⟩ := takePacket_packet h hfinal
  have hbody : p.bytes.drop (headerLength buffer) = p.body := by
    rw [hheader, ← Nat.add_zero (1 + p.varint.length), p.drop_body, List.drop_zero]
  have hhead : p.bytes.headD 0 = p.head := rfl
  rw [hbody, hhead]
  exact p.acceptsWellFormed_iff

/-- A topic of five bytes is announced and one byte follows. -/
theorem parsePublish_acceptsWellFormed_fails :
    takePacket [0x30, 0x03, 0x00, 0x05, 0x61] = (some [0x30, 0x03, 0x00, 0x05, 0x61], []) ∧
      parsePacketType [0x30, 0x03, 0x00, 0x05, 0x61] = .ok 3 ∧
      parsePublish [0x30, 0x03, 0x00, 0x05, 0x61] = .ok ⟨"a", []⟩ ∧
      ¬ AcceptsWellFormed 0x30 [0x00, 0x05, 0x61] (parsePublish [0x30, 0x03, 0x00, 0x05, 0x61]) := by
  have hparse : parsePublish [0x30, 0x03, 0x00, 0x05, 0x61] = .ok ⟨"a", []⟩ := by decide
  refine ⟨by decide, by decide, hparse, ?_⟩
  rw [hparse]
  rintro (⟨err, herr⟩ | ⟨publish, hpublish, hi, lo, packetId, hfield, -, hbody⟩)
  · simp at herr
  · obtain rfl := Except.ok.inj hpublish
    simp only [List.cons.injEq] at hbody
    obtain ⟨rfl, rfl, -⟩ := hbody
    exact absurd hfield (by decide)

theorem parsePublish_acceptsWellFormed_iff_event :
    AcceptsWellFormed 0x30 [0x00, 0x01, 0x61, 0x7B, 0x7D]
      (parsePublish [0x30, 0x05, 0x00, 0x01, 0x61, 0x7B, 0x7D]) :=
  (@parsePublish_acceptsWellFormed_iff [0x30, 0x05, 0x00, 0x01, 0x61, 0x7B, 0x7D, 0xD0]
    [0x30, 0x05, 0x00, 0x01, 0x61, 0x7B, 0x7D] [0xD0] (by decide)
    ⟨0x05, by decide, by decide⟩).mpr (Or.inr (Or.inr (by decide)))

end Eisenberg.Mqtt
