import Eisenberg.Framework.Reader
import Eisenberg.Mqtt.PacketFraming

/-!
# The grammar of MQTT 3.1.1

The remaining length, the two-byte numbers and the length-prefixed strings, and the bodies of
CONNECT and SUBSCRIBE, as the specification has a receiver read them; and that the packets the
builders emit read back as what went into them.
-/

namespace Eisenberg.Mqtt

open Framework

/-! ## The remaining length -/

theorem continued_byte : ∀ n < 128, (UInt8.ofNat n ||| 0x80) &&& 0x80 ≠ 0 ∧
    ((UInt8.ofNat n ||| 0x80) &&& 0x7F).toNat = n := by
  decide

theorem encodeRemainingLengthLoop_succ (fuel length : Nat) :
    encodeRemainingLengthLoop (fuel + 1) length =
      if length / 128 > 0 then
        (UInt8.ofNat (length % 128) ||| 0x80) :: encodeRemainingLengthLoop fuel (length / 128)
      else [UInt8.ofNat (length % 128)] := by
  have hlow : length &&& 0x7F = length % 128 := Nat.and_two_pow_sub_one_eq_mod length 7
  have hhigh : length >>> 7 = length / 128 := Nat.shiftRight_eq_div_pow length 7
  simp only [encodeRemainingLengthLoop, hlow, hhigh]

theorem encodeRemainingLengthLoop_varint {fuel length : Nat} (h : length < fuel) :
    IsVarint (encodeRemainingLengthLoop fuel length) ∧
      varintValue (encodeRemainingLengthLoop fuel length) = length := by
  induction fuel generalizing length with
  | zero => omega
  | succ fuel ih =>
    rw [encodeRemainingLengthLoop_succ]
    have hmod : length % 128 < 128 := Nat.mod_lt _ (by omega)
    split_ifs with hmore
    · have hrest := @ih (length / 128) (by omega)
      obtain ⟨hcont, hvalue⟩ := continued_byte (length % 128) hmod
      refine ⟨Or.inr ⟨hcont, hrest.1⟩, ?_⟩
      rw [varintValue, hvalue, hrest.2]
      omega
    · obtain ⟨hstop, hvalue⟩ := single_varint (length % 128) hmod
      refine ⟨Or.inl ⟨hstop, rfl⟩, ?_⟩
      rw [varintValue, hvalue, varintValue]
      omega

theorem encodeRemainingLengthLoop_length {fuel length k : Nat} (h : length < 128 ^ (k + 1)) :
    (encodeRemainingLengthLoop fuel length).length ≤ k + 1 := by
  induction fuel generalizing length k with
  | zero => simp [encodeRemainingLengthLoop]
  | succ fuel ih =>
    rw [encodeRemainingLengthLoop_succ]
    split_ifs with hmore
    · cases k with
      | zero => omega
      | succ k =>
        have hdiv : length / 128 < 128 ^ (k + 1) := by
          rw [pow_succ] at h
          exact Nat.div_lt_of_lt_mul (by omega)
        simp only [List.length_cons]
        have := ih hdiv
        omega
    · simp

/-- The packet with a given body: any length below 2^28 fits into four varint bytes. -/
def Packet.encode (head : UInt8) (body : Bytes) (h : body.length < 2 ^ 28) : Packet where
  head := head
  varint := encodeRemainingLength body.length
  body := body
  isVarint := (encodeRemainingLengthLoop_varint (Nat.lt_succ_self _)).1
  varint_length := encodeRemainingLengthLoop_length (k := 3) (by omega)
  varint_value := (encodeRemainingLengthLoop_varint (Nat.lt_succ_self _)).2

/-! ## Numbers and strings -/

theorem fromUTF8?_eq_some {data : Bytes} {s : String} :
    String.fromUTF8? ⟨data.toArray⟩ = some s ↔ utf8Encode s = data := by
  constructor
  · intro h
    by_cases hvalid : (⟨data.toArray⟩ : ByteArray).IsValidUTF8
    · simp only [String.fromUTF8?, dif_pos hvalid, Option.some.injEq] at h
      rw [← h]
      rfl
    · simp [String.fromUTF8?, dif_neg hvalid] at h
  · intro h
    subst h
    have hvalid : s.toByteArray.IsValidUTF8 := s.isValidUTF8
    simp [String.fromUTF8?, utf8Encode, hvalid, String.fromUTF8]

theorem utf8Decode_utf8Encode (s : String) : utf8Decode (utf8Encode s) = .ok s := by
  have hdecode : String.fromUTF8? ⟨(utf8Encode s).toArray⟩ = some s := fromUTF8?_eq_some.mpr rfl
  simp [utf8Decode, hdecode]

/-- A number below 65536, the high byte first. -/
def uint16Bytes (n : Nat) : Bytes := [UInt8.ofNat (n / 256), UInt8.ofNat (n % 256)]

/-- A string of at most 65535 bytes behind its length. -/
def stringBytes (s : String) : Bytes := uint16Bytes (utf8Encode s).length ++ utf8Encode s

theorem packUInt16_of_lt {n : Nat} (h : n < 65536) : packUInt16 n = .ok (uint16Bytes n) := by
  simp [packUInt16, h, uint16Bytes]

theorem packUInt16_of_le {n : Nat} (h : 65536 ≤ n) : ∃ err, packUInt16 n = .error err := by
  simp [packUInt16, Nat.not_lt.mpr h]

theorem encodeUtf8String_of_lt {s : String} (h : (utf8Encode s).length < 65536) :
    encodeUtf8String s = .ok (stringBytes s) := by
  simp [encodeUtf8String, packUInt16_of_lt h, stringBytes, bind, Except.bind, pure, Except.pure]

theorem encodeUtf8String_of_le {s : String} (h : 65536 ≤ (utf8Encode s).length) :
    ∃ err, encodeUtf8String s = .error err := by
  obtain ⟨err, herr⟩ := packUInt16_of_le h
  simp [encodeUtf8String, herr, bind, Except.bind]

namespace Grammar

open Reader

/-- A two-byte number, the high byte first. -/
def uint16 : Reader UInt8 Nat := do
  let hi ← item
  let lo ← item
  return hi.toNat * 256 + lo.toNat

/-- Binary data behind its two-byte length. -/
def binary : Reader UInt8 Bytes := do
  let count ← uint16
  items count

def utf8String : Reader UInt8 String := do
  let data ← binary
  match utf8Decode data with
  | .ok s => return s
  | .error _ => failure

theorem reads_uint16 {n : Nat} (h : n < 65536) : Reads uint16 (uint16Bytes n) n := by
  have hread : Reads uint16 (uint16Bytes n)
      ((UInt8.ofNat (n / 256)).toNat * 256 + (UInt8.ofNat (n % 256)).toNat) := fun _ => rfl
  have hvalue : (UInt8.ofNat (n / 256)).toNat * 256 + (UInt8.ofNat (n % 256)).toNat = n := by
    rw [UInt8.toNat_ofNat', UInt8.toNat_ofNat']
    omega
  rwa [hvalue] at hread

theorem reads_binary {data : Bytes} (h : data.length < 65536) :
    Reads binary (uint16Bytes data.length ++ data) data :=
  Reads.bind (reads_uint16 h) (Reads.items data)

theorem reads_utf8String {s : String} (h : (utf8Encode s).length < 65536) :
    Reads utf8String (stringBytes s) s := by
  have hdecode : Reads (match utf8Decode (utf8Encode s) with
      | .ok s => (return s : Reader UInt8 String)
      | .error _ => failure) [] s := by
    rw [utf8Decode_utf8Encode]
    exact Reads.pure s
  have hstring : Reads utf8String (stringBytes s ++ []) s := Reads.bind (reads_binary h) hdecode
  rwa [List.append_nil] at hstring

/-! ## CONNECT -/

structure Will where
  topic : String
  message : Bytes
  qos : Nat
  retain : Bool
  deriving DecidableEq, Repr

structure ConnectFields where
  cleanSession : Bool
  keepalive : Nat
  clientId : String
  will : Option Will
  username : Option String
  password : Option Bytes
  deriving DecidableEq, Repr

def flag (flags : UInt8) (bit : Nat) : Bool := flags.toNat.testBit bit

def readWill (flags : UInt8) : Reader UInt8 Will := do
  let topic ← utf8String
  let message ← binary
  return ⟨topic, message, ((flags >>> 3) &&& 0x03).toNat, flag flags 5⟩

/-- The variable header and the payload of a CONNECT. -/
def connectFields : Reader UInt8 ConnectFields := do
  let name ← utf8String
  guard (name = "MQTT")
  let level ← item
  guard (level = 0x04)
  let flags ← item
  -- bit 0 is reserved, a will QoS or retain flag needs a will, a password needs a user name
  guard (flag flags 0 = false ∧ (flag flags 2 ∨ flags &&& 0x38 = 0) ∧
    (flag flags 7 ∨ flag flags 6 = false))
  let keepalive ← uint16
  let clientId ← utf8String
  let will ← if flag flags 2 then some <$> readWill flags else pure none
  let username ← if flag flags 7 then some <$> utf8String else pure none
  let password ← if flag flags 6 then some <$> binary else pure none
  return ⟨flag flags 1, keepalive, clientId, will, username, password⟩

def readConnect (body : Bytes) : Option ConnectFields := connectFields.whole body

theorem reads_protocolName : Reads utf8String [0x00, 0x04, 0x4D, 0x51, 0x54, 0x54] "MQTT" :=
  reads_utf8String (s := "MQTT") (by decide)

theorem reads_connectFields {clientId username password : String} {keepalive : Nat}
    (hkeepalive : keepalive < 65536) (hclientId : (utf8Encode clientId).length < 65536)
    (husername : (utf8Encode username).length < 65536)
    (hpassword : (utf8Encode password).length < 65536) :
    Reads connectFields
      ([0x00, 0x04, 0x4D, 0x51, 0x54, 0x54] ++ ([0x04] ++ ([0xC2] ++ (uint16Bytes keepalive ++
        (stringBytes clientId ++ ([] ++ (stringBytes username ++ (stringBytes password ++ []))))))))
      ⟨true, keepalive, clientId, none, some username, some (utf8Encode password)⟩ := by
  apply Reads.bind reads_protocolName
  apply Reads.guard_then rfl
  apply Reads.bind (Reads.item 0x04)
  apply Reads.guard_then rfl
  apply Reads.bind (Reads.item 0xC2)
  apply Reads.guard_then (by decide)
  apply Reads.bind (reads_uint16 hkeepalive)
  apply Reads.bind (reads_utf8String hclientId)
  apply Reads.bind (Reads.pure none)
  apply Reads.bind (Reads.map some (reads_utf8String husername))
  apply Reads.bind (Reads.map some (reads_binary hpassword))
  exact Reads.pure _

/-! ## SUBSCRIBE -/

/-- A topic filter and the QoS asked for it. -/
def subscription : Reader UInt8 (String × Nat) := do
  let topic ← utf8String
  let qos ← item
  guard (qos.toNat ≤ 2)
  return (topic, qos.toNat)

/-- The packet id and the subscriptions of a SUBSCRIBE. -/
def readSubscribe (body : Bytes) : Option (Nat × List (String × Nat)) := do
  let (packetId, rest) ← uint16 body
  let subscriptions ← subscription.all rest
  return (packetId, subscriptions)

theorem reads_subscription {topic : String} (h : (utf8Encode topic).length < 65536) :
    Reads subscription (stringBytes topic ++ ([0x00] ++ [])) (topic, 0) := by
  apply Reads.bind (reads_utf8String h)
  apply Reads.bind (Reads.item 0x00)
  apply Reads.guard_then (by decide)
  exact Reads.pure _

theorem readSubscribe_topics {packetId : Nat} {topics : List String} (hpacketId : packetId < 65536)
    (htopics : ∀ topic ∈ topics, (utf8Encode topic).length < 65536) :
    readSubscribe (uint16Bytes packetId ++ topics.flatMap fun topic => stringBytes topic ++ [0x00]) =
      some (packetId, topics.map fun topic => (topic, 0)) := by
  have hmap : (topics.flatMap fun topic => stringBytes topic ++ [0x00]) =
      (topics.map fun topic => (topic, 0)).flatMap fun s => stringBytes s.1 ++ [0x00] := by
    rw [List.flatMap_map]
  have hall : subscription.all (topics.flatMap fun topic => stringBytes topic ++ [0x00]) =
      some (topics.map fun topic => (topic, 0)) := by
    rw [hmap]
    apply all_flatMap
    · simp
    · intro value hvalue
      obtain ⟨topic, htopic, rfl⟩ := List.mem_map.mp hvalue
      exact reads_subscription (htopics topic htopic)
  simp [readSubscribe, reads_uint16 hpacketId _, hall]

end Grammar

/-! ## The builders -/

theorem buildConnect_of_lt {clientId username password : String} {keepalive : Nat}
    (hkeepalive : keepalive < 65536) (hclientId : (utf8Encode clientId).length < 65536)
    (husername : (utf8Encode username).length < 65536)
    (hpassword : (utf8Encode password).length < 65536) :
    ∃ p : Packet, buildConnect clientId username password keepalive = .ok p.bytes ∧
      p.head = 0x10 ∧ Grammar.readConnect p.body =
        some ⟨true, keepalive, clientId, none, some username, some (utf8Encode password)⟩ := by
  let body : Bytes := [0x00, 0x04, 0x4D, 0x51, 0x54, 0x54] ++ [0x04] ++ [0xC2] ++
    uint16Bytes keepalive ++ (stringBytes clientId ++ stringBytes username ++ stringBytes password)
  have hlength : body.length < 2 ^ 28 := by
    simp only [body, stringBytes, uint16Bytes, List.length_append, List.length_cons,
      List.length_nil]
    omega
  have hreads := Grammar.reads_connectFields hkeepalive hclientId husername hpassword
  refine ⟨Packet.encode 0x10 body hlength, ?_, rfl, ?_⟩
  · simp [buildConnect, packUInt16_of_lt hkeepalive, encodeUtf8String_of_lt hclientId,
      encodeUtf8String_of_lt husername, encodeUtf8String_of_lt hpassword, bind, Except.bind, pure,
      Except.pure, Packet.encode, Packet.bytes, body]
  · have hwhole := hreads.whole
    simp only [List.nil_append, List.append_nil] at hwhole
    simpa only [Grammar.readConnect, Packet.encode, body, List.append_assoc] using hwhole

theorem buildConnect_of_le {clientId username password : String} {keepalive : Nat}
    (h : 65536 ≤ keepalive ∨ 65536 ≤ (utf8Encode clientId).length ∨
      65536 ≤ (utf8Encode username).length ∨ 65536 ≤ (utf8Encode password).length) :
    ∃ err, buildConnect clientId username password keepalive = .error err := by
  rcases Nat.lt_or_ge keepalive 65536 with hkeepalive | hle
  case inr =>
    obtain ⟨err, herr⟩ := packUInt16_of_le hle
    simp [buildConnect, herr, bind, Except.bind]
  rcases Nat.lt_or_ge (utf8Encode clientId).length 65536 with hclientId | hle
  case inr =>
    obtain ⟨err, herr⟩ := encodeUtf8String_of_le hle
    simp [buildConnect, packUInt16_of_lt hkeepalive, herr, bind, Except.bind]
  rcases Nat.lt_or_ge (utf8Encode username).length 65536 with husername | hle
  case inr =>
    obtain ⟨err, herr⟩ := encodeUtf8String_of_le hle
    simp [buildConnect, packUInt16_of_lt hkeepalive, encodeUtf8String_of_lt hclientId, herr, bind,
      Except.bind]
  have hpassword : 65536 ≤ (utf8Encode password).length := by omega
  obtain ⟨err, herr⟩ := encodeUtf8String_of_le hpassword
  simp [buildConnect, packUInt16_of_lt hkeepalive, encodeUtf8String_of_lt hclientId,
    encodeUtf8String_of_lt husername, herr, bind, Except.bind]

theorem subscribePayload_of_lt {topics : List String}
    (h : ∀ topic ∈ topics, (utf8Encode topic).length < 65536) :
    subscribePayload topics = .ok (topics.flatMap fun topic => stringBytes topic ++ [0x00]) := by
  induction topics with
  | nil => rfl
  | cons topic topics ih =>
    have htopic := encodeUtf8String_of_lt (h topic (by simp))
    have htopics := ih (fun t ht => h t (by simp [ht]))
    simp [subscribePayload, htopic, htopics, bind, Except.bind, pure, Except.pure]

theorem subscribePayload_of_le {topics : List String}
    (h : ∃ topic ∈ topics, 65536 ≤ (utf8Encode topic).length) :
    ∃ err, subscribePayload topics = .error err := by
  induction topics with
  | nil => simp at h
  | cons topic topics ih =>
    rcases Nat.lt_or_ge (utf8Encode topic).length 65536 with hlt | hle
    · have hrest : ∃ t ∈ topics, 65536 ≤ (utf8Encode t).length := by
        obtain ⟨t, ht, hlong⟩ := h
        rcases List.mem_cons.mp ht with rfl | ht
        · omega
        · exact ⟨t, ht, hlong⟩
      obtain ⟨err, herr⟩ := ih hrest
      simp [subscribePayload, encodeUtf8String_of_lt hlt, herr, bind, Except.bind]
    · obtain ⟨err, herr⟩ := encodeUtf8String_of_le hle
      simp [subscribePayload, herr, bind, Except.bind]

theorem buildSubscribe_of_lt {packetId : Nat} {topics : List String} (hpacketId : packetId < 65536)
    (htopics : ∀ topic ∈ topics, (utf8Encode topic).length < 65536)
    (htotal : 2 + (topics.map fun topic => 3 + (utf8Encode topic).length).sum < 2 ^ 28) :
    ∃ p : Packet, buildSubscribe packetId topics = .ok p.bytes ∧ p.head = 0x82 ∧
      Grammar.readSubscribe p.body = some (packetId, topics.map fun topic => (topic, 0)) := by
  let body : Bytes :=
    uint16Bytes packetId ++ topics.flatMap fun topic => stringBytes topic ++ [0x00]
  have hlength : body.length < 2 ^ 28 := by
    have hitem (topic : String) :
        (stringBytes topic ++ [0x00]).length = 3 + (utf8Encode topic).length := by
      simp only [stringBytes, uint16Bytes, List.length_append, List.length_cons, List.length_nil]
      omega
    simp only [body, List.length_append, List.length_flatMap, hitem]
    exact htotal
  refine ⟨Packet.encode 0x82 body hlength, ?_, rfl, ?_⟩
  · simp [buildSubscribe, packUInt16_of_lt hpacketId, subscribePayload_of_lt htopics, bind,
      Except.bind, pure, Except.pure, Packet.encode, Packet.bytes, body]
  · exact Grammar.readSubscribe_topics hpacketId htopics

theorem buildSubscribe_of_le {packetId : Nat} {topics : List String}
    (h : 65536 ≤ packetId ∨ ∃ topic ∈ topics, 65536 ≤ (utf8Encode topic).length) :
    ∃ err, buildSubscribe packetId topics = .error err := by
  rcases Nat.lt_or_ge packetId 65536 with hlt | hle
  · obtain ⟨err, herr⟩ := subscribePayload_of_le (h.resolve_left (by omega))
    simp [buildSubscribe, packUInt16_of_lt hlt, herr, bind, Except.bind]
  · obtain ⟨err, herr⟩ := packUInt16_of_le hle
    simp [buildSubscribe, herr, bind, Except.bind]

/-- What the builders emit is one packet, whatever follows it, and its body reads as the fields it was
built from; a field that does not fit its two-byte length makes them raise. -/
theorem builders_agree_with_grammar (rest : Bytes) :
    (∀ clientId username password keepalive, keepalive < 65536 →
      (utf8Encode clientId).length ≤ 65535 → (utf8Encode username).length ≤ 65535 →
      (utf8Encode password).length ≤ 65535 →
      ∃ p : Packet, buildConnect clientId username password keepalive = .ok p.bytes ∧
        takePacket (p.bytes ++ rest) = (some p.bytes, rest) ∧ p.head = 0x10 ∧
        Grammar.readConnect p.body =
          some ⟨true, keepalive, clientId, none, some username, some (utf8Encode password)⟩) ∧
    (∀ packetId topics, packetId < 65536 →
      (∀ topic ∈ topics, (utf8Encode topic).length ≤ 65535) →
      2 + (topics.map fun topic => 3 + (utf8Encode topic).length).sum < 2 ^ 28 →
      ∃ p : Packet, buildSubscribe packetId topics = .ok p.bytes ∧
        takePacket (p.bytes ++ rest) = (some p.bytes, rest) ∧ p.head = 0x82 ∧
        Grammar.readSubscribe p.body = some (packetId, topics.map fun topic => (topic, 0))) ∧
    (∀ clientId username password keepalive,
      65535 < keepalive ∨ 65535 < (utf8Encode clientId).length ∨
        65535 < (utf8Encode username).length ∨ 65535 < (utf8Encode password).length →
      ∃ err, buildConnect clientId username password keepalive = .error err) ∧
    ∀ packetId topics,
      65535 < packetId ∨ (∃ topic ∈ topics, 65535 < (utf8Encode topic).length) →
      ∃ err, buildSubscribe packetId topics = .error err := by
  refine ⟨?_, ?_, ?_, ?_⟩
  · intro clientId username password keepalive hkeepalive hclientId husername hpassword
    obtain ⟨p, hbuild, hhead, hread⟩ := @buildConnect_of_lt clientId username password keepalive
      hkeepalive (by omega) (by omega) (by omega)
    exact ⟨p, hbuild, p.takePacket_append rest, hhead, hread⟩
  · intro packetId topics hpacketId htopics htotal
    obtain ⟨p, hbuild, hhead, hread⟩ := buildSubscribe_of_lt hpacketId
      (fun topic htopic => Nat.lt_succ_of_le (htopics topic htopic)) htotal
    exact ⟨p, hbuild, p.takePacket_append rest, hhead, hread⟩
  · intro clientId username password keepalive h
    exact buildConnect_of_le h
  · intro packetId topics h
    exact buildSubscribe_of_le h

theorem builders_agree_with_grammar_packets :
    (∃ p : Packet, buildConnect "ha" "user" "pw" 60 = .ok p.bytes ∧
      takePacket (p.bytes ++ [0x20]) = (some p.bytes, [0x20]) ∧ p.head = 0x10 ∧
      Grammar.readConnect p.body =
        some ⟨true, 60, "ha", none, some "user", some (utf8Encode "pw")⟩) ∧
    (∃ p : Packet, buildSubscribe 1 ["d/c/out/#", "u/1/in/#"] = .ok p.bytes ∧
      takePacket (p.bytes ++ [0x20]) = (some p.bytes, [0x20]) ∧ p.head = 0x82 ∧
      Grammar.readSubscribe p.body = some (1, [("d/c/out/#", 0), ("u/1/in/#", 0)])) ∧
    (∃ err, buildConnect "ha" "user" "pw" 65536 = .error err) ∧
    ∃ err, buildSubscribe 65536 ["d/c/out/#"] = .error err :=
  have h := builders_agree_with_grammar [0x20]
  ⟨h.1 "ha" "user" "pw" 60 (by decide) (by decide) (by decide) (by decide),
    h.2.1 1 ["d/c/out/#", "u/1/in/#"] (by decide) (by decide) (by decide),
    h.2.2.1 "ha" "user" "pw" 65536 (by decide), h.2.2.2 65536 ["d/c/out/#"] (by decide)⟩

end Eisenberg.Mqtt
