import Eisenberg.Mqtt.Codec
import Mathlib.Tactic.Ring

/-!
# Framing of MQTT packets

`take_packet` is a framing in the sense of `Framework.Framing`, and `split_packets` is its split.
A packet that follows the grammar of the specification is one frame of it, and
`_decode_remaining_length` finds its body where `take_packet` did.
-/

namespace Eisenberg.Mqtt

open Framework

/-! ## The length loop -/

theorem takePacketLength_append {tail : Bytes} {remaining multiplier pos : Nat} {r : Nat × Nat}
    (h : takePacketLength tail remaining multiplier pos = some r) (more : Bytes) :
    takePacketLength (tail ++ more) remaining multiplier pos = some r := by
  induction tail generalizing remaining multiplier pos with
  | nil => simp [takePacketLength] at h
  | cons byte rest ih =>
    simp only [List.cons_append, takePacketLength] at h ⊢
    split_ifs at h ⊢ with hstop hcap
    · exact h
    · exact h
    · exact ih h

theorem takePacketLength_pos {tail : Bytes} {remaining multiplier pos : Nat} {r : Nat × Nat}
    (h : takePacketLength tail remaining multiplier pos = some r) : pos < r.2 := by
  induction tail generalizing remaining multiplier pos with
  | nil => simp [takePacketLength] at h
  | cons byte rest ih =>
    simp only [takePacketLength] at h
    split_ifs at h with hstop hcap
    · obtain rfl := Option.some.inj h
      simp
    · obtain rfl := Option.some.inj h
      simp
    · have := ih h
      omega

/-! ## The framing -/

theorem takePacket_some {buffer packet rest : Bytes} (h : takePacket buffer = (some packet, rest)) :
    ∃ head tail remaining pos, buffer = head :: tail ∧
      takePacketLength tail 0 1 1 = some (remaining, pos) ∧ pos + remaining ≤ buffer.length ∧
      packet = buffer.take (pos + remaining) ∧ rest = buffer.drop (pos + remaining) := by
  cases buffer with
  | nil => simp [takePacket] at h
  | cons head tail =>
    simp only [takePacket] at h
    rcases hlen : takePacketLength tail 0 1 1 with _ | ⟨remaining, pos⟩
    · simp [hlen] at h
    · simp only [hlen] at h
      split_ifs at h with hshort
      · simp at h
      simp only [Prod.mk.injEq, Option.some.injEq] at h
      exact ⟨head, tail, remaining, pos, rfl, hlen, by omega, h.1.symm, h.2.symm⟩

theorem takePacket_none {buffer rest : Bytes} (h : takePacket buffer = (none, rest)) :
    rest = buffer := by
  cases buffer with
  | nil => simpa [takePacket] using h.symm
  | cons head tail =>
    simp only [takePacket] at h
    rcases hlen : takePacketLength tail 0 1 1 with _ | ⟨remaining, pos⟩
    · simpa [hlen] using h.symm
    · simp only [hlen] at h
      split_ifs at h
      · simpa using h.symm
      · simp at h

theorem takePacket_append {buffer packet rest : Bytes} (more : Bytes)
    (h : takePacket buffer = (some packet, rest)) :
    takePacket (buffer ++ more) = (some packet, rest ++ more) := by
  obtain ⟨head, tail, remaining, pos, rfl, hlen, hle, rfl, rfl⟩ := takePacket_some h
  have hlong : ¬ pos + remaining > (head :: tail ++ more).length := by
    simp only [List.length_append]
    omega
  simp only [List.cons_append, takePacket, takePacketLength_append hlen more]
  rw [← List.cons_append, if_neg hlong, List.take_append_of_le_length hle,
    List.drop_append_of_le_length hle]

/-- `take_packet` as a framing of the byte stream. -/
def packetFraming : Framing UInt8 where
  take buffer := (takePacket buffer).1.map fun packet => (packet, (takePacket buffer).2)
  take_sound := by
    intro buf p rest h
    rcases ht : takePacket buf with ⟨_ | packet, left⟩
    · simp [ht] at h
    · simp only [ht, Option.map_some, Option.some.injEq, Prod.mk.injEq] at h
      obtain ⟨rfl, rfl⟩ := h
      obtain ⟨head, tail, remaining, pos, rfl, hlen, hle, rfl, rfl⟩ := takePacket_some ht
      have hpos := takePacketLength_pos hlen
      refine ⟨?_, (List.take_append_drop _ _).symm⟩
      obtain ⟨n, hn⟩ : ∃ n, pos + remaining = n + 1 := ⟨pos + remaining - 1, by omega⟩
      simp [hn]
  take_append := by
    intro buf p rest more h
    rcases ht : takePacket buf with ⟨_ | packet, left⟩
    · simp [ht] at h
    · simp only [ht, Option.map_some, Option.some.injEq, Prod.mk.injEq] at h
      obtain ⟨rfl, rfl⟩ := h
      simp [takePacket_append more ht]

theorem packetFraming_take_some {buffer packet rest : Bytes} :
    packetFraming.take buffer = some (packet, rest) ↔ takePacket buffer = (some packet, rest) := by
  rcases ht : takePacket buffer with ⟨_ | p, left⟩ <;> simp [packetFraming, ht]

theorem packetFraming_take_none {buffer : Bytes} :
    packetFraming.take buffer = none ↔ takePacket buffer = (none, buffer) := by
  rcases ht : takePacket buffer with ⟨_ | p, left⟩
  · simp [packetFraming, ht, takePacket_none ht]
  · simp [packetFraming, ht]

theorem splitPacketsLoop_eq (fuel : Nat) (packets : List Bytes) (rest : Bytes) :
    splitPacketsLoop fuel packets rest =
      (packets ++ (packetFraming.splitFuel fuel rest).1, (packetFraming.splitFuel fuel rest).2) := by
  induction fuel generalizing packets rest with
  | zero => simp [splitPacketsLoop, Framing.splitFuel]
  | succ fuel ih =>
    rcases ht : takePacket rest with ⟨_ | packet, left⟩
    · have hnone := takePacket_none ht
      subst hnone
      simp [splitPacketsLoop, Framing.splitFuel, ht, packetFraming_take_none.mpr ht]
    · simp [splitPacketsLoop, Framing.splitFuel, ht, packetFraming_take_some.mpr ht, ih]

theorem splitPackets_eq_split (buffer : Bytes) :
    splitPackets buffer = packetFraming.split buffer := by
  simp [splitPackets, splitPacketsLoop_eq, Framing.split]

/-! ## Packets of the grammar -/

def varintValue : Bytes → Nat
  | [] => 0
  | byte :: rest => (byte &&& 0x7F).toNat + 128 * varintValue rest

/-- The continuation bit is set on every byte but the last. -/
def IsVarint : Bytes → Prop
  | [] => False
  | byte :: rest => (byte &&& 0x80 = 0 ∧ rest = []) ∨ (byte &&& 0x80 ≠ 0 ∧ IsVarint rest)

/-- A complete control packet: a type byte, the remaining length in at most four varint bytes, and
as many bytes of body. -/
structure Packet where
  head : UInt8
  varint : Bytes
  body : Bytes
  isVarint : IsVarint varint
  varint_length : varint.length ≤ 4
  varint_value : varintValue varint = body.length

def Packet.bytes (p : Packet) : Bytes := p.head :: (p.varint ++ p.body)

def Packet.packetType (p : Packet) : Nat := ((p.head >>> 4) &&& 0x0F).toNat

theorem takePacketLength_varint {varint : Bytes} (h : IsVarint varint) (rest : Bytes)
    (remaining k pos : Nat) (hk : k + varint.length ≤ 4) :
    takePacketLength (varint ++ rest) remaining (128 ^ k) pos =
      some (remaining + 128 ^ k * varintValue varint, pos + varint.length) := by
  induction varint generalizing remaining k pos with
  | nil => exact absurd h (by simp [IsVarint])
  | cons byte more ih =>
    simp only [List.length_cons] at hk
    rcases h with ⟨hstop, rfl⟩ | ⟨hcont, hmore⟩
    · simp only [List.cons_append, takePacketLength, if_pos hstop, varintValue, List.length_cons,
        List.length_nil, Option.some.injEq, Prod.mk.injEq, Nat.zero_add, and_true]
      ring
    · have hmore_pos : 0 < more.length := by
        cases more with
        | nil => exact absurd hmore (by simp [IsVarint])
        | cons b bs => simp
      have hcap : ¬ 128 ^ k * 128 > 128 ^ 3 := by
        have : 128 ^ (k + 1) ≤ 128 ^ 3 := Nat.pow_le_pow_right (by omega) (by omega)
        rw [← pow_succ]
        omega
      simp only [List.cons_append, takePacketLength, if_neg hcont, if_neg hcap]
      rw [← pow_succ, ih hmore _ (k + 1) _ (by omega)]
      simp only [varintValue, List.length_cons, Option.some.injEq, Prod.mk.injEq]
      exact ⟨by ring, by omega⟩

theorem decodeRemainingLengthLoop_varint {varint : Bytes} (h : IsVarint varint) (rest : Bytes)
    (remaining multiplier idx : Nat) :
    decodeRemainingLengthLoop (varint ++ rest) remaining multiplier idx =
      (remaining + multiplier * varintValue varint, idx + varint.length) := by
  induction varint generalizing remaining multiplier idx with
  | nil => exact absurd h (by simp [IsVarint])
  | cons byte more ih =>
    rcases h with ⟨hstop, rfl⟩ | ⟨hcont, hmore⟩
    · simp only [List.cons_append, decodeRemainingLengthLoop, if_pos hstop, varintValue,
        List.length_cons, List.length_nil, Prod.mk.injEq, Nat.zero_add, and_true]
      ring
    · simp only [List.cons_append, decodeRemainingLengthLoop, if_neg hcont, ih hmore, varintValue,
        List.length_cons, Prod.mk.injEq]
      exact ⟨by ring, by omega⟩

namespace Packet

variable (p : Packet)

theorem takePacket_append (rest : Bytes) : takePacket (p.bytes ++ rest) = (some p.bytes, rest) := by
  have htake := takePacketLength_varint p.isVarint (p.body ++ rest) 0 0 1
    (by have := p.varint_length; omega)
  simp only [pow_zero, one_mul, zero_add, p.varint_value] at htake
  have hshort : ¬ 1 + p.varint.length + p.body.length > (p.bytes ++ rest).length := by
    simp only [bytes, List.length_append, List.length_cons]
    omega
  have hlength : 1 + p.varint.length + p.body.length = p.bytes.length := by
    simp only [bytes, List.length_append, List.length_cons]
    omega
  have hcons : p.bytes ++ rest = p.head :: (p.varint ++ (p.body ++ rest)) := by simp [bytes]
  rw [hcons]
  simp only [takePacket, htake]
  rw [← hcons, if_neg hshort, hlength, List.take_left, List.drop_left]

theorem isFrame : packetFraming.IsFrame p.bytes := by
  have := p.takePacket_append []
  rw [List.append_nil] at this
  exact packetFraming_take_some.mpr this

@[simp] theorem decodeRemainingLength_bytes :
    decodeRemainingLength p.bytes 1 = (p.body.length, 1 + p.varint.length) := by
  have hloop := decodeRemainingLengthLoop_varint p.isVarint p.body 0 1 1
  simpa [decodeRemainingLength, bytes, p.varint_value] using hloop

theorem drop_body (n : Nat) : p.bytes.drop (1 + p.varint.length + n) = p.body.drop n := by
  have hpre : 1 + p.varint.length = (p.head :: p.varint).length := by
    simp only [List.length_cons]
    omega
  rw [bytes, ← List.cons_append, hpre, ← List.drop_drop, List.drop_left]

theorem slice_body (n count : Nat) :
    slice p.bytes (1 + p.varint.length + n) count = (p.body.drop n).take count := by
  rw [slice, p.drop_body]

@[simp] theorem parsePacketType_bytes : parsePacketType p.bytes = .ok p.packetType := rfl

end Packet

theorem single_varint : ∀ n < 128, UInt8.ofNat n &&& 0x80 = 0 ∧ (UInt8.ofNat n &&& 0x7F).toNat = n := by
  decide

/-- The packet of a short body, its length in one byte. -/
def Packet.ofBody (head : UInt8) (body : Bytes) (h : body.length < 128) : Packet where
  head := head
  varint := [UInt8.ofNat body.length]
  body := body
  isVarint := Or.inl ⟨(single_varint _ h).1, rfl⟩
  varint_length := by simp
  varint_value := by simpa [varintValue] using (single_varint _ h).2

/-! ## The body of a PUBLISH -/

/-- The topic at the front of a PUBLISH body: a two-byte length and as many bytes of UTF-8, fewer
when the body ends first. -/
def readTopic : Bytes → Option String
  | hi :: lo :: rest => String.fromUTF8? ⟨(rest.take (hi.toNat * 256 + lo.toNat)).toArray⟩
  | _ => none

/-- What follows the topic and, for QoS 1 and 2, the packet id. -/
def publishPayload (head : UInt8) : Bytes → Bytes
  | hi :: lo :: rest =>
    let topicLen := hi.toNat * 256 + lo.toNat
    if (head >>> 1) &&& 0x03 > 0 then rest.drop (topicLen + 2) else rest.drop topicLen
  | _ => []

theorem Packet.parsePublish_of_readTopic (p : Packet) {topic : String}
    (h : readTopic p.body = some topic) :
    parsePublish p.bytes = .ok ⟨topic, publishPayload p.head p.body⟩ := by
  have hlen := p.slice_body 0 2
  rcases hbody : p.body with _ | ⟨hi, _ | ⟨lo, rest⟩⟩
  · simp [hbody, readTopic] at h
  · simp [hbody, readTopic] at h
  have htopic := p.slice_body 2 (hi.toNat * 256 + lo.toNat)
  have hpayload (n : Nat) : p.bytes.drop (1 + p.varint.length + 2 + n) = rest.drop n := by
    rw [Nat.add_assoc, p.drop_body, hbody, Nat.add_comm]
    rfl
  have hhead : p.bytes.headD 0 = p.head := rfl
  simp only [hbody, readTopic] at h
  simp only [hbody, Nat.add_zero, List.drop_zero, List.take_succ_cons, List.take_zero,
    List.drop_succ_cons] at hlen htopic
  simp only [parsePublish, decodeRemainingLength_bytes, hlen, unpackUInt16, utf8Decode, htopic, h,
    hhead, publishPayload, bind, Except.bind, pure, Except.pure]
  split_ifs with hqos
  · simp only [← hpayload, Nat.add_assoc]
  · simp only [← hpayload]

theorem Packet.parsePublish_of_readTopic_none (p : Packet) (h : readTopic p.body = none) :
    ∃ err, parsePublish p.bytes = .error err ∧ err.isException := by
  have hlen := p.slice_body 0 2
  simp only [Nat.add_zero, List.drop_zero] at hlen
  rcases hbody : p.body with _ | ⟨hi, _ | ⟨lo, rest⟩⟩
  · simp [parsePublish, hlen, hbody, unpackUInt16, bind, Except.bind, Exc.isException]
  · simp [parsePublish, hlen, hbody, unpackUInt16, bind, Except.bind, Exc.isException]
  have htopic := p.slice_body 2 (hi.toNat * 256 + lo.toNat)
  simp only [hbody, readTopic] at h
  simp only [hbody, List.take_succ_cons, List.take_zero, List.drop_succ_cons,
    List.drop_zero] at hlen htopic
  simp [parsePublish, hlen, unpackUInt16, utf8Decode, htopic, h, bind, Except.bind,
    Exc.isException]

end Eisenberg.Mqtt
