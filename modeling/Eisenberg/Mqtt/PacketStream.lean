import Eisenberg.Mqtt.PacketFraming

/-!
# The packet stream

What `split_packets` makes of an arbitrary byte stream, and what the second decoder of the remaining
length reads in a packet that `take_packet` cut off.
-/

namespace Eisenberg.Mqtt

open Framework

/-! ## The loop of `split_packets` -/

/-- The `while True` loop of `split_packets` as the source has it, without a bound on its turns. -/
inductive SplitLoop : List Bytes → Bytes → List Bytes × Bytes → Prop
  | stop {packets : List Bytes} {rest left : Bytes} (h : takePacket rest = (none, left)) :
      SplitLoop packets rest (packets, left)
  | turn {packets : List Bytes} {rest packet left : Bytes} {result : List Bytes × Bytes}
      (h : takePacket rest = (some packet, left))
      (hloop : SplitLoop (packets ++ [packet]) left result) : SplitLoop packets rest result

theorem splitLoop_split (packets : List Bytes) (rest : Bytes) :
    SplitLoop packets rest
      (packets ++ (packetFraming.split rest).1, (packetFraming.split rest).2) := by
  induction rest using packetFraming.take_induction generalizing packets with
  | stuck rest ht =>
    have hstop : SplitLoop packets rest (packets, rest) :=
      SplitLoop.stop (packetFraming_take_none.mp ht)
    simpa [packetFraming.split_of_none ht] using hstop
  | taken rest packet left ht ih =>
    have hturn := SplitLoop.turn (packetFraming_take_some.mp ht) (ih (packets ++ [packet]))
    simpa [packetFraming.split_of_some ht] using hturn

/-- The loop ends on every input; its packets and the remainder make up the input, no packet can be
taken from the remainder, and bytes that arrive later are split with that remainder. -/
theorem splitPackets_lossless_maximal_incremental (a b : Bytes) :
    SplitLoop [] a (splitPackets a) ∧
      (splitPackets a).1.flatten ++ (splitPackets a).2 = a ∧
      takePacket (splitPackets a).2 = (none, (splitPackets a).2) ∧
      splitPackets (a ++ b) =
        ((splitPackets a).1 ++ (splitPackets ((splitPackets a).2 ++ b)).1,
          (splitPackets ((splitPackets a).2 ++ b)).2) := by
  simp only [splitPackets_eq_split]
  have hloop := splitLoop_split [] a
  rw [List.nil_append] at hloop
  have hmaximal := packetFraming_take_none.mp (packetFraming.take_split_tail a)
  exact ⟨hloop, packetFraming.split_flatten_append a, hmaximal, packetFraming.split_append a b⟩

/-! ## The packets `take_packet` cuts off -/

/-- The continuation bit is set on every byte. -/
def IsContinued (bytes : Bytes) : Prop := ∀ byte ∈ bytes, byte &&& 0x80 ≠ 0

/-- The length loop ends at a byte without continuation bit, or at the fourth byte. -/
theorem takePacketLength_cases {tail : Bytes} {remaining k pos : Nat} {r : Nat × Nat} (hk : k ≤ 3)
    (h : takePacketLength tail remaining (128 ^ k) pos = some r) :
    ∃ front rest, tail = front ++ rest ∧
      r = (remaining + 128 ^ k * varintValue front, pos + front.length) ∧
      ((IsVarint front ∧ k + front.length ≤ 4) ∨ (IsContinued front ∧ k + front.length = 4)) := by
  induction tail generalizing remaining k pos with
  | nil => simp [takePacketLength] at h
  | cons byte rest ih =>
    simp only [takePacketLength] at h
    split_ifs at h with hstop hcap
    · refine ⟨[byte], rest, rfl, ?_, Or.inl ⟨Or.inl ⟨hstop, rfl⟩, by simp; omega⟩⟩
      rw [← Option.some.inj h]
      simp [varintValue, Nat.mul_comm]
    · have hk3 : k = 3 := by
        by_contra hne
        have : 128 ^ (k + 1) ≤ 128 ^ 3 := Nat.pow_le_pow_right (by omega) (by omega)
        rw [pow_succ] at this
        omega
      refine ⟨[byte], rest, rfl, ?_, Or.inr ⟨by simpa [IsContinued] using hstop, by simp [hk3]⟩⟩
      rw [← Option.some.inj h]
      simp [varintValue, Nat.mul_comm]
    · have hk2 : k + 1 ≤ 3 := by
        by_contra hne
        have : 128 ^ 3 < 128 ^ (k + 1) := Nat.pow_lt_pow_right (by omega) (by omega)
        rw [pow_succ] at this
        omega
      rw [← pow_succ] at h
      obtain ⟨front, left, rfl, hr, hfront⟩ := ih hk2 h
      refine ⟨byte :: front, left, rfl, ?_, ?_⟩
      · rw [hr]
        simp only [varintValue, List.length_cons, Prod.mk.injEq]
        exact ⟨by ring, by omega⟩
      · simp only [List.length_cons]
        rcases hfront with ⟨hvarint, hlength⟩ | ⟨hcontinued, hlength⟩
        · exact Or.inl ⟨Or.inr ⟨hstop, hvarint⟩, by omega⟩
        · refine Or.inr ⟨?_, by omega⟩
          intro b hb
          rcases List.mem_cons.mp hb with rfl | hb
          · exact hstop
          · exact hcontinued b hb

/-- The type byte and the length bytes that `take_packet` reads. -/
def headerLength (buffer : Bytes) : Nat :=
  ((takePacketLength (buffer.drop 1) 0 1 1).map Prod.snd).getD 0

theorem takePacket_cases {buffer packet rest : Bytes}
    (h : takePacket buffer = (some packet, rest)) :
    ∃ head front body, packet = head :: (front ++ body) ∧ buffer = packet ++ rest ∧
      varintValue front = body.length ∧ headerLength buffer = 1 + front.length ∧
      ((IsVarint front ∧ front.length ≤ 4) ∨ (IsContinued front ∧ front.length = 4)) := by
  obtain ⟨head, tail, remaining, pos, rfl, hlen, hle, rfl, rfl⟩ := takePacket_some h
  have hheader : headerLength (head :: tail) = pos := by simp [headerLength, hlen]
  obtain ⟨front, left, rfl, hr, hfront⟩ :=
    @takePacketLength_cases tail 0 0 1 _ (by omega) (by simpa using hlen)
  simp only [pow_zero, one_mul, zero_add, Prod.mk.injEq] at hr hfront
  obtain ⟨rfl, rfl⟩ := hr
  simp only [List.length_cons, List.length_append] at hle
  have hbody : (head :: (front ++ left)).take (1 + front.length + varintValue front) =
      head :: (front ++ left.take (varintValue front)) := by
    rw [Nat.add_assoc, Nat.add_comm 1, List.take_succ_cons, List.take_length_add_append]
  refine ⟨head, front, left.take (varintValue front), hbody, ?_, ?_, hheader, hfront⟩
  · exact (List.take_append_drop _ _).symm
  · rw [List.length_take]
    omega

theorem exists_final_of_isVarint {front : Bytes} (h : IsVarint front) :
    ∃ byte ∈ front, byte &&& 0x80 = 0 := by
  induction front with
  | nil => exact absurd h (by simp [IsVarint])
  | cons byte more ih =>
    rcases h with ⟨hstop, -⟩ | ⟨-, hmore⟩
    · exact ⟨byte, by simp, hstop⟩
    · obtain ⟨b, hb, hzero⟩ := ih hmore
      exact ⟨b, by simp [hb], hzero⟩

/-- Without a continuation bit on one of the four bytes behind the type byte, the packet follows the
grammar. -/
theorem takePacket_packet {buffer packet rest : Bytes} (h : takePacket buffer = (some packet, rest))
    (hfinal : ∃ byte ∈ (buffer.drop 1).take 4, byte &&& 0x80 = 0) :
    ∃ p : Packet, packet = p.bytes ∧ headerLength buffer = 1 + p.varint.length := by
  obtain ⟨head, front, body, rfl, rfl, hvalue, hheader, ⟨hvarint, hlength⟩ | ⟨hrun, hlength⟩⟩ :=
    takePacket_cases h
  · exact ⟨⟨head, front, body, hvarint, hlength, hvalue⟩, rfl, hheader⟩
  · have hfour : ((head :: (front ++ body) ++ rest).drop 1).take 4 = front := by
      simp [hlength]
    obtain ⟨byte, hbyte, hzero⟩ := hfinal
    rw [hfour] at hbyte
    exact absurd hzero (hrun byte hbyte)

/-- Otherwise its length bytes are four continuation bytes. -/
theorem takePacket_capped {buffer packet rest : Bytes} (h : takePacket buffer = (some packet, rest))
    (hfinal : ¬ ∃ byte ∈ (buffer.drop 1).take 4, byte &&& 0x80 = 0) :
    ∃ head front body, packet = head :: (front ++ body) ∧ (buffer.drop 1).take 4 = front ∧
      headerLength buffer = 5 ∧ IsContinued front ∧ front.length = 4 ∧
      varintValue front = body.length := by
  obtain ⟨head, front, body, rfl, rfl, hvalue, hheader, ⟨hvarint, hlength⟩ | ⟨hrun, hlength⟩⟩ :=
    takePacket_cases h
  · obtain ⟨byte, hbyte, hzero⟩ := exists_final_of_isVarint hvarint
    have hmem : byte ∈ ((head :: (front ++ body) ++ rest).drop 1).take 4 := by
      simp [List.take_append, List.take_of_length_le hlength, hbyte]
    exact absurd ⟨byte, hmem, hzero⟩ hfinal
  · have hfour : ((head :: (front ++ body) ++ rest).drop 1).take 4 = front := by
      simp [hlength]
    exact ⟨head, front, body, rfl, hfour, by rw [hheader, hlength], hrun, hlength, hvalue⟩

/-! ## The two decoders -/

theorem decodeRemainingLengthLoop_idx (bytes : Bytes) (remaining multiplier idx : Nat) :
    idx ≤ (decodeRemainingLengthLoop bytes remaining multiplier idx).2 := by
  induction bytes generalizing remaining multiplier idx with
  | nil => simp [decodeRemainingLengthLoop]
  | cons byte rest ih =>
    simp only [decodeRemainingLengthLoop]
    split_ifs with hstop
    · simp
    · exact Nat.le_trans (Nat.le_succ idx) (ih _ _ _)

theorem decodeRemainingLengthLoop_cons_idx (byte : UInt8) (rest : Bytes)
    (remaining multiplier idx : Nat) :
    idx < (decodeRemainingLengthLoop (byte :: rest) remaining multiplier idx).2 := by
  simp only [decodeRemainingLengthLoop]
  split_ifs with hstop
  · simp
  · exact decodeRemainingLengthLoop_idx _ _ _ _

theorem decodeRemainingLengthLoop_continued {front : Bytes} (h : IsContinued front) (rest : Bytes)
    (remaining multiplier idx : Nat) :
    decodeRemainingLengthLoop (front ++ rest) remaining multiplier idx =
      decodeRemainingLengthLoop rest (remaining + multiplier * varintValue front)
        (multiplier * 128 ^ front.length) (idx + front.length) := by
  induction front generalizing remaining multiplier idx with
  | nil => simp [varintValue]
  | cons byte more ih =>
    have hbyte : ¬ byte &&& 0x80 = 0 := h byte (by simp)
    have hmore : IsContinued more := fun b hb => h b (by simp [hb])
    simp only [List.cons_append, decodeRemainingLengthLoop, if_neg hbyte, ih hmore, varintValue,
      List.length_cons]
    congr 1
    · ring
    · ring
    · omega

theorem continued_value_zero {byte : UInt8} (h : byte &&& 0x80 ≠ 0) :
    (byte &&& 0x7F).toNat = 0 ↔ byte = 0x80 := by
  have hall : ∀ n < 256, UInt8.ofNat n &&& 0x80 ≠ 0 →
      ((UInt8.ofNat n &&& 0x7F).toNat = 0 ↔ UInt8.ofNat n = 0x80) := by decide +kernel
  have hbyte := hall byte.toNat byte.toNat_lt
  rw [UInt8.ofNat_toNat] at hbyte
  exact hbyte h

theorem varintValue_eq_zero_iff {front : Bytes} (h : IsContinued front) :
    varintValue front = 0 ↔ front = List.replicate front.length 0x80 := by
  induction front with
  | nil => simp [varintValue]
  | cons byte more ih =>
    have hzero := continued_value_zero (h byte (by simp))
    have hmore := ih (fun b hb => h b (by simp [hb]))
    simp only [varintValue, List.length_cons, List.replicate_succ, List.cons.injEq, ← hzero,
      ← hmore]
    omega

/-- After four continuation bytes the decoder without a cap reads on into the body. -/
theorem decodeRemainingLength_capped (head : UInt8) {front body : Bytes}
    (hrun : IsContinued front) (hlength : front.length = 4)
    (hvalue : varintValue front = body.length) :
    decodeRemainingLength (head :: (front ++ body)) 1 = (body.length, 5) ↔ body = [] := by
  have hdecode : decodeRemainingLength (head :: (front ++ body)) 1 =
      decodeRemainingLengthLoop body body.length (128 ^ 4) 5 := by
    have hloop := decodeRemainingLengthLoop_continued hrun body 0 1 1
    simpa [decodeRemainingLength, hlength, hvalue] using hloop
  rw [hdecode]
  cases body with
  | nil => simp [decodeRemainingLengthLoop]
  | cons byte more =>
    have hidx := decodeRemainingLengthLoop_cons_idx byte more (byte :: more).length (128 ^ 4) 5
    have hne : ¬ decodeRemainingLengthLoop (byte :: more) (byte :: more).length (128 ^ 4) 5 =
        ((byte :: more).length, 5) := by
      intro heq
      rw [heq] at hidx
      exact Nat.lt_irrefl 5 hidx
    simp only [hne, reduceCtorEq]

/-- The two decoders agree when one of the four bytes behind the type byte ends the length, or when
the four continuation bytes announce an empty body. -/
theorem decodeRemainingLength_agrees_iff {buffer packet rest : Bytes}
    (h : takePacket buffer = (some packet, rest)) :
    decodeRemainingLength packet 1 =
        (packet.length - headerLength buffer, headerLength buffer) ↔
      (∃ byte ∈ (buffer.drop 1).take 4, byte &&& 0x80 = 0) ∨
        (buffer.drop 1).take 4 = [0x80, 0x80, 0x80, 0x80] := by
  by_cases hfinal : ∃ byte ∈ (buffer.drop 1).take 4, byte &&& 0x80 = 0
  · obtain ⟨p, rfl, hheader⟩ := takePacket_packet h hfinal
    refine iff_of_true ?_ (Or.inl hfinal)
    rw [p.decodeRemainingLength_bytes, hheader]
    simp only [Packet.bytes, List.length_cons, List.length_append, Prod.mk.injEq, and_true]
    omega
  · obtain ⟨head, front, body, rfl, hfour, hheader, hrun, hlength, hvalue⟩ :=
      takePacket_capped h hfinal
    have hempty : front = [0x80, 0x80, 0x80, 0x80] ↔ body = [] := by
      have hzero := varintValue_eq_zero_iff hrun
      rw [hlength, hvalue, List.length_eq_zero_iff] at hzero
      exact hzero.symm
    have hbody : (head :: (front ++ body)).length - 5 = body.length := by
      simp only [List.length_cons, List.length_append, hlength]
      omega
    rw [or_iff_right hfinal, hheader, hfour, hempty, hbody]
    exact decodeRemainingLength_capped head hrun hlength hvalue

/-- Four continuation bytes announce one byte of body, and the second decoder reads it as part of
the length. -/
theorem decodeRemainingLength_agrees_fails :
    ∃ buffer packet rest, takePacket buffer = (some packet, rest) ∧
      decodeRemainingLength packet 1 ≠
        (packet.length - headerLength buffer, headerLength buffer) :=
  ⟨[0x30, 0x81, 0x80, 0x80, 0x80, 0x41], [0x30, 0x81, 0x80, 0x80, 0x80, 0x41], [],
    by decide, by decide⟩

/-- A PUBLISH whose body of 130 bytes takes two length bytes. -/
def twoByteLength : Bytes := [0x30, 0x82, 0x01] ++ List.replicate 130 0x41

theorem decodeRemainingLength_agrees_iff_two_bytes :
    takePacket (twoByteLength ++ [0xD0, 0x00]) = (some twoByteLength, [0xD0, 0x00]) ∧
      decodeRemainingLength twoByteLength 1 = (130, 3) ∧
      (decodeRemainingLength twoByteLength 1 =
          (twoByteLength.length - headerLength (twoByteLength ++ [0xD0, 0x00]),
            headerLength (twoByteLength ++ [0xD0, 0x00])) ↔
        (∃ byte ∈ ((twoByteLength ++ [0xD0, 0x00]).drop 1).take 4, byte &&& 0x80 = 0) ∨
          ((twoByteLength ++ [0xD0, 0x00]).drop 1).take 4 = [0x80, 0x80, 0x80, 0x80]) := by
  have htake : takePacket (twoByteLength ++ [0xD0, 0x00]) = (some twoByteLength, [0xD0, 0x00]) := by
    decide +kernel
  exact ⟨htake, by decide +kernel, decodeRemainingLength_agrees_iff htake⟩

end Eisenberg.Mqtt
