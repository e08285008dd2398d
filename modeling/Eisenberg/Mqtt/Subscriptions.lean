import Eisenberg.Mqtt.Delivery
import Mathlib.Data.List.Nodup

/-!
# Subscriptions

The filters of one SUBSCRIBE are distinct, so the results that `connect` zips from them and the
codes of the SUBACK can be looked up by topic.
-/

namespace Eisenberg.Mqtt

/-- The verdict on a topic, or `none` when it was not subscribed. -/
def SubscribeOutcome.resultFor (outcome : SubscribeOutcome) (topic : String) : Option TopicResult :=
  outcome.results.find? fun r => r.topic == topic

/-! ## The filter list -/

/-- Append what is not there yet, in order. -/
def appendNew (topics more : List String) : List String :=
  more.foldl (fun topics topic => if topic ∈ topics then topics else topics ++ [topic]) topics

theorem mem_appendNew {topics more : List String} {x : String} :
    x ∈ appendNew topics more ↔ x ∈ topics ∨ x ∈ more := by
  induction more generalizing topics with
  | nil => simp [appendNew]
  | cons topic more ih =>
    have hstep : appendNew topics (topic :: more) =
        appendNew (if topic ∈ topics then topics else topics ++ [topic]) more := rfl
    rw [hstep, ih, List.mem_cons]
    split_ifs with hmem
    · constructor
      · intro h
        exact h.imp id Or.inr
      · intro h
        rcases h with h | rfl | h
        · exact Or.inl h
        · exact Or.inl hmem
        · exact Or.inr h
    · simp only [List.mem_append, List.mem_singleton, or_assoc]

theorem nodup_appendNew {topics : List String} (h : topics.Nodup) (more : List String) :
    (appendNew topics more).Nodup := by
  induction more generalizing topics with
  | nil => exact h
  | cons topic more ih =>
    have hstep : appendNew topics (topic :: more) =
        appendNew (if topic ∈ topics then topics else topics ++ [topic]) more := rfl
    rw [hstep]
    split_ifs with hmem
    · exact ih h
    · apply ih
      rw [List.nodup_append]
      refine ⟨h, List.nodup_singleton topic, ?_⟩
      intro a ha b hb hab
      rw [List.mem_singleton] at hb
      rw [hab, hb] at ha
      exact hmem ha

theorem buildSubscribeTopics_eq (xCloudIds : List String) (userId : String)
    (extraTopics : List String) :
    buildSubscribeTopics xCloudIds userId extraTopics =
      appendNew (xCloudIds.map (fun cid => "d/" ++ cid ++ "/out/#") ++ ["u/" ++ userId ++ "/in/#"])
        extraTopics := rfl

theorem cloudFilter_injective : Function.Injective fun cid : String => "d/" ++ cid ++ "/out/#" := by
  intro a b h
  have htext := congrArg String.toList h
  simp only [String.toList_append, List.append_cancel_right_eq, List.append_cancel_left_eq] at htext
  exact String.toList_inj.mp htext

theorem cloudFilter_ne_userFilter (cid userId : String) :
    "d/" ++ cid ++ "/out/#" ≠ "u/" ++ userId ++ "/in/#" := by
  intro h
  have hhead := congrArg (fun s => s.toList.head?) h
  simp at hhead

theorem nodup_buildSubscribeTopics {xCloudIds : List String} (h : xCloudIds.Nodup)
    (userId : String) (extraTopics : List String) :
    (buildSubscribeTopics xCloudIds userId extraTopics).Nodup := by
  rw [buildSubscribeTopics_eq]
  apply nodup_appendNew
  rw [List.nodup_append]
  refine ⟨h.map cloudFilter_injective, List.nodup_singleton _, ?_⟩
  intro a ha b hb
  obtain ⟨cid, -, rfl⟩ := List.mem_map.mp ha
  rw [List.mem_singleton.mp hb]
  exact cloudFilter_ne_userFilter cid userId

theorem mem_buildSubscribeTopics {xCloudIds : List String} {userId topic : String}
    {extraTopics : List String} :
    topic ∈ buildSubscribeTopics xCloudIds userId extraTopics ↔
      (∃ cid ∈ xCloudIds, topic = "d/" ++ cid ++ "/out/#") ∨ topic = "u/" ++ userId ++ "/in/#" ∨
        topic ∈ extraTopics := by
  rw [buildSubscribeTopics_eq, mem_appendNew]
  simp only [List.mem_append, List.mem_map, List.mem_singleton, or_assoc, eq_comm]

/-! ## Results by topic -/

/-- Among distinct topics the first result of a topic is the one at its own place. -/
theorem resultFor_subscribeOutcomeOf {topics : List String} (h : topics.Nodup) {codes : List Nat}
    {i : Nat} (hi : i < topics.length) (hcode : i < codes.length) :
    (subscribeOutcomeOf topics codes).resultFor topics[i] =
      some ⟨topics[i], codes[i], codes[i] != SUBACK_FAILURE⟩ := by
  induction topics generalizing codes i with
  | nil => simp at hi
  | cons topic topics ih =>
    cases codes with
    | nil => simp at hcode
    | cons code codes =>
      cases i with
      | zero => simp [subscribeOutcomeOf, SubscribeOutcome.resultFor]
      | succ i =>
        obtain ⟨hnot, hnodup⟩ := List.nodup_cons.mp h
        have hrest : i < topics.length := Nat.lt_of_succ_lt_succ hi
        have hlater := ih hnodup hrest (Nat.lt_of_succ_lt_succ hcode)
        have hne : topic ≠ topics[i] := by
          intro heq
          exact hnot (heq ▸ List.getElem_mem _)
        simpa [subscribeOutcomeOf, SubscribeOutcome.resultFor, hne] using hlater

/-- A SUBACK body is the packet id and one code for each filter. -/
theorem Packet.parseSuback_bytes (p : Packet) :
    parseSuback p.bytes = (p.body.drop 2).map UInt8.toNat := by
  simp only [parseSuback, p.decodeRemainingLength_bytes, p.drop_body]

/-- The code that a SUBACK with one code for each topic holds for a topic. -/
theorem resultFor_suback {topics : List String} (h : topics.Nodup) {p : Packet} {hi lo : UInt8}
    {codes : Bytes} (hbody : p.body = hi :: lo :: codes) {i : Nat} (hi : i < topics.length)
    (hcode : i < codes.length) :
    (subscribeOutcomeOf topics (parseSuback p.bytes)).resultFor topics[i] =
      some ⟨topics[i], codes[i].toNat, codes[i].toNat != SUBACK_FAILURE⟩ := by
  have hcodes : parseSuback p.bytes = codes.map UInt8.toNat := by
    rw [p.parseSuback_bytes, hbody]
    rfl
  have hlength : i < (codes.map UInt8.toNat).length := by simpa using hcode
  have hresult := resultFor_subscribeOutcomeOf h hi hlength
  rw [List.getElem_map] at hresult
  rw [hcodes, hresult]

/-! ## The outcome `connect` keeps -/

/-- The bytes the socket gives. -/
def receivedData : List Received → Bytes
  | [] => []
  | .msg (.binary data) :: received => data ++ receivedData received
  | _ :: received => receivedData received

variable {σ : Type} {loads : Bytes → Except Exc Json}

/-- The bytes that are buffered or still to come. -/
def World.incoming (w : World σ) (received : List Received) : Bytes :=
  w.stream.rxBuffer ++ receivedData received

theorem readPacket_buffered {w w' : World σ} {received left : List Received}
    {p packet rest : Bytes} (ht : takePacket w.stream.rxBuffer = (some p, rest))
    (h : readPacket w received = (w', .ok (packet, left))) :
    w'.stream.topics = w.stream.topics ∧
      takePacket (w.incoming received) = (some packet, w'.incoming left) := by
  rw [readPacket_of_some ht] at h
  simp only [Prod.mk.injEq, Handshake.ok.injEq] at h
  obtain ⟨rfl, rfl, rfl⟩ := h
  exact ⟨rfl, takePacket_append _ ht⟩

/-- The packet that was read is the first one of what was to come. -/
theorem readPacket_incoming {w w' : World σ} {received left : List Received} {packet : Bytes}
    (h : readPacket w received = (w', .ok (packet, left))) :
    w'.stream.topics = w.stream.topics ∧
      takePacket (w.incoming received) = (some packet, w'.incoming left) := by
  induction received generalizing w with
  | nil =>
    rcases ht : takePacket w.stream.rxBuffer with ⟨_ | p, rest⟩
    · unfold readPacket at h
      simp [ht] at h
    · exact readPacket_buffered ht h
  | cons r received ih =>
    rcases ht : takePacket w.stream.rxBuffer with ⟨_ | p, rest⟩
    · unfold readPacket at h
      cases r with
      | msg m =>
        cases m with
        | binary data =>
          simp only [ht] at h
          obtain ⟨htopics, htake⟩ := ih h
          refine ⟨htopics, ?_⟩
          rw [← htake]
          simp [World.incoming, receivedData, World.setBuffer]
        | closed => simp [ht] at h
        | error => simp [ht] at h
        | close =>
          simp only [ht] at h
          exact @ih w.setClosed h
        | other =>
          simp only [ht] at h
          exact ih h
      | timeout =>
        simp only [ht] at h
        exact ih h
      | cancelled => simp [ht] at h
    · exact readPacket_buffered ht h

theorem readPacket_front {w w' : World σ} {received left : List Received} {packet rest : Bytes}
    {p : Packet} (hdata : w.incoming received = p.bytes ++ rest)
    (h : readPacket w received = (w', .ok (packet, left))) :
    w'.stream.topics = w.stream.topics ∧ packet = p.bytes ∧ w'.incoming left = rest := by
  obtain ⟨htopics, htake⟩ := readPacket_incoming h
  rw [hdata, p.takePacket_append] at htake
  simp only [Prod.mk.injEq, Option.some.injEq] at htake
  exact ⟨htopics, htake.1.symm, htake.2.symm⟩

/-- The codes are those of the first SUBACK to come. -/
theorem awaitSuback_ok {fuel : Nat} {w w' : World σ} {received left : List Received}
    {codes : List Nat} {early : List Packet} {suback : Packet} {rest : Bytes}
    (hearly : ∀ p ∈ early, p.isSuback = false) (hsuback : suback.isSuback = true)
    (hdata : w.incoming received = packetBytes early ++ (suback.bytes ++ rest))
    (h : awaitSuback loads fuel w received = (w', .ok (codes, left))) :
    w'.stream.topics = w.stream.topics ∧ codes = parseSuback suback.bytes := by
  induction fuel generalizing w received early with
  | zero => simp [awaitSuback] at h
  | succ fuel ih =>
    simp only [awaitSuback] at h
    rcases hread : readPacket w received with ⟨w₁, ⟨packet, received₁⟩ | err | _⟩
    case raised => simp [hread] at h
    case blocked => simp [hread] at h
    simp only [hread] at h
    cases early with
    | nil =>
      obtain ⟨htopics, rfl, -⟩ := readPacket_front (by simpa using hdata) hread
      have htype : suback.packetType = SUBACK := by simpa [Packet.isSuback] using hsuback
      simp only [Packet.parsePacketType_bytes, htype, if_true, Prod.mk.injEq,
        Handshake.ok.injEq] at h
      obtain ⟨rfl, rfl, -⟩ := h
      exact ⟨htopics, rfl⟩
    | cons p early =>
      obtain ⟨htopics, rfl, hleft⟩ := readPacket_front (by simpa using hdata) hread
      have htype : p.packetType ≠ SUBACK := by simpa [Packet.isSuback] using hearly p (by simp)
      simp only [Packet.parsePacketType_bytes, htype, if_false] at h
      rcases hdispatch : handOver loads p.bytes w₁ with ⟨w₂, err | _⟩
      case error => simp [hdispatch] at h
      simp only [hdispatch] at h
      have hstream : w₂.stream = w₁.stream := by
        have hkept : (handOver loads p.bytes w₁).1.stream = w₁.stream := handOver_stream p.bytes w₁
        rwa [hdispatch] at hkept
      have hincoming : w₂.incoming received₁ = packetBytes early ++ (suback.bytes ++ rest) := by
        rw [World.incoming, hstream, ← World.incoming, hleft]
      have hrest : ∀ q ∈ early, q.isSuback = false := fun q hq => hearly q (by simp [hq])
      obtain ⟨hlater, hcodes⟩ := ih hrest hincoming h
      exact ⟨by rw [hlater, hstream, htopics], hcodes⟩

/-- A connection that came up holds the verdicts of the first SUBACK behind the CONNACK. -/
theorem connect_ok {t : Transport} {w w' : World σ} {received left : List Received}
    {connack suback : Packet} {early : List Packet} {rest : Bytes}
    (hearly : ∀ p ∈ early, p.isSuback = false) (hsuback : suback.isSuback = true)
    (hdata : receivedData received = connack.bytes ++ (packetBytes early ++ (suback.bytes ++ rest)))
    (h : connect loads t w received = (w', .ok left)) :
    w'.stream.subscribeOutcome =
      some (subscribeOutcomeOf w.stream.topics (parseSuback suback.bytes)) := by
  simp only [connect] at h
  rcases hsession : w.newSession.stream.openSession t with err | ⟨⟩
  case error => simp [hsession] at h
  simp only [hsession] at h
  rcases hread : readPacket w.newSession received with ⟨w₁, ⟨packet, received₁⟩ | err | _⟩
  case raised => simp [hread] at h
  case blocked => simp [hread] at h
  have hnew : w.newSession.incoming received = receivedData received := rfl
  obtain ⟨htopics, -, hleft⟩ := readPacket_front (hnew.trans hdata) hread
  simp only [hread] at h
  rcases hconnack : parseConnack packet with err | rc
  case error => simp [hconnack] at h
  simp only [hconnack] at h
  split_ifs at h with hrc
  · simp at h
  rcases hsend : w₁.stream.sendSubscribe t with err | ⟨⟩
  case error => simp [hsend] at h
  simp only [hsend] at h
  rcases hawait : awaitSuback loads (w₁.stream.rxBuffer.length + receivedBytes received₁ + 1) w₁
    received₁ with ⟨w₂, ⟨codes, received₂⟩ | err | _⟩
  case raised => simp [hawait] at h
  case blocked => simp [hawait] at h
  simp only [hawait, Prod.mk.injEq, Handshake.ok.injEq] at h
  obtain ⟨rfl, -⟩ := h
  obtain ⟨hlater, rfl⟩ := awaitSuback_ok hearly hsuback hleft hawait
  have hsame : w₂.stream.topics = w.stream.topics := by
    rw [hlater, htopics]
    rfl
  rw [← hsame]
  rfl

end Eisenberg.Mqtt
