import Eisenberg.Mqtt.PacketFraming
import Eisenberg.Mqtt.Stream

/-!
# Delivery of packets

However the byte stream of a connection is cut into WebSocket frames, `connect` and `_listen_loop`
hand the packets it is made of to `_dispatch_packet`, once each and in order, until one of them
makes the dispatch raise.
-/

namespace Eisenberg.Mqtt

open Framework

variable {σ : Type} (loads : Bytes → Except Exc Json)

/-- A byte stream as the BINARY frames it arrives in. -/
def binaryFrames (frames : List Bytes) : List Received :=
  frames.map fun data => .msg (.binary data)

@[simp] theorem binaryFrames_nil : binaryFrames [] = [] := rfl

@[simp] theorem binaryFrames_cons (data : Bytes) (frames : List Bytes) :
    binaryFrames (data :: frames) = .msg (.binary data) :: binaryFrames frames := rfl

theorem length_flatten_le_receivedBytes (frames : List Bytes) (ending : List Received) :
    frames.flatten.length ≤ receivedBytes (binaryFrames frames ++ ending) := by
  induction frames with
  | nil => simp
  | cons data frames ih =>
    simp only [List.flatten_cons, List.length_append, binaryFrames_cons, List.cons_append,
      receivedBytes]
    omega

def packetBytes (ps : List Packet) : Bytes := (ps.map Packet.bytes).flatten

@[simp] theorem packetBytes_nil : packetBytes [] = [] := rfl

@[simp] theorem packetBytes_cons (p : Packet) (ps : List Packet) :
    packetBytes (p :: ps) = p.bytes ++ packetBytes ps := by
  simp [packetBytes]

@[simp] theorem packetBytes_append (ps qs : List Packet) :
    packetBytes (ps ++ qs) = packetBytes ps ++ packetBytes qs := by
  simp [packetBytes]

theorem length_le_packetBytes (ps : List Packet) : ps.length ≤ (packetBytes ps).length := by
  induction ps with
  | nil => simp
  | cons p ps ih =>
    simp only [packetBytes_cons, List.length_append, List.length_cons, Packet.bytes]
    omega

/-! ## What a packet is routed to -/

def Packet.isSuback (p : Packet) : Bool := p.packetType == SUBACK

/-- The topic of the PUBLISH can be read, and `json.loads` either accepts its payload or rejects it
as no JSON. -/
def Packet.readable (p : Packet) : Bool :=
  match readTopic p.body with
  | none => false
  | some _ =>
    match loads (publishPayload p.head p.body) with
    | .ok _ => true
    | .error err => isJsonReject err

def Packet.WellFormed (p : Packet) : Prop := p.packetType = PUBLISH → p.readable loads = true

instance (p : Packet) : Decidable (p.WellFormed loads) :=
  inferInstanceAs (Decidable (_ → _))

/-- `json.loads` accepts the payload, or rejects it as no JSON. -/
def Packet.PayloadRead (p : Packet) : Prop :=
  ∀ err, loads (publishPayload p.head p.body) = .error err → isJsonReject err = true

/-- What the handlers of a PUBLISH make of the state; other packets have none. -/
def routePacket (router : TopicRouter (EventHandler σ)) (p : Packet) (env : σ) : σ :=
  if p.packetType = PUBLISH then
    match readTopic p.body with
    | none => env
    | some topic =>
      match loads (publishPayload p.head p.body) with
      | .error _ => env
      | .ok payload => (runHandlers topic payload (router.matching topic) env).1
  else env

def routePackets (router : TopicRouter (EventHandler σ)) (ps : List Packet) (env : σ) : σ :=
  ps.foldl (fun env p => routePacket loads router p env) env

/-- The handlers raise ordinary exceptions only. -/
def OrdinaryHandlers (router : TopicRouter (EventHandler σ)) : Prop :=
  ∀ route ∈ router.routes, ∀ topic payload env err,
    (route.2 topic payload env).2 = .error err → err.isException

theorem runHandlers_ok {handlers : List (EventHandler σ)} {topic : String} {payload : Json}
    (h : ∀ handler ∈ handlers, ∀ env err,
      (handler topic payload env).2 = .error err → err.isException) (env : σ) :
    (runHandlers topic payload handlers env).2 = .ok () := by
  induction handlers generalizing env with
  | nil => rfl
  | cons handler handlers ih =>
    have hrest := ih fun other hother => h other (by simp [hother])
    have hhead := h handler (by simp) env
    rcases hrun : handler topic payload env with ⟨env', err | value⟩
    · rw [hrun] at hhead
      simp [runHandlers, hrun, hhead err rfl, hrest]
    · simp [runHandlers, hrun, hrest]

theorem OrdinaryHandlers.matching {router : TopicRouter (EventHandler σ)}
    (h : OrdinaryHandlers router) (topic : String) (payload : Json) (env : σ) :
    (runHandlers topic payload (router.matching topic) env).2 = .ok () := by
  apply runHandlers_ok
  intro handler hmem env err herr
  obtain ⟨pattern, hroute⟩ := TopicRouter.mem_matching hmem
  exact h _ hroute topic payload env err herr

variable {loads}

/-! ## Dispatch of one packet -/

theorem dispatchPacket_wellFormed {router : TopicRouter (EventHandler σ)}
    (hrouter : OrdinaryHandlers router) {p : Packet} (hp : p.WellFormed loads) (env : σ) :
    dispatchPacket loads router p.bytes env = (routePacket loads router p env, .ok ()) := by
  simp only [dispatchPacket, routePacket, p.parsePacketType_bytes]
  by_cases hpub : p.packetType = PUBLISH
  · have hread := hp hpub
    simp only [hpub, if_true]
    rcases htopic : readTopic p.body with _ | topic
    · simp [Packet.readable, htopic] at hread
    simp only [p.parsePublish_of_readTopic htopic]
    rcases hjson : loads (publishPayload p.head p.body) with err | payload
    · have hreject : isJsonReject err = true := by
        simpa [Packet.readable, htopic, hjson] using hread
      simp [hreject]
    · exact Prod.ext rfl (hrouter.matching topic payload env)
  · simp [hpub]

theorem dispatchPacket_malformed (hloads : ∀ data err, loads data = .error err → err.isException)
    (router : TopicRouter (EventHandler σ)) {p : Packet} (hp : ¬ p.WellFormed loads) (env : σ) :
    ∃ err, dispatchPacket loads router p.bytes env = (env, .error err) ∧ err.isException := by
  simp only [Packet.WellFormed, Classical.not_imp, Bool.not_eq_true] at hp
  obtain ⟨hpub, hread⟩ := hp
  simp only [dispatchPacket, p.parsePacketType_bytes, hpub, if_true]
  rcases htopic : readTopic p.body with _ | topic
  · obtain ⟨err, hparse, hexc⟩ := p.parsePublish_of_readTopic_none htopic
    exact ⟨err, by simp [hparse], hexc⟩
  rcases hjson : loads (publishPayload p.head p.body) with err | payload
  · have hreject : isJsonReject err = false := by
      simpa [Packet.readable, htopic, hjson] using hread
    refine ⟨err, ?_, hloads _ _ hjson⟩
    simp [p.parsePublish_of_readTopic htopic, hjson, hreject]
  · simp [Packet.readable, htopic, hjson] at hread

/-! ## Handing over -/

theorem handOver_stream (data : Bytes) (w : World σ) :
    (handOver loads data w).1.stream = w.stream := rfl

theorem handOver_setBuffer (data : Bytes) (w : World σ) (buffer : Bytes) :
    handOver loads data (w.setBuffer buffer) =
      ((handOver loads data w).1.setBuffer buffer, (handOver loads data w).2) := rfl

theorem handOverAll_setBuffer (packets : List Bytes) (w : World σ) (buffer : Bytes) :
    handOverAll loads packets (w.setBuffer buffer) =
      ((handOverAll loads packets w).1.setBuffer buffer, (handOverAll loads packets w).2) := by
  induction packets generalizing w with
  | nil => rfl
  | cons packet packets ih =>
    rcases hhand : handOver loads packet w with ⟨w', err | value⟩ <;>
      simp [handOverAll, handOver_setBuffer, hhand, ih]

theorem handOverAll_stream (packets : List Bytes) (w : World σ) :
    (handOverAll loads packets w).1.stream = w.stream := by
  induction packets generalizing w with
  | nil => rfl
  | cons packet packets ih =>
    have hstream : (handOver loads packet w).1.stream = w.stream := handOver_stream packet w
    rcases hhand : handOver loads packet w with ⟨w', err | value⟩
    · simpa [handOverAll, hhand] using hstream
    · rw [hhand] at hstream
      simpa [handOverAll, hhand, ih] using hstream

theorem handOverAll_append (packets more : List Bytes) (w : World σ) :
    handOverAll loads (packets ++ more) w =
      match handOverAll loads packets w with
      | (w, .ok ()) => handOverAll loads more w
      | (w, .error err) => (w, .error err) := by
  induction packets generalizing w with
  | nil => rfl
  | cons packet packets ih =>
    rcases hhand : handOver loads packet w with ⟨w', err | value⟩
    · simp [handOverAll, hhand]
    · simp [handOverAll, hhand, ih]

/-- The world after the packets were routed and nothing else happened. -/
def World.deliver (loads : Bytes → Except Exc Json) (w : World σ) (ps : List Packet) : World σ :=
  { w with
    env := routePackets loads w.stream.router ps w.env
    handed := w.handed ++ ps.map Packet.bytes }

theorem handOver_wellFormed {w : World σ} (hrouter : OrdinaryHandlers w.stream.router) {p : Packet}
    (hp : p.WellFormed loads) : handOver loads p.bytes w = (w.deliver loads [p], .ok ()) := by
  simp [handOver, dispatchPacket_wellFormed hrouter hp, World.deliver, routePackets]

theorem World.deliver_append (w : World σ) (ps qs : List Packet) :
    (w.deliver loads ps).deliver loads qs = w.deliver loads (ps ++ qs) := by
  simp [World.deliver, routePackets]

theorem handOverAll_wellFormed {w : World σ} (hrouter : OrdinaryHandlers w.stream.router)
    {ps : List Packet} (hps : ∀ p ∈ ps, p.WellFormed loads) :
    handOverAll loads (ps.map Packet.bytes) w = (w.deliver loads ps, .ok ()) := by
  induction ps generalizing w with
  | nil => simp [handOverAll, World.deliver, routePackets]
  | cons p ps ih =>
    have hhead := handOver_wellFormed hrouter (hps p (by simp))
    have htail := ih (w := w.deliver loads [p]) hrouter fun q hq => hps q (by simp [hq])
    simp only [List.map_cons, handOverAll, hhead, htail, World.deliver_append, List.singleton_append]

theorem handOverAll_malformed (hloads : ∀ data err, loads data = .error err → err.isException)
    {w : World σ} (hrouter : OrdinaryHandlers w.stream.router) {good : List Packet}
    (hgood : ∀ p ∈ good, p.WellFormed loads) {bad : Packet} (hbad : ¬ bad.WellFormed loads)
    (more : List Packet) :
    ∃ err, err.isException ∧ handOverAll loads ((good ++ bad :: more).map Packet.bytes) w =
      ({ w.deliver loads good with handed := w.handed ++ (good ++ [bad]).map Packet.bytes },
        .error err) := by
  obtain ⟨err, hdispatch, hexc⟩ := dispatchPacket_malformed hloads w.stream.router hbad
    (routePackets loads w.stream.router good w.env)
  refine ⟨err, hexc, ?_⟩
  rw [List.map_append, handOverAll_append, handOverAll_wellFormed hrouter hgood]
  simp [handOverAll, handOver, World.deliver, hdispatch]

/-! ## The handshake reader -/

/-- The next packet of the stream is read, and what is left of the stream is the buffer and the
frames that were not received yet. -/
theorem readPacket_packet {p : Packet} {rest : Bytes} {frames : List Bytes} {w : World σ}
    (hstream : w.stream.rxBuffer ++ frames.flatten = p.bytes ++ rest) (ending : List Received) :
    ∃ left later, left ++ later.flatten = rest ∧
      readPacket w (binaryFrames frames ++ ending) =
        (w.setBuffer left, .ok (p.bytes, binaryFrames later ++ ending)) := by
  induction frames generalizing w with
  | nil =>
    rcases packetFraming.take_front p.isFrame hstream with ⟨left, ht, hleft⟩ | ⟨-, hmore⟩
    · exact ⟨left, [], hleft, readPacket_of_some (packetFraming_take_some.mp ht) _⟩
    · simp at hmore
  | cons data frames ih =>
    rcases packetFraming.take_front p.isFrame hstream with ⟨left, ht, hleft⟩ | ⟨ht, -⟩
    · exact ⟨left, data :: frames, hleft, readPacket_of_some (packetFraming_take_some.mp ht) _⟩
    · obtain ⟨left, later, hleft, hread⟩ := ih (w := w.setBuffer (w.stream.rxBuffer ++ data))
        (by simpa [World.setBuffer] using hstream)
      refine ⟨left, later, hleft, ?_⟩
      simpa [readPacket, packetFraming_take_none.mp ht] using hread

/-- The packets before the SUBACK are handed over, the SUBACK is consumed, and the stream goes on
behind it. -/
theorem awaitSuback_packets {pre : List Packet} (hpre : ∀ p ∈ pre, p.isSuback = false)
    (hwf : ∀ p ∈ pre, p.WellFormed loads) {suback : Packet} (hsuback : suback.isSuback = true)
    {rest : Bytes} {frames : List Bytes} {w : World σ} (hrouter : OrdinaryHandlers w.stream.router)
    (hstream : w.stream.rxBuffer ++ frames.flatten = packetBytes pre ++ (suback.bytes ++ rest))
    {fuel : Nat} (hfuel : pre.length < fuel) (ending : List Received) :
    ∃ left later, left ++ later.flatten = rest ∧
      awaitSuback loads fuel w (binaryFrames frames ++ ending) =
        ((w.deliver loads pre).setBuffer left,
          .ok (parseSuback suback.bytes, binaryFrames later ++ ending)) := by
  induction pre generalizing w frames fuel with
  | nil =>
    obtain ⟨fuel, rfl⟩ : ∃ n, fuel = n + 1 := ⟨fuel - 1, by simp at hfuel; omega⟩
    obtain ⟨left, later, hleft, hread⟩ := readPacket_packet (by simpa using hstream) ending
    have htype : suback.packetType = SUBACK := by simpa [Packet.isSuback] using hsuback
    refine ⟨left, later, hleft, ?_⟩
    simp [awaitSuback, hread, htype, World.deliver, routePackets]
  | cons p pre ih =>
    obtain ⟨fuel, rfl⟩ : ∃ n, fuel = n + 1 := ⟨fuel - 1, by simp at hfuel; omega⟩
    have hfront : w.stream.rxBuffer ++ frames.flatten =
        p.bytes ++ (packetBytes pre ++ (suback.bytes ++ rest)) := by
      simpa using hstream
    obtain ⟨left, later, hleft, hread⟩ := readPacket_packet hfront ending
    have htype : p.packetType ≠ SUBACK := by simpa [Packet.isSuback] using hpre p (by simp)
    have hhand := handOver_wellFormed (w := w.setBuffer left) hrouter (hwf p (by simp))
    have hfuel' : pre.length < fuel := by simpa using hfuel
    obtain ⟨left', later', hleft', hawait⟩ := ih (w := (w.setBuffer left).deliver loads [p])
      (fun q hq => hpre q (by simp [hq])) (fun q hq => hwf q (by simp [hq])) hrouter hleft hfuel'
    refine ⟨left', later', hleft', ?_⟩
    simp only [awaitSuback, hread, p.parsePacketType_bytes, if_neg htype, hhand, hawait]
    simp [World.deliver, World.setBuffer, routePackets]

/-- A packet before the SUBACK whose dispatch raises ends the wait. -/
theorem awaitSuback_malformed (hloads : ∀ data err, loads data = .error err → err.isException)
    {good : List Packet} (hgood : ∀ p ∈ good, p.isSuback = false)
    (hwf : ∀ p ∈ good, p.WellFormed loads) {bad : Packet} (hbad : ¬ bad.WellFormed loads)
    {rest : Bytes} {frames : List Bytes} {w : World σ} (hrouter : OrdinaryHandlers w.stream.router)
    (hstream : w.stream.rxBuffer ++ frames.flatten = packetBytes good ++ (bad.bytes ++ rest))
    {fuel : Nat} (hfuel : good.length < fuel) (ending : List Received) :
    ∃ w' err, awaitSuback loads fuel w (binaryFrames frames ++ ending) = (w', .raised err) ∧
      w'.handed = w.handed ++ (good ++ [bad]).map Packet.bytes := by
  induction good generalizing w frames fuel with
  | nil =>
    obtain ⟨fuel, rfl⟩ : ∃ n, fuel = n + 1 := ⟨fuel - 1, by simp at hfuel; omega⟩
    obtain ⟨left, later, -, hread⟩ := readPacket_packet (by simpa using hstream) ending
    have htype : bad.packetType ≠ SUBACK := by
      intro hsuback
      apply hbad
      intro hpublish
      rw [hsuback] at hpublish
      cases hpublish
    obtain ⟨err, hdispatch, -⟩ := dispatchPacket_malformed hloads w.stream.router hbad w.env
    have hresult : (handOver loads bad.bytes (w.setBuffer left)).2 = .error err := by
      simp [handOver, World.setBuffer, hdispatch]
    have hhanded : (handOver loads bad.bytes (w.setBuffer left)).1.handed =
        w.handed ++ [bad.bytes] := rfl
    rcases hrun : handOver loads bad.bytes (w.setBuffer left) with ⟨w', result⟩
    rw [hrun] at hresult hhanded
    simp only at hresult
    refine ⟨w', err, ?_, hhanded⟩
    simp only [awaitSuback, hread, Packet.parsePacketType_bytes, if_neg htype, hrun, hresult]
  | cons p good ih =>
    obtain ⟨fuel, rfl⟩ : ∃ n, fuel = n + 1 := ⟨fuel - 1, by simp at hfuel; omega⟩
    have hfront : w.stream.rxBuffer ++ frames.flatten =
        p.bytes ++ (packetBytes good ++ (bad.bytes ++ rest)) := by
      simpa using hstream
    obtain ⟨left, later, hleft, hread⟩ := readPacket_packet hfront ending
    have htype : p.packetType ≠ SUBACK := by simpa [Packet.isSuback] using hgood p (by simp)
    have hhand := handOver_wellFormed (w := w.setBuffer left) hrouter (hwf p (by simp))
    have hfuel' : good.length < fuel := by simpa using hfuel
    obtain ⟨w', err, hawait, hhanded⟩ := ih (w := (w.setBuffer left).deliver loads [p])
      (fun q hq => hgood q (by simp [hq])) (fun q hq => hwf q (by simp [hq])) hrouter hleft hfuel'
    refine ⟨w', err, ?_, ?_⟩
    · simp only [awaitSuback, hread, p.parsePacketType_bytes, if_neg htype, hhand, hawait]
    · rw [hhanded]
      simp [World.deliver, World.setBuffer]

/-! ## The listen loop -/

/-- `_drain_buffer` and then the `while` of `_listen_loop`. -/
def drainAndReceive (loads : Bytes → Except Exc Json) (w : World σ) (received : List Received) :
    World σ × LoopEnd :=
  match drainBuffer loads w with
  | (w, .error err) => (w, .ofExc err)
  | (w, .ok ()) => receiveLoop loads w received

theorem receiveLoop_binary {w : World σ} (hrun : w.stream.running = true)
    (hopen : w.stream.wsClosed = false) (data : Bytes) (rest : List Received) :
    receiveLoop loads w (.msg (.binary data) :: rest) =
      drainAndReceive loads (w.setBuffer (w.stream.rxBuffer ++ data)) rest := by
  rw [receiveLoop]
  exact if_pos (by simp [hrun, hopen])

/-- The loop hands over the packets of the stream one after the other; where one of them raises,
the loop ends there. -/
theorem drainAndReceive_packets {ps : List Packet} {frames : List Bytes} {w : World σ}
    (hrun : w.stream.running = true) (hopen : w.stream.wsClosed = false)
    (hstream : w.stream.rxBuffer ++ frames.flatten = packetBytes ps) (ending : List Received) :
    ∃ left, (left = [] ∨ ∃ err, (handOverAll loads (ps.map Packet.bytes) w).2 = .error err) ∧
      drainAndReceive loads w (binaryFrames frames ++ ending) =
        match handOverAll loads (ps.map Packet.bytes) (w.setBuffer left) with
        | (w, .error err) => (w, .ofExc err)
        | (w, .ok ()) => receiveLoop loads w ending := by
  have hframes : ∀ qs : List Packet, ∀ b ∈ qs.map Packet.bytes, packetFraming.IsFrame b := by
    intro qs b hb
    obtain ⟨p, -, rfl⟩ := List.mem_map.mp hb
    exact p.isFrame
  induction frames generalizing w ps with
  | nil =>
    have hsplit := packetFraming.split_frames (hframes ps)
    have hbuffer : w.stream.rxBuffer = (ps.map Packet.bytes).flatten := by
      simpa [packetBytes] using hstream
    refine ⟨[], Or.inl rfl, ?_⟩
    simp [drainAndReceive, drainBuffer, splitPackets_eq_split, hbuffer, hsplit]
  | cons data frames ih =>
    have hbytes : w.stream.rxBuffer ++ (data ++ frames.flatten) =
        (ps.map Packet.bytes).flatten := by
      simpa [packetBytes] using hstream
    obtain ⟨done, todo, hps, hdone, htodo⟩ :=
      packetFraming.split_prefix (hframes ps) hbytes
    obtain ⟨ps₁, ps₂, rfl, rfl, rfl⟩ := List.map_eq_append_iff.mp hps
    have hdrain : drainBuffer loads w =
        handOverAll loads (ps₁.map Packet.bytes)
          (w.setBuffer (packetFraming.split w.stream.rxBuffer).2) := by
      simp only [drainBuffer, splitPackets_eq_split, hdone]
    rcases hfirst : handOverAll loads (ps₁.map Packet.bytes) w with ⟨w₁, err | value⟩
    · refine ⟨(packetFraming.split w.stream.rxBuffer).2, Or.inr ⟨err, ?_⟩, ?_⟩
      · simp [handOverAll_append, hfirst]
      · simp [drainAndReceive, hdrain, handOverAll_setBuffer, handOverAll_append, hfirst]
    · have hstream₁ : (handOverAll loads (ps₁.map Packet.bytes) w).1.stream = w.stream :=
        handOverAll_stream (ps₁.map Packet.bytes) w
      rw [hfirst] at hstream₁
      simp only at hstream₁
      have htodo₁ : (w₁.setBuffer ((packetFraming.split w.stream.rxBuffer).2 ++ data)).stream.rxBuffer
          ++ frames.flatten = packetBytes ps₂ := by
        simpa [World.setBuffer, packetBytes] using htodo
      obtain ⟨left, hleft, hloop⟩ := ih
        (by simpa [World.setBuffer, hstream₁] using hrun)
        (by simpa [World.setBuffer, hstream₁] using hopen) htodo₁
      refine ⟨left, ?_, ?_⟩
      · simpa [handOverAll_append, hfirst, handOverAll_setBuffer] using hleft
      · let w₂ := w₁.setBuffer (packetFraming.split w.stream.rxBuffer).2
        have hbinary : receiveLoop loads w₂ (.msg (.binary data) :: (binaryFrames frames ++ ending)) =
            drainAndReceive loads (w₂.setBuffer (w₂.stream.rxBuffer ++ data))
              (binaryFrames frames ++ ending) :=
          receiveLoop_binary (by simpa [w₂, World.setBuffer, hstream₁] using hrun)
            (by simpa [w₂, World.setBuffer, hstream₁] using hopen) data _
        simp only [drainAndReceive, hdrain, handOverAll_setBuffer, hfirst, binaryFrames_cons,
          List.cons_append]
        rw [hbinary, List.map_append, handOverAll_append, hfirst]
        rw [World.setBuffer_setBuffer, handOverAll_setBuffer] at hloop
        exact hloop

/-- Without another frame the loop only learns that the socket is closed. -/
theorem receiveLoop_ending {received : List Received}
    (h : ∀ data, Received.msg (.binary data) ∉ received) (w : World σ) :
    ∃ closed stop, (stop = .returned ∨ stop = .cancelled) ∧ receiveLoop loads w received =
      ({ w with stream := { w.stream with wsClosed := closed } }, stop) := by
  induction received generalizing w with
  | nil => exact ⟨w.stream.wsClosed, .returned, Or.inl rfl, rfl⟩
  | cons r rest ih =>
    have hrest : ∀ data, Received.msg (.binary data) ∉ rest := fun data hmem =>
      h data (List.mem_cons_of_mem _ hmem)
    by_cases hgo : w.stream.running && !w.stream.wsClosed
    · simp only [receiveLoop, hgo, if_true]
      cases r with
      | timeout => exact ⟨w.stream.wsClosed, .returned, Or.inl rfl, rfl⟩
      | cancelled => exact ⟨w.stream.wsClosed, .cancelled, Or.inr rfl, rfl⟩
      | msg m =>
        cases m with
        | binary data => exact absurd List.mem_cons_self (h data)
        | closed => exact ⟨true, .returned, Or.inl rfl, rfl⟩
        | error => exact ⟨true, .returned, Or.inl rfl, rfl⟩
        | close => exact ih hrest w.setClosed
        | other => exact ih hrest w
    · exact ⟨w.stream.wsClosed, .returned, Or.inl rfl, by simp [receiveLoop, hgo]⟩

theorem listenLoop_eq (w : World σ) (received : List Received) :
    listenLoop loads w received =
      match drainAndReceive loads w received with
      | (w, .returned) => notifyDisconnect w
      | (w, stop) => (w, stop) := by
  unfold listenLoop drainAndReceive
  rcases hdrain : drainBuffer loads w with ⟨w', err | value⟩
  · cases err <;> rfl
  · rfl

/-- A run over well-formed packets delivers all of them, and then either calls back or was
cancelled. -/
theorem listenLoop_wellFormed {ps : List Packet} {frames : List Bytes} {w : World σ}
    (hrun : w.stream.running = true) (hopen : w.stream.wsClosed = false)
    (hrouter : OrdinaryHandlers w.stream.router) (hwf : ∀ p ∈ ps, p.WellFormed loads)
    (hstream : w.stream.rxBuffer ++ frames.flatten = packetBytes ps) {ending : List Received}
    (hending : ∀ data, Received.msg (.binary data) ∉ ending) :
    ∃ left closed, let w' := (w.setBuffer left).deliver loads ps
      let w'' := { w' with stream := { w'.stream with wsClosed := closed } }
      listenLoop loads w (binaryFrames frames ++ ending) = notifyDisconnect w'' ∨
        listenLoop loads w (binaryFrames frames ++ ending) = (w'', .cancelled) := by
  obtain ⟨left, -, hloop⟩ := drainAndReceive_packets hrun hopen hstream ending
  rw [handOverAll_wellFormed (w := w.setBuffer left) hrouter hwf] at hloop
  obtain ⟨closed, stop, hstop, hend⟩ :
      ∃ closed stop, (stop = LoopEnd.returned ∨ stop = .cancelled) ∧
        receiveLoop loads ((w.setBuffer left).deliver loads ps) ending = (_, stop) :=
    receiveLoop_ending hending _
  refine ⟨left, closed, ?_⟩
  simp only at hloop
  rw [listenLoop_eq, hloop, hend]
  rcases hstop with rfl | rfl
  · exact Or.inl rfl
  · exact Or.inr rfl

/-- The first malformed PUBLISH is handed over and ends the loop. -/
theorem listenLoop_malformed (hloads : ∀ data err, loads data = .error err → err.isException)
    {good more : List Packet} {bad : Packet} {frames : List Bytes} {w : World σ}
    (hrun : w.stream.running = true) (hopen : w.stream.wsClosed = false)
    (hrouter : OrdinaryHandlers w.stream.router) (hgood : ∀ p ∈ good, p.WellFormed loads)
    (hbad : ¬ bad.WellFormed loads)
    (hstream : w.stream.rxBuffer ++ frames.flatten = packetBytes (good ++ bad :: more))
    (ending : List Received) :
    ∃ left err, listenLoop loads w (binaryFrames frames ++ ending) =
      ({ (w.setBuffer left).deliver loads good with
          handed := w.handed ++ (good ++ [bad]).map Packet.bytes }, .raised err) := by
  obtain ⟨left, -, hloop⟩ := drainAndReceive_packets hrun hopen hstream ending
  obtain ⟨err, hexc, hhand⟩ := handOverAll_malformed hloads (w := w.setBuffer left) hrouter hgood
    hbad more
  rw [hhand] at hloop
  have hofExc : LoopEnd.ofExc err = .raised err := by
    cases err <;> first | rfl | cases hexc
  simp only [hofExc] at hloop
  refine ⟨left, err, ?_⟩
  rw [listenLoop_eq, hloop]
  rfl

theorem notifyDisconnect_frame (w : World σ) :
    (notifyDisconnect w).1.handed = w.handed ∧
      (notifyDisconnect w).1.stream = { w.stream with running := false } := by
  unfold notifyDisconnect
  cases hcallback : w.stream.onDisconnect with
  | none => simp [hcallback]
  | some callback =>
    rcases hrun : callback w.env with ⟨env, err | value⟩ <;> simp [hcallback, hrun]

/-! ## The whole connection -/

theorem connect_connack {t : Transport} {w : World σ}
    (hsession : w.stream.openSession t = .ok ()) (hsend : w.stream.sendSubscribe t = .ok ())
    {p₀ : Packet} (hconnack : parseConnack p₀.bytes = .ok 0) {ps : List Packet}
    {frames : List Bytes} (hframes : frames.flatten = p₀.bytes ++ packetBytes ps)
    (ending : List Received) :
    ∃ left later fuel, left ++ later.flatten = packetBytes ps ∧ ps.length < fuel ∧
      connect loads t w (binaryFrames frames ++ ending) =
        match awaitSuback loads fuel (w.newSession.setBuffer left)
          (binaryFrames later ++ ending) with
        | (w, .raised err) => (w, .raised err)
        | (w, .blocked) => (w, .blocked)
        | (w, .ok (codes, received)) =>
          (w.subscribed (subscribeOutcomeOf w.stream.topics codes), .ok received) := by
  have hsession₀ : w.newSession.stream.openSession t = .ok () := hsession
  have hstream : w.newSession.stream.rxBuffer ++ frames.flatten = p₀.bytes ++ packetBytes ps := by
    simpa [World.newSession] using hframes
  obtain ⟨left, later, hleft, hread⟩ := readPacket_packet hstream ending
  have hsend₀ : (w.newSession.setBuffer left).stream.sendSubscribe t = .ok () := hsend
  have hfuel : ps.length < left.length + receivedBytes (binaryFrames later ++ ending) + 1 := by
    have hbytes := length_flatten_le_receivedBytes later ending
    have hcount := length_le_packetBytes ps
    rw [← hleft] at hcount
    simp only [List.length_append] at hcount
    omega
  refine ⟨left, later, _, hleft, hfuel, ?_⟩
  simp only [connect, hsession₀, hread, hconnack, hsend₀, ne_eq, not_true_eq_false, if_false]
  rfl

theorem connect_packets {t : Transport} {w : World σ}
    (hsession : w.stream.openSession t = .ok ()) (hsend : w.stream.sendSubscribe t = .ok ())
    (hrouter : OrdinaryHandlers w.stream.router) {p₀ suback : Packet} {pre post : List Packet}
    (hconnack : parseConnack p₀.bytes = .ok 0) (hsuback : suback.isSuback = true)
    (hpre : ∀ p ∈ pre, p.isSuback = false) (hwf : ∀ p ∈ pre, p.WellFormed loads)
    {frames : List Bytes}
    (hframes : frames.flatten = p₀.bytes ++ packetBytes (pre ++ suback :: post))
    (ending : List Received) :
    ∃ w' later, connect loads t w (binaryFrames frames ++ ending) =
        (w', .ok (binaryFrames later ++ ending)) ∧
      w'.stream.rxBuffer ++ later.flatten = packetBytes post ∧
      w'.stream.running = true ∧ w'.stream.wsClosed = false ∧
      w'.stream.router = w.stream.router ∧
      w'.handed = w.handed ++ pre.map Packet.bytes ∧
      w'.stream.subscribeOutcome =
        some (subscribeOutcomeOf w.stream.topics (parseSuback suback.bytes)) := by
  obtain ⟨left, later, fuel, hleft, hfuel, hconnect⟩ :=
    @connect_connack _ loads t w hsession hsend p₀ hconnack _ frames hframes ending
  have hrest : (w.newSession.setBuffer left).stream.rxBuffer ++ later.flatten =
      packetBytes pre ++ (suback.bytes ++ packetBytes post) := by
    simpa [World.setBuffer] using hleft
  have hcount : pre.length < fuel := by
    simp only [List.length_append] at hfuel
    omega
  obtain ⟨left', later', hleft', hawait⟩ :=
    awaitSuback_packets (w := w.newSession.setBuffer left) hpre hwf hsuback hrouter hrest hcount
      ending
  refine ⟨(((w.newSession.setBuffer left).deliver loads pre).setBuffer left').subscribed
    (subscribeOutcomeOf w.stream.topics (parseSuback suback.bytes)), later', ?_, ?_⟩
  · rw [hconnect, hawait]
    rfl
  · exact ⟨hleft', rfl, rfl, rfl, rfl, rfl⟩

/-- A packet before the SUBACK whose dispatch raises takes the handshake with it. -/
theorem connect_malformed (hloads : ∀ data err, loads data = .error err → err.isException)
    {t : Transport} {w : World σ} (hsession : w.stream.openSession t = .ok ())
    (hsend : w.stream.sendSubscribe t = .ok ()) (hrouter : OrdinaryHandlers w.stream.router)
    {p₀ bad : Packet} {good more : List Packet} (hconnack : parseConnack p₀.bytes = .ok 0)
    (hgood : ∀ p ∈ good, p.isSuback = false) (hwf : ∀ p ∈ good, p.WellFormed loads)
    (hbad : ¬ bad.WellFormed loads) {frames : List Bytes}
    (hframes : frames.flatten = p₀.bytes ++ packetBytes (good ++ bad :: more))
    (ending : List Received) :
    ∃ w' err, connect loads t w (binaryFrames frames ++ ending) = (w', .raised err) ∧
      w'.handed = w.handed ++ (good ++ [bad]).map Packet.bytes := by
  obtain ⟨left, later, fuel, hleft, hfuel, hconnect⟩ :=
    @connect_connack _ loads t w hsession hsend p₀ hconnack _ frames hframes ending
  have hrest : (w.newSession.setBuffer left).stream.rxBuffer ++ later.flatten =
      packetBytes good ++ (bad.bytes ++ packetBytes more) := by
    simpa [World.setBuffer] using hleft
  have hcount : good.length < fuel := by
    simp only [List.length_append] at hfuel
    omega
  obtain ⟨w', err, hawait, hhanded⟩ := awaitSuback_malformed (w := w.newSession.setBuffer left)
    hloads hgood hwf hbad hrouter hrest hcount ending
  exact ⟨w', err, by rw [hconnect, hawait], hhanded⟩

theorem find?_isSuback_split {ps : List Packet} (h : ∃ p ∈ ps, p.isSuback = true) :
    ∃ pre suback post, ps = pre ++ suback :: post ∧ (∀ p ∈ pre, p.isSuback = false) ∧
      suback.isSuback = true ∧ ps.find? Packet.isSuback = some suback ∧
      ps.eraseP Packet.isSuback = pre ++ post := by
  obtain ⟨p, hp, hsub⟩ := h
  obtain ⟨suback, pre, post, hpre, hsuback, hps, herase⟩ := List.exists_of_eraseP hp hsub
  have hnot : ∀ q ∈ pre, q.isSuback = false := fun q hq => by simpa using hpre q hq
  refine ⟨pre, suback, post, hps, hnot, hsuback, ?_, herase⟩
  rw [hps, List.find?_append, List.find?_eq_none.mpr hpre]
  simp [hsuback]

theorem exists_first_malformed {ps : List Packet} (h : ¬ ∀ p ∈ ps, p.WellFormed loads) :
    ∃ good bad more, ps = good ++ bad :: more ∧ (∀ p ∈ good, p.WellFormed loads) ∧
      ¬ bad.WellFormed loads := by
  induction ps with
  | nil => simp at h
  | cons p ps ih =>
    by_cases hp : p.WellFormed loads
    · have hps : ¬ ∀ q ∈ ps, q.WellFormed loads := by
        intro hall
        apply h
        intro q hq
        rcases List.mem_cons.mp hq with rfl | hq
        · exact hp
        · exact hall q hq
      obtain ⟨good, bad, more, rfl, hgood, hbad⟩ := ih hps
      refine ⟨p :: good, bad, more, rfl, ?_, hbad⟩
      intro q hq
      rcases List.mem_cons.mp hq with rfl | hq
      · exact hp
      · exact hgood q hq
    · exact ⟨[], p, ps, rfl, by simp, hp⟩

/-- The handshake comes through and `_listen_loop` follows; `_dispatch_packet` gets each packet but
the first SUBACK, once and in order, and the outcome recorded is that of this SUBACK. -/
structure DeliversOnce (w : World σ) (ps : List Packet) (result : World σ × Handshake LoopEnd) :
    Prop where
  listened : ∃ stop, result.2 = .ok stop
  handed : result.1.handed = w.handed ++ (ps.eraseP Packet.isSuback).map Packet.bytes
  outcome : ∃ suback, ps.find? Packet.isSuback = some suback ∧
    result.1.stream.subscribeOutcome =
      some (subscribeOutcomeOf w.stream.topics (parseSuback suback.bytes))

theorem wellFormed_of_payloadRead {p : Packet}
    (hpublish : p.packetType = PUBLISH → (readTopic p.body).isSome)
    (hpayload : p.packetType = PUBLISH → p.PayloadRead loads) : p.WellFormed loads := by
  intro htype
  obtain ⟨topic, htopic⟩ := Option.isSome_iff_exists.mp (hpublish htype)
  have hread := hpayload htype
  unfold Packet.readable
  rw [htopic]
  dsimp only
  rcases hjson : loads (publishPayload p.head p.body) with err | payload
  · exact hread err hjson
  · rfl

theorem wellFormed_of_isSuback {p : Packet} (h : p.isSuback = true) : p.WellFormed loads := by
  intro hpublish
  have htype : p.packetType = SUBACK := by simpa [Packet.isSuback] using h
  rw [hpublish] at htype
  cases htype

theorem payloadRead_of_wellFormed {p : Packet} (h : p.WellFormed loads)
    (htype : p.packetType = PUBLISH) : p.PayloadRead loads := by
  intro err hjson
  have hread := h htype
  unfold Packet.readable at hread
  rcases htopic : readTopic p.body with _ | topic
  · simp [htopic] at hread
  · simpa [htopic, hjson] using hread

/-- The listen loop hands over every packet of the stream when only the last one may raise. -/
theorem listenLoop_handed (hloads : ∀ data err, loads data = .error err → err.isException)
    {ps : List Packet} {frames : List Bytes} {w : World σ} (hrun : w.stream.running = true)
    (hopen : w.stream.wsClosed = false) (hrouter : OrdinaryHandlers w.stream.router)
    (hwf : ∀ p ∈ ps.dropLast, p.WellFormed loads)
    (hstream : w.stream.rxBuffer ++ frames.flatten = packetBytes ps) {ending : List Received}
    (hending : ∀ data, Received.msg (.binary data) ∉ ending) :
    (listenLoop loads w (binaryFrames frames ++ ending)).1.handed =
        w.handed ++ ps.map Packet.bytes ∧
      (listenLoop loads w (binaryFrames frames ++ ending)).1.stream.subscribeOutcome =
        w.stream.subscribeOutcome := by
  by_cases hall : ∀ p ∈ ps, p.WellFormed loads
  · obtain ⟨left, closed, h | h⟩ := listenLoop_wellFormed hrun hopen hrouter hall hstream hending
    · rw [h]
      have hframe := notifyDisconnect_frame
        { (w.setBuffer left).deliver loads ps with
          stream := { ((w.setBuffer left).deliver loads ps).stream with wsClosed := closed } }
      rw [hframe.1, hframe.2]
      exact ⟨rfl, rfl⟩
    · rw [h]
      exact ⟨rfl, rfl⟩
  · obtain ⟨good, bad, more, rfl, hgood, hbad⟩ := exists_first_malformed hall
    have hlast : more = [] := by
      by_contra hmore
      apply hbad
      apply hwf
      rw [List.dropLast_append_of_ne_nil (by simp), List.dropLast_cons_of_ne_nil hmore]
      simp
    subst hlast
    obtain ⟨left, err, hended⟩ :=
      listenLoop_malformed hloads hrun hopen hrouter hgood hbad hstream ending
    rw [hended]
    exact ⟨rfl, rfl⟩

section Connection

variable {t : Transport} {w : World σ} {p₀ : Packet} {ps : List Packet} {frames : List Bytes}
  {ending : List Received}

theorem deliversOnce_of_wellFormed
    (hloads : ∀ data err, loads data = .error err → err.isException)
    (hsession : w.stream.openSession t = .ok ()) (hsend : w.stream.sendSubscribe t = .ok ())
    (hrouter : OrdinaryHandlers w.stream.router) (hconnack : parseConnack p₀.bytes = .ok 0)
    (hsuback : ∃ p ∈ ps, p.isSuback = true) (hlast : ∀ p ∈ ps.dropLast, p.WellFormed loads)
    (hframes : frames.flatten = p₀.bytes ++ packetBytes ps)
    (hending : ∀ data, Received.msg (.binary data) ∉ ending) :
    DeliversOnce w ps (connectAndListen loads t w (binaryFrames frames ++ ending)) := by
  obtain ⟨pre, suback, post, rfl, hpre, hsub, hfind, herase⟩ := find?_isSuback_split hsuback
  rw [List.dropLast_append_of_ne_nil (by simp)] at hlast
  have hwf : ∀ p ∈ pre, p.WellFormed loads := fun p hp => hlast p (List.mem_append_left _ hp)
  have hpost : ∀ p ∈ post.dropLast, p.WellFormed loads := by
    intro p hp
    apply hlast p (List.mem_append_right _ _)
    have hne : post ≠ [] := by
      rintro rfl
      cases hp
    rw [List.dropLast_cons_of_ne_nil hne]
    exact List.mem_cons_of_mem _ hp
  obtain ⟨w', later, hconnect, hstream, hrun, hopen, hroute, hhanded, houtcome⟩ :=
    connect_packets hsession hsend hrouter hconnack hsub hpre hwf hframes ending
  obtain ⟨hall, hkept⟩ := listenLoop_handed hloads hrun hopen (by rw [hroute]; exact hrouter) hpost
    hstream hending
  have hresult : connectAndListen loads t w (binaryFrames frames ++ ending) =
      ((listenLoop loads w' (binaryFrames later ++ ending)).1,
        .ok (listenLoop loads w' (binaryFrames later ++ ending)).2) := by
    simp only [connectAndListen, hconnect]
  rw [hresult]
  refine ⟨⟨_, rfl⟩, ?_, suback, hfind, ?_⟩
  · rw [hall, hhanded, herase]
    simp
  · rw [hkept, houtcome]

/-- A packet that is not well-formed loses the ones behind it: before the SUBACK the handshake is
lost, and after it the listen loop. -/
theorem wellFormed_of_deliversOnce
    (hloads : ∀ data err, loads data = .error err → err.isException)
    (hsession : w.stream.openSession t = .ok ()) (hsend : w.stream.sendSubscribe t = .ok ())
    (hrouter : OrdinaryHandlers w.stream.router) (hconnack : parseConnack p₀.bytes = .ok 0)
    (hsuback : ∃ p ∈ ps, p.isSuback = true)
    (hframes : frames.flatten = p₀.bytes ++ packetBytes ps)
    (h : DeliversOnce w ps (connectAndListen loads t w (binaryFrames frames ++ ending))) :
    ∀ p ∈ ps.dropLast, p.WellFormed loads := by
  obtain ⟨pre, suback, post, rfl, hpre, hsub, -, herase⟩ := find?_isSuback_split hsuback
  have hwf : ∀ p ∈ pre, p.WellFormed loads := by
    by_contra hsome
    obtain ⟨good, bad, more, rfl, hgood, hbad⟩ := exists_first_malformed hsome
    rw [List.append_assoc, List.cons_append] at hframes
    obtain ⟨w', err, hconnect, -⟩ := connect_malformed hloads hsession hsend hrouter hconnack
      (fun p hp => hpre p (List.mem_append_left _ hp)) hgood hbad hframes ending
    obtain ⟨stop, hstop⟩ := h.listened
    simp [connectAndListen, hconnect] at hstop
  obtain ⟨w', later, hconnect, hstream, hrun, hopen, hroute, hhanded, -⟩ :=
    connect_packets hsession hsend hrouter hconnack hsub hpre hwf hframes ending
  rw [List.dropLast_append_of_ne_nil (by simp)]
  intro p hp
  rcases List.mem_append.mp hp with hp | hp
  · exact hwf p hp
  by_contra hmalformed
  have hne : post ≠ [] := by
    rintro rfl
    cases hp
  rw [List.dropLast_cons_of_ne_nil hne, List.mem_cons] at hp
  have hsome : ¬ ∀ q ∈ post.dropLast, q.WellFormed loads := by
    intro hall
    rcases hp with rfl | hp
    · exact hmalformed (wellFormed_of_isSuback hsub)
    · exact hmalformed (hall p hp)
  obtain ⟨good, bad, more, hdrop, hgood, hbad⟩ := exists_first_malformed hsome
  obtain ⟨last, rfl⟩ : ∃ last, post = good ++ bad :: (more ++ [last]) := by
    refine ⟨post.getLast hne, ?_⟩
    rw [← List.cons_append, ← List.append_assoc, ← hdrop, List.dropLast_append_getLast hne]
  obtain ⟨left, err, hended⟩ := listenLoop_malformed hloads hrun hopen
    (by rw [hroute]; exact hrouter) hgood hbad hstream ending
  have hlost := h.handed
  simp only [connectAndListen, hconnect, hended, hhanded, herase] at hlost
  have hlength := congrArg List.length hlost
  simp only [List.length_append, List.length_map, List.length_cons, List.length_nil] at hlength
  omega

/-- However the packets are cut into frames, each of them behind the CONNACK but the first SUBACK is
handed over, once and in order, exactly if `json.loads` reads the payload of every PUBLISH but that
of the very last packet, or rejects it as no JSON. -/
theorem connectAndListen_exactly_once_iff
    (hloads : ∀ data err, loads data = .error err → err.isException)
    (hsession : w.stream.openSession t = .ok ()) (hsend : w.stream.sendSubscribe t = .ok ())
    (hrouter : OrdinaryHandlers w.stream.router) (hconnack : parseConnack p₀.bytes = .ok 0)
    (hsuback : ∃ p ∈ ps, p.isSuback = true)
    (hpublish : ∀ p ∈ ps, p.packetType = PUBLISH → (readTopic p.body).isSome)
    (hframes : frames.flatten = p₀.bytes ++ packetBytes ps)
    (hending : ∀ data, Received.msg (.binary data) ∉ ending) :
    DeliversOnce w ps (connectAndListen loads t w (binaryFrames frames ++ ending)) ↔
      ∀ p ∈ ps.dropLast, p.packetType = PUBLISH → p.PayloadRead loads := by
  constructor
  · intro h p hp htype
    exact payloadRead_of_wellFormed
      (wellFormed_of_deliversOnce hloads hsession hsend hrouter hconnack hsuback hframes h p hp)
      htype
  · intro h
    apply deliversOnce_of_wellFormed hloads hsession hsend hrouter hconnack hsuback _ hframes
      hending
    intro p hp
    exact wellFormed_of_payloadRead (hpublish p ((List.dropLast_sublist ps).subset hp)) (h p hp)

end Connection

section Sample

def sampleConnack : Packet := .ofBody 0x20 [0x00, 0x00] (by decide)

def samplePublish : Packet := .ofBody 0x30 [0x00, 0x01, 0x61, 0x31] (by decide)

def sampleSuback : Packet := .ofBody 0x90 [0x00, 0x01, 0x00] (by decide)

def sampleFrames : List Bytes :=
  [[0x20], [0x02, 0x00, 0x00, 0x30, 0x04, 0x00], [], [0x01, 0x61, 0x31, 0x90, 0x03, 0x00, 0x01],
    [0x00, 0x30, 0x04], [0x00, 0x01, 0x61, 0x31]]

def sampleLoads (data : Bytes) : Except Exc Json :=
  if data = [0x31] then .ok (.int 1)
  else .error (.builtin .jsonDecodeError "Expecting value: line 1 column 1 (char 0)")

/-- One handler for every topic, which counts its calls and raises. -/
def sampleRouter : TopicRouter (EventHandler Nat) :=
  TopicRouter.register {} "#" fun _ _ n => (n + 1, .error (.builtin .valueError "handler failed"))

def sampleTransport : Transport where
  now := 7
  wsConnect := .ok ()
  sendConnect := .ok ()
  sendSubscribe := .ok ()

def sampleWorld : World Nat where
  stream :=
    { userId := "u", token := "t", xCloudIds := ["x"], extraTopics := [], router := sampleRouter
      onDisconnect := none, running := false, wsClosed := false, rxBuffer := []
      subscribeOutcome := none }
  env := 0
  handed := []

theorem sampleRouter_ordinary : OrdinaryHandlers sampleRouter := by
  intro route hroute topic payload env err herr
  simp only [sampleRouter, TopicRouter.register, List.nil_append, List.mem_singleton] at hroute
  subst hroute
  cases herr
  rfl

theorem sampleLoads_ordinary (data : Bytes) (err : Exc) (h : sampleLoads data = .error err) :
    err.isException := by
  unfold sampleLoads at h
  split_ifs at h
  cases h
  rfl

/-- A PUBLISH whose payload is no JSON. -/
def textPublish : Packet := .ofBody 0x30 [0x00, 0x01, 0x61, 0x78] (by decide)

/-- The frames, a packet that is no JSON behind them, and one more. -/
def sampleTail : List Bytes := [textPublish.bytes ++ samplePublish.bytes.take 3,
  samplePublish.bytes.drop 3]

theorem connectAndListen_exactly_once_iff_sample :
    DeliversOnce sampleWorld
        [samplePublish, sampleSuback, samplePublish, textPublish, samplePublish]
        (connectAndListen sampleLoads sampleTransport sampleWorld
          (binaryFrames (sampleFrames ++ sampleTail) ++ [.timeout])) := by
  have hiff := @connectAndListen_exactly_once_iff _ sampleLoads sampleTransport sampleWorld
    sampleConnack [samplePublish, sampleSuback, samplePublish, textPublish, samplePublish]
    (sampleFrames ++ sampleTail) [.timeout] sampleLoads_ordinary rfl rfl sampleRouter_ordinary rfl
    ⟨sampleSuback, by simp, by decide⟩ (by decide) (by decide) (by simp)
  apply hiff.mpr
  intro p hp _ err herr
  unfold sampleLoads at herr
  split_ifs at herr
  cases herr
  rfl

/-- `json.loads` on an integer: `int()` refuses more than 4300 digits. -/
def digitLoads (data : Bytes) : Except Exc Json :=
  if 4300 < data.length ∧ data.all (fun b => 0x30 ≤ b && b ≤ 0x39) then
    .error (.builtin .valueError "Exceeds the limit (4300 digits) for integer string conversion")
  else sampleLoads data

/-- A PUBLISH whose payload has 4301 bytes. -/
def longPublish (payload : Bytes) (h : payload.length = 4301) : Packet where
  head := 0x30
  varint := [0xD0, 0x21]
  body := 0x00 :: 0x01 :: 0x61 :: payload
  isVarint := Or.inr ⟨by decide, Or.inl ⟨by decide, rfl⟩⟩
  varint_length := by decide
  varint_value := by
    simp only [List.length_cons, h]
    decide

theorem longPublish_topic {payload : Bytes} (h : payload.length = 4301) :
    readTopic (longPublish payload h).body = some "a" := by
  have htake : (0x61 :: payload).take ((0x00 : UInt8).toNat * 256 + (0x01 : UInt8).toNat) = [0x61] :=
    rfl
  simp only [longPublish, readTopic, htake]
  decide

theorem digitLoads_refuses {payload : Bytes} (h : payload.length = 4301)
    (hdigits : payload.all (fun b => 0x30 ≤ b && b ≤ 0x39) = true) :
    digitLoads payload = .error
      (.builtin .valueError "Exceeds the limit (4300 digits) for integer string conversion") := by
  rw [digitLoads, if_pos ⟨by omega, hdigits⟩]

theorem digitLoads_ordinary (data : Bytes) (err : Exc) (h : digitLoads data = .error err) :
    err.isException := by
  unfold digitLoads at h
  split_ifs at h
  · cases h
    rfl
  · exact sampleLoads_ordinary data err h

/-- An integer of 4301 digits. -/
def longInteger : Packet := longPublish (List.replicate 4301 0x31) List.length_replicate

theorem longInteger_payloadRead : ¬ longInteger.PayloadRead digitLoads := by
  intro hread
  have hdigits : (List.replicate 4301 0x31).all (fun b : UInt8 => 0x30 ≤ b && b ≤ 0x39) = true := by
    rw [List.all_eq_true]
    intro b hb
    rw [List.eq_of_mem_replicate hb]
    decide
  cases hread _ (digitLoads_refuses List.length_replicate hdigits)

/-- Every PUBLISH has its topic, and the one behind the long integer is lost. -/
theorem longInteger_loses :
    (∀ p ∈ [sampleSuback, longInteger, samplePublish], p.packetType = PUBLISH →
      (readTopic p.body).isSome) ∧
    ¬ DeliversOnce sampleWorld [sampleSuback, longInteger, samplePublish]
      (connectAndListen digitLoads sampleTransport sampleWorld
        (binaryFrames [sampleConnack.bytes, sampleSuback.bytes, longInteger.bytes,
          samplePublish.bytes] ++ [.timeout])) := by
  constructor
  · intro p hp
    simp only [List.mem_cons, List.not_mem_nil, or_false] at hp
    rcases hp with rfl | rfl | rfl
    · decide
    · intro _
      rw [longInteger, longPublish_topic]
      rfl
    · decide
  · intro h
    have hframes : [sampleConnack.bytes, sampleSuback.bytes, longInteger.bytes,
        samplePublish.bytes].flatten =
        sampleConnack.bytes ++ packetBytes [sampleSuback, longInteger, samplePublish] := by
      simp only [List.flatten_cons, List.flatten_nil, packetBytes_cons, packetBytes_nil]
    have hwf := wellFormed_of_deliversOnce digitLoads_ordinary rfl rfl sampleRouter_ordinary rfl
      ⟨sampleSuback, by simp, by decide⟩ hframes h longInteger (by simp)
    exact longInteger_payloadRead (payloadRead_of_wellFormed hwf rfl)

end Sample

end Eisenberg.Mqtt
