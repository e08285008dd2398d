import Eisenberg.Mqtt.Delivery
import Mathlib.Data.List.TakeWhile

/-!
# What the packets handed over do

Whatever a connection reads and however it ends, it changes the state its handlers act on through
the packets it hands to `_dispatch_packet` alone, unless the disconnect callback changes it too. So
that state can be read off the packets.
-/

namespace Eisenberg.Mqtt

variable {σ : Type} {loads : Bytes → Except Exc Json}

/-- What a packet handed over makes of the state. -/
def dispatched (loads : Bytes → Except Exc Json) (router : TopicRouter (EventHandler σ)) (env : σ)
    (data : Bytes) : σ :=
  (dispatchPacket loads router data env).1

/-- From the one world to the other, the state has changed by the packets handed over meanwhile. -/
structure Dispatches (loads : Bytes → Except Exc Json) (w w' : World σ) : Prop where
  router : w'.stream.router = w.stream.router
  onDisconnect : w'.stream.onDisconnect = w.stream.onDisconnect
  packets : ∃ packets, w'.handed = w.handed ++ packets ∧
    w'.env = packets.foldl (dispatched loads w.stream.router) w.env

namespace Dispatches

variable {w w' w'' : World σ}

theorem refl (w : World σ) : Dispatches loads w w where
  router := rfl
  onDisconnect := rfl
  packets := ⟨[], (List.append_nil _).symm, rfl⟩

theorem trans (h : Dispatches loads w w') (h' : Dispatches loads w' w'') :
    Dispatches loads w w'' where
  router := h'.router.trans h.router
  onDisconnect := h'.onDisconnect.trans h.onDisconnect
  packets := by
    obtain ⟨first, hfirst, henv⟩ := h.packets
    obtain ⟨second, hsecond, henv'⟩ := h'.packets
    refine ⟨first ++ second, ?_, ?_⟩
    · rw [hsecond, hfirst, List.append_assoc]
    · rw [henv', h.router, henv, List.foldl_append]

/-- The buffer, the flags and the outcome of the SUBACK are the stream's own. -/
theorem of_stream (w : World σ) {stream : MQTTEventStream σ}
    (hrouter : stream.router = w.stream.router)
    (hcallback : stream.onDisconnect = w.stream.onDisconnect) :
    Dispatches loads w { w with stream := stream } where
  router := hrouter
  onDisconnect := hcallback
  packets := ⟨[], (List.append_nil _).symm, rfl⟩

theorem setBuffer (w : World σ) (buffer : Bytes) : Dispatches loads w (w.setBuffer buffer) :=
  of_stream w rfl rfl

theorem setClosed (w : World σ) : Dispatches loads w w.setClosed := of_stream w rfl rfl

theorem handOver (data : Bytes) (w : World σ) : Dispatches loads w (handOver loads data w).1 where
  router := rfl
  onDisconnect := rfl
  packets := ⟨[data], rfl, rfl⟩

theorem handOverAll (packets : List Bytes) (w : World σ) :
    Dispatches loads w (handOverAll loads packets w).1 := by
  induction packets generalizing w with
  | nil => exact refl w
  | cons packet packets ih =>
    have hfirst : Dispatches loads w (Mqtt.handOver loads packet w).1 := handOver packet w
    rw [Mqtt.handOverAll]
    split
    next w' hhand =>
      rw [hhand] at hfirst
      exact hfirst.trans (ih w')
    next w' err hhand =>
      rw [hhand] at hfirst
      exact hfirst

theorem drainBuffer (w : World σ) : Dispatches loads w (drainBuffer loads w).1 :=
  (setBuffer w (splitPackets w.stream.rxBuffer).2).trans (handOverAll _ _)

/-! ## The handshake -/

theorem readPacket (w : World σ) (received : List Received) :
    Dispatches loads w (readPacket w received).1 := by
  induction received generalizing w with
  | nil =>
    rw [Mqtt.readPacket.eq_def]
    split
    · exact setBuffer w _
    · exact refl w
  | cons r received ih =>
    rw [Mqtt.readPacket.eq_def]
    split
    · exact setBuffer w _
    · cases r with
      | timeout => exact ih w
      | cancelled => exact refl w
      | msg m =>
        cases m with
        | binary data => exact (setBuffer w _).trans (ih _)
        | closed => exact setClosed w
        | error => exact setClosed w
        | close => exact (setClosed w).trans (ih _)
        | other => exact ih w

theorem awaitSuback (fuel : Nat) (w : World σ) (received : List Received) :
    Dispatches loads w (awaitSuback loads fuel w received).1 := by
  induction fuel generalizing w received with
  | zero => exact refl w
  | succ fuel ih =>
    have hread : Dispatches loads w (Mqtt.readPacket w received).1 := readPacket w received
    rw [Mqtt.awaitSuback]
    split
    next w' err heq =>
      rw [heq] at hread
      exact hread
    next w' heq =>
      rw [heq] at hread
      exact hread
    next w' packet later heq =>
      rw [heq] at hread
      split
      · exact hread
      · split
        · exact hread
        · have hhand : Dispatches loads w' (Mqtt.handOver loads packet w').1 := handOver packet w'
          split
          next w'' err heq' =>
            rw [heq'] at hhand
            exact hread.trans hhand
          next w'' heq' =>
            rw [heq'] at hhand
            exact (hread.trans hhand).trans (ih w'' later)

theorem connect (t : Transport) (w : World σ) (received : List Received) :
    Dispatches loads w (connect loads t w received).1 := by
  have hsession : Dispatches loads w w.newSession := of_stream w rfl rfl
  have hread : Dispatches loads w.newSession (Mqtt.readPacket w.newSession received).1 :=
    readPacket w.newSession received
  unfold Mqtt.connect
  dsimp only
  split
  · exact hsession
  split
  next w' err heq =>
    rw [heq] at hread
    exact hsession.trans hread
  next w' heq =>
    rw [heq] at hread
    exact hsession.trans hread
  next w' connack later heq =>
    rw [heq] at hread
    have hconnack : Dispatches loads w w' := hsession.trans hread
    split
    · exact hconnack
    split
    · exact hconnack.trans (setClosed w')
    split
    · exact hconnack
    · have hawait := @awaitSuback σ loads
        (w'.stream.rxBuffer.length + receivedBytes later + 1) w' later
      split
      next w'' err heq' =>
        rw [heq'] at hawait
        exact hconnack.trans hawait
      next w'' heq' =>
        rw [heq'] at hawait
        exact hconnack.trans hawait
      next w'' codes rest heq' =>
        rw [heq'] at hawait
        exact (hconnack.trans hawait).trans (of_stream w'' rfl rfl)

/-! ## The listen loop -/

theorem receiveLoop (w : World σ) (received : List Received) :
    Dispatches loads w (receiveLoop loads w received).1 := by
  induction received generalizing w with
  | nil => exact refl w
  | cons r received ih =>
    rw [Mqtt.receiveLoop.eq_def]
    dsimp only
    split
    · cases r with
      | timeout => exact refl w
      | cancelled => exact refl w
      | msg m =>
        cases m with
        | binary data =>
          have hdrain := @drainBuffer σ loads (w.setBuffer (w.stream.rxBuffer ++ data))
          dsimp only
          split
          next w' err heq =>
            rw [heq] at hdrain
            exact (setBuffer w _).trans hdrain
          next w' heq =>
            rw [heq] at hdrain
            exact ((setBuffer w _).trans hdrain).trans (ih w')
        | closed => exact setClosed w
        | error => exact setClosed w
        | close => exact (setClosed w).trans (ih _)
        | other => exact ih w
    · exact refl w

/-- A disconnect callback that leaves the state alone. -/
def KeepsState (w : World σ) : Prop :=
  ∀ callback, w.stream.onDisconnect = some callback → ∀ env, (callback env).1 = env

theorem notifyDisconnect (hkeeps : KeepsState w) :
    Dispatches loads w (notifyDisconnect w).1 := by
  have hdown : Dispatches loads w { w with stream := { w.stream with running := false } } :=
    of_stream w rfl rfl
  unfold Mqtt.notifyDisconnect
  dsimp only
  split
  · exact hdown
  next callback hcallback =>
    have hstate := hkeeps callback hcallback w.env
    split
    next env heq =>
      rw [heq] at hstate
      rw [show env = w.env from hstate]
      exact hdown
    next env err heq =>
      rw [heq] at hstate
      rw [show env = w.env from hstate]
      exact hdown

theorem listenLoop (hkeeps : KeepsState w) (received : List Received) :
    Dispatches loads w (listenLoop loads w received).1 := by
  have hdrain := @drainBuffer σ loads w
  unfold Mqtt.listenLoop
  split
  next w' err heq =>
    rw [heq] at hdrain
    exact hdrain
  next w' heq =>
    rw [heq] at hdrain
    have hloop := @receiveLoop σ loads w' received
    split
    next w'' heq' =>
      rw [heq'] at hloop
      have hall := hdrain.trans hloop
      refine hall.trans (notifyDisconnect ?_)
      intro callback hcallback
      exact hkeeps callback (hall.onDisconnect ▸ hcallback)
    next w'' stop heq' =>
      rw [heq'] at hloop
      exact hdrain.trans hloop

theorem connectAndListen (hkeeps : KeepsState w) (t : Transport) (received : List Received) :
    Dispatches loads w (connectAndListen loads t w received).1 := by
  have hconnect := @connect σ loads t w received
  unfold Mqtt.connectAndListen
  split
  next w' later heq =>
    rw [heq] at hconnect
    apply hconnect.trans
    apply listenLoop
    intro callback hcallback
    exact hkeeps callback (hconnect.onDisconnect ▸ hcallback)
  next w' err heq =>
    rw [heq] at hconnect
    exact hconnect
  next w' heq =>
    rw [heq] at hconnect
    exact hconnect

end Dispatches

section Connection

variable {t : Transport} {w : World σ} {p₀ suback : Packet} {early late : List Packet}
  {frames : List Bytes} {ending : List Received}

end Connection

end Eisenberg.Mqtt
