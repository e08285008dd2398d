import Eisenberg.Coordinator.Reconnect
import Eisenberg.Mqtt.Delivery

/-!
# The listen loop under the coordinator

The stream the coordinator builds carries its event handlers and, as disconnect callback,
`_handle_mqtt_disconnect` bound to the stream. A packet whose dispatch raises ends the listen loop
before that callback.
-/

namespace Eisenberg.Coordinator

open Mqtt

variable {σ : Type} {loads : Bytes → Except Exc Json}

/-- An event handler: it acts on the entities and leaves the stream handles alone. -/
def entityHandler (handler : EventHandler σ) : EventHandler (MqttState × σ) :=
  fun topic payload env =>
    let (entities, result) := handler topic payload env.2
    ((env.1, entities), result)

/-- `_register_mqtt_handlers` on the stream `id`; `newTask` is the reconnect task a drop starts. -/
def registerMqttHandlers (routes : List (String × EventHandler σ)) (id : StreamId)
    (newTask : TaskId) (stream : MQTTEventStream (MqttState × σ)) :
    MQTTEventStream (MqttState × σ) :=
  { stream with
    router := routes.foldl
      (fun router route => router.register route.1 (entityHandler route.2)) stream.router
    onDisconnect := some fun env => ((env.1.handleMqttDisconnect id newTask, env.2), .ok ()) }

theorem mem_foldl_register {routes : List (String × EventHandler σ)}
    {router : TopicRouter (EventHandler (MqttState × σ))}
    {r : List String × EventHandler (MqttState × σ)}
    (h : r ∈ (routes.foldl
      (fun router route => router.register route.1 (entityHandler route.2)) router).routes) :
    r ∈ router.routes ∨ ∃ route ∈ routes, r.2 = entityHandler route.2 := by
  induction routes generalizing router with
  | nil => exact Or.inl h
  | cons route routes ih =>
    rcases ih h with hmem | ⟨other, hother, heq⟩
    · simp only [TopicRouter.register, List.mem_append, List.mem_singleton] at hmem
      rcases hmem with hmem | rfl
      · exact Or.inl hmem
      · exact Or.inr ⟨route, by simp, rfl⟩
    · exact Or.inr ⟨other, by simp [hother], heq⟩

/-- No handler touches the stream handles. -/
def KeepsHandles (router : TopicRouter (EventHandler (MqttState × σ))) : Prop :=
  ∀ route ∈ router.routes, ∀ topic payload env, (route.2 topic payload env).1.1 = env.1

theorem runHandlers_handles {handlers : List (EventHandler (MqttState × σ))} {topic : String}
    {payload : Json}
    (h : ∀ handler ∈ handlers, ∀ env, (handler topic payload env).1.1 = env.1)
    (env : MqttState × σ) : (runHandlers topic payload handlers env).1.1 = env.1 := by
  induction handlers generalizing env with
  | nil => rfl
  | cons handler handlers ih =>
    have hrest := ih fun other hother => h other (by simp [hother])
    have hhead := h handler (by simp) env
    rcases hrun : handler topic payload env with ⟨env', err | value⟩
    · rw [hrun] at hhead
      by_cases hexc : err.isException
      · simpa [runHandlers, hrun, hexc, hrest] using hhead
      · simpa [runHandlers, hrun, hexc] using hhead
    · rw [hrun] at hhead
      simpa [runHandlers, hrun, hrest] using hhead

theorem routePacket_handles {router : TopicRouter (EventHandler (MqttState × σ))}
    (hrouter : KeepsHandles router) (p : Packet) (env : MqttState × σ) :
    (routePacket loads router p env).1 = env.1 := by
  unfold routePacket
  split_ifs
  · split
    · rfl
    · rename_i topic htopic
      split
      · rfl
      · apply runHandlers_handles
        intro handler hmem env
        obtain ⟨pattern, hroute⟩ := TopicRouter.mem_matching hmem
        exact hrouter _ hroute _ _ _
  · rfl

theorem routePackets_handles {router : TopicRouter (EventHandler (MqttState × σ))}
    (hrouter : KeepsHandles router) (ps : List Packet) (env : MqttState × σ) :
    (routePackets loads router ps env).1 = env.1 := by
  induction ps generalizing env with
  | nil => rfl
  | cons p ps ih => exact (ih _).trans (routePacket_handles hrouter p env)

/-- A stream as `_ensure_mqtt` sets it up. -/
structure Registered (id : StreamId) (newTask : TaskId) (stream : MQTTEventStream (MqttState × σ)) :
    Prop where
  ordinary : OrdinaryHandlers stream.router
  handles : KeepsHandles stream.router
  callback : stream.onDisconnect =
    some fun env => ((env.1.handleMqttDisconnect id newTask, env.2), .ok ())

theorem Registered.of_registerMqttHandlers {routes : List (String × EventHandler σ)}
    (hroutes : ∀ route ∈ routes, ∀ topic payload env err,
      (route.2 topic payload env).2 = .error err → err.isException) (id : StreamId)
    (newTask : TaskId) {stream : MQTTEventStream (MqttState × σ)}
    (hstream : stream.router.routes = []) :
    Registered id newTask (registerMqttHandlers routes id newTask stream) where
  ordinary := by
    intro r hr topic payload env err herr
    rcases mem_foldl_register hr with hmem | ⟨route, hroute, heq⟩
    · rw [hstream] at hmem
      cases hmem
    · rw [heq] at herr
      exact hroutes route hroute topic payload env.2 err herr
  handles := by
    intro r hr topic payload env
    rcases mem_foldl_register hr with hmem | ⟨route, hroute, heq⟩
    · rw [hstream] at hmem
      cases hmem
    · rw [heq]
      rfl
  callback := rfl

section Run

variable {w : World (MqttState × σ)} {id : StreamId} {newTask : TaskId} {ps : List Packet}
  {frames : List Bytes} {ending : List Received}

/-- The first malformed PUBLISH ends the loop, and the handles stay what they were. -/
theorem listenLoop_malformed_handles (hloads : ∀ data err, loads data = .error err → err.isException)
    (hstream : Registered id newTask w.stream) (hrun : w.stream.running = true)
    (hopen : w.stream.wsClosed = false)
    (hframes : w.stream.rxBuffer ++ frames.flatten = packetBytes ps)
    (hbad : ¬ ∀ p ∈ ps, p.WellFormed loads) :
    ∃ err, (listenLoop loads w (binaryFrames frames ++ ending)).2 = .raised err ∧
      (listenLoop loads w (binaryFrames frames ++ ending)).1.env.1 = w.env.1 := by
  obtain ⟨good, bad, more, rfl, hgood, hbad⟩ := exists_first_malformed hbad
  obtain ⟨left, err, hended⟩ :=
    Mqtt.listenLoop_malformed hloads hrun hopen hstream.ordinary hgood hbad hframes ending
  rw [hended]
  exact ⟨err, rfl, routePackets_handles hstream.handles good w.env⟩

/-- Over well-formed packets the loop routes every PUBLISH, and it ends in the callback or by
cancellation. -/
theorem listenLoop_registered (hstream : Registered id newTask w.stream)
    (hrun : w.stream.running = true) (hopen : w.stream.wsClosed = false)
    (hframes : w.stream.rxBuffer ++ frames.flatten = packetBytes ps)
    (hending : ∀ data, Received.msg (.binary data) ∉ ending)
    (hwf : ∀ p ∈ ps, p.WellFormed loads) :
    (listenLoop loads w (binaryFrames frames ++ ending)).1.env.2 =
        (routePackets loads w.stream.router ps w.env).2 ∧
      ((listenLoop loads w (binaryFrames frames ++ ending)).2 = .cancelled ∨
        (listenLoop loads w (binaryFrames frames ++ ending)).1.env.1 =
          w.env.1.handleMqttDisconnect id newTask) := by
  obtain ⟨left, closed, hlisten⟩ := listenLoop_wellFormed hrun hopen hstream.ordinary hwf hframes
    hending
  have hhandles : (routePackets loads w.stream.router ps w.env).1 = w.env.1 :=
    routePackets_handles hstream.handles ps w.env
  rcases hlisten with h | h
  · rw [h]
    simp only [notifyDisconnect, World.deliver, World.setBuffer, hstream.callback]
    refine ⟨trivial, Or.inr ?_⟩
    rw [hhandles]
  · rw [h]
    exact ⟨rfl, Or.inl rfl⟩

theorem handleMqttDisconnect_mqtt_ne (s : MqttState) (id : StreamId) (newTask : TaskId) :
    (s.handleMqttDisconnect id newTask).mqtt ≠ some id := by
  unfold MqttState.handleMqttDisconnect
  by_cases hmqtt : s.mqtt = some id
  · rw [if_pos hmqtt]
    by_cases hbusy : { s with mqtt := none }.reconnecting = true
    · simp [hbusy]
    · simp [hbusy, MqttState.setTask]
  · rwa [if_neg hmqtt]

/-- Every well-formed PUBLISH of the sequence reaches its handlers, and unless the loop was
cancelled the callback ran, so that the handle does not keep a stream that is over. -/
def NotDeafened (loads : Bytes → Except Exc Json) (id : StreamId) (newTask : TaskId)
    (ps : List Packet) (w : World (MqttState × σ)) (result : World (MqttState × σ) × LoopEnd) :
    Prop :=
  result.1.env.2 = (routePackets loads w.stream.router ps w.env).2 ∧
    (result.2 ≠ .cancelled → result.1.env.1 = w.env.1.handleMqttDisconnect id newTask ∧
      result.1.env.1.mqtt ≠ some id)

/-- No packet deafens the integration exactly when every PUBLISH has a readable topic and a payload
that `json.loads` accepts or rejects as no JSON. -/
theorem notDeafened_iff (hloads : ∀ data err, loads data = .error err → err.isException)
    {routes : List (String × EventHandler σ)}
    (hroutes : ∀ route ∈ routes, ∀ topic payload env err,
      (route.2 topic payload env).2 = .error err → err.isException)
    {stream : MQTTEventStream (MqttState × σ)} (hnew : stream.router.routes = [])
    (hstream : w.stream = registerMqttHandlers routes id newTask stream)
    (hrun : w.stream.running = true) (hopen : w.stream.wsClosed = false)
    (hlive : w.env.1.mqtt = some id)
    (hframes : w.stream.rxBuffer ++ frames.flatten = packetBytes ps)
    (hending : ∀ data, Received.msg (.binary data) ∉ ending) :
    NotDeafened loads id newTask ps w (listenLoop loads w (binaryFrames frames ++ ending)) ↔
      ∀ p ∈ ps, p.WellFormed loads := by
  have hregistered : Registered id newTask w.stream := by
    rw [hstream]
    exact .of_registerMqttHandlers hroutes id newTask hnew
  constructor
  · intro hheard
    by_contra hbad
    have hended : ∃ err, (listenLoop loads w (binaryFrames frames ++ ending)).2 = .raised err ∧
        (listenLoop loads w (binaryFrames frames ++ ending)).1.env.1 = w.env.1 :=
      listenLoop_malformed_handles hloads hregistered hrun hopen hframes hbad
    obtain ⟨err, hstop, hhandles⟩ := hended
    obtain ⟨-, hgone⟩ := hheard.2 (by simp [hstop])
    rw [hhandles] at hgone
    exact hgone hlive
  · intro hwf
    obtain ⟨hroute, hend⟩ := listenLoop_registered hregistered hrun hopen hframes hending hwf
    refine ⟨hroute, fun hstop => ?_⟩
    have hcallback := hend.resolve_left hstop
    exact ⟨hcallback, by rw [hcallback]; exact handleMqttDisconnect_mqtt_ne _ _ _⟩

end Run

section Sample

/-- A stream that is connected, as the live stream of a coordinator. -/
def liveWorld (routes : List (String × EventHandler Nat)) : World (MqttState × Nat) where
  stream := registerMqttHandlers routes 0 0
    { userId := "u", token := "t", xCloudIds := ["x"], extraTopics := [], router := {}
      onDisconnect := none, running := true, wsClosed := false, rxBuffer := []
      subscribeOutcome := none }
  env := ({ MqttState.init with mqtt := some 0 }, 0)
  handed := []

/-- A handler that raises, and behind it one that counts. -/
def sampleRoutes : List (String × EventHandler Nat) :=
  [("#", fun _ _ n => (n, .error (.builtin .keyError "'properties'"))),
    ("#", fun _ _ n => (n + 1, .ok ()))]

/-- Two events around a payload that is no JSON. -/
def samplePackets : List Packet := [samplePublish, textPublish, samplePublish]

theorem notDeafened_iff_sample :
    (routePackets sampleLoads (liveWorld sampleRoutes).stream.router samplePackets
      (liveWorld sampleRoutes).env).2 = 2 ∧
    NotDeafened sampleLoads 0 0 samplePackets (liveWorld sampleRoutes)
      (listenLoop sampleLoads (liveWorld sampleRoutes)
        (binaryFrames (samplePackets.map Packet.bytes) ++ [.timeout])) := by
  have hroutes : ∀ route ∈ sampleRoutes, ∀ topic payload env err,
      (route.2 topic payload env).2 = .error err → err.isException := by
    intro route hroute topic payload env err herr
    simp only [sampleRoutes, List.mem_cons, List.not_mem_nil, or_false] at hroute
    rcases hroute with rfl | rfl
    · cases herr
      rfl
    · cases herr
  have hiff := @notDeafened_iff _ sampleLoads (liveWorld sampleRoutes) 0 0 samplePackets
    (samplePackets.map Packet.bytes) [.timeout] sampleLoads_ordinary sampleRoutes hroutes _ rfl rfl
    rfl rfl rfl (by decide) (by simp)
  exact ⟨by decide, hiff.mpr (by decide)⟩

/-- A PUBLISH whose body ends inside the length of its topic. -/
def truncatedPublish : Packet := .ofBody 0x30 [0x00] (by decide)

theorem not_notDeafened_truncatedPublish :
    ¬ NotDeafened sampleLoads 0 0 [truncatedPublish] (liveWorld sampleRoutes)
      (listenLoop sampleLoads (liveWorld sampleRoutes)
        (binaryFrames [truncatedPublish.bytes] ++ [.timeout])) := by
  intro h
  have := h.2 (by decide)
  exact this.2 (by decide)

end Sample

end Eisenberg.Coordinator
