import Eisenberg.Coordinator.SseSupplement
import Eisenberg.Mqtt.Subscriptions

/-!
# The filters of `_ensure_mqtt`

The filter list the coordinator subscribes to has every device's topics and no filter twice, so that
the verdict looked up for a filter is the one the broker gave it.
-/

namespace Eisenberg.Coordinator

open Mqtt

theorem nodup_eraseDups (l : List String) : l.eraseDups.Nodup := by
  induction hn : l.length using Nat.strongRecOn generalizing l with
  | ind n ih =>
    cases l with
    | nil => simp
    | cons a l =>
      rw [List.eraseDups_cons, List.nodup_cons]
      have hshort : (l.filter fun b => !b == a).length < n := by
        have hfilter := List.length_filter_le (fun b => !b == a) l
        simp only [List.length_cons] at hn
        omega
      exact ⟨by simp, ih _ hshort _ rfl⟩

/-- What a device adds to the filters: the ones it declares, and a doorbell its camera resource. -/
def declaredTopics (device : DeviceInfo) : List String :=
  device.allowedMqttTopics ++ if device.isDoorbell then [device.cameraResourceFilter] else []

theorem mem_foldl_declaredTopics {devices : List DeviceInfo} {topics : List String}
    {topic : String} :
    topic ∈ devices.foldl (fun topics device => appendNew topics (declaredTopics device)) topics ↔
      topic ∈ topics ∨ ∃ d ∈ devices, topic ∈ declaredTopics d := by
  induction devices generalizing topics with
  | nil => simp
  | cons device devices ih =>
    rw [List.foldl_cons, ih, mem_appendNew]
    simp only [List.mem_cons, exists_eq_or_imp, or_assoc]

theorem mem_mqttExtraTopics {devices : List DeviceInfo} {topic : String} :
    topic ∈ mqttExtraTopics devices ↔ ∃ d ∈ devices, topic ∈ declaredTopics d := by
  have hfold : topic ∈ mqttExtraTopics devices ↔
      topic ∈ [] ∨ ∃ d ∈ devices, topic ∈ declaredTopics d := mem_foldl_declaredTopics
  rw [hfold]
  simp

theorem beginEnsure_topics {s : Supplement} {m : MqttHandle} (hdown : s.mqtt = none)
    (hup : s.beginEnsure.mqtt = some m) :
    m.topics = buildSubscribeTopics (s.devices.map fun d => d.xCloudId).eraseDups
      (s.client.userId.getD "") (mqttExtraTopics s.devices) := by
  simp only [Supplement.beginEnsure, hdown, Option.isSome_none, Bool.false_eq_true, if_false] at hup
  split_ifs at hup
  · obtain rfl := Option.some.inj hup
    rfl
  · simp [hdown] at hup

section Topics

variable {s : Supplement} {m : MqttHandle} (hdown : s.mqtt = none)
  (hup : s.beginEnsure.mqtt = some m)

include hdown hup

theorem nodup_topics : m.topics.Nodup := by
  rw [beginEnsure_topics hdown hup]
  exact nodup_buildSubscribeTopics (nodup_eraseDups _) _ _

theorem mem_topics (topic : String) : topic ∈ m.topics ↔
    (∃ d ∈ s.devices, topic = "d/" ++ d.xCloudId ++ "/out/#") ∨
      topic = "u/" ++ s.client.userId.getD "" ++ "/in/#" ∨
      ∃ d ∈ s.devices, topic ∈ declaredTopics d := by
  rw [beginEnsure_topics hdown hup, mem_buildSubscribeTopics, mem_mqttExtraTopics]
  simp

theorem topics_of_device {d : DeviceInfo} (hd : d ∈ s.devices) :
    "d/" ++ d.xCloudId ++ "/out/#" ∈ m.topics ∧
      (∀ topic ∈ d.allowedMqttTopics, topic ∈ m.topics) ∧
      (d.isDoorbell = true →
        "d/" ++ d.xCloudId ++ "/out/cameras/" ++ d.deviceId ++ "/#" ∈ m.topics) := by
  have hdeclared (topic : String) (h : topic ∈ declaredTopics d) : topic ∈ m.topics :=
    (mem_topics hdown hup topic).mpr (Or.inr (Or.inr ⟨d, hd, h⟩))
  refine ⟨(mem_topics hdown hup _).mpr (Or.inl ⟨d, hd, rfl⟩), ?_, ?_⟩
  · intro topic htopic
    exact hdeclared topic (List.mem_append_left _ htopic)
  · intro hdoorbell
    apply hdeclared
    simp [declaredTopics, hdoorbell, DeviceInfo.cameraResourceFilter]

end Topics

/-- The filter list names every topic of the account once. A connection over it comes up on any
cutting of a CONNACK, packets that can be read and a SUBACK; and one that came up holds for each
filter the code at its place in the first SUBACK it received. -/
theorem subscriptions_line_up {s : Supplement} {m : MqttHandle} (hdown : s.mqtt = none)
    (hup : s.beginEnsure.mqtt = some m) :
    (m.topics.Nodup ∧ "u/" ++ s.client.userId.getD "" ++ "/in/#" ∈ m.topics ∧
      ∀ d ∈ s.devices, "d/" ++ d.xCloudId ++ "/out/#" ∈ m.topics ∧
        (∀ topic ∈ d.allowedMqttTopics, topic ∈ m.topics) ∧
        (d.isDoorbell = true →
          "d/" ++ d.xCloudId ++ "/out/cameras/" ++ d.deviceId ++ "/#" ∈ m.topics)) ∧
    ∀ {σ : Type} (loads : Bytes → Except Exc Json) (t : Transport) (w : World σ)
      (connack suback : Packet) (early late : List Packet), w.stream.topics = m.topics →
      (∀ p ∈ early, p.isSuback = false) → suback.isSuback = true →
      (∀ (frames : List Bytes) (ending : List Received), w.stream.openSession t = .ok () →
        w.stream.sendSubscribe t = .ok () → OrdinaryHandlers w.stream.router →
        parseConnack connack.bytes = .ok 0 → (∀ p ∈ early, p.WellFormed loads) →
        frames.flatten = connack.bytes ++ packetBytes (early ++ suback :: late) →
        ∃ w' left, connect loads t w (binaryFrames frames ++ ending) = (w', .ok left)) ∧
      ∀ (received left : List Received) (rest : Bytes) (w' : World σ) (msb lsb : UInt8)
        (codes : Bytes),
        receivedData received =
          connack.bytes ++ (packetBytes early ++ (suback.bytes ++ rest)) →
        suback.body = msb :: lsb :: codes → codes.length = m.topics.length →
        connect loads t w received = (w', .ok left) →
        ∃ outcome, w'.stream.subscribeOutcome = some outcome ∧
          ∀ (i : Nat) (hi : i < m.topics.length) (hcode : i < codes.length),
            outcome.resultFor m.topics[i] =
              some ⟨m.topics[i], codes[i].toNat, codes[i].toNat != 0x80⟩ := by
  have hnodup := nodup_topics hdown hup
  refine ⟨⟨hnodup, ?_, fun d hd => topics_of_device hdown hup hd⟩, ?_⟩
  · exact (mem_topics hdown hup _).mpr (Or.inr (Or.inl rfl))
  intro σ loads t w connack suback early late hstream hearly hsuback
  constructor
  · intro frames ending hsession hsend hrouter hconnack hwf hframes
    obtain ⟨w', later, hconnect, -⟩ := connect_packets hsession hsend hrouter hconnack hsuback
      hearly hwf hframes ending
    exact ⟨w', _, hconnect⟩
  · intro received left rest w' msb lsb codes hdata hbody _ hconnect
    refine ⟨_, connect_ok hearly hsuback hdata hconnect, ?_⟩
    intro i hi hcode
    rw [hstream]
    exact resultFor_suback hnodup hbody hi hcode

section Sample

open Supplement

/-- A camera behind a hub that a doorbell shares, the doorbell declaring a filter of its own. -/
def sharedHub : Supplement :=
  init
    [{ deviceId := "CAM1", xCloudId := "XC" },
      { deviceId := "DOOR1", xCloudId := "XC", deviceType := some "doorbell"
        allowedMqttTopics := ["d/XC/out/doorbells/DOOR1/#", "d/XC/out/#"] }]
    true ⟨some "wss://mqtt", some "u", some "t"⟩

def sharedHubTopics : List String :=
  ["d/XC/out/#", "u/u/in/#", "d/XC/out/doorbells/DOOR1/#", "d/XC/out/cameras/DOOR1/#"]

def sharedHubMqtt : MqttHandle where
  topics := sharedHubTopics
  router := TopicRouter.ofRoutes eventRoutes

def sharedHubSuback : Packet := .ofBody 0x90 [0x00, 0x01, 0x80, 0x00, 0x01, 0x80] (by decide)

def sharedHubWorld : World Unit where
  stream :=
    { userId := "u", token := "t", xCloudIds := ["XC"]
      extraTopics := ["d/XC/out/doorbells/DOOR1/#", "d/XC/out/#", "d/XC/out/cameras/DOOR1/#"]
      router := {}, onDisconnect := none, running := false, wsClosed := false, rxBuffer := []
      subscribeOutcome := none }
  env := ()
  handed := []

def sharedHubTransport : Transport := ⟨7, .ok (), .ok (), .ok ()⟩

/-- A PUBACK, which no handler is concerned with. -/
def sharedHubPuback : Packet := .ofBody 0x40 [0x00, 0x01] (by decide)

/-- The CONNACK, the PUBACK and the SUBACK, cut inside the CONNACK and inside the SUBACK. -/
def sharedHubFrames : List Bytes :=
  [[0x20, 0x02], [0x00, 0x00, 0x40, 0x02, 0x00, 0x01, 0x90], sharedHubSuback.bytes.drop 1]

theorem subscriptions_line_up_sharedHub :
    sharedHubTopics.Nodup ∧ ∃ (w' : World Unit) (left : List Received) (outcome : SubscribeOutcome),
      connect (fun _ => .error indexError) sharedHubTransport sharedHubWorld
        (binaryFrames sharedHubFrames) = (w', .ok left) ∧
      w'.stream.subscribeOutcome = some outcome ∧
      outcome.resultFor "d/XC/out/doorbells/DOOR1/#" =
        some ⟨"d/XC/out/doorbells/DOOR1/#", 1, true⟩ ∧
      outcome.resultFor "d/XC/out/cameras/DOOR1/#" =
        some ⟨"d/XC/out/cameras/DOOR1/#", 0x80, false⟩ := by
  have h := @subscriptions_line_up sharedHub sharedHubMqtt rfl rfl
  obtain ⟨hcomes, hholds⟩ := h.2 (fun _ => .error indexError) sharedHubTransport sharedHubWorld
    sampleConnack sharedHubSuback [sharedHubPuback] [] rfl (by decide) (by decide)
  obtain ⟨w', left, hconnect⟩ := hcomes sharedHubFrames [] rfl rfl
    (by intro route hroute; cases hroute) rfl (by decide) (by decide)
  obtain ⟨outcome, houtcome, hresult⟩ := hholds _ left [] w' 0x00 0x01 [0x80, 0x00, 0x01, 0x80]
    (by decide) rfl rfl hconnect
  rw [List.append_nil] at hconnect
  exact ⟨h.1.1, w', left, outcome, hconnect, houtcome, hresult 2 (by decide) (by decide),
    hresult 3 (by decide) (by decide)⟩

end Sample

end Eisenberg.Coordinator
