import Eisenberg.Coordinator.SseSupplement
import Eisenberg.Mqtt.TopicFilters

/-!
# Routing of events

The route table of the coordinator, level by level: no topic matches two of its patterns, so that a
frame goes to one handler.
-/

namespace Eisenberg.Coordinator

open Mqtt

theorem eventRouter_routes : eventRouter.routes =
    [(["d", "+", "out", "cameras", "+", "is"], .cameraState),
     (["d", "+", "out", "cameras", "+", "privacyZones", "is"], .cameraState),
     (["d", "+", "out", "doorbells", "+", "is"], .cameraState),
     (["d", "+", "out", "doorbells", "+", "privacyZones", "is"], .cameraState),
     (["d", "+", "out", "cameras", "+", "fullFrameSnapshotAvailable"], .snapshot),
     (["d", "+", "out", "doorbells", "+", "fullFrameSnapshotAvailable"], .snapshot),
     (["d", "+", "out", "cameras", "+", "lastImageSnapshotAvailable"], .lastImageSnapshot),
     (["d", "+", "out", "doorbells", "+", "lastImageSnapshotAvailable"], .lastImageSnapshot),
     (["d", "+", "out", "sensors", "+", "is"], .sensorState),
     (["d", "+", "out", "siren", "+", "is"], .siren),
     (["u", "+", "in", "feed", "live"], .feed),
     (["u", "+", "in", "library", "add"], .mediaUpload),
     (["u", "+", "in", "automation", "activeMode", "is"], .activeMode),
     (["u", "+", "in", "automation", "customModes", "is"], .customModes),
     (["d", "+", "out", "basestation", "connectivity", "is"], .connectivity),
     (["d", "+", "out", "basestation", "is"], .basestation),
     (["d", "+", "out", "devices", "+", "states", "is"], .deviceStates),
     (["d", "+", "out", "devices", "is"], .devicesResponse),
     (["d", "+", "out", "subscriptions", "+", "is"], .subscriptionAck),
     (["u", "+", "in", "automation", "geofences", "is"], .geofences),
     (["u", "+", "in", "automation", "exceptionSensors", "is"], .exceptionSensors)] := by
  rw [eventRouter, TopicRouter.ofRoutes_routes]
  rfl

/-- Each two patterns of the table differ in their number of levels, or in a level where both have
text. -/
theorem eventRouter_apart :
    eventRouter.routes.Pairwise fun r s => apart r.1 s.1 = true := by
  rw [eventRouter_routes]
  decide

theorem hashLast_eventRouter {pattern : List String} {handler : Handler}
    (h : (pattern, handler) ∈ eventRouter.routes) : HashLast pattern := by
  have hall : ∀ route ∈ eventRouter.routes, "#" ∉ route.1.dropLast := by
    rw [eventRouter_routes]
    decide
  exact hall _ h

/-- `topic_matches` is the matching of MQTT; a router returns the handlers of the matching patterns
in the order of their registration; the coordinator's table has at most one of them. -/
theorem topic_matching :
    (∀ topicFilter topic, HashLast (splitTopic topicFilter) →
      topicMatches topicFilter topic = levelsMatch (splitTopic topicFilter) (splitTopic topic)) ∧
    (∀ (η : Type) (routes : List (String × η)) (topic : String),
      (TopicRouter.ofRoutes routes).matching topic =
        (routes.filter fun route => topicMatches route.1 topic).map Prod.snd) ∧
    ∀ topic, (eventRouter.matching topic).length ≤ 1 := by
  refine ⟨fun _ topic h => topicMatches_eq h topic, ?_, ?_⟩
  · intro η routes topic
    rw [TopicRouter.matching, TopicRouter.ofRoutes_routes, List.filter_map, List.map_map]
    rfl
  · intro topic
    have hsame : (eventRouter.routes.filter fun route => matchesLevels route.1 (splitTopic topic)) =
        eventRouter.routes.filter fun route => levelsMatch route.1 (splitTopic topic) := by
      apply List.filter_congr
      intro route hroute
      exact matchesLevels_eq (hashLast_eventRouter hroute) _
    rw [TopicRouter.matching, List.length_map, hsame]
    exact length_filter_apart eventRouter_apart _

theorem topic_matching_doorbell :
    topicMatches "d/+/out/doorbells/#" "d/XC/out/doorbells" =
        levelsMatch (splitTopic "d/+/out/doorbells/#") (splitTopic "d/XC/out/doorbells") ∧
      (TopicRouter.ofRoutes [("d/#", 1), ("u/#", 2), ("d/+/out", 3)]).matching "d/XC/out" =
        ([("d/#", 1), ("u/#", 2), ("d/+/out", 3)].filter fun route =>
          topicMatches route.1 "d/XC/out").map Prod.snd ∧
      (eventRouter.matching "d/XC/out/doorbells/DOOR1/is").length ≤ 1 :=
  ⟨topic_matching.1 "d/+/out/doorbells/#" "d/XC/out/doorbells" (by unfold HashLast; decide),
    topic_matching.2.1 Nat _ "d/XC/out", topic_matching.2.2 "d/XC/out/doorbells/DOOR1/is"⟩

end Eisenberg.Coordinator
