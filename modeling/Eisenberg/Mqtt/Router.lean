import Mathlib.Tactic.Common

/-!
# Topic routing

`TopicRouter` and `topic_matches` of `eisenberg/mqtt.py`: filters with the wildcards `+` (one level)
and `#` (the rest).
-/

namespace Eisenberg.Mqtt

/-- `topic.split("/")`. -/
def splitTopic (topic : String) : List String :=
  (topic.toList.splitOn '/').map String.ofList

theorem splitTopic_append (first rest : String) :
    splitTopic (first ++ "/" ++ rest) = splitTopic first ++ splitTopic rest := by
  have htext : (first ++ "/" ++ rest).toList = first.toList ++ '/' :: rest.toList := by simp
  rw [splitTopic, htext, List.splitOn_append_cons_self, List.map_append]
  rfl

theorem splitTopic_of_not_mem {level : String} (h : '/' ∉ level.toList) :
    splitTopic level = [level] := by
  rw [splitTopic, List.splitOn_eq_singleton h, List.map_singleton, String.ofList_toList]

/-- The loop of `_matches`; `none` when no level of the pattern decides. -/
def matchesLoop (topic : List String) : Nat → List String → Option Bool
  | _, [] => none
  | i, p :: pattern =>
    if p = "#" then some true
    else if i ≥ topic.length then some false
    else if p ≠ "+" ∧ topic[i]? ≠ some p then some false
    else matchesLoop topic (i + 1) pattern

def matchesLevels (pattern topic : List String) : Bool :=
  (matchesLoop topic 0 pattern).getD (pattern.length == topic.length)

def topicMatches (topicFilter topic : String) : Bool :=
  matchesLevels (splitTopic topicFilter) (splitTopic topic)

structure TopicRouter (η : Type) where
  routes : List (List String × η) := []

namespace TopicRouter

variable {η : Type}

def register (router : TopicRouter η) (pattern : String) (handler : η) : TopicRouter η :=
  { router with routes := router.routes ++ [(splitTopic pattern, handler)] }

/-- Register each route of a table in turn. -/
def ofRoutes (routes : List (String × η)) : TopicRouter η :=
  routes.foldl (fun router route => router.register route.1 route.2) {}

/-- The same routes, each to what the function makes of its handler. -/
def map {θ : Type} (f : η → θ) (router : TopicRouter η) : TopicRouter θ where
  routes := router.routes.map fun route => (route.1, f route.2)

/-- Find all handlers matching a topic. -/
def matching (router : TopicRouter η) (topic : String) : List η :=
  (router.routes.filter fun route => matchesLevels route.1 (splitTopic topic)).map Prod.snd

theorem matching_map {θ : Type} (f : η → θ) (router : TopicRouter η) (topic : String) :
    (router.map f).matching topic = (router.matching topic).map f := by
  simp [map, matching, List.filter_map, Function.comp_def]

theorem foldl_register (routes : List (String × η)) (router : TopicRouter η) :
    (routes.foldl (fun router route => router.register route.1 route.2) router).routes =
      router.routes ++ routes.map fun route => (splitTopic route.1, route.2) := by
  induction routes generalizing router with
  | nil => simp
  | cons route routes ih =>
    rw [List.foldl_cons, ih]
    simp [register]

theorem ofRoutes_routes (routes : List (String × η)) :
    (ofRoutes routes).routes = routes.map fun route => (splitTopic route.1, route.2) :=
  foldl_register routes {}

theorem mem_matching {router : TopicRouter η} {topic : String} {handler : η}
    (h : handler ∈ router.matching topic) : ∃ pattern, (pattern, handler) ∈ router.routes := by
  simp only [matching, List.mem_map, List.mem_filter] at h
  obtain ⟨⟨pattern, _⟩, ⟨hmem, _⟩, rfl⟩ := h
  exact ⟨pattern, hmem⟩

end TopicRouter

end Eisenberg.Mqtt
