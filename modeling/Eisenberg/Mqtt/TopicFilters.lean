import Eisenberg.Mqtt.Router

/-!
# Topic filters

The matching relation of MQTT on lists of levels, by recursion on filter and topic, and that the
index loop of `_matches` computes it. Two filters are apart when some level, or their lengths, keep
every topic from matching both.
-/

namespace Eisenberg.Mqtt

/-- `#` last stands for all the levels that are left, `+` for one level, any other level for itself;
filter and topic end together. -/
def levelsMatch : List String → List String → Bool
  | [], topic => topic.isEmpty
  | p :: pattern, topic =>
    if p = "#" ∧ pattern = [] then true
    else match topic with
      | [] => false
      | t :: topic => (p == "+" || p == t) && levelsMatch pattern topic

theorem levelsMatch_level {p t : String} (hhash : p ≠ "#") (pattern topic : List String) :
    levelsMatch (p :: pattern) (t :: topic) =
      ((p == "+" || p == t) && levelsMatch pattern topic) := by
  simp [levelsMatch, hhash]

/-- `#` stands nowhere but in the last place. -/
def HashLast (pattern : List String) : Prop := "#" ∉ pattern.dropLast

theorem HashLast.tail {p : String} {pattern : List String} (h : HashLast (p :: pattern)) :
    HashLast pattern := by
  cases pattern with
  | nil => simp [HashLast]
  | cons q pattern =>
    simp only [HashLast, List.dropLast_cons_cons, List.mem_cons, not_or] at h
    exact h.2

theorem HashLast.eq_nil {pattern : List String} (h : HashLast ("#" :: pattern)) : pattern = [] := by
  cases pattern with
  | nil => rfl
  | cons q pattern => simp [HashLast] at h

theorem matchesLoop_level {topic pattern : List String} {p : String} {i : Nat} (hhash : p ≠ "#")
    (hi : i < topic.length) :
    matchesLoop topic i (p :: pattern) =
      if p = "+" ∨ p = topic[i] then matchesLoop topic (i + 1) pattern else some false := by
  have hget : topic[i]? = some topic[i] := List.getElem?_eq_getElem hi
  have hnot : ¬ i ≥ topic.length := by omega
  simp only [matchesLoop, if_neg hhash, if_neg hnot, hget, ne_eq, Option.some.injEq]
  by_cases hlevel : p = "+" ∨ p = topic[i]
  · have hpass : ¬ (¬ p = "+" ∧ ¬ topic[i] = p) := by
      intro h
      exact hlevel.elim h.1 fun heq => h.2 heq.symm
    rw [if_pos hlevel, if_neg hpass]
  · have hfail : ¬ p = "+" ∧ ¬ topic[i] = p := by
      rw [not_or] at hlevel
      exact ⟨hlevel.1, fun heq => hlevel.2 heq.symm⟩
    rw [if_neg hlevel, if_pos hfail]

/-- The loop at index `i` decides whether what is left of the filter matches what is left of the
topic. -/
theorem matchesLoop_eq {pattern topic : List String} (h : HashLast pattern) {i : Nat}
    (hi : i ≤ topic.length) :
    (matchesLoop topic i pattern).getD (i + pattern.length == topic.length) =
      levelsMatch pattern (topic.drop i) := by
  induction pattern generalizing i with
  | nil =>
    rw [Bool.eq_iff_iff]
    simp only [matchesLoop, Option.getD_none, List.length_nil, Nat.add_zero, levelsMatch,
      beq_iff_eq, List.isEmpty_iff, List.drop_eq_nil_iff]
    omega
  | cons p pattern ih =>
    by_cases hhash : p = "#"
    · subst hhash
      simp [matchesLoop, levelsMatch, h.eq_nil]
    · rcases Nat.lt_or_ge i topic.length with hlt | hge
      · have hrest := @ih h.tail (i + 1) hlt
        have hlength : i + (p :: pattern).length = i + 1 + pattern.length := by
          simp only [List.length_cons]
          omega
        rw [matchesLoop_level hhash hlt, List.drop_eq_getElem_cons hlt,
          levelsMatch_level hhash, ← hrest, hlength]
        by_cases hlevel : p = "+" ∨ p = topic[i]
        · have hpass : (p == "+" || p == topic[i]) = true := by simpa using hlevel
          rw [if_pos hlevel, hpass, Bool.true_and]
        · have hfail : (p == "+" || p == topic[i]) = false := by simpa using hlevel
          rw [if_neg hlevel, hfail, Bool.false_and, Option.getD_some]
      · have hend : topic.drop i = [] := List.drop_eq_nil_iff.mpr hge
        simp [matchesLoop, levelsMatch, hhash, hge, hend]

theorem matchesLevels_eq {pattern : List String} (h : HashLast pattern) (topic : List String) :
    matchesLevels pattern topic = levelsMatch pattern topic := by
  have hloop := @matchesLoop_eq pattern topic h 0 (Nat.zero_le _)
  simpa [matchesLevels] using hloop

theorem topicMatches_eq {topicFilter : String} (h : HashLast (splitTopic topicFilter))
    (topic : String) :
    topicMatches topicFilter topic = levelsMatch (splitTopic topicFilter) (splitTopic topic) :=
  matchesLevels_eq h (splitTopic topic)

/-! ## Filters that no topic matches both -/

def apart : List String → List String → Bool
  | [], [] => false
  | [], q :: _ => q != "#"
  | p :: _, [] => p != "#"
  | p :: ps, q :: qs =>
    p != "#" && q != "#" && ((p != "+" && q != "+" && p != q) || apart ps qs)

theorem levelsMatch_of_apart {ps qs topic : List String} (h : apart ps qs = true)
    (hps : levelsMatch ps topic = true) : levelsMatch qs topic = false := by
  induction ps generalizing qs topic with
  | nil =>
    cases qs with
    | nil => simp [apart] at h
    | cons q qs =>
      have hq : q ≠ "#" := by simpa [apart] using h
      have htopic : topic = [] := by simpa [levelsMatch] using hps
      simp [htopic, levelsMatch, hq]
  | cons p ps ih =>
    cases qs with
    | nil =>
      have hp : p ≠ "#" := by simpa [apart] using h
      cases topic with
      | nil => simp [levelsMatch, hp] at hps
      | cons t topic => rfl
    | cons q qs =>
      simp only [apart, Bool.and_eq_true, bne_iff_ne, Bool.or_eq_true] at h
      obtain ⟨⟨hp, hq⟩, hlevel⟩ := h
      cases topic with
      | nil => simp [levelsMatch, hq]
      | cons t topic =>
        simp only [levelsMatch_level hp, Bool.and_eq_true, Bool.or_eq_true, beq_iff_eq] at hps
        rw [levelsMatch_level hq]
        rcases hlevel with ⟨⟨hplus, hqplus⟩, hne⟩ | hrest
        · have hpt : p = t := hps.1.resolve_left hplus
          have hqt : q ≠ t := fun heq => hne (hpt.trans heq.symm)
          simp [hqplus, hqt]
        · simp [ih hrest hps.2]

/-- Of filters that are apart from each other, at most one matches. -/
theorem length_filter_apart {η : Type} {routes : List (List String × η)}
    (h : routes.Pairwise fun r s => apart r.1 s.1 = true) (topic : List String) :
    (routes.filter fun route => levelsMatch route.1 topic).length ≤ 1 := by
  induction routes with
  | nil => simp
  | cons route routes ih =>
    obtain ⟨hroute, hroutes⟩ := List.pairwise_cons.mp h
    by_cases hmatch : levelsMatch route.1 topic = true
    · have hnone : (routes.filter fun route => levelsMatch route.1 topic) = [] := by
        rw [List.filter_eq_nil_iff]
        intro other hother
        simp [levelsMatch_of_apart (hroute other hother) hmatch]
      simp [hmatch, hnone]
    · simpa [hmatch] using ih hroutes

end Eisenberg.Mqtt
