import Eisenberg.Framework.Dict
import Mathlib.Data.List.Induction
import Mathlib.Order.Lattice

/-!
# The best value of each key

A loop fills a dictionary with what it meets: a key takes the first value it is given, and after
that every one that is better than what it has. The keys then stand in the order they came in, and
each holds the best of its values.
-/

namespace Framework

universe u v

variable {κ : Type u} {ν : Type v} (better : ν → ν → Bool)

/-- What is kept once a value has come. -/
def challenge : Option ν → ν → ν
  | none, v => v
  | some w, v => if better v w then v else w

def bestFrom (kept : Option ν) (vs : List ν) : Option ν :=
  vs.foldl (fun kept v => some (challenge better kept v)) kept

/-- The best of a list, as a loop over it finds it. -/
def best (vs : List ν) : Option ν := bestFrom better none vs

section Best

variable {better} {v w : ν} {vs : List ν}

theorem bestFrom_cons (kept : Option ν) (v : ν) (vs : List ν) :
    bestFrom better kept (v :: vs) = bestFrom better (some (challenge better kept v)) vs := rfl

theorem best_cons (v : ν) (vs : List ν) : best better (v :: vs) = bestFrom better (some v) vs := rfl

theorem bestFrom_mem {kept : Option ν} (h : bestFrom better kept vs = some v) :
    v ∈ vs ∨ kept = some v := by
  induction vs generalizing kept with
  | nil => exact Or.inr h
  | cons w vs ih =>
    rw [bestFrom_cons] at h
    rcases ih h with hvs | hw
    · exact Or.inl (List.mem_cons_of_mem w hvs)
    · cases kept with
      | none =>
        cases hw
        exact Or.inl List.mem_cons_self
      | some x =>
        rw [challenge] at hw
        split_ifs at hw
        · cases hw
          exact Or.inl List.mem_cons_self
        · exact Or.inr hw

theorem best_mem (h : best better vs = some v) : v ∈ vs :=
  (bestFrom_mem h).resolve_right (by simp)

theorem mem_of_best_filter {p : ν → Bool} (h : best better (vs.filter p) = some v) :
    v ∈ vs ∧ p v = true := List.mem_filter.mp (best_mem h)

theorem bestFrom_some (w : ν) (vs : List ν) : ∃ v, bestFrom better (some w) vs = some v := by
  induction vs generalizing w with
  | nil => exact ⟨w, rfl⟩
  | cons v vs ih => exact ih _

theorem best_eq_none_iff : best better vs = none ↔ vs = [] := by
  cases vs with
  | nil => exact iff_of_true rfl rfl
  | cons w vs =>
    obtain ⟨v, hv⟩ := @bestFrom_some _ better w vs
    rw [best_cons, hv]
    simp

/-- Where a value beats another one for being no stand-in, the first that is none is the best. -/
theorem bestFrom_real (standIn : ν → Bool) (vs : List ν) :
    bestFrom (fun v w => standIn w && !standIn v) (some w) vs =
      if standIn w then (vs.find? fun v => !standIn v).or (some w) else some w := by
  induction vs generalizing w with
  | nil => simp [bestFrom]
  | cons v vs ih =>
    rw [bestFrom_cons, ih]
    cases hw : standIn w with
    | false => simp [challenge, hw]
    | true =>
      cases hv : standIn v with
      | false => simp [challenge, hw, hv]
      | true => simp [challenge, hw, hv]

theorem best_real (standIn : ν → Bool) (vs : List ν) :
    best (fun v w => standIn w && !standIn v) vs =
      (vs.find? fun v => !standIn v).or vs.head? := by
  cases vs with
  | nil => rfl
  | cons v vs =>
    rw [best_cons, bestFrom_real]
    cases hv : standIn v with
    | false => simp [hv]
    | true => simp [hv]

end Best

section Latest

variable {τ : Type*} [LinearOrder τ] (time : ν → τ) {v w : ν} {vs : List ν}

/-- The later one is the better one. -/
def later (v w : ν) : Bool := decide (time w < time v)

theorem bestFrom_later (w : ν) (vs : List ν) :
    ∃ v, bestFrom (later time) (some w) vs = some v ∧ v ∈ w :: vs ∧
      ∀ x ∈ w :: vs, time x ≤ time v := by
  induction vs generalizing w with
  | nil => exact ⟨w, rfl, List.mem_singleton_self w, by simp⟩
  | cons x vs ih =>
    rw [bestFrom_cons]
    by_cases hlater : time w < time x
    · have hkept : challenge (later time) (some w) x = x := by simp [challenge, later, hlater]
      obtain ⟨v, hv, hmem, hmax⟩ := ih x
      rw [hkept]
      refine ⟨v, hv, List.mem_cons_of_mem w hmem, ?_⟩
      intro y hy
      rcases List.mem_cons.mp hy with rfl | hy
      · exact hlater.le.trans (hmax x List.mem_cons_self)
      · exact hmax y hy
    · have hkept : challenge (later time) (some w) x = w := by simp [challenge, later, hlater]
      obtain ⟨v, hv, hmem, hmax⟩ := ih w
      have hw := hmax w List.mem_cons_self
      rw [hkept]
      refine ⟨v, hv, ?_, ?_⟩
      · rcases List.mem_cons.mp hmem with rfl | hmem
        · exact List.mem_cons_self
        · exact List.mem_cons_of_mem w (List.mem_cons_of_mem x hmem)
      · intro y hy
        rcases List.mem_cons.mp hy with rfl | hy
        · exact hw
        · rcases List.mem_cons.mp hy with rfl | hy
          · exact (not_lt.mp hlater).trans hw
          · exact hmax y (List.mem_cons_of_mem w hy)

theorem best_later (hvs : vs ≠ []) :
    ∃ v, best (later time) vs = some v ∧ v ∈ vs ∧ ∀ x ∈ vs, time x ≤ time v := by
  cases vs with
  | nil => exact absurd rfl hvs
  | cons w vs => exact bestFrom_later time w vs

/-- Of values with times of their own, the best is the one that none is later than. -/
theorem best_later_eq_some_iff (hinj : ∀ v ∈ vs, ∀ w ∈ vs, time v = time w → v = w) :
    best (later time) vs = some v ↔ v ∈ vs ∧ ∀ x ∈ vs, time x ≤ time v := by
  constructor
  · intro h
    have hne : vs ≠ [] := by
      rintro rfl
      cases h
    obtain ⟨w, hw, hmem, hmax⟩ := best_later time hne
    obtain rfl := Option.some.inj (hw.symm.trans h)
    exact ⟨hmem, hmax⟩
  · rintro ⟨hmem, hmax⟩
    obtain ⟨w, hw, hwmem, hwmax⟩ := best_later time (List.ne_nil_of_mem hmem)
    rw [hw, hinj w hwmem v hmem ((hmax w hwmem).antisymm (hwmax v hmem))]

/-- What always comes with a later one of its kind does not come. -/
theorem not_of_exceeded {P : ν → Prop} (h : ∀ v ∈ vs, P v → ∃ w ∈ vs, P w ∧ time v < time w) :
    ∀ v ∈ vs, ¬ P v := by
  classical
  intro v hv hP
  have hne : vs.filter (fun v => P v) ≠ [] :=
    List.ne_nil_of_mem (List.mem_filter.mpr ⟨hv, by simpa using hP⟩)
  obtain ⟨w, -, hw, hmax⟩ := best_later time hne
  obtain ⟨hwmem, hwP⟩ := List.mem_filter.mp hw
  obtain ⟨x, hx, hxP, hlater⟩ := h w hwmem (by simpa using hwP)
  have hle := hmax x (List.mem_filter.mpr ⟨hx, by simpa using hxP⟩)
  exact absurd hlater (not_lt.mpr hle)

end Latest

namespace Dict

variable [DecidableEq κ]

/-- Give a key a value, if it has none or the new one is better. -/
def improve (d : Dict κ ν) (k : κ) (v : ν) : Dict κ ν :=
  match d.get? k with
  | none => d.set k v
  | some w => if better v w then d.set k v else d

/-- What a loop over these entries collects. -/
def collect (entries : List (κ × ν)) : Dict κ ν :=
  entries.foldl (fun d entry => d.improve better entry.1 entry.2) empty

variable {better}

theorem keys_set (d : Dict κ ν) (k : κ) (v : ν) :
    (d.set k v).keys = if k ∈ d.keys then d.keys else d.keys ++ [k] := put_keys k v d.entries

theorem improve_of_none {d : Dict κ ν} {k : κ} (h : d.get? k = none) (v : ν) :
    d.improve better k v = d.set k v := by
  rw [improve, h]

theorem get?_improve (d : Dict κ ν) (k j : κ) (v : ν) :
    (d.improve better k v).get? j =
      if j = k then some (challenge better (d.get? k) v) else d.get? j := by
  cases hk : d.get? k with
  | none => rw [improve_of_none hk, get?_set, challenge]
  | some w =>
    rw [improve, hk]
    dsimp only
    by_cases hbetter : better v w
    · rw [if_pos hbetter, get?_set, challenge, if_pos hbetter]
    · rw [if_neg hbetter, challenge, if_neg hbetter]
      by_cases hj : j = k
      · rw [if_pos hj, hj, hk]
      · rw [if_neg hj]

theorem keys_improve (d : Dict κ ν) (k : κ) (v : ν) :
    (d.improve better k v).keys = if k ∈ d.keys then d.keys else d.keys ++ [k] := by
  cases hk : d.get? k with
  | none => rw [improve_of_none hk, keys_set]
  | some w =>
    rw [improve, hk]
    dsimp only
    split_ifs with hbetter hmem hmem
    · rw [keys_set, if_pos hmem]
    · exact absurd (mem_keys hk) hmem
    · rfl
    · exact absurd (mem_keys hk) hmem

theorem get?_foldl_improve (k : κ) (entries : List (κ × ν)) (d : Dict κ ν) :
    (entries.foldl (fun d entry => d.improve better entry.1 entry.2) d).get? k =
      bestFrom better (d.get? k) ((entries.filter fun entry => entry.1 = k).map Prod.snd) := by
  induction entries generalizing d with
  | nil => rfl
  | cons entry rest ih =>
    obtain ⟨j, v⟩ := entry
    rw [List.foldl_cons, ih, get?_improve]
    by_cases hj : j = k
    · subst hj
      simp [bestFrom_cons]
    · have hk : ¬ k = j := fun h => hj h.symm
      simp [hj, hk]

/-- A key ends with the best of its values. -/
theorem get?_collect (k : κ) (entries : List (κ × ν)) :
    (collect better entries).get? k =
      best better ((entries.filter fun entry => entry.1 = k).map Prod.snd) :=
  get?_foldl_improve k entries empty

theorem mem_of_get?_collect {entries : List (κ × ν)} {k : κ} {v : ν}
    (h : (collect better entries).get? k = some v) : (k, v) ∈ entries := by
  rw [get?_collect] at h
  obtain ⟨entry, hentry, rfl⟩ := List.mem_map.mp (best_mem h)
  obtain ⟨hmem, hkey⟩ := List.mem_filter.mp hentry
  rw [decide_eq_true_eq] at hkey
  rw [← hkey]
  exact hmem

/-- The keys stand in the order in which they first came. -/
theorem keys_collect (entries : List (κ × ν)) :
    (collect better entries).keys = (entries.map Prod.fst).eraseDups := by
  induction entries using List.reverseRecOn with
  | nil => rfl
  | append_singleton entries entry ih =>
    have hlast : (collect better (entries ++ [entry])).keys =
        ((collect better entries).improve better entry.1 entry.2).keys := by
      rw [collect, List.foldl_append]
      rfl
    rw [hlast, keys_improve, ih, List.map_append, List.eraseDups_append]
    by_cases hmem : entry.1 ∈ entries.map Prod.fst
    · simp [hmem, List.removeAll]
    · simp [hmem, List.removeAll, List.eraseDups_cons]

/-- Entries with keys of their own are all there. -/
theorem foldl_improve_eq_foldl_set (entries : List (κ × ν)) (d : Dict κ ν)
    (h : ((d.entries ++ entries).map Prod.fst).Nodup) :
    entries.foldl (fun d entry => d.improve better entry.1 entry.2) d =
      entries.foldl (fun d entry => d.set entry.1 entry.2) d := by
  induction entries generalizing d with
  | nil => rfl
  | cons entry rest ih =>
    have hnew : entry.1 ∉ d.entries.map Prod.fst := by
      rw [List.map_append, List.map_cons] at h
      intro hmem
      exact (List.nodup_append.mp h).2.2 entry.1 hmem entry.1 List.mem_cons_self rfl
    have hnone : d.get? entry.1 = none := by
      by_contra hsome
      obtain ⟨w, hw⟩ := Option.ne_none_iff_exists'.mp hsome
      exact hnew (mem_keys hw)
    have hset : (d.set entry.1 entry.2).entries = d.entries ++ [entry] :=
      put_of_not_mem entry.2 hnew
    rw [List.foldl_cons, List.foldl_cons, improve_of_none hnone]
    apply ih
    rw [hset]
    simpa using h

theorem collect_entries (d : Dict κ ν) : collect better d.entries = d :=
  (foldl_improve_eq_foldl_set d.entries empty d.nodup).trans (ofEntries_entries d)

end Dict

end Framework
