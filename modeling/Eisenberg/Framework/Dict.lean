import Mathlib.Data.List.Nodup
import Mathlib.Tactic.Common

/-!
# Dictionaries in insertion order

A dictionary is a list of entries with distinct keys. Setting a key that is there replaces its value
in place; a new key goes to the end.
-/

namespace Framework

universe u v

structure Dict (κ : Type u) (ν : Type v) where
  entries : List (κ × ν)
  nodup : (entries.map Prod.fst).Nodup

namespace Dict

variable {κ : Type u} {ν : Type v}

def empty : Dict κ ν := ⟨[], List.nodup_nil⟩

def keys (d : Dict κ ν) : List κ := d.entries.map Prod.fst

def values (d : Dict κ ν) : List ν := d.entries.map Prod.snd

@[ext] theorem ext {d e : Dict κ ν} (h : d.entries = e.entries) : d = e := by
  cases d
  cases e
  cases h
  rfl

variable [DecidableEq κ]

def find (k : κ) : List (κ × ν) → Option ν
  | [] => none
  | (j, v) :: rest => if j = k then some v else find k rest

def get? (d : Dict κ ν) (k : κ) : Option ν := find k d.entries

def put (k : κ) (v : ν) : List (κ × ν) → List (κ × ν)
  | [] => [(k, v)]
  | (j, w) :: rest => if j = k then (j, v) :: rest else (j, w) :: put k v rest

theorem put_keys (k : κ) (v : ν) (entries : List (κ × ν)) :
    (put k v entries).map Prod.fst =
      if k ∈ entries.map Prod.fst then entries.map Prod.fst else entries.map Prod.fst ++ [k] := by
  induction entries with
  | nil => simp [put]
  | cons entry rest ih =>
    obtain ⟨j, w⟩ := entry
    by_cases hj : j = k
    · subst hj
      simp [put]
    · have hk : ¬ k = j := fun h => hj h.symm
      by_cases hmem : k ∈ rest.map Prod.fst <;> simp_all [put]

def set (d : Dict κ ν) (k : κ) (v : ν) : Dict κ ν where
  entries := put k v d.entries
  nodup := by
    rw [put_keys]
    split_ifs with hmem
    · exact d.nodup
    · exact List.nodup_append.mpr ⟨d.nodup, List.nodup_singleton k, by
        intro a ha b hb
        rw [List.mem_singleton] at hb
        subst hb
        intro hab
        exact hmem (hab ▸ ha)⟩

theorem find_put (k j : κ) (v : ν) (entries : List (κ × ν)) :
    find j (put k v entries) = if j = k then some v else find j entries := by
  induction entries with
  | nil =>
    by_cases hj : j = k
    · simp [put, find, hj]
    · have hk : ¬ k = j := fun h => hj h.symm
      simp [put, find, hj, hk]
  | cons entry rest ih =>
    obtain ⟨i, w⟩ := entry
    by_cases hi : i = k
    · subst hi
      by_cases hj : j = i
      · simp [put, find, hj]
      · have hij : ¬ i = j := fun h => hj h.symm
        simp [put, find, hj, hij]
    · by_cases hij : i = j
      · subst hij
        simp [put, find, hi]
      · simp [put, find, hi, hij, ih]

theorem get?_set (d : Dict κ ν) (k j : κ) (v : ν) :
    (d.set k v).get? j = if j = k then some v else d.get? j :=
  find_put k j v d.entries

@[simp] theorem get?_set_self (d : Dict κ ν) (k : κ) (v : ν) : (d.set k v).get? k = some v := by
  rw [get?_set, if_pos rfl]

theorem get?_set_of_ne (d : Dict κ ν) {k j : κ} (h : j ≠ k) (v : ν) :
    (d.set k v).get? j = d.get? j := by
  rw [get?_set, if_neg h]

theorem put_find {k : κ} {v : ν} {entries : List (κ × ν)} (h : find k entries = some v) :
    put k v entries = entries := by
  induction entries with
  | nil => cases h
  | cons entry rest ih =>
    obtain ⟨j, w⟩ := entry
    rw [find] at h
    rw [put]
    split_ifs at h ⊢ with hj
    · rw [Option.some.inj h]
    · rw [ih h]

theorem set_get? {d : Dict κ ν} {k : κ} {v : ν} (h : d.get? k = some v) : d.set k v = d :=
  ext (put_find h)

theorem find_eq_some {k : κ} {v : ν} {entries : List (κ × ν)} (h : find k entries = some v) :
    (k, v) ∈ entries := by
  induction entries with
  | nil => cases h
  | cons entry rest ih =>
    obtain ⟨j, w⟩ := entry
    by_cases hj : j = k
    · subst hj
      simp only [find, if_true, Option.some.injEq] at h
      rw [h]
      exact List.mem_cons_self
    · rw [find, if_neg hj] at h
      exact List.mem_cons_of_mem _ (ih h)

theorem find_of_mem {k : κ} {v : ν} {entries : List (κ × ν)}
    (hnodup : (entries.map Prod.fst).Nodup) (h : (k, v) ∈ entries) : find k entries = some v := by
  induction entries with
  | nil => cases h
  | cons entry rest ih =>
    obtain ⟨j, w⟩ := entry
    rw [List.map_cons, List.nodup_cons] at hnodup
    rcases List.mem_cons.mp h with heq | hrest
    · cases heq
      simp [find]
    · have hkey : k ∈ rest.map Prod.fst := List.mem_map.mpr ⟨(k, v), hrest, rfl⟩
      have hj : j ≠ k := fun hjk => hnodup.1 (hjk ▸ hkey)
      rw [find, if_neg hj]
      exact ih hnodup.2 hrest

theorem mem_entries_iff {d : Dict κ ν} {k : κ} {v : ν} :
    (k, v) ∈ d.entries ↔ d.get? k = some v :=
  ⟨find_of_mem d.nodup, find_eq_some⟩

theorem mem_keys {d : Dict κ ν} {k : κ} {v : ν} (h : d.get? k = some v) : k ∈ d.keys :=
  List.mem_map.mpr ⟨(k, v), mem_entries_iff.mpr h, rfl⟩

theorem mem_put {k j : κ} {v w : ν} {entries : List (κ × ν)} (h : (j, w) ∈ put k v entries) :
    (j, w) = (k, v) ∨ (j, w) ∈ entries := by
  induction entries with
  | nil => exact Or.inl (List.mem_singleton.mp h)
  | cons entry rest ih =>
    obtain ⟨i, x⟩ := entry
    rw [put] at h
    by_cases hi : i = k
    · subst hi
      rw [if_pos rfl] at h
      rcases List.mem_cons.mp h with heq | hrest
      · exact Or.inl heq
      · exact Or.inr (List.mem_cons_of_mem _ hrest)
    · rw [if_neg hi] at h
      rcases List.mem_cons.mp h with heq | hrest
      · exact Or.inr (heq ▸ List.mem_cons_self)
      · exact (ih hrest).imp_right (List.mem_cons_of_mem _)

theorem put_ne_nil (k : κ) (v : ν) (entries : List (κ × ν)) : put k v entries ≠ [] := by
  cases entries with
  | nil => simp [put]
  | cons entry rest =>
    rw [put]
    split_ifs <;> simp

theorem put_of_not_mem {k : κ} (v : ν) {entries : List (κ × ν)} (h : k ∉ entries.map Prod.fst) :
    put k v entries = entries ++ [(k, v)] := by
  induction entries with
  | nil => rfl
  | cons entry rest ih =>
    rw [List.map_cons, List.mem_cons, not_or] at h
    rw [put, if_neg (Ne.symm h.1), ih h.2, List.cons_append]

/-- The dictionary of a comprehension: later entries overwrite earlier ones. -/
def ofEntries (entries : List (κ × ν)) : Dict κ ν :=
  entries.foldl (fun d entry => d.set entry.1 entry.2) empty

theorem mem_foldl_set {k : κ} {v : ν} (entries : List (κ × ν)) (d : Dict κ ν)
    (h : (k, v) ∈ (entries.foldl (fun d entry => d.set entry.1 entry.2) d).entries) :
    (k, v) ∈ entries ∨ (k, v) ∈ d.entries := by
  induction entries generalizing d with
  | nil => exact Or.inr h
  | cons entry rest ih =>
    rcases ih (d.set entry.1 entry.2) h with hrest | hset
    · exact Or.inl (List.mem_cons_of_mem _ hrest)
    · rcases mem_put hset with heq | hd
      · exact Or.inl (heq ▸ List.mem_cons_self)
      · exact Or.inr hd

theorem mem_of_mem_ofEntries {k : κ} {v : ν} {entries : List (κ × ν)}
    (h : (k, v) ∈ (ofEntries entries).entries) : (k, v) ∈ entries := by
  rcases mem_foldl_set entries empty h with hmem | hnil
  · exact hmem
  · cases hnil

theorem foldl_set_entries_ne_nil (entries : List (κ × ν)) (d : Dict κ ν)
    (h : entries ≠ [] ∨ d.entries ≠ []) :
    (entries.foldl (fun d entry => d.set entry.1 entry.2) d).entries ≠ [] := by
  induction entries generalizing d with
  | nil => exact h.resolve_left (fun hne => hne rfl)
  | cons entry rest ih => exact ih _ (Or.inr (put_ne_nil _ _ _))

theorem ofEntries_entries_eq_nil_iff {entries : List (κ × ν)} :
    (ofEntries entries).entries = [] ↔ entries = [] := by
  constructor
  · intro hnil
    by_contra hne
    exact foldl_set_entries_ne_nil entries empty (Or.inl hne) hnil
  · rintro rfl
    rfl

theorem foldl_set_append (entries : List (κ × ν)) (d : Dict κ ν)
    (h : ((d.entries ++ entries).map Prod.fst).Nodup) :
    (entries.foldl (fun d entry => d.set entry.1 entry.2) d).entries = d.entries ++ entries := by
  induction entries generalizing d with
  | nil => simp
  | cons entry rest ih =>
    have hnew : entry.1 ∉ d.entries.map Prod.fst := by
      rw [List.map_append, List.map_cons] at h
      intro hmem
      exact (List.nodup_append.mp h).2.2 entry.1 hmem entry.1 List.mem_cons_self rfl
    have hset : (d.set entry.1 entry.2).entries = d.entries ++ [entry] :=
      put_of_not_mem entry.2 hnew
    rw [List.foldl_cons, ih _ (by rw [hset]; simpa using h), hset, List.append_assoc]
    rfl

theorem get?_foldl_set (k : κ) (entries : List (κ × ν)) (d : Dict κ ν) :
    (entries.foldl (fun d entry => d.set entry.1 entry.2) d).get? k =
      (((entries.filter fun entry => entry.1 = k).getLast?).map Prod.snd).or (d.get? k) := by
  induction entries generalizing d with
  | nil => simp
  | cons entry rest ih =>
    obtain ⟨j, v⟩ := entry
    rw [List.foldl_cons, ih, get?_set]
    by_cases hj : j = k
    · subst hj
      cases hrest : (rest.filter fun entry => entry.1 = j).getLast? with
      | none => simp [List.getLast?_eq_none_iff.mp hrest]
      | some last => simp [List.getLast?_cons, hrest]
    · have hk : ¬ k = j := fun h => hj h.symm
      simp [hj, hk]

/-- The last entry of a key is the one that counts. -/
theorem get?_ofEntries (k : κ) (entries : List (κ × ν)) :
    (ofEntries entries).get? k =
      ((entries.filter fun entry => entry.1 = k).getLast?).map Prod.snd := by
  rw [ofEntries, get?_foldl_set]
  simp [get?, empty, find]

/-- Entries with keys of their own are the whole dictionary. -/
theorem entries_ofEntries {entries : List (κ × ν)} (h : (entries.map Prod.fst).Nodup) :
    (ofEntries entries).entries = entries := foldl_set_append entries empty h

theorem ofEntries_append (entries : List (κ × ν)) (k : κ) (v : ν) :
    ofEntries (entries ++ [(k, v)]) = (ofEntries entries).set k v := by
  rw [ofEntries, List.foldl_append]
  rfl

theorem ofEntries_entries (d : Dict κ ν) : ofEntries d.entries = d :=
  ext (foldl_set_append d.entries empty d.nodup)

/-! ### Taking a key out -/

def erase (d : Dict κ ν) (k : κ) : Dict κ ν where
  entries := d.entries.filter fun entry => entry.1 ≠ k
  nodup := d.nodup.sublist (List.filter_sublist.map Prod.fst)

theorem find_filter_ne (k j : κ) (entries : List (κ × ν)) :
    find j (entries.filter fun entry => entry.1 ≠ k) = if j = k then none else find j entries := by
  induction entries with
  | nil => simp [find]
  | cons entry rest ih =>
    obtain ⟨i, w⟩ := entry
    by_cases hi : i = k
    · by_cases hj : j = k
      · simpa [find, hi, hj] using ih
      · have hkj : ¬ k = j := fun h => hj h.symm
        simpa [find, hi, hj, hkj] using ih
    · by_cases hij : i = j
      · subst hij
        simp [find, hi]
      · simpa [find, hi, hij] using ih

theorem get?_erase (d : Dict κ ν) (k j : κ) :
    (d.erase k).get? j = if j = k then none else d.get? j :=
  find_filter_ne k j d.entries

theorem get?_erase_of_ne (d : Dict κ ν) {k j : κ} (h : j ≠ k) : (d.erase k).get? j = d.get? j := by
  rw [get?_erase, if_neg h]

/-! ### Keeping the first value of a key -/

/-- Set a key that is not there yet. -/
def insertNew (d : Dict κ ν) (k : κ) (v : ν) : Dict κ ν :=
  if (d.get? k).isSome then d else d.set k v

theorem get?_insertNew (d : Dict κ ν) (k j : κ) (v : ν) :
    (d.insertNew k v).get? j = (d.get? j).or (if k = j then some v else none) := by
  unfold insertNew
  by_cases hj : k = j
  · subst hj
    cases hk : d.get? k with
    | none => simp
    | some w => simp [hk]
  · have hne : ¬ j = k := fun h => hj h.symm
    cases hk : d.get? k with
    | none => simp [hj, get?_set_of_ne d hne]
    | some w => simp [hj]

/-- The first value of a key is the one that counts. -/
theorem get?_foldl_insertNew (key : ν → κ) (k : κ) (vs : List ν) (d : Dict κ ν) :
    (vs.foldl (fun d v => d.insertNew (key v) v) d).get? k =
      (d.get? k).or (vs.find? fun v => key v = k) := by
  induction vs generalizing d with
  | nil => simp
  | cons v vs ih =>
    rw [List.foldl_cons, ih, get?_insertNew, Option.or_assoc]
    by_cases hv : key v = k <;> simp [hv]

theorem filter_entries (k : κ) (entries : List (κ × ν)) (h : (entries.map Prod.fst).Nodup) :
    (entries.filter fun entry => entry.1 = k).map Prod.snd = (find k entries).toList := by
  induction entries with
  | nil => rfl
  | cons entry rest ih =>
    obtain ⟨j, v⟩ := entry
    rw [List.map_cons, List.nodup_cons] at h
    by_cases hj : j = k
    · have hrest : (rest.filter fun entry => entry.1 = k) = [] := by
        rw [List.filter_eq_nil_iff]
        intro entry hentry heq
        apply h.1
        rw [decide_eq_true_eq] at heq
        rw [hj, ← heq]
        exact List.mem_map.mpr ⟨entry, hentry, rfl⟩
      simp [find, hj, hrest]
    · simpa [find, hj] using ih h.2

section Values

variable (d : Dict κ ν) (key : ν → κ) (h : ∀ k v, d.get? k = some v → key v = k)

include h

theorem key_of_mem_entries : ∀ entry ∈ d.entries, key entry.2 = entry.1 := fun entry hentry =>
  h entry.1 entry.2 (mem_entries_iff.mp hentry)

/-- Where each value tells its own key, the values are the whole dictionary. -/
theorem entries_eq_map_values : d.entries = d.values.map fun v => (key v, v) := by
  have hmap : d.entries.map ((fun v => (key v, v)) ∘ Prod.snd) = d.entries.map id := by
    apply List.map_congr_left
    intro entry hentry
    rw [Function.comp_apply, d.key_of_mem_entries key h entry hentry]
    rfl
  rw [values, List.map_map, hmap, List.map_id]

theorem keys_eq_map_values : d.keys = d.values.map key := by
  rw [keys, entries_eq_map_values d key h, List.map_map]
  rfl

theorem filter_values (k : κ) : (d.values.filter fun v => key v = k) = (d.get? k).toList := by
  have hkey := d.key_of_mem_entries key h
  have hfilter : (d.entries.filter fun entry => key entry.2 = k) =
      d.entries.filter fun entry => entry.1 = k := by
    apply List.filter_congr
    intro entry hentry
    rw [hkey entry hentry]
  rw [values, List.filter_map, Function.comp_def, hfilter, filter_entries k d.entries d.nodup]
  rfl

end Values

/-! ### Another dictionary over it -/

/-- What the other dictionary has counts. -/
theorem get?_foldl_set_entries (d e : Dict κ ν) (k : κ) :
    (e.entries.foldl (fun d entry => d.set entry.1 entry.2) d).get? k =
      (e.get? k).or (d.get? k) := by
  have hlast : ((e.entries.filter fun entry => entry.1 = k).getLast?).map Prod.snd = e.get? k := by
    rw [← List.getLast?_map, filter_entries k e.entries e.nodup, get?]
    cases find k e.entries with
    | none => rfl
    | some v => rfl
  rw [get?_foldl_set, hlast]

/-! ### A comprehension that may fail -/

section Traverse

variable {μ : Type*} (f : ν → Option μ)

/-- `{k: f(v) for k, v in d.items()}`, if no call fails. -/
def traverse (d : Dict κ ν) : Option (Dict κ μ) :=
  (d.entries.mapM fun entry => (f entry.2).map fun w => (entry.1, w)).map ofEntries

variable {f}

theorem mapM_entries {entries : List (κ × ν)}
    (h : ∀ entry ∈ entries, ∃ w, f entry.2 = some w) :
    ∃ later : List (κ × μ),
      (entries.mapM fun entry => (f entry.2).map fun w => (entry.1, w)) = some later ∧
        later.map Prod.fst = entries.map Prod.fst ∧ ∀ k, find k later = (find k entries).bind f := by
  induction entries with
  | nil => exact ⟨[], rfl, rfl, fun _ => rfl⟩
  | cons entry rest ih =>
    obtain ⟨j, v⟩ := entry
    obtain ⟨w, hw⟩ := h (j, v) List.mem_cons_self
    obtain ⟨later, hlater, hkeys, hfind⟩ := ih fun e he => h e (List.mem_cons_of_mem _ he)
    refine ⟨(j, w) :: later, ?_, ?_, ?_⟩
    · rw [List.mapM_cons, hlater]
      dsimp only at hw ⊢
      rw [hw]
      rfl
    · rw [List.map_cons, List.map_cons, hkeys]
    · intro k
      rw [find, find]
      split_ifs with hj
      · exact hw.symm
      · exact hfind k

theorem traverse_of_forall (d : Dict κ ν) (h : ∀ k v, d.get? k = some v → ∃ w, f v = some w) :
    ∃ e, d.traverse f = some e ∧ ∀ k, e.get? k = (d.get? k).bind f := by
  have hall : ∀ entry ∈ d.entries, ∃ w, f entry.2 = some w := fun entry hentry =>
    h entry.1 entry.2 (mem_entries_iff.mp hentry)
  obtain ⟨later, hlater, hkeys, hfind⟩ := mapM_entries hall
  have hnodup : (later.map Prod.fst).Nodup := by
    rw [hkeys]
    exact d.nodup
  refine ⟨ofEntries later, by rw [traverse, hlater]; rfl, ?_⟩
  intro k
  rw [get?, entries_ofEntries hnodup]
  exact hfind k

end Traverse

end Dict

instance {κ : Type u} {ν : Type v} [DecidableEq κ] [DecidableEq ν] : DecidableEq (Dict κ ν) :=
  fun _ _ => decidable_of_iff _ ⟨Dict.ext, congrArg Dict.entries⟩

end Framework
