import Mathlib.Data.List.Nodup
import Mathlib.Tactic.Common

/-!
# Tables of records

A table keeps records under the key each record carries, in insertion order. The records are changed
in place, by updates that leave the key alone.
-/

namespace Framework

universe u v

structure Table {α : Type u} {κ : Type v} (key : α → κ) where
  records : List α
  nodup : (records.map key).Nodup

namespace Table

variable {α : Type u} {κ : Type v} {key : α → κ}

def empty : Table key := ⟨[], List.nodup_nil⟩

variable [DecidableEq κ]

def get? (t : Table key) (k : κ) : Option α := t.records.find? fun a => key a = k

theorem key_of_get? {t : Table key} {k : κ} {a : α} (h : t.get? k = some a) : key a = k := by
  simpa using List.find?_some h

theorem mem_of_get? {t : Table key} {k : κ} {a : α} (h : t.get? k = some a) : a ∈ t.records :=
  List.mem_of_find?_eq_some h

theorem get?_key {t : Table key} {a : α} (h : a ∈ t.records) : t.get? (key a) = some a := by
  have hunique : ∀ b ∈ t.records, key b = key a → b = a := fun b hb hkey =>
    List.inj_on_of_nodup_map t.nodup hb h hkey
  cases hfind : t.get? (key a) with
  | none =>
    have hnone := List.find?_eq_none.mp hfind a h
    simp at hnone
  | some b => rw [hunique b (mem_of_get? hfind) (key_of_get? hfind)]

/-- Change the record under `k`, if there is one. -/
def modify (t : Table key) (k : κ) (f : α → α) (hf : ∀ a, key (f a) = key a) : Table key where
  records := t.records.map fun a => if key a = k then f a else a
  nodup := by
    have hkeys : (t.records.map fun a => if key a = k then f a else a).map key =
        t.records.map key := by
      rw [List.map_map]
      apply List.map_congr_left
      intro a _
      by_cases ha : key a = k <;> simp [ha, hf]
    rw [hkeys]
    exact t.nodup

/-- Keep the record under its key, in the place of the one that is there. -/
def put (t : Table key) (a : α) : Table key where
  records :=
    if key a ∈ t.records.map key then t.records.map fun b => if key b = key a then a else b
    else t.records ++ [a]
  nodup := by
    split
    next =>
      have hkeys : (t.records.map fun b => if key b = key a then a else b).map key =
          t.records.map key := by
        rw [List.map_map]
        apply List.map_congr_left
        intro b _
        by_cases hb : key b = key a <;> simp [hb]
      rw [hkeys]
      exact t.nodup
    next hnew =>
      rw [List.map_append, List.map_singleton]
      exact t.nodup.append (List.nodup_singleton _) (List.disjoint_singleton.mpr hnew)

variable {f : α → α} {hf : ∀ a, key (f a) = key a}

theorem get?_modify (t : Table key) (k j : κ) :
    (t.modify k f hf).get? j = if j = k then (t.get? k).map f else t.get? j := by
  have hkey : ∀ a, key (if key a = k then f a else a) = key a := by
    intro a
    by_cases ha : key a = k <;> simp [ha, hf]
  rw [get?, modify, List.find?_map]
  simp only [Function.comp_def, hkey]
  by_cases hj : j = k
  · subst hj
    rw [if_pos rfl]
    cases hfind : t.get? j with
    | none => rw [get?] at hfind; simp [hfind]
    | some a =>
      have ha : key a = j := key_of_get? hfind
      rw [get?] at hfind
      simp [hfind, ha]
  · rw [if_neg hj]
    cases hfind : t.get? j with
    | none => rw [get?] at hfind; simp [hfind]
    | some a =>
      have ha : key a = j := key_of_get? hfind
      have hne : ¬ key a = k := fun h => hj (ha.symm.trans h)
      rw [get?] at hfind
      simp [hfind, hne]

end Table

end Framework
