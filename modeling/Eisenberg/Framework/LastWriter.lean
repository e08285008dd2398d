import Mathlib.Data.List.Basic
import Mathlib.Tactic.Common

/-!
# Last writer wins, field by field

A store maps a key and a field to a value. A write names a key and gives values to some of its
fields. After any sequence of writes a field holds what the last write that mentioned it said.
-/

namespace Framework

universe u v w

structure Write (κ : Type u) (φ : Type v) (ν : Type w) where
  key : κ
  value : φ → Option ν

namespace Write

variable {κ : Type u} {φ : Type v} {ν : Type w} [DecidableEq κ]

/-- What the write says about a field of a key. -/
def at? (w : Write κ φ ν) (k : κ) (f : φ) : Option ν :=
  if w.key = k then w.value f else none

def apply (store : κ → φ → Option ν) (w : Write κ φ ν) : κ → φ → Option ν :=
  fun k f => (w.at? k f).or (store k f)

theorem apply_of_none {store : κ → φ → Option ν} {w : Write κ φ ν} {f : φ} (h : w.value f = none)
    (k : κ) : apply store w k f = store k f := by
  rw [apply, at?, h, ite_self, Option.none_or]

/-- The last value the writes give to the field. -/
def last (ws : List (Write κ φ ν)) (k : κ) (f : φ) : Option ν :=
  (ws.filterMap fun w => w.at? k f).getLast?

theorem last_append (ws vs : List (Write κ φ ν)) (k : κ) (f : φ) :
    last (ws ++ vs) k f = (last vs k f).or (last ws k f) := by
  rw [last, List.filterMap_append, List.getLast?_append]
  rfl

theorem last_cons (w : Write κ φ ν) (ws : List (Write κ φ ν)) (k : κ) (f : φ) :
    last (w :: ws) k f = (last ws k f).or (w.at? k f) := by
  rw [← List.singleton_append, last_append]
  cases h : w.at? k f <;> simp [last, h]

/-- The law: the last value written, or what was there before. -/
theorem foldl_apply (ws : List (Write κ φ ν)) (store : κ → φ → Option ν) (k : κ) (f : φ) :
    ws.foldl apply store k f = (last ws k f).or (store k f) := by
  induction ws generalizing store with
  | nil => rfl
  | cons w ws ih =>
    rw [List.foldl_cons, ih, last_cons, apply, Option.or_assoc]

end Write

end Framework
