import Mathlib.Data.List.Basic
import Mathlib.Tactic.Common

/-!
# Readers

A reader takes one value off the front of a list of items. `Reads` says which items a value is
written with: the reader takes exactly these, whatever follows. The lemmas go by the structure of
the reader, so that a grammar and its writer are compared field by field.
-/

namespace Framework

abbrev Reader (α β : Type) := StateT (List α) Option β

namespace Reader

variable {α β γ : Type}

/-- The next item. -/
def item : Reader α α
  | [] => none
  | a :: rest => some (a, rest)

/-- The next `n` items. -/
def items (n : Nat) : Reader α (List α) := fun input =>
  if n ≤ input.length then some (input.take n, input.drop n) else none

/-- Values up to the end of the input, at most `fuel` of them. -/
def toEnd (r : Reader α β) : Nat → List α → Option (List β)
  | _, [] => some []
  | 0, _ :: _ => none
  | fuel + 1, input => do
    let (value, rest) ← r input
    let values ← toEnd r fuel rest
    return value :: values

/-- Every value takes up input, so the length of the input is fuel enough. -/
def all (r : Reader α β) (input : List α) : Option (List β) := toEnd r input.length input

/-- The value when it takes up the whole input. -/
def whole (r : Reader α β) (input : List α) : Option β :=
  match r input with
  | some (value, []) => some value
  | _ => none

/-- Off any input that begins with `code` the reader takes `code`, and yields `value`. -/
def Reads (r : Reader α β) (code : List α) (value : β) : Prop :=
  ∀ rest, r (code ++ rest) = some (value, rest)

namespace Reads

theorem pure (value : β) : Reads (Pure.pure value : Reader α β) [] value := fun _ => rfl

theorem bind {r : Reader α β} {f : β → Reader α γ} {front back : List α} {b : β} {c : γ}
    (hr : Reads r front b) (hf : Reads (f b) back c) : Reads (r >>= f) (front ++ back) c := by
  intro rest
  have hfront := hr (back ++ rest)
  have hback := hf rest
  simp only [Bind.bind, StateT.bind, Option.bind, List.append_assoc, hfront]
  exact hback

theorem map {r : Reader α β} (f : β → γ) {code : List α} {b : β} (hr : Reads r code b) :
    Reads (f <$> r) code (f b) := by
  intro rest
  simp only [Functor.map, StateT.map, hr rest]
  rfl

theorem guard_then {p : Prop} [Decidable p] (h : p) {r : Reader α β} {code : List α} {b : β}
    (hr : Reads r code b) : Reads (do guard p; r) code b := by
  intro rest
  have hrest := hr rest
  simp only [guard, if_pos h]
  exact hrest

theorem item (a : α) : Reads Reader.item [a] a := fun _ => rfl

theorem items (code : List α) : Reads (Reader.items code.length) code code := by
  intro rest
  simp [Reader.items]

theorem whole {r : Reader α β} {code : List α} {value : β} (h : Reads r code value) :
    r.whole code = some value := by
  have hcode := h []
  rw [List.append_nil] at hcode
  simp [Reader.whole, hcode]

end Reads

theorem toEnd_flatMap {r : Reader α β} {code : β → List α} {values : List β}
    (hne : ∀ value ∈ values, code value ≠ [])
    (hreads : ∀ value ∈ values, Reads r (code value) value) {fuel : Nat}
    (hfuel : (values.flatMap code).length ≤ fuel) :
    toEnd r fuel (values.flatMap code) = some values := by
  induction values generalizing fuel with
  | nil => cases fuel <;> rfl
  | cons value values ih =>
    have hcode := hne value (by simp)
    have hread := hreads value (by simp) (values.flatMap code)
    obtain ⟨a, more, hmore⟩ := List.exists_cons_of_ne_nil hcode
    rw [List.flatMap_cons, hmore] at hfuel ⊢
    rw [hmore] at hread
    simp only [List.cons_append, List.length_cons, List.length_append] at hfuel hread ⊢
    obtain ⟨fuel, rfl⟩ : ∃ n, fuel = n + 1 := ⟨fuel - 1, by omega⟩
    have hlater : toEnd r fuel (values.flatMap code) = some values :=
      ih (fun v hv => hne v (by simp [hv])) (fun v hv => hreads v (by simp [hv])) (by omega)
    simp only [toEnd, hread, hlater, Option.bind_eq_bind, Option.bind_some, Option.pure_def]

/-- A list of values written one behind the other is read back. -/
theorem all_flatMap {r : Reader α β} {code : β → List α} {values : List β}
    (hne : ∀ value ∈ values, code value ≠ [])
    (hreads : ∀ value ∈ values, Reads r (code value) value) :
    r.all (values.flatMap code) = some values :=
  toEnd_flatMap hne hreads (Nat.le_refl _)

end Reader

end Framework
