import Eisenberg.Framework.Incremental

/-!
# Loops that are left early

A `for` loop whose body may leave it with a result, and two of them nested: the outer loop feeds an
incremental consumer, the inner one goes over the results. The nesting does not matter: the loops are
one loop over all results.
-/

namespace Framework

universe u v w x y

variable {σ : Type u} {α : Type v} {ρ : Type w}

/-- A loop over a list; the body gives a result to leave it with. -/
def forUntil (body : σ → α → σ × Option ρ) : σ → List α → σ × Option ρ
  | s, [] => (s, none)
  | s, x :: xs =>
    match body s x with
    | (t, some r) => (t, some r)
    | (t, none) => forUntil body t xs

section ForUntil

variable {body : σ → α → σ × Option ρ}

@[simp] theorem forUntil_nil (s : σ) : forUntil body s [] = (s, none) := rfl

theorem forUntil_cons_exit {s t : σ} {x : α} {r : ρ} (h : body s x = (t, some r)) (xs : List α) :
    forUntil body s (x :: xs) = (t, some r) := by
  simp only [forUntil, h]

theorem forUntil_cons_next {s t : σ} {x : α} (h : body s x = (t, none)) (xs : List α) :
    forUntil body s (x :: xs) = forUntil body t xs := by
  simp only [forUntil, h]

/-- Left in the first part, a loop does not look at the second. -/
theorem forUntil_append_exit {s t : σ} {xs : List α} {r : ρ}
    (h : forUntil body s xs = (t, some r)) (ys : List α) :
    forUntil body s (xs ++ ys) = (t, some r) := by
  induction xs generalizing s with
  | nil => cases h
  | cons x xs ih =>
    rw [List.cons_append]
    rcases hbody : body s x with ⟨s', left | left⟩
    · rw [forUntil_cons_next hbody] at h ⊢
      exact ih h
    · rw [forUntil_cons_exit hbody] at h ⊢
      exact h

theorem forUntil_append_next {s t : σ} {xs : List α} (h : forUntil body s xs = (t, none))
    (ys : List α) : forUntil body s (xs ++ ys) = forUntil body t ys := by
  induction xs generalizing s with
  | nil =>
    cases h
    rfl
  | cons x xs ih =>
    rw [List.cons_append]
    rcases hbody : body s x with ⟨s', left | left⟩
    · rw [forUntil_cons_next hbody] at h ⊢
      exact ih h
    · rw [forUntil_cons_exit hbody] at h
      cases h

end ForUntil

section Nested

variable {τ : Type x} {β : Type y} (feed : τ → β → τ × List α) (body : σ → α → σ × Option ρ)

/-- Piece after piece is fed, and the inner loop goes over its results. -/
def feedUntil : τ → σ → List β → σ × Option ρ
  | _, s, [] => (s, none)
  | t, s, piece :: pieces =>
    match forUntil body s (feed t piece).2 with
    | (s', some r) => (s', some r)
    | (s', none) => feedUntil (feed t piece).1 s' pieces

theorem feedUntil_eq (t : τ) (s : σ) (pieces : List β) :
    feedUntil feed body t s pieces = forUntil body s (feedAll feed t pieces).2 := by
  induction pieces generalizing t s with
  | nil => rfl
  | cons piece pieces ih =>
    rw [feedUntil, feedAll_cons]
    rcases hinner : forUntil body s (feed t piece).2 with ⟨s', left | left⟩
    · rw [forUntil_append_next hinner]
      exact ih _ _
    · rw [forUntil_append_exit hinner]

end Nested

end Framework
