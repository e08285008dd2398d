import Mathlib.Data.List.Basic
import Mathlib.Tactic.Common

/-!
# Incremental consumers

A consumer takes its input in pieces, keeps what it needs between two of them and gives results on
the way. Its laws say that where the input is cut does not matter.
-/

namespace Framework

universe u v w x

structure Incremental (σ : Type u) (α : Type v) (γ : Type w) where
  start : σ
  feed : σ → List α → σ × List γ
  feed_nil : ∀ s, feed s [] = (s, [])
  feed_append : ∀ s xs ys,
    feed s (xs ++ ys) = ((feed (feed s xs).1 ys).1, (feed s xs).2 ++ (feed (feed s xs).1 ys).2)

/-- Feeding piece after piece with any `feed`, the results one after another. -/
def feedAll {σ : Type u} {α : Type v} {γ : Type w} (feed : σ → α → σ × List γ) :
    σ → List α → σ × List γ
  | s, [] => (s, [])
  | s, piece :: pieces =>
    ((feedAll feed (feed s piece).1 pieces).1,
      (feed s piece).2 ++ (feedAll feed (feed s piece).1 pieces).2)

section FeedAll

variable {σ : Type u} {α : Type v} {γ : Type w} (feed : σ → α → σ × List γ)

@[simp] theorem feedAll_nil (s : σ) : feedAll feed s [] = (s, []) := rfl

theorem feedAll_cons (s : σ) (piece : α) (pieces : List α) :
    feedAll feed s (piece :: pieces) =
      ((feedAll feed (feed s piece).1 pieces).1,
        (feed s piece).2 ++ (feedAll feed (feed s piece).1 pieces).2) := rfl

theorem feedAll_append (s : σ) (xs ys : List α) :
    feedAll feed s (xs ++ ys) =
      ((feedAll feed (feedAll feed s xs).1 ys).1,
        (feedAll feed s xs).2 ++ (feedAll feed (feedAll feed s xs).1 ys).2) := by
  induction xs generalizing s with
  | nil => simp
  | cons x xs ih =>
    rw [List.cons_append, feedAll_cons, feedAll_cons, ih]
    simp only [List.append_assoc]

end FeedAll

namespace Incremental

variable {σ : Type u} {τ : Type x} {α : Type v} {β : Type v} {γ : Type w}

/-- The cuts do not matter: feeding the pieces is feeding the whole. -/
theorem feedAll_eq_feed_flatten (m : Incremental σ α γ) (s : σ) (pieces : List (List α)) :
    feedAll m.feed s pieces = m.feed s pieces.flatten := by
  induction pieces generalizing s with
  | nil => rw [feedAll_nil, List.flatten_nil, m.feed_nil]
  | cons piece pieces ih => rw [feedAll_cons, List.flatten_cons, m.feed_append, ih]

/-- A machine that takes one unit of input at a time. -/
def ofStep (start : σ) (step : σ → α → σ × List γ) : Incremental σ α γ where
  start := start
  feed := feedAll step
  feed_nil := feedAll_nil step
  feed_append := feedAll_append step

/-- One consumer behind another: the results of the first are the input of the second. -/
def pipe (m : Incremental σ α β) (n : Incremental τ β γ) : Incremental (σ × τ) α γ where
  start := (m.start, n.start)
  feed s xs :=
    (((m.feed s.1 xs).1, (n.feed s.2 (m.feed s.1 xs).2).1), (n.feed s.2 (m.feed s.1 xs).2).2)
  feed_nil s := by simp only [m.feed_nil, n.feed_nil]
  feed_append s xs ys := by simp only [m.feed_append, n.feed_append]

end Incremental

/-- A feed that does on related states what an incremental consumer does keeps doing so over any
pieces. -/
theorem feedAll_related {σ : Type u} {τ : Type x} {α : Type v} {γ : Type w}
    {feed : σ → α → σ × List γ} {feed' : τ → α → τ × List γ} {R : σ → τ → Prop}
    (step : ∀ {s t} (piece : α), R s t →
      R (feed s piece).1 (feed' t piece).1 ∧ (feed s piece).2 = (feed' t piece).2)
    {s : σ} {t : τ} (hst : R s t) (pieces : List α) :
    R (feedAll feed s pieces).1 (feedAll feed' t pieces).1 ∧
      (feedAll feed s pieces).2 = (feedAll feed' t pieces).2 := by
  induction pieces generalizing s t with
  | nil => exact ⟨hst, rfl⟩
  | cons piece pieces ih =>
    obtain ⟨hnext, hres⟩ := step piece hst
    obtain ⟨hlast, hrest⟩ := ih hnext
    rw [feedAll_cons, feedAll_cons, hres, hrest]
    exact ⟨hlast, rfl⟩

end Framework
