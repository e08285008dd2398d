import Mathlib.Data.List.Basic
import Mathlib.Tactic.Common

/-!
# Transition systems

A machine takes a step by performing an action that is possible in its state. Everything else is a
fact about runs: an invariant of the steps is an invariant of the runs, and a run splits where its
list of actions does.
-/

namespace Framework

universe u v

structure Machine (σ : Type u) (α : Type v) where
  step : σ → α → Option σ

namespace Machine

variable {σ : Type u} {α : Type v} (m : Machine σ α)

def run : σ → List α → Option σ
  | s, [] => some s
  | s, a :: as => (m.step s a).bind fun s => run s as

@[simp] theorem run_nil (s : σ) : m.run s [] = some s := rfl

theorem run_cons (s : σ) (a : α) (as : List α) :
    m.run s (a :: as) = (m.step s a).bind fun s => m.run s as := rfl

theorem run_cons_eq_some {s t : σ} {a : α} {as : List α} :
    m.run s (a :: as) = some t ↔ ∃ u, m.step s a = some u ∧ m.run u as = some t := by
  simp [run_cons, Option.bind_eq_some_iff]

theorem run_append (s : σ) (as bs : List α) :
    m.run s (as ++ bs) = (m.run s as).bind fun t => m.run t bs := by
  induction as generalizing s with
  | nil => rfl
  | cons a as ih =>
    rw [List.cons_append, run_cons, run_cons, Option.bind_assoc]
    congr 1
    funext u
    exact ih u

theorem run_concat_eq_some {s t : σ} {a : α} {as : List α} :
    m.run s (as ++ [a]) = some t ↔ ∃ u, m.run s as = some u ∧ m.step u a = some t := by
  simp [run_append, run_cons, Option.bind_eq_some_iff]

/-- What every step preserves, every run preserves. -/
theorem run_invariant {I : σ → Prop} (hstep : ∀ s a s', I s → m.step s a = some s' → I s')
    {s t : σ} {as : List α} (hs : I s) (hrun : m.run s as = some t) : I t := by
  induction as generalizing s with
  | nil =>
    cases hrun
    exact hs
  | cons a as ih =>
    obtain ⟨u, hu, hrest⟩ := m.run_cons_eq_some.mp hrun
    exact ih (hstep s a u hs hu) hrest

def Reachable (s t : σ) : Prop := ∃ as, m.run s as = some t

theorem Reachable.invariant {m : Machine σ α} {I : σ → Prop} {s t : σ} (h : m.Reachable s t)
    (hs : I s) (hstep : ∀ s a s', I s → m.step s a = some s' → I s') : I t := by
  obtain ⟨as, has⟩ := h
  exact m.run_invariant hstep hs has

/-- The machine that performs the allowed actions only. -/
def restrict (allowed : α → Bool) : Machine σ α where
  step s a := if allowed a then m.step s a else none

theorem step_of_restrict {allowed : α → Bool} {s t : σ} {a : α}
    (h : (m.restrict allowed).step s a = some t) : allowed a = true ∧ m.step s a = some t := by
  by_cases ha : allowed a = true
  · exact ⟨ha, by simpa [restrict, ha] using h⟩
  · simp [restrict, ha] at h

theorem run_of_restrict {allowed : α → Bool} {s t : σ} {as : List α}
    (h : (m.restrict allowed).run s as = some t) : m.run s as = some t := by
  induction as generalizing s with
  | nil => exact h
  | cons a as ih =>
    obtain ⟨u, hu, hrest⟩ := (m.restrict allowed).run_cons_eq_some.mp h
    exact m.run_cons_eq_some.mpr ⟨u, (m.step_of_restrict hu).2, ih hrest⟩

theorem Reachable.of_restrict {m : Machine σ α} {allowed : α → Bool} {s t : σ}
    (h : (m.restrict allowed).Reachable s t) : m.Reachable s t := by
  obtain ⟨as, has⟩ := h
  exact ⟨as, m.run_of_restrict has⟩

/-- Every step of the run meets a condition on the state before it and the action. -/
def Along (C : σ → α → Prop) : σ → List α → Prop
  | _, [] => True
  | s, a :: as => C s a ∧ ∀ t, m.step s a = some t → Along C t as

theorem along_cons_of_step {C : σ → α → Prop} {s t : σ} {a : α} {as : List α}
    (ha : m.step s a = some t) : m.Along C s (a :: as) ↔ C s a ∧ m.Along C t as := by
  constructor
  · rintro ⟨hmeets, hrest⟩
    exact ⟨hmeets, hrest t ha⟩
  · rintro ⟨hmeets, hrest⟩
    refine ⟨hmeets, ?_⟩
    intro u hu
    rw [ha] at hu
    cases hu
    exact hrest

instance decidableAlong {C : σ → α → Prop} [∀ s a, Decidable (C s a)] :
    ∀ (s : σ) (as : List α), Decidable (m.Along C s as)
  | _, [] => isTrue trivial
  | s, a :: as =>
    match h : m.step s a with
    | none => decidable_of_iff (C s a) (by simp [Along, h])
    | some t =>
      have : Decidable (m.Along C t as) := decidableAlong t as
      decidable_of_iff (C s a ∧ m.Along C t as) (m.along_cons_of_step h).symm

/-- A run that meets the condition goes on meeting it where a part of it has ended. -/
theorem Along.of_append {m : Machine σ α} {C : σ → α → Prop} {s t : σ} {as bs : List α}
    (h : m.Along C s (as ++ bs)) (hrun : m.run s as = some t) : m.Along C t bs := by
  induction as generalizing s with
  | nil =>
    cases hrun
    exact h
  | cons a as ih =>
    obtain ⟨u, hu, hrest⟩ := m.run_cons_eq_some.mp hrun
    exact ih (h.2 u hu) hrest

/-- What the steps that meet the condition preserve, the runs that meet it preserve. -/
theorem Along.invariant {m : Machine σ α} {C : σ → α → Prop} {I : σ → Prop} {s t : σ}
    {as : List α} (h : m.Along C s as)
    (hstep : ∀ s a s', I s → C s a → m.step s a = some s' → I s') (hs : I s)
    (hrun : m.run s as = some t) : I t := by
  induction as generalizing s with
  | nil =>
    cases hrun
    exact hs
  | cons a as ih =>
    obtain ⟨u, hu, hrest⟩ := m.run_cons_eq_some.mp hrun
    exact ih (h.2 u hu) (hstep s a u hs h.1 hu) hrest

/-- A run that meets one condition meets another that follows from it in the states an invariant
allows. -/
theorem Along.imp {m : Machine σ α} {C D : σ → α → Prop} {I : σ → Prop} {s : σ} {as : List α}
    (h : m.Along C s as) (hstep : ∀ s a s', I s → C s a → m.step s a = some s' → I s')
    (himp : ∀ s a, I s → C s a → D s a) (hs : I s) : m.Along D s as := by
  induction as generalizing s with
  | nil => exact trivial
  | cons a as ih =>
    refine ⟨himp s a hs h.1, ?_⟩
    intro t ht
    exact ih (h.2 t ht) (hstep s a t hs h.1 ht)

/-- Two conditions that agree in the states an invariant allows are met by the same runs. -/
theorem along_congr {C D : σ → α → Prop} {I : σ → Prop}
    (hstep : ∀ s a s', I s → m.step s a = some s' → I s')
    (hiff : ∀ s a, I s → (C s a ↔ D s a)) {s : σ} {as : List α} (hs : I s) :
    m.Along C s as ↔ m.Along D s as := by
  induction as generalizing s with
  | nil => exact Iff.rfl
  | cons a as ih =>
    refine and_congr (hiff s a hs) (forall_congr' fun t => imp_congr_right fun ht => ?_)
    exact ih (hstep s a t hs ht)

/-- The same where only the steps that meet the condition keep the invariant. -/
theorem along_congr_of {C D : σ → α → Prop} {I : σ → Prop}
    (hstep : ∀ s a s', I s → C s a → m.step s a = some s' → I s')
    (hiff : ∀ s a, I s → (C s a ↔ D s a)) {s : σ} {as : List α} (hs : I s) :
    m.Along C s as ↔ m.Along D s as := by
  induction as generalizing s with
  | nil => exact Iff.rfl
  | cons a as ih =>
    constructor
    · rintro ⟨hmeets, hrest⟩
      refine ⟨(hiff s a hs).mp hmeets, ?_⟩
      intro t ht
      exact (ih (hstep s a t hs hmeets ht)).mp (hrest t ht)
    · rintro ⟨hmeets, hrest⟩
      have hcond := (hiff s a hs).mpr hmeets
      refine ⟨hcond, ?_⟩
      intro t ht
      exact (ih (hstep s a t hs hcond ht)).mpr (hrest t ht)

end Machine

end Framework
