import Mathlib.Data.List.TakeWhile

/-!
# What comes before a separator

A text is read up to the first separator in it, and from there on.
-/

namespace Framework

universe u

variable {α : Type u} [DecidableEq α] {sep : α} {text first : List α}

theorem ne_of_sep_not_mem (h : sep ∉ text) : ∀ c ∈ text, decide (c ≠ sep) = true := by
  intro c hc
  rw [decide_eq_true_eq]
  rintro rfl
  exact h hc

theorem takeWhile_of_sep_not_mem (h : sep ∉ text) : text.takeWhile (· ≠ sep) = text :=
  List.takeWhile_eq_self_iff.mpr (ne_of_sep_not_mem h)

theorem dropWhile_of_sep_not_mem (h : sep ∉ text) : text.dropWhile (· ≠ sep) = [] :=
  List.dropWhile_eq_nil_iff.mpr (ne_of_sep_not_mem h)

theorem sep_not_mem_takeWhile (sep : α) (text : List α) : sep ∉ text.takeWhile (· ≠ sep) := by
  intro h
  have hne := List.mem_takeWhile_imp h
  simp at hne

theorem takeWhile_append_sep (first rest : List α) :
    (first ++ sep :: rest).takeWhile (· ≠ sep) = first.takeWhile (· ≠ sep) := by
  induction first with
  | nil => simp
  | cons c first ih =>
    by_cases hc : c = sep
    · simp [hc]
    · simpa [hc] using ih

theorem dropWhile_append_sep (h : sep ∉ first) (rest : List α) :
    (first ++ sep :: rest).dropWhile (· ≠ sep) = sep :: rest := by
  rw [List.dropWhile_append_of_pos (ne_of_sep_not_mem h)]
  simp

/-- What is left at the first separator. -/
theorem dropWhile_eq_cons_iff {c : α} {rest : List α} :
    text.dropWhile (· ≠ sep) = c :: rest ↔
      ∃ first, sep ∉ first ∧ c = sep ∧ text = first ++ sep :: rest := by
  constructor
  · intro h
    have hhead := List.head?_dropWhile_not (fun a => decide (a ≠ sep)) text
    rw [h] at hhead
    have hsep : c = sep := by simpa using hhead
    refine ⟨text.takeWhile (· ≠ sep), sep_not_mem_takeWhile sep text, hsep, ?_⟩
    have hsplit := List.takeWhile_append_dropWhile (p := fun a => decide (a ≠ sep)) (l := text)
    rw [h, hsep] at hsplit
    exact hsplit.symm
  · rintro ⟨first, hfirst, rfl, rfl⟩
    exact dropWhile_append_sep hfirst rest

end Framework
