import Eisenberg.Framework.Frame
import Eisenberg.Framework.Runs

/-!
# What a run exchanges

The requests of a run alone with their answers, in order, and programs that stop on an answer of a
certain kind: it is the last one, and the run raises.
-/

namespace Framework.Co

variable {σ ε ι α β : Type} {ρ : ι → Type}

/-- The requests of the run from the `n`-th answer on, each with its answer. -/
def trace (answers : Nat → (i : ι) → Except ε (ρ i)) :
    Nat → Co σ ε ρ α → σ → List ((i : ι) × Except ε (ρ i))
  | _, ret _, _ => []
  | n, get k, s => trace answers n (k s) s
  | n, set s k, _ => trace answers n k s
  | n, call i k, s => ⟨i, answers n i⟩ :: trace answers (n + 1) (k (answers n i)) s

variable {answers : Nat → (i : ι) → Except ε (ρ i)} {n : Nat} {s : σ}

/-- What the rest of a run exchanges, given how its first part has ended. -/
def traceThen (answers : Nat → (i : ι) → Except ε (ρ i)) (f : α → Co σ ε ρ β) :
    σ × Except ε α × Nat → List ((i : ι) × Except ε (ρ i))
  | (s, .ok a, n) => (f a).trace answers n s
  | (_, .error _, _) => []

theorem trace_bind (c : Co σ ε ρ α) (f : α → Co σ ε ρ β) :
    (c >>= f).trace answers n s =
      c.trace answers n s ++ traceThen answers f (c.run answers n s) := by
  rw [bind_def]
  induction c generalizing n s with
  | ret result =>
    cases result with
    | ok a => rfl
    | error e => rfl
  | get k ih => exact ih s
  | set t k ih => exact ih
  | call i k ih => exact congrArg (List.cons _) (ih (answers n i))

def traceElse (answers : Nat → (i : ι) → Except ε (ρ i)) (f : ε → Co σ ε ρ α) :
    σ × Except ε α × Nat → List ((i : ι) × Except ε (ρ i))
  | (_, .ok _, _) => []
  | (s, .error e, n) => (f e).trace answers n s

theorem trace_tryCatch (c : Co σ ε ρ α) (f : ε → Co σ ε ρ α) :
    (tryCatch c f).trace answers n s =
      c.trace answers n s ++ traceElse answers f (c.run answers n s) := by
  rw [tryCatch_def]
  induction c generalizing n s with
  | ret result =>
    cases result with
    | ok a => rfl
    | error e => rfl
  | get k ih => exact ih s
  | set t k ih => exact ih
  | call i k ih => exact congrArg (List.cons _) (ih (answers n i))

@[simp] theorem trace_pure (a : α) : (pure a : Co σ ε ρ α).trace answers n s = [] := rfl

@[simp] theorem trace_throw (e : ε) : (throw e : Co σ ε ρ α).trace answers n s = [] := rfl

@[simp] theorem trace_get : (MonadState.get : Co σ ε ρ σ).trace answers n s = [] := rfl

@[simp] theorem trace_modify (f : σ → σ) :
    (modify f : Co σ ε ρ Unit).trace answers n s = [] := rfl

@[simp] theorem trace_await (i : ι) :
    (await i : Co σ ε ρ (ρ i)).trace answers n s = [⟨i, answers n i⟩] := rfl

@[simp] theorem traceThen_ok (f : α → Co σ ε ρ β) (a : α) :
    traceThen answers f (s, .ok a, n) = (f a).trace answers n s := rfl

@[simp] theorem traceThen_error (f : α → Co σ ε ρ β) (e : ε) :
    traceThen answers f (s, .error e, n) = [] := rfl

@[simp] theorem traceElse_ok (f : ε → Co σ ε ρ α) (a : α) :
    traceElse answers f (s, .ok a, n) = [] := rfl

@[simp] theorem traceElse_error (f : ε → Co σ ε ρ α) (e : ε) :
    traceElse answers f (s, .error e, n) = (f e).trace answers n s := rfl

/-- What is exchanged is answered by the answers of the run. -/
theorem answer_of_mem_trace {c : Co σ ε ρ α} {x : (i : ι) × Except ε (ρ i)}
    (hx : x ∈ c.trace answers n s) : ∃ m, x.2 = answers m x.1 := by
  induction c generalizing n s with
  | ret result => cases hx
  | get k ih => exact ih s hx
  | set t k ih => exact ih hx
  | call i k ih =>
    rcases List.mem_cons.mp hx with rfl | hx
    · exact ⟨n, rfl⟩
    · exact ih (answers n i) hx

/-- What ends before its first request exchanges nothing. -/
theorem run_of_advance_done {c : Co σ ε ρ α} {t : σ} {result : Except ε α}
    (answers : Nat → (i : ι) → Except ε (ρ i)) (n : Nat)
    (h : c.advance s = (t, .done result)) :
    c.run answers n s = (t, result, n) ∧ c.trace answers n s = [] := by
  induction c generalizing s with
  | ret r =>
    cases h
    exact ⟨rfl, rfl⟩
  | get k ih => exact ih s h
  | set u k ih => exact ih h
  | call i k => cases h

theorem run_of_advance_waiting {c : Co σ ε ρ α} {t : σ} {i : ι}
    {k : Except ε (ρ i) → Co σ ε ρ α} (answers : Nat → (i : ι) → Except ε (ρ i)) (n : Nat)
    (h : c.advance s = (t, .waiting i k)) :
    c.run answers n s = (k (answers n i)).run answers (n + 1) t ∧
      c.trace answers n s = ⟨i, answers n i⟩ :: (k (answers n i)).trace answers (n + 1) t := by
  induction c generalizing s with
  | ret r => cases h
  | get k ih => exact ih s h
  | set u k ih => exact ih h
  | call j k =>
    cases h
    exact ⟨rfl, rfl⟩

/-- Two programs that reach the same first stop run alike and exchange the same. -/
theorem run_congr_advance {c d : Co σ ε ρ α} (answers : Nat → (i : ι) → Except ε (ρ i)) (n : Nat)
    (h : c.advance s = d.advance s) :
    c.run answers n s = d.run answers n s ∧ c.trace answers n s = d.trace answers n s := by
  cases hd : d.advance s with
  | mk t stop =>
    rw [hd] at h
    cases stop with
    | done result =>
      obtain ⟨hrun, htrace⟩ := run_of_advance_done answers n h
      obtain ⟨hrun', htrace'⟩ := run_of_advance_done answers n hd
      exact ⟨hrun.trans hrun'.symm, htrace.trans htrace'.symm⟩
    | waiting i k =>
      obtain ⟨hrun, htrace⟩ := run_of_advance_waiting answers n h
      obtain ⟨hrun', htrace'⟩ := run_of_advance_waiting answers n hd
      exact ⟨hrun.trans hrun'.symm, htrace.trans htrace'.symm⟩

/-- Nothing more is sent, and what is raised is of this kind. -/
def Ends (raises : ε → Prop) (answers : Nat → (i : ι) → Except ε (ρ i)) (n : Nat)
    (c : Co σ ε ρ α) (s : σ) : Prop :=
  c.trace answers n s = [] ∧ ∃ e, (c.runWith answers n s).2 = .error e ∧ raises e

/-- A bad answer is the last one, and the run raises an exception of this kind. -/
def StopsOn (bad : (i : ι) → Except ε (ρ i) → Prop) (raises : ε → Prop)
    (answers : Nat → (i : ι) → Except ε (ρ i)) (n : Nat) (c : Co σ ε ρ α) (s : σ) : Prop :=
  ∀ before i r after, c.trace answers n s = before ++ ⟨i, r⟩ :: after → bad i r →
    after = [] ∧ ∃ e, (c.runWith answers n s).2 = .error e ∧ raises e

/-- The run meets no answer of this kind. -/
def Avoids (bad : (i : ι) → Except ε (ρ i) → Prop) (answers : Nat → (i : ι) → Except ε (ρ i))
    (n : Nat) (c : Co σ ε ρ α) (s : σ) : Prop :=
  ∀ x ∈ c.trace answers n s, ¬ bad x.1 x.2

section Rules

variable {bad worse : (i : ι) → Except ε (ρ i) → Prop} {raises : ε → Prop}

theorem stopsOn_call_iff {i : ι} {k : Except ε (ρ i) → Co σ ε ρ α} :
    StopsOn bad raises answers n (call i k) s ↔
      (bad i (answers n i) → Ends raises answers (n + 1) (k (answers n i)) s) ∧
        StopsOn bad raises answers (n + 1) (k (answers n i)) s := by
  constructor
  · intro h
    constructor
    · intro hbad
      exact h [] i (answers n i) _ rfl hbad
    · intro before j r after htrace hbad
      have hcall : (call i k).trace answers n s =
          (⟨i, answers n i⟩ :: before) ++ ⟨j, r⟩ :: after := by
        rw [trace, htrace]
        rfl
      exact h _ j r after hcall hbad
  · rintro ⟨hfirst, hrest⟩ before j r after htrace hbad
    rw [trace] at htrace
    cases before with
    | nil =>
      obtain ⟨hhead, htail⟩ := List.cons.inj htrace
      cases hhead
      rw [← htail]
      exact hfirst hbad
    | cons x before =>
      obtain ⟨-, htail⟩ := List.cons.inj htrace
      exact hrest before j r after htail hbad

theorem avoids_call_iff {i : ι} {k : Except ε (ρ i) → Co σ ε ρ α} :
    Avoids bad answers n (call i k) s ↔
      ¬ bad i (answers n i) ∧ Avoids bad answers (n + 1) (k (answers n i)) s := by
  unfold Avoids
  rw [trace, List.forall_mem_cons]

/-- The run stops on the bad answers exactly if it meets none of the worse ones. -/
def StopsUnless (bad worse : (i : ι) → Except ε (ρ i) → Prop) (raises : ε → Prop)
    (answers : Nat → (i : ι) → Except ε (ρ i)) (n : Nat) (c : Co σ ε ρ α) (s : σ) : Prop :=
  StopsOn bad raises answers n c s ↔ Avoids worse answers n c s

theorem stopsUnless_of_quiet {c : Co σ ε ρ α} (h : c.trace answers n s = []) :
    StopsUnless bad worse raises answers n c s := by
  apply iff_of_true
  · intro before i r after htrace
    rw [h] at htrace
    simp at htrace
  · intro x hx
    rw [h] at hx
    cases hx

theorem stopsUnless_call {i : ι} {k : Except ε (ρ i) → Co σ ε ρ α}
    (hworse : worse i (answers n i) → bad i (answers n i) ∧
      ¬ Ends raises answers (n + 1) (k (answers n i)) s)
    (hbad : bad i (answers n i) → ¬ worse i (answers n i) →
      Ends raises answers (n + 1) (k (answers n i)) s)
    (hrest : StopsUnless bad worse raises answers (n + 1) (k (answers n i)) s) :
    StopsUnless bad worse raises answers n (call i k) s := by
  unfold StopsUnless at hrest ⊢
  rw [stopsOn_call_iff, avoids_call_iff, hrest]
  constructor
  · rintro ⟨hends, havoids⟩
    refine ⟨?_, havoids⟩
    intro h
    exact (hworse h).2 (hends (hworse h).1)
  · rintro ⟨hnot, havoids⟩
    exact ⟨fun h => hbad h hnot, havoids⟩

/-- The run returns exactly if it meets no bad answer. -/
def ReturnsUnless (bad : (i : ι) → Except ε (ρ i) → Prop)
    (answers : Nat → (i : ι) → Except ε (ρ i)) (c : Co σ ε ρ α) : Prop :=
  ∀ n s, (∃ a, (c.run answers n s).2.1 = .ok a) ↔ c.Avoids bad answers n s

theorem avoids_bind {c : Co σ ε ρ α} {f : α → Co σ ε ρ β} :
    Avoids bad answers n (c >>= f) s ↔ Avoids bad answers n c s ∧
      ∀ x ∈ traceThen answers f (c.run answers n s), ¬ bad x.1 x.2 := by
  unfold Avoids
  rw [trace_bind, List.forall_mem_append]

theorem returnsUnless_pure (a : α) :
    ReturnsUnless bad answers (pure a : Co σ ε ρ α) := by
  intro n s
  apply iff_of_true ⟨a, rfl⟩
  intro x hx
  cases hx

theorem returnsUnless_modify (g : σ → σ) :
    ReturnsUnless bad answers (modify g : Co σ ε ρ Unit) := by
  intro n s
  apply iff_of_true ⟨(), rfl⟩
  intro x hx
  cases hx

theorem returnsUnless_get {k : σ → Co σ ε ρ α} (h : ∀ s, ReturnsUnless bad answers (k s)) :
    ReturnsUnless bad answers (get k) := fun n s => h s n s

theorem ReturnsUnless.bind {c : Co σ ε ρ α} {f : α → Co σ ε ρ β}
    (hc : ReturnsUnless bad answers c) (hf : ∀ a, ReturnsUnless bad answers (f a)) :
    ReturnsUnless bad answers (c >>= f) := by
  intro n s
  have hfirst := hc n s
  rw [avoids_bind, run_bind]
  cases hrun : c.run answers n s with
  | mk t rest =>
    rw [hrun] at hfirst
    obtain ⟨result, m⟩ := rest
    cases result with
    | ok a =>
      rw [and_iff_right (hfirst.mp ⟨a, rfl⟩)]
      exact hf a m t
    | error e =>
      have hmet : ¬ Avoids bad answers n c s := by
        rw [← hfirst]
        rintro ⟨a, ⟨⟩⟩
      exact iff_of_false (by simp) fun h => hmet h.1

end Rules

section Zoom

variable {τ : Type} {view : τ → σ} {update : σ → τ → τ}

/-- On a part of a state the run is the same, and leaves the rest alone. -/
theorem run_zoom (hview : ∀ s t, view (update s t) = s) (hself : ∀ t, update (view t) t = t)
    (hupdate : ∀ s s' t, update s (update s' t) = update s t) (c : Co σ ε ρ α) (t : τ) :
    (c.zoom view update).run answers n t =
      (update (c.run answers n (view t)).1 t, (c.run answers n (view t)).2) := by
  induction c generalizing n t with
  | ret result => exact congrArg (·, result, n) (hself t).symm
  | get k ih => exact ih (view t) t
  | set s k ih =>
    show (k.zoom view update).run answers n (update s t) = _
    rw [ih, hview, hupdate]
    rfl
  | call i k ih => exact ih (answers n i) t

theorem trace_zoom (hview : ∀ s t, view (update s t) = s) (c : Co σ ε ρ α) (t : τ) :
    (c.zoom view update).trace answers n t = c.trace answers n (view t) := by
  induction c generalizing n t with
  | ret result => rfl
  | get k ih => exact ih (view t) t
  | set s k ih =>
    show (k.zoom view update).trace answers n (update s t) = _
    rw [ih, hview]
    rfl
  | call i k ih => exact congrArg (List.cons _) (ih (answers n i) t)

end Zoom

end Framework.Co
