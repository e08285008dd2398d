import Eisenberg.Framework.Coroutine

/-!
# What a coroutine does not look at

A change of the state that a coroutine neither reads nor undoes may be made before it runs or after;
what it never writes is the same before and after.
-/

namespace Framework.Co

variable {σ ε ι α β : Type} {ρ : ι → Type}

/-- The run alone, with the number of the next answer. -/
def run (answers : Nat → (i : ι) → Except ε (ρ i)) : Nat → Co σ ε ρ α → σ → σ × Except ε α × Nat
  | n, ret result, s => (s, result, n)
  | n, get k, s => run answers n (k s) s
  | n, set s k, _ => run answers n k s
  | n, call i k, s => run answers (n + 1) (k (answers n i)) s

section Run

variable {answers : Nat → (i : ι) → Except ε (ρ i)} {n : Nat} {s : σ}

theorem runWith_eq (c : Co σ ε ρ α) :
    c.runWith answers n s = ((c.run answers n s).1, (c.run answers n s).2.1) := by
  induction c generalizing n s with
  | ret result => rfl
  | get k ih => exact ih s
  | set t k ih => exact ih
  | call i k ih => exact ih (answers n i)

/-- The run of what follows a result. -/
def andThen (answers : Nat → (i : ι) → Except ε (ρ i)) (f : α → Co σ ε ρ β) :
    σ × Except ε α × Nat → σ × Except ε β × Nat
  | (s, .ok a, n) => (f a).run answers n s
  | (s, .error e, n) => (s, .error e, n)

@[simp] theorem run_bind (c : Co σ ε ρ α) (f : α → Co σ ε ρ β) :
    (c >>= f).run answers n s = andThen answers f (c.run answers n s) := by
  rw [bind_def]
  induction c generalizing n s with
  | ret result =>
    cases result with
    | ok a => rfl
    | error e => rfl
  | get k ih => exact ih s
  | set t k ih => exact ih
  | call i k ih => exact ih (answers n i)

/-- The run of the handler of an exception. -/
def orElse (answers : Nat → (i : ι) → Except ε (ρ i)) (f : ε → Co σ ε ρ α) :
    σ × Except ε α × Nat → σ × Except ε α × Nat
  | (s, .ok a, n) => (s, .ok a, n)
  | (s, .error e, n) => (f e).run answers n s

@[simp] theorem run_tryCatch (c : Co σ ε ρ α) (f : ε → Co σ ε ρ α) :
    (tryCatch c f).run answers n s = orElse answers f (c.run answers n s) := by
  rw [tryCatch_def]
  induction c generalizing n s with
  | ret result =>
    cases result with
    | ok a => rfl
    | error e => rfl
  | get k ih => exact ih s
  | set t k ih => exact ih
  | call i k ih => exact ih (answers n i)

@[simp] theorem run_pure (a : α) : (pure a : Co σ ε ρ α).run answers n s = (s, .ok a, n) := rfl

@[simp] theorem run_throw (e : ε) :
    (throw e : Co σ ε ρ α).run answers n s = (s, .error e, n) := rfl

@[simp] theorem run_get : (MonadState.get : Co σ ε ρ σ).run answers n s = (s, .ok s, n) := rfl

@[simp] theorem run_modify (f : σ → σ) :
    (modify f : Co σ ε ρ Unit).run answers n s = (f s, .ok (), n) := rfl

@[simp] theorem run_await (i : ι) :
    (await i : Co σ ε ρ (ρ i)).run answers n s = (s, answers n i, n + 1) := rfl

@[simp] theorem andThen_ok (f : α → Co σ ε ρ β) (a : α) :
    andThen answers f (s, .ok a, n) = (f a).run answers n s := rfl

@[simp] theorem andThen_error (f : α → Co σ ε ρ β) (e : ε) :
    andThen answers f (s, .error e, n) = (s, .error e, n) := rfl

@[simp] theorem orElse_ok (f : ε → Co σ ε ρ α) (a : α) :
    orElse answers f (s, .ok a, n) = (s, .ok a, n) := rfl

@[simp] theorem orElse_error (f : ε → Co σ ε ρ α) (e : ε) :
    orElse answers f (s, .error e, n) = (f e).run answers n s := rfl

@[simp] theorem run_map (f : α → β) (c : Co σ ε ρ α) :
    (f <$> c).run answers n s = andThen answers (fun a => pure (f a)) (c.run answers n s) :=
  run_bind c fun a => pure (f a)

/-- A result that is wrapped, looked at and handed on. -/
theorem andThen_wrapped (wrap : α → β) {k : β → Co σ ε ρ α} (hk : ∀ a, k (wrap a) = pure a)
    (ran : σ × Except ε α × Nat) :
    andThen answers k (andThen answers (fun a => pure (wrap a)) ran) = ran := by
  obtain ⟨t, result, m⟩ := ran
  cases result with
  | ok a => rw [andThen_ok, run_pure, andThen_ok, hk, run_pure]
  | error e => rfl

end Run

/-- The change `f` of the state goes through the coroutine. -/
def Blind (f : σ → σ) (c : Co σ ε ρ α) : Prop :=
  ∀ answers n s, c.run answers n (f s) = Prod.map f id (c.run answers n s)

section Blind

variable {f : σ → σ}

theorem blind_ret (result : Except ε α) : Blind f (ret result : Co σ ε ρ α) := fun _ _ _ => rfl

theorem blind_pure (a : α) : Blind f (pure a : Co σ ε ρ α) := blind_ret (.ok a)

theorem blind_throw (e : ε) : Blind f (throw e : Co σ ε ρ α) := blind_ret (.error e)

theorem blind_await (i : ι) : Blind f (await i : Co σ ε ρ (ρ i)) := fun _ _ _ => rfl

theorem blind_modify {g : σ → σ} (h : ∀ s, g (f s) = f (g s)) :
    Blind f (modify g : Co σ ε ρ Unit) := by
  intro answers n s
  change (g (f s), _, _) = (f (g s), _, _)
  rw [h s]

/-- What is read is the same before the change and after it. -/
theorem blind_get_bind {k : σ → Co σ ε ρ α} (hread : ∀ s, k (f s) = k s)
    (hk : ∀ s, Blind f (k s)) : Blind f (MonadState.get >>= k) := by
  intro answers n s
  change (k (f s)).run answers n (f s) = Prod.map f id ((k s).run answers n s)
  rw [hread s]
  exact hk s answers n s

theorem Blind.bind {c : Co σ ε ρ α} {k : α → Co σ ε ρ β} (hc : Blind f c)
    (hk : ∀ a, Blind f (k a)) : Blind f (c >>= k) := by
  intro answers n s
  rw [run_bind, run_bind, hc]
  cases hrun : c.run answers n s with
  | mk t rest =>
    obtain ⟨result, m⟩ := rest
    cases result with
    | ok a => exact hk a answers m t
    | error e => rfl

theorem Blind.tryCatch {c : Co σ ε ρ α} {k : ε → Co σ ε ρ α} (hc : Blind f c)
    (hk : ∀ e, Blind f (k e)) : Blind f (tryCatch c k) := by
  intro answers n s
  rw [run_tryCatch, run_tryCatch, hc]
  cases hrun : c.run answers n s with
  | mk t rest =>
    obtain ⟨result, m⟩ := rest
    cases result with
    | ok a => rfl
    | error e => exact hk e answers m t

end Blind

section Keeps

variable {γ : Type} {view : σ → γ} {answers : Nat → (i : ι) → Except ε (ρ i)}

/-- A run leaves what the view shows of the state. -/
def Keeps (view : σ → γ) (answers : Nat → (i : ι) → Except ε (ρ i)) (c : Co σ ε ρ α) : Prop :=
  ∀ n s, view (c.run answers n s).1 = view s

theorem keeps_ret (result : Except ε α) : Keeps view answers (ret result : Co σ ε ρ α) :=
  fun _ _ => rfl

theorem keeps_await (i : ι) : Keeps view answers (await i : Co σ ε ρ (ρ i)) := fun _ _ => rfl

theorem keeps_modify {g : σ → σ} (h : ∀ s, view (g s) = view s) :
    Keeps view answers (modify g : Co σ ε ρ Unit) := fun _ s => h s

theorem keeps_get {k : σ → Co σ ε ρ α} (h : ∀ s, Keeps view answers (k s)) :
    Keeps view answers (get k) := fun n s => h s n s

theorem Keeps.bind {c : Co σ ε ρ α} {f : α → Co σ ε ρ β} (hc : Keeps view answers c)
    (hf : ∀ a, Keeps view answers (f a)) : Keeps view answers (c >>= f) := by
  intro n s
  have hfirst := hc n s
  rw [run_bind]
  cases hrun : c.run answers n s with
  | mk t rest =>
    rw [hrun] at hfirst
    obtain ⟨result, m⟩ := rest
    cases result with
    | ok a => exact (hf a m t).trans hfirst
    | error e => exact hfirst

theorem Keeps.tryCatch {c : Co σ ε ρ α} {f : ε → Co σ ε ρ α} (hc : Keeps view answers c)
    (hf : ∀ e, Keeps view answers (f e)) : Keeps view answers (tryCatch c f) := by
  intro n s
  have hfirst := hc n s
  rw [run_tryCatch]
  cases hrun : c.run answers n s with
  | mk t rest =>
    rw [hrun] at hfirst
    obtain ⟨result, m⟩ := rest
    cases result with
    | ok a => exact hfirst
    | error e => exact (hf e m t).trans hfirst

end Keeps

end Framework.Co
