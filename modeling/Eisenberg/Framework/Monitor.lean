import Eisenberg.Framework.Frame
import Eisenberg.Framework.Transition

/-!
# Protocols

A protocol is a machine that steps on every exchange of a program: the state the request was sent
in, the request and its answer. A program conforms to it from some state of both if the protocol
allows each exchange, whatever the answers, and a condition holds where they end.
-/

namespace Framework.Co

variable {σ ε ι α β μ : Type} {ρ : ι → Type}

/-- A request with its answer, and the state it was sent in. -/
abbrev Exchange (σ ε : Type) {ι : Type} (ρ : ι → Type) : Type := σ × (i : ι) × Except ε (ρ i)

/-- The exchanges of the run from the `n`-th answer on. -/
def journal (answers : Nat → (i : ι) → Except ε (ρ i)) :
    Nat → Co σ ε ρ α → σ → List (Exchange σ ε ρ)
  | _, ret _, _ => []
  | n, get k, s => journal answers n (k s) s
  | n, set s k, _ => journal answers n k s
  | n, call i k, s => (s, ⟨i, answers n i⟩) :: journal answers (n + 1) (k (answers n i)) s

/-- `Q` is said of the state, the protocol's state and the result at the end. -/
def Conforms (protocol : Machine μ (Exchange σ ε ρ)) (Q : σ → μ → Except ε α → Prop) :
    Co σ ε ρ α → σ → μ → Prop
  | ret result, s, m => Q s m result
  | get k, s, m => Conforms protocol Q (k s) s m
  | set s k, _, m => Conforms protocol Q k s m
  | call i k, s, m =>
    ∀ r, ∃ m', protocol.step m (s, ⟨i, r⟩) = some m' ∧ Conforms protocol Q (k r) s m'

/-- What follows a result, as a condition on it. -/
def Onward (protocol : Machine μ (Exchange σ ε ρ)) (Q : σ → μ → Except ε β → Prop)
    (f : α → Co σ ε ρ β) (s : σ) (m : μ) : Except ε α → Prop
  | .ok a => Conforms protocol Q (f a) s m
  | .error e => Q s m (.error e)

/-- The handler of an exception, as a condition on the result. -/
def Rescued (protocol : Machine μ (Exchange σ ε ρ)) (Q : σ → μ → Except ε α → Prop)
    (f : ε → Co σ ε ρ α) (s : σ) (m : μ) : Except ε α → Prop
  | .ok a => Q s m (.ok a)
  | .error e => Conforms protocol Q (f e) s m

variable {protocol : Machine μ (Exchange σ ε ρ)} {s : σ} {m : μ}

section Equations

variable {Q : σ → μ → Except ε β → Prop} {P : σ → μ → Except ε α → Prop}

@[simp] theorem onward_ok (f : α → Co σ ε ρ β) (a : α) :
    Onward protocol Q f s m (.ok a) = Conforms protocol Q (f a) s m := rfl

@[simp] theorem onward_error (f : α → Co σ ε ρ β) (e : ε) :
    Onward protocol Q f s m (.error e) = Q s m (.error e) := rfl

@[simp] theorem rescued_ok (f : ε → Co σ ε ρ α) (a : α) :
    Rescued protocol P f s m (.ok a) = P s m (.ok a) := rfl

@[simp] theorem rescued_error (f : ε → Co σ ε ρ α) (e : ε) :
    Rescued protocol P f s m (.error e) = Conforms protocol P (f e) s m := rfl

@[simp] theorem conforms_pure (a : α) :
    Conforms protocol P (pure a) s m ↔ P s m (.ok a) := Iff.rfl

@[simp] theorem conforms_throw (e : ε) :
    Conforms protocol P (throw e) s m ↔ P s m (.error e) := Iff.rfl

@[simp] theorem conforms_get {Q : σ → μ → Except ε σ → Prop} :
    Conforms protocol Q MonadState.get s m ↔ Q s m (.ok s) := Iff.rfl

@[simp] theorem conforms_modify {Q : σ → μ → Except ε Unit → Prop} (f : σ → σ) :
    Conforms protocol Q (modify f) s m ↔ Q (f s) m (.ok ()) := Iff.rfl

@[simp] theorem conforms_await {i : ι} {Q : σ → μ → Except ε (ρ i) → Prop} :
    Conforms protocol Q (await i) s m ↔
      ∀ r, ∃ m', protocol.step m (s, ⟨i, r⟩) = some m' ∧ Q s m' r := Iff.rfl

@[simp] theorem conforms_bind {c : Co σ ε ρ α} {f : α → Co σ ε ρ β} :
    Conforms protocol Q (c >>= f) s m ↔ Conforms protocol (Onward protocol Q f) c s m := by
  rw [bind_def]
  induction c generalizing s m with
  | ret result => cases result <;> exact Iff.rfl
  | get k ih => exact ih s
  | set t k ih => exact ih
  | call i k ih =>
    refine forall_congr' fun r => exists_congr fun m' => and_congr_right fun _ => ?_
    exact ih r

@[simp] theorem conforms_tryCatch {c : Co σ ε ρ α} {f : ε → Co σ ε ρ α} :
    Conforms protocol P (tryCatch c f) s m ↔ Conforms protocol (Rescued protocol P f) c s m := by
  rw [tryCatch_def]
  induction c generalizing s m with
  | ret result => cases result <;> exact Iff.rfl
  | get k ih => exact ih s
  | set t k ih => exact ih
  | call i k ih =>
    refine forall_congr' fun r => exists_congr fun m' => and_congr_right fun _ => ?_
    exact ih r

@[simp] theorem conforms_map {f : α → β} {c : Co σ ε ρ α} :
    Conforms protocol Q (f <$> c) s m ↔
      Conforms protocol (Onward protocol Q fun a => pure (f a)) c s m := conforms_bind

end Equations

theorem Conforms.mono {P Q : σ → μ → Except ε α → Prop} {c : Co σ ε ρ α}
    (h : Conforms protocol P c s m) (himp : ∀ s m r, P s m r → Q s m r) :
    Conforms protocol Q c s m := by
  induction c generalizing s m with
  | ret result => exact himp s m result h
  | get k ih => exact ih s h
  | set t k ih => exact ih h
  | call i k ih =>
    intro r
    obtain ⟨m', hm', hk⟩ := h r
    exact ⟨m', hm', ih r hk⟩

/-- A run of a program that conforms is a run of the protocol. -/
theorem Conforms.run {Q : σ → μ → Except ε α → Prop} {c : Co σ ε ρ α}
    (h : Conforms protocol Q c s m) (answers : Nat → (i : ι) → Except ε (ρ i)) (n : Nat) :
    ∃ m', protocol.run m (c.journal answers n s) = some m' ∧
      Q (c.run answers n s).1 m' (c.run answers n s).2.1 := by
  induction c generalizing n s m with
  | ret result => exact ⟨m, rfl, h⟩
  | get k ih => exact ih s h n
  | set t k ih => exact ih h n
  | call i k ih =>
    obtain ⟨u, hu, hk⟩ := h (answers n i)
    obtain ⟨m', hm', hQ⟩ := ih (answers n i) hk (n + 1)
    exact ⟨m', (protocol.run_cons_eq_some).mpr ⟨u, hu, hm'⟩, hQ⟩

end Framework.Co
