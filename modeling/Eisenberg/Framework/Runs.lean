import Eisenberg.Framework.History

/-!
# The runs of a coroutine

A run ends with a state and a result, and has made requests on the way. `A` says which answers a
request may get and `E` what everything else may do to the state while it is under way.
-/

namespace Framework.Co

variable {σ ε ι κ α β : Type} {ρ : ι → Type} {ρ' : κ → Type}

inductive Ran (A : (i : ι) → Except ε (ρ i) → Prop) (E : σ → σ → Prop) :
    σ → Co σ ε ρ α → List ι → σ → Except ε α → Prop
  | ret {s : σ} {r : Except ε α} : Ran A E s (.ret r) [] s r
  | get {s t : σ} {k : σ → Co σ ε ρ α} {calls : List ι} {r : Except ε α} :
      Ran A E s (k s) calls t r → Ran A E s (.get k) calls t r
  | set {s t u : σ} {c : Co σ ε ρ α} {calls : List ι} {r : Except ε α} :
      Ran A E u c calls t r → Ran A E s (.set u c) calls t r
  | call {s t u : σ} {i : ι} {k : Except ε (ρ i) → Co σ ε ρ α} {calls : List ι}
      {a : Except ε (ρ i)} {r : Except ε α} :
      A i a → E s u → Ran A E u (k a) calls t r → Ran A E s (.call i k) (i :: calls) t r

section Rules

variable {A : (i : ι) → Except ε (ρ i) → Prop} {E : σ → σ → Prop} {s t : σ} {calls : List ι}

theorem ran_ret_iff {result r : Except ε α} :
    Ran A E s (ret result) calls t r ↔ calls = [] ∧ t = s ∧ r = result := by
  constructor
  · intro h
    cases h
    exact ⟨rfl, rfl, rfl⟩
  · rintro ⟨rfl, rfl, rfl⟩
    exact .ret

@[simp] theorem ran_pure_iff {a : α} {r : Except ε α} :
    Ran A E s (pure a) calls t r ↔ calls = [] ∧ t = s ∧ r = .ok a := ran_ret_iff

@[simp] theorem ran_throw_iff {e : ε} {r : Except ε α} :
    Ran A E s (throw e) calls t r ↔ calls = [] ∧ t = s ∧ r = .error e := ran_ret_iff

theorem ran_get_iff {k : σ → Co σ ε ρ α} {r : Except ε α} :
    Ran A E s (get k) calls t r ↔ Ran A E s (k s) calls t r := by
  constructor
  · intro h
    cases h with
    | get h => exact h
  · exact .get

theorem ran_set_iff {u : σ} {c : Co σ ε ρ α} {r : Except ε α} :
    Ran A E s (set u c) calls t r ↔ Ran A E u c calls t r := by
  constructor
  · intro h
    cases h with
    | set h => exact h
  · exact .set

theorem ran_call_iff {i : ι} {k : Except ε (ρ i) → Co σ ε ρ α} {r : Except ε α} :
    Ran A E s (call i k) calls t r ↔
      ∃ a u later, A i a ∧ E s u ∧ calls = i :: later ∧ Ran A E u (k a) later t r := by
  constructor
  · intro h
    cases h with
    | call ha hu hk => exact ⟨_, _, _, ha, hu, rfl, hk⟩
  · rintro ⟨a, u, later, ha, hu, rfl, hk⟩
    exact .call ha hu hk

@[simp] theorem ran_get_bind_iff {k : σ → Co σ ε ρ α} {r : Except ε α} :
    Ran A E s (MonadState.get >>= k) calls t r ↔ Ran A E s (k s) calls t r := ran_get_iff

@[simp] theorem ran_modify_iff {f : σ → σ} {r : Except ε Unit} :
    Ran A E s (modify f) calls t r ↔ calls = [] ∧ t = f s ∧ r = .ok () :=
  ran_get_iff.trans (ran_set_iff.trans ran_ret_iff)

@[simp] theorem ran_await_iff {i : ι} {r : Except ε (ρ i)} :
    Ran A E s (await i) calls t r ↔ calls = [i] ∧ A i r ∧ E s t := by
  rw [await, ran_call_iff]
  constructor
  · rintro ⟨a, u, later, ha, hu, rfl, hk⟩
    obtain ⟨rfl, rfl, rfl⟩ := ran_ret_iff.mp hk
    exact ⟨rfl, ha, hu⟩
  · rintro ⟨rfl, ha, hu⟩
    exact ⟨r, t, [], ha, hu, rfl, .ret⟩

/-- A run of two programs one after the other is a run of each, or the first one raises. -/
theorem ran_bind_iff {c : Co σ ε ρ α} {f : α → Co σ ε ρ β} {r : Except ε β} :
    Ran A E s (c >>= f) calls t r ↔
      (∃ earlier u a later, Ran A E s c earlier u (.ok a) ∧ Ran A E u (f a) later t r ∧
        calls = earlier ++ later) ∨ ∃ e, Ran A E s c calls t (.error e) ∧ r = .error e := by
  rw [bind_def]
  induction c generalizing s calls with
  | ret result =>
    cases result with
    | ok a => simp [bind, ran_ret_iff]
    | error e =>
      simp only [bind, ran_ret_iff]
      grind
  | get k ih => simp only [bind, ran_get_iff, ih]
  | set u k ih => simp only [bind, ran_set_iff, ih]
  | call i k ih =>
    simp only [bind, ran_call_iff, ih]
    constructor
    · rintro ⟨a, u, rest, ha, hu, rfl, ⟨earlier, v, b, later, hk, hf, rfl⟩ | ⟨e, hk, rfl⟩⟩
      · exact Or.inl ⟨i :: earlier, v, b, later, ⟨a, u, earlier, ha, hu, rfl, hk⟩, hf, rfl⟩
      · exact Or.inr ⟨e, ⟨a, u, rest, ha, hu, rfl, hk⟩, rfl⟩
    · rintro (⟨_, v, b, later, ⟨a, u, earlier, ha, hu, rfl, hk⟩, hf, rfl⟩ | ⟨e, hk, rfl⟩)
      · exact ⟨a, u, earlier ++ later, ha, hu, rfl, Or.inl ⟨earlier, v, b, later, hk, hf, rfl⟩⟩
      · obtain ⟨a, u, rest, ha, hu, rfl, hk⟩ := hk
        exact ⟨a, u, rest, ha, hu, rfl, Or.inr ⟨e, hk, rfl⟩⟩

/-- A run with a handler is a run of the program alone, or of the handler after it. -/
theorem ran_tryCatch_iff {c : Co σ ε ρ α} {f : ε → Co σ ε ρ α} {r : Except ε α} :
    Ran A E s (tryCatch c f) calls t r ↔
      (∃ a, Ran A E s c calls t (.ok a) ∧ r = .ok a) ∨
        ∃ earlier u e later, Ran A E s c earlier u (.error e) ∧ Ran A E u (f e) later t r ∧
          calls = earlier ++ later := by
  rw [tryCatch_def]
  induction c generalizing s calls with
  | ret result =>
    cases result with
    | ok a =>
      simp only [handle, ran_ret_iff]
      grind
    | error e => simp [handle, ran_ret_iff]
  | get k ih => simp only [handle, ran_get_iff, ih]
  | set u k ih => simp only [handle, ran_set_iff, ih]
  | call i k ih =>
    simp only [handle, ran_call_iff, ih]
    constructor
    · rintro ⟨a, u, rest, ha, hu, rfl, ⟨b, hk, rfl⟩ | ⟨earlier, v, e, later, hk, hf, rfl⟩⟩
      · exact Or.inl ⟨b, ⟨a, u, rest, ha, hu, rfl, hk⟩, rfl⟩
      · exact Or.inr ⟨i :: earlier, v, e, later, ⟨a, u, earlier, ha, hu, rfl, hk⟩, hf, rfl⟩
    · rintro (⟨b, hk, rfl⟩ | ⟨_, v, e, later, ⟨a, u, earlier, ha, hu, rfl, hk⟩, hf, rfl⟩)
      · obtain ⟨a, u, rest, ha, hu, rfl, hk⟩ := hk
        exact ⟨a, u, rest, ha, hu, rfl, Or.inl ⟨b, hk, rfl⟩⟩
      · exact ⟨a, u, earlier ++ later, ha, hu, rfl, Or.inr ⟨earlier, v, e, later, hk, hf, rfl⟩⟩

end Rules

/-!
### What a coroutine raises
-/

/-- Whatever a run raises has the property. -/
def RaisesOnly (A : (i : ι) → Except ε (ρ i) → Prop) (E : σ → σ → Prop) (P : ε → Prop)
    (c : Co σ ε ρ α) : Prop :=
  ∀ s calls t e, Ran A E s c calls t (.error e) → P e

section RaisesOnly

variable {A : (i : ι) → Except ε (ρ i) → Prop} {E : σ → σ → Prop} {P Q : ε → Prop}

theorem raisesOnly_pure (a : α) : RaisesOnly A E P (pure a : Co σ ε ρ α) := by
  intro s calls t e h
  obtain ⟨-, -, heq⟩ := ran_pure_iff.mp h
  cases heq

theorem raisesOnly_throw {e : ε} (h : P e) : RaisesOnly A E P (throw e : Co σ ε ρ α) := by
  intro s calls t e' hran
  obtain ⟨-, -, heq⟩ := ran_throw_iff.mp hran
  cases heq
  exact h

theorem raisesOnly_modify (f : σ → σ) : RaisesOnly A E P (modify f : Co σ ε ρ Unit) := by
  intro s calls t e h
  obtain ⟨-, -, heq⟩ := ran_modify_iff.mp h
  cases heq

theorem raisesOnly_await {i : ι} (h : ∀ e, A i (.error e) → P e) :
    RaisesOnly A E P (await i : Co σ ε ρ (ρ i)) := by
  intro s calls t e hran
  obtain ⟨-, hA, -⟩ := ran_await_iff.mp hran
  exact h e hA

theorem raisesOnly_get_bind {k : σ → Co σ ε ρ α} (h : ∀ s, RaisesOnly A E P (k s)) :
    RaisesOnly A E P (MonadState.get >>= k) := by
  intro s calls t e hran
  exact h s s calls t e (ran_get_bind_iff.mp hran)

theorem RaisesOnly.bind {c : Co σ ε ρ α} {k : α → Co σ ε ρ β} (hc : RaisesOnly A E P c)
    (hk : ∀ a, RaisesOnly A E P (k a)) : RaisesOnly A E P (c >>= k) := by
  intro s calls t e hran
  rw [ran_bind_iff] at hran
  rcases hran with ⟨earlier, u, a, later, -, hrest, -⟩ | ⟨e', hfirst, heq⟩
  · exact hk a u later t e hrest
  · cases heq
    exact hc s calls t e hfirst

theorem RaisesOnly.tryCatch {c : Co σ ε ρ α} {k : ε → Co σ ε ρ α} (hc : RaisesOnly A E Q c)
    (hk : ∀ e, Q e → RaisesOnly A E P (k e)) : RaisesOnly A E P (tryCatch c k) := by
  intro s calls t e hran
  rw [ran_tryCatch_iff] at hran
  rcases hran with ⟨a, -, heq⟩ | ⟨earlier, u, e', later, hfirst, hrest, -⟩
  · cases heq
  · exact hk e' (hc s earlier u e' hfirst) u later t e hrest

theorem RaisesOnly.mono {c : Co σ ε ρ α} (hc : RaisesOnly A E P c) (h : ∀ e, P e → Q e) :
    RaisesOnly A E Q c :=
  fun s calls t e hran => h e (hc s calls t e hran)

/-- A run of a coroutine that raises nothing returns. -/
theorem Ran.returns {c : Co σ ε ρ α} {s t : σ} {calls : List ι} {r : Except ε α}
    (hran : Ran A E s c calls t r) (hc : RaisesOnly A E (fun _ => False) c) : ∃ a, r = .ok a := by
  cases r with
  | ok a => exact ⟨a, rfl⟩
  | error e => exact (hc s calls t e hran).elim

end RaisesOnly

/-!
### What a coroutine asks
-/

/-- Every request of a run is one of these. -/
def AsksOnly (A : (i : ι) → Except ε (ρ i) → Prop) (E : σ → σ → Prop) (W : ι → Prop)
    (c : Co σ ε ρ α) : Prop :=
  ∀ s calls t r, Ran A E s c calls t r → ∀ i ∈ calls, W i

section AsksOnly

variable {A : (i : ι) → Except ε (ρ i) → Prop} {E : σ → σ → Prop} {W : ι → Prop}

theorem asksOnly_ret (result : Except ε α) : AsksOnly A E W (ret result : Co σ ε ρ α) := by
  intro s calls t r h i hi
  rw [(ran_ret_iff.mp h).1] at hi
  exact absurd hi List.not_mem_nil

theorem asksOnly_pure (a : α) : AsksOnly A E W (pure a : Co σ ε ρ α) := asksOnly_ret (.ok a)

theorem asksOnly_throw (e : ε) : AsksOnly A E W (throw e : Co σ ε ρ α) := asksOnly_ret (.error e)

theorem asksOnly_modify (f : σ → σ) : AsksOnly A E W (modify f : Co σ ε ρ Unit) := by
  intro s calls t r h i hi
  rw [(ran_modify_iff.mp h).1] at hi
  exact absurd hi List.not_mem_nil

theorem asksOnly_await {i : ι} (h : W i) : AsksOnly A E W (await i : Co σ ε ρ (ρ i)) := by
  intro s calls t r hran j hj
  rw [(ran_await_iff.mp hran).1, List.mem_singleton] at hj
  exact hj ▸ h

theorem AsksOnly.bind {c : Co σ ε ρ α} {k : α → Co σ ε ρ β} (hc : AsksOnly A E W c)
    (hk : ∀ a, AsksOnly A E W (k a)) : AsksOnly A E W (c >>= k) := by
  intro s calls t r hran i hi
  rw [ran_bind_iff] at hran
  rcases hran with ⟨earlier, u, a, later, hfirst, hrest, rfl⟩ | ⟨e, hfirst, -⟩
  · rcases List.mem_append.mp hi with hi | hi
    · exact hc s earlier u _ hfirst i hi
    · exact hk a u later t r hrest i hi
  · exact hc s calls t _ hfirst i hi

theorem AsksOnly.tryCatch {c : Co σ ε ρ α} {k : ε → Co σ ε ρ α} (hc : AsksOnly A E W c)
    (hk : ∀ e, AsksOnly A E W (k e)) : AsksOnly A E W (tryCatch c k) := by
  intro s calls t r hran i hi
  rw [ran_tryCatch_iff] at hran
  rcases hran with ⟨a, h, -⟩ | ⟨earlier, u, e, later, hfirst, hrest, rfl⟩
  · exact hc s calls t _ h i hi
  · rcases List.mem_append.mp hi with hi | hi
    · exact hc s earlier u _ hfirst i hi
    · exact hk e u later t r hrest i hi

end AsksOnly

/-!
### What a coroutine does to the state
-/

/-- The state a run ends with is related to the one it starts from. -/
def Moves (A : (i : ι) → Except ε (ρ i) → Prop) (E R : σ → σ → Prop) (c : Co σ ε ρ α) : Prop :=
  ∀ s calls t r, Ran A E s c calls t r → R s t

section Moves

variable {A : (i : ι) → Except ε (ρ i) → Prop} {E R : σ → σ → Prop}

theorem moves_ret (hrefl : ∀ s, R s s) (result : Except ε α) :
    Moves A E R (ret result : Co σ ε ρ α) := by
  intro s calls t r h
  obtain ⟨-, rfl, -⟩ := ran_ret_iff.mp h
  exact hrefl t

theorem moves_modify {f : σ → σ} (h : ∀ s, R s (f s)) :
    Moves A E R (modify f : Co σ ε ρ Unit) := by
  intro s calls t r hran
  obtain ⟨-, rfl, -⟩ := ran_modify_iff.mp hran
  exact h s

theorem moves_await (h : ∀ s t, E s t → R s t) (i : ι) :
    Moves A E R (await i : Co σ ε ρ (ρ i)) := by
  intro s calls t r hran
  obtain ⟨-, -, hE⟩ := ran_await_iff.mp hran
  exact h s t hE

theorem moves_get_bind {k : σ → Co σ ε ρ α} (h : ∀ s, Moves A E R (k s)) :
    Moves A E R (MonadState.get >>= k) := by
  intro s calls t r hran
  exact h s s calls t r (ran_get_bind_iff.mp hran)

theorem Moves.bind (htrans : ∀ s t u, R s t → R t u → R s u) {c : Co σ ε ρ α}
    {k : α → Co σ ε ρ β} (hc : Moves A E R c) (hk : ∀ a, Moves A E R (k a)) :
    Moves A E R (c >>= k) := by
  intro s calls t r hran
  rw [ran_bind_iff] at hran
  rcases hran with ⟨earlier, u, a, later, hfirst, hrest, -⟩ | ⟨e, hfirst, -⟩
  · exact htrans s u t (hc s earlier u _ hfirst) (hk a u later t r hrest)
  · exact hc s calls t _ hfirst

theorem Moves.tryCatch (htrans : ∀ s t u, R s t → R t u → R s u) {c : Co σ ε ρ α}
    {k : ε → Co σ ε ρ α} (hc : Moves A E R c) (hk : ∀ e, Moves A E R (k e)) :
    Moves A E R (tryCatch c k) := by
  intro s calls t r hran
  rw [ran_tryCatch_iff] at hran
  rcases hran with ⟨a, h, -⟩ | ⟨earlier, u, e, later, hfirst, hrest, -⟩
  · exact hc s calls t _ h
  · exact htrans s u t (hc s earlier u _ hfirst) (hk e u later t r hrest)

end Moves

/-!
### Requests answered by programs
-/

/-- A program whose exceptions are values. -/
def caught (c : Co σ ε ρ α) : Co σ ε ρ (Except ε α) :=
  tryCatch (do return Except.ok (← c)) fun e => return Except.error e

section Interpret

variable (h : (i : ι) → Co σ ε ρ' (ρ i))

/-- The coroutine with a program in the place of each request. -/
def interpret : Co σ ε ρ α → Co σ ε ρ' α
  | ret result => ret result
  | get k => get fun s => (k s).interpret
  | set s k => set s k.interpret
  | call i k => (h i).caught >>= fun a => (k a).interpret

variable {h} {A : (i : κ) → Except ε (ρ' i) → Prop} {E : σ → σ → Prop}

/-- What the program of a request can come back with. -/
def Answered (h : (i : ι) → Co σ ε ρ' (ρ i)) (A : (i : κ) → Except ε (ρ' i) → Prop)
    (E : σ → σ → Prop) (i : ι) (a : Except ε (ρ i)) : Prop :=
  ∃ s calls t, Ran A E s (h i) calls t a

/-- What the program of a request can do to the state. -/
def Affected (h : (i : ι) → Co σ ε ρ' (ρ i)) (A : (i : κ) → Except ε (ρ' i) → Prop)
    (E : σ → σ → Prop) (s t : σ) : Prop :=
  ∃ i calls a, Ran A E s (h i) calls t a

theorem ran_caught_iff {c : Co σ ε ρ' α} {s t : σ} {calls : List κ}
    {r : Except ε (Except ε α)} :
    Ran A E s c.caught calls t r ↔ ∃ a, r = .ok a ∧ Ran A E s c calls t a := by
  simp only [caught, ran_tryCatch_iff, ran_bind_iff, ran_pure_iff]
  constructor
  · rintro (⟨b, ⟨earlier, u, a, later, hc, ⟨rfl, rfl, hb⟩, rfl⟩ | ⟨e, -, hb⟩, rfl⟩ |
      ⟨earlier, u, e, later, ⟨_, _, _, _, -, ⟨-, -, hb⟩, -⟩ | ⟨e', hc, he⟩, ⟨rfl, rfl, rfl⟩, rfl⟩)
    · cases hb
      exact ⟨.ok a, rfl, by simpa using hc⟩
    · cases hb
    · cases hb
    · cases he
      exact ⟨.error e, rfl, by simpa using hc⟩
  · rintro ⟨a, rfl, hc⟩
    cases a with
    | ok a => exact Or.inl ⟨.ok a, Or.inl ⟨calls, t, a, [], hc, ⟨rfl, rfl, rfl⟩, by simp⟩, rfl⟩
    | error e =>
      exact Or.inr ⟨calls, t, e, [], Or.inr ⟨e, hc, rfl⟩, ⟨rfl, rfl, rfl⟩, by simp⟩

/-- A run of the whole is a run of the coroutine, each request replaced by a run of its program. -/
theorem Ran.interpret {c : Co σ ε ρ α} {s t : σ} {calls : List κ} {r : Except ε α}
    (hran : Ran A E s (c.interpret h) calls t r) :
    ∃ parts : List (ι × List κ),
      Ran (Answered h A E) (Affected h A E) s c (parts.map Prod.fst) t r ∧
      calls = parts.flatMap Prod.snd ∧
      ∀ part ∈ parts, ∃ u v a, Ran A E u (h part.1) part.2 v a := by
  induction c generalizing s calls with
  | ret result =>
    obtain ⟨rfl, rfl, rfl⟩ := ran_ret_iff.mp hran
    exact ⟨[], .ret, rfl, by simp⟩
  | get k ih =>
    obtain ⟨parts, hcoarse, hcalls, hparts⟩ := ih s (ran_get_iff.mp hran)
    exact ⟨parts, .get hcoarse, hcalls, hparts⟩
  | set u k ih =>
    obtain ⟨parts, hcoarse, hcalls, hparts⟩ := ih (ran_set_iff.mp hran)
    exact ⟨parts, .set hcoarse, hcalls, hparts⟩
  | call i k ih =>
    have hran : Ran A E s ((h i).caught >>= fun a => (k a).interpret h) calls t r := hran
    rw [ran_bind_iff] at hran
    rcases hran with ⟨earlier, u, a, later, hfirst, hrest, rfl⟩ | ⟨e, hfirst, -⟩
    · obtain ⟨b, hb, hi⟩ := ran_caught_iff.mp hfirst
      cases hb
      obtain ⟨parts, hcoarse, rfl, hparts⟩ := ih a hrest
      refine ⟨(i, earlier) :: parts, ?_, by simp, ?_⟩
      · exact .call ⟨s, earlier, u, hi⟩ ⟨i, earlier, a, hi⟩ hcoarse
      · intro part hpart
        rcases List.mem_cons.mp hpart with rfl | hpart
        · exact ⟨s, u, a, hi⟩
        · exact hparts part hpart
    · obtain ⟨b, hb, -⟩ := ran_caught_iff.mp hfirst
      cases hb

end Interpret

/-!
### A coroutine in a larger program
-/

section Relabel

variable {f : ι → κ} {back : (i : ι) → ρ' (f i) → ρ i} {A : (i : κ) → Except ε (ρ' i) → Prop}
  {E : σ → σ → Prop}

/-- The answers of the larger program, as the coroutine gets them. -/
def Relabelled (f : ι → κ) (back : (i : ι) → ρ' (f i) → ρ i)
    (A : (i : κ) → Except ε (ρ' i) → Prop) (i : ι) (a : Except ε (ρ i)) : Prop :=
  ∃ b, A (f i) b ∧ a = b.map (back i)

theorem Ran.relabel {c : Co σ ε ρ α} {s t : σ} {calls : List κ} {r : Except ε α}
    (hran : Ran A E s (c.relabel f back) calls t r) :
    ∃ asked, Ran (Relabelled f back A) E s c asked t r ∧ calls = asked.map f := by
  induction c generalizing s calls with
  | ret result =>
    obtain ⟨rfl, rfl, rfl⟩ := ran_ret_iff.mp hran
    exact ⟨[], .ret, rfl⟩
  | get k ih =>
    obtain ⟨asked, h, hcalls⟩ := ih s (ran_get_iff.mp hran)
    exact ⟨asked, .get h, hcalls⟩
  | set u k ih =>
    obtain ⟨asked, h, hcalls⟩ := ih (ran_set_iff.mp hran)
    exact ⟨asked, .set h, hcalls⟩
  | call i k ih =>
    obtain ⟨a, u, later, ha, hu, rfl, hk⟩ := ran_call_iff.mp hran
    obtain ⟨asked, h, rfl⟩ := ih (a.map (back i)) hk
    exact ⟨i :: asked, .call ⟨a, ha, rfl⟩ hu h, rfl⟩

end Relabel

section Zoom

variable {τ : Type} (view : τ → σ) (update : σ → τ → τ)

/-- The coroutine on a part of a state. -/
def zoom : Co σ ε ρ α → Co τ ε ρ α
  | ret result => ret result
  | get k => get fun t => (k (view t)).zoom
  | set s k => get fun t => set (update s t) k.zoom
  | call i k => call i fun r => (k r).zoom

variable {view update} {A : (i : ι) → Except ε (ρ i) → Prop} {E : τ → τ → Prop}

/-- What a change of a state does to the part of it. -/
def Seen (view : τ → σ) (E : τ → τ → Prop) (s s' : σ) : Prop :=
  ∃ t t', E t t' ∧ view t = s ∧ view t' = s'

/-- A run on a part of a state is a run. -/
theorem Ran.zoom (hview : ∀ s t, view (update s t) = s) {c : Co σ ε ρ α} {t u : τ}
    {calls : List ι} {r : Except ε α} (hran : Ran A E t (c.zoom view update) calls u r) :
    Ran A (Seen view E) (view t) c calls (view u) r := by
  induction c generalizing t calls with
  | ret result =>
    obtain ⟨rfl, rfl, rfl⟩ := ran_ret_iff.mp hran
    exact .ret
  | get k ih => exact .get (ih (view t) (ran_get_iff.mp hran))
  | set s k ih =>
    have hrest := ih (ran_set_iff.mp (ran_get_iff.mp hran))
    rw [hview] at hrest
    exact .set hrest
  | call i k ih =>
    obtain ⟨a, v, later, ha, hE, rfl, hk⟩ := ran_call_iff.mp hran
    exact .call ha ⟨t, v, hE, rfl, rfl⟩ (ih a hk)

end Zoom

end Framework.Co
