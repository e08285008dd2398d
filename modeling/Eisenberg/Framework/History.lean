import Eisenberg.Framework.Coroutine

/-!
# Coroutines and their history

What a coroutine does next may depend on the requests it has made before. A relation on this history
and on the states at both ends of a segment is checked along the program once; it may rely on what
everything else that shares the state keeps.
-/

namespace Framework

namespace Co

variable {σ ε ι α β : Type} {ρ : ι → Type}

/-- Every segment that ends at a request stays within `R`, the last one ends in `Q`, as long as each
answer is delivered in a state that satisfies `I`. -/
def Traced (I : σ → Prop) (R : List ι → Cause ε ρ → σ → σ → ι → Prop)
    (Q : List ι → Cause ε ρ → σ → σ → Except ε α → Prop) :
    List ι → Cause ε ρ → σ → σ → Co σ ε ρ α → Prop
  | history, cause, s₀, s, ret result => Q history cause s₀ s result
  | history, cause, s₀, s, get k => Traced I R Q history cause s₀ s (k s)
  | history, cause, s₀, _, set s k => Traced I R Q history cause s₀ s k
  | history, cause, s₀, s, call i k =>
    R history cause s₀ s i ∧
      ∀ r t, I t → Traced I R Q (history ++ [i]) (.answered i r) t t (k r)

section Rules

variable {I : σ → Prop} {R : List ι → Cause ε ρ → σ → σ → ι → Prop}
  {history : List ι} {cause : Cause ε ρ} {s₀ s : σ}

theorem Traced.bind {P : List ι → Cause ε ρ → σ → σ → Except ε α → Prop}
    {Q : List ι → Cause ε ρ → σ → σ → Except ε β → Prop} {c : Co σ ε ρ α} {f : α → Co σ ε ρ β}
    (hc : Traced I R P history cause s₀ s c)
    (hok : ∀ history cause s₀ s a, P history cause s₀ s (.ok a) →
      Traced I R Q history cause s₀ s (f a))
    (herror : ∀ history cause s₀ s e, P history cause s₀ s (.error e) →
      Q history cause s₀ s (.error e)) :
    Traced I R Q history cause s₀ s (c >>= f) := by
  rw [bind_def]
  induction c generalizing history cause s₀ s with
  | ret result =>
    cases result with
    | ok a => exact hok _ _ _ _ a hc
    | error e => exact herror _ _ _ _ e hc
  | get k ih => exact ih s hc
  | set t k ih => exact ih hc
  | call i k ih => exact ⟨hc.1, fun r t ht => ih r (hc.2 r t ht)⟩

theorem Traced.handle {P Q : List ι → Cause ε ρ → σ → σ → Except ε α → Prop} {c : Co σ ε ρ α}
    {f : ε → Co σ ε ρ α} (hc : Traced I R P history cause s₀ s c)
    (hok : ∀ history cause s₀ s a, P history cause s₀ s (.ok a) →
      Q history cause s₀ s (.ok a))
    (herror : ∀ history cause s₀ s e, P history cause s₀ s (.error e) →
      Traced I R Q history cause s₀ s (f e)) :
    Traced I R Q history cause s₀ s (tryCatch c f) := by
  rw [tryCatch_def]
  induction c generalizing history cause s₀ s with
  | ret result =>
    cases result with
    | ok a => exact hok _ _ _ _ a hc
    | error e => exact herror _ _ _ _ e hc
  | get k ih => exact ih s hc
  | set t k ih => exact ih hc
  | call i k ih => exact ⟨hc.1, fun r t ht => ih r (hc.2 r t ht)⟩

theorem Traced.mono {R' : List ι → Cause ε ρ → σ → σ → ι → Prop}
    {P Q : List ι → Cause ε ρ → σ → σ → Except ε α → Prop} {c : Co σ ε ρ α}
    (hR : ∀ history cause s₀ s i, R history cause s₀ s i → R' history cause s₀ s i)
    (hPQ : ∀ history cause s₀ s r, P history cause s₀ s r → Q history cause s₀ s r)
    (h : Traced I R P history cause s₀ s c) : Traced I R' Q history cause s₀ s c := by
  induction c generalizing history cause s₀ s with
  | ret result => exact hPQ _ _ _ _ _ h
  | get k ih => exact ih s h
  | set t k ih => exact ih h
  | call i k ih => exact ⟨hR _ _ _ _ _ h.1, fun r t ht => ih r (h.2 r t ht)⟩

theorem traced_get_bind {Q : List ι → Cause ε ρ → σ → σ → Except ε β → Prop}
    {f : σ → Co σ ε ρ β} :
    Traced I R Q history cause s₀ s (MonadState.get >>= f) ↔
      Traced I R Q history cause s₀ s (f s) := Iff.rfl

/-- What a stop says of the segment that ends there, and of those to come. -/
def Stop.Traced (I : σ → Prop) (R : List ι → Cause ε ρ → σ → σ → ι → Prop)
    (Q : List ι → Cause ε ρ → σ → σ → Except ε α → Prop) (history : List ι) (cause : Cause ε ρ)
    (s₀ s : σ) : Stop σ ε ρ α → Prop
  | .done result => Q history cause s₀ s result
  | .waiting i k =>
    R history cause s₀ s i ∧
      ∀ r t, I t → Co.Traced I R Q (history ++ [i]) (.answered i r) t t (k r)

theorem Traced.advance {Q : List ι → Cause ε ρ → σ → σ → Except ε α → Prop} {c : Co σ ε ρ α}
    (h : Traced I R Q history cause s₀ s c) :
    (c.advance s).2.Traced I R Q history cause s₀ (c.advance s).1 := by
  induction c generalizing s with
  | ret result => exact h
  | get k ih => exact ih s h
  | set t k ih => exact ih h
  | call i k ih => exact h

end Rules

/-!
### Other requests

A coroutine over one kind of requests, as one over another kind that contains them.
-/

section Relabel

variable {κ : Type} {ρ' : κ → Type} (f : ι → κ) (back : (i : ι) → ρ' (f i) → ρ i)

def relabel : Co σ ε ρ α → Co σ ε ρ' α
  | ret result => ret result
  | get k => get fun s => (k s).relabel
  | set s k => set s k.relabel
  | call i k => call (f i) fun r => (k (r.map (back i))).relabel

/-- The causes of one segment under the two kinds of requests. -/
inductive Relabels : Cause ε ρ → Cause ε ρ' → Prop
  | started : Relabels .started .started
  | answered (i : ι) (r : Except ε (ρ' (f i))) :
      Relabels (.answered i (r.map (back i))) (.answered (f i) r)

variable {f back}

/-- What is checked of the one coroutine holds of the other. -/
theorem Traced.relabel {I : σ → Prop} {R : List κ → Cause ε ρ' → σ → σ → κ → Prop}
    {Q : List κ → Cause ε ρ' → σ → σ → Except ε α → Prop} {history : List ι} {cause : Cause ε ρ}
    {cause' : Cause ε ρ'} {s₀ s : σ} {c : Co σ ε ρ α}
    (h : Traced I
      (fun history cause s₀ s i => ∀ cause', Relabels f back cause cause' →
        R (history.map f) cause' s₀ s (f i))
      (fun history cause s₀ s r => ∀ cause', Relabels f back cause cause' →
        Q (history.map f) cause' s₀ s r) history cause s₀ s c)
    (hcause : Relabels f back cause cause') :
    Traced I R Q (history.map f) cause' s₀ s (c.relabel f back) := by
  induction c generalizing history cause cause' s₀ s with
  | ret result => exact h _ hcause
  | get k ih => exact ih s h hcause
  | set t k ih => exact ih h hcause
  | call i k ih =>
    refine ⟨h.1 _ hcause, fun r t ht => ?_⟩
    have hnext := ih (r.map (back i)) (h.2 (r.map (back i)) t ht) (.answered i r)
    rw [List.map_append, List.map_singleton] at hnext
    exact hnext

theorem Traced.relabel_started {I : σ → Prop} {R : List κ → Cause ε ρ' → σ → σ → κ → Prop}
    {Q : List κ → Cause ε ρ' → σ → σ → Except ε α → Prop} {s₀ s : σ} {c : Co σ ε ρ α}
    (h : Traced I
      (fun history cause s₀ s i => ∀ cause', Relabels f back cause cause' →
        R (history.map f) cause' s₀ s (f i))
      (fun history cause s₀ s r => ∀ cause', Relabels f back cause cause' →
        Q (history.map f) cause' s₀ s r) [] .started s₀ s c) :
    Traced I R Q [] .started s₀ s (c.relabel f back) :=
  h.relabel .started

end Relabel

end Co

/-!
### Threads

The same along the runs of a pool, for a relation that may depend on what a thread was started with.
-/

section Threads

variable {γ σ ε ι α : Type} {ρ : ι → Type}

/-- A thread whose continuation is traced, from the requests it has made. -/
def Thread.Traced (I : σ → Prop) (R : γ → List ι → Co.Cause ε ρ → σ → σ → ι → Prop)
    (Q : γ → List ι → Co.Cause ε ρ → σ → σ → Except ε α → Prop) :
    Thread γ σ ε ρ α → Prop
  | ⟨_, _, .done _⟩ => True
  | ⟨arg, calls, .waiting i k⟩ =>
    ∀ r t, I t → Co.Traced I (R arg) (Q arg) calls (.answered i r) t t (k r)
  | ⟨arg, calls, .answered i r k⟩ =>
    ∀ t, I t → Co.Traced I (R arg) (Q arg) calls (.answered i r) t t (k r)

namespace Pool

/-- What a step runs: a thread from its start, or from the delivery of an answer. -/
structure Segment (γ σ ε : Type) {ι : Type} (ρ : ι → Type) (α : Type) where
  arg : γ
  calls : List ι
  cause : Co.Cause ε ρ
  co : Co σ ε ρ α

variable (program : γ → Co σ ε ρ α)

def segment (p : Pool γ σ ε ρ α) : PoolEvent γ ε ρ → Option (Segment γ σ ε ρ α)
  | .start arg => some ⟨arg, [], .started, program arg⟩
  | .answer _ _ => none
  | .deliver t =>
    match p.threads[t]? with
    | some ⟨arg, calls, .answered i r k⟩ => some ⟨arg, calls, .answered i r, k r⟩
    | _ => none

variable {program} {p q : Pool γ σ ε ρ α} {event : PoolEvent γ ε ρ}

/-- A step runs a segment, or delivers nothing yet. -/
theorem step_cases (h : step program p event = some q) :
    (q.shared = p.shared ∧ ∃ t arg calls i r k, p.threads[t]? = some ⟨arg, calls, .waiting i k⟩ ∧
      q.threads = p.threads.set t ⟨arg, calls, .answered i r k⟩) ∨
    ∃ seg, segment program p event = some seg ∧ q.shared = (seg.co.advance p.shared).1 ∧
      ∀ th ∈ q.threads,
        th ∈ p.threads ∨ th = stopped seg.arg seg.calls (seg.co.advance p.shared).2 := by
  cases event with
  | start arg =>
    right
    refine ⟨⟨arg, [], .started, program arg⟩, rfl, ?_⟩
    rw [step_start h]
    refine ⟨rfl, fun th hth => ?_⟩
    rw [List.mem_append, List.mem_singleton] at hth
    exact hth
  | answer t answers =>
    left
    obtain ⟨arg, calls, i, k, ht, rfl⟩ := step_answer h
    exact ⟨rfl, t, arg, calls, i, answers i, k, ht, rfl⟩
  | deliver t =>
    right
    obtain ⟨arg, calls, i, r, k, ht, rfl⟩ := step_deliver h
    refine ⟨⟨arg, calls, .answered i r, k r⟩, ?_, rfl, fun th hth => List.mem_or_eq_of_mem_set hth⟩
    simp only [segment, ht]

section Traced

variable {I : σ → Prop} {R : γ → List ι → Co.Cause ε ρ → σ → σ → ι → Prop}
  {Q : γ → List ι → Co.Cause ε ρ → σ → σ → Except ε α → Prop}

theorem segment_traced
    (hprogram : ∀ arg s, I s → (program arg).Traced I (R arg) (Q arg) [] .started s s)
    (hp : ∀ th ∈ p.threads, th.Traced I R Q) (hI : I p.shared) {seg : Segment γ σ ε ρ α}
    (h : segment program p event = some seg) :
    seg.co.Traced I (R seg.arg) (Q seg.arg) seg.calls seg.cause p.shared p.shared := by
  cases event with
  | start arg =>
    cases h
    exact hprogram arg p.shared hI
  | answer t answers => cases h
  | deliver t =>
    simp only [segment] at h
    split at h
    next arg calls i r k ht =>
      cases h
      exact hp _ (List.mem_of_getElem? ht) p.shared hI
    next => cases h

theorem stopped_traced {arg : γ} {calls : List ι} {cause : Co.Cause ε ρ} {s₀ s : σ}
    {stop : Co.Stop σ ε ρ α} (h : stop.Traced I (R arg) (Q arg) calls cause s₀ s) :
    (stopped arg calls stop).Traced I R Q := by
  cases stop with
  | done result => trivial
  | waiting i k => exact h.2

/-- What the segments keep of the shared state and of the threads. -/
theorem step_traced
    (hprogram : ∀ arg s, I s → (program arg).Traced I (R arg) (Q arg) [] .started s s)
    (hR : ∀ arg history cause s₀ s i, R arg history cause s₀ s i → I s)
    (hQ : ∀ arg history cause s₀ s r, Q arg history cause s₀ s r → I s)
    (hp : ∀ th ∈ p.threads, th.Traced I R Q) (hI : I p.shared)
    (h : step program p event = some q) : I q.shared ∧ ∀ th ∈ q.threads, th.Traced I R Q := by
  rcases step_cases h with ⟨hshared, t, arg, calls, i, r, k, ht, hthreads⟩ |
    ⟨seg, hseg, hshared, hthreads⟩
  · refine ⟨hshared ▸ hI, fun th hth => ?_⟩
    rw [hthreads] at hth
    rcases List.mem_or_eq_of_mem_set hth with hth | rfl
    · exact hp th hth
    · exact hp _ (List.mem_of_getElem? ht) r
  · have hstop := (segment_traced hprogram hp hI hseg).advance
    refine ⟨?_, fun th hth => ?_⟩
    · rw [hshared]
      cases hend : (seg.co.advance p.shared).2 with
      | done result =>
        rw [hend] at hstop
        exact hQ _ _ _ _ _ _ hstop
      | waiting i k =>
        rw [hend] at hstop
        exact hR _ _ _ _ _ _ hstop.1
    · rcases hthreads th hth with hth | rfl
      · exact hp th hth
      · exact stopped_traced hstop

end Traced

end Pool

end Threads

end Framework
