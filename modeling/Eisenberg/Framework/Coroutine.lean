import Eisenberg.Framework.Transition

/-!
# Coroutines

A coroutine runs without interruption until it awaits a request; everything that shares its state
may run before the answer is delivered. `Co` is such a program, `advance` its run up to the next
suspension, and `Pool` a set of them over one state.
-/

namespace Framework

/-- `σ` is the shared state, `ε` the exceptions, `ρ i` the type of the answer to the request `i`. -/
inductive Co (σ ε : Type) {ι : Type} (ρ : ι → Type) (α : Type) where
  | ret (result : Except ε α)
  | get (k : σ → Co σ ε ρ α)
  | set (s : σ) (k : Co σ ε ρ α)
  | call (i : ι) (k : Except ε (ρ i) → Co σ ε ρ α)

namespace Co

variable {σ ε ι α β : Type} {ρ : ι → Type}

def bind : Co σ ε ρ α → (α → Co σ ε ρ β) → Co σ ε ρ β
  | ret (.ok a), f => f a
  | ret (.error e), _ => ret (.error e)
  | get k, f => get fun s => (k s).bind f
  | set s k, f => set s (k.bind f)
  | call i k, f => call i fun r => (k r).bind f

def handle : Co σ ε ρ α → (ε → Co σ ε ρ α) → Co σ ε ρ α
  | ret (.ok a), _ => ret (.ok a)
  | ret (.error e), f => f e
  | get k, f => get fun s => (k s).handle f
  | set s k, f => set s (k.handle f)
  | call i k, f => call i fun r => (k r).handle f

instance : Monad (Co σ ε ρ) where
  pure a := ret (.ok a)
  bind := bind

instance : MonadExceptOf ε (Co σ ε ρ) where
  throw e := ret (.error e)
  tryCatch := handle

instance : MonadStateOf σ (Co σ ε ρ) where
  get := get fun s => ret (.ok s)
  set s := set s (ret (.ok ()))
  modifyGet f := get fun s => set (f s).2 (ret (.ok (f s).1))

/-- `await` of one request. -/
def await (i : ι) : Co σ ε ρ (ρ i) := call i ret

theorem bind_def (c : Co σ ε ρ α) (f : α → Co σ ε ρ β) : (c >>= f) = c.bind f := rfl

theorem tryCatch_def (c : Co σ ε ρ α) (f : ε → Co σ ε ρ α) : tryCatch c f = c.handle f := rfl

theorem bind_assoc {γ : Type} (c : Co σ ε ρ α) (f : α → Co σ ε ρ β) (g : β → Co σ ε ρ γ) :
    (c >>= f) >>= g = c >>= fun a => f a >>= g := by
  simp only [bind_def]
  induction c with
  | ret result =>
    cases result with
    | ok a => rfl
    | error e => rfl
  | get k ih => exact congrArg get (funext ih)
  | set s k ih => exact congrArg (set s) ih
  | call i k ih => exact congrArg (call i) (funext ih)

theorem bind_pure (c : Co σ ε ρ α) : (c >>= fun a => pure a) = c := by
  simp only [bind_def]
  induction c with
  | ret result =>
    cases result with
    | ok a => rfl
    | error e => rfl
  | get k ih => exact congrArg get (funext ih)
  | set s k ih => exact congrArg (set s) ih
  | call i k ih => exact congrArg (call i) (funext ih)

/-- Where a coroutine stops: at its result, or at a request. -/
inductive Stop (σ ε : Type) {ι : Type} (ρ : ι → Type) (α : Type) where
  | done (result : Except ε α)
  | waiting (i : ι) (k : Except ε (ρ i) → Co σ ε ρ α)

def Stop.calls : Stop σ ε ρ α → List ι
  | .done _ => []
  | .waiting i _ => [i]

/-- The run from here to the next suspension. -/
def advance : Co σ ε ρ α → σ → σ × Stop σ ε ρ α
  | ret result, s => (s, .done result)
  | get k, s => (k s).advance s
  | set s k, _ => k.advance s
  | call i k, s => (s, .waiting i k)

@[simp] theorem advance_get (k : σ → Co σ ε ρ α) (s : σ) :
    (get k).advance s = (k s).advance s := rfl

theorem advance_bind_waiting {c : Co σ ε ρ α} {f : α → Co σ ε ρ β} {s t : σ} {i : ι}
    {k : Except ε (ρ i) → Co σ ε ρ α} (h : c.advance s = (t, .waiting i k)) :
    (c >>= f).advance s = (t, .waiting i fun r => (k r).bind f) := by
  rw [bind_def]
  induction c generalizing s with
  | ret result => cases h
  | get k ih => exact ih s h
  | set u k ih => exact ih h
  | call j k =>
    cases h
    rfl

theorem advance_tryCatch_waiting {c : Co σ ε ρ α} {f : ε → Co σ ε ρ α} {s t : σ} {i : ι}
    {k : Except ε (ρ i) → Co σ ε ρ α} (h : c.advance s = (t, .waiting i k)) :
    (tryCatch c f).advance s = (t, .waiting i fun r => (k r).handle f) := by
  rw [tryCatch_def]
  induction c generalizing s with
  | ret result => cases h
  | get k ih => exact ih s h
  | set u k ih => exact ih h
  | call j k =>
    cases h
    rfl

/-!
### Runs alone

Every request is answered, and nothing else touches the state meanwhile.
-/

/-- The whole run, the `n`-th request taking the `n`-th answer. -/
def runWith (answers : Nat → (i : ι) → Except ε (ρ i)) : Nat → Co σ ε ρ α → σ → σ × Except ε α
  | _, ret result, s => (s, result)
  | n, get k, s => runWith answers n (k s) s
  | n, set s k, _ => runWith answers n k s
  | n, call i k, s => runWith answers (n + 1) (k (answers n i)) s

@[simp] theorem runWith_ret {answers : Nat → (i : ι) → Except ε (ρ i)} {n : Nat} {s : σ}
    (result : Except ε α) : (ret result : Co σ ε ρ α).runWith answers n s = (s, result) := rfl

/-!
### Segments

Between two suspensions a coroutine runs a segment, on account of being started or of an answer. A
relation on the states at both ends of every segment is checked along the program once, and holds
whatever runs in between.
-/

inductive Cause (ε : Type) {ι : Type} (ρ : ι → Type) where
  | started
  | answered (i : ι) (r : Except ε (ρ i))

/-- Every segment of the coroutine stays within `R`, the last one ends in `Q`; `s₀` is the state
the current segment began in and `s` the one it has reached. -/
def Segments (R : Cause ε ρ → σ → σ → Prop) (Q : Cause ε ρ → σ → σ → Except ε α → Prop) :
    Cause ε ρ → σ → σ → Co σ ε ρ α → Prop
  | cause, s₀, s, ret result => Q cause s₀ s result
  | cause, s₀, s, get k => Segments R Q cause s₀ s (k s)
  | cause, s₀, _, set s k => Segments R Q cause s₀ s k
  | cause, s₀, s, call i k =>
    R cause s₀ s ∧ ∀ r t, Segments R Q (.answered i r) t t (k r)

section Rules

variable {R : Cause ε ρ → σ → σ → Prop} {cause : Cause ε ρ} {s₀ s : σ}

theorem Segments.bind {P : Cause ε ρ → σ → σ → Except ε α → Prop}
    {Q : Cause ε ρ → σ → σ → Except ε β → Prop} {c : Co σ ε ρ α} {f : α → Co σ ε ρ β}
    (hc : Segments R P cause s₀ s c)
    (hok : ∀ cause s₀ s a, P cause s₀ s (.ok a) → Segments R Q cause s₀ s (f a))
    (herror : ∀ cause s₀ s e, P cause s₀ s (.error e) → Q cause s₀ s (.error e)) :
    Segments R Q cause s₀ s (c >>= f) := by
  rw [bind_def]
  induction c generalizing cause s₀ s with
  | ret result =>
    cases result with
    | ok a => exact hok _ _ _ a hc
    | error e => exact herror _ _ _ e hc
  | get k ih => exact ih s hc
  | set t k ih => exact ih hc
  | call i k ih => exact ⟨hc.1, fun r t => ih r (hc.2 r t)⟩

theorem Segments.handle {P Q : Cause ε ρ → σ → σ → Except ε α → Prop} {c : Co σ ε ρ α}
    {f : ε → Co σ ε ρ α} (hc : Segments R P cause s₀ s c)
    (hok : ∀ cause s₀ s a, P cause s₀ s (.ok a) → Q cause s₀ s (.ok a))
    (herror : ∀ cause s₀ s e, P cause s₀ s (.error e) → Segments R Q cause s₀ s (f e)) :
    Segments R Q cause s₀ s (tryCatch c f) := by
  rw [tryCatch_def]
  induction c generalizing cause s₀ s with
  | ret result =>
    cases result with
    | ok a => exact hok _ _ _ a hc
    | error e => exact herror _ _ _ e hc
  | get k ih => exact ih s hc
  | set t k ih => exact ih hc
  | call i k ih => exact ⟨hc.1, fun r t => ih r (hc.2 r t)⟩

/-- What a stop says of the segment that ends there, and of those to come. -/
def Stop.Ends (R : Cause ε ρ → σ → σ → Prop) (Q : Cause ε ρ → σ → σ → Except ε α → Prop)
    (cause : Cause ε ρ) (s₀ s : σ) : Stop σ ε ρ α → Prop
  | .done result => Q cause s₀ s result
  | .waiting i k => R cause s₀ s ∧ ∀ r t, Segments R Q (.answered i r) t t (k r)

theorem Segments.advance {Q : Cause ε ρ → σ → σ → Except ε α → Prop} {c : Co σ ε ρ α}
    (h : Segments R Q cause s₀ s c) : (c.advance s).2.Ends R Q cause s₀ (c.advance s).1 := by
  induction c generalizing s with
  | ret result => exact h
  | get k ih => exact ih s h
  | set t k ih => exact ih h
  | call i k ih => exact h

theorem Segments.mono {R' : Cause ε ρ → σ → σ → Prop}
    {P Q : Cause ε ρ → σ → σ → Except ε α → Prop} {c : Co σ ε ρ α}
    (hR : ∀ cause s₀ s, R cause s₀ s → R' cause s₀ s)
    (hPQ : ∀ cause s₀ s r, P cause s₀ s r → Q cause s₀ s r) (h : Segments R P cause s₀ s c) :
    Segments R' Q cause s₀ s c := by
  induction c generalizing cause s₀ s with
  | ret result => exact hPQ _ _ _ _ h
  | get k ih => exact ih s h
  | set t k ih => exact ih h
  | call i k ih => exact ⟨hR _ _ _ h.1, fun r t => ih r (h.2 r t)⟩

/-- The coroutine keeps to `R` in all its segments. -/
def Within (R : Cause ε ρ → σ → σ → Prop) (cause : Cause ε ρ) (s₀ s : σ) (c : Co σ ε ρ α) : Prop :=
  Segments R (fun cause s₀ s _ => R cause s₀ s) cause s₀ s c

/-- The continuation at a stop keeps to `R`, whatever the answer and the state it meets. -/
def Stop.Within (R : Cause ε ρ → σ → σ → Prop) : Stop σ ε ρ α → Prop
  | .done _ => True
  | .waiting i k => ∀ r t, (k r).Within R (.answered i r) t t

theorem Within.advance {c : Co σ ε ρ α} (h : c.Within R cause s₀ s) :
    R cause s₀ (c.advance s).1 ∧ (c.advance s).2.Within R := by
  have hends := Segments.advance h
  cases hstop : (c.advance s).2 with
  | done result =>
    rw [hstop] at hends
    exact ⟨hends, trivial⟩
  | waiting i k =>
    rw [hstop] at hends
    exact hends

/-- What the others do to the state while a request is under way, and the answer to the request. -/
structure Turn (σ ε : Type) {ι : Type} (ρ : ι → Type) where
  others : σ → σ
  answer : (i : ι) → Except ε (ρ i)

/-- The run among others, each request taking the next of the turns. -/
def drive : List (Turn σ ε ρ) → Co σ ε ρ α → σ → σ × Stop σ ε ρ α
  | [], c, s => c.advance s
  | turn :: rest, c, s =>
    match c.advance s with
    | (s, .waiting i k) => drive rest (k (turn.answer i)) (turn.others s)
    | (s, .done result) => (s, .done result)

/-- How a run among others stops: at the end of a segment, which began in a state that what all
segments and the others preserve holds of. -/
theorem Segments.drive {Q : Cause ε ρ → σ → σ → Except ε α → Prop} {I : σ → Prop}
    (hR : ∀ cause s₀ s, R cause s₀ s → I s₀ → I s) {c : Co σ ε ρ α}
    (hc : Segments R Q cause s₀ s c) (hI : I s₀) (turns : List (Turn σ ε ρ))
    (hothers : ∀ turn ∈ turns, ∀ s, I s → I (turn.others s)) :
    ∃ last t, I t ∧ (c.drive turns s).2.Ends R Q last t (c.drive turns s).1 := by
  induction turns generalizing cause s₀ s c with
  | nil => exact ⟨cause, s₀, hI, hc.advance⟩
  | cons turn rest ih =>
    have hends := hc.advance
    rw [Co.drive]
    cases hstop : c.advance s with
    | mk t stop =>
      rw [hstop] at hends
      cases stop with
      | done result => exact ⟨cause, s₀, hI, hends⟩
      | waiting i k =>
        have ht : I t := hR cause s₀ t hends.1 hI
        exact ih (hends.2 (turn.answer i) (turn.others t))
          (hothers turn List.mem_cons_self t ht)
          fun later hlater => hothers later (List.mem_cons_of_mem turn hlater)

end Rules

end Co

/-!
### Pools

The environment answers a request at one time and the answer is delivered at another.
-/

inductive Status (σ ε : Type) {ι : Type} (ρ : ι → Type) (α : Type) where
  | done (result : Except ε α)
  | waiting (i : ι) (k : Except ε (ρ i) → Co σ ε ρ α)
  | answered (i : ι) (r : Except ε (ρ i)) (k : Except ε (ρ i) → Co σ ε ρ α)

/-- The continuation of an unfinished thread keeps to `R`. -/
def Status.Within {σ ε ι α : Type} {ρ : ι → Type} (R : Co.Cause ε ρ → σ → σ → Prop) :
    Status σ ε ρ α → Prop
  | .done _ => True
  | .waiting i k => ∀ r t, (k r).Within R (.answered i r) t t
  | .answered i r k => ∀ t, (k r).Within R (.answered i r) t t

/-- The segments that are still to come stay within `R`, and the last one ends in `Q`. -/
def Status.Segments {σ ε ι α : Type} {ρ : ι → Type} (R : Co.Cause ε ρ → σ → σ → Prop)
    (Q : Co.Cause ε ρ → σ → σ → Except ε α → Prop) : Status σ ε ρ α → Prop
  | .done _ => True
  | .waiting i k => ∀ r t, (k r).Segments R Q (.answered i r) t t
  | .answered i r k => ∀ t, (k r).Segments R Q (.answered i r) t t

def Co.Stop.status {σ ε ι α : Type} {ρ : ι → Type} : Co.Stop σ ε ρ α → Status σ ε ρ α
  | .done result => .done result
  | .waiting i k => .waiting i k

/-- One invocation: its argument, the requests it has issued, and where it stands. -/
structure Thread (γ σ ε : Type) {ι : Type} (ρ : ι → Type) (α : Type) where
  arg : γ
  calls : List ι
  status : Status σ ε ρ α

structure Pool (γ σ ε : Type) {ι : Type} (ρ : ι → Type) (α : Type) where
  shared : σ
  threads : List (Thread γ σ ε ρ α)

inductive PoolEvent (γ ε : Type) {ι : Type} (ρ : ι → Type) where
  | start (arg : γ)
  | answer (t : Nat) (answers : (i : ι) → Except ε (ρ i))
  | deliver (t : Nat)

namespace Pool

variable {γ σ ε ι α : Type} {ρ : ι → Type} (program : γ → Co σ ε ρ α)

/-- The thread after a segment has stopped. -/
def stopped (arg : γ) (calls : List ι) (stop : Co.Stop σ ε ρ α) : Thread γ σ ε ρ α where
  arg := arg
  calls := calls ++ stop.calls
  status := stop.status

def step (p : Pool γ σ ε ρ α) : PoolEvent γ ε ρ → Option (Pool γ σ ε ρ α)
  | .start arg =>
    let (shared, stop) := (program arg).advance p.shared
    some { shared, threads := p.threads ++ [stopped arg [] stop] }
  | .answer t answers =>
    match p.threads[t]? with
    | some ⟨arg, calls, .waiting i k⟩ =>
      some { p with threads := p.threads.set t ⟨arg, calls, .answered i (answers i) k⟩ }
    | _ => none
  | .deliver t =>
    match p.threads[t]? with
    | some ⟨arg, calls, .answered _ r k⟩ =>
      let (shared, stop) := (k r).advance p.shared
      some { shared, threads := p.threads.set t (stopped arg calls stop) }
    | _ => none

def machine : Machine (Pool γ σ ε ρ α) (PoolEvent γ ε ρ) where
  step := step program

variable {program} {p q : Pool γ σ ε ρ α} {t : Nat}

theorem step_start {arg : γ} (h : step program p (.start arg) = some q) :
    q = ⟨((program arg).advance p.shared).1,
      p.threads ++ [stopped arg [] ((program arg).advance p.shared).2]⟩ := by
  cases h
  rfl

theorem step_answer {answers : (i : ι) → Except ε (ρ i)}
    (h : step program p (.answer t answers) = some q) :
    ∃ arg calls i k, p.threads[t]? = some ⟨arg, calls, .waiting i k⟩ ∧
      q = ⟨p.shared, p.threads.set t ⟨arg, calls, .answered i (answers i) k⟩⟩ := by
  simp only [step] at h
  split at h
  case h_1 arg calls i k ht =>
    cases h
    exact ⟨arg, calls, i, k, ht, rfl⟩
  case h_2 => cases h

theorem step_deliver (h : step program p (.deliver t) = some q) :
    ∃ arg calls i r k, p.threads[t]? = some ⟨arg, calls, .answered i r k⟩ ∧
      q = ⟨((k r).advance p.shared).1,
        p.threads.set t (stopped arg calls ((k r).advance p.shared).2)⟩ := by
  simp only [step] at h
  split at h
  case h_1 arg calls i r k ht =>
    cases h
    exact ⟨arg, calls, i, r, k, ht, rfl⟩
  case h_2 => cases h

/-- What holds of every new thread and survives an answer and its delivery holds of every thread. -/
theorem step_threads {J : Thread γ σ ε ρ α → Prop}
    (hstart : ∀ arg s, J (stopped arg [] ((program arg).advance s).2))
    (hanswer : ∀ arg calls i k r, J ⟨arg, calls, .waiting i k⟩ → J ⟨arg, calls, .answered i r k⟩)
    (hdeliver : ∀ arg calls i r k s, J ⟨arg, calls, .answered i r k⟩ →
      J (stopped arg calls ((k r).advance s).2))
    (event : PoolEvent γ ε ρ) (hp : ∀ th ∈ p.threads, J th) (h : step program p event = some q) :
    ∀ th ∈ q.threads, J th := by
  intro th hth
  cases event with
  | start arg =>
    rw [step_start h, List.mem_append, List.mem_singleton] at hth
    rcases hth with hth | rfl
    · exact hp th hth
    · exact hstart arg p.shared
  | answer t answers =>
    obtain ⟨arg, calls, i, k, ht, rfl⟩ := step_answer h
    rcases List.mem_or_eq_of_mem_set hth with hth | rfl
    · exact hp th hth
    · exact hanswer arg calls i k (answers i) (hp _ (List.mem_of_getElem? ht))
  | deliver t =>
    obtain ⟨arg, calls, i, r, k, ht, rfl⟩ := step_deliver h
    rcases List.mem_or_eq_of_mem_set hth with hth | rfl
    · exact hp th hth
    · exact hdeliver arg calls i r k p.shared (hp _ (List.mem_of_getElem? ht))

section Within

variable {R : Co.Cause ε ρ → σ → σ → Prop}

theorem stopped_within {arg : γ} {calls : List ι} {stop : Co.Stop σ ε ρ α} (h : stop.Within R) :
    (stopped arg calls stop).status.Within R := by
  cases stop with
  | done result => trivial
  | waiting i k => exact h

theorem step_within (hprogram : ∀ arg s, (program arg).Within R .started s s)
    (event : PoolEvent γ ε ρ) (hp : ∀ th ∈ p.threads, th.status.Within R)
    (h : step program p event = some q) : ∀ th ∈ q.threads, th.status.Within R :=
  step_threads (fun arg s => stopped_within (hprogram arg s).advance.2)
    (fun _ _ _ _ r hk => hk r)
    (fun _ _ _ _ _ s hk => stopped_within (hk s).advance.2) event hp h

theorem deliver_within (hp : ∀ th ∈ p.threads, th.status.Within R) {arg : γ} {calls : List ι}
    {i : ι} {r : Except ε (ρ i)} {k : Except ε (ρ i) → Co σ ε ρ α}
    (ht : p.threads[t]? = some ⟨arg, calls, .answered i r k⟩) :
    R (.answered i r) p.shared ((k r).advance p.shared).1 :=
  (hp _ (List.mem_of_getElem? ht) p.shared).advance.1

end Within

section Segments

variable {R : Co.Cause ε ρ → σ → σ → Prop} {Q : Co.Cause ε ρ → σ → σ → Except ε α → Prop}

theorem stopped_segments {arg : γ} {calls : List ι} {stop : Co.Stop σ ε ρ α}
    {cause : Co.Cause ε ρ} {s₀ s : σ} (h : stop.Ends R Q cause s₀ s) :
    (stopped arg calls stop).status.Segments R Q := by
  cases stop with
  | done result => trivial
  | waiting i k => exact h.2

theorem step_segments (hprogram : ∀ arg s, (program arg).Segments R Q .started s s)
    (event : PoolEvent γ ε ρ) (hp : ∀ th ∈ p.threads, th.status.Segments R Q)
    (h : step program p event = some q) : ∀ th ∈ q.threads, th.status.Segments R Q :=
  step_threads (fun arg s => stopped_segments (hprogram arg s).advance)
    (fun _ _ _ _ r hk => hk r)
    (fun _ _ _ _ _ s hk => stopped_segments (hk s).advance) event hp h

end Segments

end Pool

end Framework
