import Eisenberg.Framework.Coroutine
import Mathlib.Order.Basic

/-!
# What a program knows

Answers teach: from them a program learns what its later requests may be made of. `learns` says what,
`allows` which requests are allowed with it, and `holds` which states of the shared fields.
Whatever else happens to the fields between two segments, what is known only grows.
-/

namespace Framework

variable {σ ε ι κ α β γ : Type} {ρ : ι → Type}

/-- What the answers of a service teach. -/
structure Lore (σ ε : Type) {ι : Type} (ρ : ι → Type) (κ : Type) [Preorder κ] where
  learns : κ → (i : ι) → Except ε (ρ i) → κ
  allows : κ → ι → Prop
  holds : κ → σ → Prop
  grows : ∀ known i r, known ≤ learns known i r
  learns_mono : ∀ {known more} i r, known ≤ more → learns known i r ≤ learns more i r
  holds_mono : ∀ {known more s}, known ≤ more → holds known s → holds more s

namespace Co

variable [Preorder κ] {lore : Lore σ ε ρ κ} {known : κ}

/-- The program asks for nothing but what is allowed with what is known, and keeps the fields so,
whatever it is answered. -/
def Stays (lore : Lore σ ε ρ κ) : Co σ ε ρ α → κ → Prop
  | ret _, _ => True
  | get k, known => ∀ s, lore.holds known s → Stays lore (k s) known
  | set s k, known => lore.holds known s ∧ Stays lore k known
  | call i k, known =>
    lore.allows known i ∧ ∀ r more, lore.learns known i r ≤ more → Stays lore (k r) more

section Rules

theorem stays_ret (result : Except ε α) : Stays lore (ret result) known := trivial

theorem stays_pure (a : α) : Stays lore (pure a) known := trivial

theorem stays_throw (e : ε) : Stays lore (throw e : Co σ ε ρ α) known := trivial

theorem stays_ret_bind {x : Except ε α} {f : α → Co σ ε ρ β}
    (hf : ∀ a, x = .ok a → Stays lore (f a) known) : Stays lore (ret x >>= f) known := by
  cases x with
  | ok a => exact hf a rfl
  | error e => exact trivial

theorem stays_get_bind {f : σ → Co σ ε ρ β}
    (hf : ∀ s, lore.holds known s → Stays lore (f s) known) :
    Stays lore (MonadState.get >>= f) known := hf

theorem stays_modify {g : σ → σ} (hg : ∀ s, lore.holds known s → lore.holds known (g s)) :
    Stays lore (modify g) known := fun s hs => ⟨hg s hs, trivial⟩

theorem stays_modify_bind {g : σ → σ} {f : Unit → Co σ ε ρ β}
    (hg : ∀ s, lore.holds known s → lore.holds known (g s)) (hf : Stays lore (f ()) known) :
    Stays lore (modify g >>= f) known := fun s hs => ⟨hg s hs, hf⟩

theorem stays_call {i : ι} {k : Except ε (ρ i) → Co σ ε ρ α} (hallows : lore.allows known i)
    (hk : ∀ r more, lore.learns known i r ≤ more → Stays lore (k r) more) :
    Stays lore (call i k) known := ⟨hallows, hk⟩

/-- What follows knows at least as much. -/
theorem Stays.bind {c : Co σ ε ρ α} {f : α → Co σ ε ρ β} (h : Stays lore c known)
    (hf : ∀ more, known ≤ more → ∀ a, Stays lore (f a) more) : Stays lore (c >>= f) known := by
  rw [bind_def]
  induction c generalizing known with
  | ret result =>
    cases result with
    | ok a => exact hf known (le_refl known) a
    | error e => exact trivial
  | get k ih => exact fun s hs => ih s (h s hs) hf
  | set s k ih => exact ⟨h.1, ih h.2 hf⟩
  | call i k ih =>
    refine ⟨h.1, ?_⟩
    intro r more hmore
    apply ih r (h.2 r more hmore)
    intro later hlater
    exact hf later ((lore.grows known i r).trans (hmore.trans hlater))

end Rules

/-- The same of what is left where a program has stopped. -/
def Stop.Stays (lore : Lore σ ε ρ κ) (known : κ) : Stop σ ε ρ α → Prop
  | .done _ => True
  | .waiting i k => lore.allows known i ∧
      ∀ r more, lore.learns known i r ≤ more → (k r).Stays lore more

theorem Stays.advance {c : Co σ ε ρ α} {s : σ} (h : Stays lore c known)
    (hs : lore.holds known s) :
    lore.holds known (c.advance s).1 ∧ (c.advance s).2.Stays lore known := by
  induction c generalizing s with
  | ret result => exact ⟨hs, trivial⟩
  | get k ih => exact ih s (h s hs) hs
  | set t k ih => exact ih h.2 h.1
  | call i k => exact ⟨hs, h⟩

end Co

/-! ## Pools -/

namespace Pool

variable (program : γ → Co σ ε ρ α)

/-- The request that a step has issued. -/
def issued (q : Pool γ σ ε ρ α) : PoolEvent γ ε ρ → Option ι
  | .start _ => q.threads.getLast?.bind pending
  | .deliver t => q.threads[t]?.bind pending
  | .answer _ _ => none
where
  pending (th : Thread γ σ ε ρ α) : Option ι :=
    match th.status with
    | .waiting i _ => some i
    | _ => none

/-- The answer that a step has brought, with its request. -/
def answered (p : Pool γ σ ε ρ α) : PoolEvent γ ε ρ → Option ((i : ι) × Except ε (ρ i))
  | .answer t answers =>
    match p.threads[t]? with
    | some ⟨_, _, .waiting i _⟩ => some ⟨i, answers i⟩
    | _ => none
  | .start _ | .deliver _ => none

variable [Preorder κ]

def taught (lore : Lore σ ε ρ κ) (known : κ) (p : Pool γ σ ε ρ α) (event : PoolEvent γ ε ρ) : κ :=
  match answered p event with
  | some ⟨i, r⟩ => lore.learns known i r
  | none => known

/-- A pool, what its answers have taught, and the requests it has issued, each with what was known
then. -/
structure Ledger (γ σ ε : Type) {ι : Type} (ρ : ι → Type) (α κ : Type) where
  pool : Pool γ σ ε ρ α
  known : κ
  log : List (ι × κ) := []

/-- The start of a pool without threads. -/
def Ledger.fresh (known : κ) (s : σ) : Ledger γ σ ε ρ α κ := { pool := ⟨s, []⟩, known }

def ledger (lore : Lore σ ε ρ κ) : Machine (Ledger γ σ ε ρ α κ) (PoolEvent γ ε ρ) where
  step l event := (step program l.pool event).map fun q =>
    { pool := q
      known := taught lore l.known l.pool event
      log := l.log ++ (issued q event).toList.map fun i => (i, l.known) }

variable {program} {lore : Lore σ ε ρ κ} {known : κ} {p q : Pool γ σ ε ρ α}

/-- The same of what is left of a thread. -/
def Within (lore : Lore σ ε ρ κ) (known : κ) (th : Thread γ σ ε ρ α) : Prop :=
  match th.status with
  | .done _ => True
  | .waiting i k =>
    ∀ r more, lore.learns known i r ≤ more → (k r).Stays lore more
  | .answered _ r k => ∀ more, known ≤ more → (k r).Stays lore more

theorem Within.mono {th : Thread γ σ ε ρ α} {more : κ} (h : Within lore known th)
    (hmore : known ≤ more) : Within lore more th := by
  obtain ⟨arg, calls, status⟩ := th
  cases status with
  | done result => trivial
  | waiting i k => exact fun r later hlater => h r later ((lore.learns_mono i r hmore).trans hlater)
  | answered i r k => exact fun later hlater => h later (hmore.trans hlater)

theorem within_stopped {arg : γ} {calls : List ι} {stop : Co.Stop σ ε ρ α}
    (h : stop.Stays lore known) : Within lore known (stopped arg calls stop) := by
  cases stop with
  | done result => trivial
  | waiting i k => exact h.2

theorem allows_pending {arg : γ} {calls : List ι} {stop : Co.Stop σ ε ρ α}
    (h : stop.Stays lore known) {i : ι} (hi : issued.pending (stopped arg calls stop) = some i) :
    lore.allows known i := by
  cases stop with
  | done result => cases hi
  | waiting j k =>
    cases hi
    exact h.1

/-- What holds of a pool between two steps. -/
structure Learned (lore : Lore σ ε ρ κ) (known : κ) (p : Pool γ σ ε ρ α) : Prop where
  shared : lore.holds known p.shared
  threads : ∀ th ∈ p.threads, Within lore known th

theorem Learned.step (hprogram : ∀ arg known, (program arg).Stays lore known)
    (h : Learned lore known p) {event : PoolEvent γ ε ρ} (hstep : step program p event = some q) :
    Learned lore (taught lore known p event) q ∧
      ∀ i, issued q event = some i → lore.allows known i := by
  cases event with
  | start arg =>
    rw [step_start hstep]
    obtain ⟨hshared, hstop⟩ := (hprogram arg known).advance h.shared
    refine ⟨⟨hshared, ?_⟩, ?_⟩
    · intro th hth
      rcases List.mem_append.mp hth with hold | hnew
      · exact h.threads th hold
      · rw [List.mem_singleton.mp hnew]
        exact within_stopped hstop
    · intro i hi
      apply allows_pending hstop
      simpa [issued] using hi
  | answer t answers =>
    obtain ⟨arg, calls, i, k, ht, rfl⟩ := step_answer hstep
    have htaught : taught lore known p (.answer t answers) = lore.learns known i (answers i) := by
      simp only [taught, answered, ht]
    rw [htaught]
    have hgrows := lore.grows known i (answers i)
    refine ⟨⟨lore.holds_mono hgrows h.shared, ?_⟩, fun j hj => by cases hj⟩
    intro th hth
    rcases List.mem_or_eq_of_mem_set hth with hold | rfl
    · exact (h.threads th hold).mono hgrows
    · have hwaiting := h.threads _ (List.mem_of_getElem? ht)
      exact hwaiting (answers i)
  | deliver t =>
    obtain ⟨arg, calls, i, r, k, ht, rfl⟩ := step_deliver hstep
    have hanswered : (k r).Stays lore known :=
      h.threads _ (List.mem_of_getElem? ht) known (le_refl known)
    obtain ⟨hshared, hstop⟩ := hanswered.advance h.shared
    refine ⟨⟨hshared, ?_⟩, ?_⟩
    · intro th hth
      rcases List.mem_or_eq_of_mem_set hth with hold | rfl
      · exact h.threads th hold
      · exact within_stopped hstop
    · intro j hj
      have hlt : t < p.threads.length := (List.getElem?_eq_some_iff.mp ht).1
      apply allows_pending hstop
      simpa [issued, hlt] using hj

/-- Programs that ask for nothing but what is allowed with what they know do so together too,
whatever is answered and however they interleave. -/
theorem allowed_of_reachable (hprogram : ∀ arg known, (program arg).Stays lore known) {s : σ}
    (hs : lore.holds known s) {l : Ledger γ σ ε ρ α κ}
    (h : (ledger program lore).Reachable (.fresh known s) l) :
    ∀ x ∈ l.log, lore.allows x.2 x.1 := by
  have hfresh : Learned lore known (Ledger.fresh known s : Ledger γ σ ε ρ α κ).pool :=
    ⟨hs, by simp [Ledger.fresh]⟩
  have hinvariant : Learned lore l.known l.pool ∧ ∀ x ∈ l.log, lore.allows x.2 x.1 := by
    apply h.invariant (I := fun l => Learned lore l.known l.pool ∧ ∀ x ∈ l.log, lore.allows x.2 x.1)
    · exact ⟨hfresh, by simp [Ledger.fresh]⟩
    · rintro l event l' ⟨hlearned, hlog⟩ hstep
      obtain ⟨q, hq, rfl⟩ := Option.map_eq_some_iff.mp hstep
      obtain ⟨hnext, hissued⟩ := hlearned.step hprogram hq
      refine ⟨hnext, ?_⟩
      intro x hx
      rcases List.mem_append.mp hx with hold | hnew
      · exact hlog x hold
      · obtain ⟨i, hi, rfl⟩ := List.mem_map.mp hnew
        exact hissued i (Option.mem_toList.mp hi)
  exact hinvariant.2

end Pool

end Framework
