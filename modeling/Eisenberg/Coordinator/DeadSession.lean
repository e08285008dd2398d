import Eisenberg.Coordinator.Session

/-!
# The dead-session block

Any number of invocations of `call_with_session_retry` run over one coordinator. An invocation
suspends at its operation, at the login and at the retry, and nowhere else; what it does at each of
these points decides when the block is set and cleared.
-/

namespace Eisenberg.Coordinator

open Framework

section Invocation

variable {Op T : Type}

/-- An invocation of `call_with_session_retry` on one operation. -/
def invocation (o : Op) : Async (fun _ : Op => T) T :=
  callWithSessionRetry (Co.await (Request.client o))

def onLogin (o : Op) : Except Exc (List Cookie) → Async (fun _ : Op => T) T
  | .ok cookieJar =>
    .get fun s => .set { s with authIsDead := false } <|
      .get fun s => .set (saveCookies cookieJar s) <| .call (.client o) .ret
  | .error err =>
    if err.isAuthenticationError || err.isRateLimitedError then
      .get fun s => .set (markAuthDead s) <| .ret (.error (.configEntryAuthFailed err.str))
    else .ret (.error err)

def onOp (o : Op) : Except Exc T → Async (fun _ : Op => T) T
  | .ok a => .ret (.ok a)
  | .error err =>
    if err.isSessionExpiredError then .call .login (onLogin o) else .ret (.error err)

theorem retryAfterLogin_await (o : Op) (err : Exc) :
    (retryAfterLogin (Co.await (Request.client o)) err : Async (fun _ : Op => T) T) =
      onOp o (.error err) := by
  rw [retryAfterLogin, onOp]
  split
  · show Co.call _ _ = Co.call _ _
    congr 1
    funext r
    cases r with
    | ok cookieJar => rfl
    | error err =>
      show Co.bind (if _ then _ else _) _ = _
      rw [onLogin]
      split <;> rfl
  · rfl

theorem invocation_eq (o : Op) : (invocation o : Async (fun _ : Op => T) T) =
    .get fun s => if s.authIsDead then .ret (.error sessionDead)
      else .call (.client o) (onOp o) := by
  have hop : tryCatch (Co.await (Request.client o))
      (retryAfterLogin (Co.await (Request.client o))) =
      (.call (.client o) (onOp o) : Async (fun _ : Op => T) T) := by
    show Co.call _ _ = Co.call _ _
    congr 1
    funext r
    cases r with
    | ok a => rfl
    | error err => exact retryAfterLogin_await o err
  rw [invocation, callWithSessionRetry_eq, hop]

/-- Where an unfinished invocation is suspended. -/
inductive Suspension where
  | op | login | retry

namespace Suspension

def calls (o : Op) : Suspension → List (Request Op)
  | op => [.client o]
  | login => [.client o, .login]
  | retry => [.client o, .login, .client o]

def request (o : Op) : Suspension → Request Op
  | op => .client o
  | login => .login
  | retry => .client o

def resume (o : Op) : (at_ : Suspension) →
    Except Exc (Request.Reply (fun _ : Op => T) (at_.request o)) → Async (fun _ : Op => T) T
  | op => onOp o
  | login => onLogin o
  | retry => .ret

end Suspension

abbrev SessionPool (Op T : Type) :=
  Pool Op CoordinatorState Exc (Request.Reply fun _ : Op => T) T

abbrev SessionThread (Op T : Type) :=
  Thread Op CoordinatorState Exc (Request.Reply fun _ : Op => T) T

/-- An invocation is finished, or suspended at one of the three points. -/
inductive Suspended : SessionThread Op T → Prop
  | done (o : Op) (calls : List (Request Op)) (result : Except Exc T)
      (hcalls : calls <+: Suspension.retry.calls o) : Suspended ⟨o, calls, .done result⟩
  | waiting (o : Op) (at_ : Suspension) :
      Suspended ⟨o, at_.calls o, .waiting (at_.request o) (at_.resume o)⟩
  | answered (o : Op) (at_ : Suspension)
      (r : Except Exc (Request.Reply (fun _ : Op => T) (at_.request o))) :
      Suspended ⟨o, at_.calls o, .answered (at_.request o) r (at_.resume o)⟩

/-- The `except` clauses that take an exception: a rejected session at the first try, a rejected
login. -/
def Handled (calls : List (Request Op)) : Request Op → Exc → Prop
  | .login, err => err.isAuthenticationError = true ∨ err.isRateLimitedError = true
  | .client _, err => err.isSessionExpiredError = true ∧ Request.login ∉ calls

/-- What the delivery of an answer does to an invocation and to the state. -/
inductive Delivered (s : CoordinatorState) : SessionThread Op T → CoordinatorState →
    SessionThread Op T → Prop
  | returned (o : Op) (calls : List (Request Op)) (a : T)
      (k : Except Exc T → Async (fun _ : Op => T) T) :
      Delivered s ⟨o, calls, .answered (.client o) (.ok a) k⟩ s ⟨o, calls, .done (.ok a)⟩
  | expired (o : Op) (err : Exc) (herr : err.isSessionExpiredError = true) :
      Delivered s ⟨o, Suspension.op.calls o, .answered (.client o) (.error err) (onOp o)⟩ s
        ⟨o, Suspension.login.calls o, .waiting .login (onLogin o)⟩
  | loggedIn (o : Op) (cookieJar : List Cookie) :
      Delivered s ⟨o, Suspension.login.calls o, .answered .login (.ok cookieJar) (onLogin o)⟩
        (saveCookies cookieJar { s with authIsDead := false })
        ⟨o, Suspension.retry.calls o, .waiting (.client o) .ret⟩
  | rejected (o : Op) (err : Exc)
      (herr : err.isAuthenticationError = true ∨ err.isRateLimitedError = true) :
      Delivered s ⟨o, Suspension.login.calls o, .answered .login (.error err) (onLogin o)⟩
        (markAuthDead s)
        ⟨o, Suspension.login.calls o, .done (.error (.configEntryAuthFailed err.str))⟩
  | propagated (o : Op) (calls : List (Request Op)) (i : Request Op) (err : Exc)
      (k : Except Exc (Request.Reply (fun _ : Op => T) i) → Async (fun _ : Op => T) T)
      (herr : ¬ Handled calls i err) :
      Delivered s ⟨o, calls, .answered i (.error err) k⟩ s ⟨o, calls, .done (.error err)⟩

theorem delivered_op (o : Op) (r : Except Exc T) (s : CoordinatorState) :
    Delivered s ⟨o, Suspension.op.calls o, .answered (.client o) r (onOp o)⟩
      ((onOp o r).advance s).1
      (Pool.stopped o (Suspension.op.calls o) ((onOp o r).advance s).2) := by
  cases r with
  | ok a => exact .returned o _ a _
  | error err =>
    by_cases herr : err.isSessionExpiredError = true
    · rw [onOp, if_pos herr]
      exact .expired o err herr
    · rw [onOp, if_neg herr]
      exact .propagated o _ _ err _ fun h => herr h.1

theorem delivered_login (o : Op) (r : Except Exc (List Cookie)) (s : CoordinatorState) :
    Delivered s ⟨o, Suspension.login.calls o, .answered .login r (onLogin (T := T) o)⟩
      ((onLogin (T := T) o r).advance s).1
      (Pool.stopped o (Suspension.login.calls o) ((onLogin (T := T) o r).advance s).2) := by
  cases r with
  | ok cookieJar => exact .loggedIn o cookieJar
  | error err =>
    by_cases herr : (err.isAuthenticationError || err.isRateLimitedError) = true
    · rw [onLogin, if_pos herr]
      exact .rejected o err (Bool.or_eq_true_iff.mp herr)
    · rw [onLogin, if_neg herr]
      exact .propagated o _ .login err _ fun h => herr (Bool.or_eq_true_iff.mpr h)

theorem delivered_retry (o : Op) (r : Except Exc T) (s : CoordinatorState) :
    Delivered s ⟨o, Suspension.retry.calls o, .answered (.client o) r .ret⟩ s
      ⟨o, Suspension.retry.calls o, .done r⟩ := by
  cases r with
  | ok a => exact .returned o _ a _
  | error err => exact .propagated o _ _ err _ fun h => h.2 (by simp [Suspension.calls])

theorem Suspended.delivered {o : Op} {calls : List (Request Op)} {i : Request Op}
    {r : Except Exc (Request.Reply (fun _ : Op => T) i)}
    {k : Except Exc (Request.Reply (fun _ : Op => T) i) → Async (fun _ : Op => T) T}
    (h : Suspended ⟨o, calls, .answered i r k⟩) (s : CoordinatorState) :
    Delivered s ⟨o, calls, .answered i r k⟩ ((k r).advance s).1
      (Pool.stopped o calls ((k r).advance s).2) := by
  cases h with
  | answered o at_ r =>
    cases at_ with
    | op => exact delivered_op o r s
    | login => exact delivered_login o r s
    | retry => exact delivered_retry o r s

theorem Suspended.calls {th : SessionThread Op T} (h : Suspended th) :
    th.calls <+: Suspension.retry.calls th.arg := by
  have hcalls : ∀ (o : Op) (at_ : Suspension), at_.calls o <+: Suspension.retry.calls o := by
    intro o at_
    cases at_ <;> simp [Suspension.calls]
  cases h with
  | done o calls result hdone => exact hdone
  | waiting o at_ => exact hcalls o at_
  | answered o at_ r => exact hcalls o at_

theorem Delivered.suspended {s s' : CoordinatorState} {th th' : SessionThread Op T}
    (h : Delivered s th s' th') (hth : Suspended th) : Suspended th' := by
  have hcalls := hth.calls
  cases h with
  | returned o calls a k => exact .done o calls _ hcalls
  | expired o err herr => exact .waiting o .login
  | loggedIn o cookieJar => exact .waiting o .retry
  | rejected o err herr => exact .done o _ _ hcalls
  | propagated o calls i err k herr => exact .done o calls _ hcalls

theorem advance_invocation (o : Op) (s : CoordinatorState) :
    (invocation o : Async (fun _ : Op => T) T).advance s =
      if s.authIsDead then (s, .done (.error sessionDead))
      else (s, .waiting (.client o) (onOp o)) := by
  rw [invocation_eq, Co.advance_get]
  split <;> rfl

theorem suspended_of_step {p q : SessionPool Op T}
    (event : PoolEvent Op Exc (Request.Reply fun _ : Op => T))
    (hp : ∀ th ∈ p.threads, Suspended th) (h : Pool.step invocation p event = some q) :
    ∀ th ∈ q.threads, Suspended th := by
  refine Pool.step_threads ?_ ?_ ?_ event hp h
  · intro o s
    rw [advance_invocation]
    split
    · exact .done o [] _ (List.nil_prefix)
    · exact .waiting o .op
  · intro o calls i k r hth
    cases hth with
    | waiting o at_ => exact .answered o at_ r
  · intro o calls i r k s hth
    exact (hth.delivered s).suspended hth

/-- The steps that change the shared state: a login returned, or was rejected. -/
theorem step_shared {p q : SessionPool Op T}
    {event : PoolEvent Op Exc (Request.Reply fun _ : Op => T)}
    (hp : ∀ th ∈ p.threads, Suspended th) (h : Pool.step invocation p event = some q) :
    q.shared = p.shared ∨
      (∃ t o calls cookieJar k, event = .deliver t ∧
        p.threads[t]? = some ⟨o, calls, .answered .login (.ok cookieJar) k⟩ ∧
        q.shared = saveCookies cookieJar { p.shared with authIsDead := false }) ∨
      ∃ t o calls err k, event = .deliver t ∧
        p.threads[t]? = some ⟨o, calls, .answered .login (.error err) k⟩ ∧
        (err.isAuthenticationError = true ∨ err.isRateLimitedError = true) ∧
        q.shared = markAuthDead p.shared := by
  cases event with
  | start o =>
    left
    rw [Pool.step_start h, advance_invocation]
    split <;> rfl
  | answer t answers =>
    obtain ⟨o, calls, i, k, ht, rfl⟩ := Pool.step_answer h
    exact Or.inl rfl
  | deliver t =>
    obtain ⟨o, calls, i, r, k, ht, rfl⟩ := Pool.step_deliver h
    have hth := hp _ (List.mem_of_getElem? ht)
    have hdelivered := hth.delivered p.shared
    generalize (k r).advance p.shared = stopped at hdelivered
    obtain ⟨s', stop⟩ := stopped
    generalize Pool.stopped o calls stop = th' at hdelivered
    cases hdelivered with
    | returned _ _ a k => exact Or.inl rfl
    | expired _ err herr => exact Or.inl rfl
    | loggedIn _ cookieJar => exact Or.inr (Or.inl ⟨t, o, _, cookieJar, _, rfl, ht, rfl⟩)
    | rejected _ err herr => exact Or.inr (Or.inr ⟨t, o, _, err, _, rfl, ht, herr, rfl⟩)
    | propagated _ _ i err k herr => exact Or.inl rfl

/-- What holds of a set of invocations and of every step it can take. -/
structure DeadSessionBlock (p : SessionPool Op T) : Prop where
  /-- An invocation that starts while the session is dead ends at once, with no request. -/
  blocked : ∀ o q, Pool.step invocation p (.start o) = some q → p.shared.authIsDead = true →
    q = ⟨p.shared, p.threads ++ [⟨o, [], .done (.error sessionDead)⟩]⟩
  setByLogin : ∀ event q, Pool.step invocation p event = some q → p.shared.authIsDead = false →
    q.shared.authIsDead = true → ∃ t o calls err k, event = .deliver t ∧
      p.threads[t]? = some ⟨o, calls, .answered .login (.error err) k⟩ ∧
      (err.isAuthenticationError = true ∨ err.isRateLimitedError = true)
  reauthOnce : ∀ event q, Pool.step invocation p event = some q →
    q.shared.reauthStarts = p.shared.reauthStarts +
      if p.shared.authIsDead = false ∧ q.shared.authIsDead = true then 1 else 0
  clearedByLogin : ∀ event q, Pool.step invocation p event = some q →
    p.shared.authIsDead = true → q.shared.authIsDead = false →
    ∃ t o calls cookieJar k, event = .deliver t ∧
      p.threads[t]? = some ⟨o, calls, .answered .login (.ok cookieJar) k⟩
  attempts : ∀ th ∈ p.threads, th.calls.countP (! ·.isLogin) ≤ 2 ∧
    th.calls.countP (·.isLogin) ≤ 1 ∧ ∀ i ∈ th.calls, i = .login ∨ i = .client th.arg
  /-- An exception no `except` clause takes ends the invocation unchanged, and changes nothing. -/
  propagates : ∀ t q o calls i err k,
    p.threads[t]? = some ⟨o, calls, .answered i (.error err) k⟩ → ¬ Handled calls i err →
    Pool.step invocation p (.deliver t) = some q →
    q = ⟨p.shared, p.threads.set t ⟨o, calls, .done (.error err)⟩⟩

theorem Suspended.attempts {th : SessionThread Op T} (h : Suspended th) :
    th.calls.countP (! ·.isLogin) ≤ 2 ∧ th.calls.countP (·.isLogin) ≤ 1 ∧
      ∀ i ∈ th.calls, i = .login ∨ i = .client th.arg := by
  have hcalls := h.calls.sublist
  refine ⟨Nat.le_trans hcalls.countP_le ?_, Nat.le_trans hcalls.countP_le ?_, ?_⟩
  · simp [Suspension.calls, Request.isLogin]
  · simp [Suspension.calls, Request.isLogin]
  · intro i hi
    have hmem := hcalls.subset hi
    simp only [Suspension.calls, List.mem_cons, List.not_mem_nil, or_false] at hmem
    tauto

theorem deadSessionBlock_of_suspended {p : SessionPool Op T}
    (hp : ∀ th ∈ p.threads, Suspended th) : DeadSessionBlock p where
  blocked o q h hdead := by
    rw [Pool.step_start h, advance_invocation, if_pos hdead]
    rfl
  setByLogin event q h hlive hdead := by
    rcases step_shared hp h with hq | ⟨t, o, calls, cookieJar, k, -, -, hq⟩ |
      ⟨t, o, calls, err, k, hevent, ht, herr, -⟩
    · simp [hq, hlive] at hdead
    · simp [hq] at hdead
    · exact ⟨t, o, calls, err, k, hevent, ht, herr⟩
  reauthOnce event q h := by
    rcases step_shared hp h with hq | ⟨t, o, calls, cookieJar, k, -, -, hq⟩ |
      ⟨t, o, calls, err, k, -, -, -, hq⟩
    · cases hdead : p.shared.authIsDead <;> simp [hq, hdead]
    · simp [hq]
    · rw [hq, markAuthDead_reauthStarts]
      cases hdead : p.shared.authIsDead <;> simp
  clearedByLogin event q h hdead hlive := by
    rcases step_shared hp h with hq | ⟨t, o, calls, cookieJar, k, hevent, ht, -⟩ |
      ⟨t, o, calls, err, k, -, -, -, hq⟩
    · simp [hq, hdead] at hlive
    · exact ⟨t, o, calls, cookieJar, k, hevent, ht⟩
    · simp [hq] at hlive
  attempts th hth := (hp th hth).attempts
  propagates t q o calls i err k ht herr h := by
    obtain ⟨o', calls', i', r, k', ht', rfl⟩ := Pool.step_deliver h
    rw [ht] at ht'
    cases ht'
    have hdelivered := (hp _ (List.mem_of_getElem? ht)).delivered p.shared
    generalize (k (.error err)).advance p.shared = stopped at hdelivered ⊢
    obtain ⟨s', stop⟩ := stopped
    simp only at hdelivered ⊢
    generalize Pool.stopped o calls stop = th' at hdelivered ⊢
    cases hdelivered with
    | expired _ err hexpired => exact absurd ⟨hexpired, by simp [Suspension.calls]⟩ herr
    | rejected _ err hrejected => exact absurd hrejected herr
    | propagated _ _ i err k => rfl

theorem dead_session_block {s : CoordinatorState} {p : SessionPool Op T}
    (hreach : (Pool.machine invocation).Reachable ⟨s, []⟩ p) : DeadSessionBlock p := by
  have hsuspended : ∀ th ∈ p.threads, Suspended th := by
    refine hreach.invariant (I := fun p => ∀ th ∈ p.threads, Suspended th) ?_ ?_
    · intro th hth
      cases hth
    · intro p event q hp h
      exact suspended_of_step event hp h
  exact deadSessionBlock_of_suspended hsuspended

end Invocation

/-- The operation finds the session expired, and the login is rejected. -/
def rejecting : (i : Request String) → Except Exc (Request.Reply (fun _ : String => Unit) i)
  | .login => .error (.mfaRequired [])
  | .client _ => .error (.sessionExpiredError "Invalid Token")

/-- Two streams are under way when both find their login rejected; a third one is blocked. -/
theorem dead_session_block_two_rejections :
    @DeadSessionBlock String Unit
      ⟨{ authIsDead := true, reauthStarts := 1 },
        [⟨"front door", [.client "front door", .login],
            .done (.error (.configEntryAuthFailed (Exc.mfaRequired []).str))⟩,
          ⟨"garden", [.client "garden", .login],
            .done (.error (.configEntryAuthFailed (Exc.mfaRequired []).str))⟩,
          ⟨"porch", [], .done (.error sessionDead)⟩]⟩ :=
  dead_session_block (s := {}) ⟨[.start "front door", .start "garden",
    .answer 0 rejecting, .deliver 0, .answer 1 rejecting, .deliver 1,
    .answer 0 rejecting, .deliver 0, .answer 1 rejecting, .deliver 1, .start "porch"], rfl⟩

end Eisenberg.Coordinator
