import Eisenberg.Coordinator.DeadSession
import Mathlib.Algebra.GroupWithZero.Nat

/-!
# Logins spent on a dead session

Every operation finds the session expired and every login is rejected. The block is looked at when
an invocation starts and set when its login has been answered, so that invocations which are past
the look and short of the login each spend one.
-/

namespace Eisenberg.Coordinator

open Framework

section Attempts

variable {Op T : Type}

abbrev SessionEvent (Op T : Type) := PoolEvent Op Exc (Request.Reply fun _ : Op => T)

/-- Every operation is answered with an expired session, every login with an auth verdict. -/
def Rejects : SessionEvent Op T → Prop
  | .answer _ answers =>
    (∀ o, ∃ err, answers (.client o) = .error err ∧ err.isSessionExpiredError = true) ∧
      ∃ err, answers .login = .error err ∧
        (err.isAuthenticationError = true ∨ err.isRateLimitedError = true)
  | _ => True

@[simp] theorem rejects_start (o : Op) : Rejects (.start o : SessionEvent Op T) := trivial

@[simp] theorem rejects_deliver (t : Nat) : Rejects (.deliver t : SessionEvent Op T) := trivial

def loginsOf (th : SessionThread Op T) : Nat := th.calls.countP (·.isLogin)

/-- The calls of `client.login()` so far. -/
def loginCalls (p : SessionPool Op T) : Nat := (p.threads.map loginsOf).sum

/-- The invocation awaits its login, or has not yet been told how it ended. -/
def AwaitsLogin : SessionThread Op T → Prop
  | ⟨_, _, .waiting .login _⟩ => True
  | ⟨_, _, .answered .login _ _⟩ => True
  | _ => False

/-- The action delivers the failure of the operation an invocation has tried first. -/
def DeliversFailure (p : SessionPool Op T) : SessionEvent Op T → Prop
  | .deliver t => ∃ o err, p.threads[t]? =
      some ⟨o, Suspension.op.calls o, .answered (.client o) (.error err) (onOp o)⟩
  | _ => False

/-- An operation that has failed meets no block, and no login that is under way. -/
def FailsAlone (p : SessionPool Op T) (event : SessionEvent Op T) : Prop :=
  DeliversFailure p event →
    p.shared.authIsDead = false ∧ ∀ th ∈ p.threads, ¬ AwaitsLogin th

/-- The answers under way are rejections. -/
def Rejected : SessionThread Op T → Prop
  | ⟨_, _, .answered .login r _⟩ => ∃ err, r = .error err ∧
      (err.isAuthenticationError = true ∨ err.isRateLimitedError = true)
  | ⟨_, _, .answered (.client _) r _⟩ => ∃ err, r = .error err ∧ err.isSessionExpiredError = true
  | _ => True

/-- A session on which no login has been spent yet, or one that is blocked or about to be told. -/
structure Spending (p : SessionPool Op T) : Prop where
  suspended : ∀ th ∈ p.threads, Suspended th
  rejected : ∀ th ∈ p.threads, Rejected th
  /-- A login has been spent just in case it is still under way, or has blocked the session. -/
  spent : 0 < loginCalls p ↔ p.shared.authIsDead = true ∨ ∃ th ∈ p.threads, AwaitsLogin th

theorem sum_map_set {α : Type} (f : α → Nat) {l : List α} {t : Nat} {a b : α}
    (ht : l[t]? = some a) : ((l.set t b).map f).sum + f a = (l.map f).sum + f b := by
  induction l generalizing t with
  | nil => cases ht
  | cons x l ih =>
    cases t with
    | zero =>
      cases ht
      simp only [List.set_cons_zero, List.map_cons, List.sum_cons]
      omega
    | succ t =>
      have hrest := ih ht
      simp only [List.set_cons_succ, List.map_cons, List.sum_cons]
      omega

theorem loginCalls_of_set {p : SessionPool Op T} {t : Nat} {th : SessionThread Op T}
    (s : CoordinatorState) (th' : SessionThread Op T) (ht : p.threads[t]? = some th) :
    loginCalls ⟨s, p.threads.set t th'⟩ + loginsOf th = loginCalls p + loginsOf th' :=
  sum_map_set loginsOf ht

theorem loginCalls_of_append (p : SessionPool Op T) (s : CoordinatorState)
    (th : SessionThread Op T) :
    loginCalls ⟨s, p.threads ++ [th]⟩ = loginCalls p + loginsOf th := by
  simp [loginCalls]

theorem exists_awaitsLogin_of_set {threads : List (SessionThread Op T)} {t : Nat}
    {th : SessionThread Op T} (th' : SessionThread Op T) (ht : threads[t]? = some th)
    (hawaits : AwaitsLogin th' ↔ AwaitsLogin th) :
    (∃ u ∈ threads.set t th', AwaitsLogin u) ↔ ∃ u ∈ threads, AwaitsLogin u := by
  have hlt : t < threads.length := (List.getElem?_eq_some_iff.mp ht).1
  constructor
  · rintro ⟨u, hu, huawaits⟩
    rcases List.mem_or_eq_of_mem_set hu with hu | rfl
    · exact ⟨u, hu, huawaits⟩
    · exact ⟨th, List.mem_of_getElem? ht, hawaits.mp huawaits⟩
  · rintro ⟨u, hu, huawaits⟩
    obtain ⟨n, hn⟩ := List.mem_iff_getElem?.mp hu
    by_cases heq : t = n
    · subst heq
      rw [ht] at hn
      cases hn
      exact ⟨th', List.mem_set hlt th', hawaits.mpr huawaits⟩
    · exact ⟨u, List.mem_iff_getElem?.mpr ⟨n, by rw [List.getElem?_set_ne heq, hn]⟩, huawaits⟩

/-- An invocation that awaits its login has asked for it. -/
theorem Suspended.loginsOf_of_awaitsLogin {th : SessionThread Op T} (h : Suspended th)
    (hawaits : AwaitsLogin th) : 0 < loginsOf th := by
  cases h with
  | done o calls result hcalls => cases hawaits
  | waiting o at_ =>
    cases at_ with
    | op => cases hawaits
    | login => simp [loginsOf, Suspension.calls, Request.isLogin]
    | retry => cases hawaits
  | answered o at_ r =>
    cases at_ with
    | op => cases hawaits
    | login => simp [loginsOf, Suspension.calls, Request.isLogin]
    | retry => cases hawaits

theorem loginCalls_pos_of_awaitsLogin {p : SessionPool Op T} (hp : ∀ th ∈ p.threads, Suspended th)
    {th : SessionThread Op T} (hth : th ∈ p.threads) (hawaits : AwaitsLogin th) :
    0 < loginCalls p :=
  List.sum_pos_iff_exists_pos_nat.mpr ⟨loginsOf th, List.mem_map.mpr ⟨th, hth, rfl⟩,
    (hp th hth).loginsOf_of_awaitsLogin hawaits⟩

/-- What the delivery of a rejection does to an invocation. -/
inductive Refused (s : CoordinatorState) : SessionThread Op T → CoordinatorState →
    SessionThread Op T → Prop
  | login (o : Op) (err : Exc) :
      Refused s ⟨o, Suspension.op.calls o, .answered (.client o) (.error err) (onOp o)⟩ s
        ⟨o, Suspension.login.calls o, .waiting .login (onLogin o)⟩
  | blocked (o : Op) (err : Exc) (result : Except Exc T) :
      Refused s ⟨o, Suspension.login.calls o, .answered .login (.error err) (onLogin o)⟩
        (markAuthDead s) ⟨o, Suspension.login.calls o, .done result⟩
  | ended (o : Op) (calls : List (Request Op)) (r : Except Exc T)
      (k : Except Exc T → Async (fun _ : Op => T) T) (result : Except Exc T)
      (hlogin : Request.login ∈ calls) :
      Refused s ⟨o, calls, .answered (.client o) r k⟩ s ⟨o, calls, .done result⟩

theorem Suspended.refused {o : Op} {calls : List (Request Op)} {i : Request Op}
    {r : Except Exc (Request.Reply (fun _ : Op => T) i)}
    {k : Except Exc (Request.Reply (fun _ : Op => T) i) → Async (fun _ : Op => T) T}
    (h : Suspended ⟨o, calls, .answered i r k⟩) (hrejected : Rejected ⟨o, calls, .answered i r k⟩)
    (s : CoordinatorState) :
    Refused s ⟨o, calls, .answered i r k⟩ ((k r).advance s).1
      (Pool.stopped o calls ((k r).advance s).2) := by
  cases h with
  | answered o at_ r =>
    cases at_ with
    | op =>
      obtain ⟨err, rfl, hexpired⟩ := hrejected
      show Refused s _ ((onOp (T := T) o (.error err)).advance s).1
        (Pool.stopped o _ ((onOp (T := T) o (.error err)).advance s).2)
      rw [onOp, if_pos hexpired]
      exact .login o err
    | login =>
      obtain ⟨err, rfl, hverdict⟩ := hrejected
      show Refused s _ ((onLogin (T := T) o (.error err)).advance s).1
        (Pool.stopped o _ ((onLogin (T := T) o (.error err)).advance s).2)
      rw [onLogin, if_pos (Bool.or_eq_true_iff.mpr hverdict)]
      exact .blocked o err _
    | retry => exact .ended o _ r _ r (by simp [Suspension.calls])

/-- What a step does, when all is rejected, to the logins spent. -/
structure Spent (p q : SessionPool Op T) (event : SessionEvent Op T) : Prop where
  spending : Spending q
  more : DeliversFailure p event → loginCalls q = loginCalls p + 1
  same : ¬ DeliversFailure p event → loginCalls q = loginCalls p

theorem step_start_rejected {p q : SessionPool Op T} {o : Op}
    (h : Pool.step invocation p (.start o) = some q) :
    ∃ th, q = ⟨p.shared, p.threads ++ [th]⟩ ∧ loginsOf th = 0 ∧ ¬ AwaitsLogin th ∧
      Rejected th := by
  rw [Pool.step_start h, advance_invocation]
  split
  · exact ⟨_, rfl, rfl, id, trivial⟩
  · exact ⟨_, rfl, rfl, id, trivial⟩

theorem Spending.start {p q : SessionPool Op T} (hp : Spending p) {o : Op}
    (h : Pool.step invocation p (.start o) = some q) : Spent p q (.start o) := by
  have hsuspended := suspended_of_step _ hp.suspended h
  obtain ⟨th, rfl, hlogins, hawaits, hrejected⟩ := step_start_rejected h
  have hsame : loginCalls ⟨p.shared, p.threads ++ [th]⟩ = loginCalls p := by
    rw [loginCalls_of_append, hlogins, Nat.add_zero]
  refine ⟨⟨hsuspended, ?_, ?_⟩, False.elim, fun _ => hsame⟩
  · intro u hu
    rcases List.mem_append.mp hu with hu | hu
    · exact hp.rejected u hu
    · rw [List.mem_singleton.mp hu]
      exact hrejected
  · rw [hsame, hp.spent]
    simp only [List.mem_append, List.mem_singleton, or_and_right, exists_or, exists_eq_left,
      hawaits, or_false]

theorem Spending.answer {p q : SessionPool Op T} (hp : Spending p) {t : Nat}
    {answers : (i : Request Op) → Except Exc (Request.Reply (fun _ : Op => T) i)}
    (hanswers : Rejects (.answer t answers : SessionEvent Op T))
    (h : Pool.step invocation p (.answer t answers) = some q) : Spent p q (.answer t answers) := by
  have hsuspended := suspended_of_step _ hp.suspended h
  obtain ⟨o, calls, i, k, ht, rfl⟩ := Pool.step_answer h
  have hsame : loginCalls ⟨p.shared, p.threads.set t ⟨o, calls, .answered i (answers i) k⟩⟩ =
      loginCalls p := by
    have hset := loginCalls_of_set p.shared ⟨o, calls, .answered i (answers i) k⟩ ht
    simp only [loginsOf] at hset
    omega
  refine ⟨⟨hsuspended, ?_, ?_⟩, False.elim, fun _ => hsame⟩
  · intro u hu
    rcases List.mem_or_eq_of_mem_set hu with hu | rfl
    · exact hp.rejected u hu
    · cases i with
      | login => exact hanswers.2
      | client o => exact hanswers.1 o
  · rw [hsame, hp.spent, exists_awaitsLogin_of_set _ ht (by cases i <;> exact Iff.rfl)]

/-- An invocation whose operation has failed has not asked for a login. -/
theorem not_deliversFailure {p : SessionPool Op T} {t : Nat} {o : Op} {calls : List (Request Op)}
    {status} (ht : p.threads[t]? = some ⟨o, calls, status⟩) (hlogin : Request.login ∈ calls) :
    ¬ DeliversFailure p (.deliver t) := by
  rintro ⟨o', err, ho'⟩
  rw [ht] at ho'
  cases ho'
  simp [Suspension.calls] at hlogin

theorem Spending.deliver {p q : SessionPool Op T} (hp : Spending p) {t : Nat}
    (h : Pool.step invocation p (.deliver t) = some q) : Spent p q (.deliver t) := by
  have hsuspended := suspended_of_step _ hp.suspended h
  obtain ⟨o, calls, i, r, k, ht, rfl⟩ := Pool.step_deliver h
  have hmem := List.mem_of_getElem? ht
  have hlt : t < p.threads.length := (List.getElem?_eq_some_iff.mp ht).1
  have hrefused := (hp.suspended _ hmem).refused (hp.rejected _ hmem) p.shared
  generalize (k r).advance p.shared = stopped at hrefused hsuspended ⊢
  obtain ⟨s', stop⟩ := stopped
  simp only at hrefused hsuspended ⊢
  generalize Pool.stopped o calls stop = th' at hrefused hsuspended ⊢
  have hset := loginCalls_of_set s' th' ht
  have hrest : Rejected th' → ∀ u ∈ p.threads.set t th', Rejected u := by
    intro hth' u hu
    rcases List.mem_or_eq_of_mem_set hu with hu | rfl
    · exact hp.rejected u hu
    · exact hth'
  cases hrefused with
  | login _ err =>
    have hmore : loginCalls ⟨p.shared, p.threads.set t
        ⟨o, Suspension.login.calls o, .waiting .login (onLogin o)⟩⟩ = loginCalls p + 1 := by
      simpa [loginsOf, Suspension.calls, Request.isLogin] using hset
    refine ⟨⟨hsuspended, hrest trivial, ?_⟩, fun _ => hmore, ?_⟩
    · constructor
      · intro _
        exact Or.inr ⟨_, List.mem_set hlt _, trivial⟩
      · intro _
        omega
    · intro hnot
      exact absurd ⟨o, err, ht⟩ hnot
  | blocked _ err result =>
    have hspent : 0 < loginCalls p :=
      loginCalls_pos_of_awaitsLogin hp.suspended hmem trivial
    have hsame : loginCalls ⟨markAuthDead p.shared, p.threads.set t
        ⟨o, Suspension.login.calls o, .done result⟩⟩ = loginCalls p := by
      simp only [loginsOf] at hset
      omega
    refine ⟨⟨hsuspended, hrest trivial, ?_⟩, ?_, fun _ => hsame⟩
    · rw [hsame]
      simp [hspent]
    · intro hdelivers
      exact absurd hdelivers (not_deliversFailure ht (by simp [Suspension.calls]))
  | ended _ _ r k result hlogin =>
    have hsame : loginCalls ⟨p.shared, p.threads.set t ⟨o, calls, .done result⟩⟩ =
        loginCalls p := by
      simp only [loginsOf] at hset
      omega
    refine ⟨⟨hsuspended, hrest trivial, ?_⟩, ?_, fun _ => hsame⟩
    · rw [hsame, hp.spent]
      exact or_congr_right (exists_awaitsLogin_of_set ⟨o, calls, .done result⟩ ht Iff.rfl).symm
    · intro hdelivers
      exact absurd hdelivers (not_deliversFailure ht hlogin)

theorem Spending.step {p q : SessionPool Op T} (hp : Spending p) {event : SessionEvent Op T}
    (hrejects : Rejects event) (h : Pool.step invocation p event = some q) :
    Spent p q event := by
  cases event with
  | start o => exact hp.start h
  | answer t answers => exact hp.answer hrejects h
  | deliver t => exact hp.deliver h

theorem Spending.loginCalls_le {p q : SessionPool Op T} (hp : Spending p)
    {events : List (SessionEvent Op T)} (hrejects : ∀ event ∈ events, Rejects event)
    (hrun : (Pool.machine invocation).run p events = some q) : loginCalls p ≤ loginCalls q := by
  induction events generalizing p with
  | nil =>
    cases hrun
    exact Nat.le_refl _
  | cons event events ih =>
    obtain ⟨u, hu, hrest⟩ := Machine.run_cons_eq_some _ |>.mp hrun
    obtain ⟨hu', hmore, hsame⟩ := hp.step (hrejects event List.mem_cons_self) hu
    have hle := ih hu' (fun later hlater => hrejects later (List.mem_cons_of_mem _ hlater)) hrest
    by_cases hdelivers : DeliversFailure p event
    · have := hmore hdelivers
      omega
    · have := hsame hdelivers
      omega

theorem Spending.once {p q : SessionPool Op T} (hp : Spending p)
    {events : List (SessionEvent Op T)} (hrejects : ∀ event ∈ events, Rejects event)
    (hrun : (Pool.machine invocation).run p events = some q) (honce : loginCalls p ≤ 1) :
    loginCalls q ≤ 1 ↔ (Pool.machine invocation).Along FailsAlone p events := by
  induction events generalizing p with
  | nil =>
    cases hrun
    exact iff_of_true honce trivial
  | cons event events ih =>
    obtain ⟨u, hu, hrest⟩ := Machine.run_cons_eq_some _ |>.mp hrun
    obtain ⟨hu', hmore, hsame⟩ := hp.step (hrejects event List.mem_cons_self) hu
    have hlater : ∀ event ∈ events, Rejects event :=
      fun later hlater => hrejects later (List.mem_cons_of_mem _ hlater)
    rw [Machine.along_cons_of_step _ hu]
    by_cases hdelivers : DeliversFailure p event
    · have hone := hmore hdelivers
      by_cases hspent : 0 < loginCalls p
      -- The second failure that is told of finds a login spent, and spends another one.
      · have hle := hu'.loginCalls_le hlater hrest
        refine iff_of_false (by omega) ?_
        rintro ⟨halone, -⟩
        obtain ⟨hlive, hnone⟩ := halone hdelivers
        rcases hp.spent.mp hspent with hdead | ⟨th, hth, hawaits⟩
        · simp [hlive] at hdead
        · exact hnone th hth hawaits
      · have halone : FailsAlone p event := by
          intro _
          refine ⟨?_, ?_⟩
          · by_contra hdead
            exact hspent (hp.spent.mpr (Or.inl (by simpa using hdead)))
          · intro th hth hawaits
            exact hspent (hp.spent.mpr (Or.inr ⟨th, hth, hawaits⟩))
        rw [ih hu' hlater hrest (by omega)]
        exact ⟨fun h => ⟨halone, h⟩, And.right⟩
    · rw [ih hu' hlater hrest (by rw [hsame hdelivers]; exact honce)]
      exact ⟨fun h => ⟨fun h' => absurd h' hdelivers, h⟩, And.right⟩

theorem spending_of_live {s : CoordinatorState} (hlive : s.authIsDead = false) :
    Spending (⟨s, []⟩ : SessionPool Op T) where
  suspended _ hth := by cases hth
  rejected _ hth := by cases hth
  spent := by simp [loginCalls, hlive]

/-- Over a session that rejects everything, at most one login is spent just in case every operation
that fails does so with no login under way and no block set. -/
theorem loginCalls_le_one_iff {s : CoordinatorState} (hlive : s.authIsDead = false)
    {events : List (SessionEvent Op T)} (hrejects : ∀ event ∈ events, Rejects event)
    {p : SessionPool Op T} (hrun : (Pool.machine invocation).run ⟨s, []⟩ events = some p) :
    loginCalls p ≤ 1 ↔ (Pool.machine invocation).Along FailsAlone ⟨s, []⟩ events :=
  (spending_of_live hlive).once hrejects hrun (Nat.zero_le 1)

end Attempts

/-- An invocation that starts finds no block. -/
def StartsLive {Op T : Type} (p : SessionPool Op T) : SessionEvent Op T → Prop
  | .start _ => p.shared.authIsDead = false
  | _ => True

/-- Two streams that are opened together, each over the expired session. -/
def openedTogether : List (SessionEvent String Unit) :=
  [.start "front door", .start "garden", .answer 0 rejecting, .answer 1 rejecting,
    .deliver 0, .deliver 1, .answer 0 rejecting, .answer 1 rejecting, .deliver 0, .deliver 1]

theorem rejecting_rejects (t : Nat) :
    Rejects (.answer t rejecting : SessionEvent String Unit) :=
  ⟨fun _ => ⟨_, rfl, rfl⟩, _, rfl, Or.inl rfl⟩

theorem openedTogether_rejects : ∀ event ∈ openedTogether, Rejects event := by
  simp [openedTogether, rejecting_rejects]

/-- Opened one after the other, the second stream finds the block. -/
theorem loginCalls_le_one_iff_one_by_one :
    loginCalls (⟨{ authIsDead := true, reauthStarts := 1 },
        [⟨"front door", [.client "front door", .login],
            .done (.error (.configEntryAuthFailed (Exc.mfaRequired []).str))⟩,
          ⟨"garden", [], .done (.error sessionDead)⟩]⟩ : SessionPool String Unit) ≤ 1 ↔
      (Pool.machine invocation).Along FailsAlone (⟨{}, []⟩ : SessionPool String Unit)
        [.start "front door", .answer 0 rejecting, .deliver 0, .answer 0 rejecting, .deliver 0,
          .start "garden"] :=
  loginCalls_le_one_iff (s := {}) rfl
    (by simp [rejecting_rejects]) rfl

/-- Each of the streams opened together spends a login. -/
theorem openedTogether_spends_two :
    (∀ event ∈ openedTogether, Rejects event) ∧
      (Pool.machine invocation).Along StartsLive (⟨{}, []⟩ : SessionPool String Unit)
        openedTogether ∧
      ∃ p : SessionPool String Unit,
        (Pool.machine invocation).run ⟨{}, []⟩ openedTogether = some p ∧ loginCalls p = 2 := by
  refine ⟨openedTogether_rejects, ?_, _, rfl, rfl⟩
  refine ⟨rfl, fun p hp => ?_⟩
  cases hp
  exact ⟨rfl, fun p hp => ⟨trivial, fun _ _ => ⟨trivial, fun _ _ => ⟨trivial, fun _ _ =>
    ⟨trivial, fun _ _ => ⟨trivial, fun _ _ => ⟨trivial, fun _ _ => ⟨trivial, fun _ _ =>
      ⟨trivial, fun _ _ => trivial⟩⟩⟩⟩⟩⟩⟩⟩⟩

end Eisenberg.Coordinator
