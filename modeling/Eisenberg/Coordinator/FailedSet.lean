import Eisenberg.Client.FailedLogin
import Eisenberg.Client.Shapes
import Eisenberg.Coordinator.Modes
import Eisenberg.Coordinator.SetActiveMode
import Eisenberg.Framework.Trace

/-!
# A mode set that fails

What a call of `async_set_active_mode` leaves behind when it raises: the mode of the location is as
it was, but the refetch between the two PUTs writes whatever revision it reads, and 1 when it reads
none.
-/

namespace Eisenberg.Coordinator

open Framework

/-- How a request comes back: the client raises, or there is a body to read. -/
inductive Outcome where
  | raised (err : Exc)
  | body (value : Json)

def Outcome.read {α : Type} (f : Json → Except Exc α) : Outcome → Except Exc α
  | raised err => .error err
  | body value => f value

/-- What the logins and the requests of a call come back with. -/
structure ModeOutcomes where
  logins : Nat → Except Exc (List Cookie)
  replies : Nat → Outcome

def ModeOutcomes.answers (env : Client.ClientEnv) (o : ModeOutcomes) :
    Nat → (i : Request ModeRequest) → Except Exc (ModeReply i)
  | n, .login => o.logins n
  | n, .client (.setActiveMode _ _ _ _) => (o.replies n).read (Client.readSetMode env)
  | n, .client (.getActiveMode _) => (o.replies n).read (Client.readActiveMode env)

abbrev ModeExchange := (i : Request ModeRequest) × Except Exc (ModeReply i)

/-! ## What the replies say -/

section Replies

variable (env : Client.ClientEnv) (o : ModeOutcomes)

/-- The request is one on the mode of this location. -/
def AboutLocation (locationId : String) : Request ModeRequest → Prop
  | .client (.setActiveMode id _ _ _) | .client (.getActiveMode id) => id = locationId
  | .login => False

def Refuses (body : Json) : Prop := Client.Has "success" (fun success => success = .bool false) body

/-- The revision that stands in the body, refused or not. -/
def Carries (body : Json) (revision : Int) : Prop :=
  Client.Has "revision" (fun value => env.scalars.int value = some revision)
    (Client.dataOrBody body)

/-- A successful reply that carries this revision. -/
def Tells (body : Json) (revision : Int) : Prop := ¬ Refuses body ∧ Carries env body revision

def Outcome.Tells (outcome : Outcome) (revision : Int) : Prop :=
  ∃ body, outcome = .body body ∧ Coordinator.Tells env body revision

/-- What a failed silent login leaves the caller with. -/
def loginError (err : Exc) : Exc :=
  if err.isAuthenticationError || err.isRateLimitedError then .configEntryAuthFailed err.str
  else err

/-- How a PUT whose first request takes the `n`-th reply comes to nothing, if it does: the reply to
its last request, what is raised, and the number of the next reply. A rejected session is logged in
again once. -/
def putFails (n : Nat) : Option (Outcome × Exc × Nat) :=
  match (o.replies n).read (Client.readSetMode env) with
  | .ok _ => none
  | .error err =>
    if err.isSessionExpiredError then
      match o.logins (n + 1) with
      | .error err => some (o.replies n, loginError err, n + 2)
      | .ok _ =>
        match (o.replies (n + 2)).read (Client.readSetMode env) with
        | .ok _ => none
        | .error err => some (o.replies (n + 2), err, n + 3)
    else some (o.replies n, err, n + 1)

variable {env}

/-- A PUT is answered with an API error or a rejected session only by a refusal. -/
theorem not_tells_of_refused {outcome : Outcome} {err : Exc} {revision : Int}
    (h : outcome.read (Client.readSetMode env) = .error err)
    (herr : err.isAPIError = true ∨ err.isSessionExpiredError = true) :
    ¬ outcome.Tells env revision := by
  rintro ⟨body, rfl, hsuccess, -⟩
  have hread : Client.readActiveMode env body = .error err := by
    simp only [Outcome.read, Client.readSetMode] at h
    cases hitem : body.item "success" with
    | error _ => rwa [hitem] at h
    | ok success =>
      simp only [hitem] at h
      split_ifs at h with hfalse
      · refine absurd ⟨success, Client.item_ok_iff.mp hitem, ?_⟩ hsuccess
        cases success <;> simp_all [Client.isFalse]
      · exact h
  have hbuiltin : Raises Client.IsBuiltin (Client.readActiveMode env body) :=
    Client.raises_validated Client.isBuiltin_builtin _
  rw [hread] at hbuiltin
  obtain ⟨kind, message, rfl⟩ := hbuiltin
  rcases herr with herr | herr <;> cases herr

end Replies

/-! ## The course of a PUT -/

section Course

variable {env : Client.ClientEnv} {o : ModeOutcomes} {n : Nat} {s : CoordinatorState}
variable {location : LocationState} {locationId mode : String}
variable {custom : Option (Dict String String)}

/-- A reply to a request on the location tells this revision, the replies counted from the `n`-th. -/
def ToldIn (env : Client.ClientEnv) (o : ModeOutcomes) (locationId : String) (n : Nat)
    (exchanges : List ModeExchange) (revision : Int) : Prop :=
  ∃ i request answer, exchanges[i]? = some ⟨request, answer⟩ ∧ AboutLocation locationId request ∧
    (o.replies (n + i)).Tells env revision

@[simp] theorem toldIn_nil (revision : Int) : ¬ ToldIn env o locationId n [] revision := by
  rintro ⟨i, request, answer, hx, -, -⟩
  simp at hx

theorem toldIn_cons (x : ModeExchange) (exchanges : List ModeExchange) (revision : Int) :
    ToldIn env o locationId n (x :: exchanges) revision ↔
      AboutLocation locationId x.1 ∧ (o.replies n).Tells env revision ∨
        ToldIn env o locationId (n + 1) exchanges revision := by
  constructor
  · rintro ⟨i, request, answer, hx, habout, htells⟩
    cases i with
    | zero =>
      obtain rfl := Option.some.inj hx
      exact Or.inl ⟨habout, htells⟩
    | succ i =>
      refine Or.inr ⟨i, request, answer, hx, habout, ?_⟩
      rwa [Nat.add_assoc, Nat.add_comm 1 i]
  · rintro (⟨habout, htells⟩ | ⟨i, request, answer, hx, habout, htells⟩)
    · exact ⟨0, x.1, x.2, rfl, habout, htells⟩
    · refine ⟨i + 1, request, answer, hx, habout, ?_⟩
      rwa [Nat.add_comm i 1, ← Nat.add_assoc]

theorem toldIn_append (first second : List ModeExchange) (revision : Int) :
    ToldIn env o locationId n (first ++ second) revision ↔
      ToldIn env o locationId n first revision ∨
        ToldIn env o locationId (n + first.length) second revision := by
  induction first generalizing n with
  | nil => simp
  | cons x first ih =>
    rw [List.cons_append, toldIn_cons, toldIn_cons, ih, or_assoc, List.length_cons,
      Nat.add_right_comm, Nat.add_assoc]

/-- How a PUT under `call_with_session_retry` ends, by the replies. -/
inductive PutEnds (env : Client.ClientEnv) (o : ModeOutcomes) (locationId : String) (n : Nat)
    (s t : CoordinatorState) (exchanges : List ModeExchange) (m : Nat) :
    Except Exc ActiveModeState → Prop
  | accepted {result : ActiveModeState} (hlocations : t.locations = s.locations)
      (hfails : putFails env o n = none) : PutEnds env o locationId n s t exchanges m (.ok result)
  | failed {last : Outcome} {err : Exc} (hlocations : t.locations = s.locations)
      (hfails : putFails env o n = some (last, err, m))
      (hlive : err.isAPIError = true → t.authIsDead = false)
      (hlength : m = n + exchanges.length)
      (htold : ∀ revision, ToldIn env o locationId n exchanges revision ↔ last.Tells env revision) :
      PutEnds env o locationId n s t exchanges m (.error err)

theorem run_doSet : (doSet location locationId mode custom).run (o.answers env) n s =
    (s, (o.replies n).read (Client.readSetMode env), n + 1) := rfl

theorem trace_doSet : ∃ revision, (doSet location locationId mode custom).trace (o.answers env) n s =
    [⟨.client (.setActiveMode locationId mode revision custom),
      (o.replies n).read (Client.readSetMode env)⟩] := ⟨_, rfl⟩

/-- The login of `call_with_session_retry`, by its answer. -/
def retryLogin : ModeAsync Unit :=
  tryCatch loginSilent fun err =>
    if err.isAuthenticationError || err.isRateLimitedError then do
      modify markAuthDead
      throw (.configEntryAuthFailed err.str)
    else throw err

theorem trace_retryLogin :
    retryLogin.trace (o.answers env) n s = [⟨.login, o.logins n⟩] := by
  unfold retryLogin loginSilent
  rw [Co.trace_tryCatch, Co.trace_bind, Co.run_bind, Co.run_await, Co.trace_await]
  show ([⟨.login, o.logins n⟩] : List ModeExchange) ++
    Co.traceThen _ _ (s, o.logins n, n + 1) ++ Co.traceElse _ _
    (Co.andThen _ _ (s, o.logins n, n + 1)) = _
  cases o.logins n with
  | ok cookieJar => rfl
  | error err =>
    show _ ++ [] ++ (if err.isAuthenticationError || err.isRateLimitedError then _ else _ :
      ModeAsync Unit).trace _ _ _ = _
    split <;> rfl

theorem run_retryLogin_ok {cookieJar : List Cookie} (h : o.logins n = .ok cookieJar) :
    retryLogin.run (o.answers env) n s =
      (saveCookies cookieJar { s with authIsDead := false }, .ok (), n + 1) := by
  unfold retryLogin loginSilent
  rw [Co.run_tryCatch, Co.run_bind, Co.run_await]
  show Co.orElse _ _ (Co.andThen _ _ (s, o.logins n, n + 1)) = _
  rw [h]
  rfl

theorem run_retryLogin_error {err : Exc} (h : o.logins n = .error err) (hs : s.authIsDead = false) :
    ∃ t, retryLogin.run (o.answers env) n s = (t, .error (loginError err), n + 1) ∧
      t.locations = s.locations ∧ ((loginError err).isAPIError = true → t.authIsDead = false) := by
  have hrun : retryLogin.run (o.answers env) n s =
      (if err.isAuthenticationError || err.isRateLimitedError then do
        modify markAuthDead
        throw (.configEntryAuthFailed err.str)
      else throw err : ModeAsync Unit).run (o.answers env) (n + 1) s := by
    unfold retryLogin loginSilent
    rw [Co.run_tryCatch, Co.run_bind, Co.run_await]
    show Co.orElse _ _ (Co.andThen _ _ (s, o.logins n, n + 1)) = _
    rw [h]
    rfl
  rw [hrun]
  unfold loginError
  split
  · exact ⟨markAuthDead s, rfl, markAuthDead_locations s, nofun⟩
  · exact ⟨s, rfl, rfl, fun _ => hs⟩

/-- The PUT itself is the first request, and what its reply is tells the rest. -/
theorem callWithSessionRetry_doSet (hs : s.authIsDead = false) :
    ∃ revision,
      (callWithSessionRetry (doSet location locationId mode custom)).run (o.answers env) n s =
        Co.orElse (o.answers env) (retryAfterLogin (doSet location locationId mode custom))
          (s, (o.replies n).read (Client.readSetMode env), n + 1) ∧
      (callWithSessionRetry (doSet location locationId mode custom)).trace (o.answers env) n s =
        ⟨.client (.setActiveMode locationId mode revision custom),
          (o.replies n).read (Client.readSetMode env)⟩ ::
        Co.traceElse (o.answers env) (retryAfterLogin (doSet location locationId mode custom))
          (s, (o.replies n).read (Client.readSetMode env), n + 1) := by
  obtain ⟨revision, htrace⟩ :=
    @trace_doSet env o n s location locationId mode custom
  refine ⟨revision, ?_, ?_⟩
  · rw [callWithSessionRetry_eq]
    show (if s.authIsDead = true then _ else _ : ModeAsync _).run _ _ _ = _
    rw [hs, if_neg (by decide), Co.run_tryCatch, run_doSet]
  · rw [callWithSessionRetry_eq]
    show (if s.authIsDead = true then _ else _ : ModeAsync _).trace _ _ _ = _
    rw [hs, if_neg (by decide), Co.trace_tryCatch, run_doSet, htrace]
    rfl

theorem retryAfterLogin_expired {err : Exc} (h : err.isSessionExpiredError = true) :
    retryAfterLogin (doSet location locationId mode custom) err =
      retryLogin >>= fun _ => doSet location locationId mode custom := by
  rw [retryAfterLogin, if_pos h]
  rfl

theorem retryAfterLogin_other {err : Exc} (h : err.isSessionExpiredError = false) :
    retryAfterLogin (doSet location locationId mode custom) err = .ret (.error err) := by
  rw [retryAfterLogin, if_neg (by simp [h])]
  rfl

theorem putEnds_again {cookieJar : List Cookie} {err : Exc} {exchanges : List ModeExchange}
    {revision second : Int}
    (hread : (o.replies n).read (Client.readSetMode env) = .error err)
    (hexpired : err.isSessionExpiredError = true) (hlogin : o.logins (n + 1) = .ok cookieJar)
    (hexchanges : exchanges =
      [⟨.client (.setActiveMode locationId mode revision custom), .error err⟩,
        ⟨.login, o.logins (n + 1)⟩,
        ⟨.client (.setActiveMode locationId mode second custom),
          (o.replies (n + 2)).read (Client.readSetMode env)⟩]) :
    PutEnds env o locationId n s (saveCookies cookieJar { s with authIsDead := false }) exchanges
      (n + 3) ((o.replies (n + 2)).read (Client.readSetMode env)) := by
  have hlocations : (saveCookies cookieJar { s with authIsDead := false }).locations =
      s.locations := saveCookies_locations cookieJar _
  cases hsecond : (o.replies (n + 2)).read (Client.readSetMode env) with
  | ok result => exact .accepted hlocations (by simp [putFails, hread, hexpired, hlogin, hsecond])
  | error err' =>
    have hfails : putFails env o n = some (o.replies (n + 2), err', n + 3) := by
      simp [putFails, hread, hexpired, hlogin, hsecond]
    refine .failed hlocations hfails (fun _ => by simp) ?_ ?_
    · rw [hexchanges]
      rfl
    · intro told
      have hfirst : ¬ (o.replies n).Tells env told := not_tells_of_refused hread (Or.inr hexpired)
      simp [hexchanges, toldIn_cons, AboutLocation, hfirst]

theorem putEnds (hs : s.authIsDead = false) :
    PutEnds env o locationId n s
      ((callWithSessionRetry (doSet location locationId mode custom)).run (o.answers env) n s).1
      ((callWithSessionRetry (doSet location locationId mode custom)).trace (o.answers env) n s)
      ((callWithSessionRetry (doSet location locationId mode custom)).run (o.answers env) n s).2.2
      ((callWithSessionRetry (doSet location locationId mode custom)).run
        (o.answers env) n s).2.1 := by
  obtain ⟨revision, hrun, htrace⟩ :=
    @callWithSessionRetry_doSet env o n s location locationId mode custom hs
  rw [hrun, htrace]
  cases hread : (o.replies n).read (Client.readSetMode env) with
  | ok result => exact .accepted rfl (by simp [putFails, hread])
  | error err =>
    simp only [Co.orElse, Co.traceElse]
    cases hexpired : err.isSessionExpiredError with
    | false =>
      rw [retryAfterLogin_other hexpired]
      have hfails : putFails env o n = some (o.replies n, err, n + 1) := by
        simp [putFails, hread, hexpired]
      refine .failed rfl hfails (fun _ => hs) rfl ?_
      intro told
      simp [toldIn_cons, AboutLocation, Co.trace]
    | true =>
      rw [retryAfterLogin_expired hexpired, Co.run_bind, Co.trace_bind, trace_retryLogin]
      cases hlogin : o.logins (n + 1) with
      | ok cookieJar =>
        rw [run_retryLogin_ok hlogin]
        exact putEnds_again hread hexpired hlogin (by rw [hlogin]; rfl)
      | error lerr =>
        obtain ⟨t, hlogged, hlocations, hlive⟩ := run_retryLogin_error hlogin hs
        rw [hlogged]
        have hfails : putFails env o n = some (o.replies n, loginError lerr, n + 2) := by
          simp [putFails, hread, hexpired, hlogin]
        refine .failed hlocations hfails hlive rfl ?_
        intro told
        simp [toldIn_cons, AboutLocation]

theorem not_tells_of_putFails {last : Outcome} {err : Exc} {m : Nat} {revision : Int}
    (h : putFails env o n = some (last, err, m)) (hapi : err.isAPIError = true) :
    ¬ last.Tells env revision := by
  unfold putFails at h
  cases hread : (o.replies n).read (Client.readSetMode env) with
  | ok result => simp [hread] at h
  | error refused =>
    simp only [hread] at h
    split_ifs at h with hexpired
    · cases hlogin : o.logins (n + 1) with
      | error failed =>
        simp only [hlogin, Option.some.injEq, Prod.mk.injEq] at h
        obtain ⟨rfl, -, -⟩ := h
        exact not_tells_of_refused hread (Or.inr hexpired)
      | ok cookieJar =>
        cases hsecond : (o.replies (n + 2)).read (Client.readSetMode env) with
        | ok result => simp [hlogin, hsecond] at h
        | error again =>
          simp only [hlogin, hsecond, Option.some.injEq, Prod.mk.injEq] at h
          obtain ⟨rfl, rfl, -⟩ := h
          exact not_tells_of_refused hsecond (Or.inl hapi)
    · simp only [Option.some.injEq, Prod.mk.injEq] at h
      obtain ⟨rfl, rfl, -⟩ := h
      exact not_tells_of_refused hread (Or.inl hapi)

/-- How the PUTs and the refetch of a call go: it refetches nothing that can be read and leaves the
locations alone, or it takes the revision of a body that it refetches and sends a second PUT. -/
inductive ModeCourse (env : Client.ClientEnv) (o : ModeOutcomes) (locationId : String)
    (s t : CoordinatorState) (exchanges : List ModeExchange) : Except Exc ActiveModeState → Prop
  | direct {r : Except Exc ActiveModeState} (hlocations : t.locations = s.locations)
      (hunread : ∀ first err n body, putFails env o 0 = some (first, err, n) →
        err.isAPIError = true → o.replies n = .body body → ¬ Client.ActiveModeShape env body) :
      ModeCourse env o locationId s t exchanges r
  | refetched {r : Except Exc ActiveModeState} {first : Outcome} {err : Exc} {n m : Nat}
      {body : Json} {state : ActiveModeState} {middle : CoordinatorState}
      {second : List ModeExchange} (hfirst : putFails env o 0 = some (first, err, n))
      (hapi : err.isAPIError = true) (hbody : o.replies n = .body body)
      (hread : Client.readActiveMode env body = .ok state)
      (hmiddle : middle.locations =
        s.locations.setRevision locationId (revisionOrOne state.revision))
      (hends : PutEnds env o locationId (n + 1) middle t second m r)
      (htold : ∀ revision, ToldIn env o locationId 0 exchanges revision ↔
        Tells env body revision ∨ ToldIn env o locationId (n + 1) second revision) :
      ModeCourse env o locationId s t exchanges r

/-- The refetch and the second PUT. -/
def refetchAndPut (location : LocationState) (locationId mode : String)
    (custom : Option (Dict String String)) : ModeAsync ActiveModeState := do
  let state ← Co.await (Request.client (.getActiveMode locationId))
  modify (updateLocations (·.setRevision locationId (revisionOrOne state.revision)))
  callWithSessionRetry (doSet location locationId mode custom)

theorem putMode_eq : putMode location locationId mode custom =
    tryCatch (callWithSessionRetry (doSet location locationId mode custom)) fun err =>
      if err.isAPIError then refetchAndPut location locationId mode custom else throw err := rfl

theorem refetch_course {t : CoordinatorState} {first : Outcome} {err : Exc}
    {before : List ModeExchange} (hlocations : t.locations = s.locations)
    (hlive : t.authIsDead = false) (hfirst : putFails env o 0 = some (first, err, n))
    (hapi : err.isAPIError = true) (hlength : n = 0 + before.length)
    (hbefore : ∀ revision, ToldIn env o locationId 0 before revision ↔ first.Tells env revision) :
    ModeCourse env o locationId s
      ((refetchAndPut location locationId mode custom).run (o.answers env) n t).1
      (before ++ (refetchAndPut location locationId mode custom).trace (o.answers env) n t)
      ((refetchAndPut location locationId mode custom).run (o.answers env) n t).2.1 := by
  have hrun : (refetchAndPut location locationId mode custom).run (o.answers env) n t =
      Co.andThen (o.answers env) _ (t, (o.replies n).read (Client.readActiveMode env), n + 1) :=
    Co.run_bind _ _
  have htrace : (refetchAndPut location locationId mode custom).trace (o.answers env) n t =
      ⟨.client (.getActiveMode locationId), (o.replies n).read (Client.readActiveMode env)⟩ ::
        Co.traceThen (o.answers env) _
          (t, (o.replies n).read (Client.readActiveMode env), n + 1) := Co.trace_bind _ _
  rw [hrun, htrace]
  cases hanswer : (o.replies n).read (Client.readActiveMode env) with
  | error failed =>
    refine .direct hlocations ?_
    intro first' err' n' body hfirst' _ hbody hshape
    rw [hfirst] at hfirst'
    cases hfirst'
    rw [hbody] at hanswer
    obtain ⟨state, hstate⟩ := (Client.validated_ok_iff _).mpr hshape
    exact absurd (hanswer.symm.trans hstate) nofun
  | ok state =>
    cases hreply : o.replies n with
    | raised failed =>
      rw [hreply] at hanswer
      cases hanswer
    | body body =>
      rw [hreply] at hanswer
      refine .refetched hfirst hapi hreply hanswer ?_ (putEnds hlive) ?_
      · rw [← hlocations]
        rfl
      · intro revision
        have hsilent : ¬ first.Tells env revision := not_tells_of_putFails hfirst hapi
        have hhere : (o.replies n).Tells env revision ↔ Tells env body revision := by
          simp [Outcome.Tells, hreply]
        rw [toldIn_append, hbefore, ← hlength, toldIn_cons, hhere]
        simp only [hsilent, AboutLocation, true_and, false_or]
        rfl

theorem putMode_course (hs : s.authIsDead = false) :
    ModeCourse env o locationId s
      ((putMode location locationId mode custom).run (o.answers env) 0 s).1
      ((putMode location locationId mode custom).trace (o.answers env) 0 s)
      ((putMode location locationId mode custom).run (o.answers env) 0 s).2.1 := by
  have hends : PutEnds env o locationId 0 s _ _ _ _ :=
    @putEnds env o 0 s location locationId mode custom hs
  rw [putMode_eq, Co.run_tryCatch, Co.trace_tryCatch]
  generalize (callWithSessionRetry (doSet location locationId mode custom)).trace
    (o.answers env) 0 s = before at hends ⊢
  generalize (callWithSessionRetry (doSet location locationId mode custom)).run
    (o.answers env) 0 s = ended at hends ⊢
  obtain ⟨t, r, n⟩ := ended
  cases hends with
  | accepted hlocations hfails =>
    refine .direct hlocations ?_
    intro first err n body hfirst
    rw [hfails] at hfirst
    cases hfirst
  | @failed last err hlocations hfails hlive hlength htold =>
    simp only [Co.orElse, Co.traceElse]
    cases hapi : err.isAPIError with
    | true => exact refetch_course hlocations (hlive hapi) hfails hapi hlength htold
    | false =>
      refine .direct hlocations ?_
      intro first err' n' body hfirst hapi'
      rw [hfails] at hfirst
      cases hfirst
      rw [hapi] at hapi'
      cases hapi'

theorem run_putMode_dead (hs : s.authIsDead = true) :
    (putMode location locationId mode custom).run (o.answers env) 0 s =
      (s, .error sessionDead, 0) := by
  have hput : (callWithSessionRetry (doSet location locationId mode custom)).run
      (o.answers env) 0 s = (s, .error sessionDead, 0) := by
    rw [callWithSessionRetry_eq]
    show (if s.authIsDead = true then _ else _ : ModeAsync _).run _ _ _ = _
    rw [if_pos hs]
    rfl
  rw [putMode_eq, Co.run_tryCatch, hput]
  rfl

end Course

/-! ## The location after a call -/

section Intact

variable (env : Client.ClientEnv) (o : ModeOutcomes) (s : CoordinatorState)
variable (locationId label : String)

/-- The call running alone: the state it leaves, its result, and how many answers it has taken. -/
def setRun : CoordinatorState × Except Exc Unit × Nat :=
  (asyncSetActiveMode locationId label).run (o.answers env) 0 s

/-- What it exchanges with Arlo. -/
def setExchanges : List ModeExchange :=
  (asyncSetActiveMode locationId label).trace (o.answers env) 0 s

/-- Arlo reports this revision of the location in a successful reply. -/
def Reported (revision : Int) : Prop :=
  ToldIn env o locationId 0 (setExchanges env o s locationId label) revision

/-- A call that raises leaves the location intact, but for a revision that Arlo has reported; no
call changes another location. -/
structure Intact : Prop where
  others : ∀ j, j ≠ locationId →
    (setRun env o s locationId label).1.locations.get? j = s.locations.get? j
  failed : ∀ err l, (setRun env o s locationId label).2.1 = .error err →
    s.locations.get? locationId = some l →
    ∃ revision, (setRun env o s locationId label).1.locations.get? locationId =
        some (l.setRevision revision) ∧
      (revision = l.modeRevision ∨ Reported env o s locationId label revision)

/-- The replies by which a call refetches the revision and then raises: the first PUT is refused
with an API error, the refetch is answered by a body of the right shape, and the second PUT comes to
nothing as well. -/
structure RaisesAfterRefetch (body : Json) (last : Outcome) : Prop where
  live : s.authIsDead = false
  sends : ∃ l sent, s.locations.get? locationId = some l ∧
    requestedMode l locationId label = .ok sent
  course : ∃ first err n err' m, putFails env o 0 = some (first, err, n) ∧ err.isAPIError = true ∧
    o.replies n = .body body ∧ Client.ActiveModeShape env body ∧
    putFails env o (n + 1) = some (last, err', m)

/-- The refetch is answered by a success with a revision other than 0. Short of that, the revision
that stands in the body, or 1 where none but 0 does, happens to be the one that the location has, or
one that the reply to the last PUT reports. -/
def RefetchHeard : Prop :=
  ∀ body last, RaisesAfterRefetch env o s locationId label body last →
    (∃ revision, revision ≠ 0 ∧ Tells env body revision) ∨
    ∀ revision, (Carries env body revision ∧ revision ≠ 0 ∨
        revision = 1 ∧ ∀ other, Carries env body other → other = 0) →
      (∃ l, s.locations.get? locationId = some l ∧ revision = l.modeRevision) ∨
        last.Tells env revision

variable {env o s locationId label}

theorem carries_of_read {body : Json} {state : ActiveModeState}
    (h : Client.readActiveMode env body = .ok state) :
    (∀ revision, ¬ Carries env body revision) ∧ state.revision = 0 ∨
      ∀ revision, Carries env body revision ↔ revision = state.revision := by
  have hvalid : Client.validateActiveModeState env.scalars (Client.dataOrBody body) = some state :=
    Client.validated_eq_ok.mp h
  cases hdata : Client.dataOrBody body with
  | obj fields =>
    have hget (key : String) : (Client.dataOrBody body).get? key = Json.lookup key fields := by
      rw [hdata, Json.get?]
    rw [hdata, Client.validateActiveModeState] at hvalid
    cases hlookup : Json.lookup "revision" fields with
    | none =>
      left
      simp only [hlookup, Option.bind_eq_bind, Option.bind_eq_some_iff] at hvalid
      obtain ⟨properties, -, revision, hrevision, hstate⟩ := hvalid
      obtain rfl := Option.some.inj hstate
      refine ⟨?_, (Option.some.inj hrevision).symm⟩
      rintro other ⟨value, hvalue, -⟩
      rw [hget, hlookup] at hvalue
      cases hvalue
    | some value =>
      right
      simp only [hlookup, Option.bind_eq_bind, Option.bind_eq_some_iff] at hvalid
      obtain ⟨properties, -, revision, hrevision, hstate⟩ := hvalid
      obtain rfl := Option.some.inj hstate
      intro other
      constructor
      · rintro ⟨found, hfound, hother⟩
        rw [hget, hlookup] at hfound
        obtain rfl := Option.some.inj hfound
        rw [hrevision] at hother
        exact (Option.some.inj hother).symm
      · rintro rfl
        exact ⟨value, by rw [hget, hlookup], hrevision⟩
  | _ => rw [hdata] at hvalid; cases hvalid

/-- What stands in a body that is read as a mode, or 1 where nothing but 0 does. -/
theorem carried_iff {body : Json} {state : ActiveModeState} {revision : Int}
    (h : Client.readActiveMode env body = .ok state) :
    (Carries env body revision ∧ revision ≠ 0 ∨
        revision = 1 ∧ ∀ other, Carries env body other → other = 0) ↔
      revision = revisionOrOne state.revision := by
  unfold revisionOrOne
  obtain ⟨hnone, hzero⟩ | hsome := carries_of_read h
  · simp [hnone, hzero]
  · simp only [hsome]
    split_ifs with hzero
    · simp [hzero]
    · constructor
      · rintro (⟨hrevision, -⟩ | ⟨-, hall⟩)
        · exact hrevision
        · exact absurd (hall _ rfl) hzero
      · rintro rfl
        exact Or.inl ⟨rfl, hzero⟩

/-- A reply tells the revision that the call takes from it if it is a success with one. -/
theorem tells_iff {body : Json} {state : ActiveModeState}
    (h : Client.readActiveMode env body = .ok state) :
    Tells env body (revisionOrOne state.revision) ↔
      ∃ revision, revision ≠ 0 ∧ Tells env body revision := by
  unfold revisionOrOne
  obtain ⟨hnone, -⟩ | hsome := carries_of_read h
  · simp [Tells, hnone]
  · simp only [Tells, hsome]
    split_ifs with hzero
    · simp [hzero]
    · constructor
      · intro htold
        exact ⟨state.revision, hzero, htold⟩
      · rintro ⟨revision, -, hsuccess, rfl⟩
        exact ⟨hsuccess, rfl⟩

theorem intact_of_kept (hkept : (setRun env o s locationId label).1.locations = s.locations) :
    Intact env o s locationId label where
  others := by
    intro j _
    rw [hkept]
  failed := by
    intro err l _ hl
    rw [hkept]
    exact ⟨l.modeRevision, hl, Or.inl rfl⟩

theorem intact_unsent {err : Exc}
    (hcall : (asyncSetActiveMode locationId label).advance s = (s, .done (.error err))) :
    Intact env o s locationId label := by
  apply intact_of_kept
  rw [setRun, (Co.run_of_advance_done (o.answers env) 0 hcall).1]

theorem setRun_sent {l : LocationState} {mode : String} {custom : Option (Dict String String)}
    (hl : s.locations.get? locationId = some l)
    (hrequested : requestedMode l locationId label = .ok (mode, custom)) :
    setRun env o s locationId label =
        Co.andThen (o.answers env)
          (fun result => modify (updateLocations (recordResult locationId mode custom result)))
          ((putMode l locationId mode custom).run (o.answers env) 0 s) ∧
      setExchanges env o s locationId label =
        (putMode l locationId mode custom).trace (o.answers env) 0 s := by
  obtain ⟨hrun, htrace⟩ :=
    Co.run_congr_advance (o.answers env) 0 (asyncSetActiveMode_advance hl hrequested)
  rw [setRun, setExchanges, hrun, htrace, Co.run_bind, Co.trace_bind]
  refine ⟨rfl, ?_⟩
  obtain ⟨t, r, m⟩ := (putMode l locationId mode custom).run (o.answers env) 0 s
  cases r with
  | ok result => exact List.append_nil _
  | error err => exact List.append_nil _

/-- A call that returns has to leave the other locations alone, and no more. -/
theorem intact_of_returned (hresult : (setRun env o s locationId label).2.1 = .ok ())
    (hothers : ∀ j, j ≠ locationId →
      (setRun env o s locationId label).1.locations.get? j = s.locations.get? j) :
    Intact env o s locationId label where
  others := hothers
  failed := by
    intro err l herr
    rw [hresult] at herr
    cases herr

theorem get?_recordResult_of_ne {j mode : String} (hj : j ≠ locationId)
    (custom : Option (Dict String String)) (result : ActiveModeState) (ls : Locations) :
    (recordResult locationId mode custom result ls).get? j = ls.get? j := by
  rw [recordResult_get?, if_neg hj]

theorem get?_setRevision_of_ne {j : String} (hj : j ≠ locationId) (revision : Int)
    (ls : Locations) : (ls.setRevision locationId revision).get? j = ls.get? j := by
  rw [Locations.get?_setRevision, if_neg hj]

theorem get?_setRevision_self {l : LocationState} {ls : Locations}
    (hl : ls.get? locationId = some l) (revision : Int) :
    (ls.setRevision locationId revision).get? locationId = some (l.setRevision revision) := by
  rw [Locations.get?_setRevision, if_pos rfl, hl]
  rfl

theorem intact_refetched_iff {l : LocationState} {revision : Int} {err : Exc}
    (hl : s.locations.get? locationId = some l)
    (hresult : (setRun env o s locationId label).2.1 = .error err)
    (hlocations : (setRun env o s locationId label).1.locations =
      s.locations.setRevision locationId revision) :
    Intact env o s locationId label ↔
      revision = l.modeRevision ∨ Reported env o s locationId label revision := by
  constructor
  · intro h
    obtain ⟨written, hwritten, hreported⟩ := h.failed err l hresult hl
    rw [hlocations, get?_setRevision_self hl] at hwritten
    have heq : revision = written := congrArg LocationState.modeRevision (Option.some.inj hwritten)
    rw [heq]
    exact hreported
  · intro hreported
    constructor
    · intro j hj
      rw [hlocations, get?_setRevision_of_ne hj]
    · intro err' l' _ hl'
      rw [hl] at hl'
      cases hl'
      rw [hlocations]
      exact ⟨revision, get?_setRevision_self hl revision, hreported⟩

theorem refetchHeard_iff {l : LocationState} {sent : String × Option (Dict String String)}
    {body : Json} {state : ActiveModeState} {first last : Outcome} {err err' : Exc} {n m : Nat}
    (hs : s.authIsDead = false) (hl : s.locations.get? locationId = some l)
    (hrequested : requestedMode l locationId label = .ok sent)
    (hfirst : putFails env o 0 = some (first, err, n)) (hapi : err.isAPIError = true)
    (hbody : o.replies n = .body body) (hread : Client.readActiveMode env body = .ok state)
    (hsecond : putFails env o (n + 1) = some (last, err', m)) :
    RefetchHeard env o s locationId label ↔
      revisionOrOne state.revision = l.modeRevision ∨
        Tells env body (revisionOrOne state.revision) ∨
          last.Tells env (revisionOrOne state.revision) := by
  have hshape : Client.ActiveModeShape env body := by
    rw [Client.ActiveModeShape, Client.validated_eq_ok.mp hread]
    rfl
  have hcourse : RaisesAfterRefetch env o s locationId label body last :=
    ⟨hs, ⟨l, sent, hl, hrequested⟩,
      ⟨first, err, n, err', m, hfirst, hapi, hbody, hshape, hsecond⟩⟩
  have honly : ∀ body' last', RaisesAfterRefetch env o s locationId label body' last' →
      body' = body ∧ last' = last := by
    rintro body' last' ⟨-, -, first', e, n', e', m', hfirst', -, hbody', -, hsecond'⟩
    rw [hfirst] at hfirst'
    cases hfirst'
    rw [hbody] at hbody'
    cases hbody'
    rw [hsecond] at hsecond'
    cases hsecond'
    exact ⟨rfl, rfl⟩
  constructor
  · intro h
    obtain htold | hother := h body last hcourse
    · exact Or.inr (Or.inl ((tells_iff hread).mpr htold))
    · obtain ⟨l', hl', heq⟩ | hlast := hother _ ((carried_iff hread).mpr rfl)
      · rw [hl] at hl'
        cases hl'
        exact Or.inl heq
      · exact Or.inr (Or.inr hlast)
  · intro h body' last' hcourse'
    obtain ⟨rfl, rfl⟩ := honly body' last' hcourse'
    obtain hsame | htold | hlast := h
    · right
      intro revision hrevision
      rw [(carried_iff hread).mp hrevision]
      exact Or.inl ⟨l, hl, hsame⟩
    · exact Or.inl ((tells_iff hread).mp htold)
    · right
      intro revision hrevision
      rw [(carried_iff hread).mp hrevision]
      exact Or.inr hlast

theorem refetchHeard_of_unread
    (h : ∀ first err n body, putFails env o 0 = some (first, err, n) →
      err.isAPIError = true → o.replies n = .body body → ¬ Client.ActiveModeShape env body) :
    RefetchHeard env o s locationId label := by
  rintro body last ⟨-, -, first, err, n, err', m, hfirst, hapi, hbody, hshape, -⟩
  exact absurd hshape (h first err n body hfirst hapi hbody)

theorem intact_sent_iff {l : LocationState} {mode : String} {custom : Option (Dict String String)}
    (hs : s.authIsDead = false) (hl : s.locations.get? locationId = some l)
    (hrequested : requestedMode l locationId label = .ok (mode, custom)) :
    Intact env o s locationId label ↔ RefetchHeard env o s locationId label := by
  obtain ⟨hrun, htrace⟩ :=
    @setRun_sent env o s locationId label l mode custom hl hrequested
  have hcourse := @putMode_course env o s l locationId mode custom hs
  rw [← htrace] at hcourse
  cases hput : (putMode l locationId mode custom).run (o.answers env) 0 s with
  | mk t rest =>
    obtain ⟨r, m⟩ := rest
    rw [hput] at hrun hcourse
    cases hcourse with
    | direct hlocations hunread =>
      apply iff_of_true _ (refetchHeard_of_unread hunread)
      cases r with
      | ok result =>
        apply intact_of_returned
        · rw [hrun]
          rfl
        · intro j hj
          rw [hrun]
          show (recordResult locationId mode custom result t.locations).get? j = _
          rw [get?_recordResult_of_ne hj, hlocations]
      | error err =>
        apply intact_of_kept
        rw [hrun]
        exact hlocations
    | @refetched _ _ _ _ body _ _ _ hfirst hapi hbody hread hmiddle hends htold =>
      cases hends with
      | @accepted result hlocations hfails =>
        apply iff_of_true
        · apply intact_of_returned
          · rw [hrun]
            rfl
          · intro j hj
            rw [hrun]
            show (recordResult locationId mode custom result t.locations).get? j = _
            rw [get?_recordResult_of_ne hj, hlocations, hmiddle, get?_setRevision_of_ne hj]
        · rintro body' last' ⟨-, -, first', err, n', err', m', hfirst', -, -, -, hsecond⟩
          rw [hfirst] at hfirst'
          cases hfirst'
          rw [hfails] at hsecond
          cases hsecond
      | @failed last err hlocations hfails _ _ hlast =>
        have hreported (revision : Int) : Reported env o s locationId label revision ↔
            Tells env body revision ∨ last.Tells env revision := by
          rw [Reported, htold, hlast]
        rw [refetchHeard_iff hs hl hrequested hfirst hapi hbody hread hfails, ← hreported]
        apply intact_refetched_iff hl
        · rw [hrun]
          rfl
        · rw [hrun]
          exact hlocations.trans hmiddle

/-- A call leaves the location intact exactly if the replies let its refetch be heard. -/
theorem failed_set_intact_iff (env : Client.ClientEnv) (o : ModeOutcomes) (s : CoordinatorState)
    (locationId label : String) :
    Intact env o s locationId label ↔ RefetchHeard env o s locationId label := by
  cases hl : s.locations.get? locationId with
  | none =>
    apply iff_of_true (intact_unsent (asyncSetActiveMode_unknown hl))
    rintro body last ⟨-, ⟨l, sent, hsome, -⟩, -⟩
    rw [hl] at hsome
    cases hsome
  | some l =>
    cases hrequested : requestedMode l locationId label with
    | error err =>
      apply iff_of_true (intact_unsent (asyncSetActiveMode_refused hl hrequested))
      rintro body last ⟨-, ⟨l', sent, hsome, hsent⟩, -⟩
      rw [hl] at hsome
      cases hsome
      rw [hrequested] at hsent
      cases hsent
    | ok sent =>
      cases hs : s.authIsDead with
      | false => exact intact_sent_iff hs hl hrequested
      | true =>
        apply iff_of_true
        · apply intact_of_kept
          rw [(setRun_sent hl hrequested).1, run_putMode_dead hs]
          rfl
        · rintro body last ⟨hlive, -, -⟩
          rw [hs] at hlive
          cases hlive

/-- Arlo refuses, and says so. -/
def refusal : Json :=
  .obj [("success", .bool false),
    ("data", .obj [("error", .str "4006"), ("message", .str "Revision mismatch")])]

/-- Both PUTs and the refetch are refused. -/
def allRefused : ModeOutcomes where
  logins := fun _ => .ok []
  replies := fun _ => .body refusal

/-- A house at revision 7. -/
def houseAtSeven : CoordinatorState where
  locations := ⟨[{ homeLocation with modeRevision := 7 }], by decide⟩

set_option maxRecDepth 10000 in
/-- The refused refetch is read as revision 1, which Arlo has never reported. -/
theorem refused_refetch_not_intact :
    ¬ Intact Client.sampleEnv allRefused houseAtSeven "home" "armHome" := by
  intro h
  have hfailed : ∃ err, (setRun Client.sampleEnv allRefused houseAtSeven "home" "armHome").2.1 =
      .error err := ⟨_, rfl⟩
  obtain ⟨err, herr⟩ := hfailed
  obtain ⟨revision, hrevision, hreported⟩ := h.failed err _ herr rfl
  have hone : (setRun Client.sampleEnv allRefused houseAtSeven "home"
      "armHome").1.locations.get? "home" = some { homeLocation with modeRevision := 1 } := rfl
  rw [hone] at hrevision
  have heq : 1 = revision := congrArg LocationState.modeRevision (Option.some.inj hrevision)
  subst heq
  rcases hreported with hseven | ⟨n, request, answer, -, -, body, hbody, hsuccess, -⟩
  · cases hseven
  · cases hbody
    exact hsuccess ⟨.bool false, rfl, rfl⟩

end Intact

end Eisenberg.Coordinator
