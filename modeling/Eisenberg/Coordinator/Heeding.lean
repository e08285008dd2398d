import Eisenberg.Coordinator.Session
import Eisenberg.Framework.History

/-!
# Heeding the block

What a segment of an operation does while `_auth_is_dead` is set: it sends nothing but a login,
except where the operation calls the client without looking. `call_with_session_retry` always looks.
-/

namespace Eisenberg.Coordinator

open Framework

section Heeding

variable {ι T : Type} {ρ : ι → Type}

abbrev SegmentCause (ρ : ι → Type) := Co.Cause Exc (Request.Reply ρ)

/-- A segment sends a REST request over a dead session just where `unguarded` says, and leaves the
session dead unless it has been told of a login. -/
structure HeedsExcept (rest : ι → Bool) (unguarded : List (Request ι) → SegmentCause ρ → Prop)
    (devices : List DeviceInfo) (history : List (Request ι)) (cause : SegmentCause ρ)
    (s₀ s : CoordinatorState) (sent : Option (Request ι)) : Prop where
  devices_eq : s.devices = devices
  cleared : s₀.authIsDead = true → s.authIsDead = false →
    ∃ cookieJar, cause = .answered .login (.ok cookieJar)
  exposed : (∃ i, sent = some (.client i) ∧ rest i = true ∧ s.authIsDead = true) ↔
    s₀.authIsDead = true ∧ unguarded history cause

variable {rest : ι → Bool} {unguarded : List (Request ι) → SegmentCause ρ → Prop}
  {devices : List DeviceInfo} {history : List (Request ι)} {cause : SegmentCause ρ}
  {s₀ s : CoordinatorState} {sent : Option (Request ι)}

/-- A segment that keeps the block and sends nothing it should not. -/
theorem HeedsExcept.of_silent (hdevices : s.devices = devices)
    (hkept : s₀.authIsDead = true → s.authIsDead = true)
    (hguarded : s₀.authIsDead = true → ¬ unguarded history cause)
    (hsilent : ∀ i, sent = some (.client i) → rest i = true → s.authIsDead = false) :
    HeedsExcept rest unguarded devices history cause s₀ s sent where
  devices_eq := hdevices
  cleared hdead hlive := by
    rw [hkept hdead] at hlive
    cases hlive
  exposed := by
    constructor
    · intro ⟨i, hsent, hrest, hdead⟩
      rw [hsilent i hsent hrest] at hdead
      cases hdead
    · intro ⟨hdead, hunguarded⟩
      exact absurd hunguarded (hguarded hdead)

theorem HeedsExcept.of_login {cookieJar : List Cookie} (hdevices : s.devices = devices)
    (hlive : s.authIsDead = false)
    (hguarded : ¬ unguarded history (.answered .login (.ok cookieJar))) :
    HeedsExcept rest unguarded devices history (.answered .login (.ok cookieJar)) s₀ s sent where
  devices_eq := hdevices
  cleared _ _ := ⟨cookieJar, rfl⟩
  exposed := by
    constructor
    · intro ⟨i, _, _, hdead⟩
      rw [hlive] at hdead
      cases hdead
    · intro ⟨_, hunguarded⟩
      exact absurd hunguarded hguarded

theorem HeedsExcept.of_unguarded {i : ι} (hdevices : s.devices = devices)
    (hflag : s.authIsDead = s₀.authIsDead) (hrest : rest i = true)
    (hunguarded : unguarded history cause) :
    HeedsExcept rest unguarded devices history cause s₀ s (some (.client i)) where
  devices_eq := hdevices
  cleared hdead hlive := by
    rw [hflag, hdead] at hlive
    cases hlive
  exposed := by
    constructor
    · intro ⟨_, _, _, hdead⟩
      exact ⟨hflag ▸ hdead, hunguarded⟩
    · intro ⟨hdead, _⟩
      exact ⟨i, rfl, hrest, hflag.trans hdead⟩

/-- What is no REST request may be sent where nothing else is. -/
theorem HeedsExcept.send (h : HeedsExcept rest unguarded devices history cause s₀ s none)
    {i : Request ι} (hi : ∀ j, i = .client j → rest j = false) :
    HeedsExcept rest unguarded devices history cause s₀ s (some i) where
  devices_eq := h.devices_eq
  cleared := h.cleared
  exposed := by
    rw [← h.exposed]
    constructor
    · intro ⟨j, hsent, hrest, _⟩
      rw [hi j (Option.some.inj hsent)] at hrest
      cases hrest
    · intro ⟨_, hsent, _⟩
      cases hsent

/-! ## Calls that look -/

@[simp] theorem saveCookies_devices (cookieJar : List Cookie) (s : CoordinatorState) :
    (saveCookies cookieJar s).devices = s.devices := by
  obtain ⟨cookies, hsaved⟩ := saveCookies_frame cookieJar s
  rw [hsaved]

@[simp] theorem markAuthDead_devices (s : CoordinatorState) :
    (markAuthDead s).devices = s.devices := by
  cases h : s.authIsDead <;> simp [markAuthDead, h]

variable {A : ι → Prop} {op : Async ρ T}

/-- How a single request ends: with the answer that has just come in. -/
structure Answered (A : ι → Prop) (devices : List DeviceInfo) (history : List (Request ι))
    (history' : List (Request ι)) (cause' : SegmentCause ρ) (s₀ s : CoordinatorState)
    (r : Except Exc T) : Prop where
  unchanged : s = s₀
  devices_eq : s.devices = devices
  answer : ∃ i r', A i ∧ history' = history ++ [.client i] ∧
    cause' = .answered (.client i) r' ∧ ∀ err, r = .error err ↔ r' = .error err

/-- The operation is one request to the client. -/
def OneRequest (A : ι → Prop) (op : Async ρ T) : Prop :=
  ∀ (devices : List DeviceInfo)
    (R : List (Request ι) → SegmentCause ρ → CoordinatorState → CoordinatorState → Request ι → Prop)
    (history : List (Request ι)) (cause : SegmentCause ρ) (s₀ s : CoordinatorState),
    (∀ i, A i → R history cause s₀ s (.client i)) →
      Co.Traced (fun t => t.devices = devices) R (Answered A devices history) history cause s₀ s op

theorem oneRequest_await (i : ι) (hi : A i) :
    OneRequest A (Co.await (Request.client i) : Async ρ _) := by
  intro devices R history cause s₀ s hR
  exact ⟨hR i hi, fun r t ht => ⟨rfl, ht, i, r, hi, rfl, rfl, fun _ => Iff.rfl⟩⟩

/-- How `call_with_session_retry` ends. -/
inductive Called (A : ι → Prop) (devices : List DeviceInfo) (history : List (Request ι))
    (cause : SegmentCause ρ) : List (Request ι) → SegmentCause ρ → CoordinatorState →
      CoordinatorState → Except Exc T → Prop
  | blocked (s₀ s : CoordinatorState) (hdevices : s.devices = devices)
      (hdead : s.authIsDead = true) :
      Called A devices history cause history cause s₀ s (.error sessionDead)
  | returned (later : List (Request ι)) (hlater : ∀ i, .client i ∈ later → A i) (i : ι) (hi : A i)
      (r' : Except Exc (ρ i)) (r : Except Exc T) (hr : ∀ err, r = .error err ↔ r' = .error err)
      (s : CoordinatorState) (hdevices : s.devices = devices) :
      Called A devices history cause (history ++ later) (.answered (.client i) r') s s r
  | refused (later : List (Request ι)) (hlater : ∀ i, .client i ∈ later → A i) (err : Exc)
      (s : CoordinatorState) (hdevices : s.devices = devices) :
      Called A devices history cause (history ++ later) (.answered .login (.error err)) s s
        (.error err)
  | rejected (later : List (Request ι)) (hlater : ∀ i, .client i ∈ later → A i) (err : Exc)
      (herr : err.isAuthenticationError = true ∨ err.isRateLimitedError = true)
      (s : CoordinatorState) (hdevices : s.devices = devices) :
      Called A devices history cause (history ++ later) (.answered .login (.error err)) s
        (markAuthDead s) (.error (.configEntryAuthFailed err.str))

/-- A call keeps the block, whatever it has been told. -/
theorem Called.heeds {history' : List (Request ι)} {cause' : SegmentCause ρ} {r : Except Exc T}
    (h : Called A devices history cause history' cause' s₀ s r)
    (hguarded : ¬ unguarded history' cause') :
    HeedsExcept rest unguarded devices history' cause' s₀ s none := by
  cases h with
  | blocked _ _ hdevices hdead =>
    exact .of_silent hdevices (fun _ => hdead) (fun _ => hguarded) nofun
  | returned later hlater i hi r' _ hr _ hdevices =>
    exact .of_silent hdevices id (fun _ => hguarded) nofun
  | refused later hlater err _ hdevices =>
    exact .of_silent hdevices id (fun _ => hguarded) nofun
  | rejected later hlater err herr _ hdevices =>
    exact .of_silent (by simpa using hdevices) (fun _ => markAuthDead_authIsDead _)
      (fun _ => hguarded) nofun

/-- How the silent login ends: with the block cleared, or with what the login raised. -/
inductive LoggedIn (devices : List DeviceInfo) (history : List (Request ι)) :
    List (Request ι) → SegmentCause ρ → CoordinatorState → CoordinatorState →
      Except Exc Unit → Prop
  | ok (cookieJar : List Cookie) (s₀ s : CoordinatorState) (hdevices : s.devices = devices)
      (hlive : s.authIsDead = false) :
      LoggedIn devices history (history ++ [.login]) (.answered .login (.ok cookieJar)) s₀ s (.ok ())
  | error (err : Exc) (s : CoordinatorState) (hdevices : s.devices = devices) :
      LoggedIn devices history (history ++ [.login]) (.answered .login (.error err)) s s (.error err)

variable (devices) in
theorem loginSilent_traced
    {R : List (Request ι) → SegmentCause ρ → CoordinatorState → CoordinatorState → Request ι → Prop}
    (hR : R history cause s₀ s .login) :
    Co.Traced (fun t => t.devices = devices) R (LoggedIn devices history) history cause s₀ s
      (loginSilent : Async ρ Unit) := by
  refine ⟨hR, ?_⟩
  intro r t ht
  cases r with
  | ok cookieJar => exact .ok cookieJar t _ (by simpa using ht) (by simp)
  | error err => exact .error err t ht

/-- How the login of a retry ends: with the block cleared, or with the end of the call. -/
def Relogged (A : ι → Prop) (T : Type) (devices : List DeviceInfo) (history : List (Request ι))
    (cause : SegmentCause ρ) (tried : List (Request ι)) (history' : List (Request ι))
    (cause' : SegmentCause ρ) (s₀ s : CoordinatorState) : Except Exc Unit → Prop
  | .ok () => ∃ cookieJar, history' = history ++ (tried ++ [.login]) ∧
      cause' = .answered .login (.ok cookieJar) ∧ s.devices = devices ∧ s.authIsDead = false
  | .error err =>
    Called A devices history cause history' cause' s₀ s (.error err : Except Exc T)

theorem retryAfterLogin_traced (hop : OneRequest A op) {tried : List (Request ι)}
    (htried : ∀ i, .client i ∈ tried → A i) {i : ι} {err : Exc}
    (herr : err.isSessionExpiredError = true) (hdevices : s.devices = devices)
    (hexpired : ∀ history i err, err.isSessionExpiredError = true →
      ¬ unguarded history (.answered (.client i) (.error err)))
    (hlogin : ∀ history cookieJar, ¬ unguarded history (.answered .login (.ok cookieJar))) :
    Co.Traced (fun t => t.devices = devices)
      (fun history cause s₀ s i =>
        HeedsExcept rest unguarded devices history cause s₀ s (some i))
      (Called A devices history cause) (history ++ tried) (.answered (.client i) (.error err)) s s
      (retryAfterLogin op err) := by
  have hlater : ∀ j, Request.client j ∈ tried ++ [.login] → A j := by
    intro j hj
    rcases List.mem_append.mp hj with hj | hj
    · exact htried j hj
    · cases List.mem_singleton.mp hj
  rw [retryAfterLogin, if_pos herr]
  refine Co.Traced.bind (P := Relogged A T devices history cause tried) ?_ ?_ ?_
  · refine (loginSilent_traced devices ?_).handle ?_ ?_
    · exact .of_silent hdevices id (fun _ => hexpired _ i err herr) fun _ hsent => by cases hsent
    · intro history' cause' s₁ s' u hlogged
      cases hlogged with
      | ok cookieJar _ _ hs' hlive =>
        exact ⟨cookieJar, List.append_assoc _ _ _, rfl, hs', hlive⟩
    · intro history' cause' s₁ s' err' hlogged
      cases hlogged with
      | error _ _ ht =>
        rw [List.append_assoc]
        split
        next hverdict => exact .rejected _ hlater err' (Bool.or_eq_true_iff.mp hverdict) s₁ ht
        next => exact .refused _ hlater err' s₁ ht
  · rintro history' cause' s₁ s' u ⟨cookieJar, rfl, rfl, hs', hlive⟩
    refine (hop devices _ _ _ s₁ s' ?_).mono (fun _ _ _ _ _ h => h) ?_
    · intro j _
      exact .of_login hs' hlive (hlogin _ cookieJar)
    · rintro history'' cause'' s₂ s'' r ⟨rfl, hs'', j, r', hj, rfl, rfl, hr⟩
      rw [List.append_assoc]
      refine .returned _ ?_ j hj r' r hr s'' hs''
      intro k hk
      rcases List.mem_append.mp hk with hk | hk
      · exact hlater k hk
      · cases List.mem_singleton.mp hk
        exact hj
  · intro history' cause' s₁ s' err' hcalled
    exact hcalled

/-- The call looks before its first try, and its second try comes right after a login. -/
theorem callWithSessionRetry_traced (hop : OneRequest A op) (hdevices : s.devices = devices)
    (hflag : s.authIsDead = s₀.authIsDead)
    (hexpired : ∀ history i err, err.isSessionExpiredError = true →
      ¬ unguarded history (.answered (.client i) (.error err)))
    (hlogin : ∀ history cookieJar, ¬ unguarded history (.answered .login (.ok cookieJar))) :
    Co.Traced (fun t => t.devices = devices)
      (fun history cause s₀ s i =>
        HeedsExcept rest unguarded devices history cause s₀ s (some i))
      (Called A devices history cause) history cause s₀ s (callWithSessionRetry op) := by
  rw [callWithSessionRetry_eq]
  change Co.Traced _ _ _ _ _ _ _ (if _ then _ else _)
  split
  next hdead => exact .blocked s₀ s hdevices hdead
  next hdead =>
    have hlive : s.authIsDead = false := by simpa using hdead
    refine (hop devices _ history cause s₀ s ?_).handle ?_ ?_
    · intro i _
      refine .of_silent hdevices ?_ ?_ fun _ _ _ => hlive
      · intro hdead
        rw [hflag, hdead] at hlive
        cases hlive
      · intro hdead
        rw [hflag, hdead] at hlive
        cases hlive
    · rintro history' cause' s₁ s' a ⟨rfl, hs', i, r', hi, rfl, rfl, hr⟩
      exact .returned [.client i] (by simp [hi]) i hi r' _ hr s' hs'
    · rintro history' cause' s₁ s' err ⟨rfl, hs', i, r', hi, rfl, rfl, hr⟩
      cases (hr err).mp rfl
      by_cases herr : err.isSessionExpiredError = true
      · exact retryAfterLogin_traced hop (by simp [hi]) herr hs' hexpired hlogin
      · rw [retryAfterLogin, if_neg herr]
        exact .returned [.client i] (by simp [hi]) i hi _ _ hr s' hs'

end Heeding

end Eisenberg.Coordinator
