import Eisenberg.Framework.Coroutine
import Eisenberg.Values.Exceptions
import Eisenberg.Values.Locations

/-!
# Calls that need a session

`call_with_session_retry`, `_login_silent` and `_mark_auth_dead` of the coordinator, as coroutines
over the state the coordinator's coroutines share.
-/

namespace Eisenberg.Coordinator

open Framework

structure Cookie where
  name : String
  value : String
  domain : String
  path : String
  deriving DecidableEq, Repr

def trustCookiePrefix : String := "browser_trust_"

structure CoordinatorState where
  authIsDead : Bool := false
  /-- How often `entry.async_start_reauth` has been called. -/
  reauthStarts : Nat := 0
  /-- `self._http_session is not None`. -/
  httpSession : Bool := true
  /-- `entry.data[CONF_TRUST_COOKIE]`. -/
  trustCookies : Option (List Cookie) := none
  devices : List DeviceInfo := []
  locations : Locations := Table.empty
  /-- When the base stations were last registered with, on the clock of `time.monotonic`. -/
  lastBaseBringup : Nat := 0

/-- What a coroutine of the coordinator awaits: a login, or an operation of the client. -/
inductive Request (ι : Type) where
  | login
  | client (i : ι)
  deriving DecidableEq

def Request.isLogin {ι : Type} : Request ι → Bool
  | login => true
  | client _ => false

/-- A login that returns leaves its cookies in the session's jar. -/
@[reducible] def Request.Reply {ι : Type} (ρ : ι → Type) : Request ι → Type
  | login => List Cookie
  | client i => ρ i

abbrev Async {ι : Type} (ρ : ι → Type) (α : Type) :=
  Co CoordinatorState Exc (Request.Reply ρ) α

section Coroutines

variable {ι T : Type} {ρ : ι → Type}

/-- Persist trust cookies from the session to the config entry. -/
def saveCookies (cookieJar : List Cookie) (s : CoordinatorState) : CoordinatorState :=
  if s.httpSession then
    match cookieJar.filter fun morsel => morsel.name.startsWith trustCookiePrefix with
    | [] => s
    | cookies => { s with trustCookies := some cookies }
  else s

/-- Saving the cookies changes nothing but the cookies of the entry. -/
theorem saveCookies_frame (cookieJar : List Cookie) (s : CoordinatorState) :
    ∃ cookies, saveCookies cookieJar s = { s with trustCookies := cookies } := by
  unfold saveCookies
  split
  · split
    next => exact ⟨s.trustCookies, rfl⟩
    next => exact ⟨_, rfl⟩
  · exact ⟨s.trustCookies, rfl⟩

@[simp] theorem saveCookies_authIsDead (cookieJar : List Cookie) (s : CoordinatorState) :
    (saveCookies cookieJar s).authIsDead = s.authIsDead := by
  obtain ⟨cookies, hsaved⟩ := saveCookies_frame cookieJar s
  rw [hsaved]

@[simp] theorem saveCookies_reauthStarts (cookieJar : List Cookie) (s : CoordinatorState) :
    (saveCookies cookieJar s).reauthStarts = s.reauthStarts := by
  obtain ⟨cookies, hsaved⟩ := saveCookies_frame cookieJar s
  rw [hsaved]

@[simp] theorem saveCookies_locations (cookieJar : List Cookie) (s : CoordinatorState) :
    (saveCookies cookieJar s).locations = s.locations := by
  obtain ⟨cookies, hsaved⟩ := saveCookies_frame cookieJar s
  rw [hsaved]

/-- Login using the trust cookie. -/
def loginSilent : Async ρ Unit := do
  let cookieJar ← Co.await Request.login
  modify fun s => { s with authIsDead := false }
  modify (saveCookies cookieJar)

/-- Stop asking Arlo, and ask the user instead — once. -/
def markAuthDead (s : CoordinatorState) : CoordinatorState :=
  if s.authIsDead then s
  else { s with authIsDead := true, reauthStarts := s.reauthStarts + 1 }

@[simp] theorem markAuthDead_authIsDead (s : CoordinatorState) :
    (markAuthDead s).authIsDead = true := by
  cases h : s.authIsDead <;> simp [markAuthDead, h]

theorem markAuthDead_reauthStarts (s : CoordinatorState) :
    (markAuthDead s).reauthStarts = s.reauthStarts + if s.authIsDead then 0 else 1 := by
  cases h : s.authIsDead <;> simp [markAuthDead, h]

@[simp] theorem markAuthDead_locations (s : CoordinatorState) :
    (markAuthDead s).locations = s.locations := by
  cases h : s.authIsDead <;> simp [markAuthDead, h]

/-- The error of a call that finds the session dead. -/
def sessionDead : Exc :=
  .configEntryAuthFailed "Arlo rejected this session; re-authenticate to continue"

/-- Run an Arlo API call; on Invalid-Token relogin and retry once. -/
def callWithSessionRetry (op : Async ρ T) : Async ρ T := do
  if (← get).authIsDead then throw sessionDead
  try op
  catch err =>
    if err.isSessionExpiredError then
      try loginSilent
      catch err =>
        if err.isAuthenticationError || err.isRateLimitedError then
          modify markAuthDead
          throw (.configEntryAuthFailed err.str)
        else throw err
      op
    else throw err

/-- The `except SessionExpiredError` clause of `call_with_session_retry`. -/
def retryAfterLogin (op : Async ρ T) (err : Exc) : Async ρ T :=
  if err.isSessionExpiredError then do
    tryCatch loginSilent fun err =>
      if err.isAuthenticationError || err.isRateLimitedError then do
        modify markAuthDead
        throw (.configEntryAuthFailed err.str)
      else throw err
    op
  else throw err

theorem callWithSessionRetry_eq (op : Async ρ T) : callWithSessionRetry op =
    .get fun s => if s.authIsDead then .ret (.error sessionDead)
      else tryCatch op (retryAfterLogin op) := rfl

end Coroutines

end Eisenberg.Coordinator
