import Mathlib.Tactic.Common

/-!
# Exceptions

The exception hierarchy of `eisenberg/exceptions.py`, the Home Assistant exceptions the
integration raises, and the Python ones its handlers tell apart.
-/

namespace Eisenberg

/-- MFA second-factor types (`FactorType`). -/
inductive FactorType where
  | PUSH | EMAIL | SMS | BROWSER
  deriving DecidableEq, Repr

/-- One MFA factor as returned by getFactors or startAuth. -/
structure SecondFactor where
  factorId : String
  factorType : FactorType
  displayName : String
  factorNickname : Option String
  factorRole : String
  deriving DecidableEq, Repr

/-- Python and pydantic exceptions, as far as an `except` clause of the code names them. -/
inductive Builtin where
  | valueError | jsonDecodeError | unicodeDecodeError | structError | indexError | keyError
  | typeError | attributeError | runtimeError | recursionError | connectionError | timeoutError
  | osError | validationError | other
  deriving DecidableEq, Repr

inductive Exc where
  | authenticationError (message : String)
  | mfaRequired (factors : List SecondFactor)
  | sessionExpiredError (message : String)
  | rateLimitedError (message : String)
  | transientAPIError (message : String)
  | apiError (code message : String)
  | configEntryAuthFailed (message : String)
  | configEntryNotReady (message : String)
  | homeAssistantError (message : String)
  | builtin (kind : Builtin) (message : String)
  /-- `asyncio.CancelledError`, a `BaseException` that `except Exception` lets through. -/
  | cancelledError
  deriving DecidableEq, Repr

namespace Exc

/-- `isinstance(err, Exception)`. -/
def isException : Exc → Bool
  | cancelledError => false
  | _ => true

/-- `isinstance(err, AuthenticationError)`: the two subclasses included. -/
def isAuthenticationError : Exc → Bool
  | authenticationError _ | mfaRequired _ | sessionExpiredError _ => true
  | _ => false

def isSessionExpiredError : Exc → Bool
  | sessionExpiredError _ => true
  | _ => false

def isRateLimitedError : Exc → Bool
  | rateLimitedError _ => true
  | _ => false

/-- `isinstance(err, OSError)`, with the subclasses that are told apart. -/
def isOSError : Exc → Bool
  | builtin .osError _ | builtin .connectionError _ | builtin .timeoutError _ => true
  | _ => false

def isAPIError : Exc → Bool
  | apiError _ _ => true
  | _ => false

def isTransientAPIError : Exc → Bool
  | transientAPIError _ => true
  | _ => false

/-- `isinstance(err, EisenbergError)`. -/
def isEisenbergError : Exc → Bool
  | authenticationError _ | mfaRequired _ | sessionExpiredError _ | rateLimitedError _
  | transientAPIError _ | apiError _ _ => true
  | _ => false

/-- `isinstance(err, HomeAssistantError)`: the two config entry exceptions included. -/
def isHomeAssistantError : Exc → Bool
  | configEntryAuthFailed _ | configEntryNotReady _ | homeAssistantError _ => true
  | _ => false

/-- `str(err)`. -/
def str : Exc → String
  | authenticationError m | sessionExpiredError m | rateLimitedError m | transientAPIError m
  | configEntryAuthFailed m | configEntryNotReady m | homeAssistantError m | builtin _ m => m
  | mfaRequired factors => s!"MFA required: {factors.length} factor(s) available"
  | apiError code message => s!"Arlo API error {code}: {message}"
  | cancelledError => ""

/-- `isinstance(err, MfaRequired)`. -/
def isMfaRequired : Exc → Bool
  | mfaRequired _ => true
  | _ => false

end Exc

/-- What it raises, if it raises, has the property. -/
def Raises {α : Type} (P : Exc → Prop) : Except Exc α → Prop
  | .ok _ => True
  | .error err => P err

section Raises

variable {α β : Type} {P : Exc → Prop}

@[simp] theorem raises_ok (a : α) : Raises P (.ok a : Except Exc α) ↔ True := Iff.rfl

@[simp] theorem raises_pure (a : α) : Raises P (pure a : Except Exc α) ↔ True := Iff.rfl

@[simp] theorem raises_error (err : Exc) : Raises P (.error err : Except Exc α) ↔ P err := Iff.rfl

@[simp] theorem raises_throw (err : Exc) : Raises P (throw err : Except Exc α) ↔ P err := Iff.rfl

@[simp] theorem raises_map (f : α → β) (x : Except Exc α) :
    Raises P (f <$> x) ↔ Raises P x := by
  cases x with
  | ok a => exact Iff.rfl
  | error err => exact Iff.rfl

/-- A step after another raises only if the first one gives it a value. -/
theorem raises_bind (x : Except Exc α) (f : α → Except Exc β) :
    Raises P (x >>= f) ↔ Raises P x ∧ ∀ a, x = .ok a → Raises P (f a) := by
  cases x with
  | ok a =>
    constructor
    · intro h
      refine ⟨trivial, ?_⟩
      rintro b hb
      cases hb
      exact h
    · rintro ⟨-, h⟩
      exact h a rfl
  | error err =>
    constructor
    · intro h
      exact ⟨h, nofun⟩
    · rintro ⟨h, -⟩
      exact h

end Raises

/-- It raises nothing. -/
def Returns {α : Type} (r : Except Exc α) : Prop := Raises (fun _ => False) r

theorem returns_iff {α : Type} {r : Except Exc α} : Returns r ↔ ∃ a, r = .ok a := by
  cases r with
  | ok a => simp [Returns]
  | error err => simp [Returns]

theorem returns_bind {α β : Type} (x : Except Exc α) (f : α → Except Exc β) :
    Returns (x >>= f) ↔ Returns x ∧ ∀ a, x = .ok a → Returns (f a) := raises_bind x f

/-- Whether the rest returns does not depend on the value before it. -/
theorem returns_seq {α β : Type} {x : Except Exc α} {f : α → Except Exc β} {P : Prop}
    (h : ∀ a, Returns (f a) ↔ P) : Returns (x >>= f) ↔ Returns x ∧ P := by
  rw [returns_bind]
  apply and_congr_right
  intro hx
  obtain ⟨a, ha⟩ := returns_iff.mp hx
  constructor
  · intro hrest
    exact (h a).mp (hrest a ha)
  · intro hP a' _
    exact (h a').mpr hP

/-- What is done only where a test holds. -/
theorem returns_when {α : Type} {test : Except Exc Bool} {body : Except Exc α} {default : α} :
    Returns (test >>= fun holds => if holds = true then body else pure default) ↔
      Returns test ∧ (test = .ok true → Returns body) := by
  rw [returns_bind]
  apply and_congr_right
  intro _
  constructor
  · intro h htrue
    exact h true htrue
  · intro h holds htest
    cases holds with
    | false => exact trivial
    | true => exact h htest

/-- `except OSError` around a call. -/
def suppressOSError {α : Type} (default : α) (r : Except Exc α) : Except Exc α :=
  tryCatch r fun err => if err.isOSError then pure default else throw err

theorem returns_suppressOSError {α : Type} {default : α} {r : Except Exc α} :
    Returns (suppressOSError default r) ↔ Raises (fun err => err.isOSError = true) r := by
  cases r with
  | ok a => exact Iff.rfl
  | error err =>
    change Returns (if err.isOSError then pure default else throw err) ↔ err.isOSError = true
    cases err.isOSError with
    | true => exact ⟨fun _ => rfl, fun _ => trivial⟩
    | false => simp [Returns]

end Eisenberg
