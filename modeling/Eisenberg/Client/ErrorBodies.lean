import Eisenberg.Client.Classification

/-!
# Error bodies

What the methods on myapi make of a body that reports a failure: eleven of them raise on it, and two
read its data block without looking whether it reports one.
-/

namespace Eisenberg.Client

open Framework

/-! ## The code of an error -/

theorem isDigit_of_mem_toString {n : Nat} {c : Char} (h : c ∈ (toString (n : Int)).toList) :
    c.isDigit = true := by
  change c ∈ (Nat.repr n).toList at h
  rw [Nat.toList_repr] at h
  exact Nat.isDigit_of_mem_toDigits (by decide) (by decide) h

theorem toString_inj_of_nat {m : Int} {n : Nat} : toString m = toString (n : Int) ↔ m = n := by
  constructor
  · intro h
    cases m with
    | ofNat k =>
      have hdigits : Nat.toDigits 10 k = Nat.toDigits 10 n := by
        have hlist : (Nat.repr k).toList = (Nat.repr n).toList := congrArg String.toList h
        rwa [Nat.toList_repr, Nat.toList_repr] at hlist
      have hk := Nat.ofDigitChars_toDigits (b := 10) (n := k) (by decide) (by decide)
      rw [hdigits, Nat.ofDigitChars_toDigits (by decide) (by decide)] at hk
      rw [hk]
      rfl
    | negSucc k =>
      have hminus : '-' ∈ (toString (Int.negSucc k)).toList := by
        change '-' ∈ ("-" ++ Nat.repr (k + 1)).toList
        simp
      rw [h] at hminus
      exact absurd (isDigit_of_mem_toString hminus) (by decide)
  · intro h
    rw [h]

/-- Only a number and its text print as the number does. -/
theorem toStr_eq_toString_iff (floats : FloatText) (value : Json) (n : Nat) :
    value.toStr floats = toString (n : Int) ↔
      value = .int n ∨ value = .str (toString (n : Int)) := by
  have hletter : ∀ (c : Char) (text : String), c.isDigit = false → c ∈ text.toList →
      text ≠ toString (n : Int) := by
    intro c text hc hmem htext
    rw [htext] at hmem
    rw [isDigit_of_mem_toString hmem] at hc
    cases hc
  cases value with
  | str s => simp [Json.toStr]
  | int m =>
    have htext : (Json.int m).toStr floats = toString m := rfl
    rw [htext, toString_inj_of_nat]
    simp
  | float mantissa exponent =>
    have htext : (Json.float mantissa exponent).toStr floats = floats.text mantissa exponent := rfl
    rw [htext]
    simp only [floats.ne_int, reduceCtorEq, or_self]
  | null => simpa [Json.toStr, Json.repr, Json.render] using hletter 'N' _ (by decide) (by decide)
  | bool b =>
    cases b with
    | true => simpa [Json.toStr, Json.repr, Json.render] using hletter 'T' _ (by decide) (by decide)
    | false =>
      simpa [Json.toStr, Json.repr, Json.render] using hletter 'F' _ (by decide) (by decide)
  | arr items =>
    simpa [Json.toStr, Json.repr, Json.render] using hletter '[' _ (by decide) (by simp)
  | obj fields =>
    simpa [Json.toStr, Json.repr, Json.render] using hletter (Char.ofNat 123) _ (by decide) (by simp)

/-- The data block names the error of an invalid token. -/
def InvalidToken (body : Json) : Prop :=
  Has "data" (Has "error" fun code => code = .int 2015 ∨ code = .str "2015") body

theorem errorCode_iff (env : ClientEnv) (body : Json) :
    errorCode env body = "2015" ↔ InvalidToken body := by
  unfold errorCode InvalidToken Has
  cases body.get? "data" with
  | none => simp [Json.get?, Json.toStr]
  | some data =>
    cases hcode : data.get? "error" with
    | none => simp [hcode, Json.toStr]
    | some code =>
      have htext : toString ((2015 : Nat) : Int) = "2015" := by decide
      have hcodes := toStr_eq_toString_iff env.floats code 2015
      rw [htext] at hcodes
      simpa [hcode] using hcodes

/-- An error is an expired session exactly when its code says so. -/
theorem arloError_isSessionExpired (env : ClientEnv) (body : Json) (op : String) :
    (arloError env body op).isSessionExpiredError = true ↔ InvalidToken body := by
  rw [← errorCode_iff env, arloError]
  split
  next h => simpa [Exc.isSessionExpiredError, invalidTokenCodes] using h
  next h => simpa [Exc.isSessionExpiredError, invalidTokenCodes] using h

/-! ## What a method makes of an answer -/

section Answering

variable {env : ClientEnv} {body : Json} {reply : HttpReply} {s : ClientState} {α β : Type}

/-- The method gets as far as a request. -/
def Sends (c : Async α) (s : ClientState) : Prop := (c.advance s).2.calls ≠ []

/-- The run in which the body answers every request. -/
def answeredBy (body : Json) (reply : HttpReply) (c : Async α) (s : ClientState) :
    ClientState × Except Exc α :=
  run (jsonAnswers (fun _ => reply) fun _ => body) c s

/-- A method that gets as far as its request leaves `out` once the body has answered it. -/
def Leaves (body : Json) (reply : HttpReply) (c : Async α) (s : ClientState)
    (out : ClientState × Except Exc α) : Prop :=
  Sends c s → answeredBy body reply c s = out

theorem leaves_get_bind {f : ClientState → Async α} {out : ClientState × Except Exc α}
    (h : Leaves body reply (f s) s out) :
    Leaves body reply ((get : Async ClientState) >>= f) s out := h

theorem leaves_ret_bind {x : Except Exc β} {f : β → Async α} {out : ClientState × Except Exc α}
    (h : ∀ a, Leaves body reply (f a) s out) : Leaves body reply (Co.ret x >>= f) s out := by
  cases x with
  | ok a => exact h a
  | error err =>
    intro hsends
    exact absurd rfl hsends

theorem leaves_exchange_bind {r : HttpRequest} {f : HttpReply × Json → Async α}
    {out : ClientState × Except Exc α}
    (h : ∀ received, runFrom (jsonAnswers (fun _ => reply) fun _ => body) 1
      (f (received, body)) s = out) :
    Leaves body reply (exchange env r >>= f) s out := by
  intro hsends
  unfold answeredBy run
  rw [runFrom_exchange_bind]
  cases hfault : r.headers.findSome? fun header => env.headerFault header.2 with
  | some fault =>
    unfold Sends exchange at hsends
    rw [hfault] at hsends
    exact absurd rfl hsends
  | none =>
    simp only [received, hfault]
    exact h _

theorem sends_discard {c : Async α} : Sends (discard c) s ↔ Sends c s := by
  have hcalls : ((discard c).advance s).2.calls = (c.advance s).2.calls := by
    unfold discard
    rw [Co.bind_def]
    induction c generalizing s with
    | ret result =>
      cases result with
      | ok a => rfl
      | error err => rfl
    | get k ih => exact ih s
    | set t k ih => exact ih
    | call r k => rfl
  rw [Sends, hcalls, Sends]

theorem leaves_discard {c : Async α} {out : ClientState × Except Exc α}
    (h : Leaves body reply c s out) :
    Leaves body reply (discard c) s (out.1, out.2.map fun _ => ()) := by
  intro hsends
  have hout := h (sends_discard.mp hsends)
  unfold answeredBy run at hout ⊢
  rw [runFrom_discard, hout]

end Answering

/-! ## The methods on myapi -/

section Methods

variable {env : ClientEnv} {body : Json} {reply : HttpReply} {s : ClientState}

theorem checkSuccess_failed (hfailed : body.get? "success" = some (.bool false)) (op : String) :
    checkSuccess env op body = .error (arloError env body op) := by
  cases body with
  | obj fields =>
    unfold checkSuccess
    rw [show (Json.obj fields).dictGet "success" = .ok (some (.bool false)) from
      congrArg Except.ok hfailed]
    rfl
  | _ => cases hfailed

theorem leaves_getDevices (hfailed : body.get? "success" = some (.bool false)) :
    Leaves body reply (getDevices env) s (s, .error (arloError env body "get_devices")) := by
  unfold getDevices
  apply leaves_get_bind
  apply leaves_ret_bind
  intro token
  apply leaves_exchange_bind
  intro received
  simp only [runFrom_ret_bind, readDevices, checkSuccess_failed hfailed]
  rfl

theorem leaves_getCustomModes (hfailed : body.get? "success" = some (.bool false))
    (locationId : String) :
    Leaves body reply (getCustomModes env locationId) s
      (s, .error (arloError env body "get_custom_modes")) := by
  unfold getCustomModes
  apply leaves_get_bind
  apply leaves_ret_bind
  intro token
  apply leaves_ret_bind
  intro headers
  apply leaves_exchange_bind
  intro received
  simp only [runFrom_ret, readCustomModes, checkSuccess_failed hfailed]
  rfl

theorem leaves_setActiveMode (hfailed : body.get? "success" = some (.bool false))
    (locationId mode : String) (revision : Int) (custom : Option (Dict String String)) :
    Leaves body reply (setActiveMode env locationId mode revision custom) s
      (s, .error (arloError env body "set_active_mode")) := by
  unfold setActiveMode
  apply leaves_get_bind
  apply leaves_ret_bind
  intro token
  apply leaves_ret_bind
  intro headers
  apply leaves_exchange_bind
  intro received
  simp only [runFrom_ret, readSetMode, item_ok_iff.mpr hfailed]
  rfl

theorem leaves_startStream (hfailed : body.get? "success" = some (.bool false))
    (deviceId : String) :
    Leaves body reply (startStream env deviceId) s
      (s, .error (arloError env body "start_stream")) := by
  unfold startStream
  apply leaves_get_bind
  apply leaves_ret_bind
  intro token
  apply leaves_ret_bind
  intro headers
  apply leaves_ret_bind
  intro target
  apply leaves_exchange_bind
  intro received
  simp only [runFrom_ret, readStream, checkSuccess_failed hfailed]
  rfl

theorem leaves_establishSession (hfailed : body.get? "success" = some (.bool false)) :
    Leaves body reply (establishSession env) s
      (s, .error (arloError env body "establish_session")) := by
  unfold establishSession
  apply leaves_get_bind
  cases s.token.isNull with
  | true =>
    intro hsends
    exact absurd rfl hsends
  | false =>
    apply leaves_exchange_bind
    intro received
    simp only [runFrom_ret_bind, readSession, checkSuccess_failed hfailed]
    rfl

theorem leaves_postCommand (hfailed : body.get? "success" = some (.bool false))
    (op path : String) (headers : List (String × Json)) (payload : Json) :
    Leaves body reply (postCommand env op path headers payload) s
      (s, .error (arloError env body op)) := by
  unfold postCommand
  apply leaves_exchange_bind
  intro received
  rw [runFrom_ret, checkSuccess_failed hfailed]

theorem leaves_deviceCommand (hfailed : body.get? "success" = some (.bool false))
    (op deviceId : String) (path : String → String) (payload : ClientState → String → Json) :
    Leaves body reply (deviceCommand env op deviceId path payload) s
      (s, .error (arloError env body op)) := by
  unfold deviceCommand
  apply leaves_get_bind
  apply leaves_ret_bind
  intro token
  apply leaves_ret_bind
  intro target
  apply leaves_ret_bind
  intro headers
  exact leaves_postCommand hfailed op _ headers _

theorem leaves_baseCommand (hfailed : body.get? "success" = some (.bool false))
    (op baseId : String) (payload : ClientState → Json) :
    Leaves body reply (baseCommand env op baseId payload) s
      (s, .error (arloError env body op)) := by
  unfold baseCommand
  apply leaves_get_bind
  apply leaves_ret_bind
  intro token
  apply leaves_ret_bind
  intro headers
  exact leaves_postCommand hfailed op _ headers _

theorem leaves_getLocations :
    Leaves body reply (getLocations env) s (s, readLocations env body) := by
  unfold getLocations
  apply leaves_get_bind
  cases s.userId with
  | none =>
    intro hsends
    exact absurd rfl hsends
  | some userId =>
    apply leaves_ret_bind
    intro token
    apply leaves_exchange_bind
    intro received
    exact runFrom_ret _

theorem leaves_getActiveMode (locationId : String) :
    Leaves body reply (getActiveMode env locationId) s (s, readActiveMode env body) := by
  unfold getActiveMode
  apply leaves_get_bind
  apply leaves_ret_bind
  intro token
  apply leaves_ret_bind
  intro headers
  apply leaves_exchange_bind
  intro received
  exact runFrom_ret _

/-- The methods on myapi. -/
def Method.isMyapi : Method → Bool
  | .login | .startMfa _ | .tryFinishAuth _ _ => false
  | _ => true

/-- The body is raised, as an expired session exactly when its code says so, and no field of the
client has changed. -/
def Rejected (body : Json) (s : ClientState) (out : ClientState × Except Exc Unit) : Prop :=
  out.1 = s ∧
    ∃ err, out.2 = .error err ∧ (err.isSessionExpiredError = true ↔ InvalidToken body)

variable (env) in
/-- What a method needs of an error body to reject it. Two read it as data, and fail on it only when
it is not valid data, with an exception that knows no code. -/
def Recognises (body : Json) : Method → Prop
  | .getLocations => ¬ LocationsShape env body ∧ ¬ InvalidToken body
  | .getActiveMode _ => ¬ ActiveModeShape env body ∧ ¬ InvalidToken body
  | _ => True

theorem rejected_of_leaves {c : Async Unit} {op : String}
    (h : Leaves body reply c s (s, .error (arloError env body op))) (hsends : Sends c s) :
    Rejected body s (answeredBy body reply c s) := by
  rw [h hsends]
  exact ⟨rfl, _, rfl, arloError_isSessionExpired env body op⟩

theorem rejected_of_leaves_discard {α : Type} {c : Async α} {op : String}
    (h : Leaves body reply c s (s, .error (arloError env body op))) (hsends : Sends (discard c) s) :
    Rejected body s (answeredBy body reply (discard c) s) := by
  have hleaves : Leaves body reply (discard c) s (s, .error (arloError env body op)) :=
    leaves_discard h
  exact rejected_of_leaves hleaves hsends

/-- What only raises exceptions of Python and pydantic never reports an expired session. -/
theorem rejected_reading_iff {α : Type} {c : Async α} {x : Except Exc α} {shape : Prop}
    (h : Leaves body reply c s (s, x)) (hsends : Sends (discard c) s)
    (hbuiltin : Raises IsBuiltin x) (hshape : Raises Classified x ↔ shape) :
    Rejected body s (answeredBy body reply (discard c) s) ↔ ¬ shape ∧ ¬ InvalidToken body := by
  rw [leaves_discard h hsends, ← hshape]
  cases x with
  | ok a => simp [Rejected, Except.map]
  | error err =>
    obtain ⟨kind, message, rfl⟩ := hbuiltin
    simp [Rejected, Except.map, not_classified_builtin, Exc.isSessionExpiredError]

theorem readLocations_builtin : Raises IsBuiltin (readLocations env body) := by
  unfold readLocations
  cases body.item "data" with
  | error err => trivial
  | ok data =>
    apply (raises_bind _ _).mpr
    exact ⟨raises_mapM _ fun item _ => raises_validated isBuiltin_builtin _, fun _ _ => trivial⟩

/-- Every method on myapi that gets an error body as its answer rejects it, but for the two that do
not look whether it is one. -/
theorem error_body_rejected_iff (env : ClientEnv) (m : Method) (s : ClientState) (body : Json)
    (reply : HttpReply) (hm : m.isMyapi = true)
    (hfailed : body.get? "success" = some (.bool false)) (hsends : Sends (perform env m) s) :
    Rejected body s (answeredBy body reply (perform env m) s) ↔ Recognises env body m := by
  cases m with
  | login => cases hm
  | startMfa factor => cases hm
  | tryFinishAuth factorAuthCode otp => cases hm
  | establishSession =>
    exact iff_of_true (rejected_of_leaves (leaves_establishSession hfailed) hsends) trivial
  | getDevices =>
    exact iff_of_true (rejected_of_leaves_discard (leaves_getDevices hfailed) hsends) trivial
  | getLocations =>
    exact rejected_reading_iff leaves_getLocations hsends readLocations_builtin
      (raises_readLocations body)
  | getActiveMode locationId =>
    exact rejected_reading_iff (leaves_getActiveMode locationId) hsends
      (raises_validated isBuiltin_builtin _) (raises_readActiveMode body)
  | getCustomModes locationId =>
    exact iff_of_true
      (rejected_of_leaves_discard (leaves_getCustomModes hfailed locationId) hsends) trivial
  | setActiveMode locationId mode revision custom =>
    exact iff_of_true (rejected_of_leaves_discard
      (leaves_setActiveMode hfailed locationId mode revision custom) hsends) trivial
  | startStream deviceId =>
    exact iff_of_true
      (rejected_of_leaves_discard (leaves_startStream hfailed deviceId) hsends) trivial
  | requestSnapshot deviceId =>
    exact iff_of_true
      (rejected_of_leaves (leaves_deviceCommand hfailed _ deviceId _ _) hsends) trivial
  | setSpotlight deviceId on intensity =>
    exact iff_of_true
      (rejected_of_leaves (leaves_deviceCommand hfailed _ deviceId _ _) hsends) trivial
  | setPrivacy deviceId active =>
    exact iff_of_true
      (rejected_of_leaves (leaves_deviceCommand hfailed _ deviceId _ _) hsends) trivial
  | setSiren deviceId on =>
    exact iff_of_true
      (rejected_of_leaves (leaves_deviceCommand hfailed _ deviceId _ _) hsends) trivial
  | registerEventSubscription baseId =>
    exact iff_of_true (rejected_of_leaves (leaves_baseCommand hfailed _ baseId _) hsends) trivial
  | requestDeviceStates baseId =>
    exact iff_of_true (rejected_of_leaves (leaves_baseCommand hfailed _ baseId _) hsends) trivial

end Methods

section Sample

/-- Arlo rejects the token. -/
def expiredBody : Json :=
  .obj [("success", .bool false),
    ("data", .obj [("error", .str "2015"), ("message", .str "Your session has expired.")])]

/-- A client that is logged in. -/
def loggedIn : ClientState where
  token := .str "token"
  userId := some "U"

set_option maxRecDepth 10000 in
theorem expiredBody_rejected_by_devices :
    Rejected expiredBody loggedIn
      (answeredBy expiredBody okReply (perform sampleEnv .getDevices) loggedIn) :=
  (error_body_rejected_iff sampleEnv .getDevices loggedIn expiredBody okReply rfl rfl
    (List.cons_ne_nil _ _)).mpr trivial

set_option maxRecDepth 10000 in
/-- An expired token reads as an account without locations. -/
theorem expiredBody_read_as_locations :
    ¬ Rejected expiredBody loggedIn
      (answeredBy expiredBody okReply (perform sampleEnv .getLocations) loggedIn) := by
  have hreturns : (answeredBy expiredBody okReply (perform sampleEnv .getLocations) loggedIn).2 =
      .ok () := rfl
  rintro ⟨-, err, hraised, -⟩
  rw [hreturns] at hraised
  cases hraised

end Sample

end Eisenberg.Client
