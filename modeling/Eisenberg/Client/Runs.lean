import Eisenberg.Client.Commands

/-!
# Runs of one method

A method running alone is a function of the client's fields and of the answers to its requests. Each
step of a login is one answer and what the step makes of it.
-/

namespace Eisenberg.Client

open Framework

/-- The answer to one request, or how its transport fails. -/
abbrev Answer := HttpRequest → Except Builtin HttpReply

/-- The answers to the requests of a run, in turn. -/
abbrev Answers := Nat → Answer

def Answer.exc (answer : Answer) (r : HttpRequest) : Except Exc HttpReply :=
  match answer r with
  | .ok reply => .ok reply
  | .error fault => .error (.builtin fault "")

variable {α β : Type}

/-- The rest of a run, `n` requests having been answered. -/
def runFrom (answers : Answers) (n : Nat) (c : Async α) (s : ClientState) :
    ClientState × Except Exc α :=
  c.runWith (fun n => (answers n).exc) n s

def run (answers : Answers) (c : Async α) (s : ClientState) : ClientState × Except Exc α :=
  runFrom answers 0 c s

section Steps

variable (env : ClientEnv)

/-- What `exchange` gives for an answer. -/
def received (r : HttpRequest) (answer : Answer) : Except Exc (HttpReply × Json) :=
  match r.headers.findSome? fun header => env.headerFault header.2 with
  | some fault => .error (.builtin fault "")
  | none => do
    let reply ← answer.exc r
    let body ← readArloJson r reply
    return (reply, body)

/-- What `exchangeMeta` gives for an answer. -/
def receivedMeta (r : HttpRequest) (answer : Answer) : Except Exc (HttpReply × Json × Json) := do
  let (reply, body) ← received env r answer
  let block ← arloMeta env r reply body
  return (reply, body, block)

/-- Go on after a step with what it gave, or stop with what it raised. -/
def continueWith (x : Except Exc α) (s : ClientState)
    (f : α → ClientState × Except Exc β) : ClientState × Except Exc β :=
  match x with
  | .ok a => f a
  | .error err => (s, .error err)

variable {env} {answers : Answers} {n : Nat} {s : ClientState}

@[simp] theorem continueWith_ok (a : α) (f : α → ClientState × Except Exc β) :
    continueWith (.ok a) s f = f a := rfl

@[simp] theorem continueWith_error (err : Exc) (f : α → ClientState × Except Exc β) :
    continueWith (.error err) s f = (s, .error err) := rfl

theorem continueWith_bind {γ : Type} (x : Except Exc α) (g : α → Except Exc γ)
    (f : γ → ClientState × Except Exc β) :
    continueWith (x >>= g) s f = continueWith x s fun a => continueWith (g a) s f := by
  cases x with
  | ok a => rfl
  | error err => rfl

theorem runFrom_ret_bind (x : Except Exc α) (f : α → Async β) :
    runFrom answers n (Co.ret x >>= f) s =
      continueWith x s fun a => runFrom answers n (f a) s := by
  cases x with
  | ok a => rfl
  | error err => rfl

theorem runFrom_get_bind (f : ClientState → Async β) :
    runFrom answers n ((get : Async ClientState) >>= f) s = runFrom answers n (f s) s := rfl

theorem runFrom_modify_bind (g : ClientState → ClientState) (f : Unit → Async β) :
    runFrom answers n ((modify g : Async Unit) >>= f) s = runFrom answers n (f ()) (g s) := rfl

theorem runFrom_exchange_bind (r : HttpRequest) (f : HttpReply × Json → Async β) :
    runFrom answers n (exchange env r >>= f) s =
      continueWith (received env r (answers n)) s fun a => runFrom answers (n + 1) (f a) s := by
  unfold exchange received
  cases r.headers.findSome? fun header => env.headerFault header.2 with
  | some fault => rfl
  | none =>
    change Co.runWith (fun n => (answers n).exc) (n + 1)
      (((Co.ret ((answers n).exc r) : Async HttpReply).bind fun reply =>
        (Co.ret (readArloJson r reply) : Async Json).bind fun body =>
          Co.ret (.ok (reply, body))).bind f) s = _
    cases (answers n).exc r with
    | error err => rfl
    | ok reply =>
      simp only [Co.bind]
      cases hbody : readArloJson r reply with
      | error err => simp [Co.bind, bind, Except.bind, hbody]
      | ok body => simp [Co.bind, bind, Except.bind, hbody, runFrom, pure, Except.pure]

theorem runFrom_exchangeMeta_bind (r : HttpRequest) (f : HttpReply × Json × Json → Async β) :
    runFrom answers n (exchangeMeta env r >>= f) s =
      continueWith (receivedMeta env r (answers n)) s fun a =>
        runFrom answers (n + 1) (f a) s := by
  have hassoc : exchangeMeta env r >>= f = exchange env r >>= fun a =>
      Co.ret (arloMeta env r a.1 a.2) >>= fun block => f (a.1, a.2, block) := by
    rw [exchangeMeta, Co.bind_assoc]
    congr 1
    funext a
    rw [Co.bind_assoc]
    rfl
  rw [hassoc, runFrom_exchange_bind]
  simp only [runFrom_ret_bind, receivedMeta, continueWith_bind]
  rfl

theorem runFrom_ret (x : Except Exc α) : runFrom answers n (Co.ret x) s = (s, x) := rfl

end Steps

/-! ## The steps of a login -/

section LoginSteps

variable (env : ClientEnv)

/-- /api/auth: the clock at its answer, and the validated data block. -/
def authStep (answer : Answer) : Except Exc (Nat × AuthData) := do
  let headers ← ocapiHeaders env .null
  let (reply, body, block) ← receivedMeta env
    (ocapiRequest .POST "/api/auth" headers
      (some [("email", .str env.email), ("password", .str (base64 env.password)),
        ("language", .str "en"), ("EnvSource", .str "prod")])) answer
  let auth ← readAuth env body block
  return (reply.now, auth)

/-- session/v3: the URL of the broker. -/
def sessionStep (s : ClientState) (answer : Answer) : Except Exc Json := do
  if s.token.isNull then
    throw (.builtin .runtimeError "Cannot establish session without token")
  let (_, body) ← received env (sessionRequest s) answer
  readSession env body

/-- /api/getFactorId: the factor id of a trusted browser, `none` when the browser is not trusted. -/
def trustStep (token : Json) (s : ClientState) (answer : Answer) : Except Exc (Option Json) := do
  let headers ← ocapiHeaders env token
  let (_, body, block) ← receivedMeta env
    (ocapiRequest .POST "/api/getFactorId" headers
      (some [("factorType", .str "BROWSER"), ("factorData", .str ""), ("userId", userIdJson s)]))
    answer
  let code ← block.item "code"
  if code.eqInt 200 then
    let data ← body.item "data"
    let factorId ← data.item "factorId"
    return some factorId
  else return none

/-- /api/startAuth for a trusted browser: the clock at its answer, and the token. -/
def trustedStep (token factorId : Json) (s : ClientState) (answer : Answer) :
    Except Exc (Nat × Json) := do
  let headers ← ocapiHeaders env token
  let (reply, body, block) ← receivedMeta env
    (ocapiRequest .POST "/api/startAuth" headers
      (some [("factorId", factorId), ("factorType", .str "BROWSER"), ("userId", userIdJson s)]))
    answer
  let token ← readTrustedAuth env body block
  return (reply.now, token)

/-- /api/getFactors: the factors a challenge can be sent to. -/
def factorsStep (token : Json) (answer : Answer) : Except Exc (List SecondFactor) := do
  let headers ← ocapiHeaders env token
  let (_, body, block) ← receivedMeta env (ocapiRequest .GET "/api/getFactors" headers none) answer
  readFactors env body block

variable {env} {answers : Answers} {n : Nat} {s : ClientState}

theorem runFrom_establishSession_bind (f : Unit → Async β) :
    runFrom answers n (establishSession env >>= f) s =
      continueWith (sessionStep env s (answers n)) s fun mqttUrl =>
        runFrom answers (n + 1) (f ()) (s.setMqttUrl mqttUrl) := by
  rw [establishSession, Co.bind_assoc, runFrom_get_bind]
  cases htoken : s.token.isNull with
  | true =>
    simp only [sessionStep, htoken]
    rfl
  | false =>
    simp only [sessionStep, htoken, Bool.false_eq_true, if_false, Co.bind_assoc,
      runFrom_exchange_bind, runFrom_ret_bind, runFrom_modify_bind]
    exact (continueWith_bind _ _ _).symm

theorem runFrom_establishSession :
    runFrom answers n (establishSession env) s =
      continueWith (sessionStep env s (answers n)) s fun mqttUrl =>
        (s.setMqttUrl mqttUrl, .ok ()) := by
  rw [← Co.bind_pure (establishSession env), runFrom_establishSession_bind]
  rfl

theorem runFrom_loginTrusted (token factorId : Json) :
    runFrom answers n (loginTrusted env token factorId) s =
      continueWith (trustedStep env token factorId s (answers n)) s fun accepted =>
        continueWith
          (sessionStep env (s.useToken accepted.2 accepted.1) (answers (n + 1)))
          (s.useToken accepted.2 accepted.1) fun mqttUrl =>
            ((s.useToken accepted.2 accepted.1).setMqttUrl mqttUrl, .ok ()) := by
  simp only [loginTrusted, trustedStep, runFrom_get_bind, runFrom_ret_bind,
    runFrom_exchangeMeta_bind, runFrom_modify_bind, runFrom_establishSession, continueWith_bind]
  rfl

theorem runFrom_loginUntrusted (token : Json) :
    runFrom answers n (loginUntrusted env token) s =
      continueWith (factorsStep env token (answers n)) (s.setToken token) fun factors =>
        (s.setToken token, .error (.mfaRequired factors)) := by
  simp only [loginUntrusted, factorsStep, getFactors, Co.bind_assoc, runFrom_ret_bind,
    runFrom_exchangeMeta_bind, runFrom_modify_bind, continueWith_bind]
  rfl

theorem runFrom_loginByTrust (token : Json) :
    runFrom answers n (loginByTrust env token) s =
      continueWith (trustStep env token s (answers n)) s fun trusted =>
        match trusted with
        | some factorId => runFrom answers (n + 1) (loginTrusted env token factorId) s
        | none => runFrom answers (n + 1) (loginUntrusted env token) s := by
  simp only [loginByTrust, trustStep, runFrom_get_bind, runFrom_ret_bind,
    runFrom_exchangeMeta_bind, continueWith_bind]
  congr 1
  funext headers
  congr 1
  funext a
  congr 1
  funext code
  split
  next =>
    simp only [continueWith_bind, runFrom_ret_bind]
    rfl
  next => rfl

theorem run_login :
    run answers (login env) s =
      continueWith (authStep env (answers 0)) s fun issued =>
        if issued.2.authCompleted || issued.2.mfaDisabledByService then
          runFrom answers 1 (establishSession env)
            ((s.setUserId issued.2.userId).useToken (.str issued.2.token) issued.1)
        else
          runFrom answers 1 (loginByTrust env (.str issued.2.token))
            (s.setUserId issued.2.userId) := by
  simp only [run, login, authStep, runFrom_ret_bind, runFrom_exchangeMeta_bind,
    runFrom_modify_bind, continueWith_bind]
  congr 1
  funext headers
  congr 1
  funext a
  congr 1
  funext auth
  change runFrom answers 1 (if _ then _ else _) _ = if _ then _ else _
  split
  next => rfl
  next => rfl

end LoginSteps

/-! ## Any method -/

section Methods

/-- The methods of the client, each with its arguments. -/
inductive Method where
  | login
  | startMfa (factor : SecondFactor)
  | tryFinishAuth (factorAuthCode : Json) (otp : Option String)
  | establishSession
  | getDevices
  | getLocations
  | getActiveMode (locationId : String)
  | getCustomModes (locationId : String)
  | setActiveMode (locationId mode : String) (revision : Int) (custom : Option (Dict String String))
  | startStream (deviceId : String)
  | requestSnapshot (deviceId : String)
  | setSpotlight (deviceId : String) (on : Bool) (intensity : Option Int)
  | setPrivacy (deviceId : String) (active : Bool)
  | setSiren (deviceId : String) (on : Bool)
  | registerEventSubscription (baseId : String)
  | requestDeviceStates (baseId : String)

/-- A method whose value is not looked at. -/
def discard (c : Async α) : Async Unit := c >>= fun _ => pure ()

def perform (env : ClientEnv) : Method → Async Unit
  | .login => login env
  | .startMfa factor => discard (startMfa env factor)
  | .tryFinishAuth factorAuthCode otp => discard (tryFinishAuth env factorAuthCode otp)
  | .establishSession => establishSession env
  | .getDevices => discard (getDevices env)
  | .getLocations => discard (getLocations env)
  | .getActiveMode locationId => discard (getActiveMode env locationId)
  | .getCustomModes locationId => discard (getCustomModes env locationId)
  | .setActiveMode locationId mode revision custom =>
    discard (setActiveMode env locationId mode revision custom)
  | .startStream deviceId => discard (startStream env deviceId)
  | .requestSnapshot deviceId => requestSnapshot env deviceId
  | .setSpotlight deviceId on intensity => setSpotlight env deviceId on intensity
  | .setPrivacy deviceId active => setPrivacy env deviceId active
  | .setSiren deviceId on => setSiren env deviceId on
  | .registerEventSubscription baseId => registerEventSubscription env baseId
  | .requestDeviceStates baseId => requestDeviceStates env baseId

theorem runFrom_discard {answers : Answers} {n : Nat} {s : ClientState} (c : Async α) :
    runFrom answers n (discard c) s =
      ((runFrom answers n c s).1, (runFrom answers n c s).2.map fun _ => ()) := by
  unfold discard runFrom
  rw [Co.bind_def]
  induction c generalizing n s with
  | ret result =>
    cases result with
    | ok a => rfl
    | error err => rfl
  | get k ih => exact ih s
  | set t k ih => exact ih
  | call r k ih => exact ih _

end Methods

end Eisenberg.Client
