import Eisenberg.Client.Http
import Eisenberg.Client.Models

/-!
# Logging in

`login`, `start_mfa` and `try_finish_auth` of the client, with the steps they share. What a step
makes of an answer is a function of its own.
-/

namespace Eisenberg.Client

open Framework

section Login

variable (env : ClientEnv)

def rateLimited : Exc :=
  .rateLimitedError "Arlo is rate-limiting requests. Wait a few hours and try again."

/-- `meta.get("message") == "Too many requests"`. -/
def isRateLimit (block : Json) : Bool :=
  ((block.get? "message").getD .null).eqStr "Too many requests"

/-- `str(meta.get("error", default))`. -/
def metaError (default block : Json) : String :=
  ((block.get? "error").getD default).toStr env.floats

/-- `_raise_for_arlo_error` unless the body says that the call succeeded. -/
def checkSuccess (op : String) (body : Json) : Except Exc Unit := do
  let success ← body.dictGet "success"
  if (success.getD .null).truthy then return () else throw (arloError env body op)

def readSession (body : Json) : Except Exc Json := do
  checkSuccess env "establish_session" body
  let data ← body.item "data"
  let mqttUrl ← data.dictGet "mqttUrl"
  return mqttUrl.getD (.str "")

def ClientState.setMqttUrl (mqttUrl : Json) (s : ClientState) : ClientState :=
  { s with mqttUrl := mqttUrl }

def sessionRequest (s : ClientState) : HttpRequest where
  method := .GET
  host := .myapi
  path := "/hmsweb/users/session/v3"
  headers := myapiHeaders s.token s

/-- Get session info (MQTT URL) from myapi. -/
def establishSession : Async Unit := do
  let s ← get
  if s.token.isNull then
    throw (.builtin .runtimeError "Cannot establish session without token")
  let (_, body) ← exchange env (sessionRequest s)
  let mqttUrl ← Co.ret (readSession env body)
  modify (ClientState.setMqttUrl mqttUrl)

def ClientState.setUserId (userId : String) (s : ClientState) : ClientState :=
  { s with userId := some userId }

def ClientState.setToken (token : Json) (s : ClientState) : ClientState := { s with token := token }

/-- The token is taken over with the time of its issue. -/
def ClientState.useToken (token : Json) (now : Nat) (s : ClientState) : ClientState :=
  { s with token := token, tokenIssuedAt := now }

/-- 60 minutes, on a clock that counts nanoseconds. -/
def TOKEN_REFRESH_AFTER : Nat := 3600 * 1000000000

/-- Check if token is close to expiry. -/
def ClientState.tokenNeedsRefresh (now : Nat) (s : ClientState) : Bool :=
  s.token.isNull || decide (TOKEN_REFRESH_AFTER < now - s.tokenIssuedAt)

/-- `self.user_id` in a payload. -/
def userIdJson (s : ClientState) : Json :=
  match s.userId with
  | some userId => .str userId
  | none => .null

/-- The answer of /api/auth. -/
def readAuth (body block : Json) : Except Exc AuthData := do
  if isRateLimit block then throw rateLimited
  let code ← block.item "code"
  if !code.eqInt 200 then
    throw (.authenticationError ("Auth failed: " ++ metaError env (.str "unknown") block))
  let data ← body.item "data"
  validated (AuthData.validate env.scalars data)

/-- The answer of /api/startAuth for a trusted browser: the token. -/
def readTrustedAuth (body block : Json) : Except Exc Json := do
  let code ← block.item "code"
  if !code.eqInt 200 then
    throw (.authenticationError s!"Trusted startAuth failed: {metaError env .null block}")
  let data ← body.item "data"
  let completed ← data.dictGet "authCompleted"
  if !(completed.getD .null).truthy then
    throw (.authenticationError "Trusted browser auth did not auto-complete")
  let accessToken ← data.item "accessToken"
  accessToken.item "token"

/-- The answer of /api/getFactors: the factors a challenge can be sent to. -/
def readFactors (body block : Json) : Except Exc (List SecondFactor) := do
  if isRateLimit block then throw rateLimited
  let code ← block.item "code"
  if !code.eqInt 200 then
    throw (.authenticationError (rstrip (s!"getFactors failed: {metaError env .null block} " ++
      ((block.get? "message").getD (.str "")).toStr env.floats)))
  let data ← body.item "data"
  let listed ← data.dictGet "items"
  let items ← (listed.getD (.arr [])).iter
  let factors ← items.mapM fun item => validated (validateSecondFactor env.scalars item)
  match factors.filter fun f => f.factorType != .BROWSER with
  | [] =>
    throw (.authenticationError
      "getFactors returned no push, email or SMS factor to verify with")
  | challengeable => return challengeable

/-- A request to ocapi. -/
def ocapiRequest (method : HttpMethod) (path : String) (headers : List (String × Json))
    (json : Option (List (String × Json))) : HttpRequest where
  method := method
  host := .ocapi
  path := path
  headers := headers
  json := json.map .obj

/-- GET /api/getFactors — returns factor list without firing MFA. -/
def getFactors (token : Json) : Async (List SecondFactor) := do
  let headers ← Co.ret (ocapiHeaders env token)
  let (_, body, block) ← exchangeMeta env (ocapiRequest .GET "/api/getFactors" headers none)
  Co.ret (readFactors env body block)

/-- Trusted browser: instant auth with the factor id. -/
def loginTrusted (token factorId : Json) : Async Unit := do
  let s ← get
  let headers ← Co.ret (ocapiHeaders env token)
  let (reply, body, block) ← exchangeMeta env (ocapiRequest .POST "/api/startAuth" headers
    (some [("factorId", factorId), ("factorType", .str "BROWSER"), ("userId", userIdJson s)]))
  let token ← Co.ret (readTrustedAuth env body block)
  modify (ClientState.useToken token reply.now)
  establishSession env

/-- Browser not trusted: discover the factors, and let the caller drive the picker. -/
def loginUntrusted (token : Json) : Async Unit := do
  modify (ClientState.setToken token)
  let factors ← getFactors env token
  throw (.mfaRequired factors)

/-- Check browser trust. -/
def loginByTrust (token : Json) : Async Unit := do
  let s ← get
  let headers ← Co.ret (ocapiHeaders env token)
  let (_, body, block) ← exchangeMeta env (ocapiRequest .POST "/api/getFactorId" headers
    (some [("factorType", .str "BROWSER"), ("factorData", .str ""), ("userId", userIdJson s)]))
  let code ← Co.ret (block.item "code")
  if code.eqInt 200 then
    let data ← Co.ret (body.item "data")
    let factorId ← Co.ret (data.item "factorId")
    loginTrusted env token factorId
  else loginUntrusted env token

/-- Silent login. -/
def login : Async Unit := do
  let headers ← Co.ret (ocapiHeaders env .null)
  let (reply, body, block) ← exchangeMeta env (ocapiRequest .POST "/api/auth" headers
    (some [("email", .str env.email), ("password", .str (base64 env.password)),
      ("language", .str "en"), ("EnvSource", .str "prod")]))
  let auth ← Co.ret (readAuth env body block)
  modify (ClientState.setUserId auth.userId)
  -- The token is usable as issued when the login is complete, or when there is no second factor.
  if auth.authCompleted || auth.mfaDisabledByService then
    modify (ClientState.useToken (.str auth.token) reply.now)
    establishSession env
  else loginByTrust env (.str auth.token)

/-- The answer of /api/startAuth for a chosen factor: the code that finishes it. -/
def readFactorAuthCode (body block : Json) : Except Exc Json := do
  if isRateLimit block then throw rateLimited
  let code ← block.item "code"
  if !code.eqInt 200 then
    throw (.authenticationError s!"startAuth failed: {metaError env .null block}")
  let data ← body.item "data"
  data.item "factorAuthCode"

/-- Fire the MFA challenge for a factor. -/
def startMfa (factor : SecondFactor) : Async Json := do
  let s ← get
  if s.token.isNull || s.userId.isNone then
    throw (.authenticationError "start_mfa called before login()")
  let headers ← Co.ret (ocapiHeaders env s.token)
  let (_, body, block) ← exchangeMeta env (ocapiRequest .POST "/api/startAuth" headers
    (some [("factorId", .str factor.factorId),
      ("factorType", .str (if factor.factorType = .PUSH then "" else "BROWSER")),
      ("userId", userIdJson s)]))
  Co.ret (readFactorAuthCode env body block)

/-- Register this browser as trusted. -/
def pairBrowser (browserAuthCode : Json) : Async Unit := do
  let s ← get
  let headers ← Co.ret (ocapiHeaders env s.token)
  let (_, _, block) ← exchangeMeta env (ocapiRequest .POST "/api/startPairingFactor" headers
    (some [("factorType", .str "BROWSER"), ("factorData", .str ""),
      ("factorAuthCode", browserAuthCode)]))
  let _ ← Co.ret (block.item "code")
  return ()

/-- What finishAuth answers: still pending, or the token and the code to pair the browser with. -/
inductive FinishAnswer where
  | pending
  | approved (token browserAuthCode : Json)

/-- A finishAuth that does not complete the login: pending, or an error. -/
def readUnfinished (code block : Json) : Except Exc FinishAnswer :=
  if ((block.get? "message").getD (.str "")).eqStr "Authentication is not finished yet" then
    .ok .pending
  else if ((block.get? "message").getD (.str "")).truthy then
    .error (.authenticationError ("finishAuth failed: " ++
      ((block.get? "message").getD (.str "")).toStr env.floats))
  else .error (.authenticationError ("finishAuth failed: " ++ code.toStr env.floats))

/-- The answer of /api/finishAuth. -/
def readFinishAuth (body block : Json) : Except Exc FinishAnswer := do
  let code ← block.item "code"
  if isRateLimit block then throw rateLimited
  if code.eqInt 200 then
    let data ← body.item "data"
    let completed ← data.dictGet "authCompleted"
    if (completed.getD .null).truthy then
      let token ← data.item "token"
      let browserAuthCode ← data.dictGet "browserAuthCode"
      return .approved token (browserAuthCode.getD .null)
    else readUnfinished env code block
  else readUnfinished env code block

/-- Single finishAuth call. -/
def tryFinishAuth (factorAuthCode : Json) (otp : Option String) : Async Bool := do
  let s ← get
  let headers ← Co.ret (ocapiHeaders env s.token)
  let (reply, body, block) ← exchangeMeta env (ocapiRequest .POST "/api/finishAuth" headers
    (some ([("factorAuthCode", factorAuthCode), ("isBrowserTrusted", .bool true)] ++
      match otp with
      | some otp => [("otp", .str otp)]
      | none => [])))
  match ← Co.ret (readFinishAuth env body block) with
  | .pending => return false
  | .approved token browserAuthCode =>
    modify (ClientState.useToken token reply.now)
    if browserAuthCode.truthy then pairBrowser env browserAuthCode
    establishSession env
    return true

end Login

end Eisenberg.Client
