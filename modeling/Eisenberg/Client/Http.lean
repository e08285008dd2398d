import Eisenberg.Framework.Coroutine
import Eisenberg.Framework.Dict
import Eisenberg.Values.Models
import Eisenberg.Values.PythonJson

/-!
# The client's requests

What the methods of `EisenbergClient` share: the fields they read and write, the headers of their
requests, and the reading of an answer. A method is a coroutine over the fields; it suspends at each
request, and the answer is what aiohttp hands back.
-/

namespace Eisenberg.Client

open Framework

/-- The fields of the client that its methods write. -/
structure ClientState where
  /-- `None` is the null; Arlo's answers to a trusted or a finished login are not checked to be
  texts. -/
  token : Json := .null
  userId : Option String := none
  mqttUrl : Json := .null
  xCloudId : Option String := none
  deviceCloudIds : Dict String String := Dict.empty
  /-- device_id → controlling base-station id, or its own id when base-less. -/
  deviceParentIds : Dict String String := Dict.empty
  tokenIssuedAt : Nat := 0

inductive HttpMethod where
  | GET | POST | PUT
  deriving DecidableEq, Repr

def HttpMethod.name : HttpMethod → String
  | GET => "GET"
  | POST => "POST"
  | PUT => "PUT"

inductive Host where
  | ocapi | myapi
  deriving DecidableEq, Repr

/-- A request without its `transId` and the clock in its query. -/
structure HttpRequest where
  method : HttpMethod
  host : Host
  path : String
  headers : List (String × Json)
  params : List (String × String) := []
  json : Option Json := none

/-- What `resp.json()` makes of the body of an answer. -/
inductive HttpBody where
  | json (value : Json)
  /-- A ContentTypeError or a ValueError; `resp.text()` gives the text. -/
  | text (text : String)
  /-- Bytes that `resp.text()` cannot decode either. -/
  | undecodable
  deriving Repr

structure HttpReply where
  status : Nat
  contentType : String
  body : HttpBody
  /-- `time.monotonic()` when the answer is delivered. -/
  now : Nat

/-- The constructor's arguments, and what the client takes from aiohttp and pydantic. -/
structure ClientEnv where
  email : String
  password : String
  deviceId : String
  scalars : Scalars
  floats : FloatText
  /-- What sending a header with this value raises. -/
  headerFault : Json → Option Builtin

/-- What aiohttp refuses to send: a value that is not a text, or one with a line break. -/
def lineBreakFault : Json → Option Builtin
  | .str s => if s.toList.any fun c => c = Char.ofNat 10 || c = Char.ofNat 13 then some .valueError
      else none
  | _ => some .typeError

abbrev Async (α : Type) := Co ClientState Exc (fun _ : HttpRequest => HttpReply) α

/-- A byte sequence in base64. -/
def base64Encode (bytes : List UInt8) : String :=
  String.ofList (encodeGroups (bytes.map UInt8.toNat))
where
  digit (n : Nat) : Char :=
    if n < 26 then Char.ofNat (65 + n)
    else if n < 52 then Char.ofNat (97 + (n - 26))
    else if n < 62 then Char.ofNat (48 + (n - 52))
    else if n = 62 then '+' else '/'
  encodeGroups : List Nat → List Char
    | a :: b :: c :: rest =>
      [digit (a / 4), digit (a % 4 * 16 + b / 16), digit (b % 16 * 4 + c / 64), digit (c % 64)] ++
        encodeGroups rest
    | [a, b] => [digit (a / 4), digit (a % 4 * 16 + b / 16), digit (b % 16 * 4), '=']
    | [a] => [digit (a / 4), digit (a % 4 * 16), '=', '=']
    | [] => []

/-- `base64.b64encode(text.encode()).decode()`. -/
def base64 (text : String) : String := base64Encode text.toUTF8.data.toList

def BROWSER_UA : String :=
  "Mozilla/5.0 (Macintosh; Intel Mac OS X 10_15_7) " ++
    "AppleWebKit/537.36 (KHTML, like Gecko) " ++ "Chrome/146.0.0.0 Safari/537.36"

def MOBILE_UA : String := "Arlo/4.0 (iPhone; iOS 18.0)"

section Requests

variable (env : ClientEnv)

/-- Decode an Arlo response body, or say plainly that it was not Arlo. -/
def readArloJson (r : HttpRequest) (reply : HttpReply) : Except Exc Json :=
  match reply.body with
  | .json value => .ok value
  | .text text =>
    .error (.transientAPIError (s!"{r.method.name} {r.path} returned {reply.status} " ++
      s!"{reply.contentType}, not JSON: {pyRepr (snippet 200 text)}"))
  | .undecodable => .error (.builtin .unicodeDecodeError "")

/-- Return the ocapi `meta` block, or say plainly that there was not one. -/
def arloMeta (r : HttpRequest) (reply : HttpReply) (body : Json) : Except Exc Json :=
  match body.get? "meta" with
  | some (.obj fields) => .ok (.obj fields)
  | _ =>
    .error (.transientAPIError (s!"{r.method.name} {r.path} returned {reply.status} with no " ++
      s!"usable 'meta' block: {snippet 200 (body.dumps env.floats)}"))

/-- `_INVALID_TOKEN_CODES`. -/
def invalidTokenCodes : List String := ["2015"]

/-- `str(data.get("error", "unknown"))` of the data block of a body. -/
def errorCode (body : Json) : String :=
  ((((body.get? "data").getD .null).get? "error").getD (.str "unknown")).toStr env.floats

/-- `str(data.get("message") or data.get("reason") or "")`. -/
def errorMessage (body : Json) : String :=
  match ((body.get? "data").getD .null).get? "message" with
  | some message =>
    if message.truthy then message.toStr env.floats else reason
  | none => reason
where
  reason :=
    match ((body.get? "data").getD .null).get? "reason" with
    | some reason => if reason.truthy then reason.toStr env.floats else ""
    | none => ""

/-- Raise the right exception for a non-success Arlo REST response. -/
def arloError (body : Json) (op : String) : Exc :=
  if errorCode env body ∈ invalidTokenCodes then
    .sessionExpiredError (s!"Arlo rejected token during {op}: " ++
      if errorMessage env body = "" then "Invalid Token" else errorMessage env body)
  else .apiError (errorCode env body) s!"{op} failed: {body.repr env.floats}"

/-- Send a request and decode its answer. -/
def exchange (r : HttpRequest) : Async (HttpReply × Json) := do
  match r.headers.findSome? fun header => env.headerFault header.2 with
  | some fault => throw (.builtin fault "")
  | none =>
    let reply ← Co.await r
    let body ← Co.ret (readArloJson r reply)
    return (reply, body)

/-- Send a request to ocapi and read the `meta` block of its answer. -/
def exchangeMeta (r : HttpRequest) : Async (HttpReply × Json × Json) := do
  let (reply, body) ← exchange env r
  let block ← Co.ret (arloMeta env r reply body)
  return (reply, body, block)

/-- Headers for ocapi-app.arlo.com requests. -/
def ocapiHeaders (token : Json) : Except Exc (List (String × Json)) :=
  let headers :=
    [("Content-Type", .str "application/json; charset=UTF-8"),
     ("Accept", .str "application/json, text/plain, */*"),
     ("Source", .str "arloCamWeb"),
     ("Auth-Version", .str "2"),
     ("X-User-Device-Id", .str env.deviceId),
     ("X-User-Device-Type", .str "BROWSER"),
     ("X-User-Device-Automation-Name", .str (base64 "BROWSER")),
     ("X-Service-Version", .str "v3"),
     ("Origin", .str "https://my.arlo.com"),
     ("Referer", .str "https://my.arlo.com/"),
     ("User-Agent", .str BROWSER_UA)]
  if token.truthy then
    match token with
    | .str text => .ok (headers ++ [("Authorization", .str (base64 text))])
    | value => .error (value.noAttribute "encode")
  else .ok headers

/-- Headers for myapi.arlo.com, with the account-level xCloudId. -/
def myapiHeaders (token : Json) (s : ClientState) : List (String × Json) :=
  [("Content-Type", .str "application/json; charset=utf-8"),
   ("Accept", .str "application/json"),
   ("Authorization", token),
   ("Auth-Version", .str "2"),
   ("xCloudId", .str (s.xCloudId.getD "")),
   ("Origin", .str "https://my.arlo.com"),
   ("Referer", .str "https://my.arlo.com/"),
   ("User-Agent", .str BROWSER_UA)]

/-- `headers[name] = value`. -/
def setHeader (name : String) (value : Json) (headers : List (String × Json)) :
    List (String × Json) :=
  if headers.any (fun header => header.1 == name) then
    headers.map fun header => if header.1 = name then (name, value) else header
  else headers ++ [(name, value)]

/-- The failure of a command for a device that no list contained. -/
def unknownDevice (deviceId : String) : Exc :=
  .builtin .runtimeError s!"Unknown device_id {pyRepr deviceId}; call get_devices() first"

/-- The base-station xCloudId to send for a device's REST calls. -/
def deviceCloudId (deviceId : String) (s : ClientState) : Except Exc String :=
  match s.deviceCloudIds.get? deviceId with
  | some xCloudId => .ok xCloudId
  | none => .error (unknownDevice deviceId)

/-- The id a per-device command must be addressed to. -/
def deviceTarget (deviceId : String) (s : ClientState) : Except Exc String :=
  match s.deviceParentIds.get? deviceId with
  | some parentId => .ok parentId
  | none => .error (unknownDevice deviceId)

/-- myapi headers carrying the device's own base-station xCloudId. -/
def deviceHeaders (token : Json) (deviceId : String) (s : ClientState) :
    Except Exc (List (String × Json)) :=
  (deviceCloudId deviceId s).map fun xCloudId =>
    setHeader "xCloudId" (.str xCloudId) (myapiHeaders token s)

/-- Device headers with mobile UA, for the startStream call. -/
def deviceHeadersMobile (token : Json) (deviceId : String) (s : ClientState) :
    Except Exc (List (String × Json)) :=
  (deviceHeaders token deviceId s).map fun headers =>
    setHeader "x-user-device-type" (.str "PHONE") (setHeader "User-Agent" (.str MOBILE_UA) headers)

def notAuthenticated : Exc := .builtin .runtimeError "Not authenticated"

/-- Headers for the v3 location-based automation endpoints. -/
def v3ModeHeaders (token : Json) (s : ClientState) : Except Exc (List (String × Json)) :=
  match s.userId with
  | none => .error notAuthenticated
  | some userId =>
    .ok (setHeader "x-user-device-id" (.str userId)
      (setHeader "x-forwarded-user" (.str userId) (myapiHeaders token s)))

end Requests

end Eisenberg.Client
