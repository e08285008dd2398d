import Eisenberg.Client.FailedLogin
import Eisenberg.Client.Shapes
import Eisenberg.Framework.Trace

/-!
# Rate limits in a login

Arlo may answer any request to ocapi with "Too many requests". The login looks for that message in
the answers of auth and getFactors; in those of getFactorId and startAuth it takes it for something
else.
-/

namespace Eisenberg.Client

open Framework

/-- The `meta` block of the body has the message of a rate limit. -/
def LimitBody (body : Json) : Prop :=
  Has "meta" (Has "message" fun message => message = .str "Too many requests") body

/-- The answer of ocapi is a rate limit. -/
def RateLimits (r : HttpRequest) (answer : Except Exc HttpReply) : Prop :=
  r.host = .ocapi ∧ ∃ reply body, answer = .ok reply ∧ reply.body = .json body ∧ LimitBody body

/-- The requests by which a trusted browser logs in. -/
def trustPaths : List String := ["/api/getFactorId", "/api/startAuth"]

def RateLimitsTrust (r : HttpRequest) (answer : Except Exc HttpReply) : Prop :=
  r.path ∈ trustPaths ∧ RateLimits r answer

def answering (answers : Answers) : Nat → HttpRequest → Except Exc HttpReply :=
  fun n => (answers n).exc

/-- A rate limit is the last answer of the run, which raises RateLimitedError. -/
def HeedsRateLimit (answers : Answers) (c : Async Unit) (s : ClientState) : Prop :=
  c.StopsOn RateLimits (fun err => err.isRateLimitedError = true) (answering answers) 0 s

/-- No answer of getFactorId or startAuth that the run gets is a rate limit. -/
def TrustUnlimited (answers : Answers) (c : Async Unit) (s : ClientState) : Prop :=
  c.Avoids RateLimitsTrust (answering answers) 0 s

section Steps

variable {env : ClientEnv} {answers : Answers} {n : Nat} {s : ClientState} {r : HttpRequest}
variable {α β : Type}

/-- What `exchange` makes of an answer. -/
def decode (r : HttpRequest) (answer : Except Exc HttpReply) : Except Exc (HttpReply × Json) := do
  let reply ← answer
  let body ← readArloJson r reply
  return (reply, body)

theorem exchange_bind (hfault : (r.headers.findSome? fun header => env.headerFault header.2) = none)
    (f : HttpReply × Json → Async β) :
    exchange env r >>= f = .call r fun answer => Co.ret (decode r answer) >>= f := by
  unfold exchange
  rw [hfault]
  show Co.call r _ = Co.call r _
  congr 1
  funext answer
  cases answer with
  | error err => rfl
  | ok reply =>
    show ((Co.ret (readArloJson r reply) : Async Json).bind fun body =>
      Co.ret (.ok (reply, body))).bind f = (Co.ret (decode r (.ok reply)) : Async _).bind f
    cases hbody : readArloJson r reply with
    | error err => simp [decode, bind, Except.bind, hbody, Co.bind]
    | ok body => simp [decode, bind, Except.bind, hbody, Co.bind, pure, Except.pure]

theorem exchange_bind_fault {fault : Builtin}
    (hfault : (r.headers.findSome? fun header => env.headerFault header.2) = some fault)
    (f : HttpReply × Json → Async β) :
    exchange env r >>= f = Co.ret (.error (.builtin fault "")) := by
  unfold exchange
  rw [hfault]
  rfl

theorem exchangeMeta_bind (f : HttpReply × Json × Json → Async β) :
    exchangeMeta env r >>= f = exchange env r >>= fun x =>
      Co.ret (arloMeta env r x.1 x.2) >>= fun block => f (x.1, x.2, block) := by
  unfold exchangeMeta
  rw [Co.bind_assoc]
  congr 1
  funext x
  obtain ⟨reply, body⟩ := x
  show (Co.ret (arloMeta env r reply body) >>= fun block => pure (reply, body, block)) >>= f = _
  rw [Co.bind_assoc]
  rfl

theorem arloMeta_of_limitBody {body : Json} (h : LimitBody body) (reply : HttpReply) :
    ∃ block, arloMeta env r reply body = .ok block ∧ isRateLimit block = true := by
  obtain ⟨block, hmeta, message, hmessage, rfl⟩ := h
  refine ⟨block, ?_, ?_⟩
  · unfold arloMeta
    rw [hmeta]
    cases block with
    | obj fields => rfl
    | _ => cases hmessage
  · unfold isRateLimit
    rw [hmessage]
    rfl

/-- What the login does with a rate limit: it stops, or it stops only where it is not looked for. -/
def Heeds (answers : Answers) (n : Nat) (c : Async α) (s : ClientState) : Prop :=
  c.StopsUnless RateLimits RateLimitsTrust (fun err => err.isRateLimitedError = true)
    (answering answers) n s

/-- The rest of the run sends nothing and raises RateLimitedError. -/
def EndsLimited (answers : Answers) (n : Nat) (c : Async α) (s : ClientState) : Prop :=
  c.Ends (fun err => err.isRateLimitedError = true) (answering answers) n s

theorem heeds_ret_bind {x : Except Exc α} {f : α → Async β}
    (h : ∀ a, x = .ok a → Heeds answers n (f a) s) : Heeds answers n (Co.ret x >>= f) s := by
  cases x with
  | ok a => exact h a rfl
  | error err => exact Co.stopsUnless_of_quiet rfl

theorem endsLimited_error {err : Exc} :
    EndsLimited answers n (Co.ret (.error err) : Async α) s ↔ err.isRateLimitedError = true := by
  constructor
  · rintro ⟨-, raised, hraised, hlimited⟩
    cases hraised
    exact hlimited
  · intro h
    exact ⟨rfl, err, rfl, h⟩

/-- A rate limit ends the run where it is looked for, and elsewhere it does not. -/
theorem heeds_exchange_bind {f : HttpReply × Json → Async β}
    (hlimit : ∀ reply body, r.host = .ocapi → LimitBody body →
      (EndsLimited answers (n + 1) (f (reply, body)) s ↔ r.path ∉ trustPaths))
    (hrest : ∀ x, Heeds answers (n + 1) (f x) s) :
    Heeds answers n (exchange env r >>= f) s := by
  cases hfault : r.headers.findSome? fun header => env.headerFault header.2 with
  | some fault =>
    rw [exchange_bind_fault hfault]
    exact Co.stopsUnless_of_quiet rfl
  | none =>
    rw [exchange_bind hfault]
    have hends : RateLimits r (answering answers n r) →
        (EndsLimited answers (n + 1) (Co.ret (decode r (answering answers n r)) >>= f) s ↔
          r.path ∉ trustPaths) := by
      rintro ⟨hhost, reply, body, hanswer, hbody, hlimited⟩
      have hdecode : decode r (.ok reply) = .ok (reply, body) := by
        simp [decode, readArloJson, hbody, bind, Except.bind, pure, Except.pure]
      rw [hanswer, hdecode]
      exact hlimit reply body hhost hlimited
    apply Co.stopsUnless_call
    · intro hworse
      refine ⟨hworse.2, ?_⟩
      intro hlimited
      exact (hends hworse.2).mp hlimited hworse.1
    · intro hbad hworse
      apply (hends hbad).mpr
      exact fun hpath => hworse ⟨hpath, hbad⟩
    · exact heeds_ret_bind fun x _ => hrest x

theorem heeds_exchangeMeta_bind {f : HttpReply × Json × Json → Async β}
    (hlimit : ∀ reply body block, isRateLimit block = true →
      (EndsLimited answers (n + 1) (f (reply, body, block)) s ↔ r.path ∉ trustPaths))
    (hrest : ∀ x, Heeds answers (n + 1) (f x) s) :
    Heeds answers n (exchangeMeta env r >>= f) s := by
  rw [exchangeMeta_bind]
  apply heeds_exchange_bind
  · intro reply body _ hbody
    obtain ⟨block, hblock, hmessage⟩ := @arloMeta_of_limitBody env r body hbody reply
    show EndsLimited answers (n + 1) (Co.ret (arloMeta env r reply body) >>= _) s ↔ _
    rw [hblock]
    exact hlimit reply body block hmessage
  · intro x
    exact heeds_ret_bind fun block _ => hrest (x.1, x.2, block)

/-- A rate limit is never raised by what is not one of ocapi. -/
def NotLimit (err : Exc) : Prop := err.isRateLimitedError = false

theorem not_endsLimited_ret_bind {x : Except Exc α} {f : α → Async β} (hx : Raises NotLimit x)
    (hf : ∀ a, ¬ EndsLimited answers n (f a) s) :
    ¬ EndsLimited answers n (Co.ret x >>= f) s := by
  cases x with
  | ok a => exact hf a
  | error err =>
    intro h
    have hlimited := endsLimited_error.mp h
    rw [show err.isRateLimitedError = false from hx] at hlimited
    cases hlimited

theorem not_endsLimited_exchange_bind {f : HttpReply × Json → Async β} :
    ¬ EndsLimited answers n (exchange env r >>= f) s := by
  cases hfault : r.headers.findSome? fun header => env.headerFault header.2 with
  | some fault =>
    rw [exchange_bind_fault hfault]
    intro h
    cases endsLimited_error.mp h
  | none =>
    rw [exchange_bind hfault]
    rintro ⟨htrace, -⟩
    cases htrace

theorem not_endsLimited_exchangeMeta_bind {f : HttpReply × Json × Json → Async β} :
    ¬ EndsLimited answers n (exchangeMeta env r >>= f) s := by
  rw [exchangeMeta_bind]
  exact not_endsLimited_exchange_bind

end Steps

/-! ## The steps of a login -/

section LoginSteps

variable (env : ClientEnv) {answers : Answers} {n : Nat} {s : ClientState} {body block : Json}

theorem notLimit_builtin (kind : Builtin) (message : String) : NotLimit (.builtin kind message) :=
  rfl

theorem ocapiHeaders_notLimit (token : Json) : Raises NotLimit (ocapiHeaders env token) := by
  unfold ocapiHeaders
  dsimp only
  split
  · split
    · trivial
    · exact notLimit_builtin _ _
  · trivial

theorem readAuth_limited (h : isRateLimit block = true) :
    readAuth env body block = .error rateLimited := by
  unfold readAuth
  rw [h]
  rfl

theorem readFactors_limited (h : isRateLimit block = true) :
    readFactors env body block = .error rateLimited := by
  unfold readFactors
  rw [h]
  rfl

variable (answers n s)

theorem not_endsLimited_establishSession :
    ¬ EndsLimited answers n (establishSession env) s := by
  show ¬ EndsLimited answers n (if s.token.isNull = true then
    Co.ret (.error (.builtin .runtimeError _)) else exchange env (sessionRequest s) >>= _) s
  split
  · intro h
    cases endsLimited_error.mp h
  · exact not_endsLimited_exchange_bind

theorem not_endsLimited_loginTrusted (token factorId : Json) :
    ¬ EndsLimited answers n (loginTrusted env token factorId) s := by
  show ¬ EndsLimited answers n (Co.ret (ocapiHeaders env token) >>= _) s
  apply not_endsLimited_ret_bind (ocapiHeaders_notLimit env token)
  intro headers
  exact not_endsLimited_exchangeMeta_bind

theorem not_endsLimited_loginUntrusted (token : Json) :
    ¬ EndsLimited answers n (loginUntrusted env token) s := by
  show ¬ EndsLimited answers n (getFactors env token >>= fun factors =>
    throw (.mfaRequired factors)) (s.setToken token)
  unfold getFactors
  rw [Co.bind_assoc]
  apply not_endsLimited_ret_bind (ocapiHeaders_notLimit env token)
  intro headers
  rw [Co.bind_assoc]
  exact not_endsLimited_exchangeMeta_bind

theorem heeds_establishSession : Heeds answers n (establishSession env) s := by
  show Heeds answers n (if s.token.isNull = true then _ else _) s
  split
  · exact Co.stopsUnless_of_quiet rfl
  · apply heeds_exchange_bind
    · intro reply body hhost
      cases hhost
    · intro x
      exact heeds_ret_bind fun mqttUrl _ => Co.stopsUnless_of_quiet rfl

theorem heeds_loginTrusted (token factorId : Json) :
    Heeds answers n (loginTrusted env token factorId) s := by
  show Heeds answers n (Co.ret (ocapiHeaders env token) >>= _) s
  apply heeds_ret_bind
  intro headers _
  apply heeds_exchangeMeta_bind
  · intro reply body block hblock
    apply iff_of_false
    · apply not_endsLimited_ret_bind
        (raises_readTrustedAuth notLimit_builtin env (fun _ => rfl) body block)
      intro accepted
      exact not_endsLimited_establishSession env answers (n + 1) _
    · exact fun hpath => hpath (by simp [trustPaths, ocapiRequest])
  · rintro ⟨reply, body, block⟩
    apply heeds_ret_bind
    intro accepted _
    exact heeds_establishSession env answers (n + 1) _

theorem heeds_loginUntrusted (token : Json) :
    Heeds answers n (loginUntrusted env token) s := by
  show Heeds answers n (getFactors env token >>= fun factors => throw (.mfaRequired factors))
    (s.setToken token)
  unfold getFactors
  rw [Co.bind_assoc]
  apply heeds_ret_bind
  intro headers _
  rw [Co.bind_assoc]
  apply heeds_exchangeMeta_bind
  · intro reply body block hblock
    apply iff_of_true
    · show EndsLimited answers (n + 1) (Co.ret (readFactors env body block) >>= _) _
      rw [readFactors_limited env hblock]
      exact endsLimited_error.mpr rfl
    · simp [trustPaths, ocapiRequest]
  · rintro ⟨reply, body, block⟩
    apply heeds_ret_bind
    intro factors _
    exact Co.stopsUnless_of_quiet rfl

theorem heeds_loginByTrust (token : Json) :
    Heeds answers n (loginByTrust env token) s := by
  show Heeds answers n (Co.ret (ocapiHeaders env token) >>= _) s
  apply heeds_ret_bind
  intro headers _
  apply heeds_exchangeMeta_bind
  · intro reply body block hblock
    apply iff_of_false
    · apply not_endsLimited_ret_bind (raises_item notLimit_builtin "code" block)
      intro code
      show ¬ EndsLimited answers (n + 1) (if code.eqInt 200 = true then _ else _) s
      split
      · apply not_endsLimited_ret_bind (raises_item notLimit_builtin "data" body)
        intro data
        apply not_endsLimited_ret_bind (raises_item notLimit_builtin "factorId" data)
        intro factorId
        exact not_endsLimited_loginTrusted env answers (n + 1) s token factorId
      · exact not_endsLimited_loginUntrusted env answers (n + 1) s token
    · exact fun hpath => hpath (by simp [trustPaths, ocapiRequest])
  · rintro ⟨reply, body, block⟩
    apply heeds_ret_bind
    intro code _
    show Heeds answers (n + 1) (if code.eqInt 200 = true then _ else _) s
    split
    · apply heeds_ret_bind
      intro data _
      apply heeds_ret_bind
      intro factorId _
      exact heeds_loginTrusted env answers (n + 1) s token factorId
    · exact heeds_loginUntrusted env answers (n + 1) s token

theorem heeds_login : Heeds answers n (login env) s := by
  show Heeds answers n (Co.ret (ocapiHeaders env .null) >>= _) s
  apply heeds_ret_bind
  intro headers _
  apply heeds_exchangeMeta_bind
  · intro reply body block hblock
    apply iff_of_true
    · show EndsLimited answers (n + 1) (Co.ret (readAuth env body block) >>= _) s
      rw [readAuth_limited env hblock]
      exact endsLimited_error.mpr rfl
    · simp [trustPaths, ocapiRequest]
  · rintro ⟨reply, body, block⟩
    apply heeds_ret_bind
    intro auth _
    show Heeds answers (n + 1) (if (auth.authCompleted || auth.mfaDisabledByService) = true then _
      else _) (s.setUserId auth.userId)
    split
    · exact heeds_establishSession env answers (n + 1) _
    · exact heeds_loginByTrust env answers (n + 1) _ (.str auth.token)

end LoginSteps

/-- A login heeds every rate limit exactly if none is in an answer of getFactorId or startAuth. -/
theorem login_heeds_rateLimit_iff (env : ClientEnv) (answers : Answers) (s : ClientState) :
    HeedsRateLimit answers (login env) s ↔ TrustUnlimited answers (login env) s :=
  heeds_login env answers 0 s

section Sample

def jsonReply (body : Json) : HttpReply where
  status := 200
  contentType := "application/json"
  body := .json body
  now := 0

def limitBody : Json :=
  .obj [("meta", .obj [("code", .int 429), ("message", .str "Too many requests")])]

/-- The login is to go on, getFactorId is rate limited, and getFactors answers. -/
def limitedTrust : Answers := fun n _ => .ok (jsonReply (
  if n = 0 then
    .obj [("meta", .obj [("code", .int 200)]),
      ("data", .obj [("token", .str "NEW"), ("userId", .str "U"), ("authCompleted", .bool false)])]
  else if n = 1 then limitBody
  else
    .obj [("meta", .obj [("code", .int 200)]),
      ("data", .obj [("items", .arr [.obj [("factorId", .str "F"), ("factorType", .str "EMAIL"),
        ("displayName", .str "u***@example.org"), ("factorRole", .str "PRIMARY")]])])]))

set_option maxRecDepth 10000 in
/-- The rate limit is taken for an untrusted browser: one more request is sent, and the login asks
for a second factor. -/
theorem limitedTrust_not_heeded : ¬ HeedsRateLimit limitedTrust (login sampleEnv) {} := by
  intro hheeds
  obtain ⟨auth, trust, factors, htrace, hhost⟩ :
      ∃ auth trust factors, (login sampleEnv).trace (answering limitedTrust) 0 {} =
        [auth, ⟨trust, .ok (jsonReply limitBody)⟩, factors] ∧ trust.host = .ocapi :=
    ⟨_, _, _, rfl, rfl⟩
  have hlimit : RateLimits trust (.ok (jsonReply limitBody)) :=
    ⟨hhost, _, _, rfl, rfl, _, rfl, _, rfl, rfl⟩
  have hends := hheeds [auth] trust _ [factors] htrace hlimit
  cases hends.1

end Sample

end Eisenberg.Client
