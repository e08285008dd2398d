import Eisenberg.Client.Shapes

/-!
# Which answers are classified

For every method of the client, the bodies on which it returns or raises one of the client's own
exceptions. On every other body an exception of Python or pydantic escapes.
-/

namespace Eisenberg.Client

open Framework

/-- Every request is answered with a decodable body. -/
def jsonAnswers (replies : Nat → HttpReply) (bodies : Nat → Json) : Answers :=
  fun n _ => .ok { replies n with body := .json (bodies n) }

section Sending

variable (env : ClientEnv)

/-- aiohttp sends the headers. -/
def CanSend (headers : List (String × Json)) : Prop :=
  (headers.findSome? fun header => env.headerFault header.2) = none

/-- The headers for ocapi can be built and sent. -/
def CanSendOcapi (token : Json) : Prop :=
  ∃ headers, ocapiHeaders env token = .ok headers ∧ CanSend env headers

variable {env} {replies : Nat → HttpReply} {bodies : Nat → Json} {n : Nat} {s : ClientState}
  {α β : Type}

theorem raises_received_bind (r : HttpRequest) (f : HttpReply × Json → Except Exc β) :
    Raises Classified (received env r (jsonAnswers replies bodies n) >>= f) ↔
      CanSend env r.headers ∧
        Raises Classified (f ({ replies n with body := .json (bodies n) }, bodies n)) := by
  unfold received CanSend
  cases r.headers.findSome? fun header => env.headerFault header.2 with
  | some fault => simp [raises_bind, not_classified_builtin]
  | none =>
    simp only [true_and]
    rfl

theorem raises_arloMeta_bind (r : HttpRequest) (reply : HttpReply) (body : Json)
    (f : Json → Except Exc β) :
    Raises Classified (arloMeta env r reply body >>= f) ↔
      MetaShape (fun block => Raises Classified (f block)) body := by
  unfold arloMeta MetaShape
  split
  next fields hfields => simp [hfields, raises_bind]
  next hnone =>
    constructor
    · intro _ fields hfields
      exact absurd hfields (hnone fields)
    · intro _
      rfl

theorem raises_receivedMeta_bind (r : HttpRequest) (f : HttpReply × Json × Json → Except Exc β) :
    Raises Classified (receivedMeta env r (jsonAnswers replies bodies n) >>= f) ↔
      CanSend env r.headers ∧ MetaShape (fun block => Raises Classified
        (f ({ replies n with body := .json (bodies n) }, bodies n, block))) (bodies n) := by
  simp only [receivedMeta, bind_assoc, raises_received_bind, raises_arloMeta_bind, pure_bind]

theorem ocapiHeaders_builtin (token : Json) : Raises IsBuiltin (ocapiHeaders env token) := by
  unfold ocapiHeaders
  dsimp only
  split
  · split
    · trivial
    · exact isBuiltin_builtin _ _
  · trivial

theorem raises_ocapi_bind (token : Json) (request : List (String × Json) → HttpRequest)
    (hrequest : ∀ headers, (request headers).headers = headers)
    (f : HttpReply × Json × Json → Except Exc β) :
    Raises Classified (ocapiHeaders env token >>= fun headers =>
        receivedMeta env (request headers) (jsonAnswers replies bodies n) >>= f) ↔
      CanSendOcapi env token ∧ MetaShape (fun block => Raises Classified
        (f ({ replies n with body := .json (bodies n) }, bodies n, block))) (bodies n) := by
  rw [raises_bind_of_builtin (ocapiHeaders_builtin token)]
  simp only [raises_receivedMeta_bind, hrequest, CanSendOcapi]
  constructor
  · rintro ⟨headers, hheaders, hsend, hshape⟩
    exact ⟨⟨headers, hheaders, hsend⟩, hshape⟩
  · rintro ⟨⟨headers, hheaders, hsend⟩, hshape⟩
    exact ⟨headers, hheaders, hsend, hshape⟩

theorem continueWith_snd (x : Except Exc α) (f : α → ClientState × Except Exc β) :
    (continueWith x s f).2 = x >>= fun a => (f a).2 := by
  cases x with
  | ok a => rfl
  | error err => rfl

end Sending

/-! ## Login -/

section Login

variable (env : ClientEnv)

/-- A token that session/v3 is asked with, and the answer. -/
def SessionModelled (s : ClientState) (token body : Json) : Prop :=
  token.isNull = false ∧ CanSend env (myapiHeaders token s) ∧
    SuccessShape (fun data => data.isObj = true) body

def TrustedModelled (s : ClientState) (token : Json) (bodies : Nat → Json) : Prop :=
  CanSendOcapi env token ∧
    MetaShape (TrustedShape (fun accessToken => SessionModelled env s accessToken (bodies 3))
      (bodies 2)) (bodies 2)

def UntrustedModelled (token body : Json) : Prop :=
  CanSendOcapi env token ∧ MetaShape (FactorsShape env body) body

/-- The answer of /api/getFactorId, and what it leads to. -/
def TrustModelled (s : ClientState) (token : Json) (bodies : Nat → Json) : Prop :=
  CanSendOcapi env token ∧
    MetaShape (Has "code" fun code =>
      if code.eqInt 200 then
        Has "data" (Has "factorId" fun _ => TrustedModelled env s token bodies) (bodies 1)
      else UntrustedModelled env token (bodies 2)) (bodies 1)

/-- The answer of /api/auth, and what it leads to. -/
def LoginModelled (s : ClientState) (bodies : Nat → Json) : Prop :=
  CanSendOcapi env .null ∧
    MetaShape (AuthShape env (fun auth =>
      if auth.authCompleted || auth.mfaDisabledByService then
        SessionModelled env s (.str auth.token) (bodies 1)
      else TrustModelled env s (.str auth.token) bodies) (bodies 0)) (bodies 0)

variable {env} {replies : Nat → HttpReply} {bodies : Nat → Json} {n : Nat} {s t : ClientState}

theorem raises_establishSession_bind {β : Type} (ht : t.xCloudId = s.xCloudId) (f : Unit → Async β)
    (hrest : ∀ u, Raises Classified (runFrom (jsonAnswers replies bodies) (n + 1) (f ()) u).2) :
    Raises Classified (runFrom (jsonAnswers replies bodies) n (establishSession env >>= f) t).2 ↔
      SessionModelled env s t.token (bodies n) := by
  have hheaders : myapiHeaders t.token t = myapiHeaders t.token s := by
    simp only [myapiHeaders, ht]
  rw [runFrom_establishSession_bind, continueWith_snd, sessionStep, SessionModelled]
  cases htoken : t.token.isNull with
  | true => simp [raises_bind, not_classified_builtin]
  | false =>
    simp only [Bool.false_eq_true, if_false, bind_assoc, raises_received_bind, sessionRequest,
      hheaders, true_and]
    rw [raises_bind, raises_readSession]
    simp [hrest]

theorem raises_establishSession (ht : t.xCloudId = s.xCloudId) :
    Raises Classified (runFrom (jsonAnswers replies bodies) n (establishSession env) t).2 ↔
      SessionModelled env s t.token (bodies n) := by
  rw [← Co.bind_pure (establishSession env)]
  exact raises_establishSession_bind ht _ fun _ => raises_pure_intro ()

theorem raises_loginTrusted (token factorId : Json) (ht : t.xCloudId = s.xCloudId) :
    Raises Classified
        (runFrom (jsonAnswers replies bodies) 2 (loginTrusted env token factorId) t).2 ↔
      TrustedModelled env s token bodies := by
  have hsession : ∀ (accessToken : Json) (now : Nat),
      Raises Classified (runFrom (jsonAnswers replies bodies) (2 + 1) (establishSession env)
          (t.useToken accessToken now)).2 ↔
        SessionModelled env s accessToken (bodies 3) := by
    intro accessToken now
    exact raises_establishSession ht
  simp only [runFrom_loginTrusted, ← runFrom_establishSession]
  rw [continueWith_snd, trustedStep]
  simp only [bind_assoc, pure_bind]
  rw [raises_ocapi_bind _ _ fun headers => rfl, TrustedModelled]
  simp only [raises_readTrustedAuth_bind, hsession]

theorem raises_loginUntrusted (token : Json) :
    Raises Classified (runFrom (jsonAnswers replies bodies) 2 (loginUntrusted env token) t).2 ↔
      UntrustedModelled env token (bodies 2) := by
  have hread : ∀ block : Json,
      Raises Classified (readFactors env (bodies 2) block >>= fun factors =>
          (Except.error (.mfaRequired factors) : Except Exc Unit)) ↔
        FactorsShape env (bodies 2) block := by
    intro block
    rw [raises_bind, raises_readFactors]
    simp [Classified, Exc.isEisenbergError]
  rw [runFrom_loginUntrusted, continueWith_snd, factorsStep]
  simp only [bind_assoc]
  rw [raises_ocapi_bind _ _ fun headers => rfl, UntrustedModelled]
  simp only [hread]

theorem raises_loginByTrust (token : Json) (ht : t.xCloudId = s.xCloudId) :
    Raises Classified (runFrom (jsonAnswers replies bodies) 1 (loginByTrust env token) t).2 ↔
      TrustModelled env s token bodies := by
  rw [runFrom_loginByTrust, continueWith_snd, trustStep]
  simp only [bind_assoc]
  rw [raises_ocapi_bind _ _ fun headers => rfl, TrustModelled]
  simp only [raises_item_bind]
  refine and_congr_right fun _ => forall_congr' fun fields => imp_congr_right fun _ =>
    has_congr fun code => ?_
  cases hcode : code.eqInt 200 with
  | true =>
    simp only [if_true, bind_assoc, raises_item_bind, pure_bind, raises_loginTrusted _ _ ht]
  | false =>
    simp only [Bool.false_eq_true, if_false, pure_bind]
    exact raises_loginUntrusted token

theorem raises_login :
    Raises Classified (run (jsonAnswers replies bodies) (login env) s).2 ↔
      LoginModelled env s bodies := by
  have hissued : ∀ (now : Nat) (auth : AuthData),
      Raises Classified (if auth.authCompleted || auth.mfaDisabledByService then
          runFrom (jsonAnswers replies bodies) 1 (establishSession env)
            ((s.setUserId auth.userId).useToken (.str auth.token) now)
        else runFrom (jsonAnswers replies bodies) 1 (loginByTrust env (.str auth.token))
            (s.setUserId auth.userId)).2 ↔
        if auth.authCompleted || auth.mfaDisabledByService then
          SessionModelled env s (.str auth.token) (bodies 1)
        else TrustModelled env s (.str auth.token) bodies := by
    intro now auth
    split
    next => exact raises_establishSession rfl
    next => exact raises_loginByTrust _ rfl
  rw [run_login, continueWith_snd, authStep]
  simp only [bind_assoc, pure_bind]
  rw [raises_ocapi_bind _ _ fun headers => rfl, LoginModelled]
  simp only [raises_readAuth_bind, hissued]

end Login

/-! ## The methods that need a token -/

section Methods

variable (env : ClientEnv)

/-- The client has a token, and the headers made of it can be built and sent. -/
def CanSendWith (s : ClientState) (headers : Except Exc (List (String × Json))) : Prop :=
  s.token.isNull = false ∧ ∃ sent, headers = .ok sent ∧ CanSend env sent

/-- The device is known by its gateway and its xCloudId. -/
def CanCommand (s : ClientState) (deviceId : String) : Prop :=
  (∃ target, deviceTarget deviceId s = .ok target) ∧
    CanSendWith env s (deviceHeaders s.token deviceId s)

/-- Answers of finishAuth, of the pairing if there is one, and of session/v3. -/
def FinishModelled (s : ClientState) (bodies : Nat → Json) : Prop :=
  CanSendOcapi env s.token ∧
    MetaShape (FinishShape (fun token browserAuthCode =>
      if browserAuthCode.truthy then
        CanSendOcapi env token ∧
          MetaShape (Has "code" fun _ => SessionModelled env s token (bodies 2)) (bodies 1)
      else SessionModelled env s token (bodies 1)) (bodies 0)) (bodies 0)

/-- The condition on the client and on the bodies under which a method classifies them. -/
def Modelled (s : ClientState) (bodies : Nat → Json) : Method → Prop
  | .login => LoginModelled env s bodies
  | .startMfa _ =>
    s.token.isNull = true ∨ s.userId = none ∨
      (CanSendOcapi env s.token ∧ MetaShape (FactorAuthCodeShape (bodies 0)) (bodies 0))
  | .tryFinishAuth _ _ => FinishModelled env s bodies
  | .establishSession => SessionModelled env s s.token (bodies 0)
  | .getDevices =>
    CanSendWith env s (.ok (myapiHeaders s.token s)) ∧
      SuccessShape (ListShape (validateDevice env.scalars)) (bodies 0)
  | .getLocations =>
    s.userId ≠ none ∧ CanSendWith env s (.ok (myapiHeaders s.token s)) ∧
      LocationsShape env (bodies 0)
  | .getActiveMode _ =>
    CanSendWith env s (v3ModeHeaders s.token s) ∧ ActiveModeShape env (bodies 0)
  | .getCustomModes _ =>
    CanSendWith env s (v3ModeHeaders s.token s) ∧ SuccessShape (CustomModesShape env) (bodies 0)
  | .setActiveMode _ _ _ _ =>
    CanSendWith env s (v3ModeHeaders s.token s) ∧
      (Has "success" (fun success => isFalse success = true) (bodies 0) ∨
        ActiveModeShape env (bodies 0))
  | .startStream deviceId =>
    (∃ target, deviceTarget deviceId s = .ok target) ∧
      CanSendWith env s (deviceHeadersMobile s.token deviceId s) ∧
      SuccessShape (fun data => (StreamResponse.validate env.scalars data).isSome = true) (bodies 0)
  | .requestSnapshot deviceId | .setSpotlight deviceId _ _ | .setPrivacy deviceId _
  | .setSiren deviceId _ => CanCommand env s deviceId ∧ (bodies 0).isObj = true
  | .registerEventSubscription baseId | .requestDeviceStates baseId =>
    CanSendWith env s (deviceHeaders s.token baseId s) ∧ (bodies 0).isObj = true

variable {env} {replies : Nat → HttpReply} {bodies : Nat → Json} {n : Nat} {s t : ClientState}
  {α β : Type}

theorem raises_map_iff (x : Except Exc α) (f : α → β) :
    Raises Classified (x.map f) ↔ Raises Classified x := by
  cases x with
  | ok a => rfl
  | error err => rfl

theorem raises_discard (c : Async α) :
    Raises Classified (runFrom (jsonAnswers replies bodies) n (discard c) s).2 ↔
      Raises Classified (runFrom (jsonAnswers replies bodies) n c s).2 := by
  rw [runFrom_discard]
  exact raises_map_iff _ _

theorem tokenOf_builtin (s : ClientState) : Raises IsBuiltin (tokenOf s) := by
  unfold tokenOf
  split
  · exact isBuiltin_builtin _ _
  · trivial

theorem raises_tokenOf_bind (f : Json → Except Exc β) :
    Raises Classified (tokenOf s >>= f) ↔
      s.token.isNull = false ∧ Raises Classified (f s.token) := by
  rw [raises_bind_of_builtin (tokenOf_builtin s), tokenOf]
  cases s.token.isNull with
  | true => simp
  | false => simp

theorem deviceTarget_builtin (deviceId : String) (s : ClientState) :
    Raises IsBuiltin (deviceTarget deviceId s) := by
  unfold deviceTarget
  split
  · trivial
  · exact isBuiltin_builtin _ _

theorem deviceHeaders_builtin (token : Json) (deviceId : String) (s : ClientState) :
    Raises IsBuiltin (deviceHeaders token deviceId s) := by
  unfold deviceHeaders deviceCloudId
  split
  · trivial
  · exact isBuiltin_builtin _ _

theorem deviceHeadersMobile_builtin (token : Json) (deviceId : String) (s : ClientState) :
    Raises IsBuiltin (deviceHeadersMobile token deviceId s) := by
  have hheaders := deviceHeaders_builtin token deviceId s
  unfold deviceHeadersMobile
  cases hread : deviceHeaders token deviceId s with
  | ok headers => trivial
  | error err =>
    rw [hread] at hheaders
    exact hheaders

theorem v3ModeHeaders_builtin (token : Json) (s : ClientState) :
    Raises IsBuiltin (v3ModeHeaders token s) := by
  unfold v3ModeHeaders
  split
  · exact isBuiltin_builtin _ _
  · trivial

theorem raises_token_request {headers : Json → Except Exc (List (String × Json))}
    (hheaders : ∀ token, Raises IsBuiltin (headers token))
    (request : List (String × Json) → HttpRequest)
    (hrequest : ∀ sent, (request sent).headers = sent) (read : Json → Except Exc β) :
    Raises Classified (tokenOf s >>= fun token => headers token >>= fun sent =>
        received env (request sent) (jsonAnswers replies bodies n) >>= fun a => read a.2) ↔
      CanSendWith env s (headers s.token) ∧ Raises Classified (read (bodies n)) := by
  rw [raises_tokenOf_bind, raises_bind_of_builtin (hheaders s.token), CanSendWith]
  simp only [raises_received_bind, hrequest]
  constructor
  · rintro ⟨htoken, sent, hsent, hsend, hread⟩
    exact ⟨⟨htoken, sent, hsent, hsend⟩, hread⟩
  · rintro ⟨⟨htoken, sent, hsent, hsend⟩, hread⟩
    exact ⟨htoken, sent, hsent, hsend, hread⟩

theorem raises_getActiveMode (locationId : String) :
    Raises Classified (runFrom (jsonAnswers replies bodies) 0 (getActiveMode env locationId) s).2 ↔
      Modelled env s bodies (.getActiveMode locationId) := by
  simp only [getActiveMode, runFrom_get_bind, runFrom_ret_bind, runFrom_exchange_bind,
    continueWith_snd, runFrom_ret]
  rw [raises_token_request (fun token => v3ModeHeaders_builtin token s) _ (fun sent => rfl)
    (readActiveMode env), raises_readActiveMode, Modelled]

theorem raises_getCustomModes (locationId : String) :
    Raises Classified
        (runFrom (jsonAnswers replies bodies) 0 (getCustomModes env locationId) s).2 ↔
      Modelled env s bodies (.getCustomModes locationId) := by
  simp only [getCustomModes, runFrom_get_bind, runFrom_ret_bind, runFrom_exchange_bind,
    continueWith_snd, runFrom_ret]
  rw [raises_token_request (fun token => v3ModeHeaders_builtin token s) _ (fun sent => rfl)
    (readCustomModes env), raises_readCustomModes, Modelled]

theorem raises_setActiveMode (locationId mode : String) (revision : Int)
    (custom : Option (Dict String String)) :
    Raises Classified (runFrom (jsonAnswers replies bodies) 0
        (setActiveMode env locationId mode revision custom) s).2 ↔
      Modelled env s bodies (.setActiveMode locationId mode revision custom) := by
  simp only [setActiveMode, runFrom_get_bind, runFrom_ret_bind, runFrom_exchange_bind,
    continueWith_snd, runFrom_ret]
  rw [raises_token_request (fun token => v3ModeHeaders_builtin token s) _ (fun sent => rfl)
    (readSetMode env), raises_readSetMode, Modelled]

theorem raises_postCommand (op path : String) (headers : List (String × Json)) (payload : Json) :
    Raises Classified
        (runFrom (jsonAnswers replies bodies) n (postCommand env op path headers payload) s).2 ↔
      CanSend env headers ∧ (bodies n).isObj = true := by
  simp only [postCommand, runFrom_exchange_bind, continueWith_snd, runFrom_ret]
  rw [raises_received_bind, raises_checkSuccess]

theorem raises_deviceCommand (op deviceId : String) (path : String → String)
    (payload : ClientState → String → Json) :
    Raises Classified (runFrom (jsonAnswers replies bodies) 0
        (deviceCommand env op deviceId path payload) s).2 ↔
      CanCommand env s deviceId ∧ (bodies 0).isObj = true := by
  simp only [deviceCommand, runFrom_get_bind, runFrom_ret_bind, continueWith_snd]
  rw [raises_tokenOf_bind, raises_bind_of_builtin (deviceTarget_builtin deviceId s)]
  simp only [raises_bind_of_builtin (deviceHeaders_builtin s.token deviceId s),
    raises_postCommand, CanCommand, CanSendWith]
  constructor
  · rintro ⟨htoken, target, htarget, sent, hsent, hsend, hobj⟩
    exact ⟨⟨⟨target, htarget⟩, htoken, sent, hsent, hsend⟩, hobj⟩
  · rintro ⟨⟨⟨target, htarget⟩, htoken, sent, hsent, hsend⟩, hobj⟩
    exact ⟨htoken, target, htarget, sent, hsent, hsend, hobj⟩

theorem raises_baseCommand (op baseId : String) (payload : ClientState → Json) :
    Raises Classified
        (runFrom (jsonAnswers replies bodies) 0 (baseCommand env op baseId payload) s).2 ↔
      CanSendWith env s (deviceHeaders s.token baseId s) ∧ (bodies 0).isObj = true := by
  simp only [baseCommand, runFrom_get_bind, runFrom_ret_bind, continueWith_snd]
  rw [raises_tokenOf_bind, raises_bind_of_builtin (deviceHeaders_builtin s.token baseId s)]
  simp only [raises_postCommand, CanSendWith]
  constructor
  · rintro ⟨htoken, sent, hsent, hsend, hobj⟩
    exact ⟨⟨htoken, sent, hsent, hsend⟩, hobj⟩
  · rintro ⟨⟨htoken, sent, hsent, hsend⟩, hobj⟩
    exact ⟨htoken, sent, hsent, hsend, hobj⟩

theorem raises_startStream (deviceId : String) :
    Raises Classified (runFrom (jsonAnswers replies bodies) 0 (startStream env deviceId) s).2 ↔
      Modelled env s bodies (.startStream deviceId) := by
  simp only [startStream, runFrom_get_bind, runFrom_ret_bind, runFrom_exchange_bind,
    continueWith_snd, runFrom_ret]
  rw [raises_tokenOf_bind,
    raises_bind_of_builtin (deviceHeadersMobile_builtin s.token deviceId s)]
  simp only [raises_bind_of_builtin (deviceTarget_builtin deviceId s), raises_received_bind,
    raises_readStream, Modelled, CanSendWith]
  constructor
  · rintro ⟨htoken, sent, hsent, target, htarget, hsend, hshape⟩
    exact ⟨⟨target, htarget⟩, ⟨htoken, sent, hsent, hsend⟩, hshape⟩
  · rintro ⟨⟨target, htarget⟩, ⟨htoken, sent, hsent, hsend⟩, hshape⟩
    exact ⟨htoken, sent, hsent, target, htarget, hsend, hshape⟩

theorem raises_account_request (request : Json → HttpRequest)
    (hrequest : ∀ token, (request token).headers = myapiHeaders token s)
    (read : Json → Except Exc β) :
    Raises Classified (tokenOf s >>= fun token =>
        received env (request token) (jsonAnswers replies bodies n) >>= fun a => read a.2) ↔
      CanSendWith env s (.ok (myapiHeaders s.token s)) ∧ Raises Classified (read (bodies n)) := by
  rw [raises_tokenOf_bind, raises_received_bind, hrequest, CanSendWith]
  simp [and_assoc]

theorem raises_getDevices :
    Raises Classified (runFrom (jsonAnswers replies bodies) 0 (getDevices env) s).2 ↔
      Modelled env s bodies .getDevices := by
  simp only [getDevices, runFrom_get_bind, runFrom_ret_bind, runFrom_exchange_bind,
    runFrom_modify_bind, continueWith_snd]
  have hread : ∀ devices, (runFrom (jsonAnswers replies bodies) (0 + 1)
      (pure devices : Async (List DeviceInfo)) (recordDevices devices s)).2 = pure devices :=
    fun _ => rfl
  simp only [hread, bind_pure]
  rw [raises_account_request _ (fun token => rfl) (readDevices env), raises_readDevices, Modelled]

theorem raises_getLocations :
    Raises Classified (runFrom (jsonAnswers replies bodies) 0 (getLocations env) s).2 ↔
      Modelled env s bodies .getLocations := by
  simp only [getLocations, runFrom_get_bind, Modelled]
  cases hid : s.userId with
  | none =>
    simp only [ne_eq, not_true, false_and, iff_false]
    exact not_classified_builtin _ _
  | some userId =>
    simp only [runFrom_ret_bind, runFrom_exchange_bind, continueWith_snd, runFrom_ret, ne_eq,
      reduceCtorEq, not_false_eq_true, true_and]
    rw [raises_account_request _ (fun token => rfl) (readLocations env), raises_readLocations]

theorem raises_startMfa (factor : SecondFactor) :
    Raises Classified (runFrom (jsonAnswers replies bodies) 0 (startMfa env factor) s).2 ↔
      Modelled env s bodies (.startMfa factor) := by
  simp only [startMfa, runFrom_get_bind, Modelled, or_assoc.symm]
  by_cases hready : (s.token.isNull || s.userId.isNone) = true
  · rw [if_pos hready]
    have hmissing : s.token.isNull = true ∨ s.userId = none := by simpa using hready
    simp only [hmissing, true_or, iff_true]
    rfl
  · rw [if_neg hready]
    have hmissing : ¬ (s.token.isNull = true ∨ s.userId = none) := by simpa using hready
    simp only [hmissing, false_or, runFrom_ret_bind, runFrom_exchangeMeta_bind, continueWith_snd,
      runFrom_ret]
    rw [raises_ocapi_bind _ _ fun headers => rfl]
    simp only [raises_readFactorAuthCode]

theorem raises_pairBrowser_bind (browserAuthCode : Json) (f : Unit → Async β) :
    Raises Classified (runFrom (jsonAnswers replies bodies) n
        (pairBrowser env browserAuthCode >>= f) t).2 ↔
      CanSendOcapi env t.token ∧ MetaShape (Has "code" fun _ =>
        Raises Classified (runFrom (jsonAnswers replies bodies) (n + 1) (f ()) t).2)
        (bodies n) := by
  simp only [pairBrowser, Co.bind_assoc, runFrom_get_bind, runFrom_ret_bind,
    runFrom_exchangeMeta_bind, continueWith_snd]
  rw [raises_ocapi_bind _ _ fun headers => rfl]
  simp only [raises_item_bind]
  rfl

theorem raises_approved (token browserAuthCode : Json) (now : Nat) :
    Raises Classified (runFrom (jsonAnswers replies bodies) 1 (do
        if browserAuthCode.truthy then pairBrowser env browserAuthCode
        establishSession env
        return true) (s.useToken token now)).2 ↔
      if browserAuthCode.truthy then
        CanSendOcapi env token ∧
          MetaShape (Has "code" fun _ => SessionModelled env s token (bodies 2)) (bodies 1)
      else SessionModelled env s token (bodies 1) := by
  have hsession : ∀ n, Raises Classified (runFrom (jsonAnswers replies bodies) n
        (establishSession env >>= fun _ => (pure true : Async Bool)) (s.useToken token now)).2 ↔
      SessionModelled env s token (bodies n) := by
    intro n
    exact raises_establishSession_bind rfl _ fun _ => raises_pure_intro true
  split
  next =>
    simp only [raises_pairBrowser_bind, hsession]
    rfl
  next => exact hsession 1

theorem raises_tryFinishAuth (factorAuthCode : Json) (otp : Option String) :
    Raises Classified
        (runFrom (jsonAnswers replies bodies) 0 (tryFinishAuth env factorAuthCode otp) s).2 ↔
      FinishModelled env s bodies := by
  simp only [tryFinishAuth, runFrom_get_bind, runFrom_ret_bind, runFrom_exchangeMeta_bind,
    continueWith_snd]
  rw [raises_ocapi_bind _ _ fun headers => rfl, FinishModelled]
  refine and_congr_right fun _ => forall_congr' fun fields => imp_congr_right fun _ => ?_
  dsimp only
  rw [raises_readFinishAuth_bind _ _ _ (raises_pure_intro false)]
  simp only [runFrom_modify_bind, Nat.zero_add, raises_approved]

/-- A method whose answers all have bodies of JSON returns, or raises one of the client's own
exceptions, exactly when the client can send its requests and the bodies have the shapes that the
method reads. -/
theorem answers_classified_iff (env : ClientEnv) (m : Method) (s : ClientState)
    (bodies : Nat → Json) (replies : Nat → HttpReply) :
    Raises Classified (run (jsonAnswers replies bodies) (perform env m) s).2 ↔
      Modelled env s bodies m := by
  unfold run
  cases m with
  | login => exact raises_login
  | startMfa factor => exact (raises_discard _).trans (raises_startMfa factor)
  | tryFinishAuth factorAuthCode otp =>
    exact (raises_discard _).trans (raises_tryFinishAuth factorAuthCode otp)
  | establishSession => exact raises_establishSession rfl
  | getDevices => exact (raises_discard _).trans raises_getDevices
  | getLocations => exact (raises_discard _).trans raises_getLocations
  | getActiveMode locationId => exact (raises_discard _).trans (raises_getActiveMode locationId)
  | getCustomModes locationId => exact (raises_discard _).trans (raises_getCustomModes locationId)
  | setActiveMode locationId mode revision custom =>
    exact (raises_discard _).trans (raises_setActiveMode locationId mode revision custom)
  | startStream deviceId => exact (raises_discard _).trans (raises_startStream deviceId)
  | requestSnapshot deviceId => exact raises_deviceCommand _ deviceId _ _
  | setSpotlight deviceId on intensity => exact raises_deviceCommand _ deviceId _ _
  | setPrivacy deviceId active => exact raises_deviceCommand _ deviceId _ _
  | setSiren deviceId on => exact raises_deviceCommand _ deviceId _ _
  | registerEventSubscription baseId => exact raises_baseCommand _ baseId _
  | requestDeviceStates baseId => exact raises_baseCommand _ baseId _

end Methods

section Sample

/-- An answer of Arlo, whatever its body. -/
def okReply : HttpReply where
  status := 200
  contentType := "application/json"
  body := .undecodable
  now := 0

set_option maxRecDepth 10000 in
/-- A `meta` block without a code is a KeyError in the login. -/
theorem emptyMeta_escapes_login :
    ¬ Raises Classified
      (run (jsonAnswers (fun _ => okReply) fun _ => .obj [("meta", .obj [])])
        (perform sampleEnv .login) {}).2 := by
  have hraised : (run (jsonAnswers (fun _ => okReply) fun _ => .obj [("meta", .obj [])])
      (perform sampleEnv .login) {}).2 = .error (.builtin .keyError (pyRepr "code")) := rfl
  rw [hraised]
  exact not_classified_builtin _ _

end Sample

end Eisenberg.Client
