import Eisenberg.Client.Requests
import Mathlib.Data.Set.Lattice
import Mathlib.Order.CompletePartialOrder

/-!
# Where tokens come from

A client sends no token but one that Arlo has granted it in an earlier answer, and nothing to myapi
without one, however its methods interleave.
-/

namespace Eisenberg.Client

open Framework

section Tokens

variable (env : ClientEnv)

/-- An answer whose meta block has the code 200. -/
def Accepted (body : Json) : Prop :=
  ∃ block code, body.get? "meta" = some block ∧ block.item "code" = .ok code ∧
    code.eqInt 200 = true

/-- An answer that completes the login. -/
def Completed (data : Json) : Prop :=
  ∃ value, data.dictGet "authCompleted" = .ok (some value) ∧ value.truthy = true

/-- Where the answer to a login request of this path has its token. -/
inductive Issues (data : Json) : String → Json → Prop
  | auth {auth : AuthData} (h : AuthData.validate env.scalars data = some auth) :
      Issues data "/api/auth" (.str auth.token)
  | trusted {access token : Json} (hcompleted : Completed data)
      (haccess : data.item "accessToken" = .ok access) (htoken : access.item "token" = .ok token) :
      Issues data "/api/startAuth" token
  | finished {token : Json} (hcompleted : Completed data)
      (htoken : data.item "token" = .ok token) : Issues data "/api/finishAuth" token

/-- What an accepted answer to a login request of this path grants. -/
def Grants (path : String) (body token : Json) : Prop :=
  Accepted body ∧ ∃ data, body.item "data" = .ok data ∧ Issues env data path token

def granted (r : HttpRequest) (answer : Except Exc HttpReply) : Set Json :=
  { token | r.host = .ocapi ∧ ∃ reply body, answer = .ok reply ∧
    readArloJson r reply = .ok body ∧ Grants env r.path body token }

/-- The token of a request is known: as it is for myapi, which is sent nothing without one, and in
base64 for ocapi. -/
def Authorized (known : Set Json) (r : HttpRequest) : Prop :=
  match r.host with
  | .myapi => ∃ token ∈ known, ∀ v, ("Authorization", v) ∈ r.headers ↔ v = token
  | .ocapi => ∀ v, ("Authorization", v) ∈ r.headers →
      ∃ text, Json.str text ∈ known ∧ v = .str (base64 text)

/-- The client's own token is known, if it has one. -/
def Holds (known : Set Json) (s : ClientState) : Prop := s.token = .null ∨ s.token ∈ known

def tokenLore : ClientLore (Set Json) where
  learns known r answer := known ∪ granted env r answer
  allows := Authorized
  holds := Holds
  grows := fun _ _ _ => Set.subset_union_left
  learns_mono := fun _ _ h => Set.union_subset_union_left _ h
  holds_mono := fun h hs => hs.imp_right fun hmem => h hmem

theorem token_recordDevices (devices : List DeviceInfo) (s : ClientState) :
    (recordDevices devices s).token = s.token := by
  have hfold : (devices.foldl recordDevice s).token = s.token := by
    induction devices generalizing s with
    | nil => rfl
    | cons device devices ih => exact (ih (recordDevice s device)).trans rfl
  exact hfold

theorem allowsMyapi_tokenLore : AllowsMyapi (tokenLore env) where
  allows := by
    intro known s r hs hnull hhost hheaders
    have hknown : s.token ∈ known := hs.resolve_left hnull
    show Authorized known r
    unfold Authorized
    rw [hhost]
    exact ⟨s.token, hknown, hheaders⟩
  session := fun _ hs => hs
  devices := by
    intro known s devices hs
    show Holds known (recordDevices devices s)
    unfold Holds
    rw [token_recordDevices]
    exact hs

variable {env} {known : Set Json}

theorem authorized_ocapi {token : Json} {headers : List (String × Json)}
    (hheaders : ocapiHeaders env token = .ok headers) (htoken : token = .null ∨ token ∈ known)
    (method : HttpMethod) (path : String) (json : Option (List (String × Json))) :
    (tokenLore env).allows known (ocapiRequest method path headers json) := by
  intro v hv
  have hmem : ("Authorization", v) ∈ headers := hv
  unfold ocapiHeaders at hheaders
  split at hheaders
  next htruthy =>
    cases token with
    | str text =>
      cases hheaders
      have hknown : Json.str text ∈ known := htoken.resolve_left (by simp)
      exact ⟨text, hknown, by simpa using hmem⟩
    | _ => cases hheaders
  next =>
    cases hheaders
    simp at hmem

theorem mem_of_grants {r : HttpRequest} {reply : HttpReply} {body token : Json} {more : Set Json}
    (hhost : r.host = .ocapi) (hmore : (tokenLore env).learns known r (.ok reply) ≤ more)
    (hbody : readArloJson r reply = .ok body) (hgrants : Grants env r.path body token) :
    token ∈ more :=
  hmore (Or.inr ⟨hhost, reply, body, rfl, hbody, hgrants⟩)

theorem holds_useToken {s : ClientState} {token : Json} {now : Nat} (h : token ∈ known) :
    (tokenLore env).holds known (s.useToken token now) := Or.inr h

section Answers

variable {r : HttpRequest} {reply : HttpReply} {body block token code : Json}

theorem accepted_of_code (hblock : arloMeta env r reply body = .ok block)
    (hitem : block.item "code" = .ok code) (hcode : code.eqInt 200 = true) : Accepted body := by
  refine ⟨block, code, ?_, hitem, hcode⟩
  unfold arloMeta at hblock
  split at hblock
  next fields hmeta =>
    cases hblock
    exact hmeta
  next => cases hblock

theorem completed_of_truthy {data : Json} {value : Option Json}
    (hget : data.dictGet "authCompleted" = .ok value)
    (htruthy : (value.getD .null).truthy = true) : Completed data := by
  cases value with
  | none => cases htruthy
  | some value => exact ⟨value, hget, htruthy⟩

theorem grants_of_readAuth {auth : AuthData} (hblock : arloMeta env r reply body = .ok block)
    (h : readAuth env body block = .ok auth) :
    Grants env "/api/auth" body (.str auth.token) := by
  simp only [readAuth, bind, Except.bind] at h
  split at h
  · cases h
  · split at h
    · cases h
    next code hitem =>
      split at h
      · cases h
      next hcode =>
        split at h
        · cases h
        next data hdata =>
          refine ⟨accepted_of_code hblock hitem (by simpa using hcode), data, hdata, .auth ?_⟩
          cases hvalid : AuthData.validate env.scalars data with
          | none => simp [validated, hvalid] at h
          | some auth' => simpa [validated, hvalid] using h

theorem grants_of_readTrustedAuth (hblock : arloMeta env r reply body = .ok block)
    (h : readTrustedAuth env body block = .ok token) :
    Grants env "/api/startAuth" body token := by
  simp only [readTrustedAuth, bind, Except.bind] at h
  split at h
  · cases h
  next code hitem =>
    split at h
    · cases h
    next hcode =>
      split at h
      · cases h
      next data hdata =>
        split at h
        · cases h
        next completed hget =>
          split at h
          · cases h
          next htruthy =>
            split at h
            · cases h
            next access haccess =>
              exact ⟨accepted_of_code hblock hitem (by simpa using hcode), data, hdata,
                .trusted (completed_of_truthy hget (by simpa using htruthy)) haccess h⟩

theorem grants_of_readFinishAuth {browserAuthCode : Json}
    (hblock : arloMeta env r reply body = .ok block)
    (h : readFinishAuth env body block = .ok (.approved token browserAuthCode)) :
    Grants env "/api/finishAuth" body token := by
  have hpending : ∀ c, readUnfinished env c block ≠ .ok (.approved token browserAuthCode) := by
    intro c
    unfold readUnfinished
    split
    · simp
    · split <;> simp
  simp only [readFinishAuth, bind, Except.bind] at h
  split at h
  · cases h
  next code hitem =>
    split at h
    · cases h
    · split at h
      next hcode =>
        split at h
        · cases h
        next data hdata =>
          split at h
          · cases h
          next completed hget =>
            split at h
            next htruthy =>
              split at h
              · cases h
              next found htoken =>
                split at h
                · cases h
                · cases h
                  exact ⟨accepted_of_code hblock hitem hcode, data, hdata,
                    .finished (completed_of_truthy hget htruthy) htoken⟩
            next => exact absurd h (hpending _)
      next => exact absurd h (hpending _)

end Answers

/-! ## Logging in -/

theorem keeps_getFactors {token : Json} (htoken : token ∈ known) :
    Co.Stays (tokenLore env) (getFactors env token) known := by
  apply Co.stays_ret_bind
  intro headers hheaders
  apply stays_exchangeMeta_bind (authorized_ocapi hheaders (Or.inr htoken) _ _ _)
  intro reply body block more _ _ _
  exact Co.stays_ret _

theorem keeps_loginTrusted {token factorId : Json} (htoken : token ∈ known) :
    Co.Stays (tokenLore env) (loginTrusted env token factorId) known := by
  apply Co.stays_get_bind
  intro s _
  apply Co.stays_ret_bind
  intro headers hheaders
  apply stays_exchangeMeta_bind (authorized_ocapi hheaders (Or.inr htoken) _ _ _)
  intro reply body block more hmore hbody hblock
  apply Co.stays_ret_bind
  intro issued hissued
  have hmem : issued ∈ more :=
    mem_of_grants rfl hmore hbody (grants_of_readTrustedAuth hblock hissued)
  apply Co.stays_modify_bind fun s _ => holds_useToken hmem
  exact stays_establishSession (allowsMyapi_tokenLore env) env _

theorem keeps_loginUntrusted {token : Json} (htoken : token ∈ known) :
    Co.Stays (tokenLore env) (loginUntrusted env token) known := by
  apply Co.stays_modify_bind fun s _ => Or.inr htoken
  apply (keeps_getFactors htoken).bind
  intro more _ factors
  exact Co.stays_throw _

theorem keeps_loginByTrust {token : Json} (htoken : token ∈ known) :
    Co.Stays (tokenLore env) (loginByTrust env token) known := by
  apply Co.stays_get_bind
  intro s _
  apply Co.stays_ret_bind
  intro headers hheaders
  apply stays_exchangeMeta_bind (authorized_ocapi hheaders (Or.inr htoken) _ _ _)
  intro reply body block more hmore _ _
  have hlater : token ∈ more := hmore (Or.inl htoken)
  apply Co.stays_ret_bind
  intro code _
  split
  · apply Co.stays_ret_bind
    intro data _
    apply Co.stays_ret_bind
    intro factorId _
    exact keeps_loginTrusted hlater
  · exact keeps_loginUntrusted hlater

theorem keeps_login : Co.Stays (tokenLore env) (login env) known := by
  apply Co.stays_ret_bind
  intro headers hheaders
  apply stays_exchangeMeta_bind (authorized_ocapi hheaders (Or.inl rfl) _ _ _)
  intro reply body block more hmore hbody hblock
  apply Co.stays_ret_bind
  intro auth hauth
  have hmem : Json.str auth.token ∈ more :=
    mem_of_grants rfl hmore hbody (grants_of_readAuth hblock hauth)
  apply Co.stays_modify_bind fun s hs => hs
  split
  · apply Co.stays_modify_bind fun s _ => holds_useToken hmem
    exact stays_establishSession (allowsMyapi_tokenLore env) env _
  · exact keeps_loginByTrust hmem

theorem keeps_startMfa (factor : SecondFactor) :
    Co.Stays (tokenLore env) (startMfa env factor) known := by
  apply Co.stays_get_bind
  intro s hs
  cases hguard : s.token.isNull || s.userId.isNone with
  | true =>
    simp only [if_true]
    trivial
  | false =>
    simp only [Bool.false_eq_true, if_false]
    apply Co.stays_ret_bind
    intro headers hheaders
    apply stays_exchangeMeta_bind (authorized_ocapi hheaders hs _ _ _)
    intro reply body block more _ _ _
    exact Co.stays_ret _

theorem keeps_pairBrowser (code : Json) :
    Co.Stays (tokenLore env) (pairBrowser env code) known := by
  apply Co.stays_get_bind
  intro s hs
  apply Co.stays_ret_bind
  intro headers hheaders
  apply stays_exchangeMeta_bind (authorized_ocapi hheaders hs _ _ _)
  intro reply body block more _ _ _
  apply Co.stays_ret_bind
  intro found _
  exact Co.stays_pure _

theorem keeps_tryFinishAuth (factorAuthCode : Json) (otp : Option String) :
    Co.Stays (tokenLore env) (tryFinishAuth env factorAuthCode otp) known := by
  apply Co.stays_get_bind
  intro s hs
  apply Co.stays_ret_bind
  intro headers hheaders
  apply stays_exchangeMeta_bind (authorized_ocapi hheaders hs _ _ _)
  intro reply body block more hmore hbody hblock
  apply Co.stays_ret_bind
  intro answer hanswer
  cases answer with
  | pending => exact Co.stays_pure _
  | approved token browserAuthCode =>
    have hmem : token ∈ more :=
      mem_of_grants rfl hmore hbody (grants_of_readFinishAuth hblock hanswer)
    apply Co.stays_modify_bind fun s _ => holds_useToken hmem
    split
    · apply (keeps_pairBrowser _).bind
      intro later _ _
      apply (stays_establishSession (allowsMyapi_tokenLore env) env _).bind
      intro last _ _
      exact Co.stays_pure _
    · apply (stays_establishSession (allowsMyapi_tokenLore env) env _).bind
      intro last _ _
      exact Co.stays_pure _

theorem keeps_perform (method : Method) (known : Set Json) :
    Co.Stays (tokenLore env) (perform env method) known := by
  cases hmethod : method.logsIn with
  | false => exact stays_perform (allowsMyapi_tokenLore env) env hmethod known
  | true =>
    cases method with
    | login => exact keeps_login
    | startMfa factor => exact stays_discard (keeps_startMfa factor)
    | tryFinishAuth factorAuthCode otp =>
      exact stays_discard (keeps_tryFinishAuth factorAuthCode otp)
    | _ => cases hmethod

end Tokens

/-! ## A client among its callers -/

/-- A client under any interleaving of its methods, what Arlo has granted it, and the requests it
has sent, each with what had been granted by then. -/
abbrev tokenLedger (env : ClientEnv) :=
  Pool.ledger (perform env) (tokenLore env)

/-- A request carries a token that Arlo had granted this client before, or none; nothing goes to
myapi without one. The client is one that was made without a token. -/
theorem tokens_are_granted (env : ClientEnv) {s : ClientState} (hfresh : s.token = .null)
    {l : Pool.Ledger Method ClientState Exc (fun _ : HttpRequest => HttpReply) Unit (Set Json)}
    (h : (tokenLedger env).Reachable (.fresh ∅ s) l) : ∀ x ∈ l.log, Authorized x.2 x.1 :=
  Pool.allowed_of_reachable keeps_perform (Or.inl hfresh) h

/-! ### A login -/

/-- Arlo lets the account in at once. -/
def completeAuth : HttpReply :=
  jsonReply (.obj [("meta", .obj [("code", .int 200)]),
    ("data", .obj [("token", .str "T1"), ("userId", .str "U1"), ("authCompleted", .bool true)])])

def loginEvents : List (PoolEvent Method Exc fun _ : HttpRequest => HttpReply) :=
  [.start .login, .answer 0 fun _ => .ok completeAuth, .deliver 0]

set_option maxRecDepth 10000 in
theorem tokens_are_granted_login : ∃ l, (tokenLedger sampleEnv).Reachable (.fresh ∅ {}) l ∧
    l.log.map (fun x => x.1.path) = ["/api/auth", "/hmsweb/users/session/v3"] ∧
    ∀ x ∈ l.log, Authorized x.2 x.1 := by
  have hreached : (tokenLedger sampleEnv).Reachable (.fresh ∅ {}) _ := ⟨loginEvents, rfl⟩
  exact ⟨_, hreached, rfl, tokens_are_granted sampleEnv rfl hreached⟩

end Eisenberg.Client
