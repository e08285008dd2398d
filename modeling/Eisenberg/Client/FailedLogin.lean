import Eisenberg.Client.Runs

/-!
# A login that fails

What a failing login leaves behind. It writes the user id, the token and the time of its issue
before the steps that can still fail, so the session is as it was only when those steps succeed or
what was written is what was there.
-/

namespace Eisenberg.Client

open Framework

/-! ## What the steps raise -/

section Raising

variable {P : Exc → Prop} {α β : Type}

theorem raises_mapM {f : α → Except Exc β} (items : List α) (h : ∀ item ∈ items, Raises P (f item)) :
    Raises P (items.mapM f) := by
  induction items with
  | nil => simp
  | cons item items ih =>
    rw [List.mapM_cons, raises_bind]
    refine ⟨h item List.mem_cons_self, fun b _ => ?_⟩
    rw [raises_bind]
    exact ⟨ih fun later hlater => h later (List.mem_cons_of_mem item hlater), fun _ _ => trivial⟩

variable (hbuiltin : ∀ kind message, P (.builtin kind message))

include hbuiltin

theorem raises_item (key : String) (value : Json) : Raises P (value.item key) := by
  cases value with
  | obj fields =>
    simp only [Json.item]
    cases Json.lookup key fields with
    | none => exact hbuiltin _ _
    | some value => trivial
  | _ => exact hbuiltin _ _

theorem raises_dictGet (key : String) (value : Json) : Raises P (value.dictGet key) := by
  cases value with
  | obj fields => trivial
  | _ => exact hbuiltin _ _

theorem raises_iter (value : Json) : Raises P value.iter := by
  cases value with
  | arr _ | obj _ | str _ => trivial
  | _ => exact hbuiltin _ _

theorem raises_validated (parsed : Option α) : Raises P (validated parsed) := by
  cases parsed with
  | none => exact hbuiltin _ _
  | some value => trivial

theorem raises_readTrustedAuth (env : ClientEnv) (hauth : ∀ message, P (.authenticationError message))
    (body block : Json) : Raises P (readTrustedAuth env body block) := by
  rw [readTrustedAuth, raises_bind]
  refine ⟨raises_item hbuiltin _ _, fun code _ => ?_⟩
  dsimp only
  split
  · exact hauth _
  · rw [raises_bind]
    refine ⟨raises_item hbuiltin _ _, fun data _ => ?_⟩
    rw [raises_bind]
    refine ⟨raises_dictGet hbuiltin _ _, fun completed _ => ?_⟩
    split
    · exact hauth _
    · rw [raises_bind]
      exact ⟨raises_item hbuiltin _ _, fun _ _ => raises_item hbuiltin _ _⟩

end Raising

section NoMfa

variable {env : ClientEnv}

/-- Raised by something else than the discovery of factors. -/
def NotMfa (err : Exc) : Prop := err.isMfaRequired = false

theorem notMfa_builtin (kind : Builtin) (message : String) : NotMfa (.builtin kind message) := rfl

theorem received_notMfa (r : HttpRequest) (answer : Answer) :
    Raises NotMfa (received env r answer) := by
  unfold received
  cases r.headers.findSome? fun header => env.headerFault header.2 with
  | some fault => rfl
  | none =>
    rw [raises_bind]
    constructor
    · unfold Answer.exc
      cases answer r with
      | ok reply => trivial
      | error fault => rfl
    · intro reply _
      rw [raises_bind]
      constructor
      · unfold readArloJson
        cases reply.body with
        | json value => trivial
        | text text => rfl
        | undecodable => rfl
      · intro body _
        trivial

theorem receivedMeta_notMfa (r : HttpRequest) (answer : Answer) :
    Raises NotMfa (receivedMeta env r answer) := by
  rw [receivedMeta, raises_bind]
  refine ⟨received_notMfa r answer, ?_⟩
  rintro ⟨reply, body⟩ _
  rw [raises_bind]
  constructor
  · unfold arloMeta
    split
    · trivial
    · rfl
  · intro block _
    trivial

theorem ocapiHeaders_str (text : String) : ∃ headers, ocapiHeaders env (.str text) = .ok headers := by
  unfold ocapiHeaders
  split
  · exact ⟨_, rfl⟩
  · exact ⟨_, rfl⟩

theorem checkSuccess_notMfa (op : String) (body : Json) :
    Raises NotMfa (checkSuccess env op body) := by
  rw [checkSuccess, raises_bind]
  refine ⟨raises_dictGet notMfa_builtin _ _, fun success _ => ?_⟩
  split
  · trivial
  · unfold arloError
    rw [raises_throw]
    split <;> rfl

theorem readSession_notMfa (body : Json) : Raises NotMfa (readSession env body) := by
  simp only [readSession, raises_bind, raises_pure, implies_true, and_true]
  exact ⟨checkSuccess_notMfa _ _, fun _ _ => ⟨raises_item notMfa_builtin _ _,
    fun _ _ => raises_dictGet notMfa_builtin _ _⟩⟩

theorem sessionStep_notMfa (s : ClientState) (answer : Answer) :
    Raises NotMfa (sessionStep env s answer) := by
  unfold sessionStep
  dsimp only
  split
  · rfl
  · rw [raises_bind]
    exact ⟨received_notMfa _ _, fun a _ => readSession_notMfa a.2⟩

theorem readTrustedAuth_notMfa (body block : Json) :
    Raises NotMfa (readTrustedAuth env body block) :=
  raises_readTrustedAuth notMfa_builtin env (fun _ => rfl) body block

theorem trustedStep_notMfa (token factorId : Json) (s : ClientState) (answer : Answer)
    (hheaders : Raises NotMfa (ocapiHeaders env token)) :
    Raises NotMfa (trustedStep env token factorId s answer) := by
  rw [trustedStep, raises_bind]
  refine ⟨hheaders, fun headers _ => ?_⟩
  rw [raises_bind]
  refine ⟨receivedMeta_notMfa _ _, fun a _ => ?_⟩
  rw [raises_bind]
  exact ⟨readTrustedAuth_notMfa _ _, fun _ _ => trivial⟩

theorem trustStep_notMfa (token : Json) (s : ClientState) (answer : Answer)
    (hheaders : Raises NotMfa (ocapiHeaders env token)) :
    Raises NotMfa (trustStep env token s answer) := by
  rw [trustStep, raises_bind]
  refine ⟨hheaders, fun headers _ => ?_⟩
  rw [raises_bind]
  refine ⟨receivedMeta_notMfa _ _, fun a _ => ?_⟩
  rw [raises_bind]
  refine ⟨raises_item notMfa_builtin _ _, fun code _ => ?_⟩
  split
  · rw [raises_bind]
    refine ⟨raises_item notMfa_builtin _ _, fun data _ => ?_⟩
    rw [raises_bind]
    exact ⟨raises_item notMfa_builtin _ _, fun _ _ => trivial⟩
  · trivial

theorem readFactors_notMfa (body block : Json) : Raises NotMfa (readFactors env body block) := by
  unfold readFactors
  dsimp only
  split
  · rfl
  · rw [raises_bind]
    refine ⟨raises_item notMfa_builtin _ _, fun code _ => ?_⟩
    split
    · rfl
    · rw [raises_bind]
      refine ⟨raises_item notMfa_builtin _ _, fun data _ => ?_⟩
      rw [raises_bind]
      refine ⟨raises_dictGet notMfa_builtin _ _, fun listed _ => ?_⟩
      rw [raises_bind]
      refine ⟨raises_iter notMfa_builtin _, fun items _ => ?_⟩
      rw [raises_bind]
      refine ⟨raises_mapM items fun item _ => raises_validated notMfa_builtin _,
        fun factors _ => ?_⟩
      split
      · rfl
      · trivial

theorem factorsStep_notMfa (token : Json) (answer : Answer)
    (hheaders : Raises NotMfa (ocapiHeaders env token)) :
    Raises NotMfa (factorsStep env token answer) := by
  rw [factorsStep, raises_bind]
  refine ⟨hheaders, fun headers _ => ?_⟩
  rw [raises_bind]
  exact ⟨receivedMeta_notMfa _ _, fun a _ => readFactors_notMfa _ _⟩

end NoMfa

/-! ## The session a failure leaves -/

section Kept

/-- The session is the one there was. -/
def SameSession (s t : ClientState) : Prop :=
  t.token = s.token ∧ t.userId = s.userId ∧ t.mqttUrl = s.mqttUrl ∧
    t.tokenIssuedAt = s.tokenIssuedAt

/-- If the run failed otherwise than by asking for a factor, it left the session as it was. -/
def KeptByFailure (s : ClientState) (outcome : ClientState × Except Exc Unit) : Prop :=
  ∀ err, outcome.2 = .error err → NotMfa err → SameSession s outcome.1

/-- The user id, the token and the time of its issue are those the client holds. -/
def Held (s : ClientState) (userId : String) (token : Json) (issuedAt : Nat) : Prop :=
  s.userId = some userId ∧ s.token = token ∧ s.tokenIssuedAt = issuedAt

theorem sameSession_useToken {s : ClientState} {userId : String} {token : Json} {now : Nat} :
    SameSession s ((s.setUserId userId).useToken token now) ↔ Held s userId token now := by
  constructor
  · rintro ⟨htoken, huserId, -, hissued⟩
    exact ⟨huserId.symm, htoken.symm, hissued.symm⟩
  · rintro ⟨huserId, htoken, hissued⟩
    exact ⟨htoken.symm, huserId.symm, rfl, hissued.symm⟩

theorem sameSession_setToken {s : ClientState} {userId : String} {token : Json} :
    SameSession s ((s.setUserId userId).setToken token) ↔
      s.userId = some userId ∧ s.token = token := by
  constructor
  · rintro ⟨htoken, huserId, -, -⟩
    exact ⟨huserId.symm, htoken.symm⟩
  · rintro ⟨huserId, htoken⟩
    exact ⟨htoken.symm, huserId.symm, rfl, rfl⟩

theorem sameSession_setUserId {s : ClientState} {userId : String} :
    SameSession s (s.setUserId userId) ↔ s.userId = some userId := by
  constructor
  · rintro ⟨-, huserId, -, -⟩
    exact huserId.symm
  · intro huserId
    exact ⟨rfl, huserId.symm, rfl, rfl⟩

variable (env : ClientEnv)

/-- session/v3 accepts the token that was just taken over, or what was taken over was held. -/
def SessionKept (s : ClientState) (userId : String) (token : Json) (now : Nat) (answer : Answer) :
    Prop :=
  (∃ mqttUrl, sessionStep env ((s.setUserId userId).useToken token now) answer = .ok mqttUrl) ∨
    Held s userId token now

/-- The condition on the answers to a trusted browser. -/
def TrustedKept (s : ClientState) (auth : AuthData) (factorId : Json) (answers : Answers) : Prop :=
  match trustedStep env (.str auth.token) factorId (s.setUserId auth.userId) (answers 2) with
  | .error _ => s.userId = some auth.userId
  | .ok (now, token) => SessionKept env s auth.userId token now (answers 3)

/-- The condition on the answer that lists the factors. -/
def UntrustedKept (s : ClientState) (auth : AuthData) (answer : Answer) : Prop :=
  (∃ factors, factorsStep env (.str auth.token) answer = .ok factors) ∨
    (s.userId = some auth.userId ∧ s.token = .str auth.token)

/-- The condition on the answers to a browser whose trust has to be asked for. -/
def TrustKept (s : ClientState) (auth : AuthData) (answers : Answers) : Prop :=
  match trustStep env (.str auth.token) (s.setUserId auth.userId) (answers 1) with
  | .error _ => s.userId = some auth.userId
  | .ok (some factorId) => TrustedKept env s auth factorId answers
  | .ok none => UntrustedKept env s auth (answers 2)

/-- The condition on the answers under which a failing login keeps the session. -/
def LoginKept (s : ClientState) (answers : Answers) : Prop :=
  match authStep env (answers 0) with
  | .error _ => True
  | .ok (now, auth) =>
    if auth.authCompleted || auth.mfaDisabledByService then
      SessionKept env s auth.userId (.str auth.token) now (answers 1)
    else TrustKept env s auth answers

variable {env} {s t : ClientState} {answers : Answers} {α : Type}

theorem keptByFailure_error {err : Exc} (h : NotMfa err) :
    KeptByFailure s (t, .error err) ↔ SameSession s t := by
  constructor
  · intro hkept
    exact hkept err rfl h
  · intro hsame _ _ _
    exact hsame

theorem keptByFailure_ok : KeptByFailure s (t, .ok ()) := by
  intro err herr
  cases herr

theorem keptByFailure_session (n : Nat) (userId : String) (token : Json) (now : Nat) :
    KeptByFailure s
        (runFrom answers n (establishSession env) ((s.setUserId userId).useToken token now)) ↔
      SessionKept env s userId token now (answers n) := by
  have hraises : Raises NotMfa
      (sessionStep env ((s.setUserId userId).useToken token now) (answers n)) :=
    sessionStep_notMfa _ _
  rw [runFrom_establishSession, SessionKept]
  cases hstep : sessionStep env ((s.setUserId userId).useToken token now) (answers n) with
  | ok mqttUrl => simp [keptByFailure_ok]
  | error err =>
    rw [hstep] at hraises
    simp [keptByFailure_error hraises, sameSession_useToken]

variable (env) in
theorem raises_ocapiHeaders_str (text : String) :
    Raises NotMfa (ocapiHeaders env (.str text)) := by
  have hok : ∃ headers, ocapiHeaders env (.str text) = .ok headers := ocapiHeaders_str text
  obtain ⟨headers, hheaders⟩ := hok
  rw [hheaders]
  trivial

theorem keptByFailure_trusted (auth : AuthData) (factorId : Json) :
    KeptByFailure s (runFrom answers 2 (loginTrusted env (.str auth.token) factorId)
        (s.setUserId auth.userId)) ↔
      TrustedKept env s auth factorId answers := by
  have hraises := trustedStep_notMfa (.str auth.token) factorId (s.setUserId auth.userId)
    (answers 2) (raises_ocapiHeaders_str env auth.token)
  rw [runFrom_loginTrusted, TrustedKept]
  cases hstep : trustedStep env (.str auth.token) factorId (s.setUserId auth.userId)
      (answers 2) with
  | error err =>
    rw [hstep] at hraises
    exact (keptByFailure_error hraises).trans sameSession_setUserId
  | ok accepted =>
    obtain ⟨now, token⟩ := accepted
    rw [continueWith_ok, ← runFrom_establishSession]
    exact keptByFailure_session 3 auth.userId token now

theorem keptByFailure_untrusted (auth : AuthData) :
    KeptByFailure s (runFrom answers 2 (loginUntrusted env (.str auth.token))
        (s.setUserId auth.userId)) ↔
      UntrustedKept env s auth (answers 2) := by
  have hraises := factorsStep_notMfa (.str auth.token) (answers 2)
    (raises_ocapiHeaders_str env auth.token)
  rw [runFrom_loginUntrusted, UntrustedKept]
  cases hstep : factorsStep env (.str auth.token) (answers 2) with
  | error err =>
    rw [hstep] at hraises
    simp [keptByFailure_error hraises, sameSession_setToken]
  | ok factors =>
    -- The only exception left is the one that asks for a factor.
    have hkept : KeptByFailure s ((s.setUserId auth.userId).setToken (.str auth.token),
        .error (.mfaRequired factors)) := by
      intro err herr hnot
      cases herr
      cases hnot
    simp [hkept]

theorem keptByFailure_trust (auth : AuthData) :
    KeptByFailure s (runFrom answers 1 (loginByTrust env (.str auth.token))
        (s.setUserId auth.userId)) ↔
      TrustKept env s auth answers := by
  have hraises := trustStep_notMfa (.str auth.token) (s.setUserId auth.userId) (answers 1)
    (raises_ocapiHeaders_str env auth.token)
  rw [runFrom_loginByTrust, TrustKept]
  cases hstep : trustStep env (.str auth.token) (s.setUserId auth.userId) (answers 1) with
  | error err =>
    rw [hstep] at hraises
    exact (keptByFailure_error hraises).trans sameSession_setUserId
  | ok trusted =>
    cases trusted with
    | some factorId => exact keptByFailure_trusted auth factorId
    | none => exact keptByFailure_untrusted auth

/-- A failing login leaves the session as it was exactly when every step after /api/auth succeeds or
had written, until it failed, only what was there. -/
theorem failed_login_keeps_session_iff (env : ClientEnv) (s : ClientState) (answers : Answers) :
    KeptByFailure s (run answers (login env) s) ↔ LoginKept env s answers := by
  rw [run_login, LoginKept]
  cases hstep : authStep env (answers 0) with
  | error err =>
    simp only [continueWith_error, iff_true]
    intro _ _ _
    exact ⟨rfl, rfl, rfl, rfl⟩
  | ok issued =>
    obtain ⟨now, auth⟩ := issued
    simp only [continueWith_ok]
    split
    next => exact keptByFailure_session 1 auth.userId (.str auth.token) now
    next => exact keptByFailure_trust auth

end Kept

section Sample

def sampleEnv : ClientEnv where
  email := "user@example.org"
  password := "secret"
  deviceId := "device"
  scalars := plainScalars
  floats := exponentText
  headerFault := lineBreakFault

/-- A client whose token is more than an hour old. -/
def heldSession : ClientState where
  token := .str "OLD"
  userId := some "U"
  mqttUrl := .str "wss://mqtt"
  tokenIssuedAt := 0

/-- The login is complete, and a block page answers session/v3. -/
def blockedSession : Answers := fun n _ =>
  .ok
    { status := if n = 0 then 200 else 403
      contentType := if n = 0 then "application/json" else "text/html"
      body :=
        if n = 0 then
          .json (.obj [("meta", .obj [("code", .int 200)]),
            ("data", .obj [("token", .str "NEW"), ("userId", .str "U"),
              ("authCompleted", .bool true)])])
        else .text "Access denied"
      now := 4000 * 1000000000 }

set_option maxRecDepth 10000 in
theorem blockedSession_replaces_token :
    ¬ KeptByFailure heldSession (run blockedSession (login sampleEnv) heldSession) ∧
      heldSession.tokenNeedsRefresh (4000 * 1000000000) = true ∧
      (run blockedSession (login sampleEnv) heldSession).1.tokenNeedsRefresh
        (4000 * 1000000000) = false := by
  have hraised : ∃ message, (run blockedSession (login sampleEnv) heldSession).2 =
      .error (.transientAPIError message) := ⟨_, rfl⟩
  have htoken : (run blockedSession (login sampleEnv) heldSession).1.token = .str "NEW" := rfl
  refine ⟨?_, by decide, by decide⟩
  intro hkept
  obtain ⟨message, hmessage⟩ := hraised
  have hsame := (hkept _ hmessage rfl).1
  rw [htoken] at hsame
  exact absurd (Json.str.inj hsame) (by decide)

end Sample

end Eisenberg.Client
