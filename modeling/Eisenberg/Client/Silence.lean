import Eisenberg.Client.Requests
import Mathlib.Data.Set.Lattice
import Mathlib.Order.CompletePartialOrder

/-!
# A login leaves the user alone

`start_mfa` and `try_finish_auth` are called by the config flow. Without them a client never fires a
factor of the user: it starts the authentication of the browser that Arlo has recognised, and pairs
no browser.
-/

namespace Eisenberg.Client

open Framework

section Silence

variable (env : ClientEnv)

/-- The id of the browser's own factor, as getFactorId answers it for a trusted browser. -/
def recognised (r : HttpRequest) (answer : Except Exc HttpReply) : Set Json :=
  { factorId | r.host = .ocapi ∧ r.path = "/api/getFactorId" ∧
    ∃ reply body block code data, answer = .ok reply ∧ readArloJson r reply = .ok body ∧
      arloMeta env r reply body = .ok block ∧ block.item "code" = .ok code ∧
      code.eqInt 200 = true ∧ body.item "data" = .ok data ∧ data.item "factorId" = .ok factorId }

/-- Nothing is finished or paired, and an authentication is started for a recognised browser. -/
def Silent (known : Set Json) (r : HttpRequest) : Prop :=
  r.host = .ocapi → r.path ∉ ["/api/finishAuth", "/api/startPairingFactor"] ∧
    (r.path = "/api/startAuth" → ∃ factorId ∈ known, ∃ userId, r.json = some (.obj
      [("factorId", factorId), ("factorType", .str "BROWSER"), ("userId", userId)]))

def silentLore : ClientLore (Set Json) where
  learns known r answer := known ∪ recognised env r answer
  allows := Silent
  holds := fun _ _ => True
  grows := fun _ _ _ => Set.subset_union_left
  learns_mono := fun _ _ h => Set.union_subset_union_left _ h
  holds_mono := fun _ _ => trivial

theorem allowsMyapi_silentLore : AllowsMyapi (silentLore env) where
  allows := by
    intro known s r _ _ hhost _ hocapi
    rw [hhost] at hocapi
    cases hocapi
  session := fun _ _ => trivial
  devices := fun _ _ => trivial

variable {env} {known : Set Json}

theorem silent_of_path {r : HttpRequest}
    (hpath : r.path ∉ ["/api/finishAuth", "/api/startPairingFactor", "/api/startAuth"]) :
    (silentLore env).allows known r := by
  intro _
  simp only [List.mem_cons, List.not_mem_nil, or_false, not_or] at hpath ⊢
  exact ⟨⟨hpath.1, hpath.2.1⟩, fun hstart => absurd hstart hpath.2.2⟩

theorem silent_getFactors (token : Json) :
    Co.Stays (silentLore env) (getFactors env token) known := by
  apply Co.stays_ret_bind
  intro headers _
  apply stays_exchangeMeta_bind (silent_of_path (by simp [ocapiRequest]))
  intro reply body block more _ _ _
  exact Co.stays_ret _

theorem silent_loginTrusted {token factorId : Json} (hfactor : factorId ∈ known) :
    Co.Stays (silentLore env) (loginTrusted env token factorId) known := by
  apply Co.stays_get_bind
  intro s _
  apply Co.stays_ret_bind
  intro headers _
  apply stays_exchangeMeta_bind
  · intro _
    exact ⟨by simp [ocapiRequest], fun _ => ⟨factorId, hfactor, userIdJson s, rfl⟩⟩
  intro reply body block more _ _ _
  apply Co.stays_ret_bind
  intro issued _
  apply Co.stays_modify_bind fun s _ => trivial
  exact stays_establishSession (allowsMyapi_silentLore env) env more

theorem silent_loginByTrust (token : Json) :
    Co.Stays (silentLore env) (loginByTrust env token) known := by
  apply Co.stays_get_bind
  intro s _
  apply Co.stays_ret_bind
  intro headers _
  apply stays_exchangeMeta_bind (silent_of_path (by simp [ocapiRequest]))
  intro reply body block more hmore hbody hblock
  apply Co.stays_ret_bind
  intro code hcode
  split
  next htrusted =>
    apply Co.stays_ret_bind
    intro data hdata
    apply Co.stays_ret_bind
    intro factorId hfactor
    have hmem : factorId ∈ more := hmore (Or.inr ⟨rfl, rfl, reply, body, block, code, data, rfl,
      hbody, hblock, hcode, htrusted, hdata, hfactor⟩)
    exact silent_loginTrusted hmem
  next =>
    apply Co.stays_modify_bind fun s _ => trivial
    apply (silent_getFactors token).bind
    intro later _ factors
    exact Co.stays_throw _

theorem silent_login : Co.Stays (silentLore env) (login env) known := by
  apply Co.stays_ret_bind
  intro headers _
  apply stays_exchangeMeta_bind (silent_of_path (by simp [ocapiRequest]))
  intro reply body block more _ _ _
  apply Co.stays_ret_bind
  intro auth _
  apply Co.stays_modify_bind fun s _ => trivial
  split
  · apply Co.stays_modify_bind fun s _ => trivial
    exact stays_establishSession (allowsMyapi_silentLore env) env more
  · exact silent_loginByTrust _

/-- The methods that the config flow keeps to itself. -/
def Method.challenges : Method → Bool
  | .startMfa _ | .tryFinishAuth _ _ => true
  | _ => false

theorem silent_perform {method : Method} (hmethod : method.challenges = false) (known : Set Json) :
    Co.Stays (silentLore env) (perform env method) known := by
  cases hlogs : method.logsIn with
  | false => exact stays_perform (allowsMyapi_silentLore env) env hlogs known
  | true =>
    cases method with
    | login => exact silent_login
    | startMfa factor => cases hmethod
    | tryFinishAuth factorAuthCode otp => cases hmethod
    | _ => cases hlogs

end Silence

/-! ## A client outside the config flow -/

/-- The methods that the coordinator calls. -/
abbrev QuietMethod : Type := { method : Method // method.challenges = false }

/-- A client under any interleaving of these methods, the browser factors that Arlo has recognised,
and the requests the client has sent, each with what had been recognised by then. -/
abbrev quietLedger (env : ClientEnv) :=
  Pool.ledger (fun method : QuietMethod => perform env method.1) (silentLore env)

/-- However the methods interleave and whatever is answered, no request challenges the user. -/
theorem login_never_challenges (env : ClientEnv) {s : ClientState}
    {l : Pool.Ledger QuietMethod ClientState Exc (fun _ : HttpRequest => HttpReply) Unit (Set Json)}
    (h : (quietLedger env).Reachable (.fresh ∅ s) l) : ∀ x ∈ l.log, Silent x.2 x.1 :=
  Pool.allowed_of_reachable (fun method known => silent_perform method.2 known) trivial h

/-! ### A trusted browser -/

/-- Arlo asks for a second factor and recognises the browser. -/
def trustedAnswer (r : HttpRequest) : HttpReply :=
  if r.path = "/api/auth" then
    jsonReply (.obj [("meta", .obj [("code", .int 200)]),
      ("data", .obj [("token", .str "T1"), ("userId", .str "U1"), ("authCompleted", .bool false)])])
  else
    jsonReply (.obj [("meta", .obj [("code", .int 200)]),
      ("data", .obj [("factorId", .str "B1")])])

def trustedEvents : List (PoolEvent QuietMethod Exc fun _ : HttpRequest => HttpReply) :=
  [.start ⟨.login, rfl⟩, .answer 0 fun r => .ok (trustedAnswer r), .deliver 0,
    .answer 0 fun r => .ok (trustedAnswer r), .deliver 0]

set_option maxRecDepth 10000 in
theorem login_never_challenges_trusted : ∃ l, (quietLedger sampleEnv).Reachable (.fresh ∅ {}) l ∧
    l.log.map (fun x => x.1.path) = ["/api/auth", "/api/getFactorId", "/api/startAuth"] ∧
    ∀ x ∈ l.log, Silent x.2 x.1 := by
  refine ⟨_, ⟨trustedEvents, rfl⟩, rfl, ?_⟩
  exact login_never_challenges sampleEnv ⟨trustedEvents, rfl⟩

end Eisenberg.Client
