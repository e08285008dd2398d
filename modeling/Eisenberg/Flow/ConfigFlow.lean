import Eisenberg.Flow.TrustCookie
import Eisenberg.Framework.Transition
import Eisenberg.Values.Text

/-!
# The config flow

`EisenbergConfigFlow`: the setup branch from the user's credentials to the media storage, and the
branch shared by reauthentication and reconfiguration. A submission runs the step of the form that
was shown last.
-/

namespace Eisenberg.Flow

open Framework Coordinator

inductive StepId where
  | user | pickFactor | pushApproval | otpEntry | mediaStorage
  | reauthConfirm | reauthPassword | reauthPickFactor | reauthPush | reauthOtp
  deriving DecidableEq, Repr

inductive FlowResult where
  | form (stepId : StepId) (error : Option String)
  | abort (reason : String)
  | createEntry (title : String) (data : EntryData) (mediaDir : String)

/-- The flow is over. -/
def FlowResult.ends : FlowResult → Bool
  | form _ _ => false
  | abort _ | createEntry _ _ _ => true

inductive Source where
  | user | reauth | reconfigure
  deriving DecidableEq, Repr

structure FlowState where
  source : Source
  /-- `self._client`, by the number of its session. -/
  client : Option Nat := none
  /-- The number of the next client. -/
  clients : Nat := 0
  /-- The client sessions that are open. -/
  openSessions : List Nat := []
  cookieJar : Option (List Cookie) := none
  deviceId : String := ""
  username : String := ""
  password : String := ""
  factorAuthCode : String := ""
  factors : List SecondFactor := []
  selectedFactor : Option SecondFactor := none
  /-- The data of the entry that is reauthenticated or reconfigured. -/
  entry : EntryData := Dict.empty

/-- What a step asks of the client and of Home Assistant. -/
inductive FlowRequest where
  | login
  | startMfa (factor : SecondFactor)
  | tryFinishAuth (factorAuthCode : String) (otp : Option String)
  /-- `async_set_unique_id` and `_abort_if_unique_id_configured`. -/
  | setUniqueId (username : String)
  | uuid4

/-- A call of the client that returns leaves its cookies in the jar; a unique id that is taken gives
the reason of an `AbortFlow`. -/
@[reducible] def FlowReply : FlowRequest → Type
  | .login => List Cookie
  | .startMfa _ => String × List Cookie
  | .tryFinishAuth _ _ => Bool × List Cookie
  | .setUniqueId _ => Option String
  | .uuid4 => String

abbrev Step := Co FlowState Exc FlowReply

/-! ## The client -/

/-- `self._client.__aenter__()` -/
def openSession (s : FlowState) : FlowState :=
  match s.client with
  | some id => { s with openSessions := id :: s.openSessions }
  | none => s

/-- Close client session if open. -/
def cleanupClient (s : FlowState) : FlowState :=
  match s.client with
  | some id => { s with client := none, openSessions := s.openSessions.erase id }
  | none => s

/-- Build a fresh client + cookie jar for an auth attempt. -/
def newClient (s : FlowState) : FlowState :=
  { s with client := some s.clients, clients := s.clients + 1, cookieJar := some [] }

def keepCookies (cookieJar : List Cookie) (s : FlowState) : FlowState :=
  { s with cookieJar := some cookieJar }

def assertion (holds : Bool) : Step Unit :=
  if holds then pure () else throw (.builtin .other "AssertionError")

/-- A form, after the client has been closed or not. -/
def closeAnd (result : FlowResult) : Step FlowResult := do
  modify cleanupClient
  return result

/-- `_client.__aenter__()` and `_client.login()`. -/
def enterAndLogin : Step Unit := do
  modify openSession
  let cookieJar ← Co.await FlowRequest.login
  modify (keepCookies cookieJar)

/-! ## The end of the branches -/

def MEDIA_DIR_DISABLED : String := "__disabled__"

/-- Map the disabled sentinel back to the persisted empty string. -/
def storedMediaDir (selected : String) : String :=
  if selected = MEDIA_DIR_DISABLED then "" else selected

/-- The entry that the setup creates. -/
def newEntry (s : FlowState) : EntryData :=
  update [(CONF_USERNAME, .text s.username), (CONF_PASSWORD, .text s.password),
    (CONF_DEVICE_ID, .text s.deviceId),
    (CONF_TRUST_COOKIE, .cookies (serializeCookies (s.cookieJar.getD [])))] Dict.empty

/-- Step 4: Select media storage location. -/
def asyncStepMediaStorage : Option String → Step FlowResult
  | none => return .form .mediaStorage none
  | some mediaDir => do
    match ← Co.await (FlowRequest.setUniqueId (← get).username) with
    | some reason => return .abort reason
    | none =>
      let s ← get
      return .createEntry s.username (newEntry s) (storedMediaDir mediaDir)

/-- Persist new cookies + creds back to the entry and reload. -/
def finalizeReauth : Step FlowResult := do
  modify fun s => { s with
    entry := update (finalizeReauthUpdates ⟨s.username, s.password, s.deviceId⟩ s.cookieJar)
      s.entry }
  if (← get).source = .reconfigure then return .abort "reconfigure_successful"
  else return .abort "reauth_successful"

/-! ## The second factor -/

/-- What the setup and the reauth branch do differently. -/
structure Branch where
  pick : StepId
  push : StepId
  otp : StepId
  approved : Step FlowResult

def setupBranch : Branch := ⟨.pickFactor, .pushApproval, .otpEntry, asyncStepMediaStorage none⟩

def reauthBranch : Branch := ⟨.reauthPickFactor, .reauthPush, .reauthOtp, finalizeReauth⟩

/-- The form that asks for the code, with the destination of the factor. -/
def showOtp (branch : Branch) (error : Option String) : Step FlowResult := do
  assertion (← get).selectedFactor.isSome
  return .form branch.otp error

/-- Send the chosen MFA factor and route to the right wait step. -/
def fireMfa (branch : Branch) : Step FlowResult := do
  assertion (← get).client.isSome
  match (← get).selectedFactor with
  | none => throw (.builtin .other "AssertionError")
  | some factor =>
    let sent ← tryCatch (do
        let (code, cookieJar) ← Co.await (FlowRequest.startMfa factor)
        modify fun s => keepCookies cookieJar { s with factorAuthCode := code }
        return none)
      fun err =>
        if err.isRateLimitedError then some <$> closeAnd (.abort "rate_limited")
        else if err.isAuthenticationError then some <$> closeAnd (.abort "push_timeout")
        else throw err
    match sent with
    | some result => return result
    | none =>
      if factor.factorType = .PUSH then return .form branch.push none
      else showOtp branch none

/-- Pick which MFA factor to use. -/
def stepPickFactor (branch : Branch) : Option String → Step FlowResult
  | none => return .form branch.pick none
  | some pickedId => do
    modify fun s =>
      match s.factors.find? fun factor => factor.factorId = pickedId with
      | some factor => { s with selectedFactor := some factor }
      | none => s
    if (← get).selectedFactor.isNone then return .form branch.pick (some "cannot_connect")
    else fireMfa branch

/-- The `except MfaRequired` clause of the logins: the picker is skipped for a single factor. -/
def secondFactor (branch : Branch) (factors : List SecondFactor) : Step FlowResult := do
  modify fun s => { s with factors }
  match factors with
  | [factor] => do
    modify fun s => { s with selectedFactor := some factor }
    fireMfa branch
  | _ => stepPickFactor branch none

/-- One submit = one finishAuth call; what an `AuthenticationError` gives is left to the step. -/
def finishAuth (branch : Branch) (otp : Option String) (refused : Step FlowResult)
    (pending : Step FlowResult) : Step FlowResult := do
  let outcome ← tryCatch (do
      let (approved, cookieJar) ← Co.await
        (FlowRequest.tryFinishAuth (← get).factorAuthCode otp)
      modify (keepCookies cookieJar)
      return Sum.inl approved)
    fun err =>
      if err.isRateLimitedError then Sum.inr <$> closeAnd (.abort "rate_limited")
      else if err.isAuthenticationError then Sum.inr <$> refused
      else throw err
  match outcome with
  | .inr result => return result
  | .inl true => do
    modify cleanupClient
    branch.approved
  | .inl false => pending

/-- The user approves the push on the phone, then submits the form. -/
def stepPush (branch : Branch) : Option Unit → Step FlowResult
  | none => return .form branch.push none
  | some () => do
    if (← get).client.isNone then return .form branch.push (some "cannot_connect")
    else
      finishAuth branch none (closeAnd (.abort "push_timeout"))
        (return .form branch.push (some "push_pending"))

/-- The user types in the code they received. -/
def stepOtp (branch : Branch) : Option String → Step FlowResult
  | none => showOtp branch none
  | some otp => do
    if (← get).client.isNone then showOtp branch (some "cannot_connect")
    else
      finishAuth branch (some (strip otp)) (showOtp branch (some "invalid_otp"))
        (showOtp branch (some "invalid_otp"))

def asyncStepPickFactor : Option String → Step FlowResult := stepPickFactor setupBranch

def asyncStepPushApproval : Option Unit → Step FlowResult := stepPush setupBranch

def asyncStepOtpEntry : Option String → Step FlowResult := stepOtp setupBranch

def asyncStepReauthPickFactor : Option String → Step FlowResult := stepPickFactor reauthBranch

def asyncStepReauthPush : Option Unit → Step FlowResult := stepPush reauthBranch

def asyncStepReauthOtp : Option String → Step FlowResult := stepOtp reauthBranch

/-! ## The logins -/

/-- Step 1: Email and password. -/
def asyncStepUser : Option (String × String) → Step FlowResult
  | none => return .form .user none
  | some (username, password) => do
    let uuid ← Co.await FlowRequest.uuid4
    modify fun s => { s with username, password, deviceId := "eisenberg-" ++ uuid }
    modify newClient
    tryCatch (do
        enterAndLogin
        modify cleanupClient
        asyncStepMediaStorage none)
      fun err =>
        match err with
        | .mfaRequired factors => secondFactor setupBranch factors
        | err =>
          if err.isRateLimitedError then closeAnd (.form .user (some "rate_limited"))
          else if err.isAuthenticationError then closeAnd (.form .user (some "invalid_auth"))
          else if err.isException then closeAnd (.form .user (some "cannot_connect"))
          else throw err

/-- The login of the reauth steps; a rejected password asks for a new one. -/
def loginReauth (rejected : Option String) : Step FlowResult := do
  modify newClient
  let outcome ← tryCatch (do
      enterAndLogin
      return none)
    fun err =>
      match err with
      | .mfaRequired factors => some <$> secondFactor reauthBranch factors
      | err =>
        if err.isRateLimitedError then some <$> closeAnd (.abort "rate_limited")
        else if err.isAuthenticationError then some <$> closeAnd (.form .reauthPassword rejected)
        else throw err
  match outcome with
  | some result => return result
  | none => do
    modify cleanupClient
    finalizeReauth

/-- Confirm: trigger reauth using stored credentials? No fields. -/
def asyncStepReauthConfirm : Option Unit → Step FlowResult
  | none => return .form .reauthConfirm none
  | some () => loginReauth none

/-- Stored password rejected — ask user to re-enter it. -/
def asyncStepReauthPassword : Option String → Step FlowResult
  | none => return .form .reauthPassword none
  | some password => do
    modify fun s => { s with password }
    loginReauth (some "invalid_auth")

/-! ## Submissions -/

/-- The data of an entry that a flow of this integration has created. -/
structure StoredEntry where
  data : EntryData
  username : String
  password : String
  deviceId : Option String
  hasUsername : data.get? CONF_USERNAME = some (.text username)
  hasPassword : data.get? CONF_PASSWORD = some (.text password)
  hasDeviceId : data.get? CONF_DEVICE_ID = deviceId.map .text

inductive FlowStart where
  | user
  | reauth (entry : StoredEntry) (uuid : String)
  | reconfigure (entry : StoredEntry) (uuid : String)

/-- The fields that `async_step_reauth` and `async_step_reconfigure` set. -/
def withStored (source : Source) (entry : StoredEntry) (uuid : String) : FlowState where
  source := source
  username := entry.username
  password := entry.password
  deviceId := entry.deviceId.getD ("eisenberg-" ++ uuid)
  entry := entry.data

/-- What the user fills in. -/
inductive UserInput where
  | confirmed
  | credentials (username password : String)
  | factor (factorId : String)
  | otp (code : String)
  | password (password : String)
  | mediaDir (mediaDir : String)

/-- The step that a submission of the shown form runs; another form has no such field. -/
def submitted : StepId → UserInput → Option (Step FlowResult)
  | .user, .credentials username password => some (asyncStepUser (some (username, password)))
  | .pickFactor, .factor factorId => some (asyncStepPickFactor (some factorId))
  | .pushApproval, .confirmed => some (asyncStepPushApproval (some ()))
  | .otpEntry, .otp code => some (asyncStepOtpEntry (some code))
  | .mediaStorage, .mediaDir mediaDir => some (asyncStepMediaStorage (some mediaDir))
  | .reauthConfirm, .confirmed => some (asyncStepReauthConfirm (some ()))
  | .reauthPassword, .password password => some (asyncStepReauthPassword (some password))
  | .reauthPickFactor, .factor factorId => some (asyncStepReauthPickFactor (some factorId))
  | .reauthPush, .confirmed => some (asyncStepReauthPush (some ()))
  | .reauthOtp, .otp code => some (asyncStepReauthOtp (some code))
  | _, _ => none

/-- What the client and Home Assistant answer during one step. A login that is cancelled is not
answered. -/
structure Outcomes where
  login : Except Exc (List Cookie)
  startMfa : Except Exc (String × List Cookie)
  tryFinishAuth : Except Exc (Bool × List Cookie)
  uniqueId : Option String
  uuid : String
  loginRaises : Raises (fun err => err.isException = true) login

def Outcomes.answer (outcomes : Outcomes) : (i : FlowRequest) → Except Exc (FlowReply i)
  | .login => outcomes.login
  | .startMfa _ => outcomes.startMfa
  | .tryFinishAuth _ _ => outcomes.tryFinishAuth
  | .setUniqueId _ => .ok outcomes.uniqueId
  | .uuid4 => .ok outcomes.uuid

structure Submission where
  input : UserInput
  outcomes : Outcomes

/-- A flow between two submissions: its fields, the form shown last, and what the last step gave. A
step that raises leaves its form where it is. -/
structure FlowRun where
  flow : FlowState
  shown : StepId
  last : Except Exc FlowResult

/-- The run of a step, its requests answered as given. -/
def runStep (outcomes : Outcomes) (step : Step FlowResult) (s : FlowState) :
    FlowState × Except Exc FlowResult :=
  step.runWith (fun _ => outcomes.answer) 0 s

def FlowRun.after (shown : StepId) (ran : FlowState × Except Exc FlowResult) : FlowRun where
  flow := ran.1
  shown := match ran.2 with
    | .ok (.form stepId _) => stepId
    | _ => shown
  last := ran.2

def FlowRun.over (run : FlowRun) : Bool :=
  match run.last with
  | .ok result => result.ends
  | .error _ => false

def FlowRun.submit (run : FlowRun) (submission : Submission) : Option FlowRun :=
  if run.over then none
  else (submitted run.shown submission.input).map fun step =>
    .after run.shown (runStep submission.outcomes step run.flow)

def flowMachine : Machine FlowRun Submission where
  step := FlowRun.submit

/-- The flow with its first form. -/
def FlowRun.begin : FlowStart → FlowRun
  | .user => ⟨{ source := .user }, .user, .ok (.form .user none)⟩
  | .reauth entry uuid =>
    ⟨withStored .reauth entry uuid, .reauthConfirm, .ok (.form .reauthConfirm none)⟩
  | .reconfigure entry uuid =>
    ⟨withStored .reconfigure entry uuid, .reauthConfirm, .ok (.form .reauthConfirm none)⟩

end Eisenberg.Flow
