import Eisenberg.Flow.ConfigFlow
import Eisenberg.Framework.Frame

/-!
# What the config flow answers

A step answers as long as the client raises what the step catches: an authentication error or a rate
limit, and at the login of the setup anything. Then the client is closed whenever the flow ends.
-/

namespace Eisenberg.Flow

open Framework Coordinator

/-- What the `except` clauses around a client call name. -/
def Caught {α : Type} (r : Except Exc α) : Prop :=
  Raises (fun err => (err.isRateLimitedError || err.isAuthenticationError) = true) r

/-- The client as a form expects it: open while a second factor is under way, closed otherwise. -/
def Expects : StepId → FlowState → Prop
  | .user, s | .mediaStorage, s | .reauthConfirm, s | .reauthPassword, s =>
    s.client = none ∧ s.openSessions = []
  | .pickFactor, s | .reauthPickFactor, s => ∃ id, s.client = some id ∧ s.openSessions = [id]
  | .pushApproval, s | .otpEntry, s | .reauthPush, s | .reauthOtp, s =>
    (∃ id, s.client = some id ∧ s.openSessions = [id]) ∧ s.selectedFactor.isSome

def Settled : FlowResult → FlowState → Prop
  | .form stepId _, s => Expects stepId s
  | .abort _, s | .createEntry _ _ _, s => s.client = none ∧ s.openSessions = []

/-- The run of a step comes to a result, with the client as the result demands. -/
def Settles {ν : Type} (ran : FlowState × Except Exc FlowResult × ν) : Prop :=
  ∃ result, ran.2.1 = .ok result ∧ Settled result ran.1

def Escapes {ν : Type} (ran : FlowState × Except Exc FlowResult × ν) : Prop :=
  ∃ err, ran.2.1 = .error err

/-- A step answers if and only if the condition holds. -/
def AnswersIff (condition : Prop) {ν : Type} (ran : FlowState × Except Exc FlowResult × ν) : Prop :=
  (condition → Settles ran) ∧ (¬ condition → Escapes ran)

section Results

variable {ν : Type}

theorem settles_ok {s : FlowState} {result : FlowResult} {n : ν} (h : Settled result s) :
    Settles (s, Except.ok (ε := Exc) result, n) := ⟨result, rfl, h⟩

theorem answersIff_of_settles {condition : Prop} {ran : FlowState × Except Exc FlowResult × ν}
    (hcondition : condition) (h : Settles ran) : AnswersIff condition ran :=
  ⟨fun _ => h, fun hnot => absurd hcondition hnot⟩

theorem answersIff_of_escapes {condition : Prop} {ran : FlowState × Except Exc FlowResult × ν}
    (hcondition : ¬ condition) (h : Escapes ran) : AnswersIff condition ran :=
  ⟨fun hholds => absurd hholds hcondition, fun _ => h⟩

theorem AnswersIff.of_iff {P Q : Prop} {ran : FlowState × Except Exc FlowResult × ν}
    (h : AnswersIff P ran) (hiff : Q ↔ P) : AnswersIff Q ran :=
  ⟨fun hq => h.1 (hiff.mp hq), fun hq => h.2 fun hp => hq (hiff.mpr hp)⟩

end Results

/-- A client is open, and it is the only one. -/
def OneOpen (s : FlowState) : Prop := ∃ id, s.client = some id ∧ s.openSessions = [id]

theorem OneOpen.cleanup {s : FlowState} (h : OneOpen s) :
    (cleanupClient s).client = none ∧ (cleanupClient s).openSessions = [] := by
  obtain ⟨id, hclient, hopen⟩ := h
  simp [cleanupClient, hclient, hopen]

theorem oneOpen_enter {s : FlowState} (h : s.openSessions = []) :
    OneOpen (openSession (newClient s)) :=
  ⟨s.clients, rfl, congrArg (s.clients :: ·) h⟩

/-- The errors of a client call by the `except` clauses that catch them. -/
theorem caught_error {α : Type} (err : Exc) :
    Caught (.error err : Except Exc α) ↔
      (err.isRateLimitedError || err.isAuthenticationError) = true := Iff.rfl

/-- The forms of a branch's second factor. -/
structure Waits (branch : Branch) : Prop where
  pick : ∀ {s}, OneOpen s → Expects branch.pick s
  push : ∀ {s}, OneOpen s → s.selectedFactor.isSome → Expects branch.push s
  otp : ∀ {s}, OneOpen s → s.selectedFactor.isSome → Expects branch.otp s

theorem waits_setupBranch : Waits setupBranch :=
  ⟨fun h => h, fun h hfactor => ⟨h, hfactor⟩, fun h hfactor => ⟨h, hfactor⟩⟩

theorem waits_reauthBranch : Waits reauthBranch :=
  ⟨fun h => h, fun h hfactor => ⟨h, hfactor⟩, fun h hfactor => ⟨h, hfactor⟩⟩

section Steps

variable (outcomes : Outcomes) {n : Nat} {s : FlowState} {branch : Branch}

theorem showOtp_settles (hbranch : Waits branch) (hopen : OneOpen s)
    (hfactor : s.selectedFactor.isSome) (error : Option String) :
    Settles ((showOtp branch error).run (fun _ => outcomes.answer) n s) := by
  simp only [showOtp, assertion, Co.run_bind, Co.run_get, Co.andThen_ok, hfactor, if_true,
    Co.run_pure]
  exact settles_ok (hbranch.otp hopen hfactor)

theorem closeAnd_settles (hopen : OneOpen s) {result : FlowResult}
    (hresult : ∀ t : FlowState, t.client = none → t.openSessions = [] → Settled result t) :
    Settles ((closeAnd result).run (fun _ => outcomes.answer) n s) := by
  obtain ⟨hclient, hsessions⟩ := hopen.cleanup
  exact settles_ok (hresult _ hclient hsessions)

theorem fireMfa_answers (hbranch : Waits branch) (hopen : OneOpen s)
    (hfactor : s.selectedFactor.isSome) :
    AnswersIff (Caught outcomes.startMfa)
      ((fireMfa branch).run (fun _ => outcomes.answer) n s) := by
  obtain ⟨factor, hselected⟩ := Option.isSome_iff_exists.mp hfactor
  obtain ⟨id, hclient, hsessions⟩ := hopen
  have hopen : OneOpen s := ⟨id, hclient, hsessions⟩
  cases hsent : outcomes.startMfa with
  | ok sent =>
    refine answersIff_of_settles trivial ?_
    simp only [fireMfa, assertion, Co.run_bind, Co.run_get, Co.andThen_ok, hclient,
      Option.isSome_some, if_true, Co.run_pure, hselected, Co.run_tryCatch, Co.run_await,
      Outcomes.answer, hsent, Co.run_modify, Co.orElse_ok]
    split
    · exact settles_ok (hbranch.push ⟨id, rfl, hsessions⟩ rfl)
    · refine showOtp_settles outcomes hbranch ?_ ?_ none
      · exact ⟨id, rfl, hsessions⟩
      · rfl
  | error err =>
    obtain ⟨hclosed, hnone⟩ := hopen.cleanup
    simp only [fireMfa, assertion, Co.run_bind, Co.run_get, Co.andThen_ok, hclient,
      Option.isSome_some, if_true, Co.run_pure, hselected, Co.run_tryCatch, Co.run_await,
      Outcomes.answer, hsent, Co.andThen_error, Co.orElse_error]
    cases hrate : err.isRateLimitedError with
    | true =>
      refine answersIff_of_settles (by simp [caught_error, hrate]) ?_
      exact ⟨_, rfl, hclosed, hnone⟩
    | false =>
      cases hauth : err.isAuthenticationError with
      | true =>
        refine answersIff_of_settles (by simp [caught_error, hauth]) ?_
        exact ⟨_, rfl, hclosed, hnone⟩
      | false =>
        refine answersIff_of_escapes (by simp [caught_error, hrate, hauth]) ?_
        exact ⟨err, rfl⟩

theorem stepPickFactor_answers (hbranch : Waits branch) (hopen : OneOpen s) (pickedId : String) :
    AnswersIff
      (((s.factors.find? fun factor => factor.factorId = pickedId).or s.selectedFactor).isSome →
        Caught outcomes.startMfa)
      ((stepPickFactor branch (some pickedId)).run (fun _ => outcomes.answer) n s) := by
  cases hfind : s.factors.find? fun factor => factor.factorId = pickedId with
  | some factor =>
    have hfire := fireMfa_answers (n := n) (s := { s with selectedFactor := some factor })
      outcomes hbranch hopen rfl
    simp only [stepPickFactor, Co.run_bind, Co.run_modify, Co.andThen_ok, hfind, Co.run_get,
      Option.isNone_some, Bool.false_eq_true, if_false]
    exact hfire.of_iff (by simp)
  | none =>
    cases hselected : s.selectedFactor with
    | some factor =>
      have hfire := fireMfa_answers (n := n) outcomes hbranch hopen
        (Option.isSome_iff_exists.mpr ⟨factor, hselected⟩)
      simp only [stepPickFactor, Co.run_bind, Co.run_modify, Co.andThen_ok, hfind, Co.run_get,
        hselected, Option.isNone_some, Bool.false_eq_true, if_false]
      exact hfire.of_iff (by simp)
    | none =>
      simp only [stepPickFactor, Co.run_bind, Co.run_modify, Co.andThen_ok, hfind, Co.run_get,
        hselected, Option.isNone_none, if_true, Co.run_pure]
      exact answersIff_of_settles (by simp) (settles_ok (hbranch.pick hopen))

theorem secondFactor_answers (hbranch : Waits branch) (hopen : OneOpen s)
    (factors : List SecondFactor) :
    AnswersIff ((∃ factor, factors = [factor]) → Caught outcomes.startMfa)
      ((secondFactor branch factors).run (fun _ => outcomes.answer) n s) := by
  have hpick : Settles ((stepPickFactor branch none).run (fun _ => outcomes.answer) n
      { s with factors }) := settles_ok (hbranch.pick hopen)
  match factors, hpick with
  | [], hpick =>
    simp only [secondFactor, Co.run_bind, Co.run_modify, Co.andThen_ok]
    exact answersIff_of_settles (by simp) hpick
  | [factor], _ =>
    have hfire := fireMfa_answers (n := n)
      (s := { s with factors := [factor], selectedFactor := some factor }) outcomes hbranch hopen
      rfl
    simp only [secondFactor, Co.run_bind, Co.run_modify, Co.andThen_ok]
    exact hfire.of_iff (by simp)
  | _ :: _ :: _, hpick =>
    simp only [secondFactor, Co.run_bind, Co.run_modify, Co.andThen_ok]
    exact answersIff_of_settles (by simp) hpick

theorem finalizeReauth_settles (hclosed : s.client = none ∧ s.openSessions = []) :
    Settles (finalizeReauth.run (fun _ => outcomes.answer) n s) := by
  simp only [finalizeReauth, Co.run_bind, Co.run_modify, Co.andThen_ok, Co.run_get]
  split
  · exact settles_ok hclosed
  · exact settles_ok hclosed

theorem finishAuth_answers (hopen : OneOpen s) {otp : Option String}
    {refused pending : Step FlowResult}
    (hrefused : ∀ m, Settles (refused.run (fun _ => outcomes.answer) m s))
    (hpending : ∀ m t, OneOpen t → t.selectedFactor = s.selectedFactor →
      Settles (pending.run (fun _ => outcomes.answer) m t))
    (happroved : ∀ m t, t.client = none ∧ t.openSessions = [] →
      Settles (branch.approved.run (fun _ => outcomes.answer) m t)) :
    AnswersIff (Caught outcomes.tryFinishAuth)
      ((finishAuth branch otp refused pending).run (fun _ => outcomes.answer) n s) := by
  cases hfinish : outcomes.tryFinishAuth with
  | ok finished =>
    obtain ⟨approved, cookieJar⟩ := finished
    refine answersIff_of_settles trivial ?_
    simp only [finishAuth, Co.run_bind, Co.run_get, Co.andThen_ok, Co.run_tryCatch, Co.run_await,
      Outcomes.answer, hfinish, Co.run_modify, Co.run_pure, Co.orElse_ok]
    cases approved with
    | true => exact happroved _ _ (OneOpen.cleanup (s := keepCookies cookieJar s) hopen)
    | false => exact hpending _ _ hopen rfl
  | error err =>
    obtain ⟨hclosed, hnone⟩ := hopen.cleanup
    simp only [finishAuth, Co.run_bind, Co.run_get, Co.andThen_ok, Co.run_tryCatch, Co.run_await,
      Outcomes.answer, hfinish, Co.andThen_error, Co.orElse_error]
    cases hrate : err.isRateLimitedError with
    | true =>
      refine answersIff_of_settles (by simp [caught_error, hrate]) ?_
      exact ⟨_, rfl, hclosed, hnone⟩
    | false =>
      cases hauth : err.isAuthenticationError with
      | true =>
        refine answersIff_of_settles (by simp [caught_error, hauth]) ?_
        simp only [Bool.false_eq_true, if_false, if_true, Co.run_map]
        rw [Co.andThen_wrapped Sum.inr]
        · exact hrefused _
        · intro _
          rfl
      | false =>
        refine answersIff_of_escapes (by simp [caught_error, hrate, hauth]) ?_
        exact ⟨err, rfl⟩

theorem stepPush_answers (hbranch : Waits branch) (hopen : OneOpen s)
    (hfactor : s.selectedFactor.isSome)
    (happroved : ∀ m t, t.client = none ∧ t.openSessions = [] →
      Settles (branch.approved.run (fun _ => outcomes.answer) m t)) :
    AnswersIff (Caught outcomes.tryFinishAuth)
      ((stepPush branch (some ())).run (fun _ => outcomes.answer) n s) := by
  obtain ⟨id, hclient, hsessions⟩ := hopen
  have hopen : OneOpen s := ⟨id, hclient, hsessions⟩
  simp only [stepPush, Co.run_bind, Co.run_get, Co.andThen_ok, hclient, Option.isNone_some,
    Bool.false_eq_true, if_false]
  apply finishAuth_answers outcomes hopen
  · intro m
    exact closeAnd_settles outcomes hopen fun t hclosed hnone => ⟨hclosed, hnone⟩
  · intro m t ht hselected
    exact settles_ok (hbranch.push ht (hselected ▸ hfactor))
  · exact happroved

theorem stepOtp_answers (hbranch : Waits branch) (hopen : OneOpen s)
    (hfactor : s.selectedFactor.isSome) (otp : String)
    (happroved : ∀ m t, t.client = none ∧ t.openSessions = [] →
      Settles (branch.approved.run (fun _ => outcomes.answer) m t)) :
    AnswersIff (Caught outcomes.tryFinishAuth)
      ((stepOtp branch (some otp)).run (fun _ => outcomes.answer) n s) := by
  obtain ⟨id, hclient, hsessions⟩ := hopen
  have hopen : OneOpen s := ⟨id, hclient, hsessions⟩
  simp only [stepOtp, Co.run_bind, Co.run_get, Co.andThen_ok, hclient, Option.isNone_some,
    Bool.false_eq_true, if_false]
  apply finishAuth_answers outcomes hopen
  · intro m
    exact showOtp_settles outcomes hbranch hopen hfactor _
  · intro m t ht hselected
    exact showOtp_settles outcomes hbranch ht (hselected ▸ hfactor) _
  · exact happroved

/-- What the logins of the reauth steps let out: everything but the errors they name. -/
theorem loginReauth_answers (hclosed : s.openSessions = []) (rejected : Option String) :
    AnswersIff (Caught outcomes.login ∧
        ((∃ factor, outcomes.login = .error (.mfaRequired [factor])) → Caught outcomes.startMfa))
      ((loginReauth rejected).run (fun _ => outcomes.answer) n s) := by
  have hopen := oneOpen_enter hclosed
  cases hlogin : outcomes.login with
  | ok cookieJar =>
    have hopen' : OneOpen (keepCookies cookieJar (openSession (newClient s))) := hopen
    refine answersIff_of_settles ⟨trivial, by simp⟩ ?_
    simp only [loginReauth, enterAndLogin, Co.run_bind, Co.run_modify, Co.andThen_ok,
      Co.run_tryCatch, Co.run_await, Outcomes.answer, hlogin, Co.run_pure, Co.orElse_ok]
    exact finalizeReauth_settles outcomes hopen'.cleanup
  | error err =>
    obtain ⟨hnone, hsessions⟩ := hopen.cleanup
    simp only [loginReauth, enterAndLogin, Co.run_bind, Co.run_modify, Co.andThen_ok,
      Co.run_tryCatch, Co.run_await, Outcomes.answer, hlogin, Co.andThen_error, Co.orElse_error]
    split
    · rename_i factors
      rw [Co.run_map, Co.andThen_wrapped some]
      · refine (secondFactor_answers outcomes waits_reauthBranch hopen factors).of_iff ?_
        simp [caught_error, Exc.isAuthenticationError]
      · intro _
        rfl
    · rename_i hmfa
      have hfires : ¬ ∃ factor, (.error err : Except Exc (List Cookie)) =
          .error (.mfaRequired [factor]) := by
        rintro ⟨factor, heq⟩
        exact hmfa [factor] (Except.error.inj heq)
      cases hrate : err.isRateLimitedError with
      | true =>
        refine answersIff_of_settles ⟨by simp [caught_error, hrate], fun h => absurd h hfires⟩ ?_
        exact ⟨_, rfl, hnone, hsessions⟩
      | false =>
        cases hauth : err.isAuthenticationError with
        | true =>
          refine answersIff_of_settles ⟨by simp [caught_error, hauth], fun h => absurd h hfires⟩ ?_
          exact ⟨_, rfl, hnone, hsessions⟩
        | false =>
          refine answersIff_of_escapes (by simp [caught_error, hrate, hauth]) ?_
          exact ⟨err, rfl⟩

/-- The login of the setup lets nothing out; the second factor after it may. -/
theorem asyncStepUser_answers (hclosed : s.openSessions = []) (who : String × String) :
    AnswersIff ((∃ factor, outcomes.login = .error (.mfaRequired [factor])) →
        Caught outcomes.startMfa)
      ((asyncStepUser (some who)).run (fun _ => outcomes.answer) n s) := by
  have hopen : OneOpen (openSession (newClient { s with
      username := who.1, password := who.2, deviceId := "eisenberg-" ++ outcomes.uuid })) :=
    oneOpen_enter hclosed
  cases hlogin : outcomes.login with
  | ok cookieJar =>
    have hopen' : OneOpen (keepCookies cookieJar (openSession (newClient { s with
      username := who.1, password := who.2, deviceId := "eisenberg-" ++ outcomes.uuid }))) := hopen
    refine answersIff_of_settles (by simp) ?_
    simp only [asyncStepUser, enterAndLogin, Co.run_bind, Co.run_modify, Co.andThen_ok,
      Co.run_tryCatch, Co.run_await, Outcomes.answer, hlogin, asyncStepMediaStorage, Co.run_pure,
      Co.orElse_ok]
    exact settles_ok hopen'.cleanup
  | error err =>
    obtain ⟨hnone, hsessions⟩ := hopen.cleanup
    have hexception : err.isException = true := by
      have hall := outcomes.loginRaises
      rw [hlogin] at hall
      exact hall
    simp only [asyncStepUser, enterAndLogin, Co.run_bind, Co.run_modify, Co.andThen_ok,
      Co.run_tryCatch, Co.run_await, Outcomes.answer, hlogin, Co.andThen_error, Co.orElse_error]
    split
    · rename_i factors
      refine (secondFactor_answers outcomes waits_setupBranch hopen factors).of_iff ?_
      simp
    · rename_i hmfa
      have hfires : ¬ ∃ factor, (.error err : Except Exc (List Cookie)) =
          .error (.mfaRequired [factor]) := by
        rintro ⟨factor, heq⟩
        exact hmfa [factor] (Except.error.inj heq)
      refine answersIff_of_settles (fun h => absurd h hfires) ?_
      simp only [hexception, if_true]
      split
      · exact ⟨_, rfl, hnone, hsessions⟩
      · split
        · exact ⟨_, rfl, hnone, hsessions⟩
        · exact ⟨_, rfl, hnone, hsessions⟩

theorem asyncStepMediaStorage_settles (hclosed : s.client = none ∧ s.openSessions = [])
    (mediaDir : String) :
    Settles ((asyncStepMediaStorage (some mediaDir)).run (fun _ => outcomes.answer) n s) := by
  simp only [asyncStepMediaStorage, Co.run_bind, Co.run_get, Co.andThen_ok, Co.run_await,
    Outcomes.answer]
  cases outcomes.uniqueId with
  | some reason => exact settles_ok hclosed
  | none => exact settles_ok hclosed

end Steps

/-! ## Runs -/

/-- `start_mfa` is called in the step: a login asks for one factor, or the picker has one. -/
def Fires (run : FlowRun) (submission : Submission) : Prop :=
  match run.shown, submission.input with
  | .user, _ | .reauthConfirm, _ | .reauthPassword, _ =>
    ∃ factor, submission.outcomes.login = .error (.mfaRequired [factor])
  | .pickFactor, .factor pickedId | .reauthPickFactor, .factor pickedId =>
    ((run.flow.factors.find? fun factor => factor.factorId = pickedId).or
      run.flow.selectedFactor).isSome
  | _, _ => False

/-- Every call of the client that no clause of the step guards returns, or raises an authentication
error or a rate limit. -/
structure CallsCaught (run : FlowRun) (submission : Submission) : Prop where
  login : run.shown = .reauthConfirm ∨ run.shown = .reauthPassword →
    Caught submission.outcomes.login
  startMfa : Fires run submission → Caught submission.outcomes.startMfa
  tryFinishAuth : run.shown ∈ [StepId.pushApproval, .otpEntry, .reauthPush, .reauthOtp] →
    Caught submission.outcomes.tryFinishAuth

theorem callsCaught_iff {run : FlowRun} {submission : Submission} :
    CallsCaught run submission ↔
      (run.shown = .reauthConfirm ∨ run.shown = .reauthPassword →
        Caught submission.outcomes.login) ∧
      (Fires run submission → Caught submission.outcomes.startMfa) ∧
      (run.shown ∈ [StepId.pushApproval, .otpEntry, .reauthPush, .reauthOtp] →
        Caught submission.outcomes.tryFinishAuth) :=
  ⟨fun h => ⟨h.login, h.startMfa, h.tryFinishAuth⟩, fun h => ⟨h.1, h.2.1, h.2.2⟩⟩

/-- The step answers, and the client is closed if that ends the flow. -/
def Answers (run : FlowRun) (submission : Submission) : Prop :=
  ∀ run', flowMachine.step run submission = some run' →
    ∃ result, run'.last = .ok result ∧ (result.ends = true → run'.flow.openSessions = [])

theorem setupBranch_approved (outcomes : Outcomes) (m : Nat) (t : FlowState)
    (hclosed : t.client = none ∧ t.openSessions = []) :
    Settles (setupBranch.approved.run (fun _ => outcomes.answer) m t) := settles_ok hclosed

theorem reauthBranch_approved (outcomes : Outcomes) (m : Nat) (t : FlowState)
    (hclosed : t.client = none ∧ t.openSessions = []) :
    Settles (reauthBranch.approved.run (fun _ => outcomes.answer) m t) :=
  finalizeReauth_settles outcomes hclosed

/-- Every step answers if and only if the calls that it makes are caught. -/
theorem submitted_answers {run : FlowRun} {submission : Submission} {step : Step FlowResult}
    (hstep : submitted run.shown submission.input = some step)
    (hrun : Expects run.shown run.flow) :
    AnswersIff (CallsCaught run submission)
      (step.run (fun _ => submission.outcomes.answer) 0 run.flow) := by
  obtain ⟨flow, shown, last⟩ := run
  obtain ⟨input, outcomes⟩ := submission
  cases shown <;> cases input <;> simp only [submitted, Option.some.injEq, reduceCtorEq] at hstep
  all_goals subst hstep
  case user.credentials username password =>
    exact (asyncStepUser_answers outcomes hrun.2 (username, password)).of_iff
      (by simp [callsCaught_iff, Fires])
  case pickFactor.factor pickedId =>
    exact (stepPickFactor_answers outcomes waits_setupBranch hrun pickedId).of_iff
      (by simp [callsCaught_iff, Fires])
  case pushApproval.confirmed =>
    exact (stepPush_answers outcomes waits_setupBranch hrun.1 hrun.2
      (setupBranch_approved outcomes)).of_iff (by simp [callsCaught_iff, Fires])
  case otpEntry.otp code =>
    exact (stepOtp_answers outcomes waits_setupBranch hrun.1 hrun.2 code
      (setupBranch_approved outcomes)).of_iff (by simp [callsCaught_iff, Fires])
  case mediaStorage.mediaDir mediaDir =>
    exact answersIff_of_settles (by simp [callsCaught_iff, Fires])
      (asyncStepMediaStorage_settles outcomes hrun mediaDir)
  case reauthConfirm.confirmed =>
    exact (loginReauth_answers outcomes hrun.2 none).of_iff (by simp [callsCaught_iff, Fires])
  case reauthPassword.password password =>
    have hlogin := loginReauth_answers (n := 0) (s := { flow with password }) outcomes hrun.2
      (some "invalid_auth")
    exact hlogin.of_iff (by simp [callsCaught_iff, Fires])
  case reauthPickFactor.factor pickedId =>
    exact (stepPickFactor_answers outcomes waits_reauthBranch hrun pickedId).of_iff
      (by simp [callsCaught_iff, Fires])
  case reauthPush.confirmed =>
    exact (stepPush_answers outcomes waits_reauthBranch hrun.1 hrun.2
      (reauthBranch_approved outcomes)).of_iff (by simp [callsCaught_iff, Fires])
  case reauthOtp.otp code =>
    exact (stepOtp_answers outcomes waits_reauthBranch hrun.1 hrun.2 code
      (reauthBranch_approved outcomes)).of_iff (by simp [callsCaught_iff, Fires])

/-- A flow that is not over has its client as the form expects it. -/
def Open (run : FlowRun) : Prop := run.over = false → Expects run.shown run.flow

theorem open_begin (start : FlowStart) : Open (.begin start) := by
  intro _
  cases start with
  | user => exact ⟨rfl, rfl⟩
  | reauth entry uuid => exact ⟨rfl, rfl⟩
  | reconfigure entry uuid => exact ⟨rfl, rfl⟩

theorem step_eq_some {run run' : FlowRun} {submission : Submission}
    (h : flowMachine.step run submission = some run') :
    run.over = false ∧ ∃ step, submitted run.shown submission.input = some step ∧
      run' = .after run.shown (runStep submission.outcomes step run.flow) := by
  simp only [flowMachine, FlowRun.submit] at h
  split at h
  · cases h
  · rename_i hover
    obtain ⟨step, hstep, heq⟩ := Option.map_eq_some_iff.mp h
    exact ⟨by simpa using hover, step, hstep, heq.symm⟩

theorem after_of_settles {shown : StepId} {outcomes : Outcomes} {step : Step FlowResult}
    {s : FlowState} (h : Settles (step.run (fun _ => outcomes.answer) 0 s)) :
    ∃ result, (FlowRun.after shown (runStep outcomes step s)).last = .ok result ∧
      (result.ends = true →
        (FlowRun.after shown (runStep outcomes step s)).flow.openSessions = []) ∧
      Open (.after shown (runStep outcomes step s)) := by
  obtain ⟨result, hresult, hsettled⟩ := h
  have hran : runStep outcomes step s =
      ((step.run (fun _ => outcomes.answer) 0 s).1, .ok result) := by
    rw [runStep, Co.runWith_eq, hresult]
  rw [hran]
  refine ⟨result, rfl, ?_, ?_⟩
  · intro hends
    cases result with
    | form stepId error => cases hends
    | abort reason => exact hsettled.2
    | createEntry title data mediaDir => exact hsettled.2
  · intro hover
    cases result with
    | form stepId error => exact hsettled
    | abort reason => cases hover
    | createEntry title data mediaDir => cases hover

/-- A step that can be taken makes only calls that are caught. -/
def Guarded (run : FlowRun) (submission : Submission) : Prop :=
  (flowMachine.step run submission).isSome → CallsCaught run submission

theorem guarded_step {run run' : FlowRun} {submission : Submission} (hrun : Open run)
    (hguarded : Guarded run submission) (h : flowMachine.step run submission = some run') :
    ∃ result, run'.last = .ok result ∧ (result.ends = true → run'.flow.openSessions = []) ∧
      Open run' := by
  have hcaught : CallsCaught run submission := hguarded (by simp [h])
  obtain ⟨hover, step, hstep, rfl⟩ := step_eq_some h
  exact after_of_settles ((submitted_answers hstep (hrun hover)).1 hcaught)

/-- A step of an open flow answers if and only if the calls that it makes are caught. -/
theorem guarded_iff_answers {run : FlowRun} (hrun : Open run) (submission : Submission) :
    Guarded run submission ↔ Answers run submission := by
  constructor
  · intro hguarded run' h
    obtain ⟨result, hresult, hends, -⟩ := guarded_step hrun hguarded h
    exact ⟨result, hresult, hends⟩
  · intro hanswers hsome
    by_contra hnot
    obtain ⟨run', h⟩ := Option.isSome_iff_exists.mp hsome
    obtain ⟨result, hresult, -⟩ := hanswers run' h
    obtain ⟨hover, step, hstep, rfl⟩ := step_eq_some h
    obtain ⟨err, herror⟩ := (submitted_answers hstep (hrun hover)).2 hnot
    have hlast : (runStep submission.outcomes step run.flow).2 = .error err := by
      rw [runStep, Co.runWith_eq]
      exact herror
    have hboth : (Except.error err : Except Exc FlowResult) = .ok result := hlast.symm.trans hresult
    cases hboth

/-- Over any sequence of submissions the flow answers every one, and closes its client whenever it
ends, if and only if no unguarded call of the client raises anything but an authentication error or
a rate limit. -/
theorem flow_answers_iff (start : FlowStart) (submissions : List Submission) :
    flowMachine.Along Answers (.begin start) submissions ↔
      flowMachine.Along Guarded (.begin start) submissions := by
  refine (flowMachine.along_congr_of (I := Open) ?_ ?_ (open_begin start)).symm
  · intro run submission run' hrun hguarded h
    obtain ⟨_, -, -, hopen⟩ := guarded_step hrun hguarded h
    exact hopen
  · intro run submission hrun
    exact guarded_iff_answers hrun submission

/-! ### A blocked `start_mfa` -/

def pushFactor : SecondFactor := ⟨"F1", .PUSH, "Phone", none, "PRIMARY"⟩

/-- The login asks for the only factor, and Arlo's edge blocks the request that fires it. -/
def blockedFactor : Submission where
  input := .credentials "user@example.com" "secret"
  outcomes :=
    { login := .error (.mfaRequired [pushFactor])
      startMfa := .error (.transientAPIError "POST /api/startAuth returned 403")
      tryFinishAuth := .ok (true, [])
      uniqueId := none
      uuid := "0"
      loginRaises := rfl }

theorem blocked_factor_escapes :
    ¬ flowMachine.Along Answers (.begin .user) [blockedFactor] ∧
      ∃ run, flowMachine.run (.begin .user) [blockedFactor] = some run ∧
        run.last = .error (.transientAPIError "POST /api/startAuth returned 403") ∧
        run.flow.openSessions = [0] := by
  have hstep : ∃ run, flowMachine.step (.begin .user) blockedFactor = some run ∧
      run.last = .error (.transientAPIError "POST /api/startAuth returned 403") ∧
      run.flow.openSessions = [0] := ⟨_, rfl, rfl, rfl⟩
  obtain ⟨run, hrun, hlast, hopen⟩ := hstep
  refine ⟨?_, run, ?_, hlast, hopen⟩
  · intro halong
    obtain ⟨result, hresult, -⟩ := halong.1 run hrun
    rw [hlast] at hresult
    cases hresult
  · rw [Machine.run_cons, hrun]
    rfl

end Eisenberg.Flow
