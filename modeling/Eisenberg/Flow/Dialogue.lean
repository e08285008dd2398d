import Eisenberg.Flow.Answers
import Eisenberg.Framework.Monitor

/-!
# Who vouches for an entry

What a flow may say to Arlo, as a protocol: it logs in, has one of the offered factors fired by the
client that was challenged, finishes with the code that this client was given, and says nothing more
once Arlo has let the account in. An entry is written for that account only.
-/

namespace Eisenberg.Flow

open Framework Coordinator

/-- Who the client of the flow is built for. -/
def FlowState.who (s : FlowState) : Credentials := ⟨s.username, s.password, s.deviceId⟩

inductive Phase where
  | idle
  /-- The login of the client asks for a second factor. -/
  | challenged (client : Nat) (who : Credentials)
  | fired (client : Nat) (who : Credentials) (code : String)
  /-- Arlo has let the account in, and left these cookies. -/
  | vouched (who : Credentials) (cookieJar : List Cookie)

/-- Where the dialogue stands, and the factors that Arlo has offered in it. -/
structure Standing where
  phase : Phase := .idle
  offered : List SecondFactor := []

namespace Standing

def afterLogin (d : Standing) (client : Nat) (who : Credentials) :
    Except Exc (List Cookie) → Standing
  | .ok cookieJar => { d with phase := .vouched who cookieJar }
  | .error (.mfaRequired factors) => ⟨.challenged client who, d.offered ++ factors⟩
  | .error _ => { d with phase := .idle }

def afterStart (d : Standing) (client : Nat) (who : Credentials) :
    Except Exc (String × List Cookie) → Standing
  | .ok (code, _) => { d with phase := .fired client who code }
  | .error _ => d

def afterFinish (d : Standing) (who : Credentials) : Except Exc (Bool × List Cookie) → Standing
  | .ok (true, cookieJar) => { d with phase := .vouched who cookieJar }
  | .ok (false, _) | .error _ => d

def hear (d : Standing) : Co.Exchange FlowState Exc FlowReply → Option Standing
  | (s, ⟨.login, answer⟩) =>
    match d.phase, s.client with
    | .idle, some client | .challenged _ _, some client => some (d.afterLogin client s.who answer)
    | _, _ => none
  | (s, ⟨.startMfa factor, answer⟩) =>
    match d.phase with
    | .challenged client who =>
      if s.client = some client ∧ factor ∈ d.offered then some (d.afterStart client who answer)
      else none
    | _ => none
  | (s, ⟨.tryFinishAuth code _, answer⟩) =>
    match d.phase with
    | .fired client who sent =>
      if s.client = some client ∧ code = sent then some (d.afterFinish who answer) else none
    | _ => none
  -- These are asked of Home Assistant and of the library.
  | (_, ⟨.setUniqueId _, _⟩) | (_, ⟨.uuid4, _⟩) => some d

end Standing

def dialogue : Machine Standing (Co.Exchange FlowState Exc FlowReply) where
  step := Standing.hear

/-! ## What the forms stand for -/

/-- No account has been let in, and no factor is under way. -/
def Standing.Fresh (d : Standing) : Prop :=
  match d.phase with
  | .idle | .challenged _ _ => True
  | .fired _ _ _ | .vouched _ _ => False

/-- A flow that began with `s₀` has not written its entry; only a new setup changes the account. -/
structure Unwritten (s₀ s : FlowState) : Prop where
  entry : s.entry = s₀.entry
  source : s.source = s₀.source
  stored : s₀.source ≠ .user → s.username = s₀.username ∧ s.deviceId = s₀.deviceId

structure Offered (s : FlowState) (d : Standing) : Prop where
  factors : ∀ factor ∈ s.factors, factor ∈ d.offered
  selected : ∀ factor, s.selectedFactor = some factor → factor ∈ d.offered

/-- Where the dialogue stands while a form is shown. -/
def Stands (s₀ : FlowState) : StepId → FlowState → Standing → Prop
  | .user, _, d => s₀.source = .user ∧ d.Fresh
  | .reauthConfirm, _, d | .reauthPassword, _, d => d.Fresh
  | .pickFactor, s, d | .reauthPickFactor, s, d =>
    ∃ client, s.client = some client ∧ d.phase = .challenged client s.who
  | .pushApproval, s, d | .otpEntry, s, d | .reauthPush, s, d | .reauthOtp, s, d =>
    ∃ client, s.client = some client ∧ d.phase = .fired client s.who s.factorAuthCode
  | .mediaStorage, s, d => ∃ cookieJar, s.cookieJar = some cookieJar ∧
      d.phase = .vouched s.who cookieJar

structure Agrees (s₀ : FlowState) (shown : StepId) (s : FlowState) (d : Standing) : Prop where
  unwritten : Unwritten s₀ s
  offered : Offered s d
  stands : Stands s₀ shown s d

/-- The data of an entry for an account that was let in with these cookies. -/
def entryFor (who : Credentials) (cookieJar : List Cookie) : EntryData :=
  update [(CONF_USERNAME, .text who.username), (CONF_PASSWORD, .text who.password),
    (CONF_DEVICE_ID, .text who.deviceId),
    (CONF_TRUST_COOKIE, .cookies (serializeCookies cookieJar))] Dict.empty

/-- The entry was updated for an account that was let in: the stored one, with its device. -/
def Reauthenticated (s₀ s : FlowState) (d : Standing) : Prop :=
  ∃ who cookieJar, d.phase = .vouched who cookieJar ∧
    s.entry = update (finalizeReauthUpdates who (some cookieJar)) s₀.entry ∧
    (s₀.source ≠ .user → who.username = s₀.username ∧ who.deviceId = s₀.deviceId)

/-- What a step leaves behind; one that raises leaves the form that was shown. -/
def Leaves (s₀ : FlowState) (shown : StepId) (s : FlowState) (d : Standing) :
    Except Exc FlowResult → Prop
  | .ok (.form stepId _) => Agrees s₀ stepId s d
  | .ok (.abort _) => s.entry = s₀.entry ∨ Reauthenticated s₀ s d
  | .ok (.createEntry title data _) => s.entry = s₀.entry ∧
      ∃ who cookieJar, d.phase = .vouched who cookieJar ∧ title = who.username ∧
        data = entryFor who cookieJar
  | .error _ => Agrees s₀ shown s d

/-! ## The steps -/

section Steps

variable {s₀ s : FlowState} {d : Standing} {shown : StepId} {branch : Branch}

@[simp] theorem who_cleanupClient (s : FlowState) : (cleanupClient s).who = s.who := by
  unfold cleanupClient
  split <;> rfl

theorem Unwritten.cleanup (h : Unwritten s₀ s) : Unwritten s₀ (cleanupClient s) := by
  unfold cleanupClient
  split
  · exact ⟨h.entry, h.source, h.stored⟩
  · exact h

theorem Offered.cleanup (h : Offered s d) : Offered (cleanupClient s) d := by
  unfold cleanupClient
  split
  · exact ⟨h.factors, h.selected⟩
  · exact h

/-- The forms of a branch, and what it does with an account that was let in. -/
structure Stations (s₀ : FlowState) (branch : Branch) : Prop where
  pick : ∀ {s d client}, s.client = some client → d.phase = .challenged client s.who →
    Stands s₀ branch.pick s d
  push : ∀ {s d client}, s.client = some client →
    d.phase = .fired client s.who s.factorAuthCode → Stands s₀ branch.push s d
  otp : ∀ {s d client}, s.client = some client →
    d.phase = .fired client s.who s.factorAuthCode → Stands s₀ branch.otp s d
  approved : ∀ {s d cookieJar} (shown : StepId), Unwritten s₀ s → Offered s d →
    s.cookieJar = some cookieJar → d.phase = .vouched s.who cookieJar →
    Co.Conforms dialogue (Leaves s₀ shown) branch.approved s d

theorem stations_setupBranch : Stations s₀ setupBranch where
  pick := fun hclient hphase => ⟨_, hclient, hphase⟩
  push := fun hclient hphase => ⟨_, hclient, hphase⟩
  otp := fun hclient hphase => ⟨_, hclient, hphase⟩
  approved := fun _ hsame hoffered hjar hphase => ⟨hsame, hoffered, _, hjar, hphase⟩

theorem finalizeReauth_conforms {cookieJar : List Cookie} (hsame : Unwritten s₀ s)
    (hjar : s.cookieJar = some cookieJar) (hphase : d.phase = .vouched s.who cookieJar) :
    Co.Conforms dialogue (Leaves s₀ shown) finalizeReauth s d := by
  have hwritten : Reauthenticated s₀ { s with
      entry := update (finalizeReauthUpdates s.who s.cookieJar) s.entry } d := by
    refine ⟨s.who, cookieJar, hphase, ?_, hsame.stored⟩
    rw [hjar, hsame.entry]
  simp only [finalizeReauth, Co.conforms_bind, Co.conforms_modify, Co.onward_ok, Co.conforms_get]
  split
  · exact Or.inr hwritten
  · exact Or.inr hwritten

theorem stations_reauthBranch : Stations s₀ reauthBranch where
  pick := fun hclient hphase => ⟨_, hclient, hphase⟩
  push := fun hclient hphase => ⟨_, hclient, hphase⟩
  otp := fun hclient hphase => ⟨_, hclient, hphase⟩
  approved := fun _ hsame _ hjar hphase => finalizeReauth_conforms hsame hjar hphase

theorem abort_leaves (hsame : Unwritten s₀ s) (reason : String) :
    Leaves s₀ shown (cleanupClient s) d (.ok (.abort reason)) := Or.inl hsame.cleanup.entry

theorem showOtp_conforms (hbranch : Stations s₀ branch) (hsame : Unwritten s₀ s)
    (hoffered : Offered s d) {client : Nat} (hclient : s.client = some client)
    (hphase : d.phase = .fired client s.who s.factorAuthCode) (hfactor : s.selectedFactor.isSome)
    (error : Option String) :
    Co.Conforms dialogue (Leaves s₀ shown) (showOtp branch error) s d := by
  simp only [showOtp, assertion, Co.conforms_bind, Co.conforms_get, Co.onward_ok, hfactor, if_true,
    Co.conforms_pure]
  exact ⟨hsame, hoffered, hbranch.otp hclient hphase⟩

theorem fireMfa_conforms (hbranch : Stations s₀ branch) (hsame : Unwritten s₀ s)
    (hoffered : Offered s d) {client : Nat} (hclient : s.client = some client)
    (hphase : d.phase = .challenged client s.who) (hshown : Stands s₀ shown s d)
    (hfactor : s.selectedFactor.isSome) :
    Co.Conforms dialogue (Leaves s₀ shown) (fireMfa branch) s d := by
  obtain ⟨factor, hselected⟩ := Option.isSome_iff_exists.mp hfactor
  simp only [fireMfa, assertion, Co.conforms_bind, Co.conforms_get, Co.onward_ok, hclient,
    Option.isSome_some, if_true, Co.conforms_pure, hselected, Co.conforms_tryCatch,
    Co.conforms_await]
  intro answer
  refine ⟨d.afterStart client s.who answer, ?_, ?_⟩
  · have hknown := hoffered.selected factor hselected
    simp only [dialogue, Standing.hear, hphase, hclient, hknown, and_self, if_true]
  cases answer with
  | ok sent =>
    obtain ⟨code, cookieJar⟩ := sent
    simp only [Co.onward_ok, Co.conforms_bind, Co.conforms_modify, Co.conforms_pure,
      Co.rescued_ok]
    have hsame' : Unwritten s₀ (keepCookies cookieJar { s with factorAuthCode := code }) :=
      ⟨hsame.entry, hsame.source, hsame.stored⟩
    have hoffered' : Offered (keepCookies cookieJar { s with factorAuthCode := code })
        (d.afterStart client s.who (.ok (code, cookieJar))) :=
      ⟨hoffered.factors, hoffered.selected⟩
    split
    · exact ⟨hsame', hoffered', hbranch.push hclient rfl⟩
    · exact showOtp_conforms hbranch hsame' hoffered' hclient rfl hfactor none
  | error err =>
    have haborts : ∀ reason, Leaves s₀ shown (cleanupClient s) d (.ok (.abort reason)) :=
      abort_leaves hsame
    simp only [Co.onward_error, Co.rescued_error]
    cases hrate : err.isRateLimitedError with
    | true => exact haborts "rate_limited"
    | false =>
      cases hauth : err.isAuthenticationError with
      | true => exact haborts "push_timeout"
      | false => exact (⟨hsame, hoffered, hshown⟩ : Agrees s₀ shown s d)

theorem stepPickFactor_conforms (hbranch : Stations s₀ branch) (hsame : Unwritten s₀ s)
    (hoffered : Offered s d) {client : Nat} (hclient : s.client = some client)
    (hphase : d.phase = .challenged client s.who) (pickedId : String) :
    Co.Conforms dialogue (Leaves s₀ branch.pick) (stepPickFactor branch (some pickedId)) s d := by
  simp only [stepPickFactor, Co.conforms_bind, Co.conforms_modify, Co.onward_ok, Co.conforms_get]
  cases hfind : s.factors.find? fun factor => factor.factorId = pickedId with
  | some factor =>
    simp only [Option.isNone_some, Bool.false_eq_true, if_false]
    have hmem : factor ∈ s.factors := List.mem_of_find?_eq_some hfind
    have hsame' : Unwritten s₀ { s with selectedFactor := some factor } :=
      ⟨hsame.entry, hsame.source, hsame.stored⟩
    have hoffered' : Offered { s with selectedFactor := some factor } d := by
      refine ⟨hoffered.factors, ?_⟩
      intro selected hselected
      cases hselected
      exact hoffered.factors factor hmem
    apply fireMfa_conforms hbranch hsame' hoffered' hclient
    · exact hphase
    · exact hbranch.pick hclient hphase
    · rfl
  | none =>
    dsimp only
    split
    · exact ⟨hsame, hoffered, hbranch.pick hclient hphase⟩
    next hselected =>
      have hfactor : s.selectedFactor.isSome := by simpa [Option.isSome_iff_ne_none] using hselected
      exact fireMfa_conforms hbranch hsame hoffered hclient hphase (hbranch.pick hclient hphase)
        hfactor

theorem secondFactor_conforms (hbranch : Stations s₀ branch) (hsame : Unwritten s₀ s)
    {client : Nat} (hclient : s.client = some client) (hphase : d.phase = .challenged client s.who)
    (hselected : ∀ factor, s.selectedFactor = some factor → factor ∈ d.offered)
    {factors : List SecondFactor} (hfactors : ∀ factor ∈ factors, factor ∈ d.offered)
    (hshown : ∀ t : FlowState, Stands s₀ shown t d) :
    Co.Conforms dialogue (Leaves s₀ shown) (secondFactor branch factors) s d := by
  simp only [secondFactor, Co.conforms_bind, Co.conforms_modify, Co.onward_ok]
  have hpick : Agrees s₀ branch.pick { s with factors } d :=
    ⟨⟨hsame.entry, hsame.source, hsame.stored⟩, ⟨hfactors, hselected⟩, hbranch.pick hclient hphase⟩
  match factors, hpick with
  | [], hpick => exact hpick
  | [factor], _ =>
    simp only [Co.conforms_bind, Co.conforms_modify, Co.onward_ok]
    have hoffered : Offered { s with factors := [factor], selectedFactor := some factor } d := by
      refine ⟨hfactors, ?_⟩
      intro selected hsel
      cases hsel
      exact hfactors factor List.mem_cons_self
    have hsame' : Unwritten s₀ { s with factors := [factor], selectedFactor := some factor } :=
      ⟨hsame.entry, hsame.source, hsame.stored⟩
    apply fireMfa_conforms hbranch hsame' hoffered hclient
    · exact hphase
    · exact hshown _
    · rfl
  | _ :: _ :: _, hpick => exact hpick

theorem finishAuth_conforms (hbranch : Stations s₀ branch) (hsame : Unwritten s₀ s)
    (hoffered : Offered s d) {client : Nat} (hclient : s.client = some client)
    (hphase : d.phase = .fired client s.who s.factorAuthCode) (hshown : Stands s₀ shown s d)
    {otp : Option String} {refused pending : Step FlowResult}
    (hrefused : Co.Conforms dialogue (Leaves s₀ shown) refused s d)
    (hpending : ∀ t : FlowState, Unwritten s₀ t → Offered t d → t.client = some client →
      d.phase = .fired client t.who t.factorAuthCode → t.selectedFactor = s.selectedFactor →
      Co.Conforms dialogue (Leaves s₀ shown) pending t d) :
    Co.Conforms dialogue (Leaves s₀ shown) (finishAuth branch otp refused pending) s d := by
  simp only [finishAuth, Co.conforms_bind, Co.conforms_get, Co.onward_ok, Co.conforms_tryCatch,
    Co.conforms_await]
  intro answer
  refine ⟨d.afterFinish s.who answer, ?_, ?_⟩
  · simp only [dialogue, Standing.hear, hphase, hclient, and_self, if_true]
  cases answer with
  | ok finished =>
    obtain ⟨approved, cookieJar⟩ := finished
    simp only [Co.onward_ok, Co.conforms_bind, Co.conforms_modify, Co.conforms_pure,
      Co.rescued_ok]
    have hsame' : Unwritten s₀ (keepCookies cookieJar s) :=
      ⟨hsame.entry, hsame.source, hsame.stored⟩
    cases approved with
    | true =>
      simp only [Co.conforms_bind, Co.conforms_modify, Co.onward_ok]
      have hoffered' : Offered (keepCookies cookieJar s)
          (d.afterFinish s.who (.ok (true, cookieJar))) := ⟨hoffered.factors, hoffered.selected⟩
      apply hbranch.approved shown hsame'.cleanup hoffered'.cleanup
      · unfold cleanupClient
        split <;> rfl
      · rw [who_cleanupClient]
        rfl
    | false =>
      have hoffered' : Offered (keepCookies cookieJar s) d :=
        ⟨hoffered.factors, hoffered.selected⟩
      exact hpending _ hsame' hoffered' hclient hphase rfl
  | error err =>
    have haborts : ∀ reason, Leaves s₀ shown (cleanupClient s) d (.ok (.abort reason)) :=
      abort_leaves hsame
    simp only [Co.onward_error, Co.rescued_error]
    cases hrate : err.isRateLimitedError with
    | true => exact haborts "rate_limited"
    | false =>
      cases hauth : err.isAuthenticationError with
      | true =>
        simp only [Bool.false_eq_true, if_false, if_true, Co.conforms_map]
        apply hrefused.mono
        intro t e r hleaves
        cases r <;> exact hleaves
      | false => exact (⟨hsame, hoffered, hshown⟩ : Agrees s₀ shown s d)

theorem stepPush_conforms (hbranch : Stations s₀ branch) (hsame : Unwritten s₀ s)
    (hoffered : Offered s d) {client : Nat} (hclient : s.client = some client)
    (hphase : d.phase = .fired client s.who s.factorAuthCode) :
    Co.Conforms dialogue (Leaves s₀ branch.push) (stepPush branch (some ())) s d := by
  simp only [stepPush, Co.conforms_bind, Co.conforms_get, Co.onward_ok, hclient,
    Option.isNone_some, Bool.false_eq_true, if_false]
  apply finishAuth_conforms hbranch hsame hoffered hclient hphase (hbranch.push hclient hphase)
  · have haborts : Leaves s₀ branch.push (cleanupClient s) d (.ok (.abort "push_timeout")) :=
      abort_leaves hsame _
    exact haborts
  · intro t hsame' hoffered' hclient' hphase' _
    exact ⟨hsame', hoffered', hbranch.push hclient' hphase'⟩

/-- The code form again; where its assertion fails, it stays as it is. -/
theorem showOtp_again (hbranch : Stations s₀ branch) (hsame : Unwritten s₀ s)
    (hoffered : Offered s d) {client : Nat} (hclient : s.client = some client)
    (hphase : d.phase = .fired client s.who s.factorAuthCode) (error : Option String) :
    Co.Conforms dialogue (Leaves s₀ branch.otp) (showOtp branch error) s d := by
  have hform : Agrees s₀ branch.otp s d := ⟨hsame, hoffered, hbranch.otp hclient hphase⟩
  simp only [showOtp, assertion, Co.conforms_bind, Co.conforms_get, Co.onward_ok]
  split
  · exact hform
  · exact hform

theorem stepOtp_conforms (hbranch : Stations s₀ branch) (hsame : Unwritten s₀ s)
    (hoffered : Offered s d) {client : Nat} (hclient : s.client = some client)
    (hphase : d.phase = .fired client s.who s.factorAuthCode) (code : String) :
    Co.Conforms dialogue (Leaves s₀ branch.otp) (stepOtp branch (some code)) s d := by
  simp only [stepOtp, Co.conforms_bind, Co.conforms_get, Co.onward_ok, hclient,
    Option.isNone_some, Bool.false_eq_true, if_false]
  apply finishAuth_conforms hbranch hsame hoffered hclient hphase (hbranch.otp hclient hphase)
  · exact showOtp_again hbranch hsame hoffered hclient hphase _
  · intro t hsame' hoffered' hclient' hphase' _
    exact showOtp_again hbranch hsame' hoffered' hclient' hphase' _

theorem enterAndLogin_conforms {α : Type} {f : Unit → Step α} {g : Exc → Step α}
    {Q : FlowState → Standing → Except Exc α → Prop} (hfresh : d.Fresh)
    (hok : ∀ cookieJar, Co.Conforms dialogue (Co.Rescued dialogue Q g) (f ())
      (keepCookies cookieJar (openSession (newClient s)))
      { d with phase := .vouched s.who cookieJar })
    (herror : ∀ err, Co.Conforms dialogue Q (g err) (openSession (newClient s))
      (d.afterLogin s.clients s.who (.error err))) :
    Co.Conforms dialogue Q (tryCatch (enterAndLogin >>= f) g) (newClient s) d := by
  simp only [enterAndLogin, Co.conforms_bind, Co.conforms_modify, Co.onward_ok,
    Co.conforms_tryCatch, Co.conforms_await]
  intro answer
  refine ⟨d.afterLogin s.clients s.who answer, ?_, ?_⟩
  · unfold Standing.Fresh at hfresh
    simp only [dialogue, Standing.hear, openSession, newClient]
    split at hfresh
    next hphase => rw [hphase]; rfl
    next hphase => rw [hphase]; rfl
    next => exact hfresh.elim
    next => exact hfresh.elim
  cases answer with
  | ok cookieJar => exact hok cookieJar
  | error err => exact herror err

theorem fresh_afterLogin (d : Standing) (client : Nat) (who : Credentials) (err : Exc) :
    (d.afterLogin client who (.error err)).Fresh := by
  cases err <;> exact trivial

/-- A refused login offers more factors, or none. -/
theorem Offered.afterLogin (h : Offered s d) (client : Nat) (who : Credentials) (err : Exc) :
    Offered s (d.afterLogin client who (.error err)) := by
  cases err with
  | mfaRequired factors =>
    constructor
    · intro factor hfactor
      exact List.mem_append_left _ (h.factors factor hfactor)
    · intro factor hfactor
      exact List.mem_append_left _ (h.selected factor hfactor)
  | _ => exact ⟨h.factors, h.selected⟩

theorem asyncStepUser_conforms (h : Agrees s₀ .user s d) (username password : String) :
    Co.Conforms dialogue (Leaves s₀ .user) (asyncStepUser (some (username, password))) s d := by
  obtain ⟨⟨hentry, hsource, -⟩, hoffered, hsetup, hfresh⟩ := h
  have hsame : ∀ t : FlowState, t.entry = s.entry → t.source = s.source → Unwritten s₀ t :=
    fun t he hs => ⟨he.trans hentry, hs.trans hsource, fun hnot => absurd hsetup hnot⟩
  simp only [asyncStepUser, Co.conforms_bind, Co.conforms_await]
  intro uuid
  refine ⟨d, rfl, ?_⟩
  cases uuid with
  | error err => exact ⟨hsame s rfl rfl, hoffered, hsetup, hfresh⟩
  | ok uuid =>
    simp only [Co.onward_ok, Co.conforms_bind, Co.conforms_modify]
    apply enterAndLogin_conforms hfresh
    · intro cookieJar
      exact ⟨hsame _ rfl rfl, ⟨hoffered.factors, hoffered.selected⟩, cookieJar, rfl, rfl⟩
    · intro err
      have hoffered' : Offered { s with username, password, deviceId := "eisenberg-" ++ uuid }
          (d.afterLogin s.clients ⟨username, password, "eisenberg-" ++ uuid⟩ (.error err)) :=
        ⟨(hoffered.afterLogin _ _ err).factors, (hoffered.afterLogin _ _ err).selected⟩
      have hfresh' := fresh_afterLogin d s.clients ⟨username, password, "eisenberg-" ++ uuid⟩ err
      have hentered : Unwritten s₀ (openSession (newClient
          { s with username, password, deviceId := "eisenberg-" ++ uuid })) := hsame _ rfl rfl
      split
      next factors =>
        apply secondFactor_conforms stations_setupBranch hentered
        · rfl
        · rfl
        · exact hoffered'.selected
        · intro factor hfactor
          exact List.mem_append_right _ hfactor
        · intro t
          exact ⟨hsetup, hfresh'⟩
      next =>
        split
        · exact ⟨hsame _ rfl rfl, ⟨hoffered'.factors, hoffered'.selected⟩, hsetup, hfresh'⟩
        · split
          · exact ⟨hsame _ rfl rfl, ⟨hoffered'.factors, hoffered'.selected⟩, hsetup, hfresh'⟩
          · split
            · exact ⟨hsame _ rfl rfl, ⟨hoffered'.factors, hoffered'.selected⟩, hsetup, hfresh'⟩
            · exact ⟨hsame _ rfl rfl, ⟨hoffered'.factors, hoffered'.selected⟩, hsetup, hfresh'⟩

theorem loginReauth_conforms (hsame : Unwritten s₀ s) (hoffered : Offered s d) (hfresh : d.Fresh)
    (hshown : ∀ t e, e.Fresh → Stands s₀ shown t e) (rejected : Option String) :
    Co.Conforms dialogue (Leaves s₀ shown) (loginReauth rejected) s d := by
  have hsame' : Unwritten s₀ (openSession (newClient s)) :=
    ⟨hsame.entry, hsame.source, hsame.stored⟩
  simp only [loginReauth, Co.conforms_bind, Co.conforms_modify, Co.onward_ok]
  apply enterAndLogin_conforms hfresh
  · intro cookieJar
    have hjar : Unwritten s₀ (keepCookies cookieJar (openSession (newClient s))) :=
      ⟨hsame.entry, hsame.source, hsame.stored⟩
    simp only [Co.conforms_pure, Co.rescued_ok, Co.onward_ok, Co.conforms_bind, Co.conforms_modify]
    apply finalizeReauth_conforms hjar.cleanup
    · rfl
    · rfl
  · intro err
    have hoffered' := hoffered.afterLogin s.clients s.who err
    have hfresh' := fresh_afterLogin d s.clients s.who err
    split
    next factors =>
      simp only [Co.conforms_map]
      have hsecond : Co.Conforms dialogue (Leaves s₀ shown) (secondFactor reauthBranch factors)
          (openSession (newClient s))
          (d.afterLogin s.clients s.who (.error (.mfaRequired factors))) := by
        apply secondFactor_conforms stations_reauthBranch hsame'
        · rfl
        · rfl
        · exact hoffered'.selected
        · intro factor hfactor
          exact List.mem_append_right _ hfactor
        · intro t
          exact hshown t _ hfresh'
      apply hsecond.mono
      intro t e r hleaves
      cases r <;> exact hleaves
    next =>
      cases hrate : err.isRateLimitedError with
      | true => exact Or.inl hsame.entry
      | false =>
        cases hauth : err.isAuthenticationError with
        | true => exact ⟨hsame'.cleanup, ⟨hoffered'.factors, hoffered'.selected⟩, hfresh'⟩
        | false =>
          exact (⟨hsame', ⟨hoffered'.factors, hoffered'.selected⟩, hshown _ _ hfresh'⟩ :
            Agrees s₀ shown (openSession (newClient s)) _)

theorem asyncStepMediaStorage_conforms (h : Agrees s₀ .mediaStorage s d) (mediaDir : String) :
    Co.Conforms dialogue (Leaves s₀ .mediaStorage) (asyncStepMediaStorage (some mediaDir)) s d := by
  obtain ⟨hsame, hoffered, cookieJar, hjar, hphase⟩ := h
  simp only [asyncStepMediaStorage, Co.conforms_bind, Co.conforms_get, Co.onward_ok,
    Co.conforms_await]
  intro answer
  refine ⟨d, rfl, ?_⟩
  match answer with
  | .error err => exact ⟨hsame, hoffered, cookieJar, hjar, hphase⟩
  | .ok (some reason) => exact Or.inl hsame.entry
  | .ok none =>
    refine ⟨hsame.entry, s.who, cookieJar, hphase, rfl, ?_⟩
    rw [newEntry, hjar]
    rfl

end Steps

/-! ## Runs -/

/-- Every step keeps the dialogue, from where the shown form stands. -/
theorem submitted_conforms {s₀ s : FlowState} {d : Standing} {shown : StepId} {input : UserInput}
    {step : Step FlowResult} (hstep : submitted shown input = some step)
    (h : Agrees s₀ shown s d) : Co.Conforms dialogue (Leaves s₀ shown) step s d := by
  obtain ⟨hsame, hoffered, hstands⟩ := h
  cases shown <;> cases input <;> simp only [submitted, Option.some.injEq, reduceCtorEq] at hstep
  all_goals subst hstep
  case user.credentials username password =>
    exact asyncStepUser_conforms ⟨hsame, hoffered, hstands⟩ username password
  case pickFactor.factor pickedId =>
    obtain ⟨client, hclient, hphase⟩ := hstands
    exact stepPickFactor_conforms stations_setupBranch hsame hoffered hclient hphase pickedId
  case pushApproval.confirmed =>
    obtain ⟨client, hclient, hphase⟩ := hstands
    exact stepPush_conforms stations_setupBranch hsame hoffered hclient hphase
  case otpEntry.otp code =>
    obtain ⟨client, hclient, hphase⟩ := hstands
    exact stepOtp_conforms stations_setupBranch hsame hoffered hclient hphase code
  case mediaStorage.mediaDir mediaDir =>
    exact asyncStepMediaStorage_conforms ⟨hsame, hoffered, hstands⟩ mediaDir
  case reauthConfirm.confirmed =>
    have hfresh : ∀ t (e : Standing), e.Fresh → Stands s₀ .reauthConfirm t e := fun _ _ h => h
    exact loginReauth_conforms hsame hoffered hstands hfresh none
  case reauthPassword.password password =>
    have hsame' : Unwritten s₀ { s with password } := ⟨hsame.entry, hsame.source, hsame.stored⟩
    have hfresh : ∀ t (e : Standing), e.Fresh → Stands s₀ .reauthPassword t e := fun _ _ h => h
    exact loginReauth_conforms hsame' ⟨hoffered.factors, hoffered.selected⟩ hstands hfresh
      (some "invalid_auth")
  case reauthPickFactor.factor pickedId =>
    obtain ⟨client, hclient, hphase⟩ := hstands
    exact stepPickFactor_conforms stations_reauthBranch hsame hoffered hclient hphase pickedId
  case reauthPush.confirmed =>
    obtain ⟨client, hclient, hphase⟩ := hstands
    exact stepPush_conforms stations_reauthBranch hsame hoffered hclient hphase
  case reauthOtp.otp code =>
    obtain ⟨client, hclient, hphase⟩ := hstands
    exact stepOtp_conforms stations_reauthBranch hsame hoffered hclient hphase code

/-- What a submission exchanges with Arlo and Home Assistant. -/
def FlowRun.exchanges (run : FlowRun) (submission : Submission) :
    List (Co.Exchange FlowState Exc FlowReply) :=
  match submitted run.shown submission.input with
  | some step => step.journal (fun _ => submission.outcomes.answer) 0 run.flow
  | none => []

/-- What a flow exchanges over a list of submissions. -/
def exchanged : FlowRun → List Submission → List (Co.Exchange FlowState Exc FlowReply)
  | _, [] => []
  | run, submission :: later =>
    run.exchanges submission ++
      match flowMachine.step run submission with
      | some run' => exchanged run' later
      | none => []

/-- The flow and the dialogue side by side. -/
def InStep (s₀ : FlowState) (run : FlowRun) (d : Standing) : Prop :=
  Leaves s₀ run.shown run.flow d run.last

theorem inStep_begin (start : FlowStart) :
    InStep (FlowRun.begin start).flow (.begin start) {} := by
  have hoffered : ∀ s : FlowState, s.factors = [] → s.selectedFactor = none → Offered s {} := by
    intro s hfactors hselected
    constructor
    · intro factor hfactor
      rw [hfactors] at hfactor
      cases hfactor
    · intro factor hfactor
      rw [hselected] at hfactor
      cases hfactor
  cases start with
  | user => exact ⟨⟨rfl, rfl, fun _ => ⟨rfl, rfl⟩⟩, hoffered _ rfl rfl, rfl, trivial⟩
  | reauth entry uuid => exact ⟨⟨rfl, rfl, fun _ => ⟨rfl, rfl⟩⟩, hoffered _ rfl rfl, trivial⟩
  | reconfigure entry uuid =>
    exact ⟨⟨rfl, rfl, fun _ => ⟨rfl, rfl⟩⟩, hoffered _ rfl rfl, trivial⟩

/-- A form that is shown is the last result, or what a raised exception has left. -/
def Showing (run : FlowRun) : Prop :=
  ∀ stepId error, run.last = .ok (.form stepId error) → run.shown = stepId

theorem showing_after (shown : StepId) (ran : FlowState × Except Exc FlowResult) :
    Showing (.after shown ran) := by
  intro stepId error hlast
  have hran : ran.2 = .ok (.form stepId error) := hlast
  simp only [FlowRun.after, hran]

theorem agrees_of_inStep {s₀ : FlowState} {run : FlowRun} {d : Standing} (h : InStep s₀ run d)
    (hshowing : Showing run) (hover : run.over = false) : Agrees s₀ run.shown run.flow d := by
  unfold InStep at h
  unfold FlowRun.over at hover
  cases hlast : run.last with
  | error err =>
    rw [hlast] at h
    exact h
  | ok result =>
    rw [hlast] at h hover
    cases result with
    | form stepId error =>
      rw [hshowing stepId error hlast]
      exact h
    | abort reason => cases hover
    | createEntry title data mediaDir => cases hover

theorem InStep.step {s₀ : FlowState} {run run' : FlowRun} {d : Standing} {submission : Submission}
    (h : InStep s₀ run d) (hshowing : Showing run)
    (hstep : flowMachine.step run submission = some run') :
    ∃ d', dialogue.run d (run.exchanges submission) = some d' ∧ InStep s₀ run' d' ∧
      Showing run' := by
  obtain ⟨hover, step, hsubmitted, rfl⟩ := step_eq_some hstep
  have hconforms := submitted_conforms hsubmitted (agrees_of_inStep h hshowing hover)
  obtain ⟨d', hrun, hleaves⟩ := hconforms.run (fun _ => submission.outcomes.answer) 0
  have hran : runStep submission.outcomes step run.flow =
      ((step.run (fun _ => submission.outcomes.answer) 0 run.flow).1,
        (step.run (fun _ => submission.outcomes.answer) 0 run.flow).2.1) := Co.runWith_eq _
  refine ⟨d', ?_, ?_, showing_after _ _⟩
  · simp only [FlowRun.exchanges, hsubmitted]
    exact hrun
  · rw [hran]
    unfold InStep FlowRun.after
    dsimp only
    cases hresult : (step.run (fun _ => submission.outcomes.answer) 0 run.flow).2.1 with
    | error err =>
      rw [hresult] at hleaves
      exact hleaves
    | ok result =>
      rw [hresult] at hleaves
      cases result <;> exact hleaves

theorem inStep_run {s₀ : FlowState} {run run' : FlowRun} {d : Standing}
    {submissions : List Submission} (h : InStep s₀ run d) (hshowing : Showing run)
    (hrun : flowMachine.run run submissions = some run') :
    ∃ d', dialogue.run d (exchanged run submissions) = some d' ∧ InStep s₀ run' d' := by
  induction submissions generalizing run d with
  | nil =>
    cases hrun
    exact ⟨d, rfl, h⟩
  | cons submission later ih =>
    obtain ⟨next, hnext, hlater⟩ := flowMachine.run_cons_eq_some.mp hrun
    obtain ⟨e, he, hstep, hshowing'⟩ := h.step hshowing hnext
    obtain ⟨d', hd', hlast⟩ := ih hstep hshowing' hlater
    refine ⟨d', ?_, hlast⟩
    simp only [exchanged, hnext]
    rw [dialogue.run_append, he]
    exact hd'

/-- Over any sequence of submissions and answers, a flow keeps to the dialogue. An entry is created
for the account and with the cookies that Arlo let in, and under its name; an entry is updated only
then, and keeps its account and its device. -/
theorem entry_is_vouched_for (start : FlowStart) {submissions : List Submission} {run : FlowRun}
    (hrun : flowMachine.run (.begin start) submissions = some run) :
    ∃ d, dialogue.run {} (exchanged (.begin start) submissions) = some d ∧
      (∀ title data mediaDir, run.last = .ok (.createEntry title data mediaDir) →
        ∃ who cookieJar, d.phase = .vouched who cookieJar ∧ title = who.username ∧
          data = entryFor who cookieJar) ∧
      (run.flow.entry ≠ (FlowRun.begin start).flow.entry →
        Reauthenticated (FlowRun.begin start).flow run.flow d) := by
  have hshowing : Showing (.begin start) := by
    intro stepId error hlast
    cases start <;> cases hlast <;> rfl
  obtain ⟨d, hd, hleaves⟩ := inStep_run (inStep_begin start) hshowing hrun
  refine ⟨d, hd, ?_, ?_⟩
  · intro title data mediaDir hlast
    unfold InStep at hleaves
    rw [hlast] at hleaves
    exact hleaves.2
  · intro hchanged
    unfold InStep at hleaves
    cases hlast : run.last with
    | error err =>
      rw [hlast] at hleaves
      exact absurd hleaves.unwritten.entry hchanged
    | ok result =>
      rw [hlast] at hleaves
      cases result with
      | form stepId error => exact absurd hleaves.unwritten.entry hchanged
      | abort reason => exact hleaves.resolve_left hchanged
      | createEntry title data mediaDir => exact absurd hleaves.1 hchanged

/-! ### A setup with a push -/

/-- Arlo challenges the login with one factor, and the user approves it on the phone. -/
def approvedPush : Outcomes where
  login := .error (.mfaRequired [pushFactor])
  startMfa := .ok ("CODE", [])
  tryFinishAuth := .ok (true, [])
  uniqueId := none
  uuid := "0"
  loginRaises := Eq.refl true

def approvedSetup : List Submission :=
  [⟨.credentials "user@example.com" "secret", approvedPush⟩, ⟨.confirmed, approvedPush⟩,
    ⟨.mediaDir MEDIA_DIR_DISABLED, approvedPush⟩]

theorem entry_is_vouched_for_push : ∃ d who cookieJar,
    dialogue.run {} (exchanged (.begin .user) approvedSetup) = some d ∧
      d.phase = .vouched who cookieJar ∧ who.username = "user@example.com" := by
  have hrun : ∃ run data, flowMachine.run (.begin .user) approvedSetup = some run ∧
      run.last = .ok (.createEntry "user@example.com" data "") := ⟨_, _, rfl, rfl⟩
  obtain ⟨run, data, hrun, hlast⟩ := hrun
  obtain ⟨d, hd, hcreated, -⟩ := entry_is_vouched_for .user hrun
  obtain ⟨who, cookieJar, hphase, htitle, -⟩ := hcreated _ _ _ hlast
  exact ⟨d, who, cookieJar, hd, hphase, htitle.symm⟩

end Eisenberg.Flow
