import Eisenberg.Coordinator.Heeding
import Eisenberg.Coordinator.Operations

/-!
# Calls while the session is dead

Which of the coordinator's operations ask Arlo for something over a dead session: the refetch of a
revision, the base stations and the device list do not go through `call_with_session_retry`, so they
do whenever their turn comes while the block is set.
-/

namespace Eisenberg.Coordinator

open Framework

abbrev ArloCause := SegmentCause ArloAnswers

def isRest : ArloRequest → Bool
  | .rest _ => true
  | _ => false

def isRegistration : Request ArloRequest → Bool
  | .client (.rest (.registerEventSubscription _)) => true
  | _ => false

def isRefetch : Request ArloRequest → Bool
  | .client (.rest (.getActiveMode _)) => true
  | _ => false

/-! ## Calls made without looking -/

/-- A base station has answered, and there is more to ask: its state after it has registered,
whatever else `more` says when it is done. -/
def BaseAnswered (more : Prop) : ArloCause → Prop
  | .answered (.client (.rest (.registerEventSubscription _))) (.ok _) => True
  | .answered (.client (.rest (.registerEventSubscription _))) (.error err) =>
    err.isException = true ∧ more
  | .answered (.client (.rest (.requestDeviceStates _))) (.ok _) => more
  | .answered (.client (.rest (.requestDeviceStates _))) (.error err) =>
    err.isException = true ∧ more
  | _ => False

/-- The PUT of a mode, or the login for its second try, has come back with an API error, and the
revision has not been refetched. -/
def RefetchDue (sent : List (Request ArloRequest)) : ArloCause → Prop
  | .answered (.client (.rest (.setActiveMode _ _ _ _))) (.error err) =>
    err.isAPIError = true ∧ ∀ i ∈ sent, isRefetch i = false
  | .answered .login (.error err) => err.isAPIError = true ∧ ∀ i ∈ sent, isRefetch i = false
  | _ => False

/-- What an operation does next is a call of the client that does not look at the block; from what
it has sent so far, and what has just come back. There are `bases` base stations. -/
def Unguarded (bases : Nat) : Operation → List (Request ArloRequest) → ArloCause → Prop
  | .entityCommand _, _, _ => False
  | .requestSnapshot _, _, _ => False
  | .setActiveMode _ _, sent, cause => RefetchDue sent cause
  | .refreshDevices, _, .started => True
  | .refreshDevices, _, _ => False
  | .bringUpBaseStations _, _, .started => 0 < bases
  | .bringUpBaseStations _, sent, cause => BaseAnswered (sent.countP isRegistration < bases) cause
  | .healthTick _ _, _, .answered (.client .pruneOldMedia) (.ok _) => True
  | .healthTick _ _, _, cause => BaseAnswered True cause

abbrev Heeds (unguarded : List (Request ArloRequest) → ArloCause → Prop)
    (devices : List DeviceInfo) :=
  HeedsExcept (ρ := ArloAnswers) isRest unguarded devices

/-- How an operation is traced: it heeds the block at each request and at its end. -/
abbrev TracedHeeding {α : Type} (unguarded : List (Request ArloRequest) → ArloCause → Prop)
    (devices : List DeviceInfo)
    (Q : List (Request ArloRequest) → ArloCause → CoordinatorState → CoordinatorState →
      Except Exc α → Prop) :=
  Co.Traced (fun t => t.devices = devices)
    (fun history cause s₀ s i => Heeds unguarded devices history cause s₀ s (some i)) Q

section Upkeep

variable {unguarded : List (Request ArloRequest) → ArloCause → Prop} {devices : List DeviceInfo}
  {history : List (Request ArloRequest)} {cause : ArloCause} {s₀ s : CoordinatorState} {α : Type}

/-- How a call of the client ends. -/
structure RestAnswered (method : Client.Method) (devices : List DeviceInfo)
    (history history' : List (Request ArloRequest)) (cause' : ArloCause)
    (s₀ s : CoordinatorState) (r : Except Exc (ArloAnswers (.rest method))) : Prop where
  unchanged : s = s₀
  devices_eq : s.devices = devices
  sent : history' = history ++ [.client (.rest method)]
  answer : cause' = .answered (.client (.rest method)) r

theorem rest_traced {method : Client.Method} (hdevices : s.devices = devices)
    (hflag : s.authIsDead = s₀.authIsDead) (hunguarded : unguarded history cause) :
    TracedHeeding unguarded devices (RestAnswered method devices history) history cause s₀ s
      (rest method) :=
  ⟨.of_unguarded hdevices hflag rfl hunguarded, fun _ _ ht => ⟨rfl, ht, rfl, rfl⟩⟩

theorem heeds_unchanged (hdevices : s.devices = devices) (hguarded : ¬ unguarded history cause) :
    Heeds unguarded devices history cause s s none :=
  .of_silent hdevices id (fun _ => hguarded) nofun

/-- An exception that is logged ends in a return, any other one where it was raised. -/
theorem logged_traced {c : ArloAsync Unit}
    {P Q : List (Request ArloRequest) → ArloCause → CoordinatorState → CoordinatorState →
      Except Exc Unit → Prop}
    (hc : TracedHeeding unguarded devices P history cause s₀ s c)
    (hreturned : ∀ history cause s₀ s, P history cause s₀ s (.ok ()) →
      Q history cause s₀ s (.ok ()))
    (hlogged : ∀ history cause s₀ s err, err.isException = true →
      P history cause s₀ s (.error err) → Q history cause s₀ s (.ok ()))
    (hraised : ∀ history cause s₀ s err, err.isException = false →
      P history cause s₀ s (.error err) → Q history cause s₀ s (.error err)) :
    TracedHeeding unguarded devices Q history cause s₀ s (logged c) := by
  unfold logged
  refine hc.handle ?_ ?_
  · intro history' cause' s₁ s' _ h
    exact hreturned history' cause' s₁ s' h
  · intro history' cause' s₁ s' err h
    split
    next herr => exact hlogged history' cause' s₁ s' err herr h
    next herr => exact hraised history' cause' s₁ s' err (by simpa using herr) h

theorem refreshDevices_traced (hdevices : s.devices = devices)
    (hflag : s.authIsDead = s₀.authIsDead) (hunguarded : unguarded history cause)
    (hafter : ∀ history r, ¬ unguarded history (.answered (.client (.rest .getDevices)) r)) :
    TracedHeeding unguarded devices
      (fun history cause s₀ s _ => Heeds unguarded devices history cause s₀ s none)
      history cause s₀ s refreshDevices := by
  unfold refreshDevices
  refine logged_traced (P := fun history cause s₀ s _ =>
    Heeds unguarded devices history cause s₀ s none) ?_ ?_ ?_ ?_
  · refine (rest_traced hdevices hflag hunguarded).bind ?_ ?_
    · rintro history' cause' s₁ s' a ⟨rfl, hs', rfl, rfl⟩
      exact heeds_unchanged hs' (hafter _ _)
    · rintro history' cause' s₁ s' err ⟨rfl, hs', rfl, rfl⟩
      exact heeds_unchanged hs' (hafter _ _)
  · exact fun _ _ _ _ h => h
  · exact fun _ _ _ _ _ _ h => h
  · exact fun _ _ _ _ _ _ h => h

/-! ### The base stations -/

/-- Base stations are still to be asked, or something comes after them. -/
def MoreToAsk (bases : Nat) (tail : Prop) (history : List (Request ArloRequest)) : Prop :=
  history.countP isRegistration < bases ∨ tail

/-- What the answer of a base station leaves to be asked. -/
structure AsksBases (unguarded : List (Request ArloRequest) → ArloCause → Prop) (bases : Nat)
    (tail : Prop) : Prop where
  registered : ∀ history baseId,
    unguarded history (.answered (.client (.rest (.registerEventSubscription baseId))) (.ok ()))
  unregistered : ∀ history baseId err,
    unguarded history
        (.answered (.client (.rest (.registerEventSubscription baseId))) (.error err)) ↔
      err.isException = true ∧ MoreToAsk bases tail history
  asked : ∀ history baseId,
    unguarded history (.answered (.client (.rest (.requestDeviceStates baseId))) (.ok ())) ↔
      MoreToAsk bases tail history
  unasked : ∀ history baseId err,
    unguarded history (.answered (.client (.rest (.requestDeviceStates baseId))) (.error err)) ↔
      err.isException = true ∧ MoreToAsk bases tail history

/-- Where the loop over the base stations stands when those of `left` are still to come. -/
def BasesLeft (unguarded : List (Request ArloRequest) → ArloCause → Prop)
    (devices : List DeviceInfo) (bases : Nat) (tail : Prop) (left : List String)
    (history : List (Request ArloRequest)) (cause : ArloCause) (s₀ s : CoordinatorState) :
    Except Exc Unit → Prop
  | .ok () => s.devices = devices ∧ s.authIsDead = s₀.authIsDead ∧
      history.countP isRegistration + left.length = bases ∧
      (unguarded history cause ↔ left ≠ [] ∨ tail)
  | .error _ => Heeds unguarded devices history cause s₀ s none

variable {bases : Nat} {tail : Prop}

theorem basesLeft_of_more {left : List String} (hdevices : s.devices = devices)
    (hcount : history.countP isRegistration + left.length = bases)
    (hmore : unguarded history cause ↔ MoreToAsk bases tail history) :
    BasesLeft unguarded devices bases tail left history cause s s (.ok ()) := by
  refine ⟨hdevices, rfl, hcount, hmore.trans ?_⟩
  unfold MoreToAsk
  rw [← List.length_pos_iff]
  refine or_congr_left ?_
  omega

theorem bringUpBase_eq (baseId : String) :
    bringUpBase baseId = .call (.client (.rest (.registerEventSubscription baseId))) fun r =>
      match r with
      | .ok _ => logged (rest (.requestDeviceStates baseId))
      | .error err => if err.isException = true then .ret (.ok ()) else .ret (.error err) := by
  change Co.call _ _ = Co.call _ _
  congr 1
  funext r
  cases r with
  | ok _ => rfl
  | error err =>
    change Co.bind (if err.isException = true then pure false else throw err) _ =
      if err.isException = true then _ else _
    split
    · rfl
    · rfl

theorem bringUpBase_traced (hasks : AsksBases unguarded bases tail) {baseId : String}
    {left : List String} (h : BasesLeft unguarded devices bases tail (baseId :: left) history cause
      s₀ s (.ok ())) :
    TracedHeeding unguarded devices (BasesLeft unguarded devices bases tail left) history cause
      s₀ s (bringUpBase baseId) := by
  obtain ⟨hdevices, hflag, hcount, hnext⟩ := h
  have hunguarded : unguarded history cause := hnext.mpr (Or.inl (List.cons_ne_nil _ _))
  have hregistered : (history ++ [Request.client (ArloRequest.rest
      (.registerEventSubscription baseId))]).countP isRegistration + left.length = bases := by
    rw [List.countP_append]
    simp only [List.length_cons] at hcount
    simp [isRegistration]
    omega
  rw [bringUpBase_eq]
  refine ⟨.of_unguarded hdevices hflag rfl hunguarded, fun r t ht => ?_⟩
  cases r with
  | ok _ =>
    have hasked : ((history ++ [Request.client (ArloRequest.rest
        (.registerEventSubscription baseId))]) ++ [Request.client (ArloRequest.rest
        (.requestDeviceStates baseId))]).countP isRegistration + left.length = bases := by
      rw [List.countP_append]
      simpa [isRegistration] using hregistered
    refine logged_traced (rest_traced ht rfl (hasks.registered _ baseId)) ?_ ?_ ?_
    · rintro history' cause' s₁ s' ⟨rfl, hs', rfl, rfl⟩
      exact basesLeft_of_more hs' hasked (hasks.asked _ baseId)
    · rintro history' cause' s₁ s' err herr ⟨rfl, hs', rfl, rfl⟩
      exact basesLeft_of_more hs' hasked
        ((hasks.unasked _ baseId err).trans (and_iff_right herr))
    · rintro history' cause' s₁ s' err herr ⟨rfl, hs', rfl, rfl⟩
      refine heeds_unchanged hs' fun hnext => ?_
      rw [((hasks.unasked _ baseId err).mp hnext).1] at herr
      cases herr
  | error err =>
    dsimp only
    split
    next herr =>
      exact basesLeft_of_more ht hregistered
        ((hasks.unregistered _ baseId err).trans (and_iff_right herr))
    next herr =>
      exact heeds_unchanged ht fun hnext => herr ((hasks.unregistered _ baseId err).mp hnext).1

theorem bringUpEach_traced (hasks : AsksBases unguarded bases tail) {left : List String}
    (h : BasesLeft unguarded devices bases tail left history cause s₀ s (.ok ())) :
    TracedHeeding unguarded devices (BasesLeft unguarded devices bases tail []) history cause
      s₀ s (bringUpEach left) := by
  induction left generalizing history cause s₀ s with
  | nil => exact h
  | cons baseId left ih =>
    refine (bringUpBase_traced hasks h).bind ?_ ?_
    · intro history' cause' s₁ s' _ hleft
      exact ih hleft
    · intro history' cause' s₁ s' err hraised
      exact hraised

theorem bringUpBaseStations_traced (hasks : AsksBases unguarded bases tail) (now : Nat)
    (hbases : bases = (baseIds devices).length) (hdevices : s.devices = devices)
    (hflag : s.authIsDead = s₀.authIsDead) (hcount : history.countP isRegistration = 0)
    (hnext : unguarded history cause ↔ 0 < bases ∨ tail) :
    TracedHeeding unguarded devices (BasesLeft unguarded devices bases tail []) history cause
      s₀ s (bringUpBaseStations now) := by
  change Co.Traced _ _ _ _ _ _ _ (bringUpEach (baseIds s.devices))
  refine bringUpEach_traced hasks ⟨hdevices, hflag, ?_, ?_⟩
  · rw [hcount, hdevices, hbases, Nat.zero_add]
  · rw [hnext, hbases, hdevices, List.length_pos_iff]

/-! ### The health tick -/

/-- Nothing but a login, the event stream or the pruning has been sent. -/
def NoneRegistered (unguarded : List (Request ArloRequest) → ArloCause → Prop)
    (devices : List DeviceInfo) (history : List (Request ArloRequest)) (cause : ArloCause)
    (s₀ s : CoordinatorState) : Prop :=
  Heeds unguarded devices history cause s₀ s none ∧ history.countP isRegistration = 0

theorem maybeRenewBaseStations_traced (hasks : AsksBases unguarded bases True) (now : Nat)
    (hbases : bases = (baseIds devices).length) (hdevices : s.devices = devices)
    (hcount : history.countP isRegistration = 0) (hunguarded : unguarded history cause) :
    TracedHeeding unguarded devices
      (fun history cause s₀ s r => match r with
        | .ok () => s.devices = devices ∧ s.authIsDead = s₀.authIsDead ∧ unguarded history cause
        | .error _ => Heeds unguarded devices history cause s₀ s none)
      history cause s s (maybeRenewBaseStations now) := by
  unfold maybeRenewBaseStations
  apply Co.traced_get_bind.mpr
  split
  · exact ⟨hdevices, rfl, hunguarded⟩
  · refine (bringUpBaseStations_traced hasks now hbases hdevices rfl hcount ?_).mono
      (fun _ _ _ _ _ h => h) ?_
    · simp [hunguarded]
    · intro history' cause' s₁ s' r hleft
      cases r with
      | ok _ => exact ⟨hleft.1, hleft.2.1, hleft.2.2.2.mpr (Or.inr trivial)⟩
      | error err => exact hleft

theorem maintain_traced (hasks : AsksBases unguarded bases True)
    (hbases : bases = (baseIds devices).length)
    (hstream : ∀ history r, ¬ unguarded history (.answered (.client .ensureMqtt) r))
    (hpruned : ∀ history now, unguarded history (.answered (.client .pruneOldMedia) (.ok now)))
    (hunpruned : ∀ history err,
      ¬ unguarded history (.answered (.client .pruneOldMedia) (.error err)))
    (hafter : ∀ history r, ¬ unguarded history (.answered (.client (.rest .getDevices)) r))
    (h : NoneRegistered unguarded devices history cause s₀ s) :
    TracedHeeding unguarded devices
      (fun history cause s₀ s _ => Heeds unguarded devices history cause s₀ s none)
      history cause s₀ s maintain := by
  refine ⟨h.1.send ?_, fun r t ht => ?_⟩
  · rintro j ⟨⟩
    rfl
  cases r with
  | error err => exact heeds_unchanged ht (hstream _ _)
  | ok _ =>
    refine ⟨(heeds_unchanged ht (hstream _ _)).send ?_, fun r t ht => ?_⟩
    · rintro j ⟨⟩
      rfl
    cases r with
    | error err => exact heeds_unchanged ht (hunpruned _ err)
    | ok now =>
      refine (maybeRenewBaseStations_traced hasks now hbases ht ?_ (hpruned _ now)).bind ?_ ?_
      · simp [h.2, isRegistration]
      · intro history' cause' s₁ s' _ ⟨hs', hflag, hunguarded⟩
        exact refreshDevices_traced hs' hflag hunguarded hafter
      · intro history' cause' s₁ s' err hraised
        exact hraised

theorem refreshToken_traced (hlogin : ∀ history r, ¬ unguarded history (.answered .login r))
    (hstarted : ¬ unguarded [] .started) (hdevices : s.devices = devices) :
    TracedHeeding unguarded devices
      (fun history cause s₀ s _ => NoneRegistered unguarded devices history cause s₀ s)
      [] .started s s refreshToken := by
  unfold refreshToken
  refine (loginSilent_traced devices ?_).handle ?_ ?_
  · exact (heeds_unchanged hdevices hstarted).send nofun
  · intro history' cause' s₁ s' _ hlogged
    cases hlogged with
    | ok cookieJar _ _ hs' hlive =>
      exact ⟨.of_login hs' hlive (hlogin _ _), rfl⟩
  · intro history' cause' s₁ s' err hlogged
    cases hlogged with
    | error _ _ hs' =>
      have hended : NoneRegistered unguarded devices [.login] (.answered .login (.error err))
          s₁ s₁ := ⟨heeds_unchanged hs' (hlogin _ _), rfl⟩
      split
      · exact hended
      · split
        · exact hended
        · split
          · exact hended
          · exact hended

end Upkeep

/-! ## The setting of a mode -/

section Mode

variable {devices : List DeviceInfo} {history : List (Request ModeRequest)}
  {cause : SegmentCause ModeAnswers} {s₀ s : CoordinatorState}
  {locationId mode : String} {custom : Option (Dict String String)} {location : LocationState}

def IsPut : ModeRequest → Prop
  | .setActiveMode _ _ _ _ => True
  | .getActiveMode _ => False

/-- The revision has not been refetched. -/
def Unfetched (sent : List (Request ModeRequest)) : Prop :=
  ∀ id, .client (.getActiveMode id) ∉ sent

/-- `RefetchDue` among the requests of a mode. -/
def ModeRefetchDue (sent : List (Request ModeRequest)) : SegmentCause ModeAnswers → Prop
  | .answered (.client (.setActiveMode _ _ _ _)) (.error err) =>
    err.isAPIError = true ∧ Unfetched sent
  | .answered .login (.error err) => err.isAPIError = true ∧ Unfetched sent
  | _ => False

abbrev HeedsMode (devices : List DeviceInfo) :=
  HeedsExcept (ρ := ModeAnswers) (fun _ => true) ModeRefetchDue devices

theorem oneRequest_doSet : OneRequest IsPut (doSet location locationId mode custom) := by
  intro devices R history cause s₀ s hR
  exact ⟨hR _ trivial, fun r t ht => ⟨rfl, ht, _, r, trivial, rfl, rfl, fun _ => Iff.rfl⟩⟩

theorem unfetched_append {later : List (Request ModeRequest)}
    (hlater : ∀ i, .client i ∈ later → IsPut i) :
    Unfetched (history ++ later) ↔ Unfetched history := by
  unfold Unfetched
  simp only [List.mem_append, not_or]
  constructor
  · intro h id
    exact (h id).1
  · intro h id
    exact ⟨h id, fun hmem => hlater _ hmem⟩

theorem not_apiError_of_verdict {err : Exc}
    (h : err.isAuthenticationError = true ∨ err.isRateLimitedError = true) :
    err.isAPIError = false := by
  cases err with
  | apiError code message =>
    rcases h with h | h
    · cases h
    · cases h
  | _ => rfl

theorem not_apiError_of_expired {err : Exc} (h : err.isSessionExpiredError = true) :
    err.isAPIError = false := by
  cases err with
  | sessionExpiredError message => rfl
  | _ => cases h

/-- A call to set the mode leaves a refetch due when an API error has ended it. -/
theorem modeRefetchDue_iff {history' : List (Request ModeRequest)}
    {cause' : SegmentCause ModeAnswers} {r : Except Exc ActiveModeState}
    (h : Called IsPut devices history cause history' cause' s₀ s r)
    (hcause : ¬ ModeRefetchDue history cause) :
    ModeRefetchDue history' cause' ↔
      (∃ err, r = .error err ∧ err.isAPIError = true) ∧ Unfetched history := by
  cases h with
  | blocked _ _ hdevices hdead =>
    refine iff_of_false hcause ?_
    rintro ⟨⟨err, herr, hapi⟩, _⟩
    cases herr
    cases hapi
  | returned later hlater i hi r' _ hr _ hdevices =>
    cases i with
    | getActiveMode _ => cases hi
    | setActiveMode _ _ _ _ =>
      cases r' with
      | ok state =>
        refine iff_of_false id ?_
        rintro ⟨⟨err, rfl, _⟩, _⟩
        cases (hr err).mp rfl
      | error err =>
        rw [ModeRefetchDue, unfetched_append hlater, (hr err).mpr rfl]
        simp
  | refused later hlater err _ hdevices =>
    rw [ModeRefetchDue, unfetched_append hlater]
    simp
  | rejected later hlater err herr _ hdevices =>
    rw [ModeRefetchDue, not_apiError_of_verdict herr]
    refine iff_of_false (fun h => by cases h.1) ?_
    rintro ⟨⟨err', herr', hapi⟩, _⟩
    cases herr'
    cases hapi

theorem call_traced (hdevices : s.devices = devices) (hflag : s.authIsDead = s₀.authIsDead) :
    Co.Traced (fun t => t.devices = devices)
      (fun history cause s₀ s i => HeedsMode devices history cause s₀ s (some i))
      (Called IsPut devices history cause) history cause s₀ s
      (callWithSessionRetry (doSet location locationId mode custom)) := by
  refine callWithSessionRetry_traced oneRequest_doSet hdevices hflag ?_ ?_
  · intro history i err herr hdue
    cases i with
    | setActiveMode _ _ _ _ =>
      have hapi := not_apiError_of_expired herr
      rw [hdue.1] at hapi
      cases hapi
    | getActiveMode _ => exact hdue
  · exact fun _ _ h => h

/-- What an API error ends has changed nothing. -/
theorem unchanged_of_apiError {history' : List (Request ModeRequest)}
    {cause' : SegmentCause ModeAnswers} {err : Exc} (hapi : err.isAPIError = true)
    (h : Called IsPut devices history cause history' cause' s₀ s
      (.error err : Except Exc ActiveModeState)) : s = s₀ ∧ s.devices = devices := by
  cases h with
  | blocked _ _ hdevices hdead => cases hapi
  | returned later hlater i hi r' _ hr _ hdevices => exact ⟨rfl, hdevices⟩
  | refused later hlater _ _ hdevices => exact ⟨rfl, hdevices⟩
  | rejected later hlater err herr _ hdevices => cases hapi

theorem putMode_traced (hdevices : s.devices = devices) :
    Co.Traced (fun t => t.devices = devices)
      (fun history cause s₀ s i => HeedsMode devices history cause s₀ s (some i))
      (fun history cause s₀ s _ => HeedsMode devices history cause s₀ s none)
      [] .started s s (putMode location locationId mode custom) := by
  unfold putMode
  refine (call_traced hdevices rfl).handle ?_ ?_
  · intro history cause s₀ s result hcalled
    refine hcalled.heeds ?_
    rw [modeRefetchDue_iff hcalled nofun]
    rintro ⟨⟨err, herr, _⟩, _⟩
    cases herr
  · intro history cause s₀ s err hcalled
    have hdue := modeRefetchDue_iff hcalled nofun
    split
    next hapi =>
      obtain ⟨rfl, hs⟩ := unchanged_of_apiError hapi hcalled
      have hunfetched : Unfetched [] := fun id hmem => by cases hmem
      refine ⟨.of_unguarded hs rfl rfl (hdue.mpr ⟨⟨err, rfl, hapi⟩, hunfetched⟩), fun r t ht => ?_⟩
      cases r with
      | error err => exact .of_silent ht id (fun _ => nofun) nofun
      | ok state =>
        change Co.Traced _ _ _ _ _ t
          (updateLocations (·.setRevision locationId (revisionOrOne state.revision)) t)
          (callWithSessionRetry (doSet location locationId mode custom))
        refine Co.Traced.mono (fun _ _ _ _ _ h => h) ?_ (call_traced ht rfl)
        intro history' cause' s₁ s' r hagain
        refine hagain.heeds ?_
        rw [modeRefetchDue_iff hagain nofun]
        rintro ⟨_, hnone⟩
        exact hnone locationId (List.mem_append_right _ (List.mem_singleton.mpr rfl))
    next hapi =>
      refine hcalled.heeds ?_
      rw [hdue]
      rintro ⟨⟨err', herr', hapi'⟩, _⟩
      cases herr'
      exact hapi hapi'

theorem HeedsExcept.modify {sent : Option (Request ModeRequest)}
    (h : HeedsMode devices history cause s₀ s sent) (f : Locations → Locations) :
    HeedsMode devices history cause s₀ (updateLocations f s) sent :=
  ⟨h.devices_eq, h.cleared, h.exposed⟩

theorem asyncSetActiveMode_traced (locationId label : String) (hdevices : s.devices = devices) :
    Co.Traced (fun t => t.devices = devices)
      (fun history cause s₀ s i => HeedsMode devices history cause s₀ s (some i))
      (fun history cause s₀ s _ => HeedsMode devices history cause s₀ s none)
      [] .started s s (asyncSetActiveMode locationId label) := by
  have hrefused : HeedsMode devices [] .started s s none :=
    .of_silent hdevices id (fun _ => nofun) nofun
  unfold asyncSetActiveMode
  apply Co.traced_get_bind.mpr
  cases s.locations.get? locationId with
  | none => exact hrefused
  | some location =>
    dsimp only
    split
    · exact hrefused
    next mode custom _ =>
      refine (putMode_traced hdevices).bind ?_ ?_
      · intro history cause s₀ s result hheeds
        exact hheeds.modify _
      · intro history cause s₀ s err hheeds
        exact hheeds

/-- `RefetchDue` says the same of the requests under their own names. -/
theorem refetchDue_map_iff {cause' : ArloCause}
    (h : Co.Relabels modeRequest modeReply cause cause') :
    RefetchDue (history.map modeRequest) cause' ↔ ModeRefetchDue history cause := by
  have hsent : (∀ i ∈ history.map modeRequest, isRefetch i = false) ↔ Unfetched history := by
    simp only [List.mem_map, forall_exists_index, and_imp, forall_apply_eq_imp_iff₂]
    constructor
    · intro h id hmem
      cases h _ hmem
    · intro h i hi
      cases i with
      | login => rfl
      | client request =>
        cases request with
        | setActiveMode _ _ _ _ => rfl
        | getActiveMode id => exact absurd hi (h id)
  cases h with
  | started => exact Iff.rfl
  | answered i r =>
    cases i with
    | login =>
      cases r with
      | ok _ => exact Iff.rfl
      | error err => exact and_congr_right fun _ => hsent
    | client request =>
      cases request with
      | setActiveMode _ _ _ _ =>
        cases r with
        | ok _ => exact Iff.rfl
        | error err => exact and_congr_right fun _ => hsent
      | getActiveMode _ => exact Iff.rfl

theorem told_of_login_iff {cause' : ArloCause}
    (h : Co.Relabels modeRequest modeReply cause cause') :
    (∃ cookieJar, cause = .answered .login (.ok cookieJar)) ↔
      ∃ cookieJar, cause' = .answered .login (.ok cookieJar) := by
  cases h with
  | started => exact iff_of_false nofun nofun
  | answered i r =>
    cases i with
    | login =>
      cases r with
      | ok cookieJar => exact iff_of_true ⟨cookieJar, rfl⟩ ⟨cookieJar, rfl⟩
      | error err => exact iff_of_false nofun nofun
    | client request => exact iff_of_false nofun nofun

/-- The setting of a mode heeds the block as it does under the names of its own requests. -/
theorem HeedsExcept.relabel {cause' : ArloCause} {sent : Option (Request ModeRequest)}
    (hcause : Co.Relabels modeRequest modeReply cause cause')
    (h : HeedsMode devices history cause s₀ s sent) :
    Heeds RefetchDue devices (history.map modeRequest) cause' s₀ s (sent.map modeRequest) where
  devices_eq := h.devices_eq
  cleared hdead hlive := (told_of_login_iff hcause).mp (h.cleared hdead hlive)
  exposed := by
    rw [refetchDue_map_iff hcause, ← h.exposed]
    cases sent with
    | none => exact iff_of_false nofun nofun
    | some i =>
      cases i with
      | login => exact iff_of_false nofun nofun
      | client request =>
        constructor
        · intro ⟨_, _, _, hdead⟩
          exact ⟨request, rfl, rfl, hdead⟩
        · intro ⟨_, _, _, hdead⟩
          exact ⟨.rest request.method, rfl, rfl, hdead⟩

theorem setMode_traced (locationId label : String) (hdevices : s.devices = devices) :
    TracedHeeding RefetchDue devices
      (fun history cause s₀ s _ => Heeds RefetchDue devices history cause s₀ s none)
      [] .started s s (setMode locationId label) := by
  unfold setMode
  apply Co.Traced.relabel_started
  refine (asyncSetActiveMode_traced locationId label hdevices).mono ?_ ?_
  · intro history cause s₀ s i h cause' hcause
    exact h.relabel hcause
  · intro history cause s₀ s r h cause' hcause
    exact h.relabel hcause

end Mode

/-! ## Any operation -/

section Operations

variable {devices : List DeviceInfo} {s : CoordinatorState}

theorem callRest_traced {unguarded : List (Request ArloRequest) → ArloCause → Prop}
    (hnever : ∀ history cause, ¬ unguarded history cause) (method : Client.Method)
    (hdevices : s.devices = devices) :
    TracedHeeding unguarded devices
      (fun history cause s₀ s _ => Heeds unguarded devices history cause s₀ s none)
      [] .started s s (callWithSessionRetry (rest method)) := by
  have hone : OneRequest (fun _ => True) (rest method) := oneRequest_await _ trivial
  refine (callWithSessionRetry_traced hone hdevices rfl (fun _ _ _ _ => hnever _ _)
    fun _ _ => hnever _ _).mono (fun _ _ _ _ _ h => h) ?_
  intro history cause s₀ s r hcalled
  exact hcalled.heeds (hnever _ _)

theorem entityCommand_traced (command : EntityCommand) (bases : Nat)
    (hdevices : s.devices = devices) :
    TracedHeeding (Unguarded bases (.entityCommand command)) devices
      (fun history cause s₀ s _ =>
        Heeds (Unguarded bases (.entityCommand command)) devices history cause s₀ s none)
      [] .started s s (entityCommand command) := by
  unfold entityCommand
  refine (callRest_traced (fun _ _ => id) command.method hdevices).bind ?_ ?_
  · intro history cause s₀ s a hheeds
    exact hheeds
  · intro history cause s₀ s err hheeds
    exact hheeds

theorem requestSnapshot_traced (deviceId : String) (bases : Nat) (hdevices : s.devices = devices) :
    TracedHeeding (Unguarded bases (.requestSnapshot deviceId)) devices
      (fun history cause s₀ s _ =>
        Heeds (Unguarded bases (.requestSnapshot deviceId)) devices history cause s₀ s none)
      [] .started s s (requestSnapshot deviceId) := by
  unfold requestSnapshot
  apply Co.traced_get_bind.mpr
  split
  · exact heeds_unchanged hdevices id
  · refine (callRest_traced (fun _ _ => id) (.requestSnapshot deviceId) hdevices).handle ?_ ?_
    · intro history cause s₀ s a hheeds
      exact hheeds
    · intro history cause s₀ s err hheeds
      split
      · exact hheeds
      · exact hheeds

theorem asksBases_bringUp (bases now : Nat) :
    AsksBases (Unguarded bases (.bringUpBaseStations now)) bases False where
  registered _ _ := trivial
  unregistered _ _ _ := and_congr_right fun _ => (or_iff_left id).symm
  asked _ _ := (or_iff_left id).symm
  unasked _ _ _ := and_congr_right fun _ => (or_iff_left id).symm

theorem asksBases_healthTick (bases : Nat) (client : Client.ClientState) (now : Nat) :
    AsksBases (Unguarded bases (.healthTick client now)) bases True where
  registered _ _ := trivial
  unregistered _ _ _ := and_congr_right fun _ => (or_iff_right_of_imp fun _ => trivial).symm
  asked _ _ := (or_iff_right_of_imp fun _ => trivial).symm
  unasked _ _ _ := and_congr_right fun _ => (or_iff_right_of_imp fun _ => trivial).symm

theorem bringUp_traced (now : Nat) (hdevices : s.devices = devices) :
    TracedHeeding (Unguarded (baseIds devices).length (.bringUpBaseStations now)) devices
      (fun history cause s₀ s _ => Heeds (Unguarded (baseIds devices).length
        (.bringUpBaseStations now)) devices history cause s₀ s none)
      [] .started s s (bringUpBaseStations now) := by
  refine (bringUpBaseStations_traced (asksBases_bringUp _ now) now rfl hdevices rfl rfl
    (or_iff_left id).symm).mono (fun _ _ _ _ _ h => h) ?_
  intro history cause s₀ s r hleft
  cases r with
  | ok _ =>
    obtain ⟨hs, hflag, _, hnext⟩ := hleft
    refine .of_silent hs (fun hdead => hflag.trans hdead) (fun _ hunguarded => ?_) nofun
    simpa using hnext.mp hunguarded
  | error err => exact hleft

theorem healthTick_traced (client : Client.ClientState) (now : Nat)
    (hdevices : s.devices = devices) :
    TracedHeeding (Unguarded (baseIds devices).length (.healthTick client now)) devices
      (fun history cause s₀ s _ => Heeds (Unguarded (baseIds devices).length
        (.healthTick client now)) devices history cause s₀ s none)
      [] .started s s (healthTick (client.tokenNeedsRefresh now)) := by
  have hmaintain : ∀ history cause s₀ s,
      NoneRegistered (Unguarded (baseIds devices).length (.healthTick client now)) devices
        history cause s₀ s →
      TracedHeeding (Unguarded (baseIds devices).length (.healthTick client now)) devices
        (fun history cause s₀ s _ => Heeds (Unguarded (baseIds devices).length
          (.healthTick client now)) devices history cause s₀ s none)
        history cause s₀ s maintain := by
    intro history cause s₀ s hnone
    exact maintain_traced (asksBases_healthTick _ client now) rfl (fun _ _ => id)
      (fun _ _ => trivial) (fun _ _ => id) (fun _ _ => id) hnone
  unfold healthTick
  cases client.tokenNeedsRefresh now with
  | true =>
    refine (refreshToken_traced (fun _ _ => id) id hdevices).bind ?_ ?_
    · intro history cause s₀ s _ hnone
      exact hmaintain history cause s₀ s hnone
    · intro history cause s₀ s err hnone
      exact hnone.1
  | false => exact hmaintain _ _ _ _ ⟨heeds_unchanged hdevices id, rfl⟩

/-- Every operation heeds the block except where it does not look. -/
theorem operate_traced (operation : Operation) (hdevices : s.devices = devices) :
    TracedHeeding (Unguarded (baseIds devices).length operation) devices
      (fun history cause s₀ s _ =>
        Heeds (Unguarded (baseIds devices).length operation) devices history cause s₀ s none)
      [] .started s s (operate operation) := by
  cases operation with
  | entityCommand command => exact entityCommand_traced command _ hdevices
  | requestSnapshot deviceId => exact requestSnapshot_traced deviceId _ hdevices
  | setActiveMode locationId mode => exact setMode_traced locationId mode hdevices
  | bringUpBaseStations now => exact bringUp_traced now hdevices
  | refreshDevices =>
    exact refreshDevices_traced hdevices rfl trivial fun _ _ => id
  | healthTick client now => exact healthTick_traced client now hdevices

/-! ## Runs -/

/-- The segment of an operation that an event runs. -/
def ran (p : OperationPool) :
    OperationEvent → Option (Pool.Segment Operation CoordinatorState Exc ArloReply Unit)
  | .operation event => Pool.segment operate p event
  | .frame _ => none

/-- No REST request is sent while the session is dead, and only a login that returns revives it. -/
structure Blocks (p : OperationPool) (event : OperationEvent) : Prop where
  silent : ∀ seg, ran p event = some seg → ∀ t method k,
    seg.co.advance p.shared = (t, .waiting (.client (.rest method)) k) → t.authIsDead = false
  revived : ∀ q, p.step event = some q → p.shared.authIsDead = true →
    q.shared.authIsDead = false →
    ∃ seg cookieJar, ran p event = some seg ∧ seg.cause = .answered .login (.ok cookieJar)

/-- The session is dead, and what an operation does next is a call that does not look. -/
def CallsUnguarded (p : OperationPool) (event : OperationEvent) : Prop :=
  p.shared.authIsDead = true ∧ ∃ seg, ran p event = some seg ∧
    Unguarded (baseIds p.shared.devices).length seg.arg seg.calls seg.cause

def Sends (devices : List DeviceInfo) (operation : Operation) (history : List (Request ArloRequest))
    (cause : ArloCause) (s₀ s : CoordinatorState) (i : Request ArloRequest) : Prop :=
  Heeds (Unguarded (baseIds devices).length operation) devices history cause s₀ s (some i)

def Ends (devices : List DeviceInfo) (operation : Operation) (history : List (Request ArloRequest))
    (cause : ArloCause) (s₀ s : CoordinatorState) (_ : Except Exc Unit) : Prop :=
  Heeds (Unguarded (baseIds devices).length operation) devices history cause s₀ s none

/-- What all threads of a run keep to. -/
structure Heeding (devices : List DeviceInfo) (p : OperationPool) : Prop where
  devices_eq : p.shared.devices = devices
  threads : ∀ th ∈ p.threads, th.Traced (fun t => t.devices = devices) (Sends devices)
    (Ends devices)

theorem heeding_step {p q : OperationPool} {event : OperationEvent} (hp : Heeding devices p)
    (h : p.step event = some q) : Heeding devices q := by
  cases event with
  | operation event =>
    obtain ⟨hshared, hthreads⟩ := Pool.step_traced
      (fun operation s hs => operate_traced operation hs) (fun _ _ _ _ _ _ h => h.devices_eq)
      (fun _ _ _ _ _ _ h => h.devices_eq) hp.threads hp.devices_eq h
    exact ⟨hshared, hthreads⟩
  | frame f =>
    cases h
    exact ⟨hp.devices_eq, hp.threads⟩

theorem segment_heeds {p : OperationPool} (hp : Heeding devices p)
    {event : PoolEvent Operation Exc ArloReply}
    {seg : Pool.Segment Operation CoordinatorState Exc ArloReply Unit}
    (hseg : Pool.segment operate p event = some seg) :
    ∃ sent, Heeds (Unguarded (baseIds devices).length seg.arg) devices seg.calls seg.cause
        p.shared (seg.co.advance p.shared).1 sent ∧
      ∀ i, sent = some i ↔ ∃ k, (seg.co.advance p.shared).2 = .waiting i k := by
  have hstop := (Pool.segment_traced (fun operation s hs => operate_traced operation hs)
    hp.threads hp.devices_eq hseg).advance
  cases hend : (seg.co.advance p.shared).2 with
  | done result =>
    rw [hend] at hstop
    exact ⟨none, hstop, fun i => iff_of_false nofun nofun⟩
  | waiting i k =>
    rw [hend] at hstop
    refine ⟨some i, hstop.1, fun i' => ?_⟩
    constructor
    · rintro ⟨⟩
      exact ⟨k, rfl⟩
    · rintro ⟨k', hk⟩
      cases hk
      rfl

theorem shared_of_step {p q : OperationPool} {event : OperationEvent}
    (h : p.step event = some q) :
    q.shared.authIsDead = p.shared.authIsDead ∨
      ∃ seg, ran p event = some seg ∧ q.shared = (seg.co.advance p.shared).1 := by
  cases event with
  | operation event =>
    rcases Pool.step_cases h with ⟨hshared, _⟩ | ⟨seg, hseg, hshared, _⟩
    · exact Or.inl (congrArg _ hshared)
    · exact Or.inr ⟨seg, hseg, hshared⟩
  | frame f =>
    cases h
    exact Or.inl rfl

/-- A step heeds the block just when it is not one that calls without looking. -/
theorem blocks_iff {p : OperationPool} (hp : Heeding devices p) (event : OperationEvent) :
    Blocks p event ↔ ¬ CallsUnguarded p event := by
  have hheeds : ∀ seg, ran p event = some seg →
      ∃ sent, Heeds (Unguarded (baseIds devices).length seg.arg) devices seg.calls seg.cause
          p.shared (seg.co.advance p.shared).1 sent ∧
        ∀ i, sent = some i ↔ ∃ k, (seg.co.advance p.shared).2 = .waiting i k := by
    intro seg hseg
    cases event with
    | operation event => exact segment_heeds hp hseg
    | frame f => cases hseg
  constructor
  · rintro hblocks ⟨hdead, seg, hseg, hunguarded⟩
    rw [hp.devices_eq] at hunguarded
    obtain ⟨sent, hsegment, hsent⟩ := hheeds seg hseg
    obtain ⟨i, hi, hrest, hstill⟩ := hsegment.exposed.mpr ⟨hdead, hunguarded⟩
    obtain ⟨k, hk⟩ := (hsent _).mp hi
    cases i with
    | rest method =>
      have hlive := hblocks.silent seg hseg _ method k (Prod.ext rfl hk)
      rw [hstill] at hlive
      cases hlive
    | ensureMqtt => cases hrest
    | pruneOldMedia => cases hrest
  · intro hnot
    constructor
    · intro seg hseg t method k hadvance
      obtain ⟨sent, hsegment, hsent⟩ := hheeds seg hseg
      rw [hadvance] at hsegment hsent
      by_contra hlive
      have hdead : t.authIsDead = true := by simpa using hlive
      obtain ⟨hbefore, hunguarded⟩ :=
        hsegment.exposed.mp ⟨.rest method, (hsent _).mpr ⟨k, rfl⟩, rfl, hdead⟩
      rw [← hp.devices_eq] at hunguarded
      exact hnot ⟨hbefore, seg, hseg, hunguarded⟩
    · intro q hq hdead hlive
      rcases shared_of_step hq with hsame | ⟨seg, hseg, hshared⟩
      · rw [hsame, hdead] at hlive
        cases hlive
      · obtain ⟨sent, hsegment, _⟩ := hheeds seg hseg
        rw [hshared] at hlive
        obtain ⟨cookieJar, hcause⟩ := hsegment.cleared hdead hlive
        exact ⟨seg, cookieJar, hseg, hcause⟩

/-- Along a run the block covers every call exactly when no operation, while it is set, comes to a
call that does not look: the refetch of a revision, a base station, or the device list. -/
theorem block_covers_iff (s : CoordinatorState) (events : List OperationEvent) :
    operationMachine.Along Blocks ⟨s, []⟩ events ↔
      operationMachine.Along (fun p event => ¬ CallsUnguarded p event) ⟨s, []⟩ events := by
  have hstart : Heeding s.devices ⟨s, []⟩ := ⟨rfl, fun th hth => by cases hth⟩
  exact operationMachine.along_congr (fun _ _ _ hp h => heeding_step hp h)
    (fun _ event hp => blocks_iff hp event) hstart

end Operations

section Sample

/-- Arlo has invalidated the token and does not trust the browser. -/
def lostSession : (i : Request ArloRequest) → Except Exc (ArloReply i)
  | .login => .error (.mfaRequired [])
  | .client (.rest _) => .error (.sessionExpiredError "Invalid Token")
  | .client .ensureMqtt => .ok true
  | .client .pruneOldMedia => .ok 0

/-- A stream finds the session lost, and the next health tick runs as far as the device list. -/
def tickAfterLoss : List OperationEvent :=
  [.operation (.start (.entityCommand (.startStream "CAM"))),
    .operation (.answer 0 lostSession), .operation (.deliver 0),
    .operation (.answer 0 lostSession), .operation (.deliver 0),
    .operation (.start (.healthTick { token := .str "token" } 0)),
    .operation (.answer 1 lostSession), .operation (.deliver 1),
    .operation (.answer 1 lostSession)]

theorem tickAfterLoss_calls :
    ∃ p : OperationPool, operationMachine.run ⟨{}, []⟩ tickAfterLoss = some p ∧
      p.shared.authIsDead = true ∧ ¬ Blocks p (.operation (.deliver 1)) := by
  refine ⟨_, rfl, rfl, fun hblocks => ?_⟩
  have hlive := hblocks.silent _ rfl _ .getDevices _ rfl
  cases hlive

end Sample

end Eisenberg.Coordinator
