import Eisenberg.Camera.RetiredUrl
import Mathlib.Data.List.Induction

/-!
# The session of a Stream

Home Assistant keeps a Stream and hands it to every later viewer. Whether it is still good is
inferred from the age of the cached URL and from the streaming flag, which need not be those of the
URL the Stream was built around.
-/

namespace Eisenberg.Camera

open Framework CameraState

/-- The Stream was built around the newest URL, or around that of a session which is still live. -/
def Current (newest : Nat) (live : List Nat) (stream : Stream) : Prop :=
  ∃ n, stream.source.origin = .minted n ∧ (n = newest ∨ n ∈ live)

/-- Whatever Stream has been handed to a viewer was current then. -/
def OwnSession (s : CameraState) : Prop :=
  ∀ h ∈ s.history.handed, Current h.newest h.live h.stream

/-! ## When a Stream is left behind -/

/-- A step leaves the attached Stream behind: another player gets a URL while the session of the
Stream is not live, or the camera is reported idle when a newer URL is out. -/
def LeavesBehind (s : CameraState) (stream : Stream) : CameraAction → Prop
  | .answer t (.url _) =>
    (∃ caller, s.callers[t]? = some caller ∧ caller.purpose ≠ .create) ∧
      ∀ n ∈ s.history.live, stream.source.origin ≠ .minted n
  | .report activity =>
    streamingState (some activity) = false ∧ stream.source.origin ≠ .minted s.history.minted
  | _ => False

/-- Some step of the run left the Stream behind. -/
def LeftBehind (init : CameraState) (actions : List CameraAction) (stream : Stream) : Prop :=
  ∃ pre action post s, actions = pre ++ action :: post ∧ machine.run init pre = some s ∧
    s.stream = some stream ∧ LeavesBehind s stream action

/-- Home Assistant is asked for the attached Stream: by a viewer while the camera is flagged as
streaming or the cached URL is less than ten seconds old, or by one whose finished Stream has
stopped. -/
def HandsOver (s : CameraState) : CameraAction → Prop
  | .create => s.isStreaming = true ∨
      ∃ mintedAt url, s.lastUrl = some (mintedAt, url) ∧ s.now - mintedAt < STREAM_URL_REUSE
  | .stopped _ ok => ok = true
  | _ => False

/-- As long as a Stream that was left behind is attached, Home Assistant is not asked for it. -/
def CatchesLeftBehind (init : CameraState) (actions : List CameraAction) : Prop :=
  ∀ pre action post s stream, actions = pre ++ action :: post → machine.run init pre = some s →
    s.stream = some stream → LeftBehind init pre stream → ¬ HandsOver s action

/-! ## What a step does to the sessions -/

theorem live_of_step {s s' : CameraState} {action : CameraAction} (h : Step s action s') :
    (∃ activity, action = .report activity ∧ s'.history.minted = s.history.minted ∧
      s'.stream = s.stream ∧ s'.history.live =
        if streamingState (some activity) then s.history.minted :: s.history.live else []) ∨
      (∀ activity, action ≠ .report activity) ∧ s'.history.live = s.history.live := by
  cases reportStep_of_step h with
  | pass d => exact Or.inr ⟨by simp, rfl⟩
  | report activity =>
    left
    refine ⟨activity, rfl, ?_⟩
    obtain ⟨isStreaming, captures, retired, hupdate⟩ :=
      handleCoordinatorUpdate_frame (s.stored activity)
    rw [report, hupdate]
    exact ⟨rfl, rfl, rfl⟩
  | update =>
    obtain ⟨isStreaming, captures, retired, hupdate⟩ := handleCoordinatorUpdate_frame s
    refine Or.inr ⟨by simp, ?_⟩
    rw [hupdate]
  | silent hreport hupdate hsame => exact Or.inr ⟨hreport, hsame.live⟩

theorem live_of_answer {s s' : CameraState} {t : Nat} {outcome : Outcome}
    (h : Step s (.answer t outcome) s') : s'.history.live = s.history.live := by
  rcases live_of_step h with ⟨activity, haction, -⟩ | ⟨-, hlive⟩
  · cases haction
  · exact hlive

/-- The attached Stream was built around a URL that had been minted. -/
def Minted (s : CameraState) : Prop :=
  ∀ stream, s.stream = some stream → ∀ n, stream.source.origin = .minted n →
    n ≤ s.history.minted

theorem Minted.step {s s' : CameraState} (h : Minted s) (hcoherent : Coherent s)
    {action : CameraAction} (hstep : Step s action s') : Minted s' := by
  have hminted := minted_le_of_step hstep
  intro stream hs' n hn
  cases streamStep_of_step hcoherent hstep with
  | kept hstream hbuilt hhanded => exact Nat.le_trans (h stream (hstream ▸ hs') n hn) hminted
  | dropped hstream hbuilt hhanded =>
    rw [hstream] at hs'
    cases hs'
  | returned old hsame hold hstream hbuilt hhanded =>
    rw [hstream] at hs'
    cases hs'
    exact Nat.le_trans (h stream hold n hn) hminted
  | built source horigin hstream hbuilt hhanded =>
    rw [hstream] at hs'
    cases hs'
    rw [horigin] at hn
    cases hn
    exact Nat.le_refl _

/-- What holds of every state of every run. -/
structure Known (s : CameraState) : Prop where
  coherent : Coherent s
  numbered : Numbered s
  minted : Minted s

theorem Known.step {s s' : CameraState} (h : Known s) {action : CameraAction}
    (hstep : Camera.step s action = some s') : Known s' where
  coherent := h.coherent.step hstep
  numbered := h.numbered.step h.coherent (step_cases hstep)
  minted := h.minted.step h.coherent (step_cases hstep)

theorem known_init (now : Nat) (activityState : Option String) (ffmpegStream go2rtc : Bool) :
    Known (.init now activityState ffmpegStream go2rtc) where
  coherent := coherent_init ..
  numbered := numbered_init ..
  minted stream hs := by cases hs

/-! ## Left behind and no longer current -/

section Steps

variable {s s' : CameraState} {action : CameraAction} {stream : Stream}

/-- The URL of the Stream is not the newest, and its session is not live. -/
structure Stale (s : CameraState) (stream : Stream) : Prop where
  minted : ∀ n, stream.source.origin = .minted n → n ≤ s.history.minted
  outdated : ¬ Current s.history.minted s.history.live stream

/-- What is stale stays stale: the sessions that go live are those of the newest URL. -/
theorem Stale.step (h : Stale s stream) (hstep : Step s action s') : Stale s' stream := by
  have hnewest := minted_le_of_step hstep
  refine ⟨fun n hn => Nat.le_trans (h.minted n hn) hnewest, ?_⟩
  rintro ⟨n, horigin, hn⟩
  have hbound := h.minted n horigin
  have hold : n ≠ s.history.minted := fun heq => h.outdated ⟨n, horigin, Or.inl heq⟩
  have hdead : n ∉ s.history.live := fun hmem => h.outdated ⟨n, horigin, Or.inr hmem⟩
  rcases hn with hn | hn
  · omega
  · rcases live_of_step hstep with ⟨activity, -, -, -, hlive⟩ | ⟨-, hlive⟩
    · rw [hlive] at hn
      split at hn
      · rcases List.mem_cons.mp hn with heq | hmem
        · exact hold heq
        · exact hdead hmem
      · cases hn
    · exact hdead (hlive ▸ hn)

theorem minted_of_answer {t : Nat} {text : String}
    (hstep : Step s (.answer t (.url text)) s') : s'.history.minted = s.history.minted + 1 := by
  cases hstep with
  | answer t caller outcome ht hpc =>
    rw [startStreamReturned, (sameSessions_sourceReturned ..).minted]
    rfl

theorem stale_of_leavesBehind (hminted : Minted s) (hstep : Step s action s')
    (hstream : s.stream = some stream) (hleaves : LeavesBehind s stream action) :
    s'.stream = some stream ∧ Stale s' stream := by
  have hbound : ∀ n, stream.source.origin = .minted n → n ≤ s.history.minted :=
    hminted stream hstream
  have hnewest := minted_le_of_step hstep
  cases action with
  | answer t outcome =>
    cases outcome with
    | url text =>
      obtain ⟨⟨caller, ht, hpurpose⟩, hdead⟩ := hleaves
      have hnext := minted_of_answer hstep
      have hlive := live_of_answer hstep
      refine ⟨?_, fun n hn => Nat.le_trans (hbound n hn) hnewest, ?_⟩
      · cases hstep with
        | answer t caller' outcome ht' hpc =>
          rw [ht] at ht'
          cases ht'
          exact (stream_of_source hpurpose).trans hstream
      · rintro ⟨n, horigin, hn⟩
        have hle := hbound n horigin
        rcases hn with hn | hn
        · omega
        · exact hdead n (hlive ▸ hn) horigin
    | failed => cases hleaves
    | cancelled => cases hleaves
  | report activity =>
    obtain ⟨hidle, hother⟩ := hleaves
    rcases live_of_step hstep with ⟨activity', haction, hsame, hkept, hlive⟩ | ⟨hnot, -⟩
    · cases haction
      refine ⟨hkept.trans hstream, fun n hn => Nat.le_trans (hbound n hn) hnewest, ?_⟩
      rintro ⟨n, horigin, hn⟩
      rw [hsame, hlive, hidle] at hn
      rcases hn with rfl | hn
      · exact hother horigin
      · cases hn
    · exact absurd rfl (hnot activity)
  | _ => cases hleaves

/-- A Stream that a step does not leave behind stays current as long as it is attached. -/
theorem current_step (hnumbered : Numbered s) (hstream : s.stream = some stream)
    (hcurrent : Current s.history.minted s.history.live stream)
    (hstays : ¬ LeavesBehind s stream action) (hstep : Step s action s')
    (hkept : s'.stream = some stream) : Current s'.history.minted s'.history.live stream := by
  obtain ⟨n, horigin, hn⟩ := hcurrent
  rcases live_of_step hstep with ⟨activity, rfl, hminted, -, hlive⟩ | ⟨-, hlive⟩
  · rw [hminted, hlive]
    split
    · refine ⟨n, horigin, ?_⟩
      rcases hn with rfl | hn
      · exact Or.inl rfl
      · exact Or.inr (List.mem_cons_of_mem _ hn)
    case isFalse hidle =>
      have hnewest : stream.source.origin = .minted s.history.minted := by
        by_contra hother
        exact hstays ⟨by simpa using hidle, hother⟩
      exact ⟨_, hnewest, Or.inl rfl⟩
  · have hsame : s'.history.minted = s.history.minted →
        Current s'.history.minted s'.history.live stream := by
      intro hminted
      rw [hminted, hlive]
      exact ⟨n, horigin, hn⟩
    cases urlStep_of_step hstep with
    | kept hurl hminted hurls hissued hdiscarded => exact hsame hminted
    | issued t caller haction ht hpc hnone hurl hminted hurls hdiscarded => exact hsame hminted
    | dropped m capture old hm hattached haction hurl hminted hurls hissued hdiscarded =>
      exact hsame hminted
    | minted t caller text haction ht hpc hurl hminted hurls hissued hdiscarded =>
      subst haction
      rw [hlive]
      by_cases hcreate : caller.purpose = .create
      · -- Such a caller would have attached a Stream of its own.
        cases hstep with
        | answer t caller' outcome ht' hpc =>
          rw [ht] at ht'
          cases ht'
          obtain ⟨source, hnew⟩ := stream_of_create (s := s) (t := t) hcreate text
          rw [hkept] at hnew
          have hid := hnumbered.attached stream hstream
          rw [Option.some.inj hnew] at hid
          exact absurd hid (Nat.lt_irrefl _)
      · have hlives : ∃ m ∈ s.history.live, stream.source.origin = .minted m := by
          by_contra hdead
          exact hstays ⟨⟨caller, ht, hcreate⟩, fun m hm heq => hdead ⟨m, hm, heq⟩⟩
        obtain ⟨m, hm, heq⟩ := hlives
        exact ⟨m, heq, Or.inr hm⟩

/-! ## What a viewer is handed -/

theorem handed_of_other (hstep : Step s action s') (hcreate : action ≠ .create)
    (hstopped : ∀ t, action ≠ .stopped t true) :
    s'.history.handed = s.history.handed ∨ s'.built = s.built + 1 := by
  have hreturned : ∀ (b : CameraState) (t : Nat) (caller : Caller) (source : Option Source),
      (b.sourceReturned t caller source).history.handed = b.history.handed ∨
        (b.sourceReturned t caller source).built = b.built + 1 := by
    intro b t caller source
    unfold sourceReturned
    split
    · exact Or.inr rfl
    · exact Or.inl rfl
  cases hstep with
  | create => exact absurd rfl hcreate
  | stopped t caller finished ht hpc => exact absurd rfl (hstopped t)
  | pass d => exact Or.inl rfl
  | options ffmpegStream go2rtc => exact Or.inl rfl
  | report activity =>
    obtain ⟨isStreaming, captures, retired, hupdate⟩ :=
      handleCoordinatorUpdate_frame (s.stored activity)
    rw [report, hupdate]
    exact Or.inl rfl
  | update =>
    obtain ⟨isStreaming, captures, retired, hupdate⟩ := handleCoordinatorUpdate_frame s
    rw [hupdate]
    exact Or.inl rfl
  | source probing bare =>
    unfold streamSource
    split <;> exact Or.inl rfl
  | stopFailed t => exact Or.inl rfl
  | acquire t caller ht hpc hlock =>
    unfold underLock
    split
    · exact hreturned s t caller _
    · exact Or.inl rfl
  | answer t caller outcome ht hpc =>
    cases outcome with
    | url text => exact hreturned ({ s with streamLock := none }.mint (egressUrl text)) t caller _
    | failed => exact hreturned { s with streamLock := none } t caller none
    | cancelled => exact Or.inl rfl
  | cancel t => exact Or.inl rfl
  | begin n capture hn hpc =>
    unfold beginCapture
    split <;> exact Or.inl rfl
  | grabbedFrame n capture stream hn hpc => exact Or.inl rfl
  | grabbedNone n capture stream hn hpc =>
    unfold dropStream
    split <;> exact Or.inl rfl
  | archived n capture stream hn hpc =>
    unfold dropStream
    split <;> exact Or.inl rfl
  | archiveFailed n => exact Or.inl rfl
  | cancelCapture n => exact Or.inl rfl

theorem streamSessionIsOver_eq_false_iff (hstream : s.stream = some stream) :
    s.streamSessionIsOver = false ↔ HandsOver s .create := by
  cases hlast : s.lastUrl with
  | none => simp [streamSessionIsOver, HandsOver, hstream, hlast]
  | some entry =>
    obtain ⟨mintedAt, url⟩ := entry
    cases hstreaming : s.isStreaming <;>
      simp [streamSessionIsOver, HandsOver, hstream, hlast, hstreaming]

theorem handed_of_handsOver (hstep : Step s action s') (hstream : s.stream = some stream)
    (hover : HandsOver s action) : s'.history.handed =
      s.history.handed ++ [⟨stream, s.history.minted, s.history.live⟩] := by
  have hreturned : ∀ (b : CameraState) (t : Nat), b.stream = some stream →
      b.history = s.history → (b.superCreateStream t).history.handed =
        s.history.handed ++ [⟨stream, s.history.minted, s.history.live⟩] := by
    intro b t hattached hhistory
    rw [superCreateStream]
    simp only [hattached, handOut, setPc, hhistory]
  cases hstep with
  | create =>
    have hgood := (streamSessionIsOver_eq_false_iff hstream).mpr hover
    rw [asyncCreateStream]
    simp only [hstream, hgood]
    exact hreturned _ _ hstream rfl
  | stopped t caller finished ht hpc => exact hreturned s t hstream rfl
  | stopFailed t => cases hover
  | _ => cases hover

theorem handed_of_not_handsOver (hcoherent : Coherent s) (hstep : Step s action s')
    (hnot : ∀ stream, s.stream = some stream → ¬ HandsOver s action) :
    s'.history.handed = s.history.handed ∨ ∃ new : Handed,
      s'.history.handed = s.history.handed ++ [new] ∧ Current new.newest new.live new.stream := by
  cases streamStep_of_step hcoherent hstep with
  | kept hstream hbuilt hhanded => exact Or.inl hhanded
  | dropped hstream hbuilt hhanded => exact Or.inl hhanded
  | built source horigin hstream hbuilt hhanded =>
    exact Or.inr ⟨_, hhanded, _, horigin, Or.inl rfl⟩
  | returned stream hsame hold hstream hbuilt hhanded =>
    by_cases hcreate : action = .create
    · subst hcreate
      have hover : s.streamSessionIsOver = true := by
        rw [← Bool.not_eq_false, streamSessionIsOver_eq_false_iff hold]
        exact hnot stream hold
      cases hstep with
      | create =>
        -- The check has taken the Stream away.
        rw [asyncCreateStream] at hstream
        simp [hold, hover] at hstream
    · by_cases hstopped : ∃ t, action = .stopped t true
      · obtain ⟨t, rfl⟩ := hstopped
        exact absurd rfl (hnot stream hold)
      · rcases handed_of_other hstep hcreate (fun t ht => hstopped ⟨t, ht⟩) with hkept | hnew
        · exact Or.inl hkept
        · omega

/-- The viewers of a step are handed Streams of their own session exactly when the Stream that is
handed over is current. -/
theorem ownSession_step (hcoherent : Coherent s) (hstep : Step s action s') :
    OwnSession s' ↔ OwnSession s ∧ ∀ stream, s.stream = some stream → HandsOver s action →
      Current s.history.minted s.history.live stream := by
  have hadd : ∀ new : Handed, s'.history.handed = s.history.handed ++ [new] →
      (OwnSession s' ↔ OwnSession s ∧ Current new.newest new.live new.stream) := by
    intro new hhanded
    simp [OwnSession, hhanded, or_imp, forall_and]
  by_cases hover : ∃ stream, s.stream = some stream ∧ HandsOver s action
  · obtain ⟨stream, hstream, hover⟩ := hover
    rw [hadd _ (handed_of_handsOver hstep hstream hover)]
    simp [hstream, hover]
  · have hnot : ∀ stream, s.stream = some stream → ¬ HandsOver s action :=
      fun stream hstream hhands => hover ⟨stream, hstream, hhands⟩
    have hvacuous : ∀ stream, s.stream = some stream → HandsOver s action →
        Current s.history.minted s.history.live stream :=
      fun stream hstream hhands => absurd hhands (hnot stream hstream)
    rw [and_iff_left hvacuous]
    rcases handed_of_not_handsOver hcoherent hstep hnot with hkept | ⟨new, hhanded, hcurrent⟩
    · rw [OwnSession, OwnSession, hkept]
    · rw [hadd new hhanded, and_iff_left hcurrent]

end Steps

/-! ## Runs -/

theorem known_of_run {now : Nat} {activityState : Option String} {ffmpegStream go2rtc : Bool}
    {actions : List CameraAction} {s : CameraState}
    (hrun : machine.run (.init now activityState ffmpegStream go2rtc) actions = some s) :
    Known s :=
  machine.run_invariant (fun _ _ _ hs hstep => hs.step hstep) (known_init ..) hrun

section Runs

variable {init s : CameraState} {actions : List CameraAction} {stream : Stream}

theorem LeftBehind.concat (h : LeftBehind init actions stream) (action : CameraAction) :
    LeftBehind init (actions ++ [action]) stream := by
  obtain ⟨pre, left, post, s, rfl, hrest⟩ := h
  exact ⟨pre, left, post ++ [action], s, by simp, hrest⟩

/-- An attached Stream that is not current was left behind. -/
theorem leftBehind_of_not_current (hknown : ∀ as t, machine.run init as = some t → Known t)
    (hempty : init.stream = none) (hrun : machine.run init actions = some s)
    (hstream : s.stream = some stream)
    (hstale : ¬ Current s.history.minted s.history.live stream) :
    LeftBehind init actions stream := by
  induction actions using List.reverseRecOn generalizing s with
  | nil =>
    cases hrun
    rw [hempty] at hstream
    cases hstream
  | append_singleton actions action ih =>
    obtain ⟨u, hu, hstep⟩ := machine.run_concat_eq_some.mp hrun
    have hcases := step_cases hstep
    have hbefore : u.stream = some stream → LeftBehind init (actions ++ [action]) stream := by
      intro hattached
      by_cases hcurrent : Current u.history.minted u.history.live stream
      · have hleaves : LeavesBehind u stream action := by
          by_contra hstays
          exact hstale
            (current_step (hknown _ _ hu).numbered hattached hcurrent hstays hcases hstream)
        exact ⟨actions, action, [], u, rfl, hu, hattached, hleaves⟩
      · exact (ih hu hattached hcurrent).concat action
    cases streamStep_of_step (hknown _ _ hu).coherent hcases with
    | kept hkept hbuilt hhanded => exact hbefore (hkept ▸ hstream)
    | dropped hdropped hbuilt hhanded =>
      rw [hdropped] at hstream
      cases hstream
    | returned old hsame hold hkept hbuilt hhanded =>
      rw [hkept] at hstream
      cases hstream
      exact hbefore hold
    | built source horigin hnew hbuilt hhanded =>
      rw [hnew] at hstream
      cases hstream
      exact absurd ⟨_, horigin, Or.inl rfl⟩ hstale

theorem not_current_of_leftBehind (hknown : ∀ as t, machine.run init as = some t → Known t)
    (hrun : machine.run init actions = some s) (h : LeftBehind init actions stream) :
    ¬ Current s.history.minted s.history.live stream := by
  obtain ⟨pre, action, post, u, rfl, hu, hattached, hleaves⟩ := h
  rw [machine.run_append, hu, Option.bind_some] at hrun
  obtain ⟨u', hstep, hrest⟩ := machine.run_cons_eq_some.mp hrun
  have hstale := (stale_of_leavesBehind (hknown _ _ hu).minted (step_cases hstep) hattached
    hleaves).2
  have hall : Stale s stream := machine.run_invariant (I := fun t => Stale t stream)
    (fun _ _ _ ht ha => ht.step (step_cases ha)) hstale hrest
  exact hall.outdated

theorem catchesLeftBehind_concat (hrun : machine.run init actions = some s)
    (action : CameraAction) :
    CatchesLeftBehind init (actions ++ [action]) ↔ CatchesLeftBehind init actions ∧
      ∀ stream, s.stream = some stream → LeftBehind init actions stream →
        ¬ HandsOver s action := by
  constructor
  · intro hcatches
    refine ⟨?_, ?_⟩
    · rintro pre act post t stream rfl hpre
      exact hcatches pre act (post ++ [action]) t stream (by simp) hpre
    · intro stream
      exact hcatches actions action [] s stream rfl hrun
  · rintro ⟨hearlier, hlast⟩ pre act post t stream hsplit hpre
    rcases List.eq_nil_or_concat post with rfl | ⟨post, last, rfl⟩
    · obtain ⟨rfl, hact⟩ := List.append_inj' hsplit rfl
      cases hact
      rw [hrun] at hpre
      cases hpre
      exact hlast stream
    · have hsplit' : actions ++ [action] = (pre ++ act :: post) ++ [last] := by simp [hsplit]
      obtain ⟨rfl, -⟩ := List.append_inj' hsplit' rfl
      exact hearlier pre act post t stream rfl hpre

end Runs

/-- Every Stream that is handed out over a run is of its viewer's session exactly when the viewers
who come beside a Stream left behind are those that the staleness check sends on. -/
theorem ownSession_iff {now : Nat} {activityState : Option String} {ffmpegStream go2rtc : Bool}
    {actions : List CameraAction} {s : CameraState}
    (hrun : machine.run (.init now activityState ffmpegStream go2rtc) actions = some s) :
    OwnSession s ↔ CatchesLeftBehind (.init now activityState ffmpegStream go2rtc) actions := by
  have hknown : ∀ as t, machine.run (.init now activityState ffmpegStream go2rtc) as = some t →
      Known t := fun _ _ ht => known_of_run ht
  induction actions using List.reverseRecOn generalizing s with
  | nil =>
    cases hrun
    refine ⟨fun _ pre action post t stream hsplit => ?_, fun _ handed hmem => (by cases hmem)⟩
    simp at hsplit
  | append_singleton actions action ih =>
    obtain ⟨u, hu, hstep⟩ := machine.run_concat_eq_some.mp hrun
    have hearlier : OwnSession u ↔
        CatchesLeftBehind (.init now activityState ffmpegStream go2rtc) actions := ih hu
    rw [ownSession_step (hknown _ _ hu).coherent (step_cases hstep), hearlier,
      catchesLeftBehind_concat hu]
    refine and_congr_right fun _ => forall_congr' fun stream => forall_congr' fun hstream => ?_
    constructor
    · intro hcurrent hleft hover
      exact not_current_of_leftBehind hknown hu hleft (hcurrent hover)
    · intro hcatches hover
      by_contra hstale
      exact hcatches (leftBehind_of_not_current hknown rfl hu hstream hstale) hover

/-- A Stream is left behind by another player's URL; the viewer who comes when the window is over is
given one of his own session. -/
def replacedInTime : List CameraAction :=
  [.create, .acquire 0, .answer 0 (.url "rtsp://arlo/1"), .pass STREAM_URL_REUSE,
    .source false false, .acquire 1, .answer 1 (.url "rtsp://arlo/2"), .pass STREAM_URL_REUSE,
    .create, .stopped 2 true, .acquire 2, .answer 2 (.url "rtsp://arlo/3")]

theorem ownSession_iff_replacedInTime :
    CatchesLeftBehind (.init 0 none false false) replacedInTime ∧
      LeftBehind (.init 0 none false false) (replacedInTime.take 8)
        ⟨0, .minted 1, egressUrl "rtsp://arlo/1"⟩ := by
  obtain ⟨s, hs⟩ : ∃ s, machine.run (.init 0 none false false) replacedInTime = some s := ⟨_, rfl⟩
  have hown : OwnSession s := by
    have hhanded : s.history.handed =
        [⟨⟨0, .minted 1, egressUrl "rtsp://arlo/1"⟩, 1, []⟩,
          ⟨⟨1, .minted 3, egressUrl "rtsp://arlo/3"⟩, 3, []⟩] := by
      cases hs
      rfl
    rw [OwnSession, hhanded]
    intro handed hmem
    simp only [List.mem_cons, List.not_mem_nil, or_false] at hmem
    rcases hmem with rfl | rfl
    · exact ⟨1, rfl, Or.inl rfl⟩
    · exact ⟨3, rfl, Or.inl rfl⟩
  refine ⟨(ownSession_iff hs).mp hown, ?_⟩
  refine ⟨replacedInTime.take 6, _, _, _, rfl, rfl, rfl, ⟨_, rfl, nofun⟩, nofun⟩

/-- A live view that never starts, another player after the reuse window, and a viewer within his. -/
def viewedBesideAnother : List CameraAction :=
  [.create, .acquire 0, .answer 0 (.url "rtsp://arlo/1"), .pass STREAM_URL_REUSE,
    .source false false, .acquire 1, .answer 1 (.url "rtsp://arlo/2"), .create]

/-- The last viewer is handed the Stream of the view that never started. -/
theorem viewedBesideAnother_hands_out :
    ∃ s, machine.run (.init 0 none false false) viewedBesideAnother = some s ∧
      ¬ OwnSession s := by
  refine ⟨_, rfl, ?_⟩
  intro hown
  obtain ⟨n, horigin, hn⟩ := hown
    ⟨⟨0, .minted 1, egressUrl "rtsp://arlo/1"⟩, 2, []⟩ (List.mem_of_getElem? (i := 1) rfl)
  cases horigin
  exact absurd hn (by decide)

end Eisenberg.Camera
