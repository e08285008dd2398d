import Eisenberg.Camera.LiveView

/-!
# What the steps of a live view do

The lock is held across an await by a caller that found no URL to reuse, and by nobody else. For the
rest, a step is described by the answer it gives and by what it does to the cached URL, to the
Stream, to the captures and to the URLs that are retired.
-/

namespace Eisenberg.Camera

open Framework CameraState

/-- A caller that has moved from `l` to `l'` is not calling Arlo, and done if it is the probe. -/
def Settles (l l' : List Caller) : Prop :=
  ∀ (u : Nat) (caller : Caller), l'[u]? = some caller → l[u]? = some caller ∨
    caller.pc ≠ .calling ∧ (caller.purpose.probing = true → caller.pc = .done)

theorem Settles.refl (l : List Caller) : Settles l l := by
  intro u caller hu
  exact Or.inl hu

theorem Settles.trans {l l' l'' : List Caller} (h : Settles l l') (h' : Settles l' l'') :
    Settles l l'' := by
  intro u caller hu
  rcases h' u caller hu with hu | hmoved
  · exact h u caller hu
  · exact Or.inr hmoved

theorem Settles.modify {l : List Caller} {t : Nat} {f : Caller → Caller}
    (hf : ∀ caller, l[t]? = some caller → (f caller).pc ≠ .calling ∧
      ((f caller).purpose.probing = true → (f caller).pc = .done)) :
    Settles l (l.modify t f) := by
  intro u caller hu
  rw [List.getElem?_modify] at hu
  obtain ⟨before, hbefore, hmoved⟩ := Option.map_eq_some_iff.mp hu
  by_cases heq : t = u
  · subst heq
    rw [if_pos rfl] at hmoved
    exact Or.inr (hmoved ▸ hf before hbefore)
  · rw [if_neg heq] at hmoved
    exact Or.inl (hmoved ▸ hbefore)

theorem Settles.append {l : List Caller} {caller : Caller} (hpc : caller.pc ≠ .calling)
    (hprobing : caller.purpose.probing = true → caller.pc = .done) :
    Settles l (l ++ [caller]) := by
  intro u other hu
  rw [List.getElem?_append] at hu
  split at hu
  · exact Or.inl hu
  · right
    rw [List.getElem?_singleton] at hu
    split at hu
    · cases hu
      exact ⟨hpc, hprobing⟩
    · cases hu

theorem sourceReturned_callers (s : CameraState) (t : Nat) (caller : Caller)
    (source : Option Source) :
    (s.sourceReturned t caller source).callers = (s.setPc t .done).callers := by
  unfold sourceReturned
  split <;> rfl

theorem settles_setPc_done (s : CameraState) (t : Nat) :
    Settles s.callers (s.setPc t .done).callers :=
  Settles.modify fun _ _ => ⟨nofun, fun _ => rfl⟩

theorem settles_superCreateStream {s : CameraState} {t : Nat} {caller : Caller}
    (ht : s.callers[t]? = some caller) (hprobing : caller.purpose.probing = false) :
    Settles s.callers (s.superCreateStream t).callers := by
  unfold superCreateStream
  split
  · exact settles_setPc_done s t
  · refine Settles.modify fun other hother => ⟨nofun, fun h => ?_⟩
    rw [ht] at hother
    cases hother
    exact absurd h (by simp [hprobing])

theorem call_getElem? (s : CameraState) (caller : Caller) :
    (s.call caller).callers[s.callers.length]? = some caller := by
  simp [call]

theorem settles_asyncCreateStream (s : CameraState) :
    Settles s.callers s.asyncCreateStream.callers := by
  have hcreate : Settles s.callers ((s.call ⟨.create, s.history.retired, .done⟩).superCreateStream
      s.callers.length).callers :=
    (Settles.append (by simp) fun _ => rfl).trans
      (settles_superCreateStream (call_getElem? s _) rfl)
  unfold asyncCreateStream
  split
  · split
    · exact Settles.append (by simp) fun h => absurd h (by simp [Purpose.probing])
    · exact hcreate
  · exact hcreate

theorem settles_streamSource (s : CameraState) (probing bare : Bool) :
    Settles s.callers (s.streamSource probing bare).callers := by
  unfold streamSource
  split
  case isTrue hprobing =>
    rw [sourceReturned_callers]
    exact (Settles.append (by simp) fun _ => rfl).trans (settles_setPc_done _ _)
  case isFalse hprobing => exact Settles.append (by simp) fun h => absurd h hprobing

theorem beginCapture_callers (s : CameraState) (n : Nat) :
    (s.beginCapture n).callers = s.callers := by
  unfold beginCapture
  split <;> rfl

/-- What the lock and the cached URL have to do with each other. -/
structure Coherent (s : CameraState) : Prop where
  calling : ∀ (t : Nat) (caller : Caller), s.callers[t]? = some caller → caller.pc = .calling →
    s.streamLock = some t
  /-- Whoever keeps the lock across an await found nothing to reuse. -/
  held : s.streamLock ≠ none → s.reusable = none
  newest : ∀ mintedAt n url, s.lastUrl = some (mintedAt, n, url) → n = s.history.minted
  probing : ∀ (t : Nat) (caller : Caller), s.callers[t]? = some caller →
    caller.purpose.probing = true → caller.pc = .done

theorem Coherent.move {s s' : CameraState} (h : Coherent s) (hsame : SameSessions s s')
    (hcallers : Settles s.callers s'.callers) : Coherent s' where
  calling t caller ht hpc := by
    rw [hsame.streamLock]
    rcases hcallers t caller ht with ht | ⟨hnot, -⟩
    · exact h.calling t caller ht hpc
    · exact absurd hpc hnot
  held hlock := by
    rw [hsame.reusable]
    rw [hsame.streamLock] at hlock
    exact h.held hlock
  newest mintedAt n url hurl := by
    rw [hsame.lastUrl] at hurl
    rw [hsame.minted]
    exact h.newest mintedAt n url hurl
  probing t caller ht hprobing := by
    rcases hcallers t caller ht with ht | ⟨-, hdone⟩
    · exact h.probing t caller ht hprobing
    · exact hdone hprobing

theorem Coherent.underLock {s : CameraState} (h : Coherent s) {t : Nat} {caller : Caller}
    (ht : s.callers[t]? = some caller) (hpc : caller.pc = .wantLock) (hlock : s.streamLock = none) :
    Coherent (s.underLock t caller) := by
  unfold CameraState.underLock
  split
  case h_1 n url hurl =>
    refine h.move (sameSessions_sourceReturned ..) ?_
    rw [sourceReturned_callers]
    exact settles_setPc_done s t
  case h_2 hnone =>
    have hcallers : ∀ (u : Nat) (other : Caller),
        (s.setPc t .calling).callers[u]? = some other →
        s.callers[u]? = some other ∨ u = t ∧ other = { caller with pc := .calling } := by
      intro u other hu
      rw [CameraState.setPc, List.getElem?_modify] at hu
      obtain ⟨before, hbefore, hmoved⟩ := Option.map_eq_some_iff.mp hu
      by_cases heq : t = u
      · subst heq
        rw [if_pos rfl] at hmoved
        rw [ht] at hbefore
        cases hbefore
        exact Or.inr ⟨rfl, hmoved.symm⟩
      · rw [if_neg heq] at hmoved
        exact Or.inl (hmoved ▸ hbefore)
    constructor
    case calling =>
      intro u other hu hcalling
      rcases hcallers u other hu with hu | ⟨rfl, -⟩
      · rw [h.calling u other hu hcalling] at hlock
        cases hlock
      · rfl
    case held =>
      intro _
      exact hnone
    case newest => exact h.newest
    case probing =>
      intro u other hu hprobing
      rcases hcallers u other hu with hu | ⟨rfl, rfl⟩
      · exact h.probing u other hu hprobing
      · have hdone := h.probing u caller ht hprobing
        rw [hpc] at hdone
        cases hdone

theorem Coherent.release {s s' : CameraState} (h : Coherent s) {t : Nat} {caller : Caller}
    (ht : s.callers[t]? = some caller) (hpc : caller.pc = .calling)
    (hlock : s'.streamLock = none) (hcallers : s'.callers = (s.setPc t .done).callers)
    (hnewest : ∀ mintedAt n url, s'.lastUrl = some (mintedAt, n, url) → n = s'.history.minted) :
    Coherent s' where
  calling u other hu hcalling := by
    rw [hcallers] at hu
    rcases settles_setPc_done s t u other hu with hbefore | ⟨hnot, -⟩
    · have hheld := h.calling t caller ht hpc
      rw [h.calling u other hbefore hcalling] at hheld
      cases hheld
      rw [setPc, List.getElem?_modify_eq, hbefore] at hu
      rw [← Option.some.inj hu] at hcalling
      cases hcalling
    · exact absurd hcalling hnot
  held hheld := absurd hlock hheld
  newest := hnewest
  probing u other hu hprobing := by
    rw [hcallers] at hu
    rcases settles_setPc_done s t u other hu with hu | ⟨-, hdone⟩
    · exact h.probing u other hu hprobing
    · exact hdone hprobing

theorem Coherent.startStreamReturned {s : CameraState} (h : Coherent s) {t : Nat}
    {caller : Caller} (ht : s.callers[t]? = some caller) (hpc : caller.pc = .calling)
    (outcome : Outcome) : Coherent (s.startStreamReturned t caller outcome) := by
  cases outcome with
  | url text =>
    have hsame := sameSessions_sourceReturned ({ s with streamLock := none }.mint (egressUrl text))
      t caller (some ⟨.minted (s.history.minted + 1),
        s.withTransport caller.purpose.bare (egressUrl text)⟩)
    refine h.release ht hpc hsame.streamLock (sourceReturned_callers ..) ?_
    intro mintedAt n url hurl
    rw [CameraState.startStreamReturned, hsame.lastUrl] at hurl
    rw [CameraState.startStreamReturned, hsame.minted]
    cases hurl
    rfl
  | failed =>
    have hsame := sameSessions_sourceReturned { s with streamLock := none } t caller none
    refine h.release ht hpc hsame.streamLock (sourceReturned_callers ..) ?_
    intro mintedAt n url hurl
    rw [CameraState.startStreamReturned, hsame.lastUrl] at hurl
    rw [CameraState.startStreamReturned, hsame.minted]
    exact h.newest mintedAt n url hurl
  | cancelled => exact h.release ht hpc rfl rfl h.newest

theorem Coherent.dropStream {s : CameraState} (h : Coherent s) (n endedAt : Nat)
    (stream : Stream) : Coherent (s.dropStream n endedAt stream) := by
  unfold CameraState.dropStream
  split
  · exact ⟨h.calling, fun _ => rfl, nofun, h.probing⟩
  · exact h.move (sameSessions_setCapture s n _) (Settles.refl _)

theorem Coherent.handleCoordinatorUpdate {s : CameraState} (h : Coherent s) :
    Coherent s.handleCoordinatorUpdate := by
  obtain ⟨isStreaming, captures, retired, hupdate⟩ := handleCoordinatorUpdate_frame s
  rw [hupdate]
  exact ⟨h.calling, h.held, h.newest, h.probing⟩

theorem Coherent.pass {s : CameraState} (h : Coherent s) (d : Nat) :
    Coherent { s with now := s.now + d } := by
  refine ⟨h.calling, ?_, h.newest, h.probing⟩
  intro hlock
  have hheld := reusable_eq_none.mp (h.held hlock)
  refine reusable_eq_none.mpr fun mintedAt url hurl => ?_
  have hover := hheld mintedAt url hurl
  show STREAM_URL_REUSE ≤ s.now + d - mintedAt
  omega

theorem Coherent.step {s s' : CameraState} (h : Coherent s) {action : CameraAction}
    (hstep : step s action = some s') : Coherent s' := by
  cases step_cases hstep with
  | pass d => exact h.pass d
  | options ffmpegStream go2rtc => exact ⟨h.calling, h.held, h.newest, h.probing⟩
  | report activity =>
    exact Coherent.handleCoordinatorUpdate ⟨h.calling, h.held, h.newest, h.probing⟩
  | update => exact h.handleCoordinatorUpdate
  | source probing bare =>
    exact h.move (sameSessions_streamSource s probing bare) (settles_streamSource s probing bare)
  | create => exact h.move (sameSessions_asyncCreateStream s) (settles_asyncCreateStream s)
  | stopped t caller finished ht hpc =>
    have hprobing : caller.purpose.probing = false := by
      by_contra hprobing
      have hdone := h.probing t caller ht (by simpa using hprobing)
      rw [hpc] at hdone
      cases hdone
    exact h.move (sameSessions_superCreateStream s t) (settles_superCreateStream ht hprobing)
  | stopFailed t => exact h.move (sameSessions_setPc s t _) (settles_setPc_done s t)
  | acquire t caller ht hpc hlock => exact h.underLock ht hpc hlock
  | answer t caller outcome ht hpc => exact h.startStreamReturned ht hpc outcome
  | cancel t => exact h.move (sameSessions_setPc s t _) (settles_setPc_done s t)
  | begin n capture hn hpc =>
    exact h.move (sameSessions_beginCapture s n) (beginCapture_callers s n ▸ Settles.refl _)
  | grabbedFrame n capture stream hn hpc =>
    exact h.move (sameSessions_setCapture s n _) (Settles.refl _)
  | grabbedNone n capture stream hn hpc => exact h.dropStream n _ stream
  | archived n capture stream hn hpc => exact h.dropStream n _ stream
  | archiveFailed n => exact h.move (sameSessions_setCapture s n _) (Settles.refl _)
  | cancelCapture n => exact h.move (sameSessions_setCapture s n _) (Settles.refl _)

theorem coherent_init (now : Nat) (activityState : Option String) (ffmpegStream go2rtc : Bool) :
    Coherent (.init now activityState ffmpegStream go2rtc) where
  calling t caller ht := by cases ht
  held h := absurd rfl h
  newest mintedAt n url hurl := by cases hurl
  probing t caller ht := by cases ht

/-! ## Answers -/

/-- `text` is `url`, up to the `ffmpeg:` prefix. -/
def UpToTransport (url text : String) : Prop := text = url ∨ text = "ffmpeg:" ++ url

theorem withTransport_upToTransport (s : CameraState) (bare : Bool) (url : String) :
    UpToTransport url (s.withTransport bare url) := by
  unfold withTransport
  split
  · exact Or.inl rfl
  · split
    · exact Or.inr rfl
    · exact Or.inl rfl

theorem sourceReturned_answers (s : CameraState) (t : Nat) (caller : Caller)
    (source : Option Source) :
    (s.sourceReturned t caller source).history.answers =
      s.history.answers ++ [⟨caller.purpose.probing, caller.since, source⟩] := by
  unfold sourceReturned
  split <;> rfl

theorem superCreateStream_answers (s : CameraState) (t : Nat) :
    (s.superCreateStream t).history.answers = s.history.answers := by
  unfold superCreateStream
  split <;> rfl

theorem asyncCreateStream_answers (s : CameraState) :
    s.asyncCreateStream.history.answers = s.history.answers := by
  unfold asyncCreateStream
  split
  · split
    · rfl
    · exact superCreateStream_answers _ _
  · exact superCreateStream_answers _ _

theorem handleCoordinatorUpdate_answers (s : CameraState) :
    s.handleCoordinatorUpdate.history.answers = s.history.answers := by
  obtain ⟨isStreaming, captures, retired, hupdate⟩ := handleCoordinatorUpdate_frame s
  rw [hupdate]

theorem beginCapture_answers (s : CameraState) (n : Nat) :
    (s.beginCapture n).history.answers = s.history.answers := by
  unfold beginCapture
  split <;> rfl

theorem dropStream_answers (s : CameraState) (n endedAt : Nat) (stream : Stream) :
    (s.dropStream n endedAt stream).history.answers = s.history.answers := by
  unfold dropStream
  split <;> rfl

/-- Where the answer of a step comes from, if it gives one. -/
inductive Answers (s : CameraState) (s' : CameraState) : Prop
  | none (h : s'.history.answers = s.history.answers)
  | probe (bare : Bool)
      (h : s'.history.answers = s.history.answers ++ [⟨true, s.history.retired,
        some ⟨.placeholder, s.withTransport bare PROBE_URL⟩⟩])
  | cached (t : Nat) (caller : Caller) (url : Nat × String) (ht : s.callers[t]? = some caller)
      (hpc : caller.pc = .wantLock) (hurl : s.reusable = some url)
      (h : s'.history.answers = s.history.answers ++ [⟨caller.purpose.probing, caller.since,
        some ⟨.minted url.1, s.withTransport caller.purpose.bare url.2⟩⟩])
  | failed (t : Nat) (caller : Caller) (ht : s.callers[t]? = some caller)
      (hpc : caller.pc = .calling) (h : s'.history.answers = s.history.answers ++
        [⟨caller.purpose.probing, caller.since, .none⟩])
  | fresh (t : Nat) (caller : Caller) (url : String) (ht : s.callers[t]? = some caller)
      (hpc : caller.pc = .calling) (hlast : s'.lastUrl = some (s.now, s.history.minted + 1, url))
      (hurls : s'.history.urls = s.history.urls ++ [url])
      (h : s'.history.answers = s.history.answers ++ [⟨caller.purpose.probing, caller.since,
        some ⟨.minted (s.history.minted + 1), s.withTransport caller.purpose.bare url⟩⟩])

theorem answers_streamSource (s : CameraState) (probing bare : Bool) :
    Answers s (s.streamSource probing bare) := by
  unfold streamSource
  split
  case isTrue hprobing =>
    refine .probe bare ?_
    rw [sourceReturned_answers]
    simp only [Purpose.probing, hprobing]
    rfl
  case isFalse => exact .none rfl

theorem answers_startStreamReturned {s : CameraState} {t : Nat} {caller : Caller}
    (ht : s.callers[t]? = some caller) (hpc : caller.pc = .calling) (outcome : Outcome) :
    Answers s (s.startStreamReturned t caller outcome) := by
  cases outcome with
  | url text =>
    have hsame := sameSessions_sourceReturned ({ s with streamLock := none }.mint (egressUrl text))
      t caller (some ⟨.minted (s.history.minted + 1),
        s.withTransport caller.purpose.bare (egressUrl text)⟩)
    exact .fresh t caller (egressUrl text) ht hpc hsame.lastUrl hsame.urls
      (sourceReturned_answers ..)
  | failed => exact .failed t caller ht hpc (sourceReturned_answers ..)
  | cancelled => exact .none rfl

theorem answers_of_step {s s' : CameraState} {action : CameraAction} (h : Step s action s') :
    Answers s s' := by
  cases h with
  | pass d => exact .none rfl
  | options ffmpegStream go2rtc => exact .none rfl
  | report activity => exact .none (handleCoordinatorUpdate_answers _)
  | update => exact .none (handleCoordinatorUpdate_answers s)
  | source probing bare => exact answers_streamSource s probing bare
  | create => exact .none (asyncCreateStream_answers s)
  | stopped t caller finished ht hpc => exact .none (superCreateStream_answers s t)
  | stopFailed t => exact .none rfl
  | acquire t caller ht hpc hlock =>
    unfold underLock
    split
    case h_1 n url hurl => exact .cached t caller (n, url) ht hpc hurl (sourceReturned_answers ..)
    case h_2 => exact .none rfl
  | answer t caller outcome ht hpc => exact answers_startStreamReturned ht hpc outcome
  | cancel t => exact .none rfl
  | begin n capture hn hpc => exact .none (beginCapture_answers s n)
  | grabbedFrame n capture stream hn hpc => exact .none rfl
  | grabbedNone n capture stream hn hpc => exact .none (dropStream_answers ..)
  | archived n capture stream hn hpc => exact .none (dropStream_answers ..)
  | archiveFailed n => exact .none rfl
  | cancelCapture n => exact .none rfl

/-! ## The cached URL -/

/-- What a step does to the cached URL and to the calls of `start_stream`. -/
inductive UrlStep (s : CameraState) (action : CameraAction) (s' : CameraState) : Prop
  | kept (hurl : s'.lastUrl = s.lastUrl) (hminted : s'.history.minted = s.history.minted)
      (hurls : s'.history.urls = s.history.urls) (hissued : s'.history.issued = s.history.issued)
      (hdiscarded : s'.history.discarded = s.history.discarded)
  | issued (t : Nat) (caller : Caller) (haction : action = .acquire t)
      (ht : s.callers[t]? = some caller) (hpc : caller.pc = .wantLock) (hnone : s.reusable = none)
      (hurl : s'.lastUrl = s.lastUrl) (hminted : s'.history.minted = s.history.minted)
      (hurls : s'.history.urls = s.history.urls)
      (hdiscarded : s'.history.discarded = s.history.discarded)
  | minted (t : Nat) (caller : Caller) (text : String) (haction : action = .answer t (.url text))
      (ht : s.callers[t]? = some caller) (hpc : caller.pc = .calling)
      (hurl : s'.lastUrl = some (s.now, s.history.minted + 1, egressUrl text))
      (hminted : s'.history.minted = s.history.minted + 1)
      (hurls : s'.history.urls = s.history.urls ++ [egressUrl text])
      (hissued : s'.history.issued = s.history.issued)
      (hdiscarded : s'.history.discarded = s.history.discarded)
  | dropped (n : Nat) (capture : Capture) (stream : Stream) (hn : s.captures[n]? = some capture)
      (hattached : s.attached stream = true)
      (haction : action = .grabbed n false ∧ capture.pc = .grabbing stream ∨
        action = .archived n true ∧ capture.pc = .archiving stream)
      (hurl : s'.lastUrl = none) (hminted : s'.history.minted = s.history.minted)
      (hurls : s'.history.urls = s.history.urls) (hissued : s'.history.issued = s.history.issued)
      (hdiscarded : ∀ d ∈ s'.history.discarded, d ∈ s.history.discarded ∨
        ∃ mintedAt url text, s.lastUrl = some (mintedAt, url, text) ∧ d = (capture.endedAt, url))

theorem UrlStep.ofSame {s s' : CameraState} {action : CameraAction} (h : SameSessions s s') :
    UrlStep s action s' :=
  .kept h.lastUrl h.minted h.urls h.issued h.discarded

theorem urlStep_dropStream {s : CameraState} {action : CameraAction} {n : Nat} {capture : Capture}
    {stream : Stream} (hn : s.captures[n]? = some capture)
    (haction : action = .grabbed n false ∧ capture.pc = .grabbing stream ∨
      action = .archived n true ∧ capture.pc = .archiving stream) :
    UrlStep s action (s.dropStream n capture.endedAt stream) := by
  unfold dropStream
  split
  case isTrue hattached =>
    refine .dropped n capture stream hn hattached haction rfl rfl rfl rfl ?_
    intro d hd
    cases hlast : s.lastUrl with
    | none =>
      simp only [hlast] at hd
      exact Or.inl hd
    | some last =>
      obtain ⟨mintedAt, url, text⟩ := last
      simp only [hlast, List.mem_append, List.mem_singleton] at hd
      rcases hd with hd | hd
      · exact Or.inl hd
      · exact Or.inr ⟨mintedAt, url, text, rfl, hd⟩
  case isFalse => exact .kept rfl rfl rfl rfl rfl

theorem urlStep_of_step {s s' : CameraState} {action : CameraAction} (h : Step s action s') :
    UrlStep s action s' := by
  cases h with
  | pass d => exact .kept rfl rfl rfl rfl rfl
  | options ffmpegStream go2rtc => exact .kept rfl rfl rfl rfl rfl
  | report activity =>
    obtain ⟨isStreaming, captures, retired, hupdate⟩ :=
      handleCoordinatorUpdate_frame (s.stored activity)
    rw [report, hupdate]
    exact .kept rfl rfl rfl rfl rfl
  | update =>
    obtain ⟨isStreaming, captures, retired, hupdate⟩ := handleCoordinatorUpdate_frame s
    rw [hupdate]
    exact .kept rfl rfl rfl rfl rfl
  | source probing bare => exact .ofSame (sameSessions_streamSource s probing bare)
  | create => exact .ofSame (sameSessions_asyncCreateStream s)
  | stopped t caller finished ht hpc => exact .ofSame (sameSessions_superCreateStream s t)
  | stopFailed t => exact .ofSame (sameSessions_setPc s t _)
  | acquire t caller ht hpc hlock =>
    unfold underLock
    split
    case h_1 n url hurl => exact .ofSame (sameSessions_sourceReturned ..)
    case h_2 hnone => exact .issued t caller rfl ht hpc hnone rfl rfl rfl rfl
  | answer t caller outcome ht hpc =>
    cases outcome with
    | url text =>
      have hsame := sameSessions_sourceReturned
        ({ s with streamLock := none }.mint (egressUrl text)) t caller
        (some ⟨.minted (s.history.minted + 1),
          s.withTransport caller.purpose.bare (egressUrl text)⟩)
      exact .minted t caller text rfl ht hpc hsame.lastUrl hsame.minted hsame.urls hsame.issued
        hsame.discarded
    | failed =>
      have hsame := sameSessions_sourceReturned { s with streamLock := none } t caller none
      exact .kept hsame.lastUrl hsame.minted hsame.urls hsame.issued hsame.discarded
    | cancelled => exact .kept rfl rfl rfl rfl rfl
  | cancel t => exact .ofSame (sameSessions_setPc s t _)
  | begin n capture hn hpc => exact .ofSame (sameSessions_beginCapture s n)
  | grabbedFrame n capture stream hn hpc => exact .ofSame (sameSessions_setCapture s n _)
  | grabbedNone n capture stream hn hpc => exact urlStep_dropStream hn (Or.inl ⟨rfl, hpc⟩)
  | archived n capture stream hn hpc => exact urlStep_dropStream hn (Or.inr ⟨rfl, hpc⟩)
  | archiveFailed n => exact .ofSame (sameSessions_setCapture s n _)
  | cancelCapture n => exact .ofSame (sameSessions_setCapture s n _)

/-! ## The clock and the reports -/

/-- The clock and what Arlo has reported of the sessions are left alone. -/
structure SameReports (s s' : CameraState) : Prop where
  now : s'.now = s.now
  live : s'.history.live = s.history.live
  retired : s'.history.retired = s.history.retired

theorem SameReports.ofSame {s s' : CameraState} (h : SameSessions s s') : SameReports s s' :=
  ⟨h.now, h.live, h.retired⟩

theorem sameReports_underLock (s : CameraState) (t : Nat) (caller : Caller) :
    SameReports s (s.underLock t caller) := by
  unfold underLock
  split
  · exact .ofSame (sameSessions_sourceReturned ..)
  · exact ⟨rfl, rfl, rfl⟩

theorem sameReports_startStreamReturned (s : CameraState) (t : Nat) (caller : Caller)
    (outcome : Outcome) : SameReports s (s.startStreamReturned t caller outcome) := by
  cases outcome with
  | url text =>
    have hsame := sameSessions_sourceReturned ({ s with streamLock := none }.mint (egressUrl text))
      t caller (some ⟨.minted (s.history.minted + 1),
        s.withTransport caller.purpose.bare (egressUrl text)⟩)
    exact ⟨hsame.now, hsame.live, hsame.retired⟩
  | failed =>
    have hsame := sameSessions_sourceReturned { s with streamLock := none } t caller none
    exact ⟨hsame.now, hsame.live, hsame.retired⟩
  | cancelled => exact ⟨rfl, rfl, rfl⟩

theorem sameReports_dropStream (s : CameraState) (n endedAt : Nat) (stream : Stream) :
    SameReports s (s.dropStream n endedAt stream) := by
  unfold dropStream
  split
  · exact ⟨rfl, rfl, rfl⟩
  · exact ⟨rfl, rfl, rfl⟩

/-- Only time that passes, an update and a report of Arlo touch the clock or the reports. -/
inductive ReportStep (s : CameraState) : CameraAction → CameraState → Prop
  | pass (d : Nat) : ReportStep s (.pass d) { s with now := s.now + d }
  | report (activity : String) : ReportStep s (.report activity) (s.report activity)
  | update : ReportStep s .update s.handleCoordinatorUpdate
  | silent {action : CameraAction} {s' : CameraState}
      (hreport : ∀ activity, action ≠ .report activity) (hupdate : action ≠ .update)
      (hsame : SameReports s s') : ReportStep s action s'

theorem reportStep_of_step {s s' : CameraState} {action : CameraAction} (h : Step s action s') :
    ReportStep s action s' := by
  cases h with
  | pass d => exact .pass d
  | options ffmpegStream go2rtc => exact .silent (by simp) (by simp) ⟨rfl, rfl, rfl⟩
  | report activity => exact .report activity
  | update => exact .update
  | source probing bare =>
    exact .silent (by simp) (by simp) (.ofSame (sameSessions_streamSource s probing bare))
  | create =>
    exact .silent (by simp) (by simp) (.ofSame (sameSessions_asyncCreateStream s))
  | stopped t caller finished ht hpc =>
    exact .silent (by simp) (by simp) (.ofSame (sameSessions_superCreateStream s t))
  | stopFailed t => exact .silent (by simp) (by simp) (.ofSame (sameSessions_setPc s t _))
  | acquire t caller ht hpc hlock =>
    exact .silent (by simp) (by simp) (sameReports_underLock s t caller)
  | answer t caller outcome ht hpc =>
    exact .silent (by simp) (by simp) (sameReports_startStreamReturned s t caller outcome)
  | cancel t => exact .silent (by simp) (by simp) (.ofSame (sameSessions_setPc s t _))
  | begin n capture hn hpc =>
    exact .silent (by simp) (by simp) (.ofSame (sameSessions_beginCapture s n))
  | grabbedFrame n capture stream hn hpc =>
    exact .silent (by simp) (by simp) (.ofSame (sameSessions_setCapture s n _))
  | grabbedNone n capture stream hn hpc =>
    exact .silent (by simp) (by simp) (sameReports_dropStream s n _ stream)
  | archived n capture stream hn hpc =>
    exact .silent (by simp) (by simp) (sameReports_dropStream s n _ stream)
  | archiveFailed n =>
    exact .silent (by simp) (by simp) (.ofSame (sameSessions_setCapture s n _))
  | cancelCapture n =>
    exact .silent (by simp) (by simp) (.ofSame (sameSessions_setCapture s n _))

theorem handleCoordinatorUpdate_now (s : CameraState) : s.handleCoordinatorUpdate.now = s.now := by
  obtain ⟨isStreaming, captures, retired, hupdate⟩ := handleCoordinatorUpdate_frame s
  rw [hupdate]

theorem now_of_step {s s' : CameraState} {action : CameraAction} (h : Step s action s') :
    s.now ≤ s'.now := by
  cases reportStep_of_step h with
  | pass d => exact Nat.le_add_right s.now d
  | report activity => exact Nat.le_of_eq (handleCoordinatorUpdate_now (s.stored activity)).symm
  | update => exact Nat.le_of_eq (handleCoordinatorUpdate_now s).symm
  | silent hreport hupdate hsame => exact Nat.le_of_eq hsame.now.symm

/-! ## The Stream -/

/-- What a step does to the Stream of the entity, and the Stream it returns to a viewer. -/
inductive StreamStep (s s' : CameraState) : Prop
  | kept (hstream : s'.stream = s.stream) (hbuilt : s'.built = s.built)
      (hhanded : s'.history.handed = s.history.handed)
  | dropped (hstream : s'.stream = none) (hbuilt : s'.built = s.built)
      (hhanded : s'.history.handed = s.history.handed)
  | returned (stream : Stream) (hsame : SameSessions s s') (hold : s.stream = some stream)
      (hstream : s'.stream = some stream) (hbuilt : s'.built = s.built)
      (hhanded : s'.history.handed =
        s.history.handed ++ [⟨stream, s.history.minted, s.history.live⟩])
  | built (source : Source) (horigin : source.origin = .minted s'.history.minted)
      (hstream : s'.stream = some ⟨s.built, source⟩) (hbuilt : s'.built = s.built + 1)
      (hhanded : s'.history.handed =
        s.history.handed ++ [⟨⟨s.built, source⟩, s'.history.minted, s'.history.live⟩])

theorem streamStep_superCreateStream (s : CameraState) (t : Nat) :
    StreamStep s (s.superCreateStream t) := by
  have hsame := sameSessions_superCreateStream s t
  unfold superCreateStream at hsame ⊢
  split
  case h_1 stream hstream =>
    simp only [hstream] at hsame
    exact .returned stream hsame hstream hstream rfl rfl
  case h_2 => exact .kept rfl rfl rfl

theorem streamStep_asyncCreateStream (s : CameraState) : StreamStep s s.asyncCreateStream := by
  have hcreate : StreamStep s ((s.call ⟨.create, s.history.retired, .done⟩).superCreateStream
      s.callers.length) := by
    cases streamStep_superCreateStream (s.call ⟨.create, s.history.retired, .done⟩)
      s.callers.length with
    | kept hstream hbuilt hhanded => exact .kept hstream hbuilt hhanded
    | dropped hstream hbuilt hhanded => exact .dropped hstream hbuilt hhanded
    | returned stream hsame hold hstream hbuilt hhanded =>
      exact .returned stream ((sameSessions_call s _).trans hsame) hold hstream hbuilt hhanded
    | built source horigin hstream hbuilt hhanded =>
      exact .built source horigin hstream hbuilt hhanded
  unfold asyncCreateStream
  split
  · split
    · exact .dropped rfl rfl rfl
    · exact hcreate
  · exact hcreate

/-- A source that is returned is the newest URL, and may have a Stream built around it. -/
theorem streamStep_sourceReturned {s b : CameraState} (hstream : b.stream = s.stream)
    (hbuilt : b.built = s.built) (hhanded : b.history.handed = s.history.handed) (t : Nat)
    (caller : Caller) {source : Option Source}
    (hsource : ∀ src, source = some src → src.origin = .minted b.history.minted) :
    StreamStep s (b.sourceReturned t caller source) := by
  unfold sourceReturned
  split
  case h_1 src hpurpose =>
    refine .built src (hsource src rfl) ?_ ?_ ?_
    · rw [← hbuilt]
      rfl
    · rw [← hbuilt]
      rfl
    · rw [← hbuilt, ← hhanded]
      rfl
  case h_2 => exact .kept hstream hbuilt hhanded

theorem streamStep_streamSource (s : CameraState) (probing bare : Bool) :
    StreamStep s (s.streamSource probing bare) := by
  unfold streamSource
  split
  · exact .kept rfl rfl rfl
  · exact .kept rfl rfl rfl

theorem streamStep_dropStream (s : CameraState) (n endedAt : Nat) (stream : Stream) :
    StreamStep s (s.dropStream n endedAt stream) := by
  unfold dropStream
  split
  · exact .dropped rfl rfl rfl
  · exact .kept rfl rfl rfl

theorem streamStep_of_step {s s' : CameraState} (hcoherent : Coherent s) {action : CameraAction}
    (h : Step s action s') : StreamStep s s' := by
  cases h with
  | pass d => exact .kept rfl rfl rfl
  | options ffmpegStream go2rtc => exact .kept rfl rfl rfl
  | report activity =>
    obtain ⟨isStreaming, captures, retired, hupdate⟩ :=
      handleCoordinatorUpdate_frame (s.stored activity)
    rw [report, hupdate]
    exact .kept rfl rfl rfl
  | update =>
    obtain ⟨isStreaming, captures, retired, hupdate⟩ := handleCoordinatorUpdate_frame s
    rw [hupdate]
    exact .kept rfl rfl rfl
  | source probing bare => exact streamStep_streamSource s probing bare
  | create => exact streamStep_asyncCreateStream s
  | stopped t caller finished ht hpc => exact streamStep_superCreateStream s t
  | stopFailed t => exact .kept rfl rfl rfl
  | acquire t caller ht hpc hlock =>
    unfold underLock
    split
    case h_1 n url hurl =>
      obtain ⟨mintedAt, hlast, -⟩ := reusable_eq_some.mp hurl
      refine streamStep_sourceReturned rfl rfl rfl t caller fun src hsrc => ?_
      cases hsrc
      exact congrArg Origin.minted (hcoherent.newest mintedAt n url hlast)
    case h_2 => exact .kept rfl rfl rfl
  | answer t caller outcome ht hpc =>
    cases outcome with
    | url text =>
      refine streamStep_sourceReturned (s := s)
        (b := { s with streamLock := none }.mint (egressUrl text)) rfl rfl rfl t caller
        fun src hsrc => ?_
      cases hsrc
      rfl
    | failed =>
      refine streamStep_sourceReturned (s := s) (b := { s with streamLock := none }) rfl rfl rfl t
        caller fun src hsrc => ?_
      cases hsrc
    | cancelled => exact .kept rfl rfl rfl
  | cancel t => exact .kept rfl rfl rfl
  | begin n capture hn hpc =>
    unfold beginCapture
    split <;> exact .kept rfl rfl rfl
  | grabbedFrame n capture stream hn hpc => exact .kept rfl rfl rfl
  | grabbedNone n capture stream hn hpc => exact streamStep_dropStream s n _ stream
  | archived n capture stream hn hpc => exact streamStep_dropStream s n _ stream
  | archiveFailed n => exact .kept rfl rfl rfl
  | cancelCapture n => exact .kept rfl rfl rfl

/-! ## Captures and retired URLs -/

/-- The camera is seen to leave the streaming states. -/
def Leaves (s : CameraState) : CameraAction → Prop
  | .report activity => s.isStreaming = true ∧ streamingState (some activity) = false
  | .update => s.isStreaming = true ∧ streamingState s.activityState = false
  | _ => False

/-- Where a capture comes from that there is after a step. -/
inductive CaptureFrom (s : CameraState) (action : CameraAction) : Capture → Prop
  | same (capture : Capture) (hmem : capture ∈ s.captures) : CaptureFrom s action capture
  | done (capture : Capture) (hmem : capture ∈ s.captures) :
      CaptureFrom s action { capture with pc := .done }
  | grabbing (capture : Capture) (stream : Stream) (hmem : capture ∈ s.captures)
      (hpc : capture.pc = .scheduled) (hstream : s.stream = some stream) :
      CaptureFrom s action { capture with pc := .grabbing stream }
  | archiving (capture : Capture) (stream : Stream) (hmem : capture ∈ s.captures)
      (hpc : capture.pc = .grabbing stream) :
      CaptureFrom s action { capture with pc := .archiving stream }
  | scheduled (hleaves : Leaves s action) :
      CaptureFrom s action ⟨s.history.minted, .scheduled⟩

theorem mem_setCapture {s : CameraState} {n : Nat} {pc : CapturePc} {capture : Capture}
    (h : capture ∈ (s.setCapture n pc).captures) : capture ∈ s.captures ∨
      ∃ before, s.captures[n]? = some before ∧ capture = { before with pc } := by
  obtain ⟨m, hm⟩ := List.mem_iff_getElem?.mp h
  rw [setCapture, List.getElem?_modify] at hm
  obtain ⟨before, hbefore, hmoved⟩ := Option.map_eq_some_iff.mp hm
  by_cases heq : n = m
  · subst heq
    rw [if_pos rfl] at hmoved
    exact Or.inr ⟨before, hbefore, hmoved.symm⟩
  · rw [if_neg heq] at hmoved
    exact Or.inl (hmoved ▸ List.mem_of_getElem? hbefore)

theorem captureFrom_setCapture_done {s : CameraState} {action : CameraAction} {n : Nat}
    {capture : Capture} (h : capture ∈ (s.setCapture n .done).captures) :
    CaptureFrom s action capture := by
  rcases mem_setCapture h with hmem | ⟨before, hbefore, rfl⟩
  · exact .same capture hmem
  · exact .done before (List.mem_of_getElem? hbefore)

theorem captureFrom_dropStream {s : CameraState} {action : CameraAction} {n endedAt : Nat}
    {stream : Stream} {capture : Capture}
    (h : capture ∈ (s.dropStream n endedAt stream).captures) : CaptureFrom s action capture := by
  unfold dropStream at h
  split at h
  · exact captureFrom_setCapture_done h
  · exact captureFrom_setCapture_done h

theorem captureFrom_beginCapture {s : CameraState} {action : CameraAction} {n : Nat}
    {begun capture : Capture} (hn : s.captures[n]? = some begun) (hpc : begun.pc = .scheduled)
    (h : capture ∈ (s.beginCapture n).captures) : CaptureFrom s action capture := by
  unfold beginCapture at h
  split at h
  case h_1 => exact captureFrom_setCapture_done h
  case h_2 stream hstream =>
    rcases mem_setCapture h with hmem | ⟨before, hbefore, rfl⟩
    · exact .same capture hmem
    · rw [hn] at hbefore
      cases hbefore
      exact .grabbing begun stream (List.mem_of_getElem? hn) hpc hstream

theorem captureFrom_handleCoordinatorUpdate {s b : CameraState} {action : CameraAction}
    (hcaptures : b.captures = s.captures) (hminted : b.history.minted = s.history.minted)
    (hleaves : b.isStreaming = true → streamingState b.activityState = false → Leaves s action)
    {capture : Capture} (h : capture ∈ b.handleCoordinatorUpdate.captures) :
    CaptureFrom s action capture := by
  unfold handleCoordinatorUpdate at h
  split at h
  case isTrue hleft =>
    simp only [Bool.and_eq_true, Bool.not_eq_true'] at hleft
    unfold sessionEnded at h
    simp only at h
    split at h
    · rcases List.mem_append.mp h with hmem | hmem
      · exact .same capture (hcaptures ▸ hmem)
      · rw [List.mem_singleton.mp hmem, hminted]
        exact .scheduled (hleaves hleft.1 hleft.2)
    · exact .same capture (hcaptures ▸ h)
  case isFalse => exact .same capture (hcaptures ▸ h)

theorem sourceReturned_captures (s : CameraState) (t : Nat) (caller : Caller)
    (source : Option Source) : (s.sourceReturned t caller source).captures = s.captures := by
  unfold sourceReturned
  split <;> rfl

theorem superCreateStream_captures (s : CameraState) (t : Nat) :
    (s.superCreateStream t).captures = s.captures := by
  unfold superCreateStream
  split <;> rfl

theorem asyncCreateStream_captures (s : CameraState) :
    s.asyncCreateStream.captures = s.captures := by
  unfold asyncCreateStream
  split
  · split
    · rfl
    · exact superCreateStream_captures _ _
  · exact superCreateStream_captures _ _

theorem streamSource_captures (s : CameraState) (probing bare : Bool) :
    (s.streamSource probing bare).captures = s.captures := by
  unfold streamSource
  split
  · exact sourceReturned_captures ..
  · rfl

theorem underLock_captures (s : CameraState) (t : Nat) (caller : Caller) :
    (s.underLock t caller).captures = s.captures := by
  unfold underLock
  split
  · exact sourceReturned_captures ..
  · rfl

theorem startStreamReturned_captures (s : CameraState) (t : Nat) (caller : Caller)
    (outcome : Outcome) : (s.startStreamReturned t caller outcome).captures = s.captures := by
  cases outcome with
  | url text => exact sourceReturned_captures ..
  | failed => exact sourceReturned_captures ..
  | cancelled => rfl

theorem captureFrom_of_step {s s' : CameraState} {action : CameraAction} (h : Step s action s')
    {capture : Capture} (hmem : capture ∈ s'.captures) : CaptureFrom s action capture := by
  cases h with
  | pass d => exact .same capture hmem
  | options ffmpegStream go2rtc => exact .same capture hmem
  | report activity =>
    refine captureFrom_handleCoordinatorUpdate (s := s) (b := s.stored activity) rfl rfl ?_ hmem
    intro hstreaming hleft
    exact ⟨hstreaming, hleft⟩
  | update =>
    refine captureFrom_handleCoordinatorUpdate (b := s) rfl rfl ?_ hmem
    intro hstreaming hleft
    exact ⟨hstreaming, hleft⟩
  | source probing bare => exact .same capture (streamSource_captures s probing bare ▸ hmem)
  | create => exact .same capture (asyncCreateStream_captures s ▸ hmem)
  | stopped t caller finished ht hpc =>
    exact .same capture (superCreateStream_captures s t ▸ hmem)
  | stopFailed t => exact .same capture hmem
  | acquire t caller ht hpc hlock => exact .same capture (underLock_captures s t caller ▸ hmem)
  | answer t caller outcome ht hpc =>
    exact .same capture (startStreamReturned_captures s t caller outcome ▸ hmem)
  | cancel t => exact .same capture hmem
  | begin n begun hn hpc => exact captureFrom_beginCapture hn hpc hmem
  | grabbedFrame n grabbed stream hn hpc =>
    rcases mem_setCapture hmem with hmem | ⟨before, hbefore, rfl⟩
    · exact .same capture hmem
    · rw [hn] at hbefore
      cases hbefore
      exact .archiving grabbed stream (List.mem_of_getElem? hn) hpc
  | grabbedNone n grabbed stream hn hpc => exact captureFrom_dropStream hmem
  | archived n kept stream hn hpc => exact captureFrom_dropStream hmem
  | archiveFailed n => exact captureFrom_setCapture_done hmem
  | cancelCapture n => exact captureFrom_setCapture_done hmem

theorem retired_handleCoordinatorUpdate (s : CameraState) :
    s.handleCoordinatorUpdate.history.retired =
      if s.isStreaming = true ∧ streamingState s.activityState = false then s.history.minted
      else s.history.retired := by
  unfold handleCoordinatorUpdate
  cases s.isStreaming <;> cases streamingState s.activityState <;> rfl

/-- The URLs are retired when the camera leaves the streaming states, and only then. -/
theorem retired_of_step {s s' : CameraState} {action : CameraAction} (h : Step s action s') :
    (Leaves s action ∧ s'.history.retired = s.history.minted) ∨
      ¬ Leaves s action ∧ s'.history.retired = s.history.retired := by
  cases reportStep_of_step h with
  | pass d => exact Or.inr ⟨id, rfl⟩
  | report activity =>
    have hretired := retired_handleCoordinatorUpdate (s.stored activity)
    split at hretired
    case isTrue hleft => exact Or.inl ⟨hleft, hretired⟩
    case isFalse hleft => exact Or.inr ⟨hleft, hretired⟩
  | update =>
    have hretired := retired_handleCoordinatorUpdate s
    split at hretired
    case isTrue hleft => exact Or.inl ⟨hleft, hretired⟩
    case isFalse hleft => exact Or.inr ⟨hleft, hretired⟩
  | silent hreport hupdate hsame =>
    refine Or.inr ⟨fun hleaves => ?_, hsame.retired⟩
    cases action with
    | report activity => exact hreport activity rfl
    | update => exact hupdate rfl
    | _ => exact hleaves

/-! ## When a caller has called -/

/-- The callers of `l'` have called as those of `l` have, or with `retired` URLs behind them. -/
def Since (retired : Nat) (l l' : List Caller) : Prop :=
  ∀ caller ∈ l', (∃ before ∈ l, caller.since = before.since) ∨ caller.since = retired

theorem Since.refl (retired : Nat) (l : List Caller) : Since retired l l := by
  intro caller hmem
  exact Or.inl ⟨caller, hmem, rfl⟩

theorem Since.modify {retired : Nat} {l : List Caller} {t : Nat} {f : Caller → Caller}
    (hf : ∀ caller, (f caller).since = caller.since ∨ (f caller).since = retired) :
    Since retired l (l.modify t f) := by
  intro caller hmem
  obtain ⟨u, hu⟩ := List.mem_iff_getElem?.mp hmem
  rw [List.getElem?_modify] at hu
  obtain ⟨before, hbefore, hmoved⟩ := Option.map_eq_some_iff.mp hu
  by_cases heq : t = u
  · rw [if_pos heq] at hmoved
    subst hmoved
    rcases hf before with hsince | hsince
    · exact Or.inl ⟨before, List.mem_of_getElem? hbefore, hsince⟩
    · exact Or.inr hsince
  · rw [if_neg heq] at hmoved
    exact Or.inl ⟨before, List.mem_of_getElem? hbefore, by rw [← hmoved]⟩

theorem Since.trans {retired : Nat} {l l' l'' : List Caller} (h : Since retired l l')
    (h' : Since retired l' l'') : Since retired l l'' := by
  intro caller hmem
  rcases h' caller hmem with ⟨before, hbefore, hsince⟩ | hsince
  · rw [hsince]
    exact h before hbefore
  · exact Or.inr hsince

theorem Since.append {retired : Nat} {l : List Caller} {caller : Caller}
    (hsince : caller.since = retired) : Since retired l (l ++ [caller]) := by
  intro other hmem
  rcases List.mem_append.mp hmem with hmem | hmem
  · exact Or.inl ⟨other, hmem, rfl⟩
  · rw [List.mem_singleton.mp hmem]
    exact Or.inr hsince

theorem since_setPc (s : CameraState) (t : Nat) (pc : CallerPc) (retired : Nat) :
    Since retired s.callers (s.setPc t pc).callers :=
  Since.modify fun _ => Or.inl rfl

theorem since_superCreateStream (s : CameraState) (t : Nat) :
    Since s.history.retired s.callers (s.superCreateStream t).callers := by
  unfold superCreateStream
  split
  · exact since_setPc s t _ _
  · exact Since.modify fun _ => Or.inr rfl

theorem since_asyncCreateStream (s : CameraState) :
    Since s.history.retired s.callers s.asyncCreateStream.callers := by
  have hcreate : Since s.history.retired s.callers
      ((s.call ⟨.create, s.history.retired, .done⟩).superCreateStream s.callers.length).callers := by
    have hcall : Since s.history.retired s.callers
        (s.call ⟨.create, s.history.retired, .done⟩).callers := Since.append rfl
    exact hcall.trans (since_superCreateStream (s.call _) _)
  unfold asyncCreateStream
  split
  · split
    · exact Since.append rfl
    · exact hcreate
  · exact hcreate

theorem since_of_step {s s' : CameraState} {action : CameraAction} (h : Step s action s') :
    Since s.history.retired s.callers s'.callers := by
  cases h with
  | report activity =>
    obtain ⟨isStreaming, captures, retired, hupdate⟩ :=
      handleCoordinatorUpdate_frame (s.stored activity)
    rw [report, hupdate]
    exact Since.refl _ _
  | update =>
    obtain ⟨isStreaming, captures, retired, hupdate⟩ := handleCoordinatorUpdate_frame s
    rw [hupdate]
    exact Since.refl _ _
  | source probing bare =>
    unfold streamSource
    split
    · rw [sourceReturned_callers]
      exact (Since.append rfl).trans (since_setPc (s.call _) _ _ _)
    · exact Since.append rfl
  | create => exact since_asyncCreateStream s
  | stopped t caller finished ht hpc => exact since_superCreateStream s t
  | stopFailed t => exact since_setPc s t _ _
  | acquire t caller ht hpc hlock =>
    unfold underLock
    split
    · rw [sourceReturned_callers]
      exact since_setPc s t _ _
    · exact since_setPc s t _ _
  | answer t caller outcome ht hpc =>
    cases outcome with
    | url text =>
      rw [startStreamReturned, sourceReturned_callers]
      exact since_setPc s t _ _
    | failed =>
      rw [startStreamReturned, sourceReturned_callers]
      exact since_setPc s t _ _
    | cancelled => exact since_setPc s t _ _
  | cancel t => exact since_setPc s t _ _
  | begin n capture hn hpc =>
    rw [beginCapture_callers]
    exact Since.refl _ _
  | grabbedNone n capture stream hn hpc =>
    unfold dropStream
    split <;> exact Since.refl _ _
  | archived n capture stream hn hpc =>
    unfold dropStream
    split <;> exact Since.refl _ _
  | _ => exact Since.refl _ _

end Eisenberg.Camera
