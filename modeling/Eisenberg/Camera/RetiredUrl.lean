import Eisenberg.Camera.Effects

/-!
# Retired URLs

When the camera is seen to leave the streaming states, the URLs minted so far are retired. The cache
is not cleared then but at the end of the capture, and only if there is one; what is cleared is
whatever is cached at that time.
-/

namespace Eisenberg.Camera

open Framework CameraState

/-- No caller has been given a URL that had been retired when it called, and no capture has dropped
a URL that was minted after its session had ended. -/
structure NeverReused (s : CameraState) : Prop where
  given : ∀ answer ∈ s.history.answers, ∀ n text, answer.source = some ⟨.minted n, text⟩ →
    answer.since < n
  dropped : ∀ d ∈ s.history.discarded, d.2 ≤ d.1

/-- Left alone, the capture will drop the cached URL: it has yet to look for a Stream, or the one
it has captured is still attached. -/
def WillDrop (s : CameraState) (capture : Capture) : Prop :=
  capture.pc = .scheduled ∨ ∃ stream, s.attached stream = true ∧
    (capture.pc = .grabbing stream ∨ capture.pc = .archiving stream)

/-- No URL is reusable when the camera leaves the streaming states; and when one is minted, no
capture will drop it. A caller that builds a Stream takes the old one out of the captures' way. -/
structure KeepsApart (s : CameraState) (action : CameraAction) : Prop where
  leaves : Leaves s action → s.reusable = none
  mints : ∀ t text caller, action = .answer t (.url text) → s.callers[t]? = some caller →
    ∀ capture ∈ s.captures, WillDrop s capture →
      caller.purpose = .create ∧ capture.pc ≠ .scheduled

/-- The numbers recorded in the callers, the captures and the Streams. -/
structure Numbered (s : CameraState) : Prop where
  retired : s.history.retired ≤ s.history.minted
  since : ∀ caller ∈ s.callers, caller.since ≤ s.history.retired
  ended : ∀ capture ∈ s.captures, capture.endedAt ≤ s.history.minted
  attached : ∀ stream, s.stream = some stream → stream.id < s.built
  captured : ∀ capture ∈ s.captures, ∀ stream,
    capture.pc = .grabbing stream ∨ capture.pc = .archiving stream → stream.id < s.built

theorem minted_le_of_step {s s' : CameraState} {action : CameraAction} (h : Step s action s') :
    s.history.minted ≤ s'.history.minted := by
  cases urlStep_of_step h with
  | kept hurl hminted hurls hissued hdiscarded => exact Nat.le_of_eq hminted.symm
  | issued t caller haction ht hpc hnone hurl hminted hurls hdiscarded =>
    exact Nat.le_of_eq hminted.symm
  | minted t caller text haction ht hpc hurl hminted hurls hissued hdiscarded => omega
  | dropped n capture stream hn hattached haction hurl hminted hurls hissued hdiscarded =>
    exact Nat.le_of_eq hminted.symm

theorem built_le_of_streamStep {s s' : CameraState} (h : StreamStep s s') :
    s.built ≤ s'.built := by
  cases h with
  | kept hstream hbuilt hhanded => exact Nat.le_of_eq hbuilt.symm
  | dropped hstream hbuilt hhanded => exact Nat.le_of_eq hbuilt.symm
  | returned stream hsame hold hstream hbuilt hhanded => exact Nat.le_of_eq hbuilt.symm
  | built source horigin hstream hbuilt hhanded => omega

theorem Numbered.retired_step {s s' : CameraState} (h : Numbered s) {action : CameraAction}
    (hstep : Step s action s') :
    s.history.retired ≤ s'.history.retired ∧ s'.history.retired ≤ s'.history.minted := by
  have hminted := minted_le_of_step hstep
  have hbound := h.retired
  rcases retired_of_step hstep with ⟨-, hretired⟩ | ⟨-, hretired⟩
  · omega
  · omega

theorem Numbered.step {s s' : CameraState} (h : Numbered s) (hcoherent : Coherent s)
    {action : CameraAction} (hstep : Step s action s') : Numbered s' := by
  have hminted := minted_le_of_step hstep
  have hretired := h.retired_step hstep
  have hstream := streamStep_of_step hcoherent hstep
  have hbuilt := built_le_of_streamStep hstream
  constructor
  case retired => exact hretired.2
  case since =>
    intro caller hmem
    rcases since_of_step hstep caller hmem with ⟨before, hbefore, hsince⟩ | hsince
    · have := h.since before hbefore
      omega
    · omega
  case ended =>
    intro capture hmem
    cases captureFrom_of_step hstep hmem with
    | same _ hbefore => exact Nat.le_trans (h.ended capture hbefore) hminted
    | done before hbefore => exact Nat.le_trans (h.ended before hbefore) hminted
    | grabbing before stream hbefore hpc hs => exact Nat.le_trans (h.ended before hbefore) hminted
    | archiving before stream hbefore hpc => exact Nat.le_trans (h.ended before hbefore) hminted
    | scheduled hleaves => exact hminted
  case attached =>
    intro stream hs'
    cases hstream with
    | kept hstream hb hhanded => exact Nat.lt_of_lt_of_le (h.attached stream (hstream ▸ hs')) hbuilt
    | dropped hstream hb hhanded =>
      rw [hstream] at hs'
      cases hs'
    | returned old hsame hold hstream hb hhanded =>
      rw [hstream] at hs'
      cases hs'
      exact Nat.lt_of_lt_of_le (h.attached stream hold) hbuilt
    | built source horigin hstream hb hhanded =>
      rw [hstream] at hs'
      cases hs'
      simp only [hb]
      omega
  case captured =>
    intro capture hmem stream hpc
    refine Nat.lt_of_lt_of_le ?_ hbuilt
    cases captureFrom_of_step hstep hmem with
    | same _ hbefore => exact h.captured capture hbefore stream hpc
    | done before hbefore => simp at hpc
    | grabbing before old hbefore hscheduled hs =>
      simp only [CapturePc.grabbing.injEq, reduceCtorEq, or_false] at hpc
      exact h.attached stream (hpc ▸ hs)
    | archiving before old hbefore hgrabbing =>
      simp only [CapturePc.archiving.injEq, reduceCtorEq, false_or] at hpc
      exact h.captured before hbefore stream (Or.inl (hpc ▸ hgrabbing))
    | scheduled hleaves => simp at hpc

/-! ## Runs that keep the sessions apart -/

/-- What is reusable is not retired, and what a capture will drop is. -/
structure Apart (s : CameraState) : Prop where
  reusable : ∀ url, s.reusable = some url → s.history.retired < url.1
  pending : ∀ capture ∈ s.captures, WillDrop s capture → ∀ mintedAt n text,
    s.lastUrl = some (mintedAt, n, text) → n ≤ capture.endedAt
  never : NeverReused s

theorem reusable_of_kept {s s' : CameraState} (hurl : s'.lastUrl = s.lastUrl)
    (hnow : s.now ≤ s'.now) {url : Nat × String} (h : s'.reusable = some url) :
    s.reusable = some url := by
  obtain ⟨mintedAt, hlast, hfresh⟩ := reusable_eq_some.mp h
  exact reusable_eq_some.mpr ⟨mintedAt, hurl ▸ hlast, by omega⟩

theorem Apart.reusable_step {s s' : CameraState} (h : Apart s) (hnumbered : Numbered s)
    {action : CameraAction} (hapart : KeepsApart s action) (hstep : Step s action s') :
    ∀ url, s'.reusable = some url → s'.history.retired < url.1 := by
  intro url hreusable
  have hkept : s'.lastUrl = s.lastUrl → s'.history.retired < url.1 := by
    intro hurl
    have hbefore := reusable_of_kept hurl (now_of_step hstep) hreusable
    rcases retired_of_step hstep with ⟨hleaves, -⟩ | ⟨-, hretired⟩
    · rw [hapart.leaves hleaves] at hbefore
      cases hbefore
    · rw [hretired]
      exact h.reusable url hbefore
  cases urlStep_of_step hstep with
  | kept hurl hminted hurls hissued hdiscarded => exact hkept hurl
  | issued t caller haction ht hpc hnone hurl hminted hurls hdiscarded => exact hkept hurl
  | minted t caller text haction ht hpc hurl hminted hurls hissued hdiscarded =>
    obtain ⟨mintedAt, hlast, -⟩ := reusable_eq_some.mp hreusable
    rw [hurl] at hlast
    cases hlast
    have hbound := hnumbered.retired
    rcases retired_of_step hstep with ⟨-, hretired⟩ | ⟨-, hretired⟩
    · simp only [hretired]
      omega
    · simp only [hretired]
      omega
  | dropped n capture stream hn hattached haction hurl hminted hurls hissued hdiscarded =>
    obtain ⟨mintedAt, hlast, -⟩ := reusable_eq_some.mp hreusable
    rw [hurl] at hlast
    cases hlast

theorem attached_before {s s' : CameraState} (hstream : StreamStep s s') {stream : Stream}
    (hid : stream.id < s.built) (h : s'.attached stream = true) : s.attached stream = true := by
  unfold attached at h ⊢
  cases hstream with
  | kept hs hbuilt hhanded => rwa [hs] at h
  | dropped hs hbuilt hhanded => simp [hs] at h
  | returned old hsame hold hs hbuilt hhanded =>
    rw [hold]
    rwa [hs] at h
  | built source horigin hs hbuilt hhanded =>
    simp only [hs, beq_iff_eq] at h
    omega

theorem WillDrop.before {s s' : CameraState} (hnumbered : Numbered s) (hstream : StreamStep s s')
    {action : CameraAction} {capture : Capture} (hfrom : CaptureFrom s action capture)
    (h : WillDrop s' capture) :
    (∃ before ∈ s.captures, before.endedAt = capture.endedAt ∧ WillDrop s before) ∨
      Leaves s action ∧ capture.endedAt = s.history.minted := by
  cases hfrom with
  | same _ hbefore =>
    refine Or.inl ⟨capture, hbefore, rfl, ?_⟩
    rcases h with hscheduled | ⟨stream, hattached, hpc⟩
    · exact Or.inl hscheduled
    · exact Or.inr ⟨stream, attached_before hstream
        (hnumbered.captured capture hbefore stream hpc) hattached, hpc⟩
  | done before hbefore =>
    rcases h with hscheduled | ⟨stream, hattached, hpc⟩
    · cases hscheduled
    · simp at hpc
  | grabbing before stream hbefore hpc hs => exact Or.inl ⟨before, hbefore, rfl, Or.inl hpc⟩
  | archiving before old hbefore hpc =>
    refine Or.inl ⟨before, hbefore, rfl, Or.inr ⟨old, ?_, Or.inl hpc⟩⟩
    rcases h with hscheduled | ⟨stream, hattached, heq⟩
    · cases hscheduled
    · simp only [CapturePc.archiving.injEq, reduceCtorEq, false_or] at heq
      exact attached_before hstream (hnumbered.captured before hbefore old (Or.inl hpc))
        (heq ▸ hattached)
  | scheduled hleaves => exact Or.inr ⟨hleaves, rfl⟩

/-- A caller of `async_create_stream` that is given a URL attaches a Stream of its own. -/
theorem stream_of_create {s : CameraState} {t : Nat} {caller : Caller}
    (hpurpose : caller.purpose = .create) (text : String) :
    ∃ source, (s.startStreamReturned t caller (.url text)).stream = some ⟨s.built, source⟩ := by
  obtain ⟨purpose, since, pc⟩ := caller
  cases hpurpose
  exact ⟨_, rfl⟩

theorem not_willDrop_of_minted {s s' : CameraState} (hnumbered : Numbered s) {t : Nat}
    {text : String} (hapart : KeepsApart s (.answer t (.url text)))
    (hstep : Step s (.answer t (.url text)) s') (hcoherent : Coherent s) :
    ∀ capture ∈ s'.captures, ¬ WillDrop s' capture := by
  intro capture hmem hdrops
  have hstream := streamStep_of_step hcoherent hstep
  cases hstep with
  | answer t caller outcome ht hpc =>
    rw [startStreamReturned_captures] at hmem
    have hbefore : WillDrop s capture := by
      rcases hdrops with hscheduled | ⟨stream, hattached, hpc⟩
      · exact Or.inl hscheduled
      · exact Or.inr ⟨stream, attached_before hstream
          (hnumbered.captured capture hmem stream hpc) hattached, hpc⟩
    obtain ⟨hcreate, hnot⟩ := hapart.mints t text caller rfl ht capture hmem hbefore
    obtain ⟨source, hnew⟩ := stream_of_create (s := s) (t := t) hcreate text
    rcases hdrops with hscheduled | ⟨stream, hattached, hpc⟩
    · exact hnot hscheduled
    · have hid := hnumbered.captured capture hmem stream hpc
      unfold attached at hattached
      simp only [hnew, beq_iff_eq] at hattached
      omega

theorem Apart.pending_step {s s' : CameraState} (h : Apart s) (hcoherent : Coherent s)
    (hnumbered : Numbered s) {action : CameraAction} (hapart : KeepsApart s action)
    (hstep : Step s action s') : ∀ capture ∈ s'.captures, WillDrop s' capture →
      ∀ mintedAt n text, s'.lastUrl = some (mintedAt, n, text) → n ≤ capture.endedAt := by
  intro capture hmem hdrops mintedAt n text hlast
  have hkept : s'.lastUrl = s.lastUrl → n ≤ capture.endedAt := by
    intro hurl
    rw [hurl] at hlast
    rcases hdrops.before hnumbered (streamStep_of_step hcoherent hstep)
      (captureFrom_of_step hstep hmem) with ⟨before, hbefore, hended, hdrop⟩ | ⟨-, hended⟩
    · rw [← hended]
      exact h.pending before hbefore hdrop mintedAt n text hlast
    · rw [hended]
      exact Nat.le_of_eq (hcoherent.newest mintedAt n text hlast)
  cases urlStep_of_step hstep with
  | kept hurl hminted hurls hissued hdiscarded => exact hkept hurl
  | issued t caller haction ht hpc hnone hurl hminted hurls hdiscarded => exact hkept hurl
  | minted t caller minted haction ht hpc hurl hminted hurls hissued hdiscarded =>
    subst haction
    exact absurd hdrops (not_willDrop_of_minted hnumbered hapart hstep hcoherent capture hmem)
  | dropped m dropped stream hn hattached haction hurl hminted hurls hissued hdiscarded =>
    rw [hurl] at hlast
    cases hlast

theorem Apart.given_step {s s' : CameraState} (h : Apart s) (hnumbered : Numbered s)
    {action : CameraAction} (hstep : Step s action s') :
    ∀ answer ∈ s'.history.answers, ∀ n text, answer.source = some ⟨.minted n, text⟩ →
      answer.since < n := by
  have hadd : ∀ new : Answer, s'.history.answers = s.history.answers ++ [new] →
      (∀ n text, new.source = some ⟨.minted n, text⟩ → new.since < n) →
      ∀ answer ∈ s'.history.answers, ∀ n text, answer.source = some ⟨.minted n, text⟩ →
        answer.since < n := by
    intro new hanswers hnew
    rw [hanswers]
    intro answer hmem
    rcases List.mem_append.mp hmem with hmem | hmem
    · exact h.never.given answer hmem
    · rw [List.mem_singleton.mp hmem]
      exact hnew
  cases answers_of_step hstep with
  | none hanswers =>
    rw [hanswers]
    exact h.never.given
  | probe bare hanswers =>
    refine hadd _ hanswers fun n text hsource => ?_
    cases hsource
  | cached t caller url ht hpc hurl hanswers =>
    refine hadd _ hanswers fun n text hsource => ?_
    cases hsource
    exact Nat.lt_of_le_of_lt (hnumbered.since caller (List.mem_of_getElem? ht))
      (h.reusable url hurl)
  | failed t caller ht hpc hanswers =>
    refine hadd _ hanswers fun n text hsource => ?_
    cases hsource
  | fresh t caller url ht hpc hlast hurls hanswers =>
    refine hadd _ hanswers fun n text hsource => ?_
    cases hsource
    have hsince := hnumbered.since caller (List.mem_of_getElem? ht)
    have hbound := hnumbered.retired
    simp only
    omega

theorem Apart.dropped_step {s s' : CameraState} (h : Apart s) {action : CameraAction}
    (hstep : Step s action s') : ∀ d ∈ s'.history.discarded, d.2 ≤ d.1 := by
  intro d hd
  cases urlStep_of_step hstep with
  | kept hurl hminted hurls hissued hdiscarded => exact h.never.dropped d (hdiscarded ▸ hd)
  | issued t caller haction ht hpc hnone hurl hminted hurls hdiscarded =>
    exact h.never.dropped d (hdiscarded ▸ hd)
  | minted t caller text haction ht hpc hurl hminted hurls hissued hdiscarded =>
    exact h.never.dropped d (hdiscarded ▸ hd)
  | dropped n capture stream hn hattached haction hurl hminted hurls hissued hdiscarded =>
    rcases hdiscarded d hd with hold | ⟨mintedAt, url, text, hlast, rfl⟩
    · exact h.never.dropped d hold
    · have hdrops : WillDrop s capture := by
        rcases haction with ⟨-, hpc⟩ | ⟨-, hpc⟩
        · exact Or.inr ⟨stream, hattached, Or.inl hpc⟩
        · exact Or.inr ⟨stream, hattached, Or.inr hpc⟩
      exact h.pending capture (List.mem_of_getElem? hn) hdrops mintedAt url text hlast

theorem Apart.step {s s' : CameraState} (h : Apart s) (hcoherent : Coherent s)
    (hnumbered : Numbered s) {action : CameraAction} (hapart : KeepsApart s action)
    (hstep : Step s action s') : Apart s' where
  reusable := h.reusable_step hnumbered hapart hstep
  pending := h.pending_step hcoherent hnumbered hapart hstep
  never := ⟨h.given_step hnumbered hstep, h.dropped_step hstep⟩

/-! ## Steps that do not keep them apart -/

/-- The `n`-th URL was given to a caller though it had been retired, or dropped by the capture of an
earlier session. -/
def Misused (s : CameraState) (n : Nat) : Prop :=
  (∃ answer ∈ s.history.answers, (∃ text, answer.source = some ⟨.minted n, text⟩) ∧
      n ≤ answer.since) ∨
    ∃ d ∈ s.history.discarded, d.2 = n ∧ d.1 < n

theorem not_neverReused_of_misused {s : CameraState} {n : Nat} (h : Misused s n) :
    ¬ NeverReused s := by
  intro hnever
  rcases h with ⟨answer, hmem, ⟨text, hsource⟩, hle⟩ | ⟨d, hmem, rfl, hlt⟩
  · have := hnever.given answer hmem n text hsource
    omega
  · have := hnever.dropped d hmem
    omega

/-- Arlo neither answers nor reports. -/
def CameraAction.quiet : CameraAction → Bool
  | .answer _ _ | .report _ => false
  | _ => true

/-- Some way on from here on which Arlo is quiet, the URL is misused. -/
def GoesWrong (s : CameraState) (n : Nat) : Prop :=
  ∃ actions s', machine.run s actions = some s' ∧ (∀ action ∈ actions, action.quiet = true) ∧
    Misused s' n

theorem GoesWrong.of_step {s s' : CameraState} {action : CameraAction} {n : Nat}
    (hquiet : action.quiet = true) (hstep : Camera.step s action = some s') (h : GoesWrong s' n) :
    GoesWrong s n := by
  obtain ⟨actions, s'', hrun, hall, hwrong⟩ := h
  exact ⟨action :: actions, s'', machine.run_cons_eq_some.mpr ⟨s', hstep, hrun⟩,
    List.forall_mem_cons.mpr ⟨hquiet, hall⟩, hwrong⟩

theorem GoesWrong.of_now {s : CameraState} {n : Nat} (h : Misused s n) : GoesWrong s n :=
  ⟨[], s, rfl, List.forall_mem_nil _, h⟩

theorem lock_of_reusable {s : CameraState} (hcoherent : Coherent s) {url : Nat × String}
    (hurl : s.reusable = some url) : s.streamLock = none := by
  by_contra hlock
  rw [hcoherent.held hlock] at hurl
  cases hurl

/-- A viewer that asks for the source now is given the URL. -/
theorem goesWrong_of_reusable {s : CameraState} (hcoherent : Coherent s) {url : Nat × String}
    (hurl : s.reusable = some url) (hretired : url.1 ≤ s.history.retired) :
    GoesWrong s url.1 := by
  let caller : Caller := ⟨.source false true, s.history.retired, .wantLock⟩
  have hcall : Camera.step s (.source false true) = some (s.call caller) := rfl
  have hlock : s.streamLock = none := lock_of_reusable hcoherent hurl
  have hacquire := step_acquire (call_getElem? s caller) rfl hlock
  refine .of_step rfl hcall (.of_step rfl hacquire (.of_now ?_))
  have hcached : (s.call caller).reusable = some url := hurl
  have hanswer : (⟨false, s.history.retired, some ⟨.minted url.1, url.2⟩⟩ : Answer) ∈
      ((s.call caller).underLock s.callers.length caller).history.answers := by
    unfold underLock
    simp only [hcached]
    rw [sourceReturned_answers]
    exact List.mem_append_right _ (List.mem_singleton_self _)
  exact Or.inl ⟨_, hanswer, ⟨url.2, rfl⟩, hretired⟩

theorem misused_of_dropStream {s : CameraState} {n : Nat} {capture : Capture}
    {stream : Stream} (hattached : s.attached stream = true) {mintedAt url : Nat} {text : String}
    (hlast : s.lastUrl = some (mintedAt, url, text)) (hnewer : capture.endedAt < url) :
    Misused (s.dropStream n capture.endedAt stream) url := by
  have hdropped : (capture.endedAt, url) ∈
      (s.dropStream n capture.endedAt stream).history.discarded := by
    unfold dropStream
    simp [hattached, hlast]
  exact Or.inr ⟨_, hdropped, rfl, hnewer⟩

theorem goesWrong_of_begun {s : CameraState} {n : Nat} {capture : Capture}
    (hn : s.captures[n]? = some capture) {stream : Stream} (hattached : s.attached stream = true)
    (hpc : capture.pc = .grabbing stream ∨ capture.pc = .archiving stream) {mintedAt url : Nat}
    {text : String} (hlast : s.lastUrl = some (mintedAt, url, text))
    (hnewer : capture.endedAt < url) : GoesWrong s url := by
  rcases hpc with hpc | hpc
  · exact .of_step rfl (step_grabbedNone hn hpc)
      (.of_now (misused_of_dropStream hattached hlast hnewer))
  · exact .of_step rfl (step_archived hn hpc)
      (.of_now (misused_of_dropStream hattached hlast hnewer))

theorem goesWrong_of_scheduled {s : CameraState} {n : Nat} {capture : Capture}
    (hn : s.captures[n]? = some capture) (hpc : capture.pc = .scheduled) {stream : Stream}
    (hstream : s.stream = some stream) {mintedAt url : Nat} {text : String}
    (hlast : s.lastUrl = some (mintedAt, url, text)) (hnewer : capture.endedAt < url) :
    GoesWrong s url := by
  have hbegin : Camera.step s (.begin n) = some (s.setCapture n (.grabbing stream)) := by
    rw [step_begin hn hpc, beginCapture]
    simp only [hstream]
  have hbegun : (s.setCapture n (.grabbing stream)).captures[n]? =
      some { capture with pc := .grabbing stream } := by
    simp [setCapture, hn]
  have hattached : (s.setCapture n (.grabbing stream)).attached stream = true := by
    unfold attached
    simp [setCapture, hstream]
  exact .of_step rfl hbegin (goesWrong_of_begun hbegun hattached (Or.inl rfl) hlast hnewer)

theorem modify_append_length {α : Type} (l : List α) (a : α) (f : α → α) :
    (l ++ [a]).modify l.length f = l ++ [f a] := by
  induction l with
  | nil => rfl
  | cons b l ih => simp only [List.cons_append, List.length_cons, List.modify_succ_cons, ih]

/-- A viewer builds a Stream around the new URL, and the capture takes it for the old one. -/
theorem goesWrong_of_unattached {s : CameraState} (hcoherent : Coherent s) {n : Nat}
    {capture : Capture} (hn : s.captures[n]? = some capture) (hpc : capture.pc = .scheduled)
    (hstream : s.stream = none) {url : Nat × String} (hurl : s.reusable = some url)
    (hnewer : capture.endedAt < url.1) : GoesWrong s url.1 := by
  let caller : Caller := ⟨.create, s.history.retired, .wantLock⟩
  have hcreate : Camera.step s .create = some ((s.call ⟨.create, s.history.retired, .done⟩)
      |>.superCreateStream s.callers.length) := by
    show some s.asyncCreateStream = _
    rw [asyncCreateStream]
    simp only [hstream]
  have hcalled : (s.call ⟨.create, s.history.retired, .done⟩).superCreateStream s.callers.length =
      s.call caller := by
    unfold superCreateStream
    simp only [call, hstream, modify_append_length, caller]
  have hlock : s.streamLock = none := lock_of_reusable hcoherent hurl
  have hcached : (s.call caller).reusable = some url := hurl
  have hacquire := step_acquire (call_getElem? s caller) rfl hlock
  rw [underLock] at hacquire
  simp only [hcached] at hacquire
  rw [hcalled] at hcreate
  obtain ⟨mintedAt, hlast, -⟩ := reusable_eq_some.mp hurl
  refine .of_step rfl hcreate (.of_step rfl hacquire ?_)
  have hsame := sameSessions_sourceReturned (s.call caller) s.callers.length caller
    (some ⟨.minted url.1, (s.call caller).withTransport true url.2⟩)
  exact goesWrong_of_scheduled (by rw [sourceReturned_captures]; exact hn) hpc rfl
    (hsame.lastUrl.trans hlast) hnewer

theorem goesWrong_of_leaves {s s' : CameraState} (hcoherent : Coherent s') {action : CameraAction}
    (hleaves : Leaves s action) (hstep : Step s action s') (hnumbered : Numbered s')
    {url : Nat × String} (hurl : s.reusable = some url) : GoesWrong s' s'.history.minted := by
  obtain ⟨mintedAt, hlast, hfresh⟩ := reusable_eq_some.mp hurl
  have hkept : s'.lastUrl = s.lastUrl ∧ s'.now = s.now ∧
      s'.history.minted = s.history.minted := by
    cases hstep with
    | report activity =>
      obtain ⟨isStreaming, captures, retired, hupdate⟩ :=
        handleCoordinatorUpdate_frame (s.stored activity)
      rw [report, hupdate]
      exact ⟨rfl, rfl, rfl⟩
    | update =>
      obtain ⟨isStreaming, captures, retired, hupdate⟩ := handleCoordinatorUpdate_frame s
      rw [hupdate]
      exact ⟨rfl, rfl, rfl⟩
    | _ => cases hleaves
  have hreusable : s'.reusable = some url :=
    reusable_eq_some.mpr ⟨mintedAt, hkept.1.trans hlast, by omega⟩
  have hnewest := hcoherent.newest mintedAt url.1 url.2 (hkept.1.trans hlast)
  rw [← hnewest]
  refine goesWrong_of_reusable hcoherent hreusable ?_
  rcases retired_of_step hstep with ⟨-, hretired⟩ | ⟨hnot, -⟩
  · omega
  · exact absurd hleaves hnot

theorem stream_of_source {s : CameraState} {t : Nat} {caller : Caller} {text : String}
    (hpurpose : caller.purpose ≠ .create) :
    (s.startStreamReturned t caller (.url text)).stream = s.stream := by
  obtain ⟨purpose, since, pc⟩ := caller
  cases purpose with
  | source probing bare => rfl
  | create => exact absurd rfl hpurpose

theorem goesWrong_of_minted {s s' : CameraState} (hcoherent : Coherent s') (hnumbered : Numbered s)
    {t : Nat} {text : String} (hstep : Step s (.answer t (.url text)) s') {caller : Caller}
    (ht : s.callers[t]? = some caller) {capture : Capture} (hmem : capture ∈ s.captures)
    (hdrops : WillDrop s capture)
    (hpurpose : caller.purpose ≠ .create ∨ capture.pc = .scheduled) :
    GoesWrong s' s'.history.minted := by
  obtain ⟨n, hn⟩ := List.mem_iff_getElem?.mp hmem
  have hended := hnumbered.ended capture hmem
  cases hstep with
  | answer t caller' outcome ht' hpc =>
    rw [ht] at ht'
    cases ht'
    have hn' : (s.startStreamReturned t caller (.url text)).captures[n]? = some capture := by
      rw [startStreamReturned_captures]
      exact hn
    have hlast : (s.startStreamReturned t caller (.url text)).lastUrl =
        some (s.now, s.history.minted + 1, egressUrl text) := by
      rw [startStreamReturned, (sameSessions_sourceReturned ..).lastUrl]
      rfl
    have hnewest : (s.startStreamReturned t caller (.url text)).history.minted =
        s.history.minted + 1 := by
      rw [startStreamReturned, (sameSessions_sourceReturned ..).minted]
      rfl
    rw [hnewest]
    have hnow := (sameReports_startStreamReturned s t caller (.url text)).now
    have hreusable : (s.startStreamReturned t caller (.url text)).reusable =
        some (s.history.minted + 1, egressUrl text) := by
      refine reusable_eq_some.mpr ⟨s.now, hlast, ?_⟩
      rw [hnow, Nat.sub_self]
      decide
    by_cases hscheduled : capture.pc = .scheduled
    · cases hstream : (s.startStreamReturned t caller (.url text)).stream with
      | none =>
        exact goesWrong_of_unattached hcoherent hn' hscheduled hstream hreusable
          (Nat.lt_succ_of_le hended)
      | some stream =>
        exact goesWrong_of_scheduled hn' hscheduled hstream hlast (Nat.lt_succ_of_le hended)
    · have hsource : caller.purpose ≠ .create := hpurpose.resolve_right hscheduled
      obtain ⟨stream, hattached, hstarted⟩ := hdrops.resolve_left hscheduled
      have hattached' : (s.startStreamReturned t caller (.url text)).attached stream = true := by
        unfold attached at hattached ⊢
        rw [stream_of_source hsource]
        exact hattached
      exact goesWrong_of_begun hn' hattached' hstarted hlast (Nat.lt_succ_of_le hended)

/-- A step that does not keep the sessions apart is one from which the newest URL can be misused. -/
theorem goesWrong_of_not_keepsApart {s s' : CameraState} (hcoherent : Coherent s)
    (hnumbered : Numbered s) {action : CameraAction} (hstep : Camera.step s action = some s')
    (hnot : ¬ KeepsApart s action) : GoesWrong s' s'.history.minted := by
  have hcoherent' := hcoherent.step hstep
  have hcases := step_cases hstep
  by_cases hleaves : Leaves s action → s.reusable = none
  · have hmints : ∃ t text caller, action = .answer t (.url text) ∧
        s.callers[t]? = some caller ∧ ∃ capture ∈ s.captures, WillDrop s capture ∧
          (caller.purpose ≠ .create ∨ capture.pc = .scheduled) := by
      by_contra hnone
      refine hnot ⟨hleaves, fun t text caller haction ht capture hmem hdrops => ?_⟩
      by_contra hboth
      exact hnone ⟨t, text, caller, haction, ht, capture, hmem, hdrops, by tauto⟩
    obtain ⟨t, text, caller, rfl, ht, capture, hmem, hdrops, hpurpose⟩ := hmints
    exact goesWrong_of_minted hcoherent' hnumbered hcases ht hmem hdrops hpurpose
  · obtain ⟨hleaves, hreusable⟩ := Classical.not_imp.mp hleaves
    obtain ⟨url, hurl⟩ := Option.ne_none_iff_exists'.mp hreusable
    exact goesWrong_of_leaves hcoherent' hleaves hcases (hnumbered.step hcoherent hcases) hurl

theorem numbered_init (now : Nat) (activityState : Option String) (ffmpegStream go2rtc : Bool) :
    Numbered (.init now activityState ffmpegStream go2rtc) where
  retired := Nat.le_refl 0
  since caller hmem := by cases hmem
  ended capture hmem := by cases hmem
  attached stream hstream := by cases hstream
  captured capture hmem := by cases hmem

theorem apart_init (now : Nat) (activityState : Option String) (ffmpegStream go2rtc : Bool) :
    Apart (.init now activityState ffmpegStream go2rtc) where
  reusable url hurl := by cases hurl
  pending capture hmem := by cases hmem
  never := ⟨fun answer hmem => (by cases hmem), fun d hd => (by cases hd)⟩

/-- A run that keeps the sessions apart at every step reuses and drops nothing it should not; and
after any step that does not, the newest URL is misused on some way on which Arlo is quiet. -/
theorem neverReused_of_keepsApart {now : Nat} {activityState : Option String}
    {ffmpegStream go2rtc : Bool} {actions : List CameraAction} {s : CameraState}
    (hrun : machine.run (.init now activityState ffmpegStream go2rtc) actions = some s) :
    (machine.Along KeepsApart (.init now activityState ffmpegStream go2rtc) actions →
        NeverReused s) ∧
      ∀ action s', Camera.step s action = some s' → ¬ KeepsApart s action →
        ∃ more s'', machine.run s' more = some s'' ∧ (∀ a ∈ more, a.quiet = true) ∧
          Misused s'' s'.history.minted ∧ ¬ NeverReused s'' := by
  have hinvariant : Coherent s ∧ Numbered s := by
    refine machine.run_invariant (I := fun s => Coherent s ∧ Numbered s) ?_ ?_ hrun
    · rintro s action s' ⟨hcoherent, hnumbered⟩ hstep
      exact ⟨hcoherent.step hstep, hnumbered.step hcoherent (step_cases hstep)⟩
    · exact ⟨coherent_init .., numbered_init ..⟩
  constructor
  · intro halong
    have hall : (Coherent s ∧ Numbered s) ∧ Apart s := by
      refine Machine.Along.invariant (I := fun s => (Coherent s ∧ Numbered s) ∧ Apart s) halong
        ?_ ?_ hrun
      · rintro s action s' ⟨⟨hcoherent, hnumbered⟩, hapart⟩ hkeeps hstep
        exact ⟨⟨hcoherent.step hstep, hnumbered.step hcoherent (step_cases hstep)⟩,
          hapart.step hcoherent hnumbered hkeeps (step_cases hstep)⟩
      · exact ⟨⟨coherent_init .., numbered_init ..⟩, apart_init ..⟩
    exact hall.2.never
  · intro action s' hstep hnot
    obtain ⟨more, s'', hmore, hquiet, hmisused⟩ :=
      goesWrong_of_not_keepsApart hinvariant.1 hinvariant.2 hstep hnot
    exact ⟨more, s'', hmore, hquiet, hmisused, not_neverReused_of_misused hmisused⟩

/-- A live view that is over when the reuse window is: the session ends, its last frame is captured,
and the next viewer gets a URL of his own. -/
def viewedTwice : List CameraAction :=
  [.create, .acquire 0, .answer 0 (.url "rtsp://arlo/1"), .report "userStreamActive",
    .pass STREAM_URL_REUSE, .report "idle", .begin 0, .grabbed 0 true, .archived 0 true,
    .create, .acquire 1, .answer 1 (.url "rtsp://arlo/2")]

theorem keepsApart_of_quiet {s : CameraState} {action : CameraAction} (hstays : ¬ Leaves s action)
    (hquiet : ∀ capture ∈ s.captures, ¬ WillDrop s capture) : KeepsApart s action where
  leaves hleaves := absurd hleaves hstays
  mints _ _ _ _ _ capture hmem hdrops := absurd hdrops (hquiet capture hmem)

theorem keepsApart_of_other {s : CameraState} {action : CameraAction} (hstays : ¬ Leaves s action)
    (hother : ∀ t text, action ≠ .answer t (.url text)) : KeepsApart s action where
  leaves hleaves := absurd hleaves hstays
  mints t text _ haction := absurd haction (hother t text)

theorem viewedTwice_keepsApart :
    machine.Along KeepsApart (.init 0 none false false) viewedTwice := by
  refine ⟨keepsApart_of_other id nofun, fun s h => ?_⟩
  cases h
  refine ⟨keepsApart_of_other id nofun, fun s h => ?_⟩
  cases h
  refine ⟨keepsApart_of_quiet id nofun, fun s h => ?_⟩
  cases h
  refine ⟨keepsApart_of_other nofun nofun, fun s h => ?_⟩
  cases h
  refine ⟨keepsApart_of_other id nofun, fun s h => ?_⟩
  cases h
  refine ⟨⟨fun _ => reusable_eq_none.mpr fun mintedAt url hlast => ?_, nofun⟩, fun s h => ?_⟩
  · cases hlast
    show STREAM_URL_REUSE ≤ 0 + STREAM_URL_REUSE - 0
    omega
  cases h
  refine ⟨keepsApart_of_other id nofun, fun s h => ?_⟩
  cases h
  refine ⟨keepsApart_of_other id nofun, fun s h => ?_⟩
  cases h
  refine ⟨keepsApart_of_other id nofun, fun s h => ?_⟩
  cases h
  refine ⟨keepsApart_of_other id nofun, fun s h => ?_⟩
  cases h
  refine ⟨keepsApart_of_other id nofun, fun s h => ?_⟩
  cases h
  refine ⟨keepsApart_of_quiet id ?_, fun s h => trivial⟩
  intro capture hmem
  cases hmem with
  | head =>
    rintro (hpc | ⟨stream, -, hpc⟩)
    · cases hpc
    · rcases hpc with hpc | hpc <;> cases hpc
  | tail _ hmem => cases hmem

/-- The run keeps the sessions apart, and neither of its viewers is given a retired URL. -/
theorem neverReused_viewedTwice :
    machine.Along KeepsApart (.init 0 none false false) viewedTwice ∧
      ∃ s, machine.run (.init 0 none false false) viewedTwice = some s ∧ NeverReused s := by
  obtain ⟨s, hs⟩ : ∃ s, machine.run (.init 0 none false false) viewedTwice = some s := ⟨_, rfl⟩
  exact ⟨viewedTwice_keepsApart, s, hs, (neverReused_of_keepsApart hs).1 viewedTwice_keepsApart⟩

/-- A live view without a Stream that is over within the reuse window, and a viewer after it. -/
def viewedInTheWindow : List CameraAction :=
  [.source false false, .acquire 0, .answer 0 (.url "rtsp://arlo/1"), .report "userStreamActive",
    .report "idle", .source false false, .acquire 1]

/-- The second viewer is given the URL that died with the session of the first one. -/
theorem viewedInTheWindow_reuses :
    ∃ s, machine.run (.init 0 none false false) viewedInTheWindow = some s ∧ ¬ NeverReused s := by
  refine ⟨_, rfl, ?_⟩
  intro hnever
  have hsince := hnever.given ⟨false, 1, some ⟨.minted 1, egressUrl "rtsp://arlo/1"⟩⟩
    (List.mem_of_getElem? (i := 1) rfl) 1 _ rfl
  exact absurd hsince (by decide)

end Eisenberg.Camera
