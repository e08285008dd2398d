import Eisenberg.Camera.Effects

/-!
# One live view, one `start_stream`

While a URL is reused nobody asks Arlo for another one, and every caller but the probe is given it.
-/

namespace Eisenberg.Camera

open Framework CameraState

/-- The placeholder goes to the probe, and a URL of Arlo to everybody else. -/
def Answer.Legitimate (urls : List String) (answer : Answer) : Prop :=
  if answer.probing then
    ∃ text, answer.source = some ⟨.placeholder, text⟩ ∧ UpToTransport PROBE_URL text
  else
    ∀ source, answer.source = some source →
      (∃ n, source.origin = .minted n) ∧ ∃ url ∈ urls, UpToTransport url source.text

/-- The caller has been given the URL, unless it is the probe. -/
def Answer.Shares (url : Nat × String) (answer : Answer) : Prop :=
  answer.probing = true ∨
    ∃ text, answer.source = some ⟨.minted url.1, text⟩ ∧ UpToTransport url.2 text

/-- Whom the answers so far have gone to, and where the cached URL comes from. -/
structure Provenance (s : CameraState) : Prop where
  cached : ∀ mintedAt n url, s.lastUrl = some (mintedAt, n, url) → url ∈ s.history.urls
  answers : ∀ answer ∈ s.history.answers, answer.Legitimate s.history.urls

theorem Answer.Legitimate.mono {urls urls' : List String} {answer : Answer}
    (h : answer.Legitimate urls) (hsub : ∀ url ∈ urls, url ∈ urls') :
    answer.Legitimate urls' := by
  unfold Legitimate at h ⊢
  split
  case isTrue hprobing =>
    rw [if_pos hprobing] at h
    exact h
  case isFalse hprobing =>
    rw [if_neg hprobing] at h
    intro source hsource
    obtain ⟨horigin, url, hurl, htext⟩ := h source hsource
    exact ⟨horigin, url, hsub url hurl, htext⟩

theorem Answer.legitimate_minted {probing : Bool} (hprobing : probing = false) {since n : Nat}
    {text url : String} {urls : List String} (hurl : url ∈ urls) (htext : UpToTransport url text) :
    (⟨probing, since, some ⟨.minted n, text⟩⟩ : Answer).Legitimate urls := by
  subst hprobing
  intro source hsource
  cases hsource
  exact ⟨⟨n, rfl⟩, url, hurl, htext⟩

theorem Answer.legitimate_probe (since : Nat) {text : String} (htext : UpToTransport PROBE_URL text)
    (urls : List String) :
    (⟨true, since, some ⟨.placeholder, text⟩⟩ : Answer).Legitimate urls :=
  ⟨text, rfl, htext⟩

theorem Answer.legitimate_none {probing : Bool} (hprobing : probing = false) (since : Nat)
    (urls : List String) : (⟨probing, since, none⟩ : Answer).Legitimate urls := by
  subst hprobing
  intro source hsource
  cases hsource

/-- A caller that is past the probe's return is not the probe. -/
theorem Coherent.not_probing {s : CameraState} (h : Coherent s) {t : Nat} {caller : Caller}
    (ht : s.callers[t]? = some caller) (hpc : caller.pc ≠ .done) :
    caller.purpose.probing = false := by
  by_contra hprobing
  exact hpc (h.probing t caller ht (by simpa using hprobing))

theorem urls_of_urlStep {s s' : CameraState} {action : CameraAction} (h : UrlStep s action s') :
    ∀ url ∈ s.history.urls, url ∈ s'.history.urls := by
  cases h with
  | kept hurl hminted hurls hissued hdiscarded =>
    rw [hurls]
    exact fun url => id
  | issued t caller haction ht hpc hnone hurl hminted hurls hdiscarded =>
    rw [hurls]
    exact fun url => id
  | minted t caller text haction ht hpc hurl hminted hurls hissued hdiscarded =>
    rw [hurls]
    exact fun url => List.mem_append_left _
  | dropped n capture stream hn hattached haction hurl hminted hurls hissued hdiscarded =>
    rw [hurls]
    exact fun url => id

theorem Provenance.cached_step {s s' : CameraState} (h : Provenance s) {action : CameraAction}
    (hstep : UrlStep s action s') :
    ∀ mintedAt n url, s'.lastUrl = some (mintedAt, n, url) → url ∈ s'.history.urls := by
  intro mintedAt n url hlast
  cases hstep with
  | kept hurl hminted hurls hissued hdiscarded =>
    rw [hurls]
    exact h.cached mintedAt n url (hurl ▸ hlast)
  | issued t caller haction ht hpc hnone hurl hminted hurls hdiscarded =>
    rw [hurls]
    exact h.cached mintedAt n url (hurl ▸ hlast)
  | minted t caller text haction ht hpc hurl hminted hurls hissued hdiscarded =>
    rw [hurl] at hlast
    cases hlast
    rw [hurls]
    exact List.mem_append_right _ (List.mem_singleton_self _)
  | dropped n capture stream hn hattached haction hurl hminted hurls hissued hdiscarded =>
    rw [hurl] at hlast
    cases hlast

theorem Provenance.step {s s' : CameraState} (h : Provenance s) (hcoherent : Coherent s)
    {action : CameraAction} (hstep : Step s action s') : Provenance s' := by
  have hurlStep := urlStep_of_step hstep
  have hmore := urls_of_urlStep hurlStep
  have hold : ∀ answer ∈ s.history.answers, answer.Legitimate s'.history.urls :=
    fun answer hmem => (h.answers answer hmem).mono hmore
  -- It is enough to look at the answer the step adds.
  have hadd : ∀ new : Answer, s'.history.answers = s.history.answers ++ [new] →
      new.Legitimate s'.history.urls → Provenance s' := by
    intro new hanswers hnew
    refine ⟨h.cached_step hurlStep, ?_⟩
    rw [hanswers]
    intro answer hmem
    rcases List.mem_append.mp hmem with hmem | hmem
    · exact hold answer hmem
    · rw [List.mem_singleton.mp hmem]
      exact hnew
  cases answers_of_step hstep with
  | none hanswers =>
    refine ⟨h.cached_step hurlStep, ?_⟩
    rw [hanswers]
    exact hold
  | probe bare hanswers =>
    exact hadd _ hanswers (Answer.legitimate_probe _ (withTransport_upToTransport ..) _)
  | cached t caller url ht hpc hurl hanswers =>
    obtain ⟨mintedAt, hlast, -⟩ := reusable_eq_some.mp hurl
    have hmem : url.2 ∈ s'.history.urls := hmore _ (h.cached mintedAt url.1 url.2 hlast)
    exact hadd _ hanswers (Answer.legitimate_minted (hcoherent.not_probing ht (by simp [hpc]))
      hmem (withTransport_upToTransport ..))
  | failed t caller ht hpc hanswers =>
    exact hadd _ hanswers (Answer.legitimate_none (hcoherent.not_probing ht (by simp [hpc])) _ _)
  | fresh t caller url ht hpc hlast hurls hanswers =>
    have hmem : url ∈ s'.history.urls := by
      rw [hurls]
      exact List.mem_append_right _ (List.mem_singleton_self _)
    exact hadd _ hanswers (Answer.legitimate_minted (hcoherent.not_probing ht (by simp [hpc]))
      hmem (withTransport_upToTransport ..))

/-- A capture ends while the Stream it has captured is still attached. -/
def DropsUrl (s : CameraState) (action : CameraAction) : Prop :=
  ∃ n capture stream, s.captures[n]? = some capture ∧ s.attached stream = true ∧
    (action = .grabbed n false ∧ capture.pc = .grabbing stream ∨
      action = .archived n true ∧ capture.pc = .archiving stream)

/-- Since `s` one URL has been handed to everybody, and nothing has been asked of Arlo. -/
structure Reusing (s : CameraState) (mintedAt : Nat) (url : Nat × String) (v : CameraState) :
    Prop where
  lastUrl : v.lastUrl = some (mintedAt, url)
  issued : v.history.issued = s.history.issued
  answers : ∃ later, v.history.answers = s.history.answers ++ later ∧
    ∀ answer ∈ later, answer.Shares url

theorem Reusing.append {s v v' : CameraState} {mintedAt : Nat} {url : Nat × String}
    (h : Reusing s mintedAt url v) {answer : Answer} (hanswer : answer.Shares url)
    (hlast : v'.lastUrl = v.lastUrl) (hissued : v'.history.issued = v.history.issued)
    (hanswers : v'.history.answers = v.history.answers ++ [answer]) :
    Reusing s mintedAt url v' := by
  obtain ⟨later, hlater, hshares⟩ := h.answers
  refine ⟨hlast.trans h.lastUrl, hissued.trans h.issued, later ++ [answer], ?_, ?_⟩
  · rw [hanswers, hlater, List.append_assoc]
  · intro other hother
    rcases List.mem_append.mp hother with hother | hother
    · exact hshares other hother
    · rw [List.mem_singleton.mp hother]
      exact hanswer

theorem Reusing.step {s v v' : CameraState} {mintedAt : Nat} {url : Nat × String}
    (h : Reusing s mintedAt url v) (hcoherent : Coherent v) {action : CameraAction}
    (hstep : Step v action v') (hfresh : v'.now - mintedAt < STREAM_URL_REUSE)
    (hkeeps : ¬ DropsUrl v action) : Reusing s mintedAt url v' := by
  have hnow := now_of_step hstep
  have hreusable : v.reusable = some url :=
    reusable_eq_some.mpr ⟨mintedAt, h.lastUrl, by omega⟩
  -- While the URL is reused, nobody is calling.
  have hidle : ∀ (t : Nat) (caller : Caller), v.callers[t]? = some caller →
      caller.pc ≠ .calling := by
    intro t caller ht hpc
    have hnone := hcoherent.held (by simp [hcoherent.calling t caller ht hpc])
    rw [hreusable] at hnone
    cases hnone
  have hkept : v'.lastUrl = v.lastUrl ∧ v'.history.issued = v.history.issued := by
    cases urlStep_of_step hstep with
    | kept hurl hminted hurls hissued hdiscarded => exact ⟨hurl, hissued⟩
    | issued t caller haction ht hpc hnone hurl hminted hurls hdiscarded =>
      rw [hreusable] at hnone
      cases hnone
    | minted t caller text haction ht hpc hurl hminted hurls hissued hdiscarded =>
      exact absurd hpc (hidle t caller ht)
    | dropped n capture stream hn hattached haction hurl hminted hurls hissued hdiscarded =>
      exact absurd ⟨n, capture, stream, hn, hattached, haction⟩ hkeeps
  cases answers_of_step hstep with
  | none hanswers =>
    obtain ⟨later, hlater, hshares⟩ := h.answers
    exact ⟨hkept.1.trans h.lastUrl, hkept.2.trans h.issued, later, hanswers.trans hlater, hshares⟩
  | probe bare hanswers => exact h.append (Or.inl rfl) hkept.1 hkept.2 hanswers
  | cached t caller other ht hpc hurl hanswers =>
    rw [hreusable] at hurl
    cases hurl
    exact h.append (Or.inr ⟨_, rfl, withTransport_upToTransport ..⟩) hkept.1 hkept.2 hanswers
  | failed t caller ht hpc hanswers => exact absurd hpc (hidle t caller ht)
  | fresh t caller other ht hpc hlast hurls hanswers => exact absurd hpc (hidle t caller ht)

end Eisenberg.Camera
