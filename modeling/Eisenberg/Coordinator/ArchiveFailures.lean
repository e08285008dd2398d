import Eisenberg.Coordinator.MotionFeed
import Eisenberg.Framework.Trace

/-!
# Archives that fail

Motion events and snapshots are published after their media have been downloaded, cached and
archived. A download or a write that fails is logged on the way; a date directory that cannot be
created ends the handler before it has published anything.
-/

namespace Eisenberg.Coordinator

open Framework Mqtt

/-! ## Snapshots -/

/-- The coordinator with the URL of the latest snapshot of each device. -/
structure SnapshotState extends FeedState where
  latestSnapshots : Dict String String

abbrev Snapshots := Co SnapshotState Exc FeedReply

def SnapshotState.update (s : FeedState) (t : SnapshotState) : SnapshotState :=
  { t with toFeedState := s }

/-- A coroutine of the feed, as part of a snapshot handler. -/
def ofFeed {α : Type} (c : Feed α) : Snapshots α :=
  c.zoom SnapshotState.toFeedState SnapshotState.update

/-- Record, cache, archive a snapshot URL and refresh the entities. -/
def storeSnapshot (deviceId url : String) : Snapshots Unit := do
  modify fun s => { s with latestSnapshots := s.latestSnapshots.set deviceId url }
  ofFeed (cacheImageBytes deviceId url)
  ofFeed (archiveMedia deviceId url "snapshot" "jpg")
  modify fun s => s.update (pushToEntities s.toFeedState)

/-- The two topics that deliver a snapshot. -/
inductive SnapshotKind where
  | fullFrame | lastImage

/-- `SnapshotAvailable` and `LastImageSnapshotAvailable`: the URL. -/
def SnapshotKind.validate (scalars : Scalars) : SnapshotKind → Json → Option String
  | fullFrame, .obj fields => do
    let url ← requiredField scalars.str "presignedFullFrameSnapshotUrl" "presigned_url" fields
    guard (optionalField scalars.bool "disablePrivacyZones" "disable_privacy_zones" fields).isSome
    return url
  | lastImage, .obj fields =>
    requiredField scalars.str "presignedLastImageUrl" "presigned_url" fields
  | _, _ => none

/-- `_handle_snapshot` and `_handle_last_image_snapshot`. -/
def handleSnapshot (scalars : Scalars) (kind : SnapshotKind) (topic : String) (payload : Json) :
    Snapshots Unit :=
  match (splitTopic topic)[4]? with
  | some deviceId =>
    tryCatch
      (match kind.validate scalars ((payload.get? "properties").getD (.obj [])) with
      | some url => storeSnapshot deviceId url
      | none => throw (.builtin .validationError ""))
      fun err => if err.isException then pure () else throw err
  | none => pure ()

/-! ## What the handlers raise -/

/-- A date directory that cannot be created. -/
def DirRefused (i : FeedRequest) (r : Except Exc (FeedReply i)) : Prop :=
  i = .ensureDir ∧ ∃ err, r = .error err

/-- Downloads and jobs fail with ordinary exceptions: an HTTP error, an OSError. -/
def OrdinaryAnswers (answers : Nat → (i : FeedRequest) → Except Exc (FeedReply i)) : Prop :=
  ∀ n i err, answers n i = .error err → err.isException = true

section Guarded

variable {lower : String → String}
  {answers : Nat → (i : FeedRequest) → Except Exc (FeedReply i)}

/-- It raises ordinary exceptions only, and asks for no directory. -/
structure Guarded (answers : Nat → (i : FeedRequest) → Except Exc (FeedReply i)) {α : Type}
    (c : Feed α) : Prop where
  raises : ∀ n s, Raises (fun err => err.isException = true) (c.run answers n s).2.1
  asks : ∀ n s, ∀ x ∈ c.trace answers n s, x.1 ≠ .ensureDir

theorem guarded_pure {α : Type} (a : α) : Guarded answers (pure a : Feed α) where
  raises := fun _ _ => trivial
  asks := fun _ _ _ hx => absurd hx List.not_mem_nil

theorem guarded_get : Guarded answers (get : Feed FeedState) where
  raises := fun _ _ => trivial
  asks := fun _ _ _ hx => absurd hx List.not_mem_nil

theorem guarded_modify (f : FeedState → FeedState) : Guarded answers (modify f : Feed Unit) where
  raises := fun _ _ => trivial
  asks := fun _ _ _ hx => absurd hx List.not_mem_nil

theorem guarded_await (hordinary : OrdinaryAnswers answers) {i : FeedRequest}
    (hi : i ≠ .ensureDir) : Guarded answers (Co.await i : Feed (FeedReply i)) where
  raises := by
    intro n s
    rw [Co.run_await]
    cases hanswer : answers n i with
    | ok a => trivial
    | error err => exact hordinary n i err hanswer
  asks := by
    intro n s x hx
    rw [List.mem_singleton.mp hx]
    exact hi

theorem Guarded.bind {α β : Type} {c : Feed α} {f : α → Feed β} (hc : Guarded answers c)
    (hf : ∀ a, Guarded answers (f a)) : Guarded answers (c >>= f) where
  raises := by
    intro n s
    have hfirst := hc.raises n s
    rw [Co.run_bind]
    generalize c.run answers n s = ran at hfirst ⊢
    obtain ⟨t, r, m⟩ := ran
    cases r with
    | ok a => exact (hf a).raises m t
    | error err => exact hfirst
  asks := by
    intro n s x hx
    rw [Co.trace_bind, List.mem_append] at hx
    rcases hx with hx | hx
    · exact hc.asks n s x hx
    · generalize c.run answers n s = ran at hx
      obtain ⟨t, r, m⟩ := ran
      cases r with
      | ok a => exact (hf a).asks m t x hx
      | error err => cases hx

theorem guarded_whenDownloaded (hordinary : OrdinaryAnswers answers) (url : String)
    {use : Bytes → Feed Unit} (huse : ∀ content, Guarded answers (use content)) :
    Guarded answers (whenDownloaded url use) := by
  apply Guarded.bind (guarded_await hordinary (i := .download url) (by rintro ⟨⟩))
  intro body
  cases body with
  | some content => exact huse content
  | none => exact guarded_pure ()

/-- What is logged always returns. -/
theorem Guarded.logged {c : Feed Unit} (hc : Guarded answers c) :
    Co.ReturnsUnless DirRefused answers (loggedFeed c) := by
  intro n s
  have hraises := hc.raises n s
  have hasks := hc.asks n s
  unfold loggedFeed
  rw [Co.run_tryCatch, Co.Avoids, Co.trace_tryCatch]
  generalize c.run answers n s = ran at hraises ⊢
  obtain ⟨t, r, m⟩ := ran
  cases r with
  | ok a =>
    apply iff_of_true ⟨a, rfl⟩
    rw [Co.traceElse, List.append_nil]
    exact fun x hx hrefused => hasks x hx hrefused.1
  | error err =>
    have hordinary : err.isException = true := hraises
    rw [Co.orElse_error, Co.traceElse, hordinary]
    apply iff_of_true ⟨(), rfl⟩
    show ∀ x ∈ _ ++ [], _
    rw [List.append_nil]
    exact fun x hx hrefused => hasks x hx hrefused.1

theorem returnsUnless_ensureDir :
    Co.ReturnsUnless DirRefused answers (Co.await FeedRequest.ensureDir : Feed Unit) := by
  intro n s
  have htrace : (Co.await FeedRequest.ensureDir : Feed Unit).trace answers n s =
      [⟨.ensureDir, answers n .ensureDir⟩] := rfl
  rw [Co.run_await, Co.Avoids, htrace, List.forall_mem_singleton]
  cases answers n .ensureDir with
  | ok a =>
    apply iff_of_true ⟨a, rfl⟩
    rintro ⟨-, err, ⟨⟩⟩
  | error err =>
    apply iff_of_false
    · rintro ⟨a, ⟨⟩⟩
    · exact fun h => h ⟨rfl, err, rfl⟩

theorem returnsUnless_archiveMedia (hordinary : OrdinaryAnswers answers)
    (deviceId url mediaType ext : String) :
    Co.ReturnsUnless DirRefused answers (archiveMedia deviceId url mediaType ext) := by
  have hstore : Guarded answers (do
      if (← get).httpSession then
        whenDownloaded url fun content =>
          Co.await (FeedRequest.write deviceId mediaType ext content) : Feed Unit) := by
    apply Guarded.bind guarded_get
    intro s
    split
    · apply guarded_whenDownloaded hordinary
      intro content
      exact guarded_await hordinary (by rintro ⟨⟩)
    · exact guarded_pure ()
  apply Co.returnsUnless_get
  intro s
  show Co.ReturnsUnless DirRefused answers (if s.mediaPath = true then _ else _)
  split
  · exact returnsUnless_ensureDir.bind fun _ => hstore.logged
  · exact Co.returnsUnless_pure ()

theorem returnsUnless_cacheImageBytes (hordinary : OrdinaryAnswers answers)
    (deviceId url : String) :
    Co.ReturnsUnless DirRefused answers (cacheImageBytes deviceId url) := by
  apply Guarded.logged
  apply guarded_whenDownloaded hordinary
  intro content
  exact guarded_modify _

theorem returnsUnless_publishMotion (hordinary : OrdinaryAnswers answers) (event : MotionEvent) :
    Co.ReturnsUnless DirRefused answers (publishMotion lower event) := by
  have hcontent : Co.ReturnsUnless DirRefused answers (archiveContent lower event) := by
    unfold archiveContent
    cases nonempty event.contentUrl with
    | none => exact Co.returnsUnless_pure ()
    | some url => exact returnsUnless_archiveMedia hordinary _ _ _ _
  have hthumbnail : Co.ReturnsUnless DirRefused answers (archiveThumbnail lower event) := by
    unfold archiveThumbnail
    cases nonempty event.thumbnailUrl with
    | none => exact Co.returnsUnless_pure ()
    | some url =>
      apply (returnsUnless_cacheImageBytes hordinary event.deviceId url).bind
      intro _
      apply (returnsUnless_archiveMedia hordinary event.deviceId url _ "jpg").bind
      intro _
      exact Co.returnsUnless_modify _
  apply hcontent.bind
  intro _
  apply hthumbnail.bind
  intro _
  exact (Co.returnsUnless_modify _).bind fun _ => Co.returnsUnless_modify _

end Guarded

/-! ## What the handlers publish -/

/-- The event is fired once, its thumbnail is recorded, and the entities hear of it. -/
structure MotionPublished (event : MotionEvent) (before after : FeedState) : Prop where
  fired : after.fired = before.fired ++ [mediaEvent event]
  thumbnail : ∀ url, nonempty event.thumbnailUrl = some url →
    after.latestThumbnails.get? event.deviceId = some url
  pushed : after.pushes = before.pushes + 1

/-- The URL is recorded, and the entities hear of it. -/
structure SnapshotPublished (deviceId url : String) (before after : SnapshotState) : Prop where
  recorded : after.latestSnapshots.get? deviceId = some url
  pushed : after.pushes = before.pushes + 1

section Published

variable {lower : String → String}
  {answers : Nat → (i : FeedRequest) → Except Exc (FeedReply i)}

/-- What nothing but the end of a handler writes. -/
def feedShown (s : FeedState) : List MediaEvent × Nat := (s.fired, s.pushes)

theorem keeps_logged {γ : Type} {view : FeedState → γ} {c : Feed Unit}
    (hc : c.Keeps view answers) : (loggedFeed c).Keeps view answers := by
  apply hc.tryCatch
  intro err
  split
  · exact Co.keeps_ret _
  · exact Co.keeps_ret _

theorem keeps_whenDownloaded {γ : Type} {view : FeedState → γ} (url : String)
    {use : Bytes → Feed Unit} (huse : ∀ content, (use content).Keeps view answers) :
    (whenDownloaded url use).Keeps view answers := by
  have hdownload : (Co.await (FeedRequest.download url) : Feed (Option Bytes)).Keeps view answers :=
    Co.keeps_await _
  apply hdownload.bind
  intro body
  cases body with
  | some content => exact huse content
  | none => exact Co.keeps_ret _

theorem keeps_archiveMedia {γ : Type} (view : FeedState → γ) (deviceId url mediaType ext : String) :
    (archiveMedia deviceId url mediaType ext).Keeps view answers := by
  apply Co.keeps_get
  intro s
  show Co.Keeps view answers (if s.mediaPath = true then _ else _)
  split
  · have hdir : (Co.await FeedRequest.ensureDir : Feed Unit).Keeps view answers :=
      Co.keeps_await _
    apply hdir.bind
    intro _
    apply keeps_logged
    apply Co.keeps_get
    intro t
    show Co.Keeps view answers (if t.httpSession = true then _ else _)
    split
    · exact keeps_whenDownloaded url fun content => Co.keeps_await _
    · exact Co.keeps_ret _
  · exact Co.keeps_ret _

theorem keeps_cacheImageBytes (deviceId url : String) :
    (cacheImageBytes deviceId url).Keeps feedShown answers := by
  apply keeps_logged
  apply keeps_whenDownloaded
  intro content
  exact Co.keeps_modify fun _ => rfl

theorem keeps_archiveContent (event : MotionEvent) :
    (archiveContent lower event).Keeps feedShown answers := by
  unfold archiveContent
  cases nonempty event.contentUrl with
  | none => exact Co.keeps_ret _
  | some url => exact keeps_archiveMedia feedShown _ _ _ _

theorem keeps_archiveThumbnail (event : MotionEvent) :
    (archiveThumbnail lower event).Keeps feedShown answers := by
  unfold archiveThumbnail
  cases nonempty event.thumbnailUrl with
  | none => exact Co.keeps_ret _
  | some url =>
    apply (keeps_cacheImageBytes event.deviceId url).bind
    intro _
    apply (keeps_archiveMedia feedShown event.deviceId url _ "jpg").bind
    intro _
    exact Co.keeps_modify fun _ => rfl

theorem archiveThumbnail_records {event : MotionEvent} {n : Nat} {s : FeedState} {url : String}
    (hurl : nonempty event.thumbnailUrl = some url)
    (hreturns : ∃ a, ((archiveThumbnail lower event).run answers n s).2.1 = .ok a) :
    ((archiveThumbnail lower event).run answers n s).1.latestThumbnails.get? event.deviceId =
      some url := by
  unfold archiveThumbnail at hreturns ⊢
  simp only [hurl] at hreturns ⊢
  rw [Co.run_bind] at hreturns ⊢
  generalize (cacheImageBytes event.deviceId url).run answers n s = ran at hreturns ⊢
  obtain ⟨t, r, m⟩ := ran
  cases r with
  | error err => obtain ⟨a, ⟨⟩⟩ := hreturns
  | ok a =>
    rw [Co.andThen_ok, Co.run_bind] at hreturns ⊢
    generalize (archiveMedia event.deviceId url (motionType lower event ++ "_thumb") "jpg").run
      answers m t = ran at hreturns ⊢
    obtain ⟨t, r, m⟩ := ran
    cases r with
    | error err => obtain ⟨a, ⟨⟩⟩ := hreturns
    | ok a => exact Dict.get?_set_self _ _ _

/-- An event is published exactly if the archives before it return. -/
theorem publishMotion_iff (event : MotionEvent) (n : Nat) (s : FeedState) :
    MotionPublished event s ((publishMotion lower event).run answers n s).1 ↔
      ∃ a, ((publishMotion lower event).run answers n s).2.1 = .ok a := by
  unfold publishMotion
  have hcontent := @keeps_archiveContent lower answers event n s
  rw [Co.run_bind]
  generalize (archiveContent lower event).run answers n s = ran at hcontent ⊢
  obtain ⟨t, r, m⟩ := ran
  have hnot : ∀ u : FeedState, feedShown u = feedShown s → ¬ MotionPublished event s u := by
    intro u hu h
    have hpushes : u.pushes = s.pushes := congrArg Prod.snd hu
    have hpushed := h.pushed
    omega
  cases r with
  | error err =>
    apply iff_of_false (hnot t hcontent)
    rintro ⟨a, ⟨⟩⟩
  | ok a =>
    have hthumbnail := @keeps_archiveThumbnail lower answers event m t
    have hrecords := @archiveThumbnail_records lower answers event m t
    rw [Co.andThen_ok, Co.run_bind]
    generalize (archiveThumbnail lower event).run answers m t = ran at hthumbnail hrecords ⊢
    obtain ⟨u, r, m⟩ := ran
    have hkept : feedShown u = feedShown s := hthumbnail.trans hcontent
    cases r with
    | error err =>
      apply iff_of_false (hnot u hkept)
      rintro ⟨a, ⟨⟩⟩
    | ok a =>
      apply iff_of_true
      · constructor
        · show u.fired ++ [mediaEvent event] = _
          rw [show u.fired = s.fired from congrArg Prod.fst hkept]
        · intro url hurl
          exact hrecords hurl ⟨a, rfl⟩
        · show u.pushes + 1 = _
          rw [show u.pushes = s.pushes from congrArg Prod.snd hkept]
      · exact ⟨(), rfl⟩

theorem run_loggedFeed_state (c : Feed Unit) (n : Nat) (s : FeedState) :
    ((loggedFeed c).run answers n s).1 = (c.run answers n s).1 := by
  unfold loggedFeed
  rw [Co.run_tryCatch]
  obtain ⟨t, r, m⟩ := c.run answers n s
  cases r with
  | ok a => rfl
  | error err =>
    rw [Co.orElse_error]
    split <;> rfl

theorem trace_loggedFeed (c : Feed Unit) (n : Nat) (s : FeedState) :
    (loggedFeed c).trace answers n s = c.trace answers n s := by
  unfold loggedFeed
  rw [Co.trace_tryCatch]
  obtain ⟨t, r, m⟩ := c.run answers n s
  cases r with
  | ok a => exact List.append_nil _
  | error err =>
    rw [Co.traceElse]
    split <;> exact List.append_nil _

theorem afterFeed_published_iff (hordinary : OrdinaryAnswers answers) {scalars : Scalars}
    {payload : Json} {event : MotionEvent} (htype : payload.get? "type" = some (.str "motion"))
    (hvalid : MotionEvent.validate scalars payload = some event) (s : FeedState) :
    MotionPublished event s (afterFeed lower scalars answers payload s) ↔
      (handleFeedNotification lower scalars payload).Avoids DirRefused answers 0 s := by
  have hhandler : handleFeedNotification lower scalars payload = loggedFeed (do
      modify (recordMotion event)
      publishMotion lower event) := by
    simp only [handleFeedNotification, htype, hvalid]
  have hrecorded : ∀ t, MotionPublished event s t ↔ MotionPublished event (recordMotion event s) t :=
    fun t => ⟨fun h => ⟨h.fired, h.thumbnail, h.pushed⟩, fun h => ⟨h.fired, h.thumbnail, h.pushed⟩⟩
  rw [afterFeed, Co.runWith_eq, hhandler, run_loggedFeed_state, hrecorded, Co.Avoids,
    trace_loggedFeed]
  exact (publishMotion_iff event 0 _).trans (returnsUnless_publishMotion hordinary event 0 _)

/-! ### Snapshots -/

/-- What nothing but the ends of a snapshot handler writes. -/
def snapshotsShown (s : SnapshotState) : Dict String String × Nat := (s.latestSnapshots, s.pushes)

theorem run_ofFeed {α : Type} (c : Feed α) (n : Nat) (s : SnapshotState) :
    (ofFeed c).run answers n s = (SnapshotState.update (c.run answers n s.toFeedState).1 s,
      (c.run answers n s.toFeedState).2) := by
  unfold ofFeed
  apply Co.run_zoom
  · exact fun _ _ => rfl
  · exact fun _ => rfl
  · exact fun _ _ _ => rfl

theorem keeps_ofFeed {α : Type} {c : Feed α} (hc : c.Keeps feedShown answers) :
    (ofFeed c).Keeps snapshotsShown answers := by
  intro n s
  rw [run_ofFeed]
  have hpushes := congrArg Prod.snd (hc n s.toFeedState)
  exact congrArg (Prod.mk s.latestSnapshots) hpushes

theorem returnsUnless_ofFeed {α : Type} {c : Feed α}
    (hc : c.ReturnsUnless DirRefused answers) : (ofFeed c).ReturnsUnless DirRefused answers := by
  intro n s
  have htrace : (ofFeed c).trace answers n s = c.trace answers n s.toFeedState :=
    Co.trace_zoom (fun _ _ => rfl) c s
  rw [run_ofFeed, Co.Avoids, htrace]
  exact hc n s.toFeedState

theorem returnsUnless_storeSnapshot (hordinary : OrdinaryAnswers answers) (deviceId url : String) :
    (storeSnapshot deviceId url).ReturnsUnless DirRefused answers := by
  apply (Co.returnsUnless_modify _).bind
  intro _
  apply (returnsUnless_ofFeed (returnsUnless_cacheImageBytes hordinary deviceId url)).bind
  intro _
  apply (returnsUnless_ofFeed (returnsUnless_archiveMedia hordinary deviceId url _ "jpg")).bind
  intro _
  exact Co.returnsUnless_modify _

theorem storeSnapshot_iff (deviceId url : String) (n : Nat) (s : SnapshotState) :
    SnapshotPublished deviceId url s ((storeSnapshot deviceId url).run answers n s).1 ↔
      ∃ a, ((storeSnapshot deviceId url).run answers n s).2.1 = .ok a := by
  let recorded : SnapshotState :=
    { s with latestSnapshots := s.latestSnapshots.set deviceId url }
  have harchives : (do
      ofFeed (cacheImageBytes deviceId url)
      ofFeed (archiveMedia deviceId url "snapshot" "jpg") : Snapshots Unit).Keeps
        snapshotsShown answers :=
    (keeps_ofFeed (keeps_cacheImageBytes deviceId url)).bind fun _ =>
      keeps_ofFeed (keeps_archiveMedia feedShown deviceId url _ "jpg")
  have hkept := harchives n recorded
  have hrun : (storeSnapshot deviceId url).run answers n s = Co.andThen answers
      (fun _ => modify fun s => s.update (pushToEntities s.toFeedState))
      ((do
        ofFeed (cacheImageBytes deviceId url)
        ofFeed (archiveMedia deviceId url "snapshot" "jpg") : Snapshots Unit).run answers n
          recorded) := by
    rw [← Co.run_bind, Co.bind_assoc]
    rfl
  rw [hrun]
  generalize (do
    ofFeed (cacheImageBytes deviceId url)
    ofFeed (archiveMedia deviceId url "snapshot" "jpg") : Snapshots Unit).run answers n recorded =
      ran at hkept ⊢
  obtain ⟨t, r, m⟩ := ran
  have hpushes : t.pushes = s.pushes := congrArg Prod.snd hkept
  cases r with
  | error err =>
    apply iff_of_false
    · intro h
      have hpushed : t.pushes = s.pushes + 1 := h.pushed
      omega
    · rintro ⟨a, ⟨⟩⟩
  | ok a =>
    apply iff_of_true
    · constructor
      · have hsnapshots : t.latestSnapshots = recorded.latestSnapshots := congrArg Prod.fst hkept
        show t.latestSnapshots.get? deviceId = some url
        rw [hsnapshots]
        exact Dict.get?_set_self _ _ _
      · show t.pushes + 1 = s.pushes + 1
        rw [hpushes]
    · exact ⟨(), rfl⟩

/-- The coordinator after a snapshot handler has run on a payload. -/
def afterSnapshot (scalars : Scalars)
    (answers : Nat → (i : FeedRequest) → Except Exc (FeedReply i)) (kind : SnapshotKind)
    (topic : String) (payload : Json) (s : SnapshotState) : SnapshotState :=
  ((handleSnapshot scalars kind topic payload).run answers 0 s).1

theorem afterSnapshot_published_iff (hordinary : OrdinaryAnswers answers) {scalars : Scalars}
    {kind : SnapshotKind} {topic : String} {payload : Json} {deviceId url : String}
    (htopic : (splitTopic topic)[4]? = some deviceId)
    (hvalid : kind.validate scalars ((payload.get? "properties").getD (.obj [])) = some url)
    (s : SnapshotState) :
    SnapshotPublished deviceId url s (afterSnapshot scalars answers kind topic payload s) ↔
      (handleSnapshot scalars kind topic payload).Avoids DirRefused answers 0 s := by
  have hhandler : handleSnapshot scalars kind topic payload =
      tryCatch (storeSnapshot deviceId url) fun err =>
        if err.isException then pure () else throw err := by
    simp only [handleSnapshot, htopic, hvalid]
  have hspec := (@storeSnapshot_iff answers deviceId url 0 s).trans
    (returnsUnless_storeSnapshot hordinary deviceId url 0 s)
  rw [afterSnapshot, hhandler, Co.run_tryCatch, Co.Avoids, Co.trace_tryCatch]
  unfold Co.Avoids at hspec
  generalize (storeSnapshot deviceId url).run answers 0 s = ran at hspec ⊢
  obtain ⟨t, r, m⟩ := ran
  cases r with
  | ok a =>
    rw [Co.traceElse, List.append_nil]
    exact hspec
  | error err =>
    rw [Co.traceElse, Co.orElse_error]
    split
    · show _ ↔ ∀ x ∈ _ ++ [], _
      rw [List.append_nil]
      exact hspec
    · show _ ↔ ∀ x ∈ _ ++ [], _
      rw [List.append_nil]
      exact hspec

end Published

/-- Whatever downloads and jobs do, a valid motion event and a valid snapshot notification are
published exactly if no date directory is refused on the way. -/
theorem archive_best_effort_iff (scalars : Scalars)
    (answers : Nat → (i : FeedRequest) → Except Exc (FeedReply i))
    (hordinary : OrdinaryAnswers answers) :
    (∀ payload event s, payload.get? "type" = some (.str "motion") →
      MotionEvent.validate scalars payload = some event →
      (MotionPublished event s (afterFeed lower scalars answers payload s) ↔
        (handleFeedNotification lower scalars payload).Avoids DirRefused answers 0 s)) ∧
    ∀ (kind : SnapshotKind) topic payload deviceId url s,
      (splitTopic topic)[4]? = some deviceId →
      kind.validate scalars ((payload.get? "properties").getD (.obj [])) = some url →
      (SnapshotPublished deviceId url s (afterSnapshot scalars answers kind topic payload s) ↔
        (handleSnapshot scalars kind topic payload).Avoids DirRefused answers 0 s) := by
  constructor
  · intro payload event s htype hvalid
    exact afterFeed_published_iff hordinary htype hvalid s
  · intro kind topic payload deviceId url s htopic hvalid
    exact afterSnapshot_published_iff hordinary htopic hvalid s

section Sample

/-- A motion event with a clip. -/
def clipMotion : Json := .obj (("contentUrl", .str "https://media/clip") ::
  withMode "armAway" personMotion)

def clipEvent : MotionEvent := { personEvent with contentUrl := some "https://media/clip" }

theorem clipMotion_valid : MotionEvent.validate plainScalars clipMotion = some clipEvent := by
  decide

def archivingFeed : FeedState := { quietFeed with mediaPath := true }

/-- No download succeeds. -/
def noDownloads : Nat → (i : FeedRequest) → Except Exc (FeedReply i)
  | _, .ensureDir => .ok ()
  | _, .download _ => .error (.builtin .connectionError "")
  | _, .write _ _ _ _ => .ok ()

/-- The file system is read-only. -/
def readOnlyMedia : Nat → (i : FeedRequest) → Except Exc (FeedReply i)
  | _, .ensureDir => .error (.builtin .osError "Read-only file system")
  | _, .download _ => .ok none
  | _, .write _ _ _ _ => .error (.builtin .osError "Read-only file system")

theorem noDownloads_published : MotionPublished clipEvent archivingFeed
    (afterFeed String.toLower plainScalars noDownloads clipMotion archivingFeed) := by
  have hordinary : OrdinaryAnswers noDownloads := by
    intro n i err herr
    cases i with
    | ensureDir => cases herr
    | download url =>
      cases herr
      rfl
    | write deviceId mediaType ext content => cases herr
  apply ((archive_best_effort_iff plainScalars noDownloads hordinary).1 clipMotion clipEvent
    archivingFeed rfl clipMotion_valid).mpr
  intro x hx hrefused
  obtain ⟨m, hanswer⟩ := Co.answer_of_mem_trace hx
  obtain ⟨i, r⟩ := x
  obtain ⟨hdir, err, herr⟩ := hrefused
  cases hdir
  have hmade : r = .ok () := hanswer
  rw [hmade] at herr
  cases herr

/-- A directory that cannot be created loses the event. -/
theorem readOnlyMedia_not_published :
    clipMotion.get? "type" = some (.str "motion") ∧
      MotionEvent.validate plainScalars clipMotion = some clipEvent ∧
      ¬ MotionPublished clipEvent archivingFeed
        (afterFeed String.toLower plainScalars readOnlyMedia clipMotion archivingFeed) := by
  refine ⟨rfl, clipMotion_valid, ?_⟩
  intro h
  have hfired := h.fired
  have hafter :
      (afterFeed String.toLower plainScalars readOnlyMedia clipMotion archivingFeed).fired = [] := by
    have hmotion : clipMotion.get? "type" = some (.str "motion") := rfl
    simp only [afterFeed, handleFeedNotification, hmotion, clipMotion_valid]
    rfl
  rw [hafter] at hfired
  cases hfired

end Sample

end Eisenberg.Coordinator
