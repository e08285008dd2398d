import Eisenberg.Coordinator.Modes
import Eisenberg.Framework.Frame
import Mathlib.Data.Option.Basic

/-!
# Motion events

The motion branch of `_handle_feed`: the event is validated, recorded and published. Its mode is
validated as one of the standard modes, so that an event sent in a custom mode is dropped.
-/

namespace Eisenberg

open Framework

/-- A field of an enumeration's type takes the values of its members. -/
def arloMode : Json → Option ArloMode
  | .str value => [ArloMode.armAway, .armHome, .standby].find? fun m => m.value = value
  | _ => none

theorem arloMode_str (value : String) : (arloMode (.str value)).isSome ↔ value ∈ standardModes := by
  simp only [arloMode, List.find?_isSome, standardModes, List.mem_map, decide_eq_true_eq]

/-- Motion detection event, without the fields that nothing reads. -/
structure MotionEvent where
  deviceId : String
  objCategory : Option String
  objCategories : Option (List String)
  duration : Option String
  contentUrl : Option String
  thumbnailUrl : Option String
  activeMode : Option ArloMode
  utcCreatedDate : Int
  feedId : Option String
  deriving DecidableEq

namespace MotionEvent

/-- The optional text fields that are only validated. -/
def textFields : List (String × String) :=
  [("objRegion", "obj_region"), ("contentType", "content_type"), ("date", "date"),
    ("timeZone", "time_zone"), ("resource", "resource"), ("ownerId", "owner_id"),
    ("userId", "user_id"), ("locationId", "location_id"), ("uniqueId", "unique_id"),
    ("modelId", "model_id"), ("state", "state"), ("action", "action")]

def countFields : List (String × String) :=
  [("feedObjectCount", "feed_object_count"), ("mediaObjectCount", "media_object_count")]

def mediaMetaFields : List (String × String) :=
  [("codec_tag_string", "codec_tag_string"), ("height", "height"), ("width", "width"),
    ("bit_rate", "bit_rate")]

/-- `MediaMeta.model_validate(value)`. -/
def mediaMeta (scalars : Scalars) : Json → Option Unit
  | .obj fields =>
    guard (mediaMetaFields.all fun (key, name) =>
      (optionalField scalars.str key name fields).isSome)
  | _ => none

def strings (scalars : Scalars) : Json → Option (List String)
  | .arr items => items.mapM scalars.str
  | _ => none

/-- The fields that no handler reads. -/
def othersValid (scalars : Scalars) (fields : List (String × Json)) : Bool :=
  (textFields.all fun (key, name) => (optionalField scalars.str key name fields).isSome) &&
    (countFields.all fun (key, name) => (optionalField scalars.int key name fields).isSome) &&
    (optionalField scalars.bool "donated" "donated" fields).isSome &&
    (optionalField (mediaMeta scalars) "mediaMeta" "media_meta" fields).isSome &&
    (requiredField scalars.str "type" "type" fields).isSome

/-- `MotionEvent.model_validate(payload)`. -/
def validate (scalars : Scalars) : Json → Option MotionEvent
  | .obj fields => do
    let activeMode ← optionalField arloMode "activeMode" "active_mode" fields
    let deviceId ← requiredField scalars.str "deviceId" "device_id" fields
    let objCategory ← optionalField scalars.str "objCategory" "obj_category" fields
    let objCategories ← optionalField (strings scalars) "objCategories" "obj_categories" fields
    let duration ← optionalField scalars.str "duration" "duration" fields
    let contentUrl ← optionalField scalars.str "contentUrl" "content_url" fields
    let thumbnailUrl ← optionalField scalars.str "thumbnailUrl" "thumbnail_url" fields
    let utcCreatedDate ← requiredField scalars.int "utcCreatedDate" "utc_created_date" fields
    let feedId ← optionalField scalars.str "feedId" "feed_id" fields
    guard (othersValid scalars fields)
    return { deviceId, objCategory, objCategories, duration, contentUrl, thumbnailUrl, activeMode,
             utcCreatedDate, feedId }
  | _ => none

end MotionEvent

namespace Coordinator

/-- What the bus carries as `EVENT_MEDIA`. -/
structure MediaEvent where
  deviceId : String
  type : String
  category : Option String
  categories : Option (List String)
  contentUrl : Option String
  thumbnailUrl : Option String
  duration : Option String
  timestamp : Int
  deriving DecidableEq

def mediaEvent (event : MotionEvent) : MediaEvent where
  deviceId := event.deviceId
  type := "motion"
  category := event.objCategory
  categories := event.objCategories
  contentUrl := event.contentUrl
  thumbnailUrl := event.thumbnailUrl
  duration := event.duration
  timestamp := event.utcCreatedDate

abbrev Bytes := List UInt8

structure FeedState where
  /-- `self.media_path is not None`. -/
  mediaPath : Bool
  /-- `self._http_session is not None`. -/
  httpSession : Bool
  motionEvents : Dict String MotionEvent
  imageBytes : Dict String Bytes
  latestThumbnails : Dict String String
  /-- The events fired as `EVENT_MEDIA`. -/
  fired : List MediaEvent
  /-- How often `_push_to_entities` has run. -/
  pushes : Nat

/-- What the handler awaits: a download, or a job of the executor. -/
inductive FeedRequest where
  | ensureDir
  | download (url : String)
  | write (deviceId mediaType ext : String) (content : Bytes)

/-- A download gives the body of an answer with status 200. -/
@[reducible] def FeedReply : FeedRequest → Type
  | .download _ => Option Bytes
  | _ => Unit

abbrev Feed := Co FeedState Exc FeedReply

/-- An `except Exception` clause that logs. -/
def loggedFeed (c : Feed Unit) : Feed Unit :=
  tryCatch c fun err => if err.isException then pure () else throw err

/-- A download, and what is done with the body of an answer with status 200. -/
def whenDownloaded (url : String) (use : Bytes → Feed Unit) : Feed Unit := do
  match ← Co.await (FeedRequest.download url) with
  | some content => use content
  | none => pure ()

/-- Download and archive media to configured storage. -/
def archiveMedia (deviceId url mediaType ext : String) : Feed Unit := do
  if (← get).mediaPath then
    Co.await FeedRequest.ensureDir
    loggedFeed do
      if (← get).httpSession then
        whenDownloaded url fun content =>
          Co.await (FeedRequest.write deviceId mediaType ext content)

/-- Download an image URL and cache the bytes for the camera entity. -/
def cacheImageBytes (deviceId url : String) : Feed Unit :=
  loggedFeed <| whenDownloaded url fun content =>
    modify fun s => { s with imageBytes := s.imageBytes.set deviceId content }

def pushToEntities (s : FeedState) : FeedState := { s with pushes := s.pushes + 1 }

/-- A text that an `if` takes for true. -/
def nonempty (text : Option String) : Option String := text.filter (· ≠ "")

section Motion

-- `str.lower()`, for which Unicode has the tables.
variable (lower : String → String)

/-- `f"motion_{(event.obj_category or 'unknown').lower()}"`. -/
def motionType (event : MotionEvent) : String :=
  "motion_" ++ lower ((nonempty event.objCategory).getD "unknown")

def archiveContent (event : MotionEvent) : Feed Unit :=
  match nonempty event.contentUrl with
  | some url => archiveMedia event.deviceId url (motionType lower event) "mp4"
  | none => pure ()

def archiveThumbnail (event : MotionEvent) : Feed Unit :=
  match nonempty event.thumbnailUrl with
  | some url => do
    cacheImageBytes event.deviceId url
    archiveMedia event.deviceId url (motionType lower event ++ "_thumb") "jpg"
    modify fun s => { s with latestThumbnails := s.latestThumbnails.set event.deviceId url }
  | none => pure ()

/-- The event's media, the event on the bus, and the entities. -/
def publishMotion (event : MotionEvent) : Feed Unit := do
  archiveContent lower event
  archiveThumbnail lower event
  modify fun s => { s with fired := s.fired ++ [mediaEvent event] }
  modify pushToEntities

def recordMotion (event : MotionEvent) (s : FeedState) : FeedState :=
  { s with motionEvents := s.motionEvents.set event.deviceId event }

/-- Handle feed notifications; what a mode change does to the modes is told apart from this. -/
def handleFeedNotification (scalars : Scalars) (payload : Json) : Feed Unit :=
  match payload.get? "type" with
  | some (.str "motion") =>
    loggedFeed do
      match MotionEvent.validate scalars payload with
      | some event =>
        modify (recordMotion event)
        publishMotion lower event
      | none => throw (.builtin .validationError "")
  | some (.str "modeChange") =>
    loggedFeed do
      match ModeChangeEvent.validate scalars payload with
      | some _ => modify pushToEntities
      | none => throw (.builtin .validationError "")
  | _ => pure ()

end Motion

/-! ## The mode of an event -/

/-- The payload with this mode. -/
def withMode (mode : String) (fields : List (String × Json)) : List (String × Json) :=
  ("activeMode", .str mode) :: fields.filter fun field => field.1 ≠ "activeMode"

section Payload

variable {mode : String} {fields : List (String × Json)}

theorem lookup_withMode_of_ne {key : String} (h : key ≠ "activeMode") :
    Json.lookup key (withMode mode fields) = Json.lookup key fields := by
  have hfilter : (fields.filter fun field => field.1 ≠ "activeMode").find? (·.1 == key) =
      fields.find? (·.1 == key) := by
    rw [List.find?_filter]
    congr 1
    funext field
    by_cases hkey : field.1 = key
    · simp [hkey, h]
    · simp [hkey]
  simp only [Json.lookup, withMode]
  rw [List.find?_cons_of_neg (by simpa using Ne.symm h), hfilter]

theorem optionalField_withMode {α : Type} (parse : Json → Option α) {key name : String}
    (hkey : key ≠ "activeMode") (hname : name ≠ "activeMode") :
    optionalField parse key name (withMode mode fields) = optionalField parse key name fields := by
  simp only [optionalField, lookup_withMode_of_ne hkey, lookup_withMode_of_ne hname]

theorem requiredField_withMode {α : Type} (parse : Json → Option α) {key name : String}
    (hkey : key ≠ "activeMode") (hname : name ≠ "activeMode") :
    requiredField parse key name (withMode mode fields) = requiredField parse key name fields := by
  simp only [requiredField, lookup_withMode_of_ne hkey, lookup_withMode_of_ne hname]

theorem optionalField_activeMode :
    optionalField arloMode "activeMode" "active_mode" (withMode mode fields) =
      (arloMode (.str mode)).map some := by
  simp [optionalField, withMode, Json.lookup]

theorem all_withMode {α : Type} (parse : Json → Option α) {names : List (String × String)}
    (h : ∀ entry ∈ names, entry.1 ≠ "activeMode" ∧ entry.2 ≠ "activeMode") :
    (names.all fun (key, name) =>
        (optionalField parse key name (withMode mode fields)).isSome) =
      names.all fun (key, name) => (optionalField parse key name fields).isSome := by
  rw [Bool.eq_iff_iff, List.all_eq_true, List.all_eq_true]
  apply forall₂_congr
  intro entry hentry
  simp only [optionalField_withMode parse (h entry hentry).1 (h entry hentry).2]

theorem othersValid_withMode (scalars : Scalars) :
    MotionEvent.othersValid scalars (withMode mode fields) =
      MotionEvent.othersValid scalars fields := by
  have htext : ∀ entry ∈ MotionEvent.textFields,
      entry.1 ≠ "activeMode" ∧ entry.2 ≠ "activeMode" := by decide
  have hcount : ∀ entry ∈ MotionEvent.countFields,
      entry.1 ≠ "activeMode" ∧ entry.2 ≠ "activeMode" := by decide
  have hdonated : "donated" ≠ "activeMode" := by decide
  have hmedia : "mediaMeta" ≠ "activeMode" ∧ "media_meta" ≠ "activeMode" := by decide
  have htype : "type" ≠ "activeMode" := by decide
  simp only [MotionEvent.othersValid, all_withMode scalars.str htext,
    all_withMode scalars.int hcount, optionalField_withMode scalars.bool hdonated hdonated,
    optionalField_withMode (MotionEvent.mediaMeta scalars) hmedia.1 hmedia.2,
    requiredField_withMode scalars.str htype htype]

theorem bind_eq_map_bind {α β γ : Type} {x : Option α} {f : α → Option γ} {g : α → Option β}
    {h : β → γ} (hfg : ∀ a, f a = (g a).map h) : x.bind f = (x.bind g).map h := by
  cases x with
  | none => rfl
  | some a => exact hfg a

/-- The mode is validated on its own: the rest of the event does not depend on it. -/
theorem validate_withMode (scalars : Scalars) (fields : List (String × Json)) :
    ∃ rest : Option MotionEvent, ∀ mode,
      MotionEvent.validate scalars (.obj (withMode mode fields)) =
        (arloMode (.str mode)).bind fun m => rest.map fun e => { e with activeMode := some m } := by
  refine ⟨MotionEvent.validate scalars (.obj (withMode ArloMode.standby.value fields)), ?_⟩
  intro mode
  have hstandby : arloMode (.str ArloMode.standby.value) = some .standby := by decide
  simp (disch := decide) only [MotionEvent.validate, optionalField_activeMode,
    othersValid_withMode, optionalField_withMode, requiredField_withMode, hstandby]
  cases arloMode (.str mode) with
  | none => rfl
  | some m =>
    simp only [Option.map_some, Option.pure_def, Option.bind_eq_bind, Option.bind_some]
    refine bind_eq_map_bind fun deviceId => bind_eq_map_bind fun objCategory => ?_
    refine bind_eq_map_bind fun objCategories => bind_eq_map_bind fun duration => ?_
    refine bind_eq_map_bind fun contentUrl => bind_eq_map_bind fun thumbnailUrl => ?_
    refine bind_eq_map_bind fun utcCreatedDate => bind_eq_map_bind fun feedId => ?_
    exact bind_eq_map_bind fun _ => rfl

end Payload

/-! ## What is published does not depend on it -/

section Published

/-- The same state with another record of the motion events. -/
def withMotionEvents (events : Dict String MotionEvent) (s : FeedState) : FeedState :=
  { s with motionEvents := events }

variable (events : Dict String MotionEvent)

theorem loggedFeed_blind {c : Feed Unit} (h : Co.Blind (withMotionEvents events) c) :
    Co.Blind (withMotionEvents events) (loggedFeed c) := by
  apply Co.Blind.tryCatch h
  intro err
  cases err.isException with
  | true => exact Co.blind_pure ()
  | false => exact Co.blind_throw err

theorem whenDownloaded_blind (url : String) {use : Bytes → Feed Unit}
    (h : ∀ content, Co.Blind (withMotionEvents events) (use content)) :
    Co.Blind (withMotionEvents events) (whenDownloaded url use) := by
  apply Co.Blind.bind (Co.blind_await (FeedRequest.download url))
  intro body
  cases body with
  | none => exact Co.blind_pure ()
  | some content => exact h content

theorem archiveMedia_blind (deviceId url mediaType ext : String) :
    Co.Blind (withMotionEvents events) (archiveMedia deviceId url mediaType ext) := by
  have hstore : Co.Blind (withMotionEvents events) (whenDownloaded url fun content =>
      Co.await (FeedRequest.write deviceId mediaType ext content)) :=
    whenDownloaded_blind events url fun content => Co.blind_await (FeedRequest.write _ _ _ content)
  refine Co.blind_get_bind (fun _ => rfl) fun s => ?_
  cases s.mediaPath with
  | false => exact Co.blind_pure ()
  | true =>
    apply Co.Blind.bind (Co.blind_await FeedRequest.ensureDir)
    intro _
    apply loggedFeed_blind
    refine Co.blind_get_bind (fun _ => rfl) fun t => ?_
    cases t.httpSession with
    | false => exact Co.blind_pure ()
    | true => exact hstore

theorem cacheImageBytes_blind (deviceId url : String) :
    Co.Blind (withMotionEvents events) (cacheImageBytes deviceId url) := by
  apply loggedFeed_blind
  apply whenDownloaded_blind
  intro content
  exact Co.blind_modify fun _ => rfl

theorem publishMotion_blind (lower : String → String) (event : MotionEvent) :
    Co.Blind (withMotionEvents events) (publishMotion lower event) := by
  have hcontent : Co.Blind (withMotionEvents events) (archiveContent lower event) := by
    unfold archiveContent
    cases nonempty event.contentUrl with
    | none => exact Co.blind_pure ()
    | some url => exact archiveMedia_blind events event.deviceId url _ "mp4"
  have hthumbnail : Co.Blind (withMotionEvents events) (archiveThumbnail lower event) := by
    unfold archiveThumbnail
    cases nonempty event.thumbnailUrl with
    | none => exact Co.blind_pure ()
    | some url =>
      apply Co.Blind.bind (cacheImageBytes_blind events event.deviceId url)
      intro _
      apply Co.Blind.bind (archiveMedia_blind events event.deviceId url _ "jpg")
      intro _
      exact Co.blind_modify fun _ => rfl
  apply Co.Blind.bind hcontent
  intro _
  apply Co.Blind.bind hthumbnail
  intro _
  exact Co.Blind.bind (Co.blind_modify fun _ => rfl) fun _ => Co.blind_modify fun _ => rfl

end Published

/-! ## Handled events -/

/-- The event is recorded under its device, fired once and pushed. -/
structure MotionHandled (event : MotionEvent) (before after : FeedState) : Prop where
  recorded : ∃ mode, after.motionEvents.get? event.deviceId =
    some { event with activeMode := mode }
  fired : after.fired = before.fired ++ [mediaEvent event]
  pushed : after.pushes = before.pushes + 1

section Feed

variable (lower : String → String) (scalars : Scalars)
  (answers : Nat → (i : FeedRequest) → Except Exc (FeedReply i))

/-- The coordinator after the handler has run on a payload. -/
def afterFeed (payload : Json) (s : FeedState) : FeedState :=
  ((handleFeedNotification lower scalars payload).runWith answers 0 s).1

theorem afterFeed_invalid {payload : Json} (htype : payload.get? "type" = some (.str "motion"))
    (h : MotionEvent.validate scalars payload = none) (s : FeedState) :
    afterFeed lower scalars answers payload s = s := by
  simp only [afterFeed, handleFeedNotification, htype, h]
  rfl

theorem afterFeed_fired_of_ne {payload : Json} (htype : payload.get? "type" ≠ some (.str "motion"))
    (s : FeedState) : (afterFeed lower scalars answers payload s).fired = s.fired := by
  unfold afterFeed handleFeedNotification
  split
  · rename_i heq
    exact absurd heq htype
  · cases ModeChangeEvent.validate scalars payload with
    | none => rfl
    | some event => rfl
  · rfl

/-- Two events that differ in the mode: only the record tells them apart afterwards. -/
theorem afterFeed_mode {payload payload' : Json} {event : MotionEvent} {mode : Option ArloMode}
    (htype : payload.get? "type" = some (.str "motion"))
    (htype' : payload'.get? "type" = some (.str "motion"))
    (h : MotionEvent.validate scalars payload = some event)
    (h' : MotionEvent.validate scalars payload' = some { event with activeMode := mode })
    (s : FeedState) :
    afterFeed lower scalars answers payload' s =
      withMotionEvents (s.motionEvents.set event.deviceId { event with activeMode := mode })
        (afterFeed lower scalars answers payload s) := by
  have hblind := loggedFeed_blind
    (s.motionEvents.set event.deviceId { event with activeMode := mode })
    (publishMotion_blind _ lower event)
  have hrun := hblind answers 0 (recordMotion event s)
  simp only [afterFeed, handleFeedNotification, htype, htype', h, h']
  change ((loggedFeed (publishMotion lower event)).runWith answers 0
      (withMotionEvents _ (recordMotion event s))).1 =
    withMotionEvents _ ((loggedFeed (publishMotion lower event)).runWith answers 0
      (recordMotion event s)).1
  rw [Co.runWith_eq, Co.runWith_eq, hrun]
  rfl

/-- An event that is handled in a standard mode is handled in another one if and only if that is a
standard mode too: a custom mode's key loses it. -/
theorem handled_withMode_iff {fields : List (String × Json)} {mode : String}
    {event : MotionEvent}
    (hevent : MotionEvent.validate scalars (.obj (withMode mode fields)) = some event)
    {s : FeedState}
    (h : MotionHandled event s (afterFeed lower scalars answers (.obj (withMode mode fields)) s))
    (key : String) :
    MotionHandled event s (afterFeed lower scalars answers (.obj (withMode key fields)) s) ↔
      key ∈ standardModes := by
  have htypes : ∀ m, (Json.obj (withMode m fields)).get? "type" = Json.lookup "type" fields :=
    fun m => lookup_withMode_of_ne (by decide)
  have hmotion : Json.lookup "type" fields = some (.str "motion") := by
    by_contra hne
    have hfired := afterFeed_fired_of_ne lower scalars answers (htypes mode ▸ hne) s
    rw [h.fired] at hfired
    simp at hfired
  obtain ⟨rest, hrest⟩ := validate_withMode scalars fields
  have hkey := hrest key
  cases hparse : arloMode (.str key) with
  | none =>
    have hnot : key ∉ standardModes := by simp [← arloMode_str, hparse]
    rw [hparse] at hkey
    rw [iff_false_right hnot, afterFeed_invalid lower scalars answers ((htypes key).trans hmotion) hkey]
    intro hhandled
    have hfired := hhandled.fired
    simp at hfired
  | some m =>
    have hstandard : key ∈ standardModes := by simp [← arloMode_str, hparse]
    rw [iff_true_right hstandard]
    have hsame : MotionEvent.validate scalars (.obj (withMode key fields)) =
        some { event with activeMode := some m } := by
      rw [hrest mode, Option.bind_eq_some_iff] at hevent
      obtain ⟨m', -, hevent⟩ := hevent
      rw [Option.map_eq_some_iff] at hevent
      obtain ⟨e, he, rfl⟩ := hevent
      rw [hkey, hparse, he]
      rfl
    rw [afterFeed_mode lower scalars answers ((htypes mode).trans hmotion) ((htypes key).trans hmotion)
      hevent hsame s]
    exact ⟨⟨some m, Dict.get?_set_self _ _ _⟩, h.fired, h.pushed⟩

end Feed

/-- A motion feed notification of a camera, but for its mode. -/
def personMotion : List (String × Json) :=
  [("resource", .str "feedNotification"), ("type", .str "motion"), ("deviceId", .str "CAM"),
    ("utcCreatedDate", .int 1792647689593), ("objCategory", .str "Person")]

def personEvent : MotionEvent where
  deviceId := "CAM"
  objCategory := some "Person"
  objCategories := none
  duration := none
  contentUrl := none
  thumbnailUrl := none
  activeMode := some .armAway
  utcCreatedDate := 1792647689593
  feedId := none

def quietFeed : FeedState := ⟨false, true, .empty, .empty, .empty, [], 0⟩

def noAnswers (_ : Nat) (i : FeedRequest) : Except Exc (FeedReply i) := .error .cancelledError

theorem personMotion_valid :
    MotionEvent.validate plainScalars (.obj (withMode "armAway" personMotion)) =
      some personEvent := by decide

theorem personMotion_handled : MotionHandled personEvent quietFeed
    (afterFeed String.toLower plainScalars noAnswers (.obj (withMode "armAway" personMotion))
      quietFeed) := by
  have hmotion : (Json.obj (withMode "armAway" personMotion)).get? "type" =
      some (.str "motion") := by
    rfl
  have hafter : afterFeed String.toLower plainScalars noAnswers
      (.obj (withMode "armAway" personMotion)) quietFeed = { recordMotion personEvent quietFeed with
        fired := [mediaEvent personEvent], pushes := 1 } := by
    simp only [afterFeed, handleFeedNotification, hmotion, personMotion_valid]
    rfl
  rw [hafter]
  exact ⟨⟨some .armAway, Dict.get?_set_self _ _ _⟩, rfl, rfl⟩

/-- The event of a camera whose location is armed at home, by the one armed away. -/
theorem handled_armHome : "armHome" ∈ standardModes ∧ MotionHandled personEvent quietFeed
    (afterFeed String.toLower plainScalars noAnswers (.obj (withMode "armHome" personMotion))
      quietFeed) := by
  have hmode : "armHome" ∈ standardModes := by decide
  exact ⟨hmode, (handled_withMode_iff String.toLower plainScalars noAnswers personMotion_valid
    personMotion_handled "armHome").mpr hmode⟩

/-- The same event with a custom mode's key, which a mode change may carry, is lost. -/
theorem custom_motion_lost :
    (ModeChangeEvent.validate plainScalars (.obj (withMode "c4a2" personMotion))).isSome ∧
      MotionHandled personEvent quietFeed
        (afterFeed String.toLower plainScalars noAnswers (.obj (withMode "armAway" personMotion))
          quietFeed) ∧
      ¬ MotionHandled personEvent quietFeed
        (afterFeed String.toLower plainScalars noAnswers (.obj (withMode "c4a2" personMotion))
          quietFeed) := by
  refine ⟨by decide, personMotion_handled, ?_⟩
  have hinvalid : MotionEvent.validate plainScalars (.obj (withMode "c4a2" personMotion)) = none :=
    by decide
  rw [afterFeed_invalid String.toLower plainScalars noAnswers rfl hinvalid quietFeed]
  intro h
  exact absurd h.pushed (by decide)

end Coordinator

end Eisenberg
