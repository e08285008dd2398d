import Eisenberg.Framework.Transition

/-!
# Live view

`stream_source`, `async_create_stream`, `_handle_coordinator_update` and `_cache_last_stream_frame`
of one camera entity, and Home Assistant's own `async_create_stream` underneath. One action is what
a task does from one suspension point to the next.
-/

namespace Eisenberg.Camera

open Framework

/-- `STREAM_URL_REUSE_SECONDS`, on a clock that counts nanoseconds. -/
def STREAM_URL_REUSE : Nat := 10 * 1000000000

def PROBE_URL : String := "rtsps://probe.invalid/"

/-- The first occurrence of `old` replaced by `new`. -/
def replaceFirst (old new : List Char) : List Char → List Char
  | [] => []
  | c :: text =>
    if old.isPrefixOf (c :: text) then new ++ (c :: text).drop old.length
    else c :: replaceFirst old new text

/-- `url.replace("rtsp://", "rtsps://", 1)`. -/
def egressUrl (url : String) : String :=
  String.ofList (replaceFirst "rtsp://".toList "rtsps://".toList url.toList)

/-- Where a source comes from: the provider probe's placeholder, or the `n`-th URL Arlo minted. -/
inductive Origin where
  | placeholder
  | minted (n : Nat)
  deriving DecidableEq, Repr

structure Source where
  origin : Origin
  text : String
  deriving DecidableEq, Repr

/-- A Stream of Home Assistant, which keeps the source it was built around. -/
structure Stream where
  id : Nat
  source : Source
  deriving DecidableEq, Repr

/-- A caller of `stream_source`, with the two context variables it runs under, or of
`async_create_stream`. -/
inductive Purpose where
  | source (probing bare : Bool)
  | create
  deriving DecidableEq, Repr

namespace Purpose

def probing : Purpose → Bool
  | source probing _ => probing
  | create => false

/-- `_BARE_SOURCE.get()`. -/
def bare : Purpose → Bool
  | source _ bare => bare
  | create => true

end Purpose

inductive CallerPc where
  /-- Stopping the Stream of a finished session. -/
  | stopping (finished : Stream)
  | wantLock
  /-- In `start_stream`, with the lock held. -/
  | calling
  | done
  deriving DecidableEq, Repr

/-- `since` records how many URLs had been retired when `stream_source` was called. -/
structure Caller where
  purpose : Purpose
  since : Nat
  pc : CallerPc
  deriving DecidableEq, Repr

inductive CapturePc where
  | scheduled
  | grabbing (stream : Stream)
  | archiving (stream : Stream)
  | done
  deriving DecidableEq, Repr

/-- A task of `_cache_last_stream_frame`; `endedAt` records how many URLs had been minted when the
session was seen to end. -/
structure Capture where
  endedAt : Nat
  pc : CapturePc
  deriving DecidableEq, Repr

structure Answer where
  probing : Bool
  since : Nat
  source : Option Source
  deriving DecidableEq, Repr

/-- A Stream that `async_create_stream` returned, and the sessions there were. -/
structure Handed where
  stream : Stream
  newest : Nat
  live : List Nat
  deriving DecidableEq, Repr

/-- What happened so far, for the statements only: the entity does not read it. -/
structure History where
  /-- How many URLs Arlo has minted. -/
  minted : Nat := 0
  urls : List String := []
  /-- How often `start_stream` has been called. -/
  issued : Nat := 0
  /-- The URLs whose session Arlo has reported as streaming before a newer one was minted, and has
  not reported as ended. -/
  live : List Nat := []
  /-- How many URLs had been minted when the camera was last seen to leave the streaming states. -/
  retired : Nat := 0
  answers : List Answer := []
  handed : List Handed := []
  /-- The URLs a capture has dropped from the cache, each with its `endedAt`. -/
  discarded : List (Nat × Nat) := []
  deriving DecidableEq, Repr

structure CameraState where
  /-- `monotonic()`. -/
  now : Nat
  streamLock : Option Nat := none
  /-- `_last_url`: when the URL was minted, its number and its text. -/
  lastUrl : Option (Nat × Nat × String) := none
  stream : Option Stream := none
  isStreaming : Bool := false
  /-- `activity_state` in the coordinator's `device_states`. -/
  activityState : Option String
  ffmpegStream : Bool
  /-- `"go2rtc" in hass.config.components`. -/
  go2rtc : Bool
  /-- How many Streams have been built. -/
  built : Nat := 0
  callers : List Caller := []
  captures : List Capture := []
  history : History := {}
  deriving DecidableEq, Repr

/-- The answer of Arlo to `start_stream`, or the end of the call without one. -/
inductive Outcome where
  | url (text : String)
  | failed
  | cancelled
  deriving DecidableEq, Repr

/-- `state.activity_state in ("userStreamActive", "alertStreamActive")`. -/
def streamingState (activityState : Option String) : Bool :=
  match activityState with
  | some activity => activity == "userStreamActive" || activity == "alertStreamActive"
  | none => false

namespace CameraState

/-- `_with_transport`: apply the `ffmpeg_stream` option to a bare rtsps URL. -/
def withTransport (s : CameraState) (bare : Bool) (url : String) : String :=
  if bare then url
  else if s.ffmpegStream && s.go2rtc then "ffmpeg:" ++ url
  else url

/-- The cached URL, if it is handed out again. -/
def reusable (s : CameraState) : Option (Nat × String) :=
  match s.lastUrl with
  | some (mintedAt, url) => if s.now - mintedAt < STREAM_URL_REUSE then some url else none
  | none => none

/-- True when `self.stream` belongs to a session that has ended. -/
def streamSessionIsOver (s : CameraState) : Bool :=
  if s.stream.isNone || s.isStreaming then false
  else
    match s.lastUrl with
    | none => true
    | some (mintedAt, _) => decide (STREAM_URL_REUSE ≤ s.now - mintedAt)

def setPc (s : CameraState) (t : Nat) (pc : CallerPc) : CameraState :=
  { s with callers := s.callers.modify t fun caller => { caller with pc } }

def setCapture (s : CameraState) (n : Nat) (pc : CapturePc) : CameraState :=
  { s with captures := s.captures.modify n fun capture => { capture with pc } }

def recordAnswer (s : CameraState) (caller : Caller) (source : Option Source) : CameraState :=
  { s with history := { s.history with
      answers := s.history.answers ++ [⟨caller.purpose.probing, caller.since, source⟩] } }

/-- `async_create_stream` returns `self.stream`. -/
def handOut (s : CameraState) (t : Nat) (stream : Stream) : CameraState :=
  { s.setPc t .done with history := { s.history with
      handed := s.history.handed ++ [⟨stream, s.history.minted, s.history.live⟩] } }

/-- A Stream is built around a source, and returned. -/
def buildStream (s : CameraState) (t : Nat) (source : Source) : CameraState :=
  let stream : Stream := ⟨s.built, source⟩
  { s with stream := some stream, built := s.built + 1 : CameraState }.handOut t stream

/-- `stream_source` returns. -/
def sourceReturned (s : CameraState) (t : Nat) (caller : Caller) (source : Option Source) :
    CameraState :=
  let s := s.recordAnswer caller source
  match caller.purpose, source with
  | .create, some source => s.buildStream t source
  | _, _ => s.setPc t .done

/-- `Camera.async_create_stream`: the Stream there is, or one around `stream_source()`. -/
def superCreateStream (s : CameraState) (t : Nat) : CameraState :=
  match s.stream with
  | some stream => s.handOut t stream
  | none => { s with callers := s.callers.modify t fun caller =>
      { caller with since := s.history.retired, pc := .wantLock } }

def call (s : CameraState) (caller : Caller) : CameraState :=
  { s with callers := s.callers ++ [caller] }

def asyncCreateStream (s : CameraState) : CameraState :=
  match s.stream with
  | some finished =>
    if s.streamSessionIsOver then
      { s.call ⟨.create, s.history.retired, .stopping finished⟩ with stream := none }
    else (s.call ⟨.create, s.history.retired, .done⟩).superCreateStream s.callers.length
  | none => (s.call ⟨.create, s.history.retired, .done⟩).superCreateStream s.callers.length

/-- `stream_source` up to the lock. -/
def streamSource (s : CameraState) (probing bare : Bool) : CameraState :=
  if probing then
    let caller : Caller := ⟨.source probing bare, s.history.retired, .done⟩
    (s.call caller).sourceReturned s.callers.length caller
      (some ⟨.placeholder, s.withTransport bare PROBE_URL⟩)
  else s.call ⟨.source probing bare, s.history.retired, .wantLock⟩

/-- `stream_source` once the lock is held: the cached URL, or a call of `start_stream`. -/
def underLock (s : CameraState) (t : Nat) (caller : Caller) : CameraState :=
  match s.reusable with
  | some (n, url) =>
    s.sourceReturned t caller (some ⟨.minted n, s.withTransport caller.purpose.bare url⟩)
  | none =>
    { s.setPc t .calling with
      streamLock := some t, history := { s.history with issued := s.history.issued + 1 } }

/-- `self._last_url = (monotonic(), url)`. -/
def mint (s : CameraState) (url : String) : CameraState :=
  { s with
    lastUrl := some (s.now, s.history.minted + 1, url)
    history := { s.history with
      minted := s.history.minted + 1
      urls := s.history.urls ++ [url] } }

/-- `stream_source` once `start_stream` is over; the lock is released. -/
def startStreamReturned (s : CameraState) (t : Nat) (caller : Caller) : Outcome → CameraState
  | .url text =>
    let url := egressUrl text
    ({ s with streamLock := none }.mint url).sourceReturned t caller
      (some ⟨.minted (s.history.minted + 1), s.withTransport caller.purpose.bare url⟩)
  | .failed => { s with streamLock := none }.sourceReturned t caller none
  | .cancelled => { s with streamLock := none }.setPc t .done

/-- The camera has left the streaming states; its Stream, if there is one, gets a task that captures
the last frame. -/
def sessionEnded (s : CameraState) : CameraState :=
  { s with
    isStreaming := false
    captures :=
      if s.stream.isSome then s.captures ++ [⟨s.history.minted, .scheduled⟩] else s.captures
    history := { s.history with retired := s.history.minted } }

/-- Update streaming state from the coordinator. -/
def handleCoordinatorUpdate (s : CameraState) : CameraState :=
  if s.isStreaming && !streamingState s.activityState then s.sessionEnded
  else { s with isStreaming := streamingState s.activityState }

/-- The coordinator stores an activity state that Arlo reports. -/
def stored (s : CameraState) (activity : String) : CameraState :=
  { s with
    activityState := some activity
    history := { s.history with
      live := if streamingState (some activity) then s.history.minted :: s.history.live else [] } }

/-- What the coordinator stores it pushes to its entities. -/
def report (s : CameraState) (activity : String) : CameraState :=
  (s.stored activity).handleCoordinatorUpdate

/-- `_cache_last_stream_frame` up to `async_get_image`. -/
def beginCapture (s : CameraState) (n : Nat) : CameraState :=
  match s.stream with
  | none => s.setCapture n .done
  | some stream => s.setCapture n (.grabbing stream)

/-- `self.stream is stream`. -/
def attached (s : CameraState) (stream : Stream) : Bool :=
  match s.stream with
  | some current => current.id == stream.id
  | none => false

/-- The end of `_cache_last_stream_frame`; what it awaits last changes nothing any more. -/
def dropStream (s : CameraState) (n endedAt : Nat) (stream : Stream) : CameraState :=
  if s.attached stream then
    { s.setCapture n .done with
      stream := none
      lastUrl := none
      history := { s.history with
        discarded := match s.lastUrl with
          | some (_, url, _) => s.history.discarded ++ [(endedAt, url)]
          | none => s.history.discarded } }
  else s.setCapture n .done

end CameraState

inductive CameraAction where
  | pass (nanoseconds : Nat)
  | options (ffmpegStream go2rtc : Bool)
  | report (activity : String)
  /-- An update of the coordinator on account of something else. -/
  | update
  | source (probing bare : Bool)
  | create
  /-- The `stop()` of a finished Stream returns or raises. -/
  | stopped (t : Nat) (ok : Bool)
  | acquire (t : Nat)
  | answer (t : Nat) (outcome : Outcome)
  /-- A caller is cancelled while it awaits the lock, or the end of a Stream. -/
  | cancel (t : Nat)
  | begin (n : Nat)
  /-- `async_get_image` returns a frame, or none, or raises. -/
  | grabbed (n : Nat) (frame : Bool)
  | archived (n : Nat) (ok : Bool)
  | cancelCapture (n : Nat)
  deriving DecidableEq, Repr

open CameraState in
def step (s : CameraState) : CameraAction → Option CameraState
  | .pass d => some { s with now := s.now + d }
  | .options ffmpegStream go2rtc => some { s with ffmpegStream, go2rtc }
  | .report activity => some (s.report activity)
  | .update => some s.handleCoordinatorUpdate
  | .source probing bare => some (s.streamSource probing bare)
  | .create => some s.asyncCreateStream
  | .stopped t ok =>
    match s.callers[t]? with
    | some ⟨_, _, .stopping _⟩ => some (if ok then s.superCreateStream t else s.setPc t .done)
    | _ => none
  | .acquire t =>
    match s.callers[t]? with
    | some ⟨purpose, since, .wantLock⟩ =>
      if s.streamLock = none then some (s.underLock t ⟨purpose, since, .wantLock⟩) else none
    | _ => none
  | .answer t outcome =>
    match s.callers[t]? with
    | some ⟨purpose, since, .calling⟩ =>
      some (s.startStreamReturned t ⟨purpose, since, .calling⟩ outcome)
    | _ => none
  | .cancel t =>
    match s.callers[t]? with
    | some ⟨_, _, .stopping _⟩ | some ⟨_, _, .wantLock⟩ => some (s.setPc t .done)
    | _ => none
  | .begin n =>
    match s.captures[n]? with
    | some ⟨_, .scheduled⟩ => some (s.beginCapture n)
    | _ => none
  | .grabbed n frame =>
    match s.captures[n]? with
    | some ⟨endedAt, .grabbing stream⟩ =>
      some (if frame then s.setCapture n (.archiving stream) else s.dropStream n endedAt stream)
    | _ => none
  | .archived n ok =>
    match s.captures[n]? with
    | some ⟨endedAt, .archiving stream⟩ =>
      some (if ok then s.dropStream n endedAt stream else s.setCapture n .done)
    | _ => none
  | .cancelCapture n =>
    match s.captures[n]? with
    | some ⟨_, .scheduled⟩ | some ⟨_, .grabbing _⟩ | some ⟨_, .archiving _⟩ =>
      some (s.setCapture n .done)
    | _ => none

def machine : Machine CameraState CameraAction where
  step := step

/-- What a step can do, with what it takes. -/
inductive Step (s : CameraState) : CameraAction → CameraState → Prop
  | pass (d : Nat) : Step s (.pass d) { s with now := s.now + d }
  | options (ffmpegStream go2rtc : Bool) :
      Step s (.options ffmpegStream go2rtc) { s with ffmpegStream, go2rtc }
  | report (activity : String) : Step s (.report activity) (s.report activity)
  | update : Step s .update s.handleCoordinatorUpdate
  | source (probing bare : Bool) : Step s (.source probing bare) (s.streamSource probing bare)
  | create : Step s .create s.asyncCreateStream
  | stopped (t : Nat) (caller : Caller) (finished : Stream) (ht : s.callers[t]? = some caller)
      (hpc : caller.pc = .stopping finished) : Step s (.stopped t true) (s.superCreateStream t)
  | stopFailed (t : Nat) : Step s (.stopped t false) (s.setPc t .done)
  | acquire (t : Nat) (caller : Caller) (ht : s.callers[t]? = some caller)
      (hpc : caller.pc = .wantLock) (hlock : s.streamLock = none) :
      Step s (.acquire t) (s.underLock t caller)
  | answer (t : Nat) (caller : Caller) (outcome : Outcome) (ht : s.callers[t]? = some caller)
      (hpc : caller.pc = .calling) :
      Step s (.answer t outcome) (s.startStreamReturned t caller outcome)
  | cancel (t : Nat) : Step s (.cancel t) (s.setPc t .done)
  | begin (n : Nat) (capture : Capture) (hn : s.captures[n]? = some capture)
      (hpc : capture.pc = .scheduled) : Step s (.begin n) (s.beginCapture n)
  | grabbedFrame (n : Nat) (capture : Capture) (stream : Stream)
      (hn : s.captures[n]? = some capture) (hpc : capture.pc = .grabbing stream) :
      Step s (.grabbed n true) (s.setCapture n (.archiving stream))
  | grabbedNone (n : Nat) (capture : Capture) (stream : Stream)
      (hn : s.captures[n]? = some capture) (hpc : capture.pc = .grabbing stream) :
      Step s (.grabbed n false) (s.dropStream n capture.endedAt stream)
  | archived (n : Nat) (capture : Capture) (stream : Stream)
      (hn : s.captures[n]? = some capture) (hpc : capture.pc = .archiving stream) :
      Step s (.archived n true) (s.dropStream n capture.endedAt stream)
  | archiveFailed (n : Nat) : Step s (.archived n false) (s.setCapture n .done)
  | cancelCapture (n : Nat) : Step s (.cancelCapture n) (s.setCapture n .done)

theorem step_cases {s s' : CameraState} {action : CameraAction}
    (h : step s action = some s') : Step s action s' := by
  cases action with
  | pass d =>
    cases h
    exact .pass d
  | options ffmpegStream go2rtc =>
    cases h
    exact .options ffmpegStream go2rtc
  | report activity =>
    cases h
    exact .report activity
  | update =>
    cases h
    exact .update
  | source probing bare =>
    cases h
    exact .source probing bare
  | create =>
    cases h
    exact .create
  | stopped t ok =>
    simp only [step] at h
    split at h
    case h_1 purpose since finished ht =>
      cases ok with
      | true =>
        cases h
        exact .stopped t _ finished ht rfl
      | false =>
        cases h
        exact .stopFailed t
    case h_2 => cases h
  | acquire t =>
    simp only [step] at h
    split at h
    case h_1 purpose since ht =>
      split at h
      case isTrue hlock =>
        cases h
        exact .acquire t _ ht rfl hlock
      case isFalse => cases h
    case h_2 => cases h
  | answer t outcome =>
    simp only [step] at h
    split at h
    case h_1 purpose since ht =>
      cases h
      exact .answer t _ outcome ht rfl
    case h_2 => cases h
  | cancel t =>
    simp only [step] at h
    split at h
    case h_1 =>
      cases h
      exact .cancel t
    case h_2 =>
      cases h
      exact .cancel t
    case h_3 => cases h
  | begin n =>
    simp only [step] at h
    split at h
    case h_1 endedAt hn =>
      cases h
      exact .begin n _ hn rfl
    case h_2 => cases h
  | grabbed n frame =>
    simp only [step] at h
    split at h
    case h_1 endedAt stream hn =>
      cases frame with
      | true =>
        cases h
        exact .grabbedFrame n _ stream hn rfl
      | false =>
        cases h
        exact .grabbedNone n _ stream hn rfl
    case h_2 => cases h
  | archived n ok =>
    simp only [step] at h
    split at h
    case h_1 endedAt stream hn =>
      cases ok with
      | true =>
        cases h
        exact .archived n _ stream hn rfl
      | false =>
        cases h
        exact .archiveFailed n
    case h_2 => cases h
  | cancelCapture n =>
    simp only [step] at h
    split at h
    case h_4 => cases h
    all_goals
      cases h
      exact .cancelCapture n

theorem step_acquire {s : CameraState} {t : Nat} {caller : Caller}
    (ht : s.callers[t]? = some caller) (hpc : caller.pc = .wantLock) (hlock : s.streamLock = none) :
    step s (.acquire t) = some (s.underLock t caller) := by
  obtain ⟨purpose, since, pc⟩ := caller
  cases hpc
  simp only [step, ht, hlock, if_true]

theorem step_begin {s : CameraState} {n : Nat} {capture : Capture}
    (hn : s.captures[n]? = some capture) (hpc : capture.pc = .scheduled) :
    step s (.begin n) = some (s.beginCapture n) := by
  obtain ⟨endedAt, pc⟩ := capture
  cases hpc
  simp only [step, hn]

theorem step_grabbedNone {s : CameraState} {n : Nat} {capture : Capture} {stream : Stream}
    (hn : s.captures[n]? = some capture) (hpc : capture.pc = .grabbing stream) :
    step s (.grabbed n false) = some (s.dropStream n capture.endedAt stream) := by
  obtain ⟨endedAt, pc⟩ := capture
  cases hpc
  simp only [step, hn, Bool.false_eq_true, if_false]

theorem step_archived {s : CameraState} {n : Nat} {capture : Capture} {stream : Stream}
    (hn : s.captures[n]? = some capture) (hpc : capture.pc = .archiving stream) :
    step s (.archived n true) = some (s.dropStream n capture.endedAt stream) := by
  obtain ⟨endedAt, pc⟩ := capture
  cases hpc
  simp only [step, hn, if_true]

/-- An entity that has been set up: no URL, no Stream, nobody calling. -/
def CameraState.init (now : Nat) (activityState : Option String) (ffmpegStream go2rtc : Bool) :
    CameraState where
  now := now
  activityState := activityState
  ffmpegStream := ffmpegStream
  go2rtc := go2rtc

namespace CameraState

/-! ## What the updates change -/

theorem reusable_eq_some {s : CameraState} {url : Nat × String} :
    s.reusable = some url ↔
      ∃ mintedAt, s.lastUrl = some (mintedAt, url) ∧ s.now - mintedAt < STREAM_URL_REUSE := by
  unfold reusable
  cases s.lastUrl with
  | none => simp
  | some last =>
    obtain ⟨mintedAt, last⟩ := last
    by_cases hfresh : s.now - mintedAt < STREAM_URL_REUSE <;> simp [hfresh, and_comm]

theorem reusable_eq_none {s : CameraState} :
    s.reusable = none ↔
      ∀ mintedAt url, s.lastUrl = some (mintedAt, url) → STREAM_URL_REUSE ≤ s.now - mintedAt := by
  unfold reusable
  cases s.lastUrl with
  | none => simp
  | some last =>
    obtain ⟨mintedAt, last⟩ := last
    by_cases hfresh : s.now - mintedAt < STREAM_URL_REUSE
    · simp [hfresh]
    · simp [hfresh, Nat.le_of_not_lt hfresh]

/-- What the callers and the captures do among themselves leaves the clock, the lock, the cached URL
and the sessions alone. -/
structure SameSessions (s s' : CameraState) : Prop where
  now : s'.now = s.now
  streamLock : s'.streamLock = s.streamLock
  lastUrl : s'.lastUrl = s.lastUrl
  isStreaming : s'.isStreaming = s.isStreaming
  minted : s'.history.minted = s.history.minted
  urls : s'.history.urls = s.history.urls
  issued : s'.history.issued = s.history.issued
  live : s'.history.live = s.history.live
  retired : s'.history.retired = s.history.retired
  discarded : s'.history.discarded = s.history.discarded

theorem SameSessions.reusable {s s' : CameraState} (h : SameSessions s s') :
    s'.reusable = s.reusable := by
  rw [CameraState.reusable, CameraState.reusable, h.lastUrl, h.now]

theorem sameSessions_setPc (s : CameraState) (t : Nat) (pc : CallerPc) :
    SameSessions s (s.setPc t pc) :=
  ⟨rfl, rfl, rfl, rfl, rfl, rfl, rfl, rfl, rfl, rfl⟩

theorem sameSessions_setCapture (s : CameraState) (n : Nat) (pc : CapturePc) :
    SameSessions s (s.setCapture n pc) :=
  ⟨rfl, rfl, rfl, rfl, rfl, rfl, rfl, rfl, rfl, rfl⟩

theorem sameSessions_beginCapture (s : CameraState) (n : Nat) :
    SameSessions s (s.beginCapture n) := by
  unfold beginCapture
  split
  · exact sameSessions_setCapture s n _
  · exact sameSessions_setCapture s n _

theorem sameSessions_sourceReturned (s : CameraState) (t : Nat) (caller : Caller)
    (source : Option Source) : SameSessions s (s.sourceReturned t caller source) := by
  unfold sourceReturned
  split
  · exact ⟨rfl, rfl, rfl, rfl, rfl, rfl, rfl, rfl, rfl, rfl⟩
  · exact ⟨rfl, rfl, rfl, rfl, rfl, rfl, rfl, rfl, rfl, rfl⟩

theorem sameSessions_superCreateStream (s : CameraState) (t : Nat) :
    SameSessions s (s.superCreateStream t) := by
  unfold superCreateStream
  split
  · exact ⟨rfl, rfl, rfl, rfl, rfl, rfl, rfl, rfl, rfl, rfl⟩
  · exact ⟨rfl, rfl, rfl, rfl, rfl, rfl, rfl, rfl, rfl, rfl⟩

theorem SameSessions.trans {s s' s'' : CameraState} (h : SameSessions s s')
    (h' : SameSessions s' s'') : SameSessions s s'' :=
  ⟨h'.now.trans h.now, h'.streamLock.trans h.streamLock, h'.lastUrl.trans h.lastUrl,
    h'.isStreaming.trans h.isStreaming, h'.minted.trans h.minted, h'.urls.trans h.urls,
    h'.issued.trans h.issued, h'.live.trans h.live, h'.retired.trans h.retired,
    h'.discarded.trans h.discarded⟩

theorem sameSessions_call (s : CameraState) (caller : Caller) : SameSessions s (s.call caller) :=
  ⟨rfl, rfl, rfl, rfl, rfl, rfl, rfl, rfl, rfl, rfl⟩

theorem sameSessions_asyncCreateStream (s : CameraState) :
    SameSessions s s.asyncCreateStream := by
  unfold asyncCreateStream
  split
  · split
    · exact ⟨rfl, rfl, rfl, rfl, rfl, rfl, rfl, rfl, rfl, rfl⟩
    · exact (sameSessions_call s _).trans (sameSessions_superCreateStream _ _)
  · exact (sameSessions_call s _).trans (sameSessions_superCreateStream _ _)

theorem sameSessions_streamSource (s : CameraState) (probing bare : Bool) :
    SameSessions s (s.streamSource probing bare) := by
  unfold streamSource
  split
  · exact (sameSessions_call s _).trans (sameSessions_sourceReturned _ _ _ _)
  · exact sameSessions_call s _

theorem handleCoordinatorUpdate_frame (s : CameraState) :
    ∃ isStreaming captures retired, s.handleCoordinatorUpdate =
      { s with isStreaming, captures, history := { s.history with retired } } := by
  unfold handleCoordinatorUpdate
  split
  · exact ⟨_, _, _, rfl⟩
  · exact ⟨_, _, _, rfl⟩

end CameraState

end Eisenberg.Camera
