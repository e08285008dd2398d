import Eisenberg.Framework.Dict
import Eisenberg.Framework.EarlyExit
import Eisenberg.Sse.RoundTrip
import Eisenberg.Values.Exceptions
import Eisenberg.Values.Json

/-!
# One session of the event stream

`SSEEventStream._read_session`: a connection is asked for with the headers of the moment, and the
frames of its chunks are read until the server closes it, a read times out or Arlo logs it out. Of
the frames that come before a logout the objects that are no greeting are handed to `on_event`.

What `json.loads` makes of a frame and what the handler does are parameters.
-/

namespace Eisenberg.Sse

open Framework

/-- The data of a frame, read by `json.loads`. -/
abbrev Loads := Text → Except Exc Json

/-- `on_event`: it acts on an environment and may raise. -/
abbrev SSEHandler (ε : Type) := Json → ε → ε × Except Exc Unit

/-- The token among them is what Arlo answered, not checked to be a text. -/
abbrev Headers := Dict String Json

/-- What `session.get` is called with; the total timeout is `None`. -/
structure Request (δ : Type) where
  url : String
  headers : Headers
  sockRead : δ

/-- How `anext` ends the chunks: by `StopAsyncIteration`, or by another exception. -/
inductive StreamEnd where
  | exhausted
  | raised (err : Exc)
  deriving DecidableEq

structure Response where
  status : Nat
  chunks : List (List UInt8)
  ending : StreamEnd

/-- What an attempt to connect meets: the answer of `headers_factory()`, and of the request. -/
structure Attempt (δ : Type) where
  headers : Except Exc Headers
  get : Request δ → Except Exc Response

structure SSEEventStream (δ : Type) where
  url : String
  backoff : List δ
  nonempty : backoff ≠ []
  readTimeout : δ

/-- `isinstance(err, TimeoutError)`. -/
def isTimeoutError : Exc → Bool
  | .builtin .timeoutError _ => true
  | _ => false

/-- `isinstance(err, json.JSONDecodeError)`. -/
def isJSONDecodeError : Exc → Bool
  | .builtin .jsonDecodeError _ => true
  | _ => false

/-! ## The frames -/

/-- `frame.get(key) == value` for a text. -/
def fieldIs (key value : String) (frame : Json) : Bool :=
  decide ((frame.get? key).bind Json.str? = some value)

def isConnected (frame : Json) : Bool := fieldIs "status" "connected" frame

/-- The second test is only made of frames that are no greeting. -/
def isLogout (frame : Json) : Bool := !isConnected frame && fieldIs "action" "logout" frame

/-- The variables of the loops, and what the handler was called with. -/
structure Reading (ε : Type) where
  env : ε
  passed : List Json
  delivered : Bool

variable {ε δ : Type} (loads : Loads) (onEvent : SSEHandler ε)

/-- `await self._on_event(frame)`, with what it raises logged. -/
def passFrame (frame : Json) (s : Reading ε) : Reading ε × Option (Except Exc Bool) :=
  let s' : Reading ε :=
    { s with env := (onEvent frame s.env).1, passed := s.passed ++ [frame] }
  match (onEvent frame s.env).2 with
  | .ok _ => (s', none)
  | .error err => if err.isException then (s', none) else (s', some (.error err))

/-- The body of the loop over the frames; a result is one the function is left with. -/
def readFrame (s : Reading ε) (data : Text) : Reading ε × Option (Except Exc Bool) :=
  let s := { s with delivered := true }
  match loads data with
  | .error err => if isJSONDecodeError err then (s, none) else (s, some (.error err))
  | .ok frame =>
    if frame.isObj = false then (s, none)
    else if isConnected frame then (s, none)
    else if fieldIs "action" "logout" frame then (s, some (.ok true))
    else passFrame onEvent frame s

/-- Where the chunks end, the function returns or raises. -/
def StreamEnd.result (delivered : Bool) : StreamEnd → Except Exc Bool
  | exhausted => .ok delivered
  | raised err => if isTimeoutError err then .ok true else .error err

/-- The loop over the chunks of a response. -/
def readChunks (resp : Response) (s : Reading ε) : Reading ε × Except Exc Bool :=
  match feedUntil (SSEParser.feed utf8Decoder) (readFrame loads onEvent)
      (SSEParser.init utf8Decoder) s resp.chunks with
  | (s', some result) => (s', result)
  | (s', none) => (s', resp.ending.result s'.delivered)

/-! ## The session -/

/-- What the stream does towards the outside. -/
inductive StreamCall (δ : Type) where
  | headersFactory
  | get (request : Request δ)
  | release
  | sleep (delay : δ)

structure StreamState (ε δ : Type) where
  env : ε
  passed : List Json
  calls : List (StreamCall δ)

def StreamState.called (call : StreamCall δ) (s : StreamState ε δ) : StreamState ε δ :=
  { s with calls := s.calls ++ [call] }

namespace SSEEventStream

variable (stream : SSEEventStream δ)

def create (url : String) (backoff : List δ) (readTimeout : δ) :
    Except Exc (SSEEventStream δ) :=
  if h : backoff = [] then .error (.builtin .valueError "backoff must not be empty")
  else .ok ⟨url, backoff, h, readTimeout⟩

def request (headers : Headers) : Request δ where
  url := stream.url
  headers := (headers.set "Accept" (.str "text/event-stream")).set "Cache-Control" (.str "no-cache")
  sockRead := stream.readTimeout

/-- Read one connection until it ends. True if it carried any frame. -/
def readSession (attempt : Attempt δ) (s : StreamState ε δ) :
    StreamState ε δ × Except Exc Bool :=
  let s := s.called .headersFactory
  match attempt.headers with
  | .error err => (s, .error err)
  | .ok headers =>
    let s := s.called (.get (stream.request headers))
    match attempt.get (stream.request headers) with
    | .error err => (s, .error err)
    | .ok resp =>
      if resp.status ≠ 200 then
        (s.called .release,
          .error (.builtin .connectionError ("HTTP " ++ toString resp.status)))
      else
        let (reading, result) := readChunks loads onEvent resp ⟨s.env, s.passed, false⟩
        ({ s with env := reading.env, passed := reading.passed }.called .release, result)

end SSEEventStream

/-! ## What a frame does -/

section Frames

variable {loads} {onEvent}

/-- The frame of the data, where it is an object. -/
def objectFrame (loads : Loads) (data : Text) : Option Json :=
  match loads data with
  | .ok frame => if frame.isObj then some frame else none
  | .error _ => none

/-- What the data leaves the session with. -/
def stop? (loads : Loads) (data : Text) : Option (Except Exc Bool) :=
  match loads data with
  | .ok _ => if (objectFrame loads data).any isLogout then some (.ok true) else none
  | .error err => if isJSONDecodeError err then none else some (.error err)

/-- The frame the data hands to the handler. -/
def live? (loads : Loads) (data : Text) : Option Json :=
  (objectFrame loads data).filter fun frame => !isConnected frame && !isLogout frame

/-- The handler raises ordinary exceptions only. -/
def OrdinaryHandler (onEvent : SSEHandler ε) : Prop :=
  ∀ frame env err, (onEvent frame env).2 = .error err → err.isException

theorem stop?_object {data : Text} {frame : Json} (h : objectFrame loads data = some frame) :
    stop? loads data = if isLogout frame then some (.ok true) else none := by
  unfold stop?
  cases hloads : loads data with
  | error err => simp [objectFrame, hloads] at h
  | ok value => simp [h]

theorem live?_of_stop {data : Text} (h : (stop? loads data).isSome) : live? loads data = none := by
  cases hobj : objectFrame loads data with
  | none => simp [live?, hobj]
  | some frame =>
    rw [stop?_object hobj] at h
    cases hout : isLogout frame with
    | true => simp [live?, hobj, hout]
    | false => simp [hout] at h

theorem passFrame_ordinary (h : OrdinaryHandler onEvent) (frame : Json) (s : Reading ε) :
    passFrame onEvent frame s =
      ({ s with env := (onEvent frame s.env).1, passed := s.passed ++ [frame] }, none) := by
  unfold passFrame
  cases hresult : (onEvent frame s.env).2 with
  | ok value => rfl
  | error err => simp [h frame s.env err hresult]

/-- One frame: what is handed on, and whether the session goes on, do not depend on the handler. -/
theorem readFrame_eq (h : OrdinaryHandler onEvent) (s : Reading ε) (data : Text) :
    ∃ env, readFrame loads onEvent s data =
      (⟨env, s.passed ++ (live? loads data).toList, true⟩, stop? loads data) := by
  unfold readFrame stop? live? objectFrame
  cases hloads : loads data with
  | error err => by_cases hjson : isJSONDecodeError err <;> simp [hjson]
  | ok frame =>
    cases hobj : frame.isObj with
    | false => simp [hobj]
    | true =>
      cases hconn : isConnected frame with
      | true => simp [hobj, hconn, isLogout]
      | false =>
        cases hout : fieldIs "action" "logout" frame with
        | true => simp [hobj, hconn, hout, isLogout]
        | false => simp [hobj, hconn, hout, isLogout, passFrame_ordinary h, Option.filter]

/-- The data is read up to the first that leaves the session. -/
theorem readFrames_eq (h : OrdinaryHandler onEvent) (s : Reading ε) (frames : List Text) :
    ∃ env, forUntil (readFrame loads onEvent) s frames =
      (⟨env, s.passed ++ (frames.takeWhile fun data => (stop? loads data).isNone).filterMap
          (live? loads), s.delivered || !frames.isEmpty⟩,
        frames.findSome? (stop? loads)) := by
  induction frames generalizing s with
  | nil => exact ⟨s.env, by simp⟩
  | cons data frames ih =>
    obtain ⟨env, hframe⟩ := readFrame_eq h s data
    cases hstop : stop? loads data with
    | some result =>
      rw [hstop] at hframe
      have hlive : live? loads data = none := live?_of_stop (by simp [hstop])
      refine ⟨env, ?_⟩
      rw [forUntil_cons_exit hframe]
      simp [hstop, hlive]
    | none =>
      rw [hstop] at hframe
      obtain ⟨env', hrest⟩ := ih ⟨env, s.passed ++ (live? loads data).toList, true⟩
      refine ⟨env', ?_⟩
      rw [forUntil_cons_next hframe, hrest]
      cases hlive : live? loads data <;> simp [hstop, hlive]

end Frames

/-! ## What a session delivers -/

section Delivery

variable {loads} {onEvent}

/-- The frames of the bytes of a response. -/
def Response.frames (resp : Response) : List Text :=
  (SSEParser.feed utf8Decoder (SSEParser.init utf8Decoder) resp.chunks.flatten).2

theorem readChunks_eq (h : OrdinaryHandler onEvent) (resp : Response) (s : Reading ε) :
    ∃ env, readChunks loads onEvent resp s =
      (⟨env, s.passed ++ (resp.frames.takeWhile fun data => (stop? loads data).isNone).filterMap
          (live? loads), s.delivered || !resp.frames.isEmpty⟩,
        (resp.frames.findSome? (stop? loads)).getD
          (resp.ending.result (s.delivered || !resp.frames.isEmpty))) := by
  obtain ⟨env, hframes⟩ := @readFrames_eq ε loads onEvent h s resp.frames
  refine ⟨env, ?_⟩
  have hloops : feedUntil (SSEParser.feed utf8Decoder) (readFrame loads onEvent)
      (SSEParser.init utf8Decoder) s resp.chunks =
        forUntil (readFrame loads onEvent) s resp.frames := by
    rw [feedUntil_eq, feed_chunks]
    rfl
  rw [readChunks, hloops, hframes]
  cases resp.frames.findSome? (stop? loads) <;> rfl

/-- The objects before the first that logs out, without the greetings. -/
def liveFrames (loads : Loads) (frames : List Text) : List Json :=
  ((frames.filterMap (objectFrame loads)).takeWhile fun frame => !isLogout frame).filter
    fun frame => !isConnected frame

def logsOut (loads : Loads) (frames : List Text) : Bool :=
  (frames.filterMap (objectFrame loads)).any isLogout

/-- `json.loads` gives a value, or finds no JSON. -/
def readable (loads : Loads) (data : Text) : Bool :=
  match loads data with
  | .ok _ => true
  | .error err => isJSONDecodeError err

/-- Every frame before the first that logs out is readable. -/
def ReadableToLogout (loads : Loads) (frames : List Text) : Prop :=
  ∀ data ∈ frames.takeWhile fun data => !(objectFrame loads data).any isLogout,
    readable loads data = true

theorem stop?_of_readable {data : Text} (h : readable loads data = true) :
    stop? loads data = if (objectFrame loads data).any isLogout then some (.ok true) else none := by
  unfold stop?
  unfold readable at h
  cases hloads : loads data with
  | ok frame => rfl
  | error err =>
    rw [hloads] at h
    simp [objectFrame, hloads, h]

theorem stop?_of_unreadable {data : Text} (h : ¬ readable loads data = true) :
    ∃ err, stop? loads data = some (.error err) := by
  unfold stop?
  unfold readable at h
  cases hloads : loads data with
  | ok frame => simp [hloads] at h
  | error err => simp [hloads] at h; simp [h]

theorem readable_cons {data : Text} {frames : List Text} :
    ReadableToLogout loads (data :: frames) ↔
      ((objectFrame loads data).any isLogout = false →
        readable loads data = true ∧ ReadableToLogout loads frames) := by
  unfold ReadableToLogout
  cases hout : (objectFrame loads data).any isLogout <;> simp [hout]

/-- Over readable frames the session is left at a logout only. -/
theorem read_of_readable {frames : List Text} (h : ReadableToLogout loads frames) :
    (frames.takeWhile fun data => (stop? loads data).isNone).filterMap (live? loads) =
        liveFrames loads frames ∧
      frames.findSome? (stop? loads) = if logsOut loads frames then some (.ok true) else none := by
  induction frames with
  | nil => exact ⟨rfl, rfl⟩
  | cons data frames ih =>
    rw [readable_cons] at h
    unfold liveFrames logsOut at ih ⊢
    cases hobj : objectFrame loads data with
    | none =>
      obtain ⟨hread, hrest⟩ := h (by simp [hobj])
      obtain ⟨hlive, hstop⟩ := ih hrest
      have hnext : stop? loads data = none := by
        rw [stop?_of_readable hread, hobj]
        rfl
      simp [hnext, hobj, hlive, hstop, live?]
    | some frame =>
      have hstop := stop?_object hobj
      cases hout : isLogout frame with
      | true =>
        rw [hout, if_pos rfl] at hstop
        simp [hstop, hobj, hout]
      | false =>
        rw [hout, if_neg Bool.false_ne_true] at hstop
        obtain ⟨-, hrest⟩ := h (by simp [hobj, hout])
        obtain ⟨hlive, hleft⟩ := ih hrest
        cases hconn : isConnected frame with
        | true => simp [hstop, hobj, hout, hconn, hlive, hleft, live?, Option.filter]
        | false => simp [hstop, hobj, hout, hconn, hlive, hleft, live?, Option.filter]

theorem findSome?_of_unreadable {frames : List Text} (h : ¬ ReadableToLogout loads frames) :
    ∃ err, frames.findSome? (stop? loads) = some (.error err) := by
  induction frames with
  | nil => exact absurd (fun data hdata => absurd hdata List.not_mem_nil) h
  | cons data frames ih =>
    rw [readable_cons, Classical.not_imp, not_and_or] at h
    obtain ⟨hout, hread | hrest⟩ := h
    · obtain ⟨err, hstop⟩ := stop?_of_unreadable hread
      exact ⟨err, by rw [List.findSome?_cons, hstop]⟩
    · by_cases hread : readable loads data = true
      · have hnext : stop? loads data = none := by
          rw [stop?_of_readable hread, hout]
          rfl
        obtain ⟨err, hstop⟩ := ih hrest
        exact ⟨err, by rw [List.findSome?_cons, hnext, hstop]⟩
      · obtain ⟨err, hstop⟩ := stop?_of_unreadable hread
        exact ⟨err, by rw [List.findSome?_cons, hstop]⟩

variable {stream : SSEEventStream δ} {attempt : Attempt δ} {headers : Headers} {resp : Response}

theorem readSession_eq (h : OrdinaryHandler onEvent) (hheaders : attempt.headers = .ok headers)
    (hget : attempt.get (stream.request headers) = .ok resp) (hstatus : resp.status = 200)
    (s : StreamState ε δ) :
    ∃ env, stream.readSession loads onEvent attempt s =
      (⟨env, s.passed ++ (resp.frames.takeWhile fun data => (stop? loads data).isNone).filterMap
          (live? loads), s.calls ++ [.headersFactory, .get (stream.request headers), .release]⟩,
        (resp.frames.findSome? (stop? loads)).getD (resp.ending.result !resp.frames.isEmpty)) := by
  obtain ⟨env, hread⟩ := @readChunks_eq ε loads onEvent h resp ⟨s.env, s.passed, false⟩
  refine ⟨env, ?_⟩
  simp [SSEEventStream.readSession, hheaders, hget, hstatus, hread, StreamState.called]

/-- The chunks end by themselves or in a read timeout. -/
def StreamEnd.Quiet (ending : StreamEnd) : Prop :=
  ∀ err, ending = raised err → isTimeoutError err = true

/-- What the session returns over these frames. -/
def sessionResult (loads : Loads) (resp : Response) : Except Exc Bool :=
  if logsOut loads resp.frames then .ok true else resp.ending.result !resp.frames.isEmpty

/-- The handler gets the live frames, once and in order. -/
structure DeliversLive (loads : Loads) (resp : Response) (s : StreamState ε δ)
    (after : StreamState ε δ × Except Exc Bool) : Prop where
  passed : after.1.passed = s.passed ++ liveFrames loads resp.frames
  result : after.2 = sessionResult loads resp

theorem quiet_result {ending : StreamEnd} (h : ending.Quiet) (delivered : Bool) :
    ∃ value, ending.result delivered = .ok value := by
  cases ending with
  | exhausted => exact ⟨delivered, rfl⟩
  | raised err => exact ⟨true, by rw [StreamEnd.result, if_pos (h err rfl)]⟩

section Session

variable (h : OrdinaryHandler onEvent) (hheaders : attempt.headers = .ok headers)
  (hget : attempt.get (stream.request headers) = .ok resp) (hstatus : resp.status = 200)
include h hheaders hget hstatus

theorem delivers_of_readable (hread : ReadableToLogout loads resp.frames) (s : StreamState ε δ) :
    DeliversLive loads resp s (stream.readSession loads onEvent attempt s) := by
  obtain ⟨env, hsession⟩ := @readSession_eq ε δ loads onEvent stream attempt headers resp h hheaders
    hget hstatus s
  obtain ⟨hlive, hstop⟩ := read_of_readable hread
  rw [hsession]
  refine ⟨by rw [hlive], ?_⟩
  rw [hstop, sessionResult]
  cases logsOut loads resp.frames <;> rfl

theorem readable_of_delivers (hending : resp.ending.Quiet) {s : StreamState ε δ}
    (hdelivers : DeliversLive loads resp s (stream.readSession loads onEvent attempt s)) :
    ReadableToLogout loads resp.frames := by
  obtain ⟨env, hsession⟩ := @readSession_eq ε δ loads onEvent stream attempt headers resp h hheaders
    hget hstatus s
  by_contra hread
  obtain ⟨err, hstop⟩ := findSome?_of_unreadable hread
  obtain ⟨value, hvalue⟩ := quiet_result hending !resp.frames.isEmpty
  have hresult := hdelivers.result
  rw [hsession, hstop, sessionResult, hvalue] at hresult
  split at hresult <;> cases hresult

/-- A session delivers its live frames exactly when it can read every frame up to the logout. -/
theorem readSession_delivers_iff (hending : resp.ending.Quiet) (s : StreamState ε δ) :
    DeliversLive loads resp s (stream.readSession loads onEvent attempt s) ↔
      ReadableToLogout loads resp.frames := by
  constructor
  · intro hdelivers
    exact readable_of_delivers h hheaders hget hstatus hending hdelivers
  · intro hread
    exact delivers_of_readable h hheaders hget hstatus hread s

end Session

end Delivery

section Sample

/-- The bytes of events with one data line each. -/
def eventBytes (frames : List Text) : List UInt8 :=
  (String.ofList ((frames.map fun data => Frame.mk [(.data data, .lf)] .lf).flatMap
    Frame.text)).toUTF8.data.toList

theorem frames_of_bytes {resp : Response} {frames : List Text}
    (hbytes : resp.chunks.flatten = eventBytes frames)
    (hlines : ∀ data ∈ frames, '\n' ∉ data ∧ '\r' ∉ data) : resp.frames = frames := by
  have hencodes : List.Forall₂ Frame.Encodes
      (frames.map fun data => Frame.mk [(.data data, .lf)] .lf) frames := by
    clear hbytes
    induction frames with
    | nil => exact .nil
    | cons data frames ih =>
      refine .cons ⟨?_, ?_⟩ (ih fun other hother => hlines other (List.mem_cons_of_mem _ hother))
      · rw [List.splitOn_eq_singleton (hlines data List.mem_cons_self).1]
        rfl
      · simp [Line.data?]
  have hevents := events_of_encoding hencodes (fun data hdata => (hlines data hdata).2) hbytes
  rw [feed_chunks] at hevents
  exact congrArg Prod.snd hevents

def connectedText : Text := "\x7b\"status\":\"connected\"\x7d".toList

def motionText : Text := "\x7b\"resource\":\"cameras/D\",\"action\":\"is\"\x7d".toList

def logoutText : Text := "\x7b\"action\":\"logout\"\x7d".toList

def brokenText : Text := "\x7b\"action\"".toList

/-- An object with an integer of more digits than `json.loads` converts. -/
def bigText : Text := "\x7b\"n\":".toList ++ List.replicate 4301 '9' ++ "\x7d".toList

def motion : Json := .obj [("resource", .str "cameras/D"), ("action", .str "is")]

/-- `json.loads` on these texts. -/
def sampleLoads : Loads := fun data =>
  if data = connectedText then .ok (.obj [("status", .str "connected")])
  else if data = motionText then .ok motion
  else if data = logoutText then .ok (.obj [("action", .str "logout")])
  else if data = bigText then
    .error (.builtin .valueError "Exceeds the limit (4300 digits) for integer string conversion")
  else .error (.builtin .jsonDecodeError "Expecting ':' delimiter: line 1 column 10 (char 9)")

/-- A handler that raises on every frame. -/
def failingHandler : SSEHandler Nat := fun _ n => (n + 1, .error (.builtin .keyError "'from'"))

def sampleStream : SSEEventStream Nat := ⟨"u", [5, 10], by decide, 300⟩

def sampleResponse (frames : List Text) (cut : Nat) : Response where
  status := 200
  chunks := [(eventBytes frames).take cut, (eventBytes frames).drop cut]
  ending := .exhausted

def sampleAttempt (frames : List Text) (cut : Nat) : Attempt Nat where
  headers := .ok Dict.empty
  get _ := .ok (sampleResponse frames cut)

theorem sampleResponse_frames {frames : List Text}
    (hlines : ∀ data ∈ frames, '\n' ∉ data ∧ '\r' ∉ data) (cut : Nat) :
    (sampleResponse frames cut).frames = frames := by
  apply frames_of_bytes _ hlines
  simp [sampleResponse]

theorem failingHandler_ordinary : OrdinaryHandler failingHandler := by
  intro frame n err herr
  cases herr
  rfl

/-- A greeting, a motion, no JSON, a logout and another motion, in two chunks. -/
theorem deliversLive_sample :
    DeliversLive sampleLoads
      (sampleResponse [connectedText, motionText, brokenText, logoutText, motionText] 50)
      (⟨0, [], []⟩ : StreamState Nat Nat)
      (sampleStream.readSession sampleLoads failingHandler
        (sampleAttempt [connectedText, motionText, brokenText, logoutText, motionText] 50)
        ⟨0, [], []⟩) := by
  refine (@readSession_delivers_iff Nat Nat sampleLoads failingHandler sampleStream
    (sampleAttempt [connectedText, motionText, brokenText, logoutText, motionText] 50) Dict.empty _
    failingHandler_ordinary rfl rfl rfl (by rintro err ⟨⟩) ⟨0, [], []⟩).mpr ?_
  rw [sampleResponse_frames (by decide)]
  unfold ReadableToLogout
  decide

theorem sampleLoads_bigText : sampleLoads bigText =
    .error (.builtin .valueError "Exceeds the limit (4300 digits) for integer string conversion") := by
  have hconnected : bigText ≠ connectedText := by decide
  have hmotion : bigText ≠ motionText := by decide
  have hlogout : bigText ≠ logoutText := by decide
  rw [sampleLoads, if_neg hconnected, if_neg hmotion, if_neg hlogout, if_pos rfl]

theorem bigText_line : '\n' ∉ bigText ∧ '\r' ∉ bigText := by
  unfold bigText
  simp only [List.mem_append, List.mem_replicate, not_or]
  decide

theorem bigText_unreadable : ¬ ReadableToLogout sampleLoads [bigText, motionText] := by
  intro hread
  have hgoes : (objectFrame sampleLoads bigText).any isLogout = false := by
    rw [objectFrame, sampleLoads_bigText]
    rfl
  have hmem : bigText ∈ [bigText, motionText].takeWhile fun data =>
      !(objectFrame sampleLoads data).any isLogout := by
    rw [List.takeWhile_cons, hgoes]
    exact List.mem_cons_self
  have hbig := hread bigText hmem
  rw [readable, sampleLoads_bigText] at hbig
  cases hbig

/-- The integer ends the session, and the motion behind it is lost. -/
theorem bigText_not_deliversLive :
    ¬ DeliversLive sampleLoads (sampleResponse [bigText, motionText] 0)
      (⟨0, [], []⟩ : StreamState Nat Nat)
      (sampleStream.readSession sampleLoads failingHandler
        (sampleAttempt [bigText, motionText] 0) ⟨0, [], []⟩) := by
  intro hdelivers
  have hlines : ∀ data ∈ [bigText, motionText], '\n' ∉ data ∧ '\r' ∉ data := by
    intro data hdata
    rcases List.mem_cons.mp hdata with rfl | hdata
    · exact bigText_line
    · rw [List.mem_singleton.mp hdata]
      decide
  have hread := @readable_of_delivers Nat Nat sampleLoads failingHandler sampleStream
    (sampleAttempt [bigText, motionText] 0) Dict.empty _ failingHandler_ordinary rfl rfl rfl
    (by rintro err ⟨⟩) _ hdelivers
  rw [sampleResponse_frames hlines] at hread
  exact bigText_unreadable hread

end Sample

end Eisenberg.Sse
