import Eisenberg.Client.Http
import Eisenberg.Sse.Session

/-!
# The reconnect loop of the event stream

`SSEEventStream._run` over an infinite sequence of attempts: it never ends, each attempt builds its
headers anew, and the pauses follow the backoff. A session that the server closes after frames, that
idles out or that is logged out is followed by the next attempt at once.
-/

namespace Eisenberg.Sse

open Framework

variable {ε δ : Type} (stream : SSEEventStream δ) (loads : Loads) (onEvent : SSEHandler ε)

/-! ## The loop -/

structure LoopState (ε δ : Type) where
  stream : StreamState ε δ
  failures : Nat

/-- `xs[i]` for an index from 0. -/
def pyGet {α : Type} (xs : List α) (i : Nat) : Except Exc α :=
  match xs[i]? with
  | some x => .ok x
  | none => .error (.builtin .indexError "tuple index out of range")

namespace SSEEventStream

/-- The loop after a session: `delivered`, and the sleep of a session that was not healthy. -/
def afterSession (delivered : Bool) (s : LoopState ε δ) : Except Exc (LoopState ε δ) :=
  if delivered then .ok { s with failures := 0 }
  else do
    let delay ← pyGet stream.backoff (min s.failures (stream.backoff.length - 1))
    return { stream := s.stream.called (.sleep delay), failures := s.failures + 1 }

/-- One round of the loop. -/
def round (attempt : Attempt δ) (s : LoopState ε δ) : Except Exc (LoopState ε δ) :=
  let (after, result) := stream.readSession loads onEvent attempt s.stream
  match result with
  | .ok delivered => stream.afterSession delivered { s with stream := after }
  | .error err =>
    if err.isException then stream.afterSession false { s with stream := after }
    else .error err

/-- `_run` for `n` rounds. -/
def run (attempts : Nat → Attempt δ) (env : ε) : Nat → Except Exc (LoopState ε δ)
  | 0 => .ok ⟨⟨env, [], []⟩, 0⟩
  | n + 1 => do
    let s ← run attempts env n
    stream.round loads onEvent (attempts n) s

end SSEEventStream

/-! ## How a session ends -/

inductive Outcome where
  /-- An exception, also after frames. -/
  | failed
  /-- The server closed it without a frame. -/
  | empty
  /-- The server closed it after frames. -/
  | served
  | idle
  | loggedOut
  deriving DecidableEq

def Outcome.healthy : Outcome → Bool
  | failed | empty => false
  | served | idle | loggedOut => true

def StreamEnd.outcome (delivered : Bool) : StreamEnd → Outcome
  | exhausted => if delivered then .served else .empty
  | raised err => if isTimeoutError err then .idle else .failed

def Response.outcome (resp : Response) : Outcome :=
  match resp.frames.findSome? (stop? loads) with
  | some (.ok _) => .loggedOut
  | some (.error _) => .failed
  | none => resp.ending.outcome !resp.frames.isEmpty

namespace SSEEventStream

def outcome (attempt : Attempt δ) : Outcome :=
  match attempt.headers with
  | .error _ => .failed
  | .ok headers =>
    match attempt.get (stream.request headers) with
    | .error _ => .failed
    | .ok resp => if resp.status ≠ 200 then .failed else resp.outcome loads

/-- What an attempt does towards the outside. -/
def attemptCalls (attempt : Attempt δ) : List (StreamCall δ) :=
  .headersFactory ::
    match attempt.headers with
    | .error _ => []
    | .ok headers =>
      .get (stream.request headers) ::
        match attempt.get (stream.request headers) with
        | .error _ => []
        | .ok _ => [.release]

/-- How many sessions in a row before the `n`-th one were not healthy. -/
def streak (attempts : Nat → Attempt δ) (n : Nat) : Nat :=
  ((List.range n).reverse.takeWhile fun j =>
    !(stream.outcome loads (attempts j)).healthy).length

/-- The delay after the `k`-th session in a row that was not healthy, with `k` from 1. -/
def delay (k : Nat) : δ :=
  stream.backoff.get ⟨min k stream.backoff.length - 1, by
    have := List.length_pos_iff.mpr stream.nonempty
    omega⟩

/-- The `i`-th attempt, and the delay before the next. -/
def scheduled (attempts : Nat → Attempt δ) (i : Nat) : List (StreamCall δ) :=
  stream.attemptCalls (attempts i) ++
    if (stream.outcome loads (attempts i)).healthy then []
    else [.sleep (stream.delay (stream.streak loads attempts (i + 1)))]

end SSEEventStream

/-! ## One round -/

section Round

variable {stream} {loads} {onEvent}

/-- What the attempt meets raises ordinary exceptions only. -/
structure OrdinaryAttempt (stream : SSEEventStream δ) (attempt : Attempt δ) : Prop where
  headers : ∀ err, attempt.headers = .error err → err.isException
  get : ∀ headers err, attempt.get (stream.request headers) = .error err → err.isException
  read : ∀ headers resp err, attempt.get (stream.request headers) = .ok resp →
    resp.ending = .raised err → err.isException

def OrdinaryLoads (loads : Loads) : Prop :=
  ∀ data err, loads data = .error err → err.isException

/-- What a session with this outcome gives the loop. -/
def Outcome.Gives (outcome : Outcome) (result : Except Exc Bool) : Prop :=
  result = .ok outcome.healthy ∨
    outcome.healthy = false ∧ ∃ err, result = .error err ∧ err.isException

/-- A frame leaves the session by a logout, or by what `json.loads` raises on it. -/
theorem stop?_eq_some {data : Text} {result : Except Exc Bool}
    (h : stop? loads data = some result) :
    result = .ok true ∨ ∃ err, result = .error err ∧ loads data = .error err := by
  unfold stop? at h
  cases hloads : loads data with
  | ok frame =>
    simp only [hloads] at h
    split_ifs at h
    left
    exact (Option.some.inj h).symm
  | error err =>
    simp only [hloads] at h
    split_ifs at h
    right
    exact ⟨err, (Option.some.inj h).symm, rfl⟩

theorem gives_ending {ending : StreamEnd}
    (h : ∀ err, ending = .raised err → err.isException) (delivered : Bool) :
    (ending.outcome delivered).Gives (ending.result delivered) := by
  cases ending with
  | exhausted => cases delivered <;> exact Or.inl rfl
  | raised err =>
    by_cases htimeout : isTimeoutError err = true
    · left
      rw [StreamEnd.outcome, StreamEnd.result, if_pos htimeout, if_pos htimeout]
      rfl
    · right
      rw [StreamEnd.outcome, StreamEnd.result, if_neg htimeout, if_neg htimeout]
      exact ⟨rfl, err, rfl, h err rfl⟩

theorem gives_response (hloads : OrdinaryLoads loads) {resp : Response}
    (hread : ∀ err, resp.ending = .raised err → err.isException) :
    (resp.outcome loads).Gives
      ((resp.frames.findSome? (stop? loads)).getD (resp.ending.result !resp.frames.isEmpty)) := by
  unfold Response.outcome
  cases hstop : resp.frames.findSome? (stop? loads) with
  | none => exact gives_ending hread _
  | some result =>
    obtain ⟨data, -, hdata⟩ := List.exists_of_findSome?_eq_some hstop
    rcases stop?_eq_some hdata with rfl | ⟨err, rfl, herr⟩
    · exact Or.inl rfl
    · exact Or.inr ⟨rfl, err, rfl, hloads data err herr⟩

/-- A session makes the calls of its attempt and gives the loop what its outcome says. -/
theorem readSession_spec (hhandler : OrdinaryHandler onEvent) (hloads : OrdinaryLoads loads)
    {attempt : Attempt δ} (h : OrdinaryAttempt stream attempt) (s : StreamState ε δ) :
    ∃ env passed result, stream.readSession loads onEvent attempt s =
        (⟨env, passed, s.calls ++ stream.attemptCalls attempt⟩, result) ∧
      (stream.outcome loads attempt).Gives result := by
  unfold SSEEventStream.outcome SSEEventStream.attemptCalls
  cases hheaders : attempt.headers with
  | error err =>
    refine ⟨s.env, s.passed, .error err, ?_, Or.inr ⟨rfl, err, rfl, h.headers err hheaders⟩⟩
    simp [SSEEventStream.readSession, hheaders, StreamState.called]
  | ok headers =>
    dsimp only
    cases hget : attempt.get (stream.request headers) with
    | error err =>
      refine ⟨s.env, s.passed, .error err, ?_, Or.inr ⟨rfl, err, rfl, h.get headers err hget⟩⟩
      simp [SSEEventStream.readSession, hheaders, hget, StreamState.called]
    | ok resp =>
      dsimp only
      by_cases hstatus : resp.status = 200
      · obtain ⟨env, hsession⟩ :=
          @readSession_eq ε δ loads onEvent stream attempt headers resp hhandler hheaders hget
            hstatus s
        refine ⟨env, _, _, hsession, ?_⟩
        rw [if_neg (not_not.mpr hstatus)]
        exact gives_response hloads fun err => h.read headers resp err hget
      · refine ⟨s.env, s.passed,
          .error (.builtin .connectionError ("HTTP " ++ toString resp.status)), ?_, ?_⟩
        · simp [SSEEventStream.readSession, hheaders, hget, hstatus, StreamState.called]
        · rw [if_pos hstatus]
          exact Or.inr ⟨rfl, _, rfl, rfl⟩

end Round

/-! ## The run -/

section Run

variable {stream} {loads} {onEvent}

theorem pyGet_delay (k : Nat) :
    pyGet stream.backoff (min k (stream.backoff.length - 1)) = .ok (stream.delay (k + 1)) := by
  have hpos := List.length_pos_iff.mpr stream.nonempty
  have hindex : min k (stream.backoff.length - 1) = min (k + 1) stream.backoff.length - 1 := by
    omega
  have hbound : min (k + 1) stream.backoff.length - 1 < stream.backoff.length := by omega
  rw [pyGet, hindex, List.getElem?_eq_getElem hbound]
  rfl

/-- After any session the loop goes on, with a pause only after one that was not healthy. -/
theorem round_spec (hhandler : OrdinaryHandler onEvent) (hloads : OrdinaryLoads loads)
    {attempt : Attempt δ} (h : OrdinaryAttempt stream attempt) (s : LoopState ε δ) :
    ∃ t, stream.round loads onEvent attempt s = .ok t ∧
      t.stream.calls = s.stream.calls ++ (stream.attemptCalls attempt ++
        if (stream.outcome loads attempt).healthy then []
        else [.sleep (stream.delay (s.failures + 1))]) ∧
      t.failures = if (stream.outcome loads attempt).healthy then 0 else s.failures + 1 := by
  obtain ⟨env, passed, result, hsession, hgives⟩ := readSession_spec hhandler hloads h s.stream
  unfold SSEEventStream.round
  rw [hsession]
  rcases hgives with rfl | ⟨hsick, err, rfl, hexc⟩
  · cases hhealthy : (stream.outcome loads attempt).healthy with
    | true => exact ⟨_, rfl, by simp, rfl⟩
    | false =>
      simp [SSEEventStream.afterSession, pyGet_delay, StreamState.called]
  · simp [SSEEventStream.afterSession, pyGet_delay, StreamState.called, hsick, hexc]

theorem streak_succ (attempts : Nat → Attempt δ) (n : Nat) :
    stream.streak loads attempts (n + 1) =
      if (stream.outcome loads (attempts n)).healthy then 0
      else stream.streak loads attempts n + 1 := by
  unfold SSEEventStream.streak
  rw [List.range_succ, List.reverse_append, List.reverse_singleton, List.singleton_append,
    List.takeWhile_cons]
  cases (stream.outcome loads (attempts n)).healthy <;> rfl

/-- After `n` sessions the loop has made their calls, and counts those in a row that were not
healthy. -/
theorem run_spec (hhandler : OrdinaryHandler onEvent) (hloads : OrdinaryLoads loads)
    {attempts : Nat → Attempt δ} (h : ∀ i, OrdinaryAttempt stream (attempts i)) (env : ε)
    (n : Nat) :
    ∃ s, stream.run loads onEvent attempts env n = .ok s ∧
      s.stream.calls = (List.range n).flatMap (stream.scheduled loads attempts) ∧
      s.failures = stream.streak loads attempts n := by
  induction n with
  | zero => exact ⟨_, rfl, rfl, rfl⟩
  | succ n ih =>
    obtain ⟨s, hrun, hcalls, hfailures⟩ := ih
    obtain ⟨t, hround, hcalls', hfailures'⟩ := round_spec hhandler hloads (h n) s
    have hstreak := @streak_succ δ stream loads attempts n
    refine ⟨t, ?_, ?_, ?_⟩
    · rw [SSEEventStream.run, hrun]
      exact hround
    · rw [hcalls', hcalls, List.range_succ, List.flatMap_append, List.flatMap_singleton,
        SSEEventStream.scheduled, hstreak, hfailures]
      cases (stream.outcome loads (attempts n)).healthy <;> rfl
    · rw [hfailures', hfailures, hstreak]

/-- However many sessions there were, the loop is still running: it has made their attempts, each
with headers of its own, and its only pauses were those of the backoff. -/
theorem run_schedule (hhandler : OrdinaryHandler onEvent) (hloads : OrdinaryLoads loads)
    {attempts : Nat → Attempt δ} (h : ∀ i, OrdinaryAttempt stream (attempts i)) (env : ε)
    (n : Nat) :
    ∃ s, stream.run loads onEvent attempts env n = .ok s ∧
      s.stream.calls = (List.range n).flatMap (stream.scheduled loads attempts) := by
  obtain ⟨s, hrun, hcalls, -⟩ := run_spec hhandler hloads h env n
  exact ⟨s, hrun, hcalls⟩

end Run

/-! ## The headers of the client -/

section Headers

open Client

/-- `EisenbergClient.event_stream_headers`: headers for the event stream, built from the current
token. -/
def eventStreamHeaders (client : ClientState) : Except Exc Headers :=
  if client.token.isNull then
    .error (.builtin .runtimeError "Not logged in; no token for the event stream")
  else
    .ok (Dict.ofEntries
      [("Authorization", client.token), ("Auth-Version", .str "2"), ("SchemaVersion", .str "1"),
        ("Origin", .str "https://my.arlo.com"), ("Referer", .str "https://my.arlo.com/"),
        ("User-Agent", .str "(iPhone15,2 18_1_1) iOS Arlo 5.4.3")])

theorem eventStreamHeaders_ordinary (client : ClientState) (err : Exc)
    (h : eventStreamHeaders client = .error err) : err.isException := by
  unfold eventStreamHeaders at h
  split_ifs at h
  cases h
  rfl

/-- The request carries the token the client has when it is made. -/
theorem request_authorization (stream : SSEEventStream δ) {client : ClientState} {headers : Headers}
    (h : eventStreamHeaders client = .ok headers) :
    (stream.request headers).headers.get? "Authorization" = some client.token := by
  unfold eventStreamHeaders at h
  split_ifs at h
  cases h
  rw [SSEEventStream.request, Dict.get?_set_of_ne _ (by decide), Dict.get?_set_of_ne _ (by decide)]
  rfl

end Headers

section Sample

/-- Attempts before the login, refused with a 503, and then served with one frame each. -/
def sampleAttempts (i : Nat) : Attempt Nat where
  headers := eventStreamHeaders { token := if i = 0 then .null else .str "T" }
  get _ := .ok { sampleResponse [motionText] 9 with status := if i = 1 then 503 else 200 }

theorem sampleAttempts_ordinary (i : Nat) : OrdinaryAttempt sampleStream (sampleAttempts i) where
  headers := eventStreamHeaders_ordinary _
  get := by rintro headers err ⟨⟩
  read := by
    rintro headers resp err ⟨⟩ hend
    cases hend

theorem sampleLoads_ordinary : OrdinaryLoads sampleLoads := by
  intro data err h
  unfold sampleLoads at h
  split_ifs at h <;> cases h <;> rfl

theorem run_schedule_sample :
    ∃ s, sampleStream.run sampleLoads failingHandler sampleAttempts 0 5 = .ok s ∧
      s.stream.calls = (List.range 5).flatMap (sampleStream.scheduled sampleLoads sampleAttempts) :=
  run_schedule failingHandler_ordinary sampleLoads_ordinary sampleAttempts_ordinary 0 5

end Sample

end Eisenberg.Sse
