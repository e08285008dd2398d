import Eisenberg.Framework.Transition
import Eisenberg.Mqtt.Closing

/-!
# Keepalive

The two tasks of a connected stream on one clock: `_listen_loop` awaits a message for 90 seconds at
most, `_keepalive_loop` sends a PINGREQ and sleeps for 50. Messages arrive and handlers work for as
long as they like; the event loop serves what is due within a lag. Times are in milliseconds.
-/

namespace Eisenberg.Mqtt

open Framework

def KEEPALIVE_SLEEP : Nat := 50000

def RECEIVE_TIMEOUT : Nat := 90000

/-- Where `_listen_loop` stands. -/
inductive Listener where
  | handling
  | waiting (since : Nat)
  | ended (how : LoopEnd)
  deriving DecidableEq

/-- Where `_keepalive_loop` stands. -/
inductive Pinger where
  | sleeping (wake : Nat)
  | sending (since : Nat)
  | ended
  deriving DecidableEq

structure Connection (σ : Type) where
  world : World σ
  now : Nat
  listener : Listener
  pinger : Pinger
  /-- What the socket holds for `receive`, with the time it came in. -/
  arrived : List (Nat × WSMsg) := []
  /-- How the awaited receives have ended. -/
  received : List Received := []
  /-- When a PINGREQ was sent, the last first. -/
  pings : List Nat := []
  /-- The first PINGREQ that no message has followed. -/
  unheard : Option Nat := none
  /-- How often the disconnect callback was run. -/
  drops : Nat := 0
  /-- `disconnect` was called. -/
  disconnected : Bool := false

/-- `self._running and self._ws and not self._ws.closed`. -/
def World.live {σ : Type} (w : World σ) : Bool := w.stream.running && !w.stream.wsClosed

inductive KeepaliveAct where
  | pass (time : Nat)
  | arrive (m : WSMsg)
  | receive
  | timeout
  /-- The handlers of a message are through. -/
  | handled
  /-- The sleep of `_keepalive_loop` is over. -/
  | wake
  | sent
  | sendFailed
  | disconnect

namespace Connection

variable {σ : Type} (loads : Bytes → Except Exc Json)

/-- The last lines of `_listen_loop`. -/
def leave (c : Connection σ) : Connection σ :=
  { c with
    world := (notifyDisconnect c.world).1
    listener := .ended (notifyDisconnect c.world).2
    drops := c.drops + 1 }

/-- The head of the `while`: the next receive, or the end. -/
def await (c : Connection σ) : Connection σ :=
  if c.world.live then { c with listener := .waiting c.now } else c.leave

/-- What the loop makes of a message. -/
def take (c : Connection σ) : WSMsg → Connection σ
  | .binary data =>
    match drainBuffer loads (c.world.setBuffer (c.world.stream.rxBuffer ++ data)) with
    | (world, .ok ()) => { c with world, listener := .handling }
    | (world, .error err) => { c with world, listener := .ended (.ofExc err) }
  | .closed | .error => { c with world := c.world.setClosed }.leave
  | .close => { c with world := c.world.setClosed }.await
  | .other => c.await

/-- The head of the `while` of `_keepalive_loop`. -/
def sleep (c : Connection σ) : Connection σ :=
  { c with pinger := if c.world.live then .sleeping (c.now + KEEPALIVE_SLEEP) else .ended }

/-- The rest of the body: a PINGREQ, if the socket is open. -/
def ping (c : Connection σ) : Connection σ :=
  if c.world.stream.wsClosed then c.sleep
  else { c with
    pinger := .sending c.now
    pings := c.now :: c.pings
    unheard := some (c.unheard.getD c.now) }

def disconnect (c : Connection σ) : Connection σ :=
  { c with
    world := { c.world with stream := { c.world.stream with running := false, wsClosed := true } }
    listener := match c.listener with
      | .ended how => .ended how
      | _ => .ended .cancelled
    pinger := .ended
    disconnected := true }

/-- The two tasks of a stream that `connect` has just subscribed. -/
def start (w : World σ) (now : Nat) : Connection σ where
  world := (drainBuffer loads w).1
  now := now
  listener := match (drainBuffer loads w).2 with
    | .ok () => .handling
    | .error err => .ended (.ofExc err)
  pinger := .sleeping (now + KEEPALIVE_SLEEP)

/-- What is due is served within the lag. -/
def InTime (lag : Nat) (c : Connection σ) (time : Nat) : Prop :=
  (match c.pinger with
    | .sleeping wake => time ≤ wake + lag
    | _ => True) ∧
  match c.listener, c.arrived with
  | .waiting since, [] => time ≤ since + RECEIVE_TIMEOUT + lag
  | .waiting since, (at_, _) :: _ => time ≤ max since at_ + lag
  | _, _ => True

instance (lag : Nat) (c : Connection σ) (time : Nat) : Decidable (c.InTime lag time) := by
  unfold InTime
  cases c.pinger <;> cases c.listener <;> cases c.arrived <;> infer_instance

def step (lag : Nat) (c : Connection σ) : KeepaliveAct → Option (Connection σ)
  | .pass time => if c.now ≤ time ∧ c.InTime lag time then some { c with now := time } else none
  | .arrive m => some { c with arrived := c.arrived ++ [(c.now, m)], unheard := none }
  | .receive =>
    match c.listener, c.arrived with
    | .waiting _, (_, m) :: rest =>
      some ({ c with arrived := rest, received := c.received ++ [Received.msg m] }.take loads m)
    | _, _ => none
  | .timeout =>
    match c.listener with
    | .waiting since =>
      if since + RECEIVE_TIMEOUT ≤ c.now then
        some { c with received := c.received ++ [Received.timeout] }.leave
      else none
    | _ => none
  | .handled => if c.listener = .handling then some c.await else none
  | .wake =>
    match c.pinger with
    | .sleeping wake => if wake ≤ c.now then some c.ping else none
    | _ => none
  | .sent =>
    match c.pinger with
    | .sending _ => some c.sleep
    | _ => none
  | .sendFailed =>
    match c.pinger with
    | .sending _ => some { c with pinger := .ended }
    | _ => none
  | .disconnect => some c.disconnect

def machine (lag : Nat) : Machine (Connection σ) KeepaliveAct where
  step := step loads lag

/-! ## What a step can do -/

section Inversion

variable {loads} {lag : Nat} {c c' : Connection σ}

theorem step_pass {time : Nat} (h : step loads lag c (.pass time) = some c') :
    c.now ≤ time ∧ c.InTime lag time ∧ c' = { c with now := time } := by
  simp only [step] at h
  split at h
  next hin =>
    cases h
    exact ⟨hin.1, hin.2, rfl⟩
  next => cases h

theorem step_receive (h : step loads lag c .receive = some c') :
    ∃ since at_ m rest, c.listener = .waiting since ∧ c.arrived = (at_, m) :: rest ∧
      c' = { c with arrived := rest, received := c.received ++ [Received.msg m] }.take loads m := by
  simp only [step] at h
  split at h
  next since at_ m rest hlistener harrived =>
    cases h
    exact ⟨since, at_, m, rest, hlistener, harrived, rfl⟩
  next => cases h

theorem step_timeout (h : step loads lag c .timeout = some c') :
    ∃ since, c.listener = .waiting since ∧ since + RECEIVE_TIMEOUT ≤ c.now ∧
      c' = { c with received := c.received ++ [Received.timeout] }.leave := by
  simp only [step] at h
  split at h
  next since hlistener =>
    split at h
    next hdue =>
      cases h
      exact ⟨since, hlistener, hdue, rfl⟩
    next => cases h
  next => cases h

theorem step_handled (h : step loads lag c .handled = some c') :
    c.listener = .handling ∧ c' = c.await := by
  simp only [step] at h
  split at h
  next hlistener =>
    cases h
    exact ⟨hlistener, rfl⟩
  next => cases h

theorem step_wake (h : step loads lag c .wake = some c') :
    ∃ wake, c.pinger = .sleeping wake ∧ wake ≤ c.now ∧ c' = c.ping := by
  simp only [step] at h
  split at h
  next wake hpinger =>
    split at h
    next hdue =>
      cases h
      exact ⟨wake, hpinger, hdue, rfl⟩
    next => cases h
  next => cases h

theorem step_sent (h : step loads lag c .sent = some c') :
    ∃ since, c.pinger = .sending since ∧ c' = c.sleep := by
  simp only [step] at h
  split at h
  next since hpinger =>
    cases h
    exact ⟨since, hpinger, rfl⟩
  next => cases h

theorem step_sendFailed (h : step loads lag c .sendFailed = some c') :
    ∃ since, c.pinger = .sending since ∧ c' = { c with pinger := .ended } := by
  simp only [step] at h
  split at h
  next since hpinger =>
    cases h
    exact ⟨since, hpinger, rfl⟩
  next => cases h

end Inversion

/-! ## What the pieces leave alone -/

section Frames

variable {loads}

@[simp] theorem await_disconnected (c : Connection σ) : c.await.disconnected = c.disconnected := by
  unfold await
  split <;> rfl

@[simp] theorem take_disconnected (c : Connection σ) (m : WSMsg) :
    (c.take loads m).disconnected = c.disconnected := by
  cases m with
  | binary data =>
    simp only [take]
    split <;> rfl
  | closed | error => rfl
  | close => exact await_disconnected { c with world := c.world.setClosed }
  | other => exact await_disconnected c

theorem live_of_await {c : Connection σ} {since : Nat}
    (h : c.await.listener = .waiting since) : c.await.world.live = true := by
  unfold await at h ⊢
  split at h
  next hlive =>
    rw [if_pos hlive]
    exact hlive
  next => cases h

theorem live_of_take {c : Connection σ} {m : WSMsg} {since : Nat}
    (h : (c.take loads m).listener = .waiting since) : (c.take loads m).world.live = true := by
  cases m with
  | binary data =>
    simp only [take] at h
    split at h <;> cases h
  | closed | error => cases h
  | close => exact live_of_await h
  | other => exact live_of_await h

/-- The keepalive loop leaves the listen loop alone. -/
structure SameListener (c c' : Connection σ) : Prop where
  world : c'.world = c.world
  listener : c'.listener = c.listener
  received : c'.received = c.received
  drops : c'.drops = c.drops
  disconnected : c'.disconnected = c.disconnected

theorem sameListener_ping (c : Connection σ) : SameListener c c.ping := by
  unfold ping
  split <;> exact ⟨rfl, rfl, rfl, rfl, rfl⟩

end Frames

/-! ## The loop is the listen loop -/

section Listen

variable {loads} {w₀ : World σ} {c c' : Connection σ}

/-- What has been received so far takes the listen loop to where the connection stands. -/
structure Reaches (loads : Bytes → Except Exc Json) (w₀ : World σ) (received : List Received)
    (w : World σ) : Prop where
  drained : (drainBuffer loads w₀).2 = .ok ()
  loop : ∀ more, receiveLoop loads (drainBuffer loads w₀).1 (received ++ more) =
    receiveLoop loads w more

/-- The connection is at the end of the listen loop, or on the way. -/
def Follows (loads : Bytes → Except Exc Json) (w₀ : World σ) (c : Connection σ) : Prop :=
  match c.listener with
  | .ended how => listenLoop loads w₀ c.received = (c.world, how)
  | _ => Reaches loads w₀ c.received c.world

theorem listenLoop_of_returned (hdrained : (drainBuffer loads w₀).2 = .ok ())
    {received : List Received} {w : World σ}
    (h : receiveLoop loads (drainBuffer loads w₀).1 received = (w, .returned)) :
    listenLoop loads w₀ received = notifyDisconnect w := by
  have hpair : drainBuffer loads w₀ = ((drainBuffer loads w₀).1, .ok ()) := Prod.ext rfl hdrained
  rw [listenLoop, hpair]
  dsimp only
  rw [h]

theorem listenLoop_of_raised (hdrained : (drainBuffer loads w₀).2 = .ok ())
    {received : List Received} {w : World σ} {how : LoopEnd} (hhow : how ≠ .returned)
    (h : receiveLoop loads (drainBuffer loads w₀).1 received = (w, how)) :
    listenLoop loads w₀ received = (w, how) := by
  have hpair : drainBuffer loads w₀ = ((drainBuffer loads w₀).1, .ok ()) := Prod.ext rfl hdrained
  rw [listenLoop, hpair]
  dsimp only
  rw [h]
  cases how with
  | returned => exact absurd rfl hhow
  | _ => rfl

theorem ofExc_ne_returned (err : Exc) : LoopEnd.ofExc err ≠ .returned := by
  cases err <;> simp [LoopEnd.ofExc]

theorem follows_leave (hdrained : (drainBuffer loads w₀).2 = .ok ())
    (h : receiveLoop loads (drainBuffer loads w₀).1 c.received = (c.world, .returned)) :
    Follows loads w₀ c.leave := by
  show listenLoop loads w₀ c.received = _
  rw [listenLoop_of_returned hdrained h]
  rfl

theorem Reaches.returned {received : List Received} {w : World σ}
    (h : Reaches loads w₀ received w) :
    receiveLoop loads (drainBuffer loads w₀).1 received = (w, .returned) := by
  have hnil := h.loop []
  rw [List.append_nil] at hnil
  exact hnil

theorem follows_await (h : Reaches loads w₀ c.received c.world) : Follows loads w₀ c.await := by
  unfold await
  split
  next => exact h
  next => exact follows_leave h.drained h.returned

theorem Reaches.received {received : List Received} {w w' : World σ} {m : WSMsg}
    (h : Reaches loads w₀ received w)
    (hstep : ∀ more, receiveLoop loads w (.msg m :: more) = receiveLoop loads w' more) :
    Reaches loads w₀ (received ++ [.msg m]) w' where
  drained := h.drained
  loop := by
    intro more
    rw [List.append_assoc, List.singleton_append, h.loop, hstep]

theorem follows_take {m : WSMsg} (hlive : c.world.live = true)
    (h : Reaches loads w₀ c.received c.world) (arrived : List (Nat × WSMsg)) :
    Follows loads w₀
      ({ c with arrived := arrived, received := c.received ++ [Received.msg m] }.take loads m) := by
  have hrunning : (c.world.stream.running && !c.world.stream.wsClosed) = true := hlive
  cases m with
  | binary data =>
    cases hdrain : drainBuffer loads (c.world.setBuffer (c.world.stream.rxBuffer ++ data)) with
    | mk world result =>
      cases result with
      | ok value =>
        simp only [take, hdrain]
        apply h.received
        intro more
        simp [receiveLoop, hrunning, hdrain]
      | error err =>
        simp only [take, hdrain]
        apply listenLoop_of_raised h.drained (ofExc_ne_returned err)
        rw [h.loop]
        simp [receiveLoop, hrunning, hdrain]
  | closed =>
    apply follows_leave h.drained
    show receiveLoop loads _ (c.received ++ _) = _
    rw [h.loop]
    simp [receiveLoop, hrunning]
  | error =>
    apply follows_leave h.drained
    show receiveLoop loads _ (c.received ++ _) = _
    rw [h.loop]
    simp [receiveLoop, hrunning]
  | close =>
    apply follows_await
    apply h.received
    intro more
    simp [receiveLoop, hrunning]
  | other =>
    apply follows_await
    apply h.received
    intro more
    simp [receiveLoop, hrunning]

/-- What the loop needs of a state: a receive is awaited on an open socket. -/
structure Listening (loads : Bytes → Except Exc Json) (w₀ : World σ) (c : Connection σ) : Prop where
  live : ∀ since, c.listener = .waiting since → c.world.live = true
  follows : c.disconnected = false → Follows loads w₀ c
  cut : c.disconnected = true → ∃ how, c.listener = .ended how

theorem listening_start (w : World σ) (now : Nat) : Listening loads w (start loads w now) where
  live := by
    intro since hwaiting
    simp only [start] at hwaiting
    split at hwaiting <;> cases hwaiting
  follows := by
    intro _
    cases hdrain : drainBuffer loads w with
    | mk world result =>
      cases result with
      | ok value =>
        have hstart : (start loads w now).listener = .handling := by simp [start, hdrain]
        unfold Follows
        rw [hstart]
        exact ⟨by rw [hdrain], fun more => rfl⟩
      | error err =>
        have hstart : (start loads w now).listener = .ended (.ofExc err) := by simp [start, hdrain]
        unfold Follows
        rw [hstart]
        show listenLoop loads w [] = (_, _)
        simp only [listenLoop, hdrain, start]
  cut := fun h => by cases h

theorem Listening.of_same (h : Listening loads w₀ c) (hsame : SameListener c c') :
    Listening loads w₀ c' where
  live := by
    intro since hwaiting
    rw [hsame.world]
    exact h.live since (hsame.listener ▸ hwaiting)
  follows := by
    intro hdisconnected
    have hfollows := h.follows (hsame.disconnected ▸ hdisconnected)
    unfold Follows at hfollows ⊢
    rw [hsame.listener, hsame.received, hsame.world]
    exact hfollows
  cut := by
    intro hdisconnected
    rw [hsame.listener]
    exact h.cut (hsame.disconnected ▸ hdisconnected)

/-- While a receive is awaited or a message is handled, `disconnect` has not been called. -/
theorem Listening.reaches (h : Listening loads w₀ c) (hover : ∀ how, c.listener ≠ .ended how) :
    c.disconnected = false ∧ Reaches loads w₀ c.received c.world := by
  have hconnected : c.disconnected = false := by
    cases hcut : c.disconnected with
    | false => rfl
    | true =>
      obtain ⟨how, hhow⟩ := h.cut hcut
      exact absurd hhow (hover how)
  have hfollows := h.follows hconnected
  unfold Follows at hfollows
  cases hlistener : c.listener with
  | ended how => exact absurd hlistener (hover how)
  | handling =>
    rw [hlistener] at hfollows
    exact ⟨hconnected, hfollows⟩
  | waiting since =>
    rw [hlistener] at hfollows
    exact ⟨hconnected, hfollows⟩

theorem Listening.step (h : Listening loads w₀ c) {lag : Nat} {act : KeepaliveAct}
    (hstep : Connection.step loads lag c act = some c') : Listening loads w₀ c' := by
  cases act with
  | pass time =>
    obtain ⟨-, -, rfl⟩ := step_pass hstep
    exact h.of_same ⟨rfl, rfl, rfl, rfl, rfl⟩
  | arrive m =>
    cases hstep
    exact h.of_same ⟨rfl, rfl, rfl, rfl, rfl⟩
  | receive =>
    obtain ⟨since, at_, m, rest, hlistener, -, rfl⟩ := step_receive hstep
    obtain ⟨hconnected, hreaches⟩ := h.reaches (by simp [hlistener])
    constructor
    · intro since' hwaiting
      exact live_of_take hwaiting
    · intro _
      exact follows_take (h.live since hlistener) hreaches rest
    · intro hcut
      rw [take_disconnected] at hcut
      exact absurd hcut (by simp [hconnected])
  | timeout =>
    obtain ⟨since, hlistener, -, rfl⟩ := step_timeout hstep
    obtain ⟨-, hreaches⟩ := h.reaches (by simp [hlistener])
    have hrunning : (c.world.stream.running && !c.world.stream.wsClosed) = true :=
      h.live since hlistener
    constructor
    · intro since' hwaiting
      cases hwaiting
    · intro _
      apply follows_leave hreaches.drained
      show receiveLoop loads _ (c.received ++ _) = _
      rw [hreaches.loop]
      simp [receiveLoop, hrunning]
    · intro _
      exact ⟨_, rfl⟩
  | handled =>
    obtain ⟨hlistener, rfl⟩ := step_handled hstep
    obtain ⟨hconnected, hreaches⟩ := h.reaches (by simp [hlistener])
    constructor
    · intro since' hwaiting
      exact live_of_await hwaiting
    · intro _
      exact follows_await hreaches
    · intro hcut
      rw [await_disconnected] at hcut
      exact absurd hcut (by simp [hconnected])
  | wake =>
    obtain ⟨wake, -, -, rfl⟩ := step_wake hstep
    exact h.of_same (sameListener_ping c)
  | sent =>
    obtain ⟨since, -, rfl⟩ := step_sent hstep
    exact h.of_same ⟨rfl, rfl, rfl, rfl, rfl⟩
  | sendFailed =>
    obtain ⟨since, -, rfl⟩ := step_sendFailed hstep
    exact h.of_same ⟨rfl, rfl, rfl, rfl, rfl⟩
  | disconnect =>
    cases hstep
    constructor
    · intro since hwaiting
      simp only [Connection.disconnect] at hwaiting
      split at hwaiting <;> cases hwaiting
    · intro hconnected
      cases hconnected
    · intro _
      simp only [Connection.disconnect]
      split
      next how _ => exact ⟨how, rfl⟩
      next => exact ⟨.cancelled, rfl⟩

end Listen

/-! ## A stream that is over -/

section Over

variable {loads} {lag t₀ : Nat} {w₀ : World σ} {c c' : Connection σ}

/-- How the end of the listen loop, the flag and the disconnect callback go together. -/
structure Accounts (c : Connection σ) : Prop where
  open_ : (∀ how, c.listener ≠ .ended how) → c.world.stream.running = true ∧ c.drops = 0
  ended : ∀ how, c.listener = .ended how → c.disconnected = false →
    (c.world.stream.running = false ∧ c.drops = 1) ∨
      (c.world.stream.running = true ∧ c.drops = 0 ∧ how ≠ .returned)
  drops : c.drops ≤ 1
  stopped : c.disconnected = true → c.world.stream.running = false ∧ ∃ how, c.listener = .ended how

theorem accounts_start (w : World σ) (hrunning : w.stream.running = true) :
    (start loads w t₀).Accounts := by
  have hdrained : (start loads w t₀).world.stream.running = true :=
    (drainBuffer_stream w).1.trans hrunning
  refine ⟨fun _ => ⟨hdrained, rfl⟩, ?_, Nat.zero_le _, fun h => by cases h⟩
  intro how hover _
  refine Or.inr ⟨hdrained, rfl, ?_⟩
  simp only [start] at hover
  split at hover
  · cases hover
  next err _ =>
    cases hover
    exact ofExc_ne_returned err

theorem Accounts.of_same (h : c.Accounts) (hsame : SameListener c c') : c'.Accounts where
  open_ := by
    rw [hsame.listener, hsame.world, hsame.drops]
    exact h.open_
  ended := by
    rw [hsame.listener, hsame.world, hsame.drops, hsame.disconnected]
    exact h.ended
  drops := by
    rw [hsame.drops]
    exact h.drops
  stopped := by
    rw [hsame.listener, hsame.world, hsame.disconnected]
    exact h.stopped

theorem accounts_leave (hdrops : c.drops = 0) : c.leave.Accounts where
  open_ := fun hopen => absurd rfl (hopen (notifyDisconnect c.world).2)
  ended := by
    intro how _ _
    refine Or.inl ⟨?_, ?_⟩
    · show (notifyDisconnect c.world).1.stream.running = false
      rw [(notifyDisconnect_frame c.world).2]
    · show c.drops + 1 = 1
      rw [hdrops]
  drops := by
    show c.drops + 1 ≤ 1
    rw [hdrops]
  stopped := by
    intro _
    constructor
    · show (notifyDisconnect c.world).1.stream.running = false
      rw [(notifyDisconnect_frame c.world).2]
    · exact ⟨_, rfl⟩

theorem accounts_await (hconnected : c.disconnected = false)
    (hrunning : c.world.stream.running = true) (hdrops : c.drops = 0) : c.await.Accounts := by
  unfold await
  split
  next =>
    refine ⟨fun _ => ⟨hrunning, hdrops⟩, (fun how hover => by cases hover), (by simp [hdrops]), ?_⟩
    intro hcut
    exact absurd hcut (by simp [hconnected])
  next => exact accounts_leave hdrops

theorem accounts_take (hconnected : c.disconnected = false)
    (hrunning : c.world.stream.running = true) (hdrops : c.drops = 0) (m : WSMsg) :
    (c.take loads m).Accounts := by
  cases m with
  | binary data =>
    have hstream := (@drainBuffer_stream σ loads
      (c.world.setBuffer (c.world.stream.rxBuffer ++ data))).1.trans hrunning
    simp only [take]
    split
    next world hdrain =>
      rw [hdrain] at hstream
      refine ⟨fun _ => ⟨hstream, hdrops⟩, (fun how hover => by cases hover), (by simp [hdrops]), ?_⟩
      intro hcut
      exact absurd hcut (by simp [hconnected])
    next world err hdrain =>
      rw [hdrain] at hstream
      refine ⟨fun hopen => absurd rfl (hopen _), ?_, by simp [hdrops], ?_⟩
      · intro how hover _
        cases hover
        exact Or.inr ⟨hstream, hdrops, ofExc_ne_returned err⟩
      · intro hcut
        exact absurd hcut (by simp [hconnected])
  | closed | error => exact accounts_leave hdrops
  | close => exact accounts_await hconnected hrunning hdrops
  | other => exact accounts_await hconnected hrunning hdrops

theorem Accounts.connected (h : c.Accounts) (hopen : ∀ how, c.listener ≠ .ended how) :
    c.disconnected = false := by
  cases hcut : c.disconnected with
  | false => rfl
  | true =>
    obtain ⟨-, how, hhow⟩ := h.stopped hcut
    exact absurd hhow (hopen how)

theorem Accounts.step (h : c.Accounts) {act : KeepaliveAct}
    (hstep : Connection.step loads lag c act = some c') : c'.Accounts := by
  cases act with
  | pass time =>
    obtain ⟨-, -, rfl⟩ := step_pass hstep
    exact h.of_same ⟨rfl, rfl, rfl, rfl, rfl⟩
  | arrive m =>
    cases hstep
    exact h.of_same ⟨rfl, rfl, rfl, rfl, rfl⟩
  | receive =>
    obtain ⟨since, at_, m, rest, hlistener, -, rfl⟩ := step_receive hstep
    have hopen : ∀ how, c.listener ≠ .ended how := by simp [hlistener]
    obtain ⟨hrunning, hdrops⟩ := h.open_ hopen
    have hconnected := h.connected hopen
    apply accounts_take
    · exact hconnected
    · exact hrunning
    · exact hdrops
  | timeout =>
    obtain ⟨since, hlistener, -, rfl⟩ := step_timeout hstep
    apply accounts_leave
    exact (h.open_ (by simp [hlistener])).2
  | handled =>
    obtain ⟨hlistener, rfl⟩ := step_handled hstep
    have hopen : ∀ how, c.listener ≠ .ended how := by simp [hlistener]
    obtain ⟨hrunning, hdrops⟩ := h.open_ hopen
    exact accounts_await (h.connected hopen) hrunning hdrops
  | wake =>
    obtain ⟨wake, -, -, rfl⟩ := step_wake hstep
    exact h.of_same (sameListener_ping c)
  | sent =>
    obtain ⟨since, -, rfl⟩ := step_sent hstep
    exact h.of_same ⟨rfl, rfl, rfl, rfl, rfl⟩
  | sendFailed =>
    obtain ⟨since, -, rfl⟩ := step_sendFailed hstep
    exact h.of_same ⟨rfl, rfl, rfl, rfl, rfl⟩
  | disconnect =>
    cases hstep
    have hcut : ∃ how, c.disconnect.listener = .ended how := by
      simp only [Connection.disconnect]
      split
      next how _ => exact ⟨how, rfl⟩
      next => exact ⟨.cancelled, rfl⟩
    refine ⟨?_, ?_, h.drops, fun _ => ⟨rfl, hcut⟩⟩
    · intro hopen
      obtain ⟨how, hhow⟩ := hcut
      exact absurd hhow (hopen how)
    · intro how _ hconnected
      cases hconnected

/-- The PINGREQ that a sleep still leads to. -/
def pingsDue : Pinger → Nat
  | .sleeping _ => 1
  | .sending _ | .ended => 0

/-- What is left of a stream after `c`, whose listen loop is over and whose flag is down. -/
structure Aftermath (c c' : Connection σ) : Prop where
  running : c'.world.stream.running = false
  ended : ∃ how, c'.listener = .ended how
  env : c'.world.env = c.world.env
  handed : c'.world.handed = c.world.handed
  received : c'.received = c.received
  drops : c'.drops = c.drops
  pings : c'.pings.length + pingsDue c'.pinger ≤ c.pings.length + pingsDue c.pinger

theorem Aftermath.step {c₀ : Connection σ} (h : Aftermath c₀ c) {act : KeepaliveAct}
    (hstep : Connection.step loads lag c act = some c') : Aftermath c₀ c' := by
  obtain ⟨how, hover⟩ := h.ended
  have hdead : c.world.live = false := by simp [World.live, h.running]
  have hsleep : c.sleep = { c with pinger := .ended } := by simp [Connection.sleep, hdead]
  have hpings := h.pings
  cases act with
  | pass time =>
    obtain ⟨-, -, rfl⟩ := step_pass hstep
    exact { h with }
  | arrive m =>
    cases hstep
    exact { h with }
  | receive =>
    obtain ⟨since, at_, m, rest, hlistener, -, -⟩ := step_receive hstep
    rw [hover] at hlistener
    cases hlistener
  | timeout =>
    obtain ⟨since, hlistener, -, -⟩ := step_timeout hstep
    rw [hover] at hlistener
    cases hlistener
  | handled =>
    obtain ⟨hlistener, -⟩ := step_handled hstep
    rw [hover] at hlistener
    cases hlistener
  | wake =>
    obtain ⟨wake, hpinger, -, rfl⟩ := step_wake hstep
    rw [hpinger] at hpings
    simp only [pingsDue] at hpings
    unfold Connection.ping
    split
    next =>
      rw [hsleep]
      exact { h with pings := by simp only [pingsDue]; omega }
    next => exact { h with pings := by simp only [pingsDue, List.length_cons]; omega }
  | sent =>
    obtain ⟨since, hpinger, rfl⟩ := step_sent hstep
    rw [hpinger] at hpings
    rw [hsleep]
    exact { h with pings := hpings }
  | sendFailed =>
    obtain ⟨since, hpinger, rfl⟩ := step_sendFailed hstep
    rw [hpinger] at hpings
    exact { h with pings := hpings }
  | disconnect =>
    cases hstep
    refine { h with running := rfl, ended := ?_, pings := ?_ }
    · simp only [Connection.disconnect, hover]
      exact ⟨how, rfl⟩
    · show c.pings.length + 0 ≤ c₀.pings.length + pingsDue c₀.pinger
      omega

/-- Unless `disconnect` was called, a stream whose flag is down has ended as the listen loop does on
what it has received and has run the disconnect callback once. It receives nothing more, never runs
the callback again, and sends one more PINGREQ at most. -/
theorem gave_up_for_good {loads : Bytes → Except Exc Json} {lag t₀ : Nat} {w : World σ}
    {outcome : SubscribeOutcome} {acts later : List KeepaliveAct}
    (hrun : (machine loads lag).run (start loads (w.subscribed outcome) t₀) acts = some c)
    (hdown : c.world.stream.running = false)
    (hlater : (machine loads lag).run c later = some c') :
    (c.disconnected = false → c.drops = 1 ∧
      ∃ how, c.listener = .ended how ∧
        listenLoop loads (w.subscribed outcome) c.received = (c.world, how)) ∧
      c'.world.env = c.world.env ∧ c'.received = c.received ∧ c'.drops = c.drops ∧ c.drops ≤ 1 ∧
      c'.pings.length ≤ c.pings.length + 1 := by
  have haccounts : c.Accounts := (machine loads lag).run_invariant
    (fun _ _ _ h hstep => h.step hstep) (accounts_start _ rfl) hrun
  have hlistening : Listening loads (w.subscribed outcome) c := (machine loads lag).run_invariant
    (fun _ _ _ h hstep => h.step hstep) (listening_start _ t₀) hrun
  have hover : ∃ how, c.listener = .ended how := by
    by_contra hopen
    obtain ⟨hrunning, -⟩ := haccounts.open_ fun how hhow => hopen ⟨how, hhow⟩
    rw [hdown] at hrunning
    cases hrunning
  have hafter : Aftermath c c' := (machine loads lag).run_invariant
    (fun _ _ _ h hstep => h.step hstep)
    (⟨hdown, hover, rfl, rfl, rfl, rfl, Nat.le_refl _⟩ : Aftermath c c) hlater
  refine ⟨?_, hafter.env, hafter.received, hafter.drops, haccounts.drops, ?_⟩
  · intro hconnected
    obtain ⟨how, hhow⟩ := hover
    have hfollows := hlistening.follows hconnected
    unfold Follows at hfollows
    rw [hhow] at hfollows
    rcases haccounts.ended how hhow hconnected with ⟨-, hdrops⟩ | ⟨hrunning, -⟩
    · exact ⟨hdrops, how, hhow, hfollows⟩
    · rw [hdown] at hrunning
      cases hrunning
  · have hpings := hafter.pings
    have hdue : pingsDue c.pinger ≤ 1 := by cases c.pinger <;> simp [pingsDue]
    omega

/-- A stream on which nobody publishes. -/
def quiet : World Unit where
  stream :=
    { userId := "U", token := "T", xCloudIds := [], extraTopics := [], router := {},
      onDisconnect := none, running := true, wsClosed := false, rxBuffer := [],
      subscribeOutcome := none }
  env := ()
  handed := []

def noJson : Bytes → Except Exc Json := fun _ => .ok .null

/-- The broker falls silent: the receive of the start times out, with a PINGREQ unheard. -/
def silentActs : List KeepaliveAct :=
  [.handled, .pass 50000, .wake, .sent, .pass 90000, .timeout]

def silent : Connection Unit :=
  ((machine noJson 1000).run (start noJson (quiet.subscribed ⟨[]⟩) 0) silentActs).getD
    (start noJson quiet 0)

/-- The keepalive loop wakes once more before the reconnect calls `disconnect`. -/
def silentLater : Connection Unit :=
  ((machine noJson 1000).run silent [.pass 100000, .wake, .sent, .disconnect]).getD silent

theorem gave_up_for_good_silent :
    silent.drops = 1 ∧ silentLater.received = [.timeout] ∧ silentLater.drops = 1 ∧
      silentLater.pings.length ≤ 2 := by
  have hsilent : (machine noJson 1000).run (start noJson (quiet.subscribed ⟨[]⟩) 0) silentActs =
      some silent := rfl
  have hlater : (machine noJson 1000).run silent [.pass 100000, .wake, .sent, .disconnect] =
      some silentLater := rfl
  obtain ⟨honce, -, hreceived, hdrops, -, hpings⟩ := gave_up_for_good hsilent rfl hlater
  obtain ⟨hdropped, -⟩ := honce rfl
  exact ⟨hdropped, hreceived, hdrops.trans hdropped, hpings⟩

end Over

end Connection

end Eisenberg.Mqtt
