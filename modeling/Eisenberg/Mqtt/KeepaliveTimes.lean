import Eisenberg.Mqtt.Keepalive

/-!
# The times of the keepalive

The three constants of the stream, 50 seconds between PINGREQs, 60 promised to the broker and 90 of
silence to give up after, against the lags of the event loop and the broker.
-/

namespace Eisenberg.Mqtt

open Framework

namespace Connection

variable {σ : Type}

/-! ## The promise of the CONNECT -/

section Promise

variable {loads : Bytes → Except Exc Json} {lag : Nat} {c c' : Connection σ}

/-- When the client last sent a packet, if the one before the PINGREQs was sent at `t₀`. -/
def lastSent (t₀ : Nat) (c : Connection σ) : Nat := c.pings.headD t₀

/-- The listen loop leaves the keepalive loop alone. -/
structure SamePinger (c c' : Connection σ) : Prop where
  now : c'.now = c.now
  pinger : c'.pinger = c.pinger
  pings : c'.pings = c.pings

theorem samePinger_await (c : Connection σ) : SamePinger c c.await := by
  unfold await
  split <;> exact ⟨rfl, rfl, rfl⟩

theorem samePinger_take (c : Connection σ) (m : WSMsg) : SamePinger c (c.take loads m) := by
  cases m with
  | binary data =>
    simp only [take]
    split <;> exact ⟨rfl, rfl, rfl⟩
  | closed | error => exact ⟨rfl, rfl, rfl⟩
  | close =>
    have hsame := samePinger_await { c with world := c.world.setClosed }
    exact ⟨hsame.now, hsame.pinger, hsame.pings⟩
  | other => exact samePinger_await c

/-- No PINGREQ comes within a sleep of the packet before it. -/
structure Spaced (t₀ : Nat) (c : Connection σ) : Prop where
  pings : (c.pings ++ [t₀]).Pairwise fun later earlier => earlier + KEEPALIVE_SLEEP ≤ later
  last : c.lastSent t₀ ≤ c.now
  wake : ∀ wake, c.pinger = .sleeping wake → c.lastSent t₀ + KEEPALIVE_SLEEP ≤ wake

theorem spaced_start (w : World σ) (t₀ : Nat) : (start loads w t₀).Spaced t₀ where
  pings := List.pairwise_singleton _ _
  last := Nat.le_refl _
  wake := by
    intro wake hwake
    cases hwake
    exact Nat.le_refl _

theorem Spaced.of_same {t₀ : Nat} (h : c.Spaced t₀) (hsame : SamePinger c c') : c'.Spaced t₀ where
  pings := by
    rw [hsame.pings]
    exact h.pings
  last := by
    rw [lastSent, hsame.pings, hsame.now]
    exact h.last
  wake := by
    intro wake hwake
    rw [hsame.pinger] at hwake
    rw [lastSent, hsame.pings]
    exact h.wake wake hwake

theorem Spaced.sleep {t₀ : Nat} (h : c.Spaced t₀) : c.sleep.Spaced t₀ where
  pings := h.pings
  last := h.last
  wake := by
    intro wake hwake
    have hlast := h.last
    simp only [Connection.sleep] at hwake
    split at hwake
    · cases hwake
      exact Nat.add_le_add_right hlast _
    · cases hwake

/-- A ping is later than the last packet by a sleep, and so than all before it. -/
theorem Spaced.ping {t₀ wake : Nat} (h : c.Spaced t₀) (hpinger : c.pinger = .sleeping wake)
    (hdue : wake ≤ c.now) : c.ping.Spaced t₀ := by
  unfold Connection.ping
  split
  next => exact h.sleep
  next =>
    have hwake := h.wake wake hpinger
    have hafter : c.lastSent t₀ + KEEPALIVE_SLEEP ≤ c.now := Nat.le_trans hwake hdue
    constructor
    · rw [List.cons_append, List.pairwise_cons]
      refine ⟨?_, h.pings⟩
      intro earlier hearlier
      have hbound : earlier ≤ c.lastSent t₀ := by
        cases hpings : c.pings with
        | nil =>
          rw [hpings, List.nil_append, List.mem_singleton] at hearlier
          simp [lastSent, hpings, hearlier]
        | cons first rest =>
          have hspaced := h.pings
          rw [hpings, List.cons_append, List.pairwise_cons] at hspaced
          rw [hpings, List.cons_append, List.mem_cons] at hearlier
          have hfirst : c.lastSent t₀ = first := by simp [lastSent, hpings]
          rw [hfirst]
          rcases hearlier with heq | hlater
          · exact Nat.le_of_eq heq
          · have hle := hspaced.1 earlier hlater
            omega
      show earlier + KEEPALIVE_SLEEP ≤ c.now
      omega
    · exact Nat.le_refl _
    · intro wake' hwake'
      cases hwake'

theorem Spaced.step {t₀ : Nat} (h : c.Spaced t₀) {act : KeepaliveAct}
    (hstep : Connection.step loads lag c act = some c') : c'.Spaced t₀ := by
  cases act with
  | pass time =>
    obtain ⟨hnow, -, rfl⟩ := step_pass hstep
    exact ⟨h.pings, Nat.le_trans h.last hnow, h.wake⟩
  | arrive m =>
    cases hstep
    exact h.of_same ⟨rfl, rfl, rfl⟩
  | receive =>
    obtain ⟨since, at_, m, rest, -, -, rfl⟩ := step_receive hstep
    have hcopy : Spaced t₀ { c with arrived := rest, received := c.received ++ [.msg m] } :=
      h.of_same ⟨rfl, rfl, rfl⟩
    exact hcopy.of_same (samePinger_take _ m)
  | timeout =>
    obtain ⟨since, -, -, rfl⟩ := step_timeout hstep
    exact h.of_same ⟨rfl, rfl, rfl⟩
  | handled =>
    obtain ⟨-, rfl⟩ := step_handled hstep
    exact h.of_same (samePinger_await c)
  | wake =>
    obtain ⟨wake, hpinger, hdue, rfl⟩ := step_wake hstep
    exact h.ping hpinger hdue
  | sent =>
    obtain ⟨since, -, rfl⟩ := step_sent hstep
    exact h.sleep
  | sendFailed =>
    obtain ⟨since, -, rfl⟩ := step_sendFailed hstep
    exact ⟨h.pings, h.last, fun wake hwake => by cases hwake⟩
  | disconnect =>
    cases hstep
    exact ⟨h.pings, h.last, fun wake hwake => by cases hwake⟩

/-- Sending a PINGREQ takes no longer than the lag. -/
def Prompt (lag : Nat) (c : Connection σ) : KeepaliveAct → Prop
  | .pass time => ∀ since, c.pinger = .sending since → time ≤ since + lag
  | _ => True

/-- Where the keepalive loop is with the next PINGREQ. -/
structure OnTime (lag t₀ : Nat) (c : Connection σ) : Prop where
  sleeping : ∀ wake, c.pinger = .sleeping wake →
    wake ≤ c.lastSent t₀ + KEEPALIVE_SLEEP + lag ∧ c.now ≤ wake + lag
  sending : ∀ since, c.pinger = .sending since → since = c.lastSent t₀ ∧ c.now ≤ since + lag

theorem onTime_start (w : World σ) (t₀ : Nat) : (start loads w t₀).OnTime lag t₀ where
  sleeping := by
    intro wake hwake
    cases hwake
    simp only [start, lastSent, List.headD_nil]
    omega
  sending := fun since hsince => by cases hsince

theorem OnTime.of_same {t₀ : Nat} (h : c.OnTime lag t₀) (hsame : SamePinger c c') :
    c'.OnTime lag t₀ where
  sleeping := by
    intro wake hwake
    rw [hsame.pinger] at hwake
    rw [lastSent, hsame.pings, hsame.now]
    exact h.sleeping wake hwake
  sending := by
    intro since hsince
    rw [hsame.pinger] at hsince
    rw [lastSent, hsame.pings, hsame.now]
    exact h.sending since hsince

theorem onTime_of_ended {t₀ : Nat} (h : c.pinger = .ended) : c.OnTime lag t₀ where
  sleeping := fun wake hwake => by rw [h] at hwake; cases hwake
  sending := fun since hsince => by rw [h] at hsince; cases hsince

theorem OnTime.sleep {t₀ since : Nat} (h : c.OnTime lag t₀) (hpinger : c.pinger = .sending since) :
    c.sleep.OnTime lag t₀ := by
  obtain ⟨hsince, hnow⟩ := h.sending since hpinger
  unfold Connection.sleep
  split
  next =>
    constructor
    · intro wake hwake
      cases hwake
      simp only [lastSent] at hsince ⊢
      omega
    · intro since' hsince'
      cases hsince'
  next => exact onTime_of_ended rfl

theorem OnTime.ping {t₀ : Nat} : (c.ping).OnTime lag t₀ := by
  unfold Connection.ping
  split
  next hclosed =>
    have hdead : c.world.live = false := by simp [World.live, hclosed]
    exact onTime_of_ended (by simp [Connection.sleep, hdead])
  next =>
    constructor
    · intro wake hwake
      cases hwake
    · intro since hsince
      cases hsince
      exact ⟨rfl, Nat.le_add_right _ _⟩

theorem OnTime.step {t₀ : Nat} (h : c.OnTime lag t₀) {act : KeepaliveAct}
    (hprompt : c.Prompt lag act) (hstep : Connection.step loads lag c act = some c') :
    c'.OnTime lag t₀ := by
  cases act with
  | pass time =>
    obtain ⟨hnow, hin, rfl⟩ := step_pass hstep
    constructor
    · intro wake hwake
      have hpinger : c.pinger = .sleeping wake := hwake
      refine ⟨(h.sleeping wake hpinger).1, ?_⟩
      have hdue := hin.1
      rw [hpinger] at hdue
      exact hdue
    · intro since hsince
      exact ⟨(h.sending since hsince).1, hprompt since hsince⟩
  | arrive m =>
    cases hstep
    exact h.of_same ⟨rfl, rfl, rfl⟩
  | receive =>
    obtain ⟨since, at_, m, rest, -, -, rfl⟩ := step_receive hstep
    have hcopy : OnTime lag t₀ { c with arrived := rest, received := c.received ++ [.msg m] } :=
      h.of_same ⟨rfl, rfl, rfl⟩
    exact hcopy.of_same (samePinger_take _ m)
  | timeout =>
    obtain ⟨since, -, -, rfl⟩ := step_timeout hstep
    exact h.of_same ⟨rfl, rfl, rfl⟩
  | handled =>
    obtain ⟨-, rfl⟩ := step_handled hstep
    exact h.of_same (samePinger_await c)
  | wake =>
    obtain ⟨wake, -, -, rfl⟩ := step_wake hstep
    exact OnTime.ping
  | sent =>
    obtain ⟨since, hpinger, rfl⟩ := step_sent hstep
    exact h.sleep hpinger
  | sendFailed =>
    obtain ⟨since, -, rfl⟩ := step_sendFailed hstep
    exact onTime_of_ended rfl
  | disconnect =>
    cases hstep
    exact onTime_of_ended rfl

/-- The `keepalive` of the CONNECT packet. -/
def KEEPALIVE : Nat := 60000

/-- A packet sent before `t₀` is as far from the PINGREQs as one sent then. -/
theorem Spaced.of_le {t₀ t : Nat} (h : c.Spaced t₀) (hle : t ≤ t₀) :
    (c.pings ++ [t]).Pairwise fun later earlier => earlier + KEEPALIVE_SLEEP ≤ later := by
  have hspaced := h.pings
  rw [List.pairwise_append] at hspaced ⊢
  refine ⟨hspaced.1, List.pairwise_singleton _ _, ?_⟩
  intro later hlater earlier hearlier
  have hafter := hspaced.2.2 later hlater t₀ (List.mem_singleton_self t₀)
  rw [List.mem_singleton.mp hearlier]
  omega

/-- `connect` sent its SUBSCRIBE at `subscribed` and had the SUBACK at `t₀`, after a wait that the
client does not bound. The broker hears of the client within the time that the CONNECT has promised
as long as the keepalive loop runs, if that wait and the lags stay within the margin of the sleep;
and never twice within a sleep. -/
theorem keepalive_promise {subscribed t₀ : Nat} (hsubscribed : subscribed ≤ t₀)
    (hlag : (t₀ - subscribed) + 2 * lag < KEEPALIVE - KEEPALIVE_SLEEP) (w : World σ)
    {acts : List KeepaliveAct} (hrun : (machine loads lag).run (start loads w t₀) acts = some c)
    (hprompt : (machine loads lag).Along (Prompt lag) (start loads w t₀) acts) :
    (c.pings ++ [subscribed]).Pairwise (fun later earlier => earlier + KEEPALIVE_SLEEP ≤ later) ∧
      (c.pinger ≠ .ended → c.now < c.lastSent subscribed + KEEPALIVE) := by
  have hspaced : c.Spaced t₀ := (machine loads lag).run_invariant
    (fun _ _ _ h hstep => h.step hstep) (spaced_start w t₀) hrun
  have htime : c.OnTime lag t₀ := hprompt.invariant
    (fun _ _ _ h hmeets hstep => h.step hmeets hstep) (onTime_start w t₀) hrun
  refine ⟨hspaced.of_le hsubscribed, ?_⟩
  intro hrunning
  simp only [KEEPALIVE, KEEPALIVE_SLEEP] at hlag ⊢
  have hlast : c.lastSent t₀ ≤ c.lastSent subscribed + (t₀ - subscribed) := by
    unfold lastSent
    cases c.pings with
    | nil => simp only [List.headD_nil]; omega
    | cons ping rest => simp only [List.headD_cons]; omega
  cases hpinger : c.pinger with
  | ended => exact absurd hpinger hrunning
  | sleeping wake =>
    have hbounds := htime.sleeping wake hpinger
    simp only [KEEPALIVE_SLEEP] at hbounds
    omega
  | sending since =>
    have hbounds := htime.sending since hpinger
    omega

/-! ### A quiet camera -/

def pong : WSMsg := .binary [0xD0, 0x00]

/-- The broker answers the PINGREQ of the first minute. -/
def quietActs : List KeepaliveAct :=
  [.handled, .pass 50000, .wake, .sent, .pass 50200, .arrive pong, .receive, .handled,
    .pass 90100]

def slowSubackActs : List KeepaliveAct :=
  [.handled, .pass 55000, .wake, .sent, .pass 55200, .arrive pong, .receive, .handled,
    .pass 90100]

/-- The SUBACK took five seconds. -/
theorem keepalive_promise_quiet : ∃ c,
    (machine noJson 1000).run (start noJson quiet 5000) slowSubackActs = some c ∧
      (c.pings ++ [0]).Pairwise (fun later earlier => earlier + KEEPALIVE_SLEEP ≤ later) ∧
      c.now < c.lastSent 0 + KEEPALIVE ∧ c.pings = [55000] := by
  have hprompt : (machine noJson 1000).Along (Prompt 1000) (start noJson quiet 5000)
      slowSubackActs := by
    refine (Machine.along_cons_of_step _ rfl).mpr ⟨trivial, ?_⟩
    refine (Machine.along_cons_of_step _ rfl).mpr ⟨(fun since hsince => by cases hsince), ?_⟩
    refine (Machine.along_cons_of_step _ rfl).mpr ⟨trivial, ?_⟩
    refine (Machine.along_cons_of_step _ rfl).mpr ⟨trivial, ?_⟩
    refine (Machine.along_cons_of_step _ rfl).mpr ⟨(fun since hsince => by cases hsince), ?_⟩
    refine (Machine.along_cons_of_step _ rfl).mpr ⟨trivial, ?_⟩
    refine (Machine.along_cons_of_step _ rfl).mpr ⟨trivial, ?_⟩
    refine (Machine.along_cons_of_step _ rfl).mpr ⟨trivial, ?_⟩
    exact (Machine.along_cons_of_step _ rfl).mpr ⟨(fun since hsince => by cases hsince), trivial⟩
  obtain ⟨hspaced, hheard⟩ := keepalive_promise (Nat.zero_le 5000) (by decide) quiet rfl hprompt
  refine ⟨_, rfl, hspaced, hheard ?_, rfl⟩
  intro hover
  cases hover

end Promise

/-! ## A broker that answers -/

section Answers

variable {loads : Bytes → Except Exc Json} {lag reply t₀ : Nat} {w₀ : World σ} {c c' : Connection σ}

/-- The broker has a message at the client within `reply` of a PINGREQ, and no send fails or takes
longer than the lag. -/
def Healthy (lag reply : Nat) (c : Connection σ) : KeepaliveAct → Prop
  | .pass time =>
    (∀ since, c.pinger = .sending since → time ≤ since + lag) ∧
      ∀ ping, c.unheard = some ping → time ≤ ping + reply
  | .sendFailed => False
  | _ => True

/-- By when a PINGREQ that nothing has followed is sent. -/
def asked (lag : Nat) (c : Connection σ) : Option Nat :=
  match c.unheard, c.pinger with
  | some ping, _ => some ping
  | none, .sleeping wake => some (wake + lag)
  | none, .sending since => some (since + lag + KEEPALIVE_SLEEP + lag)
  | none, .ended => none

structure Answered (reply : Nat) (c : Connection σ) : Prop where
  unheard : ∀ ping, c.unheard = some ping → ping ≤ c.now ∧ c.now ≤ ping + reply
  ended : c.pinger = .ended → c.world.live = false
  arrived : ∀ x ∈ c.arrived, x.1 ≤ c.now
  received : Received.timeout ∉ c.received

/-- The receive that is awaited has a message, or will have one in time. -/
def Awaited (lag reply : Nat) (c : Connection σ) : Prop :=
  ∀ since, c.listener = .waiting since →
    match c.arrived with
    | [] => ∀ ping, c.asked lag = some ping → ping ≤ since + KEEPALIVE_SLEEP + 2 * lag
    | (at_, _) :: _ =>
      at_ ≤ since + KEEPALIVE_SLEEP + 2 * lag + reply ∧ c.now ≤ max since at_ + lag

theorem asked_of_live (hspaced : c.Spaced t₀) (htime : c.OnTime lag t₀) (h : c.Answered reply)
    (hlive : c.world.live = true) :
    ∃ ping, c.asked lag = some ping ∧ ping ≤ c.now + KEEPALIVE_SLEEP + 2 * lag ∧
      c.now ≤ ping + reply := by
  have hlast := hspaced.last
  unfold asked
  cases hunheard : c.unheard with
  | some ping =>
    obtain ⟨hsent, hwithin⟩ := h.unheard ping hunheard
    exact ⟨ping, rfl, by omega, hwithin⟩
  | none =>
    cases hpinger : c.pinger with
    | sleeping wake =>
      obtain ⟨hwake, hdue⟩ := htime.sleeping wake hpinger
      exact ⟨_, rfl, by omega, by omega⟩
    | sending since =>
      obtain ⟨hsince, hdue⟩ := htime.sending since hpinger
      exact ⟨_, rfl, by omega, by omega⟩
    | ended =>
      have hdead := h.ended hpinger
      rw [hlive] at hdead
      cases hdead

theorem answered_start (w : World σ) : (start loads w t₀).Answered reply where
  unheard := fun ping hping => by cases hping
  ended := fun hover => by cases hover
  arrived := fun x hx => by cases hx
  received := List.not_mem_nil

theorem awaited_start (w : World σ) : (start loads w t₀).Awaited lag reply := by
  intro since hwaiting
  simp only [start] at hwaiting
  split at hwaiting <;> cases hwaiting

/-- The listen loop opens no socket, and it keeps no account of the pings. -/
structure Reads (c c' : Connection σ) : Prop extends SamePinger c c' where
  unheard : c'.unheard = c.unheard
  arrived : c'.arrived = c.arrived
  received : c'.received = c.received
  live : c'.world.live = true → c.world.live = true

theorem live_notifyDisconnect (w : World σ) : (notifyDisconnect w).1.live = false := by
  rw [World.live, (notifyDisconnect_frame w).2, Bool.false_and]

theorem reads_leave (c : Connection σ) : Reads c c.leave where
  toSamePinger := ⟨rfl, rfl, rfl⟩
  unheard := rfl
  arrived := rfl
  received := rfl
  live := by
    intro hlive
    rw [leave, live_notifyDisconnect] at hlive
    cases hlive

theorem reads_await (c : Connection σ) : Reads c c.await := by
  unfold await
  split
  next => exact ⟨⟨rfl, rfl, rfl⟩, rfl, rfl, rfl, id⟩
  next => exact reads_leave c

theorem live_drainBuffer (w : World σ) : (drainBuffer loads w).1.live = w.live := by
  obtain ⟨hrunning, hclosed⟩ := @drainBuffer_stream σ loads w
  rw [World.live, hrunning, hclosed, World.live]

theorem live_setClosed (w : World σ) : w.setClosed.live = false := by
  simp [World.live, World.setClosed]

theorem await_setClosed (c : Connection σ) :
    ({ c with world := c.world.setClosed }).await =
      ({ c with world := c.world.setClosed }).leave := by
  unfold await
  rw [if_neg]
  simp [live_setClosed]

theorem reads_leave_setClosed (c : Connection σ) :
    Reads c ({ c with world := c.world.setClosed }).leave := by
  have h := reads_leave { c with world := c.world.setClosed }
  refine ⟨⟨h.now, h.pinger, h.pings⟩, h.unheard, h.arrived, h.received, ?_⟩
  intro hlive
  have hclosed := h.live hlive
  rw [live_setClosed] at hclosed
  cases hclosed

theorem reads_take (c : Connection σ) (m : WSMsg) : Reads c (c.take loads m) := by
  cases m with
  | binary data =>
    have hlive := @live_drainBuffer σ loads
      (c.world.setBuffer (c.world.stream.rxBuffer ++ data))
    simp only [take]
    split
    next world hdrain =>
      rw [hdrain] at hlive
      exact ⟨⟨rfl, rfl, rfl⟩, rfl, rfl, rfl, fun h => hlive.symm.trans h⟩
    next world err hdrain =>
      rw [hdrain] at hlive
      exact ⟨⟨rfl, rfl, rfl⟩, rfl, rfl, rfl, fun h => hlive.symm.trans h⟩
  | closed | error => exact reads_leave_setClosed c
  | close =>
    simp only [take]
    rw [await_setClosed]
    exact reads_leave_setClosed c
  | other => exact reads_await c

theorem Answered.of_reads (h : c.Answered reply) (hreads : Reads c c') : c'.Answered reply where
  unheard := by
    rw [hreads.unheard, hreads.now]
    exact h.unheard
  ended := by
    intro hover
    have hdead := h.ended (hreads.pinger ▸ hover)
    cases hlive : c'.world.live with
    | false => rfl
    | true =>
      rw [hreads.live hlive] at hdead
      cases hdead
  arrived := by
    rw [hreads.arrived, hreads.now]
    exact h.arrived
  received := by
    rw [hreads.received]
    exact h.received

/-- A receive begins with a message there, or with a PINGREQ on its way. -/
theorem awaited_await (hspaced : c.Spaced t₀) (htime : c.OnTime lag t₀) (h : c.Answered reply) :
    c.await.Awaited lag reply := by
  intro since hwaiting
  have hlive : c.world.live = true := (reads_await c).live (live_of_await hwaiting)
  have hawait : c.await = { c with listener := .waiting c.now } := by
    unfold await
    rw [if_pos hlive]
  rw [hawait] at hwaiting ⊢
  cases hwaiting
  cases harrived : c.arrived with
  | nil =>
    intro ping hping
    obtain ⟨ping', hping', hbound, -⟩ := asked_of_live hspaced htime h hlive
    have heq : some ping' = some ping := hping'.symm.trans hping
    cases heq
    exact hbound
  | cons first rest =>
    have hfirst := h.arrived first (by simp [harrived])
    dsimp only
    omega

theorem awaited_take (hspaced : c.Spaced t₀) (htime : c.OnTime lag t₀) (h : c.Answered reply)
    (m : WSMsg) : (c.take loads m).Awaited lag reply := by
  cases m with
  | binary data =>
    intro since hwaiting
    simp only [take] at hwaiting
    split at hwaiting <;> cases hwaiting
  | closed | error =>
    intro since hwaiting
    cases hwaiting
  | close =>
    intro since hwaiting
    simp only [take, await_setClosed] at hwaiting
    cases hwaiting
  | other => exact awaited_await hspaced htime h

/-- No receive times out while it is awaited as it should be. -/
theorem Awaited.early (h : c.Awaited lag reply) (hspaced : c.Spaced t₀) (htime : c.OnTime lag t₀)
    (hanswered : c.Answered reply) (hlive : c.world.live = true)
    (hlag : 3 * lag + reply < RECEIVE_TIMEOUT - KEEPALIVE_SLEEP) {since : Nat}
    (hwaiting : c.listener = .waiting since) : c.now < since + RECEIVE_TIMEOUT := by
  simp only [RECEIVE_TIMEOUT, KEEPALIVE_SLEEP] at hlag ⊢
  have hawaited := h since hwaiting
  simp only [KEEPALIVE_SLEEP] at hawaited
  split at hawaited
  next =>
    obtain ⟨ping, hping, -, hreply⟩ := asked_of_live hspaced htime hanswered hlive
    have hbound := hawaited ping hping
    omega
  next => omega

/-- What a run with an answering broker keeps. -/
structure Heard (loads : Bytes → Except Exc Json) (lag reply t₀ : Nat) (w₀ : World σ)
    (c : Connection σ) : Prop where
  listening : Listening loads w₀ c
  spaced : c.Spaced t₀
  onTime : c.OnTime lag t₀
  answered : c.Answered reply
  awaited : c.Awaited lag reply

theorem heard_start (w : World σ) (t₀ : Nat) : Heard loads lag reply t₀ w (start loads w t₀) :=
  ⟨listening_start w t₀, spaced_start w t₀, onTime_start w t₀, answered_start w, awaited_start w⟩

theorem Heard.pass (h : Heard loads lag reply t₀ w₀ c) {time : Nat} (hnow : c.now ≤ time)
    (hin : c.InTime lag time) (hreply : ∀ ping, c.unheard = some ping → time ≤ ping + reply) :
    ({ c with now := time }).Answered reply ∧ ({ c with now := time }).Awaited lag reply := by
  constructor
  · constructor
    · intro ping hping
      exact ⟨Nat.le_trans (h.answered.unheard ping hping).1 hnow, hreply ping hping⟩
    · exact h.answered.ended
    · intro x hx
      exact Nat.le_trans (h.answered.arrived x hx) hnow
    · exact h.answered.received
  · intro since hwaiting
    have hlistener : c.listener = .waiting since := hwaiting
    have hawaited := h.awaited since hlistener
    have hdue := hin.2
    cases harrived : c.arrived with
    | nil =>
      rw [harrived] at hawaited
      exact hawaited
    | cons first rest =>
      rw [harrived] at hawaited
      rw [hlistener, harrived] at hdue
      exact ⟨hawaited.1, hdue⟩

theorem Heard.arrive (h : Heard loads lag reply t₀ w₀ c) (m : WSMsg) :
    ({ c with arrived := c.arrived ++ [(c.now, m)], unheard := none }).Answered reply ∧
      ({ c with arrived := c.arrived ++ [(c.now, m)], unheard := none }).Awaited lag reply := by
  constructor
  · constructor
    · intro ping hping
      cases hping
    · exact h.answered.ended
    · intro x hx
      rcases List.mem_append.mp hx with hold | hnew
      · exact h.answered.arrived x hold
      · rw [List.mem_singleton.mp hnew]
    · exact h.answered.received
  · intro since hwaiting
    have hlistener : c.listener = .waiting since := hwaiting
    have hawaited := h.awaited since hlistener
    have hlive := h.listening.live since hlistener
    cases harrived : c.arrived with
    | nil =>
      rw [harrived] at hawaited
      obtain ⟨ping, hping, -, hreply⟩ := asked_of_live h.spaced h.onTime h.answered hlive
      have hbound := hawaited ping hping
      dsimp only [List.nil_append]
      omega
    | cons first rest =>
      rw [harrived] at hawaited
      exact hawaited

theorem Heard.ping (h : Heard loads lag reply t₀ w₀ c) {wake : Nat}
    (hpinger : c.pinger = .sleeping wake) : c.ping.Answered reply ∧ c.ping.Awaited lag reply := by
  unfold Connection.ping
  split
  next hclosed =>
    have hdead : c.world.live = false := by simp [World.live, hclosed]
    constructor
    · exact ⟨h.answered.unheard, fun _ => hdead, h.answered.arrived, h.answered.received⟩
    · intro since hwaiting
      have hlive := h.listening.live since hwaiting
      rw [hdead] at hlive
      cases hlive
  next =>
    constructor
    · constructor
      · intro ping hping
        cases hping
        cases hunheard : c.unheard with
        | none => exact ⟨Nat.le_refl _, Nat.le_add_right _ _⟩
        | some earlier => exact h.answered.unheard earlier hunheard
      · intro hover
        cases hover
      · exact h.answered.arrived
      · exact h.answered.received
    · intro since hwaiting
      have hlistener : c.listener = .waiting since := hwaiting
      have hawaited := h.awaited since hlistener
      cases harrived : c.arrived with
      | cons first rest =>
        rw [harrived] at hawaited
        exact hawaited
      | nil =>
        rw [harrived] at hawaited
        intro ping hping
        cases hping
        cases hunheard : c.unheard with
        | some earlier => exact hawaited earlier (by simp [asked, hunheard])
        | none =>
          have hbound := hawaited (wake + lag) (by simp [asked, hunheard, hpinger])
          obtain ⟨-, hdue⟩ := h.onTime.sleeping wake hpinger
          exact Nat.le_trans hdue hbound

theorem Heard.sent (h : Heard loads lag reply t₀ w₀ c) {began : Nat}
    (hpinger : c.pinger = .sending began) :
    c.sleep.Answered reply ∧ c.sleep.Awaited lag reply := by
  constructor
  · constructor
    · exact h.answered.unheard
    · intro hover
      simp only [sleep] at hover ⊢
      split at hover
      next => cases hover
      next hdead => simpa using hdead
    · exact h.answered.arrived
    · exact h.answered.received
  · intro since hwaiting
    have hlistener : c.listener = .waiting since := hwaiting
    have hawaited := h.awaited since hlistener
    have hlive := h.listening.live since hlistener
    have hsleep : c.sleep = { c with pinger := .sleeping (c.now + KEEPALIVE_SLEEP) } := by
      simp only [sleep, hlive, if_true]
    rw [hsleep]
    cases harrived : c.arrived with
    | cons first rest =>
      rw [harrived] at hawaited
      exact hawaited
    | nil =>
      rw [harrived] at hawaited
      intro ping hping
      cases hunheard : c.unheard with
      | some earlier =>
        have heq : some earlier = some ping := by simpa only [asked, hunheard] using hping
        cases heq
        exact hawaited ping (by simp only [asked, hunheard])
      | none =>
        have heq : some (c.now + KEEPALIVE_SLEEP + lag) = some ping := by
          simpa only [asked, hunheard] using hping
        cases heq
        have hbound := hawaited (began + lag + KEEPALIVE_SLEEP + lag)
          (by simp only [asked, hunheard, hpinger])
        obtain ⟨-, hdue⟩ := h.onTime.sending began hpinger
        omega

theorem Heard.step (h : Heard loads lag reply t₀ w₀ c)
    (hlag : 3 * lag + reply < RECEIVE_TIMEOUT - KEEPALIVE_SLEEP) {act : KeepaliveAct}
    (hhealthy : c.Healthy lag reply act) (hstep : Connection.step loads lag c act = some c') :
    Heard loads lag reply t₀ w₀ c' := by
  have hlistening := h.listening.step hstep
  have hspaced := h.spaced.step hstep
  have hprompt : c.Prompt lag act := by
    cases act with
    | pass time => exact hhealthy.1
    | _ => trivial
  have htime := h.onTime.step hprompt hstep
  suffices hrest : c'.Answered reply ∧ c'.Awaited lag reply from
    ⟨hlistening, hspaced, htime, hrest.1, hrest.2⟩
  cases act with
  | pass time =>
    obtain ⟨hnow, hin, rfl⟩ := step_pass hstep
    exact h.pass hnow hin hhealthy.2
  | arrive m =>
    cases hstep
    exact h.arrive m
  | receive =>
    obtain ⟨since, at_, m, rest, -, harrived, rfl⟩ := step_receive hstep
    have hcopy : Answered reply
        { c with arrived := rest, received := c.received ++ [Received.msg m] } := by
      refine ⟨h.answered.unheard, h.answered.ended, ?_, ?_⟩
      · intro x hx
        exact h.answered.arrived x (by rw [harrived]; exact List.mem_cons_of_mem _ hx)
      · have hnone := h.answered.received
        simpa using hnone
    have hspaced' : Spaced t₀
        { c with arrived := rest, received := c.received ++ [Received.msg m] } :=
      h.spaced.of_same ⟨rfl, rfl, rfl⟩
    have htime' : OnTime lag t₀
        { c with arrived := rest, received := c.received ++ [Received.msg m] } :=
      h.onTime.of_same ⟨rfl, rfl, rfl⟩
    exact ⟨hcopy.of_reads (reads_take _ m), awaited_take hspaced' htime' hcopy m⟩
  | timeout =>
    obtain ⟨since, hwaiting, hdue, -⟩ := step_timeout hstep
    have hearly := h.awaited.early h.spaced h.onTime h.answered
      (h.listening.live since hwaiting) hlag hwaiting
    omega
  | handled =>
    obtain ⟨-, rfl⟩ := step_handled hstep
    exact ⟨h.answered.of_reads (reads_await c), awaited_await h.spaced h.onTime h.answered⟩
  | wake =>
    obtain ⟨wake, hpinger, -, rfl⟩ := step_wake hstep
    exact h.ping hpinger
  | sent =>
    obtain ⟨began, hpinger, rfl⟩ := step_sent hstep
    exact h.sent hpinger
  | sendFailed => exact hhealthy.elim
  | disconnect =>
    cases hstep
    constructor
    · exact ⟨h.answered.unheard, fun _ => rfl, h.answered.arrived, h.answered.received⟩
    · intro since hwaiting
      simp only [Connection.disconnect] at hwaiting
      split at hwaiting <;> cases hwaiting

/-- A broker that answers its PINGREQs within the 40 seconds that lie between the two constants,
less the lags, is never given up for silent: however long the handlers work, whatever else it
sends or does not. -/
theorem healthy_never_times_out
    (hlag : 3 * lag + reply < RECEIVE_TIMEOUT - KEEPALIVE_SLEEP) (w : World σ) (t₀ : Nat)
    {acts : List KeepaliveAct} (hrun : (machine loads lag).run (start loads w t₀) acts = some c)
    (hhealthy : (machine loads lag).Along (Healthy lag reply) (start loads w t₀) acts) :
    Received.timeout ∉ c.received := by
  have hheard : Heard loads lag reply t₀ w c := hhealthy.invariant
    (fun _ _ _ h hmeets hstep => h.step hlag hmeets hstep) (heard_start w t₀) hrun
  exact hheard.answered.received

theorem healthy_never_times_out_quiet : ∃ c,
    (machine noJson 1000).run (start noJson quiet 0) quietActs = some c ∧
      c.listener = .waiting 50200 ∧ Received.timeout ∉ c.received := by
  have hhealthy : (machine noJson 1000).Along (Healthy 1000 30000) (start noJson quiet 0)
      quietActs := by
    refine (Machine.along_cons_of_step _ rfl).mpr ⟨trivial, ?_⟩
    refine (Machine.along_cons_of_step _ rfl).mpr ⟨⟨?_, ?_⟩, ?_⟩
    · intro since hsince
      cases hsince
    · intro ping hping
      cases hping
    refine (Machine.along_cons_of_step _ rfl).mpr ⟨trivial, ?_⟩
    refine (Machine.along_cons_of_step _ rfl).mpr ⟨trivial, ?_⟩
    refine (Machine.along_cons_of_step _ rfl).mpr ⟨⟨?_, ?_⟩, ?_⟩
    · intro since hsince
      cases hsince
    · intro ping hping
      cases hping
      decide
    refine (Machine.along_cons_of_step _ rfl).mpr ⟨trivial, ?_⟩
    refine (Machine.along_cons_of_step _ rfl).mpr ⟨trivial, ?_⟩
    refine (Machine.along_cons_of_step _ rfl).mpr ⟨trivial, ?_⟩
    refine (Machine.along_cons_of_step _ rfl).mpr ⟨⟨?_, ?_⟩, trivial⟩
    · intro since hsince
      cases hsince
    · intro ping hping
      cases hping
  refine ⟨_, rfl, rfl, ?_⟩
  exact healthy_never_times_out (by decide) quiet 0 rfl hhealthy

end Answers

end Connection

end Eisenberg.Mqtt
