import Eisenberg.Mqtt.Delivery

/-!
# What becomes of the socket

`connect` closes its socket in one place, where the broker refuses the CONNECT, and `_listen_loop`
nowhere. Apart from that a socket is closed once `receive` reports its end.
-/

namespace Eisenberg.Mqtt

variable {σ : Type} {loads : Bytes → Except Exc Json}

/-- The message reports the end of the socket. -/
def WSMsg.closes : WSMsg → Bool
  | closed | error | close => true
  | binary _ | other => false

/-! ## The handshake -/

/-- A read that raises was cancelled, or the socket is closed. -/
theorem readPacket_raised {received : List Received} {w w' : World σ} {err : Exc}
    (h : readPacket w received = (w', .raised err)) :
    err = .cancelledError ∨ w'.stream.wsClosed = true := by
  induction received generalizing w with
  | nil =>
    unfold readPacket at h
    split at h
    · cases h
    · cases h
  | cons r rest ih =>
    unfold readPacket at h
    split at h
    · cases h
    · cases r with
      | timeout => exact ih h
      | cancelled =>
        cases h
        exact Or.inl rfl
      | msg m =>
        cases m with
        | binary data => exact ih h
        | closed =>
          cases h
          exact Or.inr rfl
        | error =>
          cases h
          exact Or.inr rfl
        | close => exact ih h
        | other => exact ih h

/-- Every packet that races ahead of the SUBACK has a type, and its dispatch returns. -/
def RacesCleanly (loads : Bytes → Except Exc Json) : Nat → World σ → List Received → Prop
  | 0, _, _ => True
  | fuel + 1, w, received =>
    ∀ w' packet rest, readPacket w received = (w', .ok (packet, rest)) →
      ∃ pktType, parsePacketType packet = .ok pktType ∧
        (pktType ≠ SUBACK → ∃ w'', handOver loads packet w' = (w'', .ok ()) ∧
          RacesCleanly loads fuel w'' rest)

theorem awaitSuback_raised {fuel : Nat} {received : List Received} {w w' : World σ} {err : Exc}
    (hclean : RacesCleanly loads fuel w received)
    (h : awaitSuback loads fuel w received = (w', .raised err)) :
    err = .cancelledError ∨ w'.stream.wsClosed = true := by
  induction fuel generalizing w received with
  | zero => cases h
  | succ fuel ih =>
    unfold awaitSuback at h
    split at h
    next w₁ err' hread =>
      cases h
      exact readPacket_raised hread
    next => cases h
    next w₁ packet rest hread =>
      obtain ⟨pktType, htype, hrest⟩ := hclean w₁ packet rest hread
      simp only [htype] at h
      split at h
      · cases h
      next hother =>
        obtain ⟨w₂, hhand, hclean₂⟩ := hrest hother
        simp only [hhand] at h
        exact ih hclean₂ h

/-- Nothing in the attempt raises but the opening of the socket, the socket itself, and a refusal of
the broker: both packets can be built and sent, the CONNACK parses, and what races ahead of the
SUBACK is dispatched. -/
def OnlySocketFails (loads : Bytes → Except Exc Json) (t : Transport) (w : World σ)
    (received : List Received) : Prop :=
  t.wsConnect = .ok () →
    w.newSession.stream.openSession t = .ok () ∧
      ∀ w' connack rest, readPacket w.newSession received = (w', .ok (connack, rest)) →
        ∃ rc, parseConnack connack = .ok rc ∧
          (rc = 0 → w'.stream.sendSubscribe t = .ok () ∧
            RacesCleanly loads (w'.stream.rxBuffer.length + receivedBytes rest + 1) w' rest)

/-- Such an attempt leaves no open socket behind when it fails. -/
theorem connect_raised {t : Transport} {w w' : World σ} {received : List Received} {err : Exc}
    (hsound : OnlySocketFails loads t w received) (hopened : t.wsConnect = .ok ())
    (h : connect loads t w received = (w', .raised err)) :
    err = .cancelledError ∨ w'.stream.wsClosed = true := by
  obtain ⟨hsession, hconnack⟩ := hsound hopened
  simp only [connect, hsession] at h
  split at h
  next w₁ err' hread =>
    cases h
    exact readPacket_raised hread
  next => cases h
  next w₁ connack rest hread =>
    obtain ⟨rc, hrc, hsubscribe⟩ := hconnack w₁ connack rest hread
    simp only [hrc] at h
    split at h
    · cases h
      exact Or.inr rfl
    next hzero =>
      obtain ⟨hsend, hclean⟩ := hsubscribe (by simpa using hzero)
      simp only [hsend] at h
      split at h
      next w₂ err' hawait =>
        cases h
        exact awaitSuback_raised hclean hawait
      next => cases h
      next => cases h

/-! ## The listen loop -/

/-- The end of the socket is reported before a `receive` times out. -/
def ClosedInTime : List Received → Prop
  | [] => False
  | .msg m :: rest => m.closes = true ∨ ClosedInTime rest
  | .timeout :: _ | .cancelled :: _ => False

theorem drainBuffer_stream (w : World σ) :
    (drainBuffer loads w).1.stream.running = w.stream.running ∧
      (drainBuffer loads w).1.stream.wsClosed = w.stream.wsClosed := by
  have hdrain : (drainBuffer loads w).1.stream =
      (w.setBuffer (splitPackets w.stream.rxBuffer).2).stream :=
    handOverAll_stream (splitPackets w.stream.rxBuffer).1 _
  rw [hdrain]
  exact ⟨rfl, rfl⟩

/-- A loop that is left for its last lines, and not by a timeout, leaves a closed socket. -/
theorem receiveLoop_returned {received : List Received} {w w' : World σ}
    (hrun : w.stream.running = true) (htime : w.stream.wsClosed = true ∨ ClosedInTime received)
    (h : receiveLoop loads w received = (w', .returned)) : w'.stream.wsClosed = true := by
  induction received generalizing w with
  | nil =>
    cases h
    exact htime.resolve_right fun h => h
  | cons r rest ih =>
    cases hclosed : w.stream.wsClosed with
    | true =>
      simp only [receiveLoop, hclosed, Bool.not_true, Bool.and_false, Bool.false_eq_true,
        if_false] at h
      cases h
      exact hclosed
    | false =>
      have htime := htime.resolve_left (by simp [hclosed])
      simp only [receiveLoop, hrun, hclosed, Bool.not_false, Bool.and_true, if_true] at h
      cases r with
      | timeout => exact htime.elim
      | cancelled => exact htime.elim
      | msg m =>
        cases m with
        | binary data =>
          have hrest : ClosedInTime rest := htime.resolve_left (by simp [WSMsg.closes])
          have hdrained := @drainBuffer_stream σ loads (w.setBuffer (w.stream.rxBuffer ++ data))
          simp only at h
          split at h
          next w₁ err hdrain =>
            cases err <;> cases h
          next w₁ hdrain =>
            rw [hdrain] at hdrained
            exact ih (hdrained.1.trans hrun) (Or.inr hrest) h
        | closed =>
          cases h
          rfl
        | error =>
          cases h
          rfl
        | close => exact ih (w := w.setClosed) hrun (Or.inl rfl) h
        | other =>
          have hrest : ClosedInTime rest := htime.resolve_left (by simp [WSMsg.closes])
          exact ih hrun (Or.inr hrest) h

theorem listenLoop_returned {received : List Received} {w w' : World σ}
    (hrun : w.stream.running = true) (htime : w.stream.wsClosed = true ∨ ClosedInTime received)
    (h : listenLoop loads w received = (w', .returned)) : w'.stream.wsClosed = true := by
  have hdrained := @drainBuffer_stream σ loads w
  unfold listenLoop at h
  split at h
  next w₁ err hdrain =>
    cases err <;> cases h
  next w₁ hdrain =>
    rw [hdrain] at hdrained
    split at h
    next w₂ hloop =>
      have hclosed := receiveLoop_returned (hdrained.1.trans hrun)
        (htime.imp_left fun h => hdrained.2.trans h) hloop
      have hframe := (notifyDisconnect_frame w₂).2
      rw [h] at hframe
      rw [hframe]
      exact hclosed
    next w₂ stop hnot hloop =>
      cases h
      exact absurd rfl hnot

end Eisenberg.Mqtt
