/-
  NimbusIo.Transport.Delivery

  The delivery law of the resilient client: at every reachable state the
  acknowledged user messages, the pending one, and the send queue are,
  in this order, exactly the messages queued so far.  Nothing queued is
  lost or duplicated across timeouts, disconnections and reconnections,
  and acks are accepted in submission order (spec §5, "strict FIFO").

  The law is not inductive alone: queueing into an idle connected client
  needs its queue empty, and a new handshake needs the pending slot free.
  `Client.Inv` adds what each status says of the socket and the slot, and
  is preserved by every event through the method lemmas of
  `ResilientClient`.
-/
import NimbusIo.Transport.ResilientClient

namespace NimbusIo
namespace Transport

/-- What holds of every reachable client. -/
structure Client.Inv (c : Client) : Prop where
  delivery : c.acknowledged ++ c.userPending ++ c.sendQueue = c.queued
  disconnected : c.status = .disconnected → c.pendingMessage = none ∧ c.dealerSocket = none
  handshaking : c.status = .handshaking → c.dealerSocket.isSome ∧
    ∃ p, c.pendingMessage = some p ∧ p.handshake ∧
      p.message.control.get? "message-type" = some (.str "resilient-server-handshake")
  connected : c.status = .connected → c.dealerSocket.isSome ∧
    (∀ p, c.pendingMessage = some p → p.handshake = false) ∧
    (c.pendingMessage = none → c.sendQueue = [])

@[simp] theorem Client.userPending_none {c : Client} (h : c.pendingMessage = none) :
    c.userPending = [] := by simp [Client.userPending, h]

theorem Client.userPending_some {c : Client} {p : Pending} (h : c.pendingMessage = some p) :
    c.userPending = if p.handshake then [] else [p.message] := by simp [Client.userPending, h]

theorem Client.inv_init (clientTag clientAddress : String) :
    (Client.init clientTag clientAddress).Inv where
  delivery := rfl
  disconnected _ := ⟨rfl, rfl⟩
  handshaking h := nomatch h
  connected h := nomatch h

namespace Client.Inv

variable {c : Client}

/-- Recording an ack time keeps the invariant. -/
theorem withAckTime (h : c.Inv) (now : ℚ) : ({ c with lastSuccessfulAckTime := now } : Client).Inv :=
  ⟨h.delivery, h.disconnected, h.handshaking, h.connected⟩

/-- Writing frames on the socket keeps the invariant. -/
theorem sent (h : c.Inv) (m : Message) : (c.sent m).Inv where
  delivery := h.delivery
  disconnected hs := by simpa using h.disconnected hs
  handshaking hs := by simpa using h.handshaking hs
  connected hs := by simpa using h.connected hs

theorem queue (h : c.Inv) (now : ℚ) (freshId : String) (control : Control) (data : Body) :
    (c.step (.queue now freshId control data)).Inv := by
  simp only [Client.step, Event.call]
  rcases queueMessageForSend_state now freshId control data c with ⟨hst, hp, heq⟩ | ⟨hidle, heq⟩ <;>
    rw [heq.1]
  · have hq := (h.connected hst).2.2 hp
    apply Client.Inv.sent
    refine ⟨?_, fun h' => by simp_all, fun h' => by simp_all,
      fun _ => ⟨(h.connected hst).1, by simp, fun h' => by simp at h'⟩⟩
    simpa [Client.userPending, hp, hq] using h.delivery
  · refine ⟨?_, h.disconnected, h.handshaking, fun hst => ⟨(h.connected hst).1,
      (h.connected hst).2.1, fun hp => absurd ⟨hst, hp⟩ hidle⟩⟩
    simpa [Client.userPending] using congrArg (· ++ [formatMessage freshId control data]) h.delivery

/-- A connected client satisfies the invariant when the delivery law and
    the `connected` clause hold. -/
theorem of_connected (hs : c.status = .connected)
    (hd : c.acknowledged ++ c.userPending ++ c.sendQueue = c.queued)
    (hc : c.dealerSocket.isSome ∧ (∀ p, c.pendingMessage = some p → p.handshake = false) ∧
      (c.pendingMessage = none → c.sendQueue = [])) : c.Inv where
  delivery := hd
  disconnected h := nomatch hs.symm.trans h
  handshaking h := nomatch hs.symm.trans h
  connected _ := hc

/-- Accepting the ack of the pending message keeps the invariant, whether
    or not a queued message is then made pending: the client is then
    connected, and the pending message, if a user message, is acknowledged. -/
theorem ackAccepted (h : c.Inv) (now : ℚ) {p : Pending} {v : Value} (hp : c.pendingMessage = some p)
    (ht : p.message.control.get? "message-type" = some v) :
    (c.sendQueue = [] → (c.ackAccepted now p v).Inv) ∧
    (∀ m rest, c.sendQueue = m :: rest →
      ({ c.ackAccepted now p v with
          sendQueue := rest, pendingMessage := some ⟨m, now, false⟩ } : Client).Inv) := by
  have hconn : (c.ackAccepted now p v).status = .connected ∧ c.dealerSocket.isSome := by
    rw [Client.ackAccepted_status]
    cases hst : c.status with
    | disconnected => simp [(h.disconnected hst).1] at hp
    | handshaking =>
      obtain ⟨hsock, p', hp', -, ht'⟩ := h.handshaking hst
      obtain rfl : p' = p := Option.some.inj (hp'.symm.trans hp)
      exact ⟨if_pos (Option.some.inj (ht.symm.trans ht')), hsock⟩
    | connected => exact ⟨by split <;> rfl, (h.connected hst).1⟩
  have hack : (c.ackAccepted now p v).acknowledged = c.acknowledged ++ c.userPending := by
    rw [Client.ackAccepted_acknowledged, Client.userPending_some hp]
    split <;> simp
  refine ⟨fun hq => of_connected hconn.1 ?_ ⟨by simpa using hconn.2, by simp, fun _ => by simpa using hq⟩,
    fun m rest hq => of_connected hconn.1 ?_ ⟨by simpa using hconn.2, by simp, by simp⟩⟩
  · rw [hack]; simpa [hq] using h.delivery
  · rw [hack]; simpa [hq, Client.userPending] using h.delivery

theorem poll (h : c.Inv) (now : ℚ) (received : Option Control) :
    (c.step (.poll now received)).Inv := by
  simp only [Client.step, Event.call]
  rcases pollsterCallback_state now received c with
    ⟨heq, -⟩ | ⟨p, -, -, -, -, -, -, heq⟩ | ⟨p, v, -, hp, ht, -, -, -, hrest⟩
  · rw [heq.1]; exact h
  · rw [heq]; exact h.withAckTime now
  · obtain ⟨hempty, hsend⟩ := h.ackAccepted now hp ht
    rcases hrest with ⟨hq, heq⟩ | ⟨m, rest, hq, heq⟩ <;> rw [heq.1]
    · exact hempty hq
    · exact (hsend m rest hq).sent m

theorem run (h : c.Inv) (now : ℚ) (halted : Bool) (messageId : String) :
    (c.step (.run now halted messageId)).Inv := by
  simp only [Client.step, Event.call, runClient]
  cases halted
  swap
  · simpa using h
  cases hst : c.status with
  | disconnected =>
    obtain ⟨hp, -⟩ := h.disconnected hst
    simp only [Bool.false_eq_true, if_false, PyM.run_bind, PyM.run_pure, PyM.run_get, hst]
    rcases handleStatusDisconnected_state now messageId c with heq | ⟨-, heq⟩ | ⟨-, heq⟩
    · rw [heq.1]; exact h
    · rw [heq.1]
      apply Client.Inv.sent
      refine ⟨?_, fun h' => by simp at h', fun _ => ⟨rfl, _, rfl, rfl, ?_⟩, fun h' => by simp at h'⟩
      · simpa [Client.userPending, hp] using h.delivery
      · simp [handshakeMessage, PyDict.get?_cons]
    · rw [heq]; exact h
  | connected =>
    obtain ⟨hsock, huser, -⟩ := h.connected hst
    simp only [Bool.false_eq_true, if_false, PyM.run_bind, PyM.run_pure, PyM.run_get, hst]
    rcases handleStatusConnected_state now c with heq | ⟨hp, -, heq⟩ | ⟨p, hp, -, heq⟩ | ⟨-, heq⟩
    · rw [heq.1]; exact h
    · rw [heq.1]
      exact ⟨by simpa [Client.closed, Client.userPending, hp] using h.delivery,
        fun _ => ⟨hp, rfl⟩, fun h' => by simp [Client.closed] at h',
        fun h' => by simp [Client.closed] at h'⟩
    · rw [heq.1]
      refine ⟨?_, fun _ => ⟨rfl, rfl⟩, fun h' => by simp [Client.closed] at h',
        fun h' => by simp [Client.closed] at h'⟩
      simpa [Client.closed, Client.userPending, hp, huser p hp] using h.delivery
    · rw [heq]; exact h
  | handshaking =>
    obtain ⟨hsock, p', hp', hh, -⟩ := h.handshaking hst
    simp only [Bool.false_eq_true, if_false, PyM.run_bind, PyM.run_pure, PyM.run_get, hst]
    rcases handleStatusHandshaking_state now c with heq | ⟨p, hp, -, heq⟩ | ⟨-, heq⟩
    · rw [heq.1]; exact h
    · rw [heq.1]
      obtain rfl : p' = p := Option.some.inj (hp'.symm.trans hp)
      refine ⟨?_, fun _ => ⟨rfl, rfl⟩, fun h' => by simp [Client.closed] at h',
        fun h' => by simp [Client.closed] at h'⟩
      simpa [Client.closed, Client.userPending, hp, hh] using h.delivery
    · rw [heq]; exact h

/-- Every event keeps the invariant. -/
theorem step (h : c.Inv) : ∀ e : Event, (c.step e).Inv
  | .queue now freshId control data => h.queue now freshId control data
  | .poll now received => h.poll now received
  | .run now halted messageId => h.run now halted messageId

end Client.Inv

theorem Reachable.inv {clientTag clientAddress : String} {c : Client}
    (h : Reachable clientTag clientAddress c) : c.Inv := by
  induction h with
  | init => exact Client.inv_init _ _
  | step e _ _ ih => exact ih.step e

/-- `close` only shuts the socket. -/
theorem close_state (now : ℚ) (c : Client) :
    resultState ((close now).run c) = if c.dealerSocket.isSome then c.closed now else c := by
  cases h : c.dealerSocket <;> simp [close, disconnect_run, h]

/-- The delivery law: in every reachable state, and after a final `close`,
    the acknowledged user messages, the pending one and the send queue are
    exactly the queued messages, in submission order. -/
theorem resilientClient_delivery_order {clientTag clientAddress : String} {c : Client}
    (h : Reachable clientTag clientAddress c) (now : ℚ) :
    c.acknowledged ++ c.userPending ++ c.sendQueue = c.queued ∧
    (resultState ((close now).run c)).acknowledged ++ (resultState ((close now).run c)).userPending ++
      (resultState ((close now).run c)).sendQueue = (resultState ((close now).run c)).queued := by
  have hd := h.inv.delivery
  refine ⟨hd, ?_⟩
  rw [close_state]
  split
  · simpa [Client.closed, Client.userPending] using hd
  · exact hd

/-- A message queued while disconnected, the handshake a minute later, and
    its ack: the message is then the pending one. -/
def handshakeRun : Client :=
  (((Client.init "client" "tcp://127.0.0.1:8900").step
    (.queue 0 "m1" [("message-type", .str "ping")] .none)).step
    (.run 60 false "h1")).step (.poll 61 (some [("message-id", .str "h1")]))

theorem handshakeRun_delivery_order :
    handshakeRun.acknowledged ++ handshakeRun.userPending ++ handshakeRun.sendQueue =
      handshakeRun.queued ∧
    (resultState ((close 62).run handshakeRun)).acknowledged ++
      (resultState ((close 62).run handshakeRun)).userPending ++
      (resultState ((close 62).run handshakeRun)).sendQueue =
      (resultState ((close 62).run handshakeRun)).queued :=
  @resilientClient_delivery_order "client" "tcp://127.0.0.1:8900" _
    (.step (.poll 61 (some [("message-id", .str "h1")]))
      (.step (.run 60 false "h1") (.step (.queue 0 "m1" [("message-type", .str "ping")] .none)
        .init trivial) trivial)
      (show Option.isSome _ = true by with_unfolding_all decide)) 62

example : handshakeRun.status = .connected ∧ handshakeRun.userPending.length = 1 := by
  with_unfolding_all decide

end Transport
end NimbusIo
