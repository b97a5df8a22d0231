/-
  NimbusIo.Transport.Channel

  What the resilient client is for: a FIFO channel.  Messages are accepted
  at the tail and delivered from the head, each once, so the messages
  delivered are, in order, a prefix of those accepted (`Channel.run_fifo`).

  The client refines it.  Its channel is the acknowledged messages, then
  the pending user message and the send queue; `queue_message_for_send`
  accepts the formatted message at the tail whether it is sent at once or
  queued, an ack delivers at most the head, and the timer task, with its
  timeouts, disconnections and handshakes, leaves the channel as it was.
  Every reachable client stands for the channel of an abstract run that
  accepted exactly the messages queued.
-/
import NimbusIo.Transport.Delivery

namespace NimbusIo
namespace Transport

-- ============================================================================
-- The abstract channel
-- ============================================================================

/-- A FIFO channel: the messages delivered, in order, and those accepted
    but not yet delivered, oldest first. -/
structure Channel where
  delivered : List Message
  inTransit : List Message

/-- Accept a message at the tail. -/
def Channel.send (ch : Channel) (m : Message) : Channel := ⟨ch.delivered, ch.inTransit ++ [m]⟩

/-- Deliver the oldest message in transit, if any. -/
def Channel.deliver (ch : Channel) : Channel :=
  match ch.inTransit with
  | [] => ch
  | m :: rest => ⟨ch.delivered ++ [m], rest⟩

/-- An operation on the channel. -/
inductive Channel.Op where
  | send (m : Message)
  | deliver

def Channel.apply (ch : Channel) : Channel.Op → Channel
  | .send m => ch.send m
  | .deliver => ch.deliver

/-- The message an operation accepts. -/
def Channel.Op.sent? : Channel.Op → Option Message
  | .send m => some m
  | .deliver => none

/-- The channel after `ops`, from the empty one. -/
def Channel.run (ops : List Channel.Op) : Channel := ops.foldl Channel.apply ⟨[], []⟩

/-- The messages `ops` accepts, in order. -/
def Channel.sends (ops : List Channel.Op) : List Message := ops.filterMap Channel.Op.sent?

/-- An operation appends what it accepts to the delivered messages followed
    by those in transit. -/
theorem Channel.apply_messages (ch : Channel) (op : Channel.Op) :
    (ch.apply op).delivered ++ (ch.apply op).inTransit =
      ch.delivered ++ ch.inTransit ++ op.sent?.toList := by
  cases op with
  | send m => simp [Channel.apply, Channel.send, Channel.Op.sent?]
  | deliver =>
    simp only [Channel.apply, Channel.deliver, Channel.Op.sent?, Option.toList_none, List.append_nil]
    split <;> simp_all

theorem Channel.sends_append_singleton (ops : List Channel.Op) (op : Channel.Op) :
    Channel.sends (ops ++ [op]) = Channel.sends ops ++ op.sent?.toList := by
  rw [Channel.sends, List.filterMap_append]
  cases op <;> rfl

/-- The channel is FIFO: over any run, the messages delivered followed by
    those in transit are the messages accepted, in order. -/
theorem Channel.run_fifo (ops : List Channel.Op) :
    (Channel.run ops).delivered ++ (Channel.run ops).inTransit = Channel.sends ops := by
  induction ops using List.reverseRecOn with
  | nil => rfl
  | append_singleton ops op ih =>
    rw [Channel.run, List.foldl_append, List.foldl_cons, List.foldl_nil, Channel.apply_messages,
      ← Channel.run, ih, Channel.sends_append_singleton]

-- ============================================================================
-- What one event does to the books
-- ============================================================================

/-- `queue_message_for_send` queues the formatted message and acknowledges
    nothing. -/
theorem step_queue_books (c : Client) (now : ℚ) (freshId : String) (control : Control) (data : Body) :
    (c.step (.queue now freshId control data)).queued = c.queued ++ [formatMessage freshId control data] ∧
    (c.step (.queue now freshId control data)).acknowledged = c.acknowledged := by
  simp only [Client.step, Event.call]
  rcases queueMessageForSend_state now freshId control data c with ⟨-, -, heq⟩ | ⟨-, heq⟩ <;>
    rw [heq.1] <;> exact ⟨rfl, rfl⟩

/-- The timer task neither queues nor acknowledges a message. -/
theorem step_run_books (c : Client) (now : ℚ) (halted : Bool) (messageId : String) :
    (c.step (.run now halted messageId)).queued = c.queued ∧
    (c.step (.run now halted messageId)).acknowledged = c.acknowledged := by
  simp only [Client.step, Event.call, runClient]
  cases halted
  swap
  · simp
  cases hst : c.status <;>
    simp only [Bool.false_eq_true, if_false, PyM.run_bind, PyM.run_pure, PyM.run_get, hst]
  case disconnected =>
    rcases handleStatusDisconnected_state now messageId c with heq | ⟨-, heq⟩ | ⟨-, heq⟩ <;>
      (first | rw [heq.1] | rw [heq]) <;> exact ⟨rfl, rfl⟩
  case handshaking =>
    rcases handleStatusHandshaking_state now c with heq | ⟨-, -, -, heq⟩ | ⟨-, heq⟩ <;>
      (first | rw [heq.1] | rw [heq]) <;> exact ⟨rfl, rfl⟩
  case connected =>
    rcases handleStatusConnected_state now c with heq | ⟨-, -, heq⟩ | ⟨p, -, -, heq⟩ | ⟨-, heq⟩ <;>
      (first | rw [heq.1] | rw [heq]) <;> exact ⟨rfl, rfl⟩

/-- `_pollster_callback` queues nothing, and acknowledges a message only as
    the pending user message, once its `message-type` has been read. -/
theorem step_poll_books (c : Client) (now : ℚ) (received : Option Control) :
    (c.step (.poll now received)).queued = c.queued ∧
    ((c.step (.poll now received)).acknowledged = c.acknowledged ∨
      ∃ p t, c.pendingMessage = some p ∧ p.handshake = false ∧
        p.message.control.get? "message-type" = some t ∧
        (c.step (.poll now received)).acknowledged = c.acknowledged ++ [p.message]) := by
  simp only [Client.step, Event.call]
  rcases pollsterCallback_state now received c with
    ⟨heq, -⟩ | ⟨-, -, -, -, -, -, -, heq⟩ | ⟨p, t, -, hp, ht, -, -, -, hrest⟩
  · rw [heq.1]; exact ⟨rfl, .inl rfl⟩
  · rw [heq]; exact ⟨rfl, .inl rfl⟩
  · have hack : (resultState ((pollsterCallback now received).run c)).queued = c.queued ∧
        (resultState ((pollsterCallback now received).run c)).acknowledged =
          (c.ackAccepted now p t).acknowledged := by
      rcases hrest with ⟨-, heq⟩ | ⟨m, rest, -, heq⟩ <;> rw [heq.1] <;> simp
    refine ⟨hack.1, ?_⟩
    rw [hack.2, Client.ackAccepted_acknowledged]
    cases hh : p.handshake
    · exact .inr ⟨p, t, hp, hh, ht, if_neg Bool.false_ne_true⟩
    · exact .inl (if_pos rfl)

/-- What one event does to the books: the queued messages only grow at
    the end, and a message is acknowledged only as the pending user
    message, once its `message-type` has been read. -/
theorem step_books (c : Client) (e : Event) :
    (∃ xs, (c.step e).queued = c.queued ++ xs) ∧
    ((c.step e).acknowledged = c.acknowledged ∨
      ∃ p t, c.pendingMessage = some p ∧ p.handshake = false ∧
        p.message.control.get? "message-type" = some t ∧
        (c.step e).acknowledged = c.acknowledged ++ [p.message]) := by
  cases e with
  | queue now freshId control data =>
    obtain ⟨hq, ha⟩ := step_queue_books c now freshId control data
    exact ⟨⟨_, hq⟩, .inl ha⟩
  | run now halted messageId =>
    obtain ⟨hq, ha⟩ := step_run_books c now halted messageId
    exact ⟨⟨[], by rw [hq, List.append_nil]⟩, .inl ha⟩
  | poll now received =>
    obtain ⟨hq, ha⟩ := step_poll_books c now received
    exact ⟨⟨[], by rw [hq, List.append_nil]⟩, ha⟩

-- ============================================================================
-- The client refines the channel
-- ============================================================================

/-- The channel a client stands for: the acknowledged messages, then the
    pending user message and the send queue. -/
def Client.channel (c : Client) : Channel := ⟨c.acknowledged, c.userPending ++ c.sendQueue⟩

/-- The delivery law, read on the channel. -/
theorem Client.Inv.channel_messages {c : Client} (h : c.Inv) :
    c.channel.delivered ++ c.channel.inTransit = c.queued := by
  simpa [Client.channel, List.append_assoc] using h.delivery

/-- A step that acknowledges nothing and queues `xs` adds `xs` to the
    messages in transit. -/
theorem channel_of_books {c c' : Client} (h : c.Inv) (h' : c'.Inv) {xs : List Message}
    (hq : c'.queued = c.queued ++ xs) (ha : c'.acknowledged = c.acknowledged) :
    c'.channel = ⟨c.channel.delivered, c.channel.inTransit ++ xs⟩ := by
  have hm := h'.channel_messages
  rw [hq, ← h.channel_messages, List.append_assoc] at hm
  have hd : c'.channel.delivered = c.channel.delivered := ha
  rw [hd] at hm
  exact congrArg₂ Channel.mk hd (List.append_cancel_left hm)

/-- A step that queues nothing and acknowledges the pending user message
    delivers the head of the channel. -/
theorem channel_of_delivery {c c' : Client} (h : c.Inv) (h' : c'.Inv) {p : Pending}
    (hp : c.pendingMessage = some p) (hh : p.handshake = false) (hq : c'.queued = c.queued)
    (ha : c'.acknowledged = c.acknowledged ++ [p.message]) : c'.channel = c.channel.deliver := by
  have ht : c.channel.inTransit = p.message :: c.sendQueue := by
    simp [Client.channel, Client.userPending_some hp, hh]
  have hm := h'.channel_messages
  rw [hq, ← h.channel_messages, ht] at hm
  have hd : c'.channel.delivered = c.channel.delivered ++ [p.message] := ha
  rw [hd, List.append_assoc, List.singleton_append] at hm
  rw [Channel.deliver, ht]
  exact congrArg₂ Channel.mk hd (List.cons.inj (List.append_cancel_left hm)).2

namespace Client.Inv

variable {c : Client}

theorem channel_queue (h : c.Inv) (now : ℚ) (freshId : String) (control : Control) (data : Body) :
    (c.step (.queue now freshId control data)).channel =
      c.channel.send (formatMessage freshId control data) :=
  channel_of_books h (h.step _) (step_queue_books c now freshId control data).1
    (step_queue_books c now freshId control data).2

theorem channel_run (h : c.Inv) (now : ℚ) (halted : Bool) (messageId : String) :
    (c.step (.run now halted messageId)).channel = c.channel := by
  obtain ⟨hq, ha⟩ := step_run_books c now halted messageId
  simpa using channel_of_books h (h.step _) (hq.trans (List.append_nil _).symm) ha

theorem channel_poll (h : c.Inv) (now : ℚ) (received : Option Control) :
    (c.step (.poll now received)).channel = c.channel ∨
      (c.step (.poll now received)).channel = c.channel.deliver := by
  obtain ⟨hq, ha | ⟨p, t, hp, hh, -, ha⟩⟩ := step_poll_books c now received
  · exact .inl (by simpa using channel_of_books h (h.step _) (hq.trans (List.append_nil _).symm) ha)
  · exact .inr (channel_of_delivery h (h.step _) hp hh hq ha)

end Client.Inv

/-- The resilient client refines a FIFO channel.  Every reachable client
    stands for the channel of an abstract run that accepted exactly the
    messages queued; from it, `queue_message_for_send` accepts the
    formatted message at the tail, an ack delivers the head or changes
    nothing, and the timer task never changes the channel. -/
theorem resilientClient_refines_channel {clientTag clientAddress : String} {c : Client}
    (h : Reachable clientTag clientAddress c) :
    (∃ ops, Channel.run ops = c.channel ∧ Channel.sends ops = c.queued) ∧
    (∀ now freshId control data, (c.step (.queue now freshId control data)).channel =
      c.channel.send (formatMessage freshId control data)) ∧
    (∀ now received, (c.step (.poll now received)).channel = c.channel ∨
      (c.step (.poll now received)).channel = c.channel.deliver) ∧
    (∀ now halted messageId, (c.step (.run now halted messageId)).channel = c.channel) := by
  refine ⟨?_, h.inv.channel_queue, h.inv.channel_poll, h.inv.channel_run⟩
  induction h with
  | init => exact ⟨[], rfl, rfl⟩
  | @step c e h _ ih =>
    obtain ⟨ops, hrun, hsends⟩ := ih
    have hops : ∀ op, Channel.run (ops ++ [op]) = (Channel.run ops).apply op := fun op => by
      simp [Channel.run, List.foldl_append]
    cases e with
    | queue now freshId control data =>
      refine ⟨ops ++ [.send (formatMessage freshId control data)], ?_, ?_⟩
      · rw [hops, hrun, h.inv.channel_queue]; rfl
      · rw [Channel.sends_append_singleton, hsends, (step_queue_books c now freshId control data).1]
        rfl
    | poll now received =>
      have hq : Channel.sends ops = (c.step (.poll now received)).queued := by
        rw [hsends, (step_poll_books c now received).1]
      rcases h.inv.channel_poll now received with hc | hc
      · exact ⟨ops, hrun.trans hc.symm, hq⟩
      · refine ⟨ops ++ [.deliver], by rw [hops, hrun, hc]; rfl, ?_⟩
        rw [Channel.sends_append_singleton, hq]
        exact List.append_nil _
    | run now halted messageId =>
      exact ⟨ops, hrun.trans (h.inv.channel_run now halted messageId).symm,
        hsends.trans (step_run_books c now halted messageId).1.symm⟩

/-- The run of `Delivery` refines the channel. -/
theorem handshakeRun_refines_channel :
    (∃ ops, Channel.run ops = handshakeRun.channel ∧ Channel.sends ops = handshakeRun.queued) ∧
    (∀ now freshId control data, (handshakeRun.step (.queue now freshId control data)).channel =
      handshakeRun.channel.send (formatMessage freshId control data)) ∧
    (∀ now received, (handshakeRun.step (.poll now received)).channel = handshakeRun.channel ∨
      (handshakeRun.step (.poll now received)).channel = handshakeRun.channel.deliver) ∧
    (∀ now halted messageId,
      (handshakeRun.step (.run now halted messageId)).channel = handshakeRun.channel) :=
  @resilientClient_refines_channel "client" "tcp://127.0.0.1:8900" _
    (.step (.poll 61 (some [("message-id", .str "h1")]))
      (.step (.run 60 false "h1") (.step (.queue 0 "m1" [("message-type", .str "ping")] .none)
        .init trivial) trivial)
      (show Option.isSome _ = true by with_unfolding_all decide))

end Transport
end NimbusIo
