/-
  NimbusIo.Transport.Progress

  Progress of the resilient client: it never deadlocks.  From every
  reachable state whose queued messages are typed, the timer task firing
  once and a server that answers the message in the pending slot bring the
  client to a connected, idle state in which every message queued so far
  is acknowledged: one ack per queued message, plus at most the timer run
  that opens the socket and the ack of its handshake.

  The run is built one ack at a time.  An ack of the pending message leaves
  the client connected and makes the head of the send queue pending
  (`Client.Safe.ack_pending`); on a connected client this is repeated once
  per message left (`Client.Safe.drain_connected`, by induction on that
  count).  A handshaking client needs the ack of its handshake first, and a
  disconnected one the timer run that sends it (`step_run_disconnected`).
-/
import NimbusIo.Transport.InFlight
import NimbusIo.Transport.Channel

namespace NimbusIo
namespace Transport

-- ============================================================================
-- Runs against a responsive server
-- ============================================================================

/-- The ack the server sends for a message: its `message-id`. -/
def ackFor (messageId : Value) : Control := [("message-id", messageId)]

/-- A run against a responsive server: the timer task fires, unhalted, and
    the server answers the message in the pending slot by its `message-id`. -/
inductive Client.Served : Client → List Event → Client → Prop where
  | nil (c : Client) : Client.Served c [] c
  | run {c c' : Client} {es : List Event} (now : ℚ) (messageId : String) :
      Client.Served (c.step (.run now false messageId)) es c' →
      Client.Served c (.run now false messageId :: es) c'
  | ack {c c' : Client} {es : List Event} {p : Pending} {v : Value} (now : ℚ) :
      c.pendingMessage = some p → p.message.control.get? "message-id" = some v →
      Client.Served (c.step (.poll now (some (ackFor v)))) es c' →
      Client.Served c (.poll now (some (ackFor v)) :: es) c'

/-- A client with a pending message has its socket open. -/
theorem Client.Inv.socket_of_pending {c : Client} (h : c.Inv) {p : Pending}
    (hp : c.pendingMessage = some p) : c.dealerSocket.isSome := by
  cases hst : c.status with
  | disconnected => simp [(h.disconnected hst).1] at hp
  | handshaking => exact (h.handshaking hst).1
  | connected => exact (h.connected hst).1

/-- A run from `c`: the events in order, each enabled where it happens. -/
inductive Client.Run : Client → List Event → Client → Prop where
  | nil (c : Client) : Client.Run c [] c
  | cons {c c' : Client} {e : Event} {es : List Event} :
      e.Enabled c → Client.Run (c.step e) es c' → Client.Run c (e :: es) c'

theorem Client.Run.reachable {clientTag clientAddress : String} {c c' : Client} {es : List Event}
    (hr : c.Run es c') (h : Reachable clientTag clientAddress c) :
    Reachable clientTag clientAddress c' := by
  induction hr with
  | nil => exact h
  | cons he _ ih => exact ih (.step _ h he)

/-- A served run is a run of the client: the socket is open at every ack. -/
theorem Client.Served.toRun {c c' : Client} {es : List Event} (hs : c.Served es c') (h : c.Inv) :
    c.Run es c' := by
  induction hs with
  | nil => exact .nil _
  | run now messageId _ ih => exact .cons trivial (ih (h.step _))
  | ack now hp _ _ ih => exact .cons (h.socket_of_pending hp) (ih (h.step _))

/-- A connected client is idle, or has a user message pending. -/
theorem Client.Inv.connected_cases {c : Client} (h : c.Inv) (hst : c.status = .connected) :
    (c.pendingMessage = none ∧ c.sendQueue = []) ∨
    ∃ p, c.pendingMessage = some p ∧ c.userPending = [p.message] := by
  rcases hp : c.pendingMessage with _ | p
  · exact .inl ⟨rfl, (h.connected hst).2.2 hp⟩
  · exact .inr ⟨p, rfl, by rw [Client.userPending_some hp, (h.connected hst).2.1 p hp]; rfl⟩

/-- `c'` is connected and idle, and has queued what `c` had. -/
structure Client.Drained (c c' : Client) : Prop where
  connected : c'.status = .connected
  idle : c'.pendingMessage = none
  empty : c'.sendQueue = []
  queued : c'.queued = c.queued

/-- Draining after a step that queued nothing drains from before it. -/
theorem Client.Drained.back {c c₁ c' : Client} (hd : c₁.Drained c') (hq : c₁.queued = c.queued) :
    c.Drained c' :=
  ⟨hd.connected, hd.idle, hd.empty, hd.queued.trans hq⟩

-- ============================================================================
-- One step
-- ============================================================================

/-- The ack of the pending message, once its `message-id` and `message-type`
    are read and the handshake check passes, is accepted: the next queued
    message, if any, becomes pending. -/
theorem step_ackFor {c : Client} {p : Pending} {v t : Value} (now : ℚ)
    (hp : c.pendingMessage = some p) (hid : p.message.control.get? "message-id" = some v)
    (ht : p.message.control.get? "message-type" = some t)
    (hst : t = .str "resilient-server-handshake" → c.status = .handshaking) :
    c.step (.poll now (some (ackFor v))) =
      match c.sendQueue with
      | [] => c.ackAccepted now p t
      | m :: rest => Client.sent { c.ackAccepted now p t with
          sendQueue := rest, pendingMessage := some ⟨m, now, false⟩ } m := by
  have hack : (ackFor v).get? "message-id" = p.message.control.get? "message-id" := by
    simp [ackFor, hid, PyDict.get?_cons]
  show resultState ((pollsterCallback now (some (ackFor v))).run c) = _
  rcases pollsterCallback_state now (some (ackFor v)) c with
    ⟨-, hnone⟩ | ⟨p', -, hp', -, -, ht', hst', -⟩ | ⟨p', t', -, hp', ht', -, -, -, hrest⟩
  · rcases hnone _ p rfl hp hack with h | h <;> simp [h] at hid ht
  · obtain rfl := Option.some.inj (hp.symm.trans hp')
    exact absurd (hst (Option.some.inj (ht.symm.trans ht'))) hst'
  · obtain rfl := Option.some.inj (hp.symm.trans hp')
    obtain rfl := Option.some.inj (ht.symm.trans ht')
    rcases hrest with ⟨hq, heq⟩ | ⟨m, rest, hq, heq⟩ <;> rw [heq.1, hq]

/-- The timer run a retry interval after a disconnection opens the socket
    and sends the handshake. -/
theorem step_run_disconnected {c : Client} (h : c.Inv) (hst : c.status = .disconnected)
    (messageId : String) :
    c.step (.run (c.statusTime + handshakeRetryInterval) false messageId) =
      Client.sent { c with
        dealerSocket := some [],
        pendingMessage := some ⟨handshakeMessage c messageId, c.statusTime + handshakeRetryInterval, true⟩,
        status := .handshaking, statusTime := c.statusTime + handshakeRetryInterval }
        (handshakeMessage c messageId) := by
  have hsock := (h.disconnected hst).2
  simp only [Client.step, Event.call, runClient, handleStatusDisconnected, Bool.false_eq_true,
    if_false, PyM.run_bind, PyM.run_pure, PyM.run_get, hst, add_sub_cancel_left, lt_irrefl,
    hsock, Option.isNone_none, PyM.run_pyAssert_true, PyM.run_set]
  exact (sendMessage_state _ _).1

namespace Client.Safe

variable {c : Client}

/-- The ack of the pending message leaves the client connected, with the
    head of the send queue, if any, as its pending user message. -/
theorem ack_pending (hs : c.Safe) (ht : ∀ m ∈ c.queued, m.userTyped) {p : Pending}
    (hp : c.pendingMessage = some p) (now : ℚ) :
    ∃ v, p.message.control.get? "message-id" = some v ∧
      (c.step (.poll now (some (ackFor v)))).status = .connected ∧
      (c.step (.poll now (some (ackFor v)))).userPending ++
        (c.step (.poll now (some (ackFor v)))).sendQueue = c.sendQueue := by
  obtain ⟨v, hid⟩ := Option.isSome_iff_exists.mp (hs.pending_messageId hp)
  obtain ⟨t, htype, hth⟩ := hs.pending_type ht hp
  have hconn : (if t = .str "resilient-server-handshake" then Status.connected else c.status) =
      .connected := by
    split_ifs with hnh
    · rfl
    cases hst : c.status with
    | disconnected => simp [(hs.disconnected hst).1] at hp
    | handshaking =>
      obtain ⟨-, p', hp', -, ht'⟩ := hs.handshaking hst
      obtain rfl := Option.some.inj (hp.symm.trans hp')
      exact absurd (Option.some.inj (htype.symm.trans ht')) hnh
    | connected => rfl
  refine ⟨v, hid, ?_⟩
  rw [step_ackFor now hp hid htype hth]
  cases hq : c.sendQueue <;> simp [hconn, hq, Client.userPending]

/-- A connected client with `n` user messages left acknowledges them all
    in a served run of `n` acks. -/
theorem drain_connected (now : ℚ) (n : ℕ) (hs : c.Safe) (ht : ∀ m ∈ c.queued, m.userTyped)
    (hst : c.status = .connected) (hn : c.userPending.length + c.sendQueue.length = n) :
    ∃ es c', c.Served es c' ∧ es.length = n ∧ c.Drained c' := by
  induction n generalizing c with
  | zero =>
    rcases hs.connected_cases hst with ⟨hp, hq⟩ | ⟨p, -, hu⟩
    · exact ⟨[], c, .nil c, rfl, hst, hp, hq, rfl⟩
    · simp [hu] at hn
  | succ n ih =>
    rcases hs.connected_cases hst with ⟨hp, hq⟩ | ⟨p, hp, hu⟩
    · simp [hp, hq] at hn
    obtain ⟨v, hid, hst₁, hd₁⟩ := hs.ack_pending ht hp now
    obtain ⟨hs₁, hq₁, -⟩ := hs.poll now (some (ackFor v))
    have hn₁ : (c.step (.poll now (some (ackFor v)))).userPending.length +
        (c.step (.poll now (some (ackFor v)))).sendQueue.length = n := by
      rw [← List.length_append, hd₁]
      simpa [hu, Nat.add_comm] using hn
    obtain ⟨es, c', hr, hl, hc'⟩ := ih hs₁ (hq₁ ▸ ht) hst₁ hn₁
    exact ⟨_ :: es, c', .ack now hp hid hr, by simp [hl], hc'.back hq₁⟩

/-- A client that is not disconnected acknowledges every message left in a
    served run of at most one ack more than its send queue. -/
theorem drain_open (now : ℚ) (hs : c.Safe) (ht : ∀ m ∈ c.queued, m.userTyped)
    (hst : c.status ≠ .disconnected) :
    ∃ es c', c.Served es c' ∧ es.length ≤ c.sendQueue.length + 1 ∧ c.Drained c' := by
  cases hc : c.status with
  | disconnected => exact absurd hc hst
  | connected =>
    obtain ⟨es, c', hr, hl, hc'⟩ := hs.drain_connected now _ ht hc rfl
    refine ⟨es, c', hr, ?_, hc'⟩
    rcases hs.connected_cases hc with ⟨hp, -⟩ | ⟨p, -, hu⟩
    · simp [hl, hp]
    · simp [hl, hu, Nat.add_comm]
  | handshaking =>
    obtain ⟨-, p, hp, -, -⟩ := hs.handshaking hc
    obtain ⟨v, hid, hst₁, hd₁⟩ := hs.ack_pending ht hp now
    obtain ⟨hs₁, hq₁, -⟩ := hs.poll now (some (ackFor v))
    obtain ⟨es, c', hr, hl, hc'⟩ := hs₁.drain_connected now _ (hq₁ ▸ ht) hst₁ rfl
    refine ⟨_ :: es, c', .ack now hp hid hr, ?_, hc'.back hq₁⟩
    simp only [List.length_cons, hl, ← hd₁, List.length_append, le_refl]

end Client.Safe

-- ============================================================================
-- Every reachable client drains
-- ============================================================================

/-- The resilient client never deadlocks: from every reachable state whose
    queued messages are typed, a served run of at most two events more than
    the send queue holds (the timer run that sends the handshake, the ack
    of the handshake, then one ack per message) reaches a connected, idle
    client that has acknowledged every message queued so far, in order. -/
theorem resilientClient_drains {clientTag clientAddress : String} {c : Client}
    (h : Reachable clientTag clientAddress c) (ht : ∀ m ∈ c.queued, m.userTyped) :
    ∃ es c', c.Served es c' ∧ Reachable clientTag clientAddress c' ∧
      es.length ≤ c.sendQueue.length + 2 ∧
      c'.status = .connected ∧ c'.pendingMessage = none ∧ c'.sendQueue = [] ∧
      c'.acknowledged = c.queued := by
  obtain ⟨inFlight, htr⟩ := h.traced
  have hs := htr.safe.1
  /- The timer fires a retry interval after the last status change; the
     server answers at that time too. -/
  let now := c.statusTime + handshakeRetryInterval
  have hrun : ∃ es c', c.Served es c' ∧ es.length ≤ c.sendQueue.length + 2 ∧ c.Drained c' := by
    by_cases hst : c.status = .disconnected
    · obtain ⟨hs₀, hq₀, -⟩ := hs.run now false "handshake"
      have hc₀ := step_run_disconnected hs.toInv hst "handshake"
      obtain ⟨es, c', hr, hl, hc'⟩ := hs₀.drain_open now (hq₀ ▸ ht) (by rw [hc₀]; simp)
      refine ⟨_ :: es, c', .run now "handshake" hr, ?_, hc'.back hq₀⟩
      simpa [hc₀] using hl
    · obtain ⟨es, c', hr, hl, hc'⟩ := hs.drain_open now ht hst
      exact ⟨es, c', hr, by omega, hc'⟩
  obtain ⟨es, c', hr, hl, ⟨hst', hp', hq', hqd⟩⟩ := hrun
  have hr' := (hr.toRun h.inv).reachable h
  refine ⟨es, c', hr, hr', hl, hst', hp', hq', ?_⟩
  simpa [Client.userPending_none hp', hq', hqd] using hr'.inv.delivery

/-- Two messages queued before the client ever connected. -/
def queuedTwice : Client :=
  ((Client.init "client" "tcp://127.0.0.1:8900").step
    (.queue 0 "m1" [("message-type", .str "ping")] .none)).step
    (.queue 1 "m2" [("message-type", .str "ping")] .none)

theorem queuedTwice_drains :
    (∀ m ∈ queuedTwice.queued, m.userTyped) ∧
    ∃ es c', queuedTwice.Served es c' ∧ Reachable "client" "tcp://127.0.0.1:8900" c' ∧
      es.length ≤ queuedTwice.sendQueue.length + 2 ∧
      c'.status = .connected ∧ c'.pendingMessage = none ∧ c'.sendQueue = [] ∧
      c'.acknowledged = queuedTwice.queued :=
  have ht : ∀ m ∈ queuedTwice.queued, m.userTyped := by with_unfolding_all decide
  ⟨ht, resilientClient_drains (.step _ (.step _ .init trivial) trivial) ht⟩

example : ((((queuedTwice.step (.run 60 false "h")).step (.poll 60 (some (ackFor (.str "h"))))).step
    (.poll 60 (some (ackFor (.str "m1"))))).step
    (.poll 60 (some (ackFor (.str "m2"))))).acknowledged = queuedTwice.queued := by
  with_unfolding_all decide

-- ============================================================================
-- A message without a message-type
-- ============================================================================

/-- A message queued without a `message-type` blocks the client for good:
    the ack of it raises `KeyError` before the message is released, and a
    timeout only puts it back at the head of the send queue.  From every
    reachable state in which it is the oldest message not yet acknowledged,
    every run, whatever it queues, acknowledges nothing more and leaves it
    the oldest. -/
theorem untyped_message_blocks {clientTag clientAddress : String} {c c' : Client} {es : List Event}
    (h : Reachable clientTag clientAddress c) (hr : c.Run es c') {m : Message} {rest : List Message}
    (hm : c.userPending ++ c.sendQueue = m :: rest) (hmt : m.control.get? "message-type" = none) :
    c'.acknowledged = c.acknowledged ∧ ∃ rest', c'.userPending ++ c'.sendQueue = m :: rest' := by
  induction hr generalizing rest with
  | nil => exact ⟨rfl, rest, hm⟩
  | @cons c c' e es he _ ih =>
    obtain ⟨⟨xs, hxs⟩, hack⟩ := step_books c e
    have hack : (c.step e).acknowledged = c.acknowledged := by
      rcases hack with hack | ⟨p, t, hp, hh, ht, -⟩
      · exact hack
      · rw [Client.userPending_some hp, hh, if_neg Bool.false_ne_true, List.singleton_append,
          List.cons.injEq] at hm
        rw [hm.1, hmt] at ht
        cases ht
    have hd := (Reachable.step e h he).inv.delivery
    rw [hack, hxs, ← h.inv.delivery] at hd
    simp only [List.append_assoc] at hd
    rw [← List.append_assoc c.userPending, hm, List.cons_append] at hd
    obtain ⟨ha, rest', hrest'⟩ := ih (.step e h he) (List.append_cancel_left hd)
    exact ⟨ha.trans hack, rest', hrest'⟩

/-- A message queued with no `message-type`. -/
def untypedQueued : Client :=
  (Client.init "client" "tcp://127.0.0.1:8900").step (.queue 0 "m1" [("request", .str "stat")] .none)

/-- The handshake and its ack, the ack of the message, and the timer ten
    minutes on. -/
def blockedRun : List Event :=
  [.run 60 false "h1", .poll 61 (some (ackFor (.str "h1"))), .poll 62 (some (ackFor (.str "m1"))),
    .run 700 false "h2"]

theorem untypedQueued_stays_blocked :
    (blockedRun.foldl Client.step untypedQueued).acknowledged = untypedQueued.acknowledged ∧
    ∃ rest', (blockedRun.foldl Client.step untypedQueued).userPending ++
      (blockedRun.foldl Client.step untypedQueued).sendQueue =
        formatMessage "m1" [("request", .str "stat")] .none :: rest' :=
  @untyped_message_blocks "client" "tcp://127.0.0.1:8900" untypedQueued _ blockedRun
    (.step (.queue 0 "m1" [("request", .str "stat")] .none) .init trivial)
    (.cons (e := .run 60 false "h1") trivial
      (.cons (e := .poll 61 (some (ackFor (.str "h1"))))
        (show Option.isSome _ = true by with_unfolding_all decide)
      (.cons (e := .poll 62 (some (ackFor (.str "m1"))))
        (show Option.isSome _ = true by with_unfolding_all decide)
      (.cons (e := .run 700 false "h2") trivial (.nil _)))))
    _ [] (by with_unfolding_all decide) (by with_unfolding_all decide)

example : (blockedRun.foldl Client.step untypedQueued).status = .disconnected ∧
    (blockedRun.foldl Client.step untypedQueued).sendQueue.length = 1 := by
  with_unfolding_all decide

end Transport
end NimbusIo
