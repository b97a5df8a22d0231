/-
  NimbusIo.Transport.InFlight

  What the asserts of `tools/resilient_client.py` rely on, and what the
  server sees of a client.  `_handle_status_disconnected` asserts there is
  no socket, `_disconnect` that there is one, `_handle_status_handshaking`
  that a handshake is pending, and `_pollster_callback` that an ack of
  type `resilient-server-handshake` comes while handshaking.  `Client.Safe`
  strengthens `Client.Inv` (the pending handshake is the one the client
  built, every queued message has a `message-id`) until it is preserved
  by every event, and the first three asserts never fail from it.

  The wire view: `Traced` follows a run with the control frames written on
  the current socket whose ack has not come back.  An ack takes off the
  messages of its `message-id`; a closed socket loses its messages.  These
  are among the pending message on every run, so at most one request is
  in flight, and they are the pending message as long as the client can
  tell its handshake from a user message.  It tells them by `message-type`
  alone: a user message of type `resilient-server-handshake` makes its own
  ack raise `AssertionError` once connected, and stays pending though its
  ack came back and nothing is in flight.
-/
import NimbusIo.Transport.Delivery

namespace NimbusIo
namespace Transport

/-- The control of a frame that opens a message. -/
def Frame.control? : Frame → Option Control
  | .json control _ => some control
  | .bytes .. => none

/-- The messages among `frames`, by their control frames. -/
def controlsOf (frames : List Frame) : List Control := frames.filterMap Frame.control?

/-- What an ack received on the socket takes off the wire: the messages
    of its `message-id`. -/
def ackedBy : Event → List Control → List Control
  | .poll _ (some ack), inFlight =>
    inFlight.filter fun m => m.get? "message-id" != ack.get? "message-id"
  | _, inFlight => inFlight

/-- The messages on the open socket whose ack has not come back, once `e`
    has run: its ack takes off its own, what it wrote is added, and a socket
    it closed takes its messages with it. -/
def inFlightAfter (c : Client) (inFlight : List Control) (e : Event) : List Control :=
  match c.dealerSocket, (c.step e).dealerSocket with
  | _, none => []
  | none, some frames => controlsOf frames
  | some old, some frames => ackedBy e inFlight ++ controlsOf (frames.drop old.length)

/-- A run from `__init__` with the messages in flight on its socket. -/
inductive Traced (clientTag clientAddress : String) : Client → List Control → Prop where
  | init : Traced clientTag clientAddress (Client.init clientTag clientAddress) []
  | step {c : Client} {inFlight : List Control} (e : Event) :
      Traced clientTag clientAddress c inFlight → e.Enabled c →
      Traced clientTag clientAddress (c.step e) (inFlightAfter c inFlight e)

theorem Traced.reachable {clientTag clientAddress : String} {c : Client} {inFlight : List Control}
    (h : Traced clientTag clientAddress c inFlight) : Reachable clientTag clientAddress c := by
  induction h with
  | init => exact .init
  | step e _ he ih => exact .step e ih he

theorem Reachable.traced {clientTag clientAddress : String} {c : Client}
    (h : Reachable clientTag clientAddress c) : ∃ inFlight, Traced clientTag clientAddress c inFlight := by
  induction h with
  | init => exact ⟨_, .init⟩
  | step e _ he ih =>
    obtain ⟨inFlight, ht⟩ := ih
    exact ⟨_, .step e ht he⟩

/-- The control frame of the pending message, as `_send_message` wrote it. -/
def Client.pendingControls (c : Client) : List Control :=
  match c.pendingMessage with
  | some p => [p.message.control.set "client-tag" (.str c.clientTag)]
  | none => []

/-- A message the client tells from its handshake: it has a `message-type`,
    and not the handshake's. -/
def Message.userTyped (m : Message) : Bool :=
  match m.control.get? "message-type" with
  | some t => t != .str "resilient-server-handshake"
  | none => false

-- ============================================================================
-- The wire
-- ============================================================================

theorem controlsOf_append (fs gs : List Frame) : controlsOf (fs ++ gs) = controlsOf fs ++ controlsOf gs :=
  List.filterMap_append fs gs _

theorem controlsOf_partFrames (b : Bytes) (bs : List Bytes) : controlsOf (partFrames b bs) = [] := by
  induction bs generalizing b with
  | nil => rfl
  | cons b' bs ih => simpa [partFrames, controlsOf, Frame.control?] using ih b'

/-- `_send_message` opens one message: its control frame is the only one it writes. -/
theorem controlsOf_framesFor (c : Client) (m : Message) :
    controlsOf (c.framesFor m) = [m.control.set "client-tag" (.str c.clientTag)] := by
  unfold Client.framesFor
  rcases normalizeBody m.body with _ | _ | _ | ⟨b, bs⟩
  · rfl
  · rfl
  · rfl
  · simp only [bodyFrames, List.cons_append, dropLast_map_append_getLast]
    simpa [controlsOf, Frame.control?] using controlsOf_partFrames b bs

theorem inFlightAfter_keep {c : Client} {e : Event} {o n : List Frame} (inFlight : List Control)
    (hs : c.dealerSocket = some o) (hs' : (c.step e).dealerSocket = some (o ++ n)) :
    inFlightAfter c inFlight e = ackedBy e inFlight ++ controlsOf n := by
  simp [inFlightAfter, hs, hs']

/-- A step that writes nothing on the socket it found open. -/
theorem inFlightAfter_same {c : Client} {e : Event} {o : List Frame} (inFlight : List Control)
    (hs : c.dealerSocket = some o) (hs' : (c.step e).dealerSocket = some o) :
    inFlightAfter c inFlight e = ackedBy e inFlight := by
  simpa [controlsOf] using inFlightAfter_keep (n := []) inFlight hs (by simpa using hs')

/-- A step that ends in `_send_message` of `m` on the socket it found open. -/
theorem inFlightAfter_sent {c x : Client} {e : Event} {o : List Frame} (inFlight : List Control)
    (m : Message) (hs : c.dealerSocket = some o) (hx : x.dealerSocket = some o)
    (hstep : c.step e = x.sent m) :
    inFlightAfter c inFlight e = ackedBy e inFlight ++ [m.control.set "client-tag" (.str x.clientTag)] := by
  rw [inFlightAfter_keep (n := x.framesFor m) inFlight hs (by simp [hstep, hx]), controlsOf_framesFor]

/-- A step that opens a socket and sends `m` on it. -/
theorem inFlightAfter_open {c x : Client} {e : Event} (inFlight : List Control) (m : Message)
    (hs : c.dealerSocket = none) (hx : x.dealerSocket = some []) (hstep : c.step e = x.sent m) :
    inFlightAfter c inFlight e = [m.control.set "client-tag" (.str x.clientTag)] := by
  simp [inFlightAfter, hs, hstep, hx, controlsOf_framesFor]

theorem inFlightAfter_close {c : Client} {e : Event} (inFlight : List Control)
    (hs' : (c.step e).dealerSocket = none) : inFlightAfter c inFlight e = [] := by
  unfold inFlightAfter
  split <;> simp_all

/-- An ack only takes messages off the wire. -/
theorem ackedBy_sublist (e : Event) (inFlight : List Control) : List.Sublist (ackedBy e inFlight) inFlight := by
  unfold ackedBy
  split
  · exact List.filter_sublist _
  · exact List.Sublist.refl _

theorem ackedBy_mono (e : Event) {l l' : List Control} (h : List.Sublist l l') :
    List.Sublist (ackedBy e l) (ackedBy e l') := by
  unfold ackedBy
  split
  · exact h.filter _
  · exact h

/-- What is in flight after a step grows with what was in flight before. -/
theorem inFlightAfter_mono (c : Client) (e : Event) {l l' : List Control} (h : List.Sublist l l') :
    List.Sublist (inFlightAfter c l e) (inFlightAfter c l' e) := by
  unfold inFlightAfter
  split
  · exact List.Sublist.refl _
  · exact List.Sublist.refl _
  · exact (ackedBy_mono e h).append (List.Sublist.refl _)

/-- The pending slot holds one message at most. -/
theorem pendingControls_length_le (c : Client) : c.pendingControls.length ≤ 1 := by
  unfold Client.pendingControls
  split <;> simp

/-- An ack of the pending message's id takes it off the wire; any other
    ack takes nothing. -/
theorem ackedBy_pendingControls {c : Client} {p : Pending} (hp : c.pendingMessage = some p)
    (now : ℚ) (ack : Control) :
    ackedBy (.poll now (some ack)) c.pendingControls =
      if ack.get? "message-id" = p.message.control.get? "message-id" then [] else c.pendingControls := by
  have hne : ("message-id" : String) ≠ "client-tag" := by decide
  by_cases h : ack.get? "message-id" = p.message.control.get? "message-id"
  · simp [ackedBy, Client.pendingControls, hp, PyDict.get?_set_ne _ _ hne, h]
  · have h' : p.message.control.get? "message-id" ≠ ack.get? "message-id" := Ne.symm h
    simp [ackedBy, Client.pendingControls, hp, PyDict.get?_set_ne _ _ hne, h, h']

theorem formatMessage_messageId (freshId : String) (control : Control) (data : Body) :
    ((formatMessage freshId control data).control.get? "message-id").isSome := by
  unfold formatMessage
  split
  · rename_i h; exact h
  · simp

-- ============================================================================
-- The invariant
-- ============================================================================

/-- What holds of every reachable client, with `Client.Inv`. -/
structure Client.Safe (c : Client) extends c.Inv : Prop where
  handshake : ∀ p, c.pendingMessage = some p → p.handshake →
    ∃ messageId, p.message = handshakeMessage c messageId
  queuedIds : ∀ m ∈ c.queued, (m.control.get? "message-id").isSome

namespace Client.Safe

variable {c : Client}

/-- A user message in the pending slot leaves nothing to say of the handshake. -/
theorem handshake_of_user {m : Message} {t : ℚ} (hp : c.pendingMessage = some ⟨m, t, false⟩) :
    ∀ p, c.pendingMessage = some p → p.handshake → ∃ messageId, p.message = handshakeMessage c messageId := by
  intro p hp' hh
  rw [hp] at hp'
  cases hp'
  simp at hh

theorem init (clientTag clientAddress : String) : (Client.init clientTag clientAddress).Safe where
  toInv := Client.inv_init clientTag clientAddress
  handshake _ h := nomatch h
  queuedIds _ h := nomatch h

theorem socket_none_iff (h : c.Safe) : c.status = .disconnected ↔ c.dealerSocket = none := by
  cases hst : c.status with
  | disconnected => simpa using (h.disconnected hst).2
  | handshaking => simpa [Option.isSome_iff_ne_none] using (h.handshaking hst).1
  | connected => simpa [Option.isSome_iff_ne_none] using (h.connected hst).1

theorem pendingControls_of_none (h : c.Safe) (hs : c.dealerSocket = none) : c.pendingControls = [] := by
  simp [Client.pendingControls, (h.disconnected (h.socket_none_iff.mpr hs)).1]

/-- A user message in the pending slot is one of the queued ones. -/
theorem pending_queued (h : c.Safe) {p : Pending} (hp : c.pendingMessage = some p)
    (hh : p.handshake = false) : p.message ∈ c.queued := by
  rw [← h.delivery, Client.userPending_some hp, hh]
  simp

theorem pending_messageId (h : c.Safe) {p : Pending} (hp : c.pendingMessage = some p) :
    (p.message.control.get? "message-id").isSome := by
  cases hh : p.handshake
  · exact h.queuedIds _ (h.pending_queued hp hh)
  · obtain ⟨messageId, hm⟩ := h.handshake p hp hh
    simp [hm, handshakeMessage, PyDict.get?_cons]

/-- With typed user messages, the pending message has a `message-type`,
    the handshake's exactly when it is the client's own handshake. -/
theorem pending_type (h : c.Safe) (ht : ∀ m ∈ c.queued, m.userTyped) {p : Pending}
    (hp : c.pendingMessage = some p) :
    ∃ v, p.message.control.get? "message-type" = some v ∧
      (v = .str "resilient-server-handshake" → c.status = .handshaking) := by
  cases hh : p.handshake
  · have := ht _ (h.pending_queued hp hh)
    unfold Message.userTyped at this
    split at this
    · exact ⟨_, ‹_›, fun hv => by simp_all⟩
    · exact absurd this Bool.false_ne_true
  · obtain ⟨messageId, hm⟩ := h.handshake p hp hh
    refine ⟨.str "resilient-server-handshake", by simp [hm, handshakeMessage, PyDict.get?_cons],
      fun _ => ?_⟩
    cases hst : c.status with
    | handshaking => rfl
    | disconnected => simp [(h.disconnected hst).1] at hp
    | connected => simp [(h.connected hst).2.1 p hp] at hh

-- ============================================================================
-- One event
-- ============================================================================

theorem queue (h : c.Safe) (now : ℚ) (freshId : String) (control : Control) (data : Body) :
    (c.step (.queue now freshId control data)).Safe ∧
    (∀ m ∈ c.queued, m ∈ (c.step (.queue now freshId control data)).queued) ∧
    (∀ s, (queueMessageForSend now freshId control data).run c ≠ .error .assertionError s) ∧
    inFlightAfter c c.pendingControls (.queue now freshId control data) =
      (c.step (.queue now freshId control data)).pendingControls := by
  have hinv := h.toInv.queue now freshId control data
  have hids : ∀ m ∈ c.queued ++ [formatMessage freshId control data],
      (m.control.get? "message-id").isSome := by
    intro m hm
    rcases List.mem_append.mp hm with hm | hm
    · exact h.queuedIds m hm
    · rw [List.mem_singleton.mp hm]
      exact formatMessage_messageId freshId control data
  have hstep : c.step (.queue now freshId control data) =
      resultState ((queueMessageForSend now freshId control data).run c) := rfl
  rcases queueMessageForSend_state now freshId control data c with ⟨hst, hp, heq⟩ | ⟨-, heq⟩
  · obtain ⟨frames, hs⟩ := Option.isSome_iff_exists.mp (h.connected hst).1
    rw [inFlightAfter_sent _ _ hs (by simp [hs]) (hstep.trans heq.1)]
    rw [hstep, heq.1] at hinv ⊢
    refine ⟨⟨hinv, handshake_of_user rfl, hids⟩, fun m hm => List.mem_append_left _ hm, heq.2, ?_⟩
    simp [ackedBy, Client.pendingControls, hp]
  · have hsame : (c.step (.queue now freshId control data)).dealerSocket = c.dealerSocket := by
      rw [hstep, heq.1]
    rw [hstep, heq.1] at hinv ⊢
    refine ⟨⟨hinv, fun p hp hh => by simpa [handshakeMessage] using h.handshake p hp hh, hids⟩,
      fun m hm => List.mem_append_left _ hm, heq.2, ?_⟩
    cases hs : c.dealerSocket with
    | none =>
      rw [inFlightAfter_close _ (hsame.trans hs)]
      simp [Client.pendingControls, (h.disconnected (h.socket_none_iff.mpr hs)).1]
    | some frames =>
      rw [inFlightAfter_same _ hs (hsame.trans hs)]
      simp [ackedBy, Client.pendingControls]

theorem poll (h : c.Safe) (now : ℚ) (received : Option Control) :
    (c.step (.poll now received)).Safe ∧
    (c.step (.poll now received)).queued = c.queued ∧
    ((Event.poll now received).Enabled c →
      List.Sublist (inFlightAfter c c.pendingControls (.poll now received))
        (c.step (.poll now received)).pendingControls) ∧
    ((∀ m ∈ c.queued, m.userTyped) →
      (∀ s, (pollsterCallback now received).run c ≠ .error .assertionError s) ∧
      ((Event.poll now received).Enabled c →
        inFlightAfter c c.pendingControls (.poll now received) =
          (c.step (.poll now received)).pendingControls)) := by
  have hinv := h.toInv.poll now received
  have hstep : c.step (.poll now received) = resultState ((pollsterCallback now received).run c) := rfl
  rcases pollsterCallback_state now received c with
    ⟨heq, hack⟩ | ⟨p, ack, hp, -, -, ht, hst, heq⟩ | ⟨p, v, ack, hp, ht, rfl, hid, hv, hrest⟩
  · /- Nothing changes: the wire only loses what an ack takes off. -/
    have hfl : (Event.poll now received).Enabled c →
        inFlightAfter c c.pendingControls (.poll now received) = ackedBy (.poll now received) c.pendingControls :=
      fun hen => inFlightAfter_same _ (Option.get_mem hen) (by rw [hstep, heq.1]; exact Option.get_mem hen)
    refine ⟨by rwa [hstep, heq.1], by rw [hstep, heq.1], fun hen => ?_, fun htyped => ⟨heq.2, fun hen => ?_⟩⟩
    · rw [hfl hen, hstep, heq.1]
      exact ackedBy_sublist _ _
    rw [hfl hen, hstep, heq.1]
    rcases received with _ | ack
    · rfl
    rcases hp : c.pendingMessage with _ | p
    · simp [ackedBy, Client.pendingControls, hp]
    rw [ackedBy_pendingControls hp, if_neg]
    intro hid
    obtain ⟨v, hv, -⟩ := h.pending_type htyped hp
    rcases hack ack p rfl hp hid with hnone | hnone
    · simpa [hnone] using h.pending_messageId hp
    · simp [hnone] at hv
  · /- The assert fails after the ack time is recorded. -/
    rw [hstep, heq] at hinv ⊢
    refine ⟨⟨hinv, fun p hp hh => by simpa [handshakeMessage] using h.handshake p hp hh, h.queuedIds⟩,
      rfl, fun hen => ?_, fun htyped => absurd ?_ hst⟩
    · rw [inFlightAfter_same _ (Option.get_mem hen) (by rw [hstep, heq]; exact Option.get_mem hen)]
      exact ackedBy_sublist _ _
    obtain ⟨v, hv, hvh⟩ := h.pending_type htyped hp
    exact hvh (Option.some.inj (hv.symm.trans ht))
  · /- The ack is accepted: the wire and the pending slot move together. -/
    rcases hrest with ⟨hq, heq⟩ | ⟨m, rest, hq, heq⟩
    · have hfl : (Event.poll now (some ack)).Enabled c →
          inFlightAfter c c.pendingControls (.poll now (some ack)) = (c.step (.poll now (some ack))).pendingControls := by
        intro hen
        rw [inFlightAfter_same _ (Option.get_mem hen) (by rw [hstep, heq.1]; simp [Option.get_mem hen]),
          ackedBy_pendingControls hp, if_pos hid, hstep, heq.1]
        simp [Client.pendingControls]
      refine ⟨?_, by rw [hstep, heq.1]; simp, fun hen => hfl hen ▸ List.Sublist.refl _, fun _ => ⟨heq.2, hfl⟩⟩
      rw [hstep, heq.1] at hinv ⊢
      exact ⟨hinv, fun p' hp' => by simp at hp', by simpa using h.queuedIds⟩
    · have hfl : (Event.poll now (some ack)).Enabled c →
          inFlightAfter c c.pendingControls (.poll now (some ack)) = (c.step (.poll now (some ack))).pendingControls := by
        intro hen
        rw [inFlightAfter_sent _ _ (Option.get_mem hen) (by simp [Option.get_mem hen]) (hstep.trans heq.1),
          ackedBy_pendingControls hp, if_pos hid, hstep, heq.1]
        simp [Client.pendingControls]
      refine ⟨?_, by rw [hstep, heq.1]; simp, fun hen => hfl hen ▸ List.Sublist.refl _, fun _ => ⟨heq.2, hfl⟩⟩
      rw [hstep, heq.1] at hinv ⊢
      exact ⟨hinv, handshake_of_user rfl, by simpa using h.queuedIds⟩

theorem run (h : c.Safe) (now : ℚ) (halted : Bool) (messageId : String) :
    (c.step (.run now halted messageId)).Safe ∧
    (c.step (.run now halted messageId)).queued = c.queued ∧
    (∀ s, (runClient now halted messageId).run c ≠ .error .assertionError s) ∧
    inFlightAfter c c.pendingControls (.run now halted messageId) =
      (c.step (.run now halted messageId)).pendingControls := by
  have hinv := h.toInv.run now halted messageId
  have hstep : c.step (.run now halted messageId) =
      resultState ((runClient now halted messageId).run c) := rfl
  /- A step that leaves the client as it was. -/
  have unchanged : c.step (.run now halted messageId) = c →
      inFlightAfter c c.pendingControls (.run now halted messageId) = c.pendingControls := by
    intro hc
    cases hs : c.dealerSocket with
    | none => rw [inFlightAfter_close _ (by rw [hc, hs]), h.pendingControls_of_none hs]
    | some frames => rw [inFlightAfter_same _ hs (by rw [hc, hs])]; rfl
  cases halted
  swap
  · have hc : c.step (.run now true messageId) = c := rfl
    have hr : (runClient now true messageId).run c = .ok () c := rfl
    refine ⟨by rw [hc]; exact h, by rw [hc], fun s h' => ?_, by rw [unchanged hc, hc]⟩
    rw [hr] at h'
    cases h'
  have hrun : (runClient now false messageId).run c =
      match c.status with
      | .disconnected => (handleStatusDisconnected now messageId).run c
      | .connected => (handleStatusConnected now).run c
      | .handshaking => (handleStatusHandshaking now).run c := by
    simp only [runClient, Bool.false_eq_true, if_false, PyM.run_bind, PyM.run_get, PyM.run_pure]
    cases c.status <;> rfl
  cases hst : c.status with
  | disconnected =>
    obtain ⟨hp, hs⟩ := h.disconnected hst
    rw [hrun, hst] at hstep
    rw [hrun, hst]
    rcases handleStatusDisconnected_state now messageId c with heq | ⟨-, heq⟩ | ⟨hs', -⟩
    · have hc := hstep.trans heq.1
      exact ⟨by rw [hc]; exact h, by rw [hc], heq.2, by rw [unchanged hc, hc]⟩
    · rw [inFlightAfter_open _ _ hs rfl (hstep.trans heq.1)]
      rw [hstep, heq.1] at hinv ⊢
      refine ⟨⟨hinv, fun p hp' _ => ⟨messageId, by obtain rfl := Option.some.inj hp'; rfl⟩,
        by simpa using h.queuedIds⟩, by simp, heq.2, ?_⟩
      simp [Client.pendingControls, handshakeMessage]
    · simp [hs] at hs'
  | connected =>
    obtain ⟨hsock, -, -⟩ := h.connected hst
    rw [hrun, hst] at hstep
    rw [hrun, hst]
    rcases handleStatusConnected_state now c with heq | ⟨hp, -, heq⟩ | ⟨p, hp, -, heq⟩ | ⟨hs', -⟩
    · have hc := hstep.trans heq.1
      exact ⟨by rw [hc]; exact h, by rw [hc], heq.2, by rw [unchanged hc, hc]⟩
    · rw [inFlightAfter_close _ (by rw [hstep, heq.1]; rfl)]
      rw [hstep, heq.1] at hinv ⊢
      exact ⟨⟨hinv, fun p hp' => by simp_all [Client.closed], h.queuedIds⟩, rfl, heq.2,
        by simp [Client.pendingControls, Client.closed, hp]⟩
    · rw [inFlightAfter_close _ (by rw [hstep, heq.1]; rfl)]
      rw [hstep, heq.1] at hinv ⊢
      exact ⟨⟨hinv, fun p hp' => by simp_all [Client.closed], h.queuedIds⟩, rfl, heq.2,
        by simp [Client.pendingControls]⟩
    · simp [hs'] at hsock
  | handshaking =>
    obtain ⟨hsock, p₀, hp₀, -, -⟩ := h.handshaking hst
    rw [hrun, hst] at hstep
    rw [hrun, hst]
    rcases handleStatusHandshaking_state now c with heq | ⟨p, hp, -, heq⟩ | ⟨hbad, -⟩
    · have hc := hstep.trans heq.1
      exact ⟨by rw [hc]; exact h, by rw [hc], heq.2, by rw [unchanged hc, hc]⟩
    · rw [inFlightAfter_close _ (by rw [hstep, heq.1]; rfl)]
      rw [hstep, heq.1] at hinv ⊢
      exact ⟨⟨hinv, fun p hp' => by simp at hp', h.queuedIds⟩, rfl, heq.2, by simp [Client.pendingControls]⟩
    · rcases hbad with hbad | hbad <;> simp [hbad] at hp₀ hsock

/-- Every event keeps `Client.Safe` and the messages queued so far. -/
theorem step (h : c.Safe) (e : Event) : (c.step e).Safe ∧ ∀ m ∈ c.queued, m ∈ (c.step e).queued := by
  cases e with
  | queue now freshId control data =>
    exact ⟨(h.queue now freshId control data).1, (h.queue now freshId control data).2.1⟩
  | poll now received =>
    exact ⟨(h.poll now received).1, fun m hm => (h.poll now received).2.1 ▸ hm⟩
  | run now halted messageId =>
    exact ⟨(h.run now halted messageId).1, fun m hm => (h.run now halted messageId).2.1 ▸ hm⟩

/-- After any enabled event, what the pending message had in flight is
    within the new pending slot. -/
theorem inFlight_step (h : c.Safe) {e : Event} (he : e.Enabled c) :
    List.Sublist (inFlightAfter c c.pendingControls e) (c.step e).pendingControls := by
  cases e with
  | queue now freshId control data => exact (h.queue now freshId control data).2.2.2 ▸ List.Sublist.refl _
  | poll now received => exact (h.poll now received).2.2.1 he
  | run now halted messageId => exact (h.run now halted messageId).2.2.2 ▸ List.Sublist.refl _

end Client.Safe

/-- `close` calls `_disconnect` only on an open socket. -/
theorem close_ne_assertionError (c : Client) (now : ℚ) (s : Client) :
    (close now).run c ≠ .error .assertionError s := by
  cases hs : c.dealerSocket <;> simp [close, disconnect_run, hs]

/-- Over a run, `Client.Safe` holds and the messages in flight are among
    the pending one; they are the pending one while every queued message is
    typed. -/
theorem Traced.safe {clientTag clientAddress : String} {c : Client} {inFlight : List Control}
    (h : Traced clientTag clientAddress c inFlight) :
    c.Safe ∧ List.Sublist inFlight c.pendingControls ∧
      ((∀ m ∈ c.queued, m.userTyped) → inFlight = c.pendingControls) := by
  induction h with
  | init => exact ⟨Client.Safe.init _ _, List.Sublist.refl _, fun _ => rfl⟩
  | @step c inFlight e _ he ih =>
    obtain ⟨hs, hsub, hfl⟩ := ih
    refine ⟨(hs.step e).1, (inFlightAfter_mono c e hsub).trans (hs.inFlight_step he), fun ht => ?_⟩
    have ht' : ∀ m ∈ c.queued, m.userTyped := fun m hm => ht m ((hs.step e).2 m hm)
    rw [hfl ht']
    cases e with
    | queue now freshId control data => exact (hs.queue now freshId control data).2.2.2
    | poll now received => exact ((hs.poll now received).2.2.2 ht').2 he
    | run now halted messageId => exact (hs.run now halted messageId).2.2.2

/-- The resilient client over any run: each status says what it should of
    the socket and the pending slot, and the send queue holds user messages
    only; the asserts of `_handle_status_disconnected`,
    `_handle_status_handshaking` and `_disconnect` never fail; the messages
    sent on the socket whose ack has not come back are among the pending
    one, so at most one is in flight.  While every queued message has a
    `message-type` other than the handshake's, they are the pending one and
    the assert of `_pollster_callback` never fails either. -/
theorem resilientClient_safety {clientTag clientAddress : String} {c : Client}
    {inFlight : List Control} (h : Traced clientTag clientAddress c inFlight) :
    (c.status = .disconnected ↔ c.dealerSocket = none) ∧
    (c.status = .handshaking →
      ∃ p messageId, c.pendingMessage = some p ∧ p.message = handshakeMessage c messageId) ∧
    (c.status = .disconnected → c.pendingMessage = none) ∧
    (c.status = .connected →
      (∀ p, c.pendingMessage = some p → p.handshake = false ∧ p.message ∈ c.queued) ∧
      (c.pendingMessage = none → c.sendQueue = [])) ∧
    (∀ m ∈ c.sendQueue, m ∈ c.queued) ∧
    (∀ now halted messageId s, (runClient now halted messageId).run c ≠ .error .assertionError s) ∧
    (∀ now s, (close now).run c ≠ .error .assertionError s) ∧
    List.Sublist inFlight c.pendingControls ∧ inFlight.length ≤ 1 ∧
    ((∀ m ∈ c.queued, m.userTyped) →
      inFlight = c.pendingControls ∧
      ∀ now received s, (pollsterCallback now received).run c ≠ .error .assertionError s) := by
  obtain ⟨hs, hsub, hfl⟩ := h.safe
  refine ⟨hs.socket_none_iff, fun hst => ?_, fun hst => (hs.disconnected hst).1,
    fun hst => ⟨fun p hp => ?_, (hs.connected hst).2.2⟩, fun m hm => ?_,
    fun now halted messageId => (hs.run now halted messageId).2.2.1,
    fun now => close_ne_assertionError c now, hsub, hsub.length_le.trans (pendingControls_length_le c),
    fun ht => ⟨hfl ht, fun now received => ((hs.poll now received).2.2.2 ht).1⟩⟩
  · obtain ⟨-, p, hp, hh, -⟩ := hs.handshaking hst
    obtain ⟨messageId, hm⟩ := hs.handshake p hp hh
    exact ⟨p, messageId, hp, hm⟩
  · have hh := (hs.connected hst).2.1 p hp
    exact ⟨hh, hs.pending_queued hp hh⟩
  · rw [← hs.delivery]
    exact List.mem_append_right _ hm

-- ============================================================================
-- A user message typed as a handshake
-- ============================================================================

/-- A user message of type `resilient-server-handshake`, queued while
    disconnected and sent once the client's own handshake is acked. -/
def typedAsHandshakeRun : Client :=
  (((Client.init "client" "tcp://127.0.0.1:8900").step
    (.queue 0 "m1" [("message-type", .str "resilient-server-handshake")] .none)).step
    (.run 60 false "h1")).step (.poll 61 (some [("message-id", .str "h1")]))

/-- The ack of that message: the client, connected, asserts it is
    handshaking; the message stays pending though its ack came back. -/
def typedAsHandshakeAck : Event := .poll 62 (some [("message-id", .str "m1")])

theorem typedAsHandshake_fails_assert :
    Reachable "client" "tcp://127.0.0.1:8900" typedAsHandshakeRun ∧
    (∃ s, typedAsHandshakeAck.call.run typedAsHandshakeRun = .error .assertionError s) ∧
    ∃ inFlight, Traced "client" "tcp://127.0.0.1:8900" (typedAsHandshakeRun.step typedAsHandshakeAck)
      inFlight ∧ inFlight = [] ∧ (typedAsHandshakeRun.step typedAsHandshakeAck).pendingMessage.isSome ∧
      List.Sublist inFlight (typedAsHandshakeRun.step typedAsHandshakeAck).pendingControls ∧
      inFlight.length ≤ 1 := by
  have h : Traced "client" "tcp://127.0.0.1:8900" typedAsHandshakeRun _ :=
    .step (.poll 61 (some [("message-id", .str "h1")]))
      (.step (.run 60 false "h1")
        (.step (.queue 0 "m1" [("message-type", .str "resilient-server-handshake")] .none)
        .init trivial) trivial)
      (show Option.isSome _ = true by with_unfolding_all decide)
  have h' : Traced "client" "tcp://127.0.0.1:8900" (typedAsHandshakeRun.step typedAsHandshakeAck) _ :=
    .step typedAsHandshakeAck h (show Option.isSome _ = true by with_unfolding_all decide)
  have hsafe := resilientClient_safety h'
  refine ⟨h.reachable, ⟨{ typedAsHandshakeRun with lastSuccessfulAckTime := 62 }, by with_unfolding_all rfl⟩,
    _, h', ?_, ?_, hsafe.2.2.2.2.2.2.2.1, hsafe.2.2.2.2.2.2.2.2.1⟩ <;>
    with_unfolding_all decide

end Transport
end NimbusIo
