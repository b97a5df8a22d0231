/-
  NimbusIo.Transport.ResilientClient

  `tools/resilient_client.py`: the DEALER side of the resilient transport
  (spec §4.1).  The client sends one message at a time and waits for its
  ack; further messages wait in `_send_queue`.  A handshake opens each
  connection, an ack timeout or an idle period closes it, and an unacked
  message goes back to the head of the queue.

  Each method is a `PyM Client` computation.  `now` is the clock during the
  call.  The socket is the list of frames written to it; the zeromq calls
  that only register or configure it are not modelled.

  Three fields are ghost state, read by no Python code: `Pending.handshake`
  tells the handshake the client made itself from a user message, and
  `queued`/`acknowledged` record the user messages passed to
  `queue_message_for_send` and those whose ack was accepted, in order.

  `_send_message` writes `client-tag` into the message's control dict in
  place; the model writes it into the frame sent.  The client never reads
  that field back, so the stored message is left as queued.
-/
import NimbusIo.Wire
import Mathlib.Data.Rat.Defs

namespace NimbusIo
namespace Transport

/-- `_ack_timeout`, ten minutes. -/
def ackTimeout : ℚ := 10 * 60

/-- `_handshake_retry_interval`, one minute. -/
def handshakeRetryInterval : ℚ := 60

/-- `_max_idle_time`, thirty minutes. -/
def maxIdleTime : ℚ := 30 * 60

/-- `_status_handshaking`, `_status_connected`, `_status_disconnected`. -/
inductive Status where
  | handshaking
  | connected
  | disconnected
  deriving DecidableEq, Repr

/-- `message_format(ident=None, control=..., body=...)`. -/
structure Message where
  control : Control
  body : Body
  deriving DecidableEq, Repr

/-- One `send_json` or `send` on the DEALER socket; `more` is `zmq.SNDMORE`. -/
inductive Frame where
  | json (control : Control) (more : Bool)
  | bytes (b : Bytes) (more : Bool)
  deriving DecidableEq, Repr

/-- `_pending_message` with its `_pending_message_start_time`. -/
structure Pending where
  message : Message
  startTime : ℚ
  /-- ghost: this is the client's own handshake -/
  handshake : Bool
  deriving DecidableEq, Repr

/-- The fields of a `ResilientClient` its methods use. -/
structure Client where
  clientTag : String
  clientAddress : String
  /-- `_dealer_socket`: the frames written on the open socket -/
  dealerSocket : Option (List Frame)
  sendQueue : List Message
  pendingMessage : Option Pending
  status : Status
  statusTime : ℚ
  lastSuccessfulAckTime : ℚ
  /-- ghost: the user messages passed to `queue_message_for_send` -/
  queued : List Message
  /-- ghost: the user messages whose ack was accepted -/
  acknowledged : List Message
  deriving Repr

/-- `ResilientClient.__init__`. -/
def Client.init (clientTag clientAddress : String) : Client where
  clientTag := clientTag
  clientAddress := clientAddress
  dealerSocket := none
  sendQueue := []
  pendingMessage := none
  status := .disconnected
  statusTime := 0
  lastSuccessfulAckTime := 0
  queued := []
  acknowledged := []

-- ============================================================================
-- Sending
-- ============================================================================

/-- "don't send a zero size body": a `str` body becomes one frame, or none
    when it is empty; a list or tuple is sent as it is. -/
def normalizeBody : Body → Body
  | .bytes b => if b.isEmpty then .none else .frames [b]
  | b => b

/-- The frames `_send_message` writes for a normalized body, and the
    exception it raises: `message.body[-1]` of an empty list is an
    `IndexError`, raised after the control frame was sent with `SNDMORE`. -/
def bodyFrames (control : Control) : Body → List Frame × Option PyError
  | .frames [] => ([.json control true], some .indexError)
  | .frames (b :: bs) =>
    (.json control true :: ((b :: bs).dropLast.map (Frame.bytes · true)) ++
      [.bytes ((b :: bs).getLast (List.cons_ne_nil b bs)) false], none)
  | _ => ([.json control false], none)

/-- `_send_message`. -/
def sendMessage (message : Message) : PyM Client Unit := do
  let c ← get
  match c.dealerSocket with
  | none => throw (.attributeError "send_json")
  | some frames =>
    let (sent, raised) := bodyFrames (message.control.set "client-tag" (.str c.clientTag))
      (normalizeBody message.body)
    set { c with dealerSocket := some (frames ++ sent) }
    match raised with
    | some e => throw e
    | none => pure ()

/-- The frames `_send_message` writes for `m`: the control with `client-tag`
    set, then the normalized body. -/
def Client.framesFor (c : Client) (m : Message) : List Frame :=
  (bodyFrames (m.control.set "client-tag" (.str c.clientTag)) (normalizeBody m.body)).1

/-- The client once `_send_message` has written `m` on its socket, if open. -/
def Client.sent (c : Client) (m : Message) : Client :=
  { c with dealerSocket := c.dealerSocket.map (· ++ c.framesFor m) }

@[simp] theorem Client.sent_dealerSocket (c : Client) (m : Message) :
    (c.sent m).dealerSocket = c.dealerSocket.map (· ++ c.framesFor m) := rfl
@[simp] theorem Client.sent_pendingMessage (c : Client) (m : Message) :
    (c.sent m).pendingMessage = c.pendingMessage := rfl
@[simp] theorem Client.sent_status (c : Client) (m : Message) : (c.sent m).status = c.status := rfl
@[simp] theorem Client.sent_sendQueue (c : Client) (m : Message) :
    (c.sent m).sendQueue = c.sendQueue := rfl
@[simp] theorem Client.sent_queued (c : Client) (m : Message) : (c.sent m).queued = c.queued := rfl
@[simp] theorem Client.sent_acknowledged (c : Client) (m : Message) :
    (c.sent m).acknowledged = c.acknowledged := rfl
@[simp] theorem Client.sent_clientTag (c : Client) (m : Message) :
    (c.sent m).clientTag = c.clientTag := rfl
@[simp] theorem Client.sent_clientAddress (c : Client) (m : Message) :
    (c.sent m).clientAddress = c.clientAddress := rfl

/-- `_disconnect`. -/
def disconnect (now : ℚ) : PyM Client Unit := do
  let c ← get
  pyAssert c.dealerSocket.isSome
  set { c with dealerSocket := none, status := .disconnected, statusTime := now }

/-- `close`. -/
def close (now : ℚ) : PyM Client Unit := do
  let c ← get
  if c.dealerSocket.isSome then disconnect now

/-- The handshake `_handle_status_disconnected` sends. -/
def handshakeMessage (c : Client) (messageId : String) : Message :=
  ⟨[("message-type", .str "resilient-server-handshake"),
    ("message-id", .str messageId),
    ("client-tag", .str c.clientTag),
    ("client-address", .str c.clientAddress)], .none⟩

-- ============================================================================
-- The status handlers
-- ============================================================================

/-- `_handle_status_disconnected`: after the retry interval, open a socket
    and send a handshake (`messageId` is its `uuid.uuid1().hex`). -/
def handleStatusDisconnected (now : ℚ) (messageId : String) : PyM Client Unit := do
  let c ← get
  if now - c.statusTime < handshakeRetryInterval then return
  pyAssert c.dealerSocket.isNone
  let message := handshakeMessage c messageId
  set { c with
    dealerSocket := some [], pendingMessage := some ⟨message, now, true⟩,
    status := .handshaking, statusTime := now }
  sendMessage message

/-- `_handle_status_connected`: disconnect when idle too long; on an ack
    timeout, disconnect and put the pending message back at the head. -/
def handleStatusConnected (now : ℚ) : PyM Client Unit := do
  let c ← get
  match c.pendingMessage with
  | none => if now - c.lastSuccessfulAckTime ≥ maxIdleTime then disconnect now
  | some p =>
    if now - p.startTime < ackTimeout then return
    disconnect now
    modify fun c => { c with sendQueue := p.message :: c.sendQueue, pendingMessage := none }

/-- `_handle_status_handshaking`: on a handshake timeout, disconnect and drop it. -/
def handleStatusHandshaking (now : ℚ) : PyM Client Unit := do
  let c ← get
  match c.pendingMessage with
  | none => throw .assertionError
  | some p =>
    if now - p.startTime < ackTimeout then return
    disconnect now
    modify fun c => { c with pendingMessage := none }

/-- `run(halt_event)`: nothing once halted, else the handler of the status. -/
def runClient (now : ℚ) (halted : Bool) (messageId : String) : PyM Client Unit := do
  if halted then return
  let c ← get
  match c.status with
  | .disconnected => handleStatusDisconnected now messageId
  | .connected => handleStatusConnected now
  | .handshaking => handleStatusHandshaking now

-- ============================================================================
-- Queueing and acks
-- ============================================================================

/-- The message `queue_message_for_send` formats, its `message-id` filled in. -/
def formatMessage (freshId : String) (messageControl : Control) (data : Body) : Message :=
  ⟨if messageControl.contains "message-id" then messageControl
    else messageControl.set "message-id" (.str freshId), data⟩

/-- `queue_message_for_send`: `freshId` is the `uuid.uuid1().hex` used when
    the control has no `message-id`. -/
def queueMessageForSend (now : ℚ) (freshId : String) (messageControl : Control) (data : Body) :
    PyM Client Unit := do
  let message := formatMessage freshId messageControl data
  let c ← get
  if c.status = .connected ∧ c.pendingMessage.isNone then
    set { c with
      pendingMessage := some ⟨message, now, false⟩, queued := c.queued ++ [message] }
    sendMessage message
  else
    set { c with
      sendQueue := c.sendQueue ++ [message], queued := c.queued ++ [message] }

/-- Release the pending message once its ack is accepted. -/
def releasePending (p : Pending) (c : Client) : Client :=
  { c with pendingMessage := none,
           acknowledged := if p.handshake then c.acknowledged else c.acknowledged ++ [p.message] }

/-- `_pollster_callback`, given what `_receive_message` returned (`none`
    when the receive would block).  Logging an unexpected or unknown ack
    reads `message.control` from the received dict: an `AttributeError`. -/
def pollsterCallback (now : ℚ) (received : Option Control) : PyM Client Unit := do
  match received with
  | none => return
  | some ack =>
    let c ← get
    match c.pendingMessage with
    | none => throw (.attributeError "control")
    | some p =>
      let expected ← p.message.control.item "message-id"
      let got ← ack.item "message-id"
      if got ≠ expected then throw (.attributeError "control")
      let messageType ← p.message.control.item "message-type"
      modify fun c => { c with lastSuccessfulAckTime := now }
      if messageType = .str "resilient-server-handshake" then
        let c ← get
        pyAssert (c.status = .handshaking)
        set { c with status := .connected, statusTime := now }
      modify (releasePending p)
      let c ← get
      match c.sendQueue with
      | [] => return
      | m :: rest =>
        set { c with sendQueue := rest, pendingMessage := some ⟨m, now, false⟩ }
        sendMessage m

-- ============================================================================
-- Runs
-- ============================================================================

/-- What can happen to a client: a `queue_message_for_send` call, a
    readable socket (`_pollster_callback`), or the timer task `run`. -/
inductive Event where
  | queue (now : ℚ) (freshId : String) (control : Control) (data : Body)
  | poll (now : ℚ) (received : Option Control)
  | run (now : ℚ) (halted : Bool) (messageId : String)

/-- The method an event calls. -/
def Event.call : Event → PyM Client Unit
  | .queue now freshId control data => queueMessageForSend now freshId control data
  | .poll now received => pollsterCallback now received
  | .run now halted messageId => runClient now halted messageId

/-- The pollster calls back only while the socket is registered, i.e. open. -/
def Event.Enabled (c : Client) : Event → Prop
  | .poll .. => c.dealerSocket.isSome
  | _ => True

/-- The client after an event, whether the method returned or raised. -/
def Client.step (c : Client) (e : Event) : Client := resultState (e.call.run c)

/-- The states a client reaches from `__init__`; `close` is not a step, it
    may only end a run. -/
inductive Reachable (clientTag clientAddress : String) : Client → Prop where
  | init : Reachable clientTag clientAddress (Client.init clientTag clientAddress)
  | step {c : Client} (e : Event) :
      Reachable clientTag clientAddress c → e.Enabled c →
      Reachable clientTag clientAddress (c.step e)

/-- The user message in the pending slot, if any (the handshake is not one). -/
def Client.userPending (c : Client) : List Message :=
  match c.pendingMessage with
  | some p => if p.handshake then [] else [p.message]
  | none => []

-- ============================================================================
-- What each method can do
-- ============================================================================

/-- The client once `_disconnect` has run. -/
def Client.closed (c : Client) (now : ℚ) : Client :=
  { c with dealerSocket := none, status := .disconnected, statusTime := now }

/-- A call that leaves `s`, by returning or by raising anything but an
    `AssertionError`. -/
def EndsIn {α : Type} (r : EStateM.Result PyError Client α) (s : Client) : Prop :=
  resultState r = s ∧ ∀ s', r ≠ .error .assertionError s'

theorem endsIn_ok {α : Type} (a : α) (s : Client) : EndsIn (.ok a s) s :=
  ⟨rfl, fun _ h => nomatch h⟩

/-- `_send_message` touches only the socket: it appends the frames of `m`
    when it is open, and raises no `AssertionError`. -/
theorem sendMessage_state (m : Message) (c : Client) : EndsIn ((sendMessage m).run c) (c.sent m) := by
  unfold sendMessage Client.sent Client.framesFor
  rcases h : c.dealerSocket with _ | frames
  · refine ⟨?_, fun _ => ?_⟩ <;> simp [h]
    rw [← h]
  · rcases hb : normalizeBody m.body with _ | b | _ | ⟨b, bs⟩ <;>
      simp [EndsIn, h, hb, bodyFrames]

theorem disconnect_run (now : ℚ) (c : Client) :
    (disconnect now).run c =
      if c.dealerSocket.isSome then .ok () (c.closed now) else .error .assertionError c := by
  cases h : c.dealerSocket <;> simp [disconnect, h, pyAssert, Client.closed]

theorem handleStatusConnected_state (now : ℚ) (c : Client) :
    EndsIn ((handleStatusConnected now).run c) c ∨
    (c.pendingMessage = none ∧ c.dealerSocket.isSome ∧
      EndsIn ((handleStatusConnected now).run c) (c.closed now)) ∨
    (∃ p, c.pendingMessage = some p ∧ c.dealerSocket.isSome ∧
      EndsIn ((handleStatusConnected now).run c)
        { c.closed now with sendQueue := p.message :: c.sendQueue, pendingMessage := none }) ∨
    (c.dealerSocket = none ∧ (handleStatusConnected now).run c = .error .assertionError c) := by
  unfold handleStatusConnected
  rcases hp : c.pendingMessage with _ | p <;> rcases hs : c.dealerSocket with _ | frames <;>
    simp only [PyM.run_bind, PyM.run_get, hp] <;> (try split_ifs) <;>
    simp [disconnect_run, hs, hp, Client.closed, endsIn_ok]

theorem handleStatusHandshaking_state (now : ℚ) (c : Client) :
    EndsIn ((handleStatusHandshaking now).run c) c ∨
    (∃ p, c.pendingMessage = some p ∧ c.dealerSocket.isSome ∧
      EndsIn ((handleStatusHandshaking now).run c) { c.closed now with pendingMessage := none }) ∨
    ((c.pendingMessage = none ∨ c.dealerSocket = none) ∧
      (handleStatusHandshaking now).run c = .error .assertionError c) := by
  unfold handleStatusHandshaking
  rcases hp : c.pendingMessage with _ | p <;> rcases hs : c.dealerSocket with _ | frames <;>
    simp only [PyM.run_bind, PyM.run_get, hp] <;> (try split_ifs) <;>
    simp [disconnect_run, hs, hp, Client.closed, endsIn_ok]

theorem handleStatusDisconnected_state (now : ℚ) (messageId : String) (c : Client) :
    EndsIn ((handleStatusDisconnected now messageId).run c) c ∨
    (c.dealerSocket = none ∧ EndsIn ((handleStatusDisconnected now messageId).run c)
      (Client.sent
        { c with dealerSocket := some [], pendingMessage := some ⟨handshakeMessage c messageId, now, true⟩,
                 status := .handshaking, statusTime := now }
        (handshakeMessage c messageId))) ∨
    (c.dealerSocket.isSome ∧
      (handleStatusDisconnected now messageId).run c = .error .assertionError c) := by
  unfold handleStatusDisconnected
  rcases hs : c.dealerSocket with _ | frames <;> simp only [PyM.run_bind, PyM.run_get] <;>
    split_ifs <;> simp [hs, pyAssert, endsIn_ok, sendMessage_state]

theorem queueMessageForSend_state (now : ℚ) (freshId : String) (control : Control) (data : Body)
    (c : Client) :
    (c.status = .connected ∧ c.pendingMessage = none ∧
      EndsIn ((queueMessageForSend now freshId control data).run c)
        (Client.sent { c with pendingMessage := some ⟨formatMessage freshId control data, now, false⟩,
                              queued := c.queued ++ [formatMessage freshId control data] }
          (formatMessage freshId control data))) ∨
    (¬(c.status = .connected ∧ c.pendingMessage = none) ∧
      EndsIn ((queueMessageForSend now freshId control data).run c)
        { c with sendQueue := c.sendQueue ++ [formatMessage freshId control data],
                 queued := c.queued ++ [formatMessage freshId control data] }) := by
  unfold queueMessageForSend
  by_cases h : c.status = .connected ∧ c.pendingMessage = none
  · exact .inl ⟨h.1, h.2, by simpa [h] using sendMessage_state _ _⟩
  · exact .inr ⟨h, by simp [h, endsIn_ok]⟩

-- ============================================================================
-- The frames of one message
-- ============================================================================

/-- Body frames, each but the last sent with `SNDMORE`. -/
def partFrames : Bytes → List Bytes → List Frame
  | b, [] => [.bytes b false]
  | b, b' :: bs => .bytes b true :: partFrames b' bs

/-- One complete multipart message: the control frame, then `parts` in
    order, every frame but the last sent with `SNDMORE`. -/
def multipart (control : Control) : List Bytes → List Frame
  | [] => [.json control false]
  | b :: bs => .json control true :: partFrames b bs

theorem dropLast_map_append_getLast (b : Bytes) (bs : List Bytes) :
    (b :: bs).dropLast.map (Frame.bytes · true) ++ [.bytes ((b :: bs).getLast (List.cons_ne_nil b bs)) false] =
      partFrames b bs := by
  induction bs generalizing b with
  | nil => rfl
  | cons b' bs ih => simp [List.dropLast_cons₂, partFrames, ← ih]

/-- What `_send_message` does on an open socket, for each shape of body.
    `None` and a `str` are sent as one complete message, an empty `str`
    as no body frame; a list or tuple is sent frame by frame, its empty
    frames included; an empty list or tuple raises `IndexError` at
    `message.body[-1]`, after the control frame went out with `SNDMORE`. -/
theorem sendMessage_writes (c : Client) {frames : List Frame} (hs : c.dealerSocket = some frames)
    (control : Control) :
    (sendMessage ⟨control, .none⟩).run c =
      .ok () { c with dealerSocket := some (frames ++
        multipart (control.set "client-tag" (.str c.clientTag)) []) } ∧
    (∀ b : Bytes, (sendMessage ⟨control, .bytes b⟩).run c =
      .ok () { c with dealerSocket := some (frames ++
        multipart (control.set "client-tag" (.str c.clientTag)) (if b.isEmpty then [] else [b])) }) ∧
    (∀ b bs, (sendMessage ⟨control, .frames (b :: bs)⟩).run c =
      .ok () { c with dealerSocket := some (frames ++
        multipart (control.set "client-tag" (.str c.clientTag)) (b :: bs)) }) ∧
    (sendMessage ⟨control, .frames []⟩).run c =
      .error .indexError { c with dealerSocket := some (frames ++
        [.json (control.set "client-tag" (.str c.clientTag)) true]) } := by
  refine ⟨?_, fun b => ?_, fun b bs => ?_, ?_⟩ <;>
    simp only [sendMessage, PyM.run_bind, PyM.run_get, hs, PyM.run_set, normalizeBody, bodyFrames]
  · rfl
  · cases b.isEmpty <;> simp [bodyFrames, multipart, partFrames]
  · simp only [List.cons_append, dropLast_map_append_getLast]
    rfl
  · rfl

/-- A connected client whose socket is open and whose pending slot is free. -/
def idleClient : Client :=
  { Client.init "client" "tcp://127.0.0.1:8900" with dealerSocket := some [], status := .connected }

/-- An empty list body raises and leaves a message cut after its control
    frame; a list whose last frame is empty sends that frame. -/
theorem emptyListBody_raises_indexError :
    (sendMessage ⟨[("message-id", .str "m1")], .frames []⟩).run idleClient =
      .error .indexError
        { idleClient with
          dealerSocket := some [.json (PyDict.set [("message-id", .str "m1")] "client-tag" (.str "client")) true] } ∧
    (sendMessage ⟨[("message-id", .str "m2")], .frames [[1], []]⟩).run idleClient =
      .ok ()
        { idleClient with
          dealerSocket := some [.json (PyDict.set [("message-id", .str "m2")] "client-tag" (.str "client")) true,
            .bytes [1] true, .bytes [] false] } :=
  ⟨(sendMessage_writes idleClient rfl _).2.2.2, (sendMessage_writes idleClient rfl _).2.2.1 [1] [[]]⟩

/-- The client once the ack of `p`, of message type `v`, is accepted. -/
def Client.ackAccepted (c : Client) (now : ℚ) (p : Pending) (v : Value) : Client :=
  releasePending p
    (if v = .str "resilient-server-handshake"
      then { c with lastSuccessfulAckTime := now, status := .connected, statusTime := now }
      else { c with lastSuccessfulAckTime := now })

@[simp] theorem Client.ackAccepted_sendQueue (c : Client) (now : ℚ) (p : Pending) (v : Value) :
    (c.ackAccepted now p v).sendQueue = c.sendQueue := by
  unfold Client.ackAccepted releasePending; split <;> rfl

@[simp] theorem Client.ackAccepted_dealerSocket (c : Client) (now : ℚ) (p : Pending) (v : Value) :
    (c.ackAccepted now p v).dealerSocket = c.dealerSocket := by
  unfold Client.ackAccepted releasePending; split <;> rfl

@[simp] theorem Client.ackAccepted_pendingMessage (c : Client) (now : ℚ) (p : Pending) (v : Value) :
    (c.ackAccepted now p v).pendingMessage = none := by
  unfold Client.ackAccepted releasePending; split <;> rfl

@[simp] theorem Client.ackAccepted_clientTag (c : Client) (now : ℚ) (p : Pending) (v : Value) :
    (c.ackAccepted now p v).clientTag = c.clientTag := by
  unfold Client.ackAccepted releasePending; split <;> rfl

@[simp] theorem Client.ackAccepted_queued (c : Client) (now : ℚ) (p : Pending) (v : Value) :
    (c.ackAccepted now p v).queued = c.queued := by
  unfold Client.ackAccepted releasePending; split <;> rfl

@[simp] theorem Client.ackAccepted_status (c : Client) (now : ℚ) (p : Pending) (v : Value) :
    (c.ackAccepted now p v).status =
      if v = .str "resilient-server-handshake" then .connected else c.status := by
  unfold Client.ackAccepted releasePending; split <;> rfl

@[simp] theorem Client.ackAccepted_acknowledged (c : Client) (now : ℚ) (p : Pending) (v : Value) :
    (c.ackAccepted now p v).acknowledged =
      if p.handshake then c.acknowledged else c.acknowledged ++ [p.message] := by
  unfold Client.ackAccepted releasePending; split <;> rfl


-- ============================================================================
-- One branch of `_pollster_callback` at a time
-- ============================================================================

theorem endsIn_error {e : PyError} (he : e ≠ .assertionError) (s : Client) :
    EndsIn (.error e s : EStateM.Result PyError Client Unit) s :=
  ⟨rfl, fun _ h => he (EStateM.Result.error.inj h).1⟩

section Pollster

variable {now : ℚ} {ack : Control} {c : Client} {p : Pending} {expected : Value}

/-- An ack with no message pending: logging it reads `message.control`. -/
theorem pollsterCallback_run_unexpected (hp : c.pendingMessage = none) :
    (pollsterCallback now (some ack)).run c = .error (.attributeError "control") c := by
  simp [pollsterCallback, hp]

/-- A pending message with no `message-id`. -/
theorem pollsterCallback_run_noExpected (hp : c.pendingMessage = some p)
    (he : p.message.control.get? "message-id" = none) :
    (pollsterCallback now (some ack)).run c = .error (.keyError "message-id") c := by
  simp [pollsterCallback, hp, PyM.run_item_of_get?_none he]

/-- An ack with no `message-id`. -/
theorem pollsterCallback_run_noGot (hp : c.pendingMessage = some p)
    (he : p.message.control.get? "message-id" = some expected) (hg : ack.get? "message-id" = none) :
    (pollsterCallback now (some ack)).run c = .error (.keyError "message-id") c := by
  simp [pollsterCallback, hp, he, PyM.run_item_of_get?_none hg]

/-- An ack of another `message-id`: logging it reads `message.control`. -/
theorem pollsterCallback_run_unknown (hp : c.pendingMessage = some p)
    (he : p.message.control.get? "message-id" = some expected) {got : Value}
    (hg : ack.get? "message-id" = some got) (hne : got ≠ expected) :
    (pollsterCallback now (some ack)).run c = .error (.attributeError "control") c := by
  simp [pollsterCallback, hp, he, hg, hne]

/-- The ack of a pending message with no `message-type`. -/
theorem pollsterCallback_run_noType (hp : c.pendingMessage = some p)
    (he : p.message.control.get? "message-id" = some expected)
    (hg : ack.get? "message-id" = some expected) (ht : p.message.control.get? "message-type" = none) :
    (pollsterCallback now (some ack)).run c = .error (.keyError "message-type") c := by
  simp [pollsterCallback, hp, he, hg, PyM.run_item_of_get?_none ht]

/-- The ack of a handshake-typed message while not handshaking: the ack
    time is recorded, then the assert fails. -/
theorem pollsterCallback_run_assert (hp : c.pendingMessage = some p)
    (he : p.message.control.get? "message-id" = some expected)
    (hg : ack.get? "message-id" = some expected)
    (ht : p.message.control.get? "message-type" = some (.str "resilient-server-handshake"))
    (hst : c.status ≠ .handshaking) :
    (pollsterCallback now (some ack)).run c = .error .assertionError { c with lastSuccessfulAckTime := now } := by
  simp [pollsterCallback, hp, he, hg, ht, hst]

/-- The ack of the pending message, accepted: the client is released, then
    the head of the send queue, if any, becomes pending and is sent. -/
theorem pollsterCallback_run_accepted (hp : c.pendingMessage = some p)
    (he : p.message.control.get? "message-id" = some expected)
    (hg : ack.get? "message-id" = some expected) {v : Value}
    (ht : p.message.control.get? "message-type" = some v)
    (hst : v = .str "resilient-server-handshake" → c.status = .handshaking) :
    (pollsterCallback now (some ack)).run c =
      match c.sendQueue with
      | [] => .ok () (c.ackAccepted now p v)
      | m :: rest =>
        (sendMessage m).run { c.ackAccepted now p v with sendQueue := rest, pendingMessage := some ⟨m, now, false⟩ } := by
  simp only [pollsterCallback, PyM.run_bind, PyM.run_get, hp, PyM.run_item_of_get? he,
    PyM.run_item_of_get? hg, PyM.run_item_of_get? ht, ne_eq, not_true_eq_false, if_false, PyM.run_modify]
  by_cases hv : v = .str "resilient-server-handshake"
  · cases hq : c.sendQueue <;> simp [hv, hst hv, hq, Client.ackAccepted, releasePending]
  · cases hq : c.sendQueue <;> simp [hv, hq, Client.ackAccepted, releasePending]

end Pollster

/-- `_pollster_callback` leaves the client as it was (nothing received, or
    an exception before any change, which for an ack of the pending
    message's id is a missing field), raises `AssertionError` on the
    handshake check after recording the ack time, or accepts the ack and
    sends the next queued message. -/
theorem pollsterCallback_state (now : ℚ) (received : Option Control) (c : Client) :
    (EndsIn ((pollsterCallback now received).run c) c ∧
      ∀ ack p, received = some ack → c.pendingMessage = some p →
        ack.get? "message-id" = p.message.control.get? "message-id" →
        p.message.control.get? "message-id" = none ∨ p.message.control.get? "message-type" = none) ∨
    (∃ p ack, c.pendingMessage = some p ∧ received = some ack ∧
      ack.get? "message-id" = p.message.control.get? "message-id" ∧
      p.message.control.get? "message-type" = some (.str "resilient-server-handshake") ∧
      c.status ≠ .handshaking ∧
      (pollsterCallback now received).run c = .error .assertionError { c with lastSuccessfulAckTime := now }) ∨
    (∃ p v ack, c.pendingMessage = some p ∧ p.message.control.get? "message-type" = some v ∧
      received = some ack ∧ ack.get? "message-id" = p.message.control.get? "message-id" ∧
      (v = .str "resilient-server-handshake" → c.status = .handshaking) ∧
      ((c.sendQueue = [] ∧ EndsIn ((pollsterCallback now received).run c) (c.ackAccepted now p v)) ∨
        (∃ m rest, c.sendQueue = m :: rest ∧
          EndsIn ((pollsterCallback now received).run c)
            (Client.sent { c.ackAccepted now p v with
              sendQueue := rest, pendingMessage := some ⟨m, now, false⟩ } m)))) := by
  rcases received with _ | ack
  · exact .inl ⟨endsIn_ok _ _, fun _ _ h => nomatch h⟩
  rcases hp : c.pendingMessage with _ | p
  · exact .inl ⟨by rw [pollsterCallback_run_unexpected hp]; exact endsIn_error (by decide) c,
      fun _ _ _ h => nomatch h⟩
  rcases he : p.message.control.get? "message-id" with _ | expected
  · exact .inl ⟨by rw [pollsterCallback_run_noExpected hp he]; exact endsIn_error (by decide) c,
      fun _ _ _ h _ => .inl (by cases h; exact he)⟩
  rcases hg : ack.get? "message-id" with _ | got
  · exact .inl ⟨by rw [pollsterCallback_run_noGot hp he hg]; exact endsIn_error (by decide) c, by simp_all⟩
  by_cases hne : got = expected
  swap
  · exact .inl ⟨by rw [pollsterCallback_run_unknown hp he hg hne]; exact endsIn_error (by decide) c, by simp_all⟩
  subst hne
  rcases ht : p.message.control.get? "message-type" with _ | v
  · exact .inl ⟨by rw [pollsterCallback_run_noType hp he hg ht]; exact endsIn_error (by decide) c,
      fun _ _ _ h _ => .inr (by cases h; exact ht)⟩
  by_cases hbad : v = .str "resilient-server-handshake" ∧ c.status ≠ .handshaking
  · exact .inr (.inl ⟨p, ack, rfl, rfl, hg.trans he.symm, hbad.1 ▸ ht, hbad.2,
      by rw [pollsterCallback_run_assert hp he hg (hbad.1 ▸ ht) hbad.2, hp]⟩)
  have hst : v = .str "resilient-server-handshake" → c.status = .handshaking := fun hv =>
    Classical.not_not.mp fun h => hbad ⟨hv, h⟩
  refine .inr (.inr ⟨p, v, ack, rfl, ht, rfl, hg.trans he.symm, hst, ?_⟩)
  rw [pollsterCallback_run_accepted hp he hg ht hst]
  rcases c.sendQueue with _ | ⟨m, rest⟩
  · exact .inl ⟨rfl, endsIn_ok _ _⟩
  · exact .inr ⟨m, rest, rfl, sendMessage_state m _⟩

end Transport
end NimbusIo
