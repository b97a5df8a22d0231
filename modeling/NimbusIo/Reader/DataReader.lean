/-
  NimbusIo.Reader.DataReader

  `data_reader/data_reader_main.py`: the two handlers of a retrieval
  conversation.  `retrieve-key-start` opens a row generator for a segment,
  answers with its first sequence and, while more remain, keeps the
  generator in `active-requests` under the message's state key;
  `retrieve-key-next` pops the entry, answers with the next sequence and
  puts the entry back until the last one.

  The row generator and `hashlib.md5` belong to `data_reader.reader`,
  outside the sources: they are the parameters in `ReaderEnv`.  Each reply
  `send_reply` sends is logged with the request it answers, a ghost field
  no Python code reads.  Logging and `Statgrabber` counters are left out.
-/
import NimbusIo.Rows
import Mathlib.Data.Rat.Defs

namespace NimbusIo
namespace Reader

/-- `_retrieve_timeout`, thirty minutes. -/
def retrieveTimeout : ℚ := 30 * 60

/-- `_compute_state_key`: client tag, unified id, segment number. -/
abbrev StateKey := Value × Value × Value

/-- What `generate_all_sequence_rows` produces: the row count first, then
    each sequence row with its bytes.  Any `next()` may raise instead; the
    exception's `str` is kept. -/
structure RowSource where
  count : Except String Nat
  rows : List (Except String (SequenceRow × Bytes))

/-- The generator once its count is drawn, and `yielded` rows after it. -/
structure RowIter where
  source : RowSource
  yielded : Nat

/-- `generator.next()` after the count; past the last row it raises
    `StopIteration`, whose `str` is empty. -/
def RowIter.next (g : RowIter) : Except String (SequenceRow × Bytes) × RowIter :=
  (g.source.rows.getD g.yielded (.error ""), { g with yielded := g.yielded + 1 })

@[simp] theorem RowIter.next_yielded (g : RowIter) : g.next.2.yielded = g.yielded + 1 := rfl

/-- `_retrieve_state_tuple`. -/
structure RetrieveState where
  generator : RowIter
  sequenceRowCount : Nat
  sequenceReadCount : Nat
  timeout : ℚ

/-- The reader's collaborators outside the sources. -/
structure ReaderEnv where
  /-- `state["reader"].generate_all_sequence_rows(unified_id, conjoined_part, segment_num)` -/
  generateAllSequenceRows : Value → Value → Value → RowSource
  /-- `hashlib.md5(data).digest()` -/
  md5 : Bytes → Bytes

/-- A message the dispatcher hands to a handler; `now` is `time.time()`. -/
inductive Request where
  | start (now : ℚ) (message : Control)
  | next (message : Control)

/-- The message of a request. -/
def Request.message : Request → Control
  | .start _ m => m
  | .next m => m

/-- One `send_reply(reply, data=...)`, with the request it answers (ghost). -/
structure Answer where
  request : Request
  reply : Control
  data : Body

/-- The parts of the reader's `state` the two handlers use. -/
structure ReaderState where
  activeRequests : PyDict StateKey RetrieveState
  answers : List Answer
  /-- the `event-push-client.error(event, description)` calls -/
  errorEvents : List (String × String)

/-- `_create_state()`: no active request, nothing sent. -/
def ReaderState.init : ReaderState := ⟨[], [], []⟩

-- ============================================================================
-- Keys and replies
-- ============================================================================

/-- `_compute_state_key(message)`. -/
def computeStateKey {σ : Type} (message : Control) : PyM σ StateKey := do
  let clientTag ← message.item "client-tag"
  let unifiedId ← message.item "segment-unified-id"
  let segmentNum ← message.item "segment-num"
  pure (clientTag, unifiedId, segmentNum)

/-- The state key of a message that has the three fields. -/
def stateKey? (message : Control) : Option StateKey := do
  let clientTag ← message.get? "client-tag"
  let unifiedId ← message.get? "segment-unified-id"
  let segmentNum ← message.get? "segment-num"
  pure (clientTag, unifiedId, segmentNum)

/-- `repr(state_key)`, which is also its `str`. -/
def stateKeyRepr (k : StateKey) : String :=
  "(" ++ k.1.pyRepr ++ ", " ++ k.2.1.pyRepr ++ ", " ++ k.2.2.pyRepr ++ ")"

/-- The message fields the start reply copies, in the display's order. -/
def startReplyFields : List String :=
  ["client-tag", "message-id", "segment-unified-id", "segment-conjoined-part", "segment-num"]

/-- The fields the next reply copies: those of the start but the conjoined part. -/
def nextReplyFields : List String :=
  ["client-tag", "message-id", "segment-unified-id", "segment-num"]

/-- The fields both replies leave `None` until the outcome is known. -/
def replySlots : List String :=
  ["segment-size", "zfec-padding-size", "segment-adler32", "segment-md5-digest",
   "sequence-num", "completed", "result", "error-message"]

/-- `message[k]` for each field, in order. -/
def copyFields {σ : Type} (message : Control) : List String → PyM σ Control
  | [] => pure []
  | k :: ks => do
    let v ← message.item k
    let rest ← copyFields message ks
    pure ((k, v) :: rest)

/-- The `reply = {...}` display a handler starts from. -/
def retrieveReply {σ : Type} (fields : List String) (message : Control) : PyM σ Control := do
  let copied ← copyFields message fields
  pure (("message-type", .str "retrieve-key-reply") :: copied ++ replySlots.map fun k => (k, .none))

/-- `reply["result"] = result` and `reply["error-message"] = errorMessage`. -/
def errorReply (reply : Control) (result errorMessage : String) : Control :=
  (reply.set "result" (.str result)).set "error-message" (.str errorMessage)

/-- The fields a success reply fills in, in the handlers' order. -/
def successReply (reply : Control) (sequenceNum : Nat) (completed : Bool) (row : SequenceRow) :
    Control :=
  ((((((reply.set "completed" (.bool completed)).set "sequence-num" (.int sequenceNum)).set
    "segment-size" (.int row.size)).set "zfec-padding-size" (.int row.zfecPaddingSize)).set
    "segment-adler32" (.int row.adler32)).set "segment-md5-digest" (.str (b64encode row.hash))).set
    "result" (.str "success")

-- ============================================================================
-- The handlers
-- ============================================================================

/-- `state["resilient-server"].send_reply(reply, data=data)`. -/
def sendReply (request : Request) (reply : Control) (data : Body) : PyM ReaderState Unit :=
  modify fun s => { s with answers := s.answers ++ [⟨request, reply, data⟩] }

/-- `state["event-push-client"].error(event, description)`. -/
def pushError (event description : String) : PyM ReaderState Unit :=
  modify fun s => { s with errorEvents := s.errorEvents ++ [(event, description)] }

/-- `sequence_row, data_content = generator.next()` and the md5 check, as
    both handlers make them: an exception or a mismatch is answered here,
    else the row, its bytes and the advanced generator are returned. -/
def readRow (env : ReaderEnv) (request : Request) (stateKey : StateKey) (reply : Control)
    (generator : RowIter) : PyM ReaderState (Option (SequenceRow × Bytes × RowIter)) :=
  match generator.next with
  | (.error e, _) => do
    sendReply request (errorReply reply "exception" e) .none
    pure none
  | (.ok (row, dataContent), generator') =>
    if env.md5 dataContent ≠ row.hash then do
      pushError "md5-mismatch" ("md5 mismatch " ++ stateKeyRepr stateKey)
      sendReply request
        (errorReply reply "md5-mismatch" "segment md5 does not match expected value") .none
      pure none
    else pure (some (row, dataContent, generator'))

/-- The end both handlers share: keep the entry unless this was the last
    sequence, and send the success reply with the bytes. -/
def storeAndReply (request : Request) (stateKey : StateKey) (reply : Control)
    (entry : RetrieveState) (row : SequenceRow) (dataContent : Bytes) : PyM ReaderState Unit := do
  let completed := entry.sequenceReadCount == entry.sequenceRowCount
  if !completed then
    modify fun s => { s with activeRequests := s.activeRequests.set stateKey entry }
  sendReply request (successReply reply entry.sequenceReadCount completed row) (.bytes dataContent)

/-- `_handle_retrieve_key_start`. -/
def handleRetrieveKeyStart (env : ReaderEnv) (now : ℚ) (message : Control) :
    PyM ReaderState Unit := do
  let request := Request.start now message
  let stateKey ← computeStateKey message
  let reply ← retrieveReply startReplyFields message
  let s ← get
  if s.activeRequests.contains stateKey then
    sendReply request (errorReply reply "invalid-duplicate"
      "invalid duplicate request in retrieve-key-start") .none
  else
    let unifiedId ← message.item "segment-unified-id"
    let conjoinedPart ← message.item "segment-conjoined-part"
    let segmentNum ← message.item "segment-num"
    let source := env.generateAllSequenceRows unifiedId conjoinedPart segmentNum
    match source.count with
    | .error e => throw (.raised e)
    | .ok sequenceRowCount =>
      if sequenceRowCount = 0 then
        sendReply request (errorReply reply "no-sequence-rows" "no sequence rows found") .none
      else
        match ← readRow env request stateKey reply ⟨source, 0⟩ with
        | none => pure ()
        | some (row, dataContent, generator) =>
          storeAndReply request stateKey reply
            ⟨generator, sequenceRowCount, 1, now + retrieveTimeout⟩ row dataContent

/-- `_handle_retrieve_key_next`. -/
def handleRetrieveKeyNext (env : ReaderEnv) (message : Control) : PyM ReaderState Unit := do
  let request := Request.next message
  let stateKey ← computeStateKey message
  let reply ← retrieveReply nextReplyFields message
  let s ← get
  match s.activeRequests.get? stateKey with
  | none =>
    sendReply request
      (errorReply reply "unknown-request" ("unknown request " ++ stateKeyRepr stateKey)) .none
  | some entry =>
    set { s with activeRequests := s.activeRequests.erase stateKey }
    match ← readRow env request stateKey reply entry.generator with
    | none => pure ()
    | some (row, dataContent, generator) =>
      storeAndReply request stateKey reply
        { entry with generator := generator, sequenceReadCount := entry.sequenceReadCount + 1 }
        row dataContent

/-- The handler `_dispatch_table` picks for a request. -/
def Request.handle (env : ReaderEnv) : Request → PyM ReaderState Unit
  | .start now message => handleRetrieveKeyStart env now message
  | .next message => handleRetrieveKeyNext env message

/-- The reader after handling a request, whether the handler returned or raised. -/
def ReaderState.step (env : ReaderEnv) (s : ReaderState) (request : Request) : ReaderState :=
  resultState ((request.handle env).run s)

/-- The states the reader reaches from `_create_state()` on any requests. -/
inductive Reachable (env : ReaderEnv) : ReaderState → Prop where
  | init : Reachable env ReaderState.init
  | step {s : ReaderState} (request : Request) :
      Reachable env s → Reachable env (s.step env request)

-- ============================================================================
-- Reading the answers
-- ============================================================================

/-- The answer reports `success`. -/
def Answer.succeeded (a : Answer) : Bool := a.reply.get? "result" = some (.str "success")

/-- The answer rejects a start as `invalid-duplicate`. -/
def Answer.rejected (a : Answer) : Bool := a.reply.get? "result" = some (.str "invalid-duplicate")

/-- The answer's `completed` is `True`. -/
def Answer.completed (a : Answer) : Bool := a.reply.get? "completed" = some (.bool true)

/-- The answer is a success reply for a sequence row, sent with bytes
    whose md5 is the row's hash. -/
def Answer.Delivers (env : ReaderEnv) (a : Answer) : Prop :=
  ∃ reply sequenceNum completed row data, a.reply = successReply reply sequenceNum completed row ∧
    a.data = .bytes data ∧ env.md5 data = row.hash

theorem Answer.delivers_successReply {env : ReaderEnv} {request : Request} {reply : Control}
    {sequenceNum : Nat} {completed : Bool} {row : SequenceRow} {data : Bytes}
    (h : env.md5 data = row.hash) :
    Answer.Delivers env ⟨request, successReply reply sequenceNum completed row, .bytes data⟩ :=
  ⟨reply, sequenceNum, completed, row, data, by dsimp only, rfl, h⟩

/-- The message has every field of the list. -/
def hasFields (message : Control) (fields : List String) : Bool :=
  fields.all fun k => (message.get? k).isSome

/-- The reply display once every copied field is present. -/
def replyTemplate (fields : List String) (message : Control) : Control :=
  ("message-type", .str "retrieve-key-reply") ::
    fields.map (fun k => (k, (message.get? k).getD .none)) ++ replySlots.map fun k => (k, .none)

/-- The generator a start on `message` opens. -/
def startSource (env : ReaderEnv) (message : Control) : RowSource :=
  env.generateAllSequenceRows ((message.get? "segment-unified-id").getD .none)
    ((message.get? "segment-conjoined-part").getD .none) ((message.get? "segment-num").getD .none)

/-- The row count that generator reports (none when it raises). -/
def startRowCount (env : ReaderEnv) (message : Control) : Nat :=
  match (startSource env message).count with
  | .ok n => n
  | .error _ => 0

-- ============================================================================
-- What each piece does
-- ============================================================================

section Pieces

variable {σ : Type}

theorem stateKey?_eq_some {m : Control} {t u n : Value} :
    stateKey? m = some (t, u, n) ↔ m.get? "client-tag" = some t ∧
      m.get? "segment-unified-id" = some u ∧ m.get? "segment-num" = some n := by
  simp only [stateKey?]
  cases m.get? "client-tag" <;> cases m.get? "segment-unified-id" <;>
    cases m.get? "segment-num" <;> simp [and_assoc]

theorem run_computeStateKey {m : Control} {k : StateKey} (h : stateKey? m = some k) (s : σ) :
    (computeStateKey m : PyM σ StateKey).run s = .ok k s := by
  obtain ⟨t, u, n⟩ := k
  obtain ⟨h1, h2, h3⟩ := stateKey?_eq_some.mp h
  simp [computeStateKey, h1, h2, h3]

theorem computeStateKey_run_none {m : Control} (h : stateKey? m = none) (s : σ) :
    ∃ e, (computeStateKey m : PyM σ StateKey).run s = .error e s := by
  simp only [stateKey?] at h
  simp only [computeStateKey, Control.item, PyM.run_bind]
  revert h
  cases m.get? "client-tag" <;> cases m.get? "segment-unified-id" <;>
    cases m.get? "segment-num" <;> simp

theorem run_copyFields {m : Control} {ks : List String} (h : hasFields m ks) (s : σ) :
    (copyFields m ks : PyM σ Control).run s = .ok (ks.map fun k => (k, (m.get? k).getD .none)) s := by
  induction ks with
  | nil => rfl
  | cons k ks ih =>
    simp only [hasFields, List.all_cons, Bool.and_eq_true] at h
    obtain ⟨v, hv⟩ := Option.isSome_iff_exists.mp h.1
    simp [copyFields, hv, ih h.2]

theorem copyFields_run_error {m : Control} {ks : List String} (h : hasFields m ks = false)
    (s : σ) : ∃ e, (copyFields m ks : PyM σ Control).run s = .error e s := by
  induction ks with
  | nil => simp [hasFields] at h
  | cons k ks ih =>
    simp only [hasFields, List.all_cons, Bool.and_eq_false_iff] at h
    cases hv : m.get? k with
    | none => exact ⟨.keyError k, by simp [copyFields, PyM.run_item_of_get?_none hv]⟩
    | some v =>
      obtain ⟨e, he⟩ := ih (by simpa [hasFields, hv] using h)
      exact ⟨e, by simp [copyFields, hv, he]⟩

theorem run_retrieveReply {fields : List String} {m : Control} (h : hasFields m fields) (s : σ) :
    (retrieveReply fields m : PyM σ Control).run s = .ok (replyTemplate fields m) s := by
  simp [retrieveReply, replyTemplate, run_copyFields h]

theorem retrieveReply_run_error {fields : List String} {m : Control} (h : hasFields m fields = false)
    (s : σ) : ∃ e, (retrieveReply fields m : PyM σ Control).run s = .error e s := by
  obtain ⟨e, he⟩ := copyFields_run_error h s
  exact ⟨e, by simp [retrieveReply, he]⟩

@[simp] theorem errorReply_result (reply : Control) (result errorMessage : String) :
    (errorReply reply result errorMessage).get? "result" = some (.str result) := by
  simp [errorReply, PyDict.get?_set]

@[simp] theorem successReply_result (reply : Control) (n : Nat) (c : Bool) (row : SequenceRow) :
    (successReply reply n c row).get? "result" = some (.str "success") := by
  simp [successReply]

@[simp] theorem successReply_sequenceNum (reply : Control) (n : Nat) (c : Bool) (row : SequenceRow) :
    (successReply reply n c row).get? "sequence-num" = some (.int n) := by
  simp [successReply, PyDict.get?_set]

@[simp] theorem successReply_completed (reply : Control) (n : Nat) (c : Bool) (row : SequenceRow) :
    (successReply reply n c row).get? "completed" = some (.bool c) := by
  simp [successReply, PyDict.get?_set]

@[simp] theorem successReply_segmentSize (reply : Control) (n : Nat) (c : Bool) (row : SequenceRow) :
    (successReply reply n c row).get? "segment-size" = some (.int row.size) := by
  simp [successReply, PyDict.get?_set]

@[simp] theorem successReply_zfecPaddingSize (reply : Control) (n : Nat) (c : Bool)
    (row : SequenceRow) :
    (successReply reply n c row).get? "zfec-padding-size" = some (.int row.zfecPaddingSize) := by
  simp [successReply, PyDict.get?_set]

@[simp] theorem successReply_md5Digest (reply : Control) (n : Nat) (c : Bool) (row : SequenceRow) :
    (successReply reply n c row).get? "segment-md5-digest" = some (.str (b64encode row.hash)) := by
  simp [successReply, PyDict.get?_set]

theorem readRow_cases (env : ReaderEnv) (request : Request) (k : StateKey) (reply : Control)
    (g : RowIter) (s : ReaderState) :
    (∃ a events, a.request = request ∧ a.rejected = false ∧ a.succeeded = false ∧
      (readRow env request k reply g).run s =
        .ok none { s with answers := s.answers ++ [a], errorEvents := events }) ∨
    (∃ row data, g.next.1 = .ok (row, data) ∧ env.md5 data = row.hash ∧
      (readRow env request k reply g).run s = .ok (some (row, data, g.next.2)) s) := by
  unfold readRow
  rcases hg : g.next with ⟨_ | ⟨row, data⟩, g'⟩
  case error e =>
    exact .inl ⟨⟨request, errorReply reply "exception" e, .none⟩, s.errorEvents, rfl,
      by simp [Answer.rejected], by simp [Answer.succeeded], by simp [sendReply]⟩
  by_cases hm : env.md5 data = row.hash
  · exact .inr ⟨row, data, rfl, hm, by simp [hm]⟩
  · exact .inl ⟨⟨request, errorReply reply "md5-mismatch"
      "segment md5 does not match expected value", .none⟩,
      s.errorEvents ++ [("md5-mismatch", "md5 mismatch " ++ stateKeyRepr k)], rfl,
      by simp [Answer.rejected], by simp [Answer.succeeded], by simp [hm, sendReply, pushError]⟩

theorem readRow_ok {env : ReaderEnv} {request : Request} {k : StateKey} {reply : Control}
    {g : RowIter} {s : ReaderState} {row : SequenceRow} {data : Bytes}
    (hg : g.next.1 = .ok (row, data)) (hmd5 : env.md5 data = row.hash) :
    (readRow env request k reply g).run s = .ok (some (row, data, g.next.2)) s := by
  unfold readRow
  rcases hg' : g.next with ⟨r, g'⟩
  rw [hg'] at hg
  subst hg
  simp [hmd5]

theorem storeAndReply_run (request : Request) (k : StateKey) (reply : Control)
    (entry : RetrieveState) (row : SequenceRow) (data : Bytes) (s : ReaderState) :
    (storeAndReply request k reply entry row data).run s = .ok ()
      { s with
        activeRequests := if entry.sequenceReadCount = entry.sequenceRowCount then s.activeRequests
          else s.activeRequests.set k entry,
        answers := s.answers ++ [⟨request, successReply reply entry.sequenceReadCount
          (entry.sequenceReadCount == entry.sequenceRowCount) row, .bytes data⟩] } := by
  by_cases h : entry.sequenceReadCount = entry.sequenceRowCount <;>
    simp [storeAndReply, sendReply, h]

/-- What `_handle_retrieve_key_start` can do: raise and change nothing, or
    send one answer, which rejects a duplicate, reports a failure, or
    delivers the first sequence and keeps the entry unless it was the last. -/
theorem handleRetrieveKeyStart_cases {env : ReaderEnv} {now : ℚ} {m : Control}
    {s s' : ReaderState} (h : resultState ((handleRetrieveKeyStart env now m).run s) = s') :
    s' = s ∨ ∃ k a, stateKey? m = some k ∧ a.request = .start now m ∧
      s'.answers = s.answers ++ [a] ∧
      ((s.activeRequests.contains k ∧ a.rejected ∧ s'.activeRequests = s.activeRequests) ∨
       (s.activeRequests.get? k = none ∧ a.rejected = false ∧ a.succeeded = false ∧
          s'.activeRequests = s.activeRequests) ∨
       (s.activeRequests.get? k = none ∧ a.succeeded ∧ a.Delivers env ∧
          a.reply.get? "sequence-num" = some (.int 1) ∧
          a.completed = (1 == startRowCount env m) ∧ 0 < startRowCount env m ∧
          s'.activeRequests = if 1 = startRowCount env m then s.activeRequests
            else s.activeRequests.set k
              ⟨⟨startSource env m, 1⟩, startRowCount env m, 1, now + retrieveTimeout⟩)) := by
  subst h
  simp only [handleRetrieveKeyStart, PyM.run_bind]
  cases hk : stateKey? m with
  | none =>
    obtain ⟨e, he⟩ := computeStateKey_run_none hk s
    exact .inl (by simp [he])
  | some k =>
    simp only [run_computeStateKey hk]
    cases hf : hasFields m startReplyFields with
    | false =>
      obtain ⟨e, he⟩ := retrieveReply_run_error hf s
      exact .inl (by simp [he])
    | true =>
      simp only [run_retrieveReply hf, PyM.run_get]
      by_cases hc : s.activeRequests.contains k
      · simp only [hc, if_true, sendReply, PyM.run_modify, resultState_ok]
        exact .inr ⟨k, _, rfl, rfl, rfl, .inl ⟨hc, by simp [Answer.rejected], trivial⟩⟩
      have hnone : s.activeRequests.get? k = none := by simpa [PyDict.contains] using hc
      obtain ⟨t, u, n⟩ := k
      obtain ⟨-, hu, hn⟩ := stateKey?_eq_some.mp hk
      obtain ⟨p, hp⟩ : ∃ p, m.get? "segment-conjoined-part" = some p :=
        Option.isSome_iff_exists.mp (by simp_all [hasFields, startReplyFields])
      have hsrc : env.generateAllSequenceRows u p n = startSource env m := by
        simp [startSource, hu, hp, hn]
      simp only [hc, Bool.false_eq_true, if_false, PyM.run_bind, PyM.run_item_of_get? hu,
        PyM.run_item_of_get? hp, PyM.run_item_of_get? hn, hsrc]
      cases hK : (startSource env m).count with
      | error e => exact .inl (by simp)
      | ok K =>
        have hrows : startRowCount env m = K := by simp [startRowCount, hK]
        simp only [hrows]
        by_cases hK0 : K = 0
        · simp only [hK0, if_true, sendReply, PyM.run_modify, resultState_ok]
          exact .inr ⟨_, _, rfl, rfl, rfl, .inr (.inl ⟨hnone, by simp [Answer.rejected],
            by simp [Answer.succeeded], trivial⟩)⟩
        simp only [hK0, if_false, PyM.run_bind]
        rcases readRow_cases env (.start now m) (t, u, n) (replyTemplate startReplyFields m)
          ⟨startSource env m, 0⟩ s with ⟨a, events, ha, hrej, hsucc, hr⟩ | ⟨row, data, -, hmd5, hr⟩
        · simp only [hr, PyM.run_pure, resultState_ok]
          exact .inr ⟨_, a, rfl, ha, rfl, .inr (.inl ⟨hnone, hrej, hsucc, trivial⟩)⟩
        · simp only [hr, storeAndReply_run, resultState_ok]
          refine .inr ⟨_, _, rfl, rfl, rfl, .inr (.inr ⟨hnone, by simp [Answer.succeeded], ?_,
            by simp, by simp [Answer.completed, Bool.beq_eq_decide_eq], Nat.pos_of_ne_zero hK0, ?_⟩)⟩
          · exact Answer.delivers_successReply hmd5
          · rfl

/-- What `_handle_retrieve_key_next` can do: raise and change nothing, or
    send one answer: `unknown-request` when no entry is kept; otherwise the
    entry is popped, and put back advanced after a success that is not the
    last. -/
theorem handleRetrieveKeyNext_cases {env : ReaderEnv} {m : Control} {s s' : ReaderState}
    (h : resultState ((handleRetrieveKeyNext env m).run s) = s') :
    s' = s ∨ ∃ k a, stateKey? m = some k ∧ a.request = .next m ∧
      s'.answers = s.answers ++ [a] ∧
      ((s.activeRequests.get? k = none ∧ a.reply.get? "result" = some (.str "unknown-request") ∧
          s'.activeRequests = s.activeRequests) ∨
       (∃ e, s.activeRequests.get? k = some e ∧ a.succeeded = false ∧
          s'.activeRequests = s.activeRequests.erase k) ∨
       (∃ e, s.activeRequests.get? k = some e ∧ a.succeeded ∧ a.Delivers env ∧
          a.reply.get? "sequence-num" = some (.int (e.sequenceReadCount + 1)) ∧
          a.completed = (e.sequenceReadCount + 1 == e.sequenceRowCount) ∧
          s'.activeRequests = if e.sequenceReadCount + 1 = e.sequenceRowCount
            then s.activeRequests.erase k
            else (s.activeRequests.erase k).set k
              { e with generator := e.generator.next.2,
                       sequenceReadCount := e.sequenceReadCount + 1 })) := by
  subst h
  simp only [handleRetrieveKeyNext, PyM.run_bind]
  cases hk : stateKey? m with
  | none =>
    obtain ⟨e, he⟩ := computeStateKey_run_none hk s
    exact .inl (by simp [he])
  | some k =>
    simp only [run_computeStateKey hk]
    cases hf : hasFields m nextReplyFields with
    | false =>
      obtain ⟨e, he⟩ := retrieveReply_run_error hf s
      exact .inl (by simp [he])
    | true =>
      simp only [run_retrieveReply hf, PyM.run_get]
      cases he : s.activeRequests.get? k with
      | none =>
        simp only [sendReply, PyM.run_modify, resultState_ok]
        exact .inr ⟨k, _, rfl, rfl, rfl, .inl ⟨he, by simp, trivial⟩⟩
      | some e =>
        simp only [PyM.run_set, PyM.run_bind]
        rcases readRow_cases env (.next m) k (replyTemplate nextReplyFields m) e.generator
            { s with activeRequests := s.activeRequests.erase k } with
          ⟨a, events, ha, -, hsucc, hr⟩ | ⟨row, data, -, hmd5, hr⟩
        · simp only [hr, PyM.run_pure, resultState_ok]
          exact .inr ⟨k, a, rfl, ha, rfl, .inr (.inl ⟨e, he, hsucc, rfl⟩)⟩
        · simp only [hr, storeAndReply_run, resultState_ok]
          refine .inr ⟨k, _, rfl, rfl, rfl, .inr (.inr ⟨e, he, by simp [Answer.succeeded], ?_,
            by simp, by simp [Answer.completed, Bool.beq_eq_decide_eq], rfl⟩)⟩
          exact Answer.delivers_successReply hmd5

/-- A start on a key that has an entry is rejected as a duplicate. -/
theorem handleRetrieveKeyStart_duplicate {env : ReaderEnv} {now : ℚ} {m : Control} {k : StateKey}
    {s : ReaderState} (hk : stateKey? m = some k) (hf : hasFields m startReplyFields)
    (hc : s.activeRequests.contains k) :
    (handleRetrieveKeyStart env now m).run s = .ok ()
      { s with answers := s.answers ++ [⟨.start now m, errorReply (replyTemplate startReplyFields m)
          "invalid-duplicate" "invalid duplicate request in retrieve-key-start", .none⟩] } := by
  simp [handleRetrieveKeyStart, run_computeStateKey hk, run_retrieveReply hf, hc, sendReply]

/-- A next on a key without an entry is answered `unknown-request`. -/
theorem handleRetrieveKeyNext_unknown {env : ReaderEnv} {m : Control} {k : StateKey}
    {s : ReaderState} (hk : stateKey? m = some k) (hf : hasFields m nextReplyFields)
    (hnone : s.activeRequests.get? k = none) :
    (handleRetrieveKeyNext env m).run s = .ok ()
      { s with answers := s.answers ++ [⟨.next m, errorReply (replyTemplate nextReplyFields m)
          "unknown-request" ("unknown request " ++ stateKeyRepr k), .none⟩] } := by
  simp [handleRetrieveKeyNext, run_computeStateKey hk, run_retrieveReply hf, hnone, sendReply]

/-- A start on a free key whose generator counts `K > 0` rows and whose
    first row matches its hash delivers that row, and keeps the generator
    unless `K = 1`. -/
theorem handleRetrieveKeyStart_first {env : ReaderEnv} {now : ℚ} {m : Control} {k : StateKey}
    {s : ReaderState} {K : Nat} {row : SequenceRow} {data : Bytes}
    (hk : stateKey? m = some k) (hf : hasFields m startReplyFields)
    (hnone : s.activeRequests.get? k = none) (hK : (startSource env m).count = .ok K) (hK0 : K ≠ 0)
    (hrow : (startSource env m).rows.getD 0 (.error "") = .ok (row, data))
    (hmd5 : env.md5 data = row.hash) :
    (handleRetrieveKeyStart env now m).run s = .ok ()
      { s with
        activeRequests := if 1 = K then s.activeRequests
          else s.activeRequests.set k ⟨⟨startSource env m, 1⟩, K, 1, now + retrieveTimeout⟩,
        answers := s.answers ++ [⟨.start now m,
          successReply (replyTemplate startReplyFields m) 1 (1 == K) row, .bytes data⟩] } := by
  obtain ⟨t, u, n⟩ := k
  obtain ⟨-, hu, hn⟩ := stateKey?_eq_some.mp hk
  obtain ⟨p, hp⟩ : ∃ p, m.get? "segment-conjoined-part" = some p :=
    Option.isSome_iff_exists.mp (by simp_all [hasFields, startReplyFields])
  have hsrc : env.generateAllSequenceRows u p n = startSource env m := by
    simp [startSource, hu, hp, hn]
  have hc : s.activeRequests.contains (t, u, n) = false := by simp [PyDict.contains, hnone]
  simp only [handleRetrieveKeyStart, PyM.run_bind, run_computeStateKey hk, run_retrieveReply hf,
    PyM.run_get, hc, Bool.false_eq_true, if_false, PyM.run_item_of_get? hu,
    PyM.run_item_of_get? hp, PyM.run_item_of_get? hn, hsrc, hK, hK0,
    readRow_ok (show (RowIter.next ⟨startSource env m, 0⟩).1 = _ from hrow) hmd5, storeAndReply_run]
  rfl

/-- A next on a key whose entry's generator yields a row matching its hash
    delivers that row, and puts the advanced entry back unless it was the
    last sequence. -/
theorem handleRetrieveKeyNext_next {env : ReaderEnv} {m : Control} {k : StateKey} {s : ReaderState}
    {e : RetrieveState} {row : SequenceRow} {data : Bytes} (hk : stateKey? m = some k)
    (hf : hasFields m nextReplyFields) (he : s.activeRequests.get? k = some e)
    (hrow : e.generator.next.1 = .ok (row, data)) (hmd5 : env.md5 data = row.hash) :
    (handleRetrieveKeyNext env m).run s = .ok ()
      { s with
        activeRequests := if e.sequenceReadCount + 1 = e.sequenceRowCount
          then s.activeRequests.erase k
          else (s.activeRequests.erase k).set k
            { e with generator := e.generator.next.2, sequenceReadCount := e.sequenceReadCount + 1 },
        answers := s.answers ++ [⟨.next m, successReply (replyTemplate nextReplyFields m)
          (e.sequenceReadCount + 1) (e.sequenceReadCount + 1 == e.sequenceRowCount) row,
          .bytes data⟩] } := by
  simp only [handleRetrieveKeyNext, PyM.run_bind, run_computeStateKey hk, run_retrieveReply hf,
    PyM.run_get, he, PyM.run_set, readRow_ok hrow hmd5, storeAndReply_run]

end Pieces

end Reader
end NimbusIo
