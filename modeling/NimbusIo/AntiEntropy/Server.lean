/-
  NimbusIo.AntiEntropy.Server

  `anti_entropy_server/anti_entropy_server_main.py`: the auditor.  A check
  of a collection is started by `_start_consistency_check` (for the
  consistency-check starter and the retry manager) or by an
  `anti-entropy-audit-request`; it asks every node for its consistency
  hash and waits in `active-requests` under `(collection_id, timestamp)`.
  Each node answers with `_handle_consistency_check`; the auditor collects
  the first reply of each node in `_handle_consistency_check_reply` and,
  once every node has answered, groups the digests and records a verdict.

  The collaborators outside the sources are parameters: the database
  calls are logged as `AuditCall`s, `create_timestamp()`, `time.time()`,
  `retry_time()` and the row id `start_audit` returns are event
  arguments, and `max_retry_count`, `parse_timestamp_repr`, the status
  codes and `hashlib.md5` are in `AuditEnv`.  Python 2 iterates a dict in
  an order of its own; the model iterates in insertion order, and the
  results proved about the verdict do not depend on it.
-/
import NimbusIo.Rows
import Mathlib.Data.Rat.Defs

namespace NimbusIo
namespace AntiEntropy

/-- `_request_timeout`, five minutes. -/
def requestTimeout : ℚ := 5 * 60

/-- `_error_reply`: how a node's error reply is recorded. -/
def errorReplyMarker : Value := .str "*** error ***"

/-- The auditor's collaborators outside the sources. -/
structure AuditEnv where
  /-- `len(state["anti-entropy-clients"])`: one client per node -/
  clientCount : Nat
  /-- `max_retry_count` of `anti_entropy_server.common` -/
  maxRetryCount : Nat
  /-- `parse_timestamp_repr` of `tools.data_definitions` -/
  parseTimestampRepr : Value → Timestamp
  /-- the one-letter codes `nimbusio_node.segment.status` stores -/
  statusCode : SegmentStatus → Char
  /-- `hashlib.md5(data).digest()` -/
  md5 : Bytes → Bytes
  /-- `_local_node_name` -/
  localNodeName : String

/-- What `request_state.replies` records for a node. -/
inductive NodeReply where
  /-- `_error_reply` -/
  | error
  /-- `(message["count"], message["encoded-md5-digest"])` -/
  | success (count encodedMd5Digest : Value)
  deriving DecidableEq, Repr

/-- `_request_state_tuple`; `clientTag` is `None` for a scheduled check. -/
structure RequestState where
  clientTag : Value
  timestamp : Timestamp
  timeout : ℚ
  retryCount : Nat
  replies : PyDict Value NodeReply
  rowId : Int

/-- `retry_entry_tuple`. -/
structure RetryEntry where
  retryTime : ℚ
  collectionId : Value
  rowId : Int
  retryCount : Nat

/-- A call on `AuditResultDatabase`. -/
inductive AuditCall where
  | startAudit (collectionId : Value) (timestamp : Timestamp)
  | restartAudit (rowId : Int) (timestamp : Timestamp)
  | successfulAudit (rowId : Int) (timestamp : Timestamp)
  | auditError (rowId : Int) (timestamp : Timestamp)
  | waitForRetry (rowId : Int)
  deriving DecidableEq

/-- The methods of `EventPushClient` the auditor calls. -/
inductive EventLevel where
  | info
  | warn
  | error

/-- One event pushed, with its keyword arguments. -/
structure PushedEvent where
  level : EventLevel
  name : String
  description : String
  details : PyDict String Value

/-- The parts of the auditor's `state` its handlers use. -/
structure AuditState where
  activeRequests : PyDict (Value × Timestamp) RequestState
  retryList : List RetryEntry
  /-- `queue_message_for_send(request)`, by index of the anti-entropy client -/
  queued : List (Nat × Control)
  /-- `state["resilient-server"].send_reply(...)` -/
  sentReplies : List Control
  events : List PushedEvent
  audits : List AuditCall

/-- `_create_state()`. -/
def AuditState.init : AuditState := ⟨[], [], [], [], [], []⟩

-- ============================================================================
-- Effects
-- ============================================================================

/-- A call on the central `AuditResultDatabase`. -/
def auditCall (call : AuditCall) : PyM AuditState Unit :=
  modify fun s => { s with audits := s.audits ++ [call] }

/-- `state["event-push-client"].info`, `.warn` or `.error`. -/
def pushEvent (level : EventLevel) (name description : String) (details : PyDict String Value) :
    PyM AuditState Unit :=
  modify fun s => { s with events := s.events ++ [⟨level, name, description, details⟩] }

/-- `state["resilient-server"].send_reply(reply)`. -/
def sendReply (reply : Control) : PyM AuditState Unit :=
  modify fun s => { s with sentReplies := s.sentReplies ++ [reply] }

/-- `state["retry-list"].append(entry)`. -/
def addRetry (entry : RetryEntry) : PyM AuditState Unit :=
  modify fun s => { s with retryList := s.retryList ++ [entry] }

/-- `for anti_entropy_client in state["anti-entropy-clients"]: queue_message_for_send(request)`. -/
def queueForAllClients (env : AuditEnv) (request : Control) : PyM AuditState Unit :=
  modify fun s => { s with queued := s.queued ++ (List.range env.clientCount).map fun i => (i, request) }

-- ============================================================================
-- Starting a check
-- ============================================================================

/-- The `consistency-check` request sent to every node. -/
def consistencyCheckRequest (collectionId : Value) (timestamp : Timestamp) : Control :=
  [("message-type", .str "consistency-check"), ("collection-id", collectionId),
   ("timestamp-repr", .str timestamp.repr)]

/-- `_start_consistency_check(state, collection_id, row_id, retry_count)`;
    `newRowId` is what `start_audit` returns when `row_id` is `None`. -/
def startConsistencyCheck (env : AuditEnv) (collectionId : Value) (rowId : Option Int)
    (retryCount : Nat) (timestamp : Timestamp) (now : ℚ) (newRowId : Int) : PyM AuditState Unit := do
  let rowId ← match rowId with
    | none => do
      auditCall (.startAudit collectionId timestamp)
      pure newRowId
    | some rowId => do
      auditCall (.restartAudit rowId timestamp)
      pure rowId
  modify fun s => { s with
    activeRequests := s.activeRequests.set (collectionId, timestamp)
      ⟨.none, timestamp, now + requestTimeout, retryCount, [], rowId⟩ }
  queueForAllClients env (consistencyCheckRequest collectionId timestamp)

/-- `_handle_anti_entropy_audit_request`: `message["client-tag"]` is read
    after `start_audit`, when the entry is built. -/
def handleAntiEntropyAuditRequest (env : AuditEnv) (message : Control) (timestamp : Timestamp)
    (now : ℚ) (newRowId : Int) : PyM AuditState Unit := do
  let collectionId ← message.item "collection-id"
  auditCall (.startAudit collectionId timestamp)
  let clientTag ← message.item "client-tag"
  modify fun s => { s with
    activeRequests := s.activeRequests.set (collectionId, timestamp)
      ⟨clientTag, timestamp, now + requestTimeout, env.maxRetryCount, [], newRowId⟩ }
  queueForAllClients env (consistencyCheckRequest collectionId timestamp)

-- ============================================================================
-- A node's consistency hash
-- ============================================================================

/-- The bytes of a `str`. -/
def strBytes (s : String) : Bytes := s.toUTF8.toList

/-- The loop of `ByteArray.toList` reads the array's list from index `i` on. -/
theorem byteArray_toList_loop (l : List UInt8) (i : Nat) (r : List UInt8) :
    ByteArray.toList.loop ⟨⟨l⟩⟩ i r = r.reverse ++ l.drop i := by
  rw [ByteArray.toList.loop]
  split
  · rename_i hi
    have hi : i < l.length := hi
    have hget : ByteArray.get! ⟨⟨l⟩⟩ i = l[i] := dif_pos hi
    rw [byteArray_toList_loop l (i + 1), List.reverse_cons, List.append_assoc, List.singleton_append,
      hget, ← List.drop_eq_getElem_cons hi]
  · rename_i hi
    simp [List.drop_eq_nil_of_le (Nat.le_of_not_lt hi : l.length ≤ i)]
termination_by l.length - i
decreasing_by exact Nat.sub_lt_sub_left hi (Nat.lt_succ_self i)

/-- The bytes of a `str` are the UTF-8 encodings of its characters. -/
theorem strBytes_eq (s : String) : strBytes s = s.data.flatMap String.utf8EncodeChar :=
  (byteArray_toList_loop (s.data.flatMap String.utf8EncodeChar) 0 []).trans (by simp)

/-- Lexicographic `<` on lists of numbers, as tuples and strings compare. -/
def lexLt : List Nat → List Nat → Bool
  | [], [] => false
  | [], _ :: _ => true
  | _ :: _, [] => false
  | a :: as, b :: bs => a < b || (a == b && lexLt as bs)

theorem lexLt_irrefl (a : List Nat) : lexLt a a = false := by
  induction a with
  | nil => rfl
  | cons x xs ih => simp [lexLt, ih]

theorem lexLt_asymm {a b : List Nat} (h : lexLt a b = true) : lexLt b a = false := by
  induction a generalizing b with
  | nil => cases b <;> simp_all [lexLt]
  | cons x xs ih =>
    cases b with
    | nil => simp [lexLt] at h
    | cons y ys =>
      simp only [lexLt, Bool.or_eq_true, decide_eq_true_eq, Bool.and_eq_true, beq_iff_eq] at h
      rcases h with h | ⟨rfl, h⟩
      · simp [lexLt, Nat.not_lt_of_lt h, Nat.ne_of_gt h]
      · simp [lexLt, ih h]

theorem lexLt_trans {a b c : List Nat} (hab : lexLt a b = true) (hbc : lexLt b c = true) :
    lexLt a c = true := by
  induction a generalizing b c with
  | nil => cases b <;> cases c <;> simp_all [lexLt]
  | cons x xs ih =>
    cases b with
    | nil => simp [lexLt] at hab
    | cons y ys =>
      cases c with
      | nil => simp [lexLt] at hbc
      | cons z zs =>
        simp only [lexLt, Bool.or_eq_true, decide_eq_true_eq, Bool.and_eq_true, beq_iff_eq] at hab hbc ⊢
        rcases hab with hab | ⟨rfl, hab⟩ <;> rcases hbc with hbc | ⟨rfl, hbc⟩
        · exact .inl (Nat.lt_trans hab hbc)
        · exact .inl hab
        · exact .inl hbc
        · exact .inr ⟨rfl, ih hab hbc⟩

theorem lexLt_total {a b : List Nat} (h : a ≠ b) : lexLt a b = true ∨ lexLt b a = true := by
  induction a generalizing b with
  | nil => cases b <;> simp_all [lexLt]
  | cons x xs ih =>
    cases b with
    | nil => simp [lexLt]
    | cons y ys =>
      simp only [lexLt, Bool.or_eq_true, decide_eq_true_eq, Bool.and_eq_true, beq_iff_eq]
      rcases Nat.lt_trichotomy x y with hxy | rfl | hxy
      · exact .inl (.inl hxy)
      · rcases ih (fun e => h (e ▸ rfl)) with h' | h'
        · exact .inl (.inr ⟨rfl, h'⟩)
        · exact .inr (.inr ⟨rfl, h'⟩)
      · exact .inr (.inl hxy)

/-- `order by key, timestamp`, keys compared by code point. -/
def rowLe (r r' : SegmentRow) : Bool :=
  lexLt (r.key.toList.map Char.toNat) (r'.key.toList.map Char.toNat) ||
    (r.key == r'.key && !lexLt r'.timestamp.fields r.timestamp.fields)

/-- The rows the consistency query selects: the collection's rows with
    status `'A'` and a null `handoff_node_id`, ordered by key and timestamp. -/
def consistencyRows (env : AuditEnv) (table : List SegmentRow) (collectionId : Value) :
    List SegmentRow :=
  (table.filter fun r => Value.int r.collectionId == collectionId &&
    env.statusCode r.status == 'A' && r.handoffNodeId.isNone).mergeSort rowLe

/-- `str(file_hash)`: the stored bytes, or `None` for a null hash. -/
def fileHashStr : Option Bytes → Bytes
  | some b => b
  | none => strBytes "None"

/-- What one row feeds to MD5: its key, `repr(timestamp)` and `str(file_hash)`. -/
def rowDigestInput (r : SegmentRow) : Bytes :=
  strBytes r.key ++ strBytes r.timestamp.repr ++ fileHashStr r.fileHash

/-- `_handle_consistency_check` on the node-local `table`. -/
def handleConsistencyCheck (env : AuditEnv) (table : List SegmentRow) (message : Control) :
    PyM AuditState Unit := do
  let clientTag ← message.item "client-tag"
  let collectionId ← message.item "collection-id"
  let timestampRepr ← message.item "timestamp-repr"
  let reply : Control :=
    [("message-type", .str "consistency-check-reply"), ("client-tag", clientTag),
     ("node-name", .str env.localNodeName), ("collection-id", collectionId),
     ("timestamp-repr", timestampRepr), ("result", .none), ("count", .none),
     ("encoded-md5-digest", .none), ("error-message", .none)]
  let rows := consistencyRows env table collectionId
  let reply := ((reply.set "result" (.str "success")).set "count" (.int rows.length)).set
    "encoded-md5-digest" (.str (b64encode (env.md5 (rows.map rowDigestInput).flatten)))
  sendReply reply

-- ============================================================================
-- Collecting the replies
-- ============================================================================

/-- The dict key a node's reply is grouped under. -/
def NodeReply.groupKey : NodeReply → Value
  | .error => errorReplyMarker
  | .success _ digest => digest

/-- One turn of the loop over `request_state.replies`: append the node to
    the list of its reply, creating the list at the first such node. -/
def addToGroup (groups : PyDict Value (List Value)) (item : Value × NodeReply) :
    PyDict Value (List Value) :=
  groups.set item.2.groupKey ((groups.get? item.2.groupKey).getD [] ++ [item.1])

/-- `md5_digest_dict`: the nodes grouped by reply, errors under the marker. -/
def digestGroups (replies : PyDict Value NodeReply) : PyDict Value (List Value) :=
  replies.foldl addToGroup [(errorReplyMarker, [])]

/-- `"mistmatch-nodes-%s" % (index+1, )`. -/
def mismatchKey (index : Nat) : String := "mistmatch-nodes-" ++ toString (index + 1)

/-- `reply["mistmatch-nodes-%s" % (index+1, )] = value` for one group. -/
def setMismatchField (reply : Control) (item : Nat × Value × List Value) : Control :=
  reply.set (mismatchKey item.1) (.list item.2.2)

/-- The loop over `enumerate(md5_digest_dict.values())`. -/
def mismatchFields (reply : Control) (groups : PyDict Value (List Value)) : Control :=
  groups.enum.foldl setMismatchField reply

/-- The `anti-entropy-audit-reply`, before its result, when the audit was requested. -/
def auditReply (clientTag collectionId : Value) (errorReplyList : List Value)
    (groups : PyDict Value (List Value)) : Option Control :=
  if clientTag = .none then none
  else
    let reply : Control :=
      [("message-type", .str "anti-entropy-audit-reply"), ("client-tag", clientTag),
       ("collection-id", collectionId), ("result", .none), ("error-message", .none)]
    let reply := reply.set "error-reply-nodes" (.list errorReplyList)
    some (if 1 < groups.length then mismatchFields reply groups else reply)

/-- The end of `_handle_consistency_check_reply`, once every node has
    answered and the request is removed: the verdict. -/
def completeAudit (env : AuditEnv) (requestState : RequestState) (collectionId : Value)
    (timestamp : Timestamp) (retryTime : ℚ) : PyM AuditState Unit := do
  let md5DigestDict := digestGroups requestState.replies
  let errorReplyList := (md5DigestDict.get? errorReplyMarker).getD []
  let groups := md5DigestDict.erase errorReplyMarker
  let reply := auditReply requestState.clientTag collectionId errorReplyList groups
  let rowId := requestState.rowId
  let retry : RetryEntry := ⟨retryTime, collectionId, rowId, requestState.retryCount⟩
  if errorReplyList.length = 0 ∧ groups.length = 1 then
    pushEvent .info "audit-ok" ("collection " ++ collectionId.pyStr ++ " compares ok")
      [("collection_id", collectionId)]
    auditCall (.successfulAudit rowId timestamp)
    match reply with
    | some reply => sendReply (reply.set "result" (.str "success"))
    | none => pure ()
  else if 0 < errorReplyList.length ∧ groups.length = 1 then
    match reply with
    | some reply =>
      auditCall (.auditError rowId timestamp)
      let description :=
        "There were error replies from " ++ toString errorReplyList.length ++ " nodes"
      pushEvent .error "consistency-check-errors-replies" description
        [("collection_id", collectionId), ("error_reply_nodes", .list errorReplyList)]
      sendReply ((reply.set "result" (.str "error")).set "error-message" (.str description))
    | none =>
      if env.maxRetryCount ≤ requestState.retryCount then
        pushEvent .error "audit-errors" ("collection " ++ collectionId.pyStr ++ " " ++
          toString errorReplyList.length ++ " errors, too many retries")
          [("collection_id", collectionId)]
        auditCall (.auditError rowId timestamp)
      else
        pushEvent .warn "audit-retry" (collectionId.pyStr ++ " Error replies from " ++
          toString errorReplyList.length ++ " nodes, will retry") [("collection_id", collectionId)]
        addRetry retry
        auditCall (.waitForRetry rowId)
  else
    let description := collectionId.pyStr ++ " error replies from " ++
      toString errorReplyList.length ++ " nodes; hash mismatch(es) = " ++
      (Value.list (groups.map fun group => .list group.2)).pyRepr
    pushEvent .warn "audit-retry" description [("collection_id", collectionId)]
    match reply with
    | some reply =>
      auditCall (.auditError rowId timestamp)
      sendReply ((reply.set "result" (.str "audit-error")).set "error-message" (.str description))
    | none =>
      if env.maxRetryCount ≤ requestState.retryCount then
        auditCall (.auditError rowId timestamp)
      else
        addRetry retry
        auditCall (.waitForRetry rowId)

/-- What the handler records for a reply: the marker for an error, else
    the count and digest. -/
def nodeReplyOf {σ : Type} (message : Control) : PyM σ NodeReply := do
  let result ← message.item "result"
  if result ≠ .str "success" then
    let _ ← message.item "error-message"
    pure .error
  else
    let count ← message.item "count"
    let digest ← message.item "encoded-md5-digest"
    pure (.success count digest)

/-- `_handle_consistency_check_reply`; `timestamp` and `retryTime` are
    what `create_timestamp()` and `retry_time()` return in it. -/
def handleConsistencyCheckReply (env : AuditEnv) (message : Control) (timestamp : Timestamp)
    (retryTime : ℚ) : PyM AuditState Unit := do
  let timestampRepr ← message.item "timestamp-repr"
  let collectionId ← message.item "collection-id"
  let stateKey := (collectionId, env.parseTimestampRepr timestampRepr)
  let s ← get
  match s.activeRequests.get? stateKey with
  | none =>
    let _ ← message.item "node-name"
    pure ()
  | some requestState =>
    let nodeName ← message.item "node-name"
    if requestState.replies.contains nodeName then pure ()
    else
      let replyValue ← nodeReplyOf message
      let requestState :=
        { requestState with replies := requestState.replies.set nodeName replyValue }
      modify fun s => { s with activeRequests := s.activeRequests.set stateKey requestState }
      if requestState.replies.length < env.clientCount then pure ()
      else
        modify fun s => { s with activeRequests := s.activeRequests.erase stateKey }
        completeAudit env requestState collectionId timestamp retryTime

-- ============================================================================
-- Runs
-- ============================================================================

/-- What can happen at the auditor: a check started by the starter or
    the retry manager, or one of the three messages it dispatches. -/
inductive Event where
  | start (collectionId : Value) (rowId : Option Int) (retryCount : Nat) (timestamp : Timestamp)
      (now : ℚ) (newRowId : Int)
  | auditRequest (message : Control) (timestamp : Timestamp) (now : ℚ) (newRowId : Int)
  | consistencyCheck (table : List SegmentRow) (message : Control)
  | consistencyCheckReply (message : Control) (timestamp : Timestamp) (retryTime : ℚ)

/-- The code an event runs. -/
def Event.call (env : AuditEnv) : Event → PyM AuditState Unit
  | .start collectionId rowId retryCount timestamp now newRowId =>
    startConsistencyCheck env collectionId rowId retryCount timestamp now newRowId
  | .auditRequest message timestamp now newRowId =>
    handleAntiEntropyAuditRequest env message timestamp now newRowId
  | .consistencyCheck table message => handleConsistencyCheck env table message
  | .consistencyCheckReply message timestamp retryTime =>
    handleConsistencyCheckReply env message timestamp retryTime

/-- The auditor after an event, whether the code returned or raised. -/
def AuditState.step (env : AuditEnv) (s : AuditState) (e : Event) : AuditState :=
  resultState ((e.call env).run s)

/-- The states the auditor reaches from `_create_state()`. -/
inductive Reachable (env : AuditEnv) : AuditState → Prop where
  | init : Reachable env AuditState.init
  | step {s : AuditState} (e : Event) : Reachable env s → Reachable env (s.step env e)

end AntiEntropy
end NimbusIo
