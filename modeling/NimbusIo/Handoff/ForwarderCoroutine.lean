/-
  NimbusIo.Handoff.ForwarderCoroutine

  `handoff_server/forwarder_coroutine.py`: the generator that retrieves a
  handed-off segment from our reader and re-archives it on the home
  writer.  Following the reshape of spec §9, the generator is a machine
  over its suspension points: `resume` runs the code between two `yield`s,
  queueing messages on the reader or writer client, and stops at the next
  `yield` (or returns, or raises).  The driver first calls `next()`, then
  sends `(reply, data)` for a reader reply and `reply` for a writer reply.

  `messageId i` is the result of the coroutine's `i`-th `uuid.uuid1().hex`
  and `priority` that of `create_priority()` (both outside the sources).
-/
import NimbusIo.Rows

namespace NimbusIo
namespace Handoff

/-- The resilient client a message is queued on. -/
inductive Side where
  | reader
  | writer
  deriving DecidableEq, Repr

/-- One `queue_message_for_send(message, data=...)` call. -/
structure Queued where
  side : Side
  control : Control
  data : Body
  deriving DecidableEq, Repr

/-- What the driver sends into the generator; `next()` sends `None`. -/
inductive Sent where
  | none
  | reply (reply : Control)
  | replyData (reply : Control) (data : Body)
  deriving DecidableEq, Repr

/-- The last value of the generator: `(segment_row, source_node_names)`. -/
abbrev Completion := SegmentRow × List String

/-- Where the generator is suspended. -/
inductive ForwarderPoint where
  /-- created, body not started -/
  | created
  /-- at `reply, data = yield` after `retrieve-key-start` -/
  | retrieveStartSent
  /-- at `reply = yield` after `archive-key-entire` (`completed`) or `archive-key-start` -/
  | archiveFirstSent (completed : Bool)
  /-- at the `yield` of the completion after `archive-key-entire` -/
  | entireYielded
  /-- at `reply, data = yield` after `retrieve-key-next` for `sequence` -/
  | retrieveNextSent (sequence : Nat)
  /-- at `reply = yield` after `archive-key-next` or `archive-key-final` for `sequence` -/
  | archiveNextSent (sequence : Nat) (completed : Bool)
  /-- at the last `yield`, after the loop -/
  | finalYielded
  /-- returned or raised -/
  | closed
  deriving DecidableEq, Repr

/-- The arguments of `forwarder_coroutine` and what it draws from outside. -/
structure Forwarder where
  nodeNameDict : PyDict Int String
  segmentRow : SegmentRow
  sourceNodeNames : List String
  priority : Value
  messageId : Nat → String

/-- A suspension: the point reached and the value yielded there. -/
structure Suspension where
  point : ForwarderPoint
  yielded : Option Completion

-- ============================================================================
-- Messages
-- ============================================================================

/-- `retrieve-key-start` and `retrieve-key-next`: the same four fields. -/
def retrieveMessage (messageType messageId : String) (row : SegmentRow) : Control :=
  [("message-type", .str messageType),
   ("message-id", .str messageId),
   ("segment-unified-id", .int row.unifiedId),
   ("segment-num", .int row.segmentNum)]

/-- `node_name_dict[segment_row.source_node_id]`. -/
def sourceNodeName {σ : Type} (nodeNameDict : PyDict Int String) (row : SegmentRow) :
    PyM σ String :=
  match nodeNameDict.get? row.sourceNodeId with
  | some name => pure name
  | none => throw (.keyError (toString row.sourceNodeId))

/-- `b64encode(segment_row.file_hash)`: a `TypeError` on a null hash. -/
def fileHashB64 {σ : Type} (row : SegmentRow) : PyM σ String :=
  match row.fileHash with
  | some h => pure (b64encode h)
  | none => throw .typeError

/-- The whole-file fields of `archive-key-entire` and `archive-key-final`. -/
def fileFields (row : SegmentRow) (fileHash : String) : Control :=
  [("file-size", .int row.fileSize), ("file-adler32", .int row.fileAdler32),
   ("file-hash", .str fileHash)]

/-- The dict display of the four archive messages (`archive-key-entire`,
    `-start`, `-next`, `-final`) once its reads are done: the chunk fields
    come from the reader's reply, `sequence` is the `sequence-num` field
    (absent from `archive-key-entire`), `whole` the whole-file fields of the
    completing verbs. -/
def archiveDisplay (f : Forwarder) (messageType messageId : String)
    (segmentSize zfecPaddingSize segmentAdler32 segmentMd5Digest : Value)
    (sequence : Option Nat) (whole : Control) (source : String) : Control :=
  let row := f.segmentRow
  [("message-type", .str messageType),
   ("message-id", .str messageId),
   ("priority", f.priority),
   ("collection-id", .int row.collectionId),
   ("key", .str row.key),
   ("unified-id", .int row.unifiedId),
   ("conjoined-part", .int row.conjoinedPart),
   ("timestamp-repr", .str row.timestamp.repr),
   ("segment-num", .int row.segmentNum),
   ("segment-size", segmentSize),
   ("zfec-padding-size", zfecPaddingSize),
   ("segment-adler32", segmentAdler32),
   ("segment-md5-digest", segmentMd5Digest)] ++
  (sequence.map fun n => [("sequence-num", Value.int n)]).getD [] ++
  whole ++
  [("source-node-name", .str source), ("handoff-node-name", .none)]

/-- An archive message, evaluated as its dict display is: the reader reply's
    chunk fields (`KeyError`), then `b64encode(segment_row.file_hash)` when
    `withFile`, then `node_name_dict[segment_row.source_node_id]`. -/
def archiveMessage {σ : Type} (f : Forwarder) (messageType messageId : String) (reply : Control)
    (sequence : Option Nat) (withFile : Bool) : PyM σ Control := do
  let segmentSize ← reply.item "segment-size"
  let zfecPaddingSize ← reply.item "zfec-padding-size"
  let segmentAdler32 ← reply.item "segment-adler32"
  let segmentMd5Digest ← reply.item "segment-md5-digest"
  let whole ← if withFile then fileFields f.segmentRow <$> fileHashB64 f.segmentRow else pure []
  let source ← sourceNodeName f.nodeNameDict f.segmentRow
  pure (archiveDisplay f messageType messageId segmentSize zfecPaddingSize segmentAdler32
    segmentMd5Digest sequence whole source)

-- ============================================================================
-- The generator
-- ============================================================================

/-- `queue_message_for_send(message, data=data)` on one of the two clients. -/
def queue (side : Side) (control : Control) (data : Body) : PyM (List Queued) Unit :=
  modify fun q => q ++ [⟨side, control, data⟩]

/-- `reply, data = yield`: unpack a reader reply. -/
def readerReply : Sent → PyM (List Queued) (Control × Body)
  | .replyData reply data => pure (reply, data)
  | _ => throw .typeError

/-- `reply = yield` then a subscript: only a dictionary can be read. -/
def writerReply : Sent → PyM (List Queued) Control
  | .reply reply => pure reply
  | _ => throw .typeError

/-- The checks made on every reader reply; returns `reply["completed"]`. -/
def checkRetrieveReply (reply : Control) : PyM (List Queued) Bool := do
  let messageType ← reply.item "message-type"
  pyAssert (messageType = .str "retrieve-key-reply")
  let result ← reply.item "result"
  pyAssert (result = .str "success")
  let completed ← reply.item "completed"
  pure completed.truthy

/-- The `while not completed` loop head: ask the reader for `sequence`. -/
def requestNext (f : Forwarder) (sequence : Nat) : PyM (List Queued) Suspension := do
  queue .reader (retrieveMessage "retrieve-key-next" (f.messageId (2 * sequence - 2)) f.segmentRow)
    .none
  pure ⟨.retrieveNextSent sequence, none⟩

/-- Run the generator from a suspension point on the value sent to it. -/
def resume (f : Forwarder) : ForwarderPoint → Sent → PyM (List Queued) Suspension
  | .created, _ => do
    queue .reader (retrieveMessage "retrieve-key-start" (f.messageId 0) f.segmentRow) .none
    pure ⟨.retrieveStartSent, none⟩
  | .retrieveStartSent, x => do
    let (reply, data) ← readerReply x
    let completed ← checkRetrieveReply reply
    let message ← if completed
      then archiveMessage f "archive-key-entire" (f.messageId 1) reply none true
      else archiveMessage f "archive-key-start" (f.messageId 1) reply (some 1) false
    queue .writer message data
    pure ⟨.archiveFirstSent completed, none⟩
  | .archiveFirstSent completed, x =>
    if completed then pure ⟨.entireYielded, some (f.segmentRow, f.sourceNodeNames)⟩
    else do
      let reply ← writerReply x
      let messageType ← reply.item "message-type"
      pyAssert (messageType = .str "archive-key-start-reply")
      let result ← reply.item "result"
      pyAssert (result = .str "success")
      requestNext f 2
  | .retrieveNextSent sequence, x => do
    let (reply, data) ← readerReply x
    let completed ← checkRetrieveReply reply
    let messageId := f.messageId (2 * sequence - 1)
    let message ← if completed
      then archiveMessage f "archive-key-final" messageId reply (some sequence) true
      else archiveMessage f "archive-key-next" messageId reply (some sequence) false
    queue .writer message data
    pure ⟨.archiveNextSent sequence completed, none⟩
  | .archiveNextSent sequence completed, x => do
    let reply ← writerReply x
    let result ← reply.item "result"
    pyAssert (result = .str "success")
    if completed then pure ⟨.finalYielded, some (f.segmentRow, f.sourceNodeNames)⟩
    else requestNext f (sequence + 1)
  | .entireYielded, _ | .finalYielded, _ | .closed, _ => throw .stopIteration

/-- What the driver has seen of the generator so far. -/
structure ForwarderRun where
  queued : List Queued
  yielded : List (Option Completion)
  point : ForwarderPoint
  error : Option PyError
  deriving Repr

/-- `gen.send(x)` (or `gen.next()` for `Sent.none`): a raise closes the generator. -/
def ForwarderRun.send (f : Forwarder) (r : ForwarderRun) (x : Sent) : ForwarderRun :=
  match (resume f r.point x).run r.queued with
  | .ok s q => ⟨q, r.yielded ++ [s.yielded], s.point, none⟩
  | .error e q => ⟨q, r.yielded, .closed, some e⟩

/-- `forwarder_coroutine(...)` primed by `next()`, then sent `xs` in order. -/
def forwarderCoroutine (f : Forwarder) (xs : List Sent) : ForwarderRun :=
  xs.foldl (ForwarderRun.send f) (ForwarderRun.send f ⟨[], [], .created, none⟩ .none)

-- ============================================================================
-- One resumption at a time
-- ============================================================================

/-- The per-chunk fields a reader reply carries into the archive message. -/
def chunkFields : List String :=
  ["segment-size", "zfec-padding-size", "segment-adler32", "segment-md5-digest"]

/-- A reader reply the coroutine accepts, whose `completed` reads as `completed`. -/
structure ReaderReplyOk (reply : Control) (completed : Bool) : Prop where
  messageType : reply.get? "message-type" = some (.str "retrieve-key-reply")
  result : reply.get? "result" = some (.str "success")
  completedIs : ∃ v, reply.get? "completed" = some v ∧ v.truthy = completed
  chunk : ∀ k ∈ chunkFields, ∃ v, reply.get? k = some v

/-- A writer reply whose result is `success`. -/
def WriterSuccess (reply : Control) : Prop := reply.get? "result" = some (.str "success")

/-- What the handoff server provides: the source node has a name in
    `node_name_dict`, and the row is a finalized segment with a file hash. -/
structure Forwarder.Ready (f : Forwarder) : Prop where
  source : ∃ n, f.nodeNameDict.get? f.segmentRow.sourceNodeId = some n
  fileHash : ∃ h, f.segmentRow.fileHash = some h

/-- `node_name_dict[segment_row.source_node_id]`, once it is known to exist. -/
def Forwarder.sourceName (f : Forwarder) : String :=
  (f.nodeNameDict.get? f.segmentRow.sourceNodeId).getD ""

/-- `b64encode(segment_row.file_hash)`, once the hash is known to exist. -/
def Forwarder.fileHashText (f : Forwarder) : String := b64encode (f.segmentRow.fileHash.getD [])

/-- The archive message built from `reply` when every read succeeds. -/
def archiveOf (f : Forwarder) (messageType messageId : String) (reply : Control)
    (sequence : Option Nat) (withFile : Bool) : Control :=
  archiveDisplay f messageType messageId ((reply.get? "segment-size").getD .none)
    ((reply.get? "zfec-padding-size").getD .none) ((reply.get? "segment-adler32").getD .none)
    ((reply.get? "segment-md5-digest").getD .none) sequence
    (if withFile then fileFields f.segmentRow f.fileHashText else []) f.sourceName

section Steps

variable {f : Forwarder} {q : List Queued} {reply : Control} {c : Bool}

theorem checkRetrieveReply_run (h : ReaderReplyOk reply c) :
    (checkRetrieveReply reply).run q = .ok c q := by
  obtain ⟨v, hv, hc⟩ := h.completedIs
  simp [checkRetrieveReply, h.messageType, h.result, hv, hc]

theorem archiveMessage_run (hf : f.Ready) (hr : ∀ k ∈ chunkFields, ∃ v, reply.get? k = some v)
    (messageType messageId : String) (sequence : Option Nat) (withFile : Bool) :
    (archiveMessage f messageType messageId reply sequence withFile).run q =
      .ok (archiveOf f messageType messageId reply sequence withFile) q := by
  obtain ⟨n, hn⟩ := hf.source
  obtain ⟨h, hh⟩ := hf.fileHash
  obtain ⟨s, hs⟩ := hr "segment-size" (by simp [chunkFields])
  obtain ⟨z, hz⟩ := hr "zfec-padding-size" (by simp [chunkFields])
  obtain ⟨a, ha⟩ := hr "segment-adler32" (by simp [chunkFields])
  obtain ⟨m, hm⟩ := hr "segment-md5-digest" (by simp [chunkFields])
  cases withFile <;>
    simp [archiveMessage, archiveOf, sourceNodeName, fileHashB64, Forwarder.sourceName,
      Forwarder.fileHashText, hs, hz, ha, hm, hn, hh]

theorem resume_created (x : Sent) :
    (resume f .created x).run q = .ok ⟨.retrieveStartSent, none⟩
      (q ++ [⟨.reader, retrieveMessage "retrieve-key-start" (f.messageId 0) f.segmentRow, .none⟩]) :=
  rfl

theorem resume_retrieveStartSent (hf : f.Ready) (h : ReaderReplyOk reply c) (data : Body) :
    (resume f .retrieveStartSent (.replyData reply data)).run q = .ok ⟨.archiveFirstSent c, none⟩
      (q ++ [⟨.writer, if c then archiveOf f "archive-key-entire" (f.messageId 1) reply none true
        else archiveOf f "archive-key-start" (f.messageId 1) reply (some 1) false, data⟩]) := by
  cases c <;> simp [resume, readerReply, queue, checkRetrieveReply_run h, archiveMessage_run hf h.chunk]

/-- After `archive-key-entire` the completion is yielded whatever the writer replied. -/
theorem resume_archiveFirstSent_true (x : Sent) :
    (resume f (.archiveFirstSent true) x).run q =
      .ok ⟨.entireYielded, some (f.segmentRow, f.sourceNodeNames)⟩ q := rfl

theorem resume_archiveFirstSent_false
    (ht : reply.get? "message-type" = some (.str "archive-key-start-reply"))
    (hs : WriterSuccess reply) :
    (resume f (.archiveFirstSent false) (.reply reply)).run q = .ok ⟨.retrieveNextSent 2, none⟩
      (q ++ [⟨.reader, retrieveMessage "retrieve-key-next" (f.messageId 2) f.segmentRow, .none⟩]) := by
  have hr : reply.get? "result" = some (.str "success") := hs
  simp [resume, writerReply, requestNext, queue, ht, hr]

theorem resume_retrieveNextSent (hf : f.Ready) (h : ReaderReplyOk reply c) (n : Nat) (data : Body) :
    (resume f (.retrieveNextSent n) (.replyData reply data)).run q =
      .ok ⟨.archiveNextSent n c, none⟩
      (q ++ [⟨.writer, if c then archiveOf f "archive-key-final" (f.messageId (2 * n - 1)) reply (some n) true
        else archiveOf f "archive-key-next" (f.messageId (2 * n - 1)) reply (some n) false, data⟩]) := by
  cases c <;> simp [resume, readerReply, queue, checkRetrieveReply_run h, archiveMessage_run hf h.chunk]

/-- The reply to `archive-key-final`: the completion is yielded. -/
theorem resume_archiveNextSent_true (hs : WriterSuccess reply) (n : Nat) :
    (resume f (.archiveNextSent n true) (.reply reply)).run q =
      .ok ⟨.finalYielded, some (f.segmentRow, f.sourceNodeNames)⟩ q := by
  have hr : reply.get? "result" = some (.str "success") := hs
  simp [resume, writerReply, hr]

/-- The reply to `archive-key-next`: the loop asks for the next sequence. -/
theorem resume_archiveNextSent_false (hs : WriterSuccess reply) (n : Nat) :
    (resume f (.archiveNextSent n false) (.reply reply)).run q =
      .ok ⟨.retrieveNextSent (n + 1), none⟩ (q ++ [⟨.reader,
        retrieveMessage "retrieve-key-next" (f.messageId (2 * (n + 1) - 2)) f.segmentRow, .none⟩]) := by
  have hr : reply.get? "result" = some (.str "success") := hs
  simp [resume, writerReply, requestNext, queue, hr]

end Steps

end Handoff
end NimbusIo
