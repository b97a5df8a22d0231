/-
  NimbusIo.Handoff.ForwarderRuns

  Whole conversations of `forwarder_coroutine`.  A conversation over a
  segment of `K` sequences is a list of `K` exchanges, each the reader's
  reply with its data and the writer's reply to the archive message built
  from it.  Spec §4.4 describes what the coroutine queues over such a
  conversation; `handoffPlan` writes that description down message by
  message, and `forwarderCoroutine_refines_plan` shows the coroutine queues
  exactly those messages and yields its completion once, after the last
  writer reply.
-/
import NimbusIo.Handoff.ForwarderCoroutine
import Mathlib.Data.List.Forall2

namespace NimbusIo
namespace Handoff

/-- `gen.send(x)` on a resumption that reaches a `yield`. -/
theorem ForwarderRun.send_of_run_ok {f : Forwarder} {r : ForwarderRun} {x : Sent} {s : Suspension}
    {q : List Queued} (h : (resume f r.point x).run r.queued = .ok s q) :
    r.send f x = ⟨q, r.yielded ++ [s.yielded], s.point, none⟩ := by
  simp [ForwarderRun.send, h]

/-- After `next()`: `retrieve-key-start` is queued and the generator waits for its reply. -/
theorem forwarderCoroutine_nil (f : Forwarder) :
    forwarderCoroutine f [] =
      ⟨[⟨.reader, retrieveMessage "retrieve-key-start" (f.messageId 0) f.segmentRow, .none⟩], [none],
        .retrieveStartSent, none⟩ := rfl

theorem forwarderCoroutine_append (f : Forwarder) (xs ys : List Sent) :
    forwarderCoroutine f (xs ++ ys) = ys.foldl (ForwarderRun.send f) (forwarderCoroutine f xs) :=
  List.foldl_append _ _ _ _

-- ============================================================================
-- The single-sequence path
-- ============================================================================

/-- On a single-sequence segment the coroutine yields its completion whatever
    the writer sent back for `archive-key-entire`: that reply is never read. -/
theorem forwarder_entire_yields_completion (f : Forwarder) (hf : f.Ready) (reply : Control)
    (h : ReaderReplyOk reply true) (data : Body) (x : Sent) :
    (forwarderCoroutine f [.replyData reply data, x]).yielded =
      [none, none, some (f.segmentRow, f.sourceNodeNames)] := by
  rw [show [Sent.replyData reply data, x] = [] ++ [.replyData reply data, x] from rfl,
    forwarderCoroutine_append, forwarderCoroutine_nil, List.foldl_cons,
    ForwarderRun.send_of_run_ok (resume_retrieveStartSent hf h data), List.foldl_cons,
    ForwarderRun.send_of_run_ok (resume_archiveFirstSent_true x)]
  rfl

/-- A single-sequence segment, and a writer that refuses its `archive-key-entire`. -/
def entireExample : Forwarder where
  nodeNameDict := [(7, "node07")]
  segmentRow :=
    { collectionId := 1001, key := "aaa/bbb/ccc", unifiedId := 5, conjoinedPart := 0,
      timestamp := ⟨2011, 5, 3, 12, 0, 0, 0⟩, segmentNum := 3, status := .final, fileSize := 4,
      fileAdler32 := 1, fileHash := some [1, 2], fileTombstoneUnifiedId := none,
      handoffNodeId := some 2, sourceNodeId := 7 }
  sourceNodeNames := ["node07"]
  priority := .int 0
  messageId := fun _ => "0"

/-- The reader's one reply for `entireExample`: success, completed. -/
def entireExampleReply : Control :=
  [("message-type", .str "retrieve-key-reply"), ("result", .str "success"),
   ("completed", .bool true), ("segment-size", .int 4), ("zfec-padding-size", .int 0),
   ("segment-adler32", .int 1), ("segment-md5-digest", .str "AQI=")]

/-- The writer answers `archive-key-entire` with an error; the completion is
    yielded anyway. -/
theorem forwarder_entire_error_reply_completes :
    (forwarderCoroutine entireExample
      [.replyData entireExampleReply (.bytes [1, 2, 3, 4]),
       .reply [("message-type", .str "archive-key-entire-reply"), ("result", .str "error")]]).yielded =
      [none, none, some (entireExample.segmentRow, entireExample.sourceNodeNames)] :=
  forwarder_entire_yields_completion entireExample ⟨⟨"node07", rfl⟩, ⟨[1, 2], rfl⟩⟩ entireExampleReply
    ⟨rfl, rfl, ⟨.bool true, rfl, rfl⟩, by simp [chunkFields, entireExampleReply, PyDict.get?_cons]⟩
    _ _

-- ============================================================================
-- The conversation spec §4.4 describes
-- ============================================================================

/-- One round of a handoff: the reader's reply and data for a sequence, and
    the writer's reply to the archive message built from them. -/
structure Exchange where
  reply : Control
  data : Body
  writerReply : Control

/-- What the driver sends over a list of exchanges, after `next()`. -/
def feed (es : List Exchange) : List Sent :=
  es.flatMap fun e => [.replyData e.reply e.data, .reply e.writerReply]

theorem feed_cons (e : Exchange) (es : List Exchange) :
    feed (e :: es) = .replyData e.reply e.data :: .reply e.writerReply :: feed es := rfl

/-- Every reader reply is accepted and says `completed` exactly when no
    exchange follows it: the `n`-th of `K` has `completed = (n = K)`. -/
def RepliesComplete : List Exchange → Prop
  | [] => True
  | e :: es => ReaderReplyOk e.reply es.isEmpty ∧ RepliesComplete es

/-- A message as the handoff protocol describes it: the client it goes to,
    the fields it carries (`none` for a field it lacks), and its body. -/
structure PlannedMessage where
  side : Side
  fields : List (String × Option Value)
  data : Body

/-- A queued message is the planned one. -/
def Queued.Carries (q : Queued) (m : PlannedMessage) : Prop :=
  q.side = m.side ∧ q.data = m.data ∧ ∀ p ∈ m.fields, q.control.get? p.1 = p.2

/-- `retrieve-key-start` or `retrieve-key-next`, to the reader. -/
def plannedRetrieve (verb : String) : PlannedMessage :=
  ⟨.reader, [("message-type", some (.str verb))], .none⟩

/-- The archive message for sequence `n` (`last` when `n = K`): `archive-key-entire`
    when `K = 1`, else `archive-key-start`, `-next` or `-final` with
    `sequence-num n`; it carries the reader reply's chunk fields and data
    unchanged, the row's identity, the original source node's name, and no
    handoff node. -/
def plannedArchive (f : Forwarder) (n : Nat) (last : Bool) (e : Exchange) : PlannedMessage :=
  let row := f.segmentRow
  let verb :=
    if n = 1 then (if last then "archive-key-entire" else "archive-key-start")
    else (if last then "archive-key-final" else "archive-key-next")
  ⟨.writer,
   [("message-type", some (.str verb)),
    ("sequence-num", if n = 1 ∧ last then none else some (.int n))] ++
   chunkFields.map (fun k => (k, e.reply.get? k)) ++
   [("collection-id", some (.int row.collectionId)),
    ("key", some (.str row.key)),
    ("unified-id", some (.int row.unifiedId)),
    ("conjoined-part", some (.int row.conjoinedPart)),
    ("timestamp-repr", some (.str row.timestamp.repr)),
    ("source-node-name", (f.nodeNameDict.get? row.sourceNodeId).map .str),
    ("handoff-node-name", some .none)],
   e.data⟩

/-- For `n = 2..K`: `retrieve-key-next`, then the archive message for `n`. -/
def plannedLoop (f : Forwarder) : Nat → List Exchange → List PlannedMessage
  | _, [] => []
  | n, e :: es => plannedRetrieve "retrieve-key-next" :: plannedArchive f n es.isEmpty e ::
      plannedLoop f (n + 1) es

/-- The whole conversation: `retrieve-key-start`, the first archive message,
    then the loop from sequence 2. -/
def handoffPlan (f : Forwarder) : List Exchange → List PlannedMessage
  | [] => []
  | e :: es => plannedRetrieve "retrieve-key-start" :: plannedArchive f 1 es.isEmpty e ::
      plannedLoop f 2 es

-- ============================================================================
-- The coroutine follows the plan
-- ============================================================================

theorem retrieveMessage_carries (verb messageId : String) (row : SegmentRow) :
    Queued.Carries ⟨.reader, retrieveMessage verb messageId row, .none⟩ (plannedRetrieve verb) := by
  simp [Queued.Carries, plannedRetrieve, retrieveMessage, PyDict.get?_cons]

section Carries

variable {f : Forwarder} {e : Exchange} {c : Bool}

/-- Every archive message is the planned one: its verb, its `sequence-num`
    and its file fields follow the sequence's place in the conversation. -/
theorem archiveOf_carries (hf : f.Ready) (h : ReaderReplyOk e.reply c) (n : Nat)
    (messageId : String) :
    Queued.Carries
      ⟨.writer, archiveOf f
        (if n = 1 then (if c then "archive-key-entire" else "archive-key-start")
          else (if c then "archive-key-final" else "archive-key-next"))
        messageId e.reply (if n = 1 ∧ c then none else some n) c, e.data⟩
      (plannedArchive f n c e) := by
  obtain ⟨src, hsrc⟩ := hf.source
  obtain ⟨s, hs⟩ := h.chunk "segment-size" (by simp [chunkFields])
  obtain ⟨z, hz⟩ := h.chunk "zfec-padding-size" (by simp [chunkFields])
  obtain ⟨a, ha⟩ := h.chunk "segment-adler32" (by simp [chunkFields])
  obtain ⟨m, hm⟩ := h.chunk "segment-md5-digest" (by simp [chunkFields])
  refine ⟨rfl, rfl, ?_⟩
  simp only [plannedArchive, chunkFields, List.map_cons, List.map_nil, List.cons_append,
      List.singleton_append, List.nil_append, List.mem_cons, List.mem_singleton,
      List.not_mem_nil, archiveOf, archiveDisplay, PyDict.get?_cons,
      forall_eq_or_imp, String.reduceEq, forall_eq, true_and, false_implies, implies_true, ↓reduceIte,
      hs, hz, ha, hm, Option.getD_some, or_false]
  by_cases hn : n = 1 <;> cases c <;>
    simp only [↓reduceIte, Bool.false_eq_true, and_false, and_self, false_and,
      Nat.cast_one, List.cons_append, List.singleton_append, List.append_nil, List.nil_append,
      Option.map_some', Option.map_none', Option.getD_some, Option.getD_none,
      Option.pure_def, Option.bind_eq_bind, Option.some_bind, Option.none_bind,
      fileFields, Forwarder.sourceName, PyDict.get?_cons, PyDict.get?_nil,
      String.reduceEq, true_and, and_true, hsrc, hn]

/-- The first archive message (`archive-key-entire` or `archive-key-start`) is the planned one. -/
theorem archiveOf_carries_first (hf : f.Ready) (h : ReaderReplyOk e.reply c) (messageId : String) :
    Queued.Carries
      ⟨.writer, if c then archiveOf f "archive-key-entire" messageId e.reply none true
        else archiveOf f "archive-key-start" messageId e.reply (some 1) false, e.data⟩
      (plannedArchive f 1 c e) := by
  cases c <;> simpa using archiveOf_carries hf h 1 messageId

/-- The archive message for a later sequence (`archive-key-next` or `-final`) is the planned one. -/
theorem archiveOf_carries_next (hf : f.Ready) (h : ReaderReplyOk e.reply c) {n : Nat} (hn : n ≠ 1)
    (messageId : String) :
    Queued.Carries
      ⟨.writer, if c then archiveOf f "archive-key-final" messageId e.reply (some n) true
        else archiveOf f "archive-key-next" messageId e.reply (some n) false, e.data⟩
      (plannedArchive f n c e) := by
  cases c <;> simpa [hn] using archiveOf_carries hf h n messageId

end Carries

/-- The `while not completed` loop: from a wait for sequence `n`'s reader
    reply, a successful rest of the conversation queues the planned archive
    message for `n` and the rest of the plan, and ends at the last `yield`. -/
theorem foldl_feed_loop {f : Forwarder} (hf : f.Ready) :
    ∀ (es : List Exchange) (n : Nat) (r : ForwarderRun), es ≠ [] → 2 ≤ n →
      r.point = .retrieveNextSent n → RepliesComplete es →
      (∀ x ∈ es, WriterSuccess x.writerReply) →
      ∃ tail, (feed es).foldl (ForwarderRun.send f) r =
          ⟨r.queued ++ tail, r.yielded ++ List.replicate (2 * es.length - 1) none ++
            [some (f.segmentRow, f.sourceNodeNames)], .finalYielded, none⟩ ∧
        List.Forall₂ Queued.Carries tail (plannedLoop f n es).tail
  | [], _, _, hne, _, _, _, _ => absurd rfl hne
  | e :: es, n, r, _, hn, hp, ⟨he, hes⟩, hw => by
    have hsucc : WriterSuccess e.writerReply := hw e (List.mem_cons_self _ _)
    have hcarry := archiveOf_carries_next hf he (by omega : n ≠ 1) (f.messageId (2 * n - 1))
    have h1 := ForwarderRun.send_of_run_ok (x := .replyData e.reply e.data)
      (hp ▸ resume_retrieveNextSent hf he n e.data (q := r.queued))
    rw [feed_cons, List.foldl_cons, List.foldl_cons]
    cases es with
    | nil =>
      rw [h1, ForwarderRun.send_of_run_ok (resume_archiveNextSent_true hsucc n)]
      exact ⟨_, rfl, .cons hcarry .nil⟩
    | cons e' es' =>
      have h2 : (r.send f (.replyData e.reply e.data)).send f (.reply e.writerReply) = _ :=
        ForwarderRun.send_of_run_ok (by rw [h1]; exact resume_archiveNextSent_false hsucc n)
      obtain ⟨tail, hrun, htail⟩ := foldl_feed_loop hf (e' :: es') (n + 1)
        ((r.send f (.replyData e.reply e.data)).send f (.reply e.writerReply)) (List.cons_ne_nil _ _)
        (by omega) (by rw [h2]) hes (fun x hx => hw x (List.mem_cons_of_mem _ hx))
      refine ⟨_, hrun.trans ?_, .cons hcarry (.cons (retrieveMessage_carries "retrieve-key-next"
        (f.messageId (2 * (n + 1) - 2)) f.segmentRow) htail)⟩
      rw [h2, h1]
      simp only [List.isEmpty_cons, List.length_cons, List.append_assoc, List.cons_append,
        List.nil_append]
      congr 2

/-- Over a successful conversation of `K = es.length + 1` exchanges the
    coroutine queues exactly the messages of `handoffPlan`, yields `None`
    at every wait and the completion once, after the last writer reply,
    and stops at its last `yield`. -/
theorem forwarderCoroutine_refines_plan (f : Forwarder) (hf : f.Ready) (e : Exchange)
    (es : List Exchange) (hr : RepliesComplete (e :: es))
    (hw : ∀ x ∈ e :: es, WriterSuccess x.writerReply)
    (hs : es ≠ [] → e.writerReply.get? "message-type" = some (.str "archive-key-start-reply")) :
    ∃ queued, forwarderCoroutine f (feed (e :: es)) =
        ⟨queued, List.replicate (2 * (es.length + 1)) none ++ [some (f.segmentRow, f.sourceNodeNames)],
          if es.isEmpty then .entireYielded else .finalYielded, none⟩ ∧
      List.Forall₂ Queued.Carries queued (handoffPlan f (e :: es)) := by
  obtain ⟨he, hes⟩ := hr
  have hsucc : WriterSuccess e.writerReply := hw e (List.mem_cons_self _ _)
  have hstart := retrieveMessage_carries "retrieve-key-start" (f.messageId 0) f.segmentRow
  have hfirst := archiveOf_carries_first hf he (f.messageId 1)
  have h1 := ForwarderRun.send_of_run_ok (r := forwarderCoroutine f [])
    (x := .replyData e.reply e.data) (resume_retrieveStartSent hf he e.data)
  rw [show feed (e :: es) = [] ++ feed (e :: es) from rfl, forwarderCoroutine_append, feed_cons,
    List.foldl_cons, List.foldl_cons]
  cases es with
  | nil =>
    rw [h1, ForwarderRun.send_of_run_ok (resume_archiveFirstSent_true _)]
    exact ⟨_, rfl, .cons hstart (.cons hfirst .nil)⟩
  | cons e' es' =>
    have h2 : ((forwarderCoroutine f []).send f (.replyData e.reply e.data)).send f
        (.reply e.writerReply) = _ :=
      ForwarderRun.send_of_run_ok
        (by rw [h1]; exact resume_archiveFirstSent_false (hs (List.cons_ne_nil _ _)) hsucc)
    obtain ⟨tail, hrun, htail⟩ := foldl_feed_loop hf (e' :: es') 2
      (((forwarderCoroutine f []).send f (.replyData e.reply e.data)).send f (.reply e.writerReply))
      (List.cons_ne_nil _ _) le_rfl (by rw [h2]) hes (fun x hx => hw x (List.mem_cons_of_mem _ hx))
    refine ⟨_, hrun.trans ?_, .cons hstart (.cons hfirst (.cons (retrieveMessage_carries
      "retrieve-key-next" (f.messageId 2) f.segmentRow) htail))⟩
    rw [h2, h1]
    simp only [List.length_cons, List.append_assoc, List.cons_append, List.nil_append,
      List.isEmpty_cons, forwarderCoroutine_nil]
    congr 2

/-- A two-sequence conversation for `entireExample`'s row. -/
def twoSequenceExample : Exchange × Exchange :=
  (⟨[("message-type", .str "retrieve-key-reply"), ("result", .str "success"),
      ("completed", .bool false), ("segment-size", .int 2), ("zfec-padding-size", .int 0),
      ("segment-adler32", .int 1), ("segment-md5-digest", .str "AQI=")], .bytes [1, 2],
    [("message-type", .str "archive-key-start-reply"), ("result", .str "success")]⟩,
   ⟨[("message-type", .str "retrieve-key-reply"), ("result", .str "success"),
      ("completed", .bool true), ("segment-size", .int 2), ("zfec-padding-size", .int 0),
      ("segment-adler32", .int 1), ("segment-md5-digest", .str "AwQ=")], .bytes [3, 4],
    [("message-type", .str "archive-key-final-reply"), ("result", .str "success")]⟩)

theorem forwarderCoroutine_two_sequences_follow_plan :
    ∃ queued, forwarderCoroutine entireExample
        (feed [twoSequenceExample.1, twoSequenceExample.2]) =
        ⟨queued, List.replicate 4 none ++
          [some (entireExample.segmentRow, entireExample.sourceNodeNames)], .finalYielded, none⟩ ∧
      List.Forall₂ Queued.Carries queued
        (handoffPlan entireExample [twoSequenceExample.1, twoSequenceExample.2]) :=
  forwarderCoroutine_refines_plan entireExample ⟨⟨"node07", rfl⟩, ⟨[1, 2], rfl⟩⟩ _ _
    ⟨⟨rfl, rfl, ⟨.bool false, rfl, rfl⟩, by simp [chunkFields, twoSequenceExample, PyDict.get?_cons]⟩,
     ⟨rfl, rfl, ⟨.bool true, rfl, rfl⟩, by simp [chunkFields, twoSequenceExample, PyDict.get?_cons]⟩,
     trivial⟩
    (by simp [WriterSuccess, twoSequenceExample, PyDict.get?_cons]) (fun _ => rfl)

end Handoff
end NimbusIo
