/-
  NimbusIo.WebServer.DataReader

  `web_server/data_reader.py`: the web server's handle on one node's data
  reader.  `retrieve_key_start` and `retrieve_key_next` send a request
  through the node's resilient client, wait for the reply on its delivery
  channel, and hand the bytes on to zfec only after three checks against
  bit rot (Ticket #1307): the result is `success`, the bytes are as long as
  the reply's `segment-size`, and their md5 is its base64
  `segment-md5-digest`.  The two methods differ only in the message type.

  The greenlet resilient client is outside the sources: `ReaderClient` is
  what its queue and delivery channel hand back for a message.  Logging,
  `node_name` and `connected` are left out.

  The main result joins this end to the data reader's.  A success answer
  of a reachable data reader passes the md5 check here: the reader wrote
  the row's hash with `b64encode`, it decodes back to that hash, and the
  reader had checked that the hash is the md5 of the bytes.  Such an
  answer is handed on exactly when its bytes are as long as the row's
  recorded size, a check the reader does not make.
-/
import NimbusIo.Base64
import NimbusIo.Reader.Isolation

namespace NimbusIo
namespace WebServer

open Reader

/-- What the resilient client gives back for a queued message: `none` when
    `queue_message_for_send` raises `ResilientClientError`, else the
    `reply, data` that `delivery_channel.get()` returns. -/
structure ReaderClient where
  queueMessageForSend : Control → Option (Control × Body)

/-- The `message = {...}` both methods send. -/
def retrieveMessage (messageType : String) (segmentUnifiedId segmentConjoinedPart segmentNum : Value) :
    Control :=
  [("message-type", .str messageType), ("segment-unified-id", segmentUnifiedId),
   ("segment-conjoined-part", segmentConjoinedPart), ("segment-num", segmentNum)]

/-- Python 2's `n != v` for an `int` `n`: a `bool` compares as 0 or 1, and
    a value of any other type is unequal. -/
def pyIntNe (n : Int) : Value → Bool
  | .int m => n != m
  | .bool b => n != if b then 1 else 0
  | _ => true

section Methods

variable {σ : Type}

/-- `len(data)`: `None` has no length; a list of frames has one per frame. -/
def bodyLen : Body → PyM σ Nat
  | .none => throw .typeError
  | .bytes b => pure b.length
  | .frames bs => pure bs.length

/-- `hashlib.md5(data).digest()`, which takes only a `str`. -/
def md5Digest (md5 : Bytes → Bytes) : Body → PyM σ Bytes
  | .bytes b => pure (md5 b)
  | _ => throw .typeError

/-- `b64decode(v)` of a reply value.  The JSON decoder gives a `unicode`,
    which `binascii` first encodes as ASCII (`UnicodeEncodeError` for any
    other character); a value that is not a string raises `TypeError`. -/
def b64decodeValue : Value → PyM σ Bytes
  | .str s =>
    if s.data.all fun c => c.toNat < 128 then
      match b64decode s with
      | .ok b => pure b
      | .error e => throw e
    else throw (.raised "UnicodeEncodeError")
  | _ => throw .typeError

/-- What both methods do with `reply, data = delivery_channel.get()`:
    `None` after a failed check, else the data with the reply's
    `zfec-padding-size` and `completed`. -/
def checkSegment (md5 : Bytes → Bytes) (reply : Control) (data : Body) :
    PyM σ (Option (Body × Value × Value)) := do
  let result ← reply.item "result"
  if result ≠ .str "success" then return none
  let len ← bodyLen data
  let segmentSize ← reply.item "segment-size"
  if pyIntNe len segmentSize then return none
  let segmentMd5 ← md5Digest md5 data
  let digest ← reply.item "segment-md5-digest"
  let expected ← b64decodeValue digest
  if segmentMd5 ≠ expected then return none
  let zfecPaddingSize ← reply.item "zfec-padding-size"
  let completed ← reply.item "completed"
  return some (data, zfecPaddingSize, completed)

/-- `retrieve_key_start` and `retrieve_key_next`, for the message type each sends. -/
def retrieveKey (resilientClient : ReaderClient) (md5 : Bytes → Bytes) (messageType : String)
    (segmentUnifiedId segmentConjoinedPart segmentNum : Value) :
    PyM σ (Option (Body × Value × Value)) :=
  match resilientClient.queueMessageForSend
      (retrieveMessage messageType segmentUnifiedId segmentConjoinedPart segmentNum) with
  | none => pure none
  | some (reply, data) => checkSegment md5 reply data

/-- `DataReader.retrieve_key_start`. -/
def retrieveKeyStart (resilientClient : ReaderClient) (md5 : Bytes → Bytes)
    (segmentUnifiedId segmentConjoinedPart segmentNum : Value) :
    PyM σ (Option (Body × Value × Value)) :=
  retrieveKey resilientClient md5 "retrieve-key-start" segmentUnifiedId segmentConjoinedPart segmentNum

/-- `DataReader.retrieve_key_next`. -/
def retrieveKeyNext (resilientClient : ReaderClient) (md5 : Bytes → Bytes)
    (segmentUnifiedId segmentConjoinedPart segmentNum : Value) :
    PyM σ (Option (Body × Value × Value)) :=
  retrieveKey resilientClient md5 "retrieve-key-next" segmentUnifiedId segmentConjoinedPart segmentNum

end Methods

-- ============================================================================
-- What a returned segment has passed
-- ============================================================================

section Checks

variable {σ : Type}

theorem PyM.run_item_bind_ok {β : Type} {c : Control} {k : String} {f : Value → PyM σ β} {b : β}
    {s s' : σ} (h : (c.item k >>= f).run s = .ok b s') :
    ∃ v, c.get? k = some v ∧ (f v).run s = .ok b s' := by
  cases hk : c.get? k with
  | none => rw [PyM.run_bind, PyM.run_item_of_get?_none hk] at h; cases h
  | some v => rw [PyM.run_bind, PyM.run_item_of_get? hk] at h; exact ⟨v, rfl, h⟩

/-- Past an `if c: return None` that did not return. -/
theorem PyM.run_ite_none_ok {β : Type} {c : Prop} [Decidable c] {k : PyM σ (Option β)} {b : β}
    {s s' : σ} (h : (if c then pure none else (pure PUnit.unit >>= fun _ => k)).run s = .ok (some b) s') :
    ¬c ∧ k.run s = .ok (some b) s' := by
  by_cases hc : c
  · rw [if_pos hc] at h; cases h
  · rw [if_neg hc] at h; exact ⟨hc, h⟩

theorem run_md5Digest_ok {md5 : Bytes → Bytes} {data : Body} {d : Bytes} {s s' : σ}
    (h : (md5Digest md5 data : PyM σ Bytes).run s = .ok d s') : ∃ b, data = .bytes b ∧ d = md5 b := by
  cases data with
  | bytes b => cases h; exact ⟨b, rfl, rfl⟩
  | none => cases h
  | frames bs => cases h

theorem run_b64decodeValue_ok {v : Value} {d : Bytes} {s s' : σ}
    (h : (b64decodeValue v : PyM σ Bytes).run s = .ok d s') :
    ∃ digest, v = .str digest ∧ (∀ c ∈ digest.data, c.toNat < 128) ∧ b64decode digest = .ok d := by
  cases v with
  | str digest =>
    simp only [b64decodeValue] at h
    split at h
    · rename_i hascii
      refine ⟨digest, rfl, by simpa using hascii, ?_⟩
      revert h
      cases b64decode digest <;> simp +contextual
    · simp at h
  | _ => simp [b64decodeValue] at h

/-- A segment the web server hands on passed every check on its reply: the
    result is `success`, the bytes are as long as `segment-size`, and their
    md5 is the base64 `segment-md5-digest`, written in ASCII.  The proof
    follows the method line by line. -/
theorem checkSegment_some {md5 : Bytes → Bytes} {reply : Control} {data : Body}
    {r : Body × Value × Value} {s s' : σ} (h : (checkSegment md5 reply data).run s = .ok (some r) s') :
    ∃ bytes segmentSize digest, data = .bytes bytes ∧
      reply.get? "result" = some (.str "success") ∧
      reply.get? "segment-size" = some segmentSize ∧ pyIntNe bytes.length segmentSize = false ∧
      reply.get? "segment-md5-digest" = some (.str digest) ∧ (∀ c ∈ digest.data, c.toNat < 128) ∧
      b64decode digest = .ok (md5 bytes) ∧
      r = (data, (reply.get? "zfec-padding-size").getD .none, (reply.get? "completed").getD .none) := by
  simp only [checkSegment] at h
  obtain ⟨result, hresult, k₁⟩ := PyM.run_item_bind_ok h
  obtain ⟨hsucc, k₂⟩ := PyM.run_ite_none_ok k₁
  obtain ⟨len, _, hlen, k₃⟩ := PyM.run_bind_ok k₂
  obtain ⟨segmentSize, hsize, k₄⟩ := PyM.run_item_bind_ok k₃
  obtain ⟨hne, k₅⟩ := PyM.run_ite_none_ok k₄
  obtain ⟨segmentMd5, _, hseg, k₆⟩ := PyM.run_bind_ok k₅
  obtain ⟨digestValue, hdigest, k₇⟩ := PyM.run_item_bind_ok k₆
  obtain ⟨expected, _, hexp, k₈⟩ := PyM.run_bind_ok k₇
  obtain ⟨hmd5, k₉⟩ := PyM.run_ite_none_ok k₈
  obtain ⟨zfecPaddingSize, hzfec, k₁₀⟩ := PyM.run_item_bind_ok k₉
  obtain ⟨completed, hcompleted, k₁₁⟩ := PyM.run_item_bind_ok k₁₀
  obtain ⟨bytes, rfl, rfl⟩ := run_md5Digest_ok hseg
  obtain ⟨digest, rfl, hascii, hdecode⟩ := run_b64decodeValue_ok hexp
  obtain rfl : len = bytes.length := by cases hlen; rfl
  cases k₁₁
  exact ⟨bytes, segmentSize, digest, rfl, by rwa [not_not.mp hsucc] at hresult, hsize,
    by simpa using hne, hdigest, hascii, by rwa [not_not.mp hmd5], by simp [hzfec, hcompleted]⟩

end Checks

-- ============================================================================
-- The data reader's answers at the web server
-- ============================================================================

section Answers

variable {σ : Type}

/-- The digest `send_reply` wrote with `b64encode` decodes back to the hash. -/
theorem run_b64decodeValue_b64encode (bs : Bytes) (s : σ) :
    (b64decodeValue (.str (b64encode bs)) : PyM σ Bytes).run s = .ok bs s := by
  have hascii : ((b64encode bs).data.all fun c => c.toNat < 128) = true := by
    simpa [b64encode] using b64Chars_ascii bs
  simp only [b64decodeValue, hascii, if_true, b64decode_b64encode]
  rfl

/-- The checks on a success reply whose row hash is the md5 of the bytes:
    only the size check can fail. -/
theorem run_checkSegment_successReply {md5 : Bytes → Bytes} {reply : Control} {n : Nat} {c : Bool}
    {row : SequenceRow} {data : Bytes} (h : md5 data = row.hash) (s : σ) :
    (checkSegment md5 (successReply reply n c row) (.bytes data)).run s =
      .ok (if (data.length : Int) = row.size then some (.bytes data, .int row.zfecPaddingSize, .bool c)
        else none) s := by
  by_cases hsize : (data.length : Int) = row.size <;>
    simp [checkSegment, bodyLen, md5Digest, pyIntNe, run_b64decodeValue_b64encode, h, hsize]

/-- The reader of `twoPartEnv` after the start for part 1, its one sequence. -/
def partOneRun : ReaderState := ReaderState.init.step twoPartEnv (.start 0 (partStart 1))

/-- The success answer that start gets. -/
def partOneAnswer : Answer :=
  ⟨.start 0 (partStart 1), successReply (replyTemplate startReplyFields (partStart 1)) 1 true
    ⟨3, 0, 1, [7, 8, 9]⟩, .bytes [7, 8, 9]⟩

/-- A client that hands any request that answer. -/
def partOneClient : ReaderClient := ⟨fun _ => some (partOneAnswer.reply, partOneAnswer.data)⟩

theorem partOneRun_answers : partOneRun.answers = [partOneAnswer] := by
  have h := @handleRetrieveKeyStart_first twoPartEnv 0 (partStart 1)
    (.str "web-server-1", .int 7, .int 1) ReaderState.init 1 ⟨3, 0, 1, [7, 8, 9]⟩ [7, 8, 9]
    (by decide) (by decide) rfl rfl (by decide) rfl rfl
  simp only [partOneRun, ReaderState.step, Request.handle, h, resultState_ok]
  rfl

/-- The data reader and the web server agree on integrity.  A success
    answer of a reachable data reader, handed back by the client for the
    web server's request, raises nothing there and fails no md5 check: the
    bytes are handed on, with the row's padding and the reply's
    `completed`, exactly when they are as long as the row's recorded
    size. -/
theorem retrieveKey_reader_success {env : ReaderEnv} {s : ReaderState} (hs : Reachable env s)
    {a : Answer} (ha : a ∈ s.answers) (hsucc : a.succeeded) {client : ReaderClient}
    {messageType : String} {segmentUnifiedId segmentConjoinedPart segmentNum : Value}
    (hc : client.queueMessageForSend
        (retrieveMessage messageType segmentUnifiedId segmentConjoinedPart segmentNum) =
      some (a.reply, a.data))
    (st : σ) :
    ∃ (row : SequenceRow) (data : Bytes) (completed : Bool),
      a.data = .bytes data ∧ env.md5 data = row.hash ∧
      (retrieveKey client env.md5 messageType segmentUnifiedId segmentConjoinedPart segmentNum).run st =
        .ok (if (data.length : Int) = row.size then
          some (.bytes data, .int row.zfecPaddingSize, .bool completed) else none) st := by
  obtain ⟨reply, n, completed, row, data, hreply, hdata, hmd5⟩ := hs.delivers a ha hsucc
  refine ⟨row, data, completed, hdata, hmd5, ?_⟩
  rw [retrieveKey, hc, hreply, hdata]
  exact run_checkSegment_successReply hmd5 st

theorem partOne_retrieveKeyStart :
    Reachable twoPartEnv partOneRun ∧ partOneAnswer ∈ partOneRun.answers ∧ partOneAnswer.succeeded ∧
      ∃ (row : SequenceRow) (data : Bytes) (completed : Bool), partOneAnswer.data = .bytes data ∧
        twoPartEnv.md5 data = row.hash ∧
        (retrieveKey partOneClient twoPartEnv.md5 "retrieve-key-start" (.int 7) (.int 1) (.int 1)).run () =
          .ok (if (data.length : Int) = row.size then
            some (.bytes data, .int row.zfecPaddingSize, .bool completed) else none) () :=
  have hmem : partOneAnswer ∈ partOneRun.answers := partOneRun_answers ▸ List.mem_singleton_self _
  have hsucc : partOneAnswer.succeeded := by simp [Answer.succeeded, partOneAnswer]
  ⟨.step _ .init, hmem, hsucc, retrieveKey_reader_success (.step _ .init) hmem hsucc rfl ()⟩

example : (retrieveKeyStart partOneClient twoPartEnv.md5 (.int 7) (.int 1) (.int 1) : PyM Unit _).run () =
    .ok (some (.bytes [7, 8, 9], .int 0, .bool true)) () := by
  rfl

end Answers

-- ============================================================================
-- Web servers reading through one data reader
-- ============================================================================

section Reads

variable {σ : Type} {env : ReaderEnv}

/-- The call handed back the answer to a valid conversation's `n`-th
    request returns that request's sequence, when the row's size is the
    length of its bytes. -/
theorem retrieveKey_fetchAnswer {f : Fetch} (hv : f.Valid env) {n : Nat} (hn : n < f.rows.length)
    (hsize : (f.rows[n].2.length : Int) = f.rows[n].1.size) {client : ReaderClient}
    {messageType : String} {u c sn : Value}
    (hc : client.queueMessageForSend (retrieveMessage messageType u c sn) =
      some ((f.answer n f.rows[n]).reply, (f.answer n f.rows[n]).data))
    (st : σ) :
    (retrieveKey client env.md5 messageType u c sn).run st =
      .ok (some (.bytes f.rows[n].2, .int f.rows[n].1.zfecPaddingSize,
        .bool (n + 1 == f.rows.length))) st := by
  rw [retrieveKey, hc]
  simp only [Fetch.answer]
  rw [run_checkSegment_successReply (hv.md5 _ (List.getElem_mem _)) st, if_pos hsize]

/-- Web servers reading segments through one data reader, their requests
    interleaved in any order: a web server's
    `n`-th call, handed back the `n`-th answer the reader sent on its state
    key, returns its own segment's `n`-th sequence with that row's padding,
    marked completed exactly on the last sequence. -/
theorem webServers_read_own_sequences {fs : List Fetch} {s : ReaderState}
    (hkeys : (fs.map Fetch.key).Nodup) (hvalid : ∀ j : Fin fs.length, fs[j].Valid env)
    (hfree : ∀ f ∈ fs, s.activeRequests.get? f.key = none)
    (hsize : ∀ f ∈ fs, ∀ p ∈ f.rows, (p.2.length : Int) = p.1.size)
    (sched : List (Fin fs.length)) (hsched : ∀ j, sched.count j ≤ fs[j].rows.length)
    (j : Fin fs.length) {n : Nat} (hcount : n < sched.count j) (hn : n < fs[j].rows.length)
    {client : ReaderClient} {messageType : String} {u c sn : Value} {a : Answer}
    (ha : (((runSchedule env fs s sched).answers.drop s.answers.length).filter
      fun a => stateKey? a.request.message = some fs[j].key)[n]? = some a)
    (hc : client.queueMessageForSend (retrieveMessage messageType u c sn) = some (a.reply, a.data))
    (st : σ) :
    (retrieveKey client env.md5 messageType u c sn).run st =
      .ok (some (.bytes fs[j].rows[n].2, .int fs[j].rows[n].1.zfecPaddingSize,
        .bool (n + 1 == fs[j].rows.length))) st := by
  obtain ⟨new, hnew, -, hfilter⟩ := (runSchedule_fetchesAt hkeys hvalid hfree sched hsched).answers
  rw [hnew, List.drop_left, hfilter j, List.getElem?_take_of_lt hcount,
    Fetch.getElem?_answers hn, Option.some.injEq] at ha
  subst ha
  exact retrieveKey_fetchAnswer (hvalid j) hn (hsize _ (List.getElem_mem _) _ (List.getElem_mem _))
    hc st

/-- The second sequence web server 1 reads, while web server 2 reads
    part 1 between its two calls. -/
def webServerOneNext : Answer :=
  twoClientFetches[0].answer 1 (⟨2, 0, 1, [5, 6]⟩, [5, 6])

theorem webServerOne_reads_second_sequence :
    (retrieveKey ⟨fun _ => some (webServerOneNext.reply, webServerOneNext.data)⟩ twoPartEnv.md5
        "retrieve-key-next" (.int 7) (.int 0) (.int 1)).run () =
      .ok (some (.bytes [5, 6], .int 0, .bool true)) () :=
  @webServers_read_own_sequences Unit twoPartEnv twoClientFetches ReaderState.init (by decide)
    (fun j => twoClientFetches_valid _ (List.getElem_mem _)) (fun _ _ => rfl) (by decide)
    twoClientSchedule (by decide) ⟨0, by decide⟩ 1 (by decide) (by decide) _ _ _ _ _
    webServerOneNext rfl rfl ()

end Reads

end WebServer
end NimbusIo
