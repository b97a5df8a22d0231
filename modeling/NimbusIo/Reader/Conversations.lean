/-
  NimbusIo.Reader.Conversations

  Retrieval conversations at the data reader, over any sequence of
  requests.  A conversation on a state key is read off the answers alone:
  an accepted `retrieve-key-start` opens it, each success reply counts one
  sequence, and a completed reply or an error closes it.  `ReaderState.Inv`
  ties `active-requests` to this reading: a key has an entry exactly while
  its conversation is open, and the entry counts what the answers count.

  The state key leaves out `segment-conjoined-part`, so two conjoined
  parts of one object fetched by one client share a conversation: the
  second start is rejected while the first is open.
-/
import NimbusIo.Reader.DataReader

namespace NimbusIo
namespace Reader

/-- A conversation on one state key, as its answers show it. -/
structure Conversation where
  /-- success replies since its start -/
  delivered : Nat
  /-- the row count its start found -/
  rows : Nat
  isOpen : Bool

/-- How one answer moves the conversation on `k`: an accepted start
    restarts it, a next reply counts on or closes it. -/
def Conversation.track (env : ReaderEnv) (k : StateKey) (c : Conversation) (a : Answer) :
    Conversation :=
  if stateKey? a.request.message = some k then
    match a.request with
    | .start _ m =>
      if a.rejected then c
      else ⟨if a.succeeded then 1 else 0, startRowCount env m, a.succeeded && !a.completed⟩
    | .next _ =>
      if a.succeeded then ⟨c.delivered + 1, c.rows, !a.completed⟩ else { c with isOpen := false }
  else c

/-- The conversation on `k` after a list of answers. -/
def conversation (env : ReaderEnv) (k : StateKey) (answers : List Answer) : Conversation :=
  answers.foldl (Conversation.track env k) ⟨0, 0, false⟩

/-- A success answer, sent after `before`, carries its conversation's count
    as `sequence-num`, and `completed` exactly when the count reaches the
    row count. -/
def AnswerCounted (env : ReaderEnv) (before : List Answer) (a : Answer) : Prop :=
  a.succeeded → ∀ k, stateKey? a.request.message = some k →
    a.reply.get? "sequence-num" = some (.int (conversation env k (before ++ [a])).delivered) ∧
    a.completed = ((conversation env k (before ++ [a])).delivered ==
      (conversation env k (before ++ [a])).rows)

/-- Every answer of the list is counted right. -/
def CountedReplies (env : ReaderEnv) (answers : List Answer) : Prop :=
  ∀ i (h : i < answers.length), AnswerCounted env (answers.take i) answers[i]

/-- An entry agrees with the conversation on its key; a key without an
    entry has no open conversation. -/
def EntryAgrees (env : ReaderEnv) (answers : List Answer) (k : StateKey) :
    Option RetrieveState → Prop
  | some e =>
    (conversation env k answers).isOpen ∧
    (conversation env k answers).delivered = e.sequenceReadCount ∧
    (conversation env k answers).rows = e.sequenceRowCount ∧
    1 ≤ e.sequenceReadCount ∧ e.sequenceReadCount < e.sequenceRowCount ∧
    e.generator.yielded = e.sequenceReadCount
  | none => (conversation env k answers).isOpen = false

/-- What every reachable reader state keeps. -/
structure ReaderState.Inv (env : ReaderEnv) (s : ReaderState) : Prop where
  entries : ∀ k, EntryAgrees env s.answers k (s.activeRequests.get? k)
  counted : CountedReplies env s.answers

-- ============================================================================
-- The conversation of one more answer
-- ============================================================================

section Track

variable {env : ReaderEnv} {k k' : StateKey} {a : Answer} {answers : List Answer}

@[simp] theorem conversation_append_singleton :
    conversation env k (answers ++ [a]) = (conversation env k answers).track env k a := by
  simp [conversation]

theorem track_of_ne (hk : stateKey? a.request.message = some k) (hne : k' ≠ k) (c : Conversation) :
    c.track env k' a = c := by
  simp [Conversation.track, hk, Ne.symm hne]

/-- An answer on another key, or on none, leaves the conversation on `k`. -/
theorem track_of_stateKey?_ne (h : stateKey? a.request.message ≠ some k) (c : Conversation) :
    c.track env k a = c := by
  simp [Conversation.track, h]

/-- The conversation on `k` is made of the answers on `k` alone. -/
theorem foldl_track_filter (c : Conversation) (answers : List Answer) :
    (answers.filter fun a => stateKey? a.request.message = some k).foldl (Conversation.track env k) c =
      answers.foldl (Conversation.track env k) c := by
  induction answers generalizing c with
  | nil => rfl
  | cons a answers ih =>
    by_cases hk : stateKey? a.request.message = some k
    · simp [List.filter_cons, hk, ih]
    · simp [List.filter_cons, hk, ih, track_of_stateKey?_ne hk]

theorem track_start {now : ℚ} {m : Control} (hk : stateKey? m = some k) (ha : a.request = .start now m)
    (c : Conversation) :
    c.track env k a = if a.rejected then c
      else ⟨if a.succeeded then 1 else 0, startRowCount env m, a.succeeded && !a.completed⟩ := by
  simp [Conversation.track, ha, Request.message, hk]

theorem track_next {m : Control} (hk : stateKey? m = some k) (ha : a.request = .next m)
    (c : Conversation) :
    c.track env k a = if a.succeeded then ⟨c.delivered + 1, c.rows, !a.completed⟩
      else { c with isOpen := false } := by
  simp [Conversation.track, ha, Request.message, hk]

/-- Whether an entry agrees depends on the answers only through the conversation. -/
theorem entryAgrees_congr {answers' : List Answer}
    (h : conversation env k answers' = conversation env k answers) (o : Option RetrieveState) :
    EntryAgrees env answers' k o ↔ EntryAgrees env answers k o := by
  cases o <;> simp [EntryAgrees, h]

theorem countedReplies_append_singleton :
    CountedReplies env (answers ++ [a]) ↔ CountedReplies env answers ∧ AnswerCounted env answers a := by
  constructor
  · intro h
    refine ⟨fun i hi => ?_, ?_⟩
    · have := h i (by simp; omega)
      rwa [List.take_append_of_le_length hi.le, List.getElem_append_left hi] at this
    · simpa using h answers.length (by simp)
  · rintro ⟨h, ha⟩ i hi
    rcases Nat.lt_or_ge i answers.length with hlt | hge
    · rw [List.take_append_of_le_length hlt.le, List.getElem_append_left hlt]
      exact h i hlt
    · obtain rfl : i = answers.length := by simp at hi; omega
      simpa using ha

/-- One more answer on `k` keeps the invariant when the entry on `k` agrees
    with it, the answer is counted right, and no other entry moved. -/
theorem ReaderState.Inv.of_answer {s s' : ReaderState} (h : s.Inv env)
    (hk : stateKey? a.request.message = some k) (hans : s'.answers = s.answers ++ [a])
    (hframe : ∀ k', k' ≠ k → s'.activeRequests.get? k' = s.activeRequests.get? k')
    (hagree : EntryAgrees env (s.answers ++ [a]) k (s'.activeRequests.get? k))
    (hcount : AnswerCounted env s.answers a) : s'.Inv env where
  entries k' := by
    rw [hans]
    by_cases hne : k' = k
    · exact hne ▸ hagree
    · rw [hframe k' hne]
      exact (entryAgrees_congr (by simp [track_of_ne hk hne]) _).mpr (h.entries k')
  counted := by
    rw [hans, countedReplies_append_singleton]
    exact ⟨h.counted, hcount⟩

theorem Answer.rejected_of_succeeded (h : a.succeeded) : a.rejected = false := by
  simp_all [Answer.succeeded, Answer.rejected]

end Track

-- ============================================================================
-- Every request keeps the invariant
-- ============================================================================

section Steps

variable {env : ReaderEnv} {s : ReaderState}

theorem ReaderState.Inv.start (h : s.Inv env) (now : ℚ) (m : Control) :
    (s.step env (.start now m)).Inv env := by
  obtain h' | ⟨k, a, hk, ha, hans, hcase⟩ := handleRetrieveKeyStart_cases
    (show resultState ((handleRetrieveKeyStart env now m).run s) = s.step env (.start now m) from rfl)
  · rw [h']; exact h
  have hka : stateKey? a.request.message = some k := by rw [ha]; exact hk
  rcases hcase with ⟨-, hrej, hA⟩ | ⟨hnone, hrej, hsucc, hA⟩ |
    ⟨hnone, hsucc, -, hseq, hcomp, hpos, hA⟩
  · -- rejected as a duplicate
    refine h.of_answer hka hans (fun k' _ => by rw [hA]) ?_ (fun hs => ?_)
    · rw [hA]
      exact (entryAgrees_congr (by simp [track_start hk ha, hrej]) _).mpr (h.entries k)
    · simp [Answer.rejected_of_succeeded hs] at hrej
  · -- a failure
    refine h.of_answer hka hans (fun k' _ => by rw [hA]) ?_ (fun hs => by simp [hsucc] at hs)
    rw [hA, hnone]
    simp [EntryAgrees, track_start hk ha, hrej, hsucc]
  · -- the first sequence delivered
    have hrej := Answer.rejected_of_succeeded hsucc
    refine h.of_answer hka hans (fun k' hne => ?_) ?_ (fun _ k' hk' => ?_)
    · rw [hA]; split <;> simp [PyDict.get?_set_ne _ _ hne]
    · rw [hA]
      split
      · simp_all [EntryAgrees, track_start hk ha]
      · simp only [PyDict.get?_set_self, EntryAgrees, conversation_append_singleton,
          track_start hk ha, hrej, hsucc, hcomp]
        simp only [Bool.false_eq_true, if_false, if_true, Bool.true_and, Bool.not_eq_true',
          beq_eq_false_iff_ne, ne_eq, and_true, true_and]
        omega
    · obtain rfl : k' = k := Option.some.inj (hk'.symm.trans hka)
      simp [track_start hk ha, hrej, hsucc, hseq, hcomp]

theorem ReaderState.Inv.next (h : s.Inv env) (m : Control) : (s.step env (.next m)).Inv env := by
  obtain h' | ⟨k, a, hk, ha, hans, hcase⟩ := handleRetrieveKeyNext_cases
    (show resultState ((handleRetrieveKeyNext env m).run s) = s.step env (.next m) from rfl)
  · rw [h']; exact h
  have hka : stateKey? a.request.message = some k := by rw [ha]; exact hk
  have hold := h.entries k
  rcases hcase with ⟨hnone, hres, hA⟩ | ⟨e, he, hsucc, hA⟩ | ⟨e, he, hsucc, -, hseq, hcomp, hA⟩
  · -- no entry: unknown-request
    have hsucc : a.succeeded = false := by simp [Answer.succeeded, hres]
    refine h.of_answer hka hans (fun k' _ => by rw [hA]) ?_ (fun hs => by simp [hsucc] at hs)
    rw [hA, hnone]
    simp [EntryAgrees, track_next hk ha, hsucc]
  · -- a failure drops the entry
    refine h.of_answer hka hans (fun k' hne => by simp [hA, hne]) ?_
      (fun hs => by simp [hsucc] at hs)
    simp [hA, EntryAgrees, track_next hk ha, hsucc]
  · -- the next sequence delivered
    rw [he] at hold
    obtain ⟨-, hdel, hrows, -, hlt, hyield⟩ := hold
    refine h.of_answer hka hans (fun k' hne => ?_) ?_ (fun _ k' hk' => ?_)
    · rw [hA]; split <;> simp [hne]
    · rw [hA]
      split
      · simp_all [EntryAgrees, track_next hk ha]
      · simp only [PyDict.get?_set_self, EntryAgrees, conversation_append_singleton,
          track_next hk ha, hsucc, hcomp, if_true]
        simp_all
        omega
    · obtain rfl : k' = k := Option.some.inj (hk'.symm.trans hka)
      simp [track_next hk ha, hsucc, hseq, hcomp, hdel, hrows]

/-- Every request keeps the invariant. -/
theorem ReaderState.Inv.step (h : s.Inv env) : ∀ request, (s.step env request).Inv env
  | .start now m => h.start now m
  | .next m => h.next m

theorem Reachable.inv {s : ReaderState} (h : Reachable env s) : s.Inv env := by
  induction h with
  | init =>
    exact ⟨fun k => by simp [ReaderState.init, EntryAgrees, conversation],
      fun i hi => by simp [ReaderState.init] at hi⟩
  | step request _ ih => exact ih.step request

/-- A request adds at most one answer, and a success answer it adds
    delivers a row's bytes under the row's hash. -/
theorem ReaderState.step_answers (request : Request) :
    (s.step env request).answers = s.answers ∨
      ∃ a, (s.step env request).answers = s.answers ++ [a] ∧ (a.succeeded → a.Delivers env) := by
  cases request with
  | start now m =>
    obtain h' | ⟨k, a, -, -, hans, hcase⟩ := handleRetrieveKeyStart_cases
      (show resultState ((handleRetrieveKeyStart env now m).run s) = s.step env (.start now m) from rfl)
    · exact .inl (by rw [h'])
    refine .inr ⟨a, hans, fun hs => ?_⟩
    rcases hcase with ⟨-, hrej, -⟩ | ⟨-, -, hsucc, -⟩ | ⟨-, -, hd, -⟩
    · simp [Answer.rejected_of_succeeded hs] at hrej
    · simp [hsucc] at hs
    · exact hd
  | next m =>
    obtain h' | ⟨k, a, -, -, hans, hcase⟩ := handleRetrieveKeyNext_cases
      (show resultState ((handleRetrieveKeyNext env m).run s) = s.step env (.next m) from rfl)
    · exact .inl (by rw [h'])
    refine .inr ⟨a, hans, fun hs => ?_⟩
    rcases hcase with ⟨-, hres, -⟩ | ⟨-, -, hsucc, -⟩ | ⟨-, -, -, hd, -⟩
    · simp [Answer.succeeded, hres] at hs
    · simp [hsucc] at hs
    · exact hd

/-- Every success answer a reachable reader has sent carries a row's bytes
    whose md5 is the row's hash. -/
theorem Reachable.delivers (h : Reachable env s) : ∀ a ∈ s.answers, a.succeeded → a.Delivers env := by
  induction h with
  | init => simp [ReaderState.init]
  | step request _ ih =>
    rcases ReaderState.step_answers request with hans | ⟨a', hans, ha'⟩
    · rwa [hans]
    · rw [hans]
      intro a ha
      rcases List.mem_append.mp ha with ha | ha
      · exact ih a ha
      · exact (List.mem_singleton.mp ha) ▸ ha'

end Steps

-- ============================================================================
-- The retrieval laws
-- ============================================================================

section Laws

variable {env : ReaderEnv} {s : ReaderState} {k : StateKey}

theorem ReaderState.Inv.entry_bounds (h : s.Inv env) {e : RetrieveState}
    (he : s.activeRequests.get? k = some e) :
    1 ≤ e.sequenceReadCount ∧ e.sequenceReadCount < e.sequenceRowCount ∧
      e.generator.yielded = e.sequenceReadCount := by
  have := h.entries k
  rw [he] at this
  exact this.2.2.2

theorem ReaderState.Inv.get?_eq_none (h : s.Inv env)
    (hc : (conversation env k s.answers).isOpen = false) : s.activeRequests.get? k = none := by
  have := h.entries k
  cases he : s.activeRequests.get? k with
  | none => rfl
  | some e => rw [he] at this; simp [EntryAgrees, hc] at this

/-- A completed reply, or an error reply to `retrieve-key-next`, closes its conversation. -/
theorem track_closes {a : Answer} (hk : stateKey? a.request.message = some k)
    (hclose : (a.succeeded ∧ a.completed) ∨ ((∃ m, a.request = .next m) ∧ a.succeeded = false))
    (c : Conversation) : (c.track env k a).isOpen = false := by
  rcases ha : a.request with ⟨now, m⟩ | m
  · have hm : stateKey? m = some k := by simpa [ha, Request.message] using hk
    rcases hclose with ⟨hs, hc⟩ | ⟨⟨m', hm'⟩, -⟩
    · simp [track_start hm ha, Answer.rejected_of_succeeded hs, hs, hc]
    · simp [ha] at hm'
  · have hm : stateKey? m = some k := by simpa [ha, Request.message] using hk
    rw [track_next hm ha]
    rcases hclose with ⟨hs, hc⟩ | ⟨-, hs⟩ <;> simp [hs, *]

/-- A start on a key without an entry is never rejected as a duplicate. -/
theorem start_not_rejected {now : ℚ} {m : Control} {a : Answer} (hk : stateKey? m = some k)
    (hnone : s.activeRequests.get? k = none)
    (hans : (s.step env (.start now m)).answers = s.answers ++ [a]) : a.rejected = false := by
  obtain h' | ⟨k', a', hk', -, hans', hcase⟩ := handleRetrieveKeyStart_cases
    (show resultState ((handleRetrieveKeyStart env now m).run s) = s.step env (.start now m) from rfl)
  · rw [h'] at hans; simpa using congrArg List.length hans
  obtain rfl : a = a' := by simpa [hans] using hans'
  obtain rfl : k' = k := Option.some.inj (hk'.symm.trans hk)
  rcases hcase with ⟨hc, -⟩ | ⟨-, hrej, -⟩ | ⟨-, hsucc, -⟩
  · simp [PyDict.contains, hnone] at hc
  · exact hrej
  · exact Answer.rejected_of_succeeded hsucc

/-- The retrieval laws at the data reader, over any requests: every entry
    has delivered at least one and fewer than all of its sequences, and its
    generator has yielded exactly that many rows; every success reply is
    numbered by its conversation's count and completes exactly at the row
    count; and once the last answer on a key is a completed reply, or an
    error reply to `retrieve-key-next`, whatever was answered on other keys
    since, the key has no entry, so a next on it is answered
    `unknown-request` and a start on it is not rejected as a duplicate. -/
theorem dataReader_retrieval_laws (h : Reachable env s) :
    (∀ k e, s.activeRequests.get? k = some e →
      1 ≤ e.sequenceReadCount ∧ e.sequenceReadCount < e.sequenceRowCount ∧
      e.generator.yielded = e.sequenceReadCount) ∧
    CountedReplies env s.answers ∧
    (∀ a k, (s.answers.filter fun a => stateKey? a.request.message = some k).getLast? = some a →
      (a.succeeded ∧ a.completed) ∨ ((∃ m, a.request = .next m) ∧ a.succeeded = false) →
      s.activeRequests.get? k = none ∧
      (∀ m, stateKey? m = some k → hasFields m nextReplyFields →
        (handleRetrieveKeyNext env m).run s = .ok () { s with answers := s.answers ++
          [⟨.next m, errorReply (replyTemplate nextReplyFields m) "unknown-request"
            ("unknown request " ++ stateKeyRepr k), .none⟩] }) ∧
      (∀ now m a', stateKey? m = some k →
        (s.step env (.start now m)).answers = s.answers ++ [a'] → a'.rejected = false)) := by
  have hinv := h.inv
  refine ⟨fun k e he => hinv.entry_bounds he, hinv.counted, fun a k hlast hclose => ?_⟩
  obtain ⟨before, hbefore⟩ := List.getLast?_eq_some_iff.mp hlast
  have hmem : a ∈ s.answers.filter fun a => stateKey? a.request.message = some k :=
    hbefore ▸ List.mem_append_right before (List.mem_singleton_self a)
  have hk : stateKey? a.request.message = some k := of_decide_eq_true (List.mem_filter.mp hmem).2
  have hnone : s.activeRequests.get? k = none := hinv.get?_eq_none (by
    rw [conversation, ← foldl_track_filter, hbefore, ← conversation, conversation_append_singleton]
    exact track_closes hk hclose _)
  exact ⟨hnone, fun m hm hf => handleRetrieveKeyNext_unknown hm hf hnone,
    fun now m a' hm hans => start_not_rejected hm hnone hans⟩

/-- A reader holding one object as two conjoined parts of one segment:
    part 0 has two sequences, part 1 has one.  `md5` is taken to be the
    identity, so each row's hash is its bytes. -/
def twoPartEnv : ReaderEnv where
  generateAllSequenceRows _ part _ :=
    if part = .int 0 then
      ⟨.ok 2, [.ok (⟨4, 0, 1, [1, 2, 3, 4]⟩, [1, 2, 3, 4]), .ok (⟨2, 0, 1, [5, 6]⟩, [5, 6])]⟩
    else ⟨.ok 1, [.ok (⟨3, 0, 1, [7, 8, 9]⟩, [7, 8, 9])]⟩
  md5 := id

/-- The `retrieve-key-start` a client sends for one conjoined part. -/
def partStart (part : Int) : Control :=
  [("message-type", .str "retrieve-key-start"), ("client-tag", .str "web-server-1"),
   ("message-id", .str "m1"), ("segment-unified-id", .int 7),
   ("segment-conjoined-part", .int part), ("segment-num", .int 1)]

/-- The `retrieve-key-next` that follows it. -/
def partNext : Control :=
  [("message-type", .str "retrieve-key-next"), ("client-tag", .str "web-server-1"),
   ("message-id", .str "m2"), ("segment-unified-id", .int 7), ("segment-num", .int 1)]

/-- Part 0 fetched whole: a start, then one next. -/
def twoSequenceRun : ReaderState :=
  (ReaderState.init.step twoPartEnv (.start 0 (partStart 0))).step twoPartEnv (.next partNext)

theorem twoSequenceRun_retrieval_laws :
    (∀ k e, twoSequenceRun.activeRequests.get? k = some e →
      1 ≤ e.sequenceReadCount ∧ e.sequenceReadCount < e.sequenceRowCount ∧
      e.generator.yielded = e.sequenceReadCount) ∧
    CountedReplies twoPartEnv twoSequenceRun.answers ∧
    (∀ a k, (twoSequenceRun.answers.filter fun a => stateKey? a.request.message = some k).getLast? = some a →
      (a.succeeded ∧ a.completed) ∨ ((∃ m, a.request = .next m) ∧ a.succeeded = false) →
      twoSequenceRun.activeRequests.get? k = none ∧
      (∀ m, stateKey? m = some k → hasFields m nextReplyFields →
        (handleRetrieveKeyNext twoPartEnv m).run twoSequenceRun = .ok ()
          { twoSequenceRun with answers := twoSequenceRun.answers ++
            [⟨.next m, errorReply (replyTemplate nextReplyFields m) "unknown-request"
              ("unknown request " ++ stateKeyRepr k), .none⟩] }) ∧
      (∀ now m a', stateKey? m = some k →
        (twoSequenceRun.step twoPartEnv (.start now m)).answers = twoSequenceRun.answers ++ [a'] →
          a'.rejected = false)) :=
  dataReader_retrieval_laws (.step (.next partNext) (.step (.start 0 (partStart 0)) .init))

example : twoSequenceRun.answers.map (fun a => (a.reply.get? "sequence-num", a.completed)) =
    [(some (.int 1), false), (some (.int 2), true)] := by
  with_unfolding_all decide

theorem stateKey?_set_conjoinedPart (m : Control) (p : Value) :
    stateKey? (m.set "segment-conjoined-part" p) = stateKey? m := by
  simp [stateKey?, PyDict.get?_set]

theorem hasFields_set_conjoinedPart {m : Control} (h : hasFields m startReplyFields) (p : Value) :
    hasFields (m.set "segment-conjoined-part" p) startReplyFields := by
  simp_all [hasFields, startReplyFields, PyDict.get?_set]

/-- Two conjoined parts of one object, fetched by one client, share a state
    key: once the start for one part has opened a conversation of two or
    more sequences, the start for any other part is rejected as a
    duplicate. -/
theorem retrieveKeyStart_rejects_other_conjoined_part {now now' : ℚ} {m : Control}
    {K : Nat} {row : SequenceRow} {data : Bytes} (p' : Value) (hk : stateKey? m = some k)
    (hf : hasFields m startReplyFields) (hnone : s.activeRequests.get? k = none)
    (hK : (startSource env m).count = .ok K) (hK2 : 2 ≤ K)
    (hrow : (startSource env m).rows.getD 0 (.error "") = .ok (row, data))
    (hmd5 : env.md5 data = row.hash) :
    ((s.step env (.start now m)).step env (.start now' (m.set "segment-conjoined-part" p'))).answers =
      (s.step env (.start now m)).answers ++
        [⟨.start now' (m.set "segment-conjoined-part" p'),
          errorReply (replyTemplate startReplyFields (m.set "segment-conjoined-part" p'))
            "invalid-duplicate" "invalid duplicate request in retrieve-key-start", .none⟩] := by
  have hopen : (s.step env (.start now m)).activeRequests.contains k := by
    simp [ReaderState.step, Request.handle,
      handleRetrieveKeyStart_first hk hf hnone hK (by omega) hrow hmd5, PyDict.contains,
      show 1 ≠ K by omega]
  show (resultState ((handleRetrieveKeyStart env now' _).run (s.step env (.start now m)))).answers = _
  rw [handleRetrieveKeyStart_duplicate ((stateKey?_set_conjoinedPart m p').trans hk)
    (hasFields_set_conjoinedPart hf p') hopen]
  rfl

theorem conjoinedParts_second_start_rejected :
    ((ReaderState.init.step twoPartEnv (.start 0 (partStart 0))).step twoPartEnv
        (.start 0 ((partStart 0).set "segment-conjoined-part" (.int 1)))).answers =
      (ReaderState.init.step twoPartEnv (.start 0 (partStart 0))).answers ++
        [⟨.start 0 ((partStart 0).set "segment-conjoined-part" (.int 1)),
          errorReply (replyTemplate startReplyFields ((partStart 0).set "segment-conjoined-part" (.int 1)))
            "invalid-duplicate" "invalid duplicate request in retrieve-key-start", .none⟩] :=
  @retrieveKeyStart_rejects_other_conjoined_part twoPartEnv ReaderState.init
    (.str "web-server-1", .int 7, .int 1) 0 0 (partStart 0) 2 ⟨4, 0, 1, [1, 2, 3, 4]⟩ [1, 2, 3, 4]
    (.int 1) (by decide) (by decide) rfl rfl (by decide) rfl rfl

end Laws

end Reader
end NimbusIo
