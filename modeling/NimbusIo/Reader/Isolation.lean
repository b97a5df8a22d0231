/-
  NimbusIo.Reader.Isolation

  Retrieval conversations on pairwise distinct state keys, interleaved at
  the data reader in any order.  A request touches `active-requests` only
  under its own state key, and what it answers depends only on the entry
  there, so each conversation gets exactly the answers it gets alone: the
  n-th is a success reply numbered n with the segment's n-th sequence,
  `completed` on the last, and no conversation is refused as a duplicate or
  an unknown request.  Once a conversation has had all its answers its
  entry is gone.

  The state key is `(client-tag, segment-unified-id, segment-num)`
  (`_compute_state_key`); conversations that differ only in their conjoined
  part share one, and do disturb each other
  (`retrieveKeyStart_rejects_other_conjoined_part`).
-/
import NimbusIo.Reader.Conversations

namespace NimbusIo
namespace Reader

/-- One retrieval conversation: a `retrieve-key-start` at `now`, then the
    `retrieve-key-next` that follows it, repeated; `rows` are the sequence
    rows of its segment with their bytes. -/
structure Fetch where
  key : StateKey
  now : ℚ
  start : Control
  next : Control
  rows : List (SequenceRow × Bytes)

/-- The fetch's `n`-th request, from 0. -/
def Fetch.request (f : Fetch) (n : Nat) : Request :=
  if n = 0 then .start f.now f.start else .next f.next

/-- The answer to the fetch's `n`-th request, for its sequence `p`, when the
    fetch runs alone. -/
def Fetch.answer (f : Fetch) (n : Nat) (p : SequenceRow × Bytes) : Answer :=
  ⟨f.request n, successReply (if n = 0 then replyTemplate startReplyFields f.start
      else replyTemplate nextReplyFields f.next) (n + 1) (n + 1 == f.rows.length) p.1,
    .bytes p.2⟩

/-- The answers the fetch gets alone, one per sequence. -/
def Fetch.answers (f : Fetch) : List Answer :=
  f.rows.enum.map fun p => f.answer p.1 p.2

/-- The entry on the fetch's key after its first `c` requests. -/
def Fetch.entry (env : ReaderEnv) (f : Fetch) (c : Nat) : Option RetrieveState :=
  if c = 0 ∨ f.rows.length ≤ c then none
  else some ⟨⟨startSource env f.start, c⟩, f.rows.length, c, f.now + retrieveTimeout⟩

/-- A fetch the reader serves in full: both messages carry the key and the
    fields the replies copy, and the start's generator counts the rows and
    yields them, each matching its hash. -/
structure Fetch.Valid (env : ReaderEnv) (f : Fetch) : Prop where
  startKey : stateKey? f.start = some f.key
  nextKey : stateKey? f.next = some f.key
  startFields : hasFields f.start startReplyFields
  nextFields : hasFields f.next nextReplyFields
  count : (startSource env f.start).count = .ok f.rows.length
  pos : 0 < f.rows.length
  rows : ∀ i (h : i < f.rows.length), (startSource env f.start).rows.getD i (.error "") = .ok f.rows[i]
  md5 : ∀ p ∈ f.rows, env.md5 p.2 = p.1.hash

/-- The requests of a schedule of fetches, each fetch `j` having made
    `done j` requests before it. -/
def scheduleRequests (fs : List Fetch) (done : Fin fs.length → Nat) :
    List (Fin fs.length) → List Request
  | [] => []
  | j :: js => fs[j].request (done j) :: scheduleRequests fs (Function.update done j (done j + 1)) js

/-- The reader after the fetches' requests in the order of `sched`. -/
def runSchedule (env : ReaderEnv) (fs : List Fetch) (s : ReaderState)
    (sched : List (Fin fs.length)) : ReaderState :=
  (scheduleRequests fs (fun _ => 0) sched).foldl (fun st r => st.step env r) s

section Answers

variable {f : Fetch}

theorem Fetch.answers_take_succ {c : Nat} (hc : c < f.rows.length) :
    f.answers.take (c + 1) = f.answers.take c ++ [f.answer c f.rows[c]] := by
  rw [List.take_succ, List.getElem?_eq_getElem (by simpa [Fetch.answers] using hc)]
  simp [Fetch.answers]

theorem Fetch.getElem?_answers {c : Nat} (hc : c < f.rows.length) :
    f.answers[c]? = some (f.answer c f.rows[c]) := by
  simp [Fetch.answers, hc]

end Answers

-- ============================================================================
-- One request of a fetch
-- ============================================================================

section Request

variable {env : ReaderEnv} {f : Fetch} {st : ReaderState}

/-- The fetch's `c`-th request, on the entry it leaves after `c` requests,
    sends its alone answer, leaves the entry of `c + 1` requests, and moves
    no other key. -/
theorem Fetch.Valid.step_request (hv : f.Valid env) {c : Nat} (hc : c < f.rows.length)
    (he : st.activeRequests.get? f.key = f.entry env c) :
    (st.step env (f.request c)).answers = st.answers ++ [f.answer c f.rows[c]] ∧
      (st.step env (f.request c)).activeRequests.get? f.key = f.entry env (c + 1) ∧
      ∀ k, k ≠ f.key → (st.step env (f.request c)).activeRequests.get? k = st.activeRequests.get? k := by
  have hmd5 := hv.md5 _ (List.getElem_mem hc)
  rcases c with _ | c
  · -- the start
    have hnone : st.activeRequests.get? f.key = none := by simpa [Fetch.entry] using he
    have hrun := @handleRetrieveKeyStart_first env f.now f.start f.key st _ _ _ hv.startKey
      hv.startFields hnone hv.count (Nat.pos_iff_ne_zero.mp hv.pos) (hv.rows 0 hv.pos) hmd5
    rw [show f.request 0 = .start f.now f.start from if_pos rfl]
    simp only [ReaderState.step, Request.handle, hrun, resultState_ok]
    refine ⟨rfl, ?_, fun k hk => ?_⟩
    · by_cases h1 : 1 = f.rows.length
      · simp [h1, hnone, Fetch.entry]
      · have : ¬f.rows.length ≤ 1 := by have := hv.pos; omega
        simp [h1, Fetch.entry, this]
    · split
      · rfl
      · exact PyDict.get?_set_ne _ _ hk
  · -- a next
    have hlt : c + 1 < f.rows.length := hc
    have he' : st.activeRequests.get? f.key =
        some ⟨⟨startSource env f.start, c + 1⟩, f.rows.length, c + 1, f.now + retrieveTimeout⟩ := by
      simpa [Fetch.entry, Nat.not_le.mpr hlt] using he
    have hrun := handleRetrieveKeyNext_next hv.nextKey hv.nextFields he' (hv.rows (c + 1) hlt) hmd5
    rw [show f.request (c + 1) = .next f.next from if_neg (Nat.add_one_ne_zero c)]
    simp only [ReaderState.step, Request.handle, hrun, resultState_ok]
    refine ⟨rfl, ?_, fun k hk => ?_⟩
    · by_cases hlast : c + 1 + 1 = f.rows.length
      · simp [hlast, Fetch.entry]
      · have : ¬f.rows.length ≤ c + 1 + 1 := by omega
        simp [hlast, Fetch.entry, this, RowIter.next]
    · split
      · exact PyDict.get?_erase_ne _ hk
      · rw [PyDict.get?_set_ne _ _ hk, PyDict.get?_erase_ne _ hk]

end Request

-- ============================================================================
-- Any interleaving
-- ============================================================================

/-- The reader after fetch `j` made `done j` requests since `s`: key by
    key, the answers sent since `s` are the first answers each fetch gets
    alone, and each key holds the entry it holds alone. -/
structure FetchesAt (env : ReaderEnv) (fs : List Fetch) (s : ReaderState)
    (done : Fin fs.length → Nat) (st : ReaderState) : Prop where
  answers : ∃ new, st.answers = s.answers ++ new ∧
    (∀ a ∈ new, ∃ j : Fin fs.length, stateKey? a.request.message = some fs[j].key) ∧
    ∀ j : Fin fs.length,
      new.filter (fun a => stateKey? a.request.message = some fs[j].key) = fs[j].answers.take (done j)
  entries : ∀ j : Fin fs.length, st.activeRequests.get? fs[j].key = fs[j].entry env (done j)

section Interleaving

variable {env : ReaderEnv} {fs : List Fetch} {s : ReaderState}

theorem Fetch.Valid.key_answer {f : Fetch} (hv : f.Valid env) (n : Nat) (p : SequenceRow × Bytes) :
    stateKey? (f.answer n p).request.message = some f.key := by
  by_cases hn : n = 0 <;> simp [Fetch.answer, Fetch.request, hn, Request.message, hv.startKey, hv.nextKey]

/-- One request of fetch `j`, while it has sequences left, keeps the reading. -/
theorem FetchesAt.step {done : Fin fs.length → Nat} {st : ReaderState}
    (h : FetchesAt env fs s done st) (hkeys : (fs.map Fetch.key).Nodup)
    (hvalid : ∀ j : Fin fs.length, fs[j].Valid env) {j : Fin fs.length}
    (hj : done j < fs[j].rows.length) :
    FetchesAt env fs s (Function.update done j (done j + 1)) (st.step env (fs[j].request (done j))) := by
  obtain ⟨hans, hentry, hframe⟩ := (hvalid j).step_request hj (h.entries j)
  obtain ⟨new, hnew, hall, hfilter⟩ := h.answers
  have hkey : ∀ i : Fin fs.length, i ≠ j → fs[i].key ≠ fs[j].key := fun i hij heq =>
    hij (Fin.ext ((@List.Nodup.getElem_inj_iff _ _ hkeys i (by simp) j (by simp)).mp (by simpa using heq)))
  have hmsg := (hvalid j).key_answer (done j) fs[j].rows[done j]
  refine ⟨⟨new ++ [fs[j].answer (done j) fs[j].rows[done j]], by rw [hans, hnew, List.append_assoc],
    fun a ha => ?_, fun i => ?_⟩, fun i => ?_⟩
  · rcases List.mem_append.mp ha with ha | ha
    · exact hall a ha
    · exact ⟨j, List.mem_singleton.mp ha ▸ hmsg⟩
  · rw [List.filter_append, hfilter i]
    by_cases hij : i = j
    · subst hij
      rw [Function.update_same, Fetch.answers_take_succ hj, List.filter_singleton, hmsg]
      simp
    · have hne := hkey i hij
      rw [Function.update_noteq hij, List.filter_singleton, hmsg,
        decide_eq_false (by simpa using hne.symm), cond_false, List.append_nil]
  · by_cases hij : i = j
    · subst hij
      rw [Function.update_same]
      exact hentry
    · rw [Function.update_noteq hij, hframe _ (hkey i hij), h.entries i]

/-- The reading holds over a whole schedule in which no fetch makes more
    requests than it has sequences. -/
theorem FetchesAt.run (hkeys : (fs.map Fetch.key).Nodup)
    (hvalid : ∀ j : Fin fs.length, fs[j].Valid env) :
    ∀ (sched : List (Fin fs.length)) (done : Fin fs.length → Nat) (st : ReaderState),
      FetchesAt env fs s done st → (∀ j, done j + sched.count j ≤ fs[j].rows.length) →
      FetchesAt env fs s (fun j => done j + sched.count j)
        ((scheduleRequests fs done sched).foldl (fun st r => st.step env r) st)
  | [], done, st, h, _ => by simpa using h
  | j :: js, done, st, h, hb => by
    have hj : done j < fs[j].rows.length := by
      have := hb j
      simp only [List.count_cons_self] at this
      omega
    have hdone : ∀ i, Function.update done j (done j + 1) i + js.count i = done i + (j :: js).count i := by
      intro i
      by_cases hij : i = j
      · subst hij; simp [Function.update_same]; omega
      · simp [Function.update_noteq hij, List.count_cons, Ne.symm hij]
    have := FetchesAt.run hkeys hvalid js _ _ (h.step hkeys hvalid hj) fun i => (hdone i).symm ▸ hb i
    simp only [hdone] at this
    exact this

/-- A schedule run from a state where every key is free keeps the reading,
    each fetch having made as many requests as the schedule gives it. -/
theorem runSchedule_fetchesAt (hkeys : (fs.map Fetch.key).Nodup)
    (hvalid : ∀ j : Fin fs.length, fs[j].Valid env) (hfree : ∀ f ∈ fs, s.activeRequests.get? f.key = none)
    (sched : List (Fin fs.length)) (hsched : ∀ j, sched.count j ≤ fs[j].rows.length) :
    FetchesAt env fs s (fun j => sched.count j) (runSchedule env fs s sched) := by
  have h0 : FetchesAt env fs s (fun _ => 0) s :=
    ⟨⟨[], by simp, by simp, fun j => by simp⟩,
      fun j => by simp [Fetch.entry, hfree _ (List.getElem_mem _)]⟩
  simpa using FetchesAt.run hkeys hvalid sched _ s h0 (by simpa using hsched)

/-- Retrieval conversations on pairwise distinct state keys, all free at the
    start, interleaved at the data reader in any order, none making more
    requests than its segment has sequences: each gets exactly the answers
    it gets alone, in order (success replies numbered from 1, each with its
    own segment's sequence, `completed` on the last), and its key holds the
    entry it holds alone, none once all its sequences are sent. -/
theorem fetches_isolated (hkeys : (fs.map Fetch.key).Nodup)
    (hvalid : ∀ j : Fin fs.length, fs[j].Valid env) (hfree : ∀ f ∈ fs, s.activeRequests.get? f.key = none)
    (sched : List (Fin fs.length)) (hsched : ∀ j, sched.count j ≤ fs[j].rows.length) :
    ∃ new, (runSchedule env fs s sched).answers = s.answers ++ new ∧
      (∀ a ∈ new, ∃ j : Fin fs.length, stateKey? a.request.message = some fs[j].key) ∧
      ∀ j : Fin fs.length,
      new.filter (fun a => stateKey? a.request.message = some fs[j].key) =
        fs[j].answers.take (sched.count j) ∧
      (runSchedule env fs s sched).activeRequests.get? fs[j].key = fs[j].entry env (sched.count j) := by
  have := runSchedule_fetchesAt hkeys hvalid hfree sched hsched
  obtain ⟨new, hnew, hall, hfilter⟩ := this.answers
  exact ⟨new, hnew, hall, fun j => ⟨hfilter j, this.entries j⟩⟩

/-- The `retrieve-key-start` client `tag` sends for one conjoined part. -/
def clientStart (tag : String) (part : Int) : Control :=
  [("message-type", .str "retrieve-key-start"), ("client-tag", .str tag), ("message-id", .str "m1"),
   ("segment-unified-id", .int 7), ("segment-conjoined-part", .int part), ("segment-num", .int 1)]

/-- The `retrieve-key-next` that follows it. -/
def clientNext (tag : String) : Control :=
  [("message-type", .str "retrieve-key-next"), ("client-tag", .str tag), ("message-id", .str "m2"),
   ("segment-unified-id", .int 7), ("segment-num", .int 1)]

/-- Two clients fetching from `twoPartEnv`: the first part 0, two
    sequences; the second part 1, one sequence. -/
def twoClientFetches : List Fetch :=
  [⟨(.str "web-server-1", .int 7, .int 1), 0, clientStart "web-server-1" 0, clientNext "web-server-1",
     [(⟨4, 0, 1, [1, 2, 3, 4]⟩, [1, 2, 3, 4]), (⟨2, 0, 1, [5, 6]⟩, [5, 6])]⟩,
   ⟨(.str "web-server-2", .int 7, .int 1), 0, clientStart "web-server-2" 1, clientNext "web-server-2",
     [(⟨3, 0, 1, [7, 8, 9]⟩, [7, 8, 9])]⟩]

theorem twoClientFetches_valid : ∀ f ∈ twoClientFetches, f.Valid twoPartEnv := by
  simp only [twoClientFetches, List.mem_cons, List.mem_singleton, List.not_mem_nil, or_false]
  rintro f (rfl | rfl)
  · exact ⟨rfl, rfl, by decide, by decide, rfl, by decide,
      fun i h => by rcases i with _ | _ | i <;> first | rfl | (simp at h; omega), by decide⟩
  · exact ⟨rfl, rfl, by decide, by decide, rfl, by decide,
      fun i h => by rcases i with _ | i <;> first | rfl | simp at h, by decide⟩

/-- The first client's start, the second's, then the first's next. -/
def twoClientSchedule : List (Fin twoClientFetches.length) :=
  [⟨0, by decide⟩, ⟨1, by decide⟩, ⟨0, by decide⟩]

theorem twoClients_interleaved :
    ∃ new, (runSchedule twoPartEnv twoClientFetches ReaderState.init twoClientSchedule).answers =
        ReaderState.init.answers ++ new ∧
      (∀ a ∈ new, ∃ j : Fin twoClientFetches.length,
        stateKey? a.request.message = some twoClientFetches[j].key) ∧
      ∀ j : Fin twoClientFetches.length,
      new.filter (fun a => stateKey? a.request.message = some twoClientFetches[j].key) =
        twoClientFetches[j].answers.take (twoClientSchedule.count j) ∧
      (runSchedule twoPartEnv twoClientFetches ReaderState.init twoClientSchedule).activeRequests.get?
        twoClientFetches[j].key = twoClientFetches[j].entry twoPartEnv (twoClientSchedule.count j) :=
  @fetches_isolated twoPartEnv twoClientFetches ReaderState.init (by decide)
    (fun j => twoClientFetches_valid _ (List.getElem_mem _)) (fun _ _ => rfl) twoClientSchedule
    (by decide)

end Interleaving

end Reader
end NimbusIo
