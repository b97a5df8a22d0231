/-
  NimbusIo.AntiEntropy.Ledger

  What the auditor's records keep over every run.  `state["active-requests"]`
  holds the audits waiting on their nodes, `state["retry-list"]` the audits
  handed to the retry manager, and the central `AuditResultDatabase` the
  calls the auditor made on it.

  Over any interleaving of started checks, audit requests, nodes' checks
  and replies, with at least one anti-entropy client:
  * a waiting audit holds at most one reply per node, and fewer replies
    than there are nodes: the reply that completes the count never leaves
    the audit waiting;
  * every retry handed on is below `max_retry_count`;
  * each `start_audit` or `restart_audit` is closed at most once: the
    records that close an audit (`successful_audit`, `audit_error`,
    `wait_for_retry`), with the audits still waiting, are no more than the
    records that open one.
-/
import NimbusIo.AntiEntropy.ActiveRequests

namespace NimbusIo
namespace AntiEntropy

/-- `start_audit` and `restart_audit`: the records that open an audit. -/
def AuditCall.opens : AuditCall → Bool
  | .startAudit .. | .restartAudit .. => true
  | _ => false

/-- `successful_audit`, `audit_error` and `wait_for_retry`: the records
    that close one. -/
def AuditCall.closes : AuditCall → Bool
  | .successfulAudit .. | .auditError .. | .waitForRetry .. => true
  | _ => false

theorem AuditCall.opens_of_closes {c : AuditCall} (h : c.closes = true) : c.opens = false := by
  cases c <;> simp_all [AuditCall.opens, AuditCall.closes]

theorem AuditCall.closes_of_opens {c : AuditCall} (h : c.opens = true) : c.closes = false := by
  cases c <;> simp_all [AuditCall.opens, AuditCall.closes]

theorem length_set_le (d : PyDict (Value × Timestamp) RequestState) (k : Value × Timestamp)
    (e : RequestState) : (d.set k e).length ≤ d.length + 1 := by
  rw [PyDict.length_set]; split <;> omega

theorem length_erase_lt {d : PyDict (Value × Timestamp) RequestState} {k : Value × Timestamp}
    (h : k ∈ d.keys) : (d.erase k).length < d.length := by
  obtain ⟨p, hp, rfl⟩ := List.mem_map.mp h
  exact List.length_filter_lt_length_iff_exists.mpr ⟨p, hp, by simp⟩

/-- What the auditor's records keep. -/
structure Books (env : AuditEnv) (s : AuditState) : Prop where
  replies : ∀ p ∈ s.activeRequests, p.2.replies.keys.Nodup ∧ p.2.replies.length < env.clientCount
  retries : ∀ r ∈ s.retryList, r.retryCount < env.maxRetryCount
  ledger : s.audits.countP AuditCall.closes + s.activeRequests.length ≤
    s.audits.countP AuditCall.opens

section Step

variable {env : AuditEnv} {s : AuditState}

/-- A started check opens one audit and hands on no retry. -/
theorem start_records (collectionId : Value) (rowId : Option Int) (retryCount : Nat)
    (timestamp : Timestamp) (now : ℚ) (newRowId : Int) :
    (s.step env (.start collectionId rowId retryCount timestamp now newRowId)).retryList =
      s.retryList ∧
    ∃ c, (s.step env (.start collectionId rowId retryCount timestamp now newRowId)).audits =
      s.audits ++ [c] ∧ c.opens = true := by
  cases rowId <;>
    simp only [AuditState.step, Event.call, startConsistencyCheck, auditCall, queueForAllClients,
      PyM.run_bind, PyM.run_modify, PyM.run_pure, resultState_ok] <;>
    exact ⟨trivial, _, rfl, rfl⟩

/-- An audit request raises before it records anything, or opens one
    audit and adds at most one waiting audit. -/
theorem auditRequest_records (message : Control) (timestamp : Timestamp) (now : ℚ)
    (newRowId : Int) :
    (s.step env (.auditRequest message timestamp now newRowId)).retryList = s.retryList ∧
    ((s.step env (.auditRequest message timestamp now newRowId)).audits = s.audits ∧
      (s.step env (.auditRequest message timestamp now newRowId)).activeRequests =
        s.activeRequests ∨
      ∃ c, (s.step env (.auditRequest message timestamp now newRowId)).audits = s.audits ++ [c] ∧
        c.opens = true ∧
        (s.step env (.auditRequest message timestamp now newRowId)).activeRequests.length ≤
          s.activeRequests.length + 1) := by
  simp only [AuditState.step, Event.call, handleAntiEntropyAuditRequest, auditCall,
    queueForAllClients, PyM.run_bind]
  cases hc : message.get? "collection-id" with
  | none =>
    simp only [PyM.run_item_of_get?_none hc, resultState_error]
    exact ⟨trivial, .inl ⟨trivial, trivial⟩⟩
  | some c =>
  cases ht : message.get? "client-tag" with
  | none =>
    simp only [PyM.run_item_of_get? hc, PyM.run_modify, PyM.run_item_of_get?_none ht,
      resultState_error]
    exact ⟨trivial, .inr ⟨_, rfl, rfl, by omega⟩⟩
  | some tag =>
    simp only [PyM.run_item_of_get? hc, PyM.run_modify, PyM.run_item_of_get? ht, resultState_ok]
    exact ⟨trivial, .inr ⟨_, rfl, rfl, length_set_le _ _ _⟩⟩

/-- A node's check sends its reply and touches no record. -/
theorem consistencyCheck_step (table : List SegmentRow) (message : Control) :
    (s.step env (.consistencyCheck table message)).activeRequests = s.activeRequests ∧
    (s.step env (.consistencyCheck table message)).retryList = s.retryList ∧
    (s.step env (.consistencyCheck table message)).audits = s.audits := by
  rcases @handleConsistencyCheck_sends_b64 env table message s with h | ⟨r, bs, h, -⟩ <;>
    simp only [AuditState.step, Event.call, h, and_self]

/-- The verdict closes the audit once, and hands on a retry only below
    `max_retry_count`. -/
theorem completeAudit_records (e : RequestState) (collectionId : Value) (timestamp : Timestamp)
    (retryTime : ℚ) :
    ∃ c, (resultState ((completeAudit env e collectionId timestamp retryTime).run s)).audits =
        s.audits ++ [c] ∧ c.closes = true ∧
      ((resultState ((completeAudit env e collectionId timestamp retryTime).run s)).retryList =
          s.retryList ∨ e.retryCount < env.maxRetryCount ∧
        (resultState ((completeAudit env e collectionId timestamp retryTime).run s)).retryList =
          s.retryList ++ [⟨retryTime, collectionId, e.rowId, e.retryCount⟩]) := by
  simp only [completeAudit]
  repeat' split
  all_goals simp only [pushEvent, auditCall, sendReply, addRetry, bind_pure_comp, id_map',
    PyM.run_bind, PyM.run_modify, PyM.run_pure, resultState_ok]
  all_goals refine ⟨_, rfl, rfl, ?_⟩
  all_goals first | exact .inl trivial | exact .inr ⟨by omega, trivial⟩

/-- A reply changes nothing, or records the first reply of a node on a
    waiting audit: the audit keeps waiting while it has fewer replies than
    there are nodes, and else is removed and closed by its verdict. -/
theorem reply_step_cases (message : Control) (timestamp : Timestamp) (retryTime : ℚ) :
    s.step env (.consistencyCheckReply message timestamp retryTime) = s ∨
    ∃ k e n r, s.activeRequests.get? k = some e ∧ e.replies.contains n = false ∧
      ((e.replies.set n r).length < env.clientCount ∧
        s.step env (.consistencyCheckReply message timestamp retryTime) =
          { s with activeRequests := s.activeRequests.set k { e with replies := e.replies.set n r } } ∨
      env.clientCount ≤ (e.replies.set n r).length ∧
        s.step env (.consistencyCheckReply message timestamp retryTime) =
          resultState ((completeAudit env { e with replies := e.replies.set n r } k.1 timestamp
            retryTime).run { s with activeRequests :=
              (s.activeRequests.set k { e with replies := e.replies.set n r }).erase k })) := by
  simp only [step_consistencyCheckReply, handleConsistencyCheckReply, bind_pure_comp,
    PyM.run_bind, PyM.run_map, PyM.run_get]
  cases hv : message.get? "timestamp-repr" with
  | none => exact .inl (by simp only [PyM.run_item_of_get?_none hv, resultState_error])
  | some v =>
  cases hc : message.get? "collection-id" with
  | none =>
    exact .inl (by simp only [PyM.run_item_of_get? hv, PyM.run_item_of_get?_none hc, resultState_error])
  | some c =>
  simp only [PyM.run_item_of_get? hv, PyM.run_item_of_get? hc]
  cases he : s.activeRequests.get? (c, env.parseTimestampRepr v) with
  | none =>
    left
    cases hn : message.get? "node-name" with
    | none => simp only [PyM.run_map, PyM.run_item_of_get?_none hn, resultState_error]
    | some n => simp only [PyM.run_map, PyM.run_item_of_get? hn, resultState_ok]
  | some e =>
  cases hn : message.get? "node-name" with
  | none => exact .inl (by simp only [PyM.run_bind, PyM.run_item_of_get?_none hn, resultState_error])
  | some n =>
  simp only [PyM.run_bind, PyM.run_item_of_get? hn]
  by_cases hcont : e.replies.contains n
  · exact .inl (by simp only [hcont, ↓reduceIte, PyM.run_pure, resultState_ok])
  have hnew : e.replies.contains n = false := by simpa using hcont
  rcases run_nodeReplyOf_cases message s with ⟨r, hr⟩ | ⟨err, hr⟩
  · refine .inr ⟨_, e, n, r, he, hnew, ?_⟩
    simp only [hnew, Bool.false_eq_true, ↓reduceIte, PyM.run_bind, hr, PyM.run_modify]
    split
    · exact .inl ⟨‹_›, by simp only [PyM.run_pure, resultState_ok]⟩
    · exact .inr ⟨by omega, by simp only [PyM.run_bind, PyM.run_modify]⟩
  · exact .inl (by simp only [hnew, Bool.false_eq_true, ↓reduceIte, PyM.run_bind, hr,
      resultState_error])

end Step

theorem Books.init {env : AuditEnv} : Books env AuditState.init :=
  ⟨by simp [AuditState.init], by simp [AuditState.init], by simp [AuditState.init]⟩

/-- The reply that completes an audit's count removes the audit and
    closes it once. -/
theorem Books.complete {env : AuditEnv} {s : AuditState} (h : Books env s)
    {k : Value × Timestamp} {e : RequestState} (he : s.activeRequests.get? k = some e)
    (e' : RequestState) (collectionId : Value) (timestamp : Timestamp) (retryTime : ℚ) :
    Books env (resultState ((completeAudit env e' collectionId timestamp retryTime).run
      { s with activeRequests := (s.activeRequests.set k e').erase k })) := by
  obtain ⟨c, ha, hclose, hret⟩ := @completeAudit_records env
    { s with activeRequests := (s.activeRequests.set k e').erase k } e' collectionId timestamp
    retryTime
  have hact := @completeAudit_activeRequests env e' collectionId timestamp retryTime
    { s with activeRequests := (s.activeRequests.set k e').erase k }
  have hk : k ∈ (s.activeRequests.set k e').keys :=
    (PyDict.contains_iff _ _).mp (by simp [PyDict.contains])
  have hlen : (s.activeRequests.set k e').length = s.activeRequests.length := by
    rw [PyDict.length_set, if_pos (by simp [PyDict.contains, he])]
  refine ⟨fun p hp => ?_, fun r hr => ?_, ?_⟩
  · rw [hact] at hp
    obtain ⟨hp, hpk⟩ := List.mem_filter.mp hp
    rcases PyDict.mem_set hp with hp | rfl
    · exact h.replies p hp
    · simp at hpk
  · rcases hret with hret | ⟨hlt, hret⟩ <;> rw [hret] at hr
    · exact h.retries r hr
    · rcases List.mem_append.mp hr with hr | hr
      · exact h.retries r hr
      · rw [List.mem_singleton.mp hr]; exact hlt
  · have hlt := length_erase_lt hk
    have hl := h.ledger
    simp only [hact, ha, List.countP_append, List.countP_singleton, hclose,
      AuditCall.opens_of_closes hclose, Bool.false_eq_true, ↓reduceIte]
    omega

section Run

variable {env : AuditEnv} (hpos : 0 < env.clientCount)
include hpos

/-- A started check adds an audit with no reply yet under its key. -/
theorem Books.set_fresh {s : AuditState} (h : Books env s) {k : Value × Timestamp}
    {e : RequestState} (hnil : e.replies = []) :
    ∀ p ∈ s.activeRequests.set k e, p.2.replies.keys.Nodup ∧ p.2.replies.length < env.clientCount := by
  intro p hp
  rcases PyDict.mem_set hp with hp | rfl
  · exact h.replies p hp
  · simp [hnil, hpos, PyDict.keys]

theorem Books.step {s : AuditState} (h : Books env s) (ev : Event) : Books env (s.step env ev) := by
  cases ev with
  | start c rowId retryCount t now newRowId =>
    obtain ⟨hret, c', ha, hopen⟩ := @start_records env s c rowId retryCount t now newRowId
    have hlen := length_set_le s.activeRequests (c, t)
      ⟨.none, t, now + requestTimeout, retryCount, [], rowId.getD newRowId⟩
    refine ⟨?_, hret ▸ h.retries, ?_⟩
    · rw [start_activeRequests]; exact h.set_fresh hpos rfl
    · have := h.ledger
      simp only [ha, start_activeRequests, List.countP_append, List.countP_singleton, hopen,
        AuditCall.closes_of_opens hopen, Bool.false_eq_true, ↓reduceIte] at this ⊢
      omega
  | auditRequest m t now newRowId =>
    obtain ⟨hret, hrec⟩ := @auditRequest_records env s m t now newRowId
    have hl := h.ledger
    refine ⟨?_, hret ▸ h.retries, ?_⟩
    · rw [auditRequest_activeRequests]; split
      · exact h.set_fresh hpos rfl
      · exact h.replies
    · rcases hrec with ⟨ha, hact⟩ | ⟨c', ha, hopen, hlen⟩
      · rw [ha, hact]; exact hl
      · simp only [ha, List.countP_append, List.countP_singleton, hopen,
          AuditCall.closes_of_opens hopen, Bool.false_eq_true, ↓reduceIte]
        omega
  | consistencyCheck table m =>
    obtain ⟨hact, hret, ha⟩ := @consistencyCheck_step env s table m
    exact ⟨hact ▸ h.replies, hret ▸ h.retries, hact ▸ ha ▸ h.ledger⟩
  | consistencyCheckReply m t retryTime =>
    rcases @reply_step_cases env s m t retryTime with h' | ⟨k, e, n, r, he, hnew, ⟨hlt, h'⟩ | ⟨-, h'⟩⟩ <;>
      rw [h']
    · exact h
    · have hk : s.activeRequests.contains k := by simp [PyDict.contains, he]
      refine ⟨fun p hp => ?_, h.retries, ?_⟩
      · rcases PyDict.mem_set hp with hp | rfl
        · exact h.replies p hp
        · exact ⟨PyDict.nodup_keys_set (h.replies _ (PyDict.mem_of_get? he)).1 _ _, hlt⟩
      · simpa only [PyDict.length_set, hk, if_true] using h.ledger
    · exact h.complete he _ _ _ _

theorem Reachable.books {s : AuditState} (h : Reachable env s) : Books env s := by
  induction h with
  | init => exact Books.init
  | step ev _ ih => exact ih.step hpos ev

end Run

theorem Reachable.foldl {env : AuditEnv} {s : AuditState} (h : Reachable env s) (evs : List Event) :
    Reachable env (evs.foldl (fun s ev => s.step env ev) s) := by
  induction evs generalizing s with
  | nil => exact h
  | cons ev evs ih => exact ih (.step ev h)

/-- The auditor's records over any interleaving of its events, with at
    least one anti-entropy client: every waiting audit holds at most one
    reply per node and fewer replies than there are nodes; every retry
    handed on is below `max_retry_count`; and the records that close an
    audit, with the audits still waiting, are no more than the records
    that open one, so no audit is closed twice. -/
theorem auditor_records_balance {env : AuditEnv} (hpos : 0 < env.clientCount) {s : AuditState}
    (h : Reachable env s) :
    (∀ p ∈ s.activeRequests, p.2.replies.keys.Nodup ∧ p.2.replies.length < env.clientCount) ∧
    (∀ r ∈ s.retryList, r.retryCount < env.maxRetryCount) ∧
    s.audits.countP AuditCall.closes + s.activeRequests.length ≤
      s.audits.countP AuditCall.opens :=
  let hb := h.books hpos
  ⟨hb.replies, hb.retries, hb.ledger⟩

/-- When collection 9 is checked. -/
def ledgerTime : Timestamp := ⟨2011, 5, 5, 8, 0, 0, 0⟩

/-- Two nodes, at most three retries. -/
def ledgerEnv : AuditEnv := ⟨2, 3, fun _ => ledgerTime, statusLetter, id, "node-1"⟩

/-- A node's error reply for collection 9. -/
def errorReplyFrom (node : String) : Control :=
  [("message-type", .str "consistency-check-reply"), ("node-name", .str node),
   ("collection-id", .int 9), ("timestamp-repr", .str ledgerTime.repr), ("result", .str "error"),
   ("error-message", .str "database unavailable")]

/-- A node's success reply for collection 9, with no row. -/
def emptyReplyFrom (node : String) : Control :=
  [("message-type", .str "consistency-check-reply"), ("node-name", .str node),
   ("collection-id", .int 9), ("timestamp-repr", .str ledgerTime.repr), ("result", .str "success"),
   ("count", .int 0), ("encoded-md5-digest", .str (b64encode []))]

/-- The starter checks collection 9; node 1 answers with an error, twice,
    then node 2 with its digest. -/
def retryEvents : List Event :=
  [.start (.int 9) none 0 ledgerTime 0 40, .consistencyCheckReply (errorReplyFrom "node-1") ledgerTime 30,
   .consistencyCheckReply (errorReplyFrom "node-1") ledgerTime 31,
   .consistencyCheckReply (emptyReplyFrom "node-2") ledgerTime 32]

def retryRun : AuditState := retryEvents.foldl (fun s ev => s.step ledgerEnv ev) AuditState.init

theorem retryRun_records_balance :
    (∀ p ∈ retryRun.activeRequests, p.2.replies.keys.Nodup ∧ p.2.replies.length < 2) ∧
    (∀ r ∈ retryRun.retryList, r.retryCount < 3) ∧
    retryRun.audits.countP AuditCall.closes + retryRun.activeRequests.length ≤
      retryRun.audits.countP AuditCall.opens :=
  @auditor_records_balance ledgerEnv (by decide) _ (Reachable.init.foldl retryEvents)

/-- The error and the digest disagree: the audit is handed on for a retry
    and closed by `wait_for_retry`. -/
example : retryRun.audits = [.startAudit (.int 9) ledgerTime, .waitForRetry 40] ∧
    retryRun.retryList.map (·.retryCount) = [0] ∧ retryRun.activeRequests.length = 0 := by
  decide

end AntiEntropy
end NimbusIo
