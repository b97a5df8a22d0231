/-
  NimbusIo.AntiEntropy.ActiveRequests

  What the auditor's events do to `state["active-requests"]`.  The dict is
  keyed by `(collection_id, timestamp)`.  `_start_consistency_check` and
  `_handle_anti_entropy_audit_request` add an entry under the time they
  read, without looking at the entries already there; a
  `consistency-check-reply` updates or deletes the entry of its own key;
  a node's `consistency-check` does not touch the dict.

  So each key has one entry, and a check started at a fresh time leaves
  every other entry as it was.  Nothing keeps two checks of one collection
  apart, though: an audit request for a collection the starter is already
  checking adds a second entry for the same collection.
-/
import NimbusIo.AntiEntropy.Audit

namespace NimbusIo
namespace AntiEntropy

/-- The `state_key` a reply names, when it has both fields it is read from. -/
def replyKey? (env : AuditEnv) (message : Control) : Option (Value × Timestamp) := do
  let timestampRepr ← message.get? "timestamp-repr"
  let collectionId ← message.get? "collection-id"
  pure (collectionId, env.parseTimestampRepr timestampRepr)

-- ============================================================================
-- One event
-- ============================================================================

section Step

variable {env : AuditEnv} {s : AuditState}

theorem start_activeRequests (collectionId : Value) (rowId : Option Int) (retryCount : Nat)
    (timestamp : Timestamp) (now : ℚ) (newRowId : Int) :
    (s.step env (.start collectionId rowId retryCount timestamp now newRowId)).activeRequests =
      s.activeRequests.set (collectionId, timestamp)
        ⟨.none, timestamp, now + requestTimeout, retryCount, [], rowId.getD newRowId⟩ := by
  cases rowId <;>
    simp [AuditState.step, Event.call, startConsistencyCheck, auditCall, queueForAllClients]

/-- An audit request adds the entry of its collection, or raises `KeyError`
    on a missing field before it touches the dict. -/
theorem auditRequest_activeRequests (message : Control) (timestamp : Timestamp) (now : ℚ)
    (newRowId : Int) :
    (s.step env (.auditRequest message timestamp now newRowId)).activeRequests =
      match message.get? "collection-id", message.get? "client-tag" with
      | some collectionId, some clientTag => s.activeRequests.set (collectionId, timestamp)
          ⟨clientTag, timestamp, now + requestTimeout, env.maxRetryCount, [], newRowId⟩
      | _, _ => s.activeRequests := by
  simp only [AuditState.step, Event.call, handleAntiEntropyAuditRequest]
  cases hc : message.get? "collection-id" <;> cases ht : message.get? "client-tag" <;>
    simp [PyM.run_item_of_get?_none, hc, ht, auditCall, queueForAllClients]

theorem consistencyCheck_activeRequests (table : List SegmentRow) (message : Control) :
    (s.step env (.consistencyCheck table message)).activeRequests = s.activeRequests := by
  rcases @handleConsistencyCheck_sends_b64 env table message s with h | ⟨r, bs, h, -⟩ <;>
    simp only [AuditState.step, Event.call, h]

/-- `nodeReplyOf` reads fields only: it returns or raises in the state it got. -/
theorem run_nodeReplyOf_cases {σ : Type} (message : Control) (s : σ) :
    (∃ r, (nodeReplyOf message : PyM σ NodeReply).run s = .ok r s) ∨
      ∃ err, (nodeReplyOf message : PyM σ NodeReply).run s = .error err s := by
  unfold nodeReplyOf
  cases h1 : message.get? "result" with
  | none => simp [PyM.run_item_of_get?_none h1]
  | some result =>
    by_cases hs : result = .str "success"
    · cases h2 : message.get? "count" <;> cases h3 : message.get? "encoded-md5-digest" <;>
        simp [PyM.run_item_of_get?_none, h1, h2, h3, hs]
    · cases h2 : message.get? "error-message" <;> simp [PyM.run_item_of_get?_none, h1, h2, hs]

/-- A reply leaves the dict as it was, or sets and perhaps then deletes the
    entry of the key it names. -/
theorem reply_activeRequests (message : Control) (timestamp : Timestamp) (retryTime : ℚ) :
    (s.step env (.consistencyCheckReply message timestamp retryTime)).activeRequests =
        s.activeRequests ∨
      ∃ k e, replyKey? env message = some k ∧
        ((s.step env (.consistencyCheckReply message timestamp retryTime)).activeRequests =
            s.activeRequests.set k e ∨
          (s.step env (.consistencyCheckReply message timestamp retryTime)).activeRequests =
            (s.activeRequests.set k e).erase k) := by
  rw [step_consistencyCheckReply]
  cases hv : message.get? "timestamp-repr" with
  | none => exact .inl (by simp only [handleConsistencyCheckReply, bind_pure_comp, PyM.run_bind,
      PyM.run_item_of_get?_none hv, resultState_error])
  | some v =>
  cases hc : message.get? "collection-id" with
  | none => exact .inl (by simp only [handleConsistencyCheckReply, bind_pure_comp, PyM.run_bind, hv,
      Option.some.injEq, PyM.run_item_of_get?, PyM.run_item_of_get?_none hc, resultState_error])
  | some c =>
  have hk : replyKey? env message = some (c, env.parseTimestampRepr v) := by
    simp [replyKey?, hv, hc]
  cases he : s.activeRequests.get? (c, env.parseTimestampRepr v) with
  | none =>
    left
    cases hn : message.get? "node-name" <;>
      simp only [handleConsistencyCheckReply, bind_pure_comp, PyM.run_bind, hv, Option.some.injEq,
        PyM.run_item_of_get?, hc, PyM.run_get, he, PyM.run_map, hn, PyM.run_item_of_get?_none,
        resultState_error, resultState_ok]
  | some e =>
  cases hn : message.get? "node-name" with
  | none =>
    exact .inl (by simp only [handleConsistencyCheckReply, bind_pure_comp, PyM.run_bind, hv,
      Option.some.injEq, PyM.run_item_of_get?, hc, PyM.run_get, he, PyM.run_item_of_get?_none hn,
      resultState_error])
  | some n =>
  by_cases hcont : e.replies.contains n
  · exact .inl (by simp only [handleConsistencyCheckReply, bind_pure_comp, PyM.run_bind, hv,
      Option.some.injEq, PyM.run_item_of_get?, hc, PyM.run_get, he, hn, hcont, ↓reduceIte, PyM.run_pure,
      resultState_ok])
  have hnew : e.replies.contains n = false := by simpa using hcont
  rcases run_nodeReplyOf_cases message s with ⟨r, hr⟩ | ⟨err, hr⟩
  · right
    refine ⟨_, { e with replies := e.replies.set n r }, hk, ?_⟩
    simp only [handleConsistencyCheckReply, PyM.run_bind, PyM.run_item_of_get? hv,
      PyM.run_item_of_get? hc, PyM.run_get, he, PyM.run_item_of_get? hn, hnew,
      Bool.false_eq_true, ↓reduceIte, hr, PyM.run_modify]
    split
    · simp
    · simp only [PyM.run_bind, PyM.run_modify, completeAudit_activeRequests, or_true]
  · exact .inl (by simp only [handleConsistencyCheckReply, bind_pure_comp, PyM.run_bind, hv,
      Option.some.injEq, PyM.run_item_of_get?, hc, PyM.run_get, he, hn, hcont, Bool.false_eq_true,
      ↓reduceIte, hr, resultState_error])

end Step

-- ============================================================================
-- Every run
-- ============================================================================

/-- `active-requests` is only ever set and deleted from, in every reachable state. -/
theorem Reachable.activeRequests_built {env : AuditEnv} {s : AuditState} (h : Reachable env s) :
    PyDict.Built s.activeRequests := by
  induction h with
  | init => exact .empty
  | step ev _ ih =>
    cases ev with
    | start c rowId retryCount timestamp now newRowId =>
      rw [start_activeRequests]
      exact .set _ _ ih
    | auditRequest message timestamp now newRowId =>
      rw [auditRequest_activeRequests]
      split
      · exact .set _ _ ih
      · exact ih
    | consistencyCheck table message =>
      rwa [consistencyCheck_activeRequests]
    | consistencyCheckReply message timestamp retryTime =>
      rcases reply_activeRequests message timestamp retryTime with h | ⟨k, e, -, h | h⟩ <;>
        rw [h]
      · exact ih
      · exact .set _ _ ih
      · exact .erase k (.set _ _ ih)

theorem set_fresh {d : PyDict (Value × Timestamp) RequestState} {k : Value × Timestamp}
    (hk : k ∉ d.keys) (e : RequestState) : d.set k e = d ++ [(k, e)] :=
  PyDict.set_of_get?_none e ((PyDict.get?_eq_none_iff d k).mpr hk)

/-- `active-requests` over any interleaving of the auditor's events: it is
    only set and deleted from, so each `(collection_id, timestamp)` key has
    one entry; a check started, or an
    audit requested, under a key not yet in use appends its entry and
    changes no other; a node's check leaves the dict alone; a reply
    changes no entry but that of the key it names. -/
theorem activeRequests_one_entry_per_check {env : AuditEnv} {s : AuditState}
    (h : Reachable env s) :
    s.activeRequests.keys.Nodup ∧
    (∀ c rowId retryCount t now newRowId, (c, t) ∉ s.activeRequests.keys →
      (s.step env (.start c rowId retryCount t now newRowId)).activeRequests =
        s.activeRequests ++
          [((c, t), ⟨.none, t, now + requestTimeout, retryCount, [], rowId.getD newRowId⟩)]) ∧
    (∀ m t now newRowId c clientTag, m.get? "collection-id" = some c →
      m.get? "client-tag" = some clientTag → (c, t) ∉ s.activeRequests.keys →
      (s.step env (.auditRequest m t now newRowId)).activeRequests =
        s.activeRequests ++
          [((c, t), ⟨clientTag, t, now + requestTimeout, env.maxRetryCount, [], newRowId⟩)]) ∧
    (∀ table m, (s.step env (.consistencyCheck table m)).activeRequests = s.activeRequests) ∧
    (∀ m t retryTime k e, s.activeRequests.get? k = some e → replyKey? env m ≠ some k →
      (s.step env (.consistencyCheckReply m t retryTime)).activeRequests.get? k = some e) := by
  refine ⟨h.activeRequests_built.nodup_keys, fun c rowId retryCount t now newRowId hk => ?_,
    fun m t now newRowId c clientTag hc ht hk => ?_, consistencyCheck_activeRequests, ?_⟩
  · rw [start_activeRequests, set_fresh hk]
  · rw [auditRequest_activeRequests, hc, ht]
    exact set_fresh hk _
  · intro m t retryTime k e he hk
    rcases reply_activeRequests m t retryTime with h | ⟨k', e', hk', h | h⟩ <;> rw [h]
    · exact he
    · have hne : k ≠ k' := fun heq => hk (heq ▸ hk')
      rwa [PyDict.get?_set_ne _ _ hne]
    · have hne : k ≠ k' := fun heq => hk (heq ▸ hk')
      rwa [PyDict.get?_erase_ne _ hne, PyDict.get?_set_ne _ _ hne]

-- ============================================================================
-- Two checks of one collection
-- ============================================================================

/-- A minute after `auditTime`. -/
def laterTime : Timestamp := ⟨2011, 5, 3, 12, 1, 0, 0⟩

/-- A client's request to audit collection 5. -/
def auditRequestMessage : Control :=
  [("message-type", .str "anti-entropy-audit-request"), ("client-tag", .str "client-1"),
   ("collection-id", .int 5)]

/-- The starter checks collection 5; a minute later a client asks for an
    audit of collection 5. -/
def startThenAuditRun : AuditState :=
  (AuditState.init.step twoNodeEnv (.start (.int 5) none 0 auditTime 0 16)).step twoNodeEnv
    (.auditRequest auditRequestMessage laterTime 60 17)

theorem startThenAuditRun_reachable : Reachable twoNodeEnv startThenAuditRun :=
  .step _ (.step _ .init)

/-- Two checks of collection 5 are active at once. -/
theorem startThenAudit_two_entries_one_collection :
    Reachable twoNodeEnv startThenAuditRun ∧
      startThenAuditRun.activeRequests.map (fun p => p.1.1) = [.int 5, .int 5] ∧
      ¬ (startThenAuditRun.activeRequests.map (fun p => p.1.1)).Nodup :=
  ⟨startThenAuditRun_reachable, rfl, by decide⟩

theorem startThenAuditRun_one_entry_per_check :
    startThenAuditRun.activeRequests.keys.Nodup ∧
      startThenAuditRun.activeRequests.keys = [(.int 5, auditTime), (.int 5, laterTime)] :=
  ⟨(activeRequests_one_entry_per_check startThenAuditRun_reachable).1, rfl⟩

end AntiEntropy
end NimbusIo
