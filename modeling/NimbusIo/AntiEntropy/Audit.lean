/-
  NimbusIo.AntiEntropy.Audit

  The auditor's verdict.  `_handle_consistency_check_reply` keeps the first
  reply of each node in the request's `replies`; when every node has
  answered it removes the request, groups the nodes by digest
  (`md5_digest_dict`, errors under `_error_reply`), and records one
  verdict: an agreement, an error, or a mismatch.  `AuditVerdict` says
  what the verdict does: exactly one database call (`auditOutcome`), a
  retry entry when a scheduled check may still retry, and one reply to a
  requested audit.  Python 2 iterates a dict in an order of its own, so
  the node lists of that reply are fixed up to order.

  The grouping is characterised exactly: the error group holds the nodes
  that replied with an error, and the other groups partition the
  successful nodes by digest, one group per distinct digest.  Node
  digests are base64 encodings (`ConsistencyHash`), so none is taken for
  the error marker.
-/
import NimbusIo.AntiEntropy.ConsistencyHash

namespace NimbusIo
namespace AntiEntropy

/-- The nodes of `replies` whose reply is grouped under `key`. -/
def nodesUnder (key : Value) (replies : PyDict Value NodeReply) : List Value :=
  (replies.filter fun p => p.2.groupKey = key).map Prod.fst

/-- `E`: the nodes whose reply was an error, in the dict's order. -/
def errorNodes (replies : PyDict Value NodeReply) : List Value :=
  (replies.filter fun p => p.2 = .error).map Prod.fst

/-- The digests of the successful replies; `D` is this list without repeats. -/
def successDigests (replies : PyDict Value NodeReply) : List Value :=
  replies.filterMap fun p => match p.2 with
    | .success _ digest => some digest
    | .error => none

/-- No successful reply carries the error marker as its digest. -/
def DigestsClear (replies : PyDict Value NodeReply) : Prop :=
  ∀ n c d, (n, NodeReply.success c d) ∈ replies → d ≠ errorReplyMarker

theorem mismatchKey_injective : Function.Injective mismatchKey := by
  intro i j h
  have := congrArg String.data h
  simp only [mismatchKey, String.data_append, List.append_cancel_left_eq] at this
  exact Nat.succ_injective (toString_nat_injective (String.ext this))

-- ============================================================================
-- The groups
-- ============================================================================

section Groups

variable {replies : PyDict Value NodeReply}

theorem get?_foldl_addToGroup (replies : PyDict Value NodeReply) (groups : PyDict Value (List Value))
    (key : Value) :
    (replies.foldl addToGroup groups).get? key =
      if nodesUnder key replies = [] then groups.get? key
      else some ((groups.get? key).getD [] ++ nodesUnder key replies) := by
  induction replies generalizing groups with
  | nil => simp [nodesUnder]
  | cons p replies ih =>
    rw [List.foldl_cons, ih]
    by_cases hk : p.2.groupKey = key
    · subst hk
      have hcons : nodesUnder p.2.groupKey (p :: replies) = p.1 :: nodesUnder p.2.groupKey replies := by
        simp [nodesUnder, List.filter_cons]
      rw [addToGroup, PyDict.get?_set_self, hcons, if_neg (List.cons_ne_nil _ _)]
      split <;> simp_all
    · have hcons : nodesUnder key (p :: replies) = nodesUnder key replies := by
        simp [nodesUnder, List.filter_cons, hk]
      rw [addToGroup, PyDict.get?_set_ne _ _ (Ne.symm hk), hcons]

theorem nodup_keys_foldl_addToGroup (replies : PyDict Value NodeReply)
    {groups : PyDict Value (List Value)} (h : groups.keys.Nodup) :
    (replies.foldl addToGroup groups).keys.Nodup := by
  induction replies generalizing groups with
  | nil => exact h
  | cons p replies ih => exact ih (PyDict.nodup_keys_set h _ _)

theorem nodup_keys_digestGroups (replies : PyDict Value NodeReply) :
    (digestGroups replies).keys.Nodup :=
  nodup_keys_foldl_addToGroup replies (List.nodup_singleton _)

theorem mem_nodesUnder {d n : Value} (hd : d ≠ errorReplyMarker) :
    n ∈ nodesUnder d replies ↔ ∃ c, (n, NodeReply.success c d) ∈ replies := by
  simp only [nodesUnder, List.mem_map, List.mem_filter, decide_eq_true_eq]
  constructor
  · rintro ⟨⟨n', _ | ⟨c, d'⟩⟩, ⟨hp, hk⟩, rfl⟩
    · exact absurd hk.symm hd
    · exact ⟨c, by simpa [NodeReply.groupKey, ← hk] using hp⟩
  · rintro ⟨c, hc⟩
    exact ⟨_, ⟨hc, rfl⟩, rfl⟩

/-- The error group is `E`. -/
theorem digestGroups_errors (h : DigestsClear replies) :
    (digestGroups replies).get? errorReplyMarker = some (errorNodes replies) := by
  have hE : nodesUnder errorReplyMarker replies = errorNodes replies := by
    simp only [nodesUnder, errorNodes]
    congr 1
    apply List.filter_congr
    rintro ⟨n, _ | ⟨c, d⟩⟩ hp
    · simp [NodeReply.groupKey]
    · simp [NodeReply.groupKey, h n c d hp]
  rw [digestGroups, get?_foldl_addToGroup, ← hE]
  split <;> simp_all [PyDict.get?_cons]

theorem digestGroups_get?_of_ne {d : Value} (hd : d ≠ errorReplyMarker) :
    (digestGroups replies).get? d =
      if nodesUnder d replies = [] then none else some (nodesUnder d replies) := by
  rw [digestGroups, get?_foldl_addToGroup]
  simp [PyDict.get?_cons, hd]

/-- Each digest group is the non-empty list of the nodes with that digest. -/
theorem mem_digestGroups_erase {d : Value} {g : List Value}
    (h : (d, g) ∈ (digestGroups replies).erase errorReplyMarker) :
    d ≠ errorReplyMarker ∧ g = nodesUnder d replies ∧ g ≠ [] := by
  simp only [PyDict.erase, List.mem_filter, decide_eq_true_eq] at h
  have hget := PyDict.get?_of_mem (nodup_keys_digestGroups replies) h.1
  rw [digestGroups_get?_of_ne h.2] at hget
  split at hget
  · simp at hget
  · exact ⟨h.2, (Option.some.inj hget).symm, by simp_all⟩

/-- Every digest of a successful node has its group. -/
theorem digestGroups_erase_of_success {n c d : Value} (h : (n, NodeReply.success c d) ∈ replies)
    (hd : d ≠ errorReplyMarker) :
    (d, nodesUnder d replies) ∈ (digestGroups replies).erase errorReplyMarker := by
  have hne : nodesUnder d replies ≠ [] :=
    List.ne_nil_of_mem ((mem_nodesUnder hd).mpr ⟨c, h⟩)
  have hget := @digestGroups_get?_of_ne replies d hd
  rw [if_neg hne] at hget
  simpa [PyDict.erase, hd] using PyDict.mem_of_get? hget

/-- There are as many digest groups as distinct digests. -/
theorem length_digestGroups_erase (h : DigestsClear replies) :
    ((digestGroups replies).erase errorReplyMarker).length = (successDigests replies).dedup.length := by
  have hnodup : ((digestGroups replies).erase errorReplyMarker).keys.Nodup := by
    rw [PyDict.keys_erase]
    exact (nodup_keys_digestGroups replies).filter _
  have hperm : List.Perm ((digestGroups replies).erase errorReplyMarker).keys
      (successDigests replies).dedup := by
    refine (List.perm_ext_iff_of_nodup hnodup (List.nodup_dedup _)).mpr fun d => ?_
    simp only [List.mem_dedup, successDigests, List.mem_filterMap, PyDict.keys, List.mem_map]
    constructor
    · rintro ⟨⟨d', g⟩, hg, rfl⟩
      obtain ⟨hd, rfl, hne⟩ := mem_digestGroups_erase hg
      obtain ⟨n, hn⟩ := List.exists_mem_of_ne_nil _ hne
      obtain ⟨c, hc⟩ := (mem_nodesUnder hd).mp hn
      exact ⟨_, hc, rfl⟩
    · rintro ⟨⟨n, _ | ⟨c, d'⟩⟩, hp, hd⟩
      · simp at hd
      · obtain rfl : d' = d := by simpa using hd
        exact ⟨_, digestGroups_erase_of_success hp (h n c d' hp), rfl⟩
  simpa [PyDict.keys] using hperm.length_eq

end Groups

-- ============================================================================
-- The reply's fields
-- ============================================================================

section Fields

theorem mismatchKey_ne {key : String} (h : key.data.head? ≠ some 'm') (i : Nat) :
    key ≠ mismatchKey i := fun e => h (by rw [e]; rfl)

theorem get?_foldl_setMismatchField_of_ne (groups : List (Value × List Value)) (k : Nat)
    (reply : Control) {key : String} (h : ∀ j, k ≤ j → key ≠ mismatchKey j) :
    ((groups.enumFrom k).foldl setMismatchField reply).get? key = reply.get? key := by
  induction groups generalizing k reply with
  | nil => rfl
  | cons g groups ih =>
    rw [List.enumFrom_cons, List.foldl_cons, ih (k + 1) _ (fun j hj => h j (by omega))]
    exact PyDict.get?_set_ne _ _ (h k le_rfl)

theorem get?_foldl_setMismatchField (groups : List (Value × List Value)) (k : Nat)
    (reply : Control) {i : Nat} (hi : i < groups.length) :
    ((groups.enumFrom k).foldl setMismatchField reply).get? (mismatchKey (k + i)) =
      some (.list groups[i].2) := by
  induction groups generalizing k reply i with
  | nil => simp at hi
  | cons g groups ih =>
    rw [List.enumFrom_cons, List.foldl_cons]
    cases i with
    | zero =>
      rw [get?_foldl_setMismatchField_of_ne _ _ _
        (fun j hj e => absurd (mismatchKey_injective e) (by omega))]
      simp [setMismatchField]
    | succ i =>
      rw [show k + (i + 1) = k + 1 + i by omega]
      exact ih (k + 1) _ (by simpa using hi)

theorem get?_mismatchFields (reply : Control) (groups : PyDict Value (List Value)) {i : Nat}
    (hi : i < groups.length) :
    (mismatchFields reply groups).get? (mismatchKey i) = some (.list groups[i].2) := by
  simpa using get?_foldl_setMismatchField groups 0 reply hi

theorem get?_mismatchFields_of_ne (reply : Control) (groups : PyDict Value (List Value))
    {key : String} (h : key.data.head? ≠ some 'm') :
    (mismatchFields reply groups).get? key = reply.get? key :=
  get?_foldl_setMismatchField_of_ne groups 0 reply fun j _ => mismatchKey_ne h j

/-- The fields of a requested audit's reply once its result and message are set. -/
theorem auditReply_fields {clientTag collectionId : Value} {errorReplyList : List Value}
    {groups : PyDict Value (List Value)} {r : Control}
    (h : auditReply clientTag collectionId errorReplyList groups = some r) (result message : String) :
    let r' := (r.set "result" (.str result)).set "error-message" (.str message)
    r'.get? "result" = some (.str result) ∧
    r'.get? "error-reply-nodes" = some (.list errorReplyList) ∧
    (1 < groups.length → ∀ i (hi : i < groups.length), r'.get? (mismatchKey i) = some (.list groups[i].2)) := by
  simp only [auditReply] at h
  split at h
  · simp at h
  obtain rfl := Option.some.inj h
  refine ⟨by simp [PyDict.get?_set], ?_, fun hlt i hi => ?_⟩
  · split <;>
      simp [PyDict.get?_set, get?_mismatchFields_of_ne _ _ (show "error-reply-nodes".data.head? ≠ some 'm' by decide)]
  · rw [if_pos hlt, PyDict.get?_set_ne _ _ (mismatchKey_ne (by decide) i).symm,
      PyDict.get?_set_ne _ _ (mismatchKey_ne (by decide) i).symm, get?_mismatchFields _ _ hi]

end Fields

-- ============================================================================
-- The verdict
-- ============================================================================

section Verdict

variable {env : AuditEnv} {e : RequestState} {collectionId : Value} {timestamp : Timestamp}
  {retryTime : ℚ} {s : AuditState}

theorem completeAudit_activeRequests :
    (resultState ((completeAudit env e collectionId timestamp retryTime).run s)).activeRequests =
      s.activeRequests := by
  simp only [completeAudit]
  repeat' split
  all_goals simp only [pushEvent, auditCall, sendReply, addRetry, bind_pure_comp, id_map',
    PyM.run_bind, PyM.run_modify, resultState_ok]

theorem completeAudit_agreed
    (hE : ((digestGroups e.replies).get? errorReplyMarker).getD [] = [])
    (hG : ((digestGroups e.replies).erase errorReplyMarker).length = 1) :
    (resultState ((completeAudit env e collectionId timestamp retryTime).run s)).audits =
        s.audits ++ [.successfulAudit e.rowId timestamp] ∧
      (resultState ((completeAudit env e collectionId timestamp retryTime).run s)).retryList =
        s.retryList ∧
      (resultState ((completeAudit env e collectionId timestamp retryTime).run s)).sentReplies =
        s.sentReplies ++ ((auditReply e.clientTag collectionId []
          ((digestGroups e.replies).erase errorReplyMarker)).map
            (·.set "result" (.str "success"))).toList := by
  simp only [completeAudit, hE, hG, List.length_nil, and_self, if_true]
  split <;> simp_all [pushEvent, auditCall, sendReply]

theorem completeAudit_requested {r : Control}
    (hnot : ¬(((digestGroups e.replies).get? errorReplyMarker).getD [] = [] ∧
      ((digestGroups e.replies).erase errorReplyMarker).length = 1))
    (hr : auditReply e.clientTag collectionId (((digestGroups e.replies).get? errorReplyMarker).getD [])
      ((digestGroups e.replies).erase errorReplyMarker) = some r) :
    (resultState ((completeAudit env e collectionId timestamp retryTime).run s)).audits =
        s.audits ++ [.auditError e.rowId timestamp] ∧
      (resultState ((completeAudit env e collectionId timestamp retryTime).run s)).retryList =
        s.retryList ∧
      ∃ message, (resultState ((completeAudit env e collectionId timestamp retryTime).run s)).sentReplies =
        s.sentReplies ++ [(r.set "result" (.str (if ((digestGroups e.replies).erase errorReplyMarker).length = 1
          then "error" else "audit-error"))).set "error-message" (.str message)] := by
  by_cases hG : ((digestGroups e.replies).erase errorReplyMarker).length = 1
  · have hE : ((digestGroups e.replies).get? errorReplyMarker).getD [] ≠ [] := fun h => hnot ⟨h, hG⟩
    have hpos := List.length_pos.mpr hE
    simp only [completeAudit, hG, hr, List.length_eq_zero, hE, hpos, false_and, and_self, if_false,
      if_true]
    simpa [pushEvent, auditCall, sendReply] using ⟨_, rfl⟩
  · simp only [completeAudit, hG, hr, and_false, if_false]
    simpa [pushEvent, auditCall, sendReply] using ⟨_, rfl⟩

theorem completeAudit_scheduled
    (hnot : ¬(((digestGroups e.replies).get? errorReplyMarker).getD [] = [] ∧
      ((digestGroups e.replies).erase errorReplyMarker).length = 1))
    (hc : e.clientTag = .none) :
    (resultState ((completeAudit env e collectionId timestamp retryTime).run s)).audits =
        s.audits ++ [if env.maxRetryCount ≤ e.retryCount then .auditError e.rowId timestamp
          else .waitForRetry e.rowId] ∧
      (resultState ((completeAudit env e collectionId timestamp retryTime).run s)).retryList =
        s.retryList ++ (if env.maxRetryCount ≤ e.retryCount then []
          else [⟨retryTime, collectionId, e.rowId, e.retryCount⟩]) ∧
      (resultState ((completeAudit env e collectionId timestamp retryTime).run s)).sentReplies =
        s.sentReplies := by
  have hr : auditReply e.clientTag collectionId (((digestGroups e.replies).get? errorReplyMarker).getD [])
      ((digestGroups e.replies).erase errorReplyMarker) = none := by simp [auditReply, hc]
  simp only [completeAudit, hr, List.length_eq_zero, hnot, if_false]
  by_cases hmax : env.maxRetryCount ≤ e.retryCount <;> split <;>
    simp [hmax, pushEvent, auditCall, addRetry]

/-- The `mistmatch-nodes-<i>` fields of the reply `r` partition the
    successful nodes of `replies` by digest, one field per digest. -/
def MismatchGroups (replies : PyDict Value NodeReply) (r : Control) : Prop :=
  ∃ groups : List (Value × List Value),
    groups.length = (successDigests replies).dedup.length ∧
    (∀ i (h : i < groups.length), r.get? (mismatchKey i) = some (.list groups[i].2)) ∧
    (groups.map Prod.fst).Nodup ∧
    (∀ d g, (d, g) ∈ groups → g ≠ [] ∧ ∀ n, n ∈ g ↔ ∃ c, (n, NodeReply.success c d) ∈ replies) ∧
    (∀ n c d, (n, NodeReply.success c d) ∈ replies → ∃ g, (d, g) ∈ groups)

/-- The one call on `AuditResultDatabase` that closes the request `e`, as
    its first replies and the request decide it.  With `E` the nodes that
    replied with an error and `D` the distinct digests of the others: no
    error and one digest is `successful_audit`; otherwise a requested
    audit, or a scheduled check out of retries, is `audit_error`, and a
    scheduled check that may retry is `wait_for_retry`. -/
def auditOutcome (env : AuditEnv) (e : RequestState) (timestamp : Timestamp) : AuditCall :=
  if errorNodes e.replies = [] ∧ (successDigests e.replies).dedup.length = 1 then
    .successfulAudit e.rowId timestamp
  else if e.clientTag ≠ .none ∨ env.maxRetryCount ≤ e.retryCount then .auditError e.rowId timestamp
  else .waitForRetry e.rowId

/-- The `result` of the reply to a requested audit: `success` on
    agreement, else `error` for one digest and `audit-error` for several. -/
def auditResult (e : RequestState) : String :=
  if errorNodes e.replies = [] ∧ (successDigests e.replies).dedup.length = 1 then "success"
  else if (successDigests e.replies).dedup.length = 1 then "error" else "audit-error"

/-- The verdict on a request `e` whose replies are all in, between the
    states `s` before and `s'` after: exactly one database call, the
    outcome; a retry entry exactly when the outcome is `wait_for_retry`;
    for a scheduled check no reply, and for a requested audit one reply
    with its result, naming the error nodes `E` in some order and, for
    several digests, one group per digest.  A Python 2 dict iterates in an
    order of its own, so the node lists are fixed up to order only. -/
structure AuditVerdict (env : AuditEnv) (e : RequestState) (collectionId : Value)
    (timestamp : Timestamp) (retryTime : ℚ) (s s' : AuditState) : Prop where
  audits : s'.audits = s.audits ++ [auditOutcome env e timestamp]
  retryList : s'.retryList = s.retryList ++
    if auditOutcome env e timestamp = .waitForRetry e.rowId then
      [⟨retryTime, collectionId, e.rowId, e.retryCount⟩] else []
  scheduled : e.clientTag = .none → s'.sentReplies = s.sentReplies
  requested : e.clientTag ≠ .none → ∃ r, s'.sentReplies = s.sentReplies ++ [r] ∧
    r.get? "result" = some (.str (auditResult e)) ∧
    (∃ l, r.get? "error-reply-nodes" = some (.list l) ∧ l.Perm (errorNodes e.replies)) ∧
    (1 < (successDigests e.replies).dedup.length → MismatchGroups e.replies r)

/-- The digest groups `completeAudit` computes partition the successful nodes. -/
theorem mismatchGroups_of_fields (hclear : DigestsClear e.replies) {r : Control}
    (hfields : ∀ i (hi : i < ((digestGroups e.replies).erase errorReplyMarker).length),
      r.get? (mismatchKey i) = some (.list ((digestGroups e.replies).erase errorReplyMarker)[i].2)) :
    MismatchGroups e.replies r := by
  refine ⟨_, length_digestGroups_erase hclear, hfields, ?_, fun d g hg => ?_,
    fun n c d hp => ⟨_, digestGroups_erase_of_success hp (hclear n c d hp)⟩⟩
  · have := (nodup_keys_digestGroups e.replies).filter (· ≠ errorReplyMarker)
    rwa [← PyDict.keys_erase] at this
  · obtain ⟨hd, rfl, hne⟩ := mem_digestGroups_erase hg
    exact ⟨hne, fun n => mem_nodesUnder hd⟩

/-- `completeAudit` reaches the verdict, whatever the order of the replies. -/
theorem completeAudit_verdict (hclear : DigestsClear e.replies) :
    AuditVerdict env e collectionId timestamp retryTime s
      (resultState ((completeAudit env e collectionId timestamp retryTime).run s)) := by
  have hE : ((digestGroups e.replies).get? errorReplyMarker).getD [] = errorNodes e.replies := by
    rw [digestGroups_errors hclear]; rfl
  have hG := @length_digestGroups_erase e.replies hclear
  by_cases hagree : errorNodes e.replies = [] ∧ (successDigests e.replies).dedup.length = 1
  · /- Agreement: `successful_audit`, and `success` to a requested audit. -/
    obtain ⟨ha, hret, hsent⟩ := @completeAudit_agreed env e collectionId timestamp retryTime s
      (hE.trans hagree.1) (hG.trans hagree.2)
    have hout : auditOutcome env e timestamp = .successfulAudit e.rowId timestamp := if_pos hagree
    refine ⟨by rw [ha, hout], by simp [hret, hout], fun hc => by simp [hsent, auditReply, hc],
      fun hc => ?_⟩
    simp only [hsent, auditReply, hc, if_false, Option.map_some', Option.toList_some]
    refine ⟨_, rfl, by simp [PyDict.get?_set, auditResult, hagree], ⟨[], ?_, by rw [hagree.1]⟩,
      fun hlt => absurd hagree.2 (by omega)⟩
    rw [if_neg (by rw [hG, hagree.2]; decide)]
    simp [PyDict.get?_set]
  have hnot : ¬(((digestGroups e.replies).get? errorReplyMarker).getD [] = [] ∧
      ((digestGroups e.replies).erase errorReplyMarker).length = 1) := fun h =>
    hagree ⟨hE ▸ h.1, hG ▸ h.2⟩
  by_cases hc : e.clientTag = .none
  · /- A scheduled check: `audit_error` out of retries, else a retry. -/
    obtain ⟨ha, hret, hsent⟩ := @completeAudit_scheduled env e collectionId timestamp retryTime s hnot hc
    have hout : auditOutcome env e timestamp = if env.maxRetryCount ≤ e.retryCount then
        .auditError e.rowId timestamp else .waitForRetry e.rowId := by
      simp only [auditOutcome, if_neg hagree, hc, ne_eq, not_true_eq_false, false_or]
    refine ⟨by rw [ha, hout], ?_, fun _ => hsent, fun h => absurd hc h⟩
    rw [hret, hout]
    split <;> simp
  · /- A requested audit: `audit_error` and one reply. -/
    obtain ⟨r, hr⟩ : ∃ r, auditReply e.clientTag collectionId
        (((digestGroups e.replies).get? errorReplyMarker).getD [])
        ((digestGroups e.replies).erase errorReplyMarker) = some r := by
      simp [auditReply, hc]
    obtain ⟨ha, hret, message, hsent⟩ := @completeAudit_requested env e collectionId timestamp
      retryTime s r hnot hr
    obtain ⟨hres, hnodes, hgroups⟩ := auditReply_fields hr _ message
    have hout : auditOutcome env e timestamp = .auditError e.rowId timestamp := by
      simp only [auditOutcome, if_neg hagree, if_pos (Or.inl hc)]
    refine ⟨by rw [ha, hout], by simp [hret, hout], fun h => absurd h hc, fun _ => ⟨_, hsent, ?_,
      ⟨_, by rw [hnodes, hE], List.Perm.refl _⟩,
      fun hlt => mismatchGroups_of_fields hclear (hgroups (hG ▸ hlt))⟩⟩
    rw [hres, hG, auditResult, if_neg hagree]

end Verdict

-- ============================================================================
-- Collecting the replies
-- ============================================================================

/-- The node a reply message names. -/
def nodeName (message : Control) : Value := (message.get? "node-name").getD .none

/-- What the handler records for a reply with every field it reads. -/
def recordedReply (message : Control) : NodeReply :=
  if message.get? "result" = some (.str "success") then
    .success ((message.get? "count").getD .none) ((message.get? "encoded-md5-digest").getD .none)
  else .error

/-- A `consistency-check-reply` for the request `k` with every field the
    handler reads; a success carries a base64 digest, as every node's
    does (`handleConsistencyCheck_sends_b64`). -/
structure ReplyFor (env : AuditEnv) (k : Value × Timestamp) (message : Control) : Prop where
  timestamp : ∃ v, message.get? "timestamp-repr" = some v ∧ env.parseTimestampRepr v = k.2
  collection : message.get? "collection-id" = some k.1
  node : ∃ n, message.get? "node-name" = some n
  result : ∃ r, message.get? "result" = some r
  errorMessage : message.get? "result" ≠ some (.str "success") →
    ∃ v, message.get? "error-message" = some v
  count : message.get? "result" = some (.str "success") → ∃ c, message.get? "count" = some c
  digest : message.get? "result" = some (.str "success") →
    ∃ bs, message.get? "encoded-md5-digest" = some (.str (b64encode bs))

/-- Keep a node's reply unless the node has replied before. -/
def recordFirst (replies : PyDict Value NodeReply) (message : Control) : PyDict Value NodeReply :=
  if replies.contains (nodeName message) then replies
  else replies.set (nodeName message) (recordedReply message)

/-- The first reply of each node among `messages`, after `replies`. -/
def firstReplies (replies : PyDict Value NodeReply) (messages : List Control) :
    PyDict Value NodeReply :=
  messages.foldl recordFirst replies

/-- The auditor after reply messages, each with its clock readings. -/
def runReplies (env : AuditEnv) (s : AuditState) (xs : List (Control × Timestamp × ℚ)) :
    AuditState :=
  xs.foldl (fun s x => s.step env (.consistencyCheckReply x.1 x.2.1 x.2.2)) s

section Collect

variable {env : AuditEnv} {k : Value × Timestamp} {m : Control} {s : AuditState}
  {e : RequestState}

theorem step_consistencyCheckReply (env : AuditEnv) (s : AuditState) (m : Control)
    (timestamp : Timestamp) (retryTime : ℚ) :
    s.step env (.consistencyCheckReply m timestamp retryTime) =
      resultState ((handleConsistencyCheckReply env m timestamp retryTime).run s) := rfl

theorem run_nodeReplyOf {σ : Type} (hm : ReplyFor env k m) (s : σ) :
    (nodeReplyOf m : PyM σ NodeReply).run s = .ok (recordedReply m) s := by
  obtain ⟨r, hr⟩ := hm.result
  by_cases hs : r = .str "success"
  · subst hs
    obtain ⟨c, hc⟩ := hm.count hr
    obtain ⟨bs, hd⟩ := hm.digest hr
    simp [nodeReplyOf, recordedReply, hr, hc, hd]
  · obtain ⟨v, hv⟩ := hm.errorMessage (by simpa [hr] using hs)
    simp [nodeReplyOf, recordedReply, hr, hv, hs]

/-- A reply to a waiting request: a node's second reply changes nothing;
    a first reply is recorded, and the reply that completes the count
    removes the request and reaches the verdict. -/
theorem handleConsistencyCheckReply_of_entry (hm : ReplyFor env k m)
    (he : s.activeRequests.get? k = some e) (timestamp : Timestamp) (retryTime : ℚ) :
    resultState ((handleConsistencyCheckReply env m timestamp retryTime).run s) =
      if e.replies.contains (nodeName m) then s
      else if (recordFirst e.replies m).length < env.clientCount then
        { s with activeRequests := s.activeRequests.set k { e with replies := recordFirst e.replies m } }
      else resultState ((completeAudit env { e with replies := recordFirst e.replies m } k.1
        timestamp retryTime).run { s with activeRequests :=
          (s.activeRequests.set k { e with replies := recordFirst e.replies m }).erase k }) := by
  obtain ⟨v, hv, hts⟩ := hm.timestamp
  obtain ⟨n, hn⟩ := hm.node
  have hk : (k.1, env.parseTimestampRepr v) = k := by rw [hts]
  have hname : nodeName m = n := by simp [nodeName, hn]
  simp only [handleConsistencyCheckReply, PyM.run_bind, PyM.run_item_of_get? hv,
    PyM.run_item_of_get? hm.collection, PyM.run_get, hk, he, PyM.run_item_of_get? hn, hname,
    recordFirst]
  split
  · rfl
  · simp only [PyM.run_bind, run_nodeReplyOf hm, PyM.run_modify]
    split <;> simp

/-- A reply to a request no longer waiting changes nothing. -/
theorem handleConsistencyCheckReply_of_none (hm : ReplyFor env k m)
    (hnone : s.activeRequests.get? k = none) (timestamp : Timestamp) (retryTime : ℚ) :
    resultState ((handleConsistencyCheckReply env m timestamp retryTime).run s) = s := by
  obtain ⟨v, hv, hts⟩ := hm.timestamp
  obtain ⟨n, hn⟩ := hm.node
  have hk : (k.1, env.parseTimestampRepr v) = k := by rw [hts]
  simp only [handleConsistencyCheckReply, bind_pure_comp, PyM.run_bind, PyM.run_item_of_get? hv,
    PyM.run_item_of_get? hm.collection, hk, PyM.run_get, hnone, PyM.run_map, PyM.run_item_of_get? hn,
    resultState_ok]

theorem length_le_firstReplies (replies : PyDict Value NodeReply) (messages : List Control) :
    replies.length ≤ (firstReplies replies messages).length := by
  induction messages generalizing replies with
  | nil => exact le_rfl
  | cons m messages ih =>
    refine le_trans ?_ (ih (recordFirst replies m))
    unfold recordFirst
    split
    · exact le_rfl
    · rw [PyDict.length_set]; split <;> omega

theorem keys_recordFirst (replies : PyDict Value NodeReply) (message : Control) (n : Value) :
    n ∈ (recordFirst replies message).keys ↔ n ∈ replies.keys ∨ n = nodeName message := by
  unfold recordFirst
  split
  · rename_i hc
    rw [PyDict.contains_iff] at hc
    constructor
    · exact Or.inl
    · rintro (h | rfl) <;> assumption
  · simp [PyDict.keys_set, *]

theorem nodup_keys_firstReplies {replies : PyDict Value NodeReply} (h : replies.keys.Nodup)
    (messages : List Control) : (firstReplies replies messages).keys.Nodup := by
  induction messages generalizing replies with
  | nil => exact h
  | cons m messages ih =>
    refine ih ?_
    unfold recordFirst
    split
    · exact h
    · exact PyDict.nodup_keys_set h _ _

theorem mem_keys_firstReplies (replies : PyDict Value NodeReply) (messages : List Control)
    (n : Value) :
    n ∈ (firstReplies replies messages).keys ↔ n ∈ replies.keys ∨ n ∈ messages.map nodeName := by
  induction messages generalizing replies with
  | nil => simp [firstReplies]
  | cons m messages ih =>
    simp only [firstReplies, List.foldl_cons] at ih ⊢
    rw [ih, keys_recordFirst, List.map_cons, List.mem_cons]
    tauto

/-- The replies recorded from nothing are one per distinct node name. -/
theorem length_firstReplies_nil (messages : List Control) :
    (firstReplies [] messages).length = (messages.map nodeName).dedup.length := by
  have hp : List.Perm (firstReplies [] messages).keys (messages.map nodeName).dedup :=
    (List.perm_ext_iff_of_nodup (@nodup_keys_firstReplies [] List.nodup_nil messages)
      (List.nodup_dedup _)).mpr fun n => by
      rw [mem_keys_firstReplies, List.mem_dedup]; simp [PyDict.keys]
  simpa [PyDict.keys] using hp.length_eq

theorem get?_firstReplies_of_get? {replies : PyDict Value NodeReply} {n : Value} {r : NodeReply}
    (h : replies.get? n = some r) (messages : List Control) :
    (firstReplies replies messages).get? n = some r := by
  induction messages generalizing replies with
  | nil => exact h
  | cons m messages ih =>
    refine ih ?_
    unfold recordFirst
    split
    · exact h
    · rename_i hc
      have hne : n ≠ nodeName m := by
        rintro rfl; simp [PyDict.contains, h] at hc
      rwa [PyDict.get?_set_ne _ _ hne]

/-- Each node's recorded reply is its first one. -/
theorem get?_firstReplies_first {replies : PyDict Value NodeReply} {n : Value}
    (hn : n ∉ replies.keys) {pre post : List Control} (hpre : ∀ m ∈ pre, nodeName m ≠ n)
    {m : Control} (hm : nodeName m = n) :
    (firstReplies replies (pre ++ m :: post)).get? n = some (recordedReply m) := by
  have hnone : (firstReplies replies pre).get? n = none := by
    rw [PyDict.get?_eq_none_iff, mem_keys_firstReplies]
    simp only [List.mem_map, not_or, not_exists, not_and]
    exact ⟨hn, hpre⟩
  have hfirst : (recordFirst (firstReplies replies pre) m).get? n = some (recordedReply m) := by
    simp [recordFirst, PyDict.contains, hm, hnone]
  simp only [firstReplies, List.foldl_append, List.foldl_cons] at hfirst ⊢
  exact get?_firstReplies_of_get? hfirst post

theorem digestsClear_firstReplies {replies : PyDict Value NodeReply} (h : DigestsClear replies)
    {messages : List Control} (hms : ∀ m ∈ messages, ReplyFor env k m) :
    DigestsClear (firstReplies replies messages) := by
  induction messages generalizing replies with
  | nil => exact h
  | cons m messages ih =>
    refine ih ?_ fun m' hm' => hms m' (List.mem_cons_of_mem _ hm')
    unfold recordFirst
    split
    · exact h
    · intro n c d hp
      rcases PyDict.mem_set hp with hp | hp
      · exact h n c d hp
      · have hm := hms m (List.mem_cons_self _ _)
        simp only [recordedReply, Prod.mk.injEq] at hp
        split at hp
        · rename_i hr
          obtain ⟨bs, hd⟩ := hm.digest hr
          simp only [NodeReply.success.injEq, hd, Option.getD_some] at hp
          exact hp.2.2 ▸ b64encode_ne_errorReplyMarker bs
        · simp at hp

theorem runReplies_of_none {xs : List (Control × Timestamp × ℚ)}
    (hxs : ∀ x ∈ xs, ReplyFor env k x.1) (hnone : s.activeRequests.get? k = none) :
    runReplies env s xs = s := by
  induction xs with
  | nil => rfl
  | cons x xs ih =>
    have hstep := handleConsistencyCheckReply_of_none (hxs x (List.mem_cons_self _ _)) hnone
      x.2.1 x.2.2
    simp only [runReplies, List.foldl_cons] at ih ⊢
    rw [step_consistencyCheckReply, hstep]
    exact ih fun x' hx' => hxs x' (List.mem_cons_of_mem _ hx')

/-- While fewer than all nodes have answered, the request waits with the
    first reply of each node, and nothing else moves. -/
theorem runReplies_waiting {xs : List (Control × Timestamp × ℚ)}
    (hxs : ∀ x ∈ xs, ReplyFor env k x.1) (he : s.activeRequests.get? k = some e)
    (hlt : (firstReplies e.replies (xs.map Prod.fst)).length < env.clientCount) :
    (runReplies env s xs).activeRequests.get? k =
        some { e with replies := firstReplies e.replies (xs.map Prod.fst) } ∧
      (runReplies env s xs).sentReplies = s.sentReplies ∧ (runReplies env s xs).audits = s.audits ∧
      (runReplies env s xs).retryList = s.retryList := by
  induction xs generalizing s e with
  | nil => exact ⟨he, rfl, rfl, rfl⟩
  | cons x xs ih =>
    have hx := hxs x (List.mem_cons_self _ _)
    have hxs' : ∀ x ∈ xs, ReplyFor env k x.1 := fun x' hx' => hxs x' (List.mem_cons_of_mem _ hx')
    have hstep := handleConsistencyCheckReply_of_entry hx he x.2.1 x.2.2
    simp only [List.map_cons, firstReplies, runReplies, List.foldl_cons] at hlt ih ⊢
    by_cases hc : e.replies.contains (nodeName x.1)
    · rw [if_pos hc] at hstep
      have hr : recordFirst e.replies x.1 = e.replies := by simp [recordFirst, hc]
      rw [hr] at hlt ⊢
      rw [step_consistencyCheckReply, hstep]
      exact ih hxs' he hlt
    · have hlt1 := lt_of_le_of_lt (length_le_firstReplies _ _) hlt
      rw [if_neg hc, if_pos hlt1] at hstep
      rw [step_consistencyCheckReply, hstep]
      exact ih (e := { e with replies := recordFirst e.replies x.1 }) hxs' (by simp) hlt

theorem AuditVerdict.of_sameOutputs {env : AuditEnv} {e : RequestState} {collectionId : Value}
    {timestamp : Timestamp} {retryTime : ℚ} {s₀ s s' : AuditState}
    (h : AuditVerdict env e collectionId timestamp retryTime s₀ s') (ha : s₀.audits = s.audits)
    (hr : s₀.retryList = s.retryList) (hs : s₀.sentReplies = s.sentReplies) :
    AuditVerdict env e collectionId timestamp retryTime s s' :=
  ⟨ha ▸ h.audits, hr ▸ h.retryList, hs ▸ h.scheduled, hs ▸ h.requested⟩

/-- The reply that brings the last node's first reply removes the request
    and reaches the verdict on the first replies; later replies change
    nothing. -/
theorem runReplies_complete {pre post : List (Control × Timestamp × ℚ)}
    {x : Control × Timestamp × ℚ} (hxs : ∀ y ∈ pre ++ x :: post, ReplyFor env k y.1)
    (he : s.activeRequests.get? k = some e) (hclear : DigestsClear e.replies)
    (hlt : (firstReplies e.replies (pre.map Prod.fst)).length < env.clientCount)
    (hN : env.clientCount ≤ (firstReplies e.replies ((pre ++ [x]).map Prod.fst)).length) :
    (runReplies env s (pre ++ x :: post)).activeRequests.get? k = none ∧
      AuditVerdict env { e with replies := firstReplies e.replies ((pre ++ [x]).map Prod.fst) } k.1
        x.2.1 x.2.2 s (runReplies env s (pre ++ x :: post)) := by
  have hpre : ∀ y ∈ pre, ReplyFor env k y.1 := fun y hy => hxs y (List.mem_append_left _ hy)
  have hx : ReplyFor env k x.1 := hxs x (List.mem_append_right _ (List.mem_cons_self _ _))
  have hpost : ∀ y ∈ post, ReplyFor env k y.1 := fun y hy =>
    hxs y (List.mem_append_right _ (List.mem_cons_of_mem _ hy))
  obtain ⟨h1, h2, h3, h4⟩ := runReplies_waiting hpre he hlt
  have hR : firstReplies e.replies ((pre ++ [x]).map Prod.fst) =
      recordFirst (firstReplies e.replies (pre.map Prod.fst)) x.1 := by
    simp [firstReplies, List.foldl_append]
  rw [hR] at hN ⊢
  have hnew : (firstReplies e.replies (pre.map Prod.fst)).contains (nodeName x.1) = false := by
    by_contra hc
    rw [recordFirst, if_pos (by simpa using hc)] at hN
    omega
  have hstep := handleConsistencyCheckReply_of_entry hx h1 x.2.1 x.2.2
  rw [if_neg (by simp [hnew]), if_neg (not_lt.mpr hN)] at hstep
  have hgone : (resultState ((handleConsistencyCheckReply env x.1 x.2.1 x.2.2).run
      (runReplies env s pre))).activeRequests.get? k = none := by
    rw [hstep, completeAudit_activeRequests]
    exact PyDict.get?_erase_self _ _
  have hrun : runReplies env s (pre ++ x :: post) =
      runReplies env (resultState ((handleConsistencyCheckReply env x.1 x.2.1 x.2.2).run
        (runReplies env s pre))) post := by
    simp only [runReplies, List.foldl_append, List.foldl_cons]; rfl
  rw [hrun, runReplies_of_none hpost hgone]
  refine ⟨hgone, ?_⟩
  rw [hstep]
  have hclear' : DigestsClear (recordFirst (firstReplies e.replies (pre.map Prod.fst)) x.1) := by
    rw [← hR]
    refine @digestsClear_firstReplies env k _ hclear _ fun m hm => ?_
    obtain ⟨y, hy, rfl⟩ := List.mem_map.mp hm
    simp only [List.mem_append, List.mem_singleton] at hy
    exact hxs y (by simp only [List.mem_append, List.mem_cons]; tauto)
  exact (completeAudit_verdict (e := { e with replies := recordFirst _ x.1 }) hclear').of_sameOutputs
    h3 h4 h2

end Collect

/-- The auditor's handling of the replies to one request, in any order and
    with duplicates: each node's recorded reply is its first; the request
    waits until as many distinct nodes as there are anti-entropy clients
    have replied, and the reply that completes the count removes it and
    reaches the verdict on the first replies alone. -/
theorem consistencyCheckReplies_reach_verdict {env : AuditEnv} {s : AuditState}
    {k : Value × Timestamp} {e : RequestState} (he : s.activeRequests.get? k = some e)
    (hfresh : e.replies = []) (xs : List (Control × Timestamp × ℚ))
    (hxs : ∀ x ∈ xs, ReplyFor env k x.1) :
    (∀ pre m post, xs.map Prod.fst = pre ++ m :: post → (∀ m' ∈ pre, nodeName m' ≠ nodeName m) →
      (firstReplies [] (xs.map Prod.fst)).get? (nodeName m) = some (recordedReply m)) ∧
    (((xs.map Prod.fst).map nodeName).dedup.length < env.clientCount →
      (runReplies env s xs).activeRequests.get? k =
          some { e with replies := firstReplies [] (xs.map Prod.fst) } ∧
        (runReplies env s xs).sentReplies = s.sentReplies ∧
        (runReplies env s xs).audits = s.audits ∧ (runReplies env s xs).retryList = s.retryList) ∧
    (∀ pre x post, xs = pre ++ x :: post →
      ((pre.map Prod.fst).map nodeName).dedup.length < env.clientCount →
      env.clientCount ≤ (((pre ++ [x]).map Prod.fst).map nodeName).dedup.length →
      (runReplies env s xs).activeRequests.get? k = none ∧
        AuditVerdict env { e with replies := firstReplies [] ((pre ++ [x]).map Prod.fst) } k.1 x.2.1 x.2.2
          s (runReplies env s xs)) := by
  have hclear : DigestsClear e.replies := by simp [DigestsClear, hfresh]
  refine ⟨fun pre m post hsplit hpre => ?_, fun hlt => ?_, fun pre x post hsplit hlt hN => ?_⟩
  · rw [hsplit]
    exact get?_firstReplies_first (by simp [PyDict.keys]) hpre rfl
  · rw [← length_firstReplies_nil, ← hfresh] at hlt
    rw [← hfresh]
    exact runReplies_waiting hxs he hlt
  · rw [← length_firstReplies_nil, ← hfresh] at hlt hN
    rw [← hfresh, hsplit]
    exact runReplies_complete (hsplit ▸ hxs) he hclear hlt hN

/-- When the audit of collection 5 at noon on 3 May 2011 was taken. -/
def auditTime : Timestamp := ⟨2011, 5, 3, 12, 0, 0, 0⟩

/-- Two nodes, each with one anti-entropy client. -/
def twoNodeEnv : AuditEnv := ⟨2, 3, fun _ => auditTime, fun _ => 'A', id, "node-1"⟩

/-- A requested audit of collection 5 with no reply yet. -/
def waitingState : AuditState :=
  { AuditState.init with activeRequests :=
      [((.int 5, auditTime), ⟨.str "client-1", auditTime, 60, 0, [], 17⟩)] }

/-- A node's successful reply for collection 5. -/
def successReply (node : String) (digest : Bytes) : Control :=
  [("message-type", .str "consistency-check-reply"), ("node-name", .str node),
   ("collection-id", .int 5), ("timestamp-repr", .str "datetime.datetime(2011, 5, 3, 12, 0)"),
   ("result", .str "success"), ("count", .int 1), ("encoded-md5-digest", .str (b64encode digest))]

theorem successReply_replyFor (node : String) (digest : Bytes) :
    ReplyFor twoNodeEnv (.int 5, auditTime) (successReply node digest) :=
  ⟨⟨_, rfl, rfl⟩, rfl, ⟨_, rfl⟩, ⟨_, rfl⟩, fun h => absurd rfl h, fun _ => ⟨_, rfl⟩,
    fun _ => ⟨digest, rfl⟩⟩

/-- Node 1 replies twice with different digests, then node 2 replies. -/
def duplicateReplies : List (Control × Timestamp × ℚ) :=
  [(successReply "node-1" [1], auditTime, 90), (successReply "node-1" [2], auditTime, 91),
   (successReply "node-2" [2], auditTime, 92)]

theorem duplicateReplies_reach_verdict :
    (runReplies twoNodeEnv waitingState duplicateReplies).activeRequests.get?
        (.int 5, auditTime) = none ∧
      AuditVerdict twoNodeEnv ⟨.str "client-1", auditTime, 60, 0,
          firstReplies [] ((duplicateReplies.take 2 ++ [duplicateReplies[2]]).map Prod.fst), 17⟩
        (.int 5) auditTime 92 waitingState (runReplies twoNodeEnv waitingState duplicateReplies) :=
  (@consistencyCheckReplies_reach_verdict twoNodeEnv waitingState (.int 5, auditTime)
      ⟨.str "client-1", auditTime, 60, 0, [], 17⟩ rfl rfl duplicateReplies fun x hx => by
      simp only [duplicateReplies, List.mem_cons, List.mem_nil_iff, or_false] at hx
      rcases hx with rfl | rfl | rfl <;> exact successReply_replyFor _ _).2.2
    (duplicateReplies.take 2) duplicateReplies[2] [] rfl (by decide) (by decide)

end AntiEntropy
end NimbusIo
