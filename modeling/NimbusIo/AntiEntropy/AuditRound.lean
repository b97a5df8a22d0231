/-
  NimbusIo.AntiEntropy.AuditRound

  One audit round across the cluster.  The auditor queues a
  `consistency-check` for a collection on every node; each node's
  `_handle_consistency_check` answers from its own segment table with the
  MD5 of the rows its query selects; the auditor's
  `_handle_consistency_check_reply` collects the answers, in whatever order
  and with whatever repeats the transport delivers them, and records its
  verdict.

  Composing the two sides: when every node selects the same rows of the
  collection, the round ends in `successful_audit`, and a requested audit
  is answered `success`.  Which rows count is the node's query
  (`ConsistencyHash`): only active rows, so a node that lost a finalized
  row still agrees.
-/
import NimbusIo.AntiEntropy.Audit

namespace NimbusIo
namespace AntiEntropy

/-- What the node `name`, holding the segment table `table`, sends for a
    delivered request: `_handle_consistency_check` run on that node. -/
def nodeReplies (env : AuditEnv) (name : String) (table : List SegmentRow) (request : Control) :
    List Control :=
  (resultState ((handleConsistencyCheck { env with localNodeName := name } table request).run
    AuditState.init)).sentReplies

/-- The digest a node reports for a collection: base64 of the MD5 of the
    rows it selects. -/
def nodeDigest (env : AuditEnv) (table : List SegmentRow) (collectionId : Value) : Value :=
  .str (b64encode (env.md5 ((consistencyRows env table collectionId).map rowDigestInput).flatten))

/-- A `consistency-check` request for the check `k` as a node receives it:
    the auditor's request with the `client-tag` the transport adds. -/
structure CheckRequest (env : AuditEnv) (k : Value × Timestamp) (request : Control) : Prop where
  clientTag : ∃ tag, request.get? "client-tag" = some tag
  collection : request.get? "collection-id" = some k.1
  timestamp : ∃ v, request.get? "timestamp-repr" = some v ∧ env.parseTimestampRepr v = k.2

section Round

variable {env : AuditEnv} {k : Value × Timestamp} {request : Control}

/-- Which rows a node selects does not depend on its name. -/
@[simp] theorem consistencyRows_localNodeName (name : String) (table : List SegmentRow)
    (collectionId : Value) :
    consistencyRows { env with localNodeName := name } table collectionId =
      consistencyRows env table collectionId := rfl

/-- A node sends one reply: a success for the check, under its own name,
    with the count and digest of the rows it selects. -/
theorem nodeReplies_spec (hreq : CheckRequest env k request) (name : String)
    (table : List SegmentRow) :
    ∃ r, nodeReplies env name table request = [r] ∧ ReplyFor env k r ∧ nodeName r = .str name ∧
      recordedReply r =
        .success (.int (consistencyRows env table k.1).length) (nodeDigest env table k.1) := by
  obtain ⟨⟨tag, htag⟩, hc, v, hv, hts⟩ := hreq
  simp only [nodeReplies, handleConsistencyCheck, PyM.run_bind, PyM.run_item_of_get? htag,
    PyM.run_item_of_get? hc, PyM.run_item_of_get? hv, sendReply, PyM.run_modify, resultState_ok,
    AuditState.init, List.nil_append]
  refine ⟨_, rfl, ⟨⟨v, ?_, hts⟩, ?_, ⟨.str name, ?_⟩, ⟨.str "success", ?_⟩, ?_, ?_, ?_⟩, ?_, ?_⟩
  all_goals simp [PyDict.get?_set, PyDict.get?_cons, nodeName, recordedReply, nodeDigest]

/-- Every reply the auditor keeps came with one of the messages. -/
theorem mem_firstReplies {replies : PyDict Value NodeReply} {messages : List Control}
    {p : Value × NodeReply} (hp : p ∈ firstReplies replies messages) :
    p ∈ replies ∨ ∃ m ∈ messages, p = (nodeName m, recordedReply m) := by
  induction messages generalizing replies with
  | nil => exact .inl hp
  | cons m messages ih =>
    rcases ih hp with hp | ⟨m', hm', h⟩
    · unfold recordFirst at hp
      split at hp
      · exact .inl hp
      · rcases PyDict.mem_set hp with hp | rfl
        · exact .inl hp
        · exact .inr ⟨m, List.mem_cons_self _ _, rfl⟩
    · exact .inr ⟨m', List.mem_cons_of_mem _ hm', h⟩

/-- Replies that are all successes with one digest, and at least one, are
    the auditor's agreement case: no error and one distinct digest. -/
theorem agreed_of_common_digest {replies : PyDict Value NodeReply} {d : Value}
    (h : ∀ p ∈ replies, ∃ c, p.2 = .success c d) (hne : replies ≠ []) :
    errorNodes replies = [] ∧ (successDigests replies).dedup.length = 1 := by
  refine ⟨List.map_eq_nil_iff.mpr (List.filter_eq_nil_iff.mpr fun p hp => ?_), ?_⟩
  · obtain ⟨c, hc⟩ := h p hp
    simp [hc]
  have hall : ∀ d' ∈ successDigests replies, d' = d := fun d' hd' => by
    obtain ⟨p, hp, hpd⟩ := List.mem_filterMap.mp hd'
    obtain ⟨c, hc⟩ := h p hp
    simpa [hc] using hpd.symm
  obtain ⟨p, hp⟩ := List.exists_mem_of_ne_nil _ hne
  obtain ⟨c, hc⟩ := h p hp
  have hmem : d ∈ successDigests replies := List.mem_filterMap.mpr ⟨p, hp, by simp [hc]⟩
  rw [List.eq_replicate_iff.mpr ⟨rfl, hall⟩, List.replicate_dedup (List.length_pos_of_mem hmem).ne']
  rfl

/-- A count of distinct values along a list that reaches `N ≥ 1` first
    reaches it at one element. -/
theorem exists_dedup_crossing {α β : Type} [DecidableEq β] (f : α → β) {N : Nat} (hN : 0 < N)
    (xs : List α) (hxs : N ≤ (xs.map f).dedup.length) :
    ∃ pre x post, xs = pre ++ x :: post ∧ (pre.map f).dedup.length < N ∧
      N ≤ ((pre ++ [x]).map f).dedup.length := by
  induction xs using List.reverseRecOn with
  | nil => simp at hxs; omega
  | append_singleton ys y ih =>
    by_cases hys : N ≤ (ys.map f).dedup.length
    · obtain ⟨pre, x, post, rfl, hlt, hle⟩ := ih hys
      exact ⟨pre, x, post ++ [y], by simp, hlt, hle⟩
    · exact ⟨ys, y, [], rfl, by omega, hxs⟩

/-- The replies the transport hands the auditor: each is a reply one of
    the `nodes` sent for `request`, and each node's reply comes at least
    once. -/
structure Delivered (env : AuditEnv) (nodes : List (String × List SegmentRow)) (request : Control)
    (xs : List (Control × Timestamp × ℚ)) : Prop where
  sent : ∀ x ∈ xs, ∃ n ∈ nodes, x.1 ∈ nodeReplies env n.1 n.2 request
  all : ∀ n ∈ nodes, ∃ x ∈ xs, x.1 ∈ nodeReplies env n.1 n.2 request

/-- The transport delivering the replies of the nodes in `order`, a list
    in which every node comes at least once. -/
theorem Delivered.of_order (hreq : CheckRequest env k request)
    {nodes order : List (String × List SegmentRow)} (hsub : ∀ n ∈ order, n ∈ nodes)
    (hall : ∀ n ∈ nodes, n ∈ order) {xs : List (Control × Timestamp × ℚ)}
    (hxs : xs.map Prod.fst = order.flatMap fun n => nodeReplies env n.1 n.2 request) :
    Delivered env nodes request xs := by
  have hmem : ∀ m, m ∈ xs.map Prod.fst ↔ ∃ n ∈ order, m ∈ nodeReplies env n.1 n.2 request := by
    simp [hxs]
  refine ⟨fun x hx => ?_, fun n hn => ?_⟩
  · obtain ⟨n, hn, hm⟩ := (hmem x.1).mp (List.mem_map_of_mem _ hx)
    exact ⟨n, hsub n hn, hm⟩
  · obtain ⟨r, hr, -⟩ := nodeReplies_spec hreq n.1 n.2
    obtain ⟨x, hx, rfl⟩ := List.mem_map.mp ((hmem r).mpr ⟨n, hall n hn, by simp [hr]⟩)
    exact ⟨x, hx, by simp [hr]⟩

section Delivered

variable {nodes : List (String × List SegmentRow)} {xs : List (Control × Timestamp × ℚ)}

/-- When the nodes select the same rows, every delivered reply is a reply
    for the check carrying one node's digest. -/
theorem Delivered.common_digest (hxs : Delivered env nodes request xs)
    (hreq : CheckRequest env k request)
    (hsame : ∀ n ∈ nodes, ∀ n' ∈ nodes, consistencyRows env n.2 k.1 = consistencyRows env n'.2 k.1)
    {n₀ : String × List SegmentRow} (hn₀ : n₀ ∈ nodes) :
    ∀ x ∈ xs, ReplyFor env k x.1 ∧ ∃ c, recordedReply x.1 = .success c (nodeDigest env n₀.2 k.1) := by
  intro x hx
  obtain ⟨n, hn, hmem⟩ := hxs.sent x hx
  obtain ⟨r, hr, hfor, -, hrec⟩ := nodeReplies_spec hreq n.1 n.2
  rw [hr, List.mem_singleton] at hmem
  rw [hmem, hrec, nodeDigest, hsame n hn n₀ hn₀]
  exact ⟨hfor, _, rfl⟩

/-- Every delivered reply is a reply for the check, under a node's name. -/
theorem Delivered.replyFor (hxs : Delivered env nodes request xs)
    (hreq : CheckRequest env k request) {x : Control × Timestamp × ℚ} (hx : x ∈ xs) :
    ReplyFor env k x.1 ∧ nodeName x.1 ∈ (nodes.map Prod.fst).map Value.str := by
  obtain ⟨n, hn, hmem⟩ := hxs.sent x hx
  obtain ⟨r, hr, hfor, hname, -⟩ := nodeReplies_spec hreq n.1 n.2
  rw [hr, List.mem_singleton] at hmem
  rw [hmem, hname]
  exact ⟨hfor, List.mem_map_of_mem _ (List.mem_map_of_mem _ hn)⟩

/-- Nodes under distinct names each deliver a reply under their name, so
    the delivered replies name at least as many nodes. -/
theorem Delivered.length_le_names (hxs : Delivered env nodes request xs)
    (hreq : CheckRequest env k request) (hnames : (nodes.map Prod.fst).Nodup) :
    nodes.length ≤ (xs.map (nodeName ∘ Prod.fst)).dedup.length := by
  have hsub : (nodes.map Prod.fst).map Value.str ⊆ (xs.map (nodeName ∘ Prod.fst)).dedup := by
    intro v hv
    obtain ⟨n, hn, rfl⟩ := List.mem_map.mp (List.map_map _ _ _ ▸ hv)
    obtain ⟨x, hx, hmem⟩ := hxs.all n hn
    obtain ⟨r, hr, -, hname, -⟩ := nodeReplies_spec hreq n.1 n.2
    rw [hr, List.mem_singleton] at hmem
    exact List.mem_dedup.mpr (List.mem_map.mpr ⟨x, hx, by simp [hmem, hname]⟩)
  simpa using ((hnames.map fun _ _ h => Value.str.inj h).subperm hsub).length_le

end Delivered

/-- An audit round: the auditor waits on the check `k` with no reply yet;
    one node per anti-entropy client, under distinct names, answers the
    request; the transport delivers the answers in any order, with
    repeats.  When the nodes select the same rows of the collection, the
    request is removed and the round records `successful_audit`, schedules
    no retry, and answers a requested audit `success`. -/
theorem auditRound_agreement {s : AuditState} {e : RequestState}
    (he : s.activeRequests.get? k = some e) (hfresh : e.replies = [])
    {nodes : List (String × List SegmentRow)} (hnames : (nodes.map Prod.fst).Nodup)
    (hcount : nodes.length = env.clientCount) (hpos : 0 < env.clientCount)
    (hreq : CheckRequest env k request)
    (hsame : ∀ n ∈ nodes, ∀ n' ∈ nodes, consistencyRows env n.2 k.1 = consistencyRows env n'.2 k.1)
    {xs : List (Control × Timestamp × ℚ)} (hxs : Delivered env nodes request xs) :
    (runReplies env s xs).activeRequests.get? k = none ∧
    ∃ t, (runReplies env s xs).audits = s.audits ++ [.successfulAudit e.rowId t] ∧
      (runReplies env s xs).retryList = s.retryList ∧
      (e.clientTag = .none → (runReplies env s xs).sentReplies = s.sentReplies) ∧
      (e.clientTag ≠ .none → ∃ r, (runReplies env s xs).sentReplies = s.sentReplies ++ [r] ∧
        r.get? "result" = some (.str "success")) := by
  obtain ⟨n₀, hn₀⟩ := List.exists_mem_of_length_pos (hcount ▸ hpos)
  have hrep := hxs.common_digest hreq hsame hn₀
  have hall := hcount ▸ hxs.length_le_names hreq hnames
  obtain ⟨pre, x, post, rfl, hlt, hN⟩ := exists_dedup_crossing _ hpos xs hall
  have hclear : DigestsClear e.replies := by simp [DigestsClear, hfresh]
  have hlt' : (firstReplies e.replies (pre.map Prod.fst)).length < env.clientCount := by
    rwa [hfresh, length_firstReplies_nil, List.map_map]
  have hN' : env.clientCount ≤ (firstReplies e.replies ((pre ++ [x]).map Prod.fst)).length := by
    rwa [hfresh, length_firstReplies_nil, List.map_map]
  obtain ⟨hgone, hverdict⟩ := runReplies_complete (fun y hy => (hrep y hy).1) he hclear hlt' hN'
  have hR : ∀ p ∈ firstReplies e.replies ((pre ++ [x]).map Prod.fst),
      ∃ c, p.2 = .success c (nodeDigest env n₀.2 k.1) := by
    intro p hp
    rcases mem_firstReplies hp with hp | ⟨m, hm, hpm⟩
    · simp [hfresh] at hp
    · obtain ⟨y, hy, rfl⟩ := List.mem_map.mp hm
      obtain ⟨c, hc⟩ := (hrep y (by simp at hy ⊢; tauto)).2
      exact ⟨c, (congrArg Prod.snd hpm).trans hc⟩
  obtain ⟨hE, hD⟩ := agreed_of_common_digest hR (List.ne_nil_of_length_pos (lt_of_lt_of_le hpos hN'))
  have hout : auditOutcome env { e with replies := firstReplies e.replies ((pre ++ [x]).map Prod.fst) } x.2.1 =
      .successfulAudit e.rowId x.2.1 := if_pos ⟨hE, hD⟩
  refine ⟨hgone, x.2.1, by rw [hverdict.audits, hout], by rw [hverdict.retryList, hout]; simp,
    hverdict.scheduled, fun hc => ?_⟩
  obtain ⟨r, hsent, hres, -⟩ := hverdict.requested hc
  exact ⟨r, hsent, by rw [hres, auditResult, if_pos ⟨hE, hD⟩]⟩

/-- A delivered reply under a node's name is that node's reply. -/
theorem Delivered.recordedReply_of_name {nodes : List (String × List SegmentRow)}
    {xs : List (Control × Timestamp × ℚ)} (hxs : Delivered env nodes request xs)
    (hreq : CheckRequest env k request) (hnames : (nodes.map Prod.fst).Nodup)
    {x : Control × Timestamp × ℚ} (hx : x ∈ xs) {n : String × List SegmentRow} (hn : n ∈ nodes)
    (hname : nodeName x.1 = .str n.1) :
    recordedReply x.1 = .success (.int (consistencyRows env n.2 k.1).length) (nodeDigest env n.2 k.1) := by
  obtain ⟨n', hn', hmem⟩ := hxs.sent x hx
  obtain ⟨r, hr, -, hname', hrec⟩ := nodeReplies_spec hreq n'.1 n'.2
  rw [hr, List.mem_singleton] at hmem
  rw [hmem] at hname ⊢
  have : n' = n := List.inj_on_of_nodup_map hnames hn' hn (Value.str.inj (hname'.symm.trans hname))
  rw [hrec, this]

/-- The verdict on replies that are not one digest with no error: the
    audit is closed by `audit_error`, or handed on by `wait_for_retry`. -/
theorem completeAudit_disagreed {e : RequestState} {collectionId : Value} {timestamp : Timestamp}
    {retryTime : ℚ} {s : AuditState} (hclear : DigestsClear e.replies)
    (hnot : ¬(errorNodes e.replies = [] ∧ (successDigests e.replies).dedup.length = 1)) :
    (resultState ((completeAudit env e collectionId timestamp retryTime).run s)).audits =
        s.audits ++ [.auditError e.rowId timestamp] ∨
      (resultState ((completeAudit env e collectionId timestamp retryTime).run s)).audits =
        s.audits ++ [.waitForRetry e.rowId] := by
  rw [(completeAudit_verdict hclear).audits, auditOutcome, if_neg hnot]
  split <;> simp

/-- The reply that brings the last node's first reply runs the verdict on a
    state whose records are those before the round; later replies change
    nothing. -/
theorem runReplies_complete_eq {s : AuditState} {e : RequestState}
    {pre post : List (Control × Timestamp × ℚ)} {x : Control × Timestamp × ℚ}
    (hxs : ∀ y ∈ pre ++ x :: post, ReplyFor env k y.1) (he : s.activeRequests.get? k = some e)
    (hlt : (firstReplies e.replies (pre.map Prod.fst)).length < env.clientCount)
    (hN : env.clientCount ≤ (firstReplies e.replies ((pre ++ [x]).map Prod.fst)).length) :
    ∃ s₁ : AuditState, s₁.activeRequests.get? k = none ∧ s₁.audits = s.audits ∧
      s₁.retryList = s.retryList ∧ s₁.sentReplies = s.sentReplies ∧
      runReplies env s (pre ++ x :: post) = resultState ((completeAudit env
        { e with replies := firstReplies e.replies ((pre ++ [x]).map Prod.fst) } k.1 x.2.1
        x.2.2).run s₁) := by
  have hpre : ∀ y ∈ pre, ReplyFor env k y.1 := fun y hy => hxs y (List.mem_append_left _ hy)
  have hx : ReplyFor env k x.1 := hxs x (List.mem_append_right _ (List.mem_cons_self _ _))
  have hpost : ∀ y ∈ post, ReplyFor env k y.1 := fun y hy =>
    hxs y (List.mem_append_right _ (List.mem_cons_of_mem _ hy))
  obtain ⟨h1, h2, h3, h4⟩ := runReplies_waiting hpre he hlt
  have hR : firstReplies e.replies ((pre ++ [x]).map Prod.fst) =
      recordFirst (firstReplies e.replies (pre.map Prod.fst)) x.1 := by
    simp [firstReplies, List.foldl_append]
  rw [hR] at hN ⊢
  have hnew : (firstReplies e.replies (pre.map Prod.fst)).contains (nodeName x.1) = false := by
    by_contra hc
    rw [recordFirst, if_pos (by simpa using hc)] at hN
    omega
  have hstep := handleConsistencyCheckReply_of_entry hx h1 x.2.1 x.2.2
  rw [if_neg (by simp [hnew]), if_neg (not_lt.mpr hN)] at hstep
  have hgone : (resultState ((handleConsistencyCheckReply env x.1 x.2.1 x.2.2).run
      (runReplies env s pre))).activeRequests.get? k = none := by
    rw [hstep, completeAudit_activeRequests]
    exact PyDict.get?_erase_self _ _
  have hrun : runReplies env s (pre ++ x :: post) =
      runReplies env (resultState ((handleConsistencyCheckReply env x.1 x.2.1 x.2.2).run
        (runReplies env s pre))) post := by
    simp only [runReplies, List.foldl_append, List.foldl_cons]; rfl
  rw [hrun, runReplies_of_none hpost hgone, hstep]
  refine ⟨_, ?_, ?_, ?_, ?_, rfl⟩
  exacts [PyDict.get?_erase_self _ _, h3, h4, h2]

/-- An audit round in which two nodes report different digests: the
    request is removed, and the round never records `successful_audit`:
    it records `audit_error`, or hands the audit on with `wait_for_retry`,
    and answers a requested audit `audit-error`. -/
theorem auditRound_divergence {s : AuditState} {e : RequestState}
    (he : s.activeRequests.get? k = some e) (hfresh : e.replies = [])
    {nodes : List (String × List SegmentRow)} (hnames : (nodes.map Prod.fst).Nodup)
    (hcount : nodes.length = env.clientCount) (hreq : CheckRequest env k request)
    {n n' : String × List SegmentRow} (hn : n ∈ nodes) (hn' : n' ∈ nodes)
    (hdiff : nodeDigest env n.2 k.1 ≠ nodeDigest env n'.2 k.1)
    {xs : List (Control × Timestamp × ℚ)} (hxs : Delivered env nodes request xs) :
    (runReplies env s xs).activeRequests.get? k = none ∧
    ∃ t, ((runReplies env s xs).audits = s.audits ++ [.auditError e.rowId t] ∨
        (runReplies env s xs).audits = s.audits ++ [.waitForRetry e.rowId]) ∧
      (e.clientTag ≠ .none → ∃ r, (runReplies env s xs).sentReplies = s.sentReplies ++ [r] ∧
        r.get? "result" = some (.str "audit-error")) := by
  have hpos : 0 < env.clientCount := hcount ▸ List.length_pos_of_mem hn
  obtain ⟨pre, x, post, rfl, hlt, hN⟩ :=
    exists_dedup_crossing _ hpos xs (hcount ▸ hxs.length_le_names hreq hnames)
  have hfor : ∀ y ∈ pre ++ x :: post, ReplyFor env k y.1 := fun y hy => (hxs.replyFor hreq hy).1
  have hlt' : (firstReplies e.replies (pre.map Prod.fst)).length < env.clientCount := by
    rwa [hfresh, length_firstReplies_nil, List.map_map]
  have hN' : env.clientCount ≤ (firstReplies e.replies ((pre ++ [x]).map Prod.fst)).length := by
    rwa [hfresh, length_firstReplies_nil, List.map_map]
  have hsub : ∀ y ∈ pre ++ [x], y ∈ pre ++ x :: post := fun y hy => by simp at hy ⊢; tauto
  obtain ⟨s₁, hgone, ha, -, hs, heq⟩ := runReplies_complete_eq hfor he hlt' hN'
  set R := firstReplies e.replies ((pre ++ [x]).map Prod.fst) with hRdef
  have hclear : DigestsClear R := @digestsClear_firstReplies env k _
    (by simp [DigestsClear, hfresh]) _ fun m hm => by
      obtain ⟨y, hy, rfl⟩ := List.mem_map.mp hm
      exact hfor y (hsub y hy)
  -- every node has replied among the replies kept, with its own digest
  have hkeys : R.keys.Perm ((nodes.map Prod.fst).map Value.str) := by
    refine ((nodup_keys_firstReplies (by simp [hfresh, PyDict.keys]) _).subperm fun v hv => ?_)
      |>.perm_of_length_le ?_
    · rcases (mem_keys_firstReplies _ _ v).mp hv with hv | hv
      · simp [hfresh, PyDict.keys] at hv
      · obtain ⟨m, hm, rfl⟩ := List.mem_map.mp hv
        obtain ⟨y, hy, rfl⟩ := List.mem_map.mp hm
        exact (hxs.replyFor hreq (hsub y hy)).2
    · simp only [PyDict.keys, List.length_map, hcount]
      exact hN'
  have hdigest : ∀ m ∈ nodes, nodeDigest env m.2 k.1 ∈ successDigests R := by
    intro m hm
    have hkey : Value.str m.1 ∈ R.keys :=
      hkeys.symm.subset (List.mem_map_of_mem _ (List.mem_map_of_mem _ hm))
    obtain ⟨p, hp, hpk⟩ := List.mem_map.mp hkey
    rcases mem_firstReplies hp with hp' | ⟨msg, hmsg, rfl⟩
    · simp [hfresh] at hp'
    · obtain ⟨y, hy, rfl⟩ := List.mem_map.mp hmsg
      have hrec := hxs.recordedReply_of_name hreq hnames (hsub y hy) hm hpk
      exact List.mem_filterMap.mpr ⟨_, hp, by simp [hrec]⟩
  have hD : (successDigests R).dedup.length ≠ 1 := fun h1 => by
    obtain ⟨d, hd⟩ := List.length_eq_one.mp h1
    have h₁ := List.mem_dedup.mpr (hdigest n hn)
    have h₂ := List.mem_dedup.mpr (hdigest n' hn')
    rw [hd, List.mem_singleton] at h₁ h₂
    exact hdiff (h₁.trans h₂.symm)
  have hnot : ¬(errorNodes R = [] ∧ (successDigests R).dedup.length = 1) := fun h => hD h.2
  refine ⟨by rwa [heq, completeAudit_activeRequests], x.2.1, ?_, fun hc => ?_⟩
  · rw [heq, ← ha]
    exact completeAudit_disagreed hclear hnot
  · obtain ⟨r, hsent, hres, -⟩ := (@completeAudit_verdict env { e with replies := R } k.1 x.2.1
      x.2.2 s₁ hclear).requested hc
    exact ⟨r, by rw [heq, hsent, hs], by rw [hres, auditResult, if_neg hnot, if_neg hD]⟩

end Round

/-- When collection 7 is audited. -/
def roundTime : Timestamp := ⟨2011, 5, 4, 9, 0, 0, 0⟩

/-- Two nodes with the status codes of `tools.data_definitions`; `md5` is
    left as the identity. -/
def roundEnv : AuditEnv := ⟨2, 3, fun _ => roundTime, statusLetter, id, "node-1"⟩

/-- The auditor waiting on a requested audit of collection 7. -/
def roundState : AuditState :=
  { AuditState.init with activeRequests :=
      [((.int 7, roundTime), ⟨.str "client-1", roundTime, 60, 0, [], 21⟩)] }

/-- The auditor's request as the nodes receive it. -/
def roundRequest : Control :=
  (consistencyCheckRequest (.int 7) roundTime).set "client-tag" (.str "anti-entropy-server-node-1")

theorem roundRequest_checkRequest : CheckRequest roundEnv (.int 7, roundTime) roundRequest :=
  ⟨⟨_, rfl⟩, rfl, ⟨_, rfl, rfl⟩⟩

/-- An active row of collection 7. -/
def activeSeven : SegmentRow :=
  ⟨7, "k", 30, 0, roundTime, 1, .active, 4, 1, some [1, 2], none, none, 1⟩

/-- Node 1 holds a finalized row as well, which node 2 has lost. -/
def roundNodes : List (String × List SegmentRow) :=
  [("node-1", [activeSeven, { activeSeven with key := "j", status := .final }]),
   ("node-2", [activeSeven])]

/-- Node 2's reply arrives twice, then node 1's. -/
def roundOrder : List (String × List SegmentRow) := [roundNodes[1], roundNodes[1], roundNodes[0]]

def roundDeliveries : List (Control × Timestamp × ℚ) :=
  (roundOrder.flatMap fun n => nodeReplies roundEnv n.1 n.2 roundRequest).map
    fun m => (m, roundTime, 90)

theorem lostFinalRow_round_agrees :
    (runReplies roundEnv roundState roundDeliveries).activeRequests.get? (.int 7, roundTime) = none ∧
    ∃ t, (runReplies roundEnv roundState roundDeliveries).audits = [.successfulAudit 21 t] ∧
      (runReplies roundEnv roundState roundDeliveries).retryList = [] ∧
      (Value.str "client-1" = .none →
        (runReplies roundEnv roundState roundDeliveries).sentReplies = []) ∧
      (Value.str "client-1" ≠ .none → ∃ r,
        (runReplies roundEnv roundState roundDeliveries).sentReplies = [] ++ [r] ∧
        r.get? "result" = some (.str "success")) :=
  @auditRound_agreement roundEnv (.int 7, roundTime) roundRequest roundState
    ⟨.str "client-1", roundTime, 60, 0, [], 21⟩ rfl rfl roundNodes (by decide) rfl (by decide)
    roundRequest_checkRequest
    (by simp [roundNodes, consistencyRows, roundEnv, statusLetter, activeSeven]) roundDeliveries
    (@Delivered.of_order _ _ _ roundRequest_checkRequest roundNodes roundOrder (by decide)
      (by decide) _ (by simp [roundDeliveries, Function.comp_def]))

/-- Node 2 has lost collection 7's active row. -/
def splitNodes : List (String × List SegmentRow) := [("node-1", [activeSeven]), ("node-2", [])]

/-- Node 2's reply, node 1's, then node 2's again. -/
def splitDeliveries : List (Control × Timestamp × ℚ) :=
  ([splitNodes[1], splitNodes[0], splitNodes[1]].flatMap fun n =>
    nodeReplies roundEnv n.1 n.2 roundRequest).map fun m => (m, roundTime, 90)

theorem lostActiveRow_round_diverges :
    (runReplies roundEnv roundState splitDeliveries).activeRequests.get? (.int 7, roundTime) = none ∧
    ∃ t, ((runReplies roundEnv roundState splitDeliveries).audits = [] ++ [.auditError 21 t] ∨
        (runReplies roundEnv roundState splitDeliveries).audits = [] ++ [.waitForRetry 21]) ∧
      (Value.str "client-1" ≠ .none → ∃ r,
        (runReplies roundEnv roundState splitDeliveries).sentReplies = [] ++ [r] ∧
        r.get? "result" = some (.str "audit-error")) :=
  @auditRound_divergence roundEnv (.int 7, roundTime) roundRequest roundState
    ⟨.str "client-1", roundTime, 60, 0, [], 21⟩ rfl rfl splitNodes (by decide) rfl
    roundRequest_checkRequest splitNodes[0] splitNodes[1] (by decide) (by decide)
    (by simp [nodeDigest, splitNodes, consistencyRows, roundEnv, activeSeven, statusLetter, rowDigestInput, strBytes_eq]; decide)
    splitDeliveries
    (@Delivered.of_order _ _ _ roundRequest_checkRequest splitNodes
      [splitNodes[1], splitNodes[0], splitNodes[1]] (by decide) (by decide) _
      (by simp [splitDeliveries, Function.comp_def]))

end AntiEntropy
end NimbusIo
