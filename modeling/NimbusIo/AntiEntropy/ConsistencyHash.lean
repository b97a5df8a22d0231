/-
  NimbusIo.AntiEntropy.ConsistencyHash

  What a node's consistency hash covers.  The module docstring of
  `anti_entropy_server_main.py` says the hash is built from the sorted
  keys, with each value's timestamp and stored md5, or a marker for a
  tombstone.  The query of `_handle_consistency_check` selects status
  `'A'`, the code of an active segment, so a finalized segment or a
  tombstone never reaches the hash.

  The bytes fed to MD5 are the rows' keys, `repr(timestamp)`s and
  `str(file_hash)`s run together with nothing between them, so a key can
  take up what another list holds in a neighbouring row: two different
  sorted lists can feed the same bytes.  What the bytes do tell apart is
  the timestamps and hashes of lists that agree on keys row by row, and on
  the length of each `str(file_hash)`: `repr(timestamp)` is ASCII digits,
  `, ` and its fixed head up to a `)` that is its last byte, so it ends at
  the same place in both, and it tells timestamps apart.
-/
import NimbusIo.AntiEntropy.Server

namespace NimbusIo
namespace AntiEntropy

variable {env : AuditEnv}

/-- A row whose status code is not `'A'` is not selected. -/
theorem consistencyRows_cons_of_statusCode_ne (table : List SegmentRow) (collectionId : Value)
    {r : SegmentRow} (h : env.statusCode r.status ≠ 'A') :
    consistencyRows env (r :: table) collectionId = consistencyRows env table collectionId := by
  simp [consistencyRows, List.filter_cons, h]

/-- With the status codes of `tools.data_definitions`, where `'A'` is the
    code of an active segment, a finalized or tombstone row changes
    nothing the consistency check hashes or sends: a node that lacks a
    finalized key, or a deletion, sends the same count and digest. -/
theorem consistencyCheck_ignores_final_and_tombstone (hfinal : env.statusCode .final ≠ 'A')
    (htombstone : env.statusCode .tombstone ≠ 'A') (table : List SegmentRow) (r : SegmentRow)
    (hr : r.status = .final ∨ r.status = .tombstone) (message : Control) (s : AuditState) :
    (handleConsistencyCheck env (r :: table) message).run s =
      (handleConsistencyCheck env table message).run s := by
  have h : env.statusCode r.status ≠ 'A' := by rcases hr with h | h <;> rwa [h]
  simp [handleConsistencyCheck, consistencyRows_cons_of_statusCode_ne table _ h]

/-- The one-letter status codes of `tools.data_definitions`. -/
def statusLetter : SegmentStatus → Char
  | .active => 'A'
  | .cancelled => 'C'
  | .final => 'F'
  | .tombstone => 'T'

/-- An auditor on a single node with those codes; `md5` is left as the identity. -/
def letterEnv : AuditEnv := ⟨1, 3, fun _ => ⟨2011, 5, 3, 12, 0, 0, 0⟩, statusLetter, id, "node-1"⟩

/-- A finalized segment of collection 1 that a node may lack. -/
def finalRow : SegmentRow :=
  ⟨1, "key-1", 10, 0, ⟨2011, 5, 3, 12, 0, 7, 0⟩, 1, .final, 4, 1, some [1, 2, 3, 4], none, none, 1⟩

/-- The `consistency-check` a node receives for collection 1. -/
def checkMessage : Control :=
  [("message-type", .str "consistency-check"), ("client-tag", .str "anti-entropy-server-node-1"),
   ("collection-id", .int 1), ("timestamp-repr", .str "datetime.datetime(2011, 5, 3, 12, 0)")]

theorem missing_final_row_same_reply :
    (handleConsistencyCheck letterEnv [finalRow] checkMessage).run AuditState.init =
      (handleConsistencyCheck letterEnv [] checkMessage).run AuditState.init :=
  consistencyCheck_ignores_final_and_tombstone (by decide) (by decide) [] finalRow (.inl rfl)
    checkMessage AuditState.init

/-- A base64 digest is never the auditor's error marker: `*` is no base64 character. -/
theorem b64encode_ne_errorReplyMarker (bs : Bytes) : Value.str (b64encode bs) ≠ errorReplyMarker := by
  intro h
  have hmem : '*' ∈ (b64encode bs).data := by
    simp only [errorReplyMarker, Value.str.injEq] at h
    rw [h]
    decide
  exact not_mem_b64encode (by decide) (by decide) bs hmem

/-- A node either raises on a missing field, or sends one reply whose
    digest is a base64 encoding. -/
theorem handleConsistencyCheck_sends_b64 (table : List SegmentRow) (message : Control)
    (s : AuditState) :
    resultState ((handleConsistencyCheck env table message).run s) = s ∨
    ∃ r bs, resultState ((handleConsistencyCheck env table message).run s) =
        { s with sentReplies := s.sentReplies ++ [r] } ∧
      r.get? "encoded-md5-digest" = some (.str (b64encode bs)) := by
  unfold handleConsistencyCheck
  cases h1 : message.get? "client-tag" <;> cases h2 : message.get? "collection-id" <;>
    cases h3 : message.get? "timestamp-repr" <;>
    simp [Control.item, h1, h2, h3, sendReply, PyDict.get?_set]

-- ============================================================================
-- The bytes of `repr(timestamp)`
-- ============================================================================

end AntiEntropy
end NimbusIo
