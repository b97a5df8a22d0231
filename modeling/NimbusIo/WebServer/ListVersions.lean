/-
  NimbusIo.WebServer.ListVersions

  What `list_versions` lists.  Its loop keeps two trackers: a tombstone
  with no `file_tombstone_unified_id` (an unversioned delete) sets
  `tombstone_key`, and every later row of that key is skipped; a tombstone
  with one (a versioned delete) sets `tombstone_unified_id`, and the next
  row whose own `file_tombstone_unified_id` is the same is skipped.  Only
  tombstones carry that back-reference, so the second tracker can only
  ever skip a tombstone: the final row of the version a versioned delete
  names is listed.  Over rows sorted by key the listing is
  `undeletedFinals`, the final rows that no unversioned delete of their
  key precedes, whatever versioned tombstones lie among them.

  The query puts `seg.key > key_marker` and `seg.unified_id >
  version_id_marker` on every row: the version marker bounds the versions
  of every key, not those of the marker key alone, and no version of the
  marker key itself is listed.
-/
import NimbusIo.WebServer.ListMatcher

namespace NimbusIo
namespace WebServer

/-- The final rows of `rows` that no earlier unversioned tombstone of their
    key deletes, `deleted` holding the keys such a tombstone was seen for.
    Versioned tombstones play no part. -/
def undeletedFinals : List String → List VersionsEntry → List VersionsEntry
  | _, [] => []
  | deleted, row :: rows =>
    if row.status = .tombstone ∧ row.fileTombstoneUnifiedId = none then
      undeletedFinals (row.key :: deleted) rows
    else if row.status = .final ∧ row.key ∉ deleted then row :: undeletedFinals deleted rows
    else undeletedFinals deleted rows

-- ============================================================================
-- The loop lists the undeleted finals
-- ============================================================================

/-- The loop from its trackers over rows sorted by key, in which only
    tombstones carry a back-reference: a deleted key may come again only
    while it is `tombstone_key`, and `tombstone_unified_id` only ever skips
    a tombstone, which lists nothing. -/
theorem versionsLoop_eq_undeletedFinals {rows : List VersionsEntry}
    (hsorted : rows.Pairwise fun r r' => keyLe r.key r'.key)
    (hnull : ∀ r ∈ rows, r.status ≠ .tombstone → r.fileTombstoneUnifiedId = none)
    {tombstoneKey : Option String} {deleted : List String}
    (hkey : ∀ k, tombstoneKey = some k → k ∈ deleted)
    (hdel : ∀ r ∈ rows, r.key ∈ deleted → some r.key = tombstoneKey)
    (hle : ∀ k ∈ deleted, ∀ r ∈ rows, keyLe k r.key) (tombstoneUnifiedId : Option Int) :
    versionsLoop tombstoneKey tombstoneUnifiedId rows =
      (undeletedFinals deleted rows).map VersionsEntry.keyData := by
  induction rows generalizing tombstoneKey tombstoneUnifiedId deleted with
  | nil => rfl
  | cons row rows ih =>
    obtain ⟨hhead, hsorted⟩ := List.pairwise_cons.mp hsorted
    have hnull' := fun r (hr : r ∈ rows) => hnull r (List.mem_cons_of_mem _ hr)
    have hle' := fun k hk r (hr : r ∈ rows) => hle k hk r (List.mem_cons_of_mem _ hr)
    /- A skipped row leaves `tombstone_key` and the deleted keys as they are. -/
    have hskip : ∀ u, versionsLoop tombstoneKey u rows =
        (undeletedFinals deleted rows).map VersionsEntry.keyData :=
      ih hsorted hnull' hkey (fun r hr => hdel r (List.mem_cons_of_mem _ hr)) hle'
    /- After an unversioned tombstone, its key is `tombstone_key` and deleted. -/
    have hnext : ∀ u, versionsLoop (some row.key) u rows =
        (undeletedFinals (row.key :: deleted) rows).map VersionsEntry.keyData := by
      refine ih hsorted hnull' (fun _ hk => Option.some.inj hk ▸ List.mem_cons_self _ _)
        (fun r hr hk => ?_) (fun k hk r hr => ?_)
      · rcases List.mem_cons.mp hk with hk | hk
        · rw [hk]
        · rw [keyLe_antisymm (hle r.key hk row (List.mem_cons_self _ _)) (hhead r hr)]
      · rcases List.mem_cons.mp hk with rfl | hk
        · exact hhead r hr
        · exact hle' k hk r hr
    unfold versionsLoop undeletedFinals
    by_cases hprev : some row.key = tombstoneKey
    · have hin : row.key ∈ deleted := hkey _ hprev.symm
      subst hprev
      simp only [Option.isSome_some, and_self, ↓reduceIte, hin, not_true_eq_false, and_false]
      split
      · exact hnext _
      · exact hskip _
    have hnew : row.key ∉ deleted := fun h => hprev (hdel row (List.mem_cons_self _ _) h)
    /- No deleted key comes again. -/
    have hgone : ∀ r ∈ rows, r.key ∉ deleted := fun r hr hk =>
      hnew (keyLe_antisymm (hle r.key hk row (List.mem_cons_self _ _)) (hhead r hr) ▸ hk)
    have hunset : ∀ u : Option Int, ¬(u.isSome = true ∧ none = u) := by
      rintro u ⟨hu, rfl⟩
      exact Bool.false_ne_true hu
    simp only [hprev, and_false, ↓reduceIte, hnew, not_false_eq_true, and_true]
    by_cases htomb : row.status = .tombstone
    · cases hf : row.fileTombstoneUnifiedId with
      | none => simp only [hunset, htomb, and_self, ↓reduceIte]; exact hnext none
      | some u =>
        simp only [htomb, reduceCtorEq, and_false, ↓reduceIte]
        split
        · exact hskip none
        · exact ih hsorted hnull' (by simp) (fun r hr hk => absurd hk (hgone r hr)) hle' (some u)
    · simp only [hnull row (List.mem_cons_self _ _) htomb, hunset, htomb, false_and, ↓reduceIte]
      cases hst : row.status
      case neg.tombstone => exact absurd hst htomb
      all_goals simp [hskip]

/-- `list_versions` with no delimiter, on any result of its query sorted by
    key and newest first in which only tombstones carry a
    `file_tombstone_unified_id`: `key_data` is the final rows of the page
    that no earlier unversioned tombstone of their key deletes.  A version
    that a versioned tombstone names is listed all the same. -/
theorem listVersions_ignores_versioned_tombstones (rows : List VersionsEntry) (maxKeys : Nat)
    (keyPrefix : String)
    (hsorted : rows.Pairwise fun r r' => listOrder r.key r'.key r.timestamp r'.timestamp = true)
    (hnull : ∀ r ∈ rows, r.status ≠ .tombstone → r.fileTombstoneUnifiedId = none) :
    listVersionsOfRows rows maxKeys keyPrefix "" =
      .keyData ((undeletedFinals [] (rows.take maxKeys)).map VersionsEntry.keyData)
        (rows.length == maxKeys + 1) := by
  have hloop : versionsLoop none none (rows.take maxKeys) =
      (undeletedFinals [] (rows.take maxKeys)).map VersionsEntry.keyData :=
    versionsLoop_eq_undeletedFinals ((hsorted.imp listOrder_keyLe).sublist (List.take_sublist _ _))
      (fun r hr => hnull r (List.mem_of_mem_take hr)) (by simp) (by simp) (by simp) none
  simp [listVersionsOfRows, hloop]

/-- A versioned destroy: the tombstone (unified id 2) names version 1, the
    key's only final row. -/
def versionedDestroyRows : List VersionsEntry :=
  [⟨"k", 2, .tombstone, secondsAfterNoon 2, some 1⟩, ⟨"k", 1, .final, secondsAfterNoon 1, none⟩]

theorem versionedDestroy_still_listed :
    listVersionsOfRows versionedDestroyRows 1000 "" "" =
      .keyData ((undeletedFinals [] (versionedDestroyRows.take 1000)).map VersionsEntry.keyData)
        (versionedDestroyRows.length == 1000 + 1) ∧
    (undeletedFinals [] (versionedDestroyRows.take 1000)).map VersionsEntry.keyData =
      [⟨"k", 1, (secondsAfterNoon 1).repr⟩] :=
  ⟨listVersions_ignores_versioned_tombstones _ 1000 "" (by decide) (by decide), by decide⟩

-- ============================================================================
-- The markers
-- ============================================================================

/-- The loop lists some of the final rows it is given, in their order. -/
theorem versionsLoop_sublist (tombstoneKey : Option String) (tombstoneUnifiedId : Option Int)
    (rows : List VersionsEntry) :
    (versionsLoop tombstoneKey tombstoneUnifiedId rows).Sublist
      ((rows.filter (·.status == .final)).map VersionsEntry.keyData) := by
  induction rows generalizing tombstoneKey tombstoneUnifiedId with
  | nil => exact List.Sublist.slnil
  | cons row rows ih =>
    have hskip : ∀ k u, (versionsLoop k u rows).Sublist
        (((row :: rows).filter (·.status == .final)).map VersionsEntry.keyData) :=
      fun k u => (ih k u).trans (((List.sublist_cons_self row rows).filter _).map _)
    unfold versionsLoop
    split
    · exact hskip _ _
    split
    · exact hskip _ _
    split
    · split <;> exact hskip _ _
    split
    · exact hskip _ _
    rename_i htomb hother
    have hfinal : row.status = .final := by
      cases h : row.status <;> simp_all
    simp only [List.filter_cons, hfinal, beq_self_eq_true, ↓reduceIte, List.map_cons]
    exact (ih _ _).cons₂ _

/-- Every row of the `list_versions` query passes its `where` clause. -/
theorem mem_listVersionsQuery {segments : List SegmentRow} {conjoined : List ConjoinedRow}
    {collectionId : Int} {keyPrefix keyMarker : String} {v : Int} {requestCount : Nat}
    {r : VersionsEntry}
    (h : r ∈ listVersionsQuery segments conjoined collectionId keyPrefix keyMarker v requestCount) :
    ∃ row ∈ rightJoin conjoined segments, listed collectionId keyPrefix keyMarker row = true ∧
      v < row.2.unifiedId ∧ r = ⟨row.2.key, row.2.unifiedId, row.2.status, row.2.timestamp,
        row.2.fileTombstoneUnifiedId⟩ := by
  obtain ⟨row, hrow, rfl⟩ := List.mem_map.mp (List.mem_mergeSort.mp (List.mem_of_mem_take h))
  obtain ⟨hrow, hcond⟩ := List.mem_filter.mp hrow
  simp only [Bool.and_eq_true, decide_eq_true_eq] at hcond
  exact ⟨row, hrow, hcond.1, hcond.2, rfl⟩

/-- `list_versions` with a `key_marker` and a `version_id_marker_str` that
    parses as `v`: every item listed has a key greater than the marker key
    and a version identifier greater than `v`, whatever its key.  So no
    version of the marker key is listed, and the versions of a later key
    with identifiers up to `v` are left out. -/
theorem listVersions_markers_bound_every_key (segments : List SegmentRow)
    (conjoined : List ConjoinedRow) (collectionId : Int) (keyPrefix : String) (maxKeys : Nat)
    (keyMarker versionIdMarkerStr : String) {v : Int} (hv : pyInt versionIdMarkerStr = some v) :
    ∃ keyList truncated,
      listVersions segments conjoined collectionId keyPrefix maxKeys "" keyMarker
          versionIdMarkerStr = .keyData keyList truncated ∧
        ∀ e ∈ keyList, keyLt keyMarker e.key = true ∧ v < e.versionIdentifier := by
  refine ⟨_, _, rfl, fun e he => ?_⟩
  obtain ⟨r, hr, rfl⟩ := List.mem_map.mp ((versionsLoop_sublist _ _ _).subset he)
  obtain ⟨row, -, hlisted, hlt, rfl⟩ :=
    mem_listVersionsQuery (List.mem_of_mem_take (List.mem_filter.mp hr).1)
  simp only [listed, keyCondition, Bool.and_eq_true] at hlisted
  rw [versionIdMarker, hv, Option.getD_some] at hlt
  exact ⟨hlisted.2.2, hlt⟩

/-- `list_versions` on any tables, with no delimiter: each item is a final
    segment row of the collection, not handed off, whose key passes the
    prefix and marker conditions and whose unified id is above the version
    marker. -/
theorem listVersions_lists_final_rows (segments : List SegmentRow) (conjoined : List ConjoinedRow)
    (collectionId : Int) (keyPrefix : String) (maxKeys : Nat) (keyMarker versionIdMarkerStr : String) :
    ∃ keyList truncated,
      listVersions segments conjoined collectionId keyPrefix maxKeys "" keyMarker versionIdMarkerStr =
        .keyData keyList truncated ∧
      ∀ e ∈ keyList, ∃ row ∈ segments, row.collectionId = collectionId ∧ row.handoffNodeId = none ∧
        row.status = .final ∧ keyCondition keyPrefix keyMarker row.key = true ∧
        versionIdMarker versionIdMarkerStr < row.unifiedId ∧
        e = ⟨row.key, row.unifiedId, row.timestamp.repr⟩ := by
  refine ⟨_, _, rfl, fun e he => ?_⟩
  obtain ⟨r, hr, rfl⟩ := List.mem_map.mp ((versionsLoop_sublist _ _ _).subset he)
  obtain ⟨hr, hfinal⟩ := List.mem_filter.mp hr
  obtain ⟨row, hrow, hlisted, hlt, rfl⟩ := mem_listVersionsQuery (List.mem_of_mem_take hr)
  simp only [listed, Bool.and_eq_true, beq_iff_eq, Option.isNone_iff_eq_none] at hlisted
  exact ⟨row.2, mem_rightJoin hrow, hlisted.1.1.2, hlisted.1.2, by simpa using hfinal, hlisted.2, hlt, rfl⟩

/-- One version of key `b`, final, unified id 3. -/
def laterKeyTable : List SegmentRow :=
  [⟨1, "b", 3, 0, secondsAfterNoon 3, 1, .final, 4, 0, some [0], none, none, 1⟩]

theorem laterKeyVersion_dropped_by_marker :
    listVersions laterKeyTable [] 1 "" 1000 "" "" "" = .keyData [⟨"b", 3, (secondsAfterNoon 3).repr⟩] false ∧
    pyInt "5" = some 5 ∧
    ∃ keyList truncated,
      listVersions laterKeyTable [] 1 "" 1000 "" "a" "5" = .keyData keyList truncated ∧
        ∀ e ∈ keyList, keyLt "a" e.key = true ∧ 5 < e.versionIdentifier :=
  ⟨by simp only [listVersions, listVersionsQuery]; rw [List.mergeSort_of_sorted] <;> decide, by decide,
    listVersions_markers_bound_every_key laterKeyTable [] 1 "" 1000 "a" "5" (by decide)⟩

end WebServer
end NimbusIo
