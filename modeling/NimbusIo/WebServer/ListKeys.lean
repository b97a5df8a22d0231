/-
  NimbusIo.WebServer.ListKeys

  What a page of `list_keys` lists.  The query returns a key's rows newest
  first, keys in ascending order; the loop skips a key's rows until its
  first final or tombstone row, lists the key at that row if it is final,
  and skips the key's other rows by `prev_key`.  So the page is the listing
  `refListing` of the rows it was given: each key once, decided by its
  first final or tombstone row.

  A page holds the first `max_keys` rows of the query.  Cutting there can
  only split the rows of the page's last key, so every other key of the
  page is listed as in the whole result; when the query returned no more
  than `max_keys` rows, nothing was cut.
-/
import NimbusIo.WebServer.ListMatcher

namespace NimbusIo
namespace WebServer

/-- A final or tombstone row: one that decides whether its key is listed. -/
def KeysEntry.settled (row : KeysEntry) : Bool := row.status == .final || row.status == .tombstone

/-- What a listing of `rows` holds, key by key: each key once, in the order
    of `rows`, decided by its first settled row and listed there when that
    row is final.  `seen` holds the keys already decided. -/
def refListing : List String → List KeysEntry → List KeyData
  | _, [] => []
  | seen, row :: rows =>
    if row.settled ∧ row.key ∉ seen then
      (if row.status = .final then [row.keyData] else []) ++ refListing (row.key :: seen) rows
    else refListing seen rows

-- ============================================================================
-- The loop is the listing
-- ============================================================================

/-- The loop from `prev_key` over rows sorted by key: a key seen before may
    come again only while it is `prev_key`, so skipping by `prev_key` skips
    exactly the decided keys. -/
theorem keysLoop_eq_refListing {rows : List KeysEntry}
    (hsorted : rows.Pairwise fun r r' => keyLe r.key r'.key) {prevKey : Option String}
    {seen : List String} (hprev : ∀ k, prevKey = some k → k ∈ seen)
    (hseen : ∀ r ∈ rows, r.key ∈ seen → some r.key = prevKey)
    (hle : ∀ k ∈ seen, ∀ r ∈ rows, keyLe k r.key) :
    keysLoop prevKey rows = refListing seen rows := by
  induction rows generalizing prevKey seen with
  | nil => rfl
  | cons row rows ih =>
    obtain ⟨hhead, hsorted⟩ := List.pairwise_cons.mp hsorted
    have hseen' := fun r (hr : r ∈ rows) => hseen r (List.mem_cons_of_mem _ hr)
    have hle' := fun k hk r (hr : r ∈ rows) => hle k hk r (List.mem_cons_of_mem _ hr)
    /- After a settled row, its key is `prev_key` and decided. -/
    have hnext : keysLoop (some row.key) rows = refListing (row.key :: seen) rows := by
      refine ih hsorted (fun _ hk => Option.some.inj hk ▸ List.mem_cons_self _ _)
        (fun r hr hk => ?_) (fun k hk r hr => ?_)
      · rcases List.mem_cons.mp hk with hk | hk
        · rw [hk]
        · rw [keyLe_antisymm (hle r.key hk row (List.mem_cons_self _ _)) (hhead r hr)]
      · rcases List.mem_cons.mp hk with rfl | hk
        · exact hhead r hr
        · exact hle' k hk r hr
    unfold keysLoop refListing
    by_cases hprevRow : some row.key = prevKey
    · have hin : row.key ∈ seen := hprev _ hprevRow.symm
      simp only [hprevRow, if_true, hin, not_true_eq_false, and_false, if_false]
      exact ih hsorted hprev hseen' hle'
    have hnew : row.key ∉ seen := fun h => hprevRow (hseen row (List.mem_cons_self _ _) h)
    simp only [hprevRow, if_false, hnew, not_false_eq_true, and_true, KeysEntry.settled]
    cases hst : row.status <;> simp [ih hsorted hprev hseen' hle', hnext]

-- ============================================================================
-- What the listing holds
-- ============================================================================

/-- Every item listed is a final row whose key was not yet decided. -/
theorem mem_refListing {seen : List String} {rows : List KeysEntry} {e : KeyData}
    (h : e ∈ refListing seen rows) :
    ∃ r ∈ rows, r.status = .final ∧ e = r.keyData ∧ r.key ∉ seen := by
  induction rows generalizing seen with
  | nil => simp [refListing] at h
  | cons row rows ih =>
    unfold refListing at h
    split at h
    · rename_i hrow
      rcases List.mem_append.mp h with h | h
      · split at h
        · rename_i hfinal
          exact ⟨row, List.mem_cons_self _ _, hfinal, List.mem_singleton.mp h, hrow.2⟩
        · simp at h
      · obtain ⟨r, hr, hf, he, hns⟩ := ih h
        exact ⟨r, List.mem_cons_of_mem _ hr, hf, he, fun h' => hns (List.mem_cons_of_mem _ h')⟩
    · obtain ⟨r, hr, hf, he, hns⟩ := ih h
      exact ⟨r, List.mem_cons_of_mem _ hr, hf, he, hns⟩

/-- Over rows sorted by key, the listing is in ascending key order, each
    key once. -/
theorem refListing_pairwise {rows : List KeysEntry}
    (hsorted : rows.Pairwise fun r r' => keyLe r.key r'.key) (seen : List String) :
    (refListing seen rows).Pairwise fun a b => keyLt a.key b.key = true := by
  induction rows generalizing seen with
  | nil => exact List.Pairwise.nil
  | cons row rows ih =>
    obtain ⟨hhead, hsorted⟩ := List.pairwise_cons.mp hsorted
    unfold refListing
    split
    · refine List.pairwise_append.mpr ⟨?_, ih hsorted _, fun a ha b hb => ?_⟩
      · split <;> simp
      · have ha : a = row.keyData := by
          split at ha
          · exact List.mem_singleton.mp ha
          · simp at ha
        obtain ⟨r, hr, -, rfl, hns⟩ := mem_refListing hb
        rcases hhead r hr with hlt | heq
        · rw [ha]; exact hlt
        · exact absurd (heq ▸ List.mem_cons_self _ _) hns
    · exact ih hsorted seen

/-- Whether a key is decided matters only for the rows of that key. -/
theorem refListing_congr {rows : List KeysEntry} {seen seen' : List String}
    (h : ∀ r ∈ rows, r.key ∈ seen ↔ r.key ∈ seen') : refListing seen rows = refListing seen' rows := by
  induction rows generalizing seen seen' with
  | nil => rfl
  | cons row rows ih =>
    have hrows := fun r (hr : r ∈ rows) => h r (List.mem_cons_of_mem _ hr)
    have hnext : refListing (row.key :: seen) rows = refListing (row.key :: seen') rows :=
      ih fun r hr => by simp [hrows r hr]
    simp only [refListing, h row (List.mem_cons_self _ _), hnext, ih hrows]

/-- The items of one key are the listing of that key's rows alone. -/
theorem filter_refListing (k : String) (seen : List String) (rows : List KeysEntry) :
    (refListing seen rows).filter (·.key == k) = refListing seen (rows.filter (·.key == k)) := by
  induction rows generalizing seen with
  | nil => rfl
  | cons row rows ih =>
    by_cases hk : row.key = k
    · have hrow : (row.key == k) = true := by simp [hk]
      simp only [refListing, List.filter_cons, hrow, if_true]
      split
      · simp only [List.filter_append, ih]
        split <;> simp [KeysEntry.keyData, hk]
      · exact ih seen
    · have hrow : (row.key == k) = false := by simp [hk]
      simp only [refListing, List.filter_cons, hrow]
      split
      · have hother : refListing (row.key :: seen) (rows.filter (·.key == k)) =
            refListing seen (rows.filter (·.key == k)) := refListing_congr fun r hr => by
          have : r.key = k := by simpa using (List.mem_filter.mp hr).2
          simp only [List.mem_cons, this, Ne.symm hk, false_or]
        rw [List.filter_append, ih, hother]
        split <;> simp [KeysEntry.keyData, hk]
      · exact ih seen

-- ============================================================================
-- A page
-- ============================================================================

/-- A key of the page other than its last has no row after the page. -/
theorem key_not_after_page {rows : List KeysEntry} {n : Nat}
    (hsorted : rows.Pairwise fun r r' => keyLe r.key r'.key) {k : String}
    (hk : k ∈ (rows.take n).map (·.key)) (hlast : some k ≠ (rows.take n).getLast?.map (·.key)) :
    ∀ r ∈ rows.drop n, r.key ≠ k := by
  rw [← List.take_append_drop n rows, List.pairwise_append] at hsorted
  obtain ⟨htake, -, hcross⟩ := hsorted
  rcases List.eq_nil_or_concat (rows.take n) with hnil | ⟨init, last, hconcat⟩
  · simp [hnil] at hk
  rw [List.concat_eq_append] at hconcat
  rw [hconcat, List.getLast?_concat, Option.map_some', ne_eq, Option.some.injEq] at hlast
  rw [hconcat] at hk htake hcross
  obtain ⟨t, ht, rfl⟩ := List.mem_map.mp hk
  have htl : keyLe t.key last.key := by
    rcases List.mem_append.mp ht with ht | ht
    · exact (List.pairwise_append.mp htake).2.2 t ht last (List.mem_singleton_self _)
    · exact .inr (by rw [List.mem_singleton.mp ht])
  intro r hr hrk
  exact hlast (keyLe_antisymm htl (hrk ▸ hcross last (by simp) r hr))

/-- `list_keys` with no delimiter, on any result of its query: `truncated`
    says the query filled its `max_keys + 1` rows, and `key_data` is the
    listing of the first `max_keys` rows, in ascending key order, each key
    once.  That listing agrees with the listing of the whole result on
    every key of the page but perhaps its last, and is the whole listing
    when the page is not truncated. -/
theorem listKeys_page (rows : List KeysEntry) (maxKeys : Nat) (keyPrefix : String)
    (hsorted : rows.Pairwise fun r r' => listOrder r.key r'.key r.timestamp r'.timestamp = true)
    (hlen : rows.length ≤ maxKeys + 1) :
    listKeysOfRows rows maxKeys keyPrefix "" =
      .keyData (refListing [] (rows.take maxKeys)) (rows.length == maxKeys + 1) ∧
    (refListing [] (rows.take maxKeys)).Pairwise (fun a b => keyLt a.key b.key = true) ∧
    (∀ k ∈ (rows.take maxKeys).map (·.key), some k ≠ (rows.take maxKeys).getLast?.map (·.key) →
      (refListing [] (rows.take maxKeys)).filter (·.key == k) = (refListing [] rows).filter (·.key == k)) ∧
    (rows.length ≠ maxKeys + 1 →
      listKeysOfRows rows maxKeys keyPrefix "" = .keyData (refListing [] rows) false) := by
  have hkeys : rows.Pairwise fun r r' => keyLe r.key r'.key := hsorted.imp listOrder_keyLe
  have htake : (rows.take maxKeys).Pairwise fun r r' => keyLe r.key r'.key :=
    (List.pairwise_append.mp (List.take_append_drop maxKeys rows ▸ hkeys)).1
  have hloop : keysLoop none (rows.take maxKeys) = refListing [] (rows.take maxKeys) :=
    keysLoop_eq_refListing htake (by simp) (by simp) (by simp)
  have hpage : listKeysOfRows rows maxKeys keyPrefix "" =
      .keyData (refListing [] (rows.take maxKeys)) (rows.length == maxKeys + 1) := by
    simp [listKeysOfRows, finish, hloop]
  refine ⟨hpage, refListing_pairwise htake [], fun k hk hlast => ?_, fun hne => ?_⟩
  · have hnone : (rows.drop maxKeys).filter (·.key == k) = [] :=
      List.filter_eq_nil_iff.mpr fun r hr => by simpa using key_not_after_page hkeys hk hlast r hr
    conv_rhs => rw [← List.take_append_drop maxKeys rows]
    rw [filter_refListing, filter_refListing, List.filter_append, hnone, List.append_nil]
  · rw [hpage, List.take_of_length_le (by omega)]
    simp [hne]

/-- The rows the `list_keys` query returns are in its order, and no more
    than it asked for: the results `listKeys_page` is about. -/
theorem listKeysQuery_sorted (segments : List SegmentRow) (conjoined : List ConjoinedRow)
    (collectionId : Int) (keyPrefix marker : String) (requestCount : Nat) :
    (listKeysQuery segments conjoined collectionId keyPrefix marker requestCount).Pairwise
        (fun r r' => listOrder r.key r'.key r.timestamp r'.timestamp = true) ∧
      (listKeysQuery segments conjoined collectionId keyPrefix marker requestCount).length ≤
        requestCount := by
  have hsort : ∀ l : List KeysEntry,
      (l.mergeSort fun r r' => listOrder r.key r'.key r.timestamp r'.timestamp).Pairwise
        (fun r r' => listOrder r.key r'.key r.timestamp r'.timestamp = true) :=
    List.sorted_mergeSort (fun _ _ _ => listOrder_trans)
      (fun a b => listOrder_total a.key b.key a.timestamp b.timestamp)
  exact ⟨(hsort _).sublist (List.take_sublist _ _), List.length_take_le _ _⟩

/-- Every row of the `list_keys` query passes its `where` clause. -/
theorem mem_listKeysQuery {segments : List SegmentRow} {conjoined : List ConjoinedRow}
    {collectionId : Int} {keyPrefix marker : String} {requestCount : Nat} {r : KeysEntry}
    (h : r ∈ listKeysQuery segments conjoined collectionId keyPrefix marker requestCount) :
    ∃ row ∈ rightJoin conjoined segments, listed collectionId keyPrefix marker row = true ∧
      r = ⟨row.2.key, row.2.unifiedId, row.2.status, row.2.timestamp⟩ := by
  obtain ⟨row, hrow, rfl⟩ := List.mem_map.mp (List.mem_mergeSort.mp (List.mem_of_mem_take h))
  exact ⟨row, (List.mem_filter.mp hrow).1, (List.mem_filter.mp hrow).2, rfl⟩

/-- `list_keys` on any tables, with no delimiter: each key at most once, in
    ascending order, and each item a final segment row of the collection,
    not handed off, whose key passes the prefix and marker conditions. -/
theorem listKeys_lists_final_rows_once (segments : List SegmentRow) (conjoined : List ConjoinedRow)
    (collectionId : Int) (keyPrefix : String) (maxKeys : Nat) (marker : String) :
    ∃ keyList truncated,
      listKeys segments conjoined collectionId keyPrefix maxKeys "" marker = .keyData keyList truncated ∧
      keyList.Pairwise (fun a b => keyLt a.key b.key = true) ∧
      ∀ e ∈ keyList, ∃ row ∈ segments, row.collectionId = collectionId ∧ row.handoffNodeId = none ∧
        row.status = .final ∧ keyCondition keyPrefix marker row.key = true ∧
        e = ⟨row.key, row.unifiedId, row.timestamp.repr⟩ := by
  have hkeys := ((listKeysQuery_sorted segments conjoined collectionId keyPrefix marker
    (maxKeys + 1)).1.imp listOrder_keyLe).sublist (List.take_sublist maxKeys _)
  have hloop : keysLoop none ((listKeysQuery segments conjoined collectionId keyPrefix marker
      (maxKeys + 1)).take maxKeys) = refListing [] ((listKeysQuery segments conjoined collectionId
      keyPrefix marker (maxKeys + 1)).take maxKeys) :=
    keysLoop_eq_refListing hkeys (by simp) (by simp) (by simp)
  refine ⟨_, _, rfl, ?_, fun e he => ?_⟩
  · rw [hloop]
    exact refListing_pairwise hkeys []
  · rw [hloop] at he
    obtain ⟨r, hr, hfinal, rfl, -⟩ := mem_refListing he
    obtain ⟨row, hrow, hlisted, rfl⟩ := mem_listKeysQuery (List.mem_of_mem_take hr)
    simp only [listed, Bool.and_eq_true, beq_iff_eq, Option.isNone_iff_eq_none] at hlisted
    exact ⟨row.2, mem_rightJoin hrow, hlisted.1.1.2, hlisted.1.2, hfinal, hlisted.2, rfl⟩

/-- Five rows, newest first per key: `a` active then final, `b` deleted
    then final, `c` final.  A page of four leaves out `c` and is truncated. -/
def pageRows : List KeysEntry :=
  [⟨"a", 3, .active, secondsAfterNoon 3⟩, ⟨"a", 2, .final, secondsAfterNoon 2⟩,
   ⟨"b", 5, .tombstone, secondsAfterNoon 5⟩, ⟨"b", 1, .final, secondsAfterNoon 1⟩,
   ⟨"c", 4, .final, secondsAfterNoon 4⟩]

theorem pageRows_listed :
    listKeysOfRows pageRows 4 "" "" =
      .keyData (refListing [] (pageRows.take 4)) (pageRows.length == 4 + 1) ∧
    refListing [] (pageRows.take 4) = [⟨"a", 2, (secondsAfterNoon 2).repr⟩] :=
  ⟨(listKeys_page pageRows 4 "" (by decide) (by decide)).1, by decide⟩

end WebServer
end NimbusIo
