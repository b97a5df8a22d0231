/-
  NimbusIo.WebServer.Paging

  Paging through `list_keys`.  A client that wants every key of a prefix
  asks for a page, and while the page is truncated asks again with the
  last key of the page as the marker.  The query's rows after a marker are
  the rows of the query with no marker whose key is past it (`mergeSort`
  is stable, so filtering commutes with it), and a page's listing is the
  listing of the rows up to its last key: the keys of the rows after the
  page are past that key, but for more rows of the last key itself, which
  the page has already decided.  So the pages, end to end, are the listing
  of every row.

  The marker can only advance through a key the page lists.  A truncated
  page that lists no key, because its rows are all of deleted keys or of
  uploads still active, leaves the client no marker to go on from.
-/
import NimbusIo.WebServer.ListKeys

namespace NimbusIo
namespace WebServer

-- ============================================================================
-- Filtering a stable sort
-- ============================================================================

section Sorting

variable {α : Type} {le : α → α → Bool}
  (trans : ∀ a b c, le a b → le b c → le a c) (total : ∀ a b, le a b || le b a)
include trans total

/-- `mergeSort` puts a new head after the elements below it and before the
    others, and keeps the order of the rest. -/
theorem mergeSort_cons_filter (a : α) (l : List α) :
    (a :: l).mergeSort le =
      (l.mergeSort le).filter (fun b => !le a b) ++ a :: (l.mergeSort le).filter (le a) ∧
    l.mergeSort le = (l.mergeSort le).filter (fun b => !le a b) ++ (l.mergeSort le).filter (le a) := by
  obtain ⟨l₁, l₂, h₁, h₂, h₃⟩ := List.mergeSort_cons trans total a l
  have hs := List.sorted_mergeSort trans total (a :: l)
  rw [h₁] at hs
  have h₄ : ∀ b ∈ l₂, le a b = true := (List.pairwise_cons.mp (List.pairwise_append.mp hs).2.1).1
  have hF : (l₁ ++ l₂).filter (fun b => !le a b) = l₁ := by
    rw [List.filter_append, List.filter_eq_self.mpr h₃,
      List.filter_eq_nil_iff.mpr fun b hb => by simp [h₄ b hb], List.append_nil]
  have hG : (l₁ ++ l₂).filter (le a) = l₂ := by
    rw [List.filter_append, List.filter_eq_self.mpr h₄,
      List.filter_eq_nil_iff.mpr fun b hb => by simpa using h₃ b hb, List.nil_append]
  rw [h₁, h₂, hF, hG]
  exact ⟨rfl, rfl⟩

/-- Filtering commutes with the stable `mergeSort`. -/
theorem filter_mergeSort (p : α → Bool) (l : List α) :
    (l.filter p).mergeSort le = (l.mergeSort le).filter p := by
  induction l with
  | nil => simp
  | cons a l ih =>
    obtain ⟨hcons, hsplit⟩ := mergeSort_cons_filter trans total a l
    rw [hcons, List.filter_append]
    by_cases hp : p a
    · rw [List.filter_cons_of_pos hp, List.filter_cons_of_pos hp,
        (mergeSort_cons_filter trans total a _).1, ih, List.filter_filter, List.filter_filter,
        List.filter_filter, List.filter_filter]
      simp only [Bool.and_comm]
    · rw [List.filter_cons_of_neg hp, List.filter_cons_of_neg hp, ih, ← List.filter_append, ← hsplit]

end Sorting

-- ============================================================================
-- The rows after a marker
-- ============================================================================

/-- The rows of the `list_keys` query, in its order, before its `limit`. -/
def keysQueryRows (segments : List SegmentRow) (conjoined : List ConjoinedRow) (collectionId : Int)
    (keyPrefix marker : String) : List KeysEntry :=
  (((rightJoin conjoined segments).filter (listed collectionId keyPrefix marker)).map fun row =>
      (⟨row.2.key, row.2.unifiedId, row.2.status, row.2.timestamp⟩ : KeysEntry)).mergeSort
    fun r r' => listOrder r.key r'.key r.timestamp r'.timestamp

theorem listKeysQuery_eq_take (segments : List SegmentRow) (conjoined : List ConjoinedRow)
    (collectionId : Int) (keyPrefix marker : String) (requestCount : Nat) :
    listKeysQuery segments conjoined collectionId keyPrefix marker requestCount =
      (keysQueryRows segments conjoined collectionId keyPrefix marker).take requestCount := rfl

theorem KeysEntry.order_trans (a b c : KeysEntry)
    (hab : listOrder a.key b.key a.timestamp b.timestamp = true)
    (hbc : listOrder b.key c.key b.timestamp c.timestamp = true) :
    listOrder a.key c.key a.timestamp c.timestamp = true :=
  listOrder_trans hab hbc

theorem KeysEntry.order_total (a b : KeysEntry) :
    (listOrder a.key b.key a.timestamp b.timestamp || listOrder b.key a.key b.timestamp a.timestamp) =
      true :=
  listOrder_total _ _ _ _

theorem keysQueryRows_sorted (segments : List SegmentRow) (conjoined : List ConjoinedRow)
    (collectionId : Int) (keyPrefix marker : String) :
    (keysQueryRows segments conjoined collectionId keyPrefix marker).Pairwise
      fun r r' => keyLe r.key r'.key :=
  (List.sorted_mergeSort KeysEntry.order_trans KeysEntry.order_total _).imp listOrder_keyLe

/-- A key past a marker is past the empty marker: it is not empty. -/
theorem keyLt_empty {marker key : String} (h : keyLt marker key = true) : keyLt "" key = true := by
  unfold keyLt at h ⊢
  cases hk : key.data.map Char.toNat with
  | nil => cases hm : marker.data.map Char.toNat <;> simp_all [AntiEntropy.lexLt]
  | cons _ _ => rfl

theorem listed_marker (collectionId : Int) (keyPrefix marker : String)
    (row : Option ConjoinedRow × SegmentRow) :
    listed collectionId keyPrefix marker row =
      (listed collectionId keyPrefix "" row && keyLt marker row.2.key) := by
  cases h : keyLt marker row.2.key
  · simp [listed, keyCondition, h]
  · simp [listed, keyCondition, h, keyLt_empty h, Bool.and_assoc]

/-- The rows after a marker are the rows of the query with no marker whose
    key is past it. -/
theorem keysQueryRows_marker (segments : List SegmentRow) (conjoined : List ConjoinedRow)
    (collectionId : Int) (keyPrefix marker : String) :
    keysQueryRows segments conjoined collectionId keyPrefix marker =
      (keysQueryRows segments conjoined collectionId keyPrefix "").filter
        fun r => keyLt marker r.key := by
  unfold keysQueryRows
  rw [← filter_mergeSort KeysEntry.order_trans KeysEntry.order_total, List.filter_map,
    List.filter_filter]
  congr 2
  exact List.filter_congr fun row _ => by
    rw [listed_marker collectionId keyPrefix marker row, Bool.and_comm]; rfl

-- ============================================================================
-- The listing across a page boundary
-- ============================================================================

theorem keyLt_trans {a b c : String} (h : keyLt a b = true) (h' : keyLt b c = true) :
    keyLt a c = true :=
  AntiEntropy.lexLt_trans h h'

theorem keyLt_of_keyLt_of_keyLe {a b c : String} (h : keyLt a b = true) (h' : keyLe b c) :
    keyLt a c = true := by
  rcases h' with h' | rfl
  · exact keyLt_trans h h'
  · exact h

theorem keyLe_of_keyLt_false {k a : String} (h : keyLt k a = false) : keyLe a k := by
  by_cases hak : a.data.map Char.toNat = k.data.map Char.toNat
  · exact .inr (eq_of_codePoints_eq hak)
  · rcases AntiEntropy.lexLt_total hak with hlt | hlt
    · exact .inl hlt
    · simp [keyLt, hlt] at h

/-- Rows sorted by key are those up to `k`, then those past it. -/
theorem filter_append_filter_keyLt {rows : List KeysEntry}
    (hrows : rows.Pairwise fun r r' => keyLe r.key r'.key) (k : String) :
    rows.filter (fun r => !keyLt k r.key) ++ rows.filter (fun r => keyLt k r.key) = rows := by
  induction rows with
  | nil => rfl
  | cons r rows ih =>
    obtain ⟨hr, hrows⟩ := List.pairwise_cons.mp hrows
    cases hk : keyLt k r.key
    · simp [hk, ih hrows]
    · have hall : ∀ r' ∈ r :: rows, keyLt k r'.key = true :=
        List.forall_mem_cons.mpr ⟨hk, fun r' h' => keyLt_of_keyLt_of_keyLe hk (hr r' h')⟩
      rw [List.filter_eq_nil_iff.mpr fun r' h' => by simp [hall r' h'], List.filter_eq_self.mpr hall,
        List.nil_append]

/-- Listing rows in two parts: the second part is listed with the keys the
    first decided seen. -/
theorem refListing_append (seen : List String) (xs ys : List KeysEntry) :
    refListing seen (xs ++ ys) =
      refListing seen xs ++ refListing ((xs.filter KeysEntry.settled).map KeysEntry.key ++ seen) ys := by
  induction xs generalizing seen with
  | nil => rfl
  | cons x xs ih =>
    by_cases hx : x.settled = true
    · by_cases hs : x.key ∈ seen
      · have hseen : refListing ((xs.filter KeysEntry.settled).map KeysEntry.key ++ seen) ys =
            refListing (((x :: xs).filter KeysEntry.settled).map KeysEntry.key ++ seen) ys :=
          refListing_congr fun r _ => by
            simp only [List.filter_cons, hx, if_true, List.map_cons, List.cons_append, List.mem_cons,
              List.mem_append]
            refine ⟨.inr, ?_⟩
            rintro (h | h)
            · rw [h]; exact .inr hs
            · exact h
        rw [List.cons_append, refListing, refListing, if_neg (by simp [hs]), if_neg (by simp [hs]), ih,
          hseen]
      · have hseen : refListing ((xs.filter KeysEntry.settled).map KeysEntry.key ++ x.key :: seen) ys =
            refListing (((x :: xs).filter KeysEntry.settled).map KeysEntry.key ++ seen) ys :=
          refListing_congr fun r _ => by
            simp only [List.filter_cons, hx, if_true, List.map_cons, List.cons_append, List.mem_cons,
              List.mem_append]
            tauto
        have hc : x.settled = true ∧ x.key ∉ seen := ⟨hx, hs⟩
        rw [List.cons_append, refListing, refListing, if_pos hc, if_pos hc, ih, hseen,
          List.append_assoc]
    · simp [refListing, hx, ih, List.filter_cons]

/-- Rows whose keys are all decided list nothing. -/
theorem refListing_of_seen {seen : List String} {rows : List KeysEntry}
    (h : ∀ r ∈ rows, r.key ∈ seen) : refListing seen rows = [] := by
  induction rows with
  | nil => rfl
  | cons r rows ih =>
    simp only [refListing, h r (List.mem_cons_self _ _), not_true_eq_false, and_false, if_false]
    exact ih fun r' h' => h r' (List.mem_cons_of_mem _ h')

/-- Rows up to `k` and rows past it list apart. -/
theorem refListing_append_keyLt (seen : List String) {k : String} {xs ys : List KeysEntry}
    (hxs : ∀ r ∈ xs, keyLt k r.key = false) (hys : ∀ r ∈ ys, keyLt k r.key = true) :
    refListing seen (xs ++ ys) = refListing seen xs ++ refListing seen ys := by
  rw [refListing_append]
  congr 1
  refine refListing_congr fun r hr => ⟨fun h => ?_, fun h => List.mem_append_right _ h⟩
  rcases List.mem_append.mp h with h | h
  · obtain ⟨x, hx, hxk⟩ := List.mem_map.mp h
    have := hxs x (List.mem_filter.mp hx).1
    rw [hxk, hys r hr] at this
    cases this
  · exact h

/-- A page's listing, up to its last key `last`, and the listing of the
    rows past that key make up the listing of all the rows. -/
theorem refListing_page {rows : List KeysEntry} (hrows : rows.Pairwise fun r r' => keyLe r.key r'.key)
    (n : Nat) {last : KeyData} (hlast : (refListing [] (rows.take n)).getLast? = some last) :
    refListing [] rows =
      refListing [] (rows.take n) ++ refListing [] (rows.filter fun r => keyLt last.key r.key) := by
  have hsplit : ∀ {xs : List KeysEntry}, xs.Pairwise (fun r r' => keyLe r.key r'.key) →
      refListing [] xs = refListing [] (xs.filter fun r => !keyLt last.key r.key) ++
        refListing [] (xs.filter fun r => keyLt last.key r.key) := fun hxs => by
    conv_lhs => rw [← filter_append_filter_keyLt hxs last.key]
    exact refListing_append_keyLt [] (k := last.key) (by simp) (by simp)
  have htake := hrows.sublist (List.take_sublist n rows)
  /- The page lists nothing past its last key. -/
  have hpast : refListing [] ((rows.take n).filter fun r => keyLt last.key r.key) = [] := by
    rw [← List.getLast?_eq_none_iff]
    cases hy : (refListing [] ((rows.take n).filter fun r => keyLt last.key r.key)).getLast? with
    | none => rfl
    | some y =>
      rw [hsplit htake, List.getLast?_append, hy, Option.or_some, Option.some.injEq] at hlast
      obtain ⟨r, hr, -, rfl, -⟩ := mem_refListing (List.mem_of_getLast?_eq_some hy)
      have := (List.mem_filter.mp hr).2
      rw [← hlast, KeysEntry.keyData, keyLt_irrefl] at this
      cases this
  /- The page decided its last key at a final row. -/
  obtain ⟨t, ht, hfinal, hlt, -⟩ := mem_refListing (List.mem_of_getLast?_eq_some hlast)
  /- Rows after the page up to the last key are of that key. -/
  have hafter : ∀ r ∈ (rows.drop n).filter (fun r => !keyLt last.key r.key), r.key ∈
      (((rows.take n).filter fun r => !keyLt last.key r.key).filter KeysEntry.settled).map
        KeysEntry.key ++ [] := by
    intro r hr
    obtain ⟨hrd, hrk⟩ := List.mem_filter.mp hr
    have hcross := (List.pairwise_append.mp (List.take_append_drop n rows ▸ hrows)).2.2 t ht r hrd
    have hkey : r.key = last.key := keyLe_antisymm (keyLe_of_keyLt_false (by simpa using hrk))
      (by rw [hlt]; exact hcross)
    refine List.mem_append_left _ (List.mem_map.mpr ⟨t, ?_, by rw [hkey, hlt]; rfl⟩)
    refine List.mem_filter.mpr ⟨List.mem_filter.mpr ⟨ht, ?_⟩, by simp [KeysEntry.settled, hfinal]⟩
    simp [hlt, KeysEntry.keyData, keyLt_irrefl]
  calc refListing [] rows
      = refListing [] (rows.filter fun r => !keyLt last.key r.key) ++
          refListing [] (rows.filter fun r => keyLt last.key r.key) := hsplit hrows
    _ = refListing [] ((rows.take n).filter fun r => !keyLt last.key r.key) ++
          refListing [] (rows.filter fun r => keyLt last.key r.key) := by
        conv_lhs => rw [← List.take_append_drop n rows, List.filter_append, refListing_append,
          refListing_of_seen hafter, List.append_nil, List.take_append_drop]
    _ = refListing [] (rows.take n) ++ refListing [] (rows.filter fun r => keyLt last.key r.key) := by
        rw [hsplit htake, hpast, List.append_nil]

-- ============================================================================
-- A client paging through list_keys
-- ============================================================================

/-- Every key `list_keys` lists under a prefix: the listing of all the rows
    of its query with no marker, the page it returns when `max_keys`
    exceeds them. -/
def fullListing (segments : List SegmentRow) (conjoined : List ConjoinedRow) (collectionId : Int)
    (keyPrefix : String) : List KeyData :=
  refListing [] (keysQueryRows segments conjoined collectionId keyPrefix "")

/-- How a client's paging through `list_keys` ends: with every page read,
    at a truncated page that lists no key to go on from, or out of the
    requests it allowed itself. -/
inductive Paged where
  | listed (keyList : List KeyData)
  | stalled (keyList : List KeyData) (marker : String)
  | outOfRequests
  deriving DecidableEq, Repr

/-- A client reading every key of a prefix, with no delimiter: it asks for
    a page after `marker` and, while the page is truncated, asks again with
    the page's last key as the marker, collecting the pages' keys. -/
def pageKeys (segments : List SegmentRow) (conjoined : List ConjoinedRow) (collectionId : Int)
    (keyPrefix : String) (maxKeys : Nat) : Nat → List KeyData → String → Paged
  | 0, _, _ => .outOfRequests
  | requests + 1, collected, marker =>
    match listKeys segments conjoined collectionId keyPrefix maxKeys "" marker with
    | .keyData keyList truncated =>
      if truncated then
        match keyList.getLast? with
        | some last => pageKeys segments conjoined collectionId keyPrefix maxKeys requests
            (collected ++ keyList) last.key
        | none => .stalled collected marker
      else .listed (collected ++ keyList)
    | .prefixes .. => .outOfRequests

section Paging

variable (segments : List SegmentRow) (conjoined : List ConjoinedRow) (collectionId : Int)
  (keyPrefix : String) (maxKeys : Nat)

/-- A page of `list_keys`, with no delimiter: the listing of the first
    `max_keys` rows after the marker, truncated when there are more. -/
theorem listKeys_after_marker (marker : String) :
    listKeys segments conjoined collectionId keyPrefix maxKeys "" marker =
      .keyData (refListing [] ((keysQueryRows segments conjoined collectionId keyPrefix marker).take maxKeys))
        (maxKeys < (keysQueryRows segments conjoined collectionId keyPrefix marker).length) := by
  have hsorted := (keysQueryRows_sorted segments conjoined collectionId keyPrefix marker).sublist
    (List.take_sublist maxKeys _)
  have hloop : keysLoop none ((keysQueryRows segments conjoined collectionId keyPrefix marker).take maxKeys) =
      refListing [] ((keysQueryRows segments conjoined collectionId keyPrefix marker).take maxKeys) :=
    keysLoop_eq_refListing hsorted (by simp) (by simp) (by simp)
  simp only [listKeys, listKeysOfRows, listKeysQuery_eq_take, List.take_take,
    Nat.min_eq_left (Nat.le_succ maxKeys), finish_keyData, hloop, List.length_take]
  by_cases h : maxKeys < (keysQueryRows segments conjoined collectionId keyPrefix marker).length
  · simp [h, Nat.min_eq_left (Nat.succ_le_of_lt h)]
  · have hle : (keysQueryRows segments conjoined collectionId keyPrefix marker).length ≤ maxKeys + 1 := by
      omega
    simp only [h, decide_False, Nat.min_eq_right hle, Listing.keyData.injEq, true_and,
      beq_eq_false_iff_ne]
    omega

/-- From a marker, the pages end to end are what is left of the full
    listing, or the client stalls at a truncated page that lists nothing. -/
theorem pageKeys_from (requests : Nat) : ∀ (collected : List KeyData) (marker : String),
    collected ++ refListing [] (keysQueryRows segments conjoined collectionId keyPrefix marker) =
      fullListing segments conjoined collectionId keyPrefix →
    (keysQueryRows segments conjoined collectionId keyPrefix marker).length < requests →
    pageKeys segments conjoined collectionId keyPrefix maxKeys requests collected marker =
        .listed (fullListing segments conjoined collectionId keyPrefix) ∨
      ∃ collected' marker', pageKeys segments conjoined collectionId keyPrefix maxKeys requests
          collected marker = .stalled collected' marker' ∧
        List.IsPrefix collected' (fullListing segments conjoined collectionId keyPrefix) ∧
        listKeys segments conjoined collectionId keyPrefix maxKeys "" marker' = .keyData [] true := by
  induction requests with
  | zero => intro _ _ _ h; omega
  | succ requests ih =>
    intro collected marker hinv hlen
    have hpage := listKeys_after_marker segments conjoined collectionId keyPrefix maxKeys marker
    have hsorted := keysQueryRows_sorted segments conjoined collectionId keyPrefix marker
    set rows := keysQueryRows segments conjoined collectionId keyPrefix marker with hrows
    simp only [pageKeys, hpage]
    by_cases ht : maxKeys < rows.length
    · simp only [ht, decide_True, if_true]
      cases hl : (refListing [] (rows.take maxKeys)).getLast? with
      | none =>
        rw [List.getLast?_eq_none_iff] at hl
        exact .inr ⟨collected, marker, rfl, ⟨_, hinv⟩, by rw [hpage, hl]; simp [ht]⟩
      | some last =>
        obtain ⟨t, ht, -, hlt, -⟩ := mem_refListing (List.mem_of_getLast?_eq_some hl)
        have htrow := List.mem_of_mem_take ht
        have hkey : last.key = t.key := by rw [hlt]; rfl
        /- The page's last key is past the marker, so the rows past it are the
           rows after the next marker. -/
        have hpast : keyLt marker last.key = true := by
          rw [hrows, keysQueryRows_marker] at htrow
          rw [hkey]
          exact (List.mem_filter.mp htrow).2
        have hnext : keysQueryRows segments conjoined collectionId keyPrefix last.key =
            rows.filter fun r => keyLt last.key r.key := by
          rw [hrows, keysQueryRows_marker _ _ _ _ last.key, keysQueryRows_marker _ _ _ _ marker,
            List.filter_filter]
          exact List.filter_congr fun r _ => by
            cases h : keyLt last.key r.key
            · rfl
            · simp [h, keyLt_trans hpast h]
        have hshorter : (rows.filter fun r => keyLt last.key r.key).length < rows.length :=
          List.length_filter_lt_length_iff_exists.mpr ⟨t, htrow, by simp [hkey, keyLt_irrefl]⟩
        refine ih (collected ++ refListing [] (rows.take maxKeys)) last.key ?_ (by rw [hnext]; omega)
        rw [hnext, List.append_assoc, ← refListing_page hsorted maxKeys hl, hinv]
    · simp only [ht, decide_False, if_false]
      rw [List.take_of_length_le (by omega), hinv]
      exact .inl rfl

end Paging

/-- Paging through `list_keys` from the start, asking for no more pages
    than the query has rows: the client collects the full listing, each key
    once and in order, or it stalls at a truncated page that lists no key,
    having collected a prefix of the full listing. -/
theorem listKeys_paging (segments : List SegmentRow) (conjoined : List ConjoinedRow)
    (collectionId : Int) (keyPrefix : String) (maxKeys requests : Nat)
    (hrequests : (keysQueryRows segments conjoined collectionId keyPrefix "").length < requests) :
    pageKeys segments conjoined collectionId keyPrefix maxKeys requests [] "" =
        .listed (fullListing segments conjoined collectionId keyPrefix) ∨
      ∃ collected marker, pageKeys segments conjoined collectionId keyPrefix maxKeys requests [] "" =
          .stalled collected marker ∧
        List.IsPrefix collected (fullListing segments conjoined collectionId keyPrefix) ∧
        listKeys segments conjoined collectionId keyPrefix maxKeys "" marker = .keyData [] true :=
  pageKeys_from segments conjoined collectionId keyPrefix maxKeys requests [] "" rfl hrequests

/-- A deleted key `a` before a stored key `b`. -/
def deletedFirstRows : List SegmentRow :=
  [⟨1, "a", 2, 0, secondsAfterNoon 2, 1, .tombstone, 0, 0, none, none, none, 1⟩,
   ⟨1, "b", 1, 0, secondsAfterNoon 1, 1, .final, 10, 0, none, none, none, 1⟩]

/-- One key a page: the first page holds only the deletion of `a`, so it
    lists nothing and paging stalls there, though the full listing holds `b`. -/
theorem deletedFirst_paging :
    pageKeys deletedFirstRows [] 1 "" 1 3 [] "" = .stalled [] "" ∧
    fullListing deletedFirstRows [] 1 "" = [⟨"b", 1, (secondsAfterNoon 1).repr⟩] ∧
    (pageKeys deletedFirstRows [] 1 "" 1 3 [] "" = .listed (fullListing deletedFirstRows [] 1 "") ∨
      ∃ collected marker, pageKeys deletedFirstRows [] 1 "" 1 3 [] "" = .stalled collected marker ∧
        List.IsPrefix collected (fullListing deletedFirstRows [] 1 "") ∧
        listKeys deletedFirstRows [] 1 "" 1 "" marker = .keyData [] true) := by
  have hsorted : keysQueryRows deletedFirstRows [] 1 "" "" =
      [⟨"a", 2, .tombstone, secondsAfterNoon 2⟩, ⟨"b", 1, .final, secondsAfterNoon 1⟩] := by
    rw [keysQueryRows, List.mergeSort_of_sorted (by decide)]; decide
  refine ⟨?_, by rw [fullListing, hsorted]; decide,
    listKeys_paging deletedFirstRows [] 1 "" 1 3 (by rw [hsorted]; decide)⟩
  simp only [pageKeys, listKeys, listKeysOfRows, listKeysQuery]
  rw [List.mergeSort_of_sorted (by decide)]
  decide

end WebServer
end NimbusIo
