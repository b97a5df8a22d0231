/-
  NimbusIo.WebServer.ListMatcher

  `web_server/listmatcher.py`: `list_keys` and `list_versions`.  Each asks
  the node's database for the segment rows of a collection whose key is
  `like` the prefix followed by `%` and greater than the marker, ordered
  by key and newest first, at most `max_keys + 1` of them; a loop over the
  first `max_keys` picks what to list; with a delimiter, the listed keys
  are cut after the delimiter's position into a set of prefixes.

  The database is a parameter: the segment table, the conjoined table it
  is joined with, and the order of rows whose key and timestamp tie
  (`mergeSort` is stable, so it keeps the table's order).  Keys compare by
  code point, as in the consistency query.  `max_keys` is a `Nat`, so two
  cases are left out: `max_keys = -1` asks for `LIMIT 0` and gives an empty
  page marked truncated (`0 == 0`), and a smaller one makes the query fail,
  since `LIMIT` must not be negative.
-/
import NimbusIo.AntiEntropy.Server

namespace NimbusIo
namespace WebServer

-- ============================================================================
-- Rows and results
-- ============================================================================

/-- A row of `nimbusio_node.conjoined`, with the columns the queries read. -/
structure ConjoinedRow where
  unifiedId : Int
  createTimestamp : Option Timestamp
  completeTimestamp : Option Timestamp
  deriving DecidableEq, Repr

/-- `_keys_entry`: a row of the `list_keys` query. -/
structure KeysEntry where
  key : String
  unifiedId : Int
  status : SegmentStatus
  timestamp : Timestamp
  deriving DecidableEq, Repr

/-- `_versions_entry`: a row of the `list_versions` query. -/
structure VersionsEntry where
  key : String
  unifiedId : Int
  status : SegmentStatus
  timestamp : Timestamp
  fileTombstoneUnifiedId : Option Int
  deriving DecidableEq, Repr

/-- One item of `key_data`: `{"key", "version_identifier", "timestamp_repr"}`. -/
structure KeyData where
  key : String
  versionIdentifier : Int
  timestampRepr : String
  deriving DecidableEq, Repr

/-- What `list_keys` and `list_versions` return: `key_data` without a
    delimiter, `prefixes` with one; `truncated` either way. -/
inductive Listing where
  | keyData (keyList : List KeyData) (truncated : Bool)
  | prefixes (prefixes : List String) (truncated : Bool)
  deriving DecidableEq, Repr

/-- The item a row is listed as. -/
def KeysEntry.keyData (row : KeysEntry) : KeyData := ⟨row.key, row.unifiedId, row.timestamp.repr⟩

/-- The item a row is listed as. -/
def VersionsEntry.keyData (row : VersionsEntry) : KeyData :=
  ⟨row.key, row.unifiedId, row.timestamp.repr⟩

-- ============================================================================
-- The query
-- ============================================================================

/-- `key < key'` in the database: by code point. -/
def keyLt (key key' : String) : Bool :=
  AntiEntropy.lexLt (key.data.map Char.toNat) (key'.data.map Char.toNat)

/-- `order by seg.key asc, seg.timestamp desc`: a row of `key` and `t` may
    come before one of `key'` and `t'`. -/
def listOrder (key key' : String) (t t' : Timestamp) : Bool :=
  keyLt key key' || (key == key' && !AntiEntropy.lexLt t.fields t'.fields)

/-- `key ≤ key'` in the database. -/
def keyLe (key key' : String) : Prop := keyLt key key' = true ∨ key = key'

theorem keyLt_irrefl (key : String) : keyLt key key = false := AntiEntropy.lexLt_irrefl _

theorem keyLe_antisymm {a b : String} (hab : keyLe a b) (hba : keyLe b a) : a = b := by
  rcases hab with hab | rfl
  · rcases hba with hba | rfl
    · simp [keyLt, AntiEntropy.lexLt_asymm hab] at hba
    · rfl
  · rfl

/-- Keys with the same code points are the same key. -/
theorem eq_of_codePoints_eq {a b : String} (h : a.data.map Char.toNat = b.data.map Char.toNat) :
    a = b := by
  have hinj : Function.Injective Char.toNat := fun c d hcd => by
    rw [← Char.ofNat_toNat c, ← Char.ofNat_toNat d, hcd]
  cases a
  cases b
  exact congrArg String.mk ((List.map_injective_iff.mpr hinj) h)

theorem listOrder_keyLe {key key' : String} {t t' : Timestamp} (h : listOrder key key' t t' = true) :
    keyLe key key' := by
  unfold listOrder at h
  simp only [Bool.or_eq_true, Bool.and_eq_true, beq_iff_eq] at h
  exact h.imp id (·.1)

theorem listOrder_trans {k₁ k₂ k₃ : String} {t₁ t₂ t₃ : Timestamp}
    (h₁₂ : listOrder k₁ k₂ t₁ t₂ = true) (h₂₃ : listOrder k₂ k₃ t₂ t₃ = true) :
    listOrder k₁ k₃ t₁ t₃ = true := by
  simp only [listOrder, keyLt, Bool.or_eq_true, Bool.and_eq_true, beq_iff_eq, Bool.not_eq_true']
    at h₁₂ h₂₃ ⊢
  rcases h₁₂ with h₁₂ | ⟨rfl, h₁₂⟩ <;> rcases h₂₃ with h₂₃ | ⟨rfl, h₂₃⟩
  · exact .inl (AntiEntropy.lexLt_trans h₁₂ h₂₃)
  · exact .inl h₁₂
  · exact .inl h₂₃
  · refine .inr ⟨rfl, ?_⟩
    cases h : AntiEntropy.lexLt t₁.fields t₃.fields
    · rfl
    · rcases eq_or_ne t₁.fields t₂.fields with e | e
      · rw [e] at h; simp [h] at h₂₃
      · rcases AntiEntropy.lexLt_total e with h' | h'
        · simp [h'] at h₁₂
        · simp [AntiEntropy.lexLt_trans h' h] at h₂₃

theorem listOrder_total (k k' : String) (t t' : Timestamp) :
    (listOrder k k' t t' || listOrder k' k t' t) = true := by
  rcases eq_or_ne k k' with rfl | hk
  · cases h : AntiEntropy.lexLt t.fields t'.fields <;>
      simp [listOrder, h, AntiEntropy.lexLt_asymm]
  · have hcp : k.data.map Char.toNat ≠ k'.data.map Char.toNat := fun e => hk (eq_of_codePoints_eq e)
    rcases AntiEntropy.lexLt_total hcp with h | h <;> simp [listOrder, keyLt, h]

/-- Is some suffix of `s` accepted by `f`? -/
def anySuffix (f : List Char → Bool) : List Char → Bool
  | [] => f []
  | c :: s => f (c :: s) || anySuffix f s

/-- `s like pattern` in PostgreSQL: `%` stands for any run of characters,
    `_` for any one, and `\` makes the next character literal.  (A pattern
    may not end in a lone `\`; the patterns here end in `%`.) -/
def likeMatch : List Char → List Char → Bool
  | [], s => s.isEmpty
  | '%' :: p, s => anySuffix (likeMatch p) s
  | '_' :: p, s =>
    match s with
    | [] => false
    | _ :: s => likeMatch p s
  | '\\' :: c :: p, s =>
    match s with
    | [] => false
    | c' :: s => c == c' && likeMatch p s
  | c :: p, s =>
    match s with
    | [] => false
    | c' :: s => c == c' && likeMatch p s

/-- Only a pattern that starts with `%` matches the empty string at its start. -/
theorem likeMatch_cons_nil {c : Char} (hc : c ≠ '%') (p : List Char) : likeMatch (c :: p) [] = false := by
  unfold likeMatch
  split <;> first | rfl | simp_all

/-- A character other than `%`, `_` and `\` matches itself alone. -/
theorem likeMatch_literal {c : Char} (hc : c ≠ '%' ∧ c ≠ '_' ∧ c ≠ '\\') (p : List Char) (d : Char)
    (s : List Char) : likeMatch (c :: p) (d :: s) = (c == d && likeMatch p s) := by
  rw [likeMatch.eq_def]
  split <;> simp_all

/-- `seg.key like %s and seg.key > %s` with `"%s%%" % prefix` and the
    marker, the conditions both queries put on the key. -/
def keyCondition (keyPrefix marker : String) (key : String) : Bool :=
  likeMatch (keyPrefix.data ++ ['%']) key.data && keyLt marker key

/-- `conjoined con right join segment seg on con.unified_id =
    seg.unified_id`: each segment row with each conjoined row of its
    `unified_id`, or with nulls when there is none. -/
def rightJoin (conjoined : List ConjoinedRow) (segments : List SegmentRow) :
    List (Option ConjoinedRow × SegmentRow) :=
  segments.flatMap fun seg =>
    match conjoined.filter (·.unifiedId == seg.unifiedId) with
    | [] => [(none, seg)]
    | cs => cs.map fun c => (some c, seg)

/-- Each row of the join carries a segment row of the table. -/
theorem mem_rightJoin {conjoined : List ConjoinedRow} {segments : List SegmentRow}
    {row : Option ConjoinedRow × SegmentRow} (h : row ∈ rightJoin conjoined segments) :
    row.2 ∈ segments := by
  obtain ⟨seg, hseg, hrow⟩ := List.mem_flatMap.mp h
  split at hrow
  · rw [List.mem_singleton.mp hrow]
    exact hseg
  · obtain ⟨_, -, rfl⟩ := List.mem_map.mp hrow
    exact hseg

/-- `con.create_timestamp is null or con.complete_timestamp is not null`. -/
def conjoinedComplete : Option ConjoinedRow → Bool
  | none => true
  | some c => c.createTimestamp.isNone || c.completeTimestamp.isSome

/-- The `where` clause both queries share, but for the version marker. -/
def listed (collectionId : Int) (keyPrefix marker : String) (row : Option ConjoinedRow × SegmentRow) :
    Bool :=
  conjoinedComplete row.1 && row.2.collectionId == collectionId && row.2.handoffNodeId.isNone &&
    keyCondition keyPrefix marker row.2.key

/-- The rows of the `list_keys` query. -/
def listKeysQuery (segments : List SegmentRow) (conjoined : List ConjoinedRow) (collectionId : Int)
    (keyPrefix marker : String) (requestCount : Nat) : List KeysEntry :=
  ((((rightJoin conjoined segments).filter (listed collectionId keyPrefix marker)).map fun row =>
      (⟨row.2.key, row.2.unifiedId, row.2.status, row.2.timestamp⟩ : KeysEntry)).mergeSort
    fun r r' => listOrder r.key r'.key r.timestamp r'.timestamp).take requestCount

/-- The rows of the `list_versions` query. -/
def listVersionsQuery (segments : List SegmentRow) (conjoined : List ConjoinedRow) (collectionId : Int)
    (keyPrefix keyMarker : String) (versionIdMarker : Int) (requestCount : Nat) : List VersionsEntry :=
  ((((rightJoin conjoined segments).filter fun row =>
      listed collectionId keyPrefix keyMarker row && decide (versionIdMarker < row.2.unifiedId)).map
    fun row => (⟨row.2.key, row.2.unifiedId, row.2.status, row.2.timestamp,
      row.2.fileTombstoneUnifiedId⟩ : VersionsEntry)).mergeSort
    fun r r' => listOrder r.key r'.key r.timestamp r'.timestamp).take requestCount

-- ============================================================================
-- The loops
-- ============================================================================

/-- The loop of `list_keys` over `result[:max_keys]`, from `prev_key`. -/
def keysLoop : Option String → List KeysEntry → List KeyData
  | _, [] => []
  | prevKey, row :: rows =>
    if some row.key = prevKey then keysLoop prevKey rows
    else if row.status = .active ∨ row.status = .cancelled then keysLoop prevKey rows
    else if row.status = .tombstone then keysLoop (some row.key) rows
    else row.keyData :: keysLoop (some row.key) rows

/-- The loop of `list_versions` over `result[:max_keys]`, from
    `tombstone_key` and `tombstone_unified_id`. -/
def versionsLoop : Option String → Option Int → List VersionsEntry → List KeyData
  | _, _, [] => []
  | tombstoneKey, tombstoneUnifiedId, row :: rows =>
    if tombstoneKey.isSome ∧ some row.key = tombstoneKey then
      versionsLoop tombstoneKey tombstoneUnifiedId rows
    else if tombstoneUnifiedId.isSome ∧ row.fileTombstoneUnifiedId = tombstoneUnifiedId then
      versionsLoop tombstoneKey none rows
    else if row.status = .tombstone then
      match row.fileTombstoneUnifiedId with
      | none => versionsLoop (some row.key) none rows
      | some u => versionsLoop none (some u) rows
    else if row.status = .active ∨ row.status = .cancelled then
      versionsLoop tombstoneKey tombstoneUnifiedId rows
    else row.keyData :: versionsLoop tombstoneKey tombstoneUnifiedId rows

/-- The first position at which `sub` starts in `s`. -/
def firstIndexOf (sub : List Char) : List Char → Option Nat
  | [] => if sub.isEmpty then some 0 else none
  | c :: s => if sub.isPrefixOf (c :: s) then some 0 else (firstIndexOf sub s).map (· + 1)

/-- `s.find(sub, start)`: the lowest index from `start` on where `sub`
    starts in `s`, or `-1`. -/
def pyFind (s sub : List Char) (start : Nat) : Int :=
  if start ≤ s.length then
    match firstIndexOf sub (s.drop start) with
    | some i => start + i
    | none => -1
  else -1

/-- `prefix_set.add(x)`. -/
def setAdd (prefixSet : List String) (x : String) : List String :=
  if x ∈ prefixSet then prefixSet else prefixSet ++ [x]

@[simp] theorem mem_setAdd {prefixSet : List String} {x y : String} :
    y ∈ setAdd prefixSet x ↔ y ∈ prefixSet ∨ y = x := by
  unfold setAdd
  split <;> simp_all [or_iff_left_of_imp]

theorem nodup_setAdd {prefixSet : List String} (h : prefixSet.Nodup) (x : String) :
    (setAdd prefixSet x).Nodup := by
  unfold setAdd
  split
  · exact h
  · exact List.nodup_append.mpr ⟨h, List.nodup_singleton x, by simp_all⟩

/-- One pass of the loop over `key_list` with a delimiter: add
    `key[:delimiter_pos+1]` when `delimiter_pos` is positive. -/
def addDelimiterPrefix (keyPrefix delimiter : String) (prefixSet : List String) (keyEntry : KeyData) :
    List String :=
  let delimiterPos := pyFind keyEntry.key.data delimiter.data keyPrefix.length
  if delimiterPos > 0 then setAdd prefixSet ⟨keyEntry.key.data.take (delimiterPos.toNat + 1)⟩
  else prefixSet

/-- The loop over `key_list` with a delimiter, from an empty `prefix_set`. -/
def delimiterPrefixes (keyPrefix delimiter : String) (keyList : List KeyData) : List String :=
  keyList.foldl (addDelimiterPrefix keyPrefix delimiter) []

/-- What both functions do with the listed items: `key_data`, or the set
    of prefixes when `delimiter` is not empty. -/
def finish (keyPrefix delimiter : String) (keyList : List KeyData) (truncated : Bool) : Listing :=
  if delimiter = "" then .keyData keyList truncated
  else .prefixes (delimiterPrefixes keyPrefix delimiter keyList) truncated

@[simp] theorem finish_keyData (keyPrefix : String) (keyList : List KeyData) (truncated : Bool) :
    finish keyPrefix "" keyList truncated = .keyData keyList truncated := rfl

/-- `list_keys` from the rows its query returned. -/
def listKeysOfRows (result : List KeysEntry) (maxKeys : Nat) (keyPrefix delimiter : String) : Listing :=
  finish keyPrefix delimiter (keysLoop none (result.take maxKeys)) (result.length == maxKeys + 1)

/-- `list_keys`. -/
def listKeys (segments : List SegmentRow) (conjoined : List ConjoinedRow) (collectionId : Int)
    (keyPrefix : String) (maxKeys : Nat) (delimiter marker : String) : Listing :=
  listKeysOfRows (listKeysQuery segments conjoined collectionId keyPrefix marker (maxKeys + 1)) maxKeys
    keyPrefix delimiter

/-- The blanks Python 2's `int` skips before a number, after its sign and
    after its digits: C's `isspace` in the "C" locale. -/
def isPySpace (c : Char) : Bool :=
  [9, 10, 11, 12, 13, 32].contains c.toNat

/-- ASCII decimal digits read after the value `acc`. -/
def digitsValue (acc : Nat) : List Char → Option Nat
  | [] => some acc
  | c :: s => if c.isDigit then digitsValue (acc * 10 + (c.toNat - '0'.toNat)) s else none

/-- A run of decimal digits that starts with a digit. -/
def unsignedValue : List Char → Option Nat
  | [] => none
  | c :: s => if c.isDigit then digitsValue (c.toNat - '0'.toNat) s else none

/-- Python 2's `int(s)` of a `str`, as `PyInt_FromString` reads it: blanks,
    an optional sign, blanks again (`PyOS_strtoul` skips them), at least one
    ASCII digit, then only blanks to the end (a `NUL` byte, a `_` or any
    other character is an error); `none` is `ValueError`.  A value past a C
    `long` is read again by `PyLong_FromString` with the same result. -/
def pyInt (s : String) : Option Int :=
  match ((s.data.dropWhile isPySpace).reverse.dropWhile isPySpace).reverse with
  | '-' :: ds => (unsignedValue (ds.dropWhile isPySpace)).map fun n => -(n : Int)
  | '+' :: ds => (unsignedValue (ds.dropWhile isPySpace)).map fun n => (n : Int)
  | ds => (unsignedValue ds).map fun n => (n : Int)

/-- `int(version_id_marker_str)`, or `0` on `ValueError`. -/
def versionIdMarker (versionIdMarkerStr : String) : Int := (pyInt versionIdMarkerStr).getD 0

-- ============================================================================
-- Numbers that `str` wrote
-- ============================================================================

/-- What `int` needs of the characters `str` writes for a number. -/
theorem decimalChar {c : Char} (hc : c ∈ "0123456789".data) :
    c.isDigit = true ∧ isPySpace c = false ∧ c ≠ '-' ∧ c ≠ '+' := by
  revert c; decide

theorem toDigits_ne_nil (n : Nat) : Nat.toDigits 10 n ≠ [] := by
  simp only [Nat.toDigits, Nat.toDigitsCore]
  split
  · exact List.cons_ne_nil _ _
  · exact List.ne_nil_of_length_pos (by rw [Nat.toDigitsCore_lens_eq]; omega)

theorem digitsValue_decimal (acc : Nat) {ds : List Char} (h : ∀ c ∈ ds, c ∈ "0123456789".data) :
    digitsValue acc ds = some (readDigits acc ds) := by
  induction ds generalizing acc with
  | nil => rfl
  | cons c ds ih =>
    rw [digitsValue, if_pos (decimalChar (h c (List.mem_cons_self _ _))).1,
      ih _ (List.forall_mem_cons.mp h).2]
    simp only [readDigits, List.foldl_cons, Nat.mul_comm acc 10]
    rfl

/-- `int` skips no character of a run that has no blank. -/
theorem dropWhile_of_no_space {l : List Char} (h : ∀ c ∈ l, isPySpace c = false) :
    l.dropWhile isPySpace = l := by
  cases l with
  | nil => rfl
  | cons c l => exact List.dropWhile_cons_of_neg (by simp [(List.forall_mem_cons.mp h).1])

theorem strip_of_no_space {l : List Char} (h : ∀ c ∈ l, isPySpace c = false) :
    ((l.dropWhile isPySpace).reverse.dropWhile isPySpace).reverse = l := by
  rw [dropWhile_of_no_space h, dropWhile_of_no_space (by simpa using h), List.reverse_reverse]

theorem unsignedValue_toDigits (n : Nat) : unsignedValue (Nat.toDigits 10 n) = some n := by
  have hdec : ∀ c ∈ Nat.toDigits 10 n, c ∈ "0123456789".data := fun c => mem_toDigitsCore (by simp)
  obtain ⟨c, s, hcs⟩ := List.exists_cons_of_ne_nil (toDigits_ne_nil n)
  rw [hcs] at hdec ⊢
  have hread := readDigits_toDigitsCore (n + 1) n [] (Nat.lt_succ_self n)
  rw [← Nat.toDigits, hcs] at hread
  rw [unsignedValue.eq_2, if_pos (decimalChar (List.forall_mem_cons.mp hdec).1).1,
    digitsValue_decimal _ (List.forall_mem_cons.mp hdec).2]
  simpa [readDigits] using hread

/-- `int(str(v)) == v`: a marker that `str` wrote for a version is read
    back as that version, never as `ValueError`. -/
theorem pyInt_toString (v : Int) : pyInt (toString v) = some v := by
  have hdec : ∀ n, ∀ c ∈ Nat.toDigits 10 n, c.isDigit = true ∧ isPySpace c = false ∧
      c ≠ '-' ∧ c ≠ '+' := fun n c hc => decimalChar (mem_toDigitsCore (by simp) hc)
  cases v with
  | ofNat n =>
    have hdata : (toString (Int.ofNat n)).data = Nat.toDigits 10 n := rfl
    unfold pyInt
    rw [hdata, strip_of_no_space fun c hc => (hdec n c hc).2.1]
    split
    · rename_i heq; exact absurd rfl (hdec n '-' (heq ▸ List.mem_cons_self _ _)).2.2.1
    · rename_i heq; exact absurd rfl (hdec n '+' (heq ▸ List.mem_cons_self _ _)).2.2.2
    · rw [unsignedValue_toDigits]; rfl
  | negSucc m =>
    have hdata : (toString (Int.negSucc m)).data = '-' :: Nat.toDigits 10 (m + 1) := rfl
    have hspace : ∀ c ∈ Nat.toDigits 10 (m + 1), isPySpace c = false := fun c hc => (hdec _ c hc).2.1
    unfold pyInt
    rw [hdata, strip_of_no_space (List.forall_mem_cons.mpr ⟨by decide, hspace⟩)]
    simp only [dropWhile_of_no_space hspace, unsignedValue_toDigits, Option.map_some']
    rfl

theorem digitsValue_isDigit {acc n : Nat} {l : List Char} (h : digitsValue acc l = some n) :
    ∀ c ∈ l, c.isDigit = true := by
  induction l generalizing acc with
  | nil => simp
  | cons c l ih =>
    rw [digitsValue] at h
    split at h
    · exact List.forall_mem_cons.mpr ⟨‹_›, ih h⟩
    · cases h

theorem unsignedValue_isDigit {n : Nat} {l : List Char} (h : unsignedValue l = some n) :
    ∀ c ∈ l, c.isDigit = true := by
  cases l with
  | nil => cases h
  | cons c l =>
    rw [unsignedValue] at h
    split at h
    · exact List.forall_mem_cons.mpr ⟨‹_›, digitsValue_isDigit h⟩
    · cases h

/-- A character of a list is skipped by `dropWhile p` or kept. -/
theorem mem_dropWhile_or {p : Char → Bool} {l : List Char} {c : Char} (h : c ∈ l) :
    p c = true ∨ c ∈ l.dropWhile p := by
  rw [← List.takeWhile_append_dropWhile p l, List.mem_append] at h
  exact h.imp List.mem_takeWhile_imp id

/-- After its sign, `int` accepts blanks, then digits. -/
theorem signed_isDigit {ds : List Char} {n : Nat} (hu : unsignedValue (ds.dropWhile isPySpace) = some n) :
    ∀ c ∈ ds, c.isDigit = true ∨ isPySpace c = true := fun _ hc =>
  (mem_dropWhile_or hc).symm.imp (unsignedValue_isDigit hu _) id

/-- What `int` accepts is made of blanks, a sign and ASCII digits only:
    `1_0`, a non-ASCII digit or any other whitespace is `ValueError`. -/
theorem pyInt_some_chars {s : String} {v : Int} (h : pyInt s = some v) :
    ∀ c ∈ s.data, c.isDigit = true ∨ isPySpace c = true ∨ c = '-' ∨ c = '+' := by
  intro c hc
  rcases mem_dropWhile_or hc with hsp | h1
  · exact .inr (.inl hsp)
  rcases mem_dropWhile_or (List.mem_reverse.mpr h1) with hsp | h2
  · exact .inr (.inl hsp)
  have hmem := List.mem_reverse.mpr h2
  unfold pyInt at h
  split at h
  next x ds heq =>
    cases hu : unsignedValue (ds.dropWhile isPySpace) with
    | none => simp [hu] at h
    | some n =>
      rcases List.mem_cons.mp (heq ▸ hmem) with rfl | hds
      · exact .inr (.inr (.inl rfl))
      · exact (signed_isDigit hu c hds).elim .inl (.inr ∘ .inl)
  next x ds heq =>
    cases hu : unsignedValue (ds.dropWhile isPySpace) with
    | none => simp [hu] at h
    | some n =>
      rcases List.mem_cons.mp (heq ▸ hmem) with rfl | hds
      · exact .inr (.inr (.inr rfl))
      · exact (signed_isDigit hu c hds).elim .inl (.inr ∘ .inl)
  next =>
    cases hu : unsignedValue ((List.dropWhile isPySpace (List.dropWhile isPySpace s.data).reverse).reverse) with
    | none => simp [hu] at h
    | some n => exact .inl (unsignedValue_isDigit hu c hmem)

example : versionIdMarker "1_0" = 0 ∧ versionIdMarker "\x1c5" = 0 ∧ versionIdMarker " - 12\n" = -12 := by
  decide

/-- `list_versions` from the rows its query returned. -/
def listVersionsOfRows (result : List VersionsEntry) (maxKeys : Nat) (keyPrefix delimiter : String) :
    Listing :=
  finish keyPrefix delimiter (versionsLoop none none (result.take maxKeys))
    (result.length == maxKeys + 1)

/-- `list_versions`. -/
def listVersions (segments : List SegmentRow) (conjoined : List ConjoinedRow) (collectionId : Int)
    (keyPrefix : String) (maxKeys : Nat) (delimiter keyMarker versionIdMarkerStr : String) : Listing :=
  listVersionsOfRows
    (listVersionsQuery segments conjoined collectionId keyPrefix keyMarker
      (versionIdMarker versionIdMarkerStr) (maxKeys + 1))
    maxKeys keyPrefix delimiter

/-- A time on the afternoon the examples are set. -/
def secondsAfterNoon (s : Nat) : Timestamp := ⟨2011, 5, 3, 12, 0, s, 0⟩

end WebServer
end NimbusIo
