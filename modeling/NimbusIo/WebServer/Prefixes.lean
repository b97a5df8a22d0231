/-
  NimbusIo.WebServer.Prefixes

  What a prefix selects and what a delimiter cuts, in `list_keys` and
  `list_versions`.

  Both queries pass `"%s%%" % prefix` to `like` as it is, so the prefix is
  a pattern: `_` in it stands for any one character of the key, `%` for
  any run, and `\` makes the next character literal.  For a prefix with
  no `%` and no `\` a key passes when its first characters match the
  prefix with each `_` a wildcard; only a prefix with none of the three
  selects exactly the keys that begin with it.

  With a delimiter, `key[:delimiter_pos+1]` keeps one character of the
  delimiter, and `delimiter_pos > 0` drops a delimiter found at position
  0.  The prefixes are those the listing describes when the delimiter is
  one character and the prefix is not empty; a longer delimiter is cut
  after its first character.
-/
import Mathlib.Data.List.Forall2
import NimbusIo.WebServer.ListMatcher

namespace NimbusIo
namespace WebServer

-- ============================================================================
-- The prefix as a `like` pattern
-- ============================================================================

/-- `c` stands for `d` in a pattern with no `%` and no `\`. -/
def wildcardMatch (c d : Char) : Prop := c = '_' ∨ c = d

theorem anySuffix_iff {f : List Char → Bool} {s : List Char} :
    anySuffix f s = true ↔ ∃ t u, s = t ++ u ∧ f u = true := by
  induction s with
  | nil => simp [anySuffix, and_assoc]
  | cons c s ih =>
    simp only [anySuffix, Bool.or_eq_true, ih, List.cons_eq_append_iff]
    constructor
    · rintro (h | ⟨t, u, rfl, hu⟩)
      · exact ⟨[], c :: s, .inl ⟨rfl, rfl⟩, h⟩
      · exact ⟨c :: t, u, .inr ⟨t, rfl, rfl⟩, hu⟩
    · rintro ⟨t, u, ⟨rfl, rfl⟩ | ⟨t', rfl, rfl⟩, hu⟩
      · exact .inl hu
      · exact .inr ⟨t', u, rfl, hu⟩

/-- A pattern with no `%` and no `\`, followed by `%`, matches the strings
    that begin with a run it matches character by character. -/
theorem likeMatch_append_percent {p : List Char} (hp : '%' ∉ p ∧ '\\' ∉ p) (s : List Char) :
    likeMatch (p ++ ['%']) s = true ↔ ∃ t u, s = t ++ u ∧ List.Forall₂ wildcardMatch p t := by
  induction p generalizing s with
  | nil =>
    simp only [List.nil_append, likeMatch, anySuffix_iff, List.forall₂_nil_left_iff]
    exact ⟨fun _ => ⟨[], s, rfl, rfl⟩, fun _ => ⟨s, [], by simp, rfl⟩⟩
  | cons c p ih =>
    simp only [List.mem_cons, not_or] at hp
    have hrest := ih ⟨hp.1.2, hp.2.2⟩
    have hpc : c ≠ '%' := fun h => hp.1.1 h.symm
    have hbc : c ≠ '\\' := fun h => hp.2.1 h.symm
    cases s with
    | nil => simp [likeMatch_cons_nil hpc]
    | cons d s =>
      have hstep : likeMatch (c :: (p ++ ['%'])) (d :: s) = true ↔
          wildcardMatch c d ∧ likeMatch (p ++ ['%']) s = true := by
        by_cases hu : c = '_'
        · subst hu; simp [likeMatch, wildcardMatch]
        · simp [likeMatch_literal ⟨hpc, hu, hbc⟩, wildcardMatch, hu]
      rw [List.cons_append, hstep, hrest]
      constructor
      · rintro ⟨hcd, t, u, rfl, ht⟩
        exact ⟨d :: t, u, rfl, .cons hcd ht⟩
      · rintro ⟨t, u, h, ht⟩
        obtain ⟨d', t', hcd, ht', rfl⟩ := List.forall₂_cons_left_iff.mp ht
        obtain ⟨rfl, rfl⟩ := List.cons_eq_cons.mp h
        exact ⟨hcd, t', u, rfl, ht'⟩

/-- With no `_` either, matching character by character is equality. -/
theorem forall₂_wildcardMatch_iff {p t : List Char} (hp : '_' ∉ p) :
    List.Forall₂ wildcardMatch p t ↔ p = t := by
  induction p generalizing t with
  | nil => simp [eq_comm]
  | cons c p ih =>
    simp only [List.mem_cons, not_or] at hp
    cases t with
    | nil => simp
    | cons d t =>
      have hu : c ≠ '_' := fun h => hp.1 h.symm
      simp [wildcardMatch, hu, ih hp.2]

/-- The prefix and marker conditions of both queries, for a prefix with no
    `%` and no `\`: a key passes when it is greater than the marker and
    its first characters match the prefix with each `_` standing for any
    character; when the prefix has no `_` either, exactly when it begins
    with the prefix. -/
theorem keyCondition_prefix_is_like_pattern (keyPrefix marker key : String)
    (hmeta : '%' ∉ keyPrefix.data ∧ '\\' ∉ keyPrefix.data) :
    (keyCondition keyPrefix marker key = true ↔
      (∃ t u, key.data = t ++ u ∧ List.Forall₂ wildcardMatch keyPrefix.data t) ∧
        keyLt marker key = true) ∧
    ('_' ∉ keyPrefix.data →
      (keyCondition keyPrefix marker key = true ↔
        keyPrefix.data <+: key.data ∧ keyLt marker key = true)) := by
  have hcond : keyCondition keyPrefix marker key = true ↔
      (∃ t u, key.data = t ++ u ∧ List.Forall₂ wildcardMatch keyPrefix.data t) ∧
        keyLt marker key = true := by
    rw [keyCondition, Bool.and_eq_true, likeMatch_append_percent hmeta]
  refine ⟨hcond, fun hu => ?_⟩
  rw [hcond]
  simp only [forall₂_wildcardMatch_iff hu]
  constructor
  · rintro ⟨⟨t, u, h, rfl⟩, hlt⟩
    exact ⟨⟨u, h.symm⟩, hlt⟩
  · rintro ⟨⟨u, h⟩, hlt⟩
    exact ⟨⟨_, u, h.symm, rfl⟩, hlt⟩

theorem underscorePrefix_lists_foreign_key :
    keyCondition "a_" "" "abc" = true ∧ ¬ "a_".data <+: "abc".data ∧
    keyCondition "a\\" "" "a\\b" = false :=
  ⟨(keyCondition_prefix_is_like_pattern "a_" "" "abc" (by decide)).1.mpr
      ⟨⟨"ab".data, "c".data, rfl, .cons (.inr rfl) (.cons (.inl rfl) .nil)⟩, by decide⟩,
    by decide, by decide⟩

-- ============================================================================
-- The delimiter prefixes
-- ============================================================================

/-- `str.find` from `start` finds nothing before `start`. -/
theorem pyFind_ge {s sub : List Char} {start i : Nat} (h : pyFind s sub start = i) : start ≤ i := by
  unfold pyFind at h
  split at h
  · split at h <;> omega
  · omega

theorem mem_addDelimiterPrefix {keyPrefix delimiter x : String} {prefixSet : List String}
    {keyEntry : KeyData} :
    x ∈ addDelimiterPrefix keyPrefix delimiter prefixSet keyEntry ↔ x ∈ prefixSet ∨
      ∃ i : Nat, 0 < i ∧ pyFind keyEntry.key.data delimiter.data keyPrefix.length = i ∧
        x.data = keyEntry.key.data.take (i + 1) := by
  have hx : ∀ l : List Char, x = ⟨l⟩ ↔ x.data = l := fun l => ⟨fun h => by rw [h], fun h => by subst h; rfl⟩
  dsimp only [addDelimiterPrefix]
  split
  · rename_i hpos
    rw [mem_setAdd, hx]
    refine or_congr_right ⟨fun h => ⟨_, by omega, (Int.toNat_of_nonneg hpos.le).symm, h⟩, ?_⟩
    rintro ⟨i, -, hi, h⟩
    rw [hi, Int.toNat_ofNat]
    exact h
  · rename_i hpos
    refine (or_iff_left ?_).symm
    rintro ⟨i, hi, heq, -⟩
    omega

theorem mem_foldl_addDelimiterPrefix (keyPrefix delimiter x : String) (keyList : List KeyData)
    (prefixSet : List String) :
    x ∈ keyList.foldl (addDelimiterPrefix keyPrefix delimiter) prefixSet ↔ x ∈ prefixSet ∨
      ∃ e ∈ keyList, ∃ i : Nat, 0 < i ∧ pyFind e.key.data delimiter.data keyPrefix.length = i ∧
        x.data = e.key.data.take (i + 1) := by
  induction keyList generalizing prefixSet with
  | nil => simp
  | cons e keyList ih => simp only [List.foldl_cons, ih, mem_addDelimiterPrefix, List.mem_cons,
      exists_eq_or_imp, or_assoc]

theorem nodup_foldl_addDelimiterPrefix (keyPrefix delimiter : String) (keyList : List KeyData)
    {prefixSet : List String} (h : prefixSet.Nodup) :
    (keyList.foldl (addDelimiterPrefix keyPrefix delimiter) prefixSet).Nodup := by
  induction keyList generalizing prefixSet with
  | nil => exact h
  | cons e keyList ih =>
    refine ih ?_
    dsimp only [addDelimiterPrefix]
    split
    · exact nodup_setAdd h _
    · exact h

/-- The prefixes `list_keys` and `list_versions` return with a delimiter:
    no prefix twice, and for each listed key in which the delimiter is
    found at a positive position `i` from `len(prefix)` on, the key's first
    `i + 1` characters: one character of the delimiter.  For a delimiter of
    one character and a non-empty prefix these are the keys cut after the
    whole delimiter. -/
theorem delimiterPrefixes_cut_after_first_char (keyPrefix delimiter : String)
    (keyList : List KeyData) :
    (delimiterPrefixes keyPrefix delimiter keyList).Nodup ∧
    (∀ x, x ∈ delimiterPrefixes keyPrefix delimiter keyList ↔
      ∃ e ∈ keyList, ∃ i : Nat, 0 < i ∧
        pyFind e.key.data delimiter.data keyPrefix.length = i ∧ x.data = e.key.data.take (i + 1)) ∧
    (delimiter.length = 1 → keyPrefix ≠ "" →
      ∀ x, x ∈ delimiterPrefixes keyPrefix delimiter keyList ↔
        ∃ e ∈ keyList, ∃ i : Nat, pyFind e.key.data delimiter.data keyPrefix.length = i ∧
          x.data = e.key.data.take (i + delimiter.length)) := by
  have hmem : ∀ x, x ∈ delimiterPrefixes keyPrefix delimiter keyList ↔
      ∃ e ∈ keyList, ∃ i : Nat, 0 < i ∧
        pyFind e.key.data delimiter.data keyPrefix.length = i ∧ x.data = e.key.data.take (i + 1) :=
    fun x => by simp [delimiterPrefixes, mem_foldl_addDelimiterPrefix]
  refine ⟨nodup_foldl_addDelimiterPrefix _ _ _ List.nodup_nil, hmem, fun hd hp x => ?_⟩
  have hlen : 0 < keyPrefix.length := by
    rcases keyPrefix with ⟨_ | _⟩
    · exact absurd rfl hp
    · simp [String.length]
  rw [hmem, hd]
  refine exists_congr fun e => and_congr_right fun _ => exists_congr fun i => ?_
  exact ⟨fun ⟨_, h⟩ => h, fun h => ⟨Nat.lt_of_lt_of_le hlen (pyFind_ge h.1), h⟩⟩

theorem delimiter_cut_short :
    delimiterPrefixes "a" "//" [⟨"a//b", 1, "t"⟩] = ["a/"] ∧ pyFind "a//b".data "//".data 1 = 1 ∧
    delimiterPrefixes "" "/" [⟨"/a", 1, "t"⟩] = [] ∧ pyFind "/a".data "/".data 0 = 0 := by
  decide

end WebServer
end NimbusIo
