/-
  NimbusIo.WebServer.DataSlicer

  `web_server/data_slicer.py`: the iterator that cuts an upload into
  slices of `slice_size` bytes.  `next` fills `self.buf` from the file
  until it holds a slice; when the upload's size is known it asks for no
  more than `self.remaining` bytes and counts what it gets.

  A file-like object may return fewer bytes than it is asked for.  What
  `next` still has to hand out is the buffer followed by what it may still
  read (`pending`); each slice is the first `slice_size` bytes of it.  When
  the size is known, though, `next` stops as soon as `remaining` is 0,
  before it looks at the buffer: bytes that short reads left behind in it
  are dropped.  Without a size, or with reads that return all they are
  asked for, nothing is lost.
-/
import NimbusIo.Wire

namespace NimbusIo
namespace WebServer

/-- A file-like object: the bytes not yet read, and how many reads were made. -/
structure FileObj where
  rest : Bytes
  reads : Nat
  deriving DecidableEq, Repr

/-- `file_obj.read(n)` for a file whose `i`-th read returns at most
    `cap i + 1` bytes: a prefix of what is left, at most `n` long, and
    empty only for `n = 0` or at the end.  Any finite run of such reads
    is one of these for some `cap`. -/
def FileObj.read (cap : Nat → Nat) (f : FileObj) (n : Nat) : Bytes × FileObj :=
  let k := min (min n f.rest.length) (cap f.reads + 1)
  (f.rest.take k, ⟨f.rest.drop k, f.reads + 1⟩)

/-- A `DataSlicer` object. -/
structure DataSlicer where
  fileObj : FileObj
  sliceSize : Nat
  totalSize : Option Nat
  remaining : Option Nat
  buf : Bytes
  deriving DecidableEq, Repr

namespace DataSlicer

/-- `DataSlicer.__init__`. -/
def init (fileObj : FileObj) (sliceSize : Nat) (totalSize : Option Nat) : DataSlicer :=
  ⟨fileObj, sliceSize, totalSize, totalSize, []⟩

/-- The read at the top of the loop of `next`: at most a slice, and at
    most `remaining` bytes, counted off, when the size is known. -/
def readChunk (cap : Nat → Nat) (s : DataSlicer) : Bytes × DataSlicer :=
  if s.totalSize.isSome then
    let r := s.fileObj.read cap (min s.sliceSize (s.remaining.getD 0))
    (r.1, { s with fileObj := r.2, remaining := s.remaining.map (· - r.1.length) })
  else
    let r := s.fileObj.read cap s.sliceSize
    (r.1, { s with fileObj := r.2 })

/-- `self.buf = b`. -/
def withBuf (s : DataSlicer) (b : Bytes) : DataSlicer := { s with buf := b }

/-- The `while` loop of `next` and the return after it.  `fuel` bounds the
    turns; `next` gives one more than there are bytes left in the file. -/
def fill (cap : Nat → Nat) : Nat → DataSlicer → Option Bytes × DataSlicer
  | 0, s => (none, s)
  | fuel + 1, s =>
    if s.buf.length < s.sliceSize then
      let r := s.readChunk cap
      if r.1.isEmpty then
        if r.2.buf.isEmpty then (none, r.2) else (some r.2.buf, r.2.withBuf [])
      else fill cap fuel (r.2.withBuf (r.2.buf ++ r.1))
    else (some (s.buf.take s.sliceSize), s.withBuf (s.buf.drop s.sliceSize))

/-- `DataSlicer.next`: a slice, or `none` for `StopIteration`. -/
def next (cap : Nat → Nat) (s : DataSlicer) : Option Bytes × DataSlicer :=
  if s.totalSize.isSome && s.remaining.getD 0 == 0 then (none, s)
  else s.fill cap (s.fileObj.rest.length + 1)

/-- `for data in slicer`: the slices `next` yields before it raises
    `StopIteration`, and the slicer it leaves. -/
inductive Iterates (cap : Nat → Nat) : DataSlicer → List Bytes → DataSlicer → Prop
  | stop {s : DataSlicer} : (s.next cap).1 = none → Iterates cap s [] (s.next cap).2
  | yield {s s' t : DataSlicer} {data : Bytes} {slices : List Bytes} :
      s.next cap = (some data, s') → Iterates cap s' slices t → Iterates cap s (data :: slices) t

/-- How many bytes `next` may still read: up to `remaining` when the size
    is known, else the whole file. -/
def avail (s : DataSlicer) : Nat :=
  if s.totalSize.isSome then s.remaining.getD 0 else s.fileObj.rest.length

/-- What `next` has still to hand out: the buffer, then what it may read. -/
def pending (s : DataSlicer) : Bytes := s.buf ++ s.fileObj.rest.take s.avail

/-- `remaining` is set exactly when the size is, and never exceeds what
    the file still holds. -/
structure Bounded (s : DataSlicer) : Prop where
  remaining_isSome : s.remaining.isSome = s.totalSize.isSome
  remaining_le : ∀ r ∈ s.remaining, r ≤ s.fileObj.rest.length

/-- What holds between two calls of `next`. -/
structure Valid (s : DataSlicer) extends Bounded s : Prop where
  sliceSize_pos : 0 < s.sliceSize
  buf_lt : s.buf.length < s.sliceSize

-- ============================================================================
-- One read
-- ============================================================================

/-- The slicer after `k` more bytes were read from the file. -/
def consume (s : DataSlicer) (k : Nat) : DataSlicer :=
  { s with fileObj := ⟨s.fileObj.rest.drop k, s.fileObj.reads + 1⟩,
           remaining := s.remaining.map (· - k) }

@[simp] theorem consume_buf (s : DataSlicer) (k : Nat) : (s.consume k).buf = s.buf := rfl
@[simp] theorem consume_sliceSize (s : DataSlicer) (k : Nat) :
    (s.consume k).sliceSize = s.sliceSize := rfl
@[simp] theorem consume_totalSize (s : DataSlicer) (k : Nat) :
    (s.consume k).totalSize = s.totalSize := rfl

theorem avail_consume (s : DataSlicer) (k : Nat) : (s.consume k).avail = s.avail - k := by
  simp only [avail, consume]
  cases s.remaining <;> cases s.totalSize <;> simp

theorem Bounded.consume {s : DataSlicer} (hb : s.Bounded) (k : Nat) : (s.consume k).Bounded :=
  ⟨by simp [DataSlicer.consume, hb.remaining_isSome], fun r hr => by
    simp only [DataSlicer.consume, Option.mem_def, Option.map_eq_some'] at hr
    obtain ⟨r', hr', rfl⟩ := hr
    have := hb.remaining_le r' hr'
    simp only [DataSlicer.consume, List.length_drop]
    omega⟩

theorem pending_consume (s : DataSlicer) {k : Nat} (hk : k ≤ s.avail) :
    (s.consume k).buf ++ s.fileObj.rest.take k ++ (s.consume k).fileObj.rest.take (s.consume k).avail =
      s.pending := by
  rw [avail_consume, pending, List.append_assoc, consume_buf]
  congr 1
  conv_rhs => rw [show s.avail = k + (s.avail - k) by omega, List.take_add]
  rfl

/-- The read takes `k` bytes: at most a slice and at most what `next` may
    still read, and some unless it may read none. -/
theorem readChunk_eq (cap : Nat → Nat) {s : DataSlicer} (hb : s.Bounded) :
    ∃ k, k ≤ s.sliceSize ∧ k ≤ s.avail ∧ (0 < s.sliceSize → 0 < s.avail → 0 < k) ∧
      s.readChunk cap = (s.fileObj.rest.take k, s.consume k) := by
  unfold readChunk FileObj.read avail
  cases ht : s.totalSize with
  | none =>
    have hr : s.remaining = none := by simpa [ht] using hb.remaining_isSome
    simp only [Option.isSome_none, Bool.false_eq_true, if_false]
    refine ⟨min (min s.sliceSize s.fileObj.rest.length) (cap s.fileObj.reads + 1),
      by omega, by omega, by omega, ?_⟩
    simp only [consume, hr, ht, Option.map_none']
  | some total =>
    obtain ⟨r, hr⟩ := Option.isSome_iff_exists.mp (by simpa [ht] using hb.remaining_isSome)
    have hle := hb.remaining_le r hr
    simp only [Option.isSome_some, if_true, hr, Option.getD_some]
    obtain ⟨k, hk⟩ : ∃ k, k = min (min (min s.sliceSize r) s.fileObj.rest.length)
      (cap s.fileObj.reads + 1) := ⟨_, rfl⟩
    rw [← hk]
    have hklen : (s.fileObj.rest.take k).length = k := by rw [List.length_take]; omega
    refine ⟨k, by omega, by omega, by omega, ?_⟩
    rw [hklen]
    simp only [consume, hr, ht]

theorem avail_le {s : DataSlicer} (hb : s.Bounded) : s.avail ≤ s.fileObj.rest.length := by
  unfold avail
  split
  · obtain ⟨r, hr⟩ := Option.isSome_iff_exists.mp (hb.remaining_isSome.trans ‹_›)
    simpa [hr] using hb.remaining_le r hr
  · exact le_rfl

@[simp] theorem withBuf_buf (s : DataSlicer) (b : Bytes) : (s.withBuf b).buf = b := rfl
@[simp] theorem withBuf_fileObj (s : DataSlicer) (b : Bytes) : (s.withBuf b).fileObj = s.fileObj :=
  rfl
@[simp] theorem withBuf_sliceSize (s : DataSlicer) (b : Bytes) :
    (s.withBuf b).sliceSize = s.sliceSize := rfl
@[simp] theorem withBuf_totalSize (s : DataSlicer) (b : Bytes) :
    (s.withBuf b).totalSize = s.totalSize := rfl
@[simp] theorem avail_withBuf (s : DataSlicer) (b : Bytes) : (s.withBuf b).avail = s.avail := rfl

@[simp] theorem pending_withBuf (s : DataSlicer) (b : Bytes) :
    (s.withBuf b).pending = b ++ s.fileObj.rest.take s.avail := rfl

theorem Bounded.withBuf {s : DataSlicer} (hb : s.Bounded) (b : Bytes) : (s.withBuf b).Bounded :=
  ⟨hb.remaining_isSome, hb.remaining_le⟩

/-- A read that returns all it is asked for takes a slice, or all `next`
    may still read if that is less. -/
theorem readChunk_full {cap : Nat → Nat} {s : DataSlicer} (hb : s.Bounded)
    (hfull : ∀ i, s.sliceSize ≤ cap i + 1) :
    s.readChunk cap = (s.fileObj.rest.take (min s.sliceSize s.avail),
      s.consume (min s.sliceSize s.avail)) := by
  have hcap := hfull s.fileObj.reads
  have hal := avail_le hb
  unfold readChunk FileObj.read
  unfold avail at hal ⊢
  cases ht : s.totalSize with
  | none =>
    have hr : s.remaining = none := by simpa [ht] using hb.remaining_isSome
    simp only [ht, Option.isSome_none, Bool.false_eq_true, if_false] at hal ⊢
    rw [show min (min s.sliceSize s.fileObj.rest.length) (cap s.fileObj.reads + 1) =
      min s.sliceSize s.fileObj.rest.length by omega]
    simp only [hr, consume, ht, Option.map_none']
  | some total =>
    simp only [ht, Option.isSome_some, if_true] at hal ⊢
    rw [show min (min (min s.sliceSize (s.remaining.getD 0)) s.fileObj.rest.length)
      (cap s.fileObj.reads + 1) = min s.sliceSize (s.remaining.getD 0) by omega]
    obtain ⟨r, hr⟩ := Option.isSome_iff_exists.mp (by simpa [ht] using hb.remaining_isSome)
    have : min s.sliceSize r ≤ s.fileObj.rest.length := by simp [hr] at hal; omega
    simp only [hr, Option.getD_some, List.length_take, this, inf_of_le_left, Option.map_some',
      consume, ht]

-- ============================================================================
-- The loop
-- ============================================================================

/-- The loop of `next`, from a buffer shorter than two slices: it returns
    the first slice of what is pending, or nothing when nothing is, and
    leaves the rest pending with less than a slice in the buffer. -/
theorem fill_spec (cap : Nat → Nat) {fuel : Nat} {s : DataSlicer} (hb : s.Bounded)
    (hS : 0 < s.sliceSize) (hbuf : s.buf.length < 2 * s.sliceSize)
    (hfuel : s.fileObj.rest.length < fuel) :
    (s.fill cap fuel).1 = (if s.pending = [] then none else some (s.pending.take s.sliceSize)) ∧
    (s.fill cap fuel).2.pending = s.pending.drop s.sliceSize ∧
    (s.fill cap fuel).2.sliceSize = s.sliceSize ∧ (s.fill cap fuel).2.totalSize = s.totalSize ∧
    (s.fill cap fuel).2.Valid := by
  induction fuel generalizing s with
  | zero => omega
  | succ fuel ih =>
    by_cases hlt : s.buf.length < s.sliceSize
    · obtain ⟨k, hkS, hka, hkpos, hread⟩ := readChunk_eq cap hb
      have hpend := pending_consume s hka
      have hal := avail_le hb
      have hlen : (s.fileObj.rest.take k).length = k := by
        rw [List.length_take]; omega
      simp only [fill, hlt, if_true, hread]
      rcases Nat.eq_zero_or_pos k with rfl | hk
      · -- nothing read: `next` may read no more, and hands out the buffer
        have ha : s.avail = 0 := by
          by_contra h
          exact absurd (hkpos hS (Nat.pos_of_ne_zero h)) (lt_irrefl 0)
        have hp : s.pending = s.buf := by simp [pending, ha]
        have ha' : (s.consume 0).avail = 0 := by rw [avail_consume, ha]
        simp only [List.take_zero, List.isEmpty_nil, if_true, consume_buf]
        by_cases he : s.buf = []
        · rw [if_pos (by simp [he])]
          refine ⟨by rw [if_pos (hp.trans he)], by simp [pending, he, ha, ha'], rfl, rfl, hb.consume 0, hS,
            by simp [he]; omega⟩
        · rw [if_neg (by simpa using he)]
          refine ⟨by simp [hp, he, List.take_of_length_le hlt.le], ?_, rfl, rfl,
            (hb.consume 0).withBuf [], hS, by simp; omega⟩
          simp [hp, ha', List.drop_of_length_le hlt.le]
      · -- some bytes read: the loop goes on with them in the buffer
        have hne : (s.fileObj.rest.take k).isEmpty = false := by
          cases h : s.fileObj.rest.take k
          · simp [h] at hlen; omega
          · rfl
        have hp : ((s.consume k).withBuf (s.buf ++ s.fileObj.rest.take k)).pending = s.pending := by
          rw [pending_withBuf, ← hpend, consume_buf]
        obtain ⟨h1, h2, h3, h4, h5⟩ := ih (s := (s.consume k).withBuf (s.buf ++ s.fileObj.rest.take k))
          ((hb.consume k).withBuf _) hS
          (by simp only [List.length_append, withBuf_buf, withBuf_sliceSize, consume_sliceSize]; omega)
          (by simp [withBuf, consume]; omega)
        simp only [hne, Bool.false_eq_true, if_false, consume_buf]
        rw [hp] at h1 h2
        exact ⟨h1, h2, h3, h4, h5⟩
    · -- the buffer holds a slice already
      have hne : s.buf ≠ [] := fun h => by simp [h] at hlt; omega
      have hS' : s.sliceSize ≤ s.buf.length := by omega
      rw [fill, if_neg hlt]
      refine ⟨?_, ?_, rfl, rfl, hb.withBuf _, hS, by simp; omega⟩
      · simp [pending, hne, List.take_append_of_le_length hS']
      · simp [pending, List.drop_append_of_le_length hS']

-- ============================================================================
-- One call
-- ============================================================================

theorem next_of_stop {s : DataSlicer} (cap : Nat → Nat)
    (h : s.totalSize.isSome ∧ s.remaining.getD 0 = 0) : s.next cap = (none, s) := by
  simp [next, h.1, h.2]

/-- A call of `next` that does not stop at once runs the loop with enough
    fuel: it returns the first slice of what is pending, or stops when
    nothing is, and leaves the slicer valid with the rest pending. -/
theorem next_spec (cap : Nat → Nat) {s : DataSlicer} (hv : s.Valid)
    (h : ¬(s.totalSize.isSome ∧ s.remaining.getD 0 = 0)) :
    (s.next cap).1 = (if s.pending = [] then none else some (s.pending.take s.sliceSize)) ∧
    (s.next cap).2.pending = s.pending.drop s.sliceSize ∧
    (s.next cap).2.sliceSize = s.sliceSize ∧ (s.next cap).2.totalSize = s.totalSize ∧
    (s.next cap).2.Valid := by
  have hnext : s.next cap = s.fill cap (s.fileObj.rest.length + 1) := by
    simp only [next, Bool.and_eq_true, beq_iff_eq] at h ⊢
    rw [if_neg h]
  rw [hnext]
  exact fill_spec cap hv.toBounded hv.sliceSize_pos (by have := hv.buf_lt; omega) (by omega)

/-- The pending bytes of a slicer that stops at once are its buffer. -/
theorem pending_of_stop {s : DataSlicer} (h : s.totalSize.isSome ∧ s.remaining.getD 0 = 0) :
    s.pending = s.buf := by
  simp [pending, avail, h.1, h.2]

-- ============================================================================
-- The `for` loop
-- ============================================================================

theorem Iterates.unique {cap : Nat → Nat} {s t t' : DataSlicer} {slices slices' : List Bytes}
    (h : s.Iterates cap slices t) (h' : s.Iterates cap slices' t') : slices = slices' ∧ t = t' := by
  induction h generalizing slices' t' with
  | stop hs =>
    cases h' with
    | stop _ => exact ⟨rfl, rfl⟩
    | yield hs' _ => simp [hs'] at hs
  | yield hs _ ih =>
    cases h' with
    | stop hs' => simp [hs] at hs'
    | yield hs' hrest =>
      rw [hs] at hs'
      simp only [Prod.mk.injEq, Option.some.injEq] at hs'
      obtain ⟨rfl, rfl⟩ := hs'
      obtain ⟨rfl, rfl⟩ := ih hrest
      exact ⟨rfl, rfl⟩

theorem length_take_of_drop_ne_nil {p : Bytes} {n : Nat} (h : p.drop n ≠ []) :
    (p.take n).length = n := by
  simp only [ne_eq, List.drop_eq_nil_iff, not_le] at h
  simp only [List.length_take]
  omega

/-- From a slicer between calls the `for` loop ends.  Its slices followed
    by what is left in the buffer are the pending bytes; every slice has
    at most `slice_size` bytes and none is empty, all but the last have
    `slice_size`, and all have if any byte is left over; without a size
    none is. -/
theorem iterates_of_valid (cap : Nat → Nat) (n : Nat) {s : DataSlicer} (hv : s.Valid)
    (hn : s.pending.length < n) :
    ∃ slices t, s.Iterates cap slices t ∧ slices.flatten ++ t.buf = s.pending ∧
      t.buf.length < s.sliceSize ∧ (∀ d ∈ slices, d ≠ [] ∧ d.length ≤ s.sliceSize) ∧
      (∀ d ∈ slices.dropLast, d.length = s.sliceSize) ∧
      (t.buf ≠ [] → ∀ d ∈ slices, d.length = s.sliceSize) ∧ (s.totalSize = none → t.buf = []) := by
  induction n generalizing s with
  | zero => omega
  | succ n ih =>
    by_cases hstop : s.totalSize.isSome ∧ s.remaining.getD 0 = 0
    · -- `next` stops at once, dropping the buffer
      have hnext := next_of_stop cap hstop
      refine ⟨[], s, ?_, by simp [pending_of_stop hstop], hv.buf_lt, by simp, by simp, by simp,
        fun h => by simp [h] at hstop⟩
      have hrun := @Iterates.stop cap s (by rw [hnext])
      rwa [hnext] at hrun
    obtain ⟨h1, h2, h3, h4, h5⟩ := next_spec cap hv hstop
    by_cases hp : s.pending = []
    · -- nothing pending: `next` stops
      rw [if_pos hp] at h1
      have hbuf : (s.next cap).2.buf = [] := by
        rw [hp, List.drop_nil] at h2
        exact (List.append_eq_nil.mp (show (s.next cap).2.buf ++ _ = [] from h2)).1
      exact ⟨[], _, .stop h1, by simp [hbuf, hp], by simp [hbuf, hv.sliceSize_pos], by simp,
        by simp, by simp, fun _ => hbuf⟩
    · -- a slice, then the rest of the loop
      rw [if_neg hp] at h1
      have hS := hv.sliceSize_pos
      have hshorter : (s.next cap).2.pending.length < n := by
        rw [h2, List.length_drop]
        have := List.length_pos.mpr hp
        omega
      obtain ⟨slices, t, hrun, hflat, hbuf, hsize, hlast, hfull, hnone⟩ := ih h5 hshorter
      rw [h2] at hflat
      simp only [h3] at hbuf hsize hlast hfull
      rw [h4] at hnone
      have hnext : s.next cap = (some (s.pending.take s.sliceSize), (s.next cap).2) := by
        rw [← h1]
      have hfirst : s.pending.drop s.sliceSize ≠ [] → (s.pending.take s.sliceSize).length =
          s.sliceSize := length_take_of_drop_ne_nil
      have hrest : slices ≠ [] ∨ t.buf ≠ [] → s.pending.drop s.sliceSize ≠ [] := by
        rintro (h | h) hd <;> rw [hd] at hflat
        · obtain ⟨d, hd⟩ := List.exists_mem_of_ne_nil slices h
          exact (hsize d hd).1 (List.flatten_eq_nil_iff.mp (List.append_eq_nil.mp hflat).1 d hd)
        · exact h (List.append_eq_nil.mp hflat).2
      refine ⟨_, t, .yield hnext hrun, ?_, hbuf, ?_, ?_, ?_, hnone⟩
      · rw [List.flatten_cons, List.append_assoc, hflat, List.take_append_drop]
      · intro d hd
        rcases List.mem_cons.mp hd with rfl | hd
        · refine ⟨fun h => hp ?_, by simp⟩
          simpa [List.take_eq_nil_iff, hS.ne'] using h
        · exact hsize d hd
      · intro d hd
        cases slices with
        | nil => simp at hd
        | cons d' slices =>
          rw [List.dropLast_cons₂] at hd
          rcases List.mem_cons.mp hd with rfl | hd
          · exact hfirst (hrest (.inl (List.cons_ne_nil _ _)))
          · exact hlast d hd
      · intro ht d hd
        rcases List.mem_cons.mp hd with rfl | hd
        · exact hfirst (hrest (.inr ht))
        · exact hfull ht d hd

-- ============================================================================
-- What the slices of an upload are
-- ============================================================================

theorem valid_init (c : Bytes) {sliceSize : Nat} (hS : 0 < sliceSize) {totalSize : Option Nat}
    (htotal : ∀ T ∈ totalSize, T ≤ c.length) :
    (DataSlicer.init ⟨c, 0⟩ sliceSize totalSize).Valid :=
  ⟨⟨rfl, htotal⟩, hS, hS⟩

theorem pending_init (c : Bytes) (sliceSize : Nat) (totalSize : Option Nat) :
    (DataSlicer.init ⟨c, 0⟩ sliceSize totalSize).pending = c.take (totalSize.getD c.length) := by
  cases totalSize <;> simp [init, pending, avail]

/-- Iterating a `DataSlicer` over an upload ends, for every way the file
    may cut its reads.  The slices, followed by the bytes left in the
    buffer when it stopped, are the upload's first `total_size` bytes (all
    of it without a size).  All slices but the last have `slice_size`
    bytes and the last is not empty; fewer than `slice_size` bytes are
    left over, and any are only after full slices; without a size none
    is. -/
theorem dataSlicer_iteration (c : Bytes) {sliceSize : Nat} (hS : 0 < sliceSize)
    {totalSize : Option Nat} (htotal : ∀ T ∈ totalSize, T ≤ c.length) (cap : Nat → Nat) :
    (∃ slices t, (DataSlicer.init ⟨c, 0⟩ sliceSize totalSize).Iterates cap slices t) ∧
    ∀ slices t, (DataSlicer.init ⟨c, 0⟩ sliceSize totalSize).Iterates cap slices t →
      slices.flatten ++ t.buf = c.take (totalSize.getD c.length) ∧
      (∀ d ∈ slices.dropLast, d.length = sliceSize) ∧ (∀ d ∈ slices.getLast?, d ≠ []) ∧
      t.buf.length < sliceSize ∧ (t.buf ≠ [] → ∀ d ∈ slices, d.length = sliceSize) ∧
      (totalSize = none → t.buf = []) := by
  obtain ⟨slices, t, hrun, hflat, hbuf, hsize, hlast, hfull, hnone⟩ :=
    iterates_of_valid cap _ (valid_init c hS htotal) (Nat.lt_succ_self _)
  refine ⟨⟨slices, t, hrun⟩, fun slices' t' hrun' => ?_⟩
  obtain ⟨rfl, rfl⟩ := hrun.unique hrun'
  rw [pending_init] at hflat
  exact ⟨hflat, hlast, fun d hd => (hsize d (List.mem_of_getLast?_eq_some hd)).1, hbuf, hfull, hnone⟩

/-- Reads of at most two bytes. -/
def twoByteReads : Nat → Nat := fun _ => 1

/-- Four bytes `abcd`, slices of three, size given.  The first `next`
    reads `ab`, then `cd`, and returns `abc`; `remaining` is 0 now, so the
    second `next` stops with `d` still in the buffer. -/
theorem shortReads_lose_buffered_byte :
    (DataSlicer.init ⟨[1, 2, 3, 4], 0⟩ 3 (some 4)).Iterates twoByteReads [[1, 2, 3]]
        ⟨⟨[], 2⟩, 3, some 4, some 0, [4]⟩ ∧
      [1, 2, 3] ++ [4] = ([1, 2, 3, 4] : Bytes).take 4 ∧ ([[1, 2, 3]] : List Bytes).flatten ≠ [1, 2, 3, 4] :=
  have hrun : (DataSlicer.init ⟨[1, 2, 3, 4], 0⟩ 3 (some 4)).Iterates twoByteReads [[1, 2, 3]]
      ⟨⟨[], 2⟩, 3, some 4, some 0, [4]⟩ := .yield rfl (.stop rfl)
  ⟨hrun, ((dataSlicer_iteration [1, 2, 3, 4] (by decide) (by simp) twoByteReads).2 _ _ hrun).1,
    by decide⟩

-- ============================================================================
-- Reads that return all they are asked for
-- ============================================================================

theorem next_valid (cap : Nat → Nat) {s : DataSlicer} (hv : s.Valid) : (s.next cap).2.Valid := by
  by_cases hstop : s.totalSize.isSome ∧ s.remaining.getD 0 = 0
  · rw [next_of_stop cap hstop]; exact hv
  · exact (next_spec cap hv hstop).2.2.2.2

theorem next_sliceSize (cap : Nat → Nat) {s : DataSlicer} (hv : s.Valid) :
    (s.next cap).2.sliceSize = s.sliceSize := by
  by_cases hstop : s.totalSize.isSome ∧ s.remaining.getD 0 = 0
  · rw [next_of_stop cap hstop]
  · exact (next_spec cap hv hstop).2.2.1

/-- With reads that return all they are asked for, a call that starts
    from an empty buffer ends with an empty one: a full slice is read at
    once, and a shorter last one is followed by an empty read that hands
    it out. -/
theorem next_buf_of_fullReads {cap : Nat → Nat} {s : DataSlicer} (hv : s.Valid)
    (hfull : ∀ i, s.sliceSize ≤ cap i + 1) (hbuf : s.buf = []) : (s.next cap).2.buf = [] := by
  by_cases hstop : s.totalSize.isSome ∧ s.remaining.getD 0 = 0
  · rw [next_of_stop cap hstop]; exact hbuf
  have hS := hv.sliceSize_pos
  have hal := avail_le hv.toBounded
  have hnext : s.next cap = s.fill cap (s.fileObj.rest.length + 1) := by
    simp only [next, Bool.and_eq_true, beq_iff_eq] at hstop ⊢
    rw [if_neg hstop]
  have hlt : s.buf.length < s.sliceSize := by simp [hbuf, hS]
  rw [hnext, fill, if_pos hlt, readChunk_full hv.toBounded hfull]
  set k := min s.sliceSize s.avail with hk
  have hlen : (s.fileObj.rest.take k).length = k := by rw [List.length_take]; omega
  by_cases hk0 : k = 0
  · simp [hk0, hbuf]
  -- the read took `k` bytes; the loop turns once more
  have hne : (s.fileObj.rest.take k).isEmpty = false := by
    cases h : s.fileObj.rest.take k
    · simp [h] at hlen; omega
    · rfl
  obtain ⟨m, hm⟩ : ∃ m, s.fileObj.rest.length = m + 1 := ⟨s.fileObj.rest.length - 1, by omega⟩
  simp only [hne, Bool.false_eq_true, if_false, hm, fill, consume_buf, hbuf, List.nil_append,
    withBuf_buf, withBuf_sliceSize, consume_sliceSize, hlen]
  by_cases hkS : k < s.sliceSize
  · -- a short last slice: nothing more may be read, so the next read is empty
    have ha : ((s.consume k).withBuf (s.fileObj.rest.take k)).avail = 0 := by
      rw [avail_withBuf, avail_consume]; omega
    have hb' := (hv.toBounded.consume k).withBuf (s.fileObj.rest.take k)
    rw [if_pos hkS, readChunk_full hb' (by simpa using hfull)]
    simp [ha, hne]
  · rw [if_neg hkS]
    simp only [withBuf_buf]
    exact List.drop_of_length_le (by omega)

theorem Iterates.buf_of_fullReads {cap : Nat → Nat} {s t : DataSlicer} {slices : List Bytes}
    (h : s.Iterates cap slices t) (hv : s.Valid) (hfull : ∀ i, s.sliceSize ≤ cap i + 1)
    (hbuf : s.buf = []) : t.buf = [] := by
  induction h with
  | stop _ => exact next_buf_of_fullReads hv hfull hbuf
  | yield hs _ ih =>
    have hv' := next_valid cap hv
    have hS := next_sliceSize cap hv
    rw [hs] at hv' hS
    exact ih hv' (hS ▸ hfull) (by simpa [hs] using next_buf_of_fullReads hv hfull hbuf)

/-- When every read returns all it is asked for, as a file on disk does,
    iterating a `DataSlicer` loses nothing: its slices are exactly the
    upload's first `total_size` bytes (all of it without a size). -/
theorem dataSlicer_fullReads_exact (c : Bytes) {sliceSize : Nat} (hS : 0 < sliceSize)
    {totalSize : Option Nat} (htotal : ∀ T ∈ totalSize, T ≤ c.length) {cap : Nat → Nat}
    (hfull : ∀ i, sliceSize ≤ cap i + 1) :
    ∃ slices t, (DataSlicer.init ⟨c, 0⟩ sliceSize totalSize).Iterates cap slices t ∧
      slices.flatten = c.take (totalSize.getD c.length) := by
  obtain ⟨slices, t, hrun, hflat, -⟩ :=
    iterates_of_valid cap _ (valid_init c hS htotal) (Nat.lt_succ_self _)
  have hbuf := hrun.buf_of_fullReads (valid_init c hS htotal) hfull rfl
  rw [hbuf, List.append_nil, pending_init] at hflat
  exact ⟨slices, t, hrun, hflat⟩

theorem sevenBytes_fullReads_exact :
    ∃ slices t, (DataSlicer.init ⟨[1, 2, 3, 4, 5, 6, 7], 0⟩ 3 (some 7)).Iterates (fun _ => 2)
      slices t ∧ slices.flatten = ([1, 2, 3, 4, 5, 6, 7] : Bytes).take 7 :=
  dataSlicer_fullReads_exact _ (by decide) (by simp) fun _ => le_refl _

end DataSlicer

end WebServer
end NimbusIo
